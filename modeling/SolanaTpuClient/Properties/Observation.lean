import SolanaTpuClient.Spec.Symmetry
import SolanaTpuClient.Properties.Refinement
import SolanaTpuClient.Properties.Cadence

/-!
What the replies of a run depend on.

By the refinement these are questions about the service, which leaves most of the memory of a client
out. Calls that fail can be taken out of a run (`failed_calls_invisible`); what is installed depends
on the installations alone (`installations_independent`); the bytes of the transactions are not
looked at (`transaction_bytes_opaque`), and times only as far as they differ
(`clock_origin_irrelevant`).
-/

namespace SolanaTpuClient

open ByteMemory Procedure Transition

/-- The replies of a run, oldest first. -/
def replies (h : List Step) : List Reply := translated replyOf h

variable {M : Multiset ℕ} {s s' : State} {v : Service}

/-- From states that hold the same service every run is answered alike. -/
lemma replies_congr {M' : Multiset ℕ} (h : Implements M s v) (h' : Implements M' s' v)
    (ops : List Op) : replies (history step s ops) = replies (history step s' ops) :=
  (implements_step.outputs h ops).trans (implements_step.outputs h' ops).symm

/-- Runs of a created client whose commands are answered alike. -/
lemma replies_fresh (d : Dependencies) (ops : List Op) :
    replies (history step (fresh d) ops)
      = outputs Service.step Service.new (ops.map commandOf) :=
  implements_step.outputs (implements_fresh d) ops

/-! ### Failed calls -/

/-- The status a call returns. -/
def Outcome.status : Outcome → Status
  | .installed status => status
  | .refreshed status _ => status
  | .submitted status _ => status
  | .polled status _ _ => status

lemma status_replyOf (op : Op) (o : Outcome) : (replyOf op o).status = o.status := by
  cases o <;> rfl

/-- The call has not returned `OK`. -/
def Outcome.failed (o : Outcome) : Bool := o.status != Status.ok

/-- The command has not been answered with `OK`. -/
def Reply.failed (r : Reply) : Bool := r.status != Status.ok

/-- **Failed calls are invisible.** Taking every call that does not return `OK` out of a run leaves
the replies of the other calls as they are and the client with the same topology, requests,
identifiers and events, so that whatever is called afterwards is answered as if the failed calls had
been made. -/
theorem failed_calls_invisible (d : Dependencies) (ops : List Op) :
    let kept := loud step Outcome.failed (fresh d) ops
    replies (history step (fresh d) kept)
        = (replies (history step (fresh d) ops)).filter (fun r => r.status == Status.ok) ∧
      (∃ v, (run step (fresh d) kept).client.data.Keeps v ∧
        (run step (fresh d) ops).client.data.Keeps v) ∧
      ∀ later, replies (history step (run step (fresh d) kept) later)
        = replies (history step (run step (fresh d) ops) later) := by
  intro kept
  have hquiet : ∀ v command, (Service.step v command).1.failed = true →
      (Service.step v command).2 = v := by
    intro v command hfailed
    exact Service.step_of_failure (by simpa [Reply.failed] using hfailed)
  have hkept : kept.map commandOf = loud Service.step Reply.failed Service.new (ops.map commandOf) :=
    implements_step.loud (fun op o => by rw [Reply.failed, Outcome.failed, status_replyOf])
      (implements_fresh d) ops
  have hrun : Implements {0} (run step (fresh d) ops) _ := implements_step.run (implements_fresh d) ops
  have hrun' : Implements {0} (run step (fresh d) kept)
      (run Service.step Service.new (ops.map commandOf)) := by
    rw [← run_loud hquiet, ← hkept]
    exact implements_step.run (implements_fresh d) kept
  refine ⟨?_, ⟨_, hrun'.client, hrun.client⟩, replies_congr hrun' hrun⟩
  rw [replies_fresh, replies_fresh, hkept, outputs_loud hquiet]
  congr 1
  funext r
  simp [Reply.failed, bne]

/-! ### Installations -/

/-- A call that may replace the topology. -/
def Op.installs : Op → Bool
  | .installTopology .. => true
  | .refreshTopology .. => true
  | _ => false

/-- A command that may replace the topology. -/
def Command.installs : Command → Bool
  | .install .. => true
  | _ => false

lemma installs_commandOf (op : Op) : (commandOf op).installs = op.installs := by
  cases op <;> rfl

/-- A command that does not install leaves the topology in use. -/
lemma step_installed_of_hidden (v : Service) (command : Command) (h : command.installs = false) :
    (v.step command).2.installed = v.installed := by
  cases command with
  | install offer memory clock => cases h
  | submit request memory admission commit =>
      rw [Service.step]
      cases v.assess request memory admission commit with
      | error e => rfl
      | ok a => exact Service.record_installed
  | poll capacity => cases capacity <;> rfl

/-- An installation depends on the topology in use alone. -/
lemma step_installed_of_visible (v v' : Service) (command : Command) (h : command.installs = true)
    (hv : v.installed = v'.installed) :
    (v.step command).1 = (v'.step command).1 ∧
      (v.step command).2.installed = (v'.step command).2.installed := by
  cases command with
  | install offer memory clock =>
      have haccepts : ∀ generation, v.Accepts generation ↔ v'.Accepts generation := by
        intro generation
        rw [Service.Accepts, Service.Accepts, hv]
      have hreceive : v.receive offer memory clock = v'.receive offer memory clock := by
        simp only [Service.receive, haccepts]
      simp only [Service.step, hreceive]
      cases v'.receive offer memory clock with
      | error e => exact ⟨rfl, hv⟩
      | ok i => exact ⟨rfl, rfl⟩
  | submit request memory admission commit => cases h
  | poll capacity => cases h

/-- **Installations are independent of what is submitted and polled.** The installations and
refreshes of a run are answered as in the run that consists of them alone, which ends with the same
topology in use. -/
theorem installations_independent (d : Dependencies) (ops : List Op) :
    let alone := ops.filter Op.installs
    replies ((history step (fresh d) ops).filter fun e => e.input.installs)
        = replies (history step (fresh d) alone) ∧
      ∃ i, (run step (fresh d) ops).client.data.InUse i ∧
        (run step (fresh d) alone).client.data.InUse i := by
  intro alone
  obtain ⟨hreplies, hinstalled⟩ := noninterference step_installed_of_hidden
    step_installed_of_visible (rfl : Service.new.installed = _) (ops.map commandOf)
  have halone : (ops.map commandOf).filter Command.installs = alone.map commandOf := by
    rw [List.filter_map]
    congr 2
    funext op
    exact installs_commandOf op
  rw [halone] at hreplies hinstalled
  refine ⟨?_, _, (implements_step.run (implements_fresh d) ops).client.topology, ?_⟩
  · rw [replies_fresh, ← hreplies]
    exact implements_step.visibleOutputs installs_commandOf (implements_fresh d) ops
  · rw [hinstalled]
    exact (implements_step.run (implements_fresh d) alone).client.topology

/-! ### Transactions and times -/

/-- What the relabelled commands of a run are answered with. -/
lemma replies_relabel (ρ : Relabelling) (d : Dependencies) {ops : List Op}
    (hfits : ∀ op ∈ ops, ρ.FitsCommand (commandOf op)) :
    (replies (history step (fresh d) ops)).map ρ.reply
      = outputs Service.step Service.new (ops.map fun op => ρ.command (commandOf op)) := by
  have hstart : ρ.Related Service.new Service.new := ⟨rfl, by simp [Service.new]⟩
  have hcommands : ∀ command ∈ ops.map commandOf, ρ.FitsCommand command := by
    intro command hcommand
    obtain ⟨op, hop, rfl⟩ := List.mem_map.mp hcommand
    exact hfits op hop
  have h := (Relabelling.relabel_simulates ρ).outputs hstart hcommands
  rw [translated_const, List.map_map] at h
  rw [replies_fresh]
  exact h

/-- The relabelling that forgets the bytes of the transactions. -/
def forgetful : Relabelling := ⟨fun _ => [], 0⟩

lemma forgetful_event (e : Event) : forgetful.event e = e := by
  simp [Relabelling.event, Relabelling.time, forgetful]

lemma forgetful_fits (command : Command) : forgetful.FitsCommand command := by
  have h : ∀ t : UInt64, forgetful.Fits t := fun t => t.toNat_lt
  cases command with
  | install offer memory clock => exact fun t _ => h t
  | submit request memory admission commit => exact ⟨fun t _ => h t, fun t _ => h t⟩
  | poll capacity => trivial

lemma forgetful_reply (r : Reply) : forgetful.reply r = r := by
  cases r with
  | polled status events =>
      rw [Relabelling.reply, funext forgetful_event, List.map_id']
  | _ => rfl

/-- A call with other bytes in its transaction. -/
def Op.withBytes (f : Bytes → Bytes) : Op → Op
  | .submit handle transactionBytes transactionLength options outRequestId answers =>
      .submit handle (transactionBytes.map f) transactionLength options outRequestId answers
  | op => op

lemma forgetful_withBytes (f : Bytes → Bytes) (op : Op) :
    forgetful.command (commandOf (op.withBytes f)) = forgetful.command (commandOf op) := by
  cases op with
  | submit handle transactionBytes transactionLength options outRequestId answers =>
      have hstage : submitArgumentStage (some Client.zero) (transactionBytes.map f) transactionLength
            outRequestId
          = submitArgumentStage (some Client.zero) transactionBytes transactionLength outRequestId := by
        simp [submitArgumentStage]
      have hrequested : forgetful.submission <$>
            requested (transactionBytes.map f) transactionLength options outRequestId
          = forgetful.submission <$>
            requested transactionBytes transactionLength options outRequestId := by
        rw [requested, requested, hstage]
        split <;> rfl
      cases handle with
      | null => rfl
      | self =>
          simp only [Op.withBytes, commandOf, Handle.pass, Relabelling.command, hrequested]
  | _ => rfl

/-- **The bytes of transactions are opaque.** Putting other bytes of the same length in place of
those of every submission of a run, anyhow for each, leaves every reply as it is: which submissions
are accepted, their identifiers, and every event. -/
theorem transaction_bytes_opaque (d : Dependencies) (ops : List Op) (f : ℕ → Bytes → Bytes) :
    replies (history step (fresh d) (ops.mapIdx fun k op => op.withBytes (f k)))
      = replies (history step (fresh d) ops) := by
  have hforget : ∀ ops : List Op, replies (history step (fresh d) ops)
      = outputs Service.step Service.new (ops.map fun op => forgetful.command (commandOf op)) := by
    intro ops
    rw [← replies_relabel forgetful d fun op _ => forgetful_fits _, funext forgetful_reply,
      List.map_id']
  rw [hforget, hforget]
  congr 1
  refine List.ext_getElem (by simp) fun k _ _ => ?_
  simp [forgetful_withBytes]

/-- The answers of a clock that is ahead by `delay`. -/
def Answers.delayed (delay : UInt64) (answers : Answers) : Answers :=
  { answers with
    clock := fun k => { answers.clock k with timeNs := (answers.clock k).timeNs + delay } }

/-- A call that meets a clock that is ahead by `delay`. -/
def Op.delayed (delay : UInt64) : Op → Op
  | .installTopology handle topology answers =>
      .installTopology handle topology (answers.delayed delay)
  | .refreshTopology handle provider acquired answers =>
      .refreshTopology handle provider acquired (answers.delayed delay)
  | .submit handle transactionBytes transactionLength options outRequestId answers =>
      .submit handle transactionBytes transactionLength options outRequestId
        (answers.delayed delay)
  | .pollEvents handle events eventCapacity eventStride outEventCount =>
      .pollEvents handle events eventCapacity eventStride outEventCount

/-- The relabelling that only delays. -/
def delaying (delay : UInt64) : Relabelling := ⟨id, delay⟩

lemma reading_delayed (delay : UInt64) (answers : Answers) (k : ℕ) :
    ((answers.delayed delay).clock k).reading
      = (delaying delay).time <$> (answers.clock k).reading := by
  by_cases hok : (answers.clock k).status = Status.ok
  · simp only [ClockAnswer.reading, Answers.delayed, hok, if_true, Except.map_ok]
    rfl
  · simp only [ClockAnswer.reading, Answers.delayed, hok, if_false, Except.map_error]

lemma commandOf_delayed (delay : UInt64) (op : Op) :
    commandOf (op.delayed delay) = (delaying delay).command (commandOf op) := by
  have hsame : ∀ request : Except Status Submission,
      (delaying delay).submission <$> request = request := by
    intro request
    cases request <;> rfl
  cases op with
  | pollEvents => rfl
  | submit handle transactionBytes transactionLength options outRequestId answers =>
      simp only [Op.delayed, commandOf, Relabelling.command, reading_delayed, hsame]
      rfl
  | _ =>
      simp only [Op.delayed, commandOf, Relabelling.command, reading_delayed]
      rfl

/-- The readings of the clock that a call may use can be delayed. -/
def Op.FitsDelay (delay : UInt64) (op : Op) : Prop :=
  ∀ answers ∈ op.answers, ∀ k < 2, (answers.clock k).timeNs.toNat + delay.toNat < 2 ^ 64

lemma Op.FitsDelay.command {delay : UInt64} {op : Op} (h : op.FitsDelay delay) :
    (delaying delay).FitsCommand (commandOf op) := by
  have hreading : ∀ answers ∈ op.answers, ∀ k < 2, ∀ t, (answers.clock k).reading = .ok t →
      (delaying delay).Fits t := by
    intro answers hanswers k hk t ht
    rw [ClockAnswer.reading] at ht
    split_ifs at ht
    obtain rfl := Except.ok.inj ht
    exact h answers hanswers k hk
  cases op with
  | installTopology handle topology answers => exact hreading answers rfl 0 (by decide)
  | refreshTopology handle provider acquired answers => exact hreading answers rfl 0 (by decide)
  | submit handle transactionBytes transactionLength options outRequestId answers =>
      exact ⟨hreading answers rfl 0 (by decide), hreading answers rfl 1 (by decide)⟩
  | pollEvents handle events eventCapacity eventStride outEventCount => trivial

/-- **The origin of the clock is irrelevant.** A run in which every reading of the clock comes later
by the same delay, none of them passing the end of its 64 bits, is answered as without the delay:
the same statuses, identifiers and events, but for the times of the events, which are delayed. -/
theorem clock_origin_irrelevant (d : Dependencies) (delay : UInt64) (ops : List Op)
    (hfits : ∀ op ∈ ops, op.FitsDelay delay) :
    replies (history step (fresh d) (ops.map (Op.delayed delay)))
      = (replies (history step (fresh d) ops)).map (delaying delay).reply := by
  rw [replies_relabel (delaying delay) d fun op hop => (hfits op hop).command, replies_fresh,
    List.map_map]
  congr 1
  exact List.map_congr_left fun op _ => commandOf_delayed delay op

theorem clock_origin_irrelevant_sample :
    replies (history step (fresh sampleDependencies)
        ([sampleInstall, sampleSubmit, samplePoll].map (Op.delayed 90)))
      = (replies (history step (fresh sampleDependencies)
          [sampleInstall, sampleSubmit, samplePoll])).map (delaying 90).reply :=
  clock_origin_irrelevant sampleDependencies 90 [sampleInstall, sampleSubmit, samplePoll] (by
    have hsample : ∀ answers ∈ some sampleAnswers, ∀ k < 2,
        (answers.clock k).timeNs.toNat + (90 : UInt64).toNat < 2 ^ 64 := by
      rintro answers hanswers k -
      obtain rfl := Option.some.inj hanswers
      change (10 : UInt64).toNat + (90 : UInt64).toNat < 2 ^ 64
      decide
    refine List.forall_mem_cons.mpr ⟨hsample, List.forall_mem_cons.mpr ⟨hsample, ?_⟩⟩
    exact List.forall_mem_cons.mpr ⟨by rintro answers ⟨⟩, by simp⟩)

end SolanaTpuClient
