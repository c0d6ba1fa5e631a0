import SolanaTpuClient.Properties.Observation
import SolanaTpuClient.Properties.Progress

/-!
How a client comes back to accepting.

A submission that has been refused for want of memory or room is accepted once the polls have made
room and the memory is granted (`backpressure_lifts`), and from every state of every run a poll, an
installation and a submission that are valid and well served succeed (`client_never_wedged`): no
sequence of failures leaves a client that accepts nothing any more, as long as there are identifiers.
-/

namespace SolanaTpuClient

open Procedure Transition

/-! ### The service after polls -/

namespace Service

variable {v : Service} {m n : ℕ}

lemma deliver_zero : v.deliver 0 = v := by
  cases v
  simp [deliver]

lemma deliver_deliver : (v.deliver m).deliver n = v.deliver (m + n) := by
  cases v with
  | mk installed log delivered _ _ _ =>
      simp only [deliver, mk.injEq, true_and]
      omega

/-- A poll that has room for an event leaves room for an acceptance. -/
lemma hasRoom_deliver (hid : v.log.length + 1 < 2 ^ 64) (hn : 0 < n) : (v.deliver n).HasRoom := by
  have hle := v.delivered_le
  have hwaiting := v.waiting_le
  have hcapacity : 0 < eventQueueCapacity := by decide
  refine ⟨hid, ?_⟩
  rw [deliver_log, deliver_delivered]
  omega

/-! ### What is accepted -/

variable {request : Except Status Submission} {memory : ℕ → ℕ → Bool}
  {admission commit : Except Status UInt64} {r : Submission} {i : Installation}

/-- The topology in use serves a submission that reads the clock as `admission`: it was received
before, is as young as asked for, and its current slot can be routed. -/
structure Serves (i : Installation) (r : Submission) (admission : Except Status UInt64) : Prop where
  now : ∃ t, i.now admission = .ok t ∧ t - i.receivedNs ≤ r.maxTopologyAgeNs
  routable : i.snapshot.Routable i.snapshot.currentSlot

/-- A submission that is served, fits and finds room is recorded. -/
lemma assess_of_serves (hi : v.installed = some i) (hserves : Serves i r admission)
    (hmemory : memory (i.snapshot.resolution i.snapshot.currentSlot).length
      (i.snapshot.plan i.snapshot.currentSlot r.targetLimit).length = true)
    (hroom : v.HasRoom) {t : UInt64} (hcommit : i.now commit = .ok t) :
    v.assess (.ok r) memory admission commit
      = .ok ⟨i.snapshot.generation, i.snapshot.currentSlot, r.transaction,
          i.snapshot.targets i.snapshot.currentSlot r.targetLimit, t⟩ := by
  obtain ⟨⟨now, hnow, hage⟩, hroutable⟩ := hserves
  simp only [assess, current, hi, bind, Except.bind, hnow, settle, hcommit, hmemory, hroom,
    hroutable, UInt64.not_lt.mpr hage, not_true_eq_false, Bool.true_eq_false, or_self, if_false]
  rfl

/-- A submission that is refused for want of memory or room is served. -/
lemma serves_of_exhausted
    (h : v.assess (.ok r) memory admission commit = .error Status.resourceExhausted)
    (hadmission : ∀ i : Installation, i.now admission ≠ .error Status.resourceExhausted) :
    ∃ i, v.installed = some i ∧ Serves i r admission := by
  cases hi : v.installed with
  | none =>
      simp only [assess, current, hi, bind, Except.bind] at h
      cases h
  | some i =>
      refine ⟨i, rfl, ?_⟩
      simp only [assess, current, hi, bind, Except.bind] at h
      cases hnow : i.now admission with
      | error e =>
          rw [hnow] at h
          obtain rfl := Except.error.inj h
          exact absurd hnow (hadmission i)
      | ok t =>
          simp only [hnow] at h
          split_ifs at h with hage hroutable
          · cases h
          · exact ⟨⟨t, hnow, UInt64.not_lt.mp hage⟩, hroutable⟩
          · cases h

end Service

/-! ### Polls -/

lemma step_polled {v : Service} {op : Op} (h : op.isCall = false) :
    (v.step (commandOf op)).2 = v.deliver op.room := by
  cases op with
  | pollEvents handle events eventCapacity eventStride outEventCount =>
      rw [Op.room]
      simp only [commandOf, Service.step]
      cases handle.pass (capacityOf events eventCapacity eventStride outEventCount) with
      | error e => exact Service.deliver_zero.symm
      | ok n => rfl
  | installTopology | refreshTopology | submit => simp [Op.isCall] at h

/-- Polls do nothing but deliver. -/
lemma run_polled {v : Service} {polls : List Op} (h : ∀ op ∈ polls, op.isCall = false) :
    run Service.step v (polls.map commandOf) = v.deliver (roomOf polls) := by
  induction polls generalizing v with
  | nil => exact Service.deliver_zero.symm
  | cons op polls ih =>
      obtain ⟨hop, hpolls⟩ := List.forall_mem_cons.mp h
      rw [List.map_cons, run_cons, step_polled hop, ih hpolls, Service.deliver_deliver]
      rfl

/-! ### Submissions that are served -/

variable {M : Multiset ℕ} {s : State} {v : Service} {transaction : Option ByteMemory.Bytes}
  {length : UInt64} {options : Option (Ref SubmitOptions)} {outRequestId : Option (Ref UInt64)}

/-- The memory a submission for the snapshot `S` takes is granted, and the clock is read twice, in
order, after the time `received` and within the age the submission allows. -/
structure Answers.Serve (answers : Answers) (S : Snapshot) (received length : UInt64)
    (options : Option (Ref SubmitOptions)) : Prop where
  memory : firstFailure (allocationStages answers (S.resolution S.currentSlot).length
    (S.plan S.currentSlot (policyOf options).targetLimit).length length) = none
  admission : (answers.clock 0).status = Status.ok
  commit : (answers.clock 1).status = Status.ok
  received_le : received ≤ (answers.clock 0).timeNs
  ordered : (answers.clock 0).timeNs ≤ (answers.clock 1).timeNs
  age_le : (answers.clock 0).timeNs - received ≤ (policyOf options).maxTopologyAgeNs

lemma now_of_le {i : Installation} {a : ClockAnswer} (hok : a.status = Status.ok)
    (hle : i.receivedNs ≤ a.timeNs) : i.now a.reading = .ok a.timeNs := by
  rw [ClockAnswer.reading, if_pos hok]
  exact if_neg (UInt64.not_lt.mpr hle)

/-- Valid arguments ask for what they say. -/
lemma requested_of_none (h : firstFailure (submitArgumentStage (some Client.zero) transaction length
      outRequestId :: optionStages options) = none) :
    ∃ bytes, requested transaction length options outRequestId
      = .ok ⟨bytes, (policyOf options).maxTopologyAgeNs, (policyOf options).targetLimit⟩ := by
  rw [requested, h]
  exact ⟨_, rfl⟩

/-- Arguments are never refused for want of memory or room. -/
lemma requested_ne_exhausted :
    requested transaction length options outRequestId ≠ .error Status.resourceExhausted := by
  rw [requested]
  cases h : firstFailure (submitArgumentStage (some Client.zero) transaction length outRequestId ::
      optionStages options) with
  | none => simp
  | some e =>
      have hmem := mem_of_firstFailure h
      intro heq
      obtain rfl : e = Status.resourceExhausted := Except.error.inj heq
      simp only [submitArgumentStage, optionStages, List.mem_cons, Prod.mk.injEq, List.not_mem_nil,
        or_false] at hmem
      rcases hmem with ⟨-, h⟩ | ⟨-, h⟩ | ⟨-, h⟩ | ⟨-, h⟩ <;> exact absurd h (by decide)

/-- **A submission is accepted** if its arguments are valid, the topology in use routes its current
slot, there is room and the submission is served. -/
lemma submitted_of_serve (h : Implements M s v) {i : Installation} (hi : v.installed = some i)
    (hroutable : i.snapshot.Routable i.snapshot.currentSlot) (hroom : v.HasRoom)
    (harguments : firstFailure (submitArgumentStage (some Client.zero) transaction length
      outRequestId :: optionStages options) = none) {answers : Answers}
    (hserve : answers.Serve i.snapshot i.receivedNs length options) :
    (step s (.submit .self transaction length options outRequestId answers)).1
      = .submitted Status.ok (some s.client.data.nextRequestId) := by
  obtain ⟨bytes, hrequest⟩ := requested_of_none harguments
  have hnow := now_of_le hserve.admission hserve.received_le
  have hcommit := now_of_le hserve.commit (UInt64.le_trans hserve.received_le hserve.ordered)
  have hserves : Service.Serves i ⟨bytes, (policyOf options).maxTopologyAgeNs,
      (policyOf options).targetLimit⟩ (answers.clock 0).reading :=
    ⟨⟨_, hnow, hserve.age_le⟩, hroutable⟩
  have hassess : v.assess (.ok ⟨bytes, (policyOf options).maxTopologyAgeNs,
      (policyOf options).targetLimit⟩) (fun candidates targets =>
        (firstFailure (allocationStages answers candidates targets length)).isNone)
      (answers.clock 0).reading (answers.clock 1).reading = .ok _ :=
    Service.assess_of_serves hi hserves (by rw [hserve.memory]; rfl) hroom hcommit
  have hreply := (h.submit .self transaction length options outRequestId answers).1
  simp only [commandOf, Handle.pass, hrequest, Service.step, hassess] at hreply
  obtain ⟨hstatus, hid⟩ := Reply.submitted.inj hreply
  rw [if_pos hstatus, ← h.client.next] at hid
  exact congrArg₂ Outcome.submitted hstatus hid

/-! ### Recovery -/

/-- The identifiers of the service are not used up. -/
lemma Client.Keeps.log_succ_lt {c : Client} (h : c.Keeps v)
    (hnext : c.nextRequestId ≠ requestIdNone) : v.log.length + 1 < 2 ^ 64 := by
  have hlt := v.log_lt
  rw [h.next, ne_eq, ← UInt64.toNat_inj, UInt64.toNat_ofNat'] at hnext
  change ¬(v.log.length + 1) % 2 ^ 64 = 0 at hnext
  omega

/-- A submission that is refused for want of memory or room has valid arguments, and the topology in
use routes its current slot. -/
lemma served_of_exhausted (h : Implements M s v) {answers : Answers}
    (hclock : (answers.clock 0).status = Status.ok)
    (hstatus : (step s (.submit .self transaction length options outRequestId answers)).1.status
      = Status.resourceExhausted) :
    firstFailure (submitArgumentStage (some Client.zero) transaction length outRequestId ::
        optionStages options) = none ∧
      ∃ i, v.installed = some i ∧ i.snapshot.Routable i.snapshot.currentSlot := by
  have hreply := (h.submit .self transaction length options outRequestId answers).1
  rw [← status_replyOf (.submit .self transaction length options outRequestId answers), hreply]
    at hstatus
  simp only [commandOf, Handle.pass, Service.step] at hstatus
  have hadmission : ∀ i : Installation,
      i.now (answers.clock 0).reading ≠ .error Status.resourceExhausted := by
    intro i
    rw [ClockAnswer.reading, if_pos hclock, Installation.now]
    simp only [bind, Except.bind]
    split_ifs <;> simp [Status.internalError, Status.resourceExhausted]
  cases harguments : firstFailure (submitArgumentStage (some Client.zero) transaction length
      outRequestId :: optionStages options) with
  | none =>
      obtain ⟨bytes, hrequest⟩ := requested_of_none harguments
      rw [hrequest] at hstatus
      refine ⟨rfl, ?_⟩
      split at hstatus
      · next e he =>
          obtain rfl : e = Status.resourceExhausted := hstatus
          obtain ⟨i, hi, hserves⟩ := Service.serves_of_exhausted he hadmission
          exact ⟨i, hi, hserves.routable⟩
      · have hok : Status.ok = Status.resourceExhausted := hstatus
        exact absurd hok.symm Status.resourceExhausted_ne_ok
  | some e =>
      have hrequest : requested transaction length options outRequestId = .error e := by
        rw [requested, harguments]
      rw [hrequest] at hstatus
      have hrefused : e = Status.resourceExhausted := hstatus
      exact absurd (hrequest.trans (congrArg _ hrefused)) requested_ne_exhausted

/-- A call that does not return `OK` leaves the service the client implements. -/
lemma Implements.of_failed (h : Implements M s v) {op : Op}
    (hfailed : (step s op).1.status ≠ Status.ok) : Implements M (step s op).2 v := by
  obtain ⟨hreply, hnext⟩ := implements_step s v op trivial h
  have hquiet : (v.step (commandOf op)).1.status ≠ Status.ok := by
    rwa [← hreply, status_replyOf]
  rwa [Service.step_of_failure hquiet] at hnext

/-- **Backpressure lifts.** In every state of every run, a submission that is refused for want of
memory or room, the clock having been read, is accepted when it is made again: after the refused
call and polls that have room for an event, if its memory is then granted, the clock is read in
order and in time, and an identifier is left. -/
theorem backpressure_lifts (d : Dependencies) (before : List Op) :
    let s := run step (fresh d) before
    ∃ S, s.client.data.topology.Represents S ∧
      ∀ transaction length options outRequestId answers polls answers',
        let refused := step s (.submit .self transaction length options outRequestId answers)
        refused.1.status = Status.resourceExhausted → (answers.clock 0).status = Status.ok →
        s.client.data.nextRequestId ≠ requestIdNone →
        (∀ op ∈ polls, op.isCall = false) → 0 < roomOf polls →
        answers'.Serve S s.client.data.topology.receivedMonotonicNs length options →
        (step (run step refused.2 polls)
            (.submit .self transaction length options outRequestId answers')).1
          = .submitted Status.ok (some s.client.data.nextRequestId) := by
  intro s
  have h : Implements {0} s _ := implements_step.run (implements_fresh d) before
  generalize run Service.step Service.new (before.map commandOf) = v at h
  obtain ⟨S, hS, hin⟩ := h.client.topology.represents
  refine ⟨S, hS, ?_⟩
  intro transaction length options outRequestId answers polls answers' refused hstatus hclock hnext
    hpolls hroom hserve
  obtain ⟨harguments, i, hi, hroutable⟩ := served_of_exhausted h hclock hstatus
  obtain rfl := hin i hi
  have hreceived : s.client.data.topology.receivedMonotonicNs = i.receivedNs := by
    have htopology := h.client.topology
    rw [hi] at htopology
    cases htopology with
    | installed _ _ hreceived => exact hreceived
  have hrefused : Implements {0} refused.2 v := h.of_failed (by
    rw [hstatus]
    exact Status.resourceExhausted_ne_ok)
  have hafter : Implements {0} (run step refused.2 polls) (v.deliver (roomOf polls)) := by
    rw [← run_polled hpolls]
    exact implements_step.run hrefused polls
  have hlog := h.client.log_succ_lt hnext
  have haccepted := submitted_of_serve hafter (i := i) hi hroutable
    (Service.hasRoom_deliver hlog hroom) harguments (hreceived ▸ hserve)
  rwa [hafter.client.next, Service.deliver_log, ← h.client.next] at haccepted

/-- Calls that fill the event queue. -/
def sampleFilling : List Op := sampleInstall :: List.replicate eventQueueCapacity sampleSubmit

/-- The snapshot of the sample topology. -/
def sampleSnapshot : Snapshot := sampleTopology.val.snapshot (checked_of_validate rfl)

/-- The client they leave, evaluated once. -/
lemma sampleFilling_facts :
    let s := run step (fresh sampleDependencies) sampleFilling
    let o := s.client.data.topology
    (s.client.data.eventQueue.count = eventQueueCapacity ∧
      (step s sampleSubmit).1.status = Status.resourceExhausted ∧
      s.client.data.nextRequestId = 65 ∧ o.receivedMonotonicNs = 10) ∧
    o.view.generation = sampleSnapshot.generation ∧
    o.view.currentSlot = sampleSnapshot.currentSlot ∧
    (List.range o.view.validatorCount.toNat).map o.validator = sampleSnapshot.validators ∧
    (List.range o.view.endpointCount.toNat).map o.endpoint = sampleSnapshot.endpoints ∧
    (List.range o.view.validatorEndpointCount.toNat).map o.validatorEndpoint
      = sampleSnapshot.validatorEndpoints ∧
    (List.range o.view.leaderCount.toNat).map o.leader = sampleSnapshot.leaders := by
  decide +kernel

theorem backpressure_lifts_full :
    let s := run step (fresh sampleDependencies) sampleFilling
    s.client.data.eventQueue.count = eventQueueCapacity ∧
      (step s sampleSubmit).1.status = Status.resourceExhausted ∧
      (step (run step (step s sampleSubmit).2 [samplePoll]) sampleSubmit).1
        = .submitted Status.ok (some 65) := by
  obtain ⟨⟨hcount, hrefused, hnext, hreceived⟩, h₁, h₂, h₃, h₄, h₅, h₆⟩ := sampleFilling_facts
  obtain ⟨S, hS, hlifts⟩ := backpressure_lifts sampleDependencies sampleFilling
  obtain rfl : S = sampleSnapshot := hS.unique ⟨h₁, h₂, h₃, h₄, h₅, h₆⟩
  have haccepted := hlifts (some fun _ => 7) 3 (some (sampleRef ⟨24, 0, 1000, 4, 0⟩))
    (some (sampleRef 0)) sampleAnswers [samplePoll] sampleAnswers hrefused rfl
    (by rw [hnext]; decide) (by decide) (by decide)
    (by
      rw [hreceived]
      exact ⟨by decide, rfl, rfl, by decide, by decide, by decide⟩)
  rw [hnext] at haccepted
  exact ⟨hcount, hrefused, haccepted⟩

/-- A valid and newer topology is put in use when its copies are granted and the clock is read. -/
lemma installed_of_granted (h : Implements M s v) {r : Ref CallerTopology}
    (hvalid : topologyValidate (some r) = .ok ()) (haccepts : v.Accepts r.val.view.generation)
    {answers : Answers} (hgranted : copiesGranted r answers = true)
    (hclock : (answers.clock 0).status = Status.ok) :
    let installed := step s (.installTopology .self (some r) answers)
    installed.1 = .installed Status.ok ∧ Implements M installed.2 { v with
      installed := some ⟨r.val.snapshot (checked_of_validate hvalid), (answers.clock 0).timeNs⟩ } := by
  intro installed
  have hreceive : v.receive (offered (some r)) answers.grants (answers.clock 0).reading
      = .ok ⟨r.val.snapshot (checked_of_validate hvalid), (answers.clock 0).timeNs⟩ := by
    rw [offered_of_ok hvalid, ClockAnswer.reading, if_pos hclock]
    refine (if_neg (not_not.mpr haccepts)).trans (if_neg ?_)
    rw [arrayCount_snapshot, Bool.not_eq_false]
    exact hgranted
  obtain ⟨hreply, hnext⟩ := h.installTopology .self (some r) answers
  simp only [commandOf, Handle.pass, Service.step, hreceive] at hreply hnext
  exact ⟨congrArg Outcome.installed (Reply.installed.inj hreply), hnext⟩

/-- **A client never wedges.** From every state of every run in which an identifier is left, after
polls that have room for an event a valid topology of a newer generation is put in use as soon as
its copies are granted and the clock is read, and then a submission with valid arguments that this
topology routes is accepted as soon as it is served, whatever has failed before. -/
theorem client_never_wedged (d : Dependencies) (before polls : List Op) (r : Ref CallerTopology)
    (answers answers' : Answers) (transaction : Option ByteMemory.Bytes) (length : UInt64)
    (options : Option (Ref SubmitOptions)) (outRequestId : Option (Ref UInt64))
    (hnext : (run step (fresh d) before).client.data.nextRequestId ≠ requestIdNone)
    (hpolls : ∀ op ∈ polls, op.isCall = false) (hroom : 0 < roomOf polls)
    (hvalid : topologyValidate (some r) = .ok ())
    (hnewer : (run step (fresh d) before).client.data.AcceptsGeneration r.val.view.generation)
    (hgranted : copiesGranted r answers = true) (hclock : (answers.clock 0).status = Status.ok)
    (hroutable : (r.val.snapshot (checked_of_validate hvalid)).Routable r.val.view.currentSlot)
    (harguments : firstFailure (submitArgumentStage (some Client.zero) transaction length
      outRequestId :: optionStages options) = none)
    (hserve : answers'.Serve (r.val.snapshot (checked_of_validate hvalid)) (answers.clock 0).timeNs
      length options) :
    let s := run step (fresh d) before
    let installed := step (run step s polls) (.installTopology .self (some r) answers)
    installed.1 = .installed Status.ok ∧
      (step installed.2 (.submit .self transaction length options outRequestId answers')).1
        = .submitted Status.ok (some s.client.data.nextRequestId) := by
  intro s installed
  have h : Implements {0} s _ := implements_step.run (implements_fresh d) before
  generalize run Service.step Service.new (before.map commandOf) = v at h
  have hpolled : Implements {0} (run step s polls) (v.deliver (roomOf polls)) := by
    rw [← run_polled hpolls]
    exact implements_step.run h polls
  have haccepts : (v.deliver (roomOf polls)).Accepts r.val.view.generation :=
    (h.client.topology.accepts_iff _).mp hnewer
  obtain ⟨hinstalled, hafter⟩ := installed_of_granted hpolled hvalid haccepts hgranted hclock
  refine ⟨hinstalled, ?_⟩
  obtain ⟨hid, hplace⟩ := Service.hasRoom_deliver (h.client.log_succ_lt hnext) hroom
  have haccepted := submitted_of_serve hafter rfl hroutable ⟨hid, hplace⟩ harguments hserve
  rwa [hafter.client.next, Service.deliver_log, ← h.client.next] at haccepted

theorem client_never_wedged_sample :
    (step (step (run step (run step (fresh sampleDependencies) [sampleSubmit]) [samplePoll])
        sampleInstall).2 sampleSubmit).1 = .submitted Status.ok (some 1) :=
  (client_never_wedged sampleDependencies [sampleSubmit] [samplePoll] sampleTopology sampleAnswers
    sampleAnswers (some fun _ => 7) 3 (some (sampleRef ⟨24, 0, 1000, 4, 0⟩)) (some (sampleRef 0))
    (by decide) (by decide) (by decide) rfl (by decide) (by decide) rfl (by decide) (by decide)
    ⟨by decide, rfl, rfl, by decide, by decide, by decide⟩).2

end SolanaTpuClient
