import SolanaTpuClient.Delivery.Client

/-!
Replacing the topology in reachable states.

An installation, direct or by a refresh, is decided by its stages. It fails as the first stage that
does not hold and leaves the client as it was (`Replaces.of_failure`), or it passes them all and
puts a copy of the new topology in the place of the installed one (`Replaces.of_outcome`). A valid
topology of an accepted generation passes them when the call is served (`installable_of_accepts`).
-/

namespace SolanaTpuClient

open Procedure Transition

/-- From `s` to `s'` the topology behind `r` has taken the place of the installed one: its arrays
and its view are those of a copy, its receipt time is the reading of the clock, and all else is as
it was. -/
structure Replaced (s : State) (r : Ref CallerTopology) (answers : Answers) (s' : State) : Prop where
  hasTopology : s'.client.data.hasTopology = true
  received : s'.client.data.topology.receivedMonotonicNs = (answers.clock 0).timeNs
  copy : s'.client.data.topology.CopyOf r.val
  represents : ∃ h : r.val.Checked, s'.client.data.topology.Represents (r.val.snapshot h)
  others : s'.client = { s.client with
    data := { s.client.data with
      topology := s'.client.data.topology
      hasTopology := s'.client.data.hasTopology } }

/-- A call with the stages `stages` replaces the topology by that behind `topology`, or fails as the
first stage that does not hold and leaves the client as it was. -/
structure Replaces (s : State) (stages : List (Bool × Status))
    (topology : Option (Ref CallerTopology)) (answers : Answers) (status : Status) (s' : State) :
    Prop where
  returned : status = (firstFailure stages).getD Status.ok
  decides : status = Status.ok ↔ ∀ stage ∈ stages, stage.1 = true
  kept : status ≠ Status.ok → s'.client = s.client
  replaced : status = Status.ok → ∃ r, topology = some r ∧ Replaced s r answers s'

/-- The generation a caller topology carries. -/
def generationOf (t : Ref CallerTopology) : UInt64 := t.val.view.generation

variable {s s' : State} {stages : List (Bool × Status)} {topology : Option (Ref CallerTopology)}
  {answers : Answers}

lemma Replaces.of_failure {e : Status} (hfail : firstFailure stages = some e) (hne : e ≠ Status.ok)
    (hkept : s'.client = s.client) : Replaces s stages topology answers e s' where
  returned := by rw [hfail, Option.getD_some]
  decides :=
    ⟨fun hok => absurd hok hne, fun hall => absurd hall (not_forall_of_firstFailure hfail)⟩
  kept := fun _ => hkept
  replaced := fun hok => absurd hok hne

/-- An installation attempt that comes after stages that all hold. -/
lemma Replaces.of_outcome {r : CallResult} {M : Multiset ℕ} {ledger : Ledger}
    (h : InstallOutcome s.client.data topology M (World.start answers ledger) r)
    (hbefore : firstFailure stages = none) :
    Replaces s (stages ++ installStages (some s.client.data) topology answers) topology answers
      r.status (s.leave r.client r.world.ledger) := by
  have happend : firstFailure (stages ++ installStages (some s.client.data) topology answers)
      = firstFailure (installStages (some s.client.data) topology answers) := by
    rw [firstFailure_append, hbefore, Option.none_or]
  cases h with
  | rejected hfail hstatus hclient _ =>
      rw [hstatus, hclient]
      exact .of_failure (happend.trans hfail.stages) hfail.ne_ok rfl
  | @installed t c' hinst hstatus hclient _ =>
      rw [hstatus, hclient]
      have hnone := happend.trans hinst.stages
      refine ⟨by rw [hnone, Option.getD_none], ⟨fun _ => firstFailure_eq_none.mp hnone,
        fun _ => rfl⟩, fun hne => absurd rfl hne, fun _ => ⟨t, hinst.argument, ?_⟩⟩
      have hhas : c'.hasTopology = true := congrArg Client.hasTopology hinst.client
      refine ⟨hhas, hinst.received, hinst.copy, ⟨hinst.checked, hinst.copy.represents _⟩, ?_⟩
      have hclient' : c' = { s.client.data with
          topology := c'.topology, hasTopology := c'.hasTopology } := by
        rw [hhas]
        exact hinst.client
      exact congrArg (fun c => { s.client with data := c }) hclient'

/-- What has been installed was valid and is in place. -/
lemma replaced_of_installed (hs : s.WellFormed) {r : Ref CallerTopology}
    (h : (step s (.installTopology .self (some r) answers)).1 = .installed Status.ok) :
    topologyValidate (some r) = .ok () ∧
      Replaced s r answers (step s (.installTopology .self (some r) answers)).2 := by
  have houtcome := clientInstallTopology_cases (w := World.start answers s.ledger) hs.allocator
    hs.owns (some r)
  have hbefore : firstFailure ([] : List (Bool × Status)) = none := rfl
  have hstatus := Outcome.installed.inj h
  obtain ⟨r', hr, hreplaced⟩ := (Replaces.of_outcome houtcome hbefore).replaced hstatus
  obtain rfl := Option.some.inj hr
  refine ⟨?_, hreplaced⟩
  cases houtcome with
  | rejected hfail hst _ _ => exact absurd (hst.symm.trans hstatus) hfail.ne_ok
  | installed hinst _ _ _ => exact hinst.valid

/-! ### Topologies that can be put in use -/

/-- Without a topology every generation is accepted, `0` included. -/
lemma acceptsGeneration_of_absent {c : Client} (hno : c.hasTopology = false) (generation : UInt64) :
    c.AcceptsGeneration generation := by
  rintro ⟨hhas, -⟩
  exact absurd (hno.symm.trans hhas) Bool.false_ne_true

/-- The stages of an installation all hold when the topology is valid, its generation is accepted,
its copies are granted and the clock is read. -/
lemma installStages_eq_none {c : Client} {r : Ref CallerTopology}
    (hvalid : topologyValidate (some r) = .ok ()) (haccepts : c.AcceptsGeneration (generationOf r))
    (hgranted : copiesGranted r answers = true) (hclock : (answers.clock 0).status = Status.ok) :
    firstFailure (installStages (some c) (some r) answers) = none := by
  have haccepts' : c.AcceptsGeneration r.val.view.generation := haccepts
  simp [installStages, Status.stageOf, hvalid, haccepts', hgranted, World.clockStage, hclock]

/-- An installation whose stages all hold succeeds. -/
lemma installed_of_stages (hs : s.WellFormed)
    (h : firstFailure (installStages (some s.client.data) topology answers) = none) :
    (clientInstallTopology (some s.client.data) topology (World.start answers s.ledger)).status
      = Status.ok := by
  cases clientInstallTopology_cases (w := World.start answers s.ledger) hs.allocator hs.owns
      topology with
  | rejected hfail _ _ _ => exact absurd (hfail.stages.symm.trans h) (Option.some_ne_none _)
  | installed _ hok _ _ => exact hok

/-- In the state `s` the topology behind `r` is installed by every call that offers it, directly or
through a provider, when its copies are granted and the clock is read. -/
structure Installable (s : State) (r : Ref CallerTopology) : Prop where
  direct : ∀ answers, copiesGranted r answers = true → (answers.clock 0).status = Status.ok →
    installedBy (.installTopology .self (some r) answers)
      (step s (.installTopology .self (some r) answers)).1 = some r
  refreshed : ∀ provider acquired answers, acquired.topology = some r →
    firstFailure (acquireStages (some s.client.data) provider acquired) = none →
    copiesGranted r answers = true → (answers.clock 0).status = Status.ok →
    installedBy (.refreshTopology .self provider acquired answers)
      (step s (.refreshTopology .self provider acquired answers)).1 = some r

/-- A valid topology of an accepted generation can be put in use. -/
lemma installable_of_accepts (hs : s.WellFormed) {r : Ref CallerTopology}
    (hvalid : topologyValidate (some r) = .ok ())
    (haccepts : s.client.data.AcceptsGeneration (generationOf r)) : Installable s r := by
  have hstatus : ∀ answers, copiesGranted r answers = true →
      (answers.clock 0).status = Status.ok →
      (clientInstallTopology (some s.client.data) (some r)
        (World.start answers s.ledger)).status = Status.ok :=
    fun _ hgranted hclock =>
      installed_of_stages hs (installStages_eq_none hvalid haccepts hgranted hclock)
  constructor
  case direct => exact fun answers hgranted hclock => if_pos (hstatus answers hgranted hclock)
  case refreshed =>
    intro provider acquired answers hacquired hbefore hgranted hclock
    have h := clientRefreshTopology_cases (some s.client.data) provider acquired
      (World.start answers s.ledger)
    simp only [step, State.behind]
    generalize clientRefreshTopology (some s.client.data) provider acquired
      (World.start answers s.ledger) = result at h
    obtain ⟨result, calls⟩ := result
    cases h with
    | stopped hfail _ => exact absurd (hfail.symm.trans hbefore) (Option.some_ne_none _)
    | attempted _ htopology =>
        obtain rfl := Option.some.inj (htopology.symm.trans hacquired)
        exact (if_pos (hstatus answers hgranted hclock)).trans hacquired

/-- **A topology is replaced as a whole or not at all.** In every reachable state an installation,
and a refresh after its own stages, returns the status of the first stage that does not hold and
`OK` exactly when all hold: the client pointer is not null, the topology is valid, its generation
exceeds that of the installed topology if there is one, every copy it needs is allocated and the
clock can be read. A call that does not return `OK` leaves the client as it was; one that does
replaces the topology and its receipt time and nothing else. -/
theorem topology_replaced_atomically (d : Dependencies) (ops : List Op) (handle : Handle)
    (answers : Answers) :
    let s := run step (fresh d) ops
    (∀ topology, ∃ status s',
      step s (.installTopology handle topology answers) = (.installed status, s') ∧
        Replaces s (installStages (s.behind handle) topology answers) topology answers status s') ∧
    ∀ provider acquired, ∃ status calls s',
      step s (.refreshTopology handle provider acquired answers)
        = (.refreshed status calls, s') ∧
        Replaces s (acquireStages (s.behind handle) provider acquired ++
          installStages (s.behind handle) acquired.topology answers) acquired.topology answers
          status s' := by
  intro s
  have hs : s.WellFormed := wellFormed_run d ops
  have hinstall : ∀ topology, InstallOutcome s.client.data topology {s.client.id}
      (World.start answers s.ledger) _ := clientInstallTopology_cases hs.allocator hs.owns
  constructor
  · intro topology
    refine ⟨_, _, rfl, ?_⟩
    cases handle with
    | null => exact .of_failure rfl Status.invalidArgument_ne_ok rfl
    | self =>
        have hbefore : firstFailure ([] : List (Bool × Status)) = none := rfl
        exact .of_outcome (hinstall topology) hbefore
  · intro provider acquired
    refine ⟨_, _, _, rfl, ?_⟩
    cases handle with
    | null => exact .of_failure rfl Status.invalidArgument_ne_ok rfl
    | self =>
        have h := clientRefreshTopology_cases (some s.client.data) provider acquired
          (World.start answers s.ledger)
        simp only [State.behind]
        generalize clientRefreshTopology (some s.client.data) provider acquired
          (World.start answers s.ledger) = r at h
        obtain ⟨r, calls⟩ := r
        cases h with
        | stopped hfail hne =>
            refine .of_failure ?_ hne rfl
            rw [firstFailure_append, hfail, Option.some_or]
        | attempted hbefore htopology =>
            rw [htopology]
            exact .of_outcome (hinstall _) hbefore

end SolanaTpuClient
