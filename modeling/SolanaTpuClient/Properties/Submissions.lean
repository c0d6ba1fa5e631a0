import SolanaTpuClient.Delivery.Client

/-!
Submissions in reachable states.

A submission is decided by its stages: the arguments, the options, the admission, the routing, the
five allocations, the identifier and the commit, in this order (`submission_decides`). The checks
it makes besides, which compare the results of its sizing and its filling calls, always hold
(`submissionConsistent`). A submission that is rejected leaves the client as it was
(`submission_failure_atomic`).
-/

namespace SolanaTpuClient

open ByteMemory FirstOccurrence Procedure Transition

/-! ### The consistency checks -/

/-- The checks of a submission on the routes of `n` candidates: the sizing call of the planner asks
for some targets, not more than there are distinct ones, the call on an array of that size fills it
with the same counts, and every route can be looked up. -/
def RoutesConsistent (c : Client) (limit n : ℕ) (candidates : List TopologyCandidate) : Prop :=
  ∃ targetCount uniqueCount, targetCount ≠ 0 ∧ targetCount ≤ uniqueCount ∧
    planRoutes (some candidates) n limit none 0 (some 0) (some 0)
      = ⟨Status.resourceExhausted, some targetCount, some uniqueCount, none⟩ ∧
    ∀ buffer, buffer.length = targetCount → ∃ routes,
      planRoutes (some candidates) n limit (some buffer) targetCount (some 0) (some 0)
        = ⟨Status.ok, some targetCount, some uniqueCount, some routes⟩ ∧
      ∀ targets, targets.length = targetCount →
        ∃ filled, materializeTargets c (some routes) targetCount (some targets) = .ok filled

/-- The checks for inconsistency that a submission with the target limit `limit` makes on the way
all hold. -/
structure SubmissionConsistent (c : Client) (limit : ℕ) : Prop where
  candidates :
    let sizing := resolveSlot (some c) c.topology.view.currentSlot none 0 (some 0)
    sizing.status = Status.resourceExhausted →
      ∃ n, n ≠ 0 ∧ sizing.outCount = some n ∧ ∀ buffer, buffer.length = n → ∃ candidates,
        resolveSlot (some c) c.topology.view.currentSlot (some buffer) n (some 0)
          = ⟨Status.ok, some n, some candidates⟩ ∧
        RoutesConsistent c limit n candidates
  queue : eventQueueHasCapacity (some c) = true →
    ∀ event, ∃ c', eventQueuePush (some c) (some event) = .ok c'

variable {c : Client} {S : Snapshot} {slot : UInt64} {limit : ℕ}

lemma routesConsistent (hS : c.topology.Represents S) (hr : S.Routable slot) (hlimit : limit ≠ 0) :
    RoutesConsistent c limit (S.resolution slot).length (S.resolution slot) := by
  refine ⟨(S.plan slot limit).length,
    (firstsBy TopologyCandidate.target (S.resolution slot)).length, plan_length_ne_zero hr hlimit,
    plan_length_le, planRoutes_sizing hr hlimit, ?_⟩
  intro buffer hbuffer
  refine ⟨_, planRoutes_filling hr hlimit hbuffer, ?_⟩
  intro targets htargets
  exact ⟨_, materializeTargets_eq hS (Snapshot.plan_ne_nil hlimit hr) htargets⟩

/-- On a client whose topology represents a snapshot no consistency check fires. -/
lemma submissionConsistent (hS : c.topology.Represents S) (hlimit : limit ≠ 0) :
    SubmissionConsistent c limit where
  candidates := by
    intro sizing hstatus
    by_cases htop : c.hasTopology = true
    · by_cases hr : S.Routable c.topology.view.currentSlot
      · have hne : (S.resolution c.topology.view.currentSlot).length ≠ 0 :=
          mt List.eq_nil_of_length_eq_zero (Snapshot.resolution_ne_nil.mpr hr)
        have hsizing : sizing = _ := resolveSlot_sizing htop hS hr
        refine ⟨_, hne, congrArg ResolveResult.outCount hsizing, ?_⟩
        intro buffer hbuffer
        exact ⟨_, resolveSlot_filling htop hS hr hbuffer, routesConsistent hS hr hlimit⟩
      · have hsizing : sizing = _ := resolveSlot_of_not_routable htop hS hr (Or.inl rfl)
        have hunavailable : sizing.status = Status.topologyUnavailable :=
          congrArg ResolveResult.status hsizing
        rw [hunavailable] at hstatus
        exact absurd hstatus (by decide)
    · have hunavailable : sizing.status = Status.topologyUnavailable := by
        have hno : c.hasTopology = false := by simpa using htop
        simp [sizing, resolveSlot, hno]
      rw [hunavailable] at hstatus
      exact absurd hstatus (by decide)
  queue := by
    intro hroom event
    exact ⟨_, eventQueuePush_of_lt event (eventQueueHasCapacity_iff.mp hroom)⟩

/-! ### The decision -/

variable {answers : Answers}

/-- The only stages that fail with `INTERNAL_ERROR` are those of the clock. -/
lemma clock_of_internalError {client : Option Client} {transactionBytes : Option Bytes}
    {length : UInt64} {options : Option (Ref SubmitOptions)} {outRequestId : Option (Ref UInt64)}
    (h : (false, Status.internalError) ∈
      submitArgumentStage client transactionBytes length outRequestId ::
        submitStages S c length options answers) :
    ∃ k < 2, (answers.clock k).status = Status.internalError ∨
      (answers.clock k).timeNs < c.topology.receivedMonotonicNs := by
  simp only [submitArgumentStage, submitStages, optionStages, admissionStages, routingStage,
    bodyStages, allocationStages, allocationStage, identifierStage, commitStages, World.clockStage,
    List.cons_append, List.nil_append, List.mem_cons, Prod.mk.injEq, List.not_mem_nil,
    Status.internalError_ne_invalidArgument, Status.internalError_ne_unsupported,
    Status.internalError_ne_topologyUnavailable, Status.internalError_ne_topologyStale,
    Status.internalError_ne_resourceExhausted, and_false, or_false, false_or, and_true] at h
  rcases h with ⟨-, h⟩ | h | ⟨-, h⟩ | h
  · exact ⟨0, by omega, Or.inl h.symm⟩
  · exact ⟨0, by omega, Or.inr (by simpa using h.symm)⟩
  · exact ⟨1, by omega, Or.inl h.symm⟩
  · exact ⟨1, by omega, Or.inr (by simpa using h.symm)⟩

/-- The ways a submission goes in a state with the invariant, through any pointer to the client. -/
inductive SubmissionCase (s : State) (S : Snapshot) (handle : Handle)
    (transactionBytes : Option Bytes) (transactionLength : UInt64)
    (options : Option (Ref SubmitOptions)) (outRequestId : Option (Ref UInt64)) (answers : Answers)
    (status : Status) (out : Option UInt64) (s' : State) : Prop where
  | rejected :
      firstFailure (submitArgumentStage (s.behind handle) transactionBytes transactionLength
        outRequestId :: submitStages S s.client.data transactionLength options answers)
          = some status →
      status ≠ Status.ok → s'.client = s.client → out = clearedRequestId outRequestId →
      SubmissionCase s S handle transactionBytes transactionLength options outRequestId answers
        status out s'
  | accepted {bytes : Bytes} {id : UInt64} {c' : Client} :
      firstFailure (submitArgumentStage (s.behind handle) transactionBytes transactionLength
        outRequestId :: submitStages S s.client.data transactionLength options answers) = none →
      status = Status.ok → s'.client = { s.client with data := c' } → out = some id →
      SubmitAccepted s.client.data S bytes transactionLength (policyOf options).targetLimit
        (answers.clock 1).timeNs id c' →
      SubmissionCase s S handle transactionBytes transactionLength options outRequestId answers
        status out s'

lemma submission_cases {s : State} (hs : s.WellFormed) (hS : s.client.data.topology.Represents S)
    (handle : Handle) (transactionBytes : Option Bytes) (transactionLength : UInt64)
    (options : Option (Ref SubmitOptions)) (outRequestId : Option (Ref UInt64))
    (answers : Answers) :
    ∃ status out s', step s (.submit handle transactionBytes transactionLength options outRequestId
        answers) = (.submitted status out, s') ∧
      SubmissionCase s S handle transactionBytes transactionLength options outRequestId answers
        status out s' := by
  refine ⟨_, _, _, rfl, ?_⟩
  cases handle with
  | null =>
      have hnull := clientSubmit_null transactionBytes transactionLength options outRequestId
        (World.start answers s.ledger)
      simp only [State.behind, hnull]
      refine .rejected ?_ Status.invalidArgument_ne_ok rfl rfl
      simp [submitArgumentStage, State.behind]
  | self =>
      have hcases : SubmitOutcome S s.client.data {s.client.id} transactionBytes transactionLength
          options outRequestId answers _ :=
        clientSubmit_cases hS hs.owns transactionBytes transactionLength options outRequestId
      simp only [State.behind]
      generalize clientSubmit (some s.client.data) transactionBytes transactionLength options
        outRequestId (World.start answers s.ledger) = r at hcases
      cases hcases with
      | rejected hfail hne hstatus hclient hout _ =>
          rw [hstatus, hclient, hout]
          exact .rejected hfail hne rfl rfl
      | accepted hnone hstatus hclient hout _ _ haccepted _ =>
          rw [hstatus, hclient, hout]
          exact .accepted hnone rfl rfl rfl haccepted

/-- **A submission decides by its stages.** In every reachable state a submission returns the status
of the first of its stages that does not hold, and `OK` exactly when all hold. None of its checks
for inconsistency fires: whatever positive limit it is given they hold, and it returns
`INTERNAL_ERROR` only when the clock does or runs behind the receipt time. -/
theorem submission_decides (d : Dependencies) (ops : List Op) :
    let s := run step (fresh d) ops
    let c := s.client.data
    ∃ S, c.topology.Represents S ∧
      (∀ handle transactionBytes transactionLength options outRequestId answers,
        let stages := submitArgumentStage (s.behind handle) transactionBytes transactionLength
          outRequestId :: submitStages S c transactionLength options answers
        ∃ status out s', step s (.submit handle transactionBytes transactionLength options
            outRequestId answers) = (.submitted status out, s') ∧
          status = (firstFailure stages).getD Status.ok ∧
          (status = Status.ok ↔ ∀ stage ∈ stages, stage.1 = true) ∧
          (status = Status.internalError →
            ∃ k < 2, (answers.clock k).status = Status.internalError ∨
              (answers.clock k).timeNs < c.topology.receivedMonotonicNs)) ∧
      ∀ limit, limit ≠ 0 → SubmissionConsistent c limit := by
  intro s c
  have hs : s.WellFormed := wellFormed_run d ops
  obtain ⟨S, hS⟩ := hs.topology.represents
  refine ⟨S, hS, ?_, fun limit hlimit => submissionConsistent hS hlimit⟩
  intro handle transactionBytes transactionLength options outRequestId answers stages
  obtain ⟨status, out, s', hstep, hcase⟩ := submission_cases hs hS handle transactionBytes
    transactionLength options outRequestId answers
  refine ⟨status, out, s', hstep, ?_⟩
  cases hcase with
  | rejected hfail hne _ _ =>
      refine ⟨by rw [hfail, Option.getD_some], ⟨fun hok => absurd hok hne,
        fun hall => absurd hall (not_forall_of_firstFailure hfail)⟩, ?_⟩
      rintro rfl
      exact clock_of_internalError (mem_of_firstFailure hfail)
  | accepted hnone hok _ _ _ =>
      refine ⟨by rw [hnone, Option.getD_none, hok], ⟨fun _ => firstFailure_eq_none.mp hnone,
        fun _ => hok⟩, fun hinternal => ?_⟩
      exact absurd (hinternal.symm.trans hok) Status.internalError_ne_ok

/-- **A submission is failure-atomic.** In every reachable state a submission that does not return
`OK` leaves the client as it was and clears `*out_request_id` when it can be written. One that
returns `OK` prepends one request, appends one event to the pending ones and advances the next
identifier once, and leaves the topology alone. -/
theorem submission_failure_atomic (d : Dependencies) (ops : List Op) (handle : Handle)
    (transactionBytes : Option Bytes) (transactionLength : UInt64)
    (options : Option (Ref SubmitOptions)) (outRequestId : Option (Ref UInt64))
    (answers : Answers) :
    let s := run step (fresh d) ops
    let c := s.client.data
    ∃ status out s', step s (.submit handle transactionBytes transactionLength options outRequestId
        answers) = (.submitted status out, s') ∧
      (status ≠ Status.ok → s'.client = s.client ∧
        (pointerIsAlignedFor outRequestId 8 = true → out = some requestIdNone)) ∧
      (status = Status.ok → ∃ request event, ∃ c' : Client,
        s'.client = { s.client with data := c' } ∧
        c'.requestHead = request :: c.requestHead ∧
        c'.eventQueue.pending = c.eventQueue.pending ++ [event] ∧
        c'.eventQueue.count = c.eventQueue.count + 1 ∧
        c'.nextRequestId = advanceRequestId c.nextRequestId ∧
        c'.topology = c.topology ∧ c'.hasTopology = c.hasTopology ∧
        out = some c.nextRequestId ∧ request.data.requestId = c.nextRequestId ∧
        event.requestId = c.nextRequestId ∧ c.nextRequestId ≠ requestIdNone) := by
  intro s c
  have hs : s.WellFormed := wellFormed_run d ops
  obtain ⟨S, hS⟩ := hs.topology.represents
  obtain ⟨status, out, s', hstep, hcase⟩ := submission_cases hs hS handle transactionBytes
    transactionLength options outRequestId answers
  refine ⟨status, out, s', hstep, ?_⟩
  cases hcase with
  | rejected _ hne hclient hout =>
      refine ⟨fun _ => ⟨hclient, fun haligned => ?_⟩, fun hok => absurd hok hne⟩
      rw [hout, clearedRequestId, if_neg (by simp [haligned])]
  | accepted _ hok hclient hout haccepted =>
      refine ⟨fun hne => absurd hok hne, fun _ => ?_⟩
      obtain ⟨request, rfl, hrecords⟩ := haccepted.client
      have hid := haccepted.id_eq
      have hpush := EventQueue.push_pending
        (acceptedEvent c.nextRequestId (answers.clock 1).timeNs)
        (eventQueueHasCapacity_iff.mp haccepted.room)
      exact ⟨request, _, _, hclient, rfl, hpush, rfl, rfl, rfl, rfl, by rw [hout, hid],
        hrecords.requestId.trans hid, rfl, hid ▸ haccepted.id_ne_none⟩

end SolanaTpuClient
