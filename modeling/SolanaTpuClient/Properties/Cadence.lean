import SolanaTpuClient.Lib.Coupling
import SolanaTpuClient.Properties.Events
import SolanaTpuClient.Properties.Snapshots

/-!
Polling cadence.

A call other than a poll sees the event queue only at the capacity check of a submission. Started
in two states that differ in their queues alone, both with room where it matters, it goes the same
way and appends the same events (`step_twin`). So a run that never finds the queue full does what
its calls do on a client that is polled empty after every call (`followsCalls_run`), and two runs
with the same calls do the same.
-/

namespace SolanaTpuClient

open ByteMemory Procedure Transition

/-! ### States that differ in their queues -/

/-- The client with another queue. -/
def Client.withQueue (c : Client) (q : EventQueue) : Client := { c with eventQueue := q }

/-- `s'` is `s` with the queue `q'` in the place of `q`. -/
def CallState.Twin (q q' : EventQueue) (s s' : CallState) : Prop :=
  s.client.eventQueue = q ∧ s' = { s with client := s.client.withQueue q' }

/-- `f'` is `f` with the queue `q'` in the place of `q`. -/
def SubmitFrame.Twin (q q' : EventQueue) (f f' : SubmitFrame) : Prop :=
  f.client.eventQueue = q ∧ f' = { f with client := f.client.withQueue q' }

/-- `p` and `p'` are `q` and `q'` after the same events have been appended. -/
def SameAppended (q q' p p' : EventQueue) : Prop :=
  ∃ events, p.pending = q.pending ++ events ∧ p'.pending = q'.pending ++ events

variable {α : Type} {c : Client} {q q' : EventQueue} {s s' : CallState} {f f' : SubmitFrame}

lemma SameAppended.refl (q q' : EventQueue) : SameAppended q q' q q' :=
  ⟨[], (List.append_nil _).symm, (List.append_nil _).symm⟩

lemma SameAppended.push (hroom : q.count < eventQueueCapacity)
    (hroom' : q'.count < eventQueueCapacity) (event : Event) :
    SameAppended q q' (q.push event) (q'.push event) :=
  ⟨[event], EventQueue.push_pending event hroom, EventQueue.push_pending event hroom'⟩

lemma evaluateSubmissionPolicy_withQueue (policy : Option SubmissionPolicy) :
    evaluateSubmissionPolicy (some (c.withQueue q)) policy
      = evaluateSubmissionPolicy (some c) policy := by
  cases policy <;> rfl

lemma resolveSlot_withQueue (slot : UInt64) (candidates : Option (List TopologyCandidate))
    (capacity : ℕ) (outCount : Option ℕ) :
    resolveSlot (some (c.withQueue q)) slot candidates capacity outCount
      = resolveSlot (some c) slot candidates capacity outCount := rfl

lemma materializeTargets_withQueue (routes : Option (List RouteTarget)) (routeCount : ℕ)
    (targets : Option (List OwnedRequestTarget)) :
    materializeTargets (c.withQueue q) routes routeCount targets
      = materializeTargets c routes routeCount targets := rfl

lemma CallState.Twin.onWorld {x : EStateM Status World α} (h : CallState.Twin q q' s s') :
    Coupled (CallState.onWorld x) s (CallState.onWorld x) s' (Equally (CallState.Twin q q'))
      (CallState.Twin q q') := by
  obtain ⟨hq, rfl⟩ := h
  exact coupled_zoom rfl (fun _ _ => ⟨rfl, hq, rfl⟩) fun _ => ⟨hq, rfl⟩

lemma CallState.Twin.ofResult {r : Except Status α} (h : CallState.Twin q q' s s') :
    Coupled (ofResult r) s (ofResult r) s' (Equally (CallState.Twin q q')) (CallState.Twin q q') :=
  coupled_ofResult (fun _ => ⟨rfl, h⟩) h

lemma SubmitFrame.Twin.onWorld {x : EStateM Status World α} (h : SubmitFrame.Twin q q' f f') :
    Coupled (SubmitFrame.onWorld x) f (SubmitFrame.onWorld x) f' (Equally (SubmitFrame.Twin q q'))
      (SubmitFrame.Twin q q') := by
  obtain ⟨hq, rfl⟩ := h
  exact coupled_zoom rfl (fun _ _ => ⟨rfl, hq, rfl⟩) fun _ => ⟨hq, rfl⟩

lemma SubmitFrame.Twin.ofResult {r : Except Status α} (h : SubmitFrame.Twin q q' f f') :
    Coupled (ofResult r) f (ofResult r) f' (Equally (SubmitFrame.Twin q q'))
      (SubmitFrame.Twin q q') :=
  coupled_ofResult (fun _ => ⟨rfl, h⟩) h

/-! ### Installations -/

lemma coupled_installTopology {topology : Option (Ref CallerTopology)}
    (h : CallState.Twin q q' s s') :
    Coupled (installTopology topology) s (installTopology topology) s'
      (Equally (CallState.Twin q q')) (CallState.Twin q q') := by
  cases topology with
  | none => exact coupled_of_error rfl rfl h
  | some r =>
    refine h.ofResult.bind ?_
    rintro - - t - - ⟨-, hq, rfl⟩
    refine coupled_get_bind (coupled_require_bind Iff.rfl ⟨hq, rfl⟩ fun _ => ?_)
    refine (CallState.Twin.onWorld ⟨hq, rfl⟩).bind ?_
    rintro o - t₁ - - ⟨rfl, hq₁, rfl⟩
    refine (CallState.Twin.onWorld ⟨hq₁, rfl⟩).bind ?_
    rintro received - t₂ - - ⟨rfl, hq₂, rfl⟩
    exact coupled_of_ok rfl rfl ⟨rfl, hq₂, rfl⟩

/-! ### Submissions up to the capacity check -/

lemma coupled_submitEntry {options : Option (Ref SubmitOptions)} (h : CallState.Twin q q' s s') :
    Coupled (submitEntry options) s (submitEntry options) s' (Equally (CallState.Twin q q'))
      (CallState.Twin q q') := by
  refine h.ofResult.bind ?_
  rintro policy - t - - ⟨rfl, hq, rfl⟩
  refine coupled_get_bind ?_
  simp only [evaluateSubmissionPolicy_withQueue, resolveSlot_withQueue]
  refine (CallState.Twin.onWorld ⟨hq, rfl⟩).bind ?_
  rintro - - t₁ - - ⟨-, hq₁, rfl⟩
  refine coupled_require_bind Iff.rfl ⟨hq₁, rfl⟩ fun _ => ?_
  refine coupled_require_bind Iff.rfl ⟨hq₁, rfl⟩ fun _ => ?_
  exact coupled_pure ⟨rfl, hq₁, rfl⟩

lemma coupled_resolveCandidates {slot : UInt64} {n : ℕ} (h : SubmitFrame.Twin q q' f f') :
    Coupled (resolveCandidates slot n) f (resolveCandidates slot n) f'
      (Equally (SubmitFrame.Twin q q')) (SubmitFrame.Twin q q') := by
  refine h.onWorld.bind ?_
  rintro p - g - - ⟨rfl, hq, rfl⟩
  refine coupled_modify_bind (coupled_get_bind (coupled_modify_bind ?_))
  simp only [resolveSlot_withQueue]
  refine coupled_require_bind Iff.rfl ⟨hq, rfl⟩ fun _ => ?_
  exact coupled_require Iff.rfl ⟨hq, rfl⟩ fun _ => ⟨rfl, hq, rfl⟩

lemma coupled_selectRoutes {n limit : ℕ} (h : SubmitFrame.Twin q q' f f') :
    Coupled (selectRoutes n limit) f (selectRoutes n limit) f'
      (Equally (SubmitFrame.Twin q q')) (SubmitFrame.Twin q q') := by
  obtain ⟨hq, rfl⟩ := h
  refine coupled_get_bind (coupled_require_bind Iff.rfl ⟨hq, rfl⟩ fun _ => ?_)
  refine coupled_require_bind Iff.rfl ⟨hq, rfl⟩ fun _ => ?_
  refine (SubmitFrame.Twin.onWorld ⟨hq, rfl⟩).bind ?_
  rintro p - g - - ⟨rfl, hq, rfl⟩
  refine coupled_modify_bind (coupled_get_bind (coupled_modify_bind ?_))
  refine coupled_require_bind Iff.rfl ⟨hq, rfl⟩ fun _ => ?_
  refine coupled_require_bind Iff.rfl ⟨hq, rfl⟩ fun _ => ?_
  exact coupled_pure ⟨rfl, hq, rfl⟩

lemma coupled_copyTransaction {bytes : Bytes} {length : UInt64} (h : SubmitFrame.Twin q q' f f') :
    Coupled (copyTransaction bytes length) f (copyTransaction bytes length) f'
      (Equally (SubmitFrame.Twin q q')) (SubmitFrame.Twin q q') := by
  refine h.onWorld.bind ?_
  rintro p - g - - ⟨rfl, hq, rfl⟩
  exact coupled_modify_bind (coupled_of_ok rfl rfl ⟨rfl, hq, rfl⟩)

lemma coupled_copyTargets {n : ℕ} (h : SubmitFrame.Twin q q' f f') :
    Coupled (copyTargets n) f (copyTargets n) f'
      (Equally (SubmitFrame.Twin q q')) (SubmitFrame.Twin q q') := by
  refine h.onWorld.bind ?_
  rintro p - g - - ⟨rfl, hq, rfl⟩
  refine coupled_modify_bind (coupled_get_bind ?_)
  simp only [materializeTargets_withQueue]
  have hstored : SubmitFrame.Twin q q' { g with ownedTargets := p }
      { g with ownedTargets := p, client := g.client.withQueue q' } := ⟨hq, rfl⟩
  refine hstored.ofResult.bind ?_
  rintro targets - g' - - ⟨rfl, hq', rfl⟩
  exact coupled_of_ok rfl rfl ⟨rfl, hq', rfl⟩

lemma coupled_fillRequest {length slot : UInt64} {n : ℕ} (h : SubmitFrame.Twin q q' f f') :
    Coupled (fillRequest length slot n) f (fillRequest length slot n) f'
      (Equally (SubmitFrame.Twin q q')) (SubmitFrame.Twin q q') := by
  refine h.onWorld.bind ?_
  rintro p - g - - ⟨rfl, hq, rfl⟩
  refine coupled_modify_bind (coupled_get_bind ?_)
  refine coupled_require_bind Iff.rfl ⟨hq, rfl⟩ fun _ => ?_
  exact coupled_modify_bind (coupled_pure ⟨rfl, hq, rfl⟩)

lemma coupled_submitPrepare {bytes : Bytes} {length slot : UInt64} {policy : SubmissionPolicy}
    {n : ℕ} (h : SubmitFrame.Twin q q' f f') :
    Coupled (submitPrepare bytes length policy slot n) f (submitPrepare bytes length policy slot n) f'
      (Equally (SubmitFrame.Twin q q')) (SubmitFrame.Twin q q') := by
  refine (coupled_resolveCandidates h).bind ?_
  rintro - - f₁ f₁' - ⟨-, h₁⟩
  refine (coupled_selectRoutes h₁).bind ?_
  rintro targetCount - f₂ f₂' - ⟨rfl, h₂⟩
  refine (coupled_copyTransaction h₂).bind ?_
  rintro - - f₃ f₃' - ⟨-, h₃⟩
  refine (coupled_copyTargets h₃).bind ?_
  rintro - - f₄ f₄' - ⟨-, h₄⟩
  exact coupled_fillRequest h₄

/-! ### The commit -/

/-- A commit with room in both queues appends the same event to both. -/
lemma coupled_submitCommit {id : UInt64} (h : SubmitFrame.Twin q q' f f')
    (hroom : q.count < eventQueueCapacity) (hroom' : q'.count < eventQueueCapacity) :
    Coupled (submitCommit id) f (submitCommit id) f'
      (fun a b g g' => a = b ∧ ∃ p p', SameAppended q q' p p' ∧ SubmitFrame.Twin p p' g g')
      (SubmitFrame.Twin q q') := by
  obtain ⟨rfl, rfl⟩ := h
  have hcap := eventQueueHasCapacity_iff.mpr hroom
  have hcap' : eventQueueHasCapacity (some (f.client.withQueue q')) = true :=
    eventQueueHasCapacity_iff.mpr hroom'
  refine coupled_get_bind (coupled_require_bind ?_ ⟨rfl, rfl⟩ fun _ => ?_)
  · exact ⟨fun _ => hcap', fun _ => hcap⟩
  refine (SubmitFrame.Twin.onWorld ⟨rfl, rfl⟩).bind ?_
  rintro time - g - - ⟨rfl, hq, rfl⟩
  refine coupled_require_bind Iff.rfl ⟨hq, rfl⟩ fun _ => ?_
  rw [eventQueuePush_of_lt _ hroom, eventQueuePush_of_lt _ (eventQueueHasCapacity_iff.mp hcap')]
  exact coupled_of_ok rfl rfl ⟨rfl, _, _, .push hroom hroom' _, rfl, rfl⟩

lemma SubmitFrame.Twin.cleanup (h : SubmitFrame.Twin q q' f f') (status : Status) :
    CallState.Twin q q' (submitCleanup status f) (submitCleanup status f') := by
  obtain ⟨hq, rfl⟩ := h
  exact ⟨hq, rfl⟩

/-- A body run in its frame goes the way it goes by itself. -/
lemma coupled_withSubmitFrame {body : EStateM Status SubmitFrame UInt64}
    (h : Coupled body (SubmitFrame.enter s) body (SubmitFrame.enter s')
      (fun a b g g' => a = b ∧ ∃ p p', SameAppended q q' p p' ∧ SubmitFrame.Twin p p' g g')
      (SubmitFrame.Twin q q')) :
    Coupled (withSubmitFrame body) s (withSubmitFrame body) s'
      (fun a b t t' => a = b ∧ ∃ p p', SameAppended q q' p p' ∧ CallState.Twin p p' t t')
      (CallState.Twin q q') := by
  rcases h.cases with ⟨id, _, g, g', hx, hy, rfl, p, p', happ, hg⟩ | ⟨e, g, g', hx, hy, hg⟩
  · exact coupled_of_ok (withSubmitFrame_of_ok hx) (withSubmitFrame_of_ok hy)
      ⟨rfl, p, p', happ, hg.cleanup Status.ok⟩
  · exact coupled_of_error (withSubmitFrame_of_error hx) (withSubmitFrame_of_error hy)
      (hg.cleanup e)

/-- A submission comes to its check of the queue capacity. -/
def SubmitReachesCapacityCheck (bytes : Bytes) (length : UInt64)
    (options : Option (Ref SubmitOptions)) (s : CallState) : Prop :=
  ∃ policy slot n t id f, submitEntry options s = .ok (policy, slot, n) t ∧
    submitPrepare bytes length policy slot n (SubmitFrame.enter t) = .ok id f

lemma coupled_submit {bytes : Bytes} {length : UInt64} {options : Option (Ref SubmitOptions)}
    (h : CallState.Twin q q' s s')
    (hroom : SubmitReachesCapacityCheck bytes length options s → q.count < eventQueueCapacity)
    (hroom' : q'.count < eventQueueCapacity) :
    Coupled (submit bytes length options) s (submit bytes length options) s'
      (fun a b t t' => a = b ∧ ∃ p p', SameAppended q q' p p' ∧ CallState.Twin p p' t t')
      (CallState.Twin q q') := by
  refine (coupled_submitEntry h).bind ?_
  rintro ⟨policy, slot, n⟩ _ t _ hentry ⟨rfl, hq, rfl⟩
  refine coupled_withSubmitFrame ?_
  have henter : SubmitFrame.Twin q q' (SubmitFrame.enter t)
      (SubmitFrame.enter { t with client := t.client.withQueue q' }) := ⟨hq, rfl⟩
  refine (coupled_submitPrepare henter).bind ?_
  rintro id _ f f' hprepare ⟨rfl, hf⟩
  exact coupled_submitCommit hf (hroom ⟨policy, slot, n, t, id, f, hentry, hprepare⟩) hroom'

/-! ### Calls -/

/-- Two calls return the same, leave the same world and leave clients that differ in their queues,
to which the same events have been appended. -/
structure CallResult.Twin (q q' : EventQueue) (r r' : CallResult) : Prop where
  status : r'.status = r.status
  world : r'.world = r.world
  client : ∃ c q₁, r.client = some c ∧ r'.client = some (c.withQueue q₁) ∧
    SameAppended q q' c.eventQueue q₁

lemma CallState.Twin.result {p p' : EventQueue} (h : CallState.Twin p p' s s')
    (happ : SameAppended q q' p p') (status : Status) :
    CallResult.Twin q q' ⟨status, some s.client, s.world⟩ ⟨status, some s'.client, s'.world⟩ := by
  obtain ⟨rfl, rfl⟩ := h
  exact ⟨rfl, rfl, s.client, p', rfl, rfl, happ⟩

variable {w : World}

lemma clientInstallTopology_twin (topology : Option (Ref CallerTopology)) :
    CallResult.Twin c.eventQueue q' (clientInstallTopology (some c) topology w)
      (clientInstallTopology (some (c.withQueue q')) topology w) := by
  have htwin : CallState.Twin c.eventQueue q' ⟨c, w⟩ ⟨c.withQueue q', w⟩ := ⟨rfl, rfl⟩
  have h : Coupled (installTopology topology) ⟨c, w⟩ (installTopology topology) _ _ _ :=
    coupled_installTopology htwin
  simp only [clientInstallTopology, callOnClient]
  rcases h.cases with ⟨_, _, t, t', hx, hy, -, ht⟩ | ⟨e, t, t', hx, hy, ht⟩
  · rw [hx, hy]
    exact ht.result (.refl _ _) Status.ok
  · rw [hx, hy]
    exact ht.result (.refl _ _) e

lemma clientRefreshTopology_twin (provider : Option (Ref DiscoveryProvider))
    (acquired : AcquireAnswer) :
    CallResult.Twin c.eventQueue q'
        (clientRefreshTopology (some c) provider acquired w).toCallResult
        (clientRefreshTopology (some (c.withQueue q')) provider acquired w).toCallResult ∧
      (clientRefreshTopology (some (c.withQueue q')) provider acquired w).calls
        = (clientRefreshTopology (some c) provider acquired w).calls := by
  have htwin : CallState.Twin c.eventQueue q' ⟨c, w⟩ ⟨c.withQueue q', w⟩ := ⟨rfl, rfl⟩
  have hprovider : validateProvider (some (c.withQueue q')) provider
      = validateProvider (some c) provider := by
    cases provider <;> rfl
  unfold clientRefreshTopology
  rw [hprovider]
  cases validateProvider (some c) provider with
  | error e => exact ⟨htwin.result (.refl _ _) e, rfl⟩
  | ok captured =>
      by_cases hs : acquired.status = Status.ok
      · simp only [hs, ne_eq, not_true_eq_false, if_false]
        cases acquired.topology with
        | none => exact ⟨htwin.result (.refl _ _) _, rfl⟩
        | some topology => exact ⟨clientInstallTopology_twin _, rfl⟩
      · simp only [hs, ne_eq, not_false_eq_true, if_true]
        exact ⟨htwin.result (.refl _ _) _, trivial⟩

/-- The submission call. -/
lemma clientSubmit_twin (transactionBytes : Option Bytes) (transactionLength : UInt64)
    (options : Option (Ref SubmitOptions)) (outRequestId : Option (Ref UInt64))
    (hroom : ∀ bytes, transactionBytes = some bytes →
      pointerIsAlignedFor outRequestId 8 = true → transactionLength ≠ 0 →
      SubmitReachesCapacityCheck bytes transactionLength options ⟨c, w⟩ →
      c.eventQueue.count < eventQueueCapacity)
    (hroom' : q'.count < eventQueueCapacity) :
    CallResult.Twin c.eventQueue q'
        (clientSubmit (some c) transactionBytes transactionLength options outRequestId w).toCallResult
        (clientSubmit (some (c.withQueue q')) transactionBytes transactionLength options outRequestId
          w).toCallResult ∧
      (clientSubmit (some (c.withQueue q')) transactionBytes transactionLength options outRequestId
          w).outRequestId
        = (clientSubmit (some c) transactionBytes transactionLength options outRequestId
          w).outRequestId := by
  have htwin : CallState.Twin c.eventQueue q' ⟨c, w⟩ ⟨c.withQueue q', w⟩ := ⟨rfl, rfl⟩
  unfold clientSubmit
  by_cases hout : pointerIsAlignedFor outRequestId 8 = false
  · simp only [if_pos hout]
    exact ⟨htwin.result (.refl _ _) _, trivial⟩
  simp only [if_neg hout]
  cases transactionBytes with
  | none => exact ⟨htwin.result (.refl _ _) _, rfl⟩
  | some bytes =>
    by_cases hlength : transactionLength = 0
    · simp only [if_pos hlength]
      exact ⟨htwin.result (.refl _ _) _, trivial⟩
    simp only [if_neg hlength]
    have hreach := hroom bytes rfl (by simpa using hout) hlength
    rcases (coupled_submit htwin hreach hroom').cases with
      ⟨id, _, t, t', hx, hy, rfl, p, p', happ, ht⟩ | ⟨e, t, t', hx, hy, ht⟩
    · rw [hx, hy]
      exact ⟨ht.result happ Status.ok, rfl⟩
    · rw [hx, hy]
      exact ⟨ht.result (.refl _ _) e, rfl⟩

/-! ### Steps -/

/-- A call is not a poll. -/
def Op.isCall : Op → Bool
  | .pollEvents .. => false
  | _ => true

/-- A call in the state `s` comes to the check of the queue capacity. -/
def ReachesCapacityCheck (s : State) : Op → Prop
  | .submit .self (some bytes) length options outRequestId answers =>
      pointerIsAlignedFor outRequestId 8 = true ∧ length ≠ 0 ∧
        SubmitReachesCapacityCheck bytes length options
          ⟨s.client.data, World.start answers s.ledger⟩
  | _ => False

/-- The state with another queue. -/
def State.withQueue (s : State) (q : EventQueue) : State :=
  { s with client := { s.client with data := s.client.data.withQueue q } }

variable {S : State} {op : Op}

lemma CallResult.Twin.leave {r r' : CallResult}
    (h : CallResult.Twin S.client.data.eventQueue q' r r') :
    ∃ q₁, (S.withQueue q').leave r'.client r'.world.ledger
        = (S.leave r.client r.world.ledger).withQueue q₁ ∧
      SameAppended S.client.data.eventQueue q'
        (S.leave r.client r.world.ledger).client.data.eventQueue q₁ := by
  obtain ⟨-, hworld, c, q₁, hc, hc', happ⟩ := h
  refine ⟨q₁, ?_, ?_⟩
  · rw [hc, hc', hworld]
    rfl
  · rw [hc]
    exact happ

/-- **A call that is not a poll** does the same with another queue that has room, if its own queue
has room where that is checked, and appends the same events to both. -/
lemma step_twin (hcall : op.isCall = true)
    (hroom : ReachesCapacityCheck S op → S.client.data.eventQueue.count < eventQueueCapacity)
    (hroom' : q'.count < eventQueueCapacity) :
    ∃ q₁, step (S.withQueue q') op = ((step S op).1, (step S op).2.withQueue q₁) ∧
      SameAppended S.client.data.eventQueue q' (step S op).2.client.data.eventQueue q₁ := by
  cases op with
  | pollEvents handle events eventCapacity eventStride outEventCount => simp [Op.isCall] at hcall
  | installTopology handle topology answers =>
      cases handle with
      | null => exact ⟨q', rfl, .refl _ _⟩
      | self =>
          have h : CallResult.Twin S.client.data.eventQueue q' _ _ :=
            clientInstallTopology_twin (w := World.start answers S.ledger) topology
          obtain ⟨q₁, hleave, happ⟩ := h.leave
          exact ⟨q₁, Prod.ext (congrArg Outcome.installed h.status) hleave, happ⟩
  | refreshTopology handle provider acquired answers =>
      cases handle with
      | null => exact ⟨q', rfl, .refl _ _⟩
      | self =>
          obtain ⟨h, hcalls⟩ : CallResult.Twin S.client.data.eventQueue q' _ _ ∧ _ :=
            clientRefreshTopology_twin (w := World.start answers S.ledger) provider acquired
          obtain ⟨q₁, hleave, happ⟩ := h.leave
          exact ⟨q₁, Prod.ext (congrArg₂ Outcome.refreshed h.status hcalls) hleave, happ⟩
  | submit handle transactionBytes transactionLength options outRequestId answers =>
      cases handle with
      | null =>
          have hnull := clientSubmit_null transactionBytes transactionLength options outRequestId
            (World.start answers S.ledger)
          refine ⟨q', ?_, ?_⟩
          · simp only [step, State.behind, State.withQueue, hnull]
            rfl
          · simp only [step, State.behind, hnull]
            exact .refl _ _
      | self =>
          have hcheck : ∀ bytes, transactionBytes = some bytes →
              pointerIsAlignedFor outRequestId 8 = true → transactionLength ≠ 0 →
              SubmitReachesCapacityCheck bytes transactionLength options
                ⟨S.client.data, World.start answers S.ledger⟩ →
              S.client.data.eventQueue.count < eventQueueCapacity := by
            rintro bytes rfl haligned hlength hreach
            exact hroom ⟨haligned, hlength, hreach⟩
          obtain ⟨h, hout⟩ := clientSubmit_twin transactionBytes transactionLength options
            outRequestId hcheck hroom'
          obtain ⟨q₁, hleave, happ⟩ := h.leave
          exact ⟨q₁, Prod.ext (congrArg₂ Outcome.submitted h.status hout) hleave, happ⟩

/-- A poll delivers pending events from the front and changes nothing but the queue. -/
lemma step_poll (hpoll : op.isCall = false) :
    ∃ q₁, (step S op).2 = S.withQueue q₁ ∧
      deliveredBy op (step S op).1 ++ q₁.pending = S.pending := by
  cases op with
  | installTopology handle topology answers => simp [Op.isCall] at hpoll
  | refreshTopology handle provider acquired answers => simp [Op.isCall] at hpoll
  | submit handle transactionBytes transactionLength options outRequestId answers =>
      simp [Op.isCall] at hpoll
  | pollEvents handle events eventCapacity eventStride outEventCount =>
      have h := clientPollEvents_cases (S.behind handle) events eventCapacity eventStride
        outEventCount
      simp only [step]
      generalize clientPollEvents (S.behind handle) events eventCapacity eventStride
        outEventCount = r at h
      cases h with
      | idle hclient hdelivered =>
          refine ⟨S.client.data.eventQueue, ?_, ?_⟩
          · rw [hclient]
            cases handle <;> rfl
          · rw [State.pending, ← List.nil_append S.client.data.eventQueue.pending]
            exact congrArg (· ++ S.client.data.eventQueue.pending) hdelivered
      | @drained c q n hsome hclient hdelivered hpending =>
          cases handle with
          | null => simp [State.behind] at hsome
          | self =>
              obtain rfl := Option.some.inj hsome
              refine ⟨q, ?_, ?_⟩
              · rw [hclient]
                rfl
              · rw [hpending]
                exact (congrArg (· ++ _) hdelivered).trans (List.take_append_drop n _)

/-! ### Runs -/

/-- The calls of a run that are not polls. -/
def calls (ops : List Op) : List Op := ops.filter Op.isCall

/-- What the calls of a run that are not polls have returned. -/
def callOutcomes (h : List Step) : List Outcome :=
  (h.filter fun e => e.input.isCall).map Entry.output

/-- In no step of the record does a submission find the queue full at its capacity check. -/
def NeverFull (h : List Step) : Prop :=
  ∀ e ∈ h, ReachesCapacityCheck e.pre e.input →
    e.pre.client.data.eventQueue.count < eventQueueCapacity

/-- The state with nothing pending. -/
def State.drained (s : State) : State := s.withQueue EventQueue.zero

/-- A call on a client that is polled empty after every call, with the events it appends. -/
def callStep (s : State) (op : Op) : (Outcome × List Event) × State :=
  (((step s op).1, (step s op).2.pending), (step s op).2.drained)

/-- A run does what its calls do on a client that is polled empty after every call: it leaves the
same client but for the queue, its calls return the same, and what it has delivered and left pending
is what was pending at the start and the events of its calls. -/
structure FollowsCalls (s : State) (ops : List Op) : Prop where
  state : (run step s ops).drained = run callStep s.drained (calls ops)
  outcomes : callOutcomes (history step s ops)
    = (history callStep s.drained (calls ops)).map fun e => e.output.1
  events : deliveredEvents (history step s ops) ++ (run step s ops).pending
    = s.pending ++ (history callStep s.drained (calls ops)).flatMap fun e => e.output.2

/-- A call that is not a poll delivers nothing. -/
lemma deliveredBy_call (hcall : op.isCall = true) : deliveredBy op (step S op).1 = [] := by
  cases op with
  | pollEvents handle events eventCapacity eventStride outEventCount => simp [Op.isCall] at hcall
  | installTopology handle topology answers => rfl
  | refreshTopology handle provider acquired answers => rfl
  | submit handle transactionBytes transactionLength options outRequestId answers => rfl

/-- **A run that never finds the queue full follows its calls.** -/
theorem followsCalls_run {s : State} {ops : List Op} (h : NeverFull (history step s ops)) :
    FollowsCalls s ops := by
  induction ops generalizing s with
  | nil => exact ⟨rfl, rfl, (List.append_nil _).symm⟩
  | cons op ops ih =>
      obtain ⟨hroom, hrest⟩ := List.forall_mem_cons.mp h
      rw [entry_pre, entry_input] at hroom
      have hnext := ih hrest
      have hdelivered : deliveredEvents (history step s (op :: ops))
          = deliveredBy op (step s op).1 ++ deliveredEvents (history step (step s op).2 ops) := rfl
      cases hcall : op.isCall with
      | false =>
          obtain ⟨q₁, hs, hevents⟩ := step_poll (S := s) hcall
          have hcalls : calls (op :: ops) = calls ops :=
            List.filter_cons_of_neg (by simp [hcall])
          have hdrained : (step s op).2.drained = s.drained := by rw [hs]; rfl
          have hpending : (step s op).2.pending = q₁.pending := by rw [hs]; rfl
          have houtcomes : callOutcomes (history step s (op :: ops))
              = callOutcomes (history step (step s op).2 ops) := by
            rw [callOutcomes, history_cons, List.filter_cons_of_neg (by simp [hcall])]
            rfl
          refine ⟨?_, ?_, ?_⟩
          · rw [run_cons, hnext.state, hdrained, hcalls]
          · rw [houtcomes, hnext.outcomes, hdrained, hcalls]
          · rw [hdelivered, run_cons, List.append_assoc, hnext.events, hpending, hdrained, hcalls,
              ← List.append_assoc, hevents]
      | true =>
          obtain ⟨q₁, hstep, events, hown, hempty⟩ := step_twin hcall hroom
            (show EventQueue.zero.count < eventQueueCapacity by decide)
          have hcalls : calls (op :: ops) = op :: calls ops :=
            List.filter_cons_of_pos hcall
          have hcallStep : callStep s.drained op
              = (((step s op).1, q₁.pending), (step s op).2.drained) := by
            rw [callStep, State.drained, hstep]
            rfl
          have houtcomes : callOutcomes (history step s (op :: ops))
              = (step s op).1 :: callOutcomes (history step (step s op).2 ops) := by
            rw [callOutcomes, history_cons, List.filter_cons_of_pos (by exact hcall)]
            rfl
          refine ⟨?_, ?_, ?_⟩
          · rw [run_cons, hnext.state, hcalls, run_cons, hcallStep]
          · rw [houtcomes, hnext.outcomes, hcalls, history_cons, List.map_cons, entry_output,
              hcallStep]
          · rw [hdelivered, deliveredBy_call hcall, List.nil_append, run_cons, hnext.events, hcalls,
              history_cons, List.flatMap_cons, entry_output, hcallStep, ← List.append_assoc]
            refine congrArg (· ++ _) ?_
            rw [hempty, EventQueue.pending_zero, List.nil_append]
            exact hown

/-- **The polling cadence is invisible except through backpressure.** Two runs from one reachable
state with the same calls, apart from their polls, in which no submission finds the queue full at
its capacity check, return the same from these calls, end with the same topology, requests and next
identifier, and have the same delivered events followed by the pending ones. -/
theorem polling_cadence_invisible (d : Dependencies) (before ops₁ ops₂ : List Op)
    (hcalls : calls ops₁ = calls ops₂)
    (h₁ : NeverFull (history step (run step (fresh d) before) ops₁))
    (h₂ : NeverFull (history step (run step (fresh d) before) ops₂)) :
    let s := run step (fresh d) before
    let s₁ := run step s ops₁
    let s₂ := run step s ops₂
    callOutcomes (history step s ops₁) = callOutcomes (history step s ops₂) ∧
      s₁.client.data.hasTopology = s₂.client.data.hasTopology ∧
      s₁.client.data.topology = s₂.client.data.topology ∧
      s₁.client.data.requestHead = s₂.client.data.requestHead ∧
      s₁.client.data.nextRequestId = s₂.client.data.nextRequestId ∧
      deliveredEvents (history step s ops₁) ++ s₁.pending
        = deliveredEvents (history step s ops₂) ++ s₂.pending := by
  intro s s₁ s₂
  have hf₁ := followsCalls_run h₁
  have hf₂ := followsCalls_run h₂
  have hstate : s₁.drained = s₂.drained := by rw [hf₁.state, hf₂.state, hcalls]
  have hclient : s₁.client.data.withQueue EventQueue.zero
      = s₂.client.data.withQueue EventQueue.zero := congrArg (fun t => t.client.data) hstate
  have hhas := congrArg Client.hasTopology hclient
  have htopology := congrArg Client.topology hclient
  have hrequests := congrArg Client.requestHead hclient
  have hnext := congrArg Client.nextRequestId hclient
  refine ⟨?_, hhas, htopology, hrequests, hnext, ?_⟩
  · rw [hf₁.outcomes, hf₂.outcomes, hcalls]
  · rw [hf₁.events, hf₂.events, hcalls]

/-- A submission that is accepted while the sample topology is installed. -/
def sampleSubmit : Op :=
  .submit .self (some fun _ => 7) 3 (some (sampleRef ⟨24, 0, 1000, 4, 0⟩)) (some (sampleRef 0))
    sampleAnswers

/-- A poll of one event. -/
def samplePoll : Op :=
  .pollEvents .self (some (sampleRef fun _ => 0)) 1 64 (some (sampleRef 0))

theorem polling_cadence_invisible_sample :
    deliveredEvents (history step (run step (fresh sampleDependencies) [sampleInstall])
        [sampleSubmit, samplePoll, sampleSubmit]) ++
      (run step (run step (fresh sampleDependencies) [sampleInstall])
        [sampleSubmit, samplePoll, sampleSubmit]).pending
    = deliveredEvents (history step (run step (fresh sampleDependencies) [sampleInstall])
        [sampleSubmit, sampleSubmit]) ++
      (run step (run step (fresh sampleDependencies) [sampleInstall])
        [sampleSubmit, sampleSubmit]).pending :=
  (polling_cadence_invisible sampleDependencies [sampleInstall]
    [sampleSubmit, samplePoll, sampleSubmit] [sampleSubmit, sampleSubmit] rfl
    (by
      refine List.forall_mem_cons.mpr ⟨fun _ => by decide, ?_⟩
      refine List.forall_mem_cons.mpr ⟨fun _ => by decide, ?_⟩
      exact List.forall_mem_cons.mpr ⟨fun _ => by decide, by simp⟩)
    (by
      refine List.forall_mem_cons.mpr ⟨fun _ => by decide, ?_⟩
      exact List.forall_mem_cons.mpr ⟨fun _ => by decide, by simp⟩)).2.2.2.2.2

end SolanaTpuClient
