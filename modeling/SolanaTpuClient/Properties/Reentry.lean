import SolanaTpuClient.Lib.Refinement
import SolanaTpuClient.Delivery.Reentry

/-!
Provider callbacks that call the client again.

Between its checks and the installation a refresh keeps nothing of the client, and nothing of it
after the installation. So whatever its callbacks do to the client through its calls, the refresh is
one more call after those of `acquire` and before those of `release` (`actsAs_refreshReentrant`), and
every execution of nested calls is a run of ordinary ones (`reentrant_calls_sequential`): what holds
of runs holds of it.
-/

namespace SolanaTpuClient

open Borrow Transition

/-- An execution does what the calls `ops` do one after another, and returns what they are lent. -/
structure ActsAs (f : State → Performed) (ops : List Op) : Prop where
  replies : ∀ s, (f s).replies = outputs step s ops
  nested : ∀ s, Nested (f s).borrows
  takes : ∀ s, takes (f s).borrows = ops.filterMap Op.lent
  state : ∀ s, (f s).state = run step s ops

variable {f g : State → Performed} {ops ops' : List Op}

lemma ActsAs.andThen (hf : ActsAs f ops) (hg : ActsAs g ops') :
    ActsAs (fun s => (f s).andThen g) (ops ++ ops') where
  replies s := by
    rw [Performed.andThen, hf.replies, hg.replies, hf.state, outputs_append]
  nested s := (hf.nested s).append (hg.nested _)
  takes s := by
    rw [List.filterMap_append, ← hf.takes s, ← hg.takes (f s).state]
    exact List.filterMap_append
  state s := by
    rw [Performed.andThen, hg.state, hf.state, run_append]

/-- One call as an execution. -/
def performOne (op : Op) (s : State) : Performed :=
  let (reply, t) := step s op
  ⟨[reply], [], t⟩

lemma actsAs_performOne {op : Op} (hop : op.lent = none) : ActsAs (performOne op) [op] where
  replies _ := rfl
  nested _ := .nil
  takes _ := by rw [List.filterMap_cons_none hop]; rfl
  state _ := rfl

/-- A call, and an execution during which the topology it was lent is still taken. -/
def performLent (op : Op) (topology : Ref CallerTopology) (g : State → Performed) (s : State) :
    Performed :=
  let (reply, t) := step s op
  let b := g t
  ⟨reply :: b.replies, .taken topology :: b.borrows ++ [.returned topology], b.state⟩

lemma ActsAs.performLent {op : Op} {topology : Ref CallerTopology} (hop : op.lent = some topology)
    (hg : ActsAs g ops) : ActsAs (performLent op topology g) (op :: ops) where
  replies _ := congrArg (List.cons _) (hg.replies _)
  nested _ := .bracket topology (hg.nested _)
  takes s := by
    rw [List.filterMap_cons_some hop, ← hg.takes (step s op).2]
    simp [SolanaTpuClient.performLent, Borrow.takes, Event.taken?]
  state _ := hg.state _

/-- Calls that are no refresh are lent nothing. -/
lemma lent_of_plain {op : Op} (h : op.isRefresh = false) : op.lent = none := by
  cases op with
  | refreshTopology => cases h
  | installTopology | submit | pollEvents => rfl

section Refresh

variable {s : State} {handle : Handle} {provider : Option (Ref DiscoveryProvider)}
  {acquired : AcquireAnswer} {answers : Answers} {captured : DiscoveryProvider}
  {topology : Ref CallerTopology} {e : Status}

lemma State.leave_behind (s : State) (handle : Handle) :
    s.leave (s.behind handle) s.ledger = s := by
  cases handle <;> rfl

lemma step_refresh_of_error (h : capturedBy handle provider = .error e) :
    step s (.refreshTopology handle provider acquired answers) = (.refreshed e [], s) := by
  simp [step, clientRefreshTopology, validateProvider_behind, h, State.leave_behind]

lemma step_refresh_of_failed (h : capturedBy handle provider = .ok captured)
    (hstatus : acquired.status ≠ Status.ok) :
    step s (.refreshTopology handle provider acquired answers)
      = (.refreshed acquired.status [.acquire captured.acquire captured.context], s) := by
  simp [step, clientRefreshTopology, validateProvider_behind, h, hstatus, State.leave_behind]

lemma step_refresh_of_null (h : capturedBy handle provider = .ok captured)
    (hstatus : acquired.status = Status.ok) (hnull : acquired.topology = none) :
    step s (.refreshTopology handle provider acquired answers)
      = (.refreshed Status.internalError [.acquire captured.acquire captured.context], s) := by
  simp [step, clientRefreshTopology, validateProvider_behind, h, hstatus, hnull,
    State.leave_behind]

/-- A refresh that is lent a topology installs it. -/
lemma step_refresh_of_lent (h : capturedBy handle provider = .ok captured)
    (hstatus : acquired.status = Status.ok) (hsome : acquired.topology = some topology) :
    let result := clientInstallTopology (s.behind handle) (some topology)
      (World.start answers s.ledger)
    let calls := [ProviderCall.acquire captured.acquire captured.context]
    step s (.refreshTopology handle provider acquired answers)
      = (.refreshed result.status (if captured.release ≠ 0 then
          calls ++ [.release captured.release captured.context topology] else calls),
        s.leave result.client result.world.ledger) := by
  simp [step, clientRefreshTopology, validateProvider_behind, h, hstatus, hsome]

end Refresh

/-- **A refresh with callbacks that call the client again** is a refresh after the calls of its
`acquire` and before those of its `release`. -/
theorem actsAs_refreshReentrant (hf : ActsAs f ops) (hg : ActsAs g ops') (handle : Handle)
    (provider : Option (Ref DiscoveryProvider)) (acquired : AcquireAnswer) (answers : Answers) :
    ActsAs (refreshReentrant handle provider f acquired answers g)
      (flatRefresh handle provider ops acquired answers ops') := by
  set refresh := Op.refreshTopology handle provider acquired answers with hrefresh
  cases hcaptured : capturedBy handle provider with
  | error e =>
      have hflat : flatRefresh handle provider ops acquired answers ops' = [refresh] := by
        simp [flatRefresh, hcaptured, hrefresh]
      have hone : refreshReentrant handle provider f acquired answers g = performOne refresh := by
        funext s
        simp [refreshReentrant, validateProvider_behind, hcaptured, performOne, hrefresh,
          step_refresh_of_error hcaptured]
      rw [hflat, hone]
      exact actsAs_performOne (by simp [hrefresh, Op.lent, hcaptured])
  | ok captured =>
      have hlent : refresh.lent = if acquired.status = Status.ok ∧ captured.release ≠ 0 then
          acquired.topology else none := by
        rw [hrefresh, Op.lent, hcaptured]
      have hflat : flatRefresh handle provider ops acquired answers ops'
          = ops ++ refresh :: if refresh.lent.isSome then ops' else [] := by
        rw [flatRefresh, hcaptured]
      -- a refresh that returns right after its installation, or before it
      have hlast (hnone : refresh.lent = none)
          (hone : ∀ s, refreshReentrant handle provider f acquired answers g s
            = (f s).andThen (performOne refresh)) :
          ActsAs (refreshReentrant handle provider f acquired answers g)
            (flatRefresh handle provider ops acquired answers ops') := by
        rw [hflat, hnone, funext hone]
        exact hf.andThen (actsAs_performOne hnone)
      by_cases hstatus : acquired.status = Status.ok
      · cases htopology : acquired.topology with
        | none =>
            refine hlast (by simp [hlent, htopology]) fun s => ?_
            simp [refreshReentrant, validateProvider_behind, hcaptured, hstatus, htopology,
              Performed.andThen, performOne, hrefresh,
              step_refresh_of_null hcaptured hstatus htopology]
        | some topology =>
            by_cases hrelease : captured.release = 0
            · refine hlast (by simp [hlent, hrelease]) fun s => ?_
              simp [refreshReentrant, validateProvider_behind, hcaptured, hstatus, htopology,
                hrelease, Performed.andThen, performOne, hrefresh,
                step_refresh_of_lent hcaptured hstatus htopology]
            · have hsome : refresh.lent = some topology := by
                simp [hlent, hstatus, hrelease, htopology]
              have hone : refreshReentrant handle provider f acquired answers g
                  = fun s => (f s).andThen (performLent refresh topology g) := by
                funext s
                simp [refreshReentrant, validateProvider_behind, hcaptured, hstatus, htopology,
                  hrelease, Performed.andThen, performLent, hrefresh,
                  step_refresh_of_lent hcaptured hstatus htopology]
              rw [hflat, hsome, hone]
              exact hf.andThen (hg.performLent hsome)
      · refine hlast (by simp [hlent, hstatus]) fun s => ?_
        simp [refreshReentrant, validateProvider_behind, hcaptured, hstatus, Performed.andThen,
          performOne, hrefresh, step_refresh_of_failed hcaptured hstatus]

lemma actsAs_perform (calls : Calls) : ActsAs calls.perform calls.flatten := by
  induction calls with
  | done => exact ⟨fun _ => rfl, fun _ => .nil, fun _ => rfl, fun _ => rfl⟩
  | plain call rest ih => exact (actsAs_performOne (lent_of_plain call.property)).andThen ih
  | refresh handle provider acquiring acquired answers releasing rest iha ihb ih =>
      exact (actsAs_refreshReentrant iha ihb handle provider acquired answers).andThen ih

/-- **Calls made by the callbacks of a refresh** are calls like others. Every execution of nested
calls replies and ends as the run of its calls one after another, a refresh after those of its
`acquire` and before those of its `release`, so that it keeps the invariant of the client. The
topologies lent to it are those that run is lent, and they are returned once each, last in,
first out. -/
theorem reentrant_calls_sequential (s : State) (calls : Calls) :
    let performed := calls.perform s
    performed.replies = outputs step s calls.flatten ∧
      performed.state = run step s calls.flatten ∧
      (s.WellFormed → performed.state.WellFormed) ∧
      takes performed.borrows = calls.flatten.filterMap Op.lent ∧ Nested performed.borrows ∧
      (returns performed.borrows).Perm (takes performed.borrows) := by
  have h := actsAs_perform calls
  refine ⟨h.replies s, h.state s, fun hs => ?_, h.takes s, h.nested s,
    (h.nested s).returns_perm_takes⟩
  rw [h.state s]
  exact run_invariant wellFormed_step hs calls.flatten

end SolanaTpuClient
