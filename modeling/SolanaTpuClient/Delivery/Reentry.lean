import SolanaTpuClient.Lib.Borrow
import SolanaTpuClient.Delivery.Client

/-!
`solana_delivery_client_refresh_topology` of `src/solana_delivery_discovery.c`, with a provider whose
callbacks call the client again before they return.

`refreshReentrant` is the function for any two callbacks. `Calls` are the calls of an execution, those
a callback makes nested in the refresh it belongs to, and `Calls.perform` executes them.
`Calls.flatten` lists them one after another: a refresh between the calls its `acquire` makes and
those its `release` makes.
-/

namespace SolanaTpuClient

open Transition

/-- What calls on a client leave: their replies, in the order in which the calls take effect, the
topologies taken and returned, and the state. -/
structure Performed where
  replies : List Outcome
  borrows : List (Borrow.Event (Ref CallerTopology))
  state : State

/-- One execution after another. -/
def Performed.andThen (p : Performed) (next : State → Performed) : Performed :=
  let q := next p.state
  ⟨p.replies ++ q.replies, p.borrows ++ q.borrows, q.state⟩

/-- `solana_delivery_client_refresh_topology`, where `acquiring` and `releasing` are the calls the
callbacks make on the client. A topology is taken when `acquire` returns it, from a provider that has
a `release`, and returned when `release` returns. -/
def refreshReentrant (handle : Handle) (provider : Option (Ref DiscoveryProvider))
    (acquiring : State → Performed) (acquired : AcquireAnswer) (answers : Answers)
    (releasing : State → Performed) (s : State) : Performed :=
  match validateProvider (s.behind handle) provider with
  | .error status => ⟨[.refreshed status []], [], s⟩
  | .ok captured =>
      let context := captured.context
      let acquire := captured.acquire
      let release := captured.release
      let a := acquiring s
      let calls := [ProviderCall.acquire acquire context]
      if acquired.status ≠ Status.ok then
        ⟨a.replies ++ [.refreshed acquired.status calls], a.borrows, a.state⟩
      else
        match acquired.topology with
        | none => ⟨a.replies ++ [.refreshed Status.internalError calls], a.borrows, a.state⟩
        | some topology =>
            let result := clientInstallTopology (a.state.behind handle) (some topology)
              (World.start answers a.state.ledger)
            let installed := a.state.leave result.client result.world.ledger
            if release ≠ 0 then
              let b := releasing installed
              ⟨a.replies ++ .refreshed result.status (calls ++ [.release release context topology]) ::
                  b.replies,
                a.borrows ++ (.taken topology :: b.borrows ++ [.returned topology]), b.state⟩
            else ⟨a.replies ++ [.refreshed result.status calls], a.borrows, installed⟩

/-! ### Executions -/

/-- Whether a call is a refresh. -/
def Op.isRefresh : Op → Bool
  | .refreshTopology .. => true
  | .installTopology .. | .submit .. | .pollEvents .. => false

/-- The calls of an execution, one after another: `acquiring` and `releasing` are those the callbacks
of a refresh make. -/
inductive Calls where
  | done
  | plain (call : {op : Op // op.isRefresh = false}) (rest : Calls)
  | refresh (handle : Handle) (provider : Option (Ref DiscoveryProvider)) (acquiring : Calls)
      (acquired : AcquireAnswer) (answers : Answers) (releasing rest : Calls)

/-- What the calls do. -/
def Calls.perform : Calls → State → Performed
  | .done, s => ⟨[], [], s⟩
  | .plain call rest, s =>
      let (reply, t) := step s call.val
      Performed.andThen ⟨[reply], [], t⟩ rest.perform
  | .refresh handle provider acquiring acquired answers releasing rest, s =>
      (refreshReentrant handle provider acquiring.perform acquired answers releasing.perform
        s).andThen rest.perform

/-! ### The calls, one after another -/

/-- What a refresh captures: whether it may use its provider does not depend on what is in the
client. -/
def capturedBy (handle : Handle) (provider : Option (Ref DiscoveryProvider)) :
    Except Status DiscoveryProvider :=
  validateProvider (match handle with | .null => none | .self => some Client.zero) provider

/-- The topology a call is lent: what `acquire` stored when it returned `OK`, if the provider has a
`release`. -/
def Op.lent : Op → Option (Ref CallerTopology)
  | .refreshTopology handle provider acquired _ =>
      match capturedBy handle provider with
      | .error _ => none
      | .ok captured =>
          if acquired.status = Status.ok ∧ captured.release ≠ 0 then acquired.topology else none
  | .installTopology .. | .submit .. | .pollEvents .. => none

/-- A refresh between the calls `acquiring` of its `acquire` and the calls `releasing` of its
`release`, as far as these are called. -/
def flatRefresh (handle : Handle) (provider : Option (Ref DiscoveryProvider)) (acquiring : List Op)
    (acquired : AcquireAnswer) (answers : Answers) (releasing : List Op) : List Op :=
  let refresh := Op.refreshTopology handle provider acquired answers
  match capturedBy handle provider with
  | .error _ => [refresh]
  | .ok _ => acquiring ++ refresh :: if refresh.lent.isSome then releasing else []

/-- The calls of an execution, one after another. -/
def Calls.flatten : Calls → List Op
  | .done => []
  | .plain call rest => call.val :: rest.flatten
  | .refresh handle provider acquiring acquired answers releasing rest =>
      flatRefresh handle provider acquiring.flatten acquired answers releasing.flatten ++
        rest.flatten

lemma validateProvider_behind (s : State) (handle : Handle)
    (provider : Option (Ref DiscoveryProvider)) :
    validateProvider (s.behind handle) provider = capturedBy handle provider := by
  cases handle <;> cases provider <;> rfl

end SolanaTpuClient
