import SolanaTpuClient.Delivery.Discovery

/-!
`solana_delivery_client_refresh_topology` of `src/solana_delivery_discovery.c`, with the provider's
side of the call.

`clientRefreshTopology` is told what `acquire` answers. Here the callbacks are functions that change
a provider-side state `π`, which holds the memory of the descriptor, so that the code reads the
descriptor before `acquire` may have rewritten it. The calls are recorded in the order they are made
in, the installation attempt among them:

* `refreshTopology`: the refresh as a function of the client and of the provider's side;
* `refreshTopology_rejected`, `refreshTopology_failed`, `refreshTopology_null` and
  `refreshTopology_borrowed`: what it does at each of its returns;
* `refreshTopology_refines`: forgetting the provider's side leaves `clientRefreshTopology`.
-/

namespace SolanaTpuClient

variable {π : Type}

/-- The callbacks of a discovery provider, on the state `π` of the provider's side. -/
structure ProviderCallbacks (π : Type) where
  /-- a call of the `acquire` callback: what it returns, and what it stores -/
  acquire : (fn context : Addr) → π → (Status × Option (Ref CallerTopology)) × π
  /-- a call of the `release` callback -/
  release : (fn context : Addr) → Ref CallerTopology → π → π
  /-- what the client's own clock and allocator callbacks do to the provider's side while the
  topology is installed -/
  installing : CallResult → π → π

/-- What a refresh does, in order, and what it is answered. -/
inductive BorrowEvent where
  | acquire (fn context : Addr) (status : Status) (topology : Option (Ref CallerTopology))
  | install (topology : Ref CallerTopology) (status : Status)
  | release (fn context : Addr) (topology : Ref CallerTopology)

/-- The call to the provider an event is, if it is one. -/
def BorrowEvent.call? : BorrowEvent → Option ProviderCall
  | .acquire fn context _ _ => some (.acquire fn context)
  | .install _ _ => none
  | .release fn context topology => some (.release fn context topology)

@[simp] lemma BorrowEvent.call?_acquire (fn context : Addr) (status : Status)
    (topology : Option (Ref CallerTopology)) :
    (BorrowEvent.acquire fn context status topology).call? = some (.acquire fn context) := rfl

@[simp] lemma BorrowEvent.call?_install (topology : Ref CallerTopology) (status : Status) :
    (BorrowEvent.install topology status).call? = none := rfl

@[simp] lemma BorrowEvent.call?_release (fn context : Addr) (topology : Ref CallerTopology) :
    (BorrowEvent.release fn context topology).call? = some (.release fn context topology) := rfl

/-- The client, the world its callbacks answer from, the provider's side and what was done so
far. -/
structure Borrowing (π : Type) where
  client : Option Client
  world : World
  side : π
  trace : List BorrowEvent

/-- The descriptor a pointer leads to, as it stands on the provider's side. -/
def descriptorAt (provider : Option (Ref (π → DiscoveryProvider))) (side : π) :
    Option (Ref DiscoveryProvider) :=
  provider.map fun r => ⟨r.addr, r.ne_null, r.val side⟩

namespace Borrowing

/-- `acquire(context, &topology)` -/
def acquire (P : ProviderCallbacks π) (fn context : Addr) (b : Borrowing π) :
    (Status × Option (Ref CallerTopology)) × Borrowing π :=
  let (answer, side) := P.acquire fn context b.side
  (answer,
    { b with side := side, trace := b.trace ++ [.acquire fn context answer.1 answer.2] })

/-- `solana_delivery_client_install_topology(client, topology)` -/
def install (P : ProviderCallbacks π) (topology : Ref CallerTopology) (b : Borrowing π) :
    Status × Borrowing π :=
  let result := clientInstallTopology b.client (some topology) b.world
  (result.status, ⟨result.client, result.world, P.installing result b.side,
    b.trace ++ [.install topology result.status]⟩)

/-- `release(context, topology)` -/
def release (P : ProviderCallbacks π) (fn context : Addr) (topology : Ref CallerTopology)
    (b : Borrowing π) : Borrowing π :=
  { b with
    side := P.release fn context topology b.side
    trace := b.trace ++ [.release fn context topology] }

@[simp] lemma acquire_client (P : ProviderCallbacks π) (fn context : Addr) (b : Borrowing π) :
    (b.acquire P fn context).2.client = b.client := rfl

@[simp] lemma acquire_world (P : ProviderCallbacks π) (fn context : Addr) (b : Borrowing π) :
    (b.acquire P fn context).2.world = b.world := rfl

@[simp] lemma acquire_trace (P : ProviderCallbacks π) (fn context : Addr) (b : Borrowing π) :
    (b.acquire P fn context).2.trace = b.trace ++ [.acquire fn context
      (b.acquire P fn context).1.1 (b.acquire P fn context).1.2] := rfl

@[simp] lemma release_client (P : ProviderCallbacks π) (fn context : Addr)
    (topology : Ref CallerTopology) (b : Borrowing π) :
    (b.release P fn context topology).client = b.client := rfl

@[simp] lemma release_world (P : ProviderCallbacks π) (fn context : Addr)
    (topology : Ref CallerTopology) (b : Borrowing π) :
    (b.release P fn context topology).world = b.world := rfl

@[simp] lemma release_trace (P : ProviderCallbacks π) (fn context : Addr)
    (topology : Ref CallerTopology) (b : Borrowing π) :
    (b.release P fn context topology).trace = b.trace ++ [.release fn context topology] := rfl

end Borrowing

/-- `solana_delivery_client_refresh_topology` -/
def refreshTopology (P : ProviderCallbacks π) (provider : Option (Ref (π → DiscoveryProvider)))
    (b : Borrowing π) : Status × Borrowing π :=
  match validateProvider b.client (descriptorAt provider b.side) with
  | .error status => (status, b)
  | .ok captured =>
      let context := captured.context
      let acquire := captured.acquire
      let release := captured.release
      match b.acquire P acquire context with
      | ((status, topology), b) =>
          if status ≠ Status.ok then (status, b)
          else
            match topology with
            | none => (Status.internalError, b)
            | some topology =>
                match b.install P topology with
                | (status, b) =>
                    (status, if release ≠ 0 then b.release P release context topology else b)

section Returns

variable {P : ProviderCallbacks π} {provider : Option (Ref (π → DiscoveryProvider))}
  {b : Borrowing π} {d : DiscoveryProvider} {topology : Ref CallerTopology} {e : Status}

lemma refreshTopology_rejected
    (h : validateProvider b.client (descriptorAt provider b.side) = .error e) :
    refreshTopology P provider b = (e, b) := by
  rw [refreshTopology, h]

/-- A failed acquisition. -/
lemma refreshTopology_failed
    (h : validateProvider b.client (descriptorAt provider b.side) = .ok d)
    (hs : (b.acquire P d.acquire d.context).1.1 ≠ Status.ok) :
    refreshTopology P provider b
      = ((b.acquire P d.acquire d.context).1.1, (b.acquire P d.acquire d.context).2) := by
  rw [refreshTopology, h]
  exact if_pos hs

/-- An acquisition that succeeds without a topology. -/
lemma refreshTopology_null
    (h : validateProvider b.client (descriptorAt provider b.side) = .ok d)
    (hs : (b.acquire P d.acquire d.context).1 = (Status.ok, none)) :
    refreshTopology P provider b = (Status.internalError, (b.acquire P d.acquire d.context).2) := by
  rw [refreshTopology, h]
  simp [hs]

/-- An acquired topology is installed and given back through the pointers captured before it was
acquired. -/
lemma refreshTopology_borrowed
    (h : validateProvider b.client (descriptorAt provider b.side) = .ok d)
    (hs : (b.acquire P d.acquire d.context).1 = (Status.ok, some topology)) :
    refreshTopology P provider b
      = (((b.acquire P d.acquire d.context).2.install P topology).1,
          if d.release ≠ 0 then
            ((b.acquire P d.acquire d.context).2.install P topology).2.release P
              d.release d.context topology
          else ((b.acquire P d.acquire d.context).2.install P topology).2) := by
  rw [refreshTopology, h]
  simp [hs]

end Returns

/-- What `acquire` answers a refresh whose descriptor is `d`. -/
def acquireAnswer (P : ProviderCallbacks π) (provider : Ref (π → DiscoveryProvider))
    (d : DiscoveryProvider) (side : π) : AcquireAnswer :=
  let (answer, side) := P.acquire d.acquire d.context side
  ⟨answer.1, answer.2, provider.val side⟩

/-- **The refresh without the provider's side** is `clientRefreshTopology` with what `acquire`
answers: it returns the same status, leaves the same client and makes the same calls. -/
theorem refreshTopology_refines (P : ProviderCallbacks π)
    (provider : Option (Ref (π → DiscoveryProvider))) (b : Borrowing π) :
    ∃ answer : AcquireAnswer,
      let result :=
        clientRefreshTopology b.client (descriptorAt provider b.side) answer b.world
      let refreshed := refreshTopology P provider b
      refreshed.1 = result.status ∧ refreshed.2.client = result.client ∧
        refreshed.2.world = result.world ∧
        refreshed.2.trace.filterMap BorrowEvent.call?
          = b.trace.filterMap BorrowEvent.call? ++ result.calls := by
  cases hp : validateProvider b.client (descriptorAt provider b.side) with
  | error e =>
      refine ⟨⟨e, none, ⟨0, 0, 0, 0, 0⟩⟩, ?_⟩
      simp [refreshTopology_rejected hp, clientRefreshTopology, hp]
  | ok d =>
      obtain ⟨r, hr⟩ : ∃ r, provider = some r := by
        cases provider with
        | none => cases hc : b.client <;> simp [validateProvider, descriptorAt, hc] at hp
        | some r => exact ⟨r, rfl⟩
      refine ⟨acquireAnswer P r d b.side, ?_⟩
      rcases hs : (b.acquire P d.acquire d.context).1 with ⟨status, topology⟩
      have hanswer : (acquireAnswer P r d b.side).status = status ∧
          (acquireAnswer P r d b.side).topology = topology :=
        ⟨congrArg Prod.fst hs, congrArg Prod.snd hs⟩
      by_cases hok : status = Status.ok
      · subst hok
        cases topology with
        | none =>
            rw [refreshTopology_null hp hs]
            simp [clientRefreshTopology, hp, hanswer]
        | some topology =>
            rw [refreshTopology_borrowed hp hs]
            by_cases hrel : d.release = 0
            · simp [clientRefreshTopology, hp, hanswer, hrel, Borrowing.install]
            · simp [clientRefreshTopology, hp, hanswer, hrel, Borrowing.install,
                List.filterMap_cons]
      · rw [refreshTopology_failed hp (by rwa [hs])]
        simp [clientRefreshTopology, hp, hanswer, hs, hok]

end SolanaTpuClient
