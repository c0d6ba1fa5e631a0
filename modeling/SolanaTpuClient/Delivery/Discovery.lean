import SolanaTpuClient.Delivery.Topology

/-!
`solana_delivery_client_refresh_topology` of `src/solana_delivery_discovery.c`.

A provider callback may do anything to provider-side state, the descriptor included, but does not
operate on the client: what it does is given by `AcquireAnswer`. The calls made to the provider
are recorded in order.
-/

namespace SolanaTpuClient

open Procedure

/-- `solana_delivery_discovery_provider_t` -/
structure DiscoveryProvider where
  structSize : UInt32
  flags : UInt32
  context : Addr
  acquire : Addr
  release : Addr
deriving DecidableEq

/-- `DISCOVERY_PROVIDER_MIN_SIZE` -/
def discoveryProviderMinSize : ℕ := 32

/-- `SOLANA_DELIVERY_DISCOVERY_PROVIDER_FLAGS_NONE` -/
def discoveryProviderFlagsNone : UInt32 := 0

/-- What a call of `acquire` returns and stores, and what it leaves in the descriptor. -/
structure AcquireAnswer where
  status : Status
  topology : Option (Ref CallerTopology)
  descriptor : DiscoveryProvider

/-- A call made to the provider. -/
inductive ProviderCall where
  | acquire (fn context : Addr)
  | release (fn context : Addr) (topology : Ref CallerTopology)

/-- `validate_provider`, with the descriptor it has checked. -/
def validateProvider (client : Option Client) (provider : Option (Ref DiscoveryProvider)) :
    Except Status DiscoveryProvider :=
  match client, provider with
  | some _, some r =>
      if pointerIsAlignedFor (some r) 8 = false then .error Status.invalidArgument
      else if r.val.structSize.toNat < discoveryProviderMinSize then .error Status.invalidArgument
      else if r.val.flags ≠ discoveryProviderFlagsNone then .error Status.unsupported
      else if r.val.acquire = 0 then .error Status.invalidArgument
      else .ok r.val
  | _, _ => .error Status.invalidArgument

/-- What `solana_delivery_client_refresh_topology` returns, and the calls it made. -/
structure RefreshResult extends CallResult where
  calls : List ProviderCall

/-- `solana_delivery_client_refresh_topology` -/
def clientRefreshTopology (client : Option Client) (provider : Option (Ref DiscoveryProvider))
    (answer : AcquireAnswer) (w : World) : RefreshResult :=
  match validateProvider client provider with
  | .error status => ⟨⟨status, client, w⟩, []⟩
  | .ok captured =>
      -- the callbacks are captured before `acquire` may rewrite the descriptor
      let context := captured.context
      let acquire := captured.acquire
      let release := captured.release
      let calls := [ProviderCall.acquire acquire context]
      if answer.status ≠ Status.ok then ⟨⟨answer.status, client, w⟩, calls⟩
      else
        match answer.topology with
        | none => ⟨⟨Status.internalError, client, w⟩, calls⟩
        | some topology =>
            let result := clientInstallTopology client (some topology) w
            ⟨result, if release ≠ 0 then calls ++ [.release release context topology] else calls⟩

lemma validateProvider_ne_ok {client : Option Client} {provider : Option (Ref DiscoveryProvider)}
    {e : Status} (h : validateProvider client provider = .error e) : e ≠ Status.ok := by
  unfold validateProvider at h
  split at h
  · split_ifs at h <;> cases h <;> decide
  · cases h; decide

/-- The stages of a refresh before its installation attempt. -/
def acquireStages (client : Option Client) (provider : Option (Ref DiscoveryProvider))
    (answer : AcquireAnswer) : List (Bool × Status) :=
  [Status.stageOf (validateProvider client provider), (answer.status == Status.ok, answer.status),
    (answer.topology.isSome, Status.internalError)]

/-- What happens between the arguments of a refresh and its installation attempt: it stops with the
status of the first stage that does not hold, or it reaches the attempt with the acquired
topology. -/
inductive RefreshOutcome (client : Option Client) (provider : Option (Ref DiscoveryProvider))
    (answer : AcquireAnswer) (w : World) : CallResult → Prop where
  | stopped {e : Status} : firstFailure (acquireStages client provider answer) = some e →
      e ≠ Status.ok → RefreshOutcome client provider answer w ⟨e, client, w⟩
  | attempted {topology : Ref CallerTopology} :
      firstFailure (acquireStages client provider answer) = none →
      answer.topology = some topology →
      RefreshOutcome client provider answer w (clientInstallTopology client (some topology) w)

/-- **A refresh** leaves the client alone and fails, or does what the installation of the acquired
topology does. -/
theorem clientRefreshTopology_cases (client : Option Client)
    (provider : Option (Ref DiscoveryProvider)) (answer : AcquireAnswer) (w : World) :
    RefreshOutcome client provider answer w
      (clientRefreshTopology client provider answer w).toCallResult := by
  rw [clientRefreshTopology]
  cases hp : validateProvider client provider with
  | error e =>
      refine .stopped ?_ (validateProvider_ne_ok hp)
      simp [acquireStages, Status.stageOf, hp]
  | ok captured =>
      by_cases hs : answer.status = Status.ok
      · simp only [hs, ne_eq, not_true_eq_false, if_false]
        cases ht : answer.topology with
        | none =>
            refine .stopped ?_ Status.internalError_ne_ok
            simp [acquireStages, Status.stageOf, hp, hs, ht]
        | some topology =>
            refine .attempted ?_ ht
            simp [acquireStages, Status.stageOf, hp, hs, ht]
      · simp only [ne_eq, hs, not_false_eq_true, if_true]
        refine .stopped ?_ hs
        simp [acquireStages, Status.stageOf, hp, hs]

end SolanaTpuClient
