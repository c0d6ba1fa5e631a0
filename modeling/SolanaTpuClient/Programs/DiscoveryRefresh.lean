import SolanaTpuClient.Delivery.Borrow
import SolanaTpuClient.Programs.LocalAcceptance

/-!
The program `examples/discovery_refresh.c`: it creates a client and refreshes its topology through a
provider that lends the topology the program has on its stack and counts how often it is given back.
-/

namespace SolanaTpuClient

/-! ### The provider -/

/-- What of `example_provider_state_t` the callbacks use: the topology, with its address, and
`release_count`. -/
structure ExampleProviderState where
  topology : Ref CallerTopology
  releaseCount : UInt64

/-- `acquire_topology`; a refresh passes an `out_topology` that is not null. -/
def acquireTopology (context : Addr) (state : ExampleProviderState) :
    (Status × Option (Ref CallerTopology)) × ExampleProviderState :=
  if context = 0 then ((Status.invalidArgument, none), state)
  else ((Status.ok, some state.topology), state)

/-- `release_topology` -/
def releaseTopology (context : Addr) (topology : Ref CallerTopology) (state : ExampleProviderState) :
    ExampleProviderState :=
  if context ≠ 0 ∧ topology.addr = state.topology.addr then
    { state with releaseCount := state.releaseCount + 1 }
  else state

/-- The callbacks of the provider. They do not look at the address they are called at: a refresh
calls the two pointers of the descriptor it is given, which in this program are these functions. -/
def exampleProvider : ProviderCallbacks ExampleProviderState where
  acquire _ context := acquireTopology context
  release _ context := releaseTopology context
  installing _ state := state

/-! ### The program -/

/-- The address of a member of a variable. -/
def LocalAddr.field {n m : ℕ} (a : LocalAddr n) (offset : ℕ) (hm : m ∣ n) (hoffset : m ∣ offset) :
    LocalAddr m where
  val := a.val + offset
  ne_null := mt Nat.add_eq_zero_iff.mp fun h => a.ne_null h.1
  aligned :=
    Nat.mod_eq_zero_of_dvd (dvd_add (hm.trans (Nat.dvd_of_mod_eq_zero a.aligned)) hoffset)

/-- Where the variables of `main` and the callbacks are. -/
structure RefreshLocals where
  state : LocalAddr 8
  provider : LocalAddr 8
  acquireTopology : Addr
  acquireTopology_ne_null : acquireTopology ≠ 0
  releaseTopology : Addr
  releaseTopology_ne_null : releaseTopology ≠ 0

/-- What the system answers to the calls of the program. -/
structure RefreshHost where
  create : HostAnswers
  refresh : HostAnswers

namespace RefreshLocals

variable (l : RefreshLocals)

/-- `&state.validator` -/
def validator : LocalAddr 4 := l.state.field 0 (by decide) (by decide)

/-- `&state.endpoint` -/
def endpoint : LocalAddr 4 := l.state.field 48 (by decide) (by decide)

/-- `&state.association` -/
def association : LocalAddr 4 := l.state.field 80 (by decide) (by decide)

/-- `&state.leader` -/
def leader : LocalAddr 8 := l.state.field 96 (by decide) (by decide)

/-- `&state.topology` -/
def topology : LocalAddr 8 := l.state.field 128 (by decide) (by decide)

/-- `initialize_provider_state` -/
def initialProviderState : ExampleProviderState where
  topology := l.topology.ref
    (loopbackTopology l.validator.val l.endpoint.val l.association.val l.leader.val)
  releaseCount := 0

/-- `&provider` -/
def providerRef : Ref (ExampleProviderState → DiscoveryProvider) :=
  l.provider.ref fun _ =>
    { structSize := 32
      flags := discoveryProviderFlagsNone
      context := l.state.val
      acquire := l.acquireTopology
      release := l.releaseTopology }

end RefreshLocals

/-- `main` from the call of `solana_delivery_client_refresh_topology` on. -/
def refreshAndCheck (l : RefreshLocals) (host : RefreshHost) (s : State) : ProgramEnd :=
  let (status, b) := refreshTopology exampleProvider (some l.providerRef)
    ⟨some s.client.data, World.start host.refresh.answers s.ledger, l.initialProviderState, []⟩
  let s := s.leave b.client b.world.ledger
  ⟨if status = Status.ok ∧ b.side.releaseCount = 1 then 0 else 1, s.destroyed host.refresh⟩

/-- `main` -/
def discoveryRefreshMain (f : SystemFunctions) (l : RefreshLocals) (host : RefreshHost) :
    ProgramEnd :=
  match clientCreate f false (World.start host.create.answers Ledger.empty) with
  | .error _ w => ⟨1, w.ledger⟩
  | .ok client w => refreshAndCheck l host ⟨client, w.ledger⟩

end SolanaTpuClient
