import SolanaTpuClient.Lib.RingWindow
import SolanaTpuClient.Delivery.World
import SolanaTpuClient.Delivery.Validate

/-!
The records of `src/solana_delivery_internal.h`: owned topologies, accepted requests, the event
queue and the client.

The arrays of an owned topology are blocks of bytes, filled by copies and read by the record
types of the ABI; the `next` links of the accepted requests are the tail of a list.
-/

namespace SolanaTpuClient

open ByteMemory

/-! ### Owned topologies -/

/-- `solana_delivery_owned_topology_t` -/
structure OwnedTopology where
  view : Topology
  validators : Option (Block (List UInt8))
  endpoints : Option (Block (List UInt8))
  validatorEndpoints : Option (Block (List UInt8))
  leaders : Option (Block (List UInt8))
  receivedMonotonicNs : UInt64

namespace OwnedTopology

/-- What a `memset` to zero leaves of an owned topology. -/
def zero : OwnedTopology := ⟨Topology.zero, none, none, none, none, 0⟩

/-- The four array pointers, in the order they are released. -/
def pointers (o : OwnedTopology) : List (Option ℕ) :=
  [Block.idOf o.validators, Block.idOf o.endpoints, Block.idOf o.validatorEndpoints,
    Block.idOf o.leaders]

/-- The blocks of the four arrays. -/
def blocks (o : OwnedTopology) : Multiset ℕ := Ledger.blocksOfAll o.pointers

@[simp] lemma blocks_zero : zero.blocks = 0 := rfl

/-- `&owned->validators[i]` -/
def validator (o : OwnedTopology) (i : ℕ) : Validator :=
  Validator.decode (shift (ofList (Block.contents o.validators)) (i * Validator.size))

/-- `&owned->endpoints[i]` -/
def endpoint (o : OwnedTopology) (i : ℕ) : Endpoint :=
  Endpoint.decode (shift (ofList (Block.contents o.endpoints)) (i * Endpoint.size))

/-- `&owned->validator_endpoints[i]` -/
def validatorEndpoint (o : OwnedTopology) (i : ℕ) : ValidatorEndpoint :=
  ValidatorEndpoint.decode
    (shift (ofList (Block.contents o.validatorEndpoints)) (i * ValidatorEndpoint.size))

/-- `&owned->leaders[i]` -/
def leader (o : OwnedTopology) (i : ℕ) : Leader :=
  Leader.decode (shift (ofList (Block.contents o.leaders)) (i * Leader.size))

/-- The view of an owned topology as a caller would pass it on: its array pointers reach the
owned arrays. -/
def asCaller (o : OwnedTopology) : CallerTopology where
  view := o.view
  memory :=
    { validators := ofList (Block.contents o.validators)
      endpoints := ofList (Block.contents o.endpoints)
      validatorEndpoints := ofList (Block.contents o.validatorEndpoints)
      leaders := ofList (Block.contents o.leaders) }

end OwnedTopology

/-! ### Accepted requests -/

/-- `solana_delivery_owned_request_target_t` -/
structure OwnedRequestTarget where
  leaderIndex : UInt32
  validatorIndex : UInt32
  endpointIndex : UInt32
  validatorIdentity : Vector UInt8 32
  endpoint : Endpoint
deriving DecidableEq

/-- What `calloc` leaves of a request target. -/
def OwnedRequestTarget.zero : OwnedRequestTarget :=
  ⟨0, 0, 0, Vector.replicate 32 0,
    ⟨0, 0, 0, 0, 0, 0, 0, Vector.replicate 16 0, Vector.replicate 4 0⟩⟩

/-- `SOLANA_DELIVERY_REQUEST_STATE_ACCEPTED` -/
def requestStateAccepted : UInt32 := 1

/-- `solana_delivery_owned_request_t` without its `next` link. -/
structure OwnedRequest where
  requestId : UInt64
  topologyGeneration : UInt64
  routingSlot : UInt64
  transactionBytes : Option (Block (List UInt8))
  transactionLength : UInt64
  targets : Option (Block (List OwnedRequestTarget))
  targetCount : ℕ
  state : UInt32
  nextEventSequence : UInt64

/-- What `calloc` leaves of a request. -/
def OwnedRequest.zero : OwnedRequest := ⟨0, 0, 0, none, 0, none, 0, 0, 0⟩

/-- The pointers released with an accepted request, in order. -/
def requestPointers (r : Block OwnedRequest) : List (Option ℕ) :=
  [Block.idOf r.data.transactionBytes, Block.idOf r.data.targets, some r.id]

/-- The blocks of the accepted requests. -/
def requestBlocks (requests : List (Block OwnedRequest)) : Multiset ℕ :=
  Ledger.blocksOfAll (requests.flatMap requestPointers)

lemma requestBlocks_cons (r : Block OwnedRequest) (requests : List (Block OwnedRequest)) :
    requestBlocks (r :: requests)
      = Ledger.blocksOfAll (requestPointers r) + requestBlocks requests := by
  simp [requestBlocks]

/-! ### The event queue -/

/-- `SOLANA_DELIVERY_EVENT_QUEUE_CAPACITY` -/
def eventQueueCapacity : ℕ := 64

instance : NeZero eventQueueCapacity := ⟨by decide⟩

/-- `solana_delivery_event_queue_t` -/
structure EventQueue where
  entries : Fin eventQueueCapacity → Event
  head : ℕ
  count : ℕ

namespace EventQueue

/-- What `calloc` leaves of an event queue. -/
def zero : EventQueue := ⟨fun _ => Event.zero, 0, 0⟩

/-- The pending events, oldest first. -/
def pending (q : EventQueue) : List Event := RingWindow.window q.entries q.head q.count

@[simp] lemma pending_zero : zero.pending = [] := rfl

@[simp] lemma pending_length (q : EventQueue) : q.pending.length = q.count :=
  RingWindow.window_length

end EventQueue

/-! ### The client -/

/-- `struct solana_delivery_client` -/
structure Client where
  allocator : Allocator
  monotonicTimeFn : Addr
  monotonicTimeContext : Addr
  hasTopology : Bool
  topology : OwnedTopology
  nextRequestId : UInt64
  requestHead : List (Block OwnedRequest)
  eventQueue : EventQueue

/-- What `calloc` leaves of a client. -/
def Client.zero : Client :=
  ⟨⟨0, 0, 0⟩, 0, 0, false, OwnedTopology.zero, 0, [], EventQueue.zero⟩

/-- The blocks a client refers to. -/
def Client.blocks (c : Client) : Multiset ℕ := c.topology.blocks + requestBlocks c.requestHead

/-- A call on a non-null client: the client as it is being changed, and the world. -/
structure CallState where
  client : Client
  world : World

namespace CallState

/-- Runs a procedure that knows only the world. -/
def onWorld {α : Type} (x : EStateM Status World α) : EStateM Status CallState α :=
  Procedure.zoom CallState.world (fun w s => { s with world := w }) x

end CallState

/-! ### Policies, candidates and routes -/

/-- `solana_delivery_submission_policy_t` -/
structure SubmissionPolicy where
  maxTopologyAgeNs : UInt64
  targetLimit : ℕ
deriving DecidableEq

/-- `solana_delivery_topology_candidate_t` -/
structure TopologyCandidate where
  leaderIndex : UInt32
  validatorIndex : UInt32
  endpointIndex : UInt32
deriving DecidableEq

/-- `sizeof(solana_delivery_topology_candidate_t)` -/
def TopologyCandidate.size : ℕ := 12

/-- What `calloc` leaves of a candidate. -/
def TopologyCandidate.zero : TopologyCandidate := ⟨0, 0, 0⟩

/-- `solana_delivery_route_target_t` -/
structure RouteTarget where
  leaderIndex : UInt32
  validatorIndex : UInt32
  endpointIndex : UInt32
deriving DecidableEq

/-- `sizeof(solana_delivery_route_target_t)` -/
def RouteTarget.size : ℕ := 12

/-- What `calloc` leaves of a route target. -/
def RouteTarget.zero : RouteTarget := ⟨0, 0, 0⟩

/-- `sizeof(solana_delivery_owned_request_target_t)` -/
def OwnedRequestTarget.size : ℕ := 76

/-- `sizeof(solana_delivery_owned_request_t)` -/
def OwnedRequest.size : ℕ := 80

end SolanaTpuClient
