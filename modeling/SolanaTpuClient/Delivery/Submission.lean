import SolanaTpuClient.Delivery.Admission
import SolanaTpuClient.Delivery.Events
import SolanaTpuClient.Delivery.Resolution
import SolanaTpuClient.Delivery.Route

/-!
`solana_delivery_client_submit` of `src/solana_delivery_submission.c`.

The locals that the label `cleanup` frees are a stack frame (`SubmitFrame`) together with the
client, which a submission changes in place; each part of the body between two allocations is a
procedure over the frame. `submitPrepare` is the body up to the check of the queue capacity,
`submitCommit` the rest.
-/

namespace SolanaTpuClient

open ByteMemory Procedure

/-! ### The frame of a submission -/

namespace Block

variable {α : Type}

/-- What a heap pointer points to. -/
def dataOf (p : Option (Block α)) : Option α := p.map Block.data

/-- A store through a heap pointer. -/
def store (p : Option (Block α)) (data : Option α) : Option (Block α) :=
  p.map fun b => { b with data := data.getD b.data }

@[simp] lemma dataOf_some (b : Block α) : dataOf (some b) = some b.data := rfl

@[simp] lemma store_some (b : Block α) (data : α) :
    store (some b) (some data) = some { b with data := data } := rfl

end Block

/-- The locals of `solana_delivery_client_submit` that `cleanup` frees, with the client and the
world. `next` is the `next` link of the record `request`. -/
structure SubmitFrame where
  client : Client
  world : World
  candidates : Option (Block (List TopologyCandidate))
  routes : Option (Block (List RouteTarget))
  transactionCopy : Option (Block (List UInt8))
  ownedTargets : Option (Block (List OwnedRequestTarget))
  request : Option (Block OwnedRequest)
  next : List (Block OwnedRequest)

namespace SubmitFrame

/-- The frame in which the body starts. -/
def enter (s : CallState) : SubmitFrame := ⟨s.client, s.world, none, none, none, none, none, []⟩

/-- Runs a procedure that knows only the world. -/
def onWorld {α : Type} (x : EStateM Status World α) : EStateM Status SubmitFrame α :=
  zoom SubmitFrame.world (fun w f => { f with world := w }) x

end SubmitFrame

/-! ### The parts of the body -/

/-- `SUBMIT_OPTIONS_MIN_SIZE` -/
def submitOptionsMinSize : ℕ := 24

/-- `SOLANA_DELIVERY_SUBMIT_FLAGS_NONE` -/
def submitFlagsNone : UInt32 := 0

/-- `SOLANA_DELIVERY_REQUEST_ID_NONE` -/
def requestIdNone : UInt64 := 0

/-- `SOLANA_DELIVERY_ATTEMPT_ID_NONE` -/
def attemptIdNone : UInt64 := 0

/-- `SOLANA_DELIVERY_EVENT_CLASS_REQUEST` -/
def eventClassRequest : UInt32 := 1

/-- `SOLANA_DELIVERY_REQUEST_EVENT_ACCEPTED` -/
def requestEventAccepted : UInt32 := 1

/-- `validate_submit_options` -/
def validateSubmitOptions (options : Option (Ref SubmitOptions)) :
    Except Status SubmissionPolicy :=
  match options with
  | none => .error Status.invalidArgument
  | some r =>
      if pointerIsAlignedFor (some r) 8 = false then .error Status.invalidArgument
      else if r.val.structSize.toNat < submitOptionsMinSize then .error Status.invalidArgument
      else if r.val.flags ≠ submitFlagsNone then .error Status.unsupported
      else if r.val.reserved0 ≠ 0 ∨ r.val.maxTopologyAgeNs = 0 ∨ r.val.targetLimit = 0 then
        .error Status.invalidArgument
      else .ok ⟨r.val.maxTopologyAgeNs, r.val.targetLimit.toNat⟩

/-- `allocate_array`, the zeroed array having the contents `data`; every caller passes a non-null
client and a non-null `out_pointer`. -/
def allocateArray {α : Type} (count elementSize : ℕ) (data : α) :
    EStateM Status World (Option (Block α)) := do
  require (elementSize ≠ 0) Status.internalError
  if count = 0 then pure none
  else do
    require (¬ count > sizeMax wordBits / elementSize) Status.resourceExhausted
    let pointer ← World.calloc data
    require (pointer.isSome = true) Status.resourceExhausted
    pure pointer

/-- One round of the loop of `materialize_targets`. -/
def materializeRound (client : Client) (routes : List RouteTarget)
    (targets : List OwnedRequestTarget) (index : ℕ) : Except Status (List OwnedRequestTarget) :=
  let route := routes.getD index RouteTarget.zero
  if route.leaderIndex ≥ client.topology.view.leaderCount ∨
      route.validatorIndex ≥ client.topology.view.validatorCount ∨
      route.endpointIndex ≥ client.topology.view.endpointCount then
    .error Status.internalError
  else
    .ok (targets.set index
      { leaderIndex := route.leaderIndex
        validatorIndex := route.validatorIndex
        endpointIndex := route.endpointIndex
        validatorIdentity := (client.topology.validator route.validatorIndex.toNat).identity
        endpoint := client.topology.endpoint route.endpointIndex.toNat })

/-- `materialize_targets`, with the array behind `targets` when it succeeds. -/
def materializeTargets (client : Client) (routes : Option (List RouteTarget)) (routeCount : ℕ)
    (targets : Option (List OwnedRequestTarget)) : Except Status (List OwnedRequestTarget) :=
  match routes, targets with
  | some routes, some targets =>
      if routeCount = 0 then .error Status.internalError
      else (List.range routeCount).foldlM (materializeRound client routes) targets
  | _, _ => .error Status.internalError

/-- The candidates are allocated and resolved. -/
def resolveCandidates (routingSlot : UInt64) (candidateCount : ℕ) :
    EStateM Status SubmitFrame PUnit := do
  let candidates ← SubmitFrame.onWorld (allocateArray candidateCount TopologyCandidate.size
    (List.replicate candidateCount TopologyCandidate.zero))
  modify fun f => { f with candidates := candidates }
  let f ← get
  let resolved := resolveSlot (some f.client) routingSlot (Block.dataOf f.candidates)
    candidateCount (some 0)
  modify fun f => { f with candidates := Block.store f.candidates resolved.candidates }
  require (resolved.status = Status.ok) resolved.status
  require (resolved.outCount.getD 0 = candidateCount) Status.internalError

/-- The routes are sized, allocated and planned; the result is `target_count`. -/
def selectRoutes (candidateCount targetLimit : ℕ) : EStateM Status SubmitFrame ℕ := do
  let f ← get
  let sizing := planRoutes (Block.dataOf f.candidates) candidateCount targetLimit none 0
    (some 0) (some 0)
  require (sizing.status = Status.resourceExhausted) sizing.status
  let targetCount := sizing.outTargetCount.getD 0
  let uniqueTargetCount := sizing.outUniqueTargetCount.getD 0
  require (¬(targetCount = 0 ∨ uniqueTargetCount < targetCount)) Status.internalError
  let routes ← SubmitFrame.onWorld (allocateArray targetCount RouteTarget.size
    (List.replicate targetCount RouteTarget.zero))
  modify fun f => { f with routes := routes }
  let f ← get
  let planned := planRoutes (Block.dataOf f.candidates) candidateCount targetLimit
    (Block.dataOf f.routes) targetCount (some 0) (some 0)
  modify fun f => { f with routes := Block.store f.routes planned.targets }
  require (planned.status = Status.ok) planned.status
  require (¬(planned.outTargetCount.getD 0 ≠ targetCount ∨
    planned.outUniqueTargetCount.getD 0 ≠ uniqueTargetCount)) Status.internalError
  pure targetCount

/-- The transaction is copied. -/
def copyTransaction (transactionBytes : Bytes) (transactionLength : UInt64) :
    EStateM Status SubmitFrame PUnit := do
  let copy ← SubmitFrame.onWorld (allocateArray 1 transactionLength.toNat
    (List.replicate transactionLength.toNat 0))
  modify fun f => { f with transactionCopy := copy }
  modify fun f => { f with
    transactionCopy :=
      Block.store f.transactionCopy (some (slice transactionBytes 0 transactionLength.toNat)) }

/-- The targets are allocated and materialized. -/
def copyTargets (targetCount : ℕ) : EStateM Status SubmitFrame PUnit := do
  let ownedTargets ← SubmitFrame.onWorld (allocateArray targetCount OwnedRequestTarget.size
    (List.replicate targetCount OwnedRequestTarget.zero))
  modify fun f => { f with ownedTargets := ownedTargets }
  let f ← get
  let targets ← ofResult (materializeTargets f.client (Block.dataOf f.routes) targetCount
    (Block.dataOf f.ownedTargets))
  modify fun f => { f with ownedTargets := Block.store f.ownedTargets (some targets) }

/-- The record that `submit` fills in. -/
def acceptedRequest (f : SubmitFrame) (transactionLength routingSlot : UInt64) (targetCount : ℕ) :
    OwnedRequest where
  requestId := f.client.nextRequestId
  topologyGeneration := f.client.topology.view.generation
  routingSlot := routingSlot
  transactionBytes := f.transactionCopy
  transactionLength := transactionLength
  targets := f.ownedTargets
  targetCount := targetCount
  state := requestStateAccepted
  nextEventSequence := 2

/-- The record is allocated and filled in; the result is `request_id`. -/
def fillRequest (transactionLength routingSlot : UInt64) (targetCount : ℕ) :
    EStateM Status SubmitFrame UInt64 := do
  let request ← SubmitFrame.onWorld (allocateArray 1 OwnedRequest.size OwnedRequest.zero)
  modify fun f => { f with request := request }
  let f ← get
  require (f.client.nextRequestId ≠ requestIdNone) Status.resourceExhausted
  modify fun f => { f with
    request := Block.store f.request
      (some (acceptedRequest f transactionLength routingSlot targetCount))
    next := f.client.requestHead }
  pure f.client.nextRequestId

/-- The body of `solana_delivery_client_submit` from the first allocation up to the check of the
queue capacity; the result is `request_id`. -/
def submitPrepare (transactionBytes : Bytes) (transactionLength : UInt64)
    (policy : SubmissionPolicy) (routingSlot : UInt64) (candidateCount : ℕ) :
    EStateM Status SubmitFrame UInt64 := do
  resolveCandidates routingSlot candidateCount
  let targetCount ← selectRoutes candidateCount policy.targetLimit
  copyTransaction transactionBytes transactionLength
  copyTargets targetCount
  fillRequest transactionLength routingSlot targetCount

/-- The event of an accepted request. -/
def acceptedEvent (requestId acceptedTimeNs : UInt64) : Event where
  structSize := UInt32.ofNat Event.size
  eventClass := eventClassRequest
  eventCode := requestEventAccepted
  diagnosticCode := 0
  requestId := requestId
  attemptId := attemptIdNone
  requestSequence := 1
  monotonicTimeNs := acceptedTimeNs
  reserved0 := 0
  reserved1 := 0

/-- The request identifier after `requestId`. -/
def advanceRequestId (requestId : UInt64) : UInt64 :=
  if requestId = uint64Max then requestIdNone else requestId + 1

/-- The body from the check of the queue capacity up to the label `cleanup`. -/
def submitCommit (requestId : UInt64) : EStateM Status SubmitFrame UInt64 := do
  let f ← get
  require (eventQueueHasCapacity (some f.client) = true) Status.resourceExhausted
  let acceptedTime ← SubmitFrame.onWorld World.monotonicTime
  require (¬ acceptedTime < f.client.topology.receivedMonotonicNs) Status.internalError
  let client ← ofResult
    (eventQueuePush (some f.client) (some (acceptedEvent requestId acceptedTime)))
  modify fun f => { f with client := client }
  -- `request` is not null here: one record has been allocated
  modify fun f => { f with
    client := { f.client with
      requestHead := f.request.toList ++ f.next
      nextRequestId := advanceRequestId requestId } }
  pure requestId

/-- The frees at the label `cleanup`. -/
def submitCleanup (status : Status) (f : SubmitFrame) : CallState where
  client := f.client
  world :=
    let w := (f.world.free (Block.idOf f.candidates)).free (Block.idOf f.routes)
    if status ≠ Status.ok then
      ((w.free (Block.idOf f.transactionCopy)).free (Block.idOf f.ownedTargets)).free
        (Block.idOf f.request)
    else w

/-- Runs the body of a submission, which leaves through the label `cleanup`. -/
def withSubmitFrame (body : EStateM Status SubmitFrame UInt64) : EStateM Status CallState UInt64 :=
  fun s =>
    match body (SubmitFrame.enter s) with
    | .ok requestId f => .ok requestId (submitCleanup Status.ok f)
    | .error status f => .error status (submitCleanup status f)

lemma withSubmitFrame_of_ok {body : EStateM Status SubmitFrame UInt64} {s : CallState}
    {requestId : UInt64} {f : SubmitFrame} (h : body (SubmitFrame.enter s) = .ok requestId f) :
    withSubmitFrame body s = .ok requestId (submitCleanup Status.ok f) := by
  rw [withSubmitFrame, h]

lemma withSubmitFrame_of_error {body : EStateM Status SubmitFrame UInt64} {s : CallState}
    {status : Status} {f : SubmitFrame} (h : body (SubmitFrame.enter s) = .error status f) :
    withSubmitFrame body s = .error status (submitCleanup status f) := by
  rw [withSubmitFrame, h]

/-- The part of `solana_delivery_client_submit` between the checks of its pointers and its first
local pointer; the results are the policy, `routing_slot` and `candidate_count`. -/
def submitEntry (options : Option (Ref SubmitOptions)) :
    EStateM Status CallState (SubmissionPolicy × UInt64 × ℕ) := do
  let policy ← ofResult (validateSubmitOptions options)
  let s ← get
  CallState.onWorld (evaluateSubmissionPolicy (some s.client) (some policy))
  let routingSlot := s.client.topology.view.currentSlot
  let sizing := resolveSlot (some s.client) routingSlot none 0 (some 0)
  require (sizing.status = Status.resourceExhausted) sizing.status
  let candidateCount := sizing.outCount.getD 0
  require (candidateCount ≠ 0) Status.internalError
  pure (policy, routingSlot, candidateCount)

/-- `solana_delivery_client_submit` after the checks of its pointers. -/
def submit (transactionBytes : Bytes) (transactionLength : UInt64)
    (options : Option (Ref SubmitOptions)) : EStateM Status CallState UInt64 := do
  let (policy, routingSlot, candidateCount) ← submitEntry options
  withSubmitFrame (do
    let requestId ←
      submitPrepare transactionBytes transactionLength policy routingSlot candidateCount
    submitCommit requestId)

/-- What `solana_delivery_client_submit` returns, and what `out_request_id` points to. -/
structure SubmitResult extends CallResult where
  outRequestId : Option UInt64

/-- `solana_delivery_client_submit`. The options and the transaction are what is read through their
pointers after `*out_request_id` has been cleared, which is what they were before unless they
overlap it. -/
def clientSubmit (client : Option Client) (transactionBytes : Option Bytes)
    (transactionLength : UInt64) (options : Option (Ref SubmitOptions))
    (outRequestId : Option (Ref UInt64)) (w : World) : SubmitResult :=
  if pointerIsAlignedFor outRequestId 8 = false then
    ⟨⟨Status.invalidArgument, client, w⟩, outRequestId.map Ref.val⟩
  else
    match client, transactionBytes with
    | some c, some bytes =>
        if transactionLength = 0 then ⟨⟨Status.invalidArgument, some c, w⟩, some requestIdNone⟩
        else
          match submit bytes transactionLength options ⟨c, w⟩ with
          | .ok requestId s => ⟨⟨Status.ok, some s.client, s.world⟩, some requestId⟩
          | .error status s => ⟨⟨status, some s.client, s.world⟩, some requestIdNone⟩
    | _, _ => ⟨⟨Status.invalidArgument, client, w⟩, some requestIdNone⟩

end SolanaTpuClient
