import SolanaTpuClient.Lib.TrapLoops
import SolanaTpuClient.Delivery.Submission
import SolanaTpuClient.Delivery.Words

/-!
The routing of a submission on words: the slot resolver, the route planner, `allocate_array` and
`materialize_targets` where `size_t` has any number `W` of bits.

Counts, capacities and output indices are a `BitVec W`, and what C leaves undefined has no value: an
access past the end of an array, a store through a null pointer, a division by zero. The functions
of `Delivery/Resolution.lean`, `Delivery/Route.lean` and `Delivery/Submission.lean` compute the same
on lists and numbers. `routeSubmission` is the part of `solana_delivery_client_submit` from the
first call of the resolver up to the filled targets.
-/

namespace SolanaTpuClient

open ByteMemory Traps

/-! ### Reading the owned arrays -/

/-- `&array[i]` of an owned array whose records have `size` bytes; undefined past its end. -/
def ownedRecordAt {α : Type} (decode : Bytes → α) (size : ℕ) (array : Option (Block (List UInt8)))
    (i : ℕ) : Option α :=
  (read (Block.contents array) (i * size) size).map fun record => decode (ofList record)

/-! ### The resolver -/

/-- The nested loop of the resolver, whose reads may trap. -/
def forSlotCandidatesWord {m : Type → Type} [Monad m] [MonadLiftT Option m] {σ : Type}
    (topology : OwnedTopology) (slot : UInt64) (body : σ → TopologyCandidate → m σ) (init : σ) :
    m σ :=
  (List.range topology.view.leaderCount.toNat).foldlM (fun s leaderIndex => do
    let leader ← ownedRecordAt Leader.decode Leader.size topology.leaders leaderIndex
    if leaderContainsSlot leader slot then
      (List.range topology.view.validatorEndpointCount.toNat).foldlM (fun s associationIndex => do
        let association ← ownedRecordAt ValidatorEndpoint.decode ValidatorEndpoint.size
          topology.validatorEndpoints associationIndex
        if association.validatorIndex = leader.validatorIndex then
          body s ⟨UInt32.ofNat leaderIndex, leader.validatorIndex, association.endpointIndex⟩
        else pure s) s
    else pure s) init

/-- `count_slot_candidates` -/
def countSlotCandidatesWord (W : ℕ) (client : Client) (slot : UInt64) :
    Option (Except Status (BitVec W)) :=
  (forSlotCandidatesWord client.topology slot
    (fun count _ => countWord Status.resourceExhausted count) 0).run

/-- The loop of `solana_delivery_client_resolve_slot` that fills `candidates`. -/
def fillSlotCandidatesWord (W : ℕ) (client : Client) (slot : UInt64)
    (candidates : List TopologyCandidate) : Option (List TopologyCandidate) :=
  (forSlotCandidatesWord client.topology slot emitWord (candidates, (0 : BitVec W))).map Prod.fst

/-- What `solana_delivery_client_resolve_slot` returns and stores. -/
structure ResolveResultWord (W : ℕ) where
  status : Status
  outCount : Option (BitVec W)
  candidates : Option (List TopologyCandidate)

/-- `solana_delivery_client_resolve_slot` -/
def resolveSlotWord {W : ℕ} (client : Option Client) (slot : UInt64)
    (candidates : Option (List TopologyCandidate)) (capacity : BitVec W)
    (outCount : Option (BitVec W)) : Option (ResolveResultWord W) :=
  match outCount with
  | none => some ⟨Status.invalidArgument, none, candidates⟩
  | some _ =>
      match client with
      | none => some ⟨Status.invalidArgument, some 0, candidates⟩
      | some c =>
          if capacity ≠ 0 ∧ candidates = none then
            some ⟨Status.invalidArgument, some 0, candidates⟩
          else if c.hasTopology = false then
            some ⟨Status.topologyUnavailable, some 0, candidates⟩
          else do
            match ← countSlotCandidatesWord W c slot with
            | .error status => return ⟨status, some 0, candidates⟩
            | .ok required =>
                if required = 0 then return ⟨Status.topologyUnavailable, some 0, candidates⟩
                else if capacity < required then
                  return ⟨Status.resourceExhausted, some required, candidates⟩
                else
                  let array ← candidates
                  let filled ← fillSlotCandidatesWord W c slot array
                  return ⟨Status.ok, some required, some filled⟩

/-! ### The planner -/

/-- `candidate_is_first_occurrence` -/
def candidateIsFirstOccurrenceWord (candidates : List TopologyCandidate) (index : ℕ) :
    Option Bool :=
  (List.range index).allM fun prior => do
    let left ← load candidates prior
    let right ← load candidates index
    return !candidateHasSameTarget left right

/-- `count_unique_targets` -/
def countUniqueTargetsWord {W : ℕ} (candidates : List TopologyCandidate)
    (candidateCount : BitVec W) : Option (BitVec W) :=
  (List.range candidateCount.toNat).foldlM (fun uniqueCount index => do
    let first ← candidateIsFirstOccurrenceWord candidates index
    return if first then uniqueCount + 1 else uniqueCount) 0

/-- The loop of `solana_delivery_plan_routes` that fills `targets`. -/
def emitTargetsWord {W : ℕ} (candidates : List TopologyCandidate)
    (candidateCount selectedCount : BitVec W) (targets : List RouteTarget) :
    Option (List RouteTarget) :=
  (foldWhileM (fun st => st.2 < selectedCount) (fun st index => do
    let first ← candidateIsFirstOccurrenceWord candidates index
    if first then
      let candidate ← load candidates index
      emitWord st candidate.route
    else return st) (List.range candidateCount.toNat) (targets, (0 : BitVec W))).map Prod.fst

/-- What `solana_delivery_plan_routes` returns and stores. -/
structure PlanResultWord (W : ℕ) where
  status : Status
  outTargetCount : Option (BitVec W)
  outUniqueTargetCount : Option (BitVec W)
  targets : Option (List RouteTarget)

/-- `solana_delivery_plan_routes` -/
def planRoutesWord {W : ℕ} (candidates : Option (List TopologyCandidate))
    (candidateCount targetLimit : BitVec W) (targets : Option (List RouteTarget))
    (capacity : BitVec W) (outTargetCount outUniqueTargetCount : Option (BitVec W)) :
    Option (PlanResultWord W) :=
  match outTargetCount, outUniqueTargetCount with
  | some _, some _ =>
      if targetLimit = 0 ∨ (candidateCount ≠ 0 ∧ candidates = none) ∨
          (capacity ≠ 0 ∧ targets = none) then
        some ⟨Status.invalidArgument, some 0, some 0, targets⟩
      else if candidateCount = 0 then
        some ⟨Status.topologyUnavailable, some 0, some 0, targets⟩
      else do
        let candidates ← candidates
        let uniqueCount ← countUniqueTargetsWord candidates candidateCount
        let selectedCount := if uniqueCount < targetLimit then uniqueCount else targetLimit
        if capacity < selectedCount then
          return ⟨Status.resourceExhausted, some selectedCount, some uniqueCount, targets⟩
        else
          let array ← targets
          let filled ← emitTargetsWord candidates candidateCount selectedCount array
          return ⟨Status.ok, some selectedCount, some uniqueCount, some filled⟩
  | _, _ => some ⟨Status.invalidArgument, outTargetCount, outUniqueTargetCount, targets⟩

/-! ### The parts of a submission -/

/-- `allocate_array`, the zeroed array having the contents `data`. -/
def allocateArrayWord {W : ℕ} {α : Type} (granted : Bool) (count elementSize : BitVec W)
    (data : α) : ExceptT Status Option (Option α) := do
  demand (elementSize ≠ 0) Status.internalError
  if count = 0 then return none
  else
    let limit ← defined (divide (BitVec.allOnes W) elementSize)
    demand (¬count > limit) Status.resourceExhausted
    demand (granted = true) Status.resourceExhausted
    return some data

/-- One round of the loop of `materialize_targets`. -/
def materializeRoundWord (client : Client) (routes : List RouteTarget)
    (targets : List OwnedRequestTarget) (index : ℕ) :
    ExceptT Status Option (List OwnedRequestTarget) := do
  let route ← defined (load routes index)
  demand (¬(route.leaderIndex ≥ client.topology.view.leaderCount ∨
    route.validatorIndex ≥ client.topology.view.validatorCount ∨
    route.endpointIndex ≥ client.topology.view.endpointCount)) Status.internalError
  let validator ← defined (ownedRecordAt Validator.decode Validator.size client.topology.validators
    route.validatorIndex.toNat)
  let endpoint ← defined (ownedRecordAt Endpoint.decode Endpoint.size client.topology.endpoints
    route.endpointIndex.toNat)
  defined (store targets index
    { leaderIndex := route.leaderIndex
      validatorIndex := route.validatorIndex
      endpointIndex := route.endpointIndex
      validatorIdentity := validator.identity
      endpoint := endpoint })

/-- `materialize_targets` -/
def materializeTargetsWord {W : ℕ} (client : Client) (routes : Option (List RouteTarget))
    (routeCount : BitVec W) (targets : Option (List OwnedRequestTarget)) :
    ExceptT Status Option (List OwnedRequestTarget) :=
  match routes, targets with
  | some routes, some targets => do
      demand (routeCount ≠ 0) Status.internalError
      (List.range routeCount.toNat).foldlM (materializeRoundWord client routes) targets
  | _, _ => throw Status.internalError

/-- The part of `solana_delivery_client_submit` from the first call of the resolver up to the filled
targets; `granted` says which of its allocations `calloc_fn` grants, and `transaction` are the bytes
that may be read behind the transaction pointer. The results are the copy of the transaction and
the targets. -/
def routeSubmission (W : ℕ) (client : Client) (routingSlot : UInt64) (targetLimit : BitVec W)
    (transaction : List UInt8) (transactionLength : BitVec W) (granted : ℕ → Bool) :
    ExceptT Status Option (List UInt8 × List OwnedRequestTarget) := do
  let sizing ← defined (resolveSlotWord (some client) routingSlot none (0 : BitVec W) (some 0))
  demand (sizing.status = Status.resourceExhausted) sizing.status
  let candidateCount := sizing.outCount.getD 0
  demand (candidateCount ≠ 0) Status.internalError
  let candidates ← allocateArrayWord (granted 0) candidateCount
    (BitVec.ofNat W TopologyCandidate.size)
    (List.replicate candidateCount.toNat TopologyCandidate.zero)
  let resolved ← defined
    (resolveSlotWord (some client) routingSlot candidates candidateCount (some 0))
  demand (resolved.status = Status.ok) resolved.status
  demand (resolved.outCount.getD 0 = candidateCount) Status.internalError
  let sizing ← defined (planRoutesWord resolved.candidates candidateCount targetLimit none 0
    (some 0) (some 0))
  demand (sizing.status = Status.resourceExhausted) sizing.status
  let targetCount := sizing.outTargetCount.getD 0
  let uniqueTargetCount := sizing.outUniqueTargetCount.getD 0
  demand (¬(targetCount = 0 ∨ uniqueTargetCount < targetCount)) Status.internalError
  let routes ← allocateArrayWord (granted 1) targetCount (BitVec.ofNat W RouteTarget.size)
    (List.replicate targetCount.toNat RouteTarget.zero)
  let planned ← defined (planRoutesWord resolved.candidates candidateCount targetLimit routes
    targetCount (some 0) (some 0))
  demand (planned.status = Status.ok) planned.status
  demand (¬(planned.outTargetCount.getD 0 ≠ targetCount ∨
    planned.outUniqueTargetCount.getD 0 ≠ uniqueTargetCount)) Status.internalError
  let transactionCopy ← allocateArrayWord (granted 2) 1 transactionLength
    (List.replicate transactionLength.toNat (0 : UInt8))
  let copy ← defined transactionCopy
  let bytes ← defined (read transaction 0 transactionLength.toNat)
  let copy ← defined (overwrite copy 0 bytes)
  let ownedTargets ← allocateArrayWord (granted 3) targetCount
    (BitVec.ofNat W OwnedRequestTarget.size)
    (List.replicate targetCount.toNat OwnedRequestTarget.zero)
  let targets ← materializeTargetsWord client planned.targets targetCount ownedTargets
  return (copy, targets)

end SolanaTpuClient
