import SolanaTpuClient.Delivery.RoutingWords
import SolanaTpuClient.Delivery.SubmissionSpec
import SolanaTpuClient.Properties.Submissions
import SolanaTpuClient.Spec.Normalization

/-!
The routing of a submission stays inside its arrays.

The arrays of an owned topology are as long as its counts say (`OwnedTopology.Spans`), so the loops
of the resolver trap nowhere and run over the resolution of the slot. Every other access is to an
array that has been allocated with the count the loop stops at.
-/

namespace SolanaTpuClient

open ByteMemory FirstOccurrence Loops OutputBuffer Procedure Traps Transition

/-! ### Reading the owned arrays -/

/-- The arrays of an owned topology are as long as its counts say. -/
structure OwnedTopology.Spans (o : OwnedTopology) : Prop where
  validators : (Block.contents o.validators).length = o.view.validatorCount.toNat * Validator.size
  endpoints : (Block.contents o.endpoints).length = o.view.endpointCount.toNat * Endpoint.size
  validatorEndpoints : (Block.contents o.validatorEndpoints).length
    = o.view.validatorEndpointCount.toNat * ValidatorEndpoint.size
  leaders : (Block.contents o.leaders).length = o.view.leaderCount.toNat * Leader.size

lemma OwnedTopology.CopyOf.spans {o : OwnedTopology} {t : CallerTopology} (h : o.CopyOf t) :
    o.Spans where
  validators := by rw [h.validators.length (by decide), h.view]; rfl
  endpoints := by rw [h.endpoints.length (by decide), h.view]; rfl
  validatorEndpoints := by rw [h.validatorEndpoints.length (by decide), h.view]; rfl
  leaders := by rw [h.leaders.length (by decide), h.view]; rfl

lemma TopologyState.spans {c : Client} (h : TopologyState c) : c.topology.Spans := by
  cases h with
  | absent _ hzero =>
      rw [hzero]
      exact ⟨rfl, rfl, rfl, rfl⟩
  | installed _ _ hcopy => exact hcopy.spans

/-- A record within an array is read as it is decoded in place. -/
lemma ownedRecordAt_eq {α : Type} {decode : Bytes → α} {size count i : ℕ}
    {array : Option (Block (List UInt8))}
    (hdecode : ∀ m m', (∀ j < size, m j = m' j) → decode m = decode m')
    (hspan : (Block.contents array).length = count * size) (hi : i < count) :
    ownedRecordAt decode size array i
      = some (decode (shift (ofList (Block.contents array)) (i * size))) := by
  have hend : i * size + size ≤ (Block.contents array).length := by
    rw [hspan, ← Nat.succ_mul]
    exact Nat.mul_le_mul_right _ hi
  rw [ownedRecordAt, read_of_le hend, Option.map_some]
  exact congrArg some (hdecode _ _ fun j hj => ofList_slice _ hj)

section Records

variable {m m' : Bytes}

lemma Validator.decode_congr (h : ∀ j < Validator.size, m j = m' j) :
    Validator.decode m = Validator.decode m' := by
  have hrecord : ∀ j, 0 ≤ j → j < Validator.size → m j = m' j := fun j _ => h j
  rw [Validator.decode_of_tail fun j _ hj => h j hj, load32_congr hrecord 0 le_rfl (by decide)]
  rfl

lemma Endpoint.decode_congr (h : ∀ j < Endpoint.size, m j = m' j) :
    Endpoint.decode m = Endpoint.decode m' := by
  have hrecord : ∀ j, 0 ≤ j → j < Endpoint.size → m j = m' j := fun j _ => h j
  rw [Endpoint.decode_of_tail fun j _ hj => h j hj, load32_congr hrecord 0 le_rfl (by decide)]
  rfl

lemma ValidatorEndpoint.decode_congr (h : ∀ j < ValidatorEndpoint.size, m j = m' j) :
    ValidatorEndpoint.decode m = ValidatorEndpoint.decode m' := by
  have hrecord : ∀ j, 0 ≤ j → j < ValidatorEndpoint.size → m j = m' j := fun j _ => h j
  rw [ValidatorEndpoint.decode_of_tail fun j _ hj => h j hj, load32_congr hrecord 0 le_rfl (by decide)]
  rfl

lemma Leader.decode_congr (h : ∀ j < Leader.size, m j = m' j) :
    Leader.decode m = Leader.decode m' := by
  have hrecord : ∀ j, 0 ≤ j → j < Leader.size → m j = m' j := fun j _ => h j
  rw [Leader.decode_of_tail fun j _ hj => h j hj, load32_congr hrecord 0 le_rfl (by decide)]
  rfl

end Records

/-! ### The resolver -/

section Resolver

variable {W : ℕ} {c : Client} {S : Snapshot} {slot : UInt64}

/-- The reads of the resolver do not trap. -/
lemma forSlotCandidatesWord_eq {m : Type → Type} [Monad m] [MonadLiftT Option m] {σ : Type}
    (hlift : ∀ {α : Type} (a : α), (liftM (some a) : m α) = pure a) [LawfulMonad m]
    {o : OwnedTopology} (hspan : o.Spans) (body : σ → TopologyCandidate → m σ) (s : σ) :
    forSlotCandidatesWord o slot body s = forSlotCandidates o slot body s := by
  have hleader : ∀ i < o.view.leaderCount.toNat,
      ownedRecordAt Leader.decode Leader.size o.leaders i = some (o.leader i) := fun i hi =>
    ownedRecordAt_eq (fun _ _ => Leader.decode_congr) hspan.leaders hi
  have hassociation : ∀ i < o.view.validatorEndpointCount.toNat,
      ownedRecordAt ValidatorEndpoint.decode ValidatorEndpoint.size o.validatorEndpoints i
        = some (o.validatorEndpoint i) := fun i hi =>
    ownedRecordAt_eq (fun _ _ => ValidatorEndpoint.decode_congr) hspan.validatorEndpoints hi
  refine foldlM_congr fun i hi s => ?_
  rw [hleader i (List.mem_range.mp hi), hlift, pure_bind]
  refine if_congr Iff.rfl (foldlM_congr fun j hj s => ?_) rfl
  rw [hassociation j (List.mem_range.mp hj), hlift, pure_bind]

/-- The counting pass counts the resolution, or finds that it is too long for a word. -/
lemma countSlotCandidatesWord_eq (hspan : c.topology.Spans) (hS : c.topology.Represents S) :
    countSlotCandidatesWord W c slot
      = some (if (S.resolution slot).length < 2 ^ W then
          .ok (BitVec.ofNat W (S.resolution slot).length)
        else .error Status.resourceExhausted) := by
  rw [countSlotCandidatesWord, forSlotCandidatesWord_eq (fun _ => rfl) hspan,
    forSlotCandidates_eq hS]
  exact foldlM_countWord _ _

/-- The filling pass stays inside an array that has room for the resolution. -/
lemma fillSlotCandidatesWord_eq (hspan : c.topology.Spans) (hS : c.topology.Represents S)
    {buffer : List TopologyCandidate} (hroom : (S.resolution slot).length ≤ buffer.length)
    (hword : buffer.length < 2 ^ W) :
    fillSlotCandidatesWord W c slot buffer = some (patch (S.resolution slot) buffer) := by
  rw [fillSlotCandidatesWord, forSlotCandidatesWord_eq (fun _ => rfl) hspan,
    forSlotCandidates_eq hS, foldlM_emitWord hroom hword]
  rfl

/-- A result on numbers, on words. -/
def ResolveResult.words (W : ℕ) (r : ResolveResult) : ResolveResultWord W :=
  ⟨r.status, r.outCount.map (BitVec.ofNat W), r.candidates⟩

/-- Where the candidates can be counted in a word, the resolver does not trap and computes what it
computes on numbers. -/
lemma resolveSlotWord_eq (hspan : c.topology.Spans) (hS : c.topology.Represents S)
    (hword : (S.resolution slot).length < 2 ^ W) {buffer : Option (List TopologyCandidate)}
    {capacity : BitVec W} (hbuffer : ∀ b, buffer = some b → b.length = capacity.toNat) :
    resolveSlotWord (some c) slot buffer capacity (some 0)
      = some ((resolveSlot (some c) slot buffer capacity.toNat (some 0)).words W) := by
  have htoNat : (BitVec.ofNat W (S.resolution slot).length).toNat = (S.resolution slot).length :=
    toNat_ofNat_of_lt hword
  have hzero : BitVec.ofNat W (S.resolution slot).length = 0 ↔ (S.resolution slot).length = 0 := by
    rw [← toNat_eq_zero_iff, htoNat]
  have hshort : capacity < BitVec.ofNat W (S.resolution slot).length
      ↔ capacity.toNat < (S.resolution slot).length := by
    rw [BitVec.lt_def, htoNat]
  simp only [resolveSlotWord, resolveSlot, countSlotCandidatesWord_eq hspan hS, if_pos hword,
    countSlotCandidates_eq hS, ne_eq, ← toNat_eq_zero_iff (x := capacity), Option.bind_eq_bind,
    Option.bind_some, hzero, hshort]
  split_ifs with hargs htop hnone hfew
  · rfl
  · rfl
  · rfl
  · rfl
  cases buffer with
  | none =>
      have hcapacity : capacity.toNat ≠ 0 := by omega
      exact absurd ⟨hcapacity, rfl⟩ hargs
  | some b =>
      have hlength := hbuffer b rfl
      have hlt : b.length < 2 ^ W := hlength ▸ capacity.isLt
      have hroom : (S.resolution slot).length ≤ b.length := by omega
      rw [Option.bind_some, fillSlotCandidatesWord_eq hspan hS hroom hlt, Option.bind_some,
        Option.map_some, fillSlotCandidates_eq hS hroom]
      rfl

/-- Where they cannot, the resolver refuses and counts none. -/
lemma resolveSlotWord_of_overflow (hspan : c.topology.Spans) (hS : c.topology.Represents S)
    (htop : c.hasTopology = true) (hword : ¬(S.resolution slot).length < 2 ^ W) :
    resolveSlotWord (some c) slot none (0 : BitVec W) (some 0)
      = some ⟨Status.resourceExhausted, some 0, none⟩ := by
  simp only [resolveSlotWord, countSlotCandidatesWord_eq hspan hS, if_neg hword, htop, ne_eq,
    not_true_eq_false, false_and, if_false, Bool.true_eq_false, Option.bind_eq_bind,
    Option.bind_some]
  rfl

end Resolver

/-! ### The planner -/

section Planner

variable {W : ℕ} {l : List TopologyCandidate}

/-- The comparisons of the planner do not trap. -/
lemma candidateIsFirstOccurrenceWord_eq {index : ℕ} (hi : index < l.length) :
    candidateIsFirstOccurrenceWord l index = some (candidateIsFirstOccurrence l index) := by
  refine allM_eq_some fun prior hprior => ?_
  have hlt : prior < l.length := (List.mem_range.mp hprior).trans hi
  rw [load_of_lt hlt TopologyCandidate.zero, load_of_lt hi TopologyCandidate.zero]
  rfl

/-- The planner counts the distinct targets. -/
lemma countUniqueTargetsWord_eq {candidateCount : BitVec W}
    (hlength : candidateCount.toNat = l.length) :
    countUniqueTargetsWord l candidateCount
      = some (BitVec.ofNat W (countUniqueTargets l l.length)) := by
  rw [countUniqueTargetsWord, hlength]
  have hround : ∀ index ∈ List.range l.length, ∀ (w : BitVec W) (n : ℕ), w = BitVec.ofNat W n →
      ∃ w', (do
          let first ← candidateIsFirstOccurrenceWord l index
          return if first then w + 1 else w) = some w' ∧
        w' = BitVec.ofNat W (if candidateIsFirstOccurrence l index then n + 1 else n) := by
    rintro index hindex w n rfl
    rw [candidateIsFirstOccurrenceWord_eq (List.mem_range.mp hindex)]
    refine ⟨_, rfl, ?_⟩
    split_ifs
    · rw [BitVec.ofNat_add]
      rfl
    · rfl
  have hzero : (0 : BitVec W) = BitVec.ofNat W 0 := rfl
  obtain ⟨w, hloop, hw⟩ := foldlM_simulates hround hzero
  rw [hloop, hw]
  rfl

/-- The planner writes the targets it has selected into an array with room for them. -/
lemma emitTargetsWord_eq {candidateCount selected : BitVec W}
    (hlength : candidateCount.toNat = l.length) {buffer : List RouteTarget}
    (hroom : selected.toNat ≤ buffer.length) (hword : buffer.length < 2 ^ W) :
    emitTargetsWord l candidateCount selected buffer
      = some (emitTargets l l.length selected.toNat buffer) := by
  rw [emitTargetsWord, hlength]
  have hindex : ∀ {s : List RouteTarget × BitVec W} {t : List RouteTarget × ℕ},
      Indexed buffer.length s t ∧ t.2 ≤ selected.toNat → s.2.toNat = t.2 := by
    rintro s t ⟨⟨-, hindex, -⟩, hle⟩
    rw [hindex, toNat_ofNat_of_lt (by omega)]
  have hgo : ∀ (s : List RouteTarget × BitVec W) (t : List RouteTarget × ℕ),
      Indexed buffer.length s t ∧ t.2 ≤ selected.toNat →
      decide (s.2 < selected) = decide (t.2 < selected.toNat) := fun s t hst => by
    rw [decide_eq_decide, BitVec.lt_def, hindex hst]
  have hround : ∀ index ∈ List.range l.length, ∀ (s : List RouteTarget × BitVec W)
      (t : List RouteTarget × ℕ), Indexed buffer.length s t ∧ t.2 ≤ selected.toNat →
      decide (t.2 < selected.toNat) = true →
      ∃ s', (do
          let first ← candidateIsFirstOccurrenceWord l index
          if first then
            let candidate ← load l index
            emitWord s candidate.route
          else return s) = some s' ∧
        (fun s t => Indexed buffer.length s t ∧ t.2 ≤ selected.toNat) s'
          (if candidateIsFirstOccurrence l index then emit t (candidateAt l index).route
            else t) := by
    intro index hi s t hst hcontinue
    have hlt := List.mem_range.mp hi
    have hpast : t.2 < selected.toNat := of_decide_eq_true hcontinue
    rw [candidateIsFirstOccurrenceWord_eq hlt, load_of_lt hlt TopologyCandidate.zero]
    cases candidateIsFirstOccurrence l index with
    | false => exact ⟨s, rfl, hst⟩
    | true =>
        obtain ⟨s', hemit, hst'⟩ := hst.1.emit (hpast.trans_le hroom) hword
          (candidateAt l index).route
        exact ⟨s', hemit, hst', hpast⟩
  have hstart : Indexed buffer.length (buffer, (0 : BitVec W)) (buffer, 0) ∧
      (0 : ℕ) ≤ selected.toNat := ⟨⟨rfl, rfl, rfl⟩, Nat.zero_le _⟩
  obtain ⟨s, hloop, ⟨harray, -, -⟩, -⟩ := foldWhileM_simulates hgo hround hstart
  rw [hloop, Option.map_some, harray]
  rfl

/-- A result on numbers, on words. -/
def PlanResult.words (W : ℕ) (r : PlanResult) : PlanResultWord W :=
  ⟨r.status, r.outTargetCount.map (BitVec.ofNat W), r.outUniqueTargetCount.map (BitVec.ofNat W),
    r.targets⟩

/-- The first occurrences are counted in the word the candidates are counted in. -/
lemma countUniqueTargets_lt {candidateCount : BitVec W} (hlength : candidateCount.toNat = l.length) :
    countUniqueTargets l l.length < 2 ^ W := by
  have hle : countUniqueTargets l l.length ≤ l.length := by
    rw [countUniqueTargets_eq]
    exact (firstsBy_sublist _ _).length_le
  exact hle.trans_lt (hlength ▸ candidateCount.isLt)

/-- Among candidates there is a first occurrence. -/
lemma countUniqueTargets_pos (hl : l.length ≠ 0) : 0 < countUniqueTargets l l.length := by
  rw [countUniqueTargets_eq]
  exact List.length_pos_iff.mpr (firstsBy_ne_nil _ (List.ne_nil_of_length_pos
    (Nat.pos_of_ne_zero hl)))

/-- The planner does not trap on arrays as long as their counts say, and computes what it computes
on numbers. -/
lemma planRoutesWord_eq {candidateCount targetLimit capacity : BitVec W}
    (hlength : candidateCount.toNat = l.length) {targets : Option (List RouteTarget)}
    (htargets : ∀ b, targets = some b → b.length = capacity.toNat) :
    planRoutesWord (some l) candidateCount targetLimit targets capacity (some 0) (some 0)
      = some ((planRoutes (some l) l.length targetLimit.toNat targets capacity.toNat (some 0)
          (some 0)).words W) := by
  have htoNat : (BitVec.ofNat W (countUniqueTargets l l.length)).toNat
      = countUniqueTargets l l.length := toNat_ofNat_of_lt (countUniqueTargets_lt hlength)
  simp only [planRoutesWord, planRoutes, ne_eq, ← toNat_eq_zero_iff (x := candidateCount),
    ← toNat_eq_zero_iff (x := targetLimit), ← toNat_eq_zero_iff (x := capacity), hlength,
    countUniqueTargetsWord_eq hlength, Option.bind_eq_bind, Option.bind_some, Option.getD_some,
    BitVec.lt_def, htoNat]
  have hselected : (if countUniqueTargets l l.length < targetLimit.toNat then
      BitVec.ofNat W (countUniqueTargets l l.length) else targetLimit).toNat
      = if countUniqueTargets l l.length < targetLimit.toNat then
          countUniqueTargets l l.length else targetLimit.toNat := by
    split_ifs
    · exact htoNat
    · rfl
  -- something is selected, so nothing is ever stored through a null pointer
  have hpos : targetLimit.toNat ≠ 0 → l.length ≠ 0 → 0 < (if countUniqueTargets l l.length
      < targetLimit.toNat then BitVec.ofNat W (countUniqueTargets l l.length)
        else targetLimit).toNat := by
    intro hlimit hl
    have hfirsts := countUniqueTargets_pos hl
    rw [hselected]
    split_ifs <;> omega
  rw [← hselected]
  generalize (if countUniqueTargets l l.length < targetLimit.toNat then
    BitVec.ofNat W (countUniqueTargets l l.length) else targetLimit) = selected at hpos ⊢
  have hself : BitVec.ofNat W selected.toNat = selected := by
    rw [BitVec.ofNat_toNat, BitVec.setWidth_eq]
  have hargs : (targetLimit.toNat = 0 ∨ ¬l.length = 0 ∧ some l = none ∨
      ¬capacity.toNat = 0 ∧ targets = none)
      ↔ (targetLimit.toNat = 0 ∨ ¬capacity.toNat = 0 ∧ targets = none) := by simp
  simp only [hargs]
  split_ifs with hinvalid hnone hfew
  · rfl
  · rfl
  · rw [PlanResult.words, Option.map_some, hself]
    rfl
  cases targets with
  | none =>
      obtain ⟨hlimit, hcapacity⟩ := not_or.mp hinvalid
      have hzero : capacity.toNat = 0 := by
        by_contra hne
        exact hcapacity ⟨hne, rfl⟩
      have hselectedPos := hpos hlimit hnone
      omega
  | some b =>
      have hroom : selected.toNat ≤ b.length := (htargets b rfl).symm ▸ not_lt.mp hfew
      have hword : b.length < 2 ^ W := (htargets b rfl).symm ▸ capacity.isLt
      rw [Option.bind_some, emitTargetsWord_eq hlength hroom hword, Option.bind_some,
        PlanResult.words, Option.map_some, Option.map_some, hself]
      rfl

end Planner

/-! ### The parts of a submission -/

section Parts

variable {W : ℕ} {c : Client} {S : Snapshot} {slot : UInt64} {limit : ℕ}

/-- The stage an allocation is where `size_t` has `W` bits. -/
def allocationStageWord (W : ℕ) (granted : Bool) (count elementSize : ℕ) : Bool × Status :=
  (decide (count ≤ sizeMax W / elementSize) && granted, Status.resourceExhausted)

/-- `allocate_array` divides by its element size only when that is not zero. -/
lemma yields_allocateArrayWord {α : Type} {granted : Bool} {count elementSize : BitVec W}
    {data : α} (hsize : elementSize ≠ 0) (hcount : count ≠ 0) :
    Yields (allocateArrayWord granted count elementSize data)
      [allocationStageWord W granted count.toNat elementSize.toNat] (some data) := by
  have hguard : ¬count > BitVec.allOnes W / elementSize
      ↔ count.toNat ≤ sizeMax W / elementSize.toNat := by
    rw [gt_iff_lt, BitVec.lt_def, BitVec.toNat_udiv, BitVec.toNat_allOnes, not_lt, sizeMax]
  rw [allocateArrayWord, demand_of hsize, pure_bind, if_neg hcount, divide_of_ne_zero hsize,
    defined_some, pure_bind]
  have hfits : Yields (demand (¬count > BitVec.allOnes W / elementSize) Status.resourceExhausted)
      [(decide (count.toNat ≤ sizeMax W / elementSize.toNat), Status.resourceExhausted)] ⟨⟩ :=
    yields_demand (by rw [decide_eq_true_eq, hguard]) _
  have hgranted : Yields (demand (granted = true) Status.resourceExhausted)
      [(granted, Status.resourceExhausted)] ⟨⟩ := yields_demand Iff.rfl _
  refine (hfits.bind fun _ => hgranted.bind fun _ => yields_pure (some data)).congr ?_
  simp only [allocationStageWord, List.append_nil, List.singleton_append, firstFailure_cons,
    firstFailure_nil, Bool.and_eq_true]
  split_ifs <;> simp_all

/-- A round of the materialization within its arrays reads records that are there. -/
lemma materializeRoundWord_eq (hspan : c.topology.Spans) {routes : List RouteTarget}
    {targets : List OwnedRequestTarget} {index : ℕ} (hroute : index < routes.length)
    (htarget : index < targets.length) :
    materializeRoundWord c routes targets index
      = total (materializeRound c routes targets index) := by
  rw [materializeRoundWord, materializeRound, load_of_lt hroute RouteTarget.zero, defined_some,
    pure_bind]
  generalize routes.getD index RouteTarget.zero = route
  by_cases hbounds : route.leaderIndex ≥ c.topology.view.leaderCount ∨
      route.validatorIndex ≥ c.topology.view.validatorCount ∨
      route.endpointIndex ≥ c.topology.view.endpointCount
  · rw [demand_of_not (not_not.mpr hbounds)]
    simp only [if_pos hbounds]
    rfl
  · obtain ⟨-, hvalidator, hendpoint⟩ : route.leaderIndex < c.topology.view.leaderCount ∧
        route.validatorIndex < c.topology.view.validatorCount ∧
        route.endpointIndex < c.topology.view.endpointCount := by
      simpa only [not_or, ge_iff_le, UInt32.not_le] using hbounds
    rw [demand_of hbounds, pure_bind,
      ownedRecordAt_eq (fun _ _ => Validator.decode_congr) hspan.validators
        (UInt32.lt_iff_toNat_lt.mp hvalidator),
      ownedRecordAt_eq (fun _ _ => Endpoint.decode_congr) hspan.endpoints
        (UInt32.lt_iff_toNat_lt.mp hendpoint),
      defined_some, pure_bind, defined_some, pure_bind, store_of_lt htarget]
    simp only [if_neg hbounds]
    rfl

/-- The materialization of a plan stays inside its arrays. -/
lemma materializeTargetsWord_eq (hspan : c.topology.Spans) (hS : c.topology.Represents S)
    (hne : S.plan slot limit ≠ []) {targetCount : BitVec W}
    (hcount : targetCount.toNat = (S.plan slot limit).length)
    {buffer : List OwnedRequestTarget} (hlen : buffer.length = (S.plan slot limit).length) :
    materializeTargetsWord c (some ((S.plan slot limit).map TopologyCandidate.route)) targetCount
      (some buffer) = pure (S.targets slot limit) := by
  have hlength : (S.plan slot limit).length ≠ 0 := mt List.eq_nil_of_length_eq_zero hne
  have hpos : targetCount ≠ 0 := fun h => hlength (hcount.symm.trans (toNat_eq_zero_iff.mpr h))
  have hmaterialize := materializeTargets_eq hS hne hlen
  rw [materializeTargets, if_neg hlength] at hmaterialize
  rw [materializeTargetsWord, demand_of hpos, pure_bind, hcount]
  -- the rounds keep the length of the array they fill
  have hround : ∀ index ∈ List.range (S.plan slot limit).length,
      ∀ targets : List OwnedRequestTarget, targets.length = buffer.length →
      materializeRoundWord c ((S.plan slot limit).map TopologyCandidate.route) targets index
          = total (materializeRound c ((S.plan slot limit).map TopologyCandidate.route) targets
              index) ∧
        ∀ targets', materializeRound c ((S.plan slot limit).map TopologyCandidate.route) targets
            index = .ok targets' → targets'.length = buffer.length := by
    intro index hindex targets htargets
    have hlt := List.mem_range.mp hindex
    refine ⟨materializeRoundWord_eq hspan (by rwa [List.length_map]) (by omega), ?_⟩
    intro targets' hround
    rw [materializeRound] at hround
    split_ifs at hround
    obtain rfl := Except.ok.inj hround
    rw [List.length_set, htargets]
  have hloop := foldlM_total
    (P := fun targets : List OwnedRequestTarget => targets.length = buffer.length) hround rfl
  rw [hloop, hmaterialize]
  rfl

/-- The bytes of the transaction that are copied. -/
lemma read_transaction {transaction : List UInt8} {n : ℕ} (h : n ≤ transaction.length) :
    Traps.read transaction 0 n = some (transaction.take n) := by
  rw [Traps.read, if_pos (by omega), List.drop_zero]

/-- The copy fills its block. -/
lemma overwrite_transaction {block bytes : List UInt8} (h : bytes.length = block.length) :
    overwrite block 0 bytes = some bytes := by
  rw [overwrite_of_le (by omega), splice, Nat.zero_add, h, List.drop_length, List.take_zero,
    List.nil_append, List.append_nil]

end Parts

/-! ### The whole routing -/

section Routing

variable {W : ℕ} {c : Client} {S : Snapshot} {slot : UInt64} {limit : BitVec W}
  {transaction : List UInt8} {length : BitVec W} {granted : ℕ → Bool}

/-- The first call of the resolver. -/
lemma resolveSlotWord_sizing (hspan : c.topology.Spans) (hS : c.topology.Represents S)
    (htop : c.hasTopology = true) (hr : S.Routable slot)
    (hword : (S.resolution slot).length < 2 ^ W) :
    resolveSlotWord (some c) slot none (0 : BitVec W) (some 0)
      = some ⟨Status.resourceExhausted, some (BitVec.ofNat W (S.resolution slot).length), none⟩ := by
  have hzero : (0 : BitVec W).toNat = 0 := toNat_eq_zero_iff.mpr rfl
  rw [resolveSlotWord_eq hspan hS hword (by simp), hzero, resolveSlot_sizing htop hS hr]
  rfl

/-- Its call on the array it asked for. -/
lemma resolveSlotWord_filling (hspan : c.topology.Spans) (hS : c.topology.Represents S)
    (htop : c.hasTopology = true) (hr : S.Routable slot)
    (hword : (S.resolution slot).length < 2 ^ W) :
    resolveSlotWord (some c) slot
        (some (List.replicate (S.resolution slot).length TopologyCandidate.zero))
        (BitVec.ofNat W (S.resolution slot).length) (some 0)
      = some ⟨Status.ok, some (BitVec.ofNat W (S.resolution slot).length),
          some (S.resolution slot)⟩ := by
  have htoNat : (BitVec.ofNat W (S.resolution slot).length).toNat = (S.resolution slot).length :=
    toNat_ofNat_of_lt hword
  rw [resolveSlotWord_eq hspan hS hword, htoNat, resolveSlot_filling htop hS hr (by simp)]
  · rfl
  · rintro b hb
    rw [← Option.some.inj hb, List.length_replicate, htoNat]

/-- The first call of the planner. -/
lemma planRoutesWord_sizing (hr : S.Routable slot) (hlimit : limit.toNat ≠ 0)
    (hword : (S.resolution slot).length < 2 ^ W) :
    planRoutesWord (some (S.resolution slot)) (BitVec.ofNat W (S.resolution slot).length) limit none
        0 (some 0) (some 0)
      = some ⟨Status.resourceExhausted, some (BitVec.ofNat W (S.plan slot limit.toNat).length),
          some (BitVec.ofNat W (firstsBy TopologyCandidate.target (S.resolution slot)).length),
          none⟩ := by
  have hzero : (0 : BitVec W).toNat = 0 := toNat_eq_zero_iff.mpr rfl
  have htoNat : (BitVec.ofNat W (S.resolution slot).length).toNat = (S.resolution slot).length :=
    toNat_ofNat_of_lt hword
  rw [planRoutesWord_eq htoNat (by simp), hzero, planRoutes_sizing hr hlimit]
  rfl

/-- The length of a plan fits a word if that of the resolution does. -/
lemma plan_toNat (hword : (S.resolution slot).length < 2 ^ W) :
    (BitVec.ofNat W (S.plan slot limit.toNat).length).toNat = (S.plan slot limit.toNat).length := by
  have hle : (S.plan slot limit.toNat).length ≤ (S.resolution slot).length :=
    plan_length_le.trans (firstsBy_sublist _ _).length_le
  exact toNat_ofNat_of_lt (hle.trans_lt hword)

/-- Its call on the array it asked for. -/
lemma planRoutesWord_filling (hr : S.Routable slot) (hlimit : limit.toNat ≠ 0)
    (hword : (S.resolution slot).length < 2 ^ W) :
    planRoutesWord (some (S.resolution slot)) (BitVec.ofNat W (S.resolution slot).length) limit
        (some (List.replicate (S.plan slot limit.toNat).length RouteTarget.zero))
        (BitVec.ofNat W (S.plan slot limit.toNat).length) (some 0) (some 0)
      = some ⟨Status.ok, some (BitVec.ofNat W (S.plan slot limit.toNat).length),
          some (BitVec.ofNat W (firstsBy TopologyCandidate.target (S.resolution slot)).length),
          some ((S.plan slot limit.toNat).map TopologyCandidate.route)⟩ := by
  have htoNat : (BitVec.ofNat W (S.resolution slot).length).toNat = (S.resolution slot).length :=
    toNat_ofNat_of_lt hword
  rw [planRoutesWord_eq htoNat, plan_toNat hword, planRoutes_filling hr hlimit (by simp)]
  · rfl
  · rintro b hb
    rw [← Option.some.inj hb, List.length_replicate, plan_toNat hword]

/-- The stages of the routing where `size_t` has `W` bits: a topology, a leader that can be reached,
candidates that can be counted, and four allocations. -/
def routeStages (W : ℕ) (S : Snapshot) (c : Client) (slot : UInt64) (limit length : ℕ)
    (granted : ℕ → Bool) : List (Bool × Status) :=
  [(c.hasTopology, Status.topologyUnavailable),
    (decide (S.Routable slot), Status.topologyUnavailable),
    (decide ((S.resolution slot).length < 2 ^ W), Status.internalError),
    allocationStageWord W (granted 0) (S.resolution slot).length TopologyCandidate.size,
    allocationStageWord W (granted 1) (S.plan slot limit).length RouteTarget.size,
    allocationStageWord W (granted 2) 1 length,
    allocationStageWord W (granted 3) (S.plan slot limit).length OwnedRequestTarget.size]

/-- The stages of the first call of the resolver. -/
def sizingStages (W : ℕ) (S : Snapshot) (c : Client) (slot : UInt64) : List (Bool × Status) :=
  [(c.hasTopology, Status.topologyUnavailable),
    (decide (S.Routable slot), Status.topologyUnavailable),
    (decide ((S.resolution slot).length < 2 ^ W), Status.internalError)]

lemma sizingStages_eq_none : firstFailure (sizingStages W S c slot) = none
    ↔ c.hasTopology = true ∧ S.Routable slot ∧ (S.resolution slot).length < 2 ^ W := by
  simp only [firstFailure_eq_none, sizingStages, List.forall_mem_cons, decide_eq_true_eq]
  simp

/-- The routing ends with the first call of the resolver if a stage of that does not hold. -/
lemma routeSubmission_of_sizing (hspan : c.topology.Spans) (hS : c.topology.Represents S)
    {e : Status} (h : firstFailure (sizingStages W S c slot) = some e) :
    routeSubmission W c slot limit transaction length granted = throw e := by
  simp only [sizingStages, firstFailure_cons, firstFailure_nil, decide_eq_true_eq] at h
  split_ifs at h with htop hr hword
  · obtain rfl := Option.some.inj h
    rw [routeSubmission, resolveSlotWord_of_overflow hspan hS htop hword]
    rfl
  · obtain rfl := Option.some.inj h
    have hzero : (0 : BitVec W).toNat = 0 := toNat_eq_zero_iff.mpr rfl
    have hnil : S.resolution slot = [] := not_not.mp (mt Snapshot.resolution_ne_nil.mp hr)
    have hword : (S.resolution slot).length < 2 ^ W := by
      rw [hnil]
      exact Nat.two_pow_pos W
    rw [routeSubmission, resolveSlotWord_eq hspan hS hword (by simp), hzero,
      resolveSlot_of_not_routable htop hS hr (Or.inl rfl)]
    rfl
  · obtain rfl := Option.some.inj h
    have hsizing : resolveSlotWord (some c) slot none (0 : BitVec W) (some 0)
        = some ⟨Status.topologyUnavailable, some 0, none⟩ := by
      simp [resolveSlotWord, Bool.eq_false_iff.mpr htop]
    rw [routeSubmission, hsizing]
    rfl

/-- An allocation of records of a size below `2 ^ 32` is a stage. -/
lemma yields_allocateRecords {α : Type} {grant : Bool} {count : BitVec W} {n size : ℕ} {data : α}
    (hW : 32 ≤ W) (hcount : count.toNat = n) (hn : n ≠ 0) (hpos : size ≠ 0) (hsize : size < 2 ^ 32) :
    Yields (allocateArrayWord grant count (BitVec.ofNat W size) data)
      [allocationStageWord W grant n size] (some data) := by
  have hword : (BitVec.ofNat W size).toNat = size :=
    toNat_ofNat_of_lt (hsize.trans_le (Nat.pow_le_pow_right (by omega) hW))
  have hne : count ≠ 0 := mt toNat_eq_zero_iff.mpr (hcount.symm ▸ hn)
  have halloc : Yields (allocateArrayWord grant count (BitVec.ofNat W size) data) _ _ :=
    yields_allocateArrayWord (mt toNat_eq_zero_iff.mpr (hword.symm ▸ hpos)) hne
  rwa [hcount, hword] at halloc

/-- **The routing does not trap.** It stops with the first of its stages that does not hold, or
returns the copy of the transaction and the targets of the snapshot. -/
theorem yields_routeSubmission (hW : 32 ≤ W) (hspan : c.topology.Spans)
    (hS : c.topology.Represents S) (hlimit : limit ≠ 0) (hlength : length ≠ 0)
    (hbytes : length.toNat ≤ transaction.length) :
    Yields (routeSubmission W c slot limit transaction length granted)
      (routeStages W S c slot limit.toNat length.toNat granted)
      (transaction.take length.toNat, S.targets slot limit.toNat) := by
  have hlimit' : limit.toNat ≠ 0 := mt toNat_eq_zero_iff.mp hlimit
  have hstages : firstFailure (routeStages W S c slot limit.toNat length.toNat granted)
      = (firstFailure (sizingStages W S c slot)).or
        (firstFailure ((routeStages W S c slot limit.toNat length.toNat granted).drop 3)) :=
    firstFailure_append (sizingStages W S c slot) _
  cases hentry : firstFailure (sizingStages W S c slot) with
  | some e =>
      rw [routeSubmission_of_sizing hspan hS hentry, Yields, hstages, hentry]
      rfl
  | none =>
      obtain ⟨htop, hr, hword⟩ := sizingStages_eq_none.mp hentry
      rw [hentry, Option.none_or] at hstages
      refine Yields.congr ?_ hstages.symm
      have htoNat : (BitVec.ofNat W (S.resolution slot).length).toNat
          = (S.resolution slot).length := toNat_ofNat_of_lt hword
      have hresolution : (S.resolution slot).length ≠ 0 :=
        mt List.eq_nil_of_length_eq_zero (Snapshot.resolution_ne_nil.mpr hr)
      have hplan : (S.plan slot limit.toNat).length ≠ 0 := plan_length_ne_zero hr hlimit'
      have hcandidates : BitVec.ofNat W (S.resolution slot).length ≠ 0 :=
        mt toNat_eq_zero_iff.mpr (htoNat.symm ▸ hresolution)
      have htargets : BitVec.ofNat W (S.plan slot limit.toNat).length ≠ 0 :=
        mt toNat_eq_zero_iff.mpr ((plan_toNat hword).symm ▸ hplan)
      have hunique : ¬BitVec.ofNat W (firstsBy TopologyCandidate.target (S.resolution slot)).length
          < BitVec.ofNat W (S.plan slot limit.toNat).length := by
        have hle : (firstsBy TopologyCandidate.target (S.resolution slot)).length
            ≤ (S.resolution slot).length := (firstsBy_sublist _ _).length_le
        rw [BitVec.lt_def, plan_toNat hword, toNat_ofNat_of_lt (hle.trans_lt hword)]
        exact not_lt.mpr plan_length_le
      have hone : (BitVec.ofNat W 1).toNat = 1 :=
        toNat_ofNat_of_lt (Nat.one_lt_two_pow (by omega))
      -- the candidates
      simp only [routeSubmission, resolveSlotWord_sizing hspan hS htop hr hword, defined_some,
        pure_bind, Option.getD_some, demand_true, demand_of hcandidates, htoNat]
      refine (yields_allocateRecords hW htoNat hresolution (by decide) (by decide)).cons fun _ => ?_
      -- the routes
      simp only [resolveSlotWord_filling hspan hS htop hr hword, defined_some, pure_bind,
        Option.getD_some, demand_true, planRoutesWord_sizing hr hlimit' hword, plan_toNat hword,
        htargets, hunique, or_self, not_false_eq_true]
      refine (yields_allocateRecords hW (plan_toNat hword) hplan (by decide) (by decide)).cons
        fun _ => ?_
      simp only [planRoutesWord_filling hr hlimit' hword, defined_some, pure_bind, Option.getD_some,
        demand_true, ne_eq, not_true_eq_false, or_self, not_false_eq_true]
      -- the copy of the transaction
      have hcopy : Yields (allocateArrayWord (granted 2) (BitVec.ofNat W 1) length
          (List.replicate length.toNat (0 : UInt8))) _ _ :=
        yields_allocateArrayWord hlength (mt toNat_eq_zero_iff.mpr (hone.symm ▸ one_ne_zero))
      rw [hone] at hcopy
      refine hcopy.cons fun _ => ?_
      simp only [defined_some, pure_bind, read_transaction hbytes]
      rw [overwrite_transaction (by simp [hbytes])]
      simp only [defined_some, pure_bind]
      -- the targets
      refine (yields_allocateRecords hW (plan_toNat hword) hplan (by decide) (by decide)).cons
        fun _ => ?_
      rw [materializeTargetsWord_eq hspan hS (List.ne_nil_of_length_pos (Nat.pos_of_ne_zero hplan))
        (plan_toNat hword) (by simp), pure_bind]
      exact yields_pure _

end Routing

/-! ### Submissions -/

section Submissions

variable {s : State} {S : Snapshot} {transaction : List UInt8} {length : UInt64}
  {options : Ref SubmitOptions} {outRequestId : Option (Ref UInt64)} {answers : Answers}

/-- The routing of a submission with the answers of its call, where `size_t` has 64 bits. -/
def routingOf (s : State) (transaction : List UInt8) (length : UInt64) (options : Ref SubmitOptions)
    (answers : Answers) : ExceptT Status Option (List UInt8 × List OwnedRequestTarget) :=
  routeSubmission wordBits s.client.data s.client.data.topology.view.currentSlot
    (toSize wordBits options.val.targetLimit) transaction length.toBitVec
    fun k => (answers.calloc k).isSome

/-- The stages of a submission that come before its routing. -/
def entryStages (s : State) (transaction : List UInt8) (length : UInt64)
    (options : Ref SubmitOptions) (outRequestId : Option (Ref UInt64)) (answers : Answers) :
    List (Bool × Status) :=
  submitArgumentStage (some s.client.data) (some (ofList transaction)) length outRequestId ::
    (optionStages (some options) ++
      admissionStages s.client.data options.val.maxTopologyAgeNs (answers.clock 0))

/-- The stages of a submission, cut where its routing begins. -/
lemma submitStages_eq : submitArgumentStage (some s.client.data) (some (ofList transaction)) length
      outRequestId :: submitStages S s.client.data length (some options) answers
    = entryStages s transaction length options outRequestId answers ++
      (routingStage S :: bodyStages S s.client.data options.val.targetLimit.toNat length answers)
      := by
  simp [entryStages, submitStages, policyOf]

/-- Past the stages before its routing, the stages of a submission are those of its routing and the
rest. -/
lemma firstFailure_routing (hentry : firstFailure (entryStages s transaction length options
      outRequestId answers) = none) :
    firstFailure (submitArgumentStage (some s.client.data) (some (ofList transaction)) length
        outRequestId :: submitStages S s.client.data length (some options) answers)
      = (firstFailure (routeStages wordBits S s.client.data S.currentSlot
          options.val.targetLimit.toNat length.toNat fun k => (answers.calloc k).isSome)).or
        (firstFailure ([allocationStage answers 4 1 OwnedRequest.size, identifierStage s.client.data]
          ++ commitStages s.client.data (answers.clock 1))) := by
  have hcount : (S.resolution S.currentSlot).length < 2 ^ wordBits :=
    Snapshot.resolution_length_lt.trans (by decide)
  have htop : s.client.data.hasTopology = true := by
    refine firstFailure_eq_none.mp hentry (s.client.data.hasTopology,
      Status.topologyUnavailable) ?_
    exact List.mem_cons_of_mem _ (List.mem_append_right _ (List.mem_cons_self ..))
  rw [submitStages_eq, firstFailure_append, hentry, Option.none_or, ← firstFailure_append]
  simp only [routingStage, bodyStages, allocationStages, allocationStage, routeStages,
    allocationStageWord, htop, decide_eq_true hcount, List.cons_append, List.nil_append,
    firstFailure_cons, if_true]

/-- The word for the limit of a submission. -/
lemma toNat_limit : (toSize wordBits options.val.targetLimit).toNat
    = options.val.targetLimit.toNat := toNat_toSize (by decide) _

lemma yields_routingOf (hs : s.WellFormed) (hS : s.client.data.topology.Represents S)
    (hlimit : options.val.targetLimit ≠ 0) (hlength : length ≠ 0)
    (hbytes : length.toNat ≤ transaction.length) :
    Yields (routingOf s transaction length options answers)
      (routeStages wordBits S s.client.data S.currentSlot options.val.targetLimit.toNat
        length.toNat fun k => (answers.calloc k).isSome)
      (transaction.take length.toNat, S.targets S.currentSlot options.val.targetLimit.toNat) := by
  have hword : toSize wordBits options.val.targetLimit ≠ 0 := by
    rw [ne_eq, ← toNat_eq_zero_iff, toNat_limit]
    exact fun h => hlimit (UInt32.toNat_inj.mp h)
  have hlength' : length.toBitVec ≠ 0 := fun h => hlength (UInt64.toBitVec_inj.mp h)
  have hroute : Yields (routeSubmission wordBits s.client.data S.currentSlot
      (toSize wordBits options.val.targetLimit) transaction length.toBitVec
      fun k => (answers.calloc k).isSome) _ _ :=
    yields_routeSubmission (by decide) hs.topology.spans hS hword hlength' hbytes
  rw [toNat_limit] at hroute
  rw [routingOf, hS.currentSlot]
  exact hroute

/-- What the routing of a submission has to do with what the submission does. -/
structure Routed (s : State) (transaction : List UInt8) (length : UInt64)
    (options : Ref SubmitOptions) (outRequestId : Option (Ref UInt64)) (answers : Answers) :
    Prop where
  rejected : ∀ e, firstFailure (entryStages s transaction length options outRequestId answers)
      = none →
    routingOf s transaction length options answers = throw e →
    (step s (.submit .self (some (ofList transaction)) length (some options) outRequestId
      answers)).1 = .submitted e (some requestIdNone)
  accepted : ∀ id, acceptedBy (step s (.submit .self (some (ofList transaction)) length
      (some options) outRequestId answers)).1 = some id →
    ∃ r bytes targets, (step s (.submit .self (some (ofList transaction)) length (some options)
        outRequestId answers)).2.client.data.requestHead = r :: s.client.data.requestHead ∧
      routingOf s transaction length options answers = pure (bytes, targets) ∧
      Block.dataOf r.data.transactionBytes = some bytes ∧
      Block.dataOf r.data.targets = some targets

/-- A submission that comes to its routing has valid arguments. -/
lemma arguments_of_entryStages (h : firstFailure (entryStages s transaction length options
      outRequestId answers) = none) :
    pointerIsAlignedFor outRequestId 8 = true ∧ length ≠ 0 ∧ options.val.targetLimit ≠ 0 := by
  have harguments := firstFailure_eq_none.mp h _ (List.mem_cons_self ..)
  have hoptions := firstFailure_eq_none.mp h (_, Status.invalidArgument)
    (List.mem_cons_of_mem _ (List.mem_append_left _ (List.mem_cons_of_mem _
      (List.mem_cons_of_mem _ (List.mem_cons_self ..)))))
  simp only [submitArgumentStage, Option.isSome_some, Bool.and_true, Bool.and_eq_true,
    bne_iff_ne, Option.any_some] at harguments hoptions
  exact ⟨harguments.1, harguments.2, hoptions.2⟩

/-- **A submission does what its routing on words does**: it fails as the routing fails, and an
accepted request holds what the routing has computed. -/
lemma routed_of_wellFormed (hs : s.WellFormed) (hbytes : length.toNat ≤ transaction.length) :
    Routed s transaction length options outRequestId answers := by
  constructor
  case rejected =>
    intro e hentry hthrow
    obtain ⟨S, hS⟩ := hs.topology.represents
    obtain ⟨hout, hlength, hlimit⟩ := arguments_of_entryStages hentry
    have hfail := (yields_routingOf hs hS hlimit hlength hbytes).eq_throw.mp hthrow
    have hfirst := firstFailure_routing (S := S) hentry
    rw [hfail, Option.some_or] at hfirst
    obtain ⟨status, out, s', hstep, hcase⟩ := submission_cases hs hS .self
      (some (ofList transaction)) length (some options) outRequestId answers
    rw [hstep]
    cases hcase with
    | rejected hstatus _ _ hclear =>
        obtain rfl := Option.some.inj (hfirst.symm.trans hstatus)
        rw [hclear, clearedRequestId, if_neg (by simp [hout])]
    | accepted hnone _ _ _ _ => exact absurd (hfirst.symm.trans hnone) (Option.some_ne_none _)
  case accepted =>
    intro id hid
    cases (step_spec hs (.submit .self (some (ofList transaction)) length (some options)
      outRequestId answers)).client with
    | kept _ _ hnone _ => exact absurd (hid.symm.trans hnone) (Option.some_ne_none id)
    | installed _ _ _ hnone _ => exact absurd (hid.symm.trans hnone) (Option.some_ne_none id)
    | drained _ _ _ _ hnone => exact absurd (hid.symm.trans hnone) (Option.some_ne_none id)
    | accepted hop hS haccepted _ _ _ =>
        cases hop
        obtain ⟨status, out, s', hstep, hcase⟩ := submission_cases hs hS .self
          (some (ofList transaction)) length (some options) outRequestId answers
        cases hcase with
        | rejected _ hne _ _ => exact absurd hid (by simp [hstep, acceptedBy, hne])
        | accepted hnone _ _ _ _ =>
            rw [State.behind] at hnone
            obtain ⟨hentry, -⟩ := Option.or_eq_none_iff.mp
              ((firstFailure_append _ _).symm.trans (submitStages_eq ▸ hnone))
            obtain ⟨hroute, -⟩ := Option.or_eq_none_iff.mp
              ((firstFailure_routing hentry).symm.trans hnone)
            obtain ⟨-, hlength, hlimit⟩ := arguments_of_entryStages hentry
            have hrouted := (yields_routingOf hs hS hlimit hlength hbytes).eq_pure hroute
            obtain ⟨r, hclient, hrecords⟩ := haccepted.client
            have hcopied : slice (ofList transaction) 0 length.toNat
                = transaction.take length.toNat :=
              Option.some.inj ((read_of_le (by omega)).symm.trans (read_transaction hbytes))
            refine ⟨r, _, _, by rw [hclient]; rfl, hrouted, ?_, hrecords.targets⟩
            rw [hrecords.transactionBytes, hcopied]

end Submissions

/-- **The routing of submissions is safe.** In every state of every run, for every width of `size_t`
from 32 bits on, the routing of a transaction that is as long as declared leaves none of its arrays,
divides by no zero and stores through no null pointer; it stops with the first of its stages that
does not hold, which is the one of the count where the candidates of the slot do not fit a word, or
computes the copy and the targets. Where `size_t` has 64 bits, a submission fails as its routing
fails, and a submission that returns `OK` has stored what its routing computes. -/
theorem submission_routing_safe (d : Dependencies) (ops : List Op) :
    let s := run step (fresh d) ops
    ∃ S, s.client.data.topology.Represents S ∧
      (∀ W, 32 ≤ W → ∀ slot (limit length : BitVec W) transaction granted, limit ≠ 0 → length ≠ 0 →
        length.toNat ≤ transaction.length →
        Yields (routeSubmission W s.client.data slot limit transaction length granted)
          (routeStages W S s.client.data slot limit.toNat length.toNat granted)
          (transaction.take length.toNat, S.targets slot limit.toNat)) ∧
      ∀ transaction length options outRequestId answers, length.toNat ≤ transaction.length →
        Routed s transaction length options outRequestId answers := by
  intro s
  have hs : s.WellFormed := wellFormed_run d ops
  obtain ⟨S, hS⟩ := hs.topology.represents
  refine ⟨S, hS, ?_, fun _ _ _ _ _ hbytes => routed_of_wellFormed hs hbytes⟩
  intro W hW slot limit length transaction granted hlimit hlength hbytes
  exact yields_routeSubmission hW hs.topology.spans hS hlimit hlength hbytes

end SolanaTpuClient
