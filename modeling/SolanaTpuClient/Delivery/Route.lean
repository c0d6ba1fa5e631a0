import SolanaTpuClient.Lib.Loops
import SolanaTpuClient.Lib.FirstOccurrence
import SolanaTpuClient.Spec.Snapshot

/-!
The route planner of `src/solana_delivery_route.c`.

The planner counts the candidates whose target did not occur before and emits them up to the
target limit. Its two loops compute `firstsBy` of the candidates (`countUniqueTargets_eq`,
`emitTargets_eq`), which gives the result of a call that only sizes (`planRoutes_of_short`) and of
one that fills (`planRoutes_of_room`).
-/

namespace SolanaTpuClient

open FirstOccurrence Loops OutputBuffer

/-! ### The planner -/

/-- `candidate_has_same_target` -/
def candidateHasSameTarget (left right : TopologyCandidate) : Bool :=
  left.validatorIndex == right.validatorIndex && left.endpointIndex == right.endpointIndex

/-- `&candidates[index]` -/
def candidateAt (candidates : List TopologyCandidate) (index : ℕ) : TopologyCandidate :=
  candidates.getD index TopologyCandidate.zero

/-- `candidate_is_first_occurrence` -/
def candidateIsFirstOccurrence (candidates : List TopologyCandidate) (index : ℕ) : Bool :=
  (List.range index).all fun prior =>
    !candidateHasSameTarget (candidateAt candidates prior) (candidateAt candidates index)

/-- `count_unique_targets` -/
def countUniqueTargets (candidates : List TopologyCandidate) (candidateCount : ℕ) : ℕ :=
  (List.range candidateCount).foldl (fun uniqueCount index =>
    if candidateIsFirstOccurrence candidates index then uniqueCount + 1 else uniqueCount) 0

/-- The route target of a candidate. -/
def TopologyCandidate.route (c : TopologyCandidate) : RouteTarget :=
  ⟨c.leaderIndex, c.validatorIndex, c.endpointIndex⟩

/-- The loop of `solana_delivery_plan_routes` that fills `targets`. -/
def emitTargets (candidates : List TopologyCandidate) (candidateCount selectedCount : ℕ)
    (targets : List RouteTarget) : List RouteTarget :=
  (foldWhile (fun st => st.2 < selectedCount) (fun st index =>
    if candidateIsFirstOccurrence candidates index then
      emit st (candidateAt candidates index).route
    else st) (List.range candidateCount) (targets, 0)).1

/-- What `solana_delivery_plan_routes` returns: its status, what its two counters point to and the
array behind `targets`. -/
structure PlanResult where
  status : Status
  outTargetCount : Option ℕ
  outUniqueTargetCount : Option ℕ
  targets : Option (List RouteTarget)

/-- `solana_delivery_plan_routes` -/
def planRoutes (candidates : Option (List TopologyCandidate)) (candidateCount targetLimit : ℕ)
    (targets : Option (List RouteTarget)) (capacity : ℕ)
    (outTargetCount outUniqueTargetCount : Option ℕ) : PlanResult :=
  match outTargetCount, outUniqueTargetCount with
  | some _, some _ =>
      if targetLimit = 0 ∨ (candidateCount ≠ 0 ∧ candidates = none) ∨
          (capacity ≠ 0 ∧ targets = none) then
        ⟨Status.invalidArgument, some 0, some 0, targets⟩
      else if candidateCount = 0 then ⟨Status.topologyUnavailable, some 0, some 0, targets⟩
      else
        let candidates := candidates.getD []
        let uniqueCount := countUniqueTargets candidates candidateCount
        let selectedCount := if uniqueCount < targetLimit then uniqueCount else targetLimit
        if capacity < selectedCount then
          ⟨Status.resourceExhausted, some selectedCount, some uniqueCount, targets⟩
        else
          ⟨Status.ok, some selectedCount, some uniqueCount,
            targets.map (emitTargets candidates candidateCount selectedCount)⟩
  | _, _ => ⟨Status.invalidArgument, outTargetCount, outUniqueTargetCount, targets⟩

/-! ### The loops compute the first occurrences -/

lemma candidateHasSameTarget_iff {left right : TopologyCandidate} :
    candidateHasSameTarget left right = true ↔ left.target = right.target := by
  simp [candidateHasSameTarget, TopologyCandidate.target]

lemma candidateIsFirstOccurrence_eq (l : List TopologyCandidate) (i : ℕ) :
    candidateIsFirstOccurrence l i
      = decide (∀ j < i, (candidateAt l j).target ≠ (candidateAt l i).target) := by
  rw [Bool.eq_iff_iff, decide_eq_true_iff, candidateIsFirstOccurrence, List.all_eq_true]
  refine forall_congr' fun j => ?_
  rw [List.mem_range, Bool.not_eq_true', ← Bool.not_eq_true, candidateHasSameTarget_iff]

lemma firstsBy_target_eq (l : List TopologyCandidate) :
    firstsBy TopologyCandidate.target l
      = ((List.range l.length).filter (candidateIsFirstOccurrence l)).map (candidateAt l) := by
  rw [firstsBy_eq_range _ TopologyCandidate.zero, funext (candidateIsFirstOccurrence_eq l)]
  rfl

lemma countUniqueTargets_eq (l : List TopologyCandidate) :
    countUniqueTargets l l.length = (firstsBy TopologyCandidate.target l).length := by
  rw [countUniqueTargets, foldl_count, Nat.zero_add, firstsBy_target_eq, List.length_map]

lemma emitTargets_eq (l : List TopologyCandidate) {n : ℕ} {buffer : List RouteTarget}
    (hroom : n ≤ buffer.length) :
    emitTargets l l.length n buffer
      = patch (((firstsBy TopologyCandidate.target l).take n).map TopologyCandidate.route)
        buffer := by
  have hfit : (((firstsBy TopologyCandidate.target l).take n).map
      TopologyCandidate.route).length ≤ buffer.length := by
    rw [List.length_map, List.length_take]
    omega
  have hloop := foldWhile_emit (candidateIsFirstOccurrence l)
    (fun i => (candidateAt l i).route) n (List.range l.length) (buffer, 0)
  have hentries : ((List.range l.length).filter (candidateIsFirstOccurrence l)).map
        (fun i => (candidateAt l i).route)
      = (firstsBy TopologyCandidate.target l).map TopologyCandidate.route := by
    rw [firstsBy_target_eq, List.map_map]
    rfl
  rw [hentries, Nat.sub_zero, ← List.map_take, foldl_emit hfit] at hloop
  exact congrArg Prod.fst hloop

/-! ### The results of the planner -/

variable {l : List TopologyCandidate} {limit : ℕ}

/-- The number of targets a plan selects. -/
def selectedCount (l : List TopologyCandidate) (limit : ℕ) : ℕ :=
  min (firstsBy TopologyCandidate.target l).length limit

lemma selectedCount_pos (hl : l ≠ []) (hlimit : limit ≠ 0) : 0 < selectedCount l limit := by
  have hfirsts : 0 < (firstsBy TopologyCandidate.target l).length :=
    List.length_pos_iff.mpr (firstsBy_ne_nil _ hl)
  exact lt_min hfirsts (Nat.pos_of_ne_zero hlimit)

lemma planRoutes_eq (hl : l ≠ []) (hlimit : limit ≠ 0) {targets : Option (List RouteTarget)}
    {capacity a b : ℕ} (htargets : capacity = 0 ∨ targets.isSome) :
    planRoutes (some l) l.length limit targets capacity (some a) (some b)
      = if capacity < selectedCount l limit then
          ⟨Status.resourceExhausted, some (selectedCount l limit),
            some (firstsBy TopologyCandidate.target l).length, targets⟩
        else
          ⟨Status.ok, some (selectedCount l limit),
            some (firstsBy TopologyCandidate.target l).length,
            targets.map (emitTargets l l.length (selectedCount l limit))⟩ := by
  have hargs : ¬(capacity ≠ 0 ∧ targets = none) := by
    rintro ⟨hcap, rfl⟩
    simp [hcap] at htargets
  have hlen : l.length ≠ 0 := mt List.eq_nil_of_length_eq_zero hl
  have hselected : (if (firstsBy TopologyCandidate.target l).length < limit then
      (firstsBy TopologyCandidate.target l).length else limit) = selectedCount l limit := by
    rw [selectedCount]
    split_ifs <;> omega
  simp only [planRoutes, hlimit, hargs, hlen, countUniqueTargets_eq, hselected, Option.getD_some,
    reduceCtorEq, and_false, or_self, if_false]

/-- The targets do not fit. -/
lemma planRoutes_of_short (hl : l ≠ []) (hlimit : limit ≠ 0) {capacity a b : ℕ}
    {targets : Option (List RouteTarget)} (htargets : capacity = 0 ∨ targets.isSome)
    (hshort : capacity < selectedCount l limit) :
    planRoutes (some l) l.length limit targets capacity (some a) (some b)
      = ⟨Status.resourceExhausted, some (selectedCount l limit),
          some (firstsBy TopologyCandidate.target l).length, targets⟩ := by
  rw [planRoutes_eq hl hlimit htargets, if_pos hshort]

/-- The targets fit and are written to the front of the array. -/
lemma planRoutes_of_room (hl : l ≠ []) (hlimit : limit ≠ 0) {capacity a b : ℕ}
    {buffer : List RouteTarget} (hroom : selectedCount l limit ≤ capacity)
    (hcapacity : capacity ≤ buffer.length) :
    planRoutes (some l) l.length limit (some buffer) capacity (some a) (some b)
      = ⟨Status.ok, some (selectedCount l limit),
          some (firstsBy TopologyCandidate.target l).length,
          some (patch (((firstsBy TopologyCandidate.target l).take limit).map
            TopologyCandidate.route) buffer)⟩ := by
  have htake : (firstsBy TopologyCandidate.target l).take (selectedCount l limit)
      = (firstsBy TopologyCandidate.target l).take limit := by
    rw [selectedCount, min_comm, ← List.take_take, List.take_length]
  rw [planRoutes_eq hl hlimit (Or.inr rfl), if_neg (not_lt.mpr hroom), Option.map_some,
    emitTargets_eq l (hroom.trans hcapacity), htake]

end SolanaTpuClient
