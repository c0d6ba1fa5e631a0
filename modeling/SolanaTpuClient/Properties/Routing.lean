import SolanaTpuClient.Properties.Resolution
import SolanaTpuClient.Spec.Routing
import SolanaTpuClient.Delivery.Route

/-!
The route planner, alone and behind the resolver.

On any candidate list the planner keeps the first occurrence of every target and truncates at the
limit, so a larger limit extends a plan and a plan is its own plan. On the candidates of a slot this
is the routing of the slot (`Snapshot.RoutedBy`), whose pairs do not depend on the order of the
leader and association records.
-/

namespace SolanaTpuClient

open FirstOccurrence OutputBuffer Transition

/-! ### Planning an arbitrary list -/

/-- The entries a plan has put into the target array. -/
def PlanResult.selected (r : PlanResult) : List RouteTarget :=
  (r.targets.getD []).take (r.outTargetCount.getD 0)

/-- A route target as a candidate. -/
def RouteTarget.candidate (t : RouteTarget) : TopologyCandidate :=
  ⟨t.leaderIndex, t.validatorIndex, t.endpointIndex⟩

/-- The result of planning a nonempty list whose first occurrences are `D`. -/
inductive Plans (D : List TopologyCandidate) (limit : ℕ) (targets : Option (List RouteTarget))
    (capacity : ℕ) (r : PlanResult) : Prop where
  | exhausted : capacity < min D.length limit →
      r = ⟨Status.resourceExhausted, some (min D.length limit), some D.length, targets⟩ →
      Plans D limit targets capacity r
  | filled {b b' : List RouteTarget} : min D.length limit ≤ capacity → targets = some b →
      FrontReplaced ((D.take limit).map TopologyCandidate.route) b b' →
      r = ⟨Status.ok, some (min D.length limit), some D.length, some b'⟩ →
      Plans D limit targets capacity r

variable {l : List TopologyCandidate} {limit capacity a b : ℕ}

@[simp] lemma candidate_route (c : TopologyCandidate) : c.route.candidate = c := rfl

@[simp] lemma route_candidate (t : RouteTarget) : t.candidate.route = t := rfl

section Plans

variable {D : List TopologyCandidate} {r : PlanResult}

lemma Plans.eq_of_short {targets : Option (List RouteTarget)} (h : Plans D limit targets capacity r)
    (hshort : capacity < min D.length limit) :
    r = ⟨Status.resourceExhausted, some (min D.length limit), some D.length, targets⟩ := by
  cases h with
  | exhausted _ hr => exact hr
  | filled hroom _ _ _ => exact absurd hshort (not_lt.mpr hroom)

lemma Plans.eq_of_room {buffer : List RouteTarget} (h : Plans D limit (some buffer) capacity r)
    (hroom : min D.length limit ≤ capacity) :
    r = ⟨Status.ok, some (min D.length limit), some D.length,
      some ((D.take limit).map TopologyCandidate.route ++ buffer.drop (min D.length limit))⟩ := by
  cases h with
  | exhausted hshort _ => exact absurd hshort (not_lt.mpr hroom)
  | filled _ hbuffer hreplaced hr =>
      obtain rfl := Option.some.inj hbuffer
      rw [hr, hreplaced.eq, List.length_map, List.length_take, min_comm]

end Plans

/-- The calls the planner refuses. -/
lemma planRoutes_invalid {candidates : Option (List TopologyCandidate)} {count : ℕ}
    {targets : Option (List RouteTarget)}
    (h : limit = 0 ∨ (count ≠ 0 ∧ candidates = none) ∨ (capacity ≠ 0 ∧ targets = none)) :
    planRoutes candidates count limit targets capacity (some a) (some b)
      = ⟨Status.invalidArgument, some 0, some 0, targets⟩ := by
  simp only [planRoutes]
  rw [if_pos h]

/-- There is nothing to plan. -/
lemma planRoutes_empty {candidates : Option (List TopologyCandidate)}
    {targets : Option (List RouteTarget)} (hlimit : limit ≠ 0)
    (htargets : capacity = 0 ∨ targets.isSome) :
    planRoutes candidates 0 limit targets capacity (some a) (some b)
      = ⟨Status.topologyUnavailable, some 0, some 0, targets⟩ := by
  have hargs : ¬(capacity ≠ 0 ∧ targets = none) := by
    rintro ⟨hcap, rfl⟩
    simp [hcap] at htargets
  simp [planRoutes, hlimit, hargs]

lemma planRoutes_plans (hl : l ≠ []) (hlimit : limit ≠ 0) {targets : Option (List RouteTarget)}
    (htargets : Reaches targets capacity) :
    Plans (firstsBy TopologyCandidate.target l) limit targets capacity
      (planRoutes (some l) l.length limit targets capacity (some a) (some b)) := by
  rcases lt_or_ge capacity (selectedCount l limit) with hshort | hroom
  · exact .exhausted hshort (planRoutes_of_short hl hlimit htargets.spec hshort)
  · rcases htargets with rfl | ⟨buffer, rfl, hcapacity⟩
    · exact absurd (selectedCount_pos hl hlimit) (not_lt.mpr hroom)
    · refine .filled hroom rfl (frontReplaced_patch ?_)
        (planRoutes_of_room hl hlimit hroom hcapacity)
      rw [List.length_map, List.length_take, min_comm]
      exact hroom.trans hcapacity

/-- What a plan on a large enough array selects. -/
lemma planRoutes_selected (hlimit : limit ≠ 0) {buffer : List RouteTarget}
    (hroom : selectedCount l limit ≤ capacity) (hcapacity : capacity ≤ buffer.length) :
    (planRoutes (some l) l.length limit (some buffer) capacity (some a) (some b)).selected
      = ((firstsBy TopologyCandidate.target l).take limit).map TopologyCandidate.route := by
  by_cases hl : l = []
  · subst hl
    have hempty : planRoutes (some []) 0 limit (some buffer) capacity (some a) (some b) = _ :=
      planRoutes_empty hlimit (Or.inr rfl)
    rw [List.length_nil, hempty]
    simp [PlanResult.selected]
  · rw [planRoutes_of_room hl hlimit hroom hcapacity]
    have hlen : selectedCount l limit = (((firstsBy TopologyCandidate.target l).take limit).map
        TopologyCandidate.route).length := by
      rw [List.length_map, List.length_take, selectedCount, min_comm]
    simp only [PlanResult.selected, Option.getD_some, hlen, patch, List.take_left]

/-- The targets of a plan are planned as they stand. -/
lemma planRoutes_again (hl : l ≠ []) (hlimit : limit ≠ 0) {buffer : List RouteTarget}
    (hroom : selectedCount l limit ≤ buffer.length) :
    let plan := (firstsBy TopologyCandidate.target l).take limit
    let again := planRoutes (some plan) plan.length limit (some buffer) buffer.length
      (some a) (some b)
    again.status = Status.ok ∧ again.selected = plan.map TopologyCandidate.route := by
  intro plan again
  have hkept : firstsBy TopologyCandidate.target plan = plan := firstsBy_take_firstsBy _ l limit
  have hlen : plan.length = selectedCount l limit := by
    rw [selectedCount, List.length_take, min_comm]
  have hne : plan ≠ [] := by
    rw [← List.length_pos_iff, hlen]
    exact selectedCount_pos hl hlimit
  have hcount : selectedCount plan limit ≤ buffer.length := by
    rw [selectedCount, hkept]
    exact (min_le_left _ _).trans (hlen.trans_le hroom)
  refine ⟨congrArg PlanResult.status (planRoutes_of_room hne hlimit hcount le_rfl), ?_⟩
  rw [planRoutes_selected hlimit hcount le_rfl, hkept, List.take_take, min_self]

/-- **Planning is deduplication and truncation.** A zero limit or a null array of nonzero length is
an invalid argument, an empty list has nothing to plan, and in both cases nothing is written. On any
other list the plan reports how many targets occur and how many of them are selected, and writes the
first occurrences up to the limit to the front of the array, or nothing if the capacity is short. A
larger limit extends the plan, and the targets of a plan are their own plan. -/
theorem planning_deduplicates_and_truncates :
    (∀ candidates count limit targets capacity a b,
      limit = 0 ∨ (count ≠ 0 ∧ candidates = none) ∨ (capacity ≠ 0 ∧ targets = none) →
      planRoutes candidates count limit targets capacity (some a) (some b)
        = ⟨Status.invalidArgument, some 0, some 0, targets⟩) ∧
    (∀ candidates limit targets capacity a b, limit ≠ 0 → capacity = 0 ∨ targets.isSome = true →
      planRoutes candidates 0 limit targets capacity (some a) (some b)
        = ⟨Status.topologyUnavailable, some 0, some 0, targets⟩) ∧
    (∀ l limit targets capacity a b, l ≠ [] → limit ≠ 0 → Reaches targets capacity →
      let D := firstsBy TopologyCandidate.target l
      1 ≤ min D.length limit ∧
        Plans D limit targets capacity
          (planRoutes (some l) l.length limit targets capacity (some a) (some b))) ∧
    (∀ l limit limit' buffer buffer' a b, 0 < limit → limit ≤ limit' →
      selectedCount l limit ≤ buffer.length → selectedCount l limit' ≤ buffer'.length →
      (planRoutes (some l) l.length limit (some buffer) buffer.length (some a) (some b)).selected <+:
        (planRoutes (some l) l.length limit' (some buffer') buffer'.length
          (some a) (some b)).selected) ∧
    ∀ l limit buffer buffer' a b, l ≠ [] → 0 < limit → selectedCount l limit ≤ buffer.length →
      selectedCount l limit ≤ buffer'.length →
      let plan := (planRoutes (some l) l.length limit (some buffer) buffer.length
        (some a) (some b)).selected
      let again := planRoutes (some (plan.map RouteTarget.candidate)) plan.length limit
        (some buffer') buffer'.length (some a) (some b)
      again.status = Status.ok ∧ again.selected = plan := by
  refine ⟨fun _ _ _ _ _ _ _ => planRoutes_invalid, fun _ _ _ _ _ _ => planRoutes_empty, ?_, ?_, ?_⟩
  · intro l limit targets capacity a b hl hlimit htargets D
    exact ⟨selectedCount_pos hl hlimit, planRoutes_plans hl hlimit htargets⟩
  · intro l limit limit' buffer buffer' a b hpos hle hroom hroom'
    rw [planRoutes_selected hpos.ne' hroom le_rfl,
      planRoutes_selected (hpos.trans_le hle).ne' hroom' le_rfl]
    exact (List.take_prefix_take_left hle).map _
  · intro l limit buffer buffer' a b hl hpos hroom hroom' plan again
    have hplan : plan = ((firstsBy TopologyCandidate.target l).take limit).map
        TopologyCandidate.route := planRoutes_selected hpos.ne' hroom le_rfl
    have hcandidates : plan.map RouteTarget.candidate
        = (firstsBy TopologyCandidate.target l).take limit := by
      simp [hplan, Function.comp_def]
    have hlen : plan.length = ((firstsBy TopologyCandidate.target l).take limit).length := by
      rw [hplan, List.length_map]
    simp only [again, hcandidates, hlen]
    rw [hplan]
    exact planRoutes_again hl hpos.ne' hroom'

/-- Candidates of three targets, one of them three times. -/
def sampleCandidates : List TopologyCandidate :=
  [⟨0, 1, 1⟩, ⟨0, 1, 1⟩, ⟨1, 0, 0⟩, ⟨1, 0, 1⟩, ⟨2, 1, 1⟩]

theorem planning_deduplicates_and_truncates_sample :
    let buffer := List.replicate 4 (⟨0, 0, 0⟩ : RouteTarget)
    let plan (l : List TopologyCandidate) (limit capacity : ℕ) :=
      planRoutes (some l) l.length limit (some buffer) capacity (some 8) (some 9)
    plan sampleCandidates 0 4 = ⟨Status.invalidArgument, some 0, some 0, some buffer⟩ ∧
      plan [] 2 4 = ⟨Status.topologyUnavailable, some 0, some 0, some buffer⟩ ∧
      plan sampleCandidates 2 1 = ⟨Status.resourceExhausted, some 2, some 3, some buffer⟩ ∧
      plan sampleCandidates 2 3
        = ⟨Status.ok, some 2, some 3, some [⟨0, 1, 1⟩, ⟨1, 0, 0⟩, ⟨0, 0, 0⟩, ⟨0, 0, 0⟩]⟩ ∧
      (plan sampleCandidates 2 4).selected <+: (plan sampleCandidates 3 4).selected ∧
      (plan ((plan sampleCandidates 2 4).selected.map RouteTarget.candidate) 2 4).selected
        = (plan sampleCandidates 2 4).selected := by
  intro buffer plan
  obtain ⟨hinvalid, hempty, hplans, hlonger, hagain⟩ := planning_deduplicates_and_truncates
  have hreaches : ∀ {capacity}, capacity ≤ 4 → Reaches (some buffer) capacity :=
    fun h => Or.inr ⟨buffer, rfl, h⟩
  have hplan : ∀ {capacity}, capacity ≤ 4 → Plans (firstsBy TopologyCandidate.target
      sampleCandidates) 2 (some buffer) capacity (plan sampleCandidates 2 capacity) :=
    fun h => (hplans sampleCandidates 2 (some buffer) _ 8 9 (by decide) (by decide)
      (hreaches h)).2
  refine ⟨?_, ?_, ?_, ?_, ?_, ?_⟩
  · exact hinvalid _ _ 0 _ 4 8 9 (Or.inl rfl)
  · exact hempty _ 2 _ 4 8 9 (by decide) (Or.inr rfl)
  · exact (hplan (by decide)).eq_of_short (by decide)
  · exact (hplan (by decide)).eq_of_room (by decide)
  · exact hlonger sampleCandidates 2 3 buffer buffer 8 9 (by decide) (by decide) (by decide)
      (by decide)
  · exact (hagain sampleCandidates 2 buffer buffer 8 9 (by decide) (by decide) (by decide)
      (by decide)).2

/-! ### Routing a slot -/

/-- The candidates a resolution has put into its array. -/
def ResolveResult.resolved (r : ResolveResult) : List TopologyCandidate :=
  (r.candidates.getD []).take (r.outCount.getD 0)

/-- The pair of a route target. -/
def RouteTarget.pair (t : RouteTarget) : UInt32 × UInt32 := (t.validatorIndex, t.endpointIndex)

/-- A slot resolved into the array `candidates`, and what was resolved planned into the array
`targets`. -/
def routeSlot (c : Client) (slot : UInt64) (candidates : List TopologyCandidate) (limit : ℕ)
    (targets : List RouteTarget) : ResolveResult × PlanResult :=
  let r := resolveSlot (some c) slot (some candidates) candidates.length (some 0)
  (r, planRoutes (some r.resolved) r.resolved.length limit (some targets) targets.length
    (some 0) (some 0))

variable {c c' : Client} {S S' : Snapshot} {slot : UInt64} {candidates candidates' : List TopologyCandidate}
  {targets targets' : List RouteTarget}

/-- Nobody can be reached. -/
lemma resolveSlot_unreachable (hc : c.Holds S) (h : S.reachable slot = ∅)
    {buffer : Option (List TopologyCandidate)} {n : ℕ} (hbuffer : Reaches buffer capacity) :
    resolveSlot (some c) slot buffer capacity (some n)
      = ⟨Status.topologyUnavailable, some 0, buffer⟩ :=
  (resolveSlot_resolves hc hbuffer).eq_of_nil (Snapshot.resolution_eq_nil.mpr h)

/-- What comes out of the resolver is the resolution, and what comes out of the planner its
distinct targets up to the limit. -/
lemma routeSlot_eq (hc : c.Holds S) (h : S.reachable slot ≠ ∅) (hlimit : limit ≠ 0)
    (hcandidates : (S.resolution slot).length ≤ candidates.length)
    (htargets : min (S.reachable slot).card limit ≤ targets.length) :
    let result := routeSlot c slot candidates limit targets
    result.1.status = Status.ok ∧ result.2.status = Status.ok ∧
      result.2.outUniqueTargetCount = some (S.reachable slot).card ∧
      result.2.outTargetCount = some (min (S.reachable slot).card limit) ∧
      result.2.selected = (S.plan slot limit).map TopologyCandidate.route := by
  have hne : S.resolution slot ≠ [] := mt Snapshot.resolution_eq_nil.mp h
  have hr : S.Routable slot := Snapshot.resolution_ne_nil.mp hne
  have hresolve := resolveSlot_of_room (n := 0) hc.1 hc.2 hr hcandidates le_rfl
  have hresolved : ResolveResult.resolved ⟨Status.ok, some (S.resolution slot).length,
      some (patch (S.resolution slot) candidates)⟩ = S.resolution slot := by
    simp only [ResolveResult.resolved, Option.getD_some, patch, List.take_left]
  have hroom : selectedCount (S.resolution slot) limit ≤ targets.length := by
    rwa [selectedCount, Snapshot.firsts_card]
  have hplan := planRoutes_of_room (a := 0) (b := 0) hne hlimit hroom le_rfl
  have hselected := planRoutes_selected (a := 0) (b := 0) hlimit hroom le_rfl
  simp only [routeSlot, hresolve, hresolved, hselected]
  simp only [hplan, selectedCount, Snapshot.firsts_card, true_and]
  rfl

/-- When the limit does not truncate, the pairs that are selected are all that are reachable. -/
lemma mem_pairs_of_routedBy {unique : ℕ} {plan : List TopologyCandidate}
    (h : S.RoutedBy slot limit unique plan) (hlimit : unique ≤ limit) {p : UInt32 × UInt32} :
    p ∈ plan.map TopologyCandidate.target ↔ p ∈ S.reachable slot := by
  have hsub : (plan.map TopologyCandidate.target).toFinset ⊆ S.reachable slot := by
    intro q hq
    obtain ⟨c, hc, rfl⟩ := List.mem_map.mp (List.mem_toFinset.mp hq)
    exact h.reached c hc
  have hcard : (S.reachable slot).card ≤ (plan.map TopologyCandidate.target).toFinset.card := by
    rw [List.toFinset_card_of_nodup h.distinct, List.length_map, h.length_eq, min_eq_left]
    exact h.unique_eq ▸ hlimit
  rw [← List.mem_toFinset, Finset.eq_of_subset_of_card_le hsub hcard]

/-- **Routing is sound, complete, without duplicates and ordered.** Let a client hold the snapshot
`S`. If no pair is reachable in a slot, the resolver reports that nothing is available. Otherwise
resolving the slot and planning the candidates, on arrays that are large enough, reports the number
of reachable pairs and selects their routing up to the limit: distinct reachable pairs, as many as
the limit allows, each with the first leader record of its validator, in the order of that record
and of the first association that is the pair, and without gaps. The number of pairs, and the pairs
that are selected when the limit does not truncate, are the same for clients whose leader and
association records are permutations of each other. -/
theorem routing_sound_complete_ordered :
    (∀ (c : Client) S slot, c.Holds S →
      (S.reachable slot = ∅ → ∀ buffer capacity n, Reaches buffer capacity →
        resolveSlot (some c) slot buffer capacity (some n)
          = ⟨Status.topologyUnavailable, some 0, buffer⟩) ∧
      (S.reachable slot ≠ ∅ → ∀ limit candidates targets, limit ≠ 0 →
        (S.resolution slot).length ≤ candidates.length →
        min (S.reachable slot).card limit ≤ targets.length →
        let result := routeSlot c slot candidates limit targets
        result.1.status = Status.ok ∧ result.2.status = Status.ok ∧
          result.2.outTargetCount = some result.2.selected.length ∧
          ∃ unique, result.2.outUniqueTargetCount = some unique ∧
            S.RoutedBy slot limit unique (result.2.selected.map RouteTarget.candidate))) ∧
    ∀ (c c' : Client) S S' slot limit candidates candidates' targets targets',
      c.Holds S → c'.Holds S' → S.leaders.Perm S'.leaders →
      S.validatorEndpoints.Perm S'.validatorEndpoints → S.reachable slot ≠ ∅ → limit ≠ 0 →
      (S.resolution slot).length ≤ candidates.length →
      (S'.resolution slot).length ≤ candidates'.length →
      min (S.reachable slot).card limit ≤ targets.length →
      min (S'.reachable slot).card limit ≤ targets'.length →
      let result := (routeSlot c slot candidates limit targets).2
      let result' := (routeSlot c' slot candidates' limit targets').2
      result.outUniqueTargetCount = result'.outUniqueTargetCount ∧
        ((S.reachable slot).card ≤ limit → ∀ p,
          p ∈ result.selected.map RouteTarget.pair ↔ p ∈ result'.selected.map RouteTarget.pair) := by
  have hpairs : ∀ {S : Snapshot} {slot : UInt64} {limit : ℕ},
      ((S.plan slot limit).map TopologyCandidate.route).map RouteTarget.pair
        = (S.plan slot limit).map TopologyCandidate.target := by
    intro S slot limit
    rw [List.map_map]
    rfl
  constructor
  · intro c S slot hc
    refine ⟨fun h _ _ _ hbuffer => resolveSlot_unreachable hc h hbuffer, ?_⟩
    intro h limit candidates targets hlimit hcandidates htargets result
    obtain ⟨hresolved, hplanned, hunique, hcount, hselected⟩ :=
      routeSlot_eq hc h hlimit hcandidates htargets
    refine ⟨hresolved, hplanned, ?_, _, hunique, ?_⟩
    · rw [hcount, hselected, List.length_map, (Snapshot.plan_routedBy limit).length_eq]
    · have hrouted : S.RoutedBy slot limit _ (S.plan slot limit) := Snapshot.plan_routedBy limit
      rw [Snapshot.firsts_card] at hrouted
      simpa [hselected, result, Function.comp_def] using hrouted
  · intro c c' S S' slot limit candidates candidates' targets targets' hc hc' hl ha h hlimit
      hcandidates hcandidates' htargets htargets' result result'
    have hsame : S.reachable slot = S'.reachable slot := Snapshot.reachable_perm hl ha
    obtain ⟨-, -, hunique, -, hselected⟩ :=
      routeSlot_eq hc h hlimit hcandidates htargets
    obtain ⟨-, -, hunique', -, hselected'⟩ :=
      routeSlot_eq hc' (hsame ▸ h) hlimit hcandidates' htargets'
    refine ⟨by rw [hunique, hunique', hsame], fun hle p => ?_⟩
    rw [hselected, hselected', hpairs, hpairs,
      mem_pairs_of_routedBy (Snapshot.plan_routedBy limit) (Snapshot.firsts_card.trans_le hle),
      mem_pairs_of_routedBy (Snapshot.plan_routedBy limit)
        (Snapshot.firsts_card.trans_le (hsame ▸ hle)), hsame]

/-- The snapshot of the sample schedule in the other order. -/
def reorderedSnapshot : Snapshot := sampleReordered.val.snapshot (checked_of_validate rfl)

lemma holds_sampleReordered : (sampleClient sampleReordered).Holds reorderedSnapshot :=
  holds_of_installed (wellFormed_fresh sampleDependencies) rfl rfl

/-- Both orders have the same records. -/
lemma reorderedSnapshot_perm : extendedSnapshot.leaders.Perm reorderedSnapshot.leaders ∧
    extendedSnapshot.validatorEndpoints.Perm reorderedSnapshot.validatorEndpoints := by
  decide +kernel

lemma reorderedSnapshot_resolution : reorderedSnapshot.resolution 100
    = [⟨1, 1, 1⟩, ⟨1, 1, 1⟩, ⟨2, 0, 1⟩, ⟨2, 0, 0⟩, ⟨3, 1, 1⟩, ⟨3, 1, 1⟩] := by
  decide +kernel

lemma extendedSnapshot_reachable : extendedSnapshot.reachable 100 = {(0, 0), (0, 1), (1, 1)} := by
  decide +kernel

theorem routing_sound_complete_ordered_sample :
    let candidates := List.replicate 6 TopologyCandidate.zero
    let targets := List.replicate 3 (⟨0, 0, 0⟩ : RouteTarget)
    let plan (t : Ref CallerTopology) (limit : ℕ) :=
      (routeSlot (sampleClient t) 100 candidates limit targets).2
    resolveSlot (some (sampleClient sampleExtended)) 200 none 0 (some 0)
        = ⟨Status.topologyUnavailable, some 0, none⟩ ∧
      (plan sampleExtended 2).outUniqueTargetCount = some 3 ∧
      (plan sampleExtended 2).selected = [⟨0, 1, 1⟩, ⟨1, 0, 0⟩] ∧
      extendedSnapshot.RoutedBy 100 2 3
        ((plan sampleExtended 2).selected.map RouteTarget.candidate) ∧
      ∀ p, p ∈ (plan sampleExtended 3).selected.map RouteTarget.pair
        ↔ p ∈ (plan sampleReordered 3).selected.map RouteTarget.pair := by
  intro candidates targets plan
  obtain ⟨hroutes, hpermuted⟩ := routing_sound_complete_ordered
  have hcard : (extendedSnapshot.reachable 100).card = 3 := by
    rw [extendedSnapshot_reachable]
    rfl
  have hreachable : extendedSnapshot.reachable 100 ≠ ∅ := by
    intro h
    rw [h, Finset.card_empty] at hcard
    exact absurd hcard (by decide)
  obtain ⟨hleaders, hassociations⟩ := reorderedSnapshot_perm
  have hsame : extendedSnapshot.reachable 100 = reorderedSnapshot.reachable 100 :=
    Snapshot.reachable_perm hleaders hassociations
  have hroom : (extendedSnapshot.resolution 100).length ≤ candidates.length := by
    rw [extendedSnapshot_resolution]
    decide
  have hroom' : (reorderedSnapshot.resolution 100).length ≤ candidates.length := by
    rw [reorderedSnapshot_resolution]
    decide
  obtain ⟨hnobody, -⟩ := hroutes _ _ 200 holds_sampleExtended
  obtain ⟨-, hrouted⟩ := hroutes _ _ 100 holds_sampleExtended
  obtain ⟨-, -, -, unique, hunique, hrouting⟩ := hrouted hreachable 2 candidates targets (by decide)
    hroom (by rw [hcard]; decide)
  obtain rfl : unique = 3 := hrouting.unique_eq.trans hcard
  refine ⟨hnobody (by decide +kernel) none 0 0 (Or.inl rfl), hunique, by decide +kernel,
    hrouting, ?_⟩
  exact (hpermuted _ _ _ _ 100 3 candidates candidates targets targets holds_sampleExtended
    holds_sampleReordered hleaders hassociations hreachable (by decide) hroom hroom'
    (by rw [hcard]; decide) (by rw [← hsame, hcard]; decide)).2 hcard.le

end SolanaTpuClient
