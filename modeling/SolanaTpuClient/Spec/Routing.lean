import SolanaTpuClient.Spec.Snapshot

/-!
The routing of a slot, as a set of pairs in an order.

* `Snapshot.reachable`: the pairs of a validator that leads the slot and an endpoint it is
  associated with;
* `Snapshot.rank`: the place of a pair, the first leader record that makes its validator lead the
  slot and then the first association that is the pair;
* `Snapshot.sightings`: the candidates of a slot with the records they come from, which stand in
  increasing order;
* `Snapshot.rank_of_mem_firsts`: of the sightings of one pair the first is the one of its rank;
* `Snapshot.RoutedBy`: a list of targets is the routing of a slot up to a limit, and
  `Snapshot.plan_routedBy`: the plan of a slot is.
-/

namespace SolanaTpuClient

open FirstOccurrence

namespace Snapshot

variable (S : Snapshot) (slot : UInt64)

/-! ### The pairs of a slot -/

/-- The validator `v` leads the slot by the leader record `l`. -/
def LedBy (v : UInt32) (l : Leader) : Prop := l.validatorIndex = v ∧ l.Leads slot

/-- The association record `a` is the pair of the validator `v` and the endpoint `e`. -/
def IsPair (v e : UInt32) (a : ValidatorEndpoint) : Prop :=
  a.validatorIndex = v ∧ a.endpointIndex = e

instance (v : UInt32) : DecidablePred (LedBy slot v) :=
  fun _ => inferInstanceAs (Decidable (_ ∧ _))

instance (v e : UInt32) : DecidablePred (IsPair v e) :=
  fun _ => inferInstanceAs (Decidable (_ ∧ _))

/-- The pairs of a validator that leads the slot and an endpoint associated with it. -/
def reachable : Finset (UInt32 × UInt32) :=
  (S.validatorEndpoints.map fun a => (a.validatorIndex, a.endpointIndex)).toFinset.filter
    fun p => ∃ l ∈ S.leaders, LedBy slot p.1 l

/-- The smallest index of a leader record by which `v` leads the slot. -/
def firstLeader (v : UInt32) : ℕ := S.leaders.findIdx fun l => LedBy slot v l

/-- The smallest index of an association record that is the pair `p`. -/
def firstAssociation (p : UInt32 × UInt32) : ℕ :=
  S.validatorEndpoints.findIdx fun a => IsPair p.1 p.2 a

/-- The place of a pair in the lexicographic order of first leader and first association. -/
def rank (p : UInt32 × UInt32) : ℕ ×ₗ ℕ := toLex (S.firstLeader slot p.1, S.firstAssociation p)

/-- The targets are the routing of the slot up to a limit, out of `unique` pairs. -/
structure RoutedBy (limit unique : ℕ) (targets : List TopologyCandidate) : Prop where
  unique_eq : unique = (S.reachable slot).card
  length_eq : targets.length = min (S.reachable slot).card limit
  reached : ∀ c ∈ targets, c.target ∈ S.reachable slot
  distinct : (targets.map TopologyCandidate.target).Nodup
  leader : ∀ c ∈ targets, c.leaderIndex.toNat = S.firstLeader slot c.validatorIndex
  sorted : targets.Pairwise fun c d => S.rank slot c.target < S.rank slot d.target
  complete : ∀ c ∈ targets, ∀ p ∈ S.reachable slot, S.rank slot p < S.rank slot c.target →
    p ∈ targets.map TopologyCandidate.target

variable {S slot}

lemma mem_reachable {p : UInt32 × UInt32} :
    p ∈ S.reachable slot ↔
      (∃ l ∈ S.leaders, LedBy slot p.1 l) ∧ ∃ a ∈ S.validatorEndpoints, IsPair p.1 p.2 a := by
  rw [reachable, Finset.mem_filter, List.mem_toFinset, List.mem_map, and_comm]
  refine and_congr Iff.rfl (exists_congr fun a => and_congr Iff.rfl ?_)
  exact Prod.ext_iff

/-- The pairs do not depend on the order of the records. -/
lemma reachable_perm {S' : Snapshot} (hl : S.leaders.Perm S'.leaders)
    (ha : S.validatorEndpoints.Perm S'.validatorEndpoints) :
    S.reachable slot = S'.reachable slot := by
  ext p
  rw [mem_reachable, mem_reachable]
  exact and_congr (exists_congr fun l => and_congr hl.mem_iff Iff.rfl)
    (exists_congr fun a => and_congr ha.mem_iff Iff.rfl)

/-! ### Sightings -/

variable (S slot) in
/-- The candidates of the slot, each with the index of its leader record and of its association
record. -/
def sightings : List ((ℕ ×ₗ ℕ) × TopologyCandidate) :=
  S.leaders.zipIdx.flatMap fun p =>
    if p.1.Leads slot then
      (S.validatorEndpoints.zipIdx.filter fun q => q.1.validatorIndex = p.1.validatorIndex).map
        fun q => (toLex (p.2, q.2),
          ⟨UInt32.ofNat p.2, p.1.validatorIndex, q.1.endpointIndex⟩)
    else []

lemma sightings_map_snd : (S.sightings slot).map Prod.snd = S.resolution slot := by
  rw [sightings, List.map_flatMap, resolution]
  refine congrArg (fun f => S.leaders.zipIdx.flatMap f) (funext fun p => ?_)
  split_ifs with hleads
  · have hfirst := congrArg (List.filter fun a => decide (a.validatorIndex = p.1.validatorIndex))
      (List.zipIdx_map_fst 0 S.validatorEndpoints)
    rw [candidatesOf, ← hfirst, List.filter_map, List.map_map, List.map_map]
    rfl
  · rfl

lemma mem_sightings {i j : ℕ} {c : TopologyCandidate} :
    (toLex (i, j), c) ∈ S.sightings slot ↔ ∃ l a, S.leaders[i]? = some l ∧ l.Leads slot ∧
      S.validatorEndpoints[j]? = some a ∧ a.validatorIndex = l.validatorIndex ∧
      c = ⟨UInt32.ofNat i, l.validatorIndex, a.endpointIndex⟩ := by
  rw [sightings, List.mem_flatMap]
  constructor
  · rintro ⟨⟨l, i'⟩, hl, hmem⟩
    by_cases hleads : l.Leads slot
    · rw [if_pos hleads] at hmem
      obtain ⟨⟨a, j'⟩, ha, heq⟩ := List.mem_map.mp hmem
      obtain ⟨ha, hvalidator⟩ := List.mem_filter.mp ha
      obtain ⟨hplace, rfl⟩ := Prod.ext_iff.mp heq
      obtain ⟨rfl, rfl⟩ := Prod.ext_iff.mp (toLex.injective hplace)
      exact ⟨l, a, List.mem_zipIdx_iff_getElem?.mp hl, hleads, List.mem_zipIdx_iff_getElem?.mp ha,
        by simpa using hvalidator, rfl⟩
    · rw [if_neg hleads] at hmem
      exact absurd hmem (by simp)
  · rintro ⟨l, a, hl, hleads, ha, hvalidator, rfl⟩
    refine ⟨(l, i), List.mem_zipIdx_iff_getElem?.mpr hl, ?_⟩
    rw [if_pos hleads]
    refine List.mem_map.mpr ⟨(a, j), List.mem_filter.mpr ⟨?_, by simpa using hvalidator⟩, rfl⟩
    exact List.mem_zipIdx_iff_getElem?.mpr ha

lemma zipIdx_sorted {α : Type*} (l : List α) : l.zipIdx.Pairwise fun p q => p.2 < q.2 := by
  have h : (l.zipIdx.map Prod.snd).Pairwise (· < ·) := by
    rw [List.zipIdx_map_snd]
    exact List.pairwise_lt_range'
  exact List.pairwise_map.mp h

/-- The sightings stand in increasing order. -/
lemma sightings_sorted : (S.sightings slot).Pairwise fun x y => x.1 < y.1 := by
  rw [sightings, List.pairwise_flatMap]
  constructor
  · intro p hp
    split_ifs
    · refine List.pairwise_map.mpr (((zipIdx_sorted _).filter _).imp fun hlt => ?_)
      exact Prod.Lex.toLex_lt_toLex.mpr (Or.inr ⟨rfl, hlt⟩)
    · exact List.Pairwise.nil
  · refine (zipIdx_sorted S.leaders).imp fun {p q} hlt x hx y hy => ?_
    have hplace : ∀ {p : Leader × ℕ} {x : (ℕ ×ₗ ℕ) × TopologyCandidate},
        (x ∈ if p.1.Leads slot then
          (S.validatorEndpoints.zipIdx.filter fun q => q.1.validatorIndex = p.1.validatorIndex).map
            fun q => (toLex (p.2, q.2), ⟨UInt32.ofNat p.2, p.1.validatorIndex, q.1.endpointIndex⟩)
          else []) → (ofLex x.1).1 = p.2 := by
      intro p x hx
      split_ifs at hx
      · obtain ⟨q, -, rfl⟩ := List.mem_map.mp hx
        rfl
      · exact absurd hx (by simp)
    refine Prod.Lex.lt_iff.mpr (Or.inl ?_)
    rw [hplace hx, hplace hy]
    exact hlt

/-! ### First sightings -/

variable (S slot) in
/-- The first sighting of every pair. -/
def firsts : List ((ℕ ×ₗ ℕ) × TopologyCandidate) :=
  firstsBy (fun x => x.2.target) (S.sightings slot)

lemma firsts_map_snd :
    (S.firsts slot).map Prod.snd = firstsBy TopologyCandidate.target (S.resolution slot) := by
  rw [← sightings_map_snd, firstsBy_map]
  rfl

lemma firsts_sorted : (S.firsts slot).Pairwise fun x y => x.1 < y.1 :=
  sightings_sorted.sublist (firstsBy_sublist _ _)

/-- A pair is sighted at every leader record of its validator and every association record of it,
first at the first of both. -/
lemma rank_of_mem_firsts {x : (ℕ ×ₗ ℕ) × TopologyCandidate} (hx : x ∈ S.firsts slot) :
    x.1 = S.rank slot x.2.target ∧ x.2.leaderIndex.toNat = S.firstLeader slot x.2.validatorIndex := by
  obtain ⟨place, c⟩ := x
  obtain ⟨⟨i, j⟩, rfl⟩ := toLex.surjective place
  obtain ⟨l, a, hl, hleads, ha, hvalidator, rfl⟩ := mem_sightings.mp (mem_of_mem_firstsBy _ hx)
  -- the sighting at the first leader and the first association
  obtain ⟨hi, l₀, hl₀, hvalidator₀, hleads₀⟩ :=
    findIdx_spec (p := LedBy slot l.validatorIndex) hl ⟨rfl, hleads⟩
  obtain ⟨hj, a₀, ha₀, hpair₀, hendpoint₀⟩ :=
    findIdx_spec (p := IsPair l.validatorIndex a.endpointIndex) ha ⟨hvalidator, rfl⟩
  have hsighting := mem_sightings.mpr
    ⟨l₀, a₀, hl₀, hleads₀, ha₀, hpair₀.trans hvalidator₀.symm, rfl⟩
  have hsame : (l₀.validatorIndex, a₀.endpointIndex) = (l.validatorIndex, a.endpointIndex) := by
    rw [hvalidator₀, hendpoint₀]
  have hplace : (i, j) = (S.firstLeader slot l.validatorIndex,
      S.firstAssociation (l.validatorIndex, a.endpointIndex)) := by
    rcases firstsBy_least _ sightings_sorted hx hsighting hsame with heq | hlt
    · exact (toLex.injective (congrArg Prod.fst heq)).symm
    · rcases Prod.Lex.toLex_lt_toLex.mp hlt with hlt | ⟨-, hlt⟩
      · exact absurd hlt (not_lt.mpr hi)
      · exact absurd hlt (not_lt.mpr hj)
  have hlt : i < 2 ^ 32 := (List.getElem?_eq_some_iff.mp hl).1.trans S.leaders_length
  refine ⟨congrArg toLex hplace, ?_⟩
  rw [UInt32.toNat_ofNat', Nat.mod_eq_of_lt hlt]
  exact congrArg Prod.fst hplace

/-! ### The plan is the routing -/

lemma mem_map_resolution {p : UInt32 × UInt32} :
    p ∈ (S.resolution slot).map TopologyCandidate.target ↔ p ∈ S.reachable slot := by
  rw [List.mem_map, mem_reachable]
  constructor
  · rintro ⟨c, hc, rfl⟩
    obtain ⟨i, l, hl, hleads, hcand⟩ := mem_resolution.mp hc
    obtain ⟨a, ha, hvalidator, rfl⟩ := mem_candidatesOf.mp hcand
    exact ⟨⟨l, List.mem_of_getElem? hl, rfl, hleads⟩, a, ha, hvalidator, rfl⟩
  · rintro ⟨⟨l, hl, hvalidator, hleads⟩, a, ha, hpair, hendpoint⟩
    obtain ⟨i, hget⟩ := List.mem_iff_getElem?.mp hl
    refine ⟨_, mem_resolution.mpr ⟨i, l, hget, hleads, mem_candidatesOf.mpr
      ⟨a, ha, hpair.trans hvalidator.symm, rfl⟩⟩, ?_⟩
    exact Prod.ext hvalidator hendpoint

/-- The pairs of a slot, each once, in the order of their first sightings. -/
lemma firsts_card :
    (firstsBy TopologyCandidate.target (S.resolution slot)).length = (S.reachable slot).card := by
  have hset : ((firstsBy TopologyCandidate.target (S.resolution slot)).map
      TopologyCandidate.target).toFinset = S.reachable slot := by
    ext p
    rw [List.mem_toFinset, mem_map_firstsBy, mem_map_resolution]
  rw [← hset, List.toFinset_card_of_nodup (nodup_map_firstsBy _ _), List.length_map]

/-- There are candidates exactly when a pair is reachable. -/
lemma resolution_eq_nil : S.resolution slot = [] ↔ S.reachable slot = ∅ := by
  rw [Finset.eq_empty_iff_forall_notMem]
  constructor
  · intro h p hp
    rw [← mem_map_resolution, h] at hp
    exact absurd hp (by simp)
  · intro h
    rw [List.eq_nil_iff_forall_not_mem]
    exact fun c hc => h c.target (mem_map_resolution.mp (List.mem_map_of_mem hc))

/-- **The plan of a slot is its routing.** -/
theorem plan_routedBy (limit : ℕ) :
    S.RoutedBy slot limit (firstsBy TopologyCandidate.target (S.resolution slot)).length
      (S.plan slot limit) := by
  have hplan : S.plan slot limit = ((S.firsts slot).take limit).map Prod.snd := by
    rw [plan, ← firsts_map_snd, List.map_take]
  have hfirst : ∀ c ∈ S.plan slot limit, ∃ x ∈ (S.firsts slot).take limit, x.2 = c := by
    intro c hc
    rw [hplan] at hc
    exact List.mem_map.mp hc
  constructor
  · exact firsts_card
  · rw [plan, List.length_take, firsts_card, min_comm]
  · exact fun c hc => mem_map_resolution.mp (List.mem_map_of_mem (mem_resolution_of_mem_plan hc))
  · exact (nodup_map_firstsBy _ _).sublist ((List.take_sublist limit _).map _)
  · intro c hc
    obtain ⟨x, hx, rfl⟩ := hfirst c hc
    exact (rank_of_mem_firsts (List.mem_of_mem_take hx)).2
  · rw [hplan, List.pairwise_map]
    refine (firsts_sorted.sublist (List.take_sublist limit _)).imp_of_mem fun hx hy hlt => ?_
    rwa [← (rank_of_mem_firsts (List.mem_of_mem_take hx)).1,
      ← (rank_of_mem_firsts (List.mem_of_mem_take hy)).1]
  · intro c hc p hp hlt
    obtain ⟨x, hx, rfl⟩ := hfirst c hc
    have hp' : p ∈ ((S.firsts slot).map Prod.snd).map TopologyCandidate.target := by
      rwa [firsts_map_snd, mem_map_firstsBy, mem_map_resolution]
    rw [List.map_map] at hp'
    obtain ⟨y, hy, rfl⟩ := List.mem_map.mp hp'
    have hyx : y.1 < x.1 := by
      rwa [(rank_of_mem_firsts hy).1, (rank_of_mem_firsts (List.mem_of_mem_take hx)).1]
    have hmem := mem_take_of_lt firsts_sorted (fun h => not_lt.mpr h.le) hx hy hyx
    rw [hplan, List.map_map]
    exact List.mem_map_of_mem hmem

end Snapshot

end SolanaTpuClient
