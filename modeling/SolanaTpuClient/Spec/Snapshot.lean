import SolanaTpuClient.Lib.FirstOccurrence
import SolanaTpuClient.Delivery.Topology

/-!
What a topology says: a snapshot of validators, endpoints, their associations and leader ranges,
and the routing it determines.

* `Snapshot`: the records as lists, with the index and length bounds as fields, so that every
  reference of a snapshot can be followed;
* `Snapshot.resolution`, `Snapshot.plan`, `Snapshot.targets`: who leads a slot and where to reach
  them, the distinct targets up to a limit, and the targets with identity and endpoint filled in;
* `OwnedTopology.Represents`: the memory of an owned topology holds a snapshot;
* `OwnedTopology.CopyOf.represents`: what a build copies is the snapshot of the caller topology.
-/

namespace SolanaTpuClient

open ByteMemory FirstOccurrence

/-! ### Snapshots -/

/-- The content of an accepted topology. -/
structure Snapshot where
  generation : UInt64
  currentSlot : UInt64
  validators : List Validator
  endpoints : List Endpoint
  validatorEndpoints : List ValidatorEndpoint
  leaders : List Leader
  validators_length : validators.length < 2 ^ 32
  endpoints_length : endpoints.length < 2 ^ 32
  validatorEndpoints_length : validatorEndpoints.length < 2 ^ 32
  leaders_length : leaders.length < 2 ^ 32
  association_lt : ∀ a ∈ validatorEndpoints,
    a.validatorIndex.toNat < validators.length ∧ a.endpointIndex.toNat < endpoints.length
  leader_lt : ∀ l ∈ leaders, l.validatorIndex.toNat < validators.length
  leader_le : ∀ l ∈ leaders, l.firstSlot ≤ l.lastSlot

/-- A leader range contains a slot. -/
def Leader.Leads (l : Leader) (slot : UInt64) : Prop := l.firstSlot ≤ slot ∧ slot ≤ l.lastSlot

instance (l : Leader) (slot : UInt64) : Decidable (l.Leads slot) :=
  inferInstanceAs (Decidable (_ ∧ _))

/-- What two candidates share when they stand for one target. -/
def TopologyCandidate.target (c : TopologyCandidate) : UInt32 × UInt32 :=
  (c.validatorIndex, c.endpointIndex)

namespace Snapshot

variable (S : Snapshot) (slot : UInt64)

/-- The candidates of one leader: one for each association of its validator. -/
def candidatesOf (leader : Leader) (leaderIndex : ℕ) : List TopologyCandidate :=
  (S.validatorEndpoints.filter fun a => a.validatorIndex = leader.validatorIndex).map fun a =>
    ⟨UInt32.ofNat leaderIndex, leader.validatorIndex, a.endpointIndex⟩

/-- The candidates of a slot, in the order of the leaders and then of the associations. -/
def resolution : List TopologyCandidate :=
  S.leaders.zipIdx.flatMap fun p => if p.1.Leads slot then S.candidatesOf p.1 p.2 else []

/-- Someone leads the slot and can be reached. -/
def Routable : Prop :=
  ∃ l ∈ S.leaders, l.Leads slot ∧ ∃ a ∈ S.validatorEndpoints, a.validatorIndex = l.validatorIndex

instance : Decidable (S.Routable slot) :=
  inferInstanceAs (Decidable (∃ l ∈ S.leaders, l.Leads slot ∧
    ∃ a ∈ S.validatorEndpoints, a.validatorIndex = l.validatorIndex))

/-- The first `limit` distinct targets of a slot. -/
def plan (limit : ℕ) : List TopologyCandidate :=
  (firstsBy TopologyCandidate.target (S.resolution slot)).take limit

/-- A candidate with its identity and its endpoint looked up. -/
def target? (c : TopologyCandidate) : Option OwnedRequestTarget := do
  let validator ← S.validators[c.validatorIndex.toNat]?
  let endpoint ← S.endpoints[c.endpointIndex.toNat]?
  pure ⟨c.leaderIndex, c.validatorIndex, c.endpointIndex, validator.identity, endpoint⟩

/-- The targets of a request routed by the snapshot. -/
def targets (limit : ℕ) : List OwnedRequestTarget := (S.plan slot limit).filterMap S.target?

variable {S slot}

lemma mem_candidatesOf {leader : Leader} {i : ℕ} {c : TopologyCandidate} :
    c ∈ S.candidatesOf leader i ↔ ∃ a ∈ S.validatorEndpoints,
      a.validatorIndex = leader.validatorIndex ∧
        c = ⟨UInt32.ofNat i, leader.validatorIndex, a.endpointIndex⟩ := by
  simp only [candidatesOf, List.mem_map, List.mem_filter, decide_eq_true_eq]
  constructor
  · rintro ⟨a, ⟨ha, heq⟩, rfl⟩
    exact ⟨a, ha, heq, rfl⟩
  · rintro ⟨a, ha, heq, rfl⟩
    exact ⟨a, ⟨ha, heq⟩, rfl⟩

lemma mem_resolution {c : TopologyCandidate} :
    c ∈ S.resolution slot ↔ ∃ i l, S.leaders[i]? = some l ∧ l.Leads slot ∧
      c ∈ S.candidatesOf l i := by
  rw [resolution, List.mem_flatMap]
  constructor
  · rintro ⟨⟨l, i⟩, hmem, hc⟩
    have hget : S.leaders[i]? = some l := by simpa using List.mem_zipIdx_iff_getElem?.mp hmem
    by_cases hleads : l.Leads slot
    · exact ⟨i, l, hget, hleads, by simpa [hleads] using hc⟩
    · simp [hleads] at hc
  · rintro ⟨i, l, hget, hleads, hc⟩
    exact ⟨(l, i), List.mem_zipIdx_iff_getElem?.mpr (by simpa using hget), by simpa [hleads] using hc⟩

/-- There are candidates exactly when someone leads the slot and can be reached. -/
lemma resolution_ne_nil : S.resolution slot ≠ [] ↔ S.Routable slot := by
  constructor
  · intro hne
    obtain ⟨c, hc⟩ := List.exists_mem_of_ne_nil _ hne
    obtain ⟨i, l, hget, hleads, hcand⟩ := mem_resolution.mp hc
    obtain ⟨a, ha, heq, -⟩ := mem_candidatesOf.mp hcand
    exact ⟨l, List.mem_of_getElem? hget, hleads, a, ha, heq⟩
  · rintro ⟨l, hl, hleads, a, ha, heq⟩
    obtain ⟨i, hget⟩ := List.mem_iff_getElem?.mp hl
    exact List.ne_nil_of_mem
      (mem_resolution.mpr ⟨i, l, hget, hleads, mem_candidatesOf.mpr ⟨a, ha, heq, rfl⟩⟩)

/-- The candidates of a snapshot can be counted in a word. -/
lemma resolution_length_lt : (S.resolution slot).length < sizeMax wordBits := by
  have hone : ∀ p : Leader × ℕ,
      (if p.1.Leads slot then S.candidatesOf p.1 p.2 else []).length
        ≤ S.validatorEndpoints.length := by
    intro p
    split_ifs
    · rw [candidatesOf, List.length_map]
      exact List.length_filter_le _ _
    · exact Nat.zero_le _
  have hall : (S.resolution slot).length ≤ S.leaders.length * S.validatorEndpoints.length := by
    rw [resolution, List.length_flatMap]
    refine (List.sum_le_card_nsmul _ S.validatorEndpoints.length ?_).trans_eq (by simp)
    intro n hn
    obtain ⟨p, -, rfl⟩ := List.mem_map.mp hn
    exact hone p
  have hl := S.leaders_length
  have ha := S.validatorEndpoints_length
  calc (S.resolution slot).length
      ≤ S.leaders.length * S.validatorEndpoints.length := hall
    _ ≤ (2 ^ 32 - 1) * (2 ^ 32 - 1) := Nat.mul_le_mul (by omega) (by omega)
    _ < sizeMax wordBits := by norm_num [sizeMax, wordBits]

/-- Every reference of a candidate is within the bounds of the snapshot. -/
lemma lt_of_mem_resolution {c : TopologyCandidate} (h : c ∈ S.resolution slot) :
    c.leaderIndex.toNat < S.leaders.length ∧ c.validatorIndex.toNat < S.validators.length ∧
      c.endpointIndex.toNat < S.endpoints.length := by
  obtain ⟨i, l, hget, -, hcand⟩ := mem_resolution.mp h
  obtain ⟨a, ha, -, rfl⟩ := mem_candidatesOf.mp hcand
  have hi : i < S.leaders.length := (List.getElem?_eq_some_iff.mp hget).1
  refine ⟨?_, S.leader_lt l (List.mem_of_getElem? hget), (S.association_lt a ha).2⟩
  rwa [UInt32.toNat_ofNat', Nat.mod_eq_of_lt (hi.trans S.leaders_length)]

lemma target?_of_lt {c : TopologyCandidate} (hv : c.validatorIndex.toNat < S.validators.length)
    (he : c.endpointIndex.toNat < S.endpoints.length) :
    S.target? c = some ⟨c.leaderIndex, c.validatorIndex, c.endpointIndex,
      S.validators[c.validatorIndex.toNat].identity, S.endpoints[c.endpointIndex.toNat]⟩ := by
  simp [target?, hv, he]

lemma mem_resolution_of_mem_plan {limit : ℕ} {c : TopologyCandidate} (h : c ∈ S.plan slot limit) :
    c ∈ S.resolution slot :=
  mem_of_mem_firstsBy _ (List.mem_of_mem_take h)

variable (S slot) in
/-- Every target of a plan can be looked up. -/
lemma targets_map_some (limit : ℕ) :
    (S.targets slot limit).map some = (S.plan slot limit).map S.target? := by
  have h : ∀ c ∈ S.plan slot limit, (S.target? c).isSome := by
    intro c hc
    obtain ⟨-, hv, he⟩ := lt_of_mem_resolution (mem_resolution_of_mem_plan hc)
    rw [target?_of_lt hv he]
    rfl
  rw [targets]
  generalize S.plan slot limit = l at h
  induction l with
  | nil => rfl
  | cons c l ih =>
      obtain ⟨t, ht⟩ := Option.isSome_iff_exists.mp (h c (by simp))
      rw [List.filterMap_cons_some ht, List.map_cons, List.map_cons, ht,
        ih fun d hd => h d (by simp [hd])]

variable (S slot) in
lemma targets_length (limit : ℕ) : (S.targets slot limit).length = (S.plan slot limit).length := by
  simpa using congrArg List.length (S.targets_map_some slot limit)

/-- A routable slot has a target within every positive limit. -/
lemma plan_ne_nil {limit : ℕ} (hlimit : limit ≠ 0) (h : S.Routable slot) :
    S.plan slot limit ≠ [] := by
  have hfirsts := firstsBy_ne_nil TopologyCandidate.target (resolution_ne_nil.mpr h)
  rw [plan, Ne, List.take_eq_nil_iff]
  exact not_or.mpr ⟨hlimit, hfirsts⟩

end Snapshot

/-! ### The snapshot of a caller topology -/

namespace CallerTopology

variable (t : CallerTopology)

/-- The snapshot an accepted caller topology describes, the declared sizes of its records being
the native ones. -/
def snapshot (h : t.Checked) : Snapshot where
  generation := t.view.generation
  currentSlot := t.view.currentSlot
  validators := (List.range t.view.validatorCount.toNat).map fun i =>
    { t.validator i with structSize := UInt32.ofNat Validator.size }
  endpoints := (List.range t.view.endpointCount.toNat).map fun i =>
    { t.endpoint i with structSize := UInt32.ofNat Endpoint.size }
  validatorEndpoints := (List.range t.view.validatorEndpointCount.toNat).map fun i =>
    { t.validatorEndpoint i with structSize := UInt32.ofNat ValidatorEndpoint.size }
  leaders := (List.range t.view.leaderCount.toNat).map fun i =>
    { t.leader i with structSize := UInt32.ofNat Leader.size }
  validators_length := by simpa using t.view.validatorCount.toNat_lt
  endpoints_length := by simpa using t.view.endpointCount.toNat_lt
  validatorEndpoints_length := by simpa using t.view.validatorEndpointCount.toNat_lt
  leaders_length := by simpa using t.view.leaderCount.toNat_lt
  association_lt := by
    intro a ha
    obtain ⟨i, hi, rfl⟩ := List.mem_map.mp ha
    have hv := validateAssociation_eq_ok.mp (h.validatorEndpoints i (List.mem_range.mp hi))
    simpa [UInt32.lt_iff_toNat_lt] using hv.2.2
  leader_lt := by
    intro l hl
    obtain ⟨i, hi, rfl⟩ := List.mem_map.mp hl
    have hv := validateLeader_eq_ok.mp (h.leaders i (List.mem_range.mp hi))
    simpa [UInt32.lt_iff_toNat_lt] using hv.2.2.1
  leader_le := by
    intro l hl
    obtain ⟨i, hi, rfl⟩ := List.mem_map.mp hl
    exact (validateLeader_eq_ok.mp (h.leaders i (List.mem_range.mp hi))).2.2.2

end CallerTopology

/-! ### Owned topologies hold snapshots -/

/-- The memory of an owned topology holds the snapshot `S`. -/
structure OwnedTopology.Represents (o : OwnedTopology) (S : Snapshot) : Prop where
  generation : o.view.generation = S.generation
  currentSlot : o.view.currentSlot = S.currentSlot
  validators : (List.range o.view.validatorCount.toNat).map o.validator = S.validators
  endpoints : (List.range o.view.endpointCount.toNat).map o.endpoint = S.endpoints
  validatorEndpoints :
    (List.range o.view.validatorEndpointCount.toNat).map o.validatorEndpoint = S.validatorEndpoints
  leaders : (List.range o.view.leaderCount.toNat).map o.leader = S.leaders

/-- A topology represents one snapshot only. -/
lemma OwnedTopology.Represents.unique {o : OwnedTopology} {S S' : Snapshot} (h : o.Represents S)
    (h' : o.Represents S') : S = S' := by
  have h1 := h.generation.symm.trans h'.generation
  have h2 := h.currentSlot.symm.trans h'.currentSlot
  have h3 := h.validators.symm.trans h'.validators
  have h4 := h.endpoints.symm.trans h'.endpoints
  have h5 := h.validatorEndpoints.symm.trans h'.validatorEndpoints
  have h6 := h.leaders.symm.trans h'.leaders
  cases S
  cases S'
  simp only at h1 h2 h3 h4 h5 h6
  subst h1 h2 h3 h4 h5 h6
  rfl

namespace OwnedTopology

variable {o : OwnedTopology} {t : CallerTopology}

lemma CopyOf.validator (h : o.CopyOf t) {i : ℕ} (hi : i < t.view.validatorCount.toNat) :
    o.validator i = { t.validator i with structSize := UInt32.ofNat Validator.size } := by
  rw [OwnedTopology.validator, Validator.decode_of_tail (h.validators.tail (by decide) hi),
    h.validators.structSize (by decide) (by decide) hi]
  rfl

lemma CopyOf.endpoint (h : o.CopyOf t) {i : ℕ} (hi : i < t.view.endpointCount.toNat) :
    o.endpoint i = { t.endpoint i with structSize := UInt32.ofNat Endpoint.size } := by
  rw [OwnedTopology.endpoint, Endpoint.decode_of_tail (h.endpoints.tail (by decide) hi),
    h.endpoints.structSize (by decide) (by decide) hi]
  rfl

lemma CopyOf.validatorEndpoint (h : o.CopyOf t) {i : ℕ}
    (hi : i < t.view.validatorEndpointCount.toNat) :
    o.validatorEndpoint i
      = { t.validatorEndpoint i with structSize := UInt32.ofNat ValidatorEndpoint.size } := by
  rw [OwnedTopology.validatorEndpoint,
    ValidatorEndpoint.decode_of_tail (h.validatorEndpoints.tail (by decide) hi),
    h.validatorEndpoints.structSize (by decide) (by decide) hi]
  rfl

lemma CopyOf.leader (h : o.CopyOf t) {i : ℕ} (hi : i < t.view.leaderCount.toNat) :
    o.leader i = { t.leader i with structSize := UInt32.ofNat Leader.size } := by
  rw [OwnedTopology.leader, Leader.decode_of_tail (h.leaders.tail (by decide) hi),
    h.leaders.structSize (by decide) (by decide) hi]
  rfl

/-- **The copy is faithful**: an owned topology copied from an accepted caller topology holds the
snapshot of that topology. -/
theorem CopyOf.represents (h : o.CopyOf t) (hc : t.Checked) : o.Represents (t.snapshot hc) where
  generation := by rw [h.view]; rfl
  currentSlot := by rw [h.view]; rfl
  validators := by
    rw [h.view]
    exact List.map_congr_left fun i hi => h.validator (List.mem_range.mp hi)
  endpoints := by
    rw [h.view]
    exact List.map_congr_left fun i hi => h.endpoint (List.mem_range.mp hi)
  validatorEndpoints := by
    rw [h.view]
    exact List.map_congr_left fun i hi => h.validatorEndpoint (List.mem_range.mp hi)
  leaders := by
    rw [h.view]
    exact List.map_congr_left fun i hi => h.leader (List.mem_range.mp hi)

/-! ### Reading a represented snapshot -/

variable {S : Snapshot}

lemma Represents.leaderCount (h : o.Represents S) :
    o.view.leaderCount.toNat = S.leaders.length := by
  rw [← h.leaders, List.length_map, List.length_range]

lemma Represents.validatorCount (h : o.Represents S) :
    o.view.validatorCount.toNat = S.validators.length := by
  rw [← h.validators, List.length_map, List.length_range]

lemma Represents.endpointCount (h : o.Represents S) :
    o.view.endpointCount.toNat = S.endpoints.length := by
  rw [← h.endpoints, List.length_map, List.length_range]

lemma Represents.validator (h : o.Represents S) {i : ℕ} (hi : i < S.validators.length) :
    o.validator i = S.validators[i] := by
  simp only [← h.validators, List.getElem_map, List.getElem_range]

lemma Represents.endpoint (h : o.Represents S) {i : ℕ} (hi : i < S.endpoints.length) :
    o.endpoint i = S.endpoints[i] := by
  simp only [← h.endpoints, List.getElem_map, List.getElem_range]

end OwnedTopology

end SolanaTpuClient
