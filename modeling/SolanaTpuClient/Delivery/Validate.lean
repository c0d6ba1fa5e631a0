import SolanaTpuClient.Lib.StridedArray
import SolanaTpuClient.Delivery.Abi

/-!
`solana_delivery_topology_validate` of `src/solana_delivery.c` and the checks it is made of.

A validation either returns or stops with the first status that is not `OK`. The element checks
are functions of one decoded record; `topologyValidate` runs them over the four strided arrays
in turn. `topologyValidate_eq_ok` reads an accepted topology back as conditions on its header,
its layouts and its records.
-/

namespace SolanaTpuClient

open ByteMemory StridedArray

/-- The width of `size_t` and `uintptr_t` of the LP64 ABI. -/
def wordBits : ℕ := 64

/-! ### Layout and element checks -/

/-- `bytes_are_zero` -/
def bytesAreZero (bytes : List UInt8) : Bool := bytes.all (· == 0)

/-- `array_layout_is_valid` where `size_t` and `uintptr_t` have `W` bits. -/
def arrayLayoutIsValid (W : ℕ) (base : Addr) (count stride : UInt32)
    (minimumElementSize elementAlignment : ℕ) : Bool :=
  if count = 0 then true
  else if base = 0 ∨ stride.toNat < minimumElementSize ∨ ¬ pointerIsAligned base elementAlignment ∨
      stride.toNat % elementAlignment ≠ 0 then false
  else if count.toNat - 1 > (sizeMax W - minimumElementSize) / stride.toNat then false
  else true

/-- The `size_t` product `index * stride` where `size_t` has `W` bits. -/
def arrayOffset (W index : ℕ) (stride : UInt32) : ℕ := (index * stride.toNat) % 2 ^ W

/-- `array_element`: the bytes from the element `index` of a strided array on. -/
def arrayElement (W : ℕ) (base : Bytes) (index : ℕ) (stride : UInt32) : Bytes :=
  shift base (arrayOffset W index stride)

/-- `element_size_is_valid` -/
def elementSizeIsValid (structSize stride : UInt32) (minimumSize : ℕ) : Bool :=
  minimumSize ≤ structSize.toNat && structSize ≤ stride

/-- `validate_validator`; the required prefix ends with the record. -/
def validateValidator (validator : Validator) (stride : UInt32) : Status :=
  if ¬ elementSizeIsValid validator.structSize stride Validator.size ∨ validator.reserved0 ≠ 0 ∨
      ¬ bytesAreZero validator.reserved1.toList then
    Status.invalidArgument
  else Status.ok

/-- `SOLANA_DELIVERY_ADDRESS_UNSPEC` -/
def addressUnspec : UInt8 := 0
/-- `SOLANA_DELIVERY_ADDRESS_IPV4` -/
def addressIpv4 : UInt8 := 4
/-- `SOLANA_DELIVERY_ADDRESS_IPV6` -/
def addressIpv6 : UInt8 := 6
/-- `SOLANA_DELIVERY_TRANSPORT_UNSPEC` -/
def transportUnspec : UInt8 := 0
/-- `SOLANA_DELIVERY_TRANSPORT_QUIC` -/
def transportQuic : UInt8 := 1
/-- `SOLANA_DELIVERY_ENDPOINT_ROLE_UNSPEC` -/
def endpointRoleUnspec : UInt8 := 0
/-- `SOLANA_DELIVERY_ENDPOINT_ROLE_TPU` -/
def endpointRoleTpu : UInt8 := 1

/-- `validate_endpoint` -/
def validateEndpoint (endpoint : Endpoint) (stride : UInt32) : Status :=
  if ¬ elementSizeIsValid endpoint.structSize stride Endpoint.size ∨ endpoint.reserved0 ≠ 0 ∨
      endpoint.reserved1 ≠ 0 ∨ ¬ bytesAreZero endpoint.reserved2.toList ∨ endpoint.port = 0 then
    Status.invalidArgument
  else if endpoint.addressFamily = addressUnspec then Status.invalidArgument
  else if endpoint.addressFamily ≠ addressIpv4 ∧ endpoint.addressFamily ≠ addressIpv6 then
    Status.unsupported
  else if endpoint.transport = transportUnspec then Status.invalidArgument
  else if endpoint.transport ≠ transportQuic then Status.unsupported
  else if endpoint.role = endpointRoleUnspec then Status.invalidArgument
  else if endpoint.role ≠ endpointRoleTpu then Status.unsupported
  else if endpoint.addressFamily = addressIpv4 ∧ ¬ bytesAreZero (endpoint.address.toList.drop 4) then
    Status.invalidArgument
  else Status.ok

/-- `validate_association` -/
def validateAssociation (association : ValidatorEndpoint) (stride validatorCount endpointCount : UInt32) :
    Status :=
  if ¬ elementSizeIsValid association.structSize stride ValidatorEndpoint.size ∨
      association.reserved0 ≠ 0 ∨ association.validatorIndex ≥ validatorCount ∨
      association.endpointIndex ≥ endpointCount then
    Status.invalidArgument
  else Status.ok

/-- `validate_leader` -/
def validateLeader (leader : Leader) (stride validatorCount : UInt32) : Status :=
  if ¬ elementSizeIsValid leader.structSize stride Leader.size ∨ leader.reserved0 ≠ 0 ∨
      leader.validatorIndex ≥ validatorCount ∨ leader.firstSlot > leader.lastSlot then
    Status.invalidArgument
  else Status.ok

/-! ### The records of a caller topology -/

namespace CallerTopology

variable (t : CallerTopology)

/-- The `i`-th validator record. -/
def validator (i : ℕ) : Validator :=
  Validator.decode (arrayElement wordBits t.memory.validators i t.view.validatorStride)

/-- The `i`-th endpoint record. -/
def endpoint (i : ℕ) : Endpoint :=
  Endpoint.decode (arrayElement wordBits t.memory.endpoints i t.view.endpointStride)

/-- The `i`-th association record. -/
def validatorEndpoint (i : ℕ) : ValidatorEndpoint :=
  ValidatorEndpoint.decode
    (arrayElement wordBits t.memory.validatorEndpoints i t.view.validatorEndpointStride)

/-- The `i`-th leader record. -/
def leader (i : ℕ) : Leader :=
  Leader.decode (arrayElement wordBits t.memory.leaders i t.view.leaderStride)

end CallerTopology

/-! ### The validation -/

/-- One of the four element loops: the first status that is not `OK` ends the validation. -/
def validateElements (count : UInt32) (validate : ℕ → Status) : Except Status Unit :=
  forM (List.range count.toNat) fun i => Status.check (validate i)

/-- The four layout checks of `solana_delivery_topology_validate`. -/
def topologyLayoutsAreValid (view : Topology) : Bool :=
  arrayLayoutIsValid wordBits view.validators view.validatorCount view.validatorStride
      Validator.size 4 &&
    arrayLayoutIsValid wordBits view.endpoints view.endpointCount view.endpointStride
      Endpoint.size 4 &&
    arrayLayoutIsValid wordBits view.validatorEndpoints view.validatorEndpointCount
      view.validatorEndpointStride ValidatorEndpoint.size 4 &&
    arrayLayoutIsValid wordBits view.leaders view.leaderCount view.leaderStride Leader.size 8

/-- The checks of `solana_delivery_topology_validate` on the record its argument points to. -/
def topologyValidateView (t : CallerTopology) : Except Status Unit :=
  if t.view.structSize.toNat < Topology.size ∨ t.view.reserved0 ≠ 0 then
    .error Status.invalidArgument
  else if topologyLayoutsAreValid t.view = false then .error Status.invalidArgument
  else do
    validateElements t.view.validatorCount fun i =>
      validateValidator (t.validator i) t.view.validatorStride
    validateElements t.view.endpointCount fun i =>
      validateEndpoint (t.endpoint i) t.view.endpointStride
    validateElements t.view.validatorEndpointCount fun i =>
      validateAssociation (t.validatorEndpoint i) t.view.validatorEndpointStride
        t.view.validatorCount t.view.endpointCount
    validateElements t.view.leaderCount fun i =>
      validateLeader (t.leader i) t.view.leaderStride t.view.validatorCount

/-- `solana_delivery_topology_validate` -/
def topologyValidate (topology : Option (Ref CallerTopology)) : Except Status Unit :=
  match topology with
  | none => .error Status.invalidArgument
  | some r =>
      if pointerIsAligned r.addr 8 = false then .error Status.invalidArgument
      else topologyValidateView r.val

/-! ### What an accepted topology satisfies -/

/-- **The layout check** accepts the empty arrays and those that can be addressed in a word. -/
theorem arrayLayoutIsValid_iff {W : ℕ} {base : Addr} {count stride : UInt32} {size align : ℕ}
    (hsize : 0 < size) (hmax : size ≤ sizeMax W) (halign : align ≠ 0) :
    arrayLayoutIsValid W base count stride size align = true
      ↔ (count ≠ 0 → Fits (sizeMax W) base count.toNat stride.toNat size align) := by
  rw [arrayLayoutIsValid]
  split_ifs with hcount hbase hguard
  · simp [hcount]
  · refine iff_of_false not_false fun hfits => ?_
    have h := hfits hcount
    rcases hbase with hnull | hshort | hbase | hstride
    · exact h.base_ne_null hnull
    · exact absurd h.size_le_stride (not_le.mpr hshort)
    · exact hbase (by simp [pointerIsAligned, halign, Nat.mod_eq_zero_of_dvd h.base_aligned])
    · exact hstride (Nat.mod_eq_zero_of_dvd h.stride_aligned)
  · simp only [not_or, not_not, not_lt] at hbase
    refine iff_of_false not_false fun hfits => ?_
    have h := hfits hcount
    exact absurd ((guard_iff (by omega) hmax).mpr h.extent_le) (not_le.mpr hguard)
  · simp only [not_or, not_not, not_lt] at hbase
    obtain ⟨hnull, hle, hbase, hstride⟩ := hbase
    have hmod : base % align = 0 := by simpa [pointerIsAligned, halign] using hbase
    simp only [true_iff]
    exact fun _ => ⟨hnull, Nat.dvd_of_mod_eq_zero hmod, hle, Nat.dvd_of_mod_eq_zero hstride,
      (guard_iff (by omega) hmax).mp (not_lt.mp hguard)⟩

/-- In an array that can be addressed, no element offset wraps. -/
lemma arrayOffset_of_fits {W : ℕ} {base : Addr} {count stride : UInt32} {size align i : ℕ}
    (h : Fits (sizeMax W) base count.toNat stride.toNat size align) (hi : i < count.toNat) :
    arrayOffset W i stride = i * stride.toNat := by
  have hend := le_sizeMax_iff.mp (h.end_le hi)
  rw [arrayOffset, Nat.mod_eq_of_lt (by omega)]

lemma arrayElement_eq {W : ℕ} {base : Addr} {m : Bytes} {count stride : UInt32} {size align i : ℕ}
    (h : Fits (sizeMax W) base count.toNat stride.toNat size align) (hi : i < count.toNat) :
    arrayElement W m i stride = shift m (i * stride.toNat) := by
  rw [arrayElement, arrayOffset_of_fits h hi]

lemma forM_check_eq_ok {is : List ℕ} {validate : ℕ → Status} :
    (forM is fun i => Status.check (validate i)) = .ok () ↔ ∀ i ∈ is, validate i = Status.ok := by
  induction is with
  | nil => simp [pure, Except.pure]
  | cons i is ih =>
      rw [List.forM_cons, List.forall_mem_cons, ← ih, ← Status.check_eq_ok]
      cases h : Status.check (validate i) <;> simp [bind, Except.bind]

lemma forM_check_ne_ok {is : List ℕ} {validate : ℕ → Status} {e : Status}
    (h : (forM is fun i => Status.check (validate i)) = .error e) : e ≠ Status.ok := by
  induction is with
  | nil => simp [pure, Except.pure] at h
  | cons i is ih =>
      rw [List.forM_cons] at h
      cases hi : Status.check (validate i) with
      | ok u => rw [hi] at h; exact ih h
      | error e' =>
          rw [hi] at h
          cases h
          exact (Status.check_eq_error.mp hi).2

lemma validateElements_eq_ok {count : UInt32} {validate : ℕ → Status} :
    validateElements count validate = .ok () ↔ ∀ i < count.toNat, validate i = Status.ok := by
  rw [validateElements, forM_check_eq_ok]
  simp

lemma validateElements_ne_ok {count : UInt32} {validate : ℕ → Status} {e : Status}
    (h : validateElements count validate = .error e) : e ≠ Status.ok := forM_check_ne_ok h

/-- A loop of checks stops with the status of the first index that fails. -/
lemma forM_check_eq_error {n : ℕ} {validate : ℕ → Status} {e : Status} :
    (forM (List.range n) fun i => Status.check (validate i)) = .error e
      ↔ ∃ i < n, (∀ j < i, validate j = Status.ok) ∧ validate i = e ∧ e ≠ Status.ok := by
  induction n with
  | zero => simp [pure, Except.pure]
  | succ n ih =>
      rw [List.range_succ, List.forM_append]
      cases hfirst : forM (List.range n) fun i => Status.check (validate i) with
      | ok u =>
          have hall : ∀ i < n, validate i = Status.ok := fun i hi =>
            forM_check_eq_ok.mp hfirst i (List.mem_range.mpr hi)
          have hlast : (do Except.ok u; forM [n] fun i => Status.check (validate i))
              = Status.check (validate n) := by
            cases hn : Status.check (validate n) <;>
              simp [hn, bind, Except.bind, pure, Except.pure]
          rw [hlast, Status.check_eq_error]
          constructor
          · rintro ⟨hv, hne⟩
            exact ⟨n, Nat.lt_succ_self n, hall, hv, hne⟩
          · rintro ⟨i, hi, -, hv, hne⟩
            rcases Nat.lt_succ_iff_lt_or_eq.mp hi with hlt | rfl
            · exact absurd ((hv.symm.trans (hall i hlt))) hne
            · exact ⟨hv, hne⟩
      | error e' =>
          rw [hfirst] at ih
          refine ih.trans ⟨?_, ?_⟩
          · rintro ⟨i, hi, h⟩
            exact ⟨i, Nat.lt_succ_of_lt hi, h⟩
          · rintro ⟨i, hi, hbefore, h⟩
            refine ⟨i, lt_of_le_of_ne (Nat.lt_succ_iff.mp hi) ?_, hbefore, h⟩
            rintro rfl
            have hok := forM_check_eq_ok.mpr fun j hj => hbefore j (List.mem_range.mp hj)
            rw [hfirst] at hok
            cases hok

lemma validateElements_eq_error {count : UInt32} {validate : ℕ → Status} {e : Status} :
    validateElements count validate = .error e
      ↔ ∃ i < count.toNat, (∀ j < i, validate j = Status.ok) ∧ validate i = e ∧ e ≠ Status.ok :=
  forM_check_eq_error

/-- A check that only ever refuses with `INVALID_ARGUMENT` does not report an unsupported topology. -/
lemma validateElements_ne_unsupported {count : UInt32} {validate : ℕ → Status}
    (h : ∀ i, validate i = Status.invalidArgument ∨ validate i = Status.ok) :
    validateElements count validate ≠ .error Status.unsupported := by
  intro herr
  obtain ⟨i, -, -, hv, -⟩ := validateElements_eq_error.mp herr
  rcases h i with hi | hi <;> rw [hi] at hv <;> exact absurd hv (by decide)

/-- What the checks of `solana_delivery_topology_validate` establish of a topology record. -/
structure CallerTopology.Checked (t : CallerTopology) : Prop where
  structSize : Topology.size ≤ t.view.structSize.toNat
  reserved0 : t.view.reserved0 = 0
  layouts : topologyLayoutsAreValid t.view = true
  validators : ∀ i < t.view.validatorCount.toNat,
    validateValidator (t.validator i) t.view.validatorStride = Status.ok
  endpoints : ∀ i < t.view.endpointCount.toNat,
    validateEndpoint (t.endpoint i) t.view.endpointStride = Status.ok
  validatorEndpoints : ∀ i < t.view.validatorEndpointCount.toNat,
    validateAssociation (t.validatorEndpoint i) t.view.validatorEndpointStride
      t.view.validatorCount t.view.endpointCount = Status.ok
  leaders : ∀ i < t.view.leaderCount.toNat,
    validateLeader (t.leader i) t.view.leaderStride t.view.validatorCount = Status.ok

lemma bind_eq_ok {x y : Except Status Unit} :
    (do x; y) = .ok () ↔ x = .ok () ∧ y = .ok () := by
  cases x <;> simp [bind, Except.bind]

lemma bind_eq_error {x y : Except Status Unit} {e : Status} :
    (do x; y) = .error e → x = .error e ∨ y = .error e := by
  cases x with
  | ok u => exact Or.inr
  | error e' => exact Or.inl

lemma bind_eq_error_iff {x y : Except Status Unit} {e : Status} :
    (do x; y) = .error e ↔ x = .error e ∨ x = .ok () ∧ y = .error e := by
  cases x <;> simp [bind, Except.bind]

theorem topologyValidateView_eq_ok {t : CallerTopology} :
    topologyValidateView t = .ok () ↔ t.Checked := by
  rw [topologyValidateView]
  split_ifs with hheader hlayouts
  · refine ⟨fun h => by simp at h, fun h => ?_⟩
    rcases hheader with hsize | hres
    · exact absurd h.structSize (by omega)
    · exact absurd h.reserved0 hres
  · exact ⟨fun h => by simp at h, fun h => by simp [h.layouts] at hlayouts⟩
  · rw [not_or, not_not] at hheader
    simp only [bind_eq_ok, validateElements_eq_ok]
    constructor
    · rintro ⟨hv, he, ha, hl⟩
      exact ⟨by omega, hheader.2, by simpa using hlayouts, hv, he, ha, hl⟩
    · intro h
      exact ⟨h.validators, h.endpoints, h.validatorEndpoints, h.leaders⟩

theorem topologyValidate_eq_ok {topology : Option (Ref CallerTopology)} :
    topologyValidate topology = .ok ()
      ↔ ∃ r, topology = some r ∧ r.addr % 8 = 0 ∧ r.val.Checked := by
  cases topology with
  | none => simp [topologyValidate]
  | some r =>
      simp only [topologyValidate, pointerIsAligned, Option.some.injEq, exists_eq_left',
        ← topologyValidateView_eq_ok]
      split_ifs with h <;> simp_all

lemma checked_of_validate {r : Ref CallerTopology} (h : topologyValidate (some r) = .ok ()) :
    r.val.Checked := by
  obtain ⟨r', hr, -, hchecked⟩ := topologyValidate_eq_ok.mp h
  obtain rfl := Option.some.inj hr
  exact hchecked

lemma topologyValidateView_ne_ok {t : CallerTopology} {e : Status}
    (h : topologyValidateView t = .error e) : e ≠ Status.ok := by
  rw [topologyValidateView] at h
  split_ifs at h with hheader hlayouts
  · cases h; exact Status.invalidArgument_ne_ok
  · cases h; exact Status.invalidArgument_ne_ok
  · rcases bind_eq_error h with h | h
    · exact validateElements_ne_ok h
    rcases bind_eq_error h with h | h
    · exact validateElements_ne_ok h
    rcases bind_eq_error h with h | h
    · exact validateElements_ne_ok h
    · exact validateElements_ne_ok h

/-- A rejected topology is rejected with a status other than `OK`. -/
lemma topologyValidate_ne_ok {topology : Option (Ref CallerTopology)} {e : Status}
    (h : topologyValidate topology = .error e) : e ≠ Status.ok := by
  cases topology with
  | none => cases h; exact Status.invalidArgument_ne_ok
  | some r =>
      simp only [topologyValidate] at h
      split_ifs at h with halign
      · cases h; exact Status.invalidArgument_ne_ok
      · exact topologyValidateView_ne_ok h

/-! ### The records of an accepted topology -/

lemma elementSizeIsValid_iff {structSize stride : UInt32} {minimumSize : ℕ} :
    elementSizeIsValid structSize stride minimumSize = true
      ↔ minimumSize ≤ structSize.toNat ∧ structSize ≤ stride := by
  simp [elementSizeIsValid]

lemma bytesAreZero_iff {l : List UInt8} : bytesAreZero l = true ↔ ∀ b ∈ l, b = 0 := by
  simp [bytesAreZero]

/-- A check that is one disjunction passes when none of its disjuncts holds. -/
lemma invalidArgument_ite_eq_ok {p : Prop} [Decidable p] :
    (if p then Status.invalidArgument else Status.ok) = Status.ok ↔ ¬p := by
  by_cases h : p
  · rw [if_pos h]
    exact iff_of_false Status.invalidArgument_ne_ok (not_not.mpr h)
  · rw [if_neg h]
    exact iff_of_true rfl h

lemma validateValidator_eq_ok {v : Validator} {stride : UInt32} :
    validateValidator v stride = Status.ok
      ↔ elementSizeIsValid v.structSize stride Validator.size = true ∧ v.reserved0 = 0 ∧
        bytesAreZero v.reserved1.toList = true := by
  rw [validateValidator, invalidArgument_ite_eq_ok]
  simp only [not_or, not_not, ne_eq]

lemma validateAssociation_eq_ok {a : ValidatorEndpoint} {stride n m : UInt32} :
    validateAssociation a stride n m = Status.ok
      ↔ elementSizeIsValid a.structSize stride ValidatorEndpoint.size = true ∧ a.reserved0 = 0 ∧
        a.validatorIndex < n ∧ a.endpointIndex < m := by
  rw [validateAssociation, invalidArgument_ite_eq_ok]
  simp only [not_or, not_not, ne_eq, ge_iff_le, UInt32.not_le]

lemma validateLeader_eq_ok {l : Leader} {stride n : UInt32} :
    validateLeader l stride n = Status.ok
      ↔ elementSizeIsValid l.structSize stride Leader.size = true ∧ l.reserved0 = 0 ∧
        l.validatorIndex < n ∧ l.firstSlot ≤ l.lastSlot := by
  rw [validateLeader, invalidArgument_ite_eq_ok]
  simp only [not_or, not_not, ne_eq, ge_iff_le, gt_iff_lt, UInt32.not_le, UInt64.not_lt]

/-- An endpoint that is accepted stays so when only its declared size and the stride change, to
values that fit each other. -/
lemma validateEndpoint_congr {e : Endpoint} {stride size' stride' : UInt32}
    (h : validateEndpoint e stride = Status.ok)
    (hsize : elementSizeIsValid size' stride' Endpoint.size = true) :
    validateEndpoint { e with structSize := size' } stride' = Status.ok := by
  have hsz : elementSizeIsValid e.structSize stride Endpoint.size = true := by
    by_contra hne
    simp [validateEndpoint, hne] at h
  simpa [validateEndpoint, hsize, hsz] using h

end SolanaTpuClient
