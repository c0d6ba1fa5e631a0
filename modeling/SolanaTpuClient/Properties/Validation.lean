import SolanaTpuClient.Spec.DocumentedTopology

/-!
The validation accepts exactly the documented topologies and classifies the others.

Each element check decides whether its record is documented, and only the check of an endpoint can
answer `UNSUPPORTED`. The element loops stop at the first record that is refused, so an unsupported
endpoint is reported exactly when nothing before it is objectionable.
-/

namespace SolanaTpuClient

open ByteMemory StridedArray

/-! ### Records -/

lemma elementSizeIsValid_iff_documented {structSize stride : UInt32} {size : ℕ} :
    elementSizeIsValid structSize stride size = true ↔ SizeDocumented structSize stride size := by
  rw [elementSizeIsValid_iff, UInt32.le_iff_toNat_le]
  rfl

lemma bytesAreZero_drop_iff {n : ℕ} {bytes : Vector UInt8 n} {first : ℕ} :
    bytesAreZero (bytes.toList.drop first) = true ↔ ZeroFrom bytes first := by
  rw [bytesAreZero_iff]
  constructor
  · intro h i hi hfirst
    refine h bytes[i] (List.mem_drop_iff_getElem.mpr ⟨i - first, ?_, ?_⟩)
    · rw [Vector.length_toList]
      omega
    · simp [Nat.add_sub_cancel' hfirst]
  · intro h b hb
    obtain ⟨i, hi, rfl⟩ := List.mem_drop_iff_getElem.mp hb
    rw [Vector.length_toList] at hi
    simpa using h (first + i) (by omega) (by omega)

lemma bytesAreZero_iff_zeroFrom {n : ℕ} {bytes : Vector UInt8 n} :
    bytesAreZero bytes.toList = true ↔ ZeroFrom bytes 0 := by
  rw [← bytesAreZero_drop_iff, List.drop_zero]

lemma validateValidator_iff_documented {v : Validator} {stride : UInt32} :
    validateValidator v stride = Status.ok ↔ v.Documented stride := by
  rw [validateValidator_eq_ok, elementSizeIsValid_iff_documented, bytesAreZero_iff_zeroFrom]
  exact ⟨fun ⟨hs, h0, h1⟩ => ⟨hs, h0, h1⟩, fun h => ⟨h.structSize, h.reserved0, h.reserved1⟩⟩

lemma validateAssociation_iff_documented {a : ValidatorEndpoint} {stride n m : UInt32} :
    validateAssociation a stride n m = Status.ok ↔ a.Documented stride n m := by
  rw [validateAssociation_eq_ok, elementSizeIsValid_iff_documented]
  exact ⟨fun ⟨hs, h0, hv, he⟩ => ⟨hs, h0, hv, he⟩,
    fun h => ⟨h.structSize, h.reserved0, h.validatorIndex, h.endpointIndex⟩⟩

lemma validateLeader_iff_documented {l : Leader} {stride n : UInt32} :
    validateLeader l stride n = Status.ok ↔ l.Documented stride n := by
  rw [validateLeader_eq_ok, elementSizeIsValid_iff_documented]
  exact ⟨fun ⟨hs, h0, hv, hle⟩ => ⟨hs, h0, hv, hle⟩,
    fun h => ⟨h.structSize, h.reserved0, h.validatorIndex, h.slots⟩⟩

/-- The first group of checks on an endpoint. -/
lemma not_wellFormed_iff {e : Endpoint} {stride : UInt32} :
    (¬ elementSizeIsValid e.structSize stride Endpoint.size ∨ e.reserved0 ≠ 0 ∨
        e.reserved1 ≠ 0 ∨ ¬ bytesAreZero e.reserved2.toList ∨ e.port = 0)
      ↔ ¬e.WellFormed stride := by
  rw [elementSizeIsValid_iff_documented, bytesAreZero_iff_zeroFrom, ← not_iff_not, not_not]
  simp only [not_or, not_not]
  exact ⟨fun ⟨hs, h0, h1, h2, hp⟩ => ⟨hs, h0, h1, h2, hp⟩,
    fun h => ⟨h.structSize, h.reserved0, h.reserved1, h.reserved2, h.port⟩⟩

lemma validateEndpoint_iff_documented {e : Endpoint} {stride : UInt32} :
    validateEndpoint e stride = Status.ok ↔ e.Documented stride := by
  rw [validateEndpoint]
  split_ifs with hform hunspec hfamily htunspec htransport hrunspec hrole haddress
  all_goals simp only [Status.invalidArgument_ne_ok, Status.unsupported_ne_ok, false_iff, true_iff]
  · exact fun h => not_wellFormed_iff.mp hform h.toWellFormed
  · intro h
    rcases h.addressFamily with hf | hf <;> rw [hf] at hunspec <;> exact absurd hunspec (by decide)
  · exact fun h => h.addressFamily.elim hfamily.1 hfamily.2
  · exact fun h => absurd (htunspec.symm.trans h.transport) (by decide)
  · exact fun h => htransport h.transport
  · exact fun h => absurd (hrunspec.symm.trans h.role) (by decide)
  · exact fun h => hrole h.role
  · exact fun h => haddress.2 (bytesAreZero_drop_iff.mpr (h.address haddress.1))
  · rw [not_wellFormed_iff, not_not] at hform
    refine ⟨hform, ?_, not_not.mp htransport, not_not.mp hrole, fun hf => ?_⟩
    · rwa [not_and_or, not_not, not_not] at hfamily
    · exact bytesAreZero_drop_iff.mp (by simpa [hf] using haddress)

lemma validateEndpoint_iff_unsupported {e : Endpoint} {stride : UInt32} :
    validateEndpoint e stride = Status.unsupported ↔ e.Unsupported stride := by
  have hne : Status.invalidArgument ≠ Status.unsupported := by decide
  unfold validateEndpoint Endpoint.Unsupported
  split_ifs with hform hunspec hfamily htunspec htransport hrunspec hrole haddress
  · exact iff_of_false hne fun h => not_wellFormed_iff.mp hform h.1
  all_goals rw [not_wellFormed_iff, not_not] at hform
  · refine iff_of_false hne fun h => ?_
    rw [hunspec] at h
    exact absurd h.2 (by simp [addressUnspec, addressIpv4, addressIpv6])
  · exact iff_of_true rfl ⟨hform, Or.inl (by simp [hunspec, hfamily])⟩
  all_goals
    have hmem : e.addressFamily ∈ [addressIpv4, addressIpv6] := by
      rw [not_and_or, not_not, not_not] at hfamily
      simpa using hfamily
    have hnot : ¬e.addressFamily ∉ [addressUnspec, addressIpv4, addressIpv6] :=
      not_not.mpr (List.mem_cons_of_mem _ hmem)
  · refine iff_of_false hne fun h => ?_
    rcases h.2.resolve_left hnot |>.2 with ht | ⟨ht, -⟩
    · exact ht (by simp [htunspec])
    · exact absurd (htunspec.symm.trans ht) (by decide)
  · exact iff_of_true rfl ⟨hform, Or.inr ⟨hmem, Or.inl (by simp [htunspec, htransport])⟩⟩
  all_goals rw [not_not] at htransport
  · refine iff_of_false hne fun h => ?_
    rcases h.2.resolve_left hnot |>.2 with ht | ⟨-, hr⟩
    · exact ht (by simp [htransport])
    · exact hr (by simp [hrunspec])
  · exact iff_of_true rfl ⟨hform, Or.inr ⟨hmem, Or.inr ⟨htransport, by simp [hrunspec, hrole]⟩⟩⟩
  all_goals
    have hsupported : ¬(e.transport ∉ [transportUnspec, transportQuic] ∨
        e.transport = transportQuic ∧ e.role ∉ [endpointRoleUnspec, endpointRoleTpu]) := by
      simp [htransport, not_not.mp hrole]
  · exact iff_of_false hne fun h => hsupported (h.2.resolve_left hnot).2
  · exact iff_of_false (by decide) fun h => hsupported (h.2.resolve_left hnot).2

/-! ### The answers of a check -/

lemma validateValidator_cases (v : Validator) (stride : UInt32) :
    validateValidator v stride = Status.invalidArgument ∨
      validateValidator v stride = Status.ok := by
  rw [validateValidator]
  split_ifs <;> simp

lemma validateEndpoint_cases (e : Endpoint) (stride : UInt32) :
    validateEndpoint e stride = Status.unsupported ∨
      validateEndpoint e stride = Status.invalidArgument ∨
      validateEndpoint e stride = Status.ok := by
  rw [validateEndpoint]
  split_ifs <;> simp

lemma validateAssociation_cases (a : ValidatorEndpoint) (stride n m : UInt32) :
    validateAssociation a stride n m = Status.invalidArgument ∨
      validateAssociation a stride n m = Status.ok := by
  rw [validateAssociation]
  split_ifs <;> simp

lemma validateLeader_cases (l : Leader) (stride n : UInt32) :
    validateLeader l stride n = Status.invalidArgument ∨ validateLeader l stride n = Status.ok := by
  rw [validateLeader]
  split_ifs <;> simp

/-- A loop over checks with these answers stops with one of the two rejections. -/
lemma validateElements_rejection {count : UInt32} {validate : ℕ → Status} {e : Status}
    (hanswers : ∀ i, validate i = Status.unsupported ∨ validate i = Status.invalidArgument ∨
      validate i = Status.ok)
    (h : validateElements count validate = .error e) :
    e = Status.unsupported ∨ e = Status.invalidArgument := by
  obtain ⟨i, -, -, rfl, hne⟩ := validateElements_eq_error.mp h
  rcases hanswers i with hi | hi | hi
  · exact Or.inl hi
  · exact Or.inr hi
  · exact absurd hi hne

/-! ### Arrays -/

variable {base : Addr} {count stride : UInt32} {size align : ℕ}

lemma arrayLayoutIsValid_iff_documented (hsize : 0 < size) (hmax : size ≤ sizeMax wordBits)
    (halign : align ≠ 0) :
    arrayLayoutIsValid wordBits base count stride size align = true
      ↔ ArrayDocumented base count stride size align :=
  arrayLayoutIsValid_iff hsize hmax halign

/-- The records of an array that can be addressed stand at their exact offsets. -/
lemma ArrayDocumented.arrayElement_eq (h : ArrayDocumented base count stride size align)
    (m : Bytes) {i : ℕ} (hi : i < count.toNat) :
    arrayElement wordBits m i stride = recordAt m stride i := by
  have hcount : count ≠ 0 := by
    rintro rfl
    exact absurd hi (Nat.not_lt_zero i)
  exact SolanaTpuClient.arrayElement_eq (h hcount) hi

lemma topologyLayoutsAreValid_iff {view : Topology} :
    topologyLayoutsAreValid view = true ↔
      ArrayDocumented view.validators view.validatorCount view.validatorStride Validator.size 4 ∧
      ArrayDocumented view.endpoints view.endpointCount view.endpointStride Endpoint.size 4 ∧
      ArrayDocumented view.validatorEndpoints view.validatorEndpointCount
        view.validatorEndpointStride ValidatorEndpoint.size 4 ∧
      ArrayDocumented view.leaders view.leaderCount view.leaderStride Leader.size 8 := by
  have hmax : ∀ n ≤ 48, n ≤ sizeMax wordBits := fun n hn => hn.trans (by norm_num [sizeMax, wordBits])
  simp only [topologyLayoutsAreValid, Bool.and_eq_true, and_assoc]
  exact and_congr (arrayLayoutIsValid_iff_documented (by decide) (hmax _ (by decide)) (by decide))
    (and_congr (arrayLayoutIsValid_iff_documented (by decide) (hmax _ (by decide)) (by decide))
      (and_congr (arrayLayoutIsValid_iff_documented (by decide) (hmax _ (by decide)) (by decide))
        (arrayLayoutIsValid_iff_documented (by decide) (hmax _ (by decide)) (by decide))))

/-! ### The whole topology -/

variable {t : CallerTopology}

namespace CallerTopology.FrameDocumented

variable (h : t.FrameDocumented) {i : ℕ}
include h

lemma validator_eq (hi : i < t.view.validatorCount.toNat) : t.validator i = t.validatorAt i := by
  rw [CallerTopology.validator, h.validatorArray.arrayElement_eq _ hi]
  rfl

lemma endpoint_eq (hi : i < t.view.endpointCount.toNat) : t.endpoint i = t.endpointAt i := by
  rw [CallerTopology.endpoint, h.endpointArray.arrayElement_eq _ hi]
  rfl

lemma validatorEndpoint_eq (hi : i < t.view.validatorEndpointCount.toNat) :
    t.validatorEndpoint i = t.validatorEndpointAt i := by
  rw [CallerTopology.validatorEndpoint, h.validatorEndpointArray.arrayElement_eq _ hi]
  rfl

lemma leader_eq (hi : i < t.view.leaderCount.toNat) : t.leader i = t.leaderAt i := by
  rw [CallerTopology.leader, h.leaderArray.arrayElement_eq _ hi]
  rfl

end CallerTopology.FrameDocumented

/-- The checks before the endpoints pass exactly when the frame is documented. -/
lemma frameDocumented_iff :
    t.FrameDocumented ↔ (Topology.size ≤ t.view.structSize.toNat ∧ t.view.reserved0 = 0) ∧
      topologyLayoutsAreValid t.view = true ∧
      ∀ i < t.view.validatorCount.toNat,
        validateValidator (t.validator i) t.view.validatorStride = Status.ok := by
  rw [topologyLayoutsAreValid_iff]
  have hrecord : ArrayDocumented t.view.validators t.view.validatorCount t.view.validatorStride
      Validator.size 4 → ∀ i < t.view.validatorCount.toNat,
      (validateValidator (t.validator i) t.view.validatorStride = Status.ok
        ↔ (t.validatorAt i).Documented t.view.validatorStride) := by
    intro harray i hi
    rw [validateValidator_iff_documented, CallerTopology.validator, harray.arrayElement_eq _ hi]
    rfl
  constructor
  · intro h
    exact ⟨⟨h.structSize, h.reserved0⟩,
      ⟨h.validatorArray, h.endpointArray, h.validatorEndpointArray, h.leaderArray⟩,
      fun i hi => (hrecord h.validatorArray i hi).mpr (h.validators i hi)⟩
  · rintro ⟨⟨hsize, hres⟩, ⟨hv, he, ha, hl⟩, hvalidators⟩
    exact ⟨hsize, hres, hv, he, ha, hl, fun i hi => (hrecord hv i hi).mp (hvalidators i hi)⟩

/-- **What is checked is what is documented.** -/
theorem checked_iff_documented : t.Checked ↔ t.Documented := by
  constructor
  · intro h
    have hframe : t.FrameDocumented :=
      frameDocumented_iff.mpr ⟨⟨h.structSize, h.reserved0⟩, h.layouts, h.validators⟩
    refine ⟨hframe, fun i hi => ?_, fun i hi => ?_, fun i hi => ?_⟩
    · exact hframe.endpoint_eq hi ▸ validateEndpoint_iff_documented.mp (h.endpoints i hi)
    · exact hframe.validatorEndpoint_eq hi ▸
        validateAssociation_iff_documented.mp (h.validatorEndpoints i hi)
    · exact hframe.leader_eq hi ▸ validateLeader_iff_documented.mp (h.leaders i hi)
  · intro h
    have hframe := h.toFrameDocumented
    obtain ⟨⟨hsize, hres⟩, hlayouts, hvalidators⟩ := frameDocumented_iff.mp hframe
    refine ⟨hsize, hres, hlayouts, hvalidators, fun i hi => ?_, fun i hi => ?_, fun i hi => ?_⟩
    · exact validateEndpoint_iff_documented.mpr (hframe.endpoint_eq hi ▸ h.endpoints i hi)
    · exact validateAssociation_iff_documented.mpr
        (hframe.validatorEndpoint_eq hi ▸ h.validatorEndpoints i hi)
    · exact validateLeader_iff_documented.mpr (hframe.leader_eq hi ▸ h.leaders i hi)

/-- The endpoint loop answers `UNSUPPORTED` exactly at a first undocumented endpoint that is
unsupported. -/
lemma validateElements_endpoints_unsupported (h : t.FrameDocumented) :
    (validateElements t.view.endpointCount fun i =>
        validateEndpoint (t.endpoint i) t.view.endpointStride) = .error Status.unsupported
      ↔ t.UnsupportedEndpoint := by
  rw [validateElements_eq_error]
  constructor
  · rintro ⟨i, hi, hbefore, hv, -⟩
    refine ⟨h, i, hi, fun j hj => ?_, ?_⟩
    · exact h.endpoint_eq (hj.trans hi) ▸ validateEndpoint_iff_documented.mp (hbefore j hj)
    · exact h.endpoint_eq hi ▸ validateEndpoint_iff_unsupported.mp hv
  · rintro ⟨-, i, hi, hbefore, hv⟩
    refine ⟨i, hi, fun j hj => ?_, ?_, Status.unsupported_ne_ok⟩
    · exact validateEndpoint_iff_documented.mpr (h.endpoint_eq (hj.trans hi) ▸ hbefore j hj)
    · exact validateEndpoint_iff_unsupported.mpr (h.endpoint_eq hi ▸ hv)

/-- **A rejection is `UNSUPPORTED`** exactly when the first objectionable thing is an unsupported
endpoint. -/
theorem topologyValidateView_eq_unsupported :
    topologyValidateView t = .error Status.unsupported ↔ t.UnsupportedEndpoint := by
  rw [topologyValidateView]
  split_ifs with hheader hlayouts
  · refine iff_of_false (by simp [Status.invalidArgument, Status.unsupported]) fun h => ?_
    obtain ⟨⟨hsize, hres⟩, -⟩ := frameDocumented_iff.mp h.1
    exact hheader.elim (fun hlt => absurd hsize (not_le.mpr hlt)) (absurd hres)
  · refine iff_of_false (by simp [Status.invalidArgument, Status.unsupported]) fun h => ?_
    rw [(frameDocumented_iff.mp h.1).2.1] at hlayouts
    exact Bool.noConfusion hlayouts
  · rw [not_or, not_lt, not_not] at hheader
    simp only [bind_eq_error_iff, validateElements_ne_unsupported fun i =>
        validateValidator_cases (t.validator i) t.view.validatorStride,
      validateElements_ne_unsupported fun i =>
        validateAssociation_cases (t.validatorEndpoint i) t.view.validatorEndpointStride
          t.view.validatorCount t.view.endpointCount,
      validateElements_ne_unsupported fun i =>
        validateLeader_cases (t.leader i) t.view.leaderStride t.view.validatorCount,
      and_false, or_false, false_or]
    constructor
    · rintro ⟨hvalidators, hendpoints⟩
      have hframe : t.FrameDocumented := frameDocumented_iff.mpr
        ⟨hheader, by simpa using hlayouts, validateElements_eq_ok.mp hvalidators⟩
      exact (validateElements_endpoints_unsupported hframe).mp hendpoints
    · intro h
      exact ⟨validateElements_eq_ok.mpr (frameDocumented_iff.mp h.1).2.2,
        (validateElements_endpoints_unsupported h.1).mpr h⟩

lemma topologyValidateView_rejection {e : Status} (h : topologyValidateView t = .error e) :
    e = Status.unsupported ∨ e = Status.invalidArgument := by
  rw [topologyValidateView] at h
  split_ifs at h with hheader hlayouts
  · cases h
    exact Or.inr rfl
  · cases h
    exact Or.inr rfl
  rcases bind_eq_error h with h | h
  · exact validateElements_rejection (fun i => Or.inr (validateValidator_cases _ _)) h
  rcases bind_eq_error h with h | h
  · exact validateElements_rejection (fun i => validateEndpoint_cases _ _) h
  rcases bind_eq_error h with h | h
  · exact validateElements_rejection (fun i => Or.inr (validateAssociation_cases _ _ _ _)) h
  · exact validateElements_rejection (fun i => Or.inr (validateLeader_cases _ _ _)) h

lemma topologyValidate_some {r : Ref CallerTopology} (h : 8 ∣ r.addr) :
    topologyValidate (some r) = topologyValidateView r.val := by
  simp [topologyValidate, pointerIsAligned, Nat.mod_eq_zero_of_dvd h]

lemma topologyValidate_of_not_aligned {r : Ref CallerTopology} (h : ¬8 ∣ r.addr) :
    topologyValidate (some r) = .error Status.invalidArgument := by
  simp [topologyValidate, pointerIsAligned, mt Nat.dvd_of_mod_eq_zero h]

/-- **The validation is exact.** It answers `OK` exactly on the documented topologies behind an
aligned pointer, `UNSUPPORTED` exactly when the first objectionable thing there is an unsupported
endpoint, and `INVALID_ARGUMENT` in every other case. -/
theorem topology_validation_exact (topology : Option (Ref CallerTopology)) :
    (topologyValidate topology = .ok ()
        ↔ ∃ r, topology = some r ∧ 8 ∣ r.addr ∧ r.val.Documented) ∧
      (topologyValidate topology = .error Status.unsupported
        ↔ ∃ r, topology = some r ∧ 8 ∣ r.addr ∧ r.val.UnsupportedEndpoint) ∧
      (topologyValidate topology = .error Status.invalidArgument
        ↔ ¬∃ r, topology = some r ∧ 8 ∣ r.addr ∧
          (r.val.Documented ∨ r.val.UnsupportedEndpoint)) := by
  have hne : Status.invalidArgument ≠ Status.unsupported := by decide
  cases topology with
  | none => simp [topologyValidate, hne]
  | some r =>
      simp only [Option.some.injEq, exists_eq_left']
      by_cases halign : 8 ∣ r.addr
      · simp only [halign, true_and, topologyValidate_some halign]
        have hok : topologyValidateView r.val = .ok () ↔ r.val.Documented :=
          topologyValidateView_eq_ok.trans checked_iff_documented
        refine ⟨hok, topologyValidateView_eq_unsupported, ?_⟩
        rw [not_or, ← hok, ← topologyValidateView_eq_unsupported]
        constructor
        · intro h
          rw [h]
          simp [hne]
        · rintro ⟨hnotOk, hnotUnsupported⟩
          cases hv : topologyValidateView r.val with
          | ok u => exact absurd hv hnotOk
          | error e =>
              rcases topologyValidateView_rejection hv with rfl | rfl
              · exact absurd hv hnotUnsupported
              · rfl
      · simp [halign, topologyValidate_of_not_aligned halign, hne]

end SolanaTpuClient
