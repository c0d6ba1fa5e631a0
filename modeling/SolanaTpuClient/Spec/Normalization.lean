import SolanaTpuClient.Spec.Snapshot

/-!
An owned topology is in normal form.

What a build leaves of an accepted topology is accepted itself (`CopyOf.checked`): the layouts are
the native ones and every record is the record of the source with its declared size rewritten. The
copy of an array that is already in the native layout is that array (`nativeElements_self`), so a
copy of the view of an owned topology is the same snapshot (`CopyOf.sameSnapshot`).
-/

namespace SolanaTpuClient

open ByteMemory OutputBuffer

/-! ### Arrays in the native layout -/

/-- An array copied by a build: a pointer that is null exactly when the array is empty, to as many
elements as are counted, and the address a view holds for it. -/
structure NativeArray (p : Option (Block (List UInt8))) (address : Addr) (count stride : UInt32)
    (n : ℕ) : Prop where
  address : address = Block.addrOf p
  stride : stride = UInt32.ofNat n
  length : (Block.contents p).length = count.toNat * n
  null : p = none ↔ count = 0

variable {source : Bytes} {count stride : UInt32} {n : ℕ} {p p' : Option (Block (List UInt8))}

lemma HoldsArray.length (hn : 4 ≤ n) (h : HoldsArray p count (nativeElements source count stride n)) :
    (Block.contents p).length = count.toNat * n := by
  rw [h.contents, flatten_length (nativeElements_uniform hn)]
  simp [nativeElements]

lemma arrayLayoutIsValid_of_native {address : Addr} {alignment : ℕ} (hn0 : n ≠ 0)
    (hn : n ≤ 2 ^ 16) (halign : alignment ∣ 8) (hdvd : n % alignment = 0)
    (h : NativeArray p address count stride n) :
    arrayLayoutIsValid wordBits address count stride n alignment = true := by
  have hstride : stride.toNat = n := by
    rw [h.stride, UInt32.toNat_ofNat', Nat.mod_eq_of_lt (by omega)]
  by_cases hc : count = 0
  · rw [arrayLayoutIsValid, if_pos hc]
  obtain ⟨b, rfl⟩ := Option.ne_none_iff_exists'.mp (mt h.null.mp hc)
  have hnull : address ≠ 0 := h.address ▸ b.addr.ne_null
  have haddr : address % alignment = 0 := by
    have h8 : 8 ∣ address := Nat.dvd_of_mod_eq_zero (h.address ▸ b.addr.aligned)
    exact Nat.mod_eq_zero_of_dvd (halign.trans h8)
  have haligned : pointerIsAligned address alignment = true := by
    have hpos : alignment ≠ 0 := (Nat.pos_of_dvd_of_pos halign (by decide)).ne'
    simp [pointerIsAligned, hpos, haddr]
  have hcount : ¬ count.toNat - 1 > (sizeMax wordBits - n) / n := by
    have hlt : count.toNat < 2 ^ 32 := count.toNat_lt
    rw [not_lt, Nat.le_div_iff_mul_le (by omega)]
    calc (count.toNat - 1) * n ≤ 2 ^ 32 * 2 ^ 16 := Nat.mul_le_mul (by omega) hn
      _ ≤ sizeMax wordBits - 2 ^ 16 := by norm_num [sizeMax, wordBits]
      _ ≤ sizeMax wordBits - n := Nat.sub_le_sub_left hn _
  simp only [arrayLayoutIsValid, if_neg hc, hstride, haligned, hnull, hdvd, lt_irrefl, not_true,
    ne_eq, or_self, if_false, if_neg hcount]

/-- The native size fits the native stride. -/
lemma elementSizeIsValid_native (hn : n < 2 ^ 32) :
    elementSizeIsValid (UInt32.ofNat n) (UInt32.ofNat n) n = true := by
  refine elementSizeIsValid_iff.mpr ⟨?_, UInt32.le_refl _⟩
  rw [UInt32.toNat_ofNat', Nat.mod_eq_of_lt hn]

/-- The elements of an array in the native layout lie `n` bytes apart. -/
lemma arrayElement_native (base : Bytes) (hn : n ≤ 2 ^ 16) {i : ℕ} (hi : i < count.toNat) :
    arrayElement wordBits base i (UInt32.ofNat n) = shift base (i * n) := by
  have hstride : (UInt32.ofNat n).toNat = n := by
    rw [UInt32.toNat_ofNat', Nat.mod_eq_of_lt (by omega)]
  have hlt : count.toNat < 2 ^ 32 := count.toNat_lt
  have hword : i * n < 2 ^ wordBits := by
    calc i * n ≤ 2 ^ 32 * 2 ^ 16 := Nat.mul_le_mul (by omega) hn
      _ < 2 ^ wordBits := by norm_num [wordBits]
  rw [arrayElement, arrayOffset, hstride, Nat.mod_eq_of_lt hword]

/-- Replacing a front that is already in place changes nothing. -/
lemma patch_patch (src b : List UInt8) : patch src (patch src b) = patch src b := by
  rw [patch, patch, List.drop_left]

/-- **Copying an array that is in the native layout gives the same array.** -/
theorem nativeElements_self (hn4 : 4 ≤ n) (hn : n ≤ 2 ^ 16)
    (h : HoldsArray p count (nativeElements source count stride n)) :
    nativeElements (ofList (Block.contents p)) count (UInt32.ofNat n) n
      = nativeElements source count stride n := by
  refine List.ext_getElem (by simp [nativeElements]) fun i h1 h2 => ?_
  have hi : i < count.toNat := by simpa [nativeElements] using h1
  have helement : slice (arrayElement wordBits (ofList (Block.contents p)) i (UInt32.ofNat n)) 0 n
      = patch (leBytes 4 n) (slice (arrayElement wordBits source i stride) 0 n) := by
    have hlen : (patch (leBytes 4 n) (slice (arrayElement wordBits source i stride) 0 n)).length
        = n := by
      rw [patch_length (by simpa using hn4), slice_length]
    rw [arrayElement_native _ hn hi]
    refine List.ext_getElem (by rw [slice_length, hlen]) fun j hj1 hj2 => ?_
    have hj : j < n := by simpa using hj1
    have hbyte := h.byte hn4 hi hj
    rw [ofList_of_lt hj2] at hbyte
    rw [← hbyte]
    simp only [slice, List.getElem_map, List.getElem_range, Nat.zero_add]
  simp only [nativeElements, List.getElem_map, List.getElem_range]
  rw [helement, patch_patch]

/-- A copy of an array in the native layout has its contents. -/
lemma HoldsArray.contents_copy (hn4 : 4 ≤ n) (hn : n ≤ 2 ^ 16)
    (h : HoldsArray p count (nativeElements source count stride n))
    (h' : HoldsArray p' count
      (nativeElements (ofList (Block.contents p)) count (UInt32.ofNat n) n)) :
    Block.contents p' = Block.contents p := by
  rw [h'.contents, nativeElements_self hn4 hn h, h.contents]

/-! ### The view of an owned topology -/

namespace OwnedTopology

variable {o o' : OwnedTopology} {t : CallerTopology}

/-- The four arrays are in the native layout, with the counts and addresses of the view. -/
structure Native (o : OwnedTopology) : Prop where
  validators : NativeArray o.validators o.view.validators o.view.validatorCount
    o.view.validatorStride Validator.size
  endpoints : NativeArray o.endpoints o.view.endpoints o.view.endpointCount
    o.view.endpointStride Endpoint.size
  validatorEndpoints : NativeArray o.validatorEndpoints o.view.validatorEndpoints
    o.view.validatorEndpointCount o.view.validatorEndpointStride ValidatorEndpoint.size
  leaders : NativeArray o.leaders o.view.leaders o.view.leaderCount o.view.leaderStride Leader.size

lemma CopyOf.native (h : o.CopyOf t) : o.Native := by
  constructor <;> rw [h.view]
  · exact ⟨rfl, rfl, h.validators.length (by decide), h.validators.null⟩
  · exact ⟨rfl, rfl, h.endpoints.length (by decide), h.endpoints.null⟩
  · exact ⟨rfl, rfl, h.validatorEndpoints.length (by decide), h.validatorEndpoints.null⟩
  · exact ⟨rfl, rfl, h.leaders.length (by decide), h.leaders.null⟩

lemma Native.layouts (h : o.Native) : topologyLayoutsAreValid o.view = true := by
  rw [topologyLayoutsAreValid,
    arrayLayoutIsValid_of_native (by decide) (by decide) (by decide) (by decide) h.validators,
    arrayLayoutIsValid_of_native (by decide) (by decide) (by decide) (by decide) h.endpoints,
    arrayLayoutIsValid_of_native (by decide) (by decide) (by decide) (by decide)
      h.validatorEndpoints,
    arrayLayoutIsValid_of_native (by decide) (by decide) (by decide) (by decide) h.leaders]
  rfl

lemma Native.asCaller_validator (h : o.Native) {i : ℕ} (hi : i < o.view.validatorCount.toNat) :
    o.asCaller.validator i = o.validator i := by
  rw [CallerTopology.validator, OwnedTopology.validator]
  simp only [asCaller]
  rw [h.validators.stride, arrayElement_native _ (by decide) hi]

lemma Native.asCaller_endpoint (h : o.Native) {i : ℕ} (hi : i < o.view.endpointCount.toNat) :
    o.asCaller.endpoint i = o.endpoint i := by
  rw [CallerTopology.endpoint, OwnedTopology.endpoint]
  simp only [asCaller]
  rw [h.endpoints.stride, arrayElement_native _ (by decide) hi]

lemma Native.asCaller_validatorEndpoint (h : o.Native) {i : ℕ}
    (hi : i < o.view.validatorEndpointCount.toNat) :
    o.asCaller.validatorEndpoint i = o.validatorEndpoint i := by
  rw [CallerTopology.validatorEndpoint, OwnedTopology.validatorEndpoint]
  simp only [asCaller]
  rw [h.validatorEndpoints.stride, arrayElement_native _ (by decide) hi]

lemma Native.asCaller_leader (h : o.Native) {i : ℕ} (hi : i < o.view.leaderCount.toNat) :
    o.asCaller.leader i = o.leader i := by
  rw [CallerTopology.leader, OwnedTopology.leader]
  simp only [asCaller]
  rw [h.leaders.stride, arrayElement_native _ (by decide) hi]

/-- **The copy of an accepted topology is accepted.** -/
theorem CopyOf.checked (h : o.CopyOf t) (hc : t.Checked) : o.asCaller.Checked := by
  have hnative := h.native
  have hview := h.view
  constructor
  · simp only [asCaller]
    rw [hview]
    exact le_rfl
  · simp only [asCaller]
    rw [hview]
    rfl
  · exact hnative.layouts
  · intro i hi
    rw [hnative.asCaller_validator hi]
    simp only [asCaller] at hi ⊢
    rw [hview] at hi ⊢
    have hsource := validateValidator_eq_ok.mp (hc.validators i hi)
    rw [h.validator hi]
    exact validateValidator_eq_ok.mpr ⟨elementSizeIsValid_native (by decide), hsource.2⟩
  · intro i hi
    rw [hnative.asCaller_endpoint hi]
    simp only [asCaller] at hi ⊢
    rw [hview] at hi ⊢
    rw [h.endpoint hi]
    exact validateEndpoint_congr (hc.endpoints i hi) (elementSizeIsValid_native (by decide))
  · intro i hi
    rw [hnative.asCaller_validatorEndpoint hi]
    simp only [asCaller] at hi ⊢
    rw [hview] at hi ⊢
    have hsource := validateAssociation_eq_ok.mp (hc.validatorEndpoints i hi)
    rw [h.validatorEndpoint hi]
    exact validateAssociation_eq_ok.mpr ⟨elementSizeIsValid_native (by decide), hsource.2⟩
  · intro i hi
    rw [hnative.asCaller_leader hi]
    simp only [asCaller] at hi ⊢
    rw [hview] at hi ⊢
    have hsource := validateLeader_eq_ok.mp (hc.leaders i hi)
    rw [h.leader hi]
    exact validateLeader_eq_ok.mpr ⟨elementSizeIsValid_native (by decide), hsource.2⟩

/-- The records of an owned topology declare the native sizes and refer to records that exist. -/
structure RecordsValid (o : OwnedTopology) : Prop where
  validators : ∀ i < o.view.validatorCount.toNat,
    (o.validator i).structSize = UInt32.ofNat Validator.size
  endpoints : ∀ i < o.view.endpointCount.toNat,
    (o.endpoint i).structSize = UInt32.ofNat Endpoint.size
  validatorEndpoints : ∀ i < o.view.validatorEndpointCount.toNat,
    (o.validatorEndpoint i).structSize = UInt32.ofNat ValidatorEndpoint.size ∧
      (o.validatorEndpoint i).validatorIndex < o.view.validatorCount ∧
      (o.validatorEndpoint i).endpointIndex < o.view.endpointCount
  leaders : ∀ i < o.view.leaderCount.toNat,
    (o.leader i).structSize = UInt32.ofNat Leader.size ∧
      (o.leader i).validatorIndex < o.view.validatorCount ∧
      (o.leader i).firstSlot ≤ (o.leader i).lastSlot

lemma CopyOf.recordsValid (h : o.CopyOf t) (hc : t.Checked) : o.RecordsValid := by
  have hview := h.view
  constructor <;> intro i hi
  · rw [hview] at hi
    rw [h.validator hi]
  · rw [hview] at hi
    rw [h.endpoint hi]
  · rw [hview] at hi ⊢
    have hsource := validateAssociation_eq_ok.mp (hc.validatorEndpoints i hi)
    rw [h.validatorEndpoint hi]
    exact ⟨rfl, hsource.2.2⟩
  · rw [hview] at hi ⊢
    have hsource := validateLeader_eq_ok.mp (hc.leaders i hi)
    rw [h.leader hi]
    exact ⟨rfl, hsource.2.2⟩

/-- Two owned topologies have the same view up to the addresses of their arrays, and the same
arrays. -/
structure SameSnapshot (o o' : OwnedTopology) : Prop where
  view : o'.view = { o.view with
    validators := Block.addrOf o'.validators
    endpoints := Block.addrOf o'.endpoints
    validatorEndpoints := Block.addrOf o'.validatorEndpoints
    leaders := Block.addrOf o'.leaders }
  validators : Block.contents o'.validators = Block.contents o.validators
  endpoints : Block.contents o'.endpoints = Block.contents o.endpoints
  validatorEndpoints : Block.contents o'.validatorEndpoints = Block.contents o.validatorEndpoints
  leaders : Block.contents o'.leaders = Block.contents o.leaders

/-- **Copying the view of an owned topology changes nothing but the addresses of the arrays.** -/
theorem CopyOf.sameSnapshot (h : o.CopyOf t) (h' : o'.CopyOf o.asCaller) : SameSnapshot o o' := by
  have hv := h'.validators
  have he := h'.endpoints
  have ha := h'.validatorEndpoints
  have hl := h'.leaders
  simp only [asCaller] at hv he ha hl
  rw [h.view] at hv he ha hl
  refine ⟨?_, h.validators.contents_copy (by decide) (by decide) hv,
    h.endpoints.contents_copy (by decide) (by decide) he,
    h.validatorEndpoints.contents_copy (by decide) (by decide) ha,
    h.leaders.contents_copy (by decide) (by decide) hl⟩
  rw [h'.view, asCaller, h.view]
  rfl

end OwnedTopology

end SolanaTpuClient
