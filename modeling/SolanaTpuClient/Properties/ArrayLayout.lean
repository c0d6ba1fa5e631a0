import SolanaTpuClient.Delivery.Words

/-!
What the layout check of an array is good for, at every width of a word.

`array_layout_is_valid` divides where the bound it stands for multiplies. It accepts exactly the
empty arrays and those whose extent is the number of some word (`arrayLayoutIsValidWord_iff`).
In an accepted array the offsets of `array_element` are exact and the elements aligned and apart
(`elementsAreSafe`), and `clone_array` of its elements stays inside what it reads and writes
(`copyIsSafe`).
-/

namespace SolanaTpuClient

open ByteMemory RecordLayout StridedArray Traps

variable {W : ℕ}

/-! ### Safe arrays -/

/-- The offsets of the bytes of an element of `m` bytes. -/
def elementBytes (stride : UInt32) (m : BitVec W) (i : ℕ) : Finset ℕ :=
  Finset.Ico (i * stride.toNat) (i * stride.toNat + m.toNat)

/-- The end of the last element. -/
def extent (count stride : UInt32) (m : BitVec W) : ℕ :=
  (count.toNat - 1) * stride.toNat + m.toNat

/-- The arithmetic of `array_element` is that of the numbers. -/
structure ElementsAreSafe (base m a : BitVec W) (count stride : UInt32) : Prop where
  offset_exact : ∀ i < count, (arrayElementOffset W i stride).toNat = i.toNat * stride.toNat
  address_aligned : ∀ i < count, a.toNat ∣ (base + arrayElementOffset W i stride).toNat
  disjoint : ∀ i < count, ∀ j < count, i ≠ j →
    Disjoint (elementBytes stride m i.toNat) (elementBytes stride m j.toNat)
  below_extent : ∀ i < count, ∀ off ∈ elementBytes stride m i.toNat, off < extent count stride m

/-- `clone_array` of elements of `m` bytes needs no byte past the extent of its source, and its
block holds what it copies. -/
structure CopyIsSafe (m : BitVec W) (count stride : UInt32) : Prop where
  size_exact : (toSize W count * m).toNat = count.toNat * m.toNat
  defined : ∀ allocator granted source, (count ≠ 0 → extent count stride m ≤ source.length) →
    (cloneArrayWord allocator granted source count stride m).isSome
  copied : ∀ allocator source, allocatorIsValid (some allocator) = true → count ≠ 0 →
    extent count stride m ≤ source.length →
    cloneArrayWord allocator true source count stride m
      = some (Status.ok, some ((List.range count.toNat).map fun i =>
          slice (ofList source) (i * stride.toNat) m.toNat).flatten)

/-! ### What the check decides -/

section Check

variable {base m a : BitVec W} {count stride : UInt32} (hW : 32 ≤ W) (hm : m ≠ 0)
include hW hm

/-- The layout check on words accepts the empty arrays and those that can be addressed. -/
lemma arrayLayoutIsValidWord_iff_fits (ha : a ≠ 0) :
    arrayLayoutIsValidWord base count stride m a = some true
      ↔ (count ≠ 0 →
          Fits (sizeMax W) base.toNat count.toNat stride.toNat m.toNat a.toNat) := by
  rw [arrayLayoutIsValidWord_eq hW base count stride hm a, Option.some.injEq,
    arrayLayoutIsValid_iff (toNat_pos hm) (le_sizeMax_iff.mpr m.isLt) (toNat_pos ha).ne']

/-- **The layout check** is a bound on the extent, and the conditions its elements need. -/
theorem arrayLayoutIsValidWord_iff (ha : a ≠ 0) :
    arrayLayoutIsValidWord base count stride m a = some true
      ↔ count = 0 ∨ base ≠ 0 ∧ a.toNat ∣ base.toNat ∧ m.toNat ≤ stride.toNat ∧
          a.toNat ∣ stride.toNat ∧ extent count stride m ≤ 2 ^ W - 1 := by
  rw [arrayLayoutIsValidWord_iff_fits hW hm ha, ← or_iff_not_imp_left]
  refine or_congr_right ⟨fun h => ?_, fun h => ?_⟩
  · exact ⟨mt toNat_eq_zero_iff.mpr h.base_ne_null, h.base_aligned, h.size_le_stride,
      h.stride_aligned, h.extent_le⟩
  · obtain ⟨hbase, haligned, hsize, hstride, hextent⟩ := h
    exact ⟨mt toNat_eq_zero_iff.mp hbase, haligned, hsize, hstride, hextent⟩

end Check

-- with one record more than 32 bits have room for, the guard refuses
example : arrayLayoutIsValidWord (4096 : BitVec 32) 65536 65537 65537 1 = some false := by decide

lemma ne_zero_of_two_pow {a : BitVec W} (ha : ∃ k, a.toNat = 2 ^ k) : a ≠ 0 := by
  obtain ⟨k, hk⟩ := ha
  rw [ne_eq, ← toNat_eq_zero_iff, hk]
  exact (Nat.two_pow_pos k).ne'

/-! ### What an accepted array is good for -/

section Accepted

variable {base m a : BitVec W} {count stride : UInt32} (hW : 32 ≤ W)
include hW

/-- No offset of an element wraps. -/
lemma toNat_arrayElementOffset_of_fits
    (h : Fits (sizeMax W) base.toNat count.toNat stride.toNat m.toNat a.toNat) {i : UInt32}
    (hi : i < count) : (arrayElementOffset W i stride).toNat = i.toNat * stride.toNat := by
  have hi' : i.toNat < count.toNat := UInt32.lt_iff_toNat_lt.mp hi
  calc (arrayElementOffset W i stride).toNat
      = (arrayElementOffset W (UInt32.ofNat i.toNat) stride).toNat := by rw [UInt32.ofNat_toNat]
    _ = arrayOffset W i.toNat stride := toNat_arrayElementOffset hW hi'
    _ = i.toNat * stride.toNat := arrayOffset_of_fits h hi'

/-- Every element of an accepted array is where the numbers put it. -/
theorem elementsAreSafe (ha : ∃ k, a.toNat = 2 ^ k) (hm : m ≠ 0)
    (h : arrayLayoutIsValidWord base count stride m a = some true) :
    ElementsAreSafe base m a count stride := by
  have hne := ne_zero_of_two_pow ha
  obtain ⟨k, hk⟩ := ha
  have hfits : ∀ {i : UInt32}, i < count →
      Fits (sizeMax W) base.toNat count.toNat stride.toNat m.toNat a.toNat := by
    intro i hi
    refine (arrayLayoutIsValidWord_iff_fits hW hm hne).mp h ?_
    rintro rfl
    exact absurd hi (UInt32.not_lt_zero)
  -- addresses wrap at a multiple of the alignment, because both are powers of two
  have hwrap : a.toNat ∣ 2 ^ W := by
    have hlt := a.isLt
    rw [hk] at hlt ⊢
    exact pow_dvd_pow 2 ((Nat.pow_lt_pow_iff_right (by omega)).mp hlt).le
  constructor
  · exact fun i hi => toNat_arrayElementOffset_of_fits hW (hfits hi) hi
  · intro i hi
    refine dvd_toNat_add hwrap (hfits hi).base_aligned ?_
    rw [toNat_arrayElementOffset_of_fits hW (hfits hi) hi]
    exact (hfits hi).stride_aligned.mul_left _
  · intro i hi j _ hij
    exact (hfits hi).disjoint (mt UInt32.toNat_inj.mp hij)
  · intro i hi off hoff
    have hi' : i.toNat < count.toNat := UInt32.lt_iff_toNat_lt.mp hi
    have hend : i.toNat * stride.toNat ≤ (count.toNat - 1) * stride.toNat :=
      Nat.mul_le_mul_right _ (by omega)
    rw [elementBytes, Finset.mem_Ico] at hoff
    rw [extent]
    omega

omit hW in
/-- The element at an index ends within the extent. -/
lemma end_le_extent {i : ℕ} (hi : i < count.toNat) :
    i * stride.toNat + m.toNat ≤ extent count stride m := by
  have hle : i * stride.toNat ≤ (count.toNat - 1) * stride.toNat :=
    Nat.mul_le_mul_right _ (by omega)
  rw [extent]
  omega

/-- A copy of an accepted array stays inside the extent of the array and inside its own block. -/
theorem copyIsSafe (ha : a ≠ 0) (hm : m ≠ 0)
    (h : arrayLayoutIsValidWord base count stride m a = some true) :
    CopyIsSafe m count stride := by
  have hfits := (arrayLayoutIsValidWord_iff_fits hW hm ha).mp h
  have hfit : count.toNat * m.toNat ≤ sizeMax W := by
    by_cases hcount : count = 0
    · rw [hcount, UInt32.toNat_zero, Nat.zero_mul]
      exact Nat.zero_le _
    · have hne : count.toNat ≠ 0 := fun hzero => hcount (UInt32.toNat_inj.mp hzero)
      exact (hfits hcount).count_mul_le (Nat.pos_of_ne_zero hne)
  have hcopied : ∀ allocator source, allocatorIsValid (some allocator) = true → count ≠ 0 →
      extent count stride m ≤ source.length →
      cloneArrayWord allocator true source count stride m
        = some (Status.ok, some ((List.range count.toNat).map fun i =>
            slice (ofList source) (i * stride.toNat) m.toNat).flatten) := by
    intro allocator source hvalid hcount hextent
    have hread : ∀ i < count.toNat, arrayOffset W i stride + m.toNat ≤ source.length := by
      intro i hi
      rw [arrayOffset_of_fits (hfits hcount) hi]
      exact (end_le_extent hi).trans hextent
    rw [cloneArrayWord_of_granted hvalid hm hW hcount hfit hread,
      List.map_congr_left fun i hi => ?_]
    rw [arrayOffset_of_fits (hfits hcount) (List.mem_range.mp hi)]
  refine ⟨toNat_count_mul hW hfit, fun allocator granted source hextent => ?_, hcopied⟩
  cases hvalid : allocatorIsValid (some allocator) with
  | false =>
      rw [cloneArrayWord, if_pos (Or.inl hvalid)]
      exact Option.isSome_some
  | true =>
      by_cases hcount : count = 0
      · rw [cloneArrayWord_of_empty hvalid hm hcount]
        exact Option.isSome_some
      cases granted with
      | false =>
          rw [cloneArrayWord_of_fit hvalid hm hW hcount hfit, if_neg (by decide)]
          exact Option.isSome_some
      | true =>
          rw [hcopied allocator source hvalid hcount (hextent hcount)]
          exact Option.isSome_some

end Accepted

/-- **The layout check is exact, and makes the accesses to an array safe**, where `size_t` and
`uintptr_t` have any number of bits from 32 on: it has no division by zero and accepts the empty
arrays and those whose extent a word can hold; the elements of an accepted array are where the
numbers put them; a copy of its records, which are as long as the prefix that was checked, needs
nothing past its extent. The records of a topology are as long as their prefixes on every ABI that
aligns a `uint64_t` to a divisor of its size, and these are the lengths that are checked and
copied. -/
theorem array_layout_exact_and_safe (hW : 32 ≤ W) (base : BitVec W) (count stride : UInt32)
    {m a : BitVec W} (hm : m ≠ 0) (ha : ∃ k, a.toNat = 2 ^ k) :
    (∃ accepted, arrayLayoutIsValidWord base count stride m a = some accepted ∧
      (accepted = true ↔ count = 0 ∨ base ≠ 0 ∧ a.toNat ∣ base.toNat ∧ m.toNat ≤ stride.toNat ∧
        a.toNat ∣ stride.toNat ∧ (count.toNat - 1) * stride.toNat + m.toNat ≤ 2 ^ W - 1)) ∧
    (arrayLayoutIsValidWord base count stride m a = some true →
      ElementsAreSafe base m a count stride ∧ CopyIsSafe m count stride) ∧
    (toSize W count ≤ BitVec.allOnes W / m →
      (toSize W count * m).toNat = count.toNat * m.toNat) ∧
    ∀ b, b ∣ 8 →
      (∀ fields ∈ topologyRecords b, recordSize fields = structMinSize fields) ∧
      (topologyRecords b).map structMinSize
        = [Validator.size, Endpoint.size, ValidatorEndpoint.size, Leader.size] := by
  have hne := ne_zero_of_two_pow ha
  refine ⟨⟨_, arrayLayoutIsValidWord_eq hW base count stride hm a, ?_⟩, fun h => ?_, fun h => ?_,
    fun b hb => ⟨recordSize_topologyRecords hb, structMinSize_topologyRecords hb⟩⟩
  · refine Option.some_inj.symm.trans ?_
    rw [← arrayLayoutIsValidWord_eq hW base count stride hm a]
    exact arrayLayoutIsValidWord_iff hW hm hne
  · exact ⟨elementsAreSafe hW ha hm h, copyIsSafe hW hne hm h⟩
  · refine toNat_count_mul hW ?_
    by_contra hwrap
    exact absurd ((count_gt_iff hW hm).mpr hwrap) (BitVec.not_lt.mpr h)

/-- The extent of 65535 records of 65537 bytes is the greatest number of 32 bits. -/
theorem array_layout_exact_and_safe_limit :
    ElementsAreSafe (4096 : BitVec 32) 65537 1 65535 65537 ∧
      CopyIsSafe (65537 : BitVec 32) 65535 65537 :=
  (array_layout_exact_and_safe (by omega) 4096 65535 65537 (by decide) ⟨0, rfl⟩).2.1 (by decide)

end SolanaTpuClient
