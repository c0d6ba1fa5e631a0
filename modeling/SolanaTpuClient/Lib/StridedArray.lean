import Mathlib.Tactic

/-!
Arrays whose elements stand a stride apart.

`Fits limit base count stride size align` says that an array can be addressed: the base is not null
and aligned, the stride holds an element and keeps the alignment, and the last element ends at an
offset of at most `limit`. A program checks the last condition by a division (`guard_iff`); from it
every element ends within the limit (`Fits.end_le`) and where the next one starts, or before
(`Fits.end_le_start`).
-/

namespace StridedArray

variable {limit base count stride size align i : ℕ}

/-- An array of `count` elements of `size` bytes that stand `stride` bytes apart can be addressed
with offsets up to `limit`. -/
structure Fits (limit base count stride size align : ℕ) : Prop where
  base_ne_null : base ≠ 0
  base_aligned : align ∣ base
  size_le_stride : size ≤ stride
  stride_aligned : align ∣ stride
  extent_le : (count - 1) * stride + size ≤ limit

/-- The guard that divides instead of multiplying. -/
lemma guard_iff (hstride : 0 < stride) (hsize : size ≤ limit) :
    count - 1 ≤ (limit - size) / stride ↔ (count - 1) * stride + size ≤ limit := by
  rw [Nat.le_div_iff_mul_le hstride]
  omega

namespace Fits

variable (h : Fits limit base count stride size align)
include h

/-- Every element ends within the limit. -/
lemma end_le (hi : i < count) : i * stride + size ≤ limit := by
  have hle : i * stride ≤ (count - 1) * stride := Nat.mul_le_mul_right _ (by omega)
  have hextent := h.extent_le
  omega

/-- An element ends where a later one starts, or before. -/
lemma end_le_start {j : ℕ} (hij : i < j) : i * stride + size ≤ j * stride := by
  have hsize := h.size_le_stride
  calc i * stride + size ≤ i * stride + stride := by omega
    _ = (i + 1) * stride := by rw [Nat.succ_mul]
    _ ≤ j * stride := Nat.mul_le_mul_right _ hij

/-- Different elements have no offset in common. -/
lemma disjoint {j : ℕ} (hij : i ≠ j) :
    Disjoint (Finset.Ico (i * stride) (i * stride + size))
      (Finset.Ico (j * stride) (j * stride + size)) := by
  rw [Finset.disjoint_left]
  intro off hi hj
  rw [Finset.mem_Ico] at hi hj
  rcases lt_or_gt_of_ne hij with hlt | hgt
  · have hle := h.end_le_start hlt
    omega
  · have hle := h.end_le_start hgt
    omega

/-- The elements would fit without the gaps between them. -/
lemma count_mul_le (hcount : 0 < count) : count * size ≤ limit := by
  have hsize := h.size_le_stride
  calc count * size = (count - 1) * size + size := by
        rw [← Nat.succ_mul, Nat.succ_eq_add_one, Nat.sub_add_cancel hcount]
    _ ≤ (count - 1) * stride + size := by
        have hle := Nat.mul_le_mul_left (count - 1) hsize
        omega
    _ ≤ limit := h.extent_le

end Fits

end StridedArray
