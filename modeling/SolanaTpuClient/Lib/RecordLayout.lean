import Mathlib.Tactic

/-!
The layout of a record type.

The fields of a record stand in order, each at the first offset from the end of the one before that
its alignment allows. The record is aligned like the field of the strictest alignment, and its size
is the end of its last field (`recordEnd`) up to the next multiple of that alignment (`recordSize`).
A record whose last field ends at such a multiple has no padding at its end
(`recordSize_eq_recordEnd`).
-/

namespace RecordLayout

/-- The size and the alignment of a field. -/
structure Field where
  size : ℕ
  align : ℕ

/-- The first multiple of `a` from `x` on. -/
def alignUp (a x : ℕ) : ℕ := (x + a - 1) / a * a

/-- The end of the last of some fields that are placed from an offset on. -/
def recordEnd : List Field → ℕ → ℕ
  | [], off => off
  | f :: fields, off => recordEnd fields (alignUp f.align off + f.size)

/-- The alignment of a record. -/
def recordAlign (fields : List Field) : ℕ := (fields.map Field.align).foldr max 1

/-- The size of a record. -/
def recordSize (fields : List Field) : ℕ := alignUp (recordAlign fields) (recordEnd fields 0)

lemma recordAlign_pos (fields : List Field) : 0 < recordAlign fields := by
  induction fields with
  | nil => exact Nat.one_pos
  | cons f fields ih =>
      rw [recordAlign, List.map_cons, List.foldr_cons]
      exact lt_of_lt_of_le ih (le_max_right _ _)

/-- A multiple of the alignment stays where it is. -/
lemma alignUp_of_dvd {a x : ℕ} (ha : 0 < a) (h : a ∣ x) : alignUp a x = x := by
  obtain ⟨k, rfl⟩ := h
  have hdiv : (a * k + a - 1) / a = k := by
    rw [Nat.add_sub_assoc ha, Nat.mul_add_div ha, Nat.div_eq_of_lt (by omega), Nat.add_zero]
  rw [alignUp, hdiv, Nat.mul_comm]

/-- A record that ends aligned has no padding at its end. -/
lemma recordSize_eq_recordEnd {fields : List Field}
    (h : recordAlign fields ∣ recordEnd fields 0) : recordSize fields = recordEnd fields 0 :=
  alignUp_of_dvd (recordAlign_pos fields) h

end RecordLayout
