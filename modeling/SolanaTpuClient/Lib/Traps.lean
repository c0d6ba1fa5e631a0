import SolanaTpuClient.Lib.ByteMemory

/-!
Operations that are undefined on some of their arguments.

Division and remainder of words trap on a zero divisor, and a copy traps when it leaves the block it
reads from or writes to. A program made of these operations is a partial function; it is free of
undefined behaviour where it has a value, and that value is the one of the total operations
(`divide_of_ne_zero`, `remainder_of_ne_zero`, `read_of_le`, `overwrite_of_le`).
`copyRecords_eq_some` is the rule for a loop that copies records into an array.
-/

namespace Traps

open ByteMemory

/-! ### Words -/

section Words

variable {W : ℕ} {x y : BitVec W}

/-- The quotient of two words, undefined for a zero divisor. -/
def divide (x y : BitVec W) : Option (BitVec W) := if y = 0 then none else some (x / y)

/-- The remainder of two words, undefined for a zero divisor. -/
def remainder (x y : BitVec W) : Option (BitVec W) := if y = 0 then none else some (x % y)

lemma divide_of_ne_zero (h : y ≠ 0) : divide x y = some (x / y) := if_neg h

lemma remainder_of_ne_zero (h : y ≠ 0) : remainder x y = some (x % y) := if_neg h

lemma toNat_eq_zero_iff : x.toNat = 0 ↔ x = 0 := by
  rw [← BitVec.toNat_inj, BitVec.ofNat_eq_ofNat, BitVec.toNat_ofNat, Nat.zero_mod]

lemma toNat_pos (h : x ≠ 0) : 0 < x.toNat := Nat.pos_of_ne_zero (mt toNat_eq_zero_iff.mp h)

/-- A number that fits a word is the value of its word. -/
lemma toNat_ofNat_of_lt {n : ℕ} (h : n < 2 ^ W) : (BitVec.ofNat W n).toNat = n := by
  rw [BitVec.toNat_ofNat, Nat.mod_eq_of_lt h]

/-- A product of words is exact when it fits. -/
lemma toNat_mul_of_lt (h : x.toNat * y.toNat < 2 ^ W) : (x * y).toNat = x.toNat * y.toNat := by
  rw [BitVec.toNat_mul, Nat.mod_eq_of_lt h]

/-- Where the numbers wrap at a multiple of `d`, a sum of multiples of `d` is one. -/
lemma dvd_toNat_add {d : ℕ} (hwrap : d ∣ 2 ^ W) (hx : d ∣ x.toNat) (hy : d ∣ y.toNat) :
    d ∣ (x + y).toNat := by
  rw [BitVec.toNat_add, Nat.dvd_mod_iff hwrap]
  exact dvd_add hx hy

end Words

/-! ### Blocks -/

/-- The `n` bytes of a block from an offset on, undefined past its end. -/
def read (block : List UInt8) (off n : ℕ) : Option (List UInt8) :=
  if off + n ≤ block.length then some ((block.drop off).take n) else none

/-- A copy of `src` to an offset of a block, undefined past its end. -/
def overwrite (block : List UInt8) (off : ℕ) (src : List UInt8) : Option (List UInt8) :=
  if off + src.length ≤ block.length then some (splice block off src) else none

variable {block src : List UInt8} {off n : ℕ}

/-- A read within a block finds what the block holds there. -/
lemma read_of_le (h : off + n ≤ block.length) :
    read block off n = some (slice (ofList block) off n) := by
  rw [read, if_pos h, Option.some.injEq]
  refine List.ext_getElem (by simp; omega) fun i h1 h2 => ?_
  have hi : i < n := by simpa using h2
  rw [List.getElem_take, List.getElem_drop]
  simp only [slice, List.getElem_map, List.getElem_range]
  rw [ofList_of_lt (by omega)]

/-- A read that is defined finds what the block holds. -/
lemma read_eq_some {record : List UInt8} (h : read block off n = some record) :
    record = slice (ofList block) off n := by
  by_cases hle : off + n ≤ block.length
  · rw [read_of_le hle, Option.some.injEq] at h
    exact h.symm
  · rw [read, if_neg hle] at h
    cases h

lemma overwrite_of_le (h : off + src.length ≤ block.length) :
    overwrite block off src = some (splice block off src) := if_pos h

lemma overwrite_eq_some {block' : List UInt8} (h : overwrite block off src = some block') :
    block' = splice block off src := by
  by_cases hle : off + src.length ≤ block.length
  · rw [overwrite_of_le hle, Option.some.injEq] at h
    exact h.symm
  · rw [overwrite, if_neg hle] at h
    cases h

lemma splice_length (h : off + src.length ≤ block.length) :
    (splice block off src).length = block.length := by
  simp only [splice, List.length_append, List.length_take, List.length_drop]
  omega

/-- The loop that copies, for every `i` in turn, a record of `n` bytes from the offset `fromOff i` of
one block to the offset `toOff i` of another. -/
def copyRecords (source : List UInt8) (fromOff toOff : ℕ → ℕ) (n count : ℕ) (copy : List UInt8) :
    Option (List UInt8) :=
  (List.range count).foldlM (fun copy i => do
    let record ← read source (fromOff i) n
    overwrite copy (toOff i) record) copy

/-- Only the offsets of the records that are copied count. -/
lemma copyRecords_congr {fromOff fromOff' toOff toOff' : ℕ → ℕ} {count : ℕ}
    (hfrom : ∀ i < count, fromOff i = fromOff' i) (hto : ∀ i < count, toOff i = toOff' i)
    (source copy : List UInt8) :
    copyRecords source fromOff toOff n count copy
      = copyRecords source fromOff' toOff' n count copy := by
  induction count with
  | zero => rfl
  | succ k ih =>
      have hfront := ih (fun i hi => hfrom i (by omega)) fun i hi => hto i (by omega)
      rw [copyRecords, copyRecords] at hfront ⊢
      rw [List.range_succ, List.foldlM_append, List.foldlM_append, hfront]
      simp only [List.foldlM_cons, List.foldlM_nil, hfrom k k.lt_succ_self, hto k k.lt_succ_self]

/-- A copy loop that is defined has copied the records in turn. -/
lemma copyRecords_value {source copy copy' : List UInt8} {fromOff toOff : ℕ → ℕ} {count : ℕ}
    (h : copyRecords source fromOff toOff n count copy = some copy') :
    copy' = (List.range count).foldl (fun copy i =>
      splice copy (toOff i) (slice (ofList source) (fromOff i) n)) copy := by
  induction count generalizing copy' with
  | zero => exact (Option.some.inj h).symm
  | succ k ih =>
      rw [copyRecords, List.range_succ, List.foldlM_append, Option.bind_eq_bind,
        Option.bind_eq_some_iff] at h
      obtain ⟨c, hfront, hlast⟩ := h
      rw [List.foldlM_cons, Option.bind_eq_bind, Option.bind_eq_some_iff] at hlast
      obtain ⟨c', hround, hend⟩ := hlast
      obtain ⟨record, hread, hwrite⟩ := Option.bind_eq_some_iff.mp hround
      obtain rfl : c' = copy' := Option.some.inj hend
      have hcopy := overwrite_eq_some hwrite
      rw [List.range_succ, List.foldl_append, List.foldl_cons, List.foldl_nil, ← ih hfront, hcopy,
        read_eq_some hread]

/-- **The copy loop is defined** when every record lies in both blocks, and it copies them in
turn. -/
theorem copyRecords_eq_some {source copy : List UInt8} {fromOff toOff : ℕ → ℕ} {count : ℕ}
    (hfrom : ∀ i < count, fromOff i + n ≤ source.length)
    (hto : ∀ i < count, toOff i + n ≤ copy.length) :
    copyRecords source fromOff toOff n count copy
      = some ((List.range count).foldl (fun copy i =>
          splice copy (toOff i) (slice (ofList source) (fromOff i) n)) copy) := by
  -- the rounds keep the length of the block they write to
  have hlength : ∀ k ≤ count, ((List.range k).foldl (fun copy i =>
      splice copy (toOff i) (slice (ofList source) (fromOff i) n)) copy).length = copy.length := by
    intro k
    induction k with
    | zero => exact fun _ => rfl
    | succ k ih =>
        intro hk
        rw [List.range_succ, List.foldl_append, List.foldl_cons, List.foldl_nil, splice_length]
        · exact ih (by omega)
        · rw [slice_length, ih (by omega)]
          exact hto k (by omega)
  induction count with
  | zero => rfl
  | succ k ih =>
      have hrest := ih (fun i hi => hfrom i (by omega)) (fun i hi => hto i (by omega))
        fun j hj => hlength j (by omega)
      have hroom : toOff k + (slice (ofList source) (fromOff k) n).length
          ≤ ((List.range k).foldl (fun copy i =>
              splice copy (toOff i) (slice (ofList source) (fromOff i) n)) copy).length := by
        rw [slice_length, hlength k (by omega)]
        exact hto k (by omega)
      rw [copyRecords] at hrest ⊢
      rw [List.range_succ, List.foldlM_append, hrest, List.foldl_append, List.foldl_cons,
        List.foldl_nil]
      simp only [Option.bind_eq_bind, Option.bind_some, List.foldlM_cons, List.foldlM_nil,
        read_of_le (hfrom k (by omega)), overwrite_of_le hroom, Option.pure_def]

end Traps
