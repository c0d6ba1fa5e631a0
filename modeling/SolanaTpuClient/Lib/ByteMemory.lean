import Mathlib.Tactic
import Mathlib.Data.List.GetD
import SolanaTpuClient.Lib.OutputBuffer

/-!
Byte-addressed memory: little-endian fields, copies between byte ranges, and arrays of records
of one fixed size.

Memory behind a pointer that is only read or written through (`Bytes`) is a function of the
offset; a block of known size is a list of bytes. `load16`, `load32`, `load64` and `loadArray`
read fields, `leBytes` is what a store writes, `slice` is the source and `splice` and `write`
are the destinations of a copy.

An array of `n`-byte records is the flattening of a list of chunks of length `n`:
`foldl_splice_flatten` says what a loop of copies to offsets `i * n` leaves (`foldl_splice_replicate`
when the array is zeroed), and `ofList_flatten` reads a byte of the `i`-th record back.
-/

namespace ByteMemory

open OutputBuffer

/-- The bytes found from an address on, by offset. -/
abbrev Bytes := ℕ → UInt8

/-! ### Little-endian numerals -/

/-- The value of a little-endian byte string. -/
def leValue : List UInt8 → ℕ
  | [] => 0
  | b :: l => b.toNat + 256 * leValue l

/-- The `k` low bytes of a number, least significant first. -/
def leBytes : ℕ → ℕ → List UInt8
  | 0, _ => []
  | k + 1, n => UInt8.ofNat n :: leBytes k (n / 256)

@[simp] lemma leBytes_length (k n : ℕ) : (leBytes k n).length = k := by
  induction k generalizing n with
  | zero => rfl
  | succ k ih => rw [leBytes, List.length_cons, ih]

/-- Reading back what was stored keeps the bits that fit. -/
lemma leValue_leBytes (k n : ℕ) : leValue (leBytes k n) = n % 256 ^ k := by
  induction k generalizing n with
  | zero => simp [leBytes, leValue, Nat.mod_one]
  | succ k ih =>
      have hb : (UInt8.ofNat n).toNat = n % 256 := by simp
      rw [leBytes, leValue, ih, hb, pow_succ', Nat.mod_mul]

lemma leValue_lt (l : List UInt8) : leValue l < 256 ^ l.length := by
  induction l with
  | nil => simp [leValue]
  | cons b l ih =>
      have hb : b.toNat < 256 := b.toNat_lt
      calc leValue (b :: l) < 256 * (leValue l + 1) := by rw [leValue]; omega
        _ ≤ 256 * 256 ^ l.length := Nat.mul_le_mul_left _ ih
        _ = 256 ^ (b :: l).length := by rw [List.length_cons, pow_succ']

/-- A byte string is determined by its length and its value. -/
lemma leBytes_leValue (l : List UInt8) : leBytes l.length (leValue l) = l := by
  induction l with
  | nil => rfl
  | cons b l ih =>
      have hb : b.toNat < 256 := b.toNat_lt
      have hfirst : UInt8.ofNat (b.toNat + 256 * leValue l) = b := by
        apply UInt8.toNat_inj.mp
        rw [UInt8.toNat_ofNat']
        omega
      have hrest : (b.toNat + 256 * leValue l) / 256 = leValue l := by omega
      rw [List.length_cons, leBytes, leValue, hfirst, hrest, ih]

/-! ### Reading -/

/-- The `n` bytes from the offset `off` on. -/
def slice (m : Bytes) (off n : ℕ) : List UInt8 := (List.range n).map fun i => m (off + i)

/-- The memory seen from `off` bytes further on. -/
def shift (m : Bytes) (off : ℕ) : Bytes := fun i => m (off + i)

/-- A block of bytes read as memory; nothing past its end is ever read. -/
def ofList (l : List UInt8) : Bytes := fun i => l.getD i 0

/-- The 16-bit field at `off`. -/
def load16 (m : Bytes) (off : ℕ) : UInt16 := UInt16.ofNat (leValue (slice m off 2))

/-- The 32-bit field at `off`. -/
def load32 (m : Bytes) (off : ℕ) : UInt32 := UInt32.ofNat (leValue (slice m off 4))

/-- The 64-bit field at `off`. -/
def load64 (m : Bytes) (off : ℕ) : UInt64 := UInt64.ofNat (leValue (slice m off 8))

/-- The byte array of length `n` at `off`. -/
def loadArray (m : Bytes) (off n : ℕ) : Vector UInt8 n := Vector.ofFn fun i => m (off + i)

@[simp] lemma slice_length (m : Bytes) (off n : ℕ) : (slice m off n).length = n := by
  simp [slice]

@[simp] lemma shift_apply (m : Bytes) (off i : ℕ) : shift m off i = m (off + i) := rfl

/-- A range of a memory seen from further on. -/
lemma slice_shift (m : Bytes) (k n : ℕ) : slice (shift m k) 0 n = slice m k n := by
  simp only [slice, shift_apply, Nat.zero_add]

lemma ofList_of_lt {l : List UInt8} {i : ℕ} (h : i < l.length) : ofList l i = l[i] := by
  simp [ofList, h]

/-- A range in two parts. -/
lemma slice_add (m : Bytes) (off n k : ℕ) :
    slice m off (n + k) = slice m off n ++ slice m (off + n) k := by
  rw [slice, List.range_add, List.map_append, List.map_map, slice, slice]
  congr 1
  refine List.map_congr_left fun i _ => ?_
  rw [Function.comp_apply, Nat.add_assoc]

/-- The bytes a 64-bit field was read from. -/
lemma leBytes_load64 (m : Bytes) (off : ℕ) : leBytes 8 (load64 m off).toNat = slice m off 8 := by
  have hlt : leValue (slice m off 8) < 2 ^ 64 := by
    simpa using leValue_lt (slice m off 8)
  have hbytes := leBytes_leValue (slice m off 8)
  rwa [slice_length, ← Nat.mod_eq_of_lt hlt, ← UInt64.toNat_ofNat'] at hbytes

lemma ofList_slice (m : Bytes) {off n i : ℕ} (h : i < n) :
    ofList (slice m off n) i = m (off + i) := by
  rw [ofList_of_lt (by simpa using h)]
  simp [slice]

section Congr

variable {m m' : Bytes} {lo hi : ℕ} (h : ∀ j, lo ≤ j → j < hi → m j = m' j)
include h

/-- Memories that agree on a range have the same slice there. -/
lemma slice_congr {off n : ℕ} (hlo : lo ≤ off) (hhi : off + n ≤ hi) :
    slice m off n = slice m' off n := by
  refine List.map_congr_left fun i hi => h _ (by omega) ?_
  have := List.mem_range.mp hi
  omega

lemma load16_congr (off : ℕ) (hlo : lo ≤ off) (hhi : off + 2 ≤ hi) :
    load16 m off = load16 m' off := by
  rw [load16, load16, slice_congr h hlo hhi]

lemma load32_congr (off : ℕ) (hlo : lo ≤ off) (hhi : off + 4 ≤ hi) :
    load32 m off = load32 m' off := by
  rw [load32, load32, slice_congr h hlo hhi]

lemma load64_congr (off : ℕ) (hlo : lo ≤ off) (hhi : off + 8 ≤ hi) :
    load64 m off = load64 m' off := by
  rw [load64, load64, slice_congr h hlo hhi]

lemma loadArray_congr (off n : ℕ) (hlo : lo ≤ off) (hhi : off + n ≤ hi) :
    loadArray m off n = loadArray m' off n := by
  refine congrArg Vector.ofFn (funext fun i => h _ (by omega) ?_)
  have := i.isLt
  omega

end Congr

section Injective

variable {m m' : Bytes} {off n : ℕ}

lemma bytes_of_slice (h : slice m off n = slice m' off n) :
    ∀ j, off ≤ j → j < off + n → m j = m' j := by
  intro j hlo hhi
  have hget := congrArg (fun l => l[j - off]?) h
  have hj : j - off < n := by omega
  simpa [slice, hj, Nat.add_sub_cancel' hlo] using hget

/-- A field of the full width of its bytes determines them. -/
lemma bytes_of_leValue (h : leValue (slice m off n) = leValue (slice m' off n)) :
    ∀ j, off ≤ j → j < off + n → m j = m' j := by
  have hm := leBytes_leValue (slice m off n)
  have hm' := leBytes_leValue (slice m' off n)
  rw [slice_length] at hm hm'
  refine bytes_of_slice ?_
  rw [← hm, h, hm']

lemma bytes_of_load16 (h : load16 m off = load16 m' off) :
    ∀ j, off ≤ j → j < off + 2 → m j = m' j := by
  have hlt : ∀ k : Bytes, leValue (slice k off 2) < 2 ^ 16 := fun k => by
    simpa using leValue_lt (slice k off 2)
  refine bytes_of_leValue ?_
  have hval := congrArg UInt16.toNat h
  simpa only [load16, UInt16.toNat_ofNat', Nat.mod_eq_of_lt (hlt m),
    Nat.mod_eq_of_lt (hlt m')] using hval

lemma bytes_of_load32 (h : load32 m off = load32 m' off) :
    ∀ j, off ≤ j → j < off + 4 → m j = m' j := by
  have hlt : ∀ k : Bytes, leValue (slice k off 4) < 2 ^ 32 := fun k => by
    simpa using leValue_lt (slice k off 4)
  refine bytes_of_leValue ?_
  have hval := congrArg UInt32.toNat h
  simpa only [load32, UInt32.toNat_ofNat', Nat.mod_eq_of_lt (hlt m),
    Nat.mod_eq_of_lt (hlt m')] using hval

lemma bytes_of_load64 (h : load64 m off = load64 m' off) :
    ∀ j, off ≤ j → j < off + 8 → m j = m' j := by
  have hlt : ∀ k : Bytes, leValue (slice k off 8) < 2 ^ 64 := fun k => by
    simpa using leValue_lt (slice k off 8)
  refine bytes_of_leValue ?_
  have hval := congrArg UInt64.toNat h
  simpa only [load64, UInt64.toNat_ofNat', Nat.mod_eq_of_lt (hlt m),
    Nat.mod_eq_of_lt (hlt m')] using hval

lemma bytes_of_loadArray (h : loadArray m off n = loadArray m' off n) :
    ∀ j, off ≤ j → j < off + n → m j = m' j := by
  intro j hlo hhi
  have hget := congrArg (fun v => v[j - off]?) h
  have hj : j - off < n := by omega
  simpa [loadArray, hj, Nat.add_sub_cancel' hlo] using hget

/-- Agreement on two ranges that follow each other. -/
lemma bytes_append {lo mid hi : ℕ} (h : ∀ j, lo ≤ j → j < mid → m j = m' j)
    (h' : ∀ j, mid ≤ j → j < hi → m j = m' j) : ∀ j, lo ≤ j → j < hi → m j = m' j := by
  intro j hlo hhi
  rcases lt_or_ge j mid with hj | hj
  · exact h j hlo hj
  · exact h' j hj hhi

end Injective

/-- A range past a prefix is that range of the rest. -/
lemma slice_ofList_append {a : List UInt8} {off : ℕ} (h : a.length ≤ off) (l : List UInt8) (n : ℕ) :
    slice (ofList (a ++ l)) off n = slice (ofList l) (off - a.length) n := by
  refine List.map_congr_left fun i _ => ?_
  rw [ofList, ofList, List.getD_append_right _ _ _ _ (by omega)]
  congr 1
  omega

/-- A field past a prefix is that field of the rest. -/
lemma load32_ofList_append {a : List UInt8} {off : ℕ} (h : a.length ≤ off) (l : List UInt8) :
    load32 (ofList (a ++ l)) off = load32 (ofList l) (off - a.length) := by
  rw [load32, load32, slice_ofList_append h]

lemma load64_ofList_append {a : List UInt8} {off : ℕ} (h : a.length ≤ off) (l : List UInt8) :
    load64 (ofList (a ++ l)) off = load64 (ofList l) (off - a.length) := by
  rw [load64, load64, slice_ofList_append h]

/-- The field at the front of a block. -/
lemma slice_ofList_prefix (a l : List UInt8) : slice (ofList (a ++ l)) 0 a.length = a := by
  refine List.ext_getElem (by simp) fun i h1 h2 => ?_
  simp only [slice, ofList, Nat.zero_add, List.getElem_map, List.getElem_range]
  rw [List.getD_append _ _ _ _ h2, List.getD_eq_getElem _ _ h2]

/-- A block, read as a whole. -/
lemma slice_ofList_length (l : List UInt8) : slice (ofList l) 0 l.length = l := by
  simpa using slice_ofList_prefix l []

lemma load32_leBytes (v : UInt32) (l : List UInt8) :
    load32 (ofList (leBytes 4 v.toNat ++ l)) 0 = v := by
  have h := slice_ofList_prefix (leBytes 4 v.toNat) l
  rw [leBytes_length] at h
  have hv : v.toNat % 256 ^ 4 = v.toNat := Nat.mod_eq_of_lt v.toNat_lt
  rw [load32, h, leValue_leBytes, hv, UInt32.ofNat_toNat]

lemma load64_leBytes (v : UInt64) (l : List UInt8) :
    load64 (ofList (leBytes 8 v.toNat ++ l)) 0 = v := by
  have h := slice_ofList_prefix (leBytes 8 v.toNat) l
  rw [leBytes_length] at h
  have hv : v.toNat % 256 ^ 8 = v.toNat := Nat.mod_eq_of_lt v.toNat_lt
  rw [load64, h, leValue_leBytes, hv, UInt64.ofNat_toNat]

/-! ### Copying -/

/-- A copy of `src` to the offset `off` of a block. -/
def splice (l : List UInt8) (off : ℕ) (src : List UInt8) : List UInt8 :=
  l.take off ++ src ++ l.drop (off + src.length)

/-- A copy of `src` to the offset `off` of memory behind a pointer. -/
def write (m : Bytes) (off : ℕ) (src : List UInt8) : Bytes := fun j =>
  if off ≤ j ∧ j < off + src.length then src.getD (j - off) 0 else m j

lemma write_of_mem {m : Bytes} {off : ℕ} {src : List UInt8} {j : ℕ} (h : j < src.length) :
    write m off src (off + j) = ofList src j := by
  rw [write, if_pos (by omega), Nat.add_sub_cancel_left]; rfl

lemma write_of_notMem {m : Bytes} {off : ℕ} {src : List UInt8} {j : ℕ}
    (h : j < off ∨ off + src.length ≤ j) : write m off src j = m j :=
  if_neg (by omega)

lemma ofList_patch_of_lt {src c : List UInt8} {j : ℕ} (h : j < src.length) :
    ofList (patch src c) j = ofList src j := by
  rw [patch, ofList, ofList, List.getD_append _ _ _ _ h]

lemma ofList_patch_of_le {src c : List UInt8} {j : ℕ} (h : src.length ≤ j) :
    ofList (patch src c) j = ofList c j := by
  rw [patch, ofList, ofList, List.getD_append_right _ _ _ _ h, List.getD_eq_getElem?_getD,
    List.getElem?_drop, List.getD_eq_getElem?_getD]
  congr 3
  omega

/-! ### Arrays of fixed-size records -/

section Chunks

variable {n : ℕ} {L : List (List UInt8)}

lemma flatten_length (hL : ∀ c ∈ L, c.length = n) : L.flatten.length = L.length * n := by
  induction L with
  | nil => simp
  | cons c L ih =>
      have hc := hL c (by simp)
      rw [List.flatten_cons, List.length_append, hc, ih fun d hd => hL d (by simp [hd]),
        List.length_cons, Nat.succ_mul, Nat.add_comm]

lemma splice_append_right (a l : List UInt8) (off : ℕ) (src : List UInt8) :
    splice (a ++ l) (a.length + off) src = a ++ splice l off src := by
  rw [splice, splice, List.take_length_add_append, Nat.add_assoc, List.drop_length_add_append]
  simp

/-- A copy into the `i`-th record patches that record and no other. -/
lemma splice_flatten (hL : ∀ c ∈ L, c.length = n) {i : ℕ} (hi : i < L.length)
    {src : List UInt8} (hsrc : src.length ≤ n) :
    splice L.flatten (i * n) src = (L.modify i (patch src)).flatten := by
  induction L generalizing i with
  | nil => simp at hi
  | cons c L ih =>
      have hc := hL c (by simp)
      cases i with
      | zero =>
          simp only [Nat.zero_mul, splice, patch, List.take_zero, List.nil_append, Nat.zero_add,
            List.flatten_cons, List.modify_zero_cons, List.append_assoc]
          rw [List.drop_append_of_le_length (by omega)]
      | succ i =>
          have h := ih (fun d hd => hL d (by simp [hd])) (i := i) (by simpa using hi)
          rw [List.flatten_cons, List.modify_succ_cons, List.flatten_cons, ← h,
            show (i + 1) * n = c.length + i * n by rw [hc]; ring, splice_append_right]

/-- **The copy loop**: copying `src i` to the offset `i * n` for every `i` in turn patches every
record with its own source. -/
theorem foldl_splice_flatten (hL : ∀ c ∈ L, c.length = n) (src : ℕ → List UInt8)
    (hsrc : ∀ i, (src i).length ≤ n) :
    (List.range L.length).foldl (fun l i => splice l (i * n) (src i)) L.flatten
      = (L.mapIdx fun i c => patch (src i) c).flatten := by
  -- after `k` rounds the first `k` records are patched
  have key : ∀ k ≤ L.length,
      (List.range k).foldl (fun l i => splice l (i * n) (src i)) L.flatten
        = (L.mapIdx fun i c => if i < k then patch (src i) c else c).flatten := by
    intro k
    induction k with
    | zero =>
        intro _
        rw [List.range_zero, List.foldl_nil]
        exact congrArg List.flatten (List.ext_getElem (by simp) fun i h1 h2 => by simp)
    | succ k ih =>
        intro hk
        have huni : ∀ c ∈ L.mapIdx (fun i c => if i < k then patch (src i) c else c),
            c.length = n := by
          intro c hc
          obtain ⟨i, hi, rfl⟩ := List.mem_mapIdx.mp hc
          have hlen := hL L[i] (List.getElem_mem hi)
          split_ifs
          · rw [patch_length (by rw [hlen]; exact hsrc i), hlen]
          · exact hlen
        rw [List.range_succ, List.foldl_append, ih (by omega), List.foldl_cons, List.foldl_nil,
          splice_flatten huni (by simpa using hk) (hsrc k)]
        congr 1
        refine List.ext_getElem (by simp) fun i h1 h2 => ?_
        simp only [List.getElem_modify, List.getElem_mapIdx]
        rcases lt_trichotomy i k with h | rfl | h
        · simp [h, show k ≠ i by omega, show i < k + 1 by omega]
        · simp
        · simp [show ¬ i < k by omega, show k ≠ i by omega, show ¬ i < k + 1 by omega]
  rw [key L.length le_rfl]
  congr 1
  refine List.ext_getElem (by simp) fun i h1 h2 => ?_
  simp only [List.length_mapIdx] at h1
  simp [h1]

/-- Copying records into a zeroed array leaves the records. -/
lemma foldl_splice_replicate (count : ℕ) {src : ℕ → List UInt8} (hsrc : ∀ i, (src i).length = n) :
    (List.range count).foldl (fun l i => splice l (i * n) (src i)) (List.replicate (count * n) 0)
      = ((List.range count).map src).flatten := by
  have huni : ∀ c ∈ List.replicate count (List.replicate n (0 : UInt8)), c.length = n := by
    intro c hc
    rw [List.eq_of_mem_replicate hc, List.length_replicate]
  have h := foldl_splice_flatten huni src fun i => (hsrc i).le
  rw [List.length_replicate, List.flatten_replicate_replicate] at h
  rw [h]
  congr 1
  refine List.ext_getElem (by simp) fun i h1 h2 => ?_
  simp only [List.getElem_mapIdx, List.getElem_map, List.getElem_range]
  exact patch_eq_self (by simp [hsrc])

/-- A byte of the `i`-th record. -/
lemma ofList_flatten (hL : ∀ c ∈ L, c.length = n) {i j : ℕ} (hi : i < L.length) (hj : j < n) :
    ofList L.flatten (i * n + j) = ofList L[i] j := by
  induction L generalizing i with
  | nil => simp at hi
  | cons c L ih =>
      have hc := hL c (by simp)
      cases i with
      | zero =>
          simp only [ofList, Nat.zero_mul, Nat.zero_add, List.flatten_cons, List.getElem_cons_zero]
          rw [List.getD_append _ _ _ _ (by omega)]
      | succ i =>
          have h := ih (fun d hd => hL d (by simp [hd])) (i := i) (by simpa using hi)
          simp only [ofList, List.flatten_cons, List.getElem_cons_succ] at h ⊢
          rw [List.getD_append_right _ _ _ _ (by rw [hc]; nlinarith), ← h]
          congr 1
          rw [hc, Nat.succ_mul]
          omega

end Chunks

end ByteMemory
