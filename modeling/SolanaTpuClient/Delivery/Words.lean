import SolanaTpuClient.Lib.RecordLayout
import SolanaTpuClient.Lib.Traps
import SolanaTpuClient.Delivery.Topology

/-!
The array functions of `src/solana_delivery.c` on words: `array_layout_is_valid`, `array_element`
and `clone_array` where `size_t` and `uintptr_t` have any number `W` of bits.

Every `size_t` is a `BitVec W` here, the arithmetic wraps, and what C leaves undefined has no value:
a division by zero, and a copy past the end of the memory behind a pointer. The functions of
`Delivery/Validate.lean` and `Delivery/Topology.lean` compute the same on numbers
(`arrayLayoutIsValidWord_eq`, `cloneArrayWord_refines`).

The checks ask for the prefix of a record up to its last known field and the copies take `sizeof`
bytes; for the four record types of a topology the two are one number
(`recordSize_topologyRecords`).
-/

namespace SolanaTpuClient

open ByteMemory OutputBuffer Procedure RecordLayout StridedArray Traps

/-! ### The functions -/

/-- The conversion of a `uint32_t` to `size_t`. -/
def toSize (W : ℕ) (x : UInt32) : BitVec W := x.toBitVec.setWidth W

/-- `pointer_is_aligned` -/
def pointerIsAlignedWord {W : ℕ} (pointer alignment : BitVec W) : Option Bool :=
  if alignment = 0 then some false
  else do
    let r ← remainder pointer alignment
    return r == 0

/-- `array_layout_is_valid` -/
def arrayLayoutIsValidWord {W : ℕ} (base : BitVec W) (count stride : UInt32)
    (minimumElementSize elementAlignment : BitVec W) : Option Bool :=
  if count = 0 then some true
  else if base = 0 ∨ toSize W stride < minimumElementSize then some false
  else do
    let aligned ← pointerIsAlignedWord base elementAlignment
    if aligned = false then return false
    else
      let r ← remainder (toSize W stride) elementAlignment
      if r ≠ 0 then return false
      else
        let finalIndex := toSize W count - 1
        let strideSize := toSize W stride
        let limit ← divide (BitVec.allOnes W - minimumElementSize) strideSize
        if finalIndex > limit then return false
        else return true

/-- The offset `array_element` adds to its base. -/
def arrayElementOffset (W : ℕ) (index stride : UInt32) : BitVec W :=
  toSize W index * toSize W stride

/-- `clone_array`. `granted` says whether `calloc_fn` returns a block, and `source` are the bytes
that may be read behind the source pointer. Every caller passes a non-null `out_array`. -/
def cloneArrayWord {W : ℕ} (allocator : Allocator) (granted : Bool) (source : List UInt8)
    (count sourceStride : UInt32) (elementSize : BitVec W) :
    Option (Status × Option (List UInt8)) :=
  if allocatorIsValid (some allocator) = false ∨ elementSize = 0 then
    some (Status.internalError, none)
  else if count = 0 then some (Status.ok, none)
  else do
    let limit ← divide (BitVec.allOnes W) elementSize
    if toSize W count > limit then return (Status.resourceExhausted, none)
    else if granted = false then return (Status.resourceExhausted, none)
    else
      let copy := List.replicate (toSize W count * elementSize).toNat 0
      let copy ← copyRecords source
        (fun i => (arrayElementOffset W (UInt32.ofNat i) sourceStride).toNat)
        (fun i => (toSize W (UInt32.ofNat i) * elementSize).toNat) elementSize.toNat count.toNat
        copy
      return (Status.ok, some copy)

/-! ### The record types -/

/-- The fields of `solana_delivery_validator_t`. -/
def Validator.fields : List Field := [⟨4, 4⟩, ⟨4, 4⟩, ⟨32, 1⟩, ⟨8, 1⟩]

/-- The fields of `solana_delivery_endpoint_t`. -/
def Endpoint.fields : List Field :=
  [⟨4, 4⟩, ⟨1, 1⟩, ⟨1, 1⟩, ⟨1, 1⟩, ⟨1, 1⟩, ⟨2, 2⟩, ⟨2, 2⟩, ⟨16, 1⟩, ⟨4, 1⟩]

/-- The fields of `solana_delivery_validator_endpoint_t`. -/
def ValidatorEndpoint.fields : List Field := [⟨4, 4⟩, ⟨4, 4⟩, ⟨4, 4⟩, ⟨4, 4⟩]

/-- The fields of `solana_delivery_leader_t` where a `uint64_t` is aligned to `a` bytes. -/
def Leader.fields (a : ℕ) : List Field := [⟨4, 4⟩, ⟨4, 4⟩, ⟨8, a⟩, ⟨8, a⟩, ⟨8, a⟩]

/-- `STRUCT_MIN_SIZE` of the last field of a record. -/
def structMinSize (fields : List Field) : ℕ := recordEnd fields 0

/-- The four record types of a topology. -/
def topologyRecords (a : ℕ) : List (List Field) :=
  [Validator.fields, Endpoint.fields, ValidatorEndpoint.fields, Leader.fields a]

/-- The last field of a leader record ends where the record does, on every ABI that aligns a
`uint64_t` to a divisor of its size. -/
lemma structMinSize_leader {a : ℕ} (ha : a ∣ 8) :
    structMinSize (Leader.fields a) = Leader.size := by
  have hpos : 0 < a := Nat.pos_of_dvd_of_pos ha (by omega)
  have h16 : a ∣ 16 := ha.trans (by omega)
  have h24 : a ∣ 24 := ha.trans (by omega)
  simp only [structMinSize, Leader.fields, recordEnd]
  rw [alignUp_of_dvd (by omega) (dvd_zero 4), alignUp_of_dvd (by omega) (dvd_refl 4),
    alignUp_of_dvd hpos ha, alignUp_of_dvd hpos h16, alignUp_of_dvd hpos h24]
  rfl

lemma recordAlign_leader {a : ℕ} (ha : a ∣ 8) : recordAlign (Leader.fields a) ∣ Leader.size := by
  have hle : a ≤ 8 := Nat.le_of_dvd (by omega) ha
  have hmax : recordAlign (Leader.fields a) = max 4 a := by
    simp only [recordAlign, Leader.fields, List.map_cons, List.map_nil, List.foldr_cons,
      List.foldr_nil]
    omega
  rw [hmax, Leader.size]
  rcases le_total a 4 with h4 | h4
  · rw [max_eq_left h4]
    omega
  · rw [max_eq_right h4]
    exact ha.trans (by omega)

/-- No record of a topology has padding at its end, so a record of the required prefix is whole. -/
lemma recordSize_topologyRecords {a : ℕ} (ha : a ∣ 8) :
    ∀ fields ∈ topologyRecords a, recordSize fields = structMinSize fields := by
  intro fields hfields
  refine recordSize_eq_recordEnd ?_
  rw [topologyRecords, List.mem_cons, List.mem_cons, List.mem_cons, List.mem_singleton] at hfields
  rcases hfields with rfl | rfl | rfl | rfl
  · decide
  · decide
  · decide
  · have hend := structMinSize_leader ha
    rw [structMinSize] at hend
    rw [hend]
    exact recordAlign_leader ha

/-- The sizes are those that the checks and the copies use. -/
lemma structMinSize_topologyRecords {a : ℕ} (ha : a ∣ 8) :
    (topologyRecords a).map structMinSize
      = [Validator.size, Endpoint.size, ValidatorEndpoint.size, Leader.size] := by
  simp only [topologyRecords, List.map_cons, List.map_nil, structMinSize_leader ha]
  rfl

/-! ### The layout check -/

section Layout

variable {W : ℕ} (hW : 32 ≤ W)
include hW

/-- A `size_t` holds every `uint32_t`. -/
lemma toNat_toSize (x : UInt32) : (toSize W x).toNat = x.toNat := by
  have hlt : x.toNat < 2 ^ 32 := x.toNat_lt
  have hpow : (2 : ℕ) ^ 32 ≤ 2 ^ W := Nat.pow_le_pow_right (by omega) hW
  rw [toSize, BitVec.toNat_setWidth, UInt32.toNat_toBitVec, Nat.mod_eq_of_lt (by omega)]

lemma toNat_toSize_ofNat {count : UInt32} {i : ℕ} (hi : i < count.toNat) :
    (toSize W (UInt32.ofNat i)).toNat = i := by
  have hlt : count.toNat < 2 ^ 32 := count.toNat_lt
  rw [toNat_toSize hW, UInt32.toNat_ofNat', Nat.mod_eq_of_lt (by omega)]

omit hW in
/-- The alignment check on words divides by its alignment only when that is not zero. -/
lemma pointerIsAlignedWord_eq (pointer alignment : BitVec W) :
    pointerIsAlignedWord pointer alignment
      = some (pointerIsAligned pointer.toNat alignment.toNat) := by
  rw [pointerIsAlignedWord, pointerIsAligned]
  by_cases h : alignment = 0
  · rw [if_pos h, toNat_eq_zero_iff.mpr h]
    rfl
  · have hne : (alignment.toNat != 0) = true := bne_iff_ne.mpr (mt toNat_eq_zero_iff.mp h)
    have hmod : (pointer % alignment == 0) = (pointer.toNat % alignment.toNat == 0) := by
      rw [Bool.eq_iff_iff, beq_iff_eq, beq_iff_eq, ← toNat_eq_zero_iff, BitVec.toNat_umod]
    rw [if_neg h, remainder_of_ne_zero h, hne, Bool.true_and, ← hmod]
    rfl

lemma toSize_lt_iff (x : UInt32) (m : BitVec W) : toSize W x < m ↔ x.toNat < m.toNat := by
  rw [BitVec.lt_def, toNat_toSize hW]

lemma toSize_umod_eq_zero_iff (x : UInt32) (a : BitVec W) :
    toSize W x % a = 0 ↔ x.toNat % a.toNat = 0 := by
  rw [← toNat_eq_zero_iff, BitVec.toNat_umod, toNat_toSize hW]

/-- The guard on words is the guard on numbers. -/
lemma finalIndex_gt_iff {count stride : UInt32} (hcount : count ≠ 0) (m : BitVec W) :
    toSize W count - 1 > (BitVec.allOnes W - m) / toSize W stride
      ↔ count.toNat - 1 > (sizeMax W - m.toNat) / stride.toNat := by
  have hcount' : count.toNat ≠ 0 := fun h => hcount (UInt32.toNat_inj.mp h)
  have hone : (1 : BitVec W).toNat = 1 := BitVec.toNat_one (by omega)
  have hle : (1 : BitVec W) ≤ toSize W count := by
    rw [BitVec.le_def, hone, toNat_toSize hW]
    omega
  have hm : m ≤ BitVec.allOnes W := by
    rw [BitVec.le_def, BitVec.toNat_allOnes]
    omega
  rw [gt_iff_lt, BitVec.lt_def, BitVec.toNat_udiv, BitVec.toNat_sub_of_le hm,
    BitVec.toNat_sub_of_le hle, BitVec.toNat_allOnes, toNat_toSize hW, toNat_toSize hW, hone,
    sizeMax, gt_iff_lt]

/-- **The layout check is free of division by zero**, and computes what it computes on numbers. -/
lemma arrayLayoutIsValidWord_eq (base : BitVec W) (count stride : UInt32) {m : BitVec W}
    (hm : m ≠ 0) (a : BitVec W) :
    arrayLayoutIsValidWord base count stride m a
      = some (arrayLayoutIsValid W base.toNat count stride m.toNat a.toNat) := by
  rw [arrayLayoutIsValidWord, arrayLayoutIsValid]
  by_cases hcount : count = 0
  · rw [if_pos hcount, if_pos hcount]
  rw [if_neg hcount, if_neg hcount]
  have hfirst : base = 0 ∨ toSize W stride < m ↔ base.toNat = 0 ∨ stride.toNat < m.toNat := by
    rw [toNat_eq_zero_iff, toSize_lt_iff hW]
  by_cases hbase : base = 0 ∨ toSize W stride < m
  · have hnumbers := hfirst.mp hbase
    rw [if_pos hbase, if_pos (by tauto)]
  rw [if_neg hbase, pointerIsAlignedWord_eq, Option.bind_eq_bind, Option.bind_some]
  have hnumbers := mt hfirst.mpr hbase
  cases haligned : pointerIsAligned base.toNat a.toNat with
  | false => rw [if_pos rfl, if_pos (by simp)]; rfl
  | true =>
      -- the two divisors are not zero, because of what has been checked before
      have ha : a ≠ 0 := by
        rintro rfl
        simp [pointerIsAligned] at haligned
      have hstride : toSize W stride ≠ 0 := by
        have hpos := toNat_pos hm
        rw [ne_eq, ← toNat_eq_zero_iff, toNat_toSize hW]
        omega
      have hmod := toSize_umod_eq_zero_iff hW stride a
      rw [if_neg (by simp), remainder_of_ne_zero ha, Option.bind_eq_bind, Option.bind_some]
      by_cases hrem : toSize W stride % a = 0
      · have hpassed : ¬(base.toNat = 0 ∨ stride.toNat < m.toNat ∨ ¬true = true ∨
            stride.toNat % a.toNat ≠ 0) := by
          rintro (hnull | hshort | halign | hgaps)
          · exact hnumbers (Or.inl hnull)
          · exact hnumbers (Or.inr hshort)
          · exact halign rfl
          · exact hgaps (hmod.mp hrem)
        rw [if_neg (not_not.mpr hrem), if_neg hpassed]
        simp only [divide_of_ne_zero hstride, Option.bind_some, finalIndex_gt_iff hW hcount]
        split_ifs <;> rfl
      · rw [if_pos hrem, if_pos (Or.inr (Or.inr (Or.inr (mt hmod.mpr hrem))))]
        rfl

end Layout

/-! ### The copy -/

section Copy

variable {W : ℕ} {count stride : UInt32} {m : BitVec W}

/-- The guard of `clone_array` lets through the products that fit. -/
lemma count_gt_iff (hW : 32 ≤ W) (hm : m ≠ 0) :
    toSize W count > BitVec.allOnes W / m ↔ ¬count.toNat * m.toNat ≤ sizeMax W := by
  rw [gt_iff_lt, BitVec.lt_def, BitVec.toNat_udiv, BitVec.toNat_allOnes, toNat_toSize hW,
    ← Nat.le_div_iff_mul_le (toNat_pos hm), sizeMax, not_le]

/-- The size of a copy that passes the guard does not wrap. -/
lemma toNat_count_mul (hW : 32 ≤ W) (hfit : count.toNat * m.toNat ≤ sizeMax W) :
    (toSize W count * m).toNat = count.toNat * m.toNat := by
  rw [toNat_mul_of_lt, toNat_toSize hW]
  rw [toNat_toSize hW]
  exact le_sizeMax_iff.mp hfit

/-- The destination of an element of such a copy does not wrap. -/
lemma toNat_index_mul (hW : 32 ≤ W) (hfit : count.toNat * m.toNat ≤ sizeMax W) {i : ℕ}
    (hi : i < count.toNat) : (toSize W (UInt32.ofNat i) * m).toNat = i * m.toNat := by
  have hle : i * m.toNat ≤ count.toNat * m.toNat := Nat.mul_le_mul_right _ hi.le
  rw [toNat_mul_of_lt, toNat_toSize_ofNat hW hi]
  rw [toNat_toSize_ofNat hW hi]
  exact le_sizeMax_iff.mp (hle.trans hfit)

/-- The source offset of an element is the number of `Delivery/Validate.lean`. -/
lemma toNat_arrayElementOffset (hW : 32 ≤ W) {i : ℕ} (hi : i < count.toNat) :
    (arrayElementOffset W (UInt32.ofNat i) stride).toNat = arrayOffset W i stride := by
  rw [arrayElementOffset, BitVec.toNat_mul, toNat_toSize_ofNat hW hi, toNat_toSize hW, arrayOffset]

section Valid

variable {allocator : Allocator} (hvalid : allocatorIsValid (some allocator) = true) (hm : m ≠ 0)
include hvalid hm

lemma not_unchecked : ¬(allocatorIsValid (some allocator) = false ∨ m = 0) := by
  rintro (hinvalid | hzero)
  · rw [hvalid] at hinvalid
    cases hinvalid
  · exact hm hzero

lemma cloneArrayWord_of_empty (hcount : count = 0) (granted : Bool) (source : List UInt8) :
    cloneArrayWord allocator granted source count stride m = some (Status.ok, none) := by
  rw [cloneArrayWord, if_neg (not_unchecked hvalid hm), if_pos hcount]

/-- A copy whose size would wrap is refused. -/
lemma cloneArrayWord_of_wrap (hW : 32 ≤ W) (hcount : count ≠ 0)
    (hwrap : ¬count.toNat * m.toNat ≤ sizeMax W) (granted : Bool) (source : List UInt8) :
    cloneArrayWord allocator granted source count stride m
      = some (Status.resourceExhausted, none) := by
  rw [cloneArrayWord, if_neg (not_unchecked hvalid hm), if_neg hcount, divide_of_ne_zero hm,
    Option.bind_eq_bind, Option.bind_some, if_pos ((count_gt_iff hW hm).mpr hwrap)]
  rfl

/-- A copy that passes the guard moves the records to offsets that do not wrap. -/
lemma cloneArrayWord_of_fit (hW : 32 ≤ W) (hcount : count ≠ 0)
    (hfit : count.toNat * m.toNat ≤ sizeMax W) (granted : Bool) (source : List UInt8) :
    cloneArrayWord allocator granted source count stride m
      = if granted = true then
          (copyRecords source (fun i => arrayOffset W i stride) (fun i => i * m.toNat) m.toNat
            count.toNat (List.replicate (count.toNat * m.toNat) 0)).map fun copy =>
              (Status.ok, some copy)
        else some (Status.resourceExhausted, none) := by
  have hguard : ¬toSize W count > BitVec.allOnes W / m := by
    rw [count_gt_iff hW hm]
    exact not_not.mpr hfit
  have hfrom : ∀ i < count.toNat,
      (arrayElementOffset W (UInt32.ofNat i) stride).toNat = arrayOffset W i stride :=
    fun i hi => toNat_arrayElementOffset hW hi
  have hcopy := copyRecords_congr (n := m.toNat) hfrom (fun i hi => toNat_index_mul hW hfit hi)
    source (List.replicate (count.toNat * m.toNat) 0)
  rw [cloneArrayWord, if_neg (not_unchecked hvalid hm), if_neg hcount, divide_of_ne_zero hm,
    Option.bind_eq_bind, Option.bind_some, if_neg hguard]
  cases granted with
  | false => rfl
  | true =>
      simp only [Bool.true_eq_false, if_false, if_true, toNat_count_mul hW hfit, hcopy,
        Option.bind_eq_bind, Option.map_eq_bind]
      rfl

/-- **A copy between blocks that are large enough** stays inside both, and holds the elements. -/
lemma cloneArrayWord_of_granted (hW : 32 ≤ W) (hcount : count ≠ 0)
    (hfit : count.toNat * m.toNat ≤ sizeMax W) {source : List UInt8}
    (hread : ∀ i < count.toNat, arrayOffset W i stride + m.toNat ≤ source.length) :
    cloneArrayWord allocator true source count stride m
      = some (Status.ok, some ((List.range count.toNat).map fun i =>
          slice (ofList source) (arrayOffset W i stride) m.toNat).flatten) := by
  have hroom : ∀ i < count.toNat, i * m.toNat + m.toNat
      ≤ (List.replicate (count.toNat * m.toNat) (0 : UInt8)).length := by
    intro i hi
    rw [List.length_replicate, ← Nat.succ_mul]
    exact Nat.mul_le_mul_right _ hi
  rw [cloneArrayWord_of_fit hvalid hm hW hcount hfit, if_pos rfl,
    copyRecords_eq_some hread hroom, foldl_splice_replicate _ fun _ => slice_length _ _ _,
    Option.map_some]

end Valid

/-- What a copy on words returns, as the postconditions of the copy on numbers. -/
def Returns (result : Option (Status × Option (List UInt8)))
    (x : EStateM Status World (Option (Block (List UInt8)))) (w : World) : Prop :=
  ∀ status copy, result = some (status, copy) →
    Ensures x w (fun p _ => status = Status.ok ∧ copy = p.map Block.data)
      (fun e _ => status = e ∧ copy = none)

/-- **The copy of the LP64 ABI**: where `clone_array` on words is defined, it returns the status and
the contents of `clone_array` on numbers. -/
theorem cloneArrayWord_refines (allocator : Allocator) (source : List UInt8) {n : ℕ} (w : World)
    (hn : n ≤ sizeMax wordBits) :
    Returns (cloneArrayWord allocator (w.answers.calloc w.callocCalls).isSome source count stride
      (BitVec.ofNat wordBits n)) (cloneArray allocator (ofList source) count stride n) w := by
  have hW : 32 ≤ wordBits := by decide
  have hsize : (BitVec.ofNat wordBits n).toNat = n := by
    rw [BitVec.toNat_ofNat, Nat.mod_eq_of_lt (le_sizeMax_iff.mp hn)]
  have hzero : BitVec.ofNat wordBits n = 0 ↔ n = 0 := by
    rw [← toNat_eq_zero_iff, hsize]
  intro status copy h
  rw [cloneArray, ensures_bind, ensures_require]
  refine ⟨fun hchecked => ?_, fun hchecked => ?_⟩
  · obtain ⟨hvalid, hn0⟩ := hchecked
    have hm := mt hzero.mp hn0
    by_cases hcount : count = 0
    · rw [cloneArrayWord_of_empty hvalid hm hcount] at h
      cases h
      rw [if_pos hcount]
      exact ⟨rfl, rfl⟩
    rw [if_neg hcount, ensures_bind, ensures_require,
      Nat.le_div_iff_mul_le (Nat.pos_of_ne_zero hn0)]
    refine ⟨fun hfit => ?_, fun hwrap => ?_⟩
    · rw [← hsize] at hfit
      rw [cloneArrayWord_of_fit hvalid hm hW hcount hfit] at h
      cases hcalloc : w.answers.calloc w.callocCalls with
      | none =>
          rw [hcalloc] at h
          cases h
          exact ensures_bind.mpr (ensures_of_ok (World.calloc_of_none hcalloc) ⟨rfl, rfl⟩)
      | some addr =>
          rw [hcalloc, if_pos Option.isSome_some, Option.map_eq_some_iff] at h
          obtain ⟨c, hcopied, hresult⟩ := h
          cases hresult
          refine ensures_bind.mpr (ensures_of_ok (World.calloc_of_some hcalloc) ⟨rfl, ?_⟩)
          rw [copyRecords_value hcopied, hsize]
          simp only [Option.map_some, copyElements, arrayElement, slice_shift]
    · rw [← hsize] at hwrap
      rw [cloneArrayWord_of_wrap hvalid hm hW hcount hwrap] at h
      cases h
      exact ⟨rfl, rfl⟩
  · have hrejected : allocatorIsValid (some allocator) = false ∨ BitVec.ofNat wordBits n = 0 := by
      rw [hzero]
      by_contra hnot
      rw [not_or, Bool.not_eq_false] at hnot
      exact hchecked hnot
    rw [cloneArrayWord, if_pos hrejected] at h
    cases h
    exact ⟨rfl, rfl⟩

end Copy

end SolanaTpuClient
