import SolanaTpuClient.Lib.ByteMemory

/-!
Little-endian words that are assembled and taken apart by shifts.

A program that reads a word byte by byte shifts every byte to its place and joins them with a
bitwise or; one that writes it shifts the word down and keeps the low byte. `leValue_cons_or` says
that joining by or adds up the value of a byte string, `leBytes_eq_map` that the byte `i` of a word
is the word divided by `256 ^ i`, and `foldl_set_range` that a loop of single writes is one copy.
-/

namespace ByteMemory

/-! ### Assembling -/

/-- The bytes above the first join it without overlap. -/
lemma leValue_cons_or (b : UInt8) (l : List UInt8) :
    leValue (b :: l) = b.toNat ||| leValue l <<< 8 := by
  have hb : b.toNat < 2 ^ 8 := b.toNat_lt
  calc leValue (b :: l) = leValue l <<< 8 + b.toNat := by
        rw [leValue, Nat.shiftLeft_eq]
        omega
    _ = leValue l <<< 8 ||| b.toNat := Nat.shiftLeft_add_eq_or_of_lt hb _
    _ = b.toNat ||| leValue l <<< 8 := Nat.or_comm _ _

/-- A byte that is shifted to one of the eight places of a word loses no bit. -/
lemma toNat_toUInt64_shiftLeft (b : UInt8) {k : UInt64} (hk : k.toNat ≤ 56) :
    (b.toUInt64 <<< k).toNat = b.toNat <<< k.toNat := by
  have hb : b.toNat < 2 ^ 8 := b.toNat_lt
  have hmod : k.toNat % 64 = k.toNat := Nat.mod_eq_of_lt (by omega)
  have hpow : 2 ^ k.toNat ≤ 2 ^ 56 := Nat.pow_le_pow_right (by omega) hk
  rw [UInt64.toNat_shiftLeft, UInt8.toNat_toUInt64, hmod, Nat.shiftLeft_eq]
  refine Nat.mod_eq_of_lt ?_
  calc b.toNat * 2 ^ k.toNat < 2 ^ 8 * 2 ^ k.toNat := by
        exact Nat.mul_lt_mul_of_pos_right hb (Nat.two_pow_pos _)
    _ ≤ 2 ^ 8 * 2 ^ 56 := Nat.mul_le_mul_left _ hpow
    _ = 2 ^ 64 := by norm_num

/-! ### Taking apart -/

/-- The byte `i` of a number is what is left of it after a division by `256 ^ i`. -/
lemma leBytes_eq_map (k n : ℕ) :
    leBytes k n = (List.range k).map fun i => UInt8.ofNat (n / 256 ^ i) := by
  induction k generalizing n with
  | zero => rfl
  | succ k ih =>
      rw [leBytes, List.range_succ_eq_map, List.map_cons, List.map_map, ih, pow_zero, Nat.div_one]
      congr 1
      refine List.map_congr_left fun i _ => ?_
      rw [Function.comp_apply, Nat.succ_eq_add_one, pow_succ', Nat.div_div_eq_div_mul]

/-- The byte a store writes to the place `i` of a word. -/
lemma toUInt8_shiftRight (value : UInt64) {i : ℕ} (hi : i < 8) :
    (value >>> UInt64.ofNat (i * 8)).toUInt8 = UInt8.ofNat (value.toNat / 256 ^ i) := by
  have hplace : (UInt64.ofNat (i * 8)).toNat = i * 8 := by
    rw [UInt64.toNat_ofNat']
    omega
  have hpow : (2 : ℕ) ^ (i * 8) = 256 ^ i := by
    rw [Nat.mul_comm, pow_mul]
    norm_num
  have hsmall : i * 8 % 64 = i * 8 := Nat.mod_eq_of_lt (by omega)
  apply UInt8.toNat_inj.mp
  rw [UInt64.toNat_toUInt8, UInt64.toNat_shiftRight, hplace, hsmall, Nat.shiftRight_eq_div_pow,
    hpow, UInt8.toNat_ofNat']

/-- A loop that writes one byte a round behind the offset `off` leaves a copy there. -/
lemma foldl_set_range (f : ℕ → UInt8) (l : List UInt8) (off : ℕ) {n : ℕ}
    (h : off + n ≤ l.length) :
    (List.range n).foldl (fun l i => l.set (off + i) (f i)) l
      = splice l off ((List.range n).map f) := by
  induction n with
  | zero => simp [splice]
  | succ n ih =>
      have hlen : (l.take off).length = off := by
        rw [List.length_take]
        omega
      have hrest : l.drop (off + n) = l[off + n] :: l.drop (off + n + 1) :=
        List.drop_eq_getElem_cons (by omega)
      rw [List.range_succ, List.foldl_append, ih (by omega), List.foldl_cons, List.foldl_nil,
        List.map_append, List.map_cons, List.map_nil, splice, splice]
      simp only [List.length_append, List.length_map, List.length_range, List.length_singleton]
      rw [hrest, List.append_assoc, List.set_append_right _ _ (by omega), hlen,
        Nat.add_sub_cancel_left, List.set_append_right _ _ (by simp), List.length_map,
        List.length_range, Nat.sub_self, List.set_cons_zero, ← Nat.add_assoc]
      simp only [List.append_assoc, List.singleton_append]

end ByteMemory
