import Mathlib.Tactic

/-!
The window of a ring buffer: the `count` entries from `head` on, read around a ring of `n`
slots.

A ring buffer that appends at `head + count` and takes from `head`, both modulo `n`, is a queue
of its window: an append below capacity adds one entry at the end (`window_update`), and taking
`k` entries drops the first `k` (`window_drop`).
-/

namespace RingWindow

variable {α : Type*} {n : ℕ} [NeZero n]

/-- The slot of the ring a running index falls on. -/
def slot (n : ℕ) [NeZero n] (i : ℕ) : Fin n := Fin.ofNat n i

@[simp] lemma slot_val (i : ℕ) : ((slot n i : Fin n) : ℕ) = i % n := rfl

lemma slot_eq_iff {i j : ℕ} : slot n i = slot n j ↔ i % n = j % n := by
  simp [Fin.ext_iff]

lemma slot_mod (i : ℕ) : slot n (i % n) = slot n i := by
  rw [slot_eq_iff, Nat.mod_mod]

lemma slot_mod_add (i j : ℕ) : slot n (i % n + j) = slot n (i + j) := by
  rw [slot_eq_iff, Nat.mod_add_mod]

/-- Fewer than `n` steps apart, two running indices fall on different slots. -/
lemma slot_ne_slot {h i j : ℕ} (hij : i < j) (hj : j < i + n) : slot n (h + i) ≠ slot n (h + j) := by
  intro heq
  have hmod : h + i ≡ h + j [MOD n] := slot_eq_iff.mp heq
  have hdvd : n ∣ j - i := (Nat.modEq_iff_dvd' hij.le).mp (Nat.ModEq.add_left_cancel' h hmod)
  exact absurd (Nat.le_of_dvd (by omega) hdvd) (by omega)

/-- The `count` entries of the ring from `head` on, oldest first. -/
def window (entries : Fin n → α) (head count : ℕ) : List α :=
  (List.range count).map fun i => entries (slot n (head + i))

variable {entries : Fin n → α} {head count : ℕ}

@[simp] lemma window_length : (window entries head count).length = count := by simp [window]

@[simp] lemma window_zero : window entries head 0 = [] := rfl

/-- The window of a reduced head is the window of the head. -/
lemma window_mod : window entries (head % n) count = window entries head count :=
  List.map_congr_left fun i _ => by rw [slot_mod_add]

/-- The window depends on the head modulo the ring. -/
lemma window_congr_head {head' : ℕ} (h : head % n = head' % n) :
    window entries head count = window entries head' count := by
  rw [← window_mod, h, window_mod]

/-- Dropping the `k` oldest entries moves the head by `k`. -/
lemma window_drop {k : ℕ} :
    (window entries head count).drop k = window entries (head + k) (count - k) := by
  refine List.ext_getElem (by simp) fun i h1 h2 => ?_
  simp only [window, List.getElem_drop, List.getElem_map, List.getElem_range]
  congr 2
  omega

/-- An append below capacity: the new entry comes last and nothing pending is overwritten. -/
lemma window_update (hcount : count < n) (x : α) :
    window (Function.update entries (slot n (head + count)) x) head (count + 1)
      = window entries head count ++ [x] := by
  rw [window, List.range_succ, List.map_append, List.map_singleton, Function.update_self]
  refine congrArg (· ++ [x]) (List.map_congr_left fun i hi => ?_)
  have hi' := List.mem_range.mp hi
  exact Function.update_of_ne (slot_ne_slot hi' (by omega)) _ _

end RingWindow
