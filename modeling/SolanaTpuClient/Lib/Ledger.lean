import Mathlib.Tactic
import Mathlib.Data.Multiset.Range

/-!
The ledger of an allocator: which blocks are live, which have been freed, and which frees were
of a block that was not live.

Blocks are numbered in the order they are allocated, so a number names one allocation and is
never used again; freeing a stale pointer is a fault even where the allocator has handed the
same address out once more. `Owns l M` says that `M` is exactly what is live: the blocks of `M`
together with those freed so far are the blocks ever allocated, each once, and no free was a
fault. It is kept by `alloc` (`Owns.alloc`) and by freeing a block of `M` (`Owns.free`).
-/

/-- The ledger of an allocator. -/
structure Ledger where
  /-- the number the next block gets -/
  next : ℕ
  live : Finset ℕ
  /-- the blocks freed so far, newest first -/
  freed : List ℕ
  /-- the frees of a block that was not live, newest first -/
  faults : List ℕ
deriving DecidableEq

namespace Ledger

/-- No block has been allocated. -/
def empty : Ledger := ⟨0, ∅, [], []⟩

/-- The block `l.next` comes to life. -/
def alloc (l : Ledger) : Ledger :=
  { l with next := l.next + 1, live := insert l.next l.live }

/-- A free of a pointer; freeing a null pointer has no effect. -/
def free (l : Ledger) : Option ℕ → Ledger
  | none => l
  | some b =>
      if b ∈ l.live then { l with live := l.live.erase b, freed := b :: l.freed }
      else { l with faults := b :: l.faults }

/-- Frees of several pointers, in order. -/
def freeAll (l : Ledger) (ps : List (Option ℕ)) : Ledger := ps.foldl free l

/-- The block a pointer points to, none if it is null. -/
def blocksOf (p : Option ℕ) : Multiset ℕ := p.toList

/-- The blocks several pointers point to. -/
def blocksOfAll (ps : List (Option ℕ)) : Multiset ℕ := (ps.map blocksOf).sum

@[simp] lemma free_none (l : Ledger) : l.free none = l := rfl

@[simp] lemma blocksOf_none : blocksOf none = 0 := rfl

@[simp] lemma blocksOf_some (b : ℕ) : blocksOf (some b) = {b} := rfl

@[simp] lemma blocksOfAll_nil : blocksOfAll [] = 0 := rfl

@[simp] lemma blocksOfAll_cons (p : Option ℕ) (ps : List (Option ℕ)) :
    blocksOfAll (p :: ps) = blocksOf p + blocksOfAll ps := by
  simp [blocksOfAll]

@[simp] lemma blocksOfAll_append (ps qs : List (Option ℕ)) :
    blocksOfAll (ps ++ qs) = blocksOfAll ps + blocksOfAll qs := by
  simp [blocksOfAll]

/-- Overwriting a null pointer adds what the new pointer points to. -/
lemma blocksOfAll_set {ps : List (Option ℕ)} {i : ℕ} (h : ps[i]? = some none) (p : Option ℕ) :
    blocksOfAll (ps.set i p) = blocksOf p + blocksOfAll ps := by
  induction ps generalizing i with
  | nil => simp at h
  | cons q ps ih =>
      cases i with
      | zero =>
          obtain rfl : q = none := by simpa using h
          rw [List.set_cons_zero, blocksOfAll_cons, blocksOfAll_cons, blocksOf_none, zero_add]
      | succ i =>
          rw [List.set_cons_succ, blocksOfAll_cons, ih (by simpa using h), blocksOfAll_cons,
            add_left_comm]

@[simp] lemma freeAll_nil (l : Ledger) : l.freeAll [] = l := rfl

@[simp] lemma freeAll_cons (l : Ledger) (p : Option ℕ) (ps : List (Option ℕ)) :
    l.freeAll (p :: ps) = (l.free p).freeAll ps := rfl

lemma freeAll_append (l : Ledger) (ps qs : List (Option ℕ)) :
    l.freeAll (ps ++ qs) = (l.freeAll ps).freeAll qs := List.foldl_append

/-- **The ledger invariant**: the live blocks are those of `M`, every block ever allocated is in
`M` or has been freed, in all exactly once, and no free was a fault. -/
structure Owns (l : Ledger) (M : Multiset ℕ) : Prop where
  live_eq : l.live = M.toFinset
  total : M + (l.freed : Multiset ℕ) = Multiset.range l.next
  clean : l.faults = []

variable {l : Ledger} {M N : Multiset ℕ} {b : ℕ}

lemma owns_empty : empty.Owns 0 := ⟨rfl, rfl, rfl⟩

lemma Owns.congr (h : l.Owns M) (hMN : M = N) : l.Owns N := hMN ▸ h

/-- Live and freed blocks are pairwise distinct. -/
lemma Owns.nodup_total (h : l.Owns M) : (M + (l.freed : Multiset ℕ)).Nodup :=
  h.total ▸ Multiset.nodup_range _

/-- No block is owned twice. -/
lemma Owns.nodup (h : l.Owns M) : M.Nodup := (Multiset.nodup_add.mp h.nodup_total).1

/-- No block has been freed twice. -/
lemma Owns.freed_nodup (h : l.Owns M) : l.freed.Nodup :=
  Multiset.coe_nodup.mp (Multiset.nodup_add.mp h.nodup_total).2.1

/-- Allocation adds a block that was never seen before. -/
lemma Owns.alloc (h : l.Owns M) : l.alloc.Owns (l.next ::ₘ M) where
  live_eq := by simp [Ledger.alloc, h.live_eq]
  total := by
    rw [Multiset.cons_add, Ledger.alloc, h.total, Multiset.range_succ]
  clean := h.clean

/-- Freeing an owned block removes it and nothing else. -/
lemma Owns.free_some (h : l.Owns (b ::ₘ M)) : (l.free (some b)).Owns M := by
  have hnd := Multiset.nodup_cons.mp h.nodup
  have hmem : b ∈ l.live := by rw [h.live_eq]; simp
  have hfree : l.free (some b) = { l with live := l.live.erase b, freed := b :: l.freed } := by
    rw [Ledger.free, if_pos hmem]
  rw [hfree]
  refine ⟨?_, ?_, h.clean⟩
  · rw [h.live_eq, Multiset.toFinset_cons,
      Finset.erase_insert (by simpa using hnd.1)]
  · rw [← h.total, Multiset.cons_add, ← Multiset.cons_coe, Multiset.add_cons]

/-- Freeing a pointer to an owned block, or a null one. -/
lemma Owns.free {p : Option ℕ} (h : l.Owns (blocksOf p + M)) : (l.free p).Owns M := by
  cases p with
  | none => simpa using h
  | some b => exact Owns.free_some (by simpa using h)

lemma Owns.freeAll {ps : List (Option ℕ)} (h : l.Owns (blocksOfAll ps + M)) :
    (l.freeAll ps).Owns M := by
  induction ps generalizing l with
  | nil => simpa using h
  | cons p ps ih =>
      rw [blocksOfAll_cons, add_assoc] at h
      exact ih h.free

/-- A ledger that owns nothing has freed every block it ever allocated exactly once. -/
lemma Owns.freed_eq_range (h : l.Owns 0) : (l.freed : Multiset ℕ) = Multiset.range l.next := by
  simpa using h.total

end Ledger
