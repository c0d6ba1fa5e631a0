import Mathlib.Tactic
import SolanaTpuClient.Lib.Loops

/-!
Writing a list into the front of a buffer.

A loop that fills caller storage keeps a buffer and the number of entries written so far, and
`emit`s one entry at a time. When the buffer has room it ends with its front replaced by the list
(`foldl_emit`) and everything past it as it was. A loop that stops at a limit emits the entries
up to the limit (`foldWhile_emit`).
-/

namespace OutputBuffer

open Loops

variable {α : Type}

/-- The buffer `b` with its front replaced by `src`. -/
def patch (src b : List α) : List α := src ++ b.drop src.length

lemma patch_length {src b : List α} (h : src.length ≤ b.length) :
    (patch src b).length = b.length := by
  simp only [patch, List.length_append, List.length_drop]; omega

lemma patch_eq_self {src b : List α} (h : src.length = b.length) : patch src b = src := by
  simp [patch, h]

@[simp] lemma patch_nil (b : List α) : patch [] b = b := rfl

/-- One more entry behind a patched front. -/
lemma patch_set {done b : List α} (h : done.length < b.length) (x : α) :
    (patch done b).set done.length x = patch (done ++ [x]) b := by
  have hdrop : b.drop done.length = b[done.length] :: b.drop (done.length + 1) :=
    List.drop_eq_getElem_cons h
  rw [patch, patch, hdrop, List.set_append_right _ _ le_rfl, Nat.sub_self, List.set_cons_zero,
    List.length_append, List.length_singleton, List.append_assoc, List.singleton_append]

/-- A buffer with the number of entries written into it, after one more entry. -/
def emit (st : List α × ℕ) (x : α) : List α × ℕ := (st.1.set st.2 x, st.2 + 1)

/-- Entries emitted behind those of `done`. -/
lemma foldl_emit_patch {b : List α} (xs done : List α) (h : done.length + xs.length ≤ b.length) :
    xs.foldl emit (patch done b, done.length) = (patch (done ++ xs) b, (done ++ xs).length) := by
  induction xs generalizing done with
  | nil => simp
  | cons x xs ih =>
      rw [List.length_cons] at h
      have hroom : (done ++ [x]).length + xs.length ≤ b.length := by
        rw [List.length_append, List.length_singleton]
        omega
      have hstep : emit (patch done b, done.length) x
          = (patch (done ++ [x]) b, (done ++ [x]).length) := by
        rw [emit, patch_set (by omega), List.length_append, List.length_singleton]
      rw [List.foldl_cons, hstep, ih (done ++ [x]) hroom, List.append_assoc,
        List.singleton_append]

/-- **Emitting a list** into a buffer with room for it replaces the front of the buffer. -/
theorem foldl_emit {b xs : List α} (h : xs.length ≤ b.length) :
    xs.foldl emit (b, 0) = (patch xs b, xs.length) := by
  have hroom : ([] : List α).length + xs.length ≤ b.length := by simpa using h
  simpa using foldl_emit_patch xs [] hroom

/-- A loop that skips what does not satisfy `p` and stops once `n` entries are written. -/
lemma foldWhile_emit {β : Type} (p : β → Bool) (f : β → α) (n : ℕ) (l : List β)
    (st : List α × ℕ) :
    foldWhile (fun st => st.2 < n) (fun st a => if p a then emit st (f a) else st) l st
      = (((l.filter p).map f).take (n - st.2)).foldl emit st := by
  induction l generalizing st with
  | nil => simp [foldWhile]
  | cons a l ih =>
      rw [foldWhile]
      by_cases hgo : st.2 < n
      · rw [if_pos (by simpa using hgo), ih]
        by_cases ha : p a = true
        · have hnext : n - st.2 = n - (emit st (f a)).2 + 1 := by
            simp only [emit]
            omega
          rw [if_pos ha, List.filter_cons_of_pos ha, List.map_cons, hnext, List.take_succ_cons,
            List.foldl_cons]
        · rw [if_neg ha, List.filter_cons_of_neg ha]
      · have hzero : n - st.2 = 0 := by omega
        rw [if_neg (by simpa using hgo), hzero, List.take_zero, List.foldl_nil]

end OutputBuffer
