import Mathlib.Tactic

/-!
Loops over a range that skip some of its indices, nest, or count.

A C loop with `continue` is a fold whose body does nothing on the indices it skips. `foldlM_skip`
and `foldlM_nested` turn such loops into one fold over the list of what the body is run on, and
`foldlM_count` and `foldl_count` evaluate loops that count them. `foldWhile` is a loop with a
second condition besides the bound of its index.
-/

namespace Loops

variable {m : Type → Type} [Monad m] [LawfulMonad m] {σ α β : Type}

/-- A loop that skips what does not satisfy `p` runs over the rest. -/
lemma foldlM_skip (p : α → Prop) [DecidablePred p] (f : α → β) (body : σ → β → m σ) (l : List α)
    (s : σ) :
    l.foldlM (fun s a => if p a then body s (f a) else pure s) s
      = ((l.filter p).map f).foldlM body s := by
  rw [List.foldlM_map, List.foldlM_filter]
  simp only [decide_eq_true_eq]

omit [Monad m] [LawfulMonad m] in
/-- What the skipped indices contribute to a concatenation is nothing. -/
lemma flatMap_skip (p : α → Prop) [DecidablePred p] (g : α → List β) (l : List α) :
    (l.flatMap fun a => if p a then g a else []) = (l.filter p).flatMap g := by
  induction l with
  | nil => rfl
  | cons a l ih =>
      rw [List.flatMap_cons, ih]
      by_cases ha : p a <;> simp [ha]

/-- A loop that runs a loop in each round runs over all that the inner loops run over. -/
lemma foldlM_nested (g : α → List β) (body : σ → β → m σ) (l : List α) (s : σ) :
    l.foldlM (fun s a => (g a).foldlM body s) s = (l.flatMap g).foldlM body s := by
  induction l generalizing s with
  | nil => rfl
  | cons a l ih =>
      rw [List.foldlM_cons, List.flatMap_cons, List.foldlM_append]
      exact congrArg _ (funext fun t => ih t)

/-- A counter that refuses to pass `bound` counts a list that fits. -/
lemma foldlM_count {ε : Type} (e : ε) {bound k : ℕ} {l : List α} (h : k + l.length ≤ bound) :
    l.foldlM (fun n _ => if n = bound then throw e else pure (n + 1)) k
      = (.ok (k + l.length) : Except ε ℕ) := by
  induction l generalizing k with
  | nil => rfl
  | cons a l ih =>
      rw [List.length_cons] at h ⊢
      rw [List.foldlM_cons, if_neg (by omega), pure_bind, ih (by omega)]
      congr 1
      omega

/-- The loop that counts the indices that satisfy `p`. -/
lemma foldl_count (p : α → Bool) (l : List α) (k : ℕ) :
    l.foldl (fun n a => if p a then n + 1 else n) k = k + (l.filter p).length := by
  induction l generalizing k with
  | nil => rfl
  | cons a l ih =>
      rw [List.foldl_cons, ih]
      by_cases ha : p a = true
      · rw [if_pos ha, List.filter_cons_of_pos ha, List.length_cons]
        omega
      · rw [if_neg ha, List.filter_cons_of_neg ha]

/-- A loop that ends early when `go` fails. -/
def foldWhile (go : σ → Bool) (body : σ → α → σ) : List α → σ → σ
  | [], s => s
  | a :: l, s => if go s then foldWhile go body l (body s a) else s

end Loops
