import Mathlib.Tactic

/-!
What a list yields when its entries are numbered and some of them are passed over.

`numbered f l` numbers the entries of `l` from one on and keeps what the partial function `f`
makes of an entry and its number. An entry that is passed over still takes a number:

* `numbered_concat`: one more entry takes the next number;
* `numbered_pairwise`: results come in the order of their numbers;
* `numbered_split`: between two results that follow each other stand skipped entries only, and the
  numbers of the two differ by one more than there are of those.
-/

namespace Numbered

variable {α β : Type*} (f : α → ℕ → Option β)

/-- The results of a list whose entries are numbered from `k` on. -/
def numberedFrom : ℕ → List α → List β
  | _, [] => []
  | k, a :: l => (f a k).toList ++ numberedFrom (k + 1) l

/-- The results of a list whose entries are numbered from one on. -/
def numbered (l : List α) : List β := numberedFrom f 1 l

@[simp] lemma numberedFrom_nil (k : ℕ) : numberedFrom f k [] = [] := rfl

lemma numberedFrom_append (k : ℕ) (l l' : List α) :
    numberedFrom f k (l ++ l') = numberedFrom f k l ++ numberedFrom f (k + l.length) l' := by
  induction l generalizing k with
  | nil => simp
  | cons a l ih =>
      have hcount : k + 1 + l.length = k + (a :: l).length := by
        rw [List.length_cons]
        omega
      rw [List.cons_append, numberedFrom, numberedFrom, ih, hcount, List.append_assoc]

/-- One more entry takes the next number. -/
lemma numbered_concat (l : List α) (a : α) :
    numbered f (l ++ [a]) = numbered f l ++ (f a (l.length + 1)).toList := by
  rw [numbered, numberedFrom_append, numberedFrom, numberedFrom_nil, List.append_nil,
    Nat.add_comm 1 l.length, numbered]

variable {f} {k : ℕ} {l : List α}

/-- A result comes from an entry of the list and its number. -/
lemma exists_of_mem_numberedFrom {b : β} (h : b ∈ numberedFrom f k l) :
    ∃ a ∈ l, ∃ i, k ≤ i ∧ i < k + l.length ∧ f a i = some b := by
  induction l generalizing k with
  | nil => simp at h
  | cons a l ih =>
      rw [numberedFrom, List.mem_append, Option.mem_toList] at h
      rcases h with hhead | htail
      · refine ⟨a, List.mem_cons_self, k, le_rfl, ?_, hhead⟩
        rw [List.length_cons]
        omega
      · obtain ⟨a', ha', i, hlo, hhi, hi⟩ := ih htail
        refine ⟨a', List.mem_cons_of_mem _ ha', i, by omega, ?_, hi⟩
        rw [List.length_cons]
        omega

/-- Results come in the order of their numbers. -/
lemma numberedFrom_pairwise {R : β → β → Prop}
    (hR : ∀ a a' i j b b', k ≤ i → i < j → j < k + l.length → f a i = some b → f a' j = some b' →
      R b b') : (numberedFrom f k l).Pairwise R := by
  induction l generalizing k with
  | nil => simp
  | cons a l ih =>
      rw [List.length_cons] at hR
      rw [numberedFrom, List.pairwise_append]
      refine ⟨?_, ?_, ?_⟩
      · cases f a k <;> simp
      · refine ih fun a a' i j b b' hlo hij hhi => ?_
        exact hR a a' i j b b' (by omega) hij (by omega)
      · intro b hb b' hb'
        obtain ⟨a', -, j, hlo, hhi, hj⟩ := exists_of_mem_numberedFrom hb'
        rw [Option.mem_toList] at hb
        exact hR a a' k j b b' le_rfl (by omega) (by omega) hb hj

lemma numbered_pairwise {R : β → β → Prop}
    (hR : ∀ a a' i j b b', 1 ≤ i → i < j → j ≤ l.length → f a i = some b → f a' j = some b' →
      R b b') : (numbered f l).Pairwise R :=
  numberedFrom_pairwise fun a a' i j b b' hlo hij hhi => hR a a' i j b b' hlo hij (by omega)

/-- The first result comes from the first entry that is not skipped. -/
lemma numberedFrom_eq_cons {b : β} {bs : List β} (h : numberedFrom f k l = b :: bs) :
    ∃ skipped a rest, l = skipped ++ a :: rest ∧ (∀ z ∈ skipped, ∃ i, f z i = none) ∧
      f a (k + skipped.length) = some b ∧
      numberedFrom f (k + skipped.length + 1) rest = bs := by
  induction l generalizing k with
  | nil => simp at h
  | cons a l ih =>
      cases hfa : f a k with
      | some b' =>
          rw [numberedFrom, hfa, Option.toList_some, List.singleton_append] at h
          obtain ⟨rfl, hrest⟩ := List.cons.inj h
          exact ⟨[], a, l, rfl, by simp, hfa, hrest⟩
      | none =>
          rw [numberedFrom, hfa, Option.toList_none, List.nil_append] at h
          obtain ⟨skipped, a', rest, rfl, hskip, hfa', hrest⟩ := ih h
          have hcount : k + (a :: skipped).length = k + 1 + skipped.length := by
            rw [List.length_cons]
            omega
          refine ⟨a :: skipped, a', rest, rfl, ?_, by rwa [hcount], by rwa [hcount]⟩
          intro z hz
          rcases List.mem_cons.mp hz with rfl | hz
          · exact ⟨k, hfa⟩
          · exact hskip z hz

/-- The results behind a front of the results come from the rest of the list. -/
lemma numberedFrom_eq_append {bs cs : List β} (h : numberedFrom f k l = bs ++ cs) :
    ∃ l₁ l₂, l = l₁ ++ l₂ ∧ numberedFrom f (k + l₁.length) l₂ = cs := by
  induction bs generalizing k l with
  | nil => exact ⟨[], l, rfl, h⟩
  | cons b bs ih =>
      obtain ⟨skipped, a, rest, rfl, -, -, hrest⟩ := numberedFrom_eq_cons h
      obtain ⟨l₁, l₂, rfl, hl₂⟩ := ih hrest
      have hcount : k + (skipped ++ a :: l₁).length = k + skipped.length + 1 + l₁.length := by
        rw [List.length_append, List.length_cons]
        omega
      refine ⟨skipped ++ a :: l₁, l₂, ?_, by rwa [hcount]⟩
      rw [List.append_assoc, List.cons_append]

/-- **Results that follow each other** come from two entries with skipped ones between them, and
each carries the position of its entry as its number. -/
theorem numbered_split {bs cs : List β} {b c : β} (h : numbered f l = bs ++ b :: c :: cs) :
    ∃ front a mid a' back, l = front ++ a :: (mid ++ a' :: back) ∧
      (∀ z ∈ mid, ∃ i, f z i = none) ∧ f a (front.length + 1) = some b ∧
      f a' (front.length + 1 + mid.length + 1) = some c := by
  obtain ⟨l₁, l₂, rfl, hl₂⟩ := numberedFrom_eq_append h
  obtain ⟨skipped, a, rest, rfl, -, hb, hrest⟩ := numberedFrom_eq_cons hl₂
  obtain ⟨mid, a', back, rfl, hmid, hc, -⟩ := numberedFrom_eq_cons hrest
  have hcount : 1 + l₁.length + skipped.length = (l₁ ++ skipped).length + 1 := by
    rw [List.length_append]
    omega
  have hnext : 1 + l₁.length + skipped.length + 1 + mid.length
      = (l₁ ++ skipped).length + 1 + mid.length + 1 := by
    omega
  refine ⟨l₁ ++ skipped, a, mid, a', back, ?_, hmid, by rwa [← hcount], by rwa [← hnext]⟩
  rw [List.append_assoc]

end Numbered
