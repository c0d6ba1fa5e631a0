import Mathlib.Tactic
import Mathlib.Data.List.GetD

/-!
First-occurrence deduplication of a list by a key.

`firstsBy key l` keeps an element of `l` when no earlier one has its key. Read from the end of
the list, an element is kept or dropped by looking at what precedes it (`firstsBy_concat`),
which is how a loop over indices computes it (`firstsBy_eq_range`).

The keys that are kept are those of the list, each once (`mem_map_firstsBy`, `nodup_map_firstsBy`).
In a list that is sorted by a relation an element that is kept is the least of its key
(`firstsBy_least`), and a prefix of a sorted list has no gaps (`mem_take_of_lt`).
-/

namespace FirstOccurrence

variable {α β : Type*} [DecidableEq β] (key : α → β)

/-- The elements of a list whose key does not occur earlier. -/
def firstsBy : List α → List α
  | [] => []
  | a :: l => a :: (firstsBy l).filter fun b => key b ≠ key a

@[simp] lemma firstsBy_nil : firstsBy key [] = [] := rfl

lemma firstsBy_cons (a : α) (l : List α) :
    firstsBy key (a :: l) = a :: (firstsBy key l).filter fun b => key b ≠ key a := rfl

/-- The last element is kept exactly when its key is new. -/
lemma firstsBy_concat (l : List α) (x : α) :
    firstsBy key (l ++ [x])
      = firstsBy key l ++ if key x ∈ l.map key then [] else [x] := by
  induction l with
  | nil => simp [firstsBy]
  | cons a l ih =>
      rw [List.cons_append, firstsBy_cons, ih, List.filter_append, firstsBy_cons,
        List.cons_append]
      congr 2
      by_cases hl : key x ∈ l.map key
      · simp only [List.map_cons, List.mem_cons, hl, or_true, if_true, List.filter_nil]
      · by_cases ha : key x = key a <;> simp [hl, ha]

lemma firstsBy_sublist (l : List α) : (firstsBy key l).Sublist l := by
  induction l with
  | nil => exact List.Sublist.slnil
  | cons a l ih => exact (List.filter_sublist.trans ih).cons_cons a

lemma mem_of_mem_firstsBy {l : List α} {x : α} (h : x ∈ firstsBy key l) : x ∈ l :=
  (firstsBy_sublist key l).subset h

lemma firstsBy_ne_nil {l : List α} (h : l ≠ []) : firstsBy key l ≠ [] := by
  cases l with
  | nil => exact absurd rfl h
  | cons a l => simp [firstsBy]

/-- No key is lost and none is added. -/
lemma mem_map_firstsBy {l : List α} {k : β} : k ∈ (firstsBy key l).map key ↔ k ∈ l.map key := by
  induction l with
  | nil => simp
  | cons a l ih =>
      by_cases hk : k = key a
      · simp [firstsBy_cons, hk]
      · have hfilter : k ∈ ((firstsBy key l).filter fun b => key b ≠ key a).map key
            ↔ k ∈ (firstsBy key l).map key := by
          simp only [List.mem_map, List.mem_filter, decide_eq_true_eq]
          constructor
          · rintro ⟨b, ⟨hb, -⟩, rfl⟩
            exact ⟨b, hb, rfl⟩
          · rintro ⟨b, hb, rfl⟩
            exact ⟨b, ⟨hb, hk⟩, rfl⟩
        rw [firstsBy_cons, List.map_cons, List.map_cons, List.mem_cons, List.mem_cons, hfilter, ih]

/-- Every key is kept once. -/
lemma nodup_map_firstsBy (l : List α) : ((firstsBy key l).map key).Nodup := by
  induction l with
  | nil => simp
  | cons a l ih =>
      rw [firstsBy_cons, List.map_cons, List.nodup_cons]
      refine ⟨?_, ih.sublist (List.filter_sublist.map key)⟩
      simp only [List.mem_map, List.mem_filter, decide_eq_true_eq]
      rintro ⟨b, ⟨-, hne⟩, hkey⟩
      exact hne hkey

/-- Of a list without repeated keys all is kept. -/
lemma firstsBy_of_nodup {l : List α} (h : (l.map key).Nodup) : firstsBy key l = l := by
  induction l with
  | nil => rfl
  | cons a l ih =>
      rw [List.map_cons, List.nodup_cons] at h
      rw [firstsBy_cons, ih h.2, List.filter_eq_self.mpr]
      intro b hb
      have hne : key b ≠ key a := fun hkey => h.1 (hkey ▸ List.mem_map_of_mem hb)
      simpa using hne

/-- Deduplicating a prefix of the first occurrences changes nothing. -/
lemma firstsBy_take_firstsBy (l : List α) (n : ℕ) :
    firstsBy key ((firstsBy key l).take n) = (firstsBy key l).take n :=
  firstsBy_of_nodup key ((nodup_map_firstsBy key l).sublist ((List.take_sublist n _).map key))

/-- First occurrences of a mapped list. -/
lemma firstsBy_map {γ : Type*} (f : γ → α) (l : List γ) :
    firstsBy key (l.map f) = (firstsBy (fun c => key (f c)) l).map f := by
  induction l with
  | nil => rfl
  | cons c l ih =>
      rw [List.map_cons, firstsBy_cons, firstsBy_cons, List.map_cons, ih, List.filter_map]
      rfl

section Sorted

variable {R : α → α → Prop} {l : List α} {x y : α}

/-- In a sorted list, what is kept for a key comes before everything else with that key. -/
lemma firstsBy_least (hl : l.Pairwise R) (hx : x ∈ firstsBy key l) (hy : y ∈ l)
    (hkey : key y = key x) : y = x ∨ R x y := by
  induction l with
  | nil => exact absurd hy (by simp)
  | cons a l ih =>
      rw [List.pairwise_cons] at hl
      rw [firstsBy_cons, List.mem_cons] at hx
      rcases hx with rfl | hx
      · rcases List.mem_cons.mp hy with rfl | hy
        · exact Or.inl rfl
        · exact Or.inr (hl.1 y hy)
      · obtain ⟨hx, hne⟩ := List.mem_filter.mp hx
        rcases List.mem_cons.mp hy with rfl | hy
        · exact absurd hkey.symm (by simpa using hne)
        · exact ih hl.2 hx hy

omit [DecidableEq β] in
/-- Nothing that comes before an element of a prefix is left out of the prefix. -/
lemma mem_take_of_lt (hl : l.Pairwise R) (hasymm : ∀ {x y}, R x y → ¬R y x) {n : ℕ}
    (hx : x ∈ l.take n) (hy : y ∈ l) (hlt : R y x) : y ∈ l.take n := by
  have hsplit : (l.take n ++ l.drop n).Pairwise R := by rwa [List.take_append_drop]
  have hmem : y ∈ l.take n ++ l.drop n := by rwa [List.take_append_drop]
  refine (List.mem_append.mp hmem).resolve_right fun hdrop => ?_
  exact hasymm ((List.pairwise_append.mp hsplit).2.2 x hx y hdrop) hlt

end Sorted

/-- A loop over indices that keeps an index when no prior one has its key computes `firstsBy`. -/
theorem firstsBy_eq_range (d : α) (l : List α) :
    firstsBy key l
      = ((List.range l.length).filter fun i =>
          ∀ j < i, key (l.getD j d) ≠ key (l.getD i d)).map fun i => l.getD i d := by
  induction l using List.reverseRecOn with
  | nil => rfl
  | append_singleton l x ih =>
      have hget : ∀ i < l.length, (l ++ [x]).getD i d = l.getD i d := fun i hi =>
        List.getD_append _ _ _ _ hi
      have hlast : (l ++ [x]).getD l.length d = x := by simp
      have hold : ((List.range l.length).filter fun i =>
            ∀ j < i, key ((l ++ [x]).getD j d) ≠ key ((l ++ [x]).getD i d)).map
              (fun i => (l ++ [x]).getD i d) = firstsBy key l := by
        rw [ih]
        have hfilter : (List.range l.length).filter (fun i =>
              ∀ j < i, key ((l ++ [x]).getD j d) ≠ key ((l ++ [x]).getD i d))
            = (List.range l.length).filter fun i =>
              ∀ j < i, key (l.getD j d) ≠ key (l.getD i d) := by
          refine List.filter_congr fun i hi => ?_
          have hi' := List.mem_range.mp hi
          refine decide_eq_decide.mpr (forall₂_congr fun j hj => ?_)
          rw [hget i hi', hget j (hj.trans hi')]
        rw [hfilter]
        exact List.map_congr_left fun i hi =>
          hget i (List.mem_range.mp (List.mem_of_mem_filter hi))
      have hnew : (∀ j < l.length, key ((l ++ [x]).getD j d) ≠ key ((l ++ [x]).getD l.length d))
          ↔ key x ∉ l.map key := by
        rw [hlast, List.mem_map]
        constructor
        · rintro h ⟨y, hy, hkey⟩
          obtain ⟨j, hj, rfl⟩ := List.mem_iff_getElem.mp hy
          exact h j hj (by rw [hget j hj, List.getD_eq_getElem _ _ hj, hkey])
        · intro h j hj hkey
          rw [hget j hj, List.getD_eq_getElem _ _ hj] at hkey
          exact h ⟨_, List.getElem_mem hj, hkey⟩
      rw [firstsBy_concat, List.length_append, List.length_singleton, List.range_succ,
        List.filter_append, List.map_append, hold]
      congr 1
      by_cases hx : key x ∈ l.map key
      · rw [if_pos hx, List.filter_singleton, decide_eq_false (fun h => hnew.mp h hx)]
        rfl
      · rw [if_neg hx, List.filter_singleton, decide_eq_true (hnew.mpr hx)]
        exact congrArg (fun y => [y]) hlast.symm

/-- The first index that satisfies a condition, when some index does. -/
lemma findIdx_spec {p : α → Prop} [DecidablePred p] {l : List α} {i : ℕ} {a : α}
    (hget : l[i]? = some a) (ha : p a) :
    l.findIdx (fun x => p x) ≤ i ∧ ∃ b, l[l.findIdx fun x => p x]? = some b ∧ p b := by
  obtain ⟨hi, rfl⟩ := List.getElem?_eq_some_iff.mp hget
  have hle : l.findIdx (fun x => p x) ≤ i := by
    by_contra hlt
    have hnot := List.not_of_lt_findIdx (not_le.mp hlt)
    exact absurd ha (by simpa using hnot)
  have hlt : l.findIdx (fun x => p x) < l.length := hle.trans_lt hi
  exact ⟨hle, _, List.getElem?_eq_getElem hlt, by simpa using List.findIdx_getElem (w := hlt)⟩

end FirstOccurrence
