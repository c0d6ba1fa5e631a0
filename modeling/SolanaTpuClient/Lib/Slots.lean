import Mathlib.Tactic

/-!
Lists of slots, one of which is replaced.

A system of many components is a list with a slot for each. A step of the `k`-th component replaces
the `k`-th slot; a relation between two such lists is kept (`forall₂_set`), and a sum over the slots
changes in one summand (`sum_map_set`, `sum_map_get`).
-/

namespace Slots

variable {α β : Type*} {R : α → β → Prop} {l : List α} {m : List β} {k : ℕ}

/-- Related lists have related slots. -/
lemma forall₂_getElem? (h : List.Forall₂ R l m) (k : ℕ) : Option.Rel R l[k]? m[k]? := by
  induction h generalizing k with
  | nil => exact .none
  | cons hab _ ih =>
      cases k with
      | zero => exact .some hab
      | succ k => exact ih k

/-- Related slots in place of the `k`-th ones. -/
lemma forall₂_set (h : List.Forall₂ R l m) {a : α} {b : β} (hab : R a b) (k : ℕ) :
    List.Forall₂ R (l.set k a) (m.set k b) := by
  induction h generalizing k with
  | nil => exact .nil
  | cons hcd htail ih =>
      cases k with
      | zero => exact .cons hab htail
      | succ k => exact .cons hcd (ih k)

/-- Slots related to one and the same slot. -/
lemma rel_of_rel {γ : Type*} {S : γ → β → Prop} {p : Option α} {q : Option γ} {r : Option β}
    (hp : Option.Rel R p r) (hq : Option.Rel S q r) :
    Option.Rel (fun a c => ∃ b, R a b ∧ S c b) p q := by
  cases hp with
  | none =>
      cases hq with
      | none => exact .none
  | some hab =>
      cases hq with
      | some hcb => exact .some ⟨_, hab, hcb⟩

section Sum

variable {M : Type*} [AddCommMonoid M] {f : α → M}

/-- A slot that counts nothing is replaced by one that counts. -/
lemma sum_map_set {a : α} (h : l[k]? = some a) (ha : f a = 0) (b : α) :
    ((l.set k b).map f).sum = f b + (l.map f).sum := by
  induction l generalizing k with
  | nil => simp at h
  | cons c l ih =>
      cases k with
      | zero =>
          obtain rfl : c = a := by simpa using h
          rw [List.set_cons_zero, List.map_cons, List.map_cons, List.sum_cons, List.sum_cons, ha,
            zero_add]
      | succ k =>
          rw [List.set_cons_succ, List.map_cons, List.map_cons, List.sum_cons, List.sum_cons,
            ih (by simpa using h), add_left_comm]

/-- The summand of one slot, the slot being emptied with `z`. -/
lemma sum_map_get {a z : α} (h : l[k]? = some a) (hz : f z = 0) :
    (l.map f).sum = f a + ((l.set k z).map f).sum := by
  obtain ⟨hk, rfl⟩ := List.getElem?_eq_some_iff.mp h
  have hz' : (l.set k z)[k]? = some z := by simp [hk]
  rw [← sum_map_set hz' hz, List.set_set, List.set_getElem_self]

/-- Slots that count nothing have the sum zero. -/
lemma sum_map_eq_zero (h : ∀ a ∈ l, f a = 0) : (l.map f).sum = 0 :=
  List.sum_eq_zero fun x hx => by
    obtain ⟨a, ha, rfl⟩ := List.mem_map.mp hx
    exact h a ha

end Sum

end Slots
