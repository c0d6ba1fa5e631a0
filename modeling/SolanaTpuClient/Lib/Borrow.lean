import Mathlib.Tactic

/-!
Traces of borrows.

A trace records which resources are taken and which are returned. It is `Balanced` when every
borrow is returned before the next one is taken; then the resources returned are those taken, one
for one and in the same order (`Balanced.returns_eq_takes`). It is `Nested` when a borrow is returned
after those that were taken since; then the resources returned are still those taken, one for one
(`Nested.returns_perm_takes`).
-/

namespace Borrow

variable {ρ : Type*}

/-- What happens to a resource. -/
inductive Event (ρ : Type*) where
  | taken (r : ρ)
  | returned (r : ρ)

/-- The resource an event takes. -/
def Event.taken? : Event ρ → Option ρ
  | .taken r => some r
  | .returned _ => none

/-- The resource an event returns. -/
def Event.returned? : Event ρ → Option ρ
  | .taken _ => none
  | .returned r => some r

/-- The resources taken along a trace, oldest first. -/
def takes (l : List (Event ρ)) : List ρ := l.filterMap Event.taken?

/-- The resources returned along a trace, oldest first. -/
def returns (l : List (Event ρ)) : List ρ := l.filterMap Event.returned?

/-- Every borrow is returned before the next one is taken. -/
inductive Balanced : List (Event ρ) → Prop where
  | nil : Balanced []
  | bracket {l : List (Event ρ)} (r : ρ) : Balanced l →
      Balanced (l ++ [Event.taken r, Event.returned r])

/-- **What is returned is what was taken.** -/
theorem Balanced.returns_eq_takes {l : List (Event ρ)} (h : Balanced l) : returns l = takes l := by
  induction h with
  | nil => rfl
  | @bracket l r _ ih =>
      simp only [returns, takes, List.filterMap_append] at ih ⊢
      rw [ih]
      rfl

/-- Borrows are returned last in, first out. -/
inductive Nested : List (Event ρ) → Prop where
  | nil : Nested []
  | append {l m : List (Event ρ)} : Nested l → Nested m → Nested (l ++ m)
  | bracket {l : List (Event ρ)} (r : ρ) : Nested l →
      Nested (Event.taken r :: l ++ [Event.returned r])

/-- What is returned is what was taken, in some order. -/
theorem Nested.returns_perm_takes {l : List (Event ρ)} (h : Nested l) :
    (returns l).Perm (takes l) := by
  induction h with
  | nil => exact List.Perm.refl _
  | @append l m _ _ ihl ihm =>
      simp only [returns, takes, List.filterMap_append] at ihl ihm ⊢
      exact ihl.append ihm
  | @bracket l r _ ih =>
      simp only [returns, takes, List.filterMap_append, List.filterMap_cons, Event.returned?,
        Event.taken?, List.filterMap_nil, List.append_nil] at ih ⊢
      exact (List.perm_append_singleton r _).trans (ih.cons r)

end Borrow
