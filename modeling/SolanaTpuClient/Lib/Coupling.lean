import SolanaTpuClient.Lib.Procedure

/-!
Two runs of procedures, side by side.

`Coupled x s y t R E` says that `x` started in `s` and `y` started in `t` go the same way: both
return, and what they return and leave is related by `R`, or both fail with the same failure and
what they leave is related by `E`. The rules below compose such statements along `bind`, step by
step on both sides.
-/

namespace Procedure

variable {ε σ τ α β : Type}

/-- `x` started in `s` and `y` started in `t` both return and end up related by `R`, or fail alike
and end up related by `E`. -/
def Coupled (x : EStateM ε σ α) (s : σ) (y : EStateM ε σ α) (t : σ) (R : α → α → σ → σ → Prop)
    (E : σ → σ → Prop) : Prop :=
  match x s, y t with
  | .ok a s', .ok b t' => R a b s' t'
  | .error e s', .error e' t' => e = e' ∧ E s' t'
  | _, _ => False

variable {x y : EStateM ε σ α} {f g : α → EStateM ε σ β} {s t : σ} {a b : α} {e : ε}
  {R : α → α → σ → σ → Prop} {E : σ → σ → Prop}

lemma coupled_of_ok {s' t' : σ} (hx : x s = .ok a s') (hy : y t = .ok b t') (h : R a b s' t') :
    Coupled x s y t R E := by
  simpa [Coupled, hx, hy] using h

lemma coupled_of_error {s' t' : σ} (hx : x s = .error e s') (hy : y t = .error e t')
    (h : E s' t') : Coupled x s y t R E := by
  simpa [Coupled, hx, hy] using h

/-- Coupled runs both return or both fail. -/
lemma Coupled.cases (h : Coupled x s y t R E) :
    (∃ a b s' t', x s = .ok a s' ∧ y t = .ok b t' ∧ R a b s' t') ∨
      ∃ e s' t', x s = .error e s' ∧ y t = .error e t' ∧ E s' t' := by
  rw [Coupled] at h
  cases hx : x s with
  | ok a s' =>
      cases hy : y t with
      | ok b t' =>
          rw [hx, hy] at h
          exact Or.inl ⟨a, b, s', t', rfl, rfl, h⟩
      | error e t' => rw [hx, hy] at h; exact h.elim
  | error e s' =>
      cases hy : y t with
      | ok b t' => rw [hx, hy] at h; exact h.elim
      | error e' t' =>
          rw [hx, hy] at h
          obtain ⟨rfl, hE⟩ := h
          exact Or.inr ⟨e, s', t', rfl, rfl, hE⟩

/-- The same value, and states related by `T`. -/
def Equally (T : σ → σ → Prop) (a b : α) (s t : σ) : Prop := a = b ∧ T s t

lemma coupled_pure (h : R a b s t) : Coupled (pure a : EStateM ε σ α) s (pure b) t R E := h

/-- The sequencing rule; what comes next may use that the first procedure has returned. -/
lemma Coupled.bind {Q : β → β → σ → σ → Prop} (h : Coupled x s y t R E)
    (hnext : ∀ a b s' t', x s = .ok a s' → R a b s' t' → Coupled (f a) s' (g b) t' Q E) :
    Coupled (x >>= f) s (y >>= g) t Q E := by
  rcases h.cases with ⟨a, b, s', t', hx, hy, hR⟩ | ⟨e, s', t', hx, hy, hE⟩
  · have hrest := hnext a b s' t' hx hR
    rcases hrest.cases with ⟨c, d, s'', t'', hf, hg, hQ⟩ | ⟨e, s'', t'', hf, hg, hE⟩
    · exact coupled_of_ok ((bind_of_ok hx).trans hf) ((bind_of_ok hy).trans hg) hQ
    · exact coupled_of_error ((bind_of_ok hx).trans hf) ((bind_of_ok hy).trans hg) hE
  · exact coupled_of_error (bind_of_error hx) (bind_of_error hy) hE

lemma coupled_get_bind {p q : σ → EStateM ε σ β} {Q : β → β → σ → σ → Prop}
    (h : Coupled (p s) s (q t) t Q E) : Coupled (get >>= p) s (get >>= q) t Q E := h

lemma coupled_modify_bind {u v : σ → σ} {p q : PUnit → EStateM ε σ β} {Q : β → β → σ → σ → Prop}
    (h : Coupled (p ⟨⟩) (u s) (q ⟨⟩) (v t) Q E) :
    Coupled (modify u >>= p) s (modify v >>= q) t Q E := h

/-- A check of what is the same on both sides. -/
lemma coupled_require {c d : Prop} [Decidable c] [Decidable d] {Q : PUnit → PUnit → σ → σ → Prop}
    (hcd : c ↔ d) (hE : E s t) (hQ : c → Q ⟨⟩ ⟨⟩ s t) :
    Coupled (require c e) s (require d e) t Q E := by
  by_cases hc : c
  · exact coupled_of_ok (require_of hc) (require_of (hcd.mp hc)) (hQ hc)
  · exact coupled_of_error (require_of_not hc) (require_of_not (mt hcd.mpr hc)) hE

/-- A check of what is the same on both sides, followed by more. -/
lemma coupled_require_bind {c d : Prop} [Decidable c] [Decidable d] {p q : PUnit → EStateM ε σ β}
    {Q : β → β → σ → σ → Prop} (hcd : c ↔ d) (hE : E s t)
    (h : c → Coupled (p ⟨⟩) s (q ⟨⟩) t Q E) :
    Coupled (require c e >>= p) s (require d e >>= q) t Q E := by
  have hcheck : Coupled (require c e) s (require d e) t
      (fun _ _ s' t' => c ∧ s' = s ∧ t' = t) E :=
    coupled_require hcd hE fun hc => ⟨hc, rfl, rfl⟩
  refine hcheck.bind ?_
  rintro - - s' t' - ⟨hc, rfl, rfl⟩
  exact h hc

/-- The same computation on both sides. -/
lemma coupled_ofResult {r : Except ε α} (hR : ∀ a, R a a s t) (hE : E s t) :
    Coupled (ofResult r) s (ofResult r) t R E := by
  cases r with
  | ok a => exact hR a
  | error e => exact ⟨rfl, hE⟩

/-- Coupled procedures on a component of each state. -/
lemma Coupled.zoom {get : σ → τ} {put : τ → σ → σ} {z z' : EStateM ε τ α}
    {Q : α → α → τ → τ → Prop} {F : τ → τ → Prop} (h : Coupled z (get s) z' (get t) Q F)
    (hR : ∀ a b u v, Q a b u v → R a b (put u s) (put v t))
    (hE : ∀ u v, F u v → E (put u s) (put v t)) :
    Coupled (zoom get put z) s (zoom get put z') t R E := by
  rcases h.cases with ⟨a, b, u, v, hz, hz', hQ⟩ | ⟨e, u, v, hz, hz', hF⟩
  · exact coupled_of_ok (zoom_of_ok hz) (zoom_of_ok hz') (hR a b u v hQ)
  · exact coupled_of_error (zoom_of_error hz) (zoom_of_error hz') (hE u v hF)

/-- The same procedure on the same component of both states. -/
lemma coupled_zoom {get : σ → τ} {put : τ → σ → σ} {z : EStateM ε τ α} (hget : get t = get s)
    (hR : ∀ a u, R a a (put u s) (put u t)) (hE : ∀ u, E (put u s) (put u t)) :
    Coupled (zoom get put z) s (zoom get put z) t R E := by
  cases hz : z (get s) with
  | ok a u => exact coupled_of_ok (zoom_of_ok hz) (zoom_of_ok (hget ▸ hz)) (hR a u)
  | error e u => exact coupled_of_error (zoom_of_error hz) (zoom_of_error (hget ▸ hz)) (hE u)

end Procedure
