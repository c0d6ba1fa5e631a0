import Mathlib.Tactic

/-!
Pre- and postconditions of procedures that change a state and may fail.

A procedure is an `EStateM ε σ α`: started in a state it either returns a value or stops with a
failure, and in both cases leaves a state behind. `Ensures x s Q E` says that `x` started in
`s` either returns with `Q` or fails with `E`; unlike a rule about successful runs alone it
speaks of the state a failure leaves. The rules below compose such statements along `bind`, and
`zoom` runs a procedure on one component of a larger state, which is how a function that keeps
its locals in a frame calls one that knows only the world.

A procedure that guards its work by checks is described by the list of its stages, each a condition
and the failure it returns: `Decides x s stages Q F` says that `x` fails with the first stage whose
condition does not hold, and returns when all hold. Stages of consecutive procedures are appended
(`Decides.bind`).

`Grows m x` says that `x` does not decrease the measure `m` of the state, however it ends; what a
procedure has counted when it starts a part of its body is still counted when it returns.
-/

namespace Procedure

variable {ε σ τ α β : Type}

/-- `x` started in `s` either returns with `Q` or fails with `E`. -/
def Ensures (x : EStateM ε σ α) (s : σ) (Q : α → σ → Prop) (E : ε → σ → Prop) : Prop :=
  match x s with
  | .ok a t => Q a t
  | .error e t => E e t

variable {x : EStateM ε σ α} {f : α → EStateM ε σ β} {s t : σ} {a : α} {e : ε}
  {Q Q' : α → σ → Prop} {E E' : ε → σ → Prop}

/-! ### What a procedure does, read off its result -/

lemma ensures_of_ok (hx : x s = .ok a t) (h : Q a t) : Ensures x s Q E := by
  simpa [Ensures, hx] using h

lemma ensures_of_error (hx : x s = .error e t) (h : E e t) : Ensures x s Q E := by
  simpa [Ensures, hx] using h

/-- A specified run returns or fails as specified. -/
lemma Ensures.cases (h : Ensures x s Q E) :
    (∃ a t, x s = .ok a t ∧ Q a t) ∨ ∃ e t, x s = .error e t ∧ E e t := by
  cases hx : x s with
  | ok a t =>
      rw [Ensures, hx] at h
      exact Or.inl ⟨a, t, rfl, h⟩
  | error e t =>
      rw [Ensures, hx] at h
      exact Or.inr ⟨e, t, rfl, h⟩

/-- The consequence rule. -/
lemma Ensures.mono (h : Ensures x s Q E) (hQ : ∀ a t, Q a t → Q' a t)
    (hE : ∀ e t, E e t → E' e t) : Ensures x s Q' E' := by
  rcases h.cases with ⟨a, t, hx, ha⟩ | ⟨e, t, hx, he⟩
  · exact ensures_of_ok hx (hQ a t ha)
  · exact ensures_of_error hx (hE e t he)

/-! ### The rules of the monad -/

@[simp] lemma ensures_pure : Ensures (pure a) s Q E ↔ Q a s := Iff.rfl

@[simp] lemma ensures_throw {Q : α → σ → Prop} : Ensures (throw e) s Q E ↔ E e s := Iff.rfl

lemma bind_of_ok (hx : x s = .ok a t) : (x >>= f) s = f a t := by
  simp [bind, EStateM.bind, hx]

lemma bind_of_error (hx : x s = .error e t) : (x >>= f) s = .error e t := by
  simp [bind, EStateM.bind, hx]

/-- The sequencing rule. -/
lemma ensures_bind {Q : β → σ → Prop} :
    Ensures (x >>= f) s Q E ↔ Ensures x s (fun a t => Ensures (f a) t Q E) E := by
  cases hx : x s with
  | ok a t => simp [Ensures, bind_of_ok hx, hx]
  | error e t => simp [Ensures, bind_of_error hx, hx]

/-- The sequencing rule, from a specification of the first procedure. -/
lemma Ensures.bind {R : β → σ → Prop} (h : Ensures x s Q E')
    (hQ : ∀ a t, Q a t → Ensures (f a) t R E) (hE : ∀ e t, E' e t → E e t) :
    Ensures (x >>= f) s R E :=
  ensures_bind.mpr (h.mono hQ hE)

@[simp] lemma ensures_get {Q : σ → σ → Prop} : Ensures get s Q E ↔ Q s s := Iff.rfl

@[simp] lemma ensures_modify {g : σ → σ} {Q : PUnit → σ → Prop} :
    Ensures (modify g) s Q E ↔ Q ⟨⟩ (g s) := Iff.rfl

@[simp] lemma get_apply : (get : EStateM ε σ σ) s = .ok s s := rfl

@[simp] lemma modify_apply {g : σ → σ} : (modify g : EStateM ε σ PUnit) s = .ok ⟨⟩ (g s) := rfl

@[simp] lemma pure_apply : (pure a : EStateM ε σ α) s = .ok a s := rfl

@[simp] lemma throw_apply : (throw e : EStateM ε σ α) s = .error e s := rfl

/-! ### Guards -/

/-- Goes on if `p` holds and fails with `e` otherwise. -/
def require (p : Prop) [Decidable p] (e : ε) : EStateM ε σ PUnit :=
  if p then pure ⟨⟩ else throw e

lemma require_of {p : Prop} [Decidable p] (hp : p) :
    (require p e : EStateM ε σ PUnit) s = .ok ⟨⟩ s := by
  rw [require, if_pos hp, pure_apply]

lemma require_of_not {p : Prop} [Decidable p] (hp : ¬p) :
    (require p e : EStateM ε σ PUnit) s = .error e s := by
  rw [require, if_neg hp, throw_apply]

@[simp] lemma ensures_require {p : Prop} [Decidable p] {Q : PUnit → σ → Prop} :
    Ensures (require p e) s Q E ↔ (p → Q ⟨⟩ s) ∧ (¬p → E e s) := by
  by_cases hp : p
  · rw [Ensures, require_of hp]; simp [hp]
  · rw [Ensures, require_of_not hp]; simp [hp]

/-- A computation without state, run as a procedure. -/
def ofResult : Except ε α → EStateM ε σ α
  | .ok a => pure a
  | .error e => throw e

@[simp] lemma ofResult_ok : (ofResult (.ok a) : EStateM ε σ α) s = .ok a s := rfl

@[simp] lemma ofResult_error : (ofResult (.error e) : EStateM ε σ α) s = .error e s := rfl

lemma ensures_ofResult {y : Except ε α} (hok : ∀ a, y = .ok a → Q a s)
    (herr : ∀ e, y = .error e → E e s) : Ensures (ofResult y) s Q E := by
  cases y with
  | ok a => exact hok a rfl
  | error e => exact herr e rfl

/-! ### Procedures on a component of the state -/

/-- Runs `x` on the component `get s` of the state and puts what it leaves back with `put`. -/
def zoom (get : σ → τ) (put : τ → σ → σ) (x : EStateM ε τ α) : EStateM ε σ α := fun s =>
  match x (get s) with
  | .ok a t => .ok a (put t s)
  | .error e t => .error e (put t s)

section Component

variable {get : σ → τ} {put : τ → σ → σ}

lemma zoom_of_ok {y : EStateM ε τ α} {u : τ} (h : y (get s) = .ok a u) :
    zoom get put y s = .ok a (put u s) := by
  simp [zoom, h]

lemma zoom_of_error {y : EStateM ε τ α} {u : τ} (h : y (get s) = .error e u) :
    zoom get put y s = .error e (put u s) := by
  simp [zoom, h]

/-- The frame rule: a procedure run on a component ensures what it ensures there, the rest of
the state being untouched. -/
lemma ensures_zoom {y : EStateM ε τ α} :
    Ensures (zoom get put y) s Q E
      ↔ Ensures y (get s) (fun a u => Q a (put u s)) (fun e u => E e (put u s)) := by
  cases h : y (get s) with
  | ok a u => simp [Ensures, zoom_of_ok h, h]
  | error e u => simp [Ensures, zoom_of_error h, h]

end Component

/-! ### Procedures that check one stage after another -/

/-- The failure of the first stage whose condition does not hold. -/
def firstFailure (stages : List (Bool × ε)) : Option ε :=
  (stages.find? fun stage => !stage.1).map Prod.snd

@[simp] lemma firstFailure_nil : firstFailure ([] : List (Bool × ε)) = none := rfl

@[simp] lemma firstFailure_cons (b : Bool) (e : ε) (stages : List (Bool × ε)) :
    firstFailure ((b, e) :: stages) = if b then firstFailure stages else some e := by
  cases b <;> rfl

lemma firstFailure_append (l r : List (Bool × ε)) :
    firstFailure (l ++ r) = (firstFailure l).or (firstFailure r) := by
  induction l with
  | nil => rfl
  | cons stage l ih =>
      obtain ⟨b, e⟩ := stage
      rw [List.cons_append, firstFailure_cons, firstFailure_cons, ih]
      cases b <;> rfl

lemma firstFailure_eq_none {stages : List (Bool × ε)} :
    firstFailure stages = none ↔ ∀ stage ∈ stages, stage.1 = true := by
  simp [firstFailure]

lemma not_forall_of_firstFailure {stages : List (Bool × ε)} (h : firstFailure stages = some e) :
    ¬∀ stage ∈ stages, stage.1 = true := fun hall =>
  Option.some_ne_none e (h.symm.trans (firstFailure_eq_none.mpr hall))

/-- A failure is that of a stage that does not hold. -/
lemma mem_of_firstFailure {stages : List (Bool × ε)} (h : firstFailure stages = some e) :
    (false, e) ∈ stages := by
  obtain ⟨⟨b, e'⟩, hfind, rfl⟩ := Option.map_eq_some_iff.mp h
  have hb : b = false := by simpa using List.find?_some hfind
  exact hb ▸ List.mem_of_find?_eq_some hfind

/-- `x` started in `s` returns with `Q` when every stage holds, and otherwise fails as the first
stage that does not, with `F`. -/
def Decides (x : EStateM ε σ α) (s : σ) (stages : List (Bool × ε)) (Q : α → σ → Prop)
    (F : σ → Prop) : Prop :=
  Ensures x s (fun a t => firstFailure stages = none ∧ Q a t)
    (fun e t => firstFailure stages = some e ∧ F t)

variable {l r : List (Bool × ε)} {F F' : σ → Prop}

lemma Decides.mono (h : Decides x s l Q F) (hQ : ∀ a t, Q a t → Q' a t)
    (hF : ∀ t, F t → F' t) : Decides x s l Q' F' :=
  Ensures.mono h (fun a t ht => ⟨ht.1, hQ a t ht.2⟩) fun _ t ht => ⟨ht.1, hF t ht.2⟩

/-- The sequencing rule: the stages of the first procedure come first. -/
lemma Decides.bind {R : β → σ → Prop} (h : Decides x s l Q F)
    (hQ : ∀ a t, Q a t → Decides (f a) t r R F) :
    Decides (x >>= f) s (l ++ r) R F := by
  refine Ensures.bind h ?_ ?_
  · rintro a t ⟨hnone, ha⟩
    refine Ensures.mono (hQ a t ha) ?_ ?_ <;>
      · intro _ _ ht
        rw [firstFailure_append, hnone]
        exact ht
  · rintro e t ⟨hsome, ht⟩
    rw [firstFailure_append, hsome]
    exact ⟨rfl, ht⟩

lemma decides_pure (h : Q a s) : Decides (pure a) s ([] : List (Bool × ε)) Q F := ⟨rfl, h⟩

/-- A check is a stage. -/
lemma decides_require {p : Prop} [Decidable p] {b : Bool} (hb : b = true ↔ p)
    {Q : PUnit → σ → Prop} (hF : ¬p → F s) (hQ : p → Q ⟨⟩ s) :
    Decides (require p e) s [(b, e)] Q F := by
  by_cases hp : p
  · exact ensures_of_ok (require_of hp) ⟨by simp [hb.mpr hp], hQ hp⟩
  · have hfalse : b = false := by simpa using mt hb.mp hp
    exact ensures_of_error (require_of_not hp) ⟨by simp [hfalse], hF hp⟩

/-- A check followed by more is a stage followed by more. -/
lemma decides_require_bind {p : Prop} [Decidable p] {b : Bool} (hb : b = true ↔ p)
    {y : PUnit → EStateM ε σ β} {R : β → σ → Prop} (hF : ¬p → F s)
    (h : p → Decides (y ⟨⟩) s l R F) :
    Decides (require p e >>= y) s ((b, e) :: l) R F := by
  have hcheck : Decides (require p e) s [(b, e)] (fun _ t => t = s ∧ p) F :=
    decides_require hb hF fun hp => ⟨rfl, hp⟩
  refine hcheck.bind fun _ t ht => ?_
  obtain ⟨rfl, hp⟩ := ht
  exact h hp

/-- A check that holds is no stage. -/
lemma decides_require_of {p : Prop} [Decidable p] {y : PUnit → EStateM ε σ β} {R : β → σ → Prop}
    (hp : p) (h : Decides (y ⟨⟩) s l R F) : Decides (require p e >>= y) s l R F :=
  ensures_bind.mpr (ensures_of_ok (require_of hp) h)

lemma decides_get_bind {y : σ → EStateM ε σ β} {R : β → σ → Prop}
    (h : Decides (y s) s l R F) : Decides (get >>= y) s l R F :=
  ensures_bind.mpr h

lemma decides_modify_bind {g : σ → σ} {y : PUnit → EStateM ε σ β} {R : β → σ → Prop}
    (h : Decides (y ⟨⟩) (g s) l R F) : Decides (modify g >>= y) s l R F :=
  ensures_bind.mpr h

/-- A computation that succeeds is no stage. -/
lemma decides_ofResult_of {y : Except ε α} (hy : y = .ok a) {R : β → σ → Prop}
    (h : Decides (f a) s l R F) : Decides (ofResult y >>= f) s l R F := by
  rw [hy]
  exact ensures_bind.mpr h

/-- A procedure on a component decides as it does there. -/
lemma decides_zoom {get : σ → τ} {put : τ → σ → σ} {y : EStateM ε τ α} {P : α → τ → Prop}
    {G : τ → Prop} (h : Decides y (get s) l P G) (hQ : ∀ a u, P a u → Q a (put u s))
    (hF : ∀ u, G u → F (put u s)) : Decides (zoom get put y) s l Q F :=
  ensures_zoom.mpr (Ensures.mono h (fun a u hu => ⟨hu.1, hQ a u hu.2⟩)
    fun _ u hu => ⟨hu.1, hF u hu.2⟩)

/-- A procedure all of whose stages hold goes on with what follows it. -/
lemma Decides.ensures_bind {R : β → σ → Prop} {G : ε → σ → Prop} (h : Decides x s l Q F)
    (hl : firstFailure l = none) (hf : ∀ a t, Q a t → Ensures (f a) t R G) :
    Ensures (x >>= f) s R G := by
  refine Ensures.bind h (fun a t ha => hf a t ha.2) fun e t he => ?_
  rw [hl] at he
  exact absurd he.1 (Option.some_ne_none e).symm

/-! ### Measures that do not decrease -/

/-- However `x` ends, the measure `m` of the state is at least what it was. -/
def Grows (m : σ → ℕ) (x : EStateM ε σ α) : Prop :=
  ∀ s, Ensures x s (fun _ t => m s ≤ m t) (fun _ t => m s ≤ m t)

variable {m : σ → ℕ} {k : ℕ}

lemma Grows.ensures (h : Grows m x) (hk : k ≤ m s) :
    Ensures x s (fun _ t => k ≤ m t) (fun _ t => k ≤ m t) :=
  (h s).mono (fun _ _ => hk.trans) fun _ _ => hk.trans

lemma grows_pure : Grows m (pure a : EStateM ε σ α) := fun _ => le_rfl

lemma grows_get : Grows m (get : EStateM ε σ σ) := fun _ => le_rfl

lemma grows_modify {g : σ → σ} (h : ∀ s, m s ≤ m (g s)) :
    Grows m (modify g : EStateM ε σ PUnit) := h

lemma grows_require {p : Prop} [Decidable p] : Grows m (require p e : EStateM ε σ PUnit) :=
  fun _ => ensures_require.mpr ⟨fun _ => le_rfl, fun _ => le_rfl⟩

lemma grows_ofResult {y : Except ε α} : Grows m (ofResult y : EStateM ε σ α) :=
  fun _ => ensures_ofResult (fun _ _ => le_rfl) fun _ _ => le_rfl

/-- The sequencing rule. -/
lemma Grows.bind (hx : Grows m x) (hf : ∀ a, Grows m (f a)) : Grows m (x >>= f) := by
  intro s
  refine ensures_bind.mpr ((hx s).mono (fun a t hst => ?_) fun _ _ h => h)
  exact (hf a).ensures hst

/-- A procedure on a component does not decrease a measure of the component. -/
lemma grows_zoom {get : σ → τ} {put : τ → σ → σ} {n : τ → ℕ} {y : EStateM ε τ α} (hy : Grows n y)
    (hm : ∀ s u, n (get s) ≤ n u → m s ≤ m (put u s)) : Grows m (zoom get put y) := fun s =>
  ensures_zoom.mpr ((hy (get s)).mono (fun _ u => hm s u) fun _ u => hm s u)

end Procedure
