import SolanaTpuClient.Lib.OutputBuffer
import SolanaTpuClient.Lib.Procedure
import SolanaTpuClient.Lib.Traps

/-!
Loops over arrays that trap when they leave an array, with counters that are words.

* `load` and `store`: accesses that are undefined past the end of an array;
* `Yields`: a computation that traps nowhere and stops with the first of its stages that does not
  hold;
* `foldlM_simulates`, `foldWhileM_simulates`: a loop whose rounds trap nowhere does what the total
  loop does;
* `foldlM_emitWord`: writing a list into the front of an array with a word for an index;
* `foldlM_countWord`: a word that refuses to wrap counts a list, or the list is too long.
-/

namespace Traps

open Loops OutputBuffer Procedure

variable {α σ τ : Type} {W : ℕ}

/-! ### Accesses -/

/-- An element of an array, undefined past its end. -/
def load (l : List α) (i : ℕ) : Option α := l[i]?

/-- A store to an element of an array, undefined past its end. -/
def store (l : List α) (i : ℕ) (x : α) : Option (List α) :=
  if i < l.length then some (l.set i x) else none

lemma load_of_lt {l : List α} {i : ℕ} (h : i < l.length) (x : α) :
    load l i = some (l.getD i x) := by
  rw [load, List.getElem?_eq_getElem h, List.getD_eq_getElem _ _ h]

lemma store_of_lt {l : List α} {i : ℕ} (h : i < l.length) (x : α) :
    store l i x = some (l.set i x) := if_pos h

/-! ### Errors beside traps -/

section Errors

variable {ε : Type}

/-- A computation that may trap, as one that may also stop with an error. -/
def defined (x : Option α) : ExceptT ε Option α := ExceptT.lift x

/-- A check that stops with an error. -/
def demand (p : Prop) [Decidable p] (e : ε) : ExceptT ε Option PUnit :=
  if p then pure ⟨⟩ else throw e

@[simp] lemma defined_some (a : α) : (defined (some a) : ExceptT ε Option α) = pure a := rfl

lemma demand_of {p : Prop} [Decidable p] (hp : p) (e : ε) : demand p e = pure ⟨⟩ := if_pos hp

@[simp] lemma demand_true [Decidable True] (e : ε) : demand True e = pure ⟨⟩ := if_pos trivial

lemma demand_of_not {p : Prop} [Decidable p] (hp : ¬p) (e : ε) : demand p e = throw e := if_neg hp

/-- A computation that does not trap. -/
def total (x : Except ε α) : ExceptT ε Option α := ExceptT.mk (some x)

/-- A computation that does not trap: it stops with the first of its stages that does not hold, or
it returns `a`. -/
def Yields (x : ExceptT ε Option α) (stages : List (Bool × ε)) (a : α) : Prop :=
  x = match firstFailure stages with
    | some e => throw e
    | none => pure a

lemma yields_pure (a : α) : Yields (pure a : ExceptT ε Option α) [] a := rfl

/-- A check is a stage. -/
lemma yields_demand {p : Prop} [Decidable p] {b : Bool} (hb : b = true ↔ p) (e : ε) :
    Yields (demand p e) [(b, e)] ⟨⟩ := by
  by_cases hp : p
  · rw [Yields, demand_of hp, hb.mpr hp]
    rfl
  · have hfalse : b = false := Bool.eq_false_iff.mpr (mt hb.mp hp)
    rw [Yields, demand_of_not hp, hfalse]
    rfl

variable {β : Type} {x : ExceptT ε Option α} {f : α → ExceptT ε Option β}
  {l r : List (Bool × ε)} {a : α} {b : β}

/-- The stages of a sequence, those of the rest being reached only past those before. -/
lemma Yields.bind (hx : Yields x l a) (hf : firstFailure l = none → Yields (f a) r b) :
    Yields (x >>= f) (l ++ r) b := by
  rw [Yields, firstFailure_append, hx]
  cases hl : firstFailure l with
  | some e => rfl
  | none => exact hf hl

lemma Yields.cons {stage : Bool × ε} (hx : Yields x [stage] a)
    (hf : firstFailure [stage] = none → Yields (f a) r b) : Yields (x >>= f) (stage :: r) b :=
  hx.bind hf

lemma Yields.eq_throw (hx : Yields x l a) {e : ε} : x = throw e ↔ firstFailure l = some e := by
  rw [hx]
  cases firstFailure l with
  | some e' =>
      refine ⟨fun h => ?_, fun h => by rw [Option.some.inj h]⟩
      exact congrArg some (Except.error.inj (Option.some.inj h))
  | none =>
      refine ⟨fun h => ?_, fun h => absurd h.symm (Option.some_ne_none e)⟩
      cases Option.some.inj h

lemma Yields.eq_pure (hx : Yields x l a) (hl : firstFailure l = none) : x = pure a := by
  rw [hx, hl]

lemma Yields.congr (hx : Yields x l a) (h : firstFailure l = firstFailure r) : Yields x r a := by
  rw [Yields, ← h]
  exact hx

end Errors

/-! ### Loops that do not trap -/

/-- Loops whose rounds agree on the elements they run over. -/
lemma foldlM_congr {m : Type → Type} [Monad m] {body body' : σ → α → m σ} {l : List α}
    (h : ∀ a ∈ l, ∀ s, body s a = body' s a) {s : σ} : l.foldlM body s = l.foldlM body' s := by
  induction l generalizing s with
  | nil => rfl
  | cons a l ih =>
      rw [List.foldlM_cons, List.foldlM_cons, h a (List.mem_cons_self ..)]
      exact congrArg _ (funext fun t => ih fun b hb => h b (List.mem_cons_of_mem _ hb))

/-- A loop does what another one does if each of its rounds does. -/
lemma foldlM_simulates {R : σ → τ → Prop} {body : σ → α → Option σ} {body' : τ → α → τ}
    {l : List α} (h : ∀ a ∈ l, ∀ s t, R s t → ∃ s', body s a = some s' ∧ R s' (body' t a))
    {s : σ} {t : τ} (hst : R s t) :
    ∃ s', l.foldlM body s = some s' ∧ R s' (l.foldl body' t) := by
  induction l generalizing s t with
  | nil => exact ⟨s, rfl, hst⟩
  | cons a l ih =>
      obtain ⟨s₁, hround, hst₁⟩ := h a (List.mem_cons_self ..) s t hst
      obtain ⟨s', hrest, hst'⟩ := ih (fun b hb => h b (List.mem_cons_of_mem _ hb)) hst₁
      exact ⟨s', by rw [List.foldlM_cons, hround, Option.bind_eq_bind, Option.bind_some, hrest],
        hst'⟩

/-- A loop with an invariant under which its rounds do not trap. -/
lemma foldlM_total {ε : Type} {P : σ → Prop} {body : σ → α → ExceptT ε Option σ}
    {body' : σ → α → Except ε σ} {l : List α}
    (h : ∀ a ∈ l, ∀ s, P s → body s a = total (body' s a) ∧ ∀ s', body' s a = .ok s' → P s')
    {s : σ} (hs : P s) : l.foldlM body s = total (l.foldlM body' s) := by
  induction l generalizing s with
  | nil => rfl
  | cons a l ih =>
      obtain ⟨hround, hnext⟩ := h a (List.mem_cons_self ..) s hs
      rw [List.foldlM_cons, List.foldlM_cons, hround]
      cases hbody : body' s a with
      | error e => rfl
      | ok s' => exact ih (fun b hb => h b (List.mem_cons_of_mem _ hb)) (hnext s' hbody)

/-- A loop that ends early when `go` fails, with rounds that may trap. -/
def foldWhileM (go : σ → Bool) (body : σ → α → Option σ) : List α → σ → Option σ
  | [], s => some s
  | a :: l, s => if go s then (body s a).bind (foldWhileM go body l) else some s

lemma foldWhileM_simulates {R : σ → τ → Prop} {go : σ → Bool} {go' : τ → Bool}
    {body : σ → α → Option σ} {body' : τ → α → τ} {l : List α}
    (hgo : ∀ s t, R s t → go s = go' t)
    (h : ∀ a ∈ l, ∀ s t, R s t → go' t = true → ∃ s', body s a = some s' ∧ R s' (body' t a))
    {s : σ} {t : τ} (hst : R s t) :
    ∃ s', foldWhileM go body l s = some s' ∧ R s' (foldWhile go' body' l t) := by
  induction l generalizing s t with
  | nil => exact ⟨s, rfl, hst⟩
  | cons a l ih =>
      rw [foldWhileM, foldWhile, hgo s t hst]
      cases hcontinue : go' t with
      | false => exact ⟨s, rfl, hst⟩
      | true =>
          obtain ⟨s₁, hround, hst₁⟩ := h a (List.mem_cons_self ..) s t hst hcontinue
          obtain ⟨s', hrest, hst'⟩ := ih (fun b hb => h b (List.mem_cons_of_mem _ hb)) hst₁
          exact ⟨s', by rw [if_pos rfl, hround, Option.bind_some, hrest], hst'⟩

/-- A search that stops at the first element that fails `p` answers whether all of them hold. -/
lemma allM_eq_some {p : α → Option Bool} {q : α → Bool} {l : List α}
    (h : ∀ a ∈ l, p a = some (q a)) : l.allM p = some (l.all q) := by
  induction l with
  | nil => rfl
  | cons a l ih =>
      rw [List.allM, h a (List.mem_cons_self ..), Option.bind_eq_bind, Option.bind_some,
        List.all_cons]
      cases q a with
      | false => rfl
      | true => exact ih fun b hb => h b (List.mem_cons_of_mem _ hb)

/-! ### Word counters -/

/-- An entry is written and the index, a word, is incremented. -/
def emitWord (st : List α × BitVec W) (x : α) : Option (List α × BitVec W) :=
  (store st.1 st.2.toNat x).map fun l => (l, st.2 + 1)

/-- The same array, and an index that is a word for the number. -/
structure Indexed (n : ℕ) (s : List α × BitVec W) (t : List α × ℕ) : Prop where
  array : s.1 = t.1
  index : s.2 = BitVec.ofNat W t.2
  length : t.1.length = n

lemma Indexed.emit {n : ℕ} {s : List α × BitVec W} {t : List α × ℕ} (h : Indexed n s t)
    (hroom : t.2 < n) (hword : n < 2 ^ W) (x : α) :
    ∃ s', emitWord s x = some s' ∧ Indexed n s' (emit t x) := by
  obtain ⟨l, w⟩ := s
  obtain ⟨harray, hindex, hlength⟩ := h
  obtain rfl : l = t.1 := harray
  obtain rfl : w = BitVec.ofNat W t.2 := hindex
  have htoNat : (BitVec.ofNat W t.2).toNat = t.2 := toNat_ofNat_of_lt (hroom.trans hword)
  refine ⟨(t.1.set t.2 x, BitVec.ofNat W t.2 + 1), ?_, rfl, ?_, ?_⟩
  · rw [emitWord, htoNat, store_of_lt (hlength ▸ hroom), Option.map_some]
  · rw [OutputBuffer.emit, BitVec.ofNat_add]
    rfl
  · rw [OutputBuffer.emit, List.length_set, hlength]

/-- **Emitting a list** into an array with room for it, whose length fits a word, does not trap. -/
theorem foldlM_emitWord {b xs : List α} (hroom : xs.length ≤ b.length) (hword : b.length < 2 ^ W) :
    xs.foldlM emitWord (b, (0 : BitVec W)) = some (patch xs b, BitVec.ofNat W xs.length) := by
  -- the rounds stay in front of the end of the array
  have hloop : ∀ (ys : List α) (s : List α × BitVec W) (t : List α × ℕ),
      Indexed b.length s t → t.2 + ys.length ≤ b.length →
      ∃ s', ys.foldlM emitWord s = some s' ∧ Indexed b.length s' (ys.foldl emit t) := by
    intro ys
    induction ys with
    | nil => exact fun s t hst _ => ⟨s, rfl, hst⟩
    | cons y ys ih =>
        intro s t hst hfits
        rw [List.length_cons] at hfits
        obtain ⟨s₁, hround, hst₁⟩ := hst.emit (by omega) hword y
        have hnext : (emit t y).2 = t.2 + 1 := rfl
        obtain ⟨s', hrest, hst'⟩ := ih s₁ (emit t y) hst₁ (by omega)
        exact ⟨s', by rw [List.foldlM_cons, hround, Option.bind_eq_bind, Option.bind_some, hrest],
          hst'⟩
  obtain ⟨s', hemit, harray, hindex, -⟩ := hloop xs (b, 0) (b, 0) ⟨rfl, rfl, rfl⟩ (by simpa)
  rw [foldl_emit hroom] at harray hindex
  rw [hemit]
  exact congrArg some (Prod.ext harray hindex)

/-- A counter that is a word and refuses to wrap. -/
def countWord {ε : Type} (e : ε) (n : BitVec W) : ExceptT ε Option (BitVec W) :=
  if n = BitVec.allOnes W then throw e else pure (n + 1)

/-- **Counting with a word**: the length of the list, or the error if it does not fit. -/
theorem foldlM_countWord {ε : Type} (e : ε) (l : List α) :
    (l.foldlM (fun n _ => countWord e n) (0 : BitVec W)).run
      = some (if l.length < 2 ^ W then .ok (BitVec.ofNat W l.length) else .error e) := by
  have hpos : 0 < 2 ^ W := Nat.two_pow_pos W
  have hloop : ∀ (l : List α) (k : ℕ), k < 2 ^ W →
      (l.foldlM (fun n _ => countWord e n) (BitVec.ofNat W k)).run
        = some (if k + l.length < 2 ^ W then .ok (BitVec.ofNat W (k + l.length)) else .error e) := by
    intro l
    induction l with
    | nil =>
        intro k hk
        rw [List.foldlM_nil, List.length_nil, Nat.add_zero, if_pos hk]
        rfl
    | cons a l ih =>
        intro k hk
        have hlast : BitVec.ofNat W k = BitVec.allOnes W ↔ k = 2 ^ W - 1 := by
          rw [← BitVec.toNat_inj, BitVec.toNat_ofNat, BitVec.toNat_allOnes, Nat.mod_eq_of_lt hk]
        rw [List.foldlM_cons, countWord, List.length_cons]
        by_cases hfull : k = 2 ^ W - 1
        · rw [if_pos (hlast.mpr hfull), if_neg (by omega)]
          rfl
        · rw [if_neg (mt hlast.mp hfull), pure_bind]
          have hsucc : BitVec.ofNat W k + 1 = BitVec.ofNat W (k + 1) := by
            rw [BitVec.ofNat_add]
            rfl
          rw [hsucc, ih (k + 1) (by omega), Nat.add_assoc, Nat.add_comm 1]
  have h := hloop l 0 hpos
  rw [Nat.zero_add] at h
  exact h

end Traps
