import Mathlib.Tactic

/-!
Runs of a deterministic transition system with inputs and outputs.

A system is a function `step : σ → ι → ο × σ`. `run` is the state a list of inputs leads to and
`history` the record of every step taken on the way, oldest first. The rules are

* `run_invariant`: what one step preserves, a run preserves;
* `history_induction`: the same for a property of the record and the state together, with the
  newest step at the end of the record;
* `run_of_preorder`: a preorder that holds across one step holds across a run;
* `run_simulation`: a system whose every step is a step of another one runs as the other one.
-/

namespace Transition

variable {σ ι ο : Type*}

/-- One step of a run: the state it started from, its input, its output, and the state it
ended in. -/
structure Entry (σ ι ο : Type*) where
  pre : σ
  input : ι
  output : ο
  post : σ

section Run

variable (step : σ → ι → ο × σ)

/-- The step taken from `s` on the input `i`, as an entry of a record. -/
def entry (s : σ) (i : ι) : Entry σ ι ο := ⟨s, i, (step s i).1, (step s i).2⟩

/-- The state a list of inputs leads to. -/
def run : σ → List ι → σ
  | s, [] => s
  | s, i :: is => run (step s i).2 is

/-- The record of a run, oldest step first. -/
def history : σ → List ι → List (Entry σ ι ο)
  | _, [] => []
  | s, i :: is => entry step s i :: history (step s i).2 is

@[simp] lemma entry_pre (s : σ) (i : ι) : (entry step s i).pre = s := rfl

@[simp] lemma entry_input (s : σ) (i : ι) : (entry step s i).input = i := rfl

@[simp] lemma entry_output (s : σ) (i : ι) : (entry step s i).output = (step s i).1 := rfl

@[simp] lemma entry_post (s : σ) (i : ι) : (entry step s i).post = (step s i).2 := rfl

@[simp] lemma run_nil (s : σ) : run step s [] = s := rfl

@[simp] lemma run_cons (s : σ) (i : ι) (is : List ι) :
    run step s (i :: is) = run step (step s i).2 is := rfl

@[simp] lemma history_nil (s : σ) : history step s [] = [] := rfl

@[simp] lemma history_cons (s : σ) (i : ι) (is : List ι) :
    history step s (i :: is) = entry step s i :: history step (step s i).2 is := rfl

lemma run_append (s : σ) (is js : List ι) :
    run step s (is ++ js) = run step (run step s is) js := by
  induction is generalizing s with
  | nil => rfl
  | cons i is ih => exact ih _

lemma history_append (s : σ) (is js : List ι) :
    history step s (is ++ js) = history step s is ++ history step (run step s is) js := by
  induction is generalizing s with
  | nil => rfl
  | cons i is ih => simp only [List.cons_append, history_cons, run_cons, ih]

/-- The last step of a run, split off. -/
lemma run_concat (s : σ) (is : List ι) (i : ι) :
    run step s (is ++ [i]) = (step (run step s is) i).2 := run_append step s is [i]

/-- The newest entry of a record, split off. -/
lemma history_concat (s : σ) (is : List ι) (i : ι) :
    history step s (is ++ [i]) = history step s is ++ [entry step (run step s is) i] :=
  history_append step s is [i]

/-- A record that is cut in two is the record of two runs, one after the other. -/
lemma history_eq_append {s : σ} {is : List ι} {h₁ h₂ : List (Entry σ ι ο)}
    (h : history step s is = h₁ ++ h₂) :
    ∃ js ks, is = js ++ ks ∧ h₁ = history step s js ∧ h₂ = history step (run step s js) ks := by
  induction h₁ generalizing s is with
  | nil => exact ⟨[], is, rfl, rfl, h.symm⟩
  | cons e h₁ ih =>
      cases is with
      | nil => simp at h
      | cons i is =>
          obtain ⟨rfl, hrest⟩ := List.cons.inj h
          obtain ⟨js, ks, rfl, rfl, rfl⟩ := ih hrest
          exact ⟨i :: js, ks, rfl, rfl, rfl⟩

/-- A record that is cut at a step is the record of a run to that step, the step, and the record of
a run from there on. -/
lemma history_eq_append_cons {s : σ} {is : List ι} {h₁ h₂ : List (Entry σ ι ο)} {e : Entry σ ι ο}
    (h : history step s is = h₁ ++ e :: h₂) :
    ∃ js i ks, h₁ = history step s js ∧ e = entry step (run step s js) i ∧
      h₂ = history step e.post ks := by
  induction is generalizing s h₁ with
  | nil => simp at h
  | cons i is ih =>
      cases h₁ with
      | nil =>
          obtain ⟨rfl, rfl⟩ := List.cons.inj h
          exact ⟨[], i, is, rfl, rfl, rfl⟩
      | cons e' h₁ =>
          obtain ⟨rfl, htail⟩ := List.cons.inj h
          obtain ⟨js, j, ks, rfl, he, hks⟩ := ih htail
          exact ⟨i :: js, j, ks, rfl, he, hks⟩

variable {step}

/-- **The history rule**: a property of the record and the state that holds of the empty record
and is preserved by one more step holds of every run. -/
theorem history_induction {P : List (Entry σ ι ο) → σ → Prop} {s : σ} (h0 : P [] s)
    (hstep : ∀ h t i, P h t → P (h ++ [entry step t i]) (step t i).2) (is : List ι) :
    P (history step s is) (run step s is) := by
  induction is using List.reverseRecOn with
  | nil => exact h0
  | append_singleton is i ih =>
      rw [history_concat, run_concat]
      exact hstep _ _ i ih

/-- **The invariant rule**: what one step preserves, a run preserves. -/
theorem run_invariant {P : σ → Prop} (hstep : ∀ t i, P t → P (step t i).2) {s : σ} (h0 : P s)
    (is : List ι) : P (run step s is) :=
  history_induction (P := fun _ t => P t) h0 (fun _ t i => hstep t i) is

/-- A preorder that holds across every step from a state with the invariant holds across a
run. -/
theorem run_of_preorder {P : σ → Prop} {R : σ → σ → Prop} (hrefl : ∀ t, R t t)
    (htrans : ∀ {t u v}, R t u → R u v → R t v) (hinv : ∀ t i, P t → P (step t i).2)
    (hstep : ∀ t i, P t → R t (step t i).2) {s : σ} (h0 : P s) (is : List ι) :
    R s (run step s is) := by
  induction is generalizing s with
  | nil => exact hrefl s
  | cons i is ih => exact htrans (hstep s i h0) (ih (hinv s i h0))

end Run

section Simulation

variable {τ κ ρ : Type*} {step : σ → ι → ο × σ} {step' : τ → κ → ρ × τ}

/-- **The simulation rule**: if every step from a state with the invariant is a step of another
system, under abstractions of the states, the inputs and the outputs, then so is every run. -/
theorem run_simulation {P : σ → Prop} (abs : σ → τ) (input : ι → κ) (output : ι → ο → ρ)
    (hinv : ∀ t i, P t → P (step t i).2)
    (hstep : ∀ t i, P t → step' (abs t) (input i) = (output i (step t i).1, abs (step t i).2))
    {s : σ} (h0 : P s) (is : List ι) :
    run step' (abs s) (is.map input) = abs (run step s is) ∧
      history step' (abs s) (is.map input) = (history step s is).map fun e =>
        ⟨abs e.pre, input e.input, output e.input e.output, abs e.post⟩ := by
  induction is generalizing s with
  | nil => exact ⟨rfl, rfl⟩
  | cons i is ih =>
      obtain ⟨hrun, hhistory⟩ := ih (hinv s i h0)
      have hone := hstep s i h0
      simp only [List.map_cons, run_cons, history_cons, hone]
      exact ⟨hrun, congrArg₂ List.cons (by simp only [entry, hone]) hhistory⟩

end Simulation

end Transition
