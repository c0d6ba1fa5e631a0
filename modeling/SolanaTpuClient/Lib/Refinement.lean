import SolanaTpuClient.Lib.Transition

/-!
Refinement between transition systems.

* `SimulatesOn`, `Simulates`: related states stay related under corresponding inputs, which give
  corresponding outputs. What one step keeps a run keeps: `SimulatesOn.run` relates the states two
  runs end in, `SimulatesOn.outputs` the outputs on the way.
* `loud`: the inputs of a run that remain when those answered quietly are erased. If a quiet step
  leaves the state alone, the erased run ends in the same state and gives the other outputs
  (`run_loud`, `outputs_loud`), and a simulation commutes with erasing (`Simulates.loud`).
* `noninterference`: if the hidden inputs leave a view of the state alone and the visible ones
  depend on nothing else, the visible part of a run is the run of its visible inputs.
-/

namespace Transition

variable {σ τ ι κ ο ρ : Type*}

/-! ### Outputs -/

section Outputs

variable (step : σ → ι → ο × σ)

/-- What the steps of a run return, oldest first. -/
def outputs (s : σ) (is : List ι) : List ο := (history step s is).map Entry.output

@[simp] lemma outputs_nil (s : σ) : outputs step s [] = [] := rfl

@[simp] lemma outputs_cons (s : σ) (i : ι) (is : List ι) :
    outputs step s (i :: is) = (step s i).1 :: outputs step (step s i).2 is := rfl

lemma outputs_append (s : σ) (is js : List ι) :
    outputs step s (is ++ js) = outputs step s is ++ outputs step (run step s is) js := by
  rw [outputs, history_append, List.map_append]
  rfl

end Outputs

/-! ### Simulation -/

section Simulation

variable {step : σ → ι → ο × σ} {step' : τ → κ → ρ × τ} {input : ι → κ} {output : ι → ο → ρ}
  {R : σ → τ → Prop}

/-- Steps from related states on corresponding inputs, those with `P`, give corresponding outputs
and related states. -/
def SimulatesOn (P : ι → Prop) (step : σ → ι → ο × σ) (step' : τ → κ → ρ × τ) (input : ι → κ)
    (output : ι → ο → ρ) (R : σ → τ → Prop) : Prop :=
  ∀ s t i, P i → R s t →
    output i (step s i).1 = (step' t (input i)).1 ∧ R (step s i).2 (step' t (input i)).2

/-- Steps from related states on corresponding inputs give corresponding outputs and related
states. -/
def Simulates (step : σ → ι → ο × σ) (step' : τ → κ → ρ × τ) (input : ι → κ) (output : ι → ο → ρ)
    (R : σ → τ → Prop) : Prop :=
  SimulatesOn (fun _ => True) step step' input output R

/-- The outputs of a run, each translated together with its input. -/
def translated (output : ι → ο → ρ) (h : List (Entry σ ι ο)) : List ρ :=
  h.map fun e => output e.input e.output

variable {P : ι → Prop} {s : σ} {t : τ} {is : List ι}

/-- Runs on corresponding inputs end in related states. -/
theorem SimulatesOn.run (h : SimulatesOn P step step' input output R) (hR : R s t)
    (hP : ∀ i ∈ is, P i) : R (run step s is) (Transition.run step' t (is.map input)) := by
  induction is generalizing s t with
  | nil => exact hR
  | cons i is ih =>
      exact ih (h s t i (hP i (by simp)) hR).2 fun j hj => hP j (List.mem_cons_of_mem i hj)

/-- Runs on corresponding inputs give corresponding outputs. -/
theorem SimulatesOn.outputs (h : SimulatesOn P step step' input output R) (hR : R s t)
    (hP : ∀ i ∈ is, P i) :
    translated output (history step s is) = Transition.outputs step' t (is.map input) := by
  induction is generalizing s t with
  | nil => rfl
  | cons i is ih =>
      obtain ⟨hout, hnext⟩ := h s t i (hP i (by simp)) hR
      have htail := ih hnext fun j hj => hP j (List.mem_cons_of_mem i hj)
      rw [List.map_cons, outputs_cons, ← htail, ← hout]
      rfl

theorem Simulates.run (h : Simulates step step' input output R) (hR : R s t) (is : List ι) :
    R (Transition.run step s is) (Transition.run step' t (is.map input)) :=
  SimulatesOn.run h hR fun _ _ => trivial

theorem Simulates.outputs (h : Simulates step step' input output R) (hR : R s t) (is : List ι) :
    translated output (history step s is) = Transition.outputs step' t (is.map input) :=
  SimulatesOn.outputs h hR fun _ _ => trivial

/-- A translation that looks at the outputs alone. -/
lemma translated_const (f : ο → ρ) (s : σ) (is : List ι) :
    translated (fun _ => f) (history step s is) = (Transition.outputs step s is).map f := by
  rw [translated, Transition.outputs, List.map_map]
  rfl

end Simulation

/-! ### Erasing quiet steps -/

section Erasure

variable (step : σ → ι → ο × σ) (quiet : ο → Bool)

/-- The inputs of a run that are not answered quietly. -/
def loud : σ → List ι → List ι
  | _, [] => []
  | s, i :: is =>
      if quiet (step s i).1 then loud (step s i).2 is else i :: loud (step s i).2 is

variable {step quiet}

/-- Erasing steps that leave the state alone does not change where a run ends. -/
theorem run_loud (h : ∀ s i, quiet (step s i).1 = true → (step s i).2 = s) (s : σ) (is : List ι) :
    run step s (loud step quiet s is) = run step s is := by
  induction is generalizing s with
  | nil => rfl
  | cons i is ih =>
      rw [loud, run_cons]
      split_ifs with hq
      · rw [h s i hq, ih]
      · rw [run_cons, ih]

/-- Erasing steps that leave the state alone leaves the other outputs as they are. -/
theorem outputs_loud (h : ∀ s i, quiet (step s i).1 = true → (step s i).2 = s) (s : σ)
    (is : List ι) :
    outputs step s (loud step quiet s is) = (outputs step s is).filter fun o => !quiet o := by
  induction is generalizing s with
  | nil => rfl
  | cons i is ih =>
      rw [loud, outputs_cons, List.filter_cons]
      split_ifs with hq hn hn
      · simp [hq] at hn
      · rw [h s i hq, ih]
      · rw [outputs_cons, ih]
      · simp [hq] at hn

/-- A simulation commutes with erasing what is quiet on both sides. -/
theorem Simulates.loud {step' : τ → κ → ρ × τ} {input : ι → κ} {output : ι → ο → ρ}
    {R : σ → τ → Prop} {quiet' : ρ → Bool} (h : Simulates step step' input output R)
    (hquiet : ∀ i o, quiet' (output i o) = quiet o) {s : σ} {t : τ} (hR : R s t) (is : List ι) :
    (Transition.loud step quiet s is).map input
      = Transition.loud step' quiet' t (is.map input) := by
  induction is generalizing s t with
  | nil => rfl
  | cons i is ih =>
      obtain ⟨hout, hnext⟩ := h s t i trivial hR
      simp only [List.map_cons, Transition.loud, ← hout, hquiet]
      split_ifs
      · exact ih hnext
      · rw [List.map_cons, ih hnext]

end Erasure

/-! ### Noninterference -/

section Noninterference

variable {step : σ → ι → ο × σ} {visible : ι → Bool} {view : σ → τ}

/-- The outputs of the steps of a run whose inputs are visible. -/
def visibleOutputs (visible : ι → Bool) (h : List (Entry σ ι ο)) : List ο :=
  (h.filter fun e => visible e.input).map Entry.output

/-- A simulation keeps apart what is visible on both sides. -/
theorem Simulates.visibleOutputs {step' : τ → κ → ρ × τ} {input : ι → κ} {output : ι → ο → ρ}
    {R : σ → τ → Prop} {visible' : κ → Bool} (h : Simulates step step' input output R)
    (hvisible : ∀ i, visible' (input i) = visible i) {s : σ} {t : τ} (hR : R s t) (is : List ι) :
    translated output ((history step s is).filter fun e => visible e.input)
      = Transition.visibleOutputs visible' (history step' t (is.map input)) := by
  induction is generalizing s t with
  | nil => rfl
  | cons i is ih =>
      obtain ⟨hout, hnext⟩ := h s t i trivial hR
      have hrest := ih hnext
      cases hi : visible i <;>
        simp_all [translated, Transition.visibleOutputs]

/-- **Noninterference**: if hidden inputs leave the view alone, and visible ones give outputs and
views that depend on the view, then hiding the hidden inputs of a run changes neither what the
visible ones are answered nor the view it ends with. -/
theorem noninterference (hhidden : ∀ s i, visible i = false → view (step s i).2 = view s)
    (hvisible : ∀ s t i, visible i = true → view s = view t →
      (step s i).1 = (step t i).1 ∧ view (step s i).2 = view (step t i).2)
    {s t : σ} (hview : view s = view t) (is : List ι) :
    visibleOutputs visible (history step s is) = outputs step t (is.filter visible) ∧
      view (run step s is) = view (run step t (is.filter visible)) := by
  induction is generalizing s t with
  | nil => exact ⟨rfl, hview⟩
  | cons i is ih =>
      cases hi : visible i with
      | false =>
          have hrest := ih ((hhidden s i hi).trans hview)
          simpa [visibleOutputs, List.filter_cons, hi] using hrest
      | true =>
          obtain ⟨hout, hnext⟩ := hvisible s t i hi hview
          have hrest := ih hnext
          simpa [visibleOutputs, List.filter_cons, hi, hout] using hrest

end Noninterference

end Transition
