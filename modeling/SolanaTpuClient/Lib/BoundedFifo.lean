import SolanaTpuClient.Lib.Transition

/-!
A bounded queue as a transition system.

A call appends an element, which a full queue refuses, or takes the oldest elements. Along every run
what has been taken followed by what is pending is what has been accepted (`conserved`): no element
is lost, duplicated or overtaken.
-/

namespace BoundedFifo

open Transition

variable {α : Type*}

/-- A call on a queue. -/
inductive Call (α : Type*) where
  | push (a : α)
  | take (n : ℕ)

/-- What a queue answers. -/
inductive Reply (α : Type*) where
  | pushed
  | full
  | taken (l : List α)

/-- One call on a queue of at most `capacity` elements. -/
def step (capacity : ℕ) (q : List α) : Call α → Reply α × List α
  | .push a => if q.length < capacity then (.pushed, q ++ [a]) else (.full, q)
  | .take n => (.taken (q.take n), q.drop n)

/-- The element a call has appended. -/
def accepted : Call α → Reply α → List α
  | .push a, .pushed => [a]
  | _, _ => []

/-- The elements a call has taken. -/
def delivered : Reply α → List α
  | .taken l => l
  | _ => []

/-- A step of a queue. -/
abbrev Step (α : Type*) := Entry (List α) (Call α) (Reply α)

/-- The elements appended along a run, oldest first. -/
def allAccepted (h : List (Step α)) : List α := h.flatMap fun e => accepted e.input e.output

/-- The elements taken along a run, oldest first. -/
def allDelivered (h : List (Step α)) : List α := h.flatMap fun e => delivered e.output

variable {capacity : ℕ} {q : List α}

lemma step_push_of_lt (h : q.length < capacity) (a : α) :
    step capacity q (.push a) = (.pushed, q ++ [a]) := if_pos h

lemma step_push_of_le (h : capacity ≤ q.length) (a : α) :
    step capacity q (.push a) = (.full, q) := if_neg (not_lt.mpr h)

/-- A call delivers a front of what it finds and of what it appends, and keeps the rest. -/
lemma step_conserved (capacity : ℕ) (q : List α) (call : Call α) :
    delivered (step capacity q call).1 ++ (step capacity q call).2
      = q ++ accepted call (step capacity q call).1 := by
  cases call with
  | push a =>
      rcases lt_or_ge q.length capacity with h | h
      · rw [step_push_of_lt h]
        rfl
      · rw [step_push_of_le h]
        exact (List.append_nil q).symm
  | take n => simp [step, delivered, accepted]

/-- **Nothing is lost, duplicated or overtaken**: what has been taken along a run, followed by what
is pending, is what was there at the start followed by what has been appended. -/
theorem conserved (calls : List (Call α)) :
    allDelivered (history (step capacity) q calls) ++ run (step capacity) q calls
      = q ++ allAccepted (history (step capacity) q calls) := by
  induction calls generalizing q with
  | nil => simp [allDelivered, allAccepted]
  | cons call calls ih =>
      have hone := step_conserved capacity q call
      have hrest := ih (q := (step capacity q call).2)
      simp only [allDelivered, allAccepted, history_cons, List.flatMap_cons, run_cons, entry_input,
        entry_output] at hrest ⊢
      rw [List.append_assoc, hrest, ← List.append_assoc, hone, List.append_assoc]

end BoundedFifo
