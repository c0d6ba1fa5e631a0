import SolanaTpuClient.Spec.Service

/-!
Several services side by side.

A roster has a slot for each service that has been started, empty if it could not be or once it is
stopped. A command to one slot is a command to its service and looks at no other slot, so the
commands to other slots can be taken out (`Roster.isolated`).
-/

namespace SolanaTpuClient

open Transition

/-- A slot for each service. -/
abbrev Roster := List (Option Service)

/-- A command to start a service, which may fail, to one of the services, or to stop one. -/
inductive RosterCommand where
  | start (status : Status)
  | call (k : ℕ) (command : Command)
  | stop (k : ℕ)

/-- What a roster answers. -/
inductive RosterReply where
  | started (status : Status)
  | replied (r : Reply)
  | stopped
deriving DecidableEq

/-- A command that comes through a null pointer. -/
def Command.throughNull : Command → Command
  | .install _ memory clock => .install (.error Status.invalidArgument) memory clock
  | .submit _ memory admission commit =>
      .submit (.error Status.invalidArgument) memory admission commit
  | .poll _ => .poll (.error Status.invalidArgument)

/-- What a command through a null pointer is answered with. -/
def Command.refusal (command : Command) : Reply := (Service.new.step command.throughNull).1

namespace Roster

/-- One command. -/
def step (roster : Roster) : RosterCommand → RosterReply × Roster
  | .start status =>
      (.started status, roster ++ [if status = Status.ok then some Service.new else none])
  | .call k command =>
      match (roster[k]?).join with
      | none => (.replied command.refusal, roster)
      | some v =>
          let r := v.step command
          (.replied r.1, roster.set k (some r.2))
  | .stop k => (.stopped, roster.set k none)

/-- A command that starts a service or concerns the `k`-th one. -/
def concerns (k : ℕ) : RosterCommand → Bool
  | .start _ => true
  | .call j _ => j == k
  | .stop j => j == k

/-- How many slots there are, and what is in the `k`-th one. -/
def view (k : ℕ) (roster : Roster) : ℕ × Option (Option Service) := (roster.length, roster[k]?)

variable {k : ℕ} {roster roster' : Roster}

lemma view_set_of_ne {j : ℕ} (h : j ≠ k) (slot : Option Service) :
    view k (roster.set j slot) = view k roster := by
  simp [view, List.getElem?_set_ne h]

lemma view_set (slot : Option Service) (h : view k roster = view k roster') :
    view k (roster.set k slot) = view k (roster'.set k slot) := by
  obtain ⟨hlength, hslot⟩ := Prod.ext_iff.mp h
  refine Prod.ext (by simpa [view] using hlength) ?_
  simp only [view] at hslot ⊢
  rw [List.getElem?_set_self', List.getElem?_set_self', hslot]

lemma view_append (slot : Option Service) (h : view k roster = view k roster') :
    view k (roster ++ [slot]) = view k (roster' ++ [slot]) := by
  obtain ⟨hlength, hslot⟩ := Prod.ext_iff.mp h
  simp only [view] at hlength hslot
  simp only [view, List.length_append, List.getElem?_append, hlength, hslot]

/-- A command that does not concern a slot leaves it alone. -/
lemma view_of_hidden (roster : Roster) (command : RosterCommand)
    (h : concerns k command = false) : view k (step roster command).2 = view k roster := by
  cases command with
  | start status => cases h
  | call j command =>
      have hne : j ≠ k := by simpa [concerns] using h
      rw [step]
      cases (roster[j]?).join with
      | none => rfl
      | some v => exact view_set_of_ne hne _
  | stop j => exact view_set_of_ne (by simpa [concerns] using h) none

/-- A command that concerns a slot looks at no other. -/
lemma view_of_visible (roster roster' : Roster) (command : RosterCommand)
    (h : concerns k command = true) (hview : view k roster = view k roster') :
    (step roster command).1 = (step roster' command).1 ∧
      view k (step roster command).2 = view k (step roster' command).2 := by
  cases command with
  | start status => exact ⟨rfl, view_append _ hview⟩
  | call j command =>
      obtain rfl : j = k := by simpa [concerns] using h
      have hslot : roster[j]? = roster'[j]? := (Prod.ext_iff.mp hview).2
      rw [step, step, hslot]
      cases (roster'[j]?).join with
      | none => exact ⟨rfl, hview⟩
      | some v => exact ⟨rfl, view_set _ hview⟩
  | stop j =>
      obtain rfl : j = k := by simpa [concerns] using h
      exact ⟨rfl, view_set none hview⟩

/-- **Services are isolated**: taking the commands to all other services out of a run changes
neither the replies to the rest nor the service. -/
theorem isolated (k : ℕ) (roster : Roster) (commands : List RosterCommand) :
    visibleOutputs (concerns k) (history step roster commands)
        = outputs step roster (commands.filter (concerns k)) ∧
      view k (run step roster commands)
        = view k (run step roster (commands.filter (concerns k))) :=
  noninterference view_of_hidden view_of_visible rfl commands

end Roster

end SolanaTpuClient
