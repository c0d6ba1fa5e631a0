import Mathlib.Tactic

/-!
Loops whose body may return from the function around them.

The body of such a loop either goes on with a new state or returns a result. `rounds body n s` is
what `n` rounds come to: the state they lead to, or the result of the round that returned. A loop
that need not end is described by what all its finite runs come to. `rounds_of_running` is the rule
for a loop that runs on, with an invariant that knows how many rounds have passed, and
`rounds_of_return` says that the first round that returns ends the loop.
-/

namespace ReturningLoop

variable {σ ρ : Type*} {body : σ → Except ρ σ} {s t : σ} {r : ρ} {m n : ℕ}

/-- `n` rounds of a loop, or fewer when one of them returns. -/
def rounds (body : σ → Except ρ σ) : ℕ → σ → Except ρ σ
  | 0, s => .ok s
  | n + 1, s =>
      match rounds body n s with
      | .ok t => body t
      | .error r => .error r

@[simp] lemma rounds_zero : rounds body 0 s = .ok s := rfl

/-- One more round of a loop that still runs. -/
lemma rounds_succ_of_running (h : rounds body n s = .ok t) : rounds body (n + 1) s = body t := by
  rw [rounds, h]

/-- One more round of a loop that has returned changes nothing. -/
lemma rounds_succ_of_returned (h : rounds body n s = .error r) :
    rounds body (n + 1) s = .error r := by
  rw [rounds, h]

/-- A loop that has returned has the same result after any number of rounds. -/
lemma rounds_of_returned (h : rounds body n s = .error r) (hle : n ≤ m) :
    rounds body m s = .error r := by
  induction m, hle using Nat.le_induction with
  | base => exact h
  | succ m _ ih => exact rounds_succ_of_returned ih

/-- **The loop rule**: if each of the first `n` rounds goes on from a state with the invariant to one
with the invariant of the next round, then the loop still runs after `n` rounds. -/
theorem rounds_of_running {P : ℕ → σ → Prop} (h0 : P 0 s)
    (hstep : ∀ k < n, ∀ t, P k t → ∃ t', body t = .ok t' ∧ P (k + 1) t') :
    ∃ t, rounds body n s = .ok t ∧ P n t := by
  induction n with
  | zero => exact ⟨s, rounds_zero, h0⟩
  | succ n ih =>
      obtain ⟨t, hrun, ht⟩ := ih fun k hk => hstep k (by omega)
      obtain ⟨t', hbody, ht'⟩ := hstep n (by omega) t ht
      exact ⟨t', (rounds_succ_of_running hrun).trans hbody, ht'⟩

/-- The round that returns ends the loop. -/
lemma rounds_of_return (hrun : rounds body m s = .ok t) (hbody : body t = .error r) (hlt : m < n) :
    rounds body n s = .error r :=
  rounds_of_returned ((rounds_succ_of_running hrun).trans hbody) hlt

end ReturningLoop
