import Mathlib.Tactic

/-!
Buffers that are drained and filled.

A step of a buffer takes from its front as many elements as there is room for and then appends
others (`Flow`); what it takes it passes on.

* `take_prefix_passedOn`, `passedOn_of_le`: what a run passes on begins with as many of the elements
  that were there at the start as it has room for, and is no more than these while they last;
* `after_length_le_iff`: how full a run leaves a buffer is decided by the windows that end with it.
  No more than `n` elements are left exactly if no window has brought in more than `n` elements
  beyond what its later steps had room for.
-/

namespace Backlog

variable {α : Type*}

/-- A step of a buffer: up to `room` elements leave from the front, then `arrivals` join at the
back. -/
structure Flow (α : Type*) where
  room : ℕ
  arrivals : List α

/-- The buffer after a step. -/
def Flow.next (f : Flow α) (buffer : List α) : List α := buffer.drop f.room ++ f.arrivals

/-- The buffer after a run. -/
def after : List α → List (Flow α) → List α
  | buffer, [] => buffer
  | buffer, f :: fs => after (f.next buffer) fs

/-- What a run passes on, oldest first. -/
def passedOn : List α → List (Flow α) → List α
  | _, [] => []
  | buffer, f :: fs => buffer.take f.room ++ passedOn (f.next buffer) fs

/-- How many elements a run has room for. -/
def rooms (fs : List (Flow α)) : ℕ := (fs.map Flow.room).sum

/-- How many elements a run brings in. -/
def arrived (fs : List (Flow α)) : ℕ := (fs.map fun f => f.arrivals.length).sum

@[simp] lemma rooms_nil : rooms ([] : List (Flow α)) = 0 := rfl

@[simp] lemma rooms_cons (f : Flow α) (fs : List (Flow α)) : rooms (f :: fs) = f.room + rooms fs :=
  List.sum_cons

@[simp] lemma arrived_nil : arrived ([] : List (Flow α)) = 0 := rfl

@[simp] lemma arrived_cons (f : Flow α) (fs : List (Flow α)) :
    arrived (f :: fs) = f.arrivals.length + arrived fs := List.sum_cons

lemma rooms_concat (fs : List (Flow α)) (f : Flow α) : rooms (fs ++ [f]) = rooms fs + f.room := by
  simp [rooms]

lemma arrived_concat (fs : List (Flow α)) (f : Flow α) :
    arrived (fs ++ [f]) = arrived fs + f.arrivals.length := by
  simp [arrived]

/-! ### What is passed on -/

variable {buffer : List α} {fs : List (Flow α)}

/-- **The elements at the front are passed on** as far as there is room for them. -/
theorem take_prefix_passedOn : buffer.take (rooms fs) <+: passedOn buffer fs := by
  induction fs generalizing buffer with
  | nil => simp [passedOn]
  | cons f fs ih =>
      rw [rooms_cons, List.take_add, passedOn]
      refine (List.prefix_append_right_inj _).mpr (List.IsPrefix.trans ?_ ih)
      exact (List.prefix_append _ _).take _

/-- While the elements of the start last, no others are passed on. -/
theorem passedOn_of_le (h : rooms fs ≤ buffer.length) :
    passedOn buffer fs = buffer.take (rooms fs) := by
  induction fs generalizing buffer with
  | nil => simp [passedOn]
  | cons f fs ih =>
      rw [rooms_cons] at h
      have hrest : rooms fs ≤ (buffer.drop f.room).length := by
        rw [List.length_drop]
        omega
      have hnext : rooms fs ≤ (f.next buffer).length := by
        rw [Flow.next, List.length_append]
        omega
      rw [passedOn, ih hnext, Flow.next, List.take_append_of_le_length hrest, rooms_cons,
        List.take_add]

/-! ### How full the buffer is -/

lemma after_concat (buffer : List α) (fs : List (Flow α)) (f : Flow α) :
    after buffer (fs ++ [f]) = f.next (after buffer fs) := by
  induction fs generalizing buffer with
  | nil => rfl
  | cons g fs ih => exact ih (g.next buffer)

lemma Flow.next_length (f : Flow α) (buffer : List α) :
    (f.next buffer).length = buffer.length - f.room + f.arrivals.length := by
  rw [Flow.next, List.length_append, List.length_drop]

/-- **The level of a buffer** is the largest excess, over the windows that end with the run, of what
the window brings in over what its later steps have room for. -/
theorem after_length_le_iff {n : ℕ} :
    (after buffer fs).length ≤ n ↔ buffer.length + arrived fs ≤ n + rooms fs ∧
      ∀ f gs, f :: gs <:+ fs → arrived (f :: gs) ≤ n + rooms gs := by
  induction fs using List.reverseRecOn generalizing n with
  | nil => simp [after]
  | append_singleton fs f ih =>
      have hlast : (after buffer (fs ++ [f])).length ≤ n ↔ f.arrivals.length ≤ n ∧
          (after buffer fs).length ≤ n - f.arrivals.length + f.room := by
        rw [after_concat, Flow.next_length]
        omega
      rw [hlast, ih, rooms_concat, arrived_concat]
      constructor
      · rintro ⟨hfits, hstart, hwindows⟩
        refine ⟨by omega, fun g gs hsuffix => ?_⟩
        obtain hnil | ⟨hs, hconcat, hs_suffix⟩ := List.suffix_concat_iff.mp hsuffix
        · exact absurd hnil (List.cons_ne_nil g gs)
        cases hs with
        | nil =>
            obtain ⟨rfl, rfl⟩ := List.cons.inj hconcat
            simpa using hfits
        | cons g' hs =>
            obtain ⟨rfl, hgs⟩ := List.cons.inj hconcat
            obtain rfl : gs = hs ++ [f] := hgs
            have hwindow := hwindows g hs hs_suffix
            rw [arrived_cons, arrived_concat, rooms_concat]
            rw [arrived_cons] at hwindow
            omega
      · rintro ⟨hstart, hwindows⟩
        have hfits : f.arrivals.length ≤ n := by
          simpa using hwindows f [] (List.suffix_append fs [f])
        refine ⟨hfits, by omega, fun g gs hsuffix => ?_⟩
        have hwindow := hwindows g (gs ++ [f])
          (List.suffix_concat_iff.mpr (Or.inr ⟨g :: gs, rfl, hsuffix⟩))
        rw [arrived_cons, arrived_concat, rooms_concat] at hwindow
        rw [arrived_cons]
        omega

/-- For a buffer that is empty at the start the windows say it all. -/
theorem after_nil_length_le_iff {n : ℕ} :
    (after [] fs).length ≤ n ↔ ∀ f gs, f :: gs <:+ fs → arrived (f :: gs) ≤ n + rooms gs := by
  rw [after_length_le_iff, and_iff_right_iff_imp]
  intro hwindows
  cases fs with
  | nil => simp
  | cons f fs =>
      have hwhole := hwindows f fs (List.suffix_refl _)
      rw [rooms_cons, List.length_nil]
      omega

end Backlog
