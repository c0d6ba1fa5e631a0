import SolanaTpuClient.Lib.Ledger
import SolanaTpuClient.Lib.Procedure
import SolanaTpuClient.Delivery.Abi

/-!
What a call of the library meets outside of it: the allocator, its ledger and the monotonic
clock.

The answers of `calloc_fn` and of the clock to one call of the library are arbitrary
(`Answers`); they are consumed in order. Every allocation and every free is entered in a
`Ledger`. A block (`Block`) is what a non-null answer of `calloc_fn` points to: the number the
ledger gave it, its address and its contents.
-/

namespace SolanaTpuClient

open Procedure

/-! ### Blocks -/

/-- An address `calloc` returns: not null, and aligned for every record type, `8` being the
largest alignment among them. -/
structure BlockAddr where
  val : Addr
  ne_null : val ≠ 0
  aligned : val % 8 = 0

/-- An allocated block with its contents. A C pointer into the heap is an `Option (Block α)`. -/
structure Block (α : Type) where
  id : ℕ
  addr : BlockAddr
  data : α

namespace Block

variable {α : Type}

/-- The block a heap pointer points to. -/
def idOf (p : Option (Block α)) : Option ℕ := p.map Block.id

/-- The address a heap pointer holds. -/
def addrOf (p : Option (Block α)) : Addr := (p.map fun b => b.addr.val).getD 0

/-- The array a heap pointer points to, empty for a null pointer. -/
def contents (p : Option (Block (List α))) : List α := (p.map Block.data).getD []

@[simp] lemma idOf_none : idOf (none : Option (Block α)) = none := rfl

@[simp] lemma idOf_some (b : Block α) : idOf (some b) = some b.id := rfl

@[simp] lemma addrOf_none : addrOf (none : Option (Block α)) = 0 := rfl

@[simp] lemma addrOf_some (b : Block α) : addrOf (some b) = b.addr.val := rfl

@[simp] lemma contents_none : contents (none : Option (Block (List α))) = [] := rfl

@[simp] lemma contents_some (b : Block (List α)) : contents (some b) = b.data := rfl

end Block

/-! ### The allocator and the clock -/

/-- `solana_delivery_allocator_t`: two function pointers and their context. -/
structure Allocator where
  callocFn : Addr
  freeFn : Addr
  context : Addr
deriving DecidableEq

/-- `allocator_is_valid` -/
def allocatorIsValid (allocator : Option Allocator) : Bool :=
  match allocator with
  | none => false
  | some a => a.callocFn != 0 && a.freeFn != 0

/-- What one call of the clock function returns and stores. -/
structure ClockAnswer where
  status : Status
  timeNs : UInt64
deriving DecidableEq

/-- The answers of the allocator and of the clock to one call of the library, by the number of
the question; `none` is a failed allocation. -/
structure Answers where
  calloc : ℕ → Option BlockAddr
  clock : ℕ → ClockAnswer

/-- The world a call of the library runs in. -/
structure World where
  answers : Answers
  callocCalls : ℕ
  clockCalls : ℕ
  ledger : Ledger

namespace World

/-- The world at the start of a call. -/
def start (answers : Answers) (ledger : Ledger) : World := ⟨answers, 0, 0, ledger⟩

/-- The world after a failed allocation. -/
def callocFailed (w : World) : World := { w with callocCalls := w.callocCalls + 1 }

/-- The world after a successful allocation. -/
def callocDone (w : World) : World :=
  { w with callocCalls := w.callocCalls + 1, ledger := w.ledger.alloc }

/-- `allocator->calloc_fn`, the zeroed block having the contents `data`. -/
def calloc {α : Type} (data : α) : EStateM Status World (Option (Block α)) := fun w =>
  match w.answers.calloc w.callocCalls with
  | none => .ok none w.callocFailed
  | some addr => .ok (some ⟨w.ledger.next, addr, data⟩) w.callocDone

/-- `allocator->free_fn` -/
def free (w : World) (p : Option ℕ) : World := { w with ledger := w.ledger.free p }

/-- The world after a reading of the clock. -/
def clockRead (w : World) : World := { w with clockCalls := w.clockCalls + 1 }

/-- A call of `client->monotonic_time_fn` whose status is passed on when it is not `OK`. -/
def monotonicTime : EStateM Status World UInt64 := fun w =>
  let answer := w.answers.clock w.clockCalls
  if answer.status = Status.ok then .ok answer.timeNs w.clockRead
  else .error answer.status w.clockRead

@[simp] lemma start_ledger (answers : Answers) (ledger : Ledger) :
    (start answers ledger).ledger = ledger := rfl

@[simp] lemma start_answers (answers : Answers) (ledger : Ledger) :
    (start answers ledger).answers = answers := rfl

@[simp] lemma start_callocCalls (answers : Answers) (ledger : Ledger) :
    (start answers ledger).callocCalls = 0 := rfl

@[simp] lemma start_clockCalls (answers : Answers) (ledger : Ledger) :
    (start answers ledger).clockCalls = 0 := rfl

variable {w : World} {M : Multiset ℕ}

@[simp] lemma callocFailed_ledger : w.callocFailed.ledger = w.ledger := rfl

@[simp] lemma callocDone_ledger : w.callocDone.ledger = w.ledger.alloc := rfl

@[simp] lemma clockRead_ledger : w.clockRead.ledger = w.ledger := rfl

@[simp] lemma free_ledger (p : Option ℕ) : (w.free p).ledger = w.ledger.free p := rfl

lemma calloc_of_none {α : Type} {data : α} (h : w.answers.calloc w.callocCalls = none) :
    calloc data w = .ok none w.callocFailed := by
  simp [calloc, h]

lemma calloc_of_some {α : Type} {data : α} {addr : BlockAddr}
    (h : w.answers.calloc w.callocCalls = some addr) :
    calloc data w = .ok (some ⟨w.ledger.next, addr, data⟩) w.callocDone := by
  simp [calloc, h]

/-- The world after `n` allocations, all of them granted. -/
structure Allocated (w w' : World) (n : ℕ) : Prop where
  answers : w'.answers = w.answers
  callocCalls : w'.callocCalls = w.callocCalls + n
  clockCalls : w'.clockCalls = w.clockCalls
  granted : ∀ k < n, (w.answers.calloc (w.callocCalls + k)).isSome

/-- One of the next `n` allocations is refused. -/
def Refuses (w : World) (n : ℕ) : Prop := ∃ k < n, w.answers.calloc (w.callocCalls + k) = none

lemma Allocated.refl (w : World) : w.Allocated w 0 := ⟨rfl, rfl, rfl, by simp⟩

lemma Allocated.trans {w₁ w₂ : World} {n m : ℕ} (h : w.Allocated w₁ n) (h' : w₁.Allocated w₂ m) :
    w.Allocated w₂ (n + m) where
  answers := h'.answers.trans h.answers
  callocCalls := by rw [h'.callocCalls, h.callocCalls, Nat.add_assoc]
  clockCalls := h'.clockCalls.trans h.clockCalls
  granted := by
    intro k hk
    by_cases hkn : k < n
    · exact h.granted k hkn
    · have hg := h'.granted (k - n) (by omega)
      rwa [h.answers, h.callocCalls, Nat.add_assoc, show n + (k - n) = k by omega] at hg

lemma Refuses.mono {n m : ℕ} (h : w.Refuses n) (hnm : n ≤ m) : w.Refuses m := by
  obtain ⟨k, hk, hnone⟩ := h
  exact ⟨k, hk.trans_le hnm, hnone⟩

/-- A refusal after `n` granted allocations is a refusal among the ones to come. -/
lemma Allocated.refuses {w₁ : World} {n m : ℕ} (h : w.Allocated w₁ n) (h' : w₁.Refuses m) :
    w.Refuses (n + m) := by
  obtain ⟨k, hk, hnone⟩ := h'
  rw [h.answers, h.callocCalls, Nat.add_assoc] at hnone
  exact ⟨n + k, by omega, hnone⟩

/-- Granted allocations contain no refusal. -/
lemma Allocated.not_refuses {w₁ : World} {n : ℕ} (h : w.Allocated w₁ n) : ¬ w.Refuses n := by
  rintro ⟨k, hk, hnone⟩
  have hg := h.granted k hk
  rw [hnone] at hg
  exact absurd hg (by simp)

lemma allocated_callocDone (h : (w.answers.calloc w.callocCalls).isSome) :
    w.Allocated w.callocDone 1 where
  answers := rfl
  callocCalls := rfl
  clockCalls := rfl
  granted := by
    intro k hk
    obtain rfl : k = 0 := by omega
    exact h

lemma monotonicTime_of_ok (h : (w.answers.clock w.clockCalls).status = Status.ok) :
    monotonicTime w = .ok (w.answers.clock w.clockCalls).timeNs w.clockRead := by
  simp [monotonicTime, h]

lemma monotonicTime_of_ne (h : (w.answers.clock w.clockCalls).status ≠ Status.ok) :
    monotonicTime w = .error (w.answers.clock w.clockCalls).status w.clockRead := by
  simp [monotonicTime, h]

/-- The stage a reading of the clock is. -/
def clockStage (sample : ClockAnswer) : Bool × Status :=
  (sample.status == Status.ok, sample.status)

/-- Reading the clock changes nothing but the number of readings. -/
lemma decides_monotonicTime :
    Decides monotonicTime w [clockStage (w.answers.clock w.clockCalls)]
      (fun t w' => t = (w.answers.clock w.clockCalls).timeNs ∧ w' = w.clockRead)
      (fun w' => w'.ledger = w.ledger) := by
  by_cases h : (w.answers.clock w.clockCalls).status = Status.ok
  · exact ensures_of_ok (monotonicTime_of_ok h) ⟨by simp [clockStage, h], rfl, rfl⟩
  · exact ensures_of_error (monotonicTime_of_ne h) ⟨by simp [clockStage, h], rfl⟩

end World

end SolanaTpuClient
