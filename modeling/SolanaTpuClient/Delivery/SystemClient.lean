import SolanaTpuClient.Delivery.ClockReadings
import SolanaTpuClient.Delivery.SystemClock

/-!
The client of `solana_delivery_client_create`, whose allocator is `calloc` and `free` and whose
clock is `CLOCK_MONOTONIC`.

What the system answers to a call (`HostAnswers`) takes the place of the answers of the dependencies:
`system_calloc` passes on what `calloc` returns, and the clock of a call is
`systemMonotonicTimeNs` of what `clock_gettime` stores.
-/

namespace SolanaTpuClient

open Transition

/-! ### Creation -/

/-- The addresses of the functions a default client depends on. -/
structure SystemFunctions where
  systemCalloc : Addr
  systemFree : Addr
  systemMonotonicTimeNs : Addr
  systemCalloc_ne_null : systemCalloc ≠ 0
  systemFree_ne_null : systemFree ≠ 0
  systemMonotonicTimeNs_ne_null : systemMonotonicTimeNs ≠ 0

/-- `SYSTEM_ALLOCATOR` -/
def systemAllocator (f : SystemFunctions) : Allocator := ⟨f.systemCalloc, f.systemFree, 0⟩

/-- `solana_delivery_client_create_with_allocator` -/
def clientCreateWithAllocator (f : SystemFunctions) (allocator : Option Allocator)
    (outClientIsNull : Bool) : EStateM Status World (Block Client) :=
  clientCreateWithDependencies allocator f.systemMonotonicTimeNs 0 outClientIsNull

/-- `solana_delivery_client_create` -/
def clientCreate (f : SystemFunctions) (outClientIsNull : Bool) :
    EStateM Status World (Block Client) :=
  clientCreateWithAllocator f (some (systemAllocator f)) outClientIsNull

lemma systemAllocator_valid (f : SystemFunctions) :
    allocatorIsValid (some (systemAllocator f)) = true := by
  simp [allocatorIsValid, systemAllocator, f.systemCalloc_ne_null, f.systemFree_ne_null]

/-- The dependencies of a default client at `addr`. -/
def systemDependencies (f : SystemFunctions) (addr : BlockAddr) : Dependencies where
  allocator := systemAllocator f
  allocator_valid := systemAllocator_valid f
  monotonicTimeFn := f.systemMonotonicTimeNs
  monotonicTimeFn_ne_null := f.systemMonotonicTimeNs_ne_null
  monotonicTimeContext := 0
  clientAddr := addr

/-! ### Calls answered by the system -/

/-- What `calloc` and `clock_gettime` answer during one call of the library, by the number of the
question. -/
structure HostAnswers where
  calloc : ℕ → Option BlockAddr
  clockGettime : ℕ → Option Timespec

/-- What `system_monotonic_time_ns` returns to a client and stores for it; the client has set what
`out_time_ns` points to to zero. -/
def clockAnswerOf (now : Option Timespec) : ClockAnswer :=
  let r := systemMonotonicTimeNs now (some 0)
  ⟨r.1, r.2.getD 0⟩

/-- What the dependencies of a default client answer. -/
def HostAnswers.answers (host : HostAnswers) : Answers where
  calloc := host.calloc
  clock k := clockAnswerOf (host.clockGettime k)

/-- A call with the answers replaced. -/
def Op.answeredWith (answers : Answers) : Op → Op
  | .installTopology handle topology _ => .installTopology handle topology answers
  | .refreshTopology handle provider acquired _ =>
      .refreshTopology handle provider acquired answers
  | .submit handle transactionBytes transactionLength options outRequestId _ =>
      .submit handle transactionBytes transactionLength options outRequestId answers
  | .pollEvents handle events eventCapacity eventStride outEventCount =>
      .pollEvents handle events eventCapacity eventStride outEventCount

/-- A call on a default client, with what the system answers during it. -/
structure HostCall where
  request : Op
  host : HostAnswers

/-- The call with the answers of the dependencies. -/
def HostCall.op (call : HostCall) : Op := call.request.answeredWith call.host.answers

/-- One call on a default client. -/
def systemStep (s : State) (call : HostCall) : Outcome × State := step s call.op

/-- A step of a default client in the record of a run. -/
abbrev HostStep := Entry State HostCall Outcome

/-- The step with the answers of the dependencies. -/
def stepOf (e : HostStep) : Step := ⟨e.pre, e.input.op, e.output, e.post⟩

/-- The readings of `CLOCK_MONOTONIC` a call takes, in order, failed ones left out. -/
def readingsOf (s : State) (call : HostCall) : List Timespec :=
  (List.range (clockReadings s call.op)).filterMap call.host.clockGettime

/-- The readings taken along a run, in order. -/
def readings (h : List HostStep) : List Timespec := h.flatMap fun e => readingsOf e.pre e.input

/-! ### What the clock tells -/

section Told

variable {s : State} {call : HostCall} {now : Timespec} {t : UInt64}

lemma readings_append (h₁ h₂ : List HostStep) :
    readings (h₁ ++ h₂) = readings h₁ ++ readings h₂ :=
  List.flatMap_append

lemma readings_cons (e : HostStep) (h : List HostStep) :
    readings (e :: h) = readingsOf e.pre e.input ++ readings h :=
  List.flatMap_cons

/-- A failed reading is refused. -/
lemma clockAnswerOf_none : clockAnswerOf none = ⟨Status.internalError, 0⟩ := rfl

/-- The clock returns `OK` or `INTERNAL_ERROR`, and `OK` exactly for the accepted readings. -/
lemma clockAnswerOf_some (now : Timespec) :
    (now.Accepted ∧ (clockAnswerOf (some now)).status = Status.ok ∧
      ((clockAnswerOf (some now)).timeNs.toNat : ℤ) = now.nanoseconds % 2 ^ 64) ∨
    (¬now.Accepted ∧ (clockAnswerOf (some now)).status = Status.internalError) := by
  by_cases hacc : now.Accepted
  · obtain ⟨t, ht, hvalue⟩ := systemMonotonicTimeNs_of_accepted hacc 0
    exact Or.inl ⟨hacc, by rw [clockAnswerOf, ht], by rw [clockAnswerOf, ht]; exact hvalue⟩
  · refine Or.inr ⟨hacc, ?_⟩
    rw [clockAnswerOf, systemMonotonicTimeNs_of_not_accepted hacc]

/-- The time a reading tells. -/
def Timespec.told (now : Timespec) : Option UInt64 := (clockAnswerOf (some now)).time?

lemma Timespec.told_eq_some (h : now.told = some t) :
    now.Accepted ∧ (t.toNat : ℤ) = now.nanoseconds % 2 ^ 64 := by
  obtain ⟨hok, rfl⟩ := ClockAnswer.time?_eq_some.mp h
  rcases clockAnswerOf_some now with ⟨hacc, -, hvalue⟩ | ⟨-, hrefused⟩
  · exact ⟨hacc, hvalue⟩
  · exact absurd (hrefused.symm.trans hok) Status.internalError_ne_ok

lemma op_answers (hop : call.op.answers ≠ none) : call.op.answers = some call.host.answers := by
  obtain ⟨request, host⟩ := call
  cases request with
  | installTopology handle topology answers => rfl
  | refreshTopology handle provider acquired answers => rfl
  | submit handle transactionBytes transactionLength options outRequestId answers => rfl
  | pollEvents handle events eventCapacity eventStride outEventCount => exact absurd rfl hop

/-- The samples of a call are what its readings are turned into. -/
lemma samplesOf_op : samplesOf s call.op
    = (List.range (clockReadings s call.op)).map fun k => clockAnswerOf (call.host.clockGettime k) := by
  cases hop : call.op.answers with
  | none =>
      obtain ⟨request, host⟩ := call
      cases request with
      | installTopology handle topology answers => cases hop
      | refreshTopology handle provider acquired answers => cases hop
      | submit handle transactionBytes transactionLength options outRequestId answers => cases hop
      | pollEvents handle events eventCapacity eventStride outEventCount => rfl
  | some answers => rw [samplesOf_eq (op_answers (by simp [hop]))]; rfl

/-- The times of a call are what its readings tell. -/
lemma timesOf_op : timesOf s call.op = (readingsOf s call).filterMap Timespec.told := by
  rw [timesOf, samplesOf_op, readingsOf, List.filterMap_map, List.filterMap_filterMap]
  refine List.filterMap_congr fun k _ => ?_
  rw [Function.comp_apply]
  cases call.host.clockGettime k <;> rfl

/-- The times told along a run are what its readings tell. -/
lemma clockTimes_stepOf (h : List HostStep) :
    clockTimes (h.map stepOf) = (readings h).filterMap Timespec.told := by
  induction h with
  | nil => rfl
  | cons e h ih =>
      rw [List.map_cons, clockTimes_cons, ih, readings_cons, List.filterMap_append]
      exact congrArg (· ++ _) timesOf_op

end Told

/-- A run of a default client is one of a client with its dependencies. -/
lemma history_systemStep (s : State) (calls : List HostCall) :
    run step s (calls.map HostCall.op) = run systemStep s calls ∧
      history step s (calls.map HostCall.op) = (history systemStep s calls).map stepOf :=
  run_simulation (P := fun _ => True) id HostCall.op (fun _ o => o) (fun _ _ _ => trivial)
    (fun _ _ _ => rfl) trivial calls

end SolanaTpuClient
