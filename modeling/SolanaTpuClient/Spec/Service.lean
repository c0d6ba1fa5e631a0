import SolanaTpuClient.Lib.Refinement
import SolanaTpuClient.Spec.Snapshot
import SolanaTpuClient.Delivery.Submission

/-!
What the client is for: a service that accepts transactions for the topology in use and tells of
every acceptance once.

The service keeps no memory of its own: it is the topology in use with its time of receipt, the log
of the acceptances and a cursor into the log up to where they have been told of (`Service`). An
installation replaces the topology, a submission appends to the log, a poll advances the cursor.
Which arguments are valid, what the allocator grants and what the clock reads come with the command
(`Command`); what a call returns is a `Reply`.

* `Service.record_of_room`, `Service.waiting_record`: a recorded acceptance waits to be told of;
* `Service.waiting_deliver`: what is told of no longer waits;
* `Service.step_of_failure`: a command that fails leaves the service alone.
-/

namespace SolanaTpuClient

/-- A topology in use and the time it was received. -/
structure Installation where
  snapshot : Snapshot
  receivedNs : UInt64

/-- What is recorded of an accepted transaction. -/
structure Acceptance where
  topologyGeneration : UInt64
  routingSlot : UInt64
  transaction : List UInt8
  targets : List OwnedRequestTarget
  acceptedNs : UInt64

/-- What a caller asks for with a transaction. -/
structure Submission where
  transaction : List UInt8
  maxTopologyAgeNs : UInt64
  targetLimit : ℕ

/-- The service: the `k`-th acceptance of the log has the identifier `k + 1`, and the first
`delivered` of them have been told of. No more than the capacity of the queue are waiting, and
every acceptance has an identifier of its own. -/
structure Service where
  installed : Option Installation
  log : List Acceptance
  delivered : ℕ
  delivered_le : delivered ≤ log.length
  waiting_le : log.length ≤ delivered + eventQueueCapacity
  log_lt : log.length < 2 ^ 64

/-- A command: what a call asks for, or the status its arguments are refused with, and what the
allocator grants and the clock reads during it. -/
inductive Command where
  | install (offer : Except Status Snapshot) (memory : ℕ → Bool) (clock : Except Status UInt64)
  | submit (request : Except Status Submission) (memory : ℕ → ℕ → Bool)
      (admission commit : Except Status UInt64)
  | poll (capacity : Except Status ℕ)

/-- What a command is answered with. -/
inductive Reply where
  | installed (status : Status)
  | submitted (status : Status) (requestId : Option UInt64)
  | polled (status : Status) (events : List Event)
deriving DecidableEq

/-- The status of a reply. -/
def Reply.status : Reply → Status
  | .installed status => status
  | .submitted status _ => status
  | .polled status _ => status

/-- The arrays a list of records takes: none if it is empty. -/
def arraysOf {α : Type} (records : List α) : ℕ := if records.isEmpty then 0 else 1

/-- The nonempty arrays of a snapshot. -/
def Snapshot.arrayCount (S : Snapshot) : ℕ :=
  arraysOf S.validators + arraysOf S.endpoints + arraysOf S.validatorEndpoints + arraysOf S.leaders

/-- The reading of a clock that must not have gone back behind the receipt of the topology. -/
def Installation.now (i : Installation) (clock : Except Status UInt64) : Except Status UInt64 := do
  let now ← clock
  if now < i.receivedNs then .error Status.internalError else .ok now

namespace Service

/-- The service of a new client. -/
def new : Service := ⟨none, [], 0, le_rfl, Nat.zero_le _, Nat.two_pow_pos 64⟩

/-- One more acceptance can be recorded: an identifier is left and the queue is not full. -/
def HasRoom (v : Service) : Prop :=
  v.log.length + 1 < 2 ^ 64 ∧ v.log.length < v.delivered + eventQueueCapacity

instance (v : Service) : Decidable v.HasRoom := inferInstanceAs (Decidable (_ ∧ _))

/-- A topology of this generation would be newer than the one in use. -/
def Accepts (v : Service) (generation : UInt64) : Prop :=
  ∀ i ∈ v.installed, i.snapshot.generation < generation

instance (v : Service) (generation : UInt64) : Decidable (v.Accepts generation) :=
  inferInstanceAs (Decidable (∀ i ∈ v.installed, _))

/-- The events of the log, oldest first. -/
def events (v : Service) : List Event :=
  v.log.zipIdx.map fun p => acceptedEvent (UInt64.ofNat (p.2 + 1)) p.1.acceptedNs

/-- The events that have not been told of. -/
def waiting (v : Service) : List Event := v.events.drop v.delivered

/-- What an installation puts in use. -/
def receive (v : Service) (offer : Except Status Snapshot) (memory : ℕ → Bool)
    (clock : Except Status UInt64) : Except Status Installation := do
  let S ← offer
  if ¬ v.Accepts S.generation then .error Status.topologyStale
  else if memory S.arrayCount = false then .error Status.resourceExhausted
  else do
    let now ← clock
    .ok ⟨S, now⟩

/-- The topology in use. -/
def current (v : Service) : Except Status Installation :=
  match v.installed with
  | none => .error Status.topologyUnavailable
  | some i => .ok i

/-- What is recorded once a transaction is routed, `fits` saying whether there is memory for it. -/
def settle (v : Service) (fits : Bool) (now : Except Status UInt64) (a : UInt64 → Acceptance) :
    Except Status Acceptance :=
  if fits = false ∨ ¬ v.HasRoom then .error Status.resourceExhausted
  else a <$> now

/-- What a submission records. -/
def assess (v : Service) (request : Except Status Submission) (memory : ℕ → ℕ → Bool)
    (admission commit : Except Status UInt64) : Except Status Acceptance := do
  let r ← request
  let i ← v.current
  let now ← i.now admission
  let S := i.snapshot
  let slot := S.currentSlot
  if r.maxTopologyAgeNs < now - i.receivedNs then .error Status.topologyStale
  else if ¬ S.Routable slot then .error Status.topologyUnavailable
  else
    let fits := memory (S.resolution slot).length (S.plan slot r.targetLimit).length
    v.settle fits (i.now commit) fun accepted =>
      ⟨S.generation, slot, r.transaction, S.targets slot r.targetLimit, accepted⟩

/-- The service with one more acceptance recorded, if there is room. -/
def record (v : Service) (a : Acceptance) : Service :=
  if h : v.HasRoom then
    { v with
      log := v.log ++ [a]
      delivered_le := by
        rw [List.length_append]
        exact v.delivered_le.trans (Nat.le_add_right _ _)
      waiting_le := by
        rw [List.length_append]
        exact h.2
      log_lt := by
        rw [List.length_append]
        exact h.1 }
  else v

/-- The service after the `n` oldest waiting events have been told of. -/
def deliver (v : Service) (n : ℕ) : Service :=
  { v with
    delivered := v.delivered + min n (v.log.length - v.delivered)
    delivered_le := by have := v.delivered_le; omega
    waiting_le := by have := v.waiting_le; omega }

/-- One command. -/
def step (v : Service) : Command → Reply × Service
  | .install offer memory clock =>
      match v.receive offer memory clock with
      | .error e => (.installed e, v)
      | .ok i => (.installed Status.ok, { v with installed := some i })
  | .submit request memory admission commit =>
      match v.assess request memory admission commit with
      | .error e => (.submitted e none, v)
      | .ok a =>
          (.submitted Status.ok (some (UInt64.ofNat (v.log.length + 1))), v.record a)
  | .poll capacity =>
      match capacity with
      | .error e => (.polled e [], v)
      | .ok n => (.polled Status.ok (v.waiting.take n), v.deliver n)

/-! ### What a command changes -/

variable {v : Service} {a : Acceptance} {n : ℕ}

lemma record_of_room (h : v.HasRoom) :
    (v.record a).installed = v.installed ∧ (v.record a).log = v.log ++ [a] ∧
      (v.record a).delivered = v.delivered := by
  rw [record, dif_pos h]
  exact ⟨rfl, rfl, rfl⟩

@[simp] lemma record_installed : (v.record a).installed = v.installed := by
  rw [record]
  split_ifs <;> rfl

/-- What is put in use has been received when the clock was read. -/
lemma clock_of_receive {offer : Except Status Snapshot} {memory : ℕ → Bool}
    {clock : Except Status UInt64} {i : Installation}
    (h : v.receive offer memory clock = .ok i) :
    offer = .ok i.snapshot ∧ clock = .ok i.receivedNs := by
  cases offer with
  | error e => cases h
  | ok S =>
      simp only [receive, bind, Except.bind] at h
      split_ifs at h
      cases clock with
      | error e => cases h
      | ok t =>
          obtain rfl := Except.ok.inj h
          exact ⟨rfl, rfl⟩

@[simp] lemma events_length : v.events.length = v.log.length := by simp [events]

@[simp] lemma waiting_length : v.waiting.length = v.log.length - v.delivered := by simp [waiting]

/-- A recorded acceptance is told of last. -/
lemma events_record (h : v.HasRoom) :
    (v.record a).events
      = v.events ++ [acceptedEvent (UInt64.ofNat (v.log.length + 1)) a.acceptedNs] := by
  rw [events, (record_of_room h).2.1, List.zipIdx_append, List.map_append]
  simp [events]

lemma waiting_record (h : v.HasRoom) :
    (v.record a).waiting
      = v.waiting ++ [acceptedEvent (UInt64.ofNat (v.log.length + 1)) a.acceptedNs] := by
  rw [waiting, events_record h, (record_of_room h).2.2, List.drop_append_of_le_length]
  · rfl
  · rw [events_length]
    exact v.delivered_le

@[simp] lemma deliver_installed : (v.deliver n).installed = v.installed := rfl

@[simp] lemma deliver_log : (v.deliver n).log = v.log := rfl

@[simp] lemma deliver_delivered :
    (v.deliver n).delivered = v.delivered + min n (v.log.length - v.delivered) := rfl

@[simp] lemma deliver_events : (v.deliver n).events = v.events := rfl

/-- What is told of no longer waits. -/
lemma waiting_deliver : (v.deliver n).waiting = v.waiting.drop n := by
  rw [waiting, waiting, deliver_events, deliver_delivered, List.drop_drop]
  rcases Nat.le_total n (v.log.length - v.delivered) with h | h
  · rw [min_eq_left h]
  · have hle := v.delivered_le
    rw [min_eq_right h, List.drop_eq_nil_of_le, List.drop_eq_nil_of_le]
    · rw [events_length]; omega
    · rw [events_length]; omega

/-- A command that is not answered with `OK` leaves the service alone. -/
lemma step_of_failure {command : Command} (h : (v.step command).1.status ≠ Status.ok) :
    (v.step command).2 = v := by
  cases command with
  | install offer memory clock =>
      simp only [step] at h ⊢
      cases hreceive : v.receive offer memory clock with
      | error e => rfl
      | ok i => simp [hreceive, Reply.status] at h
  | submit request memory admission commit =>
      simp only [step] at h ⊢
      cases hassess : v.assess request memory admission commit with
      | error e => rfl
      | ok a => simp [hassess, Reply.status] at h
  | poll capacity =>
      cases capacity with
      | error e => rfl
      | ok n => simp [step, Reply.status] at h

end Service

end SolanaTpuClient
