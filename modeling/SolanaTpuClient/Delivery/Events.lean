import SolanaTpuClient.Delivery.Internal

/-!
The event queue of `src/solana_delivery_events.c`.

`EventQueue.push_pending` and `clientPollEvents_cases` say what a push and a poll do to the pending
events; the copy loop of a poll is followed round by round by `PollCopied`, which also says which
bytes of the caller buffer it has written.
-/

namespace SolanaTpuClient

open ByteMemory RingWindow

/-! ### Pushing -/

/-- `solana_delivery_event_queue_has_capacity` -/
def eventQueueHasCapacity (client : Option Client) : Bool :=
  match client with
  | none => false
  | some c => c.eventQueue.count < eventQueueCapacity

/-- `solana_delivery_event_queue_push`, with the client it leaves. -/
def eventQueuePush (client : Option Client) (event : Option Event) : Except Status Client :=
  match client, event with
  | some c, some e =>
      if eventQueueHasCapacity (some c) = false then .error Status.resourceExhausted
      else
        let tail := (c.eventQueue.head + c.eventQueue.count) % eventQueueCapacity
        .ok { c with
          eventQueue :=
            { c.eventQueue with
              entries := Function.update c.eventQueue.entries (slot eventQueueCapacity tail) e
              count := c.eventQueue.count + 1 } }
  | _, _ => .error Status.internalError

/-- The queue a push below capacity leaves. -/
def EventQueue.push (q : EventQueue) (e : Event) : EventQueue :=
  { q with
    entries := Function.update q.entries (slot eventQueueCapacity (q.head + q.count)) e
    count := q.count + 1 }

lemma eventQueueHasCapacity_iff {c : Client} :
    eventQueueHasCapacity (some c) = true ↔ c.eventQueue.count < eventQueueCapacity := by
  simp [eventQueueHasCapacity]

lemma eventQueuePush_of_lt {c : Client} (e : Event)
    (h : c.eventQueue.count < eventQueueCapacity) :
    eventQueuePush (some c) (some e) = .ok { c with eventQueue := c.eventQueue.push e } := by
  have hcap : eventQueueHasCapacity (some c) = true := eventQueueHasCapacity_iff.mpr h
  simp [eventQueuePush, hcap, EventQueue.push, slot_mod]

/-- A push below capacity appends its event. -/
lemma EventQueue.push_pending {q : EventQueue} (e : Event) (h : q.count < eventQueueCapacity) :
    (q.push e).pending = q.pending ++ [e] := window_update h e

/-! ### Polling -/

/-- What `solana_delivery_client_poll_events` returns: its status, the client behind the pointer,
the memory behind `events` and what `out_event_count` points to. -/
structure PollResult where
  status : Status
  client : Option Client
  events : Option Bytes
  outEventCount : Option UInt64

/-- One round of the copy loop. -/
def pollRound (stride : ℕ) (st : EventQueue × Bytes) (index : ℕ) : EventQueue × Bytes :=
  let offset := (index * stride) % 2 ^ wordBits
  ({ st.1 with head := (st.1.head + 1) % eventQueueCapacity, count := st.1.count - 1 },
    write st.2 offset (st.1.entries (slot eventQueueCapacity st.1.head)).encode)

/-- The copy loop. -/
def pollCopy (stride copyCount : ℕ) (st : EventQueue × Bytes) : EventQueue × Bytes :=
  (List.range copyCount).foldl (pollRound stride) st

/-- The head is reset when the queue has run empty. -/
def EventQueue.resetHead (q : EventQueue) : EventQueue :=
  if q.count = 0 then { q with head := 0 } else q

/-- The part of `solana_delivery_client_poll_events` that follows its checks, `m` being the memory
behind `events`. -/
def pollInto (c : Client) (m : Bytes) (eventCapacity : UInt64) (eventStride : UInt32) : PollResult :=
  let copyCount := min c.eventQueue.count eventCapacity.toNat
  let st := pollCopy eventStride.toNat copyCount (c.eventQueue, m)
  ⟨Status.ok, some { c with eventQueue := st.1.resetHead }, some st.2,
    some (UInt64.ofNat copyCount)⟩

/-- The checks on the destination of a poll with a nonzero capacity. -/
def pollDestinationIsValid (events : Option (Ref Bytes)) (eventCapacity : UInt64)
    (eventStride : UInt32) : Bool :=
  if pointerIsAlignedFor events 8 = false then false
  else if eventStride.toNat < Event.size ∨ eventStride.toNat % 8 ≠ 0 then false
  else if eventCapacity.toNat > sizeMax wordBits / eventStride.toNat then false
  else true

/-- `solana_delivery_client_poll_events` -/
def clientPollEvents (client : Option Client) (events : Option (Ref Bytes)) (eventCapacity : UInt64)
    (eventStride : UInt32) (outEventCount : Option (Ref UInt64)) : PollResult :=
  let memory := events.map Ref.val
  if pointerIsAlignedFor outEventCount 8 = false then
    ⟨Status.invalidArgument, client, memory, outEventCount.map Ref.val⟩
  else
    match client with
    | none => ⟨Status.invalidArgument, none, memory, some 0⟩
    | some c =>
        if eventCapacity = 0 then ⟨Status.ok, some c, memory, some 0⟩
        else if pollDestinationIsValid events eventCapacity eventStride = false then
          ⟨Status.invalidArgument, some c, memory, some 0⟩
        else
          match events with
          | none => ⟨Status.invalidArgument, some c, memory, some 0⟩
          | some r => pollInto c r.val eventCapacity eventStride

/-- The events a poll has put into the first `out_event_count` slots of the caller buffer. -/
def PollResult.delivered (r : PollResult) (eventStride : UInt32) : List Event :=
  if r.status = Status.ok then
    (List.range (r.outEventCount.getD 0).toNat).map fun i =>
      Event.decode (shift (r.events.getD fun _ => 0) (i * eventStride.toNat))
  else []

/-! ### The copy loop, round by round -/

/-- The queue and the buffer after the first `k` rounds of a copy loop that started with the
queue `q` and the buffer `m`. -/
structure PollCopied (stride : ℕ) (q : EventQueue) (m : Bytes) (k : ℕ) (q' : EventQueue)
    (m' : Bytes) : Prop where
  entries : q'.entries = q.entries
  count : q'.count = q.count - k
  head : q'.head % eventQueueCapacity = (q.head + k) % eventQueueCapacity
  written : ∀ i < k, ∀ j < Event.size,
    m' (i * stride + j) = ofList (q.entries (slot eventQueueCapacity (q.head + i))).encode j
  untouched : ∀ a, (∀ i < k, a < i * stride ∨ i * stride + Event.size ≤ a) → m' a = m a

variable {stride k : ℕ} {q q' : EventQueue} {m m' : Bytes}

lemma PollCopied.refl : PollCopied stride q m 0 q m :=
  ⟨rfl, rfl, by simp, by simp, fun _ _ => rfl⟩

/-- One more round of the copy loop. -/
lemma PollCopied.succ (hstride : Event.size ≤ stride) (hword : k * stride < 2 ^ wordBits)
    (h : PollCopied stride q m k q' m') :
    PollCopied stride q m (k + 1) (pollRound stride (q', m') k).1
      (pollRound stride (q', m') k).2 := by
  have hslot : slot eventQueueCapacity q'.head = slot eventQueueCapacity (q.head + k) :=
    slot_eq_iff.mpr h.head
  have hoff : (k * stride) % 2 ^ wordBits = k * stride := Nat.mod_eq_of_lt hword
  simp only [pollRound, hoff, h.entries, hslot]
  refine ⟨rfl, ?_, ?_, ?_, ?_⟩
  · simp only [h.count]; omega
  · simp only [Nat.mod_mod]
    rw [← Nat.mod_add_mod, h.head, Nat.mod_add_mod, Nat.add_assoc]
  · intro i hi j hj
    rcases Nat.lt_succ_iff_lt_or_eq.mp hi with hlt | rfl
    · -- an earlier slot ends before this one starts
      have hle : (i + 1) * stride ≤ k * stride := Nat.mul_le_mul_right _ hlt
      rw [Nat.succ_mul] at hle
      rw [write_of_notMem (Or.inl (by omega))]
      exact h.written i hlt j hj
    · rw [write_of_mem (by simpa using hj)]
  · intro a ha
    have hk := ha k (Nat.lt_succ_self k)
    rw [write_of_notMem (by simpa using hk)]
    exact h.untouched a fun i hi => ha i (Nat.lt_succ_of_lt hi)

/-- The whole copy loop, all of whose offsets fit a word. -/
lemma pollCopied_pollCopy (hstride : Event.size ≤ stride) {n : ℕ}
    (hword : n * stride < 2 ^ wordBits) :
    PollCopied stride q m n (pollCopy stride n (q, m)).1 (pollCopy stride n (q, m)).2 := by
  induction n with
  | zero => exact PollCopied.refl
  | succ n ih =>
      have hlt : n * stride < 2 ^ wordBits :=
        lt_of_le_of_lt (Nat.mul_le_mul_right _ (Nat.le_succ n)) hword
      have h := (ih hlt).succ hstride hlt
      simpa only [pollCopy, List.range_succ, List.foldl_append, List.foldl_cons,
        List.foldl_nil] using h

/-- What the loop leaves pending. -/
lemma PollCopied.pending (h : PollCopied stride q m k q' m') :
    q'.pending = q.pending.drop k := by
  rw [EventQueue.pending, EventQueue.pending, window_drop, h.entries, h.count,
    window_congr_head h.head]

/-- What the loop has delivered. -/
lemma PollCopied.decode (h : PollCopied stride q m k q' m') (hk : k ≤ q.count) :
    ((List.range k).map fun i => Event.decode (shift m' (i * stride))) = q.pending.take k := by
  refine List.ext_getElem (by simp [hk]) fun i h1 h2 => ?_
  have hi : i < k := by simpa using h1
  simp only [List.getElem_map, List.getElem_range, List.getElem_take, EventQueue.pending, window]
  have hbytes : ∀ j < Event.size, shift m' (i * stride) j
      = ofList (q.entries (slot eventQueueCapacity (q.head + i))).encode j := h.written i hi
  rw [Event.decode_congr hbytes, Event.decode_encode]

@[simp] lemma EventQueue.resetHead_pending (q : EventQueue) : q.resetHead.pending = q.pending := by
  rw [EventQueue.resetHead]
  split_ifs with h
  · simp [EventQueue.pending, h]
  · rfl

/-! ### What a poll does -/

/-- The ways a poll goes: it delivers nothing and leaves the client as it was, or it delivers the
oldest pending events and keeps the rest pending. -/
inductive PollOutcome (client : Option Client) (eventStride : UInt32) (r : PollResult) : Prop where
  | idle : r.client = client → r.delivered eventStride = [] → PollOutcome client eventStride r
  | drained {c : Client} {q : EventQueue} {n : ℕ} : client = some c →
      r.client = some { c with eventQueue := q } →
      r.delivered eventStride = c.eventQueue.pending.take n →
      q.pending = c.eventQueue.pending.drop n → PollOutcome client eventStride r

/-- What the checks on the destination establish: no offset of the copy loop overflows. -/
lemma pollDestination_spec {events : Option (Ref Bytes)} {eventCapacity : UInt64}
    {eventStride : UInt32}
    (h : pollDestinationIsValid events eventCapacity eventStride = true) :
    Event.size ≤ eventStride.toNat ∧ eventCapacity.toNat * eventStride.toNat < 2 ^ wordBits := by
  rw [pollDestinationIsValid] at h
  split_ifs at h with halign hstride hover
  have hsize : Event.size ≤ eventStride.toNat := by omega
  have hpos : 0 < eventStride.toNat := lt_of_lt_of_le (by decide) hsize
  have hle := (Nat.le_div_iff_mul_le hpos).mp (not_lt.mp hover)
  exact ⟨hsize, le_sizeMax_iff.mp hle⟩

lemma pollInto_outcome (c : Client) (m : Bytes) {eventCapacity : UInt64} {eventStride : UInt32}
    (hsize : Event.size ≤ eventStride.toNat)
    (hword : eventCapacity.toNat * eventStride.toNat < 2 ^ wordBits) :
    PollOutcome (some c) eventStride (pollInto c m eventCapacity eventStride) := by
  set n := min c.eventQueue.count eventCapacity.toNat with hn
  have hnword : n * eventStride.toNat < 2 ^ wordBits :=
    lt_of_le_of_lt (Nat.mul_le_mul_right _ (min_le_right _ _)) hword
  have hcopied := pollCopied_pollCopy (q := c.eventQueue) (m := m) hsize hnword
  have hnlt : n < 2 ^ 64 := lt_of_le_of_lt (min_le_right _ _) eventCapacity.toNat_lt
  refine .drained (n := n) rfl rfl ?_ ?_
  · rw [PollResult.delivered, pollInto, if_pos rfl]
    simp only [← hn, Option.getD_some, UInt64.toNat_ofNat', Nat.mod_eq_of_lt hnlt]
    exact hcopied.decode (min_le_left _ _)
  · rw [EventQueue.resetHead_pending]
    exact hcopied.pending

/-- **A poll** delivers a prefix of the pending events and keeps the rest, or does nothing. -/
theorem clientPollEvents_cases (client : Option Client) (events : Option (Ref Bytes))
    (eventCapacity : UInt64) (eventStride : UInt32) (outEventCount : Option (Ref UInt64)) :
    PollOutcome client eventStride
      (clientPollEvents client events eventCapacity eventStride outEventCount) := by
  have hinvalid : ∀ client mem out,
      PollOutcome client eventStride ⟨Status.invalidArgument, client, mem, out⟩ :=
    fun _ _ _ => .idle rfl (by simp [PollResult.delivered])
  unfold clientPollEvents
  by_cases hout : pointerIsAlignedFor outEventCount 8 = false
  · simp only [hout, if_true]
    exact hinvalid _ _ _
  rw [if_neg hout]
  cases client with
  | none => exact hinvalid _ _ _
  | some c =>
    by_cases hcap : eventCapacity = 0
    · simp only [hcap, if_true]
      exact .idle rfl (by simp [PollResult.delivered])
    by_cases hdest : pollDestinationIsValid events eventCapacity eventStride = false
    · simp only [hcap, hdest, if_true, if_false]
      exact hinvalid _ _ _
    simp only [hcap, hdest, if_false]
    obtain ⟨hsize, hword⟩ := pollDestination_spec (by simpa using hdest)
    cases events with
    | none => exact hinvalid _ _ _
    | some r => exact pollInto_outcome c r.val hsize hword

end SolanaTpuClient
