import SolanaTpuClient.Lib.BoundedFifo
import SolanaTpuClient.Properties.Polling
import SolanaTpuClient.Delivery.Client

/-!
The event ring as a bounded queue.

A created client under appends to its event queue and valid polls, in any order. The entries from
the head on, read around the ring, are the content of a bounded queue (`BoundedFifo`), and every
call is a call on that queue (`ringStep_spec`).
-/

namespace SolanaTpuClient

open ByteMemory RingWindow Transition

/-! ### Calls on the ring -/

/-- The arguments of a poll that passes its checks. -/
structure ValidPoll where
  events : Option (Ref Bytes)
  eventCapacity : UInt64
  eventStride : UInt32
  outEventCount : Option (Ref UInt64)
  countPointer : CountPointerValid outEventCount
  destination : eventCapacity ≠ 0 → ∃ r, DestinationValid events eventCapacity eventStride r

/-- A call on the event queue of a client. -/
inductive RingOp where
  | push (event : Event)
  | poll (arguments : ValidPoll)

/-- What a call returns. -/
inductive RingOutcome where
  | pushed (status : Status)
  | polled (result : PollResult)

/-- One call on the event queue of a client. -/
def ringStep (c : Client) : RingOp → RingOutcome × Client
  | .push event =>
      match eventQueuePush (some c) (some event) with
      | .ok c' => (.pushed Status.ok, c')
      | .error status => (.pushed status, c)
  | .poll p =>
      let r := clientPollEvents (some c) p.events p.eventCapacity p.eventStride p.outEventCount
      (.polled r, r.client.getD c)

/-- The head is a slot, no more is pending than there are slots, and an empty ring starts at the
first slot. -/
structure EventQueue.WithinRing (q : EventQueue) : Prop where
  head_lt : q.head < eventQueueCapacity
  count_le : q.count ≤ eventQueueCapacity
  head_eq_zero : q.count = 0 → q.head = 0

/-- The bounded queue of pending events. -/
def eventFifo : List Event → BoundedFifo.Call Event → BoundedFifo.Reply Event × List Event :=
  BoundedFifo.step eventQueueCapacity

/-- The call on a bounded queue that a call on the ring is. -/
def RingOp.call : RingOp → BoundedFifo.Call Event
  | .push event => .push event
  | .poll p => .take p.eventCapacity.toNat

/-- The answer of a bounded queue that the outcome of a call on the ring is. -/
def RingOp.reply : RingOp → RingOutcome → BoundedFifo.Reply Event
  | .poll p, .polled r => .taken (r.delivered p.eventStride)
  | _, .pushed status => if status = Status.ok then .pushed else .full
  | .push _, .polled _ => .full

/-! ### One call -/

variable {c : Client}

lemma eventQueuePush_of_le (e : Event) (h : eventQueueCapacity ≤ c.eventQueue.count) :
    eventQueuePush (some c) (some e) = .error Status.resourceExhausted := by
  have hfull : eventQueueHasCapacity (some c) = false := by
    simpa using mt eventQueueHasCapacity_iff.mp (not_lt.mpr h)
  simp [eventQueuePush, hfull]

lemma ringStep_push_of_lt (e : Event) (h : c.eventQueue.count < eventQueueCapacity) :
    ringStep c (.push e)
      = (.pushed Status.ok, { c with eventQueue := c.eventQueue.push e }) := by
  rw [ringStep, eventQueuePush_of_lt e h]

lemma ringStep_push_of_le (e : Event) (h : eventQueueCapacity ≤ c.eventQueue.count) :
    ringStep c (.push e) = (.pushed Status.resourceExhausted, c) := by
  rw [ringStep, eventQueuePush_of_le e h]

/-- The copy loop moves the head around the ring. -/
lemma pollCopy_head_lt {q : EventQueue} (m : Bytes) (stride n : ℕ)
    (h : q.head < eventQueueCapacity) : (pollCopy stride n (q, m)).1.head < eventQueueCapacity := by
  induction n with
  | zero => exact h
  | succ n ih =>
      rw [pollCopy, List.range_succ, List.foldl_append]
      exact Nat.mod_lt _ (by decide)

lemma withinRing_resetHead {q : EventQueue} (hhead : q.head < eventQueueCapacity)
    (hcount : q.count ≤ eventQueueCapacity) : q.resetHead.WithinRing := by
  rw [EventQueue.resetHead]
  split_ifs with h
  · exact ⟨Nat.pos_of_neZero eventQueueCapacity, hcount, fun _ => rfl⟩
  · exact ⟨hhead, hcount, fun h0 => absurd h0 h⟩

lemma pollInto_withinRing (hc : c.eventQueue.WithinRing) {m : Bytes} {eventCapacity : UInt64}
    {eventStride : UInt32} (hsize : Event.size ≤ eventStride.toNat)
    (hword : eventCapacity.toNat * eventStride.toNat < 2 ^ wordBits) {c' : Client}
    (h : (pollInto c m eventCapacity eventStride).client = some c') :
    c'.eventQueue.WithinRing := by
  obtain rfl := Option.some.inj h
  set n := min c.eventQueue.count eventCapacity.toNat
  have hcopied : PollCopied eventStride.toNat c.eventQueue m n _ _ :=
    pollCopied_pollCopy hsize
      (lt_of_le_of_lt (Nat.mul_le_mul_right _ (min_le_right _ _)) hword)
  refine withinRing_resetHead (pollCopy_head_lt m _ n hc.head_lt) ?_
  rw [hcopied.count]
  exact (Nat.sub_le _ _).trans hc.count_le

/-- What has been copied reads back as the events that have left the queue. -/
lemma Drained.delivered {c' : Client} {m m' : Bytes} {capacity : ℕ} {eventStride : UInt32}
    {k : UInt64} (h : Drained c m capacity eventStride.toNat k.toNat c' m') :
    PollResult.delivered ⟨Status.ok, some c', some m', some k⟩ eventStride
      = c.eventQueue.pending.take k.toNat := by
  have hle : k.toNat ≤ c.eventQueue.pending.length := h.count.trans_le (min_le_left _ _)
  rw [PollResult.delivered, if_pos rfl]
  refine List.ext_getElem ?_ fun i h1 h2 => ?_
  · rw [List.length_map, List.length_range, List.length_take, Option.getD_some, min_eq_left hle]
  have hi : i < k.toNat := by simpa using h1
  obtain ⟨e, he, hbytes⟩ := h.written i hi
  have hdecode : Event.decode (shift m' (i * eventStride.toNat)) = e :=
    (Event.decode_congr hbytes).trans (Event.decode_encode e)
  rw [List.getElem_take]
  rw [List.getElem?_eq_getElem (hi.trans_le hle)] at he
  simp only [Option.getD_some, List.getElem_map, List.getElem_range, hdecode]
  exact (Option.some.inj he).symm

/-- What a valid poll does. -/
lemma ringStep_poll (hc : c.eventQueue.WithinRing) (p : ValidPoll) :
    ∃ r, (ringStep c (.poll p)).1 = .polled r ∧ r.status = Status.ok ∧
      r.outEventCount.map UInt64.toNat
        = some (min c.eventQueue.pending.length p.eventCapacity.toNat) ∧
      r.delivered p.eventStride = c.eventQueue.pending.take p.eventCapacity.toNat ∧
      (ringStep c (.poll p)).2.eventQueue.pending
        = c.eventQueue.pending.drop p.eventCapacity.toNat ∧
      (ringStep c (.poll p)).2.eventQueue.WithinRing := by
  by_cases hcapacity : p.eventCapacity = 0
  · have hidle : ∃ status, clientPollEvents (some c) p.events p.eventCapacity p.eventStride
        p.outEventCount = ⟨status, some c, p.events.map Ref.val, some 0⟩ ∧ _ :=
      clientPollEvents_idle (some c) p.countPointer (Or.inr (Or.inl hcapacity))
    obtain ⟨status, hr, hstatus⟩ := hidle
    obtain rfl : status = Status.ok := hstatus.mpr ⟨rfl, hcapacity⟩
    have hzero : p.eventCapacity.toNat = 0 := by rw [hcapacity]; rfl
    simp only [ringStep, hr, Option.getD_some]
    exact ⟨_, rfl, rfl, by simp [hzero], by simp [PollResult.delivered, hzero], by simp [hzero], hc⟩
  · obtain ⟨buffer, hdest⟩ := p.destination hcapacity
    have hr := clientPollEvents_into c p.countPointer hcapacity hdest
    obtain ⟨c', m', k, hinto, hdrained⟩ := pollInto_drained c hdest
    have hring := pollInto_withinRing hc hdest.size_le (le_sizeMax_iff.mp hdest.extent_le)
      (congrArg PollResult.client hinto)
    have hcount := hdrained.count
    simp only [ringStep, hr, hinto, Option.getD_some]
    rw [min_comm] at hcount
    refine ⟨_, rfl, rfl, ?_, ?_, ?_, hring⟩
    · rw [Option.map_some, hcount, min_comm]
    · rw [hdrained.delivered, hcount, ← List.take_eq_take_min]
    · rw [hdrained.consumed, hcount, ← List.drop_eq_drop_min]

/-- **Every call is a call on a bounded queue** whose content is what is pending. -/
theorem ringStep_spec (hc : c.eventQueue.WithinRing) (op : RingOp) :
    (ringStep c op).2.eventQueue.WithinRing ∧
      eventFifo c.eventQueue.pending op.call
        = (op.reply (ringStep c op).1, (ringStep c op).2.eventQueue.pending) := by
  cases op with
  | push e =>
      rcases lt_or_ge c.eventQueue.count eventQueueCapacity with h | h
      · rw [ringStep_push_of_lt e h]
        refine ⟨⟨hc.head_lt, h, fun h0 => absurd h0 (Nat.succ_ne_zero _)⟩, ?_⟩
        rw [EventQueue.push_pending e h]
        exact BoundedFifo.step_push_of_lt (by rwa [EventQueue.pending_length]) e
      · rw [ringStep_push_of_le e h]
        refine ⟨hc, ?_⟩
        rw [RingOp.reply, if_neg Status.resourceExhausted_ne_ok]
        exact BoundedFifo.step_push_of_le (by rwa [EventQueue.pending_length]) e
  | poll p =>
      obtain ⟨r, hr, -, -, hdelivered, hpending, hring⟩ := ringStep_poll hc p
      refine ⟨hring, ?_⟩
      rw [hr, RingOp.reply, hdelivered, hpending]
      rfl

/-! ### Runs -/

/-- The events appended along a run of calls that answered `OK`, oldest first. -/
def pushedEvents (h : List (Entry Client RingOp RingOutcome)) : List Event :=
  h.flatMap fun e => BoundedFifo.accepted e.input.call (e.input.reply e.output)

/-- The events the polls of a run have put into their buffers, oldest first. -/
def polledEvents (h : List (Entry Client RingOp RingOutcome)) : List Event :=
  h.flatMap fun e => BoundedFifo.delivered (e.input.reply e.output)

lemma withinRing_fresh (d : Dependencies) : d.client.eventQueue.WithinRing :=
  ⟨Nat.pos_of_neZero eventQueueCapacity, Nat.zero_le _, fun _ => rfl⟩

lemma withinRing_run (d : Dependencies) (ops : List RingOp) :
    (run ringStep d.client ops).eventQueue.WithinRing :=
  run_invariant (P := fun c : Client => c.eventQueue.WithinRing)
    (fun _ op hc => (ringStep_spec hc op).1) (withinRing_fresh d) ops

/-- A run of the ring is a run of the bounded queue. -/
lemma ring_simulation (d : Dependencies) (ops : List RingOp) :
    run eventFifo [] (ops.map RingOp.call) = (run ringStep d.client ops).eventQueue.pending ∧
      history eventFifo [] (ops.map RingOp.call) = (history ringStep d.client ops).map fun e =>
        ⟨e.pre.eventQueue.pending, e.input.call, e.input.reply e.output,
          e.post.eventQueue.pending⟩ :=
  run_simulation (P := fun c : Client => c.eventQueue.WithinRing)
    (fun c : Client => c.eventQueue.pending) RingOp.call RingOp.reply
    (fun _ op hc => (ringStep_spec hc op).1) (fun _ op hc => (ringStep_spec hc op).2)
    (withinRing_fresh d) ops

lemma events_conserved (d : Dependencies) (ops : List RingOp) :
    polledEvents (history ringStep d.client ops) ++ (run ringStep d.client ops).eventQueue.pending
      = pushedEvents (history ringStep d.client ops) := by
  obtain ⟨hrun, hhistory⟩ := ring_simulation d ops
  have h : BoundedFifo.allDelivered (history eventFifo [] (ops.map RingOp.call))
        ++ run eventFifo [] (ops.map RingOp.call)
      = [] ++ BoundedFifo.allAccepted (history eventFifo [] (ops.map RingOp.call)) :=
    BoundedFifo.conserved (ops.map RingOp.call)
  rw [hrun, hhistory, BoundedFifo.allDelivered, BoundedFifo.allAccepted, List.flatMap_map,
    List.flatMap_map] at h
  exact h

/-- **The event ring refines a bounded queue.** After any appends and valid polls on a created
client the head is a slot, no more is pending than there are slots, and an empty ring starts at the
first slot. What is pending is the content of a bounded queue under the same calls, which gives the
same answers. An append below capacity comes last and returns `OK`; at capacity it is refused and
changes nothing. A poll returns `OK` and delivers the oldest events up to its capacity and keeps the
rest. So what was delivered along the run, followed by what is pending, is what was appended. -/
theorem event_ring_refines_fifo (d : Dependencies) (ops : List RingOp) :
    let c := run ringStep d.client ops
    c.eventQueue.WithinRing ∧
    run eventFifo [] (ops.map RingOp.call) = c.eventQueue.pending ∧
    (history eventFifo [] (ops.map RingOp.call)).map Entry.output
      = (history ringStep d.client ops).map (fun e => e.input.reply e.output) ∧
    (∀ e, c.eventQueue.pending.length < eventQueueCapacity →
      ∃ c', ringStep c (.push e) = (.pushed Status.ok, c') ∧
        c'.eventQueue.pending = c.eventQueue.pending ++ [e]) ∧
    (∀ e, c.eventQueue.pending.length = eventQueueCapacity →
      ringStep c (.push e) = (.pushed Status.resourceExhausted, c)) ∧
    (∀ p : ValidPoll, ∃ r c', ringStep c (.poll p) = (.polled r, c') ∧ r.status = Status.ok ∧
      r.outEventCount.map UInt64.toNat
        = some (min c.eventQueue.pending.length p.eventCapacity.toNat) ∧
      r.delivered p.eventStride = c.eventQueue.pending.take p.eventCapacity.toNat ∧
      c'.eventQueue.pending = c.eventQueue.pending.drop p.eventCapacity.toNat) ∧
    polledEvents (history ringStep d.client ops) ++ c.eventQueue.pending
      = pushedEvents (history ringStep d.client ops) := by
  intro c
  have hc : c.eventQueue.WithinRing := withinRing_run d ops
  obtain ⟨hrun, hhistory⟩ := ring_simulation d ops
  refine ⟨hc, hrun, ?_, fun e h => ?_, fun e h => ?_, fun p => ?_, events_conserved d ops⟩
  · rw [hhistory, List.map_map]
    rfl
  · rw [EventQueue.pending_length] at h
    exact ⟨_, ringStep_push_of_lt e h, EventQueue.push_pending e h⟩
  · rw [EventQueue.pending_length] at h
    exact ringStep_push_of_le e h.ge
  · obtain ⟨r, hr, hstatus, hcount, hdelivered, hpending, -⟩ := ringStep_poll hc p
    exact ⟨r, _, Prod.ext hr rfl, hstatus, hcount, hdelivered, hpending⟩

end SolanaTpuClient
