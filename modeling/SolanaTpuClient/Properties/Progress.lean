import SolanaTpuClient.Lib.Backlog
import SolanaTpuClient.Properties.Refinement
import SolanaTpuClient.Properties.Cadence

/-!
What the client gets done.

The events of a client are a buffer that its polls drain and its acceptances fill (`flow_step`). When
an acceptance is told of is then a matter of the polls that follow it (`acceptances_delivered_in_time`),
and when a submission meets a full queue a matter of the calls before it
(`backpressure_by_windows`).
-/

namespace SolanaTpuClient

open Backlog Transition

/-! ### The events as a buffer -/

/-- How many events a call has room for: none if it is no poll, or one with invalid arguments. -/
def Op.room (op : Op) : ℕ :=
  match commandOf op with
  | .poll (.ok capacity) => capacity
  | _ => 0

/-- How many events the polls of a list of calls have room for. -/
def roomOf (ops : List Op) : ℕ := (ops.map Op.room).sum

/-- The event of the request a call has accepted. -/
def appendedBy : Op → Outcome → List Event
  | .submit _ _ _ _ _ answers, o =>
      (acceptedBy o).toList.map fun id => acceptedEvent id (answers.clock 1).timeNs
  | _, _ => []

/-- What a step does to the events. -/
def flowOf (e : Step) : Flow Event := ⟨e.input.room, appendedBy e.input e.output⟩

variable {M : Multiset ℕ} {s : State} {v : Service} {c c' : Client} {op : Op} {o : Outcome}

lemma appendedBy_of_not_accepted (h : acceptedBy o = none) : appendedBy op o = [] := by
  cases op <;> simp [appendedBy, h]

/-- What a call delivers and leaves pending is what was pending and what it appends. -/
lemma StepCase.appended (h : StepCase c op o c') :
    deliveredBy op o ++ c'.eventQueue.pending = c.eventQueue.pending ++ appendedBy op o := by
  cases h with
  | kept hc _ ha hd => simp [hc, hd, appendedBy_of_not_accepted ha]
  | installed _ hinst _ ha hd =>
      rw [hinst.client, hd, appendedBy_of_not_accepted ha, List.append_nil, List.nil_append]
  | @accepted _ _ _ _ _ answers id hop _ hacc _ ha hd =>
      obtain ⟨r, rfl, -⟩ := hacc.client
      have hpush := EventQueue.push_pending
        (acceptedEvent c.nextRequestId (answers.clock 1).timeNs)
        (eventQueueHasCapacity_iff.mp hacc.room)
      rw [hd, hop, appendedBy, ha, hacc.id_eq, List.nil_append]
      exact hpush
  | drained hc hd hq _ ha =>
      rw [hc, hd, hq, appendedBy_of_not_accepted ha, List.take_append_drop, List.append_nil]

/-- A call delivers the events it has room for. -/
lemma delivered_step (h : Implements M s v) (op : Op) :
    deliveredBy op (step s op).1 = s.pending.take op.room := by
  have hreply := (implements_step s v op trivial h).1
  have hpending : s.pending = v.waiting := h.client.pending
  cases op with
  | installTopology handle topology answers => rfl
  | refreshTopology handle provider acquired answers => rfl
  | submit handle transactionBytes transactionLength options outRequestId answers => rfl
  | pollEvents handle events eventCapacity eventStride outEventCount =>
      rw [Op.room, hpending]
      simp only [commandOf, Service.step] at hreply ⊢
      cases hcapacity : handle.pass (capacityOf events eventCapacity eventStride outEventCount) with
      | error e =>
          rw [hcapacity] at hreply
          exact (Reply.polled.inj hreply).2
      | ok n =>
          rw [hcapacity] at hreply
          exact (Reply.polled.inj hreply).2

/-- **A step of the client is a step of the buffer of its events.** -/
lemma flow_step (hs : s.WellFormed) (h : Implements M s v) (op : Op) :
    (step s op).2.pending = (flowOf (entry step s op)).next s.pending := by
  have hmoved := (step_spec hs op).client.appended
  rw [delivered_step h op] at hmoved
  have hsplit : s.pending = s.pending.take op.room ++ s.pending.drop op.room :=
    (List.take_append_drop _ _).symm
  change _ ++ (step s op).2.pending = s.pending ++ _ at hmoved
  conv_rhs at hmoved => rw [hsplit]
  rw [List.append_assoc] at hmoved
  exact List.append_cancel_left hmoved

lemma rooms_flows (s : State) (ops : List Op) :
    rooms ((history step s ops).map flowOf) = roomOf ops := by
  induction ops generalizing s with
  | nil => rfl
  | cons op ops ih => exact congrArg (op.room + ·) (ih (step s op).2)

/-- **A run of the client is a run of the buffer of its events.** -/
theorem flow_run (hs : s.WellFormed) (h : Implements M s v) (ops : List Op) :
    (run step s ops).pending = after s.pending ((history step s ops).map flowOf) ∧
      deliveredEvents (history step s ops)
        = passedOn s.pending ((history step s ops).map flowOf) := by
  induction ops generalizing s v with
  | nil => exact ⟨rfl, rfl⟩
  | cons op ops ih =>
      obtain ⟨hpending, hdelivered⟩ :=
        ih (wellFormed_step s op hs) (implements_step s v op trivial h).2
      rw [flow_step hs h op] at hpending hdelivered
      refine ⟨hpending, ?_⟩
      rw [history_cons, List.map_cons, passedOn, ← hdelivered]
      exact congrArg (· ++ _) (delivered_step h op)

/-! ### Delivery -/

variable (d : Dependencies)

/-- No two pending events are of the same request. -/
lemma pending_ids_nodup (ops : List Op) :
    ((run step (fresh d) ops).pending.map Event.requestId).Nodup := by
  have hids := (eventsConserved_run d ops).1
  have hnodup : (acceptedIds (history step (fresh d) ops)).Nodup := by
    refine List.Nodup.of_map UInt64.toNat ?_
    rw [acceptedIds_run d ops]
    exact List.nodup_range.map (add_left_injective 1)
  rw [List.map_append] at hids
  exact (hids.symm ▸ hnodup).of_append_right

/-- The event at the index `k` of the queue is told of if the polls have room for more than `k`
events, and not before. -/
lemma told_iff (hs : s.WellFormed) (h : Implements M s v)
    (hnodup : (s.pending.map Event.requestId).Nodup) {k : ℕ} (hk : k < s.pending.length)
    (later : List Op) :
    s.pending[k].requestId ∈ (deliveredEvents (history step s later)).map Event.requestId
      ↔ k < roomOf later := by
  rw [(flow_run hs h later).2]
  constructor
  · intro htold
    by_contra hlate
    have hroom : rooms ((history step s later).map flowOf) ≤ s.pending.length := by
      rw [rooms_flows]
      omega
    rw [passedOn_of_le hroom, rooms_flows, List.map_take] at htold
    obtain ⟨j, hj, hid⟩ := List.getElem_of_mem htold
    rw [List.length_take, List.length_map] at hj
    rw [List.getElem_take] at hid
    -- the event of a request is at one index only
    have hk' : k < (s.pending.map Event.requestId).length := by rwa [List.length_map]
    have hsame : (s.pending.map Event.requestId)[k] = s.pending[k].requestId := List.getElem_map _
    have hindex : j = k := hnodup.getElem_inj_iff.mp (hid.trans hsame.symm)
    omega
  · intro hroom
    refine List.mem_map_of_mem (take_prefix_passedOn.subset ?_)
    rw [rooms_flows]
    exact List.mem_take_iff_getElem.mpr ⟨k, by omega, rfl⟩

/-- **Acceptances are told of in time.** From every state of every run the polls that follow deliver
as many of the pending events, from the front, as they have room for, and nothing else while the
pending events last; so a request that is accepted while `n` events are waiting is told of exactly
when the polls after it have room for more than `n` events. -/
theorem acceptances_delivered_in_time (before : List Op) :
    let s := run step (fresh d) before
    (∀ later, s.pending.take (roomOf later) <+: deliveredEvents (history step s later) ∧
      (roomOf later ≤ s.pending.length →
        deliveredEvents (history step s later) = s.pending.take (roomOf later))) ∧
    ∀ op id later, acceptedBy (step s op).1 = some id →
      (id ∈ (deliveredEvents (history step (step s op).2 later)).map Event.requestId
        ↔ s.pending.length < roomOf later) := by
  intro s
  have hs : s.WellFormed := wellFormed_run d before
  have hrefines : Implements {0} s _ := implements_step.run (implements_fresh d) before
  refine ⟨fun later => ?_, fun op id later hid => ?_⟩
  · rw [(flow_run hs hrefines later).2, ← rooms_flows s later]
    exact ⟨take_prefix_passedOn, passedOn_of_le⟩
  · obtain ⟨event, happended, hevent⟩ : ∃ event, appendedBy op (step s op).1 = [event] ∧
        event.requestId = id := by
      cases op with
      | submit => simp [appendedBy, hid, acceptedEvent]
      | installTopology | refreshTopology | pollEvents => cases hid
    have hroom : op.room = 0 := by
      cases op with
      | submit => rfl
      | installTopology | refreshTopology | pollEvents => cases hid
    have hpending : (step s op).2.pending = s.pending ++ [event] := by
      rw [flow_step hs hrefines op, Flow.next, flowOf, entry_input, entry_output, hroom, happended,
        List.drop_zero]
    have hnext := told_iff (wellFormed_step s op hs) (implements_step s _ op trivial hrefines).2
      (run_concat step (fresh d) before op ▸ pending_ids_nodup d (before ++ [op]))
      (k := s.pending.length) (by simp [hpending]) later
    simp only [hpending, List.getElem_concat_length, hevent] at hnext
    exact hnext

/-! ### Backpressure -/

/-- The call is a submission. -/
def Op.isSubmission : Op → Bool
  | .submit .. => true
  | _ => false

/-- How many of the calls are submissions. -/
def submissions (ops : List Op) : ℕ := ops.countP Op.isSubmission

lemma appendedBy_length (s : State) (op : Op) :
    (appendedBy op (step s op).1).length = (acceptedBy (step s op).1).toList.length := by
  cases op with
  | submit => rw [appendedBy, List.length_map]
  | installTopology | refreshTopology | pollEvents => rfl

/-- A run brings in an event for each request it accepts. -/
lemma arrived_flows (s : State) (ops : List Op) :
    arrived ((history step s ops).map flowOf) = (acceptedIds (history step s ops)).length := by
  induction ops generalizing s with
  | nil => rfl
  | cons op ops ih =>
      have hone : acceptedIds (history step s (op :: ops))
          = (acceptedBy (step s op).1).toList ++ acceptedIds (history step (step s op).2 ops) := by
        rw [acceptedIds, acceptedIds, history_cons, List.filterMap_cons, entry_output]
        cases acceptedBy (step s op).1 <;> rfl
      rw [history_cons, List.map_cons, arrived_cons, ih, flowOf, entry_input, entry_output,
        appendedBy_length, ← List.length_append, ← hone, history_cons]

/-- **How many events are waiting** is decided by the calls that the run ends with: it is the
largest excess of the requests accepted from some call on over the room of the polls behind that
call. -/
lemma pending_length_le_iff (ops : List Op) {n : ℕ} :
    (run step (fresh d) ops).pending.length ≤ n ↔ ∀ before op later, ops = before ++ op :: later →
      (acceptedIds (history step (run step (fresh d) before) (op :: later))).length
        ≤ n + roomOf later := by
  have hempty : (fresh d).pending = [] := rfl
  rw [(flow_run (wellFormed_fresh d) (implements_fresh d) ops).1, hempty, after_nil_length_le_iff]
  constructor
  · rintro hwindows before op later rfl
    have hwindow := hwindows (flowOf (entry step (run step (fresh d) before) op))
      ((history step (step (run step (fresh d) before) op).2 later).map flowOf) (by
        rw [history_append, List.map_append]
        exact List.suffix_append _ _)
    rwa [rooms_flows, ← List.map_cons, ← history_cons, arrived_flows] at hwindow
  · rintro hwindows f gs ⟨front, hcut⟩
    obtain ⟨h₁, h₂, hhistory, -, hwindow⟩ := List.map_eq_append_iff.mp hcut.symm
    obtain ⟨before, rest, hops, -, rfl⟩ := history_eq_append step hhistory
    cases rest with
    | nil => simp at hwindow
    | cons op later =>
        have hgs := (List.cons.inj hwindow).2
        rw [← hwindow, arrived_flows, ← hgs, rooms_flows]
        exact hwindows before op later hops

/-- A run accepts no more requests than are submitted. -/
lemma acceptedIds_length_le (s : State) (ops : List Op) :
    (acceptedIds (history step s ops)).length ≤ submissions ops := by
  induction ops generalizing s with
  | nil => exact le_rfl
  | cons op ops ih =>
      have hrest := ih (step s op).2
      rw [acceptedIds, history_cons, List.filterMap_cons, entry_output, submissions,
        List.countP_cons]
      cases op with
      | submit =>
          cases acceptedBy (step s (.submit ..)).1 with
          | none => exact hrest.trans (Nat.le_add_right _ _)
          | some id => exact Nat.add_le_add_right hrest 1
      | installTopology | refreshTopology | pollEvents => exact hrest

/-- The full queue is met by submissions alone. -/
lemma isSubmission_of_reaches (h : ReachesCapacityCheck s op) :
    op.isSubmission = true ∧ op.room = 0 := by
  cases op with
  | submit => exact ⟨rfl, rfl⟩
  | installTopology | refreshTopology | pollEvents => exact h.elim

/-- A run never finds the queue full if the windows before its submissions have not filled it. -/
lemma neverFull_iff (ops : List Op) :
    NeverFull (history step (fresh d) ops) ↔ ∀ front op back, ops = front ++ op :: back →
      ReachesCapacityCheck (run step (fresh d) front) op →
      ∀ before op' later, front = before ++ op' :: later →
        (acceptedIds (history step (run step (fresh d) before) (op' :: later))).length
          < eventQueueCapacity + roomOf later := by
  have hroom : ∀ front, (run step (fresh d) front).client.data.eventQueue.count < eventQueueCapacity
      ↔ ∀ before op' later, front = before ++ op' :: later →
        (acceptedIds (history step (run step (fresh d) before) (op' :: later))).length
          < eventQueueCapacity + roomOf later := by
    intro front
    have hlevel := pending_length_le_iff d front (n := eventQueueCapacity - 1)
    have hpending : (run step (fresh d) front).pending.length
        = (run step (fresh d) front).client.data.eventQueue.count := EventQueue.pending_length _
    have hpos : 0 < eventQueueCapacity := by decide
    rw [← Nat.le_sub_one_iff_lt hpos, ← hpending, hlevel]
    refine forall₄_congr fun before op' later _ => ?_
    omega
  constructor
  · rintro hnever front op back rfl hreaches
    refine (hroom front).mp (hnever (entry step (run step (fresh d) front) op) ?_ hreaches)
    rw [history_append]
    exact List.mem_append_right _ (List.mem_cons_self ..)
  · intro hwindows e he hreaches
    obtain ⟨h₁, h₂, hcut⟩ := List.append_of_mem he
    obtain ⟨front, rest, hops, -, hrest⟩ := history_eq_append step hcut
    cases rest with
    | nil => simp at hrest
    | cons op back =>
        obtain ⟨rfl, -⟩ := List.cons.inj hrest
        exact (hroom front).mpr (hwindows front op back hops hreaches)

/-- **Backpressure is decided by windows.** After every run the number of waiting events is the
largest excess, over the calls of the run, of the requests accepted from that call on over the room
of the polls behind it, and so a submission finds the queue full exactly if for some window of calls
that ends before it this excess is the capacity of the queue. In particular no submission ever does
in a run in which no window submits more transactions than the queue holds beyond what the polls
behind its first call have room for. -/
theorem backpressure_by_windows (ops : List Op) :
    (∀ n, (run step (fresh d) ops).pending.length ≤ n ↔
      ∀ before op later, ops = before ++ op :: later →
        (acceptedIds (history step (run step (fresh d) before) (op :: later))).length
          ≤ n + roomOf later) ∧
    (NeverFull (history step (fresh d) ops) ↔ ∀ front op back, ops = front ++ op :: back →
      ReachesCapacityCheck (run step (fresh d) front) op →
      ∀ before op' later, front = before ++ op' :: later →
        (acceptedIds (history step (run step (fresh d) before) (op' :: later))).length
          < eventQueueCapacity + roomOf later) ∧
    ((∀ op later, op :: later <:+: ops →
        submissions (op :: later) ≤ eventQueueCapacity + roomOf later) →
      NeverFull (history step (fresh d) ops)) := by
  refine ⟨fun n => pending_length_le_iff d ops, neverFull_iff d ops, fun hwindows => ?_⟩
  rw [neverFull_iff]
  rintro front op back rfl hreaches before op' later rfl
  obtain ⟨hsubmission, hroom⟩ := isSubmission_of_reaches hreaches
  have hwindow := hwindows op' (later ++ [op]) ⟨before, back, by simp⟩
  have haccepted := acceptedIds_length_le (run step (fresh d) before) (op' :: later)
  have hcount : submissions (op' :: (later ++ [op])) = submissions (op' :: later) + 1 := by
    rw [← List.cons_append, submissions, List.countP_append, List.countP_singleton,
      if_pos hsubmission, submissions]
  have hrooms : roomOf (later ++ [op]) = roomOf later := by simp [roomOf, hroom]
  omega

end SolanaTpuClient
