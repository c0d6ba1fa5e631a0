import SolanaTpuClient.Properties.Identifiers

/-!
Acceptance events along runs.

What has been delivered and what is pending, read in this order, is the sequence of all acceptance
events: a call appends to it the event of the request it accepts and otherwise, a poll included,
only moves events from the pending ones to the delivered ones (`StepCase.events`). Since the
identifiers of that sequence are those returned, what is pending belongs to the newest requests.
-/

namespace SolanaTpuClient

open Transition

/-- The pending events of a state, oldest first. -/
def State.pending (s : State) : List Event := s.client.data.eventQueue.pending

variable {c c' : Client} {op : Op} {o : Outcome}

/-- A call delivers pending events from the front and appends the event of the request it
accepts. -/
lemma StepCase.events (h : StepCase c op o c') :
    ∃ t, deliveredBy op o ++ c'.eventQueue.pending = c.eventQueue.pending ++
      (acceptedBy o).toList.map fun id => acceptedEvent id t := by
  cases h with
  | kept hc _ ha hd => exact ⟨0, by simp [hc, ha, hd]⟩
  | installed _ hinst _ ha hd => exact ⟨0, by rw [hinst.client, ha, hd]; simp⟩
  | @accepted _ _ _ _ _ answers id _ _ hacc _ ha hd =>
      obtain ⟨r, rfl, -⟩ := hacc.client
      refine ⟨(answers.clock 1).timeNs, ?_⟩
      have hpush := EventQueue.push_pending
        (acceptedEvent c.nextRequestId (answers.clock 1).timeNs)
        (eventQueueHasCapacity_iff.mp hacc.room)
      rw [hd, ha, hacc.id_eq, List.nil_append]
      exact hpush
  | drained hc hd hq _ ha =>
      refine ⟨0, ?_⟩
      rw [hc, hd, ha, hq, List.take_append_drop, Option.toList_none, List.map_nil, List.append_nil]

/-- What one more call makes of the events that are delivered and pending. -/
lemma events_concat {h : List Step} {s : State} {op : Op} {t : UInt64}
    (hevents : deliveredBy op (step s op).1 ++ (step s op).2.pending
      = s.pending ++ (acceptedBy (step s op).1).toList.map fun id => acceptedEvent id t) :
    deliveredEvents (h ++ [entry step s op]) ++ (step s op).2.pending
      = (deliveredEvents h ++ s.pending) ++
        (acceptedBy (step s op).1).toList.map fun id => acceptedEvent id t := by
  rw [deliveredEvents_concat, entry_input, entry_output, List.append_assoc, List.append_assoc,
    hevents]

/-- What is delivered and pending along a run are acceptance events, one for each identifier
returned. -/
def EventsConserved (h : List Step) (s : State) : Prop :=
  (deliveredEvents h ++ s.pending).map Event.requestId = acceptedIds h ∧
    ∀ e ∈ deliveredEvents h ++ s.pending, ∃ t, e = acceptedEvent e.requestId t

lemma eventsConserved_step (h : List Step) (s : State) (op : Op) (hs : s.WellFormed)
    (hconserved : EventsConserved h s) :
    EventsConserved (h ++ [entry step s op]) (step s op).2 := by
  obtain ⟨hids, hshape⟩ := hconserved
  obtain ⟨t, hevents⟩ := (step_spec hs op).client.events
  have hall : deliveredEvents (h ++ [entry step s op]) ++ (step s op).2.pending = _ :=
    events_concat hevents
  constructor
  · rw [hall, List.map_append, hids, acceptedIds_concat, entry_output, List.map_map]
    congr 1
    cases acceptedBy (step s op).1 <;> rfl
  · intro e he
    rw [hall] at he
    rcases List.mem_append.mp he with he | he
    · exact hshape e he
    · obtain ⟨id, -, rfl⟩ := List.mem_map.mp he
      exact ⟨t, rfl⟩

lemma eventsConserved_run (d : Dependencies) (ops : List Op) :
    EventsConserved (history step (fresh d) ops) (run step (fresh d) ops) :=
  run_rule d ⟨rfl, by simp [fresh, State.pending, Dependencies.client, Client.zero]⟩
    eventsConserved_step ops

/-- The next event of an accepted request has sequence number two. -/
lemma nextEventSequence_run (d : Dependencies) (ops : List Op) :
    ∀ r ∈ (run step (fresh d) ops).client.data.requestHead, r.data.nextEventSequence = 2 := by
  refine run_rule (P := fun _ s => ∀ r ∈ s.client.data.requestHead, r.data.nextEventSequence = 2) d
    (by simp [fresh, Dependencies.client, Client.zero]) ?_ ops
  intro h s op hs hall
  cases ha : acceptedBy (step s op).1 with
  | none => rwa [((step_spec hs op).client.of_not_accepted ha).1]
  | some id =>
      cases (step_spec hs op).client with
      | kept hc _ _ _ => rwa [hc]
      | installed _ hinst _ _ _ => rwa [hinst.client]
      | accepted _ _ hacc _ _ _ =>
          obtain ⟨r, hc, hrecords⟩ := hacc.client
          rw [hc]
          intro r' hr'
          rcases List.mem_cons.mp hr' with rfl | hr'
          · exact hrecords.nextEventSequence
          · exact hall r' hr'
      | drained hc _ _ _ _ => rwa [hc]

/-- A list read backwards and cut in two is cut at the length of its second part. -/
lemma append_eq_reverse {α : Type} {a b l : List α} (h : a ++ b = l.reverse) :
    b = (l.take b.length).reverse ∧ a = (l.drop b.length).reverse := by
  have hl : l = b.reverse ++ a.reverse := by
    rw [← List.reverse_append, h, List.reverse_reverse]
  have hlen : b.length = b.reverse.length := (List.length_reverse).symm
  constructor
  · rw [hl, hlen, List.take_left, List.reverse_reverse]
  · rw [hl, hlen, List.drop_left, List.reverse_reverse]

/-- **No accepted event is lost, duplicated or invented.** Along every run the events delivered so
far, followed by the pending ones, are one for each submission that returned `OK`, in order and
with the identifier it returned, and each of them is the acceptance event of a request that
expects a later event next. The pending ones belong to the newest requests, as many as the queue
counts, and the event of every older request has been delivered exactly once. -/
theorem accepted_events_conserved (d : Dependencies) (ops : List Op) :
    let h := history step (fresh d) ops
    let s := run step (fresh d) ops
    let c := s.client.data
    (deliveredEvents h ++ s.pending).map Event.requestId = acceptedIds h ∧
      (∀ e ∈ deliveredEvents h ++ s.pending,
        e.eventClass = eventClassRequest ∧ e.eventCode = requestEventAccepted ∧
          e.attemptId = attemptIdNone ∧ e.requestSequence = 1 ∧ e.diagnosticCode = 0 ∧
          e.reserved0 = 0 ∧ e.reserved1 = 0 ∧
          ∃ r ∈ c.requestHead, r.data.requestId = e.requestId ∧
            e.requestSequence < r.data.nextEventSequence) ∧
      s.pending.map Event.requestId = ((requestIds c).take c.eventQueue.count).reverse ∧
      (deliveredEvents h).map Event.requestId
        = ((requestIds c).drop c.eventQueue.count).reverse ∧
      ∀ r ∈ c.requestHead.drop c.eventQueue.count,
        ((deliveredEvents h).map Event.requestId).count r.data.requestId = 1 := by
  intro h s c
  obtain ⟨hids, hshape⟩ := eventsConserved_run d ops
  have hreturned : requestIds c = (acceptedIds h).reverse := requestIds_run d ops
  have hsplit : (deliveredEvents h).map Event.requestId ++ s.pending.map Event.requestId
      = (requestIds c).reverse := by
    rw [← List.map_append, hids, hreturned, List.reverse_reverse]
  have hcount : (s.pending.map Event.requestId).length = c.eventQueue.count := by
    rw [List.length_map]
    exact EventQueue.pending_length _
  obtain ⟨hpending, hdelivered⟩ := append_eq_reverse hsplit
  rw [hcount] at hpending hdelivered
  refine ⟨hids, ?_, hpending, hdelivered, ?_⟩
  · intro e he
    obtain ⟨t, ht⟩ := hshape e he
    have hmem : e.requestId ∈ requestIds c := by
      rw [hreturned, List.mem_reverse, ← hids]
      exact List.mem_map.mpr ⟨e, he, rfl⟩
    obtain ⟨r, hr, hid⟩ := List.mem_map.mp hmem
    have hseq : (1 : UInt64) < r.data.nextEventSequence := by
      rw [nextEventSequence_run d ops r hr]
      decide
    generalize e.requestId = id at ht hid
    subst ht
    exact ⟨rfl, rfl, rfl, rfl, rfl, rfl, rfl, r, hr, hid, hseq⟩
  · intro r hr
    have hnodup : (requestIds c).Nodup := by
      have hnum : ((requestIds c).map UInt64.toNat).Nodup := by
        rw [(numbered_run d ops).ids, countdown]
        exact List.Nodup.map (add_left_injective 1) (List.nodup_reverse.mpr List.nodup_range)
      exact hnum.of_map _
    rw [hdelivered]
    refine List.count_eq_one_of_mem (List.nodup_reverse.mpr hnodup.drop) ?_
    rw [List.mem_reverse, requestIds, ← List.map_drop]
    exact List.mem_map.mpr ⟨r, hr, rfl⟩

end SolanaTpuClient
