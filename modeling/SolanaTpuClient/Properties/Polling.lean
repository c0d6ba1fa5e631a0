import SolanaTpuClient.Delivery.Events

/-!
What a poll writes and consumes.

A poll with a valid destination writes the oldest pending events to the fronts of the first slots of
the caller's buffer, changes no other byte of it and takes exactly these events off the queue
(`Drained`). Any other poll changes neither the buffer nor the queue.
-/

namespace SolanaTpuClient

open ByteMemory RingWindow

/-- The count pointer of a poll is not null and aligned. -/
def CountPointerValid (outEventCount : Option (Ref UInt64)) : Prop :=
  ∃ r, outEventCount = some r ∧ 8 ∣ r.addr

/-- The buffer `r` of a poll can take `eventCapacity` events that stand `eventStride` bytes apart. -/
structure DestinationValid (events : Option (Ref Bytes)) (eventCapacity : UInt64)
    (eventStride : UInt32) (r : Ref Bytes) : Prop where
  events_eq : events = some r
  aligned : 8 ∣ r.addr
  size_le : Event.size ≤ eventStride.toNat
  stride_aligned : 8 ∣ eventStride.toNat
  extent_le : eventCapacity.toNat * eventStride.toNat ≤ sizeMax wordBits

/-- The poll has copied the `n` oldest events of `c` over the buffer contents `m` and has taken them
off the queue, which leaves the buffer contents `m'` and the client `c'`. -/
structure Drained (c : Client) (m : Bytes) (capacity stride n : ℕ) (c' : Client) (m' : Bytes) :
    Prop where
  count : n = min c.eventQueue.pending.length capacity
  written : ∀ i < n, ∃ e, c.eventQueue.pending[i]? = some e ∧
    ∀ j < Event.size, m' (i * stride + j) = ofList e.encode j
  untouched : ∀ a, (∀ i < n, a < i * stride ∨ i * stride + Event.size ≤ a) → m' a = m a
  within : ∀ i < n, i * stride + Event.size ≤ capacity * stride
  no_wrap : ∀ i < n, i * stride % 2 ^ wordBits = i * stride
  consumed : c'.eventQueue.pending = c.eventQueue.pending.drop n
  client : c' = { c with eventQueue := c'.eventQueue }

variable {events : Option (Ref Bytes)} {eventCapacity : UInt64} {eventStride : UInt32}
  {outEventCount : Option (Ref UInt64)}

/-! ### The checks -/

lemma countPointerValid_iff :
    pointerIsAlignedFor outEventCount 8 = true ↔ CountPointerValid outEventCount := by
  rw [CountPointerValid]
  cases outEventCount with
  | none => simp [pointerIsAlignedFor]
  | some r => simp [pointerIsAlignedFor, Nat.dvd_iff_mod_eq_zero]

lemma destinationValid_iff :
    pollDestinationIsValid events eventCapacity eventStride = true
      ↔ ∃ r, DestinationValid events eventCapacity eventStride r := by
  rw [pollDestinationIsValid]
  cases events with
  | none =>
      refine iff_of_false (by simp [pointerIsAlignedFor]) ?_
      rintro ⟨r, h⟩
      exact absurd h.events_eq (by simp)
  | some r =>
      split_ifs with halign hstride hextent
      · refine iff_of_false (by simp) ?_
        rintro ⟨r', h⟩
        obtain rfl := Option.some.inj h.events_eq
        simp [pointerIsAlignedFor, Nat.mod_eq_zero_of_dvd h.aligned] at halign
      · refine iff_of_false (by simp) ?_
        rintro ⟨r', h⟩
        rcases hstride with hlt | hmod
        · exact absurd h.size_le (not_le.mpr hlt)
        · exact hmod (Nat.mod_eq_zero_of_dvd h.stride_aligned)
      · rw [not_or, not_lt, not_not] at hstride
        have hpos : 0 < eventStride.toNat := lt_of_lt_of_le (by decide) hstride.1
        refine iff_of_false (by simp) ?_
        rintro ⟨r', h⟩
        exact absurd ((Nat.le_div_iff_mul_le hpos).mpr h.extent_le) (not_le.mpr hextent)
      · rw [not_or, not_lt, not_not] at hstride
        have hpos : 0 < eventStride.toNat := lt_of_lt_of_le (by decide) hstride.1
        have haligned : 8 ∣ r.addr := by
          simpa [pointerIsAlignedFor, Nat.dvd_iff_mod_eq_zero] using halign
        refine iff_of_true rfl ⟨r, rfl, haligned, hstride.1, Nat.dvd_of_mod_eq_zero hstride.2, ?_⟩
        exact (Nat.le_div_iff_mul_le hpos).mp (not_lt.mp hextent)

/-! ### The three ways a poll goes -/

/-- The `i`-th pending event is the entry `i` slots after the head. -/
lemma EventQueue.pending_getElem? {q : EventQueue} {i : ℕ} (hi : i < q.count) :
    q.pending[i]? = some (q.entries (slot eventQueueCapacity (q.head + i))) := by
  simp [EventQueue.pending, window, hi]

/-- A poll that copies. -/
lemma pollInto_drained (c : Client) {r : Ref Bytes}
    (h : DestinationValid events eventCapacity eventStride r) :
    ∃ c' m' k, pollInto c r.val eventCapacity eventStride = ⟨Status.ok, some c', some m', some k⟩ ∧
      Drained c r.val eventCapacity.toNat eventStride.toNat k.toNat c' m' := by
  set n := min c.eventQueue.count eventCapacity.toNat with hn
  have hsize := h.size_le
  have hextent := le_sizeMax_iff.mp h.extent_le
  have hle : n * eventStride.toNat ≤ eventCapacity.toNat * eventStride.toNat :=
    Nat.mul_le_mul_right _ (min_le_right _ _)
  have hcopied := pollCopied_pollCopy (q := c.eventQueue) (m := r.val) hsize
    (hle.trans_lt hextent)
  have hk : (UInt64.ofNat n).toNat = n := by
    rw [UInt64.toNat_ofNat', Nat.mod_eq_of_lt]
    exact lt_of_le_of_lt (min_le_right _ _) eventCapacity.toNat_lt
  have hwithin : ∀ i < n, i * eventStride.toNat + Event.size
      ≤ eventCapacity.toNat * eventStride.toNat := by
    intro i hi
    calc i * eventStride.toNat + Event.size
        ≤ i * eventStride.toNat + eventStride.toNat := Nat.add_le_add_left hsize _
      _ = (i + 1) * eventStride.toNat := (Nat.succ_mul i _).symm
      _ ≤ n * eventStride.toNat := Nat.mul_le_mul_right _ hi
      _ ≤ eventCapacity.toNat * eventStride.toNat := hle
  refine ⟨_, _, UInt64.ofNat n, rfl, ?_⟩
  rw [hk]
  refine ⟨by rw [hn, EventQueue.pending_length], fun i hi => ?_, hcopied.untouched, hwithin, ?_, ?_,
    rfl⟩
  · exact ⟨_, EventQueue.pending_getElem? (hi.trans_le (min_le_left _ _)), hcopied.written i hi⟩
  · intro i hi
    have := hwithin i hi
    exact Nat.mod_eq_of_lt (by omega)
  · rw [EventQueue.resetHead_pending]
    exact hcopied.pending

lemma clientPollEvents_invalid (client : Option Client) (h : ¬CountPointerValid outEventCount) :
    clientPollEvents client events eventCapacity eventStride outEventCount
      = ⟨Status.invalidArgument, client, events.map Ref.val, outEventCount.map Ref.val⟩ := by
  have hout : pointerIsAlignedFor outEventCount 8 = false := by
    simpa using mt countPointerValid_iff.mp h
  simp only [clientPollEvents, hout, if_true]

lemma clientPollEvents_into (c : Client) (hout : CountPointerValid outEventCount)
    (hcapacity : eventCapacity ≠ 0) {r : Ref Bytes}
    (h : DestinationValid events eventCapacity eventStride r) :
    clientPollEvents (some c) events eventCapacity eventStride outEventCount
      = pollInto c r.val eventCapacity eventStride := by
  have hdest := destinationValid_iff.mpr ⟨r, h⟩
  obtain rfl := h.events_eq
  simp [clientPollEvents, countPointerValid_iff.mpr hout, hcapacity, hdest]

/-- A poll that does not copy only stores a zero. -/
lemma clientPollEvents_idle (client : Option Client) (hout : CountPointerValid outEventCount)
    (h : client = none ∨ eventCapacity = 0 ∨
      ¬∃ r, DestinationValid events eventCapacity eventStride r) :
    ∃ status, clientPollEvents client events eventCapacity eventStride outEventCount
        = ⟨status, client, events.map Ref.val, some 0⟩ ∧
      (status = Status.ok ↔ client.isSome = true ∧ eventCapacity = 0) := by
  have hout' := countPointerValid_iff.mpr hout
  cases client with
  | none => exact ⟨Status.invalidArgument, by simp [clientPollEvents, hout'], by simp⟩
  | some c =>
      by_cases hcapacity : eventCapacity = 0
      · exact ⟨Status.ok, by simp [clientPollEvents, hout', hcapacity], by simp [hcapacity]⟩
      · have hdest : pollDestinationIsValid events eventCapacity eventStride = false := by
          rcases h with h | h | h
          · exact absurd h (by simp)
          · exact absurd h hcapacity
          · simpa using mt destinationValid_iff.mp h
        exact ⟨Status.invalidArgument, by simp [clientPollEvents, hout', hcapacity, hdest],
          by simp [hcapacity]⟩

/-- **A poll writes exactly what it consumes.** With an invalid count pointer nothing changes. On a
client with a nonzero capacity and a valid destination the poll returns `OK`, stores how many events
it delivers, and has copied these events and no other byte and taken them off the queue. In every
other case it stores zero and changes neither the buffer nor the client, and it returns `OK` exactly
on a client with a zero capacity. -/
theorem polling_writes_what_it_consumes (client : Option Client) (events : Option (Ref Bytes))
    (eventCapacity : UInt64) (eventStride : UInt32) (outEventCount : Option (Ref UInt64)) :
    let r := clientPollEvents client events eventCapacity eventStride outEventCount
    (¬CountPointerValid outEventCount →
      r = ⟨Status.invalidArgument, client, events.map Ref.val, outEventCount.map Ref.val⟩) ∧
    (CountPointerValid outEventCount →
      (∀ c buffer, client = some c → eventCapacity ≠ 0 →
        DestinationValid events eventCapacity eventStride buffer →
        ∃ c' m' k, r = ⟨Status.ok, some c', some m', some k⟩ ∧
          Drained c buffer.val eventCapacity.toNat eventStride.toNat k.toNat c' m') ∧
      ((client = none ∨ eventCapacity = 0 ∨
          ¬∃ buffer, DestinationValid events eventCapacity eventStride buffer) →
        ∃ status, r = ⟨status, client, events.map Ref.val, some 0⟩ ∧
          (status = Status.ok ↔ client.isSome = true ∧ eventCapacity = 0))) := by
  refine ⟨clientPollEvents_invalid client, fun hout => ⟨?_, clientPollEvents_idle client hout⟩⟩
  rintro c buffer rfl hcapacity hdest
  rw [clientPollEvents_into c hout hcapacity hdest]
  exact pollInto_drained c hdest

end SolanaTpuClient
