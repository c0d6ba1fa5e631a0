import SolanaTpuClient.Delivery.SystemClient
import SolanaTpuClient.Properties.Freshness
import SolanaTpuClient.Properties.Observation
import SolanaTpuClient.Properties.SystemClock
import SolanaTpuClient.Properties.Validation

/-!
The default client under `CLOCK_MONOTONIC`.

The readings of the clock along a run are taken in order, and away from the readings that overflow
their conversion keeps the order (`orderedClock_systemStep`). What is known of a client under an
ordered clock then holds of the default client in the nanoseconds of its readings
(`system_client_in_time`): no age is computed backwards, every event is stamped after its admission
and the events are stamped in the order in which they are delivered.
-/

namespace SolanaTpuClient

open ByteMemory Procedure Transition

/-! ### The times of the events -/

section Stamps

variable {s : State} {op : Op} {id : UInt64}

/-- A submission that returns `OK` has taken two readings, for a topology that is in use. -/
lemma two_le_of_acceptedBy (hs : s.WellFormed) (hid : acceptedBy (step s op).1 = some id) :
    s.client.data.hasTopology = true ∧ 2 ≤ clockReadings s op := by
  obtain ⟨S, hS⟩ := hs.topology.represents
  obtain ⟨out, hsubmitted⟩ := submitted_of_acceptedBy hid
  obtain ⟨handle, transactionBytes, length, options, outRequestId, answers, rfl⟩ :=
    exists_submit_of_submitted hsubmitted
  obtain ⟨status, out, s', hstep, hcase⟩ := submission_cases hs hS handle transactionBytes
    length options outRequestId answers
  cases hcase with
  | rejected _ hne _ _ => exact absurd hid (by simp [hstep, acceptedBy, hne])
  | accepted hnone _ _ _ haccepted =>
      obtain ⟨bytes, policy, rfl, rfl, hlength, hout, hoptions⟩ :=
        exists_submitsUnder hnone (by simp) (by simp)
      have hbody := (firstFailure_submit S s.client.data answers bytes hlength hout
        hoptions).symm.trans hnone
      rw [Option.or_eq_none_iff, routing_bodyStages, firstFailure_append,
        Option.or_eq_none_iff] at hbody
      obtain ⟨hadmitted, hpassed, -⟩ := hbody
      exact ⟨haccepted.hasTopology,
        two_le_clockReadings bytes hs hS hlength hout hoptions hadmitted hpassed⟩

/-- The event of an accepted submission is stamped with a time the submission was told. -/
lemma AcceptedInTime.mem_timesOf {event : Event} (hs : s.WellFormed)
    (h : AcceptedInTime (entry step s op) event) : event.monotonicTimeNs ∈ timesOf s op := by
  obtain ⟨policy, answers, ⟨hinput, -, -, -⟩, -, hok, hstamp, -⟩ := h.inTime
  obtain rfl : op = _ := hinput
  rw [hstamp]
  exact SolanaTpuClient.mem_timesOf
    (mem_samplesOf rfl (two_le_of_acceptedBy hs h.accepted).2) hok

/-- Events are stamped with times the clock has told, in their order. -/
structure StampedInOrder (times : List UInt64) (events : List Event) : Prop where
  told : ∀ event ∈ events, event.monotonicTimeNs ∈ times
  ordered : events.Pairwise fun event event' => event.monotonicTimeNs ≤ event'.monotonicTimeNs

lemma StampedInOrder.mono {times times' : List UInt64} {events : List Event}
    (h : StampedInOrder times events) (hsub : times ⊆ times') : StampedInOrder times' events :=
  ⟨fun event hevent => hsub (h.told event hevent), h.ordered⟩

/-- One more event, with one of the newest times. -/
lemma StampedInOrder.concat {times newest : List UInt64} {events : List Event} {event : Event}
    (h : StampedInOrder times events) (horder : (times ++ newest).Pairwise (· ≤ ·))
    (hnew : event.monotonicTimeNs ∈ newest) :
    StampedInOrder (times ++ newest) (events ++ [event]) where
  told := by
    intro event' hevent
    rcases List.mem_append.mp hevent with hold | hlast
    · exact List.mem_append_left _ (h.told event' hold)
    · obtain rfl := List.mem_singleton.mp hlast
      exact List.mem_append_right _ hnew
  ordered := by
    refine List.pairwise_append.mpr ⟨h.ordered, List.pairwise_singleton _ _, ?_⟩
    intro event' hold last hlast
    obtain rfl := List.mem_singleton.mp hlast
    exact (List.pairwise_append.mp horder).2.2 _ (h.told event' hold) _ hnew

/-- **The events are chronological**: what has been delivered and what is pending is stamped in
the order in which it is delivered, if the clock does not go back. -/
lemma stampedInOrder_run (d : Dependencies) (ops : List Op)
    (hclock : OrderedClock (history step (fresh d) ops)) :
    StampedInOrder (clockTimes (history step (fresh d) ops))
      (deliveredEvents (history step (fresh d) ops) ++ (run step (fresh d) ops).pending) := by
  refine run_rule (P := fun h s => OrderedClock h →
    StampedInOrder (clockTimes h) (deliveredEvents h ++ s.pending)) d (fun _ => ⟨?_, ?_⟩) ?_ ops
    hclock
  · simp [fresh, State.pending, Dependencies.client, Client.zero]
  · simp [fresh, State.pending, Dependencies.client, Client.zero]
  intro h s op hs ih hclock
  have htimes : clockTimes (h ++ [entry step s op]) = clockTimes h ++ timesOf s op := by
    rw [clockTimes_append, clockTimes_cons, clockTimes_nil, List.append_nil]
    rfl
  have horder : (clockTimes h ++ timesOf s op).Pairwise (· ≤ ·) := htimes ▸ hclock
  have hbefore := ih (List.pairwise_append.mp horder).1
  have hcase := (step_spec hs op).client
  obtain ⟨t, hevents⟩ := hcase.events
  cases ha : acceptedBy (step s op).1 with
  | none =>
      have hsame := events_concat (h := h) hevents
      rw [ha, Option.toList_none, List.map_nil, List.append_nil] at hsame
      rw [hsame, htimes]
      exact hbefore.mono (List.subset_append_left _ _)
  | some id =>
      obtain ⟨event, htime⟩ := acceptedInTime hs ha (List.pairwise_append.mp horder).2.1
      have hnew : (step s op).2.pending = s.pending ++ [event] := htime.appended
      rw [deliveredEvents_concat, entry_input, entry_output, hcase.not_delivered_of_accepted ha,
        List.append_nil, hnew, ← List.append_assoc, htimes]
      exact hbefore.concat horder (htime.mem_timesOf hs)

end Stamps

/-! ### The receipt of the topology in use -/

/-- The topology in use was received at a time the clock has told. -/
def ReceiptTold (h : List Step) (s : State) : Prop :=
  s.client.data.hasTopology = true → s.receivedNs ∈ clockTimes h

lemma receiptTold_run (d : Dependencies) (ops : List Op) :
    ReceiptTold (history step (fresh d) ops) (run step (fresh d) ops) := by
  refine run_rule (P := ReceiptTold) d (fun hno => absurd hno Bool.false_ne_true) ?_ ops
  intro h s op hs ih hhas
  have hcase := (step_spec hs op).client
  rw [clockTimes_append, List.mem_append]
  cases hi : installedBy op (step s op).1 with
  | none =>
      obtain ⟨htopology, hkept⟩ := hcase.of_not_installed hi
      have hreceived : (step s op).2.receivedNs = s.receivedNs :=
        congrArg OwnedTopology.receivedMonotonicNs htopology
      rw [hreceived]
      exact Or.inl (ih (hkept.symm.trans hhas))
  | some t =>
      obtain ⟨topology, answers, ledger, hop, hinst⟩ := hcase.of_installed hi
      have hsample := mem_samplesOf hop (clockReadings_pos_of_installed hs hi)
      have hreceived : (step s op).2.receivedNs = (answers.clock 0).timeNs := hinst.received
      refine Or.inr ?_
      rw [clockTimes_cons, clockTimes_nil, List.append_nil, hreceived]
      exact mem_timesOf hsample hinst.clock

/-! ### Readings in order -/

/-- The clock refuses a reading, or `clock_gettime` fails. -/
def Refused (reading : Option Timespec) : Prop := ∀ now, reading = some now → ¬now.Accepted

/-- The successful readings along a run are in order, and none of them overflows. -/
structure ReadInOrder (h : List HostStep) : Prop where
  ordered : (readings h).Pairwise Timespec.NotAfter
  fits : ∀ now ∈ readings h, ¬now.Overflows

section Readings

variable {s : State} {call : HostCall} {now : Timespec} {t : UInt64}

lemma refused_iff {reading : Option Timespec} :
    Refused reading ↔ (clockAnswerOf reading).status = Status.internalError := by
  cases reading with
  | none => simp [Refused, clockAnswerOf_none]
  | some now =>
      rcases clockAnswerOf_some now with ⟨hacc, hok, -⟩ | ⟨hacc, hrefused⟩
      · simp [Refused, hacc, hok, Status.internalError_ne_ok.symm]
      · simp [Refused, hacc, hrefused]

lemma Timespec.Accepted.nanoseconds_nonneg (h : now.Accepted) : 0 ≤ now.nanoseconds := by
  obtain ⟨hsec, -, hnsec, -⟩ := h
  exact add_nonneg (mul_nonneg hsec (by norm_num)) hnsec

/-- A reading that does not overflow is told exactly. -/
lemma Timespec.told_exact (h : now.told = some t) (hfits : ¬now.Overflows) :
    now.Accepted ∧ (t.toNat : ℤ) = now.nanoseconds := by
  obtain ⟨hacc, hvalue⟩ := now.told_eq_some h
  exact ⟨hacc, hvalue.trans
    (Int.emod_eq_of_lt hacc.nanoseconds_nonneg (hacc.fits_iff.mpr hfits))⟩

/-- Readings in order are told in order. -/
lemma told_ordered {ticks : List Timespec} (hordered : ticks.Pairwise Timespec.NotAfter)
    (hfits : ∀ now ∈ ticks, ¬now.Overflows) :
    (ticks.filterMap Timespec.told).Pairwise (· ≤ ·) := by
  rw [List.pairwise_filterMap]
  refine hordered.imp_of_mem fun {first second} hfirst hsecond hle t₁ ht₁ t₂ ht₂ => ?_
  obtain ⟨hacc₁, hv₁⟩ := Timespec.told_exact ht₁ (hfits first hfirst)
  obtain ⟨hacc₂, hv₂⟩ := Timespec.told_exact ht₂ (hfits second hsecond)
  have hns := nanoseconds_le hacc₁ hacc₂ hle
  rw [UInt64.le_iff_toNat_le]
  omega

/-- The clock of the dependencies is ordered. -/
lemma orderedClock_systemStep {h : List HostStep} (hread : ReadInOrder h) :
    OrderedClock (h.map stepOf) := by
  rw [OrderedClock, clockTimes_stepOf]
  exact told_ordered hread.ordered hread.fits

/-- A time told along a run is that of one of its readings. -/
lemma exists_reading {h : List HostStep} (hfits : ∀ now ∈ readings h, ¬now.Overflows)
    (ht : t ∈ clockTimes (h.map stepOf)) :
    ∃ now ∈ readings h, (t.toNat : ℤ) = now.nanoseconds := by
  rw [clockTimes_stepOf, List.mem_filterMap] at ht
  obtain ⟨now, hnow, htold⟩ := ht
  exact ⟨now, hnow, (Timespec.told_exact htold (hfits now hnow)).2⟩

/-- A successful answer of the clock is an exact reading. -/
lemma exists_clockGettime {reading : Option Timespec}
    (hok : (clockAnswerOf reading).status = Status.ok)
    (hfits : ∀ now, reading = some now → ¬now.Overflows) :
    ∃ now, reading = some now ∧ ((clockAnswerOf reading).timeNs.toNat : ℤ) = now.nanoseconds := by
  cases reading with
  | none => exact absurd hok Status.internalError_ne_ok
  | some now =>
      have htold : now.told = some (clockAnswerOf (some now)).timeNs :=
        ClockAnswer.time?_eq_some.mpr ⟨hok, rfl⟩
      exact ⟨now, rfl, (Timespec.told_exact htold (hfits now rfl)).2⟩

/-- A reading that a call takes is one of its readings. -/
lemma mem_readingsOf {k : ℕ} (hk : k < clockReadings s call.op)
    (hnow : call.host.clockGettime k = some now) : now ∈ readingsOf s call :=
  List.mem_filterMap.mpr ⟨k, List.mem_range.mpr hk, hnow⟩

/-- A sample that failed is a reading that was refused. -/
lemma exists_refused (h : ∃ sample ∈ samplesOf s call.op, sample.status = Status.internalError) :
    ∃ k < clockReadings s call.op, Refused (call.host.clockGettime k) := by
  obtain ⟨sample, hsample, hstatus⟩ := h
  rw [samplesOf_op, List.mem_map] at hsample
  obtain ⟨k, hk, rfl⟩ := hsample
  exact ⟨k, List.mem_range.mp hk, refused_iff.mpr hstatus⟩

end Readings

/-! ### Internal errors -/

/-- The provider of a refresh has failed with `INTERNAL_ERROR`, or stored no topology. -/
def ProviderAtFault : Op → Prop
  | .refreshTopology _ _ acquired _ =>
      acquired.status = Status.internalError ∨ acquired.topology = none
  | _ => False

section InternalErrors

variable {s : State} {op : Op} {answers : Answers}

/-- A topology is rejected as unsupported or as invalid. -/
lemma topologyValidate_rejection {topology : Option (Ref CallerTopology)} {e : Status}
    (h : topologyValidate topology = .error e) :
    e = Status.unsupported ∨ e = Status.invalidArgument := by
  cases topology with
  | none =>
      cases h
      exact Or.inr rfl
  | some r =>
      rw [topologyValidate] at h
      split_ifs at h with halign
      · cases h
        exact Or.inr rfl
      · exact topologyValidateView_rejection h

/-- An installation that fails with `INTERNAL_ERROR` has read the clock. -/
lemma ensures_installTopology_failed {c : Client} {topology : Option (Ref CallerTopology)}
    {w : World} {M : Multiset ℕ} (hvalid : allocatorIsValid (some c.allocator) = true)
    (hM : w.ledger.Owns (c.blocks + M)) :
    Ensures (installTopology topology) ⟨c, w⟩ (fun _ _ => True)
      fun e s => e = Status.internalError → w.clockCalls < s.clockCalls := by
  have hinvalid : ∀ {e : Status} {t : Option (Ref CallerTopology)},
      topologyValidate t = .error e → e ≠ Status.internalError := by
    rintro e t h rfl
    rcases topologyValidate_rejection h with h | h <;> exact absurd h (by decide)
  cases topology with
  | none => exact fun h => absurd h Status.internalError_ne_invalidArgument.symm
  | some r =>
      refine ensures_bind.mpr (ensures_ofResult (fun _ _ => ?_) fun _ h he => absurd he (hinvalid h))
      refine ensures_bind.mpr (ensures_get.mpr (ensures_bind.mpr (ensures_require.mpr
        ⟨fun _ => ?_, fun _ h => absurd h (by decide)⟩)))
      refine ensures_bind.mpr (ensures_zoom.mpr ((ensures_buildOwnedTopology hvalid hM).mono ?_ ?_))
      · rintro o w₁ ⟨halloc, -, -⟩
        refine ensures_bind.mpr (ensures_zoom.mpr ?_)
        by_cases hclock : (w₁.answers.clock w₁.clockCalls).status = Status.ok
        · exact ensures_of_ok (t := w₁.clockRead)
            (by rw [receiptTime, World.monotonicTime_of_ok hclock]) trivial
        · refine ensures_of_error (t := ownedTopologyRelease c.allocator o w₁.clockRead)
            (by rw [receiptTime, World.monotonicTime_of_ne hclock]) fun _ => ?_
          have hreleased : (ownedTopologyRelease c.allocator o w₁.clockRead).clockCalls
              = w.clockCalls + 1 :=
            (ownedTopologyRelease_clockCalls _ _ _).trans (congrArg (· + 1) halloc.clockCalls)
          exact Nat.lt_of_lt_of_eq (Nat.lt_succ_self _) hreleased.symm
      · rintro e w₁ hfailed he
        exact absurd (hfailed.1.symm.trans he) (by decide)

/-- An installation that fails with `INTERNAL_ERROR` passes on what the clock has returned. -/
lemma clock_of_installTopology (hs : s.WellFormed) (handle : Handle)
    {topology : Option (Ref CallerTopology)}
    (h : (clientInstallTopology (s.behind handle) topology (World.start answers s.ledger)).status
      = Status.internalError) :
    (answers.clock 0).status = Status.internalError ∧
      0 < (clientInstallTopology (s.behind handle) topology
        (World.start answers s.ledger)).world.clockCalls := by
  cases handle with
  | null => exact absurd h.symm Status.internalError_ne_invalidArgument
  | self =>
      have hspec : Ensures (installTopology topology) ⟨s.client.data, World.start answers s.ledger⟩
          _ _ := ensures_installTopology hs.allocator hs.owns
      have hread : Ensures (installTopology topology) ⟨s.client.data, World.start answers s.ledger⟩
          _ _ := ensures_installTopology_failed hs.allocator hs.owns
      simp only [State.behind, clientInstallTopology, callOnClient] at h ⊢
      rcases hspec.cases with ⟨u, t, hres, -⟩ | ⟨e, t, hres, hfail, -⟩
      · rw [hres] at h
        exact absurd h.symm Status.internalError_ne_ok
      · rw [Ensures, hres] at hread
        rw [hres] at h ⊢
        obtain rfl : e = Status.internalError := h
        refine ⟨?_, hread rfl⟩
        cases hfail with
        | invalid hinvalid =>
            rcases topologyValidate_rejection hinvalid with h | h <;> exact absurd h (by decide)
        | clock _ _ _ _ hclock _ => exact hclock

/-- A poll does not fail with `INTERNAL_ERROR`. -/
lemma clientPollEvents_ne_internalError (client : Option Client) (events : Option (Ref Bytes))
    (eventCapacity : UInt64) (eventStride : UInt32) (outEventCount : Option (Ref UInt64)) :
    (clientPollEvents client events eventCapacity eventStride outEventCount).status
      ≠ Status.internalError := by
  unfold clientPollEvents
  cases client with
  | none => split_ifs <;> exact Status.internalError_ne_invalidArgument.symm
  | some c =>
      dsimp only
      split_ifs with hout hcapacity hdestination
      · exact Status.internalError_ne_invalidArgument.symm
      · exact Status.internalError_ne_ok.symm
      · exact Status.internalError_ne_invalidArgument.symm
      · cases events with
        | none => exact Status.internalError_ne_invalidArgument.symm
        | some r => exact Status.internalError_ne_ok.symm

/-- The checks of a provider do not fail with `INTERNAL_ERROR`. -/
lemma validateProvider_stage_ne {client : Option Client}
    {provider : Option (Ref DiscoveryProvider)} :
    (false, Status.internalError) ≠ Status.stageOf (validateProvider client provider) := by
  unfold validateProvider
  split
  · split_ifs <;> simp [Status.stageOf]
  · simp [Status.stageOf]

/-- **Where an `INTERNAL_ERROR` comes from**: unless the clock runs behind the receipt of the
topology, a call returns it only if the clock did or the provider of a refresh is at fault. -/
lemma internalError_cases (hs : s.WellFormed) (h : (step s op).1.status = Status.internalError)
    (hreceived : ∀ t ∈ timesOf s op, s.receivedNs ≤ t) :
    ProviderAtFault op ∨ ∃ sample ∈ samplesOf s op, sample.status = Status.internalError := by
  cases op with
  | installTopology handle topology answers =>
      obtain ⟨hclock, hread⟩ := clock_of_installTopology hs handle h
      exact Or.inr ⟨_, mem_samplesOf rfl hread, hclock⟩
  | refreshTopology handle provider acquired answers =>
      have hcases := clientRefreshTopology_cases (s.behind handle) provider acquired
        (World.start answers s.ledger)
      have hread : clockReadings s (.refreshTopology handle provider acquired answers)
          = (clientRefreshTopology (s.behind handle) provider acquired
            (World.start answers s.ledger)).world.clockCalls := rfl
      simp only [step, Outcome.status] at h
      generalize clientRefreshTopology (s.behind handle) provider acquired
        (World.start answers s.ledger) = r at h hcases hread
      obtain ⟨r, calls⟩ := r
      cases hcases with
      | stopped hfirst _ =>
          obtain rfl := h
          have hmem := mem_of_firstFailure hfirst
          simp only [acquireStages, List.mem_cons, Prod.mk.injEq, List.not_mem_nil, or_false] at hmem
          rcases hmem with hprovider | ⟨-, hstatus⟩ | ⟨htopology, -⟩
          · exact absurd hprovider validateProvider_stage_ne
          · exact Or.inl (Or.inl hstatus.symm)
          · exact Or.inl (Or.inr (by simpa using htopology.symm))
      | attempted _ _ =>
          obtain ⟨hclock, hpos⟩ := clock_of_installTopology hs handle h
          exact Or.inr ⟨_, mem_samplesOf rfl (hread ▸ hpos), hclock⟩
  | submit handle transactionBytes transactionLength options outRequestId answers =>
      have hout : (step s (.submit handle transactionBytes transactionLength options outRequestId
          answers)).1 = .submitted Status.internalError _ := congrArg (Outcome.submitted · _) h
      exact Or.inr (internalError_sampled hs hout hreceived)
  | pollEvents handle events eventCapacity eventStride outEventCount =>
      exact absurd h (clientPollEvents_ne_internalError _ _ _ _ _)

end InternalErrors

/-! ### Runs of a default client -/

/-- A default client that has been created is a fresh client with the system's dependencies. -/
lemma clientCreate_eq_fresh {f : SystemFunctions} {outClientIsNull : Bool} {host : HostAnswers}
    {b : Block Client} {w : World}
    (h : clientCreate f outClientIsNull (World.start host.answers Ledger.empty) = .ok b w) :
    ∃ addr, ⟨b, w.ledger⟩ = fresh (systemDependencies f addr) := by
  have hcreate : Ensures (clientCreate f outClientIsNull) (World.start host.answers Ledger.empty)
      (fun b w => ∃ addr, ⟨b, w.ledger⟩ = fresh (systemDependencies f addr)) fun _ _ => True := by
    refine ensures_bind.mpr (ensures_require.mpr ⟨fun _ => ?_, fun _ => trivial⟩)
    cases hcalloc : host.calloc 0 with
    | none => exact ensures_bind.mpr (ensures_of_ok (World.calloc_of_none hcalloc) trivial)
    | some addr =>
        exact ensures_bind.mpr (ensures_of_ok (World.calloc_of_some hcalloc) ⟨addr, rfl⟩)
  rwa [Ensures, h] at hcreate

/-- What an accepted submission shows of the readings of `CLOCK_MONOTONIC`, in nanoseconds: the
topology in use was received at a reading of a call before, the submission was admitted at the
first reading of its own, within the age it allows, and its event is stamped with the second. -/
structure AcceptedAt (before : List HostStep) (e : HostStep) (event : Event) : Prop where
  accepted : acceptedBy e.output = some event.requestId
  appended : e.post.pending = e.pre.pending ++ [event]
  inTime : ∃ policy, ∃ received ∈ readings before, ∃ admitted stamped,
    SubmitsUnder (stepOf e) policy e.input.host.answers ∧
    e.input.host.clockGettime 0 = some admitted ∧ e.input.host.clockGettime 1 = some stamped ∧
    (e.pre.receivedNs.toNat : ℤ) = received.nanoseconds ∧
    (event.monotonicTimeNs.toNat : ℤ) = stamped.nanoseconds ∧
    received.nanoseconds ≤ admitted.nanoseconds ∧ admitted.nanoseconds ≤ stamped.nanoseconds ∧
    admitted.nanoseconds - received.nanoseconds ≤ policy.maxTopologyAgeNs.toNat

/-- The answers of a submission of a default client are those of the system. -/
lemma SubmitsUnder.host {e : HostStep} {policy : SubmissionPolicy} {answers : Answers}
    (h : SubmitsUnder (stepOf e) policy answers) : answers = e.input.host.answers := by
  obtain ⟨hinput, -, -, -⟩ := h
  have hanswers : e.input.op.answers = some answers := by
    rw [show e.input.op = _ from hinput]
    rfl
  exact Option.some.inj (hanswers.symm.trans (op_answers (by simp [hanswers])))

/-- A submission that was accepted in time was accepted at its readings. -/
lemma AcceptedInTime.acceptedAt {before : List HostStep} {s : State} {call : HostCall}
    {event : Event} (hs : s.WellFormed) (h : AcceptedInTime (entry step s call.op) event)
    (htold : ReceiptTold (before.map stepOf) s)
    (hbefore : ∀ now ∈ readings before, ¬now.Overflows)
    (hown : ∀ now ∈ readingsOf s call, ¬now.Overflows) :
    AcceptedAt before (entry systemStep s call) event := by
  obtain ⟨policy, answers, hsubmits, hok₀, hok₁, hstamp, hreceived, horder, hage⟩ := h.inTime
  obtain rfl : answers = call.host.answers := hsubmits.host (e := entry systemStep s call)
  obtain ⟨hhas, htwo⟩ := two_le_of_acceptedBy hs h.accepted
  obtain ⟨received, hmem, hv⟩ := exists_reading hbefore (htold hhas)
  obtain ⟨admitted, hadmitted, hv₀⟩ := exists_clockGettime hok₀ fun now hnow =>
    hown now (mem_readingsOf (Nat.zero_lt_two.trans_le htwo) hnow)
  obtain ⟨stamped, hstamped, hv₁⟩ := exists_clockGettime hok₁ fun now hnow =>
    hown now (mem_readingsOf (Nat.one_lt_two.trans_le htwo) hnow)
  have hle₀ := UInt64.le_iff_toNat_le.mp hreceived
  have hle₁ := UInt64.le_iff_toNat_le.mp horder
  rw [hstamp] at hle₁
  refine ⟨h.accepted, h.appended, policy, received, hmem, admitted, stamped, hsubmits, hadmitted,
    hstamped, hv, ?_, ?_, ?_, ?_⟩
  · rw [hstamp]
    exact hv₁
  · rw [← hv, ← hv₀]
    exact_mod_cast hle₀
  · rw [← hv₀, ← hv₁]
    exact_mod_cast hle₁
  · rw [← hv, ← hv₀]
    have hage' : ((call.host.answers.clock 0).timeNs.toNat - s.receivedNs.toNat : ℕ)
        ≤ policy.maxTopologyAgeNs.toNat := hage
    have hle : s.receivedNs.toNat ≤ (call.host.answers.clock 0).timeNs.toNat := hle₀
    change ((call.host.answers.clock 0).timeNs.toNat : ℤ) - (s.receivedNs.toNat : ℤ) ≤ _
    omega

/-- A step that a run of a default client takes after the record `before`. -/
structure HostTaken (before : List HostStep) (e : HostStep) : Prop where
  wellFormed : e.pre.WellFormed
  eq_entry : e = entry systemStep e.pre e.input
  recorded : ReceiptRecorded (before.map stepOf) e.pre
  told : ReceiptTold (before.map stepOf) e.pre

lemma hostTaken_of_history {d : Dependencies} {calls : List HostCall} {h₁ h₂ : List HostStep}
    {e : HostStep} (h : history systemStep (fresh d) calls = h₁ ++ e :: h₂) : HostTaken h₁ e := by
  obtain ⟨js, i, ks, rfl, rfl, -⟩ := history_eq_append_cons systemStep h
  obtain ⟨hrun, hhistory⟩ := history_systemStep (fresh d) js
  refine ⟨?_, rfl, ?_, ?_⟩
  · rw [entry_pre, ← hrun]
    exact wellFormed_run d _
  · rw [entry_pre, ← hrun, ← hhistory]
    exact receiptRecorded_run d _
  · rw [entry_pre, ← hrun, ← hhistory]
    exact receiptTold_run d _

/-- **The default client keeps time.** On every run of a client of `solana_delivery_client_create`
whose successful readings of `CLOCK_MONOTONIC` are in order and do not overflow:

* a call returns `INTERNAL_ERROR` only if one of the readings it took failed or was refused, or if
  the provider of a refresh is at fault;
* every submission that returns `OK` was admitted and stamped at its two readings, within the age it
  allows after the reading at which the topology in use was received;
* the events that are delivered and pending are stamped with readings, in the order of their
  delivery. -/
theorem system_client_in_time (f : SystemFunctions) (outClientIsNull : Bool) (host : HostAnswers)
    (b : Block Client) (w : World)
    (hcreate : clientCreate f outClientIsNull (World.start host.answers Ledger.empty) = .ok b w)
    (calls : List HostCall) (hread : ReadInOrder (history systemStep ⟨b, w.ledger⟩ calls)) :
    let h := history systemStep ⟨b, w.ledger⟩ calls
    let events := deliveredEvents (h.map stepOf) ++ (run systemStep ⟨b, w.ledger⟩ calls).pending
    (∀ e ∈ h, e.output.status = Status.internalError → ProviderAtFault e.input.op ∨
      ∃ k < clockReadings e.pre e.input.op, Refused (e.input.host.clockGettime k)) ∧
    (∀ h₁ e h₂, h = h₁ ++ e :: h₂ → ∀ id, acceptedBy e.output = some id →
      ∃ event, event.requestId = id ∧ AcceptedAt h₁ e event) ∧
    (∀ event ∈ events, ∃ now ∈ readings h, (event.monotonicTimeNs.toNat : ℤ) = now.nanoseconds) ∧
    events.Pairwise fun event event' => event.monotonicTimeNs ≤ event'.monotonicTimeNs := by
  obtain ⟨addr, hfresh⟩ := clientCreate_eq_fresh hcreate
  rw [hfresh] at hread ⊢
  set d := systemDependencies f addr
  intro h events
  obtain ⟨hrun, hhistory⟩ := history_systemStep (fresh d) calls
  have hclock : OrderedClock (h.map stepOf) := orderedClock_systemStep hread
  have hstamped : StampedInOrder (clockTimes (h.map stepOf)) events := by
    have hstamped := stampedInOrder_run d (calls.map HostCall.op) (by rwa [hhistory])
    rwa [hhistory, hrun] at hstamped
  have hcut : ∀ {h₁ e h₂}, h = h₁ ++ e :: h₂ →
      OrderedClock (h₁.map stepOf ++ entry step e.pre e.input.op :: h₂.map stepOf) := by
    intro h₁ e h₂ hcut
    have hsame : stepOf e = entry step e.pre e.input.op := by
      rw [(hostTaken_of_history hcut).eq_entry]
      rfl
    rw [hcut, List.map_append, List.map_cons, hsame] at hclock
    exact hclock
  refine ⟨?internal, ?accepted, ?stamped, hstamped.ordered⟩
  case internal =>
    intro e he hstatus
    obtain ⟨h₁, h₂, hsplit⟩ := List.append_of_mem he
    have htaken := hostTaken_of_history hsplit
    rw [htaken.eq_entry] at hstatus
    refine (internalError_cases htaken.wellFormed hstatus fun t ht => ?_).imp_right exists_refused
    exact (hcut hsplit).received_le htaken.recorded ht
  case accepted =>
    intro h₁ e h₂ hsplit id hid
    have htaken := hostTaken_of_history hsplit
    have hfits : ∀ now ∈ readings h₁ ++ readingsOf e.pre e.input, ¬now.Overflows := by
      intro now hnow
      refine hread.fits now ?_
      change now ∈ readings h
      rw [hsplit, readings_append, readings_cons, ← List.append_assoc]
      exact List.mem_append_left _ hnow
    rw [htaken.eq_entry] at hid ⊢
    obtain ⟨event, htime⟩ := acceptedInTime htaken.wellFormed hid (hcut hsplit).within
    refine ⟨event, Option.some.inj (htime.accepted.symm.trans hid), htime.acceptedAt
      htaken.wellFormed htaken.told (fun now hnow => hfits now (List.mem_append_left _ hnow))
      fun now hnow => hfits now (List.mem_append_right _ hnow)⟩
  case stamped =>
    intro event hevent
    exact exists_reading hread.fits (hstamped.told event hevent)

instance (first second : Timespec) : Decidable (first.NotAfter second) :=
  inferInstanceAs (Decidable (_ ∨ _ ∧ _))

/-- Functions a default client can depend on. -/
def sampleFunctions : SystemFunctions where
  systemCalloc := 32
  systemFree := 40
  systemMonotonicTimeNs := 48
  systemCalloc_ne_null := by decide
  systemFree_ne_null := by decide
  systemMonotonicTimeNs_ne_null := by decide

/-- A system that grants every allocation and whose clock stands at `now`. -/
def sampleSystem (now : Timespec) : HostAnswers := ⟨sampleAnswers.calloc, fun _ => some now⟩

/-- The client created there. -/
def sampleSystemClient : State :=
  fresh (systemDependencies sampleFunctions sampleDependencies.clientAddr)

/-- An installation and a submission that allows an age of a second. -/
def sampleSystemCalls : List HostCall :=
  [⟨sampleInstall, sampleSystem ⟨7, 500⟩⟩,
    ⟨.submit .self (some fun _ => 7) 3 (some (sampleRef ⟨24, 0, 1000000000, 4, 0⟩))
      (some (sampleRef 0)) sampleAnswers, sampleSystem ⟨8, 100⟩⟩]

theorem system_client_in_time_sample :
    ∃ event, event.requestId = 1 ∧
      AcceptedAt (history systemStep sampleSystemClient [sampleSystemCalls.head (by decide)])
        (entry systemStep (run systemStep sampleSystemClient [sampleSystemCalls.head (by decide)])
          (sampleSystemCalls.getLast (by decide))) event :=
  (system_client_in_time sampleFunctions false (sampleSystem ⟨7, 0⟩) sampleSystemClient.client
    (World.start (sampleSystem ⟨7, 0⟩).answers Ledger.empty).callocDone rfl sampleSystemCalls
    ⟨by decide, by decide⟩).2.1 _ _ [] rfl 1 (by decide)

end SolanaTpuClient
