import SolanaTpuClient.Delivery.ClockReadings
import SolanaTpuClient.Properties.Events
import SolanaTpuClient.Properties.Installations
import SolanaTpuClient.Properties.Snapshots
import SolanaTpuClient.Properties.Submissions

/-!
The freshness of the installed topology under a clock that does not go back.

The receipt time of a topology is a time the clock has told (`ReceiptRecorded`), so that on a run
with `OrderedClock` no later reading is earlier. What follows are the admissions: a topology that
was too old for a submission is too old for every later one that allows no greater age, until a
topology is installed again (`staleness_lasts`), and an accepted event is stamped no earlier than
its submission was admitted (`AcceptedInTime`).
-/

namespace SolanaTpuClient

open ByteMemory Procedure Transition

/-! ### Submissions that come to their admission -/

/-- The successful readings of the clock do not decrease along a run. -/
def OrderedClock (h : List Step) : Prop := (clockTimes h).Pairwise (· ≤ ·)

/-- The receipt time of the topology of a state. -/
def State.receivedNs (s : State) : UInt64 := s.client.data.topology.receivedMonotonicNs

/-- A step is a submission with valid arguments: its pointers, its length and its options are
accepted, the options as `policy`. -/
inductive SubmitsUnder (e : Step) (policy : SubmissionPolicy) (answers : Answers) : Prop where
  | intro {bytes : Bytes} {length : UInt64} {options : Option (Ref SubmitOptions)}
      {outRequestId : Option (Ref UInt64)} :
      e.input = .submit .self (some bytes) length options outRequestId answers → length ≠ 0 →
      pointerIsAlignedFor outRequestId 8 = true → validateSubmitOptions options = .ok policy →
      SubmitsUnder e policy answers

/-- The freshness check of a submission found the topology too old, at an admission sample that
succeeded. -/
structure FreshnessRejected (e : Step) (policy : SubmissionPolicy) (answers : Answers) : Prop where
  submits : SubmitsUnder e policy answers
  sampled : (answers.clock 0).status = Status.ok
  rejected : ∃ w, evaluateSubmissionPolicy (some e.pre.client.data) (some policy)
    (World.start answers e.pre.ledger) = .error Status.topologyStale w

/-- What a submission that returns `OK` shows of the clock: it was admitted at a time not before the
receipt of the topology, within the age it allows, and its event is stamped not before that. -/
structure AcceptedInTime (e : Step) (event : Event) : Prop where
  accepted : acceptedBy e.output = some event.requestId
  appended : e.post.pending = e.pre.pending ++ [event]
  inTime : ∃ policy answers, SubmitsUnder e policy answers ∧
    (answers.clock 0).status = Status.ok ∧ (answers.clock 1).status = Status.ok ∧
    event.monotonicTimeNs = (answers.clock 1).timeNs ∧
    e.pre.receivedNs ≤ (answers.clock 0).timeNs ∧
    (answers.clock 0).timeNs ≤ event.monotonicTimeNs ∧
    (answers.clock 0).timeNs.toNat - e.pre.receivedNs.toNat ≤ policy.maxTopologyAgeNs.toNat

section Step

variable {e : Step} {policy : SubmissionPolicy} {answers : Answers}

/-- A submission that comes to its admission is decided there and after. -/
lemma firstFailure_submit (S : Snapshot) (c : Client) (answers : Answers) (bytes : Bytes)
    {length : UInt64} {options : Option (Ref SubmitOptions)} {outRequestId : Option (Ref UInt64)}
    (hlength : length ≠ 0) (hout : pointerIsAlignedFor outRequestId 8 = true)
    (hoptions : validateSubmitOptions options = .ok policy) :
    firstFailure (submitArgumentStage (some c) (some bytes) length outRequestId ::
        submitStages S c length options answers)
      = (firstFailure (admissionStages c policy.maxTopologyAgeNs (answers.clock 0))).or
          (firstFailure (routingStage S :: bodyStages S c policy.targetLimit length answers)) := by
  obtain ⟨rfl, -, -, hnone⟩ := validateSubmitOptions_eq_ok hoptions
  have harguments : submitArgumentStage (some c) (some bytes) length outRequestId
      = (true, Status.invalidArgument) := by
    simp [submitArgumentStage, hout, hlength]
  rw [harguments, firstFailure_cons, if_pos rfl, submitStages, List.append_assoc, List.append_assoc,
    firstFailure_append, hnone, Option.none_or, firstFailure_append, List.singleton_append]

/-- A submission that comes to its admission reads the clock. -/
lemma SubmitsUnder.reads (h : SubmitsUnder e policy answers)
    (htop : e.pre.client.data.hasTopology = true) :
    answers.clock 0 ∈ samplesOf e.pre e.input := by
  obtain ⟨hinput, hlength, hout, hoptions⟩ := h
  rw [hinput]
  exact mem_samplesOf rfl
    (le_clientSubmit_clockCalls hout hlength (ensures_submit_one_le hoptions htop))

/-- What an admission whose sample succeeds comes to. -/
lemma firstFailure_admissionStages {c : Client} {maxAge : UInt64} {sample : ClockAnswer}
    (hok : sample.status = Status.ok) :
    firstFailure (admissionStages c maxAge sample)
      = if c.hasTopology then
          if c.topology.receivedMonotonicNs ≤ sample.timeNs then
            if sample.timeNs - c.topology.receivedMonotonicNs ≤ maxAge then none
            else some Status.topologyStale
          else some Status.internalError
        else some Status.topologyUnavailable := by
  simp [admissionStages, World.clockStage, hok]

/-- What a freshness check that rejects has found. -/
lemma FreshnessRejected.tooOld (h : FreshnessRejected e policy answers) :
    e.pre.client.data.hasTopology = true ∧
      e.pre.receivedNs ≤ (answers.clock 0).timeNs ∧
      policy.maxTopologyAgeNs < (answers.clock 0).timeNs - e.pre.receivedNs := by
  obtain ⟨w, hw⟩ := h.rejected
  obtain ⟨hage, hlimit⟩ : policy.maxTopologyAgeNs ≠ 0 ∧ policy.targetLimit ≠ 0 := by
    obtain ⟨-, -, -, hoptions⟩ := h.submits
    obtain ⟨-, hage, hlimit, -⟩ := validateSubmitOptions_eq_ok hoptions
    exact ⟨hage, hlimit⟩
  have hdecides : Decides (evaluateSubmissionPolicy (some e.pre.client.data) (some policy))
      (World.start answers e.pre.ledger) (admissionStages e.pre.client.data
        policy.maxTopologyAgeNs (answers.clock 0)) _ _ :=
    decides_evaluateSubmissionPolicy hage hlimit
  rw [Decides, Ensures, hw] at hdecides
  have hfirst := hdecides.1
  rw [firstFailure_admissionStages h.sampled] at hfirst
  split_ifs at hfirst with htop hreceived hfresh
  · exact ⟨htop, hreceived, UInt64.not_le.mp hfresh⟩
  · exact absurd hfirst (by decide)
  · exact absurd hfirst (by decide)

end Step

/-! ### The receipt time -/

/-- The receipt time is zero or a time that the clock has told. -/
def ReceiptRecorded (h : List Step) (s : State) : Prop :=
  s.receivedNs = 0 ∨ s.receivedNs ∈ clockTimes h

lemma receiptRecorded_step (h : List Step) (s : State) (op : Op) (hs : s.WellFormed)
    (hr : ReceiptRecorded h s) :
    ReceiptRecorded (h ++ [entry step s op]) (step s op).2 := by
  have hcase := (step_spec hs op).client
  rw [ReceiptRecorded, clockTimes_append, List.mem_append]
  cases hi : installedBy op (step s op).1 with
  | none =>
      have hkept : (step s op).2.receivedNs = s.receivedNs :=
        congrArg OwnedTopology.receivedMonotonicNs (hcase.of_not_installed hi).1
      rw [hkept]
      exact hr.imp_right Or.inl
  | some t =>
      obtain ⟨topology, answers, ledger, hop, hinst⟩ := hcase.of_installed hi
      have hsample := mem_samplesOf hop (clockReadings_pos_of_installed hs hi)
      have hreceived : (step s op).2.receivedNs = (answers.clock 0).timeNs := hinst.received
      refine Or.inr (Or.inr ?_)
      rw [clockTimes_cons, clockTimes_nil, List.append_nil, hreceived]
      exact mem_timesOf hsample hinst.clock

lemma receiptRecorded_run (d : Dependencies) (ops : List Op) :
    ReceiptRecorded (history step (fresh d) ops) (run step (fresh d) ops) :=
  run_rule d (Or.inl rfl) receiptRecorded_step ops

section Order

variable {h₁ h₂ : List Step} {e : Step} {t t' : UInt64}

/-- A reading is not earlier than those of the calls before it. -/
lemma OrderedClock.le_of_mem (h : OrderedClock (h₁ ++ e :: h₂)) (ht : t ∈ clockTimes h₁)
    (ht' : t' ∈ timesOf e.pre e.input) : t ≤ t' := by
  rw [OrderedClock, clockTimes_append, clockTimes_cons] at h
  exact (List.pairwise_append.mp h).2.2 t ht t' (List.mem_append_left _ ht')

/-- The readings of one call are ordered. -/
lemma OrderedClock.within (h : OrderedClock (h₁ ++ e :: h₂)) :
    (timesOf e.pre e.input).Pairwise (· ≤ ·) := by
  rw [OrderedClock, clockTimes_append, clockTimes_cons] at h
  exact (List.pairwise_append.mp (List.pairwise_append.mp h).2.1).1

/-- A reading is not earlier than the receipt of the topology. -/
lemma OrderedClock.received_le (h : OrderedClock (h₁ ++ e :: h₂))
    (hr : ReceiptRecorded h₁ e.pre) (ht : t ∈ timesOf e.pre e.input) :
    e.pre.receivedNs ≤ t := by
  rcases hr with hzero | hmem
  · rw [hzero]
    exact UInt64.zero_le
  · exact h.le_of_mem hmem ht

end Order

/-! ### Staleness -/

/-- A run that installs nothing keeps the topology. -/
lemma topology_kept {s : State} (hs : s.WellFormed) (ops : List Op)
    (hnone : installations (history step s ops) = []) :
    (run step s ops).client.data.topology = s.client.data.topology ∧
      (run step s ops).client.data.hasTopology = s.client.data.hasTopology := by
  refine run_rule_from (P := fun h t => installations h = [] →
    t.client.data.topology = s.client.data.topology ∧
      t.client.data.hasTopology = s.client.data.hasTopology) hs (fun _ => ⟨rfl, rfl⟩) ?_ ops hnone
  intro h t op ht ih hempty
  rw [installations_concat] at hempty
  obtain ⟨hbefore, hstep⟩ := List.append_eq_nil_iff.mp hempty
  obtain ⟨htopology, hhas⟩ := ih hbefore
  obtain ⟨htopology', hhas'⟩ := (step_spec ht op).client.of_not_installed
    (Option.toList_eq_nil_iff.mp hstep)
  exact ⟨htopology'.trans htopology, hhas'.trans hhas⟩

/-- An age only grows while the receipt time stays. -/
lemma age_le_of_le {r t t' : UInt64} (hr : r ≤ t) (ht : t ≤ t') : t - r ≤ t' - r := by
  have hage : (t - r).toNat = t.toNat - r.toNat := UInt64.toNat_sub_of_le t r hr
  have hage' : (t' - r).toNat = t'.toNat - r.toNat :=
    UInt64.toNat_sub_of_le t' r (UInt64.le_trans hr ht)
  rw [UInt64.le_iff_toNat_le, hage, hage']
  exact Nat.sub_le_sub_right (UInt64.le_iff_toNat_le.mp ht) _

/-- A submission is rejected as stale when the topology is older than it allows. -/
lemma SubmitsUnder.stale {s : State} {op : Op} {policy : SubmissionPolicy} {answers : Answers}
    (hs : s.WellFormed) (h : SubmitsUnder (entry step s op) policy answers)
    (hok : (answers.clock 0).status = Status.ok) (htop : s.client.data.hasTopology = true)
    (hreceived : s.receivedNs ≤ (answers.clock 0).timeNs)
    (hold : policy.maxTopologyAgeNs < (answers.clock 0).timeNs - s.receivedNs) :
    (step s op).1 = .submitted Status.topologyStale (some requestIdNone) := by
  obtain @⟨bytes, length, options, outRequestId, hinput, hlength, hout, hoptions⟩ := h
  obtain rfl : op = _ := hinput
  obtain ⟨S, hS⟩ := hs.topology.represents
  obtain ⟨status, out, s', hstep, hcase⟩ := submission_cases hs hS .self (some bytes) length options
    outRequestId answers
  rw [State.receivedNs] at hreceived hold
  have hstale : firstFailure (admissionStages s.client.data policy.maxTopologyAgeNs
      (answers.clock 0)) = some Status.topologyStale := by
    rw [firstFailure_admissionStages hok, if_pos htop, if_pos hreceived,
      if_neg (UInt64.not_le.mpr hold)]
  have hfirst := firstFailure_submit S s.client.data answers bytes hlength hout hoptions
  rw [hstale, Option.some_or] at hfirst
  rw [hstep]
  cases hcase with
  | rejected hfail _ _ hclear =>
      obtain rfl := Option.some.inj (hfirst.symm.trans hfail)
      rw [hclear, clearedRequestId, if_neg (by simp [hout])]
  | accepted hnone _ _ _ _ => exact absurd (hfirst.symm.trans hnone) (Option.some_ne_none _)

/-! ### The second reading -/

section Second

variable {s : State} {S : Snapshot} {length : UInt64}
  {options : Option (Ref SubmitOptions)} {outRequestId : Option (Ref UInt64)} {answers : Answers}
  {policy : SubmissionPolicy} {limit : ℕ} {c : Client}

/-- The stages of a submission between its admission and its second reading of the clock. -/
def stagesToCapacity (S : Snapshot) (c : Client) (limit : ℕ) (length : UInt64)
    (answers : Answers) : List (Bool × Status) :=
  [routingStage S] ++ (allocationStages answers (S.resolution S.currentSlot).length
    (S.plan S.currentSlot limit).length length ++ [identifierStage c]) ++
    [(eventQueueHasCapacity (some c), Status.resourceExhausted)]

lemma routing_bodyStages :
    routingStage S :: bodyStages S c limit length answers
      = stagesToCapacity S c limit length answers ++ [World.clockStage (answers.clock 1),
        (decide (c.topology.receivedMonotonicNs ≤ (answers.clock 1).timeNs),
          Status.internalError)] := by
  simp [stagesToCapacity, bodyStages, commitStages]

/-- None of them fails with `INTERNAL_ERROR`. -/
lemma stagesToCapacity_ne_internalError :
    firstFailure (stagesToCapacity S c limit length answers) ≠ some Status.internalError := by
  intro h
  have hmem := mem_of_firstFailure h
  simp [stagesToCapacity, routingStage, allocationStages, allocationStage, identifierStage] at hmem

/-- A submission that passes them reads the clock twice. -/
lemma two_le_clockReadings (bytes : Bytes) (hs : s.WellFormed) (hS : s.client.data.topology.Represents S)
    (hlength : length ≠ 0) (hout : pointerIsAlignedFor outRequestId 8 = true)
    (hoptions : validateSubmitOptions options = .ok policy)
    (hadmitted : firstFailure (admissionStages s.client.data policy.maxTopologyAgeNs
      (answers.clock 0)) = none)
    (hpassed : firstFailure (stagesToCapacity S s.client.data policy.targetLimit length answers)
      = none) :
    2 ≤ clockReadings s (.submit .self (some bytes) length options outRequestId answers) := by
  obtain ⟨rfl, -, -, hnone⟩ := validateSubmitOptions_eq_ok hoptions
  rw [stagesToCapacity, firstFailure_append, firstFailure_append, Option.or_eq_none_iff,
    Option.or_eq_none_iff] at hpassed
  obtain ⟨⟨hrouting, hprepare⟩, hcapacity⟩ := hpassed
  have hroom : eventQueueHasCapacity (some s.client.data) = true := by
    by_contra hfull
    rw [firstFailure_cons, if_neg hfull] at hcapacity
    exact Option.some_ne_none _ hcapacity
  refine le_clientSubmit_clockCalls hout hlength
    (ensures_submit_two_le hS hlength ?_ hprepare hroom hs.owns)
  rw [firstFailure_append, hnone, Option.none_or, firstFailure_append, hadmitted, hrouting]
  rfl

end Second

/-! ### What an outcome says about the clock -/

section Outcome

variable {s : State} {op : Op}

/-- Only a submission returns as one. -/
lemma exists_submit_of_submitted {status : Status} {out : Option UInt64}
    (h : (step s op).1 = .submitted status out) :
    ∃ handle transactionBytes length options outRequestId answers,
      op = .submit handle transactionBytes length options outRequestId answers := by
  cases op with
  | installTopology handle topology answers => exact absurd h (by simp [step])
  | refreshTopology handle provider acquired answers => exact absurd h (by simp [step])
  | submit handle transactionBytes length options outRequestId answers =>
      exact ⟨handle, transactionBytes, length, options, outRequestId, answers, rfl⟩
  | pollEvents handle events eventCapacity eventStride outEventCount =>
      exact absurd h (by simp [step])

lemma submitted_of_acceptedBy {o : Outcome} {id : UInt64} (h : acceptedBy o = some id) :
    ∃ out, o = .submitted Status.ok out := by
  cases o with
  | submitted status out =>
      obtain ⟨rfl, -⟩ := Option.ite_none_right_eq_some.mp h
      exact ⟨out, rfl⟩
  | installed status => exact absurd h (by simp [acceptedBy])
  | refreshed status calls => exact absurd h (by simp [acceptedBy])
  | polled status events outEventCount => exact absurd h (by simp [acceptedBy])

/-- Options that hold in all their stages are accepted. -/
lemma exists_validateSubmitOptions {options : Option (Ref SubmitOptions)}
    (h : firstFailure (optionStages options) = none) :
    ∃ policy, validateSubmitOptions options = .ok policy := by
  cases hv : validateSubmitOptions options with
  | ok policy => exact ⟨policy, rfl⟩
  | error e =>
      have hd := decides_validateSubmitOptions options
        ⟨Client.zero, World.start ⟨fun _ => none, fun _ => ⟨0, 0⟩⟩ Ledger.empty⟩
      rw [hv] at hd
      exact absurd (hd.1.symm.trans h) (Option.some_ne_none e)

/-- A submission that does not fail in its arguments or options comes to its admission. -/
lemma exists_submitsUnder {S : Snapshot} {c : Client} {handle : Handle}
    {transactionBytes : Option Bytes} {length : UInt64} {options : Option (Ref SubmitOptions)}
    {outRequestId : Option (Ref UInt64)} {answers : Answers} {r : Option Status}
    (h : firstFailure (submitArgumentStage (s.behind handle) transactionBytes length
      outRequestId :: submitStages S c length options answers) = r)
    (hinvalid : r ≠ some Status.invalidArgument) (hunsupported : r ≠ some Status.unsupported) :
    ∃ bytes policy, handle = .self ∧ transactionBytes = some bytes ∧ length ≠ 0 ∧
      pointerIsAlignedFor outRequestId 8 = true ∧ validateSubmitOptions options = .ok policy := by
  have harguments : pointerIsAlignedFor outRequestId 8 = true ∧ (s.behind handle).isSome = true ∧
      transactionBytes.isSome = true ∧ length ≠ 0 := by
    by_contra hbad
    refine hinvalid (h.symm.trans ?_)
    rw [submitArgumentStage, firstFailure_cons, if_neg]
    simpa [and_assoc] using hbad
  obtain ⟨hout, hself, hbytes, hlength⟩ := harguments
  obtain ⟨bytes, rfl⟩ := Option.isSome_iff_exists.mp hbytes
  cases handle with
  | null => simp [State.behind] at hself
  | self =>
      rw [submitArgumentStage, firstFailure_cons, if_pos (by simp [hout, hself, hlength]),
        submitStages, List.append_assoc, firstFailure_append] at h
      have hnone : firstFailure (optionStages options) = none := by
        cases hfirst : firstFailure (optionStages options) with
        | none => rfl
        | some e =>
            rw [hfirst, Option.some_or] at h
            subst h
            have hmem := mem_of_firstFailure hfirst
            simp only [ne_eq, Option.some.injEq] at hinvalid hunsupported
            simp [optionStages, hinvalid, hunsupported] at hmem
      obtain ⟨policy, hpolicy⟩ := exists_validateSubmitOptions hnone
      exact ⟨bytes, policy, rfl, rfl, hlength, hout, hpolicy⟩

/-- An admission that fails with `INTERNAL_ERROR` passes on what the clock has returned, unless the
clock runs behind the receipt time. -/
lemma SubmitsUnder.internalError_of_admission {policy : SubmissionPolicy} {answers : Answers}
    (h : SubmitsUnder (entry step s op) policy answers)
    (hreceived : ∀ t ∈ timesOf s op, s.receivedNs ≤ t)
    (hfail : firstFailure (admissionStages s.client.data policy.maxTopologyAgeNs
      (answers.clock 0)) = some Status.internalError) :
    ∃ sample ∈ samplesOf s op, sample.status = Status.internalError := by
  have htop : s.client.data.hasTopology = true := by
    by_contra hno
    rw [admissionStages, firstFailure_cons, if_neg hno] at hfail
    exact absurd hfail (by decide)
  have hread : answers.clock 0 ∈ samplesOf s op := h.reads htop
  by_cases hok : (answers.clock 0).status = Status.ok
  · have hle : s.client.data.topology.receivedMonotonicNs ≤ (answers.clock 0).timeNs :=
      hreceived _ (mem_timesOf hread hok)
    rw [firstFailure_admissionStages hok, if_pos htop, if_pos hle] at hfail
    split_ifs at hfail
    exact absurd hfail (by decide)
  · refine ⟨_, hread, ?_⟩
    simpa [admissionStages, World.clockStage, htop, hok] using hfail

/-- So does the rest of a submission that was admitted. -/
lemma internalError_of_admitted {S : Snapshot} {bytes : Bytes} {length : UInt64}
    {options : Option (Ref SubmitOptions)} {outRequestId : Option (Ref UInt64)} {answers : Answers}
    {policy : SubmissionPolicy} (hs : s.WellFormed) (hS : s.client.data.topology.Represents S)
    (hop : op = .submit .self (some bytes) length options outRequestId answers)
    (hlength : length ≠ 0) (hout : pointerIsAlignedFor outRequestId 8 = true)
    (hoptions : validateSubmitOptions options = .ok policy)
    (hreceived : ∀ t ∈ timesOf s op, s.receivedNs ≤ t)
    (hadmitted : firstFailure (admissionStages s.client.data policy.maxTopologyAgeNs
      (answers.clock 0)) = none)
    (hfail : firstFailure (routingStage S :: bodyStages S s.client.data policy.targetLimit length
      answers) = some Status.internalError) :
    ∃ sample ∈ samplesOf s op, sample.status = Status.internalError := by
  subst hop
  rw [routing_bodyStages, firstFailure_append] at hfail
  have hpassed : firstFailure (stagesToCapacity S s.client.data policy.targetLimit length answers)
      = none := by
    cases hfirst : firstFailure (stagesToCapacity S s.client.data policy.targetLimit length
        answers) with
    | none => rfl
    | some e =>
        rw [hfirst, Option.some_or] at hfail
        exact absurd (hfirst.trans hfail) stagesToCapacity_ne_internalError
  have hread : answers.clock 1 ∈ samplesOf s (.submit .self (some bytes) length options outRequestId
      answers) :=
    mem_samplesOf rfl (two_le_clockReadings bytes hs hS hlength hout hoptions hadmitted hpassed)
  rw [hpassed, Option.none_or] at hfail
  by_cases hok : (answers.clock 1).status = Status.ok
  · have hle : s.client.data.topology.receivedMonotonicNs ≤ (answers.clock 1).timeNs :=
      hreceived _ (mem_timesOf hread hok)
    simp [World.clockStage, hok, hle] at hfail
  · refine ⟨_, hread, ?_⟩
    simpa [World.clockStage, hok] using hfail

/-- Under a clock that does not run behind the receipt time, `INTERNAL_ERROR` is what the clock
itself has returned. -/
lemma internalError_sampled (hs : s.WellFormed) {out : Option UInt64}
    (ho : (step s op).1 = .submitted Status.internalError out)
    (hreceived : ∀ t ∈ timesOf s op, s.receivedNs ≤ t) :
    ∃ sample ∈ samplesOf s op, sample.status = Status.internalError := by
  obtain ⟨S, hS⟩ := hs.topology.represents
  obtain ⟨handle, transactionBytes, length, options, outRequestId, answers, rfl⟩ :=
    exists_submit_of_submitted ho
  obtain ⟨status, out', s', hstep, hcase⟩ := submission_cases hs hS handle transactionBytes
    length options outRequestId answers
  rw [hstep] at ho
  obtain ⟨rfl, rfl⟩ := Outcome.submitted.inj ho
  cases hcase with
  | accepted _ hok _ _ _ => exact absurd hok Status.internalError_ne_ok
  | rejected hfail _ _ _ =>
      obtain ⟨bytes, policy, rfl, rfl, hlength, hout, hoptions⟩ :=
        exists_submitsUnder hfail (by decide) (by decide)
      have hsubmits : SubmitsUnder (entry step s (.submit .self (some bytes) length options
          outRequestId answers)) policy answers := .intro rfl hlength hout hoptions
      have horder := (firstFailure_submit S s.client.data answers bytes hlength hout
        hoptions).symm.trans hfail
      cases hadmission : firstFailure (admissionStages s.client.data policy.maxTopologyAgeNs
          (answers.clock 0)) with
      | none =>
          rw [hadmission, Option.none_or] at horder
          exact internalError_of_admitted hs hS rfl hlength hout hoptions hreceived hadmission
            horder
      | some e =>
          rw [hadmission, Option.some_or] at horder
          exact hsubmits.internalError_of_admission hreceived (hadmission.trans horder)

/-- What the clock has told a submission that passed all its stages, if it told it in order. -/
lemma times_of_passed {S : Snapshot} {bytes : Bytes} {length : UInt64}
    {options : Option (Ref SubmitOptions)} {outRequestId : Option (Ref UInt64)} {answers : Answers}
    {policy : SubmissionPolicy} (hs : s.WellFormed) (hS : s.client.data.topology.Represents S)
    (hlength : length ≠ 0) (hout : pointerIsAlignedFor outRequestId 8 = true)
    (hoptions : validateSubmitOptions options = .ok policy)
    (horder : (timesOf s (.submit .self (some bytes) length options outRequestId
      answers)).Pairwise (· ≤ ·))
    (hnone : firstFailure (submitArgumentStage (some s.client.data) (some bytes) length
      outRequestId :: submitStages S s.client.data length options answers) = none) :
    (answers.clock 0).status = Status.ok ∧ (answers.clock 1).status = Status.ok ∧
      s.receivedNs ≤ (answers.clock 0).timeNs ∧
      (answers.clock 0).timeNs ≤ (answers.clock 1).timeNs ∧
      (answers.clock 0).timeNs.toNat - s.receivedNs.toNat ≤ policy.maxTopologyAgeNs.toNat := by
  rw [firstFailure_submit S s.client.data answers bytes hlength hout hoptions,
    Option.or_eq_none_iff, routing_bodyStages, firstFailure_append, Option.or_eq_none_iff] at hnone
  obtain ⟨hadmitted, hpassed, hlast⟩ := hnone
  have htwo := two_le_clockReadings bytes hs hS hlength hout hoptions hadmitted hpassed
  obtain ⟨-, hok₀, hle, hage⟩ : s.client.data.hasTopology = true ∧
      (answers.clock 0).status = Status.ok ∧ s.receivedNs ≤ (answers.clock 0).timeNs ∧
      (answers.clock 0).timeNs - s.receivedNs ≤ policy.maxTopologyAgeNs := by
    have hall := firstFailure_eq_none.mp hadmitted
    simpa [admissionStages, World.clockStage, State.receivedNs] using hall
  have hok₁ : (answers.clock 1).status = Status.ok := by
    have hclock := firstFailure_eq_none.mp hlast _ (List.mem_cons_self ..)
    simpa [World.clockStage] using hclock
  have hsub : ((answers.clock 0).timeNs - s.receivedNs).toNat = _ :=
    UInt64.toNat_sub_of_le _ _ hle
  exact ⟨hok₀, hok₁, hle, le_of_timesOf rfl Nat.zero_lt_one htwo hok₀ hok₁ horder,
    hsub ▸ UInt64.le_iff_toNat_le.mp hage⟩

/-- **An acceptance in time**: when the times a submission is told are ordered, the event it appends
is stamped in time. -/
lemma acceptedInTime (hs : s.WellFormed) {id : UInt64} (hid : acceptedBy (step s op).1 = some id)
    (horder : (timesOf s op).Pairwise (· ≤ ·)) : ∃ event, AcceptedInTime (entry step s op) event := by
  obtain ⟨S, hS⟩ := hs.topology.represents
  obtain ⟨out, hsubmitted⟩ := submitted_of_acceptedBy hid
  obtain ⟨handle, transactionBytes, length, options, outRequestId, answers, rfl⟩ :=
    exists_submit_of_submitted hsubmitted
  obtain ⟨status, out, s', hstep, hcase⟩ := submission_cases hs hS handle transactionBytes
    length options outRequestId answers
  cases hcase with
  | rejected _ hne _ _ => exact absurd hid (by simp [hstep, acceptedBy, hne])
  | @accepted _ id c' hnone hok hclient hid' haccepted =>
      obtain ⟨bytes, policy, rfl, rfl, hlength, hout, hoptions⟩ :=
        exists_submitsUnder hnone (by simp) (by simp)
      obtain ⟨hok₀, hok₁, hle, hstamp, hage⟩ :=
        times_of_passed hs hS hlength hout hoptions horder hnone
      refine ⟨acceptedEvent id (answers.clock 1).timeNs, ?_, ?_, policy, answers,
        .intro rfl hlength hout hoptions, hok₀, hok₁, rfl, hle, hstamp, hage⟩
      · rw [entry_output, hstep, hid', hok]
        rfl
      · obtain ⟨r, rfl, -⟩ := haccepted.client
        have hpost : (step s _).2.pending = _ := congrArg (fun s => s.2.pending) hstep
        rw [entry_post, hpost, State.pending, hclient, haccepted.id_eq]
        exact EventQueue.push_pending _ (eventQueueHasCapacity_iff.mp haccepted.room)

end Outcome

/-! ### Runs -/

/-- A step that a run of a created client takes after the record `h`. -/
structure TakenAfter (h : List Step) (e : Step) : Prop where
  wellFormed : e.pre.WellFormed
  eq_entry : e = entry step e.pre e.input
  recorded : ReceiptRecorded h e.pre

lemma takenAfter_of_history {d : Dependencies} {ops : List Op} {h₁ h₂ : List Step} {e : Step}
    (h : history step (fresh d) ops = h₁ ++ e :: h₂) : TakenAfter h₁ e := by
  obtain ⟨js, i, ks, rfl, rfl, -⟩ := history_eq_append_cons step h
  exact ⟨wellFormed_run d js, rfl, receiptRecorded_run d js⟩

/-- The topology between two steps with no installation from the first to the second. -/
lemma topology_between {s : State} {ops : List Op} {h₁ h₂ h₃ : List Step} {e e' : Step}
    (hs : s.WellFormed) (h : history step s ops = h₁ ++ e :: (h₂ ++ e' :: h₃))
    (hfirst : installedBy e.input e.output = none) (hnone : installations h₂ = []) :
    e'.pre.client.data.topology = e.pre.client.data.topology ∧
      e'.pre.client.data.hasTopology = e.pre.client.data.hasTopology := by
  obtain ⟨js, i, ks, -, rfl, htail⟩ := history_eq_append_cons step h
  obtain ⟨js', i', ks', rfl, rfl, -⟩ := history_eq_append_cons step htail.symm
  have hwf : (run step s js).WellFormed := run_invariant wellFormed_step hs js
  obtain ⟨htopology, hhas⟩ := (step_spec hwf i).client.of_not_installed hfirst
  obtain ⟨htopology', hhas'⟩ := topology_kept (wellFormed_step _ i hwf) js' hnone
  exact ⟨htopology'.trans htopology, hhas'.trans hhas⟩

/-- **Staleness lasts**: what was too old for one submission is too old for the next that allows no
more, as long as nothing is installed. -/
lemma stale_until_installed {d : Dependencies} {ops : List Op} {h₁ h₂ h₃ : List Step} {e e' : Step}
    {policy policy' : SubmissionPolicy} {answers answers' : Answers}
    (hclock : OrderedClock (history step (fresh d) ops))
    (hcut : history step (fresh d) ops = h₁ ++ e :: (h₂ ++ e' :: h₃))
    (hrejected : FreshnessRejected e policy answers) (hnone : installations h₂ = [])
    (hsubmits : SubmitsUnder e' policy' answers')
    (hage : policy'.maxTopologyAgeNs ≤ policy.maxTopologyAgeNs)
    (hok : (answers'.clock 0).status = Status.ok) :
    e'.output = .submitted Status.topologyStale (some requestIdNone) := by
  have hcut' : history step (fresh d) ops = (h₁ ++ e :: h₂) ++ e' :: h₃ := by
    rw [hcut, List.append_assoc, List.cons_append]
  have htaken := takenAfter_of_history hcut'
  have hfirst : installedBy e.input e.output = none := by
    obtain ⟨hinput, -, -, -⟩ := hrejected.submits
    rw [hinput]
    rfl
  obtain ⟨htopology, hhas⟩ := topology_between (wellFormed_fresh d) hcut hfirst hnone
  have hreceived : e'.pre.receivedNs = e.pre.receivedNs :=
    congrArg OwnedTopology.receivedMonotonicNs htopology
  obtain ⟨htop, hle, hold⟩ := hrejected.tooOld
  have htop' : e'.pre.client.data.hasTopology = true := hhas.trans htop
  have htime := mem_timesOf (hrejected.submits.reads htop) hrejected.sampled
  have htime' := mem_timesOf (hsubmits.reads htop') hok
  have hmem : (answers.clock 0).timeNs ∈ clockTimes (h₁ ++ e :: h₂) := by
    rw [clockTimes_append, clockTimes_cons]
    exact List.mem_append_right _ (List.mem_append_left _ htime)
  rw [hcut'] at hclock
  have horder : (answers.clock 0).timeNs ≤ (answers'.clock 0).timeNs := hclock.le_of_mem hmem htime'
  rw [htaken.eq_entry] at hsubmits ⊢
  refine hsubmits.stale htaken.wellFormed hok htop' ?_ ?_
  · rw [hreceived]
    exact UInt64.le_trans hle horder
  · rw [hreceived]
    refine UInt64.lt_iff_toNat_lt.mpr ?_
    calc policy'.maxTopologyAgeNs.toNat
        ≤ policy.maxTopologyAgeNs.toNat := UInt64.le_iff_toNat_le.mp hage
      _ < ((answers.clock 0).timeNs - e.pre.receivedNs).toNat := UInt64.lt_iff_toNat_lt.mp hold
      _ ≤ ((answers'.clock 0).timeNs - e.pre.receivedNs).toNat :=
        UInt64.le_iff_toNat_le.mp (age_le_of_le hle horder)

lemma StepCase.not_delivered_of_accepted {c c' : Client} {op : Op} {o : Outcome} {id : UInt64}
    (h : StepCase c op o c') (ha : acceptedBy o = some id) : deliveredBy op o = [] := by
  cases h with
  | kept _ _ _ hd => exact hd
  | installed _ _ _ _ hd => exact hd
  | accepted _ _ _ _ _ hd => exact hd
  | drained _ _ _ _ hnone => exact absurd (hnone.symm.trans ha) (Option.some_ne_none id).symm

/-- Every event that is pending or has been delivered was appended by the submission that returned
its identifier. -/
lemma events_appended (d : Dependencies) (ops : List Op) :
    ∀ event ∈ deliveredEvents (history step (fresh d) ops) ++ (run step (fresh d) ops).pending,
      ∃ e ∈ history step (fresh d) ops, acceptedBy e.output = some event.requestId ∧
        e.post.pending = e.pre.pending ++ [event] := by
  refine run_rule (P := fun h s => ∀ event ∈ deliveredEvents h ++ s.pending, ∃ e ∈ h,
    acceptedBy e.output = some event.requestId ∧ e.post.pending = e.pre.pending ++ [event]) d
    (by simp [fresh, State.pending, Dependencies.client, Client.zero]) ?_ ops
  intro h s op hs ih event hevent
  have hcase := (step_spec hs op).client
  obtain ⟨t, hevents⟩ := hcase.events
  have hall : deliveredEvents (h ++ [entry step s op]) ++ (step s op).2.pending = _ :=
    events_concat hevents
  rw [hall, List.mem_append] at hevent
  rcases hevent with hold | hnew
  · obtain ⟨e, he, haccepted⟩ := ih event hold
    exact ⟨e, List.mem_append_left _ he, haccepted⟩
  · cases ha : acceptedBy (step s op).1 with
    | none => simp [ha] at hnew
    | some id =>
        obtain rfl : event = acceptedEvent id t := by simpa [ha] using hnew
        rw [hcase.not_delivered_of_accepted ha, ha] at hevents
        exact ⟨entry step s op, by simp, ha, hevents⟩

/-- **Staleness lasts until the next installation.** On every run of a created client whose
successful clock readings do not decrease:

* a submission whose freshness check rejected the topology is followed, until the next successful
  installation or refresh, only by rejections as stale among the submissions with valid arguments
  that allow no greater age and whose admission sample succeeds;
* no successful reading a call takes is earlier than the receipt of the topology, so that the age
  computed from it is the difference of the times, and a submission returns `INTERNAL_ERROR` only
  when the clock did;
* every submission that returns `OK` has been admitted and stamped in time, and every event that is
  pending or has been delivered is that of such a submission. -/
theorem staleness_lasts (d : Dependencies) (ops : List Op)
    (hclock : OrderedClock (history step (fresh d) ops)) :
    let h := history step (fresh d) ops
    (∀ h₁ e h₂ e' h₃ policy answers policy' answers', h = h₁ ++ e :: (h₂ ++ e' :: h₃) →
      FreshnessRejected e policy answers → installations h₂ = [] →
      SubmitsUnder e' policy' answers' → policy'.maxTopologyAgeNs ≤ policy.maxTopologyAgeNs →
      (answers'.clock 0).status = Status.ok →
      e'.output = .submitted Status.topologyStale (some requestIdNone)) ∧
    (∀ e ∈ h,
      (∀ sample ∈ samplesOf e.pre e.input, sample.status = Status.ok →
        e.pre.receivedNs ≤ sample.timeNs ∧
          (sample.timeNs - e.pre.receivedNs).toNat
            = sample.timeNs.toNat - e.pre.receivedNs.toNat) ∧
      ∀ out, e.output = .submitted Status.internalError out →
        ∃ sample ∈ samplesOf e.pre e.input, sample.status = Status.internalError) ∧
    (∀ e ∈ h, ∀ id, acceptedBy e.output = some id → ∃ event, AcceptedInTime e event) ∧
    ∀ event ∈ deliveredEvents h ++ (run step (fresh d) ops).pending,
      ∃ e ∈ h, AcceptedInTime e event := by
  intro h
  have hstep : ∀ e ∈ h, e.pre.WellFormed ∧ e = entry step e.pre e.input ∧
      (timesOf e.pre e.input).Pairwise (· ≤ ·) ∧
      ∀ t ∈ timesOf e.pre e.input, e.pre.receivedNs ≤ t := by
    intro e he
    obtain ⟨h₁, h₂, hcut⟩ := List.append_of_mem he
    have htaken := takenAfter_of_history hcut
    have hordered : OrderedClock (h₁ ++ e :: h₂) := hcut ▸ hclock
    exact ⟨htaken.wellFormed, htaken.eq_entry, hordered.within,
      fun t ht => hordered.received_le htaken.recorded ht⟩
  refine ⟨?stale, ?behind, ?accepted, ?events⟩
  case stale =>
    intro h₁ e h₂ e' h₃ policy answers policy' answers' hcut hrejected hnone hsubmits hage hok
    exact stale_until_installed hclock hcut hrejected hnone hsubmits hage hok
  case behind =>
    intro e he
    obtain ⟨hwf, heq, -, hreceived⟩ := hstep e he
    refine ⟨fun sample hsample hok => ?_, fun out hout => ?_⟩
    · have hle := hreceived _ (mem_timesOf hsample hok)
      exact ⟨hle, UInt64.toNat_sub_of_le _ _ hle⟩
    · rw [heq] at hout
      exact internalError_sampled hwf hout hreceived
  case accepted =>
    intro e he id hid
    obtain ⟨hwf, heq, horder, -⟩ := hstep e he
    rw [heq] at hid ⊢
    exact acceptedInTime hwf hid horder
  case events =>
    intro event hevent
    obtain ⟨e, he, hid, happended⟩ := events_appended d ops event hevent
    obtain ⟨hwf, heq, horder, -⟩ := hstep e he
    obtain ⟨event', hinTime⟩ : ∃ event', AcceptedInTime e event' := by
      rw [heq] at hid ⊢
      exact acceptedInTime hwf hid horder
    have hsame : [event] = [event'] :=
      List.append_cancel_left (happended.symm.trans hinTime.appended)
    obtain rfl := List.singleton_inj.mp hsame
    exact ⟨e, he, hinTime⟩

/-- The submission of `sampleSubmit` with the clock at `t`. -/
def sampleSubmitAt (t : UInt64) : Op :=
  .submit .self (some fun _ => 7) 3 (some (sampleRef ⟨24, 0, 1000, 4, 0⟩)) (some (sampleRef 0))
    { sampleAnswers with clock := fun _ => ⟨Status.ok, t⟩ }

theorem staleness_lasts_sample :
    (step (run step (fresh sampleDependencies) [sampleInstall, sampleSubmitAt 2000])
      (sampleSubmitAt 3000)).1 = .submitted Status.topologyStale (some requestIdNone) :=
  (staleness_lasts sampleDependencies [sampleInstall, sampleSubmitAt 2000, sampleSubmitAt 3000]
    (by unfold OrderedClock; decide)).1
    [entry step (fresh sampleDependencies) sampleInstall]
    (entry step (run step (fresh sampleDependencies) [sampleInstall]) (sampleSubmitAt 2000)) []
    (entry step (run step (fresh sampleDependencies) [sampleInstall, sampleSubmitAt 2000])
      (sampleSubmitAt 3000)) []
    ⟨1000, 4⟩ { sampleAnswers with clock := fun _ => ⟨Status.ok, 2000⟩ }
    ⟨1000, 4⟩ { sampleAnswers with clock := fun _ => ⟨Status.ok, 3000⟩ } rfl
    ⟨.intro rfl (by decide) rfl rfl, rfl, _, rfl⟩ rfl (.intro rfl (by decide) rfl rfl)
    (by decide) rfl

end SolanaTpuClient
