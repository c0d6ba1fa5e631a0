import SolanaTpuClient.Spec.Service
import SolanaTpuClient.Properties.Identifiers
import SolanaTpuClient.Properties.Polling

/-!
The client refines the service.

A call is a command to the service: its arguments say what is asked for or why they are refused,
and what the allocator and the clock answer is what the command finds (`commandOf`). What a call
returns and stores is the reply (`replyOf`). `Client.Keeps` says how the memory of the client holds
a state of the service; every call keeps it and replies as the service does (`implements_step`), so
every run of a client is, call for call, the run of the service on its commands
(`client_refines_service`).
-/

namespace SolanaTpuClient

open ByteMemory Procedure Transition

/-! ### Calls as commands -/

/-- What a reading of the clock gives. -/
def ClockAnswer.reading (a : ClockAnswer) : Except Status UInt64 :=
  if a.status = Status.ok then .ok a.timeNs else .error a.status

/-- What is asked for through a handle. -/
def Handle.pass {α : Type} : Handle → Except Status α → Except Status α
  | .null, _ => .error Status.invalidArgument
  | .self, x => x

/-- The snapshot a topology argument offers. -/
def offered : Option (Ref CallerTopology) → Except Status Snapshot
  | none => .error Status.invalidArgument
  | some r =>
      match h : topologyValidate (some r) with
      | .error e => .error e
      | .ok () => .ok (r.val.snapshot (checked_of_validate h))

/-- The snapshot a refresh acquires. -/
def acquired (provider : Option (Ref DiscoveryProvider)) (answer : AcquireAnswer) :
    Except Status Snapshot :=
  match firstFailure (acquireStages (some Client.zero) provider answer) with
  | some e => .error e
  | none => offered answer.topology

/-- What a submission asks for. -/
def requested (transactionBytes : Option Bytes) (transactionLength : UInt64)
    (options : Option (Ref SubmitOptions)) (outRequestId : Option (Ref UInt64)) :
    Except Status Submission :=
  match firstFailure (submitArgumentStage (some Client.zero) transactionBytes transactionLength
      outRequestId :: optionStages options) with
  | some e => .error e
  | none => .ok ⟨slice (transactionBytes.getD fun _ => 0) 0 transactionLength.toNat,
      (policyOf options).maxTopologyAgeNs, (policyOf options).targetLimit⟩

/-- How many events a poll has room for. -/
def capacityOf (events : Option (Ref Bytes)) (eventCapacity : UInt64) (eventStride : UInt32)
    (outEventCount : Option (Ref UInt64)) : Except Status ℕ :=
  if pointerIsAlignedFor outEventCount 8 = false then .error Status.invalidArgument
  else if eventCapacity = 0 then .ok 0
  else if pollDestinationIsValid events eventCapacity eventStride = false then
    .error Status.invalidArgument
  else .ok eventCapacity.toNat

/-- The allocator grants the next `n` allocations. -/
def Answers.grants (answers : Answers) (n : ℕ) : Bool :=
  (List.range n).all fun k => (answers.calloc k).isSome

/-- The command a call is. -/
def commandOf : Op → Command
  | .installTopology handle topology answers =>
      .install (handle.pass (offered topology)) answers.grants (answers.clock 0).reading
  | .refreshTopology handle provider answer answers =>
      .install (handle.pass (acquired provider answer)) answers.grants (answers.clock 0).reading
  | .submit handle transactionBytes transactionLength options outRequestId answers =>
      .submit (handle.pass (requested transactionBytes transactionLength options outRequestId))
        (fun candidates targets =>
          (firstFailure (allocationStages answers candidates targets transactionLength)).isNone)
        (answers.clock 0).reading (answers.clock 1).reading
  | .pollEvents handle events eventCapacity eventStride outEventCount =>
      .poll (handle.pass (capacityOf events eventCapacity eventStride outEventCount))

/-- The reply a call returns and stores. -/
def replyOf (op : Op) (o : Outcome) : Reply :=
  match o with
  | .installed status => .installed status
  | .refreshed status _ => .installed status
  | .submitted status outRequestId =>
      .submitted status (if status = Status.ok then outRequestId else none)
  | .polled status _ _ => .polled status (deliveredBy op o)

/-! ### The memory of a client holds a state of the service -/

/-- The topology of a client is the one in use. -/
inductive Client.InUse (c : Client) : Option Installation → Prop where
  | absent : c.hasTopology = false → c.topology = OwnedTopology.zero → c.InUse none
  | installed {i : Installation} : c.hasTopology = true → c.topology.Represents i.snapshot →
      c.topology.receivedMonotonicNs = i.receivedNs → c.InUse (some i)

/-- The record of a request holds the acceptance `a` with the index `k`. -/
structure OwnedRequest.Keeps (r : OwnedRequest) (k : ℕ) (a : Acceptance) : Prop where
  requestId : r.requestId = UInt64.ofNat (k + 1)
  topologyGeneration : r.topologyGeneration = a.topologyGeneration
  routingSlot : r.routingSlot = a.routingSlot
  transactionBytes : Block.dataOf r.transactionBytes = some a.transaction
  transactionLength : r.transactionLength.toNat = a.transaction.length
  targets : Block.dataOf r.targets = some a.targets
  targetCount : r.targetCount = a.targets.length
  state : r.state = requestStateAccepted
  nextEventSequence : r.nextEventSequence = 2

/-- The memory of a client holds the service `v`. -/
structure Client.Keeps (c : Client) (v : Service) : Prop where
  topology : c.InUse v.installed
  requests : List.Forall₂ (fun r p => OwnedRequest.Keeps r.data p.2 p.1) c.requestHead.reverse
    v.log.zipIdx
  next : c.nextRequestId = UInt64.ofNat (v.log.length + 1)
  pending : c.eventQueue.pending = v.waiting

/-- A client holds the service `v`, and the blocks of the ledger are its own and those of `M`. -/
structure Implements (M : Multiset ℕ) (s : State) (v : Service) : Prop where
  allocator : allocatorIsValid (some s.client.data.allocator) = true
  owns : s.ledger.Owns (s.client.data.blocks + M)
  client : s.client.data.Keeps v

variable {c c' : Client} {v : Service} {M : Multiset ℕ} {S : Snapshot} {answers : Answers}

/-- The topology of a client represents a snapshot, installed or not. -/
lemma Client.InUse.represents {installed : Option Installation} (h : c.InUse installed) :
    ∃ S, c.topology.Represents S ∧ ∀ i ∈ installed, i.snapshot = S := by
  cases h with
  | absent _ hzero =>
      rw [hzero]
      exact ⟨Snapshot.empty, ⟨rfl, rfl, rfl, rfl, rfl, rfl⟩, by simp⟩
  | @installed i _ hrep _ => exact ⟨i.snapshot, hrep, by simp⟩

/-! ### Installations -/

lemma arraysOf_map_range {α : Type} (f : ℕ → α) (n : UInt32) :
    arraysOf ((List.range n.toNat).map f) = copiesNeeded n := by
  have hzero : n.toNat = 0 ↔ n = 0 := UInt32.toNat_inj (b := 0)
  simp [arraysOf, copiesNeeded, List.isEmpty_iff, hzero]

/-- The copies of an accepted topology are the nonempty arrays of its snapshot. -/
lemma arrayCount_snapshot {t : CallerTopology} (h : t.Checked) :
    (t.snapshot h).arrayCount = topologyCopies t.view := by
  simp only [Snapshot.arrayCount, CallerTopology.snapshot, arraysOf_map_range, topologyCopies]

lemma Client.InUse.accepts_iff (h : c.InUse v.installed) (generation : UInt64) :
    c.AcceptsGeneration generation ↔ v.Accepts generation := by
  rw [Client.AcceptsGeneration, Service.Accepts]
  generalize v.installed = installed at h
  cases h with
  | absent hno _ => simp [hno]
  | installed hhas hrep _ => simp [hhas, hrep.generation]

lemma grants_iff {r : Ref CallerTopology} {ledger : Ledger} :
    answers.grants (topologyCopies r.val.view) = true
      ↔ ¬ (World.start answers ledger).Refuses (topologyCopies r.val.view) :=
  copiesGranted_iff

lemma offered_of_error {topology : Option (Ref CallerTopology)} {e : Status}
    (h : topologyValidate topology = .error e) : offered topology = .error e := by
  cases topology with
  | none =>
      obtain rfl := Except.error.inj h
      rfl
  | some r =>
      rw [offered]
      split
      · next e' h' => rw [h'] at h; exact congrArg _ (Except.error.inj h)
      · next h' => rw [h'] at h; cases h

lemma offered_of_ok {r : Ref CallerTopology} (h : topologyValidate (some r) = .ok ()) :
    offered (some r) = .ok (r.val.snapshot (checked_of_validate h)) := by
  rw [offered]
  split
  · next e h' => rw [h'] at h; cases h
  · rfl

/-- A failed installation is one the service refuses. -/
lemma receive_of_failure {topology : Option (Ref CallerTopology)} {ledger : Ledger} {e : Status}
    (hin : c.InUse v.installed)
    (h : InstallFailure c topology (World.start answers ledger) e) :
    v.receive (offered topology) answers.grants (answers.clock 0).reading = .error e := by
  cases h with
  | invalid hinvalid =>
      rw [offered_of_error hinvalid]
      rfl
  | stale harg hvalid hgen =>
      subst harg
      rw [offered_of_ok hvalid]
      exact if_pos (mt (hin.accepts_iff _).mpr hgen)
  | exhausted harg hvalid hgen hrefuses =>
      subst harg
      rw [offered_of_ok hvalid]
      refine (if_neg (not_not.mpr ((hin.accepts_iff _).mp hgen))).trans (if_pos ?_)
      rw [arrayCount_snapshot]
      simpa using mt grants_iff.mp (not_not.mpr hrefuses)
  | clock harg hvalid hgen hgranted hclock hne =>
      subst harg
      rw [offered_of_ok hvalid]
      refine (if_neg (not_not.mpr ((hin.accepts_iff _).mp hgen))).trans ((if_neg ?_).trans ?_)
      · rw [arrayCount_snapshot, grants_iff.mpr hgranted]
        decide
      · have hread : (answers.clock 0).reading = .error e := by
          rw [← hclock] at hne ⊢
          exact if_neg hne
        rw [hread]
        rfl

/-- A successful installation is one the service makes. -/
lemma receive_of_success {topology : Option (Ref CallerTopology)} {ledger : Ledger}
    {r : Ref CallerTopology} (hkeeps : c.Keeps v)
    (h : InstallSuccess c topology (World.start answers ledger) r c') :
    ∃ i, v.receive (offered topology) answers.grants (answers.clock 0).reading = .ok i ∧
      c'.Keeps { v with installed := some i } := by
  have hin := hkeeps.topology
  have hvalid := h.valid
  have hgen := (hin.accepts_iff _).mp h.accepted
  obtain rfl := h.argument
  have hchecked := checked_of_validate hvalid
  have hread : (answers.clock 0).reading = .ok (answers.clock 0).timeNs := if_pos h.clock
  refine ⟨⟨r.val.snapshot hchecked, (answers.clock 0).timeNs⟩, ?_, ?_⟩
  · rw [offered_of_ok hvalid, hread]
    refine (if_neg (not_not.mpr hgen)).trans (if_neg ?_)
    rw [arrayCount_snapshot, grants_iff.mpr h.granted]
    decide
  · rw [h.client]
    exact ⟨.installed rfl (h.copy.represents hchecked) h.received, hkeeps.requests, hkeeps.next,
      hkeeps.pending⟩

/-! ### Submissions -/

/-- The stages of a reading that must not have gone back behind `received`. -/
def readingStages (received : UInt64) (sample : ClockAnswer) : List (Bool × Status) :=
  [World.clockStage sample, (decide (received ≤ sample.timeNs), Status.internalError)]

lemma now_of_failure {i : Installation} {a : ClockAnswer} {e : Status}
    (h : firstFailure (readingStages i.receivedNs a) = some e) : i.now a.reading = .error e := by
  by_cases hok : a.status = Status.ok
  · simp only [readingStages, World.clockStage, hok, beq_self_eq_true, firstFailure_cons, if_true,
      decide_eq_true_eq, firstFailure_nil] at h
    rw [Installation.now, ClockAnswer.reading, if_pos hok]
    split_ifs at h with hle
    · obtain rfl := Option.some.inj h
      exact if_pos (UInt64.not_le.mp hle)
  · have hstage : (a.status == Status.ok) = false := by simpa using hok
    simp only [readingStages, World.clockStage, hstage, firstFailure_cons,
      Bool.false_eq_true, if_false] at h
    rw [Installation.now, ClockAnswer.reading, if_neg hok, Option.some.inj h]
    rfl

lemma now_of_none {i : Installation} {a : ClockAnswer}
    (h : firstFailure (readingStages i.receivedNs a) = none) : i.now a.reading = .ok a.timeNs := by
  simp only [readingStages, World.clockStage, firstFailure_cons, firstFailure_nil, beq_iff_eq,
    decide_eq_true_eq] at h
  split_ifs at h with hok hle
  rw [Installation.now, ClockAnswer.reading, if_pos hok]
  exact if_neg (UInt64.not_lt.mpr hle)

/-- The identifiers and the queue of a client have room when the service has. -/
lemma Client.Keeps.hasRoom_iff (h : c.Keeps v) :
    v.HasRoom ↔ c.nextRequestId ≠ requestIdNone ∧ eventQueueHasCapacity (some c) = true := by
  have hlt := v.log_lt
  have hcount : c.eventQueue.count = v.log.length - v.delivered := by
    rw [← EventQueue.pending_length, h.pending, Service.waiting_length]
  have hnext : c.nextRequestId ≠ requestIdNone ↔ v.log.length + 1 < 2 ^ 64 := by
    rw [h.next, ne_eq, ← UInt64.toNat_inj, UInt64.toNat_ofNat']
    change ¬ (v.log.length + 1) % 2 ^ 64 = 0 ↔ _
    omega
  have hle := v.delivered_le
  rw [hnext, eventQueueHasCapacity_iff, hcount, Service.HasRoom]
  omega

/-- Every refused allocation has the same status. -/
lemma allocationStages_failure {n m : ℕ} {length : UInt64} {e : Status}
    (h : firstFailure (allocationStages answers n m length) = some e) :
    e = Status.resourceExhausted := by
  have hmem := mem_of_firstFailure h
  simp only [allocationStages, allocationStage, List.mem_cons, Prod.mk.injEq, List.not_mem_nil,
    or_false] at hmem
  rcases hmem with ⟨-, h⟩ | ⟨-, h⟩ | ⟨-, h⟩ | ⟨-, h⟩ | ⟨-, h⟩ <;> exact h

/-- What a submission records, its stages all holding. -/
def Acceptance.ofCall (S : Snapshot) (transactionBytes : Option Bytes) (transactionLength : UInt64)
    (options : Option (Ref SubmitOptions)) (answers : Answers) : Acceptance :=
  ⟨S.generation, S.currentSlot, slice (transactionBytes.getD fun _ => 0) 0 transactionLength.toNat,
    S.targets S.currentSlot (policyOf options).targetLimit, (answers.clock 1).timeNs⟩

/-- The stages of the arguments and options, and those that follow. -/
lemma submitStages_split {transactionBytes : Option Bytes} {length : UInt64}
    {options : Option (Ref SubmitOptions)} {outRequestId : Option (Ref UInt64)} :
    firstFailure (submitArgumentStage (some c) transactionBytes length outRequestId ::
        submitStages S c length options answers)
      = (firstFailure (submitArgumentStage (some Client.zero) transactionBytes length outRequestId ::
          optionStages options)).or
        ((firstFailure [(c.hasTopology, Status.topologyUnavailable)]).or
        ((firstFailure (readingStages c.topology.receivedMonotonicNs (answers.clock 0))).or
        ((firstFailure [(decide ((answers.clock 0).timeNs - c.topology.receivedMonotonicNs
            ≤ (policyOf options).maxTopologyAgeNs), Status.topologyStale)]).or
        ((firstFailure [routingStage S]).or
        ((firstFailure (allocationStages answers (S.resolution S.currentSlot).length
            (S.plan S.currentSlot (policyOf options).targetLimit).length length)).or
        ((firstFailure [identifierStage c,
            (eventQueueHasCapacity (some c), Status.resourceExhausted)]).or
        (firstFailure (readingStages c.topology.receivedMonotonicNs (answers.clock 1))))))))) := by
  simp only [← firstFailure_append]
  rfl

lemma Client.Keeps.roomStages (h : c.Keeps v) :
    firstFailure [identifierStage c, (eventQueueHasCapacity (some c), Status.resourceExhausted)]
      = if v.HasRoom then none else some Status.resourceExhausted := by
  have hroom := h.hasRoom_iff
  simp only [identifierStage, firstFailure_cons, firstFailure_nil, bne_iff_ne]
  split_ifs <;> simp_all

/-- The decision of a submission from its allocations on. -/
lemma settle_of_stages (h : c.Keeps v) {length : UInt64} {i : Installation} {n m : ℕ}
    (f : UInt64 → Acceptance) :
    v.settle (firstFailure (allocationStages answers n m length)).isNone
        (i.now (answers.clock 1).reading) f
      = match (firstFailure (allocationStages answers n m length)).or
          ((firstFailure [identifierStage c,
            (eventQueueHasCapacity (some c), Status.resourceExhausted)]).or
          (firstFailure (readingStages i.receivedNs (answers.clock 1)))) with
        | some e => .error e
        | none => .ok (f (answers.clock 1).timeNs) := by
  rw [h.roomStages, Service.settle]
  cases halloc : firstFailure (allocationStages answers n m length) with
  | some e =>
      rw [allocationStages_failure halloc]
      rfl
  | none =>
    by_cases hroom : v.HasRoom
    · simp only [hroom, not_true, Option.isNone_none, Bool.true_eq_false, or_false, if_false, if_true,
        Option.none_or]
      cases hcommit : firstFailure (readingStages i.receivedNs (answers.clock 1)) with
      | some e => rw [now_of_failure hcommit]; rfl
      | none => rw [now_of_none hcommit]; rfl
    · simp [hroom]

/-- **A submission is decided as the service decides it.** -/
lemma assess_of_stages (hkeeps : c.Keeps v) (hS : c.topology.Represents S)
    (hin : ∀ i ∈ v.installed, i.snapshot = S) (answers : Answers)
    (transactionBytes : Option Bytes) (length : UInt64) (options : Option (Ref SubmitOptions))
    (outRequestId : Option (Ref UInt64)) :
    v.assess (requested transactionBytes length options outRequestId)
        (fun n m => (firstFailure (allocationStages answers n m length)).isNone)
        (answers.clock 0).reading (answers.clock 1).reading
      = match firstFailure (submitArgumentStage (some c) transactionBytes length outRequestId ::
          submitStages S c length options answers) with
        | some e => .error e
        | none => .ok (Acceptance.ofCall S transactionBytes length options answers) := by
  rw [submitStages_split, requested]
  cases hargs : firstFailure (submitArgumentStage (some Client.zero) transactionBytes length
      outRequestId :: optionStages options) with
  | some e => rfl
  | none =>
    have htopology := hkeeps.topology
    rw [Service.assess, Service.current]
    cases hinstalled : v.installed with
    | none =>
        rw [hinstalled] at htopology
        cases htopology with
        | absent hno _ => simp [hno, bind, Except.bind]
    | some i =>
      rw [hinstalled] at htopology hin
      obtain rfl := hin i rfl
      cases htopology with
      | installed hhas _ hreceived =>
        rw [hreceived]
        simp only [hhas, firstFailure_cons, firstFailure_nil, if_true, Option.none_or]
        cases hadmission : firstFailure (readingStages i.receivedNs (answers.clock 0)) with
        | some e =>
            simp only [bind, Except.bind, now_of_failure hadmission, Option.some_or]
        | none =>
          simp only [bind, Except.bind, now_of_none hadmission, Option.none_or]
          by_cases hage : (answers.clock 0).timeNs - i.receivedNs ≤ (policyOf options).maxTopologyAgeNs
          swap
          · simp [UInt64.not_le.mp hage, hage]
          have hfresh : ¬ (policyOf options).maxTopologyAgeNs
              < (answers.clock 0).timeNs - i.receivedNs := UInt64.not_lt.mpr hage
          simp only [hfresh, hage, if_false, decide_true, if_true, Option.none_or]
          by_cases hr : i.snapshot.Routable i.snapshot.currentSlot
          swap
          · simp [routingStage, hr]
          simp only [routingStage, hr, not_true, if_false, decide_true]
          exact settle_of_stages hkeeps _

lemma Client.InUse.congr {installed : Option Installation} (h : c.InUse installed)
    (hhas : c'.hasTopology = c.hasTopology) (htopology : c'.topology = c.topology) :
    c'.InUse installed := by
  cases h with
  | absent hno hzero => exact .absent (hhas.trans hno) (htopology.trans hzero)
  | installed hhas' hrep hreceived =>
      exact .installed (hhas.trans hhas') (htopology ▸ hrep) (htopology ▸ hreceived)

/-- The record of an accepted request holds its acceptance. -/
lemma OwnedRequest.Records.keeps {r : OwnedRequest} {id : UInt64} {bytes : Bytes} {length : UInt64}
    {options : Option (Ref SubmitOptions)} {k : ℕ} (hid : id = UInt64.ofNat (k + 1))
    (h : r.Records S id bytes length (policyOf options).targetLimit) :
    r.Keeps k (Acceptance.ofCall S (some bytes) length options answers) where
  requestId := h.requestId.trans hid
  topologyGeneration := h.topologyGeneration
  routingSlot := h.routingSlot
  transactionBytes := h.transactionBytes
  transactionLength := by
    rw [h.transactionLength]
    exact (slice_length _ _ _).symm
  targets := h.targets
  targetCount := h.targetCount.trans (S.targets_length S.currentSlot _).symm
  state := h.state
  nextEventSequence := h.nextEventSequence

/-- An accepted submission is recorded. -/
lemma Client.Keeps.accepted (hkeeps : c.Keeps v) {bytes : Bytes} {length id : UInt64}
    {options : Option (Ref SubmitOptions)}
    (h : SubmitAccepted c S bytes length (policyOf options).targetLimit (answers.clock 1).timeNs id
      c') :
    id = UInt64.ofNat (v.log.length + 1) ∧
      c'.Keeps (v.record (Acceptance.ofCall S (some bytes) length options answers)) := by
  have hid : id = UInt64.ofNat (v.log.length + 1) := h.id_eq.trans hkeeps.next
  have hroom : v.HasRoom := hkeeps.hasRoom_iff.mpr ⟨h.id_eq ▸ h.id_ne_none, h.room⟩
  obtain ⟨hinstalled, hlog, -⟩ := Service.record_of_room
    (a := Acceptance.ofCall S (some bytes) length options answers) hroom
  obtain ⟨r, rfl, hrecords⟩ := h.client
  refine ⟨hid, ?_, ?_, ?_, ?_⟩
  · rw [hinstalled]
    exact hkeeps.topology.congr rfl rfl
  · rw [hlog, List.zipIdx_append, Client.accept, List.reverse_cons]
    refine List.rel_append hkeeps.requests (.cons ?_ .nil)
    exact hrecords.keeps (by simpa using hid)
  · rw [hlog, List.length_append, List.length_singleton, UInt64.ofNat_add (v.log.length + 1) 1,
      ← hkeeps.next]
    exact advanceRequestId_eq c.nextRequestId
  · have hpush := EventQueue.push_pending (acceptedEvent c.nextRequestId (answers.clock 1).timeNs)
      (eventQueueHasCapacity_iff.mp h.room)
    rw [Service.waiting_record hroom, ← hkeeps.pending, ← hkeeps.next]
    exact hpush

/-! ### Polls -/

/-- A poll that copies delivers as many events as there is room for. -/
lemma pollInto_delivered (c : Client) (m : Bytes) {eventCapacity : UInt64} {eventStride : UInt32}
    (hsize : Event.size ≤ eventStride.toNat)
    (hword : eventCapacity.toNat * eventStride.toNat < 2 ^ wordBits) :
    (pollInto c m eventCapacity eventStride).delivered eventStride
        = c.eventQueue.pending.take eventCapacity.toNat ∧
      ∃ q, (pollInto c m eventCapacity eventStride).client = some { c with eventQueue := q } ∧
        q.pending = c.eventQueue.pending.drop eventCapacity.toNat := by
  set n := min c.eventQueue.count eventCapacity.toNat with hn
  have hnword : n * eventStride.toNat < 2 ^ wordBits :=
    lt_of_le_of_lt (Nat.mul_le_mul_right _ (min_le_right _ _)) hword
  have hcopied := pollCopied_pollCopy (q := c.eventQueue) (m := m) hsize hnword
  have hnlt : n < 2 ^ 64 := lt_of_le_of_lt (min_le_right _ _) eventCapacity.toNat_lt
  have hlen : c.eventQueue.pending.length = c.eventQueue.count := EventQueue.pending_length _
  refine ⟨?_, _, rfl, ?_⟩
  · rw [PollResult.delivered, pollInto, if_pos rfl]
    simp only [← hn, Option.getD_some, UInt64.toNat_ofNat', Nat.mod_eq_of_lt hnlt]
    rw [hcopied.decode (min_le_left _ _), hn, min_comm, ← hlen, ← List.take_take, List.take_length]
  · rw [EventQueue.resetHead_pending, hcopied.pending, hn, ← hlen]
    rcases Nat.le_total c.eventQueue.pending.length eventCapacity.toNat with h | h
    · rw [min_eq_left h, List.drop_length, List.drop_eq_nil_of_le h]
    · rw [min_eq_right h]

/-- What a poll takes off the queue has been told of. -/
lemma Client.Keeps.polled (h : c.Keeps v) {q : EventQueue} {n : ℕ}
    (hq : q.pending = c.eventQueue.pending.drop n) :
    ({ c with eventQueue := q } : Client).Keeps (v.deliver n) where
  topology := h.topology.congr rfl rfl
  requests := h.requests
  next := h.next
  pending := by
    rw [Service.waiting_deliver, ← h.pending]
    exact hq

/-- What a poll of a client does, by how many events it has room for. -/
structure PollDone (c : Client) (eventStride : UInt32) (r : PollResult) (capacity : ℕ) : Prop where
  status : r.status = Status.ok
  delivered : r.delivered eventStride = c.eventQueue.pending.take capacity
  client : ∃ q, r.client = some { c with eventQueue := q } ∧
    q.pending = c.eventQueue.pending.drop capacity

lemma clientPollEvents_of_capacity (c : Client) (events : Option (Ref Bytes)) (eventCapacity : UInt64)
    (eventStride : UInt32) (outEventCount : Option (Ref UInt64)) :
    let r := clientPollEvents (some c) events eventCapacity eventStride outEventCount
    match capacityOf events eventCapacity eventStride outEventCount with
    | .error e => r.status = e ∧ r.delivered eventStride = [] ∧ r.client = some c
    | .ok n => PollDone c eventStride r n := by
  intro r
  rw [capacityOf]
  by_cases hout : pointerIsAlignedFor outEventCount 8 = false
  · have hr : r = ⟨Status.invalidArgument, some c, events.map Ref.val, outEventCount.map Ref.val⟩ :=
      clientPollEvents_invalid (some c) (mt countPointerValid_iff.mpr (by simp [hout]))
    rw [if_pos hout, hr]
    exact ⟨rfl, rfl, rfl⟩
  have hvalid : CountPointerValid outEventCount := countPointerValid_iff.mp (by simpa using hout)
  rw [if_neg hout]
  by_cases hcapacity : eventCapacity = 0
  · have hr : r = ⟨Status.ok, some c, events.map Ref.val, some 0⟩ := by
      simp [r, clientPollEvents, hout, hcapacity]
    rw [if_pos hcapacity, hr]
    exact ⟨rfl, rfl, c.eventQueue, rfl, rfl⟩
  rw [if_neg hcapacity]
  by_cases hdest : pollDestinationIsValid events eventCapacity eventStride = false
  · have hr : r = ⟨Status.invalidArgument, some c, events.map Ref.val, some 0⟩ := by
      simp [r, clientPollEvents, hout, hcapacity, hdest]
    rw [if_pos hdest, hr]
    exact ⟨rfl, rfl, rfl⟩
  obtain ⟨buffer, hbuffer⟩ := destinationValid_iff.mp (by simpa using hdest)
  have hr : r = pollInto c buffer.val eventCapacity eventStride :=
    clientPollEvents_into c hvalid hcapacity hbuffer
  obtain ⟨hdelivered, hclient⟩ := pollInto_delivered c buffer.val hbuffer.size_le
    (le_sizeMax_iff.mp hbuffer.extent_le)
  rw [if_neg hdest, hr]
  exact ⟨rfl, hdelivered, hclient⟩

/-! ### Every call -/

variable {s : State}

/-- The state after a call that leaves the client as it was. -/
lemma Implements.left (h : Implements M s v) {ledger : Ledger}
    (howns : ledger.Owns (s.client.data.blocks + M)) :
    Implements M (s.leave (some s.client.data) ledger) v :=
  ⟨h.allocator, howns, h.client⟩

/-- What a call must do to be a command to the service. -/
def Performs (M : Multiset ℕ) (s : State) (v : Service) (op : Op) : Prop :=
  replyOf op (step s op).1 = (v.step (commandOf op)).1 ∧
    Implements M (step s op).2 (v.step (commandOf op)).2

/-- A call that ends like an installation of what `topology` offers. -/
lemma Implements.installing (h : Implements M s v) {topology : Option (Ref CallerTopology)}
    {r : CallResult}
    (hr : InstallOutcome s.client.data topology M (World.start answers s.ledger) r) :
    let command := Command.install (offered topology) answers.grants (answers.clock 0).reading
    Reply.installed r.status = (v.step command).1 ∧
      Implements M (s.leave r.client r.world.ledger) (v.step command).2 := by
  intro command
  cases hr with
  | rejected hfail hstatus hclient howns =>
      have hreceive := receive_of_failure h.client.topology hfail
      simp only [command, Service.step, hreceive]
      rw [hstatus, hclient]
      exact ⟨rfl, h.left howns⟩
  | installed hinst hstatus hclient howns =>
      obtain ⟨i, hreceive, hkeeps⟩ := receive_of_success h.client hinst
      simp only [command, Service.step, hreceive]
      rw [hstatus, hclient]
      refine ⟨rfl, ?_, howns, hkeeps⟩
      exact hinst.client ▸ h.allocator

lemma Implements.installTopology (h : Implements M s v) (handle : Handle)
    (topology : Option (Ref CallerTopology)) (answers : Answers) :
    Performs M s v (.installTopology handle topology answers) := by
  cases handle with
  | null => exact ⟨rfl, h⟩
  | self =>
      exact h.installing (clientInstallTopology_cases h.allocator h.owns topology)

lemma Implements.refreshTopology (h : Implements M s v) (handle : Handle)
    (provider : Option (Ref DiscoveryProvider)) (answer : AcquireAnswer) (answers : Answers) :
    Performs M s v (.refreshTopology handle provider answer answers) := by
  cases handle with
  | null => exact ⟨rfl, h⟩
  | self =>
      have hcases := clientRefreshTopology_cases (some s.client.data) provider answer
        (World.start answers s.ledger)
      have hstages : acquireStages (some s.client.data) provider answer
          = acquireStages (some Client.zero) provider answer := by
        cases provider <;> rfl
      simp only [Performs, step, State.behind, replyOf, commandOf, Handle.pass]
      generalize clientRefreshTopology (some s.client.data) provider answer
        (World.start answers s.ledger) = r at hcases
      obtain ⟨r, calls⟩ := r
      cases hcases with
      | stopped hfail _ =>
          rw [hstages] at hfail
          rw [acquired, hfail]
          exact ⟨rfl, h⟩
      | attempted hnone htopology =>
          rw [hstages] at hnone
          rw [acquired, hnone, htopology]
          exact h.installing (clientInstallTopology_cases h.allocator h.owns _)

lemma Implements.submit (h : Implements M s v) (handle : Handle) (transactionBytes : Option Bytes)
    (transactionLength : UInt64) (options : Option (Ref SubmitOptions))
    (outRequestId : Option (Ref UInt64)) (answers : Answers) :
    Performs M s v
      (.submit handle transactionBytes transactionLength options outRequestId answers) := by
  cases handle with
  | null =>
      have hnull := clientSubmit_null transactionBytes transactionLength options outRequestId
        (World.start answers s.ledger)
      simp only [Performs, step, State.behind, hnull]
      exact ⟨rfl, h⟩
  | self =>
      obtain ⟨S, hS, hin⟩ := h.client.topology.represents
      have hassess := assess_of_stages h.client hS hin answers transactionBytes transactionLength
        options outRequestId
      have hcases : SubmitOutcome S s.client.data M transactionBytes transactionLength options
          outRequestId answers _ :=
        clientSubmit_cases hS h.owns transactionBytes transactionLength options outRequestId
      simp only [Performs, step, State.behind, replyOf, commandOf, Handle.pass, Service.step]
      generalize clientSubmit (some s.client.data) transactionBytes transactionLength options
        outRequestId (World.start answers s.ledger) = r at hcases
      cases hcases with
      | rejected hfail hne hstatus hclient _ howns =>
          rw [hassess, hfail, hstatus, hclient, if_neg hne]
          exact ⟨rfl, h.left howns⟩
      | accepted hnone hstatus hclient hout hbytes _ hacc howns =>
          subst hbytes
          obtain ⟨hid, hkeeps⟩ := h.client.accepted hacc
          rw [hassess, hnone, hstatus, hclient, if_pos rfl, hout, hid]
          refine ⟨rfl, ?_, howns, hkeeps⟩
          obtain ⟨r, rfl, -⟩ := hacc.client
          exact h.allocator

lemma Implements.pollEvents (h : Implements M s v) (handle : Handle) (events : Option (Ref Bytes))
    (eventCapacity : UInt64) (eventStride : UInt32) (outEventCount : Option (Ref UInt64)) :
    Performs M s v (.pollEvents handle events eventCapacity eventStride outEventCount) := by
  cases handle with
  | null =>
      by_cases hout : pointerIsAlignedFor outEventCount 8 = false
      · simp only [Performs, step, State.behind, clientPollEvents, hout, if_true]
        exact ⟨rfl, h⟩
      · simp only [Performs, step, State.behind, clientPollEvents, hout]
        exact ⟨rfl, h⟩
  | self =>
      have hpoll := clientPollEvents_of_capacity s.client.data events eventCapacity eventStride
        outEventCount
      simp only [Performs, step, State.behind, replyOf, deliveredBy, commandOf, Handle.pass]
      generalize clientPollEvents (some s.client.data) events eventCapacity eventStride
        outEventCount = r at hpoll
      cases hcapacity : capacityOf events eventCapacity eventStride outEventCount with
      | error e =>
          rw [hcapacity] at hpoll
          obtain ⟨rfl, hdelivered, hclient⟩ := hpoll
          rw [hclient]
          exact ⟨congrArg _ hdelivered, h.left h.owns⟩
      | ok n =>
          rw [hcapacity] at hpoll
          obtain ⟨hstatus, hdelivered, q, hclient, hq⟩ := hpoll
          rw [hclient, hstatus]
          refine ⟨congrArg _ ?_, h.allocator, h.owns, h.client.polled hq⟩
          rw [← h.client.pending, ← hdelivered, ← hstatus]
          rfl

/-- **Every call is a command to the service.** -/
theorem implements_step : Simulates step Service.step commandOf replyOf (Implements M) := by
  intro s v op _ h
  cases op with
  | installTopology handle topology answers => exact h.installTopology handle topology answers
  | refreshTopology handle provider answer answers =>
      exact h.refreshTopology handle provider answer answers
  | submit handle transactionBytes transactionLength options outRequestId answers =>
      exact h.submit handle transactionBytes transactionLength options outRequestId answers
  | pollEvents handle events eventCapacity eventStride outEventCount =>
      exact h.pollEvents handle events eventCapacity eventStride outEventCount

/-! ### Runs -/

lemma implements_fresh (d : Dependencies) : Implements {0} (fresh d) Service.new where
  allocator := d.allocator_valid
  owns := (wellFormed_fresh d).owns
  client := ⟨.absent rfl rfl, .nil, rfl, rfl⟩

/-- **The client refines the service.** Along every run of calls on a created client, with any
arguments and any answers of the allocator, the clock and the provider, each call returns and stores
what the service replies to it as a command. The memory of the client holds the state the service is
in: the topology in use, the accepted requests numbered in the order of the log, and the events
beyond the cursor; and the blocks of the ledger are those of the client. -/
theorem client_refines_service (d : Dependencies) (ops : List Op) :
    let s := run step (fresh d) ops
    let v := run Service.step Service.new (ops.map commandOf)
    translated replyOf (history step (fresh d) ops)
        = outputs Service.step Service.new (ops.map commandOf) ∧
      s.client.data.Keeps v ∧ s.ledger.Owns (s.client.data.blocks + {0}) := by
  intro s v
  have hrun : Implements {0} s v := implements_step.run (implements_fresh d) ops
  exact ⟨implements_step.outputs (implements_fresh d) ops, hrun.client, hrun.owns⟩

end SolanaTpuClient
