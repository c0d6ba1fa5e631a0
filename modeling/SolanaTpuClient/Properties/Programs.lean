import SolanaTpuClient.Programs.DiscoveryRefresh
import SolanaTpuClient.Properties.Borrow
import SolanaTpuClient.Properties.Ownership
import SolanaTpuClient.Properties.Recovery

/-!
What the programs of the repository come to.

A program calls the library in order and gives up at the first call that does not succeed. Each of its
calls succeeds exactly if the system serves it (`Implements.install_new`,
`Implements.submit_routed`), and a destruction leaves no block whatever has happened before
(`Implements.destroyed`). Read from its last call to its first, this says how the program ends:

* `local_acceptance_exact`: `delivery_local_acceptance` succeeds exactly if its ten allocations are
  granted and its three readings of the clock are in order and in time;
* `discovery_refresh_exact`: `discovery_refresh` succeeds exactly if its five allocations are granted
  and its clock is read.
-/

namespace SolanaTpuClient

open ByteMemory Procedure Transition

/-! ### What the system answers -/

/-- The time the `k`-th reading of `CLOCK_MONOTONIC` during a call tells. -/
def HostAnswers.tells (host : HostAnswers) (k : ℕ) : Option UInt64 :=
  (host.clockGettime k).bind Timespec.told

variable {host : HostAnswers} {k n : ℕ} {t : UInt64}

lemma HostAnswers.reading_eq_ok :
    (host.answers.clock k).reading = .ok t ↔ host.tells k = some t := by
  have hclock : host.answers.clock k = clockAnswerOf (host.clockGettime k) := rfl
  rw [hclock, tells, ClockAnswer.reading]
  cases host.clockGettime k with
  | none => simp [clockAnswerOf_none]
  | some now =>
      rw [Option.bind_some, Timespec.told, ClockAnswer.time?_eq_some]
      split_ifs with h <;> simp [h]

lemma HostAnswers.grants_iff :
    host.answers.grants n = true ↔ ∀ k < n, (host.calloc k).isSome = true := by
  simp [Answers.grants, HostAnswers.answers]

/-! ### The topology -/

section Topology

variable {validator endpoint association : LocalAddr 4} {leader : LocalAddr 8}

lemma loopback_layouts : topologyLayoutsAreValid
    (loopbackTopology validator.val endpoint.val association.val leader.val).view = true := by
  have hlayout (stride : UInt32) {n : ℕ} (base : LocalAddr n) (hn : n ≠ 0)
      (hstride : stride.toNat % n = 0) :
      arrayLayoutIsValid wordBits base.val 1 stride stride.toNat n = true := by
    have hzero : ¬(1 : UInt32).toNat - 1 > (sizeMax wordBits - stride.toNat) / stride.toNat :=
      Nat.not_lt.mpr (Nat.zero_le _)
    rw [arrayLayoutIsValid, if_neg (by decide), if_neg, if_neg hzero]
    simp [base.ne_null, base.aligned, hn, hstride, pointerIsAligned]
  rw [topologyLayoutsAreValid]
  have h₁ := hlayout 48 validator (by decide) (by decide)
  have h₂ := hlayout 32 endpoint (by decide) (by decide)
  have h₃ := hlayout 16 association (by decide) (by decide)
  have h₄ := hlayout 32 leader (by decide) (by decide)
  simp only [Bool.and_eq_true]
  exact ⟨⟨⟨h₁, h₂⟩, h₃⟩, h₄⟩

/-- The topology of the programs passes every check. -/
lemma loopback_checked :
    (loopbackTopology validator.val endpoint.val association.val leader.val).Checked where
  structSize := le_refl 88
  reserved0 := rfl
  layouts := loopback_layouts
  validators i hi := by
    obtain rfl : i = 0 := Nat.lt_one_iff.mp hi
    change validateValidator (Validator.decode (arrayElement wordBits loopbackMemory.validators 0 48))
      48 = Status.ok
    decide
  endpoints i hi := by
    obtain rfl : i = 0 := Nat.lt_one_iff.mp hi
    change validateEndpoint (Endpoint.decode (arrayElement wordBits loopbackMemory.endpoints 0 32))
      32 = Status.ok
    decide
  validatorEndpoints i hi := by
    obtain rfl : i = 0 := Nat.lt_one_iff.mp hi
    change validateAssociation (ValidatorEndpoint.decode
      (arrayElement wordBits loopbackMemory.validatorEndpoints 0 16)) 16 1 1 = Status.ok
    decide
  leaders i hi := by
    obtain rfl : i = 0 := Nat.lt_one_iff.mp hi
    change validateLeader (Leader.decode (arrayElement wordBits loopbackMemory.leaders 0 32)) 32 1
      = Status.ok
    decide

/-- The topology of the programs as a snapshot. -/
def loopbackSnapshot (validator endpoint association : LocalAddr 4) (leader : LocalAddr 8) :
    Snapshot :=
  (loopbackTopology validator.val endpoint.val association.val leader.val).snapshot
    loopback_checked

/-- The current slot has one candidate. -/
lemma loopback_resolution :
    (loopbackSnapshot validator endpoint association leader).resolution 10 = [⟨0, 0, 0⟩] := by
  have hleaders : (loopbackSnapshot validator endpoint association leader).leaders
      = [⟨32, 0, 10, 10, 0⟩] := by
    change [{ Leader.decode (arrayElement wordBits loopbackMemory.leaders 0 32) with
      structSize := UInt32.ofNat Leader.size }] = _
    decide
  have hassociations : (loopbackSnapshot validator endpoint association leader).validatorEndpoints
      = [⟨16, 0, 0, 0⟩] := by
    change [{ ValidatorEndpoint.decode
      (arrayElement wordBits loopbackMemory.validatorEndpoints 0 16) with
        structSize := UInt32.ofNat ValidatorEndpoint.size }] = _
    decide
  simp [Snapshot.resolution, Snapshot.candidatesOf, hleaders, hassociations, Leader.Leads]

/-- The current slot has one target. -/
lemma loopback_plan :
    (loopbackSnapshot validator endpoint association leader).plan 10 1 = [⟨0, 0, 0⟩] := by
  rw [Snapshot.plan, loopback_resolution]
  rfl

lemma loopback_routable : (loopbackSnapshot validator endpoint association leader).Routable 10 :=
  Snapshot.resolution_ne_nil.mp (by simp [loopback_resolution])

end Topology

/-! ### The service of a new client -/

/-- The service of a new client that has installed a topology. -/
def Service.serving (i : Installation) : Service := { new with installed := some i }

lemma Service.serving_hasRoom (i : Installation) : (serving i).HasRoom :=
  ⟨Nat.one_lt_two_pow (by decide), by change 0 < 0 + eventQueueCapacity; decide⟩

section Service

variable {v : Service} {S : Snapshot} {offer : Except Status Snapshot} {memory : ℕ → Bool}
  {fits : ℕ → ℕ → Bool} {clock admission commit : Except Status UInt64} {i : Installation}
  {r : Submission} {a : Acceptance} {e : Status}

lemma ClockAnswer.reading_ne_ok {sample : ClockAnswer} : sample.reading ≠ .error Status.ok := by
  rw [ClockAnswer.reading]
  split_ifs with h <;> simp [h]

/-- A new client installs a topology if its copies are granted and the clock is read. -/
lemma receive_new_eq_ok : Service.new.receive (.ok S) memory clock = .ok i
    ↔ memory S.arrayCount = true ∧ clock = .ok i.receivedNs ∧ i.snapshot = S := by
  have haccepts : Service.new.Accepts S.generation := fun j hj => nomatch hj
  obtain ⟨T, received⟩ := i
  cases hmemory : memory S.arrayCount <;> cases clock <;>
    simp [Service.receive, bind, Except.bind, haccepts, hmemory]
  tauto

lemma receive_new_ne_ok (h : Service.new.receive (.ok S) memory clock = .error e)
    (hclock : clock ≠ .error Status.ok) : e ≠ Status.ok := by
  rintro rfl
  have haccepts : Service.new.Accepts S.generation := fun j hj => nomatch hj
  simp only [Service.receive, bind, Except.bind, haccepts, not_true_eq_false, if_false] at h
  split_ifs at h
  · cases h
  · cases clock with
    | error e => exact hclock (congrArg _ (Except.error.inj h))
    | ok t => cases h

lemma now_eq_ok {t : UInt64} : i.now clock = .ok t ↔ clock = .ok t ∧ i.receivedNs ≤ t := by
  cases clock with
  | error e => simp [Installation.now, bind, Except.bind]
  | ok u =>
      simp only [Installation.now, bind, Except.bind, Except.ok.injEq]
      split_ifs with h
      · simp only [false_iff, not_and, UInt64.not_le]
        rintro rfl
        exact h
      · simp only [Except.ok.injEq]
        exact ⟨fun heq => ⟨heq, heq ▸ UInt64.not_lt.mp h⟩, And.left⟩

lemma now_ne_ok (hclock : clock ≠ .error Status.ok) : i.now clock ≠ .error Status.ok := by
  cases clock with
  | error e => exact fun h => hclock (congrArg _ (Except.error.inj h))
  | ok t =>
      simp only [Installation.now, bind, Except.bind]
      split_ifs <;> simp

/-- A service with room records a submission if its memory is granted and the clock is read twice,
not before the time of receipt and the first time within the age allowed. -/
lemma assess_eq_ok (hi : v.installed = some i) (hroom : v.HasRoom)
    (hroutable : i.snapshot.Routable i.snapshot.currentSlot) :
    (∃ a, v.assess (.ok r) fits admission commit = .ok a)
      ↔ fits (i.snapshot.resolution i.snapshot.currentSlot).length
          (i.snapshot.plan i.snapshot.currentSlot r.targetLimit).length = true ∧
        ∃ now accepted, admission = .ok now ∧ commit = .ok accepted ∧ i.receivedNs ≤ now ∧
          i.receivedNs ≤ accepted ∧ now - i.receivedNs ≤ r.maxTopologyAgeNs := by
  simp only [Service.assess, Service.current, hi, bind, Except.bind]
  cases hnow : i.now admission with
  | error e =>
      refine iff_of_false (by simp) ?_
      rintro ⟨-, now, accepted, hadmission, -, hle, -⟩
      rw [now_eq_ok.mpr ⟨hadmission, hle⟩] at hnow
      cases hnow
  | ok now =>
      obtain ⟨hadmission, hle⟩ := now_eq_ok.mp hnow
      by_cases hage : r.maxTopologyAgeNs < now - i.receivedNs
      · simp only [hage, if_true]
        refine iff_of_false (by simp) ?_
        rintro ⟨-, now', accepted, hadmission', -, -, -, hage'⟩
        obtain rfl := Except.ok.inj (hadmission.symm.trans hadmission')
        exact absurd hage (UInt64.not_lt.mpr hage')
      · simp only [hage, hroutable, not_true_eq_false, if_false, Service.settle, hroom, or_false]
        split_ifs with hfits
        · refine iff_of_false (by simp) ?_
          rintro ⟨hfits', -⟩
          exact absurd (hfits'.symm.trans hfits) (by decide)
        · rw [Bool.not_eq_false] at hfits
          cases hcommit : i.now commit with
          | error e =>
              refine iff_of_false (by simp [Functor.map, Except.map]) ?_
              rintro ⟨-, now', accepted, -, hcommit', -, hle', -⟩
              rw [now_eq_ok.mpr ⟨hcommit', hle'⟩] at hcommit
              cases hcommit
          | ok accepted =>
              obtain ⟨hcommit, hle'⟩ := now_eq_ok.mp hcommit
              refine iff_of_true ⟨_, rfl⟩ ⟨hfits, now, accepted, hadmission, hcommit, hle, hle', ?_⟩
              exact UInt64.not_lt.mp hage

lemma assess_ne_ok (hi : v.installed = some i)
    (h : v.assess (.ok r) fits admission commit = .error e)
    (hadmission : admission ≠ .error Status.ok) (hcommit : commit ≠ .error Status.ok) :
    e ≠ Status.ok := by
  rintro rfl
  simp only [Service.assess, Service.current, hi, bind, Except.bind] at h
  cases hnow : i.now admission with
  | error e =>
      rw [hnow] at h
      exact now_ne_ok hadmission (hnow.trans (congrArg _ (Except.error.inj h)))
  | ok now =>
      simp only [hnow, Service.settle] at h
      split_ifs at h
      · cases h
      · cases h
      · cases hnow' : i.now commit with
        | error e =>
            rw [hnow'] at h
            exact now_ne_ok hcommit (hnow'.trans (congrArg _ (Except.error.inj h)))
        | ok t => rw [hnow'] at h; cases h
      · cases h

end Service

/-! ### The calls of a program -/

section Calls

variable {s : State} {v : Service} {M : Multiset ℕ}

/-- The first installation of a valid topology succeeds exactly if its copies are granted and the
clock is read. -/
lemma Implements.install_new (h : Implements M s Service.new) {r : Ref CallerTopology}
    (hvalid : topologyValidate (some r) = .ok ()) (host : HostAnswers) :
    let result := clientInstallTopology (some s.client.data) (some r)
      (World.start host.answers s.ledger)
    let t := s.leave result.client result.world.ledger
    let granted := ∀ k < topologyCopies r.val.view, (host.calloc k).isSome = true
    (result.status = Status.ok ∧ granted ∧ ∃ received, host.tells 0 = some received ∧
      Implements M t (Service.serving ⟨r.val.snapshot (checked_of_validate hvalid), received⟩)) ∨
    (result.status ≠ Status.ok ∧ ¬(granted ∧ ∃ received, host.tells 0 = some received) ∧
      Implements M t Service.new) := by
  intro result t granted
  have hgranted : host.answers.grants
      (r.val.snapshot (checked_of_validate hvalid)).arrayCount = true ↔ granted := by
    rw [arrayCount_snapshot, HostAnswers.grants_iff]
  obtain ⟨hreply, hnext⟩ := h.installTopology .self (some r) host.answers
  simp only [commandOf, Handle.pass, offered_of_ok hvalid, Service.step] at hreply hnext
  cases hreceive : Service.new.receive (.ok (r.val.snapshot (checked_of_validate hvalid)))
      host.answers.grants (host.answers.clock 0).reading with
  | error e =>
      rw [hreceive] at hreply hnext
      obtain rfl : result.status = e := Reply.installed.inj hreply
      refine Or.inr ⟨receive_new_ne_ok hreceive ClockAnswer.reading_ne_ok, ?_, hnext⟩
      rintro ⟨hall, received, htells⟩
      have hok := receive_new_eq_ok (i := ⟨_, received⟩).mpr
        ⟨hgranted.mpr hall, HostAnswers.reading_eq_ok.mpr htells, rfl⟩
      rw [hok] at hreceive
      cases hreceive
  | ok i =>
      rw [hreceive] at hreply hnext
      obtain ⟨hmemory, hclock, hsnapshot⟩ := receive_new_eq_ok.mp hreceive
      refine Or.inl ⟨Reply.installed.inj hreply, hgranted.mp hmemory, i.receivedNs,
        HostAnswers.reading_eq_ok.mp hclock, ?_⟩
      rw [← hsnapshot]
      exact hnext

/-- A submission with valid arguments that the topology in use routes is accepted, while there is
room, exactly if its memory is granted and the clock is read twice in time. -/
lemma Implements.submit_routed (h : Implements M s v) {i : Installation} (hi : v.installed = some i)
    (hroom : v.HasRoom) (hroutable : i.snapshot.Routable i.snapshot.currentSlot)
    {transaction : Option Bytes} {length : UInt64} {options : Option (Ref SubmitOptions)}
    {outRequestId : Option (Ref UInt64)} {request : Submission}
    (hrequest : requested transaction length options outRequestId = .ok request)
    (host : HostAnswers) :
    let result := clientSubmit (some s.client.data) transaction length options outRequestId
      (World.start host.answers s.ledger)
    let t := s.leave result.client result.world.ledger
    let served := firstFailure (allocationStages host.answers
        (i.snapshot.resolution i.snapshot.currentSlot).length
        (i.snapshot.plan i.snapshot.currentSlot request.targetLimit).length length) = none ∧
      ∃ now accepted, host.tells 0 = some now ∧ host.tells 1 = some accepted ∧
        i.receivedNs ≤ now ∧ i.receivedNs ≤ accepted ∧ now - i.receivedNs ≤ request.maxTopologyAgeNs
    (result.status = Status.ok ∧ served ∧
      result.outRequestId = some (UInt64.ofNat (v.log.length + 1)) ∧
        ∃ a, Implements M t (v.record a)) ∨
    (result.status ≠ Status.ok ∧ ¬served ∧ Implements M t v) := by
  intro result t served
  have hserved : (∃ a, v.assess (.ok request) (fun candidates targets =>
      (firstFailure (allocationStages host.answers candidates targets length)).isNone)
        (host.answers.clock 0).reading (host.answers.clock 1).reading = .ok a) ↔ served := by
    rw [assess_eq_ok hi hroom hroutable]
    simp only [HostAnswers.reading_eq_ok, Option.isNone_iff_eq_none, served]
  obtain ⟨hreply, hnext⟩ := h.submit .self transaction length options outRequestId host.answers
  simp only [commandOf, Handle.pass, hrequest, Service.step] at hreply hnext
  cases hassess : v.assess (.ok request) (fun candidates targets =>
      (firstFailure (allocationStages host.answers candidates targets length)).isNone)
        (host.answers.clock 0).reading (host.answers.clock 1).reading with
  | error e =>
      rw [hassess] at hreply hnext
      obtain ⟨hstatus, -⟩ : result.status = e ∧ _ := Reply.submitted.inj hreply
      refine Or.inr ⟨?_, fun hs => ?_, hnext⟩
      · rw [hstatus]
        exact assess_ne_ok hi hassess ClockAnswer.reading_ne_ok ClockAnswer.reading_ne_ok
      · obtain ⟨a, ha⟩ := hserved.mpr hs
        cases hassess.symm.trans ha
  | ok a =>
      rw [hassess] at hreply hnext
      obtain ⟨hstatus, hid⟩ : result.status = Status.ok ∧
          (if result.status = Status.ok then result.outRequestId else none) = _ :=
        Reply.submitted.inj hreply
      rw [if_pos hstatus] at hid
      exact Or.inl ⟨hstatus, hserved.mp ⟨a, hassess⟩, hid, a, hnext⟩

/-- A poll with room for one event delivers the one that waits. -/
lemma Implements.poll_one (h : Implements M s v) {e : Event} (hwaiting : v.waiting = [e])
    {events : Option (Ref Bytes)} {eventStride : UInt32} {outEventCount : Option (Ref UInt64)}
    (hcapacity : capacityOf events 1 eventStride outEventCount = .ok 1) :
    let result := clientPollEvents (some s.client.data) events 1 eventStride outEventCount
    result.status = Status.ok ∧ result.outEventCount.getD 0 = 1 ∧
      Event.decode (result.events.getD fun _ => 0) = e ∧
      Implements M (s.leave result.client s.ledger) (v.deliver 1) := by
  intro result
  have hdone := clientPollEvents_of_capacity s.client.data events 1 eventStride outEventCount
  rw [hcapacity] at hdone
  obtain ⟨-, hnext⟩ := h.pollEvents .self events 1 eventStride outEventCount
  simp only [commandOf, Handle.pass, hcapacity, Service.step] at hnext
  have hdelivered : result.delivered eventStride = [e] := by
    rw [hdone.delivered, h.client.pending, hwaiting]
    rfl
  rw [PollResult.delivered, if_pos hdone.status] at hdelivered
  have hcount : (result.outEventCount.getD 0).toNat = 1 := by
    simpa using congrArg List.length hdelivered
  rw [hcount] at hdelivered
  have hshift (m : Bytes) : shift m 0 = m := funext fun j => congrArg m (Nat.zero_add j)
  refine ⟨hdone.status, UInt64.toNat_inj.mp hcount, ?_, hnext⟩
  simpa [hshift] using hdelivered

/-- A destruction leaves no block. -/
lemma Implements.destroyed (h : Implements {s.client.id} s v) (host : HostAnswers) :
    (s.destroyed host).Owns 0 :=
  owns_clientDestroy h.allocator (h.owns.congr (add_zero _).symm)

/-- A creation that is granted its memory leaves the fresh client. -/
lemma clientCreate_of_some (f : SystemFunctions) {host : HostAnswers} {addr : BlockAddr}
    (h : host.calloc 0 = some addr) :
    ∃ w, clientCreate f false (World.start host.answers Ledger.empty)
        = .ok (fresh (systemDependencies f addr)).client w ∧
      w.ledger = (fresh (systemDependencies f addr)).ledger :=
  clientCreate_fresh (systemDependencies f addr) h

/-- A creation that is not leaves nothing. -/
lemma clientCreate_of_none (f : SystemFunctions) {host : HostAnswers} (h : host.calloc 0 = none) :
    ∃ w, clientCreate f false (World.start host.answers Ledger.empty)
        = .error Status.resourceExhausted w ∧ w.ledger = Ledger.empty := by
  have hargs : allocatorIsValid (some (systemAllocator f)) = true ∧ f.systemMonotonicTimeNs ≠ 0 ∧
      false = false := ⟨systemAllocator_valid f, f.systemMonotonicTimeNs_ne_null, rfl⟩
  have hcalloc : World.calloc Client.zero (World.start host.answers Ledger.empty) = _ :=
    World.calloc_of_none h
  refine ⟨(World.start host.answers Ledger.empty).callocFailed, ?_, rfl⟩
  simp only [clientCreate, clientCreateWithAllocator, clientCreateWithDependencies]
  rw [bind_of_ok (require_of hargs), bind_of_ok hcalloc]
  rfl

end Calls

/-! ### The end of a program -/

/-- The program has succeeded exactly if `served` holds, and has returned its memory. -/
structure ProgramEnd.Exact (ended : ProgramEnd) (served : Prop) : Prop where
  succeeds : ended.exitStatus = 0 ↔ served
  status_le : ended.exitStatus ≤ 1
  owns : ended.ledger.Owns 0

lemma ProgramEnd.Exact.congr {ended : ProgramEnd} {served served' : Prop} (h : ended.Exact served)
    (hserved : served ↔ served') : ended.Exact served' :=
  ⟨h.succeeds.trans hserved, h.status_le, h.owns⟩

lemma ProgramEnd.exact_of_failed {ledger : Ledger} {served : Prop} (hno : ¬served)
    (howns : ledger.Owns 0) : ProgramEnd.Exact ⟨1, ledger⟩ served :=
  ⟨iff_of_false one_ne_zero hno, le_rfl, howns⟩

/-- A program that creates a client gives up without one, and otherwise ends as what it does with the
new client. -/
lemma ProgramEnd.exact_of_create (f : SystemFunctions) (host : HostAnswers)
    (rest : State → ProgramEnd) {served : Prop}
    (hrest : ∀ s : State, Implements {s.client.id} s Service.new → (rest s).Exact served) :
    ProgramEnd.Exact
      (match clientCreate f false (World.start host.answers Ledger.empty) with
        | .error _ w => ⟨1, w.ledger⟩
        | .ok client w => rest ⟨client, w.ledger⟩)
      ((host.calloc 0).isSome = true ∧ served) := by
  cases hcreate : host.calloc 0 with
  | none =>
      obtain ⟨w, hw, hledger⟩ := clientCreate_of_none f hcreate
      simp only [hw, hledger]
      exact ProgramEnd.exact_of_failed (by simp) Ledger.owns_empty
  | some addr =>
      obtain ⟨w, hw, hledger⟩ := clientCreate_of_some f hcreate
      simp only [hw, hledger]
      exact (hrest (fresh (systemDependencies f addr))
        (implements_fresh (systemDependencies f addr))).congr (by simp)

/-! ### The programs -/

section Acceptance

variable (l : AcceptanceLocals)

/-- The topology of the program as a snapshot. -/
def AcceptanceLocals.snapshot : Snapshot :=
  loopbackSnapshot l.validator l.endpoint l.association l.leader

/-- What the program asks for. -/
lemma requested_of_program : ∃ bytes, requested (some (ofList [1])) 1 (some l.optionsRef)
    (some (l.requestId.ref requestIdNone)) = .ok ⟨bytes, 60000000000, 1⟩ := by
  refine requested_of_none (firstFailure_eq_none.mpr ?_)
  simp [submitArgumentStage, optionStages, pointerIsAlignedFor, AcceptanceLocals.optionsRef,
    LocalAddr.ref, l.requestId.aligned, l.options.aligned, submitOptionsMinSize]

lemma capacityOf_program : capacityOf (some (l.event.ref fun _ => 0)) 1 (UInt32.ofNat Event.size)
    (some (l.eventCount.ref 0)) = .ok 1 := by
  simp [capacityOf, pollDestinationIsValid, pointerIsAlignedFor, LocalAddr.ref, l.event.aligned,
    l.eventCount.aligned, Event.size, sizeMax, wordBits]

/-- The program needs five allocations to submit. -/
lemma allocations_of_program {host : HostAnswers} :
    firstFailure (allocationStages host.answers
        (l.snapshot.resolution l.snapshot.currentSlot).length
        (l.snapshot.plan l.snapshot.currentSlot 1).length 1) = none
      ↔ ∀ k < 5, (host.calloc k).isSome = true := by
  have hslot : l.snapshot.currentSlot = 10 := rfl
  rw [hslot, AcceptanceLocals.snapshot, loopback_resolution, loopback_plan, firstFailure_eq_none]
  simp only [allocationStages, allocationStage, sizeMax, wordBits, HostAnswers.answers,
    TopologyCandidate.size, RouteTarget.size, OwnedRequestTarget.size, OwnedRequest.size,
    List.length_singleton, List.mem_cons, List.not_mem_nil, or_false, forall_eq_or_imp, forall_eq]
  constructor
  · rintro h k hk
    interval_cases k <;> simp_all
  · intro h
    simp [h]

variable {s : State} (host : AcceptanceHost)

/-- With the event of its request waiting, the program succeeds. -/
lemma exact_pollAndCheck {v : Service} (h : Implements {s.client.id} s v) {id t : UInt64}
    (hid : id ≠ requestIdNone) (hwaiting : v.waiting = [acceptedEvent id t]) :
    (pollAndCheck l host id s).Exact True := by
  obtain ⟨hstatus, hcount, hevent, hnext⟩ := h.poll_one hwaiting (capacityOf_program l)
  have hvalid : validEvent id (acceptedEvent id t) 1 = true := by
    simp [validEvent, acceptedEvent, hid]
  simp only [pollAndCheck, AcceptanceLocals.pollEvents, hstatus, ne_eq, not_true_eq_false, if_false,
    hcount, hevent, hvalid, if_true]
  exact ⟨iff_of_true rfl trivial, Nat.zero_le 1, hnext.destroyed host.submit⟩

/-- What the submission of the program needs, the topology having been received at this time. -/
def AcceptanceHost.ServesSubmit (host : AcceptanceHost) (received : UInt64) : Prop :=
  (∀ k < 5, (host.submit.calloc k).isSome = true) ∧ ∃ now accepted,
    host.submit.tells 0 = some now ∧ host.submit.tells 1 = some accepted ∧ received ≤ now ∧
      received ≤ accepted ∧ now - received ≤ 60000000000

/-- With its topology in use, the program succeeds exactly if its submission is served. -/
lemma exact_submitAndPoll {received : UInt64}
    (h : Implements {s.client.id} s (Service.serving ⟨l.snapshot, received⟩)) :
    (submitAndPoll l host s).Exact (host.ServesSubmit received) := by
  obtain ⟨bytes, hrequest⟩ := requested_of_program l
  simp only [submitAndPoll, AcceptanceLocals.submit]
  rcases h.submit_routed rfl (Service.serving_hasRoom _) loopback_routable hrequest host.submit with
    ⟨hstatus, ⟨hallocated, hclock⟩, hid, a, hnext⟩ | ⟨hstatus, hrefused, hnext⟩
  · simp only [hstatus, ne_eq, not_true_eq_false, if_false, hid]
    have hended := exact_pollAndCheck (s := s.leave _ _) l host hnext
      (by decide : (1 : UInt64) ≠ requestIdNone)
      (Service.waiting_record (Service.serving_hasRoom _))
    have hserved : host.ServesSubmit received := ⟨(allocations_of_program l).mp hallocated, hclock⟩
    exact hended.congr (iff_of_true trivial hserved)
  · simp only [hstatus, ne_eq, not_false_eq_true, if_true]
    refine ProgramEnd.exact_of_failed (fun hserved => ?_)
      (Implements.destroyed (s := s.leave _ _) hnext host.submit)
    exact hrefused ⟨(allocations_of_program l).mpr hserved.1, hserved.2⟩

/-- What the program needs, once it has a client. -/
def AcceptanceHost.ServesInstall (host : AcceptanceHost) : Prop :=
  (∀ k < 4, (host.install.calloc k).isSome = true) ∧
    ∃ received, host.install.tells 0 = some received ∧ host.ServesSubmit received

/-- With a new client, the program succeeds exactly if its installation and its submission are
served. -/
lemma exact_installAndSubmit (h : Implements {s.client.id} s Service.new) :
    (installAndSubmit l host s).Exact host.ServesInstall := by
  have hvalid : topologyValidate (some l.topologyRef) = .ok () :=
    topologyValidate_eq_ok.mpr ⟨_, rfl, l.topology.aligned, loopback_checked⟩
  simp only [installAndSubmit]
  rcases h.install_new hvalid host.install with
    ⟨hstatus, hgranted, received, htells, hnext⟩ | ⟨hstatus, hrefused, hnext⟩
  · simp only [hstatus, ne_eq, not_true_eq_false, if_false]
    have hended := exact_submitAndPoll (s := s.leave _ _) l host hnext
    refine hended.congr ⟨fun hserved => ⟨hgranted, received, htells, hserved⟩, ?_⟩
    rintro ⟨-, received', htells', hserved⟩
    obtain rfl := Option.some.inj (htells.symm.trans htells')
    exact hserved
  · simp only [hstatus, ne_eq, not_false_eq_true, if_true]
    refine ProgramEnd.exact_of_failed (fun hserved => ?_)
      (Implements.destroyed (s := s.leave _ _) hnext host.install)
    obtain ⟨hgranted, received, htells, -⟩ := hserved
    exact hrefused ⟨hgranted, received, htells⟩

end Acceptance

/-- The system serves the program: it grants every allocation and reads the clock three times, the
later times not before the first and the second no more than a minute after it. -/
structure AcceptanceHost.Serves (host : AcceptanceHost) : Prop where
  create : (host.create.calloc 0).isSome = true
  install : ∀ k < 4, (host.install.calloc k).isSome = true
  submit : ∀ k < 5, (host.submit.calloc k).isSome = true
  clock : ∃ received now accepted, host.install.tells 0 = some received ∧
    host.submit.tells 0 = some now ∧ host.submit.tells 1 = some accepted ∧ received ≤ now ∧
      received ≤ accepted ∧ now - received ≤ 60000000000

/-- **The program `delivery_local_acceptance` succeeds exactly if the system serves it**, wherever
its variables are, and whatever happens it leaves no block behind. -/
theorem local_acceptance_exact (f : SystemFunctions) (l : AcceptanceLocals) (host : AcceptanceHost) :
    (localAcceptanceMain f l host).Exact host.Serves := by
  have h := ProgramEnd.exact_of_create f host.create (installAndSubmit l host)
    fun s hs => exact_installAndSubmit l host hs
  refine h.congr ⟨?_, ?_⟩
  · rintro ⟨hcreate, hinstall, received, htells, hsubmit, now, accepted, hclock⟩
    exact ⟨hcreate, hinstall, hsubmit, received, now, accepted, htells, hclock⟩
  · rintro ⟨hcreate, hinstall, hsubmit, received, now, accepted, htells, hclock⟩
    exact ⟨hcreate, hinstall, received, htells, hsubmit, now, accepted, hclock⟩

/-! ### The refreshing program -/

/-- The provider of the program may be used. -/
lemma usable_of_program (l : RefreshLocals) (c : Client) :
    UsableProvider (some c) (descriptorAt (some l.providerRef) l.initialProviderState)
      (l.providerRef.val l.initialProviderState) where
  client := Option.some_ne_none c
  read := rfl
  aligned := by simp [descriptorAt, pointerIsAlignedFor, RefreshLocals.providerRef, LocalAddr.ref,
    l.provider.aligned]
  size := le_refl 32
  flags := rfl
  acquire := l.acquireTopology_ne_null

/-- The system serves the program: it grants every allocation and reads the clock. -/
structure RefreshHost.Serves (host : RefreshHost) : Prop where
  create : (host.create.calloc 0).isSome = true
  copies : ∀ k < 4, (host.refresh.calloc k).isSome = true
  clock : ∃ received, host.refresh.tells 0 = some received

/-- The refresh of the program installs its topology and gives it back once. -/
lemma refresh_of_program (l : RefreshLocals) (s : State) (w : World) :
    let result := clientInstallTopology (some s.client.data) (some l.initialProviderState.topology) w
    ∃ b, refreshTopology exampleProvider (some l.providerRef)
        ⟨some s.client.data, w, l.initialProviderState, []⟩ = (result.status, b) ∧
      b.client = result.client ∧ b.world = result.world ∧ b.side.releaseCount = 1 := by
  intro result
  set b : Borrowing ExampleProviderState := ⟨some s.client.data, w, l.initialProviderState, []⟩
  set d := l.providerRef.val l.initialProviderState
  have hcallback : d.release ≠ 0 := l.releaseTopology_ne_null
  have hacquire : acquireTopology d.context l.initialProviderState
      = ((Status.ok, some l.initialProviderState.topology), l.initialProviderState) :=
    if_neg l.state.ne_null
  have hrelease : releaseTopology d.context l.initialProviderState.topology l.initialProviderState
      = { l.initialProviderState with releaseCount := 1 } :=
    if_pos ⟨l.state.ne_null, rfl⟩
  have hacquired : b.acquire exampleProvider d.acquire d.context
      = ((Status.ok, some l.initialProviderState.topology), { b with
          trace := [.acquire d.acquire d.context Status.ok
            (some l.initialProviderState.topology)] }) := by
    simp only [Borrowing.acquire, exampleProvider, b, hacquire, List.nil_append]
  have hborrowed := refreshTopology_borrowed (P := exampleProvider) (b := b) (d := d)
    (usable_of_program l s.client.data).validate (congrArg Prod.fst hacquired)
  rw [if_pos hcallback, hacquired] at hborrowed
  exact ⟨_, hborrowed, rfl, rfl, congrArg ExampleProviderState.releaseCount hrelease⟩

/-- With a new client, the program succeeds exactly if its installation is served; the topology is
given back once in any case. -/
lemma exact_refreshAndCheck {s : State} (l : RefreshLocals) (host : RefreshHost)
    (h : Implements {s.client.id} s Service.new) :
    (refreshAndCheck l host s).Exact ((∀ k < 4, (host.refresh.calloc k).isSome = true) ∧
      ∃ received, host.refresh.tells 0 = some received) := by
  have hvalid : topologyValidate (some l.initialProviderState.topology) = .ok () :=
    topologyValidate_eq_ok.mpr ⟨_, rfl, l.topology.aligned, loopback_checked⟩
  obtain ⟨b, hrefresh, hclient, hworld, hcount⟩ :=
    refresh_of_program l s (World.start host.refresh.answers s.ledger)
  simp only [refreshAndCheck, hrefresh, hclient, hworld, hcount]
  rcases h.install_new hvalid host.refresh with
    ⟨hstatus, hgranted, received, htells, hnext⟩ | ⟨hstatus, hrefused, hnext⟩
  · simp only [hstatus, and_self, if_true]
    exact ⟨iff_of_true rfl ⟨hgranted, received, htells⟩, Nat.zero_le 1,
      Implements.destroyed (s := s.leave _ _) hnext host.refresh⟩
  · simp only [hstatus, false_and, if_false]
    exact ProgramEnd.exact_of_failed hrefused
      (Implements.destroyed (s := s.leave _ _) hnext host.refresh)

/-- **The program `discovery_refresh` succeeds exactly if the system serves it**, wherever its
variables and callbacks are, and whatever happens it leaves no block behind. -/
theorem discovery_refresh_exact (f : SystemFunctions) (l : RefreshLocals) (host : RefreshHost) :
    (discoveryRefreshMain f l host).Exact host.Serves := by
  have h := ProgramEnd.exact_of_create f host.create (refreshAndCheck l host)
    fun s hs => exact_refreshAndCheck l host hs
  refine h.congr ⟨?_, ?_⟩
  · rintro ⟨hcreate, hgranted, htells⟩
    exact ⟨hcreate, hgranted, htells⟩
  · rintro ⟨hcreate, hgranted, htells⟩
    exact ⟨hcreate, hgranted, htells⟩

end SolanaTpuClient
