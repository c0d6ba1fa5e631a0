import SolanaTpuClient.Delivery.Client

/-!
The readings of the clock a call takes.

* `samplesOf`: what the clock answered to a call, as often as the call asked;
* `clockTimes`: the times it told along a run, failed readings left out;
* `clockReadings_pos_of_installed`: a call that installs a topology reads the clock;
* `ensures_submit_one_le`: a submission with valid arguments to a client with a topology reads the
  clock;
* `ensures_submit_two_le`: one that comes past the check of the queue capacity reads it twice.
-/

namespace SolanaTpuClient

open ByteMemory Procedure Transition

/-! ### Readings of a call and of a run -/

/-- The time a successful reading tells. -/
def ClockAnswer.time? (sample : ClockAnswer) : Option UInt64 :=
  if sample.status = Status.ok then some sample.timeNs else none

/-- The number of times a call reads the clock. -/
def clockReadings (s : State) : Op → ℕ
  | .installTopology handle topology answers =>
      (clientInstallTopology (s.behind handle) topology
        (World.start answers s.ledger)).world.clockCalls
  | .refreshTopology handle provider acquired answers =>
      (clientRefreshTopology (s.behind handle) provider acquired
        (World.start answers s.ledger)).world.clockCalls
  | .submit handle transactionBytes transactionLength options outRequestId answers =>
      (clientSubmit (s.behind handle) transactionBytes transactionLength options outRequestId
        (World.start answers s.ledger)).world.clockCalls
  | .pollEvents .. => 0

/-- What the clock answers to a call, in the order it is asked. -/
def samplesOf (s : State) (op : Op) : List ClockAnswer :=
  match op.answers with
  | none => []
  | some answers => (List.range (clockReadings s op)).map answers.clock

/-- The times a call is told, in order. -/
def timesOf (s : State) (op : Op) : List UInt64 := (samplesOf s op).filterMap ClockAnswer.time?

/-- The times the clock tells along a run, in order. -/
def clockTimes (h : List Step) : List UInt64 := h.flatMap fun e => timesOf e.pre e.input

section Readings

variable {s : State} {op : Op} {answers : Answers} {k : ℕ} {sample : ClockAnswer} {t : UInt64}

lemma ClockAnswer.time?_eq_some : sample.time? = some t ↔ sample.status = Status.ok ∧
    sample.timeNs = t := by
  rw [ClockAnswer.time?, Option.ite_none_right_eq_some, Option.some.injEq]

lemma samplesOf_eq (hop : op.answers = some answers) :
    samplesOf s op = (List.range (clockReadings s op)).map answers.clock := by
  rw [samplesOf, hop]

/-- A reading that is taken is a sample. -/
lemma mem_samplesOf (hop : op.answers = some answers) (hk : k < clockReadings s op) :
    answers.clock k ∈ samplesOf s op := by
  rw [samplesOf_eq hop]
  exact List.mem_map.mpr ⟨k, List.mem_range.mpr hk, rfl⟩

/-- A successful sample tells a time. -/
lemma mem_timesOf (hmem : sample ∈ samplesOf s op) (hok : sample.status = Status.ok) :
    sample.timeNs ∈ timesOf s op :=
  List.mem_filterMap.mpr ⟨sample, hmem, ClockAnswer.time?_eq_some.mpr ⟨hok, rfl⟩⟩

/-- The readings of a call are told in the order they are taken. -/
lemma le_of_timesOf (hop : op.answers = some answers) {i j : ℕ} (hij : i < j)
    (hj : j < clockReadings s op) (hi_ok : (answers.clock i).status = Status.ok)
    (hj_ok : (answers.clock j).status = Status.ok) (h : (timesOf s op).Pairwise (· ≤ ·)) :
    (answers.clock i).timeNs ≤ (answers.clock j).timeNs := by
  rw [timesOf, samplesOf_eq hop, List.pairwise_filterMap, List.pairwise_map] at h
  have hget := List.pairwise_iff_getElem.mp h i j (by simpa using hij.trans hj) (by simpa using hj)
    hij
  simp only [List.getElem_range] at hget
  exact hget _ (ClockAnswer.time?_eq_some.mpr ⟨hi_ok, rfl⟩) _
    (ClockAnswer.time?_eq_some.mpr ⟨hj_ok, rfl⟩)

@[simp] lemma clockTimes_nil : clockTimes [] = [] := rfl

lemma clockTimes_append (h₁ h₂ : List Step) :
    clockTimes (h₁ ++ h₂) = clockTimes h₁ ++ clockTimes h₂ :=
  List.flatMap_append

lemma clockTimes_cons (e : Step) (h : List Step) :
    clockTimes (e :: h) = timesOf e.pre e.input ++ clockTimes h :=
  List.flatMap_cons

end Readings

/-! ### Nothing unreads the clock -/

lemma World.grows_calloc {α : Type} {data : α} :
    Grows World.clockCalls (World.calloc data) := by
  intro w
  cases h : w.answers.calloc w.callocCalls with
  | none => exact ensures_of_ok (World.calloc_of_none h) le_rfl
  | some addr => exact ensures_of_ok (World.calloc_of_some h) le_rfl

/-- A reading is counted, successful or not. -/
lemma World.ensures_monotonicTime_clockCalls {w : World} :
    Ensures World.monotonicTime w (fun _ w' => w'.clockCalls = w.clockCalls + 1)
      fun _ w' => w'.clockCalls = w.clockCalls + 1 := by
  by_cases h : (w.answers.clock w.clockCalls).status = Status.ok
  · exact ensures_of_ok (World.monotonicTime_of_ok h) rfl
  · exact ensures_of_error (World.monotonicTime_of_ne h) rfl

lemma grows_allocateArray {α : Type} {count elementSize : ℕ} {data : α} :
    Grows World.clockCalls (allocateArray count elementSize data) := by
  refine grows_require.bind fun _ => ?_
  by_cases hcount : count = 0
  · rw [if_pos hcount]
    exact grows_pure
  · rw [if_neg hcount]
    exact grows_require.bind fun _ => World.grows_calloc.bind fun _ =>
      grows_require.bind fun _ => grows_pure

/-- The number of readings behind a frame. -/
def SubmitFrame.clockCalls (f : SubmitFrame) : ℕ := f.world.clockCalls

/-- The number of readings behind a call. -/
def CallState.clockCalls (s : CallState) : ℕ := s.world.clockCalls

lemma SubmitFrame.grows_onWorld {α : Type} {x : EStateM Status World α}
    (hx : Grows World.clockCalls x) : Grows SubmitFrame.clockCalls (SubmitFrame.onWorld x) :=
  grows_zoom hx fun _ _ h => h

/-- An allocation that is stored in the frame does not read the clock. -/
lemma SubmitFrame.grows_allocation {α β : Type} {x : EStateM Status World α}
    (hx : Grows World.clockCalls x) {store : α → SubmitFrame → SubmitFrame}
    (hstore : ∀ p f, (store p f).clockCalls = f.clockCalls)
    {rest : α → EStateM Status SubmitFrame β}
    (hrest : ∀ p, Grows SubmitFrame.clockCalls (rest p)) :
    Grows SubmitFrame.clockCalls (do
      let p ← SubmitFrame.onWorld x
      modify (store p)
      rest p) := by
  refine (SubmitFrame.grows_onWorld hx).bind fun p => ?_
  exact Grows.bind (grows_modify fun f => (hstore p f).ge) fun _ => hrest p

lemma grows_resolveCandidates {slot : UInt64} {n : ℕ} :
    Grows SubmitFrame.clockCalls (resolveCandidates slot n) := by
  refine SubmitFrame.grows_allocation grows_allocateArray (fun _ _ => by rfl) fun _ => ?_
  refine grows_get.bind fun _ => ?_
  refine Grows.bind (grows_modify fun _ => le_rfl) fun _ => ?_
  exact grows_require.bind fun _ => grows_require

lemma grows_selectRoutes {n limit : ℕ} : Grows SubmitFrame.clockCalls (selectRoutes n limit) := by
  refine grows_get.bind fun _ => ?_
  refine grows_require.bind fun _ => grows_require.bind fun _ => ?_
  refine SubmitFrame.grows_allocation grows_allocateArray (fun _ _ => by rfl) fun _ => ?_
  refine grows_get.bind fun _ => ?_
  refine Grows.bind (grows_modify fun _ => le_rfl) fun _ => ?_
  exact grows_require.bind fun _ => grows_require.bind fun _ => grows_pure

lemma grows_copyTransaction {bytes : Bytes} {length : UInt64} :
    Grows SubmitFrame.clockCalls (copyTransaction bytes length) := by
  refine SubmitFrame.grows_allocation grows_allocateArray (fun _ _ => by rfl) fun _ => ?_
  exact grows_modify fun _ => le_rfl

lemma grows_copyTargets {n : ℕ} : Grows SubmitFrame.clockCalls (copyTargets n) := by
  refine SubmitFrame.grows_allocation grows_allocateArray (fun _ _ => by rfl) fun _ => ?_
  refine grows_get.bind fun _ => ?_
  exact grows_ofResult.bind fun _ => grows_modify fun _ => le_rfl

lemma grows_fillRequest {length slot : UInt64} {n : ℕ} :
    Grows SubmitFrame.clockCalls (fillRequest length slot n) := by
  refine SubmitFrame.grows_allocation grows_allocateArray (fun _ _ => by rfl) fun _ => ?_
  refine grows_get.bind fun _ => ?_
  refine grows_require.bind fun _ => ?_
  exact Grows.bind (grows_modify fun _ => le_rfl) fun _ => grows_pure

lemma grows_submitPrepare {bytes : Bytes} {length slot : UInt64} {policy : SubmissionPolicy}
    {n : ℕ} : Grows SubmitFrame.clockCalls (submitPrepare bytes length policy slot n) :=
  grows_resolveCandidates.bind fun _ => grows_selectRoutes.bind fun _ =>
    grows_copyTransaction.bind fun _ => grows_copyTargets.bind fun _ => grows_fillRequest

/-- A commit reads the clock once it is past the check of the queue capacity. -/
lemma ensures_submitCommit_clockCalls {id : UInt64} {f : SubmitFrame} :
    Ensures (submitCommit id) f (fun _ g => f.clockCalls + 1 ≤ g.clockCalls)
      fun _ g => f.clockCalls ≤ g.clockCalls ∧
        (eventQueueHasCapacity (some f.client) = true → f.clockCalls + 1 ≤ g.clockCalls) := by
  refine ensures_bind.mpr (ensures_get.mpr (ensures_bind.mpr (ensures_require.mpr
    ⟨fun _ => ?_, fun hfull => ⟨le_rfl, fun hroom => absurd hroom hfull⟩⟩)))
  refine Ensures.mono (E := fun _ g => f.clockCalls + 1 ≤ g.clockCalls) ?_ (fun _ _ h => h)
    fun _ _ h => ⟨(Nat.le_succ _).trans h, fun _ => h⟩
  refine ensures_bind.mpr (ensures_zoom.mpr
    (World.ensures_monotonicTime_clockCalls.mono (fun _ w' hw' => ?_) fun _ _ hw' => hw'.ge))
  refine Grows.ensures ?_ (show f.clockCalls + 1 ≤ ({ f with world := w' } : SubmitFrame).clockCalls
    from hw'.ge)
  refine grows_require.bind fun _ => grows_ofResult.bind fun _ => ?_
  refine Grows.bind (grows_modify fun _ => le_rfl) fun _ => ?_
  exact Grows.bind (grows_modify fun _ => le_rfl) fun _ => grows_pure

lemma grows_submitCommit {id : UInt64} : Grows SubmitFrame.clockCalls (submitCommit id) :=
  fun _ => ensures_submitCommit_clockCalls.mono (fun _ _ h => (Nat.le_succ _).trans h)
    fun _ _ h => h.1

/-- The cleanup does not read the clock. -/
lemma submitCleanup_clockCalls (status : Status) (f : SubmitFrame) :
    (submitCleanup status f).clockCalls = f.clockCalls := by
  rw [submitCleanup]
  split_ifs <;> rfl

/-- What a body has read is still read when its frame is left. -/
lemma ensures_withSubmitFrame_clockCalls {body : EStateM Status SubmitFrame UInt64} {s : CallState}
    {k : ℕ} (h : Ensures body (SubmitFrame.enter s) (fun _ f => k ≤ f.clockCalls)
      fun _ f => k ≤ f.clockCalls) :
    Ensures (withSubmitFrame body) s (fun _ t => k ≤ t.clockCalls) fun _ t => k ≤ t.clockCalls := by
  rcases h.cases with ⟨id, f, hbody, hk⟩ | ⟨e, f, hbody, hk⟩
  · exact ensures_of_ok (withSubmitFrame_of_ok hbody)
      ((submitCleanup_clockCalls _ f).ge.trans' hk)
  · exact ensures_of_error (withSubmitFrame_of_error hbody)
      ((submitCleanup_clockCalls _ f).ge.trans' hk)

/-! ### Installations -/

lemma ownedTopologyRelease_clockCalls (allocator : Allocator) (o : OwnedTopology) (w : World) :
    (ownedTopologyRelease allocator o w).clockCalls = w.clockCalls := by
  rw [ownedTopologyRelease]
  split_ifs <;> rfl

/-- A successful installation takes one reading. -/
lemma ensures_installTopology_clockCalls {c : Client} {topology : Option (Ref CallerTopology)}
    {w : World} {M : Multiset ℕ} (hvalid : allocatorIsValid (some c.allocator) = true)
    (hM : w.ledger.Owns (c.blocks + M)) :
    Ensures (installTopology topology) ⟨c, w⟩ (fun _ s => s.clockCalls = w.clockCalls + 1)
      fun _ _ => True := by
  cases topology with
  | none => exact trivial
  | some r =>
      refine ensures_bind.mpr (ensures_ofResult (fun _ _ => ?_) fun _ _ => trivial)
      refine ensures_bind.mpr (ensures_get.mpr (ensures_bind.mpr (ensures_require.mpr
        ⟨fun _ => ?_, fun _ => trivial⟩)))
      refine ensures_bind.mpr (ensures_zoom.mpr
        ((ensures_buildOwnedTopology hvalid hM).mono ?_ fun _ _ _ => trivial))
      rintro o w₁ ⟨halloc, -, -⟩
      refine ensures_bind.mpr (ensures_zoom.mpr ?_)
      by_cases hclock : (w₁.answers.clock w₁.clockCalls).status = Status.ok
      · refine ensures_of_ok (t := w₁.clockRead)
          (by rw [receiptTime, World.monotonicTime_of_ok hclock]) ?_
        have hrelease : ∀ o' : OwnedTopology, (ownedTopologyRelease c.allocator o'
            w₁.clockRead).clockCalls = w₁.clockCalls + 1 := fun o' =>
          ownedTopologyRelease_clockCalls _ _ _
        exact ensures_modify.mpr ((hrelease _).trans (congrArg (· + 1) halloc.clockCalls))
      · exact ensures_of_error (t := ownedTopologyRelease c.allocator o w₁.clockRead)
          (by rw [receiptTime, World.monotonicTime_of_ne hclock]) trivial

/-- An installation call that returns `OK` takes one reading. -/
lemma clientInstallTopology_clockCalls {c : Client} {topology : Option (Ref CallerTopology)}
    {w : World} {M : Multiset ℕ} (hvalid : allocatorIsValid (some c.allocator) = true)
    (hM : w.ledger.Owns (c.blocks + M))
    (hok : (clientInstallTopology (some c) topology w).status = Status.ok) :
    (clientInstallTopology (some c) topology w).world.clockCalls = w.clockCalls + 1 := by
  have hreadings : Ensures (installTopology topology) ⟨c, w⟩ _ _ :=
    ensures_installTopology_clockCalls hvalid hM
  have hspec : Ensures (installTopology topology) ⟨c, w⟩ _ _ := ensures_installTopology hvalid hM
  rcases hspec.cases with ⟨u, s, hres, -⟩ | ⟨e, s, hres, hfail, -⟩
  · rw [Ensures, hres] at hreadings
    simp only [clientInstallTopology, callOnClient, hres]
    exact hreadings
  · simp only [clientInstallTopology, callOnClient, hres] at hok
    exact absurd hok hfail.ne_ok

/-- A call that installs a topology takes a reading. -/
lemma clockReadings_pos_of_installed {s : State} (hs : s.WellFormed) {op : Op}
    {t : Ref CallerTopology} (hi : installedBy op (step s op).1 = some t) :
    0 < clockReadings s op := by
  have hself : ∀ (topology : Option (Ref CallerTopology)) (answers : Answers),
      (clientInstallTopology (some s.client.data) topology
        (World.start answers s.ledger)).status = Status.ok →
      0 < (clientInstallTopology (some s.client.data) topology
        (World.start answers s.ledger)).world.clockCalls := by
    intro topology answers hok
    rw [clientInstallTopology_clockCalls hs.allocator hs.owns hok]
    exact Nat.succ_pos _
  cases op with
  | installTopology handle topology answers =>
      obtain ⟨hok, -⟩ := Option.ite_none_right_eq_some.mp hi
      cases handle with
      | null => exact absurd hok Status.invalidArgument_ne_ok
      | self => exact hself topology answers hok
  | refreshTopology handle provider acquired answers =>
      obtain ⟨hok, -⟩ := Option.ite_none_right_eq_some.mp hi
      have h := clientRefreshTopology_cases (s.behind handle) provider acquired
        (World.start answers s.ledger)
      simp only [clockReadings]
      generalize clientRefreshTopology (s.behind handle) provider acquired
        (World.start answers s.ledger) = r at h hok
      obtain ⟨r, calls⟩ := r
      cases h with
      | stopped _ hne => exact absurd hok hne
      | @attempted topology _ _ =>
          cases handle with
          | null => exact absurd hok Status.invalidArgument_ne_ok
          | self => exact hself _ answers hok
  | submit handle transactionBytes transactionLength options outRequestId answers =>
      exact absurd hi (by simp [installedBy])
  | pollEvents handle events eventCapacity eventStride outEventCount =>
      exact absurd hi (by simp [installedBy])

/-! ### Submissions -/

section Submit

variable {c : Client} {S : Snapshot} {answers : Answers} {ledger : Ledger} {bytes : Bytes}
  {length : UInt64} {options : Option (Ref SubmitOptions)} {outRequestId : Option (Ref UInt64)}
  {policy : SubmissionPolicy}

/-- Options that are accepted hold in all their stages and ask for the policy they are turned
into. -/
lemma validateSubmitOptions_eq_ok (h : validateSubmitOptions options = .ok policy) :
    policy = policyOf options ∧ policy.maxTopologyAgeNs ≠ 0 ∧ policy.targetLimit ≠ 0 ∧
      firstFailure (optionStages options) = none := by
  have hd := decides_validateSubmitOptions options ⟨Client.zero, World.start ⟨fun _ => none,
    fun _ => ⟨0, 0⟩⟩ Ledger.empty⟩
  rw [h] at hd
  obtain ⟨hnone, hpolicy, hage, hlimit, -⟩ := hd
  exact ⟨hpolicy, hage, hlimit, hnone⟩

/-- An admission to a client with a topology reads the clock. -/
lemma ensures_evaluateSubmissionPolicy_clockCalls {w : World} (hage : policy.maxTopologyAgeNs ≠ 0)
    (hlimit : policy.targetLimit ≠ 0) (htop : c.hasTopology = true) :
    Ensures (evaluateSubmissionPolicy (some c) (some policy)) w
      (fun _ w' => w.clockCalls + 1 ≤ w'.clockCalls) fun _ w' => w.clockCalls + 1 ≤ w'.clockCalls := by
  refine ensures_bind.mpr (ensures_require.mpr ⟨fun _ => ?_, fun h => absurd (not_or.mpr
    ⟨hage, hlimit⟩) h⟩)
  refine ensures_bind.mpr (ensures_require.mpr ⟨fun _ => ?_, fun h => absurd htop h⟩)
  refine ensures_bind.mpr (World.ensures_monotonicTime_clockCalls.mono (fun _ w' hw' => ?_)
    fun _ _ hw' => hw'.ge)
  exact Grows.ensures (grows_require.bind fun _ => grows_require) hw'.ge

/-- A submission whose options are accepted reads the clock if there is a topology. -/
lemma ensures_submitEntry_clockCalls (hoptions : validateSubmitOptions options = .ok policy)
    (htop : c.hasTopology = true) :
    Ensures (submitEntry options) ⟨c, World.start answers ledger⟩ (fun _ t => 1 ≤ t.clockCalls)
      fun _ t => 1 ≤ t.clockCalls := by
  obtain ⟨-, hage, hlimit, -⟩ := validateSubmitOptions_eq_ok hoptions
  rw [submitEntry]
  rw [hoptions]
  refine ensures_bind.mpr (ensures_bind.mpr (ensures_bind.mpr (ensures_zoom.mpr
    ((ensures_evaluateSubmissionPolicy_clockCalls hage hlimit htop).mono (fun _ w hw => ?_)
      fun _ _ hw => hw))))
  refine Grows.ensures ?_ (show 1 ≤ CallState.clockCalls ⟨c, w⟩ from hw)
  exact grows_require.bind fun _ => grows_require.bind fun _ => grows_pure

lemma ensures_submit_one_le (hoptions : validateSubmitOptions options = .ok policy)
    (htop : c.hasTopology = true) :
    Ensures (submit bytes length options) ⟨c, World.start answers ledger⟩
      (fun _ t => 1 ≤ t.clockCalls) fun _ t => 1 ≤ t.clockCalls := by
  refine Ensures.bind (ensures_submitEntry_clockCalls hoptions htop) (fun _ t ht => ?_)
    fun _ _ h => h
  refine ensures_withSubmitFrame_clockCalls (Grows.ensures ?_ ht)
  exact grows_submitPrepare.bind fun _ => grows_submitCommit

/-- A submission that comes past the check of the queue capacity reads the clock twice. -/
lemma ensures_submit_two_le (hS : c.topology.Represents S) (hlength : length ≠ 0)
    (hentry : firstFailure (optionStages options ++ (admissionStages c
      (policyOf options).maxTopologyAgeNs (answers.clock 0) ++ [routingStage S])) = none)
    (hprepare : firstFailure (allocationStages answers (S.resolution S.currentSlot).length
      (S.plan S.currentSlot (policyOf options).targetLimit).length length ++ [identifierStage c])
        = none)
    (hroom : eventQueueHasCapacity (some c) = true) {M : Multiset ℕ} (hM : ledger.Owns M) :
    Ensures (submit bytes length options) ⟨c, World.start answers ledger⟩
      (fun _ t => 2 ≤ t.clockCalls) fun _ t => 2 ≤ t.clockCalls := by
  refine (decides_submitEntry hS).ensures_bind hentry ?_
  rintro - t ⟨rfl, hlimit, htop, hr, rfl⟩
  refine ensures_withSubmitFrame_clockCalls ?_
  refine (decides_submitPrepare htop hS hr hlength hlimit rfl rfl hM).ensures_bind hprepare ?_
  rintro id f ⟨-, -, hf⟩
  have hone : f.clockCalls = 1 := hf.progress.clockCalls
  have hcommit : Ensures (submitCommit id) f _ _ := ensures_submitCommit_clockCalls
  rw [hone, hf.progress.client] at hcommit
  exact hcommit.mono (fun _ _ h => h) fun _ _ h => h.2 hroom

/-- What a submission past its pointer checks has read, the call has read. -/
lemma le_clientSubmit_clockCalls {k : ℕ} (hout : pointerIsAlignedFor outRequestId 8 = true)
    (hlength : length ≠ 0)
    (h : Ensures (submit bytes length options) ⟨c, World.start answers ledger⟩
      (fun _ t => k ≤ t.clockCalls) fun _ t => k ≤ t.clockCalls) :
    k ≤ (clientSubmit (some c) (some bytes) length options outRequestId
      (World.start answers ledger)).world.clockCalls := by
  simp only [clientSubmit, hout, hlength, Bool.true_eq_false, if_false]
  rcases h.cases with ⟨id, t, hres, hk⟩ | ⟨e, t, hres, hk⟩
  · rw [hres]
    exact hk
  · rw [hres]
    exact hk

end Submit

end SolanaTpuClient
