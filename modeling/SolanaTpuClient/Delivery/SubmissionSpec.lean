import SolanaTpuClient.Delivery.Submission

/-!
What a submission decides and does.

Every part of the body has one lemma: the stages it goes through and the frame it leaves. They
compose to `decides_submit`: a submission fails as the first stage of `submitStages` that does not
hold and then leaves the client as it was, or it passes them all and prepends the accepted request.
None of its checks for inconsistency is a stage: on a client whose topology represents a snapshot
they hold.
-/

namespace SolanaTpuClient

open ByteMemory OutputBuffer FirstOccurrence Procedure

/-! ### Allocation -/

/-- The stage the `k`-th allocation of a call is. -/
def allocationStage (answers : Answers) (k count elementSize : ℕ) : Bool × Status :=
  (decide (count ≤ sizeMax wordBits / elementSize) && (answers.calloc k).isSome,
    Status.resourceExhausted)

variable {α : Type} {w : World} {M : Multiset ℕ} {count elementSize : ℕ}

/-- `allocate_array` returns a new block, or fails and has allocated nothing. -/
lemma decides_allocateArray {data : α} (hsize : elementSize ≠ 0) (hcount : count ≠ 0)
    (hM : w.ledger.Owns M) :
    Decides (allocateArray count elementSize data) w
      [allocationStage w.answers w.callocCalls count elementSize]
      (fun p w' => ∃ b, p = some b ∧ b.data = data ∧ w.Allocated w' 1 ∧
        w'.ledger.Owns (b.id ::ₘ M))
      (fun w' => w'.ledger.Owns M) := by
  refine decides_require_of hsize ?_
  rw [if_neg hcount]
  by_cases hfits : count ≤ sizeMax wordBits / elementSize
  · refine decides_require_of (not_lt.mpr hfits) ?_
    cases hw : w.answers.calloc w.callocCalls with
    | none =>
        refine ensures_bind.mpr (ensures_of_ok (World.calloc_of_none hw) ?_)
        exact ⟨by simp [allocationStage, hw], hM⟩
    | some addr =>
        refine ensures_bind.mpr (ensures_of_ok (World.calloc_of_some hw) ?_)
        refine ⟨by simp [allocationStage, hw, hfits], _, rfl, rfl,
          World.allocated_callocDone (by simp [hw]), hM.alloc⟩
  · refine ensures_bind.mpr (ensures_of_error (require_of_not (by simpa using hfits)) ?_)
    exact ⟨by simp [allocationStage, hfits], hM⟩

/-! ### The frame between allocations -/

namespace SubmitFrame

/-- The pointers `cleanup` frees after a failure, in order. -/
def pointers (f : SubmitFrame) : List (Option ℕ) :=
  [Block.idOf f.candidates, Block.idOf f.routes, Block.idOf f.transactionCopy,
    Block.idOf f.ownedTargets, Block.idOf f.request]

/-- The blocks the frame refers to. -/
def blocks (f : SubmitFrame) : Multiset ℕ := Ledger.blocksOfAll f.pointers

/-- The frame of a body that has made `n` allocations and has not touched the client. -/
structure Progress (c : Client) (answers : Answers) (M : Multiset ℕ) (n : ℕ) (f : SubmitFrame) :
    Prop where
  client : f.client = c
  answers : f.world.answers = answers
  callocCalls : f.world.callocCalls = n
  clockCalls : f.world.clockCalls = 1
  owns : f.world.ledger.Owns (f.blocks + M)

/-- The frame a failed body leaves for the cleanup. -/
def Rejected (c : Client) (M : Multiset ℕ) (f : SubmitFrame) : Prop :=
  f.client = c ∧ f.world.ledger.Owns (f.blocks + M)

variable {c : Client} {answers : Answers} {n : ℕ} {f : SubmitFrame}

lemma Progress.rejected (h : f.Progress c answers M n) : f.Rejected c M := ⟨h.client, h.owns⟩

/-- Writing to the blocks of a frame makes no progress and undoes none. -/
lemma Progress.congr {g : SubmitFrame} (h : f.Progress c answers M n) (hclient : g.client = f.client)
    (hworld : g.world = f.world) (hpointers : g.pointers = f.pointers) :
    g.Progress c answers M n where
  client := hclient.trans h.client
  answers := hworld ▸ h.answers
  callocCalls := hworld ▸ h.callocCalls
  clockCalls := hworld ▸ h.clockCalls
  owns := by
    rw [hworld, blocks, hpointers]
    exact h.owns

end SubmitFrame

open SubmitFrame

variable {c : Client} {answers : Answers} {n : ℕ} {f : SubmitFrame}

/-- An allocation into a local pointer that was null. -/
lemma decides_allocate {β : Type} {data : α} {rest : EStateM Status SubmitFrame β}
    {stages : List (Bool × Status)} {Q : β → SubmitFrame → Prop} (hsize : elementSize ≠ 0)
    (hcount : count ≠ 0) (hf : f.Progress c answers M n)
    (put : Option (Block α) → SubmitFrame → SubmitFrame)
    (hclient : ∀ p w', (put p { f with world := w' }).client = f.client)
    (hworld : ∀ p w', (put p { f with world := w' }).world = w') {i : ℕ}
    (hnull : f.pointers[i]? = some none)
    (hpointers : ∀ b w', (put (some b) { f with world := w' }).pointers
      = f.pointers.set i (some b.id))
    (hrest : ∀ (b : Block α) w', b.data = data →
      (put (some b) { f with world := w' }).Progress c answers M (n + 1) →
      Decides rest (put (some b) { f with world := w' }) stages Q (Rejected c M)) :
    Decides (do
        let p ← SubmitFrame.onWorld (allocateArray count elementSize data)
        modify (put p)
        rest) f (allocationStage answers n count elementSize :: stages) Q (Rejected c M) := by
  have hstage : Decides (allocateArray count elementSize data) f.world _ _ _ :=
    decides_allocateArray hsize hcount hf.owns
  rw [hf.answers, hf.callocCalls] at hstage
  refine Decides.bind (l := [_])
    (decides_zoom (Q := fun p g => ∃ b w', p = some b ∧ b.data = data ∧ g = { f with world := w' } ∧
      f.world.Allocated w' 1 ∧ w'.ledger.Owns (b.id ::ₘ (f.blocks + M)))
      (F := Rejected c M) hstage ?_ ?_) ?_
  · rintro p w' ⟨b, rfl, hdata, halloc, howns⟩
    exact ⟨b, w', rfl, hdata, rfl, halloc, howns⟩
  · intro w' howns
    exact ⟨hf.client, howns⟩
  · rintro p g ⟨b, w', rfl, hdata, rfl, halloc, howns⟩
    refine decides_modify_bind (hrest b w' hdata ⟨?_, ?_, ?_, ?_, ?_⟩)
    · rw [hclient, hf.client]
    · rw [hworld, halloc.answers, hf.answers]
    · rw [hworld, halloc.callocCalls, hf.callocCalls]
    · rw [hworld, halloc.clockCalls, hf.clockCalls]
    · rw [hworld, SubmitFrame.blocks, hpointers, Ledger.blocksOfAll_set hnull, add_assoc]
      exact howns

/-! ### The parts of the body -/

variable {S : Snapshot} {slot : UInt64} {limit : ℕ}

/-- The sizing call of the resolver. -/
lemma resolveSlot_sizing (htop : c.hasTopology = true) (hS : c.topology.Represents S)
    (hr : S.Routable slot) :
    resolveSlot (some c) slot none 0 (some 0)
      = ⟨Status.resourceExhausted, some (S.resolution slot).length, none⟩ :=
  resolveSlot_of_short htop hS hr (Or.inl rfl)
    (List.length_pos_iff.mpr (Snapshot.resolution_ne_nil.mpr hr))

/-- The call of the resolver on an array of the size it asked for. -/
lemma resolveSlot_filling (htop : c.hasTopology = true) (hS : c.topology.Represents S)
    (hr : S.Routable slot) {buffer : List TopologyCandidate}
    (hlen : buffer.length = (S.resolution slot).length) :
    resolveSlot (some c) slot (some buffer) (S.resolution slot).length (some 0)
      = ⟨Status.ok, some (S.resolution slot).length, some (S.resolution slot)⟩ := by
  rw [resolveSlot_of_room htop hS hr le_rfl hlen.ge, patch_eq_self hlen.symm]

lemma selectedCount_resolution :
    selectedCount (S.resolution slot) limit = (S.plan slot limit).length := by
  rw [selectedCount, Snapshot.plan, List.length_take, min_comm]

/-- The sizing call of the planner. -/
lemma planRoutes_sizing (hr : S.Routable slot) (hlimit : limit ≠ 0) :
    planRoutes (some (S.resolution slot)) (S.resolution slot).length limit none 0 (some 0) (some 0)
      = ⟨Status.resourceExhausted, some (S.plan slot limit).length,
          some (firstsBy TopologyCandidate.target (S.resolution slot)).length, none⟩ := by
  have hne := Snapshot.resolution_ne_nil.mpr hr
  rw [planRoutes_of_short hne hlimit (Or.inl rfl) (selectedCount_pos hne hlimit),
    selectedCount_resolution]

/-- The call of the planner on an array of the size it asked for. -/
lemma planRoutes_filling (hr : S.Routable slot) (hlimit : limit ≠ 0) {buffer : List RouteTarget}
    (hlen : buffer.length = (S.plan slot limit).length) :
    planRoutes (some (S.resolution slot)) (S.resolution slot).length limit (some buffer)
        (S.plan slot limit).length (some 0) (some 0)
      = ⟨Status.ok, some (S.plan slot limit).length,
          some (firstsBy TopologyCandidate.target (S.resolution slot)).length,
          some ((S.plan slot limit).map TopologyCandidate.route)⟩ := by
  rw [planRoutes_of_room (Snapshot.resolution_ne_nil.mpr hr) hlimit selectedCount_resolution.le
    hlen.ge, selectedCount_resolution]
  congr 2
  exact patch_eq_self (by rw [List.length_map, hlen, Snapshot.plan])

lemma plan_length_ne_zero (hr : S.Routable slot) (hlimit : limit ≠ 0) :
    (S.plan slot limit).length ≠ 0 :=
  mt List.eq_nil_of_length_eq_zero (Snapshot.plan_ne_nil hlimit hr)

lemma plan_length_le :
    (S.plan slot limit).length
      ≤ (firstsBy TopologyCandidate.target (S.resolution slot)).length := by
  rw [Snapshot.plan, List.length_take]
  exact min_le_right _ _

/-- The candidates are resolved into a new array that they fill. -/
lemma decides_resolveCandidates (htop : c.hasTopology = true) (hS : c.topology.Represents S)
    (hr : S.Routable slot) (hf : f.Progress c answers M 0) (hnull : f.candidates = none) :
    Decides (resolveCandidates slot (S.resolution slot).length) f
      [allocationStage answers 0 (S.resolution slot).length TopologyCandidate.size]
      (fun _ g => g.Progress c answers M 1 ∧
        ∃ b w', b.data = S.resolution slot ∧ g = { f with candidates := some b, world := w' })
      (Rejected c M) := by
  have hne : (S.resolution slot).length ≠ 0 :=
    mt List.eq_nil_of_length_eq_zero (Snapshot.resolution_ne_nil.mpr hr)
  refine decides_allocate (by decide) hne hf (fun p f => { f with candidates := p })
    (fun _ _ => rfl) (fun _ _ => rfl) (i := 0) (by simp [pointers, hnull]) (fun _ _ => rfl)
    fun b w' hdata hg => ?_
  have hfill : resolveSlot (some f.client) slot (some b.data) (S.resolution slot).length (some 0)
      = ⟨Status.ok, some (S.resolution slot).length, some (S.resolution slot)⟩ := by
    rw [hf.client]
    exact resolveSlot_filling htop hS hr (by rw [hdata, List.length_replicate])
  refine decides_get_bind (decides_modify_bind ?_)
  refine decides_require_of (congrArg ResolveResult.status hfill) ?_
  refine ensures_of_ok (require_of (congrArg (fun r => r.outCount.getD 0) hfill))
    ⟨rfl, ?_, { b with data := S.resolution slot }, w', rfl, ?_⟩
  · exact hg.congr rfl rfl rfl
  · exact congrArg (fun r => { f with candidates := Block.store (some b) r.candidates, world := w' })
      hfill

/-- The routes are planned into a new array that they fill. -/
lemma decides_selectRoutes (hr : S.Routable slot) (hlimit : limit ≠ 0)
    (hf : f.Progress c answers M n) (hnull : f.routes = none)
    {candidates : Block (List TopologyCandidate)} (hcand : f.candidates = some candidates)
    (hdata : candidates.data = S.resolution slot) :
    Decides (selectRoutes (S.resolution slot).length limit) f
      [allocationStage answers n (S.plan slot limit).length RouteTarget.size]
      (fun targetCount g => targetCount = (S.plan slot limit).length ∧
        g.Progress c answers M (n + 1) ∧
        ∃ b w', b.data = (S.plan slot limit).map TopologyCandidate.route ∧
          g = { f with routes := some b, world := w' })
      (Rejected c M) := by
  have hpos := plan_length_ne_zero hr hlimit
  have hsizing := planRoutes_sizing hr hlimit
  have hread : Block.dataOf f.candidates = some (S.resolution slot) := by
    rw [hcand, Block.dataOf_some, hdata]
  rw [← hread] at hsizing
  refine decides_get_bind ?_
  rw [hsizing]
  refine decides_require_of rfl (decides_require_of (not_or.mpr ⟨hpos, not_lt.mpr plan_length_le⟩) ?_)
  refine decides_allocate (by decide) hpos hf (fun p f => { f with routes := p })
    (fun _ _ => rfl) (fun _ _ => rfl) (i := 1) (by simp [pointers, hnull]) (fun _ _ => rfl)
    fun b w' hb hg => ?_
  have hlen : b.data.length = (S.plan slot limit).length := by
    rw [hb, List.length_replicate]
    rfl
  have hfill := planRoutes_filling hr hlimit hlen
  rw [← hread] at hfill
  refine decides_get_bind (decides_modify_bind ?_)
  refine decides_require_of (congrArg PlanResult.status hfill) (decides_require_of ?_ (decides_pure
    ⟨rfl, ?_, { b with data := (S.plan slot limit).map TopologyCandidate.route }, w', rfl, ?_⟩))
  · have htargets := congrArg (fun r => r.outTargetCount.getD 0) hfill
    have hunique := congrArg (fun r => r.outUniqueTargetCount.getD 0) hfill
    exact not_or.mpr ⟨not_not.mpr htargets, not_not.mpr hunique⟩
  · exact hg.congr rfl rfl rfl
  · exact congrArg (fun r => { f with routes := Block.store (some b) r.targets, world := w' }) hfill

/-- The transaction is copied into a new block. -/
lemma decides_copyTransaction {bytes : Bytes} {length : UInt64} (hlength : length ≠ 0)
    (hf : f.Progress c answers M n) (hnull : f.transactionCopy = none) :
    Decides (copyTransaction bytes length) f [allocationStage answers n 1 length.toNat]
      (fun _ g => g.Progress c answers M (n + 1) ∧
        ∃ b w', b.data = slice bytes 0 length.toNat ∧
          g = { f with transactionCopy := some b, world := w' })
      (Rejected c M) := by
  have hsize : length.toNat ≠ 0 := fun h => hlength (UInt64.toNat_inj.mp h)
  refine decides_allocate hsize one_ne_zero hf (fun p f => { f with transactionCopy := p })
    (fun _ _ => rfl) (fun _ _ => rfl) (i := 2) (by simp [pointers, hnull]) (fun _ _ => rfl)
    fun b w' hdata hg => ?_
  refine ensures_modify.mpr ⟨rfl, ?_, _, w', rfl, rfl⟩
  exact hg.congr rfl rfl rfl

/-- A round of the materialization looks the target of its route up. -/
lemma materializeRound_eq (hS : c.topology.Represents S) {routes : List RouteTarget} {i : ℕ}
    {p : TopologyCandidate} (hroute : routes[i]? = some p.route) (hp : p ∈ S.resolution slot)
    {t : OwnedRequestTarget} (ht : S.target? p = some t) (l : List OwnedRequestTarget) :
    materializeRound c routes l i = .ok (l.set i t) := by
  obtain ⟨hl, hv, he⟩ := Snapshot.lt_of_mem_resolution hp
  have hget : routes.getD i RouteTarget.zero = p.route := by
    rw [List.getD_eq_getElem?_getD, hroute, Option.getD_some]
  have hbounds : ¬(p.leaderIndex ≥ c.topology.view.leaderCount ∨
      p.validatorIndex ≥ c.topology.view.validatorCount ∨
      p.endpointIndex ≥ c.topology.view.endpointCount) := by
    simp only [ge_iff_le, not_or, UInt32.not_le, UInt32.lt_iff_toNat_lt, hS.leaderCount,
      hS.validatorCount, hS.endpointCount]
    exact ⟨hl, hv, he⟩
  rw [Snapshot.target?_of_lt hv he, Option.some.injEq] at ht
  simp only [materializeRound, hget, TopologyCandidate.route]
  rw [if_neg hbounds, ← ht, hS.validator hv, hS.endpoint he]

/-- The materialization of a plan fills the array with its targets. -/
lemma materializeTargets_eq (hS : c.topology.Represents S) (hne : S.plan slot limit ≠ [])
    {buffer : List OwnedRequestTarget} (hlen : buffer.length = (S.plan slot limit).length) :
    materializeTargets c (some ((S.plan slot limit).map TopologyCandidate.route))
      (S.plan slot limit).length (some buffer) = .ok (S.targets slot limit) := by
  have hmap : (S.targets slot limit).map some = (S.plan slot limit).map S.target? :=
    S.targets_map_some slot limit
  have htargets := S.targets_length slot limit
  -- after `k` rounds the first `k` targets stand in front of the rest of the array
  have hloop : ∀ k ≤ (S.plan slot limit).length,
      (List.range k).foldlM (materializeRound c ((S.plan slot limit).map TopologyCandidate.route))
        buffer = .ok (patch ((S.targets slot limit).take k) buffer) := by
    intro k
    induction k with
    | zero => intro _; rfl
    | succ k ih =>
        intro hk
        have hlast : (S.targets slot limit)[k]? = some ((S.targets slot limit)[k]) :=
          List.getElem?_eq_getElem (by omega)
        have htarget : S.target? (S.plan slot limit)[k] = some (S.targets slot limit)[k] := by
          have h := List.getElem_of_eq hmap (i := k) (by simpa using by omega)
          simpa using h.symm
        have hroute : ((S.plan slot limit).map TopologyCandidate.route)[k]?
            = some (S.plan slot limit)[k].route := by
          rw [List.getElem?_map, List.getElem?_eq_getElem hk, Option.map_some]
        have hround := materializeRound_eq hS hroute
          (Snapshot.mem_resolution_of_mem_plan (List.getElem_mem hk)) htarget
        have hdone : ((S.targets slot limit).take k).length = k := by
          rw [List.length_take]
          omega
        have hroom : ((S.targets slot limit).take k).length < buffer.length := by omega
        have hset := patch_set hroom (S.targets slot limit)[k]
        rw [hdone] at hset
        rw [List.range_succ, List.foldlM_append, ih (by omega)]
        simp only [bind, Except.bind, List.foldlM_cons, hround, hset, List.foldlM_nil, pure,
          Except.pure, List.take_concat_get' _ _ (by omega : k < (S.targets slot limit).length)]
  have hcount : (S.plan slot limit).length ≠ 0 := mt List.eq_nil_of_length_eq_zero hne
  have h := hloop _ le_rfl
  rw [← htargets, List.take_length, patch_eq_self (htargets.trans hlen.symm)] at h
  rw [materializeTargets, if_neg hcount, ← htargets, h]

/-- The targets are materialized into a new array. -/
lemma decides_copyTargets (hS : c.topology.Represents S) (hne : S.plan slot limit ≠ [])
    (hf : f.Progress c answers M n) (hnull : f.ownedTargets = none) {routes : Block (List RouteTarget)}
    (hroutes : f.routes = some routes)
    (hdata : routes.data = (S.plan slot limit).map TopologyCandidate.route) :
    Decides (copyTargets (S.plan slot limit).length) f
      [allocationStage answers n (S.plan slot limit).length OwnedRequestTarget.size]
      (fun _ g => g.Progress c answers M (n + 1) ∧
        ∃ b w', b.data = S.targets slot limit ∧ g = { f with ownedTargets := some b, world := w' })
      (Rejected c M) := by
  have hcount : (S.plan slot limit).length ≠ 0 := mt List.eq_nil_of_length_eq_zero hne
  refine decides_allocate (by decide) hcount hf (fun p f => { f with ownedTargets := p })
    (fun _ _ => rfl) (fun _ _ => rfl) (i := 3) (by simp [pointers, hnull]) (fun _ _ => rfl)
    fun b w' hb hg => ?_
  have hread : Block.dataOf f.routes = some ((S.plan slot limit).map TopologyCandidate.route) := by
    rw [hroutes, Block.dataOf_some, hdata]
  have hmaterialize : materializeTargets f.client (Block.dataOf f.routes)
      (S.plan slot limit).length (some b.data) = .ok (S.targets slot limit) := by
    rw [hf.client, hread]
    exact materializeTargets_eq hS hne (by rw [hb, List.length_replicate])
  refine decides_get_bind (decides_ofResult_of hmaterialize ?_)
  refine ensures_modify.mpr ⟨rfl, ?_, _, w', rfl, rfl⟩
  exact hg.congr rfl rfl rfl

/-- The record is filled into a new block, if there is an identifier left. -/
lemma decides_fillRequest {length : UInt64} {targetCount : ℕ} (hf : f.Progress c answers M n)
    (hnull : f.request = none) :
    Decides (fillRequest length slot targetCount) f
      [allocationStage answers n 1 OwnedRequest.size,
        (c.nextRequestId != requestIdNone, Status.resourceExhausted)]
      (fun id g => id = c.nextRequestId ∧ id ≠ requestIdNone ∧ g.Progress c answers M (n + 1) ∧
        ∃ b w', b.data = acceptedRequest f length slot targetCount ∧
          g = { f with request := some b, next := c.requestHead, world := w' })
      (Rejected c M) := by
  obtain rfl := hf.client
  refine decides_allocate (by decide) one_ne_zero hf (fun p f => { f with request := p })
    (fun _ _ => rfl) (fun _ _ => rfl) (i := 4) (by simp [pointers, hnull]) (fun _ _ => rfl)
    fun b w' hdata hg => ?_
  refine decides_get_bind (decides_require_bind ?_ (fun _ => hg.rejected) fun hid => ?_)
  · simp
  · refine decides_modify_bind (decides_pure ⟨rfl, hid, ?_,
      { b with data := acceptedRequest f length slot targetCount }, w', rfl, rfl⟩)
    exact hg.congr rfl rfl rfl

/-! ### The two halves of the body -/

/-- The record of an accepted request: the transaction `bytes` routed by the snapshot `S` with at
most `limit` targets. -/
structure OwnedRequest.Records (r : OwnedRequest) (S : Snapshot) (id : UInt64) (bytes : Bytes)
    (length : UInt64) (limit : ℕ) : Prop where
  requestId : r.requestId = id
  topologyGeneration : r.topologyGeneration = S.generation
  routingSlot : r.routingSlot = S.currentSlot
  transactionBytes : Block.dataOf r.transactionBytes = some (slice bytes 0 length.toNat)
  transactionLength : r.transactionLength = length
  targets : Block.dataOf r.targets = some (S.targets S.currentSlot limit)
  targetCount : r.targetCount = (S.plan S.currentSlot limit).length
  state : r.state = requestStateAccepted
  nextEventSequence : r.nextEventSequence = 2

/-- The frame of a body that has come to the check of the queue capacity. -/
structure SubmitFrame.Prepared (c : Client) (answers : Answers) (M : Multiset ℕ) (S : Snapshot)
    (bytes : Bytes) (length : UInt64) (limit : ℕ) (f : SubmitFrame) : Prop where
  progress : f.Progress c answers M 5
  next : f.next = c.requestHead
  request : ∃ r, f.request = some r ∧ r.data.Records S c.nextRequestId bytes length limit ∧
    r.data.transactionBytes = f.transactionCopy ∧ r.data.targets = f.ownedTargets

/-- The stages of the five allocations. -/
def allocationStages (answers : Answers) (candidateCount targetCount : ℕ) (length : UInt64) :
    List (Bool × Status) :=
  [allocationStage answers 0 candidateCount TopologyCandidate.size,
    allocationStage answers 1 targetCount RouteTarget.size,
    allocationStage answers 2 1 length.toNat,
    allocationStage answers 3 targetCount OwnedRequestTarget.size,
    allocationStage answers 4 1 OwnedRequest.size]

/-- The stage of the request identifier. -/
def identifierStage (c : Client) : Bool × Status :=
  (c.nextRequestId != requestIdNone, Status.resourceExhausted)

/-- The body up to the check of the queue capacity. -/
lemma decides_submitPrepare {bytes : Bytes} {length maxAge : UInt64} {s : CallState}
    (htop : s.client.hasTopology = true) (hS : s.client.topology.Represents S)
    (hr : S.Routable S.currentSlot) (hlength : length ≠ 0) (hlimit : limit ≠ 0)
    (hclock : s.world.clockCalls = 1) (hcalloc : s.world.callocCalls = 0)
    (hM : s.world.ledger.Owns M) :
    Decides (submitPrepare bytes length ⟨maxAge, limit⟩ S.currentSlot
        (S.resolution S.currentSlot).length) (SubmitFrame.enter s)
      (allocationStages s.world.answers (S.resolution S.currentSlot).length
        (S.plan S.currentSlot limit).length length ++ [identifierStage s.client])
      (fun id f => id = s.client.nextRequestId ∧ id ≠ requestIdNone ∧
        f.Prepared s.client s.world.answers M S bytes length limit)
      (Rejected s.client M) := by
  have hstart : (SubmitFrame.enter s).Progress s.client s.world.answers M 0 :=
    ⟨rfl, rfl, hcalloc, hclock, by simpa [SubmitFrame.blocks, SubmitFrame.pointers,
      SubmitFrame.enter] using hM⟩
  have hne := Snapshot.plan_ne_nil hlimit hr
  refine (decides_resolveCandidates htop hS hr hstart rfl).bind (r := [_, _, _, _, _]) ?_
  rintro - f₁ ⟨h₁, b₁, w₁, hb₁, rfl⟩
  refine (decides_selectRoutes hr hlimit h₁ rfl rfl hb₁).bind (r := [_, _, _, _]) ?_
  rintro - f₂ ⟨rfl, h₂, b₂, w₂, hb₂, rfl⟩
  refine (decides_copyTransaction hlength h₂ rfl).bind (r := [_, _, _]) ?_
  rintro - f₃ ⟨h₃, b₃, w₃, hb₃, rfl⟩
  refine (decides_copyTargets hS hne h₃ rfl rfl hb₂).bind (r := [_, _]) ?_
  rintro - f₄ ⟨h₄, b₄, w₄, hb₄, rfl⟩
  refine (decides_fillRequest h₄ rfl).mono ?_ fun _ h => h
  rintro id f₅ ⟨rfl, hid, h₅, b₅, w₅, hb₅, rfl⟩
  refine ⟨rfl, hid, h₅, rfl, b₅, rfl, ?_, ?_, ?_⟩
  · rw [hb₅]
    refine ⟨rfl, hS.generation, rfl, ?_, rfl, ?_, rfl, rfl, rfl⟩
    · exact congrArg some hb₃
    · exact congrArg some hb₄
  · rw [hb₅]; rfl
  · rw [hb₅]; rfl

/-- The client after an acceptance: the request is prepended, its event is pending and the next
identifier is advanced. -/
def Client.accept (c : Client) (r : Block OwnedRequest) (acceptedTimeNs : UInt64) : Client :=
  { c with
    eventQueue := c.eventQueue.push (acceptedEvent c.nextRequestId acceptedTimeNs)
    requestHead := r :: c.requestHead
    nextRequestId := advanceRequestId c.nextRequestId }

/-- The stages after the request is prepared, `sample` being what the clock answers. -/
def commitStages (c : Client) (sample : ClockAnswer) : List (Bool × Status) :=
  [(eventQueueHasCapacity (some c), Status.resourceExhausted), World.clockStage sample,
    (decide (c.topology.receivedMonotonicNs ≤ sample.timeNs), Status.internalError)]

/-- The body from the check of the queue capacity on: the client changes only once every check has
been passed. -/
lemma decides_submitCommit {bytes : Bytes} {length : UInt64}
    (hf : f.Prepared c answers M S bytes length limit) :
    Decides (submitCommit c.nextRequestId) f (commitStages c (answers.clock 1))
      (fun id g => id = c.nextRequestId ∧ eventQueueHasCapacity (some c) = true ∧
        ∃ w' r, f.request = some r ∧ w'.ledger = f.world.ledger ∧
          g = { f with client := c.accept r (answers.clock 1).timeNs, world := w' })
      (Rejected c M) := by
  obtain ⟨hp, hnext, r, hr, -⟩ := hf
  obtain rfl := hp.client
  obtain rfl := hp.answers
  refine decides_get_bind (decides_require_bind Iff.rfl (fun _ => hp.rejected) fun hroom => ?_)
  have hclock := World.decides_monotonicTime (w := f.world)
  rw [hp.clockCalls] at hclock
  refine Decides.bind (l := [_]) (r := [_]) (decides_zoom (Q := fun t g =>
    t = (f.world.answers.clock 1).timeNs ∧ g = { f with world := f.world.clockRead })
    (F := Rejected f.client M) hclock ?_ ?_) ?_
  · rintro t w' ⟨rfl, rfl⟩
    exact ⟨rfl, rfl⟩
  · intro w' hw'
    refine ⟨rfl, ?_⟩
    rw [show ({ f with world := w' } : SubmitFrame).world.ledger = f.world.ledger from hw']
    exact hp.owns
  · rintro t g ⟨rfl, rfl⟩
    refine decides_require_bind (by simp) (fun _ => ⟨rfl, hp.owns⟩) fun _ => ?_
    have hpush := eventQueuePush_of_lt
      (acceptedEvent f.client.nextRequestId (f.world.answers.clock 1).timeNs)
      (eventQueueHasCapacity_iff.mp hroom)
    refine decides_ofResult_of hpush (decides_modify_bind (decides_modify_bind (decides_pure ?_)))
    refine ⟨rfl, hroom, f.world.clockRead, r, hr, rfl, ?_⟩
    simp only [hr, hnext, Client.accept, Option.toList_some, List.singleton_append]

/-! ### The cleanup -/

/-- After a failure everything the frame refers to is freed. -/
lemma owns_submitCleanup_of_ne {e : Status} (he : e ≠ Status.ok) (hf : f.Rejected c M) :
    (submitCleanup e f).client = c ∧ (submitCleanup e f).world.ledger.Owns M := by
  refine ⟨hf.1, ?_⟩
  have hfree : (submitCleanup e f).world.ledger = f.world.ledger.freeAll f.pointers := by
    simp [submitCleanup, he, SubmitFrame.pointers]
  rw [hfree]
  exact hf.2.freeAll

/-- After an acceptance the candidates and routes are freed and the request is kept. -/
lemma owns_submitCleanup_of_ok {r : Block OwnedRequest} (hreq : f.request = some r)
    (htx : r.data.transactionBytes = f.transactionCopy) (htargets : r.data.targets = f.ownedTargets)
    {l : Ledger} (hl : f.world.ledger = l) (howns : l.Owns (f.blocks + M)) :
    (submitCleanup Status.ok f).world.ledger.Owns
      (Ledger.blocksOfAll (requestPointers r) + M) := by
  have hfree : (submitCleanup Status.ok f).world.ledger
      = l.freeAll [Block.idOf f.candidates, Block.idOf f.routes] := by
    simp [submitCleanup, hl]
  rw [hfree]
  refine Ledger.Owns.freeAll (howns.congr ?_)
  simp only [SubmitFrame.blocks, SubmitFrame.pointers, requestPointers, hreq, htx, htargets,
    Block.idOf_some, Ledger.blocksOfAll_cons, Ledger.blocksOfAll_nil]
  abel

/-- A body run in its frame decides as it does by itself, when no stage fails with `OK`. -/
lemma decides_withSubmitFrame {body : EStateM Status SubmitFrame UInt64} {s : CallState}
    {l : List (Bool × Status)} {Q : UInt64 → SubmitFrame → Prop} {R : UInt64 → CallState → Prop}
    (h : Decides body (SubmitFrame.enter s) l Q (Rejected s.client M))
    (hl : ∀ e, (false, e) ∈ l → e ≠ Status.ok)
    (hQ : ∀ id f, Q id f → R id (submitCleanup Status.ok f)) :
    Decides (withSubmitFrame body) s l R
      (fun t => t.client = s.client ∧ t.world.ledger.Owns M) := by
  rcases Ensures.cases h with ⟨id, f, hbody, hnone, hf⟩ | ⟨e, f, hbody, hfail, hf⟩
  · exact ensures_of_ok (withSubmitFrame_of_ok hbody) ⟨hnone, hQ id f hf⟩
  · exact ensures_of_error (withSubmitFrame_of_error hbody)
      ⟨hfail, owns_submitCleanup_of_ne (hl e (mem_of_firstFailure hfail)) hf⟩

/-! ### The whole submission -/

/-- The policy submission options ask for. -/
def policyOf (options : Option (Ref SubmitOptions)) : SubmissionPolicy :=
  match options with
  | none => ⟨0, 0⟩
  | some r => ⟨r.val.maxTopologyAgeNs, r.val.targetLimit.toNat⟩

/-- The stages of the submission options. -/
def optionStages (options : Option (Ref SubmitOptions)) : List (Bool × Status) :=
  [(pointerIsAlignedFor options 8 &&
      options.any fun r => decide (submitOptionsMinSize ≤ r.val.structSize.toNat),
      Status.invalidArgument),
    (options.any fun r => r.val.flags == submitFlagsNone, Status.unsupported),
    (options.any fun r =>
        r.val.reserved0 == 0 && r.val.maxTopologyAgeNs != 0 && r.val.targetLimit != 0,
      Status.invalidArgument)]

/-- The stage of the routing. -/
def routingStage (S : Snapshot) : Bool × Status :=
  (decide (S.Routable S.currentSlot), Status.topologyUnavailable)

/-- The stages of the body, from the first allocation on. -/
def bodyStages (S : Snapshot) (c : Client) (limit : ℕ) (length : UInt64) (answers : Answers) :
    List (Bool × Status) :=
  (allocationStages answers (S.resolution S.currentSlot).length (S.plan S.currentSlot limit).length
      length ++ [identifierStage c]) ++ commitStages c (answers.clock 1)

/-- The stages of a submission whose pointers are valid, in the order they are checked. -/
def submitStages (S : Snapshot) (c : Client) (length : UInt64)
    (options : Option (Ref SubmitOptions)) (answers : Answers) : List (Bool × Status) :=
  (optionStages options ++ (admissionStages c (policyOf options).maxTopologyAgeNs (answers.clock 0) ++
    [routingStage S])) ++ bodyStages S c (policyOf options).targetLimit length answers

lemma decides_validateSubmitOptions (options : Option (Ref SubmitOptions)) (s : CallState) :
    Decides (ofResult (validateSubmitOptions options)) s (optionStages options)
      (fun p t => p = policyOf options ∧ p.maxTopologyAgeNs ≠ 0 ∧ p.targetLimit ≠ 0 ∧ t = s)
      (fun t => t = s) := by
  cases options with
  | none => exact ⟨rfl, rfl⟩
  | some r =>
      have hzero : r.val.targetLimit.toNat ≠ 0 ↔ r.val.targetLimit ≠ 0 :=
        not_congr (UInt32.toNat_inj (b := 0))
      simp only [validateSubmitOptions]
      split_ifs with halign hsize hflags hvalues
      · exact ⟨by simp [optionStages, halign], rfl⟩
      · exact ⟨by simp [optionStages, not_le.mpr hsize], rfl⟩
      · exact ⟨by simp_all [optionStages], rfl⟩
      · refine ⟨?_, rfl⟩
        rcases hvalues with h | h | h <;> simp_all [optionStages]
      · simp only [not_or] at hvalues
        refine ⟨by simp_all [optionStages], rfl, hvalues.2.1, hzero.mpr hvalues.2.2, rfl⟩

/-- What comes before the first allocation leaves only the clock read. -/
lemma decides_submitEntry {options : Option (Ref SubmitOptions)} {ledger : Ledger}
    (hS : c.topology.Represents S) :
    Decides (submitEntry options) ⟨c, World.start answers ledger⟩
      (optionStages options ++ (admissionStages c (policyOf options).maxTopologyAgeNs
        (answers.clock 0) ++ [routingStage S]))
      (fun r t => r = (policyOf options, S.currentSlot, (S.resolution S.currentSlot).length) ∧
        (policyOf options).targetLimit ≠ 0 ∧ c.hasTopology = true ∧ S.Routable S.currentSlot ∧
        t = ⟨c, (World.start answers ledger).clockRead⟩)
      (fun t => t.client = c ∧ t.world.ledger = ledger) := by
  refine ((decides_validateSubmitOptions options _).mono (fun _ _ h => h) ?_).bind ?_
  · rintro t rfl
    exact ⟨rfl, rfl⟩
  rintro p t ⟨rfl, hage, hlimit, rfl⟩
  refine decides_get_bind ?_
  have hadmit : Decides (CallState.onWorld (evaluateSubmissionPolicy (some c)
      (some (policyOf options)))) ⟨c, World.start answers ledger⟩
      (admissionStages c (policyOf options).maxTopologyAgeNs (answers.clock 0))
      (fun _ t => c.hasTopology = true ∧ t = ⟨c, (World.start answers ledger).clockRead⟩)
      (fun t => t.client = c ∧ t.world.ledger = ledger) := by
    refine decides_zoom (decides_evaluateSubmissionPolicy hage hlimit) ?_ ?_
    · rintro - w' ⟨htop, rfl⟩
      exact ⟨htop, rfl⟩
    · intro w' hw'
      exact ⟨rfl, hw'⟩
  refine hadmit.bind ?_
  rintro - t ⟨htop, rfl⟩
  by_cases hr : S.Routable S.currentSlot
  · have hne : (S.resolution S.currentSlot).length ≠ 0 :=
      mt List.eq_nil_of_length_eq_zero (Snapshot.resolution_ne_nil.mpr hr)
    have hsizing : resolveSlot (some c) c.topology.view.currentSlot none 0 (some 0)
        = ⟨Status.resourceExhausted, some (S.resolution S.currentSlot).length, none⟩ := by
      rw [hS.currentSlot]
      exact resolveSlot_sizing htop hS hr
    have hcount := congrArg (fun r => r.outCount.getD 0) hsizing
    refine ensures_bind.mpr (ensures_of_ok (require_of (congrArg ResolveResult.status hsizing)) ?_)
    refine ensures_bind.mpr (ensures_of_ok (require_of (hcount.trans_ne hne)) ?_)
    refine ⟨by simp [routingStage, hr], ?_, hlimit, htop, hr, rfl⟩
    exact Prod.ext rfl (Prod.ext hS.currentSlot hcount)
  · have hsizing : resolveSlot (some c) c.topology.view.currentSlot none 0 (some 0)
        = ⟨Status.topologyUnavailable, some 0, none⟩ := by
      rw [hS.currentSlot]
      exact resolveSlot_of_not_routable htop hS hr (Or.inl rfl)
    have hstatus := congrArg ResolveResult.status hsizing
    refine ensures_bind.mpr (ensures_of_error (require_of_not (hstatus.trans_ne (by decide))) ?_)
    refine ⟨?_, rfl, rfl⟩
    rw [firstFailure_cons, routingStage, decide_eq_false hr, if_neg Bool.false_ne_true]
    exact congrArg some hstatus.symm

/-- What an acceptance makes of the client: the record of the request is prepended, with the
identifier that was next, its event is appended and the identifier is advanced. -/
structure SubmitAccepted (c : Client) (S : Snapshot) (bytes : Bytes) (length : UInt64) (limit : ℕ)
    (acceptedTimeNs id : UInt64) (c' : Client) : Prop where
  id_eq : id = c.nextRequestId
  id_ne_none : id ≠ requestIdNone
  limit_ne_zero : limit ≠ 0
  hasTopology : c.hasTopology = true
  routable : S.Routable S.currentSlot
  room : eventQueueHasCapacity (some c) = true
  client : ∃ r, c' = c.accept r acceptedTimeNs ∧ r.data.Records S id bytes length limit

/-- No stage of the body fails with `OK`. -/
lemma bodyStages_ne_ok {length : UInt64} {e : Status}
    (h : (false, e) ∈ bodyStages S c limit length answers) : e ≠ Status.ok := by
  simp only [bodyStages, allocationStages, allocationStage, identifierStage, commitStages,
    World.clockStage, List.cons_append, List.nil_append, List.mem_cons, Prod.mk.injEq,
    List.not_mem_nil, or_false] at h
  rcases h with ⟨-, rfl⟩ | ⟨-, rfl⟩ | ⟨-, rfl⟩ | ⟨-, rfl⟩ | ⟨-, rfl⟩ | ⟨-, rfl⟩ | ⟨-, rfl⟩ |
    ⟨hclock, rfl⟩ | ⟨-, rfl⟩
  all_goals first | exact Status.resourceExhausted_ne_ok | exact Status.internalError_ne_ok | skip
  exact fun h => by simp [h] at hclock

/-- No stage of a submission fails with `OK`. -/
lemma submitStages_ne_ok {length : UInt64} {options : Option (Ref SubmitOptions)} {e : Status}
    (h : (false, e) ∈ submitStages S c length options answers) : e ≠ Status.ok := by
  rcases List.mem_append.mp h with h | h
  · simp only [optionStages, admissionStages, World.clockStage, routingStage, List.cons_append,
      List.nil_append, List.mem_cons, Prod.mk.injEq, List.not_mem_nil, or_false] at h
    rcases h with ⟨-, rfl⟩ | ⟨-, rfl⟩ | ⟨-, rfl⟩ | ⟨-, rfl⟩ | ⟨hclock, rfl⟩ | ⟨-, rfl⟩ | ⟨-, rfl⟩ |
      ⟨-, rfl⟩
    all_goals first | exact Status.invalidArgument_ne_ok | exact Status.unsupported_ne_ok |
      exact Status.topologyUnavailable_ne_ok | exact Status.internalError_ne_ok |
      exact Status.topologyStale_ne_ok | skip
    exact fun h => by simp [h] at hclock
  · exact bodyStages_ne_ok h

/-- The blocks of a client after an acceptance. -/
lemma accept_blocks (r : Block OwnedRequest) (t : UInt64) :
    (c.accept r t).blocks = Ledger.blocksOfAll (requestPointers r) + c.blocks := by
  simp only [Client.blocks, Client.accept, requestBlocks_cons]
  abel

/-- **A submission** past its pointer checks fails as the first of its stages that does not hold,
the client as it was, or it is accepted; in both cases the blocks of the client and no others are
owned afterwards. -/
theorem decides_submit {bytes : Bytes} {length : UInt64} {options : Option (Ref SubmitOptions)}
    {ledger : Ledger} (hS : c.topology.Represents S) (hlength : length ≠ 0)
    (hM : ledger.Owns (c.blocks + M)) :
    Decides (submit bytes length options) ⟨c, World.start answers ledger⟩
      (submitStages S c length options answers)
      (fun id t => SubmitAccepted c S bytes length (policyOf options).targetLimit
          (answers.clock 1).timeNs id t.client ∧ t.world.ledger.Owns (t.client.blocks + M))
      (fun t => t.client = c ∧ t.world.ledger.Owns (c.blocks + M)) := by
  refine ((decides_submitEntry hS).mono (fun _ _ h => h) ?_).bind ?_
  · rintro t ⟨hc, hl⟩
    exact ⟨hc, hl.symm ▸ hM⟩
  rintro - t ⟨rfl, hlimit, htop, hr, rfl⟩
  have hbody : Decides (do
      let requestId ← submitPrepare bytes length (policyOf options) S.currentSlot
        (S.resolution S.currentSlot).length
      submitCommit requestId) (SubmitFrame.enter ⟨c, (World.start answers ledger).clockRead⟩)
      (bodyStages S c (policyOf options).targetLimit length answers)
      (fun id f => SubmitAccepted c S bytes length (policyOf options).targetLimit
          (answers.clock 1).timeNs id f.client ∧
        (submitCleanup Status.ok f).world.ledger.Owns (f.client.blocks + M))
      (Rejected c (c.blocks + M)) := by
    refine (decides_submitPrepare htop hS hr hlength hlimit rfl rfl hM).bind ?_
    rintro - f ⟨rfl, hid, hf⟩
    refine (decides_submitCommit hf).mono ?_ fun _ h => h
    rintro - g ⟨rfl, hroom, w', r, hreq, hw', rfl⟩
    obtain ⟨r', hreq', hrecords, htx, htargets⟩ := hf.request
    obtain rfl : r' = r := Option.some.inj (hreq'.symm.trans hreq)
    refine ⟨⟨rfl, hid, hlimit, htop, hr, hroom, r', rfl, hrecords⟩, ?_⟩
    have howns := owns_submitCleanup_of_ok
      (f := { f with client := c.accept r' (answers.clock 1).timeNs, world := w' })
      hreq htx htargets hw' hf.progress.owns
    rw [accept_blocks, add_assoc]
    exact howns
  exact decides_withSubmitFrame hbody (fun _ => bodyStages_ne_ok) fun _ _ h => h

/-! ### The call -/

/-- The stage of the pointers and the length of a submission. -/
def submitArgumentStage (client : Option Client) (transactionBytes : Option Bytes)
    (transactionLength : UInt64) (outRequestId : Option (Ref UInt64)) : Bool × Status :=
  (pointerIsAlignedFor outRequestId 8 && client.isSome && transactionBytes.isSome &&
    transactionLength != 0, Status.invalidArgument)

/-- What a rejected submission leaves in `*out_request_id`. -/
def clearedRequestId (outRequestId : Option (Ref UInt64)) : Option UInt64 :=
  if pointerIsAlignedFor outRequestId 8 = false then outRequestId.map Ref.val
  else some requestIdNone

/-- The ways `solana_delivery_client_submit` goes on a client whose topology represents `S`. -/
inductive SubmitOutcome (S : Snapshot) (c : Client) (M : Multiset ℕ)
    (transactionBytes : Option Bytes) (transactionLength : UInt64)
    (options : Option (Ref SubmitOptions)) (outRequestId : Option (Ref UInt64)) (answers : Answers)
    (r : SubmitResult) : Prop where
  | rejected {e : Status} :
      firstFailure (submitArgumentStage (some c) transactionBytes transactionLength outRequestId ::
        submitStages S c transactionLength options answers) = some e →
      e ≠ Status.ok → r.status = e → r.client = some c →
      r.outRequestId = clearedRequestId outRequestId → r.world.ledger.Owns (c.blocks + M) →
      SubmitOutcome S c M transactionBytes transactionLength options outRequestId answers r
  | accepted {c' : Client} {bytes : Bytes} {id : UInt64} :
      firstFailure (submitArgumentStage (some c) transactionBytes transactionLength outRequestId ::
        submitStages S c transactionLength options answers) = none →
      r.status = Status.ok → r.client = some c' → r.outRequestId = some id →
      transactionBytes = some bytes → transactionLength ≠ 0 →
      SubmitAccepted c S bytes transactionLength (policyOf options).targetLimit
        (answers.clock 1).timeNs id c' →
      r.world.ledger.Owns (c'.blocks + M) →
      SubmitOutcome S c M transactionBytes transactionLength options outRequestId answers r

/-- **The submission call** on a client whose blocks are owned. -/
theorem clientSubmit_cases {ledger : Ledger} (hS : c.topology.Represents S)
    (hM : ledger.Owns (c.blocks + M)) (transactionBytes : Option Bytes) (transactionLength : UInt64)
    (options : Option (Ref SubmitOptions)) (outRequestId : Option (Ref UInt64)) :
    SubmitOutcome S c M transactionBytes transactionLength options outRequestId answers
      (clientSubmit (some c) transactionBytes transactionLength options outRequestId
        (World.start answers ledger)) := by
  by_cases hout : pointerIsAlignedFor outRequestId 8 = false
  · unfold clientSubmit
    rw [if_pos hout]
    refine .rejected (e := Status.invalidArgument) ?_ Status.invalidArgument_ne_ok rfl rfl ?_ hM
    · simp [submitArgumentStage, hout]
    · rw [clearedRequestId, if_pos hout]
  have hclear : clearedRequestId outRequestId = some requestIdNone := by
    rw [clearedRequestId, if_neg hout]
  unfold clientSubmit
  rw [if_neg hout]
  cases transactionBytes with
  | none =>
      refine .rejected (e := Status.invalidArgument) ?_ Status.invalidArgument_ne_ok rfl rfl
        hclear.symm hM
      simp [submitArgumentStage]
  | some bytes =>
    by_cases hlength : transactionLength = 0
    · simp only [hlength, if_true]
      refine .rejected (e := Status.invalidArgument) ?_ Status.invalidArgument_ne_ok rfl rfl
        hclear.symm hM
      simp [submitArgumentStage]
    have hstage : submitArgumentStage (some c) (some bytes) transactionLength outRequestId
        = (true, Status.invalidArgument) := by
      simp [submitArgumentStage, hout, hlength]
    have hsubmit : Decides (submit bytes transactionLength options)
        ⟨c, World.start answers ledger⟩ (submitStages S c transactionLength options answers) _ _ :=
      decides_submit hS hlength hM
    simp only [hlength, if_false]
    rcases Ensures.cases hsubmit with ⟨id, s, hres, hnone, haccepted, howns⟩ |
      ⟨e, s, hres, hsome, hclient, howns⟩
    · rw [hres]
      refine .accepted ?_ rfl rfl rfl rfl hlength haccepted howns
      rw [hstage, firstFailure_cons, if_pos rfl, hnone]
    · rw [hres]
      have hne := submitStages_ne_ok (mem_of_firstFailure hsome)
      refine .rejected (e := e) ?_ hne rfl (congrArg some hclient) hclear.symm howns
      rw [hstage, firstFailure_cons, if_pos rfl, hsome]

end SolanaTpuClient
