import SolanaTpuClient.Properties.Requests

/-!
Ownership of blocks along runs.

The invariant already says that the live blocks are those the client refers to; here its parts are
counted. A topology has one block for each nonempty array (`TopologyState.blocks_card`), a request
has three (`requestBlocks_card`), and a destruction frees all of them (`owns_clientDestroy`).
-/

namespace SolanaTpuClient

open Procedure Transition

variable {c : Client} {w : World} {M : Multiset ℕ}

/-! ### Destruction -/

lemma ownedRequestsRelease_ledger (hvalid : allocatorIsValid (some c.allocator) = true)
    (requests : List (Block OwnedRequest)) :
    (ownedRequestsRelease c.allocator requests w).ledger
      = w.ledger.freeAll (requests.flatMap requestPointers) := by
  rw [ownedRequestsRelease, if_neg (by simp [hvalid])]
  induction requests generalizing w with
  | nil => rfl
  | cons r requests ih =>
      rw [List.foldl_cons, ih, List.flatMap_cons, Ledger.freeAll_append]
      rfl

/-- A destruction frees the requests, the topology and the client. -/
lemma owns_clientDestroy {b : Block Client} (hvalid : allocatorIsValid (some b.data.allocator) = true)
    (h : w.ledger.Owns (b.data.blocks + {b.id} + M)) :
    (clientDestroy (some b) w).ledger.Owns M := by
  have hrequests : (ownedRequestsRelease b.data.allocator b.data.requestHead w).ledger.Owns
      (b.data.topology.blocks + ({b.id} + M)) := by
    rw [ownedRequestsRelease_ledger hvalid]
    refine Ledger.Owns.freeAll (h.congr ?_)
    simp only [Client.blocks, requestBlocks]
    abel
  have htopology := owns_ownedTopologyRelease hvalid hrequests
  exact htopology.free (p := some b.id)

/-! ### Counting -/

lemma blocksOf_card (p : Option ℕ) : (Ledger.blocksOf p).card = if p = none then 0 else 1 := by
  cases p <;> rfl

lemma blocksOf_idOf_card {count : UInt32} {L : List (List UInt8)} {p : Option (Block (List UInt8))}
    (h : HoldsArray p count L) : (Ledger.blocksOf (Block.idOf p)).card = copiesNeeded count := by
  have hnull : Block.idOf p = none ↔ count = 0 := by
    rw [← h.null]
    cases p <;> simp
  rw [blocksOf_card, copiesNeeded]
  simp only [hnull]

/-- A topology has one block for each nonempty array. -/
lemma TopologyState.blocks_card (h : TopologyState c) :
    c.topology.blocks.card = topologyCopies c.topology.view := by
  cases h with
  | absent _ hzero => rw [hzero]; rfl
  | @installed t _ _ hcopy =>
      have hview : topologyCopies c.topology.view = topologyCopies t.view := by
        rw [hcopy.view]
        rfl
      rw [hview]
      simp only [OwnedTopology.blocks, OwnedTopology.pointers, Ledger.blocksOfAll_cons,
        Ledger.blocksOfAll_nil, Multiset.card_add, Multiset.card_zero,
        blocksOf_idOf_card hcopy.validators, blocksOf_idOf_card hcopy.endpoints,
        blocksOf_idOf_card hcopy.validatorEndpoints, blocksOf_idOf_card hcopy.leaders,
        topologyCopies]
      omega

/-- An array of the topology is null exactly when it is empty. -/
lemma TopologyState.null_iff (h : TopologyState c) :
    (c.topology.validators = none ↔ c.topology.view.validatorCount = 0) ∧
      (c.topology.endpoints = none ↔ c.topology.view.endpointCount = 0) ∧
      (c.topology.validatorEndpoints = none ↔ c.topology.view.validatorEndpointCount = 0) ∧
      (c.topology.leaders = none ↔ c.topology.view.leaderCount = 0) := by
  cases h with
  | absent _ hzero => rw [hzero]; exact ⟨by decide, by decide, by decide, by decide⟩
  | installed _ _ hcopy =>
      rw [hcopy.view]
      exact ⟨hcopy.validators.null, hcopy.endpoints.null, hcopy.validatorEndpoints.null,
        hcopy.leaders.null⟩

/-- The blocks of a request: its transaction, its targets and its record. -/
def OwnsThree (r : Block OwnedRequest) (transaction targets : ℕ) : Prop :=
  Block.idOf r.data.transactionBytes = some transaction ∧ Block.idOf r.data.targets = some targets

lemma OwnsThree.blocks {r : Block OwnedRequest} {transaction targets : ℕ}
    (h : OwnsThree r transaction targets) :
    Ledger.blocksOfAll (requestPointers r) = {transaction, targets, r.id} := by
  simp only [requestPointers, h.1, h.2, Ledger.blocksOfAll_cons, Ledger.blocksOfAll_nil,
    Ledger.blocksOf_some, Multiset.singleton_add, add_zero]
  rfl

lemma requestBlocks_card {requests : List (Block OwnedRequest)}
    (h : ∀ r ∈ requests, ∃ transaction targets, OwnsThree r transaction targets) :
    (requestBlocks requests).card = 3 * requests.length := by
  induction requests with
  | nil => rfl
  | cons r requests ih =>
      obtain ⟨transaction, targets, hr⟩ := h r (by simp)
      rw [requestBlocks_cons, Multiset.card_add, hr.blocks, ih fun r' hr' => h r' (by simp [hr']),
        List.length_cons]
      simp only [Multiset.insert_eq_cons, Multiset.card_cons, Multiset.card_singleton]
      omega

lemma blocks_le_requestBlocks {requests : List (Block OwnedRequest)} {r : Block OwnedRequest}
    (hr : r ∈ requests) : Ledger.blocksOfAll (requestPointers r) ≤ requestBlocks requests := by
  induction requests with
  | nil => simp at hr
  | cons r' requests ih =>
      rw [requestBlocks_cons]
      rcases List.mem_cons.mp hr with rfl | hr
      · exact Multiset.le_add_right _ _
      · exact (ih hr).trans (Multiset.le_add_left _ _)

lemma idOf_of_dataOf {α : Type} {p : Option (Block α)} {data : α}
    (h : Block.dataOf p = some data) : ∃ id, Block.idOf p = some id := by
  cases p with
  | none => simp [Block.dataOf] at h
  | some b => exact ⟨b.id, rfl⟩

/-- Every accepted request has its three blocks. -/
lemma ownsThree_run (d : Dependencies) (ops : List Op) :
    ∀ r ∈ (run step (fresh d) ops).client.data.requestHead,
      ∃ transaction targets, OwnsThree r transaction targets := by
  intro r hr
  obtain ⟨t, hchecked, _, _, _, _, _, _, _, _, _, _, _, _, _, _, hrecords⟩ := routedBy_run d ops r hr
  obtain ⟨transaction, htransaction⟩ := idOf_of_dataOf hrecords.transactionBytes
  obtain ⟨targets, htargets⟩ := idOf_of_dataOf hrecords.targets
  exact ⟨transaction, targets, htransaction, htargets⟩

/-- **Blocks are owned exactly.** A creation that fails leaves no block. After one that succeeds
and any run, the live blocks are that of the client, those of the arrays of its topology and those
of its accepted requests, all distinct: one for each nonempty array and three for each request. No
free was of a block that was not live. A destruction then frees what is left, so that every block
ever allocated has been freed exactly once. -/
theorem blocks_owned_exactly (allocator : Option Allocator) (fn context : Addr) (outIsNull : Bool)
    (answers : Answers) :
    Ensures (clientCreateWithDependencies allocator fn context outIsNull)
      (World.start answers Ledger.empty)
      (fun b w => ∀ (ops : List Op) (answers' : Answers),
        let s := run step ⟨b, w.ledger⟩ ops
        let c := s.client.data
        let owned : Multiset ℕ := s.client.id ::ₘ (c.topology.blocks + requestBlocks c.requestHead)
        let destroyed := (clientDestroy (some s.client) (World.start answers' s.ledger)).ledger
        s.ledger.live = owned.toFinset ∧ owned.Nodup ∧
        (c.topology.validators = none ↔ c.topology.view.validatorCount = 0) ∧
        (c.topology.endpoints = none ↔ c.topology.view.endpointCount = 0) ∧
        (c.topology.validatorEndpoints = none ↔ c.topology.view.validatorEndpointCount = 0) ∧
        (c.topology.leaders = none ↔ c.topology.view.leaderCount = 0) ∧
        (∀ r ∈ c.requestHead, ∃ transaction targets, OwnsThree r transaction targets ∧
          [transaction, targets, r.id].Nodup) ∧
        s.ledger.live.card = 1 + topologyCopies c.topology.view + 3 * c.requestHead.length ∧
        s.ledger.faults = [] ∧ s.ledger.freed.Nodup ∧
        destroyed.live = ∅ ∧ destroyed.faults = [] ∧
        (destroyed.freed : Multiset ℕ) = Multiset.range destroyed.next)
      (fun _ w => w.ledger = Ledger.empty) := by
  refine (clientCreate_cases allocator fn context outIsNull answers).mono ?_ fun _ _ h => h.2
  rintro b w ⟨d, hd⟩ ops answers'
  rw [hd]
  intro s c owned destroyed
  have hs : s.WellFormed := wellFormed_run d ops
  have howned : s.ledger.Owns owned := by
    refine hs.owns.congr ?_
    rw [add_comm, Multiset.singleton_add]
    rfl
  have hthree := ownsThree_run d ops
  obtain ⟨hv, he, ha, hl⟩ := hs.topology.null_iff
  have hdestroyed : destroyed.Owns 0 :=
    owns_clientDestroy hs.allocator (by simpa using hs.owns)
  refine ⟨howned.live_eq, howned.nodup, hv, he, ha, hl, ?_, ?_, howned.clean, howned.freed_nodup,
    by simpa using hdestroyed.live_eq, hdestroyed.clean, hdestroyed.freed_eq_range⟩
  · intro r hr
    obtain ⟨transaction, targets, hr3⟩ := hthree r hr
    refine ⟨transaction, targets, hr3, ?_⟩
    have hle : Ledger.blocksOfAll (requestPointers r) ≤ owned :=
      (blocks_le_requestBlocks hr).trans
        ((Multiset.le_add_left _ _).trans (Multiset.le_cons_self _ _))
    have hnodup := Multiset.nodup_of_le hle howned.nodup
    rw [hr3.blocks] at hnodup
    exact Multiset.coe_nodup.mp hnodup
  · have htopology : c.topology.blocks.card = topologyCopies c.topology.view :=
      hs.topology.blocks_card
    have hrequests : (requestBlocks c.requestHead).card = 3 * c.requestHead.length :=
      requestBlocks_card hthree
    rw [howned.live_eq, Multiset.toFinset_card_of_nodup howned.nodup, Multiset.card_cons,
      Multiset.card_add, htopology, hrequests]
    omega

end SolanaTpuClient
