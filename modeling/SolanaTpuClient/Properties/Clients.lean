import SolanaTpuClient.Lib.Slots
import SolanaTpuClient.Delivery.Clients
import SolanaTpuClient.Spec.Roster
import SolanaTpuClient.Properties.Refinement
import SolanaTpuClient.Properties.Ownership

/-!
Clients that share an allocator do not see each other.

However the calls on several clients are interleaved, each client serves as it would alone
(`clients_isolated`), and the blocks of the shared ledger are those of the clients, each owned by one
of them (`clients_share_ledger`).
-/

namespace SolanaTpuClient

open Procedure Transition

/-! ### Calls as commands -/

/-- The status of a creation. -/
def creationStatus (allocator : Option Allocator) (monotonicTimeFn : Addr) (outClientIsNull : Bool)
    (answers : Answers) : Status :=
  if allocatorIsValid allocator = true ∧ monotonicTimeFn ≠ 0 ∧ outClientIsNull = false then
    if (answers.calloc 0).isSome then Status.ok else Status.resourceExhausted
  else Status.invalidArgument

/-- The command a call on one of several clients is. -/
def rosterCommandOf : ClientsOp → RosterCommand
  | .create allocator monotonicTimeFn _ outClientIsNull answers =>
      .start (creationStatus allocator monotonicTimeFn outClientIsNull answers)
  | .call k op => .call k (commandOf op)
  | .destroy k _ => .stop k

/-- The reply a call on one of several clients returns and stores. -/
def rosterReplyOf : ClientsOp → ClientsOutcome → RosterReply
  | _, .created status => .started status
  | .call _ op, .returned o => .replied (replyOf op o)
  | _, _ => .stopped

/-! ### One slot -/

/-- A client holds a service. -/
structure Serves (b : Block Client) (v : Service) : Prop where
  allocator : allocatorIsValid (some b.data.allocator) = true
  client : b.data.Keeps v

/-- Every client holds the service in its slot, and the blocks of the ledger are those of the
clients. -/
structure Clients.Holds (s : Clients) (roster : Roster) : Prop where
  slots : List.Forall₂ (Option.Rel Serves) s.handles roster
  owns : s.ledger.Owns s.blocks

variable {s : Clients} {roster : Roster} {M : Multiset ℕ} {k : ℕ} {b : Block Client}

lemma Clients.Holds.handle (h : s.Holds roster) (k : ℕ) :
    Option.Rel Serves (s.handle k) (roster[k]?).join := by
  have hslot := Slots.forall₂_getElem? h.slots k
  rw [Clients.handle]
  generalize s.handles[k]? = p at hslot
  generalize roster[k]? = q at hslot
  cases hslot with
  | none => exact .none
  | some hpq => exact hpq

/-- The blocks of all clients are those of one and those of the others. -/
lemma Clients.blocks_eq (h : s.handle k = some b) :
    s.blocks = b.data.blocks + {b.id} + ((s.handles.set k none).map Clients.blocksOf).sum := by
  obtain ⟨p, hp, rfl⟩ : ∃ p, s.handles[k]? = some p ∧ p = some b := by
    rw [Clients.handle] at h
    cases hp : s.handles[k]? with
    | none => simp [hp] at h
    | some p => exact ⟨p, rfl, by simpa [hp] using h⟩
  exact Slots.sum_map_get (f := Clients.blocksOf) hp rfl

/-- The blocks after one client has become another. -/
lemma Clients.blocks_set (h : s.handle k = some b) (b' : Block Client) :
    ((s.handles.set k (some b')).map Clients.blocksOf).sum
      = b'.data.blocks + {b'.id} + ((s.handles.set k none).map Clients.blocksOf).sum := by
  have hk : k < s.handles.length := by
    by_contra hge
    simp [Clients.handle, List.getElem?_eq_none (not_lt.mp hge)] at h
  have hnone : (s.handles.set k none)[k]? = some none := by simp [hk]
  have hset := Slots.sum_map_set (f := Clients.blocksOf) hnone rfl (some b')
  rwa [List.set_set] at hset

/-- The blocks after one client has gone. -/
lemma Clients.blocks_set_none (h : s.handle k = none) :
    ((s.handles.set k none).map Clients.blocksOf).sum = s.blocks := by
  have hset : s.handles.set k none = s.handles := by
    rw [Clients.handle] at h
    cases hp : s.handles[k]? with
    | none => exact List.set_eq_of_length_le (List.getElem?_eq_none_iff.mp hp)
    | some p =>
        obtain ⟨hk, hget⟩ := List.getElem?_eq_some_iff.mp hp
        have hpnone : p = none := by simpa [hp] using h
        rw [← hpnone, ← hget, List.set_getElem_self]
  rw [hset]
  rfl

lemma Clients.blocks_append (s : Clients) (p : Option (Block Client)) (ledger : Ledger) :
    Clients.blocks ⟨s.handles ++ [p], ledger⟩ = Clients.blocksOf p + s.blocks := by
  simp [Clients.blocks, add_comm]

/-! ### Creations and destructions -/

lemma keeps_new {d : Dependencies} : d.client.Keeps Service.new :=
  ⟨.absent rfl rfl, .nil, rfl, rfl⟩

/-- A creation adds the block of a new client, or no block. -/
lemma ensures_clientCreate (allocator : Option Allocator) (fn context : Addr) (outIsNull : Bool)
    (answers : Answers) {ledger : Ledger} (hM : ledger.Owns M) :
    Ensures (clientCreateWithDependencies allocator fn context outIsNull)
      (World.start answers ledger)
      (fun b w => creationStatus allocator fn outIsNull answers = Status.ok ∧
        Serves b Service.new ∧ w.ledger.Owns (b.data.blocks + {b.id} + M))
      (fun e w => creationStatus allocator fn outIsNull answers = e ∧ e ≠ Status.ok ∧
        w.ledger = ledger) := by
  cases allocator with
  | none => exact ⟨rfl, Status.invalidArgument_ne_ok, rfl⟩
  | some a =>
      refine ensures_bind.mpr (ensures_require.mpr ⟨fun hargs => ?_, fun hargs =>
        ⟨if_neg hargs, Status.invalidArgument_ne_ok, rfl⟩⟩)
      rw [creationStatus, if_pos hargs]
      cases hcalloc : answers.calloc 0 with
      | none =>
          refine ensures_bind.mpr (ensures_of_ok (World.calloc_of_none hcalloc) ?_)
          exact ⟨rfl, Status.resourceExhausted_ne_ok, rfl⟩
      | some addr =>
          refine ensures_bind.mpr (ensures_of_ok (World.calloc_of_some hcalloc) ?_)
          refine ⟨rfl, ⟨hargs.1, ?_⟩, ?_⟩
          · exact keeps_new (d := ⟨a, hargs.1, fn, hargs.2.1, context, addr⟩)
          · exact hM.alloc

/-! ### Every call -/

/-- A call through a null pointer is refused and changes nothing. -/
lemma callNull_spec (ledger : Ledger) (op : Op) :
    replyOf op (Clients.callNull ledger op).1 = (commandOf op).refusal ∧
      (Clients.callNull ledger op).2 = ledger := by
  cases op with
  | installTopology handle topology answers => exact ⟨rfl, rfl⟩
  | refreshTopology handle provider acquired answers => exact ⟨rfl, rfl⟩
  | submit handle transactionBytes transactionLength options outRequestId answers =>
      rw [Clients.callNull, clientSubmit_null]
      exact ⟨rfl, rfl⟩
  | pollEvents handle events eventCapacity eventStride outEventCount =>
      by_cases hout : pointerIsAlignedFor outEventCount 8 = false
      · simp only [Clients.callNull, clientPollEvents, hout, if_true]
        exact ⟨rfl, trivial⟩
      · simp only [Clients.callNull, clientPollEvents, hout]
        exact ⟨rfl, trivial⟩

lemma step_client_id (s : State) (op : Op) : (step s op).2.client.id = s.client.id := by
  cases op <;> rfl

lemma Clients.call_of_none (h : s.handle k = none) (op : Op) :
    s.call k op = (.returned (Clients.callNull s.ledger op).1,
      { s with ledger := (Clients.callNull s.ledger op).2 }) := by
  rw [Clients.call, h]

lemma Clients.call_of_some (h : s.handle k = some b) (op : Op) :
    s.call k op = (.returned (SolanaTpuClient.step ⟨b, s.ledger⟩ op).1,
      ⟨s.handles.set k (some (SolanaTpuClient.step ⟨b, s.ledger⟩ op).2.client),
        (SolanaTpuClient.step ⟨b, s.ledger⟩ op).2.ledger⟩) := by
  rw [Clients.call, h]

/-- A call on one client is a command to its service; the other slots are left alone. -/
lemma Clients.Holds.call (h : s.Holds roster) (k : ℕ) (op : Op) :
    rosterReplyOf (.call k op) (s.call k op).1 = (roster.step (.call k (commandOf op))).1 ∧
      (s.call k op).2.Holds (roster.step (.call k (commandOf op))).2 := by
  have hslot := h.handle k
  cases hhandle : s.handle k with
  | none =>
      rw [Clients.call_of_none hhandle, Roster.step]
      rw [hhandle] at hslot
      generalize (roster[k]?).join = q at hslot
      cases hslot with
      | none =>
          obtain ⟨hreply, hledger⟩ := callNull_spec s.ledger op
          rw [hledger]
          exact ⟨congrArg RosterReply.replied hreply, h.slots, h.owns⟩
  | some b =>
      rw [Clients.call_of_some hhandle, Roster.step]
      rw [hhandle] at hslot
      generalize (roster[k]?).join = q at hslot
      cases hslot with
      | @some _ v hserves =>
          have howns := h.owns
          rw [Clients.blocks_eq hhandle, add_assoc] at howns
          obtain ⟨hreply, hstep⟩ := implements_step ⟨b, s.ledger⟩ v op trivial
            ⟨hserves.allocator, howns, hserves.client⟩
          refine ⟨congrArg RosterReply.replied hreply, ?_, ?_⟩
          · exact Slots.forall₂_set h.slots (.some ⟨hstep.allocator, hstep.client⟩) k
          · have hnew := hstep.owns
            rw [Clients.blocks, Clients.blocks_set hhandle, step_client_id, add_assoc]
            exact hnew

/-- A creation starts a service, or takes an empty slot. -/
lemma Clients.Holds.create (h : s.Holds roster) (allocator : Option Allocator) (fn context : Addr)
    (outIsNull : Bool) (answers : Answers) :
    let op := ClientsOp.create allocator fn context outIsNull answers
    rosterReplyOf op (s.step op).1 = (roster.step (rosterCommandOf op)).1 ∧
      (s.step op).2.Holds (roster.step (rosterCommandOf op)).2 := by
  intro op
  have hcreate := ensures_clientCreate allocator fn context outIsNull answers h.owns
  simp only [op, Clients.step, rosterCommandOf, Roster.step]
  rcases hcreate.cases with ⟨b, w, hok, hstatus, hserves, howns⟩ | ⟨e, w, herror, hstatus, hne, hw⟩
  · rw [hok, hstatus, if_pos rfl]
    refine ⟨rfl, List.rel_append h.slots (.cons (.some hserves) .nil), ?_⟩
    rw [Clients.blocks_append]
    exact howns
  · rw [herror, hstatus, if_neg hne]
    refine ⟨rfl, List.rel_append h.slots (.cons .none .nil), ?_⟩
    rw [Clients.blocks_append]
    change w.ledger.Owns (0 + s.blocks)
    rw [hw, zero_add]
    exact h.owns

/-- A destruction stops a service and frees its blocks. -/
lemma Clients.Holds.destroy (h : s.Holds roster) (k : ℕ) (answers : Answers) :
    (s.step (.destroy k answers)).2.Holds (roster.set k none) := by
  refine ⟨Slots.forall₂_set h.slots .none k, ?_⟩
  have hslot := h.handle k
  simp only [Clients.step, Clients.blocks]
  cases hhandle : s.handle k with
  | none =>
      rw [Clients.blocks_set_none hhandle]
      exact h.owns
  | some b =>
      have howns := h.owns
      rw [Clients.blocks_eq hhandle] at howns
      rw [hhandle] at hslot
      generalize (roster[k]?).join = q at hslot
      cases hslot with
      | some hserves => exact owns_clientDestroy hserves.allocator howns

/-- **Every call is a command to the roster.** -/
theorem clients_step :
    Simulates Clients.step Roster.step rosterCommandOf rosterReplyOf Clients.Holds := by
  intro s roster op _ h
  cases op with
  | create allocator fn context outIsNull answers =>
      exact h.create allocator fn context outIsNull answers
  | call k op => exact h.call k op
  | destroy k answers => exact ⟨rfl, h.destroy k answers⟩

/-! ### Runs -/

lemma holds_empty : Clients.empty.Holds [] := ⟨.nil, Ledger.owns_empty⟩

/-- The replies of a run of calls on several clients, oldest first. -/
def rosterReplies (h : List (Entry Clients ClientsOp ClientsOutcome)) : List RosterReply :=
  translated rosterReplyOf h

/-- A call that creates a client or concerns the `k`-th one. -/
def ClientsOp.concerns (k : ℕ) (op : ClientsOp) : Bool := Roster.concerns k (rosterCommandOf op)

/-- **Clients are isolated.** In every interleaving of calls on clients that share an allocator, the
creations and the calls on one client are answered as in the run from which the calls on all other
clients and their destructions are taken out, and in the end that client holds the same service in
both. -/
theorem clients_isolated (ops : List ClientsOp) (k : ℕ) :
    let alone := ops.filter (ClientsOp.concerns k)
    let s := run Clients.step Clients.empty ops
    let s' := run Clients.step Clients.empty alone
    rosterReplies ((history Clients.step Clients.empty ops).filter fun e => e.input.concerns k)
        = rosterReplies (history Clients.step Clients.empty alone) ∧
      Option.Rel (fun b b' => ∃ v, Serves b v ∧ Serves b' v) (s.handle k) (s'.handle k) := by
  intro alone s s'
  have hisolated := Roster.isolated k [] (ops.map rosterCommandOf)
  have halone : (ops.map rosterCommandOf).filter (Roster.concerns k) = alone.map rosterCommandOf := by
    rw [List.filter_map]
    rfl
  rw [halone] at hisolated
  obtain ⟨hreplies, hview⟩ := hisolated
  have hs := (clients_step.run holds_empty ops).handle k
  have hs' := (clients_step.run holds_empty alone).handle k
  have hslot := (Prod.ext_iff.mp hview).2
  simp only [Roster.view] at hslot
  rw [hslot] at hs
  have hvisible : rosterReplies ((history Clients.step Clients.empty ops).filter
      fun e => e.input.concerns k) = _ :=
    clients_step.visibleOutputs (fun _ => rfl) holds_empty ops
  refine ⟨?_, Slots.rel_of_rel hs hs'⟩
  rw [hvisible, hreplies, rosterReplies, clients_step.outputs holds_empty]

/-- **Clients own the shared ledger together.** In every interleaving of calls the live blocks of
the shared ledger are those of the clients that exist, no block belonging to two of them or twice to
one, and no free has been of a block that was not live. A destruction frees the blocks of its client
and no other, and once all clients are destroyed, in any interleaving with other calls, every block
ever allocated has been freed exactly once. -/
theorem clients_share_ledger (ops : List ClientsOp) :
    let s := run Clients.step Clients.empty ops
    s.ledger.live = s.blocks.toFinset ∧ s.blocks.Nodup ∧ s.ledger.faults = [] ∧
      s.ledger.freed.Nodup ∧
      (∀ k answers b, s.handle k = some b →
        let s' := (s.step (.destroy k answers)).2
        s.blocks = b.data.blocks + {b.id} + s'.blocks ∧ s'.ledger.live = s'.blocks.toFinset) ∧
      ((∀ p ∈ s.handles, p = none) →
        s.ledger.live = ∅ ∧ (s.ledger.freed : Multiset ℕ) = Multiset.range s.ledger.next) := by
  intro s
  have hs := clients_step.run holds_empty ops
  have howns : s.ledger.Owns s.blocks := hs.owns
  refine ⟨howns.live_eq, howns.nodup, howns.clean, howns.freed_nodup, ?_, ?_⟩
  · intro k answers b hb
    exact ⟨Clients.blocks_eq hb, (hs.destroy k answers).owns.live_eq⟩
  · intro hnone
    have hzero : s.blocks = 0 := by
      refine Slots.sum_map_eq_zero fun p hp => ?_
      rw [hnone p hp]
      rfl
    rw [hzero] at howns
    exact ⟨by simpa using howns.live_eq, howns.freed_eq_range⟩

end SolanaTpuClient
