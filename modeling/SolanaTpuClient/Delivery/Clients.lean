import SolanaTpuClient.Delivery.Client

/-!
Several clients over one allocator.

Callers hold pointers to clients, which are created, called and destroyed in any order; all of them
allocate from one ledger. A pointer is null before the creation that it is passed to, if that fails,
and after its client has been destroyed: a destruction is given a copy of the pointer, so it is the
caller that sets its own to null there. What the allocator and the clock answer belongs to the call
in which they are asked.
-/

namespace SolanaTpuClient

open Procedure Transition

/-- The pointers to the clients created so far, and the ledger of their allocator. -/
structure Clients where
  handles : List (Option (Block Client))
  ledger : Ledger

/-- A call on one of several clients, which are named by the order of their creation. -/
inductive ClientsOp where
  | create (allocator : Option Allocator) (monotonicTimeFn monotonicTimeContext : Addr)
      (outClientIsNull : Bool) (answers : Answers)
  | call (k : ℕ) (op : Op)
  | destroy (k : ℕ) (answers : Answers)

/-- What a call on one of several clients returns. -/
inductive ClientsOutcome where
  | created (status : Status)
  | returned (o : Outcome)
  | destroyed

namespace Clients

/-- No client has been created. -/
def empty : Clients := ⟨[], Ledger.empty⟩

/-- The pointer to the `k`-th client. -/
def handle (s : Clients) (k : ℕ) : Option (Block Client) := (s.handles[k]?).join

/-- A call through a null pointer. -/
def callNull (ledger : Ledger) : Op → Outcome × Ledger
  | .installTopology _ topology answers =>
      let r := clientInstallTopology none topology (World.start answers ledger)
      (.installed r.status, r.world.ledger)
  | .refreshTopology _ provider acquired answers =>
      let r := clientRefreshTopology none provider acquired (World.start answers ledger)
      (.refreshed r.status r.calls, r.world.ledger)
  | .submit _ transactionBytes transactionLength options outRequestId answers =>
      let r := clientSubmit none transactionBytes transactionLength options outRequestId
        (World.start answers ledger)
      (.submitted r.status r.outRequestId, r.world.ledger)
  | .pollEvents _ events eventCapacity eventStride outEventCount =>
      let r := clientPollEvents none events eventCapacity eventStride outEventCount
      (.polled r.status r.events r.outEventCount, ledger)

/-- A call of one of the four functions on the `k`-th client. -/
def call (s : Clients) (k : ℕ) (op : Op) : ClientsOutcome × Clients :=
  match s.handle k with
  | none =>
      let r := callNull s.ledger op
      (.returned r.1, { s with ledger := r.2 })
  | some b =>
      let r := SolanaTpuClient.step ⟨b, s.ledger⟩ op
      (.returned r.1, ⟨s.handles.set k (some r.2.client), r.2.ledger⟩)

/-- One call. -/
def step (s : Clients) : ClientsOp → ClientsOutcome × Clients
  | .create allocator monotonicTimeFn monotonicTimeContext outClientIsNull answers =>
      match clientCreateWithDependencies allocator monotonicTimeFn monotonicTimeContext
          outClientIsNull (World.start answers s.ledger) with
      | .ok b w => (.created Status.ok, ⟨s.handles ++ [some b], w.ledger⟩)
      | .error status w => (.created status, ⟨s.handles ++ [none], w.ledger⟩)
  | .call k op => s.call k op
  | .destroy k answers =>
      (.destroyed, ⟨s.handles.set k none,
        (clientDestroy (s.handle k) (World.start answers s.ledger)).ledger⟩)

/-- The blocks behind a pointer. -/
def blocksOf : Option (Block Client) → Multiset ℕ
  | none => 0
  | some b => b.data.blocks + {b.id}

/-- The blocks of all clients. -/
def blocks (s : Clients) : Multiset ℕ := (s.handles.map blocksOf).sum

end Clients

end SolanaTpuClient
