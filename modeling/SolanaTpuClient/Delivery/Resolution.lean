import SolanaTpuClient.Lib.Loops
import SolanaTpuClient.Spec.Snapshot

/-!
The slot resolver of `src/solana_delivery_resolution.c`.

The counting pass and the filling pass run the same nested loop, `forSlotCandidates`.
On a client whose topology represents a snapshot it runs over the resolution of the slot
(`forSlotCandidates_eq`), which gives the three ways a call can end: `resolveSlot_of_not_routable`,
`resolveSlot_of_short` and `resolveSlot_of_room`.
-/

namespace SolanaTpuClient

open Loops OutputBuffer

/-! ### The resolver -/

/-- `leader_contains_slot` -/
def leaderContainsSlot (leader : Leader) (slot : UInt64) : Bool :=
  slot ≥ leader.firstSlot && slot ≤ leader.lastSlot

/-- The nested loop of `count_slot_candidates` and `solana_delivery_client_resolve_slot`, which
runs `body` on the candidate of every association of every leader that contains the slot. The source
writes the loop out in each of the two functions, with the same bounds and tests. -/
def forSlotCandidates {m : Type → Type} [Monad m] {σ : Type} (topology : OwnedTopology)
    (slot : UInt64) (body : σ → TopologyCandidate → m σ) (init : σ) : m σ :=
  (List.range topology.view.leaderCount.toNat).foldlM (fun s leaderIndex =>
    let leader := topology.leader leaderIndex
    if leaderContainsSlot leader slot then
      (List.range topology.view.validatorEndpointCount.toNat).foldlM (fun s associationIndex =>
        let association := topology.validatorEndpoint associationIndex
        if association.validatorIndex = leader.validatorIndex then
          body s ⟨UInt32.ofNat leaderIndex, leader.validatorIndex, association.endpointIndex⟩
        else pure s) s
    else pure s) init

/-- `count_slot_candidates` -/
def countSlotCandidates (client : Client) (slot : UInt64) : Except Status ℕ :=
  forSlotCandidates client.topology slot (fun count _ =>
    if count = sizeMax wordBits then throw Status.resourceExhausted else pure (count + 1)) 0

/-- The loop of `solana_delivery_client_resolve_slot` that fills `candidates`. -/
def fillSlotCandidates (client : Client) (slot : UInt64) (candidates : List TopologyCandidate) :
    List TopologyCandidate :=
  (forSlotCandidates (m := Id) client.topology slot (fun st c => pure (emit st c))
    (candidates, 0)).run.1

/-- What `solana_delivery_client_resolve_slot` returns: its status, what `out_count` points to and
the array behind `candidates`. -/
structure ResolveResult where
  status : Status
  outCount : Option ℕ
  candidates : Option (List TopologyCandidate)

/-- `solana_delivery_client_resolve_slot` -/
def resolveSlot (client : Option Client) (slot : UInt64)
    (candidates : Option (List TopologyCandidate)) (capacity : ℕ) (outCount : Option ℕ) :
    ResolveResult :=
  match outCount with
  | none => ⟨Status.invalidArgument, none, candidates⟩
  | some _ =>
      match client with
      | none => ⟨Status.invalidArgument, some 0, candidates⟩
      | some c =>
          if capacity ≠ 0 ∧ candidates = none then ⟨Status.invalidArgument, some 0, candidates⟩
          else if c.hasTopology = false then ⟨Status.topologyUnavailable, some 0, candidates⟩
          else
            match countSlotCandidates c slot with
            | .error status => ⟨status, some 0, candidates⟩
            | .ok required =>
                if required = 0 then ⟨Status.topologyUnavailable, some 0, candidates⟩
                else if capacity < required then
                  ⟨Status.resourceExhausted, some required, candidates⟩
                else ⟨Status.ok, some required, candidates.map (fillSlotCandidates c slot)⟩

/-! ### The loop runs over the resolution -/

lemma leaderContainsSlot_iff {leader : Leader} {slot : UInt64} :
    leaderContainsSlot leader slot = true ↔ leader.Leads slot := by
  simp [leaderContainsSlot, Leader.Leads]

variable {o : OwnedTopology} {S : Snapshot} {slot : UInt64}

/-- The inner loop runs over the candidates of its leader. -/
lemma candidatesOf_eq (h : o.Represents S) (leader : Leader) (i : ℕ) :
    S.candidatesOf leader i
      = ((List.range o.view.validatorEndpointCount.toNat).filter fun j =>
          (o.validatorEndpoint j).validatorIndex = leader.validatorIndex).map fun j =>
          ⟨UInt32.ofNat i, leader.validatorIndex, (o.validatorEndpoint j).endpointIndex⟩ := by
  rw [Snapshot.candidatesOf, ← h.validatorEndpoints, List.filter_map, List.map_map]
  rfl

lemma resolution_eq (h : o.Represents S) :
    S.resolution slot
      = ((List.range o.view.leaderCount.toNat).filter fun i =>
          (o.leader i).Leads slot).flatMap fun i => S.candidatesOf (o.leader i) i := by
  have hzip : S.leaders.zipIdx
      = (List.range o.view.leaderCount.toNat).map fun i => (o.leader i, i) := by
    rw [← h.leaders]
    exact List.ext_getElem (by simp) fun i h1 h2 => by simp
  rw [Snapshot.resolution, hzip, List.flatMap_map]
  exact flatMap_skip (fun i => (o.leader i).Leads slot) _ _

/-- **The loop of the resolver** runs over the resolution of the slot. -/
theorem forSlotCandidates_eq {m : Type → Type} [Monad m] [LawfulMonad m] {σ : Type}
    (h : o.Represents S) (body : σ → TopologyCandidate → m σ) (s : σ) :
    forSlotCandidates o slot body s = (S.resolution slot).foldlM body s := by
  have hinner : ∀ (s : σ) (i : ℕ),
      (List.range o.view.validatorEndpointCount.toNat).foldlM (fun s j =>
          if (o.validatorEndpoint j).validatorIndex = (o.leader i).validatorIndex then
            body s ⟨UInt32.ofNat i, (o.leader i).validatorIndex, (o.validatorEndpoint j).endpointIndex⟩
          else pure s) s
        = (S.candidatesOf (o.leader i) i).foldlM body s := by
    intro s i
    rw [candidatesOf_eq h]
    exact foldlM_skip (fun j => (o.validatorEndpoint j).validatorIndex = (o.leader i).validatorIndex)
      _ body _ s
  have houter := foldlM_skip (fun i => (o.leader i).Leads slot) id
    (fun s i => (S.candidatesOf (o.leader i) i).foldlM body s)
    (List.range o.view.leaderCount.toNat) s
  rw [List.map_id, foldlM_nested, ← resolution_eq h] at houter
  rw [← houter, forSlotCandidates]
  simp only [leaderContainsSlot_iff, hinner, id]

/-! ### The results of the resolver -/

variable {c : Client}

lemma countSlotCandidates_eq (h : c.topology.Represents S) :
    countSlotCandidates c slot = .ok (S.resolution slot).length := by
  have hlen : 0 + (S.resolution slot).length ≤ sizeMax wordBits := by
    rw [Nat.zero_add]
    exact Snapshot.resolution_length_lt.le
  rw [countSlotCandidates, forSlotCandidates_eq h, foldlM_count _ hlen, Nat.zero_add]

lemma fillSlotCandidates_eq (h : c.topology.Represents S) {buffer : List TopologyCandidate}
    (hroom : (S.resolution slot).length ≤ buffer.length) :
    fillSlotCandidates c slot buffer = patch (S.resolution slot) buffer := by
  rw [fillSlotCandidates, forSlotCandidates_eq h, List.idRun_foldlM]
  exact congrArg Prod.fst (foldl_emit hroom)

/-- Nobody can be reached. -/
lemma resolveSlot_of_not_routable (htop : c.hasTopology = true) (h : c.topology.Represents S)
    (hr : ¬ S.Routable slot) {buffer : Option (List TopologyCandidate)} {capacity n : ℕ}
    (hbuffer : capacity = 0 ∨ buffer.isSome) :
    resolveSlot (some c) slot buffer capacity (some n)
      = ⟨Status.topologyUnavailable, some 0, buffer⟩ := by
  have hnil : S.resolution slot = [] := not_not.mp (mt Snapshot.resolution_ne_nil.mp hr)
  have hargs : ¬(capacity ≠ 0 ∧ buffer = none) := by
    rintro ⟨hcap, rfl⟩
    simp [hcap] at hbuffer
  simp [resolveSlot, hargs, htop, countSlotCandidates_eq h, hnil]

/-- The candidates do not fit. -/
lemma resolveSlot_of_short (htop : c.hasTopology = true) (h : c.topology.Represents S)
    (hr : S.Routable slot) {buffer : Option (List TopologyCandidate)} {capacity n : ℕ}
    (hbuffer : capacity = 0 ∨ buffer.isSome) (hshort : capacity < (S.resolution slot).length) :
    resolveSlot (some c) slot buffer capacity (some n)
      = ⟨Status.resourceExhausted, some (S.resolution slot).length, buffer⟩ := by
  have hne : (S.resolution slot).length ≠ 0 :=
    mt List.eq_nil_of_length_eq_zero (Snapshot.resolution_ne_nil.mpr hr)
  have hargs : ¬(capacity ≠ 0 ∧ buffer = none) := by
    rintro ⟨hcap, rfl⟩
    simp [hcap] at hbuffer
  simp [resolveSlot, hargs, htop, countSlotCandidates_eq h, hne, hshort]

/-- The candidates fit and are written to the front of the array. -/
lemma resolveSlot_of_room (htop : c.hasTopology = true) (h : c.topology.Represents S)
    (hr : S.Routable slot) {buffer : List TopologyCandidate} {capacity n : ℕ}
    (hroom : (S.resolution slot).length ≤ capacity) (hcapacity : capacity ≤ buffer.length) :
    resolveSlot (some c) slot (some buffer) capacity (some n)
      = ⟨Status.ok, some (S.resolution slot).length, some (patch (S.resolution slot) buffer)⟩ := by
  have hne : (S.resolution slot).length ≠ 0 :=
    mt List.eq_nil_of_length_eq_zero (Snapshot.resolution_ne_nil.mpr hr)
  simp [resolveSlot, htop, countSlotCandidates_eq h, hne, not_lt.mpr hroom,
    fillSlotCandidates_eq h (hroom.trans hcapacity)]

end SolanaTpuClient
