import SolanaTpuClient.Properties.Snapshots
import SolanaTpuClient.Delivery.Resolution

/-!
The two passes of the slot resolver.

The counting pass counts what the filling pass writes, so a call that is given enough room writes
the resolution of the slot to the front of the array and nothing behind it, and any other call
writes nothing.
-/

namespace SolanaTpuClient

open OutputBuffer Transition

/-- A client has a topology and it is the snapshot `S`. -/
def Client.Holds (c : Client) (S : Snapshot) : Prop :=
  c.hasTopology = true ∧ c.topology.Represents S

/-- The array `b'` is `b` with its first entries replaced by `src`. -/
structure FrontReplaced {α : Type} (src b b' : List α) : Prop where
  length : b'.length = b.length
  front : b'.take src.length = src
  rest : b'.drop src.length = b.drop src.length

/-- An array pointer that reaches at least `capacity` entries; it may be null when there are none
to reach. -/
def Reaches {α : Type} (buffer : Option (List α)) (capacity : ℕ) : Prop :=
  capacity = 0 ∨ ∃ b, buffer = some b ∧ capacity ≤ b.length

/-- The result of a resolution whose candidates are `R`. -/
inductive Resolves (R : List TopologyCandidate) (buffer : Option (List TopologyCandidate))
    (capacity : ℕ) (r : ResolveResult) : Prop where
  | unavailable : R = [] → r = ⟨Status.topologyUnavailable, some 0, buffer⟩ →
      Resolves R buffer capacity r
  | exhausted : R ≠ [] → capacity < R.length →
      r = ⟨Status.resourceExhausted, some R.length, buffer⟩ → Resolves R buffer capacity r
  | filled {b b' : List TopologyCandidate} : R ≠ [] → R.length ≤ capacity → buffer = some b →
      FrontReplaced R b b' → r = ⟨Status.ok, some R.length, some b'⟩ → Resolves R buffer capacity r

lemma Reaches.spec {α : Type} {buffer : Option (List α)} {capacity : ℕ}
    (h : Reaches buffer capacity) : capacity = 0 ∨ buffer.isSome := by
  rcases h with h | ⟨b, rfl, -⟩
  · exact Or.inl h
  · exact Or.inr rfl

lemma frontReplaced_patch {α : Type} {src b : List α} (h : src.length ≤ b.length) :
    FrontReplaced src b (patch src b) where
  length := patch_length h
  front := List.take_left
  rest := List.drop_left

lemma FrontReplaced.eq {α : Type} {src b b' : List α} (h : FrontReplaced src b b') :
    b' = src ++ b.drop src.length := by
  calc b' = b'.take src.length ++ b'.drop src.length := (List.take_append_drop _ _).symm
    _ = src ++ b.drop src.length := by rw [h.front, h.rest]

section Resolves

variable {R : List TopologyCandidate} {capacity : ℕ} {r : ResolveResult}

lemma Resolves.eq_of_nil {buffer : Option (List TopologyCandidate)}
    (h : Resolves R buffer capacity r) (hnil : R = []) :
    r = ⟨Status.topologyUnavailable, some 0, buffer⟩ := by
  cases h with
  | unavailable _ hr => exact hr
  | exhausted hne _ _ => exact absurd hnil hne
  | filled hne _ _ _ _ => exact absurd hnil hne

lemma Resolves.eq_of_short {buffer : Option (List TopologyCandidate)}
    (h : Resolves R buffer capacity r) (hshort : capacity < R.length) :
    r = ⟨Status.resourceExhausted, some R.length, buffer⟩ := by
  cases h with
  | unavailable hnil _ => exact absurd (hnil ▸ hshort) (Nat.not_lt_zero _)
  | exhausted _ _ hr => exact hr
  | filled _ hroom _ _ _ => exact absurd hshort (not_lt.mpr hroom)

lemma Resolves.eq_of_room {b : List TopologyCandidate} (h : Resolves R (some b) capacity r)
    (hne : R ≠ []) (hroom : R.length ≤ capacity) :
    r = ⟨Status.ok, some R.length, some (R ++ b.drop R.length)⟩ := by
  cases h with
  | unavailable hnil _ => exact absurd hnil hne
  | exhausted _ hshort _ => exact absurd hshort (not_lt.mpr hroom)
  | filled _ _ hbuffer hreplaced hr =>
      obtain rfl := Option.some.inj hbuffer
      rw [hr, hreplaced.eq]

end Resolves

variable {c : Client} {S : Snapshot} {slot : UInt64}

/-- The three ways a resolution ends. -/
lemma resolveSlot_resolves (hc : c.Holds S) {buffer : Option (List TopologyCandidate)}
    {capacity n : ℕ} (hbuffer : Reaches buffer capacity) :
    Resolves (S.resolution slot) buffer capacity (resolveSlot (some c) slot buffer capacity (some n)) := by
  obtain ⟨htop, hS⟩ := hc
  by_cases hr : S.Routable slot
  · have hne := Snapshot.resolution_ne_nil.mpr hr
    rcases lt_or_ge capacity (S.resolution slot).length with hshort | hroom
    · exact .exhausted hne hshort (resolveSlot_of_short htop hS hr hbuffer.spec hshort)
    · rcases hbuffer with rfl | ⟨b, rfl, hcapacity⟩
      · exact absurd (List.eq_nil_of_length_eq_zero (Nat.le_zero.mp hroom)) hne
      · exact .filled hne hroom rfl (frontReplaced_patch (hroom.trans hcapacity))
          (resolveSlot_of_room htop hS hr hroom hcapacity)
  · exact .unavailable (not_not.mp (mt Snapshot.resolution_ne_nil.mp hr))
      (resolveSlot_of_not_routable htop hS hr hbuffer.spec)

/-- **The two passes of the resolver agree.** On a client that holds the snapshot `S` the counting
pass never fails and counts the resolution of the slot. A call on an array of at least `capacity`
entries reports that nothing is available, or reports the count and leaves the array alone because
the capacity is short, or writes the whole resolution to the front of the array and leaves all
entries behind it as they were. -/
theorem resolution_passes_agree (hc : c.Holds S) (slot : UInt64) :
    countSlotCandidates c slot = .ok (S.resolution slot).length ∧
      ∀ buffer capacity n, Reaches buffer capacity →
        Resolves (S.resolution slot) buffer capacity
          (resolveSlot (some c) slot buffer capacity (some n)) :=
  ⟨countSlotCandidates_eq hc.2, fun _ _ _ hbuffer => resolveSlot_resolves hc hbuffer⟩

/-- A client that has just installed a topology holds its snapshot. -/
lemma holds_of_installed {s : State} (hs : s.WellFormed) {r : Ref CallerTopology}
    {answers : Answers} (hvalid : topologyValidate (some r) = .ok ())
    (h : (step s (.installTopology .self (some r) answers)).1 = .installed Status.ok) :
    (step s (.installTopology .self (some r) answers)).2.client.data.Holds
      (r.val.snapshot (checked_of_validate hvalid)) := by
  obtain ⟨-, hreplaced⟩ := replaced_of_installed hs h
  exact ⟨hreplaced.hasTopology, hreplaced.copy.represents _⟩

/-- The snapshot of the sample schedule. -/
def extendedSnapshot : Snapshot := sampleExtended.val.snapshot (checked_of_validate rfl)

lemma holds_sampleExtended : (sampleClient sampleExtended).Holds extendedSnapshot :=
  holds_of_installed (wellFormed_fresh sampleDependencies) rfl rfl

/-- The candidates of slot 100, leader by leader. -/
lemma extendedSnapshot_resolution : extendedSnapshot.resolution 100
    = [⟨0, 1, 1⟩, ⟨0, 1, 1⟩, ⟨1, 0, 0⟩, ⟨1, 0, 1⟩, ⟨2, 1, 1⟩, ⟨2, 1, 1⟩] := by
  decide +kernel

/-- The three ends of a resolution, on an array of eight entries. -/
theorem resolution_passes_agree_sample :
    let c := sampleClient sampleExtended
    let buffer := List.replicate 8 TopologyCandidate.zero
    countSlotCandidates c 100 = .ok 6 ∧
      resolveSlot (some c) 200 (some buffer) 8 (some 3)
        = ⟨Status.topologyUnavailable, some 0, some buffer⟩ ∧
      resolveSlot (some c) 100 (some buffer) 5 (some 3)
        = ⟨Status.resourceExhausted, some 6, some buffer⟩ ∧
      resolveSlot (some c) 100 (some buffer) 7 (some 3) = ⟨Status.ok, some 6,
        some [⟨0, 1, 1⟩, ⟨0, 1, 1⟩, ⟨1, 0, 0⟩, ⟨1, 0, 1⟩, ⟨2, 1, 1⟩, ⟨2, 1, 1⟩, .zero, .zero]⟩ := by
  intro c buffer
  obtain ⟨hcount, hresolves⟩ := resolution_passes_agree holds_sampleExtended 100
  obtain ⟨-, hnobody⟩ := resolution_passes_agree holds_sampleExtended 200
  rw [extendedSnapshot_resolution] at hcount hresolves
  have hreaches : ∀ {capacity}, capacity ≤ 8 → Reaches (some buffer) capacity :=
    fun h => Or.inr ⟨buffer, rfl, h⟩
  refine ⟨hcount, ?_, ?_, ?_⟩
  · exact (hnobody _ 8 3 (hreaches le_rfl)).eq_of_nil (by decide +kernel)
  · exact (hresolves _ 5 3 (hreaches (by decide))).eq_of_short (by decide)
  · exact (hresolves _ 7 3 (hreaches (by decide))).eq_of_room (by decide) (by decide)

end SolanaTpuClient
