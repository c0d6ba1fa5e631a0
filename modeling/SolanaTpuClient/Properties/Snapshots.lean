import SolanaTpuClient.Properties.Replacement
import SolanaTpuClient.Spec.Normalization

/-!
The installed topology in reachable states.

An installed topology is a copy of an accepted one, so it is in normal form: it is accepted itself,
its arrays are in the native layout and its references stay within bounds. Installing it into
another client reproduces it.
-/

namespace SolanaTpuClient

open ByteMemory OwnedTopology Procedure Transition

/-- The offset of `topology.view` in `struct solana_delivery_client`. -/
def topologyViewOffset : ℕ := 48

/-- `&client->topology.view` -/
def State.topologyView (s : State) : Ref CallerTopology where
  addr := s.client.addr.val + topologyViewOffset
  ne_null := by simp [topologyViewOffset]
  val := s.client.data.topology.asCaller

lemma topologyValidate_topologyView {s : State} (h : s.client.data.topology.asCaller.Checked) :
    topologyValidate (some s.topologyView) = .ok () := by
  refine topologyValidate_eq_ok.mpr ⟨_, rfl, ?_, h⟩
  have haligned : 8 ∣ s.client.addr.val := Nat.dvd_of_mod_eq_zero s.client.addr.aligned
  exact Nat.mod_eq_zero_of_dvd (haligned.add (by decide))

/-- The view of a client can be installed into a created client. -/
lemma install_topologyView {s : State} {t : CallerTopology} (hcopy : s.client.data.topology.CopyOf t)
    (hchecked : t.Checked) (d : Dependencies) {answers : Answers}
    (hgranted : copiesGranted s.topologyView answers = true)
    (hclock : (answers.clock 0).status = Status.ok) :
    ∃ s', step (fresh d) (.installTopology .self (some s.topologyView) answers)
        = (.installed Status.ok, s') ∧
      SameSnapshot s.client.data.topology s'.client.data.topology := by
  have hfresh := wellFormed_fresh d
  have hvalid := topologyValidate_topologyView (hcopy.checked hchecked)
  have haccepts : (fresh d).client.data.AcceptsGeneration (generationOf s.topologyView) :=
    acceptsGeneration_of_absent rfl _
  have hok : (step (fresh d) (.installTopology .self (some s.topologyView) answers)).1
      = .installed Status.ok :=
    congrArg Outcome.installed
      (installed_of_stages hfresh (installStages_eq_none hvalid haccepts hgranted hclock))
  obtain ⟨-, hreplaced⟩ := replaced_of_installed hfresh hok
  exact ⟨_, Prod.ext hok rfl, hcopy.sameSnapshot hreplaced.copy⟩

/-- **An installed snapshot is well formed.** In every reachable state with a topology, the view of
that topology is valid, its arrays are in the native layout, null exactly when they are empty, and
its records declare the native sizes and refer to records that exist. Installed into another
created client, when the copies are allocated and the clock can be read, it gives the same counts,
strides and arrays. -/
theorem installed_snapshot_wellFormed (d : Dependencies) (ops : List Op)
    (hhas : (run step (fresh d) ops).client.data.hasTopology = true) :
    let s := run step (fresh d) ops
    let o := s.client.data.topology
    topologyValidate (some s.topologyView) = .ok () ∧ o.Native ∧ o.RecordsValid ∧
      ∀ d' answers, copiesGranted s.topologyView answers = true →
        (answers.clock 0).status = Status.ok →
        ∃ s', step (fresh d') (.installTopology .self (some s.topologyView) answers)
            = (.installed Status.ok, s') ∧
          SameSnapshot o s'.client.data.topology := by
  intro s o
  cases (wellFormed_run d ops).topology with
  | absent hno _ => exact absurd (hno.symm.trans hhas) Bool.false_ne_true
  | installed _ hchecked hcopy =>
      refine ⟨topologyValidate_topologyView (hcopy.checked hchecked), hcopy.native,
        hcopy.recordsValid hchecked, ?_⟩
      intro d' answers hgranted hclock
      exact install_topologyView hcopy hchecked d' hgranted hclock

/-! ### A sample client -/

/-- Dependencies a client can be created with. -/
def sampleDependencies : Dependencies where
  allocator := ⟨8, 16, 0⟩
  allocator_valid := rfl
  monotonicTimeFn := 24
  monotonicTimeFn_ne_null := by decide
  monotonicTimeContext := 0
  clientAddr := ⟨8, by decide, by decide⟩

/-- An aligned pointer to a value. -/
def sampleRef {α : Type} (val : α) : Ref α := ⟨8, by decide, val⟩

/-- A topology of one validator that leads the slots 100 to 103 and has one endpoint. -/
def sampleTopology : Ref CallerTopology := sampleRef
  { view := ⟨88, 0, 5, 100, 16, 1, 48, 64, 1, 32, 96, 1, 16, 112, 1, 32⟩
    memory :=
      { validators := ofList (leBytes 4 48 ++ List.replicate 44 0)
        endpoints := ofList (leBytes 4 32 ++ [addressIpv4, transportQuic, endpointRoleTpu, 0] ++
          leBytes 2 8003 ++ List.replicate 22 0)
        validatorEndpoints := ofList (leBytes 4 16 ++ List.replicate 12 0)
        leaders := ofList (leBytes 4 32 ++ leBytes 4 0 ++ leBytes 8 100 ++ leBytes 8 103 ++
          leBytes 8 0) } }

/-- A topology of two validators and two endpoints, with leader records from a validator index and
a range of slots and association records from a validator index and an endpoint index. Every record
declares, and the strides reserve, the bytes `extension` behind its known prefix. -/
def sampleSchedule (extension : List UInt8) (leaders : List (ℕ × ℕ × ℕ))
    (associations : List (ℕ × ℕ)) : Ref CallerTopology :=
  let record (n : ℕ) (fields : List UInt8) : List UInt8 :=
    leBytes 4 (n + extension.length) ++ fields ++ List.replicate (n - 4 - fields.length) 0 ++
      extension
  let stride (n : ℕ) : UInt32 := UInt32.ofNat (n + extension.length)
  sampleRef
    { view := ⟨88, 0, 5, 100, 16, 2, stride Validator.size, 64, 2, stride Endpoint.size, 96,
        UInt32.ofNat associations.length, stride ValidatorEndpoint.size, 112,
        UInt32.ofNat leaders.length, stride Leader.size⟩
      memory :=
        { validators := ofList ([7, 9].flatMap fun identity =>
            record Validator.size (leBytes 4 0 ++ List.replicate 32 identity))
          endpoints := ofList ([8003, 8004].flatMap fun port => record Endpoint.size
            ([addressIpv4, transportQuic, endpointRoleTpu, 0] ++ leBytes 2 port))
          validatorEndpoints := ofList (associations.flatMap fun a =>
            record ValidatorEndpoint.size (leBytes 4 a.1 ++ leBytes 4 a.2))
          leaders := ofList (leaders.flatMap fun l =>
            record Leader.size (leBytes 4 l.1 ++ leBytes 8 l.2.1 ++ leBytes 8 l.2.2)) } }

/-- An environment that grants every allocation and reads the clock. -/
def sampleAnswers : Answers where
  calloc k := some ⟨8 * (k + 1), Nat.mul_ne_zero (by decide) (Nat.succ_ne_zero k),
    Nat.mul_mod_right 8 _⟩
  clock _ := ⟨Status.ok, 10⟩

/-- An installation that succeeds. -/
def sampleInstall : Op := .installTopology .self (some sampleTopology) sampleAnswers

/-- The leader records of a schedule in which both validators lead slot 100, one of them twice. -/
def sampleLeaders : List (ℕ × ℕ × ℕ) := [(1, 100, 103), (0, 96, 100), (1, 100, 100), (0, 101, 105)]

/-- Associations of the first validator with both endpoints and of the second one, twice, with the
second endpoint. -/
def sampleAssociations : List (ℕ × ℕ) := [(0, 0), (1, 1), (0, 1), (1, 1)]

/-- The schedule in the native layout. -/
def sampleNative : Ref CallerTopology := sampleSchedule [] sampleLeaders sampleAssociations

/-- The schedule in records that are eight bytes longer. -/
def sampleExtended : Ref CallerTopology :=
  sampleSchedule (List.replicate 8 0xAB) sampleLeaders sampleAssociations

/-- The schedule with its leader and association records in another order. -/
def sampleReordered : Ref CallerTopology :=
  sampleSchedule [] sampleLeaders.reverse sampleAssociations.reverse

/-- A client that has installed a topology. -/
def sampleClient (t : Ref CallerTopology) : Client :=
  (step (fresh sampleDependencies) (.installTopology .self (some t) sampleAnswers)).2.client.data

theorem installed_snapshot_wellFormed_sample :
    (run step (fresh sampleDependencies) [sampleInstall]).client.data.hasTopology = true ∧
      topologyValidate (some (run step (fresh sampleDependencies) [sampleInstall]).topologyView)
        = .ok () :=
  ⟨by decide, (installed_snapshot_wellFormed sampleDependencies [sampleInstall] (by decide)).1⟩

end SolanaTpuClient
