import SolanaTpuClient.Properties.Snapshots

/-!
Installed topologies along runs.

The first installation takes any generation, a later one a generation above the installed one; each
replaces the whole topology, and no other call touches it (`StepCase.of_not_installed`).
`LatestInstalled` follows the record of a run: the installed generations increase and the client
holds the copy and the receipt time of the last one (`latestInstalled_run`). Behind the greatest
generation nothing is installed any more.
-/

namespace SolanaTpuClient

open Transition

variable {c c' : Client} {op : Op} {o : Outcome}

/-- A call that installs nothing leaves the topology alone. -/
lemma StepCase.of_not_installed (h : StepCase c op o c') (hi : installedBy op o = none) :
    c'.topology = c.topology ∧ c'.hasTopology = c.hasTopology := by
  cases h with
  | kept hc _ _ _ => rw [hc]; exact ⟨rfl, rfl⟩
  | installed _ _ hi' _ _ => simp [hi'] at hi
  | accepted _ _ hacc _ _ _ =>
      obtain ⟨r, rfl, -⟩ := hacc.client
      exact ⟨rfl, rfl⟩
  | drained hc _ _ _ _ => rw [hc]; exact ⟨rfl, rfl⟩

/-- A call that installs a topology is a successful installation of it. -/
lemma StepCase.of_installed (h : StepCase c op o c') {t : Ref CallerTopology}
    (hi : installedBy op o = some t) :
    ∃ topology answers ledger, op.answers = some answers ∧
      InstallSuccess c topology (World.start answers ledger) t c' := by
  cases h with
  | kept _ hi' _ _ => simp [hi'] at hi
  | installed hop hinst hi' _ _ =>
      obtain rfl := Option.some.inj (hi'.symm.trans hi)
      exact ⟨_, _, _, hop, hinst⟩
  | accepted _ _ _ hi' _ _ => simp [hi'] at hi
  | drained _ _ _ hi' _ => simp [hi'] at hi

lemma InstallSuccess.generation {topology : Option (Ref CallerTopology)} {w : World}
    {t : Ref CallerTopology} (h : InstallSuccess c topology w t c') :
    c'.topology.view.generation = generationOf t := by
  rw [h.copy.view]
  rfl

/-- The topology `t` was installed by the step `e` of the record `h`, the last one that installed
any, and is what the client holds. -/
structure InstalledLast (h : List Step) (c : Client) (t : Ref CallerTopology) : Prop where
  checked : t.val.Checked
  copy : c.topology.CopyOf t.val
  step : ∃ h₁ e h₂ answers, h = h₁ ++ e :: h₂ ∧ installedBy e.input e.output = some t ∧
    installations h₂ = [] ∧ e.input.answers = some answers ∧
    c.topology.receivedMonotonicNs = (answers.clock 0).timeNs

/-- What the record of a run says about the topology of the client. -/
structure LatestInstalled (h : List Step) (c : Client) : Prop where
  increasing : ((installations h).map generationOf).Pairwise (· < ·)
  bound : ∀ t ∈ installations h, generationOf t ≤ c.topology.view.generation
  absent : c.hasTopology = false ↔ installations h = []
  latest : c.hasTopology = true → ∃ t, InstalledLast h c t ∧ t ∈ (installations h).getLast?

lemma latestInstalled_fresh (d : Dependencies) : LatestInstalled [] (fresh d).client.data where
  increasing := List.Pairwise.nil
  bound := by simp
  absent := by simp [fresh, Dependencies.client, Client.zero]
  latest := by simp [fresh, Dependencies.client, Client.zero]

/-- **Every call keeps the record of the installations true.** -/
lemma latestInstalled_step (h : List Step) (s : State) (op : Op) (hs : s.WellFormed)
    (hl : LatestInstalled h s.client.data) :
    LatestInstalled (h ++ [entry step s op]) (step s op).2.client.data := by
  have hcase := (step_spec hs op).client
  have hrecord : installations (h ++ [entry step s op])
      = installations h ++ (installedBy op (step s op).1).toList := installations_concat _ _
  cases hi : installedBy op (step s op).1 with
  | none =>
      obtain ⟨htop, hhas⟩ := hcase.of_not_installed hi
      rw [hi, Option.toList_none, List.append_nil] at hrecord
      constructor
      · rw [hrecord]; exact hl.increasing
      · rw [hrecord, htop]; exact hl.bound
      · rw [hrecord, hhas]; exact hl.absent
      · intro hyes
        obtain ⟨t, ⟨hchecked, hcopy, h₁, e, h₂, answers, rfl, he, hnone, hans, hrecv⟩, hlast⟩ :=
          hl.latest (hhas ▸ hyes)
        refine ⟨t, ⟨hchecked, htop ▸ hcopy, h₁, e, h₂ ++ [entry step s op], answers, by simp, he, ?_,
          hans, htop ▸ hrecv⟩, hrecord ▸ hlast⟩
        rw [installations_concat, hnone, entry_input, entry_output, hi]
        rfl
  | some t =>
      obtain ⟨topology, answers, ledger, hop, hinst⟩ := hcase.of_installed hi
      rw [hi, Option.toList_some] at hrecord
      have hgen := hinst.generation
      -- every earlier generation is at most the installed one, which the new one exceeds
      have hold : ∀ t' ∈ installations h, generationOf t' < generationOf t := by
        intro t' ht'
        have hhas : s.client.data.hasTopology = true := by
          by_contra hno
          rw [hl.absent.mp (by simpa using hno)] at ht'
          simp at ht'
        have hgt : ¬ generationOf t ≤ s.client.data.topology.view.generation := fun hle =>
          hinst.accepted ⟨hhas, hle⟩
        exact UInt64.lt_of_le_of_lt (hl.bound t' ht') (UInt64.not_le.mp hgt)
      have hhas : (step s op).2.client.data.hasTopology = true :=
        congrArg Client.hasTopology hinst.client
      constructor
      · rw [hrecord, List.map_append, List.map_singleton]
        refine List.pairwise_append.mpr ⟨hl.increasing, List.pairwise_singleton _ _, ?_⟩
        intro g hg g' hg'
        obtain ⟨t', ht', rfl⟩ := List.mem_map.mp hg
        rw [List.mem_singleton.mp hg']
        exact hold t' ht'
      · intro t' ht'
        rw [hrecord] at ht'
        rw [hgen]
        rcases List.mem_append.mp ht' with ht' | ht'
        · exact UInt64.le_of_lt (hold t' ht')
        · rw [List.mem_singleton.mp ht']
          exact UInt64.le_refl _
      · rw [hhas, hrecord]
        simp
      · intro _
        refine ⟨t, ⟨hinst.checked, hinst.copy, h, entry step s op, [], answers, rfl, hi, rfl, hop,
          hinst.received⟩, ?_⟩
        rw [hrecord, List.getLast?_concat]
        rfl

lemma latestInstalled_run (d : Dependencies) (ops : List Op) :
    LatestInstalled (history step (fresh d) ops) (run step (fresh d) ops).client.data :=
  run_rule (P := fun h s => LatestInstalled h s.client.data) d (latestInstalled_fresh d)
    latestInstalled_step ops

/-- From a state with the greatest generation installed nothing is ever installed again. -/
lemma greatest_generation_run {s : State} (hs : s.WellFormed)
    (hhas : s.client.data.hasTopology = true)
    (hmax : s.client.data.topology.view.generation = uint64Max) (ops : List Op) :
    installations (history step s ops) = [] := by
  refine (run_rule_from (P := fun h t => installations h = [] ∧
    t.client.data.hasTopology = true ∧ t.client.data.topology.view.generation = uint64Max)
    hs ⟨rfl, hhas, hmax⟩ ?_ ops).1
  rintro h t op ht ⟨hnone, hhas, hmax⟩
  have hcase := (step_spec ht op).client
  cases hi : installedBy op (step t op).1 with
  | none =>
      obtain ⟨htop, hhas'⟩ := hcase.of_not_installed hi
      refine ⟨?_, hhas'.trans hhas, htop ▸ hmax⟩
      rw [installations_concat, hnone, entry_input, entry_output, hi]
      rfl
  | some r =>
      obtain ⟨topology, answers, ledger, -, hinst⟩ := hcase.of_installed hi
      refine absurd ⟨hhas, ?_⟩ hinst.accepted
      rw [hmax]
      exact UInt64.le_iff_toNat_le.mpr (Nat.le_of_lt_succ (UInt64.toNat_lt _))

/-- **Installed generations strictly increase, and the client holds the last topology installed.**
Along every run the generations of the successful installations increase, so no two are equal. As
long as there was none the client has no topology, and whatever its generation a valid one is put in
use by the first call that offers it and is served. After that the client represents the snapshot of
the last topology installed and has the receipt time that the clock gave to that call; behind the
greatest generation no continuation of the run installs anything. -/
theorem installed_generations_increase (d : Dependencies) (ops : List Op) :
    let h := history step (fresh d) ops
    let c := (run step (fresh d) ops).client.data
    ((installations h).map generationOf).Pairwise (· < ·) ∧
      (c.hasTopology = false ↔ installations h = []) ∧
      (c.hasTopology = false → ∀ r, topologyValidate (some r) = .ok () →
        Installable (run step (fresh d) ops) r) ∧
      (c.hasTopology = true → ∃ h₁ e h₂ t answers, ∃ hchecked : t.val.Checked,
        h = h₁ ++ e :: h₂ ∧ installedBy e.input e.output = some t ∧ installations h₂ = [] ∧
          c.topology.view.generation = generationOf t ∧
          c.topology.view.currentSlot = t.val.view.currentSlot ∧
          c.topology.view.validatorCount = t.val.view.validatorCount ∧
          c.topology.view.endpointCount = t.val.view.endpointCount ∧
          c.topology.view.validatorEndpointCount = t.val.view.validatorEndpointCount ∧
          c.topology.view.leaderCount = t.val.view.leaderCount ∧
          c.topology.Represents (t.val.snapshot hchecked) ∧
          e.input.answers = some answers ∧
          c.topology.receivedMonotonicNs = (answers.clock 0).timeNs) ∧
      (c.hasTopology = true → c.topology.view.generation = uint64Max → ∀ later : List Op,
        installations (history step (run step (fresh d) ops) later) = []) := by
  intro h c
  have hl : LatestInstalled h c := latestInstalled_run d ops
  refine ⟨hl.increasing, hl.absent, ?_, ?_, greatest_generation_run (wellFormed_run d ops)⟩
  · intro hno r hvalid
    exact installable_of_accepts (wellFormed_run d ops) hvalid (acceptsGeneration_of_absent hno _)
  intro hhas
  obtain ⟨t, ⟨hchecked, hcopy, h₁, e, h₂, answers, hsplit, he, hnone, hans, hrecv⟩, -⟩ :=
    hl.latest hhas
  refine ⟨h₁, e, h₂, t, answers, hchecked, hsplit, he, hnone, ?_, ?_, ?_, ?_, ?_, ?_,
    hcopy.represents hchecked, hans, hrecv⟩
  all_goals
    rw [hcopy.view]
    rfl

/-! ### The sample client -/

/-- The sample topology under another generation. -/
def sampleGeneration (generation : UInt64) : Ref CallerTopology :=
  sampleRef { sampleTopology.val with
    view := { sampleTopology.val.view with generation := generation } }

/-- Its installation. -/
def sampleInstallOf (generation : UInt64) : Op :=
  .installTopology .self (some (sampleGeneration generation)) sampleAnswers

/-- Its installation by a provider that lends it. -/
def sampleRefreshOf (generation : UInt64) : Op :=
  .refreshTopology .self (some (sampleRef ⟨32, 0, 0, 56, 64⟩))
    ⟨Status.ok, some (sampleGeneration generation), ⟨32, 0, 0, 56, 64⟩⟩ sampleAnswers

theorem installed_generations_increase_zero :
    let s := fresh sampleDependencies
    installedBy (sampleInstallOf 0) (step s (sampleInstallOf 0)).1 = some (sampleGeneration 0) ∧
      installedBy (sampleRefreshOf 0) (step s (sampleRefreshOf 0)).1 = some (sampleGeneration 0) ∧
      (step s (sampleInstallOf 0)).2.client.data.topology.view.generation = 0 ∧
      installations (history step (run step s [sampleInstallOf 0, sampleInstallOf uint64Max])
        [sampleInstallOf 0, sampleInstallOf uint64Max]) = [] := by
  have hfirst : Installable (fresh sampleDependencies) (sampleGeneration 0) :=
    (installed_generations_increase sampleDependencies []).2.2.1 rfl _ rfl
  have hlast := (installed_generations_increase sampleDependencies
    [sampleInstallOf 0, sampleInstallOf uint64Max]).2.2.2.2 (by decide) (by decide)
    [sampleInstallOf 0, sampleInstallOf uint64Max]
  exact ⟨hfirst.direct sampleAnswers (by decide) rfl,
    hfirst.refreshed _ _ sampleAnswers rfl (by decide) (by decide) rfl, by decide, hlast⟩

end SolanaTpuClient
