import SolanaTpuClient.Properties.Installations
import SolanaTpuClient.Properties.Identifiers

/-!
Accepted requests along runs.

A request keeps for ever what the submission that created it was given and what the snapshot
installed at that moment said. `RoutedBy` ties a request to that submission and that snapshot in
the record of a run; it only speaks of a prefix of the record, so no later call can falsify it
(`RoutedBy.concat`), and the requests themselves are never touched (`StepCase.requestHead`).
-/

namespace SolanaTpuClient

open ByteMemory FirstOccurrence Transition

variable {c c' : Client} {op : Op} {o : Outcome}

/-- A call adds at most one request, in front. -/
lemma StepCase.requestHead (h : StepCase c op o c') :
    c'.requestHead = c.requestHead ∨ ∃ r, c'.requestHead = r :: c.requestHead := by
  cases h with
  | kept hc _ _ _ => exact Or.inl (by rw [hc])
  | installed _ hinst _ _ _ => exact Or.inl (by rw [hinst.client])
  | accepted _ _ hacc _ _ _ =>
      obtain ⟨r, rfl, -⟩ := hacc.client
      exact Or.inr ⟨r, rfl⟩
  | drained hc _ _ _ _ => exact Or.inl (by rw [hc])

/-- The request `r` was accepted by a submission of the record `h` and is routed by the topology
that was installed last before it. -/
structure RoutedBy (h : List Step) (r : OwnedRequest) (t : Ref CallerTopology) : Prop where
  checked : t.val.Checked
  submission : ∃ h₁ e h₂ bytes length options outRequestId answers,
    h = h₁ ++ e :: h₂ ∧
      e.input = .submit .self (some bytes) length options outRequestId answers ∧
      acceptedBy e.output = some r.requestId ∧ t ∈ (installations h₁).getLast? ∧
      (policyOf options).targetLimit ≠ 0 ∧
      (t.val.snapshot checked).Routable (t.val.snapshot checked).currentSlot ∧
      r.Records (t.val.snapshot checked) r.requestId bytes length (policyOf options).targetLimit

/-- A later step does not change what a request was routed by. -/
lemma RoutedBy.concat {h : List Step} {r : OwnedRequest} {t : Ref CallerTopology}
    (hr : RoutedBy h r t) (e : Step) : RoutedBy (h ++ [e]) r t := by
  obtain ⟨hchecked, h₁, e', h₂, bytes, length, options, out, answers, rfl, hrest⟩ := hr
  exact ⟨hchecked, h₁, e', h₂ ++ [e], bytes, length, options, out, answers, by simp, hrest⟩

/-- The record of a run ties every accepted request to its submission. -/
lemma routedBy_run (d : Dependencies) (ops : List Op) :
    ∀ r ∈ (run step (fresh d) ops).client.data.requestHead,
      ∃ t, RoutedBy (history step (fresh d) ops) r.data t := by
  refine (run_rule (P := fun h s => LatestInstalled h s.client.data ∧
    ∀ r ∈ s.client.data.requestHead, ∃ t, RoutedBy h r.data t) d
    ⟨latestInstalled_fresh d, by simp [fresh, Dependencies.client, Client.zero]⟩ ?_ ops).2
  rintro h s op hs ⟨hl, hall⟩
  refine ⟨latestInstalled_step h s op hs hl, ?_⟩
  have hkeep : ∀ r ∈ s.client.data.requestHead,
      ∃ t, RoutedBy (h ++ [entry step s op]) r.data t := by
    intro r hr
    obtain ⟨t, ht⟩ := hall r hr
    exact ⟨t, ht.concat _⟩
  cases (step_spec hs op).client with
  | kept hc _ _ _ => rwa [hc]
  | installed _ hinst _ _ _ => rwa [hinst.client]
  | @accepted S bytes length options out answers id hop hS hacc _ ha _ =>
      obtain ⟨r, hc, hrecords⟩ := hacc.client
      rw [hc]
      intro r' hr'
      rcases List.mem_cons.mp hr' with rfl | hr'
      · obtain ⟨t, ⟨hchecked, hcopy, -⟩, hlast⟩ := hl.latest hacc.hasTopology
        obtain rfl := hS.unique (hcopy.represents hchecked)
        have hid := hrecords.requestId
        refine ⟨t, hchecked, h, entry step s op, [], bytes, length, options, out, answers, rfl, hop,
          ?_, hlast, hacc.limit_ne_zero, hacc.routable, ?_⟩
        · rw [entry_output, ha, hid]
        · rwa [hid]
      · exact hkeep r' hr'
  | drained hc _ _ _ _ => rwa [hc]

/-- The requests accepted so far stay, unchanged and in order, behind whatever is accepted
later. -/
lemma requestHead_run {s : State} (hs : s.WellFormed) (ops : List Op) :
    s.client.data.requestHead <:+ (run step s ops).client.data.requestHead := by
  refine run_of_preorder (P := State.WellFormed)
    (R := fun s t => s.client.data.requestHead <:+ t.client.data.requestHead)
    (fun t => List.suffix_refl _) (fun h h' => h.trans h') wellFormed_step ?_ hs ops
  intro t op ht
  rcases (step_spec ht op).client.requestHead with h | ⟨r, h⟩
  · rw [h]
  · rw [h]
    exact List.suffix_cons r _

/-- In a list with increasing keys one element has the key of a given one. -/
lemma filter_key_eq {α : Type} {key : α → UInt64} {l : List α}
    (h : (l.map key).Pairwise (· < ·)) {a : α} (ha : a ∈ l) :
    l.filter (fun b => key b = key a) = [a] := by
  induction l with
  | nil => simp at ha
  | cons b l ih =>
      rw [List.map_cons, List.pairwise_cons] at h
      rcases List.mem_cons.mp ha with rfl | ha
      · have hrest : l.filter (fun b => key b = key a) = [] := by
          refine List.filter_eq_nil_iff.mpr fun b hb => ?_
          have hlt := h.1 _ (List.mem_map.mpr ⟨b, hb, rfl⟩)
          simpa using (UInt64.ne_of_lt hlt).symm
        rw [List.filter_cons_of_pos (by simp), hrest]
      · have hlt := h.1 _ (List.mem_map.mpr ⟨a, ha, rfl⟩)
        rw [List.filter_cons_of_neg (by simpa using UInt64.ne_of_lt hlt), ih h.2 ha]

/-- **Accepted requests are never retargeted, altered or dropped.** Along every run, every accepted
request was created by a submission of the run that returned its identifier, and exactly one
installation of the run carried its generation, before that submission. With `S` the snapshot of
that installation, the request has the current slot of `S`, the bytes and the length given to the
submission and, as its nonempty targets, the first distinct targets of the resolution of `S` at
that slot up to the target limit of the submission, each with the identity and the endpoint `S`
has at its indices. Every later call leaves the accepted requests as they are, behind at most one
new one. -/
theorem requests_never_retargeted (d : Dependencies) (ops : List Op) :
    let h := history step (fresh d) ops
    let s := run step (fresh d) ops
    (∀ r ∈ s.client.data.requestHead, ∃ t, ∃ hchecked : t.val.Checked,
      let S := t.val.snapshot hchecked
      (installations h).filter (fun t' => generationOf t' = r.data.topologyGeneration) = [t] ∧
      ∃ h₁ e h₂ bytes length options outRequestId answers,
        h = h₁ ++ e :: h₂ ∧ t ∈ installations h₁ ∧
        e.input = .submit .self (some bytes) length options outRequestId answers ∧
        acceptedBy e.output = some r.data.requestId ∧
        r.data.routingSlot = S.currentSlot ∧
        Block.dataOf r.data.transactionBytes = some (slice bytes 0 length.toNat) ∧
        r.data.transactionLength = length ∧
        ∃ targets, Block.dataOf r.data.targets = some targets ∧ targets ≠ [] ∧
          r.data.targetCount = targets.length ∧
          targets.map some = ((firstsBy TopologyCandidate.target
            (S.resolution S.currentSlot)).take (policyOf options).targetLimit).map S.target?) ∧
    (∀ op, (step s op).2.client.data.requestHead = s.client.data.requestHead ∨
      ∃ r, (step s op).2.client.data.requestHead = r :: s.client.data.requestHead) ∧
    ∀ later : List Op,
      s.client.data.requestHead <:+ (run step s later).client.data.requestHead := by
  intro h s
  have hs : s.WellFormed := wellFormed_run d ops
  refine ⟨?_, fun op => (step_spec hs op).client.requestHead, requestHead_run hs⟩
  intro r hr
  obtain ⟨t, hchecked, h₁, e, h₂, bytes, length, options, out, answers, hsplit, hop, hid, hlast,
    hlimit, hroutable, hrecords⟩ := routedBy_run d ops r hr
  have hmem : t ∈ installations h₁ := List.mem_of_getLast? hlast
  have hgen : r.data.topologyGeneration = generationOf t := hrecords.topologyGeneration
  refine ⟨t, hchecked, ?_, h₁, e, h₂, bytes, length, options, out, answers, hsplit, hmem, hop, hid,
    hrecords.routingSlot, hrecords.transactionBytes, hrecords.transactionLength, _,
    hrecords.targets, ?_, ?_, Snapshot.targets_map_some _ _ _⟩
  · have hincreasing : ((installations h).map generationOf).Pairwise (· < ·) :=
      (latestInstalled_run d ops).increasing
    have hin : t ∈ installations h := by
      have happend : installations h = installations h₁ ++ installations (e :: h₂) := by
        rw [show h = h₁ ++ e :: h₂ from hsplit, installations, List.filterMap_append]
        rfl
      rw [happend]
      exact List.mem_append_left _ hmem
    rw [hgen]
    exact filter_key_eq hincreasing hin
  · have hlength := (t.val.snapshot hchecked).targets_length
      (t.val.snapshot hchecked).currentSlot (policyOf options).targetLimit
    intro hnil
    rw [hnil, List.length_nil] at hlength
    exact Snapshot.plan_ne_nil hlimit hroutable (List.eq_nil_of_length_eq_zero hlength.symm)
  · rw [hrecords.targetCount]
    exact (Snapshot.targets_length _ _ _).symm

end SolanaTpuClient
