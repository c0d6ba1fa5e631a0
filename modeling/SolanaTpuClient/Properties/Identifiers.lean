import SolanaTpuClient.Delivery.Client

/-!
Request identifiers along runs.

`Client.Numbered` says that the accepted requests are numbered downwards from the newest to one;
every call keeps it (`StepCase.numbered`), and every call adds to the list of identifiers exactly
what it returns (`StepCase.requestIds`). So the identifiers returned along a run are the list read
backwards (`requestIds_run`). At the last identifier the counter becomes zero, and from there on
nothing is accepted (`exhausted_run`).
-/

namespace SolanaTpuClient

open Transition

/-- The identifiers of the accepted requests, newest first. -/
def requestIds (c : Client) : List UInt64 := c.requestHead.map fun r => r.data.requestId

/-- `n, n - 1, …, 1`. -/
def countdown (n : ℕ) : List ℕ := (List.range n).reverse.map (· + 1)

lemma countdown_succ (n : ℕ) : countdown (n + 1) = (n + 1) :: countdown n := by
  simp [countdown, List.range_succ]

/-- The accepted requests are numbered down to one, and the counter holds the number after the
newest, zero if that does not fit. -/
structure Client.Numbered (c : Client) : Prop where
  length_lt : c.requestHead.length < 2 ^ 64
  ids : (requestIds c).map UInt64.toNat = countdown c.requestHead.length
  next : c.nextRequestId = UInt64.ofNat (c.requestHead.length + 1)

lemma numbered_fresh (d : Dependencies) : (fresh d).client.data.Numbered :=
  ⟨Nat.two_pow_pos 64, rfl, rfl⟩

/-- The counter goes up by one and wraps to zero behind the last identifier. -/
lemma advanceRequestId_eq (id : UInt64) : advanceRequestId id = id + 1 := by
  rw [advanceRequestId]
  split_ifs with h
  · rw [h]
    rfl
  · rfl

variable {c c' : Client} {op : Op} {o : Outcome}

/-- A call adds to the list of identifiers what it returns. -/
lemma StepCase.requestIds (h : StepCase c op o c') :
    requestIds c' = (acceptedBy o).toList ++ requestIds c := by
  cases h with
  | kept hc _ ha _ => rw [hc, ha, Option.toList_none, List.nil_append]
  | installed _ hinst _ ha _ =>
      rw [hinst.client, ha, Option.toList_none, List.nil_append]
      rfl
  | accepted _ _ hacc _ ha _ =>
      obtain ⟨r, rfl, hrecords⟩ := hacc.client
      rw [ha, Option.toList_some, List.singleton_append, ← hrecords.requestId]
      rfl
  | drained hc _ _ _ ha =>
      rw [hc, ha, Option.toList_none, List.nil_append]
      rfl

/-- An accepted request has the identifier that was next, which is not zero. -/
lemma StepCase.accepted_id (h : StepCase c op o c') {id : UInt64} (ha : acceptedBy o = some id) :
    id = c.nextRequestId ∧ id ≠ requestIdNone := by
  cases h with
  | kept _ _ ha' _ => simp [ha'] at ha
  | installed _ _ _ ha' _ => simp [ha'] at ha
  | accepted _ _ hacc _ ha' _ =>
      obtain rfl := Option.some.inj (ha'.symm.trans ha)
      exact ⟨hacc.id_eq, hacc.id_ne_none⟩
  | drained _ _ _ _ ha' => simp [ha'] at ha

/-- A call that accepts nothing leaves the requests and the counter alone. -/
lemma StepCase.of_not_accepted (h : StepCase c op o c') (ha : acceptedBy o = none) :
    c'.requestHead = c.requestHead ∧ c'.nextRequestId = c.nextRequestId := by
  cases h with
  | kept hc _ _ _ => rw [hc]; exact ⟨rfl, rfl⟩
  | installed _ hinst _ _ _ => rw [hinst.client]; exact ⟨rfl, rfl⟩
  | accepted _ _ _ _ ha' _ => simp [ha'] at ha
  | drained hc _ _ _ _ => rw [hc]; exact ⟨rfl, rfl⟩

/-- **Every call keeps the numbering.** -/
lemma StepCase.numbered (h : StepCase c op o c') (hc : c.Numbered) : c'.Numbered := by
  cases ha : acceptedBy o with
  | none =>
      obtain ⟨hhead, hnext⟩ := h.of_not_accepted ha
      have hids := h.requestIds
      rw [ha, Option.toList_none, List.nil_append] at hids
      exact ⟨hhead ▸ hc.length_lt, by rw [hids, hhead, hc.ids], by rw [hnext, hhead, hc.next]⟩
  | some id =>
      obtain ⟨hid, hne⟩ := h.accepted_id ha
      have hids := h.requestIds
      rw [ha, Option.toList_some, List.singleton_append] at hids
      have hlen : c'.requestHead.length = c.requestHead.length + 1 := by
        simpa [SolanaTpuClient.requestIds] using congrArg List.length hids
      have hlt : c.requestHead.length + 1 < 2 ^ 64 := by
        have hbound := hc.length_lt
        rcases Nat.lt_or_ge (c.requestHead.length + 1) (2 ^ 64) with hlt | hge
        · exact hlt
        · have hwrap : c.requestHead.length + 1 = 2 ^ 64 := by omega
          rw [hc.next, hwrap] at hid
          exact absurd hid hne
      have hnum : id.toNat = c.requestHead.length + 1 := by
        rw [hid, hc.next, UInt64.toNat_ofNat', Nat.mod_eq_of_lt hlt]
      refine ⟨hlen ▸ hlt, ?_, ?_⟩
      · rw [hids, List.map_cons, hc.ids, hnum, hlen, countdown_succ]
      · have hadvance : c'.nextRequestId = advanceRequestId c.nextRequestId := by
          cases h with
          | kept _ _ ha' _ => simp [ha'] at ha
          | installed _ _ _ ha' _ => simp [ha'] at ha
          | accepted _ _ hacc _ _ _ =>
              obtain ⟨r, rfl, -⟩ := hacc.client
              rfl
          | drained _ _ _ _ ha' => simp [ha'] at ha
        rw [hadvance, advanceRequestId_eq, hc.next, hlen, UInt64.ofNat_add (_ + 1) 1]
        rfl

/-! ### Runs -/

lemma numbered_run (d : Dependencies) (ops : List Op) :
    (run step (fresh d) ops).client.data.Numbered :=
  run_rule (P := fun _ s => s.client.data.Numbered) d (numbered_fresh d)
    (fun _ _ op hs hnum => (step_spec hs op).client.numbered hnum) ops

/-- The identifiers returned along a run are those of the accepted requests, oldest first. -/
lemma requestIds_run (d : Dependencies) (ops : List Op) :
    requestIds (run step (fresh d) ops).client.data
      = (acceptedIds (history step (fresh d) ops)).reverse := by
  refine run_rule (P := fun h s => requestIds s.client.data = (acceptedIds h).reverse) d rfl ?_ ops
  intro h s op hs hids
  have hstep := (step_spec hs op).client.requestIds
  rw [hstep, hids, acceptedIds_concat, List.reverse_append, entry_output]
  congr 1
  cases acceptedBy (step s op).1 <;> rfl

/-- The identifiers returned along a run are one, two, and so on. -/
lemma acceptedIds_run (d : Dependencies) (ops : List Op) :
    (acceptedIds (history step (fresh d) ops)).map UInt64.toNat
      = (List.range (run step (fresh d) ops).client.data.requestHead.length).map (· + 1) := by
  have h := (numbered_run d ops).ids
  rw [requestIds_run, List.map_reverse, countdown, List.map_reverse] at h
  exact List.reverse_injective h

/-- From a state whose counter is zero nothing is ever accepted again. -/
lemma exhausted_run {s : State} (hs : s.WellFormed)
    (hnone : s.client.data.nextRequestId = requestIdNone) (ops : List Op) :
    acceptedIds (history step s ops) = [] ∧
      (run step s ops).client.data.requestHead = s.client.data.requestHead := by
  have h := run_rule_from (P := fun h t => acceptedIds h = [] ∧
      t.client.data.requestHead = s.client.data.requestHead ∧
      t.client.data.nextRequestId = requestIdNone) hs ⟨rfl, rfl, hnone⟩ ?_ ops
  · exact ⟨h.1, h.2.1⟩
  rintro h t op ht ⟨hids, hhead, hnext⟩
  have hstep := (step_spec ht op).client
  have hnot : acceptedBy (step t op).1 = none := by
    cases ha : acceptedBy (step t op).1 with
    | none => rfl
    | some id =>
        obtain ⟨hid, hne⟩ := hstep.accepted_id ha
        exact absurd (hid.trans hnext) hne
  obtain ⟨hhead', hnext'⟩ := hstep.of_not_accepted hnot
  refine ⟨?_, hhead'.trans hhead, hnext'.trans hnext⟩
  rw [acceptedIds_concat, hids, entry_output, hnot]
  rfl

/-- **Identifiers are never zero, never repeated and never wrap.** Along every run the submissions
that return `OK` return strictly increasing identifiers, none of them zero; the accepted requests
are numbered downwards to one from the newest; the counter is one more than the newest identifier,
or zero behind the last one; and once it is zero no continuation of the run accepts a request or
changes the requests. -/
theorem request_identifiers_increase (d : Dependencies) (ops : List Op) :
    let returned := acceptedIds (history step (fresh d) ops)
    let c := (run step (fresh d) ops).client.data
    returned.Pairwise (· < ·) ∧ requestIdNone ∉ returned ∧
      (requestIds c).map UInt64.toNat = countdown c.requestHead.length ∧
      c.nextRequestId = (match requestIds c with
        | [] => 1
        | id :: _ => if id = uint64Max then requestIdNone else id + 1) ∧
      (c.nextRequestId = requestIdNone → ∀ later : List Op,
        acceptedIds (history step (run step (fresh d) ops) later) = [] ∧
          (run step (run step (fresh d) ops) later).client.data.requestHead = c.requestHead) := by
  intro returned c
  have hnum : c.Numbered := numbered_run d ops
  have hreturned : returned.map UInt64.toNat = (List.range c.requestHead.length).map (· + 1) :=
    acceptedIds_run d ops
  refine ⟨?_, ?_, hnum.ids, ?_, fun hnone => exhausted_run (wellFormed_run d ops) hnone⟩
  · have hsorted : (returned.map UInt64.toNat).Pairwise (· < ·) := by
      rw [hreturned, List.pairwise_map]
      exact List.pairwise_lt_range.imp fun h => by omega
    exact (List.pairwise_map.mp hsorted).imp fun h => UInt64.lt_iff_toNat_lt.mpr h
  · intro hmem
    have hzero : 0 ∈ returned.map UInt64.toNat := List.mem_map.mpr ⟨_, hmem, rfl⟩
    rw [hreturned] at hzero
    obtain ⟨i, -, hi⟩ := List.mem_map.mp hzero
    omega
  · have hids := hnum.ids
    cases hhead : requestIds c with
    | nil =>
        rw [hhead, List.map_nil] at hids
        have hlen : c.requestHead.length = 0 := by
          simpa [countdown] using (congrArg List.length hids).symm
        rw [hnum.next, hlen]
        rfl
    | cons id ids =>
        have hlen : c.requestHead.length = ids.length + 1 := by
          simpa [requestIds] using congrArg List.length hhead
        rw [hhead, hlen, countdown_succ, List.map_cons] at hids
        have hid : id.toNat = ids.length + 1 := (List.cons.inj hids).1
        have hofNat : id = UInt64.ofNat (ids.length + 1) := by rw [← hid, UInt64.ofNat_toNat]
        rw [hnum.next, hlen, UInt64.ofNat_add (_ + 1) 1, ← hofNat]
        exact (advanceRequestId_eq id).symm

end SolanaTpuClient
