import SolanaTpuClient.Lib.Transition
import SolanaTpuClient.Delivery.Discovery
import SolanaTpuClient.Delivery.SubmissionSpec

/-!
The client as a state machine: one created client and the ledger of its allocator, under calls of
`install_topology`, `refresh_topology`, `submit` and `poll_events` with arbitrary arguments.

The answers of the allocator, of the clock and of the provider to a call are part of the call
(`Op`), and so is a null client pointer. `step_spec` says once what a call can do to the client;
`State.WellFormed` is the invariant every run keeps (`wellFormed_run`).
-/

namespace SolanaTpuClient

open ByteMemory Procedure Transition

/-! ### States and calls -/

/-- A created client and the ledger of its allocator. -/
structure State where
  client : Block Client
  ledger : Ledger

/-- The dependencies a client can be created with, and the address of its block. -/
structure Dependencies where
  allocator : Allocator
  allocator_valid : allocatorIsValid (some allocator) = true
  monotonicTimeFn : Addr
  monotonicTimeFn_ne_null : monotonicTimeFn ≠ 0
  monotonicTimeContext : Addr
  clientAddr : BlockAddr

/-- The client a creation leaves. -/
def Dependencies.client (d : Dependencies) : Client :=
  { Client.zero with
    allocator := d.allocator
    monotonicTimeFn := d.monotonicTimeFn
    monotonicTimeContext := d.monotonicTimeContext
    nextRequestId := 1 }

/-- The state after a creation. -/
def fresh (d : Dependencies) : State := ⟨⟨0, d.clientAddr, d.client⟩, Ledger.empty.alloc⟩

/-- The client pointer of a call. -/
inductive Handle where
  | null
  | self
deriving DecidableEq

/-- A call on the client, with what the environment answers during it. -/
inductive Op where
  | installTopology (handle : Handle) (topology : Option (Ref CallerTopology)) (answers : Answers)
  | refreshTopology (handle : Handle) (provider : Option (Ref DiscoveryProvider))
      (acquired : AcquireAnswer) (answers : Answers)
  | submit (handle : Handle) (transactionBytes : Option Bytes) (transactionLength : UInt64)
      (options : Option (Ref SubmitOptions)) (outRequestId : Option (Ref UInt64))
      (answers : Answers)
  | pollEvents (handle : Handle) (events : Option (Ref Bytes)) (eventCapacity : UInt64)
      (eventStride : UInt32) (outEventCount : Option (Ref UInt64))

/-- What a call returns and stores. -/
inductive Outcome where
  | installed (status : Status)
  | refreshed (status : Status) (calls : List ProviderCall)
  | submitted (status : Status) (outRequestId : Option UInt64)
  | polled (status : Status) (events : Option Bytes) (outEventCount : Option UInt64)

/-- The client behind a handle. -/
def State.behind (s : State) : Handle → Option Client
  | .null => none
  | .self => some s.client.data

/-- The state after a call has left `client` behind its pointer. -/
def State.leave (s : State) (client : Option Client) (ledger : Ledger) : State :=
  ⟨{ s.client with data := client.getD s.client.data }, ledger⟩

/-- What the allocator and the clock answer to a call; a poll asks neither. -/
def Op.answers : Op → Option Answers
  | .installTopology _ _ answers => some answers
  | .refreshTopology _ _ _ answers => some answers
  | .submit _ _ _ _ _ answers => some answers
  | .pollEvents .. => none

/-- One call. -/
def step (s : State) : Op → Outcome × State
  | .installTopology handle topology answers =>
      let r := clientInstallTopology (s.behind handle) topology (World.start answers s.ledger)
      (.installed r.status, s.leave r.client r.world.ledger)
  | .refreshTopology handle provider acquired answers =>
      let r := clientRefreshTopology (s.behind handle) provider acquired
        (World.start answers s.ledger)
      (.refreshed r.status r.calls, s.leave r.client r.world.ledger)
  | .submit handle transactionBytes transactionLength options outRequestId answers =>
      let r := clientSubmit (s.behind handle) transactionBytes transactionLength options
        outRequestId (World.start answers s.ledger)
      (.submitted r.status r.outRequestId, s.leave r.client r.world.ledger)
  | .pollEvents handle events eventCapacity eventStride outEventCount =>
      let r := clientPollEvents (s.behind handle) events eventCapacity eventStride outEventCount
      (.polled r.status r.events r.outEventCount, s.leave r.client s.ledger)

/-- A step of the client in the record of a run. -/
abbrev Step := Entry State Op Outcome

/-! ### What a step shows -/

/-- The topology a step has installed. -/
def installedBy : Op → Outcome → Option (Ref CallerTopology)
  | .installTopology _ topology _, .installed status =>
      if status = Status.ok then topology else none
  | .refreshTopology _ _ acquired _, .refreshed status _ =>
      if status = Status.ok then acquired.topology else none
  | _, _ => none

/-- The identifier a submission that returned `OK` has stored. -/
def acceptedBy : Outcome → Option UInt64
  | .submitted status outRequestId =>
      if status = Status.ok then some (outRequestId.getD requestIdNone) else none
  | _ => none

/-- The events a step has put into the caller's buffer. -/
def deliveredBy : Op → Outcome → List Event
  | .pollEvents _ _ _ eventStride _, .polled status events outEventCount =>
      PollResult.delivered ⟨status, none, events, outEventCount⟩ eventStride
  | _, _ => []

/-! ### The invariant -/

/-- What holds of the topology of a client: there is none, or it is a copy of an accepted caller
topology. -/
inductive TopologyState (c : Client) : Prop where
  | absent : c.hasTopology = false → c.topology = OwnedTopology.zero → TopologyState c
  | installed {t : CallerTopology} : c.hasTopology = true → t.Checked → c.topology.CopyOf t →
      TopologyState c

/-- The snapshot of no topology. -/
def Snapshot.empty : Snapshot where
  generation := 0
  currentSlot := 0
  validators := []
  endpoints := []
  validatorEndpoints := []
  leaders := []
  validators_length := by decide
  endpoints_length := by decide
  validatorEndpoints_length := by decide
  leaders_length := by decide
  association_lt := by simp
  leader_lt := by simp
  leader_le := by simp

/-- The topology of a client always represents a snapshot. -/
lemma TopologyState.represents {c : Client} (h : TopologyState c) :
    ∃ S, c.topology.Represents S := by
  cases h with
  | absent _ hzero =>
      rw [hzero]
      exact ⟨Snapshot.empty, rfl, rfl, rfl, rfl, rfl, rfl⟩
  | installed _ hchecked hcopy => exact ⟨_, hcopy.represents hchecked⟩

/-- The invariant of the client. -/
structure State.WellFormed (s : State) : Prop where
  allocator : allocatorIsValid (some s.client.data.allocator) = true
  topology : TopologyState s.client.data
  owns : s.ledger.Owns (s.client.data.blocks + {s.client.id})

lemma wellFormed_fresh (d : Dependencies) : (fresh d).WellFormed where
  allocator := d.allocator_valid
  topology := .absent rfl rfl
  owns := by
    have h := Ledger.owns_empty.alloc
    exact h.congr rfl

/-! ### Calls that install -/

variable {c : Client} {M : Multiset ℕ} {answers : Answers}

/-- The ways `solana_delivery_client_install_topology` goes. -/
inductive InstallOutcome (c : Client) (topology : Option (Ref CallerTopology)) (M : Multiset ℕ)
    (w : World) (r : CallResult) : Prop where
  | rejected {e : Status} : InstallFailure c topology w e → r.status = e → r.client = some c →
      r.world.ledger.Owns (c.blocks + M) → InstallOutcome c topology M w r
  | installed {t : Ref CallerTopology} {c' : Client} : InstallSuccess c topology w t c' →
      r.status = Status.ok → r.client = some c' → r.world.ledger.Owns (c'.blocks + M) →
      InstallOutcome c topology M w r

/-- **The installation call** on a client whose blocks are owned. -/
theorem clientInstallTopology_cases {w : World}
    (hvalid : allocatorIsValid (some c.allocator) = true) (hM : w.ledger.Owns (c.blocks + M))
    (topology : Option (Ref CallerTopology)) :
    InstallOutcome c topology M w (clientInstallTopology (some c) topology w) := by
  have h : Ensures (installTopology topology) ⟨c, w⟩ _ _ := ensures_installTopology hvalid hM
  rcases h.cases with ⟨u, s, hres, ⟨t, ht⟩, howns⟩ | ⟨e, s, hres, hfail, hclient, howns⟩
  · simp only [clientInstallTopology, callOnClient, hres]
    exact .installed ht rfl rfl howns
  · simp only [clientInstallTopology, callOnClient, hres]
    exact .rejected hfail rfl (congrArg some hclient) howns

lemma InstallSuccess.checked {topology : Option (Ref CallerTopology)} {w : World}
    {t : Ref CallerTopology} {c' : Client} (h : InstallSuccess c topology w t c') :
    t.val.Checked :=
  checked_of_validate (h.argument ▸ h.valid)

lemma InstallSuccess.topologyState {topology : Option (Ref CallerTopology)} {w : World}
    {t : Ref CallerTopology} {c' : Client} (h : InstallSuccess c topology w t c') :
    TopologyState c' :=
  .installed (congrArg Client.hasTopology h.client) h.checked h.copy

/-! ### What a step does -/

/-- What a call does to the client. -/
inductive StepCase (c : Client) (op : Op) (o : Outcome) (c' : Client) : Prop where
  | kept : c' = c → installedBy op o = none → acceptedBy o = none → deliveredBy op o = [] →
      StepCase c op o c'
  | installed {topology : Option (Ref CallerTopology)} {answers : Answers} {ledger : Ledger}
      {t : Ref CallerTopology} : op.answers = some answers →
      InstallSuccess c topology (World.start answers ledger) t c' → installedBy op o = some t →
      acceptedBy o = none → deliveredBy op o = [] → StepCase c op o c'
  | accepted {S : Snapshot} {bytes : Bytes} {length : UInt64} {options : Option (Ref SubmitOptions)}
      {outRequestId : Option (Ref UInt64)} {answers : Answers} {id : UInt64} :
      op = .submit .self (some bytes) length options outRequestId answers →
      c.topology.Represents S →
      SubmitAccepted c S bytes length (policyOf options).targetLimit (answers.clock 1).timeNs id c' →
      installedBy op o = none → acceptedBy o = some id → deliveredBy op o = [] →
      StepCase c op o c'
  | drained {q : EventQueue} {n : ℕ} : c' = { c with eventQueue := q } →
      deliveredBy op o = c.eventQueue.pending.take n → q.pending = c.eventQueue.pending.drop n →
      installedBy op o = none → acceptedBy o = none → StepCase c op o c'

/-- What a call does to the state: one of the cases for the client, whose blocks stay owned. -/
structure StepSpec (s : State) (op : Op) (o : Outcome) (s' : State) : Prop where
  id : s'.client.id = s.client.id
  addr : s'.client.addr = s.client.addr
  owns : s'.ledger.Owns (s'.client.data.blocks + {s'.client.id})
  client : StepCase s.client.data op o s'.client.data

lemma clientSubmit_null (transactionBytes : Option Bytes) (transactionLength : UInt64)
    (options : Option (Ref SubmitOptions)) (outRequestId : Option (Ref UInt64)) (w : World) :
    clientSubmit none transactionBytes transactionLength options outRequestId w
      = ⟨⟨Status.invalidArgument, none, w⟩, clearedRequestId outRequestId⟩ := by
  unfold clientSubmit clearedRequestId
  by_cases hout : pointerIsAlignedFor outRequestId 8 = false
  · rw [if_pos hout, if_pos hout]
  · rw [if_neg hout, if_neg hout]

/-- A call that leaves the state as it is. -/
lemma kept_spec {s : State} (hs : s.WellFormed) {op : Op} {o : Outcome} (hi : installedBy op o = none)
    (ha : acceptedBy o = none) (hd : deliveredBy op o = []) : StepSpec s op o s :=
  ⟨rfl, rfl, hs.owns, .kept rfl hi ha hd⟩

/-- A call that ends like an installation. -/
lemma installing_spec {s : State} {op : Op} {o : Outcome} {topology : Option (Ref CallerTopology)}
    {r : CallResult} (hop : op.answers = some answers)
    (h : InstallOutcome s.client.data topology {s.client.id} (World.start answers s.ledger) r)
    (hok : r.status = Status.ok → installedBy op o = topology)
    (hne : r.status ≠ Status.ok → installedBy op o = none) (ha : acceptedBy o = none)
    (hd : deliveredBy op o = []) : StepSpec s op o (s.leave r.client r.world.ledger) := by
  cases h with
  | rejected hfail hstatus hclient howns =>
      rw [hclient]
      exact ⟨rfl, rfl, howns, .kept rfl (hne (hstatus ▸ hfail.ne_ok)) ha hd⟩
  | installed hinst hstatus hclient howns =>
      rw [hclient]
      exact ⟨rfl, rfl, howns,
        .installed hop hinst ((hok hstatus).trans hinst.argument) ha hd⟩

/-- **One call**, from a state with the invariant. -/
theorem step_spec {s : State} (hs : s.WellFormed) (op : Op) :
    StepSpec s op (step s op).1 (step s op).2 := by
  cases op with
  | installTopology handle topology answers =>
      cases handle with
      | null =>
          have hnone : installedBy (.installTopology .null topology answers)
              (.installed Status.invalidArgument) = none := by
            rw [installedBy, if_neg Status.invalidArgument_ne_ok]
          exact kept_spec hs hnone rfl rfl
      | self =>
          exact installing_spec rfl (clientInstallTopology_cases hs.allocator hs.owns topology)
            (fun hok => if_pos hok) (fun hne => if_neg hne) rfl rfl
  | refreshTopology handle provider acquired answers =>
      cases handle with
      | null =>
          have hnone : installedBy (.refreshTopology .null provider acquired answers)
              (.refreshed Status.invalidArgument []) = none := by
            rw [installedBy, if_neg Status.invalidArgument_ne_ok]
          exact kept_spec hs hnone rfl rfl
      | self =>
          have h := clientRefreshTopology_cases (some s.client.data) provider acquired
            (World.start answers s.ledger)
          simp only [step, State.behind]
          generalize clientRefreshTopology (some s.client.data) provider acquired
            (World.start answers s.ledger) = r at h
          obtain ⟨r, calls⟩ := r
          cases h with
          | stopped _ hne => exact ⟨rfl, rfl, hs.owns, .kept rfl (if_neg hne) rfl rfl⟩
          | attempted _ htopology =>
              refine installing_spec rfl (clientInstallTopology_cases hs.allocator hs.owns _)
                (fun hok => ?_) (fun hne => if_neg hne) rfl rfl
              exact (if_pos hok).trans htopology
  | submit handle transactionBytes transactionLength options outRequestId answers =>
      cases handle with
      | null =>
          have h := clientSubmit_null transactionBytes transactionLength options outRequestId
            (World.start answers s.ledger)
          simp only [step, State.behind, h]
          refine kept_spec hs rfl ?_ rfl
          rw [acceptedBy, if_neg Status.invalidArgument_ne_ok]
      | self =>
          obtain ⟨S, hS⟩ := hs.topology.represents
          have h : SubmitOutcome S s.client.data {s.client.id} transactionBytes transactionLength
              options outRequestId answers _ :=
            clientSubmit_cases hS hs.owns transactionBytes transactionLength options outRequestId
          simp only [step, State.behind]
          generalize clientSubmit (some s.client.data) transactionBytes transactionLength options
            outRequestId (World.start answers s.ledger) = r at h
          cases h with
          | rejected _ hne hstatus hclient _ howns =>
              rw [hclient]
              refine ⟨rfl, rfl, howns, .kept rfl rfl ?_ rfl⟩
              rw [acceptedBy, hstatus, if_neg hne]
          | accepted _ hstatus hclient hid hbytes _ haccepted howns =>
              rw [hclient]
              refine ⟨rfl, rfl, howns, .accepted (by rw [hbytes]) hS haccepted rfl ?_ rfl⟩
              rw [acceptedBy, hstatus, if_pos rfl, hid, Option.getD_some]
  | pollEvents handle events eventCapacity eventStride outEventCount =>
      have h := clientPollEvents_cases (s.behind handle) events eventCapacity eventStride
        outEventCount
      simp only [step]
      generalize clientPollEvents (s.behind handle) events eventCapacity eventStride
        outEventCount = r at h
      cases h with
      | idle hclient hdelivered =>
          have hsame : s.leave r.client s.ledger = s := by
            rw [hclient]
            cases handle <;> rfl
          rw [hsame]
          exact kept_spec hs rfl rfl hdelivered
      | drained hsome hclient hdelivered hpending =>
          cases handle with
          | null => simp [State.behind] at hsome
          | self =>
              obtain rfl := Option.some.inj hsome
              rw [hclient]
              exact ⟨rfl, rfl, hs.owns, .drained rfl hdelivered hpending rfl rfl⟩

/-! ### The invariant along runs -/

/-- The allocator is never replaced. -/
lemma StepCase.allocator {op : Op} {o : Outcome} {c' : Client} (h : StepCase c op o c') :
    c'.allocator = c.allocator := by
  cases h with
  | kept hc _ _ _ => rw [hc]
  | installed _ hinst _ _ _ => rw [hinst.client]
  | accepted _ _ hacc _ _ _ =>
      obtain ⟨r, hr, -⟩ := hacc.client
      rw [hr, Client.accept]
  | drained hc _ _ _ _ => rw [hc]

lemma StepCase.topologyState {op : Op} {o : Outcome} {c' : Client} (h : StepCase c op o c')
    (hc : TopologyState c) : TopologyState c' := by
  cases h with
  | kept hc' _ _ _ => rwa [hc']
  | installed _ hinst _ _ _ => exact hinst.topologyState
  | accepted _ _ hacc _ _ _ =>
      obtain ⟨r, rfl, -⟩ := hacc.client
      cases hc with
      | absent hno hzero => exact .absent hno hzero
      | installed hhas hchecked hcopy => exact .installed hhas hchecked hcopy
  | drained hc' _ _ _ _ =>
      subst hc'
      cases hc with
      | absent hno hzero => exact .absent hno hzero
      | installed hhas hchecked hcopy => exact .installed hhas hchecked hcopy

/-- **Every call keeps the invariant.** -/
theorem wellFormed_step (s : State) (op : Op) (hs : s.WellFormed) : (step s op).2.WellFormed := by
  have h := step_spec hs op
  exact ⟨h.client.allocator ▸ hs.allocator, h.client.topologyState hs.topology, h.owns⟩

/-- **Every run keeps the invariant.** -/
theorem wellFormed_run (d : Dependencies) (ops : List Op) : (run step (fresh d) ops).WellFormed :=
  run_invariant wellFormed_step (wellFormed_fresh d) ops

/-- **The run rule**: a property of the record and the state that is kept by one more call from a
state with the invariant holds of every run from such a state if it holds at the start. -/
theorem run_rule_from {P : List Step → State → Prop} {s : State} (hs : s.WellFormed) (h0 : P [] s)
    (hstep : ∀ h s op, s.WellFormed → P h s → P (h ++ [entry step s op]) (step s op).2)
    (ops : List Op) : P (history step s ops) (run step s ops) :=
  (history_induction (P := fun h s => s.WellFormed ∧ P h s) ⟨hs, h0⟩
    (fun h s op hs => ⟨wellFormed_step s op hs.1, hstep h s op hs.1 hs.2⟩) ops).2

/-- The run rule for a created client. -/
theorem run_rule {P : List Step → State → Prop} (d : Dependencies) (h0 : P [] (fresh d))
    (hstep : ∀ h s op, s.WellFormed → P h s → P (h ++ [entry step s op]) (step s op).2)
    (ops : List Op) : P (history step (fresh d) ops) (run step (fresh d) ops) :=
  run_rule_from (wellFormed_fresh d) h0 hstep ops

/-! ### What a run shows -/

/-- The topologies installed along a run, oldest first. -/
def installations (h : List Step) : List (Ref CallerTopology) :=
  h.filterMap fun e => installedBy e.input e.output

/-- The identifiers returned along a run by the submissions that returned `OK`, oldest first. -/
def acceptedIds (h : List Step) : List UInt64 := h.filterMap fun e => acceptedBy e.output

/-- The events delivered along a run, oldest first. -/
def deliveredEvents (h : List Step) : List Event := h.flatMap fun e => deliveredBy e.input e.output

@[simp] lemma installations_nil : installations [] = [] := rfl

@[simp] lemma acceptedIds_nil : acceptedIds [] = [] := rfl

@[simp] lemma deliveredEvents_nil : deliveredEvents [] = [] := rfl

lemma installations_concat (h : List Step) (e : Step) :
    installations (h ++ [e]) = installations h ++ (installedBy e.input e.output).toList := by
  rw [installations, List.filterMap_append]
  cases he : installedBy e.input e.output <;> simp [installations, he]

lemma acceptedIds_concat (h : List Step) (e : Step) :
    acceptedIds (h ++ [e]) = acceptedIds h ++ (acceptedBy e.output).toList := by
  rw [acceptedIds, List.filterMap_append]
  cases he : acceptedBy e.output <;> simp [acceptedIds, he]

lemma deliveredEvents_concat (h : List Step) (e : Step) :
    deliveredEvents (h ++ [e]) = deliveredEvents h ++ deliveredBy e.input e.output := by
  simp [deliveredEvents]

/-! ### Creation -/

/-- A creation with valid dependencies leaves the fresh client and no other block. -/
theorem clientCreate_fresh (d : Dependencies) {answers : Answers}
    (h : answers.calloc 0 = some d.clientAddr) :
    ∃ w, clientCreateWithDependencies (some d.allocator) d.monotonicTimeFn d.monotonicTimeContext
        false (World.start answers Ledger.empty) = .ok (fresh d).client w ∧
      w.ledger = (fresh d).ledger := by
  have hargs : allocatorIsValid (some d.allocator) = true ∧ d.monotonicTimeFn ≠ 0 ∧ false = false :=
    ⟨d.allocator_valid, d.monotonicTimeFn_ne_null, rfl⟩
  have hcalloc : World.calloc Client.zero (World.start answers Ledger.empty) = _ :=
    World.calloc_of_some h
  refine ⟨(World.start answers Ledger.empty).callocDone, ?_, rfl⟩
  simp only [clientCreateWithDependencies]
  rw [bind_of_ok (require_of hargs), bind_of_ok hcalloc]
  rfl

/-- Every creation that succeeds leaves a fresh client; one that fails leaves no block. -/
theorem clientCreate_cases (allocator : Option Allocator) (fn context : Addr) (outIsNull : Bool)
    (answers : Answers) :
    Ensures (clientCreateWithDependencies allocator fn context outIsNull)
      (World.start answers Ledger.empty)
      (fun b w => ∃ d : Dependencies, ⟨b, w.ledger⟩ = fresh d)
      (fun e w => e ≠ Status.ok ∧ w.ledger = Ledger.empty) := by
  cases allocator with
  | none => exact ⟨Status.invalidArgument_ne_ok, rfl⟩
  | some a =>
      refine ensures_bind.mpr (ensures_require.mpr ⟨fun hargs => ?_, fun _ =>
        ⟨Status.invalidArgument_ne_ok, rfl⟩⟩)
      cases hcalloc : answers.calloc 0 with
      | none =>
          refine ensures_bind.mpr (ensures_of_ok (World.calloc_of_none hcalloc) ?_)
          exact ⟨Status.resourceExhausted_ne_ok, rfl⟩
      | some addr =>
          refine ensures_bind.mpr (ensures_of_ok (World.calloc_of_some hcalloc) ?_)
          exact ⟨⟨a, hargs.1, fn, hargs.2.1, context, addr⟩, rfl⟩

end SolanaTpuClient
