import SolanaTpuClient.Delivery.SystemClient

/-!
The program `examples/delivery_local_acceptance.c`: it creates a client, installs a topology it has
on its stack, submits a transaction and polls the event of its acceptance.

The program depends on its surroundings only: on where its variables are, and on what the system
answers to its calls (`AcceptanceHost`). It leaves an exit status and the ledger of its allocator
(`ProgramEnd`).
-/

namespace SolanaTpuClient

open ByteMemory

/-! ### Programs -/

/-- The address of a variable. -/
structure LocalAddr (alignment : ℕ) where
  val : Addr
  ne_null : val ≠ 0
  aligned : val % alignment = 0

/-- A pointer to a variable with its value. -/
def LocalAddr.ref {n : ℕ} {α : Type} (a : LocalAddr n) (x : α) : Ref α := ⟨a.val, a.ne_null, x⟩

/-- What a program leaves. -/
structure ProgramEnd where
  exitStatus : ℕ
  ledger : Ledger

/-- `solana_delivery_client_destroy(client)`, with the ledger it leaves. -/
def State.destroyed (s : State) (host : HostAnswers) : Ledger :=
  (clientDestroy (some s.client) (World.start host.answers s.ledger)).ledger

/-- The records of the programs: a validator that leads the slot 10 and is reached over QUIC at port
8000 of the loopback address. -/
def loopbackMemory : TopologyMemory where
  validators := ofList (leBytes 4 48 ++ List.replicate 44 0)
  endpoints := ofList (leBytes 4 32 ++ [addressIpv4, transportQuic, endpointRoleTpu, 0] ++
    leBytes 2 8000 ++ leBytes 2 0 ++ [127, 0, 0, 1] ++ List.replicate 16 0)
  validatorEndpoints := ofList (leBytes 4 16 ++ leBytes 4 0 ++ leBytes 4 0 ++ leBytes 4 0)
  leaders := ofList (leBytes 4 32 ++ leBytes 4 0 ++ leBytes 8 10 ++ leBytes 8 10 ++ leBytes 8 0)

/-- The topology of the programs, whose records are at these addresses. -/
def loopbackTopology (validator endpoint association leader : Addr) : CallerTopology where
  view :=
    { structSize := 88
      reserved0 := 0
      generation := 1
      currentSlot := 10
      validators := validator
      validatorCount := 1
      validatorStride := 48
      endpoints := endpoint
      endpointCount := 1
      endpointStride := 32
      validatorEndpoints := association
      validatorEndpointCount := 1
      validatorEndpointStride := 16
      leaders := leader
      leaderCount := 1
      leaderStride := 32 }
  memory := loopbackMemory

/-! ### The program -/

/-- Where the variables of `main` are. -/
structure AcceptanceLocals where
  validator : LocalAddr 4
  endpoint : LocalAddr 4
  association : LocalAddr 4
  leader : LocalAddr 8
  topology : LocalAddr 8
  options : LocalAddr 8
  requestId : LocalAddr 8
  event : LocalAddr 8
  eventCount : LocalAddr 8

/-- What the system answers to the calls of the program. -/
structure AcceptanceHost where
  create : HostAnswers
  install : HostAnswers
  submit : HostAnswers

namespace AcceptanceLocals

variable (l : AcceptanceLocals)

/-- `&topology` -/
def topologyRef : Ref CallerTopology :=
  l.topology.ref (loopbackTopology l.validator.val l.endpoint.val l.association.val l.leader.val)

/-- `&options` -/
def optionsRef : Ref SubmitOptions :=
  l.options.ref
    { structSize := 24
      flags := submitFlagsNone
      maxTopologyAgeNs := 60000000000
      targetLimit := 1
      reserved0 := 0 }

/-- `solana_delivery_client_submit` as the program calls it; `transaction` is one byte long. -/
def submit (client : Option Client) (w : World) : SubmitResult :=
  clientSubmit client (some (ofList [1])) 1 (some l.optionsRef)
    (some (l.requestId.ref requestIdNone)) w

/-- `solana_delivery_client_poll_events` as the program calls it. -/
def pollEvents (client : Option Client) : PollResult :=
  clientPollEvents client (some (l.event.ref fun _ => 0)) 1 (UInt32.ofNat Event.size)
    (some (l.eventCount.ref 0))

end AcceptanceLocals

/-- `valid_event`, from what the submission and the poll have stored. -/
def validEvent (requestId : UInt64) (event : Event) (eventCount : UInt64) : Bool :=
  eventCount == 1 && requestId != requestIdNone && event.eventClass == eventClassRequest &&
    event.eventCode == requestEventAccepted && event.requestId == requestId &&
      event.attemptId == attemptIdNone

/-- `main` from the call of `solana_delivery_client_poll_events` on. -/
def pollAndCheck (l : AcceptanceLocals) (host : AcceptanceHost) (requestId : UInt64) (s : State) :
    ProgramEnd :=
  let polled := l.pollEvents (some s.client.data)
  let s := s.leave polled.client s.ledger
  if polled.status ≠ Status.ok then ⟨1, s.destroyed host.submit⟩
  else
    let valid := validEvent requestId (Event.decode (polled.events.getD fun _ => 0))
      (polled.outEventCount.getD 0)
    ⟨if valid then 0 else 1, s.destroyed host.submit⟩

/-- `main` from the call of `solana_delivery_client_submit` on. -/
def submitAndPoll (l : AcceptanceLocals) (host : AcceptanceHost) (s : State) : ProgramEnd :=
  let submitted := l.submit (some s.client.data) (World.start host.submit.answers s.ledger)
  let s := s.leave submitted.client submitted.world.ledger
  if submitted.status ≠ Status.ok then ⟨1, s.destroyed host.submit⟩
  else pollAndCheck l host (submitted.outRequestId.getD requestIdNone) s

/-- `main` from the call of `solana_delivery_client_install_topology` on. -/
def installAndSubmit (l : AcceptanceLocals) (host : AcceptanceHost) (s : State) : ProgramEnd :=
  let installed := clientInstallTopology (some s.client.data) (some l.topologyRef)
    (World.start host.install.answers s.ledger)
  let s := s.leave installed.client installed.world.ledger
  if installed.status ≠ Status.ok then ⟨1, s.destroyed host.install⟩
  else submitAndPoll l host s

/-- `main` -/
def localAcceptanceMain (f : SystemFunctions) (l : AcceptanceLocals) (host : AcceptanceHost) :
    ProgramEnd :=
  match clientCreate f false (World.start host.create.answers Ledger.empty) with
  | .error _ w => ⟨1, w.ledger⟩
  | .ok client w => installAndSubmit l host ⟨client, w.ledger⟩

end SolanaTpuClient
