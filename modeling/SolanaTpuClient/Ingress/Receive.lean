import SolanaTpuClient.Lib.ReturningLoop
import SolanaTpuClient.Delivery.Abi
import SolanaTpuClient.Ingress.Wire

/-!
The receiver of `src/solana_ingress.c`: `solana_ingress_run_local`.

What the function finds around it is a `Host`: the numbers its headers define, the answers of the
system calls, the answers of `should_continue`, and what `recvfrom` comes to each time it is called.
`IngressState` holds `errno`, the locals of the loop and a record of what the function has done: the
descriptors it has closed and the events it has passed to `on_event`, oldest first.

The loop need not end, so `ingressRunLocal` runs a number of its rounds: it is `.error` with the
value the function has returned, or `.ok` while the loop still runs.
-/

namespace SolanaTpuClient

open ByteMemory ReturningLoop

/-- `SOLANA_MAX_DATAGRAM_SIZE` -/
def maxDatagramSize : ℕ := 1500

/-! ### The system around the receiver -/

/-- What a system call leaves: its result, and `errno` after it, which tells of a call that has failed
why and of one that has succeeded nothing. -/
structure Answer where
  result : Int32
  errno : Int32

/-- What a call of `recvfrom` finds: a datagram as it was sent, or an error. -/
inductive Received where
  | datagram (bytes : List UInt8)
  | error (code : Int32)

/-- `struct sockaddr_in`, whose port and address are in network order. -/
structure SockaddrIn where
  sinFamily : UInt16
  sinPort : UInt16
  sinAddr : UInt32
deriving DecidableEq

/-- What `solana_ingress_run_local` finds around it. -/
structure Host where
  /-- `EAGAIN`, `EWOULDBLOCK`, `EINVAL` and `O_NONBLOCK` of the headers. -/
  eagain : Int32
  ewouldblock : Int32
  einval : Int32
  oNonblock : Int32
  /-- `errno` and the uninitialized locals on entry. -/
  errno : Int32
  buffer : Bytes
  event : IngressEvent
  /-- The answers of the system calls. -/
  socket : Answer
  setsockopt : (sockfd : Int32) → Answer
  getFlags : (sockfd : Int32) → Answer
  setFlags : (sockfd flags : Int32) → Answer
  bind : (sockfd : Int32) → SockaddrIn → Answer
  close : (sockfd : Int32) → Answer
  /-- What the `k`-th call of `should_continue` answers. -/
  shouldContinue : ℕ → Int32
  /-- What the `k`-th call of `recvfrom` finds. -/
  recvfrom : ℕ → Received

/-- The state of a call of `solana_ingress_run_local`. -/
structure IngressState where
  errno : Int32
  closed : List Int32
  continueCalls : ℕ
  recvCalls : ℕ
  sequence : UInt64
  buffer : Bytes
  event : IngressEvent
  events : List IngressEvent

/-- The state on entry. -/
def Host.entry (host : Host) : IngressState where
  errno := host.errno
  closed := []
  continueCalls := 0
  recvCalls := 0
  sequence := 0
  buffer := host.buffer
  event := host.event
  events := []

/-! ### Closing -/

/-- `close(sockfd)`, with its result. -/
def closeSocket (host : Host) (sockfd : Int32) (s : IngressState) : Int32 × IngressState :=
  ((host.close sockfd).result,
    { s with errno := (host.close sockfd).errno, closed := s.closed ++ [sockfd] })

/-- `close_preserving_errno` -/
def closePreservingErrno (host : Host) (sockfd savedErrno : Int32) (s : IngressState) :
    Int32 × IngressState :=
  (-1, { (closeSocket host sockfd s).2 with errno := savedErrno })

/-! ### Setup -/

/-- `htons` of a little-endian host. -/
def htons (x : UInt16) : UInt16 := (x <<< 8) ||| (x >>> 8)

/-- `htonl` of a little-endian host. -/
def htonl (x : UInt32) : UInt32 :=
  (x <<< 24) ||| ((x &&& (0xFF00 : UInt32)) <<< 8) ||| ((x >>> 8) &&& (0xFF00 : UInt32)) ||| (x >>> 24)

/-- `AF_INET` -/
def afInet : UInt16 := 2

/-- `INADDR_LOOPBACK` -/
def inaddrLoopback : UInt32 := 0x7F000001

/-- The address the receiver binds. -/
def loopbackAddress (port : UInt16) : SockaddrIn := ⟨afInet, htons port, htonl inaddrLoopback⟩

/-- One of the calls that set the socket up; a failure closes the socket and returns. -/
def setupCall (host : Host) (sockfd : Int32) (answer : Answer) (s : IngressState) :
    Except (Int32 × IngressState) IngressState :=
  let s := { s with errno := answer.errno }
  if answer.result < 0 then .error (closePreservingErrno host sockfd s.errno s) else .ok s

/-- `solana_ingress_run_local` up to its loop, with the descriptor of the socket. -/
def openSocket (host : Host) (port : UInt16) (s : IngressState) :
    Except (Int32 × IngressState) (Int32 × IngressState) := do
  let sockfd := host.socket.result
  let s := { s with errno := host.socket.errno }
  if sockfd < 0 then throw (-1, s)
  else
    let s ← setupCall host sockfd (host.setsockopt sockfd) s
    let flags := (host.getFlags sockfd).result
    let s ← setupCall host sockfd (host.getFlags sockfd) s
    let s ← setupCall host sockfd (host.setFlags sockfd (flags ||| host.oNonblock)) s
    let s ← setupCall host sockfd (host.bind sockfd (loopbackAddress port)) s
    return (sockfd, s)

/-! ### The loop -/

/-- `recvfrom` into the buffer, with its result. A datagram that does not fit is cut off. -/
def receiveDatagram (host : Host) (s : IngressState) : ℤ × IngressState :=
  let s' := { s with recvCalls := s.recvCalls + 1 }
  match host.recvfrom s.recvCalls with
  | .datagram bytes =>
      let bytes := bytes.take maxDatagramSize
      (bytes.length, { s' with buffer := write s.buffer 0 bytes })
  | .error code => (-1, { s' with errno := code })

/-- The branch of the loop that has received `received` bytes. -/
def handleDatagram (received : ℕ) (s : IngressState) : IngressState :=
  let sequence := s.sequence + 1
  let (decoded, event) := ingressDecode (some s.buffer) received sequence (some s.event)
  { s with
    sequence := sequence
    event := event.getD s.event
    events := if decoded then s.events ++ event.toList else s.events }

/-- One round of the loop. -/
def receiveRound (host : Host) (sockfd : Int32) (s : IngressState) :
    Except (Int32 × IngressState) IngressState :=
  let continues := host.shouldContinue s.continueCalls
  let s := { s with continueCalls := s.continueCalls + 1 }
  if continues = 0 then .error (closeSocket host sockfd s)
  else
    let (received, s) := receiveDatagram host s
    if received > 0 then .ok (handleDatagram received.toNat s)
    else if received < 0 ∧ s.errno ≠ host.eagain ∧ s.errno ≠ host.ewouldblock then
      .error (closePreservingErrno host sockfd s.errno s)
    else .ok s

/-- `solana_ingress_run_local`, with `n` rounds of its loop. -/
def ingressRunLocal (host : Host) (port : UInt16) (onEvent shouldContinue : Addr) (n : ℕ) :
    Except (Int32 × IngressState) IngressState :=
  if onEvent = 0 ∨ shouldContinue = 0 then .error (-1, { host.entry with errno := host.einval })
  else do
    let (sockfd, s) ← openSocket host port host.entry
    rounds (receiveRound host sockfd) n s

end SolanaTpuClient
