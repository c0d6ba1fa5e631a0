import SolanaTpuClient.Spec.Arrivals

/-!
How a call of the receiver stands, read off the system around it.

Once the call has returned a caller sees its result, and `errno` if that is negative: the header
gives `errno` no meaning on a success, where the system leaves in it what it likes. A caller also
sees the descriptors that have been closed and the events that have been passed on
(`ReceiverView`). `ReceiverOutcome` says what these are after any number of rounds, one case for
each way the call can go: it refuses a null callback, fails in its setup, is stopped by its caller
or by an error of `recvfrom`, or still runs.
-/

namespace SolanaTpuClient

/-- What a caller sees of a call: its result if it has returned, `errno` if it has failed, the
descriptors that have been closed and the events that have been passed on, oldest first. -/
@[ext] structure ReceiverView where
  returned : Option Int32
  errno : Option Int32
  closed : List Int32
  events : List IngressEvent

/-- The error a system call has failed with. -/
def Answer.failure (a : Answer) : Option Int32 := if a.result < 0 then some a.errno else none

/-- What a caller sees after a number of rounds. -/
def receiverView : Except (Int32 × IngressState) IngressState → ReceiverView
  | .error (result, s) =>
      ⟨some result, if result < 0 then some s.errno else none, s.closed, s.events⟩
  | .ok s => ⟨none, none, s.closed, s.events⟩

/-- How a call stands after `n` rounds of its loop. -/
inductive ReceiverOutcome (host : Host) (port : UInt16) (onEvent shouldContinue : Addr) (n : ℕ) :
    ReceiverView → Prop where
  | refused : onEvent = 0 ∨ shouldContinue = 0 →
      ReceiverOutcome host port onEvent shouldContinue n ⟨some (-1), some host.einval, [], []⟩
  | unopened : onEvent ≠ 0 → shouldContinue ≠ 0 → host.socket.result < 0 →
      ReceiverOutcome host port onEvent shouldContinue n ⟨some (-1), some host.socket.errno, [], []⟩
  | unprepared {a : Answer} : onEvent ≠ 0 → shouldContinue ≠ 0 → ¬host.socket.result < 0 →
      (host.setupAnswers port).find? (·.result < 0) = some a →
      ReceiverOutcome host port onEvent shouldContinue n
        ⟨some (-1), some a.errno, [host.socket.result], []⟩
  | stopped {k : ℕ} : onEvent ≠ 0 → shouldContinue ≠ 0 → host.Opens port → k < n →
      (∀ j < k, host.GoesOn j) → host.shouldContinue k = 0 →
      ReceiverOutcome host port onEvent shouldContinue n
        ⟨some (host.close host.socket.result).result, (host.close host.socket.result).failure,
          [host.socket.result], host.deliveries k⟩
  | failed {k : ℕ} {code : Int32} : onEvent ≠ 0 → shouldContinue ≠ 0 → host.Opens port → k < n →
      (∀ j < k, host.GoesOn j) → host.shouldContinue k ≠ 0 → host.recvfrom k = .error code →
      code ≠ host.eagain → code ≠ host.ewouldblock →
      ReceiverOutcome host port onEvent shouldContinue n
        ⟨some (-1), some code, [host.socket.result], host.deliveries k⟩
  | running : onEvent ≠ 0 → shouldContinue ≠ 0 → host.Opens port → (∀ k < n, host.GoesOn k) →
      ReceiverOutcome host port onEvent shouldContinue n ⟨none, none, [], host.deliveries n⟩

/-- A round that does not go on is one the caller does not want, or one with a receive error. -/
lemma Host.not_goesOn_iff (host : Host) (k : ℕ) :
    ¬host.GoesOn k ↔ host.shouldContinue k = 0 ∨ host.shouldContinue k ≠ 0 ∧
      ∃ code, host.recvfrom k = .error code ∧ code ≠ host.eagain ∧ code ≠ host.ewouldblock := by
  simp only [Host.GoesOn, ne_eq]
  push Not
  tauto

end SolanaTpuClient
