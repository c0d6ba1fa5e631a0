import SolanaTpuClient.Spec.Receiver
import SolanaTpuClient.Properties.Receive

/-!
Everything a call of the receiver can come to.

The cases of `ReceiverOutcome` are what the call does (`view_of_outcome`), and there is always one of
them (`exists_outcome`). So a call that has returned has closed the socket it has opened and nothing
else, once, and what its locals held on entry is never passed on.
-/

namespace SolanaTpuClient

open ReturningLoop

variable {host : Host} {port : UInt16} {onEvent shouldContinue : Addr} {n : ℕ} {w : ReceiverView}

/-- The call after `n` rounds, once the socket is set up. -/
lemma ingressRunLocal_of_opens (hevent : onEvent ≠ 0) (hcontinue : shouldContinue ≠ 0)
    (hopens : host.Opens port) :
    ∃ t, t.Arrived host 0 ∧ ∀ n, ingressRunLocal host port onEvent shouldContinue n
      = rounds (receiveRound host host.socket.result) n t := by
  obtain ⟨t, hopen, ht⟩ := openSocket_of_opens hopens
  refine ⟨t, ht, fun n => ?_⟩
  rw [ingressRunLocal_eq hevent hcontinue, hopen]
  rfl

/-- The call does what the outcome says. -/
lemma view_of_outcome (h : ReceiverOutcome host port onEvent shouldContinue n w) :
    receiverView (ingressRunLocal host port onEvent shouldContinue n) = w := by
  cases h with
  | refused hnull => rw [ingressRunLocal, if_pos hnull]; rfl
  | unopened hevent hcontinue hsocket =>
      rw [ingressRunLocal_eq hevent hcontinue, openSocket_of_no_socket hsocket]
      rfl
  | unprepared hevent hcontinue hsocket hfind =>
      rw [ingressRunLocal_eq hevent hcontinue, openSocket_of_failed hsocket hfind]
      rfl
  | @stopped k hevent hcontinue hopens hk hgo hstop =>
      obtain ⟨t, ht, hrun⟩ := ingressRunLocal_of_opens hevent hcontinue hopens
      obtain ⟨u, hu, hua⟩ := ht.rounds hgo
      rw [← hua.continueCalls] at hstop
      rw [hrun, rounds_of_return hu (receiveRound_of_stop hstop) hk]
      simp only [receiverView, closeSocket, Answer.failure, hua.closed, hua.events, List.nil_append]
  | @failed k code hevent hcontinue hopens hk hgo hwanted hrecv hagain hblock =>
      obtain ⟨t, ht, hrun⟩ := ingressRunLocal_of_opens hevent hcontinue hopens
      obtain ⟨u, hu, hua⟩ := ht.rounds hgo
      rw [← hua.continueCalls] at hwanted
      rw [← hua.recvCalls] at hrecv
      rw [hrun, rounds_of_return hu (receiveRound_of_error hwanted hrecv hagain hblock) hk]
      simp only [receiverView, closePreservingErrno, closeSocket, hua.closed, hua.events,
        List.nil_append]
      rfl
  | running hevent hcontinue hopens hgo =>
      obtain ⟨t, ht, hrun⟩ := ingressRunLocal_of_opens hevent hcontinue hopens
      obtain ⟨u, hu, hua⟩ := ht.rounds hgo
      rw [hrun, hu]
      simp only [receiverView, hua.closed, hua.events]

/-- The first of the rounds that does not go on, if there is one. -/
lemma exists_first_stop (host : Host) (n : ℕ) :
    (∀ k < n, host.GoesOn k) ∨ ∃ k < n, (∀ j < k, host.GoesOn j) ∧ ¬host.GoesOn k := by
  induction n with
  | zero => exact Or.inl fun k hk => absurd hk (Nat.not_lt_zero k)
  | succ n ih =>
      rcases ih with hgo | ⟨k, hk, hfirst⟩
      · by_cases hn : host.GoesOn n
        · refine Or.inl fun k hk => ?_
          rcases Nat.lt_succ_iff_lt_or_eq.mp hk with hlt | rfl
          · exact hgo k hlt
          · exact hn
        · exact Or.inr ⟨n, Nat.lt_succ_self n, hgo, hn⟩
      · exact Or.inr ⟨k, hk.trans (Nat.lt_succ_self n), hfirst⟩

/-- There is always an outcome. -/
lemma exists_outcome (host : Host) (port : UInt16) (onEvent shouldContinue : Addr) (n : ℕ) :
    ∃ w, ReceiverOutcome host port onEvent shouldContinue n w := by
  by_cases hnull : onEvent = 0 ∨ shouldContinue = 0
  · exact ⟨_, .refused hnull⟩
  obtain ⟨hevent, hcontinue⟩ := not_or.mp hnull
  by_cases hsocket : host.socket.result < 0
  · exact ⟨_, .unopened hevent hcontinue hsocket⟩
  cases hfind : (host.setupAnswers port).find? (·.result < 0) with
  | some a => exact ⟨_, .unprepared hevent hcontinue hsocket hfind⟩
  | none =>
      have hopens : host.Opens port := ⟨hsocket, by simpa using List.find?_eq_none.mp hfind⟩
      rcases exists_first_stop host n with hgo | ⟨k, hk, hgo, hlast⟩
      · exact ⟨_, .running hevent hcontinue hopens hgo⟩
      · rcases (host.not_goesOn_iff k).mp hlast with hstop | ⟨hwanted, code, hrecv, hagain, hblock⟩
        · exact ⟨_, .stopped hevent hcontinue hopens hk hgo hstop⟩
        · exact ⟨_, .failed hevent hcontinue hopens hk hgo hwanted hrecv hagain hblock⟩

lemma view_eq_iff :
    receiverView (ingressRunLocal host port onEvent shouldContinue n) = w
      ↔ ReceiverOutcome host port onEvent shouldContinue n w := by
  refine ⟨?_, view_of_outcome⟩
  rintro rfl
  obtain ⟨w, hw⟩ := exists_outcome host port onEvent shouldContinue n
  rwa [view_of_outcome hw]

/-- A call that has returned does nothing more. -/
lemma ReceiverOutcome.mono {m : ℕ} (h : ReceiverOutcome host port onEvent shouldContinue n w)
    (hle : n ≤ m) (hreturned : w.returned ≠ none) :
    ReceiverOutcome host port onEvent shouldContinue m w := by
  cases h with
  | refused hnull => exact .refused hnull
  | unopened hevent hcontinue hsocket => exact .unopened hevent hcontinue hsocket
  | unprepared hevent hcontinue hsocket hfind => exact .unprepared hevent hcontinue hsocket hfind
  | stopped hevent hcontinue hopens hk hgo hstop =>
      exact .stopped hevent hcontinue hopens (hk.trans_le hle) hgo hstop
  | failed hevent hcontinue hopens hk hgo hwanted hrecv hagain hblock =>
      exact .failed hevent hcontinue hopens (hk.trans_le hle) hgo hwanted hrecv hagain hblock
  | running => exact absurd rfl hreturned

/-- What `errno` and the locals of the call hold on entry. -/
def Host.enteredWith (host : Host) (errno : Int32) (buffer : ByteMemory.Bytes)
    (event : IngressEvent) : Host :=
  { host with errno := errno, buffer := buffer, event := event }

/-- What the locals hold on entry does not matter. -/
lemma ReceiverOutcome.enteredWith (h : ReceiverOutcome host port onEvent shouldContinue n w)
    (errno : Int32) (buffer : ByteMemory.Bytes) (event : IngressEvent) :
    ReceiverOutcome (host.enteredWith errno buffer event) port onEvent shouldContinue n w := by
  cases h with
  | refused hnull => exact .refused hnull
  | unopened hevent hcontinue hsocket => exact .unopened hevent hcontinue hsocket
  | unprepared hevent hcontinue hsocket hfind => exact .unprepared hevent hcontinue hsocket hfind
  | stopped hevent hcontinue hopens hk hgo hstop =>
      exact .stopped hevent hcontinue ⟨hopens.socket, hopens.setup⟩ hk hgo hstop
  | failed hevent hcontinue hopens hk hgo hwanted hrecv hagain hblock =>
      exact .failed hevent hcontinue ⟨hopens.socket, hopens.setup⟩ hk hgo hwanted hrecv hagain
        hblock
  | running hevent hcontinue hopens hgo =>
      exact .running hevent hcontinue ⟨hopens.socket, hopens.setup⟩ hgo

/-- **A call of the receiver comes to exactly one outcome**, whatever the system around it does: it
returns at once for a null callback, with the error of the first call of its setup that fails, with
the result of `close` in the first round the caller does not want, or with the error of the first
`recvfrom` that fails; and otherwise it runs, for ever exactly if all of its rounds go on. A call
that has returned does nothing more, and neither its result, the error it fails with, the descriptors
it closes nor the events it passes on depend on what `errno` and its locals held on entry. -/
theorem receiver_outcome_exact (host : Host) (port : UInt16) (onEvent shouldContinue : Addr) :
    let view := fun n => receiverView (ingressRunLocal host port onEvent shouldContinue n)
    (∀ n w, view n = w ↔ ReceiverOutcome host port onEvent shouldContinue n w) ∧
    ((∀ n, (view n).returned = none) ↔ onEvent ≠ 0 ∧ shouldContinue ≠ 0 ∧ host.Opens port ∧
      ∀ k, host.GoesOn k) ∧
    (∀ n m, n ≤ m → (view n).returned ≠ none → view m = view n) ∧
    ∀ n errno buffer event, receiverView (ingressRunLocal (host.enteredWith errno buffer event) port
      onEvent shouldContinue n) = view n := by
  intro view
  have houtcome : ∀ n, ReceiverOutcome host port onEvent shouldContinue n (view n) :=
    fun n => view_eq_iff.mp rfl
  refine ⟨fun n w => view_eq_iff, ⟨fun hruns => ?_, ?_⟩, ?_, ?_⟩
  · have hrunning : ∀ n, onEvent ≠ 0 ∧ shouldContinue ≠ 0 ∧ host.Opens port ∧
        ∀ k < n, host.GoesOn k := by
      intro n
      have hnone := hruns n
      have hn := houtcome n
      generalize view n = w at hnone hn
      cases hn with
      | running hevent hcontinue hopens hgo => exact ⟨hevent, hcontinue, hopens, hgo⟩
      | refused | unopened | unprepared | stopped | failed => cases hnone
    exact ⟨(hrunning 0).1, (hrunning 0).2.1, (hrunning 0).2.2.1,
      fun k => (hrunning (k + 1)).2.2.2 k (Nat.lt_succ_self k)⟩
  · rintro ⟨hevent, hcontinue, hopens, hgo⟩ n
    exact congrArg ReceiverView.returned
      (view_of_outcome (.running hevent hcontinue hopens fun k _ => hgo k))
  · intro n m hle hreturned
    exact view_of_outcome ((houtcome n).mono hle hreturned)
  · intro n errno buffer event
    exact view_of_outcome ((houtcome n).enteredWith errno buffer event)

end SolanaTpuClient
