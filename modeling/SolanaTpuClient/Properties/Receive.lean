import SolanaTpuClient.Spec.Arrivals

/-!
The receiver delivers the packets that arrive, in order, under the numbers of their arrival.

`IngressState.Arrived` is the invariant of the loop: after `n` rounds the counter is at the number of
datagrams that arrived and the events passed to the caller are `Host.deliveries n`. A round that
goes on keeps it (`IngressState.Arrived.goesOn`); the two ways a round returns are
`IngressState.Arrived.stop` and `IngressState.Arrived.error`. The setup of the socket either succeeds
(`openSocket_of_opens`) or fails with the error of the first call that fails
(`openSocket_of_no_socket`, `openSocket_of_failed`).
-/

namespace SolanaTpuClient

open ByteMemory ReturningLoop Numbered

variable {host : Host} {port : UInt16} {sockfd : Int32} {s : IngressState} {n : ℕ}

/-! ### One datagram -/

/-- A datagram that is cut off is no packet, and any other one is received as it is. -/
lemma decodePacket_take (d : List UInt8) (seq : UInt64) (out : IngressEvent) :
    decodePacket (d.take maxDatagramSize) seq out = decodePacket d seq out := by
  by_cases hlen : d.length ≤ maxDatagramSize
  · rw [List.take_of_length_le hlen]
  · have hlong : ¬IsIngressWire d := fun h => by
      rw [h.1, maxDatagramSize] at hlen
      omega
    have hcut : ¬IsIngressWire (d.take maxDatagramSize) := fun h => by
      have htake := h.1
      rw [List.length_take, maxDatagramSize] at htake
      rw [maxDatagramSize] at hlen
      omega
    rw [decodePacket_of_not_isIngressWire hlong, decodePacket_of_not_isIngressWire hcut]

/-- The decoder sees a datagram in the buffer, whatever stood there before. -/
lemma ingressDecode_received (buffer : Bytes) (d : List UInt8) (seq : UInt64) (out : IngressEvent) :
    ingressDecode (some (write buffer 0 (d.take maxDatagramSize)))
        (d.take maxDatagramSize).length seq (some out)
      = decodePacket d seq out := by
  have hbuffer : ∀ j < (d.take maxDatagramSize).length,
      write buffer 0 (d.take maxDatagramSize) j = ofList (d.take maxDatagramSize) j := by
    intro j hj
    have h : write buffer 0 (d.take maxDatagramSize) (0 + j) = ofList (d.take maxDatagramSize) j :=
      write_of_mem hj
    rwa [Nat.zero_add] at h
  rw [ingressDecode_congr hbuffer]
  exact decodePacket_take d seq out

/-- A round that has received a datagram counts it and passes on what it delivers. -/
lemma handleDatagram_eq {buffer : Bytes} {d : List UInt8} {k : ℕ}
    (hbuffer : s.buffer = write buffer 0 (d.take maxDatagramSize))
    (hsequence : s.sequence = UInt64.ofNat k) :
    handleDatagram (d.take maxDatagramSize).length s
      = { s with
          sequence := UInt64.ofNat (k + 1)
          event := (delivery d (k + 1)).getD s.event
          events := s.events ++ (delivery d (k + 1)).toList } := by
  have hnext : s.sequence + 1 = UInt64.ofNat (k + 1) := by
    rw [hsequence, UInt64.ofNat_add]
    rfl
  simp only [handleDatagram, hnext, hbuffer, ingressDecode_received, decodePacket_eq_delivery,
    Option.getD_some]
  cases delivery d (k + 1) with
  | none => simp
  | some e => simp

/-! ### The ways a round goes -/

section Round

variable (hcontinue : host.shouldContinue s.continueCalls ≠ 0)
include hcontinue

lemma receiveRound_of_datagram {d : List UInt8} (hrecv : host.recvfrom s.recvCalls = .datagram d)
    (hd : d ≠ []) :
    receiveRound host sockfd s = .ok (handleDatagram (d.take maxDatagramSize).length
      { s with
        continueCalls := s.continueCalls + 1
        recvCalls := s.recvCalls + 1
        buffer := write s.buffer 0 (d.take maxDatagramSize) }) := by
  have hlen : 0 < d.length := List.length_pos_iff.mpr hd
  have hpos : (((d.take maxDatagramSize).length : ℕ) : ℤ) > 0 := by
    rw [List.length_take, maxDatagramSize]
    omega
  simp only [receiveRound, receiveDatagram, if_neg hcontinue, hrecv, if_pos hpos,
    Int.toNat_natCast]

lemma receiveRound_of_empty (hrecv : host.recvfrom s.recvCalls = .datagram []) :
    receiveRound host sockfd s = .ok
      { s with
        continueCalls := s.continueCalls + 1
        recvCalls := s.recvCalls + 1
        buffer := write s.buffer 0 [] } := by
  simp [receiveRound, receiveDatagram, hcontinue, hrecv]

lemma receiveRound_of_again {code : Int32} (hrecv : host.recvfrom s.recvCalls = .error code)
    (hagain : code = host.eagain ∨ code = host.ewouldblock) :
    receiveRound host sockfd s = .ok
      { s with
        continueCalls := s.continueCalls + 1
        recvCalls := s.recvCalls + 1
        errno := code } := by
  have hcode : ¬((-1 : ℤ) < 0 ∧ code ≠ host.eagain ∧ code ≠ host.ewouldblock) := by
    rintro ⟨-, hne, hne'⟩
    exact hagain.elim hne hne'
  have hneg : ¬(-1 : ℤ) > 0 := by omega
  simp only [receiveRound, receiveDatagram, if_neg hcontinue, hrecv, if_neg hneg, if_neg hcode]

lemma receiveRound_of_error {code : Int32} (hrecv : host.recvfrom s.recvCalls = .error code)
    (hagain : code ≠ host.eagain) (hblock : code ≠ host.ewouldblock) :
    receiveRound host sockfd s = .error (closePreservingErrno host sockfd code
      { s with
        continueCalls := s.continueCalls + 1
        recvCalls := s.recvCalls + 1
        errno := code }) := by
  have hcode : (-1 : ℤ) < 0 ∧ code ≠ host.eagain ∧ code ≠ host.ewouldblock :=
    ⟨by omega, hagain, hblock⟩
  have hneg : ¬(-1 : ℤ) > 0 := by omega
  simp only [receiveRound, receiveDatagram, if_neg hcontinue, hrecv, if_neg hneg, if_pos hcode]

end Round

lemma receiveRound_of_stop (hstop : host.shouldContinue s.continueCalls = 0) :
    receiveRound host sockfd s = .error (closeSocket host sockfd
      { s with continueCalls := s.continueCalls + 1 }) := by
  simp only [receiveRound, if_pos hstop]

/-! ### The invariant of the loop -/

/-- The state of a receiver after `n` rounds that went on. -/
structure IngressState.Arrived (host : Host) (n : ℕ) (s : IngressState) : Prop where
  closed : s.closed = []
  continueCalls : s.continueCalls = n
  recvCalls : s.recvCalls = n
  sequence : s.sequence = UInt64.ofNat (host.datagrams n).length
  events : s.events = host.deliveries n

/-- `t` is `s` after the calls of one round, which count themselves and nothing else. -/
structure IngressState.Called (s t : IngressState) : Prop where
  closed : t.closed = s.closed
  continueCalls : t.continueCalls = s.continueCalls + 1
  recvCalls : t.recvCalls = s.recvCalls + 1
  sequence : t.sequence = s.sequence
  events : t.events = s.events

namespace IngressState.Arrived

variable {t : IngressState} (h : s.Arrived host n)
include h

/-- A round that finds nothing to count keeps the counter and the events. -/
lemma of_none (hnone : (host.recvfrom n).payload = none) (hcalled : s.Called t) :
    t.Arrived host (n + 1) where
  closed := hcalled.closed.trans h.closed
  continueCalls := by rw [hcalled.continueCalls, h.continueCalls]
  recvCalls := by rw [hcalled.recvCalls, h.recvCalls]
  sequence := by
    rw [hcalled.sequence, h.sequence, host.datagrams_succ, hnone, Option.toList_none,
      List.append_nil]
  events := by rw [hcalled.events, h.events, host.deliveries_succ_of_none hnone]

/-- A round that finds a datagram gives it the next number and delivers it if it is a packet. -/
lemma of_datagram {d : List UInt8} (hsome : (host.recvfrom n).payload = some d)
    (hcalled : s.Called t) (hbuffer : t.buffer = write s.buffer 0 (d.take maxDatagramSize)) :
    (handleDatagram (d.take maxDatagramSize).length t).Arrived host (n + 1) := by
  rw [handleDatagram_eq hbuffer (hcalled.sequence.trans h.sequence)]
  exact {
    closed := hcalled.closed.trans h.closed
    continueCalls := by rw [hcalled.continueCalls, h.continueCalls]
    recvCalls := by rw [hcalled.recvCalls, h.recvCalls]
    sequence := by
      rw [host.datagrams_succ, hsome, Option.toList_some, List.length_append,
        List.length_singleton]
    events := by rw [hcalled.events, h.events, host.deliveries_succ_of_some hsome] }

/-- **A round that goes on** keeps the invariant. -/
lemma goesOn (hgo : host.GoesOn n) :
    ∃ t, receiveRound host sockfd s = .ok t ∧ t.Arrived host (n + 1) := by
  obtain ⟨hcontinue, herror⟩ := hgo
  rw [← h.continueCalls] at hcontinue
  cases hrecv : host.recvfrom n with
  | error code =>
      have hpayload : (host.recvfrom n).payload = none := by rw [hrecv, Received.payload]
      have hagain := herror code hrecv
      rw [← h.recvCalls] at hrecv
      exact ⟨_, receiveRound_of_again hcontinue hrecv hagain,
        h.of_none hpayload ⟨rfl, rfl, rfl, rfl, rfl⟩⟩
  | datagram d =>
      cases d with
      | nil =>
          have hpayload : (host.recvfrom n).payload = none := by rw [hrecv, Received.payload]
          rw [← h.recvCalls] at hrecv
          exact ⟨_, receiveRound_of_empty hcontinue hrecv,
            h.of_none hpayload ⟨rfl, rfl, rfl, rfl, rfl⟩⟩
      | cons b d =>
          have hpayload : (host.recvfrom n).payload = some (b :: d) := by
            rw [hrecv, Received.payload]
          rw [← h.recvCalls] at hrecv
          exact ⟨_, receiveRound_of_datagram hcontinue hrecv (List.cons_ne_nil b d),
            h.of_datagram hpayload ⟨rfl, rfl, rfl, rfl, rfl⟩ rfl⟩

/-- A round that the caller does not want closes the socket and returns the result of that. -/
lemma stop (hstop : host.shouldContinue n = 0) :
    ∃ t, receiveRound host sockfd s = .error ((host.close sockfd).result, t) ∧
      t.events = host.deliveries n ∧ t.closed = [sockfd] := by
  rw [← h.continueCalls] at hstop
  refine ⟨_, receiveRound_of_stop hstop, h.events, ?_⟩
  simp only [h.closed, List.nil_append]

/-- A round with a receive error closes the socket and returns with that error. -/
lemma error (hcontinue : host.shouldContinue n ≠ 0) {code : Int32}
    (hrecv : host.recvfrom n = .error code) (hagain : code ≠ host.eagain)
    (hblock : code ≠ host.ewouldblock) :
    ∃ t, receiveRound host sockfd s = .error (-1, t) ∧ t.errno = code ∧
      t.events = host.deliveries n ∧ t.closed = [sockfd] := by
  rw [← h.continueCalls] at hcontinue
  rw [← h.recvCalls] at hrecv
  refine ⟨_, receiveRound_of_error hcontinue hrecv hagain hblock, rfl, h.events, ?_⟩
  simp only [closeSocket, h.closed, List.nil_append]

end IngressState.Arrived

/-! ### Setup -/

lemma setupCall_of_ok {a : Answer} (h : ¬a.result < 0) :
    setupCall host sockfd a s = .ok { s with errno := a.errno } := by
  simp only [setupCall, if_neg h]

lemma setupCall_of_failed {a : Answer} (h : a.result < 0) :
    setupCall host sockfd a s
      = .error (-1, { s with errno := a.errno, closed := s.closed ++ [sockfd] }) := by
  simp only [setupCall, if_pos h, closePreservingErrno, closeSocket]

/-- Calls that all succeed change `errno` at most. -/
lemma setupCalls_of_ok (host : Host) (sockfd : Int32) (s : IngressState) {answers : List Answer}
    (h : ∀ a ∈ answers, ¬a.result < 0) :
    ∃ errno, answers.foldlM (fun s a => setupCall host sockfd a s) s
      = .ok { s with errno := errno } := by
  induction answers generalizing s with
  | nil => exact ⟨s.errno, rfl⟩
  | cons a answers ih =>
      obtain ⟨errno, hrest⟩ := ih { s with errno := a.errno }
        fun b hb => h b (List.mem_cons_of_mem a hb)
      refine ⟨errno, ?_⟩
      rw [List.foldlM_cons, setupCall_of_ok (h a List.mem_cons_self)]
      exact hrest

/-- The first call that fails closes the socket and leaves its error. -/
lemma setupCalls_of_failed (host : Host) (sockfd : Int32) (s : IngressState)
    {answers : List Answer} {a : Answer} (h : answers.find? (·.result < 0) = some a) :
    answers.foldlM (fun s a => setupCall host sockfd a s) s
      = .error (-1, { s with errno := a.errno, closed := s.closed ++ [sockfd] }) := by
  induction answers generalizing s with
  | nil => simp at h
  | cons b answers ih =>
      by_cases hb : b.result < 0
      · rw [List.find?_cons_of_pos (by simpa using hb), Option.some.injEq] at h
        subst h
        rw [List.foldlM_cons, setupCall_of_failed hb]
        rfl
      · rw [List.find?_cons_of_neg (by simpa using hb)] at h
        rw [List.foldlM_cons, setupCall_of_ok hb]
        exact ih { s with errno := b.errno } h

/-- The calls behind `socket` are made one after the other. -/
lemma openSocket_eq (h : ¬host.socket.result < 0) (s : IngressState) :
    openSocket host port s
      = (fun t => (host.socket.result, t)) <$> (host.setupAnswers port).foldlM
          (fun s a => setupCall host host.socket.result a s)
          { s with errno := host.socket.errno } := by
  simp only [openSocket, if_neg h, Host.setupAnswers, List.foldlM_cons, List.foldlM_nil, map_bind,
    map_pure]

/-- A setup without failures leaves a receiver that has received nothing. -/
lemma openSocket_of_opens (h : host.Opens port) :
    ∃ t, openSocket host port host.entry = .ok (host.socket.result, t) ∧ t.Arrived host 0 := by
  obtain ⟨errno, hcalls⟩ := setupCalls_of_ok host host.socket.result
    { host.entry with errno := host.socket.errno } h.setup
  rw [openSocket_eq h.socket, hcalls]
  exact ⟨_, rfl, rfl, rfl, rfl, rfl, rfl⟩

/-- A setup in which `socket` fails leaves its error, and there is nothing to close. -/
lemma openSocket_of_no_socket (h : host.socket.result < 0) :
    openSocket host port host.entry
      = .error (-1, { host.entry with errno := host.socket.errno }) := by
  simp only [openSocket, if_pos h]
  rfl

/-- A setup in which a later call fails closes the socket and leaves the error of the first one. -/
lemma openSocket_of_failed (h : ¬host.socket.result < 0) {a : Answer}
    (ha : (host.setupAnswers port).find? (·.result < 0) = some a) :
    openSocket host port host.entry
      = .error (-1, { host.entry with errno := a.errno, closed := [host.socket.result] }) := by
  rw [openSocket_eq h, setupCalls_of_failed _ _ _ ha]
  rfl

/-! ### The whole call -/

section Run

variable {onEvent shouldContinue : Addr} (hevent : onEvent ≠ 0) (hcontinue : shouldContinue ≠ 0)
include hevent hcontinue

/-- A call with both callbacks sets the socket up and enters the loop. -/
lemma ingressRunLocal_eq (n : ℕ) :
    ingressRunLocal host port onEvent shouldContinue n
      = openSocket host port host.entry >>= fun p => rounds (receiveRound host p.1) n p.2 := by
  have hcallbacks : ¬(onEvent = 0 ∨ shouldContinue = 0) := not_or.mpr ⟨hevent, hcontinue⟩
  simp only [ingressRunLocal, if_neg hcallbacks]

/-- **A failed setup is identified.** The call returns `-1` with the error of the first system call
that failed, it has passed no event on, and it has closed the socket if there was one. -/
theorem ingressRunLocal_of_failed_setup (hopens : ¬host.Opens port) (n : ℕ) :
    ∃ t, ingressRunLocal host port onEvent shouldContinue n = .error (-1, t) ∧ t.events = [] ∧
      (host.socket.result < 0 ∧ t.errno = host.socket.errno ∧ t.closed = [] ∨
        ∃ a, (host.setupAnswers port).find? (·.result < 0) = some a ∧ t.errno = a.errno ∧
          t.closed = [host.socket.result]) := by
  rw [ingressRunLocal_eq hevent hcontinue]
  by_cases hsocket : host.socket.result < 0
  · rw [openSocket_of_no_socket hsocket]
    exact ⟨_, rfl, rfl, Or.inl ⟨hsocket, rfl, rfl⟩⟩
  · cases hfind : (host.setupAnswers port).find? (·.result < 0) with
    | none =>
        have hall : ∀ a ∈ host.setupAnswers port, ¬a.result < 0 := by
          simpa using List.find?_eq_none.mp hfind
        exact absurd ⟨hsocket, hall⟩ hopens
    | some a =>
        rw [openSocket_of_failed hsocket hfind]
        exact ⟨_, rfl, rfl, Or.inr ⟨a, rfl, rfl, rfl⟩⟩

end Run

/-- **A run** whose rounds all go on leaves what has arrived. -/
lemma IngressState.Arrived.rounds {t : IngressState} (h : t.Arrived host 0)
    (hgo : ∀ k < n, host.GoesOn k) :
    ∃ u, rounds (receiveRound host sockfd) n t = .ok u ∧ u.Arrived host n :=
  rounds_of_running h fun k hk _ hu => hu.goesOn (hgo k hk)

/-- **The receiver numbers datagrams by arrival and delivers exactly the packets, in order.** After a
successful setup, a call whose rounds have all gone on still runs, and has passed on the events that
report what arrived. It returns in the first round that does not go on: with the result of `close`
when `should_continue` answers zero, with `-1` and the error of `recvfrom` otherwise; the socket is
closed once. As long as fewer than `2 ^ 64` datagrams have arrived, the numbers of the events
increase, and between two that follow each other lie those of the datagrams that were rejected. -/
theorem receiver_delivers_in_order (host : Host) (port : UInt16) (onEvent shouldContinue : Addr)
    (hevent : onEvent ≠ 0) (hcontinue : shouldContinue ≠ 0) (hopens : host.Opens port) :
    let run := ingressRunLocal host port onEvent shouldContinue
    let sockfd := host.socket.result
    (∀ n, (∀ k < n, host.GoesOn k) →
      ∃ s, run n = .ok s ∧ s.events = host.deliveries n ∧ s.closed = []) ∧
    (∀ n k, k < n → (∀ j < k, host.GoesOn j) → host.shouldContinue k = 0 →
      ∃ s, run n = .error ((host.close sockfd).result, s) ∧ s.events = host.deliveries k ∧
        s.closed = [sockfd]) ∧
    (∀ n k code, k < n → (∀ j < k, host.GoesOn j) → host.shouldContinue k ≠ 0 →
      host.recvfrom k = .error code → code ≠ host.eagain → code ≠ host.ewouldblock →
      ∃ s, run n = .error (-1, s) ∧ s.errno = code ∧ s.events = host.deliveries k ∧
        s.closed = [sockfd]) ∧
    ∀ n, (host.datagrams n).length < 2 ^ 64 →
      (host.deliveries n).Pairwise (fun e e' => e.ingressSequenceId < e'.ingressSequenceId) ∧
      ∀ before e e' after, host.deliveries n = before ++ e :: e' :: after →
        ∃ front d rejected d' back, host.datagrams n = front ++ d :: (rejected ++ d' :: back) ∧
          IsIngressWire d ∧ IsIngressWire d' ∧ (∀ r ∈ rejected, ¬IsIngressWire r) ∧
          e.ingressSequenceId.toNat = front.length + 1 ∧
          e'.ingressSequenceId.toNat = e.ingressSequenceId.toNat + rejected.length + 1 := by
  obtain ⟨t, hopen, ht⟩ := openSocket_of_opens hopens
  have hrun : ∀ n, ingressRunLocal host port onEvent shouldContinue n
      = rounds (receiveRound host host.socket.result) n t := by
    intro n
    rw [ingressRunLocal_eq hevent hcontinue, hopen]
    rfl
  refine ⟨?_, ?_, ?_, ?_⟩
  · intro n hgo
    obtain ⟨u, hu, hua⟩ := ht.rounds hgo
    exact ⟨u, (hrun n).trans hu, hua.events, hua.closed⟩
  · intro n k hk hgo hstop
    obtain ⟨u, hu, hua⟩ := ht.rounds hgo
    obtain ⟨v, hround, hevents, hclosed⟩ := hua.stop hstop
    exact ⟨v, (hrun n).trans (rounds_of_return hu hround hk), hevents, hclosed⟩
  · intro n k code hk hgo hwanted hrecv hagain hblock
    obtain ⟨u, hu, hua⟩ := ht.rounds hgo
    obtain ⟨v, hround, herrno, hevents, hclosed⟩ := hua.error hwanted hrecv hagain hblock
    exact ⟨v, (hrun n).trans (rounds_of_return hu hround hk), herrno, hevents, hclosed⟩
  · intro n hcount
    exact ⟨pairwise_ids_of_lt hcount, fun before e e' after h => gap_eq_rejected hcount h⟩

/-- A host on which two packets arrive with a datagram of one byte between them, and whose caller
stops the receiver then. -/
def sampleHost : Host where
  eagain := 11
  ewouldblock := 11
  einval := 22
  oNonblock := 2048
  errno := 0
  buffer := fun _ => 0xA5
  event := IngressEvent.zero
  socket := ⟨3, 0⟩
  setsockopt _ := ⟨0, 0⟩
  getFlags _ := ⟨2, 0⟩
  setFlags _ _ := ⟨0, 0⟩
  bind _ _ := ⟨0, 0⟩
  close _ := ⟨0, 0⟩
  shouldContinue k := if k < 3 then 1 else 0
  recvfrom k := .datagram (if k = 1 then [1] else encodePacket 1 2 3 4 tradeSideSell)

theorem receiver_delivers_in_order_sample :
    ∃ s, ingressRunLocal sampleHost 49000 1 1 7 = .error (0, s) ∧
      s.events.map IngressEvent.ingressSequenceId = [1, 3] := by
  have hopens : sampleHost.Opens 49000 := ⟨by decide, by decide⟩
  have hgo : ∀ j < 3, sampleHost.GoesOn j := by
    intro j hj
    refine ⟨?_, fun code hcode => by simp [sampleHost] at hcode⟩
    simp [sampleHost, hj]
  have hrun := receiver_delivers_in_order sampleHost 49000 1 1 (by decide) (by decide) hopens
  obtain ⟨s, hret, hevents, -⟩ := hrun.2.1 7 3 (by decide) hgo (by decide)
  refine ⟨s, hret, ?_⟩
  rw [hevents]
  decide

end SolanaTpuClient
