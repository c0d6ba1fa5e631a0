import SolanaTpuClient.Lib.Numbered
import SolanaTpuClient.Spec.IngressWire
import SolanaTpuClient.Ingress.Receive

/-!
What a receiver reports of the datagrams that arrive.

The datagrams of the first `n` calls of `recvfrom` that are not empty (`Host.datagrams`) are numbered
in the order of their arrival. A datagram that is a packet is reported by an event under its number
(`delivery`), any other one is passed over, and `Host.deliveries` are the events of a receiver that
has gone through `n` rounds. `Host.GoesOn` says that a round is not the last one.
-/

namespace SolanaTpuClient

open ByteMemory Numbered

/-- The datagram a call of `recvfrom` finds, unless it is empty. -/
def Received.payload : Received → Option (List UInt8)
  | .datagram [] => none
  | .datagram (b :: bytes) => some (b :: bytes)
  | .error _ => none

/-- The event that reports a datagram under the number `i`, if it is a packet. -/
def delivery (datagram : List UInt8) (i : ℕ) : Option IngressEvent :=
  if h : IsIngressWire datagram then
    some ((IngressPayload.ofWire datagram h).event (UInt64.ofNat i))
  else none

lemma delivery_of_isIngressWire {d : List UInt8} (h : IsIngressWire d) (i : ℕ) :
    delivery d i = some ((IngressPayload.ofWire d h).event (UInt64.ofNat i)) :=
  dif_pos h

lemma delivery_of_not_isIngressWire {d : List UInt8} (h : ¬IsIngressWire d) (i : ℕ) :
    delivery d i = none :=
  dif_neg h

lemma delivery_eq_none_iff {d : List UInt8} {i : ℕ} : delivery d i = none ↔ ¬IsIngressWire d := by
  by_cases h : IsIngressWire d
  · simp [delivery_of_isIngressWire h, h]
  · simp [delivery_of_not_isIngressWire h, h]

/-- A delivery is of a packet, and carries its number modulo the width of the counter. -/
lemma delivery_eq_some {d : List UInt8} {i : ℕ} {e : IngressEvent} (h : delivery d i = some e) :
    IsIngressWire d ∧ e.ingressSequenceId.toNat = i % 2 ^ 64 := by
  by_cases hd : IsIngressWire d
  · rw [delivery_of_isIngressWire hd, Option.some.injEq] at h
    refine ⟨hd, ?_⟩
    rw [← h, IngressPayload.event_ingressSequenceId, UInt64.toNat_ofNat']
  · rw [delivery_of_not_isIngressWire hd] at h
    cases h

/-- What a call of the decoder on a datagram delivers. -/
lemma decodePacket_eq_delivery (d : List UInt8) (i : ℕ) (out : IngressEvent) :
    decodePacket d (UInt64.ofNat i) out
      = ((delivery d i).isSome, some ((delivery d i).getD out)) := by
  by_cases h : IsIngressWire d
  · rw [decodePacket_of_isIngressWire h, delivery_of_isIngressWire h, Option.isSome_some,
      Option.getD_some]
  · rw [decodePacket_of_not_isIngressWire h, delivery_of_not_isIngressWire h, Option.isSome_none,
      Option.getD_none]

namespace Host

variable (host : Host)

/-- The datagrams of the first `n` calls of `recvfrom` that are not empty. -/
def datagrams (n : ℕ) : List (List UInt8) :=
  (List.range n).filterMap fun k => (host.recvfrom k).payload

/-- The events that report the datagrams of the first `n` calls of `recvfrom`. -/
def deliveries (n : ℕ) : List IngressEvent := numbered delivery (host.datagrams n)

/-- The `k`-th round is not the last one: the caller wants it, and what `recvfrom` finds is no error
or one that only says that there is nothing to receive. -/
def GoesOn (k : ℕ) : Prop :=
  host.shouldContinue k ≠ 0 ∧
    ∀ code, host.recvfrom k = .error code → code = host.eagain ∨ code = host.ewouldblock

/-- The answers of the calls that set the socket up, in their order. -/
def setupAnswers (port : UInt16) : List Answer :=
  let sockfd := host.socket.result
  [host.setsockopt sockfd, host.getFlags sockfd,
    host.setFlags sockfd ((host.getFlags sockfd).result ||| host.oNonblock),
    host.bind sockfd (loopbackAddress port)]

/-- No call of the setup fails. -/
structure Opens (port : UInt16) : Prop where
  socket : ¬host.socket.result < 0
  setup : ∀ a ∈ host.setupAnswers port, ¬a.result < 0

lemma datagrams_succ (n : ℕ) :
    host.datagrams (n + 1) = host.datagrams n ++ (host.recvfrom n).payload.toList := by
  rw [datagrams, List.range_succ, List.filterMap_append, datagrams]
  congr 1

/-- A round that finds nothing delivers nothing. -/
lemma deliveries_succ_of_none {n : ℕ} (h : (host.recvfrom n).payload = none) :
    host.deliveries (n + 1) = host.deliveries n := by
  rw [deliveries, datagrams_succ, h, Option.toList_none, List.append_nil, deliveries]

/-- A round that finds a datagram gives it the next number. -/
lemma deliveries_succ_of_some {n : ℕ} {d : List UInt8} (h : (host.recvfrom n).payload = some d) :
    host.deliveries (n + 1)
      = host.deliveries n ++ (delivery d ((host.datagrams n).length + 1)).toList := by
  rw [deliveries, datagrams_succ, h, Option.toList_some, numbered_concat, deliveries]

end Host

/-! ### The numbers of the events -/

section Numbers

variable {datagrams : List (List UInt8)} (hcount : datagrams.length < 2 ^ 64)
include hcount

/-- As long as the counter does not wrap, later events carry greater numbers. -/
lemma pairwise_ids_of_lt :
    (numbered delivery datagrams).Pairwise
      fun e e' => e.ingressSequenceId < e'.ingressSequenceId := by
  refine numbered_pairwise fun d d' i j e e' _ hij hj he he' => ?_
  have hi := (delivery_eq_some he).2
  have hj' := (delivery_eq_some he').2
  rw [UInt64.lt_iff_toNat_lt]
  omega

/-- As long as the counter does not wrap, the gap between the numbers of two events that follow each
other counts the datagrams that were passed over between them. -/
lemma gap_eq_rejected {before after : List IngressEvent} {e e' : IngressEvent}
    (h : numbered delivery datagrams = before ++ e :: e' :: after) :
    ∃ front d rejected d' back, datagrams = front ++ d :: (rejected ++ d' :: back) ∧
      IsIngressWire d ∧ IsIngressWire d' ∧ (∀ r ∈ rejected, ¬IsIngressWire r) ∧
      e.ingressSequenceId.toNat = front.length + 1 ∧
      e'.ingressSequenceId.toNat = e.ingressSequenceId.toNat + rejected.length + 1 := by
  obtain ⟨front, d, rejected, d', back, rfl, hskip, he, he'⟩ := numbered_split h
  obtain ⟨hd, hid⟩ := delivery_eq_some he
  obtain ⟨hd', hid'⟩ := delivery_eq_some he'
  have hrejected : ∀ r ∈ rejected, ¬IsIngressWire r := by
    intro r hr
    obtain ⟨i, hi⟩ := hskip r hr
    exact delivery_eq_none_iff.mp hi
  simp only [List.length_append, List.length_cons] at hcount
  exact ⟨front, d, rejected, d', back, rfl, hd, hd', hrejected, by omega, by omega⟩

end Numbers

end SolanaTpuClient
