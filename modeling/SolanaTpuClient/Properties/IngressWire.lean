import SolanaTpuClient.Spec.IngressWire

/-!
The wire format of the ingress decoder is canonical.

`decodePacket_eq_true_iff` says what an accepted call has decoded, from which both round trips
follow: `decodePacket_encodePacket` from an event to the wire and back, and
`encodePacket_of_decodePacket` from the wire to an event and back.
-/

namespace SolanaTpuClient

open ByteMemory

variable {wire : List UInt8} {seq : UInt64} {out event : IngressEvent}

/-- An accepted call has decoded the payload of an accepted packet. -/
lemma decodePacket_eq_true_iff :
    decodePacket wire seq out = (true, some event)
      ↔ ∃ h : IsIngressWire wire, event = (IngressPayload.ofWire wire h).event seq := by
  by_cases h : IsIngressWire wire
  · rw [decodePacket_of_isIngressWire h]
    simp only [Prod.mk.injEq, true_and, Option.some.injEq, h, exists_true_left, eq_comm]
  · rw [decodePacket_of_not_isIngressWire h]
    simp [h]

/-- A call is accepted if and only if its packet is. -/
lemma decodePacket_fst_iff : (decodePacket wire seq out).1 = true ↔ IsIngressWire wire := by
  by_cases h : IsIngressWire wire
  · simp [decodePacket_of_isIngressWire h, h]
  · simp [decodePacket_of_not_isIngressWire h, h]

/-- A rejected call leaves the event behind its pointer alone. -/
lemma decodePacket_snd_of_rejected (h : (decodePacket wire seq out).1 = false) :
    (decodePacket wire seq out).2 = some out := by
  have hwire : ¬IsIngressWire wire := fun hwire => by
    rw [decodePacket_fst_iff.mpr hwire] at h
    exact absurd h (by simp)
  rw [decodePacket_of_not_isIngressWire hwire]

/-- Decoding what the encoder wrote for a payload reports the payload. -/
lemma decodePacket_encodePacket (p : IngressPayload) (seq : UInt64) (out : IngressEvent) :
    decodePacket (encodePacket p.instructionType p.sourceTimestampMs p.priceRaw p.quantityRaw
      p.side) seq out = (true, some (p.event seq)) := by
  rw [encodePacket_eq, decodePacket_of_isIngressWire p.isIngressWire_bytes,
    IngressPayload.ofWire_bytes]

/-- Encoding what was decoded from a packet writes the packet. -/
lemma encodePacket_of_decodePacket (h : decodePacket wire seq out = (true, some event)) :
    encodePacket event.instructionType event.sourceTimestampMs event.priceRaw event.quantityRaw
      event.side = wire := by
  obtain ⟨hwire, rfl⟩ := decodePacket_eq_true_iff.mp h
  calc encodePacket _ _ _ _ _ = (IngressPayload.ofWire wire hwire).bytes := encodePacket_eq _
    _ = wire := IngressPayload.bytes_ofWire hwire

/-- Calls that decode the same payload were given the same packet. -/
lemma packet_eq_of_event_eq {wire' : List UInt8} {seq' : UInt64} {out' event' : IngressEvent}
    (h : decodePacket wire seq out = (true, some event))
    (h' : decodePacket wire' seq' out' = (true, some event')) (heq : event = event') :
    wire = wire' := by
  obtain ⟨hwire, rfl⟩ := decodePacket_eq_true_iff.mp h
  obtain ⟨hwire', rfl⟩ := decodePacket_eq_true_iff.mp h'
  have hpayload :
      IngressPayload.wireEquiv ⟨wire, hwire⟩ = IngressPayload.wireEquiv ⟨wire', hwire'⟩ :=
    IngressPayload.event_injective heq
  exact congrArg Subtype.val (IngressPayload.wireEquiv.injective hpayload)

/-- **The ingress decoder is a bijection between accepted packets and events.** A call accepts
exactly the packets of `33` bytes that end with a side, and a rejected call changes nothing; what the
encoder writes is decoded to the same values with zeroed reserved bytes; and what was decoded is
encoded to the same packet, so that no two accepted packets give the same event. -/
theorem ingress_wire_bijection :
    (∀ (wire : List UInt8) (seq : UInt64) (out : IngressEvent),
      ((decodePacket wire seq out).1 = true
        ↔ wire.length = 33 ∧ (wire[32]? = some 0 ∨ wire[32]? = some 1)) ∧
      ((decodePacket wire seq out).1 = false → (decodePacket wire seq out).2 = some out)) ∧
    (∀ (instructionType sourceTimestampMs priceRaw quantityRaw : UInt64) (side : UInt8),
      side = 0 ∨ side = 1 → ∀ (seq : UInt64) (out : IngressEvent),
        decodePacket (encodePacket instructionType sourceTimestampMs priceRaw quantityRaw side)
            seq out
          = (true, some ⟨instructionType, sourceTimestampMs, priceRaw, quantityRaw, seq, side,
              Vector.replicate 7 0⟩)) ∧
    (∀ (wire : List UInt8) (seq : UInt64) (out event : IngressEvent),
      decodePacket wire seq out = (true, some event) →
        encodePacket event.instructionType event.sourceTimestampMs event.priceRaw
          event.quantityRaw event.side = wire) ∧
    (∀ (wire wire' : List UInt8) (seq seq' : UInt64) (out out' event event' : IngressEvent),
      decodePacket wire seq out = (true, some event) →
        decodePacket wire' seq' out' = (true, some event') → wire ≠ wire' → event ≠ event') := by
  refine ⟨fun wire seq out => ⟨decodePacket_fst_iff, decodePacket_snd_of_rejected⟩, ?_, ?_, ?_⟩
  · intro a b c d side hside seq out
    exact decodePacket_encodePacket ⟨a, b, c, d, side, hside⟩ seq out
  · intro wire seq out event h
    exact encodePacket_of_decodePacket h
  · intro wire wire' seq seq' out out' event event' h h' hne heq
    exact hne (packet_eq_of_event_eq h h' heq)

/-- A packet of the tests: an instruction of type `1` on the buying side. -/
example (out : IngressEvent) :
    decodePacket (encodePacket 1 1690000000000 15000000000 100000000 tradeSideBuy) 7 out
      = (true, some ⟨1, 1690000000000, 15000000000, 100000000, 7, tradeSideBuy,
          Vector.replicate 7 0⟩) := by
  rfl

end SolanaTpuClient
