import SolanaTpuClient.Ingress.Wire

/-!
What an ingress packet stands for.

A packet carries four words and a trade side (`IngressPayload`), and `bytes` writes them down one
behind the other. `IsIngressWire` are the byte strings that are accepted; `ofWire` reads one back, and
`wireEquiv` says that accepted packets and payloads are the same thing. The decoder of
`Ingress/Wire.lean` computes `ofWire` (`decodePacket_of_isIngressWire`) and the encoder of the
tests computes `bytes` (`encodePacket_eq`).
-/

namespace SolanaTpuClient

open ByteMemory

/-- The packets that carry an event: `33` bytes, the last of which is a trade side. -/
def IsIngressWire (wire : List UInt8) : Prop :=
  wire.length = 33 ∧ (wire[32]? = some 0 ∨ wire[32]? = some 1)

instance (wire : List UInt8) : Decidable (IsIngressWire wire) :=
  inferInstanceAs (Decidable (_ ∧ _))

/-- What a packet carries. -/
@[ext] structure IngressPayload where
  instructionType : UInt64
  sourceTimestampMs : UInt64
  priceRaw : UInt64
  quantityRaw : UInt64
  side : UInt8
  side_eq : side = 0 ∨ side = 1

/-- The last byte of a packet, read as memory. -/
lemma IsIngressWire.side_eq {wire : List UInt8} (h : IsIngressWire wire) :
    ofList wire 32 = 0 ∨ ofList wire 32 = 1 := by
  obtain ⟨hlen, hside⟩ := h
  have hlt : 32 < wire.length := by omega
  rw [ofList_of_lt hlt]
  rwa [List.getElem?_eq_getElem hlt, Option.some.injEq, Option.some.injEq] at hside

namespace IngressPayload

/-- The packet that carries a payload. -/
def bytes (p : IngressPayload) : List UInt8 :=
  leBytes 8 p.instructionType.toNat ++ (leBytes 8 p.sourceTimestampMs.toNat ++
    (leBytes 8 p.priceRaw.toNat ++ (leBytes 8 p.quantityRaw.toNat ++ [p.side])))

/-- The payload an accepted packet carries. -/
def ofWire (wire : List UInt8) (h : IsIngressWire wire) : IngressPayload where
  instructionType := load64 (ofList wire) 0
  sourceTimestampMs := load64 (ofList wire) 8
  priceRaw := load64 (ofList wire) 16
  quantityRaw := load64 (ofList wire) 24
  side := ofList wire 32
  side_eq := h.side_eq

/-- The event that reports a payload under a sequence number. -/
def event (p : IngressPayload) (seq : UInt64) : IngressEvent where
  instructionType := p.instructionType
  sourceTimestampMs := p.sourceTimestampMs
  priceRaw := p.priceRaw
  quantityRaw := p.quantityRaw
  ingressSequenceId := seq
  side := p.side
  reserved := Vector.replicate 7 0

@[simp] lemma event_ingressSequenceId (p : IngressPayload) (seq : UInt64) :
    (p.event seq).ingressSequenceId = seq := rfl

/-- An event determines the payload it reports. -/
lemma event_injective {p q : IngressPayload} {seq seq' : UInt64}
    (h : p.event seq = q.event seq') : p = q := by
  simp only [event, IngressEvent.mk.injEq] at h
  obtain ⟨hinstruction, htimestamp, hprice, hquantity, -, hside, -⟩ := h
  ext1 <;> assumption

@[simp] lemma bytes_length (p : IngressPayload) : p.bytes.length = 33 := by
  simp [bytes]

lemma bytes_side (p : IngressPayload) : p.bytes[32]? = some p.side := by
  simp only [bytes]
  rw [List.getElem?_append_right (by simp), List.getElem?_append_right (by simp),
    List.getElem?_append_right (by simp), List.getElem?_append_right (by simp)]
  simp

lemma isIngressWire_bytes (p : IngressPayload) : IsIngressWire p.bytes := by
  refine ⟨p.bytes_length, ?_⟩
  rw [bytes_side, Option.some.injEq, Option.some.injEq]
  exact p.side_eq

/-- A field behind a stored word is that field of the rest. -/
lemma load64_behind (v : UInt64) (l : List UInt8) (off : ℕ) :
    load64 (ofList (leBytes 8 v.toNat ++ l)) (8 + off) = load64 (ofList l) off := by
  have hle : (leBytes 8 v.toNat).length ≤ 8 + off := by
    rw [leBytes_length]
    omega
  rw [load64_ofList_append hle, leBytes_length, Nat.add_sub_cancel_left]

/-- Reading a packet gives back the payload it was written from. -/
lemma ofWire_bytes (p : IngressPayload) : ofWire p.bytes p.isIngressWire_bytes = p := by
  have hside : ofList p.bytes 32 = p.side := by
    rw [ofList, List.getD_eq_getElem?_getD, bytes_side, Option.getD_some]
  have hfirst : load64 (ofList p.bytes) 0 = p.instructionType := by
    rw [bytes, load64_leBytes]
  have hsecond : load64 (ofList p.bytes) (8 + 0) = p.sourceTimestampMs := by
    rw [bytes, load64_behind, load64_leBytes]
  have hthird : load64 (ofList p.bytes) (8 + (8 + 0)) = p.priceRaw := by
    rw [bytes, load64_behind, load64_behind, load64_leBytes]
  have hfourth : load64 (ofList p.bytes) (8 + (8 + (8 + 0))) = p.quantityRaw := by
    rw [bytes, load64_behind, load64_behind, load64_behind, load64_leBytes]
  rw [IngressPayload.ext_iff]
  simp only [ofWire]
  exact ⟨hfirst, hsecond, hthird, hfourth, hside⟩

/-- Writing the payload of a packet gives back the packet. -/
lemma bytes_ofWire {wire : List UInt8} (h : IsIngressWire wire) : (ofWire wire h).bytes = wire := by
  have hlast : [ofList wire 32] = slice (ofList wire) 32 1 := by simp [slice]
  calc (ofWire wire h).bytes
      = slice (ofList wire) 0 8 ++ (slice (ofList wire) 8 8 ++ (slice (ofList wire) 16 8 ++
          (slice (ofList wire) 24 8 ++ [ofList wire 32]))) := by
        simp only [bytes, ofWire, leBytes_load64]
    _ = slice (ofList wire) 0 (8 + (8 + (8 + (8 + 1)))) := by
        rw [hlast, slice_add, slice_add, slice_add, slice_add]
    _ = wire := by
        have hwhole := slice_ofList_length wire
        rwa [h.1] at hwhole

/-- **Accepted packets are payloads**: writing and reading are inverse to each other. -/
def wireEquiv : {wire // IsIngressWire wire} ≃ IngressPayload where
  toFun wire := ofWire wire.1 wire.2
  invFun p := ⟨p.bytes, p.isIngressWire_bytes⟩
  left_inv wire := Subtype.ext (bytes_ofWire wire.2)
  right_inv p := p.ofWire_bytes

end IngressPayload

/-! ### The code computes it -/

/-- A side byte passes the check of the decoder if and only if it is one of the two sides. -/
lemma side_le_iff (side : UInt8) : ¬side > tradeSideSell ↔ side = 0 ∨ side = 1 := by
  rw [gt_iff_lt, UInt8.not_lt, UInt8.le_iff_toNat_le, ← UInt8.toNat_inj, ← UInt8.toNat_inj]
  have hsell : tradeSideSell.toNat = 1 := rfl
  have hzero : (0 : UInt8).toNat = 0 := rfl
  have hone : (1 : UInt8).toNat = 1 := rfl
  omega

/-- On an accepted packet the decoder returns its payload under the given number. -/
lemma decodePacket_of_isIngressWire {wire : List UInt8} (h : IsIngressWire wire) (seq : UInt64)
    (out : IngressEvent) :
    decodePacket wire seq out = (true, some ((IngressPayload.ofWire wire h).event seq)) := by
  have hlen : ¬wire.length ≠ ingressWireSize := by
    rw [h.1, ingressWireSize]
    simp
  have hside : ¬ofList wire offsetSide > tradeSideSell := (side_le_iff _).mpr h.side_eq
  simp only [decodePacket, ingressDecode, if_neg hlen, if_neg hside, loadU64Le_shift]
  rfl

/-- Any other packet is refused, and the event behind the pointer is left alone. -/
lemma decodePacket_of_not_isIngressWire {wire : List UInt8} (h : ¬IsIngressWire wire)
    (seq : UInt64) (out : IngressEvent) : decodePacket wire seq out = (false, some out) := by
  by_cases hlen : wire.length = ingressWireSize
  · have hlt : 32 < wire.length := by
      rw [hlen, ingressWireSize]
      omega
    have hside : ofList wire offsetSide > tradeSideSell := by
      by_contra hle
      have hbyte := (side_le_iff _).mp hle
      rw [offsetSide, ofList_of_lt hlt] at hbyte
      refine h ⟨hlen, ?_⟩
      rwa [List.getElem?_eq_getElem hlt, Option.some.injEq, Option.some.injEq]
    simp only [decodePacket, ingressDecode, hlen, ne_eq, not_true_eq_false, if_false, if_pos hside]
  · simp only [decodePacket, ingressDecode, ne_eq, hlen, not_false_eq_true, if_true]

/-- A store into zeroed bytes, behind what is written already. -/
lemma storeU64Le_zeros (done : List UInt8) {off : ℕ} (hoff : done.length = off) (k : ℕ)
    (value : UInt64) :
    storeU64Le (done ++ List.replicate (8 + k) 0) off value
      = (done ++ leBytes 8 value.toNat) ++ List.replicate k 0 := by
  subst hoff
  have hroom : done.length + 8 ≤ (done ++ List.replicate (8 + k) (0 : UInt8)).length := by
    rw [List.length_append, List.length_replicate]
    omega
  have hfront := splice_append_right done (List.replicate (8 + k) 0) 0 (leBytes 8 value.toNat)
  rw [Nat.add_zero] at hfront
  rw [storeU64Le_eq hroom, hfront, splice, leBytes_length, List.take_zero, List.nil_append,
    Nat.zero_add, List.drop_replicate, Nat.add_sub_cancel_left, List.append_assoc]

/-- The encoder of the tests writes the packet of a payload. -/
lemma encodePacket_eq (p : IngressPayload) :
    encodePacket p.instructionType p.sourceTimestampMs p.priceRaw p.quantityRaw p.side
      = p.bytes := by
  have hfirst := storeU64Le_zeros [] List.length_nil 25 p.instructionType
  have hsecond := storeU64Le_zeros (leBytes 8 p.instructionType.toNat) (leBytes_length _ _) 17
    p.sourceTimestampMs
  have hthird := storeU64Le_zeros (leBytes 8 p.instructionType.toNat ++
    leBytes 8 p.sourceTimestampMs.toNat) (by rw [List.length_append, leBytes_length,
      leBytes_length]) 9 p.priceRaw
  have hfourth := storeU64Le_zeros (leBytes 8 p.instructionType.toNat ++
    leBytes 8 p.sourceTimestampMs.toNat ++ leBytes 8 p.priceRaw.toNat) (by rw [List.length_append,
      List.length_append, leBytes_length, leBytes_length, leBytes_length]) 1 p.quantityRaw
  simp only [Nat.reduceAdd, List.nil_append] at hfirst hsecond hthird hfourth
  rw [encodePacket, ingressWireSize, hfirst, hsecond, hthird, hfourth, IngressPayload.bytes,
    List.set_append_right _ _ (by simp)]
  simp

end SolanaTpuClient
