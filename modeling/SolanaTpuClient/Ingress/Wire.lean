import SolanaTpuClient.Lib.ShiftedBytes

/-!
The fixed layout of an ingress event on the wire: `solana_ingress_decode` of `src/solana_ingress.c`,
and the encoder of `tests/test_ingress.c` that writes such an event.

`loadU64Le_eq` and `storeU64Le_eq` read the shifts of both as little-endian numerals, and
`ingressDecode_congr` says that a decoder looks at no byte past the length it is given.
-/

namespace SolanaTpuClient

open ByteMemory

/-- `SOLANA_INGRESS_WIRE_SIZE` -/
def ingressWireSize : ℕ := 33

/-- `OFFSET_INSTRUCTION_TYPE` -/
def offsetInstructionType : ℕ := 0
/-- `OFFSET_TIMESTAMP_MS` -/
def offsetTimestampMs : ℕ := 8
/-- `OFFSET_PRICE_RAW` -/
def offsetPriceRaw : ℕ := 16
/-- `OFFSET_QUANTITY_RAW` -/
def offsetQuantityRaw : ℕ := 24
/-- `OFFSET_SIDE` -/
def offsetSide : ℕ := 32

/-- `SOLANA_TRADE_SIDE_BUY` -/
def tradeSideBuy : UInt8 := 0
/-- `SOLANA_TRADE_SIDE_SELL` -/
def tradeSideSell : UInt8 := 1

/-- `solana_ingress_event_t` -/
structure IngressEvent where
  instructionType : UInt64
  sourceTimestampMs : UInt64
  priceRaw : UInt64
  quantityRaw : UInt64
  ingressSequenceId : UInt64
  side : UInt8
  reserved : Vector UInt8 7
deriving DecidableEq

/-- The event `memset` leaves. -/
def IngressEvent.zero : IngressEvent := ⟨0, 0, 0, 0, 0, 0, Vector.replicate 7 0⟩

/-! ### The decoder -/

/-- `load_u64_le` -/
def loadU64Le (p : Bytes) : UInt64 :=
  (p 0).toUInt64 |||
    ((p 1).toUInt64 <<< 8) |||
    ((p 2).toUInt64 <<< 16) |||
    ((p 3).toUInt64 <<< 24) |||
    ((p 4).toUInt64 <<< 32) |||
    ((p 5).toUInt64 <<< 40) |||
    ((p 6).toUInt64 <<< 48) |||
    ((p 7).toUInt64 <<< 56)

/-- `solana_ingress_decode`, with what `out_event` points to afterwards. -/
def ingressDecode (wireBuffer : Option Bytes) (wireLen : ℕ) (ingressSequenceId : UInt64)
    (outEvent : Option IngressEvent) : Bool × Option IngressEvent :=
  match wireBuffer, outEvent with
  | none, out => (false, out)
  | some _, none => (false, none)
  | some wire, some out =>
      if wireLen ≠ ingressWireSize then (false, some out)
      else
        let side := wire offsetSide
        if side > tradeSideSell then (false, some out)
        else
          (true, some
            { IngressEvent.zero with
              instructionType := loadU64Le (shift wire offsetInstructionType)
              sourceTimestampMs := loadU64Le (shift wire offsetTimestampMs)
              priceRaw := loadU64Le (shift wire offsetPriceRaw)
              quantityRaw := loadU64Le (shift wire offsetQuantityRaw)
              ingressSequenceId := ingressSequenceId
              side := side })

/-- A call of the decoder on a packet with the length of the packet. -/
def decodePacket (wire : List UInt8) (ingressSequenceId : UInt64) (out : IngressEvent) :
    Bool × Option IngressEvent :=
  ingressDecode (some (ofList wire)) wire.length ingressSequenceId (some out)

/-! ### The encoder of the tests -/

/-- `store_u64_le` of the tests, at the offset `off` of a packet. -/
def storeU64Le (packet : List UInt8) (off : ℕ) (value : UInt64) : List UInt8 :=
  (List.range 8).foldl (fun p i => p.set (off + i) (value >>> UInt64.ofNat (i * 8)).toUInt8) packet

/-- The packet the tests send: four fields stored into zeroed bytes, and the side behind them. -/
def encodePacket (instructionType sourceTimestampMs priceRaw quantityRaw : UInt64) (side : UInt8) :
    List UInt8 :=
  let packet := List.replicate ingressWireSize 0
  let packet := storeU64Le packet 0 instructionType
  let packet := storeU64Le packet 8 sourceTimestampMs
  let packet := storeU64Le packet 16 priceRaw
  let packet := storeU64Le packet 24 quantityRaw
  packet.set 32 side

/-! ### What the shifts compute -/

/-- Eight bytes joined by shifts are a little-endian word. -/
lemma loadU64Le_eq (p : Bytes) : loadU64Le p = load64 p 0 := by
  apply UInt64.toNat_inj.mp
  have hvalue : (loadU64Le p).toNat = leValue (slice p 0 8) := by
    have hslice : slice p 0 8 = [p 0, p 1, p 2, p 3, p 4, p 5, p 6, p 7] := by
      simp [slice, List.range_succ]
    have hnil : leValue [] = 0 := rfl
    simp (disch := decide) only [loadU64Le, UInt64.toNat_or, UInt8.toNat_toUInt64,
      toNat_toUInt64_shiftLeft, UInt64.reduceToNat]
    simp only [hslice, leValue_cons_or, hnil, Nat.shiftLeft_or_distrib, ← Nat.shiftLeft_add,
      Nat.zero_shiftLeft, Nat.or_zero, ← Nat.or_assoc, Nat.reduceAdd]
  have hlt : leValue (slice p 0 8) < 2 ^ 64 := by
    simpa using leValue_lt (slice p 0 8)
  rw [hvalue, load64, UInt64.toNat_ofNat', Nat.mod_eq_of_lt hlt]

/-- The field of a packet, read where it stands. -/
lemma loadU64Le_shift (m : Bytes) (off : ℕ) : loadU64Le (shift m off) = load64 m off := by
  rw [loadU64Le_eq, load64, load64]
  simp [slice]

/-- A stored word is a copy of its bytes. -/
lemma storeU64Le_eq {packet : List UInt8} {off : ℕ} (h : off + 8 ≤ packet.length) (value : UInt64) :
    storeU64Le packet off value = splice packet off (leBytes 8 value.toNat) := by
  rw [storeU64Le, foldl_set_range (fun i => (value >>> UInt64.ofNat (i * 8)).toUInt8) _ _ h,
    leBytes_eq_map]
  congr 1
  exact List.map_congr_left fun i hi => toUInt8_shiftRight value (List.mem_range.mp hi)

/-! ### What the decoder reads -/

/-- A decoder looks at no byte past the length it is given. -/
lemma ingressDecode_congr {m m' : Bytes} {n : ℕ} (h : ∀ j < n, m j = m' j) (seq : UInt64)
    (out : Option IngressEvent) :
    ingressDecode (some m) n seq out = ingressDecode (some m') n seq out := by
  cases out with
  | none => rfl
  | some out =>
      by_cases hn : n = ingressWireSize
      · subst hn
        have hside : m offsetSide = m' offsetSide := h _ (by decide)
        have hfields : ∀ j, 0 ≤ j → j < 33 → m j = m' j := fun j _ hj => h j hj
        have hload : ∀ off, off + 8 ≤ 33 → loadU64Le (shift m off) = loadU64Le (shift m' off) := by
          intro off hoff
          rw [loadU64Le_shift, loadU64Le_shift]
          exact load64_congr hfields off (by omega) hoff
        simp only [ingressDecode, hside, hload offsetInstructionType (by decide),
          hload offsetTimestampMs (by decide), hload offsetPriceRaw (by decide),
          hload offsetQuantityRaw (by decide)]
      · simp only [ingressDecode, ne_eq, hn, not_false_eq_true, if_true]

end SolanaTpuClient
