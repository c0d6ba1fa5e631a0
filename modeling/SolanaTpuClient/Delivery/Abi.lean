import SolanaTpuClient.Lib.ByteMemory

/-!
The records of `include/solana/delivery.h`: status codes, the four topology records with their
byte layouts, the topology view, the submission options and the event envelope.

The ABI is LP64 and little-endian. A record that lives in caller memory or in an array copied
by bytes is read with its `decode`, from the offsets the C layout gives its fields; `size` is
the C `sizeof`. No record of the header has padding.
-/

namespace SolanaTpuClient

open ByteMemory

/-! ### Status codes -/

/-- `solana_delivery_status_t`. Clock and provider callbacks may return any value. -/
abbrev Status := UInt32

namespace Status

/-- `SOLANA_DELIVERY_STATUS_OK` -/
def ok : Status := 0
/-- `SOLANA_DELIVERY_STATUS_INVALID_ARGUMENT` -/
def invalidArgument : Status := 1
/-- `SOLANA_DELIVERY_STATUS_UNSUPPORTED` -/
def unsupported : Status := 2
/-- `SOLANA_DELIVERY_STATUS_RESOURCE_EXHAUSTED` -/
def resourceExhausted : Status := 3
/-- `SOLANA_DELIVERY_STATUS_TOPOLOGY_UNAVAILABLE` -/
def topologyUnavailable : Status := 4
/-- `SOLANA_DELIVERY_STATUS_TOPOLOGY_STALE` -/
def topologyStale : Status := 5
/-- `SOLANA_DELIVERY_STATUS_INTERNAL_ERROR` -/
def internalError : Status := 6

@[simp] lemma invalidArgument_ne_ok : invalidArgument ≠ ok := by decide
@[simp] lemma unsupported_ne_ok : unsupported ≠ ok := by decide
@[simp] lemma resourceExhausted_ne_ok : resourceExhausted ≠ ok := by decide
@[simp] lemma topologyUnavailable_ne_ok : topologyUnavailable ≠ ok := by decide
@[simp] lemma topologyStale_ne_ok : topologyStale ≠ ok := by decide
@[simp] lemma internalError_ne_ok : internalError ≠ ok := by decide

@[simp] lemma internalError_ne_invalidArgument : internalError ≠ invalidArgument := by decide
@[simp] lemma internalError_ne_unsupported : internalError ≠ unsupported := by decide
@[simp] lemma internalError_ne_resourceExhausted : internalError ≠ resourceExhausted := by decide
@[simp] lemma internalError_ne_topologyUnavailable : internalError ≠ topologyUnavailable := by
  decide
@[simp] lemma internalError_ne_topologyStale : internalError ≠ topologyStale := by decide

/-- The stage a computation is that may stop with a status. -/
def stageOf {α : Type} : Except Status α → Bool × Status
  | .ok _ => (true, ok)
  | .error status => (false, status)

/-- `if (status != OK) return status;` -/
def check (status : Status) : Except Status Unit :=
  if status = ok then .ok () else .error status

lemma check_eq_ok {status : Status} : check status = .ok () ↔ status = ok := by
  unfold check
  split_ifs with h <;> simp [h]

lemma check_eq_error {status e : Status} : check status = .error e ↔ status = e ∧ e ≠ ok := by
  rw [check]
  split_ifs with h
  · simp only [false_iff, not_and, not_not]
    exact fun he => he ▸ h
  · simp only [Except.error.injEq]
    exact ⟨fun he => ⟨he, he ▸ h⟩, fun he => he.1⟩

end Status

/-! ### Pointers -/

/-- An address, `0` for a null pointer. -/
abbrev Addr := ℕ

/-- `SIZE_MAX` and `UINTPTR_MAX` where `size_t` and `uintptr_t` have `W` bits. -/
def sizeMax (W : ℕ) : ℕ := 2 ^ W - 1

lemma le_sizeMax_iff {W n : ℕ} : n ≤ sizeMax W ↔ n < 2 ^ W :=
  Nat.le_sub_one_iff_lt (Nat.two_pow_pos W)

/-- `UINT64_MAX` -/
def uint64Max : UInt64 := 0xFFFFFFFFFFFFFFFF

/-- A non-null pointer argument with what it points to. A C pointer to an `α` is an
`Option (Ref α)`. -/
structure Ref (α : Type) where
  addr : Addr
  ne_null : addr ≠ 0
  val : α

/-- `pointer_is_aligned_for` -/
def pointerIsAlignedFor {α : Type} (pointer : Option (Ref α)) (alignment : ℕ) : Bool :=
  match pointer with
  | none => false
  | some r => alignment != 0 && r.addr % alignment == 0

/-- `pointer_is_aligned` -/
def pointerIsAligned (pointer : Addr) (alignment : ℕ) : Bool :=
  alignment != 0 && pointer % alignment == 0

/-! ### Topology records -/

/-- `solana_delivery_validator_t` -/
structure Validator where
  structSize : UInt32
  reserved0 : UInt32
  identity : Vector UInt8 32
  reserved1 : Vector UInt8 8
deriving DecidableEq

/-- `solana_delivery_endpoint_t` -/
structure Endpoint where
  structSize : UInt32
  addressFamily : UInt8
  transport : UInt8
  role : UInt8
  reserved0 : UInt8
  port : UInt16
  reserved1 : UInt16
  address : Vector UInt8 16
  reserved2 : Vector UInt8 4
deriving DecidableEq

/-- `solana_delivery_validator_endpoint_t` -/
structure ValidatorEndpoint where
  structSize : UInt32
  validatorIndex : UInt32
  endpointIndex : UInt32
  reserved0 : UInt32
deriving DecidableEq

/-- `solana_delivery_leader_t` -/
structure Leader where
  structSize : UInt32
  validatorIndex : UInt32
  firstSlot : UInt64
  lastSlot : UInt64
  reserved0 : UInt64
deriving DecidableEq

namespace Validator

/-- `sizeof(solana_delivery_validator_t)` -/
def size : ℕ := 48

def decode (m : Bytes) : Validator where
  structSize := load32 m 0
  reserved0 := load32 m 4
  identity := loadArray m 8 32
  reserved1 := loadArray m 40 8

/-- Memories that agree past the first field hold records that differ in it alone. -/
lemma decode_of_tail {m m' : Bytes} (h : ∀ j, 4 ≤ j → j < size → m j = m' j) :
    decode m = { decode m' with structSize := load32 m 0 } := by
  simp only [decode, mk.injEq, true_and]
  exact ⟨load32_congr h 4 (by omega) (by decide), loadArray_congr h 8 32 (by omega) (by decide),
    loadArray_congr h 40 8 (by omega) (by decide)⟩

/-- Records that agree but for their first field come from memories that agree past it. -/
lemma tail_of_decode {m m' : Bytes}
    (h : { decode m with structSize := 0 } = { decode m' with structSize := 0 }) :
    ∀ j, 4 ≤ j → j < size → m j = m' j := by
  simp only [decode, mk.injEq, true_and] at h
  obtain ⟨hres0, hidentity, hres1⟩ := h
  exact bytes_append (bytes_of_load32 hres0)
    (bytes_append (bytes_of_loadArray hidentity) (bytes_of_loadArray hres1))

end Validator

namespace Endpoint

/-- `sizeof(solana_delivery_endpoint_t)` -/
def size : ℕ := 32

def decode (m : Bytes) : Endpoint where
  structSize := load32 m 0
  addressFamily := m 4
  transport := m 5
  role := m 6
  reserved0 := m 7
  port := load16 m 8
  reserved1 := load16 m 10
  address := loadArray m 12 16
  reserved2 := loadArray m 28 4

/-- Memories that agree past the first field hold records that differ in it alone. -/
lemma decode_of_tail {m m' : Bytes} (h : ∀ j, 4 ≤ j → j < size → m j = m' j) :
    decode m = { decode m' with structSize := load32 m 0 } := by
  simp only [decode, mk.injEq, true_and]
  exact ⟨h 4 (by omega) (by decide), h 5 (by omega) (by decide), h 6 (by omega) (by decide),
    h 7 (by omega) (by decide), load16_congr h 8 (by omega) (by decide),
    load16_congr h 10 (by omega) (by decide), loadArray_congr h 12 16 (by omega) (by decide),
    loadArray_congr h 28 4 (by omega) (by decide)⟩

/-- Records that agree but for their first field come from memories that agree past it. -/
lemma tail_of_decode {m m' : Bytes}
    (h : { decode m with structSize := 0 } = { decode m' with structSize := 0 }) :
    ∀ j, 4 ≤ j → j < size → m j = m' j := by
  simp only [decode, mk.injEq, true_and] at h
  obtain ⟨hfamily, htransport, hrole, hres0, hport, hres1, haddress, hres2⟩ := h
  have hbyte : ∀ off, m off = m' off → ∀ j, off ≤ j → j < off + 1 → m j = m' j := by
    intro off hoff j hlo hhi
    obtain rfl : j = off := by omega
    exact hoff
  exact bytes_append (hbyte 4 hfamily) (bytes_append (hbyte 5 htransport)
    (bytes_append (hbyte 6 hrole) (bytes_append (hbyte 7 hres0)
      (bytes_append (bytes_of_load16 hport) (bytes_append (bytes_of_load16 hres1)
        (bytes_append (bytes_of_loadArray haddress) (bytes_of_loadArray hres2)))))))

end Endpoint

namespace ValidatorEndpoint

/-- `sizeof(solana_delivery_validator_endpoint_t)` -/
def size : ℕ := 16

def decode (m : Bytes) : ValidatorEndpoint where
  structSize := load32 m 0
  validatorIndex := load32 m 4
  endpointIndex := load32 m 8
  reserved0 := load32 m 12

/-- Memories that agree past the first field hold records that differ in it alone. -/
lemma decode_of_tail {m m' : Bytes} (h : ∀ j, 4 ≤ j → j < size → m j = m' j) :
    decode m = { decode m' with structSize := load32 m 0 } := by
  simp only [decode, mk.injEq, true_and]
  exact ⟨load32_congr h 4 (by omega) (by decide), load32_congr h 8 (by omega) (by decide),
    load32_congr h 12 (by omega) (by decide)⟩

/-- Records that agree but for their first field come from memories that agree past it. -/
lemma tail_of_decode {m m' : Bytes}
    (h : { decode m with structSize := 0 } = { decode m' with structSize := 0 }) :
    ∀ j, 4 ≤ j → j < size → m j = m' j := by
  simp only [decode, mk.injEq, true_and] at h
  obtain ⟨hvalidator, hendpoint, hres0⟩ := h
  exact bytes_append (bytes_of_load32 hvalidator)
    (bytes_append (bytes_of_load32 hendpoint) (bytes_of_load32 hres0))

end ValidatorEndpoint

namespace Leader

/-- `sizeof(solana_delivery_leader_t)` -/
def size : ℕ := 32

def decode (m : Bytes) : Leader where
  structSize := load32 m 0
  validatorIndex := load32 m 4
  firstSlot := load64 m 8
  lastSlot := load64 m 16
  reserved0 := load64 m 24

/-- Memories that agree past the first field hold records that differ in it alone. -/
lemma decode_of_tail {m m' : Bytes} (h : ∀ j, 4 ≤ j → j < size → m j = m' j) :
    decode m = { decode m' with structSize := load32 m 0 } := by
  simp only [decode, mk.injEq, true_and]
  exact ⟨load32_congr h 4 (by omega) (by decide), load64_congr h 8 (by omega) (by decide),
    load64_congr h 16 (by omega) (by decide), load64_congr h 24 (by omega) (by decide)⟩

/-- Records that agree but for their first field come from memories that agree past it. -/
lemma tail_of_decode {m m' : Bytes}
    (h : { decode m with structSize := 0 } = { decode m' with structSize := 0 }) :
    ∀ j, 4 ≤ j → j < size → m j = m' j := by
  simp only [decode, mk.injEq, true_and] at h
  obtain ⟨hvalidator, hfirst, hlast, hres0⟩ := h
  exact bytes_append (bytes_of_load32 hvalidator)
    (bytes_append (bytes_of_load64 hfirst) (bytes_append (bytes_of_load64 hlast)
      (bytes_of_load64 hres0)))

end Leader

/-! ### The topology view -/

/-- `solana_delivery_topology_t`: the record itself, its array pointers as addresses. -/
structure Topology where
  structSize : UInt32
  reserved0 : UInt32
  generation : UInt64
  currentSlot : UInt64
  validators : Addr
  validatorCount : UInt32
  validatorStride : UInt32
  endpoints : Addr
  endpointCount : UInt32
  endpointStride : UInt32
  validatorEndpoints : Addr
  validatorEndpointCount : UInt32
  validatorEndpointStride : UInt32
  leaders : Addr
  leaderCount : UInt32
  leaderStride : UInt32
deriving DecidableEq

/-- `sizeof(solana_delivery_topology_t)` -/
def Topology.size : ℕ := 88

/-- What a `memset` to zero leaves of a topology record. -/
def Topology.zero : Topology := ⟨0, 0, 0, 0, 0, 0, 0, 0, 0, 0, 0, 0, 0, 0, 0, 0⟩

/-- The bytes behind the four array pointers of a topology record. The arrays of a caller may
overlap; nothing is assumed of the four ranges. -/
structure TopologyMemory where
  validators : Bytes
  endpoints : Bytes
  validatorEndpoints : Bytes
  leaders : Bytes

/-- A topology record together with the memory its array pointers reach. -/
structure CallerTopology where
  view : Topology
  memory : TopologyMemory

/-! ### Submission options and events -/

/-- `solana_delivery_submit_options_t` -/
structure SubmitOptions where
  structSize : UInt32
  flags : UInt32
  maxTopologyAgeNs : UInt64
  targetLimit : UInt32
  reserved0 : UInt32
deriving DecidableEq

/-- `solana_delivery_event_t` -/
structure Event where
  structSize : UInt32
  eventClass : UInt32
  eventCode : UInt32
  diagnosticCode : Int32
  requestId : UInt64
  attemptId : UInt64
  requestSequence : UInt64
  monotonicTimeNs : UInt64
  reserved0 : UInt64
  reserved1 : UInt64
deriving DecidableEq

namespace Event

/-- `sizeof(solana_delivery_event_t)` -/
def size : ℕ := 64

/-- What `calloc` leaves of an event. -/
def zero : Event := ⟨0, 0, 0, 0, 0, 0, 0, 0, 0, 0⟩

/-- The object representation of an event. -/
def encode (e : Event) : List UInt8 :=
  leBytes 4 e.structSize.toNat ++ (leBytes 4 e.eventClass.toNat ++ (leBytes 4 e.eventCode.toNat ++
    (leBytes 4 e.diagnosticCode.toUInt32.toNat ++ (leBytes 8 e.requestId.toNat ++
      (leBytes 8 e.attemptId.toNat ++ (leBytes 8 e.requestSequence.toNat ++
        (leBytes 8 e.monotonicTimeNs.toNat ++ (leBytes 8 e.reserved0.toNat ++
          (leBytes 8 e.reserved1.toNat ++ [])))))))))

def decode (m : Bytes) : Event where
  structSize := load32 m 0
  eventClass := load32 m 4
  eventCode := load32 m 8
  diagnosticCode := (load32 m 12).toInt32
  requestId := load64 m 16
  attemptId := load64 m 24
  requestSequence := load64 m 32
  monotonicTimeNs := load64 m 40
  reserved0 := load64 m 48
  reserved1 := load64 m 56

@[simp] lemma encode_length (e : Event) : e.encode.length = size := by
  simp only [encode, List.length_append, leBytes_length, List.length_nil, size]

lemma decode_congr {m m' : Bytes} (h : ∀ j < size, m j = m' j) : decode m = decode m' := by
  have h' : ∀ j, 0 ≤ j → j < size → m j = m' j := fun j _ => h j
  have h32 : ∀ off, off + 4 ≤ size → load32 m off = load32 m' off := fun off =>
    load32_congr h' off (Nat.zero_le _)
  have h64 : ∀ off, off + 8 ≤ size → load64 m off = load64 m' off := fun off =>
    load64_congr h' off (Nat.zero_le _)
  simp only [size] at h32 h64
  simp only [decode, h32 0 (by omega), h32 4 (by omega), h32 8 (by omega), h32 12 (by omega),
    h64 16 (by omega), h64 24 (by omega), h64 32 (by omega), h64 40 (by omega), h64 48 (by omega),
    h64 56 (by omega)]

/-- An event survives its object representation. -/
theorem decode_encode (e : Event) : decode (ofList e.encode) = e := by
  have hlast := load64_leBytes e.reserved1 []
  rw [List.append_nil] at hlast
  simp [decode, encode, load32_ofList_append, load64_ofList_append, load32_leBytes, load64_leBytes,
    hlast]

end Event

end SolanaTpuClient
