import SolanaTpuClient.Delivery.Validate

/-!
The documented structure of a topology.

What the delivery ABI asks of a topology record, of its four arrays and of every record they hold.
Record `i` of an array starts exactly `i * stride` bytes after the base of the array, and a nonempty
array is one that can be addressed (`StridedArray.Fits`).

* `Validator.Documented`, `Endpoint.Documented`, `ValidatorEndpoint.Documented`,
  `Leader.Documented`: the records, given the stride of their array and the counts they refer to;
* `Endpoint.Unsupported`: a well-formed endpoint whose first objectionable field, in the order
  family, transport, role, names something the implementation does not support;
* `CallerTopology.Documented`: the whole structure;
* `CallerTopology.UnsupportedEndpoint`: all is in order up to an unsupported endpoint.
-/

namespace SolanaTpuClient

open ByteMemory StridedArray

/-! ### Records -/

/-- The declared size of a record covers the known prefix and stays within the stride. -/
def SizeDocumented (structSize stride : UInt32) (size : ℕ) : Prop :=
  size ≤ structSize.toNat ∧ structSize.toNat ≤ stride.toNat

/-- The bytes from `first` on are zero. -/
def ZeroFrom {n : ℕ} (bytes : Vector UInt8 n) (first : ℕ) : Prop :=
  ∀ i (h : i < n), first ≤ i → bytes[i] = 0

structure Validator.Documented (v : Validator) (stride : UInt32) : Prop where
  structSize : SizeDocumented v.structSize stride Validator.size
  reserved0 : v.reserved0 = 0
  reserved1 : ZeroFrom v.reserved1 0

/-- The part of an endpoint that does not say what the endpoint is. -/
structure Endpoint.WellFormed (e : Endpoint) (stride : UInt32) : Prop where
  structSize : SizeDocumented e.structSize stride Endpoint.size
  reserved0 : e.reserved0 = 0
  reserved1 : e.reserved1 = 0
  reserved2 : ZeroFrom e.reserved2 0
  port : e.port ≠ 0

structure Endpoint.Documented (e : Endpoint) (stride : UInt32) : Prop extends
    Endpoint.WellFormed e stride where
  addressFamily : e.addressFamily = addressIpv4 ∨ e.addressFamily = addressIpv6
  transport : e.transport = transportQuic
  role : e.role = endpointRoleTpu
  address : e.addressFamily = addressIpv4 → ZeroFrom e.address 4

/-- The first of family, transport and role that is not the documented one is specified, and it is
specified as something else. -/
def Endpoint.Unsupported (e : Endpoint) (stride : UInt32) : Prop :=
  e.WellFormed stride ∧
    ((e.addressFamily ∉ [addressUnspec, addressIpv4, addressIpv6]) ∨
      (e.addressFamily ∈ [addressIpv4, addressIpv6] ∧
        (e.transport ∉ [transportUnspec, transportQuic] ∨
          e.transport = transportQuic ∧ e.role ∉ [endpointRoleUnspec, endpointRoleTpu])))

structure ValidatorEndpoint.Documented (a : ValidatorEndpoint)
    (stride validatorCount endpointCount : UInt32) : Prop where
  structSize : SizeDocumented a.structSize stride ValidatorEndpoint.size
  reserved0 : a.reserved0 = 0
  validatorIndex : a.validatorIndex < validatorCount
  endpointIndex : a.endpointIndex < endpointCount

structure Leader.Documented (l : Leader) (stride validatorCount : UInt32) : Prop where
  structSize : SizeDocumented l.structSize stride Leader.size
  reserved0 : l.reserved0 = 0
  validatorIndex : l.validatorIndex < validatorCount
  slots : l.firstSlot ≤ l.lastSlot

/-! ### Arrays -/

/-- An array is empty, or it can be addressed. -/
def ArrayDocumented (base : Addr) (count stride : UInt32) (size align : ℕ) : Prop :=
  count ≠ 0 → Fits (sizeMax wordBits) base count.toNat stride.toNat size align

/-- The bytes from record `i` on. -/
def recordAt (m : Bytes) (stride : UInt32) (i : ℕ) : Bytes := shift m (i * stride.toNat)

namespace CallerTopology

variable (t : CallerTopology)

def validatorAt (i : ℕ) : Validator :=
  Validator.decode (recordAt t.memory.validators t.view.validatorStride i)

def endpointAt (i : ℕ) : Endpoint :=
  Endpoint.decode (recordAt t.memory.endpoints t.view.endpointStride i)

def validatorEndpointAt (i : ℕ) : ValidatorEndpoint :=
  ValidatorEndpoint.decode
    (recordAt t.memory.validatorEndpoints t.view.validatorEndpointStride i)

def leaderAt (i : ℕ) : Leader :=
  Leader.decode (recordAt t.memory.leaders t.view.leaderStride i)

/-! ### The whole structure -/

/-- The header, the four layouts and the validators are as documented. -/
structure FrameDocumented : Prop where
  structSize : Topology.size ≤ t.view.structSize.toNat
  reserved0 : t.view.reserved0 = 0
  validatorArray : ArrayDocumented t.view.validators t.view.validatorCount t.view.validatorStride
    Validator.size 4
  endpointArray : ArrayDocumented t.view.endpoints t.view.endpointCount t.view.endpointStride
    Endpoint.size 4
  validatorEndpointArray : ArrayDocumented t.view.validatorEndpoints
    t.view.validatorEndpointCount t.view.validatorEndpointStride ValidatorEndpoint.size 4
  leaderArray : ArrayDocumented t.view.leaders t.view.leaderCount t.view.leaderStride Leader.size 8
  validators : ∀ i < t.view.validatorCount.toNat,
    (t.validatorAt i).Documented t.view.validatorStride

/-- A topology as the ABI documents it. -/
structure Documented : Prop extends FrameDocumented t where
  endpoints : ∀ i < t.view.endpointCount.toNat, (t.endpointAt i).Documented t.view.endpointStride
  validatorEndpoints : ∀ i < t.view.validatorEndpointCount.toNat,
    (t.validatorEndpointAt i).Documented t.view.validatorEndpointStride t.view.validatorCount
      t.view.endpointCount
  leaders : ∀ i < t.view.leaderCount.toNat,
    (t.leaderAt i).Documented t.view.leaderStride t.view.validatorCount

/-- The first endpoint that is not as documented is unsupported, and nothing before the endpoints
is objectionable. -/
def UnsupportedEndpoint : Prop :=
  t.FrameDocumented ∧ ∃ i < t.view.endpointCount.toNat,
    (∀ j < i, (t.endpointAt j).Documented t.view.endpointStride) ∧
      (t.endpointAt i).Unsupported t.view.endpointStride

end CallerTopology

end SolanaTpuClient
