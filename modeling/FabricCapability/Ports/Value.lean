import FabricCapability.Verified.StrictOrder
import FabricCapability.Ports.Digest

/-!
# Typed capability values

Translation of `include/fabric/capability/value.hpp` and `src/value.cpp`: the
discriminated value model, its factories, its equality and its canonical byte
encoding.

The storage of a `CapabilityValue` is private in the source and is only ever
filled by a factory or by the decoder, which ends in a factory.  Here the
structure carries that as a proof: `wellFormed` is what the factories establish,
and no other storage makes a `CapabilityValue`.
-/

namespace FabricCapability.Ports

open FabricCapability.Verified.ByteCodec
open FabricCapability.Verified.StrictOrder

/-! ## Bounds of `limits.hpp` used by the value model -/

def kMaxTextLength : Nat := 192
def kMaxVersionTokenLength : Nat := 64
def kMaxEnumDomainIdLength : Nat := 96
def kMaxSetCardinality : Nat := 4096
def kMaxBitSetBits : Nat := 4096
def kMaxTupleArity : Nat := 8
def kMaxRecordFields : Nat := 32
def kMaxTupleSetCardinality : Nat := 1024
def kMaxExtensionPayloadBytes : Nat := 65536
def kMaxVersionComponents : Nat := 4
def kMaxProtocolsInSet : Nat := 64
def kMaxQuantity : UInt64 := 0x4000000000000000
def kMaxInteger : Int64 := 0x2000000000000000
def kMinInteger : Int64 := -0x2000000000000000
def kMaxVersionComponent : UInt32 := 1000000000

/-! ## Comparators -/

def byteLt (a b : UInt8) : Bool := decide (a.toNat < b.toNat)

/-- `operator<` of `std::string`: lexicographic by unsigned bytes. -/
def bytesLt : Bytes → Bytes → Bool := lexLt byteLt

def wordLt (a b : UInt64) : Bool := decide (a.toNat < b.toNat)
def codeLt (a b : UInt32) : Bool := decide (a.toNat < b.toNat)

theorem byteLt_total : StrictTotal byteLt :=
  StrictTotal.nat.comap_injective UInt8.toNat fun _ _ h => UInt8.toNat_inj.1 h

theorem bytesLt_total : StrictTotal bytesLt := byteLt_total.lex

theorem wordLt_total : StrictTotal wordLt :=
  StrictTotal.nat.comap_injective UInt64.toNat fun _ _ h => UInt64.toNat_inj.1 h

theorem codeLt_total : StrictTotal codeLt :=
  StrictTotal.nat.comap_injective UInt32.toNat fun _ _ h => UInt32.toNat_inj.1 h

/-! ## Byte-valued enumerations -/

/-- The enumerator with the given underlying byte, when there is one. -/
def enumOfByte {α : Type} (values : List α) (toByte : α → UInt8) (tag : UInt8) : Option α :=
  values.find? fun value => toByte value == tag

/-! ## Units and protocols -/

/-- The unit of a quantity (`Unit` in the source). -/
inductive QuantityUnit where
  | none | bitsPerSecond | bytes | bytesPerSecond | count | packets | nanoseconds
  | microseconds | milliseconds | percent | decibelMilliwatts | millidegreesCelsius
  | nanometers
  deriving DecidableEq, Repr

namespace QuantityUnit

def toByte : QuantityUnit → UInt8
  | none => 0
  | bitsPerSecond => 1
  | bytes => 2
  | bytesPerSecond => 3
  | count => 4
  | packets => 5
  | nanoseconds => 6
  | microseconds => 7
  | milliseconds => 8
  | percent => 9
  | decibelMilliwatts => 10
  | millidegreesCelsius => 11
  | nanometers => 12

def ofByte : UInt8 → Option QuantityUnit :=
  enumOfByte [none, bitsPerSecond, bytes, bytesPerSecond, count, packets, nanoseconds,
    microseconds, milliseconds, percent, decibelMilliwatts, millidegreesCelsius, nanometers]
    toByte

theorem ofByte_toByte (unit : QuantityUnit) : ofByte unit.toByte = some unit := by
  cases unit <;> rfl

end QuantityUnit

/-- `UnitName`; the suffix column of the table is the same text. -/
def unitName : QuantityUnit → Bytes
  | .none => txt "none"
  | .bitsPerSecond => txt "bit/s"
  | .bytes => txt "B"
  | .bytesPerSecond => txt "B/s"
  | .count => txt "count"
  | .packets => txt "packets"
  | .nanoseconds => txt "ns"
  | .microseconds => txt "us"
  | .milliseconds => txt "ms"
  | .percent => txt "percent"
  | .decibelMilliwatts => txt "dBm"
  | .millidegreesCelsius => txt "mC"
  | .nanometers => txt "nm"

/-- False only for the unit `none`. -/
def isQuantityUnit (unit : QuantityUnit) : Bool := unit != .none

/-- A protocol family.  The enumeration has a fixed 16-bit underlying type and
is cast from decoded numbers before it is checked, so it is its code. -/
structure ProtocolId where
  code : UInt16
  deriving DecidableEq, Repr

def kProtocolIdMax : UInt16 := 20

/-- The table `kProtocolNames`, indexed by the protocol code. -/
def protocolNames : List Bytes :=
  [txt "unknown", txt "ethernet", txt "ipv4", txt "ipv6", txt "vlan", txt "mpls",
   txt "vxlan", txt "geneve", txt "srv6", txt "tcp", txt "udp", txt "roce-v1",
   txt "roce-v2", txt "iwarp", txt "infiniband", txt "ptp", txt "nvme-of",
   txt "fibre-channel", txt "fcoe", txt "lacp", txt "lacp-pdu"]

def protocolName (protocol : ProtocolId) : Bytes :=
  protocolNames.getD protocol.code.toNat (txt "unknown")

def protocolLt (a b : ProtocolId) : Bool := decide (a.code.toNat < b.code.toNat)

theorem protocolLt_total : StrictTotal protocolLt :=
  StrictTotal.nat.comap_injective (fun p : ProtocolId => p.code.toNat) fun a b h => by
    cases a; cases b
    simpa [UInt16.toNat_inj] using h

/-! ## Versions -/

/-- Up to four numeric components; the default version has none. -/
structure Version where
  components : List UInt32
  valid : components.length ≤ kMaxVersionComponents ∧
    ∀ c ∈ components, c ≤ kMaxVersionComponent
  deriving DecidableEq

namespace Version

def count (v : Version) : Nat := v.components.length

/-- The four components used by comparisons, padded with zeros. -/
def padded (v : Version) : List UInt32 :=
  [v.components.getD 0 0, v.components.getD 1 0, v.components.getD 2 0, v.components.getD 3 0]

/-- `operator==`: comparison with zero padding. -/
def same (a b : Version) : Bool := a.padded == b.padded

/-- `operator<` of versions. -/
def lt (a b : Version) : Bool := lexLt codeLt a.padded b.padded

def toText (v : Version) : Bytes :=
  (txt ".").intercalate (v.components.map fun c => decimal c.toNat)

def encode (v : Version) : Bytes :=
  u8 (UInt8.ofNat v.count) ++ v.components.flatMap u32

end Version

/-! ## Payload types -/

structure Quantity where
  value : UInt64
  unit : QuantityUnit
  deriving DecidableEq

structure EnumValue where
  domain : EnumDomainId
  code : UInt32
  deriving DecidableEq

structure EnumSet where
  domain : EnumDomainId
  codes : List UInt32
  deriving DecidableEq

structure BitSet where
  bitCount : UInt32
  words : List UInt64
  deriving DecidableEq

structure NumericSet where
  unit : QuantityUnit
  values : List UInt64
  deriving DecidableEq

structure NumericRange where
  unit : QuantityUnit
  minimum : UInt64
  maximum : UInt64
  deriving DecidableEq

structure VersionInterval where
  minimum : Version
  maximum : Version
  minimumInclusive : Bool
  maximumInclusive : Bool
  deriving DecidableEq

structure ProtocolSet where
  protocols : List ProtocolId
  deriving DecidableEq

/-- The length check of `ScalarValue::Text`. -/
def scalarTextInBounds (text : Bytes) : Bool :=
  !text.isEmpty && text.length ≤ kMaxTextLength

/-- One element of a capability tuple.  Its two checked factories are the proofs
that the last two alternatives carry. -/
inductive ScalarValue where
  | boolean (value : Bool)
  | signed (value : Int64)
  | unsigned (value : UInt64)
  | enumeration (value : EnumValue) (hSet : value.domain.isSet = true)
  | text (value : Bytes) (hBounds : scalarTextInBounds value = true)
  deriving DecidableEq

structure TupleValue where
  elements : List ScalarValue
  deriving DecidableEq

structure TupleSet where
  tuples : List TupleValue
  deriving DecidableEq

structure RecordField where
  name : Bytes
  value : ScalarValue
  deriving DecidableEq

structure StructuredRecord where
  fields : List RecordField
  deriving DecidableEq

structure OpaquePayload where
  encoding : Bytes
  bytes : Bytes
  deriving DecidableEq

/-! ## Scalar values -/

namespace ScalarValue

/-- The index of the active alternative. -/
def kindByte : ScalarValue → UInt8
  | boolean _ => 0
  | signed _ => 1
  | unsigned _ => 2
  | enumeration _ _ => 3
  | text _ _ => 4

/-- `ScalarValue::Enumeration`. -/
def ofEnumeration (domain : EnumDomainId) (code : UInt32) : Outcome ScalarValue :=
  if hSet : domain.isSet = true then .ok (.enumeration ⟨domain, code⟩ hSet)
  else failure .valueTypeMismatch (txt "scalar enumeration requires an enum domain") []

/-- `ScalarValue::Text`. -/
def ofText (value : Bytes) : Outcome ScalarValue :=
  if hBounds : scalarTextInBounds value = true then .ok (.text value hBounds)
  else failure .textTooLong (txt "scalar text length is out of range") (decimal value.length)

/-- `operator<` of scalar values. -/
def lt : ScalarValue → ScalarValue → Bool
  | boolean a, boolean b => decide (a.toNat < b.toNat)
  | signed a, signed b => decide (a.toInt < b.toInt)
  | unsigned a, unsigned b => wordLt a b
  | enumeration a _, enumeration b _ =>
      if a.domain != b.domain then bytesLt a.domain.value b.domain.value
      else codeLt a.code b.code
  | text a _, text b _ => bytesLt a b
  | a, b => decide (a.kindByte.toNat < b.kindByte.toNat)

def encode (scalar : ScalarValue) : Bytes :=
  u8 scalar.kindByte ++
    match scalar with
    | boolean value => bool value
    | signed value => i64 value
    | unsigned value => u64 value
    | enumeration value _ =>
        putText value.domain.value kMaxEnumDomainIdLength ++ u32 value.code
    | text value _ => putText value kMaxTextLength

def decode : ByteReader ScalarValue := do
  let kind ← readU8
  match kind.toNat with
  | 0 => do
      let value ← readBool
      pure (.boolean value)
  | 1 => do
      let value ← readI64
      if value > kMaxInteger || value < kMinInteger then
        fail (encodingError .valueOutOfRange
          (txt "scalar integer exceeds the allowed bound") [])
      else pure (.signed value)
  | 2 => do
      let value ← readU64
      if value > kMaxQuantity then
        fail (encodingError .valueOutOfRange
          (txt "scalar quantity exceeds the allowed bound") [])
      else pure (.unsigned value)
  | 3 => do
      let domainText ← readText kMaxEnumDomainIdLength
      let domain ← accept (TokenId.parse domainText)
      let code ← readU32
      accept (ofEnumeration domain code)
  | 4 => do
      let text ← readText kMaxTextLength
      accept (ofText text)
  | _ =>
      fail (encodingError .malformedEncoding (txt "unknown scalar value kind tag")
        (decimal kind.toNat))

end ScalarValue

/-- `operator<` of tuples: lexicographic, a shorter tuple first. -/
def tupleLt (a b : TupleValue) : Bool := lexLt ScalarValue.lt a.elements b.elements

/-! ## Capability values -/

/-- Discriminator of the typed capability value model. -/
inductive ValueKind where
  | absent | boolean | integer | quantity | enumeration | bitSet | numericSet
  | numericRange | versionInterval | protocolSet | tuple | tupleSet | record
  | opaquePayload | enumSet
  deriving DecidableEq, Repr

namespace ValueKind

def toByte : ValueKind → UInt8
  | absent => 0
  | boolean => 1
  | integer => 2
  | quantity => 3
  | enumeration => 4
  | bitSet => 5
  | numericSet => 6
  | numericRange => 7
  | versionInterval => 8
  | protocolSet => 9
  | tuple => 10
  | tupleSet => 11
  | record => 12
  | opaquePayload => 13
  | enumSet => 14

def ofByte : UInt8 → Option ValueKind :=
  enumOfByte [absent, boolean, integer, quantity, enumeration, bitSet, numericSet,
    numericRange, versionInterval, protocolSet, tuple, tupleSet, record, opaquePayload,
    enumSet] toByte

theorem ofByte_toByte (kind : ValueKind) : ofByte kind.toByte = some kind := by
  cases kind <;> rfl

end ValueKind

def valueKindName : ValueKind → Bytes
  | .absent => txt "absent"
  | .boolean => txt "boolean"
  | .integer => txt "integer"
  | .quantity => txt "quantity"
  | .enumeration => txt "enumeration"
  | .bitSet => txt "bitset"
  | .numericSet => txt "numeric-set"
  | .numericRange => txt "numeric-range"
  | .versionInterval => txt "version-interval"
  | .protocolSet => txt "protocol-set"
  | .tuple => txt "tuple"
  | .tupleSet => txt "tuple-set"
  | .record => txt "record"
  | .opaquePayload => txt "opaque"
  | .enumSet => txt "enum-set"

/-- The alternatives of `CapabilityValue::Storage`. -/
inductive ValueStorage where
  | absent
  | boolean (value : Bool)
  | integer (value : Int64)
  | quantity (value : Quantity)
  | enumeration (value : EnumValue)
  | bitSet (value : BitSet)
  | numericSet (value : NumericSet)
  | numericRange (value : NumericRange)
  | versionInterval (value : VersionInterval)
  | protocolSet (value : ProtocolSet)
  | tuple (value : TupleValue)
  | tupleSet (value : TupleSet)
  | record (value : StructuredRecord)
  | opaquePayload (value : OpaquePayload)
  | enumSet (value : EnumSet)
  deriving DecidableEq

def ValueStorage.kind : ValueStorage → ValueKind
  | absent => .absent
  | boolean _ => .boolean
  | integer _ => .integer
  | quantity _ => .quantity
  | enumeration _ => .enumeration
  | bitSet _ => .bitSet
  | numericSet _ => .numericSet
  | numericRange _ => .numericRange
  | versionInterval _ => .versionInterval
  | protocolSet _ => .protocolSet
  | tuple _ => .tuple
  | tupleSet _ => .tupleSet
  | record _ => .record
  | opaquePayload _ => .opaquePayload
  | enumSet _ => .enumSet

def wordsForBits (bits : UInt32) : Nat := (bits.toNat + 63) / 64

def bitsAboveCountAreClear (set : BitSet) : Bool :=
  if set.words.length != wordsForBits set.bitCount then false
  else if set.bitCount.toNat % 64 == 0 then true
  else
    let allowedMask : UInt64 := (1 <<< UInt64.ofNat (set.bitCount.toNat % 64)) - 1
    (set.words.getLastD 0 &&& ~~~allowedMask) == 0

/-- The name check of one record field. -/
def validateRecordFieldName (name : Bytes) : Outcome Unit :=
  validateToken name .lowerToken 1 48 (txt "record field name")

/-- The check of an opaque payload's encoding name. -/
def validateOpaqueEncoding (encoding : Bytes) : Outcome Unit :=
  validateToken encoding .printableToken 1 64 (txt "opaque payload encoding")

def recordFieldLt (a b : RecordField) : Bool := bytesLt a.name b.name

/-- The arity bounds of tuples and of tuple set members. -/
def arityInRange (arity : Nat) : Bool := 2 ≤ arity && arity ≤ kMaxTupleArity

/-- What the factories establish of the storage they fill. -/
def ValueStorage.wellFormed : ValueStorage → Bool
  | absent | boolean _ | integer _ => true
  | quantity q => isQuantityUnit q.unit && q.value ≤ kMaxQuantity
  | enumeration e => e.domain.isSet
  | bitSet s =>
      s.bitCount != 0 && s.bitCount.toNat ≤ kMaxBitSetBits && bitsAboveCountAreClear s
  | numericSet s =>
      isQuantityUnit s.unit && !s.values.isEmpty && s.values.length ≤ kMaxSetCardinality &&
        s.values.all (· ≤ kMaxQuantity) && increasing wordLt s.values
  | numericRange r =>
      isQuantityUnit r.unit && r.minimum ≤ r.maximum && r.maximum ≤ kMaxQuantity
  | versionInterval v =>
      v.minimum.count != 0 && v.maximum.count != 0 && !v.maximum.lt v.minimum &&
        (!v.minimum.same v.maximum || (v.minimumInclusive && v.maximumInclusive))
  | protocolSet s =>
      !s.protocols.isEmpty && s.protocols.length ≤ kMaxProtocolsInSet &&
        s.protocols.all (fun p => p.code != 0 && p.code ≤ kProtocolIdMax) &&
        increasing protocolLt s.protocols
  | tuple t => arityInRange t.elements.length
  | tupleSet s =>
      !s.tuples.isEmpty && s.tuples.length ≤ kMaxTupleSetCardinality &&
        s.tuples.all (fun t => t.elements.length == (s.tuples.headD ⟨[]⟩).elements.length &&
          arityInRange t.elements.length) &&
        increasing tupleLt s.tuples
  | record r =>
      !r.fields.isEmpty && r.fields.length ≤ kMaxRecordFields &&
        r.fields.all (fun f => (validateRecordFieldName f.name).isOk) &&
        increasing recordFieldLt r.fields
  | opaquePayload p =>
      (validateOpaqueEncoding p.encoding).isOk && p.bytes.length ≤ kMaxExtensionPayloadBytes
  | enumSet s =>
      s.domain.isSet && !s.codes.isEmpty && s.codes.length ≤ kMaxSetCardinality &&
        increasing codeLt s.codes

/-- A capability value: a storage that one of the factories filled. -/
structure CapabilityValue where
  storage : ValueStorage
  canonical : storage.wellFormed = true
  deriving DecidableEq

namespace CapabilityValue

/-- The default-constructed, absent value. -/
def absent : CapabilityValue := ⟨.absent, rfl⟩

instance : Inhabited CapabilityValue := ⟨absent⟩

def boolean (value : Bool) : CapabilityValue := ⟨.boolean value, rfl⟩

def integer (value : Int64) : CapabilityValue := ⟨.integer value, rfl⟩

def kind (value : CapabilityValue) : ValueKind := value.storage.kind

def isAbsent (value : CapabilityValue) : Bool := value.kind == .absent

/-- `operator==` of capability values: the same typed claim.  Only the bounds of a
version interval have an equality of their own. -/
def same (a b : CapabilityValue) : Bool :=
  match a.storage, b.storage with
  | .versionInterval x, .versionInterval y =>
      x.minimum.same y.minimum && x.maximum.same y.maximum &&
        x.minimumInclusive == y.minimumInclusive && x.maximumInclusive == y.maximumInclusive
  | x, y => x == y

@[ext] theorem ext {a b : CapabilityValue} (h : a.storage = b.storage) : a = b := by
  cases a; cases b; simp_all

end CapabilityValue

end FabricCapability.Ports
