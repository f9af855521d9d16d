import FabricCapability.Ports.IdCodec
import FabricCapability.Ports.ValueCodec

/-!
# Reading a capability value back

`CapabilityValue::Encode` writes any value a factory can produce, while
`CapabilityValue::Decode` has bounds of its own.  This module computes what the
decoder returns in front of an encoding, for every value.

## Main results

* `CapabilityValue.decodable` — the values the decoder accepts: integers within
  `kMinInteger .. kMaxInteger`, tuple and record numbers within the scalar
  bounds, scalar texts without control characters.
* `CapabilityValue.decodes` — in front of the encoding of `v` the decoder consumes
  exactly that encoding and returns `v` when `v` is decodable, and fails when it
  is not.
-/

namespace FabricCapability.Ports

open FabricCapability.Verified.ByteCodec
open FabricCapability.Verified.StrictOrder

/-! ## Fields -/

theorem putText_token {tag : TokenTag} (id : TokenId tag) {maxLength : Nat}
    (hMax : tag.maxLength ≤ maxLength) (hWord : maxLength < 2 ^ 32) :
    putText id.value maxLength = textField id.value :=
  putText_eq hWord (id.length_le.trans hMax)

theorem decodes_enumDomain {domain : EnumDomainId} (hSet : domain.isSet = true) :
    Decodes readEnumDomain (putText domain.value kMaxEnumDomainIdLength) (some domain) := by
  have h := decodes_token domain (Nat.le_refl kMaxEnumDomainIdLength)
  rw [putText_token domain (by decide) (by decide)]
  simpa [hSet, readToken, readEnumDomain] using h

theorem decodes_unit (unit : QuantityUnit) :
    Decodes readUnit (u8 unit.toByte) (some unit) := by
  rw [← List.append_nil (u8 unit.toByte)]
  refine Decodes.bind_some (decodes_u8 _) ?_
  rw [QuantityUnit.ofByte_toByte]
  exact Decodes.pure unit

/-- A count within its bound reads back. -/
theorem decodes_count {count maxCount : Nat} (message : Bytes) (hMax : count ≤ maxCount)
    (hWord : maxCount < 2 ^ 32) :
    Decodes (readCount maxCount message) (sizeU32 count) (some count) := by
  rw [← List.append_nil (sizeU32 count)]
  refine Decodes.bind_some (decodes_sizeU32 count) ?_
  rw [toNat_sizeU32 (by omega)]
  simp only [gt_iff_lt, Nat.not_lt.2 hMax, if_false]
  exact Decodes.pure count

/-! ## Scalars -/

def integerInRange (v : Int64) : Bool := v ≤ kMaxInteger && kMinInteger ≤ v

/-- The scalar values that `ScalarValue::Decode` accepts. -/
def ScalarValue.decodable : ScalarValue → Bool
  | boolean _ => true
  | signed value => integerInRange value
  | unsigned value => value ≤ kMaxQuantity
  | enumeration _ _ => true
  | text value _ => !value.any isControl

theorem integerInRange_eq_not (v : Int64) :
    integerInRange v = !(decide (v > kMaxInteger) || decide (v < kMinInteger)) := by
  simp [integerInRange, ← Int64.not_lt]

theorem ScalarValue.decodes (scalar : ScalarValue) :
    Decodes ScalarValue.decode scalar.encode
      (if scalar.decodable then some scalar else none) := by
  refine Decodes.bind_some (decodes_u8 _) ?_
  cases scalar with
  | boolean value => exact Decodes.map ScalarValue.boolean (decodes_bool value)
  | signed value =>
      change Decodes _ (i64 value) _
      rw [← List.append_nil (i64 value)]
      refine Decodes.bind_some (decodes_i64 value) ?_
      simp only [ScalarValue.decodable, integerInRange_eq_not]
      cases h : decide (value > kMaxInteger) || decide (value < kMinInteger) with
      | true => exact Decodes.fail _ _
      | false => exact Decodes.pure _
  | unsigned value =>
      change Decodes _ (u64 value) _
      rw [← List.append_nil (u64 value)]
      refine Decodes.bind_some (decodes_u64 value) ?_
      by_cases h : value > kMaxQuantity
      · simp only [h, if_true, ScalarValue.decodable, UInt64.not_le.2 h, decide_false]
        exact Decodes.fail _ _
      · simp only [h, if_false, ScalarValue.decodable, UInt64.not_lt.1 h, decide_true]
        exact Decodes.pure _
  | enumeration value hSet =>
      change Decodes _ (putText value.domain.value kMaxEnumDomainIdLength ++ u32 value.code) _
      have hDomain := value.domain.decodes_text (Nat.le_refl kMaxEnumDomainIdLength)
      rw [← putText_token value.domain (Nat.le_refl kMaxEnumDomainIdLength)
        (by decide)] at hDomain
      refine Decodes.bind_some hDomain ?_
      rw [TokenId.parse_value hSet]
      have hCode := Decodes.checked (ScalarValue.ofEnumeration value.domain)
        (decodes_u32 value.code)
      rw [Option.bind_some, ScalarValue.ofEnumeration, dif_pos hSet] at hCode
      exact hCode
  | text value hBounds =>
      change Decodes _ (putText value kMaxTextLength) _
      have hLen : value.length ≤ kMaxTextLength := by
        simpa [scalarTextInBounds] using (Bool.and_eq_true_iff.1 hBounds).2
      rw [putText_eq (by decide) hLen]
      have h := Decodes.checked ScalarValue.ofText
        (decodes_text hLen (by simp only [kMaxTextLength] at hLen; omega))
      rw [rejectControl_toOption] at h
      by_cases hAny : value.any isControl = true
      · rw [if_pos hAny] at h
        rw [if_neg (by simp [ScalarValue.decodable, hAny])]
        exact h
      · rw [if_neg hAny, Option.bind_some, ScalarValue.ofText, dif_pos hBounds] at h
        rw [if_pos (by simpa [ScalarValue.decodable] using hAny)]
        exact h

/-! ## Versions, tuples and record fields -/

theorem decodes_versionComponent {c : UInt32} (hMax : c ≤ kMaxVersionComponent) :
    Decodes readVersionComponent (u32 c) (some c) := by
  rw [← List.append_nil (u32 c)]
  refine Decodes.bind_some (decodes_u32 c) ?_
  rw [if_neg (UInt32.not_lt.2 hMax)]
  exact Decodes.pure c

/-- A version with at least one component reads back. -/
theorem Version.decodes {v : Version} (hCount : v.count ≠ 0) :
    Decodes Version.decode v.encode (some v) := by
  obtain ⟨hLen, hBound⟩ := v.valid
  have hByte : (UInt8.ofNat v.count).toNat = v.components.length := by
    rw [UInt8.toNat_ofNat']
    exact Nat.mod_eq_of_lt (by simp only [count, kMaxVersionComponents] at *; omega)
  have hRange : ¬ (decide (UInt8.ofNat v.count < 1) ||
      decide ((UInt8.ofNat v.count).toNat > kMaxVersionComponents)) = true := by
    simp only [Bool.or_eq_true, decide_eq_true_eq, not_or, Nat.not_lt, hByte]
    refine ⟨?_, hLen⟩
    rw [UInt8.lt_iff_toNat_lt, hByte]
    simp only [count, UInt8.reduceToNat] at *
    omega
  refine Decodes.bind_some (decodes_u8 _) ?_
  rw [if_neg hRange, hByte]
  have hRead := Decodes.readTimes_some v.components fun c hc =>
    decodes_versionComponent (hBound c hc)
  have h := Decodes.checked Version.ofComponents hRead
  rw [Option.bind_some, Version.ofComponents, dif_pos v.valid] at h
  exact h

def TupleValue.decodable (tuple : TupleValue) : Bool :=
  tuple.elements.all ScalarValue.decodable

/-- A tuple of admissible arity reads back when all its elements do. -/
theorem TupleValue.decodes {tuple : TupleValue}
    (hArity : arityInRange tuple.elements.length = true) :
    Decodes readTuple (encodeTuple tuple) (if tuple.decodable then some tuple else none) := by
  have hBounds : 2 ≤ tuple.elements.length ∧ tuple.elements.length ≤ kMaxTupleArity := by
    simpa [arityInRange] using hArity
  have hWord : (UInt32.ofNat tuple.elements.length).toNat = tuple.elements.length :=
    toNat_sizeU32 (by simp only [kMaxTupleArity] at hBounds; omega)
  refine Decodes.bind_some (decodes_sizeU32 _) ?_
  have hInRange : ¬(decide (tuple.elements.length < 2) ||
      decide (tuple.elements.length > kMaxTupleArity)) = true := by
    rw [Bool.or_eq_true, decide_eq_true_eq, decide_eq_true_eq]
    omega
  rw [hWord, if_neg hInRange]
  exact Decodes.map_guard TupleValue.mk
    (Decodes.readTimes_guard tuple.elements fun scalar _ => scalar.decodes)

/-- A record field with a valid name reads back when its value does. -/
theorem RecordField.decodes {field : RecordField}
    (hName : (validateRecordFieldName field.name).isOk = true) :
    Decodes readField (encodeField field)
      (if field.value.decodable then some field else none) := by
  have hToken : validateRecordFieldName field.name = .ok () := by
    cases h : validateRecordFieldName field.name with
    | error e => simp [h, Except.isOk, Except.toBool] at hName
    | ok _ => rfl
  obtain ⟨-, hLen, hPlain⟩ := validateToken_inv hToken
  rw [encodeField, putText_eq (by decide) hLen]
  refine Decodes.bind_some (decodes_plainText hPlain hLen (by omega)) ?_
  exact Decodes.map_guard (RecordField.mk field.name) field.value.decodes

/-! ## Values -/

/-- The storages whose fields `CapabilityValue::Decode` accepts. -/
def ValueStorage.decodable : ValueStorage → Bool
  | integer value => integerInRange value
  | tuple t => t.decodable
  | tupleSet s => s.tuples.all TupleValue.decodable
  | record r => r.fields.all fun f => f.value.decodable
  | _ => true

namespace CapabilityValue

def decodable (value : CapabilityValue) : Bool := value.storage.decodable

theorem decodes_integer (v : Int64) :
    Decodes (decodeFields .integer) (i64 v)
      (if integerInRange v then some (integer v) else none) := by
  rw [← List.append_nil (i64 v)]
  refine Decodes.bind_some (decodes_i64 v) ?_
  rw [integerInRange_eq_not]
  cases h : decide (v > kMaxInteger) || decide (v < kMinInteger) with
  | true => exact Decodes.fail _ _
  | false => exact Decodes.pure _

/-- A counted list that the source reads with `readCount`, followed by a factory
that accepts it. -/
theorem decodes_counted {α : Type} {rd : ByteReader α} {enc : α → Bytes} {p : α → Bool}
    {maxCount : Nat} {message : Bytes} {xs : List α} {value : CapabilityValue}
    {factory : List α → Outcome CapabilityValue} (hMax : xs.length ≤ maxCount)
    (hWord : maxCount < 2 ^ 32)
    (hItem : ∀ x ∈ xs, Decodes rd (enc x) (if p x then some x else none))
    (hFactory : factory xs = .ok value) :
    Decodes (do
        let count ← readCount maxCount message
        let items ← readTimes rd count
        accept (factory items))
      (sizeU32 xs.length ++ xs.flatMap enc) (if xs.all p then some value else none) := by
  refine Decodes.bind_some (decodes_count message hMax hWord) ?_
  exact Decodes.checked_guard hFactory (Decodes.readTimes_guard xs hItem)

/-- `decodes_counted` for items that all read back. -/
theorem decodes_counted_some {α : Type} {rd : ByteReader α} {enc : α → Bytes}
    {maxCount : Nat} {message : Bytes} {xs : List α} {value : CapabilityValue}
    {factory : List α → Outcome CapabilityValue} (hMax : xs.length ≤ maxCount)
    (hWord : maxCount < 2 ^ 32) (hItem : ∀ x ∈ xs, Decodes rd (enc x) (some x))
    (hFactory : factory xs = .ok value) :
    Decodes (do
        let count ← readCount maxCount message
        let items ← readTimes rd count
        accept (factory items))
      (sizeU32 xs.length ++ xs.flatMap enc) (some value) := by
  refine Decodes.bind_some (decodes_count message hMax hWord) ?_
  have h := Decodes.checked factory (Decodes.readTimes_some xs hItem)
  rwa [Option.bind_some, hFactory] at h

theorem decodes_quantity {q : Quantity} (h : (ValueStorage.quantity q).wellFormed = true) :
    Decodes (decodeFields .quantity) (ValueStorage.quantity q).encodeFields
      (some ⟨.quantity q, h⟩) := by
  refine Decodes.bind_some (decodes_u64 q.value) ?_
  have hFactory := Decodes.checked (quantityValue q.value) (decodes_unit q.unit)
  rwa [Option.bind_some, quantityValue_of_wellFormed h] at hFactory

theorem decodes_enumeration {e : EnumValue}
    (h : (ValueStorage.enumeration e).wellFormed = true) :
    Decodes (decodeFields .enumeration) (ValueStorage.enumeration e).encodeFields
      (some ⟨.enumeration e, h⟩) := by
  refine Decodes.bind_some (decodes_enumDomain h) ?_
  have hFactory := Decodes.checked (enumeration e.domain) (decodes_u32 e.code)
  rwa [Option.bind_some, enumeration_of_wellFormed h] at hFactory

theorem decodes_bitSet {s : BitSet} (h : (ValueStorage.bitSet s).wellFormed = true) :
    Decodes (decodeFields .bitSet) (ValueStorage.bitSet s).encodeFields
      (some ⟨.bitSet s, h⟩) := by
  have hParts := h
  simp only [ValueStorage.wellFormed, Bool.and_eq_true, decide_eq_true_eq, bne_iff_ne] at hParts
  obtain ⟨⟨-, hMax⟩, hClear⟩ := hParts
  have hWords : s.words.length = wordsForBits s.bitCount := by
    by_contra hNe
    simp [bitsAboveCountAreClear, hNe] at hClear
  have hFew : wordsForBits s.bitCount ≤ wordsForBits (UInt32.ofNat kMaxBitSetBits) := by
    unfold wordsForBits
    have hCap : (UInt32.ofNat kMaxBitSetBits).toNat = kMaxBitSetBits := rfl
    rw [hCap]
    omega
  have hSmall : wordsForBits (UInt32.ofNat kMaxBitSetBits) = 64 := rfl
  refine Decodes.bind_some (decodes_u32 s.bitCount) ?_
  refine Decodes.bind_some (decodes_sizeU32 s.words.length) ?_
  rw [toNat_sizeU32 (by omega), hWords]
  rw [if_neg (by simpa using hFew)]
  rw [← hWords]
  have hFactory := Decodes.checked (bitSetValue s.bitCount)
    (Decodes.readTimes_some s.words fun word _ => decodes_u64 word)
  rwa [Option.bind_some, bitSetValue_of_wellFormed h] at hFactory

theorem decodes_numericSet {s : NumericSet} (h : (ValueStorage.numericSet s).wellFormed = true) :
    Decodes (decodeFields .numericSet) (ValueStorage.numericSet s).encodeFields
      (some ⟨.numericSet s, h⟩) := by
  have hParts := h
  simp only [ValueStorage.wellFormed, Bool.and_eq_true, decide_eq_true_eq] at hParts
  obtain ⟨⟨⟨-, hMany⟩, -⟩, hInc⟩ := hParts
  refine Decodes.bind_some (decodes_unit s.unit) ?_
  refine Decodes.bind_some (decodes_count _ hMany (by decide)) ?_
  rw [← List.append_nil (s.values.flatMap u64)]
  refine Decodes.bind_some (Decodes.readTimes_some s.values fun value _ => decodes_u64 value) ?_
  rw [if_neg (by simp [hInc]), numericSetValue_of_wellFormed h]
  exact Decodes.accept _

theorem decodes_numericRange {r : NumericRange}
    (h : (ValueStorage.numericRange r).wellFormed = true) :
    Decodes (decodeFields .numericRange) (ValueStorage.numericRange r).encodeFields
      (some ⟨.numericRange r, h⟩) := by
  refine Decodes.bind_some (decodes_unit r.unit) ?_
  refine Decodes.bind_some (decodes_u64 r.minimum) ?_
  have hFactory := Decodes.checked (numericRangeValue r.unit r.minimum) (decodes_u64 r.maximum)
  rwa [Option.bind_some, numericRangeValue_of_wellFormed h] at hFactory

theorem decodes_versionInterval {v : VersionInterval}
    (h : (ValueStorage.versionInterval v).wellFormed = true) :
    Decodes (decodeFields .versionInterval) (ValueStorage.versionInterval v).encodeFields
      (some ⟨.versionInterval v, h⟩) := by
  have hParts := h
  simp only [ValueStorage.wellFormed, Bool.and_eq_true, bne_iff_ne] at hParts
  obtain ⟨⟨⟨hMin, hMax⟩, -⟩, -⟩ := hParts
  refine Decodes.bind_some (Version.decodes hMin) ?_
  refine Decodes.bind_some (decodes_bool v.minimumInclusive) ?_
  refine Decodes.bind_some (Version.decodes hMax) ?_
  have hFactory := Decodes.checked
    (versionIntervalValue v.minimum v.minimumInclusive v.maximum)
    (decodes_bool v.maximumInclusive)
  rwa [Option.bind_some, versionIntervalValue_of_wellFormed h] at hFactory

theorem decodes_protocolSet {s : ProtocolSet}
    (h : (ValueStorage.protocolSet s).wellFormed = true) :
    Decodes (decodeFields .protocolSet) (ValueStorage.protocolSet s).encodeFields
      (some ⟨.protocolSet s, h⟩) := by
  have hParts := h
  simp only [ValueStorage.wellFormed, Bool.and_eq_true, decide_eq_true_eq] at hParts
  obtain ⟨⟨⟨-, hMany⟩, -⟩, -⟩ := hParts
  have hCodes : (s.protocols.map ProtocolId.code).map ProtocolId.mk = s.protocols := by
    rw [List.map_map]
    exact List.map_id _
  have hRead : Decodes (decodeFields .protocolSet)
      (sizeU32 (s.protocols.map ProtocolId.code).length ++
        (s.protocols.map ProtocolId.code).flatMap u16) (some ⟨.protocolSet s, h⟩) :=
    decodes_counted_some (by simpa using hMany) (by decide) (fun code _ => decodes_u16 code)
      (by rw [hCodes]; exact protocolSetValue_of_wellFormed h)
  rw [List.length_map, List.flatMap_map] at hRead
  exact hRead

theorem decodes_tuple {t : TupleValue} (h : (ValueStorage.tuple t).wellFormed = true) :
    Decodes (decodeFields .tuple) (ValueStorage.tuple t).encodeFields
      (if t.decodable then some ⟨.tuple t, h⟩ else none) :=
  Decodes.checked_guard (g := fun t : TupleValue => tupleValueOf t.elements)
    (tupleValueOf_of_wellFormed h) (TupleValue.decodes h)

theorem decodes_tupleSet {s : TupleSet} (h : (ValueStorage.tupleSet s).wellFormed = true) :
    Decodes (decodeFields .tupleSet) (ValueStorage.tupleSet s).encodeFields
      (if s.tuples.all TupleValue.decodable then some ⟨.tupleSet s, h⟩ else none) := by
  have hParts := h
  simp only [ValueStorage.wellFormed, Bool.and_eq_true, decide_eq_true_eq,
    List.all_eq_true] at hParts
  obtain ⟨⟨⟨-, hMany⟩, hArity⟩, -⟩ := hParts
  exact decodes_counted hMany (by decide)
    (fun tuple hMem => TupleValue.decodes (hArity tuple hMem).2)
    (tupleSetValue_of_wellFormed h)

theorem decodes_record {r : StructuredRecord} (h : (ValueStorage.record r).wellFormed = true) :
    Decodes (decodeFields .record) (ValueStorage.record r).encodeFields
      (if r.fields.all (fun f => f.value.decodable) then some ⟨.record r, h⟩ else none) := by
  have hParts := h
  simp only [ValueStorage.wellFormed, Bool.and_eq_true, decide_eq_true_eq,
    List.all_eq_true] at hParts
  obtain ⟨⟨⟨-, hMany⟩, hNames⟩, -⟩ := hParts
  exact decodes_counted (p := fun f : RecordField => f.value.decodable) hMany (by decide)
    (fun field hMem => RecordField.decodes (hNames field hMem)) (recordValue_of_wellFormed h)

theorem decodes_opaquePayload {p : OpaquePayload}
    (h : (ValueStorage.opaquePayload p).wellFormed = true) :
    Decodes (decodeFields .opaquePayload) (ValueStorage.opaquePayload p).encodeFields
      (some ⟨.opaquePayload p, h⟩) := by
  have hParts := h
  simp only [ValueStorage.wellFormed, Bool.and_eq_true, decide_eq_true_eq] at hParts
  have hToken : validateOpaqueEncoding p.encoding = .ok () := by
    cases hEnc : validateOpaqueEncoding p.encoding with
    | error e => simp [hEnc, Except.isOk, Except.toBool] at hParts
    | ok _ => rfl
  obtain ⟨-, hLen, hPlain⟩ := validateToken_inv hToken
  rw [ValueStorage.encodeFields, putText_eq (by decide) hLen, putBytes_eq (by decide) hParts.2]
  refine Decodes.bind_some (decodes_plainText hPlain hLen (by omega)) ?_
  have hFactory := Decodes.checked (opaqueValue p.encoding)
    (decodes_bytes hParts.2 (by simp only [kMaxExtensionPayloadBytes] at hParts; omega))
  rwa [Option.bind_some, opaqueValue_of_wellFormed h] at hFactory

theorem decodes_enumSet {s : EnumSet} (h : (ValueStorage.enumSet s).wellFormed = true) :
    Decodes (decodeFields .enumSet) (ValueStorage.enumSet s).encodeFields
      (some ⟨.enumSet s, h⟩) := by
  have hParts := h
  simp only [ValueStorage.wellFormed, Bool.and_eq_true, decide_eq_true_eq] at hParts
  obtain ⟨⟨⟨hSet, -⟩, hMany⟩, -⟩ := hParts
  refine Decodes.bind_some (decodes_enumDomain hSet) ?_
  exact decodes_counted_some hMany (by decide) (fun code _ => decodes_u32 code)
    (enumerationSetValue_of_wellFormed h)

/-- What the decoder of the fields returns in front of the fields of a storage. -/
theorem decodes_fields (storage : ValueStorage) (h : storage.wellFormed = true) :
    Decodes (decodeFields storage.kind) storage.encodeFields
      (if storage.decodable then some ⟨storage, h⟩ else none) := by
  cases storage with
  | absent => exact Decodes.pure _
  | boolean value => exact Decodes.map CapabilityValue.boolean (decodes_bool value)
  | integer value => exact decodes_integer value
  | quantity value => exact decodes_quantity h
  | enumeration value => exact decodes_enumeration h
  | bitSet value => exact decodes_bitSet h
  | numericSet value => exact decodes_numericSet h
  | numericRange value => exact decodes_numericRange h
  | versionInterval value => exact decodes_versionInterval h
  | protocolSet value => exact decodes_protocolSet h
  | tuple value => exact decodes_tuple h
  | tupleSet value => exact decodes_tupleSet h
  | record value => exact decodes_record h
  | opaquePayload value => exact decodes_opaquePayload h
  | enumSet value => exact decodes_enumSet h

/-- In front of an encoded value the decoder consumes the encoding and returns the
value when it is decodable, and fails otherwise. -/
theorem decodes (value : CapabilityValue) :
    Decodes decode value.encode (if value.decodable then some value else none) := by
  refine Decodes.bind_some (decodes_u8 _) ?_
  rw [ValueKind.ofByte_toByte]
  exact decodes_fields value.storage value.canonical

end CapabilityValue

end FabricCapability.Ports
