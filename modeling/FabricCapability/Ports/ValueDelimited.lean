import FabricCapability.Verified.Delimited
import FabricCapability.Ports.ValueRoundTrip

/-!
# Encodings of values are delimited

The digests of the registry are computed from fields written one after another, the
encodings of capability values among them.  Here every field the writer knows is shown to
be delimited, and so is the encoding of a capability value.

That a decoder reads the fields back would be enough, but the decoder refuses values that
the writer writes: numbers outside its bounds and texts with control characters.  The
encodings of those are delimited all the same.

## Main results

* `CapabilityValue.delimited`: values are told apart by their canonical encodings.
-/

namespace FabricCapability.Ports

open FabricCapability.Verified
open FabricCapability.Verified.ByteCodec

/-! ## Fields -/

theorem delimited_u8 : Delimited (fun _ => True) u8 :=
  .of_decodes fun v _ => decodes_u8 v

theorem delimited_u16 : Delimited (fun _ => True) u16 :=
  .of_decodes fun v _ => decodes_u16 v

theorem delimited_u32 : Delimited (fun _ => True) u32 :=
  .of_decodes fun v _ => decodes_u32 v

theorem delimited_u64 : Delimited (fun _ => True) u64 :=
  .of_decodes fun v _ => decodes_u64 v

theorem delimited_i64 : Delimited (fun _ => True) i64 :=
  .of_decodes fun v _ => decodes_i64 v

theorem delimited_bool : Delimited (fun _ => True) bool :=
  .of_decodes fun v _ => decodes_bool v

/-- The byte of an enumerator. -/
theorem delimited_enum {α : Type} {toByte : α → UInt8}
    (hInj : ∀ a b, toByte a = toByte b → a = b) :
    Delimited (fun _ => True) fun value => u8 (toByte value) :=
  delimited_u8.comap (fun _ _ => trivial) fun a b _ _ => hInj a b

theorem delimited_size : Delimited (fun n => n < 2 ^ 32) sizeU32 := by
  intro a b ha hb r s hEq
  obtain ⟨hSame, hRest⟩ := delimited_u32 trivial trivial hEq
  have hNat := congrArg UInt32.toNat hSame
  rw [toNat_sizeU32 ha, toNat_sizeU32 hb] at hNat
  exact ⟨hNat, hRest⟩

theorem delimited_textField : Delimited (fun text => text.length < 2 ^ 32) textField :=
  delimited_size.prefixed

/-- A text within its bound. -/
theorem delimited_text {maxLength : Nat} (hWord : maxLength < 2 ^ 32) :
    Delimited (fun text => text.length ≤ maxLength) fun text => putText text maxLength := by
  intro a b ha hb r s hEq
  dsimp only at hEq
  rw [putText_eq hWord ha, putText_eq hWord hb] at hEq
  exact delimited_textField (ha.trans_lt hWord) (hb.trans_lt hWord) hEq

theorem delimited_payload {maxLength : Nat} (hWord : maxLength < 2 ^ 32) :
    Delimited (fun data => data.length ≤ maxLength) fun data => putBytes data maxLength := by
  intro a b ha hb r s hEq
  dsimp only at hEq
  rw [putBytes_eq hWord ha, putBytes_eq hWord hb] at hEq
  exact delimited_textField (ha.trans_lt hWord) (hb.trans_lt hWord) hEq

theorem delimited_token {tag : TokenTag} {maxLength : Nat} (hMax : tag.maxLength ≤ maxLength)
    (hWord : maxLength < 2 ^ 32) :
    Delimited (fun _ => True) fun id : TokenId tag => putText id.value maxLength :=
  (delimited_text hWord).comap (fun id _ => id.length_le.trans hMax)
    fun _ _ _ _ => TokenId.ext

theorem delimited_entity :
    Delimited (fun _ => True) fun id : EntityId => putText id.toText kMaxEntityIdLength :=
  (delimited_text (by decide)).comap (fun id _ => id.length_toText_le)
    fun _ _ _ _ => EntityId.toText_injective

/-- A bounded list in front of which its size is written. -/
theorem delimited_list {α : Type} {P : α → Prop} {enc : α → Bytes} (h : Delimited P enc)
    {maxCount : Nat} (hWord : maxCount < 2 ^ 32) {xs ys : List α} (hxs : xs.length ≤ maxCount)
    (hys : ys.length ≤ maxCount) (hx : ∀ x ∈ xs, P x) (hy : ∀ y ∈ ys, P y) {r s : Bytes}
    (hEq : sizeU32 xs.length ++ (xs.flatMap enc ++ r) =
      sizeU32 ys.length ++ (ys.flatMap enc ++ s)) : xs = ys ∧ r = s := by
  rw [← List.append_assoc, ← List.append_assoc (sizeU32 ys.length)] at hEq
  exact (delimited_size.counted h) ⟨hxs.trans_lt hWord, hx⟩ ⟨hys.trans_lt hWord, hy⟩ hEq

/-- A bounded list of which a view is written. -/
theorem delimited_views {α β : Type} {view : β → α} {P : α → Prop} {enc : α → Bytes}
    (h : Delimited P enc) {maxCount : Nat} (hWord : maxCount < 2 ^ 32) {xs ys : List β}
    (hxs : xs.length ≤ maxCount) (hys : ys.length ≤ maxCount) (hView : ∀ x, P (view x))
    {r s : Bytes}
    (hEq : sizeU32 xs.length ++ ((xs.flatMap fun x => enc (view x)) ++ r) =
      sizeU32 ys.length ++ ((ys.flatMap fun y => enc (view y)) ++ s)) :
    xs.map view = ys.map view ∧ r = s := by
  have hMet : ∀ zs : List β, ∀ a ∈ zs.map view, P a := by
    intro zs a hMem
    obtain ⟨z, -, rfl⟩ := List.mem_map.1 hMem
    exact hView z
  refine delimited_list h hWord ?_ ?_ (hMet xs) (hMet ys) ?_
  · rwa [List.length_map]
  · rwa [List.length_map]
  · rwa [List.length_map, List.length_map, List.flatMap_map, List.flatMap_map]

/-! ## Scalars and their collections -/

theorem delimited_domain :
    Delimited (fun _ => True)
      fun domain : EnumDomainId => putText domain.value kMaxEnumDomainIdLength :=
  delimited_token (by decide) (by decide)

theorem delimited_enumValue :
    Delimited (fun _ => True) fun value : EnumValue =>
      putText value.domain.value kMaxEnumDomainIdLength ++ u32 value.code := by
  rintro ⟨domain, code⟩ ⟨domain', code'⟩ - - r s hEq
  rw [List.append_assoc, List.append_assoc] at hEq
  obtain ⟨rfl, hCode⟩ := delimited_domain trivial trivial hEq
  obtain ⟨rfl, hRest⟩ := delimited_u32 trivial trivial hCode
  exact ⟨rfl, hRest⟩

theorem delimited_unit :
    Delimited (fun _ => True) fun unit : QuantityUnit => u8 unit.toByte :=
  .of_decodes fun unit _ => decodes_unit unit

theorem ScalarValue.delimited : Delimited (fun _ => True) ScalarValue.encode := by
  intro a b _ _ r s hEq
  unfold encode at hEq
  rw [List.append_assoc, List.append_assoc] at hEq
  obtain ⟨hKind, hPayload⟩ := delimited_u8 trivial trivial hEq
  -- one alternative on both sides, or the first bytes differ
  cases a <;> cases b <;> simp only [kindByte] at hKind <;>
    try exact absurd hKind (by decide)
  case boolean.boolean =>
    obtain ⟨rfl, hRest⟩ := delimited_bool trivial trivial hPayload
    exact ⟨rfl, hRest⟩
  case signed.signed =>
    obtain ⟨rfl, hRest⟩ := delimited_i64 trivial trivial hPayload
    exact ⟨rfl, hRest⟩
  case unsigned.unsigned =>
    obtain ⟨rfl, hRest⟩ := delimited_u64 trivial trivial hPayload
    exact ⟨rfl, hRest⟩
  case enumeration.enumeration =>
    obtain ⟨rfl, hRest⟩ := delimited_enumValue trivial trivial hPayload
    exact ⟨rfl, hRest⟩
  case text.text text hText text' hText' =>
    have hLength : ∀ {value}, scalarTextInBounds value = true → value.length ≤ kMaxTextLength :=
      fun h => by
        simp only [scalarTextInBounds, Bool.and_eq_true, decide_eq_true_eq] at h
        exact h.2
    obtain ⟨rfl, hRest⟩ := delimited_text (by decide) (hLength hText) (hLength hText') hPayload
    exact ⟨rfl, hRest⟩

theorem Version.delimited : Delimited (fun _ => True) Version.encode := by
  rintro ⟨components, hValid⟩ ⟨components', hValid'⟩ - - r s hEq
  unfold encode count at hEq
  rw [List.append_assoc, List.append_assoc] at hEq
  obtain ⟨hCount, hPayload⟩ := delimited_u8 trivial trivial hEq
  have hLength : components.length = components'.length := by
    have hNat := congrArg UInt8.toNat hCount
    have hMax := hValid.1
    have hMax' := hValid'.1
    simp only [kMaxVersionComponents] at hMax hMax'
    simpa [Nat.mod_eq_of_lt (by omega : components.length < 256),
      Nat.mod_eq_of_lt (by omega : components'.length < 256)] using hNat
  obtain ⟨rfl, hRest⟩ := delimited_u32.items hLength (fun _ _ => trivial) (fun _ _ => trivial) hPayload
  exact ⟨rfl, hRest⟩

theorem encodeTuple_delimited :
    Delimited (fun tuple => arityInRange tuple.elements.length = true) encodeTuple := by
  rintro ⟨elements⟩ ⟨elements'⟩ hArity hArity' r s hEq
  have hSize : ∀ {arity}, arityInRange arity = true → arity < 2 ^ 32 := by
    intro arity hArity
    simp only [arityInRange, Bool.and_eq_true, decide_eq_true_eq] at hArity
    exact hArity.2.trans_lt (by decide)
  obtain ⟨rfl, hRest⟩ := (delimited_size.counted ScalarValue.delimited)
    ⟨hSize hArity, fun _ _ => trivial⟩ ⟨hSize hArity', fun _ _ => trivial⟩ hEq
  exact ⟨rfl, hRest⟩

theorem encodeField_delimited :
    Delimited (fun field => (validateRecordFieldName field.name).isOk = true) encodeField := by
  rintro ⟨name, value⟩ ⟨name', value'⟩ hName hName' r s hEq
  have hLength : ∀ {name}, (validateRecordFieldName name).isOk = true → name.length ≤ 48 := by
    intro name hName
    cases hValid : validateRecordFieldName name with
    | error e =>
        rw [hValid] at hName
        cases hName
    | ok u => exact (validateToken_inv hValid).2.1
  unfold encodeField at hEq
  rw [List.append_assoc, List.append_assoc] at hEq
  obtain ⟨rfl, hValue⟩ := delimited_text (by decide) (hLength hName) (hLength hName') hEq
  obtain ⟨rfl, hRest⟩ := ScalarValue.delimited trivial trivial hValue
  exact ⟨rfl, hRest⟩

/-! ## Capability values -/

theorem delimited_protocol : Delimited (fun _ => True) fun p : ProtocolId => u16 p.code :=
  delimited_u16.comap (fun _ _ => trivial) fun a b _ _ h => by
    cases a
    cases b
    exact congrArg ProtocolId.mk h

namespace ValueStorage

theorem words_length {set : BitSet} (h : bitsAboveCountAreClear set = true) :
    set.words.length = wordsForBits set.bitCount := by
  unfold bitsAboveCountAreClear at h
  split at h
  · cases h
  · rename_i hLength
    simpa using hLength

theorem arities {tuples : List TupleValue}
    (h : tuples.all (fun t => t.elements.length == (tuples.headD ⟨[]⟩).elements.length &&
      arityInRange t.elements.length) = true) :
    ∀ t ∈ tuples, arityInRange t.elements.length = true := by
  intro t hMem
  exact (Bool.and_eq_true_iff.1 (List.all_eq_true.1 h t hMem)).2

theorem encoding_length {encoding : Bytes} (h : (validateOpaqueEncoding encoding).isOk = true) :
    encoding.length ≤ 64 := by
  cases hValid : validateOpaqueEncoding encoding with
  | error e =>
      rw [hValid] at h
      cases h
  | ok u => exact (validateToken_inv hValid).2.1

/-- The fields of two alternatives of one kind. -/
theorem encodeFields_delimited {a b : ValueStorage} (ha : a.wellFormed = true)
    (hb : b.wellFormed = true) (hKind : a.kind = b.kind) {r s : Bytes}
    (hEq : a.encodeFields ++ r = b.encodeFields ++ s) : a = b ∧ r = s := by
  cases a <;> cases b <;> simp only [kind, reduceCtorEq] at hKind <;>
    simp only [wellFormed, Bool.and_eq_true, decide_eq_true_eq] at ha hb <;>
    simp only [encodeFields, List.append_assoc] at hEq
  case absent.absent => exact ⟨rfl, hEq⟩
  case boolean.boolean =>
    obtain ⟨rfl, hRest⟩ := delimited_bool trivial trivial hEq
    exact ⟨rfl, hRest⟩
  case integer.integer =>
    obtain ⟨rfl, hRest⟩ := delimited_i64 trivial trivial hEq
    exact ⟨rfl, hRest⟩
  case quantity.quantity q q' =>
    obtain ⟨value, unit⟩ := q
    obtain ⟨value', unit'⟩ := q'
    obtain ⟨rfl, hUnit⟩ := delimited_u64 trivial trivial hEq
    obtain ⟨rfl, hRest⟩ := delimited_unit trivial trivial hUnit
    exact ⟨rfl, hRest⟩
  case enumeration.enumeration e e' =>
    rw [← List.append_assoc, ← List.append_assoc] at hEq
    obtain ⟨rfl, hRest⟩ := delimited_enumValue trivial trivial hEq
    exact ⟨rfl, hRest⟩
  case bitSet.bitSet b b' =>
    obtain ⟨bitCount, words⟩ := b
    obtain ⟨bitCount', words'⟩ := b'
    obtain ⟨rfl, hWords⟩ := delimited_u32 trivial trivial hEq
    have hWord : wordsForBits bitCount < 2 ^ 32 := by
      have hCount := bitCount.toNat_lt
      unfold wordsForBits
      omega
    obtain ⟨rfl, hRest⟩ := delimited_list delimited_u64 hWord (words_length ha.2).le
      (words_length hb.2).le (fun _ _ => trivial) (fun _ _ => trivial) hWords
    exact ⟨rfl, hRest⟩
  case numericSet.numericSet n n' =>
    obtain ⟨unit, values⟩ := n
    obtain ⟨unit', values'⟩ := n'
    obtain ⟨rfl, hValues⟩ := delimited_unit trivial trivial hEq
    obtain ⟨rfl, hRest⟩ := delimited_list delimited_u64 (by decide) ha.1.1.2 hb.1.1.2
      (fun _ _ => trivial) (fun _ _ => trivial) hValues
    exact ⟨rfl, hRest⟩
  case numericRange.numericRange n n' =>
    obtain ⟨unit, minimum, maximum⟩ := n
    obtain ⟨unit', minimum', maximum'⟩ := n'
    obtain ⟨rfl, hBounds⟩ := delimited_unit trivial trivial hEq
    obtain ⟨rfl, hMaximum⟩ := delimited_u64 trivial trivial hBounds
    obtain ⟨rfl, hRest⟩ := delimited_u64 trivial trivial hMaximum
    exact ⟨rfl, hRest⟩
  case versionInterval.versionInterval v v' =>
    obtain ⟨minimum, maximum, minimumInclusive, maximumInclusive⟩ := v
    obtain ⟨minimum', maximum', minimumInclusive', maximumInclusive'⟩ := v'
    obtain ⟨rfl, hFirst⟩ := Version.delimited trivial trivial hEq
    obtain ⟨rfl, hMaximum⟩ := delimited_bool trivial trivial hFirst
    obtain ⟨rfl, hSecond⟩ := Version.delimited trivial trivial hMaximum
    obtain ⟨rfl, hRest⟩ := delimited_bool trivial trivial hSecond
    exact ⟨rfl, hRest⟩
  case protocolSet.protocolSet p p' =>
    obtain ⟨protocols⟩ := p
    obtain ⟨protocols'⟩ := p'
    obtain ⟨rfl, hRest⟩ := delimited_list delimited_protocol (by decide) ha.1.1.2 hb.1.1.2
      (fun _ _ => trivial) (fun _ _ => trivial) hEq
    exact ⟨rfl, hRest⟩
  case tuple.tuple t t' =>
    obtain ⟨rfl, hRest⟩ := encodeTuple_delimited ha hb hEq
    exact ⟨rfl, hRest⟩
  case tupleSet.tupleSet t t' =>
    obtain ⟨tuples⟩ := t
    obtain ⟨tuples'⟩ := t'
    obtain ⟨rfl, hRest⟩ := delimited_list encodeTuple_delimited (by decide) ha.1.1.2 hb.1.1.2
      (arities ha.1.2) (arities hb.1.2) hEq
    exact ⟨rfl, hRest⟩
  case record.record f f' =>
    obtain ⟨fields⟩ := f
    obtain ⟨fields'⟩ := f'
    obtain ⟨rfl, hRest⟩ := delimited_list encodeField_delimited (by decide) ha.1.1.2 hb.1.1.2
      (List.all_eq_true.1 ha.1.2) (List.all_eq_true.1 hb.1.2) hEq
    exact ⟨rfl, hRest⟩
  case opaquePayload.opaquePayload p p' =>
    obtain ⟨encoding, bytes⟩ := p
    obtain ⟨encoding', bytes'⟩ := p'
    obtain ⟨rfl, hBytes⟩ := delimited_text (by decide) (encoding_length ha.1)
      (encoding_length hb.1) hEq
    obtain ⟨rfl, hRest⟩ := delimited_payload (by decide) ha.2 hb.2 hBytes
    exact ⟨rfl, hRest⟩
  case enumSet.enumSet e e' =>
    obtain ⟨domain, codes⟩ := e
    obtain ⟨domain', codes'⟩ := e'
    obtain ⟨rfl, hCodes⟩ := delimited_domain trivial trivial hEq
    obtain ⟨rfl, hRest⟩ := delimited_list delimited_u32 (by decide) ha.1.2 hb.1.2
      (fun _ _ => trivial) (fun _ _ => trivial) hCodes
    exact ⟨rfl, hRest⟩

end ValueStorage

theorem CapabilityValue.delimited : Delimited (fun _ => True) CapabilityValue.encode := by
  intro a b _ _ r s hEq
  unfold encode at hEq
  rw [List.append_assoc, List.append_assoc] at hEq
  obtain ⟨hTag, hFields⟩ := delimited_u8 trivial trivial hEq
  have hKind : a.kind = b.kind := by
    have hSome := congrArg ValueKind.ofByte hTag
    rwa [ValueKind.ofByte_toByte, ValueKind.ofByte_toByte, Option.some.injEq] at hSome
  obtain ⟨hStorage, hRest⟩ := ValueStorage.encodeFields_delimited a.canonical b.canonical hKind
    hFields
  exact ⟨CapabilityValue.ext hStorage, hRest⟩

/-! ## Digests -/

/-- The value of a hexadecimal digit. -/
def hexValue (digit : UInt8) : UInt8 := if digit < 0x3A then digit - 0x30 else digit - 0x61 + 10

theorem hexValue_hexDigit {v : UInt8} (h : v < 16) : hexValue (hexDigit v) = v := by
  have hBound : v.toNat < 16 := UInt8.lt_iff_toNat_lt.1 h
  unfold hexValue hexDigit
  by_cases hDigit : v < 10
  · have hDecimal : v.toNat < 10 := UInt8.lt_iff_toNat_lt.1 hDigit
    have hBelow : 0x30 + v < 0x3A := by
      rw [UInt8.lt_iff_toNat_lt, UInt8.toNat_add]
      show (48 + v.toNat) % 2 ^ 8 < 58
      omega
    rw [if_pos hDigit, if_pos hBelow, ← UInt8.toNat_inj, UInt8.toNat_sub, UInt8.toNat_add]
    show (2 ^ 8 - 48 + (48 + v.toNat) % 2 ^ 8) % 2 ^ 8 = v.toNat
    omega
  · have hLetter : ¬v.toNat < 10 := fun hLt => hDigit (UInt8.lt_iff_toNat_lt.2 hLt)
    have hOver : (0x61 + (v - 10)).toNat = (97 + (2 ^ 8 - 10 + v.toNat) % 2 ^ 8) % 2 ^ 8 := by
      rw [UInt8.toNat_add, UInt8.toNat_sub]
      rfl
    have hAbove : ¬0x61 + (v - 10) < 0x3A := by
      rw [UInt8.lt_iff_toNat_lt, hOver]
      show ¬_ < 58
      omega
    rw [if_neg hDigit, if_neg hAbove, ← UInt8.toNat_inj, UInt8.toNat_add, UInt8.toNat_sub, hOver]
    show ((2 ^ 8 - 97 + (97 + (2 ^ 8 - 10 + v.toNat) % 2 ^ 8) % 2 ^ 8) % 2 ^ 8 + 10) % 2 ^ 8 =
      v.toNat
    omega

example : hexValue (hexDigit 11) = 11 := by decide +kernel

theorem hexValue_hexDigits (v : UInt8) :
    hexValue (hexDigit (v >>> 4)) * 16 + hexValue (hexDigit (v &&& 0x0F)) = v := by
  have hHigh : (v >>> 4).toNat = v.toNat / 16 := by
    simp [Nat.shiftRight_eq_div_pow]
  have hLow : (v &&& 0x0F).toNat = v.toNat % 16 := by
    simpa using Nat.and_two_pow_sub_one_eq_mod v.toNat 4
  have hBound := v.toNat_lt
  rw [hexValue_hexDigit (UInt8.lt_iff_toNat_lt.2 (by rw [hHigh]; show _ < 16; omega)),
    hexValue_hexDigit (UInt8.lt_iff_toNat_lt.2 (by rw [hLow]; show _ < 16; omega)),
    ← UInt8.toNat_inj, UInt8.toNat_add, UInt8.toNat_mul, hHigh, hLow]
  show (v.toNat / 16 * 16 % 2 ^ 8 + v.toNat % 16) % 2 ^ 8 = v.toNat
  omega

theorem delimited_hex :
    Delimited (fun _ => True) fun v : UInt8 => [hexDigit (v >>> 4), hexDigit (v &&& 0x0F)] := by
  intro a b _ _ r s hEq
  obtain ⟨hHigh, hRest⟩ := List.cons.inj hEq
  obtain ⟨hLow, hRest⟩ := List.cons.inj hRest
  refine ⟨?_, hRest⟩
  rw [← hexValue_hexDigits a, hHigh, hLow, hexValue_hexDigits b]

/-- Digests are told apart by their rendered texts. -/
theorem Digest.toText_injective {a b : Digest} (h : a.toText = b.toText) : a = b := by
  obtain ⟨hBytes, -⟩ := delimited_hex.items (a.size.trans b.size.symm) (fun _ _ => trivial)
    (fun _ _ => trivial) (congrArg (· ++ []) h)
  cases a
  cases b
  simp_all

end FabricCapability.Ports
