import FabricCapability.Verified.Canonical
import FabricCapability.Ports.ValueDelimited

/-!
# Which encodings of capability values are canonical

`CapabilityValue::Decode` ends in the factories of `src/value.cpp`, and four of them sort
what they are given: protocol sets, tuple sets, records and enumeration sets.  For numeric
sets the decoder compares the order of the bytes before it calls the factory; for the other
four it does not, so it accepts their items in any order and returns the sorted value.

## Main results

* `ScalarValue.canonical`, `Version.canonical`: the parts of values are read from their
  encodings only.
* `decode_canonical_iff`: the accepted bytes are the encoding of the decoded value exactly
  when the items of the four sorted kinds are written in order.
-/

namespace FabricCapability.Ports

open FabricCapability.Verified
open FabricCapability.Verified.ByteCodec
open FabricCapability.Verified.StrictOrder

/-! ## Words -/

theorem leBytes_of_length {w : Nat} {raw : Bytes} (h : raw.length = w) :
    leBytes w (leValue raw) = raw := by
  rw [← h, leBytes_leValue]

/-- Bytes of the width of a word are below the size of the word. -/
theorem leValue_lt_size {w size : Nat} {raw : Bytes} (h : raw.length = w)
    (hSize : 256 ^ w = size) : leValue raw < size := by
  rw [← hSize, ← h]
  exact leValue_lt raw

theorem canonical_u8 : Canonical readU8 u8 :=
  .exact fun raw h => by
    have hMod : leValue raw % 256 = leValue raw := Nat.mod_eq_of_lt (leValue_lt_size h rfl)
    have hWord := leBytes_of_length h
    rw [leBytes, leBytes, hMod] at hWord
    exact hWord

theorem canonical_u16 : Canonical readU16 u16 :=
  .exact fun raw h => by
    have hLt : leValue raw < UInt16.size := leValue_lt_size h rfl
    rw [u16, UInt16.toNat_ofNat_of_lt' hLt, leBytes_of_length h]

theorem canonical_u32 : Canonical readU32 u32 :=
  .exact fun raw h => by
    have hLt : leValue raw < UInt32.size := leValue_lt_size h rfl
    rw [u32, UInt32.toNat_ofNat_of_lt' hLt, leBytes_of_length h]

theorem canonical_u64 : Canonical readU64 u64 :=
  .exact fun raw h => by
    have hLt : leValue raw < UInt64.size := leValue_lt_size h rfl
    rw [u64, UInt64.toNat_ofNat_of_lt' hLt, leBytes_of_length h]

theorem canonical_i64 : Canonical readI64 i64 := by
  intro bs v rest h
  obtain ⟨raw, tail, hRaw, hPure⟩ := bind_eq_ok.1 h
  cases hPure
  rw [i64, UInt64.toUInt64_toInt64]
  exact canonical_u64 hRaw

theorem canonical_bool : Canonical readBool bool := by
  intro bs v rest h
  obtain ⟨raw, tail, hRaw, h⟩ := bind_eq_ok.1 h
  split at h
  · cases h
  · rename_i hSmall
    cases h
    have hByte : u8 (if raw == 1 then 1 else 0) = u8 raw := by
      have hValue : raw = 0 ∨ raw = 1 := by
        rw [gt_iff_lt, UInt8.not_lt, UInt8.le_iff_toNat_le] at hSmall
        rw [← UInt8.toNat_inj, ← UInt8.toNat_inj]
        simp only [UInt8.reduceToNat] at hSmall ⊢
        omega
      rcases hValue with rfl | rfl <;> rfl
    rw [bool, hByte]
    exact canonical_u8 hRaw

example : readBool [1, 7] = .ok (true, [7]) := by decide +kernel

/-- A number that was read is written again by its size. -/
theorem sizeU32_toNat (count : UInt32) : sizeU32 count.toNat = u32 count := by
  rw [sizeU32, UInt32.ofNat_toNat]

/-! ## Texts and byte strings -/

theorem rejectControl_eq_ok {text out : Bytes} (h : rejectControl text = .ok out) :
    out = text := by
  unfold rejectControl at h
  split at h
  · cases h
  · cases h
    rfl

/-- A text that was read within its bound is written again. -/
theorem canonical_text {maxLength : Nat} (hWord : maxLength < 2 ^ 32) :
    Canonical (readText maxLength) fun text => putText text maxLength := by
  intro bs text rest h
  obtain ⟨length, tail, hLength, h⟩ := bind_eq_ok.1 h
  obtain ⟨hMax, h⟩ := ite_fail_eq_ok.1 h
  obtain ⟨available, tail', hAvailable, h⟩ := bind_eq_ok.1 h
  cases hAvailable
  obtain ⟨raw, tail', hRaw, h⟩ := bind_eq_ok.1 h
  obtain ⟨hEnough, rfl, rfl⟩ := readExact_eq_ok.1 hRaw
  obtain ⟨hOk, rfl⟩ := accept_eq_ok.1 h
  obtain rfl := rejectControl_eq_ok hOk
  have hSize : (tail.take length.toNat).length = length.toNat := by
    rw [List.length_take]
    omega
  dsimp only
  rw [putText_eq hWord (by omega), hSize, UInt32.ofNat_toNat, List.append_assoc,
    List.take_append_drop]
  exact canonical_u32 hLength

theorem canonical_bytes {maxLength : Nat} (hWord : maxLength < 2 ^ 32) :
    Canonical (readBytes maxLength) fun data => putBytes data maxLength := by
  intro bs data rest h
  obtain ⟨length, tail, hLength, h⟩ := bind_eq_ok.1 h
  obtain ⟨hMax, h⟩ := ite_fail_eq_ok.1 h
  obtain ⟨available, tail', hAvailable, h⟩ := bind_eq_ok.1 h
  cases hAvailable
  obtain ⟨hEnough, rfl, rfl⟩ := readExact_eq_ok.1 h
  have hSize : (tail.take length.toNat).length = length.toNat := by
    rw [List.length_take]
    omega
  dsimp only
  rw [putBytes_eq hWord (by omega), hSize, UInt32.ofNat_toNat, List.append_assoc,
    List.take_append_drop]
  exact canonical_u32 hLength

theorem canonical_enumDomain :
    Canonical readEnumDomain
      fun domain : EnumDomainId => putText domain.value kMaxEnumDomainIdLength :=
  (canonical_text (by decide)).checked fun text domain h => by
    rw [(TokenId.parse_eq_ok.1 h).2]

theorem canonical_unit : Canonical readUnit fun unit : QuantityUnit => u8 unit.toByte := by
  intro bs unit rest h
  obtain ⟨tag, tail, hTag, h⟩ := bind_eq_ok.1 h
  cases hUnit : QuantityUnit.ofByte tag with
  | none =>
      rw [hUnit] at h
      cases h
  | some known =>
      rw [hUnit] at h
      cases h
      have hByte := List.find?_some hUnit
      rw [beq_iff_eq] at hByte
      dsimp only
      rw [hByte]
      exact canonical_u8 hTag

/-! ## Scalars, versions, tuples and fields -/

theorem ScalarValue.canonical : Canonical ScalarValue.decode ScalarValue.encode := by
  intro bs scalar rest h
  obtain ⟨kind, tail, hKind, h⟩ := bind_eq_ok.1 h
  rw [canonical_u8 hKind]
  generalize hTag : kind.toNat = tag at h
  have hByte : kind = UInt8.ofNat tag := by rw [← hTag, UInt8.ofNat_toNat]
  subst hByte
  match tag, h with
  | 0, h =>
      obtain ⟨value, tail', hValue, hPure⟩ := bind_eq_ok.1 h
      cases hPure
      rw [canonical_bool hValue]
      rfl
  | 1, h =>
      obtain ⟨value, tail', hValue, h⟩ := bind_eq_ok.1 h
      obtain ⟨-, hPure⟩ := ite_fail_eq_ok.1 h
      cases hPure
      rw [canonical_i64 hValue]
      rfl
  | 2, h =>
      obtain ⟨value, tail', hValue, h⟩ := bind_eq_ok.1 h
      obtain ⟨-, hPure⟩ := ite_fail_eq_ok.1 h
      cases hPure
      rw [canonical_u64 hValue]
      rfl
  | 3, h =>
      obtain ⟨text, afterText, hText, h⟩ := bind_eq_ok.1 h
      obtain ⟨domain, afterDomain, hDomain, hRest⟩ := bind_eq_ok.1 h
      obtain ⟨code, afterCode, hCode, hLast⟩ := bind_eq_ok.1 hRest
      obtain ⟨hParse, rfl⟩ := accept_eq_ok.1 hDomain
      obtain ⟨hOk, rfl⟩ := accept_eq_ok.1 hLast
      unfold ofEnumeration at hOk
      split at hOk
      · cases hOk
        rw [canonical_text (by decide) hText, canonical_u32 hCode,
          ← (TokenId.parse_eq_ok.1 hParse).2]
        simp only [encode, kindByte, List.append_assoc]
        rfl
      · cases hOk
  | 4, h =>
      obtain ⟨text, tail', hText, h⟩ := bind_eq_ok.1 h
      obtain ⟨hOk, rfl⟩ := accept_eq_ok.1 h
      unfold ofText at hOk
      split at hOk
      · cases hOk
        rw [canonical_text (by decide) hText]
        simp only [encode, kindByte, List.append_assoc]
        rfl
      · cases hOk
  | n + 5, h => cases h

theorem canonical_versionComponent : Canonical readVersionComponent u32 := by
  intro bs component rest h
  obtain ⟨value, tail, hValue, h⟩ := bind_eq_ok.1 h
  obtain ⟨-, hPure⟩ := ite_fail_eq_ok.1 h
  cases hPure
  exact canonical_u32 hValue

theorem Version.canonical : Canonical Version.decode Version.encode := by
  intro bs version rest h
  obtain ⟨count, tail, hCount, h⟩ := bind_eq_ok.1 h
  obtain ⟨hRange, h⟩ := ite_fail_eq_ok.1 h
  obtain ⟨components, tail', hItems, h⟩ := bind_eq_ok.1 h
  obtain ⟨hOk, rfl⟩ := accept_eq_ok.1 h
  obtain ⟨hLength, hTail⟩ := canonical_versionComponent.readTimes hItems
  unfold ofComponents at hOk
  split at hOk
  · cases hOk
    rw [encode, Version.count, hLength, UInt8.ofNat_toNat, List.append_assoc, ← hTail]
    exact canonical_u8 hCount
  · cases hOk

theorem canonical_tuple : Canonical readTuple encodeTuple := by
  intro bs tuple rest h
  obtain ⟨arity, tail, hArity, h⟩ := bind_eq_ok.1 h
  obtain ⟨-, h⟩ := ite_fail_eq_ok.1 h
  obtain ⟨elements, tail', hItems, hPure⟩ := bind_eq_ok.1 h
  cases hPure
  obtain ⟨hLength, hTail⟩ := ScalarValue.canonical.readTimes hItems
  rw [encodeTuple, hLength, sizeU32_toNat, List.append_assoc, ← hTail]
  exact canonical_u32 hArity

example : readTuple (encodeTuple ⟨[.unsigned 5, .boolean true]⟩ ++ [7]) =
    .ok (⟨[.unsigned 5, .boolean true]⟩, [7]) := by decide +kernel

theorem canonical_field : Canonical readField encodeField := by
  intro bs field rest h
  obtain ⟨name, tail, hName, h⟩ := bind_eq_ok.1 h
  obtain ⟨value, tail', hValue, hPure⟩ := bind_eq_ok.1 h
  cases hPure
  rw [encodeField, List.append_assoc, ← ScalarValue.canonical hValue]
  exact canonical_text (by decide) hName

/-! ## Counted lists -/

/-- The items of a counted list are written in increasing order. -/
def listInOrder {α : Type} (rd : ByteReader α) (lt : α → α → Bool) (bytes : Bytes) : Bool :=
  match (readU32 >>= fun count => readTimes rd count.toNat) bytes with
  | .ok (items, _) => increasing lt items
  | .error _ => true

section Counted

variable {α : Type} {rd : ByteReader α} {enc : α → Bytes} {P : α → Prop} {lt : α → α → Bool}
  {maxCount : Nat}

theorem increasing_map {β : Type} (f : β → α) (items : List β) :
    increasing lt (items.map f) = increasing (fun a b => lt (f a) (f b)) items := by
  induction items with
  | nil => rfl
  | cons a rest ih =>
      cases rest with
      | nil => rfl
      | cons b rest => exact congrArg (lt (f a) (f b) && ·) ih

/-- A counted list that was read: its items, whose order the condition looks at. -/
theorem counted_list (hRd : Canonical rd enc) {message : Bytes}
    {factory : List α → Outcome CapabilityValue} {bytes rest : Bytes} {value : CapabilityValue}
    (h : (do
        let count ← readCount maxCount message
        let items ← readTimes rd count
        accept (factory items)) bytes = .ok (value, rest)) :
    ∃ items, factory items = .ok value ∧ items.length ≤ maxCount ∧
      bytes = sizeU32 items.length ++ (items.flatMap enc ++ rest) ∧
      ∀ lt, listInOrder rd lt bytes = increasing lt items := by
  obtain ⟨count, afterCount, hCount, h⟩ := bind_eq_ok.1 h
  obtain ⟨items, afterItems, hItems, h⟩ := bind_eq_ok.1 h
  obtain ⟨hFactory, rfl⟩ := accept_eq_ok.1 h
  obtain ⟨word, afterWord, hWord, hCount⟩ := bind_eq_ok.1 hCount
  obtain ⟨hMax, hPure⟩ := ite_fail_eq_ok.1 hCount
  cases hPure
  obtain ⟨hLength, hBytes⟩ := hRd.readTimes hItems
  refine ⟨items, hFactory, by omega, ?_, fun lt => ?_⟩
  · rw [hLength, sizeU32_toNat, ← hBytes]
    exact canonical_u32 hWord
  · have hList : (readU32 >>= fun count => readTimes rd count.toNat) bytes = .ok (items, rest) :=
      bind_eq_ok.2 ⟨word, afterCount, hWord, hItems⟩
    rw [listInOrder, hList]

/-- A list that is written in another order than it was read is written to other bytes. -/
theorem sorted_list (hWord : maxCount < 2 ^ 32) (hDelimited : Delimited P enc)
    {items : List α} (hMax : items.length ≤ maxCount) (hItems : ∀ x ∈ sortBy lt items, P x)
    (hSorted : increasing lt (sortBy lt items) = true)
    (hKept : increasing lt items = true → sortBy lt items = items) {rest : Bytes} :
    sizeU32 items.length ++ (items.flatMap enc ++ rest) =
        sizeU32 (sortBy lt items).length ++ ((sortBy lt items).flatMap enc ++ rest) ↔
      increasing lt items = true := by
  constructor
  · intro hEq
    have hSame := (delimited_list hDelimited hWord hMax (by rwa [length_sortBy])
      (fun x hMem => hItems x (mem_sortBy.2 hMem)) hItems hEq).1
    rwa [← hSame] at hSorted
  · intro hInc
    rw [hKept hInc]

end Counted

/-! ## What the factories make of what was read -/

namespace CapabilityValue

theorem quantityValue_storage {number : UInt64} {unit : QuantityUnit} {value : CapabilityValue}
    (h : quantityValue number unit = .ok value) : value.storage = .quantity ⟨number, unit⟩ := by
  unfold quantityValue at h
  split at h
  · cases h
  · split at h
    · cases h
    · cases h
      rfl

theorem enumeration_storage {domain : EnumDomainId} {code : UInt32} {value : CapabilityValue}
    (h : enumeration domain code = .ok value) : value.storage = .enumeration ⟨domain, code⟩ := by
  unfold enumeration at h
  split at h
  · cases h
    rfl
  · cases h

theorem bitSetValue_storage {bitCount : UInt32} {words : List UInt64} {value : CapabilityValue}
    (h : bitSetValue bitCount words = .ok value) : value.storage = .bitSet ⟨bitCount, words⟩ := by
  unfold bitSetValue at h
  split at h
  · cases h
  · split at h
    · cases h
    · split at h
      · cases h
        rfl
      · cases h

theorem numericSetValue_storage {unit : QuantityUnit} {values : List UInt64}
    {value : CapabilityValue} (h : numericSetValue unit values = .ok value) :
    value.storage = .numericSet ⟨unit, sortBy wordLt values⟩ := by
  unfold numericSetValue at h
  split at h
  · cases h
  · split at h
    · cases h
    · split at h
      · cases h
      · split at h
        · cases h
        · split at h
          · cases h
          · cases h
            rfl

theorem numericRangeValue_storage {unit : QuantityUnit} {minimum maximum : UInt64}
    {value : CapabilityValue} (h : numericRangeValue unit minimum maximum = .ok value) :
    value.storage = .numericRange ⟨unit, minimum, maximum⟩ := by
  unfold numericRangeValue at h
  split at h
  · cases h
  · split at h
    · cases h
    · split at h
      · cases h
      · cases h
        rfl

theorem versionIntervalValue_storage {minimum maximum : Version} {minInclusive maxInclusive : Bool}
    {value : CapabilityValue}
    (h : versionIntervalValue minimum minInclusive maximum maxInclusive = .ok value) :
    value.storage = .versionInterval ⟨minimum, maximum, minInclusive, maxInclusive⟩ := by
  unfold versionIntervalValue at h
  split at h
  · cases h
  · split at h
    · cases h
    · split at h
      · cases h
      · cases h
        rfl

theorem protocolSetValue_storage {protocols : List ProtocolId} {value : CapabilityValue}
    (h : protocolSetValue protocols = .ok value) :
    value.storage = .protocolSet ⟨sortBy protocolLt protocols⟩ := by
  unfold protocolSetValue at h
  split at h
  · cases h
  · split at h
    · cases h
    · split at h
      · cases h
      · split at h
        · cases h
        · cases h
          rfl

theorem tupleValueOf_storage {elements : List ScalarValue} {value : CapabilityValue}
    (h : tupleValueOf elements = .ok value) : value.storage = .tuple ⟨elements⟩ := by
  unfold tupleValueOf at h
  split at h
  · cases h
    rfl
  · cases h

theorem tupleSetValue_storage {tuples : List TupleValue} {value : CapabilityValue}
    (h : tupleSetValue tuples = .ok value) :
    value.storage = .tupleSet ⟨sortBy tupleLt tuples⟩ := by
  unfold tupleSetValue at h
  split at h
  · cases h
  · split at h
    · cases h
    · split at h
      · cases h
      · split at h
        · cases h
        · cases h
          rfl

theorem enumerationSetValue_storage {domain : EnumDomainId} {codes : List UInt32}
    {value : CapabilityValue} (h : enumerationSetValue domain codes = .ok value) :
    value.storage = .enumSet ⟨domain, sortBy codeLt codes⟩ := by
  unfold enumerationSetValue at h
  split at h
  · cases h
  · split at h
    · cases h
    · split at h
      · cases h
      · split at h
        · cases h
        · cases h
          rfl

theorem recordValue_storage {fields : List RecordField} {value : CapabilityValue}
    (h : recordValue fields = .ok value) :
    value.storage = .record ⟨sortBy recordFieldLt fields⟩ := by
  unfold recordValue at h
  split at h
  · cases h
  · split at h
    · cases h
    · split at h
      · cases h
      · split at h
        · cases h
        · cases h
          rfl

theorem opaqueValue_storage {encoding bytes : Bytes} {value : CapabilityValue}
    (h : opaqueValue encoding bytes = .ok value) :
    value.storage = .opaquePayload ⟨encoding, bytes⟩ := by
  unfold opaqueValue at h
  split at h
  · cases h
  · split at h
    · cases h
    · cases h
      rfl

end CapabilityValue

/-! ## The fields of the alternatives -/

/-- The items are written in order, where the decoder leaves the order to the factory. -/
def fieldsInOrder (kind : ValueKind) (fields : Bytes) : Bool :=
  match kind with
  | .protocolSet => listInOrder readU16 (fun a b => protocolLt ⟨a⟩ ⟨b⟩) fields
  | .tupleSet => listInOrder readTuple tupleLt fields
  | .record => listInOrder readField recordFieldLt fields
  | .enumSet =>
      match readEnumDomain fields with
      | .ok (_, codes) => listInOrder readU32 codeLt codes
      | .error _ => true
  | _ => true

namespace CapabilityValue

section Fields

variable {fields rest : Bytes} {value : CapabilityValue}

theorem canonical_boolean (h : decodeFields .boolean fields = .ok (value, rest)) :
    value.kind = .boolean ∧ fields = value.storage.encodeFields ++ rest := by
  obtain ⟨flag, tail, hFlag, hPure⟩ := bind_eq_ok.1 h
  cases hPure
  exact ⟨rfl, canonical_bool hFlag⟩

theorem canonical_integer (h : decodeFields .integer fields = .ok (value, rest)) :
    value.kind = .integer ∧ fields = value.storage.encodeFields ++ rest := by
  obtain ⟨number, tail, hNumber, h⟩ := bind_eq_ok.1 h
  obtain ⟨-, hPure⟩ := ite_fail_eq_ok.1 h
  cases hPure
  exact ⟨rfl, canonical_i64 hNumber⟩

theorem canonical_quantity (h : decodeFields .quantity fields = .ok (value, rest)) :
    value.kind = .quantity ∧ fields = value.storage.encodeFields ++ rest := by
  obtain ⟨number, afterNumber, hNumber, h⟩ := bind_eq_ok.1 h
  obtain ⟨unit, afterUnit, hUnit, h⟩ := bind_eq_ok.1 h
  obtain ⟨hOk, rfl⟩ := accept_eq_ok.1 h
  rw [kind, quantityValue_storage hOk]
  refine ⟨rfl, ?_⟩
  rw [ValueStorage.encodeFields, List.append_assoc, ← canonical_unit hUnit]
  exact canonical_u64 hNumber

theorem canonical_enumeration (h : decodeFields .enumeration fields = .ok (value, rest)) :
    value.kind = .enumeration ∧ fields = value.storage.encodeFields ++ rest := by
  obtain ⟨domain, afterDomain, hDomain, h⟩ := bind_eq_ok.1 h
  obtain ⟨code, afterCode, hCode, h⟩ := bind_eq_ok.1 h
  obtain ⟨hOk, rfl⟩ := accept_eq_ok.1 h
  rw [kind, enumeration_storage hOk]
  refine ⟨rfl, ?_⟩
  rw [ValueStorage.encodeFields, List.append_assoc, ← canonical_u32 hCode]
  exact canonical_enumDomain hDomain

example : (decodeFields .enumeration (putText (txt "fcr.medium") kMaxEnumDomainIdLength ++
    u32 3 ++ [7])).map (fun (value, rest) => (value.kind, rest)) = .ok (.enumeration, [7]) := by
  decide +kernel

theorem canonical_bitSet (h : decodeFields .bitSet fields = .ok (value, rest)) :
    value.kind = .bitSet ∧ fields = value.storage.encodeFields ++ rest := by
  obtain ⟨bitCount, afterBits, hBits, h⟩ := bind_eq_ok.1 h
  obtain ⟨wordCount, afterCount, hCount, h⟩ := bind_eq_ok.1 h
  obtain ⟨hExpected, h⟩ := ite_fail_eq_ok.1 h
  obtain ⟨words, afterWords, hWords, h⟩ := bind_eq_ok.1 h
  obtain ⟨hOk, rfl⟩ := accept_eq_ok.1 h
  obtain ⟨hLength, hTail⟩ := canonical_u64.readTimes hWords
  rw [Bool.or_eq_true, not_or, bne_iff_ne, not_not] at hExpected
  rw [kind, bitSetValue_storage hOk]
  refine ⟨rfl, ?_⟩
  rw [ValueStorage.encodeFields, hLength, ← hExpected.1, sizeU32_toNat, List.append_assoc,
    List.append_assoc, ← hTail, ← canonical_u32 hCount]
  exact canonical_u32 hBits

/-- The only collection whose order the decoder checks. -/
theorem canonical_numericSet (h : decodeFields .numericSet fields = .ok (value, rest)) :
    value.kind = .numericSet ∧ fields = value.storage.encodeFields ++ rest := by
  obtain ⟨unit, afterUnit, hUnit, h⟩ := bind_eq_ok.1 h
  obtain ⟨count, afterCount, hCount, h⟩ := bind_eq_ok.1 h
  obtain ⟨values, afterValues, hValues, h⟩ := bind_eq_ok.1 h
  obtain ⟨hInc, h⟩ := ite_fail_eq_ok.1 h
  obtain ⟨hOk, rfl⟩ := accept_eq_ok.1 h
  obtain ⟨word, afterWord, hWord, hCount⟩ := bind_eq_ok.1 hCount
  obtain ⟨-, hPure⟩ := ite_fail_eq_ok.1 hCount
  cases hPure
  obtain ⟨hLength, hTail⟩ := canonical_u64.readTimes hValues
  rw [Bool.not_eq_true', Bool.not_eq_false] at hInc
  rw [kind, numericSetValue_storage hOk, sortBy_of_increasing wordLt_total hInc]
  refine ⟨rfl, ?_⟩
  rw [ValueStorage.encodeFields, hLength, sizeU32_toNat, List.append_assoc, List.append_assoc,
    ← hTail, ← canonical_u32 hWord]
  exact canonical_unit hUnit

theorem canonical_numericRange (h : decodeFields .numericRange fields = .ok (value, rest)) :
    value.kind = .numericRange ∧ fields = value.storage.encodeFields ++ rest := by
  obtain ⟨unit, afterUnit, hUnit, h⟩ := bind_eq_ok.1 h
  obtain ⟨minimum, afterMinimum, hMinimum, h⟩ := bind_eq_ok.1 h
  obtain ⟨maximum, afterMaximum, hMaximum, h⟩ := bind_eq_ok.1 h
  obtain ⟨hOk, rfl⟩ := accept_eq_ok.1 h
  rw [kind, numericRangeValue_storage hOk]
  refine ⟨rfl, ?_⟩
  rw [ValueStorage.encodeFields, List.append_assoc, List.append_assoc, ← canonical_u64 hMaximum,
    ← canonical_u64 hMinimum]
  exact canonical_unit hUnit

theorem canonical_versionInterval (h : decodeFields .versionInterval fields = .ok (value, rest)) :
    value.kind = .versionInterval ∧ fields = value.storage.encodeFields ++ rest := by
  obtain ⟨minimum, afterMinimum, hMinimum, h⟩ := bind_eq_ok.1 h
  obtain ⟨minInclusive, afterMinInclusive, hMinInclusive, h⟩ := bind_eq_ok.1 h
  obtain ⟨maximum, afterMaximum, hMaximum, h⟩ := bind_eq_ok.1 h
  obtain ⟨maxInclusive, afterMaxInclusive, hMaxInclusive, h⟩ := bind_eq_ok.1 h
  obtain ⟨hOk, rfl⟩ := accept_eq_ok.1 h
  rw [kind, versionIntervalValue_storage hOk]
  refine ⟨rfl, ?_⟩
  rw [ValueStorage.encodeFields, List.append_assoc, List.append_assoc, List.append_assoc,
    ← canonical_bool hMaxInclusive, ← Version.canonical hMaximum, ← canonical_bool hMinInclusive]
  exact Version.canonical hMinimum

theorem canonical_tuple (h : decodeFields .tuple fields = .ok (value, rest)) :
    value.kind = .tuple ∧ fields = value.storage.encodeFields ++ rest := by
  obtain ⟨tuple, tail, hTuple, h⟩ := bind_eq_ok.1 h
  obtain ⟨hOk, rfl⟩ := accept_eq_ok.1 h
  rw [kind, tupleValueOf_storage hOk]
  exact ⟨rfl, Ports.canonical_tuple hTuple⟩

theorem canonical_opaquePayload (h : decodeFields .opaquePayload fields = .ok (value, rest)) :
    value.kind = .opaquePayload ∧ fields = value.storage.encodeFields ++ rest := by
  obtain ⟨encoding, afterEncoding, hEncoding, h⟩ := bind_eq_ok.1 h
  obtain ⟨payload, afterPayload, hPayload, h⟩ := bind_eq_ok.1 h
  obtain ⟨hOk, rfl⟩ := accept_eq_ok.1 h
  rw [kind, opaqueValue_storage hOk]
  refine ⟨rfl, ?_⟩
  rw [ValueStorage.encodeFields, List.append_assoc, ← canonical_bytes (by decide) hPayload]
  exact canonical_text (by decide) hEncoding

/-! The four kinds whose factory sorts. -/

theorem canonical_protocolSet_iff (h : decodeFields .protocolSet fields = .ok (value, rest)) :
    value.kind = .protocolSet ∧ (fields = value.storage.encodeFields ++ rest ↔
      fieldsInOrder .protocolSet fields = true) := by
  obtain ⟨codes, hOk, hCount, hFields, hOrder⟩ := counted_list canonical_u16 h
  have hStorage := protocolSetValue_storage hOk
  have hFormed := value.canonical
  rw [hStorage] at hFormed
  simp only [ValueStorage.wellFormed, Bool.and_eq_true] at hFormed
  have hMax : (codes.map ProtocolId.mk).length ≤ kMaxProtocolsInSet := by
    rwa [List.length_map]
  have hSorted := @sorted_list _ _ _ _ _ (by decide) delimited_protocol _ hMax
    (fun _ _ => trivial) hFormed.2 (sortBy_of_increasing protocolLt_total) rest
  rw [kind, hStorage]
  refine ⟨rfl, ?_⟩
  rw [fieldsInOrder, hOrder, ← increasing_map, ← hSorted, List.length_map, List.flatMap_map,
    ← hFields, ValueStorage.encodeFields, List.append_assoc]

theorem canonical_tupleSet_iff (h : decodeFields .tupleSet fields = .ok (value, rest)) :
    value.kind = .tupleSet ∧ (fields = value.storage.encodeFields ++ rest ↔
      fieldsInOrder .tupleSet fields = true) := by
  obtain ⟨tuples, hOk, hMax, hFields, hOrder⟩ := counted_list Ports.canonical_tuple h
  have hStorage := tupleSetValue_storage hOk
  have hFormed := value.canonical
  rw [hStorage] at hFormed
  simp only [ValueStorage.wellFormed, Bool.and_eq_true] at hFormed
  have hSorted := @sorted_list _ _ _ _ _ (by decide) encodeTuple_delimited _ hMax
    (ValueStorage.arities hFormed.1.2) hFormed.2 (sortBy_of_increasing tupleLt_total) rest
  rw [kind, hStorage]
  refine ⟨rfl, ?_⟩
  rw [fieldsInOrder, hOrder, ← hSorted, ← hFields, ValueStorage.encodeFields, List.append_assoc]

theorem canonical_record_iff (h : decodeFields .record fields = .ok (value, rest)) :
    value.kind = .record ∧ (fields = value.storage.encodeFields ++ rest ↔
      fieldsInOrder .record fields = true) := by
  obtain ⟨items, hOk, hMax, hFields, hOrder⟩ := counted_list canonical_field h
  have hStorage := recordValue_storage hOk
  have hFormed := value.canonical
  rw [hStorage] at hFormed
  simp only [ValueStorage.wellFormed, Bool.and_eq_true] at hFormed
  -- names may be compared but fields are not told apart by the comparison
  have hKept : increasing recordFieldLt items = true → sortBy recordFieldLt items = items :=
    fun hInc => sortBy_eq_self (((increasing_iff_pairwise
      (fun a b c => bytesLt_total.trans a.name b.name c.name) _).1 hInc).imp
      fun hab => bytesLt_total.asymm hab)
  have hSorted := @sorted_list _ _ _ _ _ (by decide) encodeField_delimited _ hMax
    (List.all_eq_true.1 hFormed.1.2) hFormed.2 hKept rest
  rw [kind, hStorage]
  refine ⟨rfl, ?_⟩
  rw [fieldsInOrder, hOrder, ← hSorted, ← hFields, ValueStorage.encodeFields, List.append_assoc]

theorem canonical_enumSet_iff (h : decodeFields .enumSet fields = .ok (value, rest)) :
    value.kind = .enumSet ∧ (fields = value.storage.encodeFields ++ rest ↔
      fieldsInOrder .enumSet fields = true) := by
  obtain ⟨domain, list, hDomain, hRest⟩ := bind_eq_ok.1 h
  obtain ⟨codes, hOk, hMax, hList, hOrder⟩ := counted_list canonical_u32 hRest
  have hStorage := enumerationSetValue_storage hOk
  have hFormed := value.canonical
  rw [hStorage] at hFormed
  simp only [ValueStorage.wellFormed, Bool.and_eq_true] at hFormed
  have hSorted := @sorted_list _ _ _ _ _ (by decide) delimited_u32 _ hMax
    (fun _ _ => trivial) hFormed.2 (sortBy_of_increasing codeLt_total) rest
  rw [kind, hStorage]
  refine ⟨rfl, ?_⟩
  rw [fieldsInOrder, hDomain, canonical_enumDomain hDomain, ValueStorage.encodeFields,
    List.append_assoc, List.append_assoc, List.append_cancel_left_eq]
  dsimp only
  rw [hOrder, ← hSorted, ← hList]

/-- What the decoder of the fields accepts is written again unless the factory moved an item. -/
theorem fields_canonical_iff {kind : ValueKind} (h : decodeFields kind fields = .ok (value, rest)) :
    value.kind = kind ∧
      (fields = value.storage.encodeFields ++ rest ↔ fieldsInOrder kind fields = true) := by
  cases kind with
  | absent =>
      cases h
      exact ⟨rfl, iff_of_true rfl rfl⟩
  | boolean => exact (canonical_boolean h).imp_right (iff_of_true · rfl)
  | integer => exact (canonical_integer h).imp_right (iff_of_true · rfl)
  | quantity => exact (canonical_quantity h).imp_right (iff_of_true · rfl)
  | enumeration => exact (canonical_enumeration h).imp_right (iff_of_true · rfl)
  | bitSet => exact (canonical_bitSet h).imp_right (iff_of_true · rfl)
  | numericSet => exact (canonical_numericSet h).imp_right (iff_of_true · rfl)
  | numericRange => exact (canonical_numericRange h).imp_right (iff_of_true · rfl)
  | versionInterval => exact (canonical_versionInterval h).imp_right (iff_of_true · rfl)
  | protocolSet => exact canonical_protocolSet_iff h
  | tuple => exact (canonical_tuple h).imp_right (iff_of_true · rfl)
  | tupleSet => exact canonical_tupleSet_iff h
  | record => exact canonical_record_iff h
  | opaquePayload => exact (canonical_opaquePayload h).imp_right (iff_of_true · rfl)
  | enumSet => exact canonical_enumSet_iff h

end Fields

end CapabilityValue

/-! ## Values -/

/-- The items of the value that the bytes start with are written in order, where the kind is
one whose items are sorted after they were read. -/
def itemsInOrder : Bytes → Bool
  | [] => true
  | tag :: fields =>
      match ValueKind.ofByte tag with
      | some kind => fieldsInOrder kind fields
      | none => true

theorem ValueKind.toByte_of_ofByte {tag : UInt8} {kind : ValueKind}
    (h : ValueKind.ofByte tag = some kind) : kind.toByte = tag := by
  have hByte := List.find?_some h
  rwa [beq_iff_eq] at hByte

/-- The accepted bytes are the encoding of the decoded value, followed by what was not read,
exactly when the items of a protocol set, a tuple set, a record or an enumeration set are
written in increasing order. -/
theorem decode_canonical_iff {bytes rest : Bytes} {value : CapabilityValue}
    (h : CapabilityValue.decode bytes = .ok (value, rest)) :
    value.encode ++ rest = bytes ↔ itemsInOrder bytes = true := by
  obtain ⟨tag, fields, hTag, hRest⟩ := bind_eq_ok.1 h
  obtain rfl := canonical_u8 hTag
  cases hKind : ValueKind.ofByte tag with
  | none =>
      rw [hKind] at hRest
      cases hRest
  | some kind =>
      rw [hKind] at hRest
      obtain ⟨hSame, hFields⟩ := CapabilityValue.fields_canonical_iff hRest
      have hOrder : itemsInOrder (u8 tag ++ fields) = fieldsInOrder kind fields := by
        show (match ValueKind.ofByte tag with
          | some kind => fieldsInOrder kind fields
          | none => true) = _
        rw [hKind]
      rw [hOrder, ← hFields, CapabilityValue.encode, hSame, ValueKind.toByte_of_ofByte hKind,
        List.append_assoc, List.append_cancel_left_eq]
      exact eq_comm

/-- Two protocols written in order, in front of one more byte. -/
theorem ordered_protocols_canonical :
    ∃ value, CapabilityValue.decode [9, 2, 0, 0, 0, 1, 0, 2, 0, 7] = .ok (value, [7]) ∧
      (value.encode ++ [7] = [9, 2, 0, 0, 0, 1, 0, 2, 0, 7] ↔
        itemsInOrder [9, 2, 0, 0, 0, 1, 0, 2, 0, 7] = true) :=
  have hDecode : CapabilityValue.decode [9, 2, 0, 0, 0, 1, 0, 2, 0, 7] =
      .ok (⟨.protocolSet ⟨[⟨1⟩, ⟨2⟩]⟩, by decide⟩, [7]) := by decide +kernel
  ⟨_, hDecode, decode_canonical_iff hDecode⟩

/-- The protocols 2 and 1 are decoded to the set whose encoding lists 1 and 2. -/
theorem unordered_protocols_accepted :
    ¬ ∀ (bytes rest : Bytes) (value : CapabilityValue),
      CapabilityValue.decode bytes = .ok (value, rest) → value.encode ++ rest = bytes := by
  intro h
  have hDecode : CapabilityValue.decode [9, 2, 0, 0, 0, 2, 0, 1, 0] =
      .ok (⟨.protocolSet ⟨[⟨1⟩, ⟨2⟩]⟩, by decide⟩, []) := by decide +kernel
  exact absurd (h _ _ _ hDecode) (by decide)

end FabricCapability.Ports
