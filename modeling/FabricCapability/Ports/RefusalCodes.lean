import FabricCapability.Ports.RejectionCodes
import FabricCapability.Ports.Wire

/-!
# The codes of a request that is not read

A coordinator that cannot read a request refuses it with the code of the decoder, and no
check of the decoder has a code of stage 9.

## Main results

* `decodePublicationRequest_code`: the codes of the request decoder.
-/

namespace FabricCapability.Ports

open FabricCapability.Verified.ByteCodec

/-! ## Readers -/

/-- Wherever the reader fails, it fails with another code. -/
def OtherReads {α : Type} (rd : ByteReader α) : Prop := ∀ input, OtherCode (rd input)

section Readers

variable {α β : Type}

theorem OtherCode.dite {c : Prop} [Decidable c] {x : c → Outcome α} {y : ¬c → Outcome α}
    (hx : ∀ h, OtherCode (x h)) (hy : ∀ h, OtherCode (y h)) : OtherCode (dite c x y) := by
  by_cases h : c
  · rw [dif_pos h]
    exact hx h
  · rw [dif_neg h]
    exact hy h

/-- An error that is passed on. -/
theorem OtherCode.passed {x : Outcome β} {e : Error} (hx : OtherCode x) (h : x = .error e) :
    OtherCode (.error e : Outcome α) := by
  intro e' hError
  obtain rfl := Except.error.inj hError
  exact hx _ h

theorem OtherReads.pure (a : α) : OtherReads (Pure.pure a : ByteReader α) :=
  fun input => .ok (a, input)

theorem OtherReads.bind {rd : ByteReader α} {f : α → ByteReader β} (h : OtherReads rd)
    (hf : ∀ a, OtherReads (f a)) : OtherReads (rd >>= f) :=
  fun input => OtherCode.bind (h input) fun read => hf read.1 read.2

theorem OtherReads.failed {code : ErrorCode} {message detail : Bytes}
    (h : code ∉ generationCodes) :
    OtherReads (fail { code, message, detail } : ByteReader α) := by
  intro input e hError
  obtain rfl := Except.error.inj hError
  exact h

theorem OtherReads.ite {c : Prop} [Decidable c] {x y : ByteReader α} (hx : OtherReads x)
    (hy : OtherReads y) : OtherReads (if c then x else y) := by
  by_cases h : c
  · rwa [if_pos h]
  · rwa [if_neg h]

theorem OtherReads.accepted {x : Outcome α} (h : OtherCode x) : OtherReads (accept x) := by
  cases x with
  | ok a => exact fun input => .ok (a, input)
  | error e =>
      obtain ⟨code, message, detail⟩ := e
      exact .failed (h _ rfl)

theorem OtherReads.exactly (n : Nat) {code : ErrorCode} {message detail : Bytes}
    (h : code ∉ generationCodes) :
    OtherReads (readExact n { code, message, detail } : ByteReader Bytes) := by
  intro input
  unfold readExact
  split
  · exact OtherReads.failed (α := Bytes) h input
  · exact .ok _

theorem OtherReads.left : OtherReads (remaining : ByteReader Nat) :=
  fun _ => .ok _

theorem OtherReads.times {rd : ByteReader α} (h : OtherReads rd) (n : Nat) :
    OtherReads (readTimes rd n) := by
  induction n with
  | zero => exact .pure []
  | succ n ih => exact .bind h fun _ => .bind ih fun _ => .pure _

end Readers

/-! ## Fields -/

theorem readU8_code : OtherReads readU8 :=
  .bind (.exactly 1 (by decide)) fun _ => .pure _

theorem readU16_code : OtherReads readU16 :=
  .bind (.exactly 2 (by decide)) fun _ => .pure _

theorem readU32_code : OtherReads readU32 :=
  .bind (.exactly 4 (by decide)) fun _ => .pure _

theorem readU64_code : OtherReads readU64 :=
  .bind (.exactly 8 (by decide)) fun _ => .pure _

theorem readI64_code : OtherReads readI64 :=
  .bind readU64_code fun _ => .pure _

theorem readBool_code : OtherReads readBool :=
  .bind readU8_code fun _ => .ite (.failed (by decide)) (.pure _)

theorem readBytes_code (maxLength : Nat) : OtherReads (readBytes maxLength) :=
  .bind readU32_code fun _ => .ite (.failed (by decide)) <|
    .bind .left fun _ => .exactly _ (by decide)

theorem rejectControl_code (text : Bytes) : OtherCode (rejectControl text) := by
  unfold rejectControl
  cases text.find? isControl with
  | some raw => exact .failure (by decide)
  | none => exact .ok text

theorem readText_code (maxLength : Nat) : OtherReads (readText maxLength) :=
  .bind readU32_code fun _ => .ite (.failed (by decide)) <|
    .bind .left fun _ => .bind (.exactly _ (by decide)) fun text =>
      .accepted (rejectControl_code text)

theorem readEnum_code {α : Type} (table : List α) (what : Bytes) :
    OtherReads (readEnum table what) := by
  refine .bind readU8_code fun raw => ?_
  cases table[raw.toNat]? with
  | none => exact .failed (by decide)
  | some value => exact .pure value

theorem readListCount_code (maxCount : Nat) (message : Bytes) :
    OtherReads (readListCount maxCount message) :=
  .bind readU32_code fun _ => .ite (.failed (by decide)) (.pure _)

/-! ## Identifiers -/

theorem tokenFailure_code (what detail : Bytes) : OtherCode (tokenFailure what detail) :=
  .failure (by decide)

theorem scanLowerToken_code (what : Bytes) (previous : Bool) (text : Bytes) :
    OtherCode (scanLowerToken what previous text) := by
  induction text generalizing previous with
  | nil => exact .ok ()
  | cons ch rest ih =>
      exact .ite (tokenFailure_code _ _) (.ite (tokenFailure_code _ _) (ih _))

theorem scanHexToken_code (what : Bytes) (previous : Bool) (text : Bytes) :
    OtherCode (scanHexToken what previous text) := by
  induction text generalizing previous with
  | nil => exact .ok ()
  | cons ch rest ih =>
      exact .ite (tokenFailure_code _ _) (.ite (tokenFailure_code _ _) (ih _))

theorem scanPrintableToken_code (what text : Bytes) :
    OtherCode (scanPrintableToken what text) := by
  induction text with
  | nil => exact .ok ()
  | cons ch rest ih => exact .ite (tokenFailure_code _ _) ih

theorem validateToken_code (text : Bytes) (charset : Charset) (minLength maxLength : Nat)
    (what : Bytes) : OtherCode (validateToken text charset minLength maxLength what) := by
  unfold validateToken
  refine .ite (tokenFailure_code _ _) ?_
  cases charset with
  | lowerToken =>
      refine .ite (tokenFailure_code _ _) (.ite (tokenFailure_code _ _) ?_)
      exact scanLowerToken_code what false text
  | hexToken => exact .ite (tokenFailure_code _ _) (scanHexToken_code what false text)
  | printableToken => exact .ite (tokenFailure_code _ _) (scanPrintableToken_code what text)

theorem parseToken_code {tag : TokenTag} (text : Bytes) :
    OtherCode (TokenId.parse text : Outcome (TokenId tag)) := by
  unfold TokenId.parse
  split
  · exact .ok _
  · rename_i e hInvalid
    exact .passed (validateToken_code _ _ _ _ _) hInvalid

theorem parseEntityId_code (text : Bytes) : OtherCode (EntityId.parse text) := by
  unfold EntityId.parse
  split
  · exact .failure (by decide)
  · refine .bind ?_ fun kind => ?_
    · unfold parseFabricEntityKind
      split
      · exact .ok _
      · exact .failure (by decide)
    · unfold EntityId.create
      refine .dite (fun _ => .failure (by decide)) fun _ => ?_
      split
      · rename_i e hInvalid
        exact .passed (validateToken_code _ _ _ _ _) hInvalid
      · exact .ok _

theorem validateNamespaceSegments_code (segments : List Bytes) :
    OtherCode (validateNamespaceSegments segments) := by
  induction segments with
  | nil => exact .ok ()
  | cons segment segments ih => exact .bind (validateToken_code _ _ _ _ _) fun _ => ih

theorem validateNamespace_code (text : Bytes) : OtherCode (validateNamespace text) := by
  unfold validateNamespace
  refine .guard (by decide) (.guard (by decide) (.guard (by decide) (.guard (by decide) ?_)))
  exact validateNamespaceSegments_code _

theorem validateCapabilityParts_code (ns : CapabilityNamespaceId) (localName : Bytes) :
    OtherCode (validateCapabilityParts ns localName) := by
  unfold validateCapabilityParts
  have hRest : OtherCode (do
      validateToken localName .lowerToken 1 kMaxCapabilityLocalLength
        (txt "capability local name")
      let rendered := ns.text ++ dot :: localName
      if rendered.length > kMaxCapabilityIdLength then
        failure .malformedIdentifier (txt "capability identifier is too long") rendered) := by
    refine .bind (validateToken_code _ _ _ _ _) fun _ => ?_
    exact .ite (.failure (by decide)) (.ok ())
  exact .ite (.bind (.failure (by decide)) fun _ => hRest) hRest

theorem parseCapabilityId_code (text : Bytes) : OtherCode (CapabilityId.parse text) := by
  unfold CapabilityId.parse
  refine .guard (by decide) (.guard (by decide) (.bind ?_ fun ns => ?_))
  · unfold CapabilityNamespaceId.parse
    split
    · exact .ok _
    · rename_i e hInvalid
      exact .passed (validateNamespace_code _) hInvalid
  · unfold CapabilityId.create
    split
    · rename_i e hInvalid
      exact .passed (validateCapabilityParts_code _ _) hInvalid
    · exact .ok _

theorem readToken_code (tag : TokenTag) (maxLength : Nat) :
    OtherReads (readToken tag maxLength) :=
  .bind (readText_code maxLength) fun text => .accepted (parseToken_code text)

theorem readOptionalToken_code (tag : TokenTag) (maxLength : Nat) :
    OtherReads (readOptionalToken tag maxLength) :=
  .bind (readText_code maxLength) fun text => .ite (.pure _) (.accepted (parseToken_code text))

theorem readCapabilityId_code : OtherReads readCapabilityId :=
  .bind (readText_code _) fun text => .accepted (parseCapabilityId_code text)

theorem readEntityId_code : OtherReads readEntityId :=
  .bind (readText_code _) fun text => .accepted (parseEntityId_code text)

/-! ## The factories -/

theorem requireQuantityUnit_code (unit : QuantityUnit) (what : Bytes) :
    OtherCode (requireQuantityUnit unit what) := by
  unfold requireQuantityUnit
  exact .guard (by decide) (.ok ())

namespace CapabilityValue

theorem quantityValue_code (value : UInt64) (unit : QuantityUnit) :
    OtherCode (quantityValue value unit) := by
  unfold quantityValue
  split
  · rename_i e hUnit
    exact .passed (requireQuantityUnit_code _ _) hUnit
  · exact .dite (fun _ => .failure (by decide)) fun _ => .ok _

theorem enumeration_code (domain : EnumDomainId) (code : UInt32) :
    OtherCode (enumeration domain code) :=
  .dite (fun _ => .ok _) fun _ => .failure (by decide)

theorem bitSetValue_code (bitCount : UInt32) (words : List UInt64) :
    OtherCode (bitSetValue bitCount words) := by
  refine .dite (fun _ => .failure (by decide)) fun _ => .guard (by decide) ?_
  exact .dite (fun _ => .ok _) fun _ => .failure (by decide)

theorem numericSetValue_code (unit : QuantityUnit) (values : List UInt64) :
    OtherCode (numericSetValue unit values) := by
  unfold numericSetValue
  split
  · rename_i e hUnit
    exact .passed (requireQuantityUnit_code _ _) hUnit
  · refine .dite (fun _ => .failure (by decide)) fun _ => ?_
    refine .dite (fun _ => .failure (by decide)) fun _ => ?_
    split
    · rename_i e hBound
      unfold checkNumericElements at hBound
      split at hBound
      · exact .passed (.failure (by decide)) hBound
      · cases hBound
    · exact .dite (fun _ => .failure (by decide)) fun _ => .ok _

theorem numericRangeValue_code (unit : QuantityUnit) (minimum maximum : UInt64) :
    OtherCode (numericRangeValue unit minimum maximum) := by
  unfold numericRangeValue
  split
  · rename_i e hUnit
    exact .passed (requireQuantityUnit_code _ _) hUnit
  · refine .dite (fun _ => .failure (by decide)) fun _ => ?_
    exact .dite (fun _ => .failure (by decide)) fun _ => .ok _

theorem versionIntervalValue_code (minimum : Version) (minInclusive : Bool) (maximum : Version)
    (maxInclusive : Bool) :
    OtherCode (versionIntervalValue minimum minInclusive maximum maxInclusive) := by
  refine .dite (fun _ => .failure (by decide)) fun _ => ?_
  refine .dite (fun _ => .failure (by decide)) fun _ => ?_
  exact .dite (fun _ => .failure (by decide)) fun _ => .ok _

theorem protocolSetValue_code (protocols : List ProtocolId) :
    OtherCode (protocolSetValue protocols) := by
  refine .dite (fun _ => .failure (by decide)) fun _ => ?_
  refine .dite (fun _ => .failure (by decide)) fun _ => ?_
  refine .dite (fun _ => .failure (by decide)) fun _ => ?_
  exact .dite (fun _ => .failure (by decide)) fun _ => .ok _

theorem tupleValueOf_code (elements : List ScalarValue) : OtherCode (tupleValueOf elements) :=
  .dite (fun _ => .ok _) fun _ => .failure (by decide)

theorem checkTupleArities_code (arity : Nat) (tuples : List TupleValue) :
    OtherCode (checkTupleArities arity tuples) := by
  induction tuples with
  | nil => exact .ok ()
  | cons tuple rest ih => exact .guard (by decide) (.ite ih (.failure (by decide)))

theorem tupleSetValue_code (tuples : List TupleValue) : OtherCode (tupleSetValue tuples) := by
  refine .dite (fun _ => .failure (by decide)) fun _ => ?_
  refine .dite (fun _ => .failure (by decide)) fun _ => ?_
  split
  · rename_i e hArity
    exact .passed (checkTupleArities_code _ _) hArity
  · exact .dite (fun _ => .failure (by decide)) fun _ => .ok _

theorem enumerationSetValue_code (domain : EnumDomainId) (codes : List UInt32) :
    OtherCode (enumerationSetValue domain codes) := by
  refine .dite (fun _ => .failure (by decide)) fun _ => ?_
  refine .dite (fun _ => .failure (by decide)) fun _ => ?_
  refine .dite (fun _ => .failure (by decide)) fun _ => ?_
  exact .dite (fun _ => .failure (by decide)) fun _ => .ok _

theorem checkFieldNames_code (fields : List RecordField) : OtherCode (checkFieldNames fields) := by
  induction fields with
  | nil => exact .ok ()
  | cons field rest ih => exact .bind (validateToken_code _ _ _ _ _) fun _ => ih

theorem recordValue_code (fields : List RecordField) : OtherCode (recordValue fields) := by
  refine .dite (fun _ => .failure (by decide)) fun _ => ?_
  refine .dite (fun _ => .failure (by decide)) fun _ => ?_
  split
  · rename_i e hNames
    exact .passed (checkFieldNames_code _) hNames
  · split
    · exact .failure (by decide)
    · exact .ok _

theorem opaqueValue_code (encoding bytes : Bytes) : OtherCode (opaqueValue encoding bytes) := by
  unfold opaqueValue
  split
  · rename_i e hName
    exact .passed (validateToken_code _ _ _ _ _) hName
  · exact .dite (fun _ => .failure (by decide)) fun _ => .ok _

end CapabilityValue

/-! ## Values -/

theorem decodeScalar_code : OtherReads ScalarValue.decode := by
  refine .bind readU8_code fun kind => ?_
  split
  · exact .bind readBool_code fun _ => .pure _
  · exact .bind readI64_code fun _ => .ite (.failed (by decide)) (.pure _)
  · exact .bind readU64_code fun _ => .ite (.failed (by decide)) (.pure _)
  · refine .bind (readText_code _) fun text => .bind (.accepted (parseToken_code text)) fun _ => ?_
    refine .bind readU32_code fun code => .accepted ?_
    exact .dite (fun _ => .ok _) fun _ => .failure (by decide)
  · refine .bind (readText_code _) fun text => .accepted ?_
    exact .dite (fun _ => .ok _) fun _ => .failure (by decide)
  · exact .failed (by decide)

theorem decodeVersion_code : OtherReads Version.decode := by
  refine .bind readU8_code fun count => .ite (.failed (by decide)) ?_
  refine .bind (.times ?_ _) fun components => .accepted ?_
  · exact .bind readU32_code fun _ => .ite (.failed (by decide)) (.pure _)
  · exact .dite (fun _ => .ok _) fun _ => .failure (by decide)

theorem readUnit_code : OtherReads readUnit := by
  refine .bind readU8_code fun tag => ?_
  cases QuantityUnit.ofByte tag with
  | none => exact .failed (by decide)
  | some unit => exact .pure unit

theorem readEnumDomain_code : OtherReads readEnumDomain :=
  .bind (readText_code _) fun text => .accepted (parseToken_code text)

theorem readTuple_code : OtherReads readTuple := by
  refine .bind readU32_code fun arity => .ite (.failed (by decide)) ?_
  exact .bind (.times decodeScalar_code _) fun _ => .pure _

theorem readField_code : OtherReads readField :=
  .bind (readText_code 48) fun _ => .bind decodeScalar_code fun _ => .pure _

theorem readCount_code (maxCount : Nat) (message : Bytes) :
    OtherReads (readCount maxCount message) :=
  .bind readU32_code fun _ => .ite (.failed (by decide)) (.pure _)

theorem decodeFields_code (kind : ValueKind) : OtherReads (CapabilityValue.decodeFields kind) := by
  cases kind with
  | absent => exact .pure _
  | boolean => exact .bind readBool_code fun _ => .pure _
  | integer => exact .bind readI64_code fun _ => .ite (.failed (by decide)) (.pure _)
  | quantity =>
      exact .bind readU64_code fun _ => .bind readUnit_code fun _ =>
        .accepted (CapabilityValue.quantityValue_code _ _)
  | enumeration =>
      exact .bind readEnumDomain_code fun _ => .bind readU32_code fun _ =>
        .accepted (CapabilityValue.enumeration_code _ _)
  | bitSet =>
      refine .bind readU32_code fun _ => .bind readU32_code fun _ => ?_
      refine .ite (.failed (by decide)) (.bind (.times readU64_code _) fun _ => ?_)
      exact .accepted (CapabilityValue.bitSetValue_code _ _)
  | numericSet =>
      refine .bind readUnit_code fun _ => .bind (readCount_code _ _) fun _ => ?_
      refine .bind (.times readU64_code _) fun _ => .ite (.failed (by decide)) ?_
      exact .accepted (CapabilityValue.numericSetValue_code _ _)
  | numericRange =>
      refine .bind readUnit_code fun _ => .bind readU64_code fun _ => ?_
      exact .bind readU64_code fun _ => .accepted (CapabilityValue.numericRangeValue_code _ _ _)
  | versionInterval =>
      refine .bind decodeVersion_code fun _ => .bind readBool_code fun _ => ?_
      refine .bind decodeVersion_code fun _ => .bind readBool_code fun _ => ?_
      exact .accepted (CapabilityValue.versionIntervalValue_code _ _ _ _)
  | protocolSet =>
      refine .bind (readCount_code _ _) fun _ => .bind (.times readU16_code _) fun _ => ?_
      exact .accepted (CapabilityValue.protocolSetValue_code _)
  | tuple =>
      exact .bind readTuple_code fun _ => .accepted (CapabilityValue.tupleValueOf_code _)
  | tupleSet =>
      refine .bind (readCount_code _ _) fun _ => .bind (.times readTuple_code _) fun _ => ?_
      exact .accepted (CapabilityValue.tupleSetValue_code _)
  | record =>
      refine .bind (readCount_code _ _) fun _ => .bind (.times readField_code _) fun _ => ?_
      exact .accepted (CapabilityValue.recordValue_code _)
  | opaquePayload =>
      refine .bind (readText_code 64) fun _ => .bind (readBytes_code _) fun _ => ?_
      exact .accepted (CapabilityValue.opaqueValue_code _ _)
  | enumSet =>
      refine .bind readEnumDomain_code fun _ => .bind (readCount_code _ _) fun _ => ?_
      refine .bind (.times readU32_code _) fun _ => ?_
      exact .accepted (CapabilityValue.enumerationSetValue_code _ _)

theorem decodeValue_code : OtherReads CapabilityValue.decode := by
  refine .bind readU8_code fun tag => ?_
  cases ValueKind.ofByte tag with
  | none => exact .failed (by decide)
  | some kind => exact decodeFields_code kind

/-! ## Requests -/

theorem readAuthority_code : OtherReads readAuthority := by
  refine .bind (readToken_code _ _) fun _ => .bind (readToken_code _ _) fun _ => ?_
  refine .bind (readToken_code _ _) fun _ => .bind (readToken_code _ _) fun _ => ?_
  exact .bind readU64_code fun _ => .pure _

theorem readClaimBody_code (capability : CapabilityId) :
    OtherReads (readClaimBody capability) := by
  refine .bind (readEnum_code _ _) fun _ => .bind ?_ fun _ => ?_
  · exact .bind readBool_code fun _ => .ite decodeValue_code (.pure _)
  · refine .bind (readEnum_code _ _) fun _ => .bind (readEnum_code _ _) fun _ => ?_
    refine .bind (readEnum_code _ _) fun _ => .bind (readEnum_code _ _) fun _ => ?_
    refine .bind (readOptionalToken_code _ _) fun _ => ?_
    refine .bind (readOptionalToken_code _ _) fun _ => ?_
    exact .bind (readOptionalToken_code _ _) fun _ => .pure _

theorem readClaim_code : OtherReads readClaim :=
  .bind readCapabilityId_code fun capability => readClaimBody_code capability

theorem readEdit_code : OtherReads readEdit := by
  refine .bind (readEnum_code _ _) fun _ => .bind readCapabilityId_code fun _ => ?_
  exact .bind readClaim_code fun _ => .pure _

theorem decodePublicationRequestFields_code : OtherReads decodePublicationRequestFields := by
  refine .bind (readEnum_code _ _) fun _ => .bind (readToken_code _ _) fun _ => ?_
  refine .bind (readToken_code _ _) fun _ => .bind readU64_code fun _ => ?_
  refine .bind readAuthority_code fun _ => .bind readEntityId_code fun _ => ?_
  refine .bind readU64_code fun _ => .bind readU64_code fun _ => ?_
  refine .bind (readEnum_code _ _) fun _ => .bind (readOptionalToken_code _ _) fun _ => ?_
  refine .bind (readListCount_code _ _) fun _ => .bind (.times readClaim_code _) fun _ => ?_
  refine .bind (readListCount_code _ _) fun _ => .bind (.times readEdit_code _) fun _ => ?_
  exact .pure _

/-- A request that is not read is refused with a code of its own. -/
theorem decodePublicationRequest_code (payload : Bytes) :
    OtherCode (decodePublicationRequest payload) := by
  refine .bind (decodePublicationRequestFields_code payload) fun read => .bind ?_ fun _ => .ok _
  exact OtherReads.bind .left (fun _ => .ite (.failed (by decide)) (.pure ())) read.2

end FabricCapability.Ports
