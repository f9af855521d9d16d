import FabricCapability.Ports.Digest
import FabricCapability.Ports.Wire

/-!
# Wire form of publication results and frames

Translation of the reply half of `src/wire.cpp`: `WriteDiffEntry`/`ReadDiffEntry`,
`WriteExplanation`/`ReadExplanation`, `EncodePublicationResult`/`DecodePublicationResult`
and `EncodeFrame`.

The encoder of a result bounds the texts, the entries of the diff and the steps of the
explanation.  It does not bound the values, so the length of its payload is checked only
when the payload is framed.
-/

namespace FabricCapability.Ports

open FabricCapability.Verified.ByteCodec

def kMaxFrameBytes : Nat := 1048576
def kMaxWireDiffEntries : Nat := 4096
def kMaxWireExplanationSteps : Nat := 256

/-! ## Stable enumeration tables -/

def kStatusWire : List PublicationStatus := [.committed, .idempotentReplay, .rejected]

def kDiffKindWire : List CapabilityDiffKind :=
  [.capabilityAdded, .capabilityRemoved, .stateChanged, .valueChanged, .provenanceChanged,
   .evidenceSuperseded, .currentnessChanged, .generationAdvanced, .entityGenerationChanged,
   .entityInvalidated]

theorem mem_kStatusWire (v : PublicationStatus) : v ∈ kStatusWire := by cases v <;> decide
theorem mem_kDiffKindWire (v : CapabilityDiffKind) : v ∈ kDiffKindWire := by cases v <;> decide

/-- `WriteErrorCode`: the enumerator itself, in sixteen bits. -/
def writeErrorCode (code : ErrorCode) : Outcome Bytes :=
  if code.ctorIdx > ErrorCode.internalFailure.ctorIdx then
    failure .malformedEncoding (txt "error code is outside the encoded range") []
  else .ok (u16 (UInt16.ofNat code.ctorIdx))

def readErrorCode : ByteReader ErrorCode := do
  let raw ← readU16
  if raw.toNat > ErrorCode.internalFailure.ctorIdx then
    fail (encodingError .malformedEncoding (txt "unknown error code") (decimal raw.toNat))
  else pure (ErrorCode.ofNat raw.toNat)

/-! ## Identifiers that may be missing -/

def readOptionalEntityId : ByteReader EntityId := do
  let text ← readText kMaxEntityIdLength
  if text.isEmpty then pure .unset else accept (EntityId.parse text)

def readOptionalCapabilityId : ByteReader CapabilityId := do
  let text ← readText kMaxCapabilityIdLength
  if text.isEmpty then pure .unset else accept (CapabilityId.parse text)

/-! ## Diff entries -/

/-- A flag and, when it is set, the value. -/
def writeFlaggedValue (hasValue : Bool) (value : CapabilityValue) : Bytes :=
  bool hasValue ++ if hasValue then value.encode else []

def readFlaggedValue : ByteReader (Bool × CapabilityValue) := do
  let hasValue ← readBool
  if hasValue then do
    let value ← CapabilityValue.decode
    pure (true, value)
  else pure (false, .absent)

def writeDiffEntry (entry : CapabilityDiffEntry) : Outcome Bytes :=
  emit [
    writeText entry.capability.toText kMaxCapabilityIdLength,
    writeEnum kDiffKindWire entry.kind,
    writeEnum kStateWire entry.beforeState,
    writeEnum kStateWire entry.afterState,
    .ok (writeFlaggedValue entry.hasBeforeValue entry.beforeValue),
    .ok (writeFlaggedValue entry.hasAfterValue entry.afterValue),
    writeEnum kProvenanceWire entry.beforeProvenance,
    writeEnum kProvenanceWire entry.afterProvenance,
    .ok (u64 entry.beforeGeneration),
    .ok (u64 entry.afterGeneration),
    writeText entry.detail (kMaxTextLength * 4)]

def readDiffEntry : ByteReader CapabilityDiffEntry := do
  let capability ← readOptionalCapabilityId
  let kind ← readEnum kDiffKindWire (txt "diff kind")
  let beforeState ← readEnum kStateWire (txt "capability state")
  let afterState ← readEnum kStateWire (txt "capability state")
  let before ← readFlaggedValue
  let after ← readFlaggedValue
  let beforeProvenance ← readEnum kProvenanceWire (txt "provenance class")
  let afterProvenance ← readEnum kProvenanceWire (txt "provenance class")
  let beforeGeneration ← readU64
  let afterGeneration ← readU64
  let detail ← readText (kMaxTextLength * 4)
  pure { capability, kind, beforeState, afterState, hasBeforeValue := before.1,
         beforeValue := before.2, hasAfterValue := after.1, afterValue := after.2,
         beforeProvenance, afterProvenance, beforeGeneration, afterGeneration, detail }

/-! ## Explanations -/

/-- A bound on a list that is checked before its length is written. -/
def checkCount (count maxCount : Nat) (message : Bytes) : Outcome Bytes :=
  if count > maxCount then failure .tooManyItems message [] else .ok []

def writeField (field : Bytes × Bytes) : Outcome Bytes :=
  emit [writeText field.1 kMaxTextLength, writeText field.2 (kMaxTextLength * 4)]

def readNamedField : ByteReader (Bytes × Bytes) := do
  let name ← readText kMaxTextLength
  let value ← readText (kMaxTextLength * 4)
  pure (name, value)

def writeStep (step : ExplanationStep) : Outcome Bytes :=
  emit [
    writeText step.code (kMaxTextLength * 2),
    writeText step.summary (kMaxTextLength * 4),
    checkCount step.fields.length kMaxTextFieldsPerExplanation
      (txt "explanation step has too many fields"),
    .ok (sizeU32 step.fields.length),
    emit (step.fields.map writeField)]

def readStep : ByteReader ExplanationStep := do
  let code ← readText (kMaxTextLength * 2)
  let summary ← readText (kMaxTextLength * 4)
  let fieldCount ← readListCount kMaxTextFieldsPerExplanation
    (txt "encoded explanation step has too many fields")
  let fields ← readTimes readNamedField fieldCount
  pure { code, summary, fields }

def writeExplanation (explanation : Explanation) : Outcome Bytes :=
  emit [
    writeText explanation.code (kMaxTextLength * 2),
    writeText explanation.summary (kMaxTextLength * 4),
    checkCount explanation.steps.length kMaxWireExplanationSteps
      (txt "explanation has too many steps"),
    .ok (sizeU32 explanation.steps.length),
    emit (explanation.steps.map writeStep)]

def readExplanation : ByteReader Explanation := do
  let code ← readText (kMaxTextLength * 2)
  let summary ← readText (kMaxTextLength * 4)
  let stepCount ← readListCount kMaxWireExplanationSteps
    (txt "encoded explanation has too many steps")
  let steps ← readTimes readStep stepCount
  pure { code, summary, steps }

/-! ## Results -/

/-- `ReadDigestBytes`; the loop always delivers 32 bytes. -/
def readDigestBytes : ByteReader Digest := do
  let bytes ← readTimes readU8 kDigestBytes
  match Digest.ofBytes bytes with
  | some digest => pure digest
  | none => pure .zero

/-- A `std::size_t` counter, as `ByteWriter::U64` takes it. -/
def sizeU64 (n : Nat) : Bytes := u64 (UInt64.ofNat n)

def writeDiff (diff : CapabilityDiff) : Outcome Bytes :=
  emit [
    writeText diff.entity.toText kMaxEntityIdLength,
    .ok (u64 diff.beforeEntityGeneration),
    .ok (u64 diff.afterEntityGeneration),
    .ok (u64 diff.beforeSetGeneration),
    .ok (u64 diff.afterSetGeneration),
    .ok diff.beforeDigest.bytes,
    .ok diff.afterDigest.bytes,
    checkCount diff.entries.length kMaxWireDiffEntries
      (txt "publication diff has too many entries"),
    .ok (sizeU32 diff.entries.length),
    emit (diff.entries.map writeDiffEntry)]

def readDiff : ByteReader CapabilityDiff := do
  let entity ← readOptionalEntityId
  let beforeEntityGeneration ← readU64
  let afterEntityGeneration ← readU64
  let beforeSetGeneration ← readU64
  let afterSetGeneration ← readU64
  let beforeDigest ← readDigestBytes
  let afterDigest ← readDigestBytes
  let entryCount ← readListCount kMaxWireDiffEntries
    (txt "encoded diff has too many entries")
  let entries ← readTimes readDiffEntry entryCount
  pure { entity, beforeEntityGeneration, afterEntityGeneration, beforeSetGeneration,
         afterSetGeneration, beforeDigest, afterDigest, entries }

def encodePublicationResult (result : PublicationResult) : Outcome Bytes :=
  emit [
    writeEnum kStatusWire result.status,
    writeErrorCode result.code,
    writeText result.message (kMaxTextLength * 4),
    writeText result.publication.value kMaxPublicationIdLength,
    writeText result.attempt.value kMaxAttemptIdLength,
    writeText result.entity.toText kMaxEntityIdLength,
    .ok (u64 result.entityGeneration),
    .ok (u64 result.previousSetGeneration),
    .ok (u64 result.newSetGeneration),
    .ok (u64 result.registryGeneration),
    .ok (sizeU64 result.claimsApplied),
    .ok (sizeU64 result.claimsWithdrawn),
    .ok (sizeU64 result.capabilitiesAdded),
    .ok (sizeU64 result.capabilitiesRemoved),
    .ok (sizeU64 result.capabilitiesChanged),
    .ok result.setDigest.bytes,
    writeDiff result.diff,
    writeExplanation result.explanation]

def decodePublicationResultFields : ByteReader PublicationResult := do
  let status ← readEnum kStatusWire (txt "publication status")
  let code ← readErrorCode
  let message ← readText (kMaxTextLength * 4)
  let publication ← readOptionalToken .publicationId kMaxPublicationIdLength
  let attempt ← readOptionalToken .mutationAttemptId kMaxAttemptIdLength
  let entity ← readOptionalEntityId
  let entityGeneration ← readU64
  let previousSetGeneration ← readU64
  let newSetGeneration ← readU64
  let registryGeneration ← readU64
  let claimsApplied ← readU64
  let claimsWithdrawn ← readU64
  let capabilitiesAdded ← readU64
  let capabilitiesRemoved ← readU64
  let capabilitiesChanged ← readU64
  let setDigest ← readDigestBytes
  let diff ← readDiff
  let explanation ← readExplanation
  pure { status, code, message, publication, attempt, entity, entityGeneration,
         previousSetGeneration, newSetGeneration, registryGeneration,
         claimsApplied := claimsApplied.toNat, claimsWithdrawn := claimsWithdrawn.toNat,
         capabilitiesAdded := capabilitiesAdded.toNat,
         capabilitiesRemoved := capabilitiesRemoved.toNat,
         capabilitiesChanged := capabilitiesChanged.toNat, diff, explanation, setDigest }

def decodePublicationResult (payload : Bytes) : Outcome PublicationResult :=
  readWhole decodePublicationResultFields payload

/-! ## Frames -/

inductive WireMessageType where
  | hello | helloAck | publish | publishAck | fence | fenceAck | status | statusAck | goodbye
  | errorResponse
  deriving DecidableEq, Repr

def kMessageTypeWire : List WireMessageType :=
  [.hello, .helloAck, .publish, .publishAck, .fence, .fenceAck, .status, .statusAck, .goodbye,
   .errorResponse]

def kFrameMagic : Bytes := txt "FCRF"
def kProtocolVersion : UInt16 := 1

/-- The header of a frame, which the checksum covers with the payload. -/
def frameHeader (type : WireMessageType) (flags : UInt32) (requestId : UInt64)
    (length : UInt32) : Bytes :=
  kFrameMagic ++ u16 kProtocolVersion ++ u16 (UInt16.ofNat (wireCodeOf kMessageTypeWire type)) ++
    u32 flags ++ u64 requestId ++ u32 length

def encodeFrame (type : WireMessageType) (flags : UInt32) (requestId : UInt64)
    (payload : Bytes) : Outcome Bytes :=
  if payload.length > kMaxFrameBytes then
    failure .frameTooLarge (txt "frame payload exceeds the bound") (decimal payload.length)
  else if wireCodeOf kMessageTypeWire type ≥ kMessageTypeWire.length then
    failure .frameTypeUnknown (txt "unknown message type") []
  else
    match checkedU32 payload.length with
    | .error _ =>
        failure .frameTooLarge (txt "frame payload length cannot be encoded") []
    | .ok length =>
        let covered := frameHeader type flags requestId length ++ payload
        .ok (covered ++ u32 (crc32 covered))

/-- A frame is built exactly when its payload is within the frame bound. -/
theorem encodeFrame_isOk {type : WireMessageType} {flags : UInt32} {requestId : UInt64}
    {payload : Bytes} :
    (∃ frame, encodeFrame type flags requestId payload = .ok frame) ↔
      payload.length ≤ kMaxFrameBytes := by
  have hType : ¬wireCodeOf kMessageTypeWire type ≥ kMessageTypeWire.length := by
    cases type <;> decide
  unfold encodeFrame
  by_cases hLength : payload.length > kMaxFrameBytes
  · rw [if_pos hLength]
    simp [failure, hLength]
  · have hWord : ¬payload.length > 0xFFFFFFFF := by
      simp only [kMaxFrameBytes] at hLength
      omega
    rw [if_neg hLength, if_neg hType, checkedU32, if_neg hWord]
    simp [Nat.not_lt.1 hLength]

end FabricCapability.Ports
