import FabricCapability.Ports.IdCodec
import FabricCapability.Ports.Records

/-!
# Wire form of publication requests

Translation of the request codec of `src/wire.cpp`: the stable enumeration
tables, `WriteClaim`/`ReadClaim`, `WriteAuthority`/`ReadAuthority` and
`EncodePublicationRequest`/`DecodePublicationRequest`.

The encoder writes an incremental edit as its operation followed by a claim that
carries the edit's capability.  The decoder reads the operation, a capability, and
then a complete claim.
-/

namespace FabricCapability.Ports

open FabricCapability.Verified.ByteCodec

def kMaxReasonLength : Nat := kMaxTextLength

/-! ## Stable enumeration tables

The wire code of an enumerator is its index in these tables. -/

def kStateWire : List CapabilityState :=
  [.unknown, .supported, .unsupported, .revalidationRequired, .conflicted]

def kModeWire : List PublicationMode := [.fullSnapshot, .incremental, .partialObservation]

def kProvenanceWire : List ProvenanceClass :=
  [.directHardwareEnumeration, .directDeviceOrOsApi, .authoritativeAdministrativeDeclaration,
   .vendorFirmwareOrSdkManifest, .importedStaticProfile, .inferred, .syntheticTestBackend]

def kSourceClassWire : List EvidenceSourceClass :=
  [.hardwareEnumeration, .operatingSystemApi, .driverApi, .firmwareManifest, .vendorSdk,
   .deviceAgent, .switchAgent, .administrativeDeclaration, .importedManifest,
   .syntheticBackend]

def kDurabilityWire : List DurabilityClass := [.processBound, .durable]

def kCoverageWire : List Coverage := [.partialSurface, .fullEnumeration]

def kCurrentnessWire : List EvidenceCurrentness :=
  [.current, .revalidationRequired, .fenced, .superseded, .entityGenerationSuperseded]

def kOperationWire : List IncrementalOperation :=
  [.upsertClaim, .withdrawClaim, .markUnsupported, .markUnknown, .markRevalidationRequired,
   .supersedeSourceEvidence]

theorem mem_kStateWire (v : CapabilityState) : v ∈ kStateWire := by cases v <;> decide
theorem mem_kModeWire (v : PublicationMode) : v ∈ kModeWire := by cases v <;> decide
theorem mem_kProvenanceWire (v : ProvenanceClass) : v ∈ kProvenanceWire := by
  cases v <;> decide
theorem mem_kSourceClassWire (v : EvidenceSourceClass) : v ∈ kSourceClassWire := by
  cases v <;> decide
theorem mem_kDurabilityWire (v : DurabilityClass) : v ∈ kDurabilityWire := by
  cases v <;> decide
theorem mem_kCoverageWire (v : Coverage) : v ∈ kCoverageWire := by cases v <;> decide
theorem mem_kCurrentnessWire (v : EvidenceCurrentness) : v ∈ kCurrentnessWire := by
  cases v <;> decide

section Tables

variable {α : Type} [DecidableEq α]

/-- `WireCodeOf`: the index of a value in its table, zero when it is missing. -/
def wireCodeOf (table : List α) (value : α) : Nat :=
  if value ∈ table then table.idxOf value else 0

/-- `WriteEnum`. -/
def writeEnum (table : List α) (value : α) : Outcome Bytes :=
  .ok (u8 (UInt8.ofNat (wireCodeOf table value)))

/-- `ReadEnum`. -/
def readEnum (table : List α) (what : Bytes) : ByteReader α := do
  let raw ← readU8
  match table[raw.toNat]? with
  | none =>
      fail (encodingError .malformedEncoding (txt "unknown " ++ what ++ txt " code")
        (decimal raw.toNat))
  | some value => pure value

end Tables

/-! ## Authority context -/

def writeAuthority (authority : AuthorityContext) : Outcome Bytes :=
  emit [
    writeText authority.scope.value kMaxAuthorityScopeIdLength,
    writeText authority.publisher.value kMaxPublisherIdLength,
    writeText authority.workerBoot.value kMaxWorkerBootLength,
    writeText authority.source.value kMaxSourceIdLength,
    .ok (u64 authority.sourceGeneration)]

def readAuthority : ByteReader AuthorityContext := do
  let scope ← readToken .authorityScopeId kMaxAuthorityScopeIdLength
  let publisher ← readToken .publisherId kMaxPublisherIdLength
  let workerBoot ← readToken .workerBootId kMaxWorkerBootLength
  let source ← readToken .sourceId kMaxSourceIdLength
  let sourceGeneration ← readU64
  pure { scope, publisher, workerBoot, source, sourceGeneration }

/-! ## Claims -/

/-- The optional value of a claim: a flag and, unless it is absent, the value. -/
def writeOptionalValue (value : CapabilityValue) : Bytes :=
  bool (!value.isAbsent) ++ if value.isAbsent then [] else value.encode

def readOptionalValue : ByteReader CapabilityValue := do
  let hasValue ← readBool
  if hasValue then CapabilityValue.decode else pure .absent

/-- `WriteClaim` after its capability. -/
def writeClaimBody (claim : CapabilityClaim) : Outcome Bytes :=
  emit [
    writeEnum kStateWire claim.state,
    .ok (writeOptionalValue claim.value),
    writeEnum kProvenanceWire claim.provenance,
    writeEnum kSourceClassWire claim.sourceClass,
    writeEnum kDurabilityWire claim.durability,
    writeEnum kCoverageWire claim.coverage,
    writeText claim.firmwareVersion.value kMaxVersionTokenLength,
    writeText claim.driverVersion.value kMaxVersionTokenLength,
    writeText claim.reason.value kMaxReasonLength]

def writeClaim (claim : CapabilityClaim) : Outcome Bytes :=
  emit [
    writeText claim.capability.toText kMaxCapabilityIdLength,
    writeClaimBody claim]

/-- `ReadClaim` after its capability. -/
def readClaimBody (capability : CapabilityId) : ByteReader CapabilityClaim := do
  let state ← readEnum kStateWire (txt "capability state")
  let value ← readOptionalValue
  let provenance ← readEnum kProvenanceWire (txt "provenance class")
  let sourceClass ← readEnum kSourceClassWire (txt "evidence source class")
  let durability ← readEnum kDurabilityWire (txt "durability class")
  let coverage ← readEnum kCoverageWire (txt "coverage class")
  let firmwareVersion ← readOptionalToken .versionToken kMaxVersionTokenLength
  let driverVersion ← readOptionalToken .versionToken kMaxVersionTokenLength
  let reason ← readOptionalToken .reasonToken kMaxReasonLength
  pure { capability, state, value, provenance, sourceClass, durability, coverage,
         firmwareVersion, driverVersion, reason }

def readClaim : ByteReader CapabilityClaim := do
  let capability ← readCapabilityId
  readClaimBody capability

/-! ## Edits -/

/-- The encoder's half: the claim that is written carries the capability of the
edit, and only there. -/
def writeEdit (edit : IncrementalEdit) : Outcome Bytes :=
  if edit.claim.capability.isSet then
    failure .malformedEncoding
      (txt "an incremental edit carries the capability in its own field, not in the claim") []
  else
    emit [
      writeEnum kOperationWire edit.operation,
      writeClaim { edit.claim with capability := edit.capability }]

/-- The decoder's half: a capability and then a complete claim. -/
def readEdit : ByteReader IncrementalEdit := do
  let operation ← readEnum kOperationWire (txt "incremental operation")
  let capability ← readCapabilityId
  let claim ← readClaim
  pure { operation, capability, claim := { claim with capability := .unset } }

/-! ## Requests -/

/-- The bound on both lists, checked after the header fields were written. -/
def checkClaimBound (request : PublicationRequest) : Outcome Bytes :=
  if request.claims.length > kMaxClaimsPerPublication ||
      request.edits.length > kMaxClaimsPerPublication then
    failure .tooManyItems (txt "publication exceeds the claim bound") []
  else .ok []

def encodePublicationRequest (request : PublicationRequest) : Outcome Bytes :=
  emit [
    writeEnum kModeWire request.mode,
    writeText request.attempt.value kMaxAttemptIdLength,
    writeText request.publication.value kMaxPublicationIdLength,
    .ok (u64 request.epoch),
    writeAuthority request.authority,
    writeText request.entity.toText kMaxEntityIdLength,
    .ok (u64 request.entityGeneration),
    .ok (u64 request.expectedSetGeneration),
    writeEnum kCoverageWire request.coverage,
    writeText request.reason.value kMaxReasonLength,
    checkClaimBound request,
    .ok (sizeU32 request.claims.length),
    emit (request.claims.map writeClaim),
    .ok (sizeU32 request.edits.length),
    emit (request.edits.map writeEdit)]

/-- A list length with its bound. -/
def readListCount (maxCount : Nat) (message : Bytes) : ByteReader Nat := do
  let count ← readU32
  if count.toNat > maxCount then fail (encodingError .tooManyItems message [])
  else pure count.toNat

def decodePublicationRequestFields : ByteReader PublicationRequest := do
  let mode ← readEnum kModeWire (txt "publication mode")
  let attempt ← readToken .mutationAttemptId kMaxAttemptIdLength
  let publication ← readToken .publicationId kMaxPublicationIdLength
  let epoch ← readU64
  let authority ← readAuthority
  let entity ← readEntityId
  let entityGeneration ← readU64
  let expectedSetGeneration ← readU64
  let coverage ← readEnum kCoverageWire (txt "coverage class")
  let reason ← readOptionalToken .reasonToken kMaxReasonLength
  let claimCount ← readListCount kMaxClaimsPerPublication
    (txt "encoded publication exceeds the claim bound")
  let claims ← readTimes readClaim claimCount
  let editCount ← readListCount kMaxClaimsPerPublication
    (txt "encoded publication exceeds the edit bound")
  let edits ← readTimes readEdit editCount
  pure { mode, attempt, publication, epoch, authority, entity, entityGeneration,
         expectedSetGeneration, claims, edits, coverage, reason }

def decodePublicationRequest (payload : Bytes) : Outcome PublicationRequest :=
  readWhole decodePublicationRequestFields payload

end FabricCapability.Ports
