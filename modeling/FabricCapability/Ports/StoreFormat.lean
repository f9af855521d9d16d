import FabricCapability.Ports.RegistryState
import FabricCapability.Ports.Wire

/-!
# The store format

Translation of `src/internal/store_format.hpp` and of the codec of
`src/persistence.cpp`: the stored records, `EncodePayload` and `DecodePayload`, and the
file around the payload with its header, digest and checksum.

A writer that can fail returns the bytes it appends; `emit` runs writers in order until
one fails.  The decoder is the record loop of the source over the byte reader of
`Encoding`.

A file is its contents.  The path, the temporary file and the system calls of
`WriteFileAtomic` and `ReadFileBounded` are not modelled; `PersistenceConfig` keeps the
validated path for the texts of the errors that name it.
-/

namespace FabricCapability.Ports

open FabricCapability.Verified.ByteCodec
open FabricCapability.Verified.StrictOrder

/-! ## Stored records -/

structure StoredCapability where
  id : CapabilityId
  generation : CapabilityGeneration
  deriving DecidableEq

structure StoredClaim where
  capability : CapabilityId
  id : EvidenceId
  source : SourceId
  publisher : PublisherId
  scope : AuthorityScopeId
  workerBoot : WorkerBootId
  epoch : CoordinatorEpoch
  sourceGeneration : SourceGeneration
  evidenceGeneration : EvidenceGeneration
  attempt : MutationAttemptId
  publication : PublicationId
  provenance : ProvenanceClass
  sourceClass : EvidenceSourceClass
  durability : DurabilityClass
  coverage : Coverage
  state : CapabilityState
  value : CapabilityValue
  firmwareVersion : VersionToken
  driverVersion : VersionToken
  reason : ReasonToken
  currentness : EvidenceCurrentness
  deriving DecidableEq

structure StoredSourceFloor where
  source : SourceId
  workerBoot : WorkerBootId
  generation : SourceGeneration
  deriving DecidableEq

structure StoredGeneration where
  generation : EntityGeneration
  setGeneration : CapabilitySetGeneration
  digest : Digest
  capabilityCount : UInt64
  supportedCount : UInt64
  retiredAt : RegistryGeneration
  reason : ReasonToken
  deriving DecidableEq

structure StoredEntity where
  id : EntityId
  currentGeneration : EntityGeneration
  boundGeneration : EntityGeneration
  hasSet : Bool
  setGeneration : CapabilitySetGeneration
  invalidated : Bool
  invalidationReason : ReasonToken
  capabilities : List StoredCapability
  claims : List StoredClaim
  sourceFloors : List StoredSourceFloor
  history : List StoredGeneration
  deriving DecidableEq

structure StoredFence where
  workerBoot : WorkerBootId
  publisher : PublisherId
  reason : ReasonToken
  deriving DecidableEq

structure StoredRegistration where
  publisher : PublisherId
  workerBoot : WorkerBootId
  scope : AuthorityScopeId
  deriving DecidableEq

structure StorePayload where
  epoch : CoordinatorEpoch := 0
  registryGeneration : RegistryGeneration := 0
  authorities : List AuthorityGrant := []
  fences : List StoredFence := []
  registrations : List StoredRegistration := []
  entities : List StoredEntity := []
  deriving DecidableEq

/-! ## Reports and configuration -/

/-- The part of `PersistenceConfig` that is left once its path is validated. -/
structure PersistenceConfig where
  storePath : Bytes
  createIfMissing : Bool := true
  deriving DecidableEq

/-- `SaveReport`, without the path. -/
structure SaveReport where
  bytes : Nat
  entityRecords : Nat
  evidenceRecords : Nat
  retiredGenerations : Nat
  fenceRecords : Nat
  authorityGrants : Nat
  payloadDigest : Digest
  fileDigest : Digest
  deriving DecidableEq

structure LoadReport where
  entitiesLoaded : Nat := 0
  evidenceLoaded : Nat := 0
  evidenceRevalidationRequired : Nat := 0
  durableEvidenceRetained : Nat := 0
  fencedWorkerBoots : Nat := 0
  authorityGrants : Nat := 0
  generationsRecovered : Nat := 0
  epoch : CoordinatorEpoch := 0
  registryGeneration : RegistryGeneration := 0
  storeDigest : Digest := .zero
  createdEmpty : Bool := false
  deriving DecidableEq

def kFormatVersion : UInt32 := 1
def kFlagsNone : UInt32 := 0
def kStoreMagic : Bytes := txt "FCRSTORE"
def kStoreHeaderBytes : Nat := 68
def kMaxPersistenceBytes : Nat := 2147483648
def kDigestIdLength : Nat := 32
def kMaxStoredAuthorities : Nat := 4096
def kMaxStoredRegistrations : Nat := 4096
def kMaxAllowedPublishers : Nat := 4096

def kRecordMeta : UInt8 := 1
def kRecordAuthority : UInt8 := 2
def kRecordFence : UInt8 := 3
def kRecordEntity : UInt8 := 4
def kRecordRegistration : UInt8 := 5

def persistenceError (code : ErrorCode) (message detail : Bytes) : Error :=
  { code, message, detail }

namespace Store

/-! ## Writers -/

def writeClaim (claim : StoredClaim) : Outcome Bytes :=
  emit [
    writeText claim.capability.toText kMaxCapabilityIdLength,
    writeText claim.id.value kDigestIdLength,
    writeText claim.source.value kMaxSourceIdLength,
    writeText claim.publisher.value kMaxPublisherIdLength,
    writeText claim.scope.value kMaxAuthorityScopeIdLength,
    writeText claim.workerBoot.value kMaxWorkerBootLength,
    writeText claim.attempt.value kMaxAttemptIdLength,
    writeText claim.publication.value kMaxPublicationIdLength,
    .ok (u64 claim.epoch),
    .ok (u64 claim.sourceGeneration),
    .ok (u64 claim.evidenceGeneration),
    .ok (u8 (provenanceRank claim.provenance)),
    .ok (u8 claim.sourceClass.toByte),
    .ok (u8 claim.durability.toByte),
    .ok (u8 claim.coverage.toByte),
    .ok (u8 claim.state.toByte),
    .ok (u8 claim.currentness.toByte),
    .ok claim.value.encode,
    writeText claim.firmwareVersion.value kMaxVersionTokenLength,
    writeText claim.driverVersion.value kMaxVersionTokenLength,
    writeText claim.reason.value kMaxTextLength]

def writeCapability (capability : StoredCapability) : Outcome Bytes :=
  emit [
    writeText capability.id.toText kMaxCapabilityIdLength,
    .ok (u64 capability.generation)]

def writeSourceFloor (floor : StoredSourceFloor) : Outcome Bytes :=
  emit [
    writeText floor.source.value kMaxSourceIdLength,
    writeText floor.workerBoot.value kMaxWorkerBootLength,
    .ok (u64 floor.generation)]

def writeGeneration (generation : StoredGeneration) : Outcome Bytes :=
  emit [
    .ok (u64 generation.generation),
    .ok (u64 generation.setGeneration),
    .ok generation.digest.bytes,
    .ok (u64 generation.capabilityCount),
    .ok (u64 generation.supportedCount),
    .ok (u64 generation.retiredAt),
    writeText generation.reason.value kMaxTextLength]

/-- The length of a list, and its elements. -/
def writeList {α : Type} (write : α → Outcome Bytes) (xs : List α) : Outcome Bytes :=
  emit [.ok (sizeU32 xs.length), emit (xs.map write)]

def writeEntity (entity : StoredEntity) : Outcome Bytes :=
  emit [
    writeText entity.id.toText kMaxEntityIdLength,
    .ok (u64 entity.currentGeneration),
    .ok (u64 entity.boundGeneration),
    .ok (bool entity.hasSet),
    .ok (u64 entity.setGeneration),
    .ok (bool entity.invalidated),
    writeText entity.invalidationReason.value kMaxTextLength,
    writeList writeCapability entity.capabilities,
    writeList writeClaim entity.claims,
    writeList writeSourceFloor entity.sourceFloors,
    writeList writeGeneration entity.history]

def writeEntityKind (kind : FabricEntityKind) : Outcome Bytes := .ok (u8 kind.toByte)

def writeNamespace (ns : CapabilityNamespaceId) : Outcome Bytes :=
  writeText ns.text kMaxCapabilityIdLength

def writeAllowedPublisher (publisher : PublisherId) : Outcome Bytes :=
  writeText publisher.value kMaxPublisherIdLength

def writeGrant (grant : AuthorityGrant) : Outcome Bytes :=
  emit [
    writeText grant.scope.value kMaxAuthorityScopeIdLength,
    writeList writeEntityKind grant.entityKinds,
    writeList writeNamespace grant.namespaces,
    .ok (u8 grant.modes),
    .ok (bool grant.exclusive),
    .ok (bool grant.mayPublishDurable),
    .ok (u8 (provenanceRank grant.strongestProvenance)),
    .ok (sizeU32 grant.maxClaimsPerPublication),
    writeText grant.description.value kMaxTextLength,
    writeList writeAllowedPublisher grant.allowedPublishers]

def writeFence (fence : StoredFence) : Outcome Bytes :=
  emit [
    writeText fence.workerBoot.value kMaxWorkerBootLength,
    writeText fence.publisher.value kMaxPublisherIdLength,
    writeText fence.reason.value kMaxTextLength]

def writeRegistration (registration : StoredRegistration) : Outcome Bytes :=
  emit [
    writeText registration.publisher.value kMaxPublisherIdLength,
    writeText registration.workerBoot.value kMaxWorkerBootLength,
    writeText registration.scope.value kMaxAuthorityScopeIdLength]

/-- `begin_record`, the body and `finish_record`: the low 32 bits of the body length
stand before the body. -/
def writeRecord (type : UInt8) (body : Outcome Bytes) : Outcome Bytes :=
  body.map fun body => u8 type ++ sizeU32 body.length ++ body

def writeMeta (payload : StorePayload) : Outcome Bytes :=
  .ok (u64 payload.epoch ++ u64 payload.registryGeneration)

/-- `EncodePayload`. -/
def encodePayload (payload : StorePayload) : Outcome Bytes :=
  emit [
    writeRecord kRecordMeta (writeMeta payload),
    emit (payload.authorities.map fun grant =>
      writeRecord kRecordAuthority (writeGrant grant)),
    emit (payload.fences.map fun fence => writeRecord kRecordFence (writeFence fence)),
    emit (payload.registrations.map fun registration =>
      writeRecord kRecordRegistration (writeRegistration registration)),
    emit (payload.entities.map fun entity =>
      writeRecord kRecordEntity (writeEntity entity))]

/-! ## Readers -/

/-- A byte that must be the underlying byte of one of the enumerators. -/
def readStoredEnum {α : Type} (table : List α) (toByte : α → UInt8) (message : Bytes) :
    ByteReader α := do
  let raw ← readU8
  match enumOfByte table toByte raw with
  | none => fail (persistenceError .persistenceCorrupt message [])
  | some value => pure value

/-- A list length with its bound. -/
def readStoredCount (bound : Nat) (message : Bytes) : ByteReader Nat := do
  let count ← readU32
  if count.toNat > bound then
    fail (persistenceError .persistenceLimitExceeded message [])
  else pure count.toNat

/-- A counted list within its bound. -/
def readList {α : Type} (bound : Nat) (message : Bytes) (rd : ByteReader α) :
    ByteReader (List α) := do
  let count ← readStoredCount bound message
  readTimes rd count

def readDigest : ByteReader Digest := do
  let bytes ← readTimes readU8 kDigestBytes
  match Digest.ofBytes bytes with
  | some digest => pure digest
  | none => pure .zero

def readClaim : ByteReader StoredClaim := do
  let capability ← readCapabilityId
  let id ← readToken .evidenceId kDigestIdLength
  let source ← readToken .sourceId kMaxSourceIdLength
  let publisher ← readToken .publisherId kMaxPublisherIdLength
  let scope ← readToken .authorityScopeId kMaxAuthorityScopeIdLength
  let workerBoot ← readToken .workerBootId kMaxWorkerBootLength
  let attempt ← readToken .mutationAttemptId kMaxAttemptIdLength
  let publication ← readToken .publicationId kMaxPublicationIdLength
  let epoch ← readU64
  let sourceGeneration ← readU64
  let evidenceGeneration ← readU64
  let provenance ← readStoredEnum kProvenanceWire provenanceRank
    (txt "stored provenance class is out of range")
  let sourceClass ← readStoredEnum kSourceClassWire EvidenceSourceClass.toByte
    (txt "stored evidence source class is out of range")
  let durability ← readStoredEnum kDurabilityWire DurabilityClass.toByte
    (txt "stored durability class is out of range")
  let coverage ← readStoredEnum kCoverageWire Coverage.toByte
    (txt "stored coverage class is out of range")
  let state ← readStoredEnum kStateWire CapabilityState.toByte
    (txt "stored capability state is out of range")
  let currentness ← readStoredEnum kCurrentnessWire EvidenceCurrentness.toByte
    (txt "stored currentness class is out of range")
  let value ← CapabilityValue.decode
  let firmwareVersion ← readOptionalToken .versionToken kMaxVersionTokenLength
  let driverVersion ← readOptionalToken .versionToken kMaxVersionTokenLength
  let reason ← readOptionalToken .reasonToken kMaxTextLength
  pure { capability, id, source, publisher, scope, workerBoot, epoch, sourceGeneration,
         evidenceGeneration, attempt, publication, provenance, sourceClass, durability,
         coverage, state, value, firmwareVersion, driverVersion, reason, currentness }

def readCapability : ByteReader StoredCapability := do
  let id ← readCapabilityId
  let generation ← readU64
  pure { id, generation }

def readSourceFloor : ByteReader StoredSourceFloor := do
  let source ← readToken .sourceId kMaxSourceIdLength
  let workerBoot ← readToken .workerBootId kMaxWorkerBootLength
  let generation ← readU64
  pure { source, workerBoot, generation }

def readGeneration : ByteReader StoredGeneration := do
  let generation ← readU64
  let setGeneration ← readU64
  let digest ← readDigest
  let capabilityCount ← readU64
  let supportedCount ← readU64
  let retiredAt ← readU64
  let reason ← readOptionalToken .reasonToken kMaxTextLength
  pure { generation, setGeneration, digest, capabilityCount, supportedCount, retiredAt,
         reason }

def readCurrentGeneration : ByteReader EntityGeneration := do
  let current ← readU64
  if current = 0 then
    fail (persistenceError .persistenceCorrupt
      (txt "stored entity has no current generation") [])
  else pure current

/-- The sorted capabilities of an entity, unless two neighbours are the same. -/
def checkCapabilities (capabilities : List StoredCapability) :
    Outcome (List StoredCapability) :=
  let sorted := sortBy (fun a b => a.id.lt b.id) capabilities
  match (sorted.zip sorted.tail).find? fun pair => pair.1.id = pair.2.id with
  | some pair =>
      .error (persistenceError .persistenceDuplicateRecord
        (txt "stored entity declares one capability twice") pair.2.id.toText)
  | none => .ok sorted

def readCapabilities : ByteReader (List StoredCapability) := do
  let capabilities ← readList kMaxCapabilitiesPerEntity
    (txt "stored entity exceeds the capability bound") readCapability
  accept (checkCapabilities capabilities)

def readClaims : ByteReader (List StoredClaim) :=
  readList kMaxEvidencePerEntity (txt "stored entity exceeds the evidence bound") readClaim

def readSourceFloors : ByteReader (List StoredSourceFloor) :=
  readList kMaxEvidencePerEntity (txt "stored entity exceeds the source floor bound")
    readSourceFloor

def readHistory : ByteReader (List StoredGeneration) :=
  readList kMaxEntityGenerationsRetained (txt "stored entity exceeds the history bound")
    readGeneration

def readEntity : ByteReader StoredEntity := do
  let id ← readEntityId
  let currentGeneration ← readCurrentGeneration
  let boundGeneration ← readU64
  let hasSet ← readBool
  let setGeneration ← readU64
  let invalidated ← readBool
  let invalidationReason ← readOptionalToken .reasonToken kMaxTextLength
  let capabilities ← readCapabilities
  let claims ← readClaims
  let sourceFloors ← readSourceFloors
  let history ← readHistory
  pure { id, currentGeneration, boundGeneration, hasSet, setGeneration, invalidated,
         invalidationReason, capabilities, claims, sourceFloors, history }

def readNamespace : ByteReader CapabilityNamespaceId := do
  let text ← readText kMaxCapabilityIdLength
  accept (CapabilityNamespaceId.parse text)

def readEntityKinds : ByteReader (List FabricEntityKind) :=
  readList kMaxAuthorityEntityKinds (txt "stored authority declares too many entity classes")
    (readStoredEnum entityKindNames FabricEntityKind.toByte
      (txt "stored authority declares an unknown entity class"))

def readNamespaces : ByteReader (List CapabilityNamespaceId) :=
  readList kMaxAuthorityNamespaces (txt "stored authority declares too many namespaces")
    readNamespace

def readMaxClaims : ByteReader Nat := do
  let maxClaims ← readU32
  if maxClaims.toNat > kMaxClaimsPerPublication then
    fail (persistenceError .persistenceCorrupt
      (txt "stored authority claim bound is out of range") [])
  else pure maxClaims.toNat

def readAllowedPublishers : ByteReader (List PublisherId) :=
  readList kMaxAllowedPublishers (txt "stored authority allowlist is too large")
    (readToken .publisherId kMaxPublisherIdLength)

def readGrant : ByteReader AuthorityGrant := do
  let scope ← readToken .authorityScopeId kMaxAuthorityScopeIdLength
  let entityKinds ← readEntityKinds
  let namespaces ← readNamespaces
  let modes ← readU8
  let exclusive ← readBool
  let mayPublishDurable ← readBool
  let strongestProvenance ← readStoredEnum kProvenanceWire provenanceRank
    (txt "stored authority declares an unknown provenance")
  let maxClaimsPerPublication ← readMaxClaims
  let description ← readOptionalToken .reasonToken kMaxTextLength
  let allowedPublishers ← readAllowedPublishers
  pure { scope, entityKinds, namespaces, modes, exclusive, mayPublishDurable,
         strongestProvenance, allowedPublishers, maxClaimsPerPublication, description }

def readFence : ByteReader StoredFence := do
  let workerBoot ← readToken .workerBootId kMaxWorkerBootLength
  let publisher ← readOptionalToken .publisherId kMaxPublisherIdLength
  let reason ← readOptionalToken .reasonToken kMaxTextLength
  pure { workerBoot, publisher, reason }

def readRegistration : ByteReader StoredRegistration := do
  let publisher ← readToken .publisherId kMaxPublisherIdLength
  let workerBoot ← readToken .workerBootId kMaxWorkerBootLength
  let scope ← readToken .authorityScopeId kMaxAuthorityScopeIdLength
  pure { publisher, workerBoot, scope }

/-! ## The record loop -/

/-- The payload so far, and `saw_meta`. -/
structure Decoding where
  payload : StorePayload := {}
  sawMeta : Bool := false
  deriving DecidableEq

def readMeta (state : Decoding) : ByteReader Decoding :=
  if state.sawMeta then
    fail (persistenceError .persistenceDuplicateRecord
      (txt "store declares more than one meta record") [])
  else do
    let epoch ← readU64
    let registryGeneration ← readU64
    pure { payload := { state.payload with epoch, registryGeneration }, sawMeta := true }

/-- A record that is appended to one of the lists of the payload, up to its bound. -/
def readListed {α : Type} (held bound : Nat) (message : Bytes) (rd : ByteReader α)
    (push : α → StorePayload) (state : Decoding) : ByteReader Decoding :=
  if held ≥ bound then fail (persistenceError .persistenceLimitExceeded message [])
  else do
    let a ← rd
    pure { state with payload := push a }

/-- The body of one record, by its type. -/
def readRecordBody (state : Decoding) (type : UInt8) : ByteReader Decoding :=
  let payload := state.payload
  if type = kRecordMeta then readMeta state
  else if type = kRecordAuthority then
    readListed payload.authorities.length kMaxStoredAuthorities
      (txt "store exceeds the authority bound") readGrant
      (fun grant => { payload with authorities := payload.authorities ++ [grant] }) state
  else if type = kRecordFence then
    readListed payload.fences.length kMaxFencedWorkerBoots
      (txt "store exceeds the fence bound") readFence
      (fun fence => { payload with fences := payload.fences ++ [fence] }) state
  else if type = kRecordRegistration then
    readListed payload.registrations.length kMaxStoredRegistrations
      (txt "store exceeds the registration bound") readRegistration
      (fun registration =>
        { payload with registrations := payload.registrations ++ [registration] }) state
  else if type = kRecordEntity then
    readListed payload.entities.length kMaxEntities
      (txt "store exceeds the entity bound") readEntity
      (fun entity => { payload with entities := payload.entities ++ [entity] }) state
  else
    fail (persistenceError .persistenceCorrupt (txt "store contains an unknown record type")
      (decimal type.toNat))

/-- The type and the body of the next record. -/
def readRecordFrame : ByteReader (UInt8 × Bytes) := do
  let type ← readU8
  let length ← readU32
  let error := persistenceError .persistenceCorrupt
    (txt "store record length exceeds the remaining payload") (decimal length.toNat)
  let body ← readExact length.toNat error
  pure (type, body)

/-- The loop over the records.  A record takes five bytes at least, so as many rounds as
there are bytes are enough. -/
def readRecords : Nat → Decoding → Bytes → Outcome Decoding
  | _, state, [] => .ok state
  | 0, state, _ :: _ => .ok state
  | rounds + 1, state, byte :: bytes => do
      let ((type, body), rest) ← readRecordFrame (byte :: bytes)
      let state ← readWhole (readRecordBody state type) body
      readRecords rounds state rest

/-- `DecodePayload`. -/
def decodePayload (bytes : Bytes) : Outcome StorePayload := do
  let state ← readRecords bytes.length {} bytes
  if state.sawMeta then .ok state.payload
  else
    .error (persistenceError .persistenceCorrupt (txt "store payload has no meta record") [])

/-! ## The file -/

def sizeU64 (n : Nat) : Bytes := u64 (UInt64.ofNat n)

/-- The first 64 bytes of a store file. -/
def headerFields (entities : Nat) (body : Bytes) : Bytes :=
  kStoreMagic ++ u32 kFormatVersion ++ u32 kFlagsNone ++ sizeU64 body.length ++
    sizeU64 entities ++ (computeDigest body).bytes

/-- `WriteStore`: the contents of the new file, and the report. -/
def writeStore (payload : StorePayload) : Outcome (Bytes × SaveReport) := do
  let body ← encodePayload payload
  if body.length > kMaxPersistenceBytes then
    failure .persistenceLimitExceeded (txt "encoded store exceeds the persistence bound")
      (decimal body.length)
  else
    let fields := headerFields payload.entities.length body
    let file := fields ++ u32 (crc32 fields) ++ body
    .ok (file,
      { bytes := file.length
        entityRecords := payload.entities.length
        evidenceRecords := (payload.entities.map fun entity => entity.claims.length).sum
        retiredGenerations := (payload.entities.map fun entity => entity.history.length).sum
        fenceRecords := payload.fences.length
        authorityGrants := payload.authorities.length
        payloadDigest := computeDigest body
        fileDigest := computeDigest file })

structure Header where
  formatVersion : UInt32
  flags : UInt32
  payloadBytes : UInt64
  recordCount : UInt64
  payloadDigest : Digest
  deriving DecidableEq

/-- The little-endian number at an offset of the file. -/
def wordAt (file : Bytes) (offset width : Nat) : Nat := leValue ((file.drop offset).take width)

/-- The fields of the header at their offsets. -/
def headerOf (file : Bytes) : Header :=
  { formatVersion := UInt32.ofNat (wordAt file 8 4)
    flags := UInt32.ofNat (wordAt file 12 4)
    payloadBytes := UInt64.ofNat (wordAt file 16 8)
    recordCount := UInt64.ofNat (wordAt file 24 8)
    payloadDigest := (Digest.ofBytes ((file.drop 32).take kDigestBytes)).getD .zero }

/-- `ParseHeader`. -/
def parseHeader (file : Bytes) : Outcome Header :=
  if file.length < kStoreHeaderBytes then
    failure .persistenceCorrupt (txt "store file is shorter than its header")
      (decimal file.length)
  else if file.take kStoreMagic.length ≠ kStoreMagic then
    failure .persistenceFormatInvalid (txt "store file magic does not match") []
  else if UInt32.ofNat (wordAt file 64 4) ≠ crc32 (file.take 64) then
    failure .persistenceIntegrityFailure (txt "store header CRC does not match") []
  else if (headerOf file).formatVersion ≠ kFormatVersion then
    failure .persistenceVersionUnsupported (txt "store format version is not supported")
      (decimal (headerOf file).formatVersion.toNat)
  else .ok (headerOf file)

/-- The contents of a store file, checked against its header. -/
def readFile (file : Bytes) : Outcome (StorePayload × LoadReport) := do
  if file.length > kMaxPersistenceBytes then
    failure .persistenceLimitExceeded (txt "store file size is out of range") []
  else
    let header ← parseHeader file
    let body := file.drop kStoreHeaderBytes
    if header.payloadBytes.toNat ≠ body.length then
      failure .persistenceCorrupt (txt "store payload length does not match the file size")
        (decimal header.payloadBytes.toNat)
    else if computeDigest body ≠ header.payloadDigest then
      failure .persistenceIntegrityFailure
        (txt "store payload digest does not match the header") []
    else
      let payload ← decodePayload body
      .ok (payload,
        { epoch := payload.epoch
          registryGeneration := payload.registryGeneration
          storeDigest := computeDigest body
          authorityGrants := payload.authorities.length
          fencedWorkerBoots := payload.fences.length })

/-- `ReadStore`; `file` is nothing when there is no such file. -/
def readStore (config : PersistenceConfig) (file : Option Bytes) :
    Outcome (StorePayload × LoadReport) :=
  match file with
  | some file => readFile file
  | none =>
      if config.createIfMissing then .ok ({}, { epoch := 1, createdEmpty := true })
      else failure .persistenceIoFailure (txt "store file does not exist") config.storePath

end Store

end FabricCapability.Ports
