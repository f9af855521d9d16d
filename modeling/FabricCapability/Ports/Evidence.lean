import FabricCapability.Ports.ValueCodec

/-!
# Evidence records

Translation of `include/fabric/capability/state.hpp`, `evidence.hpp` and
`src/evidence.cpp`: the provenance classification and the immutable observation
that resolutions are computed from.

Enumerators keep their underlying byte in `toByte`; every digest of the source
writes that byte.
-/

namespace FabricCapability.Ports

/-! ## Capability states -/

inductive CapabilityState where
  | unknown | supported | unsupported | revalidationRequired | conflicted
  deriving DecidableEq, Repr

def CapabilityState.toByte : CapabilityState → UInt8
  | unknown => 0
  | supported => 1
  | unsupported => 2
  | revalidationRequired => 3
  | conflicted => 4

def capabilityStateName : CapabilityState → Bytes
  | .unknown => txt "UNKNOWN"
  | .supported => txt "SUPPORTED"
  | .unsupported => txt "UNSUPPORTED"
  | .revalidationRequired => txt "REVALIDATION_REQUIRED"
  | .conflicted => txt "CONFLICTED"

def isActionableSupport (state : CapabilityState) : Bool := state == .supported

def failsClosed (state : CapabilityState) : Bool := !isActionableSupport state

/-! ## Provenance -/

/-- Ordered evidence strength: a lower byte is stronger. -/
inductive ProvenanceClass where
  | directHardwareEnumeration | directDeviceOrOsApi | authoritativeAdministrativeDeclaration
  | vendorFirmwareOrSdkManifest | importedStaticProfile | inferred | syntheticTestBackend
  deriving DecidableEq, Repr

def kProvenanceClassCount : UInt8 := 7

def provenanceRank : ProvenanceClass → UInt8
  | .directHardwareEnumeration => 0
  | .directDeviceOrOsApi => 1
  | .authoritativeAdministrativeDeclaration => 2
  | .vendorFirmwareOrSdkManifest => 3
  | .importedStaticProfile => 4
  | .inferred => 5
  | .syntheticTestBackend => 6

def provenanceClassName : ProvenanceClass → Bytes
  | .directHardwareEnumeration => txt "direct-hardware-enumeration"
  | .directDeviceOrOsApi => txt "direct-device-or-os-api"
  | .authoritativeAdministrativeDeclaration => txt "authoritative-administrative-declaration"
  | .vendorFirmwareOrSdkManifest => txt "vendor-firmware-or-sdk-manifest"
  | .importedStaticProfile => txt "imported-static-profile"
  | .inferred => txt "inferred"
  | .syntheticTestBackend => txt "synthetic-test-backend"

/-- Provenance that can only be a live observation of a running process. -/
def isLiveProcessObservation (provenance : ProvenanceClass) : Bool :=
  provenanceRank provenance ≤ provenanceRank .directDeviceOrOsApi

/-- Where an observation physically came from. -/
inductive EvidenceSourceClass where
  | hardwareEnumeration | operatingSystemApi | driverApi | firmwareManifest | vendorSdk
  | deviceAgent | switchAgent | administrativeDeclaration | importedManifest
  | syntheticBackend
  deriving DecidableEq, Repr

def EvidenceSourceClass.toByte : EvidenceSourceClass → UInt8
  | hardwareEnumeration => 0
  | operatingSystemApi => 1
  | driverApi => 2
  | firmwareManifest => 3
  | vendorSdk => 4
  | deviceAgent => 5
  | switchAgent => 6
  | administrativeDeclaration => 7
  | importedManifest => 8
  | syntheticBackend => 9

def evidenceSourceClassName : EvidenceSourceClass → Bytes
  | .hardwareEnumeration => txt "hardware-enumeration"
  | .operatingSystemApi => txt "operating-system-api"
  | .driverApi => txt "driver-api"
  | .firmwareManifest => txt "firmware-manifest"
  | .vendorSdk => txt "vendor-sdk"
  | .deviceAgent => txt "device-agent"
  | .switchAgent => txt "switch-agent"
  | .administrativeDeclaration => txt "administrative-declaration"
  | .importedManifest => txt "imported-manifest"
  | .syntheticBackend => txt "synthetic-backend"

/-- Strongest provenance class a source class may claim. -/
def strongestProvenanceForSource : EvidenceSourceClass → ProvenanceClass
  | .hardwareEnumeration => .directHardwareEnumeration
  | .operatingSystemApi | .driverApi | .deviceAgent | .switchAgent => .directDeviceOrOsApi
  | .administrativeDeclaration => .authoritativeAdministrativeDeclaration
  | .firmwareManifest | .vendorSdk => .vendorFirmwareOrSdkManifest
  | .importedManifest => .importedStaticProfile
  | .syntheticBackend => .syntheticTestBackend

/-! ## Lifetime, coverage and currentness -/

inductive DurabilityClass where
  | processBound | durable
  deriving DecidableEq, Repr

def DurabilityClass.toByte : DurabilityClass → UInt8
  | processBound => 0
  | durable => 1

def durabilityClassName : DurabilityClass → Bytes
  | .processBound => txt "process-bound"
  | .durable => txt "durable"

/-- How complete the observation was (`Coverage::Partial`,
`Coverage::FullEnumeration`). -/
inductive Coverage where
  | partialSurface | fullEnumeration
  deriving DecidableEq, Repr

def Coverage.toByte : Coverage → UInt8
  | partialSurface => 0
  | fullEnumeration => 1

def coverageName : Coverage → Bytes
  | .partialSurface => txt "partial"
  | .fullEnumeration => txt "full-enumeration"

inductive EvidenceCurrentness where
  | current | revalidationRequired | fenced | superseded | entityGenerationSuperseded
  deriving DecidableEq, Repr

def EvidenceCurrentness.toByte : EvidenceCurrentness → UInt8
  | current => 0
  | revalidationRequired => 1
  | fenced => 2
  | superseded => 3
  | entityGenerationSuperseded => 4

def evidenceCurrentnessName : EvidenceCurrentness → Bytes
  | .current => txt "current"
  | .revalidationRequired => txt "revalidation-required"
  | .fenced => txt "fenced"
  | .superseded => txt "superseded"
  | .entityGenerationSuperseded => txt "entity-generation-superseded"

def isCurrent (currentness : EvidenceCurrentness) : Bool := currentness == .current

/-- The two states in which a record no longer takes part in resolution. -/
def isRetired (currentness : EvidenceCurrentness) : Bool :=
  currentness == .superseded || currentness == .entityGenerationSuperseded

/-! ## Evidence records -/

/-- One immutable observation. -/
structure EvidenceRecord where
  id : EvidenceId
  capability : CapabilityId
  entity : EntityId
  entityGeneration : EntityGeneration
  source : SourceId
  publisher : PublisherId
  scope : AuthorityScopeId
  workerBoot : WorkerBootId
  epoch : CoordinatorEpoch
  sourceGeneration : SourceGeneration
  evidenceGeneration : EvidenceGeneration
  attempt : MutationAttemptId
  publication : PublicationId
  provenance : ProvenanceClass
  sourceClass : EvidenceSourceClass
  durability : DurabilityClass
  coverage : Coverage
  state : CapabilityState
  value : CapabilityValue
  firmwareVersion : VersionToken
  driverVersion : VersionToken
  reason : ReasonToken
  currentness : EvidenceCurrentness
  acceptedGeneration : RegistryGeneration
  arrivalSequence : UInt64
  deriving DecidableEq

/-! ## Derived identifiers -/

def kMaxSourceIdLength : Nat := 96
def kMaxPublisherIdLength : Nat := 96
def kMaxAuthorityScopeIdLength : Nat := 96
def kMaxAttemptIdLength : Nat := 96
def kMaxPublicationIdLength : Nat := 96

/-- The worker boot bound that the source writes as the literal `64`. -/
def kMaxWorkerBootLength : Nat := 64

/-- An identifier parsed from a digest, unset when the text does not parse. -/
def digestToken (tag : TokenTag) (digest : Digest) : TokenId tag :=
  TokenId.parseOrUnset digest.shortString

def makeEvidenceId (publisher : PublisherId) (boot : WorkerBootId)
    (attempt : MutationAttemptId) (entity : EntityId) (entityGeneration : EntityGeneration)
    (capability : CapabilityId) (evidenceGeneration : UInt64) : EvidenceId :=
  digestToken _ <| computeDigest <|
    putText publisher.value kMaxPublisherIdLength ++
    putText boot.value kMaxWorkerBootLength ++
    putText attempt.value kMaxAttemptIdLength ++
    putText entity.toText kMaxEntityIdLength ++
    u64 entityGeneration ++
    putText capability.toText kMaxCapabilityIdLength ++
    u64 evidenceGeneration

def makeCapabilityRecordId (entity : EntityId) (entityGeneration : EntityGeneration)
    (capability : CapabilityId) : CapabilityRecordId :=
  digestToken _ <| computeDigest <|
    putText entity.toText kMaxEntityIdLength ++
    u64 entityGeneration ++
    putText capability.toText kMaxCapabilityIdLength

end FabricCapability.Ports
