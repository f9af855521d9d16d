import FabricCapability.Ports.Evidence

/-!
# Claims, resolutions, publications and explanations

The record types of `include/fabric/capability/authority.hpp`, `record.hpp`,
`query.hpp` and `publication.hpp`, with the renderers of `src/query.cpp` that the
registry writes into its explanations.
-/

namespace FabricCapability.Ports

open FabricCapability.Verified.StrictOrder

/-! ## Authority -/

def kMaxClaimsPerPublication : Nat := 4096

inductive PublicationMode where
  | fullSnapshot | incremental | partialObservation
  deriving DecidableEq, Repr

/-- The underlying value, which is also the bit of the mode in a mask. -/
def PublicationMode.toByte : PublicationMode → UInt8
  | fullSnapshot => 1
  | incremental => 2
  | partialObservation => 4

def publicationModeName : PublicationMode → Bytes
  | .fullSnapshot => txt "full-snapshot"
  | .incremental => txt "incremental"
  | .partialObservation => txt "partial-observation"

abbrev PublicationModeMask := UInt8

def allowsMode (mask : PublicationModeMask) (mode : PublicationMode) : Bool :=
  (mask &&& mode.toByte) != 0

/-- What an authority scope may publish. -/
structure AuthorityGrant where
  scope : AuthorityScopeId
  entityKinds : List FabricEntityKind
  namespaces : List CapabilityNamespaceId
  modes : PublicationModeMask := 0
  exclusive : Bool := false
  mayPublishDurable : Bool := false
  strongestProvenance : ProvenanceClass := .directHardwareEnumeration
  allowedPublishers : List PublisherId := []
  maxClaimsPerPublication : Nat := kMaxClaimsPerPublication
  description : ReasonToken := .unset
  deriving DecidableEq

/-- A publisher instance registered inside a scope. -/
structure PublisherRegistration where
  publisher : PublisherId
  scope : AuthorityScopeId
  workerBoot : WorkerBootId
  epoch : CoordinatorEpoch
  acceptedGeneration : RegistryGeneration
  deriving DecidableEq

/-- The identity under which a publication is made. -/
structure AuthorityContext where
  scope : AuthorityScopeId
  publisher : PublisherId
  workerBoot : WorkerBootId
  source : SourceId
  sourceGeneration : SourceGeneration
  deriving DecidableEq

structure FenceRecord where
  workerBoot : WorkerBootId
  publisher : PublisherId := .unset
  reason : ReasonToken := .unset
  fencedAt : RegistryGeneration := 0
  deriving DecidableEq

/-! ## Claims and resolutions -/

/-- One capability assertion submitted by a publisher. -/
structure CapabilityClaim where
  capability : CapabilityId
  state : CapabilityState := .unknown
  value : CapabilityValue := .absent
  provenance : ProvenanceClass := .syntheticTestBackend
  sourceClass : EvidenceSourceClass := .syntheticBackend
  durability : DurabilityClass := .processBound
  coverage : Coverage := .partialSurface
  firmwareVersion : VersionToken := .unset
  driverVersion : VersionToken := .unset
  reason : ReasonToken := .unset
  deriving DecidableEq

/-- Resolved truth for one capability of one entity generation. -/
structure CapabilityResolution where
  capability : CapabilityId := .unset
  state : CapabilityState := .unknown
  value : CapabilityValue := .absent
  hasValue : Bool := false
  valueDigest : Digest := .zero
  winningEvidence : EvidenceId := .unset
  provenance : ProvenanceClass := .syntheticTestBackend
  sourceClass : EvidenceSourceClass := .syntheticBackend
  coverage : Coverage := .partialSurface
  durability : DurabilityClass := .processBound
  evidenceGeneration : EvidenceGeneration := 0
  sourceGeneration : SourceGeneration := 0
  capabilityGeneration : CapabilityGeneration := 0
  evidenceCount : Nat := 0
  currentEvidenceCount : Nat := 0
  outrankedEvidenceCount : Nat := 0
  conflictingEvidenceCount : Nat := 0
  hasNonCurrentEvidence : Bool := false
  conflictingEvidence : List EvidenceId := []
  recordId : CapabilityRecordId := .unset
  deriving DecidableEq

namespace CapabilityResolution

def actionable (resolution : CapabilityResolution) : Bool :=
  isActionableSupport resolution.state

def failsClosedState (resolution : CapabilityResolution) : Bool :=
  failsClosed resolution.state

end CapabilityResolution

/-- `operator<` of capability identifiers: the order of the rendered texts. -/
def CapabilityId.lt (a b : CapabilityId) : Bool := bytesLt a.toText b.toText

/-- Immutable resolved capability set of one entity generation. -/
structure EntityCapabilitySet where
  entity : EntityId
  entityGeneration : EntityGeneration
  setGeneration : CapabilitySetGeneration
  registryGeneration : RegistryGeneration
  invalidated : Bool
  invalidationReason : ReasonToken
  capabilities : List CapabilityResolution
  digest : Digest
  deriving DecidableEq

namespace EntityCapabilitySet

def countOf (set : EntityCapabilitySet) (state : CapabilityState) : Nat :=
  set.capabilities.countP fun resolution => resolution.state == state

/-- `EntityCapabilitySet::Find`: the first element that is not below the
identifier, when it is that identifier. -/
def find (set : EntityCapabilitySet) (capability : CapabilityId) :
    Option CapabilityResolution :=
  match set.capabilities.find? fun resolution => !resolution.capability.lt capability with
  | some resolution => if resolution.capability = capability then some resolution else none
  | none => none

end EntityCapabilitySet

/-- Bounded historical summary of a retired entity generation. -/
structure EntityGenerationSummary where
  generation : EntityGeneration
  setGeneration : CapabilitySetGeneration
  digest : Digest
  capabilityCount : Nat
  supportedCount : Nat
  retiredAt : RegistryGeneration
  reason : ReasonToken
  deriving DecidableEq

/-! ## Explanations -/

def kMaxTextFieldsPerExplanation : Nat := 64

structure ExplanationStep where
  code : Bytes
  summary : Bytes
  fields : List (Bytes × Bytes) := []
  deriving DecidableEq

structure Explanation where
  code : Bytes := []
  summary : Bytes := []
  steps : List ExplanationStep := []
  deriving DecidableEq

/-- `MakeStep` followed by `AddField` for each of the fields. -/
def makeStep (code summary : Bytes) (fields : List (Bytes × Bytes)) : ExplanationStep :=
  { code, summary, fields := fields.take kMaxTextFieldsPerExplanation }

/-! ## Differences between capability sets -/

inductive CapabilityDiffKind where
  | capabilityAdded | capabilityRemoved | stateChanged | valueChanged | provenanceChanged
  | evidenceSuperseded | currentnessChanged | generationAdvanced | entityGenerationChanged
  | entityInvalidated
  deriving DecidableEq, Repr

def CapabilityDiffKind.toByte : CapabilityDiffKind → UInt8
  | capabilityAdded => 0
  | capabilityRemoved => 1
  | stateChanged => 2
  | valueChanged => 3
  | provenanceChanged => 4
  | evidenceSuperseded => 5
  | currentnessChanged => 6
  | generationAdvanced => 7
  | entityGenerationChanged => 8
  | entityInvalidated => 9

structure CapabilityDiffEntry where
  capability : CapabilityId := .unset
  kind : CapabilityDiffKind := .capabilityAdded
  beforeState : CapabilityState := .unknown
  afterState : CapabilityState := .unknown
  beforeValue : CapabilityValue := .absent
  afterValue : CapabilityValue := .absent
  hasBeforeValue : Bool := false
  hasAfterValue : Bool := false
  beforeProvenance : ProvenanceClass := .syntheticTestBackend
  afterProvenance : ProvenanceClass := .syntheticTestBackend
  beforeGeneration : CapabilityGeneration := 0
  afterGeneration : CapabilityGeneration := 0
  detail : Bytes := []
  deriving DecidableEq

structure CapabilityDiff where
  entity : EntityId
  beforeEntityGeneration : EntityGeneration := 0
  afterEntityGeneration : EntityGeneration := 0
  beforeSetGeneration : CapabilitySetGeneration := 0
  afterSetGeneration : CapabilitySetGeneration := 0
  beforeDigest : Digest := .zero
  afterDigest : Digest := .zero
  entries : List CapabilityDiffEntry := []
  deriving DecidableEq

/-! ## Publications -/

inductive IncrementalOperation where
  | upsertClaim | withdrawClaim | markUnsupported | markUnknown | markRevalidationRequired
  | supersedeSourceEvidence
  deriving DecidableEq, Repr

def IncrementalOperation.toByte : IncrementalOperation → UInt8
  | upsertClaim => 0
  | withdrawClaim => 1
  | markUnsupported => 2
  | markUnknown => 3
  | markRevalidationRequired => 4
  | supersedeSourceEvidence => 5

structure IncrementalEdit where
  operation : IncrementalOperation := .upsertClaim
  capability : CapabilityId
  claim : CapabilityClaim
  deriving DecidableEq

/-- A complete publication request. -/
structure PublicationRequest where
  mode : PublicationMode := .partialObservation
  attempt : MutationAttemptId
  publication : PublicationId
  epoch : CoordinatorEpoch
  authority : AuthorityContext
  entity : EntityId
  entityGeneration : EntityGeneration
  expectedSetGeneration : CapabilitySetGeneration
  claims : List CapabilityClaim := []
  edits : List IncrementalEdit := []
  coverage : Coverage := .partialSurface
  reason : ReasonToken := .unset
  deriving DecidableEq

inductive PublicationStatus where
  | committed | idempotentReplay | rejected
  deriving DecidableEq, Repr

def publicationStatusName : PublicationStatus → Bytes
  | .committed => txt "committed"
  | .idempotentReplay => txt "idempotent-replay"
  | .rejected => txt "rejected"

/-- Result of one publication attempt. -/
structure PublicationResult where
  status : PublicationStatus := .rejected
  code : ErrorCode := .ok
  message : Bytes := []
  publication : PublicationId
  attempt : MutationAttemptId
  entity : EntityId
  entityGeneration : EntityGeneration
  previousSetGeneration : CapabilitySetGeneration := 0
  newSetGeneration : CapabilitySetGeneration := 0
  registryGeneration : RegistryGeneration
  claimsApplied : Nat := 0
  claimsWithdrawn : Nat := 0
  capabilitiesAdded : Nat := 0
  capabilitiesRemoved : Nat := 0
  capabilitiesChanged : Nat := 0
  diff : CapabilityDiff := { entity := .unset }
  explanation : Explanation := {}
  setDigest : Digest := .zero
  deriving DecidableEq

end FabricCapability.Ports
