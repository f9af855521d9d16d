import FabricCapability.Ports.Operations

/-!
# Queries

Translation of the queries of `src/registry.cpp`: `Query` answers from the entry of a
capability, `QueryEntity` from the materialised set of the entity, and the lookups by state
from the reverse index.

Interned keys are the identifiers themselves here.  A key that was never interned is in no
entity and in no index.
-/

namespace FabricCapability.Ports

open FabricCapability.Verified.KeyedList
open FabricCapability.Verified.StrictOrder

/-! ## Explanations -/

/-- The records that an explanation lists at most among those that are not current. -/
def kMaxSuppressedSteps : Nat := 8

def suppressedStep (record : EvidenceRecord) : ExplanationStep :=
  makeStep (txt "evidence.non-current") (txt "evidence retained but not current")
    ([(txt "evidence", record.id.value),
      (txt "currentness", evidenceCurrentnessName record.currentness),
      (txt "source", record.source.value),
      (txt "provenance", provenanceClassName record.provenance)] ++
      if record.reason.isSet then [(txt "reason", record.reason.value)] else [])

def winnerStep (resolution : CapabilityResolution) : ExplanationStep :=
  makeStep (txt "resolution.winner") (txt "winning evidence")
    [(txt "evidence", resolution.winningEvidence.value),
     (txt "provenance", provenanceClassName resolution.provenance),
     (txt "source_class", evidenceSourceClassName resolution.sourceClass),
     (txt "coverage", coverageName resolution.coverage),
     (txt "durability", durabilityClassName resolution.durability),
     (txt "evidence_generation", decimal resolution.evidenceGeneration.toNat),
     (txt "source_generation", decimal resolution.sourceGeneration.toNat)]

/-- `ExplainResolution`. -/
def explainResolution (entity : Option EntityState) (entry : Option CapabilityEntry) :
    Explanation :=
  match entity, entry with
  | none, _ =>
      { code := txt "capability.entity-unknown"
        summary := txt "the entity is not known to this registry" }
  | some _, none =>
      { code := txt "capability.no-record"
        summary := txt "no capability record exists for this entity generation" }
  | some entity, some entry =>
      let resolution := entry.resolution
      let suppressed := entry.evidence.filter fun record => !isCurrent record.currentness
      { code := txt "capability." ++ capabilityStateName resolution.state
        summary :=
          txt "resolved " ++ entry.id.toText ++ txt " as " ++
            capabilityStateName resolution.state ++ txt " for " ++ entity.id.toText ++
            txt " generation " ++ decimal entity.boundGeneration.toNat
        steps :=
          [makeStep (txt "resolution.criteria")
            (txt "strongest provenance class wins; agreement within the class resolves, disagreement is CONFLICTED, absence of current evidence in the strongest class is REVALIDATION_REQUIRED, and no claim at all is UNKNOWN")
            [(txt "evidence", decimal resolution.evidenceCount),
             (txt "current_evidence", decimal resolution.currentEvidenceCount),
             (txt "outranked_evidence", decimal resolution.outrankedEvidenceCount),
             (txt "conflicting_evidence", decimal resolution.conflictingEvidenceCount)]] ++
          (if resolution.winningEvidence.isSet then [winnerStep resolution] else []) ++
          (suppressed.take kMaxSuppressedSteps).map suppressedStep ++
          if suppressed.length > kMaxSuppressedSteps then
            [makeStep (txt "evidence.non-current-truncated")
              (txt "further non current evidence omitted")
              [(txt "omitted", decimal (suppressed.length - kMaxSuppressedSteps))]]
          else [] }

/-! ## Capability queries -/

/-- Bounded summary of one evidence record attached to a query result. -/
structure EvidenceSummary where
  id : EvidenceId
  source : SourceId
  publisher : PublisherId
  scope : AuthorityScopeId
  workerBoot : WorkerBootId
  provenance : ProvenanceClass
  sourceClass : EvidenceSourceClass
  durability : DurabilityClass
  coverage : Coverage
  state : CapabilityState
  value : CapabilityValue
  hasValue : Bool
  currentness : EvidenceCurrentness
  evidenceGeneration : EvidenceGeneration
  sourceGeneration : SourceGeneration
  epoch : CoordinatorEpoch
  firmwareVersion : VersionToken
  driverVersion : VersionToken
  reason : ReasonToken
  winning : Bool
  conflicting : Bool
  outranked : Bool
  deriving DecidableEq

/-- The summary of a record under the resolution it is part of. -/
def EvidenceRecord.summary (resolution : CapabilityResolution) (record : EvidenceRecord) :
    EvidenceSummary :=
  { id := record.id
    source := record.source
    publisher := record.publisher
    scope := record.scope
    workerBoot := record.workerBoot
    provenance := record.provenance
    sourceClass := record.sourceClass
    durability := record.durability
    coverage := record.coverage
    state := record.state
    value := record.value
    hasValue := !record.value.isAbsent
    currentness := record.currentness
    evidenceGeneration := record.evidenceGeneration
    sourceGeneration := record.sourceGeneration
    epoch := record.epoch
    firmwareVersion := record.firmwareVersion
    driverVersion := record.driverVersion
    reason := record.reason
    winning := record.id == resolution.winningEvidence
    conflicting := resolution.conflictingEvidence.contains record.id
    outranked := provenanceRank record.provenance > provenanceRank resolution.provenance }

def summaryLt (lhs rhs : EvidenceSummary) : Bool :=
  if lhs.provenance ≠ rhs.provenance then
    provenanceRank lhs.provenance < provenanceRank rhs.provenance
  else if lhs.source ≠ rhs.source then lhs.source.lt rhs.source
  else lhs.id.lt rhs.id

/-- Answer to "what does this exact entity generation support now, and why". -/
structure CapabilityQueryResult where
  entity : EntityId
  entityGeneration : EntityGeneration := 0
  capability : CapabilityId
  entityKnown : Bool := false
  recordExists : Bool := false
  state : CapabilityState := .unknown
  value : CapabilityValue := .absent
  hasValue : Bool := false
  registryGeneration : RegistryGeneration
  setGeneration : CapabilitySetGeneration := 0
  capabilityGeneration : CapabilityGeneration := 0
  evidenceGeneration : EvidenceGeneration := 0
  sourceGeneration : SourceGeneration := 0
  winningEvidence : EvidenceId := .unset
  provenance : ProvenanceClass := .syntheticTestBackend
  sourceClass : EvidenceSourceClass := .syntheticBackend
  coverage : Coverage := .partialSurface
  durability : DurabilityClass := .processBound
  actionable : Bool := false
  failsClosed : Bool := true
  evidenceCount : Nat := 0
  currentEvidenceCount : Nat := 0
  outrankedEvidenceCount : Nat := 0
  conflictingEvidenceCount : Nat := 0
  evidence : List EvidenceSummary := []
  explanation : Explanation := {}
  deriving DecidableEq

/-- The step that `Query` writes for an invalidated entity; the explanation of an entry
takes its place. -/
def invalidatedStep (record : EntityState) : ExplanationStep :=
  makeStep (txt "capability.entity-invalidated")
    (txt "the entity generation was invalidated")
    [(txt "reason",
      if record.invalidationReason.isSet then record.invalidationReason.value
      else txt "unspecified")]

/-- The answer from an entry that was resolved. -/
def answerEntry (blank : CapabilityQueryResult) (record : EntityState)
    (entry : CapabilityEntry) : CapabilityQueryResult :=
  let resolution := entry.resolution
  { blank with
    recordExists := true
    state := resolution.state
    value := resolution.value
    hasValue := resolution.hasValue
    capabilityGeneration := resolution.capabilityGeneration
    evidenceGeneration := resolution.evidenceGeneration
    sourceGeneration := resolution.sourceGeneration
    winningEvidence := resolution.winningEvidence
    provenance := resolution.provenance
    sourceClass := resolution.sourceClass
    coverage := resolution.coverage
    durability := resolution.durability
    actionable := resolution.actionable
    failsClosed := resolution.failsClosedState
    evidenceCount := resolution.evidenceCount
    currentEvidenceCount := resolution.currentEvidenceCount
    outrankedEvidenceCount := resolution.outrankedEvidenceCount
    conflictingEvidenceCount := resolution.conflictingEvidenceCount
    explanation := explainResolution (some record) (some entry)
    evidence := sortBy summaryLt (entry.evidence.map (·.summary resolution)) }

/-- The answer when there is no entry, or one that was never resolved. -/
def answerNothing (blank : CapabilityQueryResult) (record : EntityState)
    (capability : CapabilityId) : CapabilityQueryResult :=
  { blank with
    explanation :=
      { code := txt "capability.no-record"
        summary := txt "no capability claim exists for this entity generation"
        steps :=
          (if record.invalidated then [invalidatedStep record] else []) ++
          [makeStep (txt "capability.no-record")
            (txt "the capability has never been claimed for this entity")
            [(txt "capability", capability.toText),
             (txt "entity_generation", decimal record.currentGeneration.toNat)]] } }

/-- `Query`; it never fails. -/
def query (registry : Registry) (entity : EntityId) (capability : CapabilityId) :
    CapabilityQueryResult :=
  let unknown : CapabilityQueryResult :=
    { entity, capability, registryGeneration := registry.registryGeneration }
  match registry.findEntity entity with
  | none =>
      { unknown with
        explanation :=
          { code := txt "capability.entity-unknown"
            summary := txt "the entity is not known to this registry"
            steps :=
              [makeStep (txt "capability.entity-unknown")
                (txt "no capability truth is held for this entity")
                [(txt "entity", entity.toText)]] } }
  | some record =>
      let blank : CapabilityQueryResult :=
        { unknown with
          entityKnown := true
          entityGeneration := record.currentGeneration
          setGeneration := record.setGeneration }
      match record.findCapability capability with
      | none => answerNothing blank record capability
      | some entry =>
          if entry.resolution.capability.isSet then answerEntry blank record entry
          else answerNothing blank record capability

/-! ## Entity queries -/

def unknownEntity {α : Type} (entity : EntityId) : Outcome α :=
  failure .unknownEntity (txt "the entity is not known to this registry") entity.toText

/-- What `QueryEntity` answers for an entity without a set. -/
def emptySet (registryGeneration : RegistryGeneration) (entity : EntityState) :
    EntityCapabilitySet :=
  { entity := entity.id
    entityGeneration := entity.currentGeneration
    setGeneration := 0
    registryGeneration
    invalidated := entity.invalidated
    invalidationReason := entity.invalidationReason
    capabilities := []
    digest := .zero }

/-- `QueryEntity`. -/
def queryEntity (registry : Registry) (entity : EntityId) : Outcome EntityCapabilitySet :=
  match registry.findEntity entity with
  | none => unknownEntity entity
  | some record => .ok (record.set.getD (emptySet registry.registryGeneration record))

/-- The check of the overloads that name a generation. -/
def requireCurrent (registry : Registry) (entity : EntityId) (generation : EntityGeneration) :
    Outcome Unit :=
  match registry.findEntity entity with
  | none => unknownEntity entity
  | some record =>
      if generation ≠ record.currentGeneration then
        failure .unknownEntityGeneration
          (txt "capability truth is only served for the current entity generation")
          (txt "requested=" ++ decimal generation.toNat ++ txt " current=" ++
            decimal record.currentGeneration.toNat)
      else .ok ()

def queryAt (registry : Registry) (entity : EntityId) (generation : EntityGeneration)
    (capability : CapabilityId) : Outcome CapabilityQueryResult := do
  requireCurrent registry entity generation
  return query registry entity capability

def queryEntityAt (registry : Registry) (entity : EntityId) (generation : EntityGeneration) :
    Outcome EntityCapabilitySet := do
  requireCurrent registry entity generation
  queryEntity registry entity

/-! ## Lookups -/

/-- `Entities`. -/
def entityIds (registry : Registry) : List EntityId :=
  sortBy EntityId.lt (registry.entities.map EntityState.id)

/-- `EntitiesSupporting`. -/
def entitiesSupporting (registry : Registry) (capability : CapabilityId) : List EntityId :=
  sortBy EntityId.lt (registry.indexes.bucket capability .supported)

/-- `EntitiesNotSupporting`. -/
def entitiesNotSupporting (registry : Registry) (capability : CapabilityId) :
    List EntityId :=
  sortBy EntityId.lt (registry.indexes.bucket capability .unsupported)

/-- `EntitiesWithState`. -/
def entitiesWithState (registry : Registry) (state : CapabilityState) : List EntityId :=
  sortBy EntityId.lt
    ((registry.indexes.reverse.flatMap fun entry => entry.bucket state).foldl insertMember [])

/-- `CapabilitiesInNamespace`: a set ordered by rendered text. -/
def capabilitiesInNamespace (registry : Registry) (ns : CapabilityNamespaceId) :
    List CapabilityId :=
  sortBy CapabilityId.lt
    (((lookup Prod.fst ns registry.indexes.namespaces).map Prod.snd).getD [])

def revalidationLt (a b : EntityId × CapabilityId) : Bool :=
  if a.1 ≠ b.1 then a.1.lt b.1 else a.2.lt b.2

/-- `CapabilitiesRequiringRevalidation`. -/
def capabilitiesRequiringRevalidation (registry : Registry) :
    List (EntityId × CapabilityId) :=
  sortBy revalidationLt registry.indexes.revalidation

/-- `EvidenceFor`. -/
def evidenceFor (registry : Registry) (entity : EntityId) (capability : CapabilityId) :
    List EvidenceSummary :=
  (query registry entity capability).evidence

end FabricCapability.Ports
