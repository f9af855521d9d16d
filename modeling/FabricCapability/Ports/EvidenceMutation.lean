import FabricCapability.Ports.Resolution

/-!
# Mutating the evidence of one entity

Translation of the "evidence mutation" part of `src/registry.cpp`.  The functions there
replace some records of an entry by relabelled copies, append new records, and resolve
the entries they touched.  What they share with the rest of the registry is the
indexes and the arrival counter, so they work on a `Cell`: these two and the entity.

`SupersedeIdentity`, `SupersedeOtherIdentities`, `WithdrawIdentityClaim` and
`MarkNonCurrent` relabel different records with different labels; `relabelEntry` is the
body they have in common.

Stage 10 of `Publish` is a loop for each publication mode.  The bodies of these loops
are the steps of `ApplyStep`, and `runSteps` runs them until one fails.
-/

namespace FabricCapability.Ports

open FabricCapability.Verified.KeyedList

/-- An entity under mutation, with the shared state that its mutation touches. -/
structure Cell where
  indexes : Indexes
  arrivalSequence : UInt64
  entity : EntityState
  deriving DecidableEq

/-! ## Relabelling records -/

/-- The copies that replace the matching records. -/
def relabel (matching : EvidenceRecord → Bool) (currentness : EvidenceCurrentness)
    (reason : ReasonToken) (evidence : List EvidenceRecord) : List EvidenceRecord :=
  evidence.map fun record =>
    if matching record then { record with currentness, reason } else record

/-- Relabel the matching records of an entry; an entry that was touched takes its next
generation, unless that is exhausted, and is resolved again. -/
def relabelEntry (entity : EntityId) (bound : EntityGeneration)
    (matching : EvidenceRecord → Bool) (currentness : EvidenceCurrentness)
    (reason : ReasonToken) (indexes : Indexes) (entry : CapabilityEntry) :
    Indexes × CapabilityEntry :=
  if entry.evidence.any matching then
    resolveCapability indexes entity bound
      { entry with
        evidence := relabel matching currentness reason entry.evidence
        generation := nextOrSame entry.generation }
  else (indexes, entry)

/-- `relabelEntry` on every entry of an entity. -/
def relabelEntity (matching : EvidenceRecord → Bool) (currentness : EvidenceCurrentness)
    (reason : ReasonToken) (indexes : Indexes) (entity : EntityState) :
    Indexes × EntityState :=
  let (indexes, capabilities) :=
    mapAccum (relabelEntry entity.id entity.boundGeneration matching currentness reason)
      indexes entity.capabilities
  (indexes, { entity with capabilities })

def Cell.relabelEntity (matching : EvidenceRecord → Bool)
    (currentness : EvidenceCurrentness) (reason : ReasonToken) (cell : Cell) : Cell :=
  let (indexes, entity) := Ports.relabelEntity matching currentness reason cell.indexes
    cell.entity
  { cell with indexes, entity }

/-- A live record of one publishing identity. -/
def liveOf (key : SourceKey) (record : EvidenceRecord) : Bool :=
  record.source == key.source && record.workerBoot == key.boot &&
    !isRetired record.currentness

def supersedeIdentity (key : SourceKey) (reason : ReasonToken) : Cell → Cell :=
  Cell.relabelEntity (liveOf key) .superseded reason

/-- Durable administrative declarations survive an exclusive snapshot. -/
def supersedeOtherIdentities (keep : PublisherKey) (reason : ReasonToken) : Cell → Cell :=
  Cell.relabelEntity
    (fun record =>
      !(record.publisher == keep.publisher && record.workerBoot == keep.boot) &&
        record.durability != .durable && !isRetired record.currentness)
    .superseded reason

/-- The records that `MarkNonCurrent` demotes. -/
def demotes (boot : Option WorkerBootId) (source : Option SourceId) (includeDurable : Bool)
    (record : EvidenceRecord) : Bool :=
  (boot.all fun b => record.workerBoot == b) &&
    (source.all fun s => record.source == s) &&
    (includeDurable || record.durability != .durable) && isCurrent record.currentness

/-- `MarkNonCurrent` on every entry of an entity: fencing, invalidation and the
advance of the coordinator epoch. -/
def markNonCurrent (currentness : EvidenceCurrentness) (reason : ReasonToken)
    (boot : Option WorkerBootId) (source : Option SourceId) (includeDurable : Bool) :
    Indexes → EntityState → Indexes × EntityState :=
  relabelEntity (demotes boot source includeDurable) currentness reason

/-! ## Applying a claim -/

/-- The evidence generation after the highest one of this identity in the entry. -/
def nextEvidenceGeneration (entry : CapabilityEntry) (key : SourceKey) :
    EvidenceGeneration :=
  let highest := entry.evidence.foldl (fun highest record =>
    if record.source = key.source ∧ record.workerBoot = key.boot ∧
        record.evidenceGeneration ≥ highest then record.evidenceGeneration
    else highest) 0
  (counterNext highest).toOption.getD 0xFFFFFFFFFFFFFFFF

def liveEvidenceCount (evidence : List EvidenceRecord) : Nat :=
  evidence.countP fun record =>
    isCurrent record.currentness || record.currentness == .revalidationRequired ||
      record.currentness == .fenced

/-- Erase the first `n` retired records, as far as there are so many. -/
def eraseRetired : Nat → List EvidenceRecord → List EvidenceRecord
  | 0, evidence => evidence
  | _, [] => []
  | n + 1, record :: evidence =>
      if isRetired record.currentness then eraseRetired n evidence
      else record :: eraseRetired (n + 1) evidence

/-- `TrimEvidence`: the first retired record is erased as long as there is one and the
evidence is over its bound. -/
def trimEvidence (bound : Nat) (evidence : List EvidenceRecord) : List EvidenceRecord :=
  eraseRetired (evidence.length - bound) evidence

/-- The authority context as the key of the identity that publishes. -/
def PublicationRequest.sourceKey (request : PublicationRequest) : SourceKey :=
  { source := request.authority.source, boot := request.authority.workerBoot }

def PublicationRequest.publisherKey (request : PublicationRequest) : PublisherKey :=
  { publisher := request.authority.publisher, boot := request.authority.workerBoot }

/-- The record that `ApplyClaim` appends. -/
def newRecord (registry : Registry) (request : PublicationRequest) (cell : Cell)
    (claim : CapabilityClaim) (coverage : Coverage) (generation : EvidenceGeneration) :
    EvidenceRecord :=
  { id := makeEvidenceId request.authority.publisher request.authority.workerBoot
      request.attempt cell.entity.id cell.entity.boundGeneration claim.capability generation
    capability := claim.capability
    entity := cell.entity.id
    entityGeneration := cell.entity.boundGeneration
    source := request.authority.source
    publisher := request.authority.publisher
    scope := request.authority.scope
    workerBoot := request.authority.workerBoot
    epoch := registry.epoch
    sourceGeneration := request.authority.sourceGeneration
    evidenceGeneration := generation
    attempt := request.attempt
    publication := request.publication
    provenance := claim.provenance
    sourceClass := claim.sourceClass
    durability := claim.durability
    coverage
    state := claim.state
    value := claim.value
    firmwareVersion := claim.firmwareVersion
    driverVersion := claim.driverVersion
    reason := claim.reason
    currentness := .current
    acceptedGeneration := registry.registryGeneration
    arrivalSequence := cell.arrivalSequence + 1 }

def Cell.setEntry (cell : Cell) (entry : CapabilityEntry) : Cell :=
  { cell with
    entity :=
      { cell.entity with
        capabilities := upsert CapabilityEntry.id entry cell.entity.capabilities } }

/-- Resolve an entry and store it in the entity. -/
def Cell.resolveEntry (cell : Cell) (entry : CapabilityEntry) : Cell :=
  let (indexes, entry) := resolveCapability cell.indexes cell.entity.id
    cell.entity.boundGeneration entry
  { cell with indexes }.setEntry entry

def capabilityGenerationExhausted (capability : CapabilityId) : Outcome Unit :=
  failure .arithmeticOverflow (txt "capability generation exhausted") capability.toText

/-- `ApplyClaim` once the entry exists.  What was done to the entry stays done when a
later check fails. -/
def applyToEntry (registry : Registry) (request : PublicationRequest)
    (claim : CapabilityClaim) (coverage : Coverage) (cell : Cell)
    (entry : CapabilityEntry) : Cell × Outcome Unit :=
  let generation := nextEvidenceGeneration entry request.sourceKey
  let retained := trimEvidence registry.options.maxEvidencePerCapability
    (relabel (liveOf request.sourceKey) .superseded request.reason entry.evidence)
  let entry := { entry with evidence := retained }
  if liveEvidenceCount retained ≥ registry.options.maxEvidencePerCapability then
    (cell.setEntry entry,
      failure .evidenceLimitExceeded (txt "capability evidence limit reached")
        claim.capability.toText)
  else
    let record := newRecord registry request cell claim coverage generation
    let cell := { cell with arrivalSequence := record.arrivalSequence }
    let entry := { entry with evidence := retained ++ [record] }
    match counterNext entry.generation with
    | .error _ => (cell.setEntry entry, capabilityGenerationExhausted claim.capability)
    | .ok next => (cell.resolveEntry { entry with generation := next }, .ok ())

/-- `ApplyClaim`. -/
def applyClaim (registry : Registry) (request : PublicationRequest)
    (claim : CapabilityClaim) (coverage : Coverage) (cell : Cell) : Cell × Outcome Unit :=
  match cell.entity.findCapability claim.capability with
  | some entry => applyToEntry registry request claim coverage cell entry
  | none =>
      if cell.entity.capabilities.length ≥ registry.options.maxCapabilitiesPerEntity then
        (cell,
          failure .claimCountExceeded (txt "entity capability limit reached")
            (decimal registry.options.maxCapabilitiesPerEntity))
      else applyToEntry registry request claim coverage cell { id := claim.capability }

/-- `WithdrawIdentityClaim`. -/
def withdrawIdentityClaim (request : PublicationRequest) (capability : CapabilityId)
    (cell : Cell) : Cell × Outcome Unit :=
  match cell.entity.findCapability capability with
  | none => (cell, .ok ())
  | some entry =>
      if entry.evidence.any (liveOf request.sourceKey) then
        let entry :=
          { entry with
            evidence :=
              relabel (liveOf request.sourceKey) .superseded request.reason entry.evidence }
        match counterNext entry.generation with
        | .error _ => (cell.setEntry entry, capabilityGenerationExhausted capability)
        | .ok next => (cell.resolveEntry { entry with generation := next }, .ok ())
      else (cell, .ok ())

/-! ## The apply loops of `Publish` -/

/-- One call in the loops of stage 10. -/
inductive ApplyStep where
  | supersedeOtherIdentities
  | supersedeIdentity
  | applyClaim (claim : CapabilityClaim) (coverage : Coverage)
  | withdrawClaim (capability : CapabilityId)
  /-- A `SupersedeSourceEvidence` edit is counted each time and acts the first time. -/
  | countSuperseded
  deriving DecidableEq

namespace ApplyStep

def run (registry : Registry) (request : PublicationRequest) (cell : Cell) :
    ApplyStep → Cell × Outcome Unit
  | supersedeOtherIdentities =>
      (Ports.supersedeOtherIdentities request.publisherKey request.reason cell, .ok ())
  | supersedeIdentity =>
      (Ports.supersedeIdentity request.sourceKey request.reason cell, .ok ())
  | applyClaim claim coverage => Ports.applyClaim registry request claim coverage cell
  | withdrawClaim capability => withdrawIdentityClaim request capability cell
  | countSuperseded => (cell, .ok ())

/-- The steps that `claims_applied` counts. -/
def applies : ApplyStep → Bool
  | applyClaim .. => true
  | _ => false

/-- The steps that `claims_withdrawn` counts. -/
def withdraws : ApplyStep → Bool
  | withdrawClaim .. => true
  | countSuperseded => true
  | _ => false

end ApplyStep

/-- Run the steps in order until one fails. -/
def runSteps (registry : Registry) (request : PublicationRequest) :
    Cell → List ApplyStep → Cell × Outcome Unit
  | cell, [] => (cell, .ok ())
  | cell, step :: steps =>
      match step.run registry request cell with
      | (cell, .error e) => (cell, .error e)
      | (cell, .ok ()) => runSteps registry request cell steps

def namespaceAllowed (grant : AuthorityGrant) (ns : CapabilityNamespaceId) : Bool :=
  grant.namespaces.any fun allowed => allowed == ns

/-- The claim of an edit, with the state that its operation imposes. -/
def IncrementalEdit.effectiveClaim (edit : IncrementalEdit) : CapabilityClaim :=
  let claim := { edit.claim with capability := edit.capability }
  match edit.operation with
  | .markUnsupported => { claim with state := .unsupported }
  | .markUnknown => { claim with state := .unknown }
  | .markRevalidationRequired => { claim with state := .revalidationRequired }
  | _ => claim

/-- The claim that a capability is unsupported because the snapshot leaves it out. -/
def impliedAbsence (grant : AuthorityGrant) (request : PublicationRequest)
    (descriptor : CapabilityDescriptor) : CapabilityClaim where
  capability := descriptor.id
  state := .unsupported
  provenance := (request.claims.head?.map (·.provenance)).getD grant.strongestProvenance
  sourceClass := (request.claims.head?.map (·.sourceClass)).getD .hardwareEnumeration
  coverage := .fullEnumeration
  reason := request.reason

/-- The claims that an exclusive full enumeration adds: an unmentioned capability whose
absence is meaningful is unsupported.  `mentioned` is a set ordered by rendered text. -/
def absenceClaims (schema : CapabilitySchema) (grant : AuthorityGrant)
    (request : PublicationRequest) : List CapabilityClaim :=
  let absent := schema.descriptors.filter fun descriptor =>
    descriptor.absenceIsNegative && descriptor.id.isSet &&
      !(request.claims.any fun claim => claim.capability.toText == descriptor.id.toText) &&
      namespaceAllowed grant descriptor.id.ns
  absent.map (impliedAbsence grant request)

def fullSnapshotSteps (schema : CapabilitySchema) (grant : AuthorityGrant)
    (request : PublicationRequest) : List ApplyStep :=
  (if grant.exclusive then [.supersedeOtherIdentities] else []) ++
  [.supersedeIdentity] ++
  request.claims.map (.applyClaim · request.coverage) ++
  (if grant.exclusive && request.coverage == .fullEnumeration then
    (absenceClaims schema grant request).map (.applyClaim · .fullEnumeration)
  else [])

def partialObservationSteps (request : PublicationRequest) : List ApplyStep :=
  request.claims.map (.applyClaim · request.coverage)

/-- The edits of an incremental publication; `superseded` is `superseded_source`. -/
def incrementalSteps (superseded : Bool) : List IncrementalEdit → List ApplyStep
  | [] => []
  | edit :: edits =>
      match edit.operation with
      | .withdrawClaim => .withdrawClaim edit.capability :: incrementalSteps superseded edits
      | .supersedeSourceEvidence =>
          if superseded then .countSuperseded :: incrementalSteps true edits
          else .supersedeIdentity :: .countSuperseded :: incrementalSteps true edits
      | _ =>
          .applyClaim edit.effectiveClaim edit.claim.coverage ::
            incrementalSteps superseded edits

def applySteps (schema : CapabilitySchema) (grant : AuthorityGrant)
    (request : PublicationRequest) : List ApplyStep :=
  match request.mode with
  | .fullSnapshot => fullSnapshotSteps schema grant request
  | .partialObservation => partialObservationSteps request
  | .incremental => incrementalSteps false request.edits

end FabricCapability.Ports
