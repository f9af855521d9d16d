import FabricCapability.Ports.EvidenceMutation

/-!
# Publishing

Translation of `CapabilityRegistry::Impl::Publish` of `src/registry.cpp`, stage by
stage under the numbers of the source:

1. to 5. validate the request (`validateRequest`), without any mutation;
6. creates the entity or retires its generation (`bindEntity`);
7. answers a duplicate attempt (`classifyAttempt`);
8. and 9. check the source floor and the expected generation (`checkPreconditions`);
10. applies the claims or edits (`applyRequest`);
11. commits (`commit`).

A rejection writes the journal and returns a result; a `Failure` returns an error.
Either leaves behind what the stages before it did.
-/

namespace FabricCapability.Ports

open FabricCapability.Verified.KeyedList
open FabricCapability.Verified.StrictOrder

/-! ## Journal and replay memory -/

/-- `RecordJournal`.  The front of an empty queue is taken only when the bound is zero,
which the model answers with no eviction. -/
def Journal.record (bound : Nat) (journal : Journal) (entry : JournalEntry) : Journal :=
  let journal :=
    if journal.entries.length ≥ bound then
      match journal.order with
      | [] => journal
      | oldest :: order =>
          { journal with
            order
            entries := journal.entries.filter fun held => held.publication ≠ oldest }
    else journal
  { entries := upsert JournalEntry.publication entry journal.entries
    order := journal.order ++ [entry.publication]
    attempts := upsert Prod.fst (entry.attempt, entry.publication) journal.attempts }

def Registry.recordJournal (registry : Registry) (entry : JournalEntry) : Registry :=
  { registry with
    journal := registry.journal.record registry.options.maxRejectionJournalEntries entry }

/-- `RegisterReplay`, for a publisher that is registered. -/
def Registry.registerReplay (registry : Registry) (key : PublisherKey)
    (record : ReplayRecord) : Registry :=
  let remember (runtime : PublisherRuntime) : PublisherRuntime :=
    let replay :=
      if runtime.replay.length ≥ registry.options.maxReplayEntriesPerPublisher then
        runtime.replay.tail
      else runtime.replay
    { runtime with replay := replay ++ [record] }
  { registry with
    publishers := registry.publishers.map fun held =>
      if held.1 = key then (held.1, remember held.2) else held }

/-! ## Texts -/

/-- `RejectionExplanation`. -/
def rejectionExplanation (e : Error) (request : PublicationRequest) : Explanation :=
  { code := txt "publication.rejected." ++ errorCodeName e.code
    summary := e.message
    steps :=
      makeStep (txt "publication.request") (txt "rejected publication request")
        [(txt "publication", request.publication.value),
         (txt "attempt", request.attempt.value),
         (txt "mode", publicationModeName request.mode),
         (txt "entity", request.entity.toText),
         (txt "entity_generation", decimal request.entityGeneration.toNat),
         (txt "expected_set_generation", decimal request.expectedSetGeneration.toNat),
         (txt "publisher", request.authority.publisher.value),
         (txt "worker_boot", request.authority.workerBoot.value),
         (txt "scope", request.authority.scope.value),
         (txt "claims", decimal request.claims.length),
         (txt "edits", decimal request.edits.length)] ::
      (if e.detail.isEmpty then []
      else
        [makeStep (txt "publication.failure") e.detail
          [(txt "error_code", errorCodeName e.code)]]) }

/-- What `RequestContentDigest` writes for a claim before its firmware version. -/
def claimDigestFields (claim : CapabilityClaim) : Bytes :=
  u8 claim.state.toByte ++
  claim.value.encode ++
  u8 (provenanceRank claim.provenance) ++
  u8 claim.sourceClass.toByte ++
  u8 claim.durability.toByte ++
  u8 claim.coverage.toByte

/-- `RequestContentDigest`.  The expected generation is a precondition and not content. -/
def requestContentDigest (request : PublicationRequest) (grant : AuthorityGrant) : Digest :=
  computeDigest <|
    u8 request.mode.toByte ++
    putText request.entity.toText kMaxEntityIdLength ++
    u64 request.entityGeneration ++
    u8 request.coverage.toByte ++
    putText request.authority.scope.value kMaxAuthorityScopeIdLength ++
    putText request.authority.source.value kMaxSourceIdLength ++
    u64 request.authority.sourceGeneration ++
    putText request.reason.value kMaxTextLength ++
    u8 (if grant.exclusive then 1 else 0) ++
    sizeU32 request.claims.length ++
    (request.claims.flatMap fun claim =>
      putText claim.capability.toText kMaxCapabilityIdLength ++
      claimDigestFields claim ++
      putText claim.firmwareVersion.value kMaxVersionTokenLength ++
      putText claim.driverVersion.value kMaxVersionTokenLength ++
      putText claim.reason.value kMaxTextLength) ++
    sizeU32 request.edits.length ++
    (request.edits.flatMap fun edit =>
      u8 edit.operation.toByte ++
      putText edit.capability.toText kMaxCapabilityIdLength ++
      claimDigestFields edit.claim)

/-! ## Stages 1 to 5: validation -/

/-- Stage 1. -/
def checkShape (request : PublicationRequest) : Outcome Unit :=
  if !request.publication.isSet then
    failure .invalidArgument (txt "publication identifier is required") []
  else if !request.attempt.isSet then
    failure .invalidArgument (txt "mutation attempt identifier is required") []
  else if !request.entity.isSet then
    failure .invalidArgument (txt "entity identifier is required") []
  else if request.entityGeneration = 0 then
    failure .invalidArgument (txt "entity generation is required") []
  else if !request.authority.publisher.isSet || !request.authority.workerBoot.isSet ||
      !request.authority.scope.isSet || !request.authority.source.isSet then
    failure .invalidArgument
      (txt "publisher, worker boot, authority scope and source are required") []
  else if request.mode = .incremental ∧ !request.claims.isEmpty then
    failure .invalidArgument (txt "an incremental publication carries edits, not claims") []
  else if request.mode ≠ .incremental ∧ !request.edits.isEmpty then
    failure .invalidArgument (txt "a snapshot publication carries claims, not edits") []
  else if request.mode = .partialObservation ∧ request.claims.isEmpty then
    failure .emptyCollection
      (txt "a partial observation must contain at least one claim") []
  else if request.mode = .incremental ∧ request.edits.isEmpty then
    failure .emptyCollection
      (txt "an incremental publication must contain at least one edit") []
  else if request.claims.length > kMaxClaimsPerPublication then
    failure .tooManyItems (txt "publication exceeds the claim bound")
      (txt "claims=" ++ decimal request.claims.length)
  else if request.edits.length > kMaxClaimsPerPublication then
    failure .tooManyItems (txt "publication exceeds the edit bound")
      (txt "edits=" ++ decimal request.edits.length)
  else .ok ()

/-- Stage 2. -/
def checkEpoch (registry : Registry) (request : PublicationRequest) : Outcome Unit :=
  let detail :=
    txt "request=" ++ decimal request.epoch.toNat ++ txt " current=" ++
      decimal registry.epoch.toNat
  if request.epoch = 0 ∨ request.epoch < registry.epoch then
    failure .coordinatorEpochStale
      (txt "the publication carries a stale coordinator epoch") detail
  else if request.epoch > registry.epoch then
    failure .coordinatorEpochUnknown
      (txt "the publication carries an unknown coordinator epoch") detail
  else .ok ()

/-- Stage 3. -/
def checkPublisher (registry : Registry) (request : PublicationRequest) :
    Outcome PublisherRuntime :=
  if request.authority.workerBoot ∈ registry.fencedBoots then
    failure .workerBootFenced (txt "the worker boot identity is permanently fenced")
      (txt "worker_boot=" ++ request.authority.workerBoot.value)
  else
    match registry.findRuntime request.publisherKey with
    | none =>
        failure .unauthorizedPublisher
          (txt "the publishing instance is not registered with this coordinator")
          (txt "publisher=" ++ request.authority.publisher.value)
    | some runtime =>
        if !runtime.active then
          failure .workerBootStale
            (txt "the publishing instance registration is no longer active") []
        else if runtime.registration.scope ≠ request.authority.scope then
          failure .authorityScopeViolation
            (txt "the publication scope does not match the registered scope")
            (txt "registered=" ++ runtime.registration.scope.value ++ txt " request=" ++
              request.authority.scope.value)
        else if runtime.registration.epoch ≠ registry.epoch then
          failure .coordinatorEpochStale
            (txt "the publishing instance was registered under an older coordinator epoch") []
        else .ok runtime

/-- Stage 4. -/
def checkGrant (registry : Registry) (request : PublicationRequest) :
    Outcome AuthorityGrant :=
  match registry.findGrant request.authority.scope with
  | none =>
      failure .unknownAuthorityScope (txt "the authority scope is not declared")
        request.authority.scope.value
  | some grant =>
      if !allowsMode grant.modes request.mode then
        failure .publicationModeNotAuthorized
          (txt "the authority scope may not publish in this mode")
          (txt "mode=" ++ publicationModeName request.mode)
      else if request.entity.kind ∉ grant.entityKinds then
        failure .authorityScopeViolation
          (txt "the authority scope may not publish for this entity class")
          (fabricEntityKindName request.entity.kind)
      else if request.claims.length > grant.maxClaimsPerPublication then
        failure .claimCountExceeded
          (txt "the publication exceeds the claim bound of the authority scope")
          (decimal grant.maxClaimsPerPublication)
      else .ok grant

/-- `ValidateClaimShape`. -/
def validateClaimShape (descriptor : CapabilityDescriptor) (claim : CapabilityClaim) :
    Outcome Unit :=
  let needsValue :=
    descriptor.kind != .boolean && (claim.state == .supported || claim.state == .unsupported)
  if claim.value.isAbsent then
    if needsValue then
      failure .valueTypeMismatch
        (txt "a typed capability claim requires a value for this descriptor")
        (descriptor.id.toText ++ txt " expects " ++ valueKindName descriptor.kind)
    else .ok ()
  else if claim.state = .unknown then
    failure .valueContradiction (txt "an UNKNOWN claim must not carry a value")
      descriptor.id.toText
  else validateValueAgainstDescriptor descriptor claim.value

def namespaceViolation (ns : CapabilityNamespaceId) : Outcome Unit :=
  failure .authorityScopeViolation
    (txt "the authority scope does not cover this capability namespace") ns.text

/-- The `check_claim` of stage 5; `seen` holds the rendered texts of the claims before. -/
def checkClaim (schema : CapabilitySchema) (grant : AuthorityGrant) (seen : List Bytes)
    (claim : CapabilityClaim) : Outcome Unit :=
  if !claim.capability.isSet then
    failure .invalidArgument (txt "claim capability identifier is required") []
  else if !namespaceAllowed grant claim.capability.ns then
    namespaceViolation claim.capability.ns
  else if claim.capability.toText ∈ seen then
    failure .duplicateClaim (txt "the publication declares one capability more than once")
      claim.capability.toText
  else do
    let descriptor ← schema.find claim.capability
    if provenanceRank claim.provenance < provenanceRank grant.strongestProvenance then
      failure .provenanceNotAuthorized
        (txt "the authority scope may not claim provenance stronger than it holds")
        (provenanceClassName claim.provenance)
    else if provenanceRank claim.provenance <
        provenanceRank (strongestProvenanceForSource claim.sourceClass) then
      failure .provenanceNotAuthorized
        (txt "the declared evidence source class cannot support the declared provenance")
        (evidenceSourceClassName claim.sourceClass ++ txt " -> " ++
          provenanceClassName claim.provenance)
    else if claim.durability == .durable && !grant.mayPublishDurable then
      failure .durablePublicationNotAuthorized
        (txt "the authority scope may not publish durable declarations") []
    else if claim.durability == .durable && isLiveProcessObservation claim.provenance then
      failure .durablePublicationNotAuthorized
        (txt "a live hardware, driver, operating system or agent observation may never be declared durable")
        (provenanceClassName claim.provenance)
    else validateClaimShape descriptor claim

def checkClaims (schema : CapabilitySchema) (grant : AuthorityGrant) :
    List Bytes → List CapabilityClaim → Outcome Unit
  | _, [] => .ok ()
  | seen, claim :: claims => do
      checkClaim schema grant seen claim
      checkClaims schema grant (claim.capability.toText :: seen) claims

/-- The body of the loop over the edits in stage 5. -/
def checkEdit (schema : CapabilitySchema) (grant : AuthorityGrant) (edit : IncrementalEdit) :
    Outcome Unit :=
  if !edit.capability.isSet then
    failure .invalidArgument (txt "edit capability identifier is required") []
  else if !namespaceAllowed grant edit.capability.ns then
    namespaceViolation edit.capability.ns
  else do
    let descriptor ← schema.find edit.capability
    if edit.operation = .withdrawClaim ∨ edit.operation = .supersedeSourceEvidence then
      .ok ()
    else
      let claim := edit.effectiveClaim
      if provenanceRank claim.provenance < provenanceRank grant.strongestProvenance ∨
          provenanceRank claim.provenance <
            provenanceRank (strongestProvenanceForSource claim.sourceClass) then
        failure .provenanceNotAuthorized
          (txt "the declared provenance is not authorized for this scope or source")
          (provenanceClassName claim.provenance)
      else if claim.durability == .durable &&
          (!grant.mayPublishDurable || isLiveProcessObservation claim.provenance) then
        failure .durablePublicationNotAuthorized
          (txt "a durable declaration requires an authorized durable scope and a provenance that is not a live process observation")
          (provenanceClassName claim.provenance)
      else validateClaimShape descriptor claim

def checkEdits (schema : CapabilitySchema) (grant : AuthorityGrant) :
    List IncrementalEdit → Outcome Unit
  | [] => .ok ()
  | edit :: edits => do
      checkEdit schema grant edit
      checkEdits schema grant edits

/-- Stages 1 to 5: the runtime of the publisher and the grant of its scope, for a
request that passes every check. -/
def validateRequest (registry : Registry) (request : PublicationRequest) :
    Outcome (PublisherRuntime × AuthorityGrant) := do
  checkShape request
  checkEpoch registry request
  let runtime ← checkPublisher registry request
  let grant ← checkGrant registry request
  checkClaims registry.schema grant [] request.claims
  checkEdits registry.schema grant request.edits
  return (runtime, grant)

/-! ## Stage 6: the entity and its generation -/

/-- `RetireGeneration`: what was held becomes history. -/
def retireGeneration (options : Options) (registryGeneration : RegistryGeneration)
    (entity : EntityState) (next : EntityGeneration) (reason : ReasonToken) :
    EntityState :=
  let history :=
    match entity.hasSet, entity.set with
    | true, some set =>
        let summary : EntityGenerationSummary :=
          { generation := entity.boundGeneration
            setGeneration := entity.setGeneration
            digest := set.digest
            capabilityCount := set.capabilities.length
            supportedCount := set.countOf .supported
            retiredAt := registryGeneration
            reason }
        let capabilityIds :=
          (set.capabilities.map CapabilityResolution.capability).take
            kMaxRetainedCapabilityIds
        ({ summary, capabilityIds } :: entity.history).take
          options.maxEntityGenerationsRetained
    | _, _ => entity.history
  { entity with
    history
    capabilities := []
    sourceHighWater := []
    set := none
    hasSet := false
    setGeneration := 0
    boundGeneration := next
    currentGeneration := next
    invalidated := false
    invalidationReason := .unset }

/-- The entity that `Publish` and `ObserveEntityGeneration` create. -/
def newEntity (registryGeneration : RegistryGeneration) (id : EntityId)
    (generation : EntityGeneration) : EntityState :=
  { id
    currentGeneration := generation
    boundGeneration := generation
    touchedAt := registryGeneration }

/-- How `Publish` ends before it has committed anything. -/
inductive Refusal where
  /-- A result with status `Rejected`, which the journal keeps. -/
  | rejected (e : Error)
  /-- `Outcome::Failure`. -/
  | failed (e : Error)
  deriving DecidableEq

def registryGenerationExhausted : Error :=
  { code := .arithmeticOverflow, message := txt "registry generation exhausted" }

/-- The second half of stage 6, for an entity that is held. -/
def bindGeneration (registry : Registry) (request : PublicationRequest)
    (entity : EntityState) : Registry × Except Refusal EntityState :=
  if request.entityGeneration < entity.currentGeneration then
    (registry, .error (.rejected
      { code := .entityGenerationStale
        message := txt "the publication targets a superseded entity generation"
        detail :=
          txt "request=" ++ decimal request.entityGeneration.toNat ++ txt " current=" ++
            decimal entity.currentGeneration.toNat }))
  else if request.entityGeneration > entity.currentGeneration then
    let entity := retireGeneration registry.options registry.registryGeneration entity
      request.entityGeneration (makeReason (txt "superseded-by-fabric-registry"))
    match counterNext registry.registryGeneration with
    | .error _ => (registry.setEntity entity, .error (.failed registryGenerationExhausted))
    | .ok next =>
        let entity := { entity with touchedAt := next }
        ({ registry with registryGeneration := next }.setEntity entity, .ok entity)
  else (registry, .ok entity)

/-- Stage 6. -/
def bindEntity (registry : Registry) (request : PublicationRequest) :
    Registry × Except Refusal EntityState :=
  match registry.findEntity request.entity with
  | some entity => bindGeneration registry request entity
  | none =>
      if registry.entities.length ≥ registry.options.maxEntities then
        (registry, .error (.failed
          { code := .tooManyItems
            message := txt "entity limit reached"
            detail := decimal registry.options.maxEntities }))
      else
        let entity := newEntity registry.registryGeneration request.entity
          request.entityGeneration
        bindGeneration { registry with entities := registry.entities ++ [entity] } request
          entity

/-! ## Stages 7 to 9: replays and preconditions -/

/-- Stage 7: the replay record that answers the request, if there is one. -/
def classifyAttempt (runtime : PublisherRuntime) (request : PublicationRequest)
    (contentDigest : Bytes) : Outcome (Option ReplayRecord) :=
  match runtime.replay.getLast? with
  | none => .ok none
  | some latest =>
      if latest.attempt = request.attempt then
        if latest.contentDigest ≠ contentDigest then
          failure .duplicateAttemptConflict
            (txt "the mutation attempt identifier was reused with different content")
            (txt "attempt=" ++ request.attempt.value)
        else .ok (some latest)
      else if runtime.replay.any fun record => record.attempt = request.attempt then
        failure .staleReplay
          (txt "the mutation attempt was already accepted and later superseded")
          (txt "attempt=" ++ request.attempt.value ++ txt " superseded_by=" ++
            latest.attempt.value)
      else .ok none

/-- The floor of a publishing identity. -/
def EntityState.sourceFloor (entity : EntityState) (key : SourceKey) :
    Option SourceGeneration :=
  (lookup Prod.fst key entity.sourceHighWater).map Prod.snd

/-- Stages 8 and 9. -/
def checkPreconditions (entity : EntityState) (request : PublicationRequest) :
    Outcome Unit :=
  let floor := (entity.sourceFloor request.sourceKey).getD 0
  let expected :=
    txt "expected=" ++ decimal request.expectedSetGeneration.toNat
  let versus := expected ++ txt " current=" ++ decimal entity.setGeneration.toNat
  if request.authority.sourceGeneration < floor then
    failure .sourceGenerationStale (txt "the publication carries a stale source generation")
      (txt "request=" ++ decimal request.authority.sourceGeneration.toNat ++
        txt " floor=" ++ decimal floor.toNat)
  else if entity.hasSet then
    if request.expectedSetGeneration < entity.setGeneration then
      failure .capabilitySetGenerationStale
        (txt "the publication expects a stale capability set generation") versus
    else if request.expectedSetGeneration > entity.setGeneration then
      failure .capabilitySetGenerationMismatch
        (txt "the publication expects a capability set generation that does not exist")
        versus
    else .ok ()
  else if request.expectedSetGeneration ≠ 0 then
    failure .capabilitySetGenerationMismatch
      (txt "no capability set exists for this entity generation yet") expected
  else .ok ()

/-! ## Stage 10: applying -/

def Registry.cell (registry : Registry) (entity : EntityState) : Cell :=
  { indexes := registry.indexes, arrivalSequence := registry.arrivalSequence, entity }

def Registry.setCell (registry : Registry) (cell : Cell) : Registry :=
  { registry with indexes := cell.indexes, arrivalSequence := cell.arrivalSequence }.setEntity
    cell.entity

/-- Stage 10: the registry after the steps that ran, and the entity in it. -/
def applyRequest (registry : Registry) (request : PublicationRequest)
    (entity : EntityState) (steps : List ApplyStep) :
    Registry × Outcome EntityState :=
  let (cell, outcome) := runSteps registry request (registry.cell entity) steps
  (registry.setCell cell, outcome.map fun _ => cell.entity)

/-! ## Differences -/

/-- The union of the capabilities of two sets, in the order of a `std::set`. -/
def mergedCapabilities (before after : Option EntityCapabilitySet) : List CapabilityId :=
  let named (set : Option EntityCapabilitySet) : List CapabilityId :=
    (set.map fun s => s.capabilities.map CapabilityResolution.capability).getD []
  let distinct := (named before ++ named after).foldl (fun held capability =>
    if held.any fun known => known.toText = capability.toText then held
    else held ++ [capability]) []
  sortBy CapabilityId.lt distinct

/-- The entry that `BuildDiff` writes for two resolutions of one capability. -/
def compareResolutions (capability : CapabilityId) (lhs rhs : CapabilityResolution) :
    List CapabilityDiffEntry :=
  let entry : CapabilityDiffEntry :=
    { capability
      beforeState := lhs.state
      afterState := rhs.state
      beforeValue := lhs.value
      hasBeforeValue := lhs.hasValue
      afterValue := rhs.value
      hasAfterValue := rhs.hasValue
      beforeProvenance := lhs.provenance
      afterProvenance := rhs.provenance
      beforeGeneration := lhs.capabilityGeneration
      afterGeneration := rhs.capabilityGeneration }
  if lhs.state ≠ rhs.state then
    [{ entry with
      kind := .stateChanged
      detail := capabilityStateName lhs.state ++ txt " -> " ++ capabilityStateName rhs.state }]
  else if lhs.hasValue ≠ rhs.hasValue ∨ !lhs.value.same rhs.value then
    [{ entry with kind := .valueChanged, detail := txt "value changed" }]
  else if lhs.provenance ≠ rhs.provenance ∨ lhs.coverage ≠ rhs.coverage ∨
      lhs.durability ≠ rhs.durability then
    [{ entry with
      kind := .provenanceChanged
      detail :=
        provenanceClassName lhs.provenance ++ txt " -> " ++
          provenanceClassName rhs.provenance }]
  else if lhs.currentEvidenceCount ≠ rhs.currentEvidenceCount then
    [{ entry with
      kind := .currentnessChanged, detail := txt "current evidence count changed" }]
  else if lhs.evidenceGeneration ≠ rhs.evidenceGeneration ∨
      lhs.winningEvidence ≠ rhs.winningEvidence then
    [{ entry with kind := .evidenceSuperseded, detail := txt "evidence refreshed" }]
  else if lhs.capabilityGeneration ≠ rhs.capabilityGeneration then
    [{ entry with
      kind := .generationAdvanced, detail := txt "capability generation advanced" }]
  else []

def diffCapability (before after : Option EntityCapabilitySet) (capability : CapabilityId) :
    List CapabilityDiffEntry :=
  match before.bind (·.find capability), after.bind (·.find capability) with
  | none, some rhs =>
      [{ capability
         kind := .capabilityAdded
         afterState := rhs.state
         afterValue := rhs.value
         hasAfterValue := rhs.hasValue
         afterProvenance := rhs.provenance
         afterGeneration := rhs.capabilityGeneration
         detail := txt "capability record added" }]
  | some lhs, none =>
      [{ capability
         kind := .capabilityRemoved
         beforeState := lhs.state
         beforeValue := lhs.value
         hasBeforeValue := lhs.hasValue
         beforeProvenance := lhs.provenance
         beforeGeneration := lhs.capabilityGeneration
         detail := txt "capability record removed" }]
  | none, none => []
  | some lhs, some rhs => compareResolutions capability lhs rhs

def diffEntryLt (lhs rhs : CapabilityDiffEntry) : Bool :=
  if lhs.capability ≠ rhs.capability then lhs.capability.lt rhs.capability
  else lhs.kind.toByte < rhs.kind.toByte

/-- The two entries of `BuildDiff` that concern the entity itself. -/
def diffEntity (before after : EntityCapabilitySet) : List CapabilityDiffEntry :=
  (if before.entityGeneration ≠ after.entityGeneration then
    [{ kind := .entityGenerationChanged
       detail :=
        txt "entity generation advanced from " ++ decimal before.entityGeneration.toNat ++
          txt " to " ++ decimal after.entityGeneration.toNat }]
  else []) ++
  (if before.invalidated ≠ after.invalidated then
    [{ kind := .entityInvalidated
       detail :=
        if after.invalidated then txt "entity generation invalidated"
        else txt "entity generation re-established" }]
  else [])

/-- `BuildDiff`. -/
def buildDiff (entity : EntityId) (before after : Option EntityCapabilitySet) :
    CapabilityDiff :=
  let entries :=
    (match before, after with
    | some before, some after => diffEntity before after
    | _, _ => []) ++
    (mergedCapabilities before after).flatMap (diffCapability before after)
  { entity
    beforeEntityGeneration := (before.map (·.entityGeneration)).getD 0
    beforeSetGeneration := (before.map (·.setGeneration)).getD 0
    beforeDigest := (before.map (·.digest)).getD .zero
    afterEntityGeneration := (after.map (·.entityGeneration)).getD 0
    afterSetGeneration := (after.map (·.setGeneration)).getD 0
    afterDigest := (after.map (·.digest)).getD .zero
    entries := sortBy diffEntryLt entries }

/-! ## Stage 11: committing -/

/-- The result fields that a request fills in before anything is decided. -/
def blankResult (registry : Registry) (request : PublicationRequest) : PublicationResult :=
  { publication := request.publication
    attempt := request.attempt
    entity := request.entity
    entityGeneration := request.entityGeneration
    registryGeneration := registry.registryGeneration }

/-- The journal entry of a result. -/
def journalEntry (result : PublicationResult) : JournalEntry :=
  { publication := result.publication
    attempt := result.attempt
    entity := result.entity
    entityGeneration := result.entityGeneration
    status := result.status
    code := result.code
    message := result.message
    previousGeneration := result.previousSetGeneration
    newGeneration := result.newSetGeneration
    registryGeneration := result.registryGeneration
    explanation := result.explanation }

/-- Whether the applied entity differs from the set that was published before. -/
def semanticChange (before : Option EntityCapabilitySet) (entity : EntityState) : Bool :=
  match before with
  | none => true
  | some set => set.digest != digestOfResolutions entity.resolutions

/-- The entity as it is published. -/
def publishedEntity (registryGeneration : RegistryGeneration) (entity : EntityState) :
    EntityState :=
  let entity :=
    { entity with
      hasSet := true
      boundGeneration := entity.currentGeneration
      invalidated := false
      invalidationReason := .unset }
  { entity with
    set := some (materialize registryGeneration entity)
    touchedAt := registryGeneration }

/-- Advance the two generations that a semantic change advances.  The set generation is
advanced even when the registry generation turns out to be exhausted. -/
def advanceGenerations (registry : Registry) (entity : EntityState) (changed : Bool) :
    Registry × Outcome EntityState :=
  if changed then
    match counterNext entity.setGeneration with
    | .error _ =>
        (registry, failure .arithmeticOverflow (txt "capability set generation exhausted") [])
    | .ok setNext =>
        let entity := { entity with setGeneration := setNext }
        match counterNext registry.registryGeneration with
        | .error _ => (registry.setEntity entity, .error registryGenerationExhausted)
        | .ok next => ({ registry with registryGeneration := next }, .ok entity)
  else (registry, .ok entity)

def committedExplanation (request : PublicationRequest) (result : PublicationResult)
    (changed : Bool) : Explanation :=
  { code :=
      if changed then txt "publication.committed"
      else txt "publication.committed-no-semantic-change"
    summary :=
      if changed then txt "capability set generation advanced once"
      else txt "the publication produced the same resolved capability set"
    steps :=
      [makeStep (txt "publication.commit") (txt "committed atomically")
        [(txt "mode", publicationModeName request.mode),
         (txt "claims_applied", decimal result.claimsApplied),
         (txt "claims_withdrawn", decimal result.claimsWithdrawn),
         (txt "previous_set_generation", decimal result.previousSetGeneration.toNat),
         (txt "set_generation", decimal result.newSetGeneration.toNat),
         (txt "registry_generation", decimal result.registryGeneration.toNat),
         (txt "set_digest", result.setDigest.toText),
         (txt "semantic_change", if changed then txt "true" else txt "false")]] }

def committedResult (registry : Registry) (request : PublicationRequest)
    (before : Option EntityCapabilitySet) (entity : EntityState) (steps : List ApplyStep)
    (changed : Bool) : PublicationResult :=
  let diff := buildDiff entity.id before entity.set
  let counted (kinds : CapabilityDiffKind → Bool) : Nat :=
    diff.entries.countP fun entry => kinds entry.kind
  let result : PublicationResult :=
    { blankResult registry request with
      status := .committed
      message :=
        if changed then txt "committed" else txt "committed without a semantic change"
      previousSetGeneration := (before.map (·.setGeneration)).getD 0
      newSetGeneration := entity.setGeneration
      claimsApplied := steps.countP ApplyStep.applies
      claimsWithdrawn := steps.countP ApplyStep.withdraws
      setDigest := (entity.set.map (·.digest)).getD .zero
      diff
      capabilitiesAdded := counted (· == .capabilityAdded)
      capabilitiesRemoved := counted (· == .capabilityRemoved)
      capabilitiesChanged :=
        counted fun kind => kind != .capabilityAdded && kind != .capabilityRemoved }
  { result with explanation := committedExplanation request result changed }

/-- The floor of the publishing identity is raised to the source generation. -/
def EntityState.raiseFloor (entity : EntityState) (request : PublicationRequest) :
    EntityState :=
  let floor := (entity.sourceFloor request.sourceKey).getD 0
  let floor :=
    if request.authority.sourceGeneration > floor then request.authority.sourceGeneration
    else floor
  { entity with
    sourceHighWater := upsert Prod.fst (request.sourceKey, floor) entity.sourceHighWater }

/-- Stage 11; `before` is the set that was published before stage 10. -/
def commit (registry : Registry) (request : PublicationRequest)
    (before : Option EntityCapabilitySet) (entity : EntityState) (steps : List ApplyStep)
    (contentDigest : Bytes) : Registry × Outcome PublicationResult :=
  let changed := semanticChange before entity
  match advanceGenerations registry entity changed with
  | (registry, .error e) => (registry, .error e)
  | (registry, .ok entity) =>
      let entity := publishedEntity registry.registryGeneration entity
      let result := committedResult registry request before entity steps changed
      let replay : ReplayRecord :=
        { attempt := request.attempt, publication := request.publication, contentDigest }
      let registry := registry.registerReplay request.publisherKey replay
      let registry := registry.setEntity (entity.raiseFloor request)
      (registry.recordJournal (journalEntry result), .ok result)

/-! ## The whole publication -/

/-- The `reject` of `Publish`. -/
def reject (registry : Registry) (request : PublicationRequest) (e : Error) :
    Registry × Outcome PublicationResult :=
  let result :=
    { blankResult registry request with
      code := e.code
      message := e.message
      explanation := rejectionExplanation e request }
  let registry :=
    if request.publication.isSet && request.attempt.isSet then
      registry.recordJournal (journalEntry result)
    else registry
  (registry, .ok result)

/-- The answer from the replay cache. -/
def replayResult (registry : Registry) (request : PublicationRequest) (entity : EntityState)
    (latest : ReplayRecord) (contentDigest : Bytes) : PublicationResult :=
  { blankResult registry request with
    status := .idempotentReplay
    message := txt "exact replay of an already committed attempt"
    previousSetGeneration := entity.setGeneration
    newSetGeneration := entity.setGeneration
    setDigest := (entity.set.map (·.digest)).getD .zero
    explanation :=
      { code := txt "publication.idempotent-replay"
        summary := txt "the attempt was already applied; no generation advanced"
        steps :=
          [makeStep (txt "publication.replay") (txt "exact idempotent replay detected")
            [(txt "attempt", request.attempt.value),
             (txt "publication", latest.publication.value),
             (txt "content_digest", contentDigest),
             (txt "set_generation", decimal entity.setGeneration.toNat)]] } }

/-- Stages 7 to 11, for an entity that is bound to the generation of the request. -/
def publishBound (registry : Registry) (request : PublicationRequest)
    (runtime : PublisherRuntime) (grant : AuthorityGrant) (entity : EntityState) :
    Registry × Outcome PublicationResult :=
  let contentDigest := (requestContentDigest request grant).toText
  match classifyAttempt runtime request contentDigest with
  | .error e => reject registry request e
  | .ok (some latest) =>
      let result := replayResult registry request entity latest contentDigest
      (registry.recordJournal (journalEntry result), .ok result)
  | .ok none =>
      match checkPreconditions entity request with
      | .error e => reject registry request e
      | .ok () =>
          let steps := applySteps registry.schema grant request
          match applyRequest registry request entity steps with
          | (registry, .error e) => reject registry request e
          | (registry, .ok applied) =>
              commit registry request entity.set applied steps contentDigest

/-- `Publish`. -/
def publish (registry : Registry) (request : PublicationRequest) :
    Registry × Outcome PublicationResult :=
  match validateRequest registry request with
  | .error e => reject registry request e
  | .ok (runtime, grant) =>
      match bindEntity registry request with
      | (registry, .error (.rejected e)) => reject registry request e
      | (registry, .error (.failed e)) => (registry, .error e)
      | (registry, .ok entity) => publishBound registry request runtime grant entity

/-- `PublishBatch`: in order, until one publication returns a failure. -/
def publishEach (registry : Registry) :
    List PublicationRequest → Registry × Outcome (List PublicationResult)
  | [] => (registry, .ok [])
  | request :: requests =>
      match publish registry request with
      | (registry, .error e) => (registry, .error e)
      | (registry, .ok result) =>
          let (registry, results) := publishEach registry requests
          (registry, results.map (result :: ·))

def publishBatch (registry : Registry) (requests : List PublicationRequest) :
    Registry × Outcome (List PublicationResult) :=
  if requests.length > kMaxPublicationsPerBatch then
    (registry,
      failure .tooManyItems (txt "publication batch exceeds the bound")
        (decimal requests.length))
  else publishEach registry requests

end FabricCapability.Ports
