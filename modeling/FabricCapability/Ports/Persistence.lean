import FabricCapability.Ports.Operations
import FabricCapability.Ports.StoreFormat

/-!
# Saving and loading a registry

Translation of `Save` and `Load` of `src/registry.cpp`.  `Save` projects the registry to
a payload: it keeps the entities with their capabilities, the evidence that is not
retired, the source floors and the summaries of the history, and drops resolutions,
indexes, journals and replay memory.  `Load` replaces the content of a registry by a
payload and resolves every entry again.
-/

namespace FabricCapability.Ports

open FabricCapability.Verified.KeyedList
open FabricCapability.Verified.StrictOrder

/-! ## Save -/

/-- The record as it is stored; the entity generation is not. -/
def EvidenceRecord.stored (capability : CapabilityId) (record : EvidenceRecord) :
    StoredClaim :=
  { capability
    id := record.id
    source := record.source
    publisher := record.publisher
    scope := record.scope
    workerBoot := record.workerBoot
    epoch := record.epoch
    sourceGeneration := record.sourceGeneration
    evidenceGeneration := record.evidenceGeneration
    attempt := record.attempt
    publication := record.publication
    provenance := record.provenance
    sourceClass := record.sourceClass
    durability := record.durability
    coverage := record.coverage
    state := record.state
    value := record.value
    firmwareVersion := record.firmwareVersion
    driverVersion := record.driverVersion
    reason := record.reason
    currentness := record.currentness }

/-- Whether `Save` keeps a record. -/
def isStored (record : EvidenceRecord) : Bool :=
  isCurrent record.currentness || record.currentness == .revalidationRequired ||
    record.currentness == .fenced

def CapabilityEntry.storedClaims (entry : CapabilityEntry) : List StoredClaim :=
  (entry.evidence.filter isStored).map (EvidenceRecord.stored entry.id)

def storedClaimLt (a b : StoredClaim) : Bool :=
  if a.capability ≠ b.capability then a.capability.lt b.capability
  else if a.source ≠ b.source then a.source.lt b.source
  else a.evidenceGeneration < b.evidenceGeneration

def RetainedGeneration.stored (retained : RetainedGeneration) : StoredGeneration :=
  { generation := retained.summary.generation
    setGeneration := retained.summary.setGeneration
    digest := retained.summary.digest
    capabilityCount := UInt64.ofNat retained.summary.capabilityCount
    supportedCount := UInt64.ofNat retained.summary.supportedCount
    retiredAt := retained.summary.retiredAt
    reason := retained.summary.reason }

/-- The floors in the order of the `std::map` that holds them. -/
def EntityState.storedFloors (entity : EntityState) : List StoredSourceFloor :=
  (sortBy (fun a b => a.1.lt b.1) entity.sourceHighWater).map fun floor =>
    { source := floor.1.source, workerBoot := floor.1.boot, generation := floor.2 }

def EntityState.stored (entity : EntityState) : StoredEntity :=
  { id := entity.id
    currentGeneration := entity.currentGeneration
    boundGeneration := entity.boundGeneration
    hasSet := entity.hasSet
    setGeneration := entity.setGeneration
    invalidated := entity.invalidated
    invalidationReason := entity.invalidationReason
    capabilities :=
      sortBy (fun a b => a.id.lt b.id) <| entity.capabilities.map fun entry =>
        { id := entry.id, generation := entry.generation }
    claims := sortBy storedClaimLt (entity.capabilities.flatMap CapabilityEntry.storedClaims)
    sourceFloors := entity.storedFloors
    history := entity.history.map RetainedGeneration.stored }

def storedRegistrationLt (a b : StoredRegistration) : Bool :=
  if a.publisher ≠ b.publisher then a.publisher.lt b.publisher
  else a.workerBoot.lt b.workerBoot

/-- The active registrations, as they are stored. -/
def Registry.storedRegistrations (registry : Registry) : List StoredRegistration :=
  sortBy storedRegistrationLt <|
    (registry.publishers.filter fun held => held.2.active).map fun held =>
      { publisher := held.1.publisher
        workerBoot := held.1.boot
        scope := held.2.registration.scope }

def Registry.storedFences (registry : Registry) : List StoredFence :=
  sortBy (fun a b => a.workerBoot.lt b.workerBoot) <| registry.fences.map fun fence =>
    { workerBoot := fence.workerBoot, publisher := fence.publisher, reason := fence.reason }

/-- What `Save` hands to `WriteStore`. -/
def Registry.payload (registry : Registry) : StorePayload :=
  { epoch := registry.epoch
    registryGeneration := registry.registryGeneration
    authorities := sortBy (fun a b => a.scope.lt b.scope) registry.authorities
    fences := registry.storedFences
    registrations := registry.storedRegistrations
    entities :=
      (sortBy (fun a b => a.id.lt b.id) registry.entities).map EntityState.stored }

/-- `Save`: the contents of the new store file, and the report. -/
def save (registry : Registry) : Outcome (Bytes × SaveReport) :=
  Store.writeStore registry.payload

/-! ## Load -/

/-- The status of a loaded record. -/
def loadedCurrentness (claim : StoredClaim) : EvidenceCurrentness :=
  if claim.currentness = .fenced then .fenced
  else if claim.durability = .durable then .current
  else .revalidationRequired

/-- The record of a stored claim. -/
def StoredClaim.record (entity : EntityId) (bound : EntityGeneration)
    (registryGeneration : RegistryGeneration) (arrivalSequence : UInt64)
    (claim : StoredClaim) : EvidenceRecord :=
  { id := claim.id
    capability := claim.capability
    entity
    entityGeneration := bound
    source := claim.source
    publisher := claim.publisher
    scope := claim.scope
    workerBoot := claim.workerBoot
    epoch := claim.epoch
    sourceGeneration := claim.sourceGeneration
    evidenceGeneration := claim.evidenceGeneration
    attempt := claim.attempt
    publication := claim.publication
    provenance := claim.provenance
    sourceClass := claim.sourceClass
    durability := claim.durability
    coverage := claim.coverage
    state := claim.state
    value := claim.value
    firmwareVersion := claim.firmwareVersion
    driverVersion := claim.driverVersion
    reason := claim.reason
    currentness := loadedCurrentness claim
    acceptedGeneration := registryGeneration
    arrivalSequence }

/-- The entries that the stored capabilities create. -/
def loadCapabilities (entries : List CapabilityEntry) :
    List StoredCapability → List CapabilityEntry
  | [] => entries
  | capability :: capabilities =>
      if capability.id.isSet then
        let entry := (lookup CapabilityEntry.id capability.id entries).getD
          { id := capability.id }
        loadCapabilities
          (upsert CapabilityEntry.id { entry with generation := capability.generation }
            entries)
          capabilities
      else loadCapabilities entries capabilities

/-- Append the records of the stored claims to their entries, numbering the arrivals. -/
def loadClaims (entity : EntityId) (bound : EntityGeneration)
    (registryGeneration : RegistryGeneration) :
    UInt64 → List CapabilityEntry → List StoredClaim → UInt64 × List CapabilityEntry
  | arrivals, entries, [] => (arrivals, entries)
  | arrivals, entries, claim :: claims =>
      if claim.capability.isSet then
        let entry := (lookup CapabilityEntry.id claim.capability entries).getD
          { id := claim.capability }
        let record := claim.record entity bound registryGeneration (arrivals + 1)
        loadClaims entity bound registryGeneration (arrivals + 1)
          (upsert CapabilityEntry.id
            { entry with evidence := entry.evidence ++ [record] } entries)
          claims
      else loadClaims entity bound registryGeneration arrivals entries claims

def loadFloors (floors : List (SourceKey × SourceGeneration)) :
    List StoredSourceFloor → List (SourceKey × SourceGeneration)
  | [] => floors
  | floor :: stored =>
      if floor.source.isSet then
        let key : SourceKey := { source := floor.source, boot := floor.workerBoot }
        loadFloors (upsert Prod.fst (key, floor.generation) floors) stored
      else loadFloors floors stored

/-- A stored generation as history; its capability identifiers are not stored. -/
def StoredGeneration.retained (stored : StoredGeneration) : RetainedGeneration :=
  { summary :=
      { generation := stored.generation
        setGeneration := stored.setGeneration
        digest := stored.digest
        capabilityCount := stored.capabilityCount.toNat
        supportedCount := stored.supportedCount.toNat
        retiredAt := stored.retiredAt
        reason := stored.reason }
    capabilityIds := [] }

/-- An unset bound generation stands for the current one. -/
def StoredEntity.bound (stored : StoredEntity) : EntityGeneration :=
  if stored.boundGeneration = 0 then stored.currentGeneration else stored.boundGeneration

/-- What the entities of a payload are loaded into. -/
structure Loading where
  indexes : Indexes := {}
  arrivalSequence : UInt64 := 0
  deriving DecidableEq

/-- The entity of a stored one before its entries are resolved. -/
def StoredEntity.unresolved (registryGeneration : RegistryGeneration)
    (stored : StoredEntity) (capabilities : List CapabilityEntry) : EntityState :=
  { id := stored.id
    currentGeneration := stored.currentGeneration
    touchedAt := registryGeneration
    hasSet := stored.hasSet
    boundGeneration := stored.bound
    setGeneration := stored.setGeneration
    invalidated := stored.invalidated
    invalidationReason := stored.invalidationReason
    capabilities
    sourceHighWater := loadFloors [] stored.sourceFloors
    history :=
      (stored.history.filter fun generation => generation.generation ≠ 0).map
        StoredGeneration.retained }

/-- The body of the loop over the entities of a payload. -/
def loadEntity (registryGeneration : RegistryGeneration) (loading : Loading)
    (stored : StoredEntity) : Loading × EntityState :=
  let touched := (stored.capabilities.filter fun capability => capability.id.isSet).foldl
    (fun indexes capability => indexes.touchNamespace capability.id) loading.indexes
  let (arrivalSequence, entries) := loadClaims stored.id stored.bound registryGeneration
    loading.arrivalSequence (loadCapabilities [] stored.capabilities) stored.claims
  let (indexes, resolved) :=
    mapAccum (fun indexes entry => resolveCapability indexes stored.id stored.bound entry)
      touched entries
  let entity := stored.unresolved registryGeneration resolved
  ({ indexes, arrivalSequence },
    { entity with set := some (materialize registryGeneration entity) })

/-- The fences of a payload, in its order. -/
def StorePayload.fenceRecords (payload : StorePayload) : List FenceRecord :=
  (payload.fences.filter fun fence => fence.workerBoot.isSet).map fun fence =>
    { workerBoot := fence.workerBoot
      publisher := fence.publisher
      reason := fence.reason
      fencedAt := payload.registryGeneration }

/-- The registrations of a payload: restored without authority. -/
def loadRegistrations (epoch : CoordinatorEpoch) (payload : StorePayload)
    (fenced : List WorkerBootId) (publishers : List (PublisherKey × PublisherRuntime)) :
    List StoredRegistration → List (PublisherKey × PublisherRuntime)
  | [] => publishers
  | stored :: rest =>
      if !stored.publisher.isSet || !stored.workerBoot.isSet || stored.workerBoot ∈ fenced then
        loadRegistrations epoch payload fenced publishers rest
      else
        let key : PublisherKey := { publisher := stored.publisher, boot := stored.workerBoot }
        let registration : PublisherRegistration :=
          { publisher := stored.publisher
            scope := stored.scope
            workerBoot := stored.workerBoot
            epoch
            acceptedGeneration := payload.registryGeneration }
        loadRegistrations epoch payload fenced
          (upsert Prod.fst (key, { registration, active := false }) publishers) rest

/-- The counters of the report that `Load` adds to those of `ReadStore`. -/
def loadReport (read : LoadReport) (payload : StorePayload) (registry : Registry) :
    LoadReport :=
  let entities := payload.entities.filter fun entity => entity.id.isSet
  let claims := entities.flatMap fun entity =>
    entity.claims.filter fun claim => claim.capability.isSet
  { read with
    authorityGrants := read.authorityGrants + registry.authorities.length
    fencedWorkerBoots := read.fencedWorkerBoots + registry.fences.length
    entitiesLoaded := read.entitiesLoaded + entities.length
    evidenceLoaded := read.evidenceLoaded + claims.length
    durableEvidenceRetained :=
      read.durableEvidenceRetained +
        claims.countP fun claim => loadedCurrentness claim == .current
    evidenceRevalidationRequired :=
      read.evidenceRevalidationRequired +
        claims.countP fun claim => loadedCurrentness claim == .revalidationRequired
    generationsRecovered :=
      read.generationsRecovered +
        (registry.entities.map fun entity => entity.history.length).sum
    epoch := registry.epoch
    registryGeneration := registry.registryGeneration }

/-- `Load` once the store was read: the options and the schema stay. -/
def loadPayload (registry : Registry) (payload : StorePayload) : Registry :=
  let epoch := if payload.epoch = 0 then 1 else payload.epoch
  let fences := payload.fenceRecords
  let fencedBoots := fences.foldl (fun boots fence => insertMember boots fence.workerBoot) []
  let (loading, entities) := mapAccum (loadEntity payload.registryGeneration) {}
    (payload.entities.filter fun entity => entity.id.isSet)
  { options := registry.options
    schema := registry.schema
    registryGeneration := payload.registryGeneration
    epoch
    authorities := payload.authorities.filter fun grant => grant.scope.isSet
    publishers := loadRegistrations epoch payload fencedBoots [] payload.registrations
    fencedBoots
    fences
    entities
    indexes := loading.indexes
    arrivalSequence := loading.arrivalSequence
    journal := {} }

/-- `Load`. -/
def load (registry : Registry) (config : PersistenceConfig) (file : Option Bytes) :
    Registry × Outcome LoadReport :=
  match Store.readStore config file with
  | .error e => (registry, .error e)
  | .ok (payload, read) =>
      let loaded := loadPayload registry payload
      (loaded, .ok (loadReport read payload loaded))

end FabricCapability.Ports
