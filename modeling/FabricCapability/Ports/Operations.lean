import FabricCapability.Ports.Publish

/-!
# The mutating operations of the registry

Translation of the public operations of `src/registry.cpp` other than `Publish` and
`Load`: the coordinator epoch, authorities, publishers, fences, entity generations and
invalidation.  Each returns the registry after the call next to what the call returns,
because an operation that fails late has already changed something.
-/

namespace FabricCapability.Ports

open FabricCapability.Verified.KeyedList

/-! ## Shared endings -/

/-- The advance of the registry generation that ends a mutation.  The mutation stays
when the counter is exhausted. -/
def advanceRegistry {α : Type} (registry : Registry) (value : α) : Registry × Outcome α :=
  match counterNext registry.registryGeneration with
  | .error _ => (registry, .error registryGenerationExhausted)
  | .ok next => ({ registry with registryGeneration := next }, .ok value)

/-- A loop over all entities. -/
def Registry.visitEntities (registry : Registry)
    (visit : Indexes → EntityState → Indexes × EntityState) : Registry :=
  let (indexes, entities) := mapAccum visit registry.indexes registry.entities
  { registry with indexes, entities }

/-- The body of the loops of fencing and of the epoch advance: demote and refresh. -/
def demoteAndRefresh (registryGeneration : RegistryGeneration)
    (currentness : EvidenceCurrentness) (reason : ReasonToken) (boot : Option WorkerBootId)
    (indexes : Indexes) (entity : EntityState) : Indexes × EntityState :=
  let (indexes, entity) :=
    markNonCurrent currentness reason boot none false indexes entity
  (indexes, refreshEntity registryGeneration entity)

/-! ## Coordinator epoch -/

/-- Fence the boots of the dropped publishers, as far as there is room. -/
def fenceBoots (reason : ReasonToken) (registry : Registry) : List WorkerBootId → Registry
  | [] => registry
  | boot :: boots =>
      if boot ∈ registry.fencedBoots then fenceBoots reason registry boots
      else if registry.fences.length ≥ registry.options.maxFencedWorkerBoots then registry
      else
        let record : FenceRecord :=
          { workerBoot := boot, reason, fencedAt := registry.registryGeneration }
        fenceBoots reason
          { registry with
            fencedBoots := registry.fencedBoots ++ [boot]
            fences := registry.fences ++ [record] } boots

/-- `AdvanceCoordinatorEpoch`. -/
def advanceCoordinatorEpoch (registry : Registry) (reason : ReasonToken) :
    Registry × Outcome CoordinatorEpoch :=
  match counterNext registry.epoch with
  | .error _ =>
      (registry, failure .arithmeticOverflow (txt "coordinator epoch exhausted") [])
  | .ok epoch =>
      let why := reasonOr reason (txt "coordinator-epoch-advanced")
      let boots := registry.publishers.map fun held => held.1.boot
      let registry := fenceBoots why { registry with epoch, publishers := [] } boots
      advanceRegistry
        (registry.visitEntities
          (demoteAndRefresh registry.registryGeneration .revalidationRequired why none))
        epoch

/-! ## Authorities and publishers -/

/-- The checks of `DeclareAuthority` that depend on the grant alone. -/
def validateGrant (grant : AuthorityGrant) : Outcome Unit :=
  if !grant.scope.isSet then
    failure .invalidArgument (txt "authority scope identifier is required") []
  else if grant.entityKinds.isEmpty then
    failure .invalidArgument (txt "an authority scope must name at least one entity class")
      grant.scope.value
  else if grant.entityKinds.length > kMaxAuthorityEntityKinds then
    failure .tooManyItems (txt "too many entity classes in the authority scope")
      grant.scope.value
  else if grant.namespaces.isEmpty then
    failure .invalidArgument
      (txt "an authority scope must name at least one capability namespace; there is no wildcard authority")
      grant.scope.value
  else if grant.namespaces.length > kMaxAuthorityNamespaces then
    failure .tooManyItems (txt "too many capability namespaces in the authority scope")
      grant.scope.value
  else if grant.modes = 0 then
    failure .invalidArgument
      (txt "an authority scope must allow at least one publication mode") grant.scope.value
  else if grant.maxClaimsPerPublication = 0 ∨
      grant.maxClaimsPerPublication > kMaxClaimsPerPublication then
    failure .invalidArgument (txt "authority claim bound is out of range") grant.scope.value
  else if grant.namespaces.any fun ns => !ns.isSet then
    failure .unknownNamespace (txt "authority scope names an empty capability namespace")
      grant.scope.value
  else if grant.allowedPublishers.length > 4096 then
    failure .tooManyItems (txt "authority publisher allowlist is too large")
      grant.scope.value
  else .ok ()

/-- `DeclareAuthority`: a grant replaces the one that its scope is indexed by. -/
def declareAuthority (registry : Registry) (grant : AuthorityGrant) :
    Registry × Outcome Unit :=
  match validateGrant grant with
  | .error e => (registry, .error e)
  | .ok () =>
      match registry.findGrant grant.scope with
      | some _ =>
          let replaced := upsert AuthorityGrant.scope grant registry.authorities.reverse
          ({ registry with authorities := replaced.reverse }, .ok ())
      | none =>
          if registry.authorities.length ≥ registry.options.maxAuthorityScopes then
            (registry, failure .tooManyItems (txt "authority scope limit reached") [])
          else ({ registry with authorities := registry.authorities ++ [grant] }, .ok ())

/-- `RegisterPublisher`. -/
def registerPublisher (registry : Registry) (publisher : PublisherId)
    (scope : AuthorityScopeId) (workerBoot : WorkerBootId) :
    Registry × Outcome PublisherRegistration :=
  if !publisher.isSet || !scope.isSet || !workerBoot.isSet then
    (registry,
      failure .invalidArgument
        (txt "publisher, scope and worker boot identifiers are required") [])
  else if workerBoot ∈ registry.fencedBoots then
    (registry,
      failure .workerBootFenced (txt "the worker boot identity is permanently fenced")
        workerBoot.value)
  else
    match registry.findGrant scope with
    | none =>
        (registry,
          failure .unknownAuthorityScope (txt "authority scope is not declared") scope.value)
    | some grant =>
        let key : PublisherKey := { publisher, boot := workerBoot }
        if !grant.allowedPublishers.isEmpty ∧ publisher ∉ grant.allowedPublishers then
          (registry,
            failure .unauthorizedPublisher
              (txt "the publisher is not on the allowlist of this authority scope")
              publisher.value)
        else if registry.findRuntime key = none ∧
            registry.publishers.length ≥ registry.options.maxPublishers then
          (registry, failure .tooManyItems (txt "publisher registration limit reached") [])
        else
          let registration : PublisherRegistration :=
            { publisher
              scope
              workerBoot
              epoch := registry.epoch
              acceptedGeneration := registry.registryGeneration }
          let runtime : PublisherRuntime := { registration, active := true, replay := [] }
          ({ registry with
              publishers := upsert Prod.fst (key, runtime) registry.publishers },
            .ok registration)

/-- `RetirePublisher`. -/
def retirePublisher (registry : Registry) (publisher : PublisherId)
    (workerBoot : WorkerBootId) : Registry × Outcome Unit :=
  let key : PublisherKey := { publisher, boot := workerBoot }
  match registry.findRuntime key with
  | none =>
      (registry,
        failure .unknownPublisher (txt "publisher instance is not registered")
          publisher.value)
  | some runtime =>
      ({ registry with
          publishers := upsert Prod.fst (key, { runtime with active := false })
            registry.publishers },
        .ok ())

/-- `RegisterVendorDescriptor`. -/
def registerVendorDescriptor (registry : Registry) (descriptor : CapabilityDescriptor) :
    Registry × Outcome Unit :=
  match registry.schema.registerVendorDescriptor descriptor with
  | .error e => (registry, .error e)
  | .ok schema => ({ registry with schema }, .ok ())

/-! ## Fencing -/

/-- Whether some record of the boot is current. -/
def ownsCurrentEvidence (registry : Registry) (boot : WorkerBootId) : Bool :=
  registry.entities.any fun entity =>
    entity.capabilities.any fun entry =>
      entry.evidence.any fun record =>
        record.workerBoot == boot && isCurrent record.currentness

/-- The fence that capacity would forget: the first one that protects no evidence. -/
def evictableFence (registry : Registry) : Option FenceRecord :=
  registry.fences.find? fun fence => !ownsCurrentEvidence registry fence.workerBoot

def evictFence (registry : Registry) (fence : FenceRecord) : Registry :=
  { registry with
    fencedBoots := registry.fencedBoots.filter (· ≠ fence.workerBoot)
    fences := registry.fences.eraseP fun held =>
      !ownsCurrentEvidence registry held.workerBoot }

/-- `FenceWorkerBoot` once there is room for the fence. -/
def insertFence (registry : Registry) (workerBoot : WorkerBootId) (reason : ReasonToken) :
    Registry × Outcome Unit :=
  let why := reasonOr reason (txt "worker-boot-fenced")
  let owners := registry.publishers.filter fun held => held.1.boot = workerBoot
  let publisher := (owners.getLast?.map fun held => held.1.publisher).getD .unset
  let record : FenceRecord :=
    { workerBoot, publisher, reason := why, fencedAt := registry.registryGeneration }
  let registry :=
    { registry with
      fencedBoots := registry.fencedBoots ++ [workerBoot]
      fences := registry.fences ++ [record]
      publishers := registry.publishers.filter fun held =>
        held.1 ≠ PublisherKey.mk publisher workerBoot }
  advanceRegistry
    (registry.visitEntities
      (demoteAndRefresh registry.registryGeneration .fenced why (some workerBoot)))
    ()

/-- `FenceWorkerBoot`. -/
def fenceWorkerBoot (registry : Registry) (workerBoot : WorkerBootId)
    (reason : ReasonToken) : Registry × Outcome Unit :=
  if !workerBoot.isSet then
    (registry, failure .invalidArgument (txt "worker boot identifier is required") [])
  else if workerBoot ∈ registry.fencedBoots then (registry, .ok ())
  else if registry.fences.length ≥ registry.options.maxFencedWorkerBoots then
    match evictableFence registry with
    | none =>
        (registry,
          failure .tooManyItems
            (txt "worker boot fence retention is at capacity and no evictable fence remains; refusing to forget a fence that still protects live evidence")
            (decimal registry.options.maxFencedWorkerBoots))
    | some fence => insertFence (evictFence registry fence) workerBoot reason
  else insertFence registry workerBoot reason

/-! ## Entity generations -/

/-- `ObserveEntityGeneration`. -/
def observeEntityGeneration (registry : Registry) (entity : EntityId)
    (generation : EntityGeneration) (reason : ReasonToken) :
    Registry × Outcome EntityGeneration :=
  if !entity.isSet || generation = 0 then
    (registry,
      failure .invalidArgument (txt "entity and entity generation are required") [])
  else
    match registry.findEntity entity with
    | none =>
        if registry.entities.length ≥ registry.options.maxEntities then
          (registry, failure .tooManyItems (txt "entity limit reached") [])
        else
          ({ registry with
              entities :=
                registry.entities ++
                  [newEntity registry.registryGeneration entity generation] },
            .ok generation)
    | some record =>
        if record.currentGeneration = 0 then
          (registry.setEntity
              { record with currentGeneration := generation, boundGeneration := generation },
            .ok generation)
        else if generation < record.currentGeneration then
          (registry,
            failure .entityGenerationStale (txt "the observed entity generation is stale")
              (txt "observed=" ++ decimal generation.toNat ++ txt " current=" ++
                decimal record.currentGeneration.toNat))
        else if generation = record.currentGeneration then (registry, .ok generation)
        else
          let retired := retireGeneration registry.options registry.registryGeneration record
            generation (reasonOr reason (txt "superseded-by-fabric-registry"))
          match counterNext registry.registryGeneration with
          | .error _ => (registry.setEntity retired, .error registryGenerationExhausted)
          | .ok next =>
              ({ registry with registryGeneration := next }.setEntity
                  { retired with touchedAt := next },
                .ok generation)

/-! ## Invalidation -/

/-- `InvalidateEntity`.  `MarkNonCurrent` never changes the number of records, so the
comparison of the evidence sizes in the source is always false. -/
def invalidateEntity (registry : Registry) (entity : EntityId)
    (generation : EntityGeneration) (reason : ReasonToken) : Registry × Outcome Unit :=
  match registry.findEntity entity with
  | none =>
      (registry,
        failure .unknownEntity (txt "the entity is not known to this registry")
          entity.toText)
  | some record =>
      if generation = 0 ∨ generation ≠ record.currentGeneration then
        (registry,
          failure .unknownEntityGeneration
            (txt "only the current entity generation can be invalidated")
            (decimal generation.toNat))
      else
        let why := reasonOr reason (txt "entity-invalidated")
        let (indexes, marked) :=
          markNonCurrent .revalidationRequired why none none true registry.indexes record
        let changed :=
          (marked.capabilities.any fun entry => !entry.resolution.actionable) ||
            !record.invalidated
        let marked :=
          if record.invalidated then marked
          else { marked with invalidated := true, invalidationReason := why }
        let registry := { registry with indexes }
        if changed then
          let refreshed := refreshEntity registry.registryGeneration marked
          match counterNext registry.registryGeneration with
          | .error _ => (registry.setEntity refreshed, .error registryGenerationExhausted)
          | .ok next =>
              ({ registry with registryGeneration := next }.setEntity
                  { refreshed with touchedAt := next },
                .ok ())
        else (registry.setEntity marked, .ok ())

/-- The body of the loop of `InvalidateSource`. -/
def invalidateSourceIn (registryGeneration : RegistryGeneration) (source : SourceId)
    (reason : ReasonToken) (indexes : Indexes) (entity : EntityState) :
    Indexes × EntityState :=
  let (indexes, marked) :=
    markNonCurrent .revalidationRequired reason none (some source) true indexes entity
  if marked.capabilities.isEmpty then (indexes, marked)
  else (indexes, refreshEntity registryGeneration marked)

/-- How many records `InvalidateSource` counts. -/
def countInvalidated (registry : Registry) (source : SourceId) : Nat :=
  (registry.entities.flatMap fun entity =>
    entity.capabilities.flatMap fun entry => entry.evidence).countP fun record =>
      record.source == source && isCurrent record.currentness

/-- `InvalidateSource`. -/
def invalidateSource (registry : Registry) (source : SourceId) (reason : ReasonToken) :
    Registry × Outcome Nat :=
  if !source.isSet then
    (registry, failure .invalidArgument (txt "source identifier is required") [])
  else
    let why := reasonOr reason (txt "source-invalidated")
    let invalidated := countInvalidated registry source
    let any := registry.entities.any fun entity => !entity.capabilities.isEmpty
    let registry :=
      registry.visitEntities (invalidateSourceIn registry.registryGeneration source why)
    if any then advanceRegistry registry invalidated else (registry, .ok invalidated)

end FabricCapability.Ports
