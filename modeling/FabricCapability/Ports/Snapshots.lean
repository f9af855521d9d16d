import FabricCapability.Ports.Queries
import FabricCapability.Ports.StoreFormat

/-!
# Snapshots and the digest of the registry

Translation of `CreateSnapshot`, `CheckSnapshot` and `ComputeDigest` of `src/registry.cpp`
with the records of `include/fabric/capability/query.hpp` that they use.
-/

namespace FabricCapability.Ports

open FabricCapability.Verified.KeyedList
open FabricCapability.Verified.StrictOrder

def kMaxSnapshotEntities : Nat := 1000000

/-! ## Snapshots -/

structure SnapshotScope where
  allEntities : Bool := true
  entities : List EntityId := []
  namespaces : List CapabilityNamespaceId := []
  entityKinds : List FabricEntityKind := []
  deriving DecidableEq

/-- `SnapshotScope::ToText`. -/
def SnapshotScope.toText (scope : SnapshotScope) : Bytes :=
  (if scope.allEntities then txt "scope=all" else txt "scope=explicit") ++
  (if scope.entities.isEmpty then []
  else
    txt " entities=" ++ decimal scope.entities.length ++
      (sortBy EntityId.lt scope.entities).flatMap fun entity => txt "," ++ entity.toText) ++
  (if scope.namespaces.isEmpty then []
  else
    txt " namespaces=" ++
      (txt ",").intercalate (sortBy bytesLt (scope.namespaces.map fun ns => ns.text))) ++
  (if scope.entityKinds.isEmpty then []
  else
    txt " entity_kinds=" ++
      (txt ",").intercalate (sortBy bytesLt (scope.entityKinds.map fabricEntityKindName)))

structure SnapshotEntityEntry where
  entity : EntityId
  entityGeneration : EntityGeneration
  setGeneration : CapabilitySetGeneration
  setDigest : Digest
  set : Option EntityCapabilitySet
  deriving DecidableEq

/-- Immutable capability snapshot. -/
structure CapabilitySnapshot where
  id : SnapshotId
  registryGeneration : RegistryGeneration
  epoch : CoordinatorEpoch
  scope : SnapshotScope
  entities : List SnapshotEntityEntry
  digest : Digest
  deriving DecidableEq

/-- The digest of the set of an entity; zero without a set. -/
def EntityState.setDigest (entity : EntityState) : Digest :=
  (entity.set.map EntityCapabilitySet.digest).getD .zero

/-- The entities that a scope names, before the filters. -/
def selectEntities (registry : Registry) (scope : SnapshotScope) : List EntityState :=
  sortBy (fun a b => a.id.lt b.id)
    (if scope.allEntities then registry.entities
    else scope.entities.filterMap registry.findEntity)

/-- The namespace filter: some capability of the set is indexed under one of the
namespaces. -/
def inNamespaces (registry : Registry) (namespaces : List CapabilityNamespaceId)
    (entity : EntityState) : Bool :=
  namespaces.any fun ns =>
    ((lookup Prod.fst ns registry.indexes.namespaces).map Prod.snd).any fun indexed =>
      ((entity.set.map EntityCapabilitySet.capabilities).getD []).any fun resolution =>
        indexed.any fun known => known.toText = resolution.capability.toText

/-- The filters of a scope. -/
def inScope (registry : Registry) (scope : SnapshotScope) (entity : EntityState) : Bool :=
  (scope.entityKinds.isEmpty || scope.entityKinds.contains entity.id.kind) &&
    (scope.namespaces.isEmpty || inNamespaces registry scope.namespaces entity)

def snapshotEntry (entity : EntityState) : SnapshotEntityEntry :=
  { entity := entity.id
    entityGeneration := entity.currentGeneration
    setGeneration := entity.setGeneration
    setDigest := entity.setDigest
    set := entity.set }

def snapshotBytes (registry : Registry) (scope : SnapshotScope)
    (entries : List SnapshotEntityEntry) : Bytes :=
  u64 registry.registryGeneration ++
  u64 registry.epoch ++
  putText scope.toText 4096 ++
  sizeU32 entries.length ++
  entries.flatMap fun entry =>
    putText entry.entity.toText kMaxEntityIdLength ++
    u64 entry.entityGeneration ++
    u64 entry.setGeneration ++
    entry.setDigest.bytes

/-- `CreateSnapshot`. -/
def createSnapshot (registry : Registry) (scope : SnapshotScope) : Outcome CapabilitySnapshot :=
  let selected := selectEntities registry scope
  if selected.length > kMaxSnapshotEntities then
    failure .tooManyItems (txt "snapshot scope exceeds the entity bound") []
  else
    let entries := (selected.filter (inScope registry scope)).map snapshotEntry
    let digest := computeDigest (snapshotBytes registry scope entries)
    .ok
      { id := digestToken _ digest
        registryGeneration := registry.registryGeneration
        epoch := registry.epoch
        scope
        entities := entries
        digest }

/-! ## Currentness -/

/-- Result of checking whether a snapshot still describes current truth. -/
structure SnapshotCurrentness where
  current : Bool
  reasons : List Bytes
  deriving DecidableEq

/-- The reason that the loop of `CheckSnapshot` finds against an entry. -/
def staleEntry (registry : Registry) (entry : SnapshotEntityEntry) : Option Bytes :=
  match registry.findEntity entry.entity with
  | none => some (txt "entity " ++ entry.entity.toText ++ txt " disappeared")
  | some record =>
      if record.currentGeneration ≠ entry.entityGeneration then
        some (txt "entity " ++ entry.entity.toText ++ txt " advanced to generation " ++
          decimal record.currentGeneration.toNat)
      else if record.setGeneration ≠ entry.setGeneration then
        some (txt "capability set of " ++ entry.entity.toText ++
          txt " advanced to generation " ++ decimal record.setGeneration.toNat)
      else if record.setDigest ≠ entry.setDigest then
        some (txt "capability digest of " ++ entry.entity.toText ++ txt " changed")
      else none

/-- `CheckSnapshot`. -/
def checkSnapshot (registry : Registry) (snapshot : CapabilitySnapshot) :
    SnapshotCurrentness :=
  let reasons :=
    (if snapshot.registryGeneration ≠ registry.registryGeneration then
      [txt "registry generation advanced from " ++ decimal snapshot.registryGeneration.toNat ++
        txt " to " ++ decimal registry.registryGeneration.toNat]
    else []) ++
    (if snapshot.epoch ≠ registry.epoch then
      [txt "coordinator epoch advanced from " ++ decimal snapshot.epoch.toNat ++
        txt " to " ++ decimal registry.epoch.toNat]
    else []) ++
    snapshot.entities.filterMap (staleEntry registry)
  { current := reasons.isEmpty, reasons }

/-! ## The digest of the registry -/

def historyFields (summary : EntityGenerationSummary) : Bytes :=
  u64 summary.generation ++
  u64 summary.setGeneration ++
  summary.digest.bytes ++
  Store.sizeU64 summary.capabilityCount ++
  Store.sizeU64 summary.supportedCount

def entityFields (entity : EntityState) : Bytes :=
  putText entity.id.toText kMaxEntityIdLength ++
  u64 entity.currentGeneration ++
  u64 entity.setGeneration ++
  bool entity.invalidated ++
  entity.setDigest.bytes ++
  sizeU32 entity.history.length ++
  entity.history.flatMap fun retained => historyFields retained.summary

/-- `CapabilityRegistry::ComputeDigest`. -/
def Registry.computeDigest (registry : Registry) : Digest :=
  let ordered := sortBy (fun a b => a.id.lt b.id) registry.entities
  let boots := sortBy TokenId.lt registry.fencedBoots
  Ports.computeDigest <|
    putText (txt "fabric-capability-registry") 64 ++
    u32 kFormatVersion ++
    u64 registry.epoch ++
    sizeU32 ordered.length ++
    ordered.flatMap entityFields ++
    sizeU32 boots.length ++
    boots.flatMap fun boot => putText boot.value 64

end FabricCapability.Ports
