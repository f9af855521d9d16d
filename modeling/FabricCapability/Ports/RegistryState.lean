import FabricCapability.Ports.Records
import FabricCapability.Ports.Schema
import FabricCapability.Verified.KeyedList

/-!
# The state of the registry

Translation of the internal state of `src/registry.cpp`: the records held for one
entity, the indexes over all entities, the journals, and `CapabilityRegistry::Impl`
itself as one structure.

The source interns capability and entity identifiers as `uint32` keys.  Interning is
left out: a map keyed by an interned key is a list keyed by the identifier itself
(`KeyedList`), and the vectors of entity keys in the reverse index are lists of entity
identifiers.  The indexes `publisher_evidence_` and `source_evidence_` are written and
never read, so they are left out too.
-/

namespace FabricCapability.Ports

open FabricCapability.Verified.KeyedList
open FabricCapability.Verified.StrictOrder

/-! ## Limits -/

def kMaxEntities : Nat := 1000000
def kMaxCapabilitiesPerEntity : Nat := 4096
def kMaxEvidencePerCapability : Nat := 64
def kMaxEvidencePerEntity : Nat := 65536
def kMaxEntityGenerationsRetained : Nat := 8
def kMaxRetainedCapabilityIds : Nat := 64
def kMaxReplayEntriesPerPublisher : Nat := 128
def kMaxFencedWorkerBoots : Nat := 65536
def kMaxRejectionJournalEntries : Nat := 4096
def kMaxPublicationsPerBatch : Nat := 1024
def kMaxAuthorityNamespaces : Nat := 64
def kMaxAuthorityEntityKinds : Nat := 16

/-- `CapabilityRegistry::Options`. -/
structure Options where
  maxEntities : Nat := kMaxEntities
  maxCapabilitiesPerEntity : Nat := kMaxCapabilitiesPerEntity
  maxEvidencePerCapability : Nat := kMaxEvidencePerCapability
  maxEvidencePerEntity : Nat := kMaxEvidencePerEntity
  maxEntityGenerationsRetained : Nat := kMaxEntityGenerationsRetained
  maxReplayEntriesPerPublisher : Nat := kMaxReplayEntriesPerPublisher
  maxRejectionJournalEntries : Nat := kMaxRejectionJournalEntries
  maxFencedWorkerBoots : Nat := kMaxFencedWorkerBoots
  maxPublishers : Nat := 4096
  maxAuthorityScopes : Nat := 4096
  initialEpoch : CoordinatorEpoch := 1
  deriving DecidableEq

/-! ## Keys -/

/-- One publisher inside one worker boot. -/
structure PublisherKey where
  publisher : PublisherId
  boot : WorkerBootId
  deriving DecidableEq

/-- An evidence-owning source inside one worker boot. -/
structure SourceKey where
  source : SourceId
  boot : WorkerBootId
  deriving DecidableEq

/-- `operator<` of tokens: the order of their texts. -/
def TokenId.lt {tag : TokenTag} (a b : TokenId tag) : Bool := bytesLt a.value b.value

def SourceKey.lt (a b : SourceKey) : Bool :=
  if a.source ≠ b.source then a.source.lt b.source else a.boot.lt b.boot

/-- `operator<` of entity identifiers: the order of the rendered texts. -/
def EntityId.lt (a b : EntityId) : Bool := bytesLt a.toText b.toText

/-! ## One entity -/

structure CapabilityEntry where
  id : CapabilityId
  generation : CapabilityGeneration := 0
  evidence : List EvidenceRecord := []
  resolution : CapabilityResolution := {}
  deriving DecidableEq

structure RetainedGeneration where
  summary : EntityGenerationSummary
  capabilityIds : List CapabilityId
  deriving DecidableEq

structure EntityState where
  id : EntityId
  currentGeneration : EntityGeneration
  touchedAt : RegistryGeneration
  hasSet : Bool := false
  boundGeneration : EntityGeneration
  setGeneration : CapabilitySetGeneration := 0
  invalidated : Bool := false
  invalidationReason : ReasonToken := .unset
  capabilities : List CapabilityEntry := []
  sourceHighWater : List (SourceKey × SourceGeneration) := []
  history : List RetainedGeneration := []
  set : Option EntityCapabilitySet := none
  deriving DecidableEq

/-- `FindCapability`. -/
def EntityState.findCapability (entity : EntityState) (capability : CapabilityId) :
    Option CapabilityEntry :=
  lookup CapabilityEntry.id capability entity.capabilities

/-! ## The indexes -/

/-- The entities that resolve one capability to each of the five states. -/
structure ReverseEntry where
  capability : CapabilityId
  supported : List EntityId := []
  unsupported : List EntityId := []
  unknown : List EntityId := []
  revalidationRequired : List EntityId := []
  conflicted : List EntityId := []
  deriving DecidableEq

namespace ReverseEntry

def bucket (entry : ReverseEntry) : CapabilityState → List EntityId
  | .supported => entry.supported
  | .unsupported => entry.unsupported
  | .unknown => entry.unknown
  | .revalidationRequired => entry.revalidationRequired
  | .conflicted => entry.conflicted

/-- Writing through the pointer that `Bucket` returns. -/
def setBucket (entry : ReverseEntry) (members : List EntityId) : CapabilityState → ReverseEntry
  | .supported => { entry with supported := members }
  | .unsupported => { entry with unsupported := members }
  | .unknown => { entry with unknown := members }
  | .revalidationRequired => { entry with revalidationRequired := members }
  | .conflicted => { entry with conflicted := members }

end ReverseEntry

/-- `InsertSorted`, without the order of the interned keys. -/
def insertMember {α : Type} [DecidableEq α] (values : List α) (value : α) : List α :=
  if value ∈ values then values else values ++ [value]

/-- `EraseSorted`. -/
def eraseMember {α : Type} [DecidableEq α] (values : List α) (value : α) : List α :=
  values.filter (· ≠ value)

theorem mem_insertMember {α : Type} [DecidableEq α] {values : List α} {value other : α} :
    other ∈ insertMember values value ↔ other ∈ values ∨ other = value := by
  unfold insertMember
  split
  · rename_i hMem
    constructor
    · exact .inl
    · rintro (h | rfl)
      · exact h
      · exact hMem
  · simp

theorem mem_eraseMember {α : Type} [DecidableEq α] {values : List α} {value other : α} :
    other ∈ eraseMember values value ↔ other ∈ values ∧ other ≠ value := by
  simp [eraseMember]

theorem mem_foldl_insertMember {α κ : Type} [DecidableEq κ] (key : α → κ) {xs : List α}
    {known : List κ} {k : κ} :
    k ∈ xs.foldl (fun known x => insertMember known (key x)) known ↔
      k ∈ known ∨ ∃ x ∈ xs, key x = k := by
  induction xs generalizing known with
  | nil => simp
  | cons x xs ih =>
      rw [List.foldl_cons, ih, mem_insertMember]
      simp [or_assoc, eq_comm]

theorem foldl_insertMember {α κ : Type} [DecidableEq κ] (key : α → κ) (xs : List α)
    (known : List κ) (h : (known ++ xs.map key).Nodup) :
    xs.foldl (fun known x => insertMember known (key x)) known = known ++ xs.map key := by
  induction xs generalizing known with
  | nil => simp
  | cons x xs ih =>
      have hNew : key x ∉ known := by
        intro hMem
        exact (List.nodup_append.1 h).2.2 _ hMem _ (by simp) rfl
      rw [List.foldl_cons, insertMember, if_neg hNew, ih _ (by simpa using h)]
      simp

/-- The indexes that resolution keeps up to date. -/
structure Indexes where
  reverse : List ReverseEntry := []
  revalidation : List (EntityId × CapabilityId) := []
  namespaces : List (CapabilityNamespaceId × List CapabilityId) := []
  deriving DecidableEq

/-- A `std::set` of pairs tells its elements apart by their order, which is the order
of the rendered texts. -/
def revalidationKey (pair : EntityId × CapabilityId) : Bytes × Bytes :=
  (pair.1.toText, pair.2.toText)

namespace Indexes

/-- The bucket of a capability and a state; empty when nothing was indexed. -/
def bucket (indexes : Indexes) (capability : CapabilityId) (state : CapabilityState) :
    List EntityId :=
  match lookup ReverseEntry.capability capability indexes.reverse with
  | some entry => entry.bucket state
  | none => []

def removeFromReverse (indexes : Indexes) (entity : EntityId) (capability : CapabilityId)
    (state : CapabilityState) : Indexes :=
  match lookup ReverseEntry.capability capability indexes.reverse with
  | some entry =>
      { indexes with
        reverse := upsert ReverseEntry.capability
          (entry.setBucket (eraseMember (entry.bucket state) entity) state) indexes.reverse }
  | none => indexes

def addToReverse (indexes : Indexes) (entity : EntityId) (capability : CapabilityId)
    (state : CapabilityState) : Indexes :=
  let entry := (lookup ReverseEntry.capability capability indexes.reverse).getD { capability }
  { indexes with
    reverse := upsert ReverseEntry.capability
      (entry.setBucket (insertMember (entry.bucket state) entity) state) indexes.reverse }

/-- `UpdateRevalidationIndex`; `previous` is the state of a resolution that existed. -/
def updateRevalidation (indexes : Indexes) (entity : EntityId) (capability : CapabilityId)
    (previous : Option CapabilityState) (current : CapabilityState) : Indexes :=
  let pair := (entity, capability)
  let was := previous = some .revalidationRequired
  let is := current = .revalidationRequired
  if was ∧ ¬is then
    { indexes with
      revalidation := indexes.revalidation.filter fun held =>
        revalidationKey held ≠ revalidationKey pair }
  else if ¬was ∧ is then
    if indexes.revalidation.any fun held => revalidationKey held = revalidationKey pair then
      indexes
    else { indexes with revalidation := indexes.revalidation ++ [pair] }
  else indexes

/-- `TouchNamespace`: the set of a namespace compares rendered texts as well. -/
def touchNamespace (indexes : Indexes) (capability : CapabilityId) : Indexes :=
  let held := ((lookup Prod.fst capability.ns indexes.namespaces).map Prod.snd).getD []
  let held :=
    if held.any fun known => known.toText = capability.toText then held
    else held ++ [capability]
  { indexes with namespaces := upsert Prod.fst (capability.ns, held) indexes.namespaces }

end Indexes

/-! ## Replays and journals -/

structure ReplayRecord where
  attempt : MutationAttemptId
  publication : PublicationId
  contentDigest : Bytes
  status : PublicationStatus := .committed
  code : ErrorCode := .ok
  deriving DecidableEq

structure PublisherRuntime where
  registration : PublisherRegistration
  active : Bool := false
  replay : List ReplayRecord := []
  deriving DecidableEq

structure JournalEntry where
  publication : PublicationId
  attempt : MutationAttemptId
  entity : EntityId
  entityGeneration : EntityGeneration
  status : PublicationStatus := .rejected
  code : ErrorCode := .ok
  message : Bytes
  previousGeneration : CapabilitySetGeneration := 0
  newGeneration : CapabilitySetGeneration := 0
  registryGeneration : RegistryGeneration
  explanation : Explanation
  deriving DecidableEq

/-- The publication journal, which is all that a rejection may write. -/
structure Journal where
  entries : List JournalEntry := []
  order : List PublicationId := []
  attempts : List (MutationAttemptId × PublicationId) := []
  deriving DecidableEq

/-! ## The registry -/

structure Registry where
  options : Options
  schema : CapabilitySchema := .canonical
  registryGeneration : RegistryGeneration := 0
  epoch : CoordinatorEpoch
  authorities : List AuthorityGrant := []
  publishers : List (PublisherKey × PublisherRuntime) := []
  fencedBoots : List WorkerBootId := []
  fences : List FenceRecord := []
  entities : List EntityState := []
  indexes : Indexes := {}
  arrivalSequence : UInt64 := 0
  journal : Journal := {}
  deriving DecidableEq

namespace Registry

/-- The constructor: an unset initial epoch becomes epoch 1. -/
def init (options : Options) : Registry :=
  if options.initialEpoch = 0 then
    { options := { options with initialEpoch := 1 }, epoch := 1 }
  else { options, epoch := options.initialEpoch }

def findEntity (registry : Registry) (id : EntityId) : Option EntityState :=
  lookup EntityState.id id registry.entities

/-- The grant that `authority_index_` points at: the last one with the scope. -/
def findGrant (registry : Registry) (scope : AuthorityScopeId) : Option AuthorityGrant :=
  lookup AuthorityGrant.scope scope registry.authorities.reverse

def findRuntime (registry : Registry) (key : PublisherKey) : Option PublisherRuntime :=
  (lookup Prod.fst key registry.publishers).map Prod.snd

/-- Writing through the pointer that `FindEntity` returns. -/
def setEntity (registry : Registry) (entity : EntityState) : Registry :=
  { registry with entities := upsert EntityState.id entity registry.entities }

end Registry

/-- `Next` where the source keeps the old generation when the counter is exhausted. -/
def nextOrSame (generation : UInt64) : UInt64 :=
  (counterNext generation).toOption.getD generation

/-- `MakeReason`. -/
def makeReason (text : Bytes) : ReasonToken := TokenId.parseOrUnset text

/-- A reason argument, or the operation's own text when it is unset. -/
def reasonOr (reason : ReasonToken) (text : Bytes) : ReasonToken :=
  if reason.isSet then reason else makeReason text

end FabricCapability.Ports
