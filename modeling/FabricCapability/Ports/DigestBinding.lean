import FabricCapability.Ports.DiffTruth
import FabricCapability.Ports.EntityDiffs
import FabricCapability.Ports.SnapshotCurrency

/-!
# What the digest of the registry identifies

`ComputeDigest` writes the epoch, the entities in order, and the fenced boots in order.  The
bytes that it digests settle all of these: equal digests mean, up to a collision, that the
same entities are at the same generations with the same digests of their sets and of their
histories, and that the same boots are fenced.  The digest of a set settles in turn what its
resolutions show.

## Main results

* `registryBytes_settle`: the digested bytes of two registries.
* `registry_digest_identifies_state`: the digests of two registries of a deployment.
-/

namespace FabricCapability.Ports

open FabricCapability.Verified
open FabricCapability.Verified.KeyedList
open FabricCapability.Verified.Restores
open FabricCapability.Verified.Runs
open FabricCapability.Verified.StrictOrder

/-! ## What is digested of an entity -/

/-- What the digest of the registry says about a retired generation. -/
structure DigestedGeneration where
  generation : EntityGeneration
  setGeneration : CapabilitySetGeneration
  digest : Digest
  capabilityCount : UInt64
  supportedCount : UInt64
  deriving DecidableEq

/-- What the digest of the registry says about an entity. -/
structure DigestedEntity where
  id : EntityId
  currentGeneration : EntityGeneration
  setGeneration : CapabilitySetGeneration
  invalidated : Bool
  setDigest : Digest
  history : List DigestedGeneration
  deriving DecidableEq

def EntityGenerationSummary.digested (summary : EntityGenerationSummary) : DigestedGeneration :=
  { generation := summary.generation
    setGeneration := summary.setGeneration
    digest := summary.digest
    capabilityCount := UInt64.ofNat summary.capabilityCount
    supportedCount := UInt64.ofNat summary.supportedCount }

def EntityState.digested (entity : EntityState) : DigestedEntity :=
  { id := entity.id
    currentGeneration := entity.currentGeneration
    setGeneration := entity.setGeneration
    invalidated := entity.invalidated
    setDigest := entity.setDigest
    history := entity.history.map fun retained => retained.summary.digested }

def DigestedGeneration.fields (digested : DigestedGeneration) : Bytes :=
  u64 digested.generation ++
  u64 digested.setGeneration ++
  digested.digest.bytes ++
  u64 digested.capabilityCount ++
  u64 digested.supportedCount

def DigestedEntity.fields (digested : DigestedEntity) : Bytes :=
  putText digested.id.toText kMaxEntityIdLength ++
  u64 digested.currentGeneration ++
  u64 digested.setGeneration ++
  bool digested.invalidated ++
  digested.setDigest.bytes ++
  sizeU32 digested.history.length ++
  digested.history.flatMap DigestedGeneration.fields

theorem entityFields_digested (entity : EntityState) :
    entityFields entity = entity.digested.fields := by
  unfold entityFields DigestedEntity.fields EntityState.digested
  dsimp only
  rw [List.length_map, List.flatMap_map]
  rfl

/-! ## Delimited fields -/

theorem delimited_digest : Delimited (fun _ => True) Digest.bytes :=
  .of_decodes fun digest _ => Store.decodes_digest digest

theorem delimited_generation : Delimited (fun _ => True) DigestedGeneration.fields := by
  rintro ⟨generation, set, digest, count, supported⟩ ⟨generation', set', digest', count',
    supported'⟩ - - r s hEq
  simp only [DigestedGeneration.fields, List.append_assoc] at hEq
  obtain ⟨hGeneration, hEq⟩ := delimited_u64 trivial trivial hEq
  obtain ⟨hSet, hEq⟩ := delimited_u64 trivial trivial hEq
  obtain ⟨hDigest, hEq⟩ := delimited_digest trivial trivial hEq
  obtain ⟨hCount, hEq⟩ := delimited_u64 trivial trivial hEq
  obtain ⟨hSupported, hEq⟩ := delimited_u64 trivial trivial hEq
  exact ⟨by rw [hGeneration, hSet, hDigest, hCount, hSupported], hEq⟩

theorem delimited_digested :
    Delimited (fun digested => digested.history.length < 2 ^ 32) DigestedEntity.fields := by
  rintro ⟨id, current, set, invalidated, digest, history⟩ ⟨id', current', set', invalidated',
    digest', history'⟩ hCount hCount' r s hEq
  simp only [DigestedEntity.fields, List.append_assoc] at hEq
  obtain ⟨hId, hEq⟩ := delimited_entity trivial trivial hEq
  obtain ⟨hCurrent, hEq⟩ := delimited_u64 trivial trivial hEq
  obtain ⟨hSet, hEq⟩ := delimited_u64 trivial trivial hEq
  obtain ⟨hInvalidated, hEq⟩ := delimited_bool trivial trivial hEq
  obtain ⟨hDigest, hEq⟩ := delimited_digest trivial trivial hEq
  rw [← List.append_assoc, ← List.append_assoc (sizeU32 history'.length)] at hEq
  obtain ⟨(hHistory : history = history'), hEq⟩ := (delimited_size.counted delimited_generation)
    ⟨hCount, fun _ _ => trivial⟩ ⟨hCount', fun _ _ => trivial⟩ hEq
  exact ⟨by rw [hId, hCurrent, hSet, hInvalidated, hDigest, hHistory], hEq⟩

theorem delimited_boot :
    Delimited (fun _ => True) fun boot : WorkerBootId => putText boot.value 64 :=
  delimited_token (by decide) (by decide)

/-! ## What is digested of a registry -/

def Registry.orderedEntities (registry : Registry) : List EntityState :=
  sortBy (fun a b => a.id.lt b.id) registry.entities

def Registry.orderedBoots (registry : Registry) : List WorkerBootId :=
  sortBy TokenId.lt registry.fencedBoots

/-- The bytes that `ComputeDigest` digests. -/
def Registry.digestedBytes (registry : Registry) : Bytes :=
  putText (txt "fabric-capability-registry") 64 ++
  u32 kFormatVersion ++
  u64 registry.epoch ++
  sizeU32 registry.orderedEntities.length ++
  registry.orderedEntities.flatMap entityFields ++
  sizeU32 registry.orderedBoots.length ++
  registry.orderedBoots.flatMap fun boot => putText boot.value 64

theorem computeDigest_eq (registry : Registry) :
    registry.computeDigest = Ports.computeDigest registry.digestedBytes := by
  unfold Registry.computeDigest Registry.digestedBytes
  rfl

/-- The sizes that are written fit their 32 bits. -/
structure Registry.Countable (registry : Registry) : Prop where
  entities : registry.entities.length < 2 ^ 32
  boots : registry.fencedBoots.length < 2 ^ 32
  histories : ∀ entity ∈ registry.entities, entity.history.length < 2 ^ 32

section Bytes

variable {a b : Registry}

theorem registryBytes_settle (ha : a.Countable) (hb : b.Countable)
    (hEq : a.digestedBytes = b.digestedBytes) :
    a.epoch = b.epoch ∧
      a.orderedEntities.map EntityState.digested = b.orderedEntities.map EntityState.digested ∧
      a.orderedBoots = b.orderedBoots := by
  have hFields : ∀ registry : Registry,
      sizeU32 registry.orderedEntities.length ++ registry.orderedEntities.flatMap entityFields =
        sizeU32 (registry.orderedEntities.map EntityState.digested).length ++
          (registry.orderedEntities.map EntityState.digested).flatMap DigestedEntity.fields := by
    intro registry
    rw [List.length_map, List.flatMap_map]
    exact congrArg _ (List.flatMap_congr fun entity _ => entityFields_digested entity)
  have hWithin : ∀ registry : Registry, registry.Countable →
      (registry.orderedEntities.map EntityState.digested).length < 2 ^ 32 ∧
        ∀ digested ∈ registry.orderedEntities.map EntityState.digested,
          digested.history.length < 2 ^ 32 := by
    intro registry h
    refine ⟨?_, fun digested hMem => ?_⟩
    · rw [List.length_map, Registry.orderedEntities, length_sortBy]
      exact h.entities
    · obtain ⟨entity, hEntity, rfl⟩ := List.mem_map.1 hMem
      show (entity.history.map _).length < _
      rw [List.length_map]
      exact h.histories entity (mem_sortBy.1 hEntity)
  have hBoots : ∀ registry : Registry, registry.Countable →
      registry.orderedBoots.length < 2 ^ 32 := by
    intro registry h
    rw [Registry.orderedBoots, length_sortBy]
    exact h.boots
  unfold Registry.digestedBytes at hEq
  have hEq := congrArg (· ++ []) hEq
  simp only [List.append_assoc] at hEq
  have hEq := List.append_cancel_left (List.append_cancel_left hEq)
  obtain ⟨hEpoch, hEq⟩ := delimited_u64 trivial trivial hEq
  rw [← List.append_assoc, hFields, ← List.append_assoc (sizeU32 b.orderedEntities.length),
    hFields] at hEq
  obtain ⟨hEntities, hEq⟩ := (delimited_size.counted delimited_digested) (hWithin a ha)
    (hWithin b hb) hEq
  rw [← List.append_assoc, ← List.append_assoc (sizeU32 b.orderedBoots.length)] at hEq
  obtain ⟨hFenced, -⟩ := (delimited_size.counted delimited_boot)
    ⟨hBoots a ha, fun _ _ => trivial⟩ ⟨hBoots b hb, fun _ _ => trivial⟩ hEq
  exact ⟨hEpoch, hEntities, hFenced⟩

/-- Bytes are written of what is settled by them. -/
theorem registryBytes_of_settled (hEpoch : a.epoch = b.epoch)
    (hEntities : a.orderedEntities.map EntityState.digested =
      b.orderedEntities.map EntityState.digested)
    (hBoots : a.orderedBoots = b.orderedBoots) : a.digestedBytes = b.digestedBytes := by
  have hLength := congrArg List.length hEntities
  rw [List.length_map, List.length_map] at hLength
  have hFields := congrArg (fun entities => entities.flatMap DigestedEntity.fields) hEntities
  simp only [List.flatMap_map, ← entityFields_digested] at hFields
  unfold Registry.digestedBytes
  rw [hEpoch, hLength, hFields, hBoots]

end Bytes

/-! ## Registries that are told apart -/

/-- The same is digested of both registries: entity by entity, and boot by boot. -/
structure DigestAlike (a b : Registry) : Prop where
  epoch : a.epoch = b.epoch
  entities : ∀ id, (a.findEntity id).map EntityState.digested =
    (b.findEntity id).map EntityState.digested
  fences : ∀ boot, isWorkerBootFenced a boot = isWorkerBootFenced b boot

/-- The digests of the registries tell their digested bytes apart. -/
def DigestsTellApart (a b : Registry) : Prop :=
  Ports.computeDigest a.digestedBytes = Ports.computeDigest b.digestedBytes →
    a.digestedBytes = b.digestedBytes

section Registries

variable {a b : Registry}

theorem find_digested (h : a.Distinct) (id : EntityId) :
    (a.findEntity id).map EntityState.digested =
      lookup DigestedEntity.id id (a.orderedEntities.map EntityState.digested) := by
  have hImage : lookup DigestedEntity.id id (a.orderedEntities.map EntityState.digested) =
      (lookup EntityState.id id a.orderedEntities).map EntityState.digested :=
    lookup_image fun _ _ => rfl
  rw [hImage, Registry.findEntity, lookup_perm h (sortBy_perm _ _).symm]
  rfl

/-- Lists with distinct keys and the same lookups have the same elements. -/
theorem perm_of_lookups {α κ : Type} [DecidableEq κ] {key : α → κ} {xs ys : List α}
    (hxs : (xs.map key).Nodup) (hys : (ys.map key).Nodup)
    (h : ∀ k, lookup key k xs = lookup key k ys) : xs.Perm ys := by
  have hMem : ∀ {us vs : List α}, (us.map key).Nodup →
      (∀ k, lookup key k us = lookup key k vs) → ∀ a ∈ us, a ∈ vs := by
    intro us vs hus hSame a hMem
    have hFound := lookup_of_mem hus hMem
    rw [hSame] at hFound
    exact lookup_mem hFound
  refine (List.perm_ext_iff_of_nodup (List.Nodup.of_map _ hxs) (List.Nodup.of_map _ hys)).2 ?_
  exact fun a => ⟨hMem hxs h a, hMem hys (fun k => (h k).symm) a⟩

/-- In the order of their texts, keys and what hangs on them are settled by the lookups. -/
theorem ordered_of_perm {a b : Registry} (ha : a.Distinct)
    (h : (a.entities.map EntityState.digested).Perm (b.entities.map EntityState.digested)) :
    a.orderedEntities.map EntityState.digested = b.orderedEntities.map EntityState.digested := by
  have hSorted : ∀ registry : Registry, registry.orderedEntities.map EntityState.digested =
      sortBy (fun x y : DigestedEntity => bytesLt x.id.toText y.id.toText)
        (registry.entities.map EntityState.digested) :=
    fun registry => @map_sortBy EntityState (fun x y => x.id.lt y.id) DigestedEntity
      EntityState.digested (fun x y => bytesLt x.id.toText y.id.toText) (fun _ _ => rfl)
      registry.entities
  have hTexts : ((a.entities.map EntityState.digested).map
      fun digested => digested.id.toText).Nodup := by
    have hIds : ((a.entities.map EntityState.id).map EntityId.toText).Nodup :=
      ha.map fun _ _ hSame => EntityId.toText_injective hSame
    rw [List.map_map] at hIds ⊢
    exact hIds
  rw [hSorted, hSorted]
  exact sortBy_eq_of_perm (bytesLt_total.comap fun digested : DigestedEntity =>
    digested.id.toText) h (sortBy_keys_pairwise bytesLt_total
      (fun digested : DigestedEntity => digested.id.toText) hTexts)

theorem orderedBoots_of_perm {a b : Registry} (ha : a.fencedBoots.Nodup)
    (h : a.fencedBoots.Perm b.fencedBoots) : a.orderedBoots = b.orderedBoots := by
  have hValues : (a.fencedBoots.map TokenId.value).Nodup :=
    ha.map fun _ _ hSame => TokenId.ext hSame
  exact sortBy_eq_of_perm (bytesLt_total.comap TokenId.value) h
    (sortBy_keys_pairwise bytesLt_total TokenId.value hValues)

theorem digestAlike_iff (ha : a.Distinct) (hb : b.Distinct) (hFences : a.fencedBoots.Nodup)
    (hFences' : b.fencedBoots.Nodup) : DigestAlike a b ↔
      a.epoch = b.epoch ∧
        a.orderedEntities.map EntityState.digested =
          b.orderedEntities.map EntityState.digested ∧
        a.orderedBoots = b.orderedBoots := by
  constructor
  · intro h
    refine ⟨h.epoch, ?_, ?_⟩
    · have hKeys : ∀ registry : Registry, registry.Distinct →
          ((registry.entities.map EntityState.digested).map DigestedEntity.id).Nodup := by
        intro registry hDistinct
        rw [List.map_map]
        exact hDistinct
      have hLookup : ∀ (registry : Registry) id,
          lookup DigestedEntity.id id (registry.entities.map EntityState.digested) =
            (registry.findEntity id).map EntityState.digested :=
        fun registry id => lookup_image fun _ _ => rfl
      refine ordered_of_perm ha (perm_of_lookups (hKeys a ha) (hKeys b hb) fun id => ?_)
      rw [hLookup, hLookup]
      exact h.entities id
    · have hPerm : a.fencedBoots.Perm b.fencedBoots := by
        rw [List.perm_ext_iff_of_nodup hFences hFences']
        intro boot
        have hFenced := h.fences boot
        unfold isWorkerBootFenced at hFenced
        rw [decide_eq_decide] at hFenced
        exact hFenced
      exact orderedBoots_of_perm hFences hPerm
  · rintro ⟨hEpoch, hEntities, hBoots⟩
    refine ⟨hEpoch, fun id => ?_, fun boot => ?_⟩
    · rw [find_digested ha, find_digested hb, hEntities]
    · have hMem : ∀ registry : Registry, isWorkerBootFenced registry boot =
          decide (boot ∈ registry.orderedBoots) := by
        intro registry
        unfold isWorkerBootFenced Registry.orderedBoots
        simp only [mem_sortBy]
      rw [hMem, hMem, hBoots]

end Registries

/-! ## Sets that are told apart -/

/-- What the digest of a set says about a resolution. -/
structure DigestedResolution where
  capability : Bytes
  state : CapabilityState
  value : Option CapabilityValue
  provenance : UInt8
  sourceClass : EvidenceSourceClass
  coverage : Coverage
  durability : DurabilityClass
  evidenceGeneration : EvidenceGeneration
  capabilityGeneration : CapabilityGeneration
  evidenceCount : UInt32
  currentEvidenceCount : UInt32
  outrankedEvidenceCount : UInt32
  conflictingEvidenceCount : UInt32
  hasNonCurrentEvidence : Bool
  deriving DecidableEq

def CapabilityResolution.digested (resolution : CapabilityResolution) : DigestedResolution :=
  { capability := resolution.capability.toText
    state := resolution.state
    value := if resolution.hasValue then some resolution.value else none
    provenance := provenanceRank resolution.provenance
    sourceClass := resolution.sourceClass
    coverage := resolution.coverage
    durability := resolution.durability
    evidenceGeneration := resolution.evidenceGeneration
    capabilityGeneration := resolution.capabilityGeneration
    evidenceCount := UInt32.ofNat resolution.evidenceCount
    currentEvidenceCount := UInt32.ofNat resolution.currentEvidenceCount
    outrankedEvidenceCount := UInt32.ofNat resolution.outrankedEvidenceCount
    conflictingEvidenceCount := UInt32.ofNat resolution.conflictingEvidenceCount
    hasNonCurrentEvidence := resolution.hasNonCurrentEvidence }

/-- The fields of a resolution settle what is digested of it. -/
theorem resolutionDigestFields_settle {a b : CapabilityResolution} {r s : Bytes}
    (hEq : resolutionDigestFields a ++ r = resolutionDigestFields b ++ s) :
    a.digested = b.digested ∧ r = s := by
  unfold resolutionDigestFields at hEq
  simp only [List.append_assoc] at hEq
  obtain ⟨hText, hEq⟩ := delimited_text (by decide) a.capability.length_toText_le
    b.capability.length_toText_le hEq
  obtain ⟨hState, hEq⟩ := delimited_enum (fun a b => by cases a <;> cases b <;> decide) trivial
    trivial hEq
  obtain ⟨hPresent, hEq⟩ := delimited_bool trivial trivial hEq
  obtain ⟨hValue, hEq⟩ : (if a.hasValue then some a.value else none) =
      (if b.hasValue then some b.value else none) ∧
        u8 (provenanceRank a.provenance) ++ _ = u8 (provenanceRank b.provenance) ++ _ := by
    rw [hPresent] at hEq ⊢
    by_cases hHere : b.hasValue = true
    · rw [if_pos hHere, if_pos hHere] at hEq
      obtain ⟨hSame, hRest⟩ := CapabilityValue.delimited trivial trivial hEq
      exact ⟨by rw [hSame], hRest⟩
    · rw [if_neg hHere, if_neg hHere] at hEq
      exact ⟨by rw [if_neg hHere, if_neg hHere], hEq⟩
  obtain ⟨hProvenance, hEq⟩ := delimited_u8 trivial trivial hEq
  obtain ⟨hSource, hEq⟩ := delimited_enum (fun a b => by cases a <;> cases b <;> decide)
    trivial trivial hEq
  obtain ⟨hCoverage, hEq⟩ := delimited_enum (fun a b => by cases a <;> cases b <;> decide)
    trivial trivial hEq
  obtain ⟨hDurability, hEq⟩ := delimited_enum (fun a b => by cases a <;> cases b <;> decide)
    trivial trivial hEq
  obtain ⟨hEvidence, hEq⟩ := delimited_u64 trivial trivial hEq
  obtain ⟨hGeneration, hEq⟩ := delimited_u64 trivial trivial hEq
  obtain ⟨hCount, hEq⟩ := delimited_u32 trivial trivial hEq
  obtain ⟨hCurrent, hEq⟩ := delimited_u32 trivial trivial hEq
  obtain ⟨hOutranked, hEq⟩ := delimited_u32 trivial trivial hEq
  obtain ⟨hConflicting, hEq⟩ := delimited_u32 trivial trivial hEq
  obtain ⟨hNonCurrent, hEq⟩ := delimited_bool trivial trivial hEq
  refine ⟨?_, hEq⟩
  unfold CapabilityResolution.digested
  rw [hText, hState, hValue, hProvenance, hSource, hCoverage, hDurability, hEvidence,
    hGeneration, hCount, hCurrent, hOutranked, hConflicting, hNonCurrent]

/-- Resolutions written one after another are told apart: none is written to nothing. -/
theorem resolutions_settle {xs ys : List CapabilityResolution}
    (hEq : xs.flatMap resolutionDigestFields = ys.flatMap resolutionDigestFields) :
    xs.map CapabilityResolution.digested = ys.map CapabilityResolution.digested := by
  induction xs generalizing ys with
  | nil =>
      cases ys with
      | nil => rfl
      | cons y ys =>
          rw [List.flatMap_nil, List.flatMap_cons] at hEq
          exact absurd (List.append_eq_nil_iff.1 hEq.symm).1 (resolutionDigestFields_ne_nil y)
  | cons x xs ih =>
      cases ys with
      | nil =>
          rw [List.flatMap_nil, List.flatMap_cons] at hEq
          exact absurd (List.append_eq_nil_iff.1 hEq).1 (resolutionDigestFields_ne_nil x)
      | cons y ys =>
          rw [List.flatMap_cons, List.flatMap_cons] at hEq
          obtain ⟨hSame, hRest⟩ := resolutionDigestFields_settle hEq
          rw [List.map_cons, List.map_cons, hSame, ih hRest]

/-- Materialised sets with the same digest show the same. -/
theorem shown_of_digest {first second : EntityCapabilitySet} (hFirst : first.Materialized)
    (hSecond : second.Materialized) (hApart : CollisionFree first second)
    (hDigest : first.digest = second.digest) :
    first.capabilities.map CapabilityResolution.digested =
      second.capabilities.map CapabilityResolution.digested := by
  rw [hFirst.digest, hSecond.digest, digestOfResolutions_eq, digestOfResolutions_eq] at hDigest
  obtain ⟨-, hItems⟩ := delimited_u32 trivial trivial (hApart hDigest)
  exact resolutions_settle hItems

/-! ## Deployments -/

/-- The digests of two registries of a deployment agree exactly when both are in the same
epoch, hold the same entities at the same generations, under the same digests of their sets
and histories, and have the same boots fenced; and then the sets of an entity show the
same, as long as their digests do not collide. -/
theorem registry_digest_identifies_state {admits : Options → Prop}
    {guard : Registry → Operation → Prop} {past pastOther : List Transition} {a b : Registry}
    (ha : Reached (deployment admits guard) past a)
    (hb : Reached (deployment admits guard) pastOther b) (hCount : a.Countable)
    (hCountOther : b.Countable) (hApart : DigestsTellApart a b) :
    (a.computeDigest = b.computeDigest ↔ DigestAlike a b) ∧
    (a.computeDigest = b.computeDigest → ∀ id held other, a.findEntity id = some held →
      b.findEntity id = some other → ∀ set otherSet, held.set = some set →
        other.set = some otherSet → CollisionFree set otherSet →
          set.capabilities.map CapabilityResolution.digested =
            otherSet.capabilities.map CapabilityResolution.digested) := by
  have hDistinct := (reached_generations ha).distinct
  have hDistinctOther := (reached_generations hb).distinct
  have hAlike := digestAlike_iff hDistinct hDistinctOther (reached_fencesListed ha).distinct
    (reached_fencesListed hb).distinct
  have hIff : a.computeDigest = b.computeDigest ↔ DigestAlike a b := by
    rw [computeDigest_eq, computeDigest_eq, hAlike]
    constructor
    · exact fun hSame => registryBytes_settle hCount hCountOther (hApart hSame)
    · rintro ⟨hEpoch, hEntities, hBoots⟩
      rw [registryBytes_of_settled hEpoch hEntities hBoots]
  refine ⟨hIff, fun hSame id held other hFound hFoundOther set otherSet hSet hOtherSet
    hSetsApart => ?_⟩
  have hDigested := (hIff.1 hSame).entities id
  rw [hFound, hFoundOther] at hDigested
  have hDigest : held.setDigest = other.setDigest :=
    congrArg DigestedEntity.setDigest (Option.some.inj hDigested)
  unfold EntityState.setDigest at hDigest
  rw [hSet, hOtherSet] at hDigest
  exact shown_of_digest (reached_sets_materialized ha held (lookup_mem hFound) set hSet)
    (reached_sets_materialized hb other (lookup_mem hFoundOther) otherSet hOtherSet)
    hSetsApart hDigest

namespace Sample

/-- The publication is sent once more. -/
def publishedAgain : List Operation := publishedOnce ++ [.publish firstClaim]

end Sample

instance (registry : Registry) : Decidable registry.Countable :=
  decidable_of_iff (registry.entities.length < 2 ^ 32 ∧ registry.fencedBoots.length < 2 ^ 32 ∧
      ∀ entity ∈ registry.entities, entity.history.length < 2 ^ 32)
    ⟨fun h => ⟨h.1, h.2.1, h.2.2⟩, fun h => ⟨h.entities, h.boots, h.histories⟩⟩

theorem replay_keeps_digest :
    DigestAlike (afterRun {} Sample.publishedOnce) (afterRun {} Sample.publishedAgain) ∧
      (afterRun {} Sample.publishedOnce).journal ≠
        (afterRun {} Sample.publishedAgain).journal := by
  obtain ⟨hGuard, hCount, hCountAgain, hBytes, hJournal⟩ :
      Guarded Operation.apply (fun registry operation => NoLoad registry operation ∧ True)
        (Registry.init {}) Sample.publishedAgain ∧
      (afterRun {} Sample.publishedOnce).Countable ∧
      (afterRun {} Sample.publishedAgain).Countable ∧
      (afterRun {} Sample.publishedOnce).digestedBytes =
        (afterRun {} Sample.publishedAgain).digestedBytes ∧
      (afterRun {} Sample.publishedOnce).journal ≠
        (afterRun {} Sample.publishedAgain).journal := by decide +kernel
  have hOnce : Reached (deployment (fun _ => True) fun _ _ => True) _
      (afterRun {} Sample.publishedOnce) :=
    reached_of_operations trivial (guarded_append.1 hGuard).1
  have hAgain : Reached (deployment (fun _ => True) fun _ _ => True) _
      (afterRun {} Sample.publishedAgain) := reached_of_operations trivial hGuard
  refine ⟨(registry_digest_identifies_state hOnce hAgain hCount hCountAgain
    fun _ => hBytes).1.1 ?_, hJournal⟩
  rw [computeDigest_eq, computeDigest_eq, hBytes]

end FabricCapability.Ports
