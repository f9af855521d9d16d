import FabricCapability.Ports.RegistryState
import FabricCapability.Verified.OrderFree

/-!
# Resolving evidence

Translation of the resolution and materialisation parts of `src/registry.cpp`:
`ResolveCapability` picks the state of one capability from its evidence,
`FinishResolution` stores it and keeps the indexes in step, and `Materialize` builds
the immutable set of an entity with its digest.

`ResolveCapability` is split in two: `computeResolution` is the pure choice, and
`resolveCapability` hands it to `finishResolution`.

## Main results

* `computeResolution_capability`: a resolution always names the capability of its entry.
* `pickDeterministic_mem`: the winner is one of the candidates.
-/

namespace FabricCapability.Ports

open FabricCapability.Verified.KeyedList
open FabricCapability.Verified.OrderFree
open FabricCapability.Verified.StrictOrder

/-! ## Choosing a winner -/

/-- Whether `PickDeterministic` replaces `best` by `record`. -/
def outranks (record best : EvidenceRecord) : Bool :=
  if record.evidenceGeneration > best.evidenceGeneration then true
  else if record.evidenceGeneration < best.evidenceGeneration then false
  else if record.source ≠ best.source then record.source.lt best.source
  else record.workerBoot.lt best.workerBoot

def pickFrom (best : EvidenceRecord) : List EvidenceRecord → EvidenceRecord
  | [] => best
  | record :: records =>
      pickFrom (if outranks record best then record else best) records

/-- `PickDeterministic`; a null pointer is returned for no records only. -/
def pickDeterministic : List EvidenceRecord → Option EvidenceRecord
  | [] => none
  | record :: records => some (pickFrom record records)

def sameClaim (lhs rhs : EvidenceRecord) : Bool :=
  if lhs.state ≠ rhs.state then false
  else if lhs.value.isAbsent ≠ rhs.value.isAbsent then false
  else if lhs.value.isAbsent then true
  else lhs.value.same rhs.value

/-- The identifiers of the records that make a claim not seen before. -/
def distinctClaims (seen : List EvidenceRecord) : List EvidenceRecord → List EvidenceId
  | [] => []
  | record :: records =>
      let rest := distinctClaims (seen ++ [record]) records
      if seen.any fun earlier => sameClaim earlier record then rest else record.id :: rest

/-- A record that is held against the capability without being current. -/
def isSuspended (currentness : EvidenceCurrentness) : Bool :=
  currentness == .revalidationRequired || currentness == .fenced

/-- The fields of a resolution that are copied from the winning record. -/
def withWinner (resolution : CapabilityResolution) (winner : EvidenceRecord) :
    CapabilityResolution :=
  { resolution with
    winningEvidence := winner.id
    provenance := winner.provenance
    sourceClass := winner.sourceClass
    coverage := winner.coverage
    durability := winner.durability
    evidenceGeneration := winner.evidenceGeneration
    sourceGeneration := winner.sourceGeneration }

def withValueOf (resolution : CapabilityResolution) (winner : EvidenceRecord) :
    CapabilityResolution :=
  let hasValue := !winner.value.isAbsent
  { resolution with
    value := winner.value
    hasValue
    valueDigest := if hasValue then digestOf winner.value else .zero }

/-- The rank the strongest records of a pool share. -/
def strongestRank (pool : List EvidenceRecord) : UInt8 :=
  pool.foldl (fun rank record => min rank (provenanceRank record.provenance))
    kProvenanceClassCount

/-- The resolution of one entry of the entity generation `bound`. -/
def computeResolution (entity : EntityId) (bound : EntityGeneration)
    (entry : CapabilityEntry) : CapabilityResolution :=
  let current := entry.evidence.filter fun record => isCurrent record.currentness
  let nonCurrent := entry.evidence.filter fun record => isSuspended record.currentness
  let retired := entry.evidence.filter fun record => isRetired record.currentness
  let pool := current ++ nonCurrent
  let rank := strongestRank pool
  let strongest := pool.filter fun record => provenanceRank record.provenance == rank
  let strongestCurrent := strongest.filter fun record => isCurrent record.currentness
  let counted : CapabilityResolution :=
    { capability := entry.id
      recordId := makeCapabilityRecordId entity bound entry.id
      evidenceCount := current.length + nonCurrent.length + retired.length
      currentEvidenceCount := current.length
      capabilityGeneration := entry.generation
      hasNonCurrentEvidence := !nonCurrent.isEmpty
      outrankedEvidenceCount := pool.length - strongest.length }
  match pickDeterministic strongest, pickDeterministic strongestCurrent with
  | none, _ => counted
  | some winner, none =>
      withValueOf { withWinner counted winner with state := .revalidationRequired } winner
  | some _, some winner =>
      if strongestCurrent.all fun record => sameClaim record winner then
        withValueOf { withWinner counted winner with state := winner.state } winner
      else
        let conflicting :=
          (distinctClaims [] strongestCurrent).take kMaxEvidencePerCapability
        { withWinner counted winner with
          state := .conflicted
          conflictingEvidence := conflicting
          conflictingEvidenceCount := conflicting.length }

/-- `FinishResolution`: store the resolution and move the entity between the buckets
of the indexes. -/
def finishResolution (indexes : Indexes) (entity : EntityId) (entry : CapabilityEntry)
    (resolution : CapabilityResolution) : Indexes × CapabilityEntry :=
  let previous :=
    if entry.resolution.capability.isSet then some entry.resolution.state else none
  let moved :=
    match previous with
    | some state =>
        if state ≠ resolution.state then
          (indexes.removeFromReverse entity entry.id state).addToReverse entity entry.id
            resolution.state
        else indexes
    | none => indexes.addToReverse entity entry.id resolution.state
  ((moved.updateRevalidation entity entry.id previous resolution.state).touchNamespace
      entry.id,
    { entry with resolution })

/-- `ResolveCapability`. -/
def resolveCapability (indexes : Indexes) (entity : EntityId) (bound : EntityGeneration)
    (entry : CapabilityEntry) : Indexes × CapabilityEntry :=
  finishResolution indexes entity entry (computeResolution entity bound entry)

/-! ## Materialised sets -/

/-- What `DigestOfResolutions` writes for one resolution. -/
def resolutionDigestFields (resolution : CapabilityResolution) : Bytes :=
  putText resolution.capability.toText kMaxCapabilityIdLength ++
  u8 resolution.state.toByte ++
  bool resolution.hasValue ++
  (if resolution.hasValue then resolution.value.encode else []) ++
  u8 (provenanceRank resolution.provenance) ++
  u8 resolution.sourceClass.toByte ++
  u8 resolution.coverage.toByte ++
  u8 resolution.durability.toByte ++
  u64 resolution.evidenceGeneration ++
  u64 resolution.capabilityGeneration ++
  sizeU32 resolution.evidenceCount ++
  sizeU32 resolution.currentEvidenceCount ++
  sizeU32 resolution.outrankedEvidenceCount ++
  sizeU32 resolution.conflictingEvidenceCount ++
  bool resolution.hasNonCurrentEvidence

def digestOfResolutions (resolutions : List CapabilityResolution) : Digest :=
  computeDigest (sizeU32 resolutions.length ++ resolutions.flatMap resolutionDigestFields)

/-- The resolutions of an entity, ordered by capability. -/
def EntityState.resolutions (entity : EntityState) : List CapabilityResolution :=
  sortBy (fun a b => a.capability.lt b.capability)
    (entity.capabilities.map CapabilityEntry.resolution)

def materialize (registryGeneration : RegistryGeneration) (entity : EntityState) :
    EntityCapabilitySet :=
  { entity := entity.id
    entityGeneration := entity.boundGeneration
    setGeneration := entity.setGeneration
    registryGeneration
    invalidated := entity.invalidated
    invalidationReason := entity.invalidationReason
    capabilities := entity.resolutions
    digest := digestOfResolutions entity.resolutions }

/-- `RefreshEntity`; no caller uses the flag that it returns. -/
def refreshEntity (registryGeneration : RegistryGeneration) (entity : EntityState) :
    EntityState :=
  { entity with
    set := some (materialize registryGeneration entity)
    touchedAt := registryGeneration }

/-! ## What resolution keeps -/

theorem pickFrom_eq (best : EvidenceRecord) (records : List EvidenceRecord) :
    pickFrom best records = champion outranks best records := by
  induction records generalizing best with
  | nil => rfl
  | cons record records ih => exact ih _

theorem pickDeterministic_mem {records : List EvidenceRecord} {winner : EvidenceRecord}
    (h : pickDeterministic records = some winner) : winner ∈ records := by
  cases records with
  | nil => cases h
  | cons record records =>
      rw [pickDeterministic, Option.some.injEq] at h
      exact h ▸ pickFrom_eq record records ▸ champion_mem record records

@[simp] theorem computeResolution_capability (entity : EntityId) (bound : EntityGeneration)
    (entry : CapabilityEntry) :
    (computeResolution entity bound entry).capability = entry.id := by
  unfold computeResolution
  dsimp only
  split
  · rfl
  · rfl
  · split <;> rfl

@[simp] theorem resolveCapability_snd (indexes : Indexes) (entity : EntityId)
    (bound : EntityGeneration) (entry : CapabilityEntry) :
    (resolveCapability indexes entity bound entry).2 =
      { entry with resolution := computeResolution entity bound entry } := rfl

end FabricCapability.Ports
