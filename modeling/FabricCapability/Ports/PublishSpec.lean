import FabricCapability.Ports.Frames

/-!
# What a publication does

One lemma for each stage of `Publish` that says what follows from its success, and
`publish_committed`, which takes a committed publication apart into its stages.

## Main results

* `bindEntity_ok`: the entity that stage 6 binds is the one held at the generation of the
  request, or it has nothing published yet.
* `checkPreconditions_ok`: the expected generation is the published one.
* `publish_committed`: the stages behind a committed result.
* `publish_other`: the other entities.
-/

namespace FabricCapability.Ports

open FabricCapability.Verified.KeyedList

/-! ## Finding what was written -/

theorem findEntity_id {registry : Registry} {id : EntityId} {entity : EntityState}
    (h : registry.findEntity id = some entity) : entity.id = id :=
  lookup_key h

theorem findEntity_setEntity_self (registry : Registry) (entity : EntityState) :
    (registry.setEntity entity).findEntity entity.id = some entity :=
  lookup_upsert_self

theorem findEntity_setEntity_ne (registry : Registry) {entity : EntityState} {id : EntityId}
    (h : entity.id ≠ id) :
    (registry.setEntity entity).findEntity id = registry.findEntity id :=
  lookup_upsert_ne h

/-- A record that is written back under its identifier is found again. -/
theorem findEntity_setEntity {registry : Registry} {entity : EntityState} {id : EntityId}
    (h : entity.id = id) : (registry.setEntity entity).findEntity id = some entity :=
  h ▸ findEntity_setEntity_self registry entity

/-! ## Stage 6 -/

/-- The entity is bound to the generation, with nothing published yet. -/
structure Unpublished (entity : EntityState) : Prop where
  hasSet : entity.hasSet = false
  setGeneration : entity.setGeneration = 0
  set : entity.set = none
  capabilities : entity.capabilities = []
  floors : entity.sourceHighWater = []

/-- The outcomes of `bindGeneration` that are no refusal. -/
theorem bindGeneration_ok {registry bound : Registry} {request : PublicationRequest}
    {entity held : EntityState} (hId : held.id = request.entity)
    (h : bindGeneration registry request held = (bound, .ok entity)) :
    entity.id = request.entity ∧ entity.currentGeneration = request.entityGeneration ∧
      ((bound = registry ∧ entity = held) ∨
        (held.currentGeneration < request.entityGeneration ∧ Unpublished entity ∧
          entity.boundGeneration = entity.currentGeneration ∧
          bound.findEntity request.entity = some entity)) := by
  unfold bindGeneration at h
  split at h
  · cases h
  · rename_i hNotBelow
    split at h
    · rename_i hAbove
      dsimp only at h
      split at h
      · cases h
      · cases h
        exact ⟨hId, rfl, .inr ⟨hAbove, ⟨rfl, rfl, rfl, rfl, rfl⟩, rfl,
          findEntity_setEntity hId⟩⟩
    · rename_i hNotAbove
      cases h
      exact ⟨hId, UInt64.le_antisymm (UInt64.not_lt.1 hNotBelow) (UInt64.not_lt.1 hNotAbove),
        .inl ⟨rfl, rfl⟩⟩

/-- The outcomes of stage 6 that are no refusal: the entity was held at the generation of
the request, or it is bound to it with nothing published yet. -/
theorem bindEntity_ok {registry bound : Registry} {request : PublicationRequest}
    {entity : EntityState} (h : bindEntity registry request = (bound, .ok entity)) :
    entity.id = request.entity ∧ entity.currentGeneration = request.entityGeneration ∧
      bound.findEntity request.entity = some entity ∧
      ((bound = registry ∧ registry.findEntity request.entity = some entity) ∨
        (Unpublished entity ∧ entity.boundGeneration = entity.currentGeneration ∧
          ∀ held, registry.findEntity request.entity = some held →
            held.currentGeneration < request.entityGeneration)) := by
  unfold bindEntity at h
  split at h
  · rename_i held hFound
    obtain ⟨hId, hGeneration, ⟨rfl, rfl⟩ | ⟨hAbove, hFresh, hBound, hWritten⟩⟩ :=
      bindGeneration_ok (findEntity_id hFound) h
    · exact ⟨hId, hGeneration, hFound, .inl ⟨rfl, hFound⟩⟩
    · refine ⟨hId, hGeneration, hWritten, .inr ⟨hFresh, hBound, fun other hOther => ?_⟩⟩
      rw [hFound, Option.some.injEq] at hOther
      exact hOther ▸ hAbove
  · rename_i hMissing
    split at h
    · cases h
    · dsimp only at h
      obtain ⟨hId, hGeneration, ⟨rfl, rfl⟩ | ⟨hAbove, -⟩⟩ := bindGeneration_ok rfl h
      · refine ⟨hId, hGeneration, ?_, .inr ⟨⟨rfl, rfl, rfl, rfl, rfl⟩, rfl, ?_⟩⟩
        · unfold Registry.findEntity at hMissing ⊢
          rw [lookup_append_right hMissing]
          simp [lookup, newEntity]
        · intro held hHeld
          rw [hMissing] at hHeld
          cases hHeld
      · exact absurd hAbove (UInt64.lt_irrefl _)

theorem bindGeneration_at {registry : Registry} {request : PublicationRequest}
    {held later : EntityState} (hFound : registry.findEntity request.entity = some held)
    (h : (bindGeneration registry request held).1.findEntity request.entity = some later) :
    later = held ∨ (Unpublished later ∧ later.boundGeneration = later.currentGeneration ∧
      later.currentGeneration = request.entityGeneration) := by
  have hId : held.id = request.entity := findEntity_id hFound
  unfold bindGeneration at h
  split at h
  · exact .inl (Option.some.inj (h.symm.trans hFound))
  · split at h
    · right
      dsimp only at h
      split at h
      · rw [findEntity_setEntity (by exact hId), Option.some.injEq] at h
        rw [← h]
        exact ⟨⟨rfl, rfl, rfl, rfl, rfl⟩, rfl, rfl⟩
      · rw [findEntity_setEntity (by exact hId), Option.some.injEq] at h
        rw [← h]
        exact ⟨⟨rfl, rfl, rfl, rfl, rfl⟩, rfl, rfl⟩
    · exact .inl (Option.some.inj (h.symm.trans hFound))

/-- Whatever stage 6 answers, the entity of the request is the one that was held, or it has
nothing published. -/
theorem bindEntity_at {registry : Registry} {request : PublicationRequest}
    {later : EntityState}
    (h : (bindEntity registry request).1.findEntity request.entity = some later) :
    registry.findEntity request.entity = some later ∨
      (Unpublished later ∧ later.boundGeneration = later.currentGeneration ∧
        later.currentGeneration = request.entityGeneration) := by
  unfold bindEntity at h
  split at h
  · rename_i held hFound
    rcases bindGeneration_at hFound h with rfl | hFresh
    · exact .inl hFound
    · exact .inr hFresh
  · rename_i hMissing
    split at h
    · exact .inl h
    · right
      have hFound : ({ registry with entities := registry.entities ++ [newEntity
          registry.registryGeneration request.entity request.entityGeneration] } :
            Registry).findEntity request.entity = some (newEntity registry.registryGeneration
              request.entity request.entityGeneration) := by
        unfold Registry.findEntity at hMissing ⊢
        rw [lookup_append_right hMissing]
        simp [lookup, newEntity]
      rcases bindGeneration_at hFound h with rfl | hFresh
      · exact ⟨⟨rfl, rfl, rfl, rfl, rfl⟩, rfl, rfl⟩
      · exact hFresh

/-! ## Stages 8 and 9 -/

/-- The set generation that a publication has to expect: zero when no set was published. -/
def EntityState.publishedGeneration (entity : EntityState) : CapabilitySetGeneration :=
  if entity.hasSet then entity.setGeneration else 0

/-- The floor of a publishing identity; zero when it has none. -/
def EntityState.floorOf (entity : EntityState) (key : SourceKey) : SourceGeneration :=
  (entity.sourceFloor key).getD 0

theorem checkPreconditions_floor {entity : EntityState} {request : PublicationRequest}
    (h : checkPreconditions entity request = .ok ()) :
    entity.floorOf request.sourceKey ≤ request.authority.sourceGeneration := by
  unfold checkPreconditions at h
  dsimp only at h
  split at h
  · cases h
  · rename_i hNotBelow
    exact UInt64.not_lt.1 hNotBelow

theorem checkPreconditions_ok {entity : EntityState} {request : PublicationRequest}
    (h : checkPreconditions entity request = .ok ()) :
    request.expectedSetGeneration = entity.publishedGeneration := by
  unfold checkPreconditions at h
  dsimp only at h
  unfold EntityState.publishedGeneration
  split at h
  · cases h
  · split at h
    · rename_i hSet
      rw [if_pos hSet]
      split at h
      · cases h
      · rename_i hNotBelow
        split at h
        · cases h
        · rename_i hNotAbove
          exact UInt64.le_antisymm (UInt64.not_lt.1 hNotAbove) (UInt64.not_lt.1 hNotBelow)
    · rename_i hSet
      rw [if_neg hSet]
      split at h
      · cases h
      · rename_i hZero
        exact Decidable.not_not.1 hZero

/-! ## Stage 11 -/

/-- A successful `advanceGenerations`: both generations advance, or neither does. -/
theorem advanceGenerations_ok {registry advanced : Registry} {entity next : EntityState}
    {changed : Bool} (h : advanceGenerations registry entity changed = (advanced, .ok next)) :
    advanced = { registry with registryGeneration := advanced.registryGeneration } ∧
      next = { entity with setGeneration := next.setGeneration } ∧
      next.setGeneration.toNat =
        entity.setGeneration.toNat + (if changed then 1 else 0) ∧
      advanced.registryGeneration.toNat =
        registry.registryGeneration.toNat + (if changed then 1 else 0) := by
  unfold advanceGenerations at h
  split at h
  · rename_i hChanged
    rw [if_pos hChanged]
    split at h
    · cases h
    · rename_i setNext hSet
      dsimp only at h
      split at h
      · cases h
      · rename_i registryNext hRegistry
        cases h
        exact ⟨rfl, rfl, toNat_of_counterNext hSet, toNat_of_counterNext hRegistry⟩
  · rename_i hChanged
    cases h
    rw [if_neg hChanged]
    exact ⟨rfl, rfl, rfl, rfl⟩

/-- The entity that a successful commit writes. -/
def committedEntity (registryGeneration : RegistryGeneration) (entity : EntityState)
    (request : PublicationRequest) : EntityState :=
  (publishedEntity registryGeneration entity).raiseFloor request

section CommittedEntity

variable (registryGeneration : RegistryGeneration) (entity : EntityState)
  (request : PublicationRequest)

@[simp] theorem committedEntity_id :
    (committedEntity registryGeneration entity request).id = entity.id := rfl

@[simp] theorem committedEntity_currentGeneration :
    (committedEntity registryGeneration entity request).currentGeneration =
      entity.currentGeneration := rfl

@[simp] theorem committedEntity_boundGeneration :
    (committedEntity registryGeneration entity request).boundGeneration =
      entity.currentGeneration := rfl

@[simp] theorem committedEntity_hasSet :
    (committedEntity registryGeneration entity request).hasSet = true := rfl

@[simp] theorem committedEntity_setGeneration :
    (committedEntity registryGeneration entity request).setGeneration =
      entity.setGeneration := rfl

@[simp] theorem committedEntity_capabilities :
    (committedEntity registryGeneration entity request).capabilities =
      entity.capabilities := rfl

/-- The published set carries the digest of the resolutions of the entity. -/
theorem committedEntity_digest :
    (committedEntity registryGeneration entity request).set.map EntityCapabilitySet.digest =
      some (digestOfResolutions entity.resolutions) := by
  unfold committedEntity EntityState.raiseFloor publishedEntity
  simp only [Option.map_some, materialize]
  rfl

end CommittedEntity

/-- A commit that succeeds: the generations advance when the digest of the published set
changes, and the entity is written back with that set. -/
theorem commit_ok {registry committed : Registry} {request : PublicationRequest}
    {before : Option EntityCapabilitySet} {entity : EntityState} {steps : List ApplyStep}
    {contentDigest : Bytes} {result : PublicationResult}
    (h : commit registry request before entity steps contentDigest =
      (committed, .ok result)) :
    ∃ advanced next,
      advanceGenerations registry entity (semanticChange before entity) =
        (advanced, .ok next) ∧
      result = committedResult advanced request before
        (publishedEntity advanced.registryGeneration next) steps
        (semanticChange before entity) ∧
      committed =
        ((advanced.registerReplay request.publisherKey
            { attempt := request.attempt, publication := request.publication,
              contentDigest }).setEntity
          (committedEntity advanced.registryGeneration next request)).recordJournal
            (journalEntry result) := by
  unfold commit at h
  dsimp only at h
  split at h
  · cases h
  · rename_i advanced next hAdvance
    cases h
    exact ⟨advanced, next, hAdvance, rfl, rfl⟩

/-- A failed `advanceGenerations`: there was a change, and one of the counters is
exhausted. -/
theorem advanceGenerations_failed {registry failed : Registry} {entity : EntityState}
    {changed : Bool} {e : Error}
    (h : advanceGenerations registry entity changed = (failed, .error e)) :
    changed = true ∧ ((counterNext entity.setGeneration).isOk &&
      (counterNext registry.registryGeneration).isOk) = false := by
  unfold advanceGenerations at h
  split at h
  · rename_i hChanged
    refine ⟨hChanged, ?_⟩
    split at h
    · rename_i hSet
      rw [hSet]
      rfl
    · rename_i hSet
      dsimp only at h
      split at h
      · rename_i hRegistry
        rw [hSet, hRegistry]
        rfl
      · cases h
  · cases h

/-- A commit fails where its counters do. -/
theorem commit_error {registry failed : Registry} {request : PublicationRequest}
    {before : Option EntityCapabilitySet} {entity : EntityState} {steps : List ApplyStep}
    {contentDigest : Bytes} {e : Error}
    (h : commit registry request before entity steps contentDigest = (failed, .error e)) :
    advanceGenerations registry entity (semanticChange before entity) = (failed, .error e) := by
  unfold commit at h
  dsimp only at h
  split at h
  · rename_i hEq
    cases h
    exact hEq
  · cases h

theorem commit_failed {registry failed : Registry} {request : PublicationRequest}
    {before : Option EntityCapabilitySet} {entity : EntityState} {steps : List ApplyStep}
    {contentDigest : Bytes} {e : Error}
    (h : commit registry request before entity steps contentDigest = (failed, .error e)) :
    semanticChange before entity = true ∧ ((counterNext entity.setGeneration).isOk &&
      (counterNext registry.registryGeneration).isOk) = false :=
  advanceGenerations_failed (commit_error h)

/-- What an advance that fails leaves of the entity. -/
theorem commit_failed_entity {registry after : Registry} {request : PublicationRequest}
    {before : Option EntityCapabilitySet} {entity later : EntityState} {steps : List ApplyStep}
    {contentDigest : Bytes} {e : Error}
    (hFound : registry.findEntity entity.id = some entity)
    (h : commit registry request before entity steps contentDigest = (after, .error e))
    (hLater : after.findEntity entity.id = some later) :
    later = { entity with setGeneration := later.setGeneration } := by
  unfold commit at h
  dsimp only at h
  split at h
  · rename_i failed e' hEq
    cases h
    unfold advanceGenerations at hEq
    split at hEq
    · split at hEq
      · cases hEq
        rw [hFound, Option.some.injEq] at hLater
        rw [← hLater]
      · dsimp only at hEq
        split at hEq
        · cases hEq
          rw [findEntity_setEntity (by rfl), Option.some.injEq] at hLater
          rw [← hLater]
        · cases hEq
    · cases hEq
  · cases h

/-- The digest of a semantic change is not the one published before. -/
theorem semanticChange_eq {before : Option EntityCapabilitySet} {entity : EntityState} :
    semanticChange before entity = true ↔
      before.map EntityCapabilitySet.digest ≠ some (digestOfResolutions entity.resolutions) := by
  unfold semanticChange
  cases before with
  | none => simp
  | some set => simp [bne_iff_ne]

/-! ## Stage 10 -/

/-- The entity that stage 10 hands on is found in the registry that it leaves. -/
theorem applyRequest_found {registry applied : Registry} {request : PublicationRequest}
    {entity published : EntityState} {steps : List ApplyStep}
    (h : applyRequest registry request entity steps = (applied, .ok published)) :
    applied.findEntity published.id = some published := by
  obtain ⟨-, rfl, rfl⟩ := applyRequest_entity h
  exact findEntity_setEntity rfl

/-- What stage 10 leaves of the entity when it fails. -/
theorem applyRequest_failed_entity {registry applied : Registry} {request : PublicationRequest}
    {entity later : EntityState} {steps : List ApplyStep} {e : Error}
    (hId : entity.id = request.entity)
    (h : applyRequest registry request entity steps = (applied, .error e))
    (hLater : applied.findEntity request.entity = some later) :
    (runSteps registry request (registry.cell entity) steps).2.isOk = false ∧
      later = (runSteps registry request (registry.cell entity) steps).1.entity := by
  have hSame : SameEntity entity (runSteps registry request (registry.cell entity)
      steps).1.entity := runSteps_entity registry request steps (registry.cell entity)
  unfold applyRequest at h
  obtain ⟨rfl, hOut⟩ := Prod.ext_iff.1 h
  have hFound := @findEntity_setEntity
    { registry with
      indexes := (runSteps registry request (registry.cell entity) steps).1.indexes
      arrivalSequence :=
        (runSteps registry request (registry.cell entity) steps).1.arrivalSequence }
    (runSteps registry request (registry.cell entity) steps).1.entity request.entity
    (hSame.id_eq.trans hId)
  refine ⟨?_, Option.some.inj (hLater.symm.trans hFound)⟩
  cases hRun : (runSteps registry request (registry.cell entity) steps).2 with
  | error e => rfl
  | ok u => simp [hRun, Except.map] at hOut

theorem applyRequest_isOk (registry : Registry) (request : PublicationRequest)
    (entity : EntityState) (steps : List ApplyStep) :
    (applyRequest registry request entity steps).2.isOk =
      (runSteps registry request (registry.cell entity) steps).2.isOk := by
  unfold applyRequest
  dsimp only
  cases (runSteps registry request (registry.cell entity) steps).2 <;> rfl

/-! ## A committed publication -/

/-- The stages behind a committed result. -/
structure Committed (registry : Registry) (request : PublicationRequest)
    (after : Registry) (result : PublicationResult) where
  runtime : PublisherRuntime
  grant : AuthorityGrant
  bound : Registry
  entity : EntityState
  applied : Registry
  published : EntityState
  valid : validateRequest registry request = .ok (runtime, grant)
  binds : bindEntity registry request = (bound, .ok entity)
  fresh : classifyAttempt runtime request (requestContentDigest request grant).toText = .ok none
  checked : checkPreconditions entity request = .ok ()
  applies : applyRequest bound request entity (applySteps bound.schema grant request) =
    (applied, .ok published)
  commits : commit applied request entity.set published
    (applySteps bound.schema grant request) (requestContentDigest request grant).toText =
      (after, .ok result)

namespace Committed

variable {registry after : Registry} {request : PublicationRequest} {result : PublicationResult}

/-- The entity as it was applied is the bound one, up to its capabilities. -/
theorem published_same (c : Committed registry request after result) :
    SameEntity c.entity c.published :=
  (applyRequest_entity c.applies).1

/-- The entity that a committed publication leaves: what was applied, published with its
next set generation when the digest changed. -/
theorem entity_after (c : Committed registry request after result) :
    ∃ registryGeneration next,
      after.findEntity request.entity = some (committedEntity registryGeneration next request) ∧
      next = { c.published with setGeneration := next.setGeneration } ∧
      next.currentGeneration = request.entityGeneration ∧
      next.setGeneration.toNat = c.entity.setGeneration.toNat +
        (if semanticChange c.entity.set c.published then 1 else 0) := by
  obtain ⟨hId, hGeneration, -⟩ := bindEntity_ok c.binds
  have hSame := c.published_same
  obtain ⟨advanced, next, hAdvance, -, hAfter⟩ := commit_ok c.commits
  obtain ⟨-, hNext, hSet, -⟩ := advanceGenerations_ok hAdvance
  have hNextId : next.id = request.entity := by
    rw [hNext]
    exact hSame.id_eq.trans hId
  refine ⟨advanced.registryGeneration, next, ?_, hNext, ?_, ?_⟩
  · rw [hAfter]
    exact findEntity_setEntity hNextId
  · rw [hNext]
    exact hSame.currentGeneration_eq.trans hGeneration
  · rw [hSet, hSame.setGeneration_eq]

/-- A publication for a generation that is not behind the entity is bound to what is held. -/
theorem entity_before (c : Committed registry request after result) {held : EntityState}
    (hFound : registry.findEntity request.entity = some held)
    (hNotBelow : request.entityGeneration ≤ held.currentGeneration) : c.entity = held := by
  obtain ⟨-, -, -, ⟨-, hBound⟩ | ⟨-, -, hBelow⟩⟩ := bindEntity_ok c.binds
  · rw [hFound, Option.some.injEq] at hBound
    exact hBound.symm
  · exact absurd (hBelow held hFound) (UInt64.not_lt.2 hNotBelow)

end Committed

theorem reject_status (registry : Registry) (request : PublicationRequest) (e : Error)
    {result : PublicationResult} (h : (reject registry request e).2 = .ok result) :
    result.status = .rejected := by
  unfold reject at h
  cases h
  rfl

/-- A rejection writes to the journal only. -/
theorem reject_registry (registry : Registry) (request : PublicationRequest) (e : Error) :
    (reject registry request e).1 =
      { registry with journal := (reject registry request e).1.journal } := by
  unfold reject
  dsimp only
  split <;> rfl

/-- A commit that succeeds answers that it did. -/
theorem commit_status {registry committed : Registry} {request : PublicationRequest}
    {before : Option EntityCapabilitySet} {entity : EntityState} {steps : List ApplyStep}
    {contentDigest : Bytes} {result : PublicationResult}
    (h : commit registry request before entity steps contentDigest =
      (committed, .ok result)) : result.status = .committed := by
  obtain ⟨advanced, next, -, hResult, -⟩ := commit_ok h
  rw [hResult]
  rfl

/-! ## The exits of a publication -/

/-- Where `Publish` returns, with the registry and the outcome. -/
inductive PublishExit (registry : Registry) (request : PublicationRequest) :
    Registry → Outcome PublicationResult → Prop
  | invalid {e : Error} (invalid : validateRequest registry request = .error e) :
      PublishExit registry request (reject registry request e).1 (reject registry request e).2
  | refused {runtime : PublisherRuntime} {grant : AuthorityGrant} {bound : Registry}
      {e : Error} (valid : validateRequest registry request = .ok (runtime, grant))
      (refuses : bindEntity registry request = (bound, .error (.rejected e))) :
      PublishExit registry request (reject bound request e).1 (reject bound request e).2
  | failed {runtime : PublisherRuntime} {grant : AuthorityGrant} {bound : Registry} {e : Error}
      (valid : validateRequest registry request = .ok (runtime, grant))
      (fails : bindEntity registry request = (bound, .error (.failed e))) :
      PublishExit registry request bound (.error e)
  | conflicting {runtime : PublisherRuntime} {grant : AuthorityGrant} {bound : Registry}
      {entity : EntityState} {e : Error}
      (valid : validateRequest registry request = .ok (runtime, grant))
      (binds : bindEntity registry request = (bound, .ok entity))
      (conflicts : classifyAttempt runtime request
        (requestContentDigest request grant).toText = .error e) :
      PublishExit registry request (reject bound request e).1 (reject bound request e).2
  | replayed {runtime : PublisherRuntime} {grant : AuthorityGrant} {bound : Registry}
      {entity : EntityState} {latest : ReplayRecord}
      (valid : validateRequest registry request = .ok (runtime, grant))
      (binds : bindEntity registry request = (bound, .ok entity))
      (replays : classifyAttempt runtime request
        (requestContentDigest request grant).toText = .ok (some latest)) :
      PublishExit registry request
        (bound.recordJournal (journalEntry (replayResult bound request entity latest
          (requestContentDigest request grant).toText)))
        (.ok (replayResult bound request entity latest
          (requestContentDigest request grant).toText))
  | unmet {runtime : PublisherRuntime} {grant : AuthorityGrant} {bound : Registry}
      {entity : EntityState} {e : Error}
      (valid : validateRequest registry request = .ok (runtime, grant))
      (binds : bindEntity registry request = (bound, .ok entity))
      (unmet : checkPreconditions entity request = .error e) :
      PublishExit registry request (reject bound request e).1 (reject bound request e).2
  | unapplied {runtime : PublisherRuntime} {grant : AuthorityGrant} {bound : Registry}
      {entity : EntityState} {applied : Registry} {e : Error}
      (valid : validateRequest registry request = .ok (runtime, grant))
      (binds : bindEntity registry request = (bound, .ok entity))
      (checked : checkPreconditions entity request = .ok ())
      (fails : applyRequest bound request entity (applySteps bound.schema grant request) =
        (applied, .error e)) :
      PublishExit registry request (reject applied request e).1 (reject applied request e).2
  | uncommitted {runtime : PublisherRuntime} {grant : AuthorityGrant} {bound : Registry}
      {entity : EntityState} {applied : Registry} {published : EntityState} {after : Registry}
      {e : Error} (valid : validateRequest registry request = .ok (runtime, grant))
      (binds : bindEntity registry request = (bound, .ok entity))
      (checked : checkPreconditions entity request = .ok ())
      (applies : applyRequest bound request entity (applySteps bound.schema grant request) =
        (applied, .ok published))
      (fails : commit applied request entity.set published
        (applySteps bound.schema grant request) (requestContentDigest request grant).toText =
          (after, .error e)) :
      PublishExit registry request after (.error e)
  | committed {after : Registry} {result : PublicationResult}
      (stages : Committed registry request after result) :
      PublishExit registry request after (.ok result)

theorem publish_exit (registry : Registry) (request : PublicationRequest) :
    PublishExit registry request (publish registry request).1 (publish registry request).2 := by
  unfold publish
  split
  · rename_i e hInvalid
    exact .invalid hInvalid
  · rename_i runtime grant hValid
    split
    · rename_i bound e hRefused
      exact .refused hValid hRefused
    · rename_i bound e hFailed
      exact .failed hValid hFailed
    · rename_i bound entity hBind
      unfold publishBound
      dsimp only
      split
      · rename_i e hConflict
        exact .conflicting hValid hBind hConflict
      · rename_i latest hReplay
        exact .replayed hValid hBind hReplay
      · rename_i hFresh
        split
        · rename_i e hUnmet
          exact .unmet hValid hBind hUnmet
        · rename_i hChecked
          split
          · rename_i applied e hApply
            exact .unapplied hValid hBind hChecked hApply
          · rename_i applied published hApply
            generalize hCommit : commit applied request entity.set published
              (applySteps bound.schema grant request)
              (requestContentDigest request grant).toText = ran
            obtain ⟨after, outcome⟩ := ran
            cases outcome with
            | error e => exact .uncommitted hValid hBind hChecked hApply hCommit
            | ok result =>
                exact .committed ⟨runtime, grant, bound, entity, applied, published, hValid,
                  hBind, hFresh, hChecked, hApply, hCommit⟩

theorem publish_committed {registry after : Registry} {request : PublicationRequest}
    {result : PublicationResult} (h : publish registry request = (after, .ok result))
    (hStatus : result.status = .committed) :
    Nonempty (Committed registry request after result) := by
  have hExit := publish_exit registry request
  rw [h] at hExit
  have hNotRejected : ∀ registry e, (reject registry request e).2 ≠ .ok result := by
    intro registry e hEq
    have hRejected := reject_status registry request e hEq
    rw [hStatus] at hRejected
    cases hRejected
  generalize hOutcome : (Except.ok result : Outcome PublicationResult) = outcome at hExit
  cases hExit with
  | invalid => exact absurd hOutcome.symm (hNotRejected _ _)
  | refused => exact absurd hOutcome.symm (hNotRejected _ _)
  | conflicting => exact absurd hOutcome.symm (hNotRejected _ _)
  | unmet => exact absurd hOutcome.symm (hNotRejected _ _)
  | unapplied => exact absurd hOutcome.symm (hNotRejected _ _)
  | failed => cases hOutcome
  | uncommitted => cases hOutcome
  | replayed =>
      cases hOutcome
      cases hStatus
  | committed stages =>
      cases hOutcome
      exact ⟨stages⟩

/-! ## Admission to stage 10 -/

/-- What stages 1 to 9 hand on to stage 10 when none of them answers: the grant, the
registry and the entity. -/
def admitted (registry : Registry) (request : PublicationRequest) :
    Option (AuthorityGrant × Registry × EntityState) :=
  match validateRequest registry request with
  | .error _ => none
  | .ok (runtime, grant) =>
      match bindEntity registry request with
      | (_, .error _) => none
      | (bound, .ok entity) =>
          match classifyAttempt runtime request (requestContentDigest request grant).toText,
            checkPreconditions entity request with
          | .ok none, .ok () => some (grant, bound, entity)
          | _, _ => none

theorem admitted_some {registry bound : Registry} {request : PublicationRequest}
    {grant : AuthorityGrant} {entity : EntityState}
    (h : admitted registry request = some (grant, bound, entity)) :
    ∃ runtime, validateRequest registry request = .ok (runtime, grant) ∧
      bindEntity registry request = (bound, .ok entity) ∧
      classifyAttempt runtime request (requestContentDigest request grant).toText = .ok none ∧
      checkPreconditions entity request = .ok () := by
  unfold admitted at h
  split at h
  · cases h
  · rename_i runtime _ hValid
    split at h
    · cases h
    · rename_i _ _ hBind
      split at h
      · rename_i hFresh hChecked
        cases h
        exact ⟨runtime, hValid, hBind, hFresh, hChecked⟩
      · cases h

/-- A publication that is admitted is applied and committed. -/
theorem publish_admitted {registry bound : Registry} {request : PublicationRequest}
    {grant : AuthorityGrant} {entity : EntityState}
    (h : admitted registry request = some (grant, bound, entity)) :
    publish registry request =
      match applyRequest bound request entity (applySteps bound.schema grant request) with
      | (applied, .error e) => reject applied request e
      | (applied, .ok published) =>
          commit applied request entity.set published (applySteps bound.schema grant request)
            (requestContentDigest request grant).toText := by
  obtain ⟨runtime, hValid, hBind, hFresh, hChecked⟩ := admitted_some h
  unfold publish
  simp only [hValid, hBind]
  unfold publishBound
  dsimp only
  rw [hFresh]
  dsimp only
  rewrite [hChecked]
  rfl

/-- A publication that is not admitted leaves what it found, or what stage 6 made of it. -/
theorem publish_unadmitted {registry : Registry} {request : PublicationRequest}
    (h : admitted registry request = none) :
    ∃ journal, (publish registry request).1 = { registry with journal } ∨
      ((∃ valid, validateRequest registry request = .ok valid) ∧
        (publish registry request).1 = { (bindEntity registry request).1 with journal }) := by
  unfold admitted at h
  unfold publish
  split
  · exact ⟨_, .inl (reject_registry _ _ _)⟩
  · rename_i runtime grant hValid
    have hPassed : ∃ valid, validateRequest registry request = .ok valid := ⟨_, hValid⟩
    rw [hValid] at h
    dsimp only at h
    split
    · rename_i bound e hRefused
      rw [hRefused]
      exact ⟨_, .inr ⟨hPassed, reject_registry _ _ _⟩⟩
    · rename_i bound e hFailed
      rw [hFailed]
      exact ⟨_, .inr ⟨hPassed, rfl⟩⟩
    · rename_i bound entity hBind
      rw [hBind] at h ⊢
      dsimp only at h
      unfold publishBound
      dsimp only
      split
      · exact ⟨_, .inr ⟨hPassed, reject_registry _ _ _⟩⟩
      · exact ⟨_, .inr ⟨hPassed, rfl⟩⟩
      · rename_i hFresh
        split
        · exact ⟨_, .inr ⟨hPassed, reject_registry _ _ _⟩⟩
        · rename_i hChecked
          rw [hFresh, hChecked] at h
          cases h

/-! ## Other entities -/

theorem bindGeneration_other {registry : Registry} {request : PublicationRequest}
    {held : EntityState} {id : EntityId} (hId : held.id ≠ id) :
    (bindGeneration registry request held).1.findEntity id = registry.findEntity id := by
  unfold bindGeneration
  split
  · rfl
  · split
    · dsimp only
      split
      · exact findEntity_setEntity_ne _ hId
      · exact findEntity_setEntity_ne _ hId
    · rfl

theorem bindEntity_other {registry : Registry} {request : PublicationRequest} {id : EntityId}
    (hId : request.entity ≠ id) :
    (bindEntity registry request).1.findEntity id = registry.findEntity id := by
  unfold bindEntity
  split
  · rename_i held hFound
    exact bindGeneration_other (findEntity_id hFound ▸ hId)
  · split
    · rfl
    · dsimp only
      rw [bindGeneration_other (by exact hId)]
      unfold Registry.findEntity lookup
      rw [List.find?_append]
      simp [newEntity, hId]

theorem advanceGenerations_other (registry : Registry) {entity : EntityState} (changed : Bool)
    {id : EntityId} (hId : entity.id ≠ id) :
    (advanceGenerations registry entity changed).1.findEntity id = registry.findEntity id ∧
      ∀ next, (advanceGenerations registry entity changed).2 = .ok next → next.id = entity.id := by
  unfold advanceGenerations
  split
  · split
    · exact ⟨rfl, fun _ h => by cases h⟩
    · rename_i setNext hNext
      dsimp only
      split
      · exact ⟨@findEntity_setEntity_ne registry { entity with setGeneration := setNext } id hId,
          fun _ h => by cases h⟩
      · exact ⟨rfl, fun _ h => by cases h; rfl⟩
  · exact ⟨rfl, fun _ h => by cases h; rfl⟩

theorem commit_other (registry : Registry) (request : PublicationRequest)
    (before : Option EntityCapabilitySet) {entity : EntityState} (steps : List ApplyStep)
    (contentDigest : Bytes) {id : EntityId} (hId : entity.id ≠ id) :
    (commit registry request before entity steps contentDigest).1.findEntity id =
      registry.findEntity id := by
  obtain ⟨hKept, hSameId⟩ :=
    advanceGenerations_other registry (semanticChange before entity) hId
  unfold commit
  dsimp only
  split
  · rename_i advanced e hEq
    rw [hEq] at hKept
    exact hKept
  · rename_i advanced next hEq
    rw [hEq] at hKept hSameId
    have hNextId : next.id = entity.id := hSameId next rfl
    have hWrittenId : (committedEntity advanced.registryGeneration next request).id ≠ id :=
      hNextId ▸ hId
    exact (findEntity_setEntity_ne (advanced.registerReplay request.publisherKey
      { attempt := request.attempt, publication := request.publication, contentDigest })
      hWrittenId).trans hKept

/-- A publication leaves the other entities alone. -/
theorem publish_other (registry : Registry) {request : PublicationRequest} {id : EntityId}
    (hId : request.entity ≠ id) :
    (publish registry request).1.findEntity id = registry.findEntity id := by
  refine publish_preserves (P := fun later => later.findEntity id = registry.findEntity id)
    (fun _ _ h => h) (fun _ _ _ => bindEntity_other hId) ?_ ?_ rfl
  · intro runtime grant bound entity hValid hBind hChecked h
    have hSame := runSteps_entity bound request (applySteps bound.schema grant request)
      (bound.cell entity)
    have hEntity : (runSteps bound request (bound.cell entity)
        (applySteps bound.schema grant request)).1.entity.id ≠ id := by
      rw [hSame.id_eq]
      exact (bindEntity_ok hBind).1 ▸ hId
    rw [← h]
    exact findEntity_setEntity_ne _ hEntity
  · intro runtime grant bound entity applied published hValid hBind hChecked hApply h
    have hEntity : published.id ≠ id := by
      rw [(applyRequest_entity hApply).1.id_eq]
      exact (bindEntity_ok hBind).1 ▸ hId
    rw [commit_other _ _ _ _ _ hEntity]
    exact h

end FabricCapability.Ports
