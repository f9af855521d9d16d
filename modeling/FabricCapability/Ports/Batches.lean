import FabricCapability.Ports.PublishSpec

/-!
# Batches of publications

A batch against publishing its requests one after another.  `publishInTurn` is a caller who
publishes each request whatever became of the ones before it.  The batch stops at the first
publication that returns a failure instead of a result, and the results before it are lost.
`HitsLimit` lists the three places where a publication does so.

## Main results

* `publish_fails_iff`: a publication fails exactly when it hits a limit.
* `batch_per_request_iff`: a batch answers each request exactly when no publication of the
  sequence hits a limit.
-/

namespace FabricCapability.Ports

/-! ## When a publication fails -/

/-- The limits that end `Publish` with a failure. -/
inductive HitsLimit (registry : Registry) (request : PublicationRequest) : Prop
  /-- A new entity is one too many. -/
  | newEntity {runtime : PublisherRuntime} {grant : AuthorityGrant}
      (valid : validateRequest registry request = .ok (runtime, grant))
      (unknown : registry.findEntity request.entity = none)
      (full : registry.options.maxEntities ≤ registry.entities.length)
  /-- The registry generation cannot count a later generation of the entity. -/
  | laterGeneration {runtime : PublisherRuntime} {grant : AuthorityGrant} {entity : EntityState}
      (valid : validateRequest registry request = .ok (runtime, grant))
      (found : registry.findEntity request.entity = some entity)
      (later : entity.currentGeneration < request.entityGeneration)
      (exhausted : registry.registryGeneration = 0xFFFFFFFFFFFFFFFF)
  /-- One of the counters cannot count a changed set. -/
  | changedSet {runtime : PublisherRuntime} {grant : AuthorityGrant} {bound applied : Registry}
      {entity published : EntityState}
      (valid : validateRequest registry request = .ok (runtime, grant))
      (binds : bindEntity registry request = (bound, .ok entity))
      (fresh : classifyAttempt runtime request
        (requestContentDigest request grant).toText = .ok none)
      (checked : checkPreconditions entity request = .ok ())
      (applies : applyRequest bound request entity (applySteps bound.schema grant request) =
        (applied, .ok published))
      (changed : semanticChange entity.set published = true)
      (exhausted : entity.setGeneration = 0xFFFFFFFFFFFFFFFF ∨
        bound.registryGeneration = 0xFFFFFFFFFFFFFFFF)

theorem counterNext_fails_iff {counter : UInt64} :
    (∃ e, counterNext counter = .error e) ↔ counter = 0xFFFFFFFFFFFFFFFF := by
  constructor
  · rintro ⟨e, h⟩
    by_contra hNe
    rw [counterNext_eq_ok hNe] at h
    cases h
  · rintro rfl
    exact ⟨_, rfl⟩

/-- The second half of stage 6 fails where it would have to advance the registry
generation. -/
theorem bindGeneration_fails_iff {registry : Registry} {request : PublicationRequest}
    {entity : EntityState} :
    (∃ e, (bindGeneration registry request entity).2 = .error (.failed e)) ↔
      entity.currentGeneration < request.entityGeneration ∧
        registry.registryGeneration = 0xFFFFFFFFFFFFFFFF := by
  unfold bindGeneration
  by_cases hStale : request.entityGeneration < entity.currentGeneration
  · rw [if_pos hStale]
    constructor
    · rintro ⟨e, h⟩
      cases h
    · rintro ⟨hLater, -⟩
      exact absurd hLater (UInt64.lt_asymm hStale)
  · rw [if_neg hStale]
    by_cases hLater : request.entityGeneration > entity.currentGeneration
    · rw [if_pos hLater]
      dsimp only
      split
      · rename_i e hNext
        have hMax := counterNext_fails_iff.1 ⟨e, hNext⟩
        exact ⟨fun _ => ⟨hLater, hMax⟩, fun _ => ⟨_, rfl⟩⟩
      · rename_i next hNext
        constructor
        · rintro ⟨e, h⟩
          cases h
        · rintro ⟨-, hMax⟩
          obtain ⟨e, hError⟩ := counterNext_fails_iff.2 hMax
          rw [hNext] at hError
          cases hError
    · rw [if_neg hLater]
      constructor
      · rintro ⟨e, h⟩
        cases h
      · rintro ⟨h, -⟩
        exact absurd h hLater

theorem advanceGenerations_fails_iff {registry : Registry} {entity : EntityState}
    {changed : Bool} :
    (∃ e, (advanceGenerations registry entity changed).2 = .error e) ↔
      changed = true ∧ (entity.setGeneration = 0xFFFFFFFFFFFFFFFF ∨
        registry.registryGeneration = 0xFFFFFFFFFFFFFFFF) := by
  unfold advanceGenerations
  cases changed with
  | false =>
      rw [if_neg (by decide)]
      constructor
      · rintro ⟨e, h⟩
        cases h
      · rintro ⟨h, -⟩
        cases h
  | true =>
      rw [if_pos rfl]
      by_cases hSet : entity.setGeneration = 0xFFFFFFFFFFFFFFFF
      · obtain ⟨e, hError⟩ := counterNext_fails_iff.2 hSet
        rw [hError]
        exact ⟨fun _ => ⟨rfl, .inl hSet⟩, fun _ => ⟨_, rfl⟩⟩
      · rw [counterNext_eq_ok hSet]
        dsimp only
        by_cases hMax : registry.registryGeneration = 0xFFFFFFFFFFFFFFFF
        · obtain ⟨e, hError⟩ := counterNext_fails_iff.2 hMax
          rw [hError]
          exact ⟨fun _ => ⟨rfl, .inr hMax⟩, fun _ => ⟨_, rfl⟩⟩
        · rw [counterNext_eq_ok hMax]
          constructor
          · rintro ⟨e, h⟩
            cases h
          · rintro ⟨-, h | h⟩
            · exact absurd h hSet
            · exact absurd h hMax

theorem commit_fails_iff {registry : Registry} {request : PublicationRequest}
    {before : Option EntityCapabilitySet} {entity : EntityState} {steps : List ApplyStep}
    {contentDigest : Bytes} :
    (∃ e, (commit registry request before entity steps contentDigest).2 = .error e) ↔
      semanticChange before entity = true ∧ (entity.setGeneration = 0xFFFFFFFFFFFFFFFF ∨
        registry.registryGeneration = 0xFFFFFFFFFFFFFFFF) := by
  rw [← advanceGenerations_fails_iff]
  unfold commit
  dsimp only
  split
  · rename_i failed e hFails
    rw [hFails]
    exact ⟨fun _ => ⟨e, rfl⟩, fun _ => ⟨e, rfl⟩⟩
  · rename_i advanced next hAdvance
    rw [hAdvance]
    constructor
    · rintro ⟨e, h⟩
      cases h
    · rintro ⟨e, h⟩
      cases h

/-- The steps of a publication touch neither counter. -/
theorem applyRequest_counters {registry applied : Registry} {request : PublicationRequest}
    {entity published : EntityState} {steps : List ApplyStep}
    (h : applyRequest registry request entity steps = (applied, .ok published)) :
    published.setGeneration = entity.setGeneration ∧
      applied.registryGeneration = registry.registryGeneration := by
  obtain ⟨hSame, hApplied, -⟩ := applyRequest_entity h
  refine ⟨hSame.setGeneration_eq, ?_⟩
  rw [hApplied]
  rfl

theorem bindEntity_fails_iff {registry : Registry} {request : PublicationRequest} :
    (∃ e, (bindEntity registry request).2 = .error (.failed e)) ↔
      (registry.findEntity request.entity = none ∧
        registry.options.maxEntities ≤ registry.entities.length) ∨
      ∃ entity, registry.findEntity request.entity = some entity ∧
        entity.currentGeneration < request.entityGeneration ∧
        registry.registryGeneration = 0xFFFFFFFFFFFFFFFF := by
  unfold bindEntity
  split
  · rename_i entity hFound
    rw [bindGeneration_fails_iff]
    constructor
    · intro h
      exact .inr ⟨entity, hFound, h⟩
    · rintro (⟨hNone, -⟩ | ⟨held, hHeld, h⟩)
      · rw [hFound] at hNone
        cases hNone
      · rw [hFound, Option.some.injEq] at hHeld
        exact hHeld ▸ h
  · rename_i hUnknown
    constructor
    · intro h
      by_cases hFull : registry.entities.length ≥ registry.options.maxEntities
      · exact .inl ⟨hUnknown, hFull⟩
      · rw [if_neg hFull] at h
        have hLater := (bindGeneration_fails_iff.1 h).1
        exact absurd hLater (UInt64.lt_irrefl _)
    · rintro (⟨-, hFull⟩ | ⟨entity, hFound, -⟩)
      · rw [if_pos hFull]
        exact ⟨_, rfl⟩
      · rw [hUnknown] at hFound
        cases hFound

theorem reject_answers (registry : Registry) (request : PublicationRequest) (e e' : Error) :
    (reject registry request e).2 ≠ .error e' := by
  unfold reject
  intro h
  cases h

theorem publish_fails_iff (registry : Registry) (request : PublicationRequest) :
    (∃ e, (publish registry request).2 = .error e) ↔ HitsLimit registry request := by
  constructor
  · rintro ⟨e, h⟩
    unfold publish at h
    split at h
    · exact absurd h (reject_answers _ _ _ _)
    · rename_i runtime grant hValid
      split at h
      · exact absurd h (reject_answers _ _ _ _)
      · rename_i bound e' hFails
        rcases bindEntity_fails_iff.1 ⟨e', congrArg Prod.snd hFails⟩ with
          ⟨hUnknown, hFull⟩ | ⟨entity, hFound, hLater, hMax⟩
        · exact .newEntity hValid hUnknown hFull
        · exact .laterGeneration hValid hFound hLater hMax
      · rename_i bound entity hBinds
        unfold publishBound at h
        dsimp only at h
        split at h
        · exact absurd h (reject_answers _ _ _ _)
        · cases h
        · rename_i hFresh
          split at h
          · exact absurd h (reject_answers _ _ _ _)
          · rename_i hChecked
            split at h
            · exact absurd h (reject_answers _ _ _ _)
            · rename_i applied published hApplies
              obtain ⟨hChanged, hMax⟩ := commit_fails_iff.1 ⟨e, h⟩
              obtain ⟨hSet, hRegistry⟩ := applyRequest_counters hApplies
              rw [hSet, hRegistry] at hMax
              exact .changedSet hValid hBinds hFresh hChecked hApplies hChanged hMax
  · intro h
    unfold publish
    cases h with
    | newEntity hValid hUnknown hFull =>
        obtain ⟨e, hFails⟩ := bindEntity_fails_iff.2 (.inl ⟨hUnknown, hFull⟩)
        rw [hValid]
        dsimp only
        generalize bindEntity registry request = bound at hFails
        obtain ⟨bound, outcome⟩ := bound
        subst hFails
        exact ⟨e, rfl⟩
    | laterGeneration hValid hFound hLater hMax =>
        obtain ⟨e, hFails⟩ := bindEntity_fails_iff.2 (.inr ⟨_, hFound, hLater, hMax⟩)
        rw [hValid]
        dsimp only
        generalize bindEntity registry request = bound at hFails
        obtain ⟨bound, outcome⟩ := bound
        subst hFails
        exact ⟨e, rfl⟩
    | changedSet hValid hBinds hFresh hChecked hApplies hChanged hMax =>
        obtain ⟨hSet, hRegistry⟩ := applyRequest_counters hApplies
        rw [hValid, hBinds]
        dsimp only
        unfold publishBound
        dsimp only
        rw [hFresh, hChecked]
        dsimp only
        rw [hApplies]
        exact commit_fails_iff.2 ⟨hChanged, by rw [hSet, hRegistry]; exact hMax⟩

/-! ## Batches -/

/-- Publishing one request after the other. -/
def publishInTurn (registry : Registry) :
    List PublicationRequest → Registry × List (Outcome PublicationResult)
  | [] => (registry, [])
  | request :: requests =>
      let (registry, outcome) := publish registry request
      let (registry, outcomes) := publishInTurn registry requests
      (registry, outcome :: outcomes)

/-- A batch within the bound answers each request as if it had been published alone; a
larger batch fails and changes nothing. -/
structure BatchPerRequest (registry : Registry) (requests : List PublicationRequest) :
    Prop where
  answers : requests.length ≤ kMaxPublicationsPerBatch →
    ∃ results, publishBatch registry requests = ((publishInTurn registry requests).1, .ok results) ∧
      results.length = requests.length ∧
      results.map Except.ok = (publishInTurn registry requests).2
  refuses : kMaxPublicationsPerBatch < requests.length →
    ∃ e, publishBatch registry requests = (registry, .error e)

/-- No publication of the sequence hits a limit. -/
def Unhindered (registry : Registry) : List PublicationRequest → Prop
  | [] => True
  | request :: requests =>
      ¬HitsLimit registry request ∧ Unhindered (publish registry request).1 requests

/-- Without a failure, the loop of the batch is the sequence. -/
theorem publishEach_inTurn {registry : Registry} {requests : List PublicationRequest}
    (h : Unhindered registry requests) :
    ∃ results, publishEach registry requests = ((publishInTurn registry requests).1, .ok results) ∧
      results.length = requests.length ∧
      results.map Except.ok = (publishInTurn registry requests).2 := by
  induction requests generalizing registry with
  | nil => exact ⟨[], rfl, rfl, rfl⟩
  | cons request requests ih =>
      obtain ⟨hHere, hRest⟩ := h
      unfold publishEach publishInTurn
      rw [← publish_fails_iff] at hHere
      generalize publish registry request = ran at hHere hRest
      obtain ⟨after, outcome⟩ := ran
      cases outcome with
      | error e => exact absurd ⟨e, rfl⟩ hHere
      | ok result =>
          obtain ⟨results, hEach, hLength, hOutcomes⟩ := ih hRest
          refine ⟨result :: results, ?_, ?_, ?_⟩
          · dsimp only at hEach ⊢
            rw [hEach]
            rfl
          · rw [List.length_cons, List.length_cons, hLength]
          · show Except.ok result :: results.map Except.ok = _
            rw [hOutcomes]

/-- The first failure of the sequence is the failure of the loop. -/
theorem publishEach_fails {registry : Registry} {requests : List PublicationRequest}
    (h : ¬Unhindered registry requests) : ∃ e, (publishEach registry requests).2 = .error e := by
  induction requests generalizing registry with
  | nil => exact absurd trivial h
  | cons request requests ih =>
      unfold publishEach
      have hFails := publish_fails_iff registry request
      unfold Unhindered at h
      generalize publish registry request = ran at hFails h
      obtain ⟨after, outcome⟩ := ran
      cases outcome with
      | error e => exact ⟨e, rfl⟩
      | ok result =>
          have hRest : ¬Unhindered after requests := by
            intro hRest
            refine h ⟨fun hLimit => ?_, hRest⟩
            obtain ⟨e, hError⟩ := hFails.2 hLimit
            cases hError
          obtain ⟨e, hError⟩ := ih hRest
          refine ⟨e, ?_⟩
          dsimp only
          rw [hError]
          rfl

/-- A batch answers each of its requests exactly when no publication of the sequence hits a
limit. -/
theorem batch_per_request_iff (registry : Registry) (requests : List PublicationRequest) :
    BatchPerRequest registry requests ↔
      (requests.length ≤ kMaxPublicationsPerBatch → Unhindered registry requests) := by
  constructor
  · intro h hSize
    obtain ⟨results, hBatch, -⟩ := h.answers hSize
    by_contra hHindered
    obtain ⟨e, hFails⟩ := publishEach_fails hHindered
    unfold publishBatch at hBatch
    rw [if_neg (Nat.not_lt.2 hSize)] at hBatch
    rw [hBatch] at hFails
    cases hFails
  · intro h
    constructor
    · intro hSize
      unfold publishBatch
      rw [if_neg (Nat.not_lt.2 hSize)]
      exact publishEach_inTurn (h hSize)
    · intro hSize
      unfold publishBatch
      rw [if_pos hSize]
      exact ⟨_, rfl⟩

/-! ## A batch that loses a result -/

namespace Sample

def secondSwitch : EntityId := (EntityId.parse (txt "switch:leaf-2")).toOption.getD .unset

/-- One publication for each of two switches, in a registry that holds one entity. -/
def twoSwitches : List PublicationRequest :=
  [publication bootOne "attempt-1" 1 0 (claim .supported .processBound),
    { publication bootOne "attempt-2" 1 0 (claim .supported .processBound) with
      entity := secondSwitch }]

end Sample

/-- The second switch is one too many, and the result of the first one is lost with it. -/
theorem second_switch_loses_batch :
    ¬∀ options operations requests,
      BatchPerRequest (afterRun options operations) requests := by
  intro h
  have hFails : ((publishBatch (afterRun { maxEntities := 1 } Sample.setup)
      Sample.twoSwitches).2).isOk = false := by decide +kernel
  obtain ⟨results, hBatch, -⟩ :=
    (h { maxEntities := 1 } Sample.setup Sample.twoSwitches).answers (by decide)
  rw [hBatch] at hFails
  cases hFails

end FabricCapability.Ports
