import FabricCapability.Ports.RejectionCodes
import FabricCapability.Ports.Answers
import FabricCapability.Ports.Retirement

/-!
# The generation that a publication has to expect

Stage 9 compares the expected generation with the published one.  A publisher that is the
only one to change an entity knows the published generation from the answer to its last
publication, or from the status of the entity, as long as three things do not happen: the
publication is for a later generation of an entity that has a set, which stage 6 retires with
its set generation; or it fails after it has advanced the set generation, when the registry
generation is exhausted.

## Main results

* `publish_tracking`: what a publication does to the generation that the next one has to
  expect, and what it answers.
* `run_tracked`: the entities of a run are tracked.
-/

namespace FabricCapability.Ports

open FabricCapability.Verified.KeyedList
open FabricCapability.Verified.Runs

/-! ## Tracked entities -/

/-- What a publication of the entity has to expect. -/
def Registry.expected (registry : Registry) (id : EntityId) : CapabilitySetGeneration :=
  ((registry.findEntity id).map EntityState.publishedGeneration).getD 0

/-- The set generation of the entity and that of its set are the published one. -/
structure EntityState.Tracked (entity : EntityState) : Prop where
  counted : entity.setGeneration = entity.publishedGeneration
  shown : (entity.set.map EntityCapabilitySet.setGeneration).getD 0 = entity.publishedGeneration

def Registry.Tracks (registry : Registry) (id : EntityId) : Prop :=
  ∀ entity, registry.findEntity id = some entity → entity.Tracked

section Tracked

variable {registry after : Registry} {id : EntityId} {entity : EntityState}

theorem expected_found (h : registry.findEntity id = some entity) :
    registry.expected id = entity.publishedGeneration := by
  unfold Registry.expected
  rw [h]
  rfl

theorem expected_congr (h : after.findEntity id = registry.findEntity id) :
    after.expected id = registry.expected id := by
  unfold Registry.expected
  rw [h]

theorem Registry.Tracks.congr (hTracks : registry.Tracks id)
    (h : after.findEntity id = registry.findEntity id) : after.Tracks id := by
  intro entity hFound
  rw [h] at hFound
  exact hTracks entity hFound

/-- One entity decides. -/
theorem Registry.Tracks.of_found (h : registry.findEntity id = some entity)
    (hTracked : entity.Tracked) : registry.Tracks id := by
  intro held hHeld
  rw [h, Option.some.injEq] at hHeld
  exact hHeld ▸ hTracked

/-- Without a set nothing is counted and nothing shown. -/
theorem Unpublished.tracked (h : Unpublished entity) :
    entity.Tracked ∧ entity.publishedGeneration = 0 := by
  have hZero : entity.publishedGeneration = 0 := by
    unfold EntityState.publishedGeneration
    rw [h.hasSet]
    rfl
  refine ⟨⟨?_, ?_⟩, hZero⟩
  · rw [h.setGeneration, hZero]
  · rw [h.set, hZero]
    rfl

theorem EntityState.Tracked.congr {a b : EntityState} (h : a.Tracked)
    (hHasSet : b.hasSet = a.hasSet) (hSet : b.set = a.set)
    (hGeneration : b.setGeneration = a.setGeneration) : b.Tracked := by
  have hPublished : b.publishedGeneration = a.publishedGeneration := by
    unfold EntityState.publishedGeneration
    rw [hHasSet, hGeneration]
  refine ⟨?_, ?_⟩
  · rw [hGeneration, hPublished]
    exact h.counted
  · rw [hSet, hPublished]
    exact h.shown

end Tracked

/-! ## Steps that lose track -/

/-- A valid publication for a later generation of an entity that has a set. -/
def advancesPublished (registry : Registry) (request : PublicationRequest) : Bool :=
  (validateRequest registry request).isOk &&
    (registry.findEntity request.entity).any fun entity =>
      entity.hasSet && entity.currentGeneration < request.entityGeneration

/-- A publication that is applied, and then advances the set generation but cannot advance
the registry generation. -/
def strandsGeneration (registry : Registry) (request : PublicationRequest) : Bool :=
  (admitted registry request).any fun (grant, bound, entity) =>
    let ran := runSteps bound request (bound.cell entity)
      (applySteps bound.schema grant request)
    ran.2.isOk && semanticChange entity.set ran.1.entity &&
      (counterNext entity.setGeneration).isOk && !(counterNext bound.registryGeneration).isOk

/-! ## One publication -/

/-- What a publication leaves to expect, and what it tells about it. -/
structure Tracking (expected : CapabilitySetGeneration) (after : Registry) (id : EntityId)
    (outcome : Outcome PublicationResult) : Prop where
  tracks : after.Tracks id
  kept : (∀ result, outcome = .ok result → result.status ≠ .committed) →
    after.expected id = expected
  told : ∀ result, outcome = .ok result → result.status ≠ .rejected →
    result.newSetGeneration = after.expected id

section Publication

variable {registry : Registry} {request : PublicationRequest}

theorem bindGeneration_tracks {held : EntityState}
    (hFound : registry.findEntity request.entity = some held) (hTracked : held.Tracked)
    (hKeeps : held.hasSet = true → ¬held.currentGeneration < request.entityGeneration) :
    (bindGeneration registry request held).1.Tracks request.entity ∧
      (bindGeneration registry request held).1.expected request.entity =
        held.publishedGeneration := by
  have hId : held.id = request.entity := findEntity_id hFound
  unfold bindGeneration
  split
  · exact ⟨.of_found hFound hTracked, expected_found hFound⟩
  · split
    · rename_i hAbove
      -- what is retired had no set
      have hUnset : held.publishedGeneration = 0 := by
        unfold EntityState.publishedGeneration
        rw [if_neg fun hSet => hKeeps hSet hAbove]
      have hRetired : ∀ touchedAt, Unpublished
          { retireGeneration registry.options registry.registryGeneration held
              request.entityGeneration (makeReason (txt "superseded-by-fabric-registry")) with
            touchedAt } :=
        fun _ => ⟨rfl, rfl, rfl, rfl, rfl⟩
      have hLeft : ∀ (later : Registry) (entity : EntityState),
          later.findEntity request.entity = some entity → Unpublished entity →
          later.Tracks request.entity ∧
            later.expected request.entity = held.publishedGeneration := by
        intro later entity hLater hFresh
        obtain ⟨hEntity, hZero⟩ := hFresh.tracked
        refine ⟨.of_found hLater hEntity, ?_⟩
        rw [expected_found hLater, hZero, hUnset]
      dsimp only
      split
      · exact hLeft _ _ (findEntity_setEntity (by exact hId)) (hRetired held.touchedAt)
      · exact hLeft _ _ (findEntity_setEntity (by exact hId)) (hRetired _)
    · exact ⟨.of_found hFound hTracked, expected_found hFound⟩

theorem bindEntity_tracks (hTracks : registry.Tracks request.entity)
    (hKeeps : ∀ held, registry.findEntity request.entity = some held → held.hasSet = true →
      ¬held.currentGeneration < request.entityGeneration) :
    (bindEntity registry request).1.Tracks request.entity ∧
      (bindEntity registry request).1.expected request.entity =
        registry.expected request.entity := by
  unfold bindEntity
  split
  · rename_i held hFound
    rw [expected_found hFound]
    exact bindGeneration_tracks hFound (hTracks held hFound) (hKeeps held hFound)
  · rename_i hMissing
    split
    · exact ⟨hTracks, rfl⟩
    · have hFound : ({ registry with entities := registry.entities ++ [newEntity
          registry.registryGeneration request.entity request.entityGeneration] } :
            Registry).findEntity request.entity = some (newEntity registry.registryGeneration
              request.entity request.entityGeneration) := by
        unfold Registry.findEntity at hMissing ⊢
        rw [lookup_append_right hMissing]
        simp [lookup, newEntity]
      have hFresh : Unpublished (newEntity registry.registryGeneration request.entity
          request.entityGeneration) := ⟨rfl, rfl, rfl, rfl, rfl⟩
      obtain ⟨hEntity, hZero⟩ := hFresh.tracked
      have hNone : registry.expected request.entity = 0 := by
        unfold Registry.expected
        rw [hMissing]
        rfl
      rw [hNone, ← hZero]
      exact bindGeneration_tracks hFound hEntity fun hSet => by cases hSet

theorem not_advances {valid : PublisherRuntime × AuthorityGrant}
    (hValid : validateRequest registry request = .ok valid)
    (h : advancesPublished registry request = false) {held : EntityState}
    (hFound : registry.findEntity request.entity = some held) (hSet : held.hasSet = true) :
    ¬held.currentGeneration < request.entityGeneration := by
  intro hAbove
  unfold advancesPublished at h
  rw [hValid, hFound, Option.any_some, hSet, decide_eq_true hAbove] at h
  cases h

/-- The bound entity is expected at the generation that was expected before. -/
theorem bound_expected (hTracks : registry.Tracks request.entity)
    (hAdvances : advancesPublished registry request = false)
    {valid : PublisherRuntime × AuthorityGrant}
    (hValid : validateRequest registry request = .ok valid) {bound : Registry}
    {entity : EntityState} (hBind : bindEntity registry request = (bound, .ok entity)) :
    entity.Tracked ∧ registry.expected request.entity = entity.publishedGeneration := by
  obtain ⟨hTracked, hExpected⟩ := bindEntity_tracks hTracks
    fun held hFound hSet => not_advances hValid hAdvances hFound hSet
  obtain ⟨-, -, hFound, -⟩ := bindEntity_ok hBind
  rw [hBind] at hTracked hExpected
  exact ⟨hTracked entity hFound, hExpected.symm.trans (expected_found hFound)⟩

theorem committedEntity_tracked (registryGeneration : RegistryGeneration)
    (entity : EntityState) (request : PublicationRequest) :
    (committedEntity registryGeneration entity request).Tracked :=
  ⟨rfl, rfl⟩

/-- Stages 10 and 11 of a publication that is admitted. -/
theorem publish_admitted_tracking {grant : AuthorityGrant} {bound : Registry}
    {entity : EntityState} (hAdmitted : admitted registry request = some (grant, bound, entity))
    (hTracked : entity.Tracked) (hStrands : strandsGeneration registry request = false) :
    Tracking entity.publishedGeneration (publish registry request).1 request.entity
      (publish registry request).2 := by
  obtain ⟨runtime, hValid, hBind, hFresh, hChecked⟩ := admitted_some hAdmitted
  obtain ⟨hId, -⟩ := bindEntity_ok hBind
  unfold strandsGeneration at hStrands
  rw [hAdmitted, Option.any_some] at hStrands
  dsimp only at hStrands
  have hSame : SameEntity entity (runSteps bound request (bound.cell entity)
      (applySteps bound.schema grant request)).1.entity :=
    runSteps_entity bound request (applySteps bound.schema grant request) (bound.cell entity)
  rw [publish_admitted hAdmitted]
  -- the entity as stage 10 leaves it counts and shows what it did before
  have hLeft : ∀ (later : Registry) (held : EntityState),
      later.findEntity request.entity = some held → SameEntity entity held →
      later.Tracks request.entity ∧
        later.expected request.entity = entity.publishedGeneration := by
    intro later held hLater hSame
    have hHeld : held.publishedGeneration = entity.publishedGeneration := by
      unfold EntityState.publishedGeneration
      rw [hSame]
    refine ⟨.of_found hLater (hTracked.congr ?_ ?_ ?_), ?_⟩
    · rw [hSame]
    · rw [hSame]
    · exact hSame.setGeneration_eq
    · rw [expected_found hLater, hHeld]
  cases hApply : applyRequest bound request entity (applySteps bound.schema grant request) with
  | mk applied outcome =>
      have hApplied : applied = bound.setCell (runSteps bound request (bound.cell entity)
          (applySteps bound.schema grant request)).1 := (congrArg Prod.fst hApply).symm
      have hFound : applied.findEntity request.entity = some (runSteps bound request
          (bound.cell entity) (applySteps bound.schema grant request)).1.entity := by
        rw [hApplied]
        exact findEntity_setEntity (hSame.id_eq.trans hId)
      cases outcome with
      | error e =>
          have hJournal := reject_registry applied request e
          obtain ⟨hTracks, hKept⟩ := hLeft (reject applied request e).1 _
            (by rw [hJournal]; exact hFound) hSame
          refine ⟨hTracks, fun _ => hKept, fun result hResult hStatus => ?_⟩
          exact absurd (reject_status applied request e hResult) hStatus
      | ok published =>
          obtain ⟨-, -, hPublished⟩ := applyRequest_entity hApply
          have hIsOk : (runSteps bound request (bound.cell entity)
              (applySteps bound.schema grant request)).2.isOk = true := by
            rw [← applyRequest_isOk, hApply]
            rfl
          rw [hIsOk, Bool.true_and, ← hPublished] at hStrands
          rw [← hPublished] at hFound hSame
          have hRegistry : applied.registryGeneration = bound.registryGeneration := by
            rw [hApplied]
            rfl
          dsimp only
          cases hCommit : commit applied request entity.set published
              (applySteps bound.schema grant request)
              (requestContentDigest request grant).toText with
          | mk after outcome =>
              cases outcome with
              | error e =>
                  have hAfter : after = applied := by
                    have hAdvance := commit_error hCommit
                    unfold advanceGenerations at hAdvance
                    split at hAdvance
                    · rename_i hChanged
                      split at hAdvance
                      · exact (congrArg Prod.fst hAdvance).symm
                      · rename_i setNext hSet
                        dsimp only at hAdvance
                        split at hAdvance
                        · rename_i hExhausted
                          rw [hSame.setGeneration_eq] at hSet
                          rw [hRegistry] at hExhausted
                          rw [hChanged, hSet, hExhausted] at hStrands
                          cases hStrands
                        · cases congrArg Prod.snd hAdvance
                    · cases congrArg Prod.snd hAdvance
                  subst hAfter
                  obtain ⟨hTracks, hKept⟩ := hLeft after published hFound hSame
                  exact ⟨hTracks, fun _ => hKept, fun _ hResult => by cases hResult⟩
              | ok result =>
                  obtain ⟨advanced, next, hAdvance, hResult, hAfter⟩ := commit_ok hCommit
                  obtain ⟨-, hNext, -⟩ := advanceGenerations_ok hAdvance
                  have hNextId : next.id = request.entity := by
                    rw [hNext]
                    exact hSame.id_eq.trans hId
                  have hCommitted : after.findEntity request.entity =
                      some (committedEntity advanced.registryGeneration next request) := by
                    rw [hAfter]
                    exact findEntity_setEntity hNextId
                  refine ⟨.of_found hCommitted (committedEntity_tracked _ _ _),
                    fun hOpen => ?_, fun answered hAnswered _ => ?_⟩
                  · exact absurd (commit_status hCommit) (hOpen result rfl)
                  · obtain rfl := Except.ok.inj hAnswered
                    rw [expected_found hCommitted, hResult]
                    rfl

/-- What a publication leaves to expect, and what it tells about it. -/
theorem publish_tracking (hTracks : registry.Tracks request.entity)
    (hAdvances : advancesPublished registry request = false)
    (hStrands : strandsGeneration registry request = false) :
    Tracking (registry.expected request.entity) (publish registry request).1 request.entity
      (publish registry request).2 := by
  cases hAdmitted : admitted registry request with
  | some found =>
      obtain ⟨grant, bound, entity⟩ := found
      obtain ⟨runtime, hValid, hBind, -⟩ := admitted_some hAdmitted
      obtain ⟨hTracked, hExpected⟩ := bound_expected hTracks hAdvances hValid hBind
      rw [hExpected]
      exact publish_admitted_tracking hAdmitted hTracked hStrands
  | none =>
      have hKept : (publish registry request).1.Tracks request.entity ∧
          (publish registry request).1.expected request.entity =
            registry.expected request.entity := by
        obtain ⟨journal, hAfter | ⟨⟨valid, hValid⟩, hAfter⟩⟩ := publish_unadmitted hAdmitted
        · rw [hAfter]
          exact ⟨hTracks, rfl⟩
        · rw [hAfter]
          exact bindEntity_tracks hTracks
            fun held hFound hSet => not_advances hValid hAdvances hFound hSet
      refine ⟨hKept.1, fun _ => hKept.2, fun result hResult hStatus => ?_⟩
      rw [hKept.2]
      have hExit := publish_exit registry request
      generalize (publish registry request).1 = after at hExit
      rw [hResult] at hExit
      generalize hOutcome : (Except.ok result : Outcome PublicationResult) = outcome at hExit
      cases hExit with
      | invalid => exact absurd (reject_status _ _ _ hOutcome.symm) hStatus
      | refused => exact absurd (reject_status _ _ _ hOutcome.symm) hStatus
      | conflicting => exact absurd (reject_status _ _ _ hOutcome.symm) hStatus
      | unmet => exact absurd (reject_status _ _ _ hOutcome.symm) hStatus
      | unapplied => exact absurd (reject_status _ _ _ hOutcome.symm) hStatus
      | failed => cases hOutcome
      | uncommitted => cases hOutcome
      | replayed hValid hBinds hReplays =>
          obtain rfl := Except.ok.inj hOutcome
          obtain ⟨hTracked, hExpected⟩ := bound_expected hTracks hAdvances hValid hBinds
          rw [hExpected]
          exact hTracked.counted
      | committed stages =>
          have hAdmits := stages.admits
          rw [hAdmitted] at hAdmits
          cases hAdmits

/-- A publication that expects what it has to is not told otherwise. -/
theorem publish_undisputed (hTracks : registry.Tracks request.entity)
    (hAdvances : advancesPublished registry request = false)
    (hExpected : request.expectedSetGeneration = registry.expected request.entity)
    {result : PublicationResult} (h : (publish registry request).2 = .ok result) :
    result.code ∉ generationCodes := by
  cases hValid : validateRequest registry request with
  | error e =>
      unfold publish at h
      rw [hValid] at h
      rw [reject_code h]
      exact validateRequest_code registry request _ hValid
  | ok valid =>
      refine publish_code (fun bound entity hBind => ?_) h
      rw [hExpected]
      exact (bound_expected hTracks hAdvances hValid hBind).2

end Publication

/-! ## Runs -/

def Registry.TracksAll (registry : Registry) : Prop :=
  ∀ id, registry.Tracks id

/-- No publication of the step advances a set generation and then fails. -/
def NeverStrands (registry : Registry) (operation : Operation) : Prop :=
  ∀ attempt ∈ attempts registry operation,
    strandsGeneration attempt.before attempt.request = false

theorem tracked_rule : RefreshRule fun a b => a.Tracked → b.Tracked where
  refl _ := id
  trans _ _ _ hab hbc := hbc ∘ hab
  relabelled _ _ _ _ _ h := h.congr rfl rfl rfl
  flagged _ _ h := h.congr rfl rfl rfl
  refreshed _ _ _ h := ⟨h.counted, h.counted⟩

theorem tracksAll_of_follows {a b : Registry}
    (h : Follows (fun held later => held.Tracked → later.Tracked) a b) (hTracks : a.TracksAll) :
    b.TracksAll := by
  intro id later hLater
  rcases h.grows.found hLater with ⟨held, hHeld, hKeeps⟩ | ⟨-, _, ⟨_, _, _, -, rfl⟩, -, hKeeps⟩
  · exact hKeeps (hTracks id held hHeld)
  · exact hKeeps (Unpublished.tracked ⟨rfl, rfl, rfl, rfl, rfl⟩).1

theorem publish_tracksAll {registry : Registry} {request : PublicationRequest}
    (hTracks : registry.TracksAll) (hStrands : strandsGeneration registry request = false) :
    (publish registry request).1.TracksAll := by
  intro id
  by_cases hId : request.entity = id
  · subst hId
    -- the entity is bound as it was, or retired
    have hBound : ∀ entity,
        (bindEntity registry request).1.findEntity request.entity = some entity →
        entity.Tracked := by
      intro entity hFound
      rcases bindEntity_at hFound with hHeld | ⟨hFresh, -⟩
      · exact hTracks _ entity hHeld
      · exact hFresh.tracked.1
    cases hAdmitted : admitted registry request with
    | none =>
        obtain ⟨journal, hLeft | ⟨-, hLeft⟩⟩ := publish_unadmitted hAdmitted
        · rw [hLeft]
          exact hTracks request.entity
        · rw [hLeft]
          exact hBound
    | some admission =>
        obtain ⟨grant, bound, entity⟩ := admission
        obtain ⟨runtime, -, hBind, -⟩ := admitted_some hAdmitted
        obtain ⟨-, -, hFound, -⟩ := bindEntity_ok hBind
        rw [hBind] at hBound
        exact (publish_admitted_tracking hAdmitted (hBound entity hFound) hStrands).tracks
  · exact (hTracks id).congr (publish_other _ hId)

theorem setEntity_tracksAll {base registry : Registry} {entity : EntityState}
    (hTracks : registry.TracksAll) (hBase : base.entities = registry.entities)
    (hTracked : entity.Tracked) : (base.setEntity entity).TracksAll := by
  intro id
  by_cases hId : entity.id = id
  · exact .of_found (findEntity_setEntity hId) hTracked
  · refine (hTracks id).congr ?_
    rw [findEntity_setEntity_ne _ hId, Registry.findEntity, hBase]
    rfl

theorem observeEntityGeneration_tracksAll {registry : Registry} (hTracks : registry.TracksAll)
    (entity : EntityId) (generation : EntityGeneration) (reason : ReasonToken) :
    (observeEntityGeneration registry entity generation reason).1.TracksAll := by
  unfold observeEntityGeneration
  split
  · exact hTracks
  · rename_i hSet
    have hNe : generation ≠ 0 := by
      rintro rfl
      exact hSet (by simp)
    split
    · rename_i hMissing
      split
      · exact hTracks
      · exact tracksAll_of_follows (Follows.append tracked_rule.refl _ hMissing hNe) hTracks
    · rename_i held hFound
      split
      · exact setEntity_tracksAll hTracks rfl ((hTracks _ held hFound).congr rfl rfl rfl)
      · split
        · exact hTracks
        · split
          · exact hTracks
          · dsimp only
            split
            · exact setEntity_tracksAll hTracks rfl (Unpublished.tracked ⟨rfl, rfl, rfl, rfl, rfl⟩).1
            · exact setEntity_tracksAll hTracks rfl (Unpublished.tracked ⟨rfl, rfl, rfl, rfl, rfl⟩).1

theorem step_tracksAll {registry : Registry} {operation : Operation}
    (hNoLoad : NoLoad registry operation) (hStrands : NeverStrands registry operation)
    (hTracks : registry.TracksAll) : (operation.apply registry).TracksAll := by
  cases hRefreshes : operation.refreshes with
  | true => exact tracksAll_of_follows (refreshStep_follows tracked_rule hRefreshes) hTracks
  | false =>
      have hSame : (operation.apply registry).entities = registry.entities →
          (operation.apply registry).TracksAll :=
        fun hEntities =>
          tracksAll_of_follows (Follows.of_entities tracked_rule.refl hEntities) hTracks
      cases operation with
      | observeEntityGeneration entity generation reason =>
          exact observeEntityGeneration_tracksAll hTracks entity generation reason
      | registerPublisher publisher scope workerBoot => exact hSame (registerPublisher_entities ..)
      | retirePublisher publisher workerBoot => exact hSame (retirePublisher_entities ..)
      | declareAuthority grant => exact hSame (declareAuthority_entities ..)
      | registerVendorDescriptor descriptor => exact hSame (registerVendorDescriptor_entities ..)
      | rehash publishers => exact hSame (rehash_entities ..)
      | load config file => cases hNoLoad
      | publish request =>
          exact publish_tracksAll hTracks
            (hStrands ⟨registry, request⟩ (List.mem_singleton_self _))
      | publishBatch requests =>
          exact publishBatch_preserves
            (fun attempt hMem hBefore => publish_tracksAll hBefore (hStrands attempt hMem)) hTracks
      | _ => cases hRefreshes

/-- Every entity of a run is tracked, as long as no publication strands a generation and
nothing is loaded. -/
theorem run_tracked (options : Options) {operations : List Operation}
    (h : Guarded Operation.apply
      (fun registry operation => NoLoad registry operation ∧ NeverStrands registry operation)
      (Registry.init options) operations) :
    (afterRun options operations).TracksAll := by
  refine run_invariant (fun _ _ hStep hBefore => step_tracksAll hStep.1 hStep.2 hBefore) h ?_
  intro id entity hFound
  rw [Registry.findEntity, init_entities] at hFound
  cases hFound

end FabricCapability.Ports
