import FabricCapability.Ports.OptimisticLocking
import FabricCapability.Ports.Snapshots

/-!
# What a current snapshot says

`CheckSnapshot` compares numbers: the registry generation, the epoch and the two generations
of every entity of the snapshot.  They never go back in a run without loads, so when they are
the same at two moments, they were the same at every moment between.

A step is `Sound` when it moves one of these numbers or keeps what a snapshot shows.  Soundness
composes, because the numbers bracket every moment between.  Not every step is sound: the
first observation of an entity counts nothing, nor does a rejected publication that created
one, and a commit without a semantic change clears the flag of an invalidated entity.

## Main results

* `sound_trans`: soundness composes.
* `current_snapshot_is_sound`: runs of sound steps.
* `observed_entity_goes_unnoticed`: the first observation of an entity.
-/

namespace FabricCapability.Ports

open FabricCapability.Verified.KeyedList
open FabricCapability.Verified.Runs
open FabricCapability.Verified.StrictOrder

/-! ## What a snapshot shows -/

/-- What the set says about the capabilities. -/
def EntityCapabilitySet.content (set : EntityCapabilitySet) :
    List CapabilityResolution × Digest :=
  (set.capabilities, set.digest)

/-- What is shown of an entity. -/
structure EntityView where
  id : EntityId
  currentGeneration : EntityGeneration
  setGeneration : CapabilitySetGeneration
  invalidated : Bool
  content : Option (List CapabilityResolution × Digest)
  history : List RetainedGeneration
  deriving DecidableEq

def EntityState.view (entity : EntityState) : EntityView :=
  { id := entity.id
    currentGeneration := entity.currentGeneration
    setGeneration := entity.setGeneration
    invalidated := entity.invalidated
    content := entity.set.map EntityCapabilitySet.content
    history := entity.history }

/-- What the digest of the registry writes of an entity. -/
def viewFields (view : EntityView) : Bytes :=
  putText view.id.toText kMaxEntityIdLength ++
  u64 view.currentGeneration ++
  u64 view.setGeneration ++
  bool view.invalidated ++
  ((view.content.map Prod.snd).getD .zero).bytes ++
  sizeU32 view.history.length ++
  view.history.flatMap fun retained => historyFields retained.summary

theorem entityFields_view (entity : EntityState) : entityFields entity = viewFields entity.view := by
  unfold entityFields viewFields EntityState.setDigest EntityState.view
  rw [Option.map_map]
  rfl

/-- Both registries show the same. -/
structure SameView (a b : Registry) : Prop where
  epoch : b.epoch = a.epoch
  fences : b.fencedBoots = a.fencedBoots
  entities : b.entities.map EntityState.view = a.entities.map EntityState.view

namespace SameView

variable {a b c : Registry}

theorem refl (a : Registry) : SameView a a := ⟨rfl, rfl, rfl⟩

theorem trans (hab : SameView a b) (hbc : SameView b c) : SameView a c :=
  ⟨hbc.epoch.trans hab.epoch, hbc.fences.trans hab.fences, hbc.entities.trans hab.entities⟩

/-- The same is shown of the entity with one identifier. -/
theorem find (h : SameView a b) (id : EntityId) :
    (b.findEntity id).map EntityState.view = (a.findEntity id).map EntityState.view := by
  have hView : ∀ registry : Registry, (registry.findEntity id).map EntityState.view =
      lookup EntityView.id id (registry.entities.map EntityState.view) := by
    intro registry
    have hImage : lookup EntityView.id id (registry.entities.map EntityState.view) =
        (lookup EntityState.id id registry.entities).map EntityState.view :=
      lookup_image fun _ _ => rfl
    exact hImage.symm
  rw [hView, hView, h.entities]

/-- The digest of the registry is a digest of what it shows. -/
theorem computeDigest (h : SameView a b) : b.computeDigest = a.computeDigest := by
  have hSorted : ∀ registry : Registry,
      (sortBy (fun a b => a.id.lt b.id) registry.entities).map EntityState.view =
        sortBy (fun a b => a.id.lt b.id) (registry.entities.map EntityState.view) :=
    fun registry => @map_sortBy EntityState (fun a b => a.id.lt b.id) EntityView
      EntityState.view (fun a b => a.id.lt b.id) (fun _ _ => rfl) registry.entities
  have hFields : ∀ entities : List EntityState,
      entities.flatMap entityFields = (entities.map EntityState.view).flatMap viewFields := by
    intro entities
    rw [List.flatMap_map]
    exact List.flatMap_congr fun entity _ => entityFields_view entity
  have hLength : b.entities.length = a.entities.length := by
    have hMapped := congrArg List.length h.entities
    rwa [List.length_map, List.length_map] at hMapped
  unfold Registry.computeDigest
  dsimp only
  rw [hFields, hFields, hSorted, hSorted, h.entities, h.epoch, h.fences]
  simp only [length_sortBy, hLength]

/-- An entity that is written back under the same view. -/
theorem setEntity {base : Registry} {held : EntityState} (later : EntityState)
    (hFound : a.findEntity later.id = some held) (hView : later.view = held.view)
    (hEntities : base.entities = a.entities) (hEpoch : base.epoch = a.epoch)
    (hFences : base.fencedBoots = a.fencedBoots) : SameView a (base.setEntity later) := by
  refine ⟨hEpoch, hFences, ?_⟩
  rw [Registry.setEntity, hEntities]
  exact map_upsert hFound hView

theorem recordJournal (h : SameView a b) (entry : JournalEntry) :
    SameView a (b.recordJournal entry) :=
  ⟨h.epoch, h.fences, h.entities⟩

end SameView

/-! ## The compared numbers -/

/-- The numbers that `CheckSnapshot` compares are the same. -/
structure Stays (a b : Registry) : Prop where
  registryGeneration : b.registryGeneration = a.registryGeneration
  epoch : b.epoch = a.epoch
  find : ∀ id held, a.findEntity id = some held → ∃ later, b.findEntity id = some later ∧
    later.currentGeneration = held.currentGeneration ∧
    later.setGeneration = held.setGeneration

/-- The numbers never go back, and while they stay the same is shown. -/
structure Sound (a b : Registry) : Prop where
  registryGeneration : a.registryGeneration ≤ b.registryGeneration
  epoch : a.epoch ≤ b.epoch
  evolves : Evolves a b
  shows : Stays a b → SameView a b

theorem sound_refl (a : Registry) : Sound a a :=
  ⟨UInt64.le_refl _, UInt64.le_refl _, .refl a, fun _ => .refl a⟩

/-- The numbers of a moment between two at which they are the same. -/
theorem Stays.between {a b c : Registry} (h : Stays a c) (hab : Sound a b) (hbc : Sound b c) :
    Stays a b where
  registryGeneration := UInt64.le_antisymm (h.registryGeneration ▸ hbc.registryGeneration)
    hab.registryGeneration
  epoch := UInt64.le_antisymm (h.epoch ▸ hbc.epoch) hab.epoch
  find id held hFound := by
    obtain ⟨mid, hMid, hFirst⟩ := hab.evolves.find id held hFound
    obtain ⟨later, hLater, hSecond⟩ := hbc.evolves.find id mid hMid
    obtain ⟨found, hFoundLater, hGeneration, hSetGeneration⟩ := h.find id held hFound
    rw [hLater, Option.some.injEq] at hFoundLater
    subst hFoundLater
    refine ⟨mid, hMid, ?_⟩
    rcases hFirst with hAbove | ⟨hSame, hSet, -⟩
    · rcases hSecond with hAbove' | ⟨hSame', -⟩
      · rw [hGeneration] at hAbove'
        omega
      · rw [hSame', hGeneration] at hAbove
        omega
    · rcases hSecond with hAbove' | ⟨-, hSet', -⟩
      · rw [hGeneration, hSame] at hAbove'
        omega
      · refine ⟨hSame.symm, UInt64.toNat_inj.1 ?_⟩
        rw [hSetGeneration] at hSet'
        omega

/-- The numbers stay from a moment that shows the same. -/
theorem Stays.rest {a b c : Registry} (h : Stays a c) (hSame : SameView a b)
    (hCount : b.registryGeneration = a.registryGeneration) : Stays b c where
  registryGeneration := h.registryGeneration.trans hCount.symm
  epoch := h.epoch.trans hSame.epoch.symm
  find id mid hMid := by
    have hView := hSame.find id
    rw [hMid, Option.map_some] at hView
    obtain ⟨held, hHeld, hEq⟩ := Option.map_eq_some_iff.1 hView.symm
    obtain ⟨later, hLater, hGeneration, hSetGeneration⟩ := h.find id held hHeld
    refine ⟨later, hLater, hGeneration.trans ?_, hSetGeneration.trans ?_⟩
    · exact congrArg EntityView.currentGeneration hEq
    · exact congrArg EntityView.setGeneration hEq

theorem sound_trans (a b c : Registry) (hab : Sound a b) (hbc : Sound b c) : Sound a c where
  registryGeneration := UInt64.le_trans hab.registryGeneration hbc.registryGeneration
  epoch := UInt64.le_trans hab.epoch hbc.epoch
  evolves := hab.evolves.trans hbc.evolves
  shows h := by
    have hBetween : Stays a b := h.between hab hbc
    have hSame : SameView a b := hab.shows hBetween
    exact hSame.trans (hbc.shows (h.rest hSame hBetween.registryGeneration))

/-! ## Counting -/

theorem counterNext_lt {value next : UInt64} (h : counterNext value = .ok next) : value < next := by
  have hNext := toNat_of_counterNext h
  rw [UInt64.lt_iff_toNat_lt]
  omega

/-- The registry generation has moved on, so nothing more needs to be shown. -/
theorem Stays.uncounted {a b : Registry} (h : Stays a b)
    (hCounted : a.registryGeneration < b.registryGeneration) : SameView a b := by
  rw [h.registryGeneration] at hCounted
  exact absurd hCounted (UInt64.lt_irrefl _)

/-- The generation of an entity has moved on. -/
theorem Stays.advanced {a b : Registry} (h : Stays a b) {id : EntityId}
    {held later : EntityState} (hHeld : a.findEntity id = some held)
    (hLater : b.findEntity id = some later)
    (hAbove : held.currentGeneration < later.currentGeneration) : SameView a b := by
  obtain ⟨found, hFound, hGeneration, -⟩ := h.find id held hHeld
  rw [hLater, Option.some.injEq] at hFound
  rw [← hFound] at hGeneration
  rw [hGeneration] at hAbove
  exact absurd hAbove (UInt64.lt_irrefl _)

/-! ## Publications -/

/-- Stage 6 creates the entity of the request. -/
def createsEntity (registry : Registry) (request : PublicationRequest) : Bool :=
  (validateRequest registry request).isOk && (registry.findEntity request.entity).isNone &&
    registry.entities.length < registry.options.maxEntities

/-- The publication is counted when it creates its entity, and a commit without a semantic
change finds the entity not invalidated and its set saying what is published again. -/
def showsPublication (registry : Registry) (request : PublicationRequest) : Bool :=
  match admitted registry request with
  | none => !createsEntity registry request
  | some (grant, bound, entity) =>
      let ran := runSteps bound request (bound.cell entity)
        (applySteps bound.schema grant request)
      if createsEntity registry request then
        ran.2.isOk && (counterNext bound.registryGeneration).isOk
      else
        !ran.2.isOk || semanticChange entity.set ran.1.entity ||
          (!entity.invalidated &&
            entity.set.map EntityCapabilitySet.capabilities == some ran.1.entity.resolutions)

theorem bindGeneration_registryGeneration (registry : Registry) (request : PublicationRequest)
    (entity : EntityState) :
    registry.registryGeneration ≤ (bindGeneration registry request entity).1.registryGeneration := by
  unfold bindGeneration
  split
  · exact UInt64.le_refl _
  · split
    · dsimp only
      split
      · exact UInt64.le_refl _
      · rename_i hNext
        exact UInt64.le_of_lt (counterNext_lt hNext)
    · exact UInt64.le_refl _

theorem bindEntity_registryGeneration (registry : Registry) (request : PublicationRequest) :
    registry.registryGeneration ≤ (bindEntity registry request).1.registryGeneration := by
  unfold bindEntity
  split
  · exact bindGeneration_registryGeneration ..
  · split
    · exact UInt64.le_refl _
    · refine UInt64.le_trans ?_ (bindGeneration_registryGeneration _ _ _)
      exact UInt64.le_refl _

theorem advanceGenerations_registryGeneration (registry : Registry) (entity : EntityState)
    (changed : Bool) :
    registry.registryGeneration ≤
      (advanceGenerations registry entity changed).1.registryGeneration := by
  unfold advanceGenerations
  split
  · split
    · exact UInt64.le_refl _
    · dsimp only
      split
      · exact UInt64.le_refl _
      · rename_i hNext
        exact UInt64.le_of_lt (counterNext_lt hNext)
  · exact UInt64.le_refl _

theorem commit_registryGeneration (registry : Registry) (request : PublicationRequest)
    (before : Option EntityCapabilitySet) (entity : EntityState) (steps : List ApplyStep)
    (contentDigest : Bytes) :
    registry.registryGeneration ≤
      (commit registry request before entity steps contentDigest).1.registryGeneration := by
  have hAdvance := advanceGenerations_registryGeneration registry entity
    (semanticChange before entity)
  unfold commit
  dsimp only
  split
  · rename_i hEq
    rw [hEq] at hAdvance
    exact hAdvance
  · rename_i hEq
    rw [hEq] at hAdvance
    exact hAdvance

theorem publish_registryGeneration (registry : Registry) (request : PublicationRequest) :
    registry.registryGeneration ≤ (publish registry request).1.registryGeneration :=
  publish_preserves (P := fun later => registry.registryGeneration ≤ later.registryGeneration)
    (fun _ _ h => h) (fun _ _ _ => bindEntity_registryGeneration ..) (fun _ _ _ _ _ _ _ h => h)
    (fun _ _ _ _ _ _ _ _ _ _ h => UInt64.le_trans h (commit_registryGeneration ..))
    (UInt64.le_refl _)

/-- What stage 6 makes of the registry when it creates no entity: nothing, or it retires a
generation, which is counted unless the counter is exhausted. -/
theorem bindEntity_registry {registry : Registry} {request : PublicationRequest}
    {valid : PublisherRuntime × AuthorityGrant}
    (hValid : validateRequest registry request = .ok valid)
    (hOld : createsEntity registry request = false) :
    (bindEntity registry request).1 = registry ∨
      registry.registryGeneration < (bindEntity registry request).1.registryGeneration ∨
      (∃ refusal, (bindEntity registry request).2 = .error refusal) ∧
        ∃ held later, registry.findEntity request.entity = some held ∧
          (bindEntity registry request).1.findEntity request.entity = some later ∧
          held.currentGeneration < later.currentGeneration := by
  unfold bindEntity
  split
  · rename_i held hFound
    have hId : held.id = request.entity := findEntity_id hFound
    unfold bindGeneration
    split
    · exact .inl rfl
    · split
      · rename_i hAbove
        dsimp only
        split
        · exact .inr (.inr ⟨⟨_, rfl⟩, held, _, hFound, findEntity_setEntity hId, hAbove⟩)
        · rename_i next hNext
          exact .inr (.inl (counterNext_lt hNext))
      · exact .inl rfl
  · rename_i hMissing
    split
    · exact .inl rfl
    · rename_i hRoom
      rw [createsEntity, hValid, hMissing] at hOld
      simp [Except.isOk, Except.toBool] at hOld
      omega

/-- Stage 10 shows nothing: it changes the entries of the entity only. -/
theorem applyRequest_shows {registry : Registry} {request : PublicationRequest}
    {entity : EntityState} (hFound : registry.findEntity entity.id = some entity)
    (steps : List ApplyStep) :
    SameView registry (applyRequest registry request entity steps).1 := by
  have hSame := runSteps_entity registry request steps (registry.cell entity)
  have hView : (runSteps registry request (registry.cell entity) steps).1.entity.view =
      entity.view := by
    rw [hSame]
    rfl
  have hHeld : registry.findEntity (runSteps registry request (registry.cell entity)
      steps).1.entity.id = some entity := by
    rw [hSame.id_eq]
    exact hFound
  exact .setEntity _ hHeld hView rfl rfl rfl

/-- An advance that fails moves the set generation, or it changes nothing. -/
theorem advanceGenerations_shows {registry failed : Registry} {entity : EntityState}
    {changed : Bool} {e : Error} (hFound : registry.findEntity entity.id = some entity)
    (hFailed : advanceGenerations registry entity changed = (failed, .error e))
    (h : Stays registry failed) : SameView registry failed := by
  unfold advanceGenerations at hFailed
  split at hFailed
  · split at hFailed
    · cases hFailed
      exact .refl registry
    · rename_i setNext hSetNext
      dsimp only at hFailed
      split at hFailed
      · cases hFailed
        obtain ⟨later, hLater, -, hSetGeneration⟩ := h.find entity.id entity hFound
        rw [findEntity_setEntity rfl, Option.some.injEq] at hLater
        rw [← hLater] at hSetGeneration
        have hAbove := counterNext_lt hSetNext
        rw [← hSetGeneration] at hAbove
        exact absurd hAbove (UInt64.lt_irrefl _)
      · cases hFailed
  · cases hFailed

/-- What a commit shows of an entity. -/
theorem committedEntity_shows (registryGeneration : RegistryGeneration) (entity : EntityState)
    (request : PublicationRequest) :
    (committedEntity registryGeneration entity request).view =
      { id := entity.id
        currentGeneration := entity.currentGeneration
        setGeneration := entity.setGeneration
        invalidated := false
        content := some (entity.resolutions, digestOfResolutions entity.resolutions)
        history := entity.history } := by
  have hContent : (committedEntity registryGeneration entity request).set.map
      EntityCapabilitySet.content =
        some (entity.resolutions, digestOfResolutions entity.resolutions) := by
    unfold committedEntity EntityState.raiseFloor publishedEntity
    simp only [Option.map_some, materialize, EntityCapabilitySet.content]
    rfl
  rw [EntityState.view, hContent]
  rfl

/-- The entity that a commit without a semantic change writes. -/
theorem committedEntity_view {entity : EntityState} (registryGeneration : RegistryGeneration)
    (request : PublicationRequest) (hUnchanged : semanticChange entity.set entity = false)
    (hValid : entity.invalidated = false)
    (hSet : entity.set.map EntityCapabilitySet.capabilities = some entity.resolutions) :
    (committedEntity registryGeneration entity request).view = entity.view := by
  have hContent : entity.set.map EntityCapabilitySet.content =
      some (entity.resolutions, digestOfResolutions entity.resolutions) := by
    cases hHeld : entity.set with
    | none =>
        rw [hHeld] at hSet
        cases hSet
    | some set =>
        rw [hHeld, Option.map_some, Option.some.injEq] at hSet
        rw [hHeld, semanticChange, bne_eq_false_iff_eq] at hUnchanged
        rw [Option.map_some, EntityCapabilitySet.content, hSet, hUnchanged]
  rw [committedEntity_shows, EntityState.view, hContent, hValid]

/-- Stage 11, when a commit without a semantic change publishes again what was there. -/
theorem commit_shows {registry after : Registry} {request : PublicationRequest}
    {entity : EntityState} {steps : List ApplyStep} {contentDigest : Bytes}
    {outcome : Outcome PublicationResult}
    (hFound : registry.findEntity entity.id = some entity)
    (hAgain : semanticChange entity.set entity = false → entity.invalidated = false ∧
      entity.set.map EntityCapabilitySet.capabilities = some entity.resolutions)
    (hCommit : commit registry request entity.set entity steps contentDigest = (after, outcome))
    (h : Stays registry after) : SameView registry after := by
  cases outcome with
  | error e => exact advanceGenerations_shows hFound (commit_error hCommit) h
  | ok result =>
      obtain ⟨advanced, next, hAdvance, -, hAfter⟩ := commit_ok hCommit
      obtain ⟨hAdvanced, hNext, hSetGeneration, hCount⟩ := advanceGenerations_ok hAdvance
      by_cases hChange : semanticChange entity.set entity = true
      · rw [if_pos hChange] at hCount
        refine h.uncounted ?_
        rw [hAfter]
        show registry.registryGeneration < advanced.registryGeneration
        rw [UInt64.lt_iff_toNat_lt]
        omega
      · have hSame : next = entity := by
          rw [if_neg hChange, Nat.add_zero] at hSetGeneration
          rw [hNext, UInt64.toNat_inj.1 hSetGeneration]
        have hUnchanged : semanticChange entity.set entity = false := by simpa using hChange
        obtain ⟨hValid, hSet⟩ := hAgain hUnchanged
        have hView := committedEntity_view advanced.registryGeneration request hUnchanged
          hValid hSet
        rw [hAfter, hSame]
        refine SameView.recordJournal (.setEntity (committedEntity advanced.registryGeneration
          entity request) hFound hView ?_ ?_ ?_) _
        · rw [hAdvanced]
          rfl
        · rw [hAdvanced]
          rfl
        · rw [hAdvanced]
          rfl

theorem applyRequest_registryGeneration (registry : Registry) (request : PublicationRequest)
    (entity : EntityState) (steps : List ApplyStep) :
    (applyRequest registry request entity steps).1.registryGeneration =
      registry.registryGeneration := rfl

theorem admitted_registryGeneration {registry bound : Registry} {request : PublicationRequest}
    {grant : AuthorityGrant} {entity : EntityState}
    (hAdmitted : admitted registry request = some (grant, bound, entity)) :
    bound.registryGeneration ≤ (publish registry request).1.registryGeneration := by
  have hApplied := applyRequest_registryGeneration bound request entity
    (applySteps bound.schema grant request)
  rw [publish_admitted hAdmitted]
  cases hApply : applyRequest bound request entity (applySteps bound.schema grant request) with
  | mk applied outcome =>
      rw [hApply] at hApplied
      dsimp only at hApplied
      cases outcome with
      | error e =>
          dsimp only
          rw [reject_registry]
          exact UInt64.le_of_eq hApplied.symm
      | ok published =>
          have hCommit := commit_registryGeneration applied request entity.set published
            (applySteps bound.schema grant request) (requestContentDigest request grant).toText
          rw [hApplied] at hCommit
          exact hCommit

theorem createsEntity_fresh {registry bound : Registry} {request : PublicationRequest}
    {entity : EntityState} (hNew : createsEntity registry request = true)
    (hBind : bindEntity registry request = (bound, .ok entity)) : Unpublished entity := by
  obtain ⟨-, -, -, ⟨-, hHeld⟩ | ⟨hFresh, -⟩⟩ := bindEntity_ok hBind
  · simp [createsEntity, hHeld] at hNew
  · exact hFresh

/-- A publication that is admitted after it created its entity is counted. -/
theorem created_counts {registry bound : Registry} {request : PublicationRequest}
    {grant : AuthorityGrant} {entity : EntityState}
    (hAdmitted : admitted registry request = some (grant, bound, entity))
    (hFresh : Unpublished entity)
    (hRun : (runSteps bound request (bound.cell entity)
      (applySteps bound.schema grant request)).2.isOk = true)
    (hCounter : (counterNext bound.registryGeneration).isOk = true) :
    bound.registryGeneration < (publish registry request).1.registryGeneration := by
  rw [publish_admitted hAdmitted]
  cases hApply : applyRequest bound request entity (applySteps bound.schema grant request) with
  | mk applied outcome =>
      have hOutcome := applyRequest_isOk bound request entity (applySteps bound.schema grant request)
      rw [hApply, hRun] at hOutcome
      cases outcome with
      | error e => cases hOutcome
      | ok published =>
          have hSame := (applyRequest_entity hApply).1
          have hGeneration := applyRequest_registryGeneration bound request entity
            (applySteps bound.schema grant request)
          rw [hApply] at hGeneration
          dsimp only at hGeneration ⊢
          cases hCommit : commit applied request entity.set published
              (applySteps bound.schema grant request)
              (requestContentDigest request grant).toText with
          | mk after answer =>
              cases answer with
              | error e =>
                  obtain ⟨-, hCounters⟩ := commit_failed hCommit
                  rw [hSame.setGeneration_eq, hFresh.setGeneration, hGeneration, hCounter,
                    Bool.and_true] at hCounters
                  cases hCounters
              | ok result =>
                  obtain ⟨advanced, next, hAdvance, -, hAfter⟩ := commit_ok hCommit
                  obtain ⟨-, -, -, hCount⟩ := advanceGenerations_ok hAdvance
                  rw [hFresh.set, semanticChange, if_pos rfl, hGeneration] at hCount
                  rw [hAfter]
                  show bound.registryGeneration < advanced.registryGeneration
                  rw [UInt64.lt_iff_toNat_lt]
                  omega

/-- An admitted publication that created no entity. -/
theorem admitted_shows {registry bound : Registry} {request : PublicationRequest}
    {grant : AuthorityGrant} {entity : EntityState}
    (hAdmitted : admitted registry request = some (grant, bound, entity))
    (hFound : bound.findEntity entity.id = some entity)
    (hAgain : (runSteps bound request (bound.cell entity)
        (applySteps bound.schema grant request)).2.isOk = true →
      semanticChange entity.set (runSteps bound request (bound.cell entity)
        (applySteps bound.schema grant request)).1.entity = false →
      entity.invalidated = false ∧ entity.set.map EntityCapabilitySet.capabilities =
        some (runSteps bound request (bound.cell entity)
          (applySteps bound.schema grant request)).1.entity.resolutions)
    (h : Stays bound (publish registry request).1) : SameView bound (publish registry request).1 := by
  rw [publish_admitted hAdmitted] at h ⊢
  have hApplied := @applyRequest_shows bound request entity hFound
    (applySteps bound.schema grant request)
  cases hApply : applyRequest bound request entity (applySteps bound.schema grant request) with
  | mk applied outcome =>
      rw [hApply] at h hApplied
      cases outcome with
      | error e =>
          dsimp only
          rw [reject_registry]
          exact ⟨hApplied.epoch, hApplied.fences, hApplied.entities⟩
      | ok published =>
          dsimp only at h ⊢
          obtain ⟨hSame, hCell, hPublished⟩ := applyRequest_entity hApply
          have hOutcome := applyRequest_isOk bound request entity
            (applySteps bound.schema grant request)
          rw [hApply] at hOutcome
          have hGeneration : applied.registryGeneration = bound.registryGeneration := by
            rw [hCell]
            rfl
          have hPublishedAgain : semanticChange published.set published = false →
              published.invalidated = false ∧
                published.set.map EntityCapabilitySet.capabilities =
                  some published.resolutions := by
            intro hUnchanged
            rw [hSame.set_eq, hPublished] at hUnchanged
            obtain ⟨hValid, hSet⟩ := hAgain hOutcome.symm hUnchanged
            rw [← hPublished] at hSet
            refine ⟨?_, hSame.set_eq ▸ hSet⟩
            rw [hSame]
            exact hValid
          cases hCommit : commit applied request entity.set published
              (applySteps bound.schema grant request)
              (requestContentDigest request grant).toText with
          | mk after answer =>
              rw [hCommit] at h
              rw [← hSame.set_eq] at hCommit
              exact hApplied.trans (commit_shows (applyRequest_found hApply) hPublishedAgain
                hCommit (h.rest hApplied hGeneration))

/-- One publication. -/
theorem publish_shows {registry : Registry} {request : PublicationRequest}
    (hShows : showsPublication registry request = true)
    (h : Stays registry (publish registry request).1) :
    SameView registry (publish registry request).1 := by
  unfold showsPublication at hShows
  cases hAdmitted : admitted registry request with
  | none =>
      rw [hAdmitted] at hShows
      have hOld : createsEntity registry request = false := by simpa using hShows
      obtain ⟨journal, hLeft | ⟨⟨valid, hValid⟩, hLeft⟩⟩ := publish_unadmitted hAdmitted
      · rw [hLeft]
        exact ⟨rfl, rfl, rfl⟩
      · rw [hLeft] at h ⊢
        rcases bindEntity_registry hValid hOld with
          hSame | hCounted | ⟨-, held, later, hHeld, hLater, hAbove⟩
        · rw [hSame]
          exact ⟨rfl, rfl, rfl⟩
        · exact h.uncounted hCounted
        · exact h.advanced hHeld hLater hAbove
  | some admission =>
      obtain ⟨grant, bound, entity⟩ := admission
      rw [hAdmitted] at hShows
      dsimp only at hShows
      obtain ⟨runtime, hValid, hBind, -⟩ := admitted_some hAdmitted
      obtain ⟨hId, -, hFound, -⟩ := bindEntity_ok hBind
      have hBound := bindEntity_registryGeneration registry request
      rw [hBind] at hBound
      cases hNew : createsEntity registry request with
      | true =>
          rw [hNew, if_pos rfl, Bool.and_eq_true] at hShows
          exact h.uncounted (UInt64.lt_of_le_of_lt hBound (created_counts hAdmitted
            (createsEntity_fresh hNew hBind) hShows.1 hShows.2))
      | false =>
          rcases bindEntity_registry hValid hNew with hSame | hCounted | ⟨⟨refusal, hRefused⟩, -⟩
          · rw [hBind] at hSame
            obtain rfl : bound = registry := hSame
            refine admitted_shows hAdmitted (hId ▸ hFound) (fun hRun hUnchanged => ?_) h
            rw [hNew] at hShows
            simpa [hRun, hUnchanged] using hShows
          · rw [hBind] at hCounted
            exact h.uncounted (UInt64.lt_of_lt_of_le hCounted
              (admitted_registryGeneration hAdmitted))
          · rw [hBind] at hRefused
            cases hRefused

theorem publish_sound {registry : Registry} {request : PublicationRequest}
    (hShows : showsPublication registry request = true) :
    Sound registry (publish registry request).1 where
  registryGeneration := publish_registryGeneration registry request
  epoch := UInt64.le_of_eq (publish_control registry request).epoch.symm
  evolves := publish_evolves registry request
  shows := publish_shows hShows

/-! ## The other operations -/

theorem advanceRegistry_registryGeneration {α : Type} (registry : Registry) (value : α) :
    registry.registryGeneration ≤ (advanceRegistry registry value).1.registryGeneration := by
  unfold advanceRegistry
  split
  · exact UInt64.le_refl _
  · rename_i hNext
    exact UInt64.le_of_lt (counterNext_lt hNext)

theorem advanceRegistry_counts {α : Type} {registry base : Registry} {value : α}
    (hBase : base.registryGeneration = registry.registryGeneration)
    (h : (counterNext registry.registryGeneration).isOk = true) :
    registry.registryGeneration < (advanceRegistry base value).1.registryGeneration := by
  rw [← hBase] at h ⊢
  unfold advanceRegistry
  split
  · rename_i hFailed
    rw [hFailed] at h
    cases h
  · rename_i hNext
    exact counterNext_lt hNext

/-- The observation is the first one of its entity, and there is room for it. -/
def createsObserved (registry : Registry) (entity : EntityId) (generation : EntityGeneration) :
    Bool :=
  entity.isSet && generation != 0 && (registry.findEntity entity).isNone &&
    registry.entities.length < registry.options.maxEntities

/-- An observation of an entity that is held is counted, or it changes nothing. -/
theorem observeEntityGeneration_shows {registry : Registry} {entity : EntityId}
    {generation : EntityGeneration} {reason : ReasonToken}
    (hOld : createsObserved registry entity generation = false) :
    registry.registryGeneration ≤
        (observeEntityGeneration registry entity generation reason).1.registryGeneration ∧
      (Stays registry (observeEntityGeneration registry entity generation reason).1 →
        SameView registry (observeEntityGeneration registry entity generation reason).1) := by
  unfold observeEntityGeneration
  split
  · exact ⟨UInt64.le_refl _, fun _ => .refl registry⟩
  · rename_i hSet
    split
    · rename_i hMissing
      split
      · exact ⟨UInt64.le_refl _, fun _ => .refl registry⟩
      · rename_i hRoom
        simp only [Bool.or_eq_true, Bool.not_eq_true', decide_eq_true_eq, not_or,
          Bool.not_eq_false] at hSet
        simp [createsObserved, hSet.1, hSet.2, hMissing] at hOld
        omega
    · rename_i held hFound
      have hId : held.id = entity := findEntity_id hFound
      split
      · rename_i hUnset
        refine ⟨UInt64.le_refl _, fun h => h.advanced hFound (findEntity_setEntity hId) ?_⟩
        show held.currentGeneration < generation
        simp only [Bool.or_eq_true, decide_eq_true_eq, not_or] at hSet
        rw [hUnset]
        exact UInt64.pos_iff_ne_zero.2 hSet.2
      · split
        · exact ⟨UInt64.le_refl _, fun _ => .refl registry⟩
        · rename_i hNotBelow
          split
          · exact ⟨UInt64.le_refl _, fun _ => .refl registry⟩
          · rename_i hOther
            have hAbove : held.currentGeneration < generation :=
              UInt64.lt_of_le_of_ne (UInt64.not_lt.1 hNotBelow) (Ne.symm hOther)
            dsimp only
            split
            · exact ⟨UInt64.le_refl _, fun h =>
                h.advanced hFound (findEntity_setEntity hId) hAbove⟩
            · rename_i hNext
              have hCounted := counterNext_lt hNext
              exact ⟨UInt64.le_of_lt hCounted, fun h => h.uncounted hCounted⟩

/-- A fence is counted while the counter lasts. -/
theorem fenceWorkerBoot_shows {registry : Registry} {boot : WorkerBootId} {reason : ReasonToken}
    (hCounter : registry.addsFence boot = true →
      (counterNext registry.registryGeneration).isOk = true) :
    registry.registryGeneration ≤ (fenceWorkerBoot registry boot reason).1.registryGeneration ∧
      (Stays registry (fenceWorkerBoot registry boot reason).1 →
        SameView registry (fenceWorkerBoot registry boot reason).1) := by
  have hInsert : ∀ base : Registry, base.registryGeneration = registry.registryGeneration →
      (counterNext registry.registryGeneration).isOk = true →
      registry.registryGeneration < (insertFence base boot reason).1.registryGeneration := by
    intro base hBase hOk
    unfold insertFence
    exact advanceRegistry_counts hBase hOk
  cases hAdds : registry.addsFence boot with
  | false =>
      rw [fenceWorkerBoot_skips hAdds]
      exact ⟨UInt64.le_refl _, fun _ => .refl registry⟩
  | true =>
      have hCounted : registry.registryGeneration <
          (fenceWorkerBoot registry boot reason).1.registryGeneration := by
        have hOk := hCounter hAdds
        simp only [Registry.addsFence, Bool.and_eq_true, Bool.or_eq_true, decide_eq_true_eq]
          at hAdds
        obtain ⟨⟨hSet, hNew⟩, hRoom⟩ := hAdds
        unfold fenceWorkerBoot
        rw [if_neg (by simp [hSet]), if_neg hNew]
        split
        · split
          · rename_i hFull hFence
            rw [hFence] at hRoom
            rcases hRoom with hRoom | hNone
            · omega
            · cases hNone
          · exact hInsert _ rfl hOk
        · exact hInsert _ rfl hOk
      exact ⟨UInt64.le_of_lt hCounted, fun h => h.uncounted hCounted⟩

/-- An advance of the epoch moves the epoch, or it changes nothing. -/
theorem advanceCoordinatorEpoch_shows (registry : Registry) (reason : ReasonToken) :
    registry.registryGeneration ≤
        (advanceCoordinatorEpoch registry reason).1.registryGeneration ∧
      registry.epoch ≤ (advanceCoordinatorEpoch registry reason).1.epoch ∧
      (Stays registry (advanceCoordinatorEpoch registry reason).1 →
        SameView registry (advanceCoordinatorEpoch registry reason).1) := by
  unfold advanceCoordinatorEpoch
  split
  · exact ⟨UInt64.le_refl _, UInt64.le_refl _, fun _ => .refl registry⟩
  · rename_i epoch hNext
    dsimp only
    generalize hFenced : fenceBoots (reasonOr reason (txt "coordinator-epoch-advanced"))
      { registry with epoch, publishers := [] }
      (registry.publishers.map fun held => held.1.boot) = fenced
    have hFields : fenced.registryGeneration = registry.registryGeneration ∧
        fenced.epoch = epoch := by
      rw [← hFenced, fenceBoots_only]
      exact ⟨rfl, rfl⟩
    generalize hVisited : fenced.visitEntities _ = visited
    have hVisitedFields : visited.registryGeneration = registry.registryGeneration ∧
        visited.epoch = epoch := by
      rw [← hVisited]
      exact hFields
    have hEpoch : (advanceRegistry visited epoch).1.epoch = epoch :=
      (advanceRegistry_control ..).epoch.trans hVisitedFields.2
    refine ⟨?_, ?_, fun h => ?_⟩
    · rw [← hVisitedFields.1]
      exact advanceRegistry_registryGeneration ..
    · rw [hEpoch]
      exact UInt64.le_of_lt (counterNext_lt hNext)
    · have hAbove := counterNext_lt hNext
      rw [← hEpoch, h.epoch] at hAbove
      exact absurd hAbove (UInt64.lt_irrefl _)

/-- An invalidation is counted while the counter lasts, or it shows nothing. -/
theorem invalidateEntity_shows {registry : Registry} {entity : EntityId}
    {generation : EntityGeneration} {reason : ReasonToken}
    (hCounter : ∀ held, registry.findEntity entity = some held →
      held.currentGeneration = generation →
      (counterNext registry.registryGeneration).isOk = true) :
    registry.registryGeneration ≤
        (invalidateEntity registry entity generation reason).1.registryGeneration ∧
      (Stays registry (invalidateEntity registry entity generation reason).1 →
        SameView registry (invalidateEntity registry entity generation reason).1) := by
  unfold invalidateEntity
  split
  · exact ⟨UInt64.le_refl _, fun _ => .refl registry⟩
  · rename_i held hFound
    split
    · exact ⟨UInt64.le_refl _, fun _ => .refl registry⟩
    · rename_i hCurrent
      have hOk := hCounter held hFound (by
        simp only [not_or, not_not] at hCurrent
        exact hCurrent.2.symm)
      have hHeld : registry.findEntity held.id = some held := findEntity_id hFound ▸ hFound
      dsimp only
      split
      · split
        · rename_i hFailed
          rw [hFailed] at hOk
          cases hOk
        · rename_i hNext
          have hCounted := counterNext_lt hNext
          exact ⟨UInt64.le_of_lt hCounted, fun h => h.uncounted hCounted⟩
      · rename_i hUnchanged
        have hInvalidated : held.invalidated = true := by
          cases hFlag : held.invalidated with
          | true => rfl
          | false => simp [hFlag] at hUnchanged
        rw [if_pos hInvalidated]
        exact ⟨UInt64.le_refl _, fun _ => .setEntity (markNonCurrent .revalidationRequired
          (reasonOr reason (txt "entity-invalidated")) none none true registry.indexes held).2
          hHeld rfl rfl rfl rfl⟩

theorem invalidateSourceIn_empty {registryGeneration : RegistryGeneration} {source : SourceId}
    {reason : ReasonToken} {indexes : Indexes} {entity : EntityState}
    (h : entity.capabilities = []) :
    (invalidateSourceIn registryGeneration source reason indexes entity).2 = entity := by
  unfold invalidateSourceIn markNonCurrent
  dsimp only
  rw [relabelEntity_empty h, h]
  rfl

/-- An invalidation of a source is counted while the counter lasts, or it shows nothing. -/
theorem invalidateSource_shows {registry : Registry} {source : SourceId} {reason : ReasonToken}
    (hCounter : source.isSet = true →
      (registry.entities.any fun entity => !entity.capabilities.isEmpty) = true →
      (counterNext registry.registryGeneration).isOk = true) :
    registry.registryGeneration ≤
        (invalidateSource registry source reason).1.registryGeneration ∧
      (Stays registry (invalidateSource registry source reason).1 →
        SameView registry (invalidateSource registry source reason).1) := by
  unfold invalidateSource
  split
  · exact ⟨UInt64.le_refl _, fun _ => .refl registry⟩
  · rename_i hSet
    have hSourceSet : source.isSet = true := by simpa using hSet
    dsimp only
    split
    · rename_i hAny
      have hCounted : registry.registryGeneration < (advanceRegistry
          (registry.visitEntities (invalidateSourceIn registry.registryGeneration source
            (reasonOr reason (txt "source-invalidated"))))
          (countInvalidated registry source)).1.registryGeneration :=
        advanceRegistry_counts rfl (hCounter hSourceSet hAny)
      exact ⟨UInt64.le_of_lt hCounted, fun h => h.uncounted hCounted⟩
    · rename_i hNone
      refine ⟨UInt64.le_refl _, fun _ => ⟨rfl, rfl, ?_⟩⟩
      have hEmpty : ∀ entity ∈ registry.entities, entity.capabilities = [] := by
        intro entity hMem
        by_contra hSome
        exact hNone (List.any_eq_true.2 ⟨entity, hMem, by simpa using hSome⟩)
      refine map_mapAccum_of_mem EntityState.view EntityState.view fun indexes entity hMem => ?_
      rw [invalidateSourceIn_empty (hEmpty entity hMem)]

/-! ## Runs -/

/-- The step shows what it changes: it creates no entity without counting it, a commit
without a semantic change finds what it publishes, and the registry generation is not
exhausted when a fence or an invalidation is to be counted. -/
def ShowsChanges (registry : Registry) : Operation → Prop
  | .publish request => showsPublication registry request = true
  | .publishBatch requests => ∀ attempt ∈ attempts registry (.publishBatch requests),
      showsPublication attempt.before attempt.request = true
  | .observeEntityGeneration entity generation _ =>
      createsObserved registry entity generation = false
  | .fenceWorkerBoot boot _ => registry.addsFence boot = true →
      (counterNext registry.registryGeneration).isOk = true
  | .invalidateEntity entity generation _ => ∀ held ∈ registry.findEntity entity,
      held.currentGeneration = generation →
        (counterNext registry.registryGeneration).isOk = true
  | .invalidateSource source _ => source.isSet = true →
      (registry.entities.any fun entity => !entity.capabilities.isEmpty) = true →
        (counterNext registry.registryGeneration).isOk = true
  | .load .. => False
  | _ => True

instance (registry : Registry) (operation : Operation) :
    Decidable (ShowsChanges registry operation) :=
  match operation with
  | .publish request => inferInstanceAs (Decidable (showsPublication registry request = true))
  | .publishBatch requests =>
      inferInstanceAs (Decidable (∀ attempt ∈ attempts registry (.publishBatch requests), _))
  | .observeEntityGeneration entity generation _ =>
      inferInstanceAs (Decidable (createsObserved registry entity generation = false))
  | .fenceWorkerBoot boot _ => inferInstanceAs (Decidable (registry.addsFence boot = true → _))
  | .invalidateEntity entity _ _ =>
      inferInstanceAs (Decidable (∀ held ∈ registry.findEntity entity, _ → _))
  | .invalidateSource source _ => inferInstanceAs (Decidable (source.isSet = true → _ → _))
  | .load .. => inferInstanceAs (Decidable False)
  | .advanceCoordinatorEpoch .. | .registerPublisher .. | .retirePublisher ..
  | .declareAuthority .. | .registerVendorDescriptor .. | .rehash .. =>
      inferInstanceAs (Decidable True)

/-- An operation that leaves the entities, the epoch, the fences and the counter alone. -/
theorem sound_of_quiet {registry after : Registry} (hEpoch : after.epoch = registry.epoch)
    (hFences : after.fencedBoots = registry.fencedBoots)
    (hCount : after.registryGeneration = registry.registryGeneration)
    (hEntities : after.entities = registry.entities) : Sound registry after where
  registryGeneration := UInt64.le_of_eq hCount.symm
  epoch := UInt64.le_of_eq hEpoch.symm
  evolves := .of_follows (Follows.of_entities EntityState.Evolves.refl hEntities)
  shows _ := ⟨hEpoch, hFences, congrArg _ hEntities⟩

/-- An operation that is no load, from what it counts and what it shows. -/
theorem sound_of_shows {registry : Registry} {operation : Operation}
    (hNoLoad : NoLoad registry operation)
    (hEpoch : registry.epoch ≤ (operation.apply registry).epoch)
    (h : registry.registryGeneration ≤ (operation.apply registry).registryGeneration ∧
      (Stays registry (operation.apply registry) → SameView registry (operation.apply registry))) :
    Sound registry (operation.apply registry) :=
  ⟨h.1, hEpoch, evolves_step hNoLoad, h.2⟩

theorem fenceWorkerBoot_epoch (registry : Registry) (boot : WorkerBootId) (reason : ReasonToken) :
    (fenceWorkerBoot registry boot reason).1.epoch = registry.epoch := by
  have hInsert : ∀ base : Registry, base.epoch = registry.epoch →
      (insertFence base boot reason).1.epoch = registry.epoch := by
    intro base hBase
    unfold insertFence
    rw [(advanceRegistry_control ..).epoch]
    exact hBase
  unfold fenceWorkerBoot
  split
  · rfl
  · split
    · rfl
    · split
      · split
        · rfl
        · exact hInsert _ rfl
      · exact hInsert _ rfl

theorem registerPublisher_quiet (registry : Registry) (publisher : PublisherId)
    (scope : AuthorityScopeId) (workerBoot : WorkerBootId) :
    Sound registry (registerPublisher registry publisher scope workerBoot).1 := by
  unfold registerPublisher
  split
  · exact sound_refl registry
  · split
    · exact sound_refl registry
    · split
      · exact sound_refl registry
      · dsimp only
        split
        · exact sound_refl registry
        · split
          · exact sound_refl registry
          · exact sound_of_quiet rfl rfl rfl rfl

theorem declareAuthority_quiet (registry : Registry) (grant : AuthorityGrant) :
    Sound registry (declareAuthority registry grant).1 := by
  unfold declareAuthority
  split
  · exact sound_refl registry
  · split
    · exact sound_of_quiet rfl rfl rfl rfl
    · split
      · exact sound_refl registry
      · exact sound_of_quiet rfl rfl rfl rfl

theorem step_sound {registry : Registry} {operation : Operation}
    (hShows : ShowsChanges registry operation) : Sound registry (operation.apply registry) := by
  cases operation with
  | publish request => exact publish_sound hShows
  | publishBatch requests =>
      exact publishBatch_preserves (P := Sound registry)
        (fun attempt hMem hBefore =>
          sound_trans _ _ _ hBefore (publish_sound (hShows attempt hMem)))
        (sound_refl registry)
  | observeEntityGeneration entity generation reason =>
      exact sound_of_shows rfl
        (UInt64.le_of_eq (observeEntityGeneration_control ..).epoch.symm)
        (observeEntityGeneration_shows hShows)
  | fenceWorkerBoot boot reason =>
      exact sound_of_shows rfl (UInt64.le_of_eq (fenceWorkerBoot_epoch ..).symm)
        (fenceWorkerBoot_shows hShows)
  | advanceCoordinatorEpoch reason =>
      obtain ⟨hCount, hEpoch, hSame⟩ := advanceCoordinatorEpoch_shows registry reason
      exact sound_of_shows rfl hEpoch ⟨hCount, hSame⟩
  | invalidateEntity entity generation reason =>
      exact sound_of_shows rfl (UInt64.le_of_eq (invalidateEntity_control ..).epoch.symm)
        (invalidateEntity_shows fun held hFound => hShows held hFound)
  | invalidateSource source reason =>
      exact sound_of_shows rfl (UInt64.le_of_eq (invalidateSource_control ..).epoch.symm)
        (invalidateSource_shows hShows)
  | registerPublisher publisher scope workerBoot => exact registerPublisher_quiet ..
  | retirePublisher publisher workerBoot =>
      rw [Operation.apply, retirePublisher]
      split
      · exact sound_refl registry
      · exact sound_of_quiet rfl rfl rfl rfl
  | declareAuthority grant => exact declareAuthority_quiet ..
  | registerVendorDescriptor descriptor =>
      rw [Operation.apply, registerVendorDescriptor]
      split
      · exact sound_refl registry
      · exact sound_of_quiet rfl rfl rfl rfl
  | load config file => exact hShows.elim
  | rehash publishers =>
      rw [Operation.apply]
      split
      · exact sound_of_quiet rfl rfl rfl rfl
      · exact sound_refl registry

/-- A scope of all entities, with no filter. -/
def SnapshotScope.everything (scope : SnapshotScope) : Bool :=
  scope.allEntities && scope.namespaces.isEmpty && scope.entityKinds.isEmpty

/-- A snapshot of everything has an entry for every entity. -/
theorem snapshot_covers {registry : Registry} {scope : SnapshotScope}
    {snapshot : CapabilitySnapshot} (hScope : scope.everything = true)
    (h : createSnapshot registry scope = .ok snapshot) :
    snapshot.registryGeneration = registry.registryGeneration ∧
      snapshot.epoch = registry.epoch ∧
      ∀ entity ∈ registry.entities, snapshotEntry entity ∈ snapshot.entities := by
  simp only [SnapshotScope.everything, Bool.and_eq_true] at hScope
  obtain ⟨⟨hAll, hNamespaces⟩, hKinds⟩ := hScope
  unfold createSnapshot at h
  dsimp only at h
  split at h
  · cases h
  · cases h
    refine ⟨rfl, rfl, fun entity hMem => List.mem_map_of_mem (List.mem_filter.2 ⟨?_, ?_⟩)⟩
    · rw [selectEntities, if_pos hAll, mem_sortBy]
      exact hMem
    · rw [inScope, hNamespaces, hKinds]
      rfl

/-- A snapshot that is current compares the same numbers. -/
theorem stays_of_current {registry later : Registry} {scope : SnapshotScope}
    {snapshot : CapabilitySnapshot} (hScope : scope.everything = true)
    (hCreate : createSnapshot registry scope = .ok snapshot)
    (hCurrent : (checkSnapshot later snapshot).current = true) : Stays registry later := by
  obtain ⟨hGeneration, hEpoch, hCovers⟩ := snapshot_covers hScope hCreate
  unfold checkSnapshot at hCurrent
  dsimp only at hCurrent
  rw [List.isEmpty_iff, List.append_eq_nil_iff, List.append_eq_nil_iff] at hCurrent
  obtain ⟨⟨hSameGeneration, hSameEpoch⟩, hEntries⟩ := hCurrent
  refine ⟨?_, ?_, fun id held hFound => ?_⟩
  · by_contra hOther
    rw [hGeneration, if_pos (Ne.symm hOther)] at hSameGeneration
    cases hSameGeneration
  · by_contra hOther
    rw [hEpoch, if_pos (Ne.symm hOther)] at hSameEpoch
    cases hSameEpoch
  · have hFresh := List.filterMap_eq_nil_iff.1 hEntries _ (hCovers held (lookup_mem hFound))
    have hId : held.id = id := findEntity_id hFound
    unfold staleEntry snapshotEntry at hFresh
    dsimp only at hFresh
    rw [hId] at hFresh
    split at hFresh
    · cases hFresh
    · rename_i record hRecord
      split at hFresh
      · cases hFresh
      · rename_i hSame
        split at hFresh
        · cases hFresh
        · rename_i hSameSet
          exact ⟨record, hRecord, Decidable.not_not.1 hSame, Decidable.not_not.1 hSameSet⟩

/-- In a run of steps that show what they change, a snapshot of everything that is found
current says so rightly: the digest of the registry is the same as when the snapshot was
created, and so is what is shown of every entity. -/
theorem current_snapshot_is_sound (options : Options) (earlier later : List Operation)
    (hRun : Guarded Operation.apply ShowsChanges (afterRun options earlier) later)
    (scope : SnapshotScope) (hScope : scope.everything = true) (snapshot : CapabilitySnapshot)
    (hCreate : createSnapshot (afterRun options earlier) scope = .ok snapshot)
    (hCurrent : (checkSnapshot (afterRun options (earlier ++ later)) snapshot).current = true) :
    (afterRun options (earlier ++ later)).computeDigest =
        (afterRun options earlier).computeDigest ∧
      ∀ id, ((afterRun options (earlier ++ later)).findEntity id).map EntityState.view =
        ((afterRun options earlier).findEntity id).map EntityState.view := by
  have hSound : Sound (afterRun options earlier) (afterRun options (earlier ++ later)) := by
    rw [afterRun, afterRun, run_append]
    exact run_rel sound_refl sound_trans (fun _ _ => step_sound) hRun
  have hSame := hSound.shows (stays_of_current hScope hCreate hCurrent)
  exact ⟨hSame.computeDigest, hSame.find⟩

/-- An entity that is observed again at the generation it has. -/
theorem observed_again_is_sound :
    let earlier : List Operation := [.observeEntityGeneration Sample.entity 1 .unset]
    let later : List Operation :=
      [.observeEntityGeneration Sample.entity 1 .unset, .declareAuthority Sample.grant]
    (afterRun {} (earlier ++ later)).computeDigest = (afterRun {} earlier).computeDigest := by
  dsimp only
  have hCurrent : (createSnapshot (afterRun {} [.observeEntityGeneration Sample.entity 1 .unset])
      {}).toOption.any (fun snapshot => (checkSnapshot (afterRun {}
        ([.observeEntityGeneration Sample.entity 1 .unset] ++
          [.observeEntityGeneration Sample.entity 1 .unset, .declareAuthority Sample.grant]))
        snapshot).current) = true := by decide +kernel
  cases hCreate : createSnapshot (afterRun {}
      [.observeEntityGeneration Sample.entity 1 .unset]) {} with
  | error e =>
      rw [hCreate] at hCurrent
      cases hCurrent
  | ok snapshot =>
      rw [hCreate] at hCurrent
      exact (current_snapshot_is_sound {} [.observeEntityGeneration Sample.entity 1 .unset]
        [.observeEntityGeneration Sample.entity 1 .unset, .declareAuthority Sample.grant]
        (by decide +kernel) {} rfl snapshot hCreate hCurrent).1

/-- The first observation of an entity counts nothing: a snapshot of the empty registry stays
current, while the digest of the registry and what exists are not the same. -/
theorem observed_entity_goes_unnoticed :
    let before := afterRun {} []
    let after := afterRun {} [.observeEntityGeneration Sample.entity 1 .unset]
    (createSnapshot before {}).toOption.any
        (fun snapshot => (checkSnapshot after snapshot).current) = true ∧
      (before.findEntity Sample.entity).isSome = false ∧
      (after.findEntity Sample.entity).isSome = true ∧
      after.computeDigest ≠ before.computeDigest := by
  decide +kernel

end FabricCapability.Ports
