import FabricCapability.Ports.Stamps
import FabricCapability.Ports.AtMostOnce
import FabricCapability.Ports.Snapshots
import FabricCapability.Ports.Queries
import FabricCapability.Ports.OptimisticLocking
import FabricCapability.Verified.Shuffles

/-!
# Publications that commute

Two publications for different entities, with two attempts that no replay record of their
publishers knows, can be exchanged: each answers what it answers alone, and the two orders leave
the same entities, up to the stamps of `Stamps`.

A publication reads the control state, its own entity, the registration of its publisher and two
sizes of the registry (`SeenAlike`).  The publication before it changes nothing of this, except
for the stamps, the replay records and the sizes.

## Main results

* `publish_alike`: a publication to registries that look alike to it.
* `publications_commute`: the two orders.
-/

namespace FabricCapability.Ports

open FabricCapability.Verified.KeyedList
open FabricCapability.Verified.StrictOrder
open FabricCapability.Verified.Shuffles (Shuffled sortBy_shuffled)

/-! ## Stages 6 and 11, up to stamps -/

theorem EntityState.resolutions_timeless (entity : EntityState) :
    entity.timeless.resolutions = entity.resolutions := by
  unfold EntityState.resolutions EntityState.timeless
  dsimp only
  rw [List.map_map]
  rfl

theorem retireGeneration_timeless (options : Options) (registryGeneration : RegistryGeneration)
    (entity : EntityState) (next : EntityGeneration) (reason : ReasonToken) :
    (retireGeneration options registryGeneration entity next reason).timeless =
      retireGeneration options 0 entity.timeless next reason := by
  obtain ⟨id, current, touched, hasSet, bound, setGeneration, invalidated, why, capabilities,
    floors, history, set⟩ := entity
  cases hasSet with
  | false => rfl
  | true =>
      cases set with
      | none => rfl
      | some set =>
          unfold retireGeneration EntityState.timeless
          simp only [Option.map_some, Option.map_none, List.map_nil, List.map_take,
            List.map_cons]
          rfl

theorem publishedEntity_timeless (registryGeneration : RegistryGeneration)
    (entity : EntityState) :
    (publishedEntity registryGeneration entity).timeless = publishedEntity 0 entity.timeless := by
  have hResolutions := entity.resolutions_timeless
  unfold EntityState.resolutions EntityState.timeless at hResolutions
  unfold publishedEntity materialize EntityState.resolutions EntityState.timeless
    EntityCapabilitySet.timeless
  dsimp only at hResolutions ⊢
  rw [hResolutions]
  rfl

theorem raiseFloor_timeless (entity : EntityState) (request : PublicationRequest) :
    (entity.raiseFloor request).timeless = entity.timeless.raiseFloor request := rfl

theorem buildDiff_timeless (entity : EntityId) (before after : Option EntityCapabilitySet) :
    buildDiff entity (before.map EntityCapabilitySet.timeless)
      (after.map EntityCapabilitySet.timeless) = buildDiff entity before after := by
  cases before with
  | none => cases after <;> rfl
  | some before => cases after <;> rfl

theorem checkPreconditions_timeless (entity : EntityState) (request : PublicationRequest) :
    checkPreconditions entity.timeless request = checkPreconditions entity request := rfl

theorem semanticChange_timeless (before : Option EntityCapabilitySet) (entity : EntityState) :
    semanticChange (before.map EntityCapabilitySet.timeless) entity.timeless =
      semanticChange before entity := by
  cases before with
  | none => rfl
  | some before =>
      unfold semanticChange
      rw [entity.resolutions_timeless]
      rfl

/-! ## Results, up to stamps -/

/-- The field of an explanation that names the registry generation. -/
def ExplanationStep.timeless (step : ExplanationStep) : ExplanationStep :=
  { step with fields := step.fields.filter fun field => field.1 ≠ txt "registry_generation" }

def Explanation.timeless (explanation : Explanation) : Explanation :=
  { explanation with steps := explanation.steps.map ExplanationStep.timeless }

def PublicationResult.timeless (result : PublicationResult) : PublicationResult :=
  { result with
    registryGeneration := 0
    explanation := result.explanation.timeless }

theorem committedResult_timeless {registry later : Registry} (request : PublicationRequest)
    {before before' : Option EntityCapabilitySet} {entity entity' : EntityState}
    (steps : List ApplyStep) (changed : Bool)
    (hBefore : before.map EntityCapabilitySet.timeless =
      before'.map EntityCapabilitySet.timeless)
    (hEntity : entity.timeless = entity'.timeless) :
    (committedResult registry request before entity steps changed).timeless =
      (committedResult later request before' entity' steps changed).timeless := by
  have hId : entity.id = entity'.id :=
    eq_of_erased EntityState.timeless EntityState.id (fun _ => rfl) hEntity
  have hSetGeneration : entity.setGeneration = entity'.setGeneration :=
    eq_of_erased EntityState.timeless EntityState.setGeneration (fun _ => rfl) hEntity
  have hSet : entity.set.map EntityCapabilitySet.timeless =
      entity'.set.map EntityCapabilitySet.timeless := congrArg EntityState.set hEntity
  have hDiff : buildDiff entity.id before entity.set =
      buildDiff entity'.id before' entity'.set := by
    rw [← buildDiff_timeless, hBefore, hSet, hId, buildDiff_timeless]
  have hErased : ∀ set : Option EntityCapabilitySet,
      ((set.map EntityCapabilitySet.timeless).map (·.setGeneration)) = set.map (·.setGeneration) ∧
        ((set.map EntityCapabilitySet.timeless).map (·.digest)) = set.map (·.digest) := by
    intro set
    cases set <;> exact ⟨rfl, rfl⟩
  have hPrevious : before.map (·.setGeneration) = before'.map (·.setGeneration) := by
    rw [← (hErased before).1, hBefore, (hErased before').1]
  have hDigest : entity.set.map (·.digest) = entity'.set.map (·.digest) := by
    rw [← (hErased entity.set).2, hSet, (hErased entity'.set).2]
  unfold committedResult PublicationResult.timeless committedExplanation Explanation.timeless
    ExplanationStep.timeless blankResult makeStep
  dsimp only
  rw [hDiff, hPrevious, hDigest, hSetGeneration]
  rfl

/-! ## What a publication looks at -/

/-- What a publication reads of the publisher that sends it, but for the replay records. -/
def Registry.credentials (registry : Registry) (key : PublisherKey) :
    Option (Bool × PublisherRegistration) :=
  (registry.findRuntime key).map fun runtime => (runtime.active, runtime.registration)

/-- There is room for the entity of the request and for two generations. -/
structure HasRoom (registry : Registry) (request : PublicationRequest) : Prop where
  entities : registry.findEntity request.entity = none →
    registry.entities.length < registry.options.maxEntities
  generations : registry.registryGeneration.toNat + 2 < 2 ^ 64

/-- The request is new to the registry and there is room for what it does. -/
structure Takes (registry : Registry) (request : PublicationRequest) : Prop where
  fresh : ¬Recalls request.publisherKey request.attempt registry
  room : HasRoom registry request

/-- Two registries look alike to a request. -/
structure SeenAlike (request : PublicationRequest) (a b : Registry) : Prop where
  control : SameControl a b
  credentials : b.credentials request.publisherKey = a.credentials request.publisherKey
  entity : (b.findEntity request.entity).map EntityState.timeless =
    (a.findEntity request.entity).map EntityState.timeless

/-! ## Validation -/

theorem classifyAttempt_fresh {registry : Registry} {request : PublicationRequest}
    {runtime : PublisherRuntime} (contentDigest : Bytes)
    (hFound : registry.findRuntime request.publisherKey = some runtime)
    (hFresh : ¬Recalls request.publisherKey request.attempt registry) :
    classifyAttempt runtime request contentDigest = .ok none := by
  have hNew : ∀ record ∈ runtime.replay, record.attempt ≠ request.attempt :=
    fun record hMem hAttempt => hFresh ⟨runtime, hFound, record, hMem, hAttempt⟩
  unfold classifyAttempt
  cases hLast : runtime.replay.getLast? with
  | none => rfl
  | some latest =>
      have hOther : ¬(runtime.replay.any fun record =>
          record.attempt = request.attempt) = true := by
        simpa using hNew
      dsimp only
      rw [if_neg (hNew latest (List.mem_of_getLast? hLast)), if_neg hOther]

theorem checkPublisher_alike {a b : Registry} {request : PublicationRequest}
    (hSeen : SeenAlike request a b) :
    (checkPublisher b request).map (fun _ => ()) =
      (checkPublisher a request).map fun _ => () := by
  have hCredentials := hSeen.credentials
  unfold Registry.credentials at hCredentials
  unfold checkPublisher
  rw [hSeen.control.fencedBoots, hSeen.control.epoch]
  split
  · rfl
  · cases hThere : b.findRuntime request.publisherKey with
    | none =>
        cases hHere : a.findRuntime request.publisherKey with
        | none => rfl
        | some runtime =>
            rw [hThere, hHere] at hCredentials
            cases hCredentials
    | some runtime =>
        cases hHere : a.findRuntime request.publisherKey with
        | none =>
            rw [hThere, hHere] at hCredentials
            cases hCredentials
        | some other =>
            rw [hThere, hHere] at hCredentials
            obtain ⟨hActive, hRegistration⟩ := Prod.mk.inj (Option.some.inj hCredentials)
            dsimp only
            rw [hActive, hRegistration]
            split
            · rfl
            · split
              · rfl
              · split <;> rfl

/-- Stages 1 to 5 find the same grant, or the same objection. -/
theorem validateRequest_alike {a b : Registry} {request : PublicationRequest}
    (hSeen : SeenAlike request a b) :
    (validateRequest b request).map Prod.snd = (validateRequest a request).map Prod.snd := by
  have hPublisher := checkPublisher_alike hSeen
  have hEpoch : checkEpoch b request = checkEpoch a request := by
    unfold checkEpoch
    rw [hSeen.control.epoch]
  have hGrant : checkGrant b request = checkGrant a request := by
    unfold checkGrant Registry.findGrant
    rw [hSeen.control.authorities]
  unfold validateRequest
  rw [hEpoch, hGrant, hSeen.control.schema]
  cases checkShape request with
  | error e => rfl
  | ok u =>
      cases checkEpoch a request with
      | error e => rfl
      | ok u =>
          generalize checkPublisher b request = there at hPublisher ⊢
          generalize checkPublisher a request = here at hPublisher ⊢
          cases there with
          | error e =>
              cases here with
              | error e' =>
                  cases hPublisher
                  rfl
              | ok runtime => cases hPublisher
          | ok runtime =>
              cases here with
              | error e => cases hPublisher
              | ok other =>
                  cases checkGrant a request with
                  | error e => rfl
                  | ok grant =>
                      show ((checkClaims a.schema grant [] request.claims >>= fun _ =>
                          checkEdits a.schema grant request.edits >>= fun _ =>
                            Except.ok (runtime, grant)).map Prod.snd : Outcome AuthorityGrant) =
                        (checkClaims a.schema grant [] request.claims >>= fun _ =>
                          checkEdits a.schema grant request.edits >>= fun _ =>
                            Except.ok (other, grant)).map Prod.snd
                      cases checkClaims a.schema grant [] request.claims with
                      | error e => rfl
                      | ok u => cases checkEdits a.schema grant request.edits <;> rfl

/-! ## Binding -/

theorem counterNext_of_room {generation : UInt64} (h : generation.toNat + 1 < 2 ^ 64) :
    counterNext generation = .ok (generation + 1) := by
  have hNotLast : generation ≠ 0xFFFFFFFFFFFFFFFF := by
    intro hLast
    rw [hLast] at h
    exact absurd h (by decide)
  exact counterNext_eq_ok hNotLast

section Alike

variable {a b : Registry} {request : PublicationRequest}

theorem bindGeneration_alike (hControl : SameControl a b) (hHere : HasRoom a request)
    (hThere : HasRoom b request) {here there : EntityState}
    (hEntity : there.timeless = here.timeless) :
    (bindGeneration b request there).2.map EntityState.timeless =
      (bindGeneration a request here).2.map EntityState.timeless := by
  have hCurrent : there.currentGeneration = here.currentGeneration :=
    eq_of_erased EntityState.timeless EntityState.currentGeneration (fun _ => rfl) hEntity
  have hHereNext := counterNext_of_room (Nat.lt_of_succ_lt hHere.generations)
  have hThereNext := counterNext_of_room (Nat.lt_of_succ_lt hThere.generations)
  have hRetired : ∀ (registry : Registry) (entity : EntityState) (stamp : RegistryGeneration),
      ({ retireGeneration registry.options registry.registryGeneration entity
          request.entityGeneration (makeReason (txt "superseded-by-fabric-registry")) with
        touchedAt := stamp } : EntityState).timeless =
      retireGeneration registry.options 0 entity.timeless request.entityGeneration
        (makeReason (txt "superseded-by-fabric-registry")) :=
    fun registry entity _ => retireGeneration_timeless registry.options
      registry.registryGeneration entity request.entityGeneration _
  unfold bindGeneration
  rw [hCurrent]
  split
  · rfl
  · split
    · dsimp only
      rw [hHereNext, hThereNext]
      have hSame : retireGeneration b.options 0 there.timeless request.entityGeneration
          (makeReason (txt "superseded-by-fabric-registry")) =
          retireGeneration a.options 0 here.timeless request.entityGeneration
            (makeReason (txt "superseded-by-fabric-registry")) := by
        rw [hEntity, hControl.options]
      exact congrArg Except.ok ((hRetired b there _).trans (hSame.trans (hRetired a here _).symm))
    · exact congrArg Except.ok hEntity

/-- An entity that was just created is bound already. -/
theorem bindGeneration_new (registry : Registry) (request : PublicationRequest)
    (stamp : RegistryGeneration) :
    bindGeneration registry request (newEntity stamp request.entity request.entityGeneration) =
      (registry, .ok (newEntity stamp request.entity request.entityGeneration)) := by
  have hCurrent : ¬(request.entityGeneration <
      (newEntity stamp request.entity request.entityGeneration).currentGeneration) :=
    UInt64.lt_irrefl _
  have hNotAbove : ¬(request.entityGeneration >
      (newEntity stamp request.entity request.entityGeneration).currentGeneration) :=
    UInt64.lt_irrefl _
  unfold bindGeneration
  rw [if_neg hCurrent, if_neg hNotAbove]

theorem bindEntity_alike (hSeen : SeenAlike request a b) (hHere : HasRoom a request)
    (hThere : HasRoom b request) :
    (bindEntity b request).2.map EntityState.timeless =
      (bindEntity a request).2.map EntityState.timeless := by
  have hEntity := hSeen.entity
  unfold bindEntity
  cases hFound : a.findEntity request.entity with
  | some here =>
      cases hOther : b.findEntity request.entity with
      | none =>
          rw [hFound, hOther] at hEntity
          cases hEntity
      | some there =>
          rw [hFound, hOther] at hEntity
          exact bindGeneration_alike hSeen.control hHere hThere (Option.some.inj hEntity)
  | none =>
      cases hOther : b.findEntity request.entity with
      | some there =>
          rw [hFound, hOther] at hEntity
          cases hEntity
      | none =>
          have hHereSize := hHere.entities hFound
          have hThereSize := hThere.entities hOther
          dsimp only
          rw [if_neg (Nat.not_le.2 hHereSize), if_neg (Nat.not_le.2 hThereSize),
            bindGeneration_new, bindGeneration_new]
          rfl

/-- Stage 6 leaves room for the generation of the commit. -/
theorem bindEntity_generation (hRoom : HasRoom a request) :
    (bindEntity a request).1.registryGeneration.toNat + 1 < 2 ^ 64 := by
  have hGenerations := hRoom.generations
  have hBound : ∀ (registry : Registry) (entity : EntityState),
      registry.registryGeneration = a.registryGeneration →
        (bindGeneration registry request entity).1.registryGeneration.toNat + 1 < 2 ^ 64 := by
    intro registry entity hSame
    unfold bindGeneration
    split
    · rw [hSame]
      omega
    · split
      · dsimp only
        split
        · show registry.registryGeneration.toNat + 1 < 2 ^ 64
          rw [hSame]
          omega
        · rename_i next hNext
          have hToNat := toNat_of_counterNext hNext
          rw [hSame] at hToNat
          show next.toNat + 1 < 2 ^ 64
          omega
      · rw [hSame]
        omega
  unfold bindEntity
  split
  · exact hBound _ _ rfl
  · split
    · show a.registryGeneration.toNat + 1 < 2 ^ 64
      omega
    · exact hBound _ _ rfl

/-! ## The end of a publication -/

/-- Two ends of a publication that differ in stamps. -/
structure EndsAlike (request : PublicationRequest)
    (a b : Registry × Outcome PublicationResult) : Prop where
  outcome : b.2.map PublicationResult.timeless = a.2.map PublicationResult.timeless
  entity : (b.1.findEntity request.entity).map EntityState.timeless =
    (a.1.findEntity request.entity).map EntityState.timeless

theorem reject_alike (hEntity : (b.findEntity request.entity).map EntityState.timeless =
      (a.findEntity request.entity).map EntityState.timeless) (e : Error) :
    EndsAlike request (reject a request e) (reject b request e) where
  outcome := rfl
  entity := by
    have hFound : ∀ registry : Registry, (reject registry request e).1.findEntity request.entity =
        registry.findEntity request.entity := by
      intro registry
      rw [reject_registry]
      rfl
    rw [hFound, hFound]
    exact hEntity

theorem commit_ends_alike {before before' : Option EntityCapabilitySet} {here there : EntityState}
    (steps : List ApplyStep) (contentDigest : Bytes) (hId : here.id = request.entity)
    (hHere : a.registryGeneration.toNat + 1 < 2 ^ 64)
    (hThere : b.registryGeneration.toNat + 1 < 2 ^ 64)
    (hHereFound : a.findEntity request.entity = some here)
    (hThereFound : b.findEntity request.entity = some there)
    (hBefore : before'.map EntityCapabilitySet.timeless =
      before.map EntityCapabilitySet.timeless)
    (hEntity : there.timeless = here.timeless) :
    EndsAlike request (commit a request before here steps contentDigest)
      (commit b request before' there steps contentDigest) := by
  have hOtherId : there.id = here.id :=
    eq_of_erased EntityState.timeless EntityState.id (fun _ => rfl) hEntity
  have hSetGeneration : there.setGeneration = here.setGeneration :=
    eq_of_erased EntityState.timeless EntityState.setGeneration (fun _ => rfl) hEntity
  have hChanged : semanticChange before' there = semanticChange before here := by
    rw [← semanticChange_timeless, hBefore, hEntity, semanticChange_timeless]
  -- What an end that commits writes, whatever the stamps are.
  have hCommitted : ∀ (first second : Registry) (x y : EntityState) (changed : Bool),
      x.timeless = y.timeless → y.id = request.entity →
      EndsAlike request
        (let entity := publishedEntity first.registryGeneration y
          let result := committedResult first request before entity steps changed
          let replay : ReplayRecord :=
            { attempt := request.attempt, publication := request.publication, contentDigest }
          let registry := first.registerReplay request.publisherKey replay
          let registry := registry.setEntity (entity.raiseFloor request)
          (registry.recordJournal (journalEntry result), .ok result))
        (let entity := publishedEntity second.registryGeneration x
          let result := committedResult second request before' entity steps changed
          let replay : ReplayRecord :=
            { attempt := request.attempt, publication := request.publication, contentDigest }
          let registry := second.registerReplay request.publisherKey replay
          let registry := registry.setEntity (entity.raiseFloor request)
          (registry.recordJournal (journalEntry result), .ok result)) := by
    intro first second x y changed hSame hYId
    have hXId : x.id = request.entity :=
      (eq_of_erased EntityState.timeless EntityState.id (fun _ => rfl) hSame).trans hYId
    have hWritten : ∀ (registry : Registry) (entity : EntityState) (stamp : RegistryGeneration),
        entity.id = request.entity →
        (registry.setEntity ((publishedEntity stamp entity).raiseFloor request)).findEntity
            request.entity = some ((publishedEntity stamp entity).raiseFloor request) :=
      fun _ _ _ h => findEntity_setEntity h
    have hPublished : (publishedEntity second.registryGeneration x).timeless =
        (publishedEntity first.registryGeneration y).timeless := by
      rw [publishedEntity_timeless, publishedEntity_timeless, hSame]
    constructor
    · exact congrArg Except.ok (committedResult_timeless request steps changed hBefore hPublished)
    · show ((Registry.setEntity _ _).findEntity request.entity).map EntityState.timeless =
        ((Registry.setEntity _ _).findEntity request.entity).map EntityState.timeless
      rw [hWritten _ x _ hXId, hWritten _ y _ hYId, Option.map_some, Option.map_some,
        raiseFloor_timeless, raiseFloor_timeless, hPublished]
  unfold commit
  dsimp only
  rw [hChanged]
  unfold advanceGenerations
  rw [hSetGeneration]
  generalize semanticChange before here = changed
  cases changed with
  | false => exact hCommitted _ _ _ _ _ hEntity hId
  | true =>
      cases hNext : counterNext here.setGeneration with
      | error e =>
          refine ⟨rfl, ?_⟩
          show (b.findEntity request.entity).map EntityState.timeless =
            (a.findEntity request.entity).map EntityState.timeless
          rw [hThereFound, hHereFound, Option.map_some, Option.map_some, hEntity]
      | ok next =>
          have hAdvanced : ({ there with setGeneration := next } : EntityState).timeless =
              ({ here with setGeneration := next } : EntityState).timeless :=
            congrArg (fun entity : EntityState => { entity with setGeneration := next }) hEntity
          dsimp only
          rw [if_pos rfl, if_pos rfl, counterNext_of_room hHere, counterNext_of_room hThere]
          exact hCommitted _ _ _ _ _ hAdvanced hId

theorem applyRequest_alike {here there : EntityState} (hControl : SameControl a b)
    (hId : here.id = request.entity) (hEntity : there.timeless = here.timeless)
    (steps : List ApplyStep) :
    ((applyRequest b request there steps).1.findEntity request.entity).map EntityState.timeless =
        ((applyRequest a request here steps).1.findEntity request.entity).map
          EntityState.timeless ∧
      (applyRequest b request there steps).2.map EntityState.timeless =
        (applyRequest a request here steps).2.map EntityState.timeless := by
  obtain ⟨hRan, hOutcome⟩ :
      (runSteps a request (a.cell here) steps).1.entity.timeless =
          (runSteps b request (b.cell there) steps).1.entity.timeless ∧
        (runSteps a request (a.cell here) steps).2 =
          (runSteps b request (b.cell there) steps).2 :=
    runSteps_timeless hControl hEntity.symm
  have hHereId : (runSteps a request (a.cell here) steps).1.entity.id = request.entity :=
    (runSteps_entity a request steps (a.cell here)).id_eq.trans hId
  have hThereId : (runSteps b request (b.cell there) steps).1.entity.id = request.entity :=
    (eq_of_erased EntityState.timeless EntityState.id (fun _ => rfl) hRan.symm).trans hHereId
  have hWritten : ∀ (registry : Registry) (cell : Cell), cell.entity.id = request.entity →
      (registry.setCell cell).findEntity request.entity = some cell.entity :=
    fun _ _ h => findEntity_setEntity h
  unfold applyRequest
  dsimp only
  rw [hWritten _ _ hHereId, hWritten _ _ hThereId, Option.map_some, Option.map_some, hRan,
    hOutcome]
  refine ⟨rfl, ?_⟩
  cases (runSteps b request (b.cell there) steps).2 with
  | error e => rfl
  | ok u => exact congrArg Except.ok hRan.symm

/-- A refusal of stage 6 leaves everything as it was. -/
theorem bindEntity_refused (hRoom : HasRoom a request) {bound : Registry} {refusal : Refusal}
    (h : bindEntity a request = (bound, .error refusal)) : bound = a := by
  have hNext := counterNext_of_room (Nat.lt_of_succ_lt hRoom.generations)
  unfold bindEntity at h
  cases hFound : a.findEntity request.entity with
  | some held =>
      rw [hFound] at h
      dsimp only at h
      unfold bindGeneration at h
      split at h
      · cases h
        rfl
      · split at h
        · dsimp only at h
          rw [hNext] at h
          cases h
        · cases h
  | none =>
      rw [hFound] at h
      dsimp only at h
      split at h
      · cases h
        rfl
      · rw [bindGeneration_new] at h
        cases h

theorem SameControl.symm (h : SameControl a b) : SameControl b a where
  options := h.options.symm
  schema := h.schema.symm
  epoch := h.epoch.symm
  authorities := h.authorities.symm
  fencedBoots := h.fencedBoots.symm
  fences := h.fences.symm

/-- Stages 7 to 11, for an attempt that is new. -/
theorem publishBound_alike {bound bound' : Registry} {runtime other : PublisherRuntime}
    {grant : AuthorityGrant} {here there : EntityState} (hControl : SameControl bound bound')
    (hGeneration : bound.registryGeneration.toNat + 1 < 2 ^ 64)
    (hOtherGeneration : bound'.registryGeneration.toNat + 1 < 2 ^ 64)
    (hBindHere : bindEntity a request = (bound, .ok here))
    (hBindThere : bindEntity b request = (bound', .ok there))
    (hEntity : there.timeless = here.timeless)
    (hNew : classifyAttempt runtime request (requestContentDigest request grant).toText =
      .ok none)
    (hOtherNew : classifyAttempt other request (requestContentDigest request grant).toText =
      .ok none) :
    EndsAlike request (publishBound bound request runtime grant here)
      (publishBound bound' request other grant there) := by
  obtain ⟨hId, -, hFound, -⟩ := bindEntity_ok hBindHere
  obtain ⟨-, -, hOtherFound, -⟩ := bindEntity_ok hBindThere
  have hBound : (bound'.findEntity request.entity).map EntityState.timeless =
      (bound.findEntity request.entity).map EntityState.timeless := by
    rw [hFound, hOtherFound, Option.map_some, Option.map_some, hEntity]
  have hChecks : checkPreconditions there request = checkPreconditions here request := by
    rw [← checkPreconditions_timeless, hEntity, checkPreconditions_timeless]
  have hSet : there.set.map EntityCapabilitySet.timeless =
      here.set.map EntityCapabilitySet.timeless := congrArg EntityState.set hEntity
  unfold publishBound
  dsimp only
  rw [hNew, hOtherNew]
  dsimp only
  rw [hChecks]
  cases checkPreconditions here request with
  | error e => exact reject_alike hBound e
  | ok u =>
      dsimp only
      rw [hControl.schema]
      obtain ⟨hAppliedEntity, hApplied⟩ := @applyRequest_alike _ _ request _ _ hControl hId
        hEntity (applySteps bound.schema grant request)
      cases hApplyHere : applyRequest bound request here (applySteps bound.schema grant request)
        with
      | mk applied outcome =>
      cases hApplyThere : applyRequest bound' request there
        (applySteps bound.schema grant request) with
      | mk applied' outcome' =>
      rw [hApplyHere, hApplyThere] at hAppliedEntity hApplied
      dsimp only at hAppliedEntity hApplied ⊢
      cases outcome with
      | error e =>
          cases outcome' with
          | ok entity => cases hApplied
          | error e' =>
              obtain rfl : e' = e := Except.error.inj hApplied
              exact reject_alike hAppliedEntity e'
      | ok published =>
          cases outcome' with
          | error e => cases hApplied
          | ok published' =>
              have hPublished : published'.timeless = published.timeless :=
                Except.ok.inj hApplied
              have hPublishedId : published.id = request.entity :=
                (applyRequest_entity hApplyHere).1.id_eq.trans hId
              have hOtherId : published'.id = request.entity :=
                (eq_of_erased EntityState.timeless EntityState.id (fun _ => rfl)
                  hPublished).trans hPublishedId
              have hAppliedGeneration : applied.registryGeneration = bound.registryGeneration := by
                rw [(applyRequest_entity hApplyHere).2.1]
                rfl
              have hOtherApplied : applied'.registryGeneration = bound'.registryGeneration := by
                rw [(applyRequest_entity hApplyThere).2.1]
                rfl
              exact commit_ends_alike _ _ hPublishedId (hAppliedGeneration ▸ hGeneration)
                (hOtherApplied ▸ hOtherGeneration)
                (hPublishedId ▸ applyRequest_found hApplyHere)
                (hOtherId ▸ applyRequest_found hApplyThere) hSet hPublished

/-- A publication answers registries alike that look alike to it, and leaves its entity alike
in them. -/
theorem publish_alike (hSeen : SeenAlike request a b) (hHere : Takes a request)
    (hThere : Takes b request) :
    EndsAlike request (publish a request) (publish b request) := by
  have hValid := validateRequest_alike hSeen
  unfold publish
  cases hValidHere : validateRequest a request with
  | error e =>
      cases hValidThere : validateRequest b request with
      | ok found =>
          rw [hValidHere, hValidThere] at hValid
          cases hValid
      | error e' =>
          rw [hValidHere, hValidThere] at hValid
          cases hValid
          exact reject_alike hSeen.entity e
  | ok found =>
      obtain ⟨runtime, grant⟩ := found
      cases hValidThere : validateRequest b request with
      | error e =>
          rw [hValidHere, hValidThere] at hValid
          cases hValid
      | ok found =>
          obtain ⟨other, grant'⟩ := found
          rw [hValidHere, hValidThere] at hValid
          obtain rfl : grant' = grant := Except.ok.inj hValid
          have hBind := bindEntity_alike hSeen hHere.room hThere.room
          have hControl : SameControl (bindEntity a request).1 (bindEntity b request).1 :=
            (bindEntity_control a request).symm.trans
              (hSeen.control.trans (bindEntity_control b request))
          have hGeneration := bindEntity_generation hHere.room
          have hOtherGeneration := bindEntity_generation hThere.room
          cases hBindHere : bindEntity a request with
          | mk bound outcome =>
          cases hBindThere : bindEntity b request with
          | mk bound' outcome' =>
          rw [hBindHere] at hBind hControl hGeneration
          rw [hBindThere] at hBind hControl hOtherGeneration
          dsimp only at hBind hControl hGeneration hOtherGeneration ⊢
          cases outcome with
          | error refusal =>
              cases outcome' with
              | ok entity => cases hBind
              | error refusal' =>
                  obtain rfl : refusal' = refusal := Except.error.inj hBind
                  obtain rfl := bindEntity_refused hHere.room hBindHere
                  obtain rfl := bindEntity_refused hThere.room hBindThere
                  cases refusal' with
                  | rejected e => exact reject_alike hSeen.entity e
                  | failed e => exact ⟨rfl, hSeen.entity⟩
          | ok here =>
              cases outcome' with
              | error refusal => cases hBind
              | ok there =>
                  have hEntity : there.timeless = here.timeless := Except.ok.inj hBind
                  exact publishBound_alike hControl hGeneration hOtherGeneration hBindHere
                    hBindThere hEntity
                    (classifyAttempt_fresh _ (validateRequest_ok hValidHere).registered hHere.fresh)
                    (classifyAttempt_fresh _ (validateRequest_ok hValidThere).registered
                      hThere.fresh)

end Alike

/-! ## What a publication leaves for the next one -/

/-- Two updates under one key. -/
theorem upsert_again {α κ : Type} [DecidableEq κ] {key : α → κ} {a b : α} {xs : List α}
    (hKey : key b = key a) : upsert key a (upsert key b xs) = upsert key a xs := by
  induction xs with
  | nil => simp [upsert, hKey]
  | cons x xs ih =>
      by_cases hX : key x = key a
      · simp [upsert, hX, hKey]
      · simp [upsert, hX, hKey, ih]

section Frame

variable (registry : Registry) (request : PublicationRequest)

/-- Stage 6 adds at most one entity, and one generation. -/
theorem bindEntity_sizes :
    (bindEntity registry request).1.entities.length ≤ registry.entities.length + 1 ∧
      (bindEntity registry request).1.registryGeneration.toNat ≤
        registry.registryGeneration.toNat + 1 := by
  have hGeneration : ∀ (held : Registry) (entity : EntityState),
      held.registryGeneration = registry.registryGeneration →
      (bindGeneration held request entity).1.registryGeneration.toNat ≤
        registry.registryGeneration.toNat + 1 := by
    intro held entity hSame
    unfold bindGeneration
    split
    · rw [hSame]
      omega
    · split
      · dsimp only
        split
        · show held.registryGeneration.toNat ≤ _
          rw [hSame]
          omega
        · rename_i next hNext
          rw [hSame] at hNext
          exact Nat.le_of_eq (toNat_of_counterNext hNext)
      · rw [hSame]
        omega
  have hLength : ∀ entity : EntityState,
      (bindGeneration registry request entity).1.entities.length ≤
        registry.entities.length + 1 := by
    intro entity
    unfold bindGeneration
    split
    · exact Nat.le_succ _
    · split
      · dsimp only
        split <;> exact length_upsert_le
      · exact Nat.le_succ _
  unfold bindEntity
  split
  · exact ⟨hLength _, hGeneration _ _ rfl⟩
  · split
    · exact ⟨Nat.le_succ _, Nat.le_succ _⟩
    · refine ⟨?_, hGeneration _ _ rfl⟩
      dsimp only
      rw [bindGeneration_new]
      exact Nat.le_of_eq (List.length_append ..)

theorem commit_generation (before : Option EntityCapabilitySet) (entity : EntityState)
    (steps : List ApplyStep) (contentDigest : Bytes) :
    (commit registry request before entity steps contentDigest).1.registryGeneration.toNat ≤
      registry.registryGeneration.toNat + 1 := by
  have hAdvance : ∀ changed,
      (advanceGenerations registry entity changed).1.registryGeneration.toNat ≤
        registry.registryGeneration.toNat + 1 := by
    intro changed
    unfold advanceGenerations
    split
    · split
      · exact Nat.le_succ _
      · dsimp only
        split
        · exact Nat.le_succ _
        · rename_i next hNext
          exact Nat.le_of_eq (toNat_of_counterNext hNext)
    · exact Nat.le_succ _
  have hChanged := hAdvance (semanticChange before entity)
  unfold commit
  dsimp only
  generalize advanceGenerations registry entity (semanticChange before entity) = advanced
    at hChanged ⊢
  obtain ⟨advanced, outcome⟩ := advanced
  cases outcome <;> exact hChanged

theorem publish_generation :
    (publish registry request).1.registryGeneration.toNat ≤
      registry.registryGeneration.toNat + 2 := by
  have hBind := (bindEntity_sizes registry request).2
  refine publish_preserves (P := fun later => later.registryGeneration.toNat ≤
    registry.registryGeneration.toNat + 2) (fun _ _ h => h) (fun _ _ _ => by omega)
    (fun _ _ _ _ _ _ _ h => h) ?_ (by omega)
  intro runtime grant bound entity applied published _ hBinds _ hApply _
  have hCommit := commit_generation applied request entity.set published
    (applySteps bound.schema grant request) (requestContentDigest request grant).toText
  have hApplied : applied.registryGeneration = bound.registryGeneration := by
    rw [(applyRequest_entity hApply).2.1]
    rfl
  rw [hBinds] at hBind
  dsimp only at hBind
  rw [hApplied] at hCommit
  omega

variable {registry request}

/-- At most one entity was written. -/
def WritesOne (id : EntityId) (before later : Registry) : Prop :=
  later.entities = before.entities ∨
    ∃ entity, entity.id = id ∧
      later.entities = upsert EntityState.id entity before.entities

theorem WritesOne.setEntity {id : EntityId} {before later : Registry}
    (h : WritesOne id before later) {entity : EntityState} (hId : entity.id = id) :
    WritesOne id before (later.setEntity entity) := by
  right
  refine ⟨entity, hId, ?_⟩
  unfold Registry.setEntity
  dsimp only
  rcases h with hSame | ⟨written, hWritten, hSame⟩
  · rw [hSame]
  · rw [hSame, upsert_again (hWritten.trans hId.symm)]

theorem bindEntity_writes : WritesOne request.entity registry (bindEntity registry request).1 := by
  unfold bindEntity
  split
  · rename_i held hFound
    have hId : held.id = request.entity := findEntity_id hFound
    unfold bindGeneration
    split
    · exact .inl rfl
    · split
      · dsimp only
        split
        · exact WritesOne.setEntity (.inl rfl) hId
        · exact @WritesOne.setEntity _ registry { registry with registryGeneration := _ }
            (.inl rfl) _ hId
      · exact .inl rfl
  · rename_i hMissing
    split
    · exact .inl rfl
    · dsimp only
      rw [bindGeneration_new]
      have hNew : lookup EntityState.id (newEntity registry.registryGeneration request.entity
          request.entityGeneration).id registry.entities = none := hMissing
      exact .inr ⟨_, rfl, (upsert_of_missing hNew).symm⟩

theorem commit_writes {before : Registry} {entity : EntityState}
    (h : WritesOne request.entity before registry) (hId : entity.id = request.entity)
    (set : Option EntityCapabilitySet) (steps : List ApplyStep) (contentDigest : Bytes) :
    WritesOne request.entity before
      (commit registry request set entity steps contentDigest).1 := by
  have hWritten : ∀ (later : Registry) (written : EntityState),
      later.entities = registry.entities → written.id = request.entity →
        WritesOne request.entity before (later.setEntity written) := by
    intro later written hSame hWrittenId
    refine WritesOne.setEntity ?_ hWrittenId
    unfold WritesOne
    rw [hSame]
    exact h
  unfold commit advanceGenerations
  dsimp only
  split
  · rename_i hEq
    split at hEq
    · split at hEq
      · cases hEq
        exact h
      · split at hEq
        · cases hEq
          exact hWritten _ _ rfl hId
        · cases hEq
    · cases hEq
  · rename_i hEq
    split at hEq
    · split at hEq
      · cases hEq
      · split at hEq
        · cases hEq
        · cases hEq
          exact hWritten (Registry.registerReplay _ _ _) _ rfl hId
    · cases hEq
      exact hWritten (Registry.registerReplay _ _ _) _ rfl hId

/-- A publication writes one entity at most, its own. -/
theorem publish_writes : WritesOne request.entity registry (publish registry request).1 := by
  refine publish_preserves (P := WritesOne request.entity registry) (fun _ _ h => h)
    (fun _ _ _ => bindEntity_writes) ?_ ?_ (.inl rfl)
  · intro runtime grant bound entity _ hBinds _ h
    have hId : (runSteps bound request (bound.cell entity)
        (applySteps bound.schema grant request)).1.entity.id = request.entity :=
      (runSteps_entity bound request _ (bound.cell entity)).id_eq.trans (bindEntity_ok hBinds).1
    exact @WritesOne.setEntity _ registry { bound with indexes := _, arrivalSequence := _ } h _
      hId
  · intro runtime grant bound entity applied published _ hBinds _ hApply h
    exact commit_writes h
      ((applyRequest_entity hApply).1.id_eq.trans (bindEntity_ok hBinds).1) _ _ _

variable (registry request)

/-- A publication leaves the publishers as they are, but for a replay record of its attempt. -/
theorem publish_credentials (key : PublisherKey) :
    (publish registry request).1.credentials key = registry.credentials key := by
  have hSame : ∀ later : Registry, later.publishers = registry.publishers →
      later.credentials key = registry.credentials key := by
    intro later h
    unfold Registry.credentials
    rw [findRuntime_of_publishers h]
  cases hCommitted : (Attempt.mk registry request).committed with
  | false => exact hSame _ (uncommitted_publishers hCommitted)
  | true =>
      obtain ⟨result, ⟨c⟩⟩ := Attempt.committed_stages hCommitted
      unfold Registry.credentials
      rw [show (publish registry request).1 = (Attempt.mk registry request).after from rfl,
        findRuntime_of_publishers c.publishers, findRuntime_registerReplay, Option.map_map]
      congr 1
      funext runtime
      dsimp only [Function.comp]
      split <;> rfl

theorem publish_recalls {key : PublisherKey} {attempt : MutationAttemptId}
    (h : Recalls key attempt (publish registry request).1) :
    Recalls key attempt registry ∨ attempt = request.attempt := by
  cases hCommitted : (Attempt.mk registry request).committed with
  | false => exact .inl (recalls_of_publishers (uncommitted_publishers hCommitted).symm h)
  | true =>
      obtain ⟨result, ⟨c⟩⟩ := Attempt.committed_stages hCommitted
      obtain ⟨runtime, hFound, record, hMem, hAttempt⟩ := h
      rw [show (publish registry request).1 = (Attempt.mk registry request).after from rfl,
        findRuntime_of_publishers c.publishers, findRuntime_registerReplay] at hFound
      obtain ⟨held, hHeld, hRuntime⟩ := Option.map_eq_some_iff.1 hFound
      rw [← hRuntime] at hMem
      have hKept : ∀ record ∈ held.replay, record.attempt = attempt →
          Recalls key attempt registry :=
        fun record hMem hAttempt => ⟨held, hHeld, record, hMem, hAttempt⟩
      split at hMem
      · unfold rememberIn at hMem
        rcases List.mem_append.1 hMem with hOld | hNew
        · left
          split at hOld
          · exact hKept record (List.mem_of_mem_tail hOld) hAttempt
          · exact hKept record hOld hAttempt
        · right
          rw [← hAttempt, List.mem_singleton.1 hNew]
          rfl
      · exact .inl (hKept record hMem hAttempt)

end Frame

/-! ## The digest of the registry -/

/-- The list with one entity written, if there is one. -/
def placed (entity : Option EntityState) (entities : List EntityState) : List EntityState :=
  match entity with
  | none => entities
  | some entity => upsert EntityState.id entity entities

theorem publish_placed (registry : Registry) (request : PublicationRequest) :
    (publish registry request).1.entities =
      placed ((publish registry request).1.findEntity request.entity) registry.entities := by
  unfold Registry.findEntity
  rcases @publish_writes registry request with hSame | ⟨entity, hId, hSame⟩
  · rw [hSame]
    cases hFound : lookup EntityState.id request.entity registry.entities with
    | none => rfl
    | some entity => exact (upsert_lookup hFound).symm
  · have hFound : lookup EntityState.id request.entity (publish registry request).1.entities =
        some entity := by
      rw [hSame, ← hId]
      exact lookup_upsert_self
    rw [hFound, hSame]
    rfl

theorem map_placed (entity : Option EntityState) (entities : List EntityState) :
    (placed entity entities).map EntityState.timeless =
      placed (entity.map EntityState.timeless) (entities.map EntityState.timeless) := by
  cases entity with
  | none => rfl
  | some entity =>
      have hImage : (upsert EntityState.id entity entities).map EntityState.timeless =
          upsert EntityState.id entity.timeless (entities.map EntityState.timeless) :=
        upsert_image fun _ => rfl
      exact hImage

/-- Entities with different identifiers, written in either order. -/
theorem placed_shuffled {a b : Option EntityState}
    (hNe : ∀ x ∈ a, ∀ y ∈ b, x.id ≠ y.id) (entities : List EntityState) :
    Shuffled (fun x y : EntityState => x.id ≠ y.id) (placed a (placed b entities))
      (placed b (placed a entities)) := by
  cases a with
  | none => exact .refl _
  | some x =>
      cases b with
      | none => exact .refl _
      | some y =>
          have hKeys : x.id ≠ y.id := hNe x rfl y rfl
          exact Verified.Shuffles.upsert_upsert hKeys hKeys.symm entities

theorem entityFields_timeless (entity : EntityState) :
    entityFields entity.timeless = entityFields entity := by
  obtain ⟨id, current, touched, hasSet, bound, setGeneration, invalidated, why, capabilities,
    floors, history, set⟩ := entity
  unfold entityFields EntityState.setDigest EntityState.timeless
  dsimp only
  rw [List.length_map, List.flatMap_map]
  cases set <;> rfl

/-- The digest does not look at stamps, nor at the order of the entities. -/
theorem computeDigest_alike {a b : Registry} (hControl : SameControl a b)
    (h : Shuffled (fun x y : EntityState => x.id ≠ y.id)
      (b.entities.map EntityState.timeless) (a.entities.map EntityState.timeless)) :
    b.computeDigest = a.computeDigest := by
  have hOrder : StrictWeak fun x y : EntityState => x.id.lt y.id :=
    bytesLt_total.comap fun entity : EntityState => entity.id.toText
  have hSorted := sortBy_shuffled hOrder (fun x y hNe => by
    by_contra hNeither
    rw [not_or, Bool.not_eq_true, Bool.not_eq_true] at hNeither
    exact hNe (EntityId.toText_injective
      (bytesLt_total.eq_of_not_lt _ _ hNeither.1 hNeither.2))) h
  have hTimeless : ∀ entities : List EntityState,
      sortBy (fun x y : EntityState => x.id.lt y.id) (entities.map EntityState.timeless) =
        (sortBy (fun x y : EntityState => x.id.lt y.id) entities).map EntityState.timeless :=
    fun entities => (map_sortBy (f := EntityState.timeless) (fun _ _ => rfl) entities).symm
  rw [hTimeless, hTimeless] at hSorted
  have hLength := congrArg List.length hSorted
  rw [List.length_map, List.length_map] at hLength
  have hFields := congrArg (fun entities => entities.flatMap entityFields) hSorted
  rw [List.flatMap_map, List.flatMap_map] at hFields
  simp only [entityFields_timeless] at hFields
  unfold Registry.computeDigest
  dsimp only
  rw [hLength, hFields, hControl.epoch, hControl.fencedBoots]

/-! ## Queries -/

/-- An answer without the registry generation that it names. -/
def CapabilityQueryResult.timeless (answer : CapabilityQueryResult) : CapabilityQueryResult :=
  { answer with registryGeneration := 0 }

section Queries

variable {a b : Registry}

theorem explainResolution_timeless (record : EntityState) (entry : CapabilityEntry) :
    explainResolution (some record.timeless) (some entry.timeless) =
      explainResolution (some record) (some entry) := by
  unfold explainResolution CapabilityEntry.timeless
  dsimp only
  rw [filter_timeless fun _ => rfl, ← List.map_take, List.map_map, List.length_map]
  rfl

theorem answerEntry_timeless (blank : CapabilityQueryResult) (record : EntityState)
    (entry : CapabilityEntry) :
    answerEntry blank record.timeless entry.timeless = answerEntry blank record entry := by
  unfold answerEntry
  rw [explainResolution_timeless]
  unfold CapabilityEntry.timeless
  dsimp only
  rw [List.map_map]
  rfl

/-- `Query` in registries whose entity is the same up to stamps. -/
theorem query_alike {entity : EntityId} (capability : CapabilityId)
    (h : (b.findEntity entity).map EntityState.timeless =
      (a.findEntity entity).map EntityState.timeless) :
    (query b entity capability).timeless = (query a entity capability).timeless := by
  unfold query
  dsimp only
  cases hHere : a.findEntity entity with
  | none =>
      cases hThere : b.findEntity entity with
      | none => rfl
      | some other =>
          rw [hHere, hThere] at h
          cases h
  | some record =>
      cases hThere : b.findEntity entity with
      | none =>
          rw [hHere, hThere] at h
          cases h
      | some other =>
          rw [hHere, hThere] at h
          have hSame : other.timeless = record.timeless := Option.some.inj h
          have hCurrent := eq_of_erased EntityState.timeless EntityState.currentGeneration
            (fun _ => rfl) hSame
          have hSetGeneration := eq_of_erased EntityState.timeless EntityState.setGeneration
            (fun _ => rfl) hSame
          have hInvalidated := eq_of_erased EntityState.timeless EntityState.invalidated
            (fun _ => rfl) hSame
          have hReason := eq_of_erased EntityState.timeless EntityState.invalidationReason
            (fun _ => rfl) hSame
          have hFound : (other.findCapability capability).map CapabilityEntry.timeless =
              (record.findCapability capability).map CapabilityEntry.timeless := by
            rw [← findCapability_timeless, ← findCapability_timeless, hSame]
          have hNothing : ∀ blank : CapabilityQueryResult,
              answerNothing blank other capability = answerNothing blank record capability := by
            intro blank
            have hStep : invalidatedStep other = invalidatedStep record := by
              unfold invalidatedStep
              rw [hReason]
            unfold answerNothing
            rw [hCurrent, hInvalidated, hStep]
          dsimp only
          rw [hCurrent, hSetGeneration]
          cases hEntry : record.findCapability capability with
          | none =>
              cases hOther : other.findCapability capability with
              | some entry =>
                  rw [hEntry, hOther] at hFound
                  cases hFound
              | none =>
                  dsimp only
                  rw [hNothing]
                  rfl
          | some entry =>
              cases hOther : other.findCapability capability with
              | none =>
                  rw [hEntry, hOther] at hFound
                  cases hFound
              | some entry' =>
                  rw [hEntry, hOther] at hFound
                  have hEntries : entry'.timeless = entry.timeless := Option.some.inj hFound
                  have hResolution : entry'.resolution = entry.resolution :=
                    eq_of_erased CapabilityEntry.timeless CapabilityEntry.resolution
                      (fun _ => rfl) hEntries
                  dsimp only
                  rw [hResolution]
                  split
                  · have hAnswer : ∀ blank : CapabilityQueryResult,
                        answerEntry blank other entry' = answerEntry blank record entry := by
                      intro blank
                      rw [← answerEntry_timeless, hSame, hEntries, answerEntry_timeless]
                    rw [hAnswer]
                    rfl
                  · rw [hNothing]
                    rfl

/-- `QueryEntity` in registries whose entity is the same up to stamps. -/
theorem queryEntity_alike {entity : EntityId}
    (h : (b.findEntity entity).map EntityState.timeless =
      (a.findEntity entity).map EntityState.timeless) :
    (queryEntity b entity).map EntityCapabilitySet.timeless =
      (queryEntity a entity).map EntityCapabilitySet.timeless := by
  have hAnswer : ∀ registry : Registry,
      (queryEntity registry entity).map EntityCapabilitySet.timeless =
        match (registry.findEntity entity).map EntityState.timeless with
        | none => unknownEntity entity
        | some record => .ok (record.set.getD (emptySet 0 record)) := by
    intro registry
    unfold queryEntity
    cases registry.findEntity entity with
    | none => rfl
    | some record =>
        obtain ⟨id, current, touched, hasSet, bound, setGeneration, invalidated, why,
          capabilities, floors, history, set⟩ := record
        cases set <;> rfl
  rw [hAnswer, hAnswer, h]

end Queries

/-! ## Two publications -/

section Two

variable {registry : Registry} {first second : PublicationRequest}

/-- The registry has room for both publications, and has seen neither attempt. -/
structure TakesBoth (registry : Registry) (first second : PublicationRequest) : Prop where
  entities : first.entity ≠ second.entity
  attempts : first.attempt ≠ second.attempt
  firstFresh : ¬Recalls first.publisherKey first.attempt registry
  secondFresh : ¬Recalls second.publisherKey second.attempt registry
  room : registry.entities.length + 1 < registry.options.maxEntities
  generations : registry.registryGeneration.toNat + 4 < 2 ^ 64

theorem TakesBoth.symm (h : TakesBoth registry first second) :
    TakesBoth registry second first :=
  ⟨h.entities.symm, h.attempts.symm, h.secondFresh, h.firstFresh, h.room, h.generations⟩

theorem TakesBoth.takes (h : TakesBoth registry first second) : Takes registry second := by
  have hRoom := h.room
  have hGenerations := h.generations
  exact ⟨h.secondFresh, fun _ => by omega, by omega⟩

/-- The publication that came first took neither the room nor the attempt of the other. -/
theorem TakesBoth.takes_after (h : TakesBoth registry first second) :
    Takes (publish registry first).1 second := by
  have hRoom := h.room
  have hGenerations := h.generations
  have hGeneration := publish_generation registry first
  have hLength : (publish registry first).1.entities.length ≤ registry.entities.length + 1 := by
    rcases @publish_writes registry first with hSame | ⟨entity, -, hSame⟩
    · rw [hSame]
      omega
    · rw [hSame]
      exact length_upsert_le
  refine ⟨fun hRecalls => ?_, fun _ => ?_, by omega⟩
  · rcases publish_recalls registry first hRecalls with hOld | hSame
    · exact h.secondFresh hOld
    · exact h.attempts hSame.symm
  · rw [(publish_control registry first).options]
    omega

theorem TakesBoth.seenAlike (h : TakesBoth registry first second) :
    SeenAlike second registry (publish registry first).1 where
  control := publish_control registry first
  credentials := publish_credentials registry first _
  entity := by rw [publish_other registry h.entities]

/-- A publication after another one for another entity answers as it does alone. -/
theorem TakesBoth.alike (h : TakesBoth registry first second) :
    EndsAlike second (publish registry second) (publish (publish registry first).1 second) :=
  publish_alike h.seenAlike h.takes h.takes_after

/-- The two orders leave the same entities, up to stamps. -/
theorem TakesBoth.entity_alike (h : TakesBoth registry first second) (id : EntityId) :
    ((publish (publish registry first).1 second).1.findEntity id).map EntityState.timeless =
      ((publish (publish registry second).1 first).1.findEntity id).map
        EntityState.timeless := by
  by_cases hFirst : first.entity = id
  · have hSecond : second.entity ≠ id := fun hSame => h.entities (hFirst.trans hSame.symm)
    rw [publish_other _ hSecond, ← hFirst]
    exact h.symm.alike.entity.symm
  · by_cases hSecond : second.entity = id
    · rw [publish_other _ hFirst, ← hSecond]
      exact h.alike.entity
    · rw [publish_other _ hSecond, publish_other _ hFirst, publish_other _ hFirst,
        publish_other _ hSecond]

theorem TakesBoth.shuffled (h : TakesBoth registry first second) :
    Shuffled (fun x y : EntityState => x.id ≠ y.id)
      ((publish (publish registry first).1 second).1.entities.map EntityState.timeless)
      ((publish (publish registry second).1 first).1.entities.map EntityState.timeless) := by
  have hFirst := h.symm.alike.entity
  have hSecond := h.alike.entity
  rw [publish_placed, publish_placed registry first, map_placed, map_placed, hSecond,
    publish_placed (publish registry second).1, publish_placed registry second, map_placed,
    map_placed, hFirst]
  refine placed_shuffled ?_ _
  intro x hX y hY hSame
  obtain ⟨x', hFoundX, rfl⟩ := Option.map_eq_some_iff.1 hX
  obtain ⟨y', hFoundY, rfl⟩ := Option.map_eq_some_iff.1 hY
  have hIdX : x'.id = second.entity := findEntity_id hFoundX
  have hIdY : y'.id = first.entity := findEntity_id hFoundY
  exact h.entities (hIdY.symm.trans (hSame.symm.trans hIdX))

theorem TakesBoth.computeDigest (h : TakesBoth registry first second) :
    (publish (publish registry first).1 second).1.computeDigest =
      (publish (publish registry second).1 first).1.computeDigest := by
  refine computeDigest_alike ?_ h.shuffled
  exact ((publish_control registry second).trans (publish_control _ first)).symm.trans
    ((publish_control registry first).trans (publish_control _ second))

/-- Publications for different entities, with attempts that are new, commute: each answers what
it answers alone, and the two orders leave registries with one digest that answer every query
alike, but for registry generations. -/
theorem publications_commute (h : TakesBoth registry first second) :
    (publish (publish registry first).1 second).2.map PublicationResult.timeless =
        (publish registry second).2.map PublicationResult.timeless ∧
      (publish (publish registry second).1 first).2.map PublicationResult.timeless =
        (publish registry first).2.map PublicationResult.timeless ∧
      (publish (publish registry first).1 second).1.computeDigest =
        (publish (publish registry second).1 first).1.computeDigest ∧
      (∀ entity capability,
        (query (publish (publish registry first).1 second).1 entity capability).timeless =
          (query (publish (publish registry second).1 first).1 entity capability).timeless) ∧
      ∀ entity,
        (queryEntity (publish (publish registry first).1 second).1 entity).map
            EntityCapabilitySet.timeless =
          (queryEntity (publish (publish registry second).1 first).1 entity).map
            EntityCapabilitySet.timeless := by
  refine ⟨h.alike.outcome, h.symm.alike.outcome, h.computeDigest, ?_, ?_⟩
  · exact fun entity capability => query_alike capability (h.entity_alike entity)
  · exact fun entity => queryEntity_alike (h.entity_alike entity)

end Two

namespace Sample

def otherLeaf : EntityId := (EntityId.parse (txt "switch:leaf-2")).toOption.getD .unset

def leafOne : PublicationRequest := publication bootOne "attempt-1" 1 0 (claim .supported .durable)

def leafTwo : PublicationRequest :=
  { publication bootOne "attempt-2" 1 0 (claim .unsupported .durable) with entity := otherLeaf }

theorem setup_fresh (attempt : MutationAttemptId) :
    ¬Recalls ⟨publisher, bootOne⟩ attempt (afterRun {} setup) := by
  have hEmpty : ((afterRun {} setup).findRuntime ⟨publisher, bootOne⟩).map
      PublisherRuntime.replay = some [] := by decide +kernel
  rintro ⟨runtime, hFound, record, hMem, -⟩
  rw [hFound] at hEmpty
  rw [show runtime.replay = [] from Option.some.inj hEmpty] at hMem
  cases hMem

theorem takes_leaves : TakesBoth (afterRun {} setup) leafOne leafTwo where
  entities := by decide +kernel
  attempts := by decide +kernel
  firstFresh := setup_fresh _
  secondFresh := setup_fresh _
  room := by decide +kernel
  generations := by decide +kernel

end Sample

/-- Two switches that one publisher describes, in either order. -/
theorem two_leaves_commute :
    TakesBoth (afterRun {} Sample.setup) Sample.leafOne Sample.leafTwo ∧
      (publish (publish (afterRun {} Sample.setup) Sample.leafOne).1
          Sample.leafTwo).1.computeDigest =
        (publish (publish (afterRun {} Sample.setup) Sample.leafTwo).1
          Sample.leafOne).1.computeDigest :=
  ⟨Sample.takes_leaves, (publications_commute Sample.takes_leaves).2.2.1⟩

end FabricCapability.Ports
