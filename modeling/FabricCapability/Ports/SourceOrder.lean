import FabricCapability.Ports.OptimisticLocking
import FabricCapability.Ports.Restart

/-!
# Source order

A publication carries a source generation, and an entity keeps for each publishing
identity, a source inside a worker boot, the highest one it committed as the floor of the
identity.  While an entity generation lasts its floors never fall: publications raise them,
the other operations leave them alone, and a restart stores and loads them.  So the source
generations of the committed publications of an identity are ordered as they were
committed.

A run here may restart: the registry is saved and goes on as a fresh registry that loaded
the file.  A restart whose save or load fails is not taken.

## Main results

* `floors_rule`: no operation lowers a floor.
* `restart_rises`: neither does a restart.
* `source_generations_ordered`: runs with restarts.
-/

namespace FabricCapability.Ports

open FabricCapability.Verified.KeyedList
open FabricCapability.Verified.Runs
open FabricCapability.Verified.StrictOrder

/-! ## Floors -/

def FloorsRise (a b : EntityState) : Prop := ∀ key, a.floorOf key ≤ b.floorOf key

/-- No identity has two floors. -/
def EntityState.FloorsDistinct (entity : EntityState) : Prop :=
  (entity.sourceHighWater.map Prod.fst).Nodup

theorem floorsRise_refl (entity : EntityState) : FloorsRise entity entity :=
  fun _ => UInt64.le_refl _

theorem floorsRise_trans (a b c : EntityState) (hab : FloorsRise a b) (hbc : FloorsRise b c) :
    FloorsRise a c :=
  fun key => UInt64.le_trans (hab key) (hbc key)

theorem floorsRise_of_eq {a b : EntityState} (h : b.sourceHighWater = a.sourceHighWater) :
    FloorsRise a b := by
  intro key
  rw [EntityState.floorOf, EntityState.floorOf, EntityState.sourceFloor,
    EntityState.sourceFloor, h]
  exact UInt64.le_refl _

/-- The floor that a publication of the identity leaves. -/
def raisedFloor (entity : EntityState) (request : PublicationRequest) : SourceGeneration :=
  if request.authority.sourceGeneration > entity.floorOf request.sourceKey then
    request.authority.sourceGeneration
  else entity.floorOf request.sourceKey

theorem floorOf_raiseFloor_self (entity : EntityState) (request : PublicationRequest) :
    (entity.raiseFloor request).floorOf request.sourceKey = raisedFloor entity request := by
  have hFound : lookup Prod.fst request.sourceKey (upsert Prod.fst
      (request.sourceKey, raisedFloor entity request) entity.sourceHighWater) =
        some (request.sourceKey, raisedFloor entity request) :=
    lookup_upsert_self (a := (request.sourceKey, raisedFloor entity request))
  show ((lookup Prod.fst request.sourceKey (upsert Prod.fst
    (request.sourceKey, raisedFloor entity request) entity.sourceHighWater)).map
      Prod.snd).getD 0 = _
  rw [hFound]
  rfl

theorem floorOf_raiseFloor_ne (entity : EntityState) (request : PublicationRequest)
    {key : SourceKey} (h : request.sourceKey ≠ key) :
    (entity.raiseFloor request).floorOf key = entity.floorOf key := by
  have hFound : lookup Prod.fst key (upsert Prod.fst
      (request.sourceKey, raisedFloor entity request) entity.sourceHighWater) =
        lookup Prod.fst key entity.sourceHighWater := lookup_upsert_ne h
  show ((lookup Prod.fst key (upsert Prod.fst
    (request.sourceKey, raisedFloor entity request) entity.sourceHighWater)).map
      Prod.snd).getD 0 = _
  rw [hFound]
  rfl

theorem le_raisedFloor (entity : EntityState) (request : PublicationRequest) :
    entity.floorOf request.sourceKey ≤ raisedFloor entity request ∧
      request.authority.sourceGeneration ≤ raisedFloor entity request := by
  unfold raisedFloor
  split
  · rename_i hAbove
    exact ⟨UInt64.le_of_lt hAbove, UInt64.le_refl _⟩
  · rename_i hNotAbove
    exact ⟨UInt64.le_refl _, UInt64.not_lt.1 hNotAbove⟩

theorem raiseFloor_rises (entity : EntityState) (request : PublicationRequest) :
    FloorsRise entity (entity.raiseFloor request) := by
  intro key
  by_cases hKey : request.sourceKey = key
  · rw [← hKey, floorOf_raiseFloor_self]
    exact (le_raisedFloor entity request).1
  · rw [floorOf_raiseFloor_ne entity request hKey]
    exact UInt64.le_refl _

theorem committedEntity_rises {entity next : EntityState}
    (registryGeneration : RegistryGeneration) (request : PublicationRequest)
    (h : next = { entity with setGeneration := next.setGeneration }) :
    FloorsRise entity (committedEntity registryGeneration next request) := by
  refine floorsRise_trans _ _ _ (floorsRise_of_eq ?_) (raiseFloor_rises _ request)
  rw [h]
  rfl

/-- No operation lowers a floor while the entity generation lasts. -/
theorem floors_rule : EntityRule (WhileGeneration FloorsRise) :=
  EntityRule.whileGeneration
    (PublishRule.whileGeneration floorsRise_refl floorsRise_trans
      (fun _ _ _ => floorsRise_of_eq rfl)
      fun _ _ _ _ request hAdvance =>
        committedEntity_rises _ request (advanceGenerations_ok hAdvance).2.1)
    (fun _ _ _ _ _ => floorsRise_of_eq rfl) (fun _ _ => floorsRise_of_eq rfl)
    fun _ _ _ => floorsRise_of_eq rfl

/-- Every operation keeps the floors of an entity distinct. -/
theorem floorsDistinct_rule :
    EntityRule fun a b => a.FloorsDistinct → b.FloorsDistinct where
  refl _ := id
  trans _ _ _ hab hbc := hbc ∘ hab
  retired _ _ _ _ _ _ _ _ := List.nodup_nil
  exhausted _ _ _ := id
  committed _ _ entity next request hAdvance hDistinct := by
    refine nodup_upsert ?_
    show (next.sourceHighWater.map Prod.fst).Nodup
    rw [(advanceGenerations_ok hAdvance).2.1]
    exact hDistinct
  observed _ _ _ _ := id
  relabelled _ _ _ _ _ := id
  flagged _ _ := id
  refreshed _ _ _ := id

theorem sameEntity_floors {a b : EntityState} (h : SameEntity a b) :
    b.sourceHighWater = a.sourceHighWater := by
  rw [h]

/-! ## Registries -/

/-- What a restart relies on: identifiers and floors are distinct. -/
structure Registry.Tidy (registry : Registry) : Prop where
  entities : registry.Distinct
  floors : ∀ entity ∈ registry.entities, entity.FloorsDistinct

/-- Every entity of `a` is in `b`, and its floors rose while its generation lasts. -/
def Rises (a b : Registry) : Prop :=
  ∀ id held, a.findEntity id = some held →
    ∃ later, b.findEntity id = some later ∧ WhileGeneration FloorsRise held later

theorem rises_refl (registry : Registry) : Rises registry registry :=
  fun _ held hFound => ⟨held, hFound, .inr ⟨rfl, floorsRise_refl held⟩⟩

theorem rises_trans (a b c : Registry) (hab : Rises a b) (hbc : Rises b c) : Rises a c := by
  intro id held hFound
  obtain ⟨mid, hMid, hFirst⟩ := hab id held hFound
  obtain ⟨later, hLater, hSecond⟩ := hbc id mid hMid
  exact ⟨later, hLater, WhileGeneration.trans floorsRise_trans hFirst hSecond⟩

theorem publish_rises (registry : Registry) (request : PublicationRequest) :
    Rises registry (publish registry request).1 := by
  have hApply : AppliesWithin (WhileGeneration FloorsRise) registry request := by
    intro _ grant bound entity _ _ _
    have hSame := runSteps_entity bound request (applySteps bound.schema grant request)
      (bound.cell entity)
    exact .inr ⟨hSame.currentGeneration_eq.symm, floorsRise_of_eq (sameEntity_floors hSame)⟩
  intro id held hFound
  exact (publish_follows floors_rule.toPublishRule hApply).find hFound

theorem step_rises {registry : Registry} {operation : Operation}
    (h : NoLoad registry operation) : Rises registry (operation.apply registry) := by
  intro id held hFound
  refine (step_follows floors_rule (fun attempt _ => ?_) h).find hFound
  intro _ grant bound entity _ _ _
  have hSame := runSteps_entity bound attempt.request
    (applySteps bound.schema grant attempt.request) (bound.cell entity)
  exact .inr ⟨hSame.currentGeneration_eq.symm, floorsRise_of_eq (sameEntity_floors hSame)⟩

theorem step_tidy {registry : Registry} {operation : Operation}
    (h : NoLoad registry operation) (hTidy : registry.Tidy) :
    (operation.apply registry).Tidy := by
  have hFollows : Follows (fun a b => a.FloorsDistinct → b.FloorsDistinct) registry
      (operation.apply registry) := by
    refine step_follows floorsDistinct_rule (fun attempt _ => ?_) h
    intro _ grant bound entity _ _ _ hDistinct
    have hSame := runSteps_entity bound attempt.request
      (applySteps bound.schema grant attempt.request) (bound.cell entity)
    rwa [EntityState.FloorsDistinct, sameEntity_floors hSame]
  exact ⟨hFollows.distinct hTidy.entities,
    hFollows.invariant (fun _ _ _ _ => List.nodup_nil) hTidy.floors⟩

/-! ## Restarts -/

/-- The stored form of a floor. -/
def storedFloor (floor : SourceKey × SourceGeneration) : StoredSourceFloor :=
  { source := floor.1.source, workerBoot := floor.1.boot, generation := floor.2 }

theorem loadFloors_nodup {floors : List (SourceKey × SourceGeneration)}
    (h : (floors.map Prod.fst).Nodup) (stored : List StoredSourceFloor) :
    ((loadFloors floors stored).map Prod.fst).Nodup := by
  induction stored generalizing floors with
  | nil => exact h
  | cons floor stored ih =>
      rw [loadFloors]
      split
      · exact ih (nodup_upsert h)
      · exact ih h

/-- Floors that are stored and complete are loaded as they were. -/
theorem loadFloors_stored {loaded floors : List (SourceKey × SourceGeneration)}
    (hDistinct : ((loaded ++ floors).map Prod.fst).Nodup)
    (hComplete : ∀ floor ∈ floors, (storedFloor floor).complete = true) :
    loadFloors loaded (floors.map storedFloor) = loaded ++ floors := by
  induction floors generalizing loaded with
  | nil => rw [List.map_nil, loadFloors, List.append_nil]
  | cons floor floors ih =>
      have hSet : (storedFloor floor).source.isSet = true := by
        have h := hComplete floor (List.mem_cons_self ..)
        rw [StoredSourceFloor.complete, Bool.and_eq_true] at h
        exact h.1
      have hMissing : lookup Prod.fst floor.1 loaded = none := by
        rw [lookup_eq_none]
        intro hMem
        rw [List.map_append, List.nodup_append] at hDistinct
        exact hDistinct.2.2 _ hMem _ (List.mem_map_of_mem (List.mem_cons_self ..)) rfl
      have hAppend : loaded ++ floor :: floors = (loaded ++ [floor]) ++ floors := by simp
      rw [List.map_cons, loadFloors, if_pos hSet, hAppend]
      rw [hAppend] at hDistinct
      have hUpsert : upsert Prod.fst floor loaded = loaded ++ [floor] :=
        upsert_of_missing hMissing
      have hRest := ih hDistinct fun other hMem =>
        hComplete other (List.mem_cons_of_mem _ hMem)
      rw [← hUpsert] at hRest ⊢
      exact hRest

/-- A restart keeps the generation and the floors of an entity. -/
theorem RestartOf.rises {source loaded : Registry} (h : RestartOf source loaded)
    (hTidy : source.Tidy) : Rises source loaded := by
  intro id held hFound
  obtain ⟨registryGeneration, loading, stored, hLoaded, hReread⟩ :=
    h.find hTidy.entities hFound
  have hDistinct := hTidy.floors held (lookup_mem hFound)
  have hPerm := sortBy_perm
    (fun a b : SourceKey × SourceGeneration => a.1.lt b.1) held.sourceHighWater
  have hSorted := (hPerm.map Prod.fst).nodup_iff.2 hDistinct
  have hFloors : stored.sourceFloors = held.storedFloors := by
    rw [hReread.fields]
    rfl
  have hKept : (loadEntity registryGeneration loading stored).2.sourceHighWater =
      sortBy (fun a b => a.1.lt b.1) held.sourceHighWater := by
    show loadFloors [] stored.sourceFloors = _
    rw [hFloors]
    exact @loadFloors_stored [] _ hSorted fun floor hMem =>
      hReread.floors _ (List.mem_map_of_mem hMem)
  refine ⟨_, hLoaded, .inr ⟨?_, fun key => UInt64.le_of_eq ?_⟩⟩
  · show held.currentGeneration = stored.currentGeneration
    rw [hReread.fields]
    rfl
  · rw [EntityState.floorOf, EntityState.floorOf, EntityState.sourceFloor,
      EntityState.sourceFloor, hKept, lookup_perm hDistinct hPerm.symm]

theorem RestartOf.tidy {source loaded : Registry} (h : RestartOf source loaded)
    (hDistinct : source.Distinct) : loaded.Tidy := by
  refine ⟨h.map_id.nodup_iff.2 hDistinct, fun entity hMem => ?_⟩
  obtain ⟨target, payload, -, rfl⟩ := h
  obtain ⟨loading, stored, -, rfl⟩ := mem_mapAccum hMem
  have hNil : (([] : List (SourceKey × SourceGeneration)).map Prod.fst).Nodup :=
    List.nodup_nil
  exact loadFloors_nodup hNil stored.sourceFloors

/-! ## Runs with restarts -/

/-- The registry is saved, and the run goes on in a fresh registry with the given options
that loaded the file. -/
def restartRegistry (registry : Registry) (options : Options) (config : PersistenceConfig) :
    Registry :=
  match save registry with
  | .error _ => registry
  | .ok (file, _) =>
      match load (Registry.init options) config (some file) with
      | (_, .error _) => registry
      | (loaded, .ok _) => loaded

theorem restartRegistry_cases (registry : Registry) (options : Options)
    (config : PersistenceConfig) :
    restartRegistry registry options config = registry ∨
      RestartOf registry (restartRegistry registry options config) := by
  unfold restartRegistry
  split
  · exact .inl rfl
  · rename_i file saved hSave
    split
    · exact .inl rfl
    · rename_i loaded report hLoad
      exact .inr (restartOf_of_load hSave hLoad)

theorem restart_rises {registry : Registry} (options : Options) (config : PersistenceConfig)
    (hTidy : registry.Tidy) : Rises registry (restartRegistry registry options config) := by
  rcases restartRegistry_cases registry options config with hSame | hRestart
  · rw [hSame]
    exact rises_refl registry
  · exact hRestart.rises hTidy

/-- A call, or a restart. -/
inductive RunStep where
  | call (operation : Operation)
  | restart (options : Options) (config : PersistenceConfig)

namespace RunStep

def apply (registry : Registry) : RunStep → Registry
  | call operation => operation.apply registry
  | restart options config => restartRegistry registry options config

def attempts (registry : Registry) : RunStep → List Attempt
  | call operation => Ports.attempts registry operation
  | restart .. => []

/-- The only loads are those of restarts. -/
def Continues (registry : Registry) : RunStep → Prop
  | call operation => NoLoad registry operation
  | restart .. => True

end RunStep

theorem runStep_tidy {registry : Registry} {step : RunStep} (h : step.Continues registry)
    (hTidy : registry.Tidy) : (step.apply registry).Tidy := by
  cases step with
  | call operation => exact step_tidy h hTidy
  | restart options config =>
      rw [RunStep.apply]
      rcases restartRegistry_cases registry options config with hSame | hRestart
      · rw [hSame]
        exact hTidy
      · exact hRestart.tidy hTidy.entities

theorem runStep_rises {registry : Registry} {step : RunStep} (h : step.Continues registry)
    (hTidy : registry.Tidy) : Rises registry (step.apply registry) := by
  cases step with
  | call operation => exact step_rises h
  | restart options config => exact restart_rises options config hTidy

/-! ## Two committed publications -/

/-- A committed publication leaves a floor that is at least its source generation. -/
theorem committed_floor {registry after : Registry} {request : PublicationRequest}
    {result : PublicationResult} (c : Committed registry request after result) :
    ∃ entity, after.findEntity request.entity = some entity ∧
      entity.currentGeneration = request.entityGeneration ∧
      request.authority.sourceGeneration ≤ entity.floorOf request.sourceKey := by
  obtain ⟨registryGeneration, next, hFound, -, hGeneration, -⟩ := c.entity_after
  refine ⟨_, hFound, hGeneration, ?_⟩
  rw [committedEntity, floorOf_raiseFloor_self]
  exact (le_raisedFloor _ request).2

/-- A publication that commits later was not below the floor that the first one left. -/
theorem committed_in_order {first second : Attempt} (hRises : Rises first.after second.before)
    (hFirst : first.committed = true) (hSecond : second.committed = true)
    (hEntity : first.request.entity = second.request.entity)
    (hGeneration : first.request.entityGeneration = second.request.entityGeneration)
    (hSource : first.request.sourceKey = second.request.sourceKey) :
    first.request.authority.sourceGeneration ≤ second.request.authority.sourceGeneration := by
  obtain ⟨_, ⟨hFirstStages⟩⟩ := first.committed_stages hFirst
  obtain ⟨_, ⟨hSecondStages⟩⟩ := second.committed_stages hSecond
  obtain ⟨entity, hFound, hCurrent, hFloor⟩ := committed_floor hFirstStages
  obtain ⟨later, hLater, hWhile⟩ := hRises _ entity hFound
  have hNotBelow : second.request.entityGeneration ≤ later.currentGeneration := by
    rw [← hGeneration, ← hCurrent]
    rcases hWhile with hAbove | ⟨hSame, -⟩
    · exact UInt64.le_of_lt hAbove
    · exact UInt64.le_of_eq hSame
  have hBound := hSecondStages.entity_before (hEntity ▸ hLater) hNotBelow
  obtain ⟨-, hBoundGeneration, -⟩ := bindEntity_ok hSecondStages.binds
  rw [hBound] at hBoundGeneration
  rcases hWhile with hAbove | ⟨-, hRise⟩
  · rw [hCurrent, hGeneration, ← hBoundGeneration] at hAbove
    exact absurd hAbove (UInt64.lt_irrefl _)
  · have hChecked := checkPreconditions_floor hSecondStages.checked
    rw [hBound, ← hSource] at hChecked
    exact UInt64.le_trans hFloor (UInt64.le_trans (hRise _) hChecked)

/-- Source order.  In a run of operations and restarts, the source generations of the
publications that commit for one entity generation under one publishing identity do not
decrease. -/
theorem source_generations_ordered (options : Options) (steps : List RunStep)
    (hRun : Guarded RunStep.apply RunStep.Continues (Registry.init options) steps) :
    (trace RunStep.apply RunStep.attempts (Registry.init options) steps).Pairwise
      fun first second => first.committed = true → second.committed = true →
        first.request.entity = second.request.entity →
        first.request.entityGeneration = second.request.entityGeneration →
        first.request.sourceKey = second.request.sourceKey →
        first.request.authority.sourceGeneration ≤
          second.request.authority.sourceGeneration := by
  have hInit : (Registry.init options).Tidy := by
    unfold Registry.init
    split <;> exact ⟨List.nodup_nil, by simp⟩
  have hTidy : Guarded RunStep.apply
      (fun registry step => step.Continues registry ∧ registry.Tidy)
      (Registry.init options) steps :=
    guarded_invariant (fun _ _ => runStep_tidy) hRun hInit
  have hChain : Chained Rises Attempt.before Attempt.after (Registry.init options)
      (run RunStep.apply (Registry.init options) steps)
      (trace RunStep.apply RunStep.attempts (Registry.init options) steps) := by
    refine trace_chained rises_refl rises_trans
      (fun registry step hGuard => runStep_rises hGuard.1 hGuard.2) ?_ hTidy
    intro registry step _
    cases step with
    | call operation =>
        exact attempts_chained rises_refl rises_trans registry operation
          fun attempt _ => publish_rises attempt.before attempt.request
    | restart options config => exact chained_nil
  exact hChain.within.imp fun hRises hFirst hSecond hEntity hGeneration hSource =>
    committed_in_order hRises hFirst hSecond hEntity hGeneration hSource

namespace Sample

/-- Two publications of a source that moves on from generation 1 to 2, and a restart. -/
def sequel : List RunStep :=
  setup.map .call ++
    [.call (.publish (publication bootOne "attempt-1" 1 0 (claim .supported .processBound))),
     .call (.publish
      { publication bootOne "attempt-2" 1 1 (claim .unsupported .processBound) with
        authority := { scope, publisher, workerBoot := bootOne, source, sourceGeneration := 2 } }),
     .restart {} config]

end Sample

/-- Both publications commit, and they are ordered. -/
theorem sequel_is_ordered :
    (trace RunStep.apply RunStep.attempts (Registry.init {}) Sample.sequel).map
      (fun attempt => (attempt.committed, attempt.request.authority.sourceGeneration)) =
        [(true, 1), (true, 2)] ∧
    (trace RunStep.apply RunStep.attempts (Registry.init {}) Sample.sequel).Pairwise
      fun first second => first.committed = true → second.committed = true →
        first.request.entity = second.request.entity →
        first.request.entityGeneration = second.request.entityGeneration →
        first.request.sourceKey = second.request.sourceKey →
        first.request.authority.sourceGeneration ≤
          second.request.authority.sourceGeneration := by
  have hRun : Guarded RunStep.apply RunStep.Continues (Registry.init {}) Sample.sequel := by
    simp [Sample.sequel, Sample.setup, Guarded, RunStep.Continues, NoLoad, Operation.isLoad]
  exact ⟨by decide +kernel, source_generations_ordered {} Sample.sequel hRun⟩

end FabricCapability.Ports
