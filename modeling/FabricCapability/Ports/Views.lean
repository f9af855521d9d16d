import FabricCapability.Ports.LiveEvidence
import FabricCapability.Ports.LoadBounds
import FabricCapability.Ports.Retirement

/-!
# Views of the registry

Translation of the queries of `src/registry.cpp` that hand out parts of the state as they are:
grants, fences and registrations, the record of an entity and its retired generations.

## Main results

* `fences_name_fenced_boots`: `IsWorkerBootFenced` and `Fences` agree in every deployment.
* `retired_generations_are_the_history`: what `RetiredGeneration` answers is the history of
  `EntityRecord`.
-/

namespace FabricCapability.Ports

open FabricCapability.Verified.KeyedList
open FabricCapability.Verified.Restores
open FabricCapability.Verified.Runs
open FabricCapability.Verified.StrictOrder

/-! ## Grants, fences and registrations -/

/-- `Authority`. -/
def authority (registry : Registry) (scope : AuthorityScopeId) : Outcome AuthorityGrant :=
  match registry.findGrant scope with
  | none =>
      failure .unknownAuthorityScope (txt "authority scope is not declared") scope.value
  | some grant => .ok grant

/-- `Authorities`. -/
def authorities (registry : Registry) : List AuthorityGrant :=
  sortBy (fun lhs rhs => lhs.scope.lt rhs.scope) registry.authorities

/-- `IsWorkerBootFenced`. -/
def isWorkerBootFenced (registry : Registry) (workerBoot : WorkerBootId) : Bool :=
  workerBoot ∈ registry.fencedBoots

/-- `Fences`. -/
def fences (registry : Registry) : List FenceRecord :=
  sortBy (fun lhs rhs => lhs.workerBoot.lt rhs.workerBoot) registry.fences

/-- `FindPublisher`. -/
def findPublisher (registry : Registry) (publisher : PublisherId) (workerBoot : WorkerBootId) :
    Option PublisherRegistration :=
  match registry.findRuntime { publisher, boot := workerBoot } with
  | none => none
  | some runtime => if runtime.active then some runtime.registration else none

/-! ## Entities -/

/-- Everything the registry knows about one entity identity; the current set is there when
`has_current_set` is. -/
structure EntityRecordView where
  entity : EntityId
  currentGeneration : EntityGeneration
  currentSet : Option EntityCapabilitySet
  history : List EntityGenerationSummary
  invalidated : Bool
  invalidationReason : ReasonToken
  deriving DecidableEq

/-- `EntityRecord`. -/
def entityRecord (registry : Registry) (entity : EntityId) : Outcome EntityRecordView :=
  match registry.findEntity entity with
  | none => unknownEntity entity
  | some record =>
      .ok
        { entity
          currentGeneration := record.currentGeneration
          currentSet := record.set
          history := record.history.map RetainedGeneration.summary
          invalidated := record.invalidated
          invalidationReason := record.invalidationReason }

/-- Resolved capability state of one retired entity generation. -/
structure RetiredGenerationView where
  entity : EntityId
  generation : EntityGeneration
  setGeneration : CapabilitySetGeneration
  digest : Digest
  capabilities : List CapabilityId
  supportedKnown : Bool
  supportedCount : Nat
  deriving DecidableEq

def RetainedGeneration.view (entity : EntityId) (retained : RetainedGeneration) :
    RetiredGenerationView :=
  { entity
    generation := retained.summary.generation
    setGeneration := retained.summary.setGeneration
    digest := retained.summary.digest
    capabilities := retained.capabilityIds
    supportedKnown := true
    supportedCount := retained.summary.supportedCount }

/-- `RetiredGeneration`. -/
def retiredGeneration (registry : Registry) (entity : EntityId)
    (generation : EntityGeneration) : Outcome RetiredGenerationView :=
  match registry.findEntity entity with
  | none => unknownEntity entity
  | some record =>
      if generation = record.currentGeneration then
        failure .invalidArgument (txt "the requested generation is the current generation")
          (decimal generation.toNat)
      else
        match record.history.find? fun retained => retained.summary.generation = generation with
        | none =>
            failure .unknownEntityGeneration
              (txt "the entity generation is not retained as history") (decimal generation.toNat)
        | some retained => .ok (retained.view entity)

/-! ## Fences

The set of fenced boots and the list of fences are two members that every operation changes
together. -/

/-- The fences list the fenced boots, each once. -/
structure Registry.FencesListed (registry : Registry) : Prop where
  boots : registry.fences.map FenceRecord.workerBoot = registry.fencedBoots
  distinct : registry.fencedBoots.Nodup

namespace Registry.FencesListed

variable {registry later : Registry}

theorem of_same (h : registry.FencesListed) (hFences : later.fences = registry.fences)
    (hBoots : later.fencedBoots = registry.fencedBoots) : later.FencesListed where
  boots := by
    rw [hFences, hBoots]
    exact h.boots
  distinct := by
    rw [hBoots]
    exact h.distinct

theorem of_control (h : registry.FencesListed) (hControl : SameControl registry later) :
    later.FencesListed :=
  h.of_same hControl.fences hControl.fencedBoots

/-- One more fence, for a boot that has none. -/
theorem fence (h : registry.FencesListed) {record : FenceRecord}
    (hNew : record.workerBoot ∉ registry.fencedBoots)
    (hFences : later.fences = registry.fences ++ [record])
    (hBoots : later.fencedBoots = registry.fencedBoots ++ [record.workerBoot]) :
    later.FencesListed where
  boots := by
    rw [hFences, hBoots, List.map_append, h.boots]
    rfl
  distinct := by
    rw [hBoots, List.nodup_append]
    refine ⟨h.distinct, List.nodup_singleton _, ?_⟩
    rintro held hHeld added hAdded rfl
    exact hNew (List.mem_singleton.1 hAdded ▸ hHeld)

theorem evict (h : registry.FencesListed) {fence : FenceRecord}
    (hFound : evictableFence registry = some fence) :
    (evictFence registry fence).FencesListed where
  boots := by
    have hErased : (evictFence registry fence).fences.map FenceRecord.workerBoot = _ :=
      map_eraseP (h.boots ▸ h.distinct) hFound
    rw [h.boots] at hErased
    exact hErased
  distinct := h.distinct.filter _

theorem insert (h : registry.FencesListed) {workerBoot : WorkerBootId} (reason : ReasonToken)
    (hNew : workerBoot ∉ registry.fencedBoots) :
    (insertFence registry workerBoot reason).1.FencesListed := by
  unfold insertFence
  dsimp only
  refine of_control ?_ (advanceRegistry_control ..)
  refine of_control ?_ (visitEntities_control ..)
  exact h.fence hNew rfl rfl

theorem fenceWorkerBoot (h : registry.FencesListed) (workerBoot : WorkerBootId)
    (reason : ReasonToken) : (Ports.fenceWorkerBoot registry workerBoot reason).1.FencesListed := by
  unfold Ports.fenceWorkerBoot
  split
  · exact h
  · split
    · exact h
    · rename_i hNew
      split
      · split
        · exact h
        · rename_i fence hFound
          exact (h.evict hFound).insert reason fun hMem => hNew (List.mem_of_mem_filter hMem)
      · exact h.insert reason hNew

theorem fenceBoots (h : registry.FencesListed) (reason : ReasonToken)
    (boots : List WorkerBootId) : (Ports.fenceBoots reason registry boots).FencesListed := by
  induction boots generalizing registry with
  | nil => exact h
  | cons boot boots ih =>
      unfold Ports.fenceBoots
      split
      · exact ih h
      · rename_i hNew
        split
        · exact h
        · exact ih (h.fence hNew rfl rfl)

theorem advanceCoordinatorEpoch (h : registry.FencesListed) (reason : ReasonToken) :
    (Ports.advanceCoordinatorEpoch registry reason).1.FencesListed := by
  unfold Ports.advanceCoordinatorEpoch
  split
  · exact h
  · dsimp only
    refine of_control ?_ (advanceRegistry_control ..)
    refine of_control ?_ (visitEntities_control ..)
    have hCleared : Registry.FencesListed { registry with publishers := [] } :=
      h.of_same rfl rfl
    refine FencesListed.fenceBoots ?_ _ _
    exact hCleared.of_same rfl rfl

/-- Every operation but a load. -/
theorem step (h : registry.FencesListed) {operation : Operation}
    (hNoLoad : NoLoad registry operation) : (operation.apply registry).FencesListed := by
  cases operation with
  | publish request => exact h.of_control (publish_control ..)
  | publishBatch requests => exact h.of_control (publishBatch_control ..)
  | fenceWorkerBoot workerBoot reason => exact h.fenceWorkerBoot workerBoot reason
  | advanceCoordinatorEpoch reason => exact h.advanceCoordinatorEpoch reason
  | invalidateEntity entity generation reason =>
      exact h.of_control (invalidateEntity_control ..)
  | invalidateSource source reason => exact h.of_control (invalidateSource_control ..)
  | observeEntityGeneration entity generation reason =>
      exact h.of_control (observeEntityGeneration_control ..)
  | registerPublisher publisher scope workerBoot =>
      rw [Operation.apply, registerPublisher]
      split
      · exact h
      · split
        · exact h
        · split
          · exact h
          · dsimp only
            split
            · exact h
            · split
              · exact h
              · exact h.of_same rfl rfl
  | retirePublisher publisher workerBoot =>
      rw [Operation.apply, retirePublisher]
      split <;> exact h.of_same rfl rfl
  | declareAuthority grant =>
      rw [Operation.apply, declareAuthority]
      split
      · exact h
      · split
        · exact h.of_same rfl rfl
        · split
          · exact h
          · exact h.of_same rfl rfl
  | registerVendorDescriptor descriptor =>
      rw [Operation.apply, registerVendorDescriptor]
      split <;> exact h.of_same rfl rfl
  | load config file => cases hNoLoad
  | rehash publishers =>
      rw [Operation.apply]
      split <;> exact h.of_same rfl rfl

/-- A file lists the fences that were saved. -/
theorem load {saved target : Registry} {payload : StorePayload} (h : saved.FencesListed)
    (hReread : saved.payload.reread = some payload) :
    (loadPayload target payload).FencesListed := by
  obtain ⟨hFences, -, hSet⟩ := StorePayload.reread_lists hReread
  have hStored : (payload.fences.map StoredFence.workerBoot).Perm saved.fencedBoots := by
    rw [hFences, ← h.boots]
    show ((sortBy _ (saved.fences.map _)).map StoredFence.workerBoot).Perm _
    refine ((sortBy_perm _ _).map _).trans (List.Perm.of_eq ?_)
    rw [List.map_map]
    rfl
  have hBoots : payload.fenceRecords.map FenceRecord.workerBoot =
      payload.fences.map StoredFence.workerBoot := by
    unfold StorePayload.fenceRecords
    rw [List.filter_eq_self.2 fun fence hMem => hSet fence (hFences ▸ hMem), List.map_map]
    rfl
  have hDistinct : (payload.fenceRecords.map FenceRecord.workerBoot).Nodup := by
    rw [hBoots]
    exact hStored.nodup_iff.2 h.distinct
  have hFenced : (loadPayload target payload).fencedBoots =
      payload.fenceRecords.map FenceRecord.workerBoot :=
    foldl_insertMember FenceRecord.workerBoot _ [] hDistinct
  exact ⟨hFenced.symm, hFenced ▸ hDistinct⟩

theorem init (options : Options) : (Registry.init options).FencesListed := by
  unfold Registry.init
  split <;> exact ⟨rfl, List.nodup_nil⟩

end Registry.FencesListed

section Deployments

variable {admits : Options → Prop} {guard : Registry → Operation → Prop}
  {past : List Transition} {registry : Registry}

theorem reached_fencesListed (h : Reached (deployment admits guard) past registry) :
    registry.FencesListed := by
  refine reached_invariant (P := fun _ registry => registry.FencesListed) ?_ ?_ ?_ h
  · rintro _ ⟨options, -, rfl⟩
    exact .init options
  · exact fun _ _ _ hGuard hBefore => hBefore.step hGuard.1
  · intro _ _ registry saved loaded hRestores hBefore hSource
    rcases restored_cases hRestores with rfl | ⟨payload, hReread, rfl⟩
    · exact hBefore
    · exact hSource.load hReread

/-- `IsWorkerBootFenced` looks into the set, `Fences` hands out the list: both know the same
boots, and the list names each boot once, in the order of the boots. -/
theorem fences_name_fenced_boots (h : Reached (deployment admits guard) past registry) :
    (∀ boot, isWorkerBootFenced registry boot = true ↔
      ∃ fence ∈ fences registry, fence.workerBoot = boot) ∧
    (fences registry).Pairwise (fun lhs rhs => lhs.workerBoot.lt rhs.workerBoot = true) ∧
    (fences registry).length = registry.fencedBoots.length := by
  have hListed := reached_fencesListed h
  refine ⟨fun boot => ?_, ?_, ?_⟩
  · rw [isWorkerBootFenced, decide_eq_true_eq, ← hListed.boots, List.mem_map]
    unfold fences
    simp only [mem_sortBy]
  · have hBoots : (registry.fences.map FenceRecord.workerBoot).Nodup :=
      hListed.boots ▸ hListed.distinct
    have hValues : ((registry.fences.map FenceRecord.workerBoot).map TokenId.value).Nodup :=
      hBoots.map fun _ _ hSame => TokenId.ext hSame
    rw [List.map_map] at hValues
    exact sortBy_keys_pairwise bytesLt_total
      (fun fence : FenceRecord => fence.workerBoot.value) hValues
  · show (sortBy _ registry.fences).length = registry.fencedBoots.length
    rw [length_sortBy, ← hListed.boots, List.length_map]

end Deployments

namespace Sample

/-- A boot is fenced after it published. -/
def fencedOnce : List Operation := turnover ++ [.fenceWorkerBoot bootOne .unset]

end Sample

theorem fenced_once_is_named :
    isWorkerBootFenced (afterRun {} Sample.fencedOnce) Sample.bootOne = true ∧
    ∃ fence ∈ fences (afterRun {} Sample.fencedOnce), fence.workerBoot = Sample.bootOne := by
  obtain ⟨hFenced, hGuard⟩ :
      isWorkerBootFenced (afterRun {} Sample.fencedOnce) Sample.bootOne = true ∧
      Guarded Operation.apply (fun registry operation => NoLoad registry operation ∧ True)
        (Registry.init {}) Sample.fencedOnce := by decide +kernel
  have hReached : Reached (deployment (fun _ => True) fun _ _ => True) _
      (afterRun {} Sample.fencedOnce) := reached_of_operations trivial hGuard
  exact ⟨hFenced, ((fences_name_fenced_boots hReached).1 Sample.bootOne).1 hFenced⟩

/-! ## Retired generations -/

/-- A load of the deployment has brought the summary, and the registry has worked since. -/
inductive Brought (admits : Options → Prop) (guard : Registry → Operation → Prop) :
    Registry → EntityId → EntityGenerationSummary → Prop
  | load {past stored : List Transition} {target saved : Registry} {payload : StorePayload}
      {held : EntityState} {retained : RetainedGeneration}
      (before : Reached (deployment admits guard) past target)
      (source : Reached (deployment admits guard) stored saved)
      (read : saved.payload.reread = some payload)
      (entity : held ∈ (loadPayload target payload).entities)
      (listed : retained ∈ held.history) :
      Brought admits guard (loadPayload target payload) held.id retained.summary
  | step {registry : Registry} {operation : Operation} {id : EntityId}
      {summary : EntityGenerationSummary} (before : Brought admits guard registry id summary)
      (noLoad : NoLoad registry operation) (allowed : guard registry operation) :
      Brought admits guard (operation.apply registry) id summary

/-- What a history keeps of the capabilities of a retired set: as many identifiers as fit,
or none when it was `brought`. -/
def EntityState.Lists (brought : EntityId → EntityGenerationSummary → Prop)
    (entity : EntityState) : Prop :=
  ∀ retained ∈ entity.history,
    retained.capabilityIds.length =
      min kMaxRetainedCapabilityIds retained.summary.capabilityCount ∨
    (retained.capabilityIds = [] ∧ brought entity.id retained.summary)

section Lists

variable {brought : EntityId → EntityGenerationSummary → Prop}

theorem EntityState.Lists.of_history {a b : EntityState} (h : a.Lists brought)
    (hId : b.id = a.id) (hHistory : b.history = a.history) : b.Lists brought := by
  unfold Lists
  rw [hId, hHistory]
  exact h

theorem EntityState.Lists.mono {later : EntityId → EntityGenerationSummary → Prop}
    {entity : EntityState} (h : entity.Lists brought)
    (hLater : ∀ id summary, brought id summary → later id summary) : entity.Lists later :=
  fun retained hMem => (h retained hMem).imp_right fun hEmpty => ⟨hEmpty.1, hLater _ _ hEmpty.2⟩

theorem EntityState.Lists.retired {entity : EntityState} (h : entity.Lists brought)
    (options : Options) (registryGeneration : RegistryGeneration) (next : EntityGeneration)
    (reason : ReasonToken) :
    (retireGeneration options registryGeneration entity next reason).Lists brought := by
  unfold retireGeneration
  cases entity.hasSet with
  | false => exact h
  | true =>
      cases entity.set with
      | none => exact h
      | some set =>
          intro retained hMem
          rcases List.mem_cons.1 (List.mem_of_mem_take hMem) with rfl | hHeld
          · left
            show ((set.capabilities.map CapabilityResolution.capability).take _).length = _
            rw [List.length_take, List.length_map]
          · exact h retained hHeld

theorem lists_rule : EntityRule fun a b => a.Lists brought → b.Lists brought where
  refl _ := id
  trans _ _ _ hab hbc := hbc ∘ hab
  retired options registryGeneration _ next reason _ _ h :=
    (h.retired options registryGeneration next reason).of_history rfl rfl
  exhausted _ _ _ h := h.of_history rfl rfl
  committed _ _ _ next _ hAdvance h := by
    have hNext := (advanceGenerations_ok hAdvance).2.1
    have hId : next.id = _ := congrArg EntityState.id hNext
    have hHistory : next.history = _ := congrArg EntityState.history hNext
    exact h.of_history hId hHistory
  observed _ _ _ _ h := h.of_history rfl rfl
  relabelled _ _ _ _ _ h := h.of_history rfl rfl
  flagged _ _ h := h.of_history rfl rfl
  refreshed _ _ _ h := h.of_history rfl rfl

theorem applies_lists (registry : Registry) (request : PublicationRequest) :
    AppliesWithin (fun a b => a.Lists brought → b.Lists brought) registry request := by
  intro _ grant bound entity _ _ _ h
  have hSame := runSteps_entity bound request (applySteps bound.schema grant request)
    (bound.cell entity)
  refine h.of_history ?_ ?_ <;>
    rw [hSame] <;> rfl

end Lists

/-- What every registry of a deployment keeps about the generations of its entities. -/
structure Registry.Generations (registry : Registry)
    (brought : EntityId → EntityGenerationSummary → Prop) : Prop where
  distinct : registry.Distinct
  generational : ∀ entity ∈ registry.entities, entity.Generational
  lists : ∀ entity ∈ registry.entities, entity.Lists brought

section Deployments

variable {admits : Options → Prop} {guard : Registry → Operation → Prop}
  {past : List Transition} {registry : Registry}

theorem generations_step {operation : Operation} (hNoLoad : NoLoad registry operation)
    (hAllowed : guard registry operation)
    (h : registry.Generations (Brought admits guard registry)) :
    (operation.apply registry).Generations
      (Brought admits guard (operation.apply registry)) := by
  have hGenerational := step_follows generational_rule
    (fun _ _ => applies_generational _ _) hNoLoad
  have hLists := step_follows (@lists_rule (Brought admits guard registry))
    (fun _ _ => applies_lists _ _) hNoLoad
  refine ⟨hLists.distinct h.distinct, ?_, fun entity hMem => ?_⟩
  · refine hGenerational.invariant (fun registryGeneration id generation hNe => ?_)
      h.generational
    exact ⟨rfl, hNe, fun _ hMem => (by cases hMem), List.pairwise_singleton _ _⟩
  · have hKept := hLists.invariant (fun _ _ _ _ _ hMem => by cases hMem) h.lists entity hMem
    exact hKept.mono fun _ _ hBefore => hBefore.step hNoLoad hAllowed

theorem generations_load {stored : List Transition} {saved loaded : Registry}
    (hRestores : Restores registry saved loaded)
    (hReached : Reached (deployment admits guard) past registry)
    (hSource : Reached (deployment admits guard) stored saved)
    (h : registry.Generations (Brought admits guard registry))
    (hSaved : saved.Generations (Brought admits guard saved)) :
    loaded.Generations (Brought admits guard loaded) := by
  rcases restored_cases hRestores with rfl | ⟨payload, hReread, rfl⟩
  · exact h
  · have hIds := RestartOf.map_id ⟨registry, payload, hReread, rfl⟩
    refine ⟨hIds.nodup_iff.2 hSaved.distinct, fun entity hMem => ?_, fun entity hMem => ?_⟩
    · obtain ⟨held, hHeld, loading, read, rfl, hRead⟩ := restored_entity hReread hMem
      exact loadedEntity_generational hRead (hSaved.generational held hHeld) _ loading
    · intro retained hRetained
      refine .inr ⟨?_, .load hReached hSource hReread hMem hRetained⟩
      obtain ⟨held, hHeld, loading, read, rfl, hRead⟩ := restored_entity hReread hMem
      rw [RereadAs.history hRead] at hRetained
      obtain ⟨stored, -, rfl⟩ := List.mem_map.1 hRetained
      rfl

theorem reached_generations (h : Reached (deployment admits guard) past registry) :
    registry.Generations (Brought admits guard registry) := by
  refine (reached_invariant (P := fun past registry =>
    Reached (deployment admits guard) past registry ∧
      registry.Generations (Brought admits guard registry)) ?_ ?_ ?_ h).2
  · rintro _ ⟨options, hAdmits, rfl⟩
    refine ⟨.start ⟨options, hAdmits, rfl⟩, ?_, ?_, ?_⟩
    · rw [Registry.Distinct, init_entities]
      exact List.nodup_nil
    · rw [init_entities]
      intro entity hMem
      cases hMem
    · rw [init_entities]
      intro entity hMem
      cases hMem
  · exact fun _ _ _ hGuard hBefore =>
      ⟨.step hBefore.1 hGuard, generations_step hGuard.1 hGuard.2 hBefore.2⟩
  · exact fun _ _ _ _ _ hRestores hBefore hSource =>
      ⟨.restore hBefore.1 hSource.1 hRestores,
        generations_load hRestores hBefore.1 hSource.1 hBefore.2 hSource.2⟩

/-- The view says what the summary says; the list of capabilities is cut at its bound, and is
empty when the summary was `brought`. -/
structure RetiredGenerationView.Shows (view : RetiredGenerationView) (entity : EntityId)
    (summary : EntityGenerationSummary) (brought : EntityGenerationSummary → Prop) : Prop where
  entity_eq : view.entity = entity
  generation : view.generation = summary.generation
  setGeneration : view.setGeneration = summary.setGeneration
  digest : view.digest = summary.digest
  supported : view.supportedKnown = true ∧ view.supportedCount = summary.supportedCount
  capabilities :
    view.capabilities.length = min kMaxRetainedCapabilityIds summary.capabilityCount ∨
    (view.capabilities = [] ∧ brought summary)

theorem find?_generation {history : List RetainedGeneration}
    (hDescending : (generationsOf history).Pairwise (· > ·)) {retained : RetainedGeneration}
    (hMem : retained ∈ history) :
    (history.find? fun held => held.summary.generation = retained.summary.generation) =
      some retained := by
  have hDistinct : (generationsOf history).Nodup := by
    refine hDescending.imp ?_
    rintro generation _ hAbove rfl
    exact UInt64.lt_irrefl _ hAbove
  exact @lookup_of_mem _ _ _ (fun held : RetainedGeneration => held.summary.generation) _ _
    hDistinct hMem

/-- `RetiredGeneration` answers what the history of `EntityRecord` lists: each summary is
found under its own generation, which is below the current one, and nothing else is.  Only a
summary that a load has brought is without its capabilities. -/
theorem retired_generations_are_the_history
    (h : Reached (deployment admits guard) past registry) {entity : EntityId}
    {record : EntityRecordView} (hRecord : entityRecord registry entity = .ok record) :
    (∀ summary ∈ record.history, summary.generation < record.currentGeneration ∧
      ∃ view, retiredGeneration registry entity summary.generation = .ok view ∧
        view.Shows entity summary (Brought admits guard registry entity)) ∧
    ∀ generation view, retiredGeneration registry entity generation = .ok view →
      ∃ summary ∈ record.history, summary.generation = generation := by
  have hGenerations := reached_generations h
  unfold entityRecord at hRecord
  unfold retiredGeneration
  cases hFound : registry.findEntity entity with
  | none =>
      rw [hFound] at hRecord
      cases hRecord
  | some held =>
      rw [hFound] at hRecord
      cases hRecord
      have hMem : held ∈ registry.entities := lookup_mem hFound
      have hId : held.id = entity := lookup_key hFound
      obtain ⟨hAbove, hDescending⟩ :=
        List.pairwise_cons.1 (hGenerations.generational held hMem).descending
      dsimp only
      refine ⟨fun summary hSummary => ?_, fun generation view hView => ?_⟩
      · obtain ⟨retained, hRetained, rfl⟩ := List.mem_map.1 hSummary
        have hBelow : retained.summary.generation < held.currentGeneration :=
          hAbove _ (List.mem_map_of_mem hRetained)
        refine ⟨hBelow, retained.view entity, ?_, rfl, rfl, rfl, rfl, ⟨rfl, rfl⟩,
          hId ▸ hGenerations.lists held hMem retained hRetained⟩
        rw [if_neg fun hEq => UInt64.lt_irrefl _ (hEq ▸ hBelow),
          find?_generation hDescending hRetained]
      · split at hView
        · cases hView
        · split at hView
          · cases hView
          · rename_i retained hRetained
            exact ⟨retained.summary, List.mem_map_of_mem (List.mem_of_find?_eq_some hRetained),
              of_decide_eq_true (List.find?_some
                (p := fun held : RetainedGeneration =>
                  decide (held.summary.generation = generation)) hRetained)⟩

end Deployments

theorem turnover_history_is_answered :
    ∃ record, entityRecord (afterRun {} Sample.turnover) Sample.entity = .ok record ∧
      record.history.length = 1 ∧
      ∀ summary ∈ record.history, ∃ view,
        retiredGeneration (afterRun {} Sample.turnover) Sample.entity summary.generation =
          .ok view ∧ view.Shows Sample.entity summary
            (Brought (fun _ => True) (fun _ _ => True) (afterRun {} Sample.turnover)
              Sample.entity) := by
  obtain ⟨hHistory, hGuard⟩ :
      ((entityRecord (afterRun {} Sample.turnover) Sample.entity).toOption.map
        fun record => record.history.length) = some 1 ∧
      Guarded Operation.apply (fun registry operation => NoLoad registry operation ∧ True)
        (Registry.init {}) Sample.turnover := by decide +kernel
  cases hRecord : entityRecord (afterRun {} Sample.turnover) Sample.entity with
  | error e =>
      rw [hRecord] at hHistory
      cases hHistory
  | ok record =>
      rw [hRecord] at hHistory
      have hReached : Reached (deployment (fun _ => True) fun _ _ => True) _
          (afterRun {} Sample.turnover) := reached_of_operations trivial hGuard
      have hAnswers := retired_generations_are_the_history hReached hRecord
      exact ⟨record, rfl, Option.some.inj hHistory, fun summary hSummary =>
        (hAnswers.1 summary hSummary).2⟩

end FabricCapability.Ports
