import FabricCapability.Ports.EntryRules
import FabricCapability.Ports.OptimisticLocking
import FabricCapability.Ports.Queries
import FabricCapability.Ports.ClaimChecks

/-!
# The published set is the present truth

The set of an entity is a cache of the resolutions of its evidence, and a resolution is a
cache of what the evidence of its entry resolves to.  Operations write the evidence, resolve
the entries they touch and materialise the set again.

An entity is `Truthful` when both caches are right and there is a set exactly when the
entity says so.  Three kinds of steps leave an entity that is not: a refresh of an entity
without a set, a publication that fails in stage 10 or 11 after it changed the entity, and a
load of an entity that was stored without a set or bound to another generation.

## Main results

* `published_set_is_present_truth`: runs without such steps.
* `fence_of_observed_entity`: a refresh of an entity that was only observed.
-/

namespace FabricCapability.Ports

open FabricCapability.Verified.KeyedList
open FabricCapability.Verified.Runs
open FabricCapability.Verified.StrictOrder

/-! ## Resolved entries -/

/-- Every entry holds what its evidence resolves to, under a set identifier of its own. -/
structure EntityState.Resolved (entity : EntityState) : Prop where
  resolved : ∀ entry ∈ entity.capabilities,
    entry.resolution = computeResolution entity.id entity.boundGeneration entry
  named : ∀ entry ∈ entity.capabilities, entry.id.isSet = true
  distinct : (entity.capabilities.map CapabilityEntry.id).Nodup

theorem EntityState.Resolved.of_empty {entity : EntityState} (h : entity.capabilities = []) :
    entity.Resolved := by
  constructor <;> simp [h]

/-- What the entries are resolved under. -/
theorem EntityState.Resolved.congr {a b : EntityState} (h : a.Resolved)
    (hId : b.id = a.id) (hBound : b.boundGeneration = a.boundGeneration)
    (hCapabilities : b.capabilities = a.capabilities) : b.Resolved := by
  constructor
  · rw [hCapabilities, hId, hBound]
    exact h.resolved
  · rw [hCapabilities]
    exact h.named
  · rw [hCapabilities]
    exact h.distinct

theorem EntityState.Resolved.flagged {entity : EntityState} (h : entity.Resolved)
    (reason : ReasonToken) :
    ({ entity with invalidated := true, invalidationReason := reason } :
      EntityState).Resolved :=
  h.congr rfl rfl rfl

/-- Writing back an entry with its resolution. -/
theorem Cell.resolveEntry_resolved {cell : Cell} (h : cell.entity.Resolved)
    {entry : CapabilityEntry} (hNamed : entry.id.isSet = true) :
    (cell.resolveEntry entry).entity.Resolved := by
  have hCapabilities : (cell.resolveEntry entry).entity.capabilities =
      upsert CapabilityEntry.id (cell.resolved entry) cell.entity.capabilities := rfl
  have hEach : ∀ held ∈ (cell.resolveEntry entry).entity.capabilities,
      held = cell.resolved entry ∨ held ∈ cell.entity.capabilities := by
    intro held hMem
    rw [hCapabilities] at hMem
    exact mem_upsert hMem
  constructor
  · intro held hMem
    rcases hEach held hMem with rfl | hMem
    · rfl
    · exact h.resolved held hMem
  · intro held hMem
    rcases hEach held hMem with rfl | hMem
    · exact hNamed
    · exact h.named held hMem
  · rw [hCapabilities]
    exact nodup_upsert h.distinct

theorem relabelEntity_ids (matching : EvidenceRecord → Bool) (currentness : EvidenceCurrentness)
    (reason : ReasonToken) (indexes : Indexes) (entity : EntityState) :
    (relabelEntity matching currentness reason indexes entity).2.capabilities.map
        CapabilityEntry.id = entity.capabilities.map CapabilityEntry.id :=
  map_mapAccum _ _ fun _ _ => relabelEntry_id ..

theorem relabelEntity_resolved {matching : EvidenceRecord → Bool}
    {currentness : EvidenceCurrentness} {reason : ReasonToken} {indexes : Indexes}
    {entity : EntityState} (h : entity.Resolved) :
    (relabelEntity matching currentness reason indexes entity).2.Resolved := by
  constructor
  · intro later hMem
    obtain ⟨_, entry, hHeld, rfl⟩ := mem_mapAccum hMem
    unfold relabelEntry
    split
    · rfl
    · exact h.resolved entry hHeld
  · intro later hMem
    obtain ⟨_, entry, hHeld, rfl⟩ := mem_mapAccum hMem
    rw [relabelEntry_id]
    exact h.named entry hHeld
  · rw [relabelEntity_ids]
    exact h.distinct

/-! ## Stage 10 -/

theorem applyClaim_resolved {registry : Registry} {request : PublicationRequest}
    {claim : CapabilityClaim} {coverage : Coverage} {cell later : Cell}
    (hNamed : claim.capability.isSet = true)
    (h : applyClaim registry request claim coverage cell = (later, .ok ()))
    (hResolved : cell.entity.Resolved) : later.entity.Resolved := by
  have hApply : ∀ entry : CapabilityEntry, entry.id.isSet = true →
      applyToEntry registry request claim coverage cell entry = (later, .ok ()) →
      later.entity.Resolved := by
    intro entry hEntry hEq
    unfold applyToEntry at hEq
    dsimp only at hEq
    split at hEq
    · cases hEq
    · split at hEq
      · cases hEq
      · cases hEq
        exact @Cell.resolveEntry_resolved { cell with arrivalSequence := _ } hResolved _ hEntry
  unfold applyClaim at h
  split at h
  · rename_i entry hFound
    exact hApply entry (hResolved.named entry (lookup_mem hFound)) h
  · split at h
    · cases h
    · exact hApply _ hNamed h

theorem withdrawIdentityClaim_resolved {request : PublicationRequest}
    {capability : CapabilityId} {cell later : Cell}
    (h : withdrawIdentityClaim request capability cell = (later, .ok ()))
    (hResolved : cell.entity.Resolved) : later.entity.Resolved := by
  unfold withdrawIdentityClaim at h
  split at h
  · cases h
    exact hResolved
  · rename_i entry hFound
    split at h
    · dsimp only at h
      split at h
      · cases h
      · cases h
        exact @Cell.resolveEntry_resolved cell hResolved { entry with evidence := _, generation := _ }
          (hResolved.named entry (lookup_mem hFound))
    · cases h
      exact hResolved

/-- The step names a capability that is set. -/
def ApplyStep.named : ApplyStep → Bool
  | applyClaim claim _ => claim.capability.isSet
  | _ => true

/-- A step that succeeds leaves every entry resolved. -/
theorem ApplyStep.run_resolved {registry : Registry} {request : PublicationRequest}
    {step : ApplyStep} {cell later : Cell} (hNamed : step.named = true)
    (h : step.run registry request cell = (later, .ok ()))
    (hResolved : cell.entity.Resolved) : later.entity.Resolved := by
  cases step with
  | supersedeOtherIdentities =>
      cases h
      exact relabelEntity_resolved hResolved
  | supersedeIdentity =>
      cases h
      exact relabelEntity_resolved hResolved
  | applyClaim claim coverage => exact applyClaim_resolved hNamed h hResolved
  | withdrawClaim capability => exact withdrawIdentityClaim_resolved h hResolved
  | countSuperseded =>
      cases h
      exact hResolved

theorem runSteps_resolved {registry : Registry} {request : PublicationRequest}
    {steps : List ApplyStep} {cell later : Cell} (hNamed : ∀ step ∈ steps, step.named = true)
    (h : runSteps registry request cell steps = (later, .ok ()))
    (hResolved : cell.entity.Resolved) : later.entity.Resolved := by
  induction steps generalizing cell with
  | nil =>
      cases h
      exact hResolved
  | cons step steps ih =>
      unfold runSteps at h
      split at h
      · cases h
      · rename_i next hRun
        exact ih (fun other hMem => hNamed other (List.mem_cons_of_mem _ hMem)) h
          (step.run_resolved (hNamed step (List.mem_cons_self ..)) hRun hResolved)

theorem checkClaims_named {schema : CapabilitySchema} {grant : AuthorityGrant}
    {seen : List Bytes} {claims : List CapabilityClaim}
    (h : checkClaims schema grant seen claims = .ok ()) :
    ∀ claim ∈ claims, claim.capability.isSet = true := by
  intro claim hMem
  obtain ⟨hSet, -⟩ := ite_failure_eq_ok.1 ((checkClaims_ok_iff.1 h).1 claim hMem)
  simpa using hSet

theorem checkEdits_named {schema : CapabilitySchema} {grant : AuthorityGrant}
    {edits : List IncrementalEdit} (h : checkEdits schema grant edits = .ok ()) :
    ∀ edit ∈ edits, edit.capability.isSet = true := by
  intro edit hMem
  obtain ⟨hSet, -⟩ := ite_failure_eq_ok.1 (checkEdits_ok_iff.1 h edit hMem)
  simpa using hSet

/-- The steps of a publication that passed stage 5 name set capabilities. -/
theorem applySteps_named {registry : Registry} {request : PublicationRequest}
    {runtime : PublisherRuntime} {grant : AuthorityGrant}
    (h : ValidRequest registry request runtime grant) (schema : CapabilitySchema) :
    ∀ step ∈ applySteps schema grant request, step.named = true := by
  intro step hMem
  cases applySteps_from step hMem with
  | others => rfl
  | identity => rfl
  | claim _ hClaim => exact checkClaims_named h.claims _ hClaim
  | absence _ _ _ hAbsent =>
      obtain ⟨descriptor, hDescriptor, rfl⟩ := List.mem_map.1 hAbsent
      have hSelected := (List.mem_filter.1 hDescriptor).2
      simp only [Bool.and_eq_true] at hSelected
      exact hSelected.1.1.2
  | withdrawal => rfl
  | supersession _ _ _ hCounts => rcases hCounts with rfl | rfl <;> rfl
  | @edit edit _ hEdit =>
      show edit.effectiveClaim.capability.isSet = true
      rw [effectiveClaim_capability]
      exact checkEdits_named h.edits edit hEdit

/-! ## Truthful entities -/

/-- The set of the entity is what its evidence gives, and it exists when the entity says
so.  Without one there is nothing to show. -/
structure EntityState.Truthful (entity : EntityState) : Prop extends entity.Resolved where
  marked : entity.set.isSome = entity.hasSet
  present : ∀ set ∈ entity.set, set = materialize set.registryGeneration entity
  empty : entity.hasSet = false → entity.capabilities = []
  bound : entity.boundGeneration = entity.currentGeneration
  observed : entity.currentGeneration ≠ 0

/-- An entity as it is created, and as a new generation finds it. -/
theorem EntityState.Truthful.of_unpublished {entity : EntityState} (h : Unpublished entity)
    (hBound : entity.boundGeneration = entity.currentGeneration)
    (hObserved : entity.currentGeneration ≠ 0) : entity.Truthful where
  toResolved := .of_empty h.capabilities
  marked := by rw [h.set, h.hasSet]; rfl
  present := by simp [h.set]
  empty _ := h.capabilities
  bound := hBound
  observed := hObserved

/-- A refresh of resolved evidence, for an entity that has a set. -/
theorem EntityState.Truthful.of_refreshed {entity : EntityState} (h : entity.Resolved)
    (hHasSet : entity.hasSet = true) (hBound : entity.boundGeneration = entity.currentGeneration)
    (hObserved : entity.currentGeneration ≠ 0) (registryGeneration touchedAt : RegistryGeneration) :
    ({ refreshEntity registryGeneration entity with touchedAt } : EntityState).Truthful where
  toResolved := h.congr rfl rfl rfl
  marked := hHasSet.symm
  present set hSet := by
    rw [← Option.some.inj hSet]
    rfl
  empty hNone := by
    have hFalse : entity.hasSet = false := hNone
    rw [hHasSet] at hFalse
    cases hFalse
  bound := hBound
  observed := hObserved

/-- Without a set there is no set generation to be right about. -/
theorem EntityState.Truthful.of_setGeneration {entity : EntityState} (h : entity.Truthful)
    (hNone : entity.hasSet = false) (setGeneration : CapabilitySetGeneration) :
    ({ entity with setGeneration } : EntityState).Truthful where
  toResolved := h.toResolved.congr rfl rfl rfl
  marked := h.marked
  present set hSet := by
    have hSome : entity.set.isSome = true := Option.isSome_of_mem hSet
    rw [h.marked, hNone] at hSome
    cases hSome
  empty := h.empty
  bound := h.bound
  observed := h.observed

theorem EntityState.Truthful.of_committed {published next : EntityState}
    {request : PublicationRequest} (h : published.Resolved)
    (hNext : next = { published with setGeneration := next.setGeneration })
    (hBound : published.boundGeneration = published.currentGeneration)
    (hObserved : published.currentGeneration ≠ 0) (registryGeneration : RegistryGeneration) :
    (committedEntity registryGeneration next request).Truthful := by
  rw [hNext]
  exact {
    toResolved := h.congr rfl hBound.symm rfl
    marked := rfl
    present := fun set hSet => by
      rw [← Option.some.inj hSet]
      rfl
    empty := fun hNone => by cases hNone
    bound := rfl
    observed := hObserved }

/-- Every entity that can be found is truthful. -/
def Registry.Truthful (registry : Registry) : Prop :=
  ∀ id entity, registry.findEntity id = some entity → entity.Truthful

theorem truthful_of_entities {a b : Registry} (h : b.entities = a.entities)
    (hTruthful : a.Truthful) : b.Truthful := by
  intro id entity hFound
  unfold Registry.findEntity at hFound
  rw [h] at hFound
  exact hTruthful id entity hFound

/-! ## Publications -/

theorem bindEntity_truthful {registry : Registry} {request : PublicationRequest}
    (hShape : checkShape request = .ok ()) (h : registry.Truthful) :
    (bindEntity registry request).1.Truthful := by
  intro id later hLater
  by_cases hId : request.entity = id
  · subst hId
    rcases bindEntity_at hLater with hHeld | ⟨hFresh, hBound, hGeneration⟩
    · exact h _ later hHeld
    · refine .of_unpublished hFresh hBound ?_
      rw [hGeneration]
      exact (checkShape_ok hShape).1
  · rw [bindEntity_other hId] at hLater
    exact h id later hLater

theorem applyRequest_resolved {registry applied : Registry} {request : PublicationRequest}
    {entity published : EntityState} {steps : List ApplyStep}
    (hNamed : ∀ step ∈ steps, step.named = true)
    (h : applyRequest registry request entity steps = (applied, .ok published))
    (hResolved : entity.Resolved) : published.Resolved := by
  unfold applyRequest at h
  cases hRun : runSteps registry request (registry.cell entity) steps with
  | mk cell outcome =>
      rw [hRun] at h
      cases outcome with
      | error e => cases (Prod.ext_iff.1 h).2
      | ok u =>
          obtain rfl : cell.entity = published := Except.ok.inj (Prod.ext_iff.1 h).2
          exact runSteps_resolved hNamed hRun hResolved

theorem SameEntity.eq_of_capabilities {a b : EntityState} (h : SameEntity a b)
    (hCapabilities : b.capabilities = a.capabilities) : b = a := by
  unfold SameEntity at h
  rw [h, hCapabilities]

/-- A set that is right shows no semantic change. -/
theorem EntityState.Truthful.unchanged {entity : EntityState} (h : entity.Truthful)
    (hHasSet : entity.hasSet = true) : semanticChange entity.set entity = false := by
  obtain ⟨set, hSet⟩ := Option.isSome_iff_exists.1 (h.marked.trans hHasSet)
  have hPresent : set = materialize set.registryGeneration entity := h.present set hSet
  rw [hSet, semanticChange, hPresent]
  exact bne_self_eq_false _

/-- A publication is admitted and then fails in stage 10 or 11, with other entries than it
found. -/
def leavesPartial (registry : Registry) (request : PublicationRequest) : Bool :=
  match admitted registry request with
  | none => false
  | some (grant, bound, entity) =>
      let ran := runSteps bound request (bound.cell entity)
        (applySteps bound.schema grant request)
      ran.1.entity.capabilities != entity.capabilities &&
        (!ran.2.isOk || (semanticChange entity.set ran.1.entity &&
          !((counterNext entity.setGeneration).isOk &&
            (counterNext bound.registryGeneration).isOk)))

/-- A commit that fails with the entries that it found. -/
theorem uncommitted_truthful {applied after : Registry} {request : PublicationRequest}
    {entity later : EntityState} {steps : List ApplyStep} {contentDigest : Bytes} {e : Error}
    (hTruthful : entity.Truthful) (hFound : applied.findEntity entity.id = some entity)
    (h : commit applied request entity.set entity steps contentDigest = (after, .error e))
    (hLater : after.findEntity entity.id = some later) : later.Truthful := by
  have hLeft := commit_failed_entity hFound h hLater
  cases hHasSet : entity.hasSet with
  | false =>
      rw [hLeft]
      exact hTruthful.of_setGeneration hHasSet later.setGeneration
  | true =>
      -- nothing changed, so nothing is counted and nothing can fail
      have hUnchanged := hTruthful.unchanged hHasSet
      unfold commit at h
      rw [hUnchanged] at h
      cases h

theorem Committed.truthful {registry after : Registry} {request : PublicationRequest}
    {result : PublicationResult} (c : Committed registry request after result)
    (hTruthful : c.entity.Truthful) {later : EntityState}
    (hLater : after.findEntity request.entity = some later) : later.Truthful := by
  have hSame : SameEntity c.entity c.published := c.published_same
  have hNamed := applySteps_named (validateRequest_ok c.valid) c.bound.schema
  have hResolved : c.published.Resolved :=
    applyRequest_resolved hNamed c.applies hTruthful.toResolved
  obtain ⟨registryGeneration, next, hFound, hNext, -⟩ := c.entity_after
  rw [hLater, Option.some.injEq] at hFound
  rw [hFound]
  refine .of_committed hResolved hNext (hSame.boundCurrent hTruthful.bound) ?_
    registryGeneration
  rw [hSame.currentGeneration_eq]
  exact hTruthful.observed

/-- What an admitted publication leaves of its entity, unless it is half done. -/
theorem admitted_truthful {registry bound : Registry} {request : PublicationRequest}
    {grant : AuthorityGrant} {entity later : EntityState}
    (hAdmitted : admitted registry request = some (grant, bound, entity))
    (hFinishes : leavesPartial registry request = false)
    (hTruthful : entity.Truthful)
    (hLater : (publish registry request).1.findEntity request.entity = some later) :
    later.Truthful := by
  obtain ⟨runtime, hValid, hBind, hFresh, hChecked⟩ := admitted_some hAdmitted
  obtain ⟨hId, -, hFound, -⟩ := bindEntity_ok hBind
  rw [publish_admitted hAdmitted] at hLater
  unfold leavesPartial at hFinishes
  rw [hAdmitted] at hFinishes
  dsimp only at hFinishes
  cases hApply : applyRequest bound request entity (applySteps bound.schema grant request) with
  | mk applied outcome =>
      rw [hApply] at hLater
      cases outcome with
      | error e =>
          dsimp only at hLater
          rw [reject_registry] at hLater
          obtain ⟨hRun, hRan⟩ := applyRequest_failed_entity hId hApply hLater
          have hSame : SameEntity entity later := hRan ▸ runSteps_entity bound request
            (applySteps bound.schema grant request) (bound.cell entity)
          rw [← hRan, hRun] at hFinishes
          have hKept : later.capabilities = entity.capabilities := by simpa using hFinishes
          rw [hSame.eq_of_capabilities hKept]
          exact hTruthful
      | ok published =>
          dsimp only at hLater
          obtain ⟨hSame, hApplied, hPublished⟩ := applyRequest_entity hApply
          have hPublishedFound := applyRequest_found hApply
          have hPublishedId : published.id = request.entity := hSame.id_eq.trans hId
          cases hCommit : commit applied request entity.set published
              (applySteps bound.schema grant request)
              (requestContentDigest request grant).toText with
          | mk after answer =>
              rw [hCommit] at hLater
              dsimp only at hLater
              cases answer with
              | error e =>
                  obtain ⟨hChanged, hCounters⟩ := commit_failed hCommit
                  have hGenerations : applied.registryGeneration = bound.registryGeneration := by
                    rw [hApplied]
                    rfl
                  rw [hSame.setGeneration_eq, hGenerations] at hCounters
                  rw [← hPublished, hChanged, hCounters] at hFinishes
                  have hKept : published.capabilities = entity.capabilities := by
                    simpa using hFinishes
                  obtain rfl := hSame.eq_of_capabilities hKept
                  exact uncommitted_truthful hTruthful hPublishedFound hCommit (hId ▸ hLater)
              | ok result =>
                  exact Committed.truthful ⟨runtime, grant, bound, entity, applied, published,
                    hValid, hBind, hFresh, hChecked, hApply, hCommit⟩ hTruthful hLater

/-- A publication keeps the entities truthful, unless it leaves one half done. -/
theorem publish_truthful {registry : Registry} {request : PublicationRequest}
    (hFinishes : leavesPartial registry request = false) (h : registry.Truthful) :
    (publish registry request).1.Truthful := by
  cases hAdmitted : admitted registry request with
  | none =>
      obtain ⟨journal, hLeft | ⟨⟨⟨runtime, grant⟩, hValid⟩, hLeft⟩⟩ := publish_unadmitted hAdmitted
      · rw [hLeft]
        exact truthful_of_entities rfl h
      · rw [hLeft]
        exact truthful_of_entities rfl
          (bindEntity_truthful (validateRequest_ok hValid).shape h)
  | some admission =>
      obtain ⟨grant, bound, entity⟩ := admission
      obtain ⟨runtime, hValid, hBind, -⟩ := admitted_some hAdmitted
      obtain ⟨-, -, hFound, -⟩ := bindEntity_ok hBind
      intro id later hLater
      by_cases hId : request.entity = id
      · subst hId
        have hBound := bindEntity_truthful (validateRequest_ok hValid).shape h
        rw [hBind] at hBound
        exact admitted_truthful hAdmitted hFinishes (hBound _ entity hFound) hLater
      · rw [publish_other _ hId] at hLater
        exact h id later hLater

/-! ## The other operations -/

theorem newEntity_truthful (registryGeneration : RegistryGeneration) (id : EntityId)
    {generation : EntityGeneration} (h : generation ≠ 0) :
    (newEntity registryGeneration id generation).Truthful :=
  .of_unpublished ⟨rfl, rfl, rfl, rfl, rfl⟩ rfl h

theorem Registry.Truthful.setEntity {registry : Registry} (h : registry.Truthful)
    {entity : EntityState} (hEntity : entity.Truthful) : (registry.setEntity entity).Truthful := by
  intro id later hLater
  by_cases hId : entity.id = id
  · rw [findEntity_setEntity hId, Option.some.injEq] at hLater
    exact hLater ▸ hEntity
  · rw [findEntity_setEntity_ne _ hId] at hLater
    exact h id later hLater

/-- The later version is truthful when the entity was. -/
def KeepsTruthful (held later : EntityState) : Prop := held.Truthful → later.Truthful

theorem keepsTruthful_refl (entity : EntityState) : KeepsTruthful entity entity := id

theorem keepsTruthful_trans (a b c : EntityState) (hab : KeepsTruthful a b)
    (hbc : KeepsTruthful b c) : KeepsTruthful a c :=
  hbc ∘ hab

/-- What an operation does to each entity keeps all of them truthful. -/
theorem truthful_of_follows {a b : Registry} (h : Follows KeepsTruthful a b)
    (hTruthful : a.Truthful) : b.Truthful := by
  intro id later hLater
  rcases h.grows.found hLater with ⟨held, hHeld, hStep⟩ | ⟨-, _, ⟨_, _, _, hNe, rfl⟩, -, hStep⟩
  · exact hStep (hTruthful id held hHeld)
  · exact hStep (newEntity_truthful _ _ hNe)

theorem demoteAndRefresh_truthful {registryGeneration : RegistryGeneration}
    {currentness : EvidenceCurrentness} {reason : ReasonToken} {boot : Option WorkerBootId}
    {indexes : Indexes} {entity : EntityState} (hHasSet : entity.hasSet = true)
    (h : entity.Truthful) :
    (demoteAndRefresh registryGeneration currentness reason boot indexes entity).2.Truthful :=
  .of_refreshed (relabelEntity_resolved h.toResolved) hHasSet h.bound h.observed _ _

/-- Every entity has a set. -/
def Registry.everySet (registry : Registry) : Bool :=
  registry.entities.all EntityState.hasSet

theorem everySet_mem {registry : Registry} (h : registry.everySet = true) :
    ∀ entity ∈ registry.entities, entity.hasSet = true :=
  List.all_eq_true.1 h

theorem fenceWorkerBoot_truthful {registry : Registry} {boot : WorkerBootId}
    {reason : ReasonToken} (hSets : registry.addsFence boot = true → registry.everySet = true)
    (h : registry.Truthful) : (fenceWorkerBoot registry boot reason).1.Truthful := by
  cases hAdds : registry.addsFence boot with
  | false =>
      rw [fenceWorkerBoot_skips hAdds]
      exact h
  | true =>
      have hEvery := everySet_mem (hSets hAdds)
      exact truthful_of_follows (fenceWorkerBoot_follows keepsTruthful_refl keepsTruthful_trans
        fun _ entity hMem _ _ _ => demoteAndRefresh_truthful (hEvery entity hMem)) h

theorem advanceCoordinatorEpoch_truthful {registry : Registry} {reason : ReasonToken}
    (hSets : (counterNext registry.epoch).isOk = true → registry.everySet = true)
    (h : registry.Truthful) : (advanceCoordinatorEpoch registry reason).1.Truthful := by
  cases hNext : counterNext registry.epoch with
  | error e =>
      unfold advanceCoordinatorEpoch
      rw [hNext]
      exact h
  | ok next =>
      have hEvery := everySet_mem (hSets (by rw [hNext]; rfl))
      exact truthful_of_follows (advanceCoordinatorEpoch_follows keepsTruthful_refl
        keepsTruthful_trans
        fun entity hMem _ _ _ => demoteAndRefresh_truthful (hEvery entity hMem)) h

theorem invalidateSourceIn_truthful {registryGeneration : RegistryGeneration} {source : SourceId}
    {reason : ReasonToken} {indexes : Indexes} {entity : EntityState} (h : entity.Truthful) :
    (invalidateSourceIn registryGeneration source reason indexes entity).2.Truthful := by
  unfold invalidateSourceIn markNonCurrent
  dsimp only
  split
  · rename_i hEmpty
    have hIds := relabelEntity_ids (demotes none (some source) true) .revalidationRequired reason
      indexes entity
    rw [List.isEmpty_iff.1 hEmpty] at hIds
    rw [relabelEntity_empty (List.map_eq_nil_iff.1 hIds.symm)]
    exact h
  · rename_i hSome
    refine .of_refreshed (relabelEntity_resolved h.toResolved) ?_ h.bound h.observed _ _
    cases hHasSet : entity.hasSet with
    | true => exact hHasSet
    | false =>
        have hNone := h.empty hHasSet
        rw [relabelEntity_empty hNone, hNone] at hSome
        exact absurd rfl hSome

theorem invalidateSource_truthful {registry : Registry} {source : SourceId} {reason : ReasonToken}
    (h : registry.Truthful) : (invalidateSource registry source reason).1.Truthful :=
  truthful_of_follows (invalidateSource_follows keepsTruthful_refl keepsTruthful_trans
    fun _ _ _ _ _ => invalidateSourceIn_truthful) h

theorem observeEntityGeneration_truthful {registry : Registry} {entity : EntityId}
    {generation : EntityGeneration} {reason : ReasonToken} (h : registry.Truthful) :
    (observeEntityGeneration registry entity generation reason).1.Truthful := by
  unfold observeEntityGeneration
  split
  · exact h
  · rename_i hSet
    have hNe : generation ≠ 0 := by
      rintro rfl
      exact hSet (by simp)
    split
    · rename_i hMissing
      split
      · exact h
      · exact truthful_of_follows (Follows.append keepsTruthful_refl _ hMissing hNe) h
    · rename_i held hFound
      have hHeld : held.Truthful := h entity held hFound
      split
      · rename_i hUnset
        exact absurd hUnset hHeld.observed
      · split
        · exact h
        · split
          · exact h
          · dsimp only
            split
            · exact h.setEntity (.of_unpublished ⟨rfl, rfl, rfl, rfl, rfl⟩ rfl hNe)
            · refine Registry.Truthful.setEntity (truthful_of_entities rfl h) ?_
              exact .of_unpublished ⟨rfl, rfl, rfl, rfl, rfl⟩ rfl hNe

/-! ### Invalidating an entity -/

/-- Without current evidence nothing is supported. -/
theorem computeResolution_idle {entity : EntityId} {bound : EntityGeneration}
    {entry : CapabilityEntry} (h : ∀ record ∈ entry.evidence, isCurrent record.currentness = false) :
    (computeResolution entity bound entry).actionable = false := by
  unfold computeResolution
  dsimp only
  split
  · rfl
  · rfl
  · rename_i hWinner
    have hMem := pickDeterministic_mem hWinner
    simp only [List.mem_filter, List.mem_append] at hMem
    obtain ⟨⟨⟨hHeld, -⟩ | ⟨hHeld, -⟩, -⟩, hCurrent⟩ := hMem
    · rw [h _ hHeld] at hCurrent
      cases hCurrent
    · rw [h _ hHeld] at hCurrent
      cases hCurrent

/-- An entry that is actionable after all its current evidence was to be demoted had none. -/
theorem relabelEntry_idle {id : EntityId} {bound : EntityGeneration} {reason : ReasonToken}
    {indexes : Indexes} {entry : CapabilityEntry}
    (h : (relabelEntry id bound (demotes none none true) .revalidationRequired reason indexes
      entry).2.resolution.actionable = true) :
    (relabelEntry id bound (demotes none none true) .revalidationRequired reason indexes
      entry).2 = entry := by
  unfold relabelEntry at h ⊢
  split
  · rename_i hAny
    rw [if_pos hAny, resolveCapability_snd, computeResolution_idle] at h
    · cases h
    · intro record hMem
      obtain ⟨held, -, rfl⟩ := List.mem_map.1 hMem
      split
      · rfl
      · rename_i hKept
        simpa [demotes] using hKept
  · rfl

theorem invalidateEntity_truthful {registry : Registry} {entity : EntityId}
    {generation : EntityGeneration} {reason : ReasonToken}
    (hSet : ∀ held, registry.findEntity entity = some held →
      held.currentGeneration = generation → held.hasSet = true) (h : registry.Truthful) :
    (invalidateEntity registry entity generation reason).1.Truthful := by
  unfold invalidateEntity
  split
  · exact h
  · rename_i held hFound
    split
    · exact h
    · rename_i hCurrent
      have hHasSet : held.hasSet = true :=
        hSet held hFound (by simp only [not_or, not_not] at hCurrent; exact hCurrent.2.symm)
      have hHeld : held.Truthful := h entity held hFound
      dsimp only
      generalize hWhy : reasonOr reason (txt "entity-invalidated") = why
      have hMarked : (markNonCurrent .revalidationRequired why none none true registry.indexes
          held).2.Resolved := relabelEntity_resolved hHeld.toResolved
      split
      · -- the demoted entity, with the flag, is materialised again
        have hRefreshed : ∀ registryGeneration touchedAt,
            ({ refreshEntity registryGeneration (if held.invalidated = true then
                (markNonCurrent .revalidationRequired why none none true registry.indexes held).2
              else { (markNonCurrent .revalidationRequired why none none true registry.indexes
                held).2 with invalidated := true, invalidationReason := why })
              with touchedAt } : EntityState).Truthful := by
          intro registryGeneration touchedAt
          split
          · exact .of_refreshed hMarked hHasSet hHeld.bound hHeld.observed _ _
          · exact .of_refreshed (hMarked.flagged why) hHasSet hHeld.bound hHeld.observed _ _
        split
        · exact Registry.Truthful.setEntity (truthful_of_entities rfl h) (hRefreshed _ _)
        · exact Registry.Truthful.setEntity (truthful_of_entities rfl h) (hRefreshed _ _)
      · -- nothing was demoted: every entry is still actionable
        rename_i hUnchanged
        simp only [Bool.or_eq_true, List.any_eq_true, Bool.not_eq_true', not_or, not_exists,
          not_and, Bool.not_eq_false] at hUnchanged
        obtain ⟨hActionable, hInvalidated⟩ := hUnchanged
        rw [if_pos hInvalidated]
        refine Registry.Truthful.setEntity (truthful_of_entities rfl h) ?_
        have hSame : (markNonCurrent .revalidationRequired why none none true registry.indexes
            held).2.capabilities = held.capabilities :=
          mapAccum_fixed (P := fun entry => entry.resolution.actionable = true)
            (fun _ _ => relabelEntry_idle) hActionable
        have hEntity : (markNonCurrent .revalidationRequired why none none true registry.indexes
            held).2 = held := SameEntity.eq_of_capabilities (relabelEntity_entity ..) hSame
        rw [hEntity]
        exact hHeld

/-! ### Loading -/

/-- The identifiers of the entries are set, and each has one entry. -/
def NamedEntries (entries : List CapabilityEntry) : Prop :=
  (∀ entry ∈ entries, entry.id.isSet = true) ∧ (entries.map CapabilityEntry.id).Nodup

theorem namedEntries_upsert {entries : List CapabilityEntry} {entry : CapabilityEntry}
    (hSet : entry.id.isSet = true) (h : NamedEntries entries) :
    NamedEntries (upsert CapabilityEntry.id entry entries) := by
  refine ⟨fun held hMem => ?_, nodup_upsert h.2⟩
  rcases mem_upsert hMem with rfl | hMem
  · exact hSet
  · exact h.1 held hMem

theorem getD_lookup_id (capability : CapabilityId) (entries : List CapabilityEntry) :
    ((lookup CapabilityEntry.id capability entries).getD { id := capability }).id =
      capability := by
  cases hFound : lookup CapabilityEntry.id capability entries with
  | none => rfl
  | some entry => exact lookup_key hFound

theorem loadCapabilities_named {entries : List CapabilityEntry}
    {capabilities : List StoredCapability} (h : NamedEntries entries) :
    NamedEntries (loadCapabilities entries capabilities) := by
  induction capabilities generalizing entries with
  | nil => exact h
  | cons capability capabilities ih =>
      rw [loadCapabilities]
      split
      · rename_i hSet
        refine ih (namedEntries_upsert ?_ h)
        rw [getD_lookup_id]
        exact hSet
      · exact ih h

theorem loadClaims_named {entity : EntityId} {bound : EntityGeneration}
    {registryGeneration : RegistryGeneration} {arrivals : UInt64}
    {entries : List CapabilityEntry} {claims : List StoredClaim} (h : NamedEntries entries) :
    NamedEntries (loadClaims entity bound registryGeneration arrivals entries claims).2 := by
  induction claims generalizing arrivals entries with
  | nil => exact h
  | cons claim claims ih =>
      rw [loadClaims]
      split
      · rename_i hSet
        refine ih (namedEntries_upsert ?_ h)
        show ((lookup CapabilityEntry.id claim.capability entries).getD
          { id := claim.capability }).id.isSet = true
        rw [getD_lookup_id]
        exact hSet
      · exact ih h

/-- Loaded entries are resolved. -/
theorem loadEntity_resolved (registryGeneration : RegistryGeneration) (loading : Loading)
    (stored : StoredEntity) : (loadEntity registryGeneration loading stored).2.Resolved := by
  have hNamed : NamedEntries (loadClaims stored.id stored.bound registryGeneration
      loading.arrivalSequence (loadCapabilities [] stored.capabilities) stored.claims).2 :=
    loadClaims_named (loadCapabilities_named ⟨by simp, List.nodup_nil⟩)
  constructor
  · intro entry hMem
    obtain ⟨indexes, held, -, rfl⟩ := mem_mapAccum hMem
    rfl
  · intro entry hMem
    obtain ⟨indexes, held, hHeld, rfl⟩ := mem_mapAccum hMem
    exact hNamed.1 held hHeld
  · have hIds : (loadEntity registryGeneration loading stored).2.capabilities.map
        CapabilityEntry.id = (loadClaims stored.id stored.bound registryGeneration
          loading.arrivalSequence (loadCapabilities [] stored.capabilities)
          stored.claims).2.map CapabilityEntry.id :=
      map_mapAccum CapabilityEntry.id CapabilityEntry.id fun _ _ => rfl
    rw [hIds]
    exact hNamed.2

/-- The entity is stored with a set, bound to the generation that it is at. -/
def StoredEntity.isPublished (stored : StoredEntity) : Bool :=
  stored.hasSet && stored.bound == stored.currentGeneration && stored.currentGeneration != 0

theorem loadEntity_truthful (registryGeneration : RegistryGeneration) (loading : Loading)
    {stored : StoredEntity} (h : stored.isPublished = true) :
    (loadEntity registryGeneration loading stored).2.Truthful := by
  simp only [StoredEntity.isPublished, Bool.and_eq_true, beq_iff_eq, bne_iff_ne] at h
  exact {
    toResolved := loadEntity_resolved registryGeneration loading stored
    marked := h.1.1.symm
    present := fun set hSet => by
      rw [← Option.some.inj hSet]
      rfl
    empty := fun hNone => by
      have hFalse : stored.hasSet = false := hNone
      rw [h.1.1] at hFalse
      cases hFalse
    bound := h.1.2
    observed := h.2 }

/-- A store that can be read holds no entity without a set. -/
def loadsSets (config : PersistenceConfig) (file : Option Bytes) : Bool :=
  match Store.readStore config file with
  | .error _ => true
  | .ok (payload, _) => payload.entities.all fun stored => !stored.id.isSet || stored.isPublished

theorem load_truthful {registry : Registry} {config : PersistenceConfig} {file : Option Bytes}
    (hSets : loadsSets config file = true) (h : registry.Truthful) :
    (load registry config file).1.Truthful := by
  unfold loadsSets at hSets
  unfold load
  split
  · exact h
  · rename_i payload report hRead
    rw [hRead] at hSets
    intro id entity hFound
    obtain ⟨loading, stored, hStored, rfl⟩ := mem_mapAccum (lookup_mem hFound)
    obtain ⟨hMem, hSet⟩ := List.mem_filter.1 hStored
    have hPublished := List.all_eq_true.1 hSets stored hMem
    rw [hSet] at hPublished
    exact loadEntity_truthful _ loading hPublished

/-! ## Runs -/

/-- The step leaves no publication half done, refreshes only entities that have a set, and
loads only such. -/
def KeepsSets (registry : Registry) : Operation → Prop
  | .publish request => leavesPartial registry request = false
  | .publishBatch requests => ∀ attempt ∈ attempts registry (.publishBatch requests),
      leavesPartial attempt.before attempt.request = false
  | .fenceWorkerBoot boot _ => registry.addsFence boot = true → registry.everySet = true
  | .advanceCoordinatorEpoch _ =>
      (counterNext registry.epoch).isOk = true → registry.everySet = true
  | .invalidateEntity entity generation _ => ∀ held ∈ registry.findEntity entity,
      held.currentGeneration = generation → held.hasSet = true
  | .load config file => loadsSets config file = true
  | _ => True

instance (registry : Registry) (operation : Operation) :
    Decidable (KeepsSets registry operation) :=
  match operation with
  | .publish request => inferInstanceAs (Decidable (leavesPartial registry request = false))
  | .publishBatch requests =>
      inferInstanceAs (Decidable (∀ attempt ∈ attempts registry (.publishBatch requests), _))
  | .fenceWorkerBoot boot _ => inferInstanceAs (Decidable (registry.addsFence boot = true → _))
  | .advanceCoordinatorEpoch _ =>
      inferInstanceAs (Decidable ((counterNext registry.epoch).isOk = true → _))
  | .invalidateEntity entity _ _ =>
      inferInstanceAs (Decidable (∀ held ∈ registry.findEntity entity, _ → _))
  | .load config file => inferInstanceAs (Decidable (loadsSets config file = true))
  | .invalidateSource .. | .observeEntityGeneration .. | .registerPublisher ..
  | .retirePublisher .. | .declareAuthority .. | .registerVendorDescriptor .. | .rehash .. =>
      inferInstanceAs (Decidable True)

theorem step_truthful {registry : Registry} {operation : Operation}
    (hKeeps : KeepsSets registry operation) (h : registry.Truthful) :
    (operation.apply registry).Truthful := by
  cases operation with
  | publish request => exact publish_truthful hKeeps h
  | publishBatch requests =>
      exact publishBatch_preserves (P := Registry.Truthful)
        (fun attempt hMem hBefore => publish_truthful (hKeeps attempt hMem) hBefore) h
  | fenceWorkerBoot boot reason => exact fenceWorkerBoot_truthful hKeeps h
  | advanceCoordinatorEpoch reason => exact advanceCoordinatorEpoch_truthful hKeeps h
  | invalidateEntity entity generation reason =>
      exact invalidateEntity_truthful (fun held hFound => hKeeps held hFound) h
  | invalidateSource source reason => exact invalidateSource_truthful h
  | observeEntityGeneration entity generation reason =>
      exact observeEntityGeneration_truthful h
  | registerPublisher publisher scope workerBoot =>
      exact truthful_of_entities (registerPublisher_entities ..) h
  | retirePublisher publisher workerBoot =>
      exact truthful_of_entities (retirePublisher_entities ..) h
  | declareAuthority grant => exact truthful_of_entities (declareAuthority_entities ..) h
  | registerVendorDescriptor descriptor =>
      exact truthful_of_entities (registerVendorDescriptor_entities ..) h
  | load config file => exact load_truthful hKeeps h
  | rehash publishers => exact truthful_of_entities (rehash_entities ..) h

theorem run_truthful {options : Options} {operations : List Operation}
    (hRun : Guarded Operation.apply KeepsSets (Registry.init options) operations) :
    (afterRun options operations).Truthful := by
  refine run_invariant (P := Registry.Truthful) (fun _ _ => step_truthful) hRun ?_
  intro id entity hFound
  rw [Registry.findEntity, init_entities] at hFound
  cases hFound

/-! ## Queries -/

/-- The fields of a resolution that a query answers with. -/
def CapabilityResolution.shown (resolution : CapabilityResolution) : CapabilityResolution :=
  { resolution with
    valueDigest := .zero
    hasNonCurrentEvidence := false
    conflictingEvidence := []
    recordId := .unset }

/-- The resolution that an answer shows. -/
def CapabilityQueryResult.shown (answer : CapabilityQueryResult) : Option CapabilityResolution :=
  if answer.recordExists then
    some
      { capability := answer.capability
        state := answer.state
        value := answer.value
        hasValue := answer.hasValue
        winningEvidence := answer.winningEvidence
        provenance := answer.provenance
        sourceClass := answer.sourceClass
        coverage := answer.coverage
        durability := answer.durability
        evidenceGeneration := answer.evidenceGeneration
        sourceGeneration := answer.sourceGeneration
        capabilityGeneration := answer.capabilityGeneration
        evidenceCount := answer.evidenceCount
        currentEvidenceCount := answer.currentEvidenceCount
        outrankedEvidenceCount := answer.outrankedEvidenceCount
        conflictingEvidenceCount := answer.conflictingEvidenceCount }
  else none

/-- The two queries know the same entity at the same generation, and show the same of the
capability. -/
def QueriesAgree (registry : Registry) (entity : EntityId) (capability : CapabilityId) : Prop :=
  let answer := query registry entity capability
  match queryEntity registry entity with
  | .error _ => answer.entityKnown = false ∧ answer.shown = none
  | .ok set =>
      answer.entityKnown = true ∧ answer.entityGeneration = set.entityGeneration ∧
        answer.shown = (lookup CapabilityResolution.capability capability set.capabilities).map
          CapabilityResolution.shown

theorem lookup_resolutions {entity : EntityState} (h : entity.Resolved)
    (capability : CapabilityId) :
    lookup CapabilityResolution.capability capability entity.resolutions =
      (entity.findCapability capability).map CapabilityEntry.resolution := by
  have hKey : ∀ entry ∈ entity.capabilities, entry.resolution.capability = entry.id := by
    intro entry hMem
    rw [h.resolved entry hMem, computeResolution_capability]
  have hIds : (entity.capabilities.map CapabilityEntry.resolution).map
      CapabilityResolution.capability = entity.capabilities.map CapabilityEntry.id := by
    rw [List.map_map]
    exact List.map_congr_left hKey
  have hNodup : ((entity.capabilities.map CapabilityEntry.resolution).map
      CapabilityResolution.capability).Nodup := hIds ▸ h.distinct
  rw [EntityState.resolutions, ← lookup_perm hNodup (sortBy_perm _ _).symm]
  exact lookup_image hKey

theorem queriesAgree_of_truthful {registry : Registry} (h : registry.Truthful)
    (entity : EntityId) (capability : CapabilityId) : QueriesAgree registry entity capability := by
  unfold QueriesAgree queryEntity query
  dsimp only
  cases hFound : registry.findEntity entity with
  | none => exact ⟨rfl, rfl⟩
  | some record =>
      have hTruthful : record.Truthful := h entity record hFound
      dsimp only
      cases hSet : record.set with
      | none =>
          have hNone : record.hasSet = false := by
            rw [← hTruthful.marked, hSet]
            rfl
          have hMissing : record.findCapability capability = none := by
            rw [EntityState.findCapability, hTruthful.empty hNone]
            rfl
          rw [hMissing]
          exact ⟨rfl, rfl, rfl⟩
      | some set =>
          have hPresent := hTruthful.present set hSet
          have hLookup : lookup CapabilityResolution.capability capability set.capabilities =
              (record.findCapability capability).map CapabilityEntry.resolution := by
            rw [hPresent]
            exact lookup_resolutions hTruthful.toResolved capability
          have hGeneration : record.currentGeneration = set.entityGeneration := by
            rw [hPresent]
            exact hTruthful.bound.symm
          rw [Option.getD_some, hLookup]
          cases hEntry : record.findCapability capability with
          | none => exact ⟨rfl, hGeneration, rfl⟩
          | some entry =>
              have hMem : entry ∈ record.capabilities := lookup_mem hEntry
              have hId : entry.id = capability := lookup_key hEntry
              have hNamed : entry.resolution.capability = capability := by
                rw [hTruthful.resolved entry hMem, computeResolution_capability, hId]
              have hShown : entry.resolution.capability.isSet = true := by
                rw [hNamed, ← hId]
                exact hTruthful.named entry hMem
              dsimp only
              rw [if_pos hShown]
              refine ⟨rfl, hGeneration, ?_⟩
              rw [Option.map_some, Option.map_some, CapabilityResolution.shown, hNamed]
              rfl

/-! ## The published set -/

/-- The entity with every entry resolved again from the evidence that it holds now. -/
def EntityState.evaluated (entity : EntityState) : EntityState :=
  { entity with
    capabilities := entity.capabilities.map fun entry =>
      { entry with resolution := computeResolution entity.id entity.boundGeneration entry } }

theorem EntityState.Resolved.evaluated {entity : EntityState} (h : entity.Resolved) :
    entity.evaluated = entity := by
  have hEntries : (entity.capabilities.map fun entry =>
      ({ entry with
        resolution := computeResolution entity.id entity.boundGeneration entry } :
          CapabilityEntry)) = entity.capabilities := by
    refine (List.map_congr_left fun entry hMem => ?_).trans (List.map_id _)
    rw [← h.resolved entry hMem]
    rfl
  rw [EntityState.evaluated, hEntries]

/-- In a run that leaves no publication half done, refreshes only entities that have a set
and loads only such, an entity has a set exactly when it is marked so, the set is what the
evidence held now gives, and the two queries agree on every capability. -/
theorem published_set_is_present_truth (options : Options) (operations : List Operation)
    (hRun : Guarded Operation.apply KeepsSets (Registry.init options) operations) :
    (∀ id entity, (afterRun options operations).findEntity id = some entity →
      entity.set.isSome = entity.hasSet ∧
        ∀ set ∈ entity.set, set = materialize set.registryGeneration entity.evaluated) ∧
    ∀ id capability, QueriesAgree (afterRun options operations) id capability := by
  have hTruthful := run_truthful hRun
  refine ⟨fun id entity hFound => ?_, queriesAgree_of_truthful hTruthful⟩
  have hEntity : entity.Truthful := hTruthful id entity hFound
  refine ⟨hEntity.marked, fun set hSet => ?_⟩
  rw [hEntity.evaluated]
  exact hEntity.present set hSet

/-- A publication and the fence of its boot. -/
theorem fenced_set_is_present_truth :
    let operations := Sample.setup ++
      [.publish (Sample.publication Sample.bootOne "attempt-1" 1 0
          (Sample.claim .supported .processBound)),
        .fenceWorkerBoot Sample.bootOne .unset]
    ∀ id capability, QueriesAgree (afterRun {} operations) id capability :=
  (published_set_is_present_truth {} _ (by decide +kernel)).2

/-- The fence of a boot refreshes an entity that was only observed: it has a set that it is
not marked to have. -/
theorem fence_of_observed_entity :
    ((afterRun {} [.observeEntityGeneration Sample.entity 1 .unset,
        .fenceWorkerBoot Sample.bootOne .unset]).findEntity Sample.entity).map
      (fun entity => (entity.set.isSome, entity.hasSet)) = some (true, false) := by
  decide +kernel

end FabricCapability.Ports
