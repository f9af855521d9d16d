import FabricCapability.Ports.Deployments
import FabricCapability.Ports.EntryRules

/-!
# Retired generations

An entity holds the evidence of one generation.  A publication or an observation of a later
one retires what is held: the evidence goes, and a summary of the set that was served joins
the history.

The summary takes the digest and the counts from the set, but the set generation from the
entity.  The two agree as long as every change of the set generation is followed by a new
set.  There is one exception: stage 11 advances the set generation before it knows whether
the registry generation can be advanced, and fails without a new set when it cannot.

## Main results

* `generational_rule`: every operation keeps the evidence at the current generation and the
  history below it.
* `generations_are_isolated`: deployments in which no commit fails on the registry
  generation.
* `exhausted_registry_misdates_generation`: a summary with a set generation that was never
  served.
-/

namespace FabricCapability.Ports

open FabricCapability.Verified.KeyedList
open FabricCapability.Verified.Restores
open FabricCapability.Verified.Runs

/-! ## The summary of a retired set -/

/-- What `RetireGeneration` writes about a set. -/
def EntityState.retiredSummary (entity : EntityState) (registryGeneration : RegistryGeneration)
    (reason : ReasonToken) (set : EntityCapabilitySet) : EntityGenerationSummary :=
  { generation := entity.boundGeneration
    setGeneration := entity.setGeneration
    digest := set.digest
    capabilityCount := set.capabilities.length
    supportedCount := set.countOf .supported
    retiredAt := registryGeneration
    reason }

theorem retireGeneration_history (options : Options) (registryGeneration : RegistryGeneration)
    (entity : EntityState) (next : EntityGeneration) (reason : ReasonToken) :
    (retireGeneration options registryGeneration entity next reason).history = entity.history ∨
      ∃ set capabilityIds, entity.hasSet = true ∧ entity.set = some set ∧
        (retireGeneration options registryGeneration entity next reason).history =
          (⟨entity.retiredSummary registryGeneration reason set, capabilityIds⟩ ::
            entity.history).take options.maxEntityGenerationsRetained := by
  unfold retireGeneration
  cases hHasSet : entity.hasSet with
  | false => exact .inl rfl
  | true =>
      cases hSet : entity.set with
      | none => exact .inl rfl
      | some set => exact .inr ⟨set, _, rfl, rfl, rfl⟩

/-- The generations of a history, from the latest one. -/
def generationsOf (history : List RetainedGeneration) : List EntityGeneration :=
  history.map fun retained => retained.summary.generation

/-! ## What every operation keeps -/

/-- The evidence of an entity is of its generation, and the history lies below it. -/
structure EntityState.Generational (entity : EntityState) : Prop where
  bound : entity.BoundCurrent
  known : entity.currentGeneration ≠ 0
  stamped : AllEntries (fun entry => ∀ record ∈ entry.evidence,
    record.entityGeneration = entity.currentGeneration) entity
  descending : (entity.currentGeneration :: generationsOf entity.history).Pairwise (· > ·)

theorem EntityState.Generational.congr {a b : EntityState} (h : a.Generational)
    (hGeneration : b.currentGeneration = a.currentGeneration)
    (hBound : b.boundGeneration = a.boundGeneration)
    (hCapabilities : b.capabilities = a.capabilities) (hHistory : b.history = a.history) :
    b.Generational where
  bound := by
    rw [EntityState.BoundCurrent, hBound, hGeneration]
    exact h.bound
  known := hGeneration ▸ h.known
  stamped := by
    rw [AllEntries, hCapabilities, hGeneration]
    exact h.stamped
  descending := by
    rw [hGeneration, hHistory]
    exact h.descending

theorem EntityState.Generational.retired {entity : EntityState} (h : entity.Generational)
    (options : Options) (registryGeneration : RegistryGeneration) {next : EntityGeneration}
    (reason : ReasonToken) (hAbove : entity.currentGeneration < next) :
    (retireGeneration options registryGeneration entity next reason).Generational where
  bound := rfl
  known := by
    intro hZero
    have hNext : next = 0 := hZero
    subst hNext
    exact absurd hAbove (UInt64.not_lt.2 UInt64.zero_le)
  stamped entry hMem := by cases hMem
  descending := by
    have hBelow : (next :: entity.currentGeneration :: generationsOf entity.history).Pairwise
        (· > ·) := by
      refine List.pairwise_cons.2 ⟨fun generation hMem => ?_, h.descending⟩
      rcases List.mem_cons.1 hMem with rfl | hMem
      · exact hAbove
      · exact UInt64.lt_trans ((List.pairwise_cons.1 h.descending).1 _ hMem) hAbove
    show (next :: generationsOf _).Pairwise (· > ·)
    rcases retireGeneration_history options registryGeneration entity next reason with
      hSame | ⟨set, capabilityIds, -, -, hTaken⟩
    · rw [hSame]
      exact hBelow.sublist ((List.sublist_cons_self _ _).cons_cons _)
    · rw [hTaken]
      refine hBelow.sublist (List.Sublist.cons_cons _ ?_)
      unfold generationsOf
      rw [List.map_take, List.map_cons]
      have hBound : entity.boundGeneration = entity.currentGeneration := h.bound
      simp only [EntityState.retiredSummary, hBound]
      exact List.take_sublist _ _

/-- The stamps survive what keeps every record up to its label. -/
theorem EntityState.Generational.relabelled {entity : EntityState} (h : entity.Generational)
    (matching : EvidenceRecord → Bool) (currentness : EvidenceCurrentness)
    (reason : ReasonToken) (indexes : Indexes) :
    (relabelEntity matching currentness reason indexes entity).2.Generational where
  bound := h.bound
  known := h.known
  stamped := by
    refine EntriesGrow.invariant (relabelEntity_grows (fun _ hEntry => hEntry) ?_)
      (fun _ record hMem => by cases hMem) h.stamped
    intro entry _ hEntry record hMem
    obtain ⟨held, hHeld, rfl | rfl⟩ := mem_relabel hMem
    · exact hEntry _ hHeld
    · exact hEntry held hHeld
  descending := h.descending

theorem generational_rule : EntityRule fun a b => a.Generational → b.Generational where
  refl _ := id
  trans _ _ _ hab hbc := hbc ∘ hab
  retired options registryGeneration _ _ reason _ hAbove h :=
    (h.retired options registryGeneration reason hAbove).congr rfl rfl rfl rfl
  exhausted _ _ _ h := h.congr rfl rfl rfl rfl
  committed registry advanced entity next request hAdvance h := by
    have hNext := (advanceGenerations_ok hAdvance).2.1
    have hCurrent : next.currentGeneration = entity.currentGeneration := by rw [hNext]
    have hCapabilities : next.capabilities = entity.capabilities := by rw [hNext]
    have hHistory : next.history = entity.history := by rw [hNext]
    exact h.congr hCurrent (hCurrent.trans h.bound.symm) hCapabilities hHistory
  observed _ _ hUnset _ h := absurd hUnset h.known
  relabelled matching currentness reason indexes _ h :=
    h.relabelled matching currentness reason indexes
  flagged _ _ h := h.congr rfl rfl rfl rfl
  refreshed _ _ _ h := h.congr rfl rfl rfl rfl

/-- A change of an entry leaves its records at their generation; a new record takes the one
that the entity is bound to. -/
theorem EntryChange.stamped {registry : Registry} {request : PublicationRequest} {cell : Cell}
    {step : ApplyStep} {ok : Bool} {entry later : CapabilityEntry}
    (hChange : EntryChange registry request cell step ok entry later)
    {generation : EntityGeneration} (hBound : cell.entity.boundGeneration = generation)
    (h : ∀ record ∈ entry.evidence, record.entityGeneration = generation) :
    ∀ record ∈ later.evidence, record.entityGeneration = generation := by
  have hRelabelled : ∀ (matching : EvidenceRecord → Bool) (reason : ReasonToken),
      ∀ record ∈ relabel matching .superseded reason entry.evidence,
        record.entityGeneration = generation := by
    intro matching reason record hMem
    obtain ⟨held, hHeld, rfl | rfl⟩ := mem_relabel hMem
    · exact h _ hHeld
    · exact h held hHeld
  have hRetained : ∀ record ∈ retainedEvidence registry request entry,
      record.entityGeneration = generation := fun record hMem =>
    hRelabelled _ _ record ((trimEvidence_sublist _ _).subset hMem)
  have hAppended : ∀ claim coverage, ∀ record ∈ retainedEvidence registry request entry ++
      [appendedRecord registry request cell claim coverage entry],
        record.entityGeneration = generation := by
    intro claim coverage record hMem
    rcases List.mem_append.1 hMem with hKept | hNew
    · exact hRetained record hKept
    · rw [List.mem_singleton.1 hNew]
      exact hBound
  cases hChange with
  | superseded => exact hRelabelled _ _
  | withdrawn => exact hRelabelled _ _
  | unwithdrawn => exact hRelabelled _ _
  | trimmed => exact hRetained
  | unapplied => exact hAppended _ _
  | applied => exact hAppended _ _

theorem applies_generational (registry : Registry) (request : PublicationRequest) :
    AppliesWithin (fun a b => a.Generational → b.Generational) registry request := by
  intro _ grant bound entity _ _ _ h
  have hSame := runSteps_entity bound request (applySteps bound.schema grant request)
    (bound.cell entity)
  have hGrows : EntriesGrow (fun entry later =>
      (∀ record ∈ entry.evidence, record.entityGeneration = entity.currentGeneration) →
        ∀ record ∈ later.evidence, record.entityGeneration = entity.currentGeneration)
      (bound.cell entity).entity (runSteps bound request (bound.cell entity)
        (applySteps bound.schema grant request)).1.entity := by
    refine runSteps_grows (fun _ => id) (fun _ _ _ hab hbc => hbc ∘ hab) ?_
    intro later hLater step _ ok entry entry' hChange hEntry
    have hBound : later.entity.boundGeneration = entity.boundGeneration := by rw [hLater]; rfl
    exact hChange.stamped (hBound.trans h.bound) hEntry
  refine ⟨hSame.boundCurrent h.bound, ?_, ?_, ?_⟩
  · rw [hSame.currentGeneration_eq]
    exact h.known
  · rw [AllEntries, hSame.currentGeneration_eq]
    exact hGrows.invariant (fun _ record hMem => by cases hMem) h.stamped
  · have hHistory : (runSteps bound request (bound.cell entity)
        (applySteps bound.schema grant request)).1.entity.history = entity.history := by
      rw [hSame]
      rfl
    rw [hSame.currentGeneration_eq, hHistory]
    exact h.descending

/-! ## Set generations -/

/-- The set that is served carries the set generation of its entity. -/
def EntityState.Served (entity : EntityState) : Prop :=
  entity.hasSet = true → ∀ set ∈ entity.set, set.setGeneration = entity.setGeneration

theorem EntityState.Served.of_unset {entity : EntityState} (h : entity.set = none) :
    entity.Served := by
  intro _ set hSet
  rw [h] at hSet
  cases hSet

theorem EntityState.Served.congr {a b : EntityState} (h : a.Served) (hHasSet : b.hasSet = a.hasSet)
    (hSet : b.set = a.set) (hGeneration : b.setGeneration = a.setGeneration) : b.Served := by
  unfold EntityState.Served
  rw [hHasSet, hSet, hGeneration]
  exact h

theorem served_rule : RefreshRule fun a b => a.Served → b.Served where
  refl _ := id
  trans _ _ _ hab hbc := hbc ∘ hab
  relabelled _ _ _ _ _ h := h.congr rfl rfl rfl
  flagged _ _ h := h.congr rfl rfl rfl
  refreshed _ _ _ _ := fun _ set hSet => by
    rw [← Option.some.inj hSet]
    rfl

/-- A publication that is applied to a served set and changes it, and then fails: the set
generation can be advanced, the registry generation cannot. -/
def overtakes (registry : Registry) (request : PublicationRequest) : Bool :=
  match admitted registry request with
  | none => false
  | some (grant, bound, entity) =>
      let ran := runSteps bound request (bound.cell entity)
        (applySteps bound.schema grant request)
      ran.2.isOk && entity.hasSet && semanticChange entity.set ran.1.entity &&
        (counterNext entity.setGeneration).isOk && !(counterNext bound.registryGeneration).isOk

/-- A commit that fails has advanced the set generation only if the registry generation was
exhausted. -/
theorem commit_failed_kept {registry after : Registry} {request : PublicationRequest}
    {before : Option EntityCapabilitySet} {entity later : EntityState} {steps : List ApplyStep}
    {contentDigest : Bytes} {e : Error}
    (hFound : registry.findEntity entity.id = some entity)
    (h : commit registry request before entity steps contentDigest = (after, .error e))
    (hLater : after.findEntity entity.id = some later) :
    later = entity ∨ (counterNext entity.setGeneration).isOk = true ∧
      (counterNext registry.registryGeneration).isOk = false := by
  have hAdvance := commit_error h
  unfold advanceGenerations at hAdvance
  split at hAdvance
  · split at hAdvance
    · cases hAdvance
      rw [hFound, Option.some.injEq] at hLater
      exact .inl hLater.symm
    · rename_i hSet
      dsimp only at hAdvance
      split at hAdvance
      · rename_i hRegistry
        right
        rw [hSet, hRegistry]
        exact ⟨rfl, rfl⟩
      · cases hAdvance
  · cases hAdvance

/-! ## Histories -/

/-- How an entity of a later registry comes from what the registry held. -/
inductive Continues (registry : Registry) (later : EntityState) : Prop
  | created (missing : registry.findEntity later.id = none) (history : later.history = [])
  | kept {held : EntityState} (found : registry.findEntity later.id = some held)
      (history : later.history = held.history)
  | retired {held : EntityState} {options : Options} {registryGeneration : RegistryGeneration}
      {reason : ReasonToken} (found : registry.findEntity later.id = some held)
      (above : held.currentGeneration < later.currentGeneration)
      (history : later.history = (retireGeneration options registryGeneration held
        later.currentGeneration reason).history)

theorem Continues.congr {registry : Registry} {entity later : EntityState}
    (h : Continues registry entity) (hId : later.id = entity.id)
    (hGeneration : later.currentGeneration = entity.currentGeneration)
    (hHistory : later.history = entity.history) : Continues registry later := by
  cases h with
  | created missing history => exact .created (hId ▸ missing) (hHistory.trans history)
  | kept found history => exact .kept (hId ▸ found) (hHistory.trans history)
  | retired found above history =>
      rw [← hGeneration] at above history
      exact .retired (hId ▸ found) above (hHistory.trans history)

theorem continues_self {registry : Registry} {id : EntityId} {entity : EntityState}
    (h : registry.findEntity id = some entity) : Continues registry entity :=
  .kept (findEntity_id h ▸ h) rfl

theorem bindGeneration_continues {base registry : Registry} {request : PublicationRequest}
    {held later : EntityState} (hFound : registry.findEntity request.entity = some held)
    (hHeld : base.findEntity request.entity = some held ∨
      (base.findEntity request.entity = none ∧ held.history = [] ∧
        held.currentGeneration = request.entityGeneration))
    (h : (bindGeneration registry request held).1.findEntity request.entity = some later) :
    Continues base later := by
  have hId : held.id = request.entity := findEntity_id hFound
  have hKept : Continues base held := by
    rcases hHeld with hHeld | ⟨hMissing, hHistory, -⟩
    · exact continues_self hHeld
    · exact .created (hId ▸ hMissing) hHistory
  unfold bindGeneration at h
  split at h
  · exact Option.some.inj (hFound.symm.trans h) ▸ hKept
  · split at h
    · rename_i hAbove
      have hBase : base.findEntity request.entity = some held := by
        rcases hHeld with hHeld | ⟨-, -, hSame⟩
        · exact hHeld
        · rw [hSame] at hAbove
          exact absurd hAbove (UInt64.lt_irrefl _)
      dsimp only at h
      split at h
      · rw [findEntity_setEntity (by exact hId), Option.some.injEq] at h
        rw [← h]
        exact .retired (hId ▸ hBase) hAbove rfl
      · rw [findEntity_setEntity (by exact hId), Option.some.injEq] at h
        rw [← h]
        exact .retired (hId ▸ hBase) hAbove rfl
    · exact Option.some.inj (hFound.symm.trans h) ▸ hKept

theorem bindEntity_continues {registry : Registry} {request : PublicationRequest}
    {later : EntityState}
    (h : (bindEntity registry request).1.findEntity request.entity = some later) :
    Continues registry later := by
  unfold bindEntity at h
  split at h
  · rename_i held hFound
    exact bindGeneration_continues hFound (.inl hFound) h
  · rename_i hMissing
    split at h
    · exact continues_self h
    · refine bindGeneration_continues ?_ (.inr ⟨hMissing, rfl, rfl⟩) h
      unfold Registry.findEntity at hMissing ⊢
      rw [lookup_append_right hMissing]
      simp [lookup, newEntity]

/-- What stages 7 to 11 leave of the entity that stage 6 bound. -/
structure Carries (entity later : EntityState) : Prop where
  id : later.id = entity.id
  generation : later.currentGeneration = entity.currentGeneration
  history : later.history = entity.history
  served : entity.Served → later.Served

theorem SameEntity.carries {entity later : EntityState} (h : SameEntity entity later) :
    Carries entity later := by
  unfold SameEntity at h
  refine ⟨?_, ?_, ?_, fun hServed => hServed.congr ?_ ?_ ?_⟩
  all_goals rw [h]

/-- A commit that succeeds serves a new set under the set generation of the entity. -/
theorem Committed.carries {registry after : Registry} {request : PublicationRequest}
    {result : PublicationResult} (c : Committed registry request after result)
    {later : EntityState} (hLater : after.findEntity request.entity = some later) :
    Carries c.entity later := by
  obtain ⟨registryGeneration, next, hFound, hNext, -⟩ := c.entity_after
  have hSame := c.published_same.carries
  rw [hLater, Option.some.injEq] at hFound
  rw [hFound]
  refine ⟨?_, ?_, ?_, fun _ _ set hSet => ?_⟩
  · rw [committedEntity_id, hNext]
    exact hSame.id
  · rw [committedEntity_currentGeneration, hNext]
    exact hSame.generation
  · show next.history = _
    rw [hNext]
    exact hSame.history
  · rw [← Option.some.inj hSet]
    rfl

/-- An admitted publication carries the bound entity on, unless its commit overtakes the
registry generation. -/
theorem admitted_carries {registry bound : Registry} {request : PublicationRequest}
    {grant : AuthorityGrant} {entity later : EntityState}
    (hAdmitted : admitted registry request = some (grant, bound, entity))
    (hKeeps : overtakes registry request = false)
    (hLater : (publish registry request).1.findEntity request.entity = some later) :
    Carries entity later := by
  obtain ⟨runtime, hValid, hBind, hFresh, hChecked⟩ := admitted_some hAdmitted
  obtain ⟨hId, -, hFound, -⟩ := bindEntity_ok hBind
  have hRan := runSteps_entity bound request (applySteps bound.schema grant request)
    (bound.cell entity)
  rw [publish_admitted hAdmitted] at hLater
  unfold overtakes at hKeeps
  rw [hAdmitted] at hKeeps
  dsimp only at hKeeps
  have hIsOk := applyRequest_isOk bound request entity (applySteps bound.schema grant request)
  cases hApply : applyRequest bound request entity (applySteps bound.schema grant request) with
  | mk applied outcome =>
      rw [hApply] at hLater hIsOk
      cases outcome with
      | error e =>
          dsimp only at hLater
          rw [reject_registry] at hLater
          obtain ⟨-, hLeft⟩ := applyRequest_failed_entity hId hApply hLater
          rw [hLeft]
          exact hRan.carries
      | ok published =>
          dsimp only at hLater
          obtain ⟨hSame, hApplied, hPublished⟩ := applyRequest_entity hApply
          have hPublishedId : published.id = request.entity := hSame.id_eq.trans hId
          cases hCommit : commit applied request entity.set published
              (applySteps bound.schema grant request)
              (requestContentDigest request grant).toText with
          | mk after answer =>
              rw [hCommit] at hLater
              dsimp only at hLater
              cases answer with
              | ok result =>
                  exact Committed.carries ⟨runtime, grant, bound, entity, applied, published,
                    hValid, hBind, hFresh, hChecked, hApply, hCommit⟩ hLater
              | error e =>
                  have hPublishedFound := applyRequest_found hApply
                  have hLeft := commit_failed_entity hPublishedFound hCommit
                    (hPublishedId ▸ hLater)
                  have hCarries := hSame.carries
                  rw [hLeft]
                  refine ⟨hCarries.id, hCarries.generation, hCarries.history, fun hServed => ?_⟩
                  rcases commit_failed_kept hPublishedFound hCommit (hPublishedId ▸ hLater) with
                    hKept | ⟨hSet, hRegistry⟩
                  · rw [← hLeft, hKept]
                    exact hCarries.served hServed
                  · -- only a set that is not served was overtaken
                    have hGenerations : applied.registryGeneration = bound.registryGeneration := by
                      rw [hApplied]
                      rfl
                    have hRunOk : (runSteps bound request (bound.cell entity)
                        (applySteps bound.schema grant request)).2.isOk = true := hIsOk.symm
                    rw [hSame.setGeneration_eq] at hSet
                    rw [hGenerations] at hRegistry
                    rw [hRunOk, ← hPublished, (commit_failed hCommit).1, hSet, hRegistry] at hKeeps
                    intro hHasSet
                    have hHeld : entity.hasSet = true := hSame.hasSet_eq ▸ hHasSet
                    rw [hHeld] at hKeeps
                    cases hKeeps

/-! ## One transition -/

def Registry.Serves (registry : Registry) : Prop :=
  ∀ id entity, registry.findEntity id = some entity → entity.Served

/-- Every entity of the second registry comes from the first one. -/
def Carried (a b : Registry) : Prop :=
  ∀ id later, b.findEntity id = some later → Continues a later ∧ (a.Serves → later.Served)

theorem carried_refl (registry : Registry) : Carried registry registry :=
  fun id _ hFound => ⟨continues_self hFound, fun h => h id _ hFound⟩

theorem carries_rule : RefreshRule Carries where
  refl _ := ⟨rfl, rfl, rfl, id⟩
  trans _ _ _ hab hbc := ⟨hbc.id.trans hab.id, hbc.generation.trans hab.generation,
    hbc.history.trans hab.history, hbc.served ∘ hab.served⟩
  relabelled matching currentness reason indexes entity :=
    ⟨rfl, rfl, rfl, served_rule.relabelled matching currentness reason indexes entity⟩
  flagged entity reason := ⟨rfl, rfl, rfl, served_rule.flagged entity reason⟩
  refreshed registryGeneration entity touchedAt :=
    ⟨rfl, rfl, rfl, served_rule.refreshed registryGeneration entity touchedAt⟩

theorem carried_of_follows {a b : Registry} (h : Follows Carries a b) : Carried a b := by
  intro id later hLater
  have hId : later.id = id := findEntity_id hLater
  rcases h.grows.found hLater with ⟨held, hHeld, hCarries⟩ | ⟨hMissing, _, ⟨_, _, _, _, rfl⟩, -, hCarries⟩
  · exact ⟨.kept (hId ▸ hHeld) hCarries.history, fun hServes => hCarries.served (hServes id held hHeld)⟩
  · exact ⟨.created (hId ▸ hMissing) hCarries.history,
      fun _ => hCarries.served (.of_unset rfl)⟩

theorem publish_carried {registry : Registry} {request : PublicationRequest}
    (hKeeps : overtakes registry request = false) :
    Carried registry (publish registry request).1 := by
  intro id later hLater
  by_cases hId : request.entity = id
  · subst hId
    have hBound : ∀ entity,
        (bindEntity registry request).1.findEntity request.entity = some entity →
        Continues registry entity ∧ (registry.Serves → entity.Served) := by
      intro entity hFound
      refine ⟨bindEntity_continues hFound, fun hServes => ?_⟩
      rcases bindEntity_at hFound with hHeld | ⟨hFresh, -⟩
      · exact hServes _ entity hHeld
      · exact .of_unset hFresh.set
    cases hAdmitted : admitted registry request with
    | none =>
        obtain ⟨journal, hLeft | ⟨-, hLeft⟩⟩ := publish_unadmitted hAdmitted
        · rw [hLeft] at hLater
          exact carried_refl registry _ later hLater
        · rw [hLeft] at hLater
          exact hBound later hLater
    | some admission =>
        obtain ⟨grant, bound, entity⟩ := admission
        obtain ⟨runtime, -, hBind, -⟩ := admitted_some hAdmitted
        obtain ⟨-, -, hFound, -⟩ := bindEntity_ok hBind
        rw [hBind] at hBound
        obtain ⟨hContinues, hServed⟩ := hBound entity hFound
        have hCarries := admitted_carries hAdmitted hKeeps hLater
        exact ⟨hContinues.congr hCarries.id hCarries.generation hCarries.history,
          fun hServes => hCarries.served (hServed hServes)⟩
  · rw [publish_other _ hId] at hLater
    exact carried_refl registry id later hLater

theorem carried_setEntity {base registry : Registry} {entity : EntityState}
    (hBase : base.entities = registry.entities) (hContinues : Continues registry entity)
    (hServed : registry.Serves → entity.Served) : Carried registry (base.setEntity entity) := by
  intro id later hLater
  by_cases hId : entity.id = id
  · rw [findEntity_setEntity hId, Option.some.injEq] at hLater
    exact hLater ▸ ⟨hContinues, hServed⟩
  · rw [findEntity_setEntity_ne _ hId, Registry.findEntity, hBase] at hLater
    exact carried_refl registry id later hLater

theorem observeEntityGeneration_carried (registry : Registry) (entity : EntityId)
    (generation : EntityGeneration) (reason : ReasonToken) :
    Carried registry (observeEntityGeneration registry entity generation reason).1 := by
  unfold observeEntityGeneration
  split
  · exact carried_refl registry
  · rename_i hSet
    have hNe : generation ≠ 0 := by
      rintro rfl
      exact hSet (by simp)
    split
    · rename_i hMissing
      split
      · exact carried_refl registry
      · exact carried_of_follows (Follows.append carries_rule.refl _ hMissing hNe)
    · rename_i held hFound
      have hHeld : registry.findEntity held.id = some held := findEntity_id hFound ▸ hFound
      split
      · exact carried_setEntity rfl (.kept hHeld rfl)
          fun hServes => (hServes _ held hFound).congr rfl rfl rfl
      · split
        · exact carried_refl registry
        · rename_i hNotBelow
          split
          · exact carried_refl registry
          · rename_i hOther
            have hAbove : held.currentGeneration < generation :=
              UInt64.lt_of_le_of_ne (UInt64.not_lt.1 hNotBelow) (Ne.symm hOther)
            dsimp only
            split
            · exact carried_setEntity rfl (.retired hHeld hAbove rfl) fun _ => .of_unset rfl
            · exact carried_setEntity rfl (.retired hHeld hAbove rfl) fun _ => .of_unset rfl

/-- A call that is no publication. -/
theorem call_carried {registry : Registry} {operation : Operation}
    (hNoLoad : NoLoad registry operation) (hOther : operation.isPublication = false) :
    Carried registry (operation.apply registry) := by
  cases hRefreshes : operation.refreshes with
  | true => exact carried_of_follows (refreshStep_follows carries_rule hRefreshes)
  | false =>
      have hSame : (operation.apply registry).entities = registry.entities →
          Carried registry (operation.apply registry) :=
        fun hEntities => carried_of_follows (Follows.of_entities carries_rule.refl hEntities)
      cases operation with
      | observeEntityGeneration entity generation reason =>
          exact observeEntityGeneration_carried registry entity generation reason
      | registerPublisher publisher scope workerBoot => exact hSame (registerPublisher_entities ..)
      | retirePublisher publisher workerBoot => exact hSame (retirePublisher_entities ..)
      | declareAuthority grant => exact hSame (declareAuthority_entities ..)
      | registerVendorDescriptor descriptor => exact hSame (registerVendorDescriptor_entities ..)
      | rehash publishers => exact hSame (rehash_entities ..)
      | load config file => cases hNoLoad
      | publish request => cases hOther
      | publishBatch requests => cases hOther
      | _ => cases hRefreshes

/-! ## Deployments -/

/-- The summary describes the set.  The counts are of type `size_t`. -/
def Describes (summary : EntityGenerationSummary) (set : EntityCapabilitySet) : Prop :=
  summary.digest = set.digest ∧ summary.setGeneration = set.setGeneration ∧
    UInt64.ofNat summary.capabilityCount = UInt64.ofNat set.capabilities.length ∧
    UInt64.ofNat summary.supportedCount = UInt64.ofNat (set.countOf .supported)

instance (summary : EntityGenerationSummary) (set : EntityCapabilitySet) :
    Decidable (Describes summary set) :=
  inferInstanceAs (Decidable (_ ∧ _ ∧ _ ∧ _))

/-- The transition retires the generation that the summary names, and the summary describes
the set that was served before it. -/
def Transition.Retires (transition : Transition) (id : EntityId)
    (summary : EntityGenerationSummary) : Prop :=
  match transition.before.findEntity id, transition.after.findEntity id with
  | some held, some later =>
      held.currentGeneration = summary.generation ∧
        held.currentGeneration < later.currentGeneration ∧
        ∃ set ∈ held.set, Describes summary set
  | _, _ => False

/-- The history of the entity was written by the transitions. -/
def EntityState.WrittenBy (entity : EntityState) (past : List Transition) : Prop :=
  ∀ retained ∈ entity.history, ∃ transition ∈ past,
    transition.Retires entity.id retained.summary

theorem EntityState.WrittenBy.mono {entity : EntityState} {past more : List Transition}
    (h : entity.WrittenBy past) (hSubset : past ⊆ more) : entity.WrittenBy more := by
  intro retained hMem
  obtain ⟨transition, hPast, hRetires⟩ := h retained hMem
  exact ⟨transition, hSubset hPast, hRetires⟩

/-- The invariant of a deployment. -/
structure Isolated (past : List Transition) (registry : Registry) : Prop where
  distinct : registry.Distinct
  generational : ∀ entity ∈ registry.entities, entity.Generational
  serves : registry.Serves
  written : ∀ id entity, registry.findEntity id = some entity → entity.WrittenBy past

/-- A transition that carries the entities on writes what it adds to their histories. -/
theorem written_of_carried {past : List Transition} {a b : Registry} (h : Isolated past a)
    (hCarried : Carried a b) {id : EntityId} {later : EntityState}
    (hLater : b.findEntity id = some later) : later.WrittenBy (past ++ [⟨a, b⟩]) := by
  have hId : later.id = id := findEntity_id hLater
  subst hId
  have hOld : ∀ held, a.findEntity later.id = some held → ∀ retained ∈ held.history,
      ∃ transition ∈ past ++ [⟨a, b⟩], transition.Retires later.id retained.summary := by
    intro held hFound retained hMem
    obtain ⟨transition, hPast, hRetires⟩ := h.written _ held hFound retained hMem
    exact ⟨transition, List.mem_append_left _ hPast, findEntity_id hFound ▸ hRetires⟩
  intro retained hMem
  cases (hCarried _ later hLater).1 with
  | created _ hHistory =>
      rw [hHistory] at hMem
      cases hMem
  | kept hFound hHistory =>
      rw [hHistory] at hMem
      exact hOld _ hFound retained hMem
  | @retired held options registryGeneration reason hFound hAbove hHistory =>
      rw [hHistory] at hMem
      rcases retireGeneration_history options registryGeneration held later.currentGeneration
        reason with hSame | ⟨set, capabilityIds, hHasSet, hSet, hTaken⟩
      · rw [hSame] at hMem
        exact hOld held hFound retained hMem
      · rw [hTaken] at hMem
        rcases List.mem_cons.1 (List.mem_of_mem_take hMem) with rfl | hHeld
        · refine ⟨⟨a, b⟩, List.mem_append_right _ (List.mem_singleton_self _), ?_⟩
          have hBound : held.boundGeneration = held.currentGeneration :=
            (h.generational held (lookup_mem hFound)).bound
          have hServed : set.setGeneration = held.setGeneration :=
            h.serves _ held hFound hHasSet set hSet
          unfold Transition.Retires
          rw [hFound, hLater]
          exact ⟨hBound.symm, hAbove, set, hSet, rfl, hServed.symm, rfl, rfl⟩
        · exact hOld held hFound retained hHeld

theorem isolated_of_carried {past : List Transition} {a b : Registry} (h : Isolated past a)
    (hFollows : Follows (fun held later => held.Generational → later.Generational) a b)
    (hCarried : Carried a b) : Isolated (past ++ [⟨a, b⟩]) b where
  distinct := hFollows.distinct h.distinct
  generational := by
    refine hFollows.invariant (fun registryGeneration id generation hNe => ?_) h.generational
    exact ⟨rfl, hNe, fun _ hMem => (by cases hMem), List.pairwise_singleton _ _⟩
  serves id later hLater := (hCarried id later hLater).2 h.serves
  written _ later hLater := written_of_carried h hCarried hLater

/-- No publication of the step fails because of an exhausted registry generation after it
has advanced a set generation. -/
def NeverOvertakes (registry : Registry) (operation : Operation) : Prop :=
  ∀ attempt ∈ attempts registry operation, overtakes attempt.before attempt.request = false

theorem call_isolated {past : List Transition} {registry : Registry} {operation : Operation}
    (hNoLoad : NoLoad registry operation) (hKeeps : NeverOvertakes registry operation)
    (h : Isolated past registry) :
    Isolated (past ++ transitions registry operation) (operation.apply registry) := by
  refine call_history (fun past attempt hMem hBefore => ?_) (fun hOther hBefore => ?_) h
  · exact isolated_of_carried hBefore
      (publish_follows generational_rule.toPublishRule (applies_generational _ _))
      (publish_carried (hKeeps attempt hMem))
  · exact isolated_of_carried hBefore
      (step_follows generational_rule (fun _ _ => applies_generational _ _) hNoLoad)
      (call_carried hNoLoad hOther)

/-! ## Loads -/

section Loads

variable {held : EntityState} {stored : StoredEntity}

theorem loadedEntity_stamped (registryGeneration : RegistryGeneration) (loading : Loading)
    (stored : StoredEntity) :
    ∀ entry ∈ (loadEntity registryGeneration loading stored).2.capabilities,
      ∀ record ∈ entry.evidence, record.entityGeneration = stored.bound := by
  intro entry hEntry record hMem
  have hGenerations := loadEntity_heldRecords
    (f := fun record : HeldRecord => record.record.entityGeneration) (fun _ _ => rfl)
    registryGeneration loading stored
  have hHeld : record.entityGeneration ∈
      (loadEntity registryGeneration loading stored).2.heldRecords.map
        fun record : HeldRecord => record.record.entityGeneration :=
    List.mem_map.2 ⟨⟨_, entry.id, record⟩,
      List.mem_flatMap.2 ⟨entry, hEntry, List.mem_map.2 ⟨record, hMem, rfl⟩⟩, rfl⟩
  obtain ⟨claim, -, hEq⟩ := List.mem_map.1 (hGenerations.mem_iff.1 hHeld)
  exact hEq.symm

theorem RereadAs.bound (h : held.stored.RereadAs stored) (hGenerational : held.Generational) :
    stored.currentGeneration = held.currentGeneration ∧ stored.bound = held.currentGeneration := by
  have hCurrent : stored.currentGeneration = held.currentGeneration := by
    rw [h.fields]
    rfl
  have hBound : stored.boundGeneration = held.boundGeneration := by
    rw [h.fields]
    rfl
  refine ⟨hCurrent, ?_⟩
  unfold StoredEntity.bound
  rw [hCurrent, hBound, show held.boundGeneration = held.currentGeneration from hGenerational.bound,
    if_neg hGenerational.known]

/-- The history that is loaded is the one that was saved. -/
theorem RereadAs.history (h : held.stored.RereadAs stored)
    (registryGeneration : RegistryGeneration) (loading : Loading) :
    (loadEntity registryGeneration loading stored).2.history =
      ((held.history.map RetainedGeneration.stored).filter fun generation =>
        generation.generation ≠ 0).map StoredGeneration.retained := by
  have hHistory : stored.history = held.history.map RetainedGeneration.stored := by
    rw [h.fields]
    rfl
  show (stored.history.filter _).map _ = _
  rw [hHistory]

theorem loadedEntity_generational (h : held.stored.RereadAs stored)
    (hGenerational : held.Generational) (registryGeneration : RegistryGeneration)
    (loading : Loading) :
    (loadEntity registryGeneration loading stored).2.Generational := by
  obtain ⟨hCurrent, hBound⟩ := RereadAs.bound h hGenerational
  have hGeneration : (loadEntity registryGeneration loading stored).2.currentGeneration =
      held.currentGeneration := hCurrent
  refine ⟨hBound.trans hCurrent.symm, hGeneration ▸ hGenerational.known, ?_, ?_⟩
  · rw [AllEntries, hGeneration, ← hBound]
    exact loadedEntity_stamped registryGeneration loading stored
  · rw [hGeneration]
    refine hGenerational.descending.sublist (List.Sublist.cons_cons _ ?_)
    rw [RereadAs.history h, generationsOf, generationsOf, List.map_map]
    have hKept := (List.filter_sublist (l := held.history.map RetainedGeneration.stored)
      (p := fun generation => generation.generation ≠ 0)).map StoredGeneration.generation
    rw [List.map_map] at hKept
    exact hKept

/-- A summary is described by the same set after it was stored and loaded. -/
theorem Transition.Retires.loaded {transition : Transition} {id : EntityId}
    {retained : RetainedGeneration} (h : transition.Retires id retained.summary) :
    transition.Retires id retained.stored.retained.summary := by
  unfold Transition.Retires at h ⊢
  split at h
  · rename_i before after hBefore hAfter
    obtain ⟨hGeneration, hAbove, set, hSet, hDigest, hSetGeneration, hCount, hSupported⟩ := h
    refine ⟨hGeneration, hAbove, set, hSet, hDigest, hSetGeneration, ?_, ?_⟩
    · show UInt64.ofNat (UInt64.ofNat retained.summary.capabilityCount).toNat = _
      rw [UInt64.ofNat_toNat, hCount]
    · show UInt64.ofNat (UInt64.ofNat retained.summary.supportedCount).toNat = _
      rw [UInt64.ofNat_toNat, hSupported]
  · cases h

theorem loadedEntity_written (h : held.stored.RereadAs stored) {past : List Transition}
    (hWritten : held.WrittenBy past) (registryGeneration : RegistryGeneration)
    (loading : Loading) :
    (loadEntity registryGeneration loading stored).2.WrittenBy past := by
  have hId : (loadEntity registryGeneration loading stored).2.id = held.id := by
    show stored.id = held.id
    rw [h.fields]
    rfl
  intro retained hMem
  rw [RereadAs.history h] at hMem
  obtain ⟨kept, hKept, rfl⟩ := List.mem_map.1 hMem
  obtain ⟨original, hOriginal, rfl⟩ := List.mem_map.1 (List.mem_filter.1 hKept).1
  obtain ⟨transition, hPast, hRetires⟩ := hWritten original hOriginal
  rw [hId]
  exact ⟨transition, hPast, hRetires.loaded⟩

theorem load_isolated {past stored : List Transition} {registry saved loaded : Registry}
    (hRestores : Restores registry saved loaded) (h : Isolated past registry)
    (hSaved : Isolated stored saved) : Isolated (past ++ stored) loaded := by
  rcases restored_cases hRestores with rfl | ⟨payload, hReread, rfl⟩
  · exact ⟨h.distinct, h.generational, h.serves, fun id entity hFound =>
      (h.written id entity hFound).mono (List.subset_append_left _ _)⟩
  · have hIds := RestartOf.map_id ⟨registry, payload, hReread, rfl⟩
    refine ⟨hIds.nodup_iff.2 hSaved.distinct, fun entity hMem => ?_, fun id entity hFound => ?_,
      fun id entity hFound => ?_⟩
    · obtain ⟨held, hHeld, loading, read, rfl, hRead⟩ := restored_entity hReread hMem
      exact loadedEntity_generational hRead (hSaved.generational held hHeld) _ loading
    · obtain ⟨held, -, loading, read, rfl, -⟩ := restored_entity hReread (lookup_mem hFound)
      intro _ set hSet
      rw [← Option.some.inj hSet]
      rfl
    · obtain ⟨held, hHeld, loading, read, rfl, hRead⟩ :=
        restored_entity hReread (lookup_mem hFound)
      have hFoundSaved : saved.findEntity held.id = some held :=
        lookup_of_mem hSaved.distinct hHeld
      exact (loadedEntity_written hRead (hSaved.written _ held hFoundSaved) _ loading).mono
        (List.subset_append_right _ _)

end Loads

/-! ## Runs of a deployment -/

theorem reached_isolated {admits : Options → Prop} {past : List Transition}
    {registry : Registry} (h : Reached (deployment admits NeverOvertakes) past registry) :
    Isolated past registry := by
  refine reached_invariant ?_ ?_ ?_ h
  · rintro _ ⟨options, -, rfl⟩
    have hNone : ∀ id entity, (Registry.init options).findEntity id ≠ some entity := by
      intro id entity hFound
      rw [Registry.findEntity, init_entities] at hFound
      cases hFound
    refine ⟨?_, ?_, fun id entity hFound => absurd hFound (hNone id entity),
      fun id entity hFound => absurd hFound (hNone id entity)⟩
    · rw [Registry.Distinct, init_entities]
      exact List.nodup_nil
    · rw [init_entities]
      intro entity hMem
      cases hMem
  · exact fun _ _ _ hGuard hBefore => call_isolated hGuard.1 hGuard.2 hBefore
  · exact fun _ _ _ _ _ hRestores hBefore hSource => load_isolated hRestores hBefore hSource

/-- All evidence carries the current generation, the history descends from it, and each
summary describes the set that was served when its generation was retired. -/
def GenerationsIsolated (past : List Transition) (registry : Registry) : Prop :=
  ∀ entity ∈ registry.entities,
    (∀ entry ∈ entity.capabilities, ∀ record ∈ entry.evidence,
      record.entityGeneration = entity.currentGeneration) ∧
    (entity.currentGeneration :: generationsOf entity.history).Pairwise (· > ·) ∧
    ∀ retained ∈ entity.history, ∃ transition ∈ past,
      transition.Retires entity.id retained.summary

/-- Deployments in which no commit fails on the registry generation. -/
theorem generations_are_isolated {past : List Transition} {registry : Registry}
    (h : Reached (deployment (fun _ => True) NeverOvertakes) past registry) :
    GenerationsIsolated past registry := by
  intro entity hMem
  have hIsolated := reached_isolated h
  have hGenerational := hIsolated.generational entity hMem
  exact ⟨hGenerational.stamped, hGenerational.descending,
    hIsolated.written _ entity (lookup_of_mem hIsolated.distinct hMem)⟩

/-! ### Retiring a generation -/

instance (transition : Transition) (id : EntityId) (summary : EntityGenerationSummary) :
    Decidable (transition.Retires id summary) := by
  unfold Transition.Retires
  split <;> infer_instance

instance (registry : Registry) (operation : Operation) :
    Decidable (NeverOvertakes registry operation) :=
  inferInstanceAs (Decidable (∀ attempt ∈ _, _))

namespace Sample

def firstClaim : PublicationRequest :=
  publication bootOne "attempt-1" 1 0 (claim .supported .durable)

/-- A set is published, and its generation retired. -/
def turnover : List Operation :=
  setup ++ [.publish firstClaim, .observeEntityGeneration entity 2 .unset]

/-- An entity whose generations do nothing but advance the registry generation. -/
def clock : EntityId := (EntityId.parse (txt "switch:leaf-2")).toOption.getD .unset

/-- A set is served, and the clock is known. -/
def inService : List Operation :=
  setup ++ [.publish firstClaim, .observeEntityGeneration clock 1 .unset]

def served : Registry := afterRun {} inService

def servedEntity : EntityState := served.entities.headD (newEntity 0 entity 0)

/-- The clock after `n` ticks. -/
def ticked (n : UInt64) : Registry :=
  { served with
    registryGeneration := served.registryGeneration + n
    entities := [servedEntity, newEntity (served.registryGeneration + n) clock (n + 1)] }

/-- The tick at which the registry generation is exhausted. -/
def lastTick : UInt64 := 0xFFFFFFFFFFFFFFFF - served.registryGeneration

/-- A change of the served set. -/
def secondClaim : PublicationRequest :=
  publication bootOne "attempt-2" 1 1 (claim .unsupported .durable)

end Sample

theorem turnover_is_isolated :
    ((afterRun {} Sample.turnover).findEntity Sample.entity).map
      (fun entity => entity.history.length) = some 1 ∧
    GenerationsIsolated
      (trace Operation.apply transitions (Registry.init {}) Sample.turnover)
      (afterRun {} Sample.turnover) := by
  obtain ⟨hHistory, hGuard⟩ :
      ((afterRun {} Sample.turnover).findEntity Sample.entity).map
        (fun entity => entity.history.length) = some 1 ∧
      Guarded Operation.apply
        (fun registry operation => NoLoad registry operation ∧ NeverOvertakes registry operation)
        (Registry.init {}) Sample.turnover := by decide +kernel
  exact ⟨hHistory, generations_are_isolated (reached_of_operations trivial hGuard)⟩

/-- The entity stays at its first generation, if it is known. -/
def Transition.staysFirst (transition : Transition) : Bool :=
  (transition.after.findEntity Sample.entity).all fun later => later.currentGeneration ≤ 1

theorem served_facts :
    Sample.served.registryGeneration = 1 ∧
    Sample.served.entities.tail = [newEntity 1 Sample.clock 1] ∧
    Sample.servedEntity.id = Sample.entity ∧ Sample.servedEntity.currentGeneration ≤ 1 ∧
    Guarded Operation.apply (fun registry operation => NoLoad registry operation ∧ True)
      (Registry.init {}) Sample.inService ∧
    ∀ transition ∈ trace Operation.apply transitions (Registry.init {}) Sample.inService,
      transition.staysFirst = true := by
  decide +kernel

/-- The numbers of a tick. -/
theorem tick_numbers {n : UInt64} (h : n < Sample.lastTick) :
    (n + 1).toNat = n.toNat + 1 ∧ (n + 2).toNat = n.toNat + 2 ∧
      counterNext (Sample.served.registryGeneration + n) =
        .ok (Sample.served.registryGeneration + (n + 1)) := by
  have hServed := served_facts.1
  have hBelow : n.toNat < 2 ^ 64 - 2 := by
    have hNat := UInt64.lt_iff_toNat_lt.1 h
    unfold Sample.lastTick at hNat
    rw [hServed] at hNat
    exact hNat
  have hOne : (n + 1).toNat = n.toNat + 1 := by
    rw [UInt64.toNat_add, Nat.mod_eq_of_lt] <;> simp; omega
  refine ⟨hOne, ?_, ?_⟩
  · rw [UInt64.toNat_add, Nat.mod_eq_of_lt] <;> simp; omega
  · rw [hServed, UInt64.add_comm 1 n, UInt64.add_comm 1 (n + 1)]
    refine if_neg fun hEq => ?_
    have hNat := congrArg UInt64.toNat hEq
    rw [hOne] at hNat
    simp at hNat
    omega

/-- A tick: the clock is observed at its next generation. -/
theorem tick {n : UInt64} (h : n < Sample.lastTick) :
    (Operation.observeEntityGeneration Sample.clock (n + 2) .unset).apply (Sample.ticked n) =
      Sample.ticked (n + 1) := by
  obtain ⟨-, -, hServedId, -⟩ := served_facts
  have hSet : Sample.clock.isSet = true := by decide +kernel
  have hId : Sample.servedEntity.id ≠ Sample.clock := by
    rw [hServedId]
    decide +kernel
  obtain ⟨hOne, hTwo, hNext⟩ := tick_numbers h
  have hNonzero : ∀ generation : EntityGeneration, 0 < generation.toNat → generation ≠ 0 := by
    rintro _ hPositive rfl
    cases hPositive
  have hNextAt : counterNext (Sample.ticked n).registryGeneration =
      .ok (Sample.served.registryGeneration + (n + 1)) := hNext
  have hFound : (Sample.ticked n).findEntity Sample.clock =
      some (newEntity (Sample.served.registryGeneration + n) Sample.clock (n + 1)) := by
    unfold Registry.findEntity Sample.ticked
    simp [lookup_cons, hId, newEntity]
  show (observeEntityGeneration (Sample.ticked n) Sample.clock (n + 2) .unset).1 = _
  unfold observeEntityGeneration
  rw [if_neg (by simp [hSet, hNonzero (n + 2) (by omega)]), hFound]
  dsimp only
  rw [if_neg, if_neg, if_neg, hNextAt]
  · have hTicks : n + 1 + 1 = n + 2 := by rw [UInt64.add_assoc]; rfl
    simp only [newEntity, retireGeneration, Sample.ticked, Registry.setEntity, upsert, hId, hTicks]
    simp
  · show n + 2 ≠ n + 1
    rw [Ne, ← UInt64.toNat_inj]
    omega
  · show ¬(n + 2 < n + 1)
    rw [UInt64.lt_iff_toNat_lt]
    omega
  · show n + 1 ≠ 0
    exact hNonzero (n + 1) (by omega)

/-- Every tick is reached, and none retires the set. -/
theorem ticked_reached (n : Nat) (h : n ≤ Sample.lastTick.toNat) :
    ∃ past, Reached (deployment (fun _ => True) (fun _ _ => True)) past
        (Sample.ticked (UInt64.ofNat n)) ∧
      ∀ transition ∈ past, transition.staysFirst = true := by
  induction n with
  | zero =>
      obtain ⟨hGeneration, hTail, -, -, hGuard, hStays⟩ := served_facts
      have hEntities : Sample.served.entities = [Sample.servedEntity, newEntity 1 Sample.clock 1] := by
        unfold Sample.servedEntity
        cases hEntities : Sample.served.entities with
        | nil =>
            rw [hEntities] at hTail
            cases hTail
        | cons first others =>
            rw [hEntities] at hTail
            rw [← hTail]
            rfl
      have hServed : Sample.ticked 0 = Sample.served := by
        unfold Sample.ticked
        rw [UInt64.add_zero, hGeneration, UInt64.zero_add, ← hEntities, ← hGeneration]
      refine ⟨_, ?_, hStays⟩
      show Reached _ _ (Sample.ticked 0)
      rw [hServed]
      exact reached_of_operations trivial hGuard
  | succ n ih =>
      obtain ⟨past, hReached, hStays⟩ := ih (by omega)
      have hSmall : n < 2 ^ 64 := Nat.lt_of_lt_of_le h (Nat.le_of_lt Sample.lastTick.toNat_lt)
      have hBefore : UInt64.ofNat n < Sample.lastTick := by
        rw [UInt64.lt_iff_toNat_lt, UInt64.toNat_ofNat_of_lt' hSmall]
        exact h
      have hTick := tick hBefore
      have hNext : UInt64.ofNat (n + 1) = UInt64.ofNat n + 1 := by simp
      have hCall := reached_call hReached (show NoLoad _ (.observeEntityGeneration Sample.clock
        (UInt64.ofNat n + 2) .unset) from rfl) trivial
      rw [hNext, ← hTick]
      refine ⟨_, hCall, ?_⟩
      intro transition hMem
      rcases List.mem_append.1 hMem with hPast | hNew
      · exact hStays transition hPast
      · rw [transitions_call rfl, List.mem_singleton] at hNew
        rw [hNew, hTick]
        show ((Sample.ticked _).findEntity Sample.entity).all _ = true
        obtain ⟨-, -, hId, hFirst, -⟩ := served_facts
        unfold Registry.findEntity Sample.ticked
        simpa [lookup_cons, hId] using hFirst

namespace Sample

/-- The commit of the second claim fails on the exhausted registry generation. -/
def overtaken : Registry := (Operation.publish secondClaim).apply (ticked lastTick)

/-- The generation of the served set is retired. -/
def misdated : Registry := (Operation.observeEntityGeneration entity 2 .unset).apply overtaken

end Sample

/-- A transition at whose end the entity is at its first generation retires no set of it. -/
theorem staysFirst_retires {transition : Transition} (h : transition.staysFirst = true)
    {summary : EntityGenerationSummary} (hFirst : summary.generation = 1) :
    ¬transition.Retires Sample.entity summary := by
  unfold Transition.Retires
  unfold Transition.staysFirst at h
  split
  · rename_i held later hBefore hAfter
    rintro ⟨hGeneration, hAbove, -⟩
    rw [hAfter, Option.all_some, decide_eq_true_eq] at h
    rw [hGeneration, hFirst] at hAbove
    exact absurd hAbove (UInt64.not_lt.2 h)
  · exact id

theorem misdated_facts :
    (Transition.mk (Sample.ticked Sample.lastTick) Sample.overtaken).staysFirst = true ∧
    ∃ entity ∈ Sample.misdated.entities, entity.id = Sample.entity ∧
      ∃ retained ∈ entity.history, retained.summary.generation = 1 ∧
        ¬(Transition.mk Sample.overtaken Sample.misdated).Retires Sample.entity
          retained.summary := by
  decide +kernel

/-- The set of generation 1 is retired as a set of generation 2: stage 11 had advanced the
set generation before it failed. -/
theorem exhausted_registry_misdates_generation :
    ¬∀ past registry, Reached (deployment (fun _ => True) (fun _ _ => True)) past registry →
      GenerationsIsolated past registry := by
  intro hAlways
  obtain ⟨past, hReached, hStays⟩ := ticked_reached Sample.lastTick.toNat (Nat.le_refl _)
  rw [UInt64.ofNat_toNat] at hReached
  have hOvertaken := reached_call hReached
    (show NoLoad _ (.publish Sample.secondClaim) from rfl) trivial
  have hMisdated := reached_call hOvertaken
    (show NoLoad _ (.observeEntityGeneration Sample.entity 2 .unset) from rfl) trivial
  obtain ⟨hStaysToo, entity, hMem, hId, retained, hRetained, hFirst, hWrong⟩ := misdated_facts
  obtain ⟨transition, hPast, hRetires⟩ := (hAlways _ _ hMisdated entity hMem).2.2 retained hRetained
  rw [hId] at hRetires
  refine absurd hRetires ?_
  rcases List.mem_append.1 hPast with hPast | hLast
  · rcases List.mem_append.1 hPast with hPast | hCommit
    · exact staysFirst_retires (hStays transition hPast) hFirst
    · rw [transitions_publish, List.mem_singleton, ← Sample.overtaken] at hCommit
      rw [hCommit]
      exact staysFirst_retires hStaysToo hFirst
  · rw [transitions_call rfl, List.mem_singleton, ← Sample.overtaken, ← Sample.misdated] at hLast
    rw [hLast]
    exact hWrong

end FabricCapability.Ports
