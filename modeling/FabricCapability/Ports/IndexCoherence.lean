import FabricCapability.Ports.IndexMoves
import FabricCapability.Ports.SchemaRuns
import FabricCapability.Ports.SnapshotDiffs

/-!
# The indexes and the entities

Every operation that resolves evidence moves the entity in the indexes along
(`IndexMoves`), and a load builds them anew.  `RetireGeneration` does not: it drops the
entries of an entity and leaves the entity in every bucket that it was in.

So the indexes are right in runs that never retire a generation with entries, that load only
files that name each entity once, and in which known capabilities have texts of their own.

## Main results

* `indexes_agree_along_runs`: in such runs the lookups by state agree with `Query`.
* `retired_generation_still_supports`: a run that retires a generation with an entry.
-/

namespace FabricCapability.Ports

open FabricCapability.Verified.KeyedList
open FabricCapability.Verified.Runs
open FabricCapability.Verified.StrictOrder

/-! ## Indexes over all entities -/

/-- The indexes are right about every entity of a list, and hold nothing of any other. -/
structure Indexes.Cover (known : List CapabilityId) (indexes : Indexes)
    (entities : List EntityState) : Prop where
  keyed : indexes.Keyed
  distinct : (entities.map EntityState.id).Nodup
  held : ∀ entity ∈ entities, InStep known indexes entity
  unheld : ∀ id, id ∉ entities.map EntityState.id → indexes.Agrees id fun _ => none

section Cover

variable {known : List CapabilityId} {a b : Indexes} {before after : List EntityState}
  {entity later : EntityState}

theorem cover_nil (known : List CapabilityId) : ({} : Indexes).Cover known [] :=
  ⟨List.nodup_nil, List.nodup_nil, by simp, fun _ _ => ⟨fun _ _ => ⟨nofun, nofun⟩, fun _ => ⟨nofun, nofun⟩⟩⟩

/-- One entity of the list is mutated. -/
theorem Indexes.Cover.replace (h : a.Cover known (before ++ entity :: after))
    (hMoves : Moves known a entity b later) : b.Cover known (before ++ later :: after) := by
  have hHere : InStep known a entity :=
    h.held entity (List.mem_append_right _ (List.mem_cons_self ..))
  have hIds : (before ++ later :: after).map EntityState.id =
      (before ++ entity :: after).map EntityState.id := by
    simp [hMoves.id]
  have hOther : ∀ other, other ∈ before ∨ other ∈ after → other.id ≠ entity.id := by
    have hDistinct := h.distinct
    rw [List.map_append, List.map_cons, List.nodup_middle, List.nodup_cons] at hDistinct
    intro other hMem hSame
    apply hDistinct.1
    rw [← hSame, ← List.map_append]
    exact List.mem_map_of_mem (List.mem_append.2 hMem)
  have hKept : ∀ other, other ∈ before ∨ other ∈ after → InStep known b other := by
    intro other hMem
    have hStep : InStep known a other := by
      refine h.held other ?_
      rcases hMem with hMem | hMem
      · exact List.mem_append_left _ hMem
      · exact List.mem_append_right _ (List.mem_cons_of_mem _ hMem)
    exact ⟨(hMoves.step hHere).keyed,
      hMoves.elsewhere hHere _ (hOther other hMem) _ hStep.agrees, hStep.distinct, hStep.settled⟩
  refine ⟨(hMoves.step hHere).keyed, hIds ▸ h.distinct, fun other hMem => ?_, fun id hId => ?_⟩
  · rcases List.mem_append.1 hMem with hMem | hMem
    · exact hKept other (.inl hMem)
    · rcases List.mem_cons.1 hMem with rfl | hMem
      · exact hMoves.step hHere
      · exact hKept other (.inr hMem)
  · rw [hIds] at hId
    refine hMoves.elsewhere hHere id ?_ _ (h.unheld id hId)
    rintro rfl
    exact hId (List.mem_map_of_mem (List.mem_append_right _ (List.mem_cons_self ..)))

/-- An entity without entries joins the list. -/
theorem Indexes.Cover.append {entities : List EntityState} (h : a.Cover known entities)
    (hNew : entity.id ∉ entities.map EntityState.id) (hEmpty : entity.capabilities = []) :
    a.Cover known (entities ++ [entity]) := by
  have hHolds : entity.holds = fun _ => none := by
    funext capability
    rw [EntityState.holds, EntityState.findCapability, hEmpty]
    rfl
  refine ⟨h.keyed, ?_, fun other hMem => ?_, fun id hId => ?_⟩
  · rw [List.map_append, List.map_singleton]
    exact List.nodup_append.2 ⟨h.distinct, List.nodup_singleton _, by
      rintro id hMem _ hOther rfl
      exact hNew (List.mem_singleton.1 hOther ▸ hMem)⟩
  · rcases List.mem_append.1 hMem with hMem | hMem
    · exact h.held other hMem
    · rw [List.mem_singleton.1 hMem]
      refine ⟨h.keyed, ?_, ?_, ?_⟩
      · rw [hHolds]
        exact h.unheld _ hNew
      · simp [hEmpty]
      · simp [hEmpty]
  · rw [List.map_append, List.mem_append, not_or] at hId
    exact h.unheld id hId.1

/-- A loop that mutates each entity in turn. -/
theorem Indexes.Cover.mapAccum {entities : List EntityState}
    {visit : Indexes → EntityState → Indexes × EntityState} (h : a.Cover known entities)
    (hMoves : ∀ indexes entity,
      Moves known indexes entity (visit indexes entity).1 (visit indexes entity).2) :
    (mapAccum visit a entities).1.Cover known (mapAccum visit a entities).2 := by
  have hLoop := mapAccum_induction (s := a) (f := visit)
    (P := fun s done rest => s.Cover known (done ++ rest)) h ?_
  · rwa [List.append_nil] at hLoop
  · intro s done entity rest hCover
    rw [List.append_assoc, List.singleton_append]
    exact hCover.replace (hMoves s entity)

/-- The entity that is found is written back. -/
theorem Indexes.Cover.upsert {entities : List EntityState} (h : a.Cover known entities)
    (hFound : lookup EntityState.id entity.id entities = some entity)
    (hMoves : Moves known a entity b later) :
    b.Cover known (upsert EntityState.id later entities) := by
  obtain ⟨before, after, rfl⟩ := List.append_of_mem (lookup_mem hFound)
  have hBefore : later.id ∉ before.map EntityState.id := by
    have hDistinct := h.distinct
    rw [List.map_append, List.map_cons] at hDistinct
    rw [hMoves.id]
    exact fun hMem => List.disjoint_of_nodup_append hDistinct hMem (List.mem_cons_self ..)
  rw [upsert_append hBefore hMoves.id.symm]
  exact h.replace hMoves

end Cover

/-! ## Registries -/

/-- The capabilities that the schema names or that an entity has an entry for. -/
def Registry.known (registry : Registry) : List CapabilityId :=
  registry.schema.table.map CapabilityDescriptor.id ++
    registry.entities.flatMap fun entity => entity.capabilities.map CapabilityEntry.id

/-- The indexes cover the entities, whose capabilities are known, as are those of the
schema. -/
structure Registry.Indexed (known : List CapabilityId) (registry : Registry) : Prop where
  apart : TextsApart known
  schema : registry.schema.table.map CapabilityDescriptor.id ⊆ known
  cover : registry.indexes.Cover known registry.entities

section Indexed

variable {known : List CapabilityId} {registry b : Registry}

theorem Registry.Indexed.congr (h : registry.Indexed known)
    (hSchema : b.schema = registry.schema) (hIndexes : b.indexes = registry.indexes)
    (hEntities : b.entities = registry.entities) : b.Indexed known :=
  ⟨h.apart, hSchema ▸ h.schema, hIndexes ▸ hEntities ▸ h.cover⟩

/-- What is known at most is what the schema names and the entities hold. -/
theorem Registry.Indexed.shrink (h : registry.Indexed known) :
    registry.Indexed registry.known := by
  have hHeld : ∀ entity ∈ registry.entities, ∀ entry ∈ entity.capabilities,
      entry.id ∈ registry.known := by
    intro entity hEntity entry hEntry
    exact List.mem_append_right _
      (List.mem_flatMap.2 ⟨entity, hEntity, List.mem_map_of_mem hEntry⟩)
  refine ⟨h.apart.mono ?_, List.subset_append_left _ _, h.cover.keyed, h.cover.distinct, ?_,
    h.cover.unheld⟩
  · refine List.append_subset.2 ⟨h.schema, fun id hMem => ?_⟩
    obtain ⟨entity, hEntity, hMem⟩ := List.mem_flatMap.1 hMem
    obtain ⟨entry, hEntry, rfl⟩ := List.mem_map.1 hMem
    exact ((h.cover.held entity hEntity).settled entry hEntry).known
  · intro entity hEntity
    have hStep := h.cover.held entity hEntity
    exact ⟨hStep.keyed, hStep.agrees, hStep.distinct, fun entry hEntry =>
      ⟨(hStep.settled entry hEntry).resolved, (hStep.settled entry hEntry).named,
        hHeld entity hEntity entry hEntry⟩⟩

/-- A mutated entity is written back. -/
theorem Registry.Indexed.setEntity (h : registry.Indexed known) {held later : EntityState}
    (hFound : registry.findEntity held.id = some held)
    (hMoves : Moves known registry.indexes held b.indexes later)
    (hSchema : b.schema = registry.schema) (hEntities : b.entities = registry.entities) :
    (b.setEntity later).Indexed known := by
  refine ⟨h.apart, ?_, ?_⟩
  · rw [show (b.setEntity later).schema = registry.schema from hSchema]
    exact h.schema
  · rw [Registry.setEntity, hEntities]
    exact h.cover.upsert hFound hMoves

theorem Registry.Indexed.append (h : registry.Indexed known) {entity : EntityState}
    (hMissing : registry.findEntity entity.id = none) (hEmpty : entity.capabilities = []) :
    ({ registry with entities := registry.entities ++ [entity] } : Registry).Indexed known :=
  ⟨h.apart, h.schema, h.cover.append (lookup_eq_none.1 hMissing) hEmpty⟩

theorem Registry.Indexed.visitEntities (h : registry.Indexed known)
    {f : Indexes → EntityState → Indexes × EntityState}
    (hMoves : ∀ indexes entity,
      Moves known indexes entity (f indexes entity).1 (f indexes entity).2) :
    (registry.visitEntities f).Indexed known :=
  ⟨h.apart, h.schema, h.cover.mapAccum hMoves⟩

/-! ## Publications -/

/-- No entry is dropped when the entity moves on to the generation. -/
def Registry.KeepsEntries (registry : Registry) (entity : EntityId)
    (generation : EntityGeneration) : Prop :=
  ∀ held, registry.findEntity entity = some held → held.currentGeneration < generation →
    held.capabilities = []

theorem bindGeneration_indexed (h : registry.Indexed known) {request : PublicationRequest}
    {held : EntityState} (hFound : registry.findEntity held.id = some held)
    (hKeeps : held.currentGeneration < request.entityGeneration → held.capabilities = []) :
    (bindGeneration registry request held).1.Indexed known := by
  unfold bindGeneration
  split
  · exact h
  · split
    · rename_i hAbove
      dsimp only
      split
      · exact h.setEntity hFound (.of_capabilities rfl (hKeeps hAbove).symm) rfl rfl
      · exact h.setEntity (b := { registry with registryGeneration := _ }) hFound
          (.of_capabilities rfl (hKeeps hAbove).symm) rfl rfl
    · exact h

theorem bindEntity_indexed (h : registry.Indexed known) {request : PublicationRequest}
    (hKeeps : registry.KeepsEntries request.entity request.entityGeneration) :
    (bindEntity registry request).1.Indexed known := by
  unfold bindEntity
  split
  · rename_i held hFound
    exact bindGeneration_indexed h (findEntity_id hFound ▸ hFound) (hKeeps held hFound)
  · rename_i hMissing
    split
    · exact h
    · have hNew : Registry.Indexed known { registry with
          entities := registry.entities ++ [newEntity registry.registryGeneration
            request.entity request.entityGeneration] } := h.append hMissing rfl
      refine bindGeneration_indexed hNew ?_ fun _ => rfl
      unfold Registry.findEntity at hMissing ⊢
      dsimp only
      rw [show (newEntity registry.registryGeneration request.entity
        request.entityGeneration).id = request.entity from rfl, lookup_append_right hMissing]
      simp [lookup, newEntity]

theorem commit_indexed (h : registry.Indexed known) {request : PublicationRequest}
    {before : Option EntityCapabilitySet} {entity : EntityState} {steps : List ApplyStep}
    {contentDigest : Bytes} (hFound : registry.findEntity entity.id = some entity) :
    (commit registry request before entity steps contentDigest).1.Indexed known := by
  cases hCommit : commit registry request before entity steps contentDigest with
  | mk after outcome =>
      cases outcome with
      | ok result =>
          obtain ⟨advanced, next, hAdvance, -, rfl⟩ := commit_ok hCommit
          obtain ⟨hRegistry, hNext, -, -⟩ := advanceGenerations_ok hAdvance
          have hSame : (advanced.registerReplay request.publisherKey
              { attempt := request.attempt, publication := request.publication,
                contentDigest }).indexes = registry.indexes := by
            rw [hRegistry]
            rfl
          have hMoves : Moves known registry.indexes entity registry.indexes
              (committedEntity advanced.registryGeneration next request) := by
            rw [hNext]
            exact .of_capabilities rfl rfl
          have hWritten := h.setEntity (b := advanced.registerReplay request.publisherKey
              { attempt := request.attempt, publication := request.publication,
                contentDigest }) hFound (by rw [hSame]; exact hMoves)
            (by rw [hRegistry]; rfl) (by rw [hRegistry]; rfl)
          exact hWritten.congr rfl rfl rfl
      | error e =>
          have hFailed := commit_error hCommit
          unfold advanceGenerations at hFailed
          split at hFailed
          · split at hFailed
            · cases hFailed
              exact h
            · dsimp only at hFailed
              split at hFailed
              · cases hFailed
                exact h.setEntity hFound (.of_capabilities rfl rfl) rfl rfl
              · cases hFailed
          · cases hFailed

theorem schema_find_mem {schema : CapabilitySchema} {id : CapabilityId}
    {descriptor : CapabilityDescriptor} (h : schema.find id = .ok descriptor) :
    id ∈ schema.table.map CapabilityDescriptor.id := by
  unfold CapabilitySchema.find at h
  split at h
  · rename_i found hFound
    rw [CapabilitySchema.lookup] at hFound
    have hId : found.id = id := by simpa using List.find?_some hFound
    exact hId ▸ List.mem_map_of_mem (List.mem_of_find?_eq_some hFound)
  · cases h

/-- The steps of a publication that passed stage 5 name capabilities of the schema. -/
theorem applySteps_fit {request : PublicationRequest} {runtime : PublisherRuntime}
    {grant : AuthorityGrant} (h : ValidRequest registry request runtime grant)
    (hSchema : registry.schema.table.map CapabilityDescriptor.id ⊆ known) :
    ∀ step ∈ applySteps registry.schema grant request, step.Fits known := by
  intro step hMem
  have hNamed := applySteps_named h registry.schema step hMem
  cases applySteps_from step hMem with
  | others => trivial
  | identity => trivial
  | claim _ hClaim =>
      refine ⟨hNamed, hSchema ?_⟩
      have hOk := (checkClaims_ok_iff.1 h.claims).1 _ hClaim
      unfold checkClaim namespaceViolation at hOk
      rw [ite_failure_eq_ok, ite_failure_eq_ok, ite_failure_eq_ok] at hOk
      obtain ⟨-, -, -, hOk⟩ := hOk
      obtain ⟨_, hFind, -⟩ := outcome_bind_eq_ok.1 hOk
      exact schema_find_mem hFind
  | absence _ _ _ hAbsent =>
      obtain ⟨descriptor, hDescriptor, rfl⟩ := List.mem_map.1 hAbsent
      exact ⟨hNamed, hSchema (List.mem_map_of_mem
        (mem_sortBy.1 (List.mem_filter.1 hDescriptor).1))⟩
  | withdrawal => trivial
  | supersession _ _ _ hCounts => rcases hCounts with rfl | rfl <;> trivial
  | @edit edit _ hEdit =>
      refine ⟨hNamed, hSchema ?_⟩
      rw [effectiveClaim_capability]
      have hOk := checkEdits_ok_iff.1 h.edits edit hEdit
      unfold checkEdit namespaceViolation at hOk
      rw [ite_failure_eq_ok, ite_failure_eq_ok] at hOk
      obtain ⟨-, -, hOk⟩ := hOk
      obtain ⟨_, hFind, -⟩ := outcome_bind_eq_ok.1 hOk
      exact schema_find_mem hFind

/-- The publication, if it passes stages 1 to 5, drops no entry and finds room for evidence. -/
def Attempt.KeepsEntries (attempt : Attempt) : Prop :=
  (validateRequest attempt.before attempt.request).isOk = true →
    attempt.before.KeepsEntries attempt.request.entity attempt.request.entityGeneration ∧
      0 < attempt.before.options.maxEvidencePerCapability

theorem publish_indexed (h : registry.Indexed known) {request : PublicationRequest}
    (hKeeps : Attempt.KeepsEntries ⟨registry, request⟩) :
    (publish registry request).1.Indexed known := by
  refine publish_preserves (P := Registry.Indexed known) (fun _ _ hBefore => hBefore.congr rfl rfl rfl)
    ?_ ?_ ?_ h
  · intro runtime grant hValid
    exact bindEntity_indexed h (hKeeps (by rw [hValid]; rfl)).1
  · intro runtime grant bound entity hValid hBind _ hBound
    have hControl := bindEntity_control registry request
    rw [hBind] at hControl
    obtain ⟨hId, -, hFound, -⟩ := bindEntity_ok hBind
    have hRoom : 0 < bound.options.maxEvidencePerCapability := by
      rw [hControl.options]
      exact (hKeeps (by rw [hValid]; rfl)).2
    have hFits : ∀ step ∈ applySteps bound.schema grant request, step.Fits known := by
      rw [hControl.schema]
      exact applySteps_fit (validateRequest_ok hValid) h.schema
    have hMoves : CellMoves known (bound.cell entity) (runSteps bound request
        (bound.cell entity) (applySteps bound.schema grant request)).1 :=
      runSteps_moves hBound.apart hRoom hFits
    exact hBound.setEntity (b := { bound with
      indexes := (runSteps bound request (bound.cell entity)
        (applySteps bound.schema grant request)).1.indexes
      arrivalSequence := (runSteps bound request (bound.cell entity)
        (applySteps bound.schema grant request)).1.arrivalSequence })
      (hId ▸ hFound) hMoves rfl rfl
  · intro runtime grant bound entity applied published _ _ _ hApply hApplied
    exact commit_indexed hApplied (applyRequest_found hApply)

/-! ## The other operations -/

theorem demoteAndRefresh_moves (hApart : TextsApart known)
    (registryGeneration : RegistryGeneration) (currentness : EvidenceCurrentness)
    (reason : ReasonToken) (boot : Option WorkerBootId) (indexes : Indexes)
    (entity : EntityState) :
    Moves known indexes entity
      (demoteAndRefresh registryGeneration currentness reason boot indexes entity).1
      (demoteAndRefresh registryGeneration currentness reason boot indexes entity).2 :=
  (relabelEntity_moves hApart _ _ _).trans (.of_capabilities rfl rfl)

theorem advanceRegistry_indexed {α : Type} (h : registry.Indexed known) (value : α) :
    (advanceRegistry registry value).1.Indexed known := by
  unfold advanceRegistry
  split
  · exact h
  · exact h.congr rfl rfl rfl

theorem advanceCoordinatorEpoch_indexed (h : registry.Indexed known) (reason : ReasonToken) :
    (advanceCoordinatorEpoch registry reason).1.Indexed known := by
  unfold advanceCoordinatorEpoch
  split
  · exact h
  · dsimp only
    apply advanceRegistry_indexed
    refine Registry.Indexed.visitEntities ?_ fun _ _ => demoteAndRefresh_moves h.apart ..
    rw [fenceBoots_only]
    exact h.congr rfl rfl rfl

theorem fenceWorkerBoot_indexed (h : registry.Indexed known) (workerBoot : WorkerBootId)
    (reason : ReasonToken) : (fenceWorkerBoot registry workerBoot reason).1.Indexed known := by
  have hInsert : ∀ base : Registry, base.Indexed known →
      (insertFence base workerBoot reason).1.Indexed known := by
    intro base hBase
    unfold insertFence
    dsimp only
    apply advanceRegistry_indexed
    refine Registry.Indexed.visitEntities ?_ fun _ _ => demoteAndRefresh_moves h.apart ..
    exact hBase.congr rfl rfl rfl
  unfold fenceWorkerBoot
  split
  · exact h
  · split
    · exact h
    · split
      · split
        · exact h
        · exact hInsert _ (h.congr rfl rfl rfl)
      · exact hInsert _ h

theorem invalidateEntity_indexed (h : registry.Indexed known) (entity : EntityId)
    (generation : EntityGeneration) (reason : ReasonToken) :
    (invalidateEntity registry entity generation reason).1.Indexed known := by
  unfold invalidateEntity
  split
  · exact h
  · rename_i held hFound
    have hHeld : registry.findEntity held.id = some held := findEntity_id hFound ▸ hFound
    split
    · exact h
    · dsimp only
      have hMarked := @relabelEntity_moves known registry.indexes held h.apart
        (demotes none none true) .revalidationRequired
        (reasonOr reason (txt "entity-invalidated"))
      generalize hMark : markNonCurrent .revalidationRequired
        (reasonOr reason (txt "entity-invalidated")) none none true registry.indexes held = marked
      rw [markNonCurrent] at hMark
      rw [hMark] at hMarked
      -- the flag and the set are not what the indexes are about
      generalize hFlag : (if held.invalidated = true then marked.2 else
        { marked.2 with
          invalidated := true
          invalidationReason := reasonOr reason (txt "entity-invalidated") }) = flagged
      have hFlagged : Moves known registry.indexes held marked.1 flagged := by
        rw [← hFlag]
        split
        · exact hMarked
        · exact hMarked.trans (.of_capabilities rfl rfl)
      split
      · split
        · exact h.setEntity (b := { registry with indexes := marked.1 }) hHeld
            (hFlagged.trans (.of_capabilities rfl rfl)) rfl rfl
        · exact h.setEntity
            (b := { registry with indexes := marked.1, registryGeneration := _ }) hHeld
            (hFlagged.trans (.of_capabilities rfl rfl)) rfl rfl
      · exact h.setEntity (b := { registry with indexes := marked.1 }) hHeld hFlagged rfl rfl

theorem invalidateSource_indexed (h : registry.Indexed known) (source : SourceId)
    (reason : ReasonToken) : (invalidateSource registry source reason).1.Indexed known := by
  unfold invalidateSource
  split
  · exact h
  · dsimp only
    have hVisited := h.visitEntities (f := invalidateSourceIn registry.registryGeneration
      source (reasonOr reason (txt "source-invalidated"))) fun indexes entity => by
        have hMarked := @relabelEntity_moves known indexes entity h.apart
          (demotes none (some source) true) .revalidationRequired
          (reasonOr reason (txt "source-invalidated"))
        unfold invalidateSourceIn markNonCurrent
        dsimp only
        split
        · exact hMarked
        · exact hMarked.trans (.of_capabilities rfl rfl)
    split
    · exact advanceRegistry_indexed hVisited _
    · exact hVisited

/-- An observation drops no entry of an entity that was observed before. -/
theorem observeEntityGeneration_indexed (h : registry.Indexed known) {entity : EntityId}
    {generation : EntityGeneration} (reason : ReasonToken)
    (hKeeps : registry.KeepsEntries entity generation) :
    (observeEntityGeneration registry entity generation reason).1.Indexed known := by
  unfold observeEntityGeneration
  split
  · exact h
  · split
    · rename_i hMissing
      split
      · exact h
      · exact h.append hMissing rfl
    · rename_i held hFound
      have hHeld : registry.findEntity held.id = some held := findEntity_id hFound ▸ hFound
      split
      · exact h.setEntity hHeld (.of_capabilities rfl rfl) rfl rfl
      · split
        · exact h
        · rename_i hNotBelow
          split
          · exact h
          · rename_i hOther
            have hEmpty := hKeeps held hFound
              (UInt64.lt_of_le_of_ne (UInt64.not_lt.1 hNotBelow) (Ne.symm hOther))
            dsimp only
            split
            · exact h.setEntity hHeld (.of_capabilities rfl hEmpty.symm) rfl rfl
            · exact h.setEntity (b := { registry with registryGeneration := _ }) hHeld
                (.of_capabilities rfl hEmpty.symm) rfl rfl

end Indexed

/-! ## Loading -/

/-- The capabilities that a stored entity names. -/
def StoredEntity.named (stored : StoredEntity) : List CapabilityId :=
  stored.capabilities.map StoredCapability.id ++ stored.claims.map StoredClaim.capability

/-- An entry that was never resolved, for a known capability. -/
def CapabilityEntry.Blank (known : List CapabilityId) (entry : CapabilityEntry) : Prop :=
  entry.lastState = none ∧ entry.id ∈ known

section Loading

variable {known : List CapabilityId} {entries : List CapabilityEntry}

/-- The entry that is found is blank, and so is a new one. -/
theorem blank_found (h : ∀ entry ∈ entries, entry.Blank known) {capability : CapabilityId}
    (hKnown : capability ∈ known) :
    ((lookup CapabilityEntry.id capability entries).getD { id := capability }).Blank known := by
  cases hFound : lookup CapabilityEntry.id capability entries with
  | none => exact ⟨rfl, hKnown⟩
  | some entry => exact h entry (lookup_mem hFound)

theorem blank_upsert (h : ∀ entry ∈ entries, entry.Blank known) {entry : CapabilityEntry}
    (hNew : entry.Blank known) :
    ∀ held ∈ upsert CapabilityEntry.id entry entries, held.Blank known := by
  intro held hMem
  rcases mem_upsert hMem with rfl | hMem
  · exact hNew
  · exact h held hMem

theorem loadCapabilities_blank {capabilities : List StoredCapability}
    (hKnown : capabilities.map StoredCapability.id ⊆ known)
    (h : ∀ entry ∈ entries, entry.Blank known) :
    ∀ entry ∈ loadCapabilities entries capabilities, entry.Blank known := by
  induction capabilities generalizing entries with
  | nil => exact h
  | cons capability capabilities ih =>
      rw [List.map_cons, List.cons_subset] at hKnown
      rw [loadCapabilities]
      split
      · exact ih hKnown.2 (blank_upsert h (blank_found h hKnown.1))
      · exact ih hKnown.2 h

theorem loadClaims_blank {entity : EntityId} {bound : EntityGeneration}
    {registryGeneration : RegistryGeneration} {arrivals : UInt64} {claims : List StoredClaim}
    (hKnown : claims.map StoredClaim.capability ⊆ known)
    (h : ∀ entry ∈ entries, entry.Blank known) :
    ∀ entry ∈ (loadClaims entity bound registryGeneration arrivals entries claims).2,
      entry.Blank known := by
  induction claims generalizing arrivals entries with
  | nil => exact h
  | cons claim claims ih =>
      rw [List.map_cons, List.cons_subset] at hKnown
      rw [loadClaims]
      split
      · exact ih hKnown.2 (blank_upsert h (blank_found h hKnown.1))
      · exact ih hKnown.2 h

/-- Indexes that differ in their namespaces only. -/
theorem Moves.of_namespaces {a b : Indexes} {entity : EntityState} (hReverse : b.reverse = a.reverse)
    (hRevalidation : b.revalidation = a.revalidation) : Moves known a entity b entity := by
  have hAgrees : ∀ id held, a.Agrees id held → b.Agrees id held := by
    intro id held h
    refine ⟨fun capability state => ?_, fun capability => ?_⟩
    · rw [← h.bucket, Indexes.bucket, Indexes.bucket, hReverse]
    · rw [← h.revalidation, hRevalidation]
  refine ⟨rfl, fun h => ⟨?_, hAgrees _ _ h.agrees, h.distinct, h.settled⟩,
    fun _ _ _ _ h => hAgrees _ _ h⟩
  rw [Indexes.Keyed, hReverse]
  exact h.keyed

theorem touched_namespaces (capabilities : List StoredCapability) (indexes : Indexes) :
    (capabilities.foldl (fun indexes capability => indexes.touchNamespace capability.id)
      indexes).reverse = indexes.reverse ∧
    (capabilities.foldl (fun indexes capability => indexes.touchNamespace capability.id)
      indexes).revalidation = indexes.revalidation := by
  induction capabilities generalizing indexes with
  | nil => exact ⟨rfl, rfl⟩
  | cons capability capabilities ih => exact ih _

/-- A loaded entity is one without entries, whose entries are resolved one after the other. -/
theorem loadEntity_moves (hApart : TextsApart known) (registryGeneration : RegistryGeneration)
    (loading : Loading) {stored : StoredEntity} (hKnown : stored.named ⊆ known) :
    Moves known loading.indexes (stored.unresolved registryGeneration [])
      (loadEntity registryGeneration loading stored).1.indexes
      (loadEntity registryGeneration loading stored).2 := by
  obtain ⟨hCapabilities, hClaims⟩ := List.append_subset.1 hKnown
  let touched := (stored.capabilities.filter fun capability => capability.id.isSet).foldl
    (fun indexes capability => indexes.touchNamespace capability.id) loading.indexes
  let entries := (loadClaims stored.id stored.bound registryGeneration loading.arrivalSequence
    (loadCapabilities [] stored.capabilities) stored.claims).2
  have hBlank : ∀ entry ∈ entries, entry.Blank known :=
    loadClaims_blank hClaims (loadCapabilities_blank hCapabilities (by simp))
  have hNamed : NamedEntries entries :=
    loadClaims_named (loadCapabilities_named ⟨by simp, List.nodup_nil⟩)
  have hTouched : Moves known loading.indexes (stored.unresolved registryGeneration []) touched
      (stored.unresolved registryGeneration []) :=
    .of_namespaces (touched_namespaces _ _).1 (touched_namespaces _ _).2
  have hLoop := mapAccum_induction (s := touched)
    (f := fun indexes entry => resolveCapability indexes stored.id stored.bound entry)
    (P := fun s done rest => Moves known loading.indexes (stored.unresolved registryGeneration [])
        s (stored.unresolved registryGeneration done) ∧
      rest ⊆ entries ∧ ((done ++ rest).map CapabilityEntry.id).Nodup)
    ⟨hTouched, List.Subset.refl _, hNamed.2⟩ ?_
  · exact hLoop.1.trans (.of_capabilities rfl rfl)
  · rintro s done entry rest ⟨hMoves, hRest, hDistinct⟩
    rw [List.cons_subset] at hRest
    have hEntry := hBlank entry hRest.1
    have hNew : entry.id ∉ done.map CapabilityEntry.id := by
      rw [List.map_append, List.map_cons] at hDistinct
      exact fun hMem => List.disjoint_of_nodup_append hDistinct hMem (List.mem_cons_self ..)
    have hMissing : lookup CapabilityEntry.id entry.id done = none := lookup_eq_none.2 hNew
    have hResolve := @Moves.resolve known s (stored.unresolved registryGeneration done) hApart
      entry (hNamed.1 entry hRest.1) hEntry.2 (.inl ⟨hMissing, hEntry.1⟩)
    have hPlace : upsert CapabilityEntry.id
        (resolveCapability s stored.id stored.bound entry).2 done =
        done ++ [(resolveCapability s stored.id stored.bound entry).2] :=
      upsert_of_missing hMissing
    refine ⟨hMoves.trans ?_, hRest.2, ?_⟩
    · rw [← hPlace]
      exact hResolve
    · simpa using hDistinct

theorem loadPayload_indexed {registry : Registry} {payload : StorePayload}
    (hDistinct : ((payload.entities.filter fun entity => entity.id.isSet).map
      StoredEntity.id).Nodup)
    (hApart : TextsApart (registry.schema.table.map CapabilityDescriptor.id ++
      payload.entities.flatMap StoredEntity.named)) :
    (loadPayload registry payload).Indexed (registry.schema.table.map CapabilityDescriptor.id ++
      payload.entities.flatMap StoredEntity.named) := by
  refine ⟨hApart, List.subset_append_left _ _, ?_⟩
  generalize hKnown : registry.schema.table.map CapabilityDescriptor.id ++
    payload.entities.flatMap StoredEntity.named = known at hApart
  have hLoop := mapAccum_induction (s := ({} : Loading))
    (f := loadEntity payload.registryGeneration)
    (P := fun loading done rest => loading.indexes.Cover known done ∧ rest ⊆ payload.entities ∧
      (done.map EntityState.id ++ rest.map StoredEntity.id).Nodup)
    ⟨cover_nil known, List.filter_sublist.subset, hDistinct⟩ ?_
  · exact hLoop.1
  · rintro loading done stored rest ⟨hCover, hRest, hIds⟩
    rw [List.cons_subset] at hRest
    have hNew : stored.id ∉ done.map EntityState.id := by
      rw [List.map_cons] at hIds
      exact fun hMem => List.disjoint_of_nodup_append hIds hMem (List.mem_cons_self ..)
    have hNamed : stored.named ⊆ known := by
      rw [← hKnown]
      exact fun id hMem => List.mem_append_right _ (List.mem_flatMap.2 ⟨stored, hRest.1, hMem⟩)
    have hBlank : loading.indexes.Cover known
        (done ++ [stored.unresolved payload.registryGeneration []]) := hCover.append hNew rfl
    have hLoaded := hBlank.replace
      (loadEntity_moves hApart payload.registryGeneration loading hNamed)
    refine ⟨hLoaded, hRest.2, ?_⟩
    rw [List.map_append, List.map_singleton, List.append_assoc, List.singleton_append]
    exact hIds

end Loading

/-! ## Runs -/

/-- The step keeps the indexes right: a publication or an observation drops no entry, and the
capabilities that a load or a registration makes known have texts of their own. -/
def KeepsIndexes (registry : Registry) : Operation → Prop
  | .load config file => ∀ payload report, Store.readStore config file = .ok (payload, report) →
      ((payload.entities.filter fun entity => entity.id.isSet).map StoredEntity.id).Nodup ∧
        TextsApart (registry.schema.table.map CapabilityDescriptor.id ++
          payload.entities.flatMap StoredEntity.named)
  | .registerVendorDescriptor descriptor =>
      (registry.schema.registerVendorDescriptor descriptor).isOk = true →
        ∀ capability ∈ registry.known, capability.toText = descriptor.id.toText →
          capability = descriptor.id
  | .observeEntityGeneration entity generation _ => registry.KeepsEntries entity generation
  | operation => ∀ attempt ∈ attempts registry operation, attempt.KeepsEntries

theorem textsApart_cons {known : List CapabilityId} {id : CapabilityId} (h : TextsApart known)
    (hNew : ∀ capability ∈ known, capability.toText = id.toText → capability = id) :
    TextsApart (id :: known) := by
  intro a ha b hb hText
  rcases List.mem_cons.1 ha with hA | hA
  · rcases List.mem_cons.1 hb with hB | hB
    · exact hA.trans hB.symm
    · rw [hA] at hText ⊢
      exact (hNew b hB hText.symm).symm
  · rcases List.mem_cons.1 hb with hB | hB
    · rw [hB] at hText ⊢
      exact hNew a hA hText
    · exact h a hA b hB hText

theorem registerVendorDescriptor_indexed {registry : Registry} {descriptor : CapabilityDescriptor}
    (h : registry.Indexed registry.known)
    (hNew : (registry.schema.registerVendorDescriptor descriptor).isOk = true →
      ∀ capability ∈ registry.known, capability.toText = descriptor.id.toText →
        capability = descriptor.id) :
    ∃ known, (registerVendorDescriptor registry descriptor).1.Indexed known := by
  unfold registerVendorDescriptor
  split
  · exact ⟨_, h⟩
  · rename_i schema hOk
    refine ⟨descriptor.id :: registry.known,
      textsApart_cons h.apart (hNew (by rw [hOk]; rfl)), ?_, ?_⟩
    · dsimp only
      rcases registerVendorDescriptor_ok hOk with rfl | ⟨-, -, -, rfl⟩
      · exact List.subset_cons_of_subset _ h.schema
      · rw [List.map_append, List.map_singleton]
        refine List.append_subset.2 ⟨List.subset_cons_of_subset _ h.schema, ?_⟩
        simp
    · refine ⟨h.cover.keyed, h.cover.distinct, fun entity hEntity => ?_, h.cover.unheld⟩
      have hStep := h.cover.held entity hEntity
      exact ⟨hStep.keyed, hStep.agrees, hStep.distinct, fun entry hEntry =>
        ⟨(hStep.settled entry hEntry).resolved, (hStep.settled entry hEntry).named,
          List.mem_cons_of_mem _ (hStep.settled entry hEntry).known⟩⟩

theorem declareAuthority_indexed {known : List CapabilityId} {registry : Registry}
    (h : registry.Indexed known) (grant : AuthorityGrant) :
    (declareAuthority registry grant).1.Indexed known := by
  unfold declareAuthority
  split
  · exact h
  · split
    · exact h.congr rfl rfl rfl
    · split
      · exact h
      · exact h.congr rfl rfl rfl

theorem registerPublisher_indexed {known : List CapabilityId} {registry : Registry}
    (h : registry.Indexed known) (publisher : PublisherId) (scope : AuthorityScopeId)
    (workerBoot : WorkerBootId) :
    (registerPublisher registry publisher scope workerBoot).1.Indexed known := by
  unfold registerPublisher
  split
  · exact h
  split
  · exact h
  split
  · exact h
  dsimp only
  split
  · exact h
  split
  · exact h
  · exact h.congr rfl rfl rfl

theorem retirePublisher_indexed {known : List CapabilityId} {registry : Registry}
    (h : registry.Indexed known) (publisher : PublisherId) (workerBoot : WorkerBootId) :
    (retirePublisher registry publisher workerBoot).1.Indexed known := by
  unfold retirePublisher
  dsimp only
  split
  · exact h
  · exact h.congr rfl rfl rfl

/-- One operation. -/
theorem step_indexed {registry : Registry} {operation : Operation}
    (hKeeps : KeepsIndexes registry operation) (h : registry.Indexed registry.known) :
    (operation.apply registry).Indexed (operation.apply registry).known := by
  have hKnown : ∃ known, (operation.apply registry).Indexed known := by
    cases operation with
    | publish request =>
        exact ⟨_, publish_indexed h (hKeeps ⟨registry, request⟩ (List.mem_singleton_self _))⟩
    | publishBatch requests =>
        exact ⟨_, publishBatch_preserves (P := Registry.Indexed registry.known)
          (fun attempt hMem hBefore => publish_indexed hBefore (hKeeps attempt hMem)) h⟩
    | fenceWorkerBoot workerBoot reason => exact ⟨_, fenceWorkerBoot_indexed h ..⟩
    | advanceCoordinatorEpoch reason => exact ⟨_, advanceCoordinatorEpoch_indexed h ..⟩
    | invalidateEntity entity generation reason => exact ⟨_, invalidateEntity_indexed h ..⟩
    | invalidateSource source reason => exact ⟨_, invalidateSource_indexed h ..⟩
    | observeEntityGeneration entity generation reason =>
        exact ⟨_, observeEntityGeneration_indexed h reason hKeeps⟩
    | registerPublisher publisher scope workerBoot =>
        exact ⟨_, registerPublisher_indexed h ..⟩
    | retirePublisher publisher workerBoot => exact ⟨_, retirePublisher_indexed h ..⟩
    | declareAuthority grant => exact ⟨_, declareAuthority_indexed h ..⟩
    | registerVendorDescriptor descriptor => exact registerVendorDescriptor_indexed h hKeeps
    | load config file =>
        show ∃ known, (load registry config file).1.Indexed known
        unfold load
        split
        · exact ⟨_, h⟩
        · rename_i payload report hRead
          obtain ⟨hDistinct, hApart⟩ := hKeeps payload report hRead
          exact ⟨_, loadPayload_indexed hDistinct hApart⟩
    | rehash publishers =>
        show ∃ known, (if publishers.Perm registry.publishers then { registry with publishers }
          else registry).Indexed known
        split
        · exact ⟨_, h.congr rfl rfl rfl⟩
        · exact ⟨_, h⟩
  obtain ⟨known, hIndexed⟩ := hKnown
  exact hIndexed.shrink

theorem init_indexed (options : Options) :
    (Registry.init options).Indexed (Registry.init options).known := by
  have hSchema : (Registry.init options).schema = .canonical := by
    unfold Registry.init
    split <;> rfl
  have hIndexes : (Registry.init options).indexes = {} := by
    unfold Registry.init
    split <;> rfl
  have hApart : TextsApart (canonicalTable.map CapabilityDescriptor.id) := by
    intro a ha b hb hText
    obtain ⟨first, hFirst, rfl⟩ := List.mem_map.1 ha
    obtain ⟨second, hSecond, rfl⟩ := List.mem_map.1 hb
    rw [List.inj_on_of_nodup_map canonical_texts hFirst hSecond hText]
  have hIndexed : (Registry.init options).Indexed
      (canonicalTable.map CapabilityDescriptor.id) := ⟨hApart, ?_, ?_⟩
  · exact hIndexed.shrink
  · rw [hSchema]
    exact List.Subset.refl _
  · rw [hIndexes, init_entities]
    exact cover_nil _

/-! ## Answers -/

/-- The indexes are right about every entity, and so are the lookups that read them. -/
structure Registry.IndexesAgree (registry : Registry) : Prop where
  bucket : ∀ entity capability state, entity ∈ registry.indexes.bucket capability state ↔
    ∃ held entry, registry.findEntity entity = some held ∧
      held.findCapability capability = some entry ∧ entry.resolution.state = state
  revalidation : ∀ entity capability, (entity, capability) ∈ registry.indexes.revalidation ↔
    ∃ held entry, registry.findEntity entity = some held ∧
      held.findCapability capability = some entry ∧
        entry.resolution.state = .revalidationRequired
  supporting : ∀ entity capability, entity ∈ entitiesSupporting registry capability ↔
    (query registry entity capability).state = .supported
  notSupporting : ∀ entity capability, entity ∈ entitiesNotSupporting registry capability ↔
    (query registry entity capability).state = .unsupported
  withState : ∀ entity state, entity ∈ entitiesWithState registry state ↔
    ∃ capability, (query registry entity capability).recordExists = true ∧
      (query registry entity capability).state = state
  requiring : ∀ entity capability,
    (entity, capability) ∈ capabilitiesRequiringRevalidation registry ↔
      (query registry entity capability).state = .revalidationRequired

section Answers

variable {known : List CapabilityId} {registry : Registry}

/-- The state that the registry holds for an entity and a capability. -/
def Registry.holds (registry : Registry) (entity : EntityId) (capability : CapabilityId) :
    Option CapabilityState :=
  (registry.findEntity entity).bind fun held => held.holds capability

theorem holds_eq_some {entity : EntityId} {capability : CapabilityId} {state : CapabilityState} :
    registry.holds entity capability = some state ↔
      ∃ held entry, registry.findEntity entity = some held ∧
        held.findCapability capability = some entry ∧ entry.resolution.state = state := by
  simp [Registry.holds, EntityState.holds, Option.bind_eq_some_iff]

theorem Registry.Indexed.agrees (h : registry.Indexed known) (entity : EntityId) :
    registry.indexes.Agrees entity (registry.holds entity) := by
  cases hFound : registry.findEntity entity with
  | none =>
      have hHolds : registry.holds entity = fun _ => none := by
        funext capability
        rw [Registry.holds, hFound]
        rfl
      rw [hHolds]
      exact h.cover.unheld entity (lookup_eq_none.1 hFound)
  | some held =>
      have hHolds : registry.holds entity = held.holds := by
        funext capability
        rw [Registry.holds, hFound]
        rfl
      have hId : held.id = entity := findEntity_id hFound
      rw [hHolds, ← hId]
      exact (h.cover.held held (lookup_mem hFound)).agrees

/-- `Query` shows a record exactly for what is held, with the state that is held. -/
theorem query_holds (h : registry.Indexed known) (entity : EntityId) (capability : CapabilityId)
    (state : CapabilityState) :
    ((query registry entity capability).recordExists = true ∧
      (query registry entity capability).state = state) ↔
      registry.holds entity capability = some state := by
  unfold query Registry.holds EntityState.holds
  dsimp only
  split
  · rename_i hMissing
    simp [hMissing]
  · rename_i held hFound
    rw [hFound, Option.bind_some]
    split
    · rename_i hMissing
      simp [hMissing, answerNothing]
    · rename_i entry hEntry
      have hSettled := (h.cover.held held (lookup_mem hFound)).settled entry (lookup_mem hEntry)
      rw [if_pos hSettled.resolved, hEntry]
      simp [answerEntry]

/-- A state other than `UNKNOWN` comes from a record. -/
theorem query_recordExists {entity : EntityId} {capability : CapabilityId}
    (h : (query registry entity capability).state ≠ .unknown) :
    (query registry entity capability).recordExists = true := by
  revert h
  unfold query
  dsimp only
  split
  · exact fun h => absurd rfl h
  · split
    · exact fun h => absurd rfl h
    · split
      · exact fun _ => rfl
      · exact fun h => absurd rfl h

theorem query_state_iff (h : registry.Indexed known) (entity : EntityId)
    (capability : CapabilityId) {state : CapabilityState} (hKnown : state ≠ .unknown) :
    (query registry entity capability).state = state ↔
      registry.holds entity capability = some state := by
  rw [← query_holds h]
  constructor
  · intro hState
    exact ⟨query_recordExists (hState ▸ hKnown), hState⟩
  · exact And.right

/-- The entities in the bucket of a state under any capability. -/
theorem mem_entitiesWithState (hKeyed : registry.indexes.Keyed) {entity : EntityId}
    {state : CapabilityState} :
    entity ∈ entitiesWithState registry state ↔
      ∃ capability, entity ∈ registry.indexes.bucket capability state := by
  rw [entitiesWithState, mem_sortBy]
  have hMem := @mem_foldl_insertMember EntityId EntityId _ (fun id => id)
    (registry.indexes.reverse.flatMap fun entry => entry.bucket state) [] entity
  rw [hMem]
  constructor
  · rintro (hNone | ⟨_, hHeld, rfl⟩)
    · cases hNone
    · obtain ⟨entry, hEntry, hBucket⟩ := List.mem_flatMap.1 hHeld
      refine ⟨entry.capability, ?_⟩
      rw [Indexes.bucket, lookup_of_mem hKeyed hEntry]
      exact hBucket
  · rintro ⟨capability, hBucket⟩
    rw [Indexes.bucket] at hBucket
    split at hBucket
    · rename_i entry hFound
      exact .inr ⟨entity, List.mem_flatMap.2 ⟨entry, lookup_mem hFound, hBucket⟩, rfl⟩
    · cases hBucket

theorem Registry.Indexed.answers (h : registry.Indexed known) : registry.IndexesAgree where
  bucket entity capability state := by
    rw [(h.agrees entity).bucket, holds_eq_some]
  revalidation entity capability := by
    rw [(h.agrees entity).revalidation, holds_eq_some]
  supporting entity capability := by
    rw [entitiesSupporting, mem_sortBy, (h.agrees entity).bucket,
      query_state_iff h _ _ (by decide)]
  notSupporting entity capability := by
    rw [entitiesNotSupporting, mem_sortBy, (h.agrees entity).bucket,
      query_state_iff h _ _ (by decide)]
  withState entity state := by
    rw [mem_entitiesWithState h.cover.keyed]
    exact exists_congr fun capability => by
      rw [(h.agrees entity).bucket, query_holds h]
  requiring entity capability := by
    rw [capabilitiesRequiringRevalidation, mem_sortBy, (h.agrees entity).revalidation,
      query_state_iff h _ _ (by decide)]

end Answers

/-- Along runs that keep the indexes right, the indexes and the lookups by state say what the
entities hold and what `Query` answers. -/
theorem indexes_agree_along_runs (options : Options) (operations : List Operation)
    (hRun : Guarded Operation.apply KeepsIndexes (Registry.init options) operations) :
    (afterRun options operations).IndexesAgree := by
  have hIndexed : (afterRun options operations).Indexed (afterRun options operations).known :=
    run_invariant (P := fun registry => registry.Indexed registry.known)
      (fun _ _ => step_indexed) hRun (init_indexed options)
  exact hIndexed.answers

namespace Sample

def switchPublished : Operation :=
  .publish (publication bootOne "attempt-1" 1 0 (claim .supported .processBound))

/-- The switch supports the capability until its source is invalidated. -/
def switchInvalidated : List Operation :=
  setup ++ [switchPublished, .invalidateSource source .unset]

/-- The switch is seen at its second generation, for which nothing was published. -/
def switchReplaced : List Operation :=
  setup ++ [switchPublished, .observeEntityGeneration entity 2 .unset]

end Sample

theorem switchInvalidated_keeps :
    Guarded Operation.apply KeepsIndexes (Registry.init {}) Sample.switchInvalidated := by
  have hNew : (afterRun {} Sample.setup).findEntity Sample.entity = none := by decide +kernel
  have hFirst : KeepsIndexes (afterRun {} Sample.setup) Sample.switchPublished := by
    intro attempt hMem _
    rw [List.mem_singleton.1 hMem]
    refine ⟨fun held hFound => ?_, by decide⟩
    have hSome : (afterRun {} Sample.setup).findEntity Sample.entity = some held := hFound
    rw [hNew] at hSome
    cases hSome
  have hDeclare : ∀ registry grant, KeepsIndexes registry (.declareAuthority grant) :=
    fun _ _ _ hMem => by cases hMem
  have hRegister : ∀ registry publisher scope boot,
      KeepsIndexes registry (.registerPublisher publisher scope boot) :=
    fun _ _ _ _ _ hMem => by cases hMem
  have hInvalidate : ∀ registry source reason,
      KeepsIndexes registry (.invalidateSource source reason) :=
    fun _ _ _ _ hMem => by cases hMem
  exact guarded_append.2 ⟨⟨hDeclare _ _, hRegister _ _ _ _, trivial⟩, hFirst, hInvalidate _ _ _,
    trivial⟩

theorem switchInvalidated_indexes_agree :
    (afterRun {} Sample.switchInvalidated).IndexesAgree ∧
      (Sample.entity, Sample.capability) ∈
        (afterRun {} Sample.switchInvalidated).indexes.revalidation :=
  ⟨indexes_agree_along_runs {} Sample.switchInvalidated switchInvalidated_keeps,
    by decide +kernel⟩

/-- A generation is retired with an entry: the entity stays in the bucket of its state. -/
theorem retired_generation_still_supports :
    ¬∀ options operations, (afterRun options operations).IndexesAgree := by
  intro h
  have hStale : Sample.entity ∈
        entitiesSupporting (afterRun {} Sample.switchReplaced) Sample.capability ∧
      (query (afterRun {} Sample.switchReplaced) Sample.entity Sample.capability).state ≠
        .supported := by
    decide +kernel
  exact hStale.2 (((h {} Sample.switchReplaced).supporting _ _).1 hStale.1)

end FabricCapability.Ports
