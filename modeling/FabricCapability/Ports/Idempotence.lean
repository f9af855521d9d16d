import FabricCapability.Ports.Fencing
import FabricCapability.Ports.SetTruth

/-!
# Invalidating twice

A second call of `FenceWorkerBoot` finds the fence and returns.  A second call of
`InvalidateEntity` or `InvalidateSource` finds nothing to demote, but it takes an entry that is
not actionable, or any entry at all, for a change: it refreshes the sets and advances the
registry generation again.

## Main results

* `invalidateEntity_settles_iff`, `invalidateSource_settles_iff`: when a second call changes
  nothing.
* `second_call_idle_iff`: the three calls together.
-/

namespace FabricCapability.Ports

open FabricCapability.Verified.KeyedList

/-- After a first success the same call changes nothing. -/
def Settles {α : Type} (call : Registry → Registry × Outcome α) (registry : Registry) : Prop :=
  (call registry).2.isOk = true → (call (call registry).1).1 = (call registry).1

/-! ## Fencing -/

theorem fenceWorkerBoot_settles (registry : Registry) (boot : WorkerBootId)
    (reason : ReasonToken) : Settles (fenceWorkerBoot · boot reason) registry := by
  intro hOk
  have hDone : (fenceWorkerBoot registry boot reason).2 = .ok () := by
    dsimp only at hOk
    cases hOutcome : (fenceWorkerBoot registry boot reason).2 with
    | error e =>
        rw [hOutcome] at hOk
        cases hOk
    | ok u => rfl
  have hFenced := fenceWorkerBoot_fences hDone
  dsimp only
  generalize (fenceWorkerBoot registry boot reason).1 = fenced at hFenced
  unfold fenceWorkerBoot
  split
  · rfl
  · rfl

/-! ## Demoting what is demoted -/

section Demoted

variable {matching : EvidenceRecord → Bool} {currentness : EvidenceCurrentness}
  {reason : ReasonToken}

theorem mapAccum_untouched {σ α : Type} {f : σ → α → σ × α} {s : σ} {xs : List α}
    (h : ∀ x ∈ xs, ∀ s, f s x = (s, x)) : mapAccum f s xs = (s, xs) := by
  induction xs generalizing s with
  | nil => rfl
  | cons x xs ih =>
      rw [mapAccum, h x (List.mem_cons_self ..)]
      dsimp only
      rw [ih fun y hMem => h y (List.mem_cons_of_mem _ hMem)]

/-- An entity without a matching record is left alone. -/
theorem relabelEntity_untouched {indexes : Indexes} {entity : EntityState}
    (h : ∀ entry ∈ entity.capabilities, entry.evidence.any matching = false) :
    relabelEntity matching currentness reason indexes entity = (indexes, entity) := by
  unfold relabelEntity
  rw [mapAccum_untouched]
  intro entry hMem s
  unfold relabelEntry
  rw [h entry hMem]
  exact if_neg Bool.false_ne_true

end Demoted

theorem demotes_always (record : EvidenceRecord) :
    demotes none none true record = isCurrent record.currentness := rfl

/-- Whether some record of the entry is current. -/
def CapabilityEntry.hasCurrent (entry : CapabilityEntry) : Bool :=
  entry.evidence.any fun record => isCurrent record.currentness

theorem any_demotes (entry : CapabilityEntry) :
    entry.evidence.any (demotes none none true) = entry.hasCurrent := rfl

/-! ## Invalidating an entity -/

/-- Every entry is actionable, and none has a current record. -/
def EntityState.NothingToDemote (entity : EntityState) : Prop :=
  ∀ entry ∈ entity.capabilities,
    entry.resolution.actionable = true ∧ entry.hasCurrent = false

/-- Some entry is not actionable. -/
def EntityState.hasInactive (entity : EntityState) : Bool :=
  entity.capabilities.any fun entry => !entry.resolution.actionable

section Marked

variable (reason : ReasonToken) (indexes : Indexes) (entity : EntityState)

/-- The entity after everything current was demoted. -/
theorem markNonCurrent_idle : ∀ entry ∈ (markNonCurrent .revalidationRequired reason none none
    true indexes entity).2.capabilities, entry.hasCurrent = false := by
  intro entry hMem
  obtain ⟨_, held, -, rfl⟩ := mem_mapAccum hMem
  unfold CapabilityEntry.hasCurrent
  rw [relabelEntry_evidence, relabel, List.any_map, List.any_eq_false]
  intro record _
  dsimp only [Function.comp]
  split
  · exact Bool.false_ne_true
  · rename_i hKept
    rw [demotes_always] at hKept
    exact hKept

/-- It has an inactive entry unless nothing was to be demoted. -/
theorem markNonCurrent_hasInactive :
    (markNonCurrent .revalidationRequired reason none none true indexes
      entity).2.hasInactive = true ↔ ¬entity.NothingToDemote := by
  have hEach : ((markNonCurrent .revalidationRequired reason none none true indexes
      entity).2.capabilities.map fun entry => !entry.resolution.actionable) =
        entity.capabilities.map fun entry => entry.hasCurrent || !entry.resolution.actionable := by
    refine map_mapAccum _ _ fun s entry => ?_
    unfold relabelEntry
    rw [any_demotes]
    split
    · rename_i hCurrent
      rw [hCurrent, Bool.true_or, resolveCapability_snd]
      dsimp only
      rw [computeResolution_idle]
      · rfl
      · intro record hMem
        obtain ⟨held, -, rfl⟩ := List.mem_map.1 hMem
        split
        · rfl
        · rename_i hKept
          rw [demotes_always] at hKept
          exact Bool.eq_false_of_not_eq_true hKept
    · rename_i hIdle
      rw [Bool.eq_false_of_not_eq_true hIdle, Bool.false_or]
  have hAny := congrArg (fun flags => List.any flags id) hEach
  simp only [List.any_map, Function.comp_def, id] at hAny
  unfold EntityState.hasInactive EntityState.NothingToDemote
  rw [hAny, List.any_eq_true]
  constructor
  · rintro ⟨entry, hMem, hFlag⟩ hNothing
    obtain ⟨hActionable, hIdle⟩ := hNothing entry hMem
    rw [hActionable, hIdle] at hFlag
    cases hFlag
  · intro hSome
    by_contra hNone
    refine hSome fun entry hMem => ?_
    have hFlag : ¬((entry.hasCurrent || !entry.resolution.actionable) = true) :=
      fun hFlag => hNone ⟨entry, hMem, hFlag⟩
    simp only [Bool.or_eq_true, Bool.not_eq_true', not_or, Bool.not_eq_true,
      Bool.not_eq_false] at hFlag
    exact ⟨hFlag.2, hFlag.1⟩

end Marked

section Entity

variable {registry : Registry} {id : EntityId} {generation : EntityGeneration}
  {reason : ReasonToken} {entity : EntityState}

/-- The call on an entity that is invalidated and has nothing current. -/
theorem invalidateEntity_again (hFound : registry.findEntity id = some entity)
    (hSet : generation ≠ 0) (hGeneration : entity.currentGeneration = generation)
    (hInvalidated : entity.invalidated = true)
    (hIdle : ∀ entry ∈ entity.capabilities, entry.hasCurrent = false) :
    invalidateEntity registry id generation reason =
      if entity.hasInactive then
        match counterNext registry.registryGeneration with
        | .error _ =>
            (registry.setEntity (refreshEntity registry.registryGeneration entity),
              .error registryGenerationExhausted)
        | .ok next =>
            ({ registry with registryGeneration := next }.setEntity
                { refreshEntity registry.registryGeneration entity with touchedAt := next },
              .ok ())
      else (registry, .ok ()) := by
  have hGuard : ¬(generation = 0 ∨ generation ≠ entity.currentGeneration) := by
    rw [hGeneration]
    simpa using hSet
  have hMark : ∀ why, markNonCurrent .revalidationRequired why none none true registry.indexes
      entity = (registry.indexes, entity) := by
    intro why
    refine relabelEntity_untouched fun entry hMem => ?_
    rw [any_demotes]
    exact hIdle entry hMem
  have hWritten : registry.setEntity entity = registry := by
    have hSame := upsert_lookup hFound
    unfold Registry.setEntity
    rw [hSame]
  unfold invalidateEntity
  rw [hFound]
  dsimp only
  rw [if_neg hGuard, hMark]
  dsimp only
  rw [hInvalidated, Bool.not_true, Bool.or_false]
  show (if entity.hasInactive = true then _ else _) = _
  split
  · rfl
  · exact congrArg (·, Except.ok ()) hWritten

/-- What a success leaves: the entity is invalidated and has nothing current; it has an
inactive entry unless there was nothing to demote, and then the registry generation was
advanced past the one of its set. -/
structure InvalidatedOnce (registry after : Registry) (id : EntityId)
    (entity later : EntityState) : Prop where
  found : after.findEntity id = some later
  generation_eq : later.currentGeneration = entity.currentGeneration
  invalidated : later.invalidated = true
  idle : ∀ entry ∈ later.capabilities, entry.hasCurrent = false
  inactive : later.hasInactive = true ↔ ¬entity.NothingToDemote
  advanced : later.hasInactive = true →
    counterNext registry.registryGeneration = .ok after.registryGeneration ∧
      later.set.map EntityCapabilitySet.registryGeneration = some registry.registryGeneration

theorem invalidateEntity_once (hFound : registry.findEntity id = some entity)
    (h : (invalidateEntity registry id generation reason).2.isOk = true) :
    generation ≠ 0 ∧ entity.currentGeneration = generation ∧
      ∃ later, InvalidatedOnce registry (invalidateEntity registry id generation reason).1 id
        entity later := by
  have hId : entity.id = id := findEntity_id hFound
  unfold invalidateEntity at h ⊢
  rw [hFound] at h ⊢
  dsimp only at h ⊢
  by_cases hGuard : generation = 0 ∨ generation ≠ entity.currentGeneration
  · rw [if_pos hGuard] at h
    cases h
  · rw [if_neg hGuard] at h ⊢
    rw [not_or, not_not] at hGuard
    refine ⟨hGuard.1, hGuard.2.symm, ?_⟩
    generalize hWhy : reasonOr reason (txt "entity-invalidated") = why at h ⊢
    have hIdle := markNonCurrent_idle why registry.indexes entity
    have hInactive := markNonCurrent_hasInactive why registry.indexes entity
    have hSame : SameEntity entity (markNonCurrent .revalidationRequired why none none true
        registry.indexes entity).2 := relabelEntity_entity ..
    generalize markNonCurrent .revalidationRequired why none none true registry.indexes
      entity = marked at h hIdle hInactive hSame ⊢
    obtain ⟨indexes, marked⟩ := marked
    dsimp only at h hIdle hInactive hSame ⊢
    have hAny : (marked.capabilities.any fun entry => !entry.resolution.actionable) =
      marked.hasInactive := rfl
    rw [hAny] at h ⊢
    -- the entity as it is flagged
    generalize hFlag : (if entity.invalidated = true then marked else
      { marked with invalidated := true, invalidationReason := why }) = flagged at h ⊢
    have hCapabilities : flagged.capabilities = marked.capabilities := by
      rw [← hFlag]
      split <;> rfl
    have hFlagged : flagged.invalidated = true ∧ flagged.id = id ∧
        flagged.currentGeneration = entity.currentGeneration := by
      rw [← hFlag]
      unfold SameEntity at hSame
      split
      · rename_i hAlready
        rw [hSame]
        exact ⟨hAlready, hId, rfl⟩
      · rw [hSame]
        exact ⟨rfl, hId, rfl⟩
    have hKeeps : flagged.hasInactive = marked.hasInactive := by
      unfold EntityState.hasInactive
      rw [hCapabilities]
    split at h
    · rename_i hChanged
      rw [if_pos hChanged]
      cases hNext : counterNext registry.registryGeneration with
      | error e =>
          rw [hNext] at h
          cases h
      | ok next =>
          refine ⟨{ refreshEntity registry.registryGeneration flagged with touchedAt := next },
            findEntity_setEntity hFlagged.2.1, hFlagged.2.2, hFlagged.1, ?_, ?_, ?_⟩
          · intro entry hMem
            exact hIdle entry (hCapabilities ▸ hMem)
          · rw [← hInactive, ← hKeeps]
            rfl
          · intro _
            exact ⟨hNext, rfl⟩
    · rename_i hSettled
      rw [if_neg hSettled]
      have hActive : marked.hasInactive = false := by
        rw [Bool.or_eq_true, not_or] at hSettled
        exact Bool.eq_false_of_not_eq_true hSettled.1
      refine ⟨flagged, findEntity_setEntity hFlagged.2.1, hFlagged.2.2, hFlagged.1, ?_, ?_, ?_⟩
      · intro entry hMem
        exact hIdle entry (hCapabilities ▸ hMem)
      · rw [hKeeps, hInactive]
      · intro hSome
        rw [hKeeps, hActive] at hSome
        cases hSome

theorem invalidateEntity_isOk (hFound : registry.findEntity id = some entity)
    (hSet : generation ≠ 0) (hGeneration : entity.currentGeneration = generation)
    (hMax : registry.registryGeneration ≠ 0xFFFFFFFFFFFFFFFF) :
    (invalidateEntity registry id generation reason).2.isOk = true := by
  have hGuard : ¬(generation = 0 ∨ generation ≠ entity.currentGeneration) := by
    rw [hGeneration]
    simpa using hSet
  unfold invalidateEntity
  rw [hFound]
  dsimp only
  rw [if_neg hGuard, counterNext_eq_ok hMax]
  dsimp only
  split <;> rfl

/-- A second call changes nothing exactly when the first one had nothing to demote, or failed
because the registry generation was exhausted. -/
theorem invalidateEntity_settles_iff (registry : Registry) (id : EntityId)
    (generation : EntityGeneration) (reason : ReasonToken) :
    Settles (invalidateEntity · id generation reason) registry ↔
      ∀ entity, registry.findEntity id = some entity → generation ≠ 0 →
        entity.currentGeneration = generation →
        registry.registryGeneration ≠ 0xFFFFFFFFFFFFFFFF → entity.NothingToDemote := by
  constructor
  · intro hSettles entity hFound hSet hGeneration hMax
    by_contra hSome
    have hOk : (invalidateEntity registry id generation reason).2.isOk = true :=
      invalidateEntity_isOk hFound hSet hGeneration hMax
    have hSame := hSettles hOk
    dsimp only at hSame
    obtain ⟨-, -, later, once⟩ := invalidateEntity_once hFound hOk
    have hInactive := once.inactive.2 hSome
    obtain ⟨hNext, hStamp⟩ := once.advanced hInactive
    have hAbove := toNat_of_counterNext hNext
    generalize (invalidateEntity registry id generation reason).1 = after
      at once hSame hNext hAbove
    rw [invalidateEntity_again once.found hSet (once.generation_eq.trans hGeneration)
      once.invalidated once.idle, if_pos hInactive] at hSame
    split at hSame
    · -- the counter is exhausted now, and the set is stamped with its last value
      have hFind := congrArg (·.findEntity id) hSame
      dsimp only at hFind
      have hId : later.id = id := findEntity_id once.found
      have hWritten := @findEntity_setEntity after
        (refreshEntity after.registryGeneration later) id hId
      rw [hWritten, once.found, Option.some.injEq] at hFind
      rw [← hFind] at hStamp
      have hEq : after.registryGeneration = registry.registryGeneration :=
        Option.some.inj hStamp
      rw [hEq] at hAbove
      omega
    · rename_i further hFurther
      have hEq : further = after.registryGeneration := congrArg Registry.registryGeneration hSame
      have hFurtherAbove := toNat_of_counterNext hFurther
      rw [hEq] at hFurtherAbove
      omega
  · intro hNothing hOk
    dsimp only at hOk ⊢
    cases hFound : registry.findEntity id with
    | none =>
        unfold invalidateEntity at hOk
        rw [hFound] at hOk
        cases hOk
    | some entity =>
        obtain ⟨hSet, hGeneration, later, once⟩ := invalidateEntity_once hFound hOk
        have hActive : later.hasInactive = false := by
          refine Bool.eq_false_of_not_eq_true fun hInactive => ?_
          refine once.inactive.1 hInactive (hNothing entity hFound hSet hGeneration ?_)
          intro hMax
          have hNext := (once.advanced hInactive).1
          rw [hMax] at hNext
          cases hNext
        generalize (invalidateEntity registry id generation reason).1 = after at once
        rw [invalidateEntity_again once.found hSet (once.generation_eq.trans hGeneration)
          once.invalidated once.idle, hActive]
        rfl

end Entity

/-! ## Invalidating a source -/

section Source

variable {registry : Registry} {source : SourceId} {reason : ReasonToken}

/-- The registry holds no entry. -/
def Registry.Bare (registry : Registry) : Prop :=
  ∀ entity ∈ registry.entities, entity.capabilities = []

theorem invalidateSourceIn_bare {registryGeneration : RegistryGeneration} {indexes : Indexes}
    {entity : EntityState} (h : entity.capabilities = []) :
    invalidateSourceIn registryGeneration source reason indexes entity = (indexes, entity) := by
  have hMark : markNonCurrent .revalidationRequired reason none (some source) true indexes
      entity = (indexes, entity) := by
    refine relabelEntity_untouched fun entry hMem => ?_
    rw [h] at hMem
    cases hMem
  unfold invalidateSourceIn
  rw [hMark]
  dsimp only
  rw [h]
  rfl

theorem invalidateSource_bare (h : registry.Bare) :
    (invalidateSource registry source reason).1 = registry := by
  unfold invalidateSource
  split
  · rfl
  · dsimp only
    have hVisit : registry.visitEntities (invalidateSourceIn registry.registryGeneration source
        (reasonOr reason (txt "source-invalidated"))) = registry := by
      unfold Registry.visitEntities
      rw [mapAccum_untouched fun entity hMem s => invalidateSourceIn_bare (h entity hMem)]
    have hNone : (registry.entities.any fun entity => !entity.capabilities.isEmpty) = false := by
      rw [List.any_eq_false]
      intro entity hMem
      rw [h entity hMem]
      exact Bool.false_ne_true
    rw [hVisit, hNone]
    rfl

section Visited

variable (registryGeneration : RegistryGeneration) (source : SourceId) (reason : ReasonToken)

/-- An entity with entries is refreshed. -/
theorem invalidateSourceIn_stamp (indexes : Indexes) (entity : EntityState)
    (h : (invalidateSourceIn registryGeneration source reason indexes entity).2.capabilities ≠ []) :
    (invalidateSourceIn registryGeneration source reason indexes entity).2.set.map
      EntityCapabilitySet.registryGeneration = some registryGeneration := by
  unfold invalidateSourceIn at h ⊢
  dsimp only at h ⊢
  split at h
  · rename_i hEmpty
    exact absurd (List.isEmpty_iff.1 hEmpty) h
  · rename_i hSome
    rw [if_neg hSome]
    rfl

theorem invalidateSourceIn_isEmpty (indexes : Indexes) (entity : EntityState) :
    (invalidateSourceIn registryGeneration source reason indexes entity).2.capabilities.isEmpty =
      entity.capabilities.isEmpty := by
  have hLength : (invalidateSourceIn registryGeneration source reason indexes
      entity).2.capabilities.length = entity.capabilities.length := by
    unfold invalidateSourceIn
    dsimp only
    have hLength (matching : EvidenceRecord → Bool) : (relabelEntity matching
        .revalidationRequired reason indexes entity).2.capabilities.length =
          entity.capabilities.length := by
      simpa using congrArg List.length (relabelEntity_ids matching .revalidationRequired reason
        indexes entity)
    split <;> exact hLength _
  rw [Bool.eq_iff_iff, List.isEmpty_iff_length_eq_zero, List.isEmpty_iff_length_eq_zero, hLength]

theorem visited_bare_iff (registry : Registry) :
    (registry.visitEntities (invalidateSourceIn registryGeneration source reason)).Bare ↔
      registry.Bare := by
  have hEach : ((registry.visitEntities (invalidateSourceIn registryGeneration source
      reason)).entities.map fun entity => entity.capabilities.isEmpty) =
        registry.entities.map fun entity => entity.capabilities.isEmpty :=
    map_mapAccum _ _ fun _ _ => invalidateSourceIn_isEmpty ..
  have hAll : ∀ entities : List EntityState,
      (∀ entity ∈ entities, entity.capabilities = []) ↔
        ∀ empty ∈ entities.map fun entity => entity.capabilities.isEmpty, empty = true := by
    intro entities
    simp only [List.forall_mem_map, List.isEmpty_iff]
  unfold Registry.Bare
  rw [hAll, hAll, hEach]

theorem visited_stamp (registry : Registry) :
    ∀ entity ∈ (registry.visitEntities (invalidateSourceIn registryGeneration source
      reason)).entities, entity.capabilities ≠ [] →
        entity.set.map EntityCapabilitySet.registryGeneration = some registryGeneration := by
  intro entity hMem hSome
  obtain ⟨indexes, held, -, rfl⟩ := mem_mapAccum hMem
  exact invalidateSourceIn_stamp _ _ _ _ _ hSome

end Visited

theorem invalidateSource_entities (hSet : source.isSet = true) :
    (invalidateSource registry source reason).1.entities =
      (registry.visitEntities (invalidateSourceIn registry.registryGeneration source
        (reasonOr reason (txt "source-invalidated")))).entities := by
  unfold invalidateSource
  rw [hSet]
  dsimp only
  rw [if_neg (by decide)]
  split
  · exact advanceRegistry_entities ..
  · rfl

/-- With entries in the registry the call advances the registry generation, if it can. -/
theorem invalidateSource_advances (hSet : source.isSet = true) (hSome : ¬registry.Bare) :
    ((invalidateSource registry source reason).2.isOk = true ↔
        registry.registryGeneration ≠ 0xFFFFFFFFFFFFFFFF) ∧
      ((invalidateSource registry source reason).2.isOk = true →
        (invalidateSource registry source reason).1.registryGeneration.toNat =
          registry.registryGeneration.toNat + 1) := by
  have hAny : (registry.entities.any fun entity => !entity.capabilities.isEmpty) = true := by
    by_contra hNone
    refine hSome fun entity hMem => ?_
    rw [List.any_eq_true] at hNone
    by_contra hHeld
    exact hNone ⟨entity, hMem, by simpa using hHeld⟩
  unfold invalidateSource
  rw [hSet]
  dsimp only
  rw [if_neg (by decide), hAny, if_pos rfl]
  generalize hVisit : registry.visitEntities _ = visited
  have hSame : visited.registryGeneration = registry.registryGeneration := by
    rw [← hVisit]
    rfl
  unfold advanceRegistry
  rw [hSame]
  cases hNext : counterNext registry.registryGeneration with
  | error e =>
      constructor
      · constructor
        · intro hOk
          cases hOk
        · intro hMax
          rw [counterNext_eq_ok hMax] at hNext
          cases hNext
      · intro hOk
        cases hOk
  | ok next =>
      constructor
      · constructor
        · intro _ hMax
          rw [hMax] at hNext
          cases hNext
        · exact fun _ => rfl
      · exact fun _ => toNat_of_counterNext hNext

/-- A second call changes nothing exactly when the registry has no entry, or the first one
failed. -/
theorem invalidateSource_settles_iff (registry : Registry) (source : SourceId)
    (reason : ReasonToken) :
    Settles (invalidateSource · source reason) registry ↔
      (source.isSet = true → registry.registryGeneration ≠ 0xFFFFFFFFFFFFFFFF →
        registry.Bare) := by
  constructor
  · intro hSettles hSet hMax
    by_contra hSome
    obtain ⟨hOkIff, hCounts⟩ := @invalidateSource_advances registry source reason hSet hSome
    have hOk := hOkIff.2 hMax
    have hSame := hSettles hOk
    have hAbove := hCounts hOk
    have hEntities := @invalidateSource_entities registry source reason hSet
    dsimp only at hSame
    generalize (invalidateSource registry source reason).1 = after at hSame hAbove hEntities
    have hAgain := @invalidateSource_entities after source reason hSet
    rw [hSame] at hAgain
    have hLeft : ¬after.Bare := by
      unfold Registry.Bare
      rw [hEntities]
      exact fun hBare => hSome ((visited_bare_iff ..).1 hBare)
    -- an entity with entries carries the generations of both calls
    refine hLeft fun entity hMem => ?_
    by_contra hEntries
    have hFirst := visited_stamp _ _ _ registry entity (hEntities ▸ hMem) hEntries
    have hSecond := visited_stamp _ _ _ after entity (hAgain ▸ hMem) hEntries
    rw [hFirst, Option.some.injEq] at hSecond
    rw [hSecond] at hAbove
    omega
  · intro hBare hOk
    dsimp only at hOk ⊢
    have hSet : source.isSet = true := by
      by_contra hUnset
      unfold invalidateSource at hOk
      rw [if_pos (by simpa using hUnset)] at hOk
      cases hOk
    have hNone : registry.Bare := by
      by_contra hSome
      exact hSome (hBare hSet
        ((@invalidateSource_advances registry source reason hSet hSome).1.1 hOk))
    rw [invalidateSource_bare hNone, invalidateSource_bare hNone]

end Source

/-! ## The three calls -/

/-- A second call of `FenceWorkerBoot` always changes nothing, one of `InvalidateEntity` when
every entry of the entity was actionable without current evidence, and one of
`InvalidateSource` when no entity had entries; unless the first call failed. -/
theorem second_call_idle_iff (registry : Registry) (boot : WorkerBootId) (entity : EntityId)
    (generation : EntityGeneration) (source : SourceId) (reason : ReasonToken) :
    Settles (fenceWorkerBoot · boot reason) registry ∧
      (Settles (invalidateEntity · entity generation reason) registry ↔
        ∀ held, registry.findEntity entity = some held → generation ≠ 0 →
          held.currentGeneration = generation →
          registry.registryGeneration ≠ 0xFFFFFFFFFFFFFFFF → held.NothingToDemote) ∧
      (Settles (invalidateSource · source reason) registry ↔
        (source.isSet = true → registry.registryGeneration ≠ 0xFFFFFFFFFFFFFFFF →
          registry.Bare)) :=
  ⟨fenceWorkerBoot_settles registry boot reason, invalidateEntity_settles_iff .., invalidateSource_settles_iff ..⟩

namespace Sample

/-- One switch with one capability. -/
def claimed : List Operation :=
  setup ++ [.publish (publication bootOne "attempt-1" 1 0 (claim .supported .processBound))]

end Sample

/-- One switch with one capability: the second invalidation advances the registry generation
again. -/
theorem second_invalidation_advances :
    ¬∀ options operations entity generation reason,
      Settles (invalidateEntity · entity generation reason) (afterRun options operations) := by
  intro h
  have hOk : (invalidateEntity (afterRun {} Sample.claimed) Sample.entity 1 .unset).2.isOk =
      true := by
    decide +kernel
  have hTwice : (invalidateEntity (invalidateEntity (afterRun {} Sample.claimed) Sample.entity 1
      .unset).1 Sample.entity 1 .unset).1.registryGeneration ≠
        (invalidateEntity (afterRun {} Sample.claimed) Sample.entity 1
          .unset).1.registryGeneration := by
    decide +kernel
  exact hTwice (congrArg Registry.registryGeneration (h {} Sample.claimed _ _ _ hOk))

end FabricCapability.Ports
