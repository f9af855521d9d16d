import FabricCapability.Ports.AtMostOnce
import FabricCapability.Ports.Deployments
import FabricCapability.Ports.EvidenceRoom

/-!
# The bounds of the options

`Options` bounds what the registry holds.  The bounds on entities, capabilities,
registrations, fences, replay records and retained generations are checked wherever
something is added.  The bounds on evidence are not: a claim that is applied may add one
record too many to the entry of its capability, and the records of an entity are counted
nowhere (`EvidenceRoom`).

So a registry keeps its bounds as long as every claim finds room.  Loading a file keeps
them as well, when it was saved by a registry with the same options.

## Main results

* `publications_with_room_keep_bounds`: every registry of a deployment.
* `second_claim_exceeds_bound`: the registry with room for one record a capability holds
  two after two publications.
-/

namespace FabricCapability.Ports

open FabricCapability.Verified.KeyedList
open FabricCapability.Verified.Restores
open FabricCapability.Verified.Runs
open FabricCapability.Verified.StrictOrder

/-! ## The bounds -/

/-- An entity within its bounds. -/
structure EntityState.Bounded (options : Options) (entity : EntityState) : Prop
    extends entity.Filled options where
  history : entity.history.length ≤ options.maxEntityGenerationsRetained

/-- A registry within its bounds. -/
structure Registry.Bounded (options : Options) (registry : Registry) : Prop where
  entities : registry.entities.length ≤ options.maxEntities
  each : ∀ entity ∈ registry.entities, entity.Bounded options
  publishers : registry.publishers.length ≤ options.maxPublishers
  fencedBoots : registry.fencedBoots.length ≤ options.maxFencedWorkerBoots
  replay : ∀ held ∈ registry.publishers,
    held.2.replay.length ≤ options.maxReplayEntriesPerPublisher

/-- All these bounds are positive. -/
structure Options.Positive (options : Options) : Prop where
  entities : 0 < options.maxEntities
  capabilities : 0 < options.maxCapabilitiesPerEntity
  evidence : 0 < options.maxEvidencePerCapability
  records : 0 < options.maxEvidencePerEntity
  publishers : 0 < options.maxPublishers
  fencedBoots : 0 < options.maxFencedWorkerBoots
  replay : 0 < options.maxReplayEntriesPerPublisher
  history : 0 < options.maxEntityGenerationsRetained

/-- The claims of the publication find room, if it gets as far as to apply them. -/
def Attempt.FindsRoom (attempt : Attempt) : Prop :=
  match admitted attempt.before attempt.request with
  | none => True
  | some (grant, bound, entity) =>
      StepsFindRoom bound attempt.request (bound.cell entity)
        (applySteps bound.schema grant attempt.request)

/-- Every publication that the operation makes finds room. -/
def PublishesWithRoom (registry : Registry) (operation : Operation) : Prop :=
  ∀ attempt ∈ attempts registry operation, attempt.FindsRoom

instance (attempt : Attempt) : Decidable attempt.FindsRoom := by
  unfold Attempt.FindsRoom
  split <;> infer_instance

instance (registry : Registry) (operation : Operation) :
    Decidable (PublishesWithRoom registry operation) :=
  inferInstanceAs (Decidable (∀ attempt ∈ _, _))

/-! ## The entities -/

section Entities

variable {options : Options}

theorem length_retiredHistory {registryGeneration : RegistryGeneration}
    {entity : EntityState} (next : EntityGeneration) (reason : ReasonToken)
    (h : entity.history.length ≤ options.maxEntityGenerationsRetained) :
    (retireGeneration options registryGeneration entity next reason).history.length ≤
      options.maxEntityGenerationsRetained := by
  unfold retireGeneration
  dsimp only
  split
  · rw [List.length_take]
    exact Nat.min_le_left ..
  · exact h

theorem newEntity_bounded (registryGeneration : RegistryGeneration) (id : EntityId)
    (generation : EntityGeneration) :
    (newEntity registryGeneration id generation).Bounded options :=
  ⟨filled_of_empty rfl, Nat.zero_le _⟩

theorem bounded_stages (options : Options) :
    StageRule options fun a b => a.Bounded options → b.Bounded options where
  refl _ := fun h => h
  trans _ _ _ hab hbc := hbc ∘ hab
  retired _ _ next reason _ _ h :=
    ⟨filled_of_empty rfl, length_retiredHistory next reason h.history⟩
  exhausted _ _ _ h := ⟨h.toFilled.of_counts rfl, h.history⟩
  committed _ _ _ next _ hAdvance h := by
    obtain ⟨-, hNext, -, -⟩ := advanceGenerations_ok hAdvance
    rw [hNext]
    exact ⟨h.toFilled.of_counts rfl, h.history⟩

theorem bounded_refreshes (options : Options) :
    RefreshRule fun a b => a.Bounded options → b.Bounded options where
  refl _ := fun h => h
  trans _ _ _ hab hbc := hbc ∘ hab
  relabelled _ _ _ _ _ h := ⟨h.toFilled.of_counts (relabelEntity_counts ..), h.history⟩
  flagged _ _ h := ⟨h.toFilled.of_counts rfl, h.history⟩
  refreshed _ _ _ h := ⟨h.toFilled.of_counts rfl, h.history⟩

/-- A publication that finds room keeps the bounds of the entity it is about. -/
theorem Attempt.FindsRoom.applies {attempt : Attempt} (h : attempt.FindsRoom)
    (hOptions : attempt.before.options = options) :
    AppliesAdmitted (fun a b => a.Bounded options → b.Bounded options) attempt.before
      attempt.request := by
  intro grant bound entity hAdmitted hBounded
  obtain ⟨runtime, -, hBind, -, -⟩ := admitted_some hAdmitted
  have hBound : bound.options = options := by
    have hControl := (bindEntity_control attempt.before attempt.request).options
    rw [hBind, hOptions] at hControl
    exact hControl
  unfold Attempt.FindsRoom at h
  rw [hAdmitted] at h
  subst hBound
  have hSame := runSteps_entity bound attempt.request
    (applySteps bound.schema grant attempt.request) (bound.cell entity)
  refine ⟨runSteps_filled hBounded.toFilled h, ?_⟩
  rw [hSame]
  exact hBounded.history

/-- One operation that publishes with room keeps every entity within its bounds. -/
theorem each_bounded_step {registry : Registry} {operation : Operation}
    (hNoLoad : NoLoad registry operation) (hRoom : PublishesWithRoom registry operation)
    (hOptions : registry.options = options)
    (h : ∀ entity ∈ registry.entities, entity.Bounded options) :
    ∀ entity ∈ (operation.apply registry).entities, entity.Bounded options := by
  refine Follows.invariant (a := registry) ?_ (fun _ _ _ _ => newEntity_bounded ..) h
  cases hCalm : operation.refreshes with
  | true => exact refreshStep_follows (bounded_refreshes options) hCalm
  | false =>
      refine calmStages_follow (hOptions ▸ bounded_stages options) ?_ ?_ hNoLoad hCalm
      · exact fun _ _ _ _ hBounded => ⟨hBounded.toFilled.of_counts rfl, hBounded.history⟩
      · intro attempt hMem
        exact (hRoom attempt hMem).applies ((attempts_options attempt hMem).trans hOptions)

end Entities

/-! ## Everything else that is bounded -/

/-- What the other bounds speak of: the identifiers of the entities, the registrations and
the fences. -/
structure Outline where
  options : Options
  entities : List EntityId
  publishers : List (PublisherKey × PublisherRuntime)
  fencedBoots : List WorkerBootId
  fences : List WorkerBootId

def Registry.outline (registry : Registry) : Outline :=
  { options := registry.options
    entities := registry.entities.map EntityState.id
    publishers := registry.publishers
    fencedBoots := registry.fencedBoots
    fences := registry.fences.map FenceRecord.workerBoot }

/-- The outline keeps its bounds, and the set of fenced boots lists the boots of the fences:
the bound on the set is checked against the list of fences. -/
structure Outline.Bounded (options : Options) (outline : Outline) : Prop where
  options_eq : outline.options = options
  entities : outline.entities.length ≤ options.maxEntities
  publishers : outline.publishers.length ≤ options.maxPublishers
  replay : ∀ held ∈ outline.publishers,
    held.2.replay.length ≤ options.maxReplayEntriesPerPublisher
  fencedBoots : outline.fencedBoots.length ≤ options.maxFencedWorkerBoots
  distinct : outline.fencedBoots.Nodup
  fences : outline.fences = outline.fencedBoots

section Outline

variable {options : Options} {registry : Registry}

/-- Writing back an entity that is held. -/
theorem outline_setEntity {base : Registry} {later held : EntityState}
    (hFound : registry.findEntity later.id = some held)
    (hBase : base.outline = registry.outline) :
    (base.setEntity later).outline = registry.outline := by
  have hIds : base.entities.map EntityState.id = registry.entities.map EntityState.id :=
    congrArg Outline.entities hBase
  have hKnown : later.id ∈ base.entities.map EntityState.id := by
    rw [hIds, ← lookup_isSome]
    rw [show lookup _ _ _ = some held from hFound]
    rfl
  have hWritten : (base.setEntity later).outline = base.outline := by
    unfold Registry.outline Registry.setEntity
    dsimp only
    rw [map_key_upsert, if_pos hKnown]
  exact hWritten.trans hBase

theorem outline_advanceRegistry {α : Type} (value : α) :
    (advanceRegistry registry value).1.outline = registry.outline := by
  unfold advanceRegistry
  split <;> rfl

theorem outline_visitEntities {visit : Indexes → EntityState → Indexes × EntityState}
    (hId : ∀ indexes entity, (visit indexes entity).2.id = entity.id) :
    (registry.visitEntities visit).outline = registry.outline := by
  unfold Registry.outline Registry.visitEntities
  dsimp only
  rw [map_mapAccum EntityState.id EntityState.id hId]

/-! ### Publications -/

theorem bindGeneration_outline {request : PublicationRequest} {held : EntityState}
    (hFound : registry.findEntity held.id = some held) :
    (bindGeneration registry request held).1.outline = registry.outline := by
  unfold bindGeneration
  split
  · rfl
  · split
    · dsimp only
      split
      · exact @outline_setEntity registry _ _ held hFound rfl
      · exact @outline_setEntity registry _ _ held hFound rfl
    · rfl

/-- A new entity finds room. -/
theorem append_outline {entity : EntityState} (h : registry.outline.Bounded options)
    (hRoom : ¬registry.entities.length ≥ registry.options.maxEntities) :
    Outline.Bounded options
      { registry with entities := registry.entities ++ [entity] }.outline := by
  refine { h with entities := ?_ }
  have hOptions : registry.options = options := h.options_eq
  rw [hOptions] at hRoom
  show ((registry.entities ++ [entity]).map EntityState.id).length ≤ _
  rw [List.length_map, List.length_append, List.length_singleton]
  omega

theorem bindEntity_outline {request : PublicationRequest} (h : registry.outline.Bounded options) :
    (bindEntity registry request).1.outline.Bounded options := by
  unfold bindEntity
  split
  · rename_i held hFound
    rw [bindGeneration_outline (findEntity_id hFound ▸ hFound)]
    exact h
  · rename_i hMissing
    split
    · exact h
    · rename_i hRoom
      dsimp only
      rw [bindGeneration_outline]
      · exact append_outline h hRoom
      · show lookup EntityState.id request.entity (registry.entities ++ [newEntity ..]) = _
        rw [lookup_append_right hMissing]
        simp [lookup, newEntity]

/-- The replay memory of the publisher makes room for the record. -/
theorem registerReplay_outline {key : PublisherKey} {record : ReplayRecord}
    (hPositive : 0 < options.maxReplayEntriesPerPublisher)
    (h : registry.outline.Bounded options) :
    (registry.registerReplay key record).outline.Bounded options := by
  refine { h with publishers := ?_, replay := ?_ }
  · show (registry.publishers.map _).length ≤ _
    rw [List.length_map]
    exact h.publishers
  · intro held hMem
    obtain ⟨before, hBefore, rfl⟩ := List.mem_map.1 hMem
    have hReplay := h.replay before hBefore
    have hOptions : registry.options = options := h.options_eq
    split
    · rw [hOptions]
      dsimp only
      split
      · rw [List.length_append, List.length_tail, List.length_singleton]
        omega
      · rw [List.length_append, List.length_singleton]
        omega
    · exact hReplay

theorem advanceGenerations_outline {entity : EntityState} (changed : Bool)
    (hFound : registry.findEntity entity.id = some entity) :
    (advanceGenerations registry entity changed).1.outline = registry.outline := by
  unfold advanceGenerations
  split
  · split
    · rfl
    · dsimp only
      split
      · exact @outline_setEntity registry _ _ entity hFound rfl
      · rfl
  · rfl

theorem commit_outline {request : PublicationRequest} {before : Option EntityCapabilitySet}
    {entity : EntityState} {steps : List ApplyStep} {contentDigest : Bytes}
    (hPositive : 0 < options.maxReplayEntriesPerPublisher)
    (hFound : registry.findEntity entity.id = some entity)
    (h : registry.outline.Bounded options) :
    (commit registry request before entity steps contentDigest).1.outline.Bounded options := by
  have hAdvanced := advanceGenerations_outline (semanticChange before entity) hFound
  unfold commit
  dsimp only
  split
  · rename_i failed e hEq
    rw [hEq] at hAdvanced
    rw [hAdvanced]
    exact h
  · rename_i advanced next hEq
    rw [hEq] at hAdvanced
    obtain ⟨hRegistry, hNext, -, -⟩ := advanceGenerations_ok hEq
    have hHeld : (advanced.registerReplay request.publisherKey
        { attempt := request.attempt, publication := request.publication,
          contentDigest }).findEntity
        ((publishedEntity advanced.registryGeneration next).raiseFloor request).id =
          some entity := by
      rw [hRegistry, hNext]
      exact hFound
    have hJournal : ∀ (written : Registry) entry,
        (written.recordJournal entry).outline = written.outline := fun _ _ => rfl
    dsimp only
    rw [hJournal, outline_setEntity hHeld rfl]
    exact registerReplay_outline hPositive (hAdvanced ▸ h)

theorem publish_outline (hPositive : 0 < options.maxReplayEntriesPerPublisher)
    {request : PublicationRequest} (h : registry.outline.Bounded options) :
    (publish registry request).1.outline.Bounded options := by
  refine publish_preserves (P := fun later => later.outline.Bounded options)
    (fun _ _ hBounded => hBounded) (fun _ _ _ => bindEntity_outline h) ?_ ?_ h
  · intro runtime grant bound entity _ hBind _ hBounded
    obtain ⟨hId, -, hFound, -⟩ := bindEntity_ok hBind
    have hSame := runSteps_entity bound request (applySteps bound.schema grant request)
      (bound.cell entity)
    have hHeld : bound.findEntity (runSteps bound request (bound.cell entity)
        (applySteps bound.schema grant request)).1.entity.id = some entity := by
      rw [hSame.id_eq]
      exact hId ▸ hFound
    have hWritten : (applyRequest bound request entity
        (applySteps bound.schema grant request)).1.outline = bound.outline :=
      outline_setEntity hHeld rfl
    rw [hWritten]
    exact hBounded
  · intro runtime grant bound entity applied published _ _ _ hApplied hBounded
    obtain ⟨-, rfl, rfl⟩ := applyRequest_entity hApplied
    exact commit_outline hPositive (findEntity_setEntity rfl) hBounded

/-! ### Entities -/

theorem observeEntityGeneration_outline (entity : EntityId) (generation : EntityGeneration)
    (reason : ReasonToken) (h : registry.outline.Bounded options) :
    (observeEntityGeneration registry entity generation reason).1.outline.Bounded options := by
  unfold observeEntityGeneration
  split
  · exact h
  · split
    · split
      · exact h
      · rename_i hRoom
        exact append_outline h hRoom
    · rename_i held hFound
      have hWritten : ∀ base later, later.id = held.id → base.outline = registry.outline →
          (Registry.setEntity base later).outline.Bounded options := by
        intro base later hId hBase
        have hHeld : registry.findEntity later.id = some held :=
          hId ▸ findEntity_id hFound ▸ hFound
        rw [outline_setEntity hHeld hBase]
        exact h
      split
      · exact hWritten _ _ rfl rfl
      · split
        · exact h
        · split
          · exact h
          · dsimp only
            split
            · exact hWritten _ _ rfl rfl
            · exact hWritten _ _ rfl rfl

theorem invalidateEntity_outline (entity : EntityId) (generation : EntityGeneration)
    (reason : ReasonToken) :
    (invalidateEntity registry entity generation reason).1.outline = registry.outline := by
  unfold invalidateEntity
  split
  · rfl
  · rename_i held hFound
    have hHeld : registry.findEntity held.id = some held := findEntity_id hFound ▸ hFound
    split
    · rfl
    · dsimp only
      generalize hMarked : markNonCurrent .revalidationRequired
        (reasonOr reason (txt "entity-invalidated")) none none true registry.indexes held =
          marked
      have hId : marked.2.id = held.id := by
        rw [← hMarked]
        rfl
      generalize hFlag : (if held.invalidated = true then marked.2 else
        { marked.2 with
          invalidated := true
          invalidationReason := reasonOr reason (txt "entity-invalidated") }) = flagged
      have hFlagged : flagged.id = held.id := by
        rw [← hFlag]
        split <;> exact hId
      have hWritten : ∀ base later, later.id = flagged.id → base.outline = registry.outline →
          (Registry.setEntity base later).outline = registry.outline := by
        intro base later hLater hBase
        exact outline_setEntity (hLater ▸ hFlagged ▸ hHeld) hBase
      split
      · split
        · exact hWritten _ _ rfl rfl
        · exact hWritten _ _ rfl rfl
      · exact hWritten _ _ rfl rfl

theorem invalidateSource_outline (source : SourceId) (reason : ReasonToken) :
    (invalidateSource registry source reason).1.outline = registry.outline := by
  unfold invalidateSource
  split
  · rfl
  · dsimp only
    have hVisited := @outline_visitEntities registry _
      (fun indexes entity => invalidateSourceIn_id registry.registryGeneration source
        (reasonOr reason (txt "source-invalidated")) indexes entity)
    split
    · rw [outline_advanceRegistry, hVisited]
    · exact hVisited

/-! ### Fences -/

/-- Removing the element that is found removes its key, when keys are distinct. -/
theorem map_eraseP {α κ : Type} [DecidableEq κ] {key : α → κ} {p : α → Bool} {xs : List α}
    {x : α} (hNodup : (xs.map key).Nodup) (hFind : xs.find? p = some x) :
    (xs.eraseP p).map key = (xs.map key).filter (· ≠ key x) := by
  induction xs with
  | nil => cases hFind
  | cons y ys ih =>
      rw [List.map_cons] at hNodup ⊢
      obtain ⟨hNew, hRest⟩ := List.nodup_cons.1 hNodup
      rw [List.find?_cons] at hFind
      rw [List.eraseP_cons]
      cases hHere : p y with
      | true =>
          rw [hHere] at hFind
          cases hFind
          have hOthers : ∀ k ∈ ys.map key, decide (k ≠ key x) = true := by
            intro k hMem
            rw [decide_eq_true_eq]
            rintro rfl
            exact hNew hMem
          rw [List.filter_cons, if_neg (by simp), List.filter_eq_self.2 hOthers]
          rfl
      | false =>
          rw [hHere] at hFind
          have hMem : key x ∈ ys.map key := List.mem_map_of_mem (List.mem_of_find?_eq_some hFind)
          have hKept : decide (key y ≠ key x) = true := by
            rw [decide_eq_true_eq]
            intro hSame
            exact hNew (hSame ▸ hMem)
          rw [List.filter_cons, if_pos hKept, ← ih hRest hFind]
          rfl

/-- One more fence, for a boot that has none. -/
theorem Outline.Bounded.fence {outline : Outline} {boot : WorkerBootId}
    (h : outline.Bounded options) (hNew : boot ∉ outline.fencedBoots)
    (hRoom : outline.fences.length < options.maxFencedWorkerBoots) :
    Outline.Bounded options { outline with
      fencedBoots := outline.fencedBoots ++ [boot]
      fences := outline.fences ++ [boot] } := by
  refine { h with fencedBoots := ?_, distinct := ?_, fences := ?_ }
  · rw [h.fences] at hRoom
    rw [List.length_append, List.length_singleton]
    omega
  · rw [List.nodup_append]
    refine ⟨h.distinct, List.nodup_singleton _, ?_⟩
    rintro held hHeld added hAdded rfl
    exact hNew (List.mem_singleton.1 hAdded ▸ hHeld)
  · exact congrArg (· ++ [boot]) h.fences

/-- Registrations may be dropped. -/
theorem Outline.Bounded.drop {outline : Outline} (h : outline.Bounded options)
    {publishers : List (PublisherKey × PublisherRuntime)}
    (hFewer : publishers.Sublist outline.publishers) :
    Outline.Bounded options { outline with publishers } :=
  { h with
    publishers := Nat.le_trans hFewer.length_le h.publishers
    replay := fun held hMem => h.replay held (hFewer.subset hMem) }

theorem evictFence_outline {fence : FenceRecord} (hFound : evictableFence registry = some fence)
    (h : registry.outline.Bounded options) :
    (evictFence registry fence).outline.Bounded options ∧
      (evictFence registry fence).fences.length + 1 = registry.fences.length := by
  have hBoots : registry.fences.map FenceRecord.workerBoot = registry.fencedBoots := h.fences
  have hErased : (evictFence registry fence).fences.map FenceRecord.workerBoot =
      registry.fencedBoots.filter (· ≠ fence.workerBoot) := by
    rw [← hBoots]
    exact map_eraseP (hBoots ▸ h.distinct) hFound
  constructor
  · refine { h with fencedBoots := ?_, distinct := ?_, fences := hErased }
    · exact Nat.le_trans (List.length_filter_le ..) h.fencedBoots
    · exact h.distinct.filter _
  · have hMem : fence ∈ registry.fences := List.mem_of_find?_eq_some hFound
    have hEvictable : (!ownsCurrentEvidence registry fence.workerBoot) = true :=
      @List.find?_some _ (fun held : FenceRecord => !ownsCurrentEvidence registry held.workerBoot)
        _ _ hFound
    have hPos := List.length_pos_of_mem hMem
    have hLength : (evictFence registry fence).fences.length = registry.fences.length - 1 :=
      List.length_eraseP_of_mem hMem hEvictable
    omega

theorem insertFence_outline {workerBoot : WorkerBootId} {reason : ReasonToken}
    (h : registry.outline.Bounded options) (hNew : workerBoot ∉ registry.fencedBoots)
    (hRoom : registry.fences.length < options.maxFencedWorkerBoots) :
    (insertFence registry workerBoot reason).1.outline.Bounded options := by
  unfold insertFence
  dsimp only
  rw [outline_advanceRegistry, outline_visitEntities fun _ _ => rfl]
  have hFenced := h.fence hNew (by
    show (registry.fences.map _).length < _
    rwa [List.length_map])
  have hDropped : ∀ publisher : PublisherId, Outline.Bounded options
      { registry.outline with
        publishers := registry.publishers.filter fun held =>
          held.1 ≠ PublisherKey.mk publisher workerBoot
        fencedBoots := registry.fencedBoots ++ [workerBoot]
        fences := registry.outline.fences ++ [workerBoot] } :=
    fun publisher => hFenced.drop List.filter_sublist
  unfold Registry.outline at hDropped ⊢
  dsimp only at hDropped ⊢
  rw [List.map_append]
  exact hDropped _

theorem fenceWorkerBoot_outline (workerBoot : WorkerBootId) (reason : ReasonToken)
    (h : registry.outline.Bounded options) :
    (fenceWorkerBoot registry workerBoot reason).1.outline.Bounded options := by
  have hOptions : registry.options = options := h.options_eq
  have hLength : registry.fences.length ≤ options.maxFencedWorkerBoots := by
    have hBoots := h.fencedBoots
    rw [← h.fences] at hBoots
    rwa [show registry.outline.fences.length = registry.fences.length from List.length_map _]
      at hBoots
  unfold fenceWorkerBoot
  split
  · exact h
  · split
    · exact h
    · rename_i hNew
      split
      · split
        · exact h
        · rename_i fence hFound
          obtain ⟨hEvicted, hShorter⟩ := evictFence_outline hFound h
          refine insertFence_outline hEvicted (fun hMem => hNew ?_) (by omega)
          exact List.mem_of_mem_filter hMem
      · rename_i hRoom
        rw [hOptions] at hRoom
        exact insertFence_outline h hNew (by omega)

theorem fenceBoots_outline (reason : ReasonToken) (boots : List WorkerBootId)
    (h : registry.outline.Bounded options) :
    (fenceBoots reason registry boots).outline.Bounded options := by
  induction boots generalizing registry with
  | nil => exact h
  | cons boot boots ih =>
      unfold fenceBoots
      split
      · exact ih h
      · rename_i hNew
        split
        · exact h
        · rename_i hRoom
          have hOptions : registry.options = options := h.options_eq
          rw [hOptions] at hRoom
          refine ih ?_
          have hFenced := h.fence hNew (by
            show (registry.fences.map _).length < _
            rw [List.length_map]
            omega)
          unfold Registry.outline at hFenced ⊢
          dsimp only at hFenced ⊢
          rw [List.map_append]
          exact hFenced

theorem advanceCoordinatorEpoch_outline (reason : ReasonToken)
    (h : registry.outline.Bounded options) :
    (advanceCoordinatorEpoch registry reason).1.outline.Bounded options := by
  unfold advanceCoordinatorEpoch
  split
  · exact h
  · dsimp only
    rw [outline_advanceRegistry, outline_visitEntities fun _ _ => rfl]
    exact fenceBoots_outline _ _ (h.drop (List.nil_sublist _))

/-! ### Registrations -/

theorem registerPublisher_outline (publisher : PublisherId) (scope : AuthorityScopeId)
    (workerBoot : WorkerBootId) (h : registry.outline.Bounded options) :
    (registerPublisher registry publisher scope workerBoot).1.outline.Bounded options := by
  have hOptions : registry.options = options := h.options_eq
  unfold registerPublisher
  split
  · exact h
  · split
    · exact h
    · split
      · exact h
      · dsimp only
        split
        · exact h
        · split
          · exact h
          · rename_i hRoom
            refine { h with publishers := ?_, replay := ?_ }
            · show (upsert Prod.fst _ registry.publishers).length ≤ _
              have hPublishers : registry.publishers.length ≤ options.maxPublishers :=
                h.publishers
              cases hHeld : lookup Prod.fst (PublisherKey.mk publisher workerBoot)
                  registry.publishers with
              | none =>
                  have hMissing : registry.findRuntime ⟨publisher, workerBoot⟩ = none := by
                    rw [Registry.findRuntime, hHeld]
                    rfl
                  rw [hMissing, hOptions] at hRoom
                  rw [upsert_of_missing hHeld, List.length_append, List.length_singleton]
                  simp only [true_and] at hRoom
                  omega
              | some held =>
                  rw [length_upsert_of_mem (lookup_isSome.1 (by rw [hHeld]; rfl))]
                  exact hPublishers
            · intro held hMem
              rcases mem_upsert hMem with rfl | hMem
              · exact Nat.zero_le _
              · exact h.replay held hMem

theorem retirePublisher_outline (publisher : PublisherId) (workerBoot : WorkerBootId)
    (h : registry.outline.Bounded options) :
    (retirePublisher registry publisher workerBoot).1.outline.Bounded options := by
  unfold retirePublisher
  dsimp only
  split
  · exact h
  · rename_i runtime hFound
    obtain ⟨held, hHeld, hRuntime⟩ := Option.map_eq_some_iff.1 hFound
    refine { h with publishers := ?_, replay := ?_ }
    · show (upsert Prod.fst _ registry.publishers).length ≤ _
      rw [length_upsert_of_mem (lookup_isSome.1 (by rw [hHeld]; rfl))]
      exact h.publishers
    · intro later hMem
      rcases mem_upsert hMem with rfl | hMem
      · show runtime.replay.length ≤ _
        rw [← hRuntime]
        exact h.replay held (lookup_mem hHeld)
      · exact h.replay later hMem

/-! ### One operation -/

/-- The bounds of the outline are kept by every operation but a load. -/
theorem outline_step (hPositive : 0 < options.maxReplayEntriesPerPublisher)
    {operation : Operation} (hNoLoad : NoLoad registry operation)
    (h : registry.outline.Bounded options) :
    (operation.apply registry).outline.Bounded options := by
  cases operation with
  | publish request => exact publish_outline hPositive h
  | publishBatch requests =>
      exact publishBatch_preserves (P := fun later => later.outline.Bounded options)
        (fun _ _ hBefore => publish_outline hPositive hBefore) h
  | fenceWorkerBoot workerBoot reason => exact fenceWorkerBoot_outline workerBoot reason h
  | advanceCoordinatorEpoch reason => exact advanceCoordinatorEpoch_outline reason h
  | invalidateEntity entity generation reason =>
      rw [Operation.apply, invalidateEntity_outline]
      exact h
  | invalidateSource source reason =>
      rw [Operation.apply, invalidateSource_outline]
      exact h
  | observeEntityGeneration entity generation reason =>
      exact observeEntityGeneration_outline entity generation reason h
  | registerPublisher publisher scope workerBoot =>
      exact registerPublisher_outline publisher scope workerBoot h
  | retirePublisher publisher workerBoot => exact retirePublisher_outline publisher workerBoot h
  | declareAuthority grant =>
      rw [Operation.apply, declareAuthority]
      split
      · exact h
      · split
        · exact h
        · split <;> exact h
  | registerVendorDescriptor descriptor =>
      rw [Operation.apply, registerVendorDescriptor]
      split <;> exact h
  | load config file => cases hNoLoad
  | rehash publishers =>
      rw [Operation.apply]
      split
      · rename_i hPerm
        refine { h with publishers := ?_, replay := ?_ }
        · exact hPerm.length_eq ▸ h.publishers
        · exact fun held hMem => h.replay held (hPerm.mem_iff.1 hMem)
      · exact h

theorem init_outline (options : Options) :
    (Registry.init options).outline.Bounded (Registry.init options).options := by
  unfold Registry.init
  split
  · exact ⟨rfl, Nat.zero_le _, Nat.zero_le _, fun _ hMem => (by cases hMem), Nat.zero_le _,
      List.nodup_nil, rfl⟩
  · exact ⟨rfl, Nat.zero_le _, Nat.zero_le _, fun _ hMem => (by cases hMem), Nat.zero_le _,
      List.nodup_nil, rfl⟩

end Outline

end FabricCapability.Ports
