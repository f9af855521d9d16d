import FabricCapability.Ports.EpochAdvance
import FabricCapability.Ports.Retirement

/-!
# What stands behind live evidence

A current record that is bound to a process is worth what the process is: it was published
in the coordinator epoch that still runs, by a boot that is not fenced, for the generation
that the entity still has.  The three move independently, and each operation that moves one
demotes or drops the records that leaned on it.

## Main results

* `run_backed`: epoch and boot, in every run, whatever the loaded files hold.
* `live_evidence_is_backed`: all three, where registries load each other's files.
-/

namespace FabricCapability.Ports

open FabricCapability.Verified.KeyedList
open FabricCapability.Verified.Restores
open FabricCapability.Verified.Runs

/-! ## Live records -/

/-- The record is current and bound to a process. -/
def EvidenceRecord.live (record : EvidenceRecord) : Bool :=
  isCurrent record.currentness && record.durability == .processBound

/-- The live records of an entry were published in the epoch by boots that are not fenced. -/
def Backed (epoch : CoordinatorEpoch) (fenced : List WorkerBootId) (entry : CapabilityEntry) :
    Prop :=
  ∀ record ∈ entry.evidence, record.live = true →
    record.epoch = epoch ∧ record.workerBoot ∉ fenced

def EntityState.Backed (epoch : CoordinatorEpoch) (fenced : List WorkerBootId)
    (entity : EntityState) : Prop :=
  AllEntries (Ports.Backed epoch fenced) entity

def Registry.Backed (registry : Registry) : Prop :=
  ∀ entity ∈ registry.entities, entity.Backed registry.epoch registry.fencedBoots

section Records

variable {epoch : CoordinatorEpoch} {fenced : List WorkerBootId}

/-- A relabelled record is live only if it was live before, provided that only current
records are relabelled or the label is none of a current record. -/
theorem Backed.relabel {entry : CapabilityEntry} (h : Backed epoch fenced entry)
    {matching : EvidenceRecord → Bool} {currentness : EvidenceCurrentness}
    (hMatching : ∀ record, matching record = true → isCurrent currentness = true →
      isCurrent record.currentness = true) (reason : ReasonToken) :
    ∀ record ∈ Ports.relabel matching currentness reason entry.evidence, record.live = true →
      record.epoch = epoch ∧ record.workerBoot ∉ fenced := by
  intro record hMem hLive
  obtain ⟨held, hHeld, rfl⟩ := List.mem_map.1 hMem
  by_cases hMatch : matching held = true
  · rw [if_pos hMatch] at hLive ⊢
    simp only [EvidenceRecord.live, Bool.and_eq_true] at hLive
    refine h held hHeld ?_
    rw [EvidenceRecord.live, hMatching held hMatch hLive.1, hLive.2]
    rfl
  · rw [if_neg hMatch] at hLive ⊢
    exact h held hHeld hLive

theorem superseded_not_current : ¬ isCurrent .superseded = true := by decide

/-- What stage 10 does to an entry, under the epoch and the fences of the registry. -/
theorem EntryChange.backed {registry : Registry} {request : PublicationRequest} {cell : Cell}
    {step : ApplyStep} {ok : Bool} {entry later : CapabilityEntry}
    (hChange : EntryChange registry request cell step ok entry later)
    (hEpoch : registry.epoch = epoch) (hBoot : request.authority.workerBoot ∉ fenced)
    (h : Backed epoch fenced entry) : Backed epoch fenced later := by
  have hSuperseded : ∀ (matching : EvidenceRecord → Bool) (reason : ReasonToken),
      ∀ record ∈ relabel matching .superseded reason entry.evidence, record.live = true →
        record.epoch = epoch ∧ record.workerBoot ∉ fenced :=
    fun matching reason => h.relabel (fun _ _ hCurrent => absurd hCurrent superseded_not_current)
      reason
  have hRetained : ∀ record ∈ retainedEvidence registry request entry, record.live = true →
      record.epoch = epoch ∧ record.workerBoot ∉ fenced := fun record hMem =>
    hSuperseded _ _ record ((trimEvidence_sublist _ _).subset hMem)
  have hAppended : ∀ claim coverage, ∀ record ∈ retainedEvidence registry request entry ++
      [appendedRecord registry request cell claim coverage entry], record.live = true →
        record.epoch = epoch ∧ record.workerBoot ∉ fenced := by
    intro claim coverage record hMem hLive
    rcases List.mem_append.1 hMem with hKept | hNew
    · exact hRetained record hKept hLive
    · rw [List.mem_singleton.1 hNew]
      exact ⟨hEpoch, hBoot⟩
  cases hChange with
  | superseded => exact hSuperseded _ _
  | withdrawn => exact hSuperseded _ _
  | unwithdrawn => exact hSuperseded _ _
  | trimmed => exact hRetained
  | unapplied => exact hAppended _ _
  | applied => exact hAppended _ _

end Records

/-! ## The rules -/

section Rules

variable (epoch : CoordinatorEpoch) (fenced : List WorkerBootId)

theorem backed_published :
    PublishRule fun a b => a.Backed epoch fenced → b.Backed epoch fenced where
  refl _ := id
  trans _ _ _ hab hbc := hbc ∘ hab
  retired _ _ _ _ _ _ _ _ := fun _ hMem => by cases hMem
  exhausted _ _ _ := id
  committed _ _ entity next request hAdvance hAll := by
    rw [EntityState.Backed, AllEntries, committedEntity_capabilities,
      (advanceGenerations_ok hAdvance).2.1]
    exact hAll

theorem backed_demoted :
    DemoteRule fun a b => a.Backed epoch fenced → b.Backed epoch fenced where
  refl _ := id
  trans _ _ _ hab hbc := hbc ∘ hab
  demoted currentness reason boot source includeDurable indexes entity h := by
    refine EntriesGrow.invariant (relabelEntity_grows (fun _ hEntry => hEntry) ?_)
      (fun _ _ hMem => by cases hMem) h
    intro entry _ hEntry
    refine Backed.relabel hEntry (fun record hMatch _ => ?_) reason
    unfold demotes at hMatch
    rw [Bool.and_eq_true] at hMatch
    exact hMatch.2
  flagged _ _ := id
  refreshed _ _ _ := id

theorem applies_backed (registry : Registry) (request : PublicationRequest)
    (hEpoch : registry.epoch = epoch) (hFenced : registry.fencedBoots = fenced) :
    AppliesWithin (fun a b => a.Backed epoch fenced → b.Backed epoch fenced) registry
      request := by
  intro runtime grant bound entity hValid hBind _ hAll
  have hControl := bindEntity_control registry request
  rw [hBind] at hControl
  have hUnfenced := (validateRequest_ok hValid).unfenced
  rw [hFenced] at hUnfenced
  have hGrows : EntriesGrow (fun entry later =>
      Ports.Backed epoch fenced entry → Ports.Backed epoch fenced later)
      (bound.cell entity).entity (runSteps bound request (bound.cell entity)
        (applySteps bound.schema grant request)).1.entity :=
    runSteps_grows (fun _ => id) (fun _ _ _ hab hbc => hbc ∘ hab)
      fun later _ step _ ok entry entry' hChange =>
        hChange.backed (hControl.epoch.trans hEpoch) hUnfenced
  exact hGrows.invariant (fun _ _ hMem => by cases hMem) hAll

end Rules

/-! ## Operations that leave the epoch and the fences alone -/

/-- Every operation but a fence, an advance of the epoch and a load. -/
def Operation.standing : Operation → Bool
  | fenceWorkerBoot .. => false
  | advanceCoordinatorEpoch .. => false
  | load .. => false
  | _ => true

theorem publishBatch_control (registry : Registry) (requests : List PublicationRequest) :
    SameControl registry (publishBatch registry requests).1 :=
  publishBatch_preserves (P := SameControl registry)
    (fun attempt _ h => h.trans (publish_control attempt.before attempt.request))
    (SameControl.refl registry)

theorem attempts_control {registry : Registry} {operation : Operation} :
    ∀ attempt ∈ attempts registry operation, SameControl registry attempt.before :=
  attempts_invariant (P := SameControl registry)
    (fun later request h => h.trans (publish_control later request)) (SameControl.refl registry)

theorem standing_step {registry : Registry} {operation : Operation}
    (h : operation.standing = true) :
    (operation.apply registry).epoch = registry.epoch ∧
      (operation.apply registry).fencedBoots = registry.fencedBoots := by
  cases operation with
  | publish request =>
      have hControl := publish_control registry request
      exact ⟨hControl.epoch, hControl.fencedBoots⟩
  | publishBatch requests =>
      have hControl := publishBatch_control registry requests
      exact ⟨hControl.epoch, hControl.fencedBoots⟩
  | observeEntityGeneration entity generation reason =>
      have hControl := observeEntityGeneration_control registry entity generation reason
      exact ⟨hControl.epoch, hControl.fencedBoots⟩
  | invalidateEntity entity generation reason =>
      have hControl := invalidateEntity_control registry entity generation reason
      exact ⟨hControl.epoch, hControl.fencedBoots⟩
  | invalidateSource source reason =>
      have hControl := invalidateSource_control registry source reason
      exact ⟨hControl.epoch, hControl.fencedBoots⟩
  | registerPublisher publisher scope workerBoot =>
      refine ⟨?_, registerPublisher_fencedBoots ..⟩
      rw [Operation.apply]
      unfold registerPublisher
      split
      · rfl
      · split
        · rfl
        · split
          · rfl
          · dsimp only
            split
            · rfl
            · split <;> rfl
  | retirePublisher publisher workerBoot =>
      refine ⟨?_, retirePublisher_fencedBoots ..⟩
      rw [Operation.apply]
      unfold retirePublisher
      dsimp only
      split <;> rfl
  | declareAuthority grant =>
      refine ⟨?_, declareAuthority_fencedBoots ..⟩
      rw [Operation.apply]
      unfold declareAuthority
      split
      · rfl
      · split
        · rfl
        · split <;> rfl
  | registerVendorDescriptor descriptor =>
      refine ⟨?_, registerVendorDescriptor_fencedBoots ..⟩
      rw [Operation.apply]
      unfold registerVendorDescriptor
      split <;> rfl
  | rehash publishers =>
      rw [Operation.apply]
      split <;> exact ⟨rfl, rfl⟩
  | _ => cases h

theorem newEntity_backed (epoch : CoordinatorEpoch) (fenced : List WorkerBootId)
    (registryGeneration : RegistryGeneration) (id : EntityId) (generation : EntityGeneration) :
    (newEntity registryGeneration id generation).Backed epoch fenced :=
  fun _ hMem => by cases hMem

theorem standing_backed {registry : Registry} {operation : Operation}
    (hStanding : operation.standing = true) (h : registry.Backed) :
    (operation.apply registry).Backed := by
  obtain ⟨hEpoch, hFenced⟩ := @standing_step registry operation hStanding
  unfold Registry.Backed
  rw [hEpoch, hFenced]
  have hNoLoad : NoLoad registry operation := by
    cases operation <;> first | rfl | cases hStanding
  have hFollows : Follows (fun a b => a.Backed registry.epoch registry.fencedBoots →
      b.Backed registry.epoch registry.fencedBoots) registry (operation.apply registry) := by
    cases hCalm : operation.refreshes with
    | true => exact demoteStep_follows (backed_demoted _ _) hCalm
    | false =>
        refine calmStep_follows (backed_published _ _) (fun _ _ _ _ => id)
          (fun attempt hMem => ?_) hNoLoad hCalm
        have hControl := attempts_control attempt hMem
        exact applies_backed _ _ _ _ hControl.epoch hControl.fencedBoots
  exact hFollows.invariant (fun registryGeneration id generation _ =>
    newEntity_backed _ _ registryGeneration id generation) h

/-! ## Fences -/

/-- A fence that changes anything is inserted, after room was made for it. -/
theorem fenceWorkerBoot_inserts (registry : Registry) (boot : WorkerBootId)
    (reason : ReasonToken) :
    (fenceWorkerBoot registry boot reason).1 = registry ∨
    boot ∉ registry.fencedBoots ∧ ∃ base : Registry, base.entities = registry.entities ∧
      base.publishers = registry.publishers ∧ base.epoch = registry.epoch ∧
      base.fencedBoots ⊆ registry.fencedBoots ∧
      fenceWorkerBoot registry boot reason = insertFence base boot reason := by
  unfold fenceWorkerBoot
  split
  · exact .inl rfl
  · split
    · exact .inl rfl
    · rename_i hNew
      split
      · split
        · exact .inl rfl
        · rename_i fence _
          exact .inr ⟨hNew, evictFence registry fence, rfl, rfl, rfl, List.filter_subset_self _,
            rfl⟩
      · exact .inr ⟨hNew, registry, rfl, rfl, rfl, List.Subset.refl _, rfl⟩

theorem insertFence_entities (registry : Registry) (boot : WorkerBootId) (reason : ReasonToken) :
    (insertFence registry boot reason).1.entities =
      (mapAccum (demoteAndRefresh registry.registryGeneration .fenced
        (reasonOr reason (txt "worker-boot-fenced")) (some boot)) registry.indexes
        registry.entities).2 := by
  unfold insertFence
  rw [advanceRegistry_entities]
  rfl

/-- What a fence demotes. -/
theorem demotes_fenced (boot : WorkerBootId) (record : EvidenceRecord) :
    demotes (some boot) none false record = (record.workerBoot == boot && record.live) := by
  unfold demotes EvidenceRecord.live
  have hBound : (record.durability != .durable) = (record.durability == .processBound) := by
    cases record.durability <;> rfl
  simp [hBound, Bool.and_assoc, Bool.and_comm (isCurrent record.currentness)]

theorem relabel_fenced (boot : WorkerBootId) (reason : ReasonToken)
    (evidence : List EvidenceRecord) :
    ∀ record ∈ relabel (demotes (some boot) none false) .fenced reason evidence,
      record.live = true → record.workerBoot ≠ boot := by
  intro record hMem hLive
  obtain ⟨held, -, rfl⟩ := List.mem_map.1 hMem
  by_cases hMatch : demotes (some boot) none false held = true
  · rw [if_pos hMatch] at hLive
    cases hLive
  · rw [if_neg hMatch] at hLive ⊢
    rw [demotes_fenced, hLive, Bool.and_true, beq_iff_eq] at hMatch
    exact hMatch

theorem fence_backed {registry : Registry} (boot : WorkerBootId) (reason : ReasonToken)
    (h : registry.Backed) : (fenceWorkerBoot registry boot reason).1.Backed := by
  rcases fenceWorkerBoot_inserts registry boot reason with
    hSame | ⟨-, base, hEntities, -, hEpoch, hFenced, hInsert⟩
  · rwa [hSame]
  · have hBase : ∀ entity ∈ base.entities, entity.Backed base.epoch base.fencedBoots := by
      intro entity hMem entry hEntry record hRecord hLive
      rw [hEntities] at hMem
      obtain ⟨hHere, hUnfenced⟩ := h entity hMem entry hEntry record hRecord hLive
      exact ⟨hHere.trans hEpoch.symm, fun hIn => hUnfenced (hFenced hIn)⟩
    rw [hInsert]
    intro entity hMem
    have hAfterEpoch : (insertFence base boot reason).1.epoch = base.epoch := by
      unfold insertFence
      rw [(advanceRegistry_control ..).epoch]
      rfl
    rw [hAfterEpoch, insertFence_fencedBoots]
    rw [insertFence_entities] at hMem
    obtain ⟨indexes, held, hHeld, rfl⟩ := mem_mapAccum hMem
    intro entry hEntry record hRecord hLive
    have hKept : EntityState.Backed base.epoch base.fencedBoots (markNonCurrent .fenced
        (reasonOr reason (txt "worker-boot-fenced")) (some boot) none false indexes held).2 :=
      (backed_demoted base.epoch base.fencedBoots).demoted _ _ _ _ _ _ _ (hBase held hHeld)
    obtain ⟨hHere, hUnfenced⟩ := hKept entry hEntry record hRecord hLive
    refine ⟨hHere, fun hIn => ?_⟩
    rcases List.mem_append.1 hIn with hOld | hNew
    · exact hUnfenced hOld
    · obtain ⟨indexes', before, -, rfl⟩ := mem_mapAccum hEntry
      rw [relabelEntry_evidence] at hRecord
      exact relabel_fenced boot _ _ record hRecord hLive (List.mem_singleton.1 hNew)

/-! ## Epochs and loads -/

/-- Where no process-bound record is current, nothing has to stand behind one. -/
theorem EntityState.Demoted.backed {entity : EntityState} (h : entity.Demoted)
    (epoch : CoordinatorEpoch) (fenced : List WorkerBootId) : entity.Backed epoch fenced := by
  intro entry hEntry record hRecord hLive
  rw [EvidenceRecord.live, Bool.and_eq_true, beq_iff_eq] at hLive
  rw [h entry hEntry record hRecord hLive.2] at hLive
  cases hLive.1

theorem advance_backed {registry : Registry} (reason : ReasonToken) (h : registry.Backed) :
    (advanceCoordinatorEpoch registry reason).1.Backed := by
  unfold advanceCoordinatorEpoch
  split
  · exact h
  · intro entity hMem
    rw [advanceRegistry_entities] at hMem
    obtain ⟨indexes, held, -, rfl⟩ := mem_mapAccum hMem
    exact EntityState.Demoted.backed (demoteAndRefresh_demoted _ _ indexes held) _ _

/-- A process-bound record is loaded as fenced or as one that waits for revalidation. -/
theorem loadedEntity_demoted (registryGeneration : RegistryGeneration) (loading : Loading)
    (stored : StoredEntity) : (loadEntity registryGeneration loading stored).2.Demoted := by
  intro entry hEntry record hMem hBound
  have hLoaded := loadEntity_heldRecords
    (f := fun held : HeldRecord => (held.record.durability, held.record.currentness))
    (fun _ _ => rfl) registryGeneration loading stored
  have hHeld : (record.durability, record.currentness) ∈
      (loadEntity registryGeneration loading stored).2.heldRecords.map
        fun held : HeldRecord => (held.record.durability, held.record.currentness) :=
    List.mem_map.2 ⟨⟨_, entry.id, record⟩,
      List.mem_flatMap.2 ⟨entry, hEntry, List.mem_map.2 ⟨record, hMem, rfl⟩⟩, rfl⟩
  obtain ⟨claim, -, hEq⟩ := List.mem_map.1 (hLoaded.mem_iff.1 hHeld)
  have hDurability : claim.durability = .processBound := (congrArg Prod.fst hEq).trans hBound
  have hCurrentness : loadedCurrentness claim = record.currentness := congrArg Prod.snd hEq
  rw [← hCurrentness]
  unfold loadedCurrentness
  rw [hDurability]
  split <;> rfl

theorem load_backed {registry : Registry} (config : PersistenceConfig) (file : Option Bytes)
    (h : registry.Backed) : (load registry config file).1.Backed := by
  unfold load
  split
  · exact h
  · intro entity hMem
    obtain ⟨loading, stored, -, rfl⟩ := mem_mapAccum hMem
    exact EntityState.Demoted.backed (loadedEntity_demoted _ loading stored) _ _

/-! ## Runs -/

theorem step_backed {registry : Registry} (operation : Operation) (h : registry.Backed) :
    (operation.apply registry).Backed := by
  cases hStanding : operation.standing with
  | true => exact standing_backed hStanding h
  | false =>
      cases operation with
      | fenceWorkerBoot boot reason => exact fence_backed boot reason h
      | advanceCoordinatorEpoch reason => exact advance_backed reason h
      | load config file => exact load_backed config file h
      | _ => cases hStanding

theorem init_backed (options : Options) : (Registry.init options).Backed := by
  intro entity hMem
  rw [init_entities] at hMem
  cases hMem

/-- In every run the live records are of the current epoch and of boots that are not fenced,
whatever the files that are loaded hold. -/
theorem run_backed (options : Options) (operations : List Operation) :
    (afterRun options operations).Backed :=
  run_invariant (fun _ operation _ h => step_backed operation h)
    (guarded_of_forall fun _ _ => trivial) (init_backed options)

theorem restored_backed {registry saved loaded : Registry} (h : Restores registry saved loaded)
    (hRegistry : registry.Backed) : loaded.Backed := by
  obtain ⟨config, file, report, -, rfl⟩ := h
  exact load_backed config (some file) hRegistry

/-- The evidence of the entities of a registry is of their generations. -/
def Registry.Generational (registry : Registry) : Prop :=
  ∀ entity ∈ registry.entities, entity.Generational

theorem step_generational {registry : Registry} {operation : Operation}
    (hNoLoad : NoLoad registry operation) (h : registry.Generational) :
    (operation.apply registry).Generational := by
  have hFollows : Follows (fun a b => a.Generational → b.Generational) registry
      (operation.apply registry) :=
    step_follows generational_rule (fun _ _ => applies_generational _ _) hNoLoad
  refine hFollows.invariant (fun registryGeneration id generation hNe => ?_) h
  exact ⟨rfl, hNe, fun _ hMem => (by cases hMem), List.pairwise_singleton _ _⟩

theorem restored_generational {registry saved loaded : Registry}
    (h : Restores registry saved loaded) (hRegistry : registry.Generational)
    (hSaved : saved.Generational) : loaded.Generational := by
  rcases restored_cases h with rfl | ⟨payload, hReread, rfl⟩
  · exact hRegistry
  · intro entity hMem
    obtain ⟨held, hHeld, loading, read, rfl, hRead⟩ := restored_entity hReread hMem
    exact loadedEntity_generational hRead (hSaved held hHeld) _ loading

/-- Where registries load nothing but each other's files, every current process-bound record
carries the epoch of the registry, a boot that is not fenced and the generation of its
entity. -/
theorem live_evidence_is_backed {past : List Transition} {registry : Registry}
    (h : Reached (deployment (fun _ => True) fun _ _ => True) past registry) :
    ∀ entity ∈ registry.entities, ∀ entry ∈ entity.capabilities, ∀ record ∈ entry.evidence,
      record.currentness = .current → record.durability = .processBound →
        record.epoch = registry.epoch ∧ record.workerBoot ∉ registry.fencedBoots ∧
          record.entityGeneration = entity.currentGeneration := by
  have hStands : registry.Backed ∧ registry.Generational := by
    refine reached_invariant (P := fun _ registry => registry.Backed ∧ registry.Generational)
      ?_ ?_ ?_ h
    · rintro _ ⟨options, -, rfl⟩
      refine ⟨init_backed options, fun entity hMem => ?_⟩
      rw [init_entities] at hMem
      cases hMem
    · rintro _ registry operation hGuard ⟨hBacked, hGenerational⟩
      exact ⟨step_backed operation hBacked, step_generational hGuard.1 hGenerational⟩
    · rintro _ _ registry saved loaded hRestores ⟨hBacked, hGenerational⟩ ⟨-, hSaved⟩
      exact ⟨restored_backed hRestores hBacked,
        restored_generational hRestores hGenerational hSaved⟩
  intro entity hEntity entry hEntry record hRecord hCurrent hBound
  have hLive : record.live = true := by
    rw [EvidenceRecord.live, hCurrent, hBound]
    rfl
  obtain ⟨hEpoch, hUnfenced⟩ := hStands.1 entity hEntity entry hEntry record hRecord hLive
  exact ⟨hEpoch, hUnfenced, (hStands.2 entity hEntity).stamped entry hEntry record hRecord⟩

/-! ### One live record -/

namespace Sample

/-- A process-bound claim is published. -/
def liveClaim : List Operation :=
  setup ++ [.publish (publication bootOne "attempt-1" 1 0 (claim .supported .processBound))]

end Sample

theorem published_claim_is_backed :
    (∃ entity ∈ (afterRun {} Sample.liveClaim).entities, ∃ entry ∈ entity.capabilities,
      ∃ record ∈ entry.evidence, record.live = true) ∧
    ∀ entity ∈ (afterRun {} Sample.liveClaim).entities, ∀ entry ∈ entity.capabilities,
      ∀ record ∈ entry.evidence, record.currentness = .current →
        record.durability = .processBound →
          record.epoch = (afterRun {} Sample.liveClaim).epoch ∧
            record.workerBoot ∉ (afterRun {} Sample.liveClaim).fencedBoots ∧
            record.entityGeneration = entity.currentGeneration :=
  ⟨by decide +kernel, live_evidence_is_backed
    (reached_of_operations trivial ⟨⟨rfl, trivial⟩, ⟨rfl, trivial⟩, ⟨rfl, trivial⟩, trivial⟩)⟩

end FabricCapability.Ports
