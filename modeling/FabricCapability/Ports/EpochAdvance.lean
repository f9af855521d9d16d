import FabricCapability.Ports.AtMostOnce
import FabricCapability.Ports.EntryRules
import Mathlib.Data.Finset.Card

/-!
# Advancing the coordinator epoch

What an advance of the epoch leaves of the registrations, of their boots and of the
evidence.  Registrations and process-bound evidence lose their standing whatever the state
was.  The boots of the dropped publishers are fenced one by one until the fences are at
capacity.

## Main results

* `fenceBoots_all_iff`: the loop fences all boots exactly when the new ones fit.
* `epoch_advance_complete_iff`: when an advance is complete.
-/

namespace FabricCapability.Ports

open FabricCapability.Verified.KeyedList

/-! ## Fencing the dropped boots -/

/-- The boots of a list that are not fenced. -/
def newBoots (fenced boots : List WorkerBootId) : Finset WorkerBootId :=
  boots.toFinset \ fenced.toFinset

theorem newBoots_fenced {fenced boots : List WorkerBootId} {boot : WorkerBootId}
    (h : boot ∈ fenced) : newBoots fenced (boot :: boots) = newBoots fenced boots := by
  ext other
  simp only [newBoots, Finset.mem_sdiff, List.mem_toFinset, List.mem_cons]
  constructor
  · rintro ⟨rfl | hMem, hNew⟩
    · exact absurd h hNew
    · exact ⟨hMem, hNew⟩
  · rintro ⟨hMem, hNew⟩
    exact ⟨.inr hMem, hNew⟩

/-- Once the first boot is fenced, there is one less. -/
theorem card_newBoots {fenced boots : List WorkerBootId} {boot : WorkerBootId}
    (h : boot ∉ fenced) :
    (newBoots fenced (boot :: boots)).card = (newBoots (fenced ++ [boot]) boots).card + 1 := by
  have hInsert : newBoots fenced (boot :: boots) =
      insert boot (newBoots (fenced ++ [boot]) boots) := by
    ext other
    simp only [newBoots, Finset.mem_sdiff, Finset.mem_insert, List.mem_toFinset, List.mem_cons,
      List.mem_append, List.not_mem_nil, or_false, not_or]
    by_cases hEq : other = boot
    · simp [hEq, h]
    · simp [hEq]
  rw [hInsert, Finset.card_insert_of_notMem]
  simp [newBoots]

/-- The loop fences all boots exactly when there is room for the new ones. -/
theorem fenceBoots_all_iff (reason : ReasonToken) (boots : List WorkerBootId)
    (registry : Registry) :
    (∀ boot ∈ boots, boot ∈ (fenceBoots reason registry boots).fencedBoots) ↔
      newBoots registry.fencedBoots boots = ∅ ∨
        registry.fences.length + (newBoots registry.fencedBoots boots).card ≤
          registry.options.maxFencedWorkerBoots := by
  induction boots generalizing registry with
  | nil => simp [newBoots]
  | cons boot boots ih =>
      rw [List.forall_mem_cons]
      unfold fenceBoots
      by_cases hFenced : boot ∈ registry.fencedBoots
      · rw [if_pos hFenced, newBoots_fenced hFenced, ← ih]
        exact and_iff_right (fenceBoots_fencedBoots _ _ hFenced)
      · have hCard := @card_newBoots registry.fencedBoots boots boot hFenced
        have hSome : newBoots registry.fencedBoots (boot :: boots) ≠ ∅ := by
          intro hEmpty
          rw [hEmpty, Finset.card_empty] at hCard
          omega
        rw [if_neg hFenced, or_iff_right hSome, hCard]
        by_cases hFull : registry.fences.length ≥ registry.options.maxFencedWorkerBoots
        · rw [if_pos hFull]
          refine iff_of_false (fun hAll => hFenced hAll.1) (by omega)
        · rw [if_neg hFull]
          dsimp only
          generalize hNext : ({ registry with
            fencedBoots := registry.fencedBoots ++ [boot]
            fences := registry.fences ++
              [{ workerBoot := boot, reason, fencedAt := registry.registryGeneration }] } :
              Registry) = next
          have hOptions : next.options = registry.options := by rw [← hNext]
          have hBoots : next.fencedBoots = registry.fencedBoots ++ [boot] := by rw [← hNext]
          have hFences : next.fences.length = registry.fences.length + 1 := by
            rw [← hNext, List.length_append, List.length_singleton]
          have hHere : boot ∈ (fenceBoots reason next boots).fencedBoots :=
            fenceBoots_fencedBoots _ _ (hBoots ▸ List.mem_append_right _ (List.mem_singleton_self _))
          rw [and_iff_right hHere, ih next, hOptions, hBoots, hFences, ← Finset.card_eq_zero]
          omega

/-! ## Demoting the evidence -/

/-- The durable records of an entity, capability by capability. -/
def EntityState.durableEvidence (entity : EntityState) :
    EntityId × List (CapabilityId × List EvidenceRecord) :=
  (entity.id, entity.capabilities.map fun entry =>
    (entry.id, entry.evidence.filter fun record => record.durability == .durable))

/-- No process-bound record of the entity is current. -/
def EntityState.Demoted (entity : EntityState) : Prop :=
  ∀ entry ∈ entity.capabilities, ∀ record ∈ entry.evidence,
    record.durability = .processBound → isCurrent record.currentness = false

section Relabel

variable {matching : EvidenceRecord → Bool} {currentness : EvidenceCurrentness}
  {reason : ReasonToken}

/-- Records that do not match keep their place and their content. -/
theorem filter_relabel {p : EvidenceRecord → Bool} {evidence : List EvidenceRecord}
    (hOther : ∀ record, p record = true → matching record = false)
    (hKeeps : ∀ record, p { record with currentness, reason } = p record) :
    (relabel matching currentness reason evidence).filter p = evidence.filter p := by
  induction evidence with
  | nil => rfl
  | cons record evidence ih =>
      rw [relabel, List.map_cons, ← relabel, List.filter_cons, List.filter_cons, ih]
      cases hMatch : matching record with
      | true =>
          have hSkipped : p record = false := by
            cases hp : p record with
            | false => rfl
            | true => rw [hOther record hp] at hMatch; cases hMatch
          simp [hKeeps, hSkipped]
      | false => simp

end Relabel

/-- What the advance of the epoch demotes. -/
theorem demotes_all (record : EvidenceRecord) :
    demotes none none false record = (record.durability != .durable && isCurrent record.currentness) := by
  simp [demotes]

section Demote

variable (registryGeneration : RegistryGeneration) (reason : ReasonToken) (indexes : Indexes)
  (entity : EntityState)

theorem demoteAndRefresh_durable :
    (demoteAndRefresh registryGeneration .revalidationRequired reason none indexes
      entity).2.durableEvidence = entity.durableEvidence := by
  show (entity.id, List.map _ (mapAccum (relabelEntry entity.id entity.boundGeneration
    (demotes none none false) .revalidationRequired reason) indexes entity.capabilities).2) = _
  unfold EntityState.durableEvidence
  congr 1
  refine map_mapAccum _ _ fun indexes entry => ?_
  rw [relabelEntry_id, relabelEntry_evidence, filter_relabel]
  · intro record hDurable
    rw [demotes_all]
    simp_all
  · intro record
    rfl

theorem demoteAndRefresh_demoted :
    (demoteAndRefresh registryGeneration .revalidationRequired reason none indexes
      entity).2.Demoted := by
  intro entry hEntry record hRecord hBound
  obtain ⟨indexes, held, -, rfl⟩ := mem_mapAccum hEntry
  rw [relabelEntry_evidence] at hRecord
  obtain ⟨before, -, rfl⟩ := List.mem_map.1 hRecord
  by_cases hMatch : demotes none none false before = true
  · rw [if_pos hMatch]
    rfl
  · rw [if_neg hMatch] at hBound ⊢
    rw [demotes_all] at hMatch
    simpa [hBound] using hMatch

end Demote

/-! ## The advance -/

/-- The boots of the registered publishers. -/
def Registry.boots (registry : Registry) : List WorkerBootId :=
  registry.publishers.map fun held => held.1.boot

/-- The advance has done all that it is for: the registered boots are fenced, no
registration remains, no process-bound record is current, and the durable records are as
they were. -/
structure EpochComplete (before after : Registry) : Prop where
  fenced : ∀ boot ∈ before.boots, boot ∈ after.fencedBoots
  registrations : after.publishers = []
  demoted : ∀ entity ∈ after.entities, entity.Demoted
  durable : after.entities.map EntityState.durableEvidence =
    before.entities.map EntityState.durableEvidence

/-- The registry after an advance that succeeds. -/
theorem advanceCoordinatorEpoch_ok {registry after : Registry} {reason : ReasonToken}
    {epoch : CoordinatorEpoch} (h : advanceCoordinatorEpoch registry reason = (after, .ok epoch)) :
    ∃ next why registryGeneration,
      let fenced := fenceBoots why { registry with epoch := next, publishers := [] } registry.boots
      after.fencedBoots = fenced.fencedBoots ∧ after.publishers = [] ∧
        after.entities = (mapAccum
          (demoteAndRefresh registryGeneration .revalidationRequired why none) fenced.indexes
          registry.entities).2 := by
  unfold advanceCoordinatorEpoch at h
  split at h
  · cases h
  · rename_i next hNext
    dsimp only at h
    have hAfter := congrArg Prod.fst h
    dsimp only at hAfter
    generalize reasonOr reason (txt "coordinator-epoch-advanced") = why at hAfter
    refine ⟨next, why, (fenceBoots why { registry with epoch := next, publishers := [] }
      registry.boots).registryGeneration, ?_, ?_, ?_⟩
    · rw [← hAfter, (advanceRegistry_control ..).fencedBoots, (visitEntities_control ..).fencedBoots]
      rfl
    · rw [← hAfter, advanceRegistry_publishers, visitEntities_publishers, fenceBoots_publishers]
    · rw [← hAfter, advanceRegistry_entities, Registry.visitEntities, fenceBoots_entities]
      rfl

/-- An advance is complete exactly when the new fences fit. -/
theorem epoch_advance_complete_iff {registry after : Registry} {reason : ReasonToken}
    {epoch : CoordinatorEpoch} (h : advanceCoordinatorEpoch registry reason = (after, .ok epoch)) :
    EpochComplete registry after ↔
      newBoots registry.fencedBoots registry.boots = ∅ ∨
        registry.fences.length + (newBoots registry.fencedBoots registry.boots).card ≤
          registry.options.maxFencedWorkerBoots := by
  obtain ⟨next, why, registryGeneration, hFenced, hPublishers, hEntities⟩ :=
    advanceCoordinatorEpoch_ok h
  have hAll := fenceBoots_all_iff why registry.boots
    { registry with epoch := next, publishers := [] }
  rw [← hFenced] at hAll
  rw [← hAll]
  constructor
  · exact EpochComplete.fenced
  · intro hBoots
    refine ⟨hBoots, hPublishers, ?_, ?_⟩
    · intro entity hMem
      rw [hEntities] at hMem
      obtain ⟨indexes, held, -, rfl⟩ := mem_mapAccum hMem
      exact demoteAndRefresh_demoted registryGeneration why indexes held
    · rw [hEntities]
      exact map_mapAccum _ _ fun indexes entity => demoteAndRefresh_durable ..

/-! ### Two boots and one fence -/

namespace Sample

/-- One publisher under two boots. -/
def twoBoots : List Operation :=
  [.declareAuthority grant, .registerPublisher publisher scope bootOne,
   .registerPublisher publisher scope bootTwo]

end Sample

theorem advance_with_room_is_complete :
    ∃ after epoch, advanceCoordinatorEpoch (afterRun {} Sample.twoBoots) .unset = (after, .ok epoch) ∧
      EpochComplete (afterRun {} Sample.twoBoots) after := by
  have hOk : (advanceCoordinatorEpoch (afterRun {} Sample.twoBoots) .unset).2.isOk = true := by
    decide +kernel
  cases hAdvance : advanceCoordinatorEpoch (afterRun {} Sample.twoBoots) .unset with
  | mk after outcome =>
      rw [hAdvance] at hOk
      cases outcome with
      | error e => cases hOk
      | ok epoch =>
          refine ⟨after, epoch, rfl, (epoch_advance_complete_iff hAdvance).2 (.inr ?_)⟩
          decide +kernel

/-- With one fence at most, the second boot is dropped and not fenced. -/
theorem second_boot_stays_unfenced :
    ¬∀ options operations reason after epoch,
      advanceCoordinatorEpoch (afterRun options operations) reason = (after, .ok epoch) →
      EpochComplete (afterRun options operations) after := by
  intro h
  have hOk : (advanceCoordinatorEpoch (afterRun { maxFencedWorkerBoots := 1 } Sample.twoBoots)
      .unset).2.isOk = true ∧
      Sample.bootTwo ∉ (advanceCoordinatorEpoch
        (afterRun { maxFencedWorkerBoots := 1 } Sample.twoBoots) .unset).1.fencedBoots ∧
      Sample.bootTwo ∈ (afterRun { maxFencedWorkerBoots := 1 } Sample.twoBoots).boots := by
    decide +kernel
  obtain ⟨hOk, hUnfenced, hBoot⟩ := hOk
  cases hAdvance : advanceCoordinatorEpoch
      (afterRun { maxFencedWorkerBoots := 1 } Sample.twoBoots) .unset with
  | mk after outcome =>
      rw [hAdvance] at hOk hUnfenced
      cases outcome with
      | error e => cases hOk
      | ok epoch =>
          have hComplete := h { maxFencedWorkerBoots := 1 } Sample.twoBoots .unset after epoch
            hAdvance
          exact hUnfenced (hComplete.fenced Sample.bootTwo hBoot)

end FabricCapability.Ports
