import FabricCapability.Ports.EntrySteps

/-!
# Evidence order

A record that a publication creates takes the evidence generation after the highest one
that its identity still has in the entry.  The history of an entry is bounded: a trim
erases the oldest retired records, and with them possibly the highest generation of an
identity that withdrew its claim.  The identity then starts again from the beginning.

So the generations of an identity increase as long as no trim erases its highest record.
The record that a claim appends is the highest of its identity, relabelling keeps the
generations, and the generation of an entry bounds those of its records, so that no
counter can be exhausted before that of the entry is.

## Main results

* `created_between`: what one publication creates lies above what was held.
* `evidence_generations_increase`: runs that erase no highest record.
* `trimmed_identity_starts_again`: a withdrawn identity whose record was trimmed.
-/

namespace FabricCapability.Ports

open FabricCapability.Verified.KeyedList
open FabricCapability.Verified.Runs

/-! ## The highest generation of an identity -/

def EvidenceRecord.OfIdentity (record : EvidenceRecord) (key : SourceKey) : Prop :=
  record.source = key.source ∧ record.workerBoot = key.boot

/-- The highest evidence generation of an identity, from a first guess on. -/
def highestFrom (key : SourceKey) (guess : EvidenceGeneration)
    (evidence : List EvidenceRecord) : EvidenceGeneration :=
  evidence.foldl (fun highest record =>
    if record.source = key.source ∧ record.workerBoot = key.boot ∧
        record.evidenceGeneration ≥ highest then record.evidenceGeneration
    else highest) guess

theorem nextEvidenceGeneration_eq (entry : CapabilityEntry) (key : SourceKey) :
    nextEvidenceGeneration entry key =
      (counterNext (highestFrom key 0 entry.evidence)).toOption.getD 0xFFFFFFFFFFFFFFFF := rfl

theorem highestFrom_spec (key : SourceKey) (evidence : List EvidenceRecord)
    (guess : EvidenceGeneration) :
    guess ≤ highestFrom key guess evidence ∧
    (∀ record ∈ evidence, record.OfIdentity key →
      record.evidenceGeneration ≤ highestFrom key guess evidence) ∧
    (highestFrom key guess evidence = guess ∨
      ∃ record ∈ evidence, record.OfIdentity key ∧
        highestFrom key guess evidence = record.evidenceGeneration) := by
  induction evidence generalizing guess with
  | nil => exact ⟨UInt64.le_refl _, by simp, .inl rfl⟩
  | cons head evidence ih =>
      rw [highestFrom, List.foldl_cons, ← highestFrom]
      split
      · rename_i hTaken
        obtain ⟨hGuess, hAll, hAttained⟩ := ih head.evidenceGeneration
        refine ⟨UInt64.le_trans hTaken.2.2 hGuess, ?_, ?_⟩
        · intro record hMem hIdentity
          rcases List.mem_cons.1 hMem with rfl | hMem
          · exact hGuess
          · exact hAll record hMem hIdentity
        · rcases hAttained with hSame | ⟨record, hMem, hRecord⟩
          · exact .inr ⟨head, List.mem_cons_self .., ⟨hTaken.1, hTaken.2.1⟩, hSame⟩
          · exact .inr ⟨record, List.mem_cons_of_mem _ hMem, hRecord⟩
      · rename_i hNotTaken
        obtain ⟨hGuess, hAll, hAttained⟩ := ih guess
        refine ⟨hGuess, ?_, ?_⟩
        · intro record hMem hIdentity
          rcases List.mem_cons.1 hMem with rfl | hMem
          · have hBelow : record.evidenceGeneration ≤ guess :=
              UInt64.le_of_lt (UInt64.not_le.1 fun h =>
                hNotTaken ⟨hIdentity.1, hIdentity.2, h⟩)
            exact UInt64.le_trans hBelow hGuess
          · exact hAll record hMem hIdentity
        · rcases hAttained with hSame | ⟨record, hMem, hRecord⟩
          · exact .inl hSame
          · exact .inr ⟨record, List.mem_cons_of_mem _ hMem, hRecord⟩

/-- Records that each have a later one of their identity do not lower the highest. -/
theorem highestFrom_mono {key : SourceKey} {evidence later : List EvidenceRecord}
    (h : ∀ record ∈ evidence, record.OfIdentity key →
      ∃ next ∈ later, next.OfIdentity key ∧
        record.evidenceGeneration ≤ next.evidenceGeneration) :
    highestFrom key 0 evidence ≤ highestFrom key 0 later := by
  obtain ⟨-, -, hSame | ⟨record, hMem, hIdentity, hHighest⟩⟩ := highestFrom_spec key evidence 0
  · rw [hSame]
    exact UInt64.le_iff_toNat_le.2 (Nat.zero_le _)
  · obtain ⟨next, hNext, hNextIdentity, hLe⟩ := h record hMem hIdentity
    rw [hHighest]
    exact UInt64.le_trans hLe ((highestFrom_spec key later 0).2.1 next hNext hNextIdentity)

theorem highestFrom_subset {key : SourceKey} {evidence later : List EvidenceRecord}
    (h : evidence ⊆ later) : highestFrom key 0 evidence ≤ highestFrom key 0 later :=
  highestFrom_mono fun record hMem hIdentity =>
    ⟨record, h hMem, hIdentity, UInt64.le_refl _⟩

/-- Relabelling keeps sources, boots and generations. -/
theorem highestFrom_relabel (key : SourceKey) (matching : EvidenceRecord → Bool)
    (currentness : EvidenceCurrentness) (reason : ReasonToken)
    (evidence : List EvidenceRecord) :
    highestFrom key 0 evidence ≤
      highestFrom key 0 (relabel matching currentness reason evidence) := by
  refine highestFrom_mono fun record hMem hIdentity => ⟨_, List.mem_map_of_mem hMem, ?_⟩
  split
  · exact ⟨hIdentity, UInt64.le_refl _⟩
  · exact ⟨hIdentity, UInt64.le_refl _⟩

/-- The highest generation of an identity in the entry of a capability. -/
def EntityState.highest (entity : EntityState) (capability : CapabilityId)
    (key : SourceKey) : EvidenceGeneration :=
  highestFrom key 0
    (((entity.findCapability capability).map CapabilityEntry.evidence).getD [])

/-- The highest generation of an identity does not fall in the entry of a capability. -/
def KeepsEntry (capability : CapabilityId) (key : SourceKey)
    (entry later : CapabilityEntry) : Prop :=
  later.id = entry.id ∧ (entry.id = capability →
    highestFrom key 0 entry.evidence ≤ highestFrom key 0 later.evidence)

theorem keepsEntry_refl (capability : CapabilityId) (key : SourceKey)
    (entry : CapabilityEntry) : KeepsEntry capability key entry entry :=
  ⟨rfl, fun _ => UInt64.le_refl _⟩

theorem EntriesGrow.highest_le {capability : CapabilityId} {key : SourceKey}
    {a b : EntityState} (h : EntriesGrow (KeepsEntry capability key) a b) :
    a.highest capability key ≤ b.highest capability key := by
  unfold EntityState.highest
  cases hFound : a.findCapability capability with
  | none => exact UInt64.le_iff_toNat_le.2 (Nat.zero_le _)
  | some entry =>
      obtain ⟨later, hLater, -, hKeeps⟩ := h.find hFound
      rw [hLater]
      exact hKeeps (lookup_key hFound)

theorem target_evidence (cell : Cell) (claim : CapabilityClaim) :
    (cell.target claim).evidence =
      ((cell.entity.findCapability claim.capability).map CapabilityEntry.evidence).getD [] := by
  unfold Cell.target
  cases cell.entity.findCapability claim.capability <;> rfl

/-! ## Generations are bounded by those of the entry -/

def CapabilityEntry.Bounded (entry : CapabilityEntry) : Prop :=
  ∀ record ∈ entry.evidence, record.evidenceGeneration ≤ entry.generation

theorem le_nextOrSame (generation : UInt64) : generation ≤ nextOrSame generation := by
  unfold nextOrSame
  cases hNext : counterNext generation with
  | error e => exact UInt64.le_refl _
  | ok next =>
      have hToNat := toNat_of_counterNext hNext
      show generation ≤ next
      rw [UInt64.le_iff_toNat_le]
      omega

theorem le_of_counterNext {generation next : UInt64} (h : counterNext generation = .ok next) :
    generation ≤ next := by
  have hToNat := toNat_of_counterNext h
  rw [UInt64.le_iff_toNat_le]
  omega

theorem le_of_exhausted {generation : UInt64} {e : Error} (h : counterNext generation = .error e)
    (other : UInt64) : other ≤ generation := by
  have hMax := toNat_of_exhausted h
  have hLt := other.toNat_lt
  rw [UInt64.le_iff_toNat_le]
  omega

theorem bounded_relabel {entry : CapabilityEntry} (h : entry.Bounded)
    (matching : EvidenceRecord → Bool) (currentness : EvidenceCurrentness)
    (reason : ReasonToken) :
    ∀ record ∈ relabel matching currentness reason entry.evidence,
      record.evidenceGeneration ≤ entry.generation := by
  intro record hMem
  obtain ⟨held, hHeld, rfl | rfl⟩ := mem_relabel hMem
  · exact h record hHeld
  · exact h held hHeld

theorem bounded_retained {entry : CapabilityEntry} (h : entry.Bounded) (registry : Registry)
    (request : PublicationRequest) :
    ∀ record ∈ retainedEvidence registry request entry,
      record.evidenceGeneration ≤ entry.generation :=
  fun record hMem => bounded_relabel h _ _ _ record ((trimEvidence_sublist _ _).subset hMem)

/-- The next generation of an identity, in an entry that can still advance. -/
theorem toNat_nextEvidenceGeneration {entry : CapabilityEntry} {next : CapabilityGeneration}
    (hBounded : entry.Bounded) (hNext : counterNext entry.generation = .ok next)
    (key : SourceKey) :
    (nextEvidenceGeneration entry key).toNat = (highestFrom key 0 entry.evidence).toNat + 1 ∧
      nextEvidenceGeneration entry key ≤ next := by
  have hHighest : highestFrom key 0 entry.evidence ≤ entry.generation := by
    obtain ⟨-, -, hSame | ⟨record, hMem, -, hRecord⟩⟩ := highestFrom_spec key entry.evidence 0
    · rw [hSame]
      exact UInt64.le_iff_toNat_le.2 (Nat.zero_le _)
    · exact hRecord ▸ hBounded record hMem
  rw [UInt64.le_iff_toNat_le] at hHighest
  have hToNat := toNat_of_counterNext hNext
  have hLt := next.toNat_lt
  cases hCounter : counterNext (highestFrom key 0 entry.evidence) with
  | error e =>
      have hMax := le_of_exhausted hCounter next
      rw [UInt64.le_iff_toNat_le] at hMax
      omega
  | ok advanced =>
      have hAdvanced := toNat_of_counterNext hCounter
      rw [nextEvidenceGeneration_eq, hCounter]
      show advanced.toNat = _ ∧ advanced ≤ next
      rw [UInt64.le_iff_toNat_le]
      omega

theorem bounded_change {registry : Registry} {request : PublicationRequest} {cell : Cell}
    {step : ApplyStep} {ok : Bool} {entry later : CapabilityEntry}
    (h : EntryChange registry request cell step ok entry later) (hBounded : entry.Bounded) :
    later.Bounded := by
  cases h with
  | superseded selects touches =>
      exact fun record hMem =>
        UInt64.le_trans (bounded_relabel hBounded _ _ _ record hMem) (le_nextOrSame _)
  | withdrawn touches advances =>
      exact fun record hMem =>
        UInt64.le_trans (bounded_relabel hBounded _ _ _ record hMem) (le_of_counterNext advances)
  | unwithdrawn exhausted => exact bounded_relabel hBounded _ _ _
  | trimmed => exact bounded_retained hBounded _ _
  | unapplied exhausted => exact fun record _ => le_of_exhausted exhausted _
  | @applied claim coverage next advances =>
      intro record hMem
      rcases List.mem_append.1 hMem with hMem | hMem
      · exact UInt64.le_trans (bounded_retained hBounded _ _ record hMem)
          (le_of_counterNext advances)
      · rw [List.mem_singleton.1 hMem]
        exact (toNat_nextEvidenceGeneration hBounded advances request.sourceKey).2

theorem bounded_blank (id : CapabilityId) : CapabilityEntry.Bounded { id } := by
  intro record hMem
  cases hMem

theorem bounded_rule :
    EntityRule fun a b => AllEntries CapabilityEntry.Bounded a →
      AllEntries CapabilityEntry.Bounded b :=
  allEntries_rule bounded_blank fun _ _ _ _ _ _ hBounded _ record hMem =>
    UInt64.le_trans (bounded_relabel hBounded _ _ _ record hMem) (le_nextOrSame _)

/-! ## What a publication creates -/

/-- The record that a step creates when it succeeds. -/
def ApplyStep.created (registry : Registry) (request : PublicationRequest) (cell : Cell) :
    ApplyStep → List EvidenceRecord
  | applyClaim claim coverage =>
      [appendedRecord registry request cell claim coverage (cell.target claim)]
  | _ => []

/-- The records that the loop of stage 10 creates, in order. -/
def createdBy (registry : Registry) (request : PublicationRequest) :
    Cell → List ApplyStep → List EvidenceRecord
  | _, [] => []
  | cell, step :: steps =>
      match step.run registry request cell with
      | (_, .error _) => []
      | (next, .ok ()) =>
          step.created registry request cell ++ createdBy registry request next steps

/-- The records that a committed publication created. -/
def Attempt.created (attempt : Attempt) : List EvidenceRecord :=
  if attempt.committed then
    match validateRequest attempt.before attempt.request,
        bindEntity attempt.before attempt.request with
    | .ok (_, grant), (bound, .ok entity) =>
        createdBy bound attempt.request (bound.cell entity)
          (applySteps bound.schema grant attempt.request)
    | _, _ => []
  else []

/-- The claim that reports what a record holds. -/
def EvidenceRecord.report (record : EvidenceRecord) : CapabilityClaim where
  capability := record.capability
  state := record.state
  value := record.value
  provenance := record.provenance
  sourceClass := record.sourceClass
  durability := record.durability
  coverage := record.coverage
  firmwareVersion := record.firmwareVersion
  driverVersion := record.driverVersion
  reason := record.reason

/-- The claim that a step applies, under the coverage that it applies it with. -/
def ApplyStep.reports : ApplyStep → List CapabilityClaim
  | applyClaim claim coverage => [{ claim with coverage }]
  | _ => []

/-- The record was made for an entity and a capability by a publishing identity. -/
def EvidenceRecord.HeldBy (record : EvidenceRecord) (entity : EntityId)
    (capability : CapabilityId) (key : SourceKey) : Prop :=
  record.entity = entity ∧ record.capability = capability ∧ record.OfIdentity key

/-- The trim of a claim of the capability, if the step is one, leaves the highest
generation of the identity. -/
def TrimKeeps (registry : Registry) (request : PublicationRequest)
    (capability : CapabilityId) (key : SourceKey) (cell : Cell) : ApplyStep → Prop
  | .applyClaim claim _ =>
      claim.capability = capability →
        highestFrom key 0 (cell.target claim).evidence ≤
          highestFrom key 0 (retainedEvidence registry request (cell.target claim))
  | _ => True

/-- No step of the loop trims the highest record of the identity. -/
def StepsKeep (registry : Registry) (request : PublicationRequest)
    (capability : CapabilityId) (key : SourceKey) : Cell → List ApplyStep → Prop
  | _, [] => True
  | cell, step :: steps =>
      TrimKeeps registry request capability key cell step ∧
        StepsKeep registry request capability key (step.run registry request cell).1 steps

/-! ### Deciding the conditions -/

instance (record : EvidenceRecord) (key : SourceKey) : Decidable (record.OfIdentity key) :=
  inferInstanceAs (Decidable (_ ∧ _))

instance (record : EvidenceRecord) (entity : EntityId) (capability : CapabilityId)
    (key : SourceKey) : Decidable (record.HeldBy entity capability key) :=
  inferInstanceAs (Decidable (_ ∧ _ ∧ _))

instance (registry : Registry) (request : PublicationRequest) (capability : CapabilityId)
    (key : SourceKey) (cell : Cell) :
    (step : ApplyStep) → Decidable (TrimKeeps registry request capability key cell step)
  | .applyClaim .. => inferInstanceAs (Decidable (_ → _))
  | .supersedeOtherIdentities => .isTrue trivial
  | .supersedeIdentity => .isTrue trivial
  | .withdrawClaim _ => .isTrue trivial
  | .countSuperseded => .isTrue trivial

instance decidableStepsKeep (registry : Registry) (request : PublicationRequest)
    (capability : CapabilityId) (key : SourceKey) :
    (cell : Cell) → (steps : List ApplyStep) →
      Decidable (StepsKeep registry request capability key cell steps)
  | _, [] => .isTrue trivial
  | cell, step :: steps =>
      have := decidableStepsKeep registry request capability key
        (step.run registry request cell).1 steps
      inferInstanceAs (Decidable (_ ∧ _))

section Steps

variable {registry : Registry} {request : PublicationRequest} {capability : CapabilityId}
  {key : SourceKey} {cell : Cell} {step : ApplyStep} {steps : List ApplyStep}

theorem step_keepsHighest (hKeeps : TrimKeeps registry request capability key cell step) :
    EntriesGrow (KeepsEntry capability key) cell.entity
      (step.run registry request cell).1.entity := by
  refine ApplyStep.run_grows (keepsEntry_refl capability key) ?_
  intro ok entry later hChange _
  cases hChange with
  | superseded selects touches => exact ⟨rfl, fun _ => highestFrom_relabel _ _ _ _ _⟩
  | withdrawn touches advances => exact ⟨rfl, fun _ => highestFrom_relabel _ _ _ _ _⟩
  | unwithdrawn exhausted => exact ⟨rfl, fun _ => highestFrom_relabel _ _ _ _ _⟩
  | @trimmed claim coverage =>
      exact ⟨rfl, fun hId => hKeeps ((target_found cell claim).1.symm.trans hId)⟩
  | @unapplied claim coverage e exhausted =>
      exact ⟨rfl, fun hId => UInt64.le_trans
        (hKeeps ((target_found cell claim).1.symm.trans hId))
        (highestFrom_subset (List.subset_append_left _ _))⟩
  | @applied claim coverage next advances =>
      exact ⟨rfl, fun hId => UInt64.le_trans
        (hKeeps ((target_found cell claim).1.symm.trans hId))
        (highestFrom_subset (List.subset_append_left _ _))⟩

theorem step_bounded (hBounded : AllEntries CapabilityEntry.Bounded cell.entity) :
    AllEntries CapabilityEntry.Bounded (step.run registry request cell).1.entity := by
  have hGrows : EntriesGrow (fun entry later => entry.Bounded → later.Bounded) cell.entity
      (step.run registry request cell).1.entity :=
    ApplyStep.run_grows (fun _ => id) fun _ _ _ hChange _ => bounded_change hChange
  exact hGrows.invariant bounded_blank hBounded

/-- The created records belong to the entity and the generation it is bound to. -/
theorem createdBy_entity {record : EvidenceRecord}
    (h : record ∈ createdBy registry request cell steps) :
    record.entity = cell.entity.id ∧
      record.entityGeneration = cell.entity.boundGeneration := by
  induction steps generalizing cell with
  | nil => cases h
  | cons step steps ih =>
      have hSame := step.run_entity registry request cell
      unfold createdBy at h
      split at h
      · cases h
      · rename_i next hEq
        rw [hEq] at hSame
        rcases List.mem_append.1 h with hHere | hLater
        · cases step with
          | applyClaim claim coverage =>
              rw [List.mem_singleton.1 hHere]
              exact ⟨rfl, rfl⟩
          | _ => cases hHere
        · obtain ⟨hId, hBound⟩ := ih hLater
          have hSameBound : next.entity.boundGeneration = cell.entity.boundGeneration := by
            rw [hSame]
          exact ⟨hId.trans hSame.id_eq, hBound.trans hSameBound⟩

/-- The records that a loop creates report the claims that its steps apply. -/
theorem createdBy_report (hOk : (runSteps registry request cell steps).2 = .ok ()) :
    (createdBy registry request cell steps).map EvidenceRecord.report =
      steps.flatMap ApplyStep.reports := by
  induction steps generalizing cell with
  | nil => rfl
  | cons step steps ih =>
      have hHere : (step.created registry request cell).map EvidenceRecord.report =
          step.reports := by
        cases step <;> rfl
      rw [runSteps] at hOk
      rw [createdBy, List.flatMap_cons]
      generalize step.run registry request cell = ran at *
      obtain ⟨next, outcome⟩ := ran
      cases outcome with
      | error e => cases hOk
      | ok u => rw [List.map_append, hHere, ih hOk]

/-- A record that a step creates is the next one of its identity, and is held after it. -/
theorem step_created (hOk : (step.run registry request cell).2 = .ok ())
    (hBounded : AllEntries CapabilityEntry.Bounded cell.entity) {record : EvidenceRecord}
    (hCreated : record ∈ step.created registry request cell)
    (hCapability : record.capability = capability) (hIdentity : record.OfIdentity key) :
    cell.entity.highest capability key < record.evidenceGeneration ∧
      record.evidenceGeneration ≤
        (step.run registry request cell).1.entity.highest capability key := by
  cases step with
  | applyClaim claim coverage =>
      rw [ApplyStep.created, List.mem_singleton] at hCreated
      subst hCreated
      obtain rfl : claim.capability = capability := hCapability
      have hKey : request.sourceKey = key := by
        cases key
        obtain ⟨rfl, rfl⟩ := hIdentity
        rfl
      obtain ⟨next, hNext, hFound⟩ := applyClaim_ok hOk
      have hTarget : (cell.target claim).Bounded := by
        rcases (target_found cell claim).2 with hHeld | ⟨-, hBlank⟩
        · exact hBounded _ (lookup_mem hHeld)
        · rw [hBlank]
          exact bounded_blank _
      constructor
      · rw [EntityState.highest, ← target_evidence, UInt64.lt_iff_toNat_lt]
        have hValue := (toNat_nextEvidenceGeneration hTarget hNext key).1
        show _ < (nextEvidenceGeneration (cell.target claim) request.sourceKey).toNat
        rw [hKey]
        omega
      · show _ ≤ ((Ports.applyClaim registry request claim coverage cell).1.entity).highest _ _
        rw [EntityState.highest, hFound]
        exact (highestFrom_spec key _ 0).2.1 _
          (List.mem_append_right _ (List.mem_singleton_self _)) hIdentity
  | _ => cases hCreated

/-- The records that the loop creates for an identity: they increase, above the highest
generation that was held before and up to the one held after. -/
theorem createdBy_between (hKeeps : StepsKeep registry request capability key cell steps)
    (hBounded : AllEntries CapabilityEntry.Bounded cell.entity) :
    cell.entity.highest capability key ≤
      (runSteps registry request cell steps).1.entity.highest capability key ∧
    (createdBy registry request cell steps).Pairwise (fun first second =>
      first.capability = capability → first.OfIdentity key →
      second.capability = capability → second.OfIdentity key →
      first.evidenceGeneration < second.evidenceGeneration) ∧
    ∀ record ∈ createdBy registry request cell steps,
      record.capability = capability → record.OfIdentity key →
      cell.entity.highest capability key < record.evidenceGeneration ∧
      record.evidenceGeneration ≤
        (runSteps registry request cell steps).1.entity.highest capability key := by
  induction steps generalizing cell with
  | nil =>
      refine ⟨UInt64.le_refl _, List.Pairwise.nil, ?_⟩
      intro record hMem
      cases hMem
  | cons step steps ih =>
      have hHere := (step_keepsHighest hKeeps.1).highest_le
      obtain ⟨hLater, hOrdered, hCreated⟩ := ih hKeeps.2 (step_bounded hBounded)
      have hStep : (step.run registry request cell).2 = .ok () →
          ∀ record ∈ step.created registry request cell,
            record.capability = capability → record.OfIdentity key →
            cell.entity.highest capability key < record.evidenceGeneration ∧
            record.evidenceGeneration ≤
              (step.run registry request cell).1.entity.highest capability key :=
        fun hOk record hMem => step_created hOk hBounded hMem
      rw [runSteps, createdBy]
      generalize step.run registry request cell = ran at *
      obtain ⟨next, outcome⟩ := ran
      cases outcome with
      | error e =>
          refine ⟨hHere, List.Pairwise.nil, ?_⟩
          intro record hMem
          cases hMem
      | ok u =>
          have hStep := hStep rfl
          dsimp only at hHere hLater hOrdered hCreated hStep ⊢
          refine ⟨UInt64.le_trans hHere hLater,
            List.pairwise_append.2 ⟨?_, hOrdered, ?_⟩, ?_⟩
          · cases step <;> simp [ApplyStep.created]
          · intro first hFirst second hSecond hCap hKey hCap' hKey'
            have hBelow := (hStep first hFirst hCap hKey).2
            have hAbove := (hCreated second hSecond hCap' hKey').1
            exact UInt64.lt_of_le_of_lt hBelow hAbove
          · intro record hMem hCap hKey
            rcases List.mem_append.1 hMem with hMem | hMem
            · obtain ⟨hAbove, hBelow⟩ := hStep record hMem hCap hKey
              exact ⟨hAbove, UInt64.le_trans hBelow hLater⟩
            · obtain ⟨hAbove, hBelow⟩ := hCreated record hMem hCap hKey
              exact ⟨UInt64.lt_of_le_of_lt hHere hAbove, hBelow⟩

end Steps

/-! ## One publication -/

/-- Every entity bounds its evidence generations and is bound to its current generation. -/
structure Registry.Orderly (registry : Registry) : Prop where
  bounded : ∀ entity ∈ registry.entities, AllEntries CapabilityEntry.Bounded entity
  bound : ∀ entity ∈ registry.entities, entity.BoundCurrent

/-- The publication trims no highest record of the identity. -/
def Attempt.KeepsHighest (attempt : Attempt) (capability : CapabilityId) (key : SourceKey) :
    Prop :=
  ∀ runtime grant bound entity,
    validateRequest attempt.before attempt.request = .ok (runtime, grant) →
    bindEntity attempt.before attempt.request = (bound, .ok entity) →
    checkPreconditions entity attempt.request = .ok () →
    StepsKeep bound attempt.request capability key (bound.cell entity)
      (applySteps bound.schema grant attempt.request)

instance (attempt : Attempt) (capability : CapabilityId) (key : SourceKey) :
    Decidable (attempt.KeepsHighest capability key) :=
  match hValid : validateRequest attempt.before attempt.request,
      hBind : bindEntity attempt.before attempt.request with
  | .error _, _ => .isTrue fun _ _ _ _ h => by rw [hValid] at h; cases h
  | .ok _, (_, .error _) => .isTrue fun _ _ _ _ _ h => by rw [hBind] at h; cases h
  | .ok (_, grant), (bound, .ok entity) =>
      decidable_of_iff (checkPreconditions entity attempt.request = .ok () →
          StepsKeep bound attempt.request capability key (bound.cell entity)
            (applySteps bound.schema grant attempt.request)) (by
        constructor
        · intro h _ _ _ _ hOther hOther' hChecked
          rw [hValid] at hOther
          rw [hBind] at hOther'
          cases hOther
          cases hOther'
          exact h hChecked
        · exact fun h => h _ _ _ _ hValid hBind)

theorem attempt_created {attempt : Attempt} {record : EvidenceRecord}
    (h : record ∈ attempt.created) :
    ∃ result, ∃ c : Committed attempt.before attempt.request attempt.after result,
      attempt.created = createdBy c.bound attempt.request (c.bound.cell c.entity)
        (applySteps c.bound.schema c.grant attempt.request) := by
  have hCommitted : attempt.committed = true := by
    by_contra hNot
    rw [Attempt.created, if_neg hNot] at h
    cases h
  obtain ⟨result, ⟨c⟩⟩ := attempt.committed_stages hCommitted
  refine ⟨result, c, ?_⟩
  rw [Attempt.created, if_pos hCommitted, c.valid, c.binds]

/-- The records of a commit report the claims of its steps. -/
theorem created_report {attempt : Attempt} (hCommitted : attempt.committed = true) :
    attempt.created.map EvidenceRecord.report =
      (publicationSteps attempt.before attempt.request).flatMap ApplyStep.reports := by
  obtain ⟨result, ⟨c⟩⟩ := attempt.committed_stages hCommitted
  rw [Attempt.created, if_pos hCommitted, c.valid, c.binds, c.publicationSteps_eq]
  refine createdBy_report ?_
  rw [← c.publicationSteps_eq]
  exact c.runs

/-- The entity that stage 6 binds shares the invariants of the entities held. -/
theorem Committed.orderly {registry after : Registry} {request : PublicationRequest}
    {result : PublicationResult} (c : Committed registry request after result)
    (h : registry.Orderly) :
    AllEntries CapabilityEntry.Bounded c.entity ∧ c.entity.BoundCurrent := by
  obtain ⟨-, -, -, ⟨-, hFound⟩ | ⟨hFresh, hBound, -⟩⟩ := bindEntity_ok c.binds
  · exact ⟨h.bounded _ (lookup_mem hFound), h.bound _ (lookup_mem hFound)⟩
  · refine ⟨?_, hBound⟩
    rw [AllEntries, hFresh.capabilities]
    intro entry hMem
    cases hMem

/-- What a publication creates for an identity lies above what was held at the entity
generation before, and what is held after is not below it. -/
theorem created_between {attempt : Attempt} {entity : EntityId} {capability : CapabilityId}
    {key : SourceKey} (hOrderly : attempt.before.Orderly)
    (hKeeps : attempt.request.entity = entity → attempt.KeepsHighest capability key) :
    attempt.created.Pairwise (fun first second =>
      first.HeldBy entity capability key → second.HeldBy entity capability key →
      first.evidenceGeneration < second.evidenceGeneration) ∧
    ∀ record ∈ attempt.created, record.HeldBy entity capability key →
      (∀ held, attempt.before.findEntity entity = some held →
        held.currentGeneration ≤ record.entityGeneration ∧
        (held.currentGeneration = record.entityGeneration →
          held.highest capability key < record.evidenceGeneration)) ∧
      ∃ later, attempt.after.findEntity entity = some later ∧
        later.currentGeneration = record.entityGeneration ∧
        record.evidenceGeneration ≤ later.highest capability key := by
  by_cases hAny : ∃ record ∈ attempt.created, record.HeldBy entity capability key
  · obtain ⟨witness, hWitness, hHeld⟩ := hAny
    obtain ⟨result, c, hCreated⟩ := attempt_created hWitness
    obtain ⟨hBounded, hBound⟩ := c.orderly hOrderly
    obtain ⟨hId, hGeneration, -, hBefore⟩ := bindEntity_ok c.binds
    obtain ⟨registryGeneration, next, hAfter, hNext, hNextGeneration, -⟩ := c.entity_after
    obtain ⟨-, -, hPublished⟩ := applyRequest_entity c.applies
    have hEntity : attempt.request.entity = entity := by
      rw [hCreated] at hWitness
      exact hId.symm.trans ((createdBy_entity hWitness).1.symm.trans hHeld.1)
    subst hEntity
    have hSteps := hKeeps rfl _ _ _ _ c.valid c.binds c.checked
    obtain ⟨-, hOrdered, hBetween⟩ := createdBy_between hSteps hBounded
    rw [hCreated]
    refine ⟨hOrdered.imp fun hLess hFirst hSecond =>
      hLess hFirst.2.1 hFirst.2.2 hSecond.2.1 hSecond.2.2, ?_⟩
    rintro record hMem ⟨-, hCapability, hKey⟩
    obtain ⟨hAbove, hBelow⟩ := hBetween record hMem hCapability hKey
    have hRecord : record.entityGeneration = attempt.request.entityGeneration :=
      (createdBy_entity hMem).2.trans (hBound.trans hGeneration)
    refine ⟨fun held hHeld => ?_, _, hAfter, ?_, ?_⟩
    · rw [hRecord]
      rcases hBefore with ⟨-, hFound⟩ | ⟨-, -, hOlder⟩
      · rw [hHeld, Option.some.injEq] at hFound
        subst hFound
        exact ⟨UInt64.le_of_eq hGeneration, fun _ => hAbove⟩
      · have hLess := hOlder held hHeld
        exact ⟨UInt64.le_of_lt hLess, fun hEq => absurd hEq (UInt64.ne_of_lt hLess)⟩
    · rw [committedEntity_currentGeneration, hNextGeneration, hRecord]
    · have hHighest : (committedEntity registryGeneration next attempt.request).highest
          capability key = c.published.highest capability key := by
        rw [hNext]
        rfl
      rw [hHighest, hPublished]
      exact hBelow
  · -- nothing here is made for the identity
    have hOther : ∀ record ∈ attempt.created, ¬record.HeldBy entity capability key :=
      fun record hMem hHeld => hAny ⟨record, hMem, hHeld⟩
    exact ⟨List.pairwise_of_forall_mem_list fun first hFirst _ _ hHeld =>
      absurd hHeld (hOther first hFirst), fun record hMem hHeld =>
      absurd hHeld (hOther record hMem)⟩

/-! ## Runs -/

/-- The operation is no load, and its publications for the entity trim no highest record
of the identity. -/
def KeepsHighest (entity : EntityId) (capability : CapabilityId) (key : SourceKey)
    (registry : Registry) (operation : Operation) : Prop :=
  NoLoad registry operation ∧ ∀ attempt ∈ attempts registry operation,
    attempt.request.entity = entity → attempt.KeepsHighest capability key

def HighestLe (capability : CapabilityId) (key : SourceKey) (a b : EntityState) : Prop :=
  a.highest capability key ≤ b.highest capability key

theorem highestLe_trans (capability : CapabilityId) (key : SourceKey) (a b c : EntityState)
    (hab : HighestLe capability key a b) (hbc : HighestLe capability key b c) :
    HighestLe capability key a c :=
  UInt64.le_trans hab hbc

instance (entity : EntityId) (capability : CapabilityId) (key : SourceKey)
    (registry : Registry) (operation : Operation) :
    Decidable (KeepsHighest entity capability key registry operation) :=
  inferInstanceAs (Decidable (_ ∧ ∀ attempt ∈ attempts registry operation, _ → _))

/-- The highest generation of the identity does not fall while the generation of the entity
lasts. -/
def HighestRises (entity : EntityId) (capability : CapabilityId) (key : SourceKey)
    (a b : Registry) : Prop :=
  ∀ held, a.findEntity entity = some held → ∃ later, b.findEntity entity = some later ∧
    WhileGeneration (HighestLe capability key) held later

section Runs

variable {entity : EntityId} {capability : CapabilityId} {key : SourceKey}

theorem highest_le_of_eq {a b : EntityState} (h : b.capabilities = a.capabilities) :
    HighestLe capability key a b := by
  rw [HighestLe, EntityState.highest, EntityState.highest, EntityState.findCapability,
    EntityState.findCapability, h]
  exact UInt64.le_refl _

theorem highest_rule : EntityRule (WhileGeneration (HighestLe capability key)) :=
  EntityRule.whileGeneration
    (PublishRule.whileGeneration (fun _ => UInt64.le_refl _) (highestLe_trans capability key)
      (fun _ _ _ => highest_le_of_eq rfl)
      fun _ _ _ _ _ hAdvance => highest_le_of_eq (by
        rw [committedEntity_capabilities, (advanceGenerations_ok hAdvance).2.1]))
    (fun _ _ _ _ _ => EntriesGrow.highest_le (relabelEntity_grows (keepsEntry_refl _ _)
      fun _ _ => ⟨rfl, fun _ => highestFrom_relabel _ _ _ _ _⟩))
    (fun _ _ => highest_le_of_eq rfl) fun _ _ _ => highest_le_of_eq rfl

theorem highestRises_refl (registry : Registry) :
    HighestRises entity capability key registry registry :=
  fun held hFound => ⟨held, hFound, .inr ⟨rfl, UInt64.le_refl _⟩⟩

theorem highestRises_trans (a b c : Registry) (hab : HighestRises entity capability key a b)
    (hbc : HighestRises entity capability key b c) : HighestRises entity capability key a c := by
  intro held hFound
  obtain ⟨mid, hMid, hFirst⟩ := hab held hFound
  obtain ⟨later, hLater, hSecond⟩ := hbc mid hMid
  exact ⟨later, hLater, WhileGeneration.trans (highestLe_trans capability key) hFirst hSecond⟩

theorem orderly_init (options : Options) : (Registry.init options).Orderly := by
  unfold Registry.init
  split <;> exact ⟨by simp, by simp⟩

theorem orderly_of_follows {a b : Registry}
    (hBounded : Follows (fun x y => AllEntries CapabilityEntry.Bounded x →
      AllEntries CapabilityEntry.Bounded y) a b)
    (hBound : Follows (fun x y => x.BoundCurrent → y.BoundCurrent) a b) (h : a.Orderly) :
    b.Orderly :=
  ⟨hBounded.invariant (fun _ _ _ _ entry hMem => by cases hMem) h.bounded,
    hBound.invariant (fun _ _ _ _ => rfl) h.bound⟩

theorem applies_bounded (registry : Registry) (request : PublicationRequest) :
    AppliesWithin (fun a b => AllEntries CapabilityEntry.Bounded a →
      AllEntries CapabilityEntry.Bounded b) registry request :=
  allEntries_applies bounded_blank (fun _ _ _ _ _ _ _ => bounded_change) registry request

theorem applies_boundCurrent (registry : Registry) (request : PublicationRequest) :
    AppliesWithin (fun a b => a.BoundCurrent → b.BoundCurrent) registry request :=
  fun _ _ _ _ _ _ _ hBound => (runSteps_entity _ _ _ _).boundCurrent hBound

theorem publish_orderly (registry : Registry) (request : PublicationRequest)
    (h : registry.Orderly) : (publish registry request).1.Orderly :=
  orderly_of_follows (publish_follows bounded_rule.toPublishRule (applies_bounded _ _))
    (publish_follows boundCurrent_rule.toPublishRule (applies_boundCurrent _ _)) h

theorem step_orderly {registry : Registry} {operation : Operation}
    (hNoLoad : NoLoad registry operation) (h : registry.Orderly) :
    (operation.apply registry).Orderly :=
  orderly_of_follows (step_follows bounded_rule (fun _ _ => applies_bounded _ _) hNoLoad)
    (step_follows boundCurrent_rule (fun _ _ => applies_boundCurrent _ _) hNoLoad) h

theorem applies_highest {attempt : Attempt} (hOrderly : attempt.before.Orderly)
    (hKeeps : attempt.request.entity = entity → attempt.KeepsHighest capability key) :
    AppliesWithin (AtEntity entity (WhileGeneration (HighestLe capability key)))
      attempt.before attempt.request := by
  intro runtime grant bound held hValid hBind hChecked
  have hSame := runSteps_entity bound attempt.request
    (applySteps bound.schema grant attempt.request) (bound.cell held)
  refine ⟨hSame.id_eq, fun hEntity => .inr ⟨hSame.currentGeneration_eq.symm, ?_⟩⟩
  obtain ⟨hId, -, -, hBefore⟩ := bindEntity_ok hBind
  have hBounded : AllEntries CapabilityEntry.Bounded held := by
    rcases hBefore with ⟨-, hFound⟩ | ⟨hFresh, -, -⟩
    · exact hOrderly.bounded _ (lookup_mem hFound)
    · rw [AllEntries, hFresh.capabilities]
      intro entry hMem
      cases hMem
  exact (createdBy_between (hKeeps (hId.symm.trans hEntity) _ _ _ _ hValid hBind hChecked)
    hBounded).1

theorem attempt_highestRises {attempt : Attempt} (hOrderly : attempt.before.Orderly)
    (hKeeps : attempt.request.entity = entity → attempt.KeepsHighest capability key) :
    HighestRises entity capability key attempt.before attempt.after := by
  intro held hFound
  obtain ⟨later, hLater, -, hRises⟩ := (publish_follows
    (highest_rule.atEntity entity).toPublishRule (applies_highest hOrderly hKeeps)).find hFound
  exact ⟨later, hLater, hRises (findEntity_id hFound)⟩

theorem step_highestRises {registry : Registry} {operation : Operation}
    (hGuard : KeepsHighest entity capability key registry operation)
    (hOrderly : registry.Orderly) :
    HighestRises entity capability key registry (operation.apply registry) := by
  intro held hFound
  have hAttempts : ∀ attempt ∈ attempts registry operation, attempt.before.Orderly :=
    attempts_invariant publish_orderly hOrderly
  obtain ⟨later, hLater, -, hRises⟩ := (step_follows (highest_rule.atEntity entity)
    (fun attempt hMem => applies_highest (hAttempts attempt hMem) (hGuard.2 attempt hMem))
    hGuard.1).find hFound
  exact ⟨later, hLater, hRises (findEntity_id hFound)⟩

/-- Of two publications in order, the second creates higher generations. -/
theorem created_in_order {first second : Attempt}
    (hFirst : first.before.Orderly ∧
      (first.request.entity = entity → first.KeepsHighest capability key))
    (hSecond : second.before.Orderly ∧
      (second.request.entity = entity → second.KeepsHighest capability key))
    (hRises : HighestRises entity capability key first.after second.before)
    {earlier later : EvidenceRecord} (hEarlier : earlier ∈ first.created)
    (hLater : later ∈ second.created) (hHeld : earlier.HeldBy entity capability key)
    (hHeld' : later.HeldBy entity capability key)
    (hSame : earlier.entityGeneration = later.entityGeneration) :
    earlier.evidenceGeneration < later.evidenceGeneration := by
  obtain ⟨-, hAfter⟩ := created_between hFirst.1 hFirst.2
  obtain ⟨-, hBefore⟩ := created_between hSecond.1 hSecond.2
  obtain ⟨-, left, hLeft, hLeftGeneration, hBelow⟩ := hAfter earlier hEarlier hHeld
  obtain ⟨found, hFound, hWhile⟩ := hRises left hLeft
  obtain ⟨hNotAbove, hAbove⟩ := (hBefore later hLater hHeld').1 found hFound
  rw [← hSame, ← hLeftGeneration] at hNotAbove hAbove
  rcases hWhile with hMoved | ⟨hStays, hRise⟩
  · exact absurd hMoved (UInt64.not_lt.2 hNotAbove)
  · exact UInt64.lt_of_le_of_lt (UInt64.le_trans hBelow hRise) (hAbove hStays.symm)

/-- In a run without loads whose publications trim no highest record of an identity, the
evidence generations of the records that it creates for one entity generation and one
capability are strictly increasing. -/
theorem evidence_generations_increase (options : Options) (operations : List Operation)
    (entity : EntityId) (capability : CapabilityId) (key : SourceKey)
    (hRun : Guarded Operation.apply (KeepsHighest entity capability key)
      (Registry.init options) operations) :
    ((publications options operations).flatMap Attempt.created).Pairwise
      fun first second => first.HeldBy entity capability key →
        second.HeldBy entity capability key →
        first.entityGeneration = second.entityGeneration →
        first.evidenceGeneration < second.evidenceGeneration := by
  have hStep : ∀ (registry : Registry) (operation : Operation),
      KeepsHighest entity capability key registry operation → registry.Orderly →
      (operation.apply registry).Orderly :=
    fun _ _ hGuard hOrderly => step_orderly hGuard.1 hOrderly
  have hOrderly := guarded_invariant hStep hRun (orderly_init options)
  have hGood : ∀ attempt ∈ publications options operations, attempt.before.Orderly ∧
      (attempt.request.entity = entity → attempt.KeepsHighest capability key) :=
    trace_forall hStep (fun registry operation hGuard hHere attempt hMem =>
      ⟨attempts_invariant publish_orderly hHere attempt hMem, hGuard.2 attempt hMem⟩) hRun
      (orderly_init options)
  have hChain : Chained (HighestRises entity capability key) Attempt.before Attempt.after
      (Registry.init options) (afterRun options operations)
      (publications options operations) := by
    refine trace_chained highestRises_refl highestRises_trans
      (fun registry operation hGuard => step_highestRises hGuard.1 hGuard.2) ?_ hOrderly
    intro registry operation hGuard
    refine attempts_chained highestRises_refl highestRises_trans registry operation ?_
    intro attempt hMem
    exact attempt_highestRises (attempts_invariant publish_orderly hGuard.2 attempt hMem)
      (hGuard.1.2 attempt hMem)
  rw [List.pairwise_flatMap]
  constructor
  · intro attempt hMem
    exact (created_between (hGood attempt hMem).1 (hGood attempt hMem).2).1.imp
      fun hLess hFirst hSecond _ => hLess hFirst hSecond
  · refine hChain.within.imp_of_mem fun {first second} hFirst hSecond hRises => ?_
    intro earlier hEarlier later hLater hHeld hHeld' hSame
    exact created_in_order (hGood first hFirst) (hGood second hSecond) hRises hEarlier hLater
      hHeld hHeld' hSame

end Runs

/-! ### A trimmed identity -/

namespace Sample

def otherSource : SourceId := token _ "source-b"

/-- An incremental publication of one source. -/
def edition (source : SourceId) (attempt : String) (expected : CapabilitySetGeneration)
    (edits : List IncrementalEdit) : PublicationRequest where
  mode := .incremental
  attempt := token _ attempt
  publication := token _ attempt
  epoch := 1
  authority := { scope, publisher, workerBoot := bootOne, source, sourceGeneration := 1 }
  entity := entity
  entityGeneration := 1
  expectedSetGeneration := expected
  edits := edits

def setClaim : IncrementalEdit where
  operation := .upsertClaim
  capability := capability
  claim := claim .supported .processBound

def withdrawal : IncrementalEdit where
  operation := .withdrawClaim
  capability := capability
  claim := claim .supported .processBound

/-- A source publishes and withdraws, another one publishes three times, and the first one
publishes again. -/
def alternating : List Operation :=
  setup ++
    [.publish (edition source "attempt-1" 0 [setClaim, withdrawal]),
     .publish (edition otherSource "attempt-2" 1 [setClaim, setClaim, setClaim]),
     .publish (edition source "attempt-3" 2 [setClaim])]

end Sample

/-- With room for the default number of records nothing is trimmed. -/
theorem turns_increase :
    ((publications {} Sample.alternating).flatMap Attempt.created).Pairwise
      fun first second =>
        first.HeldBy Sample.entity Sample.capability ⟨Sample.source, Sample.bootOne⟩ →
        second.HeldBy Sample.entity Sample.capability ⟨Sample.source, Sample.bootOne⟩ →
        first.entityGeneration = second.entityGeneration →
        first.evidenceGeneration < second.evidenceGeneration :=
  evidence_generations_increase {} Sample.alternating _ _ _ (by decide +kernel)

/-- With room for two records the first source starts again from generation one: the record
that it withdrew was trimmed while the other source published. -/
theorem trimmed_identity_starts_again :
    ¬((publications { maxEvidencePerCapability := 2 } Sample.alternating).flatMap
        Attempt.created).Pairwise
      fun first second => first.entity = second.entity →
        first.entityGeneration = second.entityGeneration →
        first.capability = second.capability → first.source = second.source →
        first.workerBoot = second.workerBoot →
        first.evidenceGeneration < second.evidenceGeneration := by
  decide +kernel

end FabricCapability.Ports
