import FabricCapability.Ports.EntryRules

/-!
# Room for evidence

How many records an entity holds.  A claim that is applied adds a record to the entry of
its capability.  It is refused when the entity holds all the capabilities it may hold, or
when the entry holds as many live records as it may hold records.  Retired records count
for neither check: they are erased only when the entry is over its bound already, and that
is before the new record is added.  The bound on the records of the whole entity is never
checked.

So a claim keeps the bounds when it is refused, or finds room in the entry and in the
entity.

## Main results

* `step_filled_iff`: one step of stage 10.
* `runSteps_filled`: the loop of stage 10.
-/

namespace FabricCapability.Ports

open FabricCapability.Verified.KeyedList

/-! ## The records of an entity -/

def CapabilityEntry.evidenceCount (entry : CapabilityEntry) : Nat := entry.evidence.length

/-- The records of all entries, live or not. -/
def EntityState.recordCount (entity : EntityState) : Nat :=
  (entity.capabilities.map CapabilityEntry.evidenceCount).sum

/-- The entity keeps within the bounds on capabilities and evidence. -/
structure EntityState.Filled (options : Options) (entity : EntityState) : Prop where
  capabilities : entity.capabilities.length ≤ options.maxCapabilitiesPerEntity
  evidence : ∀ entry ∈ entity.capabilities,
    entry.evidenceCount ≤ options.maxEvidencePerCapability
  records : entity.recordCount ≤ options.maxEvidencePerEntity

section Filled

variable {options : Options} {a b : EntityState}

theorem filled_of_empty (h : a.capabilities = []) : a.Filled options := by
  refine ⟨?_, ?_, ?_⟩
  · rw [h]
    exact Nat.zero_le _
  · rw [h]
    exact fun entry hMem => by cases hMem
  · rw [EntityState.recordCount, h]
    exact Nat.zero_le _

/-- The bounds speak of the numbers of records only. -/
theorem EntityState.Filled.of_counts (hFilled : a.Filled options)
    (h : b.capabilities.map CapabilityEntry.evidenceCount =
      a.capabilities.map CapabilityEntry.evidenceCount) : b.Filled options := by
  have hLength : b.capabilities.length = a.capabilities.length := by
    simpa using congrArg List.length h
  refine ⟨hLength ▸ hFilled.capabilities, fun entry hMem => ?_, ?_⟩
  · have hCount : entry.evidenceCount ∈ a.capabilities.map CapabilityEntry.evidenceCount :=
      h ▸ List.mem_map_of_mem hMem
    obtain ⟨held, hHeld, hSame⟩ := List.mem_map.1 hCount
    exact hSame ▸ hFilled.evidence held hHeld
  · rw [EntityState.recordCount, h]
    exact hFilled.records

end Filled

/-! ## Relabelling and trimming -/

theorem relabel_length (matching : EvidenceRecord → Bool) (currentness : EvidenceCurrentness)
    (reason : ReasonToken) (evidence : List EvidenceRecord) :
    (relabel matching currentness reason evidence).length = evidence.length :=
  List.length_map _

theorem relabelEntity_counts (matching : EvidenceRecord → Bool)
    (currentness : EvidenceCurrentness) (reason : ReasonToken) (indexes : Indexes)
    (entity : EntityState) :
    (relabelEntity matching currentness reason indexes entity).2.capabilities.map
        CapabilityEntry.evidenceCount =
      entity.capabilities.map CapabilityEntry.evidenceCount := by
  refine map_mapAccum CapabilityEntry.evidenceCount CapabilityEntry.evidenceCount
    fun indexes entry => ?_
  unfold relabelEntry
  split
  · exact relabel_length ..
  · rfl

/-- Nothing is erased from evidence that is within its bound. -/
theorem retainedEvidence_length {registry : Registry} {request : PublicationRequest}
    {entry : CapabilityEntry}
    (h : entry.evidenceCount ≤ registry.options.maxEvidencePerCapability) :
    (retainedEvidence registry request entry).length = entry.evidenceCount := by
  have hNone : entry.evidence.length - registry.options.maxEvidencePerCapability = 0 :=
    Nat.sub_eq_zero_of_le h
  rw [retainedEvidence, trimEvidence, relabel_length, hNone, eraseRetired, relabel_length]
  rfl

/-! ## One claim -/

/-- The live records that are left to an entry fill it. -/
def CapabilityEntry.Crowded (registry : Registry) (request : PublicationRequest)
    (entry : CapabilityEntry) : Prop :=
  registry.options.maxEvidencePerCapability ≤
    liveEvidenceCount (retainedEvidence registry request entry)

/-- The claim would add a capability to an entity that holds as many as it may. -/
def Cell.Full (registry : Registry) (cell : Cell) (claim : CapabilityClaim) : Prop :=
  cell.entity.findCapability claim.capability = none ∧
    registry.options.maxCapabilitiesPerEntity ≤ cell.entity.capabilities.length

/-- A claim is refused, or its entry and its entity have room for one more record. -/
def ApplyStep.FindsRoom (registry : Registry) (request : PublicationRequest) (cell : Cell) :
    ApplyStep → Prop
  | applyClaim claim _ =>
      cell.Full registry claim ∨ (cell.target claim).Crowded registry request ∨
        ((cell.target claim).evidenceCount < registry.options.maxEvidencePerCapability ∧
          cell.entity.recordCount < registry.options.maxEvidencePerEntity)
  | _ => True

instance (registry : Registry) (request : PublicationRequest) (entry : CapabilityEntry) :
    Decidable (entry.Crowded registry request) :=
  inferInstanceAs (Decidable (_ ≤ _))

instance (registry : Registry) (cell : Cell) (claim : CapabilityClaim) :
    Decidable (cell.Full registry claim) :=
  inferInstanceAs (Decidable (_ ∧ _))

instance (registry : Registry) (request : PublicationRequest) (cell : Cell)
    (step : ApplyStep) : Decidable (step.FindsRoom registry request cell) := by
  cases step <;> unfold ApplyStep.FindsRoom <;> infer_instance

section Steps

variable {registry : Registry} {request : PublicationRequest} {cell : Cell}

/-- What a claim writes back: the entry with what was kept, and with one record more unless
it is crowded. -/
theorem applyToEntry_writes (claim : CapabilityClaim) (coverage : Coverage)
    (entry : CapabilityEntry) :
    ∃ later : CapabilityEntry,
      (applyToEntry registry request claim coverage cell entry).1.entity =
        (cell.setEntry later).entity ∧
      later.id = entry.id ∧ later.evidenceCount = (retainedEvidence registry request entry).length +
        if entry.Crowded registry request then 0 else 1 := by
  unfold applyToEntry
  dsimp only
  split
  · rename_i hCrowded
    refine ⟨_, rfl, rfl, ?_⟩
    rw [if_pos (show entry.Crowded registry request from hCrowded)]
    rfl
  · rename_i hNotCrowded
    have hRoom : ¬entry.Crowded registry request := hNotCrowded
    split
    · refine ⟨_, rfl, rfl, ?_⟩
      rw [if_neg hRoom]
      exact List.length_append
    · refine ⟨_, rfl, rfl, ?_⟩
      rw [if_neg hRoom]
      exact List.length_append

/-- The entry that is written back takes the place of the one that was found, or is added. -/
theorem setEntry_records {later entry : CapabilityEntry}
    (hEntry : cell.entity.findCapability later.id = some entry ∨
      (cell.entity.findCapability later.id = none ∧ entry.evidenceCount = 0)) :
    (cell.setEntry later).entity.recordCount + entry.evidenceCount =
      cell.entity.recordCount + later.evidenceCount := by
  show ((upsert CapabilityEntry.id later cell.entity.capabilities).map
    CapabilityEntry.evidenceCount).sum + _ = _
  rcases hEntry with hFound | ⟨hMissing, hEmpty⟩
  · exact sum_upsert hFound
  · rw [upsert_of_missing hMissing, hEmpty, List.map_append, List.sum_append]
    simp [EntityState.recordCount]

theorem setEntry_filled_iff {later entry : CapabilityEntry}
    (hFilled : cell.entity.Filled registry.options)
    (hEntry : cell.entity.findCapability later.id = some entry ∨
      (cell.entity.findCapability later.id = none ∧ entry.evidenceCount = 0 ∧
        cell.entity.capabilities.length < registry.options.maxCapabilitiesPerEntity)) :
    (cell.setEntry later).entity.Filled registry.options ↔
      later.evidenceCount ≤ registry.options.maxEvidencePerCapability ∧
        cell.entity.recordCount + later.evidenceCount ≤
          registry.options.maxEvidencePerEntity + entry.evidenceCount := by
  have hRecords := @setEntry_records cell later entry
    (hEntry.imp id fun h => ⟨h.1, h.2.1⟩)
  have hMem : later ∈ (cell.setEntry later).entity.capabilities :=
    @mem_upsert_self _ _ _ CapabilityEntry.id _ _
  constructor
  · intro h
    have hTotal := h.records
    exact ⟨h.evidence later hMem, by omega⟩
  · rintro ⟨hCount, hTotal⟩
    refine ⟨?_, fun held hHeld => ?_, by omega⟩
    · show (upsert CapabilityEntry.id later cell.entity.capabilities).length ≤ _
      rcases hEntry with hFound | ⟨hMissing, -, hRoom⟩
      · rw [length_upsert_of_mem (lookup_isSome.1 (by
          rw [show lookup _ _ _ = some entry from hFound]
          rfl))]
        exact hFilled.capabilities
      · rw [upsert_of_missing hMissing, List.length_append]
        exact hRoom
    · rcases mem_upsert hHeld with rfl | hHeld
      · exact hCount
      · exact hFilled.evidence held hHeld

/-- A claim keeps the bounds exactly when it is refused or finds room. -/
theorem applyClaim_filled_iff (claim : CapabilityClaim) (coverage : Coverage)
    (hFilled : cell.entity.Filled registry.options) :
    (applyClaim registry request claim coverage cell).1.entity.Filled registry.options ↔
      (ApplyStep.applyClaim claim coverage).FindsRoom registry request cell := by
  by_cases hFull : cell.Full registry claim
  · have hSame : (applyClaim registry request claim coverage cell).1 = cell := by
      unfold applyClaim
      rw [hFull.1]
      dsimp only
      rw [if_pos hFull.2]
    rw [hSame]
    exact iff_of_true hFilled (.inl hFull)
  · obtain ⟨hId, hTarget⟩ := target_found cell claim
    -- the claim goes to the entry it finds, or to a new one for which there is room
    have hApplied : applyClaim registry request claim coverage cell =
        applyToEntry registry request claim coverage cell (cell.target claim) := by
      unfold applyClaim
      rcases hTarget with hFound | ⟨hMissing, hBlank⟩
      · rw [hFound]
      · rw [hMissing, hBlank]
        dsimp only
        exact if_neg fun hCapabilities => hFull ⟨hMissing, hCapabilities⟩
    have hCount : (cell.target claim).evidenceCount ≤
        registry.options.maxEvidencePerCapability := by
      rcases hTarget with hFound | ⟨-, hBlank⟩
      · exact hFilled.evidence _ (lookup_mem hFound)
      · rw [hBlank]
        exact Nat.zero_le _
    obtain ⟨later, hEntity, hLater, hLaterCount⟩ := @applyToEntry_writes registry request cell
      claim coverage (cell.target claim)
    rw [retainedEvidence_length hCount] at hLaterCount
    have hWritten := @setEntry_filled_iff registry cell later (cell.target claim) hFilled (by
      rw [hLater, hId]
      refine hTarget.imp id fun ⟨hMissing, hBlank⟩ => ⟨hMissing, by rw [hBlank]; rfl, ?_⟩
      exact Nat.lt_of_not_le fun hCapabilities => hFull ⟨hMissing, hCapabilities⟩)
    have hRecords := hFilled.records
    rw [hApplied, hEntity, hWritten, ApplyStep.FindsRoom]
    by_cases hCrowded : (cell.target claim).Crowded registry request
    · rw [if_pos hCrowded] at hLaterCount
      exact iff_of_true ⟨by omega, by omega⟩ (.inr (.inl hCrowded))
    · rw [if_neg hCrowded] at hLaterCount
      constructor
      · exact fun h => .inr (.inr ⟨by omega, by omega⟩)
      · rintro (hFull' | hCrowded' | hRoom)
        · exact absurd hFull' hFull
        · exact absurd hCrowded' hCrowded
        · exact ⟨by omega, by omega⟩

/-- Every other step keeps the numbers of records. -/
theorem withdraw_counts (capability : CapabilityId) :
    (withdrawIdentityClaim request capability cell).1.entity.capabilities.map
        CapabilityEntry.evidenceCount =
      cell.entity.capabilities.map CapabilityEntry.evidenceCount := by
  unfold withdrawIdentityClaim
  split
  · rfl
  · rename_i entry hFound
    obtain rfl : entry.id = capability := lookup_key hFound
    split
    · dsimp only
      split
      · exact map_upsert hFound (relabel_length ..)
      · exact map_upsert hFound (relabel_length ..)
    · rfl

/-- A step keeps the bounds exactly when it finds room. -/
theorem step_filled_iff (step : ApplyStep) (hFilled : cell.entity.Filled registry.options) :
    (step.run registry request cell).1.entity.Filled registry.options ↔
      step.FindsRoom registry request cell := by
  cases step with
  | supersedeOtherIdentities =>
      exact iff_of_true (hFilled.of_counts (relabelEntity_counts ..)) trivial
  | supersedeIdentity =>
      exact iff_of_true (hFilled.of_counts (relabelEntity_counts ..)) trivial
  | applyClaim claim coverage => exact applyClaim_filled_iff claim coverage hFilled
  | withdrawClaim capability =>
      exact iff_of_true (hFilled.of_counts (withdraw_counts capability)) trivial
  | countSuperseded => exact iff_of_true hFilled trivial

end Steps

/-! ## The loop -/

/-- Every step finds room, up to the one that fails. -/
def StepsFindRoom (registry : Registry) (request : PublicationRequest) :
    Cell → List ApplyStep → Prop
  | _, [] => True
  | cell, step :: steps =>
      step.FindsRoom registry request cell ∧
        match step.run registry request cell with
        | (_, .error _) => True
        | (cell, .ok ()) => StepsFindRoom registry request cell steps

instance decidableStepsFindRoom (registry : Registry) (request : PublicationRequest) :
    (cell : Cell) → (steps : List ApplyStep) →
      Decidable (StepsFindRoom registry request cell steps)
  | _, [] => .isTrue trivial
  | cell, step :: steps => by
      unfold StepsFindRoom
      have hRest := fun cell => decidableStepsFindRoom registry request cell steps
      split <;> infer_instance

theorem runSteps_filled {registry : Registry} {request : PublicationRequest} {cell : Cell}
    {steps : List ApplyStep} (hFilled : cell.entity.Filled registry.options)
    (hRoom : StepsFindRoom registry request cell steps) :
    (runSteps registry request cell steps).1.entity.Filled registry.options := by
  induction steps generalizing cell with
  | nil => exact hFilled
  | cons step steps ih =>
      obtain ⟨hStep, hRest⟩ := hRoom
      have hNext := (step_filled_iff step hFilled).2 hStep
      rw [runSteps]
      split
      · rename_i next e hRun
        rw [hRun] at hNext
        exact hNext
      · rename_i next hRun
        rw [hRun] at hNext hRest
        exact ih hNext hRest

end FabricCapability.Ports
