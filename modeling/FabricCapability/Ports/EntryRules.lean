import FabricCapability.Ports.EntityRules

/-!
# Rules for the entries of a publication

What the steps of stage 10 do to the entries of the entity, said once.  A step keeps every
entry in place and changes some of them in one of six ways (`EntryChange`); a claim for a
capability without an entry adds one.  A preorder on entries that every change respects is
respected by the whole loop.

The operations that demote evidence relabel records as well (`relabelEntity_grows`).

## Main results

* `run_grows`: one step.
* `runSteps_grows`: the loop of stage 10.
* `applySteps_from`: which part of the request each step comes from.
-/

namespace FabricCapability.Ports

open FabricCapability.Verified.KeyedList

/-! ## Changes of an entry -/

/-- The entry with a fresh resolution. -/
def Cell.resolved (cell : Cell) (entry : CapabilityEntry) : CapabilityEntry :=
  { entry with
    resolution := computeResolution cell.entity.id cell.entity.boundGeneration entry }

/-- The records that a superseding step relabels. -/
def ApplyStep.supersedes (request : PublicationRequest) :
    ApplyStep → Option (EvidenceRecord → Bool)
  | supersedeOtherIdentities => some fun record =>
      !(record.publisher == request.authority.publisher &&
        record.workerBoot == request.authority.workerBoot) &&
        record.durability != .durable && !isRetired record.currentness
  | supersedeIdentity => some (liveOf request.sourceKey)
  | _ => none

/-- The evidence that `ApplyClaim` keeps. -/
def retainedEvidence (registry : Registry) (request : PublicationRequest)
    (entry : CapabilityEntry) : List EvidenceRecord :=
  trimEvidence registry.options.maxEvidencePerCapability
    (relabel (liveOf request.sourceKey) .superseded request.reason entry.evidence)

/-- The record that `ApplyClaim` appends to an entry. -/
def appendedRecord (registry : Registry) (request : PublicationRequest) (cell : Cell)
    (claim : CapabilityClaim) (coverage : Coverage) (entry : CapabilityEntry) :
    EvidenceRecord :=
  newRecord registry request cell claim coverage
    (nextEvidenceGeneration entry request.sourceKey)

/-- The entry that a claim is applied to. -/
def Cell.target (cell : Cell) (claim : CapabilityClaim) : CapabilityEntry :=
  (cell.entity.findCapability claim.capability).getD { id := claim.capability }

/-- The ways a step changes an entry; the flag tells whether the step succeeds. -/
inductive EntryChange (registry : Registry) (request : PublicationRequest) (cell : Cell) :
    ApplyStep → Bool → CapabilityEntry → CapabilityEntry → Prop
  | superseded {step : ApplyStep} {matching : EvidenceRecord → Bool}
      {entry : CapabilityEntry} (selects : step.supersedes request = some matching)
      (touches : entry.evidence.any matching = true) :
      EntryChange registry request cell step true entry
        (cell.resolved { entry with
          evidence := relabel matching .superseded request.reason entry.evidence
          generation := nextOrSame entry.generation })
  | withdrawn {entry : CapabilityEntry} {next : CapabilityGeneration}
      (touches : entry.evidence.any (liveOf request.sourceKey) = true)
      (advances : counterNext entry.generation = .ok next) :
      EntryChange registry request cell (.withdrawClaim entry.id) true entry
        (cell.resolved { entry with
          evidence :=
            relabel (liveOf request.sourceKey) .superseded request.reason entry.evidence
          generation := next })
  | unwithdrawn {entry : CapabilityEntry} {e : Error}
      (exhausted : counterNext entry.generation = .error e) :
      EntryChange registry request cell (.withdrawClaim entry.id) false entry
        { entry with
          evidence :=
            relabel (liveOf request.sourceKey) .superseded request.reason entry.evidence }
  | trimmed {claim : CapabilityClaim} {coverage : Coverage} :
      EntryChange registry request cell (.applyClaim claim coverage) false (cell.target claim)
        { cell.target claim with
          evidence := retainedEvidence registry request (cell.target claim) }
  | unapplied {claim : CapabilityClaim} {coverage : Coverage} {e : Error}
      (exhausted : counterNext (cell.target claim).generation = .error e) :
      EntryChange registry request cell (.applyClaim claim coverage) false (cell.target claim)
        { cell.target claim with
          evidence := retainedEvidence registry request (cell.target claim) ++
            [appendedRecord registry request cell claim coverage (cell.target claim)] }
  | applied {claim : CapabilityClaim} {coverage : Coverage} {next : CapabilityGeneration}
      (advances : counterNext (cell.target claim).generation = .ok next) :
      EntryChange registry request cell (.applyClaim claim coverage) true (cell.target claim)
        (cell.resolved { cell.target claim with
          evidence := retainedEvidence registry request (cell.target claim) ++
            [appendedRecord registry request cell claim coverage (cell.target claim)]
          generation := next })

/-- An entry as a claim creates it. -/
def BlankEntry (entry : CapabilityEntry) : Prop := ∃ id, entry = { id }

/-- The entries of `a` are in `b`, each related to what it was. -/
def EntriesGrow (R : CapabilityEntry → CapabilityEntry → Prop) (a b : EntityState) : Prop :=
  Grows CapabilityEntry.id R BlankEntry a.capabilities b.capabilities

/-! ## Records -/

theorem mem_relabel {matching : EvidenceRecord → Bool} {currentness : EvidenceCurrentness}
    {reason : ReasonToken} {evidence : List EvidenceRecord} {record : EvidenceRecord}
    (h : record ∈ relabel matching currentness reason evidence) :
    ∃ held ∈ evidence, record = held ∨ record = { held with currentness, reason } := by
  obtain ⟨held, hHeld, rfl⟩ := List.mem_map.1 h
  refine ⟨held, hHeld, ?_⟩
  split
  · exact .inr rfl
  · exact .inl rfl

theorem relabel_of_none {matching : EvidenceRecord → Bool} {evidence : List EvidenceRecord}
    (h : evidence.any matching = false) (currentness : EvidenceCurrentness)
    (reason : ReasonToken) : relabel matching currentness reason evidence = evidence := by
  have hNone : ∀ record ∈ evidence, ¬matching record = true := List.any_eq_false.1 h
  calc relabel matching currentness reason evidence
      = evidence.map id := List.map_congr_left fun record hMem => if_neg (hNone record hMem)
    _ = evidence := List.map_id evidence

theorem eraseRetired_sublist (n : Nat) (evidence : List EvidenceRecord) :
    (eraseRetired n evidence).Sublist evidence := by
  induction evidence generalizing n with
  | nil => cases n <;> exact List.Sublist.refl _
  | cons record evidence ih =>
      cases n with
      | zero => exact List.Sublist.refl _
      | succ n =>
          rw [eraseRetired]
          split
          · exact (ih n).cons _
          · exact (ih (n + 1)).cons_cons _

theorem trimEvidence_sublist (bound : Nat) (evidence : List EvidenceRecord) :
    (trimEvidence bound evidence).Sublist evidence :=
  eraseRetired_sublist _ _

/-! ## One step -/

section Steps

variable {R : CapabilityEntry → CapabilityEntry → Prop} {registry : Registry}
  {request : PublicationRequest} {cell : Cell}

theorem relabelEntry_id (entity : EntityId) (bound : EntityGeneration)
    (matching : EvidenceRecord → Bool) (currentness : EvidenceCurrentness)
    (reason : ReasonToken) (indexes : Indexes) (entry : CapabilityEntry) :
    (relabelEntry entity bound matching currentness reason indexes entry).2.id = entry.id := by
  unfold relabelEntry
  split <;> rfl

/-- An entry that is not touched would be relabelled to itself. -/
theorem relabelEntry_evidence {matching : EvidenceRecord → Bool}
    {currentness : EvidenceCurrentness} {reason : ReasonToken} (entity : EntityId) (bound : EntityGeneration)
    (indexes : Indexes) (entry : CapabilityEntry) :
    (relabelEntry entity bound matching currentness reason indexes entry).2.evidence =
      relabel matching currentness reason entry.evidence := by
  unfold relabelEntry
  split
  · rw [resolveCapability_snd]
  · rename_i hNone
    exact (relabel_of_none (Bool.not_eq_true _ ▸ hNone) _ _).symm

/-- Relabelling the records of an entity. -/
theorem relabelEntity_grows {matching : EvidenceRecord → Bool}
    {currentness : EvidenceCurrentness} {reason : ReasonToken} {indexes : Indexes}
    {entity : EntityState} (hRefl : ∀ entry, R entry entry)
    (hChange : ∀ entry, entry.evidence.any matching = true →
      R entry { entry with
        evidence := relabel matching currentness reason entry.evidence
        generation := nextOrSame entry.generation
        resolution := computeResolution entity.id entity.boundGeneration { entry with
          evidence := relabel matching currentness reason entry.evidence
          generation := nextOrSame entry.generation } }) :
    EntriesGrow R entity (relabelEntity matching currentness reason indexes entity).2 := by
  refine Grows.mapAccum indexes fun entry _ indexes => ⟨relabelEntry_id .., ?_⟩
  unfold relabelEntry
  split
  · rename_i hTouched
    exact hChange entry hTouched
  · exact hRefl entry

/-- Writing back a changed entry: the one that is found, or a new one. -/
theorem setEntry_grows (hRefl : ∀ entry, R entry entry) {entry later : CapabilityEntry}
    (hFound : cell.entity.findCapability later.id = some entry ∨
      (cell.entity.findCapability later.id = none ∧ entry = { id := later.id }))
    (h : R entry later) : EntriesGrow R cell.entity (cell.setEntry later).entity := by
  show Grows CapabilityEntry.id R BlankEntry cell.entity.capabilities
    (upsert CapabilityEntry.id later cell.entity.capabilities)
  rcases hFound with hFound | ⟨hMissing, rfl⟩
  · exact Grows.upsert hRefl hFound h
  · rw [upsert_of_missing hMissing]
    exact Grows.append hRefl _ ⟨_, ⟨_, rfl⟩, rfl, h⟩

theorem target_found (cell : Cell) (claim : CapabilityClaim) :
    (cell.target claim).id = claim.capability ∧
    (cell.entity.findCapability claim.capability = some (cell.target claim) ∨
      (cell.entity.findCapability claim.capability = none ∧
        cell.target claim = { id := claim.capability })) := by
  unfold Cell.target
  cases hFound : cell.entity.findCapability claim.capability with
  | none => exact ⟨rfl, .inr ⟨rfl, rfl⟩⟩
  | some entry => exact ⟨lookup_key hFound, .inl rfl⟩

theorem applyToEntry_grows {claim : CapabilityClaim} {coverage : Coverage}
    (hRefl : ∀ entry, R entry entry)
    (hChange : ∀ ok entry later,
      EntryChange registry request cell (.applyClaim claim coverage) ok entry later →
      ok = (applyToEntry registry request claim coverage cell (cell.target claim)).2.isOk →
      R entry later) :
    EntriesGrow R cell.entity
      (applyToEntry registry request claim coverage cell (cell.target claim)).1.entity := by
  obtain ⟨hId, hFound⟩ := target_found cell claim
  revert hChange
  unfold applyToEntry
  dsimp only
  split
  · intro hChange
    exact setEntry_grows hRefl (by simpa [hId] using hFound) (hChange _ _ _ .trimmed rfl)
  · split
    · rename_i e hExhausted
      intro hChange
      exact @setEntry_grows R { cell with arrivalSequence := _ } hRefl _ _
        (by simpa [hId] using hFound) (hChange _ _ _ (.unapplied hExhausted) rfl)
    · rename_i next hNext
      intro hChange
      exact @setEntry_grows R { cell with indexes := _, arrivalSequence := _ } hRefl _ _
        (by simpa [hId] using hFound) (hChange _ _ _ (.applied hNext) rfl)

theorem applyClaim_grows {claim : CapabilityClaim} {coverage : Coverage}
    (hRefl : ∀ entry, R entry entry)
    (hChange : ∀ ok entry later,
      EntryChange registry request cell (.applyClaim claim coverage) ok entry later →
      ok = (applyClaim registry request claim coverage cell).2.isOk → R entry later) :
    EntriesGrow R cell.entity (applyClaim registry request claim coverage cell).1.entity := by
  have hTarget : ∀ entry, cell.target claim = entry → (∀ ok entry' later,
      EntryChange registry request cell (.applyClaim claim coverage) ok entry' later →
      ok = (applyToEntry registry request claim coverage cell entry).2.isOk → R entry' later) →
      EntriesGrow R cell.entity
        (applyToEntry registry request claim coverage cell entry).1.entity := by
    rintro entry rfl hRule
    exact applyToEntry_grows hRefl hRule
  revert hChange
  unfold applyClaim
  split
  · rename_i entry hFound
    exact hTarget entry (by rw [Cell.target, hFound]; rfl)
  · rename_i hMissing
    split
    · exact fun _ => Grows.refl hRefl _
    · exact hTarget _ (by rw [Cell.target, hMissing]; rfl)

theorem resolveEntry_find {entry : CapabilityEntry} {capability : CapabilityId}
    (h : entry.id = capability) :
    (cell.resolveEntry entry).entity.findCapability capability = some (cell.resolved entry) :=
  h ▸ lookup_upsert_self (a := cell.resolved entry)

/-- The entry that a claim leaves, at its next generation. -/
def Cell.appliedEntry (registry : Registry) (request : PublicationRequest) (cell : Cell)
    (claim : CapabilityClaim) (coverage : Coverage) (entry : CapabilityEntry)
    (next : CapabilityGeneration) : CapabilityEntry :=
  cell.resolved { entry with
    evidence := retainedEvidence registry request entry ++
      [appendedRecord registry request cell claim coverage entry]
    generation := next }

/-- A claim that is applied writes back the entry of its capability. -/
theorem applyClaim_upserts {claim : CapabilityClaim} {coverage : Coverage}
    (h : (applyClaim registry request claim coverage cell).2 = .ok ()) :
    ∃ next, counterNext (cell.target claim).generation = .ok next ∧
      (applyClaim registry request claim coverage cell).1.entity.capabilities =
        upsert CapabilityEntry.id
          (cell.appliedEntry registry request claim coverage (cell.target claim) next)
          cell.entity.capabilities := by
  have hTarget : ∀ entry, cell.target claim = entry →
      (applyToEntry registry request claim coverage cell entry).2 = .ok () →
      ∃ next, counterNext entry.generation = .ok next ∧
        (applyToEntry registry request claim coverage cell entry).1.entity.capabilities =
          upsert CapabilityEntry.id
            (cell.appliedEntry registry request claim coverage entry next)
            cell.entity.capabilities := by
    rintro entry rfl hOk
    revert hOk
    unfold applyToEntry
    dsimp only
    split
    · exact fun hOk => by cases hOk
    · split
      · exact fun hOk => by cases hOk
      · rename_i next hNext
        exact fun _ => ⟨next, hNext, rfl⟩
  revert h
  unfold applyClaim
  split
  · rename_i entry hFound
    have hEntry : cell.target claim = entry := by rw [Cell.target, hFound]; rfl
    rw [hEntry]
    exact hTarget entry hEntry
  · rename_i hMissing
    split
    · exact fun hOk => by cases hOk
    · have hEntry : cell.target claim = { id := claim.capability } := by
        rw [Cell.target, hMissing]
        rfl
      rw [hEntry]
      exact hTarget _ hEntry

/-- What a claim that is applied leaves in the entry of its capability. -/
theorem applyClaim_ok {claim : CapabilityClaim} {coverage : Coverage}
    (h : (applyClaim registry request claim coverage cell).2 = .ok ()) :
    ∃ next, counterNext (cell.target claim).generation = .ok next ∧
      (applyClaim registry request claim coverage cell).1.entity.findCapability
          claim.capability =
        some (cell.resolved { cell.target claim with
          evidence := retainedEvidence registry request (cell.target claim) ++
            [appendedRecord registry request cell claim coverage (cell.target claim)]
          generation := next }) := by
  obtain ⟨next, hNext, hWritten⟩ := applyClaim_upserts h
  refine ⟨next, hNext, ?_⟩
  have hId : (cell.appliedEntry registry request claim coverage (cell.target claim) next).id =
      claim.capability := (target_found cell claim).1
  rw [EntityState.findCapability, hWritten, ← hId]
  exact lookup_upsert_self

theorem withdrawIdentityClaim_grows {capability : CapabilityId}
    (hRefl : ∀ entry, R entry entry)
    (hChange : ∀ ok entry later,
      EntryChange registry request cell (.withdrawClaim capability) ok entry later →
      ok = (withdrawIdentityClaim request capability cell).2.isOk → R entry later) :
    EntriesGrow R cell.entity (withdrawIdentityClaim request capability cell).1.entity := by
  revert hChange
  unfold withdrawIdentityClaim
  split
  · exact fun _ => Grows.refl hRefl _
  · rename_i entry hFound
    obtain rfl : entry.id = capability := lookup_key hFound
    split
    · rename_i hTouched
      dsimp only
      split
      · rename_i e hExhausted
        intro hChange
        exact setEntry_grows hRefl (.inl hFound) (hChange _ _ _ (.unwithdrawn hExhausted) rfl)
      · rename_i next hNext
        intro hChange
        exact @setEntry_grows R { cell with indexes := _ } hRefl _ _ (.inl hFound)
          (hChange _ _ _ (.withdrawn hTouched hNext) rfl)
    · exact fun _ => Grows.refl hRefl _

/-- One step changes the entries in the ways of `EntryChange` only. -/
theorem ApplyStep.run_grows {step : ApplyStep} (hRefl : ∀ entry, R entry entry)
    (hChange : ∀ ok entry later, EntryChange registry request cell step ok entry later →
      ok = (step.run registry request cell).2.isOk → R entry later) :
    EntriesGrow R cell.entity (step.run registry request cell).1.entity := by
  cases step with
  | supersedeOtherIdentities =>
      exact relabelEntity_grows hRefl fun entry hTouched =>
        hChange true _ _ (.superseded rfl hTouched) rfl
  | supersedeIdentity =>
      exact relabelEntity_grows hRefl fun entry hTouched =>
        hChange true _ _ (.superseded rfl hTouched) rfl
  | applyClaim claim coverage => exact applyClaim_grows hRefl hChange
  | withdrawClaim capability => exact withdrawIdentityClaim_grows hRefl hChange
  | countSuperseded => exact Grows.refl hRefl _

end Steps

/-! ## The loop -/

/-- The loop of stage 10: a preorder that the changes of its steps respect. -/
theorem runSteps_grows {R : CapabilityEntry → CapabilityEntry → Prop} {registry : Registry}
    {request : PublicationRequest} {steps : List ApplyStep} {cell : Cell}
    (hRefl : ∀ entry, R entry entry) (hTrans : ∀ a b c, R a b → R b c → R a c)
    (hChange : ∀ later, SameEntity cell.entity later.entity → ∀ step ∈ steps, ∀ ok entry entry',
      EntryChange registry request later step ok entry entry' → R entry entry') :
    EntriesGrow R cell.entity (runSteps registry request cell steps).1.entity := by
  have hStep : ∀ step ∈ steps, ∀ later,
      (SameEntity cell.entity later.entity ∧ EntriesGrow R cell.entity later.entity) →
      SameEntity cell.entity (step.run registry request later).1.entity ∧
        EntriesGrow R cell.entity (step.run registry request later).1.entity := by
    rintro step hMem later ⟨hSame, hGrows⟩
    refine ⟨hSame.trans (step.run_entity registry request later), ?_⟩
    exact Grows.trans hTrans hGrows (ApplyStep.run_grows hRefl fun ok entry entry' hStep _ =>
      hChange later hSame step hMem ok entry entry' hStep)
  exact (runSteps_preserves registry request hStep
    ⟨SameEntity.refl _, Grows.refl hRefl _⟩).2

/-- What a new entry has, and what every change keeps, all entries have. -/
theorem EntriesGrow.invariant {J : CapabilityEntry → Prop} {a b : EntityState}
    (h : EntriesGrow (fun entry later => J entry → J later) a b)
    (hBlank : ∀ id, J { id }) (hAll : ∀ entry ∈ a.capabilities, J entry) :
    ∀ entry ∈ b.capabilities, J entry := by
  intro entry hMem
  rcases Grows.mem h hMem with ⟨held, hHeld, -, hLater⟩ | ⟨_, ⟨id, rfl⟩, -, hLater⟩
  · exact hLater (hAll held hHeld)
  · exact hLater (hBlank id)

/-- An entry that is found is found later, at a related version. -/
theorem EntriesGrow.find {R : CapabilityEntry → CapabilityEntry → Prop} {a b : EntityState}
    (h : EntriesGrow R a b) {capability : CapabilityId} {entry : CapabilityEntry}
    (hFound : a.findCapability capability = some entry) :
    ∃ later, b.findCapability capability = some later ∧ R entry later :=
  Grows.find h hFound

/-! ## Invariants of all entries -/

/-- Every entry of the entity satisfies `J`. -/
def AllEntries (J : CapabilityEntry → Prop) (entity : EntityState) : Prop :=
  ∀ entry ∈ entity.capabilities, J entry

section AllEntries

variable {J : CapabilityEntry → Prop}

/-- An invariant of entries that relabelling keeps is kept by all operations. -/
theorem allEntries_rule (hBlank : ∀ id, J { id })
    (hRelabel : ∀ id bound matching currentness reason entry, J entry →
      entry.evidence.any matching = true →
      J { entry with
        evidence := relabel matching currentness reason entry.evidence
        generation := nextOrSame entry.generation
        resolution := computeResolution id bound { entry with
          evidence := relabel matching currentness reason entry.evidence
          generation := nextOrSame entry.generation } }) :
    EntityRule fun a b => AllEntries J a → AllEntries J b where
  refl _ := id
  trans _ _ _ hab hbc := hbc ∘ hab
  retired _ _ _ _ _ _ _ _ := fun _ hMem => by cases hMem
  exhausted _ _ _ := id
  committed _ _ entity next request hAdvance hAll := by
    rw [AllEntries, committedEntity_capabilities, (advanceGenerations_ok hAdvance).2.1]
    exact hAll
  observed _ _ _ _ := id
  relabelled matching currentness reason indexes entity hAll := by
    refine EntriesGrow.invariant (relabelEntity_grows (fun _ => id) ?_) hBlank hAll
    exact fun entry hTouched hEntry => hRelabel _ _ _ _ _ entry hEntry hTouched
  flagged _ _ := id
  refreshed _ _ _ := id

/-- An invariant of entries that the changes of stage 10 keep. -/
theorem allEntries_applies (hBlank : ∀ id, J { id })
    (hChange : ∀ registry request cell step ok entry later,
      EntryChange registry request cell step ok entry later → J entry → J later)
    (registry : Registry) (request : PublicationRequest) :
    AppliesWithin (fun a b => AllEntries J a → AllEntries J b) registry request := by
  intro _ grant bound entity _ _ _ hAll
  have hGrows : EntriesGrow (fun entry later => J entry → J later) (bound.cell entity).entity
      (runSteps bound request (bound.cell entity)
        (applySteps bound.schema grant request)).1.entity :=
    runSteps_grows (fun _ => id) (fun _ _ _ hab hbc => hbc ∘ hab)
      fun later _ step _ ok entry entry' hStep => hChange _ _ _ _ _ _ _ hStep
  exact hGrows.invariant hBlank hAll

end AllEntries

/-! ## Where the steps come from -/

/-- The steps of a request, each with the part of the request that asks for it. -/
inductive StepFrom (schema : CapabilitySchema) (grant : AuthorityGrant)
    (request : PublicationRequest) : ApplyStep → Prop
  | others (mode : request.mode = .fullSnapshot) (exclusive : grant.exclusive = true) :
      StepFrom schema grant request .supersedeOtherIdentities
  | identity (mode : request.mode = .fullSnapshot) :
      StepFrom schema grant request .supersedeIdentity
  | claim {claim : CapabilityClaim} (mode : request.mode ≠ .incremental)
      (mem : claim ∈ request.claims) :
      StepFrom schema grant request (.applyClaim claim request.coverage)
  | absence {absence : CapabilityClaim} (mode : request.mode = .fullSnapshot)
      (exclusive : grant.exclusive = true) (full : request.coverage = .fullEnumeration)
      (mem : absence ∈ absenceClaims schema grant request) :
      StepFrom schema grant request (.applyClaim absence .fullEnumeration)
  | withdrawal {edit : IncrementalEdit} (mode : request.mode = .incremental)
      (mem : edit ∈ request.edits) (operation : edit.operation = .withdrawClaim) :
      StepFrom schema grant request (.withdrawClaim edit.capability)
  | supersession {edit : IncrementalEdit} {step : ApplyStep} (mode : request.mode = .incremental)
      (mem : edit ∈ request.edits) (operation : edit.operation = .supersedeSourceEvidence)
      (counts : step = .supersedeIdentity ∨ step = .countSuperseded) :
      StepFrom schema grant request step
  | edit {edit : IncrementalEdit} (mode : request.mode = .incremental)
      (mem : edit ∈ request.edits) (kept : edit.operation ≠ .withdrawClaim)
      (own : edit.operation ≠ .supersedeSourceEvidence) :
      StepFrom schema grant request (.applyClaim edit.effectiveClaim edit.claim.coverage)

theorem incrementalSteps_from {schema : CapabilitySchema} {grant : AuthorityGrant}
    {request : PublicationRequest} (hMode : request.mode = .incremental)
    {superseded : Bool} {edits : List IncrementalEdit} (hEdits : edits ⊆ request.edits) :
    ∀ step ∈ incrementalSteps superseded edits, StepFrom schema grant request step := by
  induction edits generalizing superseded with
  | nil =>
      intro step hMem
      cases hMem
  | cons edit edits ih =>
      rw [List.cons_subset] at hEdits
      obtain ⟨hHere, hRest⟩ := hEdits
      intro step hMem
      rw [incrementalSteps] at hMem
      split at hMem
      · rename_i hWithdraws
        rcases List.mem_cons.1 hMem with rfl | hMem
        · exact .withdrawal hMode hHere hWithdraws
        · exact ih hRest step hMem
      · rename_i hSupersedes
        split at hMem
        · rcases List.mem_cons.1 hMem with rfl | hMem
          · exact .supersession hMode hHere hSupersedes (.inr rfl)
          · exact ih hRest step hMem
        · rcases List.mem_cons.1 hMem with rfl | hMem
          · exact .supersession hMode hHere hSupersedes (.inl rfl)
          · rcases List.mem_cons.1 hMem with rfl | hMem
            · exact .supersession hMode hHere hSupersedes (.inr rfl)
            · exact ih hRest step hMem
      · rename_i hKept hOwn
        rcases List.mem_cons.1 hMem with rfl | hMem
        · exact .edit hMode hHere hKept hOwn
        · exact ih hRest step hMem

theorem applySteps_from {schema : CapabilitySchema} {grant : AuthorityGrant}
    {request : PublicationRequest} :
    ∀ step ∈ applySteps schema grant request, StepFrom schema grant request step := by
  intro step hMem
  unfold applySteps at hMem
  split at hMem
  · rename_i hMode
    unfold fullSnapshotSteps at hMem
    rw [List.mem_append, List.mem_append, List.mem_append] at hMem
    rcases hMem with ((hOthers | hIdentity) | hClaim) | hAbsent
    · split at hOthers
      · rename_i hExclusive
        rw [List.mem_singleton.1 hOthers]
        exact .others hMode hExclusive
      · cases hOthers
    · rw [List.mem_singleton.1 hIdentity]
      exact .identity hMode
    · obtain ⟨claim, hHeld, rfl⟩ := List.mem_map.1 hClaim
      exact .claim (by rw [hMode]; exact nofun) hHeld
    · split at hAbsent
      · rename_i hFull
        rw [Bool.and_eq_true, beq_iff_eq] at hFull
        obtain ⟨absence, hHeld, rfl⟩ := List.mem_map.1 hAbsent
        exact .absence hMode hFull.1 hFull.2 hHeld
      · cases hAbsent
  · rename_i hMode
    obtain ⟨claim, hHeld, rfl⟩ := List.mem_map.1 hMem
    exact .claim (by rw [hMode]; exact nofun) hHeld
  · rename_i hMode
    exact incrementalSteps_from hMode (List.Subset.refl _) step hMem

end FabricCapability.Ports
