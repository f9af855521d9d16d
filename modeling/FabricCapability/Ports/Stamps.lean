import FabricCapability.Ports.EntryRules
import FabricCapability.Ports.ResolutionRule

/-!
# Stamps

Some numbers only say when something happened: the arrival number of a record and the registry
generation that it was accepted at, the registry generation that an entity was last touched at,
that its set was materialised at and that a generation of it was retired at.  `timeless` erases
them.

Nothing that a publication does to an entity looks at them: two runs of the same steps from
entities that differ in their stamps end alike, up to stamps.

## Main results

* `computeResolution_timeless`: no resolution looks at the stamps of the evidence.
* `runSteps_timeless`: the steps of stage 10 from cells that differ in stamps.
* `commit_timeless`: stage 11 from registries that differ in stamps.
-/

namespace FabricCapability.Ports

open FabricCapability.Verified.KeyedList
open FabricCapability.Verified.StrictOrder

/-! ## Erasing the stamps -/

def EvidenceRecord.timeless (record : EvidenceRecord) : EvidenceRecord :=
  { record with arrivalSequence := 0, acceptedGeneration := 0 }

def CapabilityEntry.timeless (entry : CapabilityEntry) : CapabilityEntry :=
  { entry with evidence := entry.evidence.map EvidenceRecord.timeless }

def EntityCapabilitySet.timeless (set : EntityCapabilitySet) : EntityCapabilitySet :=
  { set with registryGeneration := 0 }

def RetainedGeneration.timeless (retained : RetainedGeneration) : RetainedGeneration :=
  { retained with summary := { retained.summary with retiredAt := 0 } }

def EntityState.timeless (entity : EntityState) : EntityState :=
  { entity with
    capabilities := entity.capabilities.map CapabilityEntry.timeless
    set := entity.set.map EntityCapabilitySet.timeless
    history := entity.history.map RetainedGeneration.timeless
    touchedAt := 0 }

/-- What an erasure keeps is the same for two values that it makes the same. -/
theorem eq_of_erased {α β : Type} (erase : α → α) (f : α → β)
    (hKept : ∀ a, f (erase a) = f a) {a b : α} (h : erase a = erase b) : f a = f b := by
  rw [← hKept a, h, hKept b]

@[simp] theorem EntityState.timeless_id (entity : EntityState) :
    entity.timeless.id = entity.id := rfl

@[simp] theorem CapabilityEntry.timeless_id (entry : CapabilityEntry) :
    entry.timeless.id = entry.id := rfl

/-! ## Resolutions -/

section Evidence

variable {evidence : List EvidenceRecord}

theorem pickDeterministic_timeless (records : List EvidenceRecord) :
    pickDeterministic (records.map EvidenceRecord.timeless) =
      (pickDeterministic records).map EvidenceRecord.timeless := by
  have hFrom : ∀ (records : List EvidenceRecord) (best : EvidenceRecord),
      pickFrom best.timeless (records.map EvidenceRecord.timeless) =
        (pickFrom best records).timeless := by
    intro records
    induction records with
    | nil => exact fun _ => rfl
    | cons record records ih =>
        intro best
        rw [List.map_cons, pickFrom, pickFrom, ← ih]
        show pickFrom (if outranks record best then _ else _) _ = _
        split <;> rfl
  cases records with
  | nil => rfl
  | cons record records => exact congrArg some (hFrom records record)

theorem distinctClaims_timeless (seen records : List EvidenceRecord) :
    distinctClaims (seen.map EvidenceRecord.timeless) (records.map EvidenceRecord.timeless) =
      distinctClaims seen records := by
  induction records generalizing seen with
  | nil => rfl
  | cons record records ih =>
      have hRest := ih (seen ++ [record])
      rw [List.map_append] at hRest
      have hSeen : (seen.map EvidenceRecord.timeless).any
          (fun earlier => sameClaim earlier record.timeless) =
            seen.any fun earlier => sameClaim earlier record := by
        rw [List.any_map]
        rfl
      rw [List.map_cons, distinctClaims, distinctClaims, hSeen]
      rw [show [record.timeless] = [record].map EvidenceRecord.timeless from rfl, hRest]
      rfl

theorem filter_timeless {p : EvidenceRecord → Bool}
    (h : ∀ record : EvidenceRecord, p record.timeless = p record) :
    (evidence.map EvidenceRecord.timeless).filter p =
      (evidence.filter p).map EvidenceRecord.timeless := by
  rw [List.filter_map]
  congr 1
  exact List.filter_congr fun record _ => h record

theorem livePool_timeless :
    livePool (evidence.map EvidenceRecord.timeless) =
      (livePool evidence).map EvidenceRecord.timeless := by
  rw [livePool, livePool, List.map_append, filter_timeless fun _ => rfl,
    filter_timeless fun _ => rfl]

theorem strongestRecords_timeless :
    strongestRecords (evidence.map EvidenceRecord.timeless) =
      (strongestRecords evidence).map EvidenceRecord.timeless := by
  have hRank : strongestRank ((livePool evidence).map EvidenceRecord.timeless) =
      strongestRank (livePool evidence) := List.foldl_map
  rw [strongestRecords, strongestRecords, livePool_timeless, hRank]
  exact filter_timeless fun _ => rfl

theorem decidingRecords_timeless :
    decidingRecords (evidence.map EvidenceRecord.timeless) =
      (decidingRecords evidence).map EvidenceRecord.timeless := by
  rw [decidingRecords, decidingRecords, strongestRecords_timeless]
  exact filter_timeless fun _ => rfl

end Evidence

/-- No resolution looks at the stamps of the evidence. -/
theorem computeResolution_timeless (entity : EntityId) (bound : EntityGeneration)
    (entry : CapabilityEntry) :
    computeResolution entity bound entry.timeless = computeResolution entity bound entry := by
  have hCounted : entry.timeless.counted entity bound = entry.counted entity bound := by
    unfold CapabilityEntry.counted CapabilityEntry.timeless
    dsimp only
    rw [livePool_timeless, strongestRecords_timeless]
    have hFilter : ∀ label : EvidenceCurrentness → Bool,
        (entry.evidence.map EvidenceRecord.timeless).filter
            (fun record => label record.currentness) =
          (entry.evidence.filter fun record => label record.currentness).map
            EvidenceRecord.timeless := fun label => filter_timeless fun _ => rfl
    rw [hFilter, hFilter, hFilter]
    simp only [List.length_map, List.isEmpty_map]
  rw [computeResolution_eq, computeResolution_eq, hCounted]
  unfold CapabilityEntry.timeless
  dsimp only
  rw [strongestRecords_timeless, decidingRecords_timeless, pickDeterministic_timeless,
    pickDeterministic_timeless]
  cases pickDeterministic (strongestRecords entry.evidence) with
  | none => rfl
  | some first =>
      cases pickDeterministic (decidingRecords entry.evidence) with
      | none => rfl
      | some winner =>
          have hAll : ((decidingRecords entry.evidence).map EvidenceRecord.timeless).all
              (fun record => sameClaim record winner.timeless) =
                (decidingRecords entry.evidence).all fun record => sameClaim record winner := by
            rw [List.all_map]
            rfl
          have hDistinct : distinctClaims []
              ((decidingRecords entry.evidence).map EvidenceRecord.timeless) =
                distinctClaims [] (decidingRecords entry.evidence) := distinctClaims_timeless [] _
          dsimp only [Option.map_some]
          rw [hAll, hDistinct]
          rfl

/-! ## Mutating the evidence -/

/-- A record matches whatever its stamps. -/
def IgnoresStamps (matching : EvidenceRecord → Bool) : Prop :=
  ∀ record : EvidenceRecord, matching record.timeless = matching record

section Mutation

variable {matching : EvidenceRecord → Bool} {currentness : EvidenceCurrentness}
  {reason : ReasonToken}

theorem relabel_timeless (h : IgnoresStamps matching) (evidence : List EvidenceRecord) :
    (relabel matching currentness reason evidence).map EvidenceRecord.timeless =
      relabel matching currentness reason (evidence.map EvidenceRecord.timeless) := by
  unfold relabel
  rw [List.map_map, List.map_map]
  refine List.map_congr_left fun record _ => ?_
  simp only [Function.comp, h record]
  split <;> rfl

theorem any_timeless (h : IgnoresStamps matching) (evidence : List EvidenceRecord) :
    (evidence.map EvidenceRecord.timeless).any matching = evidence.any matching := by
  rw [List.any_map]
  exact congrArg evidence.any (funext h)

theorem relabelEntry_timeless (h : IgnoresStamps matching) (entity : EntityId)
    (bound : EntityGeneration) (indexes other : Indexes) (entry : CapabilityEntry) :
    (relabelEntry entity bound matching currentness reason indexes entry).2.timeless =
      (relabelEntry entity bound matching currentness reason other entry.timeless).2 := by
  have hAny : entry.timeless.evidence.any matching = entry.evidence.any matching :=
    any_timeless h entry.evidence
  unfold relabelEntry
  rw [hAny]
  split
  · have hEntry : ({ entry with
        evidence := relabel matching currentness reason entry.evidence
        generation := nextOrSame entry.generation } : CapabilityEntry).timeless =
        { entry.timeless with
          evidence := relabel matching currentness reason entry.timeless.evidence
          generation := nextOrSame entry.timeless.generation } := by
      unfold CapabilityEntry.timeless
      dsimp only
      rw [relabel_timeless h]
    rw [resolveCapability_snd, resolveCapability_snd, ← hEntry, computeResolution_timeless,
      hEntry]
    unfold CapabilityEntry.timeless
    dsimp only
    rw [relabel_timeless h]
  · rfl

/-- What a relabelling makes of an entity, up to stamps. -/
theorem relabelEntity_timeless (h : IgnoresStamps matching) {a b : EntityState}
    (hSame : a.timeless = b.timeless) (indexes other : Indexes) :
    (relabelEntity matching currentness reason indexes a).2.timeless =
      (relabelEntity matching currentness reason other b).2.timeless := by
  have hOne : ∀ (indexes : Indexes) (entity : EntityState),
      (relabelEntity matching currentness reason indexes entity).2.timeless =
        { entity.timeless with
          capabilities := entity.timeless.capabilities.map fun entry =>
            (relabelEntry entity.timeless.id entity.timeless.boundGeneration matching currentness
              reason {} entry).2 } := by
    intro indexes entity
    have hEntries := @map_mapAccum _ _ _ (relabelEntry entity.id entity.boundGeneration matching
        currentness reason) indexes entity.capabilities _
      (fun entry => (relabelEntry entity.id entity.boundGeneration matching currentness reason {}
        entry.timeless).2) CapabilityEntry.timeless
      fun indexes entry => relabelEntry_timeless h _ _ indexes {} entry
    unfold relabelEntity EntityState.timeless
    dsimp only
    rw [hEntries, List.map_map]
    rfl
  rw [hOne, hOne, hSame]

end Mutation

/-! ## Claims -/

section Apply

theorem findCapability_timeless (entity : EntityState) (capability : CapabilityId) :
    entity.timeless.findCapability capability =
      (entity.findCapability capability).map CapabilityEntry.timeless :=
  lookup_map fun _ => rfl

theorem nextEvidenceGeneration_timeless (entry : CapabilityEntry) (key : SourceKey) :
    nextEvidenceGeneration entry.timeless key = nextEvidenceGeneration entry key := by
  unfold nextEvidenceGeneration CapabilityEntry.timeless
  dsimp only
  rw [List.foldl_map]
  rfl

theorem liveEvidenceCount_timeless (evidence : List EvidenceRecord) :
    liveEvidenceCount (evidence.map EvidenceRecord.timeless) = liveEvidenceCount evidence := by
  unfold liveEvidenceCount
  rw [List.countP_map]
  rfl

theorem trimEvidence_timeless (bound : Nat) (evidence : List EvidenceRecord) :
    trimEvidence bound (evidence.map EvidenceRecord.timeless) =
      (trimEvidence bound evidence).map EvidenceRecord.timeless := by
  have hErase : ∀ (n : Nat) (evidence : List EvidenceRecord),
      eraseRetired n (evidence.map EvidenceRecord.timeless) =
        (eraseRetired n evidence).map EvidenceRecord.timeless := by
    intro n evidence
    induction evidence generalizing n with
    | nil => cases n <;> rfl
    | cons record evidence ih =>
        cases n with
        | zero => rfl
        | succ n =>
            rw [List.map_cons, eraseRetired, eraseRetired]
            show (if isRetired record.currentness then _ else _) = _
            split
            · exact ih n
            · rw [ih, List.map_cons]
  unfold trimEvidence
  rw [List.length_map, hErase]

theorem liveOf_ignores (key : SourceKey) : IgnoresStamps (liveOf key) := fun _ => rfl

/-- An entity with one entry written. -/
theorem setEntry_timeless (cell : Cell) (entry : CapabilityEntry) :
    (cell.setEntry entry).entity.timeless =
      { cell.entity.timeless with
        capabilities := upsert CapabilityEntry.id entry.timeless
          cell.entity.timeless.capabilities } := by
  have hEntries : (upsert CapabilityEntry.id entry cell.entity.capabilities).map
      CapabilityEntry.timeless = upsert CapabilityEntry.id entry.timeless
        (cell.entity.capabilities.map CapabilityEntry.timeless) := upsert_image fun _ => rfl
  unfold Cell.setEntry EntityState.timeless
  dsimp only
  rw [hEntries]

theorem resolveEntry_timeless (cell : Cell) (entry : CapabilityEntry) :
    (cell.resolveEntry entry).entity.timeless =
      { cell.entity.timeless with
        capabilities := upsert CapabilityEntry.id
          { entry.timeless with
            resolution := computeResolution cell.entity.timeless.id
              cell.entity.timeless.boundGeneration entry.timeless }
          cell.entity.timeless.capabilities } := by
  rw [computeResolution_timeless]
  exact setEntry_timeless _ _

variable {registry later : Registry} {request : PublicationRequest} {cell other : Cell}

theorem newRecord_timeless (hControl : SameControl registry later)
    (hCell : cell.entity.timeless = other.entity.timeless) (claim : CapabilityClaim)
    (coverage : Coverage) (generation : EvidenceGeneration) :
    (newRecord registry request cell claim coverage generation).timeless =
      (newRecord later request other claim coverage generation).timeless := by
  have hId : cell.entity.id = other.entity.id :=
    eq_of_erased EntityState.timeless EntityState.id (fun _ => rfl) hCell
  have hBound : cell.entity.boundGeneration = other.entity.boundGeneration :=
    eq_of_erased EntityState.timeless EntityState.boundGeneration (fun _ => rfl) hCell
  unfold newRecord EvidenceRecord.timeless
  dsimp only
  rw [hId, hBound, hControl.epoch]

/-- Entries with other evidence, the same up to stamps. -/
theorem withEvidence_timeless {a b : CapabilityEntry} (h : a.timeless = b.timeless)
    {evidence evidence' : List EvidenceRecord} (generation : CapabilityGeneration)
    (hEvidence : evidence.map EvidenceRecord.timeless =
      evidence'.map EvidenceRecord.timeless) :
    ({ a with evidence, generation } : CapabilityEntry).timeless =
      ({ b with evidence := evidence', generation } : CapabilityEntry).timeless := by
  have hId := eq_of_erased CapabilityEntry.timeless CapabilityEntry.id (fun _ => rfl) h
  have hResolution :=
    eq_of_erased CapabilityEntry.timeless CapabilityEntry.resolution (fun _ => rfl) h
  unfold CapabilityEntry.timeless
  dsimp only
  rw [hId, hResolution, hEvidence]

theorem applyToEntry_timeless (hControl : SameControl registry later)
    (hCell : cell.entity.timeless = other.entity.timeless) {a b : CapabilityEntry}
    (hEntry : a.timeless = b.timeless) (claim : CapabilityClaim) (coverage : Coverage) :
    (applyToEntry registry request claim coverage cell a).1.entity.timeless =
        (applyToEntry later request claim coverage other b).1.entity.timeless ∧
      (applyToEntry registry request claim coverage cell a).2 =
        (applyToEntry later request claim coverage other b).2 := by
  have hEvidence : a.evidence.map EvidenceRecord.timeless =
      b.evidence.map EvidenceRecord.timeless := congrArg CapabilityEntry.evidence hEntry
  have hGeneration : a.generation = b.generation :=
    eq_of_erased CapabilityEntry.timeless CapabilityEntry.generation (fun _ => rfl) hEntry
  have hNext : nextEvidenceGeneration a request.sourceKey =
      nextEvidenceGeneration b request.sourceKey := by
    rw [← nextEvidenceGeneration_timeless, hEntry, nextEvidenceGeneration_timeless]
  have hRetained : (retainedEvidence registry request a).map EvidenceRecord.timeless =
      (retainedEvidence later request b).map EvidenceRecord.timeless := by
    unfold retainedEvidence
    rw [← trimEvidence_timeless, ← trimEvidence_timeless, relabel_timeless (liveOf_ignores _),
      relabel_timeless (liveOf_ignores _), hEvidence, hControl.options]
  have hCount : liveEvidenceCount (retainedEvidence registry request a) =
      liveEvidenceCount (retainedEvidence later request b) := by
    rw [← liveEvidenceCount_timeless, hRetained, liveEvidenceCount_timeless]
  have hAppended :
      (retainedEvidence registry request a ++
        [appendedRecord registry request cell claim coverage a]).map EvidenceRecord.timeless =
      (retainedEvidence later request b ++
        [appendedRecord later request other claim coverage b]).map EvidenceRecord.timeless := by
    rw [List.map_append, List.map_append, hRetained]
    unfold appendedRecord
    rw [hNext, List.map_singleton, List.map_singleton, newRecord_timeless hControl hCell]
  have hSet : ∀ (cell' other' : Cell) {first second : CapabilityEntry},
      cell'.entity.timeless = other'.entity.timeless → first.timeless = second.timeless →
        (cell'.setEntry first).entity.timeless = (other'.setEntry second).entity.timeless := by
    intro cell' other' first second hCells hEntries
    rw [setEntry_timeless, setEntry_timeless, hCells, hEntries]
  have hResolve : ∀ (cell' other' : Cell) {first second : CapabilityEntry},
      cell'.entity.timeless = other'.entity.timeless → first.timeless = second.timeless →
        (cell'.resolveEntry first).entity.timeless =
          (other'.resolveEntry second).entity.timeless := by
    intro cell' other' first second hCells hEntries
    rw [resolveEntry_timeless, resolveEntry_timeless, hCells, hEntries]
  unfold applyToEntry
  dsimp only
  rw [show trimEvidence registry.options.maxEvidencePerCapability _ =
    retainedEvidence registry request a from rfl,
    show trimEvidence later.options.maxEvidencePerCapability _ =
    retainedEvidence later request b from rfl, hCount, hControl.options, hGeneration]
  split
  · exact ⟨hSet _ _ hCell (withEvidence_timeless hEntry b.generation hRetained), rfl⟩
  · cases counterNext b.generation with
    | error e => exact ⟨hSet _ _ hCell (withEvidence_timeless hEntry b.generation hAppended), rfl⟩
    | ok next => exact ⟨hResolve _ _ hCell (withEvidence_timeless hEntry next hAppended), rfl⟩

theorem applyClaim_timeless (hControl : SameControl registry later)
    (hCell : cell.entity.timeless = other.entity.timeless) (claim : CapabilityClaim)
    (coverage : Coverage) :
    (applyClaim registry request claim coverage cell).1.entity.timeless =
        (applyClaim later request claim coverage other).1.entity.timeless ∧
      (applyClaim registry request claim coverage cell).2 =
        (applyClaim later request claim coverage other).2 := by
  have hFound : (cell.entity.findCapability claim.capability).map CapabilityEntry.timeless =
      (other.entity.findCapability claim.capability).map CapabilityEntry.timeless := by
    rw [← findCapability_timeless, ← findCapability_timeless, hCell]
  have hLength : cell.entity.capabilities.length = other.entity.capabilities.length :=
    eq_of_erased EntityState.timeless (fun entity => entity.capabilities.length)
      (fun _ => List.length_map _) hCell
  unfold applyClaim
  cases hHere : cell.entity.findCapability claim.capability with
  | some a =>
      cases hThere : other.entity.findCapability claim.capability with
      | some b =>
          rw [hHere, hThere] at hFound
          exact applyToEntry_timeless hControl hCell (Option.some.inj hFound) claim coverage
      | none =>
          rw [hHere, hThere] at hFound
          cases hFound
  | none =>
      cases hThere : other.entity.findCapability claim.capability with
      | some b =>
          rw [hHere, hThere] at hFound
          cases hFound
      | none =>
          dsimp only
          rw [hLength, hControl.options]
          split
          · exact ⟨hCell, rfl⟩
          · exact applyToEntry_timeless hControl hCell rfl claim coverage

theorem withdrawIdentityClaim_timeless (hCell : cell.entity.timeless = other.entity.timeless)
    (capability : CapabilityId) :
    (withdrawIdentityClaim request capability cell).1.entity.timeless =
        (withdrawIdentityClaim request capability other).1.entity.timeless ∧
      (withdrawIdentityClaim request capability cell).2 =
        (withdrawIdentityClaim request capability other).2 := by
  have hFound : (cell.entity.findCapability capability).map CapabilityEntry.timeless =
      (other.entity.findCapability capability).map CapabilityEntry.timeless := by
    rw [← findCapability_timeless, ← findCapability_timeless, hCell]
  unfold withdrawIdentityClaim
  cases hHere : cell.entity.findCapability capability with
  | none =>
      cases hThere : other.entity.findCapability capability with
      | none => exact ⟨hCell, rfl⟩
      | some b =>
          rw [hHere, hThere] at hFound
          cases hFound
  | some a =>
      cases hThere : other.entity.findCapability capability with
      | none =>
          rw [hHere, hThere] at hFound
          cases hFound
      | some b =>
          rw [hHere, hThere] at hFound
          have hEntry : a.timeless = b.timeless := Option.some.inj hFound
          have hEvidence : a.evidence.map EvidenceRecord.timeless =
              b.evidence.map EvidenceRecord.timeless := congrArg CapabilityEntry.evidence hEntry
          have hGeneration : a.generation = b.generation :=
            eq_of_erased CapabilityEntry.timeless CapabilityEntry.generation (fun _ => rfl)
              hEntry
          have hAny : a.evidence.any (liveOf request.sourceKey) =
              b.evidence.any (liveOf request.sourceKey) := by
            rw [← any_timeless (liveOf_ignores _), hEvidence, any_timeless (liveOf_ignores _)]
          have hRelabelled :
              (relabel (liveOf request.sourceKey) .superseded request.reason a.evidence).map
                EvidenceRecord.timeless =
              (relabel (liveOf request.sourceKey) .superseded request.reason b.evidence).map
                EvidenceRecord.timeless := by
            rw [relabel_timeless (liveOf_ignores _), relabel_timeless (liveOf_ignores _),
              hEvidence]
          dsimp only
          rw [hAny, hGeneration]
          split
          · cases counterNext b.generation with
            | error e =>
                have hWritten := withEvidence_timeless hEntry b.generation hRelabelled
                refine ⟨?_, rfl⟩
                dsimp only
                rw [setEntry_timeless, setEntry_timeless, hCell, hWritten]
            | ok next =>
                have hWritten := withEvidence_timeless hEntry next hRelabelled
                refine ⟨?_, rfl⟩
                dsimp only
                rw [resolveEntry_timeless, resolveEntry_timeless, hCell, hWritten]
          · exact ⟨hCell, rfl⟩

/-! ## The loop of stage 10 -/

theorem ApplyStep.run_timeless (hControl : SameControl registry later)
    (hCell : cell.entity.timeless = other.entity.timeless) (step : ApplyStep) :
    (step.run registry request cell).1.entity.timeless =
        (step.run later request other).1.entity.timeless ∧
      (step.run registry request cell).2 = (step.run later request other).2 := by
  cases step with
  | supersedeOtherIdentities =>
      exact ⟨relabelEntity_timeless (fun _ => rfl) hCell _ _, rfl⟩
  | supersedeIdentity => exact ⟨relabelEntity_timeless (liveOf_ignores _) hCell _ _, rfl⟩
  | applyClaim claim coverage => exact applyClaim_timeless hControl hCell claim coverage
  | withdrawClaim capability => exact withdrawIdentityClaim_timeless hCell capability
  | countSuperseded => exact ⟨hCell, rfl⟩

/-- The steps of stage 10, from cells and registries that differ in stamps. -/
theorem runSteps_timeless (hControl : SameControl registry later) {steps : List ApplyStep}
    (hCell : cell.entity.timeless = other.entity.timeless) :
    (runSteps registry request cell steps).1.entity.timeless =
        (runSteps later request other steps).1.entity.timeless ∧
      (runSteps registry request cell steps).2 = (runSteps later request other steps).2 := by
  induction steps generalizing cell other with
  | nil => exact ⟨hCell, rfl⟩
  | cons step steps ih =>
      obtain ⟨hEntity, hOutcome⟩ :
          (step.run registry request cell).1.entity.timeless =
              (step.run later request other).1.entity.timeless ∧
            (step.run registry request cell).2 = (step.run later request other).2 :=
        step.run_timeless hControl hCell
      rw [runSteps, runSteps]
      generalize step.run registry request cell = here at *
      generalize step.run later request other = there at *
      obtain ⟨here, outcome⟩ := here
      obtain ⟨there, outcome'⟩ := there
      dsimp only at hOutcome hEntity
      subst hOutcome
      cases outcome with
      | error e => exact ⟨hEntity, rfl⟩
      | ok u => exact ih hEntity

end Apply

end FabricCapability.Ports
