import FabricCapability.Ports.EntrySteps
import FabricCapability.Ports.ResolutionRule
import FabricCapability.Verified.Shuffles

/-!
# A loop of claims

Claims for distinct capabilities act on distinct entries, so what the loop leaves of an entry
is what its own claim makes of it, whenever its turn comes.  Only the arrival numbers of the
records tell the turns apart, and no resolution looks at them.

`Cell.shown` is the table of resolutions.  A loop that runs to its end updates it once for
each claim (`runClaims_shown`), and whether it runs to its end depends on the capabilities
of the claims alone (`runClaims_ok_iff`).
-/

namespace FabricCapability.Ports

open FabricCapability.Verified.KeyedList
open FabricCapability.Verified.Shuffles

/-! ## Arrival numbers -/

/-- The record without its arrival number. -/
def EvidenceRecord.unstamped (record : EvidenceRecord) : EvidenceRecord :=
  { record with arrivalSequence := 0 }

section Unstamped

variable {evidence : List EvidenceRecord}

theorem pickDeterministic_unstamped (records : List EvidenceRecord) :
    pickDeterministic (records.map EvidenceRecord.unstamped) =
      (pickDeterministic records).map EvidenceRecord.unstamped := by
  have hFrom : ∀ (records : List EvidenceRecord) (best : EvidenceRecord),
      pickFrom best.unstamped (records.map EvidenceRecord.unstamped) =
        (pickFrom best records).unstamped := by
    intro records
    induction records with
    | nil => exact fun _ => rfl
    | cons record records ih =>
        intro best
        rw [List.map_cons, pickFrom, pickFrom, ← ih]
        show pickFrom (if outranks record best then _ else _) _ = _
        split <;> rfl
  cases records with
  | nil => rfl
  | cons record records => exact congrArg some (hFrom records record)

theorem distinctClaims_unstamped (seen records : List EvidenceRecord) :
    distinctClaims (seen.map EvidenceRecord.unstamped) (records.map EvidenceRecord.unstamped) =
      distinctClaims seen records := by
  induction records generalizing seen with
  | nil => rfl
  | cons record records ih =>
      have hRest := ih (seen ++ [record])
      rw [List.map_append] at hRest
      have hSeen : (seen.map EvidenceRecord.unstamped).any
          (fun earlier => sameClaim earlier record.unstamped) =
            seen.any fun earlier => sameClaim earlier record := by
        rw [List.any_map]
        rfl
      rw [List.map_cons, distinctClaims, distinctClaims, hSeen]
      rw [show [record.unstamped] = [record].map EvidenceRecord.unstamped from rfl, hRest]
      rfl

theorem filter_unstamped {p : EvidenceRecord → Bool}
    (h : ∀ record : EvidenceRecord, p record.unstamped = p record) :
    (evidence.map EvidenceRecord.unstamped).filter p =
      (evidence.filter p).map EvidenceRecord.unstamped := by
  rw [List.filter_map]
  congr 1
  exact List.filter_congr fun record _ => h record

theorem livePool_unstamped :
    livePool (evidence.map EvidenceRecord.unstamped) =
      (livePool evidence).map EvidenceRecord.unstamped := by
  rw [livePool, livePool, List.map_append, filter_unstamped fun _ => rfl,
    filter_unstamped fun _ => rfl]

theorem strongestRecords_unstamped :
    strongestRecords (evidence.map EvidenceRecord.unstamped) =
      (strongestRecords evidence).map EvidenceRecord.unstamped := by
  have hRank : strongestRank ((livePool evidence).map EvidenceRecord.unstamped) =
      strongestRank (livePool evidence) := List.foldl_map
  rw [strongestRecords, strongestRecords, livePool_unstamped, hRank]
  exact filter_unstamped fun _ => rfl

theorem decidingRecords_unstamped :
    decidingRecords (evidence.map EvidenceRecord.unstamped) =
      (decidingRecords evidence).map EvidenceRecord.unstamped := by
  rw [decidingRecords, decidingRecords, strongestRecords_unstamped]
  exact filter_unstamped fun _ => rfl

/-- No resolution looks at the arrival numbers. -/
theorem computeResolution_unstamped (entity : EntityId) (bound : EntityGeneration)
    (entry : CapabilityEntry) (evidence : List EvidenceRecord) :
    computeResolution entity bound
        { entry with evidence := evidence.map EvidenceRecord.unstamped } =
      computeResolution entity bound { entry with evidence } := by
  have hCounted :
      ({ entry with evidence := evidence.map EvidenceRecord.unstamped } :
        CapabilityEntry).counted entity bound =
      ({ entry with evidence } : CapabilityEntry).counted entity bound := by
    unfold CapabilityEntry.counted
    dsimp only
    rw [livePool_unstamped, strongestRecords_unstamped]
    have hFilter : ∀ label : EvidenceCurrentness → Bool,
        (evidence.map EvidenceRecord.unstamped).filter (fun record => label record.currentness) =
          (evidence.filter fun record => label record.currentness).map
            EvidenceRecord.unstamped := fun label => filter_unstamped fun _ => rfl
    rw [hFilter, hFilter, hFilter]
    simp only [List.length_map, List.isEmpty_map]
  rw [computeResolution_eq, computeResolution_eq, hCounted]
  dsimp only
  rw [strongestRecords_unstamped, decidingRecords_unstamped, pickDeterministic_unstamped,
    pickDeterministic_unstamped]
  cases pickDeterministic (strongestRecords evidence) with
  | none => rfl
  | some first =>
      cases pickDeterministic (decidingRecords evidence) with
      | none => rfl
      | some winner =>
          have hAll : ((decidingRecords evidence).map EvidenceRecord.unstamped).all
              (fun record => sameClaim record winner.unstamped) =
                (decidingRecords evidence).all fun record => sameClaim record winner := by
            rw [List.all_map]
            rfl
          have hDistinct : distinctClaims []
              ((decidingRecords evidence).map EvidenceRecord.unstamped) =
                distinctClaims [] (decidingRecords evidence) := distinctClaims_unstamped [] _
          dsimp only [Option.map_some]
          rw [hAll, hDistinct]
          rfl

theorem computeResolution_of_unstamped (entity : EntityId) (bound : EntityGeneration)
    (entry : CapabilityEntry) {first second : List EvidenceRecord}
    (h : first.map EvidenceRecord.unstamped = second.map EvidenceRecord.unstamped) :
    computeResolution entity bound { entry with evidence := first } =
      computeResolution entity bound { entry with evidence := second } := by
  rw [← computeResolution_unstamped, h, computeResolution_unstamped]

end Unstamped

/-! ## One claim -/

/-- An entry as the materialised set shows it. -/
def CapabilityEntry.shown (entry : CapabilityEntry) : CapabilityId × CapabilityResolution :=
  (entry.id, entry.resolution)

/-- What the entries of an entity show. -/
def EntityState.shown (entity : EntityState) : List (CapabilityId × CapabilityResolution) :=
  entity.capabilities.map CapabilityEntry.shown

/-- A claim with the coverage that it is applied with. -/
abbrev CoveredClaim := CapabilityClaim × Coverage

/-- What a claim makes of the entry of its capability. -/
def Cell.claimed (registry : Registry) (request : PublicationRequest) (cell : Cell)
    (claim : CoveredClaim) : CapabilityId × CapabilityResolution :=
  (cell.appliedEntry registry request claim.1 claim.2 (cell.target claim.1)
    (nextOrSame (cell.target claim.1).generation)).shown

/-- There is room for one more record in the entry, and its counter can advance. -/
def EntryFits (registry : Registry) (request : PublicationRequest) (entry : CapabilityEntry) :
    Prop :=
  liveEvidenceCount (retainedEvidence registry request entry) <
      registry.options.maxEvidencePerCapability ∧
    ∃ next, counterNext entry.generation = .ok next

section Claim

variable {registry : Registry} {request : PublicationRequest} {cell next : Cell}
  {claim : CapabilityClaim} {coverage : Coverage}

theorem shown_id (entry : CapabilityEntry) : entry.shown.1 = entry.id := rfl

theorem appliedEntry_shown (entry : CapabilityEntry) (generation : CapabilityGeneration) :
    (cell.appliedEntry registry request claim coverage entry generation).shown =
      (entry.id, computeResolution cell.entity.id cell.entity.boundGeneration { entry with
        evidence := retainedEvidence registry request entry ++
          [appendedRecord registry request cell claim coverage entry]
        generation }) := rfl

theorem claimed_capability (claim : CoveredClaim) :
    (cell.claimed registry request claim).1 = claim.1.capability :=
  (target_found cell claim.1).1

/-- Only the entity, its generation and the entry matter to a claim. -/
theorem claimed_congr {claim : CoveredClaim} (hSame : SameEntity cell.entity next.entity)
    (hTarget : next.target claim.1 = cell.target claim.1) :
    next.claimed registry request claim = cell.claimed registry request claim := by
  have hId : next.entity.id = cell.entity.id := hSame.id_eq
  have hBound : next.entity.boundGeneration = cell.entity.boundGeneration := by rw [hSame]
  have hRecord : (appendedRecord registry request next claim.1 claim.2
      (cell.target claim.1)).unstamped =
        (appendedRecord registry request cell claim.1 claim.2 (cell.target claim.1)).unstamped := by
    unfold appendedRecord newRecord EvidenceRecord.unstamped
    rw [hId, hBound]
  have hEvidence : (retainedEvidence registry request (cell.target claim.1) ++
      [appendedRecord registry request next claim.1 claim.2 (cell.target claim.1)]).map
        EvidenceRecord.unstamped =
      (retainedEvidence registry request (cell.target claim.1) ++
        [appendedRecord registry request cell claim.1 claim.2 (cell.target claim.1)]).map
          EvidenceRecord.unstamped := by
    rw [List.map_append, List.map_append, List.map_singleton, List.map_singleton, hRecord]
  rw [Cell.claimed, Cell.claimed, hTarget, appliedEntry_shown, appliedEntry_shown, hId, hBound]
  exact congrArg (Prod.mk _) (computeResolution_of_unstamped _ _ { cell.target claim.1 with
    generation := nextOrSame (cell.target claim.1).generation } hEvidence)

theorem applyClaim_shown (hOk : (applyClaim registry request claim coverage cell).2 = .ok ()) :
    (applyClaim registry request claim coverage cell).1.entity.shown =
      upsert Prod.fst (cell.claimed registry request (claim, coverage)) cell.entity.shown := by
  obtain ⟨next, hNext, hWritten⟩ := applyClaim_upserts hOk
  have hSame : nextOrSame (cell.target claim).generation = next := by
    rw [nextOrSame, hNext]
    rfl
  rw [EntityState.shown, hWritten, upsert_image shown_id, Cell.claimed, hSame]
  rfl

theorem applyToEntry_ok_iff {entry : CapabilityEntry} :
    (applyToEntry registry request claim coverage cell entry).2 = .ok () ↔
      EntryFits registry request entry := by
  unfold applyToEntry EntryFits retainedEvidence
  dsimp only
  split
  · rename_i hFull
    exact iff_of_false nofun fun hFits => absurd hFits.1 (Nat.not_lt.2 hFull)
  · rename_i hRoom
    rw [and_iff_right (Nat.not_le.1 hRoom)]
    split
    · rename_i e hExhausted
      exact iff_of_false nofun fun ⟨next, hNext⟩ => by rw [hExhausted] at hNext; cases hNext
    · rename_i next hNext
      exact iff_of_true rfl ⟨next, hNext⟩

theorem applyClaim_ok_iff :
    (applyClaim registry request claim coverage cell).2 = .ok () ↔
      EntryFits registry request (cell.entity.entryOf claim.capability) ∧
        (cell.entity.findCapability claim.capability = none →
          cell.entity.capabilities.length < registry.options.maxCapabilitiesPerEntity) := by
  unfold applyClaim EntityState.entryOf
  cases hFound : cell.entity.findCapability claim.capability with
  | some entry =>
      dsimp only [Option.getD_some]
      rw [applyToEntry_ok_iff]
      exact ⟨fun hFits => ⟨hFits, nofun⟩, fun h => h.1⟩
  | none =>
      dsimp only [Option.getD_none]
      split
      · rename_i hFull
        exact iff_of_false nofun fun h => absurd (h.2 rfl) (Nat.not_lt.2 hFull)
      · rename_i hRoom
        rw [applyToEntry_ok_iff]
        exact ⟨fun hFits => ⟨hFits, fun _ => Nat.not_le.1 hRoom⟩, fun h => h.1⟩

end Claim

/-! ## The loop -/

/-- The steps of a loop of claims. -/
def claimSteps (claims : List CoveredClaim) : List ApplyStep :=
  claims.map fun claim => .applyClaim claim.1 claim.2

/-- The capabilities that have no entry yet. -/
def EntityState.missing (entity : EntityState) (capabilities : List CapabilityId) :
    List CapabilityId :=
  capabilities.filter fun capability => (entity.findCapability capability).isNone

/-- There is room for claims for these capabilities. -/
def ClaimsFit (registry : Registry) (request : PublicationRequest) (entity : EntityState)
    (capabilities : List CapabilityId) : Prop :=
  (∀ capability ∈ capabilities, EntryFits registry request (entity.entryOf capability)) ∧
    ((entity.missing capabilities).length = 0 ∨
      entity.capabilities.length + (entity.missing capabilities).length ≤
        registry.options.maxCapabilitiesPerEntity)

section Loop

variable {registry : Registry} {request : PublicationRequest} {cell : Cell}
  {claims : List CoveredClaim}

theorem claimsFit_perm {entity : EntityState} {capabilities later : List CapabilityId}
    (h : capabilities.Perm later) :
    ClaimsFit registry request entity capabilities ↔ ClaimsFit registry request entity later := by
  have hMissing : (entity.missing capabilities).length = (entity.missing later).length :=
    (h.filter _).length_eq
  unfold ClaimsFit
  rw [hMissing]
  exact and_congr_left fun _ => forall_congr' fun capability => imp_congr_left h.mem_iff

/-- A claim that is applied leaves the entries of the others, and adds one at most. -/
theorem applyClaim_rest {claim : CapabilityClaim} {coverage : Coverage}
    (hOk : (applyClaim registry request claim coverage cell).2 = .ok ()) :
    let next := (applyClaim registry request claim coverage cell).1.entity
    (∀ capability, capability ≠ claim.capability →
      next.findCapability capability = cell.entity.findCapability capability) ∧
    next.capabilities.length = cell.entity.capabilities.length +
      (cell.entity.missing [claim.capability]).length := by
  obtain ⟨generation, -, hWritten⟩ := applyClaim_upserts hOk
  obtain ⟨hId, hFound⟩ := target_found cell claim
  refine ⟨fun capability hNe => applyClaim_find_ne (Ne.symm hNe), ?_⟩
  rw [hWritten, EntityState.missing, List.filter_singleton]
  have hEntryId : (cell.appliedEntry registry request claim coverage (cell.target claim)
      generation).id = claim.capability := hId
  rcases hFound with hHeld | ⟨hMissing, -⟩
  · rw [hHeld]
    have hMem : (cell.appliedEntry registry request claim coverage (cell.target claim)
        generation).id ∈ cell.entity.capabilities.map CapabilityEntry.id := by
      rw [hEntryId]
      exact lookup_isSome.1 (by rw [← EntityState.findCapability, hHeld]; rfl)
    exact length_upsert_of_mem hMem
  · rw [hMissing, upsert_of_missing (by rw [hEntryId]; exact hMissing), List.length_append]
    rfl

theorem runClaims_ok_iff (hDistinct : (claims.map fun claim => claim.1.capability).Nodup) :
    (runSteps registry request cell (claimSteps claims)).2 = .ok () ↔
      ClaimsFit registry request cell.entity (claims.map fun claim => claim.1.capability) := by
  induction claims generalizing cell with
  | nil => exact iff_of_true rfl ⟨fun _ hMem => by (cases hMem), .inl rfl⟩
  | cons claim claims ih =>
      rw [List.map_cons, List.nodup_cons] at hDistinct
      obtain ⟨hNew, hDistinct⟩ := hDistinct
      have hFirst := @applyClaim_ok_iff registry request cell claim.1 claim.2
      have hRest := @applyClaim_rest registry request cell claim.1 claim.2
      have hSplit : (runSteps registry request cell (claimSteps (claim :: claims))).2 = .ok () ↔
          (applyClaim registry request claim.1 claim.2 cell).2 = .ok () ∧
            (runSteps registry request (applyClaim registry request claim.1 claim.2 cell).1
              (claimSteps claims)).2 = .ok () := by
        rw [claimSteps, List.map_cons, runSteps, ApplyStep.run]
        generalize applyClaim registry request claim.1 claim.2 cell = ran
        obtain ⟨next, outcome⟩ := ran
        cases outcome with
        | error e => exact iff_of_false (fun hOk => by (cases hOk)) fun h => by cases h.1
        | ok u => exact (and_iff_right rfl).symm
      rw [hSplit, ih hDistinct, List.map_cons]
      by_cases hOk : (applyClaim registry request claim.1 claim.2 cell).2 = .ok ()
      · obtain ⟨hSame, hLength⟩ := hRest hOk
        obtain ⟨hFits, hRoom⟩ := hFirst.1 hOk
        have hOthers : ∀ capability ∈ claims.map (fun claim => claim.1.capability),
            (applyClaim registry request claim.1 claim.2 cell).1.entity.findCapability capability =
              cell.entity.findCapability capability :=
          fun capability hMem => hSame capability fun hEq => hNew (hEq ▸ hMem)
        have hMissing : (applyClaim registry request claim.1 claim.2 cell).1.entity.missing
            (claims.map fun claim => claim.1.capability) =
              cell.entity.missing (claims.map fun claim => claim.1.capability) :=
          List.filter_congr fun capability hMem => by rw [hOthers capability hMem]
        have hEntries : (∀ capability ∈ claims.map (fun claim => claim.1.capability),
            EntryFits registry request ((applyClaim registry request claim.1 claim.2
              cell).1.entity.entryOf capability)) ↔
            ∀ capability ∈ claims.map (fun claim => claim.1.capability),
              EntryFits registry request (cell.entity.entryOf capability) :=
          forall₂_congr fun capability hMem => by
            rw [EntityState.entryOf, EntityState.entryOf, hOthers capability hMem]
        have hCons : (cell.entity.missing (claim.1.capability ::
            claims.map fun claim => claim.1.capability)).length =
              (cell.entity.missing [claim.1.capability]).length +
                (cell.entity.missing (claims.map fun claim => claim.1.capability)).length := by
          rw [← List.length_append, EntityState.missing, EntityState.missing, EntityState.missing,
            ← List.filter_append]
          rfl
        have hOne : (cell.entity.missing [claim.1.capability]).length = 0 ∨
            (cell.entity.missing [claim.1.capability]).length = 1 ∧
              cell.entity.capabilities.length <
                registry.options.maxCapabilitiesPerEntity := by
          rw [EntityState.missing, List.filter_singleton]
          cases hFound : cell.entity.findCapability claim.1.capability with
          | none => exact .inr ⟨rfl, hRoom hFound⟩
          | some entry => exact .inl rfl
        unfold ClaimsFit
        rw [hMissing, hEntries, hLength, hCons, List.forall_mem_cons]
        constructor
        · rintro ⟨-, hAll, hSpace⟩
          exact ⟨⟨hFits, hAll⟩, by omega⟩
        · rintro ⟨⟨-, hAll⟩, hSpace⟩
          exact ⟨hOk, hAll, by omega⟩
      · refine iff_of_false (fun h => hOk h.1) fun hFit => hOk (hFirst.2 ⟨?_, fun hFound => ?_⟩)
        · exact hFit.1 _ (List.mem_cons_self ..)
        · have hSpace := hFit.2
          rw [EntityState.missing, List.filter_cons, hFound] at hSpace
          simp only [Option.isNone_none, if_true, List.length_cons] at hSpace
          omega

/-- A loop that runs to its end updates the table once for each claim. -/
theorem runClaims_shown (hDistinct : (claims.map fun claim => claim.1.capability).Nodup)
    (hOk : (runSteps registry request cell (claimSteps claims)).2 = .ok ()) :
    (runSteps registry request cell (claimSteps claims)).1.entity.shown =
      updates Prod.fst cell.entity.shown (claims.map (cell.claimed registry request)) := by
  induction claims generalizing cell with
  | nil => rfl
  | cons claim claims ih =>
      rw [List.map_cons, List.nodup_cons] at hDistinct
      obtain ⟨hNew, hDistinct⟩ := hDistinct
      have hFirst := @applyClaim_shown registry request cell claim.1 claim.2
      have hSame := applyClaim_entity registry request claim.1 claim.2 cell
      have hTarget : ∀ other ∈ claims,
          (applyClaim registry request claim.1 claim.2 cell).1.target other.1 =
            cell.target other.1 := by
        intro other hMem
        rw [Cell.target, Cell.target, applyClaim_find_ne]
        exact fun hEq => hNew (List.mem_map.2 ⟨other, hMem, hEq.symm⟩)
      rw [claimSteps, List.map_cons, runSteps, ApplyStep.run] at hOk ⊢
      generalize applyClaim registry request claim.1 claim.2 cell = ran at *
      obtain ⟨next, outcome⟩ := ran
      cases outcome with
      | error e => cases hOk
      | ok u =>
          have hRest : claims.map (next.claimed registry request) =
              claims.map (cell.claimed registry request) :=
            List.map_congr_left fun other hMem => claimed_congr hSame (hTarget other hMem)
          have hLater := ih hDistinct hOk
          rw [hRest, hFirst rfl] at hLater
          exact hLater

end Loop

end FabricCapability.Ports
