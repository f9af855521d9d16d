import FabricCapability.Ports.ArrivalOrder

/-!
# What shows of the newest record

A claim ends the evidence of an entry with a record that is current.  Where that record was
reported from, its provenance and its source class, shows in the resolution of the entry in
two ways: a record that no live one outclasses lends its provenance, and it lends its source
class when it wins.

So two records that differ in where they come from resolve alike only when both are
outclassed, or when both are of one class in which a held record wins.

## Main results

* `resolution_provenance`: the resolution is of the class of the strongest records.
* `resolution_sourced_iff`: when the origin of the newest record does not show.
-/

namespace FabricCapability.Ports

open FabricCapability.Verified.OrderFree
open FabricCapability.Verified.StrictOrder

/-- The record, reported from elsewhere. -/
def EvidenceRecord.sourced (record : EvidenceRecord) (provenance : ProvenanceClass)
    (sourceClass : EvidenceSourceClass) : EvidenceRecord :=
  { record with provenance, sourceClass }

/-- A live record is of a stronger class. -/
def Outclassed (evidence : List EvidenceRecord) (provenance : ProvenanceClass) : Prop :=
  ∃ held ∈ liveRecords evidence, provenanceRank held.provenance < provenanceRank provenance

/-- The current records of a class. -/
def peers (evidence : List EvidenceRecord) (provenance : ProvenanceClass) :
    List EvidenceRecord :=
  evidence.filter fun held =>
    isCurrent held.currentness && provenanceRank held.provenance == provenanceRank provenance

theorem provenanceRank_injective : Function.Injective provenanceRank := by
  intro a b h
  revert h
  cases a <;> cases b <;> decide

section Newest

variable {evidence : List EvidenceRecord} {record : EvidenceRecord}

/-! ## The records that decide -/

theorem livePool_append (hCurrent : isCurrent record.currentness = true) :
    livePool (evidence ++ [record]) =
      (evidence.filter fun held => isCurrent held.currentness) ++ record ::
        evidence.filter fun held => isSuspended held.currentness := by
  have hNot : isSuspended record.currentness = false := by
    revert hCurrent
    cases record.currentness <;> decide
  rw [livePool, List.filter_append, List.filter_append, List.filter_singleton,
    List.filter_singleton, hCurrent, hNot]
  simp

theorem mem_livePool_append (hCurrent : isCurrent record.currentness = true)
    {other : EvidenceRecord} :
    other ∈ livePool (evidence ++ [record]) ↔ other ∈ liveRecords evidence ∨ other = record := by
  have hLive : isRetired record.currentness = false := by
    revert hCurrent
    cases record.currentness <;> decide
  rw [mem_livePool, liveRecords, List.filter_append, List.mem_append, List.filter_singleton,
    hLive]
  exact or_congr_right List.mem_singleton

/-- An outclassed record leaves the strongest class as it is. -/
theorem strongestRank_outclassed (hCurrent : isCurrent record.currentness = true)
    (h : Outclassed evidence record.provenance) :
    strongestRank (livePool (evidence ++ [record])) = strongestRank (livePool evidence) ∧
      strongestRank (livePool evidence) < provenanceRank record.provenance := by
  obtain ⟨held, hLive, hLess⟩ := h
  obtain ⟨strongest, hStrongest, hLeast⟩ := exists_strongest hLive
  have hBelow : provenanceRank strongest.provenance < provenanceRank record.provenance :=
    UInt8.lt_of_le_of_lt (hLeast held hLive) hLess
  have hBefore := (rank_eq_strongest (mem_livePool.2 hStrongest)).2
    fun other hOther => hLeast other (mem_livePool.1 hOther)
  have hMem : strongest ∈ livePool (evidence ++ [record]) :=
    (mem_livePool_append hCurrent).2 (.inl hStrongest)
  have hAfter := (rank_eq_strongest hMem).2 fun other hOther => by
    rcases (mem_livePool_append hCurrent).1 hOther with hOld | rfl
    · exact hLeast other hOld
    · exact UInt8.le_of_lt hBelow
  exact ⟨hAfter.symm.trans hBefore, hBefore ▸ hBelow⟩

theorem strongestRank_leading (hCurrent : isCurrent record.currentness = true)
    (h : ¬Outclassed evidence record.provenance) :
    strongestRank (livePool (evidence ++ [record])) = provenanceRank record.provenance := by
  have hMem : record ∈ livePool (evidence ++ [record]) :=
    (mem_livePool_append hCurrent).2 (.inr rfl)
  refine ((rank_eq_strongest hMem).2 fun other hOther => ?_).symm
  rcases (mem_livePool_append hCurrent).1 hOther with hOld | rfl
  · exact UInt8.not_lt.1 fun hLess => h ⟨other, hOld, hLess⟩
  · exact UInt8.le_refl _

theorem strongestRecords_outclassed (hCurrent : isCurrent record.currentness = true)
    (h : Outclassed evidence record.provenance) :
    strongestRecords (evidence ++ [record]) = strongestRecords evidence := by
  obtain ⟨hRank, hBelow⟩ := strongestRank_outclassed hCurrent h
  have hWeaker : (provenanceRank record.provenance == strongestRank (livePool evidence)) =
      false := by
    rw [beq_eq_false_iff_ne]
    exact fun hEq => UInt8.lt_irrefl _ (hEq ▸ hBelow)
  rw [strongestRecords, strongestRecords, hRank]
  generalize strongestRank (livePool evidence) = rank at hWeaker ⊢
  rw [livePool_append hCurrent, livePool, List.filter_append, List.filter_append,
    List.filter_cons, hWeaker, if_neg Bool.false_ne_true]

theorem decidingRecords_outclassed (hCurrent : isCurrent record.currentness = true)
    (h : Outclassed evidence record.provenance) :
    decidingRecords (evidence ++ [record]) = decidingRecords evidence := by
  rw [decidingRecords, decidingRecords, strongestRecords_outclassed hCurrent h]

theorem strongestRecords_leading (hCurrent : isCurrent record.currentness = true)
    (h : ¬Outclassed evidence record.provenance) :
    strongestRecords (evidence ++ [record]) =
      ((evidence.filter fun held => isCurrent held.currentness).filter fun held =>
        provenanceRank held.provenance == provenanceRank record.provenance) ++ record ::
      (evidence.filter fun held => isSuspended held.currentness).filter fun held =>
        provenanceRank held.provenance == provenanceRank record.provenance := by
  rw [strongestRecords, strongestRank_leading hCurrent h, livePool_append hCurrent,
    List.filter_append, List.filter_cons, beq_self_eq_true, if_pos rfl]

/-- The newest record decides with its peers. -/
theorem decidingRecords_leading (hCurrent : isCurrent record.currentness = true)
    (h : ¬Outclassed evidence record.provenance) :
    decidingRecords (evidence ++ [record]) = peers evidence record.provenance ++ [record] := by
  rw [decidingRecords, strongestRecords_leading hCurrent h, List.filter_append,
    List.filter_cons, hCurrent, if_pos rfl, List.filter_filter, List.filter_filter,
    List.filter_filter, List.filter_filter, peers]
  have hSuspended : (evidence.filter fun held =>
      isCurrent held.currentness &&
          provenanceRank held.provenance == provenanceRank record.provenance &&
        isSuspended held.currentness) = [] := by
    refine List.filter_eq_nil_iff.2 fun held _ => ?_
    cases held.currentness <;> simp [isCurrent, isSuspended]
  rw [hSuspended]
  congr 1
  refine List.filter_congr fun held _ => ?_
  cases isCurrent held.currentness <;> simp

/-- The last record wins when it outranks the winner of the others. -/
theorem pickDeterministic_append (records : List EvidenceRecord) (record : EvidenceRecord) :
    pickDeterministic (records ++ [record]) =
      some ((pickDeterministic records).elim record fun best =>
        if outranks record best then record else best) := by
  have hWalk : ∀ (records : List EvidenceRecord) (best : EvidenceRecord),
      pickFrom best (records ++ [record]) =
        if outranks record (pickFrom best records) then record else pickFrom best records := by
    intro records
    induction records with
    | nil => exact fun _ => rfl
    | cons other records ih => exact fun best => ih _
  cases records with
  | nil => rfl
  | cons first records => exact congrArg some (hWalk records first)

theorem pickDeterministic_unbeaten {records : List EvidenceRecord} {winner : EvidenceRecord}
    (h : pickDeterministic records = some winner) :
    ∀ other ∈ records, outranks other winner = false := by
  cases records with
  | nil => cases h
  | cons first records =>
      rw [pickDeterministic, Option.some.injEq, pickFrom_eq] at h
      exact h ▸ champion_unbeaten outranks_weak first records

theorem distinctClaims_append (seen records : List EvidenceRecord) (record : EvidenceRecord) :
    distinctClaims seen (records ++ [record]) =
      distinctClaims seen records ++
        if (seen ++ records).any fun earlier => sameClaim earlier record then []
        else [record.id] := by
  induction records generalizing seen with
  | nil =>
      rw [List.nil_append, List.append_nil, distinctClaims, distinctClaims]
      rfl
  | cons first records ih =>
      have hRest := ih (seen ++ [first])
      rw [List.append_assoc, List.singleton_append] at hRest
      rw [List.cons_append, distinctClaims, distinctClaims, hRest]
      split
      · rfl
      · rfl

end Newest

/-! ## The resolution -/

section Resolution

variable {entity : EntityId} {bound : EntityGeneration} {entry : CapabilityEntry}

/-- A resolution is of the class of the strongest records. -/
theorem resolution_provenance {record : EvidenceRecord}
    (h : record ∈ strongestRecords entry.evidence) :
    (computeResolution entity bound entry).provenance = record.provenance := by
  have hClass : ∀ other ∈ strongestRecords entry.evidence,
      other.provenance = record.provenance := by
    intro other hOther
    refine provenanceRank_injective ?_
    rw [beq_iff_eq.1 (List.mem_filter.1 hOther).2, beq_iff_eq.1 (List.mem_filter.1 h).2]
  rw [computeResolution_eq]
  cases hFirst : pickDeterministic (strongestRecords entry.evidence) with
  | none => exact absurd h (pickDeterministic_eq_none.1 hFirst ▸ List.not_mem_nil)
  | some first =>
      cases hWinner : pickDeterministic (decidingRecords entry.evidence) with
      | none => exact hClass first (pickDeterministic_mem hFirst)
      | some winner =>
          have hMem := hClass winner (List.mem_of_mem_filter (pickDeterministic_mem hWinner))
          dsimp only
          split
          · exact hMem
          · exact hMem

theorem resolution_sourceClass {winner : EvidenceRecord}
    (h : pickDeterministic (decidingRecords entry.evidence) = some winner) :
    (computeResolution entity bound entry).sourceClass = winner.sourceClass := by
  have hMem : winner ∈ strongestRecords entry.evidence :=
    List.mem_of_mem_filter (pickDeterministic_mem h)
  rw [computeResolution_eq, h]
  cases hFirst : pickDeterministic (strongestRecords entry.evidence) with
  | none => exact absurd hMem (pickDeterministic_eq_none.1 hFirst ▸ List.not_mem_nil)
  | some first =>
      dsimp only
      split
      · rfl
      · rfl

theorem resolution_outranked :
    (computeResolution entity bound entry).outrankedEvidenceCount =
      (livePool entry.evidence).length - (strongestRecords entry.evidence).length := by
  rw [computeResolution_eq]
  split
  · rfl
  · rfl
  · split
    · rfl
    · rfl

end Resolution

/-! ## The origin of the newest record -/

/-- What `PickDeterministic` looks at in a record that it prefers to a held one. -/
def preferred (generation : EvidenceGeneration) (key : SourceKey) (held : EvidenceRecord) :
    Bool :=
  if generation > held.evidenceGeneration then true
  else if generation < held.evidenceGeneration then false
  else if key.source ≠ held.source then key.source.lt held.source
  else key.boot.lt held.workerBoot

/-- The evidence makes nothing of the difference between two origins of a record of this
generation and identity. -/
def SourcedAlike (evidence : List EvidenceRecord) (generation : EvidenceGeneration)
    (key : SourceKey) (first second : ProvenanceClass × EvidenceSourceClass) : Prop :=
  first = second ∨ (Outclassed evidence first.1 ∧ Outclassed evidence second.1) ∨
    (first.1 = second.1 ∧ ∃ held ∈ liveRecords evidence,
      isCurrent held.currentness = true ∧ held.provenance = first.1 ∧
        preferred generation key held = false)

section Origin

variable {entity : EntityId} {bound : EntityGeneration} {entry : CapabilityEntry}
  {evidence : List EvidenceRecord} {record : EvidenceRecord}
  {first second : ProvenanceClass × EvidenceSourceClass}

/-- The entry as a claim of this origin leaves it. -/
def CapabilityEntry.sourced (entry : CapabilityEntry) (evidence : List EvidenceRecord)
    (record : EvidenceRecord) (origin : ProvenanceClass × EvidenceSourceClass) :
    CapabilityEntry :=
  { entry with evidence := evidence ++ [record.sourced origin.1 origin.2] }

theorem mem_peers {held : EvidenceRecord} {provenance : ProvenanceClass} :
    held ∈ peers evidence provenance ↔
      held ∈ liveRecords evidence ∧ isCurrent held.currentness = true ∧
        held.provenance = provenance := by
  have hLive : isCurrent held.currentness = true → isRetired held.currentness = false := by
    cases held.currentness <;> decide
  rw [peers, liveRecords, List.mem_filter, List.mem_filter, Bool.and_eq_true, beq_iff_eq,
    provenanceRank_injective.eq_iff]
  constructor
  · rintro ⟨hMem, hCurrent, hClass⟩
    exact ⟨⟨hMem, by rw [hLive hCurrent]; rfl⟩, hCurrent, hClass⟩
  · rintro ⟨⟨hMem, -⟩, hCurrent, hClass⟩
    exact ⟨hMem, hCurrent, hClass⟩

/-- The counts differ in nothing but the number of strongest records. -/
theorem counted_sourced (hCurrent : isCurrent record.currentness = true)
    (hStrongest : (strongestRecords (entry.sourced evidence record first).evidence).length =
      (strongestRecords (entry.sourced evidence record second).evidence).length) :
    (entry.sourced evidence record first).counted entity bound =
      (entry.sourced evidence record second).counted entity bound := by
  have hFilter : ∀ (p : EvidenceCurrentness → Bool)
      (origin : ProvenanceClass × EvidenceSourceClass),
      (((entry.sourced evidence record origin).evidence).filter fun held =>
        p held.currentness) =
        (evidence.filter fun held => p held.currentness) ++
          bif p record.currentness then [record.sourced origin.1 origin.2] else [] := by
    intro p origin
    rw [CapabilityEntry.sourced, List.filter_append, List.filter_singleton]
    rfl
  have hNot : isSuspended record.currentness = false := by
    revert hCurrent
    cases record.currentness <;> decide
  have hNotRetired : isRetired record.currentness = false := by
    revert hCurrent
    cases record.currentness <;> decide
  have hPool : ∀ origin : ProvenanceClass × EvidenceSourceClass,
      (livePool (entry.sourced evidence record origin).evidence).length =
        (livePool evidence).length + 1 := by
    intro origin
    rw [livePool, hFilter, hFilter, livePool, hCurrent, hNot]
    simp only [cond_true, cond_false, List.length_append, List.length_singleton,
      List.append_nil]
    omega
  unfold CapabilityEntry.counted
  dsimp only
  rw [hPool, hPool, hStrongest]
  simp only [hFilter, hCurrent, hNot, hNotRetired, cond_true, cond_false, List.length_append,
    List.length_singleton]
  rfl

section Class

variable {origin : ProvenanceClass × EvidenceSourceClass}

theorem sourced_outclassed (hCurrent : isCurrent record.currentness = true)
    (h : Outclassed evidence origin.1) :
    strongestRecords (entry.sourced evidence record origin).evidence =
        strongestRecords evidence ∧
      decidingRecords (entry.sourced evidence record origin).evidence =
        decidingRecords evidence :=
  ⟨@strongestRecords_outclassed evidence (record.sourced origin.1 origin.2) hCurrent h,
    @decidingRecords_outclassed evidence (record.sourced origin.1 origin.2) hCurrent h⟩

theorem sourced_deciding (hCurrent : isCurrent record.currentness = true)
    (h : ¬Outclassed evidence origin.1) :
    decidingRecords (entry.sourced evidence record origin).evidence =
      peers evidence origin.1 ++ [record.sourced origin.1 origin.2] :=
  @decidingRecords_leading evidence (record.sourced origin.1 origin.2) hCurrent h

theorem sourced_strongest (hCurrent : isCurrent record.currentness = true)
    (h : ¬Outclassed evidence origin.1) :
    record.sourced origin.1 origin.2 ∈
        strongestRecords (entry.sourced evidence record origin).evidence ∧
      (strongestRecords (entry.sourced evidence record origin).evidence).length =
        ((livePool evidence).filter fun held =>
          provenanceRank held.provenance == provenanceRank origin.1).length + 1 := by
  have hStrongest := @strongestRecords_leading evidence (record.sourced origin.1 origin.2)
    hCurrent h
  unfold CapabilityEntry.sourced
  rw [hStrongest]
  constructor
  · exact List.mem_append_right _ (List.mem_cons_self ..)
  · rw [livePool, List.filter_append, List.length_append, List.length_append, List.length_cons]
    exact (Nat.add_assoc _ _ _).symm

end Class

/-- Two origins that are both outclassed. -/
theorem resolution_outclassed (hCurrent : isCurrent record.currentness = true)
    (hFirst : Outclassed evidence first.1) (hSecond : Outclassed evidence second.1) :
    computeResolution entity bound (entry.sourced evidence record first) =
      computeResolution entity bound (entry.sourced evidence record second) := by
  obtain ⟨hStrongest, hDeciding⟩ := @sourced_outclassed entry _ _ _ hCurrent hFirst
  obtain ⟨hStrongestLater, hDecidingLater⟩ := @sourced_outclassed entry _ _ _ hCurrent hSecond
  have hCounted := @counted_sourced entity bound entry evidence record first second hCurrent
    (by rw [hStrongest, hStrongestLater])
  rw [computeResolution_eq, computeResolution_eq, hCounted, hStrongest, hStrongestLater,
    hDeciding, hDecidingLater]

/-- A record that is not outclassed lends its class. -/
theorem resolution_leading (hCurrent : isCurrent record.currentness = true)
    (h : ¬Outclassed evidence first.1) :
    (computeResolution entity bound (entry.sourced evidence record first)).provenance =
      first.1 :=
  resolution_provenance (sourced_strongest hCurrent h).1

theorem winner_leading (hCurrent : isCurrent record.currentness = true)
    (h : ¬Outclassed evidence first.1) :
    pickDeterministic (decidingRecords (entry.sourced evidence record first).evidence) =
      some ((pickDeterministic (peers evidence first.1)).elim (record.sourced first.1 first.2)
        fun best => if outranks record best then record.sourced first.1 first.2 else best) := by
  rw [sourced_deciding hCurrent h, pickDeterministic_append]
  rfl

/-- It lends its source class when it outranks its peers. -/
theorem resolution_winning (hCurrent : isCurrent record.currentness = true)
    (h : ¬Outclassed evidence first.1)
    (hWins : ∀ held ∈ peers evidence first.1, outranks record held = true) :
    (computeResolution entity bound (entry.sourced evidence record first)).sourceClass =
      first.2 := by
  have hWinner := @winner_leading entry _ _ _ hCurrent h
  rw [resolution_sourceClass hWinner]
  cases hPeer : pickDeterministic (peers evidence first.1) with
  | none => rfl
  | some best =>
      rw [Option.elim_some, if_pos (hWins best (pickDeterministic_mem hPeer))]
      rfl

/-- It does not, when it loses to one of them. -/
theorem resolution_beaten (hCurrent : isCurrent record.currentness = true)
    {provenance : ProvenanceClass} (h : ¬Outclassed evidence provenance)
    {held : EvidenceRecord} (hPeer : held ∈ peers evidence provenance)
    (hBeaten : outranks record held = false) (sourceClass later : EvidenceSourceClass) :
    computeResolution entity bound (entry.sourced evidence record (provenance, sourceClass)) =
      computeResolution entity bound (entry.sourced evidence record (provenance, later)) := by
  cases hBest : pickDeterministic (peers evidence provenance) with
  | none => exact absurd hPeer (pickDeterministic_eq_none.1 hBest ▸ List.not_mem_nil)
  | some best =>
      have hLoses : outranks record best = false :=
        outranks_weak.negTrans _ _ _ hBeaten (pickDeterministic_unbeaten hBest held hPeer)
      have hWinner : ∀ source : EvidenceSourceClass,
          pickDeterministic (decidingRecords
            (entry.sourced evidence record (provenance, source)).evidence) = some best := by
        intro source
        rw [winner_leading hCurrent h, hBest, Option.elim_some, hLoses]
        rfl
      have hStrongest : ∀ source : EvidenceSourceClass,
          (strongestRecords (entry.sourced evidence record (provenance, source)).evidence).length =
            ((livePool evidence).filter fun held =>
              provenanceRank held.provenance == provenanceRank provenance).length + 1 :=
        fun source => (@sourced_strongest entry _ _ (provenance, source) hCurrent h).2
      have hCounted := @counted_sourced entity bound entry evidence record
        (provenance, sourceClass) (provenance, later) hCurrent
        ((hStrongest sourceClass).trans (hStrongest later).symm)
      -- neither the comparison of the claims nor their list looks at the source class
      have hAll : ∀ source : EvidenceSourceClass,
          (peers evidence provenance ++ [record.sourced provenance source]).all
            (fun other => sameClaim other best) =
          ((peers evidence provenance).all (fun other => sameClaim other best) &&
            sameClaim record best) := by
        intro source
        rw [List.all_append]
        exact congrArg _ (Bool.and_true _)
      have hDistinct : ∀ source : EvidenceSourceClass,
          distinctClaims [] (peers evidence provenance ++ [record.sourced provenance source]) =
            distinctClaims [] (peers evidence provenance) ++
              if (peers evidence provenance).any fun earlier => sameClaim earlier record then []
              else [record.id] := fun source => distinctClaims_append [] _ _
      have hSome : ∀ source : EvidenceSourceClass, ∃ first, pickDeterministic (strongestRecords
          (entry.sourced evidence record (provenance, source)).evidence) = some first := by
        intro source
        refine Option.ne_none_iff_exists'.1 fun hNone => ?_
        have hMem := List.mem_of_mem_filter (pickDeterministic_mem (hWinner source))
        exact absurd hMem (pickDeterministic_eq_none.1 hNone ▸ List.not_mem_nil)
      obtain ⟨one, hOne⟩ := hSome sourceClass
      obtain ⟨other, hOther⟩ := hSome later
      rw [computeResolution_eq, computeResolution_eq, hCounted, hWinner, hWinner,
        sourced_deciding hCurrent h, sourced_deciding hCurrent h, hOne, hOther]
      dsimp only
      rw [hAll, hAll, hDistinct, hDistinct]

/-- An outclassed record and a leading one never resolve alike. -/
theorem resolution_leads (hCurrent : isCurrent record.currentness = true)
    (hFirst : ¬Outclassed evidence first.1) (hSecond : Outclassed evidence second.1) :
    computeResolution entity bound (entry.sourced evidence record first) ≠
      computeResolution entity bound (entry.sourced evidence record second) := by
  intro hSame
  have hStrongest := (@sourced_outclassed entry _ _ _ hCurrent hSecond).1
  obtain ⟨held, hLive, -⟩ := hSecond
  obtain ⟨strongest, hBest⟩ := exists_strongest hLive
  rw [← mem_strongestRecords] at hBest
  -- the strongest records are peers of the leading one
  have hClass : strongest.provenance = first.1 := by
    rw [← @resolution_leading entity bound entry _ _ _ hCurrent hFirst, hSame]
    exact (@resolution_provenance entity bound (entry.sourced evidence record second) strongest
      (hStrongest ▸ hBest)).symm
  have hRank : strongestRank (livePool evidence) = provenanceRank first.1 := by
    rw [← hClass, beq_iff_eq.1 (List.mem_filter.1 hBest).2]
  -- so one more record is strongest when it leads
  have hMore : (strongestRecords (entry.sourced evidence record first).evidence).length =
      (strongestRecords evidence).length + 1 := by
    rw [(sourced_strongest hCurrent hFirst).2, strongestRecords, hRank]
  have hPool : (livePool (entry.sourced evidence record first).evidence).length =
      (livePool (entry.sourced evidence record second).evidence).length := by
    have hOne : ∀ origin : ProvenanceClass × EvidenceSourceClass,
        (livePool (entry.sourced evidence record origin).evidence).length =
          (evidence.filter fun held => isCurrent held.currentness).length +
            ((evidence.filter fun held => isSuspended held.currentness).length + 1) := by
      intro origin
      have hPool := @livePool_append evidence (record.sourced origin.1 origin.2) hCurrent
      unfold CapabilityEntry.sourced
      rw [hPool, List.length_append, List.length_cons]
    rw [hOne, hOne]
  have hFits : (strongestRecords (entry.sourced evidence record first).evidence).length ≤
      (livePool (entry.sourced evidence record first).evidence).length := List.length_filter_le ..
  have hCounts := congrArg CapabilityResolution.outrankedEvidenceCount hSame
  rw [resolution_outranked, resolution_outranked, hStrongest, ← hPool, hMore] at hCounts
  omega

/-- When the origin of the newest record does not show. -/
theorem resolution_sourced_iff (hCurrent : isCurrent record.currentness = true) :
    computeResolution entity bound (entry.sourced evidence record first) =
        computeResolution entity bound (entry.sourced evidence record second) ↔
      SourcedAlike evidence record.evidenceGeneration record.identity first second := by
  constructor
  · intro hSame
    by_cases hFirst : Outclassed evidence first.1
    · by_cases hSecond : Outclassed evidence second.1
      · exact .inr (.inl ⟨hFirst, hSecond⟩)
      · exact absurd hSame.symm (resolution_leads hCurrent hSecond hFirst)
    · by_cases hSecond : Outclassed evidence second.1
      · exact absurd hSame (resolution_leads hCurrent hFirst hSecond)
      · have hClass : first.1 = second.1 := by
          rw [← @resolution_leading entity bound entry _ _ _ hCurrent hFirst, hSame]
          exact resolution_leading hCurrent hSecond
        by_cases hBeaten : ∃ held ∈ peers evidence first.1, outranks record held = false
        · obtain ⟨held, hPeer, hLoses⟩ := hBeaten
          obtain ⟨hLive, hHeld, hKind⟩ := mem_peers.1 hPeer
          exact .inr (.inr ⟨hClass, held, hLive, hHeld, hKind, hLoses⟩)
        · have hWins : ∀ held ∈ peers evidence first.1, outranks record held = true := by
            intro held hPeer
            by_contra hLoses
            exact hBeaten ⟨held, hPeer, Bool.not_eq_true _ ▸ hLoses⟩
          refine .inl (Prod.ext hClass ?_)
          rw [← @resolution_winning entity bound entry _ _ _ hCurrent hFirst hWins, hSame]
          exact resolution_winning hCurrent hSecond (hClass ▸ hWins)
  · rintro (rfl | ⟨hFirst, hSecond⟩ | ⟨hClass, held, hLive, hHeld, hKind, hLoses⟩)
    · rfl
    · exact resolution_outclassed hCurrent hFirst hSecond
    · obtain ⟨provenance, sourceClass⟩ := first
      obtain ⟨later, laterClass⟩ := second
      obtain rfl : provenance = later := hClass
      by_cases hOver : Outclassed evidence provenance
      · exact resolution_outclassed hCurrent hOver hOver
      · exact resolution_beaten hCurrent hOver (mem_peers.2 ⟨hLive, hHeld, hKind⟩) hLoses _ _

end Origin

end FabricCapability.Ports
