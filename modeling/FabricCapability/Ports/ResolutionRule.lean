import FabricCapability.Ports.EntrySteps

/-!
# The documented rule of resolution

What the documentation says that resolving a capability means, stated of the evidence
alone: the live records of the strongest provenance class decide, and of these the current
ones.  `ResolveCapability` selects the same records by a walk over the evidence, picks a
winner among them and compares the others with it.

A claim may assert any state, CONFLICTED included, and no check refuses it.  Then a
capability is CONFLICTED although nobody disagrees.

## Main results

* `mem_decidingRecords`: the records that the code selects are those that decide.
* `resolution_documented_iff`: when a resolution is the documented one.
* `asserted_conflict_resolves`: a publisher that claims CONFLICTED.
-/

namespace FabricCapability.Ports

open FabricCapability.Verified.KeyedList
open FabricCapability.Verified.OrderFree
open FabricCapability.Verified.StrictOrder

/-! ## Equal claims -/

abbrev ComparedValue := ValueStorage ⊕ ((List UInt32 × List UInt32) × (Bool × Bool))

/-- What `operator==` of values compares. -/
def CapabilityValue.compared (value : CapabilityValue) : ComparedValue :=
  match value.storage with
  | .versionInterval v =>
      .inr ((v.minimum.padded, v.maximum.padded), (v.minimumInclusive, v.maximumInclusive))
  | storage => .inl storage

theorem CapabilityValue.same_iff (a b : CapabilityValue) :
    a.same b = true ↔ a.compared = b.compared := by
  unfold CapabilityValue.same
  split
  · rename_i x y hA hB
    unfold CapabilityValue.compared
    rw [hA, hB]
    simp [Version.same, and_assoc]
  · rename_i hNotBoth
    rw [beq_iff_eq]
    unfold CapabilityValue.compared
    split
    · rename_i x hA
      split
      · rename_i y hB
        exact absurd hB (hNotBoth x y hA)
      · rename_i hB
        rw [hA]
        exact iff_of_false (fun hEq => hB x hEq.symm) (by simp)
    · rename_i hA
      split
      · rename_i y hB
        rw [hB]
        exact iff_of_false (fun hEq => hA y hEq) (by simp)
      · exact Sum.inl_injective.eq_iff.symm

/-- What `SameClaim` compares. -/
def EvidenceRecord.claimed (record : EvidenceRecord) : CapabilityState × ComparedValue :=
  (record.state, record.value.compared)

theorem compared_absent {value : CapabilityValue} (h : value.isAbsent = true) :
    value.compared = .inl .absent := by
  unfold CapabilityValue.isAbsent CapabilityValue.kind at h
  unfold CapabilityValue.compared
  cases hStorage : value.storage <;> rw [hStorage] at h <;> first | rfl | cases h

theorem absent_compared {value : CapabilityValue} (h : value.compared = .inl .absent) :
    value.isAbsent = true := by
  unfold CapabilityValue.compared at h
  unfold CapabilityValue.isAbsent CapabilityValue.kind
  split at h
  · cases h
  · rw [Sum.inl.inj h]
    rfl

theorem sameClaim_iff (a b : EvidenceRecord) :
    sameClaim a b = true ↔ a.claimed = b.claimed := by
  unfold sameClaim EvidenceRecord.claimed
  rw [Prod.mk.injEq]
  by_cases hState : a.state = b.state
  · rw [if_neg (not_not.2 hState), and_iff_right hState]
    by_cases hAbsent : a.value.isAbsent = b.value.isAbsent
    · rw [if_neg (not_not.2 hAbsent)]
      by_cases hNone : a.value.isAbsent = true
      · rw [if_pos hNone, compared_absent hNone, compared_absent (hAbsent ▸ hNone)]
        simp
      · rw [if_neg hNone, CapabilityValue.same_iff]
    · rw [if_pos hAbsent]
      refine iff_of_false Bool.false_ne_true fun hCompared => hAbsent ?_
      rw [Bool.eq_iff_iff]
      constructor
      · exact fun hNone => absent_compared (hCompared ▸ compared_absent hNone)
      · exact fun hNone => absent_compared (hCompared.symm ▸ compared_absent hNone)
  · rw [if_pos hState]
    exact iff_of_false Bool.false_ne_true fun hBoth => hState hBoth.1

/-! ## The records that decide -/

/-- The live records, in the order in which `ResolveCapability` pools them. -/
def livePool (evidence : List EvidenceRecord) : List EvidenceRecord :=
  (evidence.filter fun record => isCurrent record.currentness) ++
    evidence.filter fun record => isSuspended record.currentness

/-- The live records of the strongest class, as `ResolveCapability` selects them. -/
def strongestRecords (evidence : List EvidenceRecord) : List EvidenceRecord :=
  (livePool evidence).filter fun record =>
    provenanceRank record.provenance == strongestRank (livePool evidence)

/-- The current ones of these. -/
def decidingRecords (evidence : List EvidenceRecord) : List EvidenceRecord :=
  (strongestRecords evidence).filter fun record => isCurrent record.currentness

/-- The record is live, and no live record has a stronger provenance. -/
def Strongest (evidence : List EvidenceRecord) (record : EvidenceRecord) : Prop :=
  record ∈ liveRecords evidence ∧ ∀ other ∈ liveRecords evidence,
    provenanceRank record.provenance ≤ provenanceRank other.provenance

/-- The record is one of the strongest, and current. -/
def Decides (evidence : List EvidenceRecord) (record : EvidenceRecord) : Prop :=
  Strongest evidence record ∧ isCurrent record.currentness = true

theorem mem_livePool {evidence : List EvidenceRecord} {record : EvidenceRecord} :
    record ∈ livePool evidence ↔ record ∈ liveRecords evidence := by
  rw [livePool, liveRecords, List.mem_append, List.mem_filter, List.mem_filter, List.mem_filter,
    ← and_or_left]
  refine and_congr_right fun _ => ?_
  cases record.currentness <;> decide

section Ranks

variable {pool : List EvidenceRecord} {rank : UInt8}

theorem min_rank (a b : UInt8) : (min a b = a ∧ a ≤ b) ∨ (min a b = b ∧ b ≤ a) := by
  have hMin : min a b = if a ≤ b then a else b := rfl
  by_cases h : a ≤ b
  · exact .inl ⟨by rw [hMin, if_pos h], h⟩
  · exact .inr ⟨by rw [hMin, if_neg h], UInt8.le_of_lt (UInt8.not_le.1 h)⟩

theorem le_foldl_rank :
    (pool.foldl (fun rank record => min rank (provenanceRank record.provenance)) rank) ≤ rank ∧
    ∀ record ∈ pool,
      (pool.foldl (fun rank record => min rank (provenanceRank record.provenance)) rank) ≤
        provenanceRank record.provenance := by
  induction pool generalizing rank with
  | nil => exact ⟨UInt8.le_refl _, by simp⟩
  | cons record pool ih =>
      obtain ⟨hRank, hRest⟩ := @ih (min rank (provenanceRank record.provenance))
      rw [List.foldl_cons]
      have hMin : min rank (provenanceRank record.provenance) ≤ rank ∧
          min rank (provenanceRank record.provenance) ≤ provenanceRank record.provenance := by
        rcases min_rank rank (provenanceRank record.provenance) with ⟨hMin, hLe⟩ | ⟨hMin, hLe⟩
        · rw [hMin]
          exact ⟨UInt8.le_refl _, hLe⟩
        · rw [hMin]
          exact ⟨hLe, UInt8.le_refl _⟩
      refine ⟨UInt8.le_trans hRank hMin.1, fun other hMem => ?_⟩
      rcases List.mem_cons.1 hMem with rfl | hMem
      · exact UInt8.le_trans hRank hMin.2
      · exact hRest other hMem

theorem foldl_rank_attained :
    (pool.foldl (fun rank record => min rank (provenanceRank record.provenance)) rank) = rank ∨
    ∃ record ∈ pool,
      provenanceRank record.provenance =
        pool.foldl (fun rank record => min rank (provenanceRank record.provenance)) rank := by
  induction pool generalizing rank with
  | nil => exact .inl rfl
  | cons record pool ih =>
      rw [List.foldl_cons]
      rcases @ih (min rank (provenanceRank record.provenance)) with hStart | ⟨other, hMem, hRank⟩
      · rcases min_rank rank (provenanceRank record.provenance) with ⟨hKept, -⟩ | ⟨hTaken, -⟩
        · exact .inl (hStart.trans hKept)
        · exact .inr ⟨record, List.mem_cons_self .., (hStart.trans hTaken).symm⟩
      · exact .inr ⟨other, List.mem_cons_of_mem _ hMem, hRank⟩

theorem provenanceRank_lt (provenance : ProvenanceClass) :
    provenanceRank provenance < kProvenanceClassCount := by
  cases provenance <;> decide

/-- The rank that the walk arrives at is the one of the strongest records. -/
theorem rank_eq_strongest {record : EvidenceRecord} (hMem : record ∈ pool) :
    provenanceRank record.provenance = strongestRank pool ↔
      ∀ other ∈ pool, provenanceRank record.provenance ≤ provenanceRank other.provenance := by
  obtain ⟨-, hLower⟩ := @le_foldl_rank pool kProvenanceClassCount
  constructor
  · intro hRank other hOther
    rw [hRank]
    exact hLower other hOther
  · intro hLeast
    refine UInt8.le_antisymm ?_ (hLower record hMem)
    rcases @foldl_rank_attained pool kProvenanceClassCount with hStart | ⟨other, hOther, hRank⟩
    · rw [strongestRank, hStart]
      exact UInt8.le_of_lt (provenanceRank_lt _)
    · rw [strongestRank, ← hRank]
      exact hLeast other hOther

end Ranks

theorem mem_strongestRecords {evidence : List EvidenceRecord} {record : EvidenceRecord} :
    record ∈ strongestRecords evidence ↔ Strongest evidence record := by
  rw [strongestRecords, List.mem_filter, beq_iff_eq, Strongest, mem_livePool]
  refine and_congr_right fun hLive => ?_
  rw [rank_eq_strongest (mem_livePool.2 hLive)]
  exact forall_congr' fun other => imp_congr_left mem_livePool

theorem mem_decidingRecords {evidence : List EvidenceRecord} {record : EvidenceRecord} :
    record ∈ decidingRecords evidence ↔ Decides evidence record := by
  rw [decidingRecords, List.mem_filter, mem_strongestRecords, Decides]

/-- A live record has a strongest one at its side. -/
theorem exists_strongest {evidence : List EvidenceRecord} {record : EvidenceRecord}
    (h : record ∈ liveRecords evidence) : ∃ strongest, Strongest evidence strongest := by
  obtain ⟨hRank, hLower⟩ := @le_foldl_rank (livePool evidence) kProvenanceClassCount
  rcases @foldl_rank_attained (livePool evidence) kProvenanceClassCount with
    hStart | ⟨strongest, hMem, hRank⟩
  · have hBelow := hLower record (mem_livePool.2 h)
    rw [hStart] at hBelow
    exact absurd (provenanceRank_lt _) (UInt8.not_lt.2 hBelow)
  · refine ⟨strongest, mem_strongestRecords.1 (List.mem_filter.2 ⟨hMem, ?_⟩)⟩
    rw [beq_iff_eq, hRank, strongestRank]

/-! ## The choice -/

/-- State and value of a resolution, with the flag that there is a value. -/
def CapabilityResolution.outcome (resolution : CapabilityResolution) :
    CapabilityState × CapabilityValue × Bool :=
  (resolution.state, resolution.value, resolution.hasValue)

/-- The outcome that the strongest records and the current ones of them lead to. -/
def outcomeOf (strongest deciding : List EvidenceRecord) :
    CapabilityState × CapabilityValue × Bool :=
  match pickDeterministic strongest, pickDeterministic deciding with
  | none, _ => (.unknown, .absent, false)
  | some winner, none => (.revalidationRequired, winner.value, !winner.value.isAbsent)
  | some _, some winner =>
      if deciding.all fun record => sameClaim record winner then
        (winner.state, winner.value, !winner.value.isAbsent)
      else (.conflicted, .absent, false)

/-- What a resolution counts, whoever wins. -/
def CapabilityEntry.counted (entity : EntityId) (bound : EntityGeneration)
    (entry : CapabilityEntry) : CapabilityResolution :=
  let current := entry.evidence.filter fun record => isCurrent record.currentness
  let nonCurrent := entry.evidence.filter fun record => isSuspended record.currentness
  let retired := entry.evidence.filter fun record => isRetired record.currentness
  { capability := entry.id
    recordId := makeCapabilityRecordId entity bound entry.id
    evidenceCount := current.length + nonCurrent.length + retired.length
    currentEvidenceCount := current.length
    capabilityGeneration := entry.generation
    hasNonCurrentEvidence := !nonCurrent.isEmpty
    outrankedEvidenceCount :=
      (livePool entry.evidence).length - (strongestRecords entry.evidence).length }

/-- `ResolveCapability` in terms of the records that decide. -/
theorem computeResolution_eq (entity : EntityId) (bound : EntityGeneration)
    (entry : CapabilityEntry) :
    computeResolution entity bound entry =
      match pickDeterministic (strongestRecords entry.evidence),
        pickDeterministic (decidingRecords entry.evidence) with
      | none, _ => entry.counted entity bound
      | some winner, none =>
          withValueOf { withWinner (entry.counted entity bound) winner with
            state := .revalidationRequired } winner
      | some _, some winner =>
          if (decidingRecords entry.evidence).all fun record => sameClaim record winner then
            withValueOf { withWinner (entry.counted entity bound) winner with
              state := winner.state } winner
          else
            let conflicting :=
              (distinctClaims [] (decidingRecords entry.evidence)).take kMaxEvidencePerCapability
            { withWinner (entry.counted entity bound) winner with
              state := .conflicted
              conflictingEvidence := conflicting
              conflictingEvidenceCount := conflicting.length } := rfl

theorem computeResolution_outcome (entity : EntityId) (bound : EntityGeneration)
    (entry : CapabilityEntry) :
    (computeResolution entity bound entry).outcome =
      outcomeOf (strongestRecords entry.evidence) (decidingRecords entry.evidence) := by
  rw [computeResolution_eq]
  unfold outcomeOf
  cases pickDeterministic (strongestRecords entry.evidence) with
  | none => rfl
  | some first =>
      cases pickDeterministic (decidingRecords entry.evidence) with
      | none => rfl
      | some winner =>
          dsimp only
          split <;> rfl

theorem pickDeterministic_eq_none {records : List EvidenceRecord} :
    pickDeterministic records = none ↔ records = [] := by
  cases records with
  | nil => exact iff_of_true rfl rfl
  | cons record records => exact iff_of_false (by simp [pickDeterministic]) (by simp)

/-- The three outcomes of a choice: no live record, no current one, or a winner. -/
theorem outcomeOf_winner {strongest deciding : List EvidenceRecord} {winner : EvidenceRecord}
    (hStrongest : strongest ≠ []) (hWinner : pickDeterministic deciding = some winner) :
    outcomeOf strongest deciding =
      if deciding.all fun record => sameClaim record winner then
        (winner.state, winner.value, !winner.value.isAbsent)
      else (.conflicted, .absent, false) := by
  unfold outcomeOf
  cases hPick : pickDeterministic strongest with
  | none => exact absurd (pickDeterministic_eq_none.1 hPick) hStrongest
  | some first => rw [hWinner]

theorem outcomeOf_suspended {strongest : List EvidenceRecord} (h : strongest ≠ []) :
    (outcomeOf strongest []).1 = .revalidationRequired := by
  unfold outcomeOf
  cases hPick : pickDeterministic strongest with
  | none => exact absurd (pickDeterministic_eq_none.1 hPick) h
  | some first => rfl

/-! ## The rule -/

/-- The live records of the classes up to a rank. -/
def upToRank (rank : UInt8) (evidence : List EvidenceRecord) : List EvidenceRecord :=
  (liveRecords evidence).filter fun record => provenanceRank record.provenance ≤ rank

/-- Two records that decide say different things. -/
def Disagreement (evidence : List EvidenceRecord) : Prop :=
  ∃ a b, Decides evidence a ∧ Decides evidence b ∧ sameClaim a b = false

/-- The result is what the record claims. -/
structure CapabilityResolution.Says (resolution : CapabilityResolution)
    (record : EvidenceRecord) : Prop where
  state : resolution.state = record.state
  value : resolution.value.same record.value = true
  hasValue : resolution.hasValue = !record.value.isAbsent

/-- The documented rule, for a function that resolves evidence. -/
structure Documented (resolve : List EvidenceRecord → CapabilityResolution)
    (evidence : List EvidenceRecord) : Prop where
  unknown : liveRecords evidence = [] → (resolve evidence).state = .unknown
  revalidation : (∃ record, Strongest evidence record) → (∀ record, ¬Decides evidence record) →
    (resolve evidence).state = .revalidationRequired
  agreed : ¬Disagreement evidence → ∀ record, Decides evidence record →
    (resolve evidence).Says record
  conflicted : (resolve evidence).state = .conflicted ↔ Disagreement evidence
  /-- Adding or changing weaker evidence alters neither state nor value. -/
  weaker : ∀ record later, Strongest evidence record →
    upToRank (provenanceRank record.provenance) later =
      upToRank (provenanceRank record.provenance) evidence →
    (resolve later).outcome = (resolve evidence).outcome

/-- The resolution of an entry, as a function of the evidence. -/
def CapabilityEntry.resolveWith (entity : EntityId) (bound : EntityGeneration)
    (entry : CapabilityEntry) (evidence : List EvidenceRecord) : CapabilityResolution :=
  computeResolution entity bound { entry with evidence }

section Rule

variable {evidence later : List EvidenceRecord} {record : EvidenceRecord}

theorem mem_upToRank {rank : UInt8} :
    record ∈ upToRank rank evidence ↔
      record ∈ liveRecords evidence ∧ provenanceRank record.provenance ≤ rank := by
  rw [upToRank, List.mem_filter, decide_eq_true_eq]

/-- The strongest records are found among those up to their rank. -/
theorem strongestRecords_eq (h : Strongest evidence record) :
    strongestRecords evidence =
      (livePool (upToRank (provenanceRank record.provenance) evidence)).filter fun other =>
        provenanceRank other.provenance == provenanceRank record.provenance := by
  have hRank : provenanceRank record.provenance = strongestRank (livePool evidence) :=
    beq_iff_eq.1 (List.mem_filter.1 (mem_strongestRecords.2 h)).2
  rw [strongestRecords, ← hRank]
  unfold livePool upToRank liveRecords
  rw [List.filter_append, List.filter_append]
  simp only [List.filter_filter]
  congr 1
  all_goals
    refine List.filter_congr fun other _ => ?_
    cases hEqual : provenanceRank other.provenance == provenanceRank record.provenance with
    | false => rfl
    | true =>
        rw [beq_iff_eq] at hEqual
        rw [hEqual]
        cases other.currentness <;> simp [isCurrent, isSuspended, isRetired]

/-- A strongest record stays one when only weaker evidence changes. -/
theorem Strongest.of_upToRank (h : Strongest evidence record)
    (hSame : upToRank (provenanceRank record.provenance) later =
      upToRank (provenanceRank record.provenance) evidence) : Strongest later record := by
  have hHere : record ∈ upToRank (provenanceRank record.provenance) later := by
    rw [hSame]
    exact mem_upToRank.2 ⟨h.1, UInt8.le_refl _⟩
  refine ⟨(mem_upToRank.1 hHere).1, fun other hOther => ?_⟩
  by_cases hLe : provenanceRank other.provenance ≤ provenanceRank record.provenance
  · have hMem : other ∈ upToRank (provenanceRank record.provenance) evidence :=
      hSame ▸ mem_upToRank.2 ⟨hOther, hLe⟩
    exact h.2 other (mem_upToRank.1 hMem).1
  · exact UInt8.le_of_lt (UInt8.not_le.1 hLe)

theorem disagreement_of_not_same {winner other : EvidenceRecord}
    (hWinner : Decides evidence winner) (hOther : Decides evidence other)
    (h : sameClaim other winner = false) : Disagreement evidence :=
  ⟨other, winner, hOther, hWinner, h⟩

/-- Records that all agree with the winner agree with each other. -/
theorem agreed_of_all {winner : EvidenceRecord}
    (hAll : ((decidingRecords evidence).all fun record => sameClaim record winner) = true) :
    ¬Disagreement evidence := by
  rintro ⟨a, b, hA, hB, hDiffer⟩
  rw [List.all_eq_true] at hAll
  have hFirst := (sameClaim_iff ..).1 (hAll a (mem_decidingRecords.2 hA))
  have hSecond := (sameClaim_iff ..).1 (hAll b (mem_decidingRecords.2 hB))
  rw [(sameClaim_iff ..).2 (hFirst.trans hSecond.symm)] at hDiffer
  cases hDiffer

end Rule

/-! ## The outcome of a choice -/

section Outcome

variable {entity : EntityId} {bound : EntityGeneration} {entry : CapabilityEntry}
  {evidence later : List EvidenceRecord} {record : EvidenceRecord}

theorem resolveWith_outcome :
    (entry.resolveWith entity bound evidence).outcome =
      outcomeOf (strongestRecords evidence) (decidingRecords evidence) :=
  computeResolution_outcome entity bound { entry with evidence }

theorem resolveWith_state :
    (entry.resolveWith entity bound evidence).state =
      (outcomeOf (strongestRecords evidence) (decidingRecords evidence)).1 :=
  congrArg Prod.fst resolveWith_outcome

theorem decidingRecords_nil (h : ∀ record, ¬Decides evidence record) :
    decidingRecords evidence = [] :=
  List.eq_nil_iff_forall_not_mem.2 fun record hMem => h record (mem_decidingRecords.1 hMem)

/-- When a record decides, one that decides is compared with the others. -/
theorem exists_winner (hDecides : Decides evidence record) :
    ∃ winner, Decides evidence winner ∧ (entry.resolveWith entity bound evidence).outcome =
      if (decidingRecords evidence).all fun record => sameClaim record winner then
        (winner.state, winner.value, !winner.value.isAbsent)
      else (.conflicted, .absent, false) := by
  cases hPick : pickDeterministic (decidingRecords evidence) with
  | none =>
      have hNone := pickDeterministic_eq_none.1 hPick
      exact absurd hNone (List.ne_nil_of_mem (mem_decidingRecords.2 hDecides))
  | some winner =>
      refine ⟨winner, mem_decidingRecords.1 (pickDeterministic_mem hPick), ?_⟩
      rw [resolveWith_outcome]
      exact outcomeOf_winner (List.ne_nil_of_mem (mem_strongestRecords.2 hDecides.1)) hPick

theorem unknown_of_none (h : liveRecords evidence = []) :
    (entry.resolveWith entity bound evidence).state = .unknown := by
  have hEmpty : strongestRecords evidence = [] := by
    refine List.eq_nil_iff_forall_not_mem.2 fun record hMem => ?_
    have hLive := (mem_strongestRecords.1 hMem).1
    rw [h] at hLive
    cases hLive
  rw [resolveWith_state, hEmpty]
  rfl

theorem revalidation_of_suspended (hStrongest : Strongest evidence record)
    (hNone : ∀ record, ¬Decides evidence record) :
    (entry.resolveWith entity bound evidence).state = .revalidationRequired := by
  rw [resolveWith_state, decidingRecords_nil hNone]
  exact outcomeOf_suspended (List.ne_nil_of_mem (mem_strongestRecords.2 hStrongest))

/-- Records with the same claim have the same value, or none. -/
theorem isAbsent_congr {a b : CapabilityValue} (h : a.compared = b.compared) :
    a.isAbsent = b.isAbsent := by
  rw [Bool.eq_iff_iff]
  constructor
  · exact fun hAbsent => absent_compared (h.symm.trans (compared_absent hAbsent))
  · exact fun hAbsent => absent_compared (h.trans (compared_absent hAbsent))

theorem says_of_agreement (hNone : ¬Disagreement evidence) (hDecides : Decides evidence record) :
    (entry.resolveWith entity bound evidence).Says record := by
  obtain ⟨winner, hWinner, hResult⟩ := @exists_winner entity bound entry _ _ hDecides
  have hSame : ∀ other, Decides evidence other → sameClaim other winner = true := by
    intro other hOther
    by_contra hDiffer
    exact hNone (disagreement_of_not_same hWinner hOther (Bool.not_eq_true _ ▸ hDiffer))
  rw [if_pos (List.all_eq_true.2 fun other hMem =>
    hSame other (mem_decidingRecords.1 hMem))] at hResult
  have hClaim := (sameClaim_iff ..).1 (hSame record hDecides)
  have hValue : record.value.compared = winner.value.compared := congrArg Prod.snd hClaim
  refine ⟨(congrArg Prod.fst hResult).trans (congrArg Prod.fst hClaim).symm, ?_, ?_⟩
  · have hHeld : (entry.resolveWith entity bound evidence).value = winner.value :=
      congrArg (fun outcome => outcome.2.1) hResult
    rw [CapabilityValue.same_iff, hValue, hHeld]
  · rw [isAbsent_congr hValue]
    exact congrArg (fun outcome => outcome.2.2) hResult

theorem conflicted_of_disagreement (h : Disagreement evidence) :
    (entry.resolveWith entity bound evidence).state = .conflicted := by
  obtain ⟨record, -, hDecides, -⟩ := id h
  obtain ⟨winner, hWinner, hResult⟩ := @exists_winner entity bound entry _ _ hDecides
  rw [if_neg fun hAll => agreed_of_all hAll h] at hResult
  exact congrArg Prod.fst hResult

/-- A capability in conflict has sources that disagree, or one that claims the conflict. -/
theorem cause_of_conflicted (h : (entry.resolveWith entity bound evidence).state = .conflicted) :
    Disagreement evidence ∨ ∃ record, Decides evidence record ∧ record.state = .conflicted := by
  by_cases hAny : ∃ record, Decides evidence record
  · obtain ⟨record, hDecides⟩ := hAny
    by_cases hNone : Disagreement evidence
    · exact .inl hNone
    · have hSays := (@says_of_agreement entity bound entry _ _ hNone hDecides).state
      exact .inr ⟨record, hDecides, hSays.symm.trans h⟩
  · rw [resolveWith_state,
      decidingRecords_nil fun record hDecides => hAny ⟨record, hDecides⟩] at h
    unfold outcomeOf at h
    cases hPick : pickDeterministic (strongestRecords evidence) <;> rw [hPick] at h <;> cases h

/-- Weaker evidence does not take part. -/
theorem outcome_of_upToRank (hStrongest : Strongest evidence record)
    (hSame : upToRank (provenanceRank record.provenance) later =
      upToRank (provenanceRank record.provenance) evidence) :
    (entry.resolveWith entity bound later).outcome =
      (entry.resolveWith entity bound evidence).outcome := by
  have hRecords : strongestRecords later = strongestRecords evidence := by
    rw [strongestRecords_eq (hStrongest.of_upToRank hSame), strongestRecords_eq hStrongest, hSame]
  rw [resolveWith_outcome, resolveWith_outcome, decidingRecords, hRecords]
  rfl

end Outcome

/-- A resolution is the documented one unless CONFLICTED is claimed without a disagreement. -/
theorem resolution_documented_iff (entity : EntityId) (bound : EntityGeneration)
    (entry : CapabilityEntry) :
    Documented (entry.resolveWith entity bound) entry.evidence ↔
      ((∃ record, Decides entry.evidence record ∧ record.state = .conflicted) →
        Disagreement entry.evidence) := by
  constructor
  · rintro h ⟨record, hDecides, hState⟩
    by_contra hNone
    have hSays := (h.agreed hNone record hDecides).state
    exact hNone (h.conflicted.1 (hSays.trans hState))
  · intro hClaimed
    exact {
      unknown := unknown_of_none
      revalidation := fun ⟨_, hStrongest⟩ hNone => revalidation_of_suspended hStrongest hNone
      agreed := fun hNone _ hDecides => says_of_agreement hNone hDecides
      conflicted := ⟨fun hState => (cause_of_conflicted hState).elim id hClaimed,
        conflicted_of_disagreement⟩
      weaker := fun _ _ hStrongest hSame => outcome_of_upToRank hStrongest hSame }

/-! ### A claim of CONFLICTED -/

namespace Sample

/-- One publisher, one claim, and nobody who disagrees. -/
def assertedConflict : List Operation :=
  setup ++ [.publish (publication bootOne "attempt-1" 1 0 (claim .conflicted .processBound))]

end Sample

/-- One record that is in conflict with itself. -/
theorem asserted_conflict_resolves :
    ¬∀ options operations, ∀ entity ∈ (afterRun options operations).entities,
      ∀ entry ∈ entity.capabilities,
      Documented (entry.resolveWith entity.id entity.boundGeneration) entry.evidence := by
  intro h
  have hRun : ∃ entity ∈ (afterRun {} Sample.assertedConflict).entities,
      ∃ entry ∈ entity.capabilities, entry.evidence.length = 1 ∧
        (entry.resolveWith entity.id entity.boundGeneration entry.evidence).state =
          .conflicted := by
    decide +kernel
  obtain ⟨entity, hEntity, entry, hEntry, hOne, hState⟩ := hRun
  have hDocumented := h {} Sample.assertedConflict entity hEntity entry hEntry
  obtain ⟨a, b, hA, hB, hDiffer⟩ := hDocumented.conflicted.1 hState
  obtain ⟨record, hRecord⟩ := List.length_eq_one_iff.1 hOne
  have hOnly : ∀ other, Decides entry.evidence other → other = record := by
    intro other hOther
    have hMem := (List.mem_filter.1 hOther.1.1).1
    rw [hRecord] at hMem
    exact List.mem_singleton.1 hMem
  rw [hOnly a hA, hOnly b hB, (sameClaim_iff record record).2 rfl] at hDiffer
  cases hDiffer

end FabricCapability.Ports
