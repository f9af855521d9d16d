import FabricCapability.Ports.Deployments
import FabricCapability.Ports.LoadBounds
import FabricCapability.Ports.ResolutionRule

/-!
# The order of arrival

A capability has at most one live record of each publishing identity: a claim supersedes
what the identity said before, the operations that demote records leave them where they
are, and a file holds the claims of an entity under texts that read back as distinct
capabilities.

The winner of a resolution is chosen by generation, source and boot, so among such records
it is the same whatever the order of the evidence.  The identifiers of conflicting records
are the first of each claim, in the order of the evidence; how many they are does not
depend on it.

## Main results

* `resolve_perm`: a resolution does not depend on the order of evidence with one voice per
  identity.
* `arrival_order_is_irrelevant`: every reachable state has one voice per identity.
-/

namespace FabricCapability.Ports

open FabricCapability.Verified.KeyedList
open FabricCapability.Verified.OrderFree
open FabricCapability.Verified.Restores
open FabricCapability.Verified.StrictOrder

/-! ## One voice per identity -/

/-- The identity that publishes the record. -/
def EvidenceRecord.identity (record : EvidenceRecord) : SourceKey :=
  { source := record.source, boot := record.workerBoot }

/-- At most one live record of each identity. -/
def OneVoice (evidence : List EvidenceRecord) : Prop :=
  ((liveRecords evidence).map EvidenceRecord.identity).Nodup

theorem OneVoice.sublist {evidence later : List EvidenceRecord} (h : OneVoice evidence)
    (hSub : ((liveRecords later).map EvidenceRecord.identity).Sublist
      ((liveRecords evidence).map EvidenceRecord.identity)) : OneVoice later :=
  hSub.nodup h

/-! ## Independence of the order -/

section Order

/-- What `PickDeterministic` compares. -/
def EvidenceRecord.seniority (record : EvidenceRecord) :
    UInt64 × (Bytes × Bytes) :=
  (record.evidenceGeneration, (record.source.value, record.workerBoot.value))

theorem newer_total : StrictTotal fun a b : UInt64 => wordLt b a where
  irrefl a := wordLt_total.irrefl a
  trans a b c hab hbc := wordLt_total.trans c b a hbc hab
  eq_of_not_lt a b hab hba := wordLt_total.eq_of_not_lt a b hba hab

theorem seniority_total : StrictTotal
    (pairLt (fun a b : UInt64 => wordLt b a) (pairLt bytesLt bytesLt)) :=
  newer_total.pair (bytesLt_total.pair bytesLt_total)

theorem outranks_eq (record best : EvidenceRecord) :
    outranks record best =
      pairLt (fun a b : UInt64 => wordLt b a) (pairLt bytesLt bytesLt) record.seniority
        best.seniority := by
  unfold outranks pairLt EvidenceRecord.seniority
  dsimp only
  by_cases hGeneration : record.evidenceGeneration = best.evidenceGeneration
  · rw [if_pos hGeneration, hGeneration, if_neg (UInt64.lt_irrefl _),
      if_neg (UInt64.lt_irrefl _)]
    by_cases hSource : record.source = best.source
    · rw [if_neg (not_not.2 hSource), if_pos (congrArg TokenId.value hSource)]
      rfl
    · rw [if_pos hSource, if_neg fun hValue => hSource (TokenId.ext hValue)]
      rfl
  · rw [if_neg hGeneration]
    by_cases hNewer : record.evidenceGeneration > best.evidenceGeneration
    · rw [if_pos hNewer]
      exact (decide_eq_true hNewer).symm
    · rw [if_neg hNewer]
      have hOlder : record.evidenceGeneration < best.evidenceGeneration :=
        UInt64.lt_of_le_of_ne (UInt64.not_lt.1 hNewer) hGeneration
      rw [if_pos hOlder]
      exact (decide_eq_false hNewer).symm

theorem outranks_weak : StrictWeak outranks := by
  have hKey := seniority_total.comap EvidenceRecord.seniority
  constructor
  · intro a b hab
    rw [outranks_eq] at hab ⊢
    exact hKey.asymm a b hab
  · intro a b c hab hbc
    rw [outranks_eq] at hab hbc ⊢
    exact hKey.negTrans a b c hab hbc

variable {records others : List EvidenceRecord}

/-- Records of different identities are never tied. -/
theorem outranks_ties (hVoices : (records.map EvidenceRecord.identity).Nodup)
    {a b : EvidenceRecord} (hA : a ∈ records) (hB : b ∈ records)
    (hab : outranks a b = false) (hba : outranks b a = false) : a = b := by
  rw [outranks_eq] at hab hba
  have hKeys := seniority_total.eq_of_not_lt _ _ hab hba
  have hPair := congrArg Prod.snd hKeys
  refine List.inj_on_of_nodup_map hVoices hA hB ?_
  unfold EvidenceRecord.identity
  rw [TokenId.ext (congrArg Prod.fst hPair), TokenId.ext (congrArg Prod.snd hPair)]

theorem pickDeterministic_perm (hVoices : (records.map EvidenceRecord.identity).Nodup)
    (h : records.Perm others) : pickDeterministic records = pickDeterministic others := by
  cases records with
  | nil => rw [h.nil_eq]
  | cons record records =>
      cases others with
      | nil => exact absurd h.length_eq (by simp)
      | cons other others =>
          rw [pickDeterministic, pickDeterministic, pickFrom_eq, pickFrom_eq]
          congr 1
          exact champion_perm outranks_weak
            (fun a hA b hB hab hba => outranks_ties hVoices hA hB hab hba) h

theorem distinctClaims_eq (seen records : List EvidenceRecord) :
    distinctClaims seen records = (firsts sameClaim seen records).map EvidenceRecord.id := by
  induction records generalizing seen with
  | nil => rfl
  | cons record records ih =>
      rw [distinctClaims, firsts, ih]
      split <;> rfl

theorem length_distinctClaims_perm (h : records.Perm others) :
    (distinctClaims [] records).length = (distinctClaims [] others).length := by
  rw [distinctClaims_eq, distinctClaims_eq, List.length_map, List.length_map]
  exact length_firsts_perm sameClaim_iff h

theorem strongestRank_perm (h : records.Perm others) :
    strongestRank records = strongestRank others := by
  refine h.foldl_eq' (fun a _ b _ rank => ?_) _
  rw [← UInt8.toNat_inj]
  have hMin : ∀ x y : UInt8, (min x y).toNat = min x.toNat y.toNat := by
    intro x y
    rcases min_rank x y with ⟨hEq, hLe⟩ | ⟨hEq, hLe⟩ <;> rw [hEq] <;>
      rw [UInt8.le_iff_toNat_le] at hLe <;> omega
  rw [hMin, hMin, hMin, hMin]
  omega

theorem livePool_perm (evidence : List EvidenceRecord) :
    (livePool evidence).Perm (liveRecords evidence) := by
  have hSplit := List.filter_append_perm (fun record : EvidenceRecord =>
    isCurrent record.currentness) (liveRecords evidence)
  refine List.Perm.trans (List.Perm.of_eq ?_) hSplit
  unfold livePool liveRecords
  rw [List.filter_filter, List.filter_filter]
  congr 1
  all_goals
    refine List.filter_congr fun record _ => ?_
    cases record.currentness <;> rfl

variable {evidence later : List EvidenceRecord}

theorem livePool_congr (h : evidence.Perm later) : (livePool evidence).Perm (livePool later) :=
  (h.filter _).append (h.filter _)

theorem strongestRecords_perm (h : evidence.Perm later) :
    (strongestRecords evidence).Perm (strongestRecords later) := by
  rw [strongestRecords, strongestRecords, strongestRank_perm (livePool_congr h)]
  exact (livePool_congr h).filter _

theorem decidingRecords_perm (h : evidence.Perm later) :
    (decidingRecords evidence).Perm (decidingRecords later) :=
  (strongestRecords_perm h).filter _

theorem OneVoice.strongest (h : OneVoice evidence) :
    ((strongestRecords evidence).map EvidenceRecord.identity).Nodup := by
  have hPool := ((livePool_perm evidence).map EvidenceRecord.identity).nodup_iff.2 h
  exact (List.filter_sublist.map _).nodup hPool

theorem OneVoice.deciding (h : OneVoice evidence) :
    ((decidingRecords evidence).map EvidenceRecord.identity).Nodup :=
  (List.filter_sublist.map _).nodup h.strongest

theorem counted_perm (entity : EntityId) (bound : EntityGeneration) (entry : CapabilityEntry)
    (h : evidence.Perm later) :
    ({ entry with evidence } : CapabilityEntry).counted entity bound =
      ({ entry with evidence := later } : CapabilityEntry).counted entity bound := by
  have hCurrent := h.filter fun record : EvidenceRecord => isCurrent record.currentness
  have hSuspended := h.filter fun record : EvidenceRecord => isSuspended record.currentness
  have hRetired := h.filter fun record : EvidenceRecord => isRetired record.currentness
  have hNone : (evidence.filter fun record => isSuspended record.currentness).isEmpty =
      (later.filter fun record => isSuspended record.currentness).isEmpty := by
    rw [Bool.eq_iff_iff, List.isEmpty_iff, List.isEmpty_iff]
    exact ⟨fun hNil => (hNil ▸ hSuspended).nil_eq.symm,
      fun hNil => (hNil ▸ hSuspended.symm).nil_eq.symm⟩
  unfold CapabilityEntry.counted
  dsimp only
  rw [hCurrent.length_eq, hSuspended.length_eq, hRetired.length_eq, hNone,
    (livePool_congr h).length_eq, (strongestRecords_perm h).length_eq]

/-- A resolution up to the identifiers of the conflicting records, which are listed in the
order of the evidence. -/
def CapabilityResolution.unlisted (resolution : CapabilityResolution) : CapabilityResolution :=
  { resolution with conflictingEvidence := [] }

/-- With one voice per identity, the order of the evidence does not matter. -/
theorem resolve_perm (entity : EntityId) (bound : EntityGeneration) (entry : CapabilityEntry)
    (hVoices : OneVoice evidence) (h : evidence.Perm later) :
    (entry.resolveWith entity bound evidence).unlisted =
      (entry.resolveWith entity bound later).unlisted := by
  have hStrongest := pickDeterministic_perm hVoices.strongest (strongestRecords_perm h)
  have hDeciding := pickDeterministic_perm hVoices.deciding (decidingRecords_perm h)
  have hDistinct := length_distinctClaims_perm (decidingRecords_perm h)
  rw [CapabilityEntry.resolveWith, CapabilityEntry.resolveWith, computeResolution_eq,
    computeResolution_eq, counted_perm entity bound entry h]
  dsimp only
  rw [← hStrongest, ← hDeciding]
  cases pickDeterministic (strongestRecords evidence) with
  | none => rfl
  | some first =>
      cases pickDeterministic (decidingRecords evidence) with
      | none => rfl
      | some winner =>
          dsimp only
          rw [(decidingRecords_perm h).all_eq]
          split
          · rfl
          · unfold CapabilityResolution.unlisted
            rw [List.length_take, List.length_take, hDistinct]

end Order

/-! ## One voice in every reachable state -/

section Voices

variable {registry : Registry} {request : PublicationRequest} {cell : Cell} {step : ApplyStep}
  {ok : Bool} {entry later : CapabilityEntry}

/-- Demoting current records, or superseding live ones, adds no voice. -/
theorem OneVoice.relabel {evidence : List EvidenceRecord} (h : OneVoice evidence)
    {matching : EvidenceRecord → Bool} {currentness : EvidenceCurrentness}
    (hLive : ∀ record, matching record = true → isRetired record.currentness = false)
    (reason : ReasonToken) : OneVoice (relabel matching currentness reason evidence) := by
  refine h.sublist ?_
  clear h
  induction evidence with
  | nil => exact List.Sublist.refl _
  | cons record evidence ih =>
      unfold Ports.relabel liveRecords at ih ⊢
      rw [List.map_cons, List.filter_cons, List.filter_cons]
      by_cases hMatches : matching record = true
      · rw [if_pos hMatches, hLive record hMatches, Bool.not_false, if_pos rfl]
        split
        · exact ih.cons_cons _
        · exact ih.cons _
      · rw [if_neg hMatches]
        split
        · exact ih.cons_cons _
        · exact ih

theorem OneVoice.superseded {evidence : List EvidenceRecord} (h : OneVoice evidence)
    (matching : EvidenceRecord → Bool) (reason : ReasonToken) :
    OneVoice (Ports.relabel matching .superseded reason evidence) := by
  refine h.sublist ?_
  rw [liveRecords_relabel]
  exact List.filter_sublist.map _

theorem OneVoice.retained (h : OneVoice entry.evidence) :
    OneVoice (retainedEvidence registry request entry) := by
  unfold OneVoice retainedEvidence
  rw [liveRecords_trim]
  exact h.superseded _ _

/-- The record that a claim appends is the only live one of its identity. -/
theorem OneVoice.applied (h : OneVoice entry.evidence) (claim : CapabilityClaim)
    (coverage : Coverage) :
    OneVoice (retainedEvidence registry request entry ++
      [appendedRecord registry request cell claim coverage entry]) := by
  have hNew : liveRecords [appendedRecord registry request cell claim coverage entry] =
      [appendedRecord registry request cell claim coverage entry] := rfl
  have hRetained := @OneVoice.retained registry request _ h
  unfold OneVoice at hRetained ⊢
  rw [liveRecords, List.filter_append, ← liveRecords, ← liveRecords, hNew, List.map_append]
  refine List.nodup_append.2 ⟨hRetained, List.nodup_singleton _, ?_⟩
  rintro key hKey _ hAppended rfl
  rw [List.map_singleton, List.mem_singleton] at hAppended
  obtain ⟨record, hMem, hIdentity⟩ := List.mem_map.1 hKey
  rw [retainedEvidence, liveRecords_trim, liveRecords_relabel] at hMem
  obtain ⟨hLive, hOther⟩ := List.mem_filter.1 hMem
  have hLiveHere := (List.mem_filter.1 hLive).2
  have hSame : record.identity = request.sourceKey := hIdentity.trans hAppended
  have hSource : record.source = request.sourceKey.source := congrArg SourceKey.source hSame
  have hBoot : record.workerBoot = request.sourceKey.boot := congrArg SourceKey.boot hSame
  unfold liveOf at hOther
  rw [hSource, hBoot, beq_self_eq_true, beq_self_eq_true, hLiveHere] at hOther
  cases hOther

theorem EntryChange.oneVoice (hChange : EntryChange registry request cell step ok entry later)
    (h : OneVoice entry.evidence) : OneVoice later.evidence := by
  cases hChange with
  | superseded => exact h.superseded _ _
  | withdrawn => exact h.superseded _ _
  | unwithdrawn => exact h.superseded _ _
  | trimmed => exact h.retained
  | unapplied => exact h.applied _ _
  | applied => exact h.applied _ _

end Voices

/-- One voice per identity in every entry. -/
def EntityState.OneVoice (entity : EntityState) : Prop :=
  AllEntries (fun entry => Ports.OneVoice entry.evidence) entity

theorem oneVoice_blank (id : CapabilityId) : Ports.OneVoice ({ id } : CapabilityEntry).evidence :=
  List.nodup_nil

theorem demotes_current {boot : Option WorkerBootId} {source : Option SourceId}
    {includeDurable : Bool} {record : EvidenceRecord}
    (h : demotes boot source includeDurable record = true) :
    isRetired record.currentness = false := by
  unfold demotes at h
  rw [Bool.and_eq_true] at h
  have hCurrent := h.2
  revert hCurrent
  cases record.currentness <;> decide

theorem oneVoice_demoted : DemoteRule fun a b => a.OneVoice → b.OneVoice where
  refl _ := id
  trans _ _ _ hab hbc := hbc ∘ hab
  demoted currentness reason boot source includeDurable indexes entity h := by
    refine EntriesGrow.invariant (relabelEntity_grows (fun _ hEntry => hEntry) ?_)
      oneVoice_blank h
    exact fun entry _ hEntry => OneVoice.relabel hEntry (fun _ => demotes_current) reason
  flagged _ _ := id
  refreshed _ _ _ := id

theorem oneVoice_published : PublishRule fun a b => a.OneVoice → b.OneVoice where
  refl _ := id
  trans _ _ _ hab hbc := hbc ∘ hab
  retired _ _ _ _ _ _ _ _ := fun _ hMem => by cases hMem
  exhausted _ _ _ := id
  committed _ _ entity next request hAdvance hAll := by
    rw [EntityState.OneVoice, AllEntries, committedEntity_capabilities,
      (advanceGenerations_ok hAdvance).2.1]
    exact hAll

/-- One operation that is no load. -/
theorem step_oneVoice {registry : Registry} {operation : Operation}
    (h : NoLoad registry operation) :
    Follows (fun a b => a.OneVoice → b.OneVoice) registry (operation.apply registry) := by
  cases hKind : operation.refreshes with
  | false =>
      exact calmStep_follows oneVoice_published (fun _ _ _ _ => id)
        (fun attempt _ => allEntries_applies oneVoice_blank
          (fun _ _ _ _ _ _ _ hChange hVoice => hChange.oneVoice hVoice) attempt.before
          attempt.request) h hKind
  | true => exact demoteStep_follows oneVoice_demoted hKind

/-! ## Loading -/

/-- The capability of a stored claim and the identity that made it. -/
def StoredClaim.voice (claim : StoredClaim) : CapabilityId × SourceKey :=
  (claim.capability, { source := claim.source, boot := claim.workerBoot })

/-- The claims that an entity is stored with are of distinct voices, also by the texts of
their capabilities. -/
theorem stored_voices {held : EntityState} {stored : StoredEntity}
    (hReread : held.stored.RereadAs stored) (h : held.OneVoice) :
    (held.stored.claims.map fun claim => (claim.voice.1.toText, claim.voice.2)).Nodup := by
  have hTexts := (RereadAs.capabilities_spec hReread).1
  have hVoices : ((held.heldRecords.filter fun kept => isStored kept.record).map fun kept =>
      (kept.record.stored kept.capability)).map
        (fun claim => (claim.voice.1.toText, claim.voice.2)) =
      held.capabilities.flatMap fun entry =>
        (liveRecords entry.evidence).map fun record => (entry.id.toText, record.identity) := by
    rw [List.map_map, EntityState.heldRecords, List.filter_flatMap, List.map_flatMap]
    refine List.flatMap_congr fun entry _ => ?_
    rw [CapabilityEntry.heldRecords, List.filter_map, List.map_map]
    have hLive : entry.evidence.filter ((fun kept : HeldRecord => isStored kept.record) ∘
        fun record => { entity := held.id, capability := entry.id, record }) =
        liveRecords entry.evidence := by
      refine List.filter_congr fun record _ => ?_
      show isStored record = !isRetired record.currentness
      unfold isStored
      cases record.currentness <;> rfl
    rw [hLive]
    rfl
  refine ((held.stored_claims.map _).nodup_iff).2 ?_
  rw [hVoices, List.nodup_flatMap]
  refine ⟨fun entry hMem => ?_, ?_⟩
  · have hPaired := List.Nodup.map (f := fun key : SourceKey => (entry.id.toText, key))
      (fun _ _ hEq => congrArg Prod.snd hEq) (h entry hMem)
    rwa [List.map_map] at hPaired
  · rw [List.Nodup, List.pairwise_map] at hTexts
    refine hTexts.imp fun {a b} hNe voice hA hB => ?_
    obtain ⟨_, -, rfl⟩ := List.mem_map.1 hA
    obtain ⟨_, -, hEq⟩ := List.mem_map.1 hB
    exact hNe (congrArg Prod.fst hEq).symm

/-- Reading a claim back keeps its voice, up to the capability that its text reads as. -/
theorem reread_voices {held : EntityState} {stored : StoredEntity}
    (hReread : held.stored.RereadAs stored) (h : held.OneVoice) :
    (stored.claims.map StoredClaim.voice).Nodup := by
  let written (claim : StoredClaim) : Bytes × SourceKey := (claim.voice.1.toText, claim.voice.2)
  have hKept : ∀ claim reread, claim.reread = some reread → written reread = written claim := by
    intro claim reread hClaim
    obtain ⟨hFields, -, hText⟩ := StoredClaim.reread_eq_some hClaim
    refine Prod.ext hText ?_
    rw [hFields]
    rfl
  have hSame := map_mapM hKept hReread.claims
  refine List.Nodup.of_map (fun voice => (voice.1.toText, voice.2)) ?_
  rw [List.map_map]
  exact hSame ▸ stored_voices hReread h

/-- Every entry of a loaded entity has one voice per identity. -/
theorem loadEntity_oneVoice {stored : StoredEntity}
    (h : (stored.claims.map StoredClaim.voice).Nodup) (registryGeneration : RegistryGeneration)
    (loading : Loading) : (loadEntity registryGeneration loading stored).2.OneVoice := by
  let voice (held : HeldRecord) : CapabilityId × SourceKey :=
    (held.capability, held.record.identity)
  have hHeld := loadEntity_heldRecords (f := voice) (fun _ _ => rfl) registryGeneration loading
    stored
  have hLoaded : ((loadEntity registryGeneration loading stored).2.heldRecords.map
      voice).Nodup := by
    refine hHeld.nodup_iff.2 ?_
    exact (List.filter_sublist.map StoredClaim.voice).nodup h
  rw [EntityState.heldRecords, List.map_flatMap, List.nodup_flatMap] at hLoaded
  intro entry hMem
  have hEntry := hLoaded.1 entry hMem
  rw [CapabilityEntry.heldRecords, List.map_map] at hEntry
  have hIdentities : (entry.evidence.map EvidenceRecord.identity).Nodup :=
    List.Nodup.of_map (fun key => (entry.id, key)) (by rw [List.map_map]; exact hEntry)
  exact (List.filter_sublist.map _).nodup hIdentities

/-- One voice per identity in every entity of the registry. -/
def Registry.OneVoice (registry : Registry) : Prop :=
  ∀ entity ∈ registry.entities, entity.OneVoice

theorem restored_oneVoice {registry saved loaded : Registry} (h : Restores registry saved loaded)
    (hRegistry : registry.OneVoice) (hSaved : saved.OneVoice) : loaded.OneVoice := by
  rcases restored_cases h with rfl | ⟨payload, hReread, rfl⟩
  · exact hRegistry
  · intro entity hMem
    obtain ⟨held, hHeld, loading, stored, rfl, hRead⟩ := restored_entity hReread hMem
    exact loadEntity_oneVoice (reread_voices hRead (hSaved held hHeld)) _ _

/-- Arrival order does not matter: in every state that registries reach which load nothing but
each other's files, a capability holds at most one live record of each source and boot, and
its resolution is the same for every order of its evidence. -/
theorem arrival_order_is_irrelevant {past : List Transition} {registry : Registry}
    (h : Reached (deployment (fun _ => True) fun _ _ => True) past registry) :
    ∀ entity ∈ registry.entities, ∀ entry ∈ entity.capabilities, OneVoice entry.evidence ∧
      ∀ later, entry.evidence.Perm later →
        (entry.resolveWith entity.id entity.boundGeneration later).unlisted =
          (entry.resolveWith entity.id entity.boundGeneration entry.evidence).unlisted := by
  have hVoices : registry.OneVoice := by
    refine reached_invariant (P := fun _ registry => registry.OneVoice) ?_ ?_ ?_ h
    · rintro _ ⟨options, -, rfl⟩ entity hMem
      rw [init_entities] at hMem
      cases hMem
    · intro _ registry operation hGuard hVoices entity hMem
      exact (step_oneVoice hGuard.1).invariant (fun _ _ _ _ _ hMem => by cases hMem) hVoices
        entity hMem
    · intro _ _ registry saved loaded hRestores hRegistry hSaved
      exact restored_oneVoice hRestores hRegistry hSaved
  intro entity hEntity entry hEntry
  have hVoice := hVoices entity hEntity entry hEntry
  exact ⟨hVoice, fun later hPerm => (resolve_perm _ _ _ hVoice hPerm).symm⟩

namespace Sample

/-- Three publications of one capability, each for a source of its own. -/
def threeVoices : List Operation :=
  let heard (name : String) (expected : CapabilitySetGeneration) (state : CapabilityState) :=
    let request := publication bootOne name 1 expected (claim state .processBound)
    .publish { request with authority := { request.authority with source := token _ name } }
  setup ++ [heard "source-a" 0 .supported, heard "source-b" 1 .unsupported,
    heard "source-c" 2 .supported]

end Sample

theorem three_voices_in_any_order :
    (∃ past, Reached (deployment (fun _ => True) fun _ _ => True) past
      (afterRun {} Sample.threeVoices)) ∧
    ((afterRun {} Sample.threeVoices).entryOf Sample.entity Sample.capability).evidence.map
      EvidenceRecord.currentness = [.current, .current, .current] ∧
    ∀ entity ∈ (afterRun {} Sample.threeVoices).entities, ∀ entry ∈ entity.capabilities,
      OneVoice entry.evidence ∧ ∀ later, entry.evidence.Perm later →
        (entry.resolveWith entity.id entity.boundGeneration later).unlisted =
          (entry.resolveWith entity.id entity.boundGeneration entry.evidence).unlisted := by
  have hReached : Reached (deployment (fun _ => True) fun _ _ => True) _
      (afterRun {} Sample.threeVoices) :=
    reached_of_operations trivial ⟨⟨rfl, trivial⟩, ⟨rfl, trivial⟩, ⟨rfl, trivial⟩,
      ⟨rfl, trivial⟩, ⟨rfl, trivial⟩, trivial⟩
  exact ⟨⟨_, hReached⟩, by decide +kernel, arrival_order_is_irrelevant hReached⟩

end FabricCapability.Ports
