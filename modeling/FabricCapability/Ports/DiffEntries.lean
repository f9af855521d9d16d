import FabricCapability.Ports.SnapshotDiffs

/-!
# What a difference lists

`BuildDiff` of `src/registry.cpp` walks the union of the capabilities of two sets, looks each
one up in both and writes at most one entry about it; the entries that concern the entity come
before, and all of them are sorted.

The union and the lookups go by the rendered texts of the capabilities, the entries by the
capabilities.  The two agree for sets that are in order and in which no two capabilities
share a text (`NamedApart`).

## Main results

* `find_eq_lookup`: the binary search of a set finds what is in it.
* `entries_sorted`: the entries are strictly increasing.
* `listed_iff`: which capabilities have an entry.
* `entry_unique`: a capability has at most one.
* `listed_of_text`: of two capabilities that share a text, at most one has an entry.
-/

namespace FabricCapability.Ports

open FabricCapability.Verified.KeyedList
open FabricCapability.Verified.StrictOrder

/-! ## Sets in order -/

/-- The capabilities of a set. -/
def EntityCapabilitySet.names (set : EntityCapabilitySet) : List CapabilityId :=
  set.capabilities.map CapabilityResolution.capability

/-- The resolution of a capability in a set. -/
def EntityCapabilitySet.resolutionOf (set : EntityCapabilitySet) (capability : CapabilityId) :
    Option CapabilityResolution :=
  lookup CapabilityResolution.capability capability set.capabilities

/-- The resolutions stand in the order of their capabilities, without ties. -/
def EntityCapabilitySet.Ordered (set : EntityCapabilitySet) : Prop :=
  set.capabilities.Pairwise fun a b => a.capability.lt b.capability = true

/-- The capabilities are set, and their texts tell them apart. -/
structure NamedApart (names : List CapabilityId) : Prop where
  named : ∀ capability ∈ names, capability.isSet = true
  apart : ∀ capability ∈ names, ∀ other ∈ names, capability.toText = other.toText →
    capability = other

theorem CapabilityId.lt_irrefl (capability : CapabilityId) :
    capability.lt capability = false :=
  bytesLt_total.irrefl _

theorem CapabilityId.toText_ne_nil {capability : CapabilityId} (h : capability.isSet = true) :
    capability.toText ≠ [] := by
  unfold CapabilityId.isSet at h
  rw [CapabilityId.toText, if_pos h]
  exact fun hNil => List.cons_ne_nil _ _ (List.append_eq_nil_iff.1 hNil).2

/-- A set in order keeps each capability once. -/
theorem EntityCapabilitySet.Ordered.nodup {set : EntityCapabilitySet} (h : set.Ordered) :
    set.names.Nodup := by
  refine List.pairwise_map.2 (h.imp ?_)
  intro a b hBelow hSame
  rw [hSame, CapabilityId.lt_irrefl] at hBelow
  cases hBelow

/-- Sorted resolutions of distinct capabilities are in order when the texts tell the
capabilities apart. -/
theorem EntityCapabilitySet.ordered_of_sorted {set : EntityCapabilitySet}
    (hSorted : set.capabilities.Pairwise fun a b => b.capability.lt a.capability = false)
    (hNodup : set.names.Nodup) (hApart : NamedApart set.names) : set.Ordered := by
  have hDistinct := List.pairwise_map.1 hNodup
  refine ((hSorted.and hDistinct).imp_of_mem ?_)
  rintro a b hFirst hSecond ⟨hNotBelow, hNe⟩
  cases hBelow : a.capability.lt b.capability with
  | true => rfl
  | false =>
      have hText : a.capability.toText = b.capability.toText :=
        bytesLt_total.eq_of_not_lt _ _ hBelow hNotBelow
      exact absurd (hApart.apart _ (List.mem_map_of_mem hFirst) _ (List.mem_map_of_mem hSecond)
        hText) hNe

/-- The search stops at the capability, or beyond the place where it would be. -/
theorem find_eq_lookup {set : EntityCapabilitySet} (h : set.Ordered)
    (capability : CapabilityId) : set.find capability = set.resolutionOf capability := by
  unfold EntityCapabilitySet.Ordered at h
  unfold EntityCapabilitySet.find EntityCapabilitySet.resolutionOf
  generalize set.capabilities = resolutions at h
  induction resolutions with
  | nil => rfl
  | cons head rest ih =>
      obtain ⟨hHead, hRest⟩ := List.pairwise_cons.1 h
      rw [List.find?_cons, lookup_cons]
      by_cases hHere : head.capability = capability
      · have hSelf : head.capability.lt capability = false := by
          rw [hHere]
          exact CapabilityId.lt_irrefl _
        rw [hSelf, if_pos hHere]
        exact if_pos hHere
      · rw [if_neg hHere]
        cases hBelow : head.capability.lt capability with
        | true => exact ih hRest
        | false =>
            -- what follows is above the head, so the capability is not there
            have hMissing : lookup CapabilityResolution.capability capability rest = none := by
              rw [lookup_eq_none]
              intro hMem
              obtain ⟨later, hLater, rfl⟩ := List.mem_map.1 hMem
              rw [hHead later hLater] at hBelow
              cases hBelow
            rw [hMissing]
            exact if_neg hHere

theorem resolutionOf_eq_some_iff {set : EntityCapabilitySet} (h : set.names.Nodup)
    {capability : CapabilityId} {resolution : CapabilityResolution} :
    set.resolutionOf capability = some resolution ↔
      resolution ∈ set.capabilities ∧ resolution.capability = capability := by
  constructor
  · exact fun hFound => ⟨lookup_mem hFound, lookup_key hFound⟩
  · rintro ⟨hMem, rfl⟩
    exact lookup_of_mem h hMem

/-- Sets in order with the same resolutions hold the same list of them. -/
theorem capabilities_ext {first second : EntityCapabilitySet} (hFirst : first.Ordered)
    (hSecond : second.Ordered)
    (hSame : ∀ capability, first.resolutionOf capability = second.resolutionOf capability) :
    first.capabilities = second.capabilities := by
  have hMem : ∀ resolution, resolution ∈ first.capabilities ↔
      resolution ∈ second.capabilities := by
    intro resolution
    have hFound := hSame resolution.capability
    constructor
    · intro hHeld
      rw [(resolutionOf_eq_some_iff hFirst.nodup).2 ⟨hHeld, rfl⟩] at hFound
      exact ((resolutionOf_eq_some_iff hSecond.nodup).1 hFound.symm).1
    · intro hHeld
      rw [(resolutionOf_eq_some_iff hSecond.nodup).2 ⟨hHeld, rfl⟩] at hFound
      exact ((resolutionOf_eq_some_iff hFirst.nodup).1 hFound).1
  have hPerm : first.capabilities.Perm second.capabilities :=
    (List.perm_ext_iff_of_nodup (List.Nodup.of_map _ hFirst.nodup)
      (List.Nodup.of_map _ hSecond.nodup)).2 hMem
  refine hPerm.eq_of_pairwise ?_ hFirst hSecond
  intro a b _ _ hBelow hAbove
  have hAsymm : b.capability.lt a.capability = false := bytesLt_total.asymm hBelow
  rw [hAsymm] at hAbove
  cases hAbove

/-! ## The union of the capabilities -/

/-- The union takes a capability whose text it does not hold yet. -/
def insertName (held : List CapabilityId) (capability : CapabilityId) : List CapabilityId :=
  if held.any fun known => known.toText = capability.toText then held
  else held ++ [capability]

theorem mem_foldl_insertName {names held : List CapabilityId} {capability : CapabilityId}
    (h : capability ∈ names.foldl insertName held) : capability ∈ held ∨ capability ∈ names := by
  induction names generalizing held with
  | nil => exact .inl h
  | cons name names ih =>
      rcases ih h with hHeld | hLater
      · unfold insertName at hHeld
        split at hHeld
        · exact .inl hHeld
        · rcases List.mem_append.1 hHeld with hHeld | hNew
          · exact .inl hHeld
          · exact .inr (List.mem_cons.2 (.inl (List.mem_singleton.1 hNew)))
      · exact .inr (List.mem_cons_of_mem _ hLater)

/-- Every text stays, once it is held or was inserted. -/
theorem exists_foldl_insertName {names held : List CapabilityId} {capability : CapabilityId}
    (h : capability ∈ held ∨ capability ∈ names) :
    ∃ known ∈ names.foldl insertName held, known.toText = capability.toText := by
  induction names generalizing held capability with
  | nil =>
      rcases h with hHeld | hNone
      · exact ⟨capability, hHeld, rfl⟩
      · cases hNone
  | cons name names ih =>
      rw [List.foldl_cons]
      by_cases hKnown : held.any (fun known => known.toText = name.toText) = true
      · rw [insertName, if_pos hKnown]
        rcases h with hHeld | hMem
        · exact ih (.inl hHeld)
        · rcases List.mem_cons.1 hMem with rfl | hLater
          · obtain ⟨known, hHeld, hText⟩ := List.any_eq_true.1 hKnown
            obtain ⟨kept, hKept, hSame⟩ := ih (.inl hHeld)
            exact ⟨kept, hKept, hSame.trans (of_decide_eq_true hText)⟩
          · exact ih (.inr hLater)
      · rw [insertName, if_neg hKnown]
        rcases h with hHeld | hMem
        · exact ih (.inl (List.mem_append_left _ hHeld))
        · rcases List.mem_cons.1 hMem with rfl | hLater
          · exact ih (.inl (List.mem_append_right _ (List.mem_singleton_self _)))
          · exact ih (.inr hLater)

theorem nodup_foldl_insertName {names held : List CapabilityId}
    (h : (held.map CapabilityId.toText).Nodup) :
    ((names.foldl insertName held).map CapabilityId.toText).Nodup := by
  induction names generalizing held with
  | nil => exact h
  | cons name names ih =>
      refine ih ?_
      unfold insertName
      split
      · exact h
      · rename_i hNew
        rw [List.map_append, List.map_singleton, List.nodup_append]
        refine ⟨h, List.nodup_singleton _, ?_⟩
        rintro text hHeld _ hName rfl
        obtain ⟨known, hKnown, hText⟩ := List.mem_map.1 hHeld
        refine hNew (List.any_eq_true.2 ⟨known, hKnown, decide_eq_true ?_⟩)
        exact hText.trans (List.mem_singleton.1 hName)

/-- The capabilities of two sets. -/
def namesOf (before after : EntityCapabilitySet) : List CapabilityId :=
  before.names ++ after.names

section Merged

variable {before after : EntityCapabilitySet}

theorem mergedCapabilities_eq : mergedCapabilities (some before) (some after) =
    sortBy CapabilityId.lt ((namesOf before after).foldl insertName []) :=
  rfl

theorem mem_namesOf_of_merged {capability : CapabilityId}
    (h : capability ∈ mergedCapabilities (some before) (some after)) :
    capability ∈ namesOf before after := by
  rw [mergedCapabilities_eq, mem_sortBy] at h
  rcases mem_foldl_insertName h with hNone | hMem
  · cases hNone
  · exact hMem

theorem mem_merged_iff (hApart : NamedApart (namesOf before after)) {capability : CapabilityId} :
    capability ∈ mergedCapabilities (some before) (some after) ↔
      capability ∈ namesOf before after := by
  refine ⟨mem_namesOf_of_merged, fun hMem => ?_⟩
  obtain ⟨known, hKnown, hText⟩ := @exists_foldl_insertName _ [] _ (.inr hMem)
  have hMerged : known ∈ mergedCapabilities (some before) (some after) := by
    rw [mergedCapabilities_eq, mem_sortBy]
    exact hKnown
  have hSame : known = capability :=
    hApart.apart known (mem_namesOf_of_merged hMerged) capability hMem hText
  exact hSame ▸ hMerged

theorem nodup_merged :
    ((mergedCapabilities (some before) (some after)).map CapabilityId.toText).Nodup := by
  rw [mergedCapabilities_eq, ((sortBy_perm _ _).map _).nodup_iff]
  exact nodup_foldl_insertName List.nodup_nil

end Merged

/-! ## The entry of a capability -/

/-- The two resolutions agree in the fields that a diff compares. -/
structure CapabilityResolution.Alike (lhs rhs : CapabilityResolution) : Prop where
  state : lhs.state = rhs.state
  hasValue : lhs.hasValue = rhs.hasValue
  value : lhs.value.same rhs.value = true
  provenance : lhs.provenance = rhs.provenance
  coverage : lhs.coverage = rhs.coverage
  durability : lhs.durability = rhs.durability
  currentEvidenceCount : lhs.currentEvidenceCount = rhs.currentEvidenceCount
  evidenceGeneration : lhs.evidenceGeneration = rhs.evidenceGeneration
  winningEvidence : lhs.winningEvidence = rhs.winningEvidence
  capabilityGeneration : lhs.capabilityGeneration = rhs.capabilityGeneration

/-- The capability is absent twice, or present twice and alike. -/
def AlikeIn (before after : EntityCapabilitySet) (capability : CapabilityId) : Prop :=
  match before.resolutionOf capability, after.resolutionOf capability with
  | none, none => True
  | some lhs, some rhs => lhs.Alike rhs
  | _, _ => False

theorem CapabilityResolution.alike_refl (resolution : CapabilityResolution) :
    resolution.Alike resolution :=
  ⟨rfl, rfl, resolution.value.same_refl, rfl, rfl, rfl, rfl, rfl, rfl, rfl⟩

/-- An entry about a capability of one of the kinds that do not concern the entity. -/
def CapabilityDiffEntry.IsOf (capability : CapabilityId) (entry : CapabilityDiffEntry) : Prop :=
  entry.capability = capability ∧ entry.kind ≠ .entityGenerationChanged ∧
    entry.kind ≠ .entityInvalidated

/-- Two resolutions get at most one entry, and none exactly when they are alike. -/
theorem compareResolutions_spec (capability : CapabilityId) (lhs rhs : CapabilityResolution) :
    (compareResolutions capability lhs rhs = [] ∧ lhs.Alike rhs) ∨
      ∃ entry, compareResolutions capability lhs rhs = [entry] ∧ entry.IsOf capability ∧
        ¬lhs.Alike rhs := by
  unfold compareResolutions
  dsimp only
  by_cases hState : lhs.state = rhs.state
  · rw [if_neg (not_not.2 hState)]
    by_cases hValue : lhs.hasValue ≠ rhs.hasValue ∨ (!lhs.value.same rhs.value) = true
    · rw [if_pos hValue]
      refine .inr ⟨_, rfl, ⟨rfl, nofun, nofun⟩, fun hAlike => ?_⟩
      rcases hValue with hPresent | hContent
      · exact hPresent hAlike.hasValue
      · rw [hAlike.value] at hContent
        cases hContent
    · rw [if_neg hValue]
      by_cases hOrigin : lhs.provenance ≠ rhs.provenance ∨ lhs.coverage ≠ rhs.coverage ∨
          lhs.durability ≠ rhs.durability
      · rw [if_pos hOrigin]
        refine .inr ⟨_, rfl, ⟨rfl, nofun, nofun⟩, fun hAlike => ?_⟩
        rcases hOrigin with hProvenance | hCoverage | hDurability
        · exact hProvenance hAlike.provenance
        · exact hCoverage hAlike.coverage
        · exact hDurability hAlike.durability
      · rw [if_neg hOrigin]
        by_cases hCount : lhs.currentEvidenceCount = rhs.currentEvidenceCount
        · rw [if_neg (not_not.2 hCount)]
          by_cases hEvidence : lhs.evidenceGeneration ≠ rhs.evidenceGeneration ∨
              lhs.winningEvidence ≠ rhs.winningEvidence
          · rw [if_pos hEvidence]
            refine .inr ⟨_, rfl, ⟨rfl, nofun, nofun⟩, fun hAlike => ?_⟩
            rcases hEvidence with hGeneration | hWinning
            · exact hGeneration hAlike.evidenceGeneration
            · exact hWinning hAlike.winningEvidence
          · rw [if_neg hEvidence]
            by_cases hGeneration : lhs.capabilityGeneration = rhs.capabilityGeneration
            · rw [if_neg (not_not.2 hGeneration)]
              rw [not_or, not_not, Bool.not_eq_true', Bool.not_eq_false] at hValue
              rw [not_or, not_or, not_not, not_not, not_not] at hOrigin
              rw [not_or, not_not, not_not] at hEvidence
              exact .inl ⟨rfl, hState, hValue.1, hValue.2, hOrigin.1, hOrigin.2.1, hOrigin.2.2,
                hCount, hEvidence.1, hEvidence.2, hGeneration⟩
            · rw [if_pos hGeneration]
              exact .inr ⟨_, rfl, ⟨rfl, nofun, nofun⟩,
                fun hAlike => hGeneration hAlike.capabilityGeneration⟩
        · rw [if_pos hCount]
          exact .inr ⟨_, rfl, ⟨rfl, nofun, nofun⟩,
            fun hAlike => hCount hAlike.currentEvidenceCount⟩
  · rw [if_pos hState]
    exact .inr ⟨_, rfl, ⟨rfl, nofun, nofun⟩, fun hAlike => hState hAlike.state⟩

section Entries

variable {id : EntityId} {before after : EntityCapabilitySet}

/-- A capability gets at most one entry, and none exactly when it is alike in both sets. -/
theorem diffCapability_spec (hBefore : before.Ordered) (hAfter : after.Ordered)
    (capability : CapabilityId) :
    (diffCapability (some before) (some after) capability = [] ∧
        AlikeIn before after capability) ∨
      ∃ entry, diffCapability (some before) (some after) capability = [entry] ∧
        entry.IsOf capability ∧ ¬AlikeIn before after capability := by
  unfold diffCapability AlikeIn
  rw [Option.bind_some, Option.bind_some, find_eq_lookup hBefore, find_eq_lookup hAfter]
  cases before.resolutionOf capability with
  | none =>
      cases after.resolutionOf capability with
      | none => exact .inl ⟨rfl, trivial⟩
      | some rhs => exact .inr ⟨_, rfl, ⟨rfl, nofun, nofun⟩, id⟩
  | some lhs =>
      cases after.resolutionOf capability with
      | none => exact .inr ⟨_, rfl, ⟨rfl, nofun, nofun⟩, id⟩
      | some rhs => exact compareResolutions_spec capability lhs rhs

/-- The entries before they are sorted. -/
def unsortedEntries (before after : EntityCapabilitySet) : List CapabilityDiffEntry :=
  diffEntity before after ++
    (mergedCapabilities (some before) (some after)).flatMap
      (diffCapability (some before) (some after))

theorem entries_eq : (buildDiff id (some before) (some after)).entries =
    sortBy diffEntryLt (unsortedEntries before after) :=
  rfl

theorem mem_diffEntity {entry : CapabilityDiffEntry} :
    entry ∈ diffEntity before after → entry.capability = .unset ∧
      (entry.kind = .entityGenerationChanged ∧
          before.entityGeneration ≠ after.entityGeneration ∨
        entry.kind = .entityInvalidated ∧ before.invalidated ≠ after.invalidated) := by
  intro hMem
  rcases List.mem_append.1 hMem with hGeneration | hFlag
  · split at hGeneration
    · rename_i hChanged
      rw [List.mem_singleton.1 hGeneration]
      exact ⟨rfl, .inl ⟨rfl, hChanged⟩⟩
    · cases hGeneration
  · split at hFlag
    · rename_i hChanged
      rw [List.mem_singleton.1 hFlag]
      exact ⟨rfl, .inr ⟨rfl, hChanged⟩⟩
    · cases hFlag

/-- Where an entry comes from. -/
theorem mem_entries {entry : CapabilityDiffEntry} :
    entry ∈ (buildDiff id (some before) (some after)).entries ↔
      entry ∈ diffEntity before after ∨
        ∃ capability ∈ mergedCapabilities (some before) (some after),
          entry ∈ diffCapability (some before) (some after) capability := by
  rw [entries_eq, mem_sortBy, unsortedEntries, List.mem_append, List.mem_flatMap]

theorem isOf_of_mem {capability : CapabilityId} {entry : CapabilityDiffEntry}
    (h : entry ∈ diffCapability (some before) (some after) capability) :
    entry.IsOf capability := by
  unfold diffCapability at h
  split at h
  · rw [List.mem_singleton.1 h]
    exact ⟨rfl, nofun, nofun⟩
  · rw [List.mem_singleton.1 h]
    exact ⟨rfl, nofun, nofun⟩
  · cases h
  · rename_i lhs rhs _ _
    rcases compareResolutions_spec capability lhs rhs with ⟨hNil, -⟩ | ⟨only, hOnly, hIs, -⟩
    · rw [hNil] at h
      cases h
    · rw [hOnly, List.mem_singleton] at h
      exact h ▸ hIs

/-! ## The order of the entries -/

/-- What the entries are sorted by, as long as the texts tell the capabilities apart. -/
def CapabilityDiffEntry.sortKey (entry : CapabilityDiffEntry) : Bytes × UInt8 :=
  (entry.capability.toText, entry.kind.toByte)

def sortKeyLt : Bytes × UInt8 → Bytes × UInt8 → Bool := pairLt bytesLt byteLt

theorem sortKeyLt_total : StrictTotal sortKeyLt := bytesLt_total.pair byteLt_total

/-- The capabilities that the entries name. -/
theorem capability_of_unsorted {entry : CapabilityDiffEntry}
    (h : entry ∈ unsortedEntries before after) :
    entry.capability = .unset ∨ entry.capability ∈ namesOf before after := by
  rcases List.mem_append.1 h with hEntity | hNamed
  · exact .inl (mem_diffEntity hEntity).1
  · obtain ⟨capability, hMerged, hMem⟩ := List.mem_flatMap.1 hNamed
    rw [(isOf_of_mem hMem).1]
    exact .inr (mem_namesOf_of_merged hMerged)

/-- The texts tell the capabilities of the entries apart, the unset one included. -/
theorem capability_eq_of_text (hApart : NamedApart (namesOf before after))
    {a b : CapabilityId} (ha : a = .unset ∨ a ∈ namesOf before after)
    (hb : b = .unset ∨ b ∈ namesOf before after) (hText : a.toText = b.toText) : a = b := by
  have hUnset : CapabilityId.unset.toText = [] := rfl
  rcases ha with rfl | ha
  · rcases hb with rfl | hb
    · rfl
    · exact absurd (hText.symm.trans hUnset) (CapabilityId.toText_ne_nil (hApart.named b hb))
  · rcases hb with rfl | hb
    · exact absurd (hText.trans hUnset) (CapabilityId.toText_ne_nil (hApart.named a ha))
    · exact hApart.apart a ha b hb hText

theorem diffEntryLt_eq (hApart : NamedApart (namesOf before after)) {a b : CapabilityDiffEntry}
    (ha : a ∈ unsortedEntries before after) (hb : b ∈ unsortedEntries before after) :
    diffEntryLt a b = sortKeyLt a.sortKey b.sortKey := by
  have hKinds : decide (a.kind.toByte < b.kind.toByte) = byteLt a.kind.toByte b.kind.toByte :=
    rfl
  unfold diffEntryLt sortKeyLt pairLt CapabilityDiffEntry.sortKey
  by_cases hSame : a.capability = b.capability
  · rw [if_neg (not_not.2 hSame), if_pos (congrArg CapabilityId.toText hSame), hKinds]
  · have hTexts : a.capability.toText ≠ b.capability.toText := fun hText =>
      hSame (capability_eq_of_text hApart (capability_of_unsorted ha)
        (capability_of_unsorted hb) hText)
    rw [if_pos hSame, if_neg hTexts]
    rfl

/-- No two entries are tied. -/
theorem nodup_sortKeys (hBefore : before.Ordered) (hAfter : after.Ordered)
    (hApart : NamedApart (namesOf before after)) :
    ((unsortedEntries before after).map CapabilityDiffEntry.sortKey).Nodup := by
  refine List.pairwise_map.2 (List.pairwise_append.2 ⟨?_, ?_, ?_⟩)
  · -- the two entries about the entity are of different kinds
    unfold diffEntity
    split <;> split <;> simp [CapabilityDiffEntry.sortKey, CapabilityDiffKind.toByte]
  · refine List.pairwise_flatMap.2 ⟨fun capability _ => ?_, ?_⟩
    · rcases diffCapability_spec hBefore hAfter capability with ⟨hNil, -⟩ | ⟨only, hOnly, -⟩
      · rw [hNil]
        exact .nil
      · rw [hOnly]
        exact List.pairwise_singleton _ _
    · refine (List.pairwise_map.1 nodup_merged).imp ?_
      intro a b hTexts x hx y hy hKeys
      refine hTexts ?_
      rw [← (isOf_of_mem hx).1, ← (isOf_of_mem hy).1]
      exact congrArg Prod.fst hKeys
  · intro x hx y hy hKeys
    obtain ⟨capability, hMerged, hMem⟩ := List.mem_flatMap.1 hy
    have hText : y.capability.toText = [] := by
      rw [← show x.capability.toText = y.capability.toText from congrArg Prod.fst hKeys,
        (mem_diffEntity hx).1]
      rfl
    rw [(isOf_of_mem hMem).1] at hText
    exact CapabilityId.toText_ne_nil
      (hApart.named capability (mem_namesOf_of_merged hMerged)) hText

/-- The entries are strictly increasing. -/
theorem entries_sorted (hBefore : before.Ordered) (hAfter : after.Ordered)
    (hApart : NamedApart (namesOf before after)) :
    (buildDiff id (some before) (some after)).entries.Pairwise fun a b =>
      diffEntryLt a b = true := by
  have hSort : sortBy diffEntryLt (unsortedEntries before after) =
      sortBy (fun a b => sortKeyLt a.sortKey b.sortKey) (unsortedEntries before after) :=
    sortBy_congr fun a ha b hb => diffEntryLt_eq hApart ha hb
  have hIncreasing := sortBy_keys_pairwise sortKeyLt_total CapabilityDiffEntry.sortKey
    (nodup_sortKeys hBefore hAfter hApart)
  rw [← hSort] at hIncreasing
  rw [entries_eq]
  refine hIncreasing.imp_of_mem ?_
  intro a b ha hb hBelow
  rw [diffEntryLt_eq hApart (mem_sortBy.1 ha) (mem_sortBy.1 hb)]
  exact hBelow

/-! ## Who is listed -/

/-- The entries about the entity are those of two kinds. -/
theorem isSet_iff_kind (hApart : NamedApart (namesOf before after)) {entry : CapabilityDiffEntry}
    (h : entry ∈ (buildDiff id (some before) (some after)).entries) :
    entry.capability.isSet = true ↔
      entry.kind ≠ .entityGenerationChanged ∧ entry.kind ≠ .entityInvalidated := by
  rcases mem_entries.1 h with hEntity | ⟨capability, hMerged, hMem⟩
  · obtain ⟨hUnset, hKind⟩ := mem_diffEntity hEntity
    rw [hUnset]
    refine ⟨nofun, fun hNeither => ?_⟩
    rcases hKind with ⟨hGeneration, -⟩ | ⟨hFlag, -⟩
    · exact absurd hGeneration hNeither.1
    · exact absurd hFlag hNeither.2
  · obtain ⟨hCapability, hKinds⟩ := isOf_of_mem hMem
    rw [hCapability]
    exact ⟨fun _ => hKinds, fun _ => hApart.named _ (mem_namesOf_of_merged hMerged)⟩

/-- An entry of the two kinds is one about the entity. -/
theorem exists_kind_iff {kind : CapabilityDiffKind}
    (hKind : kind = .entityGenerationChanged ∨ kind = .entityInvalidated) :
    (∃ entry ∈ (buildDiff id (some before) (some after)).entries, entry.kind = kind) ↔
      ∃ entry ∈ diffEntity before after, entry.kind = kind := by
  constructor
  · rintro ⟨entry, hMem, rfl⟩
    rcases mem_entries.1 hMem with hEntity | ⟨capability, -, hNamed⟩
    · exact ⟨entry, hEntity, rfl⟩
    · obtain ⟨-, hNoGeneration, hNoFlag⟩ := isOf_of_mem hNamed
      rcases hKind with hGeneration | hFlag
      · exact absurd hGeneration hNoGeneration
      · exact absurd hFlag hNoFlag
  · rintro ⟨entry, hEntity, hSame⟩
    exact ⟨entry, mem_entries.2 (.inl hEntity), hSame⟩

theorem generationChanged_iff :
    (∃ entry ∈ (buildDiff id (some before) (some after)).entries,
      entry.kind = .entityGenerationChanged) ↔
        before.entityGeneration ≠ after.entityGeneration := by
  rw [exists_kind_iff (.inl rfl)]
  unfold diffEntity
  split <;> split <;> simp_all

theorem flagChanged_iff :
    (∃ entry ∈ (buildDiff id (some before) (some after)).entries,
      entry.kind = .entityInvalidated) ↔ before.invalidated ≠ after.invalidated := by
  rw [exists_kind_iff (.inr rfl)]
  unfold diffEntity
  split <;> split <;> simp_all

/-- A capability has an entry exactly when it is not alike in both sets. -/
theorem listed_iff (hBefore : before.Ordered) (hAfter : after.Ordered)
    (hApart : NamedApart (namesOf before after)) {capability : CapabilityId}
    (hSet : capability.isSet = true) :
    (∃ entry ∈ (buildDiff id (some before) (some after)).entries,
      entry.capability = capability) ↔ ¬AlikeIn before after capability := by
  constructor
  · rintro ⟨entry, hMem, rfl⟩
    rcases mem_entries.1 hMem with hEntity | ⟨capability, -, hNamed⟩
    · rw [(mem_diffEntity hEntity).1] at hSet
      cases hSet
    · rcases diffCapability_spec hBefore hAfter capability with ⟨hNil, -⟩ | ⟨only, -, -, hNot⟩
      · rw [hNil] at hNamed
        cases hNamed
      · rw [(isOf_of_mem hNamed).1]
        exact hNot
  · intro hNot
    rcases diffCapability_spec hBefore hAfter capability with ⟨-, hAlike⟩ | ⟨only, hOnly, hIs, -⟩
    · exact absurd hAlike hNot
    · have hMem : only ∈ diffCapability (some before) (some after) capability := by
        rw [hOnly]
        exact List.mem_singleton_self _
      refine ⟨only, mem_entries.2 (.inr ⟨capability, ?_, hMem⟩), hIs.1⟩
      -- a capability outside both sets would be alike
      rw [mem_merged_iff hApart, namesOf, List.mem_append]
      by_contra hMissing
      rw [not_or] at hMissing
      refine hNot ?_
      unfold AlikeIn EntityCapabilitySet.resolutionOf
      rw [lookup_eq_none.2 hMissing.1, lookup_eq_none.2 hMissing.2]
      trivial

/-- A capability has at most one entry. -/
theorem entry_unique (hBefore : before.Ordered) (hAfter : after.Ordered)
    {x y : CapabilityDiffEntry} (hx : x ∈ (buildDiff id (some before) (some after)).entries)
    (hy : y ∈ (buildDiff id (some before) (some after)).entries)
    (hSet : x.capability.isSet = true) (hSame : x.capability = y.capability) : x = y := by
  have hFrom : ∀ entry ∈ (buildDiff id (some before) (some after)).entries,
      entry.capability = x.capability →
        entry ∈ diffCapability (some before) (some after) x.capability := by
    intro entry hMem hCapability
    rcases mem_entries.1 hMem with hEntity | ⟨capability, -, hNamed⟩
    · rw [← hCapability, (mem_diffEntity hEntity).1] at hSet
      cases hSet
    · rw [← hCapability, (isOf_of_mem hNamed).1]
      exact hNamed
  have hFirst := hFrom x hx rfl
  have hSecond := hFrom y hy hSame.symm
  rcases diffCapability_spec hBefore hAfter x.capability with ⟨hNil, -⟩ | ⟨only, hOnly, -⟩
  · rw [hNil] at hFirst
    cases hFirst
  · rw [hOnly, List.mem_singleton] at hFirst hSecond
    exact hFirst.trans hSecond.symm

/-- Of the capabilities that share a text, at most one is listed, whatever the sets hold. -/
theorem listed_of_text {x y : CapabilityDiffEntry}
    (hx : x ∈ (buildDiff id (some before) (some after)).entries)
    (hy : y ∈ (buildDiff id (some before) (some after)).entries)
    (hSetX : x.capability.isSet = true) (hSetY : y.capability.isSet = true)
    (hText : x.capability.toText = y.capability.toText) : x.capability = y.capability := by
  have hMerged : ∀ entry ∈ (buildDiff id (some before) (some after)).entries,
      entry.capability.isSet = true →
        entry.capability ∈ mergedCapabilities (some before) (some after) := by
    intro entry hMem hSet
    rcases mem_entries.1 hMem with hEntity | ⟨capability, hHeld, hNamed⟩
    · rw [(mem_diffEntity hEntity).1] at hSet
      cases hSet
    · exact (isOf_of_mem hNamed).1 ▸ hHeld
  exact List.inj_on_of_nodup_map nodup_merged (hMerged x hx hSetX) (hMerged y hy hSetY) hText

/-- There is no entry exactly when nothing is there to be listed. -/
theorem entries_eq_nil_iff (hBefore : before.Ordered) (hAfter : after.Ordered)
    (hApart : NamedApart (namesOf before after)) :
    (buildDiff id (some before) (some after)).entries = [] ↔
      before.entityGeneration = after.entityGeneration ∧
        before.invalidated = after.invalidated ∧
        ∀ capability, capability.isSet = true → AlikeIn before after capability := by
  constructor
  · intro hNil
    refine ⟨?_, ?_, fun capability hSet => ?_⟩
    · by_contra hChanged
      obtain ⟨entry, hMem, -⟩ := (@generationChanged_iff id before after).2 hChanged
      rw [hNil] at hMem
      cases hMem
    · by_contra hChanged
      obtain ⟨entry, hMem, -⟩ := (@flagChanged_iff id before after).2 hChanged
      rw [hNil] at hMem
      cases hMem
    · by_contra hNot
      obtain ⟨entry, hMem, -⟩ := (@listed_iff id _ _ hBefore hAfter hApart _ hSet).2 hNot
      rw [hNil] at hMem
      cases hMem
  · rintro ⟨hGeneration, hFlag, hAlike⟩
    rw [List.eq_nil_iff_forall_not_mem]
    intro entry hMem
    by_cases hSet : entry.capability.isSet = true
    · exact (listed_iff hBefore hAfter hApart hSet).1 ⟨entry, hMem, rfl⟩
        (hAlike entry.capability hSet)
    · rw [isSet_iff_kind hApart hMem, not_and_or, not_not, not_not] at hSet
      rcases hSet with hKind | hKind
      · exact generationChanged_iff.1 ⟨entry, hMem, hKind⟩ hGeneration
      · exact flagChanged_iff.1 ⟨entry, hMem, hKind⟩ hFlag

end Entries

end FabricCapability.Ports
