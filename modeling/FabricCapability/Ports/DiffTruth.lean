import FabricCapability.Ports.DiffEntries
import FabricCapability.Ports.EvidenceOrder
import FabricCapability.Ports.SetContent
import FabricCapability.Ports.SetHistory
import FabricCapability.Ports.ValueDelimited

/-!
# What a difference tells

Within one entity generation a diff compares enough: the capability generation is the last of
the fields that it compares, and it advances with every change of the evidence.  So a diff of
two sets of one generation lists exactly what changed, and it is empty exactly when the two
digests agree.

A new entity generation starts the capability generations over.  There a diff sees the fields
that it compares and no others.

## Main results

* `digestedBytes_stamps`: the digested bytes show the capabilities and their generations.
* `diffs_tell`: the differences between any two sets of a run.
* `diff_hides_counts`: two entity generations, with a change that is not listed.
-/

namespace FabricCapability.Ports

open FabricCapability.Verified
open FabricCapability.Verified.KeyedList
open FabricCapability.Verified.Runs

/-! ## What the digest shows -/

/-- What the digest of a set is computed from. -/
def EntityCapabilitySet.digestedBytes (set : EntityCapabilitySet) : Bytes :=
  sizeU32 set.capabilities.length ++ set.capabilities.flatMap resolutionDigestFields

theorem digestOfResolutions_eq (set : EntityCapabilitySet) :
    digestOfResolutions set.capabilities = computeDigest set.digestedBytes := by
  unfold digestOfResolutions EntityCapabilitySet.digestedBytes
  rfl

/-- What identifies a resolution within an entity generation. -/
def CapabilityResolution.stamp (resolution : CapabilityResolution) :
    Bytes × CapabilityGeneration :=
  (resolution.capability.toText, resolution.capabilityGeneration)

/-- The stamp can be read off the digested fields, which show where they end. -/
theorem resolutionDigestFields_stamp {a b : CapabilityResolution} {r s : Bytes}
    (h : resolutionDigestFields a ++ r = resolutionDigestFields b ++ s) :
    a.stamp = b.stamp ∧ r = s := by
  unfold resolutionDigestFields at h
  simp only [List.append_assoc] at h
  obtain ⟨hText, h⟩ := delimited_text (by decide) a.capability.length_toText_le
    b.capability.length_toText_le h
  obtain ⟨-, h⟩ := delimited_u8 trivial trivial h
  obtain ⟨hPresent, h⟩ := delimited_bool trivial trivial h
  -- the value is written exactly when there is one
  obtain ⟨-, h⟩ : (True ∧ u8 (provenanceRank a.provenance) ++ _ =
      u8 (provenanceRank b.provenance) ++ _) := by
    rw [hPresent] at h
    split at h
    · exact ⟨trivial, (CapabilityValue.delimited trivial trivial h).2⟩
    · exact ⟨trivial, h⟩
  obtain ⟨-, h⟩ := delimited_u8 trivial trivial h
  obtain ⟨-, h⟩ := delimited_u8 trivial trivial h
  obtain ⟨-, h⟩ := delimited_u8 trivial trivial h
  obtain ⟨-, h⟩ := delimited_u8 trivial trivial h
  obtain ⟨-, h⟩ := delimited_u64 trivial trivial h
  obtain ⟨hGeneration, h⟩ := delimited_u64 trivial trivial h
  obtain ⟨-, h⟩ := delimited_u32 trivial trivial h
  obtain ⟨-, h⟩ := delimited_u32 trivial trivial h
  obtain ⟨-, h⟩ := delimited_u32 trivial trivial h
  obtain ⟨-, h⟩ := delimited_u32 trivial trivial h
  obtain ⟨-, h⟩ := delimited_bool trivial trivial h
  exact ⟨Prod.ext hText hGeneration, h⟩

theorem resolutionDigestFields_ne_nil (resolution : CapabilityResolution) :
    resolutionDigestFields resolution ≠ [] := by
  intro hNil
  unfold resolutionDigestFields at hNil
  exact List.cons_ne_nil _ _ (List.append_eq_nil_iff.1 hNil).2

/-- The digested bytes show the capabilities and their generations, in order. -/
theorem digestedBytes_stamps {first second : EntityCapabilitySet}
    (h : first.digestedBytes = second.digestedBytes) :
    first.capabilities.map CapabilityResolution.stamp =
      second.capabilities.map CapabilityResolution.stamp := by
  obtain ⟨-, hItems⟩ := delimited_u32 trivial trivial h
  generalize first.capabilities = xs at hItems
  generalize second.capabilities = ys at hItems
  induction xs generalizing ys with
  | nil =>
      cases ys with
      | nil => rfl
      | cons y ys =>
          rw [List.flatMap_nil, List.flatMap_cons] at hItems
          exact absurd (List.append_eq_nil_iff.1 hItems.symm).1
            (resolutionDigestFields_ne_nil y)
  | cons x xs ih =>
      cases ys with
      | nil =>
          rw [List.flatMap_nil, List.flatMap_cons] at hItems
          exact absurd (List.append_eq_nil_iff.1 hItems).1 (resolutionDigestFields_ne_nil x)
      | cons y ys =>
          rw [List.flatMap_cons, List.flatMap_cons] at hItems
          obtain ⟨hStamp, hRest⟩ := resolutionDigestFields_stamp hItems
          rw [List.map_cons, List.map_cons, hStamp, ih ys hRest]

/-! ## What a diff should tell -/

/-- The digests of the two sets tell their digested bytes apart. -/
def CollisionFree (before after : EntityCapabilitySet) : Prop :=
  computeDigest before.digestedBytes = computeDigest after.digestedBytes →
    before.digestedBytes = after.digestedBytes

/-- The diff has an entry for the capability. -/
def CapabilityDiff.Lists (diff : CapabilityDiff) (capability : CapabilityId) : Prop :=
  ∃ entry ∈ diff.entries, entry.capability = capability

/-- The diff of two sets tells how they differ. -/
structure DiffTells (before after : EntityCapabilitySet) (diff : CapabilityDiff) : Prop where
  empty : diff.entries = [] ↔ before.digest = after.digest ∧
    before.entityGeneration = after.entityGeneration ∧ before.invalidated = after.invalidated
  sorted : diff.entries.Pairwise fun a b => diffEntryLt a b = true
  single : ∀ x ∈ diff.entries, ∀ y ∈ diff.entries, x.capability.isSet = true →
    x.capability = y.capability → x = y
  /-- Within an entity generation, every change is listed. -/
  changed : before.entityGeneration = after.entityGeneration →
    ∀ capability, capability.isSet = true →
      (diff.Lists capability ↔
        before.resolutionOf capability ≠ after.resolutionOf capability)
  /-- Across entity generations, what shows in the fields that are compared. -/
  compared : before.entityGeneration ≠ after.entityGeneration →
    ∀ capability, capability.isSet = true →
      (diff.Lists capability ↔ ¬AlikeIn before after capability)
  entityLevel : ∀ entry ∈ diff.entries, entry.capability.isSet = true ↔
    entry.kind ≠ .entityGenerationChanged ∧ entry.kind ≠ .entityInvalidated
  generationChanged : (∃ entry ∈ diff.entries, entry.kind = .entityGenerationChanged) ↔
    before.entityGeneration ≠ after.entityGeneration
  flagChanged : (∃ entry ∈ diff.entries, entry.kind = .entityInvalidated) ↔
    before.invalidated ≠ after.invalidated

/-- Sets in order whose capabilities are told apart, with their own digests, in which the
capability generation identifies the resolution within an entity generation. -/
structure Comparable (before after : EntityCapabilitySet) : Prop where
  before_ordered : before.Ordered
  after_ordered : after.Ordered
  apart : NamedApart (namesOf before after)
  before_digest : before.digest = computeDigest before.digestedBytes
  after_digest : after.digest = computeDigest after.digestedBytes
  identified : before.entityGeneration = after.entityGeneration →
    ∀ resolution ∈ before.capabilities, ∀ other ∈ after.capabilities,
      resolution.capability = other.capability →
      resolution.capabilityGeneration = other.capabilityGeneration → resolution = other

section Comparable

variable {id : EntityId} {before after : EntityCapabilitySet}

theorem NamedApart.swap (h : NamedApart (namesOf before after)) :
    NamedApart (namesOf after before) := by
  have hSwap : ∀ capability, capability ∈ namesOf after before →
      capability ∈ namesOf before after := fun capability hMem =>
    List.mem_append.2 (List.mem_append.1 hMem).symm
  exact ⟨fun capability hMem => h.named capability (hSwap _ hMem),
    fun capability hMem other hOther => h.apart capability (hSwap _ hMem) other (hSwap _ hOther)⟩

theorem Comparable.swap (h : Comparable before after) : Comparable after before where
  before_ordered := h.after_ordered
  after_ordered := h.before_ordered
  apart := h.apart.swap
  before_digest := h.after_digest
  after_digest := h.before_digest
  identified hGeneration resolution hMem other hOther hSame hCapability :=
    (h.identified hGeneration.symm other hOther resolution hMem hSame.symm
      hCapability.symm).symm

/-- Within an entity generation, resolutions that are alike are the same. -/
theorem Comparable.alikeIn_iff (h : Comparable before after)
    (hGeneration : before.entityGeneration = after.entityGeneration)
    (capability : CapabilityId) : AlikeIn before after capability ↔
      before.resolutionOf capability = after.resolutionOf capability := by
  unfold AlikeIn
  cases hBefore : before.resolutionOf capability with
  | none =>
      cases after.resolutionOf capability with
      | none => exact ⟨fun _ => rfl, fun _ => trivial⟩
      | some rhs => exact ⟨False.elim, nofun⟩
  | some lhs =>
      cases hAfter : after.resolutionOf capability with
      | none => exact ⟨False.elim, nofun⟩
      | some rhs =>
          constructor
          · intro hAlike
            have hSame : lhs.capability = rhs.capability :=
              (lookup_key hBefore).trans (lookup_key hAfter).symm
            exact congrArg some (h.identified hGeneration lhs (lookup_mem hBefore) rhs
              (lookup_mem hAfter) hSame hAlike.capabilityGeneration)
          · intro hSame
            rw [Option.some.inj hSame]
            exact rhs.alike_refl

/-- With the same stamps, what one set holds the other holds. -/
theorem Comparable.found_of_stamps (h : Comparable before after)
    (hGeneration : before.entityGeneration = after.entityGeneration)
    (hStamps : before.capabilities.map CapabilityResolution.stamp =
      after.capabilities.map CapabilityResolution.stamp)
    {capability : CapabilityId} {resolution : CapabilityResolution}
    (hFound : before.resolutionOf capability = some resolution) :
    after.resolutionOf capability = some resolution := by
  have hMem : resolution ∈ before.capabilities := lookup_mem hFound
  have hStamp : resolution.stamp ∈ after.capabilities.map CapabilityResolution.stamp :=
    hStamps ▸ List.mem_map_of_mem hMem
  obtain ⟨other, hOther, hSame⟩ := List.mem_map.1 hStamp
  have hCapability : resolution.capability = other.capability := by
    refine h.apart.apart _ ?_ _ ?_ (congrArg Prod.fst hSame).symm
    · exact List.mem_append_left _ (List.mem_map_of_mem hMem)
    · exact List.mem_append_right _ (List.mem_map_of_mem hOther)
  have hEqual : resolution = other := h.identified hGeneration resolution hMem other hOther
    hCapability (congrArg Prod.snd hSame).symm
  rw [resolutionOf_eq_some_iff h.after_ordered.nodup, hEqual]
  exact ⟨hOther, hEqual ▸ lookup_key hFound⟩

/-- Within an entity generation, the sets agree exactly when their digests do. -/
theorem Comparable.same_iff_digest (h : Comparable before after)
    (hDigest : CollisionFree before after)
    (hGeneration : before.entityGeneration = after.entityGeneration) :
    (∀ capability, before.resolutionOf capability = after.resolutionOf capability) ↔
      before.digest = after.digest := by
  constructor
  · intro hSame
    rw [h.before_digest, h.after_digest, EntityCapabilitySet.digestedBytes,
      EntityCapabilitySet.digestedBytes,
      capabilities_ext h.before_ordered h.after_ordered hSame]
  · intro hSame capability
    rw [h.before_digest, h.after_digest] at hSame
    have hStamps := digestedBytes_stamps (hDigest hSame)
    cases hBefore : before.resolutionOf capability with
    | some lhs => exact (h.found_of_stamps hGeneration hStamps hBefore).symm
    | none =>
        cases hAfter : after.resolutionOf capability with
        | none => rfl
        | some rhs =>
            have hFound := h.swap.found_of_stamps hGeneration.symm hStamps.symm hAfter
            rw [hBefore] at hFound
            cases hFound

theorem resolutionOf_unset {set : EntityCapabilitySet}
    (hNamed : ∀ resolution ∈ set.capabilities, resolution.capability.isSet = true)
    {capability : CapabilityId} (hUnset : ¬capability.isSet = true) :
    set.resolutionOf capability = none := by
  unfold EntityCapabilitySet.resolutionOf
  rw [lookup_eq_none]
  intro hMem
  obtain ⟨resolution, hHeld, rfl⟩ := List.mem_map.1 hMem
  exact hUnset (hNamed resolution hHeld)

theorem Comparable.empty_iff (h : Comparable before after)
    (hDigest : CollisionFree before after) :
    (buildDiff id (some before) (some after)).entries = [] ↔ before.digest = after.digest ∧
      before.entityGeneration = after.entityGeneration ∧
      before.invalidated = after.invalidated := by
  rw [entries_eq_nil_iff h.before_ordered h.after_ordered h.apart]
  constructor
  · rintro ⟨hGeneration, hFlag, hAlike⟩
    refine ⟨(h.same_iff_digest hDigest hGeneration).1 fun capability => ?_, hGeneration, hFlag⟩
    by_cases hSet : capability.isSet = true
    · exact (h.alikeIn_iff hGeneration capability).1 (hAlike capability hSet)
    · rw [resolutionOf_unset (fun resolution hMem => h.apart.named _
          (List.mem_append_left _ (List.mem_map_of_mem hMem))) hSet,
        resolutionOf_unset (fun resolution hMem => h.apart.named _
          (List.mem_append_right _ (List.mem_map_of_mem hMem))) hSet]
  · rintro ⟨hSame, hGeneration, hFlag⟩
    refine ⟨hGeneration, hFlag, fun capability _ => ?_⟩
    exact (h.alikeIn_iff hGeneration capability).2
      ((h.same_iff_digest hDigest hGeneration).2 hSame capability)

theorem Comparable.tells (h : Comparable before after) (hDigest : CollisionFree before after) :
    DiffTells before after (buildDiff id (some before) (some after)) where
  empty := h.empty_iff hDigest
  sorted := entries_sorted h.before_ordered h.after_ordered h.apart
  single _ hx _ hy hSet hSame := entry_unique h.before_ordered h.after_ordered hx hy hSet hSame
  changed hGeneration capability hSet := by
    unfold CapabilityDiff.Lists
    rw [listed_iff h.before_ordered h.after_ordered h.apart hSet,
      h.alikeIn_iff hGeneration capability]
  compared _ _ hSet := listed_iff h.before_ordered h.after_ordered h.apart hSet
  entityLevel _ hMem := isSet_iff_kind h.apart hMem
  generationChanged := generationChanged_iff
  flagChanged := flagChanged_iff

end Comparable

/-! ## Runs -/

/-- The difference between two sets of an entity, as they were published after two parts of
one run without loads.  The capabilities in them are told apart by their texts, no
capability generation has run into its bound, and their digests do not collide.

A batch makes its publications one by one, so the sets inside a batch are those of the run
that makes the same publications one by one. -/
theorem diffs_tell (options : Options) (operations : List Operation)
    (hRun : Guarded Operation.apply NoLoad (Registry.init options) operations)
    (earlier later : List Operation) (hEarlier : earlier <+: operations)
    (hLater : later <+: operations) (id : EntityId) (before after : EntityCapabilitySet)
    (hBefore : (afterRun options earlier).publishedSet id = some before)
    (hAfter : (afterRun options later).publishedSet id = some after)
    (hApart : NamedApart (namesOf before after))
    (hRoom : ∀ resolution ∈ before.capabilities ++ after.capabilities, ¬resolution.Exhausted)
    (hDigest : CollisionFree before after) :
    DiffTells before after (buildDiff id (some before) (some after)) := by
  have hGuard : ∀ {past : List Operation}, past <+: operations →
      Guarded Operation.apply NoLoad (Registry.init options) past := by
    rintro past ⟨rest, rfl⟩
    exact (guarded_append.1 hRun).1
  have hMade : ∀ {past : List Operation} {set : EntityCapabilitySet}, past <+: operations →
      (afterRun options past).publishedSet id = some set →
      (∀ capability ∈ set.names, capability ∈ namesOf before after) →
      set.Ordered ∧ set.digest = computeDigest set.digestedBytes ∧
        ∀ resolution ∈ set.capabilities, resolution.capability.isSet = true := by
    intro past set hPast hSet hNames
    obtain ⟨entity, -, -, -, hDescends⟩ := descends_of_published (hGuard hPast) hSet
    have hNamed : ∀ resolution ∈ set.capabilities, resolution.capability.isSet = true :=
      fun resolution hMem => hApart.named _ (hNames _ (List.mem_map_of_mem hMem))
    refine ⟨EntityCapabilitySet.ordered_of_sorted hDescends.sorted (hDescends.distinct hNamed)
      ⟨fun capability hMem => hApart.named _ (hNames _ hMem), fun capability hMem other hOther =>
        hApart.apart _ (hNames _ hMem) _ (hNames _ hOther)⟩, ?_, hNamed⟩
    rw [hDescends.digest, digestOfResolutions_eq]
  obtain ⟨hOrderedBefore, hDigestBefore, hNamedBefore⟩ := hMade hEarlier hBefore
    fun _ hMem => List.mem_append_left _ hMem
  obtain ⟨hOrderedAfter, hDigestAfter, hNamedAfter⟩ := hMade hLater hAfter
    fun _ hMem => List.mem_append_right _ hMem
  have hComparable : Comparable before after :=
    { before_ordered := hOrderedBefore
      after_ordered := hOrderedAfter
      apart := hApart
      before_digest := hDigestBefore
      after_digest := hDigestAfter
      identified := fun hGeneration resolution hMem other hOther hSame hCapability =>
        generation_identifies_resolution hRun hEarlier hLater hBefore hAfter hGeneration
          hNamedBefore hNamedAfter hMem hOther hSame hCapability
          (hRoom other (List.mem_append_right _ hOther)) }
  exact hComparable.tells hDigest

/-! ### Two generations -/

instance (resolution : CapabilityResolution) : Decidable resolution.Exhausted :=
  inferInstanceAs (Decidable (_ = _))

instance (names : List CapabilityId) : Decidable (NamedApart names) :=
  decidable_of_iff
    ((∀ capability ∈ names, capability.isSet = true) ∧
      ∀ capability ∈ names, ∀ other ∈ names, capability.toText = other.toText →
        capability = other)
    ⟨fun h => ⟨h.1, h.2⟩, fun h => ⟨h.named, h.apart⟩⟩

instance (before after : EntityCapabilitySet) : Decidable (CollisionFree before after) :=
  inferInstanceAs (Decidable (_ → _))

instance (diff : CapabilityDiff) (capability : CapabilityId) :
    Decidable (diff.Lists capability) :=
  inferInstanceAs (Decidable (∃ entry ∈ diff.entries, entry.capability = capability))

/-- The capabilities of the two sets and their generations are what they should be. -/
def Unambiguous (before after : EntityCapabilitySet) : Prop :=
  NamedApart (namesOf before after) ∧
    ∀ resolution ∈ before.capabilities ++ after.capabilities, ¬resolution.Exhausted

instance (before after : EntityCapabilitySet) : Decidable (Unambiguous before after) :=
  inferInstanceAs (Decidable (_ ∧ _))

/-- A fence changes the set of the first generation, and the diff says so. -/
theorem fence_is_listed :
    ∃ before ∈ (afterRun {} Sample.firstSet).publishedSet Sample.entity,
      ∃ after ∈ (afterRun {} (Sample.firstSet ++
        [.fenceWorkerBoot Sample.bootOne .unset])).publishedSet Sample.entity,
        DiffTells before after (buildDiff Sample.entity (some before) (some after)) := by
  obtain ⟨before, hBefore, after, hAfter, ⟨hApart, hRoom⟩, hDigest⟩ :
      ∃ before ∈ (afterRun {} Sample.firstSet).publishedSet Sample.entity,
        ∃ after ∈ (afterRun {} (Sample.firstSet ++
          [.fenceWorkerBoot Sample.bootOne .unset])).publishedSet Sample.entity,
          Unambiguous before after ∧ CollisionFree before after := by
    decide +kernel
  exact ⟨before, hBefore, after, hAfter,
    diffs_tell {} _ (by decide +kernel) _ _ (List.prefix_append _ _) (List.prefix_refl _)
      Sample.entity before after hBefore hAfter hApart hRoom hDigest⟩

namespace Sample

/-- A capability is claimed and withdrawn twice. -/
def withdrawnTwice : List Operation :=
  setup ++
    [.publish (edition source "attempt-1" 0 [setClaim, withdrawal, setClaim, withdrawal])]

/-- In the next entity generation it is claimed three times and withdrawn. -/
def withdrawnOnce : Operation :=
  .publish { edition source "attempt-2" 0 [setClaim, setClaim, setClaim, withdrawal] with
    entityGeneration := 2 }

end Sample

/-- The capability is unknown at capability generation four in both generations, with two
records in one and three in the other: the digest changes and the diff does not list it. -/
theorem diff_hides_counts :
    ∃ before ∈ (afterRun {} Sample.withdrawnTwice).publishedSet Sample.entity,
      ∃ after ∈ (afterRun {} (Sample.withdrawnTwice ++
        [Sample.withdrawnOnce])).publishedSet Sample.entity,
        Unambiguous before after ∧ before.digest ≠ after.digest ∧
        (before.resolutionOf Sample.capability).map CapabilityResolution.evidenceCount =
          some 2 ∧
        (after.resolutionOf Sample.capability).map CapabilityResolution.evidenceCount =
          some 3 ∧
        ¬(buildDiff Sample.entity (some before) (some after)).Lists Sample.capability := by
  decide +kernel

end FabricCapability.Ports
