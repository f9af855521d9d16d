import FabricCapability.Ports.EntrySteps
import FabricCapability.Ports.SetTruth

/-!
# How the resolutions of an entity develop

Whoever touches the evidence of an entry advances its capability generation, and resolves it
again only then.  So the resolution of an entry at one capability generation is one
resolution, as long as the generation has not run into its bound.

A set is a copy of the resolutions at the time it was published or refreshed.  It may be
behind the entries (a publication that fails leaves them changed), but it is never ahead of
them, and every later set is made from later resolutions.

## Main results

* `inherits_rule`, `applies_inherits`: every operation but a load keeps the lineage.
* `generation_identifies_resolution`: within one entity generation, a capability and its
  generation identify the resolution in all sets of a run.
-/

namespace FabricCapability.Ports

open FabricCapability.Verified.KeyedList
open FabricCapability.Verified.Runs
open FabricCapability.Verified.StrictOrder

/-! ## Entries -/

/-- The capability generation has reached the last value of its counter. -/
def CapabilityResolution.Exhausted (resolution : CapabilityResolution) : Prop :=
  resolution.capabilityGeneration = 0xFFFFFFFFFFFFFFFF

/-- A later resolution of an entry.  While the capability generation stays, the resolution
stays, unless the generation could not be advanced. -/
def Renews (resolution later : CapabilityResolution) : Prop :=
  resolution.capabilityGeneration ≤ later.capabilityGeneration ∧
    (resolution.capabilityGeneration = later.capabilityGeneration →
      later.Exhausted ∨ resolution = later)

theorem renews_refl (resolution : CapabilityResolution) : Renews resolution resolution :=
  ⟨UInt64.le_refl _, fun _ => .inr rfl⟩

theorem renews_trans {a b c : CapabilityResolution} (hab : Renews a b) (hbc : Renews b c) :
    Renews a c := by
  refine ⟨UInt64.le_trans hab.1 hbc.1, fun hSame => ?_⟩
  have hMiddle : a.capabilityGeneration = b.capabilityGeneration :=
    UInt64.le_antisymm hab.1 (hSame ▸ hbc.1)
  have hLast : b.capabilityGeneration = c.capabilityGeneration := hMiddle.symm.trans hSame
  rcases hbc.2 hLast with hExhausted | rfl
  · exact .inl hExhausted
  · exact hab.2 hMiddle

/-- The resolution carries the generation of its entry, and its name once it has one. -/
structure CapabilityEntry.Stamped (entry : CapabilityEntry) : Prop where
  generation : entry.resolution.capabilityGeneration = entry.generation
  named : entry.resolution.capability.isSet = true → entry.resolution.capability = entry.id

/-- A later version of an entry. -/
def EntryRenews (entry later : CapabilityEntry) : Prop :=
  entry.Stamped → later.Stamped ∧ Renews entry.resolution later.resolution

theorem entryRenews_refl (entry : CapabilityEntry) : EntryRenews entry entry :=
  fun h => ⟨h, renews_refl _⟩

theorem entryRenews_trans (a b c : CapabilityEntry) (hab : EntryRenews a b)
    (hbc : EntryRenews b c) : EntryRenews a c := by
  intro h
  obtain ⟨hStamped, hFirst⟩ := hab h
  obtain ⟨hLater, hSecond⟩ := hbc hStamped
  exact ⟨hLater, renews_trans hFirst hSecond⟩

theorem computeResolution_capabilityGeneration (entity : EntityId) (bound : EntityGeneration)
    (entry : CapabilityEntry) :
    (computeResolution entity bound entry).capabilityGeneration = entry.generation := by
  unfold computeResolution
  dsimp only
  split
  · rfl
  · rfl
  · split <;> rfl

/-- A new resolution comes with a new generation, or with the last one. -/
theorem entryRenews_resolved {entry later : CapabilityEntry} (entity : EntityId)
    (bound : EntityGeneration)
    (hGeneration : later.generation.toNat = min (entry.generation.toNat + 1) (2 ^ 64 - 1))
    (hResolution : later.resolution = computeResolution entity bound later) :
    EntryRenews entry later := by
  intro h
  have hStamp : later.resolution.capabilityGeneration = later.generation := by
    rw [hResolution]
    exact computeResolution_capabilityGeneration ..
  have hBelow := entry.generation.toNat_lt
  refine ⟨⟨hStamp, fun _ => ?_⟩, ?_, fun hSame => .inl ?_⟩
  · rw [hResolution]
    exact computeResolution_capability ..
  · rw [h.generation, hStamp, UInt64.le_iff_toNat_le]
    omega
  · rw [h.generation, hStamp] at hSame
    rw [hSame] at hGeneration hBelow
    rw [CapabilityResolution.Exhausted, hStamp]
    refine UInt64.toNat_inj.1 ?_
    show later.generation.toNat = 2 ^ 64 - 1
    omega

theorem entryRenews_kept {entry later : CapabilityEntry} (hId : later.id = entry.id)
    (hGeneration : later.generation = entry.generation)
    (hResolution : later.resolution = entry.resolution) : EntryRenews entry later := by
  intro h
  refine ⟨⟨?_, ?_⟩, ?_⟩
  · rw [hResolution, hGeneration]
    exact h.generation
  · rw [hResolution, hId]
    exact h.named
  · rw [hResolution]
    exact renews_refl _

/-- A step that succeeds resolves the entry again; one that fails leaves the resolution. -/
theorem EntryChange.renews {registry : Registry} {request : PublicationRequest} {cell : Cell}
    {step : ApplyStep} {ok : Bool} {entry later : CapabilityEntry}
    (h : EntryChange registry request cell step ok entry later) : EntryRenews entry later := by
  have hAdvances : ∀ {next : CapabilityGeneration}, counterNext entry.generation = .ok next →
      next.toNat = min (entry.generation.toNat + 1) (2 ^ 64 - 1) := by
    intro next hNext
    have hToNat := toNat_of_counterNext hNext
    have hBelow := next.toNat_lt
    omega
  cases h with
  | superseded =>
      exact entryRenews_resolved cell.entity.id cell.entity.boundGeneration
        (toNat_nextOrSame _) rfl
  | withdrawn _ hNext =>
      exact entryRenews_resolved cell.entity.id cell.entity.boundGeneration
        (hAdvances hNext) rfl
  | unwithdrawn => exact entryRenews_kept rfl rfl rfl
  | trimmed => exact entryRenews_kept rfl rfl rfl
  | unapplied => exact entryRenews_kept rfl rfl rfl
  | applied hNext =>
      exact entryRenews_resolved cell.entity.id cell.entity.boundGeneration
        (hAdvances hNext) rfl

/-- No step gives two entries one identifier. -/
theorem stepRun_distinct {registry : Registry} {request : PublicationRequest}
    {step : ApplyStep} {cell : Cell}
    (h : (cell.entity.capabilities.map CapabilityEntry.id).Nodup) :
    ((step.run registry request cell).1.entity.capabilities.map CapabilityEntry.id).Nodup := by
  cases step with
  | supersedeOtherIdentities =>
      exact (relabelEntity_ids _ _ _ cell.indexes cell.entity).symm ▸ h
  | supersedeIdentity => exact (relabelEntity_ids _ _ _ cell.indexes cell.entity).symm ▸ h
  | applyClaim claim coverage =>
      have hApply : ∀ entry, ((applyToEntry registry request claim coverage cell
          entry).1.entity.capabilities.map CapabilityEntry.id).Nodup := by
        intro entry
        unfold applyToEntry
        dsimp only
        split
        · exact nodup_upsert h
        · split
          · exact nodup_upsert h
          · exact nodup_upsert h
      show ((applyClaim registry request claim coverage cell).1.entity.capabilities.map
        CapabilityEntry.id).Nodup
      unfold applyClaim
      split
      · exact hApply _
      · split
        · exact h
        · exact hApply _
  | withdrawClaim capability =>
      show ((withdrawIdentityClaim request capability cell).1.entity.capabilities.map
        CapabilityEntry.id).Nodup
      unfold withdrawIdentityClaim
      split
      · exact h
      · split
        · dsimp only
          split
          · exact nodup_upsert h
          · exact nodup_upsert h
        · exact h
  | countSuperseded => exact h

/-! ## Entities -/

/-- The set was made from the entries of the entity, as they are or as they were. -/
structure EntityState.Descends (entity : EntityState) (set : EntityCapabilitySet) : Prop where
  generation : set.entityGeneration = entity.currentGeneration
  digest : set.digest = digestOfResolutions set.capabilities
  sorted : set.capabilities.Pairwise fun a b => b.capability.lt a.capability = false
  distinct : (∀ resolution ∈ set.capabilities, resolution.capability.isSet = true) →
    (set.capabilities.map CapabilityResolution.capability).Nodup
  renewed : ∀ resolution ∈ set.capabilities, resolution.capability.isSet = true →
    ∃ entry ∈ entity.capabilities, entry.id = resolution.capability ∧
      Renews resolution entry.resolution

/-- The entries carry their stamps under identifiers of their own, and the set that is
published was made from them. -/
structure EntityState.Lineage (entity : EntityState) : Prop where
  stamped : AllEntries CapabilityEntry.Stamped entity
  distinct : (entity.capabilities.map CapabilityEntry.id).Nodup
  bound : entity.BoundCurrent
  known : entity.currentGeneration ≠ 0
  descends : ∀ set ∈ entity.set, entity.Descends set

/-- Every entry has a later version, and the set is the same or made from later versions. -/
structure Inherits (a b : EntityState) : Prop where
  entries : ∀ entry ∈ a.capabilities, ∃ later ∈ b.capabilities, later.id = entry.id ∧
    Renews entry.resolution later.resolution
  set : b.set = a.set ∨ ∀ set ∈ b.set, ∀ resolution ∈ set.capabilities,
    resolution.capability.isSet = true → ∀ entry ∈ a.capabilities,
      entry.id = resolution.capability → Renews entry.resolution resolution

theorem inherits_refl (entity : EntityState) : Inherits entity entity :=
  ⟨fun entry hMem => ⟨entry, hMem, rfl, renews_refl _⟩, .inl rfl⟩

theorem inherits_trans (a b c : EntityState) (hab : Inherits a b) (hbc : Inherits b c) :
    Inherits a c := by
  constructor
  · intro entry hMem
    obtain ⟨middle, hMiddle, hId, hFirst⟩ := hab.entries entry hMem
    obtain ⟨later, hLater, hId', hSecond⟩ := hbc.entries middle hMiddle
    exact ⟨later, hLater, hId'.trans hId, renews_trans hFirst hSecond⟩
  · rcases hbc.set with hSame | hMade
    · rw [hSame]
      exact hab.set
    · refine .inr fun set hSet resolution hHeld hNamed entry hMem hId => ?_
      obtain ⟨middle, hMiddle, hId', hFirst⟩ := hab.entries entry hMem
      exact renews_trans hFirst
        (hMade set hSet resolution hHeld hNamed middle hMiddle (hId'.trans hId))

/-- What an operation does to an entity of good lineage. -/
def KeepsLineage (a b : EntityState) : Prop :=
  a.Lineage → b.Lineage ∧ WhileGeneration Inherits a b

theorem keepsLineage_refl (entity : EntityState) : KeepsLineage entity entity :=
  fun h => ⟨h, .inr ⟨rfl, inherits_refl entity⟩⟩

theorem keepsLineage_trans (a b c : EntityState) (hab : KeepsLineage a b)
    (hbc : KeepsLineage b c) : KeepsLineage a c := by
  intro h
  obtain ⟨hLineage, hFirst⟩ := hab h
  obtain ⟨hLater, hSecond⟩ := hbc hLineage
  exact ⟨hLater, hFirst.trans inherits_trans hSecond⟩

/-- An entity that differs outside its generation and its entries, with the set that it had
or with one made from the entries as they are. -/
theorem keepsLineage_of_set {a b : EntityState}
    (hCurrent : b.currentGeneration = a.currentGeneration) (hBound : b.BoundCurrent)
    (hCapabilities : b.capabilities = a.capabilities)
    (hSet : b.set = a.set ∨ ∃ set, b.set = some set ∧
      set.entityGeneration = a.currentGeneration ∧
      set.digest = digestOfResolutions set.capabilities ∧
      set.capabilities = a.resolutions) : KeepsLineage a b := by
  intro h
  have hResolution : ∀ resolution ∈ a.resolutions, ∃ entry ∈ a.capabilities,
      entry.resolution = resolution := by
    intro resolution hMem
    obtain ⟨entry, hEntry, hSame⟩ := List.mem_map.1 (mem_sortBy.1 hMem)
    exact ⟨entry, hEntry, hSame⟩
  have hDescends : ∀ set ∈ b.set, a.Descends set := by
    rcases hSet with hSame | ⟨set, hMade, hGeneration, hDigest, hHeld⟩
    · rw [hSame]
      exact h.descends
    · intro other hOther
      rw [hMade, Option.mem_some_iff] at hOther
      subst hOther
      refine ⟨hGeneration, hDigest, ?_, fun hNamed => ?_, ?_⟩
      · rw [hHeld]
        exact sortBy_pairwise (bytesLt_total.comap fun resolution : CapabilityResolution =>
          resolution.capability.toText) _
      · -- sorting and resolving keep the identifiers apart
        rw [hHeld] at hNamed ⊢
        have hNames : (a.capabilities.map CapabilityEntry.resolution).map
            CapabilityResolution.capability = a.capabilities.map CapabilityEntry.id := by
          rw [List.map_map]
          refine List.map_congr_left fun entry hMem => ?_
          exact (h.stamped entry hMem).named
            (hNamed _ (mem_sortBy.2 (List.mem_map_of_mem hMem)))
        rw [EntityState.resolutions, ((sortBy_perm _ _).map _).nodup_iff, hNames]
        exact h.distinct
      · intro resolution hMem hNamed
        rw [hHeld] at hMem
        obtain ⟨entry, hEntry, rfl⟩ := hResolution resolution hMem
        exact ⟨entry, hEntry, ((h.stamped entry hEntry).named hNamed).symm, renews_refl _⟩
  refine ⟨⟨?_, ?_, hBound, hCurrent ▸ h.known, fun set hMem => ?_⟩, .inr ⟨hCurrent.symm, ?_, ?_⟩⟩
  · rw [AllEntries, hCapabilities]
    exact h.stamped
  · rw [hCapabilities]
    exact h.distinct
  · obtain ⟨hGeneration, hDigest, hSorted, hDistinct, hRenewed⟩ := hDescends set hMem
    exact ⟨hGeneration.trans hCurrent.symm, hDigest, hSorted, hDistinct, hCapabilities ▸ hRenewed⟩
  · rw [hCapabilities]
    exact (inherits_refl a).entries
  · rcases hSet with hSame | ⟨set, hMade, -, -, hHeld⟩
    · exact .inl hSame
    · refine .inr fun other hOther resolution hMem hNamed entry hEntry hId => ?_
      rw [hMade, Option.mem_some_iff] at hOther
      subst hOther
      rw [hHeld] at hMem
      obtain ⟨origin, hOrigin, rfl⟩ := hResolution resolution hMem
      have hSame : entry = origin := by
        refine List.inj_on_of_nodup_map h.distinct hEntry hOrigin ?_
        exact hId.trans ((h.stamped origin hOrigin).named hNamed)
      exact hSame ▸ renews_refl _

/-- An entity that differs in its entries, which are later versions of what they were. -/
theorem keepsLineage_of_entries {a b : EntityState}
    (hCurrent : b.currentGeneration = a.currentGeneration) (hBound : b.BoundCurrent)
    (hSet : b.set = a.set) (hGrows : EntriesGrow EntryRenews a b)
    (hDistinct : (a.capabilities.map CapabilityEntry.id).Nodup →
      (b.capabilities.map CapabilityEntry.id).Nodup) : KeepsLineage a b := by
  intro h
  have hLater : ∀ entry ∈ a.capabilities, ∃ later ∈ b.capabilities, later.id = entry.id ∧
      Renews entry.resolution later.resolution := by
    intro entry hMem
    obtain ⟨later, hFound, hRenews⟩ := hGrows.find (lookup_of_mem h.distinct hMem)
    exact ⟨later, lookup_mem hFound, lookup_key hFound, (hRenews (h.stamped entry hMem)).2⟩
  have hStamped : AllEntries CapabilityEntry.Stamped b := by
    have hKept : EntriesGrow (fun entry later => entry.Stamped → later.Stamped) a b :=
      Grows.mono (fun _ _ hRenews hStamped => (hRenews hStamped).1) hGrows
    exact hKept.invariant (fun _ => ⟨rfl, nofun⟩) h.stamped
  refine ⟨⟨hStamped, hDistinct h.distinct, hBound, hCurrent ▸ h.known, fun set hMem => ?_⟩,
    .inr ⟨hCurrent.symm, hLater, .inl hSet⟩⟩
  rw [hSet] at hMem
  obtain ⟨hGeneration, hDigest, hSorted, hNames, hRenewed⟩ := h.descends set hMem
  refine ⟨hGeneration.trans hCurrent.symm, hDigest, hSorted, hNames, ?_⟩
  intro resolution hHeld hNamed
  obtain ⟨entry, hEntry, hId, hFirst⟩ := hRenewed resolution hHeld hNamed
  obtain ⟨later, hFound, hSame, hSecond⟩ := hLater entry hEntry
  exact ⟨later, hFound, hSame.trans hId, renews_trans hFirst hSecond⟩

/-- An entity without entries and without a set. -/
theorem lineage_of_empty {entity : EntityState} (hCapabilities : entity.capabilities = [])
    (hSet : entity.set = none) (hBound : entity.BoundCurrent)
    (hKnown : entity.currentGeneration ≠ 0) : entity.Lineage := by
  refine ⟨?_, ?_, hBound, hKnown, ?_⟩
  · rw [AllEntries, hCapabilities]
    exact fun _ hMem => by cases hMem
  · rw [hCapabilities]
    exact List.nodup_nil
  · rw [hSet]
    exact fun _ hMem => by cases hMem

/-! ## Operations -/

theorem materialize_digest (registryGeneration : RegistryGeneration) (entity : EntityState) :
    (materialize registryGeneration entity).digest =
      digestOfResolutions (materialize registryGeneration entity).capabilities := by
  simp only [materialize]

/-- What a commit publishes. -/
theorem committedEntity_set (registryGeneration : RegistryGeneration) (entity : EntityState)
    (request : PublicationRequest) :
    ∃ set, (committedEntity registryGeneration entity request).set = some set ∧
      set.entityGeneration = entity.currentGeneration ∧
      set.digest = digestOfResolutions set.capabilities ∧
      set.capabilities = entity.resolutions := by
  unfold committedEntity EntityState.raiseFloor publishedEntity
  exact ⟨_, rfl, rfl, materialize_digest .., rfl⟩

theorem inherits_rule : EntityRule KeepsLineage where
  refl := keepsLineage_refl
  trans := keepsLineage_trans
  retired options registryGeneration entity next reason touchedAt hAbove _ := by
    refine ⟨lineage_of_empty rfl rfl rfl ?_, .inl hAbove⟩
    exact UInt64.pos_iff_ne_zero.1 (UInt64.lt_of_le_of_lt UInt64.zero_le hAbove)
  exhausted entity next _ h := keepsLineage_of_set rfl h.bound rfl (.inl rfl) h
  committed registry advanced entity next request hAdvance := by
    have hNext := (advanceGenerations_ok hAdvance).2.1
    have hCurrent : next.currentGeneration = entity.currentGeneration := by rw [hNext]
    have hCapabilities : next.capabilities = entity.capabilities := by rw [hNext]
    obtain ⟨set, hSet, hGeneration, hDigest, hHeld⟩ :=
      committedEntity_set advanced.registryGeneration next request
    refine keepsLineage_of_set ?_ rfl ?_ (.inr ⟨set, hSet, ?_, hDigest, ?_⟩)
    · rw [committedEntity_currentGeneration, hCurrent]
    · rw [committedEntity_capabilities, hCapabilities]
    · rw [hGeneration, hCurrent]
    · rw [hHeld, EntityState.resolutions, hCapabilities, EntityState.resolutions]
  observed entity generation hUnset _ h := absurd hUnset h.known
  relabelled matching currentness reason indexes entity h := by
    refine keepsLineage_of_entries rfl h.bound rfl ?_ ?_ h
    · exact relabelEntity_grows entryRenews_refl fun entry _ =>
        entryRenews_resolved entity.id entity.boundGeneration (toNat_nextOrSame _) rfl
    · rw [relabelEntity_ids]
      exact id
  flagged entity reason h := keepsLineage_of_set rfl h.bound rfl (.inl rfl) h
  refreshed registryGeneration entity touchedAt h :=
    keepsLineage_of_set rfl h.bound rfl
      (.inr ⟨_, rfl, h.bound, materialize_digest registryGeneration entity, rfl⟩) h

theorem applies_inherits (registry : Registry) (request : PublicationRequest) :
    AppliesWithin KeepsLineage registry request := by
  intro _ grant bound entity _ _ _ h
  have hSame := runSteps_entity bound request (applySteps bound.schema grant request)
    (bound.cell entity)
  refine keepsLineage_of_entries hSame.currentGeneration_eq (hSame.boundCurrent h.bound)
    hSame.set_eq ?_ ?_ h
  · exact @runSteps_grows _ bound request _ (bound.cell entity) entryRenews_refl
      entryRenews_trans fun _ _ _ _ _ _ _ hChange => hChange.renews
  · exact fun hDistinct => @runSteps_preserves (fun cell => (cell.entity.capabilities.map
      CapabilityEntry.id).Nodup) bound request _ (bound.cell entity)
        (fun _ _ _ => stepRun_distinct) hDistinct

theorem step_keepsLineage {registry : Registry} {operation : Operation}
    (h : NoLoad registry operation) :
    Follows KeepsLineage registry (operation.apply registry) :=
  step_follows inherits_rule (fun _ _ => applies_inherits _ _) h

/-! ## Runs -/

/-- The set that is published for an entity. -/
def Registry.publishedSet (registry : Registry) (id : EntityId) : Option EntityCapabilitySet :=
  (registry.findEntity id).bind EntityState.set

section Runs

variable {options : Options} {operations : List Operation} {id : EntityId}

theorem run_keepsLineage {registry : Registry}
    (hRun : Guarded Operation.apply NoLoad registry operations) :
    Follows KeepsLineage registry (run Operation.apply registry operations) :=
  run_rel (fun _ => Follows.of_entities keepsLineage_refl rfl)
    (fun _ _ _ => Follows.trans keepsLineage_trans) (fun _ _ => step_keepsLineage) hRun

theorem run_lineage (hRun : Guarded Operation.apply NoLoad (Registry.init options) operations) :
    ∀ entity ∈ (afterRun options operations).entities, entity.Lineage := by
  have hFollows := (run_keepsLineage hRun).mono fun _ _ hKeeps hLineage => (hKeeps hLineage).1
  refine hFollows.invariant (fun _ _ _ hNe => lineage_of_empty rfl rfl rfl hNe) ?_
  rw [init_entities]
  exact fun _ hMem => by cases hMem

/-- A set that is published was made from the entries of its entity. -/
theorem descends_of_published
    (hRun : Guarded Operation.apply NoLoad (Registry.init options) operations)
    {set : EntityCapabilitySet}
    (hSet : (afterRun options operations).publishedSet id = some set) :
    ∃ entity, (afterRun options operations).findEntity id = some entity ∧
      entity.set = some set ∧ entity.Lineage ∧ entity.Descends set := by
  obtain ⟨entity, hFound, hHeld⟩ := Option.bind_eq_some_iff.1 hSet
  have hLineage := run_lineage hRun entity (lookup_mem hFound)
  exact ⟨entity, hFound, hHeld, hLineage, hLineage.descends set hHeld⟩

/-- Two sets of one entity generation, published one after the other: a resolution of the
second renews the one that the first has of its capability. -/
theorem renews_of_published {earlier later : List Operation}
    (hRun : Guarded Operation.apply NoLoad (Registry.init options) (earlier ++ later))
    {first second : EntityCapabilitySet}
    (hFirst : (afterRun options earlier).publishedSet id = some first)
    (hSecond : (afterRun options (earlier ++ later)).publishedSet id = some second)
    (hGeneration : first.entityGeneration = second.entityGeneration)
    (hNamed : ∀ resolution ∈ first.capabilities, resolution.capability.isSet = true)
    {resolution other : CapabilityResolution} (hMem : resolution ∈ first.capabilities)
    (hOther : other ∈ second.capabilities)
    (hSame : resolution.capability = other.capability) : Renews resolution other := by
  obtain ⟨hEarlier, hLater⟩ := guarded_append.1 hRun
  obtain ⟨a, hFoundA, hSetA, hLineage, hDescends⟩ := descends_of_published hEarlier hFirst
  obtain ⟨b, hFoundB, hSetB, -, hDescendsB⟩ := descends_of_published hRun hSecond
  have hFollows := run_keepsLineage hLater
  rw [← run_append] at hFollows
  obtain ⟨found, hFound, hKeeps⟩ := hFollows.find hFoundA
  obtain rfl : found = b := Option.some.inj (hFound.symm.trans hFoundB)
  rcases (hKeeps hLineage).2 with hAbove | ⟨-, hInherits⟩
  · rw [← hDescends.generation, ← hDescendsB.generation, hGeneration] at hAbove
    exact absurd hAbove (UInt64.lt_irrefl _)
  · rcases hInherits.set with hSameSet | hMade
    · -- nothing was published in between
      rw [hSetA, hSetB, Option.some.injEq] at hSameSet
      subst hSameSet
      have hEqual : resolution = other :=
        List.inj_on_of_nodup_map (hDescends.distinct hNamed) hMem hOther hSame
      exact hEqual ▸ renews_refl _
    · have hNamedHere := hNamed resolution hMem
      obtain ⟨entry, hEntry, hId, hRenews⟩ := hDescends.renewed resolution hMem hNamedHere
      exact renews_trans hRenews (hMade second hSetB other hOther (hSame ▸ hNamedHere) entry
        hEntry (hId.trans hSame))

/-- Within one entity generation, the capability and its generation identify the resolution
in all sets of a run, until the generation runs into its bound. -/
theorem generation_identifies_resolution
    (hRun : Guarded Operation.apply NoLoad (Registry.init options) operations)
    {earlier later : List Operation} (hEarlier : earlier <+: operations)
    (hLater : later <+: operations) {first second : EntityCapabilitySet}
    (hFirst : (afterRun options earlier).publishedSet id = some first)
    (hSecond : (afterRun options later).publishedSet id = some second)
    (hGeneration : first.entityGeneration = second.entityGeneration)
    (hNamed : ∀ resolution ∈ first.capabilities, resolution.capability.isSet = true)
    (hNamedLater : ∀ resolution ∈ second.capabilities, resolution.capability.isSet = true)
    {resolution other : CapabilityResolution} (hMem : resolution ∈ first.capabilities)
    (hOther : other ∈ second.capabilities)
    (hSame : resolution.capability = other.capability)
    (hCapability : resolution.capabilityGeneration = other.capabilityGeneration)
    (hRoom : ¬other.Exhausted) : resolution = other := by
  have hGuard : ∀ {past : List Operation}, past <+: operations →
      Guarded Operation.apply NoLoad (Registry.init options) past := by
    rintro past ⟨rest, rfl⟩
    exact (guarded_append.1 hRun).1
  rcases List.prefix_or_prefix_of_prefix hEarlier hLater with ⟨rest, rfl⟩ | ⟨rest, rfl⟩
  · have hRenews := renews_of_published (hGuard hLater) hFirst hSecond hGeneration hNamed hMem
      hOther hSame
    exact (hRenews.2 hCapability).resolve_left hRoom
  · have hRenews := renews_of_published (hGuard hEarlier) hSecond hFirst hGeneration.symm
      hNamedLater hOther hMem hSame.symm
    refine ((hRenews.2 hCapability.symm).resolve_left fun hExhausted => hRoom ?_).symm
    rw [CapabilityResolution.Exhausted, ← hCapability]
    exact hExhausted

end Runs

end FabricCapability.Ports
