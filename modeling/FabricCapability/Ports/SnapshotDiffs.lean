import FabricCapability.Ports.IdCodec
import FabricCapability.Ports.OptimisticLocking
import FabricCapability.Ports.SnapshotCurrency

/-!
# Differences against a snapshot

`DiffAgainstSnapshot` of `src/registry.cpp` walks the entities of the snapshot and then every
entity of the registry that the snapshot does not name.  `CreateSnapshot` leaves out what its
scope excludes; the second walk asks no scope, so an excluded entity with capabilities is
reported as if it had been added.

## Main results

* `added_eq_nil_iff`: an entity that the snapshot does not name is silent exactly when it shows
  no capability.
* `snapshot_names_iff`: the snapshot names the entities that its scope covers.
* `snapshot_diff_within_scope_iff`: a fresh snapshot shows no difference, and a later one only
  entities in scope, exactly when the scope covers the entities that show capabilities.
-/

namespace FabricCapability.Ports

open FabricCapability.Verified.KeyedList
open FabricCapability.Verified.Runs
open FabricCapability.Verified.StrictOrder

def kMaxDiffEntries : Nat := 1000000

/-! ## The walks -/

/-- The binary search among the sorted identifiers of the snapshot.  Their order is the order
of the rendered texts. -/
def CapabilitySnapshot.names (snapshot : CapabilitySnapshot) (id : EntityId) : Bool :=
  snapshot.entities.any fun entry => entry.entity.toText = id.toText

/-- What the first walk reports: each entry of the snapshot against the registry. -/
def knownDifferences (registry : Registry) (snapshot : CapabilitySnapshot) :
    List CapabilityDiffEntry :=
  snapshot.entities.flatMap fun entry =>
    (buildDiff entry.entity entry.set
      ((registry.findEntity entry.entity).bind EntityState.set)).entries

/-- What the second walk reports of an entity. -/
def EntityState.added (entity : EntityState) : List CapabilityDiffEntry :=
  (buildDiff entity.id none entity.set).entries

/-- The entities of the second walk. -/
def unnamedEntities (registry : Registry) (snapshot : CapabilitySnapshot) : List EntityState :=
  registry.entities.filter fun entity => !snapshot.names entity.id

/-- `DiffAgainstSnapshot`. -/
def diffAgainstSnapshot (registry : Registry) (snapshot : CapabilitySnapshot) :
    Outcome CapabilityDiff :=
  if snapshot.entities.length > kMaxDiffEntries then
    failure .tooManyItems (txt "snapshot is too large to diff") []
  else
    .ok
      { entity := .unset
        entries := sortBy diffEntryLt
          (knownDifferences registry snapshot ++
            (unnamedEntities registry snapshot).flatMap EntityState.added) }

/-! ## What the differences should be -/

/-- The entity is named by the scope and passes its filters. -/
def SnapshotScope.covers (registry : Registry) (scope : SnapshotScope) (entity : EntityState) :
    Bool :=
  (scope.allEntities || scope.entities.contains entity.id) && inScope registry scope entity

/-- The differences inside the scope of a snapshot: those of the entities in it, and the
additions of the entities that the scope covers. -/
def differencesWithin (registry : Registry) (scope : SnapshotScope)
    (snapshot : CapabilitySnapshot) : List CapabilityDiffEntry :=
  knownDifferences registry snapshot ++
    ((unnamedEntities registry snapshot).filter (scope.covers registry)).flatMap
      EntityState.added

/-- A snapshot of a registry compares with this registry and with a later one as it
should. -/
structure DiffsWithinScope (registry later : Registry) (scope : SnapshotScope)
    (snapshot : CapabilitySnapshot) : Prop where
  /-- At once, there is no difference. -/
  fresh : ∃ diff, diffAgainstSnapshot registry snapshot = .ok diff ∧ diff.entries = []
  /-- Later, the differences are those inside the scope. -/
  within : ∃ diff, diffAgainstSnapshot later snapshot = .ok diff ∧
    diff.entries.Perm (differencesWithin later scope snapshot)

/-- The published set of the entity has a capability in it. -/
def EntityState.shows (entity : EntityState) : Bool :=
  entity.set.any fun set => !set.capabilities.isEmpty

/-- The scope covers what shows capabilities: at the creation of the snapshot, and later for
the entities that it did not cover then. -/
structure ScopeCovers (registry later : Registry) (scope : SnapshotScope) : Prop where
  then_covered : ∀ entity ∈ registry.entities, entity.shows = true →
    scope.covers registry entity = true
  now_covered : ∀ entity ∈ later.entities, entity.shows = true →
    (∀ held ∈ registry.entities, held.id = entity.id → scope.covers registry held = false) →
      scope.covers later entity = true

/-! ## Differences of one entity -/

theorem CapabilityValue.same_refl (value : CapabilityValue) : value.same value = true := by
  have hVersion : ∀ version : Version, version.same version = true := by
    intro version
    unfold Version.same
    exact beq_self_eq_true _
  unfold CapabilityValue.same
  split
  · rename_i x y hFirst hSecond
    obtain rfl : x = y := by
      rw [hFirst] at hSecond
      injection hSecond
    simp [hVersion]
  · exact beq_self_eq_true _

theorem compareResolutions_self (capability : CapabilityId) (resolution : CapabilityResolution) :
    compareResolutions capability resolution resolution = [] := by
  unfold compareResolutions
  simp [CapabilityValue.same_refl]

/-- A set does not differ from itself. -/
theorem buildDiff_self (entity : EntityId) (set : Option EntityCapabilitySet) :
    (buildDiff entity set set).entries = [] := by
  have hCapability : ∀ capability, diffCapability set set capability = [] := by
    intro capability
    unfold diffCapability
    cases set.bind (·.find capability) with
    | none => rfl
    | some resolution => exact compareResolutions_self capability resolution
  have hMerged : (mergedCapabilities set set).flatMap (diffCapability set set) = [] :=
    List.flatMap_eq_nil_iff.2 fun capability _ => hCapability capability
  unfold buildDiff
  dsimp only
  rw [hMerged, List.append_nil]
  cases set with
  | none => rfl
  | some set => simp [diffEntity, sortBy]

/-- The first capability of a set is found, whatever follows it. -/
theorem find_head {set : EntityCapabilitySet} {head : CapabilityResolution}
    {rest : List CapabilityResolution} (h : set.capabilities = head :: rest) :
    set.find head.capability = some head := by
  have hSelf : head.capability.lt head.capability = false := bytesLt_total.irrefl _
  unfold EntityCapabilitySet.find
  rw [h, List.find?_cons, hSelf]
  exact if_pos rfl

/-- The first capability of a set is one of those that a diff compares. -/
theorem head_mem_merged {set : EntityCapabilitySet} {head : CapabilityResolution}
    {rest : List CapabilityResolution} (h : set.capabilities = head :: rest) :
    head.capability ∈ mergedCapabilities none (some set) := by
  have hKept : ∀ (names held : List CapabilityId), head.capability ∈ held →
      head.capability ∈ names.foldl (fun held capability =>
        if held.any fun known => known.toText = capability.toText then held
        else held ++ [capability]) held := by
    intro names
    induction names with
    | nil => exact fun _ hMem => hMem
    | cons name names ih =>
        intro held hMem
        refine ih _ ?_
        dsimp only
        split
        · exact hMem
        · exact List.mem_append_left _ hMem
  unfold mergedCapabilities
  rw [mem_sortBy]
  simp only [Option.map_none, Option.getD_none, Option.map_some, Option.getD_some,
    List.nil_append, h, List.map_cons, List.foldl_cons, List.any_nil]
  exact hKept _ _ (List.mem_singleton_self _)

/-- An entity that the snapshot does not name is silent exactly when it shows nothing. -/
theorem added_eq_nil_iff (entity : EntityState) : entity.added = [] ↔ entity.shows = false := by
  unfold EntityState.added EntityState.shows
  cases entity.set with
  | none => exact ⟨fun _ => rfl, fun _ => buildDiff_self _ none⟩
  | some set =>
      rw [Option.any_some]
      cases hShown : set.capabilities with
      | nil =>
          refine ⟨fun _ => rfl, fun _ => ?_⟩
          have hMerged : mergedCapabilities none (some set) = [] := by
            unfold mergedCapabilities
            simp [hShown, sortBy]
          unfold buildDiff
          dsimp only
          rw [hMerged]
          rfl
      | cons head rest =>
          constructor
          · intro hNil
            have hEntries : (mergedCapabilities none (some set)).flatMap
                (diffCapability none (some set)) = [] := by
              have hLength := congrArg List.length hNil
              unfold buildDiff at hLength
              dsimp only at hLength
              rw [length_sortBy, List.nil_append] at hLength
              exact List.length_eq_zero_iff.1 hLength
            have hHead := List.flatMap_eq_nil_iff.1 hEntries _ (head_mem_merged hShown)
            unfold diffCapability at hHead
            rw [Option.bind_none, Option.bind_some, find_head hShown] at hHead
            cases hHead
          · intro hShows
            cases hShows

/-! ## What a snapshot names -/

section Created

variable {registry : Registry} {scope : SnapshotScope} {snapshot : CapabilitySnapshot}

theorem createSnapshot_ok (h : createSnapshot registry scope = .ok snapshot) :
    snapshot.entities = ((selectEntities registry scope).filter (inScope registry scope)).map
        snapshotEntry ∧
      snapshot.entities.length ≤ kMaxDiffEntries := by
  unfold createSnapshot at h
  dsimp only at h
  split at h
  · cases h
  · rename_i hSize
    cases h
    refine ⟨rfl, ?_⟩
    show (List.map _ _).length ≤ _
    rw [List.length_map]
    exact Nat.le_trans (List.length_filter_le ..) (Nat.not_lt.1 hSize)

/-- Among distinct entities, the selected ones are those that the scope covers. -/
theorem mem_selected_iff (hDistinct : registry.Distinct) {entity : EntityState} :
    entity ∈ (selectEntities registry scope).filter (inScope registry scope) ↔
      entity ∈ registry.entities ∧ scope.covers registry entity = true := by
  unfold selectEntities SnapshotScope.covers
  rw [List.mem_filter, mem_sortBy, Bool.and_eq_true, ← and_assoc]
  refine and_congr_left fun _ => ?_
  cases scope.allEntities with
  | true => simp
  | false =>
      simp only [Bool.false_eq_true, if_false, Bool.false_or, List.contains_eq_mem,
        decide_eq_true_eq, List.mem_filterMap]
      constructor
      · rintro ⟨id, hId, hFound⟩
        refine ⟨lookup_mem hFound, ?_⟩
        rw [findEntity_id hFound]
        exact hId
      · rintro ⟨hMem, hId⟩
        exact ⟨entity.id, hId, lookup_of_mem hDistinct hMem⟩

/-- The snapshot names the entities that its scope covers. -/
theorem snapshot_names_iff (hDistinct : registry.Distinct)
    (h : createSnapshot registry scope = .ok snapshot) (id : EntityId) :
    snapshot.names id = true ↔
      ∃ held ∈ registry.entities, held.id = id ∧ scope.covers registry held = true := by
  unfold CapabilitySnapshot.names
  rw [(createSnapshot_ok h).1]
  simp only [List.any_map, List.any_eq_true, Function.comp, snapshotEntry]
  constructor
  · rintro ⟨held, hMem, hText⟩
    obtain ⟨hHeld, hCovers⟩ := (mem_selected_iff hDistinct).1 hMem
    exact ⟨held, hHeld, EntityId.toText_injective (of_decide_eq_true hText), hCovers⟩
  · rintro ⟨held, hMem, rfl, hCovers⟩
    exact ⟨held, (mem_selected_iff hDistinct).2 ⟨hMem, hCovers⟩, decide_eq_true rfl⟩

/-- Against the registry it was created from, the entries of a snapshot do not differ. -/
theorem knownDifferences_fresh (hDistinct : registry.Distinct)
    (h : createSnapshot registry scope = .ok snapshot) :
    knownDifferences registry snapshot = [] := by
  unfold knownDifferences
  rw [(createSnapshot_ok h).1, List.flatMap_eq_nil_iff]
  intro entry hMem
  obtain ⟨entity, hSelected, rfl⟩ := List.mem_map.1 hMem
  obtain ⟨hHeld, -⟩ := (mem_selected_iff hDistinct).1 hSelected
  have hFound : registry.findEntity entity.id = some entity := lookup_of_mem hDistinct hHeld
  show (buildDiff entity.id entity.set ((registry.findEntity entity.id).bind _)).entries = []
  rw [hFound]
  exact buildDiff_self ..

theorem diffAgainstSnapshot_ok (h : createSnapshot registry scope = .ok snapshot)
    (later : Registry) :
    diffAgainstSnapshot later snapshot = .ok
      { entity := .unset
        entries := sortBy diffEntryLt
          (knownDifferences later snapshot ++
            (unnamedEntities later snapshot).flatMap EntityState.added) } :=
  if_neg (Nat.not_lt.2 (createSnapshot_ok h).2)

end Created

/-! ## Both walks -/

/-- Entities that are left out report nothing exactly when the rest reports everything. -/
theorem flatMap_filter_perm_iff {α β : Type} (keep : α → Bool) (f : α → List β)
    (known : List β) (xs : List α) :
    (known ++ xs.flatMap f).Perm (known ++ (xs.filter keep).flatMap f) ↔
      ∀ x ∈ xs, keep x = false → f x = [] := by
  have hSplit : (xs.flatMap f).Perm
      ((xs.filter keep).flatMap f ++ (xs.filter fun x => !keep x).flatMap f) := by
    rw [← List.flatMap_append]
    exact ((List.filter_append_perm keep xs).flatMap_right f).symm
  rw [List.perm_append_left_iff]
  constructor
  · intro hPerm x hMem hLeft
    have hLength := hSplit.length_eq
    rw [hPerm.length_eq, List.length_append] at hLength
    have hNone : (xs.filter fun x => !keep x).flatMap f = [] :=
      List.length_eq_zero_iff.1 (by omega)
    refine List.flatMap_eq_nil_iff.1 hNone x (List.mem_filter.2 ⟨hMem, ?_⟩)
    rw [hLeft]
    rfl
  · intro hSilent
    have hNone : (xs.filter fun x => !keep x).flatMap f = [] := by
      rw [List.flatMap_eq_nil_iff]
      intro x hMem
      obtain ⟨hMem, hLeft⟩ := List.mem_filter.1 hMem
      exact hSilent x hMem (by simpa using hLeft)
    rw [hNone, List.append_nil] at hSplit
    exact hSplit

section Compared

variable {registry : Registry} {scope : SnapshotScope} {snapshot : CapabilitySnapshot}

/-- At once there is no difference exactly when the scope covers what shows capabilities. -/
theorem fresh_diff_iff (hDistinct : registry.Distinct)
    (h : createSnapshot registry scope = .ok snapshot) :
    (∃ diff, diffAgainstSnapshot registry snapshot = .ok diff ∧ diff.entries = []) ↔
      ∀ entity ∈ registry.entities, entity.shows = true →
        scope.covers registry entity = true := by
  have hNames : ∀ entity ∈ registry.entities,
      snapshot.names entity.id = scope.covers registry entity := by
    intro entity hMem
    rw [Bool.eq_iff_iff, snapshot_names_iff hDistinct h]
    constructor
    · rintro ⟨held, hHeld, hId, hCovers⟩
      have hSame := lookup_of_mem hDistinct hHeld
      rw [hId, lookup_of_mem hDistinct hMem, Option.some.injEq] at hSame
      exact hSame ▸ hCovers
    · intro hCovers
      exact ⟨entity, hMem, rfl, hCovers⟩
  rw [diffAgainstSnapshot_ok h, knownDifferences_fresh hDistinct h, List.nil_append]
  constructor
  · rintro ⟨diff, hDiff, hNil⟩ entity hMem hShows
    cases hDiff
    have hLength := congrArg List.length hNil
    rw [length_sortBy] at hLength
    have hAdded := List.flatMap_eq_nil_iff.1 (List.length_eq_zero_iff.1 hLength)
    by_contra hOut
    have hUnnamed : entity ∈ unnamedEntities registry snapshot := by
      refine List.mem_filter.2 ⟨hMem, ?_⟩
      rw [hNames entity hMem]
      simpa using hOut
    have hSilent := (added_eq_nil_iff entity).1 (hAdded entity hUnnamed)
    rw [hShows] at hSilent
    cases hSilent
  · intro hCovers
    refine ⟨_, rfl, ?_⟩
    have hAdded : (unnamedEntities registry snapshot).flatMap EntityState.added = [] := by
      rw [List.flatMap_eq_nil_iff]
      intro entity hUnnamed
      obtain ⟨hMem, hOut⟩ := List.mem_filter.1 hUnnamed
      rw [added_eq_nil_iff]
      by_contra hShows
      rw [hNames entity hMem, hCovers entity hMem (by simpa using hShows)] at hOut
      cases hOut
    rw [hAdded]
    rfl

/-- Later the differences are those inside the scope exactly when the scope covers what
shows capabilities and is not named. -/
theorem later_diff_iff (hDistinct : registry.Distinct)
    (h : createSnapshot registry scope = .ok snapshot) (later : Registry) :
    (∃ diff, diffAgainstSnapshot later snapshot = .ok diff ∧
        diff.entries.Perm (differencesWithin later scope snapshot)) ↔
      ∀ entity ∈ later.entities, entity.shows = true →
        (∀ held ∈ registry.entities, held.id = entity.id →
          scope.covers registry held = false) →
        scope.covers later entity = true := by
  have hUnnamed : ∀ entity : EntityState, snapshot.names entity.id = false ↔
      ∀ held ∈ registry.entities, held.id = entity.id →
        scope.covers registry held = false := by
    intro entity
    rw [← Bool.not_eq_true, snapshot_names_iff hDistinct h]
    simp only [not_exists, not_and, Bool.not_eq_true]
  have hBoth : (∃ diff, diffAgainstSnapshot later snapshot = .ok diff ∧
        diff.entries.Perm (differencesWithin later scope snapshot)) ↔
      ∀ entity ∈ unnamedEntities later snapshot, scope.covers later entity = false →
        entity.added = [] := by
    rw [diffAgainstSnapshot_ok h, ← flatMap_filter_perm_iff _ _ (knownDifferences later snapshot)]
    constructor
    · rintro ⟨diff, hDiff, hPerm⟩
      cases hDiff
      exact (sortBy_perm _ _).symm.trans hPerm
    · intro hPerm
      exact ⟨_, rfl, (sortBy_perm _ _).trans hPerm⟩
  rw [hBoth]
  constructor
  · intro hSilent entity hMem hShows hLeft
    by_contra hOut
    have hNil := hSilent entity
      (List.mem_filter.2 ⟨hMem, by rw [(hUnnamed entity).2 hLeft]; rfl⟩) (by simpa using hOut)
    rw [added_eq_nil_iff, hShows] at hNil
    cases hNil
  · intro hCovers entity hMem hOut
    obtain ⟨hHeld, hName⟩ := List.mem_filter.1 hMem
    rw [added_eq_nil_iff]
    by_contra hShows
    rw [hCovers entity hHeld (by simpa using hShows)
      ((hUnnamed entity).1 (by simpa using hName))] at hOut
    cases hOut

end Compared

/-- A snapshot of everything covers everything. -/
theorem everything_covers {registry later : Registry} {scope : SnapshotScope}
    (h : scope.everything = true) : ScopeCovers registry later scope := by
  simp only [SnapshotScope.everything, Bool.and_eq_true] at h
  obtain ⟨⟨hAll, hNamespaces⟩, hKinds⟩ := h
  have hCovers : ∀ (any : Registry) (entity : EntityState), scope.covers any entity = true := by
    intro any entity
    unfold SnapshotScope.covers inScope
    rw [hAll, hNamespaces, hKinds]
    rfl
  exact ⟨fun entity _ _ => hCovers _ entity, fun entity _ _ _ => hCovers _ entity⟩

/-! ## Runs -/

/-- A load reads a file that names each entity once; `Save` writes no other. -/
def LoadsDistinct (_ : Registry) : Operation → Prop
  | .load config file => ∀ payload report,
      Store.readStore config file = .ok (payload, report) →
        ((payload.entities.filter fun entity => entity.id.isSet).map StoredEntity.id).Nodup
  | _ => True

theorem loadEntity_id (registryGeneration : RegistryGeneration) (loading : Loading)
    (stored : StoredEntity) :
    (loadEntity registryGeneration loading stored).2.id = stored.id := rfl


theorem loadStep_distinct {registry : Registry} {operation : Operation}
    (hLoads : LoadsDistinct registry operation) (h : registry.Distinct) :
    (operation.apply registry).Distinct := by
  cases hLoad : operation.isLoad with
  | false =>
      exact (step_follows evolves_rule (fun _ _ => appliesWithin_evolves _ _) hLoad).distinct h
  | true =>
      cases operation with
      | load config file =>
          show (load registry config file).1.Distinct
          unfold load
          split
          · exact h
          · rename_i payload report hRead
            have hNodup := hLoads payload report hRead
            unfold Registry.Distinct loadPayload
            dsimp only
            rw [map_mapAccum StoredEntity.id EntityState.id fun _ _ => loadEntity_id ..]
            exact hNodup
      | _ => cases hLoad

/-- After a run whose loads name each entity once, a snapshot shows no difference at once,
and only differences inside its scope after any later run, exactly when its scope covers the
entities that show capabilities. -/
theorem snapshot_diff_within_scope_iff (options : Options) (earlier later : List Operation)
    (hRun : Guarded Operation.apply LoadsDistinct (Registry.init options) earlier)
    (scope : SnapshotScope) (snapshot : CapabilitySnapshot)
    (hCreate : createSnapshot (afterRun options earlier) scope = .ok snapshot) :
    DiffsWithinScope (afterRun options earlier) (afterRun options (earlier ++ later)) scope
        snapshot ↔
      ScopeCovers (afterRun options earlier) (afterRun options (earlier ++ later)) scope := by
  have hInit : (Registry.init options).Distinct := by
    unfold Registry.Distinct
    rw [init_entities]
    exact List.nodup_nil
  have hDistinct : (afterRun options earlier).Distinct :=
    run_invariant (P := Registry.Distinct) (fun _ _ => loadStep_distinct) hRun hInit
  constructor
  · intro h
    exact ⟨(fresh_diff_iff hDistinct hCreate).1 h.fresh,
      (later_diff_iff hDistinct hCreate _).1 h.within⟩
  · intro h
    exact ⟨(fresh_diff_iff hDistinct hCreate).2 h.then_covered,
      (later_diff_iff hDistinct hCreate _).2 h.now_covered⟩

namespace Sample

/-- One switch with one capability. -/
def oneSwitch : List Operation :=
  setup ++ [.publish (publication bootOne "attempt-1" 1 0 (claim .supported .processBound))]

end Sample

/-- A snapshot of everything, before and after the epoch advances. -/
theorem whole_snapshot_diff :
    ∃ snapshot, createSnapshot (afterRun {} Sample.oneSwitch) {} = .ok snapshot ∧
      DiffsWithinScope (afterRun {} Sample.oneSwitch)
        (afterRun {} (Sample.oneSwitch ++ [.advanceCoordinatorEpoch .unset])) {} snapshot := by
  have hGuard : Guarded Operation.apply LoadsDistinct (Registry.init {}) Sample.oneSwitch :=
    ⟨trivial, trivial, trivial, trivial⟩
  have hCreated : (createSnapshot (afterRun {} Sample.oneSwitch) {}).isOk = true := by
    decide +kernel
  cases hCreate : createSnapshot (afterRun {} Sample.oneSwitch) {} with
  | error e =>
      rw [hCreate] at hCreated
      cases hCreated
  | ok snapshot =>
      exact ⟨snapshot, rfl, (snapshot_diff_within_scope_iff {} Sample.oneSwitch
        [.advanceCoordinatorEpoch .unset] hGuard {} snapshot hCreate).2 (everything_covers rfl)⟩

/-- A snapshot of the routers: the capability of the switch is reported as added at once. -/
theorem router_snapshot_reports_switch :
    ¬∀ options earlier later scope snapshot,
      createSnapshot (afterRun options earlier) scope = .ok snapshot →
        DiffsWithinScope (afterRun options earlier) (afterRun options (earlier ++ later)) scope
          snapshot := by
  intro h
  have hReports : (createSnapshot (afterRun {} Sample.oneSwitch)
      { entityKinds := [.router] }).toOption.any (fun snapshot =>
        (diffAgainstSnapshot (afterRun {} Sample.oneSwitch) snapshot).toOption.any
          fun diff => !diff.entries.isEmpty) = true := by
    decide +kernel
  cases hCreate : createSnapshot (afterRun {} Sample.oneSwitch) { entityKinds := [.router] } with
  | error e =>
      rw [hCreate] at hReports
      cases hReports
  | ok snapshot =>
      obtain ⟨diff, hDiff, hNil⟩ :=
        (h {} Sample.oneSwitch [] { entityKinds := [.router] } snapshot hCreate).fresh
      rw [hCreate] at hReports
      simp only [Except.toOption, Option.any_some, hDiff, hNil] at hReports
      cases hReports

end FabricCapability.Ports
