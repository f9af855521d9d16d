import FabricCapability.Ports.SnapshotDiffs
import FabricCapability.Ports.Views
import FabricCapability.Verified.PartitionPoint

/-!
# Differences of one entity against a snapshot

Translation of `EntityCapabilitySet::Find`, `CapabilitySnapshot::Find` and
`DiffEntityAgainstSnapshot` of `src/query.cpp` and `src/registry.cpp`.

Both searches are by halves, and find what a scan finds: published sets and snapshots are
sorted.  The difference of a registry against a snapshot is then made of the differences of
its entities.

## Main results

* `reached_search_eq_find`: the search in the published sets of a deployment.
* `snapshot_diff_is_made_of_entity_diffs`: `DiffAgainstSnapshot` and
  `DiffEntityAgainstSnapshot` report the same differences.
-/

namespace FabricCapability.Ports

open FabricCapability.Verified.KeyedList
open FabricCapability.Verified.PartitionPoint
open FabricCapability.Verified.Restores
open FabricCapability.Verified.Runs
open FabricCapability.Verified.StrictOrder

/-! ## Searches by halves -/

/-- `EntityCapabilitySet::Find`, with the search of `std::lower_bound`. -/
def EntityCapabilitySet.search (set : EntityCapabilitySet) (capability : CapabilityId) :
    Option CapabilityResolution :=
  searchKey CapabilityId.lt CapabilityResolution.capability capability set.capabilities

/-- `CapabilitySnapshot::Find`. -/
def CapabilitySnapshot.find (snapshot : CapabilitySnapshot) (entity : EntityId) :
    Option SnapshotEntityEntry :=
  searchKey EntityId.lt SnapshotEntityEntry.entity entity snapshot.entities

/-- `DiffEntityAgainstSnapshot`. -/
def diffEntityAgainstSnapshot (registry : Registry) (snapshot : CapabilitySnapshot)
    (entity : EntityId) : Outcome CapabilityDiff :=
  match snapshot.find entity, registry.findEntity entity with
  | none, none =>
      failure .notFound (txt "the entity is neither in the snapshot nor in the registry")
        entity.toText
  | entry, record =>
      .ok (buildDiff entity (entry.bind (·.set)) (record.bind EntityState.set))

/-! ## Published sets -/

/-- No capability of the set comes before one with a smaller text. -/
def EntityCapabilitySet.Sorted (set : EntityCapabilitySet) : Prop :=
  set.capabilities.Pairwise fun a b => b.capability.lt a.capability = false

theorem capabilityLt_weak : StrictWeak CapabilityId.lt :=
  bytesLt_total.comap CapabilityId.toText

theorem entityLt_total : StrictTotal EntityId.lt :=
  bytesLt_total.comap_injective EntityId.toText fun _ _ => EntityId.toText_injective

/-- In a sorted set the search finds what a scan for the first capability that is not below
finds. -/
theorem search_eq_find {set : EntityCapabilitySet} (h : set.Sorted)
    (capability : CapabilityId) : set.search capability = set.find capability := by
  unfold EntityCapabilitySet.search EntityCapabilitySet.find
  rw [searchKey_eq_head?, head?_lowerBound (partitioned_of_sorted capabilityLt_weak _ h)]
  cases set.capabilities.find? fun resolution => !resolution.capability.lt capability with
  | none => rfl
  | some resolution =>
      rw [Option.filter_some]
      simp only [decide_eq_true_eq]

/-- The set was made by `Materialize`, of some version of the entity. -/
def EntityCapabilitySet.Materialized (set : EntityCapabilitySet) : Prop :=
  ∃ registryGeneration entity, set = materialize registryGeneration entity

namespace EntityCapabilitySet.Materialized

variable {set : EntityCapabilitySet}

theorem sorted (h : set.Materialized) : set.Sorted := by
  obtain ⟨registryGeneration, entity, rfl⟩ := h
  exact sortBy_pairwise (bytesLt_total.comap fun resolution : CapabilityResolution =>
    resolution.capability.toText) _

theorem digest (h : set.Materialized) : set.digest = digestOfResolutions set.capabilities := by
  obtain ⟨registryGeneration, entity, rfl⟩ := h
  simp only [materialize]

end EntityCapabilitySet.Materialized

/-- The published set of the entity, if there is one, was materialised. -/
def EntityState.Publishes (entity : EntityState) : Prop :=
  ∀ set, entity.set = some set → set.Materialized

theorem EntityState.Publishes.of_materialized {entity : EntityState}
    {registryGeneration : RegistryGeneration} {source : EntityState}
    (h : entity.set = some (materialize registryGeneration source)) : entity.Publishes :=
  fun _ hSet => ⟨registryGeneration, source, Option.some.inj (hSet.symm.trans h)⟩

theorem publishes_rule : EntityRule fun a b => a.Publishes → b.Publishes where
  refl _ := id
  trans _ _ _ hab hbc := hbc ∘ hab
  retired _ _ _ _ _ _ _ _ := fun _ hSet => by cases hSet
  exhausted _ _ _ h := h
  committed _ _ _ _ _ _ _ := .of_materialized rfl
  observed _ _ _ _ h := h
  relabelled _ _ _ _ _ h := h
  flagged _ _ h := h
  refreshed _ _ _ _ := .of_materialized rfl

theorem applies_publishes (registry : Registry) (request : PublicationRequest) :
    AppliesWithin (fun a b => a.Publishes → b.Publishes) registry request := by
  intro _ grant bound entity _ _ _ h
  have hSame := runSteps_entity bound request (applySteps bound.schema grant request)
    (bound.cell entity)
  have hSet : (runSteps bound request (bound.cell entity)
      (applySteps bound.schema grant request)).1.entity.set = entity.set := by
    rw [hSame]
    rfl
  intro set hHeld
  exact h set (hSet ▸ hHeld)

section Deployments

variable {admits : Options → Prop} {guard : Registry → Operation → Prop}
  {past : List Transition} {registry : Registry}

theorem reached_sets_materialized (h : Reached (deployment admits guard) past registry) :
    ∀ entity ∈ registry.entities, entity.Publishes := by
  refine reached_invariant (P := fun _ registry =>
    ∀ entity ∈ registry.entities, entity.Publishes) ?_ ?_ ?_ h
  · rintro _ ⟨options, -, rfl⟩ entity hMem
    rw [init_entities] at hMem
    cases hMem
  · intro _ registry operation hGuard hBefore
    refine (step_follows publishes_rule (fun _ _ => applies_publishes _ _) hGuard.1).invariant
      (fun _ _ _ _ set hSet => ?_) hBefore
    cases hSet
  · intro _ _ registry saved loaded hRestores hBefore hSource entity hMem
    rcases restored_cases hRestores with rfl | ⟨payload, hReread, rfl⟩
    · exact hBefore entity hMem
    · obtain ⟨held, -, loading, read, rfl, -⟩ := restored_entity hReread hMem
      exact .of_materialized rfl

/-- `Find` on a published set finds what a scan finds. -/
theorem reached_search_eq_find (h : Reached (deployment admits guard) past registry)
    {entity : EntityState} (hMem : entity ∈ registry.entities) {set : EntityCapabilitySet}
    (hSet : entity.set = some set) (capability : CapabilityId) :
    set.search capability = set.find capability :=
  search_eq_find (reached_sets_materialized h entity hMem set hSet).sorted capability

end Deployments

/-! ## Entries of a snapshot -/

section Created

variable {registry later : Registry} {scope : SnapshotScope} {snapshot : CapabilitySnapshot}

theorem createSnapshot_sorted (h : createSnapshot registry scope = .ok snapshot) :
    snapshot.entities.Pairwise fun a b => b.entity.lt a.entity = false := by
  rw [(createSnapshot_ok h).1, List.pairwise_map]
  have hSelected : (selectEntities registry scope).Pairwise fun a b => b.id.lt a.id = false :=
    sortBy_pairwise (bytesLt_total.comap fun entity : EntityState => entity.id.toText) _
  exact hSelected.sublist List.filter_sublist

/-- The entries with one identifier are the same: they show one entity. -/
theorem snapshotEntry_unique (hDistinct : registry.Distinct)
    (h : createSnapshot registry scope = .ok snapshot) {a b : SnapshotEntityEntry}
    (ha : a ∈ snapshot.entities) (hb : b ∈ snapshot.entities) (hSame : a.entity = b.entity) :
    a = b := by
  rw [(createSnapshot_ok h).1] at ha hb
  obtain ⟨held, hHeld, rfl⟩ := List.mem_map.1 ha
  obtain ⟨other, hOther, rfl⟩ := List.mem_map.1 hb
  have hFirst := lookup_of_mem hDistinct ((mem_selected_iff hDistinct).1 hHeld).1
  have hSecond := lookup_of_mem hDistinct ((mem_selected_iff hDistinct).1 hOther).1
  have hIds : held.id = other.id := hSame
  rw [hIds, hSecond] at hFirst
  rw [Option.some.inj hFirst]

theorem find_entry (hDistinct : registry.Distinct)
    (h : createSnapshot registry scope = .ok snapshot) {entry : SnapshotEntityEntry}
    (hMem : entry ∈ snapshot.entities) : snapshot.find entry.entity = some entry := by
  unfold CapabilitySnapshot.find
  rw [searchKey_eq_find? entityLt_total _ (createSnapshot_sorted h)]
  cases hFound : snapshot.entities.find? fun held => held.entity = entry.entity with
  | none =>
      rw [List.find?_eq_none] at hFound
      exact absurd (decide_eq_true rfl) (hFound entry hMem)
  | some found =>
      have hSame : found.entity = entry.entity := of_decide_eq_true
        (List.find?_some (p := fun held : SnapshotEntityEntry =>
          decide (held.entity = entry.entity)) hFound)
      rw [snapshotEntry_unique hDistinct h (List.mem_of_find?_eq_some hFound) hMem hSame]

theorem find_eq_none_iff (h : createSnapshot registry scope = .ok snapshot) (id : EntityId) :
    snapshot.find id = none ↔ snapshot.names id = false := by
  unfold CapabilitySnapshot.find CapabilitySnapshot.names
  rw [searchKey_eq_find? entityLt_total _ (createSnapshot_sorted h), List.find?_eq_none,
    List.any_eq_false]
  refine forall_congr' fun entry => imp_congr_right fun _ => not_congr ?_
  rw [decide_eq_true_eq, decide_eq_true_eq]
  exact ⟨congrArg EntityId.toText, EntityId.toText_injective⟩

/-! ## Both differences -/

/-- The entities that a comparison of the registry with the snapshot looks at. -/
def comparedEntities (registry : Registry) (snapshot : CapabilitySnapshot) : List EntityId :=
  snapshot.entities.map SnapshotEntityEntry.entity ++
    (unnamedEntities registry snapshot).map EntityState.id

/-- What `DiffEntityAgainstSnapshot` reports of an entity; nothing where it fails. -/
def entityDifferences (registry : Registry) (snapshot : CapabilitySnapshot)
    (entity : EntityId) : List CapabilityDiffEntry :=
  match diffEntityAgainstSnapshot registry snapshot entity with
  | .ok diff => diff.entries
  | .error _ => []

theorem entityDifferences_known (hDistinct : registry.Distinct)
    (h : createSnapshot registry scope = .ok snapshot) {entry : SnapshotEntityEntry}
    (hMem : entry ∈ snapshot.entities) :
    entityDifferences later snapshot entry.entity =
      (buildDiff entry.entity entry.set
        ((later.findEntity entry.entity).bind EntityState.set)).entries := by
  unfold entityDifferences diffEntityAgainstSnapshot
  rw [find_entry hDistinct h hMem]
  cases later.findEntity entry.entity <;> rfl

theorem entityDifferences_unnamed (hLater : later.Distinct)
    (h : createSnapshot registry scope = .ok snapshot) {entity : EntityState}
    (hMem : entity ∈ unnamedEntities later snapshot) :
    entityDifferences later snapshot entity.id = entity.added := by
  obtain ⟨hHeld, hUnnamed⟩ := List.mem_filter.1 hMem
  have hNone : snapshot.find entity.id = none :=
    (find_eq_none_iff h _).2 (by simpa using hUnnamed)
  have hFound : later.findEntity entity.id = some entity := lookup_of_mem hLater hHeld
  unfold entityDifferences diffEntityAgainstSnapshot
  rw [hNone, hFound]
  rfl

/-- The entities of the snapshot and of the registry are compared. -/
theorem mem_comparedEntities (id : EntityId) : id ∈ comparedEntities later snapshot ↔
      snapshot.names id = true ∨ ∃ entity ∈ later.entities, entity.id = id := by
  have hNamed : id ∈ snapshot.entities.map SnapshotEntityEntry.entity ↔
      snapshot.names id = true := by
    unfold CapabilitySnapshot.names
    rw [List.any_eq_true, List.mem_map]
    refine exists_congr fun entry => and_congr_right fun _ => ?_
    rw [decide_eq_true_eq]
    exact ⟨congrArg EntityId.toText, fun hText => EntityId.toText_injective hText⟩
  unfold comparedEntities unnamedEntities
  rw [List.mem_append, hNamed, List.mem_map]
  constructor
  · rintro (hKnown | ⟨entity, hMem, rfl⟩)
    · exact .inl hKnown
    · exact .inr ⟨entity, (List.mem_filter.1 hMem).1, rfl⟩
  · rintro (hKnown | ⟨entity, hMem, rfl⟩)
    · exact .inl hKnown
    · cases hNames : snapshot.names entity.id with
      | true => exact .inl rfl
      | false =>
          refine .inr ⟨entity, List.mem_filter.2 ⟨hMem, ?_⟩, rfl⟩
          rw [hNames]
          rfl

theorem diffEntity_fails_iff (h : createSnapshot registry scope = .ok snapshot)
    (id : EntityId) :
    (∃ e, diffEntityAgainstSnapshot later snapshot id = .error e) ↔
      id ∉ comparedEntities later snapshot := by
  have hHeld : later.findEntity id = none ↔ ¬∃ entity ∈ later.entities, entity.id = id := by
    rw [Registry.findEntity, lookup_eq_none, List.mem_map]
  rw [mem_comparedEntities, not_or, ← hHeld, Bool.not_eq_true, ← find_eq_none_iff h]
  unfold diffEntityAgainstSnapshot
  cases snapshot.find id with
  | some entry => simp
  | none =>
      cases later.findEntity id with
      | some entity => simp
      | none => simp [failure]

end Created

/-- `DiffAgainstSnapshot` reports what `DiffEntityAgainstSnapshot` reports of the entities of
the snapshot and of those that came after it, and no other entity can be compared. -/
theorem snapshot_diff_is_made_of_entity_diffs {admits : Options → Prop}
    {guard : Registry → Operation → Prop} {past pastLater : List Transition}
    {registry later : Registry} (h : Reached (deployment admits guard) past registry)
    (hLater : Reached (deployment admits guard) pastLater later) {scope : SnapshotScope}
    {snapshot : CapabilitySnapshot} (hCreated : createSnapshot registry scope = .ok snapshot) :
    (∃ diff, diffAgainstSnapshot later snapshot = .ok diff ∧
      diff.entries.Perm ((comparedEntities later snapshot).flatMap
        (entityDifferences later snapshot))) ∧
    ∀ id, (∃ e, diffEntityAgainstSnapshot later snapshot id = .error e) ↔
      id ∉ comparedEntities later snapshot := by
  have hDistinct := (reached_generations h).distinct
  have hLaterDistinct := (reached_generations hLater).distinct
  refine ⟨⟨_, diffAgainstSnapshot_ok hCreated later, (sortBy_perm ..).trans ?_⟩,
    diffEntity_fails_iff hCreated⟩
  unfold comparedEntities knownDifferences
  rw [List.flatMap_append, List.flatMap_map, List.flatMap_map]
  refine List.Perm.of_eq (congrArg₂ _ ?_ ?_)
  · exact List.flatMap_congr fun entry hMem =>
      (entityDifferences_known hDistinct hCreated hMem).symm
  · exact List.flatMap_congr fun entity hMem =>
      (entityDifferences_unnamed hLaterDistinct hCreated hMem).symm

namespace Sample

/-- A capability is claimed to be supported, and then not to be. -/
def publishedOnce : List Operation := setup ++ [.publish firstClaim]

def publishedTwice : List Operation := publishedOnce ++ [.publish secondClaim]

end Sample

theorem second_claim_differs :
    ∃ snapshot diff,
      createSnapshot (afterRun {} Sample.publishedOnce) { allEntities := true } = .ok snapshot ∧
      diffAgainstSnapshot (afterRun {} Sample.publishedTwice) snapshot = .ok diff ∧
      diff.entries.Perm ((comparedEntities (afterRun {} Sample.publishedTwice) snapshot).flatMap
        (entityDifferences (afterRun {} Sample.publishedTwice) snapshot)) ∧
      diff.entries ≠ [] := by
  obtain ⟨hGuard, hDiffers⟩ :
      Guarded Operation.apply (fun registry operation => NoLoad registry operation ∧ True)
        (Registry.init {}) Sample.publishedTwice ∧
      ((createSnapshot (afterRun {} Sample.publishedOnce) { allEntities := true }).bind
        fun snapshot =>
          diffAgainstSnapshot (afterRun {} Sample.publishedTwice) snapshot).toOption.any
            (fun diff => !diff.entries.isEmpty) = true := by decide +kernel
  have hFirst : Reached (deployment (fun _ => True) fun _ _ => True) _
      (afterRun {} Sample.publishedOnce) :=
    reached_of_operations trivial (guarded_append.1 hGuard).1
  have hSecond : Reached (deployment (fun _ => True) fun _ _ => True) _
      (afterRun {} Sample.publishedTwice) := reached_of_operations trivial hGuard
  cases hCreated : createSnapshot (afterRun {} Sample.publishedOnce) { allEntities := true } with
  | error e =>
      rw [hCreated] at hDiffers
      cases hDiffers
  | ok snapshot =>
      rw [hCreated] at hDiffers
      obtain ⟨⟨diff, hDiff, hPerm⟩, -⟩ :=
        snapshot_diff_is_made_of_entity_diffs hFirst hSecond hCreated
      have hSome : (diffAgainstSnapshot (afterRun {} Sample.publishedTwice) snapshot).toOption.any
          (fun diff => !diff.entries.isEmpty) = true := hDiffers
      rw [hDiff] at hSome
      refine ⟨snapshot, diff, rfl, hDiff, hPerm, fun hNil => ?_⟩
      have hNonempty : (!diff.entries.isEmpty) = true := hSome
      rw [hNil] at hNonempty
      cases hNonempty

end FabricCapability.Ports
