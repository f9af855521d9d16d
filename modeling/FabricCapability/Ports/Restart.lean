import FabricCapability.Ports.EntityRules
import FabricCapability.Ports.StoreRoundTrip

/-!
# What a restart keeps

The registry after `Load` of a file that `Save` wrote, in terms of the registry that was
saved.  The records are listed with the entity and the capability that hold them; a
function of them that ignores the arrival number and the status sees, after the restart,
the records that `Save` keeps.

## Main results

* `load_eq_ok`: a load of a saved file loads the reread payload.
* `loadPayload_heldRecords`: the records of a loaded registry are those of its payload.
* `load_observations`: what the records say after a restart.
-/

namespace FabricCapability.Ports

open FabricCapability.Verified.KeyedList
open FabricCapability.Verified.StrictOrder

/-! ## Records with their holders -/

/-- A record with the entity and the capability it is held under. -/
structure HeldRecord where
  entity : EntityId
  capability : CapabilityId
  record : EvidenceRecord
  deriving DecidableEq

def CapabilityEntry.heldRecords (entity : EntityId) (entry : CapabilityEntry) :
    List HeldRecord :=
  entry.evidence.map fun record => { entity, capability := entry.id, record }

def EntityState.heldRecords (entity : EntityState) : List HeldRecord :=
  entity.capabilities.flatMap (CapabilityEntry.heldRecords entity.id)

def Registry.heldRecords (registry : Registry) : List HeldRecord :=
  registry.entities.flatMap EntityState.heldRecords

/-- The record of a claim, as it is loaded; its arrival number is left at zero. -/
def StoredEntity.loadedRecord (registryGeneration : RegistryGeneration)
    (stored : StoredEntity) (claim : StoredClaim) : HeldRecord :=
  { entity := stored.id
    capability := claim.capability
    record := claim.record stored.id stored.bound registryGeneration 0 }

/-! ## Loading -/

section Loading

variable {β : Type} {f : HeldRecord → β}

/-- The function does not look at the arrival number. -/
def IgnoresArrival (f : HeldRecord → β) : Prop :=
  ∀ held arrivalSequence,
    f { held with record := { held.record with arrivalSequence } } = f held

/-- A record that is appended to the entry of its capability. -/
theorem upsert_heldRecords (entity : EntityId) (entries : List CapabilityEntry)
    (capability : CapabilityId) (record : EvidenceRecord) :
    let entry := (lookup CapabilityEntry.id capability entries).getD { id := capability }
    (((upsert CapabilityEntry.id { entry with evidence := entry.evidence ++ [record] }
      entries).flatMap (CapabilityEntry.heldRecords entity)).map f).Perm
      ((entries.flatMap (CapabilityEntry.heldRecords entity)).map f ++
        [f { entity, capability, record }]) := by
  dsimp only
  rw [List.map_flatMap, List.map_flatMap]
  cases hFound : lookup CapabilityEntry.id capability entries with
  | none =>
      dsimp only [Option.getD_none]
      rw [upsert_of_missing hFound, List.flatMap_append]
      simp [CapabilityEntry.heldRecords]
  | some entry =>
      dsimp only [Option.getD_some]
      have hId : entry.id = capability := lookup_key hFound
      refine flatMap_upsert_perm (b := entry) (hId ▸ hFound) ?_
      simp [CapabilityEntry.heldRecords, hId]

theorem loadClaims_heldRecords (hf : IgnoresArrival f) (stored : StoredEntity)
    (registryGeneration : RegistryGeneration) (arrivals : UInt64)
    (entries : List CapabilityEntry) (claims : List StoredClaim) :
    (((loadClaims stored.id stored.bound registryGeneration arrivals entries
      claims).2.flatMap (CapabilityEntry.heldRecords stored.id)).map f).Perm
      ((entries.flatMap (CapabilityEntry.heldRecords stored.id)).map f ++
        (claims.filter fun claim => claim.capability.isSet).map
          (f ∘ stored.loadedRecord registryGeneration)) := by
  induction claims generalizing arrivals entries with
  | nil => simp [loadClaims]
  | cons claim claims ih =>
      rw [loadClaims]
      by_cases hSet : claim.capability.isSet = true
      · rw [if_pos hSet, List.filter_cons, if_pos hSet, List.map_cons]
        refine (ih _ _).trans ?_
        have hRecord : f ⟨stored.id, claim.capability,
            claim.record stored.id stored.bound registryGeneration (arrivals + 1)⟩ =
              (f ∘ stored.loadedRecord registryGeneration) claim :=
          hf (stored.loadedRecord registryGeneration claim) (arrivals + 1)
        have hUpsert := upsert_heldRecords (f := f) stored.id entries claim.capability
          (claim.record stored.id stored.bound registryGeneration (arrivals + 1))
        rw [hRecord] at hUpsert
        refine (hUpsert.append_right _).trans ?_
        rw [List.append_assoc, List.singleton_append]
      · rw [if_neg hSet, List.filter_cons, if_neg hSet]
        exact ih _ _

/-- The stored capabilities create entries without evidence. -/
theorem loadCapabilities_heldRecords (entity : EntityId) {entries : List CapabilityEntry}
    (h : entries.flatMap (CapabilityEntry.heldRecords entity) = [])
    (capabilities : List StoredCapability) :
    (loadCapabilities entries capabilities).flatMap (CapabilityEntry.heldRecords entity) =
      [] := by
  have hEmpty : ∀ entries : List CapabilityEntry,
      entries.flatMap (CapabilityEntry.heldRecords entity) = [] ↔
        ∀ entry ∈ entries, entry.evidence = [] := by
    intro entries
    simp [List.flatMap_eq_nil_iff, CapabilityEntry.heldRecords]
  rw [hEmpty] at h ⊢
  induction capabilities generalizing entries with
  | nil => exact h
  | cons capability capabilities ih =>
      rw [loadCapabilities]
      split
      · refine ih fun entry hMem => ?_
        rcases mem_upsert hMem with rfl | hMem
        · cases hFound : lookup CapabilityEntry.id capability.id entries with
          | none => rfl
          | some held => exact h held (lookup_mem hFound)
        · exact h entry hMem
      · exact ih h

/-- Resolving the entries keeps their records. -/
theorem resolve_heldRecords (entity : EntityId) (bound : EntityGeneration)
    (indexes : Indexes) (entries : List CapabilityEntry) :
    (mapAccum (fun indexes entry => resolveCapability indexes entity bound entry) indexes
      entries).2.flatMap (CapabilityEntry.heldRecords entity) =
      entries.flatMap (CapabilityEntry.heldRecords entity) := by
  rw [List.flatMap_def, List.flatMap_def,
    map_mapAccum (CapabilityEntry.heldRecords entity) (CapabilityEntry.heldRecords entity)
      (fun _ _ => rfl)]

theorem loadEntity_heldRecords (hf : IgnoresArrival f)
    (registryGeneration : RegistryGeneration) (loading : Loading) (stored : StoredEntity) :
    ((loadEntity registryGeneration loading stored).2.heldRecords.map f).Perm
      ((stored.claims.filter fun claim => claim.capability.isSet).map
        (f ∘ stored.loadedRecord registryGeneration)) := by
  have hResolved : (loadEntity registryGeneration loading stored).2.heldRecords =
      (loadClaims stored.id stored.bound registryGeneration loading.arrivalSequence
        (loadCapabilities [] stored.capabilities) stored.claims).2.flatMap
          (CapabilityEntry.heldRecords stored.id) :=
    resolve_heldRecords ..
  have hClaims := loadClaims_heldRecords hf stored registryGeneration
    loading.arrivalSequence (loadCapabilities [] stored.capabilities) stored.claims
  rw [loadCapabilities_heldRecords stored.id rfl, List.map_nil, List.nil_append] at hClaims
  rw [hResolved]
  exact hClaims

/-- The records of a loaded registry are the claims of its payload. -/
theorem loadPayload_heldRecords (hf : IgnoresArrival f) (registry : Registry)
    (payload : StorePayload) :
    ((loadPayload registry payload).heldRecords.map f).Perm
      ((payload.entities.filter fun stored => stored.id.isSet).flatMap fun stored =>
        (stored.claims.filter fun claim => claim.capability.isSet).map
          (f ∘ stored.loadedRecord payload.registryGeneration)) := by
  rw [Registry.heldRecords, List.map_flatMap]
  exact flatMap_mapAccum_perm fun loading stored _ => loadEntity_heldRecords hf ..

end Loading

/-! ## Saving -/

theorem EntityState.stored_claims (entity : EntityState) :
    entity.stored.claims.Perm ((entity.heldRecords.filter fun held => isStored held.record).map
      fun held => held.record.stored held.capability) := by
  refine (sortBy_perm _ _).trans (List.Perm.of_eq ?_)
  rw [EntityState.heldRecords, List.filter_flatMap, List.map_flatMap]
  refine List.flatMap_congr fun entry _ => ?_
  rw [CapabilityEntry.storedClaims, CapabilityEntry.heldRecords, List.filter_map,
    List.map_map]
  rfl

/-- The claims of the payload are the records that `Save` keeps. -/
theorem payload_claims {β : Type} (g : EntityId → StoredClaim → β) (registry : Registry) :
    (registry.payload.entities.flatMap fun stored => stored.claims.map (g stored.id)).Perm
      ((registry.heldRecords.filter fun held => isStored held.record).map fun held =>
        g held.entity (held.record.stored held.capability)) := by
  rw [Registry.payload, List.flatMap_map, Registry.heldRecords, List.filter_flatMap,
    List.map_flatMap]
  refine List.Perm.flatMap (sortBy_perm _ _) fun entity _ => ?_
  refine (entity.stored_claims.map _).trans (List.Perm.of_eq ?_)
  rw [List.map_map]
  refine List.map_congr_left fun held hMem => ?_
  have hEntity : held.entity = entity.id := by
    obtain ⟨entry, -, hHeld⟩ := List.mem_flatMap.1 (List.mem_filter.1 hMem).1
    obtain ⟨record, -, rfl⟩ := List.mem_map.1 hHeld
    rfl
  rw [hEntity]
  rfl

/-! ## Save and load -/

/-- A load that succeeds loads what the file reads back as. -/
theorem load_eq_ok {registry loaded target : Registry} {config : PersistenceConfig}
    {file : Bytes} {saved : SaveReport} {report : LoadReport}
    (hSave : save registry = .ok (file, saved))
    (hLoad : load target config (some file) = (loaded, .ok report)) :
    ∃ payload, registry.payload.reread = some payload ∧ loaded = loadPayload target payload := by
  have hRead := Store.readStore_writeStore hSave config
  unfold load at hLoad
  split at hLoad
  · cases hLoad
  · rename_i payload read hEq
    cases hLoad
    rw [hEq] at hRead
    split at hRead
    · exact ⟨payload, hRead.symm, rfl⟩
    · cases hRead

/-- A load succeeds when the file fits its bound and the payload rereads. -/
theorem load_of_reread {registry : Registry} {file : Bytes} {saved : SaveReport}
    {payload : StorePayload} (hSave : save registry = .ok (file, saved))
    (hLength : file.length ≤ kMaxPersistenceBytes)
    (hReread : registry.payload.reread = some payload) (target : Registry)
    (config : PersistenceConfig) :
    ∃ report, load target config (some file) = (loadPayload target payload, .ok report) := by
  have hRead := Store.readStore_writeStore hSave config
  rw [if_pos hLength, hReread] at hRead
  unfold load
  split
  · rename_i e hEq
    rw [hEq] at hRead
    cases hRead
  · rename_i found read hEq
    rw [hEq] at hRead
    cases hRead
    exact ⟨_, rfl⟩

/-- A payload that is encoded, fits a file and rereads is saved and loaded. -/
theorem save_load_of_reread {registry : Registry} {body : Bytes} {payload : StorePayload}
    (hBody : Store.encodePayload registry.payload = .ok body)
    (hLength : 68 + body.length ≤ kMaxPersistenceBytes)
    (hReread : registry.payload.reread = some payload) (target : Registry)
    (config : PersistenceConfig) :
    ∃ file saved report, save registry = .ok (file, saved) ∧
      load target config (some file) = (loadPayload target payload, .ok report) := by
  obtain ⟨saved, hSave⟩ := Store.writeStore_of_encode hBody (by omega)
  obtain ⟨report, hLoad⟩ := load_of_reread hSave (by rwa [Store.length_layout]) hReread target
    config
  exact ⟨_, saved, report, hSave, hLoad⟩

/-! ## Entities after a restart -/

/-- Reading that keeps a key finds what was read of the element found before. -/
theorem lookup_mapM {α β κ : Type} [DecidableEq κ] {key : α → κ} {key' : β → κ}
    {f : α → Option β} {xs : List α} {ys : List β} {k : κ} {x : α}
    (hKey : ∀ x y, f x = some y → key' y = key x) (h : xs.mapM f = some ys)
    (hFound : lookup key k xs = some x) : ∃ y, f x = some y ∧ lookup key' k ys = some y := by
  induction xs generalizing ys with
  | nil => cases hFound
  | cons head xs ih =>
      obtain ⟨y, ys', hHead, hTail, rfl⟩ := mapM_cons_eq_some.1 h
      rw [lookup_cons] at hFound
      simp only [lookup_cons, hKey _ _ hHead]
      split at hFound
      · rename_i hHere
        cases hFound
        exact ⟨y, hHead, by rw [if_pos hHere]⟩
      · rename_i hHere
        obtain ⟨z, hz, hLater⟩ := ih hTail hFound
        exact ⟨z, hz, by rw [if_neg hHere, hLater]⟩

theorem map_mapM {α β γ : Type} {F : α → γ} {F' : β → γ} {f : α → Option β} {xs : List α}
    {ys : List β} (hF : ∀ x y, f x = some y → F' y = F x) (h : xs.mapM f = some ys) :
    ys.map F' = xs.map F := by
  induction xs generalizing ys with
  | nil =>
      cases h
      rfl
  | cons x xs ih =>
      obtain ⟨y, ys', hHead, hTail, rfl⟩ := mapM_cons_eq_some.1 h
      rw [List.map_cons, List.map_cons, hF _ _ hHead, ih hTail]

/-- The registry holds what it would hold had `source` been saved and loaded into it. -/
def RestartOf (source loaded : Registry) : Prop :=
  ∃ target payload, source.payload.reread = some payload ∧ loaded = loadPayload target payload

theorem restartOf_of_load {registry loaded target : Registry} {config : PersistenceConfig}
    {file : Bytes} {saved : SaveReport} {report : LoadReport}
    (hSave : save registry = .ok (file, saved))
    (hLoad : load target config (some file) = (loaded, .ok report)) :
    RestartOf registry loaded :=
  ⟨target, load_eq_ok hSave hLoad⟩

theorem reread_id {entity reread : StoredEntity} (h : entity.reread = some reread) :
    reread.id = entity.id := by
  rw [(StoredEntity.reread_eq_some h).fields]

section RestartOf

variable {source loaded : Registry}

/-- The loop over the entities of a payload that was read back visits all of them. -/
theorem filter_isSet_reread {payload reread : StorePayload} (h : payload.reread = some reread) :
    (reread.entities.filter fun stored => stored.id.isSet) = reread.entities := by
  obtain ⟨-, -, hEntities⟩ := StorePayload.reread_eq_some h
  refine List.filter_eq_self.2 fun stored hMem => ?_
  obtain ⟨written, -, hReread⟩ := mem_of_mapM hEntities hMem
  rw [reread_id hReread]
  exact (StoredEntity.reread_eq_some hReread).isSet

theorem map_id_payload (registry : Registry) :
    (registry.payload.entities.map StoredEntity.id).Perm
      (registry.entities.map EntityState.id) := by
  rw [Registry.payload, List.map_map]
  exact (sortBy_perm _ _).map _

/-- A restart keeps the identifiers of the entities. -/
theorem RestartOf.map_id (h : RestartOf source loaded) :
    (loaded.entities.map EntityState.id).Perm (source.entities.map EntityState.id) := by
  obtain ⟨target, payload, hReread, rfl⟩ := h
  obtain ⟨-, -, hEntities⟩ := StorePayload.reread_eq_some hReread
  have hLoaded : (loadPayload target payload).entities.map EntityState.id =
      payload.entities.map StoredEntity.id := by
    rw [← filter_isSet_reread hReread]
    exact map_mapAccum StoredEntity.id EntityState.id fun _ _ => rfl
  rw [hLoaded, map_mapM (fun _ _ => reread_id) hEntities]
  exact map_id_payload source

/-- An entity is found after a restart: it is loaded from what was stored of it. -/
theorem RestartOf.find (h : RestartOf source loaded)
    (hDistinct : source.Distinct) {id : EntityId}
    {held : EntityState} (hFound : source.findEntity id = some held) :
    ∃ registryGeneration loading stored,
      loaded.findEntity id = some (loadEntity registryGeneration loading stored).2 ∧
      held.stored.RereadAs stored := by
  obtain ⟨target, payload, hReread, rfl⟩ := h
  obtain ⟨-, -, hEntities⟩ := StorePayload.reread_eq_some hReread
  obtain rfl := findEntity_id hFound
  have hStored : lookup StoredEntity.id held.id source.payload.entities = some held.stored := by
    have hMem : held.stored ∈ source.payload.entities :=
      List.mem_map_of_mem (mem_sortBy.2 (lookup_mem hFound))
    exact lookup_of_mem ((map_id_payload source).nodup_iff.2 hDistinct) hMem
  obtain ⟨stored, hStoredReread, hRead⟩ :=
    lookup_mapM (fun _ _ => reread_id) hEntities hStored
  rw [← filter_isSet_reread hReread] at hRead
  have hId : ∀ loading stored,
      (loadEntity payload.registryGeneration loading stored).2.id = stored.id :=
    fun _ _ => rfl
  obtain ⟨loading, hLoaded⟩ := lookup_mapAccum (s := {}) hId hRead
  exact ⟨_, loading, stored, hLoaded, StoredEntity.reread_eq_some hStoredReread⟩

end RestartOf

/-! ### Restarts of small runs -/

namespace Sample

def config : PersistenceConfig := { storePath := txt "/var/lib/fabric/store" }

/-- Whether the registry is saved and loaded without an error, and a test of the registry
before and after. -/
def restarts (operations : List Operation) (test : Registry → Registry → Bool) : Bool :=
  let registry := afterRun {} operations
  match Store.encodePayload registry.payload, registry.payload.reread with
  | .ok body, some payload =>
      decide (68 + body.length ≤ kMaxPersistenceBytes) &&
        test registry (loadPayload (Registry.init {}) payload)
  | _, _ => false

theorem restarts_inv (operations : List Operation) (test : Registry → Registry → Bool)
    (h : restarts operations test = true) :
    ∃ file saved loaded report, save (afterRun {} operations) = .ok (file, saved) ∧
      load (Registry.init {}) config (some file) = (loaded, .ok report) ∧
      test (afterRun {} operations) loaded = true := by
  unfold restarts at h
  dsimp only at h
  split at h
  · rename_i body payload hBody hReread
    rw [Bool.and_eq_true, decide_eq_true_eq] at h
    obtain ⟨file, saved, report, hSave, hLoad⟩ :=
      save_load_of_reread hBody h.1 hReread (Registry.init {}) config
    exact ⟨file, saved, _, report, hSave, hLoad, h.2⟩
  · cases h

end Sample

end FabricCapability.Ports
