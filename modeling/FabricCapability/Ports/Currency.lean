import FabricCapability.Ports.Restart

/-!
# Currency across a restart

Which records are current after `Load` of a file that `Save` wrote.  `Load` derives the
status of a record from its durability: a durable record that was not fenced comes back
current, also one that waited for revalidation.

Two records of different registries are compared by what they say: every field that is
stored, with the capability as it renders.

## Main results

* `load_observations`: what the records say after a restart.
* `restart_keeps_currency_iff`: a restart invents no currency exactly when no durable
  record waits for revalidation.
-/

namespace FabricCapability.Ports

/-! ## Observations -/

/-- What a record says. -/
structure Observation where
  entity : EntityId
  capability : Bytes
  claim : StoredClaim
  deriving DecidableEq

def observe (entity : EntityId) (claim : StoredClaim) : Observation :=
  { entity
    capability := claim.capability.toText
    claim := { claim with capability := .unset } }

def HeldRecord.observation (held : HeldRecord) : Observation :=
  observe held.entity (held.record.stored held.capability)

def Registry.observations (registry : Registry) : List Observation :=
  registry.heldRecords.map HeldRecord.observation

/-- What the current records of a registry say. -/
def Registry.currentObservations (registry : Registry) : List Observation :=
  registry.observations.filter fun seen => isCurrent seen.claim.currentness

/-- The observation after a restart. -/
def Observation.restart (seen : Observation) : Observation :=
  { seen with claim := { seen.claim with currentness := loadedCurrentness seen.claim } }

/-- Whether `Save` keeps the record. -/
def Observation.isStored (seen : Observation) : Bool :=
  isCurrent seen.claim.currentness || seen.claim.currentness == .revalidationRequired ||
    seen.claim.currentness == .fenced

/-! ## The restart -/

/-- The claims of one entity, as they are observed once it is loaded. -/
theorem reread_observations {entity reread : StoredEntity}
    (h : entity.reread = some reread) (registryGeneration : RegistryGeneration) :
    (reread.claims.filter fun claim => claim.capability.isSet).map
        (HeldRecord.observation ∘ reread.loadedRecord registryGeneration) =
      entity.claims.map fun claim => (observe entity.id claim).restart := by
  have hReread := StoredEntity.reread_eq_some h
  have hId : reread.id = entity.id := by rw [hReread.fields]
  have hAll : reread.claims.filter (fun claim => claim.capability.isSet) = reread.claims := by
    refine List.filter_eq_self.2 fun claim hMem => ?_
    obtain ⟨original, -, hClaim⟩ := mem_of_mapM hReread.claims hMem
    exact (StoredClaim.reread_eq_some hClaim).2.1
  rw [hAll, List.map_eq_flatMap, List.map_eq_flatMap]
  refine flatMap_of_mapM hReread.claims fun claim _ other hClaim => ?_
  obtain ⟨hFields, -, hText⟩ := StoredClaim.reread_eq_some hClaim
  have hSame : (HeldRecord.observation ∘ reread.loadedRecord registryGeneration) other =
      (observe reread.id other).restart := rfl
  rw [hSame, hId]
  have hObserve : observe entity.id other = observe entity.id claim := by
    rw [observe, observe, hText, hFields]
  rw [hObserve]

/-- What the records say after a restart: what the stored ones said before. -/
theorem load_observations {registry loaded target : Registry} {config : PersistenceConfig}
    {file : Bytes} {saved : SaveReport} {report : LoadReport}
    (hSave : save registry = .ok (file, saved))
    (hLoad : load target config (some file) = (loaded, .ok report)) :
    loaded.observations.Perm
      ((registry.observations.filter Observation.isStored).map Observation.restart) := by
  obtain ⟨payload, hPayload, rfl⟩ := load_eq_ok hSave hLoad
  obtain ⟨-, -, hEntities⟩ := StorePayload.reread_eq_some hPayload
  have hSet : payload.entities.filter (fun stored => stored.id.isSet) = payload.entities := by
    refine List.filter_eq_self.2 fun stored hMem => ?_
    obtain ⟨original, -, hEntity⟩ := mem_of_mapM hEntities hMem
    have hReread := StoredEntity.reread_eq_some hEntity
    rw [hReread.fields]
    exact hReread.isSet
  have hLoaded := loadPayload_heldRecords (f := HeldRecord.observation)
    (fun _ _ => rfl) target payload
  rw [hSet, flatMap_of_mapM hEntities fun stored _ other hEntity =>
    reread_observations hEntity payload.registryGeneration] at hLoaded
  refine hLoaded.trans ((payload_claims (fun entity claim => (observe entity claim).restart)
    registry).trans (List.Perm.of_eq ?_))
  rw [Registry.observations, List.filter_map, List.map_map]
  rfl

/-! ## Currency -/

/-- A durable record that waits for revalidation. -/
def Observation.awaits (seen : Observation) : Bool :=
  seen.claim.durability == .durable && seen.claim.currentness == .revalidationRequired

/-- A current record that is durable. -/
def Observation.persists (seen : Observation) : Bool :=
  isCurrent seen.claim.currentness && seen.claim.durability == .durable

theorem restart_of_persists {seen : Observation} (h : seen.persists = true) :
    seen.restart = seen := by
  have hSame : loadedCurrentness seen.claim = seen.claim.currentness := by
    simp only [Observation.persists, isCurrent, Bool.and_eq_true, beq_iff_eq] at h
    rw [loadedCurrentness, h.1, h.2]
    rfl
  rw [Observation.restart, hSame]

/-- Only durable records that are current or wait for revalidation come back current. -/
theorem restart_isCurrent (seen : Observation) :
    (seen.isStored && isCurrent seen.restart.claim.currentness) =
      (seen.persists || seen.awaits) := by
  simp only [Observation.isStored, Observation.restart, loadedCurrentness,
    Observation.persists, Observation.awaits, isCurrent]
  cases seen.claim.currentness <;> cases seen.claim.durability <;> rfl

/-- The elements that pass one of two tests that exclude each other. -/
theorem filter_or_perm {α : Type} {p q : α → Bool} (hDisjoint : ∀ x, p x = true → q x = false)
    (xs : List α) : (xs.filter fun x => p x || q x).Perm (xs.filter p ++ xs.filter q) := by
  induction xs with
  | nil => exact List.Perm.refl _
  | cons x xs ih =>
      by_cases hp : p x = true
      · simp only [List.filter_cons, hp, hDisjoint x hp, Bool.or_false, if_true,
          List.cons_append]
        exact ih.cons x
      · simp only [List.filter_cons, hp, Bool.false_or, if_false, Bool.false_eq_true]
        by_cases hq : q x = true
        · simp only [hq, if_true]
          exact (ih.cons x).trans List.perm_middle.symm
        · simp only [hq, if_false, Bool.false_eq_true]
          exact ih

/-- The current observations after a restart: the durable ones of before, and the durable
ones that waited for revalidation. -/
theorem restart_current (seen : List Observation) :
    (((seen.filter Observation.isStored).map Observation.restart).filter
        fun o => isCurrent o.claim.currentness).Perm
      (seen.filter Observation.persists ++
        (seen.filter Observation.awaits).map Observation.restart) := by
  have hKept : ((seen.filter Observation.isStored).map Observation.restart).filter
      (fun o => isCurrent o.claim.currentness) =
        (seen.filter fun o => o.persists || o.awaits).map Observation.restart := by
    rw [List.filter_map, List.filter_filter]
    congr 2
    funext o
    rw [← restart_isCurrent, Bool.and_comm]
    rfl
  have hDisjoint : ∀ o : Observation, o.persists = true → o.awaits = false := by
    intro o
    simp only [Observation.persists, Observation.awaits, isCurrent]
    cases o.claim.currentness <;> cases o.claim.durability <;> decide
  have hPersists : (seen.filter Observation.persists).map Observation.restart =
      seen.filter Observation.persists := by
    refine (List.map_congr_left fun o hMem => ?_).trans (List.map_id _)
    exact restart_of_persists (List.mem_filter.1 hMem).2
  have hSplit := (filter_or_perm hDisjoint seen).map Observation.restart
  rw [List.map_append, hPersists] at hSplit
  rwa [hKept]

/-- The current observations, by their durability. -/
theorem current_split (seen : List Observation) :
    (seen.filter fun o => isCurrent o.claim.currentness).Perm
      (seen.filter Observation.persists ++ seen.filter fun o =>
        isCurrent o.claim.currentness && o.claim.durability == .processBound) := by
  have hSplit := filter_or_perm (p := Observation.persists)
    (q := fun o => isCurrent o.claim.currentness && o.claim.durability == .processBound)
    (by
      intro o
      simp only [Observation.persists]
      cases o.claim.durability <;> simp) seen
  refine (List.Perm.of_eq (List.filter_congr fun o _ => ?_)).trans hSplit
  simp only [Observation.persists]
  cases o.claim.durability <;> simp

/-- A restart adds nothing to the current observations exactly when no durable record
waits for revalidation: such a record would come back current. -/
theorem restart_current_subperm (seen : List Observation) :
    (((seen.filter Observation.isStored).map Observation.restart).filter
        fun o => isCurrent o.claim.currentness).Subperm
      (seen.filter fun o => isCurrent o.claim.currentness) ↔
        ∀ o ∈ seen, o.awaits = false := by
  rw [(restart_current seen).subperm_right, (current_split seen).subperm_left,
    List.subperm_append_left]
  constructor
  · intro hSub o hMem
    by_contra hAwaits
    rw [Bool.not_eq_false] at hAwaits
    have hRevived := hSub.subset
      (List.mem_map_of_mem (List.mem_filter.2 ⟨hMem, hAwaits⟩))
    have hBound := (List.mem_filter.1 hRevived).2
    simp only [Observation.awaits, Observation.restart, Bool.and_eq_true, beq_iff_eq]
      at hAwaits hBound
    rw [hAwaits.1] at hBound
    cases hBound.2
  · intro hNone
    have hNil : seen.filter Observation.awaits = [] := by
      rw [List.filter_eq_nil_iff]
      intro o hMem
      simp [hNone o hMem]
    rw [hNil]
    exact List.nil_subperm

/-! ## Registries -/

/-- No durable record waits for revalidation. -/
def Registry.DurablesCurrent (registry : Registry) : Prop :=
  ∀ entity ∈ registry.entities, ∀ entry ∈ entity.capabilities, ∀ record ∈ entry.evidence,
    record.durability = .durable → record.currentness ≠ .revalidationRequired

theorem durablesCurrent_iff (registry : Registry) :
    registry.DurablesCurrent ↔ ∀ o ∈ registry.observations, o.awaits = false := by
  simp only [Registry.DurablesCurrent, Registry.observations, Registry.heldRecords,
    EntityState.heldRecords, CapabilityEntry.heldRecords, List.mem_map, List.mem_flatMap]
  constructor
  · rintro h _ ⟨_, ⟨entity, hEntity, entry, hEntry, record, hRecord, rfl⟩, rfl⟩
    have hRecord := h entity hEntity entry hEntry record hRecord
    simpa [Observation.awaits, HeldRecord.observation, observe, EvidenceRecord.stored] using
      hRecord
  · intro h entity hEntity entry hEntry record hRecord
    have hAwaits := h _ ⟨_, ⟨entity, hEntity, entry, hEntry, record, hRecord, rfl⟩, rfl⟩
    simpa [Observation.awaits, HeldRecord.observation, observe, EvidenceRecord.stored] using
      hAwaits

/-- Save and load invent no currency exactly when no durable record of the saved registry
waits for revalidation. -/
theorem restart_keeps_currency_iff {registry loaded target : Registry}
    {config : PersistenceConfig} {file : Bytes} {saved : SaveReport} {report : LoadReport}
    (hSave : save registry = .ok (file, saved))
    (hLoad : load target config (some file) = (loaded, .ok report)) :
    loaded.currentObservations.Subperm registry.currentObservations ↔
      registry.DurablesCurrent := by
  have hLoaded := (load_observations hSave hLoad).filter
    fun o => isCurrent o.claim.currentness
  rw [durablesCurrent_iff, ← restart_current_subperm, Registry.currentObservations,
    hLoaded.subperm_right, Registry.currentObservations]

/-! ### Two restarts -/

namespace Sample

/-- A durable declaration is published. -/
def restored : List Operation :=
  setup ++ [.publish (publication bootOne "attempt-1" 1 0 (claim .supported .durable))]

/-- The declaration, and the invalidation of its source. -/
def invalidated : List Operation := restored ++ [.invalidateSource source .unset]

end Sample

/-- A durable declaration stays current. -/
theorem declaration_stays_current :
    ∃ file saved loaded report,
      save (afterRun {} Sample.restored) = .ok (file, saved) ∧
      load (Registry.init {}) Sample.config (some file) = (loaded, .ok report) ∧
      (loaded.currentObservations.Subperm
        (afterRun {} Sample.restored).currentObservations ↔
          (afterRun {} Sample.restored).DurablesCurrent) := by
  obtain ⟨file, saved, loaded, report, hSave, hLoad, -⟩ :=
    Sample.restarts_inv Sample.restored (fun _ _ => true) (by decide +kernel)
  exact ⟨file, saved, loaded, report, hSave, hLoad, restart_keeps_currency_iff hSave hLoad⟩

/-- The declaration of an invalidated source comes back current. -/
theorem invalidated_declaration_revives :
    ∃ file saved loaded report,
      save (afterRun {} Sample.invalidated) = .ok (file, saved) ∧
      load (Registry.init {}) Sample.config (some file) = (loaded, .ok report) ∧
      (afterRun {} Sample.invalidated).currentObservations = [] ∧
      loaded.currentObservations ≠ [] := by
  obtain ⟨file, saved, loaded, report, hSave, hLoad, hTest⟩ :=
    Sample.restarts_inv Sample.invalidated (fun before after =>
        before.currentObservations.isEmpty && !after.currentObservations.isEmpty)
      (by decide +kernel)
  simp only [Bool.and_eq_true, List.isEmpty_iff, Bool.not_eq_true'] at hTest
  refine ⟨file, saved, loaded, report, hSave, hLoad, hTest.1, fun hNil => ?_⟩
  rw [hNil] at hTest
  cases hTest.2

end FabricCapability.Ports
