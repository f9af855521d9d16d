import FabricCapability.Ports.Retirement
import FabricCapability.Ports.StoreContents

/-!
# The counts of a store

Translation of `InspectStore` of `src/persistence.cpp`, and what the reports of `Save`,
`InspectStore` and `Load` count.  Each of the three walks the entities on its own.  `ReadStore`
sets the counters for grants and fenced boots of the load report to the sizes of the lists it
read, and `Load` counts the same grants and fences once more on top of that.

## Main results

* `numbered_run`: no generation of an entity is unset, whatever files were loaded.
* `counts_agree`: entities, records and retired generations are counted alike everywhere.
* `reports_agree_iff`: when all five counts agree.
-/

namespace FabricCapability.Ports

open FabricCapability.Verified.ByteCodec
open FabricCapability.Verified.KeyedList
open FabricCapability.Verified.Runs
open FabricCapability.Verified.StrictOrder

/-! ## InspectStore -/

/-- `StoreInspection`, without the path. -/
structure StoreInspection where
  formatVersion : UInt32 := 0
  flags : UInt32 := 0
  payloadBytes : UInt64 := 0
  entityRecords : Nat := 0
  evidenceRecords : Nat := 0
  retiredGenerations : Nat := 0
  fenceRecords : Nat := 0
  authorityGrants : Nat := 0
  registryGeneration : RegistryGeneration := 0
  epoch : CoordinatorEpoch := 0
  payloadDigest : Digest := .zero
  integrityOk : Bool := false
  deriving DecidableEq

namespace Store

/-- The inspection of a payload that was read behind a header. -/
def inspection (header : Header) (payload : StorePayload) : StoreInspection :=
  { formatVersion := header.formatVersion
    flags := header.flags
    payloadBytes := header.payloadBytes
    payloadDigest := header.payloadDigest
    integrityOk := true
    entityRecords := payload.entities.length
    evidenceRecords := (payload.entities.map fun entity => entity.claims.length).sum
    retiredGenerations := (payload.entities.map fun entity => entity.history.length).sum
    fenceRecords := payload.fences.length
    authorityGrants := payload.authorities.length
    registryGeneration := payload.registryGeneration
    epoch := payload.epoch }

/-- The part of `InspectStore` behind the header. -/
def inspectBody (file : Bytes) (header : Header) : Outcome StoreInspection := do
  let body := file.drop kStoreHeaderBytes
  if header.payloadBytes.toNat ≠ body.length then
    failure .persistenceCorrupt (txt "store payload length does not match the file size") []
  else if computeDigest body ≠ header.payloadDigest then
    failure .persistenceIntegrityFailure
      (txt "store payload digest does not match the header") []
  else
    let payload ← decodePayload body
    .ok (inspection header payload)

/-- `InspectStore`; `file` is nothing when there is no such file.  A file of another format
version is reported as intact, with nothing counted. -/
def inspectStore (config : PersistenceConfig) (file : Option Bytes) : Outcome StoreInspection :=
  match file with
  | none =>
      failure .persistenceIoFailure (txt "cannot open the store file for reading")
        config.storePath
  | some file =>
      if file.length > kMaxPersistenceBytes then
        failure .persistenceLimitExceeded (txt "store file size is out of range") []
      else
        match parseHeader file with
        | .error e =>
            if e.code = .persistenceVersionUnsupported then .ok { integrityOk := true }
            else .error e
        | .ok header => inspectBody file header

/-- A file that `ReadStore` accepts is inspected to the same payload. -/
theorem inspectStore_of_read {config : PersistenceConfig} {file : Bytes} {payload : StorePayload}
    {read : LoadReport} (h : readStore config (some file) = .ok (payload, read)) :
    inspectStore config (some file) = .ok (inspection (headerOf file) payload) := by
  obtain ⟨hHeader, hLength, hDigest, hPayload⟩ := readFile_eq_ok h
  have hBound : ¬file.length > kMaxPersistenceBytes := by
    unfold readStore readFile at h
    rw [ite_failure_eq_ok] at h
    exact h.1
  unfold inspectStore
  dsimp only
  rw [if_neg hBound, hHeader]
  dsimp only
  unfold inspectBody
  dsimp only
  rw [if_neg (not_not.2 hLength), if_neg (not_not.2 hDigest), hPayload]
  rfl

/-- What `ReadStore` reports. -/
theorem readStore_report {config : PersistenceConfig} {file : Bytes} {payload : StorePayload}
    {read : LoadReport} (h : readStore config (some file) = .ok (payload, read)) :
    read =
      { epoch := payload.epoch
        registryGeneration := payload.registryGeneration
        storeDigest := computeDigest (file.drop kStoreHeaderBytes)
        authorityGrants := payload.authorities.length
        fencedWorkerBoots := payload.fences.length } := by
  obtain ⟨-, -, -, hPayload⟩ := readFile_eq_ok h
  unfold readStore readFile at h
  rw [ite_failure_eq_ok, outcome_bind_eq_ok] at h
  obtain ⟨-, header, -, h⟩ := h
  rw [ite_failure_eq_ok, ite_failure_eq_ok, hPayload] at h
  exact (Prod.mk.inj (Except.ok.inj h.2.2)).2.symm

end Store

/-! ## Generations are set -/

/-- The entity is at a generation, bound to one, and was at the ones of its history. -/
structure EntityState.Numbered (entity : EntityState) : Prop where
  current : entity.currentGeneration ≠ 0
  bound : entity.boundGeneration ≠ 0
  retired : ∀ generation ∈ generationsOf entity.history, generation ≠ 0

theorem EntityState.Numbered.congr {a b : EntityState} (h : a.Numbered)
    (hCurrent : b.currentGeneration = a.currentGeneration)
    (hBound : b.boundGeneration = a.boundGeneration) (hHistory : b.history = a.history) :
    b.Numbered where
  current := hCurrent ▸ h.current
  bound := hBound ▸ h.bound
  retired := by
    rw [hHistory]
    exact h.retired

theorem EntityState.Numbered.retire {entity : EntityState} (h : entity.Numbered)
    (options : Options) (registryGeneration : RegistryGeneration) {next : EntityGeneration}
    (reason : ReasonToken) (hAbove : entity.currentGeneration < next) :
    (retireGeneration options registryGeneration entity next reason).Numbered := by
  have hNext : next ≠ 0 := by
    intro hZero
    rw [hZero] at hAbove
    exact absurd hAbove (UInt64.not_lt.2 UInt64.zero_le)
  refine ⟨hNext, hNext, ?_⟩
  rcases retireGeneration_history options registryGeneration entity next reason with
    hSame | ⟨set, capabilityIds, -, -, hTaken⟩
  · rw [hSame]
    exact h.retired
  · intro generation hMem
    rw [hTaken, generationsOf, List.map_take, List.map_cons] at hMem
    rcases List.mem_cons.1 (List.mem_of_mem_take hMem) with rfl | hEarlier
    · exact h.bound
    · exact h.retired generation hEarlier

theorem numbered_rule : EntityRule fun a b => a.Numbered → b.Numbered where
  refl _ := id
  trans _ _ _ hab hbc := hbc ∘ hab
  retired options registryGeneration _ _ reason _ hAbove h :=
    (h.retire options registryGeneration reason hAbove).congr rfl rfl rfl
  exhausted _ _ _ h := h.congr rfl rfl rfl
  committed registry advanced entity next request hAdvance h := by
    -- a commit binds the entity to the generation it is at
    have hNext := (advanceGenerations_ok hAdvance).2.1
    have hCurrent : next.currentGeneration = entity.currentGeneration := by rw [hNext]
    have hHistory : next.history = entity.history := by rw [hNext]
    have hKnown : next.currentGeneration ≠ 0 := hCurrent ▸ h.current
    exact ⟨hKnown, hKnown, hHistory ▸ h.retired⟩
  observed _ _ hUnset _ h := absurd hUnset h.current
  relabelled _ _ _ _ _ h := h.congr rfl rfl rfl
  flagged _ _ h := h.congr rfl rfl rfl
  refreshed _ _ _ h := h.congr rfl rfl rfl

theorem applies_numbered (registry : Registry) (request : PublicationRequest) :
    AppliesWithin (fun a b => a.Numbered → b.Numbered) registry request := by
  intro _ grant bound entity _ _ _ h
  have hSame := runSteps_entity bound request (applySteps bound.schema grant request)
    (bound.cell entity)
  unfold SameEntity at hSame
  rw [hSame]
  exact h.congr rfl rfl rfl

/-- The entity records of an accepted file are at a generation. -/
theorem readStore_known {config : PersistenceConfig} {file : Bytes} {payload : StorePayload}
    {read : LoadReport} (h : Store.readStore config (some file) = .ok (payload, read)) :
    ∀ stored ∈ payload.entities, stored.currentGeneration ≠ 0 := by
  have hRead := Store.readStore_collects h
  refine (Store.forall_held (P := fun _ => True) (fun body stored hFront => ?_)
    hRead.entities).2 fun _ _ => trivial
  exact iff_of_true (Store.entity_known hFront) trivial

theorem loadEntity_numbered {stored : StoredEntity} (h : stored.currentGeneration ≠ 0)
    (registryGeneration : RegistryGeneration) (loading : Loading) :
    (loadEntity registryGeneration loading stored).2.Numbered where
  current := h
  bound := by
    show stored.bound ≠ 0
    unfold StoredEntity.bound
    split
    · exact h
    · assumption
  retired := by
    intro generation hMem
    obtain ⟨retained, hRetained, rfl⟩ := List.mem_map.1 hMem
    obtain ⟨kept, hKept, rfl⟩ := List.mem_map.1 hRetained
    exact of_decide_eq_true (List.mem_filter.1 hKept).2

theorem load_numbered {registry : Registry} (config : PersistenceConfig) (file : Option Bytes)
    (h : ∀ entity ∈ registry.entities, entity.Numbered) :
    ∀ entity ∈ (load registry config file).1.entities, entity.Numbered := by
  unfold load
  split
  · exact h
  · rename_i payload read hRead
    intro entity hMem
    obtain ⟨loading, stored, hStored, rfl⟩ := mem_mapAccum hMem
    refine loadEntity_numbered ?_ _ _
    have hIn := (List.mem_filter.1 hStored).1
    cases file with
    | some file => exact readStore_known hRead stored hIn
    | none =>
        unfold Store.readStore at hRead
        dsimp only at hRead
        split at hRead
        · cases hRead
          cases hIn
        · cases hRead

theorem step_numbered {registry : Registry} (operation : Operation)
    (h : ∀ entity ∈ registry.entities, entity.Numbered) :
    ∀ entity ∈ (operation.apply registry).entities, entity.Numbered := by
  cases hLoad : operation.isLoad with
  | false =>
      have hFollows : Follows _ registry (operation.apply registry) :=
        step_follows numbered_rule
          (fun attempt _ => applies_numbered attempt.before attempt.request) hLoad
      exact hFollows.invariant (fun _ _ _ hNe => ⟨hNe, hNe, fun _ hMem => by cases hMem⟩) h
  | true =>
      cases operation with
      | load config file => exact load_numbered config file h
      | _ => cases hLoad

/-- In every run, the loads of any files included. -/
theorem numbered_run (options : Options) (operations : List Operation) :
    ∀ entity ∈ (afterRun options operations).entities, entity.Numbered := by
  refine run_invariant (P := fun registry : Registry => ∀ entity ∈ registry.entities,
      entity.Numbered) (fun _ operation _ h => step_numbered operation h)
    (guarded_of_forall fun _ _ => trivial) ?_
  rw [init_entities]
  exact fun _ hMem => by cases hMem

/-! ## What is counted -/

/-- The numbers that the reports have in common. -/
@[ext]
structure StoreCounts where
  entities : Nat
  evidenceRecords : Nat
  authorityGrants : Nat
  fencedBoots : Nat
  retiredGenerations : Nat
  deriving DecidableEq

def SaveReport.counts (report : SaveReport) : StoreCounts :=
  { entities := report.entityRecords
    evidenceRecords := report.evidenceRecords
    authorityGrants := report.authorityGrants
    fencedBoots := report.fenceRecords
    retiredGenerations := report.retiredGenerations }

def StoreInspection.counts (inspection : StoreInspection) : StoreCounts :=
  { entities := inspection.entityRecords
    evidenceRecords := inspection.evidenceRecords
    authorityGrants := inspection.authorityGrants
    fencedBoots := inspection.fenceRecords
    retiredGenerations := inspection.retiredGenerations }

def LoadReport.counts (report : LoadReport) : StoreCounts :=
  { entities := report.entitiesLoaded
    evidenceRecords := report.evidenceLoaded
    authorityGrants := report.authorityGrants
    fencedBoots := report.fencedWorkerBoots
    retiredGenerations := report.generationsRecovered }

/-- What the registry holds. -/
def Registry.counts (registry : Registry) : StoreCounts :=
  { entities := registry.entities.length
    evidenceRecords := registry.heldRecords.length
    authorityGrants := registry.authorities.length
    fencedBoots := registry.fencedBoots.length
    retiredGenerations := (registry.entities.map fun entity => entity.history.length).sum }

/-- What a payload holds. -/
def StorePayload.counts (payload : StorePayload) : StoreCounts :=
  { entities := payload.entities.length
    evidenceRecords := (payload.entities.map fun entity => entity.claims.length).sum
    authorityGrants := payload.authorities.length
    fencedBoots := payload.fences.length
    retiredGenerations := (payload.entities.map fun entity => entity.history.length).sum }

section Counts

variable {registry loaded target : Registry} {payload reread : StorePayload}

theorem writeStore_counts {file : Bytes} {saved : SaveReport}
    (h : Store.writeStore payload = .ok (file, saved)) : saved.counts = payload.counts := by
  unfold Store.writeStore at h
  obtain ⟨body, -, h⟩ := outcome_bind_eq_ok.1 h
  rw [ite_failure_eq_ok] at h
  rw [← (Prod.mk.inj (Except.ok.inj h.2)).2]
  rfl

/-- The reader keeps as many of everything as were written. -/
theorem reread_counts (h : payload.reread = some reread) : reread.counts = payload.counts := by
  obtain ⟨-, -, hEntities⟩ := StorePayload.reread_eq_some h
  obtain ⟨hFences, -, -⟩ := StorePayload.reread_lists h
  have hAuthorities : reread.authorities.length = payload.authorities.length := by
    unfold StorePayload.reread at h
    obtain ⟨authorities, hAuthorities, h⟩ := Option.bind_eq_some_iff.1 h
    obtain ⟨fences, -, h⟩ := Option.bind_eq_some_iff.1 h
    obtain ⟨registrations, -, h⟩ := Option.bind_eq_some_iff.1 h
    obtain ⟨entities, -, rfl⟩ := Option.map_eq_some_iff.1 h
    exact length_mapM (listed_eq_some.1 hAuthorities).2
  have hClaims : reread.entities.map (fun entity => entity.claims.length) =
      payload.entities.map fun entity => entity.claims.length :=
    map_mapM (fun _ _ hRead => length_mapM (StoredEntity.reread_eq_some hRead).claims) hEntities
  have hHistory : reread.entities.map (fun entity => entity.history.length) =
      payload.entities.map fun entity => entity.history.length := by
    refine map_mapM (fun entity read hRead => ?_) hEntities
    rw [(StoredEntity.reread_eq_some hRead).fields]
  rw [StorePayload.counts, StorePayload.counts, length_mapM hEntities, hAuthorities, hFences,
    hClaims, hHistory]

/-- The claims of a payload that was read back are of known capabilities. -/
theorem reread_claims_set (h : payload.reread = some reread) :
    ∀ stored ∈ reread.entities,
      (stored.claims.filter fun claim => claim.capability.isSet) = stored.claims := by
  intro stored hMem
  obtain ⟨-, -, hEntities⟩ := StorePayload.reread_eq_some h
  obtain ⟨written, -, hRead⟩ := mem_of_mapM hEntities hMem
  refine List.filter_eq_self.2 fun claim hClaim => ?_
  obtain ⟨original, -, hOriginal⟩ :=
    mem_of_mapM (StoredEntity.reread_eq_some hRead).claims hClaim
  exact (StoredClaim.reread_eq_some hOriginal).2.1

/-- The generations of a registry that was saved are set, in the file too. -/
theorem reread_history_set (hNumbered : ∀ entity ∈ registry.entities, entity.Numbered)
    (h : registry.payload.reread = some reread) :
    ∀ stored ∈ reread.entities,
      (stored.history.filter fun generation => generation.generation ≠ 0) = stored.history := by
  intro stored hMem
  obtain ⟨-, -, hEntities⟩ := StorePayload.reread_eq_some h
  obtain ⟨written, hWritten, hRead⟩ := mem_of_mapM hEntities hMem
  obtain ⟨entity, hEntity, rfl⟩ := List.mem_map.1 hWritten
  have hSet := (hNumbered entity (mem_sortBy.1 hEntity)).retired
  refine List.filter_eq_self.2 fun generation hGeneration => ?_
  rw [(StoredEntity.reread_eq_some hRead).fields] at hGeneration
  obtain ⟨retained, hRetained, rfl⟩ := List.mem_map.1 hGeneration
  exact decide_eq_true (hSet _ (List.mem_map_of_mem hRetained))

/-- What a registry holds after the load of a payload that was read back. -/
theorem loaded_counts (hNumbered : ∀ entity ∈ registry.entities, entity.Numbered)
    (h : registry.payload.reread = some reread) (target : Registry) :
    (loadPayload target reread).entities.length = reread.counts.entities ∧
      (loadPayload target reread).heldRecords.length = reread.counts.evidenceRecords ∧
      ((loadPayload target reread).entities.map fun entity => entity.history.length).sum =
        reread.counts.retiredGenerations := by
  have hSet := filter_isSet_reread h
  refine ⟨?_, ?_, ?_⟩
  · show (mapAccum _ _ (reread.entities.filter _)).2.length = _
    rw [length_mapAccum, hSet]
    rfl
  · have hHeld := (loadPayload_heldRecords (f := fun _ => ()) (fun _ _ => rfl) target
      reread).length_eq
    rw [List.length_map, hSet, List.length_flatMap] at hHeld
    rw [hHeld]
    refine congrArg List.sum (List.map_congr_left fun stored hMem => ?_)
    rw [List.length_map, reread_claims_set h stored hMem]
  · show ((mapAccum _ _ (reread.entities.filter _)).2.map _).sum = _
    rw [hSet]
    refine congrArg List.sum 
      (map_mapAccum_of_mem (fun stored : StoredEntity => stored.history.length) _ ?_)
    intro loading stored hMem
    show ((stored.history.filter _).map _).length = _
    rw [List.length_map, reread_history_set hNumbered h stored hMem]

/-- The grants and the fences of a payload that was read back are all loaded. -/
theorem loaded_lists (h : payload.reread = some reread) (target : Registry) :
    (loadPayload target reread).authorities.length = reread.authorities.length ∧
      (loadPayload target reread).fences.length = reread.fences.length := by
  constructor
  · unfold StorePayload.reread at h
    obtain ⟨authorities, hAuthorities, h⟩ := Option.bind_eq_some_iff.1 h
    obtain ⟨fences, -, h⟩ := Option.bind_eq_some_iff.1 h
    obtain ⟨registrations, -, h⟩ := Option.bind_eq_some_iff.1 h
    obtain ⟨entities, -, rfl⟩ := Option.map_eq_some_iff.1 h
    show (authorities.filter fun grant => grant.scope.isSet).length = authorities.length
    rw [List.filter_eq_self.2]
    intro grant hMem
    obtain ⟨written, -, hRead⟩ := mem_of_mapM (listed_eq_some.1 hAuthorities).2 hMem
    unfold AuthorityGrant.reread at hRead
    split at hRead
    · rename_i hReadable
      cases hRead
      exact (Bool.and_eq_true_iff.1 hReadable).1
    · cases hRead
  · obtain ⟨hFences, -, hSet⟩ := StorePayload.reread_lists h
    show ((reread.fences.filter fun fence => fence.workerBoot.isSet).map _).length = _
    rw [List.length_map, List.filter_eq_self.2 fun fence hMem => hSet fence (hFences ▸ hMem)]

/-- No boot is fenced without a fence. -/
theorem loaded_boots (h : payload.reread = some reread) (hNone : payload.fences = [])
    (target : Registry) : (loadPayload target reread).fencedBoots = [] := by
  have hFences : reread.fences = [] := (StorePayload.reread_lists h).1.trans hNone
  show reread.fenceRecords.foldl _ [] = []
  rw [StorePayload.fenceRecords, hFences]
  rfl

end Counts

/-! ## The reports -/

section Reports

variable {registry loaded target : Registry} {config : PersistenceConfig} {file : Bytes}
  {saved : SaveReport} {report : LoadReport}

/-- A load that succeeds is the load of a payload that `ReadStore` read. -/
theorem load_read (h : load target config (some file) = (loaded, .ok report)) :
    ∃ payload read, Store.readStore config (some file) = .ok (payload, read) ∧
      loaded = loadPayload target payload ∧ report = loadReport read payload loaded := by
  unfold load at h
  split at h
  · cases h
  · rename_i payload read hRead
    cases h
    exact ⟨payload, read, hRead, rfl, rfl⟩

/-- Entities, records and retired generations are counted alike; the load report counts
grants and fenced boots twice. -/
theorem counts_agree (hNumbered : ∀ entity ∈ registry.entities, entity.Numbered)
    (hSave : save registry = .ok (file, saved))
    (hLoad : load target config (some file) = (loaded, .ok report)) :
    (∃ inspection, Store.inspectStore config (some file) = .ok inspection ∧
        inspection.counts = saved.counts) ∧
      report.counts =
        { saved.counts with
          authorityGrants := saved.counts.authorityGrants + saved.counts.authorityGrants
          fencedBoots := saved.counts.fencedBoots + saved.counts.fencedBoots } ∧
      loaded.counts = { saved.counts with fencedBoots := loaded.counts.fencedBoots } ∧
      (registry.fences = [] → loaded.fencedBoots = []) := by
  obtain ⟨payload, read, hRead, rfl, rfl⟩ := load_read hLoad
  have hReread : registry.payload.reread = some payload := by
    have hWritten := Store.readStore_writeStore hSave config
    rw [hRead] at hWritten
    split at hWritten
    · exact hWritten.symm
    · cases hWritten
  have hCounts : payload.counts = saved.counts :=
    (reread_counts hReread).trans (writeStore_counts hSave).symm
  obtain ⟨hEntities, hRecords, hGenerations⟩ := loaded_counts hNumbered hReread target
  obtain ⟨hGrants, hFences⟩ := loaded_lists hReread target
  have hClaims : (payload.entities.flatMap fun stored =>
      stored.claims.filter fun claim => claim.capability.isSet).length =
        payload.counts.evidenceRecords := by
    rw [List.length_flatMap]
    refine congrArg List.sum (List.map_congr_left fun stored hMem => ?_)
    rw [reread_claims_set hReread stored hMem]
  refine ⟨⟨_, Store.inspectStore_of_read hRead, hCounts⟩, ?_, ?_, ?_⟩
  · rw [Store.readStore_report hRead, ← hCounts, LoadReport.counts, loadReport]
    dsimp only
    rw [filter_isSet_reread hReread, hGrants, hFences, hClaims, hGenerations]
    simp only [Nat.zero_add]
    rfl
  · rw [← hCounts, Registry.counts, hEntities, hRecords, hGenerations, hGrants]
    rfl
  · intro hNone
    refine loaded_boots hReread ?_ target
    show registry.storedFences = []
    rw [Registry.storedFences, hNone]
    rfl

/-- The reports of a save, an inspection and a load give the same five counts, which are those
of the loaded registry. -/
def ReportsAgree (saved : SaveReport) (inspected : Outcome StoreInspection)
    (report : LoadReport) (loaded : Registry) : Prop :=
  ∃ inspection, inspected = .ok inspection ∧ saved.counts = inspection.counts ∧
    inspection.counts = report.counts ∧ report.counts = loaded.counts

end Reports

/--
**When the reports agree**: after any run, the reports of `Save`, of `InspectStore` on the file
and of `Load` into a fresh registry agree with each other and with the loaded registry exactly
when no grant and no fence is stored.
-/
theorem reports_agree_iff (options fresh : Options) (operations : List Operation)
    (config : PersistenceConfig) {file : Bytes} {saved : SaveReport} {loaded : Registry}
    {report : LoadReport} (hSave : save (afterRun options operations) = .ok (file, saved))
    (hLoad : load (Registry.init fresh) config (some file) = (loaded, .ok report)) :
    ReportsAgree saved (Store.inspectStore config (some file)) report loaded ↔
      (afterRun options operations).authorities = [] ∧
        (afterRun options operations).fences = [] := by
  obtain ⟨⟨inspection, hInspected, hInspection⟩, hReport, hLoaded, hBoots⟩ :=
    counts_agree (numbered_run options operations) hSave hLoad
  have hSaved := writeStore_counts hSave
  have hGrants : saved.counts.authorityGrants =
      (afterRun options operations).authorities.length := by
    rw [hSaved]
    exact length_sortBy ..
  have hFences : saved.counts.fencedBoots = (afterRun options operations).fences.length := by
    rw [hSaved]
    show (sortBy _ (List.map _ _)).length = _
    rw [length_sortBy, List.length_map]
  constructor
  · rintro ⟨found, hFound, hFirst, hSecond, -⟩
    have hSame := hFirst.trans hSecond
    rw [hReport] at hSame
    have hOnce := congrArg StoreCounts.authorityGrants hSame
    have hTwice := congrArg StoreCounts.fencedBoots hSame
    dsimp only at hOnce hTwice
    exact ⟨List.length_eq_zero_iff.1 (by omega), List.length_eq_zero_iff.1 (by omega)⟩
  · rintro ⟨hNoGrants, hNoFences⟩
    rw [hNoGrants] at hGrants
    rw [hNoFences] at hFences
    have hReported : report.counts = saved.counts := by
      rw [hReport, hGrants, hFences]
      exact StoreCounts.ext rfl rfl hGrants.symm hFences.symm rfl
    have hHeld : loaded.counts.fencedBoots = saved.counts.fencedBoots := by
      rw [hFences]
      exact List.length_eq_zero_iff.2 (hBoots hNoFences)
    refine ⟨inspection, hInspected, hInspection.symm, hInspection.trans hReported.symm, ?_⟩
    rw [hReported, hLoaded, hHeld]

namespace Sample

/-- The set-up is saved and loaded. -/
theorem setup_restarts :
    ∃ file saved loaded report, save (afterRun {} setup) = .ok (file, saved) ∧
      load (Registry.init {}) config (some file) = (loaded, .ok report) := by
  obtain ⟨file, saved, loaded, report, hSave, hLoad, -⟩ :=
    restarts_inv setup (fun _ _ => true) (by decide +kernel)
  exact ⟨file, saved, loaded, report, hSave, hLoad⟩

end Sample

theorem setup_reports_agree_iff :
    ∃ file saved loaded report, save (afterRun {} Sample.setup) = .ok (file, saved) ∧
      load (Registry.init {}) Sample.config (some file) = (loaded, .ok report) ∧
      (ReportsAgree saved (Store.inspectStore Sample.config (some file)) report loaded ↔
        (afterRun {} Sample.setup).authorities = [] ∧ (afterRun {} Sample.setup).fences = []) := by
  obtain ⟨file, saved, loaded, report, hSave, hLoad⟩ := Sample.setup_restarts
  exact ⟨file, saved, loaded, report, hSave, hLoad,
    reports_agree_iff {} {} Sample.setup Sample.config hSave hLoad⟩

/-- One grant is declared, and the load report counts two. -/
theorem declared_grant_counted_twice :
    ¬∀ (options fresh : Options) (operations : List Operation) (config : PersistenceConfig)
        (file : Bytes) (saved : SaveReport) (loaded : Registry) (report : LoadReport),
      save (afterRun options operations) = .ok (file, saved) →
      load (Registry.init fresh) config (some file) = (loaded, .ok report) →
      ReportsAgree saved (Store.inspectStore config (some file)) report loaded := by
  intro h
  obtain ⟨file, saved, loaded, report, hSave, hLoad⟩ := Sample.setup_restarts
  obtain ⟨inspection, -, -, -, hHeld⟩ := h {} {} Sample.setup Sample.config file saved loaded
    report hSave hLoad
  obtain ⟨-, hReport, hLoaded, -⟩ := counts_agree (numbered_run {} Sample.setup) hSave hLoad
  have hGrants : saved.counts.authorityGrants = 1 := by
    rw [writeStore_counts hSave]
    decide +kernel
  have hTwice := congrArg StoreCounts.authorityGrants (hReport.symm.trans (hHeld.trans hLoaded))
  dsimp only at hTwice
  omega

end FabricCapability.Ports
