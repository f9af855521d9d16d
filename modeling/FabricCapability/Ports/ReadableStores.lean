import FabricCapability.Ports.LoadBounds
import FabricCapability.Ports.StorePayloads
import FabricCapability.Ports.StoredIdentity
import FabricCapability.Ports.ResultRoundTrip

/-!
# When a saved store can be read again

`Save` writes what the registry holds and has no limits of its own besides the size of the
payload.  `ReadStore` has: it bounds its lists, whatever the options of the registry were, it
refuses the unknown entity class and an unset publisher in a grant, it parses the texts of
capabilities again, it checks the ranges of values, and it counts the header into the size of
the file.

`Registry.FitsReader` collects what the reader asks beyond what holds in every run anyway.

## Main results

* `reread_isSome_iff`: which registries have a payload that decodes.
* `saved_readable_iff`: after any run, a store that was saved is accepted by `Load` exactly when
  the registry fits the reader and the file, header included, fits its bound.
-/

namespace FabricCapability.Ports

open FabricCapability.Verified.ByteCodec
open FabricCapability.Verified.KeyedList
open FabricCapability.Verified.StrictOrder

/-! ## What the reader asks -/

/-- A grant that the reader accepts, besides being admissible. -/
structure AuthorityGrant.FitsReader (grant : AuthorityGrant) : Prop where
  entityKinds : ∀ kind ∈ grant.entityKinds, kind ≠ .unknown
  allowedPublishers : ∀ publisher ∈ grant.allowedPublishers, publisher.isSet = true

/-- The number of records that `Save` keeps of an entity. -/
def EntityState.storedCount (entity : EntityState) : Nat :=
  (entity.capabilities.map fun entry => entry.evidence.countP isStored).sum

structure EntityState.FitsReader (entity : EntityState) : Prop where
  capabilities : entity.capabilities.length ≤ kMaxCapabilitiesPerEntity
  evidence : entity.storedCount ≤ kMaxEvidencePerEntity
  floors : entity.sourceHighWater.length ≤ kMaxEvidencePerEntity
  history : entity.history.length ≤ kMaxEntityGenerationsRetained
  /-- Every capability is one that its text parses to again, up to where it is cut. -/
  parses : ∀ entry ∈ entity.capabilities, ∃ id, CapabilityId.parse entry.id.toText = .ok id
  apart : (entity.capabilities.map fun entry => entry.id.toText).Nodup
  values : ∀ entry ∈ entity.capabilities, ∀ record ∈ entry.evidence,
    isStored record = true → record.value.decodable = true

structure Registry.FitsReader (registry : Registry) : Prop where
  authorities : registry.authorities.length ≤ kMaxStoredAuthorities
  fences : registry.fences.length ≤ kMaxFencedWorkerBoots
  registrations : registry.publishers.countP (·.2.active) ≤ kMaxStoredRegistrations
  entityCount : registry.entities.length ≤ kMaxEntities
  grants : ∀ grant ∈ registry.authorities, grant.FitsReader
  entities : ∀ entity ∈ registry.entities, entity.FitsReader

/-! ## Lists that are read again -/

theorem isSome_listed {α β : Type} {bound : Nat} {reread : α → Option β} {xs : List α} :
    (listed bound reread xs).isSome = true ↔
      xs.length ≤ bound ∧ ∀ x ∈ xs, (reread x).isSome = true := by
  unfold listed
  by_cases h : xs.length ≤ bound
  · rw [if_pos h, isSome_mapM, and_iff_right h]
  · rw [if_neg h]
    simp [h]

/-- A chain of reads goes through when every one of them does. -/
theorem isSome_bind_const {α β : Type} {x : Option α} {f : α → Option β} {P : Prop}
    (h : ∀ a, x = some a → ((f a).isSome = true ↔ P)) :
    (x.bind f).isSome = true ↔ x.isSome = true ∧ P := by
  cases x with
  | none => simp
  | some a => simpa using h a rfl

theorem isSome_guard {α : Type} {pass : α → Bool} {x : α} :
    (Option.guard pass x).isSome = true ↔ pass x = true := by
  unfold Option.guard
  cases pass x <;> simp

/-! ## Grants -/

theorem mem_entityKindNames {kind : FabricEntityKind} :
    kind ∈ entityKindNames ↔ kind ≠ .unknown := by
  cases kind <;> decide

/-- Of an admissible grant the reader still checks the entity classes and the publishers. -/
theorem AuthorityGrant.Admissible.reread_isSome {grant : AuthorityGrant}
    (h : grant.Admissible) : grant.reread.isSome = true ↔ grant.FitsReader := by
  have hReread : grant.reread.isSome = true ↔ grant.readable = true := by
    unfold AuthorityGrant.reread
    cases grant.readable <;> simp
  have hWord := Nat.le_trans (Nat.mod_le grant.maxClaimsPerPublication (2 ^ 32)) h.maxClaims
  rw [hReread]
  unfold AuthorityGrant.readable within
  simp only [Bool.and_eq_true, decide_eq_true_eq, List.all_eq_true, h.scope, h.entityKinds,
    h.namespaceCount, h.allowedPublishers, hWord, true_and, mem_entityKindNames]
  constructor
  · rintro ⟨hKinds, -, hPublishers⟩
    exact ⟨hKinds, hPublishers⟩
  · rintro ⟨hKinds, hPublishers⟩
    exact ⟨hKinds, h.namespaces, hPublishers⟩

/-! ## Capabilities -/

theorem StoredCapability.reread_isSome {capability : StoredCapability} :
    capability.reread.isSome = true ↔
      ∃ id, CapabilityId.parse capability.id.toText = .ok id := by
  unfold StoredCapability.reread
  cases CapabilityId.parse capability.id.toText with
  | error e => simp [Except.toOption]
  | ok id => simp [Except.toOption]

/-- Neighbours of a list whose keys do not repeat have different keys. -/
theorem key_ne_of_mem_zip_tail {α β : Type} {key : α → β} {xs : List α}
    (h : (xs.map key).Nodup) : ∀ pair ∈ xs.zip xs.tail, key pair.1 ≠ key pair.2 := by
  induction xs with
  | nil => exact fun _ hMem => by cases hMem
  | cons first rest ih =>
      cases rest with
      | nil => exact fun _ hMem => by cases hMem
      | cons second rest =>
          obtain ⟨hFirst, hRest⟩ := List.nodup_cons.1 h
          intro pair hMem
          rcases List.mem_cons.1 hMem with rfl | hMem
          · intro hSame
            dsimp only at hSame
            exact hFirst (by rw [hSame]; exact List.mem_cons_self ..)
          · exact ih hRest pair hMem

/-- Distinct capabilities pass the check of the reader. -/
theorem checkCapabilities_apart {capabilities : List StoredCapability}
    (h : (capabilities.map StoredCapability.id).Nodup) :
    ∃ sorted, Store.checkCapabilities capabilities = .ok sorted := by
  let lt (a b : StoredCapability) : Bool := a.id.lt b.id
  have hSorted : ((sortBy lt capabilities).map StoredCapability.id).Nodup :=
    ((sortBy_perm lt capabilities).map _).nodup_iff.2 h
  have hNone : ((sortBy lt capabilities).zip (sortBy lt capabilities).tail).find?
      (fun pair => decide (pair.1.id = pair.2.id)) = none := by
    rw [List.find?_eq_none]
    intro pair hPair
    rw [decide_eq_true_eq]
    exact key_ne_of_mem_zip_tail hSorted pair hPair
  unfold Store.checkCapabilities
  dsimp only
  rw [hNone]
  exact ⟨_, rfl⟩

/-- The capabilities of an entity are read again when they are within the bound, every text
parses, and no two texts are the same. -/
theorem rereadCapabilities_isSome {capabilities : List StoredCapability} :
    (rereadCapabilities capabilities).isSome = true ↔
      capabilities.length ≤ kMaxCapabilitiesPerEntity ∧
        (∀ capability ∈ capabilities,
          ∃ id, CapabilityId.parse capability.id.toText = .ok id) ∧
        (capabilities.map fun capability => capability.id.toText).Nodup := by
  constructor
  · intro h
    obtain ⟨reread, hReread⟩ := Option.isSome_iff_exists.1 h
    obtain ⟨read, hMap, -, hTexts⟩ := rereadCapabilities_spec hReread
    unfold rereadCapabilities at hReread
    obtain ⟨_, hListed, -⟩ := Option.bind_eq_some_iff.1 hReread
    have hSame := map_mapM (F := fun capability : StoredCapability => capability.id.toText)
      (fun _ _ hOne => (StoredCapability.reread_eq_some hOne).2) hMap
    refine ⟨(listed_eq_some.1 hListed).1, fun capability hMem => ?_, hSame ▸ hTexts⟩
    obtain ⟨one, -, hOne⟩ := exists_of_mapM hMap hMem
    exact StoredCapability.reread_isSome.1 (Option.isSome_iff_exists.2 ⟨one, hOne⟩)
  · rintro ⟨hBound, hParses, hTexts⟩
    have hListed : (listed kMaxCapabilitiesPerEntity StoredCapability.reread
        capabilities).isSome = true :=
      isSome_listed.2 ⟨hBound, fun capability hMem =>
        StoredCapability.reread_isSome.2 (hParses capability hMem)⟩
    obtain ⟨read, hRead⟩ := Option.isSome_iff_exists.1 hListed
    have hSame := map_mapM (F := fun capability : StoredCapability => capability.id.toText)
      (fun _ _ hOne => (StoredCapability.reread_eq_some hOne).2) (listed_eq_some.1 hRead).2
    have hApart : (read.map StoredCapability.id).Nodup := by
      have hNodup : (read.map fun capability => capability.id.toText).Nodup := hSame ▸ hTexts
      have hSplit : (read.map fun capability => capability.id.toText) =
          (read.map StoredCapability.id).map CapabilityId.toText := by
        rw [List.map_map]
        rfl
      rw [hSplit] at hNodup
      exact hNodup.of_map _
    obtain ⟨sorted, hCheck⟩ := checkCapabilities_apart hApart
    rw [rereadCapabilities, hRead, Option.bind_some, hCheck]
    rfl

/-! ## Entities -/

/-- A claim whose identifiers are set is read again when its capability parses and its value
is within the ranges of the decoder. -/
theorem Store.StoredClaim.Identified.reread_isSome {claim : StoredClaim}
    (h : Store.StoredClaim.Identified claim) :
    claim.reread.isSome = true ↔
      (∃ id, CapabilityId.parse claim.capability.toText = .ok id) ∧
        claim.value.decodable = true := by
  have hComplete : claim.complete = claim.value.decodable := by
    unfold StoredClaim.complete
    simp only [h.id, h.source, h.publisher, h.scope, h.workerBoot, h.attempt, h.publication,
      Bool.true_and]
  unfold StoredClaim.reread
  rw [hComplete]
  cases CapabilityId.parse claim.capability.toText with
  | error e => simp [Except.toOption]
  | ok id => cases claim.value.decodable <;> simp [Except.toOption]

theorem EvidenceRecord.Identified.stored {record : EvidenceRecord} (h : record.Identified)
    (capability : CapabilityId) : Store.StoredClaim.Identified (record.stored capability) :=
  ⟨h.id, h.source, h.publisher, h.scope, h.workerBoot, h.attempt, h.publication⟩

section Stored

variable {entity : EntityState}

/-- The stored claims are the records that `Save` keeps. -/
theorem mem_stored_claims {claim : StoredClaim} :
    claim ∈ entity.stored.claims ↔ ∃ entry ∈ entity.capabilities, ∃ record ∈ entry.evidence,
      isStored record = true ∧ record.stored entry.id = claim := by
  simp only [EntityState.stored, mem_sortBy, List.mem_flatMap, CapabilityEntry.storedClaims,
    List.mem_map, List.mem_filter, and_assoc]

theorem length_stored_claims : entity.stored.claims.length = entity.storedCount := by
  simp only [EntityState.stored, length_sortBy, List.length_flatMap,
    CapabilityEntry.storedClaims, List.length_map, EntityState.storedCount,
    List.countP_eq_length_filter]

theorem mem_stored_floors {floor : StoredSourceFloor} :
    floor ∈ entity.storedFloors ↔ ∃ held ∈ entity.sourceHighWater,
      { source := held.1.source, workerBoot := held.1.boot, generation := held.2 } = floor := by
  simp only [EntityState.storedFloors, List.mem_map, mem_sortBy]

theorem map_stored_capabilities {α : Type} (f : CapabilityId → α) :
    (entity.stored.capabilities.map fun capability => f capability.id).Perm
      (entity.capabilities.map fun entry => f entry.id) := by
  have hPerm := (sortBy_perm (fun a b : StoredCapability => a.id.lt b.id)
    (entity.capabilities.map fun entry =>
      { id := entry.id, generation := entry.generation })).map
        fun capability : StoredCapability => f capability.id
  rwa [List.map_map] at hPerm

/-- Of an entity whose identifiers are set the reader asks no more than `FitsReader`. -/
theorem EntityState.Identified.reread_isSome (h : entity.Identified)
    (hNumbered : entity.Numbered) :
    entity.stored.reread.isSome = true ↔ entity.FitsReader := by
  have hCapabilities : (rereadCapabilities entity.stored.capabilities).isSome = true ↔
      entity.capabilities.length ≤ kMaxCapabilitiesPerEntity ∧
        (∀ entry ∈ entity.capabilities,
          ∃ id, CapabilityId.parse entry.id.toText = .ok id) ∧
        (entity.capabilities.map fun entry => entry.id.toText).Nodup := by
    have hPerm := @map_stored_capabilities entity _ fun capability => capability
    have hLength := hPerm.length_eq
    simp only [List.length_map] at hLength
    have hParses : (∀ capability ∈ entity.stored.capabilities,
        ∃ id, CapabilityId.parse capability.id.toText = .ok id) ↔
          ∀ entry ∈ entity.capabilities, ∃ id, CapabilityId.parse entry.id.toText = .ok id := by
      have hSame := fun id => hPerm.mem_iff (a := id)
      simp only [List.mem_map] at hSame
      constructor
      · intro hAll entry hMem
        obtain ⟨capability, hStored, hId⟩ := (hSame entry.id).2 ⟨entry, hMem, rfl⟩
        exact hId ▸ hAll capability hStored
      · intro hAll capability hStored
        obtain ⟨entry, hMem, hId⟩ := (hSame capability.id).1 ⟨capability, hStored, rfl⟩
        exact hId ▸ hAll entry hMem
    rw [rereadCapabilities_isSome, (map_stored_capabilities CapabilityId.toText).nodup_iff,
      hLength, hParses]
  have hClaims : (listed kMaxEvidencePerEntity StoredClaim.reread
      entity.stored.claims).isSome = true ↔ entity.storedCount ≤ kMaxEvidencePerEntity ∧
        ∀ entry ∈ entity.capabilities, ∀ record ∈ entry.evidence, isStored record = true →
          (∃ id, CapabilityId.parse entry.id.toText = .ok id) ∧
            record.value.decodable = true := by
    rw [isSome_listed, length_stored_claims]
    refine and_congr_right fun _ => ⟨fun hAll entry hEntry record hRecord hStored => ?_,
      fun hAll claim hMem => ?_⟩
    · have hClaim := hAll _ (mem_stored_claims.2 ⟨entry, hEntry, record, hRecord, hStored, rfl⟩)
      exact ((h.entries entry hEntry record hRecord).stored entry.id).reread_isSome.1 hClaim
    · obtain ⟨entry, hEntry, record, hRecord, hStored, rfl⟩ := mem_stored_claims.1 hMem
      exact ((h.entries entry hEntry record hRecord).stored entry.id).reread_isSome.2
        (hAll entry hEntry record hRecord hStored)
  have hFloors : (listed kMaxEvidencePerEntity (Option.guard StoredSourceFloor.complete)
      entity.stored.sourceFloors).isSome = true ↔
        entity.sourceHighWater.length ≤ kMaxEvidencePerEntity := by
    have hLength : entity.stored.sourceFloors.length = entity.sourceHighWater.length := by
      simp only [EntityState.stored, EntityState.storedFloors, List.length_map, length_sortBy]
    rw [isSome_listed, hLength]
    refine and_iff_left fun floor hMem => ?_
    obtain ⟨held, hHeld, rfl⟩ := mem_stored_floors.1 hMem
    obtain ⟨hSource, hBoot⟩ := h.floors held hHeld
    exact isSome_guard.2 (by rw [StoredSourceFloor.complete, hSource, hBoot]; rfl)
  have hHistory : (listed kMaxEntityGenerationsRetained some
      entity.stored.history).isSome = true ↔
        entity.history.length ≤ kMaxEntityGenerationsRetained := by
    rw [isSome_listed, EntityState.stored, List.length_map]
    exact and_iff_left fun _ _ => rfl
  have hId : entity.stored.id.isSet = true := h.id
  have hCurrent : entity.stored.currentGeneration ≠ 0 := hNumbered.current
  rw [StoredEntity.reread, if_pos hId, if_pos hCurrent,
    isSome_bind_const fun _ _ => isSome_bind_const fun _ _ => isSome_bind_const fun _ _ =>
      Iff.of_eq (congrArg (· = true) Option.isSome_map),
    hCapabilities, hClaims, hFloors, hHistory]
  constructor
  · rintro ⟨⟨hCount, hParses, hApart⟩, ⟨hEvidence, hValues⟩, hFloors, hHistory⟩
    exact ⟨hCount, hEvidence, hFloors, hHistory, hParses, hApart,
      fun entry hEntry record hRecord hStored =>
        (hValues entry hEntry record hRecord hStored).2⟩
  · intro hFits
    exact ⟨⟨hFits.capabilities, hFits.parses, hFits.apart⟩,
      ⟨hFits.evidence, fun entry hEntry record hRecord hStored =>
        ⟨hFits.parses entry hEntry, hFits.values entry hEntry record hRecord hStored⟩⟩,
      hFits.floors, hFits.history⟩

end Stored

/-! ## The registry -/

section Payload

variable {registry : Registry}

theorem length_storedRegistrations :
    registry.storedRegistrations.length = registry.publishers.countP (·.2.active) := by
  rw [Registry.storedRegistrations, length_sortBy, List.length_map,
    List.countP_eq_length_filter]

theorem mem_storedRegistrations {registration : StoredRegistration} :
    registration ∈ registry.storedRegistrations ↔
      ∃ held ∈ registry.publishers, held.2.active = true ∧
        { publisher := held.1.publisher, workerBoot := held.1.boot
          scope := held.2.registration.scope } = registration := by
  simp only [Registry.storedRegistrations, mem_sortBy, List.mem_map, List.mem_filter, and_assoc]

/-- The payload of a registry whose identifiers are set decodes exactly when the registry fits
the reader. -/
theorem reread_isSome_iff (h : registry.Identified)
    (hNumbered : ∀ entity ∈ registry.entities, entity.Numbered) :
    registry.payload.reread.isSome = true ↔ registry.FitsReader := by
  have hAuthorities : (listed kMaxStoredAuthorities AuthorityGrant.reread
      registry.payload.authorities).isSome = true ↔
        registry.authorities.length ≤ kMaxStoredAuthorities ∧
          ∀ grant ∈ registry.authorities, grant.FitsReader := by
    rw [isSome_listed, Registry.payload]
    simp only [length_sortBy, mem_sortBy]
    exact and_congr_right fun _ => forall₂_congr fun grant hMem =>
      (h.grants grant hMem).reread_isSome
  have hFences : (listed kMaxFencedWorkerBoots (Option.guard fun fence => fence.workerBoot.isSet)
      registry.payload.fences).isSome = true ↔
        registry.fences.length ≤ kMaxFencedWorkerBoots := by
    rw [isSome_listed, Registry.payload, Registry.storedFences]
    simp only [length_sortBy, List.length_map, mem_sortBy, List.mem_map]
    refine and_iff_left ?_
    rintro fence ⟨held, hHeld, rfl⟩
    exact isSome_guard.2 (h.fences held hHeld)
  have hRegistrations : (listed kMaxStoredRegistrations
      (Option.guard StoredRegistration.complete) registry.payload.registrations).isSome = true ↔
        registry.publishers.countP (·.2.active) ≤ kMaxStoredRegistrations := by
    rw [isSome_listed, Registry.payload, length_storedRegistrations]
    refine and_iff_left fun registration hMem => ?_
    obtain ⟨held, hHeld, hActive, rfl⟩ := mem_storedRegistrations.1 hMem
    obtain ⟨hBoot, hNamed⟩ := h.publishers held hHeld
    obtain ⟨hPublisher, hScope⟩ := hNamed hActive
    exact isSome_guard.2 (by rw [StoredRegistration.complete, hPublisher, hBoot, hScope]; rfl)
  have hEntities : (listed kMaxEntities StoredEntity.reread
      registry.payload.entities).isSome = true ↔ registry.entities.length ≤ kMaxEntities ∧
        ∀ entity ∈ registry.entities, entity.FitsReader := by
    rw [isSome_listed, Registry.payload]
    simp only [length_sortBy, List.length_map, List.forall_mem_map, mem_sortBy]
    exact and_congr_right fun _ => forall₂_congr fun entity hMem =>
      (h.entities entity hMem).reread_isSome (hNumbered entity hMem)
  rw [StorePayload.reread, isSome_bind_const fun _ _ => isSome_bind_const fun _ _ =>
      isSome_bind_const fun _ _ => Iff.of_eq (congrArg (· = true) Option.isSome_map),
    hAuthorities, hFences, hRegistrations, hEntities]
  constructor
  · rintro ⟨⟨hCount, hGrants⟩, hFenced, hActive, hEntityCount, hFits⟩
    exact ⟨hCount, hFenced, hActive, hEntityCount, hGrants, hFits⟩
  · intro hFits
    exact ⟨⟨hFits.authorities, hFits.grants⟩, hFits.fences, hFits.registrations,
      hFits.entityCount, hFits.entities⟩

end Payload

/-! ## Runs -/

/-- The report of `WriteStore` gives the size of the file. -/
theorem Store.writeStore_bytes {payload : StorePayload} {file : Bytes} {report : SaveReport}
    (h : Store.writeStore payload = .ok (file, report)) : report.bytes = file.length := by
  unfold Store.writeStore at h
  obtain ⟨body, -, h⟩ := outcome_bind_eq_ok.1 h
  obtain ⟨-, h⟩ := ite_failure_eq_ok.1 h
  cases h
  rfl

theorem load_accepts_iff (registry : Registry) (config : PersistenceConfig)
    (file : Option Bytes) :
    (∃ loaded, (load registry config file).2 = .ok loaded) ↔
      (Store.readStore config file).toOption.isSome = true := by
  unfold load
  cases Store.readStore config file with
  | error e => simp [Except.toOption]
  | ok read => simp [Except.toOption]

/-- What `Save` wrote after a run is loaded again exactly when the registry fits the reader and
the file is within the bound that `Save` applies to its payload alone. -/
theorem saved_readable_iff (options : Options) (operations : List Operation)
    (other : Registry) (config : PersistenceConfig) {file : Bytes} {report : SaveReport}
    (h : save (afterRun options operations) = .ok (file, report)) :
    (∃ loaded, (load other config (some file)).2 = .ok loaded) ↔
      (afterRun options operations).FitsReader ∧ report.bytes ≤ kMaxPersistenceBytes := by
  have hRead := Store.readStore_writeStore h config
  have hBytes := Store.writeStore_bytes h
  rw [load_accepts_iff, ← Option.isSome_map, hRead, hBytes,
    ← reread_isSome_iff (run_identified options operations) (numbered_run options operations)]
  by_cases hFile : file.length ≤ kMaxPersistenceBytes
  · rw [if_pos hFile, and_iff_left hFile]
  · rw [if_neg hFile]
    simp [hFile]

theorem setup_saved_and_loaded :
    ∃ file report, save (afterRun {} Sample.setup) = .ok (file, report) ∧
      ((∃ loaded, (load (Registry.init {}) Sample.config (some file)).2 = .ok loaded) ↔
        (afterRun {} Sample.setup).FitsReader ∧ report.bytes ≤ kMaxPersistenceBytes) := by
  obtain ⟨body, hBody⟩ := Store.encodePayload_total (afterRun {} Sample.setup).payload
  have hSmall : ∀ body ∈ (Store.encodePayload (afterRun {} Sample.setup).payload).toOption,
      body.length ≤ kMaxPersistenceBytes := by decide +kernel
  obtain ⟨report, hSave⟩ := Store.writeStore_of_encode hBody (hSmall body (by rw [hBody]; rfl))
  exact ⟨_, report, hSave, saved_readable_iff {} Sample.setup _ _ hSave⟩

end FabricCapability.Ports
