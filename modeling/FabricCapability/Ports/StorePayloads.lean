import FabricCapability.Ports.Runs
import FabricCapability.Ports.StoreRoundTrip

/-!
# Payloads that read back as they are

A payload is storable when its identifiers are set and parse again, its numbers are in the
ranges that the decoder accepts, its values survive the value codec, its lists are within
their bounds and the capabilities of an entity are in strict order.

Every payload can be encoded, since the texts of identifiers respect their bounds.  A
storable payload whose records fit the words before them decodes to itself.

## Main results

* `encodePayload_total`: the encoder never fails.
* `StorePayload.Storable.reread_eq`: the decoder keeps a storable payload.
* `decode_encode_storable`: the round trip.
-/

namespace FabricCapability.Ports

open FabricCapability.Verified.ByteCodec
open FabricCapability.Verified.StrictOrder

namespace Store

/-! ## The encoder never fails -/

theorem writeText_total {text : Bytes} {maxLength : Nat} (hLength : text.length ≤ maxLength)
    (hMax : maxLength < 2 ^ 32) : ∃ bs, writeText text maxLength = .ok bs :=
  ⟨_, writeText_eq_ok hMax hLength⟩

theorem writeToken_total {tag : TokenTag} (id : TokenId tag) {maxLength : Nat}
    (hTag : tag.maxLength ≤ maxLength) (hMax : maxLength < 2 ^ 32) :
    ∃ bs, writeText id.value maxLength = .ok bs :=
  writeText_total (Nat.le_trans id.length_le hTag) hMax

theorem writeCapabilityId_total (id : CapabilityId) :
    ∃ bs, writeText id.toText kMaxCapabilityIdLength = .ok bs :=
  writeText_total id.length_toText_le (by decide)

theorem writeList_total {α : Type} {write : α → Outcome Bytes} {xs : List α}
    (h : ∀ x ∈ xs, ∃ bs, write x = .ok bs) : ∃ bs, writeList write xs = .ok bs := by
  have hItems : ∃ bs, emit (xs.map write) = .ok bs := by
    refine emit_total fun field hMem => ?_
    obtain ⟨x, hX, rfl⟩ := List.mem_map.1 hMem
    exact h x hX
  refine emit_total ?_
  simp only [List.mem_cons, List.not_mem_nil, or_false, forall_eq_or_imp, forall_eq]
  exact ⟨⟨_, rfl⟩, hItems⟩

theorem writeClaim_total (claim : StoredClaim) : ∃ bs, writeClaim claim = .ok bs := by
  refine emit_total ?_
  simp only [List.mem_cons, List.not_mem_nil, or_false, forall_eq_or_imp, forall_eq]
  exact ⟨writeCapabilityId_total _, writeToken_total _ (by decide) (by decide),
    writeToken_total _ (by decide) (by decide), writeToken_total _ (by decide) (by decide),
    writeToken_total _ (by decide) (by decide), writeToken_total _ (by decide) (by decide),
    writeToken_total _ (by decide) (by decide), writeToken_total _ (by decide) (by decide),
    ⟨_, rfl⟩, ⟨_, rfl⟩, ⟨_, rfl⟩, ⟨_, rfl⟩, ⟨_, rfl⟩, ⟨_, rfl⟩, ⟨_, rfl⟩, ⟨_, rfl⟩, ⟨_, rfl⟩,
    ⟨_, rfl⟩, writeToken_total _ (by decide) (by decide),
    writeToken_total _ (by decide) (by decide), writeToken_total _ (by decide) (by decide)⟩

theorem writeCapability_total (capability : StoredCapability) :
    ∃ bs, writeCapability capability = .ok bs := by
  refine emit_total ?_
  simp only [List.mem_cons, List.not_mem_nil, or_false, forall_eq_or_imp, forall_eq]
  exact ⟨writeCapabilityId_total _, ⟨_, rfl⟩⟩

theorem writeSourceFloor_total (floor : StoredSourceFloor) :
    ∃ bs, writeSourceFloor floor = .ok bs := by
  refine emit_total ?_
  simp only [List.mem_cons, List.not_mem_nil, or_false, forall_eq_or_imp, forall_eq]
  exact ⟨writeToken_total _ (by decide) (by decide), writeToken_total _ (by decide) (by decide),
    ⟨_, rfl⟩⟩

theorem writeGeneration_total (generation : StoredGeneration) :
    ∃ bs, writeGeneration generation = .ok bs := by
  refine emit_total ?_
  simp only [List.mem_cons, List.not_mem_nil, or_false, forall_eq_or_imp, forall_eq]
  exact ⟨⟨_, rfl⟩, ⟨_, rfl⟩, ⟨_, rfl⟩, ⟨_, rfl⟩, ⟨_, rfl⟩, ⟨_, rfl⟩,
    writeToken_total _ (by decide) (by decide)⟩

theorem writeEntity_total (entity : StoredEntity) : ∃ bs, writeEntity entity = .ok bs := by
  refine emit_total ?_
  simp only [List.mem_cons, List.not_mem_nil, or_false, forall_eq_or_imp, forall_eq]
  exact ⟨writeText_total entity.id.length_toText_le (by decide), ⟨_, rfl⟩, ⟨_, rfl⟩, ⟨_, rfl⟩,
    ⟨_, rfl⟩, ⟨_, rfl⟩, writeToken_total _ (by decide) (by decide),
    writeList_total fun capability _ => writeCapability_total capability,
    writeList_total fun claim _ => writeClaim_total claim,
    writeList_total fun floor _ => writeSourceFloor_total floor,
    writeList_total fun generation _ => writeGeneration_total generation⟩

theorem writeGrant_total (grant : AuthorityGrant) : ∃ bs, writeGrant grant = .ok bs := by
  refine emit_total ?_
  simp only [List.mem_cons, List.not_mem_nil, or_false, forall_eq_or_imp, forall_eq]
  exact ⟨writeToken_total _ (by decide) (by decide), writeList_total fun _ _ => ⟨_, rfl⟩,
    writeList_total fun ns _ => writeText_total ns.length_le (by decide), ⟨_, rfl⟩, ⟨_, rfl⟩,
    ⟨_, rfl⟩, ⟨_, rfl⟩, ⟨_, rfl⟩, writeToken_total _ (by decide) (by decide),
    writeList_total fun publisher _ => writeToken_total publisher (by decide) (by decide)⟩

theorem writeFence_total (fence : StoredFence) : ∃ bs, writeFence fence = .ok bs := by
  refine emit_total ?_
  simp only [List.mem_cons, List.not_mem_nil, or_false, forall_eq_or_imp, forall_eq]
  exact ⟨writeToken_total _ (by decide) (by decide), writeToken_total _ (by decide) (by decide),
    writeToken_total _ (by decide) (by decide)⟩

theorem writeRegistration_total (registration : StoredRegistration) :
    ∃ bs, writeRegistration registration = .ok bs := by
  refine emit_total ?_
  simp only [List.mem_cons, List.not_mem_nil, or_false, forall_eq_or_imp, forall_eq]
  exact ⟨writeToken_total _ (by decide) (by decide), writeToken_total _ (by decide) (by decide),
    writeToken_total _ (by decide) (by decide)⟩

theorem writeRecords_total {α : Type} (type : UInt8) {write : α → Outcome Bytes}
    (h : ∀ x, ∃ bs, write x = .ok bs) (xs : List α) :
    ∃ out, emit (xs.map fun x => writeRecord type (write x)) = .ok out := by
  refine emit_total fun record hMem => ?_
  obtain ⟨x, -, rfl⟩ := List.mem_map.1 hMem
  obtain ⟨bs, hWritten⟩ := h x
  exact ⟨frame type bs, by rw [hWritten]; rfl⟩

/-- Whatever the payload, it can be encoded. -/
theorem encodePayload_total (payload : StorePayload) :
    ∃ body, encodePayload payload = .ok body := by
  refine emit_total ?_
  simp only [List.mem_cons, List.not_mem_nil, or_false, forall_eq_or_imp, forall_eq]
  exact ⟨⟨_, rfl⟩, writeRecords_total _ writeGrant_total _, writeRecords_total _ writeFence_total _,
    writeRecords_total _ writeRegistration_total _, writeRecords_total _ writeEntity_total _⟩

end Store

/-! ## What is storable -/

/-- The identifiers of a claim are set and parse again, and its value survives the codec. -/
structure StoredClaim.Storable (claim : StoredClaim) : Prop where
  capability : claim.capability.Reparses
  identified : claim.id.isSet = true ∧ claim.source.isSet = true ∧
    claim.publisher.isSet = true ∧ claim.scope.isSet = true ∧ claim.workerBoot.isSet = true ∧
    claim.attempt.isSet = true ∧ claim.publication.isSet = true
  value : CapabilityValue.decode claim.value.encode = .ok (claim.value, [])

structure StoredEntity.Storable (entity : StoredEntity) : Prop where
  identified : entity.id.isSet = true
  generation : entity.currentGeneration ≠ 0
  capabilities : ∀ capability ∈ entity.capabilities, capability.id.Reparses
  ordered : entity.capabilities.Pairwise fun a b => a.id.lt b.id = true
  claims : ∀ claim ∈ entity.claims, claim.Storable
  sourceFloors : ∀ floor ∈ entity.sourceFloors,
    floor.source.isSet = true ∧ floor.workerBoot.isSet = true
  bounded : entity.capabilities.length ≤ kMaxCapabilitiesPerEntity ∧
    entity.claims.length ≤ kMaxEvidencePerEntity ∧
    entity.sourceFloors.length ≤ kMaxEvidencePerEntity ∧
    entity.history.length ≤ kMaxEntityGenerationsRetained

structure AuthorityGrant.Storable (grant : AuthorityGrant) : Prop where
  scope : grant.scope.isSet = true
  entityKinds : ∀ kind ∈ grant.entityKinds, kind ≠ .unknown
  namespaces : ∀ ns ∈ grant.namespaces, ns.isSet = true
  allowedPublishers : ∀ publisher ∈ grant.allowedPublishers, publisher.isSet = true
  maxClaims : grant.maxClaimsPerPublication ≤ kMaxClaimsPerPublication
  bounded : grant.entityKinds.length ≤ kMaxAuthorityEntityKinds ∧
    grant.namespaces.length ≤ kMaxAuthorityNamespaces ∧
    grant.allowedPublishers.length ≤ kMaxAllowedPublishers

structure StorePayload.Storable (payload : StorePayload) : Prop where
  authorities : ∀ grant ∈ payload.authorities, grant.Storable
  fences : ∀ fence ∈ payload.fences, fence.workerBoot.isSet = true
  registrations : ∀ registration ∈ payload.registrations, registration.publisher.isSet = true ∧
    registration.workerBoot.isSet = true ∧ registration.scope.isSet = true
  entities : ∀ entity ∈ payload.entities, entity.Storable
  bounded : payload.authorities.length ≤ kMaxStoredAuthorities ∧
    payload.fences.length ≤ kMaxFencedWorkerBoots ∧
    payload.registrations.length ≤ kMaxStoredRegistrations ∧
    payload.entities.length ≤ kMaxEntities

/-! ## What the decoder keeps -/

theorem listed_self {α : Type} {bound : Nat} {reread : α → Option α} {xs : List α}
    (hBound : xs.length ≤ bound) (h : ∀ x ∈ xs, reread x = some x) :
    listed bound reread xs = some xs := by
  rw [listed_eq_some, and_iff_right hBound]
  clear hBound
  induction xs with
  | nil => rfl
  | cons x xs ih =>
      rw [mapM_cons_eq_some]
      exact ⟨x, xs, h x (List.mem_cons_self ..), ih fun y hMem => h y (List.mem_cons_of_mem _ hMem),
        rfl⟩

theorem guard_self {α : Type} {pass : α → Bool} {x : α} (h : pass x = true) :
    Option.guard pass x = some x := by
  rw [Option.guard, if_pos h]

/-- A value that survives the codec is one that the decoder accepts. -/
theorem decodable_of_decode {value : CapabilityValue}
    (h : CapabilityValue.decode value.encode = .ok (value, [])) : value.decodable = true := by
  have hDecodes := value.decodes
  by_contra hNot
  rw [if_neg hNot] at hDecodes
  obtain ⟨e, hFails⟩ := hDecodes []
  rw [List.append_nil, h] at hFails
  cases hFails

theorem StoredClaim.Storable.reread_eq {claim : StoredClaim} (h : claim.Storable) :
    claim.reread = some claim := by
  have hComplete : claim.complete = true := by
    obtain ⟨hId, hSource, hPublisher, hScope, hBoot, hAttempt, hPublication⟩ := h.identified
    unfold StoredClaim.complete
    rw [hId, hSource, hPublisher, hScope, hBoot, hAttempt, hPublication,
      decodable_of_decode h.value]
    rfl
  have hCapability : CapabilityId.parse claim.capability.toText = .ok claim.capability :=
    h.capability
  rw [StoredClaim.reread, hCapability]
  exact if_pos hComplete

/-- Capabilities in strict order are already sorted, and no two neighbours are the same. -/
theorem checkCapabilities_ordered {capabilities : List StoredCapability}
    (h : capabilities.Pairwise fun a b => a.id.lt b.id = true) :
    Store.checkCapabilities capabilities = .ok capabilities := by
  have hOrder : StrictTotal bytesLt := bytesLt_total
  have hSorted : sortBy (fun a b : StoredCapability => a.id.lt b.id) capabilities =
      capabilities := sortBy_eq_self (h.imp fun hLess => hOrder.asymm hLess)
  have hApart : (capabilities.zip capabilities.tail).find?
      (fun pair => pair.1.id = pair.2.id) = none := by
    rw [List.find?_eq_none]
    clear hSorted
    induction capabilities with
    | nil => exact fun _ hMem => by cases hMem
    | cons first rest ih =>
        cases rest with
        | nil => exact fun _ hMem => by cases hMem
        | cons second rest =>
            obtain ⟨hFirst, hRest⟩ := List.pairwise_cons.1 h
            intro pair hMem
            rcases List.mem_cons.1 hMem with rfl | hMem
            · have hLess := hFirst second (List.mem_cons_self ..)
              rw [decide_eq_true_eq]
              intro hSame
              dsimp only at hSame
              rw [hSame] at hLess
              exact absurd (hLess.symm.trans (hOrder.irrefl _)) nofun
            · exact ih hRest pair hMem
  unfold Store.checkCapabilities
  dsimp only
  rw [hSorted, hApart]

theorem StoredEntity.Storable.reread_eq {entity : StoredEntity} (h : entity.Storable) :
    entity.reread = some entity := by
  obtain ⟨hCapabilities, hClaims, hFloors, hHistory⟩ := h.bounded
  have hIds : ∀ capability ∈ entity.capabilities,
      StoredCapability.reread capability = some capability := by
    intro capability hMem
    have hId : CapabilityId.parse capability.id.toText = .ok capability.id :=
      h.capabilities capability hMem
    rw [StoredCapability.reread, hId]
    rfl
  have hRead : rereadCapabilities entity.capabilities = some entity.capabilities := by
    rw [rereadCapabilities, listed_self hCapabilities hIds, Option.bind_some,
      checkCapabilities_ordered h.ordered]
    rfl
  have hFloor : ∀ floor ∈ entity.sourceFloors,
      Option.guard StoredSourceFloor.complete floor = some floor := by
    intro floor hMem
    obtain ⟨hSource, hBoot⟩ := h.sourceFloors floor hMem
    exact guard_self (by rw [StoredSourceFloor.complete, hSource, hBoot]; rfl)
  rw [StoredEntity.reread, if_pos h.identified, if_pos h.generation, hRead, Option.bind_some,
    listed_self hClaims fun claim hMem => (h.claims claim hMem).reread_eq, Option.bind_some,
    listed_self hFloors hFloor, Option.bind_some, listed_self hHistory fun _ _ => rfl]
  rfl

theorem AuthorityGrant.Storable.reread_eq {grant : AuthorityGrant} (h : grant.Storable) :
    grant.reread = some grant := by
  obtain ⟨hKinds, hNamespaces, hPublishers⟩ := h.bounded
  have hKnown : ∀ kind ∈ grant.entityKinds, kind ∈ entityKindNames := by
    intro kind hMem
    have hKind := h.entityKinds kind hMem
    revert hKind
    cases kind <;> decide
  have hWord : grant.maxClaimsPerPublication % 2 ^ 32 = grant.maxClaimsPerPublication := by
    have hClaims := h.maxClaims
    unfold kMaxClaimsPerPublication at hClaims
    exact Nat.mod_eq_of_lt (by omega)
  have hReadable : grant.readable = true := by
    unfold AuthorityGrant.readable within
    simp only [Bool.and_eq_true, decide_eq_true_eq, List.all_eq_true]
    exact ⟨h.scope, ⟨hKinds, hKnown⟩, ⟨hNamespaces, h.namespaces⟩,
      Nat.le_trans (Nat.mod_le _ _) h.maxClaims, hPublishers, h.allowedPublishers⟩
  rw [AuthorityGrant.reread, if_pos hReadable, hWord]

theorem StorePayload.Storable.reread_eq {payload : StorePayload} (h : payload.Storable) :
    payload.reread = some payload := by
  obtain ⟨hAuthorities, hFences, hRegistrations, hEntities⟩ := h.bounded
  have hRegistration : ∀ registration ∈ payload.registrations,
      Option.guard StoredRegistration.complete registration = some registration := by
    intro registration hMem
    obtain ⟨hPublisher, hBoot, hScope⟩ := h.registrations registration hMem
    exact guard_self (by rw [StoredRegistration.complete, hPublisher, hBoot, hScope]; rfl)
  rw [StorePayload.reread,
    listed_self hAuthorities fun grant hMem => (h.authorities grant hMem).reread_eq,
    Option.bind_some, listed_self hFences fun fence hMem => guard_self (h.fences fence hMem),
    Option.bind_some, listed_self hRegistrations hRegistration, Option.bind_some,
    listed_self hEntities fun entity hMem => (h.entities entity hMem).reread_eq]
  rfl

/-- A storable payload whose records fit their lengths is written, and decodes to itself. -/
theorem decode_encode_storable {payload : StorePayload} (h : payload.Storable)
    (hFits : Store.RecordsFit payload) :
    ∃ body, Store.encodePayload payload = .ok body ∧ Store.decodePayload body = .ok payload := by
  obtain ⟨body, hBody⟩ := Store.encodePayload_total payload
  have hRead := Store.decodePayload_records hBody hFits
  rw [h.reread_eq] at hRead
  refine ⟨body, hBody, ?_⟩
  cases hDecoded : Store.decodePayload body with
  | error e =>
      rw [hDecoded] at hRead
      cases hRead
  | ok decoded =>
      rw [hDecoded] at hRead
      cases hRead
      rfl

/-! ### A record of each kind -/

namespace Sample

def storedEntity : StoredEntity where
  id := entity
  currentGeneration := 2
  boundGeneration := 2
  hasSet := true
  setGeneration := 3
  invalidated := false
  invalidationReason := .unset
  capabilities := [{ id := capability, generation := 4 }]
  claims :=
    [{ capability
       id := token _ "0123456789abcdef0123456789abcdef"
       source := source
       publisher := publisher
       scope := scope
       workerBoot := bootOne
       epoch := 1
       sourceGeneration := 1
       evidenceGeneration := 1
       attempt := token _ "attempt-1"
       publication := token _ "attempt-1"
       provenance := .directDeviceOrOsApi
       sourceClass := .driverApi
       durability := .processBound
       coverage := .partialSurface
       state := .supported
       value := .boolean true
       firmwareVersion := token _ "1.2.0"
       driverVersion := .unset
       reason := token _ "probed"
       currentness := .current }]
  sourceFloors := [{ source := source, workerBoot := bootOne, generation := 1 }]
  history :=
    [{ generation := 1
       setGeneration := 1
       digest := computeDigest []
       capabilityCount := 1
       supportedCount := 1
       retiredAt := 2
       reason := token _ "replaced" }]

def storedPayload : StorePayload where
  epoch := 1
  registryGeneration := 5
  authorities := [grant]
  fences := [{ workerBoot := bootTwo, publisher := .unset, reason := token _ "stopped" }]
  registrations := [{ publisher := publisher, workerBoot := bootOne, scope := scope }]
  entities := [storedEntity]

end Sample

theorem sample_payload_reads_back :
    ∃ body, Store.encodePayload Sample.storedPayload = .ok body ∧
      Store.decodePayload body = .ok Sample.storedPayload := by
  refine decode_encode_storable ⟨?_, by decide, by decide, ?_, by decide⟩
    ⟨by decide +kernel, by decide +kernel, by decide +kernel, by decide +kernel⟩
  · intro held hMem
    rw [List.mem_singleton.1 hMem]
    exact ⟨by decide, by decide, by decide, by decide, by decide, by decide⟩
  · intro held hMem
    rw [List.mem_singleton.1 hMem]
    refine ⟨by decide, by decide, ?_, by decide, ?_, by decide, by decide⟩
    · intro held hMem
      rw [List.mem_singleton.1 hMem]
      show CapabilityId.parse _ = .ok _
      decide +kernel
    · intro claim hMem
      rw [List.mem_singleton.1 hMem]
      refine ⟨?_, by decide, by decide +kernel⟩
      show CapabilityId.parse _ = .ok _
      decide +kernel

end FabricCapability.Ports
