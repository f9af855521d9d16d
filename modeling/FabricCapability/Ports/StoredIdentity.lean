import FabricCapability.Ports.FenceEffect
import FabricCapability.Ports.IndexCoherence
import FabricCapability.Ports.StoreReports

/-!
# Identifiers in the registry and in its stores

`Save` writes identifiers as texts, and `ReadStore` refuses a text that is not one.  Here the
identifiers of the registry are followed through the operations: a grant that
`DeclareAuthority` admits, a boot that is fenced, a publication that stage 1 lets pass and a
record that the reader of the store accepts all have theirs set.

## Main results

* `readEntity_yields`, `readGrant_yields`: what the reader has checked of what it returns.
* `run_identified`: the registry holds set identifiers only, in every run.
-/

namespace FabricCapability.Ports

open FabricCapability.Verified.ByteCodec
open FabricCapability.Verified.KeyedList
open FabricCapability.Verified.Runs

/-! ## Set identifiers -/

/-- What `validateGrant` and the reader of the store both ask of a grant. -/
structure AuthorityGrant.Admissible (grant : AuthorityGrant) : Prop where
  scope : grant.scope.isSet = true
  namespaces : ∀ ns ∈ grant.namespaces, ns.isSet = true
  maxClaims : grant.maxClaimsPerPublication ≤ kMaxClaimsPerPublication
  entityKinds : grant.entityKinds.length ≤ kMaxAuthorityEntityKinds
  namespaceCount : grant.namespaces.length ≤ kMaxAuthorityNamespaces
  allowedPublishers : grant.allowedPublishers.length ≤ kMaxAllowedPublishers

structure EvidenceRecord.Identified (record : EvidenceRecord) : Prop where
  id : record.id.isSet = true
  source : record.source.isSet = true
  publisher : record.publisher.isSet = true
  scope : record.scope.isSet = true
  workerBoot : record.workerBoot.isSet = true
  attempt : record.attempt.isSet = true
  publication : record.publication.isSet = true

/-- Every record of the entry is identified. -/
def CapabilityEntry.Identified (entry : CapabilityEntry) : Prop :=
  ∀ record ∈ entry.evidence, record.Identified

structure EntityState.Identified (entity : EntityState) : Prop where
  id : entity.id.isSet = true
  floors : ∀ floor ∈ entity.sourceHighWater,
    floor.1.source.isSet = true ∧ floor.1.boot.isSet = true
  entries : AllEntries CapabilityEntry.Identified entity

/-- A registration that is active has its identifiers; one that `Load` restored is not active. -/
def ActiveIdentified (held : PublisherKey × PublisherRuntime) : Prop :=
  held.1.boot.isSet = true ∧ (held.2.active = true →
    held.1.publisher.isSet = true ∧ held.2.registration.scope.isSet = true)

structure Registry.Identified (registry : Registry) : Prop where
  grants : ∀ grant ∈ registry.authorities, grant.Admissible
  fences : ∀ fence ∈ registry.fences, fence.workerBoot.isSet = true
  publishers : ∀ held ∈ registry.publishers, ActiveIdentified held
  entities : ∀ entity ∈ registry.entities, entity.Identified

/-! ## What the reader yields -/

namespace Store

/-- A list that is read is within its bound. -/
theorem readList_yields {α : Type} {rd : ByteReader α} {P : α → Prop} (bound : Nat)
    (message : Bytes) (h : Yields rd P) :
    Yields (readList bound message rd) fun as => as.length ≤ bound ∧ ∀ a ∈ as, P a := by
  have hCount : Yields (readStoredCount bound message) (· ≤ bound) :=
    Yields.skip fun count => Yields.checked fun hWithin => Yields.pure (Nat.not_lt.1 hWithin)
  refine Yields.bind hCount fun count hWithin => ?_
  intro bs as rest hRead
  obtain ⟨hLength, hAll⟩ := h.times count _ _ _ hRead
  exact ⟨hLength.trans_le hWithin, hAll⟩

theorem readToken_yields (tag : TokenTag) (maxLength : Nat) :
    Yields (readToken tag maxLength) (·.isSet = true) := by
  refine Yields.skip fun text => Yields.accept fun id hParse => ?_
  obtain ⟨hValid, hText⟩ := TokenId.parse_eq_ok.1 hParse
  have hLength := (validateToken_inv hValid).1
  have hLeast := tag.one_le_minLength
  have hNonempty : id.value ≠ [] := by
    intro hNil
    rw [← hText, hNil] at hLength
    simp only [List.length_nil] at hLength
    omega
  simpa [TokenId.isSet] using hNonempty

/-- The identifiers of a stored claim. -/
structure StoredClaim.Identified (claim : StoredClaim) : Prop where
  id : claim.id.isSet = true
  source : claim.source.isSet = true
  publisher : claim.publisher.isSet = true
  scope : claim.scope.isSet = true
  workerBoot : claim.workerBoot.isSet = true
  attempt : claim.attempt.isSet = true
  publication : claim.publication.isSet = true

theorem readClaim_yields : Yields readClaim StoredClaim.Identified := by
  refine Yields.skip fun capability => ?_
  refine Yields.bind (readToken_yields _ _) fun id hId => ?_
  refine Yields.bind (readToken_yields _ _) fun source hSource => ?_
  refine Yields.bind (readToken_yields _ _) fun publisher hPublisher => ?_
  refine Yields.bind (readToken_yields _ _) fun scope hScope => ?_
  refine Yields.bind (readToken_yields _ _) fun workerBoot hBoot => ?_
  refine Yields.bind (readToken_yields _ _) fun attempt hAttempt => ?_
  refine Yields.bind (readToken_yields _ _) fun publication hPublication => ?_
  iterate 13 refine Yields.skip fun _ => ?_
  exact Yields.pure ⟨hId, hSource, hPublisher, hScope, hBoot, hAttempt, hPublication⟩

/-- What the reader has checked of an entity. -/
structure ReadEntity (entity : StoredEntity) : Prop where
  claims : ∀ claim ∈ entity.claims, StoredClaim.Identified claim
  floors : ∀ floor ∈ entity.sourceFloors,
    floor.source.isSet = true ∧ floor.workerBoot.isSet = true

theorem readEntity_yields : Yields readEntity ReadEntity := by
  have hFloor : Yields readSourceFloor fun floor =>
      floor.source.isSet = true ∧ floor.workerBoot.isSet = true := by
    refine Yields.bind (readToken_yields _ _) fun source hSource => ?_
    refine Yields.bind (readToken_yields _ _) fun boot hBoot => ?_
    exact Yields.skip fun _ => Yields.pure ⟨hSource, hBoot⟩
  iterate 8 refine Yields.skip fun _ => ?_
  refine Yields.bind (readList_yields _ _ readClaim_yields) fun claims hClaims => ?_
  refine Yields.bind (readList_yields _ _ hFloor) fun floors hFloors => ?_
  exact Yields.skip fun _ => Yields.pure ⟨hClaims.2, hFloors.2⟩

theorem readGrant_yields : Yields readGrant AuthorityGrant.Admissible := by
  have hNamespace : Yields readNamespace (·.isSet = true) := by
    refine Yields.skip fun text => Yields.accept fun ns hParse => ?_
    obtain ⟨hValid, hText⟩ := CapabilityNamespaceId.parse_eq_ok.1 hParse
    by_contra hUnset
    have hEmpty : text = [] := by
      rw [← hText]
      simpa [CapabilityNamespaceId.isSet] using hUnset
    rw [hEmpty] at hValid
    exact absurd hValid (by decide)
  have hMaxClaims : Yields readMaxClaims (· ≤ kMaxClaimsPerPublication) :=
    Yields.skip fun count => Yields.checked fun hWithin => Yields.pure (Nat.not_lt.1 hWithin)
  refine Yields.bind (readToken_yields _ _) fun scope hScope => ?_
  refine Yields.bind (readList_yields _ _ (.any _)) fun kinds hKinds => ?_
  refine Yields.bind (readList_yields _ _ hNamespace) fun namespaces hNamespaces => ?_
  iterate 4 refine Yields.skip fun _ => ?_
  refine Yields.bind hMaxClaims fun maxClaims hMaxClaims => ?_
  refine Yields.skip fun _ => ?_
  refine Yields.bind (readList_yields _ _ (.any _)) fun allowed hAllowed => ?_
  exact Yields.pure ⟨hScope, hNamespaces.2, hMaxClaims, hKinds.1, hNamespaces.1, hAllowed.1⟩

/-- What a reader yields holds of all that is read from the records of a file. -/
theorem forall_yielded {α : Type} {rd : ByteReader α} {P : α → Prop} {bodies : List Bytes}
    {held : List α} (hYields : Yields rd P)
    (h : List.Forall₂ (fun body a => frontField rd body = some a) bodies held) :
    ∀ a ∈ held, P a := by
  induction h with
  | nil => exact nofun
  | cons hFirst _ ih =>
      obtain ⟨rest, hRead⟩ := frontField_eq_some.1 hFirst
      exact List.forall_mem_cons.2 ⟨hYields _ _ _ hRead, ih⟩

end Store

/-! ## Publications -/

theorem isHexDigit_hexDigit (byte : UInt8) :
    (isHexDigit (hexDigit (byte >>> 4)) && isHexDigit (hexDigit (byte &&& 0x0F))) = true :=
  forall_byte (p := fun byte =>
    isHexDigit (hexDigit (byte >>> 4)) && isHexDigit (hexDigit (byte &&& 0x0F)))
    (by decide +kernel) byte

theorem renderDigest_hex (bytes : Bytes) : ∀ ch ∈ renderDigest bytes, isHexDigit ch = true := by
  intro ch hMem
  obtain ⟨byte, -, hMem⟩ := List.mem_flatMap.1 hMem
  have hDigits := isHexDigit_hexDigit byte
  rw [Bool.and_eq_true] at hDigits
  simp only [List.mem_cons, List.not_mem_nil, or_false] at hMem
  rcases hMem with rfl | rfl
  · exact hDigits.1
  · exact hDigits.2

theorem length_renderDigest (bytes : Bytes) : (renderDigest bytes).length = 2 * bytes.length := by
  induction bytes with
  | nil => rfl
  | cons byte bytes ih =>
      rw [renderDigest, List.flatMap_cons, ← renderDigest, List.length_append, ih]
      simp only [List.length_cons, List.length_nil]
      omega

theorem hex_not_dash {ch : UInt8} (h : isHexDigit ch = true) : (ch == dash) = false := by
  cases hDash : ch == dash with
  | false => rfl
  | true =>
      rw [beq_iff_eq.1 hDash] at h
      exact absurd h (by decide)

theorem scanHexToken_digits {what text : Bytes} {previous : Bool}
    (h : ∀ ch ∈ text, isHexDigit ch = true) : scanHexToken what previous text = .ok () := by
  induction text generalizing previous with
  | nil => rfl
  | cons ch text ih =>
      obtain ⟨hFirst, hRest⟩ := List.forall_mem_cons.1 h
      rw [scanHexToken, hFirst, hex_not_dash hFirst]
      exact ih hRest

/-- An identifier that is made of a digest is set. -/
theorem makeEvidenceId_isSet (publisher : PublisherId) (boot : WorkerBootId)
    (attempt : MutationAttemptId) (entity : EntityId) (entityGeneration : EntityGeneration)
    (capability : CapabilityId) (evidenceGeneration : UInt64) :
    (makeEvidenceId publisher boot attempt entity entityGeneration capability
      evidenceGeneration).isSet = true := by
  unfold makeEvidenceId
  generalize computeDigest _ = digest
  have hLength : digest.shortString.length = 32 := by
    rw [Digest.shortString, length_renderDigest, List.length_take, digest.size]
    rfl
  have hHex : ∀ ch ∈ digest.shortString, isHexDigit ch = true := renderDigest_hex _
  obtain ⟨front, rest, hText⟩ := List.exists_cons_of_length_eq_add_one hLength
  have hFront : digest.shortString.headD 0 ∈ digest.shortString := by
    rw [hText]
    exact List.mem_cons_self ..
  have hBack : digest.shortString.getLastD 0 ∈ digest.shortString := by
    rw [hText, List.getLastD_cons]
    exact List.getLastD_mem_cons ..
  have hValid : TokenTag.evidenceId.validate digest.shortString = .ok () := by
    rw [TokenTag.validate, validateToken, hLength]
    show (if digest.shortString.headD 0 == dash || digest.shortString.getLastD 0 == dash then _
      else scanHexToken _ false digest.shortString) = _
    rw [hex_not_dash (hHex _ hFront), hex_not_dash (hHex _ hBack)]
    exact scanHexToken_digits hHex
  cases hParse : (TokenId.parse digest.shortString : Outcome EvidenceId) with
  | error e =>
      unfold TokenId.parse at hParse
      split at hParse
      · cases hParse
      · rename_i hInvalid
        rw [hValid] at hInvalid
        cases hInvalid
  | ok id =>
      rw [digestToken, TokenId.parseOrUnset, hParse]
      show id.isSet = true
      rw [TokenId.isSet, (TokenId.parse_eq_ok.1 hParse).2, hText]
      rfl

/-- The identifiers that stage 1 requires of a publication. -/
structure PublicationRequest.Identified (request : PublicationRequest) : Prop where
  entity : request.entity.isSet = true
  source : request.authority.source.isSet = true
  publisher : request.authority.publisher.isSet = true
  scope : request.authority.scope.isSet = true
  workerBoot : request.authority.workerBoot.isSet = true
  attempt : request.attempt.isSet = true
  publication : request.publication.isSet = true

theorem checkShape_identified {request : PublicationRequest}
    (h : checkShape request = .ok ()) : request.Identified := by
  unfold checkShape at h
  obtain ⟨hPublication, h⟩ := ite_failure_eq_ok.1 h
  obtain ⟨hAttempt, h⟩ := ite_failure_eq_ok.1 h
  obtain ⟨hEntity, h⟩ := ite_failure_eq_ok.1 h
  obtain ⟨-, h⟩ := ite_failure_eq_ok.1 h
  obtain ⟨hIds, -⟩ := ite_failure_eq_ok.1 h
  simp only [Bool.or_eq_true, Bool.not_eq_true', not_or, Bool.not_eq_false] at hIds
  exact ⟨by simpa using hEntity, hIds.2, hIds.1.1.1, hIds.1.2, hIds.1.1.2, by simpa using hAttempt,
    by simpa using hPublication⟩

section Entries

variable {registry : Registry} {request : PublicationRequest}

theorem CapabilityEntry.Identified.relabel {entry : CapabilityEntry} (h : entry.Identified)
    {matching : EvidenceRecord → Bool} {currentness : EvidenceCurrentness}
    {reason : ReasonToken} :
    ∀ record ∈ relabel matching currentness reason entry.evidence, record.Identified := by
  intro record hMem
  obtain ⟨held, hHeld, rfl | rfl⟩ := mem_relabel hMem
  · exact h record hHeld
  · have hIds := h held hHeld
    exact ⟨hIds.id, hIds.source, hIds.publisher, hIds.scope, hIds.workerBoot, hIds.attempt,
      hIds.publication⟩

theorem newRecord_identified (hRequest : request.Identified) (cell : Cell)
    (claim : CapabilityClaim) (coverage : Coverage) (generation : EvidenceGeneration) :
    (newRecord registry request cell claim coverage generation).Identified := by
  unfold newRecord
  constructor
  · dsimp only
    exact makeEvidenceId_isSet ..
  · exact hRequest.source
  · exact hRequest.publisher
  · exact hRequest.scope
  · exact hRequest.workerBoot
  · exact hRequest.attempt
  · exact hRequest.publication

/-- Stage 10 keeps the records of an entry and appends one of the publication. -/
theorem EntryChange.identified (hRequest : request.Identified) {cell : Cell} {step : ApplyStep}
    {ok : Bool} {entry later : CapabilityEntry}
    (h : EntryChange registry request cell step ok entry later) (hEntry : entry.Identified) :
    later.Identified := by
  have hAppended : ∀ (claim : CapabilityClaim) coverage, ∀ record ∈
      retainedEvidence registry request entry ++
        [appendedRecord registry request cell claim coverage entry], record.Identified := by
    intro claim coverage record hMem
    rcases List.mem_append.1 hMem with hMem | hMem
    · exact hEntry.relabel record ((trimEvidence_sublist _ _).subset hMem)
    · rw [List.mem_singleton.1 hMem]
      exact newRecord_identified hRequest ..
  cases h with
  | superseded _ _ => exact hEntry.relabel
  | withdrawn _ _ => exact hEntry.relabel
  | unwithdrawn _ => exact hEntry.relabel
  | trimmed => exact fun record hMem => hEntry.relabel record ((trimEvidence_sublist _ _).subset hMem)
  | unapplied _ => exact hAppended _ _
  | applied _ => exact hAppended _ _

theorem EntityState.Identified.congr {a b : EntityState} (h : a.Identified) (hId : b.id = a.id)
    (hFloors : b.sourceHighWater = a.sourceHighWater) (hEntries : b.capabilities = a.capabilities) :
    b.Identified :=
  ⟨hId ▸ h.id, hFloors ▸ h.floors, fun entry hMem => h.entries entry (hEntries ▸ hMem)⟩

theorem EntityState.Identified.of_empty {entity : EntityState} (hId : entity.id.isSet = true)
    (hFloors : entity.sourceHighWater = []) (hEntries : entity.capabilities = []) :
    entity.Identified := by
  refine ⟨hId, ?_, ?_⟩
  · simp [hFloors]
  · simp [AllEntries, hEntries]

theorem runSteps_identified (hRequest : request.Identified) {cell : Cell}
    (h : cell.entity.Identified) (steps : List ApplyStep) :
    (runSteps registry request cell steps).1.entity.Identified := by
  have hSame := runSteps_entity registry request steps cell
  have hGrows : EntriesGrow (fun entry later => entry.Identified → later.Identified) cell.entity
      (runSteps registry request cell steps).1.entity :=
    runSteps_grows (fun _ => id) (fun _ _ _ hab hbc => hbc ∘ hab)
      fun _ _ _ _ _ _ _ hChange => hChange.identified hRequest
  have hFloors := congrArg EntityState.sourceHighWater hSame
  dsimp only at hFloors
  refine ⟨hSame.id_eq ▸ h.id, hFloors ▸ h.floors, ?_⟩
  exact hGrows.invariant (fun _ _ hMem => by cases hMem) h.entries

theorem committedEntity_identified (hRequest : request.Identified)
    (registryGeneration : RegistryGeneration) {entity : EntityState} (h : entity.Identified) :
    (committedEntity registryGeneration entity request).Identified := by
  refine ⟨h.id, fun floor hMem => ?_, h.entries⟩
  rcases mem_upsert hMem with rfl | hMem
  · exact ⟨hRequest.source, hRequest.workerBoot⟩
  · exact h.floors floor hMem

end Entries

/-- Every entity of the registry is identified. -/
def Registry.AllIdentified (registry : Registry) : Prop :=
  ∀ entity ∈ registry.entities, entity.Identified

section Registry

variable {registry : Registry}

theorem Registry.AllIdentified.setEntity (h : registry.AllIdentified) {later : EntityState}
    (hLater : later.Identified) : (registry.setEntity later).AllIdentified := by
  intro entity hMem
  rcases mem_upsert hMem with rfl | hMem
  · exact hLater
  · exact h entity hMem

theorem Registry.AllIdentified.append (h : registry.AllIdentified) {id : EntityId}
    (hId : id.isSet = true) (registryGeneration : RegistryGeneration)
    (generation : EntityGeneration) :
    ({ registry with entities :=
      registry.entities ++ [newEntity registryGeneration id generation] } :
        Registry).AllIdentified := by
  intro entity hMem
  rcases List.mem_append.1 hMem with hMem | hMem
  · exact h entity hMem
  · rw [List.mem_singleton.1 hMem]
    exact EntityState.Identified.of_empty hId rfl rfl

theorem Registry.AllIdentified.find (h : registry.AllIdentified) {id : EntityId}
    {held : EntityState} (hFound : registry.findEntity id = some held) : held.Identified :=
  h held (lookup_mem hFound)

theorem bindGeneration_identified (h : registry.AllIdentified) {request : PublicationRequest}
    {held : EntityState} (hHeld : held.Identified) :
    (bindGeneration registry request held).1.AllIdentified := by
  unfold bindGeneration
  split
  · exact h
  · split
    · dsimp only
      split
      · exact h.setEntity (EntityState.Identified.of_empty hHeld.id rfl rfl)
      · exact @Registry.AllIdentified.setEntity { registry with .. } h _
          (EntityState.Identified.of_empty hHeld.id rfl rfl)
    · exact h

theorem bindEntity_identified (h : registry.AllIdentified) {request : PublicationRequest}
    (hRequest : request.Identified) : (bindEntity registry request).1.AllIdentified := by
  unfold bindEntity
  split
  · rename_i held hFound
    exact bindGeneration_identified h (h.find hFound)
  · split
    · exact h
    · exact bindGeneration_identified (h.append hRequest.entity _ _)
        (EntityState.Identified.of_empty hRequest.entity rfl rfl)

theorem commit_identified (h : registry.AllIdentified) {request : PublicationRequest}
    (hRequest : request.Identified) {before : Option EntityCapabilitySet} {entity : EntityState}
    (hEntity : entity.Identified) (steps : List ApplyStep) (contentDigest : Bytes) :
    (commit registry request before entity steps contentDigest).1.AllIdentified := by
  cases hCommit : commit registry request before entity steps contentDigest with
  | mk after outcome =>
      cases outcome with
      | ok result =>
          obtain ⟨advanced, next, hAdvance, -, rfl⟩ := commit_ok hCommit
          obtain ⟨hRegistry, hNext, -, -⟩ := advanceGenerations_ok hAdvance
          have hAdvanced : advanced.AllIdentified := by
            rw [hRegistry]
            exact h
          have hLater : next.Identified := by
            rw [hNext]
            exact hEntity.congr rfl rfl rfl
          have hReplay : (advanced.registerReplay request.publisherKey
              { attempt := request.attempt, publication := request.publication,
                contentDigest }).AllIdentified := hAdvanced
          exact hReplay.setEntity (committedEntity_identified hRequest _ hLater)
      | error e =>
          have hFailed := commit_error hCommit
          unfold advanceGenerations at hFailed
          split at hFailed
          · split at hFailed
            · cases hFailed
              exact h
            · dsimp only at hFailed
              split at hFailed
              · cases hFailed
                exact h.setEntity (hEntity.congr rfl rfl rfl)
              · cases hFailed
          · cases hFailed

theorem publish_identified (h : registry.AllIdentified) (request : PublicationRequest) :
    (publish registry request).1.AllIdentified := by
  have hIds : ∀ {runtime grant}, validateRequest registry request = .ok (runtime, grant) →
      request.Identified := fun hValid => checkShape_identified (validateRequest_ok hValid).shape
  refine publish_preserves (fun _ _ hAll => hAll)
    (fun _ _ hValid => bindEntity_identified h (hIds hValid)) ?_ ?_ h
  · intro runtime grant bound entity hValid hBind _ hBound
    obtain ⟨hId, -, hFound, -⟩ := bindEntity_ok hBind
    exact @Registry.AllIdentified.setEntity { bound with .. } hBound _
      (runSteps_identified (hIds hValid) (hBound.find hFound) _)
  · intro runtime grant bound entity applied published hValid _ _ hApply hApplied
    exact commit_identified hApplied (hIds hValid) (hApplied.find (applyRequest_found hApply)) _ _

/-! ## The other operations -/

theorem observeEntityGeneration_identified (h : registry.AllIdentified) (entity : EntityId)
    (generation : EntityGeneration) (reason : ReasonToken) :
    (observeEntityGeneration registry entity generation reason).1.AllIdentified := by
  unfold observeEntityGeneration
  split
  · exact h
  · rename_i hSet
    split
    · split
      · exact h
      · refine h.append ?_ _ _
        by_contra hUnset
        exact hSet (by simp [hUnset])
    · rename_i held hFound
      have hHeld := h.find hFound
      split
      · exact h.setEntity (hHeld.congr rfl rfl rfl)
      · split
        · exact h
        · split
          · exact h
          · dsimp only
            split
            · exact h.setEntity (EntityState.Identified.of_empty hHeld.id rfl rfl)
            · exact @Registry.AllIdentified.setEntity { registry with .. } h _
                (EntityState.Identified.of_empty hHeld.id rfl rfl)

theorem markNonCurrent_identified {entity : EntityState} (h : entity.Identified)
    (currentness : EvidenceCurrentness) (reason : ReasonToken) (boot : Option WorkerBootId)
    (source : Option SourceId) (includeDurable : Bool) (indexes : Indexes) :
    (markNonCurrent currentness reason boot source includeDurable indexes
      entity).2.Identified := by
  have hGrows : EntriesGrow (fun entry later => entry.Identified → later.Identified) entity
      (markNonCurrent currentness reason boot source includeDurable indexes entity).2 :=
    relabelEntity_grows (fun _ => id) fun entry _ hEntry => hEntry.relabel
  exact ⟨h.id, h.floors, hGrows.invariant (fun _ _ hMem => by cases hMem) h.entries⟩

theorem Registry.AllIdentified.visitEntities (h : registry.AllIdentified)
    {f : Indexes → EntityState → Indexes × EntityState}
    (hVisit : ∀ indexes entity, entity.Identified → (f indexes entity).2.Identified) :
    (registry.visitEntities f).AllIdentified := by
  intro entity hMem
  obtain ⟨indexes, held, hHeld, rfl⟩ := mem_mapAccum hMem
  exact hVisit indexes held (h held hHeld)

theorem advanceRegistry_identified {α : Type} (h : registry.AllIdentified) (value : α) :
    (advanceRegistry registry value).1.AllIdentified := by
  unfold Registry.AllIdentified
  rw [advanceRegistry_entities]
  exact h

theorem fenceWorkerBoot_identified (h : registry.AllIdentified) (workerBoot : WorkerBootId)
    (reason : ReasonToken) : (fenceWorkerBoot registry workerBoot reason).1.AllIdentified := by
  have hInsert : ∀ base : Registry, base.AllIdentified →
      (insertFence base workerBoot reason).1.AllIdentified := by
    intro base hBase
    unfold insertFence
    dsimp only
    refine advanceRegistry_identified (Registry.AllIdentified.visitEntities ?_ ?_) _
    · exact hBase
    · intro indexes entity hEntity
      exact (markNonCurrent_identified hEntity ..).congr rfl rfl rfl
  unfold fenceWorkerBoot
  split
  · exact h
  · split
    · exact h
    · split
      · split
        · exact h
        · exact hInsert (evictFence registry _) h
      · exact hInsert registry h

theorem advanceCoordinatorEpoch_identified (h : registry.AllIdentified) (reason : ReasonToken) :
    (advanceCoordinatorEpoch registry reason).1.AllIdentified := by
  unfold advanceCoordinatorEpoch
  split
  · exact h
  · refine advanceRegistry_identified (Registry.AllIdentified.visitEntities ?_ ?_) _
    · unfold Registry.AllIdentified
      rw [fenceBoots_only]
      exact h
    · intro indexes entity hEntity
      exact (markNonCurrent_identified hEntity ..).congr rfl rfl rfl

theorem invalidateEntity_identified (h : registry.AllIdentified) (entity : EntityId)
    (generation : EntityGeneration) (reason : ReasonToken) :
    (invalidateEntity registry entity generation reason).1.AllIdentified := by
  unfold invalidateEntity
  split
  · exact h
  · rename_i held hFound
    have hMarked := markNonCurrent_identified (h.find hFound) .revalidationRequired
      (reasonOr reason (txt "entity-invalidated")) none none true registry.indexes
    split
    · exact h
    · dsimp only
      have hFlagged : ∀ marked : EntityState, marked.Identified →
          (if held.invalidated = true then marked else { marked with
            invalidated := true
            invalidationReason := reasonOr reason (txt "entity-invalidated") }).Identified := by
        intro marked hIds
        split
        · exact hIds
        · exact hIds.congr rfl rfl rfl
      split
      · split
        · exact h.setEntity ((hFlagged _ hMarked).congr rfl rfl rfl)
        · exact @Registry.AllIdentified.setEntity { registry with .. } h _
            ((hFlagged _ hMarked).congr rfl rfl rfl)
      · exact @Registry.AllIdentified.setEntity { registry with .. } h _ (hFlagged _ hMarked)

theorem invalidateSource_identified (h : registry.AllIdentified) (source : SourceId)
    (reason : ReasonToken) : (invalidateSource registry source reason).1.AllIdentified := by
  unfold invalidateSource
  split
  · exact h
  · dsimp only
    have hVisited := h.visitEntities (f := invalidateSourceIn registry.registryGeneration
      source (reasonOr reason (txt "source-invalidated"))) fun indexes entity hEntity => by
        have hMarked := markNonCurrent_identified hEntity .revalidationRequired
          (reasonOr reason (txt "source-invalidated")) none (some source) true indexes
        unfold invalidateSourceIn
        dsimp only
        split
        · exact hMarked
        · exact hMarked.congr rfl rfl rfl
    split
    · exact advanceRegistry_identified hVisited _
    · exact hVisited

end Registry

/-! ## Authorities, fences and registrations -/

theorem registerPublisher_only (registry : Registry) (publisher : PublisherId)
    (scope : AuthorityScopeId) (workerBoot : WorkerBootId) :
    (registerPublisher registry publisher scope workerBoot).1 =
      { registry with
        publishers := (registerPublisher registry publisher scope workerBoot).1.publishers } := by
  unfold registerPublisher
  split
  · rfl
  · split
    · rfl
    · split
      · rfl
      · dsimp only
        split
        · rfl
        · split <;> rfl

theorem retirePublisher_only (registry : Registry) (publisher : PublisherId)
    (workerBoot : WorkerBootId) :
    (retirePublisher registry publisher workerBoot).1 =
      { registry with
        publishers := (retirePublisher registry publisher workerBoot).1.publishers } := by
  unfold retirePublisher
  dsimp only
  split <;> rfl

theorem validateGrant_admissible {grant : AuthorityGrant} (h : validateGrant grant = .ok ()) :
    grant.Admissible := by
  unfold validateGrant at h
  obtain ⟨hScope, h⟩ := ite_failure_eq_ok.1 h
  obtain ⟨-, h⟩ := ite_failure_eq_ok.1 h
  obtain ⟨hKinds, h⟩ := ite_failure_eq_ok.1 h
  obtain ⟨-, h⟩ := ite_failure_eq_ok.1 h
  obtain ⟨hCount, h⟩ := ite_failure_eq_ok.1 h
  obtain ⟨-, h⟩ := ite_failure_eq_ok.1 h
  obtain ⟨hClaims, h⟩ := ite_failure_eq_ok.1 h
  obtain ⟨hNamespaces, h⟩ := ite_failure_eq_ok.1 h
  obtain ⟨hAllowed, -⟩ := ite_failure_eq_ok.1 h
  rw [not_or] at hClaims
  exact ⟨by simpa using hScope, by simpa using hNamespaces, Nat.not_lt.1 hClaims.2,
    Nat.not_lt.1 hKinds, Nat.not_lt.1 hCount, Nat.not_lt.1 hAllowed⟩

theorem declareAuthority_admissible {registry : Registry} (grant : AuthorityGrant)
    (h : ∀ held ∈ registry.authorities, held.Admissible) :
    ∀ held ∈ (declareAuthority registry grant).1.authorities, held.Admissible := by
  unfold declareAuthority
  split
  · exact h
  · rename_i hValid
    have hGrant := validateGrant_admissible hValid
    split
    · intro held hMem
      rcases mem_upsert (List.mem_reverse.1 hMem) with rfl | hMem
      · exact hGrant
      · exact h held (List.mem_reverse.1 hMem)
    · split
      · exact h
      · intro held hMem
        rcases List.mem_append.1 hMem with hMem | hMem
        · exact h held hMem
        · rw [List.mem_singleton.1 hMem]
          exact hGrant

theorem declareAuthority_only (registry : Registry) (grant : AuthorityGrant) :
    (declareAuthority registry grant).1 =
      { registry with authorities := (declareAuthority registry grant).1.authorities } := by
  unfold declareAuthority
  split
  · rfl
  · split
    · rfl
    · split <;> rfl

/-- The boots of the fences are set. -/
def Registry.FencesSet (registry : Registry) : Prop :=
  ∀ fence ∈ registry.fences, fence.workerBoot.isSet = true

theorem fenceBoots_set (reason : ReasonToken) {boots : List WorkerBootId}
    (hBoots : ∀ boot ∈ boots, boot.isSet = true) {registry : Registry} (h : registry.FencesSet) :
    (fenceBoots reason registry boots).FencesSet := by
  induction boots generalizing registry with
  | nil => exact h
  | cons boot boots ih =>
      obtain ⟨hFirst, hRest⟩ := List.forall_mem_cons.1 hBoots
      rw [fenceBoots]
      split
      · exact ih hRest h
      · split
        · exact h
        · refine ih hRest fun fence hMem => ?_
          rcases List.mem_append.1 hMem with hMem | hMem
          · exact h fence hMem
          · rw [List.mem_singleton.1 hMem]
            exact hFirst

theorem insertFence_set {registry : Registry} (h : registry.FencesSet) {boot : WorkerBootId}
    (hBoot : boot.isSet = true) (reason : ReasonToken) :
    (insertFence registry boot reason).1.FencesSet := by
  unfold insertFence Registry.FencesSet
  dsimp only
  rw [(advanceRegistry_control ..).fences, (visitEntities_control ..).fences]
  intro fence hMem
  rcases List.mem_append.1 hMem with hMem | hMem
  · exact h fence hMem
  · rw [List.mem_singleton.1 hMem]
    exact hBoot

theorem fenceWorkerBoot_set {registry : Registry} (h : registry.FencesSet) (boot : WorkerBootId)
    (reason : ReasonToken) : (fenceWorkerBoot registry boot reason).1.FencesSet := by
  unfold fenceWorkerBoot
  split
  · exact h
  · rename_i hSet
    have hBoot : boot.isSet = true := by simpa using hSet
    split
    · exact h
    · split
      · split
        · exact h
        · exact insertFence_set (fun fence hMem => h fence (List.mem_of_mem_eraseP hMem)) hBoot _
      · exact insertFence_set h hBoot _

theorem fenceWorkerBoot_grants (registry : Registry) (boot : WorkerBootId)
    (reason : ReasonToken) :
    (fenceWorkerBoot registry boot reason).1.authorities = registry.authorities := by
  have hInsert : ∀ base : Registry,
      (insertFence base boot reason).1.authorities = base.authorities := by
    intro base
    unfold insertFence
    dsimp only
    rw [(advanceRegistry_control ..).authorities, (visitEntities_control ..).authorities]
  unfold fenceWorkerBoot
  split
  · rfl
  · split
    · rfl
    · split
      · split
        · rfl
        · rw [hInsert]
          rfl
      · rw [hInsert]

theorem advanceCoordinatorEpoch_grants (registry : Registry) (reason : ReasonToken) :
    (advanceCoordinatorEpoch registry reason).1.authorities = registry.authorities := by
  unfold advanceCoordinatorEpoch
  split
  · rfl
  · dsimp only
    rw [(advanceRegistry_control ..).authorities, (visitEntities_control ..).authorities,
      fenceBoots_only]

theorem advanceCoordinatorEpoch_set {registry : Registry} (h : registry.FencesSet)
    (hPublishers : ∀ held ∈ registry.publishers, ActiveIdentified held) (reason : ReasonToken) :
    (advanceCoordinatorEpoch registry reason).1.FencesSet := by
  unfold advanceCoordinatorEpoch
  split
  · exact h
  · dsimp only
    unfold Registry.FencesSet
    rw [(advanceRegistry_control ..).fences, (visitEntities_control ..).fences]
    refine fenceBoots_set _ (fun boot hMem => ?_) h
    obtain ⟨held, hHeld, rfl⟩ := List.mem_map.1 hMem
    exact (hPublishers held hHeld).1

/-! ## Loading -/

theorem loadRegistrations_active (epoch : CoordinatorEpoch) (payload : StorePayload)
    (fenced : List WorkerBootId) (stored : List StoredRegistration)
    {publishers : List (PublisherKey × PublisherRuntime)}
    (h : ∀ held ∈ publishers, ActiveIdentified held) :
    ∀ held ∈ loadRegistrations epoch payload fenced publishers stored, ActiveIdentified held := by
  induction stored generalizing publishers with
  | nil => exact h
  | cons registration stored ih =>
      rw [loadRegistrations]
      split
      · exact ih h
      · rename_i hKept
        simp only [Bool.or_eq_true, Bool.not_eq_true', decide_eq_true_eq, not_or,
          Bool.not_eq_false] at hKept
        refine ih fun held hMem => ?_
        rcases mem_upsert hMem with rfl | hMem
        · exact ⟨hKept.1.2, fun hActive => by cases hActive⟩
        · exact h held hMem

theorem loadFloors_set {stored : List StoredSourceFloor}
    (hStored : ∀ floor ∈ stored, floor.source.isSet = true ∧ floor.workerBoot.isSet = true)
    {floors : List (SourceKey × SourceGeneration)}
    (h : ∀ floor ∈ floors, floor.1.source.isSet = true ∧ floor.1.boot.isSet = true) :
    ∀ floor ∈ loadFloors floors stored,
      floor.1.source.isSet = true ∧ floor.1.boot.isSet = true := by
  induction stored generalizing floors with
  | nil => exact h
  | cons first stored ih =>
      obtain ⟨hFirst, hRest⟩ := List.forall_mem_cons.1 hStored
      rw [loadFloors]
      split
      · refine ih hRest fun floor hMem => ?_
        rcases mem_upsert hMem with rfl | hMem
        · exact hFirst
        · exact h floor hMem
      · exact ih hRest h

/-- The identifiers of a record, which loading keeps. -/
def EvidenceRecord.identifiers (record : EvidenceRecord) : EvidenceId × SourceId × PublisherId ×
    AuthorityScopeId × WorkerBootId × MutationAttemptId × PublicationId :=
  (record.id, record.source, record.publisher, record.scope, record.workerBoot, record.attempt,
    record.publication)

theorem loadEntity_identified (registryGeneration : RegistryGeneration) (loading : Loading)
    {stored : StoredEntity} (hId : stored.id.isSet = true) (h : Store.ReadEntity stored) :
    (loadEntity registryGeneration loading stored).2.Identified := by
  refine ⟨hId, loadFloors_set h.floors (fun _ hMem => by cases hMem), ?_⟩
  intro entry hEntry record hMem
  have hLoaded := loadEntity_heldRecords (f := fun held : HeldRecord => held.record.identifiers)
    (fun _ _ => rfl) registryGeneration loading stored
  have hHeld : record.identifiers ∈
      (loadEntity registryGeneration loading stored).2.heldRecords.map
        fun held : HeldRecord => held.record.identifiers :=
    List.mem_map.2 ⟨⟨_, entry.id, record⟩,
      List.mem_flatMap.2 ⟨entry, hEntry, List.mem_map.2 ⟨record, hMem, rfl⟩⟩, rfl⟩
  obtain ⟨claim, hClaim, hEq⟩ := List.mem_map.1 (hLoaded.mem_iff.1 hHeld)
  have hIds := h.claims claim (List.mem_filter.1 hClaim).1
  simp only [Function.comp, EvidenceRecord.identifiers, StoredEntity.loadedRecord, StoredClaim.record,
    Prod.mk.injEq] at hEq
  obtain ⟨hRecord, hSource, hPublisher, hScope, hBoot, hAttempt, hPublication⟩ := hEq
  exact ⟨hRecord ▸ hIds.id, hSource ▸ hIds.source, hPublisher ▸ hIds.publisher,
    hScope ▸ hIds.scope, hBoot ▸ hIds.workerBoot, hAttempt ▸ hIds.attempt,
    hPublication ▸ hIds.publication⟩

theorem readStore_admitted {config : PersistenceConfig} {file : Option Bytes}
    {payload : StorePayload} {report : LoadReport}
    (h : Store.readStore config file = .ok (payload, report)) :
    (∀ grant ∈ payload.authorities, grant.Admissible) ∧
      ∀ entity ∈ payload.entities, Store.ReadEntity entity := by
  cases file with
  | some file =>
      have hRead := Store.readStore_collects h
      exact ⟨Store.forall_yielded Store.readGrant_yields hRead.authorities,
        Store.forall_yielded Store.readEntity_yields hRead.entities⟩
  | none =>
      unfold Store.readStore at h
      dsimp only at h
      split at h
      · cases h
        exact ⟨nofun, nofun⟩
      · cases h

theorem load_identified {registry : Registry} (config : PersistenceConfig) (file : Option Bytes)
    (h : registry.Identified) : (load registry config file).1.Identified := by
  unfold load
  split
  · exact h
  · rename_i payload report hRead
    obtain ⟨hGrants, hEntities⟩ := readStore_admitted hRead
    refine ⟨fun grant hMem => hGrants grant (List.mem_filter.1 hMem).1, ?_,
      loadRegistrations_active _ _ _ _ (fun _ hMem => by cases hMem), ?_⟩
    · intro fence hMem
      obtain ⟨stored, hStored, rfl⟩ := List.mem_map.1 hMem
      exact (List.mem_filter.1 hStored).2
    · intro entity hMem
      obtain ⟨loading, stored, hStored, rfl⟩ := mem_mapAccum hMem
      obtain ⟨hStored, hId⟩ := List.mem_filter.1 hStored
      exact loadEntity_identified _ loading hId (hEntities stored hStored)

/-! ## Runs -/

section Runs

variable {registry : Registry}

/-- An operation that leaves the authorities and the fences alone. -/
theorem Registry.Identified.of_control (h : registry.Identified) {after : Registry}
    (hControl : SameControl registry after)
    (hPublishers : ∀ held ∈ after.publishers, ActiveIdentified held)
    (hEntities : after.AllIdentified) : after.Identified :=
  ⟨hControl.authorities ▸ h.grants, hControl.fences ▸ h.fences, hPublishers, hEntities⟩

theorem publish_active (h : ∀ held ∈ registry.publishers, ActiveIdentified held)
    (request : PublicationRequest) :
    ∀ held ∈ (publish registry request).1.publishers, ActiveIdentified held := by
  cases hCommitted : (Attempt.mk registry request).committed with
  | false =>
      have hSame : (publish registry request).1.publishers = registry.publishers :=
        uncommitted_publishers hCommitted
      rw [hSame]
      exact h
  | true =>
      obtain ⟨result, ⟨c⟩⟩ := (Attempt.mk registry request).committed_stages hCommitted
      have hPublishers : (publish registry request).1.publishers = _ := c.publishers
      rw [hPublishers]
      intro held hMem
      obtain ⟨before, hBefore, rfl⟩ := List.mem_map.1 hMem
      have hActive := h before hBefore
      dsimp only
      split
      · exact hActive
      · exact hActive

theorem registerPublisher_active (h : ∀ held ∈ registry.publishers, ActiveIdentified held)
    (publisher : PublisherId) (scope : AuthorityScopeId) (workerBoot : WorkerBootId) :
    ∀ held ∈ (registerPublisher registry publisher scope workerBoot).1.publishers,
      ActiveIdentified held := by
  unfold registerPublisher
  split
  · exact h
  · rename_i hSet
    simp only [Bool.or_eq_true, Bool.not_eq_true', not_or, Bool.not_eq_false] at hSet
    split
    · exact h
    · split
      · exact h
      · dsimp only
        split
        · exact h
        · split
          · exact h
          · intro held hMem
            rcases mem_upsert hMem with rfl | hMem
            · exact ⟨hSet.2, fun _ => hSet.1⟩
            · exact h held hMem

theorem retirePublisher_active (h : ∀ held ∈ registry.publishers, ActiveIdentified held)
    (publisher : PublisherId) (workerBoot : WorkerBootId) :
    ∀ held ∈ (retirePublisher registry publisher workerBoot).1.publishers,
      ActiveIdentified held := by
  unfold retirePublisher
  dsimp only
  split
  · exact h
  · rename_i runtime hFound
    unfold Registry.findRuntime at hFound
    obtain ⟨found, hFound, -⟩ := Option.map_eq_some_iff.1 hFound
    have hKey : found.1 = PublisherKey.mk publisher workerBoot := lookup_key hFound
    have hBoot := (h found (lookup_mem hFound)).1
    rw [hKey] at hBoot
    intro held hMem
    rcases mem_upsert hMem with rfl | hMem
    · exact ⟨hBoot, fun hActive => by cases hActive⟩
    · exact h held hMem

theorem refreshes_active (h : ∀ held ∈ registry.publishers, ActiveIdentified held)
    {operation : Operation} (hRefreshes : operation.refreshes = true) :
    ∀ held ∈ (operation.apply registry).publishers, ActiveIdentified held := by
  have hSub : (operation.apply registry).publishers ⊆ registry.publishers := by
    cases operation with
    | fenceWorkerBoot workerBoot reason =>
        rw [Operation.apply]
        rcases fenceWorkerBoot_publishers registry workerBoot reason with
          hSame | ⟨-, publisher, hPublishers⟩
        · rw [hSame]
          exact List.Subset.refl _
        · rw [hPublishers]
          exact List.filter_subset_self _
    | advanceCoordinatorEpoch reason =>
        rw [Operation.apply]
        rcases advanceCoordinatorEpoch_fences registry reason with hSame | ⟨-, hNone, -⟩
        · rw [hSame]
          exact List.Subset.refl _
        · rw [hNone]
          exact List.nil_subset _
    | invalidateEntity entity generation reason =>
        rw [Operation.apply, invalidateEntity_publishers]
        exact List.Subset.refl _
    | invalidateSource source reason =>
        rw [Operation.apply, invalidateSource_publishers]
        exact List.Subset.refl _
    | _ => cases hRefreshes
  exact fun held hMem => h held (hSub hMem)

theorem step_identified (operation : Operation) (h : registry.Identified) :
    (operation.apply registry).Identified := by
  cases operation with
  | publish request =>
      exact h.of_control (publish_control ..) (publish_active h.publishers request)
        (publish_identified h.entities request)
  | publishBatch requests =>
      exact publishBatch_preserves (P := Registry.Identified) (fun attempt _ hBefore =>
        hBefore.of_control (publish_control ..) (publish_active hBefore.publishers _)
          (publish_identified hBefore.entities _)) h
  | observeEntityGeneration entity generation reason =>
      have hPublishers := observeEntityGeneration_publishers registry entity generation reason
      exact h.of_control (observeEntityGeneration_control ..) (hPublishers ▸ h.publishers)
        (observeEntityGeneration_identified h.entities entity generation reason)
  | registerPublisher publisher scope workerBoot =>
      have hActive := registerPublisher_active h.publishers publisher scope workerBoot
      have hOnly := registerPublisher_only registry publisher scope workerBoot
      rw [Operation.apply, hOnly]
      exact ⟨h.grants, h.fences, hActive, h.entities⟩
  | retirePublisher publisher workerBoot =>
      have hActive := retirePublisher_active h.publishers publisher workerBoot
      have hOnly := retirePublisher_only registry publisher workerBoot
      rw [Operation.apply, hOnly]
      exact ⟨h.grants, h.fences, hActive, h.entities⟩
  | declareAuthority grant =>
      have hGrants := declareAuthority_admissible grant h.grants
      have hOnly := declareAuthority_only registry grant
      rw [Operation.apply, hOnly]
      exact ⟨hGrants, h.fences, h.publishers, h.entities⟩
  | registerVendorDescriptor descriptor =>
      rw [Operation.apply]
      unfold registerVendorDescriptor
      split
      · exact h
      · exact ⟨h.grants, h.fences, h.publishers, h.entities⟩
  | load config file => exact load_identified config file h
  | rehash publishers =>
      rw [Operation.apply]
      split
      · rename_i hPerm
        exact ⟨h.grants, h.fences, fun held hMem => h.publishers held (hPerm.mem_iff.1 hMem),
          h.entities⟩
      · exact h
  | fenceWorkerBoot workerBoot reason =>
      exact ⟨fenceWorkerBoot_grants registry workerBoot reason ▸ h.grants,
        fenceWorkerBoot_set h.fences workerBoot reason, refreshes_active h.publishers rfl,
        fenceWorkerBoot_identified h.entities workerBoot reason⟩
  | advanceCoordinatorEpoch reason =>
      exact ⟨advanceCoordinatorEpoch_grants registry reason ▸ h.grants,
        advanceCoordinatorEpoch_set h.fences h.publishers reason,
        refreshes_active h.publishers rfl, advanceCoordinatorEpoch_identified h.entities reason⟩
  | invalidateEntity entity generation reason =>
      exact h.of_control (invalidateEntity_control ..) (refreshes_active h.publishers rfl)
        (invalidateEntity_identified h.entities entity generation reason)
  | invalidateSource source reason =>
      exact h.of_control (invalidateSource_control ..) (refreshes_active h.publishers rfl)
        (invalidateSource_identified h.entities source reason)

theorem init_identified (options : Options) : (Registry.init options).Identified := by
  have hEmpty : (Registry.init options).authorities = [] ∧ (Registry.init options).fences = [] ∧
      (Registry.init options).publishers = [] := by
    unfold Registry.init
    split <;> exact ⟨rfl, rfl, rfl⟩
  obtain ⟨hGrants, hFences, hPublishers⟩ := hEmpty
  refine ⟨?_, ?_, ?_, ?_⟩
  · simp [hGrants]
  · simp [hFences]
  · simp [hPublishers]
  · simp [init_entities]

/-- In every run, the loads of any files included. -/
theorem run_identified (options : Options) (operations : List Operation) :
    (afterRun options operations).Identified :=
  run_invariant (fun _ operation _ h => step_identified operation h)
    (guarded_of_forall fun _ _ => trivial) (init_identified options)

end Runs

end FabricCapability.Ports
