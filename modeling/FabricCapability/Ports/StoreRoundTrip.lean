import FabricCapability.Ports.RequestRoundTrip
import FabricCapability.Ports.StoreFormat

/-!
# Reading a store back

What `DecodePayload` returns on the bytes that `EncodePayload` produced.  The writer
checks nothing but the lengths of texts; the reader bounds every list, refuses unset
identifiers and parses every capability again.  `reread` is the outcome of the reader as
a function of the payload that was written, record by record.

## Main results

* `readAll_listed`: a run of records of one type, up to its bound.
* `decodePayload_encode`: the payload reads back as `StorePayload.reread` says.
-/

namespace FabricCapability.Ports

open FabricCapability.Verified.ByteCodec

/-! ## What the reader makes of each record -/

/-- A list within its bound, read element by element. -/
def listed {α β : Type} (bound : Nat) (reread : α → Option β) (xs : List α) :
    Option (List β) :=
  if xs.length ≤ bound then xs.mapM reread else none

def StoredClaim.complete (claim : StoredClaim) : Bool :=
  claim.id.isSet && (claim.source.isSet && (claim.publisher.isSet && (claim.scope.isSet &&
    (claim.workerBoot.isSet && (claim.attempt.isSet && (claim.publication.isSet &&
      claim.value.decodable))))))

def StoredClaim.reread (claim : StoredClaim) : Option StoredClaim :=
  (CapabilityId.parse claim.capability.toText).toOption.bind fun capability =>
    if claim.complete then some { claim with capability } else none

def StoredCapability.reread (capability : StoredCapability) : Option StoredCapability :=
  (CapabilityId.parse capability.id.toText).toOption.bind fun id =>
    some { capability with id }

def StoredSourceFloor.complete (floor : StoredSourceFloor) : Bool :=
  floor.source.isSet && floor.workerBoot.isSet

/-- The capabilities of an entity are read, sorted and checked for duplicates. -/
def rereadCapabilities (capabilities : List StoredCapability) :
    Option (List StoredCapability) :=
  (listed kMaxCapabilitiesPerEntity StoredCapability.reread capabilities).bind
    fun capabilities => (Store.checkCapabilities capabilities).toOption

def StoredEntity.reread (entity : StoredEntity) : Option StoredEntity :=
  if entity.id.isSet then
    if entity.currentGeneration ≠ 0 then
      (rereadCapabilities entity.capabilities).bind fun capabilities =>
      (listed kMaxEvidencePerEntity StoredClaim.reread entity.claims).bind fun claims =>
      (listed kMaxEvidencePerEntity (Option.guard StoredSourceFloor.complete)
        entity.sourceFloors).bind fun sourceFloors =>
      (listed kMaxEntityGenerationsRetained some entity.history).map fun history =>
        { entity with capabilities, claims, sourceFloors, history }
    else none
  else none

/-- A list within its bound whose elements all pass. -/
def within {α : Type} (bound : Nat) (pass : α → Bool) (xs : List α) : Bool :=
  decide (xs.length ≤ bound) && xs.all pass

/-- What the reader asks of a grant. -/
def AuthorityGrant.readable (grant : AuthorityGrant) : Bool :=
  grant.scope.isSet &&
    (within kMaxAuthorityEntityKinds (· ∈ entityKindNames) grant.entityKinds &&
      (within kMaxAuthorityNamespaces CapabilityNamespaceId.isSet grant.namespaces &&
        (decide (grant.maxClaimsPerPublication % 2 ^ 32 ≤ kMaxClaimsPerPublication) &&
          within kMaxAllowedPublishers TokenId.isSet grant.allowedPublishers)))

/-- The claim bound of a grant is stored in a word. -/
def AuthorityGrant.reread (grant : AuthorityGrant) : Option AuthorityGrant :=
  if grant.readable then
    some { grant with maxClaimsPerPublication := grant.maxClaimsPerPublication % 2 ^ 32 }
  else none

def StoredRegistration.complete (registration : StoredRegistration) : Bool :=
  registration.publisher.isSet && (registration.workerBoot.isSet && registration.scope.isSet)

/-- What the reader makes of a payload. -/
def StorePayload.reread (payload : StorePayload) : Option StorePayload :=
  (listed kMaxStoredAuthorities AuthorityGrant.reread payload.authorities).bind
    fun authorities =>
  (listed kMaxFencedWorkerBoots (Option.guard fun fence => fence.workerBoot.isSet)
    payload.fences).bind fun fences =>
  (listed kMaxStoredRegistrations (Option.guard StoredRegistration.complete)
    payload.registrations).bind fun registrations =>
  (listed kMaxEntities StoredEntity.reread payload.entities).map fun entities =>
    { payload with authorities, fences, registrations, entities }

/-! ## Inverting the outcome -/

theorem mapM_cons_eq_some {α β : Type} {f : α → Option β} {x : α} {xs : List α} {ys : List β} :
    (x :: xs).mapM f = some ys ↔
      ∃ y ys', f x = some y ∧ xs.mapM f = some ys' ∧ ys = y :: ys' := by
  rw [List.mapM_cons]
  cases f x with
  | none => simp
  | some y =>
      cases xs.mapM f with
      | none => simp
      | some ys' => simp [eq_comm]

/-- The image of a list that was read, when each element has the image of its original. -/
theorem flatMap_of_mapM {α β γ : Type} {f : α → Option β} {F : β → List γ} {G : α → List γ}
    {xs : List α} {ys : List β} (h : xs.mapM f = some ys)
    (hF : ∀ x ∈ xs, ∀ y, f x = some y → F y = G x) : ys.flatMap F = xs.flatMap G := by
  induction xs generalizing ys with
  | nil =>
      cases h
      rfl
  | cons x xs ih =>
      obtain ⟨y, ys', hHead, hTail, rfl⟩ := mapM_cons_eq_some.1 h
      rw [List.flatMap_cons, List.flatMap_cons, hF x (List.mem_cons_self ..) y hHead,
        ih hTail fun x' hMem => hF x' (List.mem_cons_of_mem _ hMem)]

theorem mem_of_mapM {α β : Type} {f : α → Option β} {xs : List α} {ys : List β} {y : β}
    (h : xs.mapM f = some ys) (hMem : y ∈ ys) : ∃ x ∈ xs, f x = some y := by
  induction xs generalizing ys with
  | nil =>
      cases h
      cases hMem
  | cons x xs ih =>
      obtain ⟨head, ys', hHead, hTail, rfl⟩ := mapM_cons_eq_some.1 h
      rcases List.mem_cons.1 hMem with rfl | hMem
      · exact ⟨x, List.mem_cons_self .., hHead⟩
      · obtain ⟨x', hMem', hEq⟩ := ih hTail hMem
        exact ⟨x', List.mem_cons_of_mem _ hMem', hEq⟩

theorem listed_eq_some {α β : Type} {bound : Nat} {reread : α → Option β} {xs : List α}
    {ys : List β} :
    listed bound reread xs = some ys ↔ xs.length ≤ bound ∧ xs.mapM reread = some ys := by
  unfold listed
  split
  · rename_i h
    simp [h]
  · rename_i h
    simp [h]

theorem mapM_guard_eq_some {α : Type} {pass : α → Bool} {xs ys : List α} :
    xs.mapM (Option.guard pass) = some ys ↔ xs.all pass = true ∧ ys = xs := by
  have h := Decodes.mapM_guard pass xs
  rw [show (Option.guard pass) = fun x => if pass x then some x else none from rfl, h]
  cases xs.all pass <;> simp [eq_comm]

theorem mapM_some {α : Type} (xs : List α) : xs.mapM some = some xs := by
  induction xs with
  | nil => rfl
  | cons x xs ih => simp [List.mapM_cons, ih]

/-- A claim is read back under the capability that its text parses to. -/
theorem StoredClaim.reread_eq_some {claim reread : StoredClaim}
    (h : claim.reread = some reread) :
    reread = { claim with capability := reread.capability } ∧
      reread.capability.isSet = true ∧
      reread.capability.toText = claim.capability.toText := by
  unfold StoredClaim.reread at h
  obtain ⟨capability, hParse, h⟩ := Option.bind_eq_some_iff.1 h
  cases hEq : CapabilityId.parse claim.capability.toText with
  | error e =>
      rw [hEq] at hParse
      cases hParse
  | ok parsed =>
      rw [hEq] at hParse
      cases hParse
      split at h
      · cases h
        exact ⟨rfl, CapabilityId.parse_inv hEq⟩
      · cases h

/-- What the reader changes of an entity, and what it makes sure of. -/
structure StoredEntity.RereadAs (entity reread : StoredEntity) : Prop where
  fields : reread = { entity with capabilities := reread.capabilities, claims := reread.claims }
  isSet : entity.id.isSet = true
  generation : entity.currentGeneration ≠ 0
  capabilities : rereadCapabilities entity.capabilities = some reread.capabilities
  claims : entity.claims.mapM StoredClaim.reread = some reread.claims
  floors : ∀ floor ∈ entity.sourceFloors, floor.complete = true

theorem StoredEntity.reread_eq_some {entity reread : StoredEntity}
    (h : entity.reread = some reread) : entity.RereadAs reread := by
  unfold StoredEntity.reread at h
  split at h
  · rename_i hSet
    split at h
    · rename_i hGeneration
      obtain ⟨capabilities, hCapabilities, h⟩ := Option.bind_eq_some_iff.1 h
      obtain ⟨claims, hClaims, h⟩ := Option.bind_eq_some_iff.1 h
      obtain ⟨floors, hFloors, h⟩ := Option.bind_eq_some_iff.1 h
      obtain ⟨history, hHistory, h⟩ := Option.map_eq_some_iff.1 h
      obtain ⟨hComplete, rfl⟩ := mapM_guard_eq_some.1 (listed_eq_some.1 hFloors).2
      have hSame := (listed_eq_some.1 hHistory).2
      rw [mapM_some, Option.some.injEq] at hSame
      subst hSame
      subst h
      exact ⟨rfl, hSet, hGeneration, hCapabilities, (listed_eq_some.1 hClaims).2,
        List.all_eq_true.1 hComplete⟩
    · cases h
  · cases h

/-- What the reader makes of the lists of a payload. -/
theorem StorePayload.reread_eq_some {payload reread : StorePayload}
    (h : payload.reread = some reread) :
    reread.epoch = payload.epoch ∧ reread.registryGeneration = payload.registryGeneration ∧
      payload.entities.mapM StoredEntity.reread = some reread.entities := by
  unfold StorePayload.reread at h
  obtain ⟨authorities, -, h⟩ := Option.bind_eq_some_iff.1 h
  obtain ⟨fences, -, h⟩ := Option.bind_eq_some_iff.1 h
  obtain ⟨registrations, -, h⟩ := Option.bind_eq_some_iff.1 h
  obtain ⟨entities, hEntities, rfl⟩ := Option.map_eq_some_iff.1 h
  exact ⟨rfl, rfl, (listed_eq_some.1 hEntities).2⟩

namespace Store

/-! ## Fields -/

/-- An enumerator is read back when its table has it. -/
theorem decodes_storedEnum {α : Type} [DecidableEq α] {toByte : α → UInt8} (table : List α)
    (message : Bytes) (hInj : Function.Injective toByte) (value : α) :
    Decodes (readStoredEnum table toByte message) (u8 (toByte value))
      (if value ∈ table then some value else none) := by
  rw [← List.append_nil (u8 _)]
  refine Decodes.bind_some (decodes_u8 _) ?_
  by_cases hMem : value ∈ table
  · have hFound : enumOfByte table toByte (toByte value) = some value := by
      rw [enumOfByte]
      cases hFind : table.find? fun other => toByte other == toByte value with
      | none =>
          have hNone := List.find?_eq_none.1 hFind value hMem
          simp at hNone
      | some other =>
          have hByte : toByte other = toByte value := by
            simpa using List.find?_some hFind
          rw [hInj hByte]
    rw [hFound, if_pos hMem]
    exact Decodes.pure value
  · have hMissing : enumOfByte table toByte (toByte value) = none := by
      rw [enumOfByte, List.find?_eq_none]
      intro other hOther hByte
      exact hMem (hInj (by simpa using hByte) ▸ hOther)
    rw [hMissing, if_neg hMem]
    exact Decodes.fail _ _

/-- A list length that fits its word is read back within its bound. -/
theorem decodes_storedCount {count : Nat} (bound : Nat) (message : Bytes)
    (hWord : count < 2 ^ 32) :
    Decodes (readStoredCount bound message) (sizeU32 count)
      (if count ≤ bound then some count else none) := by
  rw [← List.append_nil (sizeU32 count)]
  refine Decodes.bind_some (decodes_sizeU32 count) ?_
  rw [toNat_sizeU32 hWord]
  by_cases hBound : count ≤ bound
  · rw [if_neg (Nat.not_lt.2 hBound), if_pos hBound]
    exact Decodes.pure count
  · rw [if_pos (Nat.not_le.1 hBound), if_neg hBound]
    exact Decodes.fail _ _

/-- A counted list whose length fits its word. -/
theorem readsBack_list {α β : Type} {rd : ByteReader β} {write : α → Outcome Bytes}
    {reread : α → Option β} (bound : Nat) (message : Bytes) {xs : List α}
    (hWord : xs.length < 2 ^ 32) (hItem : ∀ x ∈ xs, ReadsBack rd (write x) (reread x)) :
    ReadsBack (readList bound message rd) (writeList write xs) (listed bound reread xs) := by
  intro out h
  simp only [writeList, emit_cons_eq_ok, emit_nil_eq_ok] at h
  obtain ⟨_, _, hCount, ⟨items, _, hItems, rfl, rfl⟩, rfl⟩ := h
  cases hCount
  have hCount := decodes_storedCount bound message hWord
  rw [List.append_nil]
  unfold listed
  by_cases hBound : xs.length ≤ bound
  · rw [if_pos hBound] at hCount ⊢
    exact Decodes.bind_some hCount (ReadsBack.readTimes xs hItem _ hItems)
  · rw [if_neg hBound] at hCount ⊢
    exact Decodes.bind_none hCount _

theorem length_le_flatMap {α : Type} {enc : α → Bytes} {xs : List α}
    (h : ∀ x ∈ xs, enc x ≠ []) : xs.length ≤ (xs.flatMap enc).length := by
  induction xs with
  | nil => exact Nat.le_refl _
  | cons x xs ih =>
      have hHead := List.length_pos_iff.2 (h x (List.mem_cons_self ..))
      have hTail := ih fun y hy => h y (List.mem_cons_of_mem _ hy)
      rw [List.flatMap_cons, List.length_append, List.length_cons]
      omega

/-- A list of records that are never empty is no longer than its bytes. -/
theorem length_le_writeList {α : Type} {write : α → Outcome Bytes} {xs : List α} {out : Bytes}
    (hNonempty : ∀ x bs, write x = .ok bs → bs ≠ []) (h : writeList write xs = .ok out) :
    xs.length ≤ out.length := by
  have hMem : emit (xs.map write) ∈ [Except.ok (sizeU32 xs.length), emit (xs.map write)] :=
    List.mem_cons_of_mem _ (List.mem_singleton_self _)
  obtain ⟨items, hItems, hLength⟩ := emit_mem h hMem
  obtain ⟨enc, hEnc, rfl⟩ := emit_map_eq_ok hItems
  exact Nat.le_trans (length_le_flatMap fun x hMem => hNonempty x _ (hEnc x hMem)) hLength

theorem writeText_ne_nil {text out : Bytes} {maxLength : Nat}
    (h : writeText text maxLength = .ok out) : out ≠ [] := by
  rw [writeText_textField h]
  simp [textField, u32, leBytes]

/-! ## Enumerators -/

section Enumerators

variable (message : Bytes)

theorem decodes_provenance (provenance : ProvenanceClass) :
    Decodes (readStoredEnum kProvenanceWire provenanceRank message)
      (u8 (provenanceRank provenance)) (some provenance) := by
  have hInj : Function.Injective provenanceRank := by
    intro a b h
    cases a <;> cases b <;> first | rfl | exact absurd h (by decide)
  have h := decodes_storedEnum kProvenanceWire message hInj provenance
  rwa [if_pos (mem_kProvenanceWire _)] at h

theorem decodes_sourceClass (sourceClass : EvidenceSourceClass) :
    Decodes (readStoredEnum kSourceClassWire EvidenceSourceClass.toByte message)
      (u8 sourceClass.toByte) (some sourceClass) := by
  have hInj : Function.Injective EvidenceSourceClass.toByte := by
    intro a b h
    cases a <;> cases b <;> first | rfl | exact absurd h (by decide)
  have h := decodes_storedEnum kSourceClassWire message hInj sourceClass
  rwa [if_pos (mem_kSourceClassWire _)] at h

theorem decodes_durability (durability : DurabilityClass) :
    Decodes (readStoredEnum kDurabilityWire DurabilityClass.toByte message)
      (u8 durability.toByte) (some durability) := by
  have hInj : Function.Injective DurabilityClass.toByte := by
    intro a b h
    cases a <;> cases b <;> first | rfl | exact absurd h (by decide)
  have h := decodes_storedEnum kDurabilityWire message hInj durability
  rwa [if_pos (mem_kDurabilityWire _)] at h

theorem decodes_coverage (coverage : Coverage) :
    Decodes (readStoredEnum kCoverageWire Coverage.toByte message)
      (u8 coverage.toByte) (some coverage) := by
  have hInj : Function.Injective Coverage.toByte := by
    intro a b h
    cases a <;> cases b <;> first | rfl | exact absurd h (by decide)
  have h := decodes_storedEnum kCoverageWire message hInj coverage
  rwa [if_pos (mem_kCoverageWire _)] at h

theorem decodes_state (state : CapabilityState) :
    Decodes (readStoredEnum kStateWire CapabilityState.toByte message)
      (u8 state.toByte) (some state) := by
  have hInj : Function.Injective CapabilityState.toByte := by
    intro a b h
    cases a <;> cases b <;> first | rfl | exact absurd h (by decide)
  have h := decodes_storedEnum kStateWire message hInj state
  rwa [if_pos (mem_kStateWire _)] at h

theorem decodes_currentness (currentness : EvidenceCurrentness) :
    Decodes (readStoredEnum kCurrentnessWire EvidenceCurrentness.toByte message)
      (u8 currentness.toByte) (some currentness) := by
  have hInj : Function.Injective EvidenceCurrentness.toByte := by
    intro a b h
    cases a <;> cases b <;> first | rfl | exact absurd h (by decide)
  have h := decodes_storedEnum kCurrentnessWire message hInj currentness
  rwa [if_pos (mem_kCurrentnessWire _)] at h

theorem decodes_entityKind (kind : FabricEntityKind) :
    Decodes (readStoredEnum entityKindNames FabricEntityKind.toByte message)
      (u8 kind.toByte) (if kind ∈ entityKindNames then some kind else none) := by
  have hInj : Function.Injective FabricEntityKind.toByte := by
    intro a b h
    cases a <;> cases b <;> first | rfl | exact absurd h (by decide)
  exact decodes_storedEnum entityKindNames message hInj kind

end Enumerators

/-! ## The records of an entity -/

theorem readsBack_claim (claim : StoredClaim) :
    ReadsBack readClaim (writeClaim claim) claim.reread := by
  refine ReadsBack.bind (readsBack_capabilityId _) fun capability _ => ?_
  unfold StoredClaim.complete
  refine ReadsBack.bind_guard (readsBack_token _ (by decide)) ?_
  refine ReadsBack.bind_guard (readsBack_token _ (by decide)) ?_
  refine ReadsBack.bind_guard (readsBack_token _ (by decide)) ?_
  refine ReadsBack.bind_guard (readsBack_token _ (by decide)) ?_
  refine ReadsBack.bind_guard (readsBack_token _ (by decide)) ?_
  refine ReadsBack.bind_guard (readsBack_token _ (by decide)) ?_
  refine ReadsBack.bind_guard (readsBack_token _ (by decide)) ?_
  refine ReadsBack.bind_some (.ok (decodes_u64 _)) ?_
  refine ReadsBack.bind_some (.ok (decodes_u64 _)) ?_
  refine ReadsBack.bind_some (.ok (decodes_u64 _)) ?_
  refine ReadsBack.bind_some (.ok (decodes_provenance _ _)) ?_
  refine ReadsBack.bind_some (.ok (decodes_sourceClass _ _)) ?_
  refine ReadsBack.bind_some (.ok (decodes_durability _ _)) ?_
  refine ReadsBack.bind_some (.ok (decodes_coverage _ _)) ?_
  refine ReadsBack.bind_some (.ok (decodes_state _ _)) ?_
  refine ReadsBack.bind_some (.ok (decodes_currentness _ _)) ?_
  rw [← Bool.and_true claim.value.decodable]
  refine ReadsBack.bind_guard (.ok claim.value.decodes) ?_
  refine ReadsBack.bind_some (readsBack_optionalToken _ (by decide)) ?_
  refine ReadsBack.bind_some (readsBack_optionalToken _ (by decide)) ?_
  exact ReadsBack.bind_some (readsBack_optionalToken _ (by decide)) (.done _)

theorem readsBack_capability (capability : StoredCapability) :
    ReadsBack readCapability (writeCapability capability) capability.reread :=
  ReadsBack.bind (readsBack_capabilityId _) fun _ _ =>
    ReadsBack.bind_some (.ok (decodes_u64 _)) (.done _)

theorem readsBack_sourceFloor (floor : StoredSourceFloor) :
    ReadsBack readSourceFloor (writeSourceFloor floor)
      (Option.guard StoredSourceFloor.complete floor) := by
  unfold Option.guard StoredSourceFloor.complete
  refine ReadsBack.bind_guard (readsBack_token _ (by decide)) ?_
  rw [← Bool.and_true floor.workerBoot.isSet]
  refine ReadsBack.bind_guard (readsBack_token _ (by decide)) ?_
  exact ReadsBack.bind_some (.ok (decodes_u64 _)) (.done _)

theorem decodes_digest (digest : Digest) : Decodes readDigest digest.bytes (some digest) := by
  have hBytes : Decodes (readTimes readU8 kDigestBytes) digest.bytes (some digest.bytes) := by
    have h := Decodes.readTimes_some digest.bytes fun byte _ => decodes_u8 byte
    rwa [digest.size, show digest.bytes.flatMap u8 = digest.bytes from
      List.flatMap_singleton' _] at h
  rw [← List.append_nil digest.bytes]
  refine Decodes.bind_some hBytes ?_
  rw [Digest.ofBytes, dif_pos digest.size]
  exact Decodes.pure _

theorem readsBack_generation (generation : StoredGeneration) :
    ReadsBack readGeneration (writeGeneration generation) (some generation) := by
  refine ReadsBack.bind_some (.ok (decodes_u64 _)) ?_
  refine ReadsBack.bind_some (.ok (decodes_u64 _)) ?_
  refine ReadsBack.bind_some (.ok (decodes_digest _)) ?_
  refine ReadsBack.bind_some (.ok (decodes_u64 _)) ?_
  refine ReadsBack.bind_some (.ok (decodes_u64 _)) ?_
  refine ReadsBack.bind_some (.ok (decodes_u64 _)) ?_
  exact ReadsBack.bind_some (readsBack_optionalToken _ (by decide)) (.done _)

/-! ## Entities -/

/-- The lists of an entity are counted in words. -/
structure SizedEntity (entity : StoredEntity) : Prop where
  capabilities : entity.capabilities.length < 2 ^ 32
  claims : entity.claims.length < 2 ^ 32
  sourceFloors : entity.sourceFloors.length < 2 ^ 32
  history : entity.history.length < 2 ^ 32

/-- A list inside a record that fits its word. -/
theorem length_lt_word {α : Type} {write : α → Outcome Bytes} {xs : List α} {out : Bytes}
    (hNonempty : ∀ x bs, write x = .ok bs → bs ≠ []) (hWord : out.length < 2 ^ 32)
    (h : ∃ bs, writeList write xs = .ok bs ∧ bs.length ≤ out.length) :
    xs.length < 2 ^ 32 := by
  obtain ⟨bs, hWrite, hLength⟩ := h
  have hItems := length_le_writeList hNonempty hWrite
  omega

theorem writeCapability_ne_nil (capability : StoredCapability) (bs : Bytes)
    (h : writeCapability capability = .ok bs) : bs ≠ [] :=
  emit_ne_nil (fun _ hField => writeText_ne_nil hField) h

theorem writeClaim_ne_nil (claim : StoredClaim) (bs : Bytes)
    (h : writeClaim claim = .ok bs) : bs ≠ [] :=
  emit_ne_nil (fun _ hField => writeText_ne_nil hField) h

theorem writeSourceFloor_ne_nil (floor : StoredSourceFloor) (bs : Bytes)
    (h : writeSourceFloor floor = .ok bs) : bs ≠ [] :=
  emit_ne_nil (fun _ hField => writeText_ne_nil hField) h

theorem writeGeneration_ne_nil (generation : StoredGeneration) (bs : Bytes)
    (h : writeGeneration generation = .ok bs) : bs ≠ [] := by
  refine emit_ne_nil (fun field hField => ?_) h
  cases hField
  simp [u64, leBytes]

/-- An entity that fits a record has lists that fit their counts. -/
theorem sizedEntity_of_written {entity : StoredEntity} {out : Bytes}
    (h : writeEntity entity = .ok out) (hWord : out.length < 2 ^ 32) : SizedEntity entity :=
  ⟨length_lt_word writeCapability_ne_nil hWord (emit_mem h (by simp)),
    length_lt_word writeClaim_ne_nil hWord (emit_mem h (by simp)),
    length_lt_word writeSourceFloor_ne_nil hWord (emit_mem h (by simp)),
    length_lt_word writeGeneration_ne_nil hWord (emit_mem h (by simp))⟩

theorem readsBack_currentGeneration (generation : EntityGeneration) :
    ReadsBack readCurrentGeneration (.ok (u64 generation))
      (if generation ≠ 0 then some generation else none) := by
  refine .ok ?_
  rw [← List.append_nil (u64 generation)]
  refine Decodes.bind_some (decodes_u64 _) ?_
  by_cases hZero : generation = 0
  · rw [if_pos hZero, if_neg (not_not.2 hZero)]
    exact Decodes.fail _ _
  · rw [if_neg hZero, if_pos hZero]
    exact Decodes.pure _

theorem readsBack_capabilities {capabilities : List StoredCapability}
    (hWord : capabilities.length < 2 ^ 32) :
    ReadsBack readCapabilities (writeList writeCapability capabilities)
      (rereadCapabilities capabilities) := by
  intro out h
  exact Decodes.checked _ (readsBack_list _ _ hWord
    (fun capability _ => readsBack_capability capability) out h)

theorem readsBack_entity {entity : StoredEntity} (hSized : SizedEntity entity) :
    ReadsBack readEntity (writeEntity entity) entity.reread := by
  unfold StoredEntity.reread
  refine ReadsBack.bind_if (readsBack_entityId _) ?_
  by_cases hZero : entity.currentGeneration ≠ 0
  · have hGeneration := readsBack_currentGeneration entity.currentGeneration
    rw [if_pos hZero] at hGeneration ⊢
    refine ReadsBack.bind_some hGeneration ?_
    refine ReadsBack.bind_some (.ok (decodes_u64 _)) ?_
    refine ReadsBack.bind_some (.ok (decodes_bool _)) ?_
    refine ReadsBack.bind_some (.ok (decodes_u64 _)) ?_
    refine ReadsBack.bind_some (.ok (decodes_bool _)) ?_
    refine ReadsBack.bind_some (readsBack_optionalToken _ (by decide)) ?_
    refine ReadsBack.bind (readsBack_capabilities hSized.capabilities) fun capabilities _ => ?_
    refine ReadsBack.bind (readsBack_list _ _ hSized.claims fun claim _ =>
      readsBack_claim claim) fun claims _ => ?_
    refine ReadsBack.bind (readsBack_list _ _ hSized.sourceFloors fun floor _ =>
      readsBack_sourceFloor floor) fun sourceFloors _ => ?_
    rw [Option.map_eq_bind]
    exact ReadsBack.bind (readsBack_list _ _ hSized.history fun generation _ =>
      readsBack_generation generation) fun history _ => .done _
  · have hGeneration := readsBack_currentGeneration entity.currentGeneration
    rw [if_neg hZero] at hGeneration ⊢
    exact ReadsBack.bind_none hGeneration

/-! ## Grants, fences and registrations -/

/-- The lists of a grant are counted in words. -/
structure SizedGrant (grant : AuthorityGrant) : Prop where
  entityKinds : grant.entityKinds.length < 2 ^ 32
  namespaces : grant.namespaces.length < 2 ^ 32
  allowedPublishers : grant.allowedPublishers.length < 2 ^ 32

theorem sizedGrant_of_written {grant : AuthorityGrant} {out : Bytes}
    (h : writeGrant grant = .ok out) (hWord : out.length < 2 ^ 32) : SizedGrant grant := by
  have hKind : ∀ kind bs, writeEntityKind kind = .ok bs → bs ≠ [] := by
    intro kind bs hEq
    cases hEq
    exact List.cons_ne_nil _ _
  have hNamespace : ∀ ns bs, writeNamespace ns = .ok bs → bs ≠ [] :=
    fun _ _ => writeText_ne_nil
  have hPublisher : ∀ publisher bs, writeAllowedPublisher publisher = .ok bs → bs ≠ [] :=
    fun _ _ => writeText_ne_nil
  exact ⟨length_lt_word hKind hWord (emit_mem h (by simp)),
    length_lt_word hNamespace hWord (emit_mem h (by simp)),
    length_lt_word hPublisher hWord (emit_mem h (by simp))⟩

theorem decodes_namespace (ns : CapabilityNamespaceId) :
    Decodes readNamespace (textField ns.text) (if ns.isSet then some ns else none) := by
  have hLength := ns.length_le
  have hText : Decodes (readText kMaxCapabilityIdLength) (textField ns.text) (some ns.text) :=
    decodes_plainText ns.plain hLength (by simp only [kMaxCapabilityIdLength] at hLength; omega)
  have h := Decodes.checked CapabilityNamespaceId.parse hText
  rw [Option.bind_some] at h
  cases hSet : ns.isSet with
  | true =>
      rw [CapabilityNamespaceId.parse_text hSet] at h
      exact h
  | false =>
      have hNil : ns.text = [] := by simpa [CapabilityNamespaceId.isSet] using hSet
      rw [hNil, CapabilityNamespaceId.parse_nil] at h
      rw [hNil]
      exact h

theorem readsBack_maxClaims (maxClaims : Nat) :
    ReadsBack readMaxClaims (.ok (sizeU32 maxClaims))
      (if maxClaims % 2 ^ 32 ≤ kMaxClaimsPerPublication then some (maxClaims % 2 ^ 32)
        else none) := by
  refine .ok ?_
  rw [← List.append_nil (sizeU32 maxClaims)]
  refine Decodes.bind_some (decodes_sizeU32 _) ?_
  rw [UInt32.toNat_ofNat']
  by_cases hBound : maxClaims % 2 ^ 32 ≤ kMaxClaimsPerPublication
  · rw [if_neg (Nat.not_lt.2 hBound), if_pos hBound]
    exact Decodes.pure _
  · rw [if_pos (Nat.not_le.1 hBound), if_neg hBound]
    exact Decodes.fail _ _

/-- A counted list whose elements are read back when they pass. -/
theorem readsBack_within {α : Type} {rd : ByteReader α} {write : α → Outcome Bytes}
    {pass : α → Bool} (bound : Nat) (message : Bytes) {xs : List α}
    (hWord : xs.length < 2 ^ 32)
    (hItem : ∀ x ∈ xs, ReadsBack rd (write x) (if pass x then some x else none)) :
    ReadsBack (readList bound message rd) (writeList write xs)
      (if within bound pass xs then some xs else none) := by
  have h := readsBack_list bound message hWord hItem
  rw [listed, Decodes.mapM_guard] at h
  rw [within]
  by_cases hBound : xs.length ≤ bound
  · rw [if_pos hBound] at h
    simpa [hBound] using h
  · rw [if_neg hBound] at h
    simpa [hBound] using h

theorem readsBack_grant {grant : AuthorityGrant} (hSized : SizedGrant grant) :
    ReadsBack readGrant (writeGrant grant) grant.reread := by
  unfold AuthorityGrant.reread AuthorityGrant.readable
  refine ReadsBack.bind_guard (readsBack_token _ (by decide)) ?_
  refine ReadsBack.bind_guard (readsBack_within _ _ hSized.entityKinds fun kind _ =>
    .ok (by simpa using decodes_entityKind _ kind)) ?_
  refine ReadsBack.bind_guard (readsBack_within _ _ hSized.namespaces fun ns _ =>
    readsBack_text (decodes_namespace ns)) ?_
  refine ReadsBack.bind_some (.ok (decodes_u8 _)) ?_
  refine ReadsBack.bind_some (.ok (decodes_bool _)) ?_
  refine ReadsBack.bind_some (.ok (decodes_bool _)) ?_
  refine ReadsBack.bind_some (.ok (decodes_provenance _ _)) ?_
  refine ReadsBack.bind_guard (by simpa using readsBack_maxClaims _) ?_
  refine ReadsBack.bind_some (readsBack_optionalToken _ (by decide)) ?_
  rw [← Bool.and_true (within kMaxAllowedPublishers _ _)]
  refine ReadsBack.bind_guard (readsBack_within _ _ hSized.allowedPublishers
    fun publisher _ => readsBack_token publisher (by decide)) ?_
  exact .done _

theorem readsBack_fence (fence : StoredFence) :
    ReadsBack readFence (writeFence fence)
      (Option.guard (fun fence => fence.workerBoot.isSet) fence) := by
  unfold Option.guard
  refine ReadsBack.bind_if (readsBack_token _ (by decide)) ?_
  refine ReadsBack.bind_some (readsBack_optionalToken _ (by decide)) ?_
  exact ReadsBack.bind_some (readsBack_optionalToken _ (by decide)) (.done _)

theorem readsBack_registration (registration : StoredRegistration) :
    ReadsBack readRegistration (writeRegistration registration)
      (Option.guard StoredRegistration.complete registration) := by
  unfold Option.guard StoredRegistration.complete
  refine ReadsBack.bind_guard (readsBack_token _ (by decide)) ?_
  refine ReadsBack.bind_guard (readsBack_token _ (by decide)) ?_
  rw [← Bool.and_true registration.scope.isSet]
  exact ReadsBack.bind_guard (readsBack_token _ (by decide)) (.done _)

/-! ## The record loop -/

/-- All records of the bytes that are left. -/
def readAll (state : Decoding) (bytes : Bytes) : Outcome Decoding :=
  readRecords bytes.length state bytes

/-- One record as it is written. -/
def frame (type : UInt8) (body : Bytes) : Bytes := u8 type ++ sizeU32 body.length ++ body

theorem decodes_recordFrame (type : UInt8) {body : Bytes} (hWord : body.length < 2 ^ 32) :
    Decodes readRecordFrame (frame type body) (some (type, body)) := by
  unfold frame
  rw [List.append_assoc]
  refine Decodes.bind_some (decodes_u8 _) ?_
  refine Decodes.bind_some (decodes_sizeU32 _) ?_
  rw [toNat_sizeU32 hWord, ← List.append_nil body]
  exact Decodes.bind_some (by simpa using Decodes.readExact body _) (Decodes.pure _)

/-- A record takes at least one byte. -/
theorem readRecordFrame_shorter {bytes rest : Bytes} {r : UInt8 × Bytes}
    (h : readRecordFrame bytes = .ok (r, rest)) : rest.length < bytes.length := by
  obtain ⟨type, afterType, hType, h⟩ := bind_eq_ok.1 h
  obtain ⟨length, afterLength, hLength, h⟩ := bind_eq_ok.1 h
  obtain ⟨body, afterBody, hBody, hPure⟩ := bind_eq_ok.1 h
  cases hPure
  obtain ⟨raw, _, hRaw, hPure⟩ := bind_eq_ok.1 hType
  cases hPure
  obtain ⟨hOne, -, rfl⟩ := readExact_eq_ok.1 hRaw
  obtain ⟨raw, _, hRaw, hPure⟩ := bind_eq_ok.1 hLength
  cases hPure
  obtain ⟨-, -, rfl⟩ := readExact_eq_ok.1 hRaw
  obtain ⟨-, -, rfl⟩ := readExact_eq_ok.1 hBody
  simp only [List.length_drop]
  omega

/-- Enough rounds are as good as more. -/
theorem readRecords_rounds {n m : Nat} {state : Decoding} {bytes : Bytes}
    (hn : bytes.length ≤ n) (hm : bytes.length ≤ m) :
    readRecords n state bytes = readRecords m state bytes := by
  induction n generalizing m state bytes with
  | zero =>
      obtain rfl := List.length_eq_zero_iff.1 (Nat.le_zero.1 hn)
      cases m <;> rfl
  | succ n ih =>
      cases bytes with
      | nil => cases m <;> rfl
      | cons byte bytes =>
          cases m with
          | zero => simp at hm
          | succ m =>
              rw [readRecords, readRecords]
              cases hFrame : readRecordFrame (byte :: bytes) with
              | error e => rfl
              | ok r =>
                  obtain ⟨⟨type, body⟩, rest⟩ := r
                  have hShorter := readRecordFrame_shorter hFrame
                  simp only [bind, Except.bind]
                  cases readWhole (readRecordBody state type) body with
                  | error e => rfl
                  | ok next => exact ih (by omega) (by omega)

@[simp] theorem readAll_nil (state : Decoding) : readAll state [] = .ok state := rfl

/-- The loop takes the first record and goes on. -/
theorem readAll_frame (state : Decoding) (type : UInt8) {body : Bytes}
    (hWord : body.length < 2 ^ 32) (rest : Bytes) :
    readAll state (frame type body ++ rest) =
      (readWhole (readRecordBody state type) body >>= fun next => readAll next rest) := by
  have hFrame := decodes_recordFrame type hWord rest
  have hCons : frame type body ++ rest = type :: (sizeU32 body.length ++ body ++ rest) := rfl
  rw [hCons] at hFrame ⊢
  rw [readAll, List.length_cons, readRecords, hFrame]
  simp only [bind, Except.bind]
  cases readWhole (readRecordBody state type) body with
  | error e => rfl
  | ok next =>
      refine readRecords_rounds ?_ (Nat.le_refl _)
      simp only [List.length_append]
      omega

theorem toOption_bind {α β : Type} (x : Outcome α) (f : α → Outcome β) :
    (x >>= f).toOption = x.toOption.bind fun a => (f a).toOption := by
  cases x <;> rfl

theorem readWhole_toOption {α : Type} {rd : ByteReader α} {bs : Bytes} {r : Option α}
    (h : Decodes rd bs r) : (readWhole rd bs).toOption = r := by
  cases r with
  | some a => rw [(readWhole_eq_ok h).2 rfl, Except.toOption]
  | none =>
      cases hRead : readWhole rd bs with
      | error e => rfl
      | ok a => cases (readWhole_eq_ok h).1 hRead

/-- How records of one type are collected: which list of the payload they extend, its
bound, and the reader of their bodies. -/
structure Section (α : Type) where
  type : UInt8
  bound : Nat
  message : Bytes
  reader : ByteReader α
  held : StorePayload → List α
  set : StorePayload → List α → StorePayload
  held_set : ∀ payload xs, held (set payload xs) = xs
  set_held : ∀ payload, set payload (held payload) = payload
  set_set : ∀ payload xs ys, set (set payload xs) ys = set payload ys
  body : ∀ state, readRecordBody state type =
    readListed (held state.payload).length bound message reader
      (fun a => set state.payload (held state.payload ++ [a])) state

/-- Add what was read to the payload. -/
def Section.extend {α : Type} (sec : Section α) (state : Decoding) (ys : List α) : Decoding :=
  { state with payload := sec.set state.payload (sec.held state.payload ++ ys) }

section Extend

variable {α : Type} (sec : Section α) (state : Decoding)

@[simp] theorem held_extend (ys : List α) :
    sec.held (sec.extend state ys).payload = sec.held state.payload ++ ys := sec.held_set ..

@[simp] theorem extend_nil : sec.extend state [] = state := by
  rw [Section.extend, List.append_nil, sec.set_held]

@[simp] theorem extend_extend (xs ys : List α) :
    sec.extend (sec.extend state xs) ys = sec.extend state (xs ++ ys) := by
  simp [Section.extend, sec.held_set, sec.set_set]

/-- The body of a record of the section, below its bound. -/
theorem body_extend : readRecordBody state sec.type =
    if (sec.held state.payload).length ≥ sec.bound then
      fail (persistenceError .persistenceLimitExceeded sec.message [])
    else sec.reader >>= fun a => pure (sec.extend state [a]) :=
  sec.body state

end Extend

/-- A run of records of one section: up to the bound, each read back on its own. -/
theorem readAll_listed {α γ : Type} (sec : Section α) {enc : γ → Bytes}
    {reread : γ → Option α} {xs : List γ} (rest : Bytes)
    (hItem : ∀ x ∈ xs, (enc x).length < 2 ^ 32 ∧ Decodes sec.reader (enc x) (reread x))
    (state : Decoding) (hHeld : (sec.held state.payload).length ≤ sec.bound) :
    (readAll state (xs.flatMap (fun x => frame sec.type (enc x)) ++ rest)).toOption =
      (if (sec.held state.payload).length + xs.length ≤ sec.bound then xs.mapM reread
        else none).bind fun ys => (readAll (sec.extend state ys) rest).toOption := by
  induction xs generalizing state with
  | nil => simp [hHeld]
  | cons x xs ih =>
      obtain ⟨hWord, hFirst⟩ := hItem x (List.mem_cons_self ..)
      have hRest := ih fun y hy => hItem y (List.mem_cons_of_mem _ hy)
      rw [List.flatMap_cons, List.append_assoc, readAll_frame _ _ hWord, toOption_bind,
        body_extend, List.length_cons]
      by_cases hFull : (sec.held state.payload).length ≥ sec.bound
      · rw [if_pos hFull, if_neg (by omega)]
        have hFails : Decodes (fail (persistenceError .persistenceLimitExceeded sec.message [])
            : ByteReader Decoding) (enc x) none := Decodes.fail _ _
        rw [readWhole_toOption hFails]
        rfl
      · rw [if_neg hFull, readWhole_toOption (Decodes.map (sec.extend state [·]) hFirst),
          List.mapM_cons]
        cases reread x with
        | none => simp
        | some a =>
            rw [Option.map_some, Option.bind_some, hRest _ (by simp; omega), held_extend,
              List.length_append, List.length_singleton, Nat.add_assoc, Nat.add_comm 1]
            by_cases hBound : (sec.held state.payload).length + (xs.length + 1) ≤ sec.bound
            · rw [if_pos hBound, if_pos hBound]
              cases xs.mapM reread with
              | none => rfl
              | some ys => simp
            · rw [if_neg hBound, if_neg hBound]
              rfl

/-- A section of which nothing was read before. -/
theorem readAll_section {α γ : Type} (sec : Section α) {enc : γ → Bytes}
    {reread : γ → Option α} {xs : List γ}
    (hItem : ∀ x ∈ xs, (enc x).length < 2 ^ 32 ∧ Decodes sec.reader (enc x) (reread x))
    {state : Decoding} (hEmpty : sec.held state.payload = []) (rest : Bytes) :
    (readAll state (xs.flatMap (fun x => frame sec.type (enc x)) ++ rest)).toOption =
      (listed sec.bound reread xs).bind fun ys =>
        (readAll (sec.extend state ys) rest).toOption := by
  have h := readAll_listed sec rest hItem state (by simp [hEmpty])
  rwa [hEmpty, List.length_nil, Nat.zero_add] at h

def authoritySection : Section AuthorityGrant where
  type := kRecordAuthority
  bound := kMaxStoredAuthorities
  message := txt "store exceeds the authority bound"
  reader := readGrant
  held := StorePayload.authorities
  set payload authorities := { payload with authorities }
  held_set _ _ := rfl
  set_held _ := rfl
  set_set _ _ _ := rfl
  body _ := rfl

def fenceSection : Section StoredFence where
  type := kRecordFence
  bound := kMaxFencedWorkerBoots
  message := txt "store exceeds the fence bound"
  reader := readFence
  held := StorePayload.fences
  set payload fences := { payload with fences }
  held_set _ _ := rfl
  set_held _ := rfl
  set_set _ _ _ := rfl
  body _ := rfl

def registrationSection : Section StoredRegistration where
  type := kRecordRegistration
  bound := kMaxStoredRegistrations
  message := txt "store exceeds the registration bound"
  reader := readRegistration
  held := StorePayload.registrations
  set payload registrations := { payload with registrations }
  held_set _ _ := rfl
  set_held _ := rfl
  set_set _ _ _ := rfl
  body _ := rfl

def entitySection : Section StoredEntity where
  type := kRecordEntity
  bound := kMaxEntities
  message := txt "store exceeds the entity bound"
  reader := readEntity
  held := StorePayload.entities
  set payload entities := { payload with entities }
  held_set _ _ := rfl
  set_held _ := rfl
  set_set _ _ _ := rfl
  body _ := rfl

/-! ## The payload -/

theorem writeRecord_eq_ok {type : UInt8} {written : Outcome Bytes} {out : Bytes}
    (h : writeRecord type written = .ok out) :
    ∃ body, written = .ok body ∧ out = frame type body := by
  cases written with
  | error e => cases h
  | ok body =>
      cases h
      exact ⟨body, rfl, rfl⟩

theorem length_le_frame (type : UInt8) (body : Bytes) :
    body.length ≤ (frame type body).length := by
  simp only [frame, List.length_append]
  omega

/-- The records that were written for a list: a frame for each element. -/
theorem writeRecords_eq_ok {α : Type} (type : UInt8) {write : α → Outcome Bytes}
    {xs : List α} {out : Bytes}
    (h : emit (xs.map fun x => writeRecord type (write x)) = .ok out) :
    ∃ enc : α → Bytes, out = xs.flatMap (fun x => frame type (enc x)) ∧
      ∀ x ∈ xs, write x = .ok (enc x) ∧ (enc x).length ≤ out.length := by
  obtain ⟨f, hWritten, rfl⟩ := emit_map_eq_ok h
  have hBody : ∀ x ∈ xs, write x = .ok (orNothing (write x)) ∧
      f x = frame type (orNothing (write x)) := by
    intro x hMem
    obtain ⟨body, hBody, hFrame⟩ := writeRecord_eq_ok (hWritten x hMem)
    rw [hBody]
    exact ⟨rfl, hFrame⟩
  refine ⟨fun x => orNothing (write x), List.flatMap_congr fun x hMem => (hBody x hMem).2, ?_⟩
  intro x hMem
  refine ⟨(hBody x hMem).1, Nat.le_trans (length_le_frame type _) ?_⟩
  rw [← (hBody x hMem).2]
  obtain ⟨bs, hEq, hLength⟩ := emit_mem h (List.mem_map_of_mem hMem)
  rw [hWritten x hMem] at hEq
  cases hEq
  exact hLength

/-- The state after the meta record. -/
def afterMeta (payload : StorePayload) : Decoding :=
  { payload := { epoch := payload.epoch, registryGeneration := payload.registryGeneration }
    sawMeta := true }

theorem readAll_meta (payload : StorePayload) (rest : Bytes) :
    readAll {} (frame kRecordMeta (u64 payload.epoch ++ u64 payload.registryGeneration) ++
      rest) = readAll (afterMeta payload) rest := by
  have hMeta : Decodes (readRecordBody {} kRecordMeta)
      (u64 payload.epoch ++ u64 payload.registryGeneration) (some (afterMeta payload)) := by
    refine Decodes.bind_some (decodes_u64 _) ?_
    rw [← List.append_nil (u64 payload.registryGeneration)]
    exact Decodes.bind_some (decodes_u64 _) (Decodes.pure _)
  rw [readAll_frame _ _ (by simp [u64]), (readWhole_eq_ok hMeta).2 rfl]
  rfl

theorem decodePayload_toOption (body : Bytes) :
    (decodePayload body).toOption = (readAll {} body).toOption.bind fun state =>
      if state.sawMeta then some state.payload else none := by
  rw [decodePayload, toOption_bind, readAll]
  congr 1
  funext state
  split <;> rfl

/-- Every record of the payload fits the word that counts its bytes. -/
structure RecordsFit (payload : StorePayload) : Prop where
  authorities : ∀ grant ∈ payload.authorities, ∀ body ∈ (writeGrant grant).toOption,
    body.length < 2 ^ 32
  fences : ∀ fence ∈ payload.fences, ∀ body ∈ (writeFence fence).toOption, body.length < 2 ^ 32
  registrations : ∀ registration ∈ payload.registrations,
    ∀ body ∈ (writeRegistration registration).toOption, body.length < 2 ^ 32
  entities : ∀ entity ∈ payload.entities, ∀ body ∈ (writeEntity entity).toOption,
    body.length < 2 ^ 32

/-- The four lists of records behind the meta record. -/
theorem encodePayload_inv {payload : StorePayload} {body : Bytes}
    (h : encodePayload payload = .ok body) :
    ∃ authorities fences registrations entities,
      emit (payload.authorities.map fun grant =>
        writeRecord kRecordAuthority (writeGrant grant)) = .ok authorities ∧
      emit (payload.fences.map fun fence => writeRecord kRecordFence (writeFence fence)) =
        .ok fences ∧
      emit (payload.registrations.map fun registration =>
        writeRecord kRecordRegistration (writeRegistration registration)) =
          .ok registrations ∧
      emit (payload.entities.map fun entity =>
        writeRecord kRecordEntity (writeEntity entity)) = .ok entities ∧
      body = frame kRecordMeta (u64 payload.epoch ++ u64 payload.registryGeneration) ++
        (authorities ++ (fences ++ (registrations ++ (entities ++ [])))) := by
  simp only [encodePayload, emit_cons_eq_ok, emit_nil_eq_ok] at h
  obtain ⟨_, _, hMeta, ⟨authorities, _, hAuthorities, ⟨fences, _, hFences, ⟨registrations, _,
    hRegistrations, ⟨entities, _, hEntities, rfl, rfl⟩, rfl⟩, rfl⟩, rfl⟩, rfl⟩ := h
  obtain ⟨_, hWritten, rfl⟩ := writeRecord_eq_ok hMeta
  cases hWritten
  exact ⟨authorities, fences, registrations, entities, hAuthorities, hFences, hRegistrations,
    hEntities, rfl⟩

/-- In a payload of less than 4 GiB every record fits. -/
theorem recordsFit_of_encode {payload : StorePayload} {body : Bytes}
    (h : encodePayload payload = .ok body) (hWord : body.length < 2 ^ 32) :
    RecordsFit payload := by
  obtain ⟨_, _, _, _, hAuthorities, hFences, hRegistrations, hEntities, rfl⟩ :=
    encodePayload_inv h
  simp only [List.length_append] at hWord
  have hRecord : ∀ {α : Type} {type : UInt8} {write : α → Outcome Bytes} {xs : List α}
      {out : Bytes}, emit (xs.map fun x => writeRecord type (write x)) = .ok out →
      out.length < 2 ^ 32 → ∀ x ∈ xs, ∀ body ∈ (write x).toOption, body.length < 2 ^ 32 := by
    intro α type write xs out hEmit hOut x hMem body hBody
    obtain ⟨enc, -, hEnc⟩ := writeRecords_eq_ok type hEmit
    obtain ⟨hWritten, hLength⟩ := hEnc x hMem
    rw [hWritten] at hBody
    cases hBody
    omega
  exact ⟨hRecord hAuthorities (by omega), hRecord hFences (by omega),
    hRecord hRegistrations (by omega), hRecord hEntities (by omega)⟩

/-- A payload that was written in records that fit is read back as `reread` says. -/
theorem decodePayload_records {payload : StorePayload} {body : Bytes}
    (h : encodePayload payload = .ok body) (hFits : RecordsFit payload) :
    (decodePayload body).toOption = payload.reread := by
  obtain ⟨_, _, _, _, hAuthorities, hFences, hRegistrations, hEntities, rfl⟩ :=
    encodePayload_inv h
  obtain ⟨encGrant, rfl, hGrant⟩ := writeRecords_eq_ok authoritySection.type hAuthorities
  obtain ⟨encFence, rfl, hFence⟩ := writeRecords_eq_ok fenceSection.type hFences
  obtain ⟨encRegistration, rfl, hRegistration⟩ :=
    writeRecords_eq_ok registrationSection.type hRegistrations
  obtain ⟨encEntity, rfl, hEntity⟩ := writeRecords_eq_ok entitySection.type hEntities
  have hReadGrant : ∀ grant ∈ payload.authorities, (encGrant grant).length < 2 ^ 32 ∧
      Decodes readGrant (encGrant grant) grant.reread := by
    intro grant hMem
    have hWritten := (hGrant grant hMem).1
    have hLength := hFits.authorities grant hMem _ (by rw [hWritten]; rfl)
    exact ⟨hLength, readsBack_grant (sizedGrant_of_written hWritten hLength) _ hWritten⟩
  have hReadFence : ∀ fence ∈ payload.fences, (encFence fence).length < 2 ^ 32 ∧
      Decodes readFence (encFence fence)
        (Option.guard (fun fence => fence.workerBoot.isSet) fence) := by
    intro fence hMem
    have hWritten := (hFence fence hMem).1
    exact ⟨hFits.fences fence hMem _ (by rw [hWritten]; rfl), readsBack_fence fence _ hWritten⟩
  have hReadRegistration : ∀ registration ∈ payload.registrations,
      (encRegistration registration).length < 2 ^ 32 ∧
      Decodes readRegistration (encRegistration registration)
        (Option.guard StoredRegistration.complete registration) := by
    intro registration hMem
    have hWritten := (hRegistration registration hMem).1
    exact ⟨hFits.registrations registration hMem _ (by rw [hWritten]; rfl),
      readsBack_registration registration _ hWritten⟩
  have hReadEntity : ∀ entity ∈ payload.entities, (encEntity entity).length < 2 ^ 32 ∧
      Decodes readEntity (encEntity entity) entity.reread := by
    intro entity hMem
    have hWritten := (hEntity entity hMem).1
    have hLength := hFits.entities entity hMem _ (by rw [hWritten]; rfl)
    exact ⟨hLength, readsBack_entity (sizedEntity_of_written hWritten hLength) _ hWritten⟩
  rw [decodePayload_toOption, readAll_meta,
    readAll_section authoritySection hReadGrant rfl, Option.bind_assoc]
  refine congrArg _ (funext fun authorities => ?_)
  rw [readAll_section fenceSection hReadFence rfl, Option.bind_assoc]
  refine congrArg _ (funext fun fences => ?_)
  rw [readAll_section registrationSection hReadRegistration rfl, Option.bind_assoc]
  refine congrArg _ (funext fun registrations => ?_)
  rw [readAll_section entitySection hReadEntity rfl, Option.bind_assoc, Option.map_eq_bind]
  exact congrArg _ (funext fun entities => rfl)

/-- A payload that was written is read back as `reread` says. -/
theorem decodePayload_encode {payload : StorePayload} {body : Bytes}
    (h : encodePayload payload = .ok body) (hWord : body.length < 2 ^ 32) :
    (decodePayload body).toOption = payload.reread :=
  decodePayload_records h (recordsFit_of_encode h hWord)

/-! ## The file -/

/-- A word of the file, behind the bytes before it. -/
theorem wordAt_append {front rest : Bytes} {offset width v : Nat}
    (hOffset : front.length = offset) (hv : v < 256 ^ width) :
    wordAt (front ++ (leBytes width v ++ rest)) offset width = v := by
  rw [wordAt, ← hOffset, List.drop_left, List.take_left' (length_leBytes width v),
    leValue_leBytes hv]

theorem length_headerFields (entities : Nat) (body : Bytes) :
    (headerFields entities body).length = 64 := by
  simp only [headerFields, List.length_append, u32, sizeU64, u64, length_leBytes,
    (computeDigest body).size]
  rfl

section Header

variable {entities : Nat} {body : Bytes}

/-- The file that `WriteStore` lays out. -/
def layout (entities : Nat) (body : Bytes) : Bytes :=
  headerFields entities body ++ u32 (crc32 (headerFields entities body)) ++ body

theorem length_layout : (layout entities body).length = 68 + body.length := by
  simp only [layout, List.length_append, length_headerFields, u32, length_leBytes]

theorem drop_layout : (layout entities body).drop kStoreHeaderBytes = body := by
  have hLength : (headerFields entities body ++
      u32 (crc32 (headerFields entities body))).length = kStoreHeaderBytes := by
    simp only [List.length_append, length_headerFields, u32, length_leBytes, kStoreHeaderBytes]
  rw [layout, ← hLength, List.drop_left]

theorem take_layout : (layout entities body).take 64 = headerFields entities body := by
  rw [layout, List.append_assoc, ← length_headerFields entities body, List.take_left]

/-- The header of a file that was written is read back, with the length and the digest of
its body. -/
theorem parseHeader_layout (hBody : body.length < 2 ^ 64) :
    parseHeader (layout entities body) = .ok (headerOf (layout entities body)) ∧
      (headerOf (layout entities body)).payloadBytes.toNat = body.length ∧
      (headerOf (layout entities body)).payloadDigest = computeDigest body := by
  have hMagic : (layout entities body).take kStoreMagic.length = kStoreMagic := by
    simp only [layout, headerFields, List.append_assoc, List.take_left]
  have hCrc : wordAt (layout entities body) 64 4 =
      (crc32 (headerFields entities body)).toNat := by
    rw [layout, List.append_assoc]
    exact wordAt_append (length_headerFields entities body) (UInt32.toNat_lt _)
  have hVersion : wordAt (layout entities body) 8 4 = kFormatVersion.toNat := by
    simp only [layout, headerFields, List.append_assoc]
    exact wordAt_append rfl (UInt32.toNat_lt _)
  have hLength : wordAt (layout entities body) 16 8 = (UInt64.ofNat body.length).toNat := by
    have hFront : layout entities body =
        (kStoreMagic ++ u32 kFormatVersion ++ u32 kFlagsNone) ++
          (leBytes 8 (UInt64.ofNat body.length).toNat ++ (sizeU64 entities ++
            (computeDigest body).bytes ++ u32 (crc32 (headerFields entities body)) ++ body)) := by
      simp only [layout, headerFields, sizeU64, u64, List.append_assoc]
    rw [hFront]
    exact wordAt_append rfl (UInt64.toNat_lt _)
  have hDigest : ((layout entities body).drop 32).take kDigestBytes =
      (computeDigest body).bytes := by
    have hFront : layout entities body =
        (kStoreMagic ++ u32 kFormatVersion ++ u32 kFlagsNone ++ sizeU64 body.length ++
          sizeU64 entities) ++ ((computeDigest body).bytes ++
            (u32 (crc32 (headerFields entities body)) ++ body)) := by
      simp only [layout, headerFields, List.append_assoc]
    have hWidth : (kStoreMagic ++ u32 kFormatVersion ++ u32 kFlagsNone ++
        sizeU64 body.length ++ sizeU64 entities).length = 32 := by
      simp only [List.length_append, u32, sizeU64, u64, length_leBytes]
      rfl
    rw [hFront, ← hWidth, List.drop_left, List.take_left' (computeDigest body).size]
  have hEnough : ¬ (layout entities body).length < kStoreHeaderBytes := by
    simp only [length_layout, kStoreHeaderBytes]
    omega
  refine ⟨?_, ?_, ?_⟩
  · rw [parseHeader, if_neg hEnough, if_neg (not_not.2 hMagic), hCrc, take_layout,
      UInt32.ofNat_toNat, if_neg (not_not.2 rfl)]
    have hKnown : (headerOf (layout entities body)).formatVersion = kFormatVersion := by
      rw [headerOf, hVersion, UInt32.ofNat_toNat]
    rw [if_neg (not_not.2 hKnown)]
  · rw [headerOf, hLength, UInt64.ofNat_toNat, UInt64.toNat_ofNat_of_lt' hBody]
  · rw [headerOf, hDigest, Digest.ofBytes, dif_pos (computeDigest body).size]
    rfl

end Header

/-- A file that was written holds the encoded payload behind its header. -/
theorem writeStore_eq_ok {payload : StorePayload} {file : Bytes} {report : SaveReport}
    (h : writeStore payload = .ok (file, report)) :
    ∃ body, encodePayload payload = .ok body ∧ body.length ≤ kMaxPersistenceBytes ∧
      file = layout payload.entities.length body := by
  unfold writeStore at h
  cases hBody : encodePayload payload with
  | error e =>
      rw [hBody] at h
      cases h
  | ok body =>
      rw [hBody] at h
      simp only [bind, Except.bind] at h
      split at h
      · cases h
      · rename_i hBound
        cases h
        exact ⟨body, rfl, Nat.not_lt.1 hBound, rfl⟩

theorem writeStore_of_encode {payload : StorePayload} {body : Bytes}
    (hBody : encodePayload payload = .ok body) (hBound : body.length ≤ kMaxPersistenceBytes) :
    ∃ report, writeStore payload = .ok (layout payload.entities.length body, report) := by
  unfold writeStore
  simp only [hBody, bind, Except.bind]
  rw [if_neg (Nat.not_lt.2 hBound)]
  exact ⟨_, rfl⟩

/-- What `ReadStore` makes of a file that `WriteStore` wrote: the payload as it is reread,
unless the file exceeds the bound that is meant for its payload. -/
theorem readStore_writeStore {payload : StorePayload} {file : Bytes} {report : SaveReport}
    (h : writeStore payload = .ok (file, report)) (config : PersistenceConfig) :
    ((readStore config (some file)).toOption.map Prod.fst) =
      if file.length ≤ kMaxPersistenceBytes then payload.reread else none := by
  obtain ⟨body, hBody, hBound, rfl⟩ := writeStore_eq_ok h
  have hWord : body.length < 2 ^ 32 := by
    simp only [kMaxPersistenceBytes] at hBound
    omega
  obtain ⟨hHeader, hLength, hDigest⟩ :=
    @parseHeader_layout payload.entities.length body (by omega)
  rw [readStore, readFile]
  by_cases hFile : (layout payload.entities.length body).length ≤ kMaxPersistenceBytes
  · rw [if_neg (Nat.not_lt.2 hFile), if_pos hFile, hHeader, ← decodePayload_encode hBody hWord]
    simp only [bind, Except.bind, drop_layout]
    rw [if_neg (not_not.2 hLength), if_neg (not_not.2 hDigest.symm)]
    cases decodePayload body <;> rfl
  · rw [if_pos (Nat.not_le.1 hFile), if_neg hFile]
    rfl

end Store

end FabricCapability.Ports
