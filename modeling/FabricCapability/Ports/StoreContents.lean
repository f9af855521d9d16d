import FabricCapability.Ports.CanonicalDecoding
import FabricCapability.Ports.Corruption
import FabricCapability.Ports.LoadBounds

/-!
# What an accepted store file contains

`ReadStore` checks the header, the digest and every record on its own.  Between records it
compares nothing, and inside an entity record it compares the capabilities only: what the
payload holds twice, the records of the file hold twice, and the record count of the header is
not compared with the records.

The records of a file are cut off behind the header (`fileRecords`); what identifies a record
is the field at its front, and what identifies a claim are fields of its entity record
(`recordClaims`), which are cut off without being parsed.

## Main results

* `readRecords_collects`: the lists of the payload are the records of the file, in order.
* `recordClaims_gives`: the claims of an entity are the raw claims of its record.
* `wellFormed_iff`: when the payload of an accepted file is well formed.
-/

namespace FabricCapability.Ports

open FabricCapability.Verified.ByteCodec

/-! ## The records of a file -/

namespace Store

/-- The records of the bytes, as `DecodePayload` cuts them. -/
def cutRecords : Nat → Bytes → List (UInt8 × Bytes)
  | _, [] => []
  | 0, _ :: _ => []
  | rounds + 1, byte :: bytes =>
      match readRecordFrame (byte :: bytes) with
      | .error _ => []
      | .ok (record, rest) => record :: cutRecords rounds rest

/-- The records behind the header of a file. -/
def fileRecords (file : Bytes) : List (UInt8 × Bytes) :=
  cutRecords (file.drop kStoreHeaderBytes).length (file.drop kStoreHeaderBytes)

/-- The bodies of the records of one type. -/
def bodiesOf (type : UInt8) (records : List (UInt8 × Bytes)) : List Bytes :=
  (records.filter fun record => record.1 = type).map Prod.snd

theorem bodiesOf_append_self (type : UInt8) (body : Bytes) (records : List (UInt8 × Bytes)) :
    bodiesOf type (records ++ [(type, body)]) = bodiesOf type records ++ [body] := by
  simp [bodiesOf]

theorem bodiesOf_append_other {type other : UInt8} (h : other ≠ type) (body : Bytes)
    (records : List (UInt8 × Bytes)) :
    bodiesOf type (records ++ [(other, body)]) = bodiesOf type records := by
  simp [bodiesOf, h]

/-- What a reader finds at the front of a record. -/
def frontField {α : Type} (rd : ByteReader α) (body : Bytes) : Option α :=
  (rd body).toOption.map Prod.fst

/-- A text field: a length and that many bytes. -/
def rawText : ByteReader Bytes := readBytes (2 ^ 32)

/-- What tells a claim from others, as the record has it. -/
structure RawClaim where
  capability : Bytes
  id : Bytes
  source : Bytes
  workerBoot : Bytes
  currentness : UInt8

/-- The fields of a claim, none of which is looked into. -/
def rawClaim : ByteReader RawClaim := do
  let capability ← rawText
  let id ← rawText
  let source ← rawText
  let _publisher ← rawText
  let _scope ← rawText
  let workerBoot ← rawText
  let _attempt ← rawText
  let _publication ← rawText
  let _epoch ← readU64
  let _sourceGeneration ← readU64
  let _evidenceGeneration ← readU64
  let _provenance ← readU8
  let _sourceClass ← readU8
  let _durability ← readU8
  let _coverage ← readU8
  let _state ← readU8
  let currentness ← readU8
  -- where a value ends only its decoder tells
  let _value ← CapabilityValue.decode
  let _firmwareVersion ← rawText
  let _driverVersion ← rawText
  let _reason ← rawText
  pure { capability, id, source, workerBoot, currentness }

/-- The claims of an entity record, behind its fields and its capabilities. -/
def rawClaims : ByteReader (List RawClaim) := do
  let _id ← rawText
  let _currentGeneration ← readU64
  let _boundGeneration ← readU64
  let _hasSet ← readBool
  let _setGeneration ← readU64
  let _invalidated ← readBool
  let _invalidationReason ← rawText
  let capabilities ← readU32
  let _capabilities ← readTimes (rawText >>= fun _ => readU64) capabilities.toNat
  let claims ← readU32
  readTimes rawClaim claims.toNat

/-- The claim is marked neither superseded nor of a superseded generation. -/
def RawClaim.live (raw : RawClaim) : Bool :=
  raw.currentness != EvidenceCurrentness.superseded.toByte &&
    raw.currentness != EvidenceCurrentness.entityGenerationSuperseded.toByte

/-- What the claim answers for. -/
def RawClaim.speaker (raw : RawClaim) : Bytes × Bytes × Bytes :=
  (raw.capability, raw.source, raw.workerBoot)

def recordClaims (body : Bytes) : List RawClaim := (frontField rawClaims body).getD []

end Store

/-! ## Collecting the records -/

theorem readWhole_front {α : Type} {rd : ByteReader α} {bs : Bytes} {a : α}
    (h : readWhole rd bs = .ok a) : ∃ rest, rd bs = .ok (a, rest) := by
  unfold readWhole at h
  obtain ⟨read, hRead, h⟩ := outcome_bind_eq_ok.1 h
  obtain ⟨_, -, h⟩ := outcome_bind_eq_ok.1 h
  obtain rfl := Except.ok.inj h
  exact ⟨read.2, hRead⟩

namespace Store

/-- The lists of the payload are read from bodies of the records, in order. -/
structure ReadFrom (records : List (UInt8 × Bytes)) (payload : StorePayload) : Prop where
  authorities : List.Forall₂ (fun body grant => frontField readGrant body = some grant)
    (bodiesOf kRecordAuthority records) payload.authorities
  fences : List.Forall₂ (fun body fence => frontField readFence body = some fence)
    (bodiesOf kRecordFence records) payload.fences
  entities : List.Forall₂ (fun body entity => frontField readEntity body = some entity)
    (bodiesOf kRecordEntity records) payload.entities

/-- A listed record is appended to its list. -/
theorem readListed_inv {α : Type} {held bound : Nat} {message : Bytes} {rd : ByteReader α}
    {push : α → StorePayload} {state next : Decoding} {body : Bytes}
    (h : readWhole (readListed held bound message rd push state) body = .ok next) :
    ∃ a, frontField rd body = some a ∧ next.payload = push a := by
  obtain ⟨rest, h⟩ := readWhole_front h
  unfold readListed at h
  split at h
  · cases h
  · obtain ⟨a, rest, hRead, h⟩ := bind_eq_ok.1 h
    cases h
    exact ⟨a, by rw [frontField, hRead]; rfl, rfl⟩

theorem readMeta_inv {state next : Decoding} {body : Bytes}
    (h : readWhole (readMeta state) body = .ok next) :
    next.payload.authorities = state.payload.authorities ∧
      next.payload.fences = state.payload.fences ∧
      next.payload.entities = state.payload.entities := by
  obtain ⟨rest, h⟩ := readWhole_front h
  unfold readMeta at h
  split at h
  · cases h
  · obtain ⟨epoch, _, -, h⟩ := bind_eq_ok.1 h
    obtain ⟨generation, _, -, h⟩ := bind_eq_ok.1 h
    cases h
    exact ⟨rfl, rfl, rfl⟩

section Collecting

variable {α : Type} {records : List (UInt8 × Bytes)} {type other : UInt8} {body : Bytes}
  {rd : ByteReader α} {held : List α}

/-- A record of the type extends its list. -/
theorem collect_self {a : α} (hA : frontField rd body = some a)
    (h : List.Forall₂ (fun body a => frontField rd body = some a) (bodiesOf type records) held) :
    List.Forall₂ (fun body a => frontField rd body = some a)
      (bodiesOf type (records ++ [(type, body)])) (held ++ [a]) := by
  rw [bodiesOf_append_self]
  exact List.rel_append h (.cons hA .nil)

/-- A record of another type does not. -/
theorem collect_other (hOther : other ≠ type)
    (h : List.Forall₂ (fun body a => frontField rd body = some a) (bodiesOf type records) held) :
    List.Forall₂ (fun body a => frontField rd body = some a)
      (bodiesOf type (records ++ [(other, body)])) held := by
  rwa [bodiesOf_append_other hOther]

end Collecting

/-- One record extends the list of its type and no other. -/
theorem readRecordBody_collects {records : List (UInt8 × Bytes)} {state next : Decoding}
    {type : UInt8} {body : Bytes} (hState : ReadFrom records state.payload)
    (h : readWhole (readRecordBody state type) body = .ok next) :
    ReadFrom (records ++ [(type, body)]) next.payload := by
  unfold readRecordBody at h
  dsimp only at h
  by_cases hMeta : type = kRecordMeta
  · subst hMeta
    rw [if_pos rfl] at h
    obtain ⟨hAuthorities, hFences, hEntities⟩ := readMeta_inv h
    constructor
    · rw [hAuthorities]
      exact collect_other (by decide) hState.authorities
    · rw [hFences]
      exact collect_other (by decide) hState.fences
    · rw [hEntities]
      exact collect_other (by decide) hState.entities
  rw [if_neg hMeta] at h
  by_cases hAuthority : type = kRecordAuthority
  · subst hAuthority
    rw [if_pos rfl] at h
    obtain ⟨grant, hGrant, hNext⟩ := readListed_inv h
    rw [hNext]
    exact ⟨collect_self hGrant hState.authorities, collect_other (by decide) hState.fences,
      collect_other (by decide) hState.entities⟩
  rw [if_neg hAuthority] at h
  by_cases hFence : type = kRecordFence
  · subst hFence
    rw [if_pos rfl] at h
    obtain ⟨fence, hRead, hNext⟩ := readListed_inv h
    rw [hNext]
    exact ⟨collect_other (by decide) hState.authorities, collect_self hRead hState.fences,
      collect_other (by decide) hState.entities⟩
  rw [if_neg hFence] at h
  by_cases hRegistration : type = kRecordRegistration
  · subst hRegistration
    rw [if_pos rfl] at h
    obtain ⟨registration, -, hNext⟩ := readListed_inv h
    rw [hNext]
    exact ⟨collect_other (by decide) hState.authorities, collect_other (by decide) hState.fences,
      collect_other (by decide) hState.entities⟩
  rw [if_neg hRegistration] at h
  by_cases hEntity : type = kRecordEntity
  · subst hEntity
    rw [if_pos rfl] at h
    obtain ⟨entity, hRead, hNext⟩ := readListed_inv h
    rw [hNext]
    exact ⟨collect_other (by decide) hState.authorities, collect_other (by decide) hState.fences,
      collect_self hRead hState.entities⟩
  rw [if_neg hEntity] at h
  obtain ⟨rest, h⟩ := readWhole_front h
  cases h

/-- All records, by induction on the rounds. -/
theorem readRecords_collects {rounds : Nat} {before : List (UInt8 × Bytes)}
    {state final : Decoding} {bytes : Bytes} (hState : ReadFrom before state.payload)
    (hRounds : bytes.length ≤ rounds) (h : readRecords rounds state bytes = .ok final) :
    ReadFrom (before ++ cutRecords rounds bytes) final.payload := by
  induction rounds generalizing before state bytes with
  | zero =>
      obtain rfl := List.length_eq_zero_iff.1 (Nat.le_zero.1 hRounds)
      obtain rfl := Except.ok.inj h
      rw [cutRecords, List.append_nil]
      exact hState
  | succ rounds ih =>
      cases bytes with
      | nil =>
          obtain rfl := Except.ok.inj h
          rw [cutRecords, List.append_nil]
          exact hState
      | cons byte bytes =>
          rw [readRecords, outcome_bind_eq_ok] at h
          obtain ⟨⟨⟨type, body⟩, rest⟩, hFrame, h⟩ := h
          obtain ⟨next, hBody, h⟩ := outcome_bind_eq_ok.1 h
          have hShorter := readRecordFrame_shorter hFrame
          have hNext := ih (readRecordBody_collects hState hBody) (by omega) h
          rw [cutRecords, hFrame]
          rwa [List.append_assoc] at hNext

/-- The payload of an accepted file is read from its records. -/
theorem readStore_collects {config : PersistenceConfig} {file : Bytes} {payload : StorePayload}
    {report : LoadReport} (h : readStore config (some file) = .ok (payload, report)) :
    ReadFrom (fileRecords file) payload := by
  obtain ⟨-, -, -, hPayload⟩ := readFile_eq_ok h
  unfold decodePayload at hPayload
  obtain ⟨state, hRecords, hPayload⟩ := outcome_bind_eq_ok.1 hPayload
  have hStart : ReadFrom [] ({} : Decoding).payload := ⟨.nil, .nil, .nil⟩
  have hAll := readRecords_collects hStart (Nat.le_refl _) hRecords
  split at hPayload
  · obtain rfl := Except.ok.inj hPayload
    exact hAll
  · cases hPayload

/-! ## What one record says -/

/-- A capability of a record parses back from its text. -/
theorem readCapability_parsed {bs rest : Bytes} {capability : StoredCapability}
    (h : readCapability bs = .ok (capability, rest)) :
    (CapabilityId.parse capability.id.toText).toOption = some capability.id := by
  obtain ⟨id, afterId, hId, h⟩ := bind_eq_ok.1 h
  obtain ⟨generation, afterGeneration, -, h⟩ := bind_eq_ok.1 h
  cases h
  obtain ⟨text, afterText, -, hAccept⟩ := bind_eq_ok.1 hId
  have hParse := (accept_eq_ok.1 hAccept).1
  show (CapabilityId.parse id.toText).toOption = some id
  rw [(CapabilityId.parse_inv hParse).2, hParse]
  rfl

/-- The capabilities of a record are distinct: here the source does compare. -/
theorem readCapabilities_distinct {bs rest : Bytes} {capabilities : List StoredCapability}
    (h : readCapabilities bs = .ok (capabilities, rest)) :
    (capabilities.map StoredCapability.id).Nodup := by
  obtain ⟨read, afterList, hList, hAccept⟩ := bind_eq_ok.1 h
  obtain ⟨count, afterCount, -, hTimes⟩ := bind_eq_ok.1 hList
  have hParsed := (Yields.times (fun _ _ _ hRead => readCapability_parsed hRead) _ _ _ _ hTimes).2
  obtain ⟨hPerm, hTexts⟩ := checkCapabilities_distinct hParsed (accept_eq_ok.1 hAccept).1
  have hIds : (read.map StoredCapability.id).Nodup := by
    refine List.Nodup.of_map CapabilityId.toText ?_
    rwa [List.map_map]
  exact ((hPerm.map StoredCapability.id).nodup_iff).2 hIds

theorem frontField_eq_some {α : Type} {rd : ByteReader α} {body : Bytes} {a : α} :
    frontField rd body = some a ↔ ∃ rest, rd body = .ok (a, rest) := by
  unfold frontField
  cases hRead : rd body with
  | error e => simp [Except.toOption]
  | ok read =>
      obtain ⟨read, rest⟩ := read
      simp [Except.toOption]

/-- An entity record begins with its entity and the generation it is at. -/
theorem readEntity_inv {body rest : Bytes} {entity : StoredEntity}
    (h : readEntity body = .ok (entity, rest)) :
    frontField readEntityId body = some entity.id ∧ entity.currentGeneration ≠ 0 ∧
      (entity.capabilities.map StoredCapability.id).Nodup := by
  obtain ⟨id, _, hId, h⟩ := bind_eq_ok.1 h
  obtain ⟨generation, _, hGeneration, h⟩ := bind_eq_ok.1 h
  obtain ⟨_, _, -, h⟩ := bind_eq_ok.1 h
  obtain ⟨_, _, -, h⟩ := bind_eq_ok.1 h
  obtain ⟨_, _, -, h⟩ := bind_eq_ok.1 h
  obtain ⟨_, _, -, h⟩ := bind_eq_ok.1 h
  obtain ⟨_, _, -, h⟩ := bind_eq_ok.1 h
  obtain ⟨capabilities, _, hCapabilities, h⟩ := bind_eq_ok.1 h
  obtain ⟨_, _, -, h⟩ := bind_eq_ok.1 h
  obtain ⟨_, _, -, h⟩ := bind_eq_ok.1 h
  obtain ⟨_, _, -, h⟩ := bind_eq_ok.1 h
  cases h
  refine ⟨frontField_eq_some.2 ⟨_, hId⟩, ?_, readCapabilities_distinct hCapabilities⟩
  obtain ⟨read, _, -, hGeneration⟩ := bind_eq_ok.1 hGeneration
  by_cases hZero : read = 0
  · rw [if_pos hZero] at hGeneration
    cases hGeneration
  · rw [if_neg hZero] at hGeneration
    cases hGeneration
    exact hZero

theorem entity_front {body : Bytes} {entity : StoredEntity}
    (h : frontField readEntity body = some entity) :
    frontField readEntityId body = some entity.id ∧
      (entity.capabilities.map StoredCapability.id).Nodup := by
  obtain ⟨rest, hRead⟩ := frontField_eq_some.1 h
  obtain ⟨hId, -, hDistinct⟩ := readEntity_inv hRead
  exact ⟨hId, hDistinct⟩

theorem entity_known {body : Bytes} {entity : StoredEntity}
    (h : frontField readEntity body = some entity) : entity.currentGeneration ≠ 0 := by
  obtain ⟨rest, hRead⟩ := frontField_eq_some.1 h
  exact (readEntity_inv hRead).2.1

theorem grant_front {body : Bytes} {grant : AuthorityGrant}
    (h : frontField readGrant body = some grant) :
    frontField (readToken .authorityScopeId kMaxAuthorityScopeIdLength) body =
      some grant.scope := by
  obtain ⟨rest, hRead⟩ := frontField_eq_some.1 h
  obtain ⟨scope, _, hScope, hRead⟩ := bind_eq_ok.1 hRead
  obtain ⟨_, _, -, hRead⟩ := bind_eq_ok.1 hRead
  obtain ⟨_, _, -, hRead⟩ := bind_eq_ok.1 hRead
  obtain ⟨_, _, -, hRead⟩ := bind_eq_ok.1 hRead
  obtain ⟨_, _, -, hRead⟩ := bind_eq_ok.1 hRead
  obtain ⟨_, _, -, hRead⟩ := bind_eq_ok.1 hRead
  obtain ⟨_, _, -, hRead⟩ := bind_eq_ok.1 hRead
  obtain ⟨_, _, -, hRead⟩ := bind_eq_ok.1 hRead
  obtain ⟨_, _, -, hRead⟩ := bind_eq_ok.1 hRead
  obtain ⟨_, _, -, hRead⟩ := bind_eq_ok.1 hRead
  cases hRead
  exact frontField_eq_some.2 ⟨_, hScope⟩

theorem fence_front {body : Bytes} {fence : StoredFence}
    (h : frontField readFence body = some fence) :
    frontField (readToken .workerBootId kMaxWorkerBootLength) body = some fence.workerBoot := by
  obtain ⟨rest, hRead⟩ := frontField_eq_some.1 h
  obtain ⟨boot, _, hBoot, hRead⟩ := bind_eq_ok.1 hRead
  obtain ⟨_, _, -, hRead⟩ := bind_eq_ok.1 hRead
  obtain ⟨_, _, -, hRead⟩ := bind_eq_ok.1 hRead
  cases hRead
  exact frontField_eq_some.2 ⟨_, hBoot⟩

end Store

/-! ## The claims of a record -/

namespace Store

/-- The claim was read from these fields. -/
structure RawClaim.Gives (raw : RawClaim) (claim : StoredClaim) : Prop where
  capability : CapabilityId.parse raw.capability = .ok claim.capability
  id : claim.id.value = raw.id
  source : claim.source.value = raw.source
  workerBoot : claim.workerBoot.value = raw.workerBoot
  currentness : claim.currentness.toByte = raw.currentness

theorem rawText_relaxed (maxLength : Nat) :
    Relaxes rawText (readText maxLength) fun text raw => raw = text := by
  intro bs text rest h
  obtain ⟨length, tail, hLength, h⟩ := bind_eq_ok.1 h
  obtain ⟨-, h⟩ := ite_fail_eq_ok.1 h
  obtain ⟨available, tail', hAvailable, h⟩ := bind_eq_ok.1 h
  cases hAvailable
  obtain ⟨raw, tail', hRaw, h⟩ := bind_eq_ok.1 h
  obtain ⟨hOk, rfl⟩ := accept_eq_ok.1 h
  obtain rfl := rejectControl_eq_ok hOk
  have hWord : ¬length.toNat > 2 ^ 32 := Nat.not_lt.2 (Nat.le_of_lt length.toNat_lt)
  refine ⟨text, bind_eq_ok.2 ⟨length, tail, hLength, ?_⟩, rfl⟩
  rw [if_neg hWord, bind_eq_ok]
  exact ⟨_, _, rfl, readExact_eq_ok.2 (readExact_eq_ok.1 hRaw)⟩

theorem readToken_relaxed (tag : TokenTag) (maxLength : Nat) :
    Relaxes rawText (readToken tag maxLength) fun token raw => token.value = raw := by
  refine (rawText_relaxed maxLength).unread fun text raw hRaw bs token rest h => ?_
  obtain ⟨hParse, hRest⟩ := accept_eq_ok.1 h
  exact ⟨hRest, (TokenId.parse_eq_ok.1 hParse).2.trans hRaw.symm⟩

theorem readOptionalToken_relaxed (tag : TokenTag) (maxLength : Nat) :
    Relaxes rawText (readOptionalToken tag maxLength) fun _ _ => True := by
  refine (rawText_relaxed maxLength).unread fun text raw hRaw bs token rest h => ?_
  split at h
  · cases h
    exact ⟨rfl, trivial⟩
  · exact ⟨(accept_eq_ok.1 h).2, trivial⟩

theorem readCapabilityId_relaxed :
    Relaxes rawText readCapabilityId fun id raw => CapabilityId.parse raw = .ok id := by
  refine (rawText_relaxed _).unread fun text raw hRaw bs id rest h => ?_
  obtain ⟨hParse, hRest⟩ := accept_eq_ok.1 h
  exact ⟨hRest, hRaw ▸ hParse⟩

theorem readEntityId_relaxed : Relaxes rawText readEntityId fun _ _ => True :=
  (rawText_relaxed _).unread fun _ _ _ _ _ _ h => ⟨(accept_eq_ok.1 h).2, trivial⟩

theorem readStoredEnum_relaxed {α : Type} (table : List α) (toByte : α → UInt8)
    (message : Bytes) :
    Relaxes readU8 (readStoredEnum table toByte message) fun a raw => toByte a = raw := by
  refine (Relaxes.refl readU8).unread fun byte raw hRaw bs a rest h => ?_
  cases hFound : enumOfByte table toByte byte with
  | none =>
      simp only [hFound] at h
      cases h
  | some value =>
      simp only [hFound] at h
      cases h
      unfold enumOfByte at hFound
      have hSame := List.find?_some hFound
      exact ⟨rfl, (eq_of_beq hSame).trans hRaw.symm⟩

theorem readList_relaxed {α β : Type} {rd : ByteReader α} {loose : ByteReader β}
    {R : α → β → Prop} (bound : Nat) (message : Bytes) (h : Relaxes loose rd R) :
    Relaxes (readU32 >>= fun count => readTimes loose count.toNat) (readList bound message rd)
      (List.Forall₂ R) := by
  have hCount : Relaxes readU32 (readStoredCount bound message)
      fun count raw => count = raw.toNat := by
    refine (Relaxes.refl readU32).unread fun count raw hRaw bs read rest hRead => ?_
    obtain ⟨-, hRead⟩ := ite_fail_eq_ok.1 hRead
    cases hRead
    exact ⟨rfl, by rw [hRaw]⟩
  exact hCount.bind fun count raw hSame => hSame ▸ h.times count

theorem readClaim_relaxed :
    Relaxes rawClaim readClaim fun claim raw => raw.Gives claim := by
  refine readCapabilityId_relaxed.bind fun _ _ hCapability => ?_
  refine (readToken_relaxed _ _).bind fun _ _ hId => ?_
  refine (readToken_relaxed _ _).bind fun _ _ hSource => ?_
  refine (readToken_relaxed _ _).bind fun _ _ _ => ?_
  refine (readToken_relaxed _ _).bind fun _ _ _ => ?_
  refine (readToken_relaxed _ _).bind fun _ _ hBoot => ?_
  refine (readToken_relaxed _ _).bind fun _ _ _ => ?_
  refine (readToken_relaxed _ _).bind fun _ _ _ => ?_
  refine (Relaxes.refl readU64).bind fun _ _ _ => ?_
  refine (Relaxes.refl readU64).bind fun _ _ _ => ?_
  refine (Relaxes.refl readU64).bind fun _ _ _ => ?_
  refine (readStoredEnum_relaxed _ _ _).bind fun _ _ _ => ?_
  refine (readStoredEnum_relaxed _ _ _).bind fun _ _ _ => ?_
  refine (readStoredEnum_relaxed _ _ _).bind fun _ _ _ => ?_
  refine (readStoredEnum_relaxed _ _ _).bind fun _ _ _ => ?_
  refine (readStoredEnum_relaxed _ _ _).bind fun _ _ _ => ?_
  refine (readStoredEnum_relaxed _ _ _).bind fun _ _ hCurrentness => ?_
  refine (Relaxes.refl CapabilityValue.decode).bind fun _ _ _ => ?_
  refine (readOptionalToken_relaxed _ _).bind fun _ _ _ => ?_
  refine (readOptionalToken_relaxed _ _).bind fun _ _ _ => ?_
  refine (readOptionalToken_relaxed _ _).bind fun _ _ _ => ?_
  exact .pure ⟨hCapability, hId, hSource, hBoot, hCurrentness⟩

theorem readCurrentGeneration_relaxed :
    Relaxes readU64 readCurrentGeneration fun _ _ => True := by
  refine (Relaxes.refl readU64).unread fun current raw _ bs read rest h => ?_
  obtain ⟨-, hRead⟩ := ite_fail_eq_ok.1 h
  cases hRead
  exact ⟨rfl, trivial⟩

theorem readCapability_relaxed :
    Relaxes (rawText >>= fun _ => readU64) readCapability fun _ _ => True :=
  readCapabilityId_relaxed.bind fun _ _ _ =>
    (Relaxes.refl readU64).unread fun _ _ _ _ _ _ h => by cases h; exact ⟨rfl, trivial⟩

/-- The raw claims of an entity record are the fields that its claims were read from. -/
theorem recordClaims_gives {body : Bytes} {entity : StoredEntity}
    (h : frontField readEntity body = some entity) :
    List.Forall₂ (fun claim raw => raw.Gives claim) entity.claims (recordClaims body) := by
  obtain ⟨rest, h⟩ := frontField_eq_some.1 h
  obtain ⟨_, _, hId, h⟩ := bind_eq_ok.1 h
  obtain ⟨_, _, hCurrent, h⟩ := bind_eq_ok.1 h
  obtain ⟨_, _, hBound, h⟩ := bind_eq_ok.1 h
  obtain ⟨_, _, hHasSet, h⟩ := bind_eq_ok.1 h
  obtain ⟨_, _, hSet, h⟩ := bind_eq_ok.1 h
  obtain ⟨_, _, hInvalidated, h⟩ := bind_eq_ok.1 h
  obtain ⟨_, _, hReason, h⟩ := bind_eq_ok.1 h
  obtain ⟨_, _, hCapabilities, h⟩ := bind_eq_ok.1 h
  obtain ⟨claims, _, hClaims, h⟩ := bind_eq_ok.1 h
  obtain ⟨_, _, -, h⟩ := bind_eq_ok.1 h
  obtain ⟨_, _, -, h⟩ := bind_eq_ok.1 h
  cases h
  obtain ⟨_, _, hListed, hChecked⟩ := bind_eq_ok.1 hCapabilities
  obtain ⟨-, rfl⟩ := accept_eq_ok.1 hChecked
  obtain ⟨_, hId, -⟩ := readEntityId_relaxed _ _ _ hId
  obtain ⟨_, hCurrent, -⟩ := readCurrentGeneration_relaxed _ _ _ hCurrent
  obtain ⟨_, hReason, -⟩ := readOptionalToken_relaxed _ _ _ _ _ hReason
  obtain ⟨_, hListed, -⟩ := readList_relaxed _ _ readCapability_relaxed _ _ _ hListed
  obtain ⟨_, _, hCount, hListed⟩ := bind_eq_ok.1 hListed
  obtain ⟨raws, hClaims, hGives⟩ := readList_relaxed _ _ readClaim_relaxed _ _ _ hClaims
  have hRaws : frontField rawClaims body = some raws := frontField_eq_some.2 ⟨_,
    bind_eq_ok.2 ⟨_, _, hId, bind_eq_ok.2 ⟨_, _, hCurrent, bind_eq_ok.2 ⟨_, _, hBound,
    bind_eq_ok.2 ⟨_, _, hHasSet, bind_eq_ok.2 ⟨_, _, hSet, bind_eq_ok.2 ⟨_, _, hInvalidated,
    bind_eq_ok.2 ⟨_, _, hReason, bind_eq_ok.2 ⟨_, _, hCount,
    bind_eq_ok.2 ⟨_, _, hListed, hClaims⟩⟩⟩⟩⟩⟩⟩⟩⟩⟩
  rw [recordClaims, hRaws]
  exact hGives

end Store

/-! ## Well-formed payloads -/

/-- The claim is live in the file. -/
def StoredClaim.live (claim : StoredClaim) : Bool := !isRetired claim.currentness

/-- What a live claim answers for. -/
def StoredClaim.speaker (claim : StoredClaim) : CapabilityId × SourceId × WorkerBootId :=
  (claim.capability, claim.source, claim.workerBoot)

/-- No claim of an entity is there twice: neither its identifier nor, while it is live, its
capability with its source and boot. -/
def DistinctClaims (claims : List StoredClaim) : Prop :=
  (claims.map StoredClaim.id).Nodup ∧
    ((claims.filter StoredClaim.live).map StoredClaim.speaker).Nodup

/-- The same, of the fields in the record. -/
def DistinctRawClaims (raws : List Store.RawClaim) : Prop :=
  (raws.map Store.RawClaim.id).Nodup ∧
    ((raws.filter Store.RawClaim.live).map Store.RawClaim.speaker).Nodup

/-- A payload in which nothing is there twice, with as many entities as the header counts. -/
structure StorePayload.WellFormed (payload : StorePayload) (recordCount : UInt64) : Prop where
  entities : (payload.entities.map StoredEntity.id).Nodup
  capabilities : ∀ entity ∈ payload.entities,
    (entity.capabilities.map StoredCapability.id).Nodup
  claims : ∀ entity ∈ payload.entities, DistinctClaims entity.claims
  scopes : (payload.authorities.map AuthorityGrant.scope).Nodup
  boots : (payload.fences.map StoredFence.workerBoot).Nodup
  count : payload.entities.length = recordCount.toNat

namespace Store

/-- The records of a file differ in the fields at their fronts, entity records hold no claim
twice, and there are as many of these as the header counts. -/
structure DistinctRecords (file : Bytes) : Prop where
  entities : ((bodiesOf kRecordEntity (fileRecords file)).map (frontField readEntityId)).Nodup
  claims : ∀ body ∈ bodiesOf kRecordEntity (fileRecords file), DistinctRawClaims (recordClaims body)
  scopes : ((bodiesOf kRecordAuthority (fileRecords file)).map
    (frontField (readToken .authorityScopeId kMaxAuthorityScopeIdLength))).Nodup
  boots : ((bodiesOf kRecordFence (fileRecords file)).map
    (frontField (readToken .workerBootId kMaxWorkerBootLength))).Nodup
  count : (bodiesOf kRecordEntity (fileRecords file)).length = (headerOf file).recordCount.toNat

theorem RawClaim.Gives.live {raw : RawClaim} {claim : StoredClaim} (h : raw.Gives claim) :
    claim.live = raw.live := by
  rw [StoredClaim.live, RawClaim.live, ← h.currentness]
  cases claim.currentness <;> rfl

theorem RawClaim.Gives.same_id {raw other : RawClaim} {claim second : StoredClaim}
    (h : raw.Gives claim) (hOther : other.Gives second) : claim.id = second.id ↔ raw.id = other.id := by
  rw [← h.id, ← hOther.id]
  exact ⟨congrArg TokenId.value, TokenId.ext⟩

theorem RawClaim.Gives.same_speaker {raw other : RawClaim} {claim second : StoredClaim}
    (h : raw.Gives claim) (hOther : other.Gives second) :
    claim.speaker = second.speaker ↔ raw.speaker = other.speaker := by
  have hCapability : claim.capability = second.capability ↔ raw.capability = other.capability := by
    constructor
    · intro hSame
      rw [← (CapabilityId.parse_inv h.capability).2, ← (CapabilityId.parse_inv hOther.capability).2,
        hSame]
    · intro hSame
      exact Except.ok.inj (h.capability.symm.trans (hSame ▸ hOther.capability))
  have hToken {tag : TokenTag} {a b : TokenId tag} : a = b ↔ a.value = b.value :=
    ⟨congrArg TokenId.value, TokenId.ext⟩
  simp only [StoredClaim.speaker, RawClaim.speaker, Prod.mk.injEq, hCapability, hToken, h.source,
    hOther.source, h.workerBoot, hOther.workerBoot]

/-- Keys that agree on related elements are distinct together. -/
theorem nodup_related {α β κ μ : Type} {R : α → β → Prop} {key : α → κ} {field : β → μ}
    (hSame : ∀ a b c d, R a b → R c d → (key a = key c ↔ field b = field d)) {as : List α}
    {bs : List β} (h : List.Forall₂ R as bs) : (as.map key).Nodup ↔ (bs.map field).Nodup := by
  induction h with
  | nil => exact iff_of_true List.nodup_nil List.nodup_nil
  | @cons a b as bs hFirst hRest ih =>
      have hMem : key a ∈ as.map key ↔ field b ∈ bs.map field := by
        clear ih
        induction hRest with
        | nil => exact iff_of_false List.not_mem_nil List.not_mem_nil
        | cons hHead _ hTail =>
            rw [List.map_cons, List.map_cons, List.mem_cons, List.mem_cons, hTail,
              hSame _ _ _ _ hFirst hHead]
      rw [List.map_cons, List.map_cons, List.nodup_cons, List.nodup_cons, ih, hMem]

/-- Claims are distinct when the fields that they were read from are. -/
theorem distinct_gives {claims : List StoredClaim} {raws : List RawClaim}
    (h : List.Forall₂ (fun claim raw => raw.Gives claim) claims raws) :
    DistinctClaims claims ↔ DistinctRawClaims raws := by
  have hLive : List.Forall₂ (fun claim raw => raw.Gives claim) (claims.filter StoredClaim.live)
      (raws.filter RawClaim.live) := by
    induction h with
    | nil => exact .nil
    | cons hFirst _ ih =>
        rw [List.filter_cons, List.filter_cons, hFirst.live]
        split
        · exact .cons hFirst ih
        · exact ih
  exact and_congr (nodup_related (fun _ _ _ _ hA hB => hA.same_id hB) h)
    (nodup_related (fun _ _ _ _ hA hB => hA.same_speaker hB) hLive)

/-- Fields of records are distinct when what was read from them is. -/
theorem nodup_fields {α β : Type} {rd : ByteReader α} {field : Bytes → Option β} {key : α → β}
    {bodies : List Bytes} {held : List α}
    (hField : ∀ body a, frontField rd body = some a → field body = some (key a))
    (h : List.Forall₂ (fun body a => frontField rd body = some a) bodies held) :
    (held.map key).Nodup ↔ (bodies.map field).Nodup :=
  (nodup_related (fun _ _ _ _ hFirst hSecond => by
    rw [hField _ _ hFirst, hField _ _ hSecond, Option.some.injEq]) h).symm

/-- What holds of all that was read holds of all records. -/
theorem forall_held {α : Type} {rd : ByteReader α} {P : Bytes → Prop} {Q : α → Prop}
    {bodies : List Bytes} {held : List α}
    (hIff : ∀ body a, frontField rd body = some a → (Q a ↔ P body))
    (h : List.Forall₂ (fun body a => frontField rd body = some a) bodies held) :
    (∀ a ∈ held, Q a) ↔ ∀ body ∈ bodies, P body := by
  induction h with
  | nil => exact iff_of_true nofun nofun
  | cons hFirst _ ih =>
      rw [List.forall_mem_cons, List.forall_mem_cons, ih, hIff _ _ hFirst]

end Store

/-- The payload of an accepted file is well formed exactly when the records of the file are
distinct.  Its capabilities always are. -/
theorem wellFormed_iff {config : PersistenceConfig} {file : Bytes} {payload : StorePayload}
    {report : LoadReport} (h : Store.readStore config (some file) = .ok (payload, report)) :
    payload.WellFormed (Store.headerOf file).recordCount ↔ Store.DistinctRecords file := by
  have hRead := Store.readStore_collects h
  have hEntities := Store.nodup_fields (fun _ _ hFront => (Store.entity_front hFront).1)
    hRead.entities
  have hScopes := Store.nodup_fields (fun _ _ => Store.grant_front) hRead.authorities
  have hBoots := Store.nodup_fields (fun _ _ => Store.fence_front) hRead.fences
  have hClaims : (∀ entity ∈ payload.entities, DistinctClaims entity.claims) ↔
      ∀ body ∈ Store.bodiesOf kRecordEntity (Store.fileRecords file),
        DistinctRawClaims (Store.recordClaims body) :=
    Store.forall_held (fun _ _ hFront => Store.distinct_gives (Store.recordClaims_gives hFront))
      hRead.entities
  have hCapabilities : ∀ entity ∈ payload.entities,
      (entity.capabilities.map StoredCapability.id).Nodup :=
    (Store.forall_held (P := fun _ => True) (fun _ _ hFront =>
      iff_of_true (Store.entity_front hFront).2 trivial) hRead.entities).2 fun _ _ => trivial
  have hLength := hRead.entities.length_eq
  constructor
  · intro hFormed
    exact ⟨hEntities.1 hFormed.entities, hClaims.1 hFormed.claims, hScopes.1 hFormed.scopes,
      hBoots.1 hFormed.boots, hLength.trans hFormed.count⟩
  · intro hDistinct
    exact ⟨hEntities.2 hDistinct.entities, hCapabilities, hClaims.2 hDistinct.claims,
      hScopes.2 hDistinct.scopes, hBoots.2 hDistinct.boots, hLength.symm.trans hDistinct.count⟩

/-! ### Two entity records of one entity -/

namespace Sample

def bareEntity : StoredEntity where
  id := entity
  currentGeneration := 1
  boundGeneration := 1
  hasSet := false
  setGeneration := 0
  invalidated := false
  invalidationReason := .unset
  capabilities := []
  claims := []
  sourceFloors := []
  history := []

def entityStore (entities : List StoredEntity) : StorePayload :=
  { epoch := 1, registryGeneration := 1, entities }

/-- The file that holds the payload. -/
def storeFile (payload : StorePayload) : Bytes :=
  Store.layout payload.entities.length (orNothing (Store.encodePayload payload))

/-- It is accepted when its records read back. -/
theorem storeFile_accepted {payload : StorePayload}
    (hFits : (Store.encodePayload payload).toOption.any fun body =>
      68 + body.length ≤ kMaxPersistenceBytes)
    (hReread : payload.reread = some payload) :
    ∃ report, Store.readStore { storePath := txt "store" } (some (storeFile payload)) =
      .ok (payload, report) := by
  obtain ⟨body, hBody⟩ : ∃ body, Store.encodePayload payload = .ok body := by
    cases hBody : Store.encodePayload payload with
    | error e =>
        rw [hBody] at hFits
        cases hFits
    | ok body => exact ⟨body, rfl⟩
  rw [hBody] at hFits
  have hBound : 68 + body.length ≤ kMaxPersistenceBytes := of_decide_eq_true hFits
  obtain ⟨saved, hWrite⟩ := Store.writeStore_of_encode hBody (by omega)
  have hFile : storeFile payload = Store.layout payload.entities.length body := by
    rw [storeFile, hBody]
    rfl
  have hRead := Store.readStore_writeStore hWrite { storePath := txt "store" }
  rw [Store.length_layout, if_pos hBound, hReread, ← hFile] at hRead
  cases hStore : Store.readStore { storePath := txt "store" } (some (storeFile payload)) with
  | error e =>
      rw [hStore] at hRead
      cases hRead
  | ok read =>
      rw [hStore] at hRead
      obtain ⟨found, report⟩ := read
      obtain rfl : found = payload := Option.some.inj hRead
      exact ⟨report, rfl⟩

def storedClaim (id source : String) : StoredClaim where
  capability := capability
  id := token _ id
  source := token _ source
  publisher := publisher
  scope := scope
  workerBoot := bootOne
  epoch := 1
  sourceGeneration := 1
  evidenceGeneration := 1
  attempt := token _ "attempt-1"
  publication := token _ "publication-1"
  provenance := .authoritativeAdministrativeDeclaration
  sourceClass := .administrativeDeclaration
  durability := .durable
  coverage := .partialSurface
  state := .supported
  value := .absent
  firmwareVersion := .unset
  driverVersion := .unset
  reason := .unset
  currentness := .current

/-- Two scopes, two fenced boots and two entities, one of which holds the claims of two
sources. -/
def populated : StorePayload where
  epoch := 1
  registryGeneration := 1
  authorities := [grant, { grant with scope := token _ "scope-b" }]
  fences := [bootOne, bootTwo].map fun workerBoot =>
    { workerBoot, publisher, reason := token _ "replaced" }
  entities :=
    [{ bareEntity with
        capabilities := [{ id := capability, generation := 1 }]
        claims := [storedClaim "0123456789abcdef0123456789abcdef" "source-a",
          storedClaim "fedcba9876543210fedcba9876543210" "source-b"] },
     { bareEntity with
        id := (EntityId.parse (txt "switch:leaf-2")).toOption.getD .unset
        capabilities := [{ id := capability, generation := 1 }]
        claims := [storedClaim "00112233445566778899aabbccddeeff" "source-a"] }]

end Sample

theorem populated_store_accepted :
    ∃ report, Store.readStore { storePath := txt "store" }
        (some (Sample.storeFile Sample.populated)) = .ok (Sample.populated, report) ∧
      (Sample.populated.WellFormed
          (Store.headerOf (Sample.storeFile Sample.populated)).recordCount ↔
        Store.DistinctRecords (Sample.storeFile Sample.populated)) := by
  obtain ⟨report, hRead⟩ :=
    @Sample.storeFile_accepted Sample.populated (by decide +kernel) (by decide +kernel)
  exact ⟨report, hRead, wellFormed_iff hRead⟩

/-- A file with two records of one entity is accepted. -/
theorem entity_stored_twice_accepted :
    ¬∀ (config : PersistenceConfig) (file : Bytes) (payload : StorePayload)
        (report : LoadReport), Store.readStore config (some file) = .ok (payload, report) →
      payload.WellFormed (Store.headerOf file).recordCount := by
  intro h
  obtain ⟨report, hRead⟩ :=
    @Sample.storeFile_accepted (Sample.entityStore [Sample.bareEntity, Sample.bareEntity])
      (by decide +kernel) (by decide +kernel)
  have hEntities : ([Sample.bareEntity.id, Sample.bareEntity.id]).Nodup :=
    (h _ _ _ _ hRead).entities
  exact (List.nodup_cons.1 hEntities).1 (List.mem_cons_self ..)

end FabricCapability.Ports
