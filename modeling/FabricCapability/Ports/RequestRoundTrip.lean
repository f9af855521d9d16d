import FabricCapability.Ports.ValueRoundTrip
import FabricCapability.Ports.Wire

/-!
# Reading a publication request back

What `DecodePublicationRequest` returns on the bytes that
`EncodePublicationRequest` produced, for every request the encoder accepts.

The two functions agree on everything but the edits: the encoder writes the
capability of an edit once, the decoder expects it twice.  After the first
capability the decoder therefore takes the state and flag bytes of the claim for
the length of a text, and always stops there.

## Main results

* `readsBack_claim` — a claim reads back with the capability its text parses to,
  when its value is decodable.
* `readsBack_edit` — an encoded edit is never read.
* `decodePublicationRequest_encode` — a request reads back as itself exactly when
  it carries no edits and its parts pass the decoder's own checks.
-/

namespace FabricCapability.Ports

open FabricCapability.Verified.ByteCodec

/-! ## Enumeration fields -/

section Tables

variable {α : Type} [DecidableEq α]

/-- An enumerator of its table reads back. -/
theorem readsBack_enum {table : List α} {value : α} (what : Bytes) (hMem : value ∈ table)
    (hLen : table.length ≤ 256) :
    ReadsBack (readEnum table what) (writeEnum table value) (some value) := by
  refine ReadsBack.ok ?_
  rw [← List.append_nil (u8 _)]
  refine Decodes.bind_some (decodes_u8 _) ?_
  have hIdx : table.idxOf value < table.length := List.idxOf_lt_length_iff.2 hMem
  have hCode : (UInt8.ofNat (wireCodeOf table value)).toNat = table.idxOf value := by
    rw [wireCodeOf, if_pos hMem, UInt8.toNat_ofNat']
    exact Nat.mod_eq_of_lt (by omega)
  have hGet : table[table.idxOf value]? = some value := by
    rw [List.getElem?_eq_getElem hIdx, List.getElem_idxOf]
  rw [hCode, hGet]
  exact Decodes.pure value

end Tables

/-! ## Authority context -/

def AuthorityContext.readable (authority : AuthorityContext) : Bool :=
  authority.scope.isSet && (authority.publisher.isSet && (authority.workerBoot.isSet &&
    authority.source.isSet))

theorem readsBack_authority (authority : AuthorityContext) :
    ReadsBack readAuthority (writeAuthority authority)
      (if authority.readable then some authority else none) := by
  unfold AuthorityContext.readable
  refine ReadsBack.bind_guard (readsBack_token _ (by decide)) ?_
  refine ReadsBack.bind_guard (readsBack_token _ (by decide)) ?_
  refine ReadsBack.bind_guard (readsBack_token _ (by decide)) ?_
  rw [← Bool.and_true authority.source.isSet]
  refine ReadsBack.bind_guard (readsBack_token _ (by decide)) ?_
  exact ReadsBack.bind_some (.ok (decodes_u64 _)) (.done _)

/-! ## Claims -/

theorem isAbsent_eq_true {value : CapabilityValue} (h : value.isAbsent = true) :
    value = .absent := by
  obtain ⟨storage, hCanonical⟩ := value
  cases storage <;> first | rfl | cases h

/-- A value field reads back when the value is decodable. -/
theorem decodes_optionalValue (value : CapabilityValue) :
    Decodes readOptionalValue (writeOptionalValue value)
      (if value.decodable then some value else none) := by
  refine Decodes.bind_some (decodes_bool _) ?_
  cases h : value.isAbsent with
  | true =>
      rw [isAbsent_eq_true h]
      exact Decodes.pure _
  | false => exact value.decodes

/-- The fields of a claim after its capability. -/
theorem readsBack_claimBody (claim : CapabilityClaim) (capability : CapabilityId) :
    ReadsBack (readClaimBody capability) (writeClaimBody claim)
      (if claim.value.decodable then some { claim with capability } else none) := by
  refine ReadsBack.bind_some (readsBack_enum _ (mem_kStateWire _) (by decide)) ?_
  rw [← Bool.and_true claim.value.decodable]
  refine ReadsBack.bind_guard (.ok (decodes_optionalValue claim.value)) ?_
  refine ReadsBack.bind_some (readsBack_enum _ (mem_kProvenanceWire _) (by decide)) ?_
  refine ReadsBack.bind_some (readsBack_enum _ (mem_kSourceClassWire _) (by decide)) ?_
  refine ReadsBack.bind_some (readsBack_enum _ (mem_kDurabilityWire _) (by decide)) ?_
  refine ReadsBack.bind_some (readsBack_enum _ (mem_kCoverageWire _) (by decide)) ?_
  refine ReadsBack.bind_some (readsBack_optionalToken _ (by decide)) ?_
  refine ReadsBack.bind_some (readsBack_optionalToken _ (by decide)) ?_
  exact ReadsBack.bind_some (readsBack_optionalToken _ (by decide)) (.done _)

/-- What `ReadClaim` makes of a claim that was written. -/
def rereadClaim (claim : CapabilityClaim) : Option CapabilityClaim :=
  (CapabilityId.parse claim.capability.toText).toOption.bind fun capability =>
    if claim.value.decodable then some { claim with capability } else none

theorem readsBack_claim (claim : CapabilityClaim) :
    ReadsBack readClaim (writeClaim claim) (rereadClaim claim) := by
  intro out h
  simp only [writeClaim, emit_cons_eq_ok, emit_nil_eq_ok] at h
  obtain ⟨_, _, hCapability, ⟨_, _, hBody, rfl, rfl⟩, rfl⟩ := h
  rw [writeText_textField hCapability, List.append_nil]
  exact Decodes.bind (decodes_capabilityId _) fun capability _ =>
    readsBack_claimBody claim capability _ hBody

/-! ## Edits -/

/-- What a text that was read looks like: its length is in the first four bytes and
its bytes follow, none of them a control character. -/
theorem readText_inv {a b c d : UInt8} {tail text rest : Bytes} {maxLength : Nat}
    (h : readText maxLength (a :: b :: c :: d :: tail) = .ok (text, rest)) :
    leValue [a, b, c, d] ≤ maxLength ∧ text = tail.take (leValue [a, b, c, d]) ∧
      text.any isControl = false := by
  have hWord : (UInt32.ofNat (leValue [a, b, c, d])).toNat = leValue [a, b, c, d] :=
    toNat_sizeU32 (by have := leValue_lt [a, b, c, d]; simpa using this)
  obtain ⟨length, tail', hLength, h⟩ := bind_eq_ok.1 h
  obtain ⟨raw, tail'', hRaw, hPure⟩ := bind_eq_ok.1 hLength
  obtain ⟨-, rfl, rfl⟩ := readExact_eq_ok.1 hRaw
  cases hPure
  simp only [List.take_succ_cons, List.take_zero, hWord] at h
  split at h
  · cases h
  · rename_i hMax
    obtain ⟨available, _, hAvailable, h⟩ := bind_eq_ok.1 h
    cases hAvailable
    obtain ⟨raw, rest', hRaw, h⟩ := bind_eq_ok.1 h
    obtain ⟨-, rfl, rfl⟩ := readExact_eq_ok.1 hRaw
    have hChecked := congrArg Except.toOption (accept_eq_ok.1 h).1
    rw [rejectControl_toOption] at hChecked
    split at hChecked
    · cases hChecked
    · rename_i hAny
      cases hChecked
      exact ⟨by omega, rfl, by simpa using hAny⟩

/-- No capability is read where a control character follows the first four bytes. -/
theorem readCapabilityId_before_control {a b c d control : UInt8} (tail : Bytes)
    (hControl : isControl control = true) :
    ∃ e, readCapabilityId (a :: b :: c :: d :: control :: tail) = .error e := by
  cases hRead : readCapabilityId (a :: b :: c :: d :: control :: tail) with
  | error e => exact ⟨e, rfl⟩
  | ok r =>
      obtain ⟨text, rest, hText, hParse⟩ := bind_eq_ok.1 hRead
      obtain ⟨-, hTake, hPlain⟩ := readText_inv hText
      cases hLength : leValue [a, b, c, d] with
      | zero =>
          have hNil : text = [] := by rw [hTake, hLength, List.take_zero]
          have hFails : (CapabilityId.parse []).toOption = none := by decide +kernel
          rw [hNil] at hParse
          rw [(accept_eq_ok.1 hParse).1] at hFails
          cases hFails
      | succ n =>
          rw [hTake, hLength, List.take_succ_cons, List.any_cons, hControl] at hPlain
          cases hPlain

/-- No capability is read where the second byte is one: the length would be above
every bound. -/
theorem readCapabilityId_before_flag (a c d : UInt8) (tail : Bytes) :
    ∃ e, readCapabilityId (a :: 1 :: c :: d :: tail) = .error e := by
  cases hRead : readCapabilityId (a :: 1 :: c :: d :: tail) with
  | error e => exact ⟨e, rfl⟩
  | ok r =>
      obtain ⟨text, rest, hText, -⟩ := bind_eq_ok.1 hRead
      have hMax := (readText_inv hText).1
      simp only [leValue, kMaxCapabilityIdLength, UInt8.reduceToNat] at hMax
      omega

/-- The fields of a claim never start with a capability. -/
theorem claimBody_no_capability {claim : CapabilityClaim} {out : Bytes}
    (h : writeClaimBody claim = .ok out) :
    Decodes readCapabilityId out none := by
  simp only [writeClaimBody, emit_cons_eq_ok, emit_nil_eq_ok] at h
  obtain ⟨_, _, hState, ⟨_, _, hValue, ⟨_, _, hProvenance, ⟨_, _, hSourceClass,
    ⟨_, tail, hDurability, -, rfl⟩, rfl⟩, rfl⟩, rfl⟩, rfl⟩ := h
  cases hState
  cases hValue
  cases hProvenance
  cases hSourceClass
  cases hDurability
  intro rest
  cases hAbsent : claim.value.isAbsent with
  | true =>
      -- state, flag, provenance and source class are taken for the length
      rw [writeOptionalValue, hAbsent]
      refine readCapabilityId_before_control (tail ++ rest) ?_
      cases claim.durability <;> decide
  | false =>
      -- the flag is one, and at least two bytes follow it
      rw [writeOptionalValue, hAbsent, CapabilityValue.encode]
      cases hFields : claim.value.storage.encodeFields with
      | nil => exact readCapabilityId_before_flag _ _ _ _
      | cons b bs => exact readCapabilityId_before_flag _ _ _ _

/-- A claim is not read in front of the fields that follow a capability. -/
theorem decodes_claim_at_body {claim : CapabilityClaim} {out : Bytes}
    (h : writeClaimBody claim = .ok out) : Decodes readClaim out none :=
  Decodes.then_none (claimBody_no_capability h)

/-- An encoded edit is never read. -/
theorem readsBack_edit (edit : IncrementalEdit) : ReadsBack readEdit (writeEdit edit) none := by
  intro out h
  unfold writeEdit at h
  split at h
  · cases h
  · refine ReadsBack.bind_some (readsBack_enum _ ?_ (by decide)) ?_ out h
    · cases edit.operation <;> decide
    · intro bs hClaim
      simp only [writeClaim, emit_cons_eq_ok, emit_nil_eq_ok] at hClaim
      obtain ⟨_, _, ⟨_, _, hCapability, ⟨body, _, hBody, rfl, rfl⟩, rfl⟩, rfl, rfl⟩ := hClaim
      rw [writeText_textField hCapability, List.append_nil, List.append_nil]
      have hNone : ((CapabilityId.parse edit.capability.toText).toOption.bind
          fun _ => (none : Option IncrementalEdit)) = none := Option.bind_fun_none _
      rw [← hNone]
      exact Decodes.bind (decodes_capabilityId edit.capability) fun _ _ =>
        Decodes.then_none (decodes_claim_at_body hBody)

/-! ## Requests -/

/-- What the decoder asks of a request and the encoder does not. -/
structure PublicationRequest.Readable (request : PublicationRequest) : Prop where
  noEdits : request.edits = []
  attempt : request.attempt.isSet = true
  publication : request.publication.isSet = true
  authority : request.authority.readable = true
  entity : request.entity.isSet = true
  claims : ∀ claim ∈ request.claims,
    claim.capability.Reparses ∧ claim.value.decodable = true

theorem rereadClaim_eq_some {claim : CapabilityClaim} :
    rereadClaim claim = some claim ↔
      claim.capability.Reparses ∧ claim.value.decodable = true := by
  unfold rereadClaim CapabilityId.Reparses
  cases hParse : CapabilityId.parse claim.capability.toText with
  | error e => simp [Except.toOption]
  | ok capability =>
      cases hValue : claim.value.decodable with
      | false => simp [Except.toOption]
      | true =>
          simp only [Except.toOption, Option.bind_some, if_true, Option.some.injEq,
            Except.ok.injEq, and_true]
          constructor
          · intro h
            rw [← h]
          · rintro rfl
            rfl

theorem mapM_rereadClaim_eq_some {claims : List CapabilityClaim} :
    claims.mapM rereadClaim = some claims ↔ ∀ c ∈ claims, rereadClaim c = some c := by
  induction claims with
  | nil => simp
  | cons claim rest ih =>
      rw [List.mapM_cons, List.forall_mem_cons, ← ih]
      cases hHead : rereadClaim claim with
      | none => simp
      | some c =>
          cases hTail : rest.mapM rereadClaim with
          | none => simp
          | some cs => simp

/-- A list length within its bound reads back. -/
theorem decodes_listCount {count maxCount : Nat} (message : Bytes) (hMax : count ≤ maxCount)
    (hWord : maxCount < 2 ^ 32) :
    Decodes (readListCount maxCount message) (sizeU32 count) (some count) := by
  rw [← List.append_nil (sizeU32 count)]
  refine Decodes.bind_some (decodes_sizeU32 count) ?_
  rw [toNat_sizeU32 (by omega)]
  simp only [gt_iff_lt, Nat.not_lt.2 hMax, if_false]
  exact Decodes.pure count

/-- A list of edits is read only when it is empty. -/
theorem readsBack_edits (edits : List IncrementalEdit) :
    ReadsBack (readTimes readEdit edits.length) (emit (edits.map writeEdit))
      (if edits.isEmpty then some [] else none) := by
  cases edits with
  | nil => exact .done []
  | cons edit rest => exact ReadsBack.bind_none (readsBack_edit edit)

/-- What the decoder returns in front of an encoded request. -/
def rereadRequest (request : PublicationRequest) : Option PublicationRequest :=
  if request.attempt.isSet then
    if request.publication.isSet then
      if request.authority.readable then
        if request.entity.isSet then
          (request.claims.mapM rereadClaim).bind fun claims =>
            if request.edits.isEmpty then some { request with claims, edits := [] } else none
        else none
      else none
    else none
  else none

theorem checkClaimBound_eq_ok {request : PublicationRequest} {out : Bytes}
    (h : checkClaimBound request = .ok out) :
    out = [] ∧ request.claims.length ≤ kMaxClaimsPerPublication ∧
      request.edits.length ≤ kMaxClaimsPerPublication := by
  unfold checkClaimBound at h
  split at h
  · cases h
  · rename_i hFew
    cases h
    simpa using hFew

theorem readsBack_request (request : PublicationRequest) :
    ReadsBack decodePublicationRequestFields (encodePublicationRequest request)
      (rereadRequest request) := by
  unfold rereadRequest
  refine ReadsBack.bind_some (readsBack_enum _ (mem_kModeWire _) (by decide)) ?_
  refine ReadsBack.bind_if (readsBack_token _ (by decide)) ?_
  refine ReadsBack.bind_if (readsBack_token _ (by decide)) ?_
  refine ReadsBack.bind_some (.ok (decodes_u64 _)) ?_
  refine ReadsBack.bind_if (readsBack_authority _) ?_
  refine ReadsBack.bind_if (readsBack_entityId _) ?_
  refine ReadsBack.bind_some (.ok (decodes_u64 _)) ?_
  refine ReadsBack.bind_some (.ok (decodes_u64 _)) ?_
  refine ReadsBack.bind_some (readsBack_enum _ (mem_kCoverageWire _) (by decide)) ?_
  refine ReadsBack.bind_some (readsBack_optionalToken _ (by decide)) ?_
  refine ReadsBack.unread (fun _ hBound => (checkClaimBound_eq_ok hBound).1) fun hBound => ?_
  obtain ⟨-, hClaims, hEdits⟩ := checkClaimBound_eq_ok hBound
  refine ReadsBack.bind_some (.ok (decodes_listCount _ hClaims (by decide))) ?_
  refine ReadsBack.bind (ReadsBack.readTimes _ fun claim _ => readsBack_claim claim)
    fun claims _ => ?_
  refine ReadsBack.bind_some (.ok (decodes_listCount _ hEdits (by decide))) ?_
  refine ReadsBack.bind_if (p := request.edits.isEmpty) (readsBack_edits request.edits) ?_
  exact .done _

theorem rereadRequest_eq_some {request : PublicationRequest} :
    rereadRequest request = some request ↔ request.Readable := by
  constructor
  · intro h
    unfold rereadRequest at h
    split at h
    · rename_i hAttempt
      split at h
      · rename_i hPublication
        split at h
        · rename_i hAuthority
          split at h
          · rename_i hEntity
            obtain ⟨claims, hClaims, h⟩ := Option.bind_eq_some_iff.1 h
            split at h
            · rename_i hEdits
              have hSame : claims = request.claims :=
                congrArg PublicationRequest.claims (Option.some.inj h)
              rw [hSame] at hClaims
              exact ⟨List.isEmpty_iff.1 hEdits, hAttempt, hPublication, hAuthority, hEntity,
                fun c hc => rereadClaim_eq_some.1 (mapM_rereadClaim_eq_some.1 hClaims c hc)⟩
            · cases h
          · cases h
        · cases h
      · cases h
    · cases h
  · intro h
    have hClaims : request.claims.mapM rereadClaim = some request.claims :=
      mapM_rereadClaim_eq_some.2 fun c hc => rereadClaim_eq_some.2 (h.claims c hc)
    rw [rereadRequest, if_pos h.attempt, if_pos h.publication, if_pos h.authority,
      if_pos h.entity, hClaims, Option.bind_some, if_pos (List.isEmpty_iff.2 h.noEdits)]
    rw [← h.noEdits]

/-- A request the encoder accepted reads back as itself exactly when it carries no
edits and passes the decoder's own checks. -/
theorem decodePublicationRequest_encode {request : PublicationRequest} {payload : Bytes}
    (h : encodePublicationRequest request = .ok payload) :
    decodePublicationRequest payload = .ok request ↔ request.Readable := by
  rw [← rereadRequest_eq_some]
  exact readWhole_eq_ok (readsBack_request request payload h)

/-! ### Two requests -/

/-- A partial observation of one boolean capability. -/
def observation : PublicationRequest where
  mode := .partialObservation
  attempt := .parseOrUnset (txt "attempt-1")
  publication := .parseOrUnset (txt "publication-1")
  epoch := 1
  authority :=
    { scope := .parseOrUnset (txt "scope-1")
      publisher := .parseOrUnset (txt "publisher-1")
      workerBoot := .parseOrUnset (txt "0123456789abcdef")
      source := .parseOrUnset (txt "source-1")
      sourceGeneration := 1 }
  entity := (EntityId.parse (txt "nic:a")).toOption.getD .unset
  entityGeneration := 1
  expectedSetGeneration := 0
  claims :=
    [{ capability := (CapabilityId.parse (txt "fabric.queue.lossless")).toOption.getD .unset
       state := .supported
       value := .boolean true }]

/-- The same capability withdrawn by an incremental publication. -/
def withdrawal : PublicationRequest :=
  { observation with
    mode := .incremental
    claims := []
    edits :=
      [{ operation := .withdrawClaim
         capability := (CapabilityId.parse (txt "fabric.queue.lossless")).toOption.getD .unset
         claim := { capability := .unset } }] }

theorem observation_reads_back :
    ∃ payload, encodePublicationRequest observation = .ok payload ∧
      (decodePublicationRequest payload = .ok observation ↔ observation.Readable) := by
  refine ⟨orNothing (encodePublicationRequest observation), ?_, ?_⟩
  · decide +kernel
  · exact decodePublicationRequest_encode (by decide +kernel)

/-- The encoder accepts the withdrawal and the decoder refuses its bytes. -/
theorem withdrawal_does_not_read_back :
    ∃ payload, encodePublicationRequest withdrawal = .ok payload ∧
      ∀ request, decodePublicationRequest payload ≠ .ok request := by
  refine ⟨orNothing (encodePublicationRequest withdrawal), by decide +kernel, ?_⟩
  intro request h
  have hNone : (decodePublicationRequest
      (orNothing (encodePublicationRequest withdrawal))).toOption = none := by
    decide +kernel
  rw [h] at hNone
  cases hNone

end FabricCapability.Ports
