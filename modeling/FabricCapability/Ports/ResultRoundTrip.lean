import FabricCapability.Ports.RequestRoundTrip
import FabricCapability.Ports.ResultWire
import FabricCapability.Verified.Sizes

/-!
# Results on the wire

When a result can be sent, and how many bytes it takes.

The texts of a result are written by the registry and are within their bounds
(`PublicationResult.Composed`).  What remains is the number of diff entries, the total size
of the payload, and the values and capability names of the entries: the encoder writes
them as they are and the decoder parses them.

## Main results

* `sized_result`: the size of the payload.
* `answer_iff`: when a result is encoded within a frame and decoded again.
-/

namespace FabricCapability.Ports

open FabricCapability.Verified.ByteCodec

/-! ## Sizes of fields -/

section Fields

@[simp] theorem length_sizeU64 (n : Nat) : (sizeU64 n).length = 8 := length_leBytes ..

theorem sized_text {text : Bytes} {maxLength : Nat} (hMax : text.length ≤ maxLength)
    (hWord : maxLength < 2 ^ 32) : Sized (writeText text maxLength) (4 + text.length) := by
  rw [writeText_eq_ok hWord hMax]
  exact .ok (by rw [List.length_append, length_u32])

theorem sized_enum {α : Type} [DecidableEq α] (table : List α) (value : α) :
    Sized (writeEnum table value) 1 :=
  .ok rfl

theorem sized_count {count maxCount : Nat} {message : Bytes} (h : count ≤ maxCount) :
    Sized (checkCount count maxCount message) 0 := by
  rw [checkCount, if_neg (Nat.not_lt.2 h)]
  exact .ok rfl

theorem checkCount_eq_ok {count maxCount : Nat} {message out : Bytes}
    (h : checkCount count maxCount message = .ok out) : out = [] ∧ count ≤ maxCount := by
  unfold checkCount at h
  split at h
  · cases h
  · rename_i hCount
    cases h
    exact ⟨rfl, Nat.not_lt.1 hCount⟩

theorem sized_errorCode (code : ErrorCode) : Sized (writeErrorCode code) 2 := by
  have hRange : ¬code.ctorIdx > ErrorCode.internalFailure.ctorIdx := by cases code <;> decide
  rw [writeErrorCode, if_neg hRange]
  exact .ok (length_u16 _)

theorem sized_digest (digest : Digest) : Sized (.ok digest.bytes : Outcome Bytes) 32 :=
  .ok digest.size

end Fields

/-! ## Reading fields back -/

theorem readsBack_errorCode (code : ErrorCode) :
    ReadsBack readErrorCode (writeErrorCode code) (some code) := by
  intro bs h
  obtain ⟨bs', hEq, -⟩ := sized_errorCode code
  unfold writeErrorCode at h hEq
  split at h
  · cases h
  · cases h
    rw [← List.append_nil (u16 _)]
    refine Decodes.bind_some (decodes_u16 _) ?_
    have hCode : (UInt16.ofNat code.ctorIdx).toNat = code.ctorIdx := by
      cases code <;> decide
    rw [hCode, if_neg (by assumption), ErrorCode.ofNat_ctorIdx]
    exact Decodes.pure code

theorem readsBack_plainText {text : Bytes} {writeMax readMax : Nat} (hPlain : Plain text)
    (hMax : text.length ≤ readMax) (hWord : readMax < 2 ^ 32) :
    ReadsBack (readText readMax) (writeText text writeMax) (some text) :=
  readsBack_text (decodes_plainText hPlain hMax (by omega))

theorem readsBack_optionalEntityId (id : EntityId) {writeMax : Nat} :
    ReadsBack readOptionalEntityId (writeText id.toText writeMax) (some id) := by
  have hLen := id.length_toText_le
  refine readsBack_text ?_
  rw [← List.append_nil (textField id.toText)]
  refine Decodes.bind_some
    (decodes_plainText id.plain_toText hLen (by simp only [kMaxEntityIdLength] at hLen; omega)) ?_
  cases hSet : id.isSet with
  | true =>
      have hNe : id.toText.isEmpty = false := by
        have hNil : id.toText ≠ [] := fun h => by
          rw [EntityId.toText_eq_nil, hSet] at h
          cases h
        simpa [List.isEmpty_iff] using hNil
      have h := Decodes.accept (EntityId.parse id.toText)
      simpa [hNe, EntityId.parse_toText hSet, Except.toOption] using h
  | false =>
      have hNil := EntityId.toText_eq_nil.2 hSet
      have hUnset : EntityId.unset = id := EntityId.toText_injective (hNil ▸ rfl)
      rw [hNil, ← hUnset]
      exact Decodes.pure _

/-- What `ReadDiffEntry` makes of a capability. -/
def rereadCapability (capability : CapabilityId) : Option CapabilityId :=
  if capability.toText.isEmpty then some .unset
  else (CapabilityId.parse capability.toText).toOption

theorem readsBack_optionalCapabilityId (id : CapabilityId) {writeMax : Nat} :
    ReadsBack readOptionalCapabilityId (writeText id.toText writeMax) (rereadCapability id) := by
  have hLen := id.length_toText_le
  refine readsBack_text ?_
  rw [← List.append_nil (textField id.toText)]
  refine Decodes.bind_some (decodes_plainText id.plain_toText hLen
    (by simp only [kMaxCapabilityIdLength] at hLen; omega)) ?_
  unfold rereadCapability
  split
  · exact Decodes.pure _
  · exact Decodes.accept _

theorem decodes_flaggedValue (hasValue : Bool) (value : CapabilityValue) :
    Decodes readFlaggedValue (writeFlaggedValue hasValue value)
      (if !hasValue || value.decodable then
        some (hasValue, if hasValue then value else .absent) else none) := by
  refine Decodes.bind_some (decodes_bool _) ?_
  cases hasValue with
  | true => exact Decodes.map_guard (fun value => (true, value)) value.decodes
  | false => exact Decodes.pure _

theorem readsBack_digest (digest : Digest) :
    ReadsBack readDigestBytes (.ok digest.bytes) (some digest) := by
  refine ReadsBack.ok ?_
  have hBytes : Decodes (readTimes readU8 kDigestBytes) digest.bytes (some digest.bytes) := by
    have h := Decodes.readTimes_some digest.bytes fun byte _ => decodes_u8 byte
    rwa [digest.size, show digest.bytes.flatMap u8 = digest.bytes from
      List.flatMap_singleton' _] at h
  rw [← List.append_nil digest.bytes]
  refine Decodes.bind_some hBytes ?_
  rw [Digest.ofBytes, dif_pos digest.size]
  exact Decodes.pure _

/-! ## Texts -/

/-- A text is within a bound and holds no control character. -/
structure Fits (maxLength : Nat) (text : Bytes) : Prop where
  plain : Plain text
  bound : text.length ≤ maxLength

theorem Fits.sized {maxLength : Nat} {text : Bytes} (h : Fits maxLength text)
    (hWord : maxLength < 2 ^ 32) : Sized (writeText text maxLength) (4 + text.length) :=
  sized_text h.bound hWord

theorem Fits.readsBack {maxLength : Nat} {text : Bytes} (h : Fits maxLength text)
    (hWord : maxLength < 2 ^ 32) :
    ReadsBack (readText maxLength) (writeText text maxLength) (some text) :=
  readsBack_plainText h.plain h.bound hWord

/-! ## Diff entries -/

namespace CapabilityDiffEntry

/-- What a diff entry takes on the wire. -/
def size (entry : CapabilityDiffEntry) : Nat :=
  31 + entry.capability.toText.length +
    (if entry.hasBeforeValue then entry.beforeValue.encode.length else 0) +
    (if entry.hasAfterValue then entry.afterValue.encode.length else 0) +
    entry.detail.length

/-- The text of the entry is within its bound. -/
def Composed (entry : CapabilityDiffEntry) : Prop := Fits (kMaxTextLength * 4) entry.detail

/-- The decoder accepts the capability and the values of the entry. -/
def readable (entry : CapabilityDiffEntry) : Bool :=
  (rereadCapability entry.capability).isSome &&
    ((!entry.hasBeforeValue || entry.beforeValue.decodable) &&
      (!entry.hasAfterValue || entry.afterValue.decodable))

/-- The entry as `ReadDiffEntry` fills it in. -/
def reread (entry : CapabilityDiffEntry) : Option CapabilityDiffEntry :=
  (rereadCapability entry.capability).bind fun capability =>
    if (!entry.hasBeforeValue || entry.beforeValue.decodable) &&
        (!entry.hasAfterValue || entry.afterValue.decodable) then
      some { entry with
        capability
        beforeValue := if entry.hasBeforeValue then entry.beforeValue else .absent
        afterValue := if entry.hasAfterValue then entry.afterValue else .absent }
    else none

theorem isSome_reread (entry : CapabilityDiffEntry) :
    entry.reread.isSome = entry.readable := by
  unfold reread readable
  cases rereadCapability entry.capability with
  | none => rfl
  | some capability =>
      rw [Option.bind_some]
      split <;> simp_all

end CapabilityDiffEntry

theorem length_flaggedValue (hasValue : Bool) (value : CapabilityValue) :
    (writeFlaggedValue hasValue value).length =
      1 + if hasValue then value.encode.length else 0 := by
  unfold writeFlaggedValue
  cases hasValue <;> simp

theorem sized_diffEntry {entry : CapabilityDiffEntry} (h : entry.Composed) :
    Sized (writeDiffEntry entry) entry.size := by
  have hSized : Sized (writeDiffEntry entry) _ :=
    .cons (sized_text entry.capability.length_toText_le (by decide)) <|
    .cons (sized_enum _ _) <| .cons (sized_enum _ _) <| .cons (sized_enum _ _) <|
    .cons (.ok (length_flaggedValue _ _)) <| .cons (.ok (length_flaggedValue _ _)) <|
    .cons (sized_enum _ _) <| .cons (sized_enum _ _) <|
    .cons (.ok (length_u64 _)) <| .cons (.ok (length_u64 _)) <|
    .cons (Fits.sized h (by decide)) .done
  refine cast (congrArg _ ?_) hSized
  unfold CapabilityDiffEntry.size
  omega

theorem readsBack_diffEntry {entry : CapabilityDiffEntry} (h : entry.Composed) :
    ReadsBack readDiffEntry (writeDiffEntry entry) entry.reread := by
  refine ReadsBack.bind (readsBack_optionalCapabilityId _) fun capability _ => ?_
  refine ReadsBack.bind_some (readsBack_enum _ (mem_kDiffKindWire _) (by decide)) ?_
  refine ReadsBack.bind_some (readsBack_enum _ (mem_kStateWire _) (by decide)) ?_
  refine ReadsBack.bind_some (readsBack_enum _ (mem_kStateWire _) (by decide)) ?_
  refine ReadsBack.bind_guard (.ok (decodes_flaggedValue _ _)) ?_
  rw [← Bool.and_true (!entry.hasAfterValue || entry.afterValue.decodable)]
  refine ReadsBack.bind_guard (.ok (decodes_flaggedValue _ _)) ?_
  refine ReadsBack.bind_some (readsBack_enum _ (mem_kProvenanceWire _) (by decide)) ?_
  refine ReadsBack.bind_some (readsBack_enum _ (mem_kProvenanceWire _) (by decide)) ?_
  refine ReadsBack.bind_some (.ok (decodes_u64 _)) ?_
  refine ReadsBack.bind_some (.ok (decodes_u64 _)) ?_
  exact ReadsBack.bind_some (Fits.readsBack h (by decide)) (.done _)

/-! ## Explanations -/

structure ExplanationStep.Composed (step : ExplanationStep) : Prop where
  code : Fits (kMaxTextLength * 2) step.code
  summary : Fits (kMaxTextLength * 4) step.summary
  count : step.fields.length ≤ kMaxTextFieldsPerExplanation
  fields : ∀ field ∈ step.fields, Fits kMaxTextLength field.1 ∧ Fits (kMaxTextLength * 4) field.2

structure Explanation.Composed (explanation : Explanation) : Prop where
  code : Fits (kMaxTextLength * 2) explanation.code
  summary : Fits (kMaxTextLength * 4) explanation.summary
  count : explanation.steps.length ≤ kMaxWireExplanationSteps
  steps : ∀ step ∈ explanation.steps, step.Composed

def fieldSize (field : Bytes × Bytes) : Nat := 8 + field.1.length + field.2.length

def ExplanationStep.size (step : ExplanationStep) : Nat :=
  12 + step.code.length + step.summary.length + (step.fields.map fieldSize).sum

def Explanation.size (explanation : Explanation) : Nat :=
  12 + explanation.code.length + explanation.summary.length +
    (explanation.steps.map ExplanationStep.size).sum

theorem sized_field {field : Bytes × Bytes} (hName : Fits kMaxTextLength field.1)
    (hValue : Fits (kMaxTextLength * 4) field.2) :
    Sized (writeField field) (fieldSize field) := by
  have hSized : Sized (writeField field) _ :=
    .cons (hName.sized (by decide)) <| .cons (hValue.sized (by decide)) .done
  refine cast (congrArg _ ?_) hSized
  unfold fieldSize
  omega

theorem sized_step {step : ExplanationStep} (h : step.Composed) :
    Sized (writeStep step) step.size := by
  have hSized : Sized (writeStep step) _ :=
    .cons (h.code.sized (by decide)) <| .cons (h.summary.sized (by decide)) <|
    .cons (sized_count h.count) <| .cons (.ok (length_sizeU32 _)) <|
    .cons (.map fun field hMem => sized_field (h.fields field hMem).1 (h.fields field hMem).2)
      .done
  refine cast (congrArg _ ?_) hSized
  unfold ExplanationStep.size
  omega

theorem sized_explanation {explanation : Explanation} (h : explanation.Composed) :
    Sized (writeExplanation explanation) explanation.size := by
  have hSized : Sized (writeExplanation explanation) _ :=
    .cons (h.code.sized (by decide)) <| .cons (h.summary.sized (by decide)) <|
    .cons (sized_count h.count) <| .cons (.ok (length_sizeU32 _)) <|
    .cons (.map fun step hMem => sized_step (h.steps step hMem)) .done
  refine cast (congrArg _ ?_) hSized
  unfold Explanation.size
  omega

theorem readsBack_field {field : Bytes × Bytes} (hName : Fits kMaxTextLength field.1)
    (hValue : Fits (kMaxTextLength * 4) field.2) :
    ReadsBack readNamedField (writeField field) (some field) := by
  refine ReadsBack.bind_some (hName.readsBack (by decide)) ?_
  exact ReadsBack.bind_some (hValue.readsBack (by decide)) (.done _)

/-- A list of records that all read back. -/
theorem readsBack_all {α : Type} {rd : ByteReader α} {write : α → Outcome Bytes} {xs : List α}
    (h : ∀ x ∈ xs, ReadsBack rd (write x) (some x)) :
    ReadsBack (readTimes rd xs.length) (emit (xs.map write)) (some xs) := by
  have hAll : xs.mapM some = some xs := by
    have h := Decodes.mapM_guard (fun _ : α => true) xs
    simpa using h
  rw [← hAll]
  exact ReadsBack.readTimes xs h

theorem readsBack_step {step : ExplanationStep} (h : step.Composed) :
    ReadsBack readStep (writeStep step) (some step) := by
  refine ReadsBack.bind_some (h.code.readsBack (by decide)) ?_
  refine ReadsBack.bind_some (h.summary.readsBack (by decide)) ?_
  refine ReadsBack.unread (fun _ hBound => (checkCount_eq_ok hBound).1) fun _ => ?_
  refine ReadsBack.bind_some (.ok (decodes_listCount _ h.count (by decide))) ?_
  refine ReadsBack.bind_some (readsBack_all fun field hMem => ?_) (.done _)
  exact readsBack_field (h.fields field hMem).1 (h.fields field hMem).2

theorem readsBack_explanation {explanation : Explanation} (h : explanation.Composed) :
    ReadsBack readExplanation (writeExplanation explanation) (some explanation) := by
  refine ReadsBack.bind_some (h.code.readsBack (by decide)) ?_
  refine ReadsBack.bind_some (h.summary.readsBack (by decide)) ?_
  refine ReadsBack.unread (fun _ hBound => (checkCount_eq_ok hBound).1) fun _ => ?_
  refine ReadsBack.bind_some (.ok (decodes_listCount _ h.count (by decide))) ?_
  exact ReadsBack.bind_some (readsBack_all fun step hMem => readsBack_step (h.steps step hMem))
    (.done _)

/-! ## Results -/

/-- What a diff takes on the wire. -/
def CapabilityDiff.size (diff : CapabilityDiff) : Nat :=
  104 + diff.entity.toText.length + (diff.entries.map CapabilityDiffEntry.size).sum

namespace PublicationResult

/-- What a result takes on the wire. -/
def size (result : PublicationResult) : Nat :=
  123 + result.message.length + result.publication.value.length + result.attempt.value.length +
    result.entity.toText.length + result.diff.size + result.explanation.size

/-- The texts of the result are within their bounds. -/
structure Composed (result : PublicationResult) : Prop where
  message : Fits (kMaxTextLength * 4) result.message
  entries : ∀ entry ∈ result.diff.entries, entry.Composed
  explanation : result.explanation.Composed

end PublicationResult

theorem sized_diff {diff : CapabilityDiff} (hCount : diff.entries.length ≤ kMaxWireDiffEntries)
    (hEntries : ∀ entry ∈ diff.entries, entry.Composed) : Sized (writeDiff diff) diff.size := by
  have hSized : Sized (writeDiff diff) _ :=
    .cons (sized_text diff.entity.length_toText_le (by decide)) <|
    .cons (.ok (length_u64 _)) <| .cons (.ok (length_u64 _)) <|
    .cons (.ok (length_u64 _)) <| .cons (.ok (length_u64 _)) <|
    .cons (sized_digest _) <| .cons (sized_digest _) <|
    .cons (sized_count hCount) <| .cons (.ok (length_sizeU32 _)) <|
    .cons (.map fun entry hMem => sized_diffEntry (hEntries entry hMem)) .done
  refine cast (congrArg _ ?_) hSized
  unfold CapabilityDiff.size
  omega

/-- A result is encoded when its diff has few enough entries. -/
theorem sized_result {result : PublicationResult} (h : result.Composed)
    (hCount : result.diff.entries.length ≤ kMaxWireDiffEntries) :
    Sized (encodePublicationResult result) result.size := by
  have hPublication := result.publication.length_le
  have hAttempt := result.attempt.length_le
  have hSized : Sized (encodePublicationResult result) _ :=
    .cons (sized_enum _ _) <| .cons (sized_errorCode _) <|
    .cons (h.message.sized (by decide)) <|
    .cons (sized_text hPublication (by decide)) <| .cons (sized_text hAttempt (by decide)) <|
    .cons (sized_text result.entity.length_toText_le (by decide)) <|
    .cons (.ok (length_u64 _)) <| .cons (.ok (length_u64 _)) <|
    .cons (.ok (length_u64 _)) <| .cons (.ok (length_u64 _)) <|
    .cons (.ok (length_sizeU64 _)) <| .cons (.ok (length_sizeU64 _)) <|
    .cons (.ok (length_sizeU64 _)) <| .cons (.ok (length_sizeU64 _)) <|
    .cons (.ok (length_sizeU64 _)) <| .cons (sized_digest _) <|
    .cons (sized_diff hCount h.entries) <| .cons (sized_explanation h.explanation) .done
  refine cast (congrArg _ ?_) hSized
  unfold PublicationResult.size
  omega

/-- A result with too many entries is not encoded. -/
theorem count_of_encoded {result : PublicationResult} {payload : Bytes}
    (h : encodePublicationResult result = .ok payload) :
    result.diff.entries.length ≤ kMaxWireDiffEntries := by
  obtain ⟨bytes, hDiff, -⟩ := @emit_mem _ (writeDiff result.diff) _ _ h (by simp)
  obtain ⟨checked, hChecked, -⟩ := @emit_mem _ (checkCount result.diff.entries.length
    kMaxWireDiffEntries (txt "publication diff has too many entries")) _ _ hDiff (by simp)
  exact (checkCount_eq_ok hChecked).2

theorem readsBack_diff {diff : CapabilityDiff} (hEntries : ∀ entry ∈ diff.entries, entry.Composed) :
    ReadsBack readDiff (writeDiff diff)
      ((diff.entries.mapM CapabilityDiffEntry.reread).bind fun entries =>
        some { diff with entries }) := by
  refine ReadsBack.bind_some (readsBack_optionalEntityId _) ?_
  refine ReadsBack.bind_some (.ok (decodes_u64 _)) ?_
  refine ReadsBack.bind_some (.ok (decodes_u64 _)) ?_
  refine ReadsBack.bind_some (.ok (decodes_u64 _)) ?_
  refine ReadsBack.bind_some (.ok (decodes_u64 _)) ?_
  refine ReadsBack.bind_some (readsBack_digest _) ?_
  refine ReadsBack.bind_some (readsBack_digest _) ?_
  refine ReadsBack.unread (fun _ hBound => (checkCount_eq_ok hBound).1) fun hBound => ?_
  obtain ⟨-, hCount⟩ := checkCount_eq_ok hBound
  refine ReadsBack.bind_some (.ok (decodes_listCount _ hCount (by decide))) ?_
  exact ReadsBack.bind (ReadsBack.readTimes _ fun entry hMem =>
    readsBack_diffEntry (hEntries entry hMem)) fun entries _ => .done _

/-- A counter as the decoder reads it. -/
def rereadSize (n : Nat) : Nat := (UInt64.ofNat n).toNat

theorem readsBack_result {result : PublicationResult} (h : result.Composed) :
    ReadsBack decodePublicationResultFields (encodePublicationResult result)
      ((result.diff.entries.mapM CapabilityDiffEntry.reread).bind fun entries =>
        some { result with
          claimsApplied := rereadSize result.claimsApplied
          claimsWithdrawn := rereadSize result.claimsWithdrawn
          capabilitiesAdded := rereadSize result.capabilitiesAdded
          capabilitiesRemoved := rereadSize result.capabilitiesRemoved
          capabilitiesChanged := rereadSize result.capabilitiesChanged
          diff := { result.diff with entries } }) := by
  refine ReadsBack.bind_some (readsBack_enum _ (mem_kStatusWire _) (by decide)) ?_
  refine ReadsBack.bind_some (readsBack_errorCode _) ?_
  refine ReadsBack.bind_some (h.message.readsBack (by decide)) ?_
  refine ReadsBack.bind_some (readsBack_optionalToken _ (by decide)) ?_
  refine ReadsBack.bind_some (readsBack_optionalToken _ (by decide)) ?_
  refine ReadsBack.bind_some (readsBack_optionalEntityId _) ?_
  refine ReadsBack.bind_some (.ok (decodes_u64 _)) ?_
  refine ReadsBack.bind_some (.ok (decodes_u64 _)) ?_
  refine ReadsBack.bind_some (.ok (decodes_u64 _)) ?_
  refine ReadsBack.bind_some (.ok (decodes_u64 _)) ?_
  refine ReadsBack.bind_some (.ok (decodes_u64 _)) ?_
  refine ReadsBack.bind_some (.ok (decodes_u64 _)) ?_
  refine ReadsBack.bind_some (.ok (decodes_u64 _)) ?_
  refine ReadsBack.bind_some (.ok (decodes_u64 _)) ?_
  refine ReadsBack.bind_some (.ok (decodes_u64 _)) ?_
  refine ReadsBack.bind_some (readsBack_digest _) ?_
  have hDiff := readsBack_diff h.entries
  cases hEntries : result.diff.entries.mapM CapabilityDiffEntry.reread with
  | none =>
      rw [hEntries] at hDiff
      exact ReadsBack.bind_none hDiff
  | some entries =>
      rw [hEntries] at hDiff
      refine ReadsBack.bind_some hDiff ?_
      exact ReadsBack.bind_some (readsBack_explanation h.explanation) (.done _)

/-! ## Answers -/

/-- The client can be told of the result: it is encoded, it fits into a frame, and the
decoder accepts the payload. -/
def PublicationResult.Answerable (result : PublicationResult) : Prop :=
  ∃ payload, encodePublicationResult result = .ok payload ∧
    (∀ requestId, ∃ frame, encodeFrame .publishAck 0 requestId payload = .ok frame) ∧
    ∃ read, decodePublicationResult payload = .ok read

theorem isSome_mapM {α β : Type} {f : α → Option β} {xs : List α} :
    (xs.mapM f).isSome = true ↔ ∀ x ∈ xs, (f x).isSome = true := by
  induction xs with
  | nil => simp
  | cons x xs ih =>
      rw [List.mapM_cons, List.forall_mem_cons, ← ih]
      cases hHead : f x with
      | none => simp
      | some y =>
          cases hTail : xs.mapM f with
          | none => simp
          | some ys => simp

/-- A result can be answered exactly when its diff has few enough entries, they are read
back, and the payload is within the frame bound. -/
theorem answer_iff {result : PublicationResult} (h : result.Composed) :
    result.Answerable ↔
      result.diff.entries.length ≤ kMaxWireDiffEntries ∧
        (∀ entry ∈ result.diff.entries, entry.readable = true) ∧
        result.size ≤ kMaxFrameBytes := by
  have hAccepts : ∀ payload, encodePublicationResult result = .ok payload →
      ((∃ read, decodePublicationResult payload = .ok read) ↔
        ∀ entry ∈ result.diff.entries, entry.readable = true) := by
    intro payload hPayload
    have hReads := readsBack_result h payload hPayload
    have hEntries : (result.diff.entries.mapM CapabilityDiffEntry.reread).isSome = true ↔
        ∀ entry ∈ result.diff.entries, entry.readable = true := by
      simp only [isSome_mapM, CapabilityDiffEntry.isSome_reread]
    rw [← hEntries]
    unfold decodePublicationResult
    simp only [readWhole_eq_ok hReads]
    cases result.diff.entries.mapM CapabilityDiffEntry.reread <;> simp
  constructor
  · rintro ⟨payload, hPayload, hFrame, hRead⟩
    have hCount := count_of_encoded hPayload
    refine ⟨hCount, (hAccepts payload hPayload).1 hRead, ?_⟩
    rw [← (sized_result h hCount).length_eq hPayload]
    exact encodeFrame_isOk.1 (hFrame 0)
  · rintro ⟨hCount, hReadable, hSize⟩
    obtain ⟨payload, hPayload, hLength⟩ := sized_result h hCount
    refine ⟨payload, hPayload, fun requestId => ?_, (hAccepts payload hPayload).2 hReadable⟩
    rw [← hLength] at hSize
    exact encodeFrame_isOk.2 hSize

end FabricCapability.Ports
