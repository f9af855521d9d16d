import FabricCapability.Ports.Encoding

/-!
# Identifiers inside encoded records

The wire and store formats carry an identifier as a bounded text field that the
decoder parses again (`src/wire.cpp`, `src/persistence.cpp`).  The readers here
are those repeated pairs of steps; the lemmas say what each of them returns in
front of a field that an identifier was written to.

## Main results

* `decodes_token` — a set token reads back, an unset one is refused.
* `decodes_optionalToken` — an optional token always reads back.
* `decodes_entityId` — a set entity identity reads back, the unset one is refused.
* `decodes_capabilityId` — a capability identifier reads back as what its rendered
  text parses to, which need not be the identifier itself.
-/

namespace FabricCapability.Ports

open FabricCapability.Verified.ByteCodec

/-! ## Readers -/

/-- A text field parsed as a token of the given tag. -/
def readToken (tag : TokenTag) (maxLength : Nat) : ByteReader (TokenId tag) := do
  let text ← readText maxLength
  accept (TokenId.parse text)

/-- A text field that stands for an unset token when it is empty. -/
def readOptionalToken (tag : TokenTag) (maxLength : Nat) : ByteReader (TokenId tag) := do
  let text ← readText maxLength
  if text.isEmpty then pure .unset else accept (TokenId.parse text)

def readEntityId : ByteReader EntityId := do
  let text ← readText kMaxEntityIdLength
  accept (EntityId.parse text)

def readCapabilityId : ByteReader CapabilityId := do
  let text ← readText kMaxCapabilityIdLength
  accept (CapabilityId.parse text)

/-! ## Identifiers hold no control characters -/

/-- The text holds no byte that `ByteReader::Text` refuses. -/
def Plain (text : Bytes) : Prop := ∀ ch ∈ text, isControl ch = false

-- The instance is named: another one decides this over all 256 bytes.
instance (text : Bytes) : Decidable (Plain text) :=
  List.decidableBAll (fun ch => isControl ch = false) text

theorem plain_nil : Plain [] := by
  simp [Plain]

theorem Plain.append {a b : Bytes} (ha : Plain a) (hb : Plain b) : Plain (a ++ b) := by
  intro ch hMem
  rcases List.mem_append.1 hMem with h | h
  · exact ha ch h
  · exact hb ch h

theorem Plain.cons {ch : UInt8} {text : Bytes} (hCh : isControl ch = false)
    (hText : Plain text) : Plain (ch :: text) :=
  Plain.append (a := [ch]) (by simpa [Plain] using hCh) hText

theorem rejectControl_of_plain {text : Bytes} (h : Plain text) :
    rejectControl text = .ok text := by
  have hNone : text.find? isControl = none :=
    List.find?_eq_none.2 fun ch hMem => by simp [h ch hMem]
  rw [rejectControl, hNone]

theorem rejectControl_toOption (text : Bytes) :
    (rejectControl text).toOption = if text.any isControl then none else some text := by
  unfold rejectControl
  cases hFind : text.find? isControl with
  | none =>
      have hAny : text.any isControl = false := by
        simpa [List.find?_eq_none] using hFind
      simp [hAny, Except.toOption]
  | some raw =>
      have hAny : text.any isControl = true :=
        List.any_eq_true.2 ⟨raw, List.mem_of_find?_eq_some hFind, List.find?_some hFind⟩
      simp [hAny, failure, Except.toOption]

/-- A property of bytes may be checked on all 256 of them. -/
theorem forall_byte {p : UInt8 → Bool}
    (h : ((List.range 256).all fun n => p (UInt8.ofNat n)) = true) (ch : UInt8) :
    p ch = true := by
  have hMem : ch.toNat ∈ List.range 256 := List.mem_range.2 ch.toNat_lt
  simpa using List.all_eq_true.1 h ch.toNat hMem

theorem isControl_eq_false_iff {ch : UInt8} :
    isControl ch = false ↔ 0x20 ≤ ch.toNat ∧ ch.toNat ≠ 0x7F := by
  simp [isControl, UInt8.le_iff_toNat_le, ← UInt8.toNat_inj]

theorem not_control_of_lower {ch : UInt8}
    (h : (!isLowerAlpha ch && !isDigit ch && !isEntitySeparator ch) = false) :
    isControl ch = false := by
  simp [isLowerAlpha, isDigit, isEntitySeparator, isSeparator, dot, dash, underscore, slash,
    UInt8.le_iff_toNat_le, ← UInt8.toNat_inj] at h
  rw [isControl_eq_false_iff]
  omega

theorem not_control_of_hex {ch : UInt8} (h : (!isHexDigit ch && !(ch == dash)) = false) :
    isControl ch = false := by
  simp [isHexDigit, isDigit, dash, UInt8.le_iff_toNat_le, ← UInt8.toNat_inj] at h
  rw [isControl_eq_false_iff]
  omega

theorem not_control_of_printable {ch : UInt8} (h : isPrintable ch = true) :
    isControl ch = false := by
  simp [isPrintable, UInt8.le_iff_toNat_le] at h
  rw [isControl_eq_false_iff]
  omega

example : Plain (txt "fabric.port-1") := by decide +kernel

theorem plain_of_scanLowerToken {what : Bytes} {previous : Bool} {text : Bytes}
    (h : scanLowerToken what previous text = .ok ()) : Plain text := by
  induction text generalizing previous with
  | nil => exact plain_nil
  | cons ch rest ih =>
      simp only [scanLowerToken] at h
      split at h
      · cases h
      · rename_i hChar
        split at h
        · cases h
        · exact Plain.cons (not_control_of_lower (by simpa using hChar)) (ih h)

theorem plain_of_scanHexToken {what : Bytes} {previous : Bool} {text : Bytes}
    (h : scanHexToken what previous text = .ok ()) : Plain text := by
  induction text generalizing previous with
  | nil => exact plain_nil
  | cons ch rest ih =>
      simp only [scanHexToken] at h
      split at h
      · cases h
      · rename_i hChar
        split at h
        · cases h
        · exact Plain.cons (not_control_of_hex (by simpa using hChar)) (ih h)

theorem plain_of_scanPrintableToken {what text : Bytes}
    (h : scanPrintableToken what text = .ok ()) : Plain text := by
  induction text with
  | nil => exact plain_nil
  | cons ch rest ih =>
      simp only [scanPrintableToken] at h
      split at h
      · cases h
      · rename_i hChar
        exact Plain.cons (not_control_of_printable (by simpa using hChar)) (ih h)

/-- A text that passed token validation respects its length bounds and holds no
control character. -/
theorem validateToken_inv {text what : Bytes} {charset : Charset} {minLength maxLength : Nat}
    (h : validateToken text charset minLength maxLength what = .ok ()) :
    minLength ≤ text.length ∧ text.length ≤ maxLength ∧ Plain text := by
  unfold validateToken at h
  split at h
  · cases h
  · rename_i hLen
    simp only [Bool.or_eq_true, decide_eq_true_eq, not_or, Nat.not_lt] at hLen
    refine ⟨hLen.1, hLen.2, ?_⟩
    cases charset with
    | lowerToken =>
        simp only at h
        split at h
        · cases h
        · split at h
          · cases h
          · exact plain_of_scanLowerToken h
    | hexToken =>
        simp only at h
        split at h
        · cases h
        · exact plain_of_scanHexToken h
    | printableToken =>
        simp only at h
        split at h
        · cases h
        · exact plain_of_scanPrintableToken h

theorem TokenTag.one_le_minLength (tag : TokenTag) : 1 ≤ tag.minLength := by
  cases tag <;> decide

theorem TokenTag.maxLength_le (tag : TokenTag) : tag.maxLength ≤ 192 := by
  cases tag <;> decide

namespace TokenId

variable {tag : TokenTag}

theorem plain (id : TokenId tag) : Plain id.value := by
  rcases id.valid with hNil | hValid
  · rw [hNil]
    exact plain_nil
  · exact (validateToken_inv hValid).2.2

theorem length_le (id : TokenId tag) : id.value.length ≤ tag.maxLength := by
  rcases id.valid with hNil | hValid
  · simp [hNil]
  · exact (validateToken_inv hValid).2.1

/-- The empty text is not a token of any tag. -/
theorem parse_nil : ∃ e, (parse [] : Outcome (TokenId tag)) = .error e := by
  cases h : (parse [] : Outcome (TokenId tag)) with
  | error e => exact ⟨e, rfl⟩
  | ok id =>
      have hLen := (validateToken_inv (parse_eq_ok.1 h).1).1
      have hMin := tag.one_le_minLength
      simp at hLen
      omega

end TokenId

/-! ## Token fields -/

/-- A text field that holds a plain text reads back. -/
theorem decodes_plainText {text : Bytes} {maxLength : Nat} (hPlain : Plain text)
    (hMax : text.length ≤ maxLength) (hWord : text.length < 2 ^ 32) :
    Decodes (readText maxLength) (u32 (UInt32.ofNat text.length) ++ text) (some text) := by
  have h := decodes_text hMax hWord
  rwa [rejectControl_of_plain hPlain] at h

/-- The encoding of a text within 32-bit length. -/
def textField (text : Bytes) : Bytes := u32 (UInt32.ofNat text.length) ++ text

/-- A text field that was written is its length followed by the text. -/
theorem writeText_textField {text out : Bytes} {maxLength : Nat}
    (h : writeText text maxLength = .ok out) : out = textField text :=
  (writeText_inv h).2.2

theorem TokenId.decodes_text {tag : TokenTag} (id : TokenId tag) {maxLength : Nat}
    (hMax : tag.maxLength ≤ maxLength) :
    Decodes (readText maxLength) (textField id.value) (some id.value) := by
  have hLen := id.length_le
  have hTag := tag.maxLength_le
  exact decodes_plainText id.plain (by omega) (by omega)

/-- A set token reads back; an unset one is refused. -/
theorem decodes_token {tag : TokenTag} (id : TokenId tag) {maxLength : Nat}
    (hMax : tag.maxLength ≤ maxLength) :
    Decodes (readToken tag maxLength) (textField id.value)
      (if id.isSet then some id else none) := by
  have h := Decodes.checked (@TokenId.parse tag) (id.decodes_text hMax)
  cases hSet : id.isSet with
  | true =>
      simpa [readToken, TokenId.parse_value hSet, Except.toOption] using h
  | false =>
      obtain ⟨e, he⟩ := @TokenId.parse_nil tag
      have hNil : id.value = [] := by simpa [TokenId.isSet] using hSet
      rw [hNil] at h
      simpa [readToken, he, hNil, Except.toOption] using h

/-- An optional token reads back. -/
theorem decodes_optionalToken {tag : TokenTag} (id : TokenId tag) {maxLength : Nat}
    (hMax : tag.maxLength ≤ maxLength) :
    Decodes (readOptionalToken tag maxLength) (textField id.value) (some id) := by
  have hText := id.decodes_text hMax
  rw [← List.append_nil (textField id.value)]
  refine Decodes.bind_some hText ?_
  cases hSet : id.isSet with
  | true =>
      have hNe : id.value.isEmpty = false := by
        simpa [List.isEmpty_iff] using TokenId.isSet_eq_true.1 hSet
      have h := Decodes.accept (@TokenId.parse tag id.value)
      simpa [hNe, TokenId.parse_value hSet, Except.toOption] using h
  | false =>
      obtain rfl := TokenId.eq_unset_of_not_isSet hSet
      exact Decodes.pure _

/-! ## Entity fields -/

theorem plain_entityKindName (kind : FabricEntityKind) : Plain (fabricEntityKindName kind) := by
  cases kind <;> decide

theorem length_entityKindName (kind : FabricEntityKind) :
    (fabricEntityKindName kind).length ≤ 8 := by
  cases kind <;> decide

namespace EntityId

theorem plain_toText (id : EntityId) : Plain id.toText := by
  unfold toText
  rcases id.valid with ⟨hKind, -⟩ | ⟨hKind, hName⟩
  · rw [if_pos hKind]
    exact plain_nil
  · rw [if_neg hKind]
    exact (plain_entityKindName id.kind).append
      (Plain.cons (by decide) (validateToken_inv hName).2.2)

theorem length_toText_le (id : EntityId) : id.toText.length ≤ kMaxEntityIdLength := by
  unfold toText
  rcases id.valid with ⟨hKind, -⟩ | ⟨hKind, hName⟩
  · simp [hKind]
  · have hKindLen := length_entityKindName id.kind
    have hNameLen := (validateToken_inv hName).2.1
    simp only [kMaxEntityNameLength] at hNameLen
    simp only [if_neg hKind, List.length_append, List.length_cons, kMaxEntityIdLength]
    omega

theorem toText_eq_nil {id : EntityId} : id.toText = [] ↔ id.isSet = false := by
  unfold toText isSet
  by_cases hKind : id.kind = .unknown <;> simp [hKind]

/-- The rendered form determines the identity. -/
theorem toText_injective {a b : EntityId} (h : a.toText = b.toText) : a = b := by
  cases hA : a.isSet with
  | true =>
      have hB : b.isSet = true := by
        cases hB : b.isSet with
        | true => rfl
        | false =>
            rw [toText_eq_nil.2 hB, toText_eq_nil, hA] at h
            cases h
      have hParse := parse_toText hA
      rw [h, parse_toText hB] at hParse
      exact (Except.ok.inj hParse).symm
  | false =>
      have hB : b.isSet = false := by
        rw [← toText_eq_nil, ← h]
        exact toText_eq_nil.2 hA
      have hKindA : a.kind = .unknown := by simpa [isSet] using hA
      have hKindB : b.kind = .unknown := by simpa [isSet] using hB
      rcases a.valid with ⟨-, hNameA⟩ | ⟨hNe, -⟩
      · rcases b.valid with ⟨-, hNameB⟩ | ⟨hNe, -⟩
        · exact ext (hKindA.trans hKindB.symm) (hNameA.trans hNameB.symm)
        · exact absurd hKindB hNe
      · exact absurd hKindA hNe

end EntityId

/-- A set entity identity reads back; the unset one is refused. -/
theorem decodes_entityId (id : EntityId) :
    Decodes readEntityId (textField id.toText) (if id.isSet then some id else none) := by
  have hLen := id.length_toText_le
  have hText : Decodes (readText kMaxEntityIdLength) (textField id.toText) (some id.toText) :=
    decodes_plainText id.plain_toText hLen (by simp only [kMaxEntityIdLength] at hLen; omega)
  have h := Decodes.checked EntityId.parse hText
  cases hSet : id.isSet with
  | true =>
      simpa [readEntityId, EntityId.parse_toText hSet, Except.toOption] using h
  | false =>
      have hNil := EntityId.toText_eq_nil.2 hSet
      have hParse : (EntityId.parse []).toOption = none := rfl
      rw [hNil] at h
      simpa [readEntityId, hNil, hParse] using h

/-! ## Capability fields -/

theorem splitSegments_ne_nil (text : Bytes) : splitSegments text ≠ [] := by
  cases text with
  | nil => exact List.cons_ne_nil _ _
  | cons ch rest =>
      rw [splitSegments]
      split
      · exact List.cons_ne_nil _ _
      · split <;> exact List.cons_ne_nil _ _

/-- A text of one segment is that segment. -/
theorem splitSegments_of_length_one {text : Bytes} (h : (splitSegments text).length = 1) :
    splitSegments text = [text] := by
  induction text with
  | nil => rfl
  | cons ch rest ih =>
      rw [splitSegments] at h ⊢
      by_cases hDot : ch = dot
      · rw [if_pos hDot, List.length_cons] at h
        exact absurd (List.length_eq_zero_iff.1 (by omega)) (splitSegments_ne_nil rest)
      · rw [if_neg hDot] at h ⊢
        cases hSplit : splitSegments rest with
        | nil => exact absurd hSplit (splitSegments_ne_nil rest)
        | cons segment segments =>
            rw [hSplit] at h
            have hOne : (splitSegments rest).length = 1 := by rw [hSplit]; simpa using h
            rw [ih hOne] at hSplit
            cases hSplit
            rfl

/-- A text of several segments ends with a dot and its last segment. -/
theorem append_getLastD_splitSegments {text : Bytes} (h : 2 ≤ (splitSegments text).length) :
    ∃ front, text = front ++ dot :: (splitSegments text).getLastD [] := by
  induction text with
  | nil => simp [splitSegments] at h
  | cons ch rest ih =>
      have hRest : (splitSegments rest).length = 1 ∨ 2 ≤ (splitSegments rest).length := by
        have hPos := List.length_pos_iff.2 (splitSegments_ne_nil rest)
        omega
      rw [splitSegments] at h ⊢
      by_cases hDot : ch = dot
      · rw [if_pos hDot]
        rcases hRest with hOne | hMore
        · rw [splitSegments_of_length_one hOne]
          exact ⟨[], by simp [hDot]⟩
        · obtain ⟨front, hEq⟩ := ih hMore
          refine ⟨ch :: front, ?_⟩
          conv_lhs => rw [hEq]
          rw [List.getLastD_cons]
          rfl
      · rw [if_neg hDot] at h ⊢
        cases hSplit : splitSegments rest with
        | nil => exact absurd hSplit (splitSegments_ne_nil rest)
        | cons segment segments =>
            rw [hSplit] at h ih
            have hMore : segments ≠ [] := by
              rintro rfl
              simp at h
            obtain ⟨front, hEq⟩ := ih (by simpa using h)
            refine ⟨ch :: front, ?_⟩
            conv_lhs => rw [hEq]
            cases segments with
            | nil => exact absurd rfl hMore
            | cons next others => rfl

/-- Every byte of a text is a dot or belongs to one of its segments. -/
theorem mem_splitSegments {text : Bytes} {ch : UInt8} (h : ch ∈ text) :
    ch = dot ∨ ∃ segment ∈ splitSegments text, ch ∈ segment := by
  induction text with
  | nil => cases h
  | cons c rest ih =>
      rw [splitSegments]
      by_cases hDot : c = dot
      · rw [if_pos hDot]
        rcases List.mem_cons.1 h with rfl | hRest
        · exact .inl hDot
        · rcases ih hRest with hCh | ⟨segment, hSeg, hCh⟩
          · exact .inl hCh
          · exact .inr ⟨segment, List.mem_cons_of_mem _ hSeg, hCh⟩
      · rw [if_neg hDot]
        cases hSplit : splitSegments rest with
        | nil =>
            rcases List.mem_cons.1 h with rfl | hRest
            · exact .inr ⟨[ch], by simp, by simp⟩
            · rcases ih hRest with hCh | ⟨segment, hSeg, -⟩
              · exact .inl hCh
              · rw [hSplit] at hSeg
                cases hSeg
        | cons segment segments =>
            rcases List.mem_cons.1 h with rfl | hRest
            · exact .inr ⟨ch :: segment, by simp, by simp⟩
            · rcases ih hRest with hCh | ⟨segment', hSeg, hCh⟩
              · exact .inl hCh
              · rw [hSplit] at hSeg
                rcases List.mem_cons.1 hSeg with rfl | hSeg
                · exact .inr ⟨c :: segment', by simp, List.mem_cons_of_mem _ hCh⟩
                · exact .inr ⟨segment', List.mem_cons_of_mem _ hSeg, hCh⟩

theorem plain_of_validateNamespaceSegments {segments : List Bytes}
    (h : validateNamespaceSegments segments = .ok ()) : ∀ s ∈ segments, Plain s := by
  induction segments with
  | nil => simp
  | cons segment rest ih =>
      rw [validateNamespaceSegments] at h
      cases hToken : validateToken segment .lowerToken 1 kMaxNamespaceSegmentLength
          (txt "namespace segment") with
      | error e =>
          rw [hToken] at h
          cases h
      | ok _ =>
          rw [hToken] at h
          exact List.forall_mem_cons.2 ⟨(validateToken_inv hToken).2.2, ih h⟩

/-- A namespace text is a known first segment followed by plain segments. -/
theorem validateNamespace_inv {text : Bytes} (h : validateNamespace text = .ok ()) :
    text.length ≤ kMaxCapabilityIdLength ∧ Plain text := by
  unfold validateNamespace at h
  split at h
  · cases h
  · rename_i hLen
    refine ⟨Nat.not_lt.1 hLen, ?_⟩
    simp only at h
    split at h
    · cases h
    · rename_i hFirst
      split at h
      · cases h
      · split at h
        · cases h
        · have hTail := plain_of_validateNamespaceSegments h
          have hHead : Plain ((splitSegments text).headD []) := by
            have hCases : (splitSegments text).headD [] = txt "fabric" ∨
                (splitSegments text).headD [] = txt "vendor" := by
              by_contra hNone
              rw [not_or] at hNone
              simp only [Bool.and_eq_true, Bool.not_eq_true', beq_eq_false_iff_ne] at hFirst
              exact hFirst hNone
            rcases hCases with hEq | hEq <;> rw [hEq] <;> decide
          intro ch hMem
          rcases mem_splitSegments hMem with rfl | ⟨segment, hSeg, hCh⟩
          · decide
          · cases hSplit : splitSegments text with
            | nil =>
                rw [hSplit] at hSeg
                cases hSeg
            | cons first rest =>
                rw [hSplit] at hSeg hHead hTail
                rcases List.mem_cons.1 hSeg with rfl | hSeg
                · exact hHead ch hCh
                · exact hTail segment hSeg ch hCh

namespace CapabilityNamespaceId

theorem plain (ns : CapabilityNamespaceId) : Plain ns.text := by
  rcases ns.valid with hNil | hValid
  · rw [hNil]
    exact plain_nil
  · exact (validateNamespace_inv hValid).2

theorem length_le (ns : CapabilityNamespaceId) : ns.text.length ≤ kMaxCapabilityIdLength := by
  rcases ns.valid with hNil | hValid
  · simp [hNil]
  · exact (validateNamespace_inv hValid).1

theorem parse_nil : (parse []).toOption = none := by
  cases h : parse [] with
  | error e => rfl
  | ok ns =>
      have hFails : validateNamespace [] ≠ .ok () := by decide
      exact absurd (parse_eq_ok.1 h).1 hFails

end CapabilityNamespaceId

/-- What a successful check of namespace and local name says. -/
theorem validateCapabilityParts_inv {ns : CapabilityNamespaceId} {localName : Bytes}
    (h : validateCapabilityParts ns localName = .ok ()) :
    ns.isSet = true ∧ Plain localName ∧
      (ns.text ++ dot :: localName).length ≤ kMaxCapabilityIdLength := by
  unfold validateCapabilityParts at h
  cases hSet : ns.isSet with
  | false => simp [hSet, failure, bind, Except.bind] at h
  | true =>
      cases hToken : validateToken localName .lowerToken 1 kMaxCapabilityLocalLength
          (txt "capability local name") with
      | error e => simp [hSet, hToken, bind, Except.bind] at h
      | ok _ =>
          refine ⟨rfl, (validateToken_inv hToken).2.2, ?_⟩
          by_contra hLong
          simp only [hSet, hToken, bind, Except.bind, Bool.not_true, Bool.false_eq_true,
            if_false, if_pos (Nat.not_le.1 hLong)] at h
          cases h

namespace CapabilityId

theorem plain_toText (id : CapabilityId) : Plain id.toText := by
  unfold toText
  rcases id.valid with ⟨hNs, -⟩ | hValid
  · have hSet : id.ns.isSet = false := by simp [CapabilityNamespaceId.isSet, hNs]
    simp only [hSet, Bool.false_eq_true, if_false]
    exact plain_nil
  · obtain ⟨hSet, hLocal, -⟩ := validateCapabilityParts_inv hValid
    rw [if_pos hSet]
    exact id.ns.plain.append (Plain.cons (by decide) hLocal)

theorem length_toText_le (id : CapabilityId) : id.toText.length ≤ kMaxCapabilityIdLength := by
  unfold toText
  rcases id.valid with ⟨hNs, -⟩ | hValid
  · have hSet : id.ns.isSet = false := by simp [CapabilityNamespaceId.isSet, hNs]
    simp [hSet]
  · obtain ⟨hSet, -, hLen⟩ := validateCapabilityParts_inv hValid
    rw [if_pos hSet]
    exact hLen

/-- What parsed is set and renders as the text that was parsed. -/
theorem parse_inv {text : Bytes} {id : CapabilityId} (h : parse text = .ok id) :
    id.isSet = true ∧ id.toText = text := by
  unfold parse at h
  split at h
  · cases h
  · dsimp only at h
    split at h
    · cases h
    · rename_i hCount
      simp only [Bool.or_eq_true, decide_eq_true_eq, not_or, Nat.not_lt] at hCount
      have hSegments : 2 ≤ (splitSegments text).length := by omega
      obtain ⟨front, hText⟩ := append_getLastD_splitSegments hSegments
      cases hNs : CapabilityNamespaceId.parse
          (text.take (text.length - ((splitSegments text).getLastD []).length - 1)) with
      | error e =>
          rw [hNs] at h
          cases h
      | ok ns =>
          rw [hNs] at h
          simp only [bind, Except.bind, create] at h
          split at h
          · cases h
          · rename_i hValid
            cases h
            have hSet := (validateCapabilityParts_inv hValid).1
            have hFront : text.take
                (text.length - ((splitSegments text).getLastD []).length - 1) = front := by
              have hLength := congrArg List.length hText
              simp only [List.length_append, List.length_cons] at hLength
              rw [show text.length - ((splitSegments text).getLastD []).length - 1 =
                front.length by omega]
              conv_lhs => rw [hText, List.take_left]
            refine ⟨hSet, ?_⟩
            rw [toText, if_pos hSet, (CapabilityNamespaceId.parse_eq_ok.1 hNs).2, hFront,
              ← hText]

end CapabilityId

/-- A capability field reads back as what its text parses to. -/
theorem decodes_capabilityId (id : CapabilityId) :
    Decodes readCapabilityId (textField id.toText) (CapabilityId.parse id.toText).toOption := by
  have hLen := id.length_toText_le
  have hText : Decodes (readText kMaxCapabilityIdLength) (textField id.toText)
      (some id.toText) :=
    decodes_plainText id.plain_toText hLen
      (by simp only [kMaxCapabilityIdLength] at hLen; omega)
  exact Decodes.checked CapabilityId.parse hText

/-! ## Text fields that were written -/

section ReadsBack

variable {α : Type} {tag : TokenTag} {text : Bytes} {writeMax readMax : Nat}

/-- A text field that was written is read back as its reader reads it. -/
theorem readsBack_text {rd : ByteReader α} {r : Option α} (h : Decodes rd (textField text) r) :
    ReadsBack rd (writeText text writeMax) r := by
  intro bs hText
  rw [writeText_textField hText]
  exact h

theorem readsBack_token (id : TokenId tag) (hMax : tag.maxLength ≤ readMax) :
    ReadsBack (readToken tag readMax) (writeText id.value writeMax)
      (if id.isSet then some id else none) :=
  readsBack_text (decodes_token id hMax)

theorem readsBack_optionalToken (id : TokenId tag) (hMax : tag.maxLength ≤ readMax) :
    ReadsBack (readOptionalToken tag readMax) (writeText id.value writeMax) (some id) :=
  readsBack_text (decodes_optionalToken id hMax)

theorem readsBack_entityId (id : EntityId) :
    ReadsBack readEntityId (writeText id.toText writeMax)
      (if id.isSet then some id else none) :=
  readsBack_text (decodes_entityId id)

theorem readsBack_capabilityId (id : CapabilityId) :
    ReadsBack readCapabilityId (writeText id.toText writeMax)
      (CapabilityId.parse id.toText).toOption :=
  readsBack_text (decodes_capabilityId id)

end ReadsBack

/-- The rendered text of the identifier parses back to it.  A local name with a dot
in it does not. -/
def CapabilityId.Reparses (id : CapabilityId) : Prop := parse id.toText = .ok id

end FabricCapability.Ports
