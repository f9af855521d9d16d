import FabricCapability.Ports.IdCodec
import Mathlib.Data.List.Chain

/-!
# The grammar of capability identifiers

`CapabilityNamespaceId::Parse` and `CapabilityId::Parse` split a text at its dots and give
each segment to `ValidateToken`.  The grammar they stand for is stated here on its own: a
prefix, a number of segments, and segments that are runs of letters, digits and single
separators.

The separators are a parameter.  A capability identifier may separate by a dash and an
underscore; a slash is kept for entity names.  But `ValidateToken` checks entity names and
segments with one character class, so the parsers accept the grammar with the slash in it.

## Main results

* `validateToken_segment`: the token check on a segment.
* `namespace_accepted_iff`, `capability_accepted_iff`: the accepted texts.
* `parsers_accept_grammar`: when these are the documented texts.
* `texts_have_one_meaning`: when the rendered text of an identifier stands for it alone.
-/

namespace FabricCapability.Ports

open FabricCapability.Verified.ByteCodec

/-! ## Segments -/

/-- The separators that a capability identifier may use within a segment. -/
def documentedSeparator (ch : UInt8) : Bool := ch == dash || ch == underscore

/-- The separators that pass the token check within a segment. -/
def acceptedSeparator (ch : UInt8) : Bool := documentedSeparator ch || ch == slash

def isAlphanumeric (ch : UInt8) : Bool := isLowerAlpha ch || isDigit ch

/-- A run of letters, digits and single separators between two letters or digits. -/
structure Segment (separator : UInt8 → Bool) (maxLength : Nat) (segment : Bytes) : Prop where
  nonempty : segment ≠ []
  short : segment.length ≤ maxLength
  characters : ∀ ch ∈ segment, isAlphanumeric ch = true ∨ separator ch = true
  starts : ∀ ch ∈ segment.head?, isAlphanumeric ch = true
  ends : ∀ ch ∈ segment.getLast?, isAlphanumeric ch = true
  single : segment.IsChain fun a b => separator a = true → separator b = false

/-- `fabric.<domain>`, `vendor.<vendor>` or `vendor.<vendor>.<domain>`. -/
def NamespaceText (separator : UInt8 → Bool) (text : Bytes) : Prop :=
  text.length ≤ kMaxCapabilityIdLength ∧
    ((∃ domain, Segment separator kMaxNamespaceSegmentLength domain ∧
        text = txt "fabric" ++ dot :: domain) ∨
      (∃ vendor, Segment separator kMaxNamespaceSegmentLength vendor ∧
        text = txt "vendor" ++ dot :: vendor) ∨
      ∃ vendor domain, Segment separator kMaxNamespaceSegmentLength vendor ∧
        Segment separator kMaxNamespaceSegmentLength domain ∧
        text = txt "vendor" ++ dot :: (vendor ++ dot :: domain))

/-- A namespace and a local name, joined by a dot. -/
def CapabilityText (separator : UInt8 → Bool) (text : Bytes) : Prop :=
  text.length ≤ kMaxCapabilityIdLength ∧
    ∃ ns localName, NamespaceText separator ns ∧
      Segment separator kMaxCapabilityLocalLength localName ∧ text = ns ++ dot :: localName

theorem isEntitySeparator_eq {ch : UInt8} (h : ch ≠ dot) :
    isEntitySeparator ch = acceptedSeparator ch := by
  rw [isEntitySeparator, isSeparator, acceptedSeparator, documentedSeparator,
    beq_eq_false_iff_ne.2 h, Bool.false_or]

theorem alphanumeric_not_dot {ch : UInt8} (h : isAlphanumeric ch = true) : ch ≠ dot := by
  rintro rfl
  exact absurd h (by decide)

theorem alphanumeric_not_slash {ch : UInt8} (h : isAlphanumeric ch = true) : ch ≠ slash := by
  rintro rfl
  exact absurd h (by decide)

/-- The loop of the token check, with what the character before the text was. -/
theorem scanLowerToken_iff {what text : Bytes} {previous : Bool} :
    scanLowerToken what previous text = .ok () ↔
      (∀ ch ∈ text, isAlphanumeric ch = true ∨ isEntitySeparator ch = true) ∧
        (previous = true → ∀ ch ∈ text.head?, isEntitySeparator ch = false) ∧
        text.IsChain fun a b => isEntitySeparator a = true → isEntitySeparator b = false := by
  induction text generalizing previous with
  | nil => simp [scanLowerToken]
  | cons ch rest ih =>
      rw [scanLowerToken, List.isChain_cons, List.forall_mem_cons]
      by_cases hChar : isAlphanumeric ch = true ∨ isEntitySeparator ch = true
      · have hKnown : (!isLowerAlpha ch && !isDigit ch && !isEntitySeparator ch) = false := by
          rw [isAlphanumeric, Bool.or_eq_true] at hChar
          rcases hChar with (h | h) | h <;> simp [h]
        rw [if_neg (by simp [hKnown])]
        by_cases hTwice : isEntitySeparator ch = true ∧ previous = true
        · rw [if_pos (by simp [hTwice])]
          simp [hTwice, tokenFailure, failure]
        · rw [if_neg (by simpa using hTwice), ih]
          have hHead : (previous = true → ∀ c ∈ (ch :: rest).head?, isEntitySeparator c = false) := by
            intro hPrevious c hMem
            obtain rfl := Option.mem_some_iff.1 hMem
            by_contra hSeparator
            exact hTwice ⟨by simpa using hSeparator, hPrevious⟩
          constructor
          · rintro ⟨hRest, hNext, hChain⟩
            exact ⟨⟨hChar, hRest⟩, hHead, fun b hMem hCh => hNext hCh b hMem, hChain⟩
          · rintro ⟨⟨-, hRest⟩, -, hNext, hChain⟩
            exact ⟨hRest, fun hCh b hMem => hNext b hMem hCh, hChain⟩
      · have hUnknown : (!isLowerAlpha ch && !isDigit ch && !isEntitySeparator ch) = true := by
          rw [isAlphanumeric, Bool.or_eq_true] at hChar
          simpa [not_or, and_assoc] using hChar
        rw [if_pos hUnknown]
        simp [hChar, tokenFailure, failure]

/-- The token check accepts the segments of the grammar with the slash in it. -/
theorem validateToken_segment {segment what : Bytes} {maxLength : Nat} (hDot : dot ∉ segment) :
    validateToken segment .lowerToken 1 maxLength what = .ok () ↔
      Segment acceptedSeparator maxLength segment := by
  have hSeparator : ∀ ch ∈ segment, isEntitySeparator ch = acceptedSeparator ch :=
    fun ch hMem => isEntitySeparator_eq fun hEq => hDot (hEq ▸ hMem)
  have hChain : (segment.IsChain fun a b =>
        isEntitySeparator a = true → isEntitySeparator b = false) ↔
      segment.IsChain fun a b => acceptedSeparator a = true → acceptedSeparator b = false :=
    List.IsChain.iff_of_mem_imp fun a b ha hb => by rw [hSeparator a ha, hSeparator b hb]
  unfold validateToken
  cases segment with
  | nil =>
      refine iff_of_false ?_ fun h => h.nonempty rfl
      simp [tokenFailure, failure]
  | cons first rest =>
      have hLast : (first :: rest).getLast? = some ((first :: rest).getLastD 0) := by
        rw [List.getLast?_eq_some_getLast (List.cons_ne_nil _ _), List.getLastD_eq_getLast?,
          List.getLast?_eq_some_getLast (List.cons_ne_nil _ _)]
        rfl
      by_cases hShort : (first :: rest).length ≤ maxLength
      · rw [if_neg (by simpa using hShort)]
        dsimp only [List.headD_cons]
        by_cases hStart : isAlphanumeric first = true
        · have hFirst : (!isLowerAlpha first && !isDigit first) = false := by
            rw [isAlphanumeric, Bool.or_eq_true] at hStart
            rcases hStart with h | h <;> simp [h]
          rw [if_neg (by simp [hFirst])]
          by_cases hEnd : isAlphanumeric ((first :: rest).getLastD 0) = true
          · have hBack : (!isLowerAlpha ((first :: rest).getLastD 0) &&
                !isDigit ((first :: rest).getLastD 0)) = false := by
              rw [isAlphanumeric, Bool.or_eq_true] at hEnd
              rcases hEnd with h | h <;> simp only [h] <;> simp
            rw [if_neg (by simp only [hBack]; simp), scanLowerToken_iff, hChain]
            constructor
            · rintro ⟨hCharacters, -, hSingle⟩
              refine ⟨List.cons_ne_nil _ _, hShort, fun ch hMem => ?_, ?_, ?_, hSingle⟩
              · rw [← hSeparator ch hMem]
                exact hCharacters ch hMem
              · rintro ch hMem
                obtain rfl := Option.mem_some_iff.1 hMem
                exact hStart
              · rw [hLast]
                rintro ch hMem
                obtain rfl := Option.mem_some_iff.1 hMem
                exact hEnd
            · intro h
              refine ⟨fun ch hMem => ?_, fun hFirst => by (cases hFirst), h.single⟩
              rw [hSeparator ch hMem]
              exact h.characters ch hMem
          · refine iff_of_false ?_ fun h => hEnd (h.ends _ hLast)
            rw [if_pos (by
              rw [isAlphanumeric, Bool.or_eq_true, not_or] at hEnd
              simpa using hEnd)]
            simp [tokenFailure, failure]
        · refine iff_of_false ?_ fun h => hStart (h.starts _ rfl)
          rw [if_pos (by
            rw [isAlphanumeric, Bool.or_eq_true, not_or] at hStart
            simpa using hStart)]
          simp [tokenFailure, failure]
      · refine iff_of_false ?_ fun h => hShort h.short
        rw [if_pos (by simpa using hShort)]
        simp [tokenFailure, failure]

theorem Segment.not_dot {segment : Bytes} {maxLength : Nat}
    (h : Segment acceptedSeparator maxLength segment) : dot ∉ segment := by
  intro hMem
  rcases h.characters dot hMem with hChar | hChar
  · exact alphanumeric_not_dot hChar rfl
  · exact absurd hChar (by decide)

/-- Without a slash the two kinds of segments are the same. -/
theorem segment_documented_iff {segment : Bytes} {maxLength : Nat} :
    Segment documentedSeparator maxLength segment ↔
      Segment acceptedSeparator maxLength segment ∧ slash ∉ segment := by
  have hSame : ∀ ch, ch ≠ slash → acceptedSeparator ch = documentedSeparator ch := by
    intro ch hNe
    rw [acceptedSeparator, beq_eq_false_iff_ne.2 hNe, Bool.or_false]
  have hChain : slash ∉ segment →
      ((segment.IsChain fun a b => acceptedSeparator a = true → acceptedSeparator b = false) ↔
        segment.IsChain fun a b =>
          documentedSeparator a = true → documentedSeparator b = false) := fun hSlash =>
    List.IsChain.iff_of_mem_imp fun a b ha hb => by
      rw [hSame a fun hEq => hSlash (hEq ▸ ha), hSame b fun hEq => hSlash (hEq ▸ hb)]
  constructor
  · intro h
    have hSlash : slash ∉ segment := by
      intro hMem
      rcases h.characters slash hMem with hChar | hChar
      · exact alphanumeric_not_slash hChar rfl
      · exact absurd hChar (by decide)
    refine ⟨⟨h.nonempty, h.short, fun ch hMem => ?_, h.starts, h.ends,
      (hChain hSlash).2 h.single⟩, hSlash⟩
    rw [hSame ch fun hEq => hSlash (hEq ▸ hMem)]
    exact h.characters ch hMem
  · rintro ⟨h, hSlash⟩
    refine ⟨h.nonempty, h.short, fun ch hMem => ?_, h.starts, h.ends,
      (hChain hSlash).1 h.single⟩
    rw [← hSame ch fun hEq => hSlash (hEq ▸ hMem)]
    exact h.characters ch hMem

/-! ## Splitting at the dots -/

theorem splitSegments_eq (text : Bytes) : splitSegments text = text.splitOn dot := by
  induction text with
  | nil => rfl
  | cons ch rest ih =>
      rw [splitSegments, List.splitOn_cons_eq_if_modifyHead, ih]
      by_cases hDot : ch = dot
      · rw [if_pos hDot, if_pos (beq_iff_eq.2 hDot)]
      · rw [if_neg hDot, if_neg (by simpa using hDot)]
        cases hSplit : rest.splitOn dot with
        | nil => exact absurd hSplit (List.splitOn_ne_nil _ _)
        | cons segment segments => rfl

theorem not_dot_of_mem_split {text segment : Bytes} (h : segment ∈ splitSegments text) :
    dot ∉ segment := by
  induction text generalizing segment with
  | nil =>
      rw [List.mem_singleton.1 h]
      exact List.not_mem_nil
  | cons ch rest ih =>
      rw [splitSegments] at h
      by_cases hDot : ch = dot
      · rw [if_pos hDot] at h
        rcases List.mem_cons.1 h with rfl | hRest
        · exact List.not_mem_nil
        · exact ih hRest
      · rw [if_neg hDot] at h
        cases hSplit : splitSegments rest with
        | nil => exact absurd hSplit (splitSegments_ne_nil rest)
        | cons first others =>
            rw [hSplit] at h ih
            rcases List.mem_cons.1 h with rfl | hRest
            · rw [List.mem_cons, not_or]
              exact ⟨fun hEq => hDot hEq.symm, ih (List.mem_cons_self ..)⟩
            · exact ih (List.mem_cons_of_mem _ hRest)

/-- The segments of a text are the dotless texts that it joins. -/
theorem splitSegments_iff {text : Bytes} {segments : List Bytes} (hNonempty : segments ≠ [])
    (hDotless : ∀ segment ∈ segments, dot ∉ segment) :
    splitSegments text = segments ↔ text = [dot].intercalate segments := by
  rw [splitSegments_eq]
  constructor
  · rintro rfl
    exact (List.intercalate_splitOn dot).symm
  · rintro rfl
    exact List.splitOn_intercalate dot hDotless hNonempty

theorem splitSegments_pair {text first second : Bytes} (hFirst : dot ∉ first)
    (hSecond : dot ∉ second) :
    splitSegments text = [first, second] ↔ text = first ++ dot :: second := by
  rw [splitSegments_iff (List.cons_ne_nil _ _) (by simp [hFirst, hSecond])]
  simp [List.intercalate_cons_cons]

theorem splitSegments_triple {text first second third : Bytes} (hFirst : dot ∉ first)
    (hSecond : dot ∉ second) (hThird : dot ∉ third) :
    splitSegments text = [first, second, third] ↔
      text = first ++ dot :: (second ++ dot :: third) := by
  rw [splitSegments_iff (List.cons_ne_nil _ _) (by simp [hFirst, hSecond, hThird])]
  simp [List.intercalate_cons_cons]

/-- A local name without a dot is the last segment. -/
theorem splitSegments_append {front last : Bytes} (hLast : dot ∉ last) :
    splitSegments (front ++ dot :: last) = splitSegments front ++ [last] := by
  rw [splitSegments_eq, splitSegments_eq, List.splitOn_append_cons_self,
    List.splitOn_eq_singleton hLast]

/-! ## Namespaces -/

theorem validateNamespaceSegments_iff {segments : List Bytes}
    (hDotless : ∀ segment ∈ segments, dot ∉ segment) :
    validateNamespaceSegments segments = .ok () ↔
      ∀ segment ∈ segments, Segment acceptedSeparator kMaxNamespaceSegmentLength segment := by
  induction segments with
  | nil => simp [validateNamespaceSegments]
  | cons segment rest ih =>
      obtain ⟨hHere, hRest⟩ := List.forall_mem_cons.1 hDotless
      rw [validateNamespaceSegments, outcome_bind_eq_ok, List.forall_mem_cons, ← ih hRest,
        ← validateToken_segment hHere]
      constructor
      · rintro ⟨_, hToken, h⟩
        exact ⟨hToken, h⟩
      · rintro ⟨hToken, h⟩
        exact ⟨(), hToken, h⟩

/-- The accepted lists of segments. -/
theorem validateNamespace_iff {text : Bytes} :
    validateNamespace text = .ok () ↔
      text.length ≤ kMaxCapabilityIdLength ∧
        ((splitSegments text).headD [] = txt "fabric" ∧ (splitSegments text).length = 2 ∨
          (splitSegments text).headD [] = txt "vendor" ∧
            ((splitSegments text).length = 2 ∨ (splitSegments text).length = 3)) ∧
        ∀ segment ∈ (splitSegments text).tail,
          Segment acceptedSeparator kMaxNamespaceSegmentLength segment := by
  have hTail : ∀ segment ∈ (splitSegments text).tail, dot ∉ segment :=
    fun segment hMem => not_dot_of_mem_split (List.mem_of_mem_tail hMem)
  have hApart : txt "fabric" ≠ txt "vendor" := by decide
  unfold validateNamespace
  rw [ite_failure_eq_ok, Nat.not_lt]
  dsimp only
  refine and_congr_right fun _ => ?_
  rw [ite_failure_eq_ok, ite_failure_eq_ok, ite_failure_eq_ok,
    validateNamespaceSegments_iff hTail, ← and_assoc, ← and_assoc]
  refine and_congr_left fun _ => ?_
  generalize (splitSegments text).headD [] = first
  generalize (splitSegments text).length = count
  by_cases hFabric : first = txt "fabric"
  · simp [hFabric, hApart]
  · by_cases hVendor : first = txt "vendor"
    · simp [hVendor, hApart.symm]
      omega
    · simp [hFabric, hVendor]

theorem fabric_not_dot : dot ∉ txt "fabric" := by decide

theorem vendor_not_dot : dot ∉ txt "vendor" := by decide

/-- `CapabilityNamespaceId::Parse` accepts the grammar with the slash in it. -/
theorem namespace_accepted_iff {text : Bytes} :
    (∃ ns, CapabilityNamespaceId.parse text = .ok ns) ↔
      NamespaceText acceptedSeparator text := by
  have hParse : (∃ ns, CapabilityNamespaceId.parse text = .ok ns) ↔
      validateNamespace text = .ok () :=
    ⟨fun ⟨_, h⟩ => (CapabilityNamespaceId.parse_eq_ok.1 h).1,
      fun h => ⟨⟨text, .inr h⟩, CapabilityNamespaceId.parse_eq_ok.2 ⟨h, rfl⟩⟩⟩
  rw [hParse, validateNamespace_iff]
  refine and_congr_right fun _ => ?_
  constructor
  · rintro ⟨hCount, hSegments⟩
    match hSplit : splitSegments text with
    | [] => exact absurd hSplit (splitSegments_ne_nil text)
    | [_] => simp [hSplit] at hCount
    | [first, second] =>
        rw [hSplit] at hCount hSegments
        have hSecond := hSegments second (List.mem_singleton_self _)
        rcases hCount with ⟨rfl, -⟩ | ⟨rfl, -⟩
        · exact .inl ⟨second, hSecond,
            (splitSegments_pair fabric_not_dot hSecond.not_dot).1 hSplit⟩
        · exact .inr (.inl ⟨second, hSecond,
            (splitSegments_pair vendor_not_dot hSecond.not_dot).1 hSplit⟩)
    | [first, second, third] =>
        rw [hSplit] at hCount hSegments
        have hSecond := hSegments second (List.mem_cons_self ..)
        have hThird := hSegments third (List.mem_cons_of_mem _ (List.mem_singleton_self _))
        rcases hCount with ⟨-, hTwo⟩ | ⟨rfl, -⟩
        · simp at hTwo
        · exact .inr (.inr ⟨second, third, hSecond, hThird,
            (splitSegments_triple vendor_not_dot hSecond.not_dot hThird.not_dot).1 hSplit⟩)
    | _ :: _ :: _ :: _ :: _ => simp [hSplit] at hCount
  · rintro (⟨domain, hDomain, hText⟩ | ⟨vendor, hVendor, hText⟩ |
      ⟨vendor, domain, hVendor, hDomain, hText⟩)
    · rw [(splitSegments_pair fabric_not_dot hDomain.not_dot).2 hText]
      exact ⟨.inl ⟨rfl, rfl⟩, by simpa using hDomain⟩
    · rw [(splitSegments_pair vendor_not_dot hVendor.not_dot).2 hText]
      exact ⟨.inr ⟨rfl, .inl rfl⟩, by simpa using hVendor⟩
    · rw [(splitSegments_triple vendor_not_dot hVendor.not_dot hDomain.not_dot).2 hText]
      exact ⟨.inr ⟨rfl, .inr rfl⟩, by simpa using ⟨hVendor, hDomain⟩⟩

/-! ## Capability identifiers -/

theorem validateCapabilityParts_iff {ns : CapabilityNamespaceId} {localName : Bytes} :
    validateCapabilityParts ns localName = .ok () ↔
      ns.isSet = true ∧
        validateToken localName .lowerToken 1 kMaxCapabilityLocalLength
          (txt "capability local name") = .ok () ∧
        (ns.text ++ dot :: localName).length ≤ kMaxCapabilityIdLength := by
  constructor
  · intro h
    obtain ⟨hSet, -, hLength⟩ := validateCapabilityParts_inv h
    refine ⟨hSet, ?_, hLength⟩
    unfold validateCapabilityParts at h
    cases hToken : validateToken localName .lowerToken 1 kMaxCapabilityLocalLength
        (txt "capability local name") with
    | ok _ => rfl
    | error e => simp [hSet, hToken, bind, Except.bind] at h
  · rintro ⟨hSet, hToken, hLength⟩
    have hShort : ¬(ns.text ++ dot :: localName).length > kMaxCapabilityIdLength :=
      Nat.not_lt.2 hLength
    simp only [validateCapabilityParts, hSet, hToken, bind, Except.bind, Bool.not_true,
      Bool.false_eq_true, if_false, if_neg hShort]
    rfl

theorem CapabilityId.create_eq_ok {ns : CapabilityNamespaceId} {localName : Bytes}
    {id : CapabilityId} :
    create ns localName = .ok id ↔
      validateCapabilityParts ns localName = .ok () ∧ id.ns = ns ∧ id.localName = localName := by
  unfold create
  split
  · rename_i e hError
    simp [hError]
  · rename_i hValid
    constructor
    · intro h
      cases h
      exact ⟨hValid, rfl, rfl⟩
    · rintro ⟨-, hNs, hLocal⟩
      cases id
      cases hNs
      cases hLocal
      rfl

theorem CapabilityId.toText_of_isSet {id : CapabilityId} (h : id.isSet = true) :
    id.toText = id.ns.text ++ dot :: id.localName :=
  if_pos h

/-- A set identifier passed the checks of `CapabilityId::Create`. -/
theorem CapabilityId.parts_valid {id : CapabilityId} (h : id.isSet = true) :
    validateCapabilityParts id.ns id.localName = .ok () := by
  rcases id.valid with ⟨hUnset, -⟩ | hValid
  · exact absurd hUnset (CapabilityNamespaceId.isSet_iff.1 h)
  · exact hValid

/-- A text parses to the set identifiers that render to it, and whose local name has no
dot. -/
theorem CapabilityId.parse_eq_ok {text : Bytes} {id : CapabilityId} :
    parse text = .ok id ↔ id.isSet = true ∧ dot ∉ id.localName ∧ id.toText = text := by
  constructor
  · intro h
    obtain ⟨hSet, hText⟩ := parse_inv h
    refine ⟨hSet, ?_, hText⟩
    unfold parse at h
    rw [ite_failure_eq_ok] at h
    dsimp only at h
    rw [ite_failure_eq_ok] at h
    obtain ⟨-, -, h⟩ := h
    obtain ⟨ns, -, hCreate⟩ := outcome_bind_eq_ok.1 h
    rw [(create_eq_ok.1 hCreate).2.2, List.getLastD_eq_getLast?,
      List.getLast?_eq_some_getLast (splitSegments_ne_nil text)]
    exact not_dot_of_mem_split (List.getLast_mem _)
  · rintro ⟨hSet, hDotless, rfl⟩
    have hValid := parts_valid hSet
    obtain ⟨-, -, hLength⟩ := validateCapabilityParts_iff.1 hValid
    have hNs : validateNamespace id.ns.text = .ok () := by
      rcases id.ns.valid with hUnset | hNs
      · exact absurd hUnset (CapabilityNamespaceId.isSet_iff.1 hSet)
      · exact hNs
    obtain ⟨-, hCount, -⟩ := validateNamespace_iff.1 hNs
    have hTwoOrThree : (splitSegments id.ns.text).length = 2 ∨
        (splitSegments id.ns.text).length = 3 :=
      hCount.elim (fun h => .inl h.2) fun h => h.2
    rw [toText_of_isSet hSet]
    unfold parse
    rw [ite_failure_eq_ok, splitSegments_append hDotless]
    dsimp only
    rw [ite_failure_eq_ok, List.getLastD_concat, outcome_bind_eq_ok]
    refine ⟨?_, ?_, id.ns, ?_, create_eq_ok.2 ⟨hValid, rfl, rfl⟩⟩
    · simpa [List.isEmpty_iff] using hLength
    · intro hOutside
      rw [List.length_append, List.length_singleton, Bool.or_eq_true, decide_eq_true_eq,
        decide_eq_true_eq, kMaxCapabilityIdSegments] at hOutside
      omega
    · have hFront : (id.ns.text ++ dot :: id.localName).length - id.localName.length - 1 =
          id.ns.text.length := by
        rw [List.length_append, List.length_cons]
        omega
      rw [hFront, List.take_left]
      exact CapabilityNamespaceId.parse_text hSet

/-- `CapabilityId::Parse` accepts the grammar with the slash in it. -/
theorem capability_accepted_iff {text : Bytes} :
    (∃ id, CapabilityId.parse text = .ok id) ↔ CapabilityText acceptedSeparator text := by
  constructor
  · rintro ⟨id, h⟩
    obtain ⟨hSet, hDotless, rfl⟩ := CapabilityId.parse_eq_ok.1 h
    obtain ⟨-, hToken, hLength⟩ := validateCapabilityParts_iff.1 (CapabilityId.parts_valid hSet)
    rw [CapabilityId.toText_of_isSet hSet]
    exact ⟨hLength, id.ns.text, id.localName,
      namespace_accepted_iff.1 ⟨id.ns, CapabilityNamespaceId.parse_text hSet⟩,
      (validateToken_segment hDotless).1 hToken, rfl⟩
  · rintro ⟨hLength, text, localName, hText, hLocal, rfl⟩
    obtain ⟨ns, hNs⟩ := namespace_accepted_iff.2 hText
    obtain ⟨-, rfl⟩ := CapabilityNamespaceId.parse_eq_ok.1 hNs
    have hSet : ns.isSet = true := by
      rw [CapabilityNamespaceId.isSet_iff]
      intro hNil
      rw [hNil] at hText
      rcases hText.2 with ⟨_, _, h⟩ | ⟨_, _, h⟩ | ⟨_, _, _, _, h⟩ <;> cases h
    have hValid := validateCapabilityParts_iff.2
      ⟨hSet, (validateToken_segment hLocal.not_dot).2 hLocal, hLength⟩
    exact ⟨⟨ns, localName, .inr hValid⟩,
      CapabilityId.parse_eq_ok.2 ⟨hSet, hLocal.not_dot, if_pos hSet⟩⟩

/-! ## The documented grammar -/

theorem fabric_not_slash : slash ∉ txt "fabric" := by decide

theorem vendor_not_slash : slash ∉ txt "vendor" := by decide

theorem dot_ne_slash : slash ≠ dot := by decide

/-- The documented namespaces are the accepted ones without a slash. -/
theorem namespace_documented_iff {text : Bytes} :
    NamespaceText documentedSeparator text ↔
      NamespaceText acceptedSeparator text ∧ slash ∉ text := by
  unfold NamespaceText
  constructor
  · rintro ⟨hLength, ⟨domain, hDomain, rfl⟩ | ⟨vendor, hVendor, rfl⟩ |
      ⟨vendor, domain, hVendor, hDomain, rfl⟩⟩
    · obtain ⟨hDomain, hSlash⟩ := segment_documented_iff.1 hDomain
      refine ⟨⟨hLength, .inl ⟨domain, hDomain, rfl⟩⟩, ?_⟩
      simp [fabric_not_slash, dot_ne_slash, hSlash]
    · obtain ⟨hVendor, hSlash⟩ := segment_documented_iff.1 hVendor
      refine ⟨⟨hLength, .inr (.inl ⟨vendor, hVendor, rfl⟩)⟩, ?_⟩
      simp [vendor_not_slash, dot_ne_slash, hSlash]
    · obtain ⟨hVendor, hVendorSlash⟩ := segment_documented_iff.1 hVendor
      obtain ⟨hDomain, hSlash⟩ := segment_documented_iff.1 hDomain
      refine ⟨⟨hLength, .inr (.inr ⟨vendor, domain, hVendor, hDomain, rfl⟩)⟩, ?_⟩
      simp [vendor_not_slash, dot_ne_slash, hVendorSlash, hSlash]
  · rintro ⟨⟨hLength, hForm⟩, hSlash⟩
    refine ⟨hLength, ?_⟩
    rcases hForm with ⟨domain, hDomain, rfl⟩ | ⟨vendor, hVendor, rfl⟩ |
      ⟨vendor, domain, hVendor, hDomain, rfl⟩
    · simp only [List.mem_append, List.mem_cons, not_or] at hSlash
      exact .inl ⟨domain, segment_documented_iff.2 ⟨hDomain, hSlash.2.2⟩, rfl⟩
    · simp only [List.mem_append, List.mem_cons, not_or] at hSlash
      exact .inr (.inl ⟨vendor, segment_documented_iff.2 ⟨hVendor, hSlash.2.2⟩, rfl⟩)
    · simp only [List.mem_append, List.mem_cons, not_or] at hSlash
      exact .inr (.inr ⟨vendor, domain, segment_documented_iff.2 ⟨hVendor, hSlash.2.2.1⟩,
        segment_documented_iff.2 ⟨hDomain, hSlash.2.2.2.2⟩, rfl⟩)

theorem capability_documented_iff {text : Bytes} :
    CapabilityText documentedSeparator text ↔
      CapabilityText acceptedSeparator text ∧ slash ∉ text := by
  unfold CapabilityText
  constructor
  · rintro ⟨hLength, ns, localName, hNs, hLocal, rfl⟩
    obtain ⟨hNs, hNsSlash⟩ := namespace_documented_iff.1 hNs
    obtain ⟨hLocal, hLocalSlash⟩ := segment_documented_iff.1 hLocal
    refine ⟨⟨hLength, ns, localName, hNs, hLocal, rfl⟩, ?_⟩
    simp [dot_ne_slash, hNsSlash, hLocalSlash]
  · rintro ⟨⟨hLength, ns, localName, hNs, hLocal, rfl⟩, hSlash⟩
    simp only [List.mem_append, List.mem_cons, not_or] at hSlash
    exact ⟨hLength, ns, localName, namespace_documented_iff.2 ⟨hNs, hSlash.1⟩,
      segment_documented_iff.2 ⟨hLocal, hSlash.2.2⟩, rfl⟩

/-- The parsers accept exactly the documented grammar on the texts that hold no slash, or are
malformed even when a slash may separate. -/
theorem parsers_accept_grammar (text : Bytes) :
    (((∃ id, CapabilityId.parse text = .ok id) ↔ CapabilityText documentedSeparator text) ∧
        ((∃ ns, CapabilityNamespaceId.parse text = .ok ns) ↔
          NamespaceText documentedSeparator text)) ↔
      (slash ∈ text →
        ¬CapabilityText acceptedSeparator text ∧ ¬NamespaceText acceptedSeparator text) := by
  rw [capability_accepted_iff, namespace_accepted_iff, capability_documented_iff,
    namespace_documented_iff]
  constructor
  · rintro ⟨hCapability, hNamespace⟩ hSlash
    exact ⟨fun h => (hCapability.1 h).2 hSlash, fun h => (hNamespace.1 h).2 hSlash⟩
  · intro h
    exact ⟨⟨fun hText => ⟨hText, fun hSlash => (h hSlash).1 hText⟩, And.left⟩,
      ⟨fun hText => ⟨hText, fun hSlash => (h hSlash).2 hText⟩, And.left⟩⟩

/-- A port name is no capability domain, but it parses as one. -/
theorem slash_in_capability :
    ¬((∃ id, CapabilityId.parse (txt "fabric.port/1.speed") = .ok id) ↔
      CapabilityText documentedSeparator (txt "fabric.port/1.speed")) := by
  rw [capability_accepted_iff, capability_documented_iff]
  intro h
  have hSome : (CapabilityId.parse (txt "fabric.port/1.speed")).toOption.isSome = true := by
    decide +kernel
  have hParsed : ∃ id, CapabilityId.parse (txt "fabric.port/1.speed") = .ok id := by
    cases hParse : CapabilityId.parse (txt "fabric.port/1.speed") with
    | ok id => exact ⟨id, rfl⟩
    | error e =>
        rw [hParse] at hSome
        cases hSome
  exact (h.1 (capability_accepted_iff.1 hParsed)).2 (by decide)

/-! ## Rendered texts -/

/-- An identifier that `CapabilityId::Parse` or `CapabilityId::Create` returned. -/
def CapabilityId.Obtained (id : CapabilityId) : Prop :=
  (∃ text, parse text = .ok id) ∨ ∃ ns localName, create ns localName = .ok id

theorem CapabilityId.Obtained.isSet {id : CapabilityId} (h : id.Obtained) : id.isSet = true := by
  rcases h with ⟨text, hParse⟩ | ⟨ns, localName, hCreate⟩
  · exact (parse_eq_ok.1 hParse).1
  · obtain ⟨hValid, hNs, -⟩ := create_eq_ok.1 hCreate
    rw [CapabilityId.isSet, hNs]
    exact (validateCapabilityParts_iff.1 hValid).1

/-- The fields of the wire and of the store hold the rendered text. -/
theorem CapabilityId.reads_back {id : CapabilityId} (h : parse id.toText = .ok id) :
    Decodes readCapabilityId (textField id.toText) (some id) := by
  have hField := decodes_capabilityId id
  rwa [h] at hField

/-- The rendered text of an identifier parses back to it, and to it alone, when no local name
has a dot.  `Create` lets a local name have dots; `Parse` takes what stands before the last
dot for the namespace. -/
theorem texts_have_one_meaning (a b : CapabilityId) (ha : a.Obtained) (hb : b.Obtained) :
    (CapabilityId.parse a.toText = .ok a ∧ CapabilityId.parse b.toText = .ok b ∧
        Decodes readCapabilityId (textField a.toText) (some a) ∧
        (a.toText = b.toText → a = b)) ↔
      dot ∉ a.localName ∧ dot ∉ b.localName := by
  constructor
  · rintro ⟨hParseA, hParseB, -, -⟩
    exact ⟨(CapabilityId.parse_eq_ok.1 hParseA).2.1, (CapabilityId.parse_eq_ok.1 hParseB).2.1⟩
  · rintro ⟨hDotlessA, hDotlessB⟩
    have hParseA := CapabilityId.parse_eq_ok.2 ⟨ha.isSet, hDotlessA, rfl⟩
    have hParseB := CapabilityId.parse_eq_ok.2 ⟨hb.isSet, hDotlessB, rfl⟩
    refine ⟨hParseA, hParseB, CapabilityId.reads_back hParseA, fun hText => ?_⟩
    rw [hText, hParseB] at hParseA
    exact (Except.ok.inj hParseA).symm

namespace Sample

def acme : CapabilityNamespaceId := ⟨txt "vendor.acme", .inr (by decide +kernel)⟩
def acmeQueue : CapabilityNamespaceId := ⟨txt "vendor.acme.queue", .inr (by decide +kernel)⟩

/-- The local name `queue.depth` in `vendor.acme`. -/
def dottedDepth : CapabilityId := ⟨acme, txt "queue.depth", .inr (by decide +kernel)⟩

/-- The local name `depth` in `vendor.acme.queue`. -/
def queueDepth : CapabilityId := ⟨acmeQueue, txt "depth", .inr (by decide +kernel)⟩

theorem dottedDepth_obtained : dottedDepth.Obtained :=
  .inr ⟨acme, txt "queue.depth", CapabilityId.create_eq_ok.2
    ⟨@CapabilityId.parts_valid dottedDepth (by decide), rfl, rfl⟩⟩

theorem queueDepth_obtained : queueDepth.Obtained :=
  .inr ⟨acmeQueue, txt "depth", CapabilityId.create_eq_ok.2
    ⟨@CapabilityId.parts_valid queueDepth (by decide), rfl, rfl⟩⟩

end Sample

theorem queue_depth_one_meaning :
    CapabilityId.parse Sample.queueDepth.toText = .ok Sample.queueDepth :=
  ((texts_have_one_meaning Sample.queueDepth Sample.queueDepth Sample.queueDepth_obtained
    Sample.queueDepth_obtained).2 ⟨by decide, by decide⟩).1

/-- Two identifiers that `Create` returned have one text, which parses to the second only. -/
theorem dotted_name_two_meanings :
    Sample.dottedDepth.Obtained ∧ Sample.queueDepth.Obtained ∧
      Sample.dottedDepth.toText = Sample.queueDepth.toText ∧
      Sample.dottedDepth ≠ Sample.queueDepth ∧
      CapabilityId.parse Sample.dottedDepth.toText ≠ .ok Sample.dottedDepth := by
  refine ⟨Sample.dottedDepth_obtained, Sample.queueDepth_obtained, by decide, by decide,
    fun hParse => ?_⟩
  exact (CapabilityId.parse_eq_ok.1 hParse).2.1 (by decide)

end FabricCapability.Ports
