import FabricCapability.Ports.PublishSpec
import FabricCapability.Ports.Queries
import FabricCapability.Ports.ResultRoundTrip

/-!
# The texts of a committed result

`Publish` composes the texts of its result from names, counters and the digest of the set.
All of them are printable and far shorter than the bounds of the wire format.

## Main results

* `committedResult_composed`: the texts of a committed result are within their bounds.
* `size_committed`: what the explanation of a commit takes.
-/

namespace FabricCapability.Ports

open FabricCapability.Verified.ByteCodec
open FabricCapability.Verified.StrictOrder

/-! ## Decimal numbers -/

theorem txt_ofList (chars : List Char) :
    txt (String.ofList chars) = chars.flatMap String.utf8EncodeChar := by
  simp [txt, String.ofList, List.utf8Encode]

theorem decimal_eq (n : Nat) :
    decimal n = (Nat.toDigits 10 n).flatMap String.utf8EncodeChar := by
  rw [decimal, Nat.toString_eq_ofList_toDigits, txt_ofList]

/-- The byte of a decimal digit. -/
theorem encode_digit {digit : Char} (h : digit.isDigit = true) :
    ∃ byte, String.utf8EncodeChar digit = [byte] ∧ isControl byte = false := by
  have hRange : 48 ≤ digit.val.toNat ∧ digit.val.toNat ≤ 57 := by
    simpa [Char.isDigit, UInt32.le_iff_toNat_le] using h
  have hSmall : digit.val.toNat ≤ 127 := by omega
  refine ⟨UInt8.ofNat digit.val.toNat, ?_, ?_⟩
  · simp only [String.utf8EncodeChar, if_pos hSmall]
  · have hByte : (UInt8.ofNat digit.val.toNat).toNat = digit.val.toNat := by
      rw [UInt8.toNat_ofNat']
      omega
    simp only [isControl, Bool.or_eq_false_iff, decide_eq_false_iff_not, UInt8.lt_iff_toNat_lt,
      beq_eq_false_iff_ne, ne_eq, ← UInt8.toNat_inj, hByte]
    constructor
    · show ¬digit.val.toNat < 32
      omega
    · show ¬digit.val.toNat = 127
      omega

theorem plain_decimal (n : Nat) : Plain (decimal n) := by
  intro byte hMem
  rw [decimal_eq] at hMem
  obtain ⟨digit, hDigit, hByte⟩ := List.mem_flatMap.1 hMem
  obtain ⟨byte', hEncode, hPlain⟩ :=
    encode_digit (Nat.isDigit_of_mem_toDigits (by decide) (by decide) hDigit)
  rw [hEncode, List.mem_singleton] at hByte
  rw [hByte]
  exact hPlain

theorem length_decimal (n : Nat) : (decimal n).length = (Nat.toDigits 10 n).length := by
  have hOne : ∀ digit ∈ Nat.toDigits 10 n, (String.utf8EncodeChar digit).length = 1 := by
    intro digit hDigit
    obtain ⟨byte, hEncode, -⟩ :=
      encode_digit (Nat.isDigit_of_mem_toDigits (by decide) (by decide) hDigit)
    rw [hEncode, List.length_singleton]
  rw [decimal_eq, List.length_flatMap, List.map_congr_left hOne]
  simp

theorem fits_decimal {n k : Nat} (hPos : 0 < k) (h : n < 10 ^ k) : Fits k (decimal n) where
  plain := plain_decimal n
  bound := by
    rw [length_decimal]
    exact (Nat.length_toDigits_le_iff (by decide) hPos).2 h

/-- A counter of 64 bits has at most 20 digits. -/
theorem fits_counter (counter : UInt64) : Fits 20 (decimal counter.toNat) := by
  refine fits_decimal (by decide) ?_
  have hLt := counter.toNat_lt
  omega

/-! ## Texts within a bound -/

theorem Fits.mono {a b : Nat} {text : Bytes} (h : Fits a text) (hLe : a ≤ b) : Fits b text :=
  ⟨h.plain, h.bound.trans hLe⟩

theorem Fits.append {a b : Nat} {left right : Bytes} (hLeft : Fits a left)
    (hRight : Fits b right) : Fits (a + b) (left ++ right) where
  plain := hLeft.plain.append hRight.plain
  bound := by
    rw [List.length_append]
    exact Nat.add_le_add hLeft.bound hRight.bound

/-- A literal, by evaluation. -/
theorem fits_literal {n : Nat} {text : Bytes}
    (h : (text.all fun ch => !isControl ch) = true ∧ text.length ≤ n) : Fits n text where
  plain := fun ch hMem => by simpa using List.all_eq_true.1 h.1 ch hMem
  bound := h.2

theorem fits_stateName (state : CapabilityState) : Fits 24 (capabilityStateName state) :=
  fits_literal (by cases state <;> decide)

theorem fits_provenanceName (provenance : ProvenanceClass) :
    Fits 48 (provenanceClassName provenance) :=
  fits_literal (by cases provenance <;> decide)

theorem fits_modeName (mode : PublicationMode) : Fits 24 (publicationModeName mode) :=
  fits_literal (by cases mode <;> decide)

theorem length_digestText (digest : Digest) : digest.toText.length = 64 := by
  have hPairs : (digest.bytes.map fun raw : UInt8 =>
      [hexDigit (raw >>> 4), hexDigit (raw &&& 0x0F)].length) =
      List.replicate digest.bytes.length 2 := by
    simp only [List.length_cons, List.length_nil, List.map_const']
  rw [Digest.toText, renderDigest, List.length_flatMap, hPairs, digest.size]
  rfl

theorem fits_digest (digest : Digest) : Fits 64 digest.toText where
  plain := by
    intro byte hMem
    obtain ⟨raw, -, hByte⟩ := List.mem_flatMap.1 hMem
    have hHex := forall_byte (p := fun raw =>
      !isControl (hexDigit (raw >>> 4)) && !isControl (hexDigit (raw &&& 0x0F)))
      (by decide +kernel) raw
    simp only [Bool.and_eq_true, Bool.not_eq_true'] at hHex
    rcases List.mem_cons.1 hByte with rfl | hByte
    · exact hHex.1
    · rw [List.mem_singleton.1 hByte]
      exact hHex.2
  bound := Nat.le_of_eq (length_digestText digest)

/-! ## The entries of a diff -/

section Diff

variable {entity : EntityId} {before after : Option EntityCapabilitySet}

theorem compareResolutions_composed {capability : CapabilityId} {lhs rhs : CapabilityResolution}
    {entry : CapabilityDiffEntry} (h : entry ∈ compareResolutions capability lhs rhs) :
    entry.Composed := by
  have hState := ((fits_stateName lhs.state).append (@fits_literal 4
    (txt " -> ") (by decide))).append (fits_stateName rhs.state)
  have hProvenance := ((fits_provenanceName lhs.provenance).append (@fits_literal 4
    (txt " -> ") (by decide))).append (fits_provenanceName rhs.provenance)
  unfold compareResolutions at h
  dsimp only at h
  split at h
  · rw [List.mem_singleton.1 h]
    exact hState.mono (by decide)
  split at h
  · rw [List.mem_singleton.1 h]
    show Fits _ (txt "value changed")
    exact fits_literal (by decide)
  split at h
  · rw [List.mem_singleton.1 h]
    exact hProvenance.mono (by decide)
  split at h
  · rw [List.mem_singleton.1 h]
    show Fits _ (txt "current evidence count changed")
    exact fits_literal (by decide)
  split at h
  · rw [List.mem_singleton.1 h]
    show Fits _ (txt "evidence refreshed")
    exact fits_literal (by decide)
  split at h
  · rw [List.mem_singleton.1 h]
    show Fits _ (txt "capability generation advanced")
    exact fits_literal (by decide)
  · cases h

theorem diffCapability_composed {capability : CapabilityId} {entry : CapabilityDiffEntry}
    (h : entry ∈ diffCapability before after capability) : entry.Composed := by
  unfold diffCapability at h
  split at h
  · rw [List.mem_singleton.1 h]
    show Fits _ (txt "capability record added")
    exact fits_literal (by decide)
  · rw [List.mem_singleton.1 h]
    show Fits _ (txt "capability record removed")
    exact fits_literal (by decide)
  · cases h
  · exact compareResolutions_composed h

theorem diffEntity_composed {before after : EntityCapabilitySet} {entry : CapabilityDiffEntry}
    (h : entry ∈ diffEntity before after) : entry.Composed := by
  have hAdvanced := (((@fits_literal 32 (txt "entity generation advanced from ")
    (by decide)).append (fits_counter before.entityGeneration)).append
      (@fits_literal 4 (txt " to ") (by decide))).append
        (fits_counter after.entityGeneration)
  unfold diffEntity at h
  rcases List.mem_append.1 h with h | h
  · split at h
    · rw [List.mem_singleton.1 h]
      exact hAdvanced.mono (by decide)
    · cases h
  · split at h
    · rw [List.mem_singleton.1 h]
      show Fits _ (if after.invalidated then txt "entity generation invalidated"
        else txt "entity generation re-established")
      exact fits_literal (by cases after.invalidated <;> decide)
    · cases h

theorem buildDiff_composed {entry : CapabilityDiffEntry}
    (h : entry ∈ (buildDiff entity before after).entries) : entry.Composed := by
  unfold buildDiff at h
  rcases List.mem_append.1 (mem_sortBy.1 h) with h | h
  · split at h
    · exact diffEntity_composed h
    · cases h
  · obtain ⟨capability, -, h⟩ := List.mem_flatMap.1 h
    exact diffCapability_composed h

end Diff

/-! ## The explanation of a commit -/

section Explanation

variable {request : PublicationRequest} {result : PublicationResult} {changed : Bool}

/-- The explanation of a commit counts claims; a count of up to twenty digits fits. -/
theorem committedExplanation_composed (hApplied : result.claimsApplied < 10 ^ 20)
    (hWithdrawn : result.claimsWithdrawn < 10 ^ 20) :
    (committedExplanation request result changed).Composed where
  code := by
    show Fits _ (if changed then txt "publication.committed"
      else txt "publication.committed-no-semantic-change")
    exact fits_literal (by cases changed <;> decide)
  summary := by
    show Fits _ (if changed then txt "capability set generation advanced once"
      else txt "the publication produced the same resolved capability set")
    exact fits_literal (by cases changed <;> decide)
  count := by
    show 1 ≤ kMaxWireExplanationSteps
    decide
  steps := by
    intro step hMem
    obtain rfl := List.mem_singleton.1 hMem
    refine ⟨?_, ?_, ?_, ?_⟩
    · show Fits _ (txt "publication.commit")
      exact fits_literal (by decide)
    · show Fits _ (txt "committed atomically")
      exact fits_literal (by decide)
    · show 8 ≤ kMaxTextFieldsPerExplanation
      decide
    · have hFlag : Fits (kMaxTextLength * 4) (if changed then txt "true" else txt "false") :=
        fits_literal (by cases changed <;> decide)
      have hLong {n : Nat} {text : Bytes} (h : Fits n text) (hLe : n ≤ 64) :
          Fits (kMaxTextLength * 4) text :=
        h.mono (hLe.trans (by decide))
      simp only [makeStep, kMaxTextFieldsPerExplanation, List.take_succ_cons, List.take_nil,
        List.forall_mem_cons]
      exact ⟨⟨fits_literal (by decide), hLong (fits_modeName _) (by decide)⟩,
        ⟨fits_literal (by decide), hLong (fits_decimal (by decide) hApplied) (by decide)⟩,
        ⟨fits_literal (by decide), hLong (fits_decimal (by decide) hWithdrawn) (by decide)⟩,
        ⟨fits_literal (by decide), hLong (fits_counter _) (by decide)⟩,
        ⟨fits_literal (by decide), hLong (fits_counter _) (by decide)⟩,
        ⟨fits_literal (by decide), hLong (fits_counter _) (by decide)⟩,
        ⟨fits_literal (by decide), hLong (fits_digest _) (by decide)⟩,
        ⟨fits_literal (by decide), hFlag⟩, by simp⟩

/-- What the explanation of a commit takes: the counters as decimal numbers, and the rest
is fixed. -/
theorem size_committedExplanation :
    (committedExplanation request result changed).size =
      305 + (publicationModeName request.mode).length + (decimal result.claimsApplied).length +
        (decimal result.claimsWithdrawn).length +
        (decimal result.previousSetGeneration.toNat).length +
        (decimal result.newSetGeneration.toNat).length +
        (decimal result.registryGeneration.toNat).length + (if changed then 64 else 102) := by
  have hDigest := length_digestText result.setDigest
  have hStep : (txt "publication.commit").length = 18 ∧
      (txt "committed atomically").length = 20 := by decide
  have hNames : (txt "mode").length = 4 ∧ (txt "claims_applied").length = 14 ∧
      (txt "claims_withdrawn").length = 16 ∧ (txt "previous_set_generation").length = 23 ∧
      (txt "set_generation").length = 14 ∧ (txt "registry_generation").length = 19 ∧
      (txt "set_digest").length = 10 ∧ (txt "semantic_change").length = 15 := by decide
  have hChanged : (if changed then txt "publication.committed"
        else txt "publication.committed-no-semantic-change").length +
      (if changed then txt "capability set generation advanced once"
        else txt "the publication produced the same resolved capability set").length +
      (if changed then txt "true" else txt "false").length = if changed then 64 else 102 := by
    cases changed <;> decide
  simp only [committedExplanation, Explanation.size, makeStep, kMaxTextFieldsPerExplanation,
    List.take_succ_cons, List.take_nil, List.map_cons, List.map_nil, List.sum_cons, List.sum_nil,
    ExplanationStep.size, fieldSize, hDigest, hStep, hNames, ← hChanged]
  omega

end Explanation

end FabricCapability.Ports
