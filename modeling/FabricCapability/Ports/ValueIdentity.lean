import FabricCapability.Ports.CanonicalDecoding
import FabricCapability.Ports.ResolutionRule
import FabricCapability.Ports.ValueDelimited

/-!
# Equality and encoding of values

Two values are equal when they make the same typed claim.  Their encodings are the same
bytes when the stored alternatives are the same.  The two agree for every kind but one: the
bounds of a version interval are compared with zero padding, and written with the number of
components that they were given with.

## Main results

* `encodings_agree`: when two values are encoded alike, and when their digests agree.
* `padded_interval_encoded_apart`: equal intervals under two encodings.
-/

namespace FabricCapability.Ports

open FabricCapability.Verified

/-- A version is determined by its padded components and their number. -/
theorem Version.ext_padded {a b : Version} (hPadded : a.padded = b.padded)
    (hCount : a.count = b.count) : a = b := by
  simp only [Version.padded, List.cons.injEq, and_true] at hPadded
  obtain ⟨h0, h1, h2, h3⟩ := hPadded
  have hMax : a.components.length ≤ 4 := a.valid.1
  have hLength : a.components.length = b.components.length := hCount
  have hComponents : a.components = b.components := by
    refine List.ext_getElem hLength fun index hA hB => ?_
    have hPad : a.components.getD index 0 = b.components.getD index 0 := by
      have hIndex : index = 0 ∨ index = 1 ∨ index = 2 ∨ index = 3 := by omega
      rcases hIndex with rfl | rfl | rfl | rfl
      · exact h0
      · exact h1
      · exact h2
      · exact h3
    simpa [hA, hB] using hPad
  cases a
  cases b
  simp_all

namespace CapabilityValue

/-- The numbers of components of the bounds of a version interval. -/
def boundLengths (value : CapabilityValue) : Option (Nat × Nat) :=
  match value.storage with
  | .versionInterval v => some (v.minimum.count, v.maximum.count)
  | _ => none

/-- What is compared and the lengths of the bounds determine the value. -/
theorem ext_compared {a b : CapabilityValue} (hCompared : a.compared = b.compared)
    (hLengths : a.boundLengths = b.boundLengths) : a = b := by
  apply CapabilityValue.ext
  unfold compared at hCompared
  unfold boundLengths at hLengths
  cases hA : a.storage <;> cases hB : b.storage <;>
    simp only [hA, hB, Sum.inl.injEq, Sum.inr.injEq, reduceCtorEq] at hCompared ⊢ <;>
    try exact hCompared
  case versionInterval.versionInterval x y =>
    simp only [hA, hB, Option.some.injEq, Prod.mk.injEq] at hLengths hCompared
    obtain ⟨⟨hMinimum, hMaximum⟩, hMinimumEnd, hMaximumEnd⟩ := hCompared
    have hMin := Version.ext_padded hMinimum hLengths.1
    have hMax := Version.ext_padded hMaximum hLengths.2
    cases x
    cases y
    simp_all

/-- Equal values whose versions are as long are one value. -/
theorem eq_iff_same {a b : CapabilityValue} :
    a = b ↔ a.same b = true ∧ a.boundLengths = b.boundLengths := by
  rw [same_iff]
  constructor
  · rintro rfl
    exact ⟨rfl, rfl⟩
  · exact fun hBoth => ext_compared hBoth.1 hBoth.2

theorem encode_injective {a b : CapabilityValue} (h : a.encode = b.encode) : a = b :=
  CapabilityValue.delimited.injective trivial trivial h

end CapabilityValue

/-- Among records of one state the claims are told apart by the equality of the values. -/
theorem sameClaim_of_state {first second : EvidenceRecord} (hState : first.state = second.state) :
    sameClaim first second = first.value.same second.value := by
  rw [Bool.eq_iff_iff, sameClaim_iff, CapabilityValue.same_iff]
  unfold EvidenceRecord.claimed
  rw [Prod.mk.injEq, and_iff_right hState]

/-- Values are encoded alike exactly when they are equal and, for version intervals, the
bounds are given with the same numbers of components.  Their digests agree in the same
cases, unless the two encodings collide; and among records of one state the resolution
tells the values apart by their equality. -/
theorem encodings_agree (a b : CapabilityValue) :
    (a.encode = b.encode ↔ a.same b = true ∧ a.boundLengths = b.boundLengths) ∧
      ((digestOf a = digestOf b → a.encode = b.encode) →
        (digestOf a = digestOf b ↔ a.same b = true ∧ a.boundLengths = b.boundLengths)) ∧
      ∀ first second : EvidenceRecord, first.state = second.state → first.value = a →
        second.value = b → sameClaim first second = a.same b := by
  have hEncode : a.encode = b.encode ↔ a.same b = true ∧ a.boundLengths = b.boundLengths := by
    rw [← CapabilityValue.eq_iff_same]
    exact ⟨CapabilityValue.encode_injective, congrArg CapabilityValue.encode⟩
  refine ⟨hEncode, fun hCollision => ?_, ?_⟩
  · rw [← hEncode]
    exact ⟨hCollision, congrArg computeDigest⟩
  · rintro first second hState rfl rfl
    exact sameClaim_of_state hState

namespace Sample

def oneTwo : Version := ⟨[1, 2], by simp [kMaxVersionComponents, kMaxVersionComponent]⟩
def oneTwoZero : Version := ⟨[1, 2, 0], by simp [kMaxVersionComponents, kMaxVersionComponent]⟩
def onlyTwo : Version := ⟨[2], by simp [kMaxVersionComponents, kMaxVersionComponent]⟩

/-- The interval from 1.2 to 2, both ends included. -/
def shortInterval : VersionInterval := ⟨oneTwo, onlyTwo, true, true⟩

/-- The same interval, from 1.2.0 on. -/
def longInterval : VersionInterval := ⟨oneTwoZero, onlyTwo, true, true⟩

def shortVersions : CapabilityValue := ⟨.versionInterval shortInterval, by decide⟩
def longVersions : CapabilityValue := ⟨.versionInterval longInterval, by decide⟩

theorem versions_digests : digestOf shortVersions ≠ digestOf longVersions := by
  decide +kernel

end Sample

/-- The digests of an interval and of itself with a longer bound. -/
theorem encodings_agree_intervals :
    ¬(digestOf Sample.shortVersions = digestOf Sample.longVersions ↔
      Sample.shortVersions.same Sample.longVersions = true) := by
  have hAgree := (encodings_agree Sample.shortVersions Sample.longVersions).2.1
    fun hEqual => absurd hEqual Sample.versions_digests
  intro hIff
  have hSame : Sample.shortVersions.same Sample.longVersions = true := by decide
  exact absurd (hAgree.1 (hIff.2 hSame)).2 (by decide)

/-- Two equal values of the factory, under two encodings and two digests. -/
theorem padded_interval_encoded_apart :
    CapabilityValue.versionIntervalValue Sample.oneTwo true Sample.onlyTwo true =
        .ok Sample.shortVersions ∧
      CapabilityValue.versionIntervalValue Sample.oneTwoZero true Sample.onlyTwo true =
        .ok Sample.longVersions ∧
      Sample.shortVersions.same Sample.longVersions = true ∧
      Sample.shortVersions.encode ≠ Sample.longVersions.encode ∧
      digestOf Sample.shortVersions ≠ digestOf Sample.longVersions := by
  refine ⟨?_, ?_, by decide, by decide, Sample.versions_digests⟩
  · exact @CapabilityValue.versionIntervalValue_of_wellFormed Sample.shortInterval (by decide)
  · exact @CapabilityValue.versionIntervalValue_of_wellFormed Sample.longInterval (by decide)

end FabricCapability.Ports
