import FabricCapability.Ports.Schema
import FabricCapability.Ports.ValueRoundTrip

/-!
# Accepted values that the codec loses

`ValidateValueAgainstDescriptor` compares a value with its descriptor, and
`CapabilityValue::Decode` compares what it reads with bounds of its own.  The validator
does not ask for the decoder's bounds: an integer has no lower bound and may reach the
maximum quantity of its descriptor, which is above `kMaxInteger`; the fields of records and
the tuple components without a declared form are not looked at.

## Main results

* `accepted_survives_iff`: an accepted value comes back from its encoding exactly when it
  is decodable.
* `canonical_survives`: every value that a descriptor of the canonical schema accepts does.
-/

namespace FabricCapability.Ports

open FabricCapability.Verified.ByteCodec

/-- A value that passed the check against a descriptor of the canonical schema or one that
`RegisterVendorDescriptor` admitted. -/
structure AcceptedValue where
  descriptor : CapabilityDescriptor
  value : CapabilityValue
  admitted : descriptor ∈ canonicalTable ∨
    ∃ schema next : CapabilitySchema, schema.registerVendorDescriptor descriptor = .ok next
  accepted : validateValueAgainstDescriptor descriptor value = .ok ()

/-- In front of any bytes the encoding of the value is decoded to the value, and those
bytes remain. -/
def CapabilityValue.Survives (value : CapabilityValue) : Prop :=
  ∀ rest, CapabilityValue.decode (value.encode ++ rest) = .ok (value, rest)

theorem CapabilityValue.survives_iff (value : CapabilityValue) :
    value.Survives ↔ value.decodable = true := by
  have hDecodes := value.decodes
  constructor
  · intro hSurvives
    by_contra hNot
    rw [if_neg hNot] at hDecodes
    obtain ⟨e, hError⟩ := hDecodes []
    rw [hSurvives []] at hError
    cases hError
  · intro hDecodable
    rw [if_pos hDecodable] at hDecodes
    exact hDecodes

/-- An accepted value comes back from its encoding exactly when its integers are within the
integer bounds, its unsigned scalars within the quantity bound, and its scalar texts free of
control characters. -/
theorem accepted_survives_iff (accepted : AcceptedValue) :
    accepted.value.Survives ↔ accepted.value.decodable = true :=
  accepted.value.survives_iff

namespace Sample

/-- A vendor descriptor of an integer, with the maximum that descriptors start with. -/
def creditDescriptor : CapabilityDescriptor :=
  { builder "vendor.acme.queue.credit" .integer with vendorExtension := true }

/-- One more than the largest integer that is decoded. -/
def largeCredit : CapabilityValue := .integer (kMaxInteger + 1)

end Sample

/-- A valid vendor descriptor under a new identifier is admitted while there is room. -/
theorem registerVendorDescriptor_new {schema : CapabilitySchema} {d : CapabilityDescriptor}
    (hValid : validateDescriptor d = .ok ()) (hVendor : d.vendorExtension = true)
    (hMissing : schema.lookup d.id = none) (hRoom : schema.vendorCount < kMaxVendorDescriptors) :
    ∃ next, schema.registerVendorDescriptor d = .ok next := by
  unfold CapabilitySchema.registerVendorDescriptor CapabilitySchema.addVendorDescriptor
  rw [hValid, hVendor, hMissing]
  exact ⟨_, if_neg (Nat.not_le.2 hRoom)⟩

theorem credit_admitted : ∃ next,
    CapabilitySchema.canonical.registerVendorDescriptor Sample.creditDescriptor = .ok next :=
  registerVendorDescriptor_new (by decide +kernel) rfl (by decide +kernel) (by decide)

/-- The validator accepts the integer, the decoder refuses its encoding. -/
theorem large_integer_lost : ¬ ∀ accepted : AcceptedValue, accepted.value.Survives := by
  intro h
  obtain ⟨next, hRegistered⟩ := credit_admitted
  have hAccepted :
      validateValueAgainstDescriptor Sample.creditDescriptor Sample.largeCredit = .ok () := by
    decide +kernel
  have hSurvives := h ⟨Sample.creditDescriptor, Sample.largeCredit,
    .inr ⟨_, next, hRegistered⟩, hAccepted⟩
  have hNot : Sample.largeCredit.decodable = false := by decide +kernel
  rw [CapabilityValue.survives_iff, hNot] at hSurvives
  cases hSurvives

/-! ## The canonical schema -/

/-- A tuple descriptor whose declared components are all quantities. -/
def CapabilityDescriptor.quantitiesOnly (d : CapabilityDescriptor) : Bool :=
  (d.tupleComponentKinds.take d.tupleArity.toNat).all (· == .quantity)

/-- What the canonical descriptors have in common: no integers, records or single tuples,
and tuple sets of quantities only. -/
def CapabilityDescriptor.bounded (d : CapabilityDescriptor) : Bool :=
  d.maximumQuantity ≤ kMaxQuantity && d.tupleArity.toNat ≤ d.tupleComponentKinds.length &&
    match d.kind with
    | .integer | .record | .tuple => false
    | .tupleSet => d.quantitiesOnly
    | _ => true

theorem canonicalTable_bounded : ∀ d ∈ canonicalTable, d.bounded = true := by
  rw [← List.all_eq_true]
  decide +kernel

/-- A component that passes as a quantity is an unsigned number within the bound. -/
theorem tupleComponent_decodable {d : CapabilityDescriptor} {index : Nat} {element : ScalarValue}
    (hMax : d.maximumQuantity ≤ kMaxQuantity)
    (hKind : d.tupleComponentKinds.getD index .absent = .quantity)
    (h : tupleComponentFailure d index element = none) : element.decodable = true := by
  unfold tupleComponentFailure at h
  rw [hKind] at h
  cases element with
  | unsigned value =>
      dsimp only at h
      split at h
      · cases h
      · rename_i hBound
        have hLe := UInt64.le_trans (UInt64.not_lt.1 hBound) hMax
        simpa [ScalarValue.decodable] using hLe
  | boolean value => cases h
  | signed value => cases h
  | enumeration value hSet => cases h
  | text value hBounds => cases h

theorem tuple_decodable {d : CapabilityDescriptor} {tuple : TupleValue}
    (hBounded : d.bounded = true) (hKind : d.kind = .tupleSet)
    (h : tupleFailure d tuple = none) : tuple.decodable = true := by
  unfold CapabilityDescriptor.bounded at hBounded
  rw [hKind] at hBounded
  simp only [Bool.and_eq_true, decide_eq_true_eq] at hBounded
  obtain ⟨⟨hMax, hKinds⟩, hQuantities⟩ := hBounded
  unfold tupleFailure at h
  split at h
  · cases h
  · rename_i hArity
    rw [not_not] at hArity
    rw [List.findSome?_eq_none_iff] at h
    rw [TupleValue.decodable, List.all_eq_true]
    intro element hMem
    obtain ⟨index, hIndex, rfl⟩ := List.mem_iff_getElem.1 hMem
    have hDeclared : d.tupleComponentKinds.getD index .absent = .quantity := by
      have hIn : index < d.tupleComponentKinds.length := by omega
      have hAll := List.all_eq_true.1 hQuantities d.tupleComponentKinds[index]
        (List.mem_take_iff_getElem.2 ⟨index, by omega, rfl⟩)
      rw [beq_iff_eq] at hAll
      rw [List.getD_eq_getElem?_getD, List.getElem?_eq_getElem hIn, Option.getD_some, hAll]
    refine tupleComponent_decodable hMax hDeclared (h _ ?_)
    rw [List.mem_mapIdx]
    exact ⟨index, hIndex, rfl⟩

theorem checkTupleMembers_ok {d : CapabilityDescriptor} {describe : Bytes → Bytes}
    {tuples : List TupleValue} (h : checkTupleMembers d describe tuples = .ok ()) :
    ∀ tuple ∈ tuples, tupleFailure d tuple = none := by
  induction tuples with
  | nil => intro tuple hMem; cases hMem
  | cons first tuples ih =>
      rw [checkTupleMembers] at h
      split at h
      · cases h
      · rename_i hFirst
        exact List.forall_mem_cons.2 ⟨hFirst, ih h⟩

/-- What a canonical descriptor accepts comes back from its encoding. -/
theorem canonical_survives {d : CapabilityDescriptor} (hCanonical : d ∈ canonicalTable)
    {value : CapabilityValue} (hAccepted : validateValueAgainstDescriptor d value = .ok ()) :
    value.Survives := by
  have hBounded := canonicalTable_bounded d hCanonical
  rw [CapabilityValue.survives_iff]
  unfold validateValueAgainstDescriptor at hAccepted
  obtain ⟨_, -, hAccepted⟩ := outcome_bind_eq_ok.1 hAccepted
  obtain ⟨hKind, hTyped⟩ := ite_failure_eq_ok.1 hAccepted
  rw [not_not] at hKind
  obtain ⟨storage, hFormed⟩ := value
  unfold CapabilityValue.decodable
  unfold CapabilityDescriptor.bounded at hBounded
  rw [← hKind] at hBounded
  cases storage with
  | integer number => simp [CapabilityValue.kind, ValueStorage.kind] at hBounded
  | record record => simp [CapabilityValue.kind, ValueStorage.kind] at hBounded
  | tuple tuple => simp [CapabilityValue.kind, ValueStorage.kind] at hBounded
  | tupleSet set =>
      obtain ⟨_, hMembers, -⟩ := outcome_bind_eq_ok.1 hTyped
      rw [ValueStorage.decodable, List.all_eq_true]
      intro tuple hMem
      exact tuple_decodable (canonicalTable_bounded d hCanonical) hKind.symm
        (checkTupleMembers_ok hMembers tuple hMem)
  | _ => rfl

end FabricCapability.Ports
