import FabricCapability.Ports.AcceptedValues

/-!
# Declared bounds and accepted values

A descriptor declares the typed form of its capability and the bounds of the numbers and
sets in it.  `ValidateValueAgainstDescriptor` has one branch for each form.  Three bounds are
missing from their branches: an integer and the quantities of a tuple are compared with the
maximum only, and the members of a protocol set are not counted.

## Main results

* `declared_iff`: an accepted value keeps within its descriptor exactly when it keeps within
  those three bounds.
* `integer_below_minimum`: a value below the declared minimum is accepted.
-/

namespace FabricCapability.Ports

/-! ## What a descriptor declares -/

namespace CapabilityDescriptor

/-- The number lies between the declared bounds. -/
def Spans (d : CapabilityDescriptor) (number : UInt64) : Prop :=
  d.minimumQuantity ≤ number ∧ number ≤ d.maximumQuantity

/-- The form declared for a component of a tuple, `absent` for none. -/
def componentKind (d : CapabilityDescriptor) (index : Nat) : ValueKind :=
  d.tupleComponentKinds.getD index .absent

end CapabilityDescriptor

/-- The scalar has the form, if one is declared. -/
def ScalarValue.HasKind : ScalarValue → ValueKind → Prop
  | _, .absent => True
  | .boolean _, .boolean => True
  | .signed _, .integer => True
  | .unsigned _, .quantity => True
  | .enumeration _ _, .enumeration => True
  | _, _ => False

namespace CapabilityDescriptor

/-- A tuple of the declared arity, with components of the declared forms. -/
structure DeclaresTuple (d : CapabilityDescriptor) (tuple : TupleValue) : Prop where
  arity : tuple.elements.length = d.tupleArity.toNat
  kinds : ∀ index (element : ScalarValue), tuple.elements[index]? = some element →
    element.HasKind (d.componentKind index)
  quantities : ∀ index number, d.componentKind index = .quantity →
    tuple.elements[index]? = some (.unsigned number) → d.Spans number

/-- A storage of the declared unit, domain, codes, width and protocols, within the declared
bounds. -/
def DeclaresStorage (d : CapabilityDescriptor) : ValueStorage → Prop
  | .integer raw =>
      (d.minimumQuantity.toNat : Int) ≤ raw.toInt ∧ raw.toInt ≤ d.maximumQuantity.toNat
  | .quantity q => q.unit = d.unit ∧ d.Spans q.value
  | .enumeration e => e.domain = d.enumDomain ∧ enumDomainDeclares e.domain e.code = true
  | .bitSet s => s.bitCount = d.bitCount
  | .numericSet s =>
      s.unit = d.unit ∧ s.values.length ≤ d.maxSetCardinality ∧ ∀ number ∈ s.values, d.Spans number
  | .numericRange r => r.unit = d.unit ∧ d.Spans r.minimum ∧ d.Spans r.maximum
  | .protocolSet s =>
      s.protocols.length ≤ d.maxSetCardinality ∧
        (d.allowedProtocols ≠ [] → ∀ protocol ∈ s.protocols, protocol ∈ d.allowedProtocols)
  | .tuple t => d.DeclaresTuple t
  | .tupleSet s =>
      s.tuples.length ≤ d.maxSetCardinality ∧ ∀ tuple ∈ s.tuples, d.DeclaresTuple tuple
  | .enumSet s =>
      s.domain = d.enumDomain ∧ s.codes.length ≤ d.maxSetCardinality ∧
        ∀ code ∈ s.codes, enumDomainDeclares s.domain code = true
  | .boolean _ | .versionInterval _ | .record _ | .opaquePayload _ | .absent => True

/-- A value of the declared kind that keeps within what is declared. -/
def Declares (d : CapabilityDescriptor) (value : CapabilityValue) : Prop :=
  value.kind = d.kind ∧ d.DeclaresStorage value.storage

/-- No quantity of the tuple is below the minimum. -/
def AboveMinimum (d : CapabilityDescriptor) (tuple : TupleValue) : Prop :=
  ∀ index number, d.componentKind index = .quantity →
    tuple.elements[index]? = some (.unsigned number) → d.minimumQuantity ≤ number

/-- The bounds that are not compared. -/
def KeepsUnchecked (d : CapabilityDescriptor) : ValueStorage → Prop
  | .integer raw => (d.minimumQuantity.toNat : Int) ≤ raw.toInt
  | .tuple t => d.AboveMinimum t
  | .tupleSet s => ∀ tuple ∈ s.tuples, d.AboveMinimum tuple
  | .protocolSet s => s.protocols.length ≤ d.maxSetCardinality
  | _ => True

end CapabilityDescriptor

/-! ## What the branches check -/

theorem tupleComponent_iff {d : CapabilityDescriptor} {index : Nat} {element : ScalarValue} :
    tupleComponentFailure d index element = none ↔
      element.HasKind (d.componentKind index) ∧
        ∀ number, d.componentKind index = .quantity → element = .unsigned number →
          number ≤ d.maximumQuantity := by
  unfold tupleComponentFailure
  rw [← CapabilityDescriptor.componentKind]
  cases hKind : d.componentKind index <;> cases element <;>
    simp [ScalarValue.HasKind, UInt64.not_lt]

theorem tuple_iff {d : CapabilityDescriptor} {tuple : TupleValue} :
    tupleFailure d tuple = none ↔
      tuple.elements.length = d.tupleArity.toNat ∧
        ∀ index element, tuple.elements[index]? = some element →
          tupleComponentFailure d index element = none := by
  unfold tupleFailure
  split
  · rename_i hArity
    exact iff_of_false nofun fun hBoth => hArity hBoth.1
  · rename_i hArity
    rw [not_not] at hArity
    rw [List.findSome?_eq_none_iff, and_iff_right hArity]
    constructor
    · intro hAll index element hElement
      obtain ⟨hIndex, rfl⟩ := List.getElem?_eq_some_iff.1 hElement
      exact hAll _ (List.mem_mapIdx.2 ⟨index, hIndex, rfl⟩)
    · intro hAll failure hMem
      obtain ⟨index, hIndex, rfl⟩ := List.mem_mapIdx.1 hMem
      exact hAll index _ (List.getElem?_eq_getElem hIndex)

/-- A tuple that passes the check lacks the lower bound of its quantities only. -/
theorem tuple_declared_iff {d : CapabilityDescriptor} {tuple : TupleValue}
    (h : tupleFailure d tuple = none) : d.DeclaresTuple tuple ↔ d.AboveMinimum tuple := by
  obtain ⟨hArity, hComponents⟩ := tuple_iff.1 h
  constructor
  · exact fun hDeclared index number hKind hElement =>
      (hDeclared.quantities index number hKind hElement).1
  · intro hAbove
    refine ⟨hArity, fun index element hElement => ?_, fun index number hKind hElement => ?_⟩
    · exact (tupleComponent_iff.1 (hComponents index element hElement)).1
    · have hMost := (tupleComponent_iff.1 (hComponents index _ hElement)).2 number hKind rfl
      exact ⟨hAbove index number hKind hElement, hMost⟩

/-- The comparison of an integer leaves its upper bound. -/
theorem integer_upper {d : CapabilityDescriptor} {raw : Int64}
    (h : ¬(0 ≤ raw ∧ raw.toUInt64 > d.maximumQuantity)) :
    raw.toInt ≤ d.maximumQuantity.toNat := by
  by_cases hSign : 0 ≤ raw
  · have hLe : raw.toUInt64 ≤ d.maximumQuantity := UInt64.not_lt.1 fun hGt => h ⟨hSign, hGt⟩
    have hNat := UInt64.le_iff_toNat_le.1 hLe
    rw [Int64.toNat_toUInt64_of_le hSign, Int64.toNatClampNeg] at hNat
    omega
  · have hNegative := Int64.le_iff_toInt_le.not.1 hSign
    rw [Int64.toInt_zero] at hNegative
    omega

theorem numbers_span {d : CapabilityDescriptor} {numbers : List UInt64}
    (h : numbers.find? (fun e => e < d.minimumQuantity || e > d.maximumQuantity) = none) :
    ∀ number ∈ numbers, d.Spans number := by
  intro number hMem
  have hNot := List.find?_eq_none.1 h number hMem
  simp only [Bool.or_eq_true, decide_eq_true_eq, not_or] at hNot
  exact ⟨UInt64.not_lt.1 hNot.1, UInt64.not_lt.1 hNot.2⟩

/-- The range is ordered, so its ends are between the bounds of both comparisons. -/
theorem range_spans {d : CapabilityDescriptor} {range : NumericRange}
    (hOrder : range.minimum ≤ range.maximum)
    (h : ¬(range.maximum > d.maximumQuantity ∨ range.minimum < d.minimumQuantity)) :
    d.Spans range.minimum ∧ d.Spans range.maximum := by
  obtain ⟨hMost, hLeast⟩ := not_or.1 h
  have hMost := UInt64.not_lt.1 hMost
  have hLeast := UInt64.not_lt.1 hLeast
  exact ⟨⟨hLeast, UInt64.le_trans hOrder hMost⟩, UInt64.le_trans hLeast hOrder, hMost⟩

/-! ## Accepted values -/

theorem storage_declared_iff {d : CapabilityDescriptor} {storage : ValueStorage}
    (hFormed : storage.wellFormed = true) {describe : Bytes → Bytes}
    (h : validateTypedValue d describe storage = .ok ()) :
    d.DeclaresStorage storage ↔ d.KeepsUnchecked storage := by
  cases storage with
  | integer raw =>
      obtain ⟨hRange, -⟩ := ite_failure_eq_ok.1 h
      exact and_iff_left (integer_upper hRange)
  | quantity q =>
      obtain ⟨hUnit, h⟩ := ite_failure_eq_ok.1 h
      obtain ⟨hBounds, -⟩ := ite_failure_eq_ok.1 h
      obtain ⟨hLeast, hMost⟩ := not_or.1 hBounds
      exact iff_of_true ⟨not_not.1 hUnit, UInt64.not_lt.1 hLeast, UInt64.not_lt.1 hMost⟩ trivial
  | enumeration e =>
      obtain ⟨hDomain, h⟩ := ite_failure_eq_ok.1 h
      obtain ⟨hCode, -⟩ := ite_failure_eq_ok.1 h
      exact iff_of_true ⟨not_not.1 hDomain, by simpa using hCode⟩ trivial
  | bitSet s =>
      obtain ⟨hWidth, -⟩ := ite_failure_eq_ok.1 h
      exact iff_of_true (not_not.1 hWidth) trivial
  | numericSet s =>
      obtain ⟨hUnit, h⟩ := ite_failure_eq_ok.1 h
      obtain ⟨hMany, h⟩ := ite_failure_eq_ok.1 h
      split at h
      · cases h
      · rename_i hNone
        exact iff_of_true ⟨not_not.1 hUnit, Nat.not_lt.1 hMany, numbers_span hNone⟩ trivial
  | numericRange r =>
      obtain ⟨hUnit, h⟩ := ite_failure_eq_ok.1 h
      obtain ⟨hBounds, -⟩ := ite_failure_eq_ok.1 h
      simp only [ValueStorage.wellFormed, Bool.and_eq_true, decide_eq_true_eq] at hFormed
      exact iff_of_true ⟨not_not.1 hUnit, range_spans hFormed.1.2 hBounds⟩ trivial
  | protocolSet s =>
      refine and_iff_left ?_
      intro hRestricted protocol hMem
      dsimp only [validateTypedValue] at h
      rw [if_neg (by simpa using hRestricted)] at h
      split at h
      · cases h
      · rename_i hNone
        simpa using List.find?_eq_none.1 hNone protocol hMem
  | tuple t =>
      dsimp only [validateTypedValue] at h
      split at h
      · cases h
      · rename_i hNone
        exact tuple_declared_iff hNone
  | tupleSet s =>
      obtain ⟨_, hMembers, h⟩ := outcome_bind_eq_ok.1 h
      obtain ⟨hMany, -⟩ := ite_failure_eq_ok.1 h
      have hTuples := checkTupleMembers_ok hMembers
      show s.tuples.length ≤ d.maxSetCardinality ∧ (∀ tuple ∈ s.tuples, d.DeclaresTuple tuple) ↔
        ∀ tuple ∈ s.tuples, d.AboveMinimum tuple
      rw [and_iff_right (Nat.not_lt.1 hMany)]
      exact forall₂_congr fun tuple hMem => tuple_declared_iff (hTuples tuple hMem)
  | enumSet s =>
      obtain ⟨hDomain, h⟩ := ite_failure_eq_ok.1 h
      obtain ⟨hMany, h⟩ := ite_failure_eq_ok.1 h
      split at h
      · cases h
      · rename_i hNone
        refine iff_of_true ⟨not_not.1 hDomain, Nat.not_lt.1 hMany, ?_⟩ trivial
        intro code hMem
        simpa using List.find?_eq_none.1 hNone code hMem
  | _ => exact iff_of_true trivial trivial

/-- An accepted value keeps within what its descriptor declares exactly when an integer is
not below the minimum quantity, nor is a component that a tuple declares as a quantity, and
a protocol set is not above the maximum cardinality. -/
theorem declared_iff (accepted : AcceptedValue) :
    accepted.descriptor.Declares accepted.value ↔
      accepted.descriptor.KeepsUnchecked accepted.value.storage := by
  have hAccepted := accepted.accepted
  unfold validateValueAgainstDescriptor at hAccepted
  obtain ⟨_, -, hAccepted⟩ := outcome_bind_eq_ok.1 hAccepted
  obtain ⟨hKind, hTyped⟩ := ite_failure_eq_ok.1 hAccepted
  unfold CapabilityDescriptor.Declares
  rw [and_iff_right (not_not.1 hKind)]
  exact storage_declared_iff accepted.value.canonical hTyped

/-- A vendor integer whose descriptor declares numbers from zero on accepts minus five. -/
theorem integer_below_minimum :
    ¬ ∀ accepted : AcceptedValue, accepted.descriptor.Declares accepted.value := by
  intro h
  obtain ⟨next, hRegistered⟩ := credit_admitted
  have hAccepted :
      validateValueAgainstDescriptor Sample.creditDescriptor (.integer (-5)) = .ok () := by
    decide +kernel
  have hDeclared := h ⟨Sample.creditDescriptor, .integer (-5), .inr ⟨_, next, hRegistered⟩,
    hAccepted⟩
  have hNot : ¬(0 : Int) ≤ (-5 : Int64).toInt := by decide
  exact hNot hDeclared.2.1

end FabricCapability.Ports
