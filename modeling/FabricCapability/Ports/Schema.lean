import FabricCapability.Ports.CanonicalSchema
import FabricCapability.Ports.ValueFactories

/-!
# The governed capability schema

Translation of the functions of `src/schema.cpp` and of
`CapabilityValue::ValidateCanonical` (`src/value.cpp`): which values a descriptor
admits, and how vendor descriptors enter the schema.

## Main results

* `validateCanonical_eq_ok` — a capability value always passes the canonical
  check, because its factories made the same checks before.
-/

namespace FabricCapability.Ports

open FabricCapability.Verified.StrictOrder

/-! ## The canonical check of values -/

def canonicalFailure (code : ErrorCode) (message : Bytes) : Outcome Unit :=
  failure code message []

/-- `std::is_sorted` and no hit of `std::adjacent_find`. -/
def sortedUnique {α : Type} (lt : α → α → Bool) (xs : List α) : Bool := increasing lt xs

/-- The loop of `ValidateCanonical` over the members of a tuple set. -/
def checkTupleOrder (arity : Nat) : Option TupleValue → List TupleValue → Outcome Unit
  | _, [] => .ok ()
  | previous, tuple :: rest =>
      if tuple.elements.length ≠ arity then
        canonicalFailure .valueNotCanonical (txt "tuple set members do not share one arity")
      else if previous.any fun p => !tupleLt p tuple then
        canonicalFailure .valueNotCanonical (txt "tuple set is not sorted and de-duplicated")
      else checkTupleOrder arity (some tuple) rest

def ValueStorage.validateCanonical : ValueStorage → Outcome Unit
  | absent | boolean _ | integer _ => .ok ()
  | quantity q => requireQuantityUnit q.unit (txt "quantity capability value")
  | enumeration e =>
      if !e.domain.isSet then
        canonicalFailure .valueTypeMismatch
          (txt "enumeration capability value requires a domain")
      else .ok ()
  | bitSet s =>
      if s.bitCount == 0 || s.bitCount.toNat > kMaxBitSetBits ||
          !bitsAboveCountAreClear s then
        canonicalFailure .valueNotCanonical (txt "bitset is not canonical")
      else .ok ()
  | numericSet s =>
      if s.values.isEmpty || s.values.length > kMaxSetCardinality then
        canonicalFailure .valueNotCanonical (txt "numeric set cardinality is invalid")
      else if !sortedUnique wordLt s.values then
        canonicalFailure .valueNotCanonical
          (txt "numeric set is not sorted and de-duplicated")
      else requireQuantityUnit s.unit (txt "numeric set capability value")
  | numericRange r =>
      if r.minimum > r.maximum then
        canonicalFailure .valueContradiction
          (txt "numeric range minimum is above its maximum")
      else requireQuantityUnit r.unit (txt "numeric range capability value")
  | versionInterval v =>
      if v.maximum.lt v.minimum then
        canonicalFailure .valueContradiction
          (txt "version interval maximum is below its minimum")
      else if v.minimum.same v.maximum && (!v.minimumInclusive || !v.maximumInclusive) then
        canonicalFailure .valueContradiction (txt "empty version interval")
      else .ok ()
  | protocolSet s =>
      if s.protocols.isEmpty || s.protocols.length > kMaxProtocolsInSet then
        canonicalFailure .valueNotCanonical (txt "protocol set cardinality is invalid")
      else if !sortedUnique protocolLt s.protocols then
        canonicalFailure .valueNotCanonical
          (txt "protocol set is not sorted and de-duplicated")
      else if !s.protocols.all CapabilityValue.knownProtocol then
        canonicalFailure .unknownEnumDomain (txt "protocol set contains an unknown protocol")
      else .ok ()
  | tuple t =>
      if !arityInRange t.elements.length then
        canonicalFailure .valueOutOfRange (txt "tuple arity is out of range")
      else .ok ()
  | tupleSet s =>
      if s.tuples.isEmpty || s.tuples.length > kMaxTupleSetCardinality then
        canonicalFailure .valueNotCanonical (txt "tuple set cardinality is invalid")
      else checkTupleOrder (s.tuples.headD ⟨[]⟩).elements.length none s.tuples
  | record r =>
      if r.fields.isEmpty || r.fields.length > kMaxRecordFields then
        canonicalFailure .valueNotCanonical
          (txt "structured record field count is invalid")
      else if !increasing recordFieldLt r.fields then
        canonicalFailure .valueNotCanonical
          (txt "structured record fields are not sorted and unique")
      else .ok ()
  | opaquePayload p =>
      if p.encoding.isEmpty || p.bytes.length > kMaxExtensionPayloadBytes then
        canonicalFailure .valueNotCanonical (txt "opaque payload is not canonical")
      else .ok ()
  | enumSet s =>
      if !s.domain.isSet then
        canonicalFailure .valueTypeMismatch (txt "enumeration set requires a domain")
      else if s.codes.isEmpty || s.codes.length > kMaxSetCardinality then
        canonicalFailure .valueNotCanonical (txt "enumeration set cardinality is invalid")
      else if !sortedUnique codeLt s.codes then
        canonicalFailure .valueNotCanonical
          (txt "enumeration set is not sorted and de-duplicated")
      else .ok ()

theorem checkTupleOrder_eq_ok {arity : Nat} {previous : Option TupleValue}
    {tuples : List TupleValue} (hArity : ∀ t ∈ tuples, t.elements.length = arity)
    (hInc : increasing tupleLt (previous.toList ++ tuples) = true) :
    checkTupleOrder arity previous tuples = .ok () := by
  induction tuples generalizing previous with
  | nil => rfl
  | cons tuple rest ih =>
      rw [List.forall_mem_cons] at hArity
      have hRest : checkTupleOrder arity (some tuple) rest = .ok () := by
        refine ih hArity.2 ?_
        cases previous with
        | none => exact hInc
        | some p =>
            change (tupleLt p tuple && increasing tupleLt (tuple :: rest)) = true at hInc
            exact (Bool.and_eq_true_iff.1 hInc).2
      have hOrder : (previous.any fun p => !tupleLt p tuple) = false := by
        cases previous with
        | none => rfl
        | some p =>
            change (tupleLt p tuple && increasing tupleLt (tuple :: rest)) = true at hInc
            simp [(Bool.and_eq_true_iff.1 hInc).1]
      rw [checkTupleOrder, if_neg (by simp [hArity.1]), hOrder]
      exact hRest

/-- Every capability value passes the canonical check. -/
theorem validateCanonical_eq_ok (value : CapabilityValue) :
    value.storage.validateCanonical = .ok () := by
  obtain ⟨storage, h⟩ := value
  cases storage with
  | absent => rfl
  | boolean value => rfl
  | integer value => rfl
  | quantity q =>
      simp only [ValueStorage.wellFormed, Bool.and_eq_true] at h
      exact requireQuantityUnit_eq_ok.2 h.1
  | enumeration e =>
      have hSet : e.domain.isSet = true := h
      simp [ValueStorage.validateCanonical, hSet]
  | bitSet s =>
      simp only [ValueStorage.wellFormed, Bool.and_eq_true, bne_iff_ne,
        decide_eq_true_eq] at h
      simp [ValueStorage.validateCanonical, h]
  | numericSet s =>
      simp only [ValueStorage.wellFormed, Bool.and_eq_true, Bool.not_eq_true',
        decide_eq_true_eq] at h
      obtain ⟨⟨⟨⟨hUnit, hEmpty⟩, hMany⟩, -⟩, hInc⟩ := h
      simp [ValueStorage.validateCanonical, sortedUnique, hEmpty, hMany, hInc,
        requireQuantityUnit_eq_ok.2 hUnit]
  | numericRange r =>
      simp only [ValueStorage.wellFormed, Bool.and_eq_true, decide_eq_true_eq] at h
      obtain ⟨⟨hUnit, hOrder⟩, -⟩ := h
      rw [ValueStorage.validateCanonical, if_neg (UInt64.not_lt.2 hOrder)]
      exact requireQuantityUnit_eq_ok.2 hUnit
  | versionInterval v =>
      simp only [ValueStorage.wellFormed, Bool.and_eq_true, Bool.not_eq_true',
        Bool.or_eq_true] at h
      obtain ⟨⟨-, hOrder⟩, hEnds⟩ := h
      rw [ValueStorage.validateCanonical, if_neg (by simp [hOrder]), if_neg]
      rcases hEnds with hDiffer | hClosed
      · simp [hDiffer]
      · simp [hClosed]
  | protocolSet s =>
      simp only [ValueStorage.wellFormed, Bool.and_eq_true, Bool.not_eq_true',
        decide_eq_true_eq] at h
      obtain ⟨⟨⟨hEmpty, hMany⟩, hKnown⟩, hInc⟩ := h
      have hAll : s.protocols.all CapabilityValue.knownProtocol = true := hKnown
      simp [ValueStorage.validateCanonical, sortedUnique, hEmpty, hMany, hInc, hAll]
  | tuple t =>
      have hArity : arityInRange t.elements.length = true := h
      simp [ValueStorage.validateCanonical, hArity]
  | tupleSet s =>
      simp only [ValueStorage.wellFormed, Bool.and_eq_true, Bool.not_eq_true',
        decide_eq_true_eq, List.all_eq_true, beq_iff_eq] at h
      obtain ⟨⟨⟨hEmpty, hMany⟩, hArity⟩, hInc⟩ := h
      rw [ValueStorage.validateCanonical, if_neg (by simp [hEmpty, hMany])]
      exact checkTupleOrder_eq_ok (fun t ht => (hArity t ht).1) hInc
  | record r =>
      simp only [ValueStorage.wellFormed, Bool.and_eq_true, Bool.not_eq_true',
        decide_eq_true_eq] at h
      obtain ⟨⟨⟨hEmpty, hMany⟩, -⟩, hInc⟩ := h
      simp [ValueStorage.validateCanonical, hEmpty, hMany, hInc]
  | opaquePayload p =>
      simp only [ValueStorage.wellFormed, Bool.and_eq_true, decide_eq_true_eq] at h
      have hName : p.encoding ≠ [] := by
        intro hNil
        rw [hNil] at h
        exact absurd h.1 (by decide)
      simp [ValueStorage.validateCanonical, List.isEmpty_iff, hName, h.2]
  | enumSet s =>
      simp only [ValueStorage.wellFormed, Bool.and_eq_true, Bool.not_eq_true',
        decide_eq_true_eq] at h
      obtain ⟨⟨⟨hSet, hEmpty⟩, hMany⟩, hInc⟩ := h
      simp [ValueStorage.validateCanonical, sortedUnique, hSet, hEmpty, hMany, hInc]

/-! ## Descriptors and values -/

def findEnumDomain (domain : EnumDomainId) : Outcome EnumDomainDescriptor :=
  match builtinEnumDomains.find? fun entry => entry.id = domain with
  | some entry => .ok entry
  | none =>
      failure .unknownEnumDomain (txt "enumeration domain is not declared") domain.value

def enumDomainDeclares (domain : EnumDomainId) (code : UInt32) : Bool :=
  match findEnumDomain domain with
  | .error _ => false
  | .ok entry => entry.codes.contains code

def quantityToText (value : UInt64) (unit : QuantityUnit) : Bytes :=
  decimal value.toNat ++ if unit = .none then [] else space :: unitName unit

/-- `CapabilityValue::ToText` of a numeric range. -/
def numericRangeText (r : NumericRange) : Bytes :=
  txt "[" ++ quantityToText r.minimum r.unit ++ txt ", " ++ quantityToText r.maximum r.unit
    ++ txt "]"

/-- One component of `ValidateTupleComponents`: the typed form and the bound. -/
def tupleComponentFailure (d : CapabilityDescriptor) (index : Nat) (element : ScalarValue) :
    Option Bytes :=
  match d.tupleComponentKinds.getD index .absent, element with
  | .absent, _ => none
  | .boolean, .boolean _ => none
  | .integer, .signed _ => none
  | .quantity, .unsigned value =>
      if value > d.maximumQuantity then
        some (txt "tuple component " ++ decimal index ++ txt " exceeds the descriptor bound")
      else none
  | .enumeration, .enumeration _ _ => none
  | _, _ =>
      some (txt "tuple component " ++ decimal index ++ txt " has the wrong typed form")

/-- `ValidateTupleComponents`: the text of the first failure. -/
def tupleFailure (d : CapabilityDescriptor) (tuple : TupleValue) : Option Bytes :=
  if tuple.elements.length ≠ d.tupleArity.toNat then
    some (txt "tuple arity " ++ decimal tuple.elements.length
      ++ txt " does not match descriptor " ++ decimal d.tupleArity.toNat)
  else
    (tuple.elements.mapIdx (tupleComponentFailure d)).findSome? id

/-- The member loop of a tuple set. -/
def checkTupleMembers (d : CapabilityDescriptor) (describe : Bytes → Bytes) :
    List TupleValue → Outcome Unit
  | [] => .ok ()
  | tuple :: rest =>
      match tupleFailure d tuple with
      | some detail =>
          failure .valueTypeMismatch (txt "tuple set member does not match the descriptor")
            (describe detail)
      | none => checkTupleMembers d describe rest

/-- The switch of `ValidateValueAgainstDescriptor` over the typed form that both
sides share. -/
def validateTypedValue (d : CapabilityDescriptor) (describe : Bytes → Bytes) :
    ValueStorage → Outcome Unit
  | .boolean _ => .ok ()
  | .integer raw =>
      if 0 ≤ raw ∧ raw.toUInt64 > d.maximumQuantity then
        failure .valueOutOfRange (txt "integer exceeds the descriptor bound")
          (describe (txt (toString raw.toInt)))
      else .ok ()
  | .quantity q =>
      if q.unit ≠ d.unit then
        failure .valueTypeMismatch (txt "quantity unit does not match the descriptor")
          (describe (unitName q.unit ++ txt " != " ++ unitName d.unit))
      else if q.value < d.minimumQuantity ∨ q.value > d.maximumQuantity then
        failure .valueOutOfRange (txt "quantity is outside the descriptor bounds")
          (describe (decimal q.value.toNat))
      else .ok ()
  | .enumeration e =>
      if e.domain ≠ d.enumDomain then
        failure .valueTypeMismatch (txt "enumeration domain does not match the descriptor")
          (describe e.domain.value)
      else if !enumDomainDeclares e.domain e.code then
        failure .unknownEnumDomain (txt "enumeration code is not declared by the domain")
          (describe (decimal e.code.toNat))
      else .ok ()
  | .bitSet s =>
      if s.bitCount ≠ d.bitCount then
        failure .valueOutOfRange (txt "bitset width does not match the descriptor")
          (describe (decimal s.bitCount.toNat))
      else .ok ()
  | .numericSet s =>
      if s.unit ≠ d.unit then
        failure .valueTypeMismatch (txt "numeric set unit does not match the descriptor")
          (describe (unitName s.unit))
      else if s.values.length > d.maxSetCardinality then
        failure .tooManyItems (txt "numeric set exceeds the descriptor cardinality")
          (describe (decimal s.values.length))
      else
        match s.values.find? fun e => e < d.minimumQuantity || e > d.maximumQuantity with
        | some element =>
            failure .valueOutOfRange
              (txt "numeric set element is outside the descriptor bounds")
              (describe (decimal element.toNat))
        | none => .ok ()
  | .numericRange r =>
      if r.unit ≠ d.unit then
        failure .valueTypeMismatch (txt "numeric range unit does not match the descriptor")
          (describe (unitName r.unit))
      else if r.maximum > d.maximumQuantity ∨ r.minimum < d.minimumQuantity then
        failure .valueOutOfRange (txt "numeric range is outside the descriptor bounds")
          (describe (numericRangeText r))
      else .ok ()
  | .protocolSet s =>
      if d.allowedProtocols.isEmpty then .ok ()
      else
        match s.protocols.find? fun p => !d.allowedProtocols.contains p with
        | some protocol =>
            failure .schemaViolation (txt "protocol is not declared by the descriptor")
              (describe (protocolName protocol))
        | none => .ok ()
  | .enumSet s =>
      if s.domain ≠ d.enumDomain then
        failure .valueTypeMismatch
          (txt "enumeration set domain does not match the descriptor")
          (describe s.domain.value)
      else if s.codes.length > d.maxSetCardinality then
        failure .tooManyItems (txt "enumeration set exceeds the descriptor cardinality")
          (describe (decimal s.codes.length))
      else
        match s.codes.find? fun code => !enumDomainDeclares s.domain code with
        | some code =>
            failure .unknownEnumDomain (txt "enumeration code is not declared by the domain")
              (describe (decimal code.toNat))
        | none => .ok ()
  | .tuple t =>
      match tupleFailure d t with
      | some detail =>
          failure .valueTypeMismatch (txt "tuple does not match the descriptor")
            (describe detail)
      | none => .ok ()
  | .tupleSet s => do
      checkTupleMembers d describe s.tuples
      if s.tuples.length > d.maxSetCardinality then
        failure .tooManyItems (txt "tuple set exceeds the descriptor cardinality")
          (describe (decimal s.tuples.length))
  | .versionInterval _ => .ok ()
  | .record _ => .ok ()
  | .opaquePayload p =>
      if p.encoding ≠ d.id.localName ∧ p.bytes.length > kMaxExtensionPayloadBytes then
        failure .payloadTooLarge (txt "opaque payload exceeds the extension bound")
          (describe (decimal p.bytes.length))
      else .ok ()
  | .absent =>
      failure .valueTypeMismatch (txt "an absent value cannot satisfy a typed descriptor")
        (describe (txt "absent"))

def validateValueAgainstDescriptor (d : CapabilityDescriptor) (value : CapabilityValue) :
    Outcome Unit := do
  value.storage.validateCanonical
  if value.kind ≠ d.kind then
    failure .valueTypeMismatch
      (txt "capability value typed form does not match the descriptor")
      (d.id.toText ++ txt " expects " ++ valueKindName d.kind ++ txt " but received "
        ++ valueKindName value.kind)
  else
    validateTypedValue d (fun detail => d.id.toText ++ txt ": " ++ detail) value.storage

/-! ## Descriptors and the schema -/

/-- The switch of `ValidateDescriptor` over the declared kind. -/
def validateDescriptorKind (d : CapabilityDescriptor) : Outcome Unit :=
  match d.kind with
  | .quantity | .numericSet | .numericRange =>
      if !isQuantityUnit d.unit then
        failure .valueTypeMismatch
          (txt "numeric capability descriptor requires a quantity unit") d.id.toText
      else .ok ()
  | .enumeration | .enumSet =>
      if !d.enumDomain.isSet then
        failure .valueTypeMismatch
          (txt "enumeration capability descriptor requires an enum domain") d.id.toText
      else if !(findEnumDomain d.enumDomain).isOk then
        failure .unknownEnumDomain
          (txt "capability descriptor declares an unregistered enum domain")
          d.enumDomain.value
      else .ok ()
  | .bitSet =>
      if d.bitCount == 0 || d.bitCount.toNat > kMaxBitSetBits then
        failure .valueOutOfRange
          (txt "bitset capability descriptor bit count is out of range") d.id.toText
      else .ok ()
  | .tuple | .tupleSet =>
      if d.tupleArity < 2 || d.tupleArity.toNat > kMaxTupleArity then
        failure .valueOutOfRange (txt "tuple capability descriptor arity is out of range")
          d.id.toText
      else .ok ()
  | .opaquePayload =>
      if !d.vendorExtension then
        failure .schemaViolation
          (txt "opaque payload capabilities must be vendor extensions") d.id.toText
      else .ok ()
  | _ => .ok ()

def validateDescriptor (d : CapabilityDescriptor) : Outcome Unit :=
  if !d.id.isSet then
    failure .malformedIdentifier (txt "capability descriptor has no identifier") []
  else if d.minimumQuantity > d.maximumQuantity then
    failure .valueContradiction (txt "capability descriptor quantity bounds are inverted")
      d.id.toText
  else if d.maximumQuantity > kMaxQuantity then
    failure .valueOutOfRange
      (txt "capability descriptor maximum quantity exceeds the allowed bound") d.id.toText
  else if d.maxSetCardinality == 0 || d.maxSetCardinality > kMaxSetCardinality then
    failure .valueOutOfRange (txt "capability descriptor set cardinality is out of range")
      d.id.toText
  else do
    validateDescriptorKind d
    if d.vendorExtension && !d.id.isVendorExtension then
      failure .schemaViolation
        (txt "a vendor extension descriptor must live in a vendor namespace") d.id.toText
    else if !d.vendorExtension && d.id.isVendorExtension then
      failure .schemaViolation
        (txt "a descriptor in a vendor namespace must be marked as an extension") d.id.toText
    else .ok ()

def kMaxVendorDescriptors : Nat := 1024

/-- The descriptor table.  A canonical entry is never replaced. -/
structure CapabilitySchema where
  table : List CapabilityDescriptor
  vendorCount : Nat
  deriving DecidableEq

namespace CapabilitySchema

/-- The schema a registry starts with. -/
def canonical : CapabilitySchema := { table := canonicalTable, vendorCount := 0 }

/-- The table lookup behind `Find`. -/
def lookup (schema : CapabilitySchema) (id : CapabilityId) : Option CapabilityDescriptor :=
  schema.table.find? fun d => d.id = id

def find (schema : CapabilitySchema) (id : CapabilityId) : Outcome CapabilityDescriptor :=
  match schema.lookup id with
  | some d => .ok d
  | none =>
      failure .unknownCapability (txt "capability is not declared by the governed schema")
        id.toText

/-- All descriptors, ordered by capability identifier. -/
def descriptors (schema : CapabilitySchema) : List CapabilityDescriptor :=
  sortBy (fun a b => a.id.lt b.id) schema.table

def size (schema : CapabilitySchema) : Nat := schema.table.length

/-- `RegisterVendorDescriptor` under its lock: an equal descriptor is accepted
again, a different one under the same identifier is refused. -/
def addVendorDescriptor (schema : CapabilitySchema) (d : CapabilityDescriptor) :
    Outcome CapabilitySchema :=
  match schema.lookup d.id with
  | some existing =>
      if existing = d then .ok schema
      else
        failure .duplicateClaim
          (txt "a different descriptor is already registered for this capability")
          d.id.toText
  | none =>
      if schema.vendorCount ≥ kMaxVendorDescriptors then
        failure .tooManyItems (txt "vendor descriptor limit reached")
          (decimal kMaxVendorDescriptors)
      else .ok { table := schema.table ++ [d], vendorCount := schema.vendorCount + 1 }

def registerVendorDescriptor (schema : CapabilitySchema) (d : CapabilityDescriptor) :
    Outcome CapabilitySchema := do
  validateDescriptor d
  if !d.vendorExtension then
    failure .schemaViolation
      (txt "only vendor extension descriptors may be registered at run time") d.id.toText
  else schema.addVendorDescriptor d

end CapabilitySchema

end FabricCapability.Ports
