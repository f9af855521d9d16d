import FabricCapability.Ports.Value

/-!
# The factories of capability values

Translation of the checked factories of `src/value.cpp`.  Each one makes its
checks in the source's order, sorts where the source sorts, and returns the
storage together with the proof that it is well formed.

## Main results

* `ScalarValue.lt_total`, `tupleLt_total` — the comparators of scalars and tuples
  are strict total orders.
* `quantityValue_of_wellFormed` … `enumerationSetValue_of_wellFormed` — a factory
  applied to the parts of a well-formed storage returns that storage.
-/

namespace FabricCapability.Ports

open FabricCapability.Verified.StrictOrder

/-! ## The comparators of scalars and tuples -/

/-- What `ScalarValue.lt` compares: the kind, then a number, then a text, then an
enumeration code. -/
def ScalarValue.sortKey : ScalarValue → Nat × Int × Bytes × UInt32
  | .boolean value => (0, value.toNat, [], 0)
  | .signed value => (1, value.toInt, [], 0)
  | .unsigned value => (2, value.toNat, [], 0)
  | .enumeration value _ => (3, 0, value.domain.value, value.code)
  | .text value _ => (4, 0, value, 0)

theorem ScalarValue.sortKey_injective (a b : ScalarValue) (h : a.sortKey = b.sortKey) :
    a = b := by
  cases a <;> cases b <;> simp only [ScalarValue.sortKey, Prod.mk.injEq] at h <;>
    first
    | omega
    | skip
  · rename_i a b
    cases a <;> cases b <;> simp_all
  · exact congrArg ScalarValue.signed (Int64.toInt_inj.1 h.2.1)
  · exact congrArg ScalarValue.unsigned (UInt64.toNat_inj.1 (by omega))
  · rename_i a hA b hB
    cases a; cases b
    obtain ⟨-, -, hDomain, hCode⟩ := h
    obtain rfl := TokenId.ext hDomain
    obtain rfl := hCode
    rfl
  · obtain ⟨-, -, rfl, -⟩ := h
    rfl

/-- The comparison of scalars is the lexicographic comparison of their keys. -/
theorem ScalarValue.lt_eq_sortKey (a b : ScalarValue) :
    a.lt b = pairLt (fun m n : Nat => decide (m < n))
      (pairLt (fun m n : Int => decide (m < n)) (pairLt bytesLt codeLt))
      a.sortKey b.sortKey := by
  cases a <;> cases b <;>
    simp only [ScalarValue.lt, ScalarValue.sortKey, ScalarValue.kindByte, pairLt] <;>
    first
    | rfl
    | skip
  · rename_i a b
    cases a <;> cases b <;> rfl
  · rename_i a b
    by_cases h : a.toInt = b.toInt
    · simp [h, codeLt_total.irrefl]
    · rw [if_pos trivial, if_neg h]
      rfl
  · rename_i a b
    by_cases h : a.toNat = b.toNat
    · simp [h, wordLt, codeLt_total.irrefl]
    · have hInt : (a.toNat : Int) ≠ b.toNat := by omega
      rw [Bool.eq_iff_iff]
      simp [hInt, wordLt]
  · rename_i a hA b hB
    by_cases h : a.domain = b.domain
    · simp [h]
    · have hValue : a.domain.value ≠ b.domain.value := fun hEq => h (TokenId.ext hEq)
      simp [h, hValue]
  · rename_i a hA b hB
    by_cases h : a = b
    · simp [h, bytesLt_total.irrefl, codeLt_total.irrefl]
    · simp [h]

theorem ScalarValue.lt_total : StrictTotal ScalarValue.lt := by
  have hKey := (StrictTotal.nat.pair (StrictTotal.int.pair
    (bytesLt_total.pair codeLt_total))).comap_injective _ ScalarValue.sortKey_injective
  have hEq : ScalarValue.lt = _ := funext fun a => funext fun b => ScalarValue.lt_eq_sortKey a b
  rw [hEq]
  exact hKey

theorem tupleLt_total : StrictTotal tupleLt :=
  ScalarValue.lt_total.lex.comap_injective TupleValue.elements fun a b h => by
    cases a; cases b; simp_all

/-! ## Factories -/

/-- `RequireQuantityUnit`. -/
def requireQuantityUnit (unit : QuantityUnit) (what : Bytes) : Outcome Unit :=
  if !isQuantityUnit unit then
    failure .valueTypeMismatch (what ++ txt " requires a quantity unit") (unitName unit)
  else .ok ()

theorem requireQuantityUnit_eq_ok {unit : QuantityUnit} {what : Bytes} :
    requireQuantityUnit unit what = .ok () ↔ isQuantityUnit unit = true := by
  cases h : isQuantityUnit unit <;> simp [requireQuantityUnit, h, failure]

namespace CapabilityValue

def quantityValue (value : UInt64) (unit : QuantityUnit) : Outcome CapabilityValue :=
  match hUnit : requireQuantityUnit unit (txt "quantity capability value") with
  | .error e => .error e
  | .ok () =>
      if hMax : value > kMaxQuantity then
        failure .valueOutOfRange (txt "quantity exceeds the allowed bound")
          (decimal value.toNat)
      else .ok ⟨.quantity ⟨value, unit⟩, by
        simp [ValueStorage.wellFormed, requireQuantityUnit_eq_ok.1 hUnit,
          UInt64.not_lt.1 hMax]⟩

def enumeration (domain : EnumDomainId) (code : UInt32) : Outcome CapabilityValue :=
  if hSet : domain.isSet = true then .ok ⟨.enumeration ⟨domain, code⟩, hSet⟩
  else failure .valueTypeMismatch
    (txt "enumeration capability value requires a domain") []

def bitSetValue (bitCount : UInt32) (words : List UInt64) : Outcome CapabilityValue :=
  if hCount : bitCount = 0 ∨ bitCount.toNat > kMaxBitSetBits then
    failure .valueOutOfRange (txt "bitset bit count is out of range")
      (decimal bitCount.toNat)
  else if words.length ≠ wordsForBits bitCount then
    failure .valueNotCanonical (txt "bitset word count does not match the bit count")
      (txt "words=" ++ decimal words.length ++ txt " expected="
        ++ decimal (wordsForBits bitCount))
  else if hClear : bitsAboveCountAreClear ⟨bitCount, words⟩ = true then
    .ok ⟨.bitSet ⟨bitCount, words⟩, by
      rw [not_or] at hCount
      simp [ValueStorage.wellFormed, hClear, hCount.1, Nat.not_lt.1 hCount.2]⟩
  else
    failure .valueNotCanonical (txt "bitset has bits set above its declared bit count") []

/-- The bound check of the elements of a numeric set. -/
def checkNumericElements (values : List UInt64) : Outcome Unit :=
  match values.find? (· > kMaxQuantity) with
  | some value =>
      failure .valueOutOfRange (txt "numeric set element exceeds the allowed bound")
        (decimal value.toNat)
  | none => .ok ()

theorem checkNumericElements_eq_ok {values : List UInt64} :
    checkNumericElements values = .ok () ↔ ∀ v ∈ values, v ≤ kMaxQuantity := by
  unfold checkNumericElements
  cases h : values.find? (· > kMaxQuantity) with
  | none =>
      simp only [true_iff]
      intro v hv
      have hNot := List.find?_eq_none.1 h v hv
      simpa using hNot
  | some value =>
      simp only [failure, reduceCtorEq, false_iff, not_forall]
      have hGt := List.find?_some h
      refine ⟨value, List.mem_of_find?_eq_some h, ?_⟩
      simpa using hGt

def numericSetValue (unit : QuantityUnit) (values : List UInt64) : Outcome CapabilityValue :=
  match hUnit : requireQuantityUnit unit (txt "numeric set capability value") with
  | .error e => .error e
  | .ok () =>
      if hEmpty : values.isEmpty = true then
        failure .emptyCollection (txt "numeric set must not be empty") []
      else if hMany : values.length > kMaxSetCardinality then
        failure .tooManyItems (txt "numeric set exceeds the allowed cardinality")
          (decimal values.length)
      else
        match hBound : checkNumericElements values with
        | .error e => .error e
        | .ok () =>
            if hDup : anyAdjacent (· == ·) (sortBy wordLt values) = true then
              failure .duplicateValue (txt "numeric set contains duplicate elements") []
            else .ok ⟨.numericSet ⟨unit, sortBy wordLt values⟩, by
              have hInc := increasing_of_sorted (· == ·)
                (fun a b hab hba => beq_iff_eq.2 (wordLt_total.eq_of_not_lt a b hab hba))
                (sortBy_pairwise wordLt_total.weak values) (Bool.not_eq_true _ ▸ hDup)
              have hAll := checkNumericElements_eq_ok.1 hBound
              have hNe : (sortBy wordLt values).isEmpty = false := by
                simpa [List.isEmpty_iff, ← List.length_eq_zero_iff] using hEmpty
              simp only [ValueStorage.wellFormed, Bool.and_eq_true, List.all_eq_true,
                decide_eq_true_eq, length_sortBy, mem_sortBy, Bool.not_eq_true', hNe, hInc,
                requireQuantityUnit_eq_ok.1 hUnit, and_true, true_and]
              exact ⟨Nat.not_lt.1 hMany, hAll⟩⟩

def numericRangeValue (unit : QuantityUnit) (minimum maximum : UInt64) :
    Outcome CapabilityValue :=
  match hUnit : requireQuantityUnit unit (txt "numeric range capability value") with
  | .error e => .error e
  | .ok () =>
      if hOrder : minimum > maximum then
        failure .valueContradiction (txt "numeric range minimum is above its maximum")
          (decimal minimum.toNat ++ txt " > " ++ decimal maximum.toNat)
      else if hMax : maximum > kMaxQuantity then
        failure .valueOutOfRange (txt "numeric range bound exceeds the allowed bound") []
      else .ok ⟨.numericRange ⟨unit, minimum, maximum⟩, by
        simp [ValueStorage.wellFormed, requireQuantityUnit_eq_ok.1 hUnit,
          UInt64.not_lt.1 hOrder, UInt64.not_lt.1 hMax]⟩

def versionIntervalValue (minimum : Version) (minInclusive : Bool) (maximum : Version)
    (maxInclusive : Bool) : Outcome CapabilityValue :=
  if hCount : minimum.count = 0 ∨ maximum.count = 0 then
    failure .valueTypeMismatch (txt "version interval requires both bounds") []
  else if hOrder : maximum.lt minimum = true then
    failure .valueContradiction (txt "version interval maximum is below its minimum")
      (minimum.toText ++ txt " .. " ++ maximum.toText)
  else if hEmpty : minimum.same maximum = true ∧ (minInclusive = false ∨ maxInclusive = false) then
    failure .valueContradiction (txt "empty version interval") []
  else .ok ⟨.versionInterval ⟨minimum, maximum, minInclusive, maxInclusive⟩, by
    rw [not_or] at hCount
    cases hSame : minimum.same maximum <;> cases minInclusive <;> cases maxInclusive <;>
      simp_all [ValueStorage.wellFormed]⟩

theorem isEmpty_sortBy {α : Type} (lt : α → α → Bool) (xs : List α) :
    (sortBy lt xs).isEmpty = xs.isEmpty := by
  rw [Bool.eq_iff_iff, List.isEmpty_iff_length_eq_zero, List.isEmpty_iff_length_eq_zero,
    length_sortBy]

/-- The check of the elements of a protocol set. -/
def knownProtocol (protocol : ProtocolId) : Bool :=
  protocol.code != 0 && protocol.code ≤ kProtocolIdMax

def protocolSetValue (protocols : List ProtocolId) : Outcome CapabilityValue :=
  if hEmpty : protocols.isEmpty = true then
    failure .emptyCollection (txt "protocol set must not be empty") []
  else if hMany : protocols.length > kMaxProtocolsInSet then
    failure .tooManyItems (txt "protocol set exceeds the allowed cardinality") []
  else if hKnown : ¬ protocols.all knownProtocol = true then
    failure .unknownEnumDomain (txt "protocol set contains an unknown protocol") []
  else if hDup : anyAdjacent (· == ·) (sortBy protocolLt protocols) = true then
    failure .duplicateValue (txt "protocol set contains duplicate protocols") []
  else .ok ⟨.protocolSet ⟨sortBy protocolLt protocols⟩, by
    have hInc := increasing_of_sorted (· == ·)
      (fun a b hab hba => beq_iff_eq.2 (protocolLt_total.eq_of_not_lt a b hab hba))
      (sortBy_pairwise protocolLt_total.weak protocols) (Bool.not_eq_true _ ▸ hDup)
    have hAll : ∀ p ∈ protocols, knownProtocol p = true := by
      simpa [List.all_eq_true] using hKnown
    simp only [ValueStorage.wellFormed, isEmpty_sortBy, hEmpty, hInc, Bool.not_false,
      length_sortBy, Nat.not_lt.1 hMany, decide_true, Bool.and_true, Bool.true_and,
      List.all_eq_true, mem_sortBy]
    exact hAll⟩

/-- `CapabilityValue::TupleValueOf`. -/
def tupleValueOf (elements : List ScalarValue) : Outcome CapabilityValue :=
  if hArity : arityInRange elements.length = true then .ok ⟨.tuple ⟨elements⟩, hArity⟩
  else failure .valueOutOfRange (txt "tuple arity must be between two and eight")
    (decimal elements.length)

/-- The arity checks of the members of a tuple set, in list order. -/
def checkTupleArities (arity : Nat) : List TupleValue → Outcome Unit
  | [] => .ok ()
  | tuple :: rest =>
      if tuple.elements.length ≠ arity then
        failure .valueNotCanonical (txt "tuple set members do not share one arity") []
      else if arityInRange tuple.elements.length = true then checkTupleArities arity rest
      else failure .valueOutOfRange (txt "tuple set member arity is out of range") []

theorem checkTupleArities_eq_ok {arity : Nat} {tuples : List TupleValue} :
    checkTupleArities arity tuples = .ok () ↔
      ∀ t ∈ tuples, t.elements.length = arity ∧ arityInRange t.elements.length = true := by
  induction tuples with
  | nil => simp [checkTupleArities]
  | cons tuple rest ih =>
      rw [checkTupleArities, List.forall_mem_cons, ← ih]
      by_cases hArity : tuple.elements.length = arity
      · cases hRange : arityInRange tuple.elements.length <;>
          simp_all [failure]
      · simp [hArity, failure]

def tupleSetValue (tuples : List TupleValue) : Outcome CapabilityValue :=
  if hEmpty : tuples.isEmpty = true then
    failure .emptyCollection (txt "tuple set must not be empty") []
  else if hMany : tuples.length > kMaxTupleSetCardinality then
    failure .tooManyItems (txt "tuple set exceeds the allowed cardinality") []
  else
    match hArity : checkTupleArities (tuples.headD ⟨[]⟩).elements.length tuples with
    | .error e => .error e
    | .ok () =>
        if hDup : anyAdjacent (fun a b => !tupleLt a b && !tupleLt b a)
            (sortBy tupleLt tuples) = true then
          failure .duplicateValue (txt "tuple set contains duplicate tuples") []
        else .ok ⟨.tupleSet ⟨sortBy tupleLt tuples⟩, by
          have hInc := increasing_of_sorted (fun a b => !tupleLt a b && !tupleLt b a)
            (fun a b hab hba => by simp [hab, hba])
            (sortBy_pairwise tupleLt_total.weak tuples) (Bool.not_eq_true _ ▸ hDup)
          have hAll := checkTupleArities_eq_ok.1 hArity
          -- sorting moves another member to the front, but all arities agree
          have hHead : ((sortBy tupleLt tuples).headD ⟨[]⟩).elements.length =
              (tuples.headD ⟨[]⟩).elements.length := by
            cases hSorted : sortBy tupleLt tuples with
            | nil =>
                have hNil := isEmpty_sortBy tupleLt tuples
                rw [hSorted] at hNil
                simp [← hNil] at hEmpty
            | cons t rest =>
                have hMem : t ∈ tuples := by
                  rw [← @mem_sortBy _ tupleLt, hSorted]
                  exact List.mem_cons_self ..
                exact (hAll t hMem).1
          simp only [ValueStorage.wellFormed, isEmpty_sortBy, hEmpty, hInc, Bool.not_false,
            length_sortBy, Nat.not_lt.1 hMany, decide_true, Bool.and_true, Bool.true_and,
            List.all_eq_true, mem_sortBy, hHead, Bool.and_eq_true, beq_iff_eq]
          exact hAll⟩

def enumerationSetValue (domain : EnumDomainId) (codes : List UInt32) :
    Outcome CapabilityValue :=
  if hSet : ¬ domain.isSet = true then
    failure .valueTypeMismatch (txt "enumeration set requires a domain") []
  else if hEmpty : codes.isEmpty = true then
    failure .emptyCollection (txt "enumeration set must not be empty") []
  else if hMany : codes.length > kMaxSetCardinality then
    failure .tooManyItems (txt "enumeration set exceeds the allowed cardinality") []
  else if hDup : anyAdjacent (· == ·) (sortBy codeLt codes) = true then
    failure .duplicateValue (txt "enumeration set contains duplicate codes") []
  else .ok ⟨.enumSet ⟨domain, sortBy codeLt codes⟩, by
    have hInc := increasing_of_sorted (· == ·)
      (fun a b hab hba => beq_iff_eq.2 (codeLt_total.eq_of_not_lt a b hab hba))
      (sortBy_pairwise codeLt_total.weak codes) (Bool.not_eq_true _ ▸ hDup)
    simp only [ValueStorage.wellFormed, isEmpty_sortBy, hEmpty, hInc, Bool.not_false,
      length_sortBy, Nat.not_lt.1 hMany, decide_true, Bool.and_true]
    exact Decidable.not_not.1 hSet⟩

/-- The name checks of the fields of a record, in list order. -/
def checkFieldNames : List RecordField → Outcome Unit
  | [] => .ok ()
  | field :: rest => do
      validateRecordFieldName field.name
      checkFieldNames rest

theorem checkFieldNames_eq_ok {fields : List RecordField} :
    checkFieldNames fields = .ok () ↔
      ∀ f ∈ fields, (validateRecordFieldName f.name).isOk = true := by
  induction fields with
  | nil => simp [checkFieldNames]
  | cons field rest ih =>
      rw [checkFieldNames, List.forall_mem_cons, ← ih]
      cases h : validateRecordFieldName field.name with
      | error e => simp [Except.isOk, Except.toBool, bind, Except.bind]
      | ok _ => simp [Except.isOk, Except.toBool, bind, Except.bind]

/-- The name of the second of the first two neighbours that share their name. -/
def duplicateFieldName : List RecordField → Option Bytes
  | a :: b :: rest => if a.name = b.name then some b.name else duplicateFieldName (b :: rest)
  | _ => none

theorem duplicateFieldName_eq_none {fields : List RecordField} :
    duplicateFieldName fields = none ↔
      anyAdjacent (fun a b => a.name == b.name) fields = false := by
  induction fields with
  | nil => simp [duplicateFieldName, anyAdjacent]
  | cons a rest ih =>
      cases rest with
      | nil => simp [duplicateFieldName, anyAdjacent]
      | cons b rest =>
          rw [duplicateFieldName, anyAdjacent, Bool.or_eq_false_iff, ← ih]
          by_cases hName : a.name = b.name <;> simp [hName]

theorem recordFieldLt_weak : StrictWeak recordFieldLt := bytesLt_total.comap RecordField.name

def recordValue (fields : List RecordField) : Outcome CapabilityValue :=
  if hEmpty : fields.isEmpty = true then
    failure .emptyCollection (txt "structured record must not be empty") []
  else if hMany : fields.length > kMaxRecordFields then
    failure .tooManyItems (txt "structured record exceeds the allowed field count") []
  else
    match hNames : checkFieldNames fields with
    | .error e => .error e
    | .ok () =>
        match hDup : duplicateFieldName (sortBy recordFieldLt fields) with
        | some name =>
            failure .duplicateValue (txt "structured record has duplicate field names") name
        | none => .ok ⟨.record ⟨sortBy recordFieldLt fields⟩, by
            have hInc := increasing_of_sorted (fun a b => a.name == b.name)
              (fun a b hab hba => beq_iff_eq.2 (bytesLt_total.eq_of_not_lt a.name b.name hab hba))
              (sortBy_pairwise recordFieldLt_weak fields) (duplicateFieldName_eq_none.1 hDup)
            simp only [ValueStorage.wellFormed, isEmpty_sortBy, hEmpty, hInc, Bool.not_false,
              length_sortBy, Nat.not_lt.1 hMany, decide_true, Bool.and_true, Bool.true_and,
              List.all_eq_true, mem_sortBy]
            exact checkFieldNames_eq_ok.1 hNames⟩

def opaqueValue (encoding bytes : Bytes) : Outcome CapabilityValue :=
  match hName : validateOpaqueEncoding encoding with
  | .error e => .error e
  | .ok () =>
      if hLarge : bytes.length > kMaxExtensionPayloadBytes then
        failure .payloadTooLarge (txt "opaque payload exceeds the allowed bound")
          (decimal bytes.length)
      else .ok ⟨.opaquePayload ⟨encoding, bytes⟩, by
        simp only [ValueStorage.wellFormed, hName, Nat.not_lt.1 hLarge, decide_true,
          Bool.and_true]
        rfl⟩

/-! ## Factories applied to canonical parts -/

theorem quantityValue_of_wellFormed {q : Quantity} (h : (ValueStorage.quantity q).wellFormed = true) :
    quantityValue q.value q.unit = .ok ⟨.quantity q, h⟩ := by
  have hParts := h
  simp only [ValueStorage.wellFormed, Bool.and_eq_true, decide_eq_true_eq] at hParts
  have hUnit := (requireQuantityUnit_eq_ok.2 hParts.1 :
    requireQuantityUnit q.unit (txt "quantity capability value") = .ok ())
  unfold quantityValue
  split
  · rename_i e he
    rw [hUnit] at he
    cases he
  · rw [dif_neg (UInt64.not_lt.2 hParts.2)]

theorem enumeration_of_wellFormed {e : EnumValue} (h : (ValueStorage.enumeration e).wellFormed = true) :
    enumeration e.domain e.code = .ok ⟨.enumeration e, h⟩ :=
  dif_pos h

theorem bitSetValue_of_wellFormed {s : BitSet} (h : (ValueStorage.bitSet s).wellFormed = true) :
    bitSetValue s.bitCount s.words = .ok ⟨.bitSet s, h⟩ := by
  have hParts := h
  simp only [ValueStorage.wellFormed, Bool.and_eq_true, decide_eq_true_eq, bne_iff_ne] at hParts
  obtain ⟨⟨hZero, hMax⟩, hClear⟩ := hParts
  have hWords : s.words.length = wordsForBits s.bitCount := by
    by_contra hNe
    simp [bitsAboveCountAreClear, hNe] at hClear
  unfold bitSetValue
  rw [dif_neg (by simp [hZero, hMax]), if_neg (by simpa using hWords), dif_pos hClear]

theorem numericSetValue_of_wellFormed {s : NumericSet} (h : (ValueStorage.numericSet s).wellFormed = true) :
    numericSetValue s.unit s.values = .ok ⟨.numericSet s, h⟩ := by
  have hParts := h
  simp only [ValueStorage.wellFormed, Bool.and_eq_true, decide_eq_true_eq, Bool.not_eq_true',
    List.all_eq_true] at hParts
  obtain ⟨⟨⟨⟨hUnit, hEmpty⟩, hMany⟩, hBound⟩, hInc⟩ := hParts
  have hSorted := sortBy_of_increasing wordLt_total hInc
  have hDup := anyAdjacent_of_increasing (· == ·)
    (fun a b hab => by rw [beq_iff_eq.1 hab]; exact wordLt_total.irrefl b) hInc
  unfold numericSetValue
  split
  · rename_i e he
    rw [requireQuantityUnit_eq_ok.2 hUnit] at he
    cases he
  · rw [dif_neg (by simp [hEmpty]), dif_neg (by omega)]
    split
    · rename_i e he
      rw [checkNumericElements_eq_ok.2 hBound] at he
      cases he
    · rw [dif_neg (by simp [hSorted, hDup])]
      simp [hSorted]


theorem numericRangeValue_of_wellFormed {r : NumericRange}
    (h : (ValueStorage.numericRange r).wellFormed = true) :
    numericRangeValue r.unit r.minimum r.maximum = .ok ⟨.numericRange r, h⟩ := by
  have hParts := h
  simp only [ValueStorage.wellFormed, Bool.and_eq_true, decide_eq_true_eq] at hParts
  obtain ⟨⟨hUnit, hOrder⟩, hMax⟩ := hParts
  unfold numericRangeValue
  split
  · rename_i e he
    rw [requireQuantityUnit_eq_ok.2 hUnit] at he
    cases he
  · rw [dif_neg (UInt64.not_lt.2 hOrder), dif_neg (UInt64.not_lt.2 hMax)]

theorem versionIntervalValue_of_wellFormed {v : VersionInterval}
    (h : (ValueStorage.versionInterval v).wellFormed = true) :
    versionIntervalValue v.minimum v.minimumInclusive v.maximum v.maximumInclusive =
      .ok ⟨.versionInterval v, h⟩ := by
  have hParts := h
  simp only [ValueStorage.wellFormed, Bool.and_eq_true, Bool.or_eq_true, bne_iff_ne,
    Bool.not_eq_true'] at hParts
  obtain ⟨⟨⟨hMin, hMax⟩, hOrder⟩, hEnds⟩ := hParts
  have hNotEmpty : ¬ (v.minimum.same v.maximum = true ∧
      (v.minimumInclusive = false ∨ v.maximumInclusive = false)) := by
    rintro ⟨hSame, hOpen⟩
    rcases hEnds with hDiffer | hClosed
    · rw [hDiffer] at hSame
      cases hSame
    · rcases hOpen with hOpen | hOpen <;> simp [hOpen] at hClosed
  unfold versionIntervalValue
  rw [dif_neg (by simp [hMin, hMax]), dif_neg (by simp [hOrder]), dif_neg hNotEmpty]

theorem protocolSetValue_of_wellFormed {s : ProtocolSet}
    (h : (ValueStorage.protocolSet s).wellFormed = true) :
    protocolSetValue s.protocols = .ok ⟨.protocolSet s, h⟩ := by
  have hParts := h
  simp only [ValueStorage.wellFormed, Bool.and_eq_true, decide_eq_true_eq,
    Bool.not_eq_true'] at hParts
  obtain ⟨⟨⟨hEmpty, hMany⟩, hKnown⟩, hInc⟩ := hParts
  have hSorted := sortBy_of_increasing protocolLt_total hInc
  have hDup := anyAdjacent_of_increasing (· == ·)
    (fun a b hab => by rw [beq_iff_eq.1 hab]; exact protocolLt_total.irrefl b) hInc
  have hAll : s.protocols.all knownProtocol = true := hKnown
  unfold protocolSetValue
  rw [dif_neg (by simp [hEmpty]), dif_neg (by omega), dif_neg (by simp [hAll]),
    dif_neg (by simp [hSorted, hDup])]
  simp [hSorted]

theorem tupleValueOf_of_wellFormed {t : TupleValue}
    (h : (ValueStorage.tuple t).wellFormed = true) :
    tupleValueOf t.elements = .ok ⟨.tuple t, h⟩ :=
  dif_pos h

theorem tupleSetValue_of_wellFormed {s : TupleSet}
    (h : (ValueStorage.tupleSet s).wellFormed = true) :
    tupleSetValue s.tuples = .ok ⟨.tupleSet s, h⟩ := by
  have hParts := h
  simp only [ValueStorage.wellFormed, Bool.and_eq_true, decide_eq_true_eq,
    Bool.not_eq_true', List.all_eq_true, beq_iff_eq] at hParts
  obtain ⟨⟨⟨hEmpty, hMany⟩, hArity⟩, hInc⟩ := hParts
  have hSorted := sortBy_of_increasing tupleLt_total hInc
  have hDup := anyAdjacent_of_increasing (fun a b => !tupleLt a b && !tupleLt b a)
    (fun a b hab => by simp at hab; exact hab.1) hInc
  unfold tupleSetValue
  rw [dif_neg (by simp [hEmpty]), dif_neg (by omega)]
  split
  · rename_i e he
    rw [checkTupleArities_eq_ok.2 hArity] at he
    cases he
  · rw [dif_neg (by simp [hSorted, hDup])]
    simp [hSorted]

theorem recordValue_of_wellFormed {r : StructuredRecord}
    (h : (ValueStorage.record r).wellFormed = true) :
    recordValue r.fields = .ok ⟨.record r, h⟩ := by
  have hParts := h
  simp only [ValueStorage.wellFormed, Bool.and_eq_true, decide_eq_true_eq,
    Bool.not_eq_true', List.all_eq_true] at hParts
  obtain ⟨⟨⟨hEmpty, hMany⟩, hNames⟩, hInc⟩ := hParts
  have hSorted : sortBy recordFieldLt r.fields = r.fields :=
    sortBy_eq_self (((increasing_iff_pairwise
      (fun a b c => bytesLt_total.trans a.name b.name c.name) _).1 hInc).imp
      fun hab => bytesLt_total.asymm hab)
  have hDup := anyAdjacent_of_increasing (fun a b : RecordField => a.name == b.name)
    (fun a b hab => by
      rw [recordFieldLt, beq_iff_eq.1 hab]
      exact bytesLt_total.irrefl b.name) hInc
  unfold recordValue
  rw [dif_neg (by simp [hEmpty]), dif_neg (by omega)]
  split
  · rename_i e he
    rw [checkFieldNames_eq_ok.2 hNames] at he
    cases he
  · split
    · rename_i name hName
      rw [hSorted, duplicateFieldName_eq_none.2 hDup] at hName
      cases hName
    · simp [hSorted]

theorem opaqueValue_of_wellFormed {p : OpaquePayload}
    (h : (ValueStorage.opaquePayload p).wellFormed = true) :
    opaqueValue p.encoding p.bytes = .ok ⟨.opaquePayload p, h⟩ := by
  have hParts := h
  simp only [ValueStorage.wellFormed, Bool.and_eq_true, decide_eq_true_eq] at hParts
  unfold opaqueValue
  split
  · rename_i e he
    rw [he] at hParts
    exact absurd hParts.1 (by simp [Except.isOk, Except.toBool])
  · rw [dif_neg (by omega)]

theorem enumerationSetValue_of_wellFormed {s : EnumSet}
    (h : (ValueStorage.enumSet s).wellFormed = true) :
    enumerationSetValue s.domain s.codes = .ok ⟨.enumSet s, h⟩ := by
  have hParts := h
  simp only [ValueStorage.wellFormed, Bool.and_eq_true, decide_eq_true_eq,
    Bool.not_eq_true'] at hParts
  obtain ⟨⟨⟨hSet, hEmpty⟩, hMany⟩, hInc⟩ := hParts
  have hSorted := sortBy_of_increasing codeLt_total hInc
  have hDup := anyAdjacent_of_increasing (· == ·)
    (fun a b hab => by rw [beq_iff_eq.1 hab]; exact codeLt_total.irrefl b) hInc
  unfold enumerationSetValue
  rw [dif_neg (by simp [hSet]), dif_neg (by simp [hEmpty]), dif_neg (by omega),
    dif_neg (by simp [hSorted, hDup])]
  simp [hSorted]

end CapabilityValue

end FabricCapability.Ports
