import FabricCapability.Ports.Requirements
import Mathlib.Data.List.DropRight

/-!
# Query expressions

Translation of the expression parser of `tools/fcrctl/main.cpp`: `ParseU64`, `Trim`, `Split`,
`ParseQuantity` and `BuildRequirement`, with the parsers that they call (`CheckedMul` of
`src/encoding.cpp`, `ParseUnit` and `ParseProtocol` of `src/value.cpp` and
`ParseCapabilityState` of `src/state.cpp`).

A function that returns `bool` and writes through a pointer returns an `Option` here.
`BuildRequirement` reads the value of one outcome without a check; in the source that throws
when the outcome holds an error, which is the third result `badAccess`.
-/

namespace FabricCapability.Ports

/-! ## Numbers -/

/-- The loop of `ParseU64`. -/
def parseDigits : UInt64 → Bytes → Option UInt64
  | value, [] => some value
  | value, ch :: rest =>
      if ch < 0x30 || ch > 0x39 then none
      else
        let value := value * 10 + (ch - 0x30).toUInt64
        if value > kMaxQuantity then none else parseDigits value rest

def parseU64 (text : Bytes) : Option UInt64 :=
  if text.isEmpty then none else parseDigits 0 text

/-- Checked unsigned multiplication; fails instead of wrapping. -/
def checkedMul (a b : UInt64) : Outcome UInt64 :=
  if a != 0 && b > 0xFFFFFFFFFFFFFFFF / a then
    failure .arithmeticOverflow (txt "unsigned multiplication overflow")
      (decimal a.toNat ++ txt " * " ++ decimal b.toNat)
  else .ok (a * b)

/-! ## Names -/

/-- The table `kUnitNames`. -/
def unitNames : List QuantityUnit :=
  [.none, .bitsPerSecond, .bytes, .bytesPerSecond, .count, .packets, .nanoseconds,
    .microseconds, .milliseconds, .percent, .decibelMilliwatts, .millidegreesCelsius,
    .nanometers]

def parseUnit (text : Bytes) : Outcome QuantityUnit :=
  match unitNames.find? fun unit => unit != .none && unitName unit == text with
  | some unit => .ok unit
  | none => failure .unknownEnumDomain (txt "unknown unit") text

def parseProtocol (text : Bytes) : Outcome ProtocolId :=
  match ((List.range protocolNames.length).map fun code => ⟨UInt16.ofNat code⟩).find?
      fun (protocol : ProtocolId) => protocol != ⟨0⟩ && protocolName protocol == text with
  | some protocol => .ok protocol
  | none => failure .unknownEnumDomain (txt "unknown protocol") text

def parseCapabilityState (text : Bytes) : Outcome CapabilityState :=
  if text = txt "UNKNOWN" ∨ text = txt "unknown" then .ok .unknown
  else if text = txt "SUPPORTED" ∨ text = txt "supported" then .ok .supported
  else if text = txt "UNSUPPORTED" ∨ text = txt "unsupported" then .ok .unsupported
  else if text = txt "REVALIDATION_REQUIRED" ∨ text = txt "revalidation-required" ∨
      text = txt "revalidation_required" then .ok .revalidationRequired
  else if text = txt "CONFLICTED" ∨ text = txt "conflicted" then .ok .conflicted
  else failure .malformedValue (txt "unknown capability state") text

/-! ## Pieces of a text -/

def tab : UInt8 := 0x09

def isBlank (ch : UInt8) : Bool := ch == space || ch == tab

/-- `Trim`: the text without the blanks at its two ends. -/
def trim (text : Bytes) : Bytes := (text.dropWhile isBlank).rdropWhile isBlank

/-- `Split`: the pieces between the separators. -/
def splitText (separator : UInt8) : Bytes → List Bytes
  | [] => [[]]
  | ch :: rest =>
      if ch = separator then [] :: splitText separator rest
      else
        match splitText separator rest with
        | [] => [[ch]]
        | part :: parts => (ch :: part) :: parts

/-- What stands before and after the first place of a pattern (`std::string::find`). -/
def cutAt (pattern : Bytes) : Bytes → Option (Bytes × Bytes)
  | [] => if pattern.isPrefixOf [] then some ([], []) else none
  | ch :: rest =>
      if pattern.isPrefixOf (ch :: rest) then some ([], (ch :: rest).drop pattern.length)
      else (cutAt pattern rest).map fun (front, back) => (ch :: front, back)

/-! ## Quantities -/

/-- The characters that `ParseQuantity` takes for the unit, from the right. -/
def isUnitChar (ch : UInt8) : Bool :=
  isLowerAlpha ch || (0x41 ≤ ch && ch ≤ 0x5A) || ch == slash

/-- The table of numeric suffixes, in the order in which they are tried. -/
def quantitySuffixes : List (Bytes × UInt64) :=
  [(txt "Ki", 1024), (txt "Mi", 1024 * 1024), (txt "Gi", 1024 * 1024 * 1024),
    (txt "Ti", 1024 * 1024 * 1024 * 1024), (txt "k", 1000), (txt "M", 1000 * 1000),
    (txt "G", 1000 * 1000 * 1000), (txt "T", 1000 * 1000 * 1000 * 1000)]

/-- The digits before a numeric suffix, and the multiplier it stands for. -/
def cutSuffix (number : Bytes) : Bytes × UInt64 :=
  match quantitySuffixes.find? fun suffix =>
      number.length > suffix.1.length &&
        number.drop (number.length - suffix.1.length) == suffix.1 with
  | some suffix => (number.take (number.length - suffix.1.length), suffix.2)
  | none => (number, 1)

def parseQuantity (text defaultUnit : Bytes) : Option CapabilityValue := do
  let trimmed := trim text
  let number := trimmed.rdropWhile isUnitChar
  let suffixed := trim (trimmed.rtakeWhile isUnitChar)
  let unit := if suffixed.isEmpty then defaultUnit else suffixed
  let (digits, multiplier) := cutSuffix number
  let value ← parseU64 digits
  let product ← (checkedMul value multiplier).toOption
  if product > kMaxQuantity then none
  else
    let parsedUnit ← (parseUnit unit).toOption
    (CapabilityValue.quantityValue product parsedUnit).toOption

/-! ## Requirements -/

/-- The operator of a leaf: the fields it determines, the text of the capability and what
remains to be read.  The operators are tried in this order. -/
def leafOperator (leaf : Bytes) : Except Bytes (RequirementFields × Bytes × Bytes) :=
  match cutAt (txt ">=") leaf with
  | some (front, remainder) => .ok ({ kind := .minimum }, trim front, remainder)
  | none =>
  match cutAt (txt "<=") leaf with
  | some (front, remainder) => .ok ({ kind := .maximum }, trim front, remainder)
  | none =>
  match cutAt (txt " contains ") leaf with
  | some (front, back) =>
      match parseProtocol (trim back) with
      | .error _ => .error (txt "unknown protocol '" ++ trim back ++ txt "'")
      | .ok protocol =>
          .ok ({ kind := .protocolSupported, operandProtocol := protocol }, trim front, [])
  | none =>
  match cutAt (txt "=") leaf with
  | some (front, back) =>
      match parseCapabilityState (trim back) with
      | .error _ => .error (txt "unknown capability state '" ++ trim back ++ txt "'")
      | .ok state => .ok ({ kind := .stateIs, requiredState := state }, trim front, [])
  | none => .error (txt "cannot parse requirement leaf '" ++ leaf ++ txt "'")

/-- The operand of a minimum or of a maximum; a number without a unit is a count. -/
def leafOperand (fields : RequirementFields) (remainder : Bytes) :
    Except Bytes RequirementFields :=
  if fields.kind = .minimum ∨ fields.kind = .maximum then
    match parseQuantity remainder [] with
    | some operand => .ok { fields with operand }
    | none =>
        match parseQuantity remainder (txt "count") with
        | some operand => .ok { fields with operand }
        | none => .error (txt "cannot parse quantity '" ++ trim remainder ++ txt "'")
  else .ok fields

/-- All fields of a leaf but its name. -/
def leafFields (leaf : Bytes) : Except Bytes RequirementFields := do
  let (fields, capabilityText, remainder) ← leafOperator leaf
  match CapabilityId.parse capabilityText with
  | .error _ =>
      .error (txt "malformed capability identifier '" ++ capabilityText ++ txt "'")
  | .ok capability => leafOperand { fields with capability } remainder

/-- How many bytes of a leaf make its name. -/
def kLeafNameLength : Nat := 96

/-- What `BuildRequirement` does: a requirement, an error text, or an access to the value of
an outcome that has none. -/
inductive BuildResult where
  | built (requirement : Requirement)
  | refused (message : Bytes)
  | badAccess

/-- The loop of `BuildRequirement`, with the leaves read so far. -/
def buildLeaves (children : List Requirement) : List Bytes → BuildResult
  | [] =>
      if children.isEmpty then .refused (txt "the requirement expression is empty")
      else .built (.node { kind := .allOf } children)
  | part :: parts =>
      let leaf := trim part
      if leaf.isEmpty then buildLeaves children parts
      else
        match leafFields leaf with
        | .error message => .refused message
        | .ok fields =>
            match @TokenId.parse .requirementName (leaf.take kLeafNameLength) with
            -- The source dereferences the outcome without asking whether it holds a value.
            | .error _ => .badAccess
            | .ok name => buildLeaves (children ++ [.node { fields with name } []]) parts

def semicolon : UInt8 := 0x3B

def buildRequirement (expression : Bytes) : BuildResult :=
  buildLeaves [] (splitText semicolon expression)

end FabricCapability.Ports
