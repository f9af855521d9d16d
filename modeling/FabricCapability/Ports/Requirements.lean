import FabricCapability.Verified.LockedCode
import FabricCapability.Ports.Queries
import FabricCapability.Ports.ValueText

/-!
# Requirement expressions

Translation of `include/fabric/capability/requirement.hpp` and `src/requirement.cpp`: the
closed expression language over capabilities, its validation and its evaluation.

An evaluation asks the registry for one leaf after the other, each time under the lock of
its own, so it is code with locked sections.  The accessors of a value throw for another
alternative than the stored one; an evaluation in which one throws has no answer.
-/

namespace FabricCapability.Ports

open FabricCapability.Verified.LockedCode

def kMaxRequirementDepth : Nat := 8
def kMaxRequirementNodes : Nat := 256

/-! ## Expressions -/

inductive RequirementKind where
  | stateIs | booleanEquals | minimum | maximum | inSet | rangeContains | versionContains
  | protocolSupported | enumerationSupported | allOf | anyOf | negation
  deriving DecidableEq, Repr

def requirementKindName : RequirementKind → Bytes
  | .stateIs => txt "state-is"
  | .booleanEquals => txt "boolean-equals"
  | .minimum => txt "minimum"
  | .maximum => txt "maximum"
  | .inSet => txt "in-set"
  | .rangeContains => txt "range-contains"
  | .versionContains => txt "version-contains"
  | .protocolSupported => txt "protocol-supported"
  | .enumerationSupported => txt "enumeration-supported"
  | .allOf => txt "all-of"
  | .anyOf => txt "any-of"
  | .negation => txt "not"

inductive RequirementOutcome where
  | satisfied | notSatisfied | undetermined
  deriving DecidableEq, Repr

def requirementOutcomeName : RequirementOutcome → Bytes
  | .satisfied => txt "satisfied"
  | .notSatisfied => txt "not-satisfied"
  | .undetermined => txt "undetermined"

def noVersion : Version := ⟨[], Nat.zero_le _, nofun⟩

/-- The fields of a `Requirement` other than its children. -/
structure RequirementFields where
  kind : RequirementKind := .stateIs
  name : RequirementName := .unset
  capability : CapabilityId := .unset
  requiredState : CapabilityState := .supported
  operand : CapabilityValue := .absent
  operandVersion : Version := noVersion
  operandProtocol : ProtocolId := ⟨0⟩
  operandEnumCode : UInt32 := 0
  requireProof : Bool := true
  deriving DecidableEq

inductive Requirement where
  | node (fields : RequirementFields) (children : List Requirement)

def Requirement.fields : Requirement → RequirementFields
  | .node fields _ => fields

/-! ## Validation -/

/-- The end of `ValidateNode`, for a node that is not compound. -/
def validateLeaf (fields : RequirementFields) (children : List Requirement) : Outcome Unit :=
  if !fields.capability.isSet then
    failure .invalidArgument (txt "a leaf requirement must name a capability") []
  else if !children.isEmpty then
    failure .invalidArgument (txt "a leaf requirement must not have children") []
  else
    match fields.kind with
    | .booleanEquals =>
        if fields.operand.kind ≠ .boolean then
          failure .valueTypeMismatch (txt "boolean-equals requires a boolean operand") []
        else .ok ()
    | .minimum | .maximum | .rangeContains | .inSet =>
        if fields.operand.kind ≠ .quantity then
          failure .valueTypeMismatch (txt "this requirement requires a quantity operand")
            fields.capability.toText
        else .ok ()
    | .versionContains =>
        if fields.operandVersion.count = 0 then
          failure .valueTypeMismatch (txt "version-contains requires a version operand") []
        else .ok ()
    | .protocolSupported =>
        if fields.operandProtocol = ⟨0⟩ then
          failure .valueTypeMismatch (txt "protocol-supported requires a protocol operand") []
        else .ok ()
    | _ => .ok ()

mutual

/-- `ValidateNode`; `nodes` counts the nodes before this one, and the answer counts it and
those below it as well. -/
def validateNode (depth nodes : Nat) (isRoot : Bool) : Requirement → Outcome Nat
  | .node fields children =>
      if depth > kMaxRequirementDepth then
        failure .nestingTooDeep (txt "requirement nesting exceeds the allowed depth")
          (decimal depth)
      else if nodes + 1 > kMaxRequirementNodes then
        failure .tooManyItems (txt "requirement exceeds the allowed node count")
          (decimal (nodes + 1))
      else
        match fields.kind with
        | .allOf | .anyOf =>
            if children.isEmpty then
              failure .emptyCollection
                (txt "a compound requirement must have at least one child") []
            else validateChildren (depth + 1) (nodes + 1) children
        | .negation =>
            if isRoot then
              failure .invalidArgument (txt "NOT is not permitted as the root requirement") []
            else if children.length ≠ 1 then
              failure .invalidArgument (txt "NOT requires exactly one child requirement") []
            else validateChildren (depth + 1) (nodes + 1) children
        | _ => do
            validateLeaf fields children
            return nodes + 1

def validateChildren (depth nodes : Nat) : List Requirement → Outcome Nat
  | [] => .ok nodes
  | child :: children => do
      let nodes ← validateNode depth nodes false child
      validateChildren depth nodes children

end

/-- `ValidateRequirement`. -/
def validateRequirement (requirement : Requirement) : Outcome Unit := do
  let _ ← validateNode 0 0 true requirement
  return ()

/-! ## Accessors -/

namespace CapabilityValue

/-- `AsBoolean`, which throws for another alternative, as the other accessors do. -/
def asBoolean (value : CapabilityValue) : Option Bool :=
  match value.storage with
  | .boolean held => some held
  | _ => none

def asQuantity (value : CapabilityValue) : Option Quantity :=
  match value.storage with
  | .quantity held => some held
  | _ => none

def asVersionInterval (value : CapabilityValue) : Option VersionInterval :=
  match value.storage with
  | .versionInterval held => some held
  | _ => none

def asProtocolSet (value : CapabilityValue) : Option ProtocolSet :=
  match value.storage with
  | .protocolSet held => some held
  | _ => none

def asEnumSet (value : CapabilityValue) : Option EnumSet :=
  match value.storage with
  | .enumSet held => some held
  | _ => none

end CapabilityValue

/-! ## Leaves -/

structure ObservedQuantity where
  present : Bool := false
  minimum : UInt64 := 0
  maximum : UInt64 := 0
  unit : QuantityUnit := .none
  isSet : Bool := false
  members : List UInt64 := []

/-- `ExtractQuantity`. -/
def extractQuantity (value : CapabilityValue) : ObservedQuantity :=
  match value.storage with
  | .quantity q =>
      { present := true, minimum := q.value, maximum := q.value, unit := q.unit }
  | .numericRange range =>
      { present := true, minimum := range.minimum, maximum := range.maximum, unit := range.unit }
  | .numericSet set =>
      { present := true
        minimum := set.values.headD 0
        maximum := set.values.getLastD 0
        unit := set.unit
        isSet := true
        members := set.values }
  | _ => {}

def VersionInterval.contains (interval : VersionInterval) (version : Version) : Bool :=
  let above :=
    if interval.minimumInclusive then !version.lt interval.minimum
    else interval.minimum.lt version
  let below :=
    if interval.maximumInclusive then !interval.maximum.lt version
    else version.lt interval.maximum
  above && below

/-- What a node is decided to be, and why. -/
abbrev Verdict := RequirementOutcome × Bytes

def undetermined (detail : String) : Option Verdict := some (.undetermined, txt detail)

def decided (satisfied : Bool) (detail : String) : Option Verdict :=
  some (if satisfied then .satisfied else .notSatisfied, txt detail)

/-- The comparison of a quantity. -/
def compareQuantity (kind : RequirementKind) (quantity : ObservedQuantity) (operand : UInt64) :
    Option Verdict :=
  match kind with
  | .minimum =>
      decided (quantity.maximum ≥ operand)
        "capability upper bound compared with the required minimum"
  | .maximum =>
      decided (quantity.minimum ≤ operand)
        "capability lower bound compared with the required maximum"
  | .rangeContains =>
      decided (!quantity.isSet && quantity.minimum ≤ operand && operand ≤ quantity.maximum)
        "the required quantity is inside the capability interval"
  | _ =>
      decided (quantity.members.contains operand)
        "the required quantity is a member of the capability set"

/-- The verdict on a leaf whose capability is proven to be supported. -/
def judgeProven (fields : RequirementFields) (answer : CapabilityQueryResult) :
    Option Verdict :=
  match fields.kind with
  | .stateIs =>
      decided (answer.state = fields.requiredState)
        "observed state compared with the required state"
  | .booleanEquals =>
      if !answer.hasValue || answer.value.kind ≠ .boolean then
        undetermined "the capability does not expose a boolean value"
      else do
        let observed ← answer.value.asBoolean
        let operand ← fields.operand.asBoolean
        decided (observed == operand) "boolean value compared with the operand"
  | .minimum | .maximum | .rangeContains | .inSet =>
      let quantity := extractQuantity answer.value
      if !quantity.present then
        undetermined "the capability does not expose a comparable quantity"
      else do
        let operand ← fields.operand.asQuantity
        if quantity.unit ≠ operand.unit then
          undetermined "the requirement unit does not match the capability unit"
        else compareQuantity fields.kind quantity operand.value
  | .versionContains =>
      if !answer.hasValue || answer.value.kind ≠ .versionInterval then
        undetermined "the capability does not expose a version interval"
      else do
        let interval ← answer.value.asVersionInterval
        decided (interval.contains fields.operandVersion)
          "the required version is inside the capability version interval"
  | .protocolSupported =>
      if !answer.hasValue || answer.value.kind ≠ .protocolSet then
        undetermined "the capability does not expose a protocol set"
      else do
        let set ← answer.value.asProtocolSet
        decided (set.protocols.contains fields.operandProtocol)
          "the required protocol is a member of the capability protocol set"
  | .enumerationSupported =>
      if !answer.hasValue || answer.value.kind ≠ .enumSet then
        undetermined "the capability does not expose an enumeration set"
      else do
        let set ← answer.value.asEnumSet
        decided (set.codes.contains fields.operandEnumCode)
          "the required enumeration code is a member of the capability set"
  | .allOf | .anyOf | .negation => undetermined "unsupported requirement kind"

/-- The verdict on a leaf, from the answer of the registry. -/
def judgeLeaf (fields : RequirementFields) (answer : CapabilityQueryResult) :
    Option Verdict :=
  if answer.state ≠ .supported then
    some
      (if fields.requireProof then .undetermined else .notSatisfied,
        txt "capability resolves to " ++ capabilityStateName answer.state ++
          if fields.requireProof then txt "; the requirement demands proof and fails closed"
          else txt "; an unproven capability is reported as not satisfied")
  else judgeProven fields answer

/-! ## Compound nodes -/

def judgeAllOf (outcomes : List RequirementOutcome) : Verdict :=
  if outcomes.all (· == .satisfied) then (.satisfied, txt "every child requirement holds")
  else
    (if outcomes.contains .notSatisfied then .notSatisfied else .undetermined,
      txt "not every child requirement holds")

def judgeAnyOf (outcomes : List RequirementOutcome) : Verdict :=
  if outcomes.contains .satisfied then
    (.satisfied, txt "at least one child requirement holds")
  else
    (if outcomes.all (· == .notSatisfied) then .notSatisfied else .undetermined,
      txt "no child requirement is proven to hold")

def judgeNot : RequirementOutcome → Verdict
  | .satisfied => (.notSatisfied, txt "the negated requirement is decided")
  | .notSatisfied => (.satisfied, txt "the negated requirement is decided")
  | .undetermined => (.undetermined, txt "the negated requirement is unproven")

/-! ## Evaluation -/

/-- One evaluated node. -/
structure RequirementNodeResult where
  path : Bytes
  kind : RequirementKind
  name : Bytes
  capability : CapabilityId
  outcome : RequirementOutcome
  observedState : CapabilityState := .unknown
  hasObservedValue : Bool := false
  observedValue : CapabilityValue := .absent
  entity : EntityId
  entityGeneration : EntityGeneration := 0
  detail : Bytes
  deriving DecidableEq

/-- `Evaluator::Record`. -/
def recordNode (nodes : List RequirementNodeResult) (node : RequirementNodeResult) :
    List RequirementNodeResult :=
  if nodes.length ≥ kMaxRequirementNodes then nodes else nodes ++ [node]

/-- The node of a compound requirement, which observes nothing itself. -/
def compoundNode (entity : EntityId) (path : Bytes) (fields : RequirementFields)
    (verdict : Verdict) : RequirementNodeResult :=
  { path
    kind := fields.kind
    name := fields.name.value
    capability := fields.capability
    outcome := verdict.1
    entity
    detail := verdict.2 }

def leafNode (entity : EntityId) (path : Bytes) (fields : RequirementFields)
    (answer : CapabilityQueryResult) (verdict : Verdict) : RequirementNodeResult :=
  { compoundNode entity path fields verdict with
    observedState := answer.state
    hasObservedValue := answer.hasValue
    observedValue := if answer.hasValue then answer.value else .absent }

/-- `Query`, in a section of its own. -/
def queryCode (entity : EntityId) (capability : CapabilityId) :
    Code Registry CapabilityQueryResult :=
  .reading fun registry => query registry entity capability

/-- `QueryEntity`, in a section of its own. -/
def queryEntityCode (entity : EntityId) : Code Registry (Outcome EntityCapabilitySet) :=
  .reading fun registry => queryEntity registry entity

/-- The nodes recorded so far, and an outcome; nothing once an accessor has thrown. -/
abbrev Evaluated (α : Type) := Option (α × List RequirementNodeResult)

/-- The outcome of a compound requirement, recorded after its children. -/
def concludeCompound (entity : EntityId) (path : Bytes) (fields : RequirementFields) {α : Type}
    (judge : α → Verdict) : Evaluated α → Evaluated RequirementOutcome
  | none => none
  | some (outcomes, nodes) =>
      some ((judge outcomes).1,
        recordNode nodes (compoundNode entity path fields (judge outcomes)))

/-- The outcome of a leaf, recorded with what was observed. -/
def concludeLeaf (entity : EntityId) (path : Bytes) (fields : RequirementFields)
    (nodes : List RequirementNodeResult) (answer : CapabilityQueryResult) :
    Evaluated RequirementOutcome :=
  (judgeLeaf fields answer).map fun verdict =>
    (verdict.1, recordNode nodes (leafNode entity path fields answer verdict))

mutual

/-- `Evaluator::Evaluate`. -/
def evaluateNode (entity : EntityId) (path : Bytes) (nodes : List RequirementNodeResult) :
    Requirement → Code Registry (Evaluated RequirementOutcome)
  | .node fields children =>
      match fields.kind with
      | .allOf =>
          (evaluateChildren entity path 0 nodes children).map
            (concludeCompound entity path fields judgeAllOf)
      | .anyOf =>
          (evaluateChildren entity path 0 nodes children).map
            (concludeCompound entity path fields judgeAnyOf)
      | .negation =>
          match children with
          | [] => .done none
          | child :: _ =>
              (evaluateNode entity (path ++ txt ".0") nodes child).map
                (concludeCompound entity path fields judgeNot)
      | _ =>
          (queryCode entity fields.capability).map (concludeLeaf entity path fields nodes)

/-- The children from one index on, in order. -/
def evaluateChildren (entity : EntityId) (path : Bytes) (index : Nat)
    (nodes : List RequirementNodeResult) :
    List Requirement → Code Registry (Evaluated (List RequirementOutcome))
  | [] => .done (some ([], nodes))
  | child :: children =>
      (evaluateNode entity (path ++ txt "." ++ decimal index) nodes child).bind fun
        | none => .done none
        | some (outcome, nodes) =>
            (evaluateChildren entity path (index + 1) nodes children).map fun evaluated =>
              evaluated.map fun (outcomes, nodes) => (outcome :: outcomes, nodes)

end

structure RequirementEvaluation where
  outcome : RequirementOutcome := .undetermined
  entity : EntityId
  entityGeneration : EntityGeneration := 0
  nodesEvaluated : Nat := 0
  nodes : List RequirementNodeResult := []
  explanation : Explanation := {}
  deriving DecidableEq

/-- `Error::ToString`. -/
def Error.toText (e : Error) : Bytes :=
  errorCodeName e.code ++ (if e.message.isEmpty then [] else txt ": " ++ e.message) ++
    if e.detail.isEmpty then [] else txt " (" ++ e.detail ++ txt ")"

def nodeStep (node : RequirementNodeResult) : ExplanationStep :=
  { code := txt "requirement.node." ++ requirementOutcomeName node.outcome
    summary := requirementKindName node.kind ++ txt " -> " ++ requirementOutcomeName node.outcome
    fields :=
      [(txt "path", node.path)] ++
      (if node.name.isEmpty then [] else [(txt "name", node.name)]) ++
      (if node.capability.isSet then [(txt "capability", node.capability.toText)] else []) ++
      [(txt "observed_state", capabilityStateName node.observedState)] ++
      (if node.hasObservedValue then [(txt "observed_value", node.observedValue.toText)]
      else []) ++
      if node.detail.isEmpty then [] else [(txt "detail", node.detail)] }

/-- The evaluation from its outcome and its nodes. -/
def concludeEvaluation (entity : EntityId) (generation : EntityGeneration)
    (outcome : RequirementOutcome) (nodes : List RequirementNodeResult) :
    RequirementEvaluation :=
  { outcome
    entity
    entityGeneration := generation
    nodesEvaluated := nodes.length
    nodes
    explanation :=
      { code := txt "requirement." ++ requirementOutcomeName outcome
        summary :=
          txt "requirement evaluation for " ++ entity.toText ++ txt " is " ++
            requirementOutcomeName outcome
        steps :=
          { code := txt "requirement.nodes"
            summary := txt "evaluated nodes"
            fields :=
              [(txt "nodes", decimal nodes.length),
               (txt "entity_generation", decimal generation.toNat)] } ::
            (nodes.take (kMaxTextFieldsPerExplanation - 1)).map nodeStep } }

/-- `EvaluateRequirementAgainst`, which is what `Evaluate` calls. -/
def evaluateCode (entity : EntityId) (requirement : Requirement) :
    Code Registry (Option RequirementEvaluation) :=
  match validateRequirement requirement with
  | .error e =>
      .done (some
        { entity
          explanation := { code := txt "requirement.invalid", summary := e.toText } })
  | .ok () =>
      (queryEntityCode entity).bind fun current =>
        let generation := (current.toOption.map (·.entityGeneration)).getD 0
        (evaluateNode entity (txt "0") [] requirement).map fun evaluated =>
          evaluated.map fun (outcome, nodes) =>
            concludeEvaluation entity generation outcome nodes

/-- The evaluation in one state of the registry. -/
def evaluate (registry : Registry) (entity : EntityId) (requirement : Requirement) :
    Option RequirementEvaluation :=
  ((evaluateCode entity requirement).alone registry).2

end FabricCapability.Ports
