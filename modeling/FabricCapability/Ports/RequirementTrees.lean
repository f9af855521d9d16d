import FabricCapability.Ports.Answers
import FabricCapability.Ports.Requirements

/-!
# The grammar of requirements

`ValidateRequirement` walks over an expression with a depth, a count of nodes and a flag for
the root.  What it accepts is stated here without the walk: rules for each node of the tree,
by its position, and a bound on the number of nodes.

The documentation allows a negation below a conjunction or a disjunction only.  The walk does
not know the parent of a node: it refuses a negation at the root, and nowhere else.

## Main results

* `validateRequirement_iff`: the accepted expressions.
* `documented_iff`: exactly where the validator follows the documented grammar.
* `double_negation_accepted`: a negation of a negation.
-/

namespace FabricCapability.Ports

/-! ## Trees -/

namespace Requirement

def children : Requirement → List Requirement
  | .node _ children => children

/-- Induction over the tree. -/
theorem induct {P : Requirement → Prop}
    (hNode : ∀ fields children, (∀ child ∈ children, P child) → P (.node fields children))
    (requirement : Requirement) : P requirement :=
  @Requirement.rec P (fun children => ∀ child ∈ children, P child) hNode
    (fun _ hMem => absurd hMem (List.not_mem_nil))
    (fun _ _ hHead hTail => List.forall_mem_cons.2 ⟨hHead, hTail⟩) requirement

mutual

/-- The number of nodes. -/
def size : Requirement → Nat
  | .node _ children => sizes children + 1

/-- The number of nodes of several trees. -/
def sizes : List Requirement → Nat
  | [] => 0
  | child :: children => child.size + sizes children

end

/-- The subtree at a position, which lists the indexes of the children on the way to it. -/
def subtree : Requirement → List Nat → Option Requirement
  | requirement, [] => some requirement
  | requirement, index :: position =>
      requirement.children[index]?.bind fun child => child.subtree position

/-- The node is in the tree, at the position. -/
def At (requirement : Requirement) (position : List Nat) (fields : RequirementFields)
    (children : List Requirement) : Prop :=
  requirement.subtree position = some (.node fields children)

end Requirement

/-! ## The rules -/

/-- The operand that the kind of a leaf requires. -/
def RequirementFields.OperandFits (fields : RequirementFields) : Prop :=
  match fields.kind with
  | .booleanEquals => fields.operand.kind = .boolean
  | .minimum | .maximum | .rangeContains | .inSet => fields.operand.kind = .quantity
  | .versionContains => fields.operandVersion.count ≠ 0
  | .protocolSupported => fields.operandProtocol ≠ ⟨0⟩
  | _ => True

/-- A compound node has children, a negation has one and is not the root, and a leaf names a
capability, has no children and carries its operand. -/
def RequirementFields.Rule (fields : RequirementFields) (isRoot : Bool)
    (children : List Requirement) : Prop :=
  match fields.kind with
  | .allOf | .anyOf => children ≠ []
  | .negation => isRoot = false ∧ children.length = 1
  | _ => fields.capability.isSet = true ∧ children = [] ∧ fields.OperandFits

/-- What the validator accepts. -/
structure Requirement.Permitted (requirement : Requirement) : Prop where
  count : requirement.size ≤ kMaxRequirementNodes
  depth : ∀ position fields children, requirement.At position fields children →
    position.length ≤ kMaxRequirementDepth
  rules : ∀ position fields children, requirement.At position fields children →
    fields.Rule position.isEmpty children

/-- Every negation below the root is a child of a conjunction or of a disjunction. -/
def Requirement.NegationsPlaced (requirement : Requirement) : Prop :=
  ∀ position fields children, requirement.At position fields children →
    ∀ child ∈ children, child.fields.kind = .negation →
      fields.kind = .allOf ∨ fields.kind = .anyOf

/-- The expressions of the documentation. -/
def Requirement.Documented (requirement : Requirement) : Prop :=
  requirement.Permitted ∧ requirement.NegationsPlaced

/-- No negation stands under a negation. -/
def Requirement.SinglyNegated (requirement : Requirement) : Prop :=
  ∀ position fields children, requirement.At position fields children →
    fields.kind = .negation → ∀ child ∈ children, child.fields.kind ≠ .negation

/-! ## The walk -/

/-- The rules for the nodes of a tree that starts at a depth. -/
inductive Requirement.Shaped : Nat → Bool → Requirement → Prop
  | node {depth : Nat} {isRoot : Bool} {fields : RequirementFields}
      {children : List Requirement} (hDepth : depth ≤ kMaxRequirementDepth)
      (hRule : fields.Rule isRoot children)
      (hChildren : ∀ child ∈ children, Shaped (depth + 1) false child) :
      Shaped depth isRoot (.node fields children)

/-- The shape says of every node what it says of the root. -/
theorem Requirement.shaped_iff {depth : Nat} {isRoot : Bool} {requirement : Requirement} :
    requirement.Shaped depth isRoot ↔
      ∀ position fields children, requirement.At position fields children →
        depth + position.length ≤ kMaxRequirementDepth ∧
          fields.Rule (isRoot && position.isEmpty) children := by
  constructor
  · intro hShaped
    induction hShaped with
    | @node depth isRoot fields children hDepth hRule _ ih =>
        intro position fields' children' hAt
        cases position with
        | nil =>
            cases hAt
            rw [List.isEmpty_nil, Bool.and_true]
            exact ⟨hDepth, hRule⟩
        | cons index position =>
            obtain ⟨child, hChild, hAt⟩ := Option.bind_eq_some_iff.1 hAt
            obtain ⟨hBelow, hRule⟩ :=
              ih child (List.mem_of_getElem? hChild) position fields' children' hAt
            refine ⟨by rw [List.length_cons]; omega, ?_⟩
            rw [List.isEmpty_cons, Bool.and_false]
            exact hRule
  · induction requirement using Requirement.induct generalizing depth isRoot with
    | hNode fields children ih =>
        intro hAll
        obtain ⟨hDepth, hRule⟩ := hAll [] fields children rfl
        rw [List.isEmpty_nil, Bool.and_true] at hRule
        refine .node hDepth hRule fun child hMem => ?_
        refine ih child hMem fun position fields' children' hAt => ?_
        obtain ⟨index, hIndex⟩ := List.mem_iff_getElem?.1 hMem
        have hBelow := hAll (index :: position) fields' children'
          (Option.bind_eq_some_iff.2 ⟨child, hIndex, hAt⟩)
        rw [List.length_cons, List.isEmpty_cons, Bool.and_false] at hBelow
        exact ⟨by omega, hBelow.2⟩

theorem Requirement.permitted_iff {requirement : Requirement} :
    requirement.Permitted ↔
      requirement.Shaped 0 true ∧ requirement.size ≤ kMaxRequirementNodes := by
  rw [Requirement.shaped_iff]
  constructor
  · intro h
    refine ⟨fun position fields children hAt => ?_, h.count⟩
    rw [Nat.zero_add, Bool.true_and]
    exact ⟨h.depth position fields children hAt, h.rules position fields children hAt⟩
  · rintro ⟨hAll, hCount⟩
    refine ⟨hCount, fun position fields children hAt => ?_, fun position fields children hAt => ?_⟩
    · rw [← Nat.zero_add position.length]
      exact (hAll position fields children hAt).1
    · rw [← Bool.true_and position.isEmpty]
      exact (hAll position fields children hAt).2

theorem validateLeaf_iff {fields : RequirementFields} {children : List Requirement} :
    validateLeaf fields children = .ok () ↔
      fields.capability.isSet = true ∧ children = [] ∧ fields.OperandFits := by
  unfold validateLeaf RequirementFields.OperandFits
  cases hSet : fields.capability.isSet with
  | false => simp [failure]
  | true =>
      cases children with
      | cons child rest => simp [failure]
      | nil =>
          rw [if_neg (by simp), if_neg (by simp)]
          cases hKind : fields.kind <;> simp [failure]

/-- A node at an admissible place: the rule, and the walk over the children. -/
theorem validateNode_eq {depth nodes : Nat} {isRoot : Bool} {fields : RequirementFields}
    {children : List Requirement} {n : Nat} :
    validateNode depth nodes isRoot (.node fields children) = .ok n ↔
      depth ≤ kMaxRequirementDepth ∧ nodes + 1 ≤ kMaxRequirementNodes ∧
        fields.Rule isRoot children ∧
          validateChildren (depth + 1) (nodes + 1) children = .ok n := by
  rw [validateNode]
  by_cases hDepth : depth > kMaxRequirementDepth
  · rw [if_pos hDepth]
    exact iff_of_false nofun fun h => by omega
  · rw [if_neg hDepth, and_iff_right (Nat.not_lt.1 hDepth)]
    by_cases hCount : nodes + 1 > kMaxRequirementNodes
    · rw [if_pos hCount]
      exact iff_of_false nofun fun h => by omega
    · rw [if_neg hCount, and_iff_right (Nat.not_lt.1 hCount)]
      have hLeaf : (do
            validateLeaf fields children
            return nodes + 1 : Outcome Nat) = .ok n ↔
          (fields.capability.isSet = true ∧ children = [] ∧ fields.OperandFits) ∧
            validateChildren (depth + 1) (nodes + 1) children = .ok n := by
        rw [← validateLeaf_iff]
        constructor
        · intro h
          obtain ⟨_, hLeaf, hRest⟩ := outcome_bind_eq_ok.1 h
          obtain ⟨-, rfl, -⟩ := validateLeaf_iff.1 hLeaf
          exact ⟨hLeaf, hRest⟩
        · rintro ⟨hLeaf, hRest⟩
          obtain ⟨-, rfl, -⟩ := validateLeaf_iff.1 hLeaf
          exact outcome_bind_eq_ok.2 ⟨(), hLeaf, hRest⟩
      unfold RequirementFields.Rule
      cases fields.kind with
      | allOf =>
          cases children with
          | nil => exact iff_of_false nofun fun h => h.1 rfl
          | cons child rest => exact (and_iff_right (List.cons_ne_nil _ _)).symm
      | anyOf =>
          cases children with
          | nil => exact iff_of_false nofun fun h => h.1 rfl
          | cons child rest => exact (and_iff_right (List.cons_ne_nil _ _)).symm
      | negation =>
          dsimp only
          cases isRoot with
          | true => exact iff_of_false nofun fun h => by cases h.1.1
          | false =>
              rw [if_neg Bool.false_ne_true]
              by_cases hOne : children.length = 1
              · rw [if_neg (not_not.2 hOne), and_iff_right ⟨rfl, hOne⟩]
              · rw [if_pos hOne]
                exact iff_of_false nofun fun h => hOne h.1.2
      | _ => exact hLeaf

mutual

/-- The walk over a tree: the shape, and the count of its nodes. -/
theorem validateNode_iff {depth nodes : Nat} {isRoot : Bool} {n : Nat} :
    ∀ requirement, validateNode depth nodes isRoot requirement = .ok n ↔
      requirement.Shaped depth isRoot ∧ n = nodes + requirement.size ∧ n ≤ kMaxRequirementNodes
  | .node fields children => by
      rw [validateNode_eq, Requirement.size]
      constructor
      · rintro ⟨hDepth, hCount, hRule, hWalk⟩
        obtain ⟨hChildren, hNodes, hMost⟩ := (validateChildren_iff hCount children).1 hWalk
        exact ⟨.node hDepth hRule hChildren, by omega, hMost⟩
      · rintro ⟨hShaped, hNodes, hMost⟩
        cases hShaped with
        | node hDepth hRule hChildren =>
            have hCount : nodes + 1 ≤ kMaxRequirementNodes := by omega
            exact ⟨hDepth, hCount, hRule,
              (validateChildren_iff hCount children).2 ⟨hChildren, by omega, hMost⟩⟩

theorem validateChildren_iff {depth nodes n : Nat} (hCount : nodes ≤ kMaxRequirementNodes) :
    ∀ children, validateChildren depth nodes children = .ok n ↔
      (∀ child ∈ children, child.Shaped depth false) ∧
        n = nodes + Requirement.sizes children ∧ n ≤ kMaxRequirementNodes
  | [] => by
      rw [validateChildren, Requirement.sizes]
      constructor
      · rintro ⟨rfl⟩
        exact ⟨nofun, rfl, hCount⟩
      · rintro ⟨-, rfl, -⟩
        rfl
  | child :: children => by
      rw [validateChildren, Requirement.sizes, List.forall_mem_cons]
      constructor
      · intro h
        obtain ⟨between, hFirst, hRest⟩ := outcome_bind_eq_ok.1 h
        obtain ⟨hShaped, hNodes, hMost⟩ := (validateNode_iff child).1 hFirst
        obtain ⟨hOthers, hEnd, hMost⟩ := (validateChildren_iff hMost children).1 hRest
        exact ⟨⟨hShaped, hOthers⟩, by omega, hMost⟩
      · rintro ⟨⟨hShaped, hOthers⟩, hEnd, hMost⟩
        have hFirst : nodes + child.size ≤ kMaxRequirementNodes := by omega
        exact outcome_bind_eq_ok.2 ⟨nodes + child.size,
          (validateNode_iff child).2 ⟨hShaped, rfl, hFirst⟩,
          (validateChildren_iff hFirst children).2 ⟨hOthers, by omega, hMost⟩⟩

end

/-- The validator accepts the expressions that keep its rules. -/
theorem validateRequirement_iff {requirement : Requirement} :
    validateRequirement requirement = .ok () ↔ requirement.Permitted := by
  rw [Requirement.permitted_iff]
  unfold validateRequirement
  constructor
  · intro h
    obtain ⟨n, hWalk, -⟩ := outcome_bind_eq_ok.1 h
    obtain ⟨hShaped, hNodes, hMost⟩ := (validateNode_iff requirement).1 hWalk
    exact ⟨hShaped, by omega⟩
  · rintro ⟨hShaped, hMost⟩
    exact outcome_bind_eq_ok.2 ⟨requirement.size,
      (validateNode_iff requirement).2 ⟨hShaped, by omega, hMost⟩, rfl⟩

/-- Among the permitted expressions the place of the negations is a matter of their parents
being no negations. -/
theorem Requirement.Permitted.placed_iff {requirement : Requirement}
    (h : requirement.Permitted) : requirement.NegationsPlaced ↔ requirement.SinglyNegated := by
  constructor
  · intro hPlaced position fields children hAt hKind child hMem hChild
    rcases hPlaced position fields children hAt child hMem hChild with hAll | hAny
    · rw [hKind] at hAll
      cases hAll
    · rw [hKind] at hAny
      cases hAny
  · intro hSingly position fields children hAt child hMem hChild
    have hRule := h.rules position fields children hAt
    have hLeaf : children ≠ [] := List.ne_nil_of_mem hMem
    unfold RequirementFields.Rule at hRule
    cases hKind : fields.kind with
    | allOf => exact .inl rfl
    | anyOf => exact .inr rfl
    | negation => exact absurd hChild (hSingly position fields children hAt hKind child hMem)
    | _ =>
        rw [hKind] at hRule
        exact absurd hRule.2.1 hLeaf

/-- The validator accepts an expression exactly when the documentation allows it, unless the
expression breaks no other rule than the one about negations of negations. -/
theorem documented_iff (requirement : Requirement) :
    ((validateRequirement requirement = .ok ()) ↔ requirement.Documented) ↔
      (requirement.SinglyNegated ∨ ¬requirement.Permitted) := by
  rw [validateRequirement_iff]
  unfold Requirement.Documented
  by_cases hPermitted : requirement.Permitted
  · rw [hPermitted.placed_iff]
    simp [hPermitted]
  · simp [hPermitted]

namespace Sample

def supportedLeaf : Requirement := .node { capability := capability } []

def negationOf (requirement : Requirement) : Requirement :=
  .node { kind := .negation } [requirement]

/-- A conjunction of one negated negation. -/
def doubleNegation : Requirement :=
  .node { kind := .allOf } [negationOf (negationOf supportedLeaf)]

end Sample

/-- The negation under a negation is accepted, and not documented. -/
theorem double_negation_accepted :
    ¬ ∀ requirement, (validateRequirement requirement = .ok ()) ↔ requirement.Documented := by
  intro h
  have hAccepted : validateRequirement Sample.doubleNegation = .ok () := by decide
  obtain ⟨-, hPlaced⟩ := (h Sample.doubleNegation).1 hAccepted
  have hParent := hPlaced [0] { kind := .negation } _ rfl (Sample.negationOf Sample.supportedLeaf)
    (List.mem_singleton_self _) rfl
  exact absurd hParent (by decide)

end FabricCapability.Ports
