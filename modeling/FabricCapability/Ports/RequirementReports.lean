import FabricCapability.Verified.Kleene
import FabricCapability.Verified.KeyedList
import FabricCapability.Ports.ComposedResults
import FabricCapability.Ports.RequirementTrees

/-!
# Reports of evaluations

An evaluation records one result for each node.  A node is recorded when it has been decided,
so a compound node comes after its children: the list is the post-order of the tree.  The
documentation calls it a pre-order, which it is for a single leaf only.

An expression that the validator accepts is evaluated without a wrong access to a value, and
one that it refuses is not evaluated at all.

## Main results

* `evaluateNode_alone`: the outcome and the records of a tree.
* `evaluation_safe`: what the validator promises to the evaluator.
* `preorder_report_iff`: when the records are in the documented order.
-/

namespace FabricCapability.Ports

open FabricCapability.Verified
open FabricCapability.Verified.KeyedList
open FabricCapability.Verified.Kleene
open FabricCapability.Verified.LockedCode

/-! ## Paths -/

namespace Requirement

/-- The path of a position, as the evaluator writes it. -/
def pathText (position : List Nat) : Bytes :=
  txt "0" ++ position.flatMap fun index => txt "." ++ decimal index

theorem pathText_snoc (position : List Nat) (index : Nat) :
    pathText (position ++ [index]) = pathText position ++ txt "." ++ decimal index := by
  simp [pathText]

/-- The byte of the dot. -/
def dot : UInt8 := 46

theorem txt_dot : txt "." = [dot] := by decide

theorem decimal_chars (n : Nat) :
    (decimal n).map (fun byte => Char.ofNat byte.toNat) = Nat.toDigits 10 n ∧
      dot ∉ decimal n := by
  have hDigits : ∀ digit ∈ Nat.toDigits 10 n, digit.isDigit = true := fun _ hMem =>
    Nat.isDigit_of_mem_toDigits (by decide) (by decide) hMem
  rw [decimal_eq]
  generalize Nat.toDigits 10 n = digits at hDigits
  induction digits with
  | nil => exact ⟨rfl, nofun⟩
  | cons digit digits ih =>
      rw [List.forall_mem_cons] at hDigits
      obtain ⟨hChars, hDot⟩ := ih hDigits.2
      have hRange : 48 ≤ digit.val.toNat ∧ digit.val.toNat ≤ 57 := by
        simpa [Char.isDigit, UInt32.le_iff_toNat_le] using hDigits.1
      have hByte : String.utf8EncodeChar digit = [UInt8.ofNat digit.val.toNat] := by
        simp only [String.utf8EncodeChar, if_pos (by omega : digit.val.toNat ≤ 127)]
      have hNat : (UInt8.ofNat digit.val.toNat).toNat = digit.val.toNat := by
        rw [UInt8.toNat_ofNat']
        omega
      rw [List.flatMap_cons, hByte]
      constructor
      · rw [List.map_append, hChars, List.map_singleton, hNat]
        exact congrArg (· :: digits) (Char.ofNat_toNat digit)
      · rw [List.singleton_append, List.mem_cons, not_or]
        refine ⟨fun hSame => ?_, hDot⟩
        have hValue := congrArg UInt8.toNat hSame
        rw [hNat] at hValue
        have : dot.toNat = 46 := rfl
        omega

theorem decimal_injective {m n : Nat} (h : decimal m = decimal n) : m = n := by
  have hChars := (decimal_chars m).1
  rw [h, (decimal_chars n).1] at hChars
  rw [← @Nat.ofDigitChars_ten_toDigits m, ← hChars, Nat.ofDigitChars_ten_toDigits]

/-- Texts without a dot, in front of texts that are empty or start with one. -/
theorem dotted_split {xs ys r s : Bytes} (hx : dot ∉ xs) (hy : dot ∉ ys)
    (hr : ∀ byte ∈ r.head?, byte = dot) (hs : ∀ byte ∈ s.head?, byte = dot)
    (h : xs ++ r = ys ++ s) : xs = ys ∧ r = s := by
  induction xs generalizing ys with
  | nil =>
      cases ys with
      | nil => exact ⟨rfl, h⟩
      | cons y ys =>
          rw [List.nil_append] at h
          rw [h] at hr
          exact absurd (List.mem_cons.2 (.inl (hr y rfl).symm)) hy
  | cons x xs ih =>
      cases ys with
      | nil =>
          rw [List.nil_append] at h
          rw [← h] at hs
          exact absurd (List.mem_cons.2 (.inl (hs x rfl).symm)) hx
      | cons y ys =>
          obtain ⟨rfl, hRest⟩ := List.cons.inj h
          obtain ⟨rfl, hSame⟩ := ih (fun hMem => hx (List.mem_cons_of_mem _ hMem))
            (fun hMem => hy (List.mem_cons_of_mem _ hMem)) hRest
          exact ⟨rfl, hSame⟩

theorem pathText_injective {p q : List Nat} (h : pathText p = pathText q) : p = q := by
  have hParts := List.append_cancel_left h
  clear h
  have hHead : ∀ position : List Nat,
      ∀ byte ∈ (position.flatMap fun index => txt "." ++ decimal index).head?, byte = dot := by
    intro position byte hMem
    cases position with
    | nil => cases hMem
    | cons index position =>
        rw [List.flatMap_cons, txt_dot] at hMem
        exact (Option.some.inj hMem).symm
  induction p generalizing q with
  | nil =>
      cases q with
      | nil => rfl
      | cons j q =>
          rw [List.flatMap_nil, List.flatMap_cons, txt_dot] at hParts
          cases hParts
  | cons i p ih =>
      cases q with
      | nil =>
          rw [List.flatMap_nil, List.flatMap_cons, txt_dot] at hParts
          cases hParts
      | cons j q =>
          rw [List.flatMap_cons, List.flatMap_cons, List.append_assoc, List.append_assoc] at hParts
          obtain ⟨hIndex, hRest⟩ := dotted_split (decimal_chars i).2 (decimal_chars j).2 (hHead p)
            (hHead q) (List.append_cancel_left hParts)
          rw [decimal_injective hIndex, ih hRest]

/-! ## Orders of the nodes -/

mutual

/-- The nodes of a tree with their positions, each node after its children. -/
def postorder (position : List Nat) : Requirement → List (List Nat × Requirement)
  | .node fields children => postorders position 0 children ++ [(position, .node fields children)]

/-- The nodes of the children from one index on. -/
def postorders (position : List Nat) (index : Nat) :
    List Requirement → List (List Nat × Requirement)
  | [] => []
  | child :: children =>
      child.postorder (position ++ [index]) ++ postorders position (index + 1) children

end

mutual

/-- The nodes of a tree with their positions, each node before its children. -/
def preorder (position : List Nat) : Requirement → List (List Nat × Requirement)
  | .node fields children => (position, .node fields children) :: preorders position 0 children

/-- The nodes of the children from one index on. -/
def preorders (position : List Nat) (index : Nat) :
    List Requirement → List (List Nat × Requirement)
  | [] => []
  | child :: children =>
      child.preorder (position ++ [index]) ++ preorders position (index + 1) children

end

mutual

theorem length_postorder (position : List Nat) :
    ∀ requirement : Requirement, (requirement.postorder position).length = requirement.size
  | .node fields children => by
      rw [postorder, size, List.length_append, length_postorders position 0 children]
      rfl

theorem length_postorders (position : List Nat) (index : Nat) :
    ∀ children, (postorders position index children).length = sizes children
  | [] => rfl
  | child :: children => by
      rw [postorders, sizes, List.length_append, length_postorder _ child,
        length_postorders position (index + 1) children]

end

mutual

/-- The order lists the nodes of the tree, each with its position. -/
theorem mem_postorder {base position : List Nat} {sub : Requirement} :
    ∀ requirement : Requirement, (position, sub) ∈ requirement.postorder base ↔
      ∃ below, position = base ++ below ∧ requirement.subtree below = some sub
  | .node fields children => by
      rw [postorder, List.mem_append, List.mem_singleton, mem_postorders children]
      constructor
      · rintro (⟨index, below, child, hChild, hPosition, hSub⟩ | hRoot)
        · refine ⟨index :: below, ?_, Option.bind_eq_some_iff.2 ⟨child, hChild, hSub⟩⟩
          rw [hPosition, Nat.zero_add]
        · cases hRoot
          exact ⟨[], (List.append_nil _).symm, rfl⟩
      · rintro ⟨below, hPosition, hSub⟩
        cases below with
        | nil =>
            cases hSub
            rw [hPosition, List.append_nil]
            exact .inr rfl
        | cons index below =>
            obtain ⟨child, hChild, hSub⟩ := Option.bind_eq_some_iff.1 hSub
            refine .inl ⟨index, below, child, hChild, ?_, hSub⟩
            rw [hPosition, Nat.zero_add]

theorem mem_postorders {base position : List Nat} {first : Nat} {sub : Requirement} :
    ∀ children, (position, sub) ∈ postorders base first children ↔
      ∃ index below child, children[index]? = some child ∧
        position = base ++ (first + index) :: below ∧ child.subtree below = some sub
  | [] => by
      rw [postorders]
      exact iff_of_false nofun fun ⟨_, _, _, hChild, _⟩ => nomatch hChild
  | child :: children => by
      rw [postorders, List.mem_append, mem_postorder child, mem_postorders children]
      constructor
      · rintro (⟨below, hPosition, hSub⟩ | ⟨index, below, other, hOther, hPosition, hSub⟩)
        · refine ⟨0, below, child, rfl, ?_, hSub⟩
          rw [hPosition, List.append_assoc]
          rfl
        · refine ⟨index + 1, below, other, hOther, ?_, hSub⟩
          rw [hPosition]
          congr 2
          omega
      · rintro ⟨index, below, other, hOther, hPosition, hSub⟩
        cases index with
        | zero =>
            cases hOther
            refine .inl ⟨below, ?_, hSub⟩
            rw [hPosition, List.append_assoc]
            rfl
        | succ index =>
            refine .inr ⟨index, below, other, hOther, ?_, hSub⟩
            rw [hPosition]
            congr 2
            omega

end

mutual

/-- No position is listed twice. -/
theorem nodup_postorder (base : List Nat) :
    ∀ requirement : Requirement, ((requirement.postorder base).map Prod.fst).Nodup
  | .node fields children => by
      rw [postorder, List.map_append, List.nodup_append]
      refine ⟨nodup_postorders base 0 children, List.nodup_singleton _, ?_⟩
      intro position hMem other hOther hSame
      obtain ⟨⟨_, sub⟩, hVisit, rfl⟩ := List.mem_map.1 hMem
      obtain ⟨index, below, _, _, hPosition, _⟩ := (mem_postorders children).1 hVisit
      rw [List.map_singleton, List.mem_singleton] at hOther
      rw [hPosition, hOther] at hSame
      simp at hSame

theorem nodup_postorders (base : List Nat) (first : Nat) :
    ∀ children, ((postorders base first children).map Prod.fst).Nodup
  | [] => List.nodup_nil
  | child :: children => by
      rw [postorders, List.map_append, List.nodup_append]
      refine ⟨nodup_postorder _ child, nodup_postorders base (first + 1) children, ?_⟩
      intro position hMem other hOther hSame
      obtain ⟨⟨_, sub⟩, hVisit, rfl⟩ := List.mem_map.1 hMem
      obtain ⟨⟨_, sub'⟩, hVisit', rfl⟩ := List.mem_map.1 hOther
      obtain ⟨below, hPosition, _⟩ := (mem_postorder child).1 hVisit
      obtain ⟨index, below', _, _, hPosition', _⟩ := (mem_postorders children).1 hVisit'
      rw [hPosition, hPosition', List.append_assoc] at hSame
      have hIndex := (List.cons.inj (List.append_cancel_left hSame)).1
      omega

end

mutual

/-- Both orders list the same nodes. -/
theorem preorder_perm (position : List Nat) :
    ∀ requirement : Requirement,
      (requirement.preorder position).Perm (requirement.postorder position)
  | .node fields children => by
      rw [preorder, postorder]
      exact ((preorders_perm position 0 children).cons _).trans
        (List.perm_append_singleton _ _).symm

theorem preorders_perm (position : List Nat) (index : Nat) :
    ∀ children, (preorders position index children).Perm (postorders position index children)
  | [] => .nil
  | child :: children =>
      (preorder_perm _ child).append (preorders_perm position (index + 1) children)

end

/-! ## Verdicts -/

mutual

/-- What a node is decided to be when these are the answers of the registry. -/
def verdict (answers : CapabilityId → CapabilityQueryResult) : Requirement → Verdict
  | .node fields children =>
      match fields.kind with
      | .allOf => judgeAllOf (outcomes answers children)
      | .anyOf => judgeAnyOf (outcomes answers children)
      | .negation => judgeNot ((outcomes answers children).headD .undetermined)
      | _ => (judgeLeaf fields (answers fields.capability)).getD (.undetermined, [])

def outcomes (answers : CapabilityId → CapabilityQueryResult) :
    List Requirement → List RequirementOutcome
  | [] => []
  | child :: children => (child.verdict answers).1 :: outcomes answers children

end

theorem outcomes_eq (answers : CapabilityId → CapabilityQueryResult) (children : List Requirement) :
    outcomes answers children = children.map fun child => (child.verdict answers).1 := by
  induction children with
  | nil => rfl
  | cons child children ih => rw [outcomes, ih, List.map_cons]

theorem mem_postorder_root {requirement sub : Requirement} {position : List Nat} :
    (position, sub) ∈ requirement.postorder [] ↔ requirement.subtree position = some sub := by
  rw [mem_postorder]
  constructor
  · rintro ⟨below, rfl, hSub⟩
    exact hSub
  · exact fun hSub => ⟨position, rfl, hSub⟩

/-- What is recorded of a node. -/
def result (answers : CapabilityId → CapabilityQueryResult) (entity : EntityId)
    (position : List Nat) (requirement : Requirement) : RequirementNodeResult :=
  let fields := requirement.fields
  match fields.kind with
  | .allOf | .anyOf | .negation =>
      compoundNode entity (pathText position) fields (requirement.verdict answers)
  | _ =>
      leafNode entity (pathText position) fields (answers fields.capability)
        (requirement.verdict answers)

/-- What is recorded of the nodes of an order. -/
def results (answers : CapabilityId → CapabilityQueryResult) (entity : EntityId)
    (visits : List (List Nat × Requirement)) : List RequirementNodeResult :=
  visits.map fun visit => visit.2.result answers entity visit.1

end Requirement

section Accessors

variable {value : CapabilityValue}

theorem asBoolean_isSome (h : value.kind = .boolean) : ∃ held, value.asBoolean = some held := by
  unfold CapabilityValue.kind at h
  unfold CapabilityValue.asBoolean
  cases hStorage : value.storage <;> simp_all [ValueStorage.kind]

theorem asQuantity_isSome (h : value.kind = .quantity) : ∃ held, value.asQuantity = some held := by
  unfold CapabilityValue.kind at h
  unfold CapabilityValue.asQuantity
  cases hStorage : value.storage <;> simp_all [ValueStorage.kind]

theorem asVersionInterval_isSome (h : value.kind = .versionInterval) :
    ∃ held, value.asVersionInterval = some held := by
  unfold CapabilityValue.kind at h
  unfold CapabilityValue.asVersionInterval
  cases hStorage : value.storage <;> simp_all [ValueStorage.kind]

theorem asProtocolSet_isSome (h : value.kind = .protocolSet) :
    ∃ held, value.asProtocolSet = some held := by
  unfold CapabilityValue.kind at h
  unfold CapabilityValue.asProtocolSet
  cases hStorage : value.storage <;> simp_all [ValueStorage.kind]

theorem asEnumSet_isSome (h : value.kind = .enumSet) : ∃ held, value.asEnumSet = some held := by
  unfold CapabilityValue.kind at h
  unfold CapabilityValue.asEnumSet
  cases hStorage : value.storage <;> simp_all [ValueStorage.kind]

end Accessors

/-- The comparison of a quantity decides. -/
theorem compareQuantity_isSome (kind : RequirementKind) (quantity : ObservedQuantity)
    (operand : UInt64) : ∃ verdict, compareQuantity kind quantity operand = some verdict := by
  unfold compareQuantity
  split <;> exact ⟨_, rfl⟩

theorem judgeQuantity_isSome {fields : RequirementFields} {quantity : ObservedQuantity}
    (hOperand : fields.operand.kind = .quantity) :
    ∃ verdict, (if !quantity.present then
        undetermined "the capability does not expose a comparable quantity"
      else do
        let operand ← fields.operand.asQuantity
        if quantity.unit ≠ operand.unit then
          undetermined "the requirement unit does not match the capability unit"
        else compareQuantity fields.kind quantity operand.value) = some verdict := by
  obtain ⟨operand, hHeld⟩ := asQuantity_isSome hOperand
  rw [hHeld]
  split
  · exact ⟨_, rfl⟩
  · show ∃ verdict, (if quantity.unit ≠ operand.unit then _ else _) = some verdict
    split
    · exact ⟨_, rfl⟩
    · exact compareQuantity_isSome ..

/-- A leaf with the operand that it requires is decided without a wrong access. -/
theorem judgeProven_isSome {fields : RequirementFields} (hFits : fields.OperandFits)
    (answer : CapabilityQueryResult) : ∃ verdict, judgeProven fields answer = some verdict := by
  have hHeld : ∀ {kind : ValueKind},
      ¬(!answer.hasValue || decide (answer.value.kind ≠ kind)) = true → answer.value.kind = kind := by
    intro kind hNot
    simp at hNot
    exact hNot.2
  unfold judgeProven
  unfold RequirementFields.OperandFits at hFits
  cases hKind : fields.kind <;> rw [hKind] at hFits <;> dsimp only
  case stateIs => exact ⟨_, rfl⟩
  case booleanEquals =>
    split
    · exact ⟨_, rfl⟩
    · rename_i hExposed
      obtain ⟨observed, hObserved⟩ := asBoolean_isSome (hHeld hExposed)
      obtain ⟨operand, hOperand⟩ := asBoolean_isSome hFits
      rw [hObserved, hOperand]
      exact ⟨_, rfl⟩
  case minimum => exact hKind ▸ judgeQuantity_isSome hFits
  case maximum => exact hKind ▸ judgeQuantity_isSome hFits
  case rangeContains => exact hKind ▸ judgeQuantity_isSome hFits
  case inSet => exact hKind ▸ judgeQuantity_isSome hFits
  case versionContains =>
    split
    · exact ⟨_, rfl⟩
    · rename_i hExposed
      obtain ⟨interval, hInterval⟩ := asVersionInterval_isSome (hHeld hExposed)
      rw [hInterval]
      exact ⟨_, rfl⟩
  case protocolSupported =>
    split
    · exact ⟨_, rfl⟩
    · rename_i hExposed
      obtain ⟨set, hSet⟩ := asProtocolSet_isSome (hHeld hExposed)
      rw [hSet]
      exact ⟨_, rfl⟩
  case enumerationSupported =>
    split
    · exact ⟨_, rfl⟩
    · rename_i hExposed
      obtain ⟨set, hSet⟩ := asEnumSet_isSome (hHeld hExposed)
      rw [hSet]
      exact ⟨_, rfl⟩
  all_goals exact ⟨_, rfl⟩

theorem judgeLeaf_isSome {fields : RequirementFields} (hFits : fields.OperandFits)
    (answer : CapabilityQueryResult) : ∃ verdict, judgeLeaf fields answer = some verdict := by
  unfold judgeLeaf
  split
  · exact ⟨_, rfl⟩
  · exact judgeProven_isSome hFits answer

theorem recordNode_room {nodes : List RequirementNodeResult} (node : RequirementNodeResult)
    (h : nodes.length < kMaxRequirementNodes) : recordNode nodes node = nodes ++ [node] :=
  if_neg (Nat.not_le.2 h)

section Evaluation

variable (registry : Registry) (entity : EntityId)

open Requirement

mutual

/-- The evaluation of a tree that keeps the rules, in one state of the registry. -/
theorem evaluateNode_alone :
    ∀ (requirement : Requirement) {depth : Nat} {isRoot : Bool}, requirement.Shaped depth isRoot →
      ∀ (position : List Nat) (nodes : List RequirementNodeResult),
        nodes.length + requirement.size ≤ kMaxRequirementNodes →
        (evaluateNode entity (pathText position) nodes requirement).alone registry =
          (registry, some ((requirement.verdict (query registry entity)).1,
            nodes ++ results (query registry entity) entity (requirement.postorder position)))
  | .node fields children, depth, isRoot, hShaped, position, nodes, hRoom => by
      cases hShaped with
      | node hDepth hRule hChildren =>
          rw [size] at hRoom
          have hBelow := evaluateChildren_alone children hChildren position 0 nodes (by omega)
          have hRecord : ∀ node,
              recordNode (nodes ++ results (query registry entity) entity
                (postorders position 0 children)) node =
              nodes ++ results (query registry entity) entity (postorders position 0 children) ++
                [node] := by
            intro node
            refine recordNode_room node ?_
            rw [List.length_append, results, List.length_map, length_postorders]
            omega
          have hCompound : ∀ judge : List RequirementOutcome → Verdict,
              ((evaluateChildren entity (pathText position) 0 nodes children).map
                (concludeCompound entity (pathText position) fields judge)).alone registry =
              (registry, some ((judge (outcomes (query registry entity) children)).1,
                nodes ++ results (query registry entity) entity (postorders position 0 children) ++
                  [compoundNode entity (pathText position) fields
                    (judge (outcomes (query registry entity) children))])) := by
            intro judge
            rw [Code.map, alone_bind, hBelow, ← hRecord]
            rfl
          unfold RequirementFields.Rule at hRule
          unfold evaluateNode
          rw [postorder, results, List.map_append, ← List.append_assoc, List.map_singleton]
          cases hKind : fields.kind <;> rw [hKind] at hRule <;> dsimp only at hRule ⊢
          case allOf =>
            simp only [verdict, result, Requirement.fields, hKind]
            exact hCompound judgeAllOf
          case anyOf =>
            simp only [verdict, result, Requirement.fields, hKind]
            exact hCompound judgeAnyOf
          case negation =>
            simp only [verdict, result, Requirement.fields, hKind]
            match children, hRule.2 with
            | [child], _ =>
                have hChild := evaluateNode_alone child (hChildren child (List.mem_cons_self ..))
                  (position ++ [0]) nodes (by rw [sizes, sizes] at hRoom; omega)
                rw [pathText_snoc, List.append_assoc] at hChild
                dsimp only
                rw [Code.map, alone_bind]
                rw [show txt ".0" = txt "." ++ decimal 0 by decide, hChild]
                have hOnly : postorders position 0 [child] = child.postorder (position ++ [0]) := by
                  rw [postorders, postorders, List.append_nil]
                rw [hOnly] at hRecord ⊢
                show (registry, some ((judgeNot (child.verdict (query registry entity)).1).1,
                  recordNode _ _)) = _
                rw [hRecord]
                rfl
          all_goals
            obtain ⟨verdict, hVerdict⟩ :=
              judgeLeaf_isSome hRule.2.2 (query registry entity fields.capability)
            obtain rfl := hRule.2.1
            simp only [Requirement.verdict, result, Requirement.fields, hKind, hVerdict,
              Option.getD_some, postorders, List.map_nil, List.append_nil]
            rw [Code.map, alone_bind, queryCode, alone_reading, alone_done, concludeLeaf, hVerdict,
              Option.map_some, recordNode_room _ (by omega)]

theorem evaluateChildren_alone :
    ∀ (children : List Requirement) {depth : Nat},
      (∀ child ∈ children, child.Shaped depth false) →
      ∀ (position : List Nat) (index : Nat) (nodes : List RequirementNodeResult),
        nodes.length + sizes children ≤ kMaxRequirementNodes →
        (evaluateChildren entity (pathText position) index nodes children).alone registry =
          (registry, some (outcomes (query registry entity) children,
            nodes ++ results (query registry entity) entity (postorders position index children)))
  | [], depth, _, position, index, nodes, _ => by
      rw [evaluateChildren, postorders, outcomes]
      show (registry, some ([], nodes)) = (registry, some ([], nodes ++ []))
      rw [List.append_nil]
  | child :: children, depth, hShaped, position, index, nodes, hRoom => by
      rw [sizes] at hRoom
      have hFirst := evaluateNode_alone child (hShaped child (List.mem_cons_self ..))
        (position ++ [index]) nodes (by omega)
      rw [pathText_snoc] at hFirst
      have hLength : (results (query registry entity) entity
          (child.postorder (position ++ [index]))).length = child.size := by
        rw [results, List.length_map, length_postorder]
      have hRest := evaluateChildren_alone children
        (fun other hMem => hShaped other (List.mem_cons_of_mem _ hMem)) position (index + 1)
        (nodes ++ results (query registry entity) entity (child.postorder (position ++ [index])))
        (by rw [List.length_append, hLength]; omega)
      rw [evaluateChildren, alone_bind, hFirst]
      dsimp only
      rw [Code.map, alone_bind, hRest, postorders, outcomes]
      simp [results]

end

end Evaluation

/-! ## Subtrees -/

namespace Requirement

theorem subtree_snoc {position : List Nat} {requirement : Requirement} {fields : RequirementFields}
    {children : List Requirement} {index : Nat} (h : requirement.At position fields children) :
    requirement.subtree (position ++ [index]) = children[index]? := by
  unfold At at h
  induction position generalizing requirement with
  | nil =>
      cases h
      show children[index]?.bind (fun child => some child) = _
      cases children[index]? <;> rfl
  | cons first position ih =>
      obtain ⟨child, hChild, hSub⟩ := Option.bind_eq_some_iff.1 h
      rw [List.cons_append, subtree, hChild]
      exact ih hSub

theorem size_le_sizes {children : List Requirement} {child : Requirement} (h : child ∈ children) :
    child.size ≤ sizes children := by
  induction children with
  | nil => cases h
  | cons first children ih =>
      rw [sizes]
      rcases List.mem_cons.1 h with rfl | hMem
      · omega
      · have hLe := ih hMem
        omega

/-- A subtree keeps the rules, and has no more nodes. -/
theorem Shaped.subtree {requirement sub : Requirement} {depth : Nat} {isRoot : Bool}
    (h : requirement.Shaped depth isRoot) {position : List Nat}
    (hSub : requirement.subtree position = some sub) :
    (∃ depth isRoot, sub.Shaped depth isRoot) ∧ sub.size ≤ requirement.size := by
  induction position generalizing requirement depth isRoot with
  | nil =>
      cases hSub
      exact ⟨⟨depth, isRoot, h⟩, Nat.le_refl _⟩
  | cons index position ih =>
      obtain ⟨child, hChild, hRest⟩ := Option.bind_eq_some_iff.1 hSub
      cases h with
      | @node _ _ fields children hDepth hRule hChildren =>
          have hMem : child ∈ children := List.mem_of_getElem? hChild
          obtain ⟨hShaped, hSize⟩ := ih (hChildren child hMem) hRest
          have hLe := size_le_sizes hMem
          rw [size]
          exact ⟨hShaped, by omega⟩

end Requirement

/-! ## Evaluations of accepted expressions -/

/-- The generation that an evaluation in the state shows. -/
def shownGeneration (registry : Registry) (entity : EntityId) : EntityGeneration :=
  ((queryEntity registry entity).toOption.map (·.entityGeneration)).getD 0

/-- The evaluation of an accepted expression in one state. -/
theorem evaluate_permitted (registry : Registry) (entity : EntityId) {requirement : Requirement}
    (h : requirement.Permitted) :
    evaluate registry entity requirement =
      some (concludeEvaluation entity (shownGeneration registry entity)
        (requirement.verdict (query registry entity)).1
        (Requirement.results (query registry entity) entity (requirement.postorder []))) := by
  obtain ⟨hShaped, hSize⟩ := Requirement.permitted_iff.1 h
  have hRun := evaluateNode_alone registry entity requirement hShaped [] []
    (by rw [List.length_nil]; omega)
  rw [show Requirement.pathText [] = txt "0" by decide, List.nil_append] at hRun
  unfold evaluate evaluateCode
  rw [validateRequirement_iff.2 h]
  dsimp only
  rw [alone_bind, queryEntityCode, alone_reading]
  dsimp only
  rw [Code.map, alone_bind, hRun]
  rfl

theorem evaluate_valid (registry : Registry) (entity : EntityId) {requirement : Requirement}
    (h : requirement.Permitted) :
    ∃ evaluation, evaluate registry entity requirement = some evaluation ∧
      evaluation.outcome = (requirement.verdict (query registry entity)).1 ∧
      evaluation.nodes =
        Requirement.results (query registry entity) entity (requirement.postorder []) ∧
      evaluation.nodesEvaluated = evaluation.nodes.length :=
  ⟨_, evaluate_permitted registry entity h, rfl, rfl, rfl⟩

/-- The result is the one of the node at the position. -/
structure RequirementNodeResult.Describes (result : RequirementNodeResult) (position : List Nat)
    (requirement : Requirement) : Prop where
  path : result.path = Requirement.pathText position
  kind : result.kind = requirement.fields.kind
  name : result.name = requirement.fields.name.value
  capability : result.capability = requirement.fields.capability

theorem Requirement.result_describes (answers : CapabilityId → CapabilityQueryResult)
    (entity : EntityId) (position : List Nat) (requirement : Requirement) :
    (requirement.result answers entity position).Describes position requirement := by
  unfold Requirement.result
  dsimp only
  split <;> exact ⟨rfl, rfl, rfl, rfl⟩

theorem Requirement.result_outcome (answers : CapabilityId → CapabilityQueryResult)
    (entity : EntityId) (position : List Nat) (requirement : Requirement) :
    (requirement.result answers entity position).outcome = (requirement.verdict answers).1 := by
  unfold Requirement.result
  dsimp only
  split <;> rfl

theorem nodup_paths (answers : CapabilityId → CapabilityQueryResult) (entity : EntityId)
    (requirement : Requirement) :
    ((Requirement.results answers entity (requirement.postorder [])).map
      RequirementNodeResult.path).Nodup := by
  have hPaths : (Requirement.results answers entity (requirement.postorder [])).map
      RequirementNodeResult.path =
        ((requirement.postorder []).map Prod.fst).map Requirement.pathText := by
    rw [Requirement.results, List.map_map, List.map_map]
    exact List.map_congr_left fun visit _ => (Requirement.result_describes ..).path
  rw [hPaths]
  exact (Requirement.nodup_postorder [] requirement).map fun _ _ => Requirement.pathText_injective

/-- One result is recorded for each node of the tree, within the depth limit. -/
structure Requirement.RecordedBy (requirement : Requirement)
    (nodes : List RequirementNodeResult) : Prop where
  distinct : (nodes.map RequirementNodeResult.path).Nodup
  each : ∀ position sub, requirement.subtree position = some sub →
    ∃ node ∈ nodes, node.Describes position sub
  only : ∀ node ∈ nodes, ∃ position sub, requirement.subtree position = some sub ∧
    node.Describes position sub ∧ position.length ≤ kMaxRequirementDepth
  count : nodes.length = requirement.size
  bounded : nodes.length ≤ kMaxRequirementNodes

/-- In every state of the registry an accepted expression is evaluated without a wrong access,
and one result is recorded for each of its nodes.  A refused expression is answered without a
look at the registry. -/
theorem evaluation_safe (registry : Registry) (entity : EntityId) (requirement : Requirement) :
    (validateRequirement requirement = .ok () →
      ∃ evaluation, evaluate registry entity requirement = some evaluation ∧
        requirement.RecordedBy evaluation.nodes ∧
        evaluation.nodesEvaluated = evaluation.nodes.length) ∧
    ∀ e, validateRequirement requirement = .error e →
      ∃ evaluation, evaluateCode entity requirement = .done (some evaluation) ∧
        evaluation.outcome = .undetermined ∧ evaluation.nodes = [] := by
  constructor
  · intro hValid
    have hPermitted := validateRequirement_iff.1 hValid
    obtain ⟨evaluation, hEvaluate, -, hNodes, hCount⟩ := evaluate_valid registry entity hPermitted
    have hLength : evaluation.nodes.length = requirement.size := by
      rw [hNodes, Requirement.results, List.length_map, Requirement.length_postorder]
    refine ⟨evaluation, hEvaluate, ⟨?_, ?_, ?_, hLength, hLength ▸ hPermitted.count⟩, hCount⟩
    · rw [hNodes]
      exact nodup_paths ..
    · intro position sub hSub
      refine ⟨sub.result (query registry entity) entity position, ?_,
        Requirement.result_describes ..⟩
      rw [hNodes]
      exact List.mem_map.2 ⟨(position, sub), Requirement.mem_postorder_root.2 hSub, rfl⟩
    · intro node hMem
      rw [hNodes] at hMem
      obtain ⟨⟨position, sub⟩, hVisit, rfl⟩ := List.mem_map.1 hMem
      have hSub := Requirement.mem_postorder_root.1 hVisit
      refine ⟨position, sub, hSub, Requirement.result_describes .., ?_⟩
      cases sub with
      | node fields children => exact hPermitted.depth position fields children hSub
  · intro e hError
    unfold evaluateCode
    rw [hError]
    exact ⟨_, rfl, rfl, rfl⟩

namespace Sample

/-- A number of the canonical schema. -/
def receiveQueues : CapabilityId :=
  (CapabilityId.parse (txt "fabric.queue.max_rx_queues")).toOption.getD .unset

def perQueueTelemetry : CapabilityId :=
  (CapabilityId.parse (txt "fabric.queue.per_queue_telemetry_supported")).toOption.getD .unset

def queueCount : CapabilityValue := ⟨.quantity ⟨64, .count⟩, by decide⟩

/-- The queues are isolated, and there are 64 of them or no telemetry for each. -/
def queueNeeds : Requirement :=
  .node { kind := .allOf }
    [.node { kind := .booleanEquals, capability, operand := .boolean true } [],
      .node { kind := .anyOf }
        [.node { kind := .minimum, capability := receiveQueues, operand := queueCount } [],
          negationOf (.node { capability := perQueueTelemetry } [])]]

/-- One publication of the isolation and of the number. -/
def queuesKnown : List Operation :=
  setup ++ [.publish
    { publication bootOne "attempt-1" 1 0 (claim .supported .processBound) with
      claims :=
        [{ claim .supported .processBound with value := .boolean true },
          { claim .supported .processBound with
            capability := receiveQueues, value := queueCount }] }]

end Sample

/-- A conjunction over a value of each kind, evaluated where both are held, and a negation at
the root, which is refused. -/
theorem evaluation_safe_queues :
    ((∀ id ∈ [Sample.capability, Sample.receiveQueues],
        (query (afterRun {} Sample.queuesKnown) Sample.entity id).hasValue = true) ∧
      ∃ evaluation,
        evaluate (afterRun {} Sample.queuesKnown) Sample.entity Sample.queueNeeds =
            some evaluation ∧
          Sample.queueNeeds.RecordedBy evaluation.nodes ∧
          evaluation.nodesEvaluated = evaluation.nodes.length) ∧
    ∃ evaluation,
      evaluateCode Sample.entity (Sample.negationOf Sample.queueNeeds) = .done (some evaluation) ∧
        evaluation.outcome = .undetermined ∧ evaluation.nodes = [] :=
  ⟨⟨by decide +kernel, (evaluation_safe _ Sample.entity Sample.queueNeeds).1 (by decide)⟩,
    (evaluation_safe (Registry.init {}) Sample.entity (Sample.negationOf Sample.queueNeeds)).2 _
      rfl⟩

/-! ## The order of the report -/

/-- The truth value of an outcome. -/
def RequirementOutcome.truth : RequirementOutcome → Truth
  | .satisfied => .yes
  | .notSatisfied => .no
  | .undetermined => .unknown

theorem RequirementOutcome.truth_injective {a b : RequirementOutcome} (h : a.truth = b.truth) :
    a = b := by
  cases a <;> cases b <;> first | rfl | cases h

section Connectives

variable (outcomes : List RequirementOutcome) (outcome : RequirementOutcome)

theorem contains_truth :
    (outcomes.map RequirementOutcome.truth).contains outcome.truth = outcomes.contains outcome := by
  rw [Bool.eq_iff_iff, List.contains_iff_mem, List.contains_iff_mem, List.mem_map]
  constructor
  · rintro ⟨other, hMem, hSame⟩
    rwa [← RequirementOutcome.truth_injective hSame]
  · exact fun hMem => ⟨outcome, hMem, rfl⟩

theorem all_truth :
    (outcomes.map RequirementOutcome.truth).all (· == outcome.truth) =
      outcomes.all (· == outcome) := by
  rw [List.all_map]
  refine congrArg outcomes.all (funext fun other => ?_)
  show (other.truth == outcome.truth) = (other == outcome)
  rw [Bool.eq_iff_iff, beq_iff_eq, beq_iff_eq]
  exact ⟨RequirementOutcome.truth_injective, congrArg RequirementOutcome.truth⟩

/-- The evaluator's conjunction. -/
theorem judgeAllOf_truth :
    (judgeAllOf outcomes).1.truth = Truth.all (outcomes.map RequirementOutcome.truth) := by
  have hAll : (outcomes.map RequirementOutcome.truth).all (· == .yes) =
      outcomes.all (· == .satisfied) := all_truth outcomes .satisfied
  have hNo : (outcomes.map RequirementOutcome.truth).contains .no =
      outcomes.contains .notSatisfied := contains_truth outcomes .notSatisfied
  unfold judgeAllOf Truth.all
  rw [hAll, hNo]
  cases outcomes.all (· == .satisfied) with
  | true => rfl
  | false => cases outcomes.contains .notSatisfied <;> rfl

/-- The evaluator's disjunction. -/
theorem judgeAnyOf_truth :
    (judgeAnyOf outcomes).1.truth = Truth.any (outcomes.map RequirementOutcome.truth) := by
  have hAll : (outcomes.map RequirementOutcome.truth).all (· == .no) =
      outcomes.all (· == .notSatisfied) := all_truth outcomes .notSatisfied
  have hYes : (outcomes.map RequirementOutcome.truth).contains .yes =
      outcomes.contains .satisfied := contains_truth outcomes .satisfied
  unfold judgeAnyOf Truth.any
  rw [hAll, hYes]
  cases outcomes.contains .satisfied with
  | true => rfl
  | false => cases outcomes.all (· == .notSatisfied) <;> rfl

/-- The evaluator's negation. -/
theorem judgeNot_truth : (judgeNot outcome).1.truth = outcome.truth.not := by
  cases outcome <;> rfl

end Connectives

/-- How the truth of a node of a kind follows from its children. -/
def RequirementKind.Connects (kind : RequirementKind) (whole : Truth) (parts : List Truth) : Prop :=
  match kind with
  | .allOf => whole = Truth.all parts
  | .anyOf => whole = Truth.any parts
  | .negation => ∃ part, parts = [part] ∧ whole = part.not
  | _ => True

/-- The truth that is recorded for a position. -/
def RequirementEvaluation.recorded (evaluation : RequirementEvaluation) (position : List Nat) :
    Option Truth :=
  (lookup RequirementNodeResult.path (Requirement.pathText position) evaluation.nodes).map
    fun node => node.outcome.truth

/-- The evaluation reports the nodes in an order, each with its path and with the outcome that
it evaluates to, and the outcomes of compound nodes are made of those of their children. -/
structure Reports (registry : Registry) (entity : EntityId) (requirement : Requirement)
    (order : List (List Nat × Requirement)) (evaluation : RequirementEvaluation) : Prop where
  nodes : List.Forall₂ (fun (node : RequirementNodeResult) visit =>
    node.Describes visit.1 visit.2 ∧
      (((evaluateNode entity (Requirement.pathText visit.1) [] visit.2).alone registry).2.map
        Prod.fst) = some node.outcome) evaluation.nodes order
  connected : ∀ position fields children, requirement.At position fields children →
    ∃ whole parts, evaluation.recorded position = some whole ∧
      (List.range children.length).map (fun index => evaluation.recorded (position ++ [index])) =
        parts.map some ∧
      fields.kind.Connects whole parts

/-- What is recorded of a node of an accepted expression. -/
theorem recorded_eq {answers : CapabilityId → CapabilityQueryResult} {entity : EntityId}
    {requirement sub : Requirement} {evaluation : RequirementEvaluation}
    (hNodes : evaluation.nodes =
      Requirement.results answers entity (requirement.postorder [])) {position : List Nat}
    (hSub : requirement.subtree position = some sub) :
    evaluation.recorded position = some (sub.verdict answers).1.truth := by
  have hMem : sub.result answers entity position ∈ evaluation.nodes := by
    rw [hNodes]
    exact List.mem_map.2 ⟨(position, sub), Requirement.mem_postorder_root.2 hSub, rfl⟩
  have hNodup : (evaluation.nodes.map RequirementNodeResult.path).Nodup := by
    rw [hNodes]
    exact nodup_paths ..
  have hFound := lookup_of_mem hNodup hMem
  rw [(Requirement.result_describes answers entity position sub).path] at hFound
  rw [RequirementEvaluation.recorded, hFound, Option.map_some, Requirement.result_outcome]

/-- The verdict on a node follows from the verdicts on its children. -/
theorem verdict_connects {answers : CapabilityId → CapabilityQueryResult}
    {fields : RequirementFields} {isRoot : Bool} {children : List Requirement}
    (hRule : fields.Rule isRoot children) :
    fields.kind.Connects ((Requirement.node fields children).verdict answers).1.truth
      (children.map fun child => (child.verdict answers).1.truth) := by
  have hParts : (children.map fun child => (child.verdict answers).1.truth) =
      (Requirement.outcomes answers children).map RequirementOutcome.truth := by
    rw [Requirement.outcomes_eq, List.map_map]
    rfl
  unfold RequirementFields.Rule at hRule
  unfold RequirementKind.Connects
  rw [Requirement.verdict]
  cases hKind : fields.kind <;> rw [hKind] at hRule <;> dsimp only at hRule ⊢
  case allOf => rw [judgeAllOf_truth, hParts]
  case anyOf => rw [judgeAnyOf_truth, hParts]
  case negation =>
    obtain ⟨child, rfl⟩ := List.length_eq_one_iff.1 hRule.2
    exact ⟨_, rfl, judgeNot_truth _⟩

/-- An accepted expression is reported in post-order. -/
theorem reports_postorder (registry : Registry) (entity : EntityId) {requirement : Requirement}
    (h : requirement.Permitted) :
    ∃ evaluation, evaluate registry entity requirement = some evaluation ∧
      Reports registry entity requirement (requirement.postorder []) evaluation := by
  obtain ⟨hShaped, hSize⟩ := Requirement.permitted_iff.1 h
  obtain ⟨evaluation, hEvaluate, -, hNodes, -⟩ := evaluate_valid registry entity h
  refine ⟨evaluation, hEvaluate, ?_, ?_⟩
  · rw [hNodes, Requirement.results, List.forall₂_map_left_iff, List.forall₂_same]
    rintro ⟨position, sub⟩ hVisit
    refine ⟨Requirement.result_describes .., ?_⟩
    obtain ⟨⟨depth, isRoot, hSub⟩, hLe⟩ :=
      hShaped.subtree (Requirement.mem_postorder_root.1 hVisit)
    rw [evaluateNode_alone registry entity sub hSub position []
      (by rw [List.length_nil]; omega), Requirement.result_outcome]
    rfl
  · intro position fields children hAt
    refine ⟨_, children.map fun child => (child.verdict (query registry entity)).1.truth,
      recorded_eq hNodes hAt, ?_, verdict_connects (h.rules position fields children hAt)⟩
    refine List.ext_getElem (by simp) fun index hRange _ => ?_
    have hIndex : index < children.length := by simpa using hRange
    have hChild : requirement.subtree (position ++ [index]) = some children[index] := by
      rw [Requirement.subtree_snoc hAt, List.getElem?_eq_getElem hIndex]
    rw [List.getElem_map, List.getElem_range, recorded_eq hNodes hChild, List.getElem_map,
      List.getElem_map]

/-- The post-order of a tree with children starts below the root. -/
theorem postorder_head {fields : RequirementFields} {children : List Requirement}
    (h : children ≠ []) :
    ∃ position sub rest,
      (Requirement.node fields children).postorder [] = (position, sub) :: rest ∧ position ≠ [] := by
  rw [Requirement.postorder]
  cases hBelow : Requirement.postorders [] 0 children with
  | nil =>
      cases children with
      | nil => exact absurd rfl h
      | cons child rest =>
          have hRoot : ([0], child) ∈ Requirement.postorders [] 0 (child :: rest) :=
            (Requirement.mem_postorders _).2 ⟨0, [], child, rfl, rfl, rfl⟩
          rw [hBelow] at hRoot
          cases hRoot
  | cons visit rest =>
      obtain ⟨position, sub⟩ := visit
      have hVisit : (position, sub) ∈ Requirement.postorders [] 0 children :=
        hBelow ▸ List.mem_cons_self ..
      obtain ⟨index, below, _, _, hPosition, _⟩ := (Requirement.mem_postorders _).1 hVisit
      exact ⟨position, sub, _, rfl, by rw [hPosition]; exact List.cons_ne_nil _ _⟩

/-- Only a single leaf is reported in pre-order: the first record of a tree with children is
below the root, and the first node of the pre-order is the root. -/
theorem leaf_of_preorder {registry : Registry} {entity : EntityId} {requirement : Requirement}
    (hPermitted : requirement.Permitted) {evaluation : RequirementEvaluation}
    (hEvaluate : evaluate registry entity requirement = some evaluation)
    (hPre : Reports registry entity requirement (requirement.preorder []) evaluation) :
    requirement.children = [] := by
  obtain ⟨other, hOther, hPost⟩ := reports_postorder registry entity hPermitted
  obtain rfl := Option.some.inj (hEvaluate.symm.trans hOther)
  obtain ⟨fields, children⟩ := requirement
  by_contra hChildren
  obtain ⟨position, sub, rest, hOrder, hBelow⟩ := @postorder_head fields children hChildren
  have hPreNodes := hPre.nodes
  have hPostNodes := hPost.nodes
  rw [hOrder] at hPostNodes
  rw [Requirement.preorder] at hPreNodes
  cases hNodes : evaluation.nodes with
  | nil =>
      rw [hNodes] at hPostNodes
      cases hPostNodes
  | cons node nodes =>
      rw [hNodes] at hPreNodes hPostNodes
      have hRoot := (List.forall₂_cons.1 hPreNodes).1.1.path
      have hFirst := (List.forall₂_cons.1 hPostNodes).1.1.path
      exact hBelow (Requirement.pathText_injective (hFirst.symm.trans hRoot))

/-- The report is the documented pre-order exactly when the accepted expression is a single
leaf; it is always the post-order. -/
theorem preorder_report_iff (registry : Registry) (entity : EntityId) (requirement : Requirement)
    (hValid : validateRequirement requirement = .ok ()) :
    (∃ evaluation, evaluate registry entity requirement = some evaluation ∧
      Reports registry entity requirement (requirement.postorder []) evaluation) ∧
    ((∃ evaluation, evaluate registry entity requirement = some evaluation ∧
      Reports registry entity requirement (requirement.preorder []) evaluation) ↔
        requirement.children = []) := by
  have hPermitted := validateRequirement_iff.1 hValid
  have hPost := reports_postorder registry entity hPermitted
  refine ⟨hPost, fun ⟨evaluation, hEvaluate, hPre⟩ => leaf_of_preorder hPermitted hEvaluate hPre,
    fun hLeaf => ?_⟩
  obtain ⟨fields, children⟩ := requirement
  obtain rfl : children = [] := hLeaf
  exact hPost

theorem preorder_report_leaf :
    ∃ evaluation,
      evaluate (Registry.init {}) Sample.entity Sample.supportedLeaf = some evaluation ∧
        Reports (Registry.init {}) Sample.entity Sample.supportedLeaf
          (Sample.supportedLeaf.preorder []) evaluation :=
  (preorder_report_iff (Registry.init {}) Sample.entity Sample.supportedLeaf (by decide)).2.2 rfl

namespace Sample

def conjunction : Requirement := .node { kind := .allOf } [supportedLeaf]

end Sample

/-- A conjunction of one leaf is reported after its leaf. -/
theorem conjunction_reported_last :
    ¬ ∀ (registry : Registry) (entity : EntityId) (requirement : Requirement),
      validateRequirement requirement = .ok () →
        ∃ evaluation, evaluate registry entity requirement = some evaluation ∧
          Reports registry entity requirement (requirement.preorder []) evaluation := by
  intro h
  have hValid : validateRequirement Sample.conjunction = .ok () := by decide
  obtain ⟨evaluation, hEvaluate, hPre⟩ :=
    h (Registry.init {}) Sample.entity Sample.conjunction hValid
  exact List.cons_ne_nil _ _
    (leaf_of_preorder (validateRequirement_iff.1 hValid) hEvaluate hPre)

end FabricCapability.Ports
