import FabricCapability.Ports.IdCodec
import FabricCapability.Ports.QueryText

/-!
# The leaves of a query expression

`BuildRequirement` refuses a leaf whose operator, capability or operand does not parse.  The
name of a leaf is its first 96 bytes, and there the outcome of the parser is read without a
check: a leaf that is otherwise readable ends the tool when its name holds a tab or the name
is cut at a space.

## Main results

* `leafFields_ok_iff`: the leaves that `BuildRequirement` reads.
* `parse_leafName_iff`: the leaves whose text is a name.
* `expression_safe_iff`: when an expression is answered by an error or by one leaf for each
  of its segments.
-/

namespace FabricCapability.Ports

/-! ## Readable leaves -/

/-- A text that names a capability, between blanks. -/
def NamesCapability (text : Bytes) : Prop :=
  ∃ capability, CapabilityId.parse (trim text) = .ok capability

/-- A text that denotes a quantity, with its own unit or as a count. -/
def Measures (text : Bytes) : Prop :=
  (parseQuantity text []).isSome ∨ (parseQuantity text (txt "count")).isSome

/-- A leaf with an operator, a capability in front of it and an operand behind it.  The
operators are looked for in the order of the source. -/
def Readable (leaf : Bytes) : Prop :=
  match cutAt (txt ">=") leaf with
  | some (front, back) => NamesCapability front ∧ Measures back
  | none =>
  match cutAt (txt "<=") leaf with
  | some (front, back) => NamesCapability front ∧ Measures back
  | none =>
  match cutAt (txt " contains ") leaf with
  | some (front, back) =>
      NamesCapability front ∧ ∃ protocol, parseProtocol (trim back) = .ok protocol
  | none =>
  match cutAt (txt "=") leaf with
  | some (front, back) =>
      NamesCapability front ∧ ∃ state, parseCapabilityState (trim back) = .ok state
  | none => False

theorem leafOperand_bound {fields : RequirementFields} {remainder : Bytes}
    (hKind : fields.kind = .minimum ∨ fields.kind = .maximum) :
    (∃ out, leafOperand fields remainder = .ok out) ↔ Measures remainder := by
  rw [leafOperand, if_pos hKind, Measures]
  cases parseQuantity remainder [] with
  | some operand => simp
  | none => cases parseQuantity remainder (txt "count") <;> simp

theorem leafOperand_other {fields : RequirementFields} {remainder : Bytes}
    (hKind : ¬(fields.kind = .minimum ∨ fields.kind = .maximum)) :
    leafOperand fields remainder = .ok fields := if_neg hKind

/-- What `leafFields` does once the operator is known. -/
theorem leafFields_of_operator {leaf front remainder : Bytes} {fields : RequirementFields}
    (h : leafOperator leaf = .ok (fields, trim front, remainder)) :
    (∃ out, leafFields leaf = .ok out) ↔
      ∃ capability, CapabilityId.parse (trim front) = .ok capability ∧
        ∃ out, leafOperand { fields with capability } remainder = .ok out := by
  unfold leafFields
  rw [h]
  dsimp only [bind, Except.bind]
  cases CapabilityId.parse (trim front) <;> simp

theorem leafFields_bound {leaf front remainder : Bytes} {fields : RequirementFields}
    (hKind : fields.kind = .minimum ∨ fields.kind = .maximum)
    (h : leafOperator leaf = .ok (fields, trim front, remainder)) :
    (∃ out, leafFields leaf = .ok out) ↔ NamesCapability front ∧ Measures remainder := by
  rw [leafFields_of_operator h, NamesCapability, ← exists_and_right]
  exact exists_congr fun capability => and_congr_right fun _ =>
    @leafOperand_bound { fields with capability } _ hKind

theorem leafFields_other {leaf front : Bytes} {fields : RequirementFields}
    (hKind : ¬(fields.kind = .minimum ∨ fields.kind = .maximum))
    (h : leafOperator leaf = .ok (fields, trim front, [])) :
    (∃ out, leafFields leaf = .ok out) ↔ NamesCapability front := by
  rw [leafFields_of_operator h, NamesCapability]
  constructor
  · rintro ⟨capability, hParse, -⟩
    exact ⟨capability, hParse⟩
  · rintro ⟨capability, hParse⟩
    refine ⟨capability, hParse, { fields with capability }, ?_⟩
    exact leafOperand_other hKind

theorem leafFields_error {leaf message : Bytes} (h : leafOperator leaf = .error message) :
    ¬∃ out, leafFields leaf = .ok out := by
  unfold leafFields
  rw [h]
  rintro ⟨out, hOut⟩
  cases hOut

theorem leafFields_ok_iff {leaf : Bytes} :
    (∃ fields, leafFields leaf = .ok fields) ↔ Readable leaf := by
  unfold Readable
  have hOperator : leafOperator leaf = leafOperator leaf := rfl
  conv at hOperator =>
    rhs
    unfold leafOperator
  cases hMinimum : cutAt (txt ">=") leaf with
  | some parts =>
      rw [hMinimum] at hOperator
      exact leafFields_bound (.inl rfl) hOperator
  | none =>
  cases hMaximum : cutAt (txt "<=") leaf with
  | some parts =>
      rw [hMinimum, hMaximum] at hOperator
      exact leafFields_bound (.inr rfl) hOperator
  | none =>
  cases hContains : cutAt (txt " contains ") leaf with
  | some parts =>
      rw [hMinimum, hMaximum, hContains] at hOperator
      dsimp only at hOperator ⊢
      cases hProtocol : parseProtocol (trim parts.2) with
      | error e =>
          rw [hProtocol] at hOperator
          exact iff_of_false (leafFields_error hOperator) fun h => nomatch h.2
      | ok protocol =>
          rw [hProtocol] at hOperator
          rw [leafFields_other (by simp) hOperator]
          exact (and_iff_left ⟨protocol, rfl⟩).symm
  | none =>
  cases hEquals : cutAt (txt "=") leaf with
  | some parts =>
      rw [hMinimum, hMaximum, hContains, hEquals] at hOperator
      dsimp only at hOperator ⊢
      cases hState : parseCapabilityState (trim parts.2) with
      | error e =>
          rw [hState] at hOperator
          exact iff_of_false (leafFields_error hOperator) fun h => nomatch h.2
      | ok state =>
          rw [hState] at hOperator
          rw [leafFields_other (by simp) hOperator]
          exact (and_iff_left ⟨state, rfl⟩).symm
  | none =>
      rw [hMinimum, hMaximum, hContains, hEquals] at hOperator
      exact iff_of_false (leafFields_error hOperator) not_false

/-! ## Names of leaves -/

/-- The first bytes of a leaf are printable and do not end in a space. -/
def Nameable (leaf : Bytes) : Prop :=
  (∀ ch ∈ leaf.take kLeafNameLength, isPrintable ch = true) ∧
    (leaf.take kLeafNameLength).getLast? ≠ some space

theorem scanPrintableToken_iff {what text : Bytes} :
    scanPrintableToken what text = .ok () ↔ ∀ ch ∈ text, isPrintable ch = true := by
  induction text with
  | nil => simp [scanPrintableToken]
  | cons ch rest ih =>
      rw [scanPrintableToken, List.forall_mem_cons]
      cases isPrintable ch with
      | false => simp [tokenFailure, failure]
      | true => simp [ih]

/-- What is left of a text after trimming starts with no blank. -/
theorem trim_head {text : Bytes} {ch : UInt8} {rest : Bytes} (h : trim text = ch :: rest) :
    isBlank ch = false := by
  obtain ⟨back, hBack⟩ : ch :: rest <+: text.dropWhile isBlank := by
    rw [← h]
    exact List.rdropWhile_prefix _ _
  have hHead := List.head?_dropWhile_not isBlank text
  rw [← hBack] at hHead
  simpa using hHead

theorem validateToken_printable {text what : Bytes} {maxLength : Nat} (hNonempty : text ≠ [])
    (hLength : text.length ≤ maxLength) :
    validateToken text .printableToken 1 maxLength what = .ok () ↔
      text.head? ≠ some space ∧ text.getLast? ≠ some space ∧
        ∀ ch ∈ text, isPrintable ch = true := by
  obtain ⟨ch, rest, hText⟩ := List.exists_cons_of_ne_nil hNonempty
  have hPositive : 0 < text.length := List.length_pos_iff.2 hNonempty
  have hBounds : ¬((decide (text.length < 1) || decide (text.length > maxLength)) = true) := by
    simp only [Bool.or_eq_true, decide_eq_true_eq]
    omega
  have hFront : text.head? = some (text.headD 0) := by rw [hText]; rfl
  have hBack : text.getLast? = some (text.getLastD 0) := by
    rw [List.getLastD_eq_getLast?, List.getLast?_eq_some_getLast hNonempty]
    rfl
  rw [validateToken, if_neg hBounds, hFront, hBack, Ne, Ne, Option.some_inj, Option.some_inj]
  dsimp only
  by_cases hEnds : (text.headD 0 == space || text.getLastD 0 == space) = true
  · rw [if_pos hEnds]
    rw [Bool.or_eq_true, beq_iff_eq, beq_iff_eq] at hEnds
    refine iff_of_false nofun fun h => ?_
    exact hEnds.elim h.1 h.2.1
  · rw [if_neg hEnds, scanPrintableToken_iff]
    rw [Bool.or_eq_true, beq_iff_eq, beq_iff_eq, not_or] at hEnds
    exact ⟨fun h => ⟨hEnds.1, hEnds.2, h⟩, fun h => h.2.2⟩

theorem parse_leafName_iff {text : Bytes} (hNonempty : trim text ≠ []) :
    (∃ name, @TokenId.parse .requirementName ((trim text).take kLeafNameLength) = .ok name) ↔
      Nameable (trim text) := by
  obtain ⟨ch, rest, hText⟩ := List.exists_cons_of_ne_nil hNonempty
  have hFront : ((trim text).take kLeafNameLength).head? ≠ some space := by
    rw [hText]
    rintro hSpace
    obtain rfl : ch = space := Option.some.inj hSpace
    exact absurd (trim_head hText) (by decide)
  have hName : (trim text).take kLeafNameLength ≠ [] := by
    rw [hText]
    exact List.cons_ne_nil _ _
  have hValid := @validateToken_printable _ (txt "requirement name") _ hName
    (List.length_take_le kLeafNameLength (trim text))
  rw [Nameable]
  constructor
  · rintro ⟨name, hParse⟩
    have hChecked := hValid.1 (TokenId.parse_eq_ok.1 hParse).1
    exact ⟨hChecked.2.2, hChecked.2.1⟩
  · rintro ⟨hPrintable, hBack⟩
    have hChecked := hValid.2 ⟨hFront, hBack, hPrintable⟩
    exact ⟨⟨_, .inr hChecked⟩, TokenId.parse_eq_ok.2 ⟨hChecked, rfl⟩⟩

/-! ## Expressions -/

/-- The non-empty segments of an expression, trimmed. -/
def segmentsOf (parts : List Bytes) : List Bytes :=
  (parts.map trim).filter fun leaf => !leaf.isEmpty

def expressionLeaves (expression : Bytes) : List Bytes :=
  segmentsOf (splitText semicolon expression)

/-- A requirement without children, under the name of a leaf. -/
def LeafFor (leaf : Bytes) (child : Requirement) : Prop :=
  ∃ fields, child = .node fields [] ∧ fields.name.value = leaf.take kLeafNameLength

/-- The answers that `BuildRequirement` may give: an error, or a conjunction with one leaf for
each segment. -/
def BuildResult.Sound (leaves : List Bytes) : BuildResult → Prop
  | built requirement =>
      ∃ children, requirement = .node { kind := .allOf } children ∧
        List.Forall₂ LeafFor leaves children
  | refused _ => True
  | badAccess => False

/-- Every leaf that is reached and read has a name. -/
def NamesReached (leaves : List Bytes) : Prop :=
  ∀ front leaf back, leaves = front ++ leaf :: back →
    (∀ earlier ∈ front, Readable earlier) → Readable leaf → Nameable leaf

theorem namesReached_nil : NamesReached [] := by
  intro front leaf back hLeaves
  exact absurd hLeaves.symm (by simp)

theorem namesReached_cons {leaf : Bytes} {leaves : List Bytes} :
    NamesReached (leaf :: leaves) ↔
      (Readable leaf → Nameable leaf ∧ NamesReached leaves) := by
  constructor
  · intro h hReadable
    refine ⟨h [] leaf leaves rfl nofun hReadable, fun front next back hLeaves hFront => ?_⟩
    refine h (leaf :: front) next back (by rw [hLeaves]; rfl) ?_
    exact List.forall_mem_cons.2 ⟨hReadable, hFront⟩
  · intro h front next back hLeaves hFront hReadable
    cases front with
    | nil =>
        obtain ⟨rfl, -⟩ := List.cons.inj hLeaves
        exact (h hReadable).1
    | cons first front =>
        obtain ⟨rfl, hRest⟩ := List.cons.inj hLeaves
        obtain ⟨hFirst, hFront⟩ := List.forall_mem_cons.1 hFront
        exact (h hFirst).2 front next back hRest hFront hReadable

theorem segmentsOf_cons {part : Bytes} {parts : List Bytes} :
    segmentsOf (part :: parts) =
      if (trim part).isEmpty then segmentsOf parts else trim part :: segmentsOf parts := by
  unfold segmentsOf
  rw [List.map_cons, List.filter_cons]
  cases (trim part).isEmpty <;> rfl

/-- One induction over the segments: the leaves read so far stand for those before. -/
theorem buildLeaves_sound_iff {children : List Requirement} {done parts : List Bytes}
    (hDone : List.Forall₂ LeafFor done children) :
    (buildLeaves children parts).Sound (done ++ segmentsOf parts) ↔
      NamesReached (segmentsOf parts) := by
  induction parts generalizing children done with
  | nil =>
      refine iff_of_true ?_ namesReached_nil
      rw [buildLeaves]
      cases children with
      | nil => trivial
      | cons child children =>
          rw [segmentsOf, List.map_nil, List.filter_nil, List.append_nil]
          exact ⟨_, rfl, hDone⟩
  | cons part parts ih =>
      rw [buildLeaves, segmentsOf_cons]
      by_cases hEmpty : (trim part).isEmpty = true
      · rw [if_pos hEmpty, if_pos hEmpty]
        exact ih hDone
      · rw [if_neg hEmpty, if_neg hEmpty, namesReached_cons, ← leafFields_ok_iff,
          ← parse_leafName_iff (by simpa using hEmpty)]
        cases leafFields (trim part) with
        | error message =>
            refine iff_of_true trivial ?_
            rintro ⟨fields, hFields⟩
            cases hFields
        | ok fields =>
            cases hName : @TokenId.parse .requirementName ((trim part).take kLeafNameLength) with
            | error e =>
                refine iff_of_false (fun hSound => hSound) fun h => ?_
                obtain ⟨name, hSome⟩ := (h ⟨fields, rfl⟩).1
                cases hSome
            | ok name =>
                have hLeaf : LeafFor (trim part) (.node { fields with name } []) :=
                  ⟨{ fields with name }, rfl, (TokenId.parse_eq_ok.1 hName).2⟩
                have hNext := ih (List.rel_append hDone (.cons hLeaf .nil))
                rw [List.append_assoc, List.singleton_append] at hNext
                refine hNext.trans ?_
                constructor
                · intro hNext _
                  exact ⟨⟨name, rfl⟩, hNext⟩
                · intro h
                  exact (h ⟨fields, rfl⟩).2

/-- An expression is answered by an error or by one leaf for each of its segments, unless some
leaf that is read after readable ones has no name. -/
theorem expression_safe_iff (expression : Bytes) :
    (buildRequirement expression).Sound (expressionLeaves expression) ↔
      NamesReached (expressionLeaves expression) :=
  buildLeaves_sound_iff .nil

/-- A tab between an operator and its operand is trimmed away from the operand and not from
the name. -/
theorem tab_in_leaf_throws :
    ¬(buildRequirement (txt "fabric.queue.max_rx_queues>=\t4count")).Sound
      (expressionLeaves (txt "fabric.queue.max_rx_queues>=\t4count")) := by
  have hBad : buildRequirement (txt "fabric.queue.max_rx_queues>=\t4count") = .badAccess := by
    rfl
  rw [hBad]
  exact not_false

end FabricCapability.Ports
