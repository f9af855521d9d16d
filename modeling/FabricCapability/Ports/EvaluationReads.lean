import FabricCapability.Ports.RequirementTruth

/-!
# What an evaluation reads

An evaluation looks up the capability of one leaf after the other, each time in the state in
which the registry is then.  What it records of a leaf shows the state and the value that it
found.  So from the records one can tell whether the leaves were found as a given state has
them, and if they were the outcome is the one of that state.

## Main results

* `evaluateNode_recorded`, `evaluateChildren_recorded`: the records of a tree are those of a
  state exactly when its leaves were found as that state has them.
* `evaluate_shows_iff`: the same of a whole evaluation.
-/

namespace FabricCapability.Ports

open FabricCapability.Verified.KeyedList
open FabricCapability.Verified.LockedCode

/-! ## Leaves -/

namespace Requirement

mutual

/-- The leaves of a tree, in the order in which an evaluation looks them up. -/
def leaves : Requirement → List RequirementFields
  | .node fields children =>
      match fields.kind with
      | .allOf | .anyOf | .negation => leavesOf children
      | _ => [fields]

def leavesOf : List Requirement → List RequirementFields
  | [] => []
  | child :: children => child.leaves ++ leavesOf children

end

end Requirement

theorem CapabilityQueryResult.Agrees.symm {a b : CapabilityQueryResult} (h : a.Agrees b) :
    b.Agrees a :=
  ⟨h.state.symm, h.hasValue.symm, h.value.symm⟩

/-- A leaf shows what was found. -/
theorem leafNode_shows {entity : EntityId} {path : Bytes} {fields : RequirementFields}
    {a b : CapabilityQueryResult} {left right : Verdict}
    (hLeft : a.hasValue = !a.value.isAbsent) (hRight : b.hasValue = !b.value.isAbsent)
    (h : leafNode entity path fields a left = leafNode entity path fields b right) :
    b.Agrees a := by
  have hState : a.state = b.state := congrArg RequirementNodeResult.observedState h
  have hHas : a.hasValue = b.hasValue := congrArg RequirementNodeResult.hasObservedValue h
  have hValue : (if a.hasValue then a.value else .absent) =
      if b.hasValue then b.value else .absent := congrArg RequirementNodeResult.observedValue h
  refine ⟨hState, hHas, ?_⟩
  cases hCase : b.hasValue with
  | true => simpa [hHas, hCase] using hValue
  | false =>
      rw [hHas, hCase] at hLeft
      rw [hCase] at hRight
      have hAbsentLeft : a.value = .absent := isAbsent_eq_true (by simpa using hLeft.symm)
      have hAbsentRight : b.value = .absent := isAbsent_eq_true (by simpa using hRight.symm)
      rw [hAbsentLeft, hAbsentRight]

/-- The leaf was found as the state `t` has it. -/
def FoundAs (entity : EntityId) (t : Registry) (fields : RequirementFields) (read : Registry) :
    Prop :=
  (query t entity fields.capability).Agrees (query read entity fields.capability)

theorem forall₂_append {α β : Type} {R : α → β → Prop} {as as' : List α} {bs bs' : List β}
    (h : as.length = bs.length) :
    List.Forall₂ R (as ++ as') (bs ++ bs') ↔ List.Forall₂ R as bs ∧ List.Forall₂ R as' bs' := by
  induction as generalizing bs with
  | nil =>
      obtain rfl := List.length_eq_zero_iff.1 h.symm
      simp
  | cons a as ih =>
      cases bs with
      | nil => cases h
      | cons b bs => simp [ih (Nat.succ.inj h), and_assoc]

/-! ## Trees -/

/-- On these states, and on whatever is read later, the code records one result for each of the
visits.  The records are those of the state `t` exactly when the leaves were found as `t` has
them, and then the answer is the one expected. -/
def RecordedAs {α : Type} (entity : EntityId) (t : Registry) (leaves : List RequirementFields)
    (visits : List (List Nat × Requirement)) (expected : α) (nodes : List RequirementNodeResult)
    (reads : List Registry) (code : Code Registry (Evaluated α)) : Prop :=
  ∃ answer recorded,
    (∀ rest, code.replay (reads ++ rest) = some (some (answer, nodes ++ recorded), rest)) ∧
    recorded.length = visits.length ∧
    (recorded = Requirement.results (query t entity) entity visits ↔
      List.Forall₂ (FoundAs entity t) leaves reads) ∧
    (recorded = Requirement.results (query t entity) entity visits → answer = expected)

section Trees

variable {entity : EntityId} {t : Registry}

open Requirement

/-- A compound node is recorded behind its children. -/
theorem RecordedAs.compound {α : Type} {leaves : List RequirementFields}
    {visits : List (List Nat × Requirement)} {expected : α} {nodes : List RequirementNodeResult}
    {reads : List Registry} {code : Code Registry (Evaluated α)}
    (h : RecordedAs entity t leaves visits expected nodes reads code)
    (hRoom : nodes.length + visits.length < kMaxRequirementNodes) {position : List Nat}
    {requirement : Requirement} {judge : α → Verdict}
    (hVerdict : requirement.verdict (query t entity) = judge expected)
    (hResult : requirement.result (query t entity) entity position =
      compoundNode entity (pathText position) requirement.fields
        (requirement.verdict (query t entity))) :
    RecordedAs entity t leaves (visits ++ [(position, requirement)])
      (requirement.verdict (query t entity)).1 nodes reads
      (code.map (concludeCompound entity (pathText position) requirement.fields judge)) := by
  obtain ⟨answer, recorded, hReplay, hLength, hSame, hAnswer⟩ := h
  have hSplit : recorded ++ [compoundNode entity (pathText position) requirement.fields
      (judge answer)] = results (query t entity) entity (visits ++ [(position, requirement)]) ↔
        recorded = results (query t entity) entity visits := by
    rw [results, List.map_append, List.map_singleton, hResult, hVerdict]
    constructor
    · intro hBoth
      exact (List.append_inj hBoth (by rw [hLength, List.length_map])).1
    · intro hRecorded
      rw [hAnswer hRecorded]
      exact congrArg (· ++ _) hRecorded
  refine ⟨(judge answer).1, recorded ++ [compoundNode entity (pathText position)
    requirement.fields (judge answer)], fun rest => ?_, ?_, hSplit.trans hSame, fun hBoth => ?_⟩
  · rw [Code.map, replay_bind, hReplay]
    show some (some (_, recordNode (nodes ++ recorded) _), rest) = _
    rw [recordNode_room _ (by rw [List.length_append, hLength]; exact hRoom), List.append_assoc]
  · rw [List.length_append, List.length_append, hLength]
    rfl
  · rw [hAnswer (hSplit.1 hBoth), hVerdict]

/-- A leaf is recorded with what was found. -/
theorem recordedAs_leaf (hFlagged : t.Flagged) {read : Registry} (hRead : read.Flagged)
    {fields : RequirementFields} (hFits : fields.OperandFits)
    {nodes : List RequirementNodeResult} (hRoom : nodes.length < kMaxRequirementNodes)
    {position : List Nat} {requirement : Requirement}
    (hVerdict : requirement.verdict (query t entity) =
      (judgeLeaf fields (query t entity fields.capability)).getD (.undetermined, []))
    (hResult : requirement.result (query t entity) entity position =
      leafNode entity (pathText position) fields (query t entity fields.capability)
        (requirement.verdict (query t entity))) :
    RecordedAs entity t [fields] [(position, requirement)]
      (requirement.verdict (query t entity)).1 nodes [read]
      ((queryCode entity fields.capability).map
        (concludeLeaf entity (pathText position) fields nodes)) := by
  obtain ⟨found, hFound⟩ := judgeLeaf_isSome hFits (query read entity fields.capability)
  have hSame : [leafNode entity (pathText position) fields (query read entity fields.capability)
      found] = results (query t entity) entity [(position, requirement)] ↔
        List.Forall₂ (FoundAs entity t) [fields] [read] := by
    rw [results, List.map_singleton, hResult, List.forall₂_cons]
    constructor
    · intro hRecorded
      exact ⟨leafNode_shows (query_flagged hRead ..) (query_flagged hFlagged ..)
        (List.cons.inj hRecorded).1, .nil⟩
    · rintro ⟨hAgrees, -⟩
      rw [hVerdict, ← judgeLeaf_congr hAgrees, hFound, Option.getD_some]
      simp only [leafNode, hAgrees.state, hAgrees.hasValue, hAgrees.value]
  refine ⟨found.1, _, fun rest => ?_, rfl, hSame, fun hRecorded => ?_⟩
  · rw [Code.map, replay_bind]
    show some (concludeLeaf entity (pathText position) fields nodes
      (query read entity fields.capability), rest) = _
    rw [concludeLeaf, hFound, Option.map_some, recordNode_room _ hRoom]
  · rw [hVerdict, ← judgeLeaf_congr (List.forall₂_cons.1 (hSame.1 hRecorded)).1, hFound]
    rfl

mutual

/-- The records of a tree that keeps the rules. -/
theorem evaluateNode_recorded (hFlagged : t.Flagged) :
    ∀ (requirement : Requirement) {depth : Nat} {isRoot : Bool}, requirement.Shaped depth isRoot →
      ∀ (position : List Nat) (nodes : List RequirementNodeResult) (reads : List Registry),
        nodes.length + requirement.size ≤ kMaxRequirementNodes →
        reads.length = requirement.leaves.length → (∀ read ∈ reads, read.Flagged) →
        RecordedAs entity t requirement.leaves (requirement.postorder position)
          (requirement.verdict (query t entity)).1 nodes reads
          (evaluateNode entity (pathText position) nodes requirement)
  | .node fields children, depth, isRoot, hShaped, position, nodes, reads, hRoom, hReads,
      hReadFlagged => by
      cases hShaped with
      | node hDepth hRule hChildren =>
          rw [size] at hRoom
          have hVisits : nodes.length + (postorders position 0 children).length <
              kMaxRequirementNodes := by
            rw [length_postorders]
            omega
          unfold RequirementFields.Rule at hRule
          unfold evaluateNode
          rw [leaves] at hReads ⊢
          rw [postorder]
          cases hKind : fields.kind <;> rw [hKind] at hRule <;>
            simp only [hKind] at hReads ⊢
          case allOf =>
            have hBelow := evaluateChildren_recorded hFlagged children hChildren position 0 nodes
              reads (by omega) hReads hReadFlagged
            exact hBelow.compound hVisits (by simp only [verdict, hKind])
              (by simp only [result, Requirement.fields, hKind])
          case anyOf =>
            have hBelow := evaluateChildren_recorded hFlagged children hChildren position 0 nodes
              reads (by omega) hReads hReadFlagged
            exact hBelow.compound hVisits (by simp only [verdict, hKind])
              (by simp only [result, Requirement.fields, hKind])
          case negation =>
            match children, hRule.2 with
            | [child], _ =>
                simp only [leavesOf, List.append_nil] at hReads ⊢
                have hOnly : postorders position 0 [child] = child.postorder (position ++ [0]) := by
                  rw [postorders, postorders, List.append_nil]
                rw [hOnly] at hVisits ⊢
                have hBelow := evaluateNode_recorded hFlagged child
                  (hChildren child (List.mem_cons_self ..)) (position ++ [0]) nodes reads
                  (by rw [sizes, sizes] at hRoom; omega) hReads hReadFlagged
                have hPath : pathText (position ++ [0]) = pathText position ++ txt ".0" := by
                  rw [pathText_snoc, List.append_assoc]
                  exact congrArg _ (by decide)
                rw [hPath] at hBelow
                exact hBelow.compound hVisits (by simp only [verdict, hKind]; rfl)
                  (by simp only [result, Requirement.fields, hKind])
          all_goals
            obtain ⟨read, rfl⟩ := List.length_eq_one_iff.1 hReads
            obtain rfl := hRule.2.1
            exact recordedAs_leaf hFlagged (hReadFlagged read (List.mem_cons_self ..)) hRule.2.2
              (by omega) (by simp only [verdict, hKind])
              (by simp only [result, Requirement.fields, hKind])

theorem evaluateChildren_recorded (hFlagged : t.Flagged) :
    ∀ (children : List Requirement) {depth : Nat},
      (∀ child ∈ children, child.Shaped depth false) →
      ∀ (position : List Nat) (index : Nat) (nodes : List RequirementNodeResult)
        (reads : List Registry), nodes.length + sizes children ≤ kMaxRequirementNodes →
        reads.length = (leavesOf children).length → (∀ read ∈ reads, read.Flagged) →
        RecordedAs entity t (leavesOf children) (postorders position index children)
          (outcomes (query t entity) children) nodes reads
          (evaluateChildren entity (pathText position) index nodes children)
  | [], depth, _, position, index, nodes, reads, _, hReads, _ => by
      obtain rfl := List.length_eq_zero_iff.1 hReads
      refine ⟨[], [], fun rest => ?_, rfl, ?_, fun _ => rfl⟩
      · rw [evaluateChildren, List.append_nil]
        rfl
      · exact iff_of_true rfl .nil
  | child :: children, depth, hShaped, position, index, nodes, reads, hRoom, hReads,
      hReadFlagged => by
      rw [sizes] at hRoom
      rw [leavesOf, List.length_append] at hReads
      obtain ⟨first, later, hFirst, rfl⟩ : ∃ first later : List Registry,
          first.length = child.leaves.length ∧ reads = first ++ later :=
        ⟨reads.take child.leaves.length, reads.drop child.leaves.length,
          by rw [List.length_take]; omega, (List.take_append_drop ..).symm⟩
      rw [List.length_append] at hReads
      obtain ⟨outcome, recorded, hReplay, hLength, hSame, hOutcome⟩ :=
        evaluateNode_recorded hFlagged child (hShaped child (List.mem_cons_self ..))
          (position ++ [index]) nodes first (by omega) hFirst
          fun read hMem => hReadFlagged read (List.mem_append_left _ hMem)
      rw [length_postorder] at hLength
      obtain ⟨answers, behind, hReplayBehind, hLengthBehind, hSameBehind, hAnswers⟩ :=
        evaluateChildren_recorded hFlagged children
          (fun other hMem => hShaped other (List.mem_cons_of_mem _ hMem)) position (index + 1)
          (nodes ++ recorded) later (by rw [List.length_append, hLength]; omega) (by omega)
          fun read hMem => hReadFlagged read (List.mem_append_right _ hMem)
      rw [pathText_snoc] at hReplay
      have hSplit : recorded ++ behind = results (query t entity) entity
          (postorders position index (child :: children)) ↔
            recorded = results (query t entity) entity (child.postorder (position ++ [index])) ∧
              behind = results (query t entity) entity
                (postorders position (index + 1) children) := by
        rw [postorders, results, List.map_append]
        refine ⟨fun hBoth => List.append_inj hBoth ?_, fun hBoth => ?_⟩
        · rw [hLength, results, List.length_map, length_postorder]
        · rw [hBoth.1, hBoth.2]
          rfl
      refine ⟨outcome :: answers, recorded ++ behind, fun rest => ?_, ?_, ?_, fun hBoth => ?_⟩
      · rw [evaluateChildren, replay_bind, List.append_assoc first, hReplay]
        show ((evaluateChildren entity (pathText position) (index + 1) (nodes ++ recorded)
          children).map _).replay (later ++ rest) = _
        rw [Code.map, replay_bind, hReplayBehind, List.append_assoc]
        rfl
      · rw [postorders, List.length_append, List.length_append, hLength, hLengthBehind,
          length_postorder]
      · rw [hSplit, hSame, hSameBehind, leavesOf, forall₂_append hFirst.symm]
      · rw [hOutcome (hSplit.1 hBoth).1, hAnswers (hSplit.1 hBoth).2, outcomes]

end

end Trees

/-! ## Evaluations -/

/-- The state shows what an evaluation has read: the generation of the entity where it began,
and the capability of each leaf where it looked that up. -/
def ShowsReads (entity : EntityId) (requirement : Requirement) (t : Registry) :
    List Registry → Prop
  | [] => True
  | first :: reads =>
      shownGeneration t entity = shownGeneration first entity ∧
        List.Forall₂ (FoundAs entity t) requirement.leaves reads

section Evaluations

variable {entity : EntityId} {requirement : Requirement} {t : Registry}

/-- An accepted tree is looked up once for each of its leaves. -/
theorem evaluateNode_reads (hPermitted : requirement.Permitted) (hFlagged : t.Flagged)
    {reads : List Registry} (hReads : ∀ read ∈ reads, read.Flagged)
    {answer : Evaluated RequirementOutcome}
    (h : (evaluateNode entity (txt "0") [] requirement).replay reads = some (answer, [])) :
    reads.length = requirement.leaves.length := by
  obtain ⟨hShaped, hSize⟩ := Requirement.permitted_iff.1 hPermitted
  -- with enough states behind those that were read, as many are left as were added
  have hMore := replay_append h (List.replicate requirement.leaves.length t)
  generalize hAll : reads ++ List.replicate requirement.leaves.length t = all at hMore
  have hLength : reads.length + requirement.leaves.length = all.length := by
    rw [← hAll, List.length_append, List.length_replicate]
  have hAllFlagged : ∀ read ∈ all.take requirement.leaves.length, read.Flagged := by
    intro read hMem
    have hFrom := List.mem_of_mem_take hMem
    rw [← hAll, List.mem_append] at hFrom
    rcases hFrom with hFrom | hFrom
    · exact hReads read hFrom
    · rw [List.eq_of_mem_replicate hFrom]
      exact hFlagged
  obtain ⟨_, _, hReplay, -⟩ := (@evaluateNode_recorded entity _ hFlagged) requirement
    hShaped [] [] (all.take requirement.leaves.length) (by rw [List.length_nil]; omega)
    (by rw [List.length_take]; omega) hAllFlagged
  have hLeft := hReplay (all.drop requirement.leaves.length)
  rw [List.take_append_drop, show Requirement.pathText [] = txt "0" by decide, hMore] at hLeft
  have hRest := congrArg List.length (congrArg Prod.snd (Option.some.inj hLeft))
  rw [List.nil_append, List.length_replicate, List.length_drop] at hRest
  omega

/-- An evaluation answers as in the state `t` exactly when `t` shows what it has read. -/
theorem evaluate_shows_iff (hFlagged : t.Flagged) {seen : List Registry}
    (hSeen : ∀ read ∈ seen, read.Flagged) {answer : Option RequirementEvaluation}
    (h : (evaluateCode entity requirement).replay seen = some (answer, [])) :
    evaluate t entity requirement = answer ↔ ShowsReads entity requirement t seen := by
  cases hValid : validateRequirement requirement with
  | error e =>
      unfold evaluateCode at h
      rw [hValid] at h
      obtain ⟨rfl, rfl⟩ := Prod.mk.inj (Option.some.inj h)
      unfold evaluate evaluateCode
      rw [hValid]
      exact iff_of_true rfl trivial
  | ok _ =>
      have hPermitted := validateRequirement_iff.1 hValid
      obtain ⟨hShaped, hSize⟩ := Requirement.permitted_iff.1 hPermitted
      unfold evaluateCode at h
      rw [hValid] at h
      cases seen with
      | nil => cases h
      | cons first reads =>
          have hReadFlagged : ∀ read ∈ reads, read.Flagged := fun read hMem =>
            hSeen read (List.mem_cons_of_mem _ hMem)
          dsimp only at h
          rw [replay_bind, queryEntityCode, replay_reading, Option.bind_some] at h
          dsimp only at h
          rw [Code.map, replay_bind] at h
          obtain ⟨⟨evaluated, rest⟩, hNode, hAnswer⟩ := Option.bind_eq_some_iff.1 h
          obtain ⟨rfl, rfl⟩ := Prod.mk.inj (Option.some.inj hAnswer)
          have hLength := evaluateNode_reads hPermitted hFlagged hReadFlagged hNode
          obtain ⟨outcome, recorded, hReplay, -, hSame, hOutcome⟩ :=
            (@evaluateNode_recorded entity _ hFlagged) requirement hShaped [] [] reads
              (by rw [List.length_nil]; omega) hLength hReadFlagged
          have hRecorded := hReplay []
          rw [List.append_nil, show Requirement.pathText [] = txt "0" by decide, hNode] at hRecorded
          obtain ⟨rfl, -⟩ := Prod.mk.inj (Option.some.inj hRecorded)
          rw [evaluate_permitted t entity hPermitted, ShowsReads, ← hSame, Option.map_some,
            Option.some.injEq, List.nil_append]
          constructor
          · intro hEqual
            exact ⟨congrArg RequirementEvaluation.entityGeneration hEqual,
              (congrArg RequirementEvaluation.nodes hEqual).symm⟩
          · rintro ⟨hGeneration, hNodes⟩
            rw [hOutcome hNodes, hNodes, hGeneration]
            rfl

end Evaluations

end FabricCapability.Ports
