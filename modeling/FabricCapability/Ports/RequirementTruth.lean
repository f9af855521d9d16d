import FabricCapability.Ports.Replies
import FabricCapability.Ports.RequirementReports

/-!
# What is known decides a requirement

A leaf that demands proof is decided by a capability that is supported, and by no other.  So
whatever the registry learns about the capabilities that it does not know takes no answer
back: the evaluation is monotone in information, which is what the three-valued connectives
are for.

The documentation lets such a leaf fail closed on the three unproven states.  The evaluator
does so on an unsupported capability as well, which is a proven fact; a leaf that asks for the
state UNSUPPORTED can not be satisfied.

## Main results

* `evaluation_monotone`: a decided requirement stays decided.
* `proven_leaf_iff`: exactly where a leaf follows the documented rule.
* `unsupported_leaf_undetermined`: a leaf that asks for UNSUPPORTED, of an unsupported
  capability.
-/

namespace FabricCapability.Ports

open FabricCapability.Verified.KeyedList
open FabricCapability.Verified.Kleene

/-! ## Monotonicity -/

/-- The answers resolve the capability alike. -/
structure CapabilityQueryResult.Agrees (a b : CapabilityQueryResult) : Prop where
  state : b.state = a.state
  hasValue : b.hasValue = a.hasValue
  value : b.value = a.value

/-- The verdict on a leaf depends on the resolution. -/
theorem judgeLeaf_congr {a b : CapabilityQueryResult} (h : a.Agrees b)
    (fields : RequirementFields) : judgeLeaf fields b = judgeLeaf fields a := by
  unfold judgeLeaf judgeProven
  rw [h.state, h.hasValue, h.value]

/-- The answers of the second state keep what those of the first one prove. -/
def KeepsProven (before after : CapabilityId → CapabilityQueryResult) : Prop :=
  ∀ capability, (before capability).state = .supported ∨ (before capability).state = .unsupported →
    (before capability).Agrees (after capability)

/-- Every leaf of the tree demands proof. -/
def Requirement.DemandsProof (requirement : Requirement) : Prop :=
  ∀ position fields, requirement.At position fields [] → fields.requireProof = true

/-- The leaves of a tree are the node itself, or those below its children. -/
theorem demandsProof_node {fields : RequirementFields} {children : List Requirement} :
    (Requirement.node fields children).DemandsProof ↔
      (children = [] → fields.requireProof = true) ∧
        ∀ child ∈ children, child.DemandsProof := by
  constructor
  · intro h
    refine ⟨?_, fun child hMem position leaf hAt => ?_⟩
    · rintro rfl
      exact h [] fields rfl
    · obtain ⟨index, hIndex⟩ := List.mem_iff_getElem?.1 hMem
      exact h (index :: position) leaf (Option.bind_eq_some_iff.2 ⟨child, hIndex, hAt⟩)
  · rintro ⟨hRoot, hBelow⟩ position leaf hAt
    cases position with
    | nil =>
        cases hAt
        exact hRoot rfl
    | cons index position =>
        obtain ⟨child, hChild, hSub⟩ := Option.bind_eq_some_iff.1 hAt
        exact hBelow child (List.mem_of_getElem? hChild) position leaf hSub

/-- A leaf of an unproven capability is undetermined; another one is judged alike. -/
theorem judgeLeaf_refines {a b : CapabilityQueryResult} {fields : RequirementFields}
    (hProof : fields.requireProof = true)
    (hKeeps : a.state = .supported ∨ a.state = .unsupported → a.Agrees b) :
    ((judgeLeaf fields a).getD (.undetermined, [])).1.truth.Refines
      ((judgeLeaf fields b).getD (.undetermined, [])).1.truth := by
  by_cases hSupported : a.state = .supported
  · rw [judgeLeaf_congr (hKeeps (.inl hSupported))]
    exact Truth.Refines.refl _
  · intro hKnown
    have hLeaf : judgeLeaf fields a = some
        (if fields.requireProof then .undetermined else .notSatisfied,
          txt "capability resolves to " ++ capabilityStateName a.state ++
            if fields.requireProof then txt "; the requirement demands proof and fails closed"
            else txt "; an unproven capability is reported as not satisfied") := if_pos hSupported
    rw [hLeaf, hProof] at hKnown
    exact absurd rfl hKnown

/-- The verdict of the second state keeps what that of the first one knows. -/
theorem verdict_refines {before after : CapabilityId → CapabilityQueryResult}
    (hKeeps : KeepsProven before after) {requirement : Requirement} {depth : Nat} {isRoot : Bool}
    (hShaped : requirement.Shaped depth isRoot) (hProof : requirement.DemandsProof) :
    (requirement.verdict before).1.truth.Refines (requirement.verdict after).1.truth := by
  induction hShaped with
  | @node depth isRoot fields children hDepth hRule _ ih =>
      have hParts : List.Forall₂ Truth.Refines
          ((Requirement.outcomes before children).map RequirementOutcome.truth)
          ((Requirement.outcomes after children).map RequirementOutcome.truth) := by
        rw [Requirement.outcomes_eq, Requirement.outcomes_eq, List.map_map, List.map_map,
          List.forall₂_map_left_iff, List.forall₂_map_right_iff, List.forall₂_same]
        intro child hMem
        exact ih child hMem ((demandsProof_node.1 hProof).2 child hMem)
      unfold RequirementFields.Rule at hRule
      rw [Requirement.verdict, Requirement.verdict]
      cases hKind : fields.kind <;> rw [hKind] at hRule <;> dsimp only at hRule ⊢
      case allOf =>
        rw [judgeAllOf_truth, judgeAllOf_truth]
        exact Truth.all_refines hParts
      case anyOf =>
        rw [judgeAnyOf_truth, judgeAnyOf_truth]
        exact Truth.any_refines hParts
      case negation =>
        obtain ⟨child, rfl⟩ := List.length_eq_one_iff.1 hRule.2
        rw [judgeNot_truth, judgeNot_truth]
        exact Truth.not_refines (List.forall₂_cons.1 hParts).1
      all_goals
        obtain rfl := hRule.2.1
        exact judgeLeaf_refines (hProof [] fields rfl) (hKeeps fields.capability)

/-- Whatever becomes of the capabilities that are not proven in the first state, a requirement
that is decided there has the same outcome in the second. -/
theorem evaluation_monotone (before after : Registry) (entity : EntityId)
    (requirement : Requirement) (hValid : validateRequirement requirement = .ok ())
    (hProof : requirement.DemandsProof)
    (hKeeps : KeepsProven (query before entity) (query after entity))
    (evaluation : RequirementEvaluation)
    (hEvaluate : evaluate before entity requirement = some evaluation)
    (hDecided : evaluation.outcome ≠ .undetermined) :
    ∃ later, evaluate after entity requirement = some later ∧
      later.outcome = evaluation.outcome := by
  have hPermitted := validateRequirement_iff.1 hValid
  obtain ⟨hShaped, -⟩ := Requirement.permitted_iff.1 hPermitted
  obtain ⟨first, hFirst, hOutcome, -⟩ := evaluate_valid before entity hPermitted
  obtain ⟨later, hLater, hOutcomeLater, -⟩ := evaluate_valid after entity hPermitted
  obtain rfl := Option.some.inj (hEvaluate.symm.trans hFirst)
  refine ⟨later, hLater, ?_⟩
  rw [hOutcome] at hDecided
  rw [hOutcome, hOutcomeLater]
  refine RequirementOutcome.truth_injective (verdict_refines hKeeps hShaped hProof ?_)
  intro hUnknown
  exact hDecided (RequirementOutcome.truth_injective hUnknown)

/-! ## Leaves -/

/-- The unit of the quantities that the value exposes. -/
def CapabilityValue.comparableUnit (value : CapabilityValue) : Option QuantityUnit :=
  match value.storage with
  | .quantity q => some q.unit
  | .numericRange range => some range.unit
  | .numericSet set => some set.unit
  | _ => none

/-- The value is of a form that the leaf can be compared with. -/
def RequirementFields.Comparable (fields : RequirementFields) (value : CapabilityValue) : Prop :=
  match fields.kind with
  | .booleanEquals => value.kind = .boolean
  | .minimum | .maximum | .rangeContains | .inSet =>
      ∃ operand, fields.operand.asQuantity = some operand ∧
        value.comparableUnit = some operand.unit
  | .versionContains => value.kind = .versionInterval
  | .protocolSupported => value.kind = .protocolSet
  | .enumerationSupported => value.kind = .enumSet
  | _ => True

/-- The capability is not proven to be there or not. -/
def CapabilityState.Unproven (state : CapabilityState) : Prop :=
  state = .unknown ∨ state = .revalidationRequired ∨ state = .conflicted

/-- The documented rule for a leaf that demands proof. -/
structure FollowsProof (registry : Registry) (entity : EntityId) (fields : RequirementFields)
    (evaluation : RequirementEvaluation) : Prop where
  undetermined : evaluation.outcome = .undetermined ↔
    (query registry entity fields.capability).state.Unproven ∨
      ((query registry entity fields.capability).state = .supported ∧
        ¬fields.Comparable (query registry entity fields.capability).value)
  states : fields.kind = .stateIs →
    fields.requiredState = .supported ∨ fields.requiredState = .unsupported →
      (evaluation.outcome = .satisfied ↔
        (query registry entity fields.capability).state = fields.requiredState)

/-! ## What undetermines a supported leaf -/

theorem decided_ne {satisfied : Bool} {detail : String} {verdict : Verdict}
    (h : decided satisfied detail = some verdict) : verdict.1 ≠ .undetermined := by
  rw [← Option.some.inj h]
  cases satisfied <;> nofun

/-- A branch that compares values of one kind. -/
theorem guarded_undetermined_iff {answer : CapabilityQueryResult}
    (hFlagged : answer.hasValue = !answer.value.isAbsent) {kind : ValueKind}
    (hKind : kind ≠ .absent) {detail : String} {compare : Option Verdict} {verdict : Verdict}
    (hCompare : compare = some verdict → verdict.1 ≠ .undetermined)
    (h : (if !answer.hasValue || answer.value.kind ≠ kind then undetermined detail else compare) =
      some verdict) : verdict.1 = .undetermined ↔ ¬answer.value.kind = kind := by
  by_cases hSame : answer.value.kind = kind
  · have hPresent : answer.hasValue = true := by
      rw [hFlagged, CapabilityValue.isAbsent, hSame]
      cases kind <;> first | rfl | exact absurd rfl hKind
    rw [if_neg (by simp [hPresent, hSame])] at h
    exact iff_of_false (hCompare h) (not_not.2 hSame)
  · rw [if_pos (by simp [hSame])] at h
    rw [← Option.some.inj h]
    exact iff_of_true rfl hSame

theorem extractQuantity_unit (value : CapabilityValue) :
    (extractQuantity value).present = value.comparableUnit.isSome ∧
      (extractQuantity value).unit = value.comparableUnit.getD .none := by
  unfold extractQuantity CapabilityValue.comparableUnit
  cases value.storage <;> exact ⟨rfl, rfl⟩

theorem compareQuantity_ne {kind : RequirementKind} {quantity : ObservedQuantity}
    {operand : UInt64} {verdict : Verdict} (h : compareQuantity kind quantity operand = some verdict) :
    verdict.1 ≠ .undetermined := by
  unfold compareQuantity at h
  split at h <;> exact decided_ne h

theorem quantity_undetermined_iff {fields : RequirementFields} {value : CapabilityValue}
    (hOperand : fields.operand.kind = .quantity) {verdict : Verdict}
    (h : (if !(extractQuantity value).present then
        undetermined "the capability does not expose a comparable quantity"
      else do
        let operand ← fields.operand.asQuantity
        if (extractQuantity value).unit ≠ operand.unit then
          undetermined "the requirement unit does not match the capability unit"
        else compareQuantity fields.kind (extractQuantity value) operand.value) = some verdict) :
    verdict.1 = .undetermined ↔ ¬∃ operand, fields.operand.asQuantity = some operand ∧
      value.comparableUnit = some operand.unit := by
  obtain ⟨hPresent, hUnit⟩ := extractQuantity_unit value
  obtain ⟨operand, hHeld⟩ := asQuantity_isSome hOperand
  rw [hPresent, hUnit, hHeld] at h
  simp only [hHeld, Option.some.injEq, exists_eq_left']
  cases hExposed : value.comparableUnit with
  | none =>
      rw [hExposed] at h
      rw [← Option.some.inj h]
      exact iff_of_true rfl nofun
  | some unit =>
      rw [hExposed] at h
      have hCompared : (if unit ≠ operand.unit then
          undetermined "the requirement unit does not match the capability unit"
        else compareQuantity fields.kind (extractQuantity value) operand.value) = some verdict := h
      by_cases hSame : unit = operand.unit
      · rw [if_neg (not_not.2 hSame)] at hCompared
        exact iff_of_false (compareQuantity_ne hCompared) (not_not.2 (congrArg some hSame))
      · rw [if_pos hSame] at hCompared
        rw [← Option.some.inj hCompared]
        exact iff_of_true rfl fun hEqual => hSame (Option.some.inj hEqual)

/-- A leaf of a supported capability is undetermined exactly when it can not be compared with
the value. -/
theorem proven_undetermined_iff {fields : RequirementFields} {answer : CapabilityQueryResult}
    (hRule : fields.Rule true []) (hFlagged : answer.hasValue = !answer.value.isAbsent)
    {verdict : Verdict} (h : judgeProven fields answer = some verdict) :
    verdict.1 = .undetermined ↔ ¬fields.Comparable answer.value := by
  unfold judgeProven at h
  unfold RequirementFields.Rule RequirementFields.OperandFits at hRule
  unfold RequirementFields.Comparable
  cases hKind : fields.kind <;> rw [hKind] at hRule h <;> dsimp only at hRule h ⊢
  case stateIs => exact iff_of_false (decided_ne h) (not_not.2 trivial)
  case booleanEquals =>
    refine guarded_undetermined_iff hFlagged ?_ (fun hCompare => ?_) h
    · nofun
    · obtain ⟨observed, -, hCompare⟩ := Option.bind_eq_some_iff.1 hCompare
      obtain ⟨operand, -, hCompare⟩ := Option.bind_eq_some_iff.1 hCompare
      exact decided_ne hCompare
  case minimum => exact quantity_undetermined_iff hRule.2.2 (hKind ▸ h)
  case maximum => exact quantity_undetermined_iff hRule.2.2 (hKind ▸ h)
  case rangeContains => exact quantity_undetermined_iff hRule.2.2 (hKind ▸ h)
  case inSet => exact quantity_undetermined_iff hRule.2.2 (hKind ▸ h)
  case versionContains =>
    refine guarded_undetermined_iff hFlagged ?_ (fun hCompare => ?_) h
    · nofun
    · obtain ⟨interval, -, hCompare⟩ := Option.bind_eq_some_iff.1 hCompare
      exact decided_ne hCompare
  case protocolSupported =>
    refine guarded_undetermined_iff hFlagged ?_ (fun hCompare => ?_) h
    · nofun
    · obtain ⟨set, -, hCompare⟩ := Option.bind_eq_some_iff.1 hCompare
      exact decided_ne hCompare
  case enumerationSupported =>
    refine guarded_undetermined_iff hFlagged ?_ (fun hCompare => ?_) h
    · nofun
    · obtain ⟨set, -, hCompare⟩ := Option.bind_eq_some_iff.1 hCompare
      exact decided_ne hCompare
  case allOf => exact absurd rfl hRule
  case anyOf => exact absurd rfl hRule
  case negation => cases hRule.1

/-! ## Leaves that demand proof -/

/-- The flag of an answer says whether there is a value. -/
theorem query_flagged {registry : Registry} (h : registry.Flagged) (entity : EntityId)
    (capability : CapabilityId) :
    (query registry entity capability).hasValue =
      !(query registry entity capability).value.isAbsent := by
  unfold query
  dsimp only
  split
  · rfl
  · rename_i record hFound
    have hRecord : record ∈ registry.entities := lookup_mem hFound
    split
    · rfl
    · rename_i entry hEntry
      split
      · exact (h record hRecord).held entry (lookup_mem hEntry)
      · rfl

/-- The evaluation of a single leaf is the verdict on it. -/
theorem evaluate_leaf (registry : Registry) (entity : EntityId) {fields : RequirementFields}
    (hPermitted : (Requirement.node fields []).Permitted) :
    ∃ evaluation verdict, evaluate registry entity (.node fields []) = some evaluation ∧
      judgeLeaf fields (query registry entity fields.capability) = some verdict ∧
        evaluation.outcome = verdict.1 := by
  have hRule : fields.Rule true [] := hPermitted.rules [] fields [] rfl
  obtain ⟨evaluation, hEvaluate, hOutcome, -⟩ := evaluate_valid registry entity hPermitted
  rw [Requirement.verdict] at hOutcome
  unfold RequirementFields.Rule at hRule
  cases hKind : fields.kind <;> rw [hKind] at hRule hOutcome <;> dsimp only at hRule hOutcome
  case allOf => exact absurd rfl hRule
  case anyOf => exact absurd rfl hRule
  case negation => cases hRule.1
  all_goals
    obtain ⟨verdict, hVerdict⟩ :=
      judgeLeaf_isSome hRule.2.2 (query registry entity fields.capability)
    rw [hVerdict, Option.getD_some] at hOutcome
    exact ⟨evaluation, verdict, hEvaluate, hVerdict, hOutcome⟩

/-- A leaf of a capability that is not supported fails closed. -/
theorem unproven_leaf {fields : RequirementFields} {answer : CapabilityQueryResult}
    (hProof : fields.requireProof = true) (hState : answer.state ≠ .supported) {verdict : Verdict}
    (h : judgeLeaf fields answer = some verdict) : verdict.1 = .undetermined := by
  unfold judgeLeaf at h
  rw [if_pos hState, hProof] at h
  rw [← Option.some.inj h]
  rfl

theorem stateIs_satisfied_iff {fields : RequirementFields} {answer : CapabilityQueryResult}
    (hKind : fields.kind = .stateIs) (hState : answer.state = .supported) {verdict : Verdict}
    (h : judgeLeaf fields answer = some verdict) :
    verdict.1 = .satisfied ↔ answer.state = fields.requiredState := by
  unfold judgeLeaf judgeProven at h
  rw [if_neg (not_not.2 hState), hKind] at h
  rw [← Option.some.inj h]
  by_cases hSame : answer.state = fields.requiredState <;> simp [hSame]

/-- In every reachable state a leaf that demands proof follows the documented rule exactly
when its capability is not unsupported. -/
theorem proven_leaf_iff (options : Options) (operations : List Operation) (entity : EntityId)
    (fields : RequirementFields) (hValid : validateRequirement (.node fields []) = .ok ())
    (hProof : fields.requireProof = true) :
    (∃ evaluation,
      evaluate (afterRun options operations) entity (.node fields []) = some evaluation ∧
        FollowsProof (afterRun options operations) entity fields evaluation) ↔
      (query (afterRun options operations) entity fields.capability).state ≠ .unsupported := by
  have hPermitted := validateRequirement_iff.1 hValid
  have hFlagged := query_flagged (run_flagged options operations) entity fields.capability
  generalize hRegistry : afterRun options operations = registry at hFlagged ⊢
  have hRule : fields.Rule true [] := hPermitted.rules [] fields [] rfl
  obtain ⟨evaluation, verdict, hEvaluate, hVerdict, hOutcome⟩ :=
    evaluate_leaf registry entity hPermitted
  constructor
  · rintro ⟨other, hOther, hFollows⟩ hState
    obtain rfl := Option.some.inj (hEvaluate.symm.trans hOther)
    have hClosed : verdict.1 = .undetermined :=
      unproven_leaf hProof (by rw [hState]; nofun) hVerdict
    rcases hFollows.undetermined.1 (hOutcome.trans hClosed) with hUnproven | ⟨hSupported, -⟩
    · rw [hState] at hUnproven
      rcases hUnproven with hUnproven | hUnproven | hUnproven <;> cases hUnproven
    · rw [hState] at hSupported
      cases hSupported
  · intro hState
    refine ⟨evaluation, hEvaluate, ?_⟩
    by_cases hSupported : (query registry entity fields.capability).state = .supported
    · constructor
      · have hProven : judgeProven fields (query registry entity fields.capability) = some verdict := by
          rw [← hVerdict, judgeLeaf, if_neg (not_not.2 hSupported)]
        rw [hOutcome, proven_undetermined_iff hRule hFlagged hProven, hSupported]
        simp [CapabilityState.Unproven]
      · intro hKind _
        rw [hOutcome]
        exact stateIs_satisfied_iff hKind hSupported hVerdict
    · have hClosed : evaluation.outcome = .undetermined :=
        hOutcome.trans (unproven_leaf hProof hSupported hVerdict)
      have hUnproven : (query registry entity fields.capability).state.Unproven := by
        unfold CapabilityState.Unproven
        cases hCase : (query registry entity fields.capability).state <;> simp_all
      constructor
      · exact iff_of_true hClosed (.inl hUnproven)
      · intro _ hRequired
        rw [hClosed]
        refine iff_of_false nofun fun hSame => ?_
        rcases hRequired with hRequired | hRequired
        · exact hSupported (hSame.trans hRequired)
        · exact hState (hSame.trans hRequired)

namespace Sample

/-- The capability is declared to be unsupported. -/
def denied : List Operation :=
  setup ++ [.publish (publication bootOne "attempt-1" 1 0 (claim .unsupported .processBound))]

def unsupportedFields : RequirementFields :=
  { capability := capability, requiredState := .unsupported }

theorem denied_unsupported : (query (afterRun {} denied) entity capability).state = .unsupported := by
  decide +kernel

end Sample

/-- A capability that the entity has no entry for is not known. -/
theorem query_unheld {registry : Registry} {entity : EntityId} {capability : CapabilityId}
    (h : ∀ record ∈ registry.entities, capability ∉ record.capabilities.map (·.id)) :
    (query registry entity capability).state = .unknown := by
  unfold query
  dsimp only
  split
  · rfl
  · rename_i record hFound
    have hNone : record.findCapability capability = none :=
      lookup_eq_none.2 (h record (lookup_mem hFound))
    rw [hNone]
    rfl

namespace Sample

/-- Telemetry is published behind the number and the isolation of the queues. -/
def telemetryFound : Operation :=
  .publish (publication bootOne "attempt-2" 1 1
    { claim .supported .processBound with
      capability := perQueueTelemetry, value := .boolean true })

def telemetryKnown : Registry := telemetryFound.apply (afterRun {} queuesKnown)

theorem queues_held : ∀ record ∈ (afterRun {} queuesKnown).entities,
    record.capabilities.map (·.id) = [capability, receiveQueues] := by
  decide +kernel

theorem telemetryKnown_shows :
    (∀ id ∈ [capability, receiveQueues],
      (query telemetryKnown entity id).state = (query (afterRun {} queuesKnown) entity id).state ∧
        (query telemetryKnown entity id).hasValue =
          (query (afterRun {} queuesKnown) entity id).hasValue ∧
        (query telemetryKnown entity id).value =
          (query (afterRun {} queuesKnown) entity id).value) ∧
      (query telemetryKnown entity perQueueTelemetry).state = .supported ∧
      (requireCurrent telemetryKnown entity 1).isOk = true ∧
      shownGeneration telemetryKnown entity =
        shownGeneration (afterRun {} queuesKnown) entity := by decide +kernel

theorem telemetry_keeps_queues : ∀ id ∈ [capability, receiveQueues],
    (query (afterRun {} queuesKnown) entity id).Agrees (query telemetryKnown entity id) := by
  intro id hMem
  obtain ⟨hState, hHas, hValue⟩ := telemetryKnown_shows.1 id hMem
  exact ⟨hState, hHas, hValue⟩

/-- The telemetry was not known before, so it may become anything. -/
theorem telemetry_keepsProven :
    KeepsProven (query (afterRun {} queuesKnown) entity) (query telemetryKnown entity) := by
  intro id hProven
  by_cases hHeld : id ∈ [capability, receiveQueues]
  · exact telemetry_keeps_queues id hHeld
  · rw [query_unheld fun record hRecord => by rwa [queues_held record hRecord]] at hProven
    rcases hProven with hProven | hProven <;> cases hProven

end Sample

/-- The need of isolated queues, which are 64 or without telemetry, is satisfied where nothing
is known of the telemetry, and still is when there turns out to be telemetry. -/
theorem evaluation_monotone_queues :
    (query (afterRun {} Sample.queuesKnown) Sample.entity Sample.perQueueTelemetry).state =
        .unknown ∧
      (query Sample.telemetryKnown Sample.entity Sample.perQueueTelemetry).state = .supported ∧
      ∃ evaluation later,
        evaluate (afterRun {} Sample.queuesKnown) Sample.entity Sample.queueNeeds =
            some evaluation ∧
          evaluation.outcome = .satisfied ∧
          evaluate Sample.telemetryKnown Sample.entity Sample.queueNeeds = some later ∧
          later.outcome = evaluation.outcome := by
  have hValid : validateRequirement Sample.queueNeeds = .ok () := by decide
  have hOutcome : (evaluate (afterRun {} Sample.queuesKnown) Sample.entity
      Sample.queueNeeds).map (·.outcome) = some .satisfied := by decide +kernel
  obtain ⟨evaluation, hEvaluate, hSatisfied⟩ := Option.map_eq_some_iff.1 hOutcome
  have hProof : Sample.queueNeeds.DemandsProof := by
    simp [Sample.queueNeeds, Sample.negationOf, demandsProof_node]
  refine ⟨by decide +kernel, Sample.telemetryKnown_shows.2.1, evaluation, ?_⟩
  obtain ⟨later, hLater, hSame⟩ := evaluation_monotone (afterRun {} Sample.queuesKnown)
    Sample.telemetryKnown Sample.entity Sample.queueNeeds hValid hProof
    Sample.telemetry_keepsProven evaluation hEvaluate (by rw [hSatisfied]; nofun)
  exact ⟨later, hEvaluate, hSatisfied, hLater, hSame⟩

/-- A leaf of an entity that is not known is undetermined. -/
theorem proven_leaf_unknown :
    ∃ evaluation,
      evaluate (afterRun {} []) Sample.entity (.node Sample.unsupportedFields []) =
          some evaluation ∧
        FollowsProof (afterRun {} []) Sample.entity Sample.unsupportedFields evaluation :=
  (proven_leaf_iff {} [] Sample.entity Sample.unsupportedFields (by decide) rfl).2 (by decide)

/-- The leaf that asks whether the capability is unsupported, of one that is. -/
theorem unsupported_leaf_undetermined :
    ¬ ∀ (options : Options) (operations : List Operation) (entity : EntityId)
      (fields : RequirementFields), validateRequirement (.node fields []) = .ok () →
        fields.requireProof = true → ∃ evaluation,
          evaluate (afterRun options operations) entity (.node fields []) = some evaluation ∧
            FollowsProof (afterRun options operations) entity fields evaluation := by
  intro h
  have hValid : validateRequirement (.node Sample.unsupportedFields []) = .ok () := by decide
  obtain ⟨evaluation, hEvaluate, hFollows⟩ :=
    h {} Sample.denied Sample.entity Sample.unsupportedFields hValid rfl
  have hSatisfied := (hFollows.states rfl (.inr rfl)).2 Sample.denied_unsupported
  obtain ⟨other, verdict, hOther, hVerdict, hOutcome⟩ :=
    evaluate_leaf (afterRun {} Sample.denied) Sample.entity (validateRequirement_iff.1 hValid)
  obtain rfl := Option.some.inj (hEvaluate.symm.trans hOther)
  have hNotSupported : (query (afterRun {} Sample.denied) Sample.entity
      Sample.unsupportedFields.capability).state ≠ .supported := by
    show (query (afterRun {} Sample.denied) Sample.entity Sample.capability).state ≠ .supported
    rw [Sample.denied_unsupported]
    nofun
  rw [hOutcome, unproven_leaf rfl hNotSupported hVerdict] at hSatisfied
  cases hSatisfied

end FabricCapability.Ports
