import FabricCapability.Ports.Calls
import FabricCapability.Ports.EvaluationReads
import FabricCapability.Ports.SetHistory

/-!
# Reads among other callers

A lookup that names a generation checks it under the lock, gives the lock back, and looks up
under the lock once more; `Evaluate` looks up one leaf after the other.  Other callers may
change the registry in between, so such a call need not answer as it would in any one state.

A lookup does when the generation is still the current one where it looks up, and an
evaluation when some state that the registry goes through shows the generation and the
capabilities as they were found.

## Main results

* `queryAt_linear_iff`, `queryEntityAt_linear_iff`, `evaluate_linear_iff`: exactly when a call
  answers as in one state.
* `reads_answer_as_one_state`: all three calls.
* `overtaken_query_answers`: an entity that moves on between the check and the lookup.
-/

namespace FabricCapability.Ports

open FabricCapability.Verified.KeyedList
open FabricCapability.Verified.LockedCode
open FabricCapability.Verified.Runs

/-- A section of another caller: one operation.  A batch is one section for each of its
requests. -/
def Changes (before after : Registry) : Prop :=
  ∃ operation : Operation, after = operation.apply before

/-- The call, among other callers, goes through `states`, reads in those that are `seen`, and
answers. -/
abbrev AnsweredBy {α : Type} (registry : Registry) (code : Code Registry α)
    (states seen : List Registry) (answer : α) : Prop :=
  Execution Changes false registry code states seen answer

/-- The generation is the current one of the entity in the state in which the call reads
last, or it was not where the call checked it. -/
def StillCurrent (entity : EntityId) (generation : EntityGeneration)
    (seen : List Registry) : Prop :=
  (∀ first ∈ seen.head?, (requireCurrent first entity generation).isOk = false) ∨
    ∀ last ∈ seen.getLast?, (requireCurrent last entity generation).isOk = true

theorem requireCurrent_ok {registry : Registry} {entity : EntityId}
    {generation : EntityGeneration} :
    requireCurrent registry entity generation = .ok () ↔
      ∃ record, registry.findEntity entity = some record ∧
        record.currentGeneration = generation := by
  unfold requireCurrent
  cases registry.findEntity entity with
  | none => simp [unknownEntity, failure]
  | some record =>
      by_cases hSame : generation = record.currentGeneration
      · simp [hSame]
      · simp [hSame, failure, Ne.symm hSame]

/-! ## Lookups for a generation -/

section Checked

variable {registry : Registry} {α : Type} {check : Registry → Outcome Unit}
  {body : Registry → Outcome α} {states seen : List Registry} {answer : Outcome α}

/-- The check fails in the state that the call sees, or the answer is looked up in a later
one. -/
theorem execution_checked
    (h : AnsweredBy registry (checkedCode check (.reading body)) states seen answer) :
    ∃ first ∈ states,
      (∃ e, check first = .error e ∧ seen = [first] ∧ answer = .error e) ∨
        (check first = .ok () ∧
          ∃ last ∈ states, seen = [first, last] ∧ answer = body last) := by
  obtain ⟨first, later, laterSeen, hFirst, hSeen, hLater, hRest⟩ := execution_reading_bind h
  refine ⟨first, hFirst, ?_⟩
  cases hCheck : check first with
  | error e =>
      rw [hCheck] at hRest
      obtain ⟨hAnswer, hNone⟩ := execution_done hRest
      exact .inl ⟨e, rfl, by rw [hSeen, hNone], hAnswer⟩
  | ok _ =>
      rw [hCheck] at hRest
      obtain ⟨last, hLast, hSeenLast, hAnswer⟩ := execution_reading hRest
      exact .inr ⟨rfl, last, hLater last hLast, by rw [hSeen, hSeenLast], hAnswer⟩

end Checked

section Generation

variable {registry : Registry} {entity : EntityId} {generation : EntityGeneration}
  {capability : CapabilityId} {states seen : List Registry}

theorem queryAt_error {e : Error} (h : requireCurrent registry entity generation = .error e) :
    queryAt registry entity generation capability = .error e := by
  unfold queryAt
  rw [h]
  rfl

theorem queryAt_current (h : requireCurrent registry entity generation = .ok ()) :
    queryAt registry entity generation capability = .ok (query registry entity capability) := by
  unfold queryAt
  rw [h]
  rfl

/-- What `Query` shows of a generation is its current one. -/
theorem query_generation {record : EntityState} (h : registry.findEntity entity = some record) :
    (query registry entity capability).entityKnown = true ∧
      (query registry entity capability).entityGeneration = record.currentGeneration := by
  unfold query
  rw [h]
  dsimp only
  cases record.findCapability capability with
  | none => exact ⟨rfl, rfl⟩
  | some entry =>
      dsimp only
      split <;> exact ⟨rfl, rfl⟩

theorem query_unknown (h : registry.findEntity entity = none) :
    (query registry entity capability).entityKnown = false := by
  unfold query
  rw [h]

/-- A successful answer for a generation shows that generation. -/
theorem queryAt_generation {result : CapabilityQueryResult}
    (h : queryAt registry entity generation capability = .ok result) :
    result.entityKnown = true ∧ result.entityGeneration = generation := by
  cases hCurrent : requireCurrent registry entity generation with
  | error e =>
      rw [queryAt_error hCurrent] at h
      cases h
  | ok _ =>
      rw [queryAt_current hCurrent] at h
      cases h
      obtain ⟨record, hFound, rfl⟩ := requireCurrent_ok.1 hCurrent
      exact query_generation hFound

/-- A `Query` for a generation answers as in a single state that the registry goes through
exactly when the generation is still current where it looks up. -/
theorem queryAt_linear_iff {answer : Outcome CapabilityQueryResult}
    (h : AnsweredBy registry (queryAtCode entity generation capability) states seen answer) :
    (∃ t ∈ states, queryAt t entity generation capability = answer) ↔
      StillCurrent entity generation seen := by
  obtain ⟨first, hFirst, ⟨e, hCheck, rfl, rfl⟩ | ⟨hCheck, last, hLast, rfl, rfl⟩⟩ :=
    execution_checked h
  · refine iff_of_true ⟨first, hFirst, queryAt_error hCheck⟩ (.inl ?_)
    simp [hCheck, Except.isOk, Except.toBool]
  · constructor
    · rintro ⟨t, -, ht⟩
      obtain ⟨hKnown, hGeneration⟩ := queryAt_generation ht
      right
      intro u hu
      obtain rfl : last = u := by simpa using hu
      cases hFound : last.findEntity entity with
      | none =>
          rw [query_unknown hFound] at hKnown
          cases hKnown
      | some record =>
          rw [(query_generation hFound).2] at hGeneration
          rw [requireCurrent_ok.2 ⟨record, hFound, hGeneration⟩]
          rfl
    · intro hStill
      refine ⟨last, hLast, queryAt_current ?_⟩
      rcases hStill with hFailed | hCurrent
      · have hNot := hFailed first rfl
        rw [hCheck] at hNot
        cases hNot
      · have hOk := hCurrent last rfl
        cases hLookup : requireCurrent last entity generation with
        | error e =>
            rw [hLookup] at hOk
            cases hOk
        | ok _ => rfl

theorem queryEntityAt_current (h : requireCurrent registry entity generation = .ok ()) :
    queryEntityAt registry entity generation = queryEntity registry entity := by
  unfold queryEntityAt
  rw [h]
  rfl

theorem queryEntityAt_error {e : Error}
    (h : requireCurrent registry entity generation = .error e) :
    queryEntityAt registry entity generation = .error e := by
  unfold queryEntityAt
  rw [h]
  rfl

/-- A successful answer is the set of an entity whose current generation is the requested
one. -/
theorem queryEntityAt_generation {set : EntityCapabilitySet}
    (h : queryEntityAt registry entity generation = .ok set) :
    ∃ record, registry.findEntity entity = some record ∧
      record.currentGeneration = generation ∧
      set = record.set.getD (emptySet registry.registryGeneration record) := by
  cases hCurrent : requireCurrent registry entity generation with
  | error e =>
      rw [queryEntityAt_error hCurrent] at h
      cases h
  | ok _ =>
      rw [queryEntityAt_current hCurrent, queryEntity] at h
      obtain ⟨record, hFound, hGeneration⟩ := requireCurrent_ok.1 hCurrent
      rw [hFound] at h
      cases h
      exact ⟨record, hFound, hGeneration, rfl⟩

/-- The generation is still current where the call looks up, or the entity is not known there
any more. -/
def StillCurrentOrGone (entity : EntityId) (generation : EntityGeneration)
    (seen : List Registry) : Prop :=
  StillCurrent entity generation seen ∨ ∀ last ∈ seen.getLast?, last.findEntity entity = none

theorem queryEntityAt_linear {answer : Outcome EntityCapabilitySet}
    (h : AnsweredBy registry (queryEntityAtCode entity generation) states seen answer)
    (hStill : StillCurrentOrGone entity generation seen) :
    ∃ t ∈ states, queryEntityAt t entity generation = answer := by
  obtain ⟨first, hFirst, ⟨e, hCheck, rfl, rfl⟩ | ⟨hCheck, last, hLast, rfl, rfl⟩⟩ :=
    execution_checked h
  · exact ⟨first, hFirst, queryEntityAt_error hCheck⟩
  · refine ⟨last, hLast, ?_⟩
    rcases hStill with (hFailed | hCurrent) | hGone
    · have hNot := hFailed first rfl
      rw [hCheck] at hNot
      cases hNot
    · have hOk := hCurrent last rfl
      cases hLookup : requireCurrent last entity generation with
      | error e =>
          rw [hLookup] at hOk
          cases hOk
      | ok _ => exact queryEntityAt_current hLookup
    · have hNone : last.findEntity entity = none := hGone last rfl
      have hError : requireCurrent last entity generation = unknownEntity entity := by
        rw [requireCurrent, hNone]
      rw [queryEntityAt_error hError, queryEntity, hNone]
      rfl

/-- The set that is published of the entity is labelled with its current generation. -/
def Registry.Labelled (registry : Registry) (entity : EntityId) : Prop :=
  ∀ record, registry.findEntity entity = some record →
    ∀ set ∈ record.set, set.entityGeneration = record.currentGeneration

/-- The label is right unless a file was loaded that binds the entity to another generation
than its current one. -/
theorem run_labelled {options : Options} {operations : List Operation}
    (hRun : Guarded Operation.apply NoLoad (Registry.init options) operations)
    (entity : EntityId) : (afterRun options operations).Labelled entity := by
  intro record hFound set hSet
  exact ((run_lineage hRun record (lookup_mem hFound)).descends set hSet).generation

/-- The answer shows the current generation of the entity. -/
theorem Registry.Labelled.answer (h : registry.Labelled entity) {record : EntityState}
    (hFound : registry.findEntity entity = some record) :
    (record.set.getD (emptySet registry.registryGeneration record)).entityGeneration =
      record.currentGeneration := by
  cases hSet : record.set with
  | none => rfl
  | some set => exact h record hFound set hSet

/-- A `QueryEntity` for a generation answers as in a single state exactly when the generation
is still current where it looks up, or the entity is not known there any more. -/
theorem queryEntityAt_linear_iff {answer : Outcome EntityCapabilitySet}
    (hLabelled : ∀ t ∈ states, t.Labelled entity)
    (h : AnsweredBy registry (queryEntityAtCode entity generation) states seen answer) :
    (∃ t ∈ states, queryEntityAt t entity generation = answer) ↔
      StillCurrentOrGone entity generation seen := by
  refine ⟨?_, queryEntityAt_linear h⟩
  rintro ⟨t, hMem, ht⟩
  obtain ⟨first, hFirst, ⟨e, hCheck, rfl, rfl⟩ | ⟨hCheck, last, hLast, rfl, rfl⟩⟩ :=
    execution_checked h
  · refine .inl (.inl ?_)
    simp [hCheck, Except.isOk, Except.toBool]
  · cases hFound : last.findEntity entity with
    | none =>
        refine .inr fun u hu => ?_
        obtain rfl : last = u := by simpa using hu
        exact hFound
    | some record =>
        have hShown : queryEntity last entity =
            .ok (record.set.getD (emptySet last.registryGeneration record)) := by
          rw [queryEntity, hFound]
        rw [hShown] at ht
        obtain ⟨held, hHeld, hGeneration, hSet⟩ := queryEntityAt_generation ht
        have hLabel := congrArg EntityCapabilitySet.entityGeneration hSet
        rw [(hLabelled last hLast).answer hFound, (hLabelled t hMem).answer hHeld,
          hGeneration] at hLabel
        refine .inl (.inr fun u hu => ?_)
        obtain rfl : last = u := by simpa using hu
        rw [requireCurrent_ok.2 ⟨record, hFound, hLabel⟩]
        rfl

end Generation

/-! ## Evaluations -/

mutual

theorem evaluateNode_readOnly (entity : EntityId) (path : Bytes)
    (nodes : List RequirementNodeResult) :
    ∀ requirement, ReadOnly (evaluateNode entity path nodes requirement)
  | .node fields children => by
      unfold evaluateNode
      split
      · exact readOnly_map (evaluateChildren_readOnly entity path 0 nodes children)
      · exact readOnly_map (evaluateChildren_readOnly entity path 0 nodes children)
      · cases children with
        | nil => trivial
        | cons child rest => exact readOnly_map (evaluateNode_readOnly entity _ nodes child)
      · exact readOnly_map readOnly_reading

theorem evaluateChildren_readOnly (entity : EntityId) (path : Bytes) (index : Nat)
    (nodes : List RequirementNodeResult) :
    ∀ children, ReadOnly (evaluateChildren entity path index nodes children)
  | [] => trivial
  | child :: children => by
      unfold evaluateChildren
      refine readOnly_bind (evaluateNode_readOnly entity _ nodes child) fun evaluated => ?_
      cases evaluated with
      | none => trivial
      | some answered => exact readOnly_map (evaluateChildren_readOnly entity path _ _ children)

end

theorem evaluateCode_readOnly (entity : EntityId) (requirement : Requirement) :
    ReadOnly (evaluateCode entity requirement) := by
  unfold evaluateCode
  split
  · trivial
  · exact readOnly_bind readOnly_reading fun _ =>
      readOnly_map (evaluateNode_readOnly entity _ _ requirement)

/-- An evaluation answers as in a single state that the registry goes through exactly when
one of these shows what it has read. -/
theorem evaluate_linear_iff {registry : Registry} (hFlagged : registry.Flagged)
    {entity : EntityId} {requirement : Requirement} {states seen : List Registry}
    {answer : Option RequirementEvaluation}
    (h : AnsweredBy registry (evaluateCode entity requirement) states seen answer) :
    (∃ t ∈ states, evaluate t entity requirement = answer) ↔
      ∃ t ∈ states, ShowsReads entity requirement t seen := by
  have hChanges : ∀ a b, Changes a b → a.Flagged → b.Flagged := by
    rintro a _ ⟨operation, rfl⟩ ha
    exact step_flagged operation ha
  obtain ⟨hStates, hSeen⟩ := execution_invariant hChanges h
    (evaluateCode_readOnly entity requirement) hFlagged
  have hEach : ∀ t ∈ states,
      (evaluate t entity requirement = answer ↔ ShowsReads entity requirement t seen) :=
    fun t hMem => evaluate_shows_iff (hStates t hMem) hSeen (execution_replay h)
  constructor
  · rintro ⟨t, hMem, ht⟩
    exact ⟨t, hMem, (hEach t hMem).1 ht⟩
  · rintro ⟨t, hMem, ht⟩
    exact ⟨t, hMem, (hEach t hMem).2 ht⟩

/-! ## The three calls -/

/-- From any state that a registry can come to, among any sections of other callers: a `Query`
for a generation answers as in a single state that the registry goes through exactly when the
generation is still current where it looks up, and then a successful answer shows that
generation.  A `QueryEntity` for a generation does so when the generation is still current
there or the entity is not known any more, and only then where the published sets are
labelled as they should be.  An evaluation does exactly when some state that the registry goes
through shows the generation and the capabilities as they were found. -/
theorem reads_answer_as_one_state (options : Options) (operations : List Operation)
    (entity : EntityId) (generation : EntityGeneration) (states seen : List Registry) :
    (∀ capability answer,
      AnsweredBy (afterRun options operations) (queryAtCode entity generation capability)
        states seen answer →
      ((∃ t ∈ states, queryAt t entity generation capability = answer) ↔
        StillCurrent entity generation seen) ∧
      (StillCurrent entity generation seen →
        ∀ result, answer = .ok result → result.entityGeneration = generation)) ∧
    (∀ answer,
      AnsweredBy (afterRun options operations) (queryEntityAtCode entity generation)
        states seen answer →
      (StillCurrentOrGone entity generation seen →
        ∃ t ∈ states, queryEntityAt t entity generation = answer ∧
          ∀ set, answer = .ok set → ∃ record, t.findEntity entity = some record ∧
            record.currentGeneration = generation ∧
            set = record.set.getD (emptySet t.registryGeneration record)) ∧
      ((∀ t ∈ states, t.Labelled entity) →
        ((∃ t ∈ states, queryEntityAt t entity generation = answer) ↔
          StillCurrentOrGone entity generation seen))) ∧
    ∀ requirement answer,
      AnsweredBy (afterRun options operations) (evaluateCode entity requirement)
        states seen answer →
      ((∃ t ∈ states, evaluate t entity requirement = answer) ↔
        ∃ t ∈ states, ShowsReads entity requirement t seen) := by
  refine ⟨fun capability answer hAnswers => ⟨queryAt_linear_iff hAnswers, ?_⟩,
    fun answer hAnswers => ⟨?_, fun hLabelled => queryEntityAt_linear_iff hLabelled hAnswers⟩,
    fun requirement answer hAnswers =>
      evaluate_linear_iff (run_flagged options operations) hAnswers⟩
  · rintro hStill result rfl
    obtain ⟨t, -, ht⟩ := (queryAt_linear_iff hAnswers).2 hStill
    exact (queryAt_generation ht).2
  · intro hStill
    obtain ⟨t, hMem, ht⟩ := queryEntityAt_linear hAnswers hStill
    refine ⟨t, hMem, ht, ?_⟩
    rintro set rfl
    exact queryEntityAt_generation ht

namespace Sample

/-- A lookup that nobody comes before. -/
theorem lookup_execution {α : Type} {registry : Registry} {next : Registry → Code Registry α}
    {states seen : List Registry} {answer : α}
    (h : AnsweredBy registry (next registry) states seen answer) :
    AnsweredBy registry (.lock .shared (.access id fun read => .unlock (next read)))
      (registry :: states) (registry :: seen) answer :=
  .lock (.access (.unlock h))

/-- An evaluation of the needs; another caller comes between its second and its third lookup. -/
theorem queueNeeds_overlapped {a b : Registry} (hChanges : Changes a b) :
    ∃ answer, AnsweredBy a (evaluateCode entity queueNeeds) [a, a, a, b, b, b] [a, a, b, b]
      answer := by
  have hValid : validateRequirement queueNeeds = .ok () := by decide
  rw [evaluateCode, hValid]
  obtain ⟨isolated, hIsolated⟩ := @judgeLeaf_isSome
    { kind := .booleanEquals, capability, operand := .boolean true } rfl
    (query a entity capability)
  obtain ⟨counted, hCounted⟩ := @judgeLeaf_isSome
    { kind := .minimum, capability := receiveQueues, operand := queueCount } rfl
    (query b entity receiveQueues)
  obtain ⟨measured, hMeasured⟩ := @judgeLeaf_isSome
    { capability := perQueueTelemetry } trivial (query b entity perQueueTelemetry)
  apply Exists.intro
  apply reading_execution
  simp only [queueNeeds, negationOf, evaluateNode, evaluateChildren, queryCode, Code.map,
    Code.reading, Code.bind]
  apply lookup_execution
  simp only [concludeLeaf, hIsolated, Option.map_some, Code.bind]
  apply Execution.other hChanges
  apply lookup_execution
  simp only [hCounted, Option.map_some, Code.bind]
  apply lookup_execution
  simp only [hMeasured, Option.map_some, Code.bind, concludeCompound]
  exact .done

end Sample

/-- Calls between whose lookups another caller publishes what is known of the telemetry. -/
theorem overlapped_reads_answer :
    (∃ t ∈ [afterRun {} Sample.queuesKnown, afterRun {} Sample.queuesKnown,
        Sample.telemetryKnown, Sample.telemetryKnown],
      queryAt t Sample.entity 1 Sample.perQueueTelemetry =
        .ok (query Sample.telemetryKnown Sample.entity Sample.perQueueTelemetry)) ∧
    (∃ t ∈ [afterRun {} Sample.queuesKnown, afterRun {} Sample.queuesKnown,
        Sample.telemetryKnown, Sample.telemetryKnown],
      queryEntityAt t Sample.entity 1 = queryEntity Sample.telemetryKnown Sample.entity) ∧
    ∃ states seen answer,
      AnsweredBy (afterRun {} Sample.queuesKnown)
        (evaluateCode Sample.entity Sample.queueNeeds) states seen answer ∧
      seen.length = 4 ∧ ∃ t ∈ states, evaluate t Sample.entity Sample.queueNeeds = answer := by
  have hChanges : Changes (afterRun {} Sample.queuesKnown) Sample.telemetryKnown := ⟨_, rfl⟩
  have hCheck : requireCurrent (afterRun {} Sample.queuesKnown) Sample.entity 1 = .ok () := by
    decide +kernel
  have hStill : StillCurrent Sample.entity 1
      [afterRun {} Sample.queuesKnown, Sample.telemetryKnown] := by
    right
    intro last hLast
    obtain rfl : Sample.telemetryKnown = last := by simpa using hLast
    exact Sample.telemetryKnown_shows.2.2.1
  obtain ⟨hQuery, hSet, -⟩ := reads_answer_as_one_state {} Sample.queuesKnown Sample.entity 1
    [afterRun {} Sample.queuesKnown, afterRun {} Sample.queuesKnown, Sample.telemetryKnown,
      Sample.telemetryKnown] [afterRun {} Sample.queuesKnown, Sample.telemetryKnown]
  refine ⟨?_, ?_, ?_⟩
  · refine (hQuery _ _ (reading_execution ?_)).1.2 hStill
    rw [hCheck]
    exact .other hChanges (reading_execution .done)
  · have hAnswers : AnsweredBy (afterRun {} Sample.queuesKnown)
        (queryEntityAtCode Sample.entity 1)
        [afterRun {} Sample.queuesKnown, afterRun {} Sample.queuesKnown, Sample.telemetryKnown,
          Sample.telemetryKnown] [afterRun {} Sample.queuesKnown, Sample.telemetryKnown]
        (queryEntity Sample.telemetryKnown Sample.entity) := by
      refine reading_execution ?_
      rw [hCheck]
      exact .other hChanges (@reading_execution _ _ _ _ _ _ _ _ Code.done _ .done)
    refine ((hSet _ hAnswers).2 ?_).2 (.inl hStill)
    have hKnown := @run_labelled {} Sample.queuesKnown
      ⟨rfl, rfl, rfl, trivial⟩ Sample.entity
    have hTelemetry : Sample.telemetryKnown.Labelled Sample.entity :=
      @run_labelled {} (Sample.queuesKnown ++ [Sample.telemetryFound])
        ⟨rfl, rfl, rfl, rfl, trivial⟩ Sample.entity
    simp [hKnown, hTelemetry]
  · obtain ⟨answer, hAnswers⟩ := Sample.queueNeeds_overlapped hChanges
    refine ⟨_, _, answer, hAnswers, rfl,
      ((reads_answer_as_one_state {} Sample.queuesKnown Sample.entity 1 _ _).2.2 _ _ hAnswers).2
        ⟨Sample.telemetryKnown, by simp, ?_, ?_⟩⟩
    · exact Sample.telemetryKnown_shows.2.2.2
    · have hIsolation := Sample.telemetry_keeps_queues Sample.capability (by simp)
      exact .cons hIsolation.symm (.cons ⟨rfl, rfl, rfl⟩ (.cons ⟨rfl, rfl, rfl⟩ .nil))

namespace Sample

def observed : Registry := afterRun {} [.observeEntityGeneration entity 1 .unset]

/-- Another caller observes the next generation. -/
def surpassed : Registry :=
  (Operation.observeEntityGeneration entity 2 .unset).apply observed

end Sample

/-- A `Query` for generation 1 whose check passes and which looks up in generation 2. -/
theorem overtaken_query_answers :
    ∃ states seen result,
      AnsweredBy Sample.observed (queryAtCode Sample.entity 1 Sample.capability) states seen
        (.ok result) ∧
      result.entityGeneration = 2 ∧
      ∀ t ∈ states, queryAt t Sample.entity 1 Sample.capability ≠ .ok result := by
  have hCheck : requireCurrent Sample.observed Sample.entity 1 = .ok () := by decide +kernel
  have hGeneration : (query Sample.surpassed Sample.entity Sample.capability).entityGeneration =
      2 := by decide +kernel
  have hLookup : AnsweredBy Sample.surpassed
      ((queryCode Sample.entity Sample.capability).map Except.ok)
      [Sample.surpassed, Sample.surpassed] [Sample.surpassed]
      (Except.ok (query Sample.surpassed Sample.entity Sample.capability) :
        Outcome CapabilityQueryResult) := reading_execution .done
  have hOvertaken : AnsweredBy Sample.observed
      ((queryCode Sample.entity Sample.capability).map Except.ok)
      [Sample.observed, Sample.surpassed, Sample.surpassed] [Sample.surpassed]
      (Except.ok (query Sample.surpassed Sample.entity Sample.capability) :
        Outcome CapabilityQueryResult) := .other ⟨_, rfl⟩ hLookup
  have hAnswers : AnsweredBy Sample.observed (queryAtCode Sample.entity 1 Sample.capability)
      [Sample.observed, Sample.observed, Sample.surpassed, Sample.surpassed]
      [Sample.observed, Sample.surpassed]
      (Except.ok (query Sample.surpassed Sample.entity Sample.capability)) := by
    refine reading_execution ?_
    rw [hCheck]
    exact hOvertaken
  refine ⟨_, _, _, hAnswers, hGeneration, fun t _ ht => ?_⟩
  have hShown := (queryAt_generation ht).2
  rw [hGeneration] at hShown
  exact absurd hShown (by decide)

end FabricCapability.Ports
