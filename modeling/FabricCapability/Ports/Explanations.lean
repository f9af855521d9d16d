import FabricCapability.Ports.Journals
import FabricCapability.Ports.UpdateForms

/-!
# Explanations of set generations

Translation of `ExplainCapability` and `ExplainGeneration` of `src/registry.cpp`.

The journal is bounded, is cleared by loads and is overwritten by repeated publications, so
that a generation may have no explanation.  What is explained did happen: a publication of
the run left the entity at that generation.

## Main results

* `held_was_recorded`: every entry of the journal tells the result of a publication.
* `explained_generations_were_reached`: the answers of `ExplainGeneration` in a run.
-/

namespace FabricCapability.Ports

open FabricCapability.Verified.KeyedList
open FabricCapability.Verified.Runs

/-- `ExplainCapability`. -/
def explainCapability (registry : Registry) (entity : EntityId) (capability : CapabilityId) :
    Explanation :=
  let record := registry.findEntity entity
  explainResolution record (record.bind fun held => held.findCapability capability)

/-- The journal entries in the order of their queue. -/
def queuedEntries (journal : Journal) : List JournalEntry :=
  journal.order.filterMap journal.held

/-- The step that `ExplainGeneration` adds to the explanation of a publication. -/
def JournalEntry.advancedStep (entry : JournalEntry) (entity : EntityId) : ExplanationStep :=
  makeStep (txt "generation.advanced") (txt "capability set generation history")
    [(txt "entity", entity.toText),
     (txt "previous_set_generation", decimal entry.previousGeneration.toNat),
     (txt "set_generation", decimal entry.newGeneration.toNat),
     (txt "attempt", entry.attempt.value),
     (txt "publisher_status", publicationStatusName entry.status)]

/-- `ExplainGeneration`. -/
def explainGeneration (registry : Registry) (entity : EntityId)
    (generation : CapabilitySetGeneration) : Outcome Explanation :=
  match (queuedEntries registry.journal).find? fun entry =>
      entry.entity = entity ∧ entry.newGeneration = generation with
  | none =>
      failure .notFound
        (txt "the capability set generation was not advanced by a retained publication")
        (txt "entity=" ++ entity.toText ++ txt " generation=" ++ decimal generation.toNat)
  | some entry =>
      .ok
        { entry.explanation with
          steps := entry.explanation.steps ++ [entry.advancedStep entity] }

/-! ## What the journal holds -/

section Recorded

variable {bound : Nat} {journal : Journal} {entry held : JournalEntry}

theorem mem_record (h : held ∈ (journal.record bound entry).entries) :
    held = entry ∨ held ∈ journal.entries := by
  rw [record_eq] at h
  rcases mem_upsert h with rfl | hMem
  · exact .inl rfl
  · right
    split at hMem
    · unfold Journal.evict at hMem
      split at hMem
      · exact hMem
      · exact List.mem_of_mem_filter hMem
    · exact hMem

/-- What is held after some events was held before, or was recorded by one of them. -/
theorem mem_run_journal {events : List JournalEvent}
    (h : held ∈ (run (Journal.step bound) journal events).entries) :
    held ∈ journal.entries ∨ JournalEvent.recorded held ∈ events := by
  induction events generalizing journal with
  | nil => exact .inl h
  | cons event events ih =>
      rcases ih h with hBefore | hLater
      · cases event with
        | recorded entry =>
            rcases mem_record hBefore with rfl | hMem
            · exact .inr (List.mem_cons_self ..)
            · exact .inl hMem
        | cleared => cases hBefore
      · exact .inr (List.mem_cons_of_mem _ hLater)

/-- Every entry that an operation records is that of one of its publications. -/
theorem mem_journalEvents {registry : Registry} {operation : Operation}
    (h : JournalEvent.recorded held ∈ journalEvents registry operation) :
    ∃ attempt ∈ attempts registry operation,
      ∃ result, attempt.result = .ok result ∧ held = journalEntry result := by
  have hRecorded : JournalEvent.recorded held ∈
      (attempts registry operation).flatMap Attempt.recorded := by
    cases operation with
    | load config file =>
        rw [journalEvents] at h
        split at h
        · cases List.mem_singleton.1 h
        · cases h
    | _ => exact h
  obtain ⟨attempt, hMem, hEvent⟩ := List.mem_flatMap.1 hRecorded
  refine ⟨attempt, hMem, ?_⟩
  unfold Attempt.recorded recordedOf at hEvent
  split at hEvent
  · cases hEvent
  · rename_i result hResult
    split at hEvent
    · exact ⟨result, hResult, JournalEvent.recorded.inj (List.mem_singleton.1 hEvent)⟩
    · cases hEvent

theorem mem_trace_journalEvents {registry : Registry} {operations : List Operation}
    (h : JournalEvent.recorded held ∈ trace Operation.apply journalEvents registry operations) :
    ∃ attempt ∈ trace Operation.apply attempts registry operations,
      ∃ result, attempt.result = .ok result ∧ held = journalEntry result := by
  induction operations generalizing registry with
  | nil => cases h
  | cons operation operations ih =>
      rw [trace] at h
      rcases List.mem_append.1 h with hHere | hLater
      · obtain ⟨attempt, hMem, hTells⟩ := mem_journalEvents hHere
        exact ⟨attempt, List.mem_append_left _ hMem, hTells⟩
      · obtain ⟨attempt, hMem, hTells⟩ := ih hLater
        exact ⟨attempt, List.mem_append_right _ hMem, hTells⟩

/-- Every entry of the journal of a run tells the result of one of its publications. -/
theorem held_was_recorded {options : Options} {operations : List Operation}
    {publication : PublicationId}
    (h : (afterRun options operations).journal.held publication = some held) :
    ∃ attempt ∈ publications options operations,
      ∃ result, attempt.result = .ok result ∧ held = journalEntry result := by
  have hMem := lookup_mem h
  rw [journal_of_run] at hMem
  rcases mem_run_journal hMem with hNone | hEvent
  · cases hNone
  · exact mem_trace_journalEvents hEvent

end Recorded

/-! ## What a publication tells -/

/-- A publication tells of the entity that it names; and unless it is rejected, of the set
generation that it leaves the entity at. -/
structure TellsReached (after : Registry) (request : PublicationRequest)
    (result : PublicationResult) : Prop where
  entity : result.entity = request.entity
  reached : result.newSetGeneration ≠ 0 → result.status ≠ .rejected ∧
    ∃ entity, after.findEntity request.entity = some entity ∧
      entity.currentGeneration = request.entityGeneration ∧
      entity.setGeneration = result.newSetGeneration

theorem reject_tells (registry : Registry) (request : PublicationRequest) (e : Error)
    {result : PublicationResult} (h : (reject registry request e).2 = .ok result) :
    TellsReached (reject registry request e).1 request result := by
  unfold reject at h
  cases h
  exact ⟨rfl, fun hReached => absurd rfl hReached⟩

theorem committed_tells {registry after : Registry} {request : PublicationRequest}
    {result : PublicationResult} (c : Committed registry request after result) :
    TellsReached after request result := by
  obtain ⟨hId, hGeneration, -⟩ := bindEntity_ok c.binds
  obtain ⟨advanced, next, hAdvance, hResult, hAfter⟩ := commit_ok c.commits
  have hSame := c.published_same
  have hNext := (advanceGenerations_ok hAdvance).2.1
  have hNextId : next.id = request.entity := by
    rw [hNext]
    exact hSame.id_eq.trans hId
  have hFound : after.findEntity request.entity =
      some (committedEntity advanced.registryGeneration next request) := by
    rw [hAfter]
    exact findEntity_setEntity hNextId
  have hCurrent : next.currentGeneration = request.entityGeneration := by
    rw [hNext]
    exact hSame.currentGeneration_eq.trans hGeneration
  have hTold : result.newSetGeneration = next.setGeneration := by
    rw [hResult]
    rfl
  refine ⟨by rw [hResult]; rfl, fun _ => ⟨?_, _, hFound, hCurrent, hTold.symm⟩⟩
  rw [commit_status c.commits]
  decide

theorem publish_tells {registry : Registry} {request : PublicationRequest}
    {result : PublicationResult} (h : (publish registry request).2 = .ok result) :
    TellsReached (publish registry request).1 request result := by
  have hExit := publish_exit registry request
  generalize (publish registry request).1 = after at hExit ⊢
  generalize (publish registry request).2 = outcome at hExit h
  cases hExit with
  | invalid => exact reject_tells _ _ _ h
  | refused => exact reject_tells _ _ _ h
  | failed => cases h
  | conflicting => exact reject_tells _ _ _ h
  | @replayed runtime grant bound entity latest valid binds =>
      obtain ⟨-, hGeneration, hFound, -⟩ := bindEntity_ok binds
      cases h
      refine ⟨rfl, fun _ => ⟨PublicationStatus.noConfusion, entity, ?_, hGeneration, rfl⟩⟩
      rw [findEntity_recordJournal]
      exact hFound
  | unmet => exact reject_tells _ _ _ h
  | unapplied => exact reject_tells _ _ _ h
  | uncommitted => cases h
  | committed stages =>
      cases h
      exact committed_tells stages

/-! ## Answers -/

/-- Where a generation is explained, by the entry of a publication. -/
theorem explainGeneration_ok {registry : Registry} {entity : EntityId}
    {generation : CapabilitySetGeneration} {explanation : Explanation}
    (h : explainGeneration registry entity generation = .ok explanation) :
    ∃ publication entry, registry.journal.held publication = some entry ∧
      entry.entity = entity ∧ entry.newGeneration = generation ∧
      explanation = { entry.explanation with
        steps := entry.explanation.steps ++ [entry.advancedStep entity] } := by
  unfold explainGeneration at h
  split at h
  · cases h
  · rename_i entry hFound
    obtain ⟨publication, -, hHeld⟩ := List.mem_filterMap.1 (List.mem_of_find?_eq_some hFound)
    have hMatch := List.find?_some (p := fun held : JournalEntry =>
      decide (held.entity = entity ∧ held.newGeneration = generation)) hFound
    obtain ⟨hEntity, hGeneration⟩ := of_decide_eq_true hMatch
    exact ⟨publication, entry, hHeld, hEntity, hGeneration, (Except.ok.inj h).symm⟩

/-- The journal of a run follows its log. -/
theorem journal_follows (options : Options) (operations : List Operation) :
    ∃ log, (afterRun options operations).journal.Follows log := by
  rw [journal_of_run]
  generalize journalRun options operations = events
  suffices hRun : ∀ (log : List JournalEntry) (journal : Journal), journal.Follows log →
      ∃ later, (run (Journal.step options.maxRejectionJournalEntries) journal events).Follows
        later from hRun [] {} follows_empty
  induction events with
  | nil => exact fun log _ h => ⟨log, h⟩
  | cons event events ih => exact fun _ _ h => ih _ _ (follows_step h event)

theorem explainGeneration_answers (options : Options) (operations : List Operation)
    (entity : EntityId) (generation : CapabilitySetGeneration)
    {publication : PublicationId} {entry : JournalEntry}
    (hHeld : (afterRun options operations).journal.held publication = some entry)
    (hEntity : entry.entity = entity) (hGeneration : entry.newGeneration = generation) :
    ∃ explanation,
      explainGeneration (afterRun options operations) entity generation = .ok explanation := by
  obtain ⟨log, hFollows⟩ := journal_follows options operations
  have hQueued : entry ∈ queuedEntries (afterRun options operations).journal :=
    List.mem_filterMap.2 ⟨publication, hFollows.queued publication (by rw [hHeld]; rfl), hHeld⟩
  unfold explainGeneration
  cases hFound : (queuedEntries (afterRun options operations).journal).find? fun held =>
      held.entity = entity ∧ held.newGeneration = generation with
  | none =>
      rw [List.find?_eq_none] at hFound
      exact absurd (decide_eq_true ⟨hEntity, hGeneration⟩) (hFound entry hQueued)
  | some found => exact ⟨_, rfl⟩

/-- `ExplainGeneration` answers exactly while the journal holds a publication that told of
the generation; and what it then explains is a publication of the run that left the entity
at this generation and was not rejected. -/
theorem explained_generations_were_reached (options : Options) (operations : List Operation)
    (entity : EntityId) (generation : CapabilitySetGeneration) :
    ((∃ explanation,
        explainGeneration (afterRun options operations) entity generation = .ok explanation) ↔
      ∃ publication entry,
        (afterRun options operations).journal.held publication = some entry ∧
          entry.entity = entity ∧ entry.newGeneration = generation) ∧
    ∀ explanation,
      explainGeneration (afterRun options operations) entity generation = .ok explanation →
      generation ≠ 0 →
      ∃ attempt ∈ publications options operations, ∃ result,
        attempt.result = .ok result ∧ attempt.request.entity = entity ∧
        result.status ≠ .rejected ∧
        (∃ later, attempt.after.findEntity entity = some later ∧
          later.currentGeneration = attempt.request.entityGeneration ∧
          later.setGeneration = generation) ∧
        explanation = { result.explanation with
          steps := result.explanation.steps ++ [(journalEntry result).advancedStep entity] } := by
  refine ⟨⟨?_, ?_⟩, ?_⟩
  · rintro ⟨explanation, hAnswer⟩
    obtain ⟨publication, entry, hHeld, hEntity, hGeneration, -⟩ := explainGeneration_ok hAnswer
    exact ⟨publication, entry, hHeld, hEntity, hGeneration⟩
  · rintro ⟨publication, entry, hHeld, hEntity, hGeneration⟩
    exact explainGeneration_answers _ _ _ _ hHeld hEntity hGeneration
  · intro explanation hAnswer hSet
    obtain ⟨publication, entry, hHeld, hEntity, hGeneration, hExplanation⟩ :=
      explainGeneration_ok hAnswer
    obtain ⟨attempt, hMem, result, hResult, rfl⟩ := held_was_recorded hHeld
    have hTells : TellsReached attempt.after attempt.request result := publish_tells hResult
    have hNamed : attempt.request.entity = entity := hTells.entity.symm.trans hEntity
    have hTold : result.newSetGeneration = generation := hGeneration
    obtain ⟨hAccepted, later, hFound, hCurrent, hLater⟩ := hTells.reached (hTold ▸ hSet)
    exact ⟨attempt, hMem, result, hResult, hNamed, hAccepted,
      ⟨later, hNamed ▸ hFound, hCurrent, hLater.trans hTold⟩, hExplanation⟩

end FabricCapability.Ports
