import FabricCapability.Ports.Commutation
import FabricCapability.Ports.Journals

/-!
# What unsuccessful publications leave

A publication that `Publish` rejects, or that fails, may have been bound to its entity before:
stage 6 creates the entity or retires its generation, and nothing takes that back.  A
publication that fails in stage 10 or 11 leaves what it applied until then.

Here is what can be left, for every registry and every request: the binding, and of the named
entity its capabilities and its set generation.  Below stage 10 the binding is all, and it
leaves a trace exactly when it has something to bind.

## Main results

* `unsuccessful_publication_leaves`: the traces of a publication that is not committed.
-/

namespace FabricCapability.Ports

open FabricCapability.Verified.KeyedList

/-! ## Frames -/

/-- The second registry is the first one but for the journal. -/
def Untraced (before after : Registry) : Prop :=
  after = { before with journal := after.journal }

/-- The entity without what stages 10 and 11 may leave in it when they fail. -/
def EntityState.core (entity : EntityState) : EntityState :=
  { entity with capabilities := [], setGeneration := 0 }

/-- The registries differ in the journal, the indexes, the arrival sequence, and in the
capabilities and the set generation of one entity. -/
structure LeavesOnly (id : EntityId) (before after : Registry) : Prop where
  registry : after = { before with
    indexes := after.indexes
    arrivalSequence := after.arrivalSequence
    journal := after.journal
    entities := after.entities }
  others : ∀ other, other ≠ id → after.findEntity other = before.findEntity other
  entity : (after.findEntity id).map EntityState.core =
    (before.findEntity id).map EntityState.core

namespace LeavesOnly

variable {id : EntityId} {a b c : Registry}

theorem refl (a : Registry) : LeavesOnly id a a := ⟨rfl, fun _ _ => rfl, rfl⟩

theorem trans (hab : LeavesOnly id a b) (hbc : LeavesOnly id b c) : LeavesOnly id a c where
  registry := by
    rw [hbc.registry, hab.registry]
  others other hOther := (hbc.others other hOther).trans (hab.others other hOther)
  entity := hbc.entity.trans hab.entity

theorem of_journal (h : b = { a with journal := b.journal }) : LeavesOnly id a b := by
  rw [h]
  exact ⟨rfl, fun _ _ => rfl, rfl⟩

/-- Writing back the named entity, up to what it may leave. -/
theorem setEntity {held later : EntityState} (hFound : a.findEntity id = some held)
    (hCore : later.core = held.core) (indexes : Indexes) (arrivalSequence : UInt64) :
    LeavesOnly id a ({ a with indexes, arrivalSequence }.setEntity later) := by
  have hId : later.id = id := by
    have hIds : later.core.id = held.core.id := by rw [hCore]
    have hHeld : held.id = id := findEntity_id hFound
    exact hIds.trans hHeld
  refine ⟨rfl, fun other hOther => ?_, ?_⟩
  · rw [findEntity_setEntity_ne _ (by rw [hId]; exact hOther.symm)]
    rfl
  · rw [findEntity_setEntity hId, hFound, Option.map_some, Option.map_some, hCore]

end LeavesOnly

theorem SameEntity.core {entity later : EntityState} (h : SameEntity entity later) :
    later.core = entity.core := by
  rw [h]
  rfl

/-! ## Stages 10 and 11 -/

section Stages

variable {registry after : Registry} {request : PublicationRequest} {entity : EntityState}

theorem applyRequest_leaves (hFound : registry.findEntity request.entity = some entity)
    (steps : List ApplyStep) :
    LeavesOnly request.entity registry (applyRequest registry request entity steps).1 :=
  LeavesOnly.setEntity hFound
    (runSteps_entity registry request steps (registry.cell entity)).core _ _

theorem commit_failed_leaves {before : Option EntityCapabilitySet} {steps : List ApplyStep}
    {contentDigest : Bytes} {e : Error}
    (hFound : registry.findEntity request.entity = some entity)
    (h : commit registry request before entity steps contentDigest = (after, .error e)) :
    LeavesOnly request.entity registry after := by
  have hAdvance := commit_error h
  unfold advanceGenerations at hAdvance
  split at hAdvance
  · split at hAdvance
    · cases hAdvance
      exact .refl _
    · rename_i setNext _
      dsimp only at hAdvance
      split at hAdvance
      · cases hAdvance
        exact @LeavesOnly.setEntity _ _ _ { entity with setGeneration := setNext } hFound rfl
          registry.indexes registry.arrivalSequence
      · cases hAdvance
  · cases hAdvance

/-- What a publication that was bound leaves behind its binding, unless it is committed. -/
theorem unsuccessful_leaves {outcome : Outcome PublicationResult}
    (hExit : PublishExit registry request after outcome)
    (h : ∀ result, outcome = .ok result → result.status = .rejected)
    {valid : PublisherRuntime × AuthorityGrant}
    (hValid : validateRequest registry request = .ok valid) :
    LeavesOnly request.entity (bindEntity registry request).1 after := by
  have hRejected : ∀ (base : Registry) (e : Error),
      LeavesOnly request.entity base (reject base request e).1 :=
    fun base e => .of_journal (reject_registry base request e)
  cases hExit with
  | invalid invalid =>
      rw [hValid] at invalid
      cases invalid
  | refused _ refuses =>
      rw [refuses]
      exact hRejected _ _
  | failed _ fails =>
      rw [fails]
      exact .refl _
  | conflicting _ binds =>
      rw [binds]
      exact hRejected _ _
  | replayed => cases h _ rfl
  | unmet _ binds =>
      rw [binds]
      exact hRejected _ _
  | @unapplied runtime grant bound entity applied e _ binds _ fails =>
      have hFound := (bindEntity_ok binds).2.2.1
      have hApplied := applyRequest_leaves hFound (applySteps bound.schema grant request)
      rw [fails] at hApplied
      rw [binds]
      exact hApplied.trans (hRejected _ _)
  | @uncommitted runtime grant bound entity applied published after e _ binds _ applies fails =>
      have hFound := (bindEntity_ok binds).2.2.1
      have hApplied := applyRequest_leaves hFound (applySteps bound.schema grant request)
      rw [applies] at hApplied
      obtain ⟨hSame, hCell, hPublished⟩ := applyRequest_entity applies
      have hHeld : applied.findEntity request.entity = some published := by
        rw [hCell, hPublished]
        have hSteps := runSteps_entity bound request (applySteps bound.schema grant request)
          (bound.cell entity)
        exact findEntity_setEntity (hSteps.id_eq.trans (bindEntity_ok binds).1)
      rw [binds]
      exact hApplied.trans (commit_failed_leaves hHeld fails)
  | committed stages =>
      have hStatus := commit_status stages.commits
      rw [h _ rfl] at hStatus
      cases hStatus

end Stages

/-! ## Stage 6 -/

section Binding

variable {registry : Registry} {request : PublicationRequest}

/-- Stage 6 has nothing to do: the entity is held, at the generation of the request or a later
one, or it is unknown and there is no room for it. -/
def bindsNothing (registry : Registry) (request : PublicationRequest) : Bool :=
  match registry.findEntity request.entity with
  | some held => request.entityGeneration ≤ held.currentGeneration
  | none => registry.entities.length ≥ registry.options.maxEntities

theorem bindGeneration_untouched {held : EntityState}
    (h : request.entityGeneration ≤ held.currentGeneration) :
    (bindGeneration registry request held).1 = registry := by
  unfold bindGeneration
  split
  · rfl
  · rw [if_neg (UInt64.not_lt.2 h)]

/-- A later generation is bound, even where the registry generation is exhausted. -/
theorem bindGeneration_touched {held : EntityState} (hId : held.id = request.entity)
    (h : held.currentGeneration < request.entityGeneration) :
    ∃ later, (bindGeneration registry request held).1.findEntity request.entity = some later ∧
      later.currentGeneration = request.entityGeneration := by
  unfold bindGeneration
  rw [if_neg (UInt64.lt_asymm h), if_pos h]
  dsimp only
  split
  · exact ⟨_, findEntity_setEntity hId, rfl⟩
  · exact ⟨_, findEntity_setEntity hId, rfl⟩

theorem bindEntity_untouched_iff :
    (bindEntity registry request).1 = registry ↔ bindsNothing registry request = true := by
  unfold bindEntity bindsNothing
  cases hFound : registry.findEntity request.entity with
  | some held =>
      dsimp only
      rw [decide_eq_true_eq]
      constructor
      · intro hSame
        by_contra hAbove
        obtain ⟨later, hLater, hGeneration⟩ := @bindGeneration_touched registry request held
          (findEntity_id hFound) (UInt64.not_le.1 hAbove)
        rw [hSame, hFound, Option.some.injEq] at hLater
        rw [← hGeneration, ← hLater] at hAbove
        exact hAbove (UInt64.le_refl _)
      · exact bindGeneration_untouched
  | none =>
      dsimp only
      rw [decide_eq_true_eq]
      split
      · rename_i hFull
        exact ⟨fun _ => hFull, fun _ => rfl⟩
      · rename_i hRoom
        refine ⟨fun hSame => absurd ?_ hRoom, fun hFull => absurd hFull hRoom⟩
        rw [bindGeneration_new] at hSame
        have hLength := congrArg (fun later => later.entities.length) hSame
        dsimp only at hLength
        rw [List.length_append, List.length_singleton] at hLength
        omega

/-- A valid publication that does not reach stage 10 leaves what it was bound to. -/
theorem unadmitted_bound (h : admitted registry request = none)
    {valid : PublisherRuntime × AuthorityGrant}
    (hValid : validateRequest registry request = .ok valid) :
    ∃ journal, (publish registry request).1 =
      { (bindEntity registry request).1 with journal } := by
  unfold admitted at h
  unfold publish
  rw [hValid] at h ⊢
  dsimp only at h ⊢
  cases hBind : bindEntity registry request with
  | mk bound outcome =>
      cases outcome with
      | error refusal =>
          cases refusal with
          | rejected e => exact ⟨_, reject_registry bound request e⟩
          | failed e => exact ⟨bound.journal, rfl⟩
      | ok entity =>
          rw [hBind] at h
          dsimp only at h
          unfold publishBound
          dsimp only
          split
          · exact ⟨_, reject_registry bound request _⟩
          · exact ⟨_, rfl⟩
          · rename_i hFresh
            split
            · exact ⟨_, reject_registry bound request _⟩
            · rename_i hChecked
              rw [hFresh, hChecked] at h
              cases h

/-- A publication that does not reach stage 10 leaves a trace exactly when it is valid and
has something to bind. -/
theorem unadmitted_untraced_iff (h : admitted registry request = none) :
    Untraced registry (publish registry request).1 ↔
      (validateRequest registry request).isOk = false ∨
        bindsNothing registry request = true := by
  cases hValid : validateRequest registry request with
  | error e =>
      have hReject : (publish registry request).1 = (reject registry request e).1 := by
        unfold publish
        rw [hValid]
      refine ⟨fun _ => .inl rfl, fun _ => ?_⟩
      rw [hReject]
      exact reject_registry registry request e
  | ok valid =>
      obtain ⟨journal, hBound⟩ := unadmitted_bound h hValid
      rw [← bindEntity_untouched_iff]
      have hJournal : (bindEntity registry request).1.journal = registry.journal :=
        (bindEntity_journaled ⟨rfl, rfl⟩).journal_eq
      constructor
      · intro hUntraced
        right
        unfold Untraced at hUntraced
        rw [hBound] at hUntraced
        have hSame := congrArg (fun later : Registry => { later with journal := registry.journal })
          hUntraced
        dsimp only at hSame
        rw [← hJournal] at hSame
        exact hSame.trans (by rw [hJournal])
      · rintro (hInvalid | hSame)
        · cases hInvalid
        · unfold Untraced
          rw [hBound, hSame]

end Binding

/-- What a publication leaves that is not committed: its binding, unless it is invalid, and
behind the binding nothing but the capabilities and the set generation of the entity.  Where
it does not reach stage 10, it leaves no trace exactly when it is invalid or has nothing to
bind. -/
theorem unsuccessful_publication_leaves (registry : Registry) (request : PublicationRequest) :
    ((∀ result, (publish registry request).2 = .ok result → result.status = .rejected) →
      LeavesOnly request.entity
        (if (validateRequest registry request).isOk then (bindEntity registry request).1
        else registry) (publish registry request).1) ∧
    (admitted registry request = none →
      (Untraced registry (publish registry request).1 ↔
        (validateRequest registry request).isOk = false ∨
          bindsNothing registry request = true)) := by
  refine ⟨fun hRejected => ?_, unadmitted_untraced_iff⟩
  cases hValid : validateRequest registry request with
  | error e =>
      have hReject : (publish registry request).1 = (reject registry request e).1 := by
        unfold publish
        rw [hValid]
      rw [hReject]
      exact .of_journal (reject_registry registry request e)
  | ok valid => exact unsuccessful_leaves (publish_exit registry request) hRejected hValid

namespace Sample

/-- The publication expects a set generation that its entity cannot have. -/
def mismatched : PublicationRequest :=
  publication bootOne "attempt-1" 1 7 (claim .supported .durable)

end Sample

/-- It leaves its binding, which is a trace. -/
theorem mismatched_publication_leaves :
    LeavesOnly Sample.entity (bindEntity (afterRun {} Sample.setup) Sample.mismatched).1
      (publish (afterRun {} Sample.setup) Sample.mismatched).1 ∧
    ¬Untraced (afterRun {} Sample.setup)
      (publish (afterRun {} Sample.setup) Sample.mismatched).1 := by
  obtain ⟨hStatus, hValid, hBinds, hAdmitted⟩ :
      (publish (afterRun {} Sample.setup) Sample.mismatched).2.toOption.map
        PublicationResult.status = some .rejected ∧
      (validateRequest (afterRun {} Sample.setup) Sample.mismatched).isOk = true ∧
      bindsNothing (afterRun {} Sample.setup) Sample.mismatched = false ∧
      (admitted (afterRun {} Sample.setup) Sample.mismatched).isNone = true := by
    decide +kernel
  obtain ⟨hLeaves, hTraced⟩ :=
    unsuccessful_publication_leaves (afterRun {} Sample.setup) Sample.mismatched
  rw [if_pos hValid] at hLeaves
  refine ⟨hLeaves fun result hResult => ?_, fun hUntraced => ?_⟩
  · rw [hResult] at hStatus
    exact Option.some.inj hStatus
  · rcases (hTraced (Option.isNone_iff_eq_none.1 hAdmitted)).1 hUntraced with hInvalid | hNothing
    · exact absurd hValid (by rw [hInvalid]; decide)
    · exact absurd hNothing (by rw [hBinds]; decide)

/-- The entity is held from then on. -/
example :
    (afterRun {} Sample.setup).findEntity Sample.entity = none ∧
      ((publish (afterRun {} Sample.setup) Sample.mismatched).1.findEntity
        Sample.entity).isSome = true := by
  decide +kernel

end FabricCapability.Ports
