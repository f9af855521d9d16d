import FabricCapability.Ports.EntityRules

/-!
# Optimistic locking

A publication names the set generation it expects.  Over a run without loads, a committed
publication expected what was published, the set generation advances by one exactly when
the digest of the published set changes, and two publications of one entity generation
that both change the set expected different generations.

The argument is one relation over registries, `Evolves`: entity generations never go
back, and while an entity generation lasts its set generation never decreases.  Every
operation but a load respects it.

## Main results

* `evolves_step`: one operation.
* `committed_locks`: one committed publication.
* `publications_are_locked`: runs.
-/

namespace FabricCapability.Ports

open FabricCapability.Verified.KeyedList
open FabricCapability.Verified.Runs

/-! ## Generations that never go back -/

/-- `b` may be a later moment of the entity `a`. -/
def EntityState.Evolves (a b : EntityState) : Prop :=
  a.currentGeneration.toNat < b.currentGeneration.toNat ∨
    (a.currentGeneration = b.currentGeneration ∧
      a.setGeneration.toNat ≤ b.setGeneration.toNat ∧ (a.hasSet = true → b.hasSet = true))

namespace EntityState.Evolves

theorem refl (a : EntityState) : a.Evolves a := .inr ⟨rfl, Nat.le_refl _, fun h => h⟩

theorem trans {a b c : EntityState} (hab : a.Evolves b) (hbc : b.Evolves c) : a.Evolves c := by
  rcases hab with hab | ⟨hab, hSet, hHas⟩
  · rcases hbc with hbc | ⟨hbc, -⟩
    · exact .inl (Nat.lt_trans hab hbc)
    · exact .inl (hbc ▸ hab)
  · rcases hbc with hbc | ⟨hbc, hSet', hHas'⟩
    · exact .inl (hab ▸ hbc)
    · exact .inr ⟨hab.trans hbc, Nat.le_trans hSet hSet', hHas' ∘ hHas⟩

/-- The mutations that leave the generations alone. -/
theorem of_same {a b : EntityState} (hGeneration : b.currentGeneration = a.currentGeneration)
    (hSet : b.setGeneration = a.setGeneration) (hHas : b.hasSet = a.hasSet) : a.Evolves b :=
  .inr ⟨hGeneration.symm, Nat.le_of_eq (by rw [hSet]), fun h => by rw [hHas, h]⟩

theorem of_sameEntity {a b : EntityState} (h : SameEntity a b) : a.Evolves b := by
  rw [h]
  exact of_same rfl rfl rfl

end EntityState.Evolves

/-- Every entity of `a` is in `b` at a later moment. -/
structure Evolves (a b : Registry) : Prop where
  find : ∀ id held, a.findEntity id = some held →
    ∃ later, b.findEntity id = some later ∧ held.Evolves later

namespace Evolves

theorem refl (a : Registry) : Evolves a a := ⟨fun _ held h => ⟨held, h, .refl _⟩⟩

theorem trans {a b c : Registry} (hab : Evolves a b) (hbc : Evolves b c) : Evolves a c := by
  refine ⟨fun id held h => ?_⟩
  obtain ⟨mid, hMid, hFirst⟩ := hab.find id held h
  obtain ⟨later, hLater, hSecond⟩ := hbc.find id mid hMid
  exact ⟨later, hLater, hFirst.trans hSecond⟩

theorem of_follows {a b : Registry} (h : Follows EntityState.Evolves a b) : Evolves a b :=
  ⟨fun _ _ hFound => h.find hFound⟩

end Evolves

/-! ## The operations -/

/-- What an operation may do to an entity moves it forward. -/
theorem evolves_rule : EntityRule EntityState.Evolves where
  refl := EntityState.Evolves.refl
  trans _ _ _ := EntityState.Evolves.trans
  retired _ _ _ _ _ _ hAbove := .inl (UInt64.lt_iff_toNat_lt.1 hAbove)
  exhausted entity next hNext := by
    refine .inr ⟨rfl, ?_, fun h => h⟩
    show entity.setGeneration.toNat ≤ next.toNat
    have hToNat := toNat_of_counterNext hNext
    omega
  committed registry advanced entity next request hAdvance := by
    obtain ⟨-, hNext, hSet, -⟩ := advanceGenerations_ok hAdvance
    refine .inr ⟨?_, ?_, fun _ => rfl⟩
    · rw [hNext]
      rfl
    · rw [committedEntity_setGeneration]
      omega
  observed entity generation hUnset hNe := by
    refine .inl ?_
    rw [hUnset]
    exact UInt64.lt_iff_toNat_lt.1 (UInt64.pos_iff_ne_zero.2 hNe)
  relabelled _ _ _ _ _ := .of_same rfl rfl rfl
  flagged _ _ := .of_same rfl rfl rfl
  refreshed _ _ _ := .of_same rfl rfl rfl

theorem appliesWithin_evolves (registry : Registry) (request : PublicationRequest) :
    AppliesWithin EntityState.Evolves registry request :=
  fun _ _ _ _ _ _ _ => .of_sameEntity (runSteps_entity ..)

theorem publish_evolves (registry : Registry) (request : PublicationRequest) :
    Evolves registry (publish registry request).1 :=
  .of_follows (publish_follows evolves_rule.toPublishRule (appliesWithin_evolves _ _))

/-- Every operation but a load moves the entities forward only. -/
theorem evolves_step {registry : Registry} {operation : Operation}
    (h : NoLoad registry operation) : Evolves registry (operation.apply registry) :=
  .of_follows (step_follows evolves_rule (fun _ _ => appliesWithin_evolves _ _) h)

/-! ## One committed publication -/

/-- The entity, when it is held at the given generation. -/
def heldAt (registry : Registry) (id : EntityId) (generation : EntityGeneration) :
    Option EntityState :=
  (registry.findEntity id).filter fun entity => entity.currentGeneration = generation

/-- The set generation of an entity generation; zero when it is not held. -/
def setGenerationAt (registry : Registry) (id : EntityId) (generation : EntityGeneration) :
    CapabilitySetGeneration :=
  ((heldAt registry id generation).map EntityState.setGeneration).getD 0

/-- The set generation that was published; zero when no set was published yet. -/
def publishedGenerationAt (registry : Registry) (id : EntityId)
    (generation : EntityGeneration) : CapabilitySetGeneration :=
  ((heldAt registry id generation).map EntityState.publishedGeneration).getD 0

/-- The digest of the set of an entity generation, when there is one. -/
def digestAt (registry : Registry) (id : EntityId) (generation : EntityGeneration) :
    Option Digest :=
  (heldAt registry id generation).bind fun entity => entity.set.map EntityCapabilitySet.digest

theorem heldAt_eq_some {registry : Registry} {id : EntityId} {generation : EntityGeneration}
    {entity : EntityState} :
    heldAt registry id generation = some entity ↔
      registry.findEntity id = some entity ∧ entity.currentGeneration = generation := by
  simp [heldAt, Option.filter_eq_some_iff]

theorem heldAt_eq_none {registry : Registry} {id : EntityId} {generation : EntityGeneration}
    (h : ∀ held, registry.findEntity id = some held → held.currentGeneration < generation) :
    heldAt registry id generation = none := by
  rw [heldAt, Option.filter_eq_none_iff]
  intro held hFound
  simpa using UInt64.ne_of_lt (h held hFound)

/-- The entity that stage 6 binds, seen from the state before: it is what is held at the
generation of the request, and it counts as zero when nothing is. -/
theorem bound_before {registry bound : Registry} {request : PublicationRequest}
    {entity : EntityState} (h : bindEntity registry request = (bound, .ok entity)) :
    setGenerationAt registry request.entity request.entityGeneration = entity.setGeneration ∧
    publishedGenerationAt registry request.entity request.entityGeneration =
      entity.publishedGeneration ∧
    digestAt registry request.entity request.entityGeneration =
      entity.set.map EntityCapabilitySet.digest := by
  obtain ⟨-, hGeneration, -, ⟨-, hFound⟩ | ⟨hFresh, -, hBelow⟩⟩ := bindEntity_ok h
  · have hHeld := heldAt_eq_some.2 ⟨hFound, hGeneration⟩
    simp [setGenerationAt, publishedGenerationAt, digestAt, hHeld]
  · have hHeld := heldAt_eq_none hBelow
    simp [setGenerationAt, publishedGenerationAt, digestAt, hHeld, hFresh.setGeneration,
      hFresh.set, hFresh.hasSet, EntityState.publishedGeneration]

/-- What a committed publication leaves at the entity generation it was made for. -/
theorem committed_after {registry after : Registry} {request : PublicationRequest}
    {result : PublicationResult} (c : Committed registry request after result) :
    ∃ entity, heldAt after request.entity request.entityGeneration = some entity ∧
      entity.hasSet = true ∧
      entity.set.map EntityCapabilitySet.digest =
        some (digestOfResolutions c.published.resolutions) ∧
      entity.setGeneration.toNat = c.entity.setGeneration.toNat +
        (if semanticChange c.entity.set c.published then 1 else 0) := by
  obtain ⟨registryGeneration, next, hFound, hNext, hGeneration, hSet⟩ := c.entity_after
  have hResolutions : next.resolutions = c.published.resolutions := by
    rw [hNext, EntityState.resolutions, EntityState.resolutions]
  refine ⟨committedEntity registryGeneration next request, heldAt_eq_some.2 ⟨hFound, ?_⟩,
    rfl, ?_, ?_⟩
  · rw [committedEntity_currentGeneration, hGeneration]
  · rw [committedEntity_digest, hResolutions]
  · rw [committedEntity_setGeneration, hSet]

/-- A committed publication expected what was published, and advances the set generation
exactly when it changes the digest of the set. -/
theorem committed_locks {registry after : Registry} {request : PublicationRequest}
    {result : PublicationResult} (c : Committed registry request after result) :
    request.expectedSetGeneration =
      publishedGenerationAt registry request.entity request.entityGeneration ∧
    (setGenerationAt after request.entity request.entityGeneration).toNat =
      (setGenerationAt registry request.entity request.entityGeneration).toNat +
        (if digestAt after request.entity request.entityGeneration =
            digestAt registry request.entity request.entityGeneration then 0 else 1) := by
  obtain ⟨hSetBefore, hPublished, hDigestBefore⟩ := bound_before c.binds
  obtain ⟨entity, hHeld, -, hDigest, hSet⟩ := committed_after c
  refine ⟨(checkPreconditions_ok c.checked).trans hPublished.symm, ?_⟩
  have hSetAfter : setGenerationAt after request.entity request.entityGeneration =
      entity.setGeneration := by
    rw [setGenerationAt, hHeld]
    rfl
  have hDigestAfter : digestAt after request.entity request.entityGeneration =
      some (digestOfResolutions c.published.resolutions) := by
    rw [digestAt, hHeld]
    exact hDigest
  rw [hSetAfter, hSetBefore, hDigestAfter, hDigestBefore, hSet]
  by_cases hChange : semanticChange c.entity.set c.published = true
  · rw [if_pos hChange, if_neg (fun hEq => semanticChange_eq.1 hChange hEq.symm)]
  · rw [if_neg hChange, if_pos]
    exact (Decidable.not_not.1 (fun hNe => hChange (semanticChange_eq.2 hNe))).symm

/-! ## Two committed publications -/

/-- The publication was committed and changed the digest of the set. -/
def Attempt.changesSet (attempt : Attempt) : Bool :=
  attempt.committed &&
    digestAt attempt.after attempt.request.entity attempt.request.entityGeneration !=
      digestAt attempt.before attempt.request.entity attempt.request.entityGeneration

theorem Attempt.committed_stages {attempt : Attempt} (h : attempt.committed = true) :
    ∃ result, Nonempty (Committed attempt.before attempt.request attempt.after result) := by
  unfold Attempt.committed at h
  split at h
  · rename_i result hResult
    exact ⟨result, publish_committed (Prod.ext rfl hResult) (by simpa using h)⟩
  · cases h

/-- A publication expects at most the set generation that it finds. -/
theorem publishedGenerationAt_le (registry : Registry) (id : EntityId)
    (generation : EntityGeneration) :
    (publishedGenerationAt registry id generation).toNat ≤
      (setGenerationAt registry id generation).toNat := by
  unfold publishedGenerationAt setGenerationAt
  cases heldAt registry id generation with
  | none => exact Nat.le_refl _
  | some entity =>
      simp only [Option.map_some, Option.getD_some, EntityState.publishedGeneration]
      split
      · exact Nat.le_refl _
      · exact Nat.zero_le _

/-- What was published at an entity generation stays published for the commits to come. -/
theorem published_later {a b c : Registry} {request : PublicationRequest}
    {result : PublicationResult} {entity : EntityState} {id : EntityId}
    {generation : EntityGeneration} (hEvolves : Evolves a b)
    (hHeld : heldAt a id generation = some entity) (hHas : entity.hasSet = true)
    (hId : request.entity = id) (hGeneration : request.entityGeneration = generation)
    (hCommitted : Committed b request c result) :
    (setGenerationAt a id generation).toNat ≤
      (publishedGenerationAt b id generation).toNat := by
  obtain ⟨hFound, hCurrent⟩ := heldAt_eq_some.1 hHeld
  obtain ⟨later, hLater, hAbove | ⟨hSame, hSet, hStays⟩⟩ := hEvolves.find _ _ hFound
  · -- the entity has moved on, so that stage 6 refuses the generation as stale
    obtain ⟨-, hBoundGeneration, -, ⟨-, hBound⟩ | ⟨-, -, hBelow⟩⟩ :=
      bindEntity_ok hCommitted.binds
    · rw [hId, hLater, Option.some.injEq] at hBound
      rw [hBound, hBoundGeneration, hGeneration, ← hCurrent] at hAbove
      exact absurd hAbove (Nat.lt_irrefl _)
    · have hLess := UInt64.lt_iff_toNat_lt.1 (hBelow later (hId ▸ hLater))
      rw [hGeneration, ← hCurrent] at hLess
      exact absurd hLess (Nat.lt_asymm hAbove)
  · have hThere : heldAt b id generation = some later :=
      heldAt_eq_some.2 ⟨hLater, hSame ▸ hCurrent⟩
    rw [setGenerationAt, publishedGenerationAt, hHeld, hThere]
    simp only [Option.map_some, Option.getD_some, EntityState.publishedGeneration,
      hStays hHas, if_true]
    exact hSet

/-- A change is followed by changes that expect another generation. -/
theorem changes_differ {first second : Attempt}
    (hEvolves : Evolves first.after second.before)
    (hFirst : first.changesSet = true) (hSecond : second.changesSet = true)
    (hEntity : first.request.entity = second.request.entity)
    (hGeneration : first.request.entityGeneration = second.request.entityGeneration) :
    first.request.expectedSetGeneration ≠ second.request.expectedSetGeneration := by
  simp only [Attempt.changesSet, Bool.and_eq_true, bne_iff_ne] at hFirst hSecond
  obtain ⟨_, ⟨hFirstStages⟩⟩ := first.committed_stages hFirst.1
  obtain ⟨_, ⟨hSecondStages⟩⟩ := second.committed_stages hSecond.1
  obtain ⟨hExpected, hGrows⟩ := committed_locks hFirstStages
  obtain ⟨hExpectedLater, -⟩ := committed_locks hSecondStages
  obtain ⟨entity, hHeld, hHas, -⟩ := committed_after hFirstStages
  rw [if_neg hFirst.2] at hGrows
  have hFound := publishedGenerationAt_le first.before first.request.entity
    first.request.entityGeneration
  have hKept := published_later hEvolves hHeld hHas hEntity.symm hGeneration.symm hSecondStages
  rw [← hExpected] at hFound
  rw [hEntity, hGeneration, ← hExpectedLater] at hKept
  intro hEq
  rw [hEq, hEntity, hGeneration] at hFound
  rw [hEntity, hGeneration] at hGrows
  omega

/-! ## Runs -/

/-- Optimistic locking.  A committed publication expected what was published just before
it and advances the set generation by one exactly when the digest changes; of the
publications for one entity generation that change the digest no two expect the same
generation; and a set generation does not decrease while the entity generation lasts. -/
theorem publications_are_locked (options : Options) (operations : List Operation)
    (hRun : Guarded Operation.apply NoLoad (Registry.init options) operations) :
    (∀ attempt ∈ publications options operations, attempt.committed = true →
      attempt.request.expectedSetGeneration =
        publishedGenerationAt attempt.before attempt.request.entity
          attempt.request.entityGeneration ∧
      (setGenerationAt attempt.after attempt.request.entity
          attempt.request.entityGeneration).toNat =
        (setGenerationAt attempt.before attempt.request.entity
          attempt.request.entityGeneration).toNat +
          (if digestAt attempt.after attempt.request.entity
                attempt.request.entityGeneration =
              digestAt attempt.before attempt.request.entity
                attempt.request.entityGeneration then 0 else 1)) ∧
    (publications options operations).Pairwise (fun first second =>
      first.changesSet = true → second.changesSet = true →
      first.request.entity = second.request.entity →
      first.request.entityGeneration = second.request.entityGeneration →
      first.request.expectedSetGeneration ≠ second.request.expectedSetGeneration) ∧
    ∀ earlier later, operations = earlier ++ later → ∀ id before after,
      (afterRun options earlier).findEntity id = some before →
      (afterRun options operations).findEntity id = some after →
      before.currentGeneration = after.currentGeneration →
      before.setGeneration ≤ after.setGeneration := by
  have hRefl : ∀ registry, Evolves registry registry := Evolves.refl
  have hTrans : ∀ a b c, Evolves a b → Evolves b c → Evolves a c := fun _ _ _ => Evolves.trans
  have hStep : ∀ registry operation, NoLoad registry operation →
      Evolves registry (operation.apply registry) := fun _ _ => evolves_step
  refine ⟨?_, ?_, ?_⟩
  · intro attempt _ hCommitted
    obtain ⟨_, ⟨hStages⟩⟩ := attempt.committed_stages hCommitted
    exact committed_locks hStages
  · have hChain := trace_chained hRefl hTrans hStep
      (fun registry operation _ => attempts_chained hRefl hTrans registry operation
        fun attempt _ => publish_evolves attempt.before attempt.request) hRun
    exact hChain.within.imp fun hEvolves hFirst hSecond hEntity hGeneration =>
      changes_differ hEvolves hFirst hSecond hEntity hGeneration
  · rintro earlier later rfl id before after hBefore hAfter hSame
    have hEvolves := run_rel hRefl hTrans hStep (guarded_append.1 hRun).2
    rw [← run_append] at hEvolves
    obtain ⟨found, hFound, hLess | ⟨-, hSet, -⟩⟩ := hEvolves.find id before hBefore
    · rw [afterRun, hFound, Option.some.injEq] at hAfter
      rw [hAfter, hSame] at hLess
      exact absurd hLess (Nat.lt_irrefl _)
    · rw [afterRun, hFound, Option.some.injEq] at hAfter
      exact UInt64.le_iff_toNat_le.2 (hAfter ▸ hSet)

namespace Sample

/-- A publisher and a rival that expects the same generation. -/
def race : List Operation :=
  setup ++
    [.publish (publication bootOne "attempt-1" 1 0 (claim .supported .processBound)),
     .publish (publication bootOne "attempt-2" 1 0 (claim .unsupported .processBound))]

end Sample

/-- Of two publications that expect the same generation one changes the set. -/
theorem race_is_locked :
    (publications {} Sample.race).map Attempt.changesSet = [true, false] ∧
    (publications {} Sample.race).Pairwise (fun first second =>
      first.changesSet = true → second.changesSet = true →
      first.request.entity = second.request.entity →
      first.request.entityGeneration = second.request.entityGeneration →
      first.request.expectedSetGeneration ≠ second.request.expectedSetGeneration) := by
  have hLocked := publications_are_locked {} Sample.race
    (by simp [Sample.race, Sample.setup, Guarded, NoLoad, Operation.isLoad])
  exact ⟨by decide +kernel, hLocked.2.1⟩

end FabricCapability.Ports
