import FabricCapability.Ports.PublishSpec
import FabricCapability.Verified.Growth

/-!
# Rules for the entities of a run

What an operation does to the entities, said once.  An operation never removes an entity
and never moves one: it rewrites some in place and may append a new one (`Follows`).
`EntityRule` lists what can happen to one entity; a preorder that all of it respects is
respected by every operation but a load.

The steps of stage 10 are left to the user of the rule (`AppliesWithin`), since what they
respect may depend on the request.

## Main results

* `validateRequest_ok`: what stages 1 to 5 establish.
* `publish_follows`: one publication.
* `step_follows`: one operation.
-/

namespace FabricCapability.Ports

open FabricCapability.Verified.KeyedList

/-! ## Valid requests -/

/-- What stages 1 to 5 establish about a request. -/
structure ValidRequest (registry : Registry) (request : PublicationRequest)
    (runtime : PublisherRuntime) (grant : AuthorityGrant) : Prop where
  shape : checkShape request = .ok ()
  epoch : request.epoch = registry.epoch
  unfenced : request.authority.workerBoot ∉ registry.fencedBoots
  registered : registry.findRuntime request.publisherKey = some runtime
  granted : registry.findGrant request.authority.scope = some grant
  claims : checkClaims registry.schema grant [] request.claims = .ok ()
  edits : checkEdits registry.schema grant request.edits = .ok ()

theorem checkEpoch_ok {registry : Registry} {request : PublicationRequest}
    (h : checkEpoch registry request = .ok ()) : request.epoch = registry.epoch := by
  unfold checkEpoch at h
  dsimp only at h
  split at h
  · cases h
  · rename_i hStale
    split at h
    · cases h
    · rename_i hUnknown
      rw [not_or] at hStale
      exact UInt64.le_antisymm (UInt64.not_lt.1 hUnknown) (UInt64.not_lt.1 hStale.2)

theorem checkPublisher_ok {registry : Registry} {request : PublicationRequest}
    {runtime : PublisherRuntime} (h : checkPublisher registry request = .ok runtime) :
    request.authority.workerBoot ∉ registry.fencedBoots ∧
      registry.findRuntime request.publisherKey = some runtime := by
  unfold checkPublisher at h
  split at h
  · cases h
  · rename_i hUnfenced
    refine ⟨hUnfenced, ?_⟩
    split at h
    · cases h
    · rename_i found hFound
      split at h
      · cases h
      · split at h
        · cases h
        · split at h
          · cases h
          · cases h
            exact hFound

theorem checkGrant_ok {registry : Registry} {request : PublicationRequest}
    {grant : AuthorityGrant} (h : checkGrant registry request = .ok grant) :
    registry.findGrant request.authority.scope = some grant := by
  unfold checkGrant at h
  split at h
  · cases h
  · rename_i found hFound
    split at h
    · cases h
    · split at h
      · cases h
      · split at h
        · cases h
        · cases h
          exact hFound

theorem validateRequest_ok {registry : Registry} {request : PublicationRequest}
    {runtime : PublisherRuntime} {grant : AuthorityGrant}
    (h : validateRequest registry request = .ok (runtime, grant)) :
    ValidRequest registry request runtime grant := by
  unfold validateRequest at h
  obtain ⟨_, hShape, h⟩ := outcome_bind_eq_ok.1 h
  obtain ⟨_, hEpoch, h⟩ := outcome_bind_eq_ok.1 h
  obtain ⟨found, hPublisher, h⟩ := outcome_bind_eq_ok.1 h
  obtain ⟨held, hGrant, h⟩ := outcome_bind_eq_ok.1 h
  obtain ⟨_, hClaims, h⟩ := outcome_bind_eq_ok.1 h
  obtain ⟨_, hEdits, h⟩ := outcome_bind_eq_ok.1 h
  cases h
  obtain ⟨hUnfenced, hRegistered⟩ := checkPublisher_ok hPublisher
  exact ⟨hShape, checkEpoch_ok hEpoch, hUnfenced, hRegistered, checkGrant_ok hGrant, hClaims,
    hEdits⟩

/-- The identifiers and the generation that stage 1 requires. -/
theorem checkShape_ok {request : PublicationRequest} (h : checkShape request = .ok ()) :
    request.entityGeneration ≠ 0 ∧ request.entity.isSet = true ∧
      request.authority.publisher.isSet = true ∧ request.authority.workerBoot.isSet = true ∧
      request.authority.source.isSet = true := by
  unfold checkShape at h
  obtain ⟨-, h⟩ := ite_failure_eq_ok.1 h
  obtain ⟨-, h⟩ := ite_failure_eq_ok.1 h
  obtain ⟨hEntity, h⟩ := ite_failure_eq_ok.1 h
  obtain ⟨hGeneration, h⟩ := ite_failure_eq_ok.1 h
  obtain ⟨hIds, -⟩ := ite_failure_eq_ok.1 h
  simp only [Bool.or_eq_true, Bool.not_eq_true', not_or, Bool.not_eq_false] at hEntity hIds
  exact ⟨hGeneration, hEntity, hIds.1.1.1, hIds.1.1.2, hIds.2⟩

/-! ## While a generation lasts -/

/-- The entity has moved on to a later generation, or `Q` holds. -/
def WhileGeneration (Q : EntityState → EntityState → Prop) (a b : EntityState) : Prop :=
  a.currentGeneration < b.currentGeneration ∨
    (a.currentGeneration = b.currentGeneration ∧ Q a b)

section WhileGeneration

variable {Q : EntityState → EntityState → Prop}

theorem WhileGeneration.trans (hTrans : ∀ a b c, Q a b → Q b c → Q a c) {a b c : EntityState}
    (hab : WhileGeneration Q a b) (hbc : WhileGeneration Q b c) : WhileGeneration Q a c := by
  rcases hab with hab | ⟨hab, hFirst⟩
  · rcases hbc with hbc | ⟨hbc, -⟩
    · exact .inl (UInt64.lt_trans hab hbc)
    · exact .inl (hbc ▸ hab)
  · rcases hbc with hbc | ⟨hbc, hSecond⟩
    · exact .inl (hab ▸ hbc)
    · exact .inr ⟨hab.trans hbc, hTrans _ _ _ hFirst hSecond⟩

end WhileGeneration

/-! ## Growth of the entities -/

/-- An entity as it is created. -/
def FreshEntity (entity : EntityState) : Prop :=
  ∃ registryGeneration id generation, generation ≠ 0 ∧
    entity = newEntity registryGeneration id generation

/-- No two entities share an identifier. -/
def Registry.Distinct (registry : Registry) : Prop :=
  (registry.entities.map EntityState.id).Nodup

theorem init_entities (options : Options) : (Registry.init options).entities = [] := by
  unfold Registry.init
  split <;> rfl

/-- The entities of `a` are in `b`, each related to what it was, the other entities of `b`
develop from new ones, and identifiers stay distinct. -/
structure Follows (R : EntityState → EntityState → Prop) (a b : Registry) : Prop where
  grows : Grows EntityState.id R FreshEntity a.entities b.entities
  distinct : a.Distinct → b.Distinct

/-- What the stages of `Publish` but the tenth do to an entity. -/
structure PublishRule (R : EntityState → EntityState → Prop) : Prop where
  refl : ∀ entity, R entity entity
  trans : ∀ a b c, R a b → R b c → R a c
  retired : ∀ options registryGeneration (entity : EntityState) next reason touchedAt,
    entity.currentGeneration < next →
    R entity { retireGeneration options registryGeneration entity next reason with touchedAt }
  exhausted : ∀ (entity : EntityState) next, counterNext entity.setGeneration = .ok next →
    R entity { entity with setGeneration := next }
  committed : ∀ (registry advanced : Registry) entity next request,
    advanceGenerations registry entity (semanticChange entity.set entity) =
      (advanced, .ok next) →
    R entity (committedEntity advanced.registryGeneration next request)

/-- The same for the entities of a registry with given options, which bound the history. -/
structure StageRule (options : Options) (R : EntityState → EntityState → Prop) : Prop where
  refl : ∀ entity, R entity entity
  trans : ∀ a b c, R a b → R b c → R a c
  retired : ∀ registryGeneration (entity : EntityState) next reason touchedAt,
    entity.currentGeneration < next →
    R entity { retireGeneration options registryGeneration entity next reason with touchedAt }
  exhausted : ∀ (entity : EntityState) next, counterNext entity.setGeneration = .ok next →
    R entity { entity with setGeneration := next }
  committed : ∀ (registry advanced : Registry) entity next request,
    advanceGenerations registry entity (semanticChange entity.set entity) =
      (advanced, .ok next) →
    R entity (committedEntity advanced.registryGeneration next request)

theorem PublishRule.stages {R : EntityState → EntityState → Prop} (rule : PublishRule R)
    (options : Options) : StageRule options R :=
  ⟨rule.refl, rule.trans, rule.retired options, rule.exhausted, rule.committed⟩

/-- What all operations do to an entity. -/
structure EntityRule (R : EntityState → EntityState → Prop) : Prop extends PublishRule R where
  observed : ∀ (entity : EntityState) generation, entity.currentGeneration = 0 →
    generation ≠ 0 →
    R entity { entity with currentGeneration := generation, boundGeneration := generation }
  relabelled : ∀ matching currentness reason indexes entity,
    R entity (relabelEntity matching currentness reason indexes entity).2
  flagged : ∀ (entity : EntityState) reason,
    R entity { entity with invalidated := true, invalidationReason := reason }
  refreshed : ∀ registryGeneration entity touchedAt,
    R entity { refreshEntity registryGeneration entity with touchedAt }

/-- What the operations that refresh sets do to an entity. -/
structure RefreshRule (R : EntityState → EntityState → Prop) : Prop where
  refl : ∀ entity, R entity entity
  trans : ∀ a b c, R a b → R b c → R a c
  relabelled : ∀ matching currentness reason indexes entity,
    R entity (relabelEntity matching currentness reason indexes entity).2
  flagged : ∀ (entity : EntityState) reason,
    R entity { entity with invalidated := true, invalidationReason := reason }
  refreshed : ∀ registryGeneration entity touchedAt,
    R entity { refreshEntity registryGeneration entity with touchedAt }

/-- What the operations that refresh sets do to an entity, said of the records that they
demote. -/
structure DemoteRule (R : EntityState → EntityState → Prop) : Prop where
  refl : ∀ entity, R entity entity
  trans : ∀ a b c, R a b → R b c → R a c
  demoted : ∀ currentness reason boot source includeDurable indexes entity,
    R entity (markNonCurrent currentness reason boot source includeDurable indexes entity).2
  flagged : ∀ (entity : EntityState) reason,
    R entity { entity with invalidated := true, invalidationReason := reason }
  refreshed : ∀ registryGeneration entity touchedAt,
    R entity { refreshEntity registryGeneration entity with touchedAt }

theorem RefreshRule.toDemoteRule {R : EntityState → EntityState → Prop} (rule : RefreshRule R) :
    DemoteRule R :=
  ⟨rule.refl, rule.trans, fun _ _ _ _ _ _ _ => rule.relabelled .., rule.flagged, rule.refreshed⟩

theorem EntityRule.toRefreshRule {R : EntityState → EntityState → Prop} (rule : EntityRule R) :
    RefreshRule R :=
  ⟨rule.refl, rule.trans, rule.relabelled, rule.flagged, rule.refreshed⟩

section WhileGeneration

variable {Q : EntityState → EntityState → Prop}

/-- A rule for what holds while a generation lasts: retiring it is always allowed. -/
theorem PublishRule.whileGeneration (hRefl : ∀ entity, Q entity entity)
    (hTrans : ∀ a b c, Q a b → Q b c → Q a c)
    (hExhausted : ∀ (entity : EntityState) next,
      counterNext entity.setGeneration = .ok next →
      Q entity { entity with setGeneration := next })
    (hCommitted : ∀ (registry advanced : Registry) entity next request,
      advanceGenerations registry entity (semanticChange entity.set entity) =
        (advanced, .ok next) →
      Q entity (committedEntity advanced.registryGeneration next request)) :
    PublishRule (WhileGeneration Q) where
  refl entity := .inr ⟨rfl, hRefl entity⟩
  trans _ _ _ := WhileGeneration.trans hTrans
  retired _ _ _ _ _ _ hAbove := .inl hAbove
  exhausted entity next hNext := .inr ⟨rfl, hExhausted entity next hNext⟩
  committed registry advanced entity next request hAdvance := by
    refine .inr ⟨?_, hCommitted registry advanced entity next request hAdvance⟩
    rw [committedEntity_currentGeneration, (advanceGenerations_ok hAdvance).2.1]

theorem EntityRule.whileGeneration (rule : PublishRule (WhileGeneration Q))
    (hRelabelled : ∀ matching currentness reason indexes entity,
      Q entity (relabelEntity matching currentness reason indexes entity).2)
    (hFlagged : ∀ (entity : EntityState) reason,
      Q entity { entity with invalidated := true, invalidationReason := reason })
    (hRefreshed : ∀ registryGeneration entity touchedAt,
      Q entity { refreshEntity registryGeneration entity with touchedAt }) :
    EntityRule (WhileGeneration Q) where
  toPublishRule := rule
  observed _ _ hUnset hNe :=
    .inl (hUnset ▸ UInt64.pos_iff_ne_zero.2 hNe)
  relabelled matching currentness reason indexes entity :=
    .inr ⟨rfl, hRelabelled matching currentness reason indexes entity⟩
  flagged entity reason := .inr ⟨rfl, hFlagged entity reason⟩
  refreshed registryGeneration entity touchedAt :=
    .inr ⟨rfl, hRefreshed registryGeneration entity touchedAt⟩

end WhileGeneration

/-- The steps of stage 10 respect the relation, for a publication that reaches them. -/
def AppliesWithin (R : EntityState → EntityState → Prop) (registry : Registry)
    (request : PublicationRequest) : Prop :=
  ∀ runtime grant bound entity,
    validateRequest registry request = .ok (runtime, grant) →
    bindEntity registry request = (bound, .ok entity) →
    checkPreconditions entity request = .ok () →
    R entity (runSteps bound request (bound.cell entity)
      (applySteps bound.schema grant request)).1.entity

/-- The steps of stage 10 respect the relation, for a publication that stage 7 lets pass
as well. -/
def AppliesAdmitted (R : EntityState → EntityState → Prop) (registry : Registry)
    (request : PublicationRequest) : Prop :=
  ∀ grant bound entity, admitted registry request = some (grant, bound, entity) →
    R entity (runSteps bound request (bound.cell entity)
      (applySteps bound.schema grant request)).1.entity

section Rules

variable {R : EntityState → EntityState → Prop} {registry : Registry}

theorem AppliesWithin.admitted {request : PublicationRequest}
    (h : AppliesWithin R registry request) : AppliesAdmitted R registry request := by
  intro grant bound entity hAdmitted
  obtain ⟨runtime, hValid, hBind, -, hChecked⟩ := admitted_some hAdmitted
  exact h runtime grant bound entity hValid hBind hChecked

theorem Follows.of_entities (hRefl : ∀ entity, R entity entity) {a b : Registry}
    (h : b.entities = a.entities) : Follows R a b :=
  ⟨h ▸ Grows.refl hRefl _, fun hDistinct => by rwa [Registry.Distinct, h]⟩

theorem Follows.trans (hTrans : ∀ a b c, R a b → R b c → R a c) {a b c : Registry}
    (hab : Follows R a b) (hbc : Follows R b c) : Follows R a c :=
  ⟨Grows.trans hTrans hab.grows hbc.grows, hbc.distinct ∘ hab.distinct⟩

theorem Follows.mono {S : EntityState → EntityState → Prop} (hRS : ∀ a b, R a b → S a b)
    {a b : Registry} (h : Follows R a b) : Follows S a b :=
  ⟨h.grows.mono hRS, h.distinct⟩

/-- An entity that is held is held later, at a related version. -/
theorem Follows.find {a b : Registry} (h : Follows R a b) {id : EntityId} {held : EntityState}
    (hFound : a.findEntity id = some held) :
    ∃ later, b.findEntity id = some later ∧ R held later :=
  h.grows.find hFound

/-- What holds of new entities, and of an entity once it held of its earlier version, holds
of all entities. -/
theorem Follows.invariant {I : EntityState → Prop} {a b : Registry}
    (h : Follows (fun held later => I held → I later) a b)
    (hFresh : ∀ registryGeneration id generation, generation ≠ 0 →
      I (newEntity registryGeneration id generation))
    (hAll : ∀ entity ∈ a.entities, I entity) : ∀ entity ∈ b.entities, I entity := by
  intro entity hMem
  rcases h.grows.mem hMem with ⟨held, hHeld, -, hLater⟩ | ⟨_, ⟨_, _, _, hNe, rfl⟩, -, hLater⟩
  · exact hLater (hAll held hHeld)
  · exact hLater (hFresh _ _ _ hNe)

/-- Writing back a later version of an entity that is held. -/
theorem Follows.setEntity (hRefl : ∀ entity, R entity entity) {base : Registry}
    {held : EntityState} (later : EntityState) (hFound : registry.findEntity later.id = some held)
    (h : R held later) (hBase : base.entities = registry.entities) :
    Follows R registry (base.setEntity later) := by
  refine ⟨?_, fun hDistinct => ?_⟩
  · rw [Registry.setEntity, hBase]
    exact Grows.upsert hRefl hFound h
  · rw [Registry.Distinct, Registry.setEntity, hBase]
    exact nodup_upsert hDistinct

theorem Follows.append (hRefl : ∀ entity, R entity entity)
    (registryGeneration : RegistryGeneration) {id : EntityId} {generation : EntityGeneration}
    (hMissing : registry.findEntity id = none) (h : generation ≠ 0) :
    Follows R registry { registry with
      entities := registry.entities ++ [newEntity registryGeneration id generation] } := by
  refine ⟨Grows.append hRefl _ ⟨_, ⟨_, _, _, h, rfl⟩, rfl, hRefl _⟩, fun hDistinct => ?_⟩
  have hUpsert : upsert EntityState.id (newEntity registryGeneration id generation)
      registry.entities = registry.entities ++ [newEntity registryGeneration id generation] :=
    upsert_of_missing hMissing
  rw [Registry.Distinct, ← hUpsert]
  exact nodup_upsert hDistinct

/-- A loop over all entities that rewrites each within the relation. -/
theorem Follows.visitEntities {base : Registry}
    {visit : Indexes → EntityState → Indexes × EntityState}
    (hId : ∀ indexes entity, (visit indexes entity).2.id = entity.id)
    (h : ∀ entity ∈ registry.entities, ∀ indexes, R entity (visit indexes entity).2)
    (hBase : base.entities = registry.entities) :
    Follows R registry (base.visitEntities visit) := by
  refine ⟨?_, fun hDistinct => ?_⟩
  · rw [Registry.visitEntities, hBase]
    exact Grows.mapAccum _ fun entity hMem indexes =>
      ⟨hId indexes entity, h entity hMem indexes⟩
  · rw [Registry.Distinct, Registry.visitEntities, hBase]
    rwa [map_mapAccum EntityState.id EntityState.id hId]

/-! ## Publications -/

theorem bindGeneration_follows (rule : StageRule registry.options R) {request : PublicationRequest}
    {held : EntityState} (hFound : registry.findEntity held.id = some held) :
    Follows R registry (bindGeneration registry request held).1 := by
  unfold bindGeneration
  split
  · exact Follows.of_entities rule.refl rfl
  · split
    · rename_i hAbove
      dsimp only
      split
      · exact Follows.setEntity rule.refl (retireGeneration ..) hFound
          (rule.retired _ held _ _ held.touchedAt hAbove) rfl
      · exact Follows.setEntity rule.refl { retireGeneration .. with touchedAt := _ }
          hFound (rule.retired _ held _ _ _ hAbove) rfl
    · exact Follows.of_entities rule.refl rfl

theorem bindEntity_follows (rule : StageRule registry.options R) {request : PublicationRequest}
    (hGeneration : request.entityGeneration ≠ 0) :
    Follows R registry (bindEntity registry request).1 := by
  unfold bindEntity
  split
  · rename_i held hFound
    exact bindGeneration_follows rule (findEntity_id hFound ▸ hFound)
  · rename_i hMissing
    split
    · exact Follows.of_entities rule.refl rfl
    · let created := newEntity registry.registryGeneration request.entity
        request.entityGeneration
      refine (Follows.append rule.refl registry.registryGeneration hMissing
        hGeneration).trans rule.trans (@bindGeneration_follows R
          { registry with entities := registry.entities ++ [created] } rule request created ?_)
      unfold Registry.findEntity at hMissing ⊢
      rw [show created.id = request.entity from rfl, lookup_append_right hMissing]
      simp [lookup, created, newEntity]

theorem commit_follows {options : Options} (rule : StageRule options R)
    {request : PublicationRequest} {entity : EntityState} {steps : List ApplyStep} {contentDigest : Bytes}
    (hFound : registry.findEntity entity.id = some entity) :
    Follows R registry
      (commit registry request entity.set entity steps contentDigest).1 := by
  unfold commit
  dsimp only
  split
  · rename_i failed e hEq
    -- only an exhausted registry generation writes anything before it fails
    unfold advanceGenerations at hEq
    split at hEq
    · split at hEq
      · cases hEq
        exact Follows.of_entities rule.refl rfl
      · rename_i setNext hNext
        dsimp only at hEq
        split at hEq
        · cases hEq
          exact Follows.setEntity rule.refl { entity with setGeneration := setNext }
            hFound (rule.exhausted _ _ hNext) rfl
        · cases hEq
    · cases hEq
  · rename_i advanced next hEq
    obtain ⟨hRegistry, hNext, -, -⟩ := advanceGenerations_ok hEq
    have hCommitted := rule.committed _ _ _ _ request hEq
    have hHeld : registry.findEntity
        (committedEntity advanced.registryGeneration next request).id = some entity := by
      rw [committedEntity_id, hNext]
      exact hFound
    have hBase : (advanced.registerReplay request.publisherKey
        { attempt := request.attempt, publication := request.publication,
          contentDigest }).entities = registry.entities := by
      rw [hRegistry]
      rfl
    exact (Follows.setEntity rule.refl _ hHeld hCommitted hBase).trans rule.trans
      (Follows.of_entities rule.refl rfl)

theorem reject_follows (hRefl : ∀ entity, R entity entity) (request : PublicationRequest)
    (e : Error) : Follows R registry (reject registry request e).1 := by
  rw [reject_registry]
  exact Follows.of_entities hRefl rfl

/-- One publication, under the options of the registry. -/
theorem stages_follow (rule : StageRule registry.options R) {request : PublicationRequest}
    (hApply : AppliesAdmitted R registry request) :
    Follows R registry (publish registry request).1 := by
  have hBindFollows : (∃ valid, validateRequest registry request = .ok valid) →
      Follows R registry (bindEntity registry request).1 := by
    rintro ⟨⟨runtime, grant⟩, hValid⟩
    exact bindEntity_follows rule (checkShape_ok (validateRequest_ok hValid).shape).1
  cases hAdmitted : admitted registry request with
  | none =>
      obtain ⟨journal, hAfter | ⟨hValid, hAfter⟩⟩ := publish_unadmitted hAdmitted
      · rw [hAfter]
        exact Follows.of_entities rule.refl rfl
      · rw [hAfter]
        exact (hBindFollows hValid).trans rule.trans (Follows.of_entities rule.refl rfl)
  | some stage =>
      obtain ⟨grant, bound, entity⟩ := stage
      obtain ⟨runtime, hValid, hBind, -, -⟩ := admitted_some hAdmitted
      obtain ⟨hId, -, hFound, -⟩ := bindEntity_ok hBind
      have hBound : Follows R registry bound := by
        have hFollows := hBindFollows ⟨_, hValid⟩
        rwa [hBind] at hFollows
      have hSame := runSteps_entity bound request (applySteps bound.schema grant request)
        (bound.cell entity)
      have hApplied : Follows R registry (applyRequest bound request entity
          (applySteps bound.schema grant request)).1 := by
        refine hBound.trans rule.trans (Follows.setEntity rule.refl _ ?_
          (hApply grant bound entity hAdmitted) rfl)
        rw [hSame.id_eq]
        exact hId ▸ hFound
      rw [publish_admitted hAdmitted]
      split
      · rename_i applied e hRan
        rw [hRan] at hApplied
        exact hApplied.trans rule.trans (reject_follows rule.refl _ _)
      · rename_i applied published hRan
        rw [hRan] at hApplied
        obtain ⟨-, rfl, rfl⟩ := applyRequest_entity hRan
        have hSet : entity.set = (runSteps bound request (bound.cell entity)
            (applySteps bound.schema grant request)).1.entity.set := by
          rw [hSame.set_eq]
          rfl
        rw [hSet]
        exact hApplied.trans rule.trans (commit_follows rule (findEntity_setEntity rfl))

/-- One publication. -/
theorem publish_follows (rule : PublishRule R) {request : PublicationRequest}
    (hApply : AppliesWithin R registry request) :
    Follows R registry (publish registry request).1 :=
  stages_follow (rule.stages _) hApply.admitted

/-! ## The other operations -/

theorem observeEntityGeneration_follows (rule : StageRule registry.options R)
    (hObserved : ∀ (entity : EntityState) generation, entity.currentGeneration = 0 →
      generation ≠ 0 →
      R entity { entity with currentGeneration := generation, boundGeneration := generation })
    (entity : EntityId) (generation : EntityGeneration) (reason : ReasonToken) :
    Follows R registry (observeEntityGeneration registry entity generation reason).1 := by
  unfold observeEntityGeneration
  split
  · exact Follows.of_entities rule.refl rfl
  · rename_i hSet
    have hNe : generation ≠ 0 := by
      rintro rfl
      exact hSet (by simp)
    split
    · rename_i hMissing
      split
      · exact Follows.of_entities rule.refl rfl
      · exact Follows.append rule.refl _ hMissing hNe
    · rename_i held hFound
      have hHeld : registry.findEntity held.id = some held := findEntity_id hFound ▸ hFound
      split
      · rename_i hUnset
        exact Follows.setEntity rule.refl
          { held with currentGeneration := _, boundGeneration := _ } hHeld
          (hObserved _ _ hUnset hNe) rfl
      · split
        · exact Follows.of_entities rule.refl rfl
        · rename_i hNotBelow
          split
          · exact Follows.of_entities rule.refl rfl
          · rename_i hOther
            have hAbove : held.currentGeneration < generation :=
              UInt64.lt_of_le_of_ne (UInt64.not_lt.1 hNotBelow) (Ne.symm hOther)
            dsimp only
            split
            · exact Follows.setEntity rule.refl (retireGeneration ..) hHeld
                (rule.retired _ held _ _ held.touchedAt hAbove) rfl
            · exact Follows.setEntity rule.refl { retireGeneration .. with touchedAt := _ } hHeld
                (rule.retired _ held _ _ _ hAbove) rfl

theorem advanceRegistry_entities {α : Type} (registry : Registry) (value : α) :
    (advanceRegistry registry value).1.entities = registry.entities := by
  unfold advanceRegistry
  split <;> rfl

/-- Fencing boots writes the fences only. -/
theorem fenceBoots_only (reason : ReasonToken) (registry : Registry)
    (boots : List WorkerBootId) :
    fenceBoots reason registry boots =
      { registry with
        fencedBoots := (fenceBoots reason registry boots).fencedBoots
        fences := (fenceBoots reason registry boots).fences } := by
  induction boots generalizing registry with
  | nil => rfl
  | cons boot boots ih =>
      unfold fenceBoots
      split
      · exact ih _
      · split
        · rfl
        · rw [ih]

theorem fenceBoots_entities (reason : ReasonToken) (registry : Registry)
    (boots : List WorkerBootId) :
    (fenceBoots reason registry boots).entities = registry.entities := by
  rw [fenceBoots_only]

/-- The advance of the epoch demotes the evidence of all boots. -/
theorem advanceCoordinatorEpoch_follows (hRefl : ∀ entity, R entity entity)
    (hTrans : ∀ a b c, R a b → R b c → R a c) {reason : ReasonToken}
    (h : ∀ entity ∈ registry.entities, ∀ registryGeneration reason indexes,
      R entity (demoteAndRefresh registryGeneration .revalidationRequired reason none indexes
        entity).2) :
    Follows R registry (advanceCoordinatorEpoch registry reason).1 := by
  unfold advanceCoordinatorEpoch
  split
  · exact Follows.of_entities hRefl rfl
  · dsimp only
    refine Follows.trans hTrans ?_ (Follows.of_entities hRefl (advanceRegistry_entities ..))
    exact Follows.visitEntities (fun _ _ => rfl) (fun entity hMem _ => h entity hMem _ _ _)
      (fenceBoots_entities ..)

theorem insertFence_follows (hRefl : ∀ entity, R entity entity)
    (hTrans : ∀ a b c, R a b → R b c → R a c) {base : Registry} {workerBoot : WorkerBootId}
    {reason : ReasonToken}
    (h : ∀ entity ∈ registry.entities, ∀ registryGeneration reason indexes,
      R entity (demoteAndRefresh registryGeneration .fenced reason (some workerBoot) indexes
        entity).2)
    (hBase : base.entities = registry.entities) :
    Follows R registry (insertFence base workerBoot reason).1 := by
  unfold insertFence
  dsimp only
  refine Follows.trans hTrans ?_ (Follows.of_entities hRefl (advanceRegistry_entities ..))
  exact Follows.visitEntities (fun _ _ => rfl) (fun entity hMem _ => h entity hMem _ _ _) hBase

/-- A fence of a boot that is not fenced yet demotes the evidence of the boot. -/
theorem fenceWorkerBoot_follows (hRefl : ∀ entity, R entity entity)
    (hTrans : ∀ a b c, R a b → R b c → R a c) {workerBoot : WorkerBootId}
    {reason : ReasonToken}
    (h : workerBoot ∉ registry.fencedBoots →
      ∀ entity ∈ registry.entities, ∀ registryGeneration reason indexes,
      R entity (demoteAndRefresh registryGeneration .fenced reason (some workerBoot) indexes
        entity).2) :
    Follows R registry (fenceWorkerBoot registry workerBoot reason).1 := by
  unfold fenceWorkerBoot
  split
  · exact Follows.of_entities hRefl rfl
  · split
    · exact Follows.of_entities hRefl rfl
    · rename_i hNew
      split
      · split
        · exact Follows.of_entities hRefl rfl
        · exact insertFence_follows hRefl hTrans (h hNew) rfl
      · exact insertFence_follows hRefl hTrans (h hNew) rfl

/-- `FenceWorkerBoot` adds the boot to the fences. -/
def Registry.addsFence (registry : Registry) (boot : WorkerBootId) : Bool :=
  boot.isSet && boot ∉ registry.fencedBoots &&
    (registry.fences.length < registry.options.maxFencedWorkerBoots ||
      (evictableFence registry).isSome)

theorem fenceWorkerBoot_skips {registry : Registry} {boot : WorkerBootId} {reason : ReasonToken}
    (h : registry.addsFence boot = false) : (fenceWorkerBoot registry boot reason).1 = registry := by
  unfold fenceWorkerBoot
  split
  · rfl
  · rename_i hSet
    split
    · rfl
    · rename_i hNew
      split
      · split
        · rfl
        · rename_i hFence
          simp [Registry.addsFence, hFence, hNew] at h
          exact absurd h (by simpa using hSet)
      · rename_i hRoom
        have hSetBoot : boot.isSet = true := by simpa using hSet
        simp only [Registry.addsFence, hSetBoot, hNew] at h
        simp at h
        omega

theorem invalidateEntity_follows (rule : DemoteRule R) (entity : EntityId)
    (generation : EntityGeneration) (reason : ReasonToken) :
    Follows R registry (invalidateEntity registry entity generation reason).1 := by
  unfold invalidateEntity
  split
  · exact Follows.of_entities rule.refl rfl
  · rename_i held hFound
    have hHeld : registry.findEntity held.id = some held := findEntity_id hFound ▸ hFound
    split
    · exact Follows.of_entities rule.refl rfl
    · dsimp only
      generalize hMarked : markNonCurrent .revalidationRequired
        (reasonOr reason (txt "entity-invalidated")) none none true registry.indexes held =
          marked
      have hRelabelled : R held marked.2 := hMarked ▸ rule.demoted ..
      have hId : marked.2.id = held.id := by
        rw [← hMarked]
        rfl
      -- the entity with the flag, which is what is refreshed and written back
      generalize hFlag : (if held.invalidated = true then marked.2 else
        { marked.2 with
          invalidated := true
          invalidationReason := reasonOr reason (txt "entity-invalidated") }) = flagged
      have hFlagged : R held flagged ∧ flagged.id = held.id := by
        rw [← hFlag]
        split
        · exact ⟨hRelabelled, hId⟩
        · exact ⟨rule.trans _ _ _ hRelabelled (rule.flagged ..), hId⟩
      have hWritten : registry.findEntity flagged.id = some held := hFlagged.2 ▸ hHeld
      split
      · split
        · exact Follows.setEntity rule.refl (refreshEntity _ flagged) hWritten
            (rule.trans _ _ _ hFlagged.1 (rule.refreshed _ _ registry.registryGeneration)) rfl
        · exact Follows.setEntity rule.refl { refreshEntity _ flagged with touchedAt := _ } hWritten
            (rule.trans _ _ _ hFlagged.1 (rule.refreshed ..)) rfl
      · exact Follows.setEntity rule.refl _ hWritten hFlagged.1 rfl

theorem relabelEntity_empty {matching : EvidenceRecord → Bool}
    {currentness : EvidenceCurrentness} {reason : ReasonToken} {indexes : Indexes}
    {entity : EntityState} (h : entity.capabilities = []) :
    (relabelEntity matching currentness reason indexes entity).2 = entity := by
  obtain ⟨⟩ := entity
  cases h
  rfl

theorem invalidateSourceIn_id (registryGeneration : RegistryGeneration) (source : SourceId)
    (reason : ReasonToken) (indexes : Indexes) (entity : EntityState) :
    (invalidateSourceIn registryGeneration source reason indexes entity).2.id = entity.id := by
  unfold invalidateSourceIn
  dsimp only
  split <;> rfl

theorem invalidateSource_follows (hRefl : ∀ entity, R entity entity)
    (hTrans : ∀ a b c, R a b → R b c → R a c) {source : SourceId} {reason : ReasonToken}
    (h : ∀ entity ∈ registry.entities, ∀ registryGeneration reason indexes,
      R entity (invalidateSourceIn registryGeneration source reason indexes entity).2) :
    Follows R registry (invalidateSource registry source reason).1 := by
  unfold invalidateSource
  split
  · exact Follows.of_entities hRefl rfl
  · dsimp only
    have hVisit : Follows R registry
        (registry.visitEntities (invalidateSourceIn registry.registryGeneration source
          (reasonOr reason (txt "source-invalidated")))) :=
      Follows.visitEntities (fun _ _ => invalidateSourceIn_id ..)
        (fun entity hMem _ => h entity hMem _ _ _) rfl
    split
    · exact hVisit.trans hTrans (Follows.of_entities hRefl (advanceRegistry_entities ..))
    · exact hVisit

theorem declareAuthority_entities (registry : Registry) (grant : AuthorityGrant) :
    (declareAuthority registry grant).1.entities = registry.entities := by
  unfold declareAuthority
  split
  · rfl
  · split
    · rfl
    · split <;> rfl

theorem registerPublisher_entities (registry : Registry) (publisher : PublisherId)
    (scope : AuthorityScopeId) (workerBoot : WorkerBootId) :
    (registerPublisher registry publisher scope workerBoot).1.entities =
      registry.entities := by
  unfold registerPublisher
  split
  · rfl
  · split
    · rfl
    · split
      · rfl
      · dsimp only
        split
        · rfl
        · split <;> rfl

theorem retirePublisher_entities (registry : Registry) (publisher : PublisherId)
    (workerBoot : WorkerBootId) :
    (retirePublisher registry publisher workerBoot).1.entities = registry.entities := by
  unfold retirePublisher
  dsimp only
  split <;> rfl

theorem registerVendorDescriptor_entities (registry : Registry)
    (descriptor : CapabilityDescriptor) :
    (registerVendorDescriptor registry descriptor).1.entities = registry.entities := by
  unfold registerVendorDescriptor
  split <;> rfl

theorem rehash_entities (registry : Registry)
    (publishers : List (PublisherKey × PublisherRuntime)) :
    ((Operation.rehash publishers).apply registry).entities = registry.entities := by
  rw [Operation.apply]
  split <;> rfl

/-- The operations that demote evidence and refresh the sets of the entities they find. -/
def Operation.refreshes : Operation → Bool
  | fenceWorkerBoot .. => true
  | advanceCoordinatorEpoch .. => true
  | invalidateEntity .. => true
  | invalidateSource .. => true
  | _ => false

/-- The publications of an operation run under the options of the registry. -/
theorem attempts_options {operation : Operation} :
    ∀ attempt ∈ attempts registry operation, attempt.before.options = registry.options :=
  attempts_invariant (P := fun later => later.options = registry.options)
    (fun later request h => (publish_control later request).options.trans h) rfl

/-- An operation that is no load and refreshes nothing, under the options of the registry,
when the publications in it apply within the relation. -/
theorem calmStages_follow (rule : StageRule registry.options R)
    (hObserved : ∀ (entity : EntityState) generation, entity.currentGeneration = 0 →
      generation ≠ 0 →
      R entity { entity with currentGeneration := generation, boundGeneration := generation })
    {operation : Operation}
    (hApply : ∀ attempt ∈ attempts registry operation,
      AppliesAdmitted R attempt.before attempt.request)
    (hNoLoad : NoLoad registry operation) (hCalm : operation.refreshes = false) :
    Follows R registry (operation.apply registry) := by
  cases operation with
  | publish request =>
      exact stages_follow rule (hApply ⟨registry, request⟩ (List.mem_singleton_self _))
  | publishBatch requests =>
      refine publishBatch_preserves (P := Follows R registry) (fun attempt hMem hBefore => ?_)
        (Follows.of_entities rule.refl rfl)
      have hOptions := attempts_options attempt hMem
      exact hBefore.trans rule.trans (stages_follow (hOptions ▸ rule) (hApply attempt hMem))
  | observeEntityGeneration entity generation reason =>
      exact observeEntityGeneration_follows rule hObserved ..
  | registerPublisher publisher scope workerBoot =>
      exact Follows.of_entities rule.refl (registerPublisher_entities ..)
  | retirePublisher publisher workerBoot =>
      exact Follows.of_entities rule.refl (retirePublisher_entities ..)
  | declareAuthority grant => exact Follows.of_entities rule.refl (declareAuthority_entities ..)
  | registerVendorDescriptor descriptor =>
      exact Follows.of_entities rule.refl (registerVendorDescriptor_entities ..)
  | load config file => cases hNoLoad
  | rehash publishers => exact Follows.of_entities rule.refl (rehash_entities ..)
  | _ => cases hCalm

/-- An operation that is no load and refreshes nothing, when the publications in it apply
within the relation. -/
theorem calmStep_follows (rule : PublishRule R)
    (hObserved : ∀ (entity : EntityState) generation, entity.currentGeneration = 0 →
      generation ≠ 0 →
      R entity { entity with currentGeneration := generation, boundGeneration := generation })
    {operation : Operation}
    (hApply : ∀ attempt ∈ attempts registry operation,
      AppliesWithin R attempt.before attempt.request)
    (hNoLoad : NoLoad registry operation) (hCalm : operation.refreshes = false) :
    Follows R registry (operation.apply registry) :=
  calmStages_follow (rule.stages _) hObserved (fun attempt hMem => (hApply attempt hMem).admitted)
    hNoLoad hCalm

/-- An operation that refreshes the sets of the entities it finds. -/
theorem demoteStep_follows (rule : DemoteRule R) {operation : Operation}
    (h : operation.refreshes = true) : Follows R registry (operation.apply registry) := by
  have hDemote : ∀ (entity : EntityState) registryGeneration currentness reason boot indexes,
      R entity (demoteAndRefresh registryGeneration currentness reason boot indexes
        entity).2 := fun _ _ _ _ _ _ =>
    rule.trans _ _ _ (rule.demoted ..) (rule.refreshed _ _ _)
  cases operation with
  | fenceWorkerBoot workerBoot reason =>
      exact fenceWorkerBoot_follows rule.refl rule.trans fun _ _ _ _ _ _ => hDemote ..
  | advanceCoordinatorEpoch reason =>
      exact advanceCoordinatorEpoch_follows rule.refl rule.trans fun _ _ _ _ _ => hDemote ..
  | invalidateEntity entity generation reason => exact invalidateEntity_follows rule ..
  | invalidateSource source reason =>
      refine invalidateSource_follows rule.refl rule.trans fun entity _ _ _ _ => ?_
      unfold invalidateSourceIn
      dsimp only
      split
      · exact rule.demoted ..
      · exact rule.trans _ _ _ (rule.demoted ..) (rule.refreshed _ _ _)
  | _ => cases h

theorem refreshStep_follows (rule : RefreshRule R) {operation : Operation}
    (h : operation.refreshes = true) : Follows R registry (operation.apply registry) :=
  demoteStep_follows rule.toDemoteRule h

/-- One operation: every one but a load, when the publications in it apply within the
relation. -/
theorem step_follows (rule : EntityRule R) {operation : Operation}
    (hApply : ∀ attempt ∈ attempts registry operation,
      AppliesWithin R attempt.before attempt.request)
    (h : NoLoad registry operation) : Follows R registry (operation.apply registry) := by
  cases hCalm : operation.refreshes with
  | false => exact calmStep_follows rule.toPublishRule rule.observed hApply h hCalm
  | true => exact refreshStep_follows rule.toRefreshRule hCalm

end Rules

/-! ## Rules about one entity -/

/-- The relation for the entity with one identifier. -/
def AtEntity (id : EntityId) (R : EntityState → EntityState → Prop) (a b : EntityState) :
    Prop :=
  b.id = a.id ∧ (a.id = id → R a b)

section AtEntity

variable {R : EntityState → EntityState → Prop}

theorem atEntity_trans {id : EntityId} (hTrans : ∀ a b c, R a b → R b c → R a c)
    (a b c : EntityState) (hab : AtEntity id R a b) (hbc : AtEntity id R b c) :
    AtEntity id R a c :=
  ⟨hbc.1.trans hab.1, fun h => hTrans _ _ _ (hab.2 h) (hbc.2 (hab.1.trans h))⟩

theorem PublishRule.atEntity (rule : PublishRule R) (id : EntityId) :
    PublishRule (AtEntity id R) where
  refl entity := ⟨rfl, fun _ => rule.refl entity⟩
  trans := atEntity_trans rule.trans
  retired _ _ _ _ _ _ hAbove := ⟨rfl, fun _ => rule.retired _ _ _ _ _ _ hAbove⟩
  exhausted _ _ hNext := ⟨rfl, fun _ => rule.exhausted _ _ hNext⟩
  committed _ _ entity _ request hAdvance := by
    refine ⟨?_, fun _ => rule.committed _ _ _ _ request hAdvance⟩
    rw [committedEntity_id, (advanceGenerations_ok hAdvance).2.1]

theorem EntityRule.atEntity (rule : EntityRule R) (id : EntityId) :
    EntityRule (AtEntity id R) where
  toPublishRule := rule.toPublishRule.atEntity id
  observed _ _ hUnset hNe := ⟨rfl, fun _ => rule.observed _ _ hUnset hNe⟩
  relabelled _ _ _ _ _ := ⟨rfl, fun _ => rule.relabelled _ _ _ _ _⟩
  flagged _ _ := ⟨rfl, fun _ => rule.flagged _ _⟩
  refreshed _ _ _ := ⟨rfl, fun _ => rule.refreshed _ _ _⟩

end AtEntity

/-! ## Bound generations -/

/-- The evidence of an entity is bound to its current generation. -/
def EntityState.BoundCurrent (entity : EntityState) : Prop :=
  entity.boundGeneration = entity.currentGeneration

theorem boundCurrent_rule :
    EntityRule fun a b => a.BoundCurrent → b.BoundCurrent where
  refl _ := id
  trans _ _ _ hab hbc := hbc ∘ hab
  retired _ _ _ _ _ _ _ _ := rfl
  exhausted _ _ _ := id
  committed _ _ _ _ _ _ _ := rfl
  observed _ _ _ _ _ := rfl
  relabelled _ _ _ _ _ := id
  flagged _ _ := id
  refreshed _ _ _ := id

theorem SameEntity.boundCurrent {a b : EntityState} (h : SameEntity a b)
    (hBound : a.BoundCurrent) : b.BoundCurrent := by
  unfold SameEntity at h
  rw [h]
  exact hBound

end FabricCapability.Ports
