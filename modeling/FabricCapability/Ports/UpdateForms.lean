import FabricCapability.Ports.FirstClaim
import FabricCapability.Ports.Retries

/-!
# The two forms of a partial update

A list of claims can be published as a partial observation, or as an incremental publication
of one upsert for each claim.  The two forms go through checks that are written twice, and
then run the same steps.

A request that passes the checks in one form passes them in the other one, when its claims
are for distinct capabilities and no more than the scope may publish at once: only the claims
of a partial observation are compared with one another, and only they are counted against the
scope.  The mode is part of the content of a request, so the form that the publisher committed
last is replayed and the other form conflicts with it.

## Main results

* `validateRequest_forms`: both forms pass the checks or neither does.
* `forms_agree`: they are both accepted and leave the same entity, or both are rejected.
* `forms_disagree`: a repeated capability, a retry in the other form, and a list that is too
  long for its scope.
-/

namespace FabricCapability.Ports

/-! ## The forms -/

/-- The claims as a partial observation. -/
def PublicationRequest.asPartial (request : PublicationRequest)
    (claims : List CapabilityClaim) : PublicationRequest :=
  { request with mode := .partialObservation, claims, edits := [] }

/-- The edit that states a claim. -/
def CapabilityClaim.asUpsert (claim : CapabilityClaim) : IncrementalEdit :=
  { operation := .upsertClaim, capability := claim.capability, claim }

/-- The claims as edits. -/
def PublicationRequest.asIncremental (request : PublicationRequest)
    (claims : List CapabilityClaim) : PublicationRequest :=
  { request with
    mode := .incremental
    claims := []
    edits := claims.map CapabilityClaim.asUpsert }

/-- A publication that is committed, or answered from the replay memory. -/
def accepted (outcome : Outcome PublicationResult) : Bool :=
  publicationStatus outcome == some .committed ||
    publicationStatus outcome == some .idempotentReplay

/-- The grant allows both forms. -/
def AuthorityGrant.allowsBoth (grant : AuthorityGrant) : Bool :=
  allowsMode grant.modes .partialObservation && allowsMode grant.modes .incremental

/-- Two publications are both accepted and leave the same entity, or neither is accepted. -/
structure PublishedAlike (first second : Registry × Outcome PublicationResult)
    (id : EntityId) : Prop where
  accepted_eq : accepted first.2 = accepted second.2
  entity : accepted first.2 = true →
    ∃ entity, first.1.findEntity id = some entity ∧ second.1.findEntity id = some entity

/-- The publisher retries its last commit in both forms or in neither. -/
def RetriedAlike (registry : Registry) (first second : PublicationRequest) : Prop :=
  ∀ runtime ∈ registry.findRuntime first.publisherKey,
    ∀ grant ∈ registry.findGrant first.authority.scope,
      ∀ latest ∈ runtime.replay.getLast?, latest.attempt = first.attempt →
        (latest.contentDigest = (requestContentDigest first grant).toText ↔
          latest.contentDigest = (requestContentDigest second grant).toText)

/-! ## The checks -/

section Checks

variable {registry : Registry} {request : PublicationRequest} {grant : AuthorityGrant}
  {claims : List CapabilityClaim}

theorem checkShape_forms :
    checkShape (request.asIncremental claims) = .ok () ↔
      checkShape (request.asPartial claims) = .ok () := by
  unfold checkShape PublicationRequest.asIncremental PublicationRequest.asPartial
  simp only [ite_failure_eq_ok, List.length_map, List.isEmpty_map, List.isEmpty_nil,
    List.length_nil, reduceCtorEq, false_and, true_and, ne_eq, not_true_eq_false,
    not_false_eq_true, Bool.not_true, Bool.false_eq_true, and_true]
  -- the two bounds of stage 1 are checked in the other order
  tauto

/-- The check of an edit that states a claim is the check of the claim by itself. -/
theorem checkEdit_asUpsert {schema : CapabilitySchema} {claim : CapabilityClaim} :
    checkEdit schema grant claim.asUpsert = .ok () ↔
      checkClaim schema grant [] claim = .ok () := by
  have hCapability : claim.asUpsert.capability = claim.capability := rfl
  have hClaim : claim.asUpsert.effectiveClaim = claim := rfl
  have hStates : ¬(claim.asUpsert.operation = .withdrawClaim ∨
      claim.asUpsert.operation = .supersedeSourceEvidence) := by
    rintro (h | h) <;> cases h
  unfold checkEdit checkClaim namespaceViolation
  rw [hCapability, hClaim, ite_failure_eq_ok, ite_failure_eq_ok, ite_failure_eq_ok,
    ite_failure_eq_ok, ite_failure_eq_ok, and_iff_right List.not_mem_nil]
  refine and_congr_right fun _ => and_congr_right fun _ => ?_
  rw [outcome_bind_eq_ok, outcome_bind_eq_ok]
  refine exists_congr fun descriptor => and_congr_right fun _ => ?_
  rw [if_neg hStates]
  dsimp only
  rw [ite_failure_eq_ok, ite_failure_eq_ok, ite_failure_eq_ok, ite_failure_eq_ok,
    ite_failure_eq_ok, ite_failure_eq_ok, not_or, Bool.and_or_distrib_left, Bool.or_eq_true,
    not_or, and_assoc, and_assoc]

theorem checkClaims_forms {schema : CapabilitySchema}
    (hDistinct : (claims.map fun claim => claim.capability.toText).Nodup) :
    checkEdits schema grant (claims.map CapabilityClaim.asUpsert) = .ok () ↔
      checkClaims schema grant [] claims = .ok () := by
  rw [checkEdits_ok_iff, checkClaims_ok_iff, List.forall_mem_map]
  simp only [checkEdit_asUpsert]
  exact ⟨fun hEach => ⟨hEach, hDistinct, fun _ _ => List.not_mem_nil⟩, fun hAll => hAll.1⟩

theorem checkGrant_forms (hGrant : registry.findGrant request.authority.scope = some grant)
    (hAllows : grant.allowsBoth = true)
    (hFew : claims.length ≤ grant.maxClaimsPerPublication) :
    checkGrant registry (request.asIncremental claims) =
      checkGrant registry (request.asPartial claims) := by
  obtain ⟨hPartial, hIncremental⟩ := Bool.and_eq_true_iff.1 hAllows
  have hNone : ¬([] : List CapabilityClaim).length > grant.maxClaimsPerPublication :=
    Nat.not_lt_zero _
  have hWithin : ¬claims.length > grant.maxClaimsPerPublication := Nat.not_lt.2 hFew
  unfold checkGrant PublicationRequest.asIncremental PublicationRequest.asPartial
  dsimp only
  rw [hGrant]
  dsimp only
  rw [hPartial, hIncremental, if_neg hNone, if_neg hWithin]
  rfl

theorem validateRequest_forms
    (hGrant : registry.findGrant request.authority.scope = some grant)
    (hAllows : grant.allowsBoth = true)
    (hFew : claims.length ≤ grant.maxClaimsPerPublication)
    (hDistinct : (claims.map fun claim => claim.capability.toText).Nodup)
    (valid : PublisherRuntime × AuthorityGrant) :
    validateRequest registry (request.asIncremental claims) = .ok valid ↔
      validateRequest registry (request.asPartial claims) = .ok valid := by
  have hEpoch : checkEpoch registry (request.asIncremental claims) =
      checkEpoch registry (request.asPartial claims) := rfl
  have hPublisher : checkPublisher registry (request.asIncremental claims) =
      checkPublisher registry (request.asPartial claims) := rfl
  unfold validateRequest
  rw [hEpoch, hPublisher, checkGrant_forms hGrant hAllows hFew]
  simp only [outcome_bind_eq_ok]
  refine exists_congr fun _ => and_congr checkShape_forms ?_
  refine exists_congr fun _ => and_congr_right fun _ => ?_
  refine exists_congr fun runtime => and_congr_right fun _ => ?_
  refine exists_congr fun held => and_congr_right fun _ => ?_
  have hChecks := @checkClaims_forms held claims registry.schema hDistinct
  show (∃ checked, checkClaims registry.schema held [] [] = .ok checked ∧
      ∃ edits, checkEdits registry.schema held (claims.map CapabilityClaim.asUpsert) =
        .ok edits ∧ _) ↔
    (∃ checked, checkClaims registry.schema held [] claims = .ok checked ∧
      ∃ edits, checkEdits registry.schema held [] = .ok edits ∧ _)
  constructor
  · rintro ⟨-, -, edits, hEdits, hValid⟩
    exact ⟨(), hChecks.1 hEdits, (), rfl, hValid⟩
  · rintro ⟨checked, hClaims, -, -, hValid⟩
    exact ⟨(), rfl, (), hChecks.2 hClaims, hValid⟩

end Checks

/-! ## Applying -/

section Applying

variable {registry : Registry} {request : PublicationRequest} {grant : AuthorityGrant}
  {claims : List CapabilityClaim}

theorem incrementalSteps_asUpsert (claims : List CapabilityClaim) :
    incrementalSteps false (claims.map CapabilityClaim.asUpsert) =
      claims.map fun claim => .applyClaim claim claim.coverage := by
  induction claims with
  | nil => rfl
  | cons claim claims ih =>
      show ApplyStep.applyClaim claim claim.coverage ::
        incrementalSteps false (claims.map CapabilityClaim.asUpsert) = _
      rw [ih]
      rfl

/-- Both forms of claims with the coverage of the request run the same steps. -/
theorem applySteps_forms (schema : CapabilitySchema)
    (hCoverage : ∀ claim ∈ claims, claim.coverage = request.coverage) :
    applySteps schema grant (request.asIncremental claims) =
      applySteps schema grant (request.asPartial claims) := by
  show incrementalSteps false (claims.map CapabilityClaim.asUpsert) =
    claims.map (.applyClaim · request.coverage)
  rw [incrementalSteps_asUpsert]
  refine List.map_congr_left fun claim hMem => ?_
  rw [hCoverage claim hMem]

/-- A step reads neither the mode of a request nor its claims and edits. -/
theorem runSteps_forms (cell : Cell) (steps : List ApplyStep) :
    runSteps registry (request.asIncremental claims) cell steps =
      runSteps registry (request.asPartial claims) cell steps := by
  induction steps generalizing cell with
  | nil => rfl
  | cons step steps ih =>
      have hStep : step.run registry (request.asIncremental claims) cell =
          step.run registry (request.asPartial claims) cell := by
        cases step <;> rfl
      rw [runSteps, runSteps, hStep]
      generalize step.run registry (request.asPartial claims) cell = ran
      obtain ⟨next, outcome⟩ := ran
      cases outcome with
      | error e => rfl
      | ok u => exact ih next

theorem applyRequest_forms (entity : EntityState) (steps : List ApplyStep) :
    applyRequest registry (request.asIncremental claims) entity steps =
      applyRequest registry (request.asPartial claims) entity steps := by
  unfold applyRequest
  rw [runSteps_forms]

end Applying

/-! ## Both publications -/

section Publishing

variable {registry bound : Registry} {request : PublicationRequest} {grant : AuthorityGrant}
  {runtime : PublisherRuntime} {entity : EntityState} {claims : List CapabilityClaim}

theorem accepted_of_status {outcome : Outcome PublicationResult}
    {status : Option PublicationStatus} (h : publicationStatus outcome = status) :
    accepted outcome = (status == some .committed || status == some .idempotentReplay) := by
  unfold accepted
  rw [h]

theorem reject_unaccepted (registry : Registry) (request : PublicationRequest) (e : Error) :
    accepted (reject registry request e).2 = false := rfl

/-- Two publications that are not accepted. -/
theorem PublishedAlike.refused {first second : Registry × Outcome PublicationResult}
    {id : EntityId} (hFirst : accepted first.2 = false) (hSecond : accepted second.2 = false) :
    PublishedAlike first second id := by
  refine ⟨hFirst.trans hSecond.symm, fun hAccepted => ?_⟩
  rw [hFirst] at hAccepted
  cases hAccepted

theorem commit_forms (before : Option EntityCapabilitySet) (steps : List ApplyStep)
    (contentDigest contentDigestLater : Bytes) (hId : entity.id = request.entity) :
    PublishedAlike
      (commit registry (request.asPartial claims) before entity steps contentDigest)
      (commit registry (request.asIncremental claims) before entity steps contentDigestLater)
      request.entity := by
  cases hAdvance : advanceGenerations registry entity (semanticChange before entity) with
  | mk advanced outcome =>
      cases outcome with
      | error e =>
          have hFails := congrArg Prod.snd hAdvance
          refine .refused ?_ ?_
          · rw [commit_exhausted hFails]
            rfl
          · rw [commit_exhausted hFails]
            rfl
      | ok next =>
          obtain ⟨-, hNext, -⟩ := advanceGenerations_ok hAdvance
          have hNextId : next.id = request.entity := by
            rw [hNext]
            exact hId
          rw [commit_advanced hAdvance, commit_advanced hAdvance]
          refine ⟨rfl, fun _ => ⟨committedEntity advanced.registryGeneration next request, ?_, ?_⟩⟩
          · exact findEntity_setEntity hNextId
          · exact findEntity_setEntity hNextId

/-- Stages 8 to 11 of both forms, for an attempt that is new to the publisher. -/
theorem publishBound_new_forms
    (hNew : ∀ request' digest, request'.attempt = request.attempt →
      classifyAttempt runtime request' digest = .ok none)
    (hCoverage : ∀ claim ∈ claims, claim.coverage = request.coverage)
    (hId : entity.id = request.entity) :
    PublishedAlike (publishBound bound (request.asPartial claims) runtime grant entity)
      (publishBound bound (request.asIncremental claims) runtime grant entity)
      request.entity := by
  have hChecks : checkPreconditions entity (request.asIncremental claims) =
      checkPreconditions entity (request.asPartial claims) := rfl
  unfold publishBound
  dsimp only
  rw [hNew (request.asPartial claims) _ rfl, hNew (request.asIncremental claims) _ rfl]
  dsimp only
  rw [hChecks, applySteps_forms bound.schema hCoverage, applyRequest_forms]
  cases checkPreconditions entity (request.asPartial claims) with
  | error e => exact .refused (reject_unaccepted _ _ _) (reject_unaccepted _ _ _)
  | ok u =>
      dsimp only
      cases hApply : applyRequest bound (request.asPartial claims) entity
        (applySteps bound.schema grant (request.asPartial claims)) with
      | mk applied outcome =>
          cases outcome with
          | error e => exact .refused (reject_unaccepted _ _ _) (reject_unaccepted _ _ _)
          | ok published =>
              obtain ⟨hSame, -⟩ := applyRequest_entity hApply
              exact commit_forms _ _ _ _ (hSame.id_eq.trans hId)

theorem findEntity_recordJournal (registry : Registry) (entry : JournalEntry) (id : EntityId) :
    (registry.recordJournal entry).findEntity id = registry.findEntity id := rfl

/-- An exact retry leaves the entities as they are. -/
theorem publishBound_retry {latest : ReplayRecord} (hLatest : runtime.replay.getLast? = some latest)
    (hAttempt : latest.attempt = request.attempt)
    (hDigest : latest.contentDigest = (requestContentDigest request grant).toText)
    (id : EntityId) :
    accepted (publishBound bound request runtime grant entity).2 = true ∧
      (publishBound bound request runtime grant entity).1.findEntity id =
        bound.findEntity id := by
  constructor
  · rw [accepted_of_status (publishBound_latest hLatest hAttempt), if_pos hDigest]
    rfl
  · unfold publishBound
    dsimp only
    rw [classifyAttempt_latest hLatest hAttempt hDigest]
    exact findEntity_recordJournal _ _ _

/-- Stages 7 to 11 of both forms. -/
theorem publishBound_forms (hFound : bound.findEntity request.entity = some entity)
    (hCoverage : ∀ claim ∈ claims, claim.coverage = request.coverage)
    (hRetried : ∀ latest ∈ runtime.replay.getLast?, latest.attempt = request.attempt →
      (latest.contentDigest = (requestContentDigest (request.asPartial claims) grant).toText ↔
        latest.contentDigest =
          (requestContentDigest (request.asIncremental claims) grant).toText)) :
    PublishedAlike (publishBound bound (request.asPartial claims) runtime grant entity)
      (publishBound bound (request.asIncremental claims) runtime grant entity)
      request.entity := by
  have hId : entity.id = request.entity := findEntity_id hFound
  cases hLatest : runtime.replay.getLast? with
  | none =>
      refine publishBound_new_forms (fun request' digest _ => ?_) hCoverage hId
      unfold classifyAttempt
      rw [hLatest]
  | some latest =>
      by_cases hAttempt : latest.attempt = request.attempt
      · -- the publisher retries its latest attempt
        have hDigests := hRetried latest hLatest hAttempt
        by_cases hSame : latest.contentDigest =
            (requestContentDigest (request.asPartial claims) grant).toText
        · obtain ⟨hFirst, hKept⟩ := @publishBound_retry bound (request.asPartial claims) grant
            runtime entity latest hLatest hAttempt hSame request.entity
          obtain ⟨hSecond, hKeptLater⟩ := @publishBound_retry bound
            (request.asIncremental claims) grant runtime entity latest hLatest hAttempt
            (hDigests.1 hSame) request.entity
          exact ⟨hFirst.trans hSecond.symm,
            fun _ => ⟨entity, hKept.trans hFound, hKeptLater.trans hFound⟩⟩
        · have hLater := mt hDigests.2 hSame
          refine .refused ?_ ?_
          · rw [accepted_of_status (publishBound_latest hLatest (by exact hAttempt)),
              if_neg hSame]
            rfl
          · rw [accepted_of_status (publishBound_latest hLatest (by exact hAttempt)),
              if_neg hLater]
            rfl
      · by_cases hKnown : runtime.replay.any (fun record => record.attempt = request.attempt)
        · refine .refused ?_ ?_
          · exact accepted_of_status (publishBound_stale hLatest (by exact hAttempt)
              (by exact hKnown))
          · exact accepted_of_status (publishBound_stale hLatest (by exact hAttempt)
              (by exact hKnown))
        · refine publishBound_new_forms (fun request' digest hEq => ?_) hCoverage hId
          unfold classifyAttempt
          rw [hLatest, hEq]
          dsimp only
          rw [if_neg hAttempt, if_neg hKnown]

/-- The two forms of a list of claims for distinct capabilities, within the bound of the
scope: both are accepted and leave the same entity, or neither is accepted. -/
theorem forms_agree (registry : Registry) (request : PublicationRequest)
    (claims : List CapabilityClaim) (grant : AuthorityGrant)
    (hGrant : registry.findGrant request.authority.scope = some grant)
    (hAllows : grant.allowsBoth = true)
    (hFew : claims.length ≤ grant.maxClaimsPerPublication)
    (hCoverage : ∀ claim ∈ claims, claim.coverage = request.coverage)
    (hDistinct : (claims.map fun claim => claim.capability.toText).Nodup)
    (hRetried : RetriedAlike registry (request.asPartial claims)
      (request.asIncremental claims)) :
    PublishedAlike (publish registry (request.asPartial claims))
      (publish registry (request.asIncremental claims)) request.entity := by
  have hForms := validateRequest_forms hGrant hAllows hFew hDistinct
  cases hValid : validateRequest registry (request.asPartial claims) with
  | error e =>
      cases hLater : validateRequest registry (request.asIncremental claims) with
      | error e' =>
          unfold publish
          rw [hValid, hLater]
          exact .refused (reject_unaccepted _ _ _) (reject_unaccepted _ _ _)
      | ok valid =>
          have hFirst := (hForms valid).1 hLater
          rw [hValid] at hFirst
          cases hFirst
  | ok valid =>
      obtain ⟨runtime, held⟩ := valid
      have hLater := (hForms (runtime, held)).2 hValid
      have hBinds : bindEntity registry (request.asIncremental claims) =
          bindEntity registry (request.asPartial claims) := rfl
      cases hBind : bindEntity registry (request.asPartial claims) with
      | mk bound outcome =>
          cases outcome with
          | error refusal =>
              unfold publish
              rw [hValid, hLater, hBinds, hBind]
              cases refusal with
              | rejected e => exact .refused (reject_unaccepted _ _ _) (reject_unaccepted _ _ _)
              | failed e => exact .refused rfl rfl
          | ok entity =>
              have hStands := validateRequest_ok hValid
              rw [publish_bound hValid hBind, publish_bound hLater (hBinds.trans hBind)]
              obtain ⟨-, -, hFound, -⟩ := bindEntity_ok hBind
              exact publishBound_forms hFound hCoverage
                (hRetried runtime hStands.registered held hStands.granted)

end Publishing

/-- What is asked of the two forms: a grant that allows both, and claims with the coverage
of the request. -/
def statedBothWays (registry : Registry) (request : PublicationRequest)
    (claims : List CapabilityClaim) : Bool :=
  (registry.findGrant request.authority.scope).any AuthorityGrant.allowsBoth &&
    claims.all fun claim => claim.coverage == request.coverage

namespace Sample

/-- The scope for one claim at a time. -/
def narrowSetup : List Operation :=
  [.declareAuthority { grant with maxClaimsPerPublication := 1 },
    .registerPublisher publisher scope bootOne]

def isolated : CapabilityClaim := claim .supported .processBound

def measured : CapabilityClaim := { isolated with capability := telemetry }

/-- The request whose claims are stated in both forms. -/
def stated : PublicationRequest := publication bootOne "attempt-1" 1 0 isolated

/-- The partial observation was committed before. -/
def statedBefore : List Operation := setup ++ [.publish (stated.asPartial [isolated])]

end Sample

theorem forms_agree_fresh :
    PublishedAlike
      (publish (afterRun {} Sample.setup)
        (Sample.stated.asPartial [Sample.isolated, Sample.measured]))
      (publish (afterRun {} Sample.setup)
        (Sample.stated.asIncremental [Sample.isolated, Sample.measured]))
      Sample.stated.entity := by
  have hNew : ((afterRun {} Sample.setup).findRuntime (Sample.stated.asPartial
      [Sample.isolated, Sample.measured]).publisherKey).all
        (fun runtime => runtime.replay.isEmpty) = true := by
    decide +kernel
  refine forms_agree (afterRun {} Sample.setup) Sample.stated
    [Sample.isolated, Sample.measured] Sample.grant (by decide +kernel) (by decide)
    (by decide) (by decide) (by decide +kernel) ?_
  intro runtime hFound held hHeld latest hLatest
  rw [Option.mem_def.1 hFound, Option.all_some, List.isEmpty_iff] at hNew
  rw [hNew] at hLatest
  cases hLatest

/-- Three lists whose forms differ: a capability is claimed twice, the publisher has just
committed one of the forms, and the scope may not publish so many claims at once. -/
theorem forms_disagree :
    (statedBothWays (afterRun {} Sample.setup) Sample.stated
        [Sample.isolated, Sample.isolated] = true ∧
      ¬PublishedAlike
        (publish (afterRun {} Sample.setup)
          (Sample.stated.asPartial [Sample.isolated, Sample.isolated]))
        (publish (afterRun {} Sample.setup)
          (Sample.stated.asIncremental [Sample.isolated, Sample.isolated]))
        Sample.stated.entity) ∧
    (statedBothWays (afterRun {} Sample.statedBefore) Sample.stated [Sample.isolated] = true ∧
      ¬PublishedAlike
        (publish (afterRun {} Sample.statedBefore) (Sample.stated.asPartial [Sample.isolated]))
        (publish (afterRun {} Sample.statedBefore)
          (Sample.stated.asIncremental [Sample.isolated]))
        Sample.stated.entity) ∧
    (statedBothWays (afterRun {} Sample.narrowSetup) Sample.stated
        [Sample.isolated, Sample.measured] = true ∧
      ¬PublishedAlike
        (publish (afterRun {} Sample.narrowSetup)
          (Sample.stated.asPartial [Sample.isolated, Sample.measured]))
        (publish (afterRun {} Sample.narrowSetup)
          (Sample.stated.asIncremental [Sample.isolated, Sample.measured]))
        Sample.stated.entity) := by
  refine ⟨⟨by decide +kernel, fun hAlike => absurd hAlike.accepted_eq ?_⟩,
    ⟨by decide +kernel, fun hAlike => absurd hAlike.accepted_eq ?_⟩,
    ⟨by decide +kernel, fun hAlike => absurd hAlike.accepted_eq ?_⟩⟩
  · decide +kernel
  · decide +kernel
  · decide +kernel

end FabricCapability.Ports
