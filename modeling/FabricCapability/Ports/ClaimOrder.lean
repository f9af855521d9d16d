import FabricCapability.Ports.ClaimRuns
import FabricCapability.Ports.ImpliedAbsence
import FabricCapability.Ports.SnapshotCurrency

/-!
# The order of the claims of a request

The claims of a request are for distinct capabilities, and each acts on an entry of its own.
So their order shows in the order of new entries only, which the sorted set does not show.

Two places look at the order all the same.  The content digest of a request is taken over
the claims as they come, so the latest attempt is replayed in the order that it came in and
in no other.  And the absences that a snapshot implies take their provenance and their
source class from the first claim.
-/

namespace FabricCapability.Ports

open FabricCapability.Verified.KeyedList
open FabricCapability.Verified.Shuffles
open FabricCapability.Verified.StrictOrder

/-! ## Stages 1 to 6 -/

section Checks

variable {registry : Registry} {request : PublicationRequest} {claims : List CapabilityClaim}

theorem checkShape_reordered (h : claims.Perm request.claims) :
    checkShape { request with claims } = checkShape request := by
  have hEmpty : claims.isEmpty = request.claims.isEmpty := by
    rw [Bool.eq_iff_iff, List.isEmpty_iff, List.isEmpty_iff]
    exact ⟨fun hNil => (hNil ▸ h).nil_eq.symm, fun hNil => (hNil ▸ h.symm).nil_eq.symm⟩
  unfold checkShape
  dsimp only
  rw [hEmpty, h.length_eq]

theorem checkClaims_perm {schema : CapabilitySchema} {grant : AuthorityGrant}
    (h : claims.Perm request.claims) (checked : Unit) :
    checkClaims schema grant [] claims = .ok checked ↔
      checkClaims schema grant [] request.claims = .ok checked := by
  cases checked
  rw [checkClaims_ok_iff, checkClaims_ok_iff,
    (h.map fun claim => claim.capability.toText).nodup_iff]
  simp only [h.mem_iff]

theorem validateRequest_reordered (h : claims.Perm request.claims)
    (valid : PublisherRuntime × AuthorityGrant) :
    validateRequest registry { request with claims } = .ok valid ↔
      validateRequest registry request = .ok valid := by
  have hEpoch : checkEpoch registry { request with claims } = checkEpoch registry request := rfl
  have hPublisher : checkPublisher registry { request with claims } =
      checkPublisher registry request := rfl
  have hGrant : checkGrant registry { request with claims } = checkGrant registry request := by
    unfold checkGrant
    dsimp only
    rw [h.length_eq]
  unfold validateRequest
  rw [checkShape_reordered h, hEpoch, hPublisher, hGrant]
  simp only [outcome_bind_eq_ok, checkClaims_perm h]

end Checks

/-! ## Stage 10 -/

/-- The supersessions before the first claim. -/
def openingSteps (grant : AuthorityGrant) (mode : PublicationMode) : List ApplyStep :=
  match mode with
  | .fullSnapshot =>
      (if grant.exclusive then [.supersedeOtherIdentities] else []) ++ [.supersedeIdentity]
  | _ => []

/-- The descriptors for which a snapshot makes a claim of its own. -/
def leftOut (schema : CapabilitySchema) (grant : AuthorityGrant) (request : PublicationRequest) :
    List CapabilityDescriptor :=
  if request.mode == .fullSnapshot && grant.exclusive &&
      request.coverage == .fullEnumeration then
    schema.descriptors.filter fun descriptor =>
      descriptor.absenceIsNegative && descriptor.id.isSet &&
        !(request.claims.any fun claim => claim.capability.toText == descriptor.id.toText) &&
        namespaceAllowed grant descriptor.id.ns
  else []

/-- The claims of a request with their coverage, and then the implied ones. -/
def spokenClaims (request : PublicationRequest) : List CoveredClaim :=
  request.claims.map fun claim => (claim, request.coverage)

def impliedClaims (grant : AuthorityGrant) (request : PublicationRequest)
    (descriptors : List CapabilityDescriptor) : List CoveredClaim :=
  descriptors.map fun descriptor => (impliedAbsence grant request descriptor, .fullEnumeration)

section Steps

variable {schema : CapabilitySchema} {grant : AuthorityGrant} {request : PublicationRequest}
  {claims : List CapabilityClaim}

theorem applySteps_claims (hMode : request.mode ≠ .incremental) :
    applySteps schema grant request = openingSteps grant request.mode ++
      claimSteps (spokenClaims request ++ impliedClaims grant request
        (leftOut schema grant request)) := by
  unfold applySteps openingSteps leftOut
  split
  · rename_i hFull
    rw [hFull, fullSnapshotSteps, claimSteps, List.map_append, spokenClaims, impliedClaims,
      List.map_map, List.append_assoc]
    congr 1
    congr 1
    rw [Bool.and_assoc]
    cases grant.exclusive && request.coverage == .fullEnumeration with
    | false => rfl
    | true =>
        show List.map _ (List.map _ _) = List.map _ (List.map _ _)
        rw [List.map_map, List.map_map]
        rfl
  · rename_i hPartial
    rw [hPartial]
    show _ = claimSteps (spokenClaims request ++ [])
    rw [List.append_nil, claimSteps, spokenClaims, List.map_map]
    rfl
  · rename_i hIncremental
    exact absurd hIncremental hMode

theorem leftOut_reordered (h : claims.Perm request.claims) :
    leftOut schema grant { request with claims } = leftOut schema grant request := by
  unfold leftOut
  dsimp only
  simp only [h.any_eq]

end Steps

/-! ## The sorted set -/

/-- Two resolved entries that the order of the set tells apart. -/
def ShownApart (a b : CapabilityId × CapabilityResolution) : Prop :=
  a.2.capability = a.1 ∧ b.2.capability = b.1 ∧ a.1.toText ≠ b.1.toText

theorem ShownApart.symm (a b : CapabilityId × CapabilityResolution) (h : ShownApart a b) :
    ShownApart b a :=
  ⟨h.2.1, h.1, Ne.symm h.2.2⟩

theorem ShownApart.keys (a b : CapabilityId × CapabilityResolution) (h : ShownApart a b) :
    a.1 ≠ b.1 :=
  fun hEq => h.2.2 (congrArg CapabilityId.toText hEq)

theorem stands_of_resolved {e : CapabilityId × CapabilityResolution}
    (h : e.2.capability = e.1) : Stands Prod.fst ShownApart e := by
  intro a b hKey hPair
  exact ⟨h, hPair.2.1, fun hText => hPair.2.2 (hKey ▸ hText)⟩

/-- The set is sorted by the capabilities of its resolutions. -/
theorem resolutions_shown (entity : EntityState) :
    entity.resolutions =
      (sortBy (fun a b : CapabilityId × CapabilityResolution => a.2.capability.lt b.2.capability)
        entity.shown).map Prod.snd := by
  rw [@map_sortBy _ _ _ _ (fun a b : CapabilityResolution => a.capability.lt b.capability)
    fun _ _ => rfl, EntityState.shown, List.map_map]
  rfl

theorem resolutions_of_shuffled {a b : EntityState} (h : Shuffled ShownApart a.shown b.shown) :
    b.resolutions = a.resolutions := by
  have hOrder : StrictWeak fun a b : CapabilityId × CapabilityResolution =>
      a.2.capability.lt b.2.capability :=
    bytesLt_total.comap fun shown : CapabilityId × CapabilityResolution =>
      shown.2.capability.toText
  rw [resolutions_shown, resolutions_shown, sortBy_shuffled hOrder ?_ h]
  rintro x y ⟨hX, hY, hApart⟩
  rw [hX, hY]
  by_contra hNeither
  rw [not_or, Bool.not_eq_true, Bool.not_eq_true] at hNeither
  exact hApart (bytesLt_total.eq_of_not_lt _ _ hNeither.1 hNeither.2)

section Sets

variable {registry : Registry} {request : PublicationRequest} {cell : Cell}
  {spoken reordered implied impliedLater : List CoveredClaim}

theorem claimed_resolved (claim : CoveredClaim) :
    (cell.claimed registry request claim).2.capability =
      (cell.claimed registry request claim).1 :=
  computeResolution_capability ..

/-- Two orders of the claims, when the implied claims have the same effect. -/
theorem runClaims_resolutions
    (hTexts : (spoken.map fun claim => claim.1.capability.toText).Nodup)
    (hPerm : reordered.Perm spoken)
    (hImplied : impliedLater.map (cell.claimed registry request) =
      implied.map (cell.claimed registry request))
    (hDistinct : ((spoken ++ implied).map fun claim => claim.1.capability).Nodup)
    (hDistinctLater : ((reordered ++ impliedLater).map fun claim => claim.1.capability).Nodup)
    (hOk : (runSteps registry request cell (claimSteps (spoken ++ implied))).2 = .ok ())
    (hOkLater :
      (runSteps registry request cell (claimSteps (reordered ++ impliedLater))).2 = .ok ()) :
    (runSteps registry request cell
        (claimSteps (reordered ++ impliedLater))).1.entity.resolutions =
      (runSteps registry request cell (claimSteps (spoken ++ implied))).1.entity.resolutions := by
  refine resolutions_of_shuffled ?_
  rw [runClaims_shown hDistinct hOk, runClaims_shown hDistinctLater hOkLater, List.map_append,
    List.map_append, hImplied, updates, updates, List.foldl_append, List.foldl_append]
  have hResolved : ∀ (claims : List CoveredClaim),
      ∀ e ∈ claims.map (cell.claimed registry request), Stands Prod.fst ShownApart e := by
    intro claims e hMem
    obtain ⟨claim, -, rfl⟩ := List.mem_map.1 hMem
    exact stands_of_resolved (claimed_resolved claim)
  refine shuffled_updates_left ShownApart.symm ShownApart.keys (hResolved implied) ?_
  refine shuffled_updates ShownApart.symm ShownApart.keys (hPerm.symm.map _) ?_ (hResolved spoken) _
  refine List.pairwise_map.2 ((List.pairwise_map.1 hTexts).imp fun hNe => ?_)
  refine ⟨claimed_resolved _, claimed_resolved _, ?_⟩
  rw [claimed_capability, claimed_capability]
  exact hNe

end Sets

/-! ## Stage 11 -/

/-- How a call of `Publish` ends; none when it returns no result. -/
def publicationStatus (outcome : Outcome PublicationResult) : Option PublicationStatus :=
  outcome.toOption.map PublicationResult.status

theorem publicationStatus_ok (result : PublicationResult) :
    publicationStatus (.ok result) = some result.status := rfl

theorem committedResult_committed (registry : Registry) (request : PublicationRequest)
    (before : Option EntityCapabilitySet) (entity : EntityState) (steps : List ApplyStep)
    (changed : Bool) :
    (committedResult registry request before entity steps changed).status = .committed := rfl

section Commit

variable {first second : Registry} {entity later : EntityState} {request : PublicationRequest}

theorem journals_view (h : SameView first second) (entry entry' : JournalEntry) :
    SameView (first.recordJournal entry) (second.recordJournal entry') :=
  ⟨h.epoch, h.fences, h.entities⟩

theorem setEntity_view (h : SameView first second) (hView : later.view = entity.view) :
    SameView (first.setEntity entity) (second.setEntity later) := by
  refine ⟨h.epoch, h.fences, ?_⟩
  rw [Registry.setEntity, Registry.setEntity]
  show List.map _ (upsert EntityState.id later second.entities) =
    List.map _ (upsert EntityState.id entity first.entities)
  have hImage : ∀ (written : EntityState) (entities : List EntityState),
      (upsert EntityState.id written entities).map EntityState.view =
        upsert EntityView.id written.view (entities.map EntityState.view) :=
    fun _ _ => upsert_image fun _ => rfl
  rw [hImage, hImage, hView, h.entities]

theorem advanceGenerations_alike (changed : Bool)
    (hRegistry : second.registryGeneration = first.registryGeneration)
    (hSet : later.setGeneration = entity.setGeneration) :
    (∃ registryGeneration setGeneration,
      advanceGenerations first entity changed =
        ({ first with registryGeneration }, .ok { entity with setGeneration }) ∧
      advanceGenerations second later changed =
        ({ second with registryGeneration }, .ok { later with setGeneration })) ∨
    (∃ e e', (advanceGenerations first entity changed).2 = .error e ∧
      (advanceGenerations second later changed).2 = .error e') := by
  unfold advanceGenerations
  cases changed with
  | false =>
      refine .inl ⟨first.registryGeneration, entity.setGeneration, rfl, ?_⟩
      rw [← hRegistry, ← hSet]
      rfl
  | true =>
      rw [if_pos rfl, if_pos rfl, hSet, hRegistry]
      cases counterNext entity.setGeneration with
      | error e => exact .inr ⟨_, _, rfl, rfl⟩
      | ok setNext =>
          dsimp only
          cases counterNext first.registryGeneration with
          | error e => exact .inr ⟨_, _, rfl, rfl⟩
          | ok next => exact .inl ⟨next, setNext, rfl, rfl⟩

theorem commit_advanced {advanced : Registry} {next : EntityState}
    {before : Option EntityCapabilitySet} {steps : List ApplyStep} {contentDigest : Bytes}
    (h : advanceGenerations first entity (semanticChange before entity) =
      (advanced, .ok next)) :
    commit first request before entity steps contentDigest =
      (((advanced.registerReplay request.publisherKey
          { attempt := request.attempt, publication := request.publication,
            contentDigest }).setEntity
        (committedEntity advanced.registryGeneration next request)).recordJournal
          (journalEntry (committedResult advanced request before
            (publishedEntity advanced.registryGeneration next) steps
            (semanticChange before entity))),
        .ok (committedResult advanced request before
          (publishedEntity advanced.registryGeneration next) steps
          (semanticChange before entity))) := by
  unfold commit
  dsimp only
  rw [h]
  rfl

theorem commit_exhausted {before : Option EntityCapabilitySet} {steps : List ApplyStep}
    {contentDigest : Bytes} {e : Error}
    (h : (advanceGenerations first entity (semanticChange before entity)).2 = .error e) :
    (commit first request before entity steps contentDigest).2 = .error e := by
  unfold commit
  dsimp only
  generalize advanceGenerations first entity (semanticChange before entity) = ran at h ⊢
  obtain ⟨advanced, outcome⟩ := ran
  dsimp only at h
  rw [h]

theorem commit_committed (first : Registry) (request : PublicationRequest)
    (before : Option EntityCapabilitySet) (entity : EntityState) (steps : List ApplyStep)
    (contentDigest : Bytes) :
    publicationStatus (commit first request before entity steps contentDigest).2 =
        some .committed ∨
      publicationStatus (commit first request before entity steps contentDigest).2 = none := by
  cases hAdvance : advanceGenerations first entity (semanticChange before entity) with
  | mk advanced outcome =>
      cases outcome with
      | error e =>
          rw [commit_exhausted (congrArg Prod.snd hAdvance)]
          exact .inr rfl
      | ok next =>
          rw [commit_advanced hAdvance]
          exact .inl rfl

/-- Two commits of what shows the same. -/
theorem commit_alike {claims : List CapabilityClaim} (h : SameView first second)
    (hRegistry : second.registryGeneration = first.registryGeneration)
    (hSame : SameEntity entity later) (hResolutions : later.resolutions = entity.resolutions)
    (before : Option EntityCapabilitySet) (steps stepsLater : List ApplyStep)
    (contentDigest contentDigestLater : Bytes) :
    publicationStatus (commit second { request with claims } before later stepsLater
        contentDigestLater).2 =
      publicationStatus (commit first request before entity steps contentDigest).2 ∧
    ((commit first request before entity steps contentDigest).2.isOk = true →
      SameView (commit first request before entity steps contentDigest).1
        (commit second { request with claims } before later stepsLater contentDigestLater).1) := by
  have hChanged : semanticChange before later = semanticChange before entity := by
    unfold semanticChange
    rw [hResolutions]
  rcases advanceGenerations_alike (semanticChange before entity) hRegistry
      hSame.setGeneration_eq with
    ⟨registryGeneration, setGeneration, hFirst, hSecond⟩ | ⟨e, e', hFirst, hSecond⟩
  · rw [← hChanged] at hSecond
    rw [commit_advanced hFirst, commit_advanced hSecond, publicationStatus_ok,
      publicationStatus_ok, committedResult_committed, committedResult_committed]
    refine ⟨rfl, fun _ => ?_⟩
    have hView : (committedEntity registryGeneration { later with setGeneration }
        { request with claims }).view =
          (committedEntity registryGeneration { entity with setGeneration } request).view := by
      have hKept : ∀ held : EntityState,
          ({ held with setGeneration } : EntityState).resolutions = held.resolutions :=
        fun _ => rfl
      rw [committedEntity_shows, committedEntity_shows, hKept, hKept, hResolutions, hSame]
    refine journals_view (setEntity_view ?_ hView) _ _
    exact ⟨h.epoch, h.fences, h.entities⟩
  · rw [← hChanged] at hSecond
    rw [commit_exhausted hFirst, commit_exhausted hSecond]
    exact ⟨rfl, nofun⟩

end Commit

/-! ## Two orders -/

theorem runSteps_reordered {registry : Registry} {request : PublicationRequest}
    {claims : List CapabilityClaim} (cell : Cell) (steps : List ApplyStep) :
    runSteps registry { request with claims } cell steps =
      runSteps registry request cell steps := by
  induction steps generalizing cell with
  | nil => rfl
  | cons step steps ih =>
      have hStep : step.run registry { request with claims } cell =
          step.run registry request cell := by
        cases step <;> rfl
      rw [runSteps, runSteps, hStep]
      generalize step.run registry request cell = ran
      obtain ⟨next, outcome⟩ := ran
      cases outcome with
      | error e => rfl
      | ok u => exact ih next

section Opening

variable {bound : Registry} {request : PublicationRequest} {grant : AuthorityGrant}
  {entity : EntityState} {schema : CapabilitySchema}

theorem openingSteps_ok (cell : Cell) :
    (runSteps bound request cell (openingSteps grant request.mode)).2 = .ok () := by
  unfold openingSteps
  split
  · split <;> rfl
  · rfl

/-- What the first claim of a request finds. -/
def openedCell (bound : Registry) (grant : AuthorityGrant) (request : PublicationRequest)
    (entity : EntityState) : Cell :=
  (runSteps bound request (bound.cell entity) (openingSteps grant request.mode)).1

/-- All claims of a request: its own, and then the implied ones. -/
def coveredClaims (schema : CapabilitySchema) (grant : AuthorityGrant)
    (request : PublicationRequest) : List CoveredClaim :=
  spokenClaims request ++ impliedClaims grant request (leftOut schema grant request)

theorem runSteps_claims (hMode : request.mode ≠ .incremental) :
    runSteps bound request (bound.cell entity) (applySteps schema grant request) =
      runSteps bound request (openedCell bound grant request entity)
        (claimSteps (coveredClaims schema grant request)) := by
  rw [applySteps_claims hMode]
  exact runSteps_append_ok _ (openingSteps_ok _)

theorem coveredClaims_distinct {registry : Registry} {runtime : PublisherRuntime}
    (hSchema : registry.schema.Distinct)
    (hValid : validateRequest registry request = .ok (runtime, grant)) :
    ((coveredClaims registry.schema grant request).map fun claim => claim.1.capability).Nodup := by
  have hStated := stated_distinct hSchema hValid
  refine List.Sublist.nodup ?_ hStated
  rw [coveredClaims, List.map_append, List.map_append]
  refine List.Sublist.append ?_ ?_
  · rw [spokenClaims, List.map_map]
    exact List.Sublist.refl _
  · rw [impliedClaims, leftOut, impliedAbsences, hValid]
    dsimp only
    by_cases hFull : request.mode == .fullSnapshot
    · rw [hFull, Bool.true_and]
      split
      · rw [List.map_map, absenceClaims, List.map_map]
        exact List.Sublist.refl _
      · exact List.Sublist.refl _
    · rw [Bool.not_eq_true] at hFull
      rw [hFull]
      exact List.nil_sublist _

end Opening

/-- Both orders of the claims end in the same way. -/
structure SameAnswer (first second : Attempt) : Prop where
  status : publicationStatus second.result = publicationStatus first.result
  digest : first.committed = true → second.after.computeDigest = first.after.computeDigest
  resolutions : first.committed = true → ∀ capability,
    (second.after.entryOf first.request.entity capability).resolution =
      (first.after.entryOf first.request.entity capability).resolution

/-- The latest attempt of the publisher is no copy of the request in one order only. -/
def ReplaysAlike (registry : Registry) (request : PublicationRequest)
    (claims : List CapabilityClaim) : Prop :=
  ∀ runtime grant bound entity, validateRequest registry request = .ok (runtime, grant) →
    bindEntity registry request = (bound, .ok entity) →
    ∀ latest ∈ runtime.replay.getLast?, latest.attempt = request.attempt →
      (latest.contentDigest = (requestContentDigest request grant).toText ↔
        latest.contentDigest = (requestContentDigest { request with claims } grant).toText)

theorem committed_iff (attempt : Attempt) :
    attempt.committed = true ↔ publicationStatus attempt.result = some .committed := by
  unfold Attempt.committed publicationStatus
  cases attempt.result with
  | error e => exact iff_of_false nofun nofun
  | ok result =>
      show (result.status == .committed) = true ↔ some result.status = some .committed
      rw [beq_iff_eq, Option.some.injEq]

/-- Only a commit says more than its status. -/
theorem sameAnswer_uncommitted {first second : Attempt}
    (h : publicationStatus first.result ≠ some .committed) :
    SameAnswer first second ↔
      publicationStatus second.result = publicationStatus first.result :=
  ⟨fun hSame => hSame.status, fun hStatus => ⟨hStatus,
    fun hCommitted => absurd ((committed_iff first).1 hCommitted) h,
    fun hCommitted => absurd ((committed_iff first).1 hCommitted) h⟩⟩

theorem SameEntity.view_eq {a b : EntityState} (h : SameEntity a b) : b.view = a.view := by
  unfold SameEntity at h
  rw [h]
  rfl

section Orders

variable {registry bound : Registry} {request : PublicationRequest} {runtime : PublisherRuntime}
  {grant : AuthorityGrant} {entity : EntityState} {claims : List CapabilityClaim}

theorem publish_bound (hValid : validateRequest registry request = .ok (runtime, grant))
    (hBind : bindEntity registry request = (bound, .ok entity)) :
    publish registry request = publishBound bound request runtime grant entity := by
  unfold publish
  rw [hValid]
  dsimp only
  rw [hBind]

theorem publishBound_runs (hMode : request.mode ≠ .incremental)
    (hFresh : classifyAttempt runtime request (requestContentDigest request grant).toText =
      .ok none) (hChecked : checkPreconditions entity request = .ok ()) :
    publishBound bound request runtime grant entity =
      match runSteps bound request (openedCell bound grant request entity)
        (claimSteps (coveredClaims bound.schema grant request)) with
      | (cell, .error e) => reject (bound.setCell cell) request e
      | (cell, .ok ()) =>
          commit (bound.setCell cell) request entity.set cell.entity
            (applySteps bound.schema grant request)
            (requestContentDigest request grant).toText := by
  unfold publishBound
  dsimp only
  rw [hFresh]
  dsimp only
  rw [hChecked]
  dsimp only
  rw [applyRequest, runSteps_claims hMode]
  generalize runSteps bound request (openedCell bound grant request entity)
    (claimSteps (coveredClaims bound.schema grant request)) = ran
  obtain ⟨cell, outcome⟩ := ran
  cases outcome with
  | error e => rfl
  | ok u => rfl

/-- What a commit of claims leaves in the entry of a capability. -/
theorem resolution_after {attempt : Attempt} (hCommitted : attempt.committed = true)
    (hMode : attempt.request.mode ≠ .incremental)
    (hSchema : attempt.before.schema.Distinct)
    (hValid : validateRequest attempt.before attempt.request = .ok (runtime, grant))
    (hBind : bindEntity attempt.before attempt.request = (bound, .ok entity))
    (capability : CapabilityId) :
    (attempt.after.entryOf attempt.request.entity capability).resolution =
      ((lookup Prod.fst capability (updates Prod.fst
        (openedCell bound grant attempt.request entity).entity.shown
        ((coveredClaims attempt.before.schema grant attempt.request).map
          ((openedCell bound grant attempt.request entity).claimed bound
            attempt.request)))).map Prod.snd).getD {} := by
  obtain ⟨result, ⟨c⟩⟩ := attempt.committed_stages hCommitted
  obtain ⟨after, hAfter, hCapabilities⟩ := c.capabilities_after
  have hBound : (c.bound, c.entity) = (bound, entity) := by
    have hBoth := c.binds.symm.trans hBind
    rw [Prod.mk.injEq, Except.ok.injEq] at hBoth
    exact Prod.ext hBoth.1 hBoth.2
  have hGrant : c.grant = grant := by
    have hBoth := c.valid.symm.trans hValid
    rw [Except.ok.injEq, Prod.mk.injEq] at hBoth
    exact hBoth.2
  obtain ⟨rfl, rfl⟩ := Prod.mk.inj hBound
  subst hGrant
  have hRuns := c.runs
  have hSteps : publicationSteps attempt.before attempt.request =
      applySteps attempt.before.schema c.grant attempt.request := by
    rw [publicationSteps, c.valid]
  rw [hSteps, runSteps_claims hMode] at hRuns hCapabilities
  have hShown := runClaims_shown (coveredClaims_distinct hSchema c.valid) hRuns
  rw [← hShown, EntityState.shown, ← hCapabilities,
    @lookup_image _ _ _ CapabilityEntry.id _ _ _ _ _ fun entry _ => shown_id entry,
    Registry.entryOf_found hAfter, EntityState.entryOf, EntityState.findCapability]
  cases lookup CapabilityEntry.id capability after.capabilities with
  | none => rfl
  | some entry => rfl

theorem bindEntity_reordered :
    bindEntity registry { request with claims } = bindEntity registry request := rfl

theorem openedCell_reordered :
    openedCell bound grant { request with claims } entity =
      openedCell bound grant request entity :=
  congrArg Prod.fst (runSteps_reordered _ _)

theorem impliedClaims_capability (request : PublicationRequest)
    (descriptors : List CapabilityDescriptor) :
    (impliedClaims grant request descriptors).map (fun claim => claim.1.capability) =
      descriptors.map CapabilityDescriptor.id := by
  rw [impliedClaims, List.map_map]
  rfl

theorem spokenClaims_reordered (h : claims.Perm request.claims) :
    (spokenClaims { request with claims }).Perm (spokenClaims request) :=
  h.map _

theorem coveredClaims_capability (h : claims.Perm request.claims) (schema : CapabilitySchema) :
    ((coveredClaims schema grant { request with claims }).map fun claim =>
      claim.1.capability).Perm
        ((coveredClaims schema grant request).map fun claim => claim.1.capability) := by
  rw [coveredClaims, coveredClaims, List.map_append, List.map_append, impliedClaims_capability,
    impliedClaims_capability, leftOut_reordered h]
  exact ((spokenClaims_reordered h).map _).append_right _

/-- Whichever claim comes first, the implied claims have the same effect. -/
def ImpliedAlike (bound : Registry) (grant : AuthorityGrant) (entity : EntityState)
    (request : PublicationRequest) (claims : List CapabilityClaim) : Prop :=
  ∀ descriptor ∈ leftOut bound.schema grant request,
    (openedCell bound grant request entity).claimed bound request
        (impliedAbsence grant { request with claims } descriptor, .fullEnumeration) =
      (openedCell bound grant request entity).claimed bound request
        (impliedAbsence grant request descriptor, .fullEnumeration)

theorem ImpliedAlike.map_eq (h : ImpliedAlike bound grant entity request claims) :
    (impliedClaims grant { request with claims } (leftOut bound.schema grant request)).map
        ((openedCell bound grant request entity).claimed bound request) =
      (impliedClaims grant request (leftOut bound.schema grant request)).map
        ((openedCell bound grant request entity).claimed bound request) := by
  rw [impliedClaims, impliedClaims, List.map_map, List.map_map]
  exact List.map_congr_left h

/-- What is common to the runs of both orders. -/
structure BothValid (registry : Registry) (request : PublicationRequest)
    (claims : List CapabilityClaim) (runtime : PublisherRuntime) (grant : AuthorityGrant)
    (bound : Registry) (entity : EntityState) : Prop where
  mode : request.mode ≠ .incremental
  reordered : claims.Perm request.claims
  distinct : registry.schema.Distinct
  valid : validateRequest registry request = .ok (runtime, grant)
  binds : bindEntity registry request = (bound, .ok entity)

namespace BothValid

variable (h : BothValid registry request claims runtime grant bound entity)

include h

theorem validLater :
    validateRequest registry { request with claims } = .ok (runtime, grant) :=
  (validateRequest_reordered h.reordered _).2 h.valid

theorem schema_eq : bound.schema = registry.schema := by
  have hControl := bindEntity_control registry request
  rw [h.binds] at hControl
  exact hControl.schema

theorem covered_distinct :
    ((coveredClaims bound.schema grant request).map fun claim => claim.1.capability).Nodup :=
  h.schema_eq ▸ coveredClaims_distinct h.distinct h.valid

theorem coveredLater_distinct :
    ((coveredClaims bound.schema grant { request with claims }).map fun claim =>
      claim.1.capability).Nodup :=
  (coveredClaims_capability h.reordered _).nodup_iff.2 h.covered_distinct

theorem texts_distinct :
    ((spokenClaims request).map fun claim => claim.1.capability.toText).Nodup := by
  rw [spokenClaims, List.map_map]
  exact (checkClaims_ok_iff.1 (validateRequest_ok h.valid).claims).2.1

/-- There is room for both orders or for none. -/
theorem runs_alike :
    (runSteps bound request (openedCell bound grant request entity)
        (claimSteps (coveredClaims bound.schema grant { request with claims }))).2 = .ok () ↔
      (runSteps bound request (openedCell bound grant request entity)
        (claimSteps (coveredClaims bound.schema grant request))).2 = .ok () := by
  rw [runClaims_ok_iff h.covered_distinct, runClaims_ok_iff h.coveredLater_distinct]
  exact claimsFit_perm (coveredClaims_capability h.reordered _)

/-- The resolutions after both orders, from the claims that are implied. -/
theorem resolutions_alike
    (hFirst : Attempt.committed ⟨registry, request⟩ = true)
    (hSecond : Attempt.committed ⟨registry, { request with claims }⟩ = true) :
    (∀ capability,
      ((Attempt.after ⟨registry, { request with claims }⟩).entryOf request.entity
          capability).resolution =
        ((Attempt.after ⟨registry, request⟩).entryOf request.entity capability).resolution) ↔
    ImpliedAlike bound grant entity request claims := by
  have hBefore := resolution_after hFirst h.mode h.distinct h.valid h.binds
  have hAfter := resolution_after hSecond h.mode h.distinct h.validLater
    (bindEntity_reordered.trans h.binds)
  dsimp only at hBefore hAfter
  rw [openedCell_reordered] at hAfter
  rw [← h.schema_eq] at hBefore hAfter
  have hNodup : ∀ covered : List CoveredClaim,
      (covered.map fun claim => claim.1.capability).Nodup →
      ((covered.map ((openedCell bound grant request entity).claimed bound request)).map
        Prod.fst).Nodup := by
    intro covered hCovered
    rw [List.map_map]
    refine (List.map_congr_left fun claim _ => ?_) ▸ hCovered
    exact (claimed_capability claim).symm
  constructor
  · intro hSame descriptor hLeft
    have hSpoken : ∀ (asked : PublicationRequest),
        leftOut bound.schema grant asked = leftOut bound.schema grant request →
        (impliedAbsence grant asked descriptor, Coverage.fullEnumeration) ∈
          coveredClaims bound.schema grant asked := by
      intro asked hAsked
      exact List.mem_append_right _ (List.mem_map.2 ⟨descriptor, hAsked ▸ hLeft, rfl⟩)
    have hBoth := hSame descriptor.id
    rw [hBefore, hAfter] at hBoth
    have hOne := lookup_updates (List.mem_map_of_mem (hSpoken request rfl))
      (hNodup _ h.covered_distinct) (openedCell bound grant request entity).entity.shown
    have hOther := lookup_updates (List.mem_map_of_mem (hSpoken { request with claims }
      (leftOut_reordered h.reordered))) (hNodup _ h.coveredLater_distinct)
      (openedCell bound grant request entity).entity.shown
    have hKey : ∀ claim : CoveredClaim,
        ((openedCell bound grant request entity).claimed bound request claim).1 =
          claim.1.capability := claimed_capability
    rw [hKey] at hOne hOther
    let shown (found : Option (CapabilityId × CapabilityResolution)) : CapabilityResolution :=
      (found.map Prod.snd).getD {}
    refine Prod.ext ((hKey _).trans (hKey _).symm) ?_
    exact (congrArg shown hOther).symm.trans (hBoth.trans (congrArg shown hOne))
  · intro hAlike capability
    rw [hBefore, hAfter]
    have hPerm : ((coveredClaims bound.schema grant { request with claims }).map
        ((openedCell bound grant request entity).claimed bound request)).Perm
          ((coveredClaims bound.schema grant request).map
            ((openedCell bound grant request entity).claimed bound request)) := by
      rw [coveredClaims, coveredClaims, List.map_append, List.map_append,
        leftOut_reordered h.reordered, hAlike.map_eq]
      exact ((spokenClaims_reordered h.reordered).map _).append_right _
    have hLookup := lookup_updates_perm hPerm (hNodup _ h.coveredLater_distinct)
      (openedCell bound grant request entity).entity.shown capability
    exact congrArg (fun found => (found.map Prod.snd).getD {}) hLookup

/-- Both orders leave the same resolutions when the implied claims are alike. -/
theorem runs_resolutions (hAlike : ImpliedAlike bound grant entity request claims)
    (hOk : (runSteps bound request (openedCell bound grant request entity)
      (claimSteps (coveredClaims bound.schema grant request))).2 = .ok ()) :
    (runSteps bound request (openedCell bound grant request entity)
        (claimSteps (coveredClaims bound.schema grant
          { request with claims }))).1.entity.resolutions =
      (runSteps bound request (openedCell bound grant request entity)
        (claimSteps (coveredClaims bound.schema grant request))).1.entity.resolutions := by
  have hLater : coveredClaims bound.schema grant { request with claims } =
      spokenClaims { request with claims } ++
        impliedClaims grant { request with claims } (leftOut bound.schema grant request) := by
    rw [coveredClaims, leftOut_reordered h.reordered]
  have hDistinct := h.coveredLater_distinct
  have hOkLater := h.runs_alike.2 hOk
  rw [hLater] at hDistinct hOkLater ⊢
  exact runClaims_resolutions h.texts_distinct (spokenClaims_reordered h.reordered)
    hAlike.map_eq h.covered_distinct hDistinct hOk hOkLater

/-- An attempt that is new to the publisher. -/
theorem fresh_answer_iff
    (hFresh : ∀ digest, classifyAttempt runtime request digest = .ok none)
    (hChecked : checkPreconditions entity request = .ok ()) :
    SameAnswer ⟨registry, request⟩ ⟨registry, { request with claims }⟩ ↔
      (Attempt.committed ⟨registry, request⟩ = true ∨
        Attempt.committed ⟨registry, { request with claims }⟩ = true →
      ImpliedAlike bound grant entity request claims) := by
  have hModeLater : ({ request with claims } : PublicationRequest).mode ≠ .incremental := h.mode
  have hFirst := publish_bound h.valid h.binds
  have hSecond := publish_bound h.validLater (bindEntity_reordered.trans h.binds)
  rw [publishBound_runs h.mode (hFresh _) hChecked] at hFirst
  rw [publishBound_runs hModeLater (hFresh _) hChecked, openedCell_reordered,
    runSteps_reordered] at hSecond
  have hRuns := h.runs_alike
  have hEntities := fun covered : List CoveredClaim => runSteps_entity bound request
    (claimSteps covered) (openedCell bound grant request entity)
  have hSameFirst := hEntities (coveredClaims bound.schema grant request)
  have hSameSecond := hEntities (coveredClaims bound.schema grant { request with claims })
  have hResolutions := h.runs_resolutions
  have hAnswers := h.resolutions_alike
  clear hEntities
  generalize runSteps bound request (openedCell bound grant request entity)
    (claimSteps (coveredClaims bound.schema grant request)) = ran at *
  generalize runSteps bound request (openedCell bound grant request entity)
    (claimSteps (coveredClaims bound.schema grant { request with claims })) = ranLater at *
  obtain ⟨cell, outcome⟩ := ran
  obtain ⟨cellLater, outcomeLater⟩ := ranLater
  cases outcome with
  | error e =>
      cases outcomeLater with
      | ok u => exact absurd (hRuns.1 rfl) nofun
      | error e' =>
          have hStatus : publicationStatus (Attempt.result ⟨registry, request⟩) =
              some .rejected := by
            rw [Attempt.result, hFirst]
            rfl
          have hStatusLater :
              publicationStatus (Attempt.result ⟨registry, { request with claims }⟩) =
                some .rejected := by
            rw [Attempt.result, hSecond]
            rfl
          rw [sameAnswer_uncommitted (by rw [hStatus]; exact nofun), committed_iff, committed_iff,
            hStatus, hStatusLater]
          exact iff_of_true rfl fun hEither => hEither.elim nofun nofun
  | ok u =>
      cases outcomeLater with
      | error e' => exact absurd (hRuns.2 rfl) nofun
      | ok u' =>
          have hSameEntity : SameEntity cell.entity cellLater.entity := by
            unfold SameEntity at hSameFirst hSameSecond ⊢
            rw [hSameSecond, hSameFirst]
          have hView : SameView (bound.setCell cell) (bound.setCell cellLater) :=
            setEntity_view ⟨rfl, rfl, rfl⟩ hSameEntity.view_eq
          have hCommits := fun hAlike => @commit_alike (bound.setCell cell)
            (bound.setCell cellLater) cell.entity cellLater.entity request claims hView rfl
            hSameEntity (hResolutions hAlike rfl) entity.set
            (applySteps bound.schema grant request)
            (applySteps bound.schema grant { request with claims })
            (requestContentDigest request grant).toText
            (requestContentDigest { request with claims } grant).toText
          have hEnds := commit_committed (bound.setCell cell) request entity.set cell.entity
            (applySteps bound.schema grant request) (requestContentDigest request grant).toText
          have hEndsLater := commit_committed (bound.setCell cellLater) { request with claims }
            entity.set cellLater.entity (applySteps bound.schema grant { request with claims })
            (requestContentDigest { request with claims } grant).toText
          dsimp only at hFirst hSecond
          generalize commit (bound.setCell cell) request entity.set cell.entity
            (applySteps bound.schema grant request)
            (requestContentDigest request grant).toText = ends at *
          generalize commit (bound.setCell cellLater) { request with claims } entity.set
            cellLater.entity (applySteps bound.schema grant { request with claims })
            (requestContentDigest { request with claims } grant).toText = endsLater at *
          have hResult : Attempt.result ⟨registry, request⟩ = ends.2 := congrArg Prod.snd hFirst
          have hResultLater : Attempt.result ⟨registry, { request with claims }⟩ = endsLater.2 :=
            congrArg Prod.snd hSecond
          have hAfter : Attempt.after ⟨registry, request⟩ = ends.1 := congrArg Prod.fst hFirst
          have hAfterLater : Attempt.after ⟨registry, { request with claims }⟩ = endsLater.1 :=
            congrArg Prod.fst hSecond
          rw [committed_iff, committed_iff, hResult, hResultLater] at hAnswers ⊢
          constructor
          · intro hSame hEither
            have hStatus := hSame.status
            rw [hResult, hResultLater] at hStatus
            have hCommitted : publicationStatus ends.2 = some .committed :=
              hEither.elim id hStatus.symm.trans
            exact (hAnswers hCommitted (hStatus.trans hCommitted)).1
              (hSame.resolutions ((committed_iff _).2 (hResult ▸ hCommitted)))
          · intro hCondition
            by_cases hEither : publicationStatus ends.2 = some .committed ∨
                publicationStatus endsLater.2 = some .committed
            · have hAlike := hCondition hEither
              obtain ⟨hStatus, hShows⟩ := hCommits hAlike
              have hCommitted : publicationStatus ends.2 = some .committed :=
                hEither.elim id hStatus.symm.trans
              have hOk : ends.2.isOk = true := by
                cases hOutcome : ends.2 with
                | error e => rw [hOutcome] at hCommitted; cases hCommitted
                | ok result => rfl
              refine ⟨?_, fun _ => ?_, fun _ => ?_⟩
              · rw [hResult, hResultLater]
                exact hStatus
              · rw [hAfter, hAfterLater]
                exact (hShows hOk).computeDigest
              · exact (hAnswers hCommitted (hStatus.trans hCommitted)).2 hAlike
            · rw [not_or] at hEither
              rw [sameAnswer_uncommitted (hResult ▸ hEither.1), hResult, hResultLater,
                hEnds.resolve_left hEither.1, hEndsLater.resolve_left hEither.2]

end BothValid

end Orders

end FabricCapability.Ports
