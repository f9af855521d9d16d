import FabricCapability.Ports.ReplayAnswers

/-!
# Retries of a committed publication

A client that does not see the answer to a committed publication sends it again.  The answer
comes from the replay memory, but only after stages 1 to 5 have accepted the request once
more and stage 6 has bound its entity.

What the stages before the replay check read is the epoch, the fences, the registration, the
grant, the descriptors and the generation of the entity (`Unchanged`).  Other publishers and
the invalidations of sources and entities write none of it, and the set generation that the
request expects is checked in a later stage.

## Main results

* `validateRequest_transfers`: a request that was valid is valid wherever nothing that the
  first stages read has changed.
* `Answered.publish`: a replay answer writes to the journal only.
* `retries_are_safe`: retries of a commit whose attempt is still the latest one.
-/

namespace FabricCapability.Ports

open FabricCapability.Verified.KeyedList
open FabricCapability.Verified.Runs

/-! ## Validation elsewhere -/

theorem checkPublisher_transfers {a b : Registry} {request : PublicationRequest}
    {runtime held : PublisherRuntime} (h : checkPublisher a request = .ok runtime)
    (hUnfenced : request.authority.workerBoot ∉ b.fencedBoots)
    (hFound : b.findRuntime request.publisherKey = some held)
    (hRegistration : held.registration = runtime.registration)
    (hActive : held.active = runtime.active) (hEpoch : b.epoch = a.epoch) :
    checkPublisher b request = .ok held := by
  obtain ⟨hUnfencedBefore, hRegistered⟩ := checkPublisher_ok h
  unfold checkPublisher at h ⊢
  rw [if_neg hUnfencedBefore, hRegistered] at h
  rw [if_neg hUnfenced, hFound]
  dsimp only at h ⊢
  obtain ⟨hStillActive, h⟩ := ite_failure_eq_ok.1 h
  obtain ⟨hScope, h⟩ := ite_failure_eq_ok.1 h
  obtain ⟨hSameEpoch, -⟩ := ite_failure_eq_ok.1 h
  rw [hActive, hRegistration, hEpoch, if_neg hStillActive, if_neg hScope, if_neg hSameEpoch]

theorem checkGrant_transfers {a b : Registry} {request : PublicationRequest}
    (hGrant : b.findGrant request.authority.scope = a.findGrant request.authority.scope) :
    checkGrant b request = checkGrant a request := by
  unfold checkGrant
  rw [hGrant]

theorem checkEpoch_transfers {a b : Registry} {request : PublicationRequest}
    (hEpoch : b.epoch = a.epoch) : checkEpoch b request = checkEpoch a request := by
  unfold checkEpoch
  rw [hEpoch]

/-- A request that was valid is valid under a registration with the same fields, whatever its
memory has become. -/
theorem validateRequest_transfers {a b : Registry} {request : PublicationRequest}
    {runtime : PublisherRuntime} {grant : AuthorityGrant}
    (h : validateRequest a request = .ok (runtime, grant)) (hEpoch : b.epoch = a.epoch)
    (hGrant : b.findGrant request.authority.scope = a.findGrant request.authority.scope)
    (hRegistration : (b.findRuntime request.publisherKey).map
      (fun held => (held.registration, held.active)) = some (runtime.registration, runtime.active))
    (hSchema : b.schema = a.schema)
    (hUnfenced : request.authority.workerBoot ∉ b.fencedBoots) :
    ∃ held, b.findRuntime request.publisherKey = some held ∧
      validateRequest b request = .ok (held, grant) := by
  obtain ⟨held, hFound, hFields⟩ := Option.map_eq_some_iff.1 hRegistration
  obtain ⟨hSame, hActive⟩ := Prod.mk.inj hFields
  refine ⟨held, hFound, ?_⟩
  unfold validateRequest at h ⊢
  obtain ⟨_, hShape, h⟩ := outcome_bind_eq_ok.1 h
  obtain ⟨_, hTime, h⟩ := outcome_bind_eq_ok.1 h
  obtain ⟨found, hPublisher, h⟩ := outcome_bind_eq_ok.1 h
  obtain ⟨granted, hScope, h⟩ := outcome_bind_eq_ok.1 h
  obtain ⟨_, hClaims, h⟩ := outcome_bind_eq_ok.1 h
  obtain ⟨_, hEdits, h⟩ := outcome_bind_eq_ok.1 h
  cases h
  have hHere := checkPublisher_transfers hPublisher hUnfenced hFound hSame hActive hEpoch
  rw [← checkEpoch_transfers hEpoch] at hTime
  rw [← checkGrant_transfers hGrant] at hScope
  rw [← hSchema] at hClaims hEdits
  exact outcome_bind_eq_ok.2 ⟨_, hShape, outcome_bind_eq_ok.2 ⟨_, hTime,
    outcome_bind_eq_ok.2 ⟨_, hHere, outcome_bind_eq_ok.2 ⟨_, hScope,
      outcome_bind_eq_ok.2 ⟨_, hClaims, outcome_bind_eq_ok.2 ⟨_, hEdits, rfl⟩⟩⟩⟩⟩⟩

/-! ## Replay answers change nothing -/

/-- The request is answered from the replay memory. -/
def Answered (registry : Registry) (request : PublicationRequest) : Prop :=
  ∃ runtime grant entity latest,
    validateRequest registry request = .ok (runtime, grant) ∧
    registry.findEntity request.entity = some entity ∧
    entity.currentGeneration = request.entityGeneration ∧
    classifyAttempt runtime request (requestContentDigest request grant).toText =
      .ok (some latest)

section Answered

variable {registry : Registry} {request : PublicationRequest}

/-- The journal is not read before the answer. -/
theorem Answered.journal (h : Answered registry request) (journal : Journal) :
    Answered { registry with journal } request := h

/-- Nor is the set generation that the request expects. -/
theorem Answered.expecting (h : Answered registry request)
    (expected : CapabilitySetGeneration) :
    Answered registry { request with expectedSetGeneration := expected } := h

theorem Answered.publish (h : Answered registry request) :
    ∃ journal result, publish registry request = ({ registry with journal }, .ok result) ∧
      result.status = .idempotentReplay := by
  obtain ⟨runtime, grant, entity, latest, hValid, hFound, hGeneration, hReplay⟩ := h
  have hBind : bindEntity registry request = (registry, .ok entity) := by
    unfold bindEntity
    rw [hFound]
    show bindGeneration registry request entity = _
    unfold bindGeneration
    rw [hGeneration, if_neg (UInt64.lt_irrefl _), if_neg (UInt64.lt_irrefl _)]
  unfold Ports.publish
  simp only [hValid, hBind]
  unfold publishBound
  simp only [hReplay]
  exact ⟨_, _, rfl, rfl⟩

/-- So are any number of retries, whatever set generations they expect. -/
theorem Answered.publishEach (h : Answered registry request)
    (expected : List CapabilitySetGeneration) :
    ∃ journal results,
      publishEach registry (expected.map fun generation =>
        { request with expectedSetGeneration := generation }) =
          ({ registry with journal }, .ok results) ∧
      results.length = expected.length ∧
      ∀ result ∈ results, result.status = .idempotentReplay := by
  induction expected generalizing registry with
  | nil => exact ⟨registry.journal, [], rfl, rfl, by simp⟩
  | cons first rest ih =>
      obtain ⟨journal, result, hPublish, hStatus⟩ := (h.expecting first).publish
      obtain ⟨later, results, hRest, hLength, hAll⟩ := ih (h.journal journal)
      refine ⟨later, result :: results, ?_, ?_, ?_⟩
      · rw [List.map_cons, Ports.publishEach]
        simp only [hPublish, hRest]
        rfl
      · rw [List.length_cons, List.length_cons, hLength]
      · intro answer hMem
        rcases List.mem_cons.1 hMem with rfl | hMem
        · exact hStatus
        · exact hAll answer hMem

end Answered

/-! ## The latest attempt -/

/-- The attempt that the registration of the publisher remembers last. -/
def Registry.latestAttempt (registry : Registry) (key : PublisherKey) :
    Option MutationAttemptId :=
  (registry.findRuntime key).bind fun runtime =>
    runtime.replay.getLast?.map ReplayRecord.attempt

theorem latestAttempt_of_runtime {a b : Registry} {key : PublisherKey}
    (h : b.findRuntime key = a.findRuntime key) : b.latestAttempt key = a.latestAttempt key := by
  unfold Registry.latestAttempt
  rw [h]

theorem latestAttempt_eq_some {registry : Registry} {key : PublisherKey}
    {id : MutationAttemptId} (h : registry.latestAttempt key = some id) :
    ∃ runtime latest, registry.findRuntime key = some runtime ∧
      runtime.replay.getLast? = some latest ∧ latest.attempt = id := by
  obtain ⟨runtime, hFound, hLatest⟩ := Option.bind_eq_some_iff.1 h
  obtain ⟨latest, hLast, hAttempt⟩ := Option.map_eq_some_iff.1 hLatest
  exact ⟨runtime, latest, hFound, hLast, hAttempt⟩

theorem findRuntime_committed {attempt : Attempt} {result : PublicationResult}
    (c : Committed attempt.before attempt.request attempt.after result) :
    attempt.after.findRuntime attempt.request.publisherKey = some { c.runtime with
      replay := rememberIn attempt.before.options (attempt.request.replayRecord c.grant)
        c.runtime.replay } := by
  have hRegistered := (validateRequest_ok c.valid).registered
  rw [findRuntime_of_publishers c.publishers, findRuntime_registerReplay, hRegistered,
    Option.map_some, if_pos rfl]

/-- A commit makes its attempt the latest one. -/
theorem committed_latest {attempt : Attempt} (h : attempt.committed = true) :
    attempt.after.latestAttempt attempt.request.publisherKey =
      some attempt.request.attempt := by
  obtain ⟨result, ⟨c⟩⟩ := attempt.committed_stages h
  unfold Registry.latestAttempt
  rw [findRuntime_committed c, Option.bind_some, rememberIn, List.getLast?_concat]
  rfl

theorem Attempt.control (attempt : Attempt) : SameControl attempt.before attempt.after :=
  publish_control attempt.before attempt.request

/-- A publication leaves the other registrations alone. -/
theorem findRuntime_publish_other (attempt : Attempt) {key : PublisherKey}
    (h : key ≠ attempt.request.publisherKey) :
    attempt.after.findRuntime key = attempt.before.findRuntime key := by
  cases hCommitted : attempt.committed with
  | false => exact findRuntime_of_publishers (uncommitted_publishers hCommitted) key
  | true =>
      obtain ⟨result, ⟨c⟩⟩ := attempt.committed_stages hCommitted
      rw [findRuntime_of_publishers c.publishers, findRuntime_registerReplay]
      simp only [if_neg h, Option.map_id']

/-- While an attempt stays the latest one of a publisher, nothing is committed for it. -/
theorem uncommitted_while_latest {key : PublisherKey} {id : MutationAttemptId}
    {later : Attempt} (hBefore : later.before.latestAttempt key = some id)
    (hAfter : later.after.latestAttempt key = some id) :
    ¬(later.committed = true ∧ later.request.publisherKey = key) := by
  rintro ⟨hCommitted, rfl⟩
  rw [committed_latest hCommitted, Option.some.injEq] at hAfter
  obtain ⟨runtime, latest, hFound, hLast, hAttempt⟩ := latestAttempt_eq_some hBefore
  have hNot := @not_committed_of_remembers later
    (.inr ⟨runtime, hFound, latest, List.mem_of_getLast? hLast, hAttempt.trans hAfter.symm⟩)
  rw [hCommitted] at hNot
  cases hNot

theorem lastCommit_of_none_later {key : PublisherKey} {front rest : List Attempt}
    {original : Attempt} (hCommitted : original.committed = true)
    (hKey : original.request.publisherKey = key)
    (hRest : ∀ later ∈ rest, ¬(later.committed = true ∧ later.request.publisherKey = key)) :
    lastCommit key (front ++ original :: rest) = some original := by
  have hNone : (rest.filter fun attempt =>
      attempt.committed && attempt.request.publisherKey == key) = [] := by
    rw [List.filter_eq_nil_iff]
    intro later hMem
    simpa using hRest later hMem
  unfold lastCommit
  rw [List.filter_append, List.filter_cons_of_pos (by simp [hCommitted, hKey]), hNone,
    List.getLast?_concat]

/-- A record with the attempt and the digest of the request answers it. -/
theorem classifyAttempt_latest {runtime : PublisherRuntime} {request : PublicationRequest}
    {latest : ReplayRecord} {contentDigest : Bytes}
    (hLast : runtime.replay.getLast? = some latest) (hAttempt : latest.attempt = request.attempt)
    (hDigest : latest.contentDigest = contentDigest) :
    classifyAttempt runtime request contentDigest = .ok (some latest) := by
  unfold classifyAttempt
  rw [hLast]
  show (if latest.attempt = request.attempt then _ else _) = _
  rw [if_pos hAttempt, if_neg (not_not.2 hDigest)]

/-! ## Retries -/

/-- What stages 1 to 6 read for the request is the same, the fences apart. -/
structure Unchanged (a b : Registry) (request : PublicationRequest) : Prop where
  epoch : b.epoch = a.epoch
  grant : b.findGrant request.authority.scope = a.findGrant request.authority.scope
  registration :
    (b.findRuntime request.publisherKey).map (fun held => (held.registration, held.active)) =
      (a.findRuntime request.publisherKey).map (fun held => (held.registration, held.active))
  schema : b.schema = a.schema
  generation : (b.findEntity request.entity).map EntityState.currentGeneration =
    (a.findEntity request.entity).map EntityState.currentGeneration

section Unchanged

variable {original : Attempt} {result : PublicationResult} {b : Registry}

/-- A request stays valid after its commit. -/
theorem validateRequest_since
    (c : Committed original.before original.request original.after result)
    (h : Unchanged original.after b original.request)
    (hUnfenced : original.request.authority.workerBoot ∉ b.fencedBoots) :
    ∃ held, b.findRuntime original.request.publisherKey = some held ∧
      validateRequest b original.request = .ok (held, c.grant) := by
  have hControl := original.control
  refine validateRequest_transfers c.valid (h.epoch.trans hControl.epoch)
    (h.grant.trans ?_) ?_ (h.schema.trans hControl.schema) hUnfenced
  · unfold Registry.findGrant
    rw [hControl.authorities]
  · rw [h.registration, findRuntime_committed c]
    rfl

/-- The entity stays bound to the generation of the commit. -/
theorem findEntity_since
    (c : Committed original.before original.request original.after result)
    (h : Unchanged original.after b original.request) :
    ∃ entity, b.findEntity original.request.entity = some entity ∧
      entity.currentGeneration = original.request.entityGeneration := by
  obtain ⟨_, next, hFound, -, hGeneration, -⟩ := c.entity_after
  have hEntity := h.generation
  rw [hFound, Option.map_some] at hEntity
  obtain ⟨entity, hHeld, hCurrent⟩ := Option.map_eq_some_iff.1 hEntity
  exact ⟨entity, hHeld, hCurrent.trans hGeneration⟩

end Unchanged

/-- In every run, a publication that was committed, whose attempt has been the latest one of
its publisher and boot ever since, is answered from the replay memory each time it is sent
again, whatever set generation it then expects, and nothing but the journal changes. -/
theorem retries_are_safe (options : Options) (operations : List Operation)
    {front rest : List Attempt} {original : Attempt}
    (hRun : publications options operations = front ++ original :: rest)
    (hCommitted : original.committed = true)
    (hStill : ∀ later ∈ rest,
      later.before.latestAttempt original.request.publisherKey =
          some original.request.attempt ∧
        later.after.latestAttempt original.request.publisherKey =
          some original.request.attempt)
    (hLatest : (afterRun options operations).latestAttempt original.request.publisherKey =
      some original.request.attempt)
    (hUnchanged : Unchanged original.after (afterRun options operations) original.request)
    (hUnfenced :
      original.request.authority.workerBoot ∉ (afterRun options operations).fencedBoots)
    (expected : List CapabilitySetGeneration) :
    ∃ journal results,
      publishEach (afterRun options operations) (expected.map fun generation =>
        { original.request with expectedSetGeneration := generation }) =
          ({ afterRun options operations with journal }, .ok results) ∧
      results.length = expected.length ∧
      ∀ result ∈ results, result.status = .idempotentReplay := by
  obtain ⟨result, ⟨c⟩⟩ := original.committed_stages hCommitted
  obtain ⟨held, hFound, hValid⟩ := validateRequest_since c hUnchanged hUnfenced
  obtain ⟨entity, hEntity, hGeneration⟩ := findEntity_since c hUnchanged
  obtain ⟨runtime, latest, hRuntime, hLast, hAttempt⟩ := latestAttempt_eq_some hLatest
  obtain rfl : held = runtime := Option.some.inj (hFound.symm.trans hRuntime)
  -- the record was left by the latest commit under the publisher, which is this one
  have hOriginal : lastCommit original.request.publisherKey
      (publications options operations) = some original := by
    rw [hRun]
    exact lastCommit_of_none_later hCommitted rfl fun later hMem =>
      uncommitted_while_latest (hStill later hMem).1 (hStill later hMem).2
  have hLookup := hFound
  unfold Registry.findRuntime at hLookup
  obtain ⟨stored, hStored, rfl⟩ := Option.map_eq_some_iff.1 hLookup
  obtain ⟨recorded, hRecorded, -, bytes, hBytes, hContent⟩ :=
    run_recorded options operations stored (lookup_mem hStored) latest hLast
  rw [lookup_key hStored, hOriginal, Option.some.injEq] at hRecorded
  subst hRecorded
  rw [Attempt.digestedBytes, (validateRequest_ok c.valid).granted, Option.map_some,
    Option.some.injEq] at hBytes
  have hDigest : latest.contentDigest =
      (requestContentDigest original.request c.grant).toText := by
    rw [hContent, ← hBytes, requestContentDigest_eq]
  have hAnswered : Answered (afterRun options operations) original.request :=
    ⟨_, c.grant, entity, latest, hValid, hEntity, hGeneration,
      classifyAttempt_latest hLast hAttempt hDigest⟩
  exact hAnswered.publishEach expected

namespace Sample

def publisherTwo : PublisherId := token _ "publisher-b"
def sourceTwo : SourceId := token _ "source-b"

def registered : List Operation := setup ++ [.registerPublisher publisherTwo scope bootTwo]

def first : PublicationRequest :=
  publication bootOne "attempt-1" 1 0 (claim .supported .processBound)

def other : PublicationRequest :=
  { publication bootTwo "attempt-2" 1 1 (claim .unsupported .processBound) with
    authority := {
      scope, publisher := publisherTwo, workerBoot := bootTwo, source := sourceTwo
      sourceGeneration := 1 } }

def probeLost : ReasonToken := token _ "probe-lost"

/-- Between a commit and its retry another publisher commits and the source is
invalidated. -/
def interruption : List Operation :=
  [.publish first, .publish other, .invalidateSource source probeLost]

def interrupted : List Operation := registered ++ interruption

end Sample

/-- The publication is sent again twice, with the set generation that it expected first and
with the current one. -/
theorem interrupted_retries_are_safe :
    ∃ journal results,
      publishEach (afterRun {} Sample.interrupted) ([0, 2].map fun generation =>
        { Sample.first with expectedSetGeneration := generation }) =
          ({ afterRun {} Sample.interrupted with journal }, .ok results) ∧
      results.length = 2 ∧ ∀ result ∈ results, result.status = .idempotentReplay := by
  have hFacts : ∀ registry, registry = afterRun {} Sample.registered →
      (Attempt.mk registry Sample.first).committed = true ∧
      ((run Operation.apply registry Sample.interruption).findEntity Sample.entity).map
        EntityState.currentGeneration = some 1 ∧
      Sample.first.authority.workerBoot ∉ registry.fencedBoots := by
    rintro _ rfl
    decide +kernel
  have hNone : trace Operation.apply attempts (Registry.init {}) Sample.registered = [] := rfl
  have hRun : publications {} Sample.interrupted = [] ++
      trace Operation.apply attempts (afterRun {} Sample.registered) Sample.interruption := by
    rw [← hNone]
    exact trace_append
  have hAfter : afterRun {} Sample.interrupted =
      run Operation.apply (afterRun {} Sample.registered) Sample.interruption := run_append
  generalize hRegistry : afterRun {} Sample.registered = registry at hRun hAfter
  obtain ⟨hCommitted, hGeneration, hUnfenced⟩ := hFacts registry hRegistry.symm
  let original : Attempt := ⟨registry, Sample.first⟩
  let later : Attempt := ⟨original.after, Sample.other⟩
  have hFinal : run Operation.apply registry Sample.interruption =
      (invalidateSource later.after Sample.source Sample.probeLost).1 := by
    have hPublish : ∀ registry request,
        Operation.apply registry (.publish request) = (Attempt.mk registry request).after :=
      fun _ _ => rfl
    rw [Sample.interruption, run_cons, run_cons, run_cons, run_nil, hPublish, hPublish,
      Operation.apply]
  rw [← hAfter] at hGeneration hFinal
  have hLater : later.after.findRuntime Sample.first.publisherKey =
      original.after.findRuntime Sample.first.publisherKey :=
    findRuntime_publish_other later
      (show Sample.first.publisherKey ≠ Sample.other.publisherKey by decide)
  have hRuntime : (afterRun {} Sample.interrupted).findRuntime Sample.first.publisherKey =
      original.after.findRuntime Sample.first.publisherKey := by
    rw [hFinal, findRuntime_of_publishers (invalidateSource_publishers ..), hLater]
  have hLatest : original.after.latestAttempt Sample.first.publisherKey =
      some Sample.first.attempt := committed_latest hCommitted
  have hControl : SameControl original.after (afterRun {} Sample.interrupted) := by
    rw [hFinal]
    exact later.control.trans (invalidateSource_control ..)
  have hUnchanged : Unchanged original.after (afterRun {} Sample.interrupted) Sample.first := by
    obtain ⟨result, ⟨c⟩⟩ := original.committed_stages hCommitted
    obtain ⟨_, next, hFound, -, hBound, -⟩ := c.entity_after
    refine ⟨hControl.epoch, ?_, congrArg _ hRuntime, hControl.schema, ?_⟩
    · unfold Registry.findGrant
      rw [hControl.authorities]
    · show _ = (original.after.findEntity original.request.entity).map _
      rw [hFound]
      exact hGeneration.trans (congrArg some hBound.symm)
  have hSplit : publications {} Sample.interrupted = [] ++ original :: [later] := hRun
  refine retries_are_safe {} Sample.interrupted hSplit hCommitted ?_ ?_ hUnchanged ?_ [0, 2]
  · intro attempt hMem
    rw [List.mem_singleton.1 hMem]
    exact ⟨hLatest, (latestAttempt_of_runtime hLater).trans hLatest⟩
  · exact (latestAttempt_of_runtime hRuntime).trans hLatest
  · rw [hControl.fencedBoots, original.control.fencedBoots]
    exact hUnfenced

end FabricCapability.Ports
