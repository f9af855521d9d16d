import FabricCapability.Ports.EntityRules
import FabricCapability.Ports.Fencing
import FabricCapability.Ports.OptimisticLocking

/-!
# Mutation attempts are committed at most once

A commit leaves a replay record with the registration of its publisher, and stage 7 refuses
an attempt that the registration remembers.  Registrations are replaced, dropped by an epoch
advance and bounded in their memory, so an attempt can be forgotten.  A fenced boot needs no
memory: nothing is committed under it.

So an attempt that was committed once is never committed again as long as it stays
remembered or its boot stays fenced (`Remembers`), and `ForgetsAttempt` lists the steps
after which it may be neither.

## Main results

* `attempt_remembers`, `step_remembers`: what keeps an attempt in memory.
* `committed_at_most_once`: runs that forget nothing.
* `renewed_registration_commits_again`: a publisher that registers again.
-/

namespace FabricCapability.Ports

open FabricCapability.Verified.KeyedList
open FabricCapability.Verified.Runs

/-! ## The publishers under the stages of a publication -/

/-- The record that a commit leaves. -/
def PublicationRequest.replayRecord (request : PublicationRequest) (grant : AuthorityGrant) :
    ReplayRecord :=
  { attempt := request.attempt, publication := request.publication,
    contentDigest := (requestContentDigest request grant).toText }

theorem reject_publishers (registry : Registry) (request : PublicationRequest) (e : Error) :
    (reject registry request e).1.publishers = registry.publishers := by
  rw [reject_registry]

theorem bindGeneration_publishers (registry : Registry) (request : PublicationRequest)
    (entity : EntityState) :
    (bindGeneration registry request entity).1.publishers = registry.publishers := by
  unfold bindGeneration
  split
  · rfl
  · split
    · dsimp only
      split <;> rfl
    · rfl

theorem bindEntity_publishers (registry : Registry) (request : PublicationRequest) :
    (bindEntity registry request).1.publishers = registry.publishers := by
  unfold bindEntity
  split
  · exact bindGeneration_publishers ..
  · split
    · rfl
    · exact bindGeneration_publishers ..

theorem advanceGenerations_publishers (registry : Registry) (entity : EntityState)
    (changed : Bool) :
    (advanceGenerations registry entity changed).1.publishers = registry.publishers := by
  unfold advanceGenerations
  split
  · split
    · rfl
    · dsimp only
      split <;> rfl
  · rfl

theorem commit_failed_publishers {registry after : Registry} {request : PublicationRequest}
    {before : Option EntityCapabilitySet} {entity : EntityState} {steps : List ApplyStep}
    {contentDigest : Bytes} {e : Error}
    (h : commit registry request before entity steps contentDigest = (after, .error e)) :
    after.publishers = registry.publishers := by
  have hAdvance := advanceGenerations_publishers registry entity (semanticChange before entity)
  unfold commit at h
  dsimp only at h
  split at h
  · rename_i hEq
    cases h
    rw [hEq] at hAdvance
    exact hAdvance
  · cases h

theorem Committed.publishers {registry after : Registry} {request : PublicationRequest}
    {result : PublicationResult} (c : Committed registry request after result) :
    after.publishers = (registry.registerReplay request.publisherKey
      (request.replayRecord c.grant)).publishers := by
  obtain ⟨advanced, next, hAdvance, -, hAfter⟩ := commit_ok c.commits
  have hBind := bindEntity_publishers registry request
  have hBindControl := bindEntity_control registry request
  have hAdvancePublishers := advanceGenerations_publishers c.applied c.published
    (semanticChange c.entity.set c.published)
  have hAdvanceControl := advanceGenerations_control c.applied c.published
    (semanticChange c.entity.set c.published)
  obtain ⟨-, hApplied, -⟩ := applyRequest_entity c.applies
  rw [hAdvance] at hAdvancePublishers hAdvanceControl
  rw [c.binds] at hBind hBindControl
  have hPublishers : advanced.publishers = registry.publishers := by
    rw [hAdvancePublishers, hApplied]
    exact hBind
  have hOptions : advanced.options = registry.options := by
    rw [hAdvanceControl.options, hApplied]
    exact hBindControl.options
  refine (congrArg Registry.publishers hAfter).trans ?_
  show (advanced.registerReplay _ _).publishers = _
  unfold Registry.registerReplay
  rw [hPublishers, hOptions]
  rfl

/-- A publication that is not committed leaves the publishers alone. -/
theorem uncommitted_publishers {attempt : Attempt} (h : attempt.committed = false) :
    attempt.after.publishers = attempt.before.publishers := by
  have hExit := publish_exit attempt.before attempt.request
  have hBind := bindEntity_publishers attempt.before attempt.request
  have hNot : ∀ result, (publish attempt.before attempt.request).2 = .ok result →
      result.status ≠ .committed := by
    intro result hResult hStatus
    rw [Attempt.committed, Attempt.result, hResult] at h
    simp [hStatus] at h
  rw [Attempt.after]
  generalize (publish attempt.before attempt.request).1 = after at hExit ⊢
  generalize (publish attempt.before attempt.request).2 = outcome at hExit hNot
  cases hExit with
  | invalid => exact reject_publishers ..
  | refused _ refuses =>
      rw [refuses] at hBind
      exact (reject_publishers ..).trans hBind
  | failed _ fails =>
      rw [fails] at hBind
      exact hBind
  | conflicting _ binds =>
      rw [binds] at hBind
      exact (reject_publishers ..).trans hBind
  | replayed _ binds =>
      rw [binds] at hBind
      exact hBind
  | unmet _ binds =>
      rw [binds] at hBind
      exact (reject_publishers ..).trans hBind
  | unapplied _ binds _ fails =>
      rw [binds] at hBind
      have hApplied := congrArg (fun ran => ran.1.publishers) fails
      exact (reject_publishers ..).trans (hApplied.symm.trans hBind)
  | uncommitted _ binds _ applies fails =>
      rw [binds] at hBind
      rw [commit_failed_publishers fails, ← hBind, (applyRequest_entity applies).2.1]
      rfl
  | committed stages => exact absurd (commit_status stages.commits) (hNot _ rfl)

/-! ## Attempts in memory -/

/-- The registration of the publisher remembers the attempt. -/
def Recalls (key : PublisherKey) (id : MutationAttemptId) (registry : Registry) : Prop :=
  ∃ runtime, registry.findRuntime key = some runtime ∧
    ∃ record ∈ runtime.replay, record.attempt = id

/-- The attempt cannot be committed again: its boot is fenced, or it is remembered. -/
def Remembers (key : PublisherKey) (id : MutationAttemptId) (registry : Registry) : Prop :=
  key.boot ∈ registry.fencedBoots ∨ Recalls key id registry

/-- No two registrations share a publisher and a boot. -/
def Registry.DistinctPublishers (registry : Registry) : Prop :=
  (registry.publishers.map Prod.fst).Nodup

theorem recalls_of_publishers {key : PublisherKey} {id : MutationAttemptId} {a b : Registry}
    (h : b.publishers = a.publishers) (hRecalls : Recalls key id a) : Recalls key id b := by
  unfold Recalls Registry.findRuntime at *
  rw [h]
  exact hRecalls

/-- Stage 7 lets no remembered attempt pass. -/
theorem classifyAttempt_remembered {runtime : PublisherRuntime} {request : PublicationRequest}
    {contentDigest : Bytes} {record : ReplayRecord} (hMem : record ∈ runtime.replay)
    (hAttempt : record.attempt = request.attempt) :
    classifyAttempt runtime request contentDigest ≠ .ok none := by
  intro hFresh
  unfold classifyAttempt at hFresh
  split at hFresh
  · rename_i hEmpty
    rw [List.getLast?_eq_none_iff] at hEmpty
    rw [hEmpty] at hMem
    cases hMem
  · split at hFresh
    · split at hFresh
      · cases hFresh
      · cases hFresh
    · split at hFresh
      · cases hFresh
      · rename_i hNone
        exact hNone (List.any_eq_true.2 ⟨record, hMem, by simpa using hAttempt⟩)

/-- An attempt that is remembered is not committed. -/
theorem not_committed_of_remembers {attempt : Attempt}
    (h : Remembers attempt.request.publisherKey attempt.request.attempt attempt.before) :
    attempt.committed = false := by
  rcases h with hFenced | ⟨runtime, hFound, record, hMem, hAttempt⟩
  · exact not_committed_of_fenced hFenced
  · by_contra hCommitted
    obtain ⟨result, ⟨c⟩⟩ := attempt.committed_stages (by simpa using hCommitted)
    have hRegistered := (validateRequest_ok c.valid).registered
    rw [hFound, Option.some.injEq] at hRegistered
    subst hRegistered
    exact classifyAttempt_remembered hMem hAttempt c.fresh

/-! ## Publications -/

/-- What `RegisterReplay` makes of the memory of a registration. -/
def rememberIn (options : Options) (record : ReplayRecord) (replay : List ReplayRecord) :
    List ReplayRecord :=
  (if replay.length ≥ options.maxReplayEntriesPerPublisher then replay.tail else replay) ++
    [record]

theorem findRuntime_registerReplay (registry : Registry) (key other : PublisherKey)
    (record : ReplayRecord) :
    (registry.registerReplay key record).findRuntime other =
      (registry.findRuntime other).map fun runtime =>
        if other = key then
          { runtime with replay := rememberIn registry.options record runtime.replay }
        else runtime := by
  unfold Registry.findRuntime Registry.registerReplay
  dsimp only
  rw [lookup_map fun held => by split <;> rfl, Option.map_map, Option.map_map]
  cases hFound : lookup Prod.fst other registry.publishers with
  | none => rfl
  | some held =>
      obtain rfl : held.1 = other := lookup_key hFound
      simp only [Option.map_some, Function.comp]
      split <;> rfl

theorem findRuntime_of_publishers {a b : Registry} (h : b.publishers = a.publishers)
    (key : PublisherKey) : b.findRuntime key = a.findRuntime key := by
  unfold Registry.findRuntime
  rw [h]

/-- The memory of the publisher is full and the attempt is the oldest in it. -/
def NextForgotten (key : PublisherKey) (id : MutationAttemptId) (registry : Registry) : Prop :=
  ∃ runtime, registry.findRuntime key = some runtime ∧
    registry.options.maxReplayEntriesPerPublisher ≤ runtime.replay.length ∧
    runtime.replay.head?.map ReplayRecord.attempt = some id

/-- A publication keeps an attempt in memory, unless it commits for the same publisher when
the attempt is the next to be forgotten. -/
theorem attempt_remembers {key : PublisherKey} {id : MutationAttemptId} {attempt : Attempt}
    (hKeeps : attempt.committed = true → attempt.request.publisherKey = key →
      ¬NextForgotten key id attempt.before)
    (h : Remembers key id attempt.before) : Remembers key id attempt.after := by
  rcases h with hFenced | hRecalls
  · left
    rw [Attempt.after, (publish_control ..).fencedBoots]
    exact hFenced
  · right
    cases hCommitted : attempt.committed with
    | false => exact recalls_of_publishers (uncommitted_publishers hCommitted) hRecalls
    | true =>
        obtain ⟨result, ⟨c⟩⟩ := attempt.committed_stages hCommitted
        obtain ⟨runtime, hFound, record, hMem, hAttempt⟩ := hRecalls
        refine ⟨_, (findRuntime_of_publishers c.publishers key).trans
          ((findRuntime_registerReplay ..).trans (congrArg _ hFound)), record, ?_, hAttempt⟩
        split
        · rename_i hKey
          refine List.mem_append_left _ ?_
          split
          · rename_i hFull
            -- the record is not the first one, which is dropped
            cases hReplay : runtime.replay with
            | nil =>
                rw [hReplay] at hMem
                cases hMem
            | cons oldest newer =>
                rw [hReplay] at hMem
                rcases List.mem_cons.1 hMem with rfl | hNewer
                · refine absurd ⟨runtime, hFound, hFull, ?_⟩ (hKeeps hCommitted hKey.symm)
                  rw [hReplay, List.head?_cons, Option.map_some, hAttempt]
                · exact hNewer
          · exact hMem
        · exact hMem

/-- A commit leaves its attempt in memory. -/
theorem committed_remembers {attempt : Attempt} (h : attempt.committed = true) :
    Remembers attempt.request.publisherKey attempt.request.attempt attempt.after := by
  obtain ⟨result, ⟨c⟩⟩ := attempt.committed_stages h
  have hRegistered := (validateRequest_ok c.valid).registered
  refine .inr ⟨_, (findRuntime_of_publishers c.publishers _).trans
    ((findRuntime_registerReplay ..).trans (congrArg _ hRegistered)),
    attempt.request.replayRecord c.grant, ?_, rfl⟩
  dsimp only
  rw [if_pos rfl]
  exact List.mem_append_right _ (List.mem_singleton_self _)

/-! ## The other operations -/

theorem visitEntities_publishers (registry : Registry)
    (visit : Indexes → EntityState → Indexes × EntityState) :
    (registry.visitEntities visit).publishers = registry.publishers := rfl

theorem advanceRegistry_publishers {α : Type} (registry : Registry) (value : α) :
    (advanceRegistry registry value).1.publishers = registry.publishers := by
  unfold advanceRegistry
  split <;> rfl

theorem observeEntityGeneration_publishers (registry : Registry) (entity : EntityId)
    (generation : EntityGeneration) (reason : ReasonToken) :
    (observeEntityGeneration registry entity generation reason).1.publishers =
      registry.publishers := by
  unfold observeEntityGeneration
  split
  · rfl
  · split
    · split <;> rfl
    · split
      · rfl
      · split
        · rfl
        · split
          · rfl
          · dsimp only
            split <;> rfl

theorem invalidateEntity_publishers (registry : Registry) (entity : EntityId)
    (generation : EntityGeneration) (reason : ReasonToken) :
    (invalidateEntity registry entity generation reason).1.publishers =
      registry.publishers := by
  unfold invalidateEntity
  split
  · rfl
  · split
    · rfl
    · dsimp only
      split
      · split <;> rfl
      · rfl

theorem invalidateSource_publishers (registry : Registry) (source : SourceId)
    (reason : ReasonToken) :
    (invalidateSource registry source reason).1.publishers = registry.publishers := by
  unfold invalidateSource
  split
  · rfl
  · dsimp only
    split
    · exact advanceRegistry_publishers ..
    · rfl

theorem declareAuthority_publishers (registry : Registry) (grant : AuthorityGrant) :
    (declareAuthority registry grant).1.publishers = registry.publishers := by
  unfold declareAuthority
  split
  · rfl
  · split
    · rfl
    · split <;> rfl

theorem registerVendorDescriptor_publishers (registry : Registry)
    (descriptor : CapabilityDescriptor) :
    (registerVendorDescriptor registry descriptor).1.publishers = registry.publishers := by
  unfold registerVendorDescriptor
  split <;> rfl

/-- A registration that is refused changes nothing, and one that is accepted starts with
an empty memory. -/
theorem registerPublisher_publishers (registry : Registry) (publisher : PublisherId)
    (scope : AuthorityScopeId) (workerBoot : WorkerBootId) :
    ((registerPublisher registry publisher scope workerBoot).2.isOk = false ∧
      (registerPublisher registry publisher scope workerBoot).1 = registry) ∨
    ((registerPublisher registry publisher scope workerBoot).2.isOk = true ∧
      ∃ registration, (registerPublisher registry publisher scope workerBoot).1.publishers =
        upsert Prod.fst (PublisherKey.mk publisher workerBoot,
          { registration, active := true, replay := [] }) registry.publishers) := by
  unfold registerPublisher
  split
  · exact .inl ⟨rfl, rfl⟩
  · split
    · exact .inl ⟨rfl, rfl⟩
    · split
      · exact .inl ⟨rfl, rfl⟩
      · dsimp only
        split
        · exact .inl ⟨rfl, rfl⟩
        · split
          · exact .inl ⟨rfl, rfl⟩
          · exact .inr ⟨rfl, _, rfl⟩

theorem retirePublisher_publishers (registry : Registry) (publisher : PublisherId)
    (workerBoot : WorkerBootId) :
    (retirePublisher registry publisher workerBoot).1.publishers = registry.publishers ∨
    ∃ runtime, registry.findRuntime ⟨publisher, workerBoot⟩ = some runtime ∧
      (retirePublisher registry publisher workerBoot).1.publishers =
        upsert Prod.fst (PublisherKey.mk publisher workerBoot,
          { runtime with active := false }) registry.publishers := by
  unfold retirePublisher
  dsimp only
  split
  · exact .inl rfl
  · rename_i runtime hFound
    exact .inr ⟨runtime, hFound, rfl⟩

theorem insertFence_publishers (registry : Registry) (workerBoot : WorkerBootId)
    (reason : ReasonToken) :
    ∃ publisher, (insertFence registry workerBoot reason).1.publishers =
      registry.publishers.filter fun held => held.1 ≠ PublisherKey.mk publisher workerBoot := by
  unfold insertFence
  dsimp only
  exact ⟨_, (advanceRegistry_publishers ..).trans (visitEntities_publishers ..)⟩

/-- A fence drops at most one registration, and its boot is fenced then. -/
theorem fenceWorkerBoot_publishers (registry : Registry) (workerBoot : WorkerBootId)
    (reason : ReasonToken) :
    (fenceWorkerBoot registry workerBoot reason).1 = registry ∨
    workerBoot ∈ (fenceWorkerBoot registry workerBoot reason).1.fencedBoots ∧
      ∃ publisher, (fenceWorkerBoot registry workerBoot reason).1.publishers =
        registry.publishers.filter fun held =>
          held.1 ≠ PublisherKey.mk publisher workerBoot := by
  have hInserted : ∀ base : Registry, base.publishers = registry.publishers →
      workerBoot ∈ (insertFence base workerBoot reason).1.fencedBoots ∧
        ∃ publisher, (insertFence base workerBoot reason).1.publishers =
          registry.publishers.filter fun held =>
            held.1 ≠ PublisherKey.mk publisher workerBoot := by
    intro base hBase
    constructor
    · rw [insertFence_fencedBoots]
      exact List.mem_append_right _ (List.mem_singleton_self _)
    · rw [← hBase]
      exact insertFence_publishers ..
  unfold fenceWorkerBoot
  split
  · exact .inl rfl
  · split
    · exact .inl rfl
    · split
      · split
        · exact .inl rfl
        · exact .inr (hInserted _ rfl)
      · exact .inr (hInserted _ rfl)

theorem fenceBoots_publishers (reason : ReasonToken) (registry : Registry)
    (boots : List WorkerBootId) :
    (fenceBoots reason registry boots).publishers = registry.publishers := by
  rw [fenceBoots_only]

/-- The boots that an advance of the epoch fences: the first ones, in the order of the
registrations, that are not fenced yet and for which there is room. -/
def bootsInRoom (fenced : List WorkerBootId) : Nat → List WorkerBootId → List WorkerBootId
  | _, [] => []
  | room, boot :: boots =>
      if boot ∈ fenced then bootsInRoom fenced room boots
      else if room = 0 then []
      else boot :: bootsInRoom (fenced ++ [boot]) (room - 1) boots

theorem fenceBoots_eq (reason : ReasonToken) (registry : Registry)
    (boots : List WorkerBootId) :
    (fenceBoots reason registry boots).fencedBoots = registry.fencedBoots ++
      bootsInRoom registry.fencedBoots
        (registry.options.maxFencedWorkerBoots - registry.fences.length) boots := by
  induction boots generalizing registry with
  | nil => simp [fenceBoots, bootsInRoom]
  | cons boot boots ih =>
      rw [fenceBoots, bootsInRoom]
      split
      · exact ih registry
      · split
        · rename_i hFull
          rw [if_pos (Nat.sub_eq_zero_of_le hFull), List.append_nil]
        · rename_i hRoom
          have hLeft : registry.options.maxFencedWorkerBoots -
              (registry.fences.length + 1) =
                registry.options.maxFencedWorkerBoots - registry.fences.length - 1 := by
            omega
          rw [if_neg (by omega), ih]
          simp only [List.length_append, List.length_singleton, hLeft, List.append_assoc,
            List.singleton_append]

theorem advanceCoordinatorEpoch_fences (registry : Registry) (reason : ReasonToken) :
    (advanceCoordinatorEpoch registry reason).1 = registry ∨
    registry.epoch ≠ 0xFFFFFFFFFFFFFFFF ∧
    (advanceCoordinatorEpoch registry reason).1.publishers = [] ∧
    (advanceCoordinatorEpoch registry reason).1.fencedBoots = registry.fencedBoots ++
      bootsInRoom registry.fencedBoots
        (registry.options.maxFencedWorkerBoots - registry.fences.length)
        (registry.publishers.map fun held => held.1.boot) := by
  unfold advanceCoordinatorEpoch
  cases hNext : counterNext registry.epoch with
  | error e => exact .inl rfl
  | ok epoch =>
      have hRoom : registry.epoch ≠ 0xFFFFFFFFFFFFFFFF := by
        intro hLast
        rw [hLast] at hNext
        cases hNext
      refine .inr ⟨hRoom, ?_, ?_⟩
      · dsimp only
        rw [advanceRegistry_publishers, visitEntities_publishers, fenceBoots_publishers]
      · dsimp only
        rw [(advanceRegistry_control ..).fencedBoots, (visitEntities_control ..).fencedBoots,
          fenceBoots_eq]

/-! ## Steps -/

/-- The operation may forget the attempt: it replaces the registration that remembers it,
drops that registration without fencing the boot, forgets the fence of the boot, or holds a
commit of the publisher that takes the place of the attempt. -/
def ForgetsAttempt (key : PublisherKey) (id : MutationAttemptId) (registry : Registry) :
    Operation → Prop
  | .registerPublisher publisher scope workerBoot =>
      PublisherKey.mk publisher workerBoot = key ∧ Recalls key id registry ∧
        (registerPublisher registry publisher scope workerBoot).2.isOk = true
  | .advanceCoordinatorEpoch _ =>
      Recalls key id registry ∧ registry.epoch ≠ 0xFFFFFFFFFFFFFFFF ∧
        key.boot ∉ registry.fencedBoots ∧
        key.boot ∉ bootsInRoom registry.fencedBoots
          (registry.options.maxFencedWorkerBoots - registry.fences.length)
          (registry.publishers.map fun held => held.1.boot)
  | .fenceWorkerBoot workerBoot reason =>
      Forgets key.boot registry (.fenceWorkerBoot workerBoot reason)
  | .publish request =>
      NextForgotten key id registry ∧ request.publisherKey = key ∧
        (Attempt.mk registry request).committed = true
  | .publishBatch requests =>
      ∃ attempt ∈ attempts registry (.publishBatch requests),
        NextForgotten key id attempt.before ∧ attempt.request.publisherKey = key ∧
          attempt.committed = true
  | _ => False

instance (key : PublisherKey) (id : MutationAttemptId) (registry : Registry) :
    Decidable (Recalls key id registry) :=
  decidable_of_iff ((registry.findRuntime key).any (fun runtime =>
    runtime.replay.any fun record => record.attempt = id) = true) (by
      simp [Recalls, Option.any_eq_true])

instance (key : PublisherKey) (id : MutationAttemptId) (registry : Registry) :
    Decidable (NextForgotten key id registry) :=
  decidable_of_iff ((registry.findRuntime key).any (fun runtime =>
    registry.options.maxReplayEntriesPerPublisher ≤ runtime.replay.length ∧
      runtime.replay.head?.map ReplayRecord.attempt = some id) = true) (by
      simp [NextForgotten, Option.any_eq_true])

instance (boot : WorkerBootId) (registry : Registry) (operation : Operation) :
    Decidable (Forgets boot registry operation) := by
  cases operation <;> unfold Forgets <;> infer_instance

instance (key : PublisherKey) (id : MutationAttemptId) (registry : Registry)
    (operation : Operation) : Decidable (ForgetsAttempt key id registry operation) := by
  cases operation <;> unfold ForgetsAttempt <;> infer_instance

def KeepsMemory (key : PublisherKey) (id : MutationAttemptId) (registry : Registry)
    (operation : Operation) : Prop :=
  NoLoad registry operation ∧ ¬ForgetsAttempt key id registry operation

instance (key : PublisherKey) (id : MutationAttemptId) (registry : Registry)
    (operation : Operation) : Decidable (KeepsMemory key id registry operation) :=
  inferInstanceAs (Decidable (_ ∧ ¬_))

section Steps

variable {key : PublisherKey} {id : MutationAttemptId} {registry : Registry}
  {operation : Operation}

theorem KeepsMemory.attempt (h : KeepsMemory key id registry operation) {attempt : Attempt}
    (hMem : attempt ∈ attempts registry operation) (hCommitted : attempt.committed = true)
    (hKey : attempt.request.publisherKey = key) : ¬NextForgotten key id attempt.before := by
  intro hNext
  cases operation with
  | publish request =>
      rw [List.mem_singleton.1 hMem] at hCommitted hKey hNext
      exact h.2 ⟨hNext, hKey, hCommitted⟩
  | publishBatch requests => exact h.2 ⟨attempt, hMem, hNext, hKey, hCommitted⟩
  | _ => cases hMem

theorem recalls_upsert {other : PublisherKey} {runtime : PublisherRuntime} {after : Registry}
    (hAfter : after.publishers = upsert Prod.fst (other, runtime) registry.publishers)
    (hOther : other = key → ∃ record ∈ runtime.replay, record.attempt = id)
    (h : Recalls key id registry) : Recalls key id after := by
  unfold Recalls Registry.findRuntime at *
  rw [hAfter]
  by_cases hKey : other = key
  · subst hKey
    exact ⟨runtime, by rw [lookup_upsert_self (a := (other, runtime))]; rfl, hOther rfl⟩
  · rw [lookup_upsert_ne hKey]
    exact h

/-- Every operation that is no load and forgets nothing keeps an attempt in memory. -/
theorem step_remembers (hGuard : KeepsMemory key id registry operation)
    (hDistinct : registry.DistinctPublishers) (h : Remembers key id registry) :
    Remembers key id (operation.apply registry) := by
  rcases h with hFenced | hRecalls
  · left
    by_cases hForgets : Forgets key.boot registry operation
    · cases operation with
      | fenceWorkerBoot workerBoot reason => exact absurd hForgets hGuard.2
      | _ => cases hForgets
    · exact fencedBoots_step ⟨hGuard.1, hForgets⟩ hFenced
  · cases operation with
    | publish request =>
        exact attempt_remembers (fun hCommitted hKey =>
          hGuard.attempt (List.mem_singleton_self (Attempt.mk registry request)) hCommitted hKey)
          (.inr hRecalls)
    | publishBatch requests =>
        exact publishBatch_preserves (P := Remembers key id)
          (fun attempt hMem => attempt_remembers (hGuard.attempt hMem)) (.inr hRecalls)
    | fenceWorkerBoot workerBoot reason =>
        rcases fenceWorkerBoot_publishers registry workerBoot reason with
          hSame | ⟨hFenced, publisher, hPublishers⟩
        · exact .inr (recalls_of_publishers (congrArg Registry.publishers hSame) hRecalls)
        · by_cases hKey : key = PublisherKey.mk publisher workerBoot
          · left
            rw [hKey]
            exact hFenced
          · right
            have hLookup : lookup Prod.fst key (registry.publishers.filter fun held =>
                held.1 ≠ PublisherKey.mk publisher workerBoot) =
                  lookup Prod.fst key registry.publishers :=
              lookup_filter fun held _ hHeld => decide_eq_true (hHeld ▸ hKey)
            unfold Recalls Registry.findRuntime at *
            rw [Operation.apply, hPublishers, hLookup]
            exact hRecalls
    | advanceCoordinatorEpoch reason =>
        rcases advanceCoordinatorEpoch_fences registry reason with
          hSame | ⟨hEpoch, -, hFences⟩
        · exact .inr (recalls_of_publishers (congrArg Registry.publishers hSame) hRecalls)
        · left
          by_contra hLost
          rw [Operation.apply, hFences, List.mem_append, not_or] at hLost
          exact hGuard.2 ⟨hRecalls, hEpoch, hLost⟩
    | invalidateEntity entity generation reason =>
        exact .inr (recalls_of_publishers (invalidateEntity_publishers ..) hRecalls)
    | invalidateSource source reason =>
        exact .inr (recalls_of_publishers (invalidateSource_publishers ..) hRecalls)
    | observeEntityGeneration entity generation reason =>
        exact .inr (recalls_of_publishers (observeEntityGeneration_publishers ..) hRecalls)
    | registerPublisher publisher scope workerBoot =>
        rcases registerPublisher_publishers registry publisher scope workerBoot with
          ⟨-, hSame⟩ | ⟨hOk, registration, hPublishers⟩
        · exact .inr (recalls_of_publishers (congrArg Registry.publishers hSame) hRecalls)
        · exact .inr (recalls_upsert hPublishers
            (fun hKey => absurd ⟨hKey, hRecalls, hOk⟩ hGuard.2) hRecalls)
    | retirePublisher publisher workerBoot =>
        rcases retirePublisher_publishers registry publisher workerBoot with
          hSame | ⟨runtime, hFound, hPublishers⟩
        · exact .inr (recalls_of_publishers hSame hRecalls)
        · refine .inr (recalls_upsert hPublishers (fun hKey => ?_) hRecalls)
          obtain ⟨held, hHeld, hRecord⟩ := hRecalls
          rw [← hKey, hFound, Option.some.injEq] at hHeld
          exact hHeld ▸ hRecord
    | declareAuthority grant =>
        exact .inr (recalls_of_publishers (declareAuthority_publishers ..) hRecalls)
    | registerVendorDescriptor descriptor =>
        exact .inr (recalls_of_publishers (registerVendorDescriptor_publishers ..) hRecalls)
    | load config file => cases hGuard.1
    | rehash publishers =>
        right
        rw [Operation.apply]
        split
        · rename_i hPerm
          unfold Recalls Registry.findRuntime at *
          dsimp only
          rw [← lookup_perm hDistinct hPerm.symm]
          exact hRecalls
        · exact hRecalls

theorem distinct_of_publishers {a b : Registry} (h : b.publishers = a.publishers)
    (hDistinct : a.DistinctPublishers) : b.DistinctPublishers := by
  unfold Registry.DistinctPublishers at *
  rw [h]
  exact hDistinct

theorem publish_distinct (registry : Registry) (request : PublicationRequest)
    (h : registry.DistinctPublishers) :
    (publish registry request).1.DistinctPublishers := by
  cases hCommitted : (Attempt.mk registry request).committed with
  | false => exact distinct_of_publishers (uncommitted_publishers hCommitted) h
  | true =>
      obtain ⟨result, ⟨c⟩⟩ := (Attempt.mk registry request).committed_stages hCommitted
      have hKeys : ∀ record, ((registry.registerReplay request.publisherKey
          record).publishers.map Prod.fst) = registry.publishers.map Prod.fst := by
        intro record
        unfold Registry.registerReplay
        rw [List.map_map]
        refine List.map_congr_left fun held _ => ?_
        dsimp only [Function.comp]
        split <;> rfl
      unfold Registry.DistinctPublishers at *
      have hPublishers : (publish registry request).1.publishers = _ := c.publishers
      rw [hPublishers, hKeys]
      exact h

theorem step_distinct (hNoLoad : NoLoad registry operation)
    (h : registry.DistinctPublishers) : (operation.apply registry).DistinctPublishers := by
  have hUpsert : ∀ held, ((upsert Prod.fst held registry.publishers).map Prod.fst).Nodup :=
    fun held => nodup_upsert h
  cases operation with
  | publish request => exact publish_distinct registry request h
  | publishBatch requests =>
      exact publishBatch_preserves (P := Registry.DistinctPublishers)
        (fun attempt _ => publish_distinct attempt.before attempt.request) h
  | fenceWorkerBoot workerBoot reason =>
      rcases fenceWorkerBoot_publishers registry workerBoot reason with
        hSame | ⟨-, publisher, hPublishers⟩
      · exact distinct_of_publishers (congrArg Registry.publishers hSame) h
      · unfold Registry.DistinctPublishers at *
        rw [Operation.apply, hPublishers]
        exact h.sublist (List.filter_sublist.map _)
  | advanceCoordinatorEpoch reason =>
      rcases advanceCoordinatorEpoch_fences registry reason with hSame | ⟨-, hNone, -⟩
      · exact distinct_of_publishers (congrArg Registry.publishers hSame) h
      · unfold Registry.DistinctPublishers
        rw [Operation.apply, hNone]
        exact List.nodup_nil
  | invalidateEntity entity generation reason =>
      exact distinct_of_publishers (invalidateEntity_publishers ..) h
  | invalidateSource source reason =>
      exact distinct_of_publishers (invalidateSource_publishers ..) h
  | observeEntityGeneration entity generation reason =>
      exact distinct_of_publishers (observeEntityGeneration_publishers ..) h
  | registerPublisher publisher scope workerBoot =>
      rcases registerPublisher_publishers registry publisher scope workerBoot with
        ⟨-, hSame⟩ | ⟨-, registration, hPublishers⟩
      · exact distinct_of_publishers (congrArg Registry.publishers hSame) h
      · unfold Registry.DistinctPublishers
        rw [Operation.apply, hPublishers]
        exact hUpsert _
  | retirePublisher publisher workerBoot =>
      rcases retirePublisher_publishers registry publisher workerBoot with
        hSame | ⟨runtime, -, hPublishers⟩
      · exact distinct_of_publishers hSame h
      · unfold Registry.DistinctPublishers
        rw [Operation.apply, hPublishers]
        exact hUpsert _
  | declareAuthority grant => exact distinct_of_publishers (declareAuthority_publishers ..) h
  | registerVendorDescriptor descriptor =>
      exact distinct_of_publishers (registerVendorDescriptor_publishers ..) h
  | load config file => cases hNoLoad
  | rehash publishers =>
      rw [Operation.apply]
      split
      · rename_i hPerm
        exact (hPerm.map Prod.fst).nodup_iff.2 h
      · exact h

end Steps

/-! ## Runs -/

/-- What is remembered stays remembered. -/
def MemoryLasts (key : PublisherKey) (id : MutationAttemptId) (a b : Registry) : Prop :=
  Remembers key id a → Remembers key id b

theorem memoryLasts_refl (key : PublisherKey) (id : MutationAttemptId) (registry : Registry) :
    MemoryLasts key id registry registry :=
  fun h => h

theorem memoryLasts_trans (key : PublisherKey) (id : MutationAttemptId) (a b c : Registry)
    (hab : MemoryLasts key id a b) (hbc : MemoryLasts key id b c) : MemoryLasts key id a c :=
  fun h => hbc (hab h)

/-- The attempt is committed by the publisher. -/
def Attempt.commits (attempt : Attempt) (key : PublisherKey) (id : MutationAttemptId) : Bool :=
  attempt.committed && (attempt.request.publisherKey == key && attempt.request.attempt == id)

theorem Attempt.commits_iff {attempt : Attempt} {key : PublisherKey} {id : MutationAttemptId} :
    attempt.commits key id = true ↔ attempt.committed = true ∧
      attempt.request.publisherKey = key ∧ attempt.request.attempt = id := by
  simp [Attempt.commits]

/-- In a run without loads that never forgets an attempt of a publisher and boot, at most
one publication commits it. -/
theorem committed_at_most_once (options : Options) (operations : List Operation)
    (key : PublisherKey) (id : MutationAttemptId)
    (hRun : Guarded Operation.apply (KeepsMemory key id) (Registry.init options) operations) :
    ((publications options operations).filter (·.commits key id)).length ≤ 1 := by
  have hInit : (Registry.init options).DistinctPublishers := by
    unfold Registry.init
    split <;> exact List.nodup_nil
  have hDistinct := guarded_invariant (fun _ _ hGuard => step_distinct hGuard.1) hRun hInit
  have hChain : Chained (MemoryLasts key id) Attempt.before Attempt.after
      (Registry.init options) (afterRun options operations)
      (publications options operations) := by
    refine trace_chained (memoryLasts_refl key id) (memoryLasts_trans key id)
      (fun registry operation hGuard => step_remembers hGuard.1 hGuard.2) ?_ hDistinct
    intro registry operation hGuard
    refine attempts_chained (memoryLasts_refl key id) (memoryLasts_trans key id) registry
      operation ?_
    exact fun attempt hMem => attempt_remembers (hGuard.1.attempt hMem)
  have hOnce : (publications options operations).Pairwise fun first second =>
      first.commits key id = true → second.commits key id = false := by
    refine hChain.within.imp fun {first second} hLasts hFirst => ?_
    obtain ⟨hCommitted, rfl, rfl⟩ := Attempt.commits_iff.1 hFirst
    by_contra hSecond
    obtain ⟨hAgain, hKey, hAttempt⟩ := Attempt.commits_iff.1 (Bool.not_eq_false _ ▸ hSecond)
    have hRemembers := hLasts (committed_remembers hCommitted)
    rw [← hKey, ← hAttempt] at hRemembers
    rw [not_committed_of_remembers hRemembers] at hAgain
    cases hAgain
  generalize publications options operations = events at hOnce
  induction events with
  | nil => exact Nat.zero_le _
  | cons first events ih =>
      obtain ⟨hFirst, hRest⟩ := List.pairwise_cons.1 hOnce
      rw [List.filter_cons]
      split
      · rename_i hCommits
        have hNone : events.filter (·.commits key id) = [] :=
          List.filter_eq_nil_iff.2 fun second hMem => by simp [hFirst second hMem hCommits]
        rw [hNone]
        exact Nat.le_refl _
      · exact ih hRest

/-! ### A registration that is renewed -/

namespace Sample

def attempt (text : String) : MutationAttemptId := token _ text

/-- One attempt, under the expected generation of the time. -/
def attemptAt (expected : CapabilitySetGeneration) : Operation :=
  .publish (publication bootOne "attempt-1" 1 expected (claim .supported .processBound))

def renewal : Operation := .registerPublisher publisher scope bootOne

end Sample

theorem retry_commits_once :
    ((publications {} (Sample.setup ++ [Sample.attemptAt 0, Sample.attemptAt 1])).filter
      (·.commits ⟨Sample.publisher, Sample.bootOne⟩ (Sample.attempt "attempt-1"))).length ≤ 1 :=
  committed_at_most_once {} (Sample.setup ++ [Sample.attemptAt 0, Sample.attemptAt 1]) _ _
    (by decide +kernel)

/-- After the publisher registered again under its boot, the attempt is committed again. -/
theorem renewed_registration_commits_again :
    Guarded Operation.apply NoLoad (Registry.init {})
      (Sample.setup ++ [Sample.attemptAt 0, Sample.renewal, Sample.attemptAt 1]) ∧
    ((publications {} (Sample.setup ++ [Sample.attemptAt 0, Sample.renewal, Sample.attemptAt 1])).filter
      (·.commits ⟨Sample.publisher, Sample.bootOne⟩ (Sample.attempt "attempt-1"))).length =
        2 := by
  refine ⟨?_, by decide +kernel⟩
  simp [Sample.setup, Sample.attemptAt, Sample.renewal, Guarded, NoLoad, Operation.isLoad]

end FabricCapability.Ports
