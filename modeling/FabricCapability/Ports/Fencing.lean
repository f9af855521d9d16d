import FabricCapability.Ports.Frames

/-!
# Permanence of fences

`FenceWorkerBoot` promises to fence a boot permanently.  The set of fenced boots is
bounded, and a full set makes room for a new boot by forgetting the first fence whose
boot owns no current evidence.  So a fence lasts as long as no later call forgets it.

## Main results

* `fencedBoots_step`: no operation but a load and a forgetting fence unfences a boot.
* `fence_is_permanent`: in a run that forgets no fence of a boot, the boot stays refused.
* `forgotten_fence_readmits`: with room for one fence, the second one readmits the first
  boot, which then publishes again.
-/

namespace FabricCapability.Ports

open FabricCapability.Verified.KeyedList
open FabricCapability.Verified.Runs

/-! ## What a step does to the fenced boots -/

/-- The operation is a new fence on a full registry, and the fence it forgets is the one
of `boot`. -/
def Forgets (boot : WorkerBootId) (registry : Registry) : Operation → Prop
  | .fenceWorkerBoot workerBoot _ =>
      workerBoot.isSet ∧ workerBoot ∉ registry.fencedBoots ∧
        registry.options.maxFencedWorkerBoots ≤ registry.fences.length ∧
        (evictableFence registry).map FenceRecord.workerBoot = some boot
  | _ => False

theorem fenceBoots_fencedBoots (reason : ReasonToken) (boots : List WorkerBootId)
    {registry : Registry} {boot : WorkerBootId} (h : boot ∈ registry.fencedBoots) :
    boot ∈ (fenceBoots reason registry boots).fencedBoots := by
  induction boots generalizing registry with
  | nil => exact h
  | cons next boots ih =>
      unfold fenceBoots
      split
      · exact ih h
      · split
        · exact h
        · exact ih (List.mem_append_left _ h)

theorem insertFence_fencedBoots (registry : Registry) (workerBoot : WorkerBootId)
    (reason : ReasonToken) :
    (insertFence registry workerBoot reason).1.fencedBoots =
      registry.fencedBoots ++ [workerBoot] := by
  unfold insertFence
  rw [(advanceRegistry_control ..).fencedBoots, (visitEntities_control ..).fencedBoots]

theorem advanceCoordinatorEpoch_fencedBoots {registry : Registry} {boot : WorkerBootId}
    (reason : ReasonToken) (h : boot ∈ registry.fencedBoots) :
    boot ∈ (advanceCoordinatorEpoch registry reason).1.fencedBoots := by
  unfold advanceCoordinatorEpoch
  split
  · exact h
  · dsimp only
    rw [(advanceRegistry_control ..).fencedBoots, (visitEntities_control ..).fencedBoots]
    exact fenceBoots_fencedBoots _ _ h

theorem fenceWorkerBoot_fencedBoots {registry : Registry} {boot workerBoot : WorkerBootId}
    {reason : ReasonToken}
    (hKept : ¬Forgets boot registry (.fenceWorkerBoot workerBoot reason))
    (h : boot ∈ registry.fencedBoots) :
    boot ∈ (fenceWorkerBoot registry workerBoot reason).1.fencedBoots := by
  unfold fenceWorkerBoot
  split
  · exact h
  · rename_i hSet
    split
    · exact h
    · rename_i hNew
      split
      · rename_i hFull
        split
        · exact h
        · rename_i fence hFence
          have hOther : fence.workerBoot ≠ boot := by
            rintro rfl
            exact hKept ⟨by simpa using hSet, hNew, hFull, by rw [hFence, Option.map_some]⟩
          rw [insertFence_fencedBoots, evictFence]
          exact List.mem_append_left _
            (List.mem_filter.2 ⟨h, decide_eq_true hOther.symm⟩)
      · rw [insertFence_fencedBoots]
        exact List.mem_append_left _ h

/-- A fence that succeeds fences its boot. -/
theorem fenceWorkerBoot_fences {registry : Registry} {workerBoot : WorkerBootId}
    {reason : ReasonToken} (h : (fenceWorkerBoot registry workerBoot reason).2 = .ok ()) :
    workerBoot ∈ (fenceWorkerBoot registry workerBoot reason).1.fencedBoots := by
  have hInserted : ∀ registry : Registry,
      workerBoot ∈ (insertFence registry workerBoot reason).1.fencedBoots := by
    intro registry
    rw [insertFence_fencedBoots]
    exact List.mem_append_right _ (List.mem_singleton_self _)
  revert h
  unfold fenceWorkerBoot
  split
  · intro h
    cases h
  · split
    · rename_i hHeld
      exact fun _ => hHeld
    · split
      · split
        · intro h
          cases h
        · exact fun _ => hInserted _
      · exact fun _ => hInserted _

theorem declareAuthority_fencedBoots (registry : Registry) (grant : AuthorityGrant) :
    (declareAuthority registry grant).1.fencedBoots = registry.fencedBoots := by
  unfold declareAuthority
  split
  · rfl
  · split
    · rfl
    · split <;> rfl

theorem registerPublisher_fencedBoots (registry : Registry) (publisher : PublisherId)
    (scope : AuthorityScopeId) (workerBoot : WorkerBootId) :
    (registerPublisher registry publisher scope workerBoot).1.fencedBoots =
      registry.fencedBoots := by
  unfold registerPublisher
  split
  · rfl
  · split
    · rfl
    · split
      · rfl
      · dsimp only
        split
        · rfl
        · split <;> rfl

theorem retirePublisher_fencedBoots (registry : Registry) (publisher : PublisherId)
    (workerBoot : WorkerBootId) :
    (retirePublisher registry publisher workerBoot).1.fencedBoots =
      registry.fencedBoots := by
  unfold retirePublisher
  dsimp only
  split <;> rfl

theorem registerVendorDescriptor_fencedBoots (registry : Registry)
    (descriptor : CapabilityDescriptor) :
    (registerVendorDescriptor registry descriptor).1.fencedBoots = registry.fencedBoots := by
  unfold registerVendorDescriptor
  split <;> rfl

theorem publishBatch_fencedBoots (registry : Registry) (requests : List PublicationRequest) :
    (publishBatch registry requests).1.fencedBoots = registry.fencedBoots :=
  publishBatch_preserves (P := fun r => r.fencedBoots = registry.fencedBoots)
    (fun attempt _ h => (publish_control attempt.before attempt.request).fencedBoots.trans h)
    rfl

/-- One step: every operation but a load and a forgetting fence keeps a boot fenced. -/
theorem fencedBoots_step {boot : WorkerBootId} {registry : Registry} {operation : Operation}
    (hGuard : operation.isLoad = false ∧ ¬Forgets boot registry operation)
    (h : boot ∈ registry.fencedBoots) : boot ∈ (operation.apply registry).fencedBoots := by
  cases operation with
  | publish request =>
      rw [Operation.apply, (publish_control ..).fencedBoots]
      exact h
  | publishBatch requests =>
      rw [Operation.apply, publishBatch_fencedBoots]
      exact h
  | fenceWorkerBoot workerBoot reason => exact fenceWorkerBoot_fencedBoots hGuard.2 h
  | advanceCoordinatorEpoch reason => exact advanceCoordinatorEpoch_fencedBoots reason h
  | invalidateEntity entity generation reason =>
      rw [Operation.apply, (invalidateEntity_control ..).fencedBoots]
      exact h
  | invalidateSource source reason =>
      rw [Operation.apply, (invalidateSource_control ..).fencedBoots]
      exact h
  | observeEntityGeneration entity generation reason =>
      rw [Operation.apply, (observeEntityGeneration_control ..).fencedBoots]
      exact h
  | registerPublisher publisher scope workerBoot =>
      rw [Operation.apply, registerPublisher_fencedBoots]
      exact h
  | retirePublisher publisher workerBoot =>
      rw [Operation.apply, retirePublisher_fencedBoots]
      exact h
  | declareAuthority grant =>
      rw [Operation.apply, declareAuthority_fencedBoots]
      exact h
  | registerVendorDescriptor descriptor =>
      rw [Operation.apply, registerVendorDescriptor_fencedBoots]
      exact h
  | load config file => cases hGuard.1
  | rehash publishers =>
      rw [Operation.apply]
      split <;> exact h

/-! ## What a fenced boot cannot do -/

theorem registerPublisher_refused {registry : Registry} {publisher : PublisherId}
    {scope : AuthorityScopeId} {boot : WorkerBootId} (h : boot ∈ registry.fencedBoots) :
    ∃ e, (registerPublisher registry publisher scope boot).2 = .error e := by
  unfold registerPublisher
  rw [if_pos h]
  split <;> exact ⟨_, rfl⟩

theorem validateRequest_of_fenced {registry : Registry} {request : PublicationRequest}
    (h : request.authority.workerBoot ∈ registry.fencedBoots) :
    ∃ e, validateRequest registry request = .error e := by
  unfold validateRequest checkPublisher
  rw [if_pos h]
  cases checkShape request with
  | error e => exact ⟨e, rfl⟩
  | ok u =>
      cases checkEpoch registry request with
      | error e => exact ⟨e, rfl⟩
      | ok v => exact ⟨_, rfl⟩

/-- A publication that carries a fenced boot is rejected in stage 3 at the latest. -/
theorem not_committed_of_fenced {attempt : Attempt}
    (h : attempt.request.authority.workerBoot ∈ attempt.before.fencedBoots) :
    attempt.committed = false := by
  obtain ⟨e, hInvalid⟩ := validateRequest_of_fenced h
  unfold Attempt.committed Attempt.result publish
  rw [hInvalid]
  rfl

/-! ## Runs -/

/-- The operation succeeds and fences the boot: a fence of the boot, or an advance of the
coordinator epoch that fences it. -/
def FencesBoot (boot : WorkerBootId) (registry : Registry) : Operation → Prop
  | .fenceWorkerBoot workerBoot reason =>
      workerBoot = boot ∧ (fenceWorkerBoot registry workerBoot reason).2 = .ok ()
  | .advanceCoordinatorEpoch reason =>
      (∃ epoch, (advanceCoordinatorEpoch registry reason).2 = .ok epoch) ∧
        boot ∈ (advanceCoordinatorEpoch registry reason).1.fencedBoots
  | _ => False

theorem FencesBoot.fenced {boot : WorkerBootId} {registry : Registry} {operation : Operation}
    (h : FencesBoot boot registry operation) :
    boot ∈ (operation.apply registry).fencedBoots := by
  cases operation with
  | fenceWorkerBoot workerBoot reason =>
      obtain ⟨rfl, hOk⟩ := h
      exact fenceWorkerBoot_fences hOk
  | advanceCoordinatorEpoch reason => exact h.2
  | _ => cases h

/-- Every publication of a batch starts where the boot is still fenced. -/
theorem attempts_fenced {boot : WorkerBootId} {registry : Registry} (operation : Operation)
    (h : boot ∈ registry.fencedBoots) :
    ∀ attempt ∈ attempts registry operation, boot ∈ attempt.before.fencedBoots :=
  attempts_invariant (P := fun registry => boot ∈ registry.fencedBoots)
    (fun registry request hFenced => by rwa [(publish_control registry request).fencedBoots]) h

/-- Once an operation fenced a boot, the boot stays refused as long as no later step is a
load or forgets the fence: every later registration under it is refused, and no later
publication under it is committed. -/
theorem fence_is_permanent (options : Options) (earlier later : List Operation)
    (operation : Operation) (boot : WorkerBootId)
    (hFences : FencesBoot boot (afterRun options earlier) operation)
    (hLater : Guarded Operation.apply
      (fun registry operation => NoLoad registry operation ∧ ¬Forgets boot registry operation)
      (afterRun options (earlier ++ [operation])) later) :
    boot ∈ (afterRun options (earlier ++ operation :: later)).fencedBoots ∧
    (∀ publisher scope, ∃ e,
      (registerPublisher (afterRun options (earlier ++ operation :: later)) publisher scope
        boot).2 = .error e) ∧
    ∀ attempt ∈ trace Operation.apply attempts
        (afterRun options (earlier ++ [operation])) later,
      attempt.request.authority.workerBoot = boot → attempt.committed = false := by
  have hFirst : boot ∈ (afterRun options (earlier ++ [operation])).fencedBoots := by
    unfold afterRun
    rw [run_append]
    exact hFences.fenced
  have hSplit : afterRun options (earlier ++ operation :: later) =
      run Operation.apply (afterRun options (earlier ++ [operation])) later := by
    unfold afterRun
    rw [← run_append, List.append_assoc, List.singleton_append]
  have hStep : ∀ (registry : Registry) (operation : Operation),
      NoLoad registry operation ∧ ¬Forgets boot registry operation →
      boot ∈ registry.fencedBoots → boot ∈ (operation.apply registry).fencedBoots :=
    fun _ _ hGuard h => fencedBoots_step hGuard h
  have hLast : boot ∈ (afterRun options (earlier ++ operation :: later)).fencedBoots := by
    rw [hSplit]
    exact run_invariant hStep hLater hFirst
  refine ⟨hLast, fun publisher scope => registerPublisher_refused hLast, ?_⟩
  refine trace_forall (P := fun registry => boot ∈ registry.fencedBoots) hStep
    (fun registry operation _ h attempt hMem hBoot => ?_) hLater hFirst
  exact not_committed_of_fenced (hBoot ▸ attempts_fenced operation h attempt hMem)

/-! ### Two fences -/

/-- With room for two fences the second one leaves the first in force. -/
theorem second_fence_keeps_first :
    let later := [Operation.fenceWorkerBoot Sample.bootTwo .unset]
    let last := afterRun { maxFencedWorkerBoots := 2 }
      (Sample.setup ++ .fenceWorkerBoot Sample.bootOne .unset :: later)
    Sample.bootOne ∈ last.fencedBoots ∧
    (∀ publisher scope, ∃ e,
      (registerPublisher last publisher scope Sample.bootOne).2 = .error e) ∧
    ∀ attempt ∈ trace Operation.apply attempts
        (afterRun { maxFencedWorkerBoots := 2 }
          (Sample.setup ++ [.fenceWorkerBoot Sample.bootOne .unset])) later,
      attempt.request.authority.workerBoot = Sample.bootOne → attempt.committed = false := by
  refine fence_is_permanent _ _ _ _ _ ⟨rfl, ?_⟩ ⟨⟨rfl, ?_⟩, trivial⟩
  · decide +kernel
  · rintro ⟨-, -, hFull, -⟩
    exact absurd hFull (by decide +kernel)

/-- With room for one fence the second one readmits the first boot: it registers, and its
publication is committed. -/
theorem forgotten_fence_readmits :
    let options : Options := { maxFencedWorkerBoots := 1 }
    let fence := Operation.fenceWorkerBoot Sample.bootOne .unset
    let later :=
      [Operation.fenceWorkerBoot Sample.bootTwo .unset,
       .registerPublisher Sample.publisher Sample.scope Sample.bootOne,
       .publish (Sample.publication Sample.bootOne "attempt-1" 1 0
        (Sample.claim .supported .processBound))]
    FencesBoot Sample.bootOne (afterRun options Sample.setup) fence ∧
    Sample.bootOne ∉ (afterRun options (Sample.setup ++ fence :: later)).fencedBoots ∧
    (registerPublisher (afterRun options (Sample.setup ++ fence :: later)) Sample.publisher
      Sample.scope Sample.bootOne).2.isOk = true ∧
    ((trace Operation.apply attempts (afterRun options (Sample.setup ++ [fence])) later).any
      fun attempt => attempt.request.authority.workerBoot == Sample.bootOne &&
        attempt.committed) = true := by
  refine ⟨⟨rfl, ?_⟩, ?_, ?_, ?_⟩ <;> decide +kernel

end FabricCapability.Ports
