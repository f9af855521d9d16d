import FabricCapability.Ports.Isolation
import FabricCapability.Ports.LiveEvidence

/-!
# What a fence hits

`FenceWorkerBoot` fences the live evidence of one boot, in every entity, and leaves all other
evidence as it is.  Of the registrations under the boot it drops one: the loop that looks for
the publisher of the fence record remembers the last one it meets, and only that key is
erased.  Publishers that share a boot keep their registrations, but for one of them.

## Main results

* `run_registered`: registrations are kept under their own boots, once per key.
* `erases_boot_iff`: when one erased key is all the registrations of a boot.
* `fence_exact_iff`: when a fence hits its boot and nothing else.
-/

namespace FabricCapability.Ports

open FabricCapability.Verified.KeyedList
open FabricCapability.Verified.Runs

/-! ## Registrations -/

/-- The registration is kept under its boot. -/
def OwnBoot (held : PublisherKey × PublisherRuntime) : Prop :=
  held.2.registration.workerBoot = held.1.boot

/-- The registrations have keys of their own and are kept under their boots. -/
structure Registry.Registered (registry : Registry) : Prop where
  distinct : registry.DistinctPublishers
  own : ∀ held ∈ registry.publishers, OwnBoot held

theorem registered_of_publishers {a b : Registry} (h : b.publishers = a.publishers)
    (hRegistered : a.Registered) : b.Registered := by
  refine ⟨distinct_of_publishers h hRegistered.distinct, ?_⟩
  rw [h]
  exact hRegistered.own

theorem registered_upsert {a b : Registry} {held : PublisherKey × PublisherRuntime}
    (h : b.publishers = upsert Prod.fst held a.publishers) (hOwn : OwnBoot held)
    (hRegistered : a.Registered) : b.Registered := by
  refine ⟨?_, fun other hMem => ?_⟩
  · unfold Registry.DistinctPublishers
    rw [h]
    exact nodup_upsert hRegistered.distinct
  · rw [h] at hMem
    rcases mem_upsert hMem with rfl | hMem
    · exact hOwn
    · exact hRegistered.own other hMem

theorem publish_registered (registry : Registry) (request : PublicationRequest)
    (h : registry.Registered) : (publish registry request).1.Registered := by
  refine ⟨publish_distinct registry request h.distinct, ?_⟩
  cases hCommitted : (Attempt.mk registry request).committed with
  | false =>
      have hSame : (publish registry request).1.publishers = registry.publishers :=
        uncommitted_publishers hCommitted
      rw [hSame]
      exact h.own
  | true =>
      obtain ⟨result, ⟨c⟩⟩ := (Attempt.mk registry request).committed_stages hCommitted
      have hPublishers : (publish registry request).1.publishers = _ := c.publishers
      rw [hPublishers]
      intro held hMem
      obtain ⟨before, hBefore, rfl⟩ := List.mem_map.1 hMem
      have hOwn := h.own before hBefore
      dsimp only
      split
      · exact hOwn
      · exact hOwn

theorem registerPublisher_registered {registry : Registry} (publisher : PublisherId)
    (scope : AuthorityScopeId) (workerBoot : WorkerBootId) (h : registry.Registered) :
    (registerPublisher registry publisher scope workerBoot).1.Registered := by
  unfold registerPublisher
  split
  · exact h
  · split
    · exact h
    · split
      · exact h
      · dsimp only
        split
        · exact h
        · split
          · exact h
          · exact registered_upsert rfl rfl h

theorem retirePublisher_registered {registry : Registry} (publisher : PublisherId)
    (workerBoot : WorkerBootId) (h : registry.Registered) :
    (retirePublisher registry publisher workerBoot).1.Registered := by
  rcases retirePublisher_publishers registry publisher workerBoot with
    hSame | ⟨runtime, hFound, hPublishers⟩
  · exact registered_of_publishers hSame h
  · have hOwn : OwnBoot (PublisherKey.mk publisher workerBoot, runtime) := by
      have hKey : (PublisherKey.mk publisher workerBoot, runtime) ∈ registry.publishers := by
        unfold Registry.findRuntime at hFound
        obtain ⟨held, hHeld, rfl⟩ := Option.map_eq_some_iff.1 hFound
        have hSame : held.1 = PublisherKey.mk publisher workerBoot := lookup_key hHeld
        rw [← hSame]
        exact lookup_mem hHeld
      exact h.own _ hKey
    exact registered_upsert hPublishers hOwn h

theorem loadRegistrations_registered (epoch : CoordinatorEpoch) (payload : StorePayload)
    (fenced : List WorkerBootId) (stored : List StoredRegistration)
    {publishers : List (PublisherKey × PublisherRuntime)}
    (hDistinct : (publishers.map Prod.fst).Nodup) (hOwn : ∀ held ∈ publishers, OwnBoot held) :
    ((loadRegistrations epoch payload fenced publishers stored).map Prod.fst).Nodup ∧
      ∀ held ∈ loadRegistrations epoch payload fenced publishers stored, OwnBoot held := by
  induction stored generalizing publishers with
  | nil => exact ⟨hDistinct, hOwn⟩
  | cons registration stored ih =>
      rw [loadRegistrations]
      split
      · exact ih hDistinct hOwn
      · refine ih (nodup_upsert hDistinct) fun held hMem => ?_
        rcases mem_upsert hMem with rfl | hMem
        · rfl
        · exact hOwn held hMem

theorem load_registered {registry : Registry} (config : PersistenceConfig) (file : Option Bytes)
    (h : registry.Registered) : (load registry config file).1.Registered := by
  unfold load
  split
  · exact h
  · refine ⟨(loadRegistrations_registered _ _ _ _ ?_ ?_).1,
      (loadRegistrations_registered _ _ _ _ ?_ ?_).2⟩
    all_goals first | exact List.nodup_nil | exact fun held hMem => absurd hMem List.not_mem_nil

theorem step_registered {registry : Registry} (operation : Operation) (h : registry.Registered) :
    (operation.apply registry).Registered := by
  cases operation with
  | publish request => exact publish_registered registry request h
  | publishBatch requests =>
      exact publishBatch_preserves (P := Registry.Registered)
        (fun attempt _ => publish_registered attempt.before attempt.request) h
  | fenceWorkerBoot workerBoot reason =>
      rcases fenceWorkerBoot_publishers registry workerBoot reason with
        hSame | ⟨-, publisher, hPublishers⟩
      · exact registered_of_publishers (congrArg Registry.publishers hSame) h
      · refine ⟨?_, fun held hMem => ?_⟩
        · unfold Registry.DistinctPublishers
          rw [Operation.apply, hPublishers]
          exact h.distinct.sublist (List.filter_sublist.map _)
        · rw [Operation.apply, hPublishers] at hMem
          exact h.own held (List.mem_filter.1 hMem).1
  | advanceCoordinatorEpoch reason =>
      rcases advanceCoordinatorEpoch_fences registry reason with hSame | ⟨-, hNone, -⟩
      · exact registered_of_publishers (congrArg Registry.publishers hSame) h
      · refine ⟨?_, fun held hMem => ?_⟩
        · unfold Registry.DistinctPublishers
          rw [Operation.apply, hNone]
          exact List.nodup_nil
        · rw [Operation.apply, hNone] at hMem
          cases hMem
  | invalidateEntity entity generation reason =>
      exact registered_of_publishers (invalidateEntity_publishers ..) h
  | invalidateSource source reason =>
      exact registered_of_publishers (invalidateSource_publishers ..) h
  | observeEntityGeneration entity generation reason =>
      exact registered_of_publishers (observeEntityGeneration_publishers ..) h
  | registerPublisher publisher scope workerBoot =>
      exact registerPublisher_registered publisher scope workerBoot h
  | retirePublisher publisher workerBoot =>
      exact retirePublisher_registered publisher workerBoot h
  | declareAuthority grant =>
      exact registered_of_publishers (declareAuthority_publishers ..) h
  | registerVendorDescriptor descriptor =>
      exact registered_of_publishers (registerVendorDescriptor_publishers ..) h
  | load config file => exact load_registered config file h
  | rehash publishers =>
      rw [Operation.apply]
      split
      · rename_i hPerm
        exact ⟨(hPerm.map Prod.fst).nodup_iff.2 h.distinct,
          fun held hMem => h.own held (hPerm.mem_iff.1 hMem)⟩
      · exact h

theorem run_registered (options : Options) (operations : List Operation) :
    (afterRun options operations).Registered := by
  refine run_invariant (fun _ operation _ h => step_registered operation h)
    (guarded_of_forall fun _ _ => trivial) ?_
  have hNone : (Registry.init options).publishers = [] := by
    unfold Registry.init
    split <;> rfl
  refine ⟨?_, fun held hMem => ?_⟩
  · unfold Registry.DistinctPublishers
    rw [hNone]
    exact List.nodup_nil
  · rw [hNone] at hMem
    cases hMem

/-! ## The effect of a fence -/

/-- The records of a list once the boot is fenced: its live ones carry the mark. -/
def fencedCopies (boot : WorkerBootId) (reason : ReasonToken) (evidence : List EvidenceRecord) :
    List EvidenceRecord :=
  evidence.map fun record =>
    if record.workerBoot = boot ∧ record.live = true then
      { record with currentness := .fenced, reason }
    else record

/-- What the entities of a registry hold, record by record, under `mark`. -/
def Registry.evidenceUnder (mark : List EvidenceRecord → List EvidenceRecord)
    (registry : Registry) : List (EntityId × List (CapabilityId × List EvidenceRecord)) :=
  registry.entities.map fun entity =>
    (entity.id, entity.capabilities.map fun entry => (entry.id, mark entry.evidence))

/-- No registration carries the boot any more, its live records are fenced, and all other
registrations and records are what they were. -/
structure FenceExact (before after : Registry) (boot : WorkerBootId) : Prop where
  registrations : after.publishers =
    before.publishers.filter fun held => held.2.registration.workerBoot ≠ boot
  evidence : ∃ reason,
    after.evidenceUnder id = before.evidenceUnder (fencedCopies boot reason)

theorem fencedCopies_idle {boot : WorkerBootId} {reason : ReasonToken}
    {evidence : List EvidenceRecord}
    (h : ∀ record ∈ evidence, record.live = true → record.workerBoot ≠ boot) :
    fencedCopies boot reason evidence = evidence := by
  unfold fencedCopies
  refine (List.map_congr_left fun record hMem => ?_).trans (List.map_id' evidence)
  rw [if_neg]
  rintro ⟨hBoot, hLive⟩
  exact h record hMem hLive hBoot

theorem fencedCopies_eq (boot : WorkerBootId) (reason : ReasonToken)
    (evidence : List EvidenceRecord) :
    fencedCopies boot reason evidence =
      relabel (demotes (some boot) none false) .fenced reason evidence := by
  unfold fencedCopies relabel
  refine List.map_congr_left fun record _ => ?_
  simp only [demotes_fenced, Bool.and_eq_true, beq_iff_eq]

/-- The live records of an inserted fence's boot are fenced, and no other is touched. -/
theorem insertFence_evidence (registry : Registry) (boot : WorkerBootId)
    (reason : ReasonToken) :
    (insertFence registry boot reason).1.evidenceUnder id =
      registry.evidenceUnder
        (fencedCopies boot (reasonOr reason (txt "worker-boot-fenced"))) := by
  unfold Registry.evidenceUnder
  rw [insertFence_entities]
  refine map_mapAccum _ _ fun indexes entity => ?_
  refine Prod.ext rfl (map_mapAccum _ _ fun indexes entry => ?_)
  rw [relabelEntry_id, relabelEntry_evidence, fencedCopies_eq]
  rfl

theorem insertFence_registrations (registry : Registry) (boot : WorkerBootId)
    (reason : ReasonToken) :
    (insertFence registry boot reason).1.publishers =
      registry.publishers.filter fun held =>
        held.1 ≠ PublisherKey.mk (((registry.publishers.filter fun held =>
          held.1.boot = boot).getLast?.map fun held => held.1.publisher).getD .unset) boot := by
  unfold insertFence
  exact advanceRegistry_publishers ..

theorem own_boot_iff {registry : Registry} (h : registry.Registered) (boot : WorkerBootId)
    {held : PublisherKey × PublisherRuntime} (hMem : held ∈ registry.publishers) :
    held.2.registration.workerBoot = boot ↔ held.1.boot = boot := by
  rw [show held.2.registration.workerBoot = held.1.boot from h.own held hMem]

/-! ## One registration per boot -/

/-- Two filters of one list agree if and only if they take the same elements. -/
theorem filter_eq_filter_iff {α : Type} {xs : List α} {p q : α → Bool} :
    xs.filter p = xs.filter q ↔ ∀ x ∈ xs, p x = q x := by
  refine ⟨fun h x hMem => ?_, List.filter_congr⟩
  have hSame : x ∈ xs.filter p ↔ x ∈ xs.filter q := by rw [h]
  rw [List.mem_filter, List.mem_filter, and_iff_right hMem, and_iff_right hMem] at hSame
  exact Bool.eq_iff_iff.2 hSame

/-- Erasing the key of the last publisher of a boot drops the registrations of the boot if
and only if there is at most one. -/
theorem erases_boot_iff {publishers : List (PublisherKey × PublisherRuntime)}
    (hDistinct : (publishers.map Prod.fst).Nodup) (boot : WorkerBootId) :
    (∀ held ∈ publishers, held.1 = PublisherKey.mk (((publishers.filter fun held =>
        held.1.boot = boot).getLast?.map fun held => held.1.publisher).getD .unset) boot ↔
      held.1.boot = boot) ↔
    (publishers.filter fun held => held.1.boot = boot).length ≤ 1 := by
  generalize hOwners : (publishers.filter fun held => held.1.boot = boot) = owners
  have hMem : ∀ held, held ∈ owners ↔ held ∈ publishers ∧ held.1.boot = boot := by
    intro held
    rw [← hOwners, List.mem_filter, decide_eq_true_iff]
  constructor
  · intro hErased
    have hKeys : (owners.map Prod.fst).Nodup := by
      rw [← hOwners]
      exact hDistinct.sublist (List.filter_sublist.map _)
    have hErasedKeys : ∀ key ∈ owners.map Prod.fst, key = PublisherKey.mk
        ((owners.getLast?.map fun held => held.1.publisher).getD .unset) boot := by
      intro key hKey
      obtain ⟨held, hHeld, rfl⟩ := List.mem_map.1 hKey
      obtain ⟨hPublisher, hBoot⟩ := (hMem held).1 hHeld
      exact (hErased held hPublisher).2 hBoot
    rwa [List.eq_replicate_of_mem hErasedKeys, List.nodup_replicate, List.length_map] at hKeys
  · intro hOne held hPublisher
    refine ⟨fun hKey => by rw [hKey], fun hBoot => ?_⟩
    have hOwner : held ∈ owners := (hMem held).2 ⟨hPublisher, hBoot⟩
    match owners, hOne, hOwner with
    | [owner], _, hOwner =>
        rw [List.mem_singleton.1 hOwner] at hBoot ⊢
        rw [← hBoot]
        rfl

/-- In every run a fence that succeeds hits its boot and nothing else if and only if at most
one registration carried the boot, and none if the boot was fenced before. -/
theorem fence_exact_iff (options : Options) (operations : List Operation)
    (boot : WorkerBootId) (reason : ReasonToken)
    (h : (fenceWorkerBoot (afterRun options operations) boot reason).2 = .ok ()) :
    FenceExact (afterRun options operations)
        (fenceWorkerBoot (afterRun options operations) boot reason).1 boot ↔
      ((afterRun options operations).publishers.filter fun held =>
        held.2.registration.workerBoot = boot).length ≤
        if boot ∈ (afterRun options operations).fencedBoots then 0 else 1 := by
  have hRegistered := run_registered options operations
  have hBacked := run_backed options operations
  generalize afterRun options operations = registry at *
  have hOwners : (registry.publishers.filter fun held =>
      held.2.registration.workerBoot = boot) =
      registry.publishers.filter fun held => held.1.boot = boot :=
    List.filter_congr fun held hMem =>
      decide_eq_decide.2 (own_boot_iff hRegistered boot hMem)
  rcases fenceWorkerBoot_inserts registry boot reason with
    hSame | ⟨hNew, base, hEntities, hPublishers, -, -, hInsert⟩
  · have hIn : boot ∈ registry.fencedBoots := by
      rw [← hSame]
      exact fenceWorkerBoot_fences h
    rw [hSame, if_pos hIn, Nat.le_zero, List.length_eq_zero_iff]
    constructor
    · intro hExact
      rw [List.filter_eq_nil_iff]
      intro held hMem
      rw [hExact.registrations] at hMem
      have hOther := (List.mem_filter.1 hMem).2
      rw [decide_eq_true_iff] at hOther ⊢
      exact hOther
    · intro hNone
      refine ⟨?_, reason, ?_⟩
      · symm
        rw [List.filter_eq_self]
        intro held hMem
        have hOther := List.filter_eq_nil_iff.1 hNone held hMem
        rw [decide_eq_true_iff] at hOther ⊢
        exact hOther
      · refine List.map_congr_left fun entity hEntity => ?_
        refine Prod.ext rfl (List.map_congr_left fun entry hEntry => Prod.ext rfl ?_)
        refine (fencedCopies_idle fun record hRecord hLive hBoot => ?_).symm
        refine (hBacked entity hEntity entry hEntry record hRecord hLive).2 ?_
        rw [hBoot]
        exact hIn
  · rw [if_neg hNew, hOwners, ← erases_boot_iff hRegistered.distinct boot]
    have hErased : (insertFence base boot reason).1.publishers = _ :=
      insertFence_registrations base boot reason
    rw [hPublishers] at hErased
    have hEvidence : (insertFence base boot reason).1.evidenceUnder id =
        registry.evidenceUnder
          (fencedCopies boot (reasonOr reason (txt "worker-boot-fenced"))) := by
      rw [insertFence_evidence]
      unfold Registry.evidenceUnder
      rw [hEntities]
    generalize ((registry.publishers.filter fun held => held.1.boot = boot).getLast?.map
      fun held => held.1.publisher).getD .unset = owner at hErased ⊢
    have hTaken : ((insertFence base boot reason).1.publishers =
        registry.publishers.filter fun held => held.2.registration.workerBoot ≠ boot) ↔
        ∀ held ∈ registry.publishers,
          held.1 = PublisherKey.mk owner boot ↔ held.1.boot = boot := by
      rw [hErased, filter_eq_filter_iff]
      refine forall₂_congr fun held hMem => ?_
      rw [decide_eq_decide, not_iff_not, own_boot_iff hRegistered boot hMem]
    rw [hInsert]
    exact ⟨fun hExact => hTaken.1 hExact.registrations,
      fun hAll => ⟨hTaken.2 hAll, _, hEvidence⟩⟩

/-! ### Two publishers of one boot -/

namespace Sample

/-- Another publisher registers under the boot of the first. -/
def sharedBoot : List Operation :=
  setup ++ [.registerPublisher otherPublisher scope bootOne]

end Sample

theorem fence_of_sole_publisher :
    (fenceWorkerBoot (afterRun {} Sample.setup) Sample.bootOne .unset).2 = .ok () ∧
    FenceExact (afterRun {} Sample.setup)
      (fenceWorkerBoot (afterRun {} Sample.setup) Sample.bootOne .unset).1 Sample.bootOne := by
  have hFenced : (fenceWorkerBoot (afterRun {} Sample.setup) Sample.bootOne .unset).2 = .ok () := by
    decide +kernel
  exact ⟨hFenced, (fence_exact_iff {} Sample.setup Sample.bootOne .unset hFenced).2
    (by decide +kernel)⟩

/-- Of two registrations under one boot the fence of the boot leaves one. -/
theorem fence_leaves_registration :
    (fenceWorkerBoot (afterRun {} Sample.sharedBoot) Sample.bootOne .unset).2 = .ok () ∧
    (∃ held ∈ (fenceWorkerBoot (afterRun {} Sample.sharedBoot) Sample.bootOne .unset).1.publishers,
      held.2.registration.workerBoot = Sample.bootOne) ∧
    ¬ FenceExact (afterRun {} Sample.sharedBoot)
      (fenceWorkerBoot (afterRun {} Sample.sharedBoot) Sample.bootOne .unset).1
      Sample.bootOne := by
  have hHeld : ∃ held ∈ (fenceWorkerBoot (afterRun {} Sample.sharedBoot) Sample.bootOne
      .unset).1.publishers, held.2.registration.workerBoot = Sample.bootOne := by
    decide +kernel
  refine ⟨by decide +kernel, hHeld, fun hExact => ?_⟩
  obtain ⟨held, hMem, hBoot⟩ := hHeld
  rw [hExact.registrations] at hMem
  exact of_decide_eq_true (List.mem_filter.1 hMem).2 hBoot

end FabricCapability.Ports
