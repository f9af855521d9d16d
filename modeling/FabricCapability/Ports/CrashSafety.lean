import FabricCapability.Ports.AckAnswers
import FabricCapability.Ports.DurableAcks
import FabricCapability.Ports.EpochAdvance
import FabricCapability.Ports.LoadBounds

/-!
# Boots after a crash

`Save` writes the fences and the active registrations, and a start fences both: the fences as
they are loaded, and the registrations when the epoch advances.  So a boot stays out after a
crash as soon as the file was written from a registry that knew it.  An ack of a commit
implies that under the conditions of `SavesInOrder`; the ack of a `Fence` does not, since its
handler saves nothing.

## Main results

* `restart_fences`: a start from the file of a registry fences the boots that it knew.
* `told_boots_refused`: every run in which no boot is forgotten and fences are acknowledged
  only when the file knows the boot.
* `fenced_boot_returns`: a fence that is acknowledged and gone after the crash.
-/

namespace FabricCapability.Ports

open FabricCapability.Verified.KeyedList
open FabricCapability.Verified.Runs
open FabricCapability.Verified.StrictOrder
open FabricCapability.Verified.Workers

/-! ## A restart -/

/-- The boot has a fence or an active registration. -/
def Known (registry : Registry) (boot : WorkerBootId) : Prop :=
  (∃ fence ∈ registry.fences, fence.workerBoot = boot) ∨
    ∃ held ∈ registry.publishers, held.1.boot = boot ∧ held.2.active = true

def activeBoots (registry : Registry) : List WorkerBootId :=
  (registry.publishers.filter fun held => held.2.active).map fun held => held.1.boot

/-- A start from the file of the registry has room for the fences of all its boots. -/
def RestartRoom (options : CoordinatorOptions) (registry : Registry) : Prop :=
  let boots := newBoots (registry.fences.map FenceRecord.workerBoot) (activeBoots registry)
  boots = ∅ ∨
    registry.fences.length + boots.card ≤
      (Registry.init options.registryOptions).options.maxFencedWorkerBoots

theorem exists_upsert_key {α κ : Type} [DecidableEq κ] {key : α → κ} {a : α} {xs : List α}
    {p : κ → Prop} :
    (∃ x ∈ upsert key a xs, p (key x)) ↔ p (key a) ∨ ∃ x ∈ xs, p (key x) := by
  constructor
  · rintro ⟨x, hMem, hHolds⟩
    rcases mem_upsert hMem with rfl | hOld
    · exact .inl hHolds
    · exact .inr ⟨x, hOld, hHolds⟩
  · rintro (hNew | ⟨x, hMem, hHolds⟩)
    · exact ⟨a, mem_upsert_self, hNew⟩
    · have hKey : key x ∈ (upsert key a xs).map key := by
        rw [map_key_upsert]
        split
        · exact List.mem_map_of_mem hMem
        · exact List.mem_append_left _ (List.mem_map_of_mem hMem)
      obtain ⟨y, hKept, hSame⟩ := List.mem_map.1 hKey
      exact ⟨y, hKept, hSame ▸ hHolds⟩

/-- The boots that the registrations of a payload bring back. -/
theorem mem_loadRegistrations {epoch : CoordinatorEpoch} {payload : StorePayload}
    {fenced : List WorkerBootId} {boot : WorkerBootId} {stored : List StoredRegistration}
    (hComplete : ∀ registration ∈ stored, registration.complete = true)
    {publishers : List (PublisherKey × PublisherRuntime)} :
    (∃ held ∈ loadRegistrations epoch payload fenced publishers stored, held.1.boot = boot) ↔
      (∃ held ∈ publishers, held.1.boot = boot) ∨
        boot ∉ fenced ∧ ∃ registration ∈ stored, registration.workerBoot = boot := by
  induction stored generalizing publishers with
  | nil => simp [loadRegistrations]
  | cons registration stored ih =>
      have hRest := fun other hMem => hComplete other (List.mem_cons_of_mem _ hMem)
      have hHere := hComplete registration List.mem_cons_self
      simp only [StoredRegistration.complete, Bool.and_eq_true] at hHere
      rw [loadRegistrations]
      split
      · rename_i hSkip
        have hFenced : registration.workerBoot ∈ fenced := by
          simpa [hHere.1, hHere.2.1] using hSkip
        rw [ih hRest]
        refine or_congr_right (and_congr_right fun hNot => ?_)
        constructor
        · rintro ⟨other, hMem, hBoot⟩
          exact ⟨other, List.mem_cons_of_mem _ hMem, hBoot⟩
        · rintro ⟨other, hMem, rfl⟩
          rcases List.mem_cons.1 hMem with rfl | hLater
          · exact absurd hFenced hNot
          · exact ⟨other, hLater, rfl⟩
      · rename_i hKeep
        have hNot : registration.workerBoot ∉ fenced := by
          simpa [hHere.1, hHere.2.1] using hKeep
        dsimp only
        rw [ih hRest, exists_upsert_key (p := fun key : PublisherKey => key.boot = boot)]
        dsimp only
        constructor
        · rintro ((rfl | hOld) | ⟨hNew, other, hMem, hBoot⟩)
          · exact .inr ⟨hNot, registration, List.mem_cons_self, rfl⟩
          · exact .inl hOld
          · exact .inr ⟨hNew, other, List.mem_cons_of_mem _ hMem, hBoot⟩
        · rintro (hOld | ⟨hNew, other, hMem, hBoot⟩)
          · exact .inl (.inr hOld)
          · rcases List.mem_cons.1 hMem with rfl | hLater
            · exact .inl (.inl hBoot)
            · exact .inr ⟨hNew, other, hLater, hBoot⟩

theorem reread_registrations {payload reread : StorePayload}
    (h : payload.reread = some reread) :
    ∀ registration ∈ payload.registrations, registration.complete = true := by
  unfold StorePayload.reread at h
  obtain ⟨authorities, -, h⟩ := Option.bind_eq_some_iff.1 h
  obtain ⟨fences, -, h⟩ := Option.bind_eq_some_iff.1 h
  obtain ⟨registrations, hRegistrations, -⟩ := Option.bind_eq_some_iff.1 h
  exact List.all_eq_true.1 (mapM_guard_eq_some.1 (listed_eq_some.1 hRegistrations).2).1

/-- What a load makes of the fences and the registrations of the saved registry. -/
theorem loadPayload_boots {saved target : Registry} {payload : StorePayload}
    (h : saved.payload.reread = some payload) :
    (loadPayload target payload).fences.length = saved.fences.length ∧
      (∀ boot, boot ∈ (loadPayload target payload).fencedBoots ↔
        ∃ fence ∈ saved.fences, fence.workerBoot = boot) ∧
      ∀ boot, boot ∈ ((loadPayload target payload).publishers.map fun held => held.1.boot) ↔
        boot ∉ (loadPayload target payload).fencedBoots ∧ boot ∈ activeBoots saved := by
  obtain ⟨hFences, hRegistrations, hSet⟩ := StorePayload.reread_lists h
  have hRecords : payload.fenceRecords = payload.fences.map fun fence =>
      { workerBoot := fence.workerBoot, publisher := fence.publisher, reason := fence.reason,
        fencedAt := payload.registryGeneration } := by
    unfold StorePayload.fenceRecords
    rw [List.filter_eq_self.2 fun fence hMem => hSet fence (hFences ▸ hMem)]
  have hStored : ∀ boot, (∃ fence ∈ payload.fences, fence.workerBoot = boot) ↔
      ∃ fence ∈ saved.fences, fence.workerBoot = boot := by
    intro boot
    rw [hFences]
    simp only [Registry.payload, Registry.storedFences, mem_sortBy, List.mem_map]
    constructor
    · rintro ⟨_, ⟨fence, hMem, rfl⟩, rfl⟩
      exact ⟨fence, hMem, rfl⟩
    · rintro ⟨fence, hMem, rfl⟩
      exact ⟨_, ⟨fence, hMem, rfl⟩, rfl⟩
  refine ⟨?_, fun boot => ?_, fun boot => ?_⟩
  · show payload.fenceRecords.length = _
    rw [hRecords, List.length_map, hFences]
    show (sortBy _ (saved.fences.map _)).length = _
    rw [(sortBy_perm _ _).length_eq, List.length_map]
  · show boot ∈ payload.fenceRecords.foldl _ [] ↔ _
    rw [mem_foldl_insertMember FenceRecord.workerBoot, hRecords, ← hStored]
    simp only [List.not_mem_nil, false_or, List.mem_map]
    constructor
    · rintro ⟨_, ⟨fence, hMem, rfl⟩, rfl⟩
      exact ⟨fence, hMem, rfl⟩
    · rintro ⟨fence, hMem, rfl⟩
      exact ⟨_, ⟨fence, hMem, rfl⟩, rfl⟩
  · have hLoaded := @mem_loadRegistrations (if payload.epoch = 0 then 1 else payload.epoch) payload
      (loadPayload target payload).fencedBoots boot payload.registrations
      (hRegistrations ▸ reread_registrations h) []
    rw [List.mem_map]
    refine hLoaded.trans ?_
    simp only [List.not_mem_nil, false_and, exists_false, false_or]
    refine and_congr_right fun _ => ?_
    rw [hRegistrations]
    simp only [Registry.payload, Registry.storedRegistrations, mem_sortBy, activeBoots,
      List.mem_map]
    constructor
    · rintro ⟨_, ⟨held, hMem, rfl⟩, rfl⟩
      exact ⟨held, hMem, rfl⟩
    · rintro ⟨held, hMem, rfl⟩
      exact ⟨_, ⟨held, hMem, rfl⟩, rfl⟩

/-- A start from the file of a registry fences every boot that the registry knew. -/
theorem restart_fences {options : CoordinatorOptions} (hPersist : options.persistOnStart = true)
    (hStore : options.persistence.isSome = true) (hAdvance : options.advanceEpochOnStart = true)
    {saved : Registry} {file : Bytes} {report : SaveReport}
    (hSave : save saved = .ok (file, report)) (hRoom : RestartRoom options saved)
    {boot : WorkerBootId} (hKnown : Known saved boot) {written : Bool} {after : Coordinator}
    (hStart : startCoordinator options (some file) written = .ok after) :
    boot ∈ after.registry.fencedBoots := by
  obtain ⟨loaded, hLoaded, hAdvanced⟩ := outcome_bind_eq_ok.1 hStart
  obtain ⟨config, hConfig⟩ := Option.isSome_iff_exists.1 hStore
  have hPayload : ∃ payload, saved.payload.reread = some payload ∧
      loaded = loadPayload (Registry.init options.registryOptions) payload := by
    unfold loadOnStart at hLoaded
    rw [hPersist, hConfig] at hLoaded
    dsimp only at hLoaded
    split at hLoaded
    · cases hLoaded
    · rename_i hLoad
      cases hLoaded
      exact load_eq_ok hSave hLoad
  obtain ⟨payload, hReread, rfl⟩ := hPayload
  obtain ⟨hLength, hFences, hPublishers⟩ :=
    @loadPayload_boots saved (Registry.init options.registryOptions) payload hReread
  generalize hTarget : loadPayload (Registry.init options.registryOptions) payload = loaded at *
  have hMax : loaded.options = (Registry.init options.registryOptions).options := by
    rw [← hTarget]
    rfl
  have hFits : newBoots loaded.fencedBoots loaded.boots = ∅ ∨
      loaded.fences.length + (newBoots loaded.fencedBoots loaded.boots).card ≤
        loaded.options.maxFencedWorkerBoots := by
    have hSame : newBoots loaded.fencedBoots loaded.boots =
        newBoots (saved.fences.map FenceRecord.workerBoot) (activeBoots saved) := by
      ext other
      simp only [newBoots, Finset.mem_sdiff, List.mem_toFinset, List.mem_map]
      rw [hFences]
      refine and_congr_left fun hNot => ?_
      exact (hPublishers other).trans ⟨And.right, fun hActive =>
        ⟨fun hFenced => hNot ((hFences other).1 hFenced), hActive⟩⟩
    rw [hSame, hLength, hMax]
    exact hRoom
  have hAfter : ∃ reason registry epoch,
      advanceCoordinatorEpoch loaded reason = (registry, .ok epoch) ∧
        after.registry = registry := by
    unfold advanceOnStart at hAdvanced
    rw [if_pos hAdvance] at hAdvanced
    split at hAdvanced
    · cases hAdvanced
    · rename_i registry epoch hEpoch
      refine ⟨_, registry, epoch, hEpoch, ?_⟩
      split at hAdvanced
      · split at hAdvanced
        · cases hAdvanced
        · cases hAdvanced
        · cases hAdvanced
          rfl
      · cases hAdvanced
        rfl
  obtain ⟨reason, registry, epoch, hEpoch, rfl⟩ := hAfter
  obtain ⟨next, why, generation, hFenced, -, -⟩ := advanceCoordinatorEpoch_ok hEpoch
  rw [hFenced]
  have hHeld : boot ∈ loaded.fencedBoots ∨ boot ∈ loaded.boots := by
    by_cases hOld : boot ∈ loaded.fencedBoots
    · exact .inl hOld
    · refine .inr ((hPublishers boot).2 ⟨hOld, ?_⟩)
      rcases hKnown with hFence | ⟨held, hMem, rfl, hActive⟩
      · exact absurd ((hFences boot).2 hFence) hOld
      · exact List.mem_map.2 ⟨held, List.mem_filter.2 ⟨hMem, hActive⟩, rfl⟩
  rcases hHeld with hOld | hNew
  · exact fenceBoots_fencedBoots why loaded.boots hOld
  · exact (fenceBoots_all_iff why loaded.boots
      { loaded with epoch := next, publishers := [] }).2 hFits boot hNew

/-! ## Statements -/

/-- A client was told that the boot is fenced, or that a publication of it is committed. -/
inductive Told (log : List Event) (boot : WorkerBootId) : Prop
  | fenced {worker : Nat} {requestId : UInt64} {payload : Bytes} {past : List Event}
      {frame : WireFrame} {target : FencePayload}
      (ack : .sent worker .fenceAck requestId payload :: past <:+ log)
      (latest : (framesOf worker past).head? = some frame)
      (decodes : decodeFence frame.payload = .ok target) (names : target.workerBoot = boot) :
      Told log boot
  | committed {worker : Nat} {requestId : UInt64} {response : Bytes} {past : List Event}
      {payload : Bytes} {result : PublicationResult} {before : List Event}
      {request : PublicationRequest}
      (ack : .sent worker .publishAck requestId response :: past <:+ log)
      (handled : .handled worker payload result :: before <:+ past)
      (commits : result.status = .committed)
      (encodes : encodePublicationResult result = .ok response)
      (decodes : decodePublicationRequest payload = .ok request)
      (names : request.authority.workerBoot = boot) : Told log boot

/-- The registry registers nobody under the boot, and commits no publication of it. -/
def Refuses (registry : Registry) (boot : WorkerBootId) : Prop :=
  (∀ publisher scope, ∃ e, (registerPublisher registry publisher scope boot).2 = .error e) ∧
    ∀ attempt : Attempt, attempt.before = registry →
      attempt.request.authority.workerBoot = boot → attempt.committed = false

/-- After a start from the file that the coordinator leaves, the boot is refused, as long as
no later call is a load or makes room by forgetting its fence. -/
def RefusedAfterCrash (options : CoordinatorOptions) (s : Coordinator) (boot : WorkerBootId) :
    Prop :=
  ∀ written after, startCoordinator options s.store written = .ok after → ∀ later,
    Guarded Operation.apply
      (fun registry operation => NoLoad registry operation ∧ ¬Forgets boot registry operation)
      after.registry later →
        Refuses (run Operation.apply after.registry later) boot

theorem refuses_of_fenced {registry : Registry} {boot : WorkerBootId}
    (h : boot ∈ registry.fencedBoots) : Refuses registry boot := by
  refine ⟨fun publisher scope => registerPublisher_refused h, fun attempt hBefore hBoot => ?_⟩
  refine not_committed_of_fenced ?_
  rw [hBefore, hBoot]
  exact h

/-- The boot was registered when the log had this length. -/
def RegisteredAt (log : List Event) (boot : WorkerBootId) (position : Nat) : Prop :=
  ∃ worker scope past, Event.registered worker scope boot :: past <:+ log ∧
    past.length = position

/-- The file was written from a registry that was read behind a registration of the boot. -/
def BootInFile (s : Coordinator) (boot : WorkerBootId) : Prop :=
  ∃ position, RegisteredAt s.log boot position ∧ InFile s position

/-- The saves keep in order, no boot is forgotten, a restart from the file has room for the
fences, and a fence is acknowledged only when the file knows the boot. -/
structure KeepsBoots (options : CoordinatorOptions) (s t : Coordinator) : Prop where
  saves : SavesInOrder s t
  known : ∀ boot, Known s.registry boot → Known t.registry boot
  room : ∀ worker taken registry, t.log = .stored worker taken registry :: s.log →
    RestartRoom options registry
  fenced : ∀ worker requestId payload, t.log = .sent worker .fenceAck requestId payload :: s.log →
    ∀ frame target, (framesOf worker s.log).head? = some frame →
      decodeFence frame.payload = .ok target → BootInFile s target.workerBoot

/-! ## Registrations in the log -/

theorem registeredAt_lt {log : List Event} {boot : WorkerBootId} {position : Nat}
    (h : RegisteredAt log boot position) : position < log.length := by
  obtain ⟨worker, scope, past, hSuffix, rfl⟩ := h
  exact Nat.lt_of_lt_of_le (Nat.lt_succ_self _) hSuffix.length_le

theorem registeredAt_append {log : List Event} {boot : WorkerBootId} {position : Nat}
    (h : RegisteredAt log boot position) (new : List Event) :
    RegisteredAt (new ++ log) boot position := by
  obtain ⟨worker, scope, past, hSuffix, hLength⟩ := h
  exact ⟨worker, scope, past, hSuffix.trans (List.suffix_append _ _), hLength⟩

theorem registeredAt_cons {event : Event} {log : List Event} {boot : WorkerBootId}
    {position : Nat} (h : RegisteredAt (event :: log) boot position) :
    (∃ worker scope, event = .registered worker scope boot) ∧ position = log.length ∨
      RegisteredAt log boot position := by
  obtain ⟨worker, scope, past, hSuffix, hLength⟩ := h
  rcases List.suffix_cons_iff.1 hSuffix with hHere | hBefore
  · obtain ⟨rfl, rfl⟩ := List.cons_eq_cons.1 hHere
    exact .inl ⟨⟨worker, scope, rfl⟩, hLength.symm⟩
  · exact .inr ⟨worker, scope, past, hBefore, hLength⟩

/-- Nothing that happens later changes the beginning of the log. -/
theorem registeredAt_of_append {new log : List Event} {boot : WorkerBootId} {position : Nat}
    (h : RegisteredAt (new ++ log) boot position) (hBefore : position < log.length) :
    RegisteredAt log boot position := by
  induction new with
  | nil => exact h
  | cons event new ih =>
      rcases registeredAt_cons h with ⟨-, hHere⟩ | hEarlier
      · have hLength : position = (new ++ log).length := hHere
        rw [List.length_append] at hLength
        omega
      · exact ih hEarlier

/-! ## What the log and the file know -/

/-- Who publishes has registered, the registry knows the registered boots, and a registry
that was saved knows the boots that were registered before it was read. -/
structure BootsKept (options : CoordinatorOptions) (s : Coordinator) : Prop where
  connections : ∀ worker state, s.connection worker = some state → state.handshakeDone = true →
    ∃ position, RegisteredAt s.log state.workerBoot position
  commits : ∀ worker payload result before request,
    Event.handled worker payload result :: before <:+ s.log → result.status = .committed →
      decodePublicationRequest payload = .ok request →
        ∃ position, RegisteredAt before request.authority.workerBoot position
  knows : ∀ boot position, RegisteredAt s.log boot position → Known s.registry boot
  file : ∀ taken registry, latestStore s.log = some (taken, registry) →
    RestartRoom options registry ∧ taken ≤ s.log.length ∧
      ∀ boot position, RegisteredAt s.log boot position → position < taken →
        Known registry boot
  fences : ∀ worker requestId payload past,
    Event.sent worker .fenceAck requestId payload :: past <:+ s.log →
      ∀ frame target, (framesOf worker past).head? = some frame →
        decodeFence frame.payload = .ok target → BootInFile s target.workerBoot

/-- Steps that keep the boots, and the file. -/
def KeepsAll (options : CoordinatorOptions) (s t : Coordinator) : Prop :=
  KeepsBoots options s t ∧ KeepsFile s t

def crashContract (options : CoordinatorOptions) : Contract Coordinator Nat :=
  ownContract (KeepsAll options) (BootsKept options)

theorem crashContract_own (options : CoordinatorOptions) : KeepsToOwn (crashContract options) :=
  ownContract_own _ _

section Steps

variable {options : CoordinatorOptions} {worker : Nat} {s t : Coordinator}

theorem BootInFile.kept {boot : WorkerBootId} {new : List Event} (h : BootInFile s boot)
    (hLog : t.log = new ++ s.log) (hFile : KeepsFile s t) : BootInFile t boot := by
  obtain ⟨position, hRegistered, hHeld⟩ := h
  exact ⟨position, hLog ▸ registeredAt_append hRegistered new, hFile.kept position hHeld⟩

/-- A step that leaves the log alone. -/
theorem kept_of_log (h : BootsKept options s) (hOk : KeepsAll options s t) (hLog : t.log = s.log)
    (hConnections : ∀ other after, t.connection other = some after →
      after.handshakeDone = true →
        (∃ position, RegisteredAt s.log after.workerBoot position) ∨
          ∃ before, s.connection other = some before ∧ before.handshakeDone = true ∧
            before.workerBoot = after.workerBoot) : BootsKept options t := by
  refine ⟨fun other after hAfter hDone => ?_, ?_, fun boot position hRegistered => ?_, ?_, ?_⟩
  · rw [hLog]
    rcases hConnections other after hAfter hDone with hHere | ⟨before, hBefore, hWas, hSame⟩
    · exact hHere
    · exact hSame ▸ h.connections other before hBefore hWas
  · rw [hLog]
    exact h.commits
  · exact hOk.1.known boot (h.knows boot position (hLog ▸ hRegistered))
  · rw [hLog]
    exact h.file
  · rw [hLog]
    intro other requestId payload past hSuffix frame target hLatest hDecodes
    have hHeld := h.fences other requestId payload past hSuffix frame target hLatest hDecodes
    have hGrown : t.log = [] ++ s.log := hLog
    exact hHeld.kept hGrown hOk.2

/-- A step that something happens in. -/
theorem kept_of_event {event : Event} (h : BootsKept options s) (hOk : KeepsAll options s t)
    (hLog : t.log = event :: s.log) (hConnections : t.connections = s.connections)
    (hRegistered : ∀ other scope boot, event = .registered other scope boot →
      Known t.registry boot)
    (hHandled : ∀ other payload result request, event = .handled other payload result →
      result.status = .committed → decodePublicationRequest payload = .ok request →
        ∃ position, RegisteredAt s.log request.authority.workerBoot position)
    (hStored : ∀ other taken registry, event = .stored other taken registry →
      taken ≤ s.log.length ∧ ∀ boot position, RegisteredAt s.log boot position →
        position < taken → Known registry boot) : BootsKept options t := by
  have hGrown : t.log = [event] ++ s.log := hLog
  refine ⟨fun other state hFound hDone => ?_, ?_, ?_, ?_, ?_⟩
  · unfold Coordinator.connection at hFound
    rw [hConnections] at hFound
    obtain ⟨position, hHeld⟩ := h.connections other state hFound hDone
    exact ⟨position, hGrown ▸ registeredAt_append hHeld [event]⟩
  · rw [hLog]
    intro other payload result before request hSuffix hCommitted hDecodes
    rcases List.suffix_cons_iff.1 hSuffix with hHere | hBefore
    · obtain ⟨rfl, rfl⟩ := List.cons_eq_cons.1 hHere
      exact hHandled other payload result request rfl hCommitted hDecodes
    · exact h.commits other payload result before request hBefore hCommitted hDecodes
  · rw [hLog]
    intro boot position hHeld
    rcases registeredAt_cons hHeld with ⟨⟨other, scope, hEvent⟩, -⟩ | hEarlier
    · exact hRegistered other scope boot hEvent
    · exact hOk.1.known boot (h.knows boot position hEarlier)
  · intro taken registry hLatest
    have hBound : taken ≤ s.log.length ∧ RestartRoom options registry ∧
        ∀ boot position, RegisteredAt s.log boot position → position < taken →
          Known registry boot := by
      by_cases hKind : ∃ other taken registry, event = .stored other taken registry
      · obtain ⟨other, read, held, rfl⟩ := hKind
        rw [hLog, latestStore, Option.some.injEq, Prod.mk.injEq] at hLatest
        obtain ⟨rfl, rfl⟩ := hLatest
        obtain ⟨hTaken, hKnows⟩ := hStored other read held rfl
        exact ⟨hTaken, hOk.1.room other read held hLog, hKnows⟩
      · have hSame : latestStore (event :: s.log) = latestStore s.log := by
          cases event with
          | stored other taken registry => exact absurd ⟨other, taken, registry, rfl⟩ hKind
          | _ => rfl
        rw [hLog, hSame] at hLatest
        obtain ⟨hRoom, hTaken, hKnows⟩ := h.file taken registry hLatest
        exact ⟨hTaken, hRoom, hKnows⟩
    obtain ⟨hTaken, hRoom, hKnows⟩ := hBound
    refine ⟨hRoom, ?_, fun boot position hHeld hBefore => ?_⟩
    · rw [hLog]
      exact Nat.le_succ_of_le hTaken
    · rw [hGrown] at hHeld
      exact hKnows boot position
        (registeredAt_of_append hHeld (Nat.lt_of_lt_of_le hBefore hTaken)) hBefore
  · rw [hLog]
    intro other requestId payload past hSuffix frame target hLatest hDecodes
    rcases List.suffix_cons_iff.1 hSuffix with hHere | hBefore
    · obtain ⟨rfl, rfl⟩ := List.cons_eq_cons.1 hHere
      have hHeld := hOk.1.fenced other requestId payload hLog frame target hLatest hDecodes
      exact hHeld.kept hGrown hOk.2
    · have hHeld := h.fences other requestId payload past hBefore frame target hLatest hDecodes
      exact hHeld.kept hGrown hOk.2

/-- An event that registers, handles and stores nothing. -/
def Event.Plain : Event → Prop
  | registered .. | handled .. | stored .. => False
  | _ => True

theorem crash_note {event : Event} (hOwn : event.worker = worker) (hPlain : event.Plain)
    (registry : Registry) :
    (crashContract options).does worker s ({ s with registry }.note event) := by
  refine ⟨onlyOwn_change hOwn registry s, fun hInv hOk => ?_⟩
  refine kept_of_event hInv hOk rfl rfl (fun _ _ _ hEvent => ?_) (fun _ _ _ _ hEvent => ?_)
    fun _ _ _ hEvent => ?_
  · subst hEvent
    exact absurd hPlain id
  · subst hEvent
    exact absurd hPlain id
  · subst hEvent
    exact absurd hPlain id

/-- A step that leaves the log and the connections alone. -/
theorem crash_fields (hLog : t.log = s.log) (hConnections : t.connections = s.connections) :
    (crashContract options).does worker s t := by
  refine ⟨onlyOwn_of_fields hLog hConnections, fun hInv hOk => ?_⟩
  refine kept_of_log hInv hOk hLog fun other after hAfter hDone => .inr ⟨after, ?_, hDone, rfl⟩
  unfold Coordinator.connection at hAfter ⊢
  rwa [hConnections] at hAfter

theorem crash_sends {type : WireMessageType} {requestId : UInt64} {payload : Bytes}
    (h : Sends worker type requestId payload s t) : (crashContract options).does worker s t := by
  cases h with
  | sent =>
      exact @crash_note options worker s (.sent worker type requestId payload) rfl trivial s.registry
  | lost =>
      exact @crash_note options worker s (.lost worker type requestId payload) rfl trivial s.registry

theorem crash_chats (h : Chats worker s t) : (crashContract options).does worker s t := by
  cases h with
  | reads => exact (crashContract options).still worker s
  | status sends => exact crash_sends sends
  | error sends => exact crash_sends sends

theorem crash_greets (h : Greets worker s t) : (crashContract options).does worker s t := by
  cases h with
  | chats chats => exact crash_chats chats
  | acks sends => exact crash_sends sends

/-- A boot is registered: the registry knows it. -/
theorem crash_registers {publisher : PublisherId} {scope : AuthorityScopeId}
    {workerBoot : WorkerBootId} {registry : Registry} {registration : PublisherRegistration}
    (h : registerPublisher s.registry publisher scope workerBoot =
      (registry, .ok registration)) :
    (crashContract options).does worker s
      ({ s with registry }.note (.registered worker scope workerBoot)) := by
  refine ⟨@onlyOwn_change worker (.registered ..) rfl registry s, fun hInv hOk => ?_⟩
  refine kept_of_event hInv hOk rfl rfl (fun _ _ _ hEvent => ?_) (fun _ _ _ _ hEvent => by cases hEvent)
    fun _ _ _ hEvent => by cases hEvent
  cases hEvent
  unfold registerPublisher at h
  split at h
  · cases h
  · split at h
    · cases h
    · split at h
      · cases h
      · dsimp only at h
        split at h
        · cases h
        · split at h
          · cases h
          · cases h
            exact .inr ⟨_, mem_upsert_self, rfl, rfl⟩

theorem registered_stable (boot : WorkerBootId) :
    Stable (crashContract options) worker fun s => ∃ position, RegisteredAt s.log boot position := by
  intro other _ s t _ hHeld _ hDoes
  obtain ⟨new, hNew, -⟩ := hDoes.1.log
  obtain ⟨position, hRegistered⟩ := hHeld
  exact ⟨position, hNew ▸ registeredAt_append hRegistered new⟩

/-- What a snapshot knows. -/
def SnapshotKnows (registry : Registry) (taken : Nat) (s : Coordinator) : Prop :=
  taken ≤ s.log.length ∧ ∀ boot position, RegisteredAt s.log boot position →
    position < taken → Known registry boot

theorem snapshotKnows_stable (registry : Registry) (taken : Nat) :
    Stable (crashContract options) worker (SnapshotKnows registry taken) := by
  intro other _ s t _ hKnows _ hDoes
  obtain ⟨new, hNew, -⟩ := hDoes.1.log
  unfold SnapshotKnows
  rw [hNew]
  refine ⟨?_, fun boot position hHeld hBefore => ?_⟩
  · rw [List.length_append]
    exact Nat.le_trans hKnows.1 (Nat.le_add_left _ _)
  · have hEarlier := registeredAt_of_append hHeld (Nat.lt_of_lt_of_le hBefore hKnows.1)
    exact hKnows.2 boot position hEarlier hBefore

theorem crash_unstored (s : Coordinator) :
    (crashContract options).does worker s (s.note (.unstored worker)) :=
  @crash_note options worker s (.unstored worker) rfl trivial s.registry

/-- The file is replaced by a snapshot. -/
theorem crash_stored {taken : Nat} {registry : Registry} (file : Bytes)
    (h : SnapshotKnows registry taken s) :
    (crashContract options).does worker s
      ({ s with store := some file }.note (.stored worker taken registry)) := by
  have hStored : OnlyOwn worker s { s with store := some file } := onlyOwn_of_fields rfl rfl
  refine ⟨hStored.trans (@onlyOwn_note worker (.stored ..) rfl _), fun hInv hOk => ?_⟩
  refine kept_of_event hInv hOk rfl rfl (fun _ _ _ hEvent => by cases hEvent)
    (fun _ _ _ _ hEvent => by cases hEvent) fun _ _ _ hEvent => ?_
  cases hEvent
  exact h

/-! ## The parts of a turn -/

/-- A part that needs no facts. -/
theorem crash_within {α : Type} {task : Work α} {P : Coordinator → Prop}
    (h : Within ((crashContract options).does worker) task) :
    Valid (crashContract options) worker (fun _ _ => True) task P :=
  valid_weaken (valid_of_within h (stable_const True) fun _ _ _ _ _ hDoes => ⟨hDoes, trivial⟩)
    fun _ _ _ => trivial

theorem saveStore_crash :
    Valid (crashContract options) worker (fun _ _ => True) (saveStore worker)
      fun _ => True := by
  have hFail : ∀ {P : Coordinator → Prop},
      Valid (crashContract options) worker (fun _ _ => True)
        (do
          Task.modify (Coordinator.note (.unstored worker))
          pure false : Work Bool) P :=
    crash_within (within_bind (within_update fun s => crash_unstored s) fun _ => trivial)
  refine valid_bind (M := fun read s => SnapshotKnows read.1 read.2 s)
    (valid_read (fun read => snapshotKnows_stable read.1 read.2) fun s hInv _ =>
      ⟨Nat.le_refl _, fun boot position hHeld _ => hInv.knows boot position hHeld⟩)
    fun read => ?_
  obtain ⟨registry, taken⟩ := read
  dsimp only
  split
  · exact hFail
  · rename_i file report hSave
    refine valid_toss fun written => ?_
    cases written with
    | false => exact hFail
    | true =>
        refine valid_bind (M := fun _ _ => True)
          (valid_modify (stable_const True) fun s _ hKnows _ => ⟨crash_stored file hKnows, trivial⟩)
          fun _ => valid_pure fun _ _ _ => trivial

theorem persistMutation_crash :
    Valid (crashContract options) worker (fun _ _ => True) (persistMutation options worker)
      fun _ => True := by
  unfold persistMutation
  split
  · exact valid_bind saveStore_crash fun _ => valid_pure fun _ _ _ => trivial
  · exact valid_pure fun _ _ _ => trivial

/-- A payload is handled, and commits for the boot of the connection only. -/
theorem handlePayload_crash {state : ConnectionState} (hDone : state.handshakeDone = true)
    (payload : Bytes) :
    Valid (crashContract options) worker (fun _ _ => True) (handlePayload worker state payload)
      fun s => s.connection worker = some state := by
  have hRefused : ∀ code message {P : Coordinator → Prop},
      Valid (crashContract options) worker (fun _ _ => True)
        (refusePayload worker payload code message) P := by
    intro code message P
    refine valid_update (fun _ => stable_const True) fun s _ _ _ => ⟨⟨?_, fun hInv hOk => ?_⟩, trivial⟩
    · exact @onlyOwn_note worker (.handled ..) rfl s
    · refine kept_of_event hInv hOk rfl rfl (fun _ _ _ hEvent => by cases hEvent)
        (fun _ _ _ _ hEvent hCommitted _ => ?_) fun _ _ _ hEvent => by cases hEvent
      cases hEvent
      cases hCommitted
  unfold handlePayload
  split
  · exact hRefused _ _
  · rename_i publication hDecoded
    split
    · rename_i hSpeaks
      refine valid_bind (M := fun _ s => s.connection worker = some state)
        (valid_read (fun _ => stable_connection (crashContract_own options)
          fun held => held = some state) fun _ _ hFound => hFound) fun epoch => ?_
      refine valid_update (fun _ => stable_const True) fun s hKept hFound _ =>
        ⟨⟨?_, fun hInv hOk => ?_⟩, trivial⟩
      · exact @onlyOwn_change worker (.handled ..) rfl _ s
      · refine kept_of_event hInv hOk rfl rfl (fun _ _ _ hEvent => by cases hEvent)
          (fun _ _ _ request hEvent _ hRequest => ?_) fun _ _ _ hEvent => by cases hEvent
        cases hEvent
        rw [hDecoded, Except.ok.injEq] at hRequest
        rw [← hRequest, hSpeaks.2.1]
        exact hInv.connections worker state hFound hDone
    · exact hRefused _ _

theorem remember_identity (state : ConnectionState) (requestId : UInt64) (response : Bytes) :
    (state.remember requestId response).handshakeDone = state.handshakeDone ∧
      (state.remember requestId response).workerBoot = state.workerBoot := by
  unfold ConnectionState.remember
  dsimp only
  split
  · split <;> exact ⟨rfl, rfl⟩
  · exact ⟨rfl, rfl⟩

/-- The connection of the worker changes. -/
theorem crash_setConnection {state : ConnectionState}
    (h : state.handshakeDone = true →
      (∃ position, RegisteredAt s.log state.workerBoot position) ∨
        ∃ before, s.connection worker = some before ∧ before.handshakeDone = true ∧
          before.workerBoot = state.workerBoot) :
    (crashContract options).does worker s (s.setConnection worker state) := by
  refine ⟨onlyOwn_setConnection s worker state, fun hInv hOk => ?_⟩
  refine kept_of_log hInv hOk rfl fun other after hAfter hDone => ?_
  by_cases hSame : other = worker
  · subst hSame
    rw [connection_setConnection, Option.some.injEq] at hAfter
    subst hAfter
    exact h hDone
  · rw [(onlyOwn_setConnection s worker state).connection other hSame] at hAfter
    exact .inr ⟨after, hAfter, hDone, rfl⟩

theorem rememberAnswer_within (requestId : UInt64) (response : Bytes) :
    Within ((crashContract options).does worker) (rememberAnswer worker requestId response) := by
  refine within_update fun s => ?_
  dsimp only
  split
  · exact (crashContract options).still worker s
  · rename_i state hFound
    obtain ⟨hDone, hBoot⟩ := remember_identity state requestId response
    exact crash_setConnection fun hNow => .inr ⟨state, hFound, hDone ▸ hNow, hBoot.symm⟩

theorem servePublish_crash {state : ConnectionState} (hDone : state.handshakeDone = true)
    (request : WireFrame) :
    Valid (crashContract options) worker (fun _ _ => True)
      (servePublish options worker state request)
      fun s => s.connection worker = some state := by
  have hAck : ∀ response {P : Coordinator → Prop},
      Valid (crashContract options) worker (fun _ _ => True)
        (sendFrame worker .publishAck request.requestId response) P :=
    fun response => crash_within (within_mono (fun _ _ => crash_sends)
      (sendFrame_within worker .publishAck request.requestId response))
  unfold servePublish
  split
  · exact hAck _
  · refine valid_bind (handlePayload_crash hDone request.payload) fun result => ?_
    split
    · exact valid_pure fun _ _ _ => trivial
    · rename_i response _
      refine valid_bind (M := fun _ _ => True)
        (crash_within (rememberAnswer_within request.requestId response)) fun _ => ?_
      exact valid_bind persistMutation_crash fun _ => hAck response

/-- A fence is acknowledged as the assumption of the run has it. -/
theorem serveFence_within (state : ConnectionState) (request : WireFrame) :
    Within ((crashContract options).does worker) (serveFence worker state request) := by
  have hChats : ∀ s t, Chats worker s t → (crashContract options).does worker s t :=
    fun _ _ => crash_chats
  have hError := fun error => within_mono hChats (sendError_within worker request.requestId error)
  unfold serveFence
  split
  · exact hError _
  · refine within_bind (within_update fun s => (crashContract options).still worker s)
      fun allowed => ?_
    split
    · exact hError _
    · refine within_bind (within_update fun s => crash_fields rfl rfl) fun fenced => ?_
      split
      · exact hError _
      · refine within_bind (within_update fun s => crash_fields rfl rfl) fun _ => ?_
        exact within_mono (fun _ _ => crash_sends) (sendFrame_within _ _ _ _)

theorem serveFrame_crash {state : ConnectionState} (hDone : state.handshakeDone = true)
    (request : WireFrame) :
    Valid (crashContract options) worker (fun _ _ => True)
      (serveFrame options worker state request)
      fun s => s.connection worker = some state := by
  have hChats : ∀ {task : Work Bool} {P : Coordinator → Prop}, Within (Chats worker) task →
      Valid (crashContract options) worker (fun _ _ => True) task P :=
    fun hWithin => crash_within (within_mono (fun _ _ => crash_chats) hWithin)
  unfold serveFrame
  split
  · exact servePublish_crash hDone request
  · exact hChats (serveStatus_within worker request)
  · exact crash_within (serveFence_within state request)
  · exact hChats (sendError_within worker _ _)

theorem fenceLost_within (locals : ServeLocals) :
    Within ((crashContract options).does worker) (fenceLost worker locals) := by
  have hClosed : ∀ (s : Coordinator) (registry : Registry), (crashContract options).does worker s
      ({ s with registry }.note (.closed worker registry)) := fun s registry =>
    @crash_note options worker s (.closed worker registry) rfl trivial registry
  unfold fenceLost
  split
  · exact within_bind (within_update fun s => hClosed s _) fun _ =>
      within_update fun s => crash_fields rfl rfl
  · exact within_update fun s => hClosed s s.registry

theorem callRegistry_within (operation : Operation) :
    Within ((crashContract options).does worker) (callRegistry worker operation) := by
  unfold callRegistry
  split
  · refine within_bind (within_update fun s => ?_) fun _ => trivial
    split
    · exact crash_fields rfl rfl
    · rename_i hRegistered
      exact crash_registers hRegistered
  · exact within_update fun s => crash_fields rfl rfl

/-! ## All runs -/

theorem helloCrash : HelloRules (crashContract options) worker (fun _ => True)
    (fun hello s => ∃ position, RegisteredAt s.log hello.workerBoot position)
    (fun hello s => ∃ position, RegisteredAt s.log hello.workerBoot position)
    (fun _ _ => True) where
  stable := stable_const True
  greets _ _ _ _ _ hGreets := ⟨crash_greets hGreets, trivial⟩
  admitted hello := registered_stable hello.workerBoot
  registers hello s registry registration _ _ hRegistered _ :=
    ⟨crash_registers hRegistered,
      ⟨s.log.length, worker, hello.scope, s.log, List.suffix_refl _, rfl⟩⟩
  sends hello requestId payload := by
    refine valid_consequence (valid_of_within (sendFrame_within worker .helloAck requestId payload)
      (registered_stable hello.workerBoot) fun s t _ hHeld _ hSends => ⟨crash_sends hSends, ?_⟩)
      fun sent s _ hHeld => ?_
    · obtain ⟨position, hRegistered⟩ := hHeld
      cases hSends with
      | sent => exact ⟨position, registeredAt_append hRegistered [_]⟩
      | lost => exact ⟨position, registeredAt_append hRegistered [_]⟩
    · cases sent with
      | true => exact hHeld
      | false => trivial
  completes hello := by
    refine valid_bind (M := fun _ _ => True)
      (valid_modify (stable_const True) fun s _ hHeld _ => ⟨?_, trivial⟩)
      fun _ => crash_within (within_update fun s => crash_fields rfl rfl)
    split
    · exact (crashContract options).still worker s
    · exact crash_setConnection fun _ => .inl hHeld

theorem crashRules (options : CoordinatorOptions) :
    ServeRules options (crashContract options) (fun _ _ => True) (fun _ _ _ => True)
      (fun _ _ _ => True) fun _ _ _ _ => True where
  stable _ _ := stable_const True
  aside _ := stable_const True
  ends _ _ _ _ _ := trivial
  receives worker _ request := crash_within (within_update fun s =>
    @crash_note options worker s (.received worker request) rfl trivial s.registry)
  leaves _ _ _ _ _ _ := trivial
  reads worker _ _ state := stable_and (stable_const True)
    (stable_connection (crashContract_own options) fun held => held = state)
  hello worker _ request _ := by
    refine valid_consequence (helloCrash.valid request) fun boot _ _ _ => ?_
    cases boot <;> trivial
  frame worker _ request state hDone := by
    refine valid_consequence (valid_weaken (serveFrame_crash hDone request)
      fun _ _ hFacts => hFacts.2) fun goesOn _ _ _ => ?_
    cases goesOn <;> trivial
  lost worker locals := crash_within (fenceLost_within locals)
  erases worker := by
    refine crash_within (within_update fun s => ⟨onlyOwn_erase s worker, fun hInv hOk => ?_⟩)
    refine kept_of_log hInv hOk rfl fun other after hAfter hDone => .inr ⟨after, ?_, hDone, rfl⟩
    have hErased := (connection_erase s worker other).symm.trans hAfter
    split at hErased
    · cases hErased
    · exact hErased
  persist _ := saveStore_crash
  call worker operation := crash_within (callRegistry_within operation)
  accepts worker s t _ hStarts _ := by
    refine ⟨⟨hStarts.onlyOwn, fun hInv hOk => ?_⟩, trivial⟩
    cases hStarts with
    | accept _ _ =>
        refine kept_of_log hInv hOk rfl fun other after hAfter hDone => ?_
        by_cases hSame : other = worker
        · subst hSame
          rw [connection_setConnection, Option.some.injEq] at hAfter
          subst hAfter
          cases hDone
        · rw [(onlyOwn_setConnection _ worker {}).connection other hSame] at hAfter
          exact .inr ⟨after, hAfter, hDone, rfl⟩
  begins _ _ _ _ _ := ⟨crash_fields rfl rfl, trivial⟩

end Steps

/-! ## After the crash -/

/-- What is in the file is fenced by the next start. -/
theorem inFile_refused {options : CoordinatorOptions} (hPersist : options.persistOnStart = true)
    (hStore : options.persistence.isSome = true) (hAdvance : options.advanceEpochOnStart = true)
    {s : Coordinator} (h : BootsKept options s) {boot : WorkerBootId}
    (hHeld : BootInFile s boot) : RefusedAfterCrash options s boot := by
  obtain ⟨position, hRegistered, taken, registry, file, report, hLatest, hSave, hFile, hBefore⟩ :=
    hHeld
  obtain ⟨hRoom, -, hKnows⟩ := h.file taken registry hLatest
  have hKnown : Known registry boot := hKnows boot position hRegistered hBefore
  intro written after hStart later hLater
  rw [hFile] at hStart
  have hFenced : boot ∈ after.registry.fencedBoots :=
    restart_fences hPersist hStore hAdvance hSave hRoom hKnown hStart
  have hStep : ∀ (registry : Registry) (operation : Operation),
      NoLoad registry operation ∧ ¬Forgets boot registry operation →
        boot ∈ registry.fencedBoots → boot ∈ (operation.apply registry).fencedBoots :=
    fun _ _ hGuard hNow => fencedBoots_step hGuard hNow
  exact refuses_of_fenced (run_invariant hStep hLater hFenced)

/-- A committed publication that was acknowledged is in the file, and so is its boot. -/
theorem Told.inFile {options : CoordinatorOptions} {s : Coordinator} (hKept : BootsKept options s)
    (hDurable : DurableAcks s) {boot : WorkerBootId} (h : Told s.log boot) :
    BootInFile s boot := by
  cases h with
  | fenced ack latest decodes names =>
      exact names ▸ hKept.fences _ _ _ _ ack _ _ latest decodes
  | @committed worker requestId response past payload result before request ack handled commits
      encodes decodes names =>
      have hPast : past <:+ s.log := (List.suffix_cons _ _).trans ack
      obtain ⟨position, hRegistered⟩ := hKept.commits worker payload result before request
        (handled.trans hPast) commits decodes
      obtain ⟨taken, registry, file, report, hLatest, hSave, hFile, hBefore⟩ :=
        hDurable worker requestId response past ack payload result before handled commits encodes
      obtain ⟨new, hNew⟩ := (List.suffix_cons (Event.handled worker payload result) before).trans
        (handled.trans hPast)
      have hEarlier := registeredAt_lt hRegistered
      refine ⟨position, ?_, taken, registry, file, report, hLatest, hSave, hFile,
        Nat.lt_trans hEarlier hBefore⟩
      rw [← names, ← hNew]
      exact registeredAt_append hRegistered new

theorem bootsKept_start {options : CoordinatorOptions} {file : Option Bytes} {written : Bool}
    {s : Coordinator} (hStart : startCoordinator options file written = .ok s) :
    BootsKept options s := by
  obtain ⟨hLog, hConnections, -⟩ := startCoordinator_fresh hStart
  refine ⟨fun worker state hFound => ?_, ?_, fun boot position hHeld => ?_, ?_, ?_⟩
  · unfold Coordinator.connection at hFound
    rw [hConnections] at hFound
    cases hFound
  · intro worker payload result before request hSuffix
    rw [hLog, List.suffix_nil] at hSuffix
    cases hSuffix
  · have hBound := registeredAt_lt hHeld
    rw [hLog] at hBound
    exact absurd hBound (Nat.not_lt_zero _)
  · intro taken registry hLatest
    rw [hLog] at hLatest
    cases hLatest
  · intro worker requestId payload past hSuffix
    rw [hLog, List.suffix_nil] at hSuffix
    cases hSuffix

/-- Who was told that a boot is fenced, or that a publication of it is committed, finds it
refused after a crash, in every run that keeps the boots. -/
theorem told_boots_refused {options : CoordinatorOptions} {file : Option Bytes} {written : Bool}
    (hMutation : options.persistOnMutation = true) (hPersist : options.persistOnStart = true)
    (hStore : options.persistence.isSome = true) (hAdvance : options.advanceEpochOnStart = true)
    {s : Coordinator} (hStart : startCoordinator options file written = .ok s)
    {b : CoordinatorSystem}
    (hRun : Reaches (workerRound options) (Starts options) (KeepsBoots options) (serving s) b) :
    ∀ boot, Told b.shared.log boot → RefusedAfterCrash options b.shared boot := by
  have hSaves : Reaches (workerRound options) (Starts options) SavesInOrder (serving s) b :=
    reaches_mono (fun _ _ hKeeps => hKeeps.saves) hRun
  have hDurable : Durable b.shared := reaches_inv (durableRules hMutation hStore).proved
    (atWork_idle (durable_start hStart)) hSaves
  have hKept : BootsKept options b.shared := by
    refine reaches_inv (crashRules options).proved (atWork_idle (bootsKept_start hStart)) ?_
    refine reaches_mono (fun s t hStep => ?_) (reaches_and (durableRules hMutation hStore).proved
      (fun _ _ hKeeps => hKeeps.saves) (atWork_idle (durable_start hStart)) hRun)
    obtain ⟨hKeeps, worker, hDoes⟩ := hStep
    exact ⟨hKeeps, hDoes.2.2⟩
  intro boot hTold
  exact inFile_refused hPersist hStore hAdvance hKept (hTold.inFile hKept hDurable.acks)

def knownBoots (registry : Registry) : List WorkerBootId :=
  registry.fences.map FenceRecord.workerBoot ++ activeBoots registry

theorem known_iff {registry : Registry} {boot : WorkerBootId} :
    Known registry boot ↔ boot ∈ knownBoots registry := by
  simp only [Known, knownBoots, activeBoots, List.mem_append, List.mem_map, List.mem_filter]
  refine or_congr_right ⟨?_, ?_⟩
  · rintro ⟨held, hMem, hBoot, hActive⟩
    exact ⟨held, ⟨hMem, hActive⟩, hBoot⟩
  · rintro ⟨held, ⟨hMem, hActive⟩, hBoot⟩
    exact ⟨held, hMem, hBoot, hActive⟩

instance (options : CoordinatorOptions) (registry : Registry) :
    Decidable (RestartRoom options registry) :=
  inferInstanceAs (Decidable (_ ∨ _))

/-- A check of `KeepsBoots` by evaluation, for runs that acknowledge no fence. -/
def keepsBoots (options : CoordinatorOptions) (s t : Coordinator) : Bool :=
  savesInOrder s t &&
    ((knownBoots s.registry).all fun boot => decide (boot ∈ knownBoots t.registry)) &&
      match t.log with
      | .stored _ _ registry :: _ => decide (RestartRoom options registry)
      | .sent _ .fenceAck _ _ :: _ => false
      | _ => true

theorem keepsBoots_sound {options : CoordinatorOptions} {s t : Coordinator}
    (h : keepsBoots options s t = true) : KeepsBoots options s t := by
  unfold keepsBoots at h
  simp only [Bool.and_eq_true, List.all_eq_true, decide_eq_true_eq] at h
  obtain ⟨⟨hSaves, hKnown⟩, hLatest⟩ := h
  refine ⟨savesInOrder_sound hSaves, fun boot hHeld => ?_, fun worker taken registry hLog => ?_,
    fun worker requestId payload hLog => ?_⟩
  · exact known_iff.2 (hKnown boot (known_iff.1 hHeld))
  · rw [hLog] at hLatest
    exact of_decide_eq_true hLatest
  · rw [hLog] at hLatest
    cases hLatest

/-- A check that finds an ack, the latest event, of a commit that was saved before. -/
def toldCommitted (boot : WorkerBootId) : List Event → Bool
  | .sent worker .publishAck _ response :: .stored _ _ _ :: .handled other payload result :: _ =>
      other == worker && result.status == .committed &&
        decide (encodePublicationResult result = .ok response) &&
          (decodePublicationRequest payload).toOption.any fun request =>
            request.authority.workerBoot == boot
  | _ => false

theorem toldCommitted_sound {boot : WorkerBootId} {log : List Event}
    (h : toldCommitted boot log = true) : Told log boot := by
  unfold toldCommitted at h
  split at h
  · rename_i worker requestId response _ taken registry other payload result past
    simp only [Bool.and_eq_true, beq_iff_eq, decide_eq_true_eq] at h
    obtain ⟨⟨⟨rfl, hCommitted⟩, hEncodes⟩, hDecodes⟩ := h
    cases hRequest : decodePublicationRequest payload with
    | error e =>
        rw [hRequest] at hDecodes
        cases hDecodes
    | ok request =>
        rw [hRequest] at hDecodes
        exact .committed (List.suffix_refl _) (List.suffix_cons _ _) hCommitted hEncodes hRequest
          (beq_iff_eq.1 hDecodes)
  · cases h

/-- A check that finds the ack, the latest event, of a fence. -/
def toldFenced (boot : WorkerBootId) : List Event → Bool
  | .sent worker .fenceAck _ _ :: past =>
      (framesOf worker past).head?.any fun frame =>
        (decodeFence frame.payload).toOption.any fun target => target.workerBoot == boot
  | _ => false

theorem toldFenced_sound {boot : WorkerBootId} {log : List Event}
    (h : toldFenced boot log = true) : Told log boot := by
  unfold toldFenced at h
  split at h
  · obtain ⟨frame, hLatest, hDecodes⟩ := (Option.any_eq_true _ _).1 h
    cases hTarget : decodeFence frame.payload with
    | error e =>
        rw [hTarget] at hDecodes
        cases hDecodes
    | ok target =>
        rw [hTarget] at hDecodes
        exact .fenced (List.suffix_refl _) hLatest hTarget (beq_iff_eq.1 hDecodes)
  · cases h

namespace Sample

def saving : CoordinatorOptions where
  persistOnMutation := true
  persistence := some { storePath := [] }

/-- A payload is published, saved and acknowledged. -/
def committing : List CoordinatorMove :=
  declared ++ [.start 1 (.serving {})] ++ hello 1 bootOne scope ++
    publishing 1 1 (payload bootOne "a" 0 .supported) ++ turns 1 4 ++ storing 1 ++ answering 1

/-- A boot is fenced, and its fence is acknowledged. -/
def fencing (boot : WorkerBootId) : List CoordinatorMove :=
  let payload := orNothing (encodeFence { workerBoot := boot, reason := makeReason (txt "test") })
  declared ++ [.start 1 (.serving {})] ++ hello 1 boot scope ++
    [.receive 1 (.ok { type := .fence, requestId := 8, payload })] ++ turns 1 5 ++
    [.choose 1 true, .turn 1]

/-- The boot is registered again after a crash, once its scope is declared. -/
def readmits (options : CoordinatorOptions) (boot : WorkerBootId) (s : Coordinator) : Bool :=
  match startCoordinator options s.store true with
  | .error _ => false
  | .ok after =>
      match (registerPublisher ((Operation.declareAuthority grant).apply after.registry)
        publisher scope boot).2 with
      | .error _ => false
      | .ok _ => true

theorem readmits_sound {options : CoordinatorOptions} {boot : WorkerBootId} {s : Coordinator}
    (h : readmits options boot s = true) : ¬ RefusedAfterCrash options s boot := by
  intro hRefused
  unfold readmits at h
  split at h
  · cases h
  · rename_i after hStart
    have hLater : Guarded Operation.apply
        (fun registry operation => NoLoad registry operation ∧ ¬Forgets boot registry operation)
        after.registry [.declareAuthority grant] := ⟨⟨rfl, id⟩, trivial⟩
    obtain ⟨e, hFailed⟩ := (hRefused true after hStart _ hLater).1 publisher scope
    split at h
    · cases h
    · rename_i registration hRegistered
      have hBoth := hRegistered.symm.trans hFailed
      cases hBoth

/-- A commit that was acknowledged: its boot is refused after a crash. -/
theorem committed_boot_refused :
    ∃ b, Reaches (workerRound saving) (Starts saving) (KeepsBoots saving)
        (serving (started saving none)) b ∧
      Told b.shared.log bootOne ∧ RefusedAfterCrash saving b.shared bootOne := by
  obtain ⟨b, hRun, hAcked⟩ := exists_scheduled saving none (keepsBoots saving)
    (fun _ _ => keepsBoots_sound) committing (fun s => toldCommitted bootOne s.log)
    (by decide +kernel)
  have hTold : Told b.shared.log bootOne := toldCommitted_sound hAcked
  exact ⟨b, hRun, hTold,
    told_boots_refused rfl rfl rfl rfl (started_ok (by decide +kernel)) hRun bootOne hTold⟩

/-- A fence that was acknowledged, but not saved: its boot is registered again. -/
theorem fenced_boot_returns :
    ∃ b, startCoordinator saving none true = .ok (started saving none) ∧
      Reaches (workerRound saving) (Starts saving) (fun _ _ => True)
        (serving (started saving none)) b ∧
      Told b.shared.log bootOne ∧ ¬ RefusedAfterCrash saving b.shared bootOne := by
  obtain ⟨b, hRun, hHolds⟩ := exists_scheduled saving none (fun _ _ => true)
    (fun _ _ _ => trivial) (fencing bootOne)
    (fun s => toldFenced bootOne s.log && readmits saving bootOne s) (by decide +kernel)
  obtain ⟨hTold, hReadmits⟩ := Bool.and_eq_true_iff.1 hHolds
  exact ⟨b, started_ok (by decide +kernel), hRun, toldFenced_sound hTold,
    readmits_sound hReadmits⟩

end Sample

end FabricCapability.Ports
