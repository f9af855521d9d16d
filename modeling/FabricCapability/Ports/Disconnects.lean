import FabricCapability.Ports.CoordinatorRules

/-!
# What a disconnect fences

The teardown of a connection fences one boot, that of the latest `Hello` whose handshake was
done.  A `Hello` may come again with another boot, it may register its boot and then fail to
send its ack, and a registry that has no room for the fence refuses it.  Otherwise every boot
that the connection has registered is fenced when it ends.

## Main results

* `disconnect_fences`: every run in which a connection keeps to one boot.
* `second_boot_not_fenced`: a second `Hello` with another boot.
-/

namespace FabricCapability.Ports

open FabricCapability.Verified.KeyedList
open FabricCapability.Verified.Workers

/-! ## Statements -/

def Event.boot : Event → Option WorkerBootId
  | registered _ _ workerBoot => some workerBoot
  | _ => none

/-- The boots that a connection has registered, the latest first. -/
def bootsOf (worker : Nat) (log : List Event) : List WorkerBootId :=
  (ownEvents worker log).filterMap Event.boot

/-- When a connection ends, the boots that it has registered are fenced. -/
def DisconnectFences (log : List Event) : Prop :=
  ∀ worker registry past, Event.closed worker registry :: past <:+ log →
    ∀ boot ∈ bootsOf worker past, boot ∈ registry.fencedBoots

/-- There is room for the fence, or the boot has one. -/
def FenceFits (registry : Registry) (boot : WorkerBootId) : Prop :=
  boot ∈ registry.fencedBoots ∨
    registry.fences.length < registry.options.maxFencedWorkerBoots ∨
      (evictableFence registry).isSome = true

/-- A connection registers one boot, the ack of a registration is sent, and the teardown of
a connection finds room for the fence. -/
structure KeepsToBoot (s t : Coordinator) : Prop where
  one : ∀ worker scope boot, t.log = .registered worker scope boot :: s.log →
    ∀ other ∈ bootsOf worker s.log, other = boot
  acked : ∀ worker requestId payload, t.log = .lost worker .helloAck requestId payload :: s.log →
    ∀ scope boot, (ownEvents worker s.log).head? ≠ some (.registered worker scope boot)
  room : ∀ worker registry, t.log = .closed worker registry :: s.log →
    ∀ boot ∈ bootsOf worker s.log, FenceFits s.registry boot

/-- Disconnects fence, and the workers to come have registered nothing. -/
structure FencedSoFar (s : Coordinator) : Prop where
  closed : DisconnectFences s.log
  fresh : ∀ worker, s.workers ≤ worker → bootsOf worker s.log = []

def bootContract : Contract Coordinator Nat :=
  lawContract KeepsToBoot FencedSoFar (fun _ s t => s.workers ≤ t.workers)
    fun _ s => Nat.le_refl s.workers

theorem bootContract_own : KeepsToOwn bootContract := lawContract_own _ _ _ _

/-- What the connection has registered is the boot of its locals. -/
def Serving (worker : Nat) (locals : ServeLocals) (s : Coordinator) : Prop :=
  Begun worker s ∧ ∀ boot ∈ bootsOf worker s.log,
    locals.handshakeDone = true ∧ locals.boot = boot ∧ boot.isSet = true

/-- What the connection has registered is this boot. -/
def HoldsBoot (worker : Nat) (workerBoot : WorkerBootId) (s : Coordinator) : Prop :=
  Begun worker s ∧ ∀ boot ∈ bootsOf worker s.log, boot = workerBoot ∧ boot.isSet = true

/-! ## Steps -/

theorem bootContract_workers (worker : Nat) (s t : Coordinator)
    (h : bootContract.does worker s t) : s.workers ≤ t.workers := h.2.2

theorem holds_stable (worker : Nat) (locals : ServeLocals) :
    Stable bootContract worker (Serving worker locals) :=
  stable_and (begun_stable bootContract_workers worker) (stable_ownEvents bootContract_own fun events =>
    ∀ boot ∈ events.filterMap Event.boot,
      locals.handshakeDone = true ∧ locals.boot = boot ∧ boot.isSet = true)

theorem holdsBoot_stable (worker : Nat) (workerBoot : WorkerBootId) :
    Stable bootContract worker (HoldsBoot worker workerBoot) :=
  stable_and (begun_stable bootContract_workers worker) (stable_ownEvents bootContract_own fun events =>
    ∀ boot ∈ events.filterMap Event.boot, boot = workerBoot ∧ boot.isSet = true)

theorem bootsOf_note (worker : Nat) (event : Event) (log : List Event) :
    bootsOf worker (event :: log) =
      if event.worker = worker then (event.boot.toList ++ bootsOf worker log)
      else bootsOf worker log := by
  unfold bootsOf ownEvents
  rw [List.filter_cons]
  simp only [beq_iff_eq]
  split
  · rw [List.filterMap_cons]
    split
    · rename_i hNone
      rw [hNone]
      rfl
    · rename_i hSome
      rw [hSome]
      rfl
  · rfl

theorem bootsOf_registered (worker : Nat) (scope : AuthorityScopeId) (boot : WorkerBootId)
    (log : List Event) :
    bootsOf worker (.registered worker scope boot :: log) = boot :: bootsOf worker log := by
  rw [bootsOf_note]
  exact if_pos rfl

/-- An event that registers nothing. -/
theorem bootsOf_other {event : Event} (h : event.boot = none) (worker : Nat)
    (log : List Event) : bootsOf worker (event :: log) = bootsOf worker log := by
  rw [bootsOf_note, h]
  exact ite_self _

theorem Event.Quiet.boot {event : Event} (h : event.Quiet) : event.boot = none := by
  cases event with
  | registered => exact absurd h id
  | _ => rfl

theorem Quiet.bootsOf {worker : Nat} {s t : Coordinator} (h : Quiet worker s t) (other : Nat) :
    bootsOf other t.log = bootsOf other s.log := by
  obtain ⟨new, hNew, hQuiet⟩ := h.log
  rw [hNew]
  clear hNew
  induction new with
  | nil => rfl
  | cons event new ih =>
      rw [List.cons_append, bootsOf_other (hQuiet event List.mem_cons_self).2.boot]
      exact ih fun event hMem => hQuiet event (List.mem_cons_of_mem _ hMem)

/-- Another event than the end of a connection. -/
theorem disconnectFences_cons {event : Event} {log : List Event}
    (hEvent : ∀ worker registry, event = .closed worker registry →
      ∀ boot ∈ bootsOf worker log, boot ∈ registry.fencedBoots)
    (h : DisconnectFences log) : DisconnectFences (event :: log) := by
  intro worker registry past hSuffix
  rcases List.suffix_cons_iff.1 hSuffix with hHere | hBefore
  · obtain ⟨rfl, rfl⟩ := List.cons_eq_cons.1 hHere
    exact hEvent worker registry rfl
  · exact h worker registry past hBefore

theorem Quiet.disconnectFences {worker : Nat} {s t : Coordinator} (hQuiet : Quiet worker s t)
    (h : DisconnectFences s.log) : DisconnectFences t.log := by
  obtain ⟨new, hNew, hEvents⟩ := hQuiet.log
  rw [hNew]
  clear hNew
  induction new with
  | nil => exact h
  | cons event new ih =>
      refine disconnectFences_cons (fun other registry hClosed => ?_)
        (ih fun event hMem => hEvents event (List.mem_cons_of_mem _ hMem))
      have hLoud := (hEvents event List.mem_cons_self).2
      rw [hClosed] at hLoud
      exact absurd hLoud id

theorem Quiet.fencedSoFar {worker : Nat} {s t : Coordinator} (hQuiet : Quiet worker s t)
    (h : FencedSoFar s) : FencedSoFar t := by
  refine ⟨hQuiet.disconnectFences h.closed, fun other hLe => ?_⟩
  rw [hQuiet.workers] at hLe
  rw [hQuiet.bootsOf, h.fresh other hLe]

theorem boot_quiet {worker : Nat} {s t : Coordinator} (h : Quiet worker s t) :
    bootContract.does worker s t :=
  ⟨h.onlyOwn, fun hInv _ => h.fencedSoFar hInv, Nat.le_of_eq h.workers.symm⟩

theorem Quiet.holds {worker : Nat} {locals : ServeLocals} {s t : Coordinator}
    (hQuiet : Quiet worker s t) (h : Serving worker locals s) : Serving worker locals t := by
  unfold Serving Begun
  rw [hQuiet.bootsOf, hQuiet.workers]
  exact h

theorem Quiet.holdsBoot {worker : Nat} {workerBoot : WorkerBootId} {s t : Coordinator}
    (hQuiet : Quiet worker s t) (h : HoldsBoot worker workerBoot s) :
    HoldsBoot worker workerBoot t := by
  unfold HoldsBoot Begun
  rw [hQuiet.bootsOf, hQuiet.workers]
  exact h

theorem boot_quietly {α : Type} {worker : Nat} {P : Coordinator → Prop} {task : Work α}
    (hQuiet : Within (Quiet worker) task) (hStable : Stable bootContract worker P)
    (hKeeps : ∀ s t, Quiet worker s t → P s → P t) :
    Valid bootContract worker (fun _ => P) task P :=
  valid_of_within hQuiet hStable fun s t _ hP _ hDone => ⟨boot_quiet hDone, hKeeps s t hDone hP⟩

/-- A worker that has begun registers a boot. -/
theorem boot_registers {worker : Nat} {scope : AuthorityScopeId} {boot : WorkerBootId}
    {s : Coordinator} {registry : Registry} (hBegun : Begun worker s) :
    bootContract.does worker s ({ s with registry }.note (.registered worker scope boot)) := by
  refine ⟨@onlyOwn_change worker (.registered ..) rfl registry s, fun hInv _ => ⟨?_, ?_⟩,
    Nat.le_refl _⟩
  · exact disconnectFences_cons (fun _ _ hClosed => by cases hClosed) hInv.closed
  · intro other hLe
    have hNe : worker ≠ other := Nat.ne_of_lt (Nat.lt_of_lt_of_le hBegun hLe)
    show bootsOf other (.registered worker scope boot :: s.log) = []
    rw [bootsOf_note]
    exact (if_neg hNe).trans (hInv.fresh other hLe)

/-! ## Hello -/

/-- The boot was registered just now. -/
def JustRegistered (worker : Nat) (hello : HelloPayload) (s : Coordinator) : Prop :=
  HoldsBoot worker hello.workerBoot s ∧
    (ownEvents worker s.log).head? = some (.registered worker hello.scope hello.workerBoot)

theorem registerPublisher_isSet {registry registry' : Registry} {publisher : PublisherId}
    {scope : AuthorityScopeId} {workerBoot : WorkerBootId} {registration : PublisherRegistration}
    (h : registerPublisher registry publisher scope workerBoot = (registry', .ok registration)) :
    workerBoot.isSet = true := by
  unfold registerPublisher at h
  split at h
  · cases h
  · rename_i hSet
    simp only [Bool.or_eq_true, Bool.not_eq_true', not_or, Bool.not_eq_false] at hSet
    exact hSet.2

/-- The ack of a registration: it cannot be lost. -/
theorem sendHelloAck_valid (worker : Nat) (locals : ServeLocals) (hello : HelloPayload)
    (requestId : UInt64) (payload : Bytes) :
    Valid bootContract worker
      (fun sent s => if sent = true then HoldsBoot worker hello.workerBoot s
        else Serving worker locals s)
      (sendFrame worker .helloAck requestId payload) (JustRegistered worker hello) := by
  have hLose : Valid bootContract worker
      (fun sent s => if sent = true then HoldsBoot worker hello.workerBoot s
        else Serving worker locals s)
      (do
        Task.modify (Coordinator.note (.lost worker .helloAck requestId payload))
        pure false : Work Bool) (JustRegistered worker hello) := by
    refine valid_bind (M := fun _ => Serving worker locals)
      (valid_modify (holds_stable worker locals) fun s _ hJust hOk => ?_)
      fun _ => valid_pure fun _ _ hHolds => hHolds
    exact absurd hJust.2 (hOk.acked worker requestId payload rfl _ _)
  unfold sendFrame
  dsimp only
  split
  · exact hLose
  · refine valid_toss fun sent => ?_
    cases sent with
    | false => exact hLose
    | true =>
        refine valid_bind (M := fun _ => HoldsBoot worker hello.workerBoot)
          (valid_modify (holdsBoot_stable worker _) fun s _ hJust _ => ?_)
          fun _ => valid_pure fun _ _ hHolds => hHolds
        have hQuiet := @quiet_note worker (.sent worker .helloAck requestId payload) rfl trivial s
        exact ⟨boot_quiet hQuiet, hQuiet.holdsBoot hJust.1⟩

theorem completeHandshake_holds (worker : Nat) (hello : HelloPayload) :
    Valid bootContract worker
      (fun _ => Serving worker { boot := hello.workerBoot, handshakeDone := true })
      (completeHandshake worker hello) (HoldsBoot worker hello.workerBoot) := by
  have hKept : ∀ {s t : Coordinator}, t.log = s.log → t.workers = s.workers →
      OnlyOwn worker s t → bootContract.does worker s t := by
    intro s t hLog hWorkers hOwn
    refine ⟨hOwn, fun hInv _ => ⟨?_, ?_⟩, Nat.le_of_eq hWorkers.symm⟩
    · rw [hLog]
      exact hInv.closed
    · rw [hLog, hWorkers]
      exact hInv.fresh
  refine valid_bind (M := fun _ => HoldsBoot worker hello.workerBoot)
    (valid_modify (holdsBoot_stable worker _) fun s _ hHolds _ => ?_) fun _ =>
      valid_modify (holds_stable worker _) fun s _ hHolds _ => ?_
  · split
    · exact ⟨bootContract.still worker s, hHolds⟩
    · exact ⟨hKept rfl rfl (onlyOwn_setConnection ..), hHolds⟩
  · refine ⟨hKept rfl rfl (onlyOwn_of_fields rfl rfl), hHolds.1, fun boot hMem => ?_⟩
    obtain ⟨hSame, hSet⟩ := hHolds.2 boot hMem
    exact ⟨rfl, hSame.symm, hSet⟩

theorem bootHelloRules (worker : Nat) (locals : ServeLocals) :
    HelloRules bootContract worker (Serving worker locals) (JustRegistered worker)
      (fun hello => HoldsBoot worker hello.workerBoot)
      (fun boot => Serving worker { boot, handshakeDone := true }) where
  stable := holds_stable worker locals
  greets _ _ _ hHolds _ hGreets := ⟨boot_quiet hGreets.quiet, hGreets.quiet.holds hHolds⟩
  admitted hello := stable_and (holdsBoot_stable worker hello.workerBoot)
    (stable_ownEvents bootContract_own fun events =>
      events.head? = some (.registered worker hello.scope hello.workerBoot))
  registers hello s registry registration _ hHolds hRegisters hOk := by
    refine ⟨boot_registers hHolds.1, ⟨hHolds.1, fun boot hMem => ?_⟩, ?_⟩
    · have hNew : boot ∈ hello.workerBoot :: bootsOf worker s.log := by
        rw [← bootsOf_registered worker hello.scope]
        exact hMem
      rcases List.mem_cons.1 hNew with rfl | hOld
      · exact ⟨rfl, registerPublisher_isSet hRegisters⟩
      · exact ⟨hOk.one worker _ _ rfl boot hOld, (hHolds.2 boot hOld).2.2⟩
    · rw [ownEvents_note]
      show (if worker = worker then _ else _ : List Event).head? = _
      rw [if_pos rfl]
      rfl
  sends hello requestId payload := sendHelloAck_valid worker locals hello requestId payload
  completes := completeHandshake_holds worker

/-! ## The other parts -/

theorem fenceWorkerBoot_fits {registry : Registry} {boot : WorkerBootId} {reason : ReasonToken}
    (hSet : boot.isSet = true) (h : FenceFits registry boot) :
    boot ∈ (fenceWorkerBoot registry boot reason).1.fencedBoots := by
  have hInserted : ∀ other : Registry, boot ∈ (insertFence other boot reason).1.fencedBoots := by
    intro other
    rw [insertFence_fencedBoots]
    exact List.mem_append_right _ (List.mem_singleton_self _)
  unfold fenceWorkerBoot
  split
  · rename_i hUnset
    rw [hSet] at hUnset
    cases hUnset
  · split
    · rename_i hHeld
      exact hHeld
    · rename_i hNew
      split
      · rename_i hFull
        split
        · rename_i hNone
          rcases h with hHeld | hRoom | hEvictable
          · exact absurd hHeld hNew
          · exact absurd hRoom (Nat.not_lt.2 hFull)
          · rw [hNone] at hEvictable
            cases hEvictable
        · exact hInserted _
      · exact hInserted _

/-- A connection ends whose boots are fenced. -/
theorem closed_fenced {worker : Nat} {s : Coordinator} {registry after : Registry}
    (h : FencedSoFar s)
    (hFenced : ∀ boot ∈ bootsOf worker s.log, boot ∈ after.fencedBoots) :
    FencedSoFar ({ s with registry }.note (.closed worker after)) := by
  refine ⟨disconnectFences_cons (fun other held hClosed => ?_) h.closed, fun other hLe => ?_⟩
  · cases hClosed
    exact hFenced
  · show bootsOf other (.closed worker after :: s.log) = []
    rw [bootsOf_other rfl]
    exact h.fresh other hLe

theorem fenceLost_fences (worker : Nat) (locals : ServeLocals) :
    Valid bootContract worker (fun _ _ => True) (fenceLost worker locals)
      (Serving worker locals) := by
  unfold fenceLost
  split
  · refine valid_bind (M := fun _ _ => True)
      (valid_modify (stable_const True) fun s _ hHolds hOk => ?_) fun _ =>
        boot_quietly (within_update fun s => quiet_of_fields rfl rfl rfl
          (fun _ hMem => (List.mem_filter.1 hMem).1) rfl) (stable_const True)
          fun _ _ _ _ => trivial
    refine ⟨⟨?_, fun hInv _ => closed_fenced hInv fun boot hMem => ?_, Nat.le_refl _⟩, trivial⟩
    · exact @onlyOwn_change worker (.closed ..) rfl _ s
    · obtain ⟨-, rfl, hSet⟩ := hHolds.2 boot hMem
      exact fenceWorkerBoot_fits hSet (hOk.room worker _ rfl locals.boot hMem)
  · rename_i hNot
    refine valid_modify (stable_const True) fun s _ hHolds _ => ⟨⟨?_, fun hInv _ => ?_, ?_⟩, trivial⟩
    · exact @onlyOwn_note worker (.closed ..) rfl s
    · refine @closed_fenced worker s s.registry _ hInv fun boot hMem => ?_
      obtain ⟨hDone, rfl, hSet⟩ := hHolds.2 boot hMem
      rw [hDone, hSet] at hNot
      exact absurd rfl hNot
    · exact Nat.le_refl _

/-- Everything outside of `Hello` and the teardown, registrations in process apart. -/
theorem boot_of_log {worker : Nat} {s t : Coordinator} (hOwn : OnlyOwn worker s t)
    (hLog : t.log = s.log) (hWorkers : s.workers ≤ t.workers) :
    bootContract.does worker s t := by
  refine ⟨hOwn, fun hInv _ => ⟨?_, fun other hLe => ?_⟩, hWorkers⟩
  · rw [hLog]
    exact hInv.closed
  · rw [hLog]
    exact hInv.fresh other (Nat.le_trans hWorkers hLe)

theorem serveFence_holds (worker : Nat) (locals : ServeLocals) (state : ConnectionState)
    (request : WireFrame) :
    Valid bootContract worker (fun _ => Serving worker locals) (serveFence worker state request)
      (Serving worker locals) := by
  have hQuietly : ∀ {α : Type} {task : Work α}, Within (Quiet worker) task →
      Valid bootContract worker (fun _ => Serving worker locals) task (Serving worker locals) :=
    fun hQuiet => boot_quietly hQuiet (holds_stable worker locals) fun _ _ hDone => hDone.holds
  have hError := fun error => hQuietly (within_mono (fun _ _ => Chats.quiet)
    (sendError_within worker request.requestId error))
  unfold serveFence
  split
  · exact hError _
  · refine valid_bind (valid_read (fun _ => holds_stable worker locals) fun _ _ hHolds => hHolds)
      fun allowed => ?_
    split
    · exact hError _
    · refine valid_bind (M := fun _ => Serving worker locals)
        (valid_update (fun _ => holds_stable worker locals) fun s _ hHolds _ =>
          ⟨boot_of_log (onlyOwn_of_fields rfl rfl) rfl (Nat.le_refl _), hHolds⟩) fun fenced => ?_
      cases fenced with
      | error e => exact hError _
      | ok done =>
          exact hQuietly (within_bind (within_update fun s => quiet_of_fields rfl rfl rfl
            (fun _ hMem => (List.mem_filter.1 hMem).1) rfl) fun _ =>
              within_mono (fun _ _ => Sends.quiet) (sendFrame_within _ _ _ _))

theorem serveFrame_holds (options : CoordinatorOptions) (worker : Nat) (locals : ServeLocals)
    (request : WireFrame) (state : ConnectionState) :
    Valid bootContract worker (fun _ => Serving worker locals)
      (serveFrame options worker state request) (Serving worker locals) := by
  have hQuietly : ∀ {task : Work Bool}, Within (Quiet worker) task →
      Valid bootContract worker (fun _ => Serving worker locals) task (Serving worker locals) :=
    fun hQuiet => boot_quietly hQuiet (holds_stable worker locals) fun _ _ hDone => hDone.holds
  unfold serveFrame
  split
  · exact hQuietly (within_mono (fun _ _ => Publishes.quiet) (servePublish_within ..))
  · exact hQuietly (within_mono (fun _ _ => Chats.quiet) (serveStatus_within worker request))
  · exact serveFence_holds worker locals state request
  · exact hQuietly (within_mono (fun _ _ => Chats.quiet) (sendError_within worker _ _))

theorem callRegistry_begun (worker : Nat) (operation : Operation) :
    Valid bootContract worker (fun _ _ => True) (callRegistry worker operation)
      (Begun worker) := by
  unfold callRegistry
  split
  · refine valid_bind (M := fun _ _ => True)
      (valid_update (fun _ => stable_const True) fun s _ hBegun _ => ⟨?_, trivial⟩) fun _ =>
        valid_pure fun _ _ _ => trivial
    split
    · rename_i hFailed
      rw [registerPublisher_failed hFailed]
      exact bootContract.still worker s
    · exact boot_registers hBegun
  · exact valid_modify (stable_const True) fun s _ _ _ =>
      ⟨boot_of_log (onlyOwn_of_fields rfl rfl) rfl (Nat.le_refl _), trivial⟩

/-! ## All runs -/

theorem bootRules (options : CoordinatorOptions) :
    ServeRules options bootContract Begun Serving Serving fun worker locals _ =>
      Serving worker locals where
  stable := holds_stable
  aside := begun_stable bootContract_workers
  ends _ _ _ _ hHolds := hHolds
  receives worker locals request :=
    boot_quietly (within_update fun s => @quiet_note worker (.received ..) rfl trivial s)
      (holds_stable worker locals) fun _ _ hQuiet => hQuiet.holds
  leaves _ _ _ _ _ hHolds := hHolds
  reads worker locals _ state :=
    stable_and (holds_stable worker locals)
      (stable_connection bootContract_own fun held => held = state)
  hello worker locals request _ := (bootHelloRules worker locals).valid request
  frame worker locals request state _ := by
    have hFrame := serveFrame_holds options worker locals request state
    refine valid_consequence (valid_weaken hFrame fun s _ hFacts => hFacts.1)
      fun goesOn s _ hHolds => ?_
    cases goesOn <;> exact hHolds
  lost := fenceLost_fences
  erases worker := valid_modify (stable_const True) fun s _ _ _ =>
    ⟨boot_of_log (onlyOwn_erase s worker) rfl (Nat.le_refl _), trivial⟩
  persist worker := by
    have hSaved := boot_quietly (within_mono (fun _ _ => Saves.quiet) (saveStore_within worker))
      (stable_const True) fun _ _ _ _ => trivial
    exact valid_weaken hSaved fun _ _ _ => trivial
  call := callRegistry_begun
  accepts worker s t hInv hStarts _ := by
    have hOwn := hStarts.onlyOwn
    cases hStarts with
    | accept hFresh hRoom =>
        refine ⟨boot_of_log hOwn rfl (Nat.le_succ _), Nat.lt_succ_of_le (Nat.le_of_eq hFresh), ?_⟩
        intro boot hMem
        have hNone : bootsOf worker s.log = [] := hInv.fresh worker (Nat.le_of_eq hFresh.symm)
        rw [Coordinator.setConnection, hNone] at hMem
        cases hMem
  begins worker s _ hFresh _ :=
    ⟨boot_of_log (onlyOwn_of_fields rfl rfl) rfl (Nat.le_succ _),
      Nat.lt_succ_of_le (Nat.le_of_eq hFresh)⟩

/-- Disconnects fence in every run in which a connection keeps to one boot. -/
theorem disconnect_fences {options : CoordinatorOptions} {file : Option Bytes} {written : Bool}
    {s : Coordinator} (hStart : startCoordinator options file written = .ok s)
    {b : CoordinatorSystem}
    (hRun : Reaches (workerRound options) (Starts options) KeepsToBoot (serving s) b) :
    DisconnectFences b.shared.log := by
  obtain ⟨hLog, -, -⟩ := startCoordinator_fresh hStart
  have hFirst : FencedSoFar s := by
    refine ⟨fun worker registry past hSuffix => ?_, fun worker _ => ?_⟩
    · rw [hLog, List.suffix_nil] at hSuffix
      cases hSuffix
    · rw [hLog]
      rfl
  have hInv : FencedSoFar b.shared :=
    reaches_inv (bootRules options).proved (atWork_idle hFirst) hRun
  exact hInv.closed

instance (registry : Registry) (boot : WorkerBootId) : Decidable (FenceFits registry boot) :=
  inferInstanceAs (Decidable (_ ∨ _))

/-- A check of `KeepsToBoot` by evaluation. -/
def keepsToBoot (s t : Coordinator) : Bool :=
  match t.log with
  | .registered worker _ boot :: past => (bootsOf worker past).all fun other => other == boot
  | .lost worker .helloAck _ _ :: past =>
      match (ownEvents worker past).head? with
      | some (.registered ..) => false
      | _ => true
  | .closed worker _ :: past =>
      (bootsOf worker past).all fun boot => decide (FenceFits s.registry boot)
  | _ => true

theorem keepsToBoot_sound {s t : Coordinator} (h : keepsToBoot s t = true) :
    KeepsToBoot s t := by
  refine ⟨fun worker scope boot hLog => ?_, fun worker requestId payload hLog => ?_,
    fun worker registry hLog => ?_⟩
  · unfold keepsToBoot at h
    rw [hLog] at h
    exact fun other hMem => beq_iff_eq.1 (List.all_eq_true.1 h other hMem)
  · unfold keepsToBoot at h
    rw [hLog] at h
    dsimp only at h
    intro scope boot hHead
    rw [hHead] at h
    cases h
  · unfold keepsToBoot at h
    rw [hLog] at h
    exact fun boot hMem => of_decide_eq_true (List.all_eq_true.1 h boot hMem)

/-- A check that finds a boot unfenced when its connection, the latest event, ends. -/
def unfenced : List Event → Bool
  | .closed worker registry :: past =>
      (bootsOf worker past).any fun boot => !decide (boot ∈ registry.fencedBoots)
  | _ => false

theorem unfenced_sound {log : List Event} (h : unfenced log = true) :
    ¬ DisconnectFences log := by
  intro hFences
  unfold unfenced at h
  split at h
  · rename_i worker registry past
    obtain ⟨boot, hMem, hNot⟩ := List.any_eq_true.1 h
    have hFenced := hFences worker registry past (List.suffix_refl _) boot hMem
    rw [decide_eq_true hFenced] at hNot
    cases hNot
  · cases h

namespace Sample

/-- A connection says `Hello` for these boots and is lost. -/
def greeting (boots : List WorkerBootId) : List CoordinatorMove :=
  declared ++ [.start 1 (.serving {})] ++ boots.flatMap (fun boot => hello 1 boot scope) ++
    [.receive 1 (failure .transportClosed (txt "peer closed the connection") []), .turn 1]

/-- A connection that says `Hello` twice for its boot leaves it fenced. -/
theorem repeated_hello_fenced :
    ∃ b, Reaches (workerRound {}) (Starts {}) KeepsToBoot (serving (started {} none)) b ∧
      (bootsOf 1 b.shared.log = [bootOne, bootOne] ∧ bootOne ∈ b.shared.registry.fencedBoots) ∧
      DisconnectFences b.shared.log := by
  obtain ⟨b, hRun, hHolds⟩ := exists_scheduled {} none keepsToBoot
    (fun _ _ => keepsToBoot_sound) (greeting [bootOne, bootOne])
    (fun s => decide (bootsOf 1 s.log = [bootOne, bootOne] ∧ bootOne ∈ s.registry.fencedBoots))
    (by decide +kernel)
  exact ⟨b, hRun, of_decide_eq_true hHolds,
    disconnect_fences (started_ok (by decide +kernel)) hRun⟩

/-- A second `Hello` with another boot: the first boot is not fenced. -/
theorem second_boot_not_fenced :
    ∃ b, startCoordinator {} none true = .ok (started {} none) ∧
      Reaches (workerRound {}) (Starts {}) (fun _ _ => True) (serving (started {} none)) b ∧
      ¬ DisconnectFences b.shared.log := by
  obtain ⟨b, hRun, hHolds⟩ := exists_scheduled {} none (fun _ _ => true) (fun _ _ _ => trivial)
    (greeting [bootOne, bootTwo]) (fun s => unfenced s.log) (by decide +kernel)
  exact ⟨b, started_ok (by decide +kernel), hRun, unfenced_sound hHolds⟩

end Sample

end FabricCapability.Ports
