import FabricCapability.Ports.CoordinatorRules

/-!
# Scopes and the fences of connections

Whether a connection may fence a boot is looked up in the map of boot scopes, which each
`Hello` overwrites, and at the teardown nothing is looked up at all.  Nothing stops a `Hello`
from naming a boot that another scope has registered, so scopes are isolated as long as no
boot is registered under two of them.

## Main results

* `scopes_isolated`: every step of a run in which each boot has one scope.
* `claimed_boot_fenced`: a `Hello` that names the boot of another scope, and a disconnect.
-/

namespace FabricCapability.Ports

open FabricCapability.Verified.KeyedList
open FabricCapability.Verified.Workers

/-! ## Statements -/

/-- A boot is registered under the scope that it was registered under before. -/
def OneScope (s t : Coordinator) : Prop :=
  ∀ worker scope workerBoot, t.log = .registered worker scope workerBoot :: s.log →
    ∀ other claimed, .registered other claimed workerBoot ∈ s.log → claimed = scope

/-- A boot that a step of a connection fences was registered under the scope of the
connection, and under no other one. -/
def IsolatesScopes (worker : Nat) (s t : Coordinator) : Prop :=
  ∀ state, s.connection worker = some state →
    ∀ workerBoot ∈ t.registry.fencedBoots, workerBoot ∉ s.registry.fencedBoots →
      ∀ other claimed, .registered other claimed workerBoot ∈ s.log → claimed = state.scope

/-- Each boot has one scope, which the map of boot scopes knows, and the workers to come have
no connection yet. -/
structure ScopesHeld (s : Coordinator) : Prop where
  one : ∀ worker other scope claimed workerBoot, .registered worker scope workerBoot ∈ s.log →
    .registered other claimed workerBoot ∈ s.log → claimed = scope
  bootScopes : ∀ held ∈ s.bootScopes, ∃ worker, .registered worker held.2 held.1 ∈ s.log
  numbered : ∀ worker, s.workers ≤ worker → s.connection worker = none

def scopeContract : Contract Coordinator Nat :=
  lawContract OneScope ScopesHeld IsolatesScopes
    fun _ _ _ _ _ hMem hNot => absurd hMem hNot

theorem scopeContract_own : KeepsToOwn scopeContract := lawContract_own _ _ _ _

/-- The scope of the connection, and its boot once the handshake is done. -/
def Joined (worker : Nat) (locals : ServeLocals) (s : Coordinator) : Prop :=
  ∃ state, s.connection worker = some state ∧
    (locals.handshakeDone = true → .registered worker state.scope locals.boot ∈ s.log)

/-! ## Steps -/

/-- No boot is fenced. -/
theorem isolates_of_fencedBoots {worker : Nat} {s t : Coordinator}
    (h : t.registry.fencedBoots = s.registry.fencedBoots) : IsolatesScopes worker s t :=
  fun _ _ _ hMem hNot => absurd (h ▸ hMem) hNot

/-- A worker without a connection. -/
theorem isolates_of_none {worker : Nat} {s t : Coordinator} (h : s.connection worker = none) :
    IsolatesScopes worker s t := by
  intro state hFound
  rw [h] at hFound
  cases hFound

theorem Quiet.scopesHeld {worker : Nat} {s t : Coordinator} (hQuiet : Quiet worker s t)
    (h : ScopesHeld s) : ScopesHeld t := by
  have hMem : ∀ {other scope workerBoot}, .registered other scope workerBoot ∈ t.log →
      .registered other scope workerBoot ∈ s.log :=
    fun hMem => hQuiet.mem (fun hQuiet => hQuiet) hMem
  refine ⟨fun _ _ _ _ _ hFirst hSecond => h.one _ _ _ _ _ (hMem hFirst) (hMem hSecond),
    fun held hHeld => ?_, fun other hLe => ?_⟩
  · obtain ⟨other, hRegistered⟩ := h.bootScopes held (hQuiet.bootScopes held hHeld)
    obtain ⟨new, hNew, -⟩ := hQuiet.log
    exact ⟨other, hNew ▸ List.mem_append_right _ hRegistered⟩
  · rw [hQuiet.workers] at hLe
    have hNone := h.numbered other hLe
    by_cases hOwn : other = worker
    · have hScope := hQuiet.scope
      rw [hOwn] at hNone
      rw [hNone, Option.map_none, Option.map_eq_none_iff] at hScope
      rw [hOwn, hScope]
    · rw [hQuiet.others other hOwn, hNone]

theorem scope_does {worker : Nat} {s t : Coordinator} (h : Quiet worker s t) :
    scopeContract.does worker s t :=
  ⟨h.onlyOwn, fun hInv _ => h.scopesHeld hInv, isolates_of_fencedBoots h.fencedBoots⟩

theorem Quiet.joined {worker : Nat} {locals : ServeLocals} {s t : Coordinator}
    (hQuiet : Quiet worker s t) (h : Joined worker locals s) : Joined worker locals t := by
  obtain ⟨state, hFound, hBoot⟩ := h
  have hScope := hQuiet.scope
  rw [hFound, Option.map_some] at hScope
  obtain ⟨after, hAfter, hSame⟩ := Option.map_eq_some_iff.1 hScope
  obtain ⟨new, hNew, -⟩ := hQuiet.log
  refine ⟨after, hAfter, fun hDone => ?_⟩
  rw [hSame, hNew]
  exact List.mem_append_right _ (hBoot hDone)

theorem joined_stable (worker : Nat) (locals : ServeLocals) :
    Stable scopeContract worker (Joined worker locals) := by
  intro other hNe s t _ hJoined _ hDoes
  obtain ⟨state, hFound, hBoot⟩ := hJoined
  obtain ⟨new, hNew, -⟩ := hDoes.1.log
  refine ⟨state, ?_, fun hDone => hNew ▸ List.mem_append_right _ (hBoot hDone)⟩
  rw [hDoes.1.connection worker (Ne.symm hNe), hFound]

/-- Changes outside of the log, the connections and the scopes. -/
theorem ScopesHeld.of_fields {s t : Coordinator} (h : ScopesHeld s) (hLog : t.log = s.log)
    (hConnections : t.connections = s.connections) (hScopes : t.bootScopes = s.bootScopes)
    (hWorkers : t.workers = s.workers) : ScopesHeld t := by
  refine ⟨hLog ▸ h.one, hScopes ▸ hLog ▸ h.bootScopes, ?_⟩
  unfold Coordinator.connection
  rw [hConnections, hWorkers]
  exact h.numbered

/-- A boot is registered. -/
theorem registered_held {worker : Nat} {scope : AuthorityScopeId} {workerBoot : WorkerBootId}
    {s : Coordinator} {registry : Registry} (h : ScopesHeld s)
    (hOne : OneScope s ({ s with registry }.note (.registered worker scope workerBoot))) :
    ScopesHeld ({ s with registry }.note (.registered worker scope workerBoot)) := by
  have hNew := hOne worker scope workerBoot rfl
  refine ⟨fun first second held claimed boot hFirst hSecond => ?_, fun held hHeld => ?_,
    h.numbered⟩
  · rcases List.mem_cons.1 hFirst with hHere | hBefore
    · cases hHere
      rcases List.mem_cons.1 hSecond with hSame | hEarlier
      · cases hSame
        rfl
      · exact hNew second claimed hEarlier
    · rcases List.mem_cons.1 hSecond with hHere | hEarlier
      · cases hHere
        exact (hNew first held hBefore).symm
      · exact h.one _ _ _ _ _ hBefore hEarlier
  · obtain ⟨other, hRegistered⟩ := h.bootScopes held hHeld
    exact ⟨other, List.mem_cons_of_mem _ hRegistered⟩

theorem closed_held {s : Coordinator} (h : ScopesHeld s) (registry after : Registry)
    {worker : Nat} : ScopesHeld ({ s with registry }.note (.closed worker after)) := by
  have hMem : ∀ {other scope boot}, .registered other scope boot ∈
      (.closed worker after :: s.log) → .registered other scope boot ∈ s.log := by
    intro other scope boot hMem
    cases hMem with
    | tail _ hBefore => exact hBefore
  refine ⟨fun _ _ _ _ _ hFirst hSecond => h.one _ _ _ _ _ (hMem hFirst) (hMem hSecond),
    fun held hHeld => ?_, h.numbered⟩
  obtain ⟨other, hRegistered⟩ := h.bootScopes held hHeld
  exact ⟨other, List.mem_cons_of_mem _ hRegistered⟩

/-- A connection that exists takes another state. -/
theorem setConnection_held {worker : Nat} {state before : ConnectionState} {s : Coordinator}
    (h : ScopesHeld s) (hFound : s.connection worker = some before) :
    ScopesHeld (s.setConnection worker state) := by
  refine ⟨h.one, h.bootScopes, fun other hLe => ?_⟩
  have hNe : other ≠ worker := by
    rintro rfl
    rw [h.numbered other hLe] at hFound
    cases hFound
  rw [(onlyOwn_setConnection s worker state).connection other hNe]
  exact h.numbered other hLe

theorem scope_quietly {α : Type} {worker : Nat} {P : Coordinator → Prop} {task : Work α}
    (hQuiet : Within (Quiet worker) task) (hStable : Stable scopeContract worker P)
    (hKeeps : ∀ s t, Quiet worker s t → P s → P t) :
    Valid scopeContract worker (fun _ => P) task P :=
  valid_of_within hQuiet hStable fun s t _ hP _ hDone => ⟨scope_does hDone, hKeeps s t hDone hP⟩

/-! ## Hello -/

/-- The boot was registered, and the scope of the connection is still the one before. -/
def Admitted (worker : Nat) (locals : ServeLocals) (hello : HelloPayload) (s : Coordinator) :
    Prop :=
  Joined worker locals s ∧ .registered worker hello.scope hello.workerBoot ∈ s.log

theorem admitted_stable (worker : Nat) (locals : ServeLocals) (hello : HelloPayload) :
    Stable scopeContract worker (Admitted worker locals hello) :=
  stable_and (joined_stable worker locals) (stable_mem scopeContract_own _)

theorem Quiet.admitted {worker : Nat} {locals : ServeLocals} {hello : HelloPayload}
    {s t : Coordinator} (hQuiet : Quiet worker s t) (h : Admitted worker locals hello s) :
    Admitted worker locals hello t := by
  obtain ⟨new, hNew, -⟩ := hQuiet.log
  exact ⟨hQuiet.joined h.1, hNew ▸ List.mem_append_right _ h.2⟩

theorem scope_registers {worker : Nat} {scope : AuthorityScopeId} {workerBoot : WorkerBootId}
    {publisher : PublisherId} {s : Coordinator} {registry : Registry}
    {registration : PublisherRegistration}
    (h : registerPublisher s.registry publisher scope workerBoot =
      (registry, .ok registration)) :
    scopeContract.does worker s
      ({ s with registry }.note (.registered worker scope workerBoot)) := by
  refine ⟨?_, fun hInv hOne => registered_held hInv hOne, isolates_of_fencedBoots ?_⟩
  · exact @onlyOwn_change worker (.registered ..) rfl registry s
  · have hSame := registerPublisher_fencedBoots s.registry publisher scope workerBoot
    rw [h] at hSame
    exact hSame

/-- The connection takes the scope of the `Hello`, and then the boot does. -/
theorem completeHandshake_joined (worker : Nat) (locals : ServeLocals) (hello : HelloPayload) :
    Valid scopeContract worker
      (fun _ => Joined worker { boot := hello.workerBoot, handshakeDone := true })
      (completeHandshake worker hello) (Admitted worker locals hello) := by
  refine valid_bind (M := fun _ s =>
      Joined worker { boot := hello.workerBoot, handshakeDone := true } s ∧
        .registered worker hello.scope hello.workerBoot ∈ s.log)
    (valid_modify ?_ fun s hInv hAdmitted _ => ?_) fun _ =>
      valid_modify (joined_stable worker _) fun s hInv hFacts _ => ?_
  · exact stable_and (joined_stable worker _) (stable_mem scopeContract_own _)
  · obtain ⟨⟨state, hFound, -⟩, hRegistered⟩ := hAdmitted
    rw [hFound]
    refine ⟨⟨onlyOwn_setConnection .., fun hHeld _ => setConnection_held hHeld hFound,
      isolates_of_fencedBoots rfl⟩, ⟨_, connection_setConnection .., fun _ => ?_⟩, hRegistered⟩
    exact hRegistered
  · refine ⟨⟨onlyOwn_of_fields rfl rfl, fun hHeld _ => ⟨hHeld.one, fun held hMem => ?_,
      hHeld.numbered⟩, isolates_of_fencedBoots rfl⟩, hFacts.1⟩
    rcases mem_upsert hMem with rfl | hOld
    · exact ⟨worker, hFacts.2⟩
    · exact hHeld.bootScopes held hOld

theorem scopeHelloRules (worker : Nat) (locals : ServeLocals) :
    HelloRules scopeContract worker (Joined worker locals) (Admitted worker locals)
      (Admitted worker locals)
      (fun boot => Joined worker { boot, handshakeDone := true }) where
  stable := joined_stable worker locals
  greets _ _ _ hJoined _ hGreets := ⟨scope_does hGreets.quiet, hGreets.quiet.joined hJoined⟩
  admitted := admitted_stable worker locals
  registers hello s registry registration _ hJoined hRegisters _ := by
    obtain ⟨state, hFound, hBoot⟩ := hJoined
    exact ⟨scope_registers hRegisters,
      ⟨state, hFound, fun hDone => List.mem_cons_of_mem _ (hBoot hDone)⟩, List.mem_cons_self⟩
  sends hello requestId payload := by
    have hSends := scope_quietly (within_mono (fun _ _ => Sends.quiet)
      (sendFrame_within worker .helloAck requestId payload)) (admitted_stable worker locals hello)
      fun _ _ hQuiet => hQuiet.admitted
    refine valid_consequence hSends fun sent s _ hAdmitted => ?_
    cases sent with
    | true => exact hAdmitted
    | false => exact hAdmitted.1
  completes := completeHandshake_joined worker locals

/-! ## Fences -/

/-- The only boot that a call of `FenceWorkerBoot` can add is its own. -/
theorem fenceWorkerBoot_new {registry : Registry} {boot workerBoot : WorkerBootId}
    {reason : ReasonToken}
    (h : boot ∈ (fenceWorkerBoot registry workerBoot reason).1.fencedBoots) :
    boot = workerBoot ∨ boot ∈ registry.fencedBoots := by
  have hInserted : ∀ other : Registry,
      boot ∈ (insertFence other workerBoot reason).1.fencedBoots →
        boot = workerBoot ∨ boot ∈ other.fencedBoots := by
    intro other hMem
    rw [insertFence_fencedBoots] at hMem
    rcases List.mem_append.1 hMem with hOld | hNew
    · exact .inr hOld
    · exact .inl (List.mem_singleton.1 hNew)
  revert h
  unfold fenceWorkerBoot
  split
  · exact .inr
  · split
    · exact .inr
    · split
      · split
        · exact .inr
        · intro h
          rcases hInserted _ h with hNew | hOld
          · exact .inl hNew
          · exact .inr (List.mem_filter.1 hOld).1
      · exact hInserted _

/-- A connection fences a boot of its own scope. -/
theorem fence_isolates {worker : Nat} {state : ConnectionState} {scope : AuthorityScopeId}
    {workerBoot : WorkerBootId} {reason : ReasonToken} {s t : Coordinator} (h : ScopesHeld s)
    (hFound : s.connection worker = some state) (hScope : state.scope = scope)
    (hRegistered : ∃ other, .registered other scope workerBoot ∈ s.log)
    (hFenced : t.registry.fencedBoots =
      (fenceWorkerBoot s.registry workerBoot reason).1.fencedBoots) :
    IsolatesScopes worker s t := by
  intro held hHeld boot hMem hNot other claimed hClaimed
  rw [hFound, Option.some.injEq] at hHeld
  rw [hFenced] at hMem
  obtain ⟨first, hFirst⟩ := hRegistered
  rcases fenceWorkerBoot_new hMem with rfl | hOld
  · rw [← hHeld, hScope]
    exact h.one _ _ _ _ _ hFirst hClaimed
  · exact absurd hOld hNot

/-- The frame `Fence`. -/
theorem serveFence_isolates (worker : Nat) (locals : ServeLocals) (state : ConnectionState)
    (request : WireFrame) :
    Valid scopeContract worker (fun _ => Joined worker locals)
      (serveFence worker state request)
      fun s => Joined worker locals s ∧
        (s.connection worker).map ConnectionState.scope = some state.scope := by
  have hStable := stable_and (joined_stable worker locals)
    (stable_connection scopeContract_own
      fun held => held.map ConnectionState.scope = some state.scope)
  have hQuietly : ∀ {α : Type} {task : Work α}, Within (Quiet worker) task →
      Valid scopeContract worker (fun _ => Joined worker locals) task
        fun s => Joined worker locals s ∧
          (s.connection worker).map ConnectionState.scope = some state.scope :=
    fun hQuiet => valid_weaken (scope_quietly hQuiet (joined_stable worker locals)
      fun _ _ hDone => hDone.joined) fun _ _ hFacts => hFacts.1
  have hError := fun error => hQuietly (within_mono (fun _ _ => Chats.quiet)
    (sendError_within worker request.requestId error))
  unfold serveFence
  split
  · exact hError _
  · rename_i target _
    have hOwned : ∀ allowed : Bool, Stable scopeContract worker fun s =>
        allowed = true → ∃ other, .registered other state.scope target.workerBoot ∈ s.log := by
      intro allowed other _ s t _ hOwned _ hDoes hAllowed
      obtain ⟨first, hFirst⟩ := hOwned hAllowed
      obtain ⟨new, hNew, -⟩ := hDoes.1.log
      exact ⟨first, hNew ▸ List.mem_append_right _ hFirst⟩
    refine valid_bind (valid_read (fun allowed => stable_and hStable (hOwned allowed))
      fun s hInv hFacts => ⟨hFacts, fun hAllowed => ?_⟩) fun allowed => ?_
    · obtain ⟨held, hHeld, hSame⟩ := (Option.any_eq_true _ _).1 hAllowed
      obtain ⟨other, hRegistered⟩ := hInv.bootScopes held (lookup_mem hHeld)
      rw [lookup_key hHeld, beq_iff_eq.1 hSame] at hRegistered
      exact ⟨other, hRegistered⟩
    · cases allowed with
      | false =>
          have hRefused := hError
            { code := .unauthorizedPublisher
              message := txt "the fence target is not registered inside this authority scope" }
          exact valid_weaken hRefused fun _ _ hFacts => hFacts.1
      | true =>
          refine valid_bind (M := fun _ s => Joined worker locals s ∧
            (s.connection worker).map ConnectionState.scope = some state.scope)
            (valid_update (fun _ => hStable) fun s hInv hFacts _ => ?_) fun fenced => ?_
          · obtain ⟨⟨hJoined, hScope⟩, hRegistered⟩ := hFacts
            obtain ⟨held, hFound, hSame⟩ := Option.map_eq_some_iff.1 hScope
            exact ⟨⟨onlyOwn_of_fields rfl rfl, fun hHeld _ => hHeld.of_fields rfl rfl rfl rfl,
              fence_isolates hInv hFound hSame (hRegistered rfl) rfl⟩, hJoined, hScope⟩
          · cases fenced with
            | error e => exact hError _
            | ok done =>
                exact hQuietly (within_bind (within_update fun s => quiet_of_fields rfl rfl rfl
                  (fun _ hMem => (List.mem_filter.1 hMem).1) rfl) fun _ =>
                    within_mono (fun _ _ => Sends.quiet) (sendFrame_within _ _ _ _))

/-- The fence of a connection that is lost. -/
theorem fenceLost_isolates (worker : Nat) (locals : ServeLocals) :
    Valid scopeContract worker (fun _ _ => True) (fenceLost worker locals)
      (Joined worker locals) := by
  unfold fenceLost
  split
  · rename_i hDone
    rw [Bool.and_eq_true] at hDone
    refine valid_bind (M := fun _ _ => True)
      (valid_modify (stable_const True) fun s hInv hJoined _ => ?_) fun _ =>
        scope_quietly (within_update fun s => quiet_of_fields rfl rfl rfl
          (fun _ hMem => (List.mem_filter.1 hMem).1) rfl) (stable_const True)
          fun _ _ _ _ => trivial
    obtain ⟨state, hFound, hBoot⟩ := hJoined
    refine ⟨⟨?_, fun hHeld _ => ?_, ?_⟩, trivial⟩
    · exact @onlyOwn_change worker (.closed ..) rfl _ s
    · exact closed_held hHeld _ _
    · exact fence_isolates hInv hFound rfl ⟨worker, hBoot hDone.1⟩ rfl
  · refine valid_modify (stable_const True) fun s _ _ _ => ⟨⟨?_, fun hHeld _ => ?_, ?_⟩, trivial⟩
    · exact @onlyOwn_note worker (.closed ..) rfl s
    · exact closed_held hHeld s.registry _
    · exact isolates_of_fencedBoots rfl

theorem serveFrame_joined (options : CoordinatorOptions) (worker : Nat)
    (locals : ServeLocals) (request : WireFrame) (state : ConnectionState) :
    Valid scopeContract worker (fun _ => Joined worker locals)
      (serveFrame options worker state request)
      fun s => Joined worker locals s ∧ s.connection worker = some state := by
  have hQuietly : ∀ {task : Work Bool}, Within (Quiet worker) task →
      Valid scopeContract worker (fun _ => Joined worker locals) task
        fun s => Joined worker locals s ∧ s.connection worker = some state :=
    fun hQuiet => valid_weaken (scope_quietly hQuiet (joined_stable worker locals)
      fun _ _ hDone => hDone.joined) fun _ _ hFacts => hFacts.1
  unfold serveFrame
  split
  · exact hQuietly (within_mono (fun _ _ => Publishes.quiet) (servePublish_within ..))
  · exact hQuietly (within_mono (fun _ _ => Chats.quiet) (serveStatus_within worker request))
  · refine valid_weaken (serveFence_isolates worker locals state request) fun s _ hFacts => ?_
    rw [hFacts.2]
    exact ⟨hFacts.1, rfl⟩
  · exact hQuietly (within_mono (fun _ _ => Chats.quiet) (sendError_within worker _ _))

/-! ## The other workers -/

theorem callRegistry_isolates (worker : Nat) (operation : Operation) :
    Valid scopeContract worker (fun _ _ => True) (callRegistry worker operation)
      fun s => s.connection worker = none := by
  unfold callRegistry
  split
  · refine valid_bind (M := fun _ _ => True)
      (valid_update (fun _ => stable_const True) fun s _ _ _ => ⟨?_, trivial⟩) fun _ =>
        valid_pure fun _ _ _ => trivial
    split
    · rename_i hFailed
      rw [registerPublisher_failed hFailed]
      exact scopeContract.still worker s
    · rename_i hRegistered
      exact scope_registers hRegistered
  · refine valid_modify (stable_const True) fun s _ hNone _ => ⟨⟨?_, fun hHeld _ => ?_, ?_⟩, trivial⟩
    · exact onlyOwn_of_fields rfl rfl
    · exact hHeld.of_fields rfl rfl rfl rfl
    · exact isolates_of_none hNone

theorem erases_held {s : Coordinator} (h : ScopesHeld s) (worker : Nat) :
    ScopesHeld { s with connections := s.connections.filter fun held => held.1 ≠ worker } := by
  refine ⟨h.one, h.bootScopes, fun other hLe => ?_⟩
  rw [connection_erase]
  split
  · rfl
  · exact h.numbered other hLe

/-- One more worker. -/
theorem counted_held {s : Coordinator} (h : ScopesHeld s) :
    ScopesHeld { s with workers := s.workers + 1 } :=
  ⟨h.one, h.bootScopes, fun _ hLe => h.numbered _ (Nat.le_of_succ_le hLe)⟩

theorem accepted_held {options : CoordinatorOptions} {worker : Nat} {s t : Coordinator}
    (hStarts : Starts options worker (.serving {}) s t) (h : ScopesHeld s) : ScopesHeld t := by
  cases hStarts with
  | accept hFresh hRoom =>
      refine ⟨h.one, h.bootScopes, fun other hLe => ?_⟩
      have hLater : s.workers + 1 ≤ other := hLe
      have hNe : other ≠ worker := by omega
      rw [(onlyOwn_setConnection _ worker _).connection other hNe]
      exact h.numbered other (by omega)

/-! ## All runs -/

theorem scopeRules (options : CoordinatorOptions) :
    ServeRules options scopeContract (fun worker s => s.connection worker = none) Joined Joined
      fun worker locals _ => Joined worker locals where
  stable := joined_stable
  aside worker := stable_connection scopeContract_own fun held => held = none
  ends _ _ _ _ hJoined := hJoined
  receives worker locals request :=
    scope_quietly (within_update fun s => @quiet_note worker (.received ..) rfl trivial s)
      (joined_stable worker locals) fun _ _ hQuiet => hQuiet.joined
  leaves _ _ _ _ _ hJoined := hJoined
  reads worker locals _ state :=
    stable_and (joined_stable worker locals)
      (stable_connection scopeContract_own fun held => held = state)
  hello worker locals request _ := (scopeHelloRules worker locals).valid request
  frame worker locals request state _ := by
    refine valid_consequence (serveFrame_joined options worker locals request state)
      fun goesOn s _ hJoined => ?_
    cases goesOn <;> exact hJoined
  lost := fenceLost_isolates
  erases worker := valid_modify (stable_const True) fun s _ _ _ =>
    ⟨⟨onlyOwn_erase s worker, fun hHeld _ => erases_held hHeld worker,
      isolates_of_fencedBoots rfl⟩, trivial⟩
  persist worker := by
    have hSaved := scope_quietly (within_mono (fun _ _ => Saves.quiet) (saveStore_within worker))
      (stable_const True) fun _ _ _ _ => trivial
    exact valid_weaken hSaved fun _ _ _ => trivial
  call := callRegistry_isolates
  accepts worker s t hInv hStarts _ := by
    refine ⟨⟨hStarts.onlyOwn, fun hHeld _ => accepted_held hStarts hHeld, ?_⟩, ?_⟩
    · cases hStarts
      exact isolates_of_fencedBoots rfl
    · cases hStarts
      exact ⟨{}, connection_setConnection .., nofun⟩
  begins worker s hInv hFresh _ := by
    refine ⟨⟨onlyOwn_of_fields rfl rfl, fun hHeld _ => counted_held hHeld,
      isolates_of_fencedBoots rfl⟩, ?_⟩
    exact hInv.numbered worker (Nat.le_of_eq hFresh.symm)

/-- Scopes are isolated in every run in which each boot has one scope. -/
theorem scopes_isolated {options : CoordinatorOptions} {file : Option Bytes} {written : Bool}
    {s : Coordinator} (hStart : startCoordinator options file written = .ok s)
    {b d : CoordinatorSystem} {worker : Nat}
    (hRun : Reaches (workerRound options) (Starts options) OneScope (serving s) b)
    (hStep : Step (workerRound options) (Starts options) b worker d)
    (hOne : OneScope b.shared d.shared) : IsolatesScopes worker b.shared d.shared := by
  obtain ⟨hLog, hConnections, hScopes⟩ := startCoordinator_fresh hStart
  have hFirst : ScopesHeld s := by
    refine ⟨fun _ _ _ _ _ hMem => ?_, fun held hMem => ?_, fun other _ => ?_⟩
    · rw [hLog] at hMem
      cases hMem
    · rw [hScopes] at hMem
      cases hMem
    · unfold Coordinator.connection
      rw [hConnections]
      rfl
  have hDoes : scopeContract.does worker b.shared d.shared :=
    reaches_does (scopeRules options).proved (atWork_idle hFirst) hRun hStep hOne
  exact hDoes.2.2

/-- A check of `OneScope` by evaluation. -/
def oneScope (_ t : Coordinator) : Bool :=
  match t.log with
  | .registered _ scope workerBoot :: past => past.all fun event =>
      match event with
      | .registered _ claimed boot => boot != workerBoot || claimed == scope
      | _ => true
  | _ => true

theorem oneScope_sound {s t : Coordinator} (h : oneScope s t = true) : OneScope s t := by
  intro worker scope workerBoot hLog other claimed hMem
  unfold oneScope at h
  rw [hLog] at h
  have hHeld := List.all_eq_true.1 h _ hMem
  simpa using hHeld

/-- A check that finds a boot of another scope among those that a step fences. -/
def trespasses (worker : Nat) (s t : Coordinator) : Bool :=
  (s.connection worker).any fun state => s.log.any fun event =>
    match event with
    | .registered _ claimed boot =>
        decide (boot ∈ t.registry.fencedBoots) && !decide (boot ∈ s.registry.fencedBoots) &&
          claimed != state.scope
    | _ => false

theorem trespasses_sound {worker : Nat} {s t : Coordinator}
    (h : trespasses worker s t = true) : ¬ IsolatesScopes worker s t := by
  intro hIsolates
  obtain ⟨state, hFound, hAny⟩ := (Option.any_eq_true _ _).1 h
  obtain ⟨event, hMem, hHolds⟩ := List.any_eq_true.1 hAny
  split at hHolds
  · rename_i other claimed boot
    simp only [Bool.and_eq_true, decide_eq_true_eq, Bool.not_eq_true', decide_eq_false_iff_not,
      bne_iff_ne] at hHolds
    exact hHolds.2 (hIsolates state hFound boot hHolds.1.1 hHolds.1.2 other claimed hMem)
  · cases hHolds

namespace Sample

def otherScope : AuthorityScopeId := token _ "scope-b"

/-- Two scopes are declared, and the first boot says `Hello` in the first of them. -/
def visited : List CoordinatorMove :=
  declared ++ [.start 1 (.calling (.declareAuthority { grant with scope := otherScope })),
    .turn 1, .turn 1, .start 2 (.serving {})] ++ hello 2 bootOne scope

/-- A connection of the second scope comes with the boot, and is lost before its last step. -/
def visiting (boot : WorkerBootId) : List CoordinatorMove :=
  visited ++ [.start 3 (.serving {})] ++ hello 3 boot otherScope ++
    [.receive 3 (failure .transportClosed (txt "peer closed the connection") [])]

/-- The second scope comes with a boot of its own, which its disconnect fences. -/
theorem own_boot_fenced :
    ∃ b d, Reaches (workerRound {}) (Starts {}) OneScope (serving (started {} none)) b ∧
      Step (workerRound {}) (Starts {}) b 3 d ∧
      bootTwo ∈ d.shared.registry.fencedBoots ∧ IsolatesScopes 3 b.shared d.shared := by
  obtain ⟨b, d, hRun, hStep, hHolds⟩ := exists_scheduled_step {} none oneScope
    (fun _ _ => oneScope_sound) (visiting bootTwo) (.turn 3)
    (fun s t => oneScope s t && decide (bootTwo ∈ t.registry.fencedBoots))
    (by decide +kernel)
  obtain ⟨hOne, hFenced⟩ := Bool.and_eq_true_iff.1 hHolds
  exact ⟨b, d, hRun, hStep, of_decide_eq_true hFenced,
    scopes_isolated (started_ok (by decide +kernel)) hRun hStep (oneScope_sound hOne)⟩

/-- The second scope comes with the boot of the first, and its disconnect fences it. -/
theorem claimed_boot_fenced :
    ∃ b d, startCoordinator {} none true = .ok (started {} none) ∧
      Reaches (workerRound {}) (Starts {}) (fun _ _ => True) (serving (started {} none)) b ∧
      Step (workerRound {}) (Starts {}) b 3 d ∧ ¬ IsolatesScopes 3 b.shared d.shared := by
  obtain ⟨b, d, hRun, hStep, hHolds⟩ := exists_scheduled_step {} none (fun _ _ => true)
    (fun _ _ _ => trivial) (visiting bootOne) (.turn 3) (trespasses 3) (by decide +kernel)
  exact ⟨b, d, started_ok (by decide +kernel), hRun, hStep, trespasses_sound hHolds⟩

end Sample

end FabricCapability.Ports
