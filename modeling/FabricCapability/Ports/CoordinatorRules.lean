import FabricCapability.Ports.Coordinator
import FabricCapability.Ports.Fencing
import FabricCapability.Ports.RequestRoundTrip

/-!
# Rules for the coordinator

What every worker of the coordinator keeps to, whatever is to be proved: its events go to
the end of the log under its own number, and it leaves the connections of the others alone.
So a worker may rely on what it has seen happen and on the state of its own connection.

## Main results

* `sendFrame_within`, `saveStore_within`, `serveStatus_within`: the parts that do nothing
  but send or save.
* `serveHello_acts`, `serveFence_acts`, `fenceLost_acts`, `callRegistry_acts`: what a worker
  does outside of `Publish`.
* `ServeRules.proved`: the rounds of all workers, from rules for the parts of a turn.
-/

namespace FabricCapability.Ports

open FabricCapability.Verified.KeyedList
open FabricCapability.Verified.Workers

/-! ## Workers keep to themselves -/

def Event.worker : Event → Nat
  | received worker _ | sent worker .. | lost worker .. | registered worker .. |
    handled worker .. | stored worker .. | unstored worker |
    closed worker _ => worker

/-- The change adds events of the worker to the log, and may touch its connection. -/
structure OnlyOwn (worker : Nat) (s t : Coordinator) : Prop where
  log : ∃ new, t.log = new ++ s.log ∧ ∀ event ∈ new, event.worker = worker
  connection : ∀ other, other ≠ worker → t.connection other = s.connection other

theorem onlyOwn_refl (worker : Nat) (s : Coordinator) : OnlyOwn worker s s :=
  ⟨⟨[], rfl, fun _ hMem => absurd hMem List.not_mem_nil⟩, fun _ _ => rfl⟩

theorem onlyOwn_note {worker : Nat} {event : Event} (h : event.worker = worker)
    (s : Coordinator) : OnlyOwn worker s (s.note event) :=
  ⟨⟨[event], rfl, fun _ hMem => List.mem_singleton.1 hMem ▸ h⟩, fun _ _ => rfl⟩

/-- A change that leaves the log and the connections alone. -/
theorem onlyOwn_of_fields {worker : Nat} {s t : Coordinator} (hLog : t.log = s.log)
    (hConnections : t.connections = s.connections) : OnlyOwn worker s t := by
  refine ⟨⟨[], hLog, fun _ hMem => absurd hMem List.not_mem_nil⟩, fun other _ => ?_⟩
  unfold Coordinator.connection
  rw [hConnections]

theorem OnlyOwn.trans {worker : Nat} {a b c : Coordinator} (hab : OnlyOwn worker a b)
    (hbc : OnlyOwn worker b c) : OnlyOwn worker a c := by
  obtain ⟨new, hNew, hOwn⟩ := hab.log
  obtain ⟨newer, hNewer, hOwner⟩ := hbc.log
  refine ⟨⟨newer ++ new, ?_, fun event hMem => ?_⟩, fun other hNe => ?_⟩
  · rw [hNewer, hNew, List.append_assoc]
  · rcases List.mem_append.1 hMem with hLate | hEarly
    · exact hOwner event hLate
    · exact hOwn event hEarly
  · rw [hbc.connection other hNe, hab.connection other hNe]

/-- The registry changes, and an event says so. -/
theorem onlyOwn_change {worker : Nat} {event : Event} (h : event.worker = worker)
    (registry : Registry) (s : Coordinator) :
    OnlyOwn worker s ({ s with registry }.note event) := by
  have hRegistry : OnlyOwn worker s { s with registry } := onlyOwn_of_fields rfl rfl
  exact hRegistry.trans (onlyOwn_note h _)

theorem connection_setConnection (s : Coordinator) (worker : Nat) (state : ConnectionState) :
    (s.setConnection worker state).connection worker = some state := by
  have hFound : lookup Prod.fst (worker, state).1
      (upsert Prod.fst (worker, state) s.connections) = some (worker, state) :=
    lookup_upsert_self
  exact congrArg (Option.map Prod.snd) hFound

theorem onlyOwn_setConnection (s : Coordinator) (worker : Nat) (state : ConnectionState) :
    OnlyOwn worker s (s.setConnection worker state) := by
  refine ⟨⟨[], rfl, fun _ hMem => absurd hMem List.not_mem_nil⟩, fun other hNe => ?_⟩
  have hSame : lookup Prod.fst other (upsert Prod.fst (worker, state) s.connections) =
      lookup Prod.fst other s.connections := lookup_upsert_ne (Ne.symm hNe)
  unfold Coordinator.setConnection Coordinator.connection
  dsimp only
  rw [hSame]

/-- The teardown removes the connection of the worker. -/
theorem connection_erase (s : Coordinator) (worker other : Nat) :
    Coordinator.connection
      { s with connections := s.connections.filter fun held => held.1 ≠ worker } other =
        if other = worker then none else s.connection other := by
  unfold Coordinator.connection lookup
  rw [List.find?_filter]
  split
  · rename_i hOwn
    rw [List.find?_eq_none.2]
    · rfl
    · intro held _
      simp only [hOwn, decide_eq_true_eq]
      exact fun hBoth => hBoth.1 hBoth.2
  · rename_i hNe
    congr 2
    funext held
    by_cases hOther : held.1 = other
    · simp [hOther, hNe]
    · simp [hOther]

theorem onlyOwn_erase (s : Coordinator) (worker : Nat) :
    OnlyOwn worker s
      { s with connections := s.connections.filter fun held => held.1 ≠ worker } := by
  refine ⟨⟨[], rfl, fun _ hMem => absurd hMem List.not_mem_nil⟩, fun other hNe => ?_⟩
  rw [connection_erase, if_neg hNe]

/-! ## Contracts -/

/-- The contract that keeps `inv` and whose steps follow `law`. -/
def lawContract (ok : Coordinator → Coordinator → Prop) (inv : Coordinator → Prop)
    (law : Nat → Coordinator → Coordinator → Prop) (still : ∀ worker s, law worker s s) :
    Contract Coordinator Nat where
  ok := ok
  does worker s t := OnlyOwn worker s t ∧ (inv s → ok s t → inv t) ∧ law worker s t
  inv := inv
  still worker s := ⟨onlyOwn_refl worker s, fun h _ => h, still worker s⟩
  keeps _ _ _ hInv hOk hDoes := hDoes.2.1 hInv hOk

/-- The contract that keeps `inv`: each worker keeps to itself and keeps the invariant. -/
def ownContract (ok : Coordinator → Coordinator → Prop) (inv : Coordinator → Prop) :
    Contract Coordinator Nat where
  ok := ok
  does worker s t := OnlyOwn worker s t ∧ (inv s → ok s t → inv t)
  inv := inv
  still worker s := ⟨onlyOwn_refl worker s, fun h _ => h⟩
  keeps _ _ _ hInv hOk hDoes := hDoes.2 hInv hOk

/-- Under the contract the workers keep to themselves. -/
def KeepsToOwn (c : Contract Coordinator Nat) : Prop :=
  ∀ worker s t, c.does worker s t → OnlyOwn worker s t

theorem lawContract_own (ok : Coordinator → Coordinator → Prop) (inv : Coordinator → Prop)
    (law : Nat → Coordinator → Coordinator → Prop) (still : ∀ worker s, law worker s s) :
    KeepsToOwn (lawContract ok inv law still) := fun _ _ _ h => h.1

theorem ownContract_own (ok : Coordinator → Coordinator → Prop) (inv : Coordinator → Prop) :
    KeepsToOwn (ownContract ok inv) := fun _ _ _ h => h.1

section Stable

variable {c : Contract Coordinator Nat} {worker : Nat}

/-- What has happened stays in the log. -/
theorem stable_mem (h : KeepsToOwn c) (event : Event) : Stable c worker fun s => event ∈ s.log := by
  intro other _ s t _ hMem _ hDoes
  obtain ⟨new, hNew, -⟩ := (h other s t hDoes).log
  rw [hNew]
  exact List.mem_append_right _ hMem

/-- The others leave the connection alone. -/
theorem stable_connection (h : KeepsToOwn c) (P : Option ConnectionState → Prop) :
    Stable c worker fun s => P (s.connection worker) := by
  intro other hNe s t _ hP _ hDoes
  rw [(h other s t hDoes).connection worker (Ne.symm hNe)]
  exact hP

/-- The events of one worker, the latest first. -/
def ownEvents (worker : Nat) (log : List Event) : List Event :=
  log.filter fun event => event.worker == worker

theorem ownEvents_note (s : Coordinator) (worker : Nat) (event : Event) :
    ownEvents worker (s.note event).log =
      if event.worker = worker then event :: ownEvents worker s.log
      else ownEvents worker s.log := by
  unfold ownEvents Coordinator.note
  dsimp only
  rw [List.filter_cons]
  simp only [beq_iff_eq]

/-- The others add no events under the number of the worker. -/
theorem stable_ownEvents (h : KeepsToOwn c) (P : List Event → Prop) :
    Stable c worker fun s => P (ownEvents worker s.log) := by
  intro other hNe s t _ hP _ hDoes
  obtain ⟨new, hNew, hOwn⟩ := (h other s t hDoes).log
  have hNone : ownEvents worker new = [] := by
    refine List.filter_eq_nil_iff.2 fun event hMem => ?_
    rw [hOwn event hMem, beq_iff_eq]
    exact hNe
  have hSame : ownEvents worker t.log = ownEvents worker s.log := by
    rw [hNew]
    show ownEvents worker (new ++ s.log) = _
    unfold ownEvents at hNone ⊢
    rw [List.filter_append, hNone, List.nil_append]
  rw [hSame]
  exact hP

end Stable

/-- The worker has begun. -/
def Begun (worker : Nat) (s : Coordinator) : Prop := worker < s.workers

theorem begun_stable {c : Contract Coordinator Nat}
    (h : ∀ worker s t, c.does worker s t → s.workers ≤ t.workers) (worker : Nat) :
    Stable c worker (Begun worker) :=
  fun other _ s t _ hBegun _ hDoes => Nat.lt_of_lt_of_le hBegun (h other s t hDoes)

/-! ## Sending and saving -/

/-- The worker sends the frame, or fails to. -/
inductive Sends (worker : Nat) (type : WireMessageType) (requestId : UInt64) (payload : Bytes)
    (s : Coordinator) : Coordinator → Prop
  | sent : Sends worker type requestId payload s (s.note (.sent worker type requestId payload))
  | lost : Sends worker type requestId payload s (s.note (.lost worker type requestId payload))

/-- Nothing changes, or the worker sends a frame of a type that no statement is about. -/
inductive Chats (worker : Nat) (s : Coordinator) : Coordinator → Prop
  | reads : Chats worker s s
  | status {requestId : UInt64} {payload : Bytes} {t : Coordinator}
      (sends : Sends worker .statusAck requestId payload s t) : Chats worker s t
  | error {requestId : UInt64} {payload : Bytes} {t : Coordinator}
      (sends : Sends worker .errorResponse requestId payload s t) : Chats worker s t

/-- What a worker does between the frame `Hello` and its end, the registration and the
handshake apart. -/
inductive Greets (worker : Nat) (s : Coordinator) : Coordinator → Prop
  | chats {t : Coordinator} (chats : Chats worker s t) : Greets worker s t
  | acks {requestId : UInt64} {payload : Bytes} {t : Coordinator}
      (sends : Sends worker .helloAck requestId payload s t) : Greets worker s t

/-- Nothing changes, the worker replaces the file, or it fails to. -/
inductive Saves (worker : Nat) (s : Coordinator) : Coordinator → Prop
  | reads : Saves worker s s
  | stored (file : Bytes) (taken : Nat) (registry : Registry) :
      Saves worker s ({ s with store := some file }.note (.stored worker taken registry))
  | unstored : Saves worker s (s.note (.unstored worker))

theorem sendFrame_within (worker : Nat) (type : WireMessageType) (requestId : UInt64)
    (payload : Bytes) :
    Within (Sends worker type requestId payload)
      (sendFrame worker type requestId payload) := by
  have hLose : Within (Sends worker type requestId payload) (do
      Task.modify (Coordinator.note (.lost worker type requestId payload))
      pure false : Work Bool) :=
    within_bind (within_update fun s => .lost) fun _ => trivial
  unfold sendFrame
  dsimp only
  split
  · exact hLose
  · refine within_toss fun sent => ?_
    cases sent with
    | true => exact within_bind (within_update fun s => .sent) fun _ => trivial
    | false => exact hLose

theorem sendError_within (worker : Nat) (requestId : UInt64) (error : ErrorPayload) :
    Within (Chats worker) (sendError worker requestId error) := by
  unfold sendError
  split
  · trivial
  · exact within_mono (fun _ _ => .error) (sendFrame_within _ _ _ _)

theorem currentEpoch_within (worker : Nat) : Within (Chats worker) currentEpoch :=
  within_update fun _ => .reads

theorem staleHello_within (worker : Nat) (hello : HelloPayload) :
    Within (Chats worker) (staleHello hello) := by
  unfold staleHello
  split
  · trivial
  · exact within_bind (currentEpoch_within worker) fun _ => trivial

theorem helloErrorCode_within (worker : Nat) (payload : Outcome HelloPayload) :
    Within (Chats worker) (helloErrorCode payload) := by
  unfold helloErrorCode
  split
  · trivial
  · refine within_bind (within_update fun _ => .reads) fun fenced => ?_
    split
    · trivial
    · refine within_bind (within_update fun _ => .reads) fun declared => ?_
      split <;> trivial

theorem serveStatus_within (worker : Nat) (request : WireFrame) :
    Within (Chats worker) (serveStatus worker request) := by
  refine within_bind (currentEpoch_within worker) fun epoch => ?_
  refine within_bind (within_update fun _ => .reads) fun registryGeneration => ?_
  refine within_bind ?_ fun status => ?_
  · unfold entityStatus
    split
    · trivial
    · split
      · refine within_bind (within_update fun _ => .reads) fun found => ?_
        split <;> trivial
      · trivial
  · split
    · trivial
    · exact within_mono (fun _ _ => .status) (sendFrame_within _ _ _ _)

theorem saveStore_within (worker : Nat) : Within (Saves worker) (saveStore worker) := by
  have hFail : Within (Saves worker) (do
      Task.modify (Coordinator.note (.unstored worker))
      pure false : Work Bool) :=
    within_bind (within_update fun s => .unstored) fun _ => trivial
  refine within_bind (within_update fun s => .reads) fun ⟨registry, taken⟩ => ?_
  dsimp only
  split
  · exact hFail
  · refine within_toss fun written => ?_
    cases written with
    | true => exact within_bind (within_update fun s => .stored _ _ _) fun _ => trivial
    | false => exact hFail

theorem persistMutation_within (options : CoordinatorOptions) (worker : Nat) :
    Within (Saves worker) (persistMutation options worker) := by
  unfold persistMutation
  split
  · exact within_bind (saveStore_within worker) fun _ => trivial
  · trivial

/-! ## Everything but publishing -/

/-- What a worker does to the state in any turn but that of a `Publish`. -/
inductive Acts (worker : Nat) (s : Coordinator) : Coordinator → Prop
  | chats {t : Coordinator} (chats : Chats worker s t) : Acts worker s t
  | greets {requestId : UInt64} {payload : Bytes} {t : Coordinator}
      (sends : Sends worker .helloAck requestId payload s t) : Acts worker s t
  | acknowledges {requestId : UInt64} {payload : Bytes} {t : Coordinator}
      (sends : Sends worker .fenceAck requestId payload s t) : Acts worker s t
  | registers {publisher : PublisherId} {scope : AuthorityScopeId}
      {workerBoot : WorkerBootId} {registry : Registry} {registration : PublisherRegistration}
      (registers : registerPublisher s.registry publisher scope workerBoot =
        (registry, .ok registration)) :
      Acts worker s ({ s with registry }.note (.registered worker scope workerBoot))
  | connects {state : ConnectionState} (hello : HelloPayload)
      (found : s.connection worker = some state) :
      Acts worker s
        (s.setConnection worker
          { state with
            handshakeDone := true
            publisher := hello.publisher
            scope := hello.scope
            source := hello.source
            workerBoot := hello.workerBoot })
  | scopes (workerBoot : WorkerBootId) (scope : AuthorityScopeId) :
      Acts worker s { s with bootScopes := upsert Prod.fst (workerBoot, scope) s.bootScopes }
  | fences (workerBoot : WorkerBootId) (reason : ReasonToken) :
      Acts worker s { s with registry := (fenceWorkerBoot s.registry workerBoot reason).1 }
  | forgets (workerBoot : WorkerBootId) :
      Acts worker s
        { s with bootScopes := s.bootScopes.filter fun held => held.1 ≠ workerBoot }
  | loses (workerBoot : WorkerBootId) (reason : ReasonToken) :
      Acts worker s
        ({ s with registry := (fenceWorkerBoot s.registry workerBoot reason).1 }.note
          (.closed worker (fenceWorkerBoot s.registry workerBoot reason).1))
  | closes : Acts worker s (s.note (.closed worker s.registry))
  | erases :
      Acts worker s { s with connections := s.connections.filter fun held => held.1 ≠ worker }
  | calls (operation : Operation) :
      Acts worker s { s with registry := operation.apply s.registry }

theorem registerPublisher_failed {registry registry' : Registry} {publisher : PublisherId}
    {scope : AuthorityScopeId} {workerBoot : WorkerBootId} {e : Error}
    (h : registerPublisher registry publisher scope workerBoot = (registry', .error e)) :
    registry' = registry := by
  unfold registerPublisher at h
  split at h
  · cases h; rfl
  · split at h
    · cases h; rfl
    · split at h
      · cases h; rfl
      · dsimp only at h
        split at h
        · cases h; rfl
        · split at h
          · cases h; rfl
          · cases h

/-- Whether it registers or not. -/
theorem register_acts (worker : Nat) (publisher : PublisherId) (scope : AuthorityScopeId)
    (workerBoot : WorkerBootId) :
    Within (Acts worker) (register worker publisher scope workerBoot) := by
  refine within_update fun s => ?_
  split
  · rename_i registry e hFailed
    rw [registerPublisher_failed hFailed]
    exact .chats .reads
  · rename_i registry registration hRegistered
    exact .registers hRegistered

theorem helloAck_acts (worker : Nat) (payload : Outcome HelloPayload) :
    Within (Acts worker) (helloAck worker payload) := by
  have hEpoch : Within (Acts worker) currentEpoch :=
    within_mono (fun _ _ => .chats) (currentEpoch_within worker)
  unfold helloAck
  split
  · trivial
  · rename_i hello
    refine within_bind (within_mono (fun _ _ => .chats) (staleHello_within worker hello))
      fun stale => ?_
    split
    · exact within_bind hEpoch fun _ => trivial
    · refine within_bind (register_acts _ _ _ _) fun registered => ?_
      split
      · exact within_bind hEpoch fun _ => trivial
      · trivial

theorem completeHandshake_acts (worker : Nat) (hello : HelloPayload) :
    Within (Acts worker) (completeHandshake worker hello) := by
  refine within_bind (within_update fun s => ?_) fun _ => within_update fun s => .scopes _ _
  dsimp only
  split
  · exact .chats .reads
  · rename_i state hFound
    exact .connects hello hFound

theorem serveHello_acts (worker : Nat) (request : WireFrame) :
    Within (Acts worker) (serveHello worker request) := by
  refine within_bind (helloAck_acts _ _) fun ack => ?_
  split
  · trivial
  · refine within_bind (within_mono (fun _ _ => .greets) (sendFrame_within _ _ _ _)) fun sent => ?_
    split
    · trivial
    · split
      · refine within_bind (within_mono (fun _ _ => .chats) (helloErrorCode_within _ _))
          fun code => ?_
        exact within_bind (within_mono (fun _ _ => .chats) (sendError_within _ _ _)) fun _ => trivial
      · split
        · trivial
        · exact within_bind (completeHandshake_acts _ _) fun _ => trivial

theorem serveFence_acts (worker : Nat) (state : ConnectionState) (request : WireFrame) :
    Within (Acts worker) (serveFence worker state request) := by
  have hError := fun error => within_mono (fun _ _ => Acts.chats)
    (sendError_within worker request.requestId error)
  unfold serveFence
  split
  · exact hError _
  · refine within_bind (within_update fun s => .chats .reads) fun allowed => ?_
    split
    · exact hError _
    · refine within_bind (within_update fun s => .fences _ _) fun fenced => ?_
      split
      · exact hError _
      · refine within_bind (within_update fun s => .forgets _) fun _ => ?_
        exact within_mono (fun _ _ => .acknowledges) (sendFrame_within _ _ _ _)

theorem fenceLost_acts (worker : Nat) (locals : ServeLocals) :
    Within (Acts worker) (fenceLost worker locals) := by
  unfold fenceLost
  split
  · exact within_bind (within_update fun s => .loses _ _) fun _ =>
      within_update fun s => .forgets _
  · exact within_update fun s => .closes

theorem callRegistry_acts (worker : Nat) (operation : Operation) :
    Within (Acts worker) (callRegistry worker operation) := by
  unfold callRegistry
  split
  · exact within_bind (register_acts _ _ _ _) fun _ => trivial
  · exact within_update fun s => .calls _

theorem Sends.onlyOwn {worker : Nat} {type : WireMessageType} {requestId : UInt64}
    {payload : Bytes} {s t : Coordinator} (h : Sends worker type requestId payload s t) :
    OnlyOwn worker s t := by
  cases h with
  | sent => exact @onlyOwn_note worker (.sent ..) rfl s
  | lost => exact @onlyOwn_note worker (.lost ..) rfl s

/-- A worker that acts keeps to itself. -/
theorem Acts.onlyOwn {worker : Nat} {s t : Coordinator} (h : Acts worker s t) :
    OnlyOwn worker s t := by
  have hNotes : ∀ {t : Coordinator} (event : Event), event.worker = worker →
      t.log = s.log → t.connections = s.connections → OnlyOwn worker s (t.note event) :=
    fun event hOwn hLog hConnections =>
      (onlyOwn_of_fields hLog hConnections).trans (onlyOwn_note hOwn _)
  cases h with
  | chats h =>
      cases h with
      | reads => exact onlyOwn_refl worker s
      | status h => exact h.onlyOwn
      | error h => exact h.onlyOwn
  | greets h => exact h.onlyOwn
  | acknowledges h => exact h.onlyOwn
  | registers _ => exact hNotes (.registered worker _ _) rfl rfl rfl
  | connects hello hFound => exact onlyOwn_setConnection ..
  | scopes workerBoot scope => exact onlyOwn_of_fields rfl rfl
  | fences workerBoot reason => exact onlyOwn_of_fields rfl rfl
  | forgets workerBoot => exact onlyOwn_of_fields rfl rfl
  | loses workerBoot reason => exact hNotes (.closed worker _) rfl rfl rfl
  | closes => exact hNotes (.closed worker s.registry) rfl rfl rfl
  | erases => exact onlyOwn_erase s worker
  | calls operation => exact onlyOwn_of_fields rfl rfl

/-- A worker begins. -/
theorem Starts.onlyOwn {options : CoordinatorOptions} {worker : Nat} {role : Role}
    {s t : Coordinator} (h : Starts options worker role s t) : OnlyOwn worker s t := by
  have hCount : OnlyOwn worker s { s with workers := s.workers + 1 } :=
    onlyOwn_of_fields rfl rfl
  cases h with
  | accept _ _ => exact hCount.trans (onlyOwn_setConnection ..)
  | persist _ => exact hCount
  | call operation _ => exact hCount

/-! ## Quiet changes -/

/-- What a worker does to the state in the turn of a `Publish`. -/
inductive Publishes (worker : Nat) (s : Coordinator) : Coordinator → Prop
  | saves {t : Coordinator} (saves : Saves worker s t) : Publishes worker s t
  | refuses (payload : Bytes) (result : PublicationResult) :
      Publishes worker s (s.note (.handled worker payload result))
  | publishes (request : PublicationRequest) (payload : Bytes) (result : PublicationResult) :
      Publishes worker s
        ({ s with registry := (publish s.registry request).1 }.note
          (.handled worker payload result))
  | remembers {state : ConnectionState} (requestId : UInt64) (response : Bytes)
      (found : s.connection worker = some state) :
      Publishes worker s (s.setConnection worker (state.remember requestId response))
  | acks {requestId : UInt64} {payload : Bytes} {t : Coordinator}
      (sends : Sends worker .publishAck requestId payload s t) : Publishes worker s t

/-- The result that an outcome is answered with. -/
def answerOf (request : PublicationRequest) : Outcome PublicationResult → PublicationResult
  | .ok result => result
  | .error e => failedResult request e

/-- What handling a payload does: it is refused when it is no request or speaks for somebody
else.  Otherwise the event carries what `publish` gives for the request in this state, under
an epoch that was read before, and the registry is the one that `publish` leaves. -/
inductive Handles (worker : Nat) (state : ConnectionState) (payload : Bytes) (s : Coordinator) :
    Coordinator → Prop
  | reads : Handles worker state payload s s
  | unreadable {e : Error} (decodes : decodePublicationRequest payload = .error e) :
      Handles worker state payload s
        (s.note (.handled worker payload (refusedResult e.code e.toText)))
  | foreign {request : PublicationRequest} {message : Bytes}
      (decodes : decodePublicationRequest payload = .ok request)
      (speaks : ¬state.Speaks request) :
      Handles worker state payload s
        (s.note (.handled worker payload (refusedResult .unauthorizedPublisher message)))
  | answers {request : PublicationRequest} {epoch : CoordinatorEpoch} {registry : Registry}
      {outcome : Outcome PublicationResult}
      (decodes : decodePublicationRequest payload = .ok request)
      (speaks : state.Speaks request)
      (publishes : publish s.registry { request with epoch } = (registry, outcome)) :
      Handles worker state payload s
        ({ s with registry }.note (.handled worker payload (answerOf request outcome)))

theorem handlePayload_handles (worker : Nat) (state : ConnectionState) (payload : Bytes) :
    Within (Handles worker state payload) (handlePayload worker state payload) := by
  unfold handlePayload
  split
  · rename_i e hDecodes
    exact within_update fun s => .unreadable hDecodes
  · rename_i request hDecodes
    split
    · rename_i hSpeaks
      refine within_bind (within_update fun s => .reads) fun epoch => within_update fun s => ?_
      dsimp only
      cases hPublish : publish s.registry { request with epoch } with
      | mk registry outcome => cases outcome <;> exact .answers hDecodes hSpeaks hPublish
    · rename_i hSpeaks
      exact within_update fun s => .foreign hDecodes hSpeaks

theorem handlePayload_within (worker : Nat) (state : ConnectionState) (payload : Bytes) :
    Within (Publishes worker) (handlePayload worker state payload) := by
  refine within_mono (fun s t h => ?_) (handlePayload_handles worker state payload)
  cases h with
  | reads => exact .saves .reads
  | unreadable decodes => exact .refuses _ _
  | foreign decodes speaks => exact .refuses _ _
  | @answers request epoch registry outcome decodes speaks publishes =>
      obtain rfl : (publish s.registry { request with epoch }).1 = registry :=
        congrArg Prod.fst publishes
      exact .publishes _ _ _

theorem servePublish_within (options : CoordinatorOptions) (worker : Nat)
    (state : ConnectionState) (request : WireFrame) :
    Within (Publishes worker) (servePublish options worker state request) := by
  have hSend := fun response => within_mono (fun _ _ => Publishes.acks)
    (sendFrame_within worker .publishAck request.requestId response)
  unfold servePublish
  split
  · exact hSend _
  · refine within_bind (handlePayload_within _ _ _) fun result => ?_
    split
    · trivial
    · refine within_bind (within_update fun s => ?_) fun _ => ?_
      · dsimp only
        split
        · exact .saves .reads
        · rename_i state hFound
          exact .remembers _ _ hFound
      · exact within_bind (within_mono (fun _ _ => .saves) (persistMutation_within _ _))
          fun _ => hSend _

/-- Nobody is registered or gone. -/
def Event.Quiet : Event → Prop
  | registered .. | closed .. => False
  | _ => True

/-- The change is no matter of registrations, scopes and fences. -/
structure Quiet (worker : Nat) (s t : Coordinator) : Prop where
  log : ∃ new, t.log = new ++ s.log ∧ ∀ event ∈ new, event.worker = worker ∧ event.Quiet
  others : ∀ other, other ≠ worker → t.connection other = s.connection other
  scope : (t.connection worker).map ConnectionState.scope =
    (s.connection worker).map ConnectionState.scope
  workers : t.workers = s.workers
  bootScopes : ∀ held ∈ t.bootScopes, held ∈ s.bootScopes
  fencedBoots : t.registry.fencedBoots = s.registry.fencedBoots

theorem quiet_of_fields {worker : Nat} {s t : Coordinator} (hLog : t.log = s.log)
    (hConnections : t.connections = s.connections)
    (hWorkers : t.workers = s.workers) (hScopes : ∀ held ∈ t.bootScopes, held ∈ s.bootScopes)
    (hFenced : t.registry.fencedBoots = s.registry.fencedBoots) : Quiet worker s t := by
  have hSame : ∀ other, t.connection other = s.connection other := fun other => by
    unfold Coordinator.connection
    rw [hConnections]
  exact ⟨⟨[], hLog, fun _ hMem => absurd hMem List.not_mem_nil⟩, fun other _ => hSame other,
    congrArg _ (hSame worker), hWorkers, hScopes, hFenced⟩

theorem quiet_note {worker : Nat} {event : Event} (hOwn : event.worker = worker)
    (hQuiet : event.Quiet) (s : Coordinator) : Quiet worker s (s.note event) := by
  refine ⟨⟨[event], rfl, fun other hMem => ?_⟩, fun _ _ => rfl, rfl, rfl,
    fun _ hMem => hMem, rfl⟩
  rw [List.mem_singleton] at hMem
  exact hMem ▸ ⟨hOwn, hQuiet⟩

theorem Quiet.trans {worker : Nat} {a b d : Coordinator} (hab : Quiet worker a b)
    (hbd : Quiet worker b d) : Quiet worker a d := by
  obtain ⟨new, hNew, hOwn⟩ := hab.log
  obtain ⟨newer, hNewer, hOwner⟩ := hbd.log
  refine ⟨⟨newer ++ new, ?_, fun event hMem => ?_⟩, fun other hNe => ?_,
    hbd.scope.trans hab.scope, hbd.workers.trans hab.workers, fun held hMem => hab.bootScopes held (hbd.bootScopes held hMem),
    hbd.fencedBoots.trans hab.fencedBoots⟩
  · rw [hNewer, hNew, List.append_assoc]
  · rcases List.mem_append.1 hMem with hLate | hEarly
    · exact hOwner event hLate
    · exact hOwn event hEarly
  · rw [hbd.others other hNe, hab.others other hNe]

theorem Quiet.onlyOwn {worker : Nat} {s t : Coordinator} (h : Quiet worker s t) :
    OnlyOwn worker s t := by
  obtain ⟨new, hNew, hOwn⟩ := h.log
  exact ⟨⟨new, hNew, fun event hMem => (hOwn event hMem).1⟩, h.others⟩

/-- A quiet change registers and fences nobody. -/
theorem Quiet.mem {worker : Nat} {s t : Coordinator} (h : Quiet worker s t) {event : Event}
    (hLoud : ¬ event.Quiet) (hMem : event ∈ t.log) : event ∈ s.log := by
  obtain ⟨new, hNew, hQuiet⟩ := h.log
  rw [hNew] at hMem
  rcases List.mem_append.1 hMem with hLate | hEarly
  · exact absurd (hQuiet event hLate).2 hLoud
  · exact hEarly

theorem Sends.quiet {worker : Nat} {type : WireMessageType} {requestId : UInt64}
    {payload : Bytes} {s t : Coordinator} (h : Sends worker type requestId payload s t) :
    Quiet worker s t := by
  cases h with
  | sent => exact @quiet_note worker (.sent ..) rfl trivial s
  | lost => exact @quiet_note worker (.lost ..) rfl trivial s

theorem Chats.quiet {worker : Nat} {s t : Coordinator} (h : Chats worker s t) :
    Quiet worker s t := by
  cases h with
  | reads => exact quiet_of_fields rfl rfl rfl (fun _ hMem => hMem) rfl
  | status sends => exact sends.quiet
  | error sends => exact sends.quiet

theorem Saves.quiet {worker : Nat} {s t : Coordinator} (h : Saves worker s t) :
    Quiet worker s t := by
  cases h with
  | reads => exact quiet_of_fields rfl rfl rfl (fun _ hMem => hMem) rfl
  | stored file taken registry =>
      have hStored : Quiet worker s { s with store := some file } :=
        quiet_of_fields rfl rfl rfl (fun _ hMem => hMem) rfl
      exact hStored.trans (@quiet_note worker (.stored ..) rfl trivial _)
  | unstored => exact @quiet_note worker (.unstored ..) rfl trivial s

theorem remember_scope (state : ConnectionState) (requestId : UInt64) (response : Bytes) :
    (state.remember requestId response).scope = state.scope := by
  unfold ConnectionState.remember
  dsimp only
  split
  · split <;> rfl
  · rfl

theorem Publishes.quiet {worker : Nat} {s t : Coordinator} (h : Publishes worker s t) :
    Quiet worker s t := by
  cases h with
  | saves saves => exact saves.quiet
  | refuses payload result => exact @quiet_note worker (.handled ..) rfl trivial s
  | publishes request payload result =>
      have hPublished : Quiet worker s { s with registry := (publish s.registry request).1 } :=
        quiet_of_fields rfl rfl rfl (fun _ hMem => hMem) (publish_control ..).fencedBoots
      exact hPublished.trans (@quiet_note worker (.handled ..) rfl trivial _)
  | remembers requestId response hFound =>
      rename_i state
      have hOwn := onlyOwn_setConnection s worker (state.remember requestId response)
      refine ⟨⟨[], rfl, fun _ hMem => absurd hMem List.not_mem_nil⟩, hOwn.connection, ?_, rfl,
        fun _ hMem => hMem, rfl⟩
      rw [connection_setConnection, hFound, Option.map_some, Option.map_some, remember_scope]
  | acks sends => exact sends.quiet

theorem Greets.quiet {worker : Nat} {s t : Coordinator} (h : Greets worker s t) :
    Quiet worker s t := by
  cases h with
  | chats chats => exact chats.quiet
  | acks sends => exact sends.quiet

/-! ## Hello -/

/-- The only ack that accepts can be encoded. -/
theorem encodeHelloAck_registered (epoch : CoordinatorEpoch)
    (registryGeneration : RegistryGeneration) :
    ∃ encoded, encodeHelloAck
      { accepted := true, epoch, registryGeneration, message := txt "registered" } =
        .ok encoded :=
  ⟨_, rfl⟩

/-- Rules for `Hello`: `T` are the facts before and behind a refusal, `A` those of a
registration, `B` those of one whose ack was sent, and `E` those behind the handshake. -/
structure HelloRules (c : Contract Coordinator Nat) (worker : Nat) (T : Coordinator → Prop)
    (A B : HelloPayload → Coordinator → Prop) (E : WorkerBootId → Coordinator → Prop) :
    Prop where
  stable : Stable c worker T
  greets : ∀ s t, c.inv s → T s → c.ok s t → Greets worker s t → c.does worker s t ∧ T t
  admitted : ∀ hello, Stable c worker (A hello)
  registers : ∀ (hello : HelloPayload) s registry registration, c.inv s → T s →
    registerPublisher s.registry hello.publisher hello.scope hello.workerBoot =
      (registry, .ok registration) →
    c.ok s ({ s with registry }.note (.registered worker hello.scope hello.workerBoot)) →
      c.does worker s
        ({ s with registry }.note (.registered worker hello.scope hello.workerBoot)) ∧
      A hello ({ s with registry }.note (.registered worker hello.scope hello.workerBoot))
  sends : ∀ hello requestId payload,
    Valid c worker (fun sent s => if sent = true then B hello s else T s)
      (sendFrame worker .helloAck requestId payload) (A hello)
  completes : ∀ hello,
    Valid c worker (fun _ => E hello.workerBoot) (completeHandshake worker hello) (B hello)

namespace HelloRules

variable {c : Contract Coordinator Nat} {worker : Nat} {T : Coordinator → Prop}
  {A B : HelloPayload → Coordinator → Prop} {E : WorkerBootId → Coordinator → Prop}

theorem greeting (h : HelloRules c worker T A B E) {α : Type} {task : Work α}
    (hGreets : Within (Greets worker) task) : Valid c worker (fun _ => T) task T :=
  valid_of_within hGreets h.stable h.greets

/-- An ack that accepts is that of a registration. -/
theorem ack (h : HelloRules c worker T A B E) (payload : Outcome HelloPayload) :
    Valid c worker
      (fun ack s =>
        if ack.accepted = true then
          ∃ hello, payload = .ok hello ∧ A hello s ∧ ∃ encoded, encodeHelloAck ack = .ok encoded
        else T s)
      (helloAck worker payload) T := by
  have hEpoch : Valid c worker (fun _ => T) currentEpoch T :=
    h.greeting (within_mono (fun _ _ => Greets.chats) (currentEpoch_within worker))
  unfold helloAck
  split
  · exact valid_pure fun _ _ hT => hT
  · rename_i hello
    have hStale : Valid c worker (fun _ => T) (staleHello hello) T :=
      h.greeting (within_mono (fun _ _ => Greets.chats) (staleHello_within worker hello))
    refine valid_bind hStale fun stale => ?_
    split
    · exact valid_bind hEpoch fun _ => valid_pure fun _ _ hT => hT
    · refine @valid_bind _ _ _ _ _ _ _ _
        (fun registered s => match registered with | .ok _ => A hello s | .error _ => T s) _ _ _
        (valid_update ?_ fun s hInv hT hOk => ?_) fun registered => ?_
      · intro registered
        cases registered with
        | ok _ => exact h.admitted hello
        | error _ => exact h.stable
      · revert hOk
        split
        · rename_i registry e hFailed
          rw [registerPublisher_failed hFailed]
          exact fun _ => ⟨c.still worker s, hT⟩
        · rename_i registry registration hRegistered
          exact fun hOk => h.registers hello s registry registration hInv hT hRegistered hOk
      · cases registered with
        | error e => exact valid_bind hEpoch fun _ => valid_pure fun _ _ hT => hT
        | ok registration =>
            refine valid_pure fun s _ hA => ?_
            exact ⟨hello, rfl, hA, encodeHelloAck_registered _ _⟩

/-- The frame `Hello`. -/
theorem valid (h : HelloRules c worker T A B E) (request : WireFrame) :
    Valid c worker
      (fun boot s =>
        match boot with
        | some boot => E boot s
        | none => T s)
      (serveHello worker request) T := by
  refine valid_bind (h.ack _) fun ack => ?_
  by_cases hAccepted : ack.accepted = true
  · simp only [hAccepted, if_true, Bool.not_true, Bool.false_eq_true, if_false]
    refine valid_given (p := ∃ hello, decodeHello request.payload = .ok hello ∧
      ∃ encoded, encodeHelloAck ack = .ok encoded) ?_ fun hDecoded => ?_
    · rintro s - ⟨hello, hDecoded, -, hEncoded⟩
      exact ⟨hello, hDecoded, hEncoded⟩
    · obtain ⟨hello, hDecoded, encoded, hEncoded⟩ := hDecoded
      rw [hDecoded, hEncoded]
      refine valid_bind (valid_weaken (h.sends hello request.requestId encoded) ?_) fun sent => ?_
      · rintro s - ⟨other, hSame, hA, -⟩
        cases hSame
        exact hA
      · cases sent with
        | false => exact valid_pure fun _ _ hT => hT
        | true => exact valid_bind (h.completes hello) fun _ => valid_pure fun _ _ hE => hE
  · simp only [hAccepted]
    split
    · exact valid_pure fun _ _ hT => hT
    · refine valid_bind (h.greeting (within_mono (fun _ _ => Greets.acks)
        (sendFrame_within _ _ _ _))) fun sent => ?_
      split
      · exact valid_pure fun _ _ hT => hT
      · refine valid_bind (h.greeting (within_mono (fun _ _ => Greets.chats)
          (helloErrorCode_within _ _))) fun code => ?_
        exact valid_bind (h.greeting (within_mono (fun _ _ => Greets.chats)
          (sendError_within _ _ _))) fun _ => valid_pure fun _ _ hT => hT

end HelloRules

/-! ## Turns -/

/-- Rules for the parts of a turn: `E` are the facts between the frames, `R` those behind a
frame that was received, `T` those before the teardown, and `O` those of the other workers. -/
structure ServeRules (options : CoordinatorOptions) (c : Contract Coordinator Nat)
    (O : Nat → Coordinator → Prop) (E T : Nat → ServeLocals → Coordinator → Prop)
    (R : Nat → ServeLocals → WireFrame → Coordinator → Prop) : Prop where
  stable : ∀ worker locals, Stable c worker (E worker locals)
  aside : ∀ worker, Stable c worker (O worker)
  ends : ∀ worker locals s, c.inv s → E worker locals s → T worker locals s
  receives : ∀ worker locals request,
    Valid c worker (fun _ => R worker locals request)
      (Task.modify (Coordinator.note (.received worker request)) : Work Unit)
      (E worker locals)
  leaves : ∀ worker locals request s, c.inv s → R worker locals request s → T worker locals s
  reads : ∀ worker locals request state,
    Stable c worker fun s => R worker locals request s ∧ s.connection worker = state
  hello : ∀ worker locals request, request.type = .hello →
    Valid c worker
      (fun boot s =>
        match boot with
        | some boot => E worker { boot, handshakeDone := true } s
        | none => T worker locals s)
      (serveHello worker request) (R worker locals request)
  frame : ∀ worker locals request (state : ConnectionState), state.handshakeDone = true →
    Valid c worker
      (fun goesOn s => if goesOn = true then E worker locals s else T worker locals s)
      (serveFrame options worker state request)
      (fun s => R worker locals request s ∧ s.connection worker = some state)
  lost : ∀ worker locals,
    Valid c worker (fun _ _ => True) (fenceLost worker locals) (T worker locals)
  erases : ∀ worker, Valid c worker (fun _ _ => True) (Task.modify fun s =>
    { s with connections := s.connections.filter fun held => held.1 ≠ worker } : Work Unit)
    fun _ => True
  persist : ∀ worker, Valid c worker (fun _ _ => True) (saveStore worker) (O worker)
  call : ∀ worker operation,
    Valid c worker (fun _ _ => True) (callRegistry worker operation) (O worker)
  accepts : ∀ worker s t, c.inv s → Starts options worker (.serving {}) s t → c.ok s t →
    c.does worker s t ∧ E worker {} t
  begins : ∀ worker s, c.inv s → worker = s.workers →
    c.ok s { s with workers := s.workers + 1 } →
      c.does worker s { s with workers := s.workers + 1 } ∧
        O worker { s with workers := s.workers + 1 }

/-- The facts at the beginning of a round. -/
def RoundFacts (O : Nat → Coordinator → Prop) (E : Nat → ServeLocals → Coordinator → Prop)
    (worker : Nat) : Role → Coordinator → Prop
  | .serving locals, s => E worker locals s
  | _, s => O worker s

namespace ServeRules

variable {options : CoordinatorOptions} {c : Contract Coordinator Nat}
  {O : Nat → Coordinator → Prop} {E T : Nat → ServeLocals → Coordinator → Prop}
  {R : Nat → ServeLocals → WireFrame → Coordinator → Prop}

theorem teardown_ends (h : ServeRules options c O E T R) (worker : Nat) (locals : ServeLocals) :
    Valid c worker (fun next s => ∀ role, next = some role → RoundFacts O E worker role s)
      (teardown worker locals) (T worker locals) := by
  refine valid_bind (h.lost worker locals) fun _ => valid_bind (h.erases worker) fun _ => ?_
  exact valid_pure fun s _ _ role hNext => by cases hNext

theorem turn (h : ServeRules options c O E T R) (worker : Nat) (locals : ServeLocals) :
    Valid c worker (fun next s => ∀ role, next = some role → RoundFacts O E worker role s)
      (serveTurn options worker locals) (E worker locals) := by
  have hEnds := h.teardown_ends worker locals
  refine valid_input fun frame => ?_
  cases frame with
  | error e => exact valid_weaken hEnds (h.ends worker locals)
  | ok request =>
      refine valid_bind (h.receives worker locals request) fun _ => ?_
      have hLeaves := valid_weaken hEnds (h.leaves worker locals request)
      split
      · exact hLeaves
      · split
        · rename_i hHello
          refine valid_bind (h.hello worker locals request hHello) fun boot => ?_
          cases boot with
          | none => exact hEnds
          | some boot =>
              refine valid_pure fun s _ hE role hRole => ?_
              cases hRole
              exact hE
        · refine @valid_bind _ _ _ _ _ _ _ _
            (fun state s => R worker locals request s ∧ s.connection worker = state) _ _ _
            (valid_read (h.reads worker locals request) fun s _ hR => ⟨hR, rfl⟩) fun state => ?_
          have hGone := valid_weaken hLeaves fun s (_ : c.inv s)
            (hR : R worker locals request s ∧ s.connection worker = state) => hR.1
          cases state with
          | none => exact hGone
          | some state =>
              dsimp only
              split
              · exact hGone
              · rename_i hDone
                simp only [Bool.or_eq_true, Bool.not_eq_true', not_or, Bool.not_eq_false] at hDone
                refine valid_bind (h.frame worker locals request state hDone.2) fun goesOn => ?_
                cases goesOn with
                | true =>
                    refine valid_pure fun s _ hE role hRole => ?_
                    cases hRole
                    exact hE
                | false => exact hEnds

/-- The rounds of all workers are valid. -/
theorem proved (h : ServeRules options c O E T R) :
    Proved (workerRound options) (Starts options) c (RoundFacts O E) where
  stable worker role := by
    cases role with
    | serving locals => exact h.stable worker locals
    | _ => exact h.aside worker
  valid worker role := by
    cases role with
    | serving locals => exact h.turn worker locals
    | persisting =>
        refine valid_bind (h.persist worker) fun _ => valid_pure fun s _ _ role hRole => ?_
        cases hRole
    | calling operation =>
        refine valid_bind (h.call worker operation) fun _ =>
          valid_pure fun s _ _ role hRole => ?_
        cases hRole
  starts worker role s t hInv hStarts hOk := by
    cases hStarts with
    | accept hFresh hRoom => exact h.accepts worker s _ hInv (.accept hFresh hRoom) hOk
    | persist hFresh => exact h.begins worker s hInv hFresh hOk
    | call operation hFresh => exact h.begins worker s hInv hFresh hOk

end ServeRules

/-! ## Starts and schedules -/

/-- `Start` leaves no connection and no scope. -/
theorem startCoordinator_fresh {options : CoordinatorOptions} {file : Option Bytes}
    {written : Bool} {s : Coordinator} (h : startCoordinator options file written = .ok s) :
    s.log = [] ∧ s.connections = [] ∧ s.bootScopes = [] := by
  obtain ⟨registry, -, hAdvanced⟩ := outcome_bind_eq_ok.1 h
  unfold advanceOnStart at hAdvanced
  split at hAdvanced
  · split at hAdvanced
    · cases hAdvanced
    · split at hAdvanced
      · split at hAdvanced
        · cases hAdvanced
        · cases hAdvanced
        · cases hAdvanced
          exact ⟨rfl, rfl, rfl⟩
      · cases hAdvanced
        exact ⟨rfl, rfl, rfl⟩
  · cases hAdvanced
    exact ⟨rfl, rfl, rfl⟩

/-- How a worker begins, as a function. -/
def begins (options : CoordinatorOptions) (worker : Nat) (role : Role) (s : Coordinator) :
    Option Coordinator :=
  if worker = s.workers then
    match role with
    | .serving ⟨.unset, false⟩ =>
        if s.connections.length < options.maxConnections then
          some ({ s with workers := s.workers + 1 }.setConnection worker {})
        else none
    | .serving _ => none
    | _ => some { s with workers := s.workers + 1 }
  else none

theorem begins_starts {options : CoordinatorOptions} {worker : Nat} {role : Role}
    {s t : Coordinator} (h : begins options worker role s = some t) :
    Starts options worker role s t := by
  unfold begins at h
  split at h
  · rename_i hFresh
    split at h
    · split at h
      · rename_i hRoom
        cases h
        exact .accept hFresh hRoom
      · cases h
    · cases h
    · cases role with
      | serving locals => rename_i hNo; exact absurd rfl (hNo locals)
      | persisting => cases h; exact .persist hFresh
      | calling operation => cases h; exact .call operation hFresh
  · cases h

namespace Sample

abbrev CoordinatorMove : Type := Move (Outcome WireFrame) Role Nat

/-- The state that `Start` leaves. -/
def started (options : CoordinatorOptions) (file : Option Bytes) : Coordinator :=
  (startCoordinator options file true).toOption.getD { registry := .init {} }

theorem started_ok {options : CoordinatorOptions} {file : Option Bytes}
    (h : (startCoordinator options file true).toOption.isSome = true) :
    startCoordinator options file true = .ok (started options file) := by
  unfold started
  cases hStart : startCoordinator options file true with
  | error e =>
      rw [hStart] at h
      cases h
  | ok s => rfl

/-- A schedule of the coordinator. -/
theorem exists_scheduled (options : CoordinatorOptions) (file : Option Bytes)
    (allowed : Coordinator → Coordinator → Bool) {ok : Coordinator → Coordinator → Prop}
    (hAllowed : ∀ s t, allowed s t = true → ok s t) (moves : List CoordinatorMove)
    (p : Coordinator → Bool)
    (h : (((serving (started options file)).play (workerRound options) (begins options)
      allowed moves).any fun b => p b.shared) = true) :
    ∃ b, Reaches (workerRound options) (Starts options) ok (serving (started options file)) b ∧
      p b.shared = true :=
  exists_played (fun _ _ _ _ => begins_starts) hAllowed h

theorem exists_scheduled_step (options : CoordinatorOptions) (file : Option Bytes)
    (allowed : Coordinator → Coordinator → Bool) {ok : Coordinator → Coordinator → Prop}
    (hAllowed : ∀ s t, allowed s t = true → ok s t) (moves : List CoordinatorMove)
    (last : CoordinatorMove) (p : Coordinator → Coordinator → Bool)
    (h : (((serving (started options file)).play (workerRound options) (begins options)
      allowed moves).any fun b => (b.move (workerRound options) (begins options) last).any
        fun d => p b.shared d.shared) = true) :
    ∃ b d, Reaches (workerRound options) (Starts options) ok (serving (started options file)) b ∧
      Step (workerRound options) (Starts options) b last.worker d ∧
      p b.shared d.shared = true :=
  exists_played_step (fun _ _ _ _ => begins_starts) hAllowed h

/-- The grant is declared in process, and connections come after it. -/
def declared : List CoordinatorMove :=
  [.start 0 (.calling (.declareAuthority grant)), .turn 0, .turn 0]

def turns (worker count : Nat) : List CoordinatorMove := List.replicate count (.turn worker)

/-- A `Hello` that is accepted. -/
def hello (worker : Nat) (boot : WorkerBootId) (claimed : AuthorityScopeId) :
    List CoordinatorMove :=
  let payload := orNothing (encodeHello
    { publisher := publisher, scope := claimed, source := source, workerBoot := boot
      epoch := 0, namespaces := [] })
  [.receive worker (.ok { type := .hello, requestId := 7, payload })] ++ turns worker 2 ++
    [.choose worker true] ++ turns worker 4

/-- A `Publish` that comes in. -/
def publishing (worker : Nat) (requestId : UInt64) (payload : Bytes) : List CoordinatorMove :=
  .receive worker (.ok { type := .publish, requestId, payload }) :: turns worker 2

/-- The frame at hand is sent, and the round ends. -/
def answering (worker : Nat) : List CoordinatorMove := .choose worker true :: turns worker 2

/-- The payload of a publication of one claim. -/
def payload (boot : WorkerBootId) (attempt : String) (expected : CapabilitySetGeneration)
    (state : CapabilityState) : Bytes :=
  orNothing (encodePublicationRequest
    (publication boot attempt 1 expected (claim state .durable)))

end Sample

end FabricCapability.Ports
