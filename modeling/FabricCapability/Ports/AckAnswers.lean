import FabricCapability.Ports.CoordinatorRules

/-!
# What an ack answers

An answer is cached under the request identifier of its frame, and a frame with a cached
identifier is answered from the cache, whatever its payload is.  So an ack carries the
result of the payload it is sent for as long as a client that uses an identifier again, while
its answer is cached, repeats the payload.  What handling a payload gives is in
`CoordinatorRules`: `handlePayload_handles` ties the handled event to `publish`.

## Main results

* `acks_answer`: every run of the coordinator in which reused identifiers agree.
* `reused_identifier_misanswered`: a client that reuses an identifier for another payload.
-/

namespace FabricCapability.Ports

open FabricCapability.Verified.KeyedList
open FabricCapability.Verified.Workers

/-! ## Frames and answers -/

def Event.frame : Event → Option WireFrame
  | received _ frame => some frame
  | _ => none

/-- The frames that a connection has received, the latest first. -/
def framesOf (worker : Nat) (log : List Event) : List WireFrame :=
  (ownEvents worker log).filterMap Event.frame

/-- The latest `Publish` with the identifier. -/
def lastPublish (worker : Nat) (requestId : UInt64) (log : List Event) : Option WireFrame :=
  (framesOf worker log).find? fun frame =>
    frame.type == .publish && frame.requestId == requestId

/-- The payload was handled before, with this answer. -/
def Answers (worker : Nat) (payload response : Bytes) (past : List Event) : Prop :=
  ∃ result, .handled worker payload result ∈ past ∧
    encodePublicationResult result = .ok response

/-- Each ack was sent for the latest frame of its connection, and carries the result of
handling the payload of that frame, now or for an earlier frame of the connection. -/
def AcksAnswer (log : List Event) : Prop :=
  ∀ worker requestId response past,
    Event.sent worker .publishAck requestId response :: past <:+ log →
      ∃ frame, (framesOf worker past).head? = some frame ∧ frame.type = .publish ∧
        frame.requestId = requestId ∧ Answers worker frame.payload response past

/-- A `Publish` whose identifier is cached carries the payload of the latest `Publish` that
carried the identifier. -/
def ReusesAgree (s t : Coordinator) : Prop :=
  ∀ worker frame state earlier, t.log = .received worker frame :: s.log →
    frame.type = .publish → s.connection worker = some state →
      (lookup Prod.fst frame.requestId state.replay).isSome = true →
        lastPublish worker frame.requestId s.log = some earlier →
          earlier.payload = frame.payload

/-- The acks answer, and the cached answers are those of the latest frames that carried
their identifiers. -/
structure AnswersTrue (s : Coordinator) : Prop where
  acks : AcksAnswer s.log
  cache : ∀ worker state, s.connection worker = some state → ∀ held ∈ state.replay,
    ∃ frame, lastPublish worker held.1 s.log = some frame ∧
      Answers worker frame.payload held.2 s.log

/-- The event is neither a frame nor an ack of a `Publish`. -/
def Event.Beside (event : Event) : Prop :=
  event.frame = none ∧ ∀ worker requestId response,
    event ≠ .sent worker .publishAck requestId response

theorem framesOf_note (s : Coordinator) (worker : Nat) {event : Event}
    (h : event.frame = none) :
    framesOf worker (s.note event).log = framesOf worker s.log := by
  unfold framesOf
  rw [ownEvents_note]
  split
  · rw [List.filterMap_cons, h]
  · rfl

theorem Answers.note {worker : Nat} {payload response : Bytes} {s : Coordinator}
    (h : Answers worker payload response s.log) (event : Event) :
    Answers worker payload response (s.note event).log := by
  obtain ⟨result, hMem, hEncoded⟩ := h
  exact ⟨result, List.mem_cons_of_mem _ hMem, hEncoded⟩

theorem acksAnswer_cons {event : Event} {past : List Event} (hPast : AcksAnswer past)
    (h : ∀ worker requestId response, event = .sent worker .publishAck requestId response →
      ∃ frame, (framesOf worker past).head? = some frame ∧ frame.type = .publish ∧
        frame.requestId = requestId ∧ Answers worker frame.payload response past) :
    AcksAnswer (event :: past) := by
  intro worker requestId response earlier hSuffix
  rcases List.suffix_cons_iff.1 hSuffix with hHere | hBefore
  · obtain ⟨rfl, rfl⟩ := List.cons_eq_cons.1 hHere
    exact h worker requestId response rfl
  · exact hPast worker requestId response earlier hBefore

/-- An event beside leaves everything as it is. -/
theorem AnswersTrue.note {s : Coordinator} (h : AnswersTrue s) {event : Event}
    (hBeside : event.Beside) : AnswersTrue (s.note event) := by
  refine ⟨acksAnswer_cons h.acks fun worker requestId response hAck =>
    absurd hAck (hBeside.2 worker requestId response), fun worker state hFound held hMem => ?_⟩
  obtain ⟨frame, hLast, hAnswers⟩ := h.cache worker state hFound held hMem
  refine ⟨frame, ?_, hAnswers.note event⟩
  unfold lastPublish at hLast ⊢
  rw [framesOf_note s worker hBeside.1]
  exact hLast

theorem AnswersTrue.of_fields {s t : Coordinator} (h : AnswersTrue s) (hLog : t.log = s.log)
    (hConnections : ∀ worker state, t.connection worker = some state → ∃ before,
      s.connection worker = some before ∧ ∀ held ∈ state.replay, held ∈ before.replay) :
    AnswersTrue t := by
  refine ⟨hLog ▸ h.acks, fun worker state hFound held hMem => ?_⟩
  obtain ⟨before, hBefore, hSub⟩ := hConnections worker state hFound
  rw [hLog]
  exact h.cache worker before hBefore held (hSub held hMem)

/-- A connection takes a state whose answers were cached before or answer the latest frame
with their identifiers. -/
theorem AnswersTrue.setConnection {s : Coordinator} (h : AnswersTrue s) (worker : Nat)
    {state : ConnectionState}
    (hState : ∀ held ∈ state.replay, ∃ frame, lastPublish worker held.1 s.log = some frame ∧
      Answers worker frame.payload held.2 s.log) : AnswersTrue (s.setConnection worker state) := by
  refine ⟨h.acks, fun other held hFound => ?_⟩
  by_cases hOwn : other = worker
  · subst hOwn
    rw [connection_setConnection, Option.some.injEq] at hFound
    rw [← hFound]
    exact hState
  · rw [(onlyOwn_setConnection s worker state).connection other hOwn] at hFound
    exact h.cache other held hFound

theorem Sends.answers {worker : Nat} {type : WireMessageType} {requestId : UInt64}
    {payload : Bytes} {s t : Coordinator} (hSends : Sends worker type requestId payload s t)
    (hType : type ≠ .publishAck) (h : AnswersTrue s) : AnswersTrue t := by
  cases hSends with
  | sent =>
      refine h.note ⟨rfl, fun other otherId response hAck => ?_⟩
      cases hAck
      exact hType rfl
  | lost => exact h.note ⟨rfl, fun _ _ _ => nofun⟩

theorem Saves.answers {worker : Nat} {s t : Coordinator} (hSaves : Saves worker s t)
    (h : AnswersTrue s) : AnswersTrue t := by
  cases hSaves with
  | reads => exact h
  | stored file taken registry =>
      have hStored : AnswersTrue { s with store := some file } :=
        h.of_fields rfl fun _ state hFound => ⟨state, hFound, fun _ hMem => hMem⟩
      exact hStored.note ⟨rfl, fun _ _ _ => nofun⟩
  | unstored => exact h.note ⟨rfl, fun _ _ _ => nofun⟩

/-- Everything but publishing and saving is beside. -/
theorem Acts.answers {worker : Nat} {s t : Coordinator} (hActs : Acts worker s t)
    (h : AnswersTrue s) : AnswersTrue t := by
  have hFields : ∀ {t : Coordinator}, t.log = s.log → t.connections = s.connections →
      AnswersTrue t := by
    intro t hLog hConnections
    refine h.of_fields hLog fun other state hFound => ⟨state, ?_, fun _ hMem => hMem⟩
    unfold Coordinator.connection at hFound ⊢
    rwa [hConnections] at hFound
  cases hActs with
  | chats hChats =>
      cases hChats with
      | reads => exact h
      | status hSends => exact hSends.answers nofun h
      | error hSends => exact hSends.answers nofun h
  | greets hSends => exact hSends.answers nofun h
  | acknowledges hSends => exact hSends.answers nofun h
  | registers hRegisters =>
      rename_i registry registration
      have hRegistered : AnswersTrue { s with registry } := hFields rfl rfl
      exact hRegistered.note ⟨rfl, fun _ _ _ => nofun⟩
  | connects hello hFound =>
      rename_i state
      have hCached := h.cache worker state hFound
      exact h.setConnection worker hCached
  | scopes workerBoot scope => exact hFields rfl rfl
  | fences workerBoot reason => exact hFields rfl rfl
  | forgets workerBoot => exact hFields rfl rfl
  | loses workerBoot reason =>
      have hFenced : AnswersTrue
          { s with registry := (fenceWorkerBoot s.registry workerBoot reason).1 } :=
        hFields rfl rfl
      exact hFenced.note ⟨rfl, fun _ _ _ => nofun⟩
  | closes => exact h.note ⟨rfl, fun _ _ _ => nofun⟩
  | erases =>
      refine h.of_fields rfl fun other state hFound => ⟨state, ?_, fun _ hMem => hMem⟩
      rw [connection_erase] at hFound
      split at hFound
      · cases hFound
      · exact hFound
  | calls operation => exact hFields rfl rfl

/-! ## The frame of the turn -/

def ackContract : Contract Coordinator Nat := ownContract ReusesAgree AnswersTrue

theorem ackContract_own : KeepsToOwn ackContract := ownContract_own _ _

/-- The latest frame of the connection. -/
def Serves (worker : Nat) (_ : ServeLocals) (request : WireFrame) (s : Coordinator) : Prop :=
  (framesOf worker s.log).head? = some request

theorem serves_stable (worker : Nat) (locals : ServeLocals) (request : WireFrame) :
    Stable ackContract worker (Serves worker locals request) :=
  stable_ownEvents ackContract_own fun events => (events.filterMap Event.frame).head? = some request

theorem acts_valid {α : Type} {worker : Nat} {task : Work α} (h : Within (Acts worker) task) :
    Valid ackContract worker (fun _ _ => True) task fun _ => True :=
  valid_of_within h (stable_const True) fun _ _ _ _ _ hActs =>
    ⟨⟨hActs.onlyOwn, fun hTrue _ => hActs.answers hTrue⟩, trivial⟩

/-- A frame is received: when its identifier is cached, its payload is the one that was
answered. -/
theorem received_answers {worker : Nat} {request : WireFrame} {s : Coordinator}
    (h : AnswersTrue s) (hAgree : ReusesAgree s (s.note (.received worker request))) :
    AnswersTrue (s.note (.received worker request)) := by
  refine ⟨acksAnswer_cons h.acks fun _ _ _ => nofun, fun other state hFound held hMem => ?_⟩
  obtain ⟨frame, hLast, hAnswers⟩ := h.cache other state hFound held hMem
  have hFrames : framesOf other (s.note (.received worker request)).log =
      if worker = other then request :: framesOf other s.log else framesOf other s.log := by
    unfold framesOf
    rw [ownEvents_note]
    show List.filterMap _ (if worker = other then _ else _) = _
    split <;> rfl
  by_cases hHere : worker = other ∧ request.type = .publish ∧ request.requestId = held.1
  · obtain ⟨rfl, hType, hId⟩ := hHere
    refine ⟨request, ?_, ?_⟩
    · unfold lastPublish
      rw [hFrames, if_pos rfl, List.find?_cons_of_pos]
      rw [hType, hId, beq_self_eq_true, beq_self_eq_true]
      rfl
    · have hCached : (lookup Prod.fst request.requestId state.replay).isSome = true := by
        rw [lookup_isSome, hId]
        exact List.mem_map_of_mem hMem
      have hSame : frame.payload = request.payload :=
        hAgree worker request state frame rfl hType hFound hCached (hId ▸ hLast)
      rw [← hSame]
      exact hAnswers.note _
  · refine ⟨frame, ?_, hAnswers.note _⟩
    unfold lastPublish at hLast ⊢
    rw [hFrames]
    split
    · rename_i hOwn
      rw [List.find?_cons_of_neg]
      · exact hLast
      · simp only [Bool.and_eq_true, beq_iff_eq]
        exact fun hBoth => hHere ⟨hOwn, hBoth⟩
    · exact hLast

theorem answers_stable (worker : Nat) (payload response : Bytes) :
    Stable ackContract worker fun s => Answers worker payload response s.log := by
  intro other _ s t _ hAnswers _ hDoes
  obtain ⟨result, hMem, hEncoded⟩ := hAnswers
  obtain ⟨new, hNew, -⟩ := hDoes.1.log
  exact ⟨result, hNew ▸ List.mem_append_right _ hMem, hEncoded⟩

theorem Serves.note {worker : Nat} {locals : ServeLocals} {request : WireFrame}
    {s : Coordinator} (h : Serves worker locals request s) {event : Event}
    (hFrame : event.frame = none) : Serves worker locals request (s.note event) := by
  unfold Serves
  rw [framesOf_note s worker hFrame]
  exact h

/-- The ack of the latest frame, with an answer to its payload. -/
theorem sendAck_valid (worker : Nat) (locals : ServeLocals) {request : WireFrame}
    (hType : request.type = .publish) (response : Bytes) :
    Valid ackContract worker (fun _ _ => True)
      (sendFrame worker .publishAck request.requestId response)
      fun s => Serves worker locals request s ∧
        Answers worker request.payload response s.log := by
  have hStable := stable_and (serves_stable worker locals request)
    (answers_stable worker request.payload response)
  have hSends := valid_of_within
    (sendFrame_within worker .publishAck request.requestId response) hStable
    fun s t _ hFacts _ hSends => by
      obtain ⟨hServes, hAnswers⟩ := hFacts
      refine ⟨⟨hSends.onlyOwn, fun hTrue _ => ?_⟩, ?_⟩
      · cases hSends with
        | sent =>
            have hAcks : AcksAnswer
                (.sent worker .publishAck request.requestId response :: s.log) := by
              refine acksAnswer_cons hTrue.acks fun other requestId payload hAck => ?_
              cases hAck
              exact ⟨request, hServes, hType, rfl, hAnswers⟩
            refine ⟨hAcks, fun other state hFound held hMem => ?_⟩
            obtain ⟨frame, hLast, hHeld⟩ := hTrue.cache other state hFound held hMem
            refine ⟨frame, ?_, hHeld.note _⟩
            unfold lastPublish at hLast ⊢
            rw [framesOf_note s other rfl]
            exact hLast
        | lost => exact hTrue.note ⟨rfl, fun _ _ _ => nofun⟩
      · cases hSends with
        | sent => exact ⟨hServes.note rfl, hAnswers.note _⟩
        | lost => exact ⟨hServes.note rfl, hAnswers.note _⟩
  exact valid_consequence hSends fun _ _ _ _ => trivial

theorem lastPublish_served {worker : Nat} {locals : ServeLocals} {request : WireFrame}
    {s : Coordinator} (hType : request.type = .publish)
    (h : Serves worker locals request s) :
    lastPublish worker request.requestId s.log = some request := by
  unfold Serves at h
  unfold lastPublish
  cases hFrames : framesOf worker s.log with
  | nil =>
      rw [hFrames] at h
      cases h
  | cons frame frames =>
      rw [hFrames, List.head?_cons, Option.some.injEq] at h
      rw [h, List.find?_cons_of_pos]
      rw [hType, beq_self_eq_true, beq_self_eq_true]
      rfl

/-- The payload of the latest frame is handled. -/
theorem handlePayload_valid (worker : Nat) (locals : ServeLocals) (request : WireFrame)
    (state : ConnectionState) :
    Valid ackContract worker
      (fun result s => Serves worker locals request s ∧
        .handled worker request.payload result ∈ s.log)
      (handlePayload worker state request.payload) (Serves worker locals request) := by
  have hStable := fun result => stable_and (serves_stable worker locals request)
    (stable_mem ackContract_own (.handled worker request.payload result))
  have hRefused : ∀ code message,
      Valid ackContract worker
        (fun result s => Serves worker locals request s ∧
          .handled worker request.payload result ∈ s.log)
        (refusePayload worker request.payload code message)
        (Serves worker locals request) := by
    intro code message
    refine valid_update hStable fun s _ hServes _ => ⟨⟨?_, fun hTrue _ => ?_⟩, ?_, ?_⟩
    · exact @onlyOwn_note worker (.handled ..) rfl s
    · exact hTrue.note ⟨rfl, fun _ _ _ => nofun⟩
    · exact hServes.note rfl
    · exact List.mem_cons_self
  unfold handlePayload
  split
  · exact hRefused _ _
  · rename_i publication _
    split
    · refine valid_bind (M := fun _ => Serves worker locals request)
        (valid_read (fun _ => serves_stable worker locals request) fun _ _ hServes => hServes)
        fun epoch => ?_
      refine valid_update hStable fun s _ hServes _ => ⟨⟨?_, fun hTrue _ => ?_⟩, ?_, ?_⟩
      · exact (@onlyOwn_of_fields worker s
          { s with registry := (publish s.registry { publication with epoch }).1 } rfl rfl).trans
          (@onlyOwn_note worker (.handled ..) rfl _)
      · have hPublished : AnswersTrue
            { s with registry := (publish s.registry { publication with epoch }).1 } :=
          hTrue.of_fields rfl fun _ state hFound => ⟨state, hFound, fun _ hMem => hMem⟩
        exact hPublished.note ⟨rfl, fun _ _ _ => nofun⟩
      · exact hServes.note rfl
      · exact List.mem_cons_self
    · exact hRefused _ _

/-- What the cache holds afterwards is the new answer, or was held before. -/
theorem mem_remember {state : ConnectionState} {requestId : UInt64} {response : Bytes}
    {held : UInt64 × Bytes} (h : held ∈ (state.remember requestId response).replay) :
    held = (requestId, response) ∨ held ∈ state.replay := by
  unfold ConnectionState.remember at h
  rcases mem_upsert h with hNew | hOld
  · exact .inl hNew
  · refine .inr ?_
    split at hOld
    · split at hOld
      · exact hOld
      · exact (List.mem_filter.1 hOld).1
    · exact hOld

/-- The answer is cached under the identifier of the latest frame. -/
theorem rememberAnswer_valid (worker : Nat) (locals : ServeLocals) {request : WireFrame}
    (hType : request.type = .publish) (response : Bytes) :
    Valid ackContract worker
      (fun _ s => Serves worker locals request s ∧
        Answers worker request.payload response s.log)
      (rememberAnswer worker request.requestId response)
      fun s => Serves worker locals request s ∧
        Answers worker request.payload response s.log := by
  have hStable := stable_and (serves_stable worker locals request)
    (answers_stable worker request.payload response)
  refine valid_modify hStable fun s _ hFacts _ => ?_
  split
  · exact ⟨⟨onlyOwn_refl worker s, fun hTrue _ => hTrue⟩, hFacts⟩
  · rename_i state hFound
    refine ⟨⟨onlyOwn_setConnection s worker _, fun hTrue _ => ?_⟩, hFacts⟩
    refine hTrue.setConnection worker fun held hMem => ?_
    rcases mem_remember hMem with rfl | hOld
    · exact ⟨request, lastPublish_served hType hFacts.1, hFacts.2⟩
    · exact hTrue.cache worker state hFound held hOld

/-- The store is written meanwhile. -/
theorem persistMutation_valid (options : CoordinatorOptions) (worker : Nat)
    (locals : ServeLocals) (request : WireFrame) (response : Bytes) :
    Valid ackContract worker
      (fun _ s => Serves worker locals request s ∧
        Answers worker request.payload response s.log)
      (persistMutation options worker)
      fun s => Serves worker locals request s ∧
        Answers worker request.payload response s.log := by
  have hStable := stable_and (serves_stable worker locals request)
    (answers_stable worker request.payload response)
  refine valid_of_within (persistMutation_within options worker) hStable
    fun s t _ hFacts _ hSaves => ?_
  refine ⟨⟨hSaves.quiet.onlyOwn, fun hTrue _ => hSaves.answers hTrue⟩, ?_⟩
  cases hSaves with
  | reads => exact hFacts
  | stored file taken registry => exact ⟨hFacts.1.note rfl, hFacts.2.note _⟩
  | unstored => exact ⟨hFacts.1.note rfl, hFacts.2.note _⟩

theorem servePublish_valid (options : CoordinatorOptions) (worker : Nat)
    (locals : ServeLocals) {request : WireFrame} (hType : request.type = .publish)
    (state : ConnectionState) :
    Valid ackContract worker (fun _ _ => True) (servePublish options worker state request)
      fun s => Serves worker locals request s ∧ s.connection worker = some state := by
  unfold servePublish
  split
  · rename_i cached hCached
    refine valid_weaken (sendAck_valid worker locals hType cached.2) fun s hInv hFacts => ?_
    obtain ⟨hServes, hFound⟩ := hFacts
    obtain ⟨frame, hLast, hAnswers⟩ :=
      hInv.cache worker state hFound cached (lookup_mem hCached)
    rw [lookup_key hCached, lastPublish_served hType hServes, Option.some.injEq] at hLast
    rw [← hLast] at hAnswers
    exact ⟨hServes, hAnswers⟩
  · have hHandled := valid_weaken (handlePayload_valid worker locals request state)
      fun s (_ : AnswersTrue s)
        (hFacts : Serves worker locals request s ∧ s.connection worker = some state) => hFacts.1
    refine valid_bind hHandled fun result => ?_
    split
    · exact valid_pure fun _ _ _ => trivial
    · rename_i response hEncoded
      refine valid_bind (valid_weaken (rememberAnswer_valid worker locals hType response)
        fun s _ hFacts => ⟨hFacts.1, result, hFacts.2, hEncoded⟩) fun _ => ?_
      exact valid_bind (persistMutation_valid options worker locals request response) fun _ =>
        sendAck_valid worker locals hType response

theorem serveFrame_valid (options : CoordinatorOptions) (worker : Nat)
    (locals : ServeLocals) (request : WireFrame) (state : ConnectionState) :
    Valid ackContract worker (fun _ _ => True) (serveFrame options worker state request)
      fun s => Serves worker locals request s ∧ s.connection worker = some state := by
  have hActs : ∀ {task : Work Bool}, Within (Acts worker) task →
      Valid ackContract worker (fun _ _ => True) task
        fun s => Serves worker locals request s ∧ s.connection worker = some state :=
    fun hWithin => valid_weaken (acts_valid hWithin) fun _ _ _ => trivial
  unfold serveFrame
  split
  · rename_i hType
    exact servePublish_valid options worker locals hType state
  · exact hActs (within_mono (fun _ _ => .chats) (serveStatus_within worker request))
  · exact hActs (serveFence_acts worker state request)
  · exact hActs (within_mono (fun _ _ => .chats) (sendError_within worker _ _))

/-! ## All runs -/

theorem ackRules (options : CoordinatorOptions) :
    ServeRules options ackContract (fun _ _ => True) (fun _ _ _ => True) (fun _ _ _ => True)
      Serves where
  stable _ _ := stable_const True
  aside _ := stable_const True
  ends _ _ _ _ _ := trivial
  receives worker locals request := by
    refine valid_modify (serves_stable worker locals request) fun s hInv _ hOk => ?_
    refine ⟨⟨@onlyOwn_note worker (.received ..) rfl s, fun hTrue hAgree =>
      received_answers hTrue hAgree⟩, ?_⟩
    unfold Serves framesOf
    rw [ownEvents_note]
    show (List.filterMap Event.frame (if worker = worker then _ else _)).head? = _
    rw [if_pos rfl]
    rfl
  leaves _ _ _ _ _ _ := trivial
  reads worker locals request state :=
    stable_and (serves_stable worker locals request) (stable_connection ackContract_own fun held => held = state)
  hello worker locals request _ := by
    refine valid_weaken (valid_consequence (acts_valid (serveHello_acts worker request))
      fun boot _ _ _ => ?_) fun _ _ _ => trivial
    cases boot <;> trivial
  frame worker locals request state _ := by
    refine valid_consequence (serveFrame_valid options worker locals request state)
      fun goesOn _ _ _ => ?_
    cases goesOn <;> trivial
  lost worker locals := acts_valid (fenceLost_acts worker locals)
  erases worker := acts_valid (within_update fun s => .erases)
  persist worker := valid_of_within (saveStore_within worker) (stable_const True)
    fun _ _ _ _ _ hSaves =>
      ⟨⟨hSaves.quiet.onlyOwn, fun hTrue _ => hSaves.answers hTrue⟩, trivial⟩
  call worker operation := acts_valid (callRegistry_acts worker operation)
  accepts worker s t hInv hStarts hOk := by
    refine ⟨⟨hStarts.onlyOwn, fun hTrue _ => ?_⟩, trivial⟩
    cases hStarts with
    | accept _ _ =>
        have hCounted : AnswersTrue { s with workers := s.workers + 1 } :=
          hTrue.of_fields rfl fun _ state hFound => ⟨state, hFound, fun _ hMem => hMem⟩
        exact hCounted.setConnection worker fun _ hMem => absurd hMem List.not_mem_nil
  begins worker s _ _ _ := by
    refine ⟨⟨onlyOwn_of_fields rfl rfl, fun hTrue _ => ?_⟩, trivial⟩
    exact hTrue.of_fields rfl fun _ state hFound => ⟨state, hFound, fun _ hMem => hMem⟩

/-- The acks answer, in every run in which reused identifiers agree. -/
theorem acks_answer {options : CoordinatorOptions} {file : Option Bytes} {written : Bool}
    {s : Coordinator} (hStart : startCoordinator options file written = .ok s)
    {b : CoordinatorSystem}
    (hRun : Reaches (workerRound options) (Starts options) ReusesAgree (serving s) b) :
    AcksAnswer b.shared.log := by
  obtain ⟨hLog, hConnections, -⟩ := startCoordinator_fresh hStart
  have hFirst : AnswersTrue s := by
    refine ⟨?_, fun worker state hFound => ?_⟩
    · intro worker requestId response past hSuffix
      rw [hLog, List.suffix_nil] at hSuffix
      cases hSuffix
    · unfold Coordinator.connection at hFound
      rw [hConnections] at hFound
      cases hFound
  have hInv : AnswersTrue b.shared :=
    reaches_inv (ackRules options).proved (atWork_idle hFirst) hRun
  exact hInv.acks

/-- A check of `ReusesAgree` by evaluation. -/
def reusesAgree (s t : Coordinator) : Bool :=
  match t.log with
  | .received worker frame :: past =>
      match s.connection worker, lastPublish worker frame.requestId past with
      | some state, some earlier =>
          frame.type != .publish || !(lookup Prod.fst frame.requestId state.replay).isSome ||
            earlier.payload == frame.payload
      | _, _ => true
  | _ => true

theorem reusesAgree_sound {s t : Coordinator} (h : reusesAgree s t = true) :
    ReusesAgree s t := by
  intro worker frame state earlier hLog hType hFound hCached hLast
  unfold reusesAgree at h
  rw [hLog] at h
  dsimp only at h
  rw [hFound, hLast] at h
  dsimp only at h
  rw [hType, hCached] at h
  simpa using h

/-- A check that finds an ack, the latest event, of a frame whose payload was never handled. -/
def misanswered : List Event → Bool
  | .sent worker .publishAck _ _ :: past =>
      (framesOf worker past).head?.any fun frame => past.all fun event =>
        match event with
        | .handled other payload _ => !(other == worker && payload == frame.payload)
        | _ => true
  | _ => false

theorem misanswered_sound {log : List Event} (h : misanswered log = true) :
    ¬ AcksAnswer log := by
  intro hAcks
  unfold misanswered at h
  split at h
  · rename_i worker requestId response past
    obtain ⟨frame, hHead, -, -, result, hMem, -⟩ :=
      hAcks worker requestId response past (List.suffix_refl _)
    rw [hHead, Option.any_some, List.all_eq_true] at h
    have hNot := h _ hMem
    simp at hNot
  · cases h

namespace Sample

/-- A payload is published and acknowledged. -/
def conversation : List CoordinatorMove :=
  declared ++ [.start 1 (.serving {})] ++ hello 1 bootOne scope ++
    publishing 1 1 (payload bootOne "a" 0 .supported) ++ turns 1 3 ++ answering 1

def isAck : Event → Bool
  | .sent _ .publishAck _ _ => true
  | _ => false

/-- The same frame comes again, is answered from the cache, and the ack is an answer to it. -/
theorem resent_frame_answered :
    ∃ b, Reaches (workerRound {}) (Starts {}) ReusesAgree (serving (started {} none)) b ∧
      (b.shared.log.filter isAck).length = 2 ∧ AcksAnswer b.shared.log := by
  obtain ⟨b, hRun, hSent⟩ := exists_scheduled {} none reusesAgree
    (fun _ _ => reusesAgree_sound)
    (conversation ++ publishing 1 1 (payload bootOne "a" 0 .supported) ++ answering 1)
    (fun s => (s.log.filter isAck).length == 2) (by decide +kernel)
  exact ⟨b, hRun, beq_iff_eq.1 hSent, acks_answer (started_ok (by decide +kernel)) hRun⟩

/-- Another payload under the same identifier: the ack carries the result of the first. -/
theorem reused_identifier_misanswered :
    ∃ b, startCoordinator {} none true = .ok (started {} none) ∧
      Reaches (workerRound {}) (Starts {}) (fun _ _ => True) (serving (started {} none)) b ∧
      ¬ AcksAnswer b.shared.log := by
  obtain ⟨b, hRun, hWrong⟩ := exists_scheduled {} none (fun _ _ => true)
    (fun _ _ _ => trivial)
    (conversation ++ publishing 1 1 (payload bootOne "b" 0 .unsupported) ++ answering 1)
    (fun s => misanswered s.log) (by decide +kernel)
  exact ⟨b, started_ok (by decide +kernel), hRun, misanswered_sound hWrong⟩

end Sample

end FabricCapability.Ports
