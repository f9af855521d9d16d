import FabricCapability.Verified.Workers
import FabricCapability.Ports.ControlWire
import FabricCapability.Ports.FrameWire
import FabricCapability.Ports.Requirements
import FabricCapability.Ports.Runs

/-!
# The coordinator

Translation of `CapabilityCoordinator::Impl` of `src/distributed.cpp`.  Workers share the
registry, the map of boot scopes, the states of the connections and the store file.  A round
of a serving worker is one turn of the loop of `ServeConnection`: it ends with the frame
after next, or with the teardown.  A worker may also be a call of `Persist`, or a caller that
uses the registry in process.

What the operating system decides comes from outside: the frames, whether a frame is sent,
whether the file is replaced.  Replacing the file is one access, as `WriteFileAtomic` means
it to be.  The counters of `CoordinatorStats` are left out; nothing reads them.

No step reads `log`: it records what happened, the latest first, for the statements.
-/

namespace FabricCapability.Ports

open FabricCapability.Verified.KeyedList
open FabricCapability.Verified.Workers

/-! ## State -/

/-- The part of `CoordinatorOptions` that is left once the listener is open; `persistence` is
nothing when its directory is empty. -/
structure CoordinatorOptions where
  maxConnections : Nat := 16
  persistOnStart : Bool := true
  persistOnMutation : Bool := false
  persistence : Option PersistenceConfig := none
  registryOptions : Options := {}
  advanceEpochOnStart : Bool := true

def kMaxFrameRequestsInFlight : Nat := 64

/-- `ConnectionState`; the answers of `replay` are kept under the request identifiers. -/
structure ConnectionState where
  handshakeDone : Bool := false
  publisher : PublisherId := .unset
  scope : AuthorityScopeId := .unset
  source : SourceId := .unset
  workerBoot : WorkerBootId := .unset
  replayOrder : List UInt64 := []
  replay : List (UInt64 × Bytes) := []

/-- What happened at a worker. -/
inductive Event where
  | received (worker : Nat) (frame : WireFrame)
  | sent (worker : Nat) (type : WireMessageType) (requestId : UInt64) (payload : Bytes)
  /-- A frame could not be sent. -/
  | lost (worker : Nat) (type : WireMessageType) (requestId : UInt64) (payload : Bytes)
  /-- A publisher was registered. -/
  | registered (worker : Nat) (scope : AuthorityScopeId) (workerBoot : WorkerBootId)
  /-- A payload was answered otherwise than from the cache. -/
  | handled (worker : Nat) (payload : Bytes) (result : PublicationResult)
  /-- The file was replaced by the registry as it was when `taken` events had happened. -/
  | stored (worker : Nat) (taken : Nat) (registry : Registry)
  /-- The file could not be replaced. -/
  | unstored (worker : Nat)
  /-- The teardown of a connection has fenced what it fences, and left this registry. -/
  | closed (worker : Nat) (registry : Registry)

structure Coordinator where
  registry : Registry
  connections : List (Nat × ConnectionState) := []
  bootScopes : List (WorkerBootId × AuthorityScopeId) := []
  store : Option Bytes := none
  /-- How many workers there have been. -/
  workers : Nat := 0
  log : List Event := []

namespace Coordinator

def note (event : Event) (s : Coordinator) : Coordinator := { s with log := event :: s.log }

def connection (s : Coordinator) (worker : Nat) : Option ConnectionState :=
  (lookup Prod.fst worker s.connections).map Prod.snd

def setConnection (s : Coordinator) (worker : Nat) (state : ConnectionState) : Coordinator :=
  { s with connections := upsert Prod.fst (worker, state) s.connections }

end Coordinator

/-- The locals of `ServeConnection`. -/
structure ServeLocals where
  boot : WorkerBootId := .unset
  handshakeDone : Bool := false

/-- What a worker is there for. -/
inductive Role where
  /-- `ServeConnection`. -/
  | serving (locals : ServeLocals)
  /-- `Persist`, and the save of `Stop`. -/
  | persisting
  /-- A call through `Registry()`. -/
  | calling (operation : Operation)

/-- A round of a worker, or a part of it; from outside comes what `ReceiveFrame` answers. -/
abbrev Work (α : Type) : Type := Task Coordinator (Outcome WireFrame) α

/-! ## Parts of a round -/

def currentEpoch : Work CoordinatorEpoch := Task.read fun s => s.registry.epoch

/-- `SendFrame`. -/
def sendFrame (worker : Nat) (type : WireMessageType) (requestId : UInt64) (payload : Bytes) :
    Work Bool :=
  let lose : Work Bool := do
    Task.modify (Coordinator.note (.lost worker type requestId payload))
    pure false
  match encodeFrame type 0 requestId payload with
  | .error _ => lose
  | .ok _ => do
      let sent ← Task.toss
      if sent then
        Task.modify (Coordinator.note (.sent worker type requestId payload))
        pure true
      else lose

/-- `SendFrame` of an `ErrorResponse`. -/
def sendError (worker : Nat) (requestId : UInt64) (error : ErrorPayload) : Work Bool :=
  match encodeErrorPayload error with
  | .error _ => pure false
  | .ok encoded => sendFrame worker .errorResponse requestId encoded

/-- `Save`: the snapshot under the lock, and then the file. -/
def saveStore (worker : Nat) : Work Bool := do
  let fail : Work Bool := do
    Task.modify (Coordinator.note (.unstored worker))
    pure false
  let (registry, taken) ← Task.read fun s => (s.registry, s.log.length)
  match save registry with
  | .error _ => fail
  | .ok (file, _) =>
      let written ← Task.toss
      if written then
        Task.modify fun s =>
          { s with store := some file }.note (.stored worker taken registry)
        pure true
      else fail

/-! ## Hello -/

/-- `RegisterPublisher`. -/
def register (worker : Nat) (publisher : PublisherId) (scope : AuthorityScopeId)
    (workerBoot : WorkerBootId) : Work (Outcome PublisherRegistration) :=
  Task.update fun s =>
    match registerPublisher s.registry publisher scope workerBoot with
    | (registry, .error e) => ({ s with registry }, .error e)
    | (registry, .ok registration) =>
        ({ s with registry }.note (.registered worker scope workerBoot), .ok registration)

/-- An epoch is compared only when it is given. -/
def staleHello (hello : HelloPayload) : Work Bool :=
  if hello.epoch = 0 then pure false
  else do
    let epoch ← currentEpoch
    pure (hello.epoch != epoch)

/-- The answer to a `Hello`. -/
def helloAck (worker : Nat) (payload : Outcome HelloPayload) : Work HelloAckPayload :=
  match payload with
  | .error e => pure { message := e.toText }
  | .ok hello => do
      let stale ← staleHello hello
      if stale then
        let epoch ← currentEpoch
        pure { epoch, message := txt "coordinator epoch is stale" }
      else
        let registered ← register worker hello.publisher hello.scope hello.workerBoot
        match registered with
        | .error e => do
            let epoch ← currentEpoch
            pure { epoch, message := e.toText }
        | .ok registration =>
            pure
              { accepted := true
                epoch := registration.epoch
                registryGeneration := registration.acceptedGeneration
                message := txt "registered" }

/-- The code of the `ErrorResponse` behind an ack that refuses. -/
def helloErrorCode (payload : Outcome HelloPayload) : Work ErrorCode :=
  match payload with
  | .error _ => pure .frameMalformed
  | .ok hello => do
      let fenced ← Task.read fun s => decide (hello.workerBoot ∈ s.registry.fencedBoots)
      if fenced then pure .workerBootFenced
      else
        let declared ← Task.read fun s => (s.registry.findGrant hello.scope).isSome
        if declared then pure .unauthorizedPublisher else pure .unknownAuthorityScope

/-- The handshake is done: the connection takes the identity, and the boot its scope. -/
def completeHandshake (worker : Nat) (hello : HelloPayload) : Work Unit := do
  Task.modify fun s =>
    match s.connection worker with
    | none => s
    | some state =>
        s.setConnection worker
          { state with
            handshakeDone := true
            publisher := hello.publisher
            scope := hello.scope
            source := hello.source
            workerBoot := hello.workerBoot }
  Task.modify fun s =>
    { s with bootScopes := upsert Prod.fst (hello.workerBoot, hello.scope) s.bootScopes }

/-- The frame `Hello`; the answer is the boot, or nothing where the loop is left. -/
def serveHello (worker : Nat) (request : WireFrame) : Work (Option WorkerBootId) := do
  let payload := decodeHello request.payload
  let ack ← helloAck worker payload
  match encodeHelloAck ack with
  | .error _ => pure none
  | .ok encoded =>
      let sent ← sendFrame worker .helloAck request.requestId encoded
      if !sent then pure none
      else if !ack.accepted then
        let code ← helloErrorCode payload
        let _ ← sendError worker request.requestId { code, message := ack.message }
        pure none
      else
        match payload with
        | .error _ => pure none
        | .ok hello =>
            completeHandshake worker hello
            pure (some hello.workerBoot)

/-! ## Publish -/

/-- The result of a call of `Publish` that returned a failure. -/
def failedResult (request : PublicationRequest) (e : Error) : PublicationResult :=
  { code := e.code
    message := e.toText
    publication := request.publication
    attempt := request.attempt
    entity := request.entity
    entityGeneration := request.entityGeneration
    registryGeneration := 0 }

/-- The result of a payload that does not reach the registry. -/
def refusedResult (code : ErrorCode) (message : Bytes) : PublicationResult :=
  { code, message, publication := .unset, attempt := .unset, entity := .unset,
    entityGeneration := 0, registryGeneration := 0 }

/-- The request is made in the name of the connection. -/
def ConnectionState.Speaks (state : ConnectionState) (request : PublicationRequest) : Prop :=
  request.authority.publisher = state.publisher ∧
    request.authority.workerBoot = state.workerBoot ∧
    request.authority.scope = state.scope ∧ request.authority.source = state.source

instance (state : ConnectionState) (request : PublicationRequest) :
    Decidable (state.Speaks request) :=
  inferInstanceAs (Decidable (_ ∧ _))

/-- A payload that is answered without the registry. -/
def refusePayload (worker : Nat) (payload : Bytes) (code : ErrorCode) (message : Bytes) :
    Work PublicationResult :=
  Task.update fun s =>
    (s.note (.handled worker payload (refusedResult code message)), refusedResult code message)

/-- The result of a payload that is not answered from the cache. -/
def handlePayload (worker : Nat) (state : ConnectionState) (payload : Bytes) :
    Work PublicationResult :=
  match decodePublicationRequest payload with
  | .error e => refusePayload worker payload e.code e.toText
  | .ok request =>
      if state.Speaks request then do
        let epoch ← currentEpoch
        Task.update fun s =>
          let (registry, outcome) := publish s.registry { request with epoch }
          let result :=
            match outcome with
            | .ok result => result
            | .error e => failedResult request e
          ({ s with registry }.note (.handled worker payload result), result)
      else
        refusePayload worker payload .unauthorizedPublisher
          (txt "the publication identity does not match the registered connection identity")

/-- The answer is put into the cache, for which the oldest one may have to go. -/
def ConnectionState.remember (state : ConnectionState) (requestId : UInt64)
    (response : Bytes) : ConnectionState :=
  let state :=
    if state.replay.length ≥ kMaxFrameRequestsInFlight then
      match state.replayOrder with
      | [] => state
      | oldest :: order =>
          { state with
            replayOrder := order
            replay := state.replay.filter fun held => held.1 ≠ oldest }
    else state
  { state with
    replayOrder := state.replayOrder ++ [requestId]
    replay := upsert Prod.fst (requestId, response) state.replay }

def rememberAnswer (worker : Nat) (requestId : UInt64) (response : Bytes) : Work Unit :=
  Task.modify fun s =>
    match s.connection worker with
    | none => s
    | some state => s.setConnection worker (state.remember requestId response)

/-- Durability before acknowledgement, but the ack does not wait for success. -/
def persistMutation (options : CoordinatorOptions) (worker : Nat) : Work Unit :=
  if options.persistOnMutation && options.persistence.isSome then do
    let _ ← saveStore worker
  else pure ()

/-- The frame `Publish`; the answer tells whether the loop goes on. -/
def servePublish (options : CoordinatorOptions) (worker : Nat) (state : ConnectionState)
    (request : WireFrame) : Work Bool :=
  match lookup Prod.fst request.requestId state.replay with
  | some cached => sendFrame worker .publishAck request.requestId cached.2
  | none => do
      let result ← handlePayload worker state request.payload
      match encodePublicationResult result with
      | .error _ => pure false
      | .ok response =>
          rememberAnswer worker request.requestId response
          persistMutation options worker
          sendFrame worker .publishAck request.requestId response

/-! ## Status and Fence -/

/-- What the registry holds of the entity that a `Status` asks for. -/
def entityStatus (payload : Bytes) (status : StatusPayload) : Work StatusPayload :=
  match decodeStatus payload with
  | .error _ => pure status
  | .ok asked =>
      if asked.entity.isSet then do
        let found ← Task.read fun s => s.registry.findEntity asked.entity
        match found with
        | none => pure { status with entity := asked.entity }
        | some entity =>
            pure
              { status with
                entity := asked.entity
                entityGeneration := entity.currentGeneration
                setGeneration := (entity.set.map (·.setGeneration)).getD 0 }
      else pure status

/-- The frame `Status`. -/
def serveStatus (worker : Nat) (request : WireFrame) : Work Bool := do
  let epoch ← currentEpoch
  let registryGeneration ← Task.read fun s => s.registry.registryGeneration
  let status ← entityStatus request.payload
    { entity := .unset, entityGeneration := 0, setGeneration := 0, registryGeneration, epoch }
  match encodeStatus status with
  | .error _ => pure false
  | .ok encoded => sendFrame worker .statusAck request.requestId encoded

/-- `FenceWorkerBoot`. -/
def fence (workerBoot : WorkerBootId) (reason : ReasonToken) : Work (Outcome Unit) :=
  Task.update fun s =>
    let (registry, outcome) := fenceWorkerBoot s.registry workerBoot reason
    ({ s with registry }, outcome)

def forgetBoot (workerBoot : WorkerBootId) : Work Unit :=
  Task.modify fun s =>
    { s with bootScopes := s.bootScopes.filter fun held => held.1 ≠ workerBoot }

/-- The frame `Fence`. -/
def serveFence (worker : Nat) (state : ConnectionState) (request : WireFrame) : Work Bool :=
  match decodeFence request.payload with
  | .error e => sendError worker request.requestId { code := e.code, message := e.toText }
  | .ok target => do
      let allowed ← Task.read fun s =>
        (lookup Prod.fst target.workerBoot s.bootScopes).any fun held => held.2 == state.scope
      if !allowed then
        sendError worker request.requestId
          { code := .unauthorizedPublisher
            message := txt "the fence target is not registered inside this authority scope" }
      else
        let fenced ← fence target.workerBoot target.reason
        match fenced with
        | .error e => sendError worker request.requestId { code := e.code, message := e.toText }
        | .ok () => do
            forgetBoot target.workerBoot
            sendFrame worker .fenceAck request.requestId []

/-! ## Rounds -/

/-- The fence of a connection that is lost. -/
def fenceLost (worker : Nat) (locals : ServeLocals) : Work Unit :=
  if locals.handshakeDone && locals.boot.isSet then do
    Task.modify fun s =>
      let registry := (fenceWorkerBoot s.registry locals.boot
        (makeReason (txt "connection-lost"))).1
      { s with registry }.note (.closed worker registry)
    forgetBoot locals.boot
  else Task.modify fun s => s.note (.closed worker s.registry)

/-- What follows the loop of `ServeConnection`. -/
def teardown (worker : Nat) (locals : ServeLocals) : Work (Option Role) := do
  fenceLost worker locals
  Task.modify fun s =>
    { s with connections := s.connections.filter fun held => held.1 ≠ worker }
  pure none

/-- The frames of a connection that has said `Hello`. -/
def serveFrame (options : CoordinatorOptions) (worker : Nat) (state : ConnectionState)
    (request : WireFrame) : Work Bool :=
  match request.type with
  | .publish => servePublish options worker state request
  | .status => serveStatus worker request
  | .fence => serveFence worker state request
  | _ =>
      sendError worker request.requestId
        { code := .frameTypeUnknown
          message := txt "message type is not accepted in this connection state" }

/-- One turn of the loop of `ServeConnection`. -/
def serveTurn (options : CoordinatorOptions) (worker : Nat) (locals : ServeLocals) :
    Work (Option Role) := do
  let frame ← Task.input
  match frame with
  | .error _ => teardown worker locals
  | .ok request =>
      Task.modify (Coordinator.note (.received worker request))
      if request.type = .goodbye then teardown worker locals
      else if request.type = .hello then
        let boot ← serveHello worker request
        match boot with
        | some boot => pure (some (.serving { boot, handshakeDone := true }))
        | none => teardown worker locals
      else
        let state ← Task.read fun s => s.connection worker
        match state with
        | none => teardown worker locals
        | some state =>
            if !locals.handshakeDone || !state.handshakeDone then teardown worker locals
            else
              let goesOn ← serveFrame options worker state request
              if goesOn then pure (some (.serving locals)) else teardown worker locals

/-- A call through `Registry()`. -/
def callRegistry (worker : Nat) (operation : Operation) : Work Unit :=
  match operation with
  | .registerPublisher publisher scope workerBoot => do
      let _ ← register worker publisher scope workerBoot
  | operation => Task.modify fun s => { s with registry := operation.apply s.registry }

def workerRound (options : CoordinatorOptions) (worker : Nat) : Role → Work (Option Role)
  | .serving locals => serveTurn options worker locals
  | .persisting => do
      let _ ← saveStore worker
      pure none
  | .calling operation => do
      callRegistry worker operation
      pure none

/-- `AcceptLoop` takes a connection as long as there is room for it; anybody may call. -/
inductive Starts (options : CoordinatorOptions) (worker : Nat) :
    Role → Coordinator → Coordinator → Prop
  | accept {s : Coordinator} (fresh : worker = s.workers)
      (room : s.connections.length < options.maxConnections) :
      Starts options worker (.serving {}) s
        ({ s with workers := s.workers + 1 }.setConnection worker {})
  | persist {s : Coordinator} (fresh : worker = s.workers) :
      Starts options worker .persisting s { s with workers := s.workers + 1 }
  | call {s : Coordinator} (operation : Operation) (fresh : worker = s.workers) :
      Starts options worker (.calling operation) s { s with workers := s.workers + 1 }

abbrev CoordinatorSystem : Type := System Coordinator (Outcome WireFrame) Role Nat

/-! ## Start -/

/-- The first step of `Start`: the store is loaded. -/
def loadOnStart (options : CoordinatorOptions) (file : Option Bytes) : Outcome Registry :=
  let registry := Registry.init options.registryOptions
  match options.persistOnStart, options.persistence with
  | true, some config =>
      match load registry config file with
      | (_, .error e) => .error e
      | (registry, .ok _) => .ok registry
  | _, _ => .ok registry

/-- The second step: the epoch advances, and is saved before anybody is served. -/
def advanceOnStart (options : CoordinatorOptions) (file : Option Bytes) (written : Bool)
    (registry : Registry) : Outcome Coordinator :=
  if options.advanceEpochOnStart then
    match advanceCoordinatorEpoch registry (makeReason (txt "coordinator-start")) with
    | (_, .error e) => .error e
    | (registry, .ok _) =>
        if options.persistOnStart && options.persistence.isSome then
          match save registry, written with
          | .error e, _ => .error e
          | .ok _, false =>
              failure .persistenceIoFailure (txt "write to the store file failed") []
          | .ok (file, _), true => .ok { registry, store := some file }
        else .ok { registry, store := file }
  else .ok { registry, store := file }

/-- `Start`, up to the listener.  `written` tells whether the file could be replaced. -/
def startCoordinator (options : CoordinatorOptions) (file : Option Bytes) (written : Bool) :
    Outcome Coordinator := do
  let registry ← loadOnStart options file
  advanceOnStart options file written registry

/-- The coordinator serves from where `Start` left it, with no worker yet. -/
def serving (s : Coordinator) : CoordinatorSystem := ⟨s, fun _ => none⟩

end FabricCapability.Ports
