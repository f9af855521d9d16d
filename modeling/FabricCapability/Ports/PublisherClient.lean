import FabricCapability.Ports.Coordinator

/-!
# The publisher client

Translation of `PublisherClient::Impl` of `src/distributed.cpp`, with the part of
`ServeConnection` that answers it.  `Publish` asks for the status of an entity that the
client has no generation of, sends the publication with the generation it knows, and keeps
the one that the answer carries.

The frames of a client and their answers come one at a time, so an exchange is a task of its
own: the frame is sent, the coordinator reads its registry or publishes, the answer is
received.  Whether a frame arrives is decided outside, and the outside also calls the client.
Between any two accesses others may use the registry, in process or through connections of
their own; what they do is an operation of the registry.

The identifiers that the client gives to its requests are all different, so the coordinator
never answers from the memory of the connection, which is left out here.  A call that
returns an error answers nothing.
-/

namespace FabricCapability.Ports

open FabricCapability.Verified.KeyedList
open FabricCapability.Verified.Workers

/-! ## The client -/

/-- The part of `PublisherClientOptions` that names the publisher. -/
structure PublisherClientOptions where
  publisher : PublisherId
  scope : AuthorityScopeId
  source : SourceId
  workerBoot : WorkerBootId

structure GenerationCache where
  setGeneration : CapabilitySetGeneration
  unknown : Bool := false

structure PublisherClient where
  options : PublisherClientOptions
  connected : Bool := false
  requestId : UInt64 := 0
  epoch : CoordinatorEpoch := 0
  generationCache : List (EntityId × GenerationCache) := []

/-- A frame, as far as the client looks at it. -/
structure Reply where
  type : WireMessageType
  payload : Bytes

namespace PublisherClient

def cached (client : PublisherClient) (entity : EntityId) : Option GenerationCache :=
  (lookup Prod.fst entity client.generationCache).map Prod.snd

def setCached (client : PublisherClient) (entity : EntityId) (entry : GenerationCache) :
    PublisherClient :=
  { client with
    generationCache := upsert Prod.fst (entity, entry) client.generationCache }

def nextRequest (client : PublisherClient) : PublisherClient :=
  { client with requestId := client.requestId + 1 }

/-- `CloseLocked`. -/
def closeLocked (client : PublisherClient) : PublisherClient :=
  { client with connected := false, generationCache := [] }

/-- `Connect`: the handshake is answered with the current epoch, or it fails. -/
def connect (client : PublisherClient) (ack : Option CoordinatorEpoch) : PublisherClient :=
  if client.connected then client
  else
    match ack with
    | none => { client with requestId := 1 }.closeLocked
    | some epoch => { client with connected := true, requestId := 1, epoch }

/-- The request that `Publish` sends. -/
def outgoing (client : PublisherClient) (epoch : CoordinatorEpoch)
    (request : PublicationRequest) : PublicationRequest :=
  let expectedSetGeneration :=
    match client.cached request.entity with
    | none => request.expectedSetGeneration
    | some held =>
        if request.expectedSetGeneration = 0 then held.setGeneration
        else request.expectedSetGeneration
  { request with epoch, expectedSetGeneration }

/-- `RefreshStatusLocked` after the answer; nothing is answered when a frame is lost. -/
def receiveStatus (client : PublisherClient) (entity : EntityId) :
    Option Reply → PublisherClient × Bool
  | none => (client.closeLocked, false)
  | some reply =>
      if reply.type ≠ .statusAck then (client, false)
      else
        match decodeStatus reply.payload with
        | .error _ => (client, false)
        | .ok status =>
            ({ client.setCached entity { setGeneration := status.setGeneration } with
                epoch := status.epoch },
              true)

/-- `Publish` after the answer. -/
def receiveResult (client : PublisherClient) (entity : EntityId) :
    Option Reply → PublisherClient × Option PublicationResult
  | none => (client.closeLocked, none)
  | some reply =>
      if reply.type ≠ .publishAck then (client, none)
      else
        match decodePublicationResult reply.payload with
        | .error _ => (client, none)
        | .ok result =>
            if result.code = .capabilitySetGenerationStale ∨
                result.code = .capabilitySetGenerationMismatch then
              ({ client with
                  generationCache :=
                    client.generationCache.filter fun held => held.1 ≠ entity },
                some result)
            else if result.status ≠ .rejected then
              (client.setCached entity { setGeneration := result.newSetGeneration },
                some result)
            else (client, some result)

end PublisherClient

/-! ## The coordinator -/

/-- What was answered to a publication of the client: the request as the application made
it, the request as the registry was given it, unless it was refused before, and the result. -/
structure Answer where
  asked : PublicationRequest
  handled : Option PublicationRequest
  result : PublicationResult

/-- The registry; no step reads `answers`, the latest first, which are for the statements. -/
structure Service where
  registry : Registry
  answers : List Answer := []

/-- What the application does with the client. -/
inductive ClientCall where
  | connect (ack : Option CoordinatorEpoch)
  | close
  | publish (request : PublicationRequest)

abbrev Exchange (α : Type) : Type := Task Service ClientCall α

/-- The state of the connection after the handshake of the client. -/
def PublisherClientOptions.connection (options : PublisherClientOptions) : ConnectionState :=
  { handshakeDone := true
    publisher := options.publisher
    scope := options.scope
    source := options.source
    workerBoot := options.workerBoot }

/-- The entity that a `Status` asks for, and what the registry holds of it. -/
def statusOf (asked : EntityId) (found : Option EntityState) (status : StatusPayload) :
    StatusPayload :=
  match found with
  | none => { status with entity := asked }
  | some entity =>
      { status with
        entity := asked
        entityGeneration := entity.currentGeneration
        setGeneration := (entity.set.map (·.setGeneration)).getD 0 }

/-- The answer to a `Status`; nothing when the connection is given up. -/
def answerStatus (payload : Bytes) : Exchange (Option Reply) := do
  let epoch ← Task.read fun s => s.registry.epoch
  let registryGeneration ← Task.read fun s => s.registry.registryGeneration
  let blank : StatusPayload :=
    { entity := .unset, entityGeneration := 0, setGeneration := 0, registryGeneration, epoch }
  let reply (status : StatusPayload) : Option Reply :=
    (encodeStatus status).toOption.map fun encoded => ⟨.statusAck, encoded⟩
  match decodeStatus payload with
  | .error _ => pure (reply blank)
  | .ok asked =>
      if asked.entity.isSet then do
        let found ← Task.read fun s => s.registry.findEntity asked.entity
        pure (reply (statusOf asked.entity found blank))
      else pure (reply blank)

/-- The registry publishes the request. -/
def publishAnswered (asked request : PublicationRequest) (s : Service) :
    Service × PublicationResult :=
  let (registry, outcome) := publish s.registry request
  let result :=
    match outcome with
    | .ok result => result
    | .error e => failedResult request e
  ({ registry, answers := ⟨asked, some request, result⟩ :: s.answers }, result)

/-- The request is refused before it reaches the registry. -/
def refuseAnswered (asked : PublicationRequest) (code : ErrorCode) (message : Bytes)
    (s : Service) : Service × PublicationResult :=
  ({ s with answers := ⟨asked, none, refusedResult code message⟩ :: s.answers },
    refusedResult code message)

def publishAck (result : PublicationResult) : Option Reply :=
  (encodePublicationResult result).toOption.map fun encoded => ⟨.publishAck, encoded⟩

/-- The answer to a `Publish`. -/
def answerPublish (asked : PublicationRequest) (connection : ConnectionState)
    (payload : Bytes) : Exchange (Option Reply) :=
  match decodePublicationRequest payload with
  | .error e => do
      let result ← Task.update (refuseAnswered asked e.code e.toText)
      pure (publishAck result)
  | .ok request =>
      if connection.Speaks request then do
        let epoch ← Task.read fun s => s.registry.epoch
        let result ← Task.update (publishAnswered asked { request with epoch })
        pure (publishAck result)
      else do
        let result ← Task.update (refuseAnswered asked .unauthorizedPublisher
          (txt "the publication identity does not match the registered connection identity"))
        pure (publishAck result)

/-! ## Exchanges -/

/-- A frame arrives when it can be built and the outside lets it. -/
def deliver (type : WireMessageType) (requestId : UInt64) (payload : Bytes) : Exchange Bool :=
  match encodeFrame type 0 requestId payload with
  | .error _ => pure false
  | .ok _ => Task.toss

def deliverReply (requestId : UInt64) : Option Reply → Exchange (Option Reply)
  | none => pure none
  | some reply => do
      let received ← deliver reply.type requestId reply.payload
      pure (if received then some reply else none)

/-- One frame and the answer to it; nothing when either is lost. -/
def exchange (type : WireMessageType) (requestId : UInt64) (payload : Bytes)
    (answer : Bytes → Exchange (Option Reply)) : Exchange (Option Reply) := do
  let sent ← deliver type requestId payload
  if sent then do
    let reply ← answer payload
    deliverReply requestId reply
  else pure none

namespace PublisherClient

/-- `RefreshStatusLocked`. -/
def refreshStatusLocked (client : PublisherClient) (entity : EntityId) :
    Exchange (PublisherClient × Bool) :=
  match encodeStatus
    { entity, entityGeneration := 0, setGeneration := 0, registryGeneration := 0, epoch := 0 } with
  | .error _ => pure (client, false)
  | .ok payload => do
      let reply ← exchange .status client.nextRequest.requestId payload answerStatus
      pure (client.nextRequest.receiveStatus entity reply)

/-- The first half of `Publish`: the client knows a generation of the entity, or asks. -/
def ready (client : PublisherClient) (entity : EntityId) : Exchange (PublisherClient × Bool) :=
  match client.cached entity with
  | none => client.refreshStatusLocked entity
  | some held => if held.unknown then client.refreshStatusLocked entity else pure (client, true)

/-- The second half of `Publish`. -/
def send (client : PublisherClient) (epoch : CoordinatorEpoch) (request : PublicationRequest) :
    Exchange (PublisherClient × Option PublicationResult) :=
  match encodePublicationRequest (client.outgoing epoch request) with
  | .error _ => pure (client, none)
  | .ok payload => do
      let reply ← exchange .publish client.nextRequest.requestId payload
        (answerPublish request client.options.connection)
      pure (client.nextRequest.receiveResult request.entity reply)

/-- `Publish`. -/
def publish (client : PublisherClient) (request : PublicationRequest) :
    Exchange (PublisherClient × Option PublicationResult) :=
  if client.connected then do
    let (refreshed, goesOn) ← client.ready request.entity
    if goesOn then refreshed.send client.epoch request else pure (refreshed, none)
  else pure (client, none)

end PublisherClient

/-! ## The parties -/

inductive Party where
  | client
  | other (n : Nat)
  deriving DecidableEq

inductive PartyRole where
  /-- The application calls the client again and again. -/
  | publishing (client : PublisherClient)
  /-- Somebody else uses the registry once. -/
  | calling (operation : Operation)

def clientRound (client : PublisherClient) : ClientCall → Exchange (Option PartyRole)
  | .connect ack => pure (some (.publishing (client.connect ack)))
  | .close => pure (some (.publishing client.closeLocked))
  | .publish request => do
      let (client, _) ← client.publish request
      pure (some (.publishing client))

def partyRound (_ : Party) : PartyRole → Exchange (Option PartyRole)
  | .publishing client => do
      let call ← Task.input
      clientRound client call
  | .calling operation => do
      Task.modify fun s => { s with registry := operation.apply s.registry }
      pure none

/-- There is one client; the others come and go. -/
inductive PartyStarts : Party → PartyRole → Service → Service → Prop
  | client (options : PublisherClientOptions) (s : Service) :
      PartyStarts .client (.publishing { options }) s s
  | other (n : Nat) (operation : Operation) (s : Service) :
      PartyStarts (.other n) (.calling operation) s s

abbrev Session : Type := System Service ClientCall PartyRole Party

/-- Nobody is at work yet. -/
def session (registry : Registry) : Session := ⟨{ registry }, fun _ => none⟩

end FabricCapability.Ports
