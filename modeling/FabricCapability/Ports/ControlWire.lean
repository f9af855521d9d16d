import FabricCapability.Ports.ResultRoundTrip
import FabricCapability.Ports.StoreRoundTrip

/-!
# Control messages on the wire

Translation of the codecs of the remaining messages in `src/wire.cpp`: `Hello`, `HelloAck`,
`Status`, `Fence` and `Error`.

Every reader checks what its writer wrote once more, and two checks are the reader's own:
an identifier that must be present, and a free text without control characters.

## Main results

* `decodeHello_encode`, `decodeStatus_encode`, `decodeFence_encode`: these messages are read
  back when their required identifiers are set.
* `decodeHelloAck_encode`, `decodeErrorPayload_encode`: these are read back exactly when
  their text holds no control character.
-/

namespace FabricCapability.Ports

open FabricCapability.Verified.ByteCodec
open FabricCapability.Ports.Store

/-! ## The messages -/

/-- The publisher identity that a connection claims. -/
structure HelloPayload where
  publisher : PublisherId
  scope : AuthorityScopeId
  source : SourceId
  workerBoot : WorkerBootId
  epoch : CoordinatorEpoch
  namespaces : List CapabilityNamespaceId
  deriving DecidableEq

structure HelloAckPayload where
  accepted : Bool := false
  epoch : CoordinatorEpoch := 0
  registryGeneration : RegistryGeneration := 0
  message : Bytes := []
  deriving DecidableEq

structure StatusPayload where
  entity : EntityId
  entityGeneration : EntityGeneration
  setGeneration : CapabilitySetGeneration
  registryGeneration : RegistryGeneration
  epoch : CoordinatorEpoch
  deriving DecidableEq

structure FencePayload where
  workerBoot : WorkerBootId
  reason : ReasonToken
  deriving DecidableEq

structure ErrorPayload where
  code : ErrorCode := .ok
  message : Bytes := []
  deriving DecidableEq

/-! ## Writers and readers -/

def encodeHello (hello : HelloPayload) : Outcome Bytes :=
  emit [
    writeText hello.publisher.value kMaxPublisherIdLength,
    writeText hello.scope.value kMaxAuthorityScopeIdLength,
    writeText hello.source.value kMaxSourceIdLength,
    writeText hello.workerBoot.value kMaxWorkerBootLength,
    .ok (u64 hello.epoch),
    checkCount hello.namespaces.length kMaxAuthorityNamespaces
      (txt "hello declares too many namespaces"),
    .ok (sizeU32 hello.namespaces.length),
    emit (hello.namespaces.map fun ns => writeText ns.text kMaxCapabilityIdLength)]

def decodeHelloFields : ByteReader HelloPayload := do
  let publisher ← readToken .publisherId kMaxPublisherIdLength
  let scope ← readToken .authorityScopeId kMaxAuthorityScopeIdLength
  let source ← readToken .sourceId kMaxSourceIdLength
  let workerBoot ← readToken .workerBootId kMaxWorkerBootLength
  let epoch ← readU64
  let namespaceCount ← readListCount kMaxAuthorityNamespaces
    (txt "encoded hello declares too many namespaces")
  let namespaces ← readTimes readNamespace namespaceCount
  pure { publisher, scope, source, workerBoot, epoch, namespaces }

def decodeHello (payload : Bytes) : Outcome HelloPayload := readWhole decodeHelloFields payload

def encodeHelloAck (ack : HelloAckPayload) : Outcome Bytes :=
  emit [
    .ok (bool ack.accepted),
    .ok (u64 ack.epoch),
    .ok (u64 ack.registryGeneration),
    writeText ack.message (kMaxTextLength * 4)]

def decodeHelloAckFields : ByteReader HelloAckPayload := do
  let accepted ← readBool
  let epoch ← readU64
  let registryGeneration ← readU64
  let message ← readText (kMaxTextLength * 4)
  pure { accepted, epoch, registryGeneration, message }

def decodeHelloAck (payload : Bytes) : Outcome HelloAckPayload :=
  readWhole decodeHelloAckFields payload

def encodeStatus (status : StatusPayload) : Outcome Bytes :=
  emit [
    writeText status.entity.toText kMaxEntityIdLength,
    .ok (u64 status.entityGeneration),
    .ok (u64 status.setGeneration),
    .ok (u64 status.registryGeneration),
    .ok (u64 status.epoch)]

def decodeStatusFields : ByteReader StatusPayload := do
  let entity ← readOptionalEntityId
  let entityGeneration ← readU64
  let setGeneration ← readU64
  let registryGeneration ← readU64
  let epoch ← readU64
  pure { entity, entityGeneration, setGeneration, registryGeneration, epoch }

def decodeStatus (payload : Bytes) : Outcome StatusPayload :=
  readWhole decodeStatusFields payload

def encodeFence (fence : FencePayload) : Outcome Bytes :=
  emit [
    writeText fence.workerBoot.value kMaxWorkerBootLength,
    writeText fence.reason.value kMaxTextLength]

def decodeFenceFields : ByteReader FencePayload := do
  let workerBoot ← readToken .workerBootId kMaxWorkerBootLength
  let reason ← readOptionalToken .reasonToken kMaxTextLength
  pure { workerBoot, reason }

def decodeFence (payload : Bytes) : Outcome FencePayload := readWhole decodeFenceFields payload

def encodeErrorPayload (error : ErrorPayload) : Outcome Bytes :=
  emit [
    writeErrorCode error.code,
    writeText error.message (kMaxTextLength * 4)]

def decodeErrorPayloadFields : ByteReader ErrorPayload := do
  let code ← readErrorCode
  let message ← readText (kMaxTextLength * 4)
  pure { code, message }

def decodeErrorPayload (payload : Bytes) : Outcome ErrorPayload :=
  readWhole decodeErrorPayloadFields payload

/-! ## Fields that are read back -/

theorem readsBack_namespace (ns : CapabilityNamespaceId) {writeMax : Nat} :
    ReadsBack readNamespace (writeText ns.text writeMax) (if ns.isSet then some ns else none) :=
  readsBack_text (decodes_namespace ns)

/-- A written text is read back unless it holds a control character. -/
theorem readsBack_freeText (text : Bytes) (maxLength : Nat) :
    ReadsBack (readText maxLength) (writeText text maxLength)
      (if text.any isControl then none else some text) := by
  intro out h
  obtain ⟨hLength, hSize, rfl⟩ := writeText_inv h
  rw [← rejectControl_toOption]
  exact decodes_text hLength hSize

theorem any_isControl {text : Bytes} : text.any isControl = false ↔ Plain text := by
  simp [Plain, List.any_eq_false]

/-! ## Messages that are read back -/

/-- The identifiers that the decoder of a `Hello` asks for. -/
def HelloPayload.identified (hello : HelloPayload) : Bool :=
  hello.publisher.isSet && (hello.scope.isSet && (hello.source.isSet &&
    (hello.workerBoot.isSet && hello.namespaces.all CapabilityNamespaceId.isSet)))

theorem readsBack_hello (hello : HelloPayload) :
    ReadsBack decodeHelloFields (encodeHello hello)
      (if hello.identified then some hello else none) := by
  unfold HelloPayload.identified
  refine ReadsBack.bind_guard (readsBack_token _ (by decide)) ?_
  refine ReadsBack.bind_guard (readsBack_token _ (by decide)) ?_
  refine ReadsBack.bind_guard (readsBack_token _ (by decide)) ?_
  refine ReadsBack.bind_guard (readsBack_token _ (by decide)) ?_
  refine ReadsBack.bind_some (.ok (decodes_u64 _)) ?_
  refine ReadsBack.unread (fun _ hBound => (checkCount_eq_ok hBound).1) fun hBound => ?_
  obtain ⟨-, hCount⟩ := checkCount_eq_ok hBound
  refine ReadsBack.bind_some (.ok (decodes_listCount _ hCount (by decide))) ?_
  have hNamespaces : ReadsBack (readTimes readNamespace hello.namespaces.length)
      (emit (hello.namespaces.map fun ns => writeText ns.text kMaxCapabilityIdLength))
      (if hello.namespaces.all CapabilityNamespaceId.isSet then some hello.namespaces
        else none) := by
    rw [← Decodes.mapM_guard]
    exact ReadsBack.readTimes _ fun ns _ => readsBack_namespace ns
  rw [← Bool.and_true (hello.namespaces.all CapabilityNamespaceId.isSet)]
  exact ReadsBack.bind_guard hNamespaces (.done _)

theorem decodeHello_encode {hello : HelloPayload} {payload : Bytes}
    (h : encodeHello hello = .ok payload) :
    decodeHello payload = .ok hello ↔ hello.identified = true := by
  unfold decodeHello
  rw [readWhole_eq_ok (readsBack_hello hello payload h)]
  cases hello.identified <;> simp

theorem readsBack_helloAck (ack : HelloAckPayload) :
    ReadsBack decodeHelloAckFields (encodeHelloAck ack)
      (if ack.message.any isControl then none else some ack) := by
  refine ReadsBack.bind_some (.ok (decodes_bool _)) ?_
  refine ReadsBack.bind_some (.ok (decodes_u64 _)) ?_
  refine ReadsBack.bind_some (.ok (decodes_u64 _)) ?_
  have hText : ReadsBack (readText (kMaxTextLength * 4))
      (writeText ack.message (kMaxTextLength * 4)) _ := readsBack_freeText _ _
  cases hAny : ack.message.any isControl with
  | true =>
      rw [hAny] at hText
      exact ReadsBack.bind_none hText
  | false =>
      rw [hAny] at hText
      exact ReadsBack.bind_some hText (.done _)

theorem decodeHelloAck_encode {ack : HelloAckPayload} {payload : Bytes}
    (h : encodeHelloAck ack = .ok payload) :
    decodeHelloAck payload = .ok ack ↔ Plain ack.message := by
  unfold decodeHelloAck
  rw [readWhole_eq_ok (readsBack_helloAck ack payload h), ← any_isControl]
  cases ack.message.any isControl <;> simp

theorem decodeStatus_encode {status : StatusPayload} {payload : Bytes}
    (h : encodeStatus status = .ok payload) : decodeStatus payload = .ok status := by
  have hReads : ReadsBack decodeStatusFields (encodeStatus status) (some status) := by
    refine ReadsBack.bind_some (readsBack_optionalEntityId _) ?_
    refine ReadsBack.bind_some (.ok (decodes_u64 _)) ?_
    refine ReadsBack.bind_some (.ok (decodes_u64 _)) ?_
    refine ReadsBack.bind_some (.ok (decodes_u64 _)) ?_
    exact ReadsBack.bind_some (.ok (decodes_u64 _)) (.done _)
  exact (readWhole_eq_ok (hReads payload h)).2 rfl

theorem decodeFence_encode {fence : FencePayload} {payload : Bytes}
    (h : encodeFence fence = .ok payload) :
    decodeFence payload = .ok fence ↔ fence.workerBoot.isSet = true := by
  have hReads : ReadsBack decodeFenceFields (encodeFence fence)
      (if fence.workerBoot.isSet && true then some fence else none) := by
    refine ReadsBack.bind_guard (readsBack_token _ (by decide)) ?_
    exact ReadsBack.bind_some (readsBack_optionalToken _ (by decide)) (.done _)
  unfold decodeFence
  rw [readWhole_eq_ok (hReads payload h)]
  cases fence.workerBoot.isSet <;> simp

theorem decodeErrorPayload_encode {error : ErrorPayload} {payload : Bytes}
    (h : encodeErrorPayload error = .ok payload) :
    decodeErrorPayload payload = .ok error ↔ Plain error.message := by
  have hText : ReadsBack (readText (kMaxTextLength * 4))
      (writeText error.message (kMaxTextLength * 4)) _ := readsBack_freeText _ _
  have hReads : ReadsBack decodeErrorPayloadFields (encodeErrorPayload error)
      (if error.message.any isControl then none else some error) := by
    refine ReadsBack.bind_some (readsBack_errorCode _) ?_
    cases hAny : error.message.any isControl with
    | true =>
        rw [hAny] at hText
        exact ReadsBack.bind_none hText
    | false =>
        rw [hAny] at hText
        exact ReadsBack.bind_some hText (.done _)
  unfold decodeErrorPayload
  rw [readWhole_eq_ok (hReads payload h), ← any_isControl]
  cases error.message.any isControl <;> simp

end FabricCapability.Ports
