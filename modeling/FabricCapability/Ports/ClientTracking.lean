import FabricCapability.Ports.ExpectedGenerations
import FabricCapability.Ports.PublisherClient
import FabricCapability.Ports.RefusalCodes
import FabricCapability.Ports.Replies

/-!
# A client that knows what to expect

The client keeps one generation for each entity, and an application that leaves the expected
generation unset lets the client fill it in.  If nobody else changes the entities of the
client, what it keeps is what the next publication has to expect, until one of its own
publications loses track: it moves a published entity to a later generation, which starts its
sets anew, or it commits and its answer is not read.

## Main results

* `client_conflict_free`: runs in which every publication of the client keeps track.
* `next_generation_conflicts`: a publication for the next generation of an entity.
-/

namespace FabricCapability.Ports

open FabricCapability.Verified.ByteCodec
open FabricCapability.Verified.KeyedList
open FabricCapability.Verified.Runs
open FabricCapability.Verified.Workers

/-! ## Runs of one client -/

/-- If the publication commits and its answer fits into a frame, the answer is read. -/
def answerRead (registry : Registry) (request : PublicationRequest) : Bool :=
  (admitted registry request).all fun (grant, bound, entity) =>
    let steps := applySteps bound.schema grant request
    let applied := (runSteps bound request (bound.cell entity) steps).1.entity
    let changed := semanticChange entity.set applied
    let entries := pendingEntries applied entity.set
    let size := answerOverhead request steps
        ((entity.set.map fun set => set.setGeneration.toNat).getD 0)
        (entity.setGeneration.toNat + if changed then 1 else 0)
        (bound.registryGeneration.toNat + if changed then 1 else 0) changed +
      (entries.map CapabilityDiffEntry.size).sum
    !(entries.length ≤ kMaxWireDiffEntries && size ≤ kMaxFrameBytes) ||
      entries.all CapabilityDiffEntry.readable

/-- The client knows what to expect after the publication. -/
structure KeepsTrack (registry : Registry) (request : PublicationRequest) : Prop where
  keeps : advancesPublished registry request = false
  lands : strandsGeneration registry request = false
  read : answerRead registry request = true

/-- The client publishes its own entities, and nobody else changes them. -/
structure Undisturbed (mine : EntityId → Prop) (s t : Service) : Prop where
  others : t.answers = s.answers →
    ∀ id, mine id → t.registry.findEntity id = s.registry.findEntity id
  own : ∀ answer request, t.answers = answer :: s.answers → answer.handled = some request →
    mine request.entity

/-- The same, and the client keeps track. -/
structure Tracked (mine : EntityId → Prop) (s t : Service) : Prop
    extends Undisturbed mine s t where
  follows : ∀ answer request, t.answers = answer :: s.answers →
    answer.handled = some request → KeepsTrack s.registry request

/-- No publication that left the expected generation unset was told to expect another one. -/
def ConflictFree (answers : List Answer) : Prop :=
  ∀ answer ∈ answers, answer.asked.expectedSetGeneration = 0 →
    answer.result.code ∉ generationCodes

/-- The publications leave the expected generation to the client, and the generations of an
entity do not decrease.  The latest answer comes first. -/
structure LeftToClient (answers : List Answer) : Prop where
  unset : ∀ answer ∈ answers, answer.asked.expectedSetGeneration = 0
  ascending : answers.Pairwise fun later earlier =>
    later.asked.entity = earlier.asked.entity →
      earlier.asked.entityGeneration ≤ later.asked.entityGeneration

structure Consistent (options : Options) (mine : EntityId → Prop) (s : Service) : Prop where
  reached : ∃ operations, s.registry = afterRun options operations
  tracks : ∀ id, mine id → s.registry.Tracks id
  free : ConflictFree s.answers

/-- What the client does to the service. -/
inductive ClientDoes (mine : EntityId → Prop) (s : Service) : Service → Prop
  | reads : ClientDoes mine s s
  | publishes (asked request : PublicationRequest)
      (expects : mine request.entity → asked.expectedSetGeneration = 0 →
        request.expectedSetGeneration = s.registry.expected request.entity) :
      ClientDoes mine s (publishAnswered asked request s).1
  | refuses (asked : PublicationRequest) {code : ErrorCode} (message : Bytes)
      (other : code ∉ generationCodes) :
      ClientDoes mine s (refuseAnswered asked code message s).1

inductive OtherDoes (s : Service) : Service → Prop
  | reads : OtherDoes s s
  | calls (operation : Operation) :
      OtherDoes s { s with registry := operation.apply s.registry }

/-! ## One publication of the client -/

section Publication

variable {options : Options} {mine : EntityId → Prop} {s : Service}
  {asked request : PublicationRequest}

theorem publishAnswered_registry (asked request : PublicationRequest) (s : Service) :
    (publishAnswered asked request s).1.registry = (publish s.registry request).1 := rfl

/-- A step of the client that publishes is for an entity of its own, and keeps track. -/
theorem Tracked.published (h : Tracked mine s (publishAnswered asked request s).1) :
    mine request.entity ∧ KeepsTrack s.registry request :=
  ⟨h.own _ request rfl rfl, h.follows _ request rfl rfl⟩

theorem Consistent.tracking (hInv : Consistent options mine s)
    (hOk : Tracked mine s (publishAnswered asked request s).1) :
    Tracking (s.registry.expected request.entity) (publish s.registry request).1 request.entity
      (publish s.registry request).2 :=
  publish_tracking (hInv.tracks _ hOk.published.1) hOk.published.2.keeps hOk.published.2.lands

theorem publishAnswered_result (asked request : PublicationRequest) (s : Service) :
    (∃ result, (publish s.registry request).2 = .ok result ∧
      (publishAnswered asked request s).2 = result) ∨
    ∃ e, (publish s.registry request).2 = .error e ∧
      (publishAnswered asked request s).2 = failedResult request e := by
  unfold publishAnswered
  cases publish s.registry request with
  | mk after outcome =>
      cases outcome with
      | ok result => exact .inl ⟨result, rfl, rfl⟩
      | error e => exact .inr ⟨e, rfl, rfl⟩

theorem Consistent.published (hInv : Consistent options mine s)
    (hOk : Tracked mine s (publishAnswered asked request s).1)
    (hExpects : mine request.entity → asked.expectedSetGeneration = 0 →
      request.expectedSetGeneration = s.registry.expected request.entity) :
    Consistent options mine (publishAnswered asked request s).1 := by
  obtain ⟨hMine, hKeeps⟩ := hOk.published
  obtain ⟨operations, hReached⟩ := hInv.reached
  refine ⟨⟨operations ++ [.publish request], ?_⟩, fun id hId => ?_, fun answer hMem hUnset => ?_⟩
  · rw [publishAnswered_registry, hReached, afterRun, afterRun, run_append]
    rfl
  · by_cases hSame : request.entity = id
    · subst hSame
      exact (hInv.tracking hOk).tracks
    · exact (hInv.tracks id hId).congr (publish_other _ hSame)
  · rcases List.mem_cons.1 hMem with rfl | hBefore
    · show (publishAnswered asked request s).2.code ∉ generationCodes
      rcases publishAnswered_result asked request s with ⟨result, hOutcome, hResult⟩ |
        ⟨e, hOutcome, hResult⟩
      · rw [hResult]
        exact publish_undisputed (hInv.tracks _ hMine) hKeeps.keeps (hExpects hMine hUnset) hOutcome
      · rw [hResult]
        exact publish_failure_code hOutcome
    · exact hInv.free answer hBefore hUnset

end Publication

/-- What each party may do, and what holds of the service all the time. -/
def clientContract (options : Options) (mine : EntityId → Prop) : Contract Service Party where
  ok := Tracked mine
  does
    | .client => ClientDoes mine
    | .other _ => OtherDoes
  inv := Consistent options mine
  still party s := by
    cases party with
    | client => exact .reads
    | other n => exact .reads
  keeps party s t hInv hOk hDoes := by
    cases party with
    | client =>
        cases hDoes with
        | reads => exact hInv
        | publishes asked request hExpects => exact hInv.published hOk hExpects
        | refuses asked message hOther =>
            refine ⟨hInv.reached, hInv.tracks, fun answer hMem hUnset => ?_⟩
            rcases List.mem_cons.1 hMem with rfl | hBefore
            · exact hOther
            · exact hInv.free answer hBefore hUnset
    | other n =>
        cases hDoes with
        | reads => exact hInv
        | calls operation =>
            obtain ⟨operations, hReached⟩ := hInv.reached
            refine ⟨⟨operations ++ [operation], ?_⟩, fun id hId => ?_, hInv.free⟩
            · rw [afterRun, run_append, ← afterRun, ← hReached]
              rfl
            · exact (hInv.tracks id hId).congr (hOk.others rfl id hId)

/-- Facts about the entities of the client are not disturbed. -/
theorem stable_own {options : Options} {mine : EntityId → Prop} {P : Service → Prop}
    (h : ∀ s t : Service, (∀ id, mine id →
      t.registry.findEntity id = s.registry.findEntity id) → P s → P t) :
    Stable (clientContract options mine) .client P := by
  intro party hOther s t _ hP hOk hDoes
  cases party with
  | client => exact absurd rfl hOther
  | other n =>
      cases hDoes with
      | reads => exact hP
      | calls operation => exact h s _ (hOk.others rfl) hP

/-! ## Answers that are received -/

/-- The fields that the client looks at. -/
def SameNews (a b : PublicationResult) : Prop :=
  a.status = b.status ∧ a.newSetGeneration = b.newSetGeneration

theorem read_of_composed {result read : PublicationResult} {payload : Bytes}
    (hComposed : result.Composed) (hEncode : encodePublicationResult result = .ok payload)
    (hDecode : decodePublicationResult payload = .ok read) : SameNews read result := by
  have hReads := readsBack_result hComposed payload hEncode
  unfold decodePublicationResult at hDecode
  rw [readWhole_eq_ok hReads] at hDecode
  obtain ⟨entries, -, hRead⟩ := Option.bind_eq_some_iff.1 hDecode
  obtain rfl := Option.some.inj hRead
  exact ⟨rfl, rfl⟩

/-- An answer that says nothing but its message: a control character in the message keeps it
from being read at all. -/
theorem read_of_bare {result read : PublicationResult} {payload : Bytes}
    (hEntries : result.diff.entries = []) (hExplanation : result.explanation.Legible)
    (hEncode : encodePublicationResult result = .ok payload)
    (hDecode : decodePublicationResult payload = .ok read) : SameNews read result := by
  by_cases hPlain : Plain result.message
  · refine read_of_composed (composed_of_encoded ⟨hPlain, ?_, hExplanation⟩ hEncode) hEncode hDecode
    rw [hEntries]
    intro entry hMem
    cases hMem
  · have hMessage : ReadsBack (readText (kMaxTextLength * 4))
        (writeText result.message (kMaxTextLength * 4)) _ := readsBack_freeText _ _
    have hControl : result.message.any isControl = true := by
      rw [← any_isControl] at hPlain
      exact Bool.eq_true_of_not_eq_false hPlain
    rw [hControl] at hMessage
    have hReads : ReadsBack decodePublicationResultFields (encodePublicationResult result) none := by
      refine ReadsBack.bind_some (readsBack_enum _ (mem_kStatusWire _) (by decide)) ?_
      refine ReadsBack.bind_some (readsBack_errorCode _) ?_
      exact ReadsBack.bind_none hMessage
    unfold decodePublicationResult at hDecode
    rw [readWhole_eq_ok (hReads payload hEncode)] at hDecode
    cases hDecode

theorem legible_blank : ({} : Explanation).Legible :=
  ⟨plain_nil, plain_nil, fun _ hMem => by cases hMem⟩

/-- What a received answer to a publication tells the client: the generation to expect, or
nothing where it has not changed. -/
structure Tells (before after : CapabilitySetGeneration) (payload : Bytes) : Prop where
  known : ∀ read, decodePublicationResult payload = .ok read → read.status ≠ .rejected →
    read.newSetGeneration = after
  same : (∀ read, decodePublicationResult payload = .ok read → read.status = .rejected) →
    after = before

section Received

variable {options : Options} {mine : EntityId → Prop} {s : Service}
  {asked request : PublicationRequest} {payload : Bytes}

/-- The answer to a commit is read, if it arrives. -/
theorem committed_read {after : Registry} {result : PublicationResult}
    (c : Committed s.registry request after result) (hRead : answerRead s.registry request = true)
    (hComposed : result.Composed) (hEncode : encodePublicationResult result = .ok payload)
    (hFrame : payload.length ≤ kMaxFrameBytes) :
    ∃ read, decodePublicationResult payload = .ok read := by
  have hCount := count_of_encoded hEncode
  have hSize : result.size ≤ kMaxFrameBytes := by
    rw [← (sized_result hComposed hCount).length_eq hEncode]
    exact hFrame
  unfold answerRead at hRead
  rw [c.admits, Option.all_some] at hRead
  dsimp only at hRead
  rw [← c.published_eq, ← c.entries_eq] at hRead
  have hFits := c.size_eq
  rw [← c.entries_eq] at hFits
  rw [← hFits, decide_eq_true hCount, decide_eq_true hSize, Bool.and_true, Bool.not_true,
    Bool.false_or, List.all_eq_true] at hRead
  obtain ⟨written, hWritten, -, read, hDecode⟩ := (answer_iff hComposed).2 ⟨hCount, hRead, hSize⟩
  rw [hEncode, Except.ok.injEq] at hWritten
  exact ⟨read, hWritten ▸ hDecode⟩

theorem Consistent.tells (hInv : Consistent options mine s)
    (hOk : Tracked mine s (publishAnswered asked request s).1)
    (hEncode : encodePublicationResult (publishAnswered asked request s).2 = .ok payload)
    (hFrame : payload.length ≤ kMaxFrameBytes) :
    Tells (s.registry.expected request.entity)
      ((publishAnswered asked request s).1.registry.expected request.entity) payload := by
  have hTracking := hInv.tracking hOk
  obtain ⟨operations, hReached⟩ := hInv.reached
  rw [publishAnswered_registry]
  rcases publishAnswered_result asked request s with ⟨result, hOutcome, hResult⟩ |
    ⟨e, hOutcome, hResult⟩
  · rw [hResult] at hEncode
    have hPublish : publish s.registry request = ((publish s.registry request).1, .ok result) :=
      Prod.ext rfl hOutcome
    have hComposed : result.Composed := by
      rw [hReached] at hPublish
      exact (publish_answered hPublish hEncode).1
    refine ⟨fun read hRead hStatus => ?_, fun hRejected => hTracking.kept fun answered hAnswered => ?_⟩
    · obtain ⟨hSame, hGeneration⟩ := read_of_composed hComposed hEncode hRead
      rw [hGeneration]
      exact hTracking.told result hOutcome (hSame ▸ hStatus)
    · rw [hOutcome, Except.ok.injEq] at hAnswered
      subst hAnswered
      intro hCommitted
      obtain ⟨c⟩ := publish_committed hPublish hCommitted
      obtain ⟨read, hRead⟩ := committed_read c hOk.published.2.read hComposed hEncode hFrame
      have hStatus := (read_of_composed hComposed hEncode hRead).1
      rw [hRejected read hRead, hCommitted] at hStatus
      cases hStatus
  · rw [hResult] at hEncode
    refine ⟨fun read hRead hStatus => ?_, fun _ => hTracking.kept fun result hAnswered => ?_⟩
    · have hSame := (read_of_bare rfl legible_blank hEncode hRead).1
      exact absurd hSame hStatus
    · rw [hOutcome] at hAnswered
      cases hAnswered

end Received

/-! ## The cache of the client -/

namespace PublisherClient

/-- What the client holds of its own entities is what the next publication has to expect. -/
def Agrees (mine : EntityId → Prop) (client : PublisherClient) (s : Service) : Prop :=
  ∀ id, mine id → id.isSet = true → ∀ held, client.cached id = some held →
    held.setGeneration = s.registry.expected id

section Cache

variable {mine : EntityId → Prop} {client : PublisherClient} {s t : Service} {entity : EntityId}

theorem cached_setCached (client : PublisherClient) (entity : EntityId) (entry : GenerationCache) :
    (client.setCached entity entry).cached entity = some entry := by
  have hHeld : lookup Prod.fst entity (upsert Prod.fst (entity, entry) client.generationCache) =
      some (entity, entry) := @lookup_upsert_self _ _ _ Prod.fst (entity, entry) _
  unfold cached setCached
  rw [hHeld]
  rfl

theorem cached_setCached_ne (client : PublisherClient) {entity id : EntityId}
    (entry : GenerationCache) (h : entity ≠ id) :
    (client.setCached entity entry).cached id = client.cached id := by
  unfold cached setCached
  rw [lookup_upsert_ne h]

theorem agrees_nil (h : client.generationCache = []) : client.Agrees mine s := by
  intro id _ _ held hHeld
  unfold cached at hHeld
  rw [h] at hHeld
  cases hHeld

theorem Agrees.congr (hAgrees : client.Agrees mine s)
    (h : ∀ id, mine id → t.registry.expected id = s.registry.expected id) :
    client.Agrees mine t := by
  intro id hMine hSet held hHeld
  rw [h id hMine]
  exact hAgrees id hMine hSet held hHeld

/-- The generation of one entity is learnt, and the other ones have not changed. -/
theorem Agrees.setCached (hAgrees : client.Agrees mine s) {entry : GenerationCache}
    (hEntity : mine entity → entity.isSet = true →
      entry.setGeneration = t.registry.expected entity)
    (hOthers : ∀ id, mine id → entity ≠ id → t.registry.expected id = s.registry.expected id) :
    (client.setCached entity entry).Agrees mine t := by
  intro id hMine hSet held hHeld
  by_cases hSame : entity = id
  · subst hSame
    rw [cached_setCached, Option.some.injEq] at hHeld
    rw [← hHeld]
    exact hEntity hMine hSet
  · rw [cached_setCached_ne _ _ hSame] at hHeld
    rw [hOthers id hMine hSame]
    exact hAgrees id hMine hSet held hHeld

/-- The generation of one entity is forgotten, and the other ones have not changed. -/
theorem Agrees.forget (hAgrees : client.Agrees mine s)
    (hOthers : ∀ id, mine id → entity ≠ id → t.registry.expected id = s.registry.expected id) :
    ({ client with
        generationCache := client.generationCache.filter fun held => held.1 ≠ entity } :
      PublisherClient).Agrees mine t := by
  intro id hMine hSet held hHeld
  unfold cached at hHeld
  by_cases hSame : entity = id
  · subst hSame
    have hNone : lookup Prod.fst entity
        (client.generationCache.filter fun held => held.1 ≠ entity) = none := by
      rw [lookup_eq_none]
      simp
    rw [hNone] at hHeld
    cases hHeld
  · rw [lookup_filter fun found _ hFound => by simpa [hFound] using Ne.symm hSame] at hHeld
    rw [hOthers id hMine hSame]
    exact hAgrees id hMine hSet held hHeld

theorem agrees_stable (options : Options) (mine : EntityId → Prop) (client : PublisherClient) :
    Stable (clientContract options mine) .client (client.Agrees mine) :=
  stable_own fun _ _ hSame hAgrees =>
    hAgrees.congr fun id hMine => expected_congr (hSame id hMine)

/-- A lost frame closes the connection, and the client forgets everything. -/
theorem receiveResult_lost : ((client.receiveResult entity none).1).Agrees mine s :=
  agrees_nil rfl

theorem receiveStatus_lost : ((client.receiveStatus entity none).1).Agrees mine s :=
  agrees_nil rfl

/-- The answer to a publication is received. -/
theorem Agrees.receiveResult (hAgrees : client.Agrees mine s) {payload : Bytes}
    (hTells : Tells (s.registry.expected entity) (t.registry.expected entity) payload)
    (hOthers : ∀ id, mine id → entity ≠ id → t.registry.expected id = s.registry.expected id) :
    ((client.receiveResult entity (some ⟨.publishAck, payload⟩)).1).Agrees mine t := by
  have hKept : t.registry.expected entity = s.registry.expected entity →
      client.Agrees mine t := by
    intro hSame
    refine hAgrees.congr fun id hMine => ?_
    by_cases hId : entity = id
    · rw [← hId]
      exact hSame
    · exact hOthers id hMine hId
  unfold PublisherClient.receiveResult
  dsimp only
  rw [if_neg (not_not.2 rfl)]
  cases hDecode : decodePublicationResult payload with
  | error e =>
      exact hKept (hTells.same fun read hRead => by rw [hDecode] at hRead; cases hRead)
  | ok result =>
      dsimp only
      split
      · exact hAgrees.forget hOthers
      · split
        · rename_i hStatus
          exact hAgrees.setCached (fun _ _ => hTells.known result hDecode hStatus) hOthers
        · rename_i hStatus
          refine hKept (hTells.same fun read hRead => ?_)
          rw [hDecode, Except.ok.injEq] at hRead
          rw [← hRead]
          exact not_not.1 hStatus

/-- The answer to a `Status` is received. -/
theorem Agrees.receiveStatus (hAgrees : client.Agrees mine s) {reply : Reply}
    (hStatus : ∀ status, decodeStatus reply.payload = .ok status → mine entity →
      entity.isSet = true → status.setGeneration = s.registry.expected entity) :
    ((client.receiveStatus entity (some reply)).1).Agrees mine s ∧
      ((client.receiveStatus entity (some reply)).2 = true →
        (((client.receiveStatus entity (some reply)).1).cached entity).isSome = true) := by
  unfold PublisherClient.receiveStatus
  dsimp only
  split
  · exact ⟨hAgrees, fun h => by cases h⟩
  · cases hDecode : decodeStatus reply.payload with
    | error e => exact ⟨hAgrees, fun h => by cases h⟩
    | ok status =>
        refine ⟨?_, fun _ => ?_⟩
        · exact hAgrees.setCached (hStatus status hDecode) fun _ _ _ => rfl
        · exact Option.isSome_iff_exists.2 ⟨_, cached_setCached client entity _⟩

end Cache

end PublisherClient

/-! ## Exchanges -/

/-- A frame is answered when its payload is built. -/
theorem reply_of_encoded {type : WireMessageType} {written : Outcome Bytes} {reply : Reply}
    (h : written.toOption.map (fun encoded => (⟨type, encoded⟩ : Reply)) = some reply) :
    ∃ encoded, written = .ok encoded ∧ reply = ⟨type, encoded⟩ := by
  cases written with
  | error e => cases h
  | ok encoded => exact ⟨encoded, rfl, (Option.some.inj h).symm⟩

section Exchanges

variable {options : Options} {mine : EntityId → Prop} {P : Service → Prop}

theorem deliver_valid (type : WireMessageType) (requestId : UInt64) (payload : Bytes) :
    Valid (clientContract options mine) .client
      (fun sent s => P s ∧ (sent = true → payload.length ≤ kMaxFrameBytes))
      (deliver type requestId payload) P := by
  unfold deliver
  split
  · exact valid_pure fun _ _ hP => ⟨hP, fun hSent => by cases hSent⟩
  · rename_i frame hFrame
    exact fun _ _ _ hP => ⟨hP, fun _ => encodeFrame_isOk.1 ⟨frame, hFrame⟩⟩

/-- What follows from an answer that is lost, and from one that is received. -/
theorem exchange_valid {post : Option Reply → Service → Prop} (type : WireMessageType)
    (requestId : UInt64) (payload : Bytes) {answer : Bytes → Exchange (Option Reply)}
    (hLost : ∀ s, P s → post none s)
    (hAnswer : Valid (clientContract options mine) .client
      (fun reply s => post none s ∧ ∀ received, reply = some received →
        received.payload.length ≤ kMaxFrameBytes → post (some received) s)
      (answer payload) P) :
    Valid (clientContract options mine) .client post
      (exchange type requestId payload answer) P := by
  unfold exchange
  refine valid_bind (deliver_valid type requestId payload) fun sent => ?_
  cases sent with
  | false => exact valid_pure fun s _ hP => hLost s hP.1
  | true =>
      refine valid_bind (valid_weaken hAnswer fun _ _ hP => hP.1) fun reply => ?_
      cases reply with
      | none => exact valid_pure fun _ _ hPost => hPost.1
      | some received =>
          refine valid_bind (deliver_valid received.type requestId received.payload)
            fun arrived => ?_
          cases arrived with
          | false => exact valid_pure fun _ _ hPost => hPost.1.1
          | true => exact valid_pure fun _ _ hPost => hPost.1.2 received rfl (hPost.2 rfl)

variable {client : PublisherClient} {entity : EntityId}

/-- The status of an entity shows the generation to expect. -/
theorem Consistent.status {s : Service} (hInv : Consistent options mine s) (hMine : mine entity)
    (status : StatusPayload) (hBlank : status.setGeneration = 0) :
    (statusOf entity (s.registry.findEntity entity) status).setGeneration =
      s.registry.expected entity := by
  cases hFound : s.registry.findEntity entity with
  | none =>
      unfold Registry.expected
      rw [hFound]
      exact hBlank
  | some held =>
      rw [expected_found hFound]
      exact (hInv.tracks entity hMine held hFound).shown

/-- The answer to a `Status` shows what the registry held, and that has not changed. -/
theorem answerStatus_valid {payload : Bytes} {asked : StatusPayload}
    (hAsked : decodeStatus payload = .ok asked) :
    Valid (clientContract options mine) .client
      (fun reply s => client.Agrees mine s ∧ ∀ received, reply = some received →
        ∀ status, decodeStatus received.payload = .ok status → mine asked.entity →
          asked.entity.isSet = true → status.setGeneration = s.registry.expected asked.entity)
      (answerStatus payload) (client.Agrees mine) := by
  have hAgrees := PublisherClient.agrees_stable options mine client
  unfold answerStatus
  refine valid_bind (M := fun _ => client.Agrees mine)
    (valid_read (fun _ => hAgrees) fun _ _ hP => hP) fun epoch => ?_
  refine valid_bind (M := fun _ => client.Agrees mine)
    (valid_read (fun _ => hAgrees) fun _ _ hP => hP) fun registryGeneration => ?_
  rw [hAsked]
  dsimp only
  split
  · refine valid_bind (M := fun found s => client.Agrees mine s ∧
        (mine asked.entity → found = s.registry.findEntity asked.entity))
      (valid_read (fun found => stable_and hAgrees (stable_own ?_)) fun _ _ hP => ⟨hP, fun _ => rfl⟩)
      fun found => valid_pure fun s hInv hP => ⟨hP.1, fun received hReceived status hStatus hMine _ => ?_⟩
    · intro s t hSame hFound hMine
      rw [hSame _ hMine]
      exact hFound hMine
    · obtain ⟨encoded, hEncoded, rfl⟩ := reply_of_encoded hReceived
      have hRead := decodeStatus_encode hEncoded
      rw [hRead, Except.ok.injEq] at hStatus
      rw [← hStatus, hP.2 hMine]
      exact hInv.status hMine _ rfl
  · rename_i hUnset
    exact valid_pure fun _ _ hP => ⟨hP, fun _ _ _ _ _ hSet => absurd hSet hUnset⟩

theorem rereadRequest_fields {request read : PublicationRequest}
    (h : rereadRequest request = some read) :
    read.entity = request.entity ∧ read.expectedSetGeneration = request.expectedSetGeneration ∧
      request.entity.isSet = true := by
  unfold rereadRequest at h
  split at h
  · split at h
    · split at h
      · split at h
        · rename_i hEntity
          obtain ⟨claims, -, h⟩ := Option.bind_eq_some_iff.1 h
          split at h
          · obtain rfl := Option.some.inj h
            exact ⟨rfl, rfl, hEntity⟩
          · cases h
        · cases h
      · cases h
    · cases h
  · cases h

theorem tells_refused {code : ErrorCode} {message payload : Bytes} {g : CapabilitySetGeneration}
    (hEncode : encodePublicationResult (refusedResult code message) = .ok payload) :
    Tells g g payload where
  known _ hRead hStatus := absurd (read_of_bare rfl legible_blank hEncode hRead).1 hStatus
  same _ := rfl

/-- The answer to a publication: when it is received, the client still agrees. -/
def Leaves (mine : EntityId → Prop) (client : PublisherClient) (entity : EntityId)
    (result : PublicationResult) (s : Service) : Prop :=
  ∀ payload, encodePublicationResult result = .ok payload → payload.length ≤ kMaxFrameBytes →
    ((client.receiveResult entity (some ⟨.publishAck, payload⟩)).1).Agrees mine s

theorem leaves_stable (result : PublicationResult) :
    Stable (clientContract options mine) .client (Leaves mine client entity result) :=
  stable_own fun _ _ hSame hLeaves payload hEncode hFrame =>
    (hLeaves payload hEncode hFrame).congr fun id hMine => expected_congr (hSame id hMine)

theorem refuseAnswered_valid (asked : PublicationRequest) {code : ErrorCode} (message : Bytes)
    (hOther : code ∉ generationCodes) :
    Valid (clientContract options mine) .client (Leaves mine client entity)
      (Task.update (refuseAnswered asked code message) : Exchange PublicationResult)
      (client.Agrees mine) := by
  refine valid_update leaves_stable fun s _ hAgrees _ => ⟨.refuses asked message hOther, ?_⟩
  exact fun payload hEncode _ => hAgrees.receiveResult (tells_refused hEncode) fun _ _ _ => rfl

theorem publishAnswered_valid {asked request : PublicationRequest} (hSet : request.entity.isSet = true)
    (hKnown : asked.expectedSetGeneration = 0 →
      ∃ held, client.cached request.entity = some held ∧
        request.expectedSetGeneration = held.setGeneration) :
    Valid (clientContract options mine) .client (Leaves mine client request.entity)
      (Task.update (publishAnswered asked request) : Exchange PublicationResult)
      (client.Agrees mine) := by
  refine valid_update leaves_stable fun s hInv hAgrees hOk => ⟨?_, ?_⟩
  · refine .publishes asked request fun hMine hUnset => ?_
    obtain ⟨held, hHeld, hExpected⟩ := hKnown hUnset
    rw [hExpected]
    exact hAgrees _ hMine hSet held hHeld
  · intro payload hEncode hFrame
    refine hAgrees.receiveResult (hInv.tells hOk hEncode hFrame) fun id _ hOther => ?_
    exact expected_congr (publish_other _ hOther)

/-- The coordinator answers a publication that expects what the client holds. -/
theorem answerPublish_valid {asked outgoing : PublicationRequest} {payload : Bytes}
    (connection : ConnectionState) (hEncode : encodePublicationRequest outgoing = .ok payload)
    (hKnown : asked.expectedSetGeneration = 0 →
      ∃ held, client.cached outgoing.entity = some held ∧
        outgoing.expectedSetGeneration = held.setGeneration) :
    Valid (clientContract options mine) .client
      (fun reply s => ((client.receiveResult outgoing.entity none).1).Agrees mine s ∧
        ∀ received, reply = some received → received.payload.length ≤ kMaxFrameBytes →
          ((client.receiveResult outgoing.entity (some received)).1).Agrees mine s)
      (answerPublish asked connection payload) (client.Agrees mine) := by
  have hAck : ∀ result, Valid (clientContract options mine) .client
      (fun reply s => ((client.receiveResult outgoing.entity none).1).Agrees mine s ∧
        ∀ received, reply = some received → received.payload.length ≤ kMaxFrameBytes →
          ((client.receiveResult outgoing.entity (some received)).1).Agrees mine s)
      (pure (publishAck result) : Exchange (Option Reply))
      (Leaves mine client outgoing.entity result) := by
    intro result
    refine valid_pure fun s _ hLeaves => ⟨PublisherClient.receiveResult_lost, ?_⟩
    intro received hReceived hFrame
    obtain ⟨encoded, hEncoded, rfl⟩ := reply_of_encoded hReceived
    exact hLeaves encoded hEncoded hFrame
  unfold answerPublish
  cases hDecode : decodePublicationRequest payload with
  | error e =>
      exact valid_bind (refuseAnswered_valid asked _ (decodePublicationRequest_code payload e hDecode))
        hAck
  | ok request =>
      have hReads := readsBack_request outgoing payload hEncode
      have hRead : rereadRequest outgoing = some request := (readWhole_eq_ok hReads).1 hDecode
      obtain ⟨hEntity, hExpected, hSet⟩ := rereadRequest_fields hRead
      dsimp only
      split
      · refine valid_bind (M := fun _ => client.Agrees mine)
          (valid_read (fun _ => PublisherClient.agrees_stable options mine client)
            fun _ _ hP => hP) fun epoch => ?_
        rw [← hEntity] at hAck ⊢
        refine valid_bind (publishAnswered_valid (hEntity ▸ hSet) ?_) hAck
        intro hUnset
        obtain ⟨held, hHeld, hSame⟩ := hKnown hUnset
        exact ⟨held, hEntity ▸ hHeld, hExpected.trans hSame⟩
      · exact valid_bind (refuseAnswered_valid asked _ (by decide)) hAck

end Exchanges

/-! ## Rounds of the client -/

namespace PublisherClient

section Rounds

variable {options : Options} {mine : EntityId → Prop}

/-- The client knows a generation, or the call ends. -/
def Ready (mine : EntityId → Prop) (entity : EntityId) (answer : PublisherClient × Bool)
    (s : Service) : Prop :=
  answer.1.Agrees mine s ∧ (answer.2 = true → (answer.1.cached entity).isSome = true)

theorem refreshStatusLocked_valid (client : PublisherClient) (entity : EntityId) :
    Valid (clientContract options mine) .client (Ready mine entity)
      (client.refreshStatusLocked entity) (client.Agrees mine) := by
  unfold refreshStatusLocked
  split
  · exact valid_pure fun _ _ hAgrees => ⟨hAgrees, fun hReady => by cases hReady⟩
  · rename_i payload hEncode
    have hAsked := decodeStatus_encode hEncode
    refine valid_bind (M := fun reply s =>
        Ready mine entity (client.nextRequest.receiveStatus entity reply) s)
      (exchange_valid _ _ _ (fun s _ => ⟨receiveStatus_lost, fun hReady => by cases hReady⟩) ?_)
      fun reply => valid_pure fun _ _ hReady => hReady
    refine valid_consequence (answerStatus_valid hAsked) fun reply s _ hAnswer => ?_
    refine ⟨⟨receiveStatus_lost, fun hReady => by cases hReady⟩, fun received hReceived _ => ?_⟩
    have hAgrees : client.nextRequest.Agrees mine s := hAnswer.1
    exact hAgrees.receiveStatus (hAnswer.2 received hReceived)

theorem ready_valid (client : PublisherClient) (entity : EntityId) :
    Valid (clientContract options mine) .client (Ready mine entity) (client.ready entity)
      (client.Agrees mine) := by
  unfold ready
  split
  · exact refreshStatusLocked_valid client entity
  · rename_i held hHeld
    split
    · exact refreshStatusLocked_valid client entity
    · refine valid_pure fun _ _ hAgrees => ⟨hAgrees, fun _ => ?_⟩
      exact Option.isSome_iff_exists.2 ⟨held, hHeld⟩

/-- What is sent expects what the client holds. -/
theorem outgoing_expects {client : PublisherClient} {request : PublicationRequest}
    (hKnown : (client.cached request.entity).isSome = true) (epoch : CoordinatorEpoch)
    (hUnset : request.expectedSetGeneration = 0) :
    ∃ held, client.cached (client.outgoing epoch request).entity = some held ∧
      (client.outgoing epoch request).expectedSetGeneration = held.setGeneration := by
  obtain ⟨held, hHeld⟩ := Option.isSome_iff_exists.1 hKnown
  refine ⟨held, hHeld, ?_⟩
  unfold outgoing
  rw [hHeld]
  exact if_pos hUnset

theorem send_valid (client : PublisherClient) (epoch : CoordinatorEpoch)
    {request : PublicationRequest} (hKnown : (client.cached request.entity).isSome = true) :
    Valid (clientContract options mine) .client (fun answer s => answer.1.Agrees mine s)
      (client.send epoch request) (client.Agrees mine) := by
  unfold send
  split
  · exact valid_pure fun _ _ hAgrees => hAgrees
  · rename_i payload hEncode
    refine valid_bind (M := fun reply s =>
        ((client.nextRequest.receiveResult request.entity reply).1).Agrees mine s)
      (exchange_valid _ _ _ (fun _ _ => receiveResult_lost) ?_)
      fun reply => valid_pure fun _ _ hAgrees => hAgrees
    exact @answerPublish_valid options mine client.nextRequest request
      (client.outgoing epoch request) payload _ hEncode (outgoing_expects hKnown epoch)

theorem publish_valid (client : PublisherClient) (request : PublicationRequest) :
    Valid (clientContract options mine) .client (fun answer s => answer.1.Agrees mine s)
      (client.publish request) (client.Agrees mine) := by
  unfold publish
  split
  · refine valid_bind (ready_valid client request.entity) fun ⟨refreshed, goesOn⟩ => ?_
    cases goesOn with
    | false => exact valid_pure fun _ _ hReady => hReady.1
    | true =>
        refine valid_given (fun _ _ hReady => hReady.2 rfl) fun hKnown => ?_
        exact valid_weaken (send_valid refreshed client.epoch hKnown) fun _ _ hReady => hReady.1
  · exact valid_pure fun _ _ hAgrees => hAgrees

theorem Agrees.connect {client : PublisherClient} {s : Service} (h : client.Agrees mine s)
    (ack : Option CoordinatorEpoch) : (client.connect ack).Agrees mine s := by
  unfold PublisherClient.connect
  split
  · exact h
  · cases ack with
    | none => exact agrees_nil rfl
    | some epoch => exact h

end Rounds

end PublisherClient

/-- What a party relies on at the start of a round. -/
def PartyFacts (mine : EntityId → Prop) : Party → PartyRole → Service → Prop
  | .client, .publishing client => client.Agrees mine
  | .other _, .calling _ => fun _ => True
  | _, _ => fun _ => False

theorem partyRound_proved (options : Options) (mine : EntityId → Prop) :
    Proved partyRound PartyStarts (clientContract options mine) (PartyFacts mine) where
  stable party role := by
    cases party with
    | client =>
        cases role with
        | publishing client => exact PublisherClient.agrees_stable options mine client
        | calling operation => exact stable_const False
    | other n =>
        cases role with
        | publishing client => exact stable_const False
        | calling operation => exact stable_const True
  valid party role := by
    cases party with
    | client =>
        cases role with
        | publishing client =>
            refine valid_input fun call => ?_
            have hNext : ∀ (later : PublisherClient) (s : Service), later.Agrees mine s →
                ∀ role, some (PartyRole.publishing later) = some role →
                  PartyFacts mine .client role s := by
              intro later s hAgrees role hRole
              obtain rfl := Option.some.inj hRole
              exact hAgrees
            cases call with
            | connect ack => exact valid_pure fun s _ hAgrees => hNext _ s (hAgrees.connect ack)
            | close =>
                exact valid_pure fun s _ _ => hNext _ s (PublisherClient.agrees_nil rfl)
            | publish request =>
                refine valid_bind (PublisherClient.publish_valid client request) fun answer => ?_
                exact valid_pure fun s _ hAgrees => hNext _ s hAgrees
        | calling operation => exact valid_absurd fun _ _ => id
    | other n =>
        cases role with
        | publishing client => exact valid_absurd fun _ _ => id
        | calling operation =>
            refine valid_bind (M := fun _ _ => True) (valid_modify (stable_const True) ?_) fun _ => ?_
            · exact fun s _ _ _ => ⟨.calls operation, trivial⟩
            · exact valid_pure fun _ _ _ role hRole => by cases hRole
  starts party role s t _ hStarts _ := by
    cases hStarts with
    | client options => exact ⟨.reads, PublisherClient.agrees_nil rfl⟩
    | other n operation => exact ⟨.reads, trivial⟩

/--
**A client without conflicts**: in every run in which the client alone changes its entities,
and knows what to expect after each of its publications, no publication that left the
expected generation unset is told to expect another one.
-/
theorem client_conflict_free (options : Options) (operations : List Operation)
    (mine : EntityId → Prop) (system : Session)
    (hTracks : ∀ id, mine id → (afterRun options operations).Tracks id)
    (hRun : Reaches partyRound PartyStarts (Tracked mine)
      (session (afterRun options operations)) system) :
    ConflictFree system.shared.answers := by
  have hStart : Consistent options mine { registry := afterRun options operations } :=
    ⟨⟨operations, rfl⟩, hTracks, fun _ hMem => by cases hMem⟩
  have hProved := partyRound_proved options mine
  exact (reaches_inv hProved (atWork_idle hStart) hRun).free

/-! ### Two generations of an entity -/

/-- How a party begins, as a function. -/
def partyBegins (party : Party) (role : PartyRole) (s : Service) : Option Service :=
  match party, role with
  | .client, .publishing client =>
      if client.connected || client.requestId != 0 || client.epoch != 0 ||
        !client.generationCache.isEmpty then none
      else some s
  | .other _, .calling _ => some s
  | _, _ => none

theorem partyBegins_starts {party : Party} {role : PartyRole} {s t : Service}
    (h : partyBegins party role s = some t) : PartyStarts party role s t := by
  unfold partyBegins at h
  split at h
  · rename_i client
    split at h
    · cases h
    · rename_i hFresh
      obtain rfl := Option.some.inj h
      obtain ⟨options, connected, requestId, epoch, generationCache⟩ := client
      simp only [Bool.or_eq_true, bne_iff_ne, Bool.not_eq_true', not_or, not_not,
        Bool.not_eq_true, Bool.not_eq_false, List.isEmpty_iff] at hFresh
      obtain ⟨⟨⟨rfl, rfl⟩, rfl⟩, rfl⟩ := hFresh
      exact .client options s
  · obtain rfl := Option.some.inj h
    exact .other _ _ s
  · cases h

namespace Sample

def mine (id : EntityId) : Prop := id = entity

/-- The entity changes with an answer only, whose publication meets the condition. -/
def answersOnly (condition : Registry → PublicationRequest → Bool) (s t : Service) : Bool :=
  if t.answers.length = s.answers.length then
    t.registry.findEntity entity == s.registry.findEntity entity
  else t.answers.head?.all fun answer => answer.handled.all fun request =>
    request.entity == entity && condition s.registry request

theorem answersOnly_undisturbed {condition : Registry → PublicationRequest → Bool} {s t : Service}
    (h : answersOnly condition s t = true) :
    Undisturbed mine s t ∧ ∀ answer request, t.answers = answer :: s.answers →
      answer.handled = some request → condition s.registry request = true := by
  unfold answersOnly at h
  have hAnswered : ∀ answer request, t.answers = answer :: s.answers →
      answer.handled = some request →
        request.entity = entity ∧ condition s.registry request = true := by
    intro answer request hAnswers hHandled
    rw [if_neg (by rw [hAnswers, List.length_cons]; omega), hAnswers, List.head?_cons,
      Option.all_some, hHandled, Option.all_some, Bool.and_eq_true, beq_iff_eq] at h
    exact h
  refine ⟨⟨fun hSame id hMine => ?_, fun answer request hAnswers hHandled => ?_⟩, ?_⟩
  · rw [if_pos (by rw [hSame]), beq_iff_eq] at h
    rw [show id = entity from hMine]
    exact h
  · exact (hAnswered answer request hAnswers hHandled).1
  · exact fun answer request hAnswers hHandled => (hAnswered answer request hAnswers hHandled).2

def tracking (registry : Registry) (request : PublicationRequest) : Bool :=
  !advancesPublished registry request && !strandsGeneration registry request &&
    answerRead registry request

abbrev ClientMove : Type := Move ClientCall PartyRole Party

/-- The client connects, and publishes for the first generation of the entity. -/
def firstGeneration : List ClientMove :=
  [.start .client (.publishing { options := { publisher, scope, source, workerBoot := bootOne } }),
    .receive .client (.connect (some 1)), .turn .client, .receive .client (.publish firstClaim)] ++
    -- the status is asked for and received, and the publication is sent and handled
    .choose .client true :: List.replicate 3 (.turn .client) ++
    [.choose .client true, .choose .client true, .turn .client, .turn .client]

/-- The same claim for the next generation. -/
def nextGeneration : PublicationRequest :=
  publication bootOne "attempt-2" 2 0 (claim .supported .durable)

/-- Another claim for the same generation. -/
def laterClaim : PublicationRequest :=
  publication bootOne "attempt-2" 1 0 (claim .unsupported .durable)

/-- The answer is received, and the client publishes again, with what it holds. -/
def andThen (request : PublicationRequest) : List ClientMove :=
  firstGeneration ++ [.choose .client true, .turn .client,
    .receive .client (.publish request), .choose .client true, .turn .client, .turn .client]

def leftToClient (answers : List Answer) : Bool :=
  answers.all (fun answer => answer.asked.expectedSetGeneration == 0) &&
    decide (answers.Pairwise fun later earlier => later.asked.entity = earlier.asked.entity →
      earlier.asked.entityGeneration ≤ later.asked.entityGeneration)

def conflicting (s : Service) : Bool :=
  leftToClient s.answers && s.answers.any fun answer =>
    answer.asked.expectedSetGeneration == 0 && generationCodes.contains answer.result.code

/-- Two publications that leave the expected generation to the client are committed, the later
one with the generation of the answer to the earlier one. -/
def committedTwice (s : Service) : Bool :=
  s.answers.map (fun answer => (answer.asked.expectedSetGeneration,
    answer.handled.map PublicationRequest.expectedSetGeneration, answer.result.status)) ==
  [(0, some 1, .committed), (0, some 0, .committed)]

end Sample

theorem registered_tracks (id : EntityId) : (afterRun {} Sample.setup).Tracks id := by
  intro entity hFound
  have hNone : (afterRun {} Sample.setup).entities = [] := by decide +kernel
  rw [Registry.findEntity, hNone] at hFound
  cases hFound

theorem held_generation_conflict_free :
    ∃ system : Session, Sample.committedTwice system.shared = true ∧
      ConflictFree system.shared.answers := by
  obtain ⟨system, hRun, hCommitted⟩ := @exists_played _ _ _ _ _ partyRound partyBegins PartyStarts
    (fun _ _ _ _ => partyBegins_starts) (Sample.answersOnly Sample.tracking)
    (Tracked Sample.mine) (fun s t hAllowed => by
      obtain ⟨hUndisturbed, hTracking⟩ := Sample.answersOnly_undisturbed hAllowed
      refine ⟨hUndisturbed, fun answer request hAnswers hHandled => ?_⟩
      have hKeeps := hTracking answer request hAnswers hHandled
      unfold Sample.tracking at hKeeps
      rw [Bool.and_eq_true, Bool.and_eq_true, Bool.not_eq_true', Bool.not_eq_true'] at hKeeps
      exact ⟨hKeeps.1.1, hKeeps.1.2, hKeeps.2⟩)
    (session (afterRun {} Sample.setup)) (Sample.andThen Sample.laterClaim) Sample.committedTwice
    (by decide +kernel)
  exact ⟨system, hCommitted, client_conflict_free {} Sample.setup Sample.mine system
    (fun id _ => registered_tracks id) hRun⟩

/-- The entity moves on to its next generation, and the client still expects the first set of
the last one. -/
theorem next_generation_conflicts :
    ¬∀ (options : Options) (operations : List Operation) (mine : EntityId → Prop)
        (system : Session),
      (∀ id, mine id → (afterRun options operations).Tracks id) →
      Reaches partyRound PartyStarts (Undisturbed mine)
        (session (afterRun options operations)) system →
      LeftToClient system.shared.answers → ConflictFree system.shared.answers := by
  intro hAlways
  obtain ⟨system, hRun, hConflict⟩ := @exists_played _ _ _ _ _ partyRound partyBegins PartyStarts
    (fun _ _ _ _ => partyBegins_starts) (Sample.answersOnly fun _ _ => true)
    (Undisturbed Sample.mine) (fun _ _ hAllowed => (Sample.answersOnly_undisturbed hAllowed).1)
    (session (afterRun {} Sample.setup)) (Sample.andThen Sample.nextGeneration) Sample.conflicting
    (by decide +kernel)
  unfold Sample.conflicting Sample.leftToClient at hConflict
  rw [Bool.and_eq_true, Bool.and_eq_true, List.all_eq_true, decide_eq_true_eq] at hConflict
  obtain ⟨⟨hUnset, hAscending⟩, hConflict⟩ := hConflict
  have hFree := hAlways {} Sample.setup Sample.mine system (fun id _ => registered_tracks id) hRun
    ⟨fun answer hMem => eq_of_beq (hUnset answer hMem), hAscending⟩
  obtain ⟨answer, hMem, hAnswer⟩ := List.any_eq_true.1 hConflict
  rw [Bool.and_eq_true, beq_iff_eq, List.contains_iff_mem] at hAnswer
  exact hFree answer hMem hAnswer.1 hAnswer.2

end FabricCapability.Ports
