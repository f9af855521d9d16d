import FabricCapability.Ports.DurableAcks
import FabricCapability.Ports.OptimisticLocking
import FabricCapability.Ports.ReadableStores

/-!
# What the file holds of an acknowledged commit

The file is written from a snapshot of the registry.  It holds a commit when it can be read,
and what is read are the entities, the floors and the evidence of a registry that came from
the publication by further operations.  So the snapshot must have been read behind the commit,
which is what the order of the saves decides; the reader must accept what was written; and no
load in process may have taken the registry back.

## Main results

* `acks_stored`: every run whose steps keep the commits.
* `older_snapshot_drops_commit`: two workers whose replacements overtake one another.
-/

namespace FabricCapability.Ports

open FabricCapability.Verified.KeyedList
open FabricCapability.Verified.Runs
open FabricCapability.Verified.StrictOrder
open FabricCapability.Verified.Workers

/-! ## Registries that come from one another -/

/-- The operation takes no entity back, as only a load can. -/
def Forward (registry : Registry) (operation : Operation) : Prop :=
  operation.isLoad = true → Evolves registry (operation.apply registry)

/-- `b` comes from `a` by operations that take no entity back. -/
def Succeeds (a b : Registry) : Prop :=
  ∃ operations, Guarded Operation.apply Forward a operations ∧
    run Operation.apply a operations = b

theorem succeeds_refl (registry : Registry) : Succeeds registry registry := ⟨[], trivial, rfl⟩

theorem succeeds_trans {a b c : Registry} (hab : Succeeds a b) (hbc : Succeeds b c) :
    Succeeds a c := by
  obtain ⟨first, hFirst, rfl⟩ := hab
  obtain ⟨second, hSecond, rfl⟩ := hbc
  exact ⟨first ++ second, guarded_append.2 ⟨hFirst, hSecond⟩, run_append⟩

theorem forward_evolves {registry : Registry} {operation : Operation}
    (h : Forward registry operation) : Evolves registry (operation.apply registry) := by
  cases hLoad : operation.isLoad with
  | true => exact h hLoad
  | false => exact evolves_step hLoad

/-- Every entity of the earlier registry is in the later one, at a later moment. -/
theorem Succeeds.evolves {a b : Registry} (h : Succeeds a b) : Evolves a b := by
  obtain ⟨operations, hGuarded, rfl⟩ := h
  exact run_rel Evolves.refl (fun _ _ _ => Evolves.trans) (fun _ _ => forward_evolves) hGuarded

/-- The registry stays, or one operation is applied to it. -/
def Operates (a b : Registry) : Prop := b = a ∨ ∃ operation : Operation, b = operation.apply a

/-- A load, if it is one, takes no entity back. -/
def LoadsForward (a b : Registry) : Prop :=
  ∀ config file, b = (load a config file).1 → Evolves a b

theorem Operates.succeeds {a b : Registry} (h : Operates a b) (hForward : LoadsForward a b) :
    Succeeds a b := by
  rcases h with rfl | ⟨operation, rfl⟩
  · exact succeeds_refl _
  · refine ⟨[operation], ⟨fun hLoad => ?_, trivial⟩, rfl⟩
    cases operation with
    | load config file => exact hForward config file rfl
    | _ => cases hLoad

/-! ## What the file holds -/

/-- What the reader makes of an entity: its fields, and its records under the capabilities
that their texts parse to. -/
structure EntityState.StoredAs (entity : EntityState) (stored : StoredEntity) : Prop where
  fields : stored =
    { entity.stored with capabilities := stored.capabilities, claims := stored.claims }
  claims : ∀ entry ∈ entity.capabilities, ∀ record ∈ entry.evidence, isStored record = true →
    ∃ capability, capability.toText = entry.id.toText ∧
      { record.stored entry.id with capability } ∈ stored.claims

/-- The payload has all the entities of the registry. -/
structure Registry.StoredAs (registry : Registry) (stored : StorePayload) : Prop where
  registryGeneration : stored.registryGeneration = registry.registryGeneration
  entities : ∀ entity ∈ registry.entities, ∃ held ∈ stored.entities, entity.StoredAs held

/-- The payload has the entity of the publication at the generations that the result reports,
or at later ones. -/
def StorePayload.Reaches (stored : StorePayload) (request : PublicationRequest)
    (result : PublicationResult) : Prop :=
  ∃ entity ∈ stored.entities, entity.id = request.entity ∧
    (request.entityGeneration.toNat < entity.currentGeneration.toNat ∨
      (request.entityGeneration = entity.currentGeneration ∧
        result.newSetGeneration.toNat ≤ entity.setGeneration.toNat ∧ entity.hasSet = true))

/-- The registry comes from the one that the publication of the payload has left. -/
def BehindCommit (request : PublicationRequest) (result : PublicationResult)
    (registry : Registry) : Prop :=
  ∃ epoch before committed,
    publish before { request with epoch } = (committed, .ok result) ∧ Succeeds committed registry

/-- The file can be read, and what is read is what a registry behind the commit holds. -/
def HoldsCommit (config : PersistenceConfig) (s : Coordinator) (payload : Bytes)
    (result : PublicationResult) : Prop :=
  ∃ file stored report request registry, s.store = some file ∧
    Store.readStore config (some file) = .ok (stored, report) ∧
    decodePublicationRequest payload = .ok request ∧ stored.Reaches request result ∧
    BehindCommit request result registry ∧ registry.StoredAs stored

/-- Each commit that an ack reports is in the file. -/
def AcksStored (config : PersistenceConfig) (s : Coordinator) : Prop :=
  ∀ worker requestId response past,
    Event.sent worker .publishAck requestId response :: past <:+ s.log →
      ∀ payload result before, Event.handled worker payload result :: before <:+ past →
        result.status = .committed → encodePublicationResult result = .ok response →
          HoldsCommit config s payload result

/-- The saves keep in order, the reader accepts what they write, and no load takes the
registry back. -/
structure KeepsCommits (s t : Coordinator) : Prop where
  saves : SavesInOrder s t
  forward : LoadsForward s.registry t.registry
  readable : ∀ worker taken registry, t.log = .stored worker taken registry :: s.log →
    registry.FitsReader ∧ ∀ file report, save registry = .ok (file, report) →
      report.bytes ≤ kMaxPersistenceBytes

/-! ## Reading the file -/

theorem storedAs_of_reread {registry : Registry} {stored : StorePayload}
    (h : registry.payload.reread = some stored) : registry.StoredAs stored := by
  obtain ⟨-, hGeneration, hEntities⟩ := StorePayload.reread_eq_some h
  refine ⟨hGeneration, fun entity hMem => ?_⟩
  have hStored : entity.stored ∈ registry.payload.entities :=
    List.mem_map_of_mem (mem_sortBy.2 hMem)
  obtain ⟨held, hHeld, hReread⟩ := exists_of_mapM hEntities hStored
  have hAs := StoredEntity.reread_eq_some hReread
  refine ⟨held, hHeld, hAs.fields, fun entry hEntry record hRecord hKept => ?_⟩
  have hClaim : record.stored entry.id ∈ entity.stored.claims :=
    mem_sortBy.2 (List.mem_flatMap.2 ⟨entry, hEntry,
      List.mem_map_of_mem (List.mem_filter.2 ⟨hRecord, hKept⟩)⟩)
  obtain ⟨claim, hMemClaim, hClaimReread⟩ := exists_of_mapM hAs.claims hClaim
  obtain ⟨hFields, -, hText⟩ := StoredClaim.reread_eq_some hClaimReread
  exact ⟨claim.capability, hText, hFields ▸ hMemClaim⟩

/-- A commit leaves its entity at the generations that the result reports. -/
theorem committed_reports {registry after : Registry} {request : PublicationRequest}
    {result : PublicationResult} (c : Committed registry request after result) :
    ∃ entity, after.findEntity request.entity = some entity ∧
      entity.currentGeneration = request.entityGeneration ∧
      entity.setGeneration = result.newSetGeneration ∧ entity.hasSet = true := by
  obtain ⟨hId, hGeneration, -⟩ := bindEntity_ok c.binds
  have hSame := c.published_same
  obtain ⟨advanced, next, hAdvance, hResult, hAfter⟩ := commit_ok c.commits
  obtain ⟨-, hNext, -, -⟩ := advanceGenerations_ok hAdvance
  have hNextId : next.id = request.entity := by
    rw [hNext]
    exact hSame.id_eq.trans hId
  refine ⟨committedEntity advanced.registryGeneration next request, ?_, ?_, ?_, rfl⟩
  · rw [hAfter]
    exact findEntity_setEntity hNextId
  · rw [committedEntity_currentGeneration, hNext]
    exact hSame.currentGeneration_eq.trans hGeneration
  · rw [committedEntity_setGeneration, hResult]
    rfl

/-- What is stored of a registry behind the commit shows the commit. -/
theorem BehindCommit.reaches {request : PublicationRequest} {result : PublicationResult}
    {registry : Registry} (h : BehindCommit request result registry)
    (hStatus : result.status = .committed) {stored : StorePayload}
    (hStored : registry.StoredAs stored) : stored.Reaches request result := by
  obtain ⟨epoch, before, committed, hPublish, hSucceeds⟩ := h
  obtain ⟨c⟩ := publish_committed hPublish hStatus
  obtain ⟨entity, hFound, hGeneration, hSet, hHas⟩ := committed_reports c
  obtain ⟨later, hLater, hEvolves⟩ := hSucceeds.evolves.find _ entity hFound
  obtain ⟨held, hHeld, hAs⟩ := hStored.entities later (lookup_mem hLater)
  have hId : later.id = request.entity := lookup_key hLater
  have hFields := hAs.fields
  refine ⟨held, hHeld, by rw [hFields]; exact hId, ?_⟩
  rw [hFields]
  rcases hEvolves with hAbove | ⟨hSame, hSetLe, hHasLater⟩
  · exact .inl (hGeneration ▸ hAbove)
  · exact .inr ⟨hGeneration.symm.trans hSame, hSet ▸ hSetLe, hHasLater hHas⟩

theorem BehindCommit.later {request : PublicationRequest} {result : PublicationResult}
    {a b : Registry} (h : BehindCommit request result a) (hab : Succeeds a b) :
    BehindCommit request result b := by
  obtain ⟨epoch, before, committed, hPublish, hSucceeds⟩ := h
  exact ⟨epoch, before, committed, hPublish, succeeds_trans hSucceeds hab⟩

/-! ## What the log and the file know -/

/-- The registry can be saved, and comes from every commit of the log up to a position. -/
structure Covers (log : List Event) (bound : Nat) (registry : Registry) : Prop where
  identified : registry.Identified
  numbered : ∀ entity ∈ registry.entities, entity.Numbered
  commits : ∀ worker payload result before, Event.handled worker payload result :: before <:+ log →
    before.length < bound → result.status = .committed →
      ∃ request, decodePublicationRequest payload = .ok request ∧
        BehindCommit request result registry

/-- The registry comes from every commit, and so does what the file was last written from, as
far as it had been read then. -/
structure CommitsKept (s : Coordinator) : Prop where
  registry : Covers s.log s.log.length s.registry
  file : ∀ taken registry, latestStore s.log = some (taken, registry) →
    taken ≤ s.log.length ∧ Covers s.log taken registry ∧ registry.FitsReader ∧
      ∀ file report, save registry = .ok (file, report) → report.bytes ≤ kMaxPersistenceBytes

def commitContract : Contract Coordinator Nat := ownContract KeepsCommits CommitsKept

/-- What is in the file, read behind the position of a commit, holds the commit. -/
theorem CommitsKept.holds {s : Coordinator} (h : CommitsKept s) (config : PersistenceConfig)
    {worker : Nat} {payload : Bytes} {result : PublicationResult} {before : List Event}
    (hHandled : Event.handled worker payload result :: before <:+ s.log)
    (hStatus : result.status = .committed) (hFile : InFile s before.length) :
    HoldsCommit config s payload result := by
  obtain ⟨taken, registry, file, report, hLatest, hSave, hStore, hBefore⟩ := hFile
  obtain ⟨-, hCovers, hFits, hBytes⟩ := h.file taken registry hLatest
  obtain ⟨request, hDecodes, hBehind⟩ :=
    hCovers.commits worker payload result before hHandled hBefore hStatus
  obtain ⟨stored, hReread⟩ := Option.isSome_iff_exists.1
    ((reread_isSome_iff hCovers.identified hCovers.numbered).2 hFits)
  have hRead := Store.readStore_writeStore hSave config
  rw [if_pos (Store.writeStore_bytes hSave ▸ hBytes file report hSave), hReread] at hRead
  cases hResult : Store.readStore config (some file) with
  | error e =>
      rw [hResult] at hRead
      cases hRead
  | ok read =>
      rw [hResult] at hRead
      obtain ⟨found, readReport⟩ := read
      obtain rfl : found = stored := Option.some.inj hRead
      have hStored := storedAs_of_reread hReread
      exact ⟨file, found, readReport, request, registry, hStore, hResult, hDecodes,
        hBehind.reaches hStatus hStored, hBehind, hStored⟩

section Steps

variable {worker : Nat} {s t : Coordinator}

/-- Nothing that happens later changes the beginning of the log. -/
theorem suffix_of_append {new log before : List Event} {event : Event}
    (h : event :: before <:+ new ++ log) (hBefore : before.length < log.length) :
    event :: before <:+ log := by
  induction new with
  | nil => exact h
  | cons first new ih =>
      rcases List.suffix_cons_iff.1 h with hHere | hEarlier
      · have hLength : before = new ++ log := (List.cons_eq_cons.1 hHere).2
        rw [hLength, List.length_append] at hBefore
        omega
      · exact ih hEarlier

theorem Covers.grows {log : List Event} (new : List Event) {bound : Nat} {registry : Registry}
    (h : Covers log bound registry) (hBound : bound ≤ log.length) :
    Covers (new ++ log) bound registry :=
  ⟨h.identified, h.numbered, fun worker payload result before hHandled hBefore =>
    h.commits worker payload result before
      (suffix_of_append hHandled (Nat.lt_of_lt_of_le hBefore hBound)) hBefore⟩

/-- The registry of the next state covers what the last one did. -/
theorem Covers.moves {log : List Event} {bound : Nat} {a b : Registry} (h : Covers log bound a)
    (hMoves : Operates a b) (hForward : LoadsForward a b) : Covers log bound b := by
  have hSucceeds := hMoves.succeeds hForward
  rcases hMoves with rfl | ⟨operation, rfl⟩
  · exact h
  · refine ⟨step_identified operation h.identified, step_numbered operation h.numbered,
      fun worker payload result before hHandled hBefore hStatus => ?_⟩
    obtain ⟨request, hDecodes, hBehind⟩ :=
      h.commits worker payload result before hHandled hBefore hStatus
    exact ⟨request, hDecodes, hBehind.later hSucceeds⟩

/-- An event that neither commits nor stores. -/
def Event.Neutral : Event → Prop
  | handled _ _ result => result.status ≠ .committed
  | stored .. => False
  | _ => True

/-- The file stays what it was written from. -/
theorem fileKept (h : CommitsKept s) {event : Event}
    (hEvent : ∀ other taken registry, event ≠ .stored other taken registry) :
    ∀ taken registry, latestStore (event :: s.log) = some (taken, registry) →
      taken ≤ (event :: s.log).length ∧ Covers (event :: s.log) taken registry ∧
        registry.FitsReader ∧ ∀ file report, save registry = .ok (file, report) →
          report.bytes ≤ kMaxPersistenceBytes := by
  intro taken registry hLatest
  have hSame : latestStore (event :: s.log) = latestStore s.log := by
    cases event with
    | stored other taken registry => exact absurd rfl (hEvent other taken registry)
    | _ => rfl
  rw [hSame] at hLatest
  obtain ⟨hTaken, hCovers, hFits⟩ := h.file taken registry hLatest
  exact ⟨Nat.le_succ_of_le hTaken, Covers.grows [event] hCovers hTaken, hFits⟩

/-- A step that leaves the log alone. -/
theorem commit_fields (hLog : t.log = s.log) (hOwn : OnlyOwn worker s t)
    (hMoves : Operates s.registry t.registry) : commitContract.does worker s t := by
  refine ⟨hOwn, fun hInv hOk => ⟨?_, ?_⟩⟩
  · rw [hLog]
    exact hInv.registry.moves hMoves hOk.forward
  · rw [hLog]
    exact hInv.file

/-- A step in which something happens that neither commits nor stores. -/
theorem commit_note {event : Event} (hOwn : event.worker = worker) (hNeutral : event.Neutral)
    {registry : Registry} (hMoves : Operates s.registry registry) :
    commitContract.does worker s ({ s with registry }.note event) := by
  refine ⟨onlyOwn_change hOwn registry s, fun hInv hOk => ⟨?_, fileKept hInv ?_⟩⟩
  · have hCovers := hInv.registry.moves hMoves hOk.forward
    refine ⟨hCovers.identified, hCovers.numbered,
      fun other payload result before hHandled _ hStatus => ?_⟩
    rcases List.suffix_cons_iff.1 hHandled with hHere | hEarlier
    · obtain ⟨rfl, rfl⟩ := List.cons_eq_cons.1 hHere
      exact absurd hStatus hNeutral
    · exact hCovers.commits other payload result before hEarlier
        (Nat.lt_of_lt_of_le (Nat.lt_succ_self _) hEarlier.length_le) hStatus
  · rintro other taken held rfl
    exact hNeutral

/-- A payload is published, and its result is the one of the registry. -/
theorem commit_publishes {payload : Bytes} {request : PublicationRequest}
    (hDecodes : decodePublicationRequest payload = .ok request) {epoch : CoordinatorEpoch}
    {registry : Registry} {outcome : Outcome PublicationResult} {result : PublicationResult}
    (hPublish : publish s.registry { request with epoch } = (registry, outcome))
    (hResult : outcome = .ok result ∨ result.status ≠ .committed) :
    commitContract.does worker s
      ({ s with registry }.note (.handled worker payload result)) := by
  have hMoves : Operates s.registry registry :=
    .inr ⟨.publish { request with epoch }, (congrArg Prod.fst hPublish).symm⟩
  by_cases hStatus : result.status = .committed
  · have hOk : outcome = .ok result := hResult.resolve_right (not_not.2 hStatus)
    subst hOk
    refine ⟨@onlyOwn_change worker (.handled ..) rfl registry s,
      fun hInv hOk => ⟨?_, fileKept hInv nofun⟩⟩
    have hCovers := hInv.registry.moves hMoves hOk.forward
    refine ⟨hCovers.identified, hCovers.numbered,
      fun other held answer before hHandled _ hCommitted => ?_⟩
    rcases List.suffix_cons_iff.1 hHandled with hHere | hEarlier
    · obtain ⟨hEvent, rfl⟩ := List.cons_eq_cons.1 hHere
      cases hEvent
      exact ⟨request, hDecodes, epoch, s.registry, registry, hPublish, succeeds_refl _⟩
    · exact hCovers.commits other held answer before hEarlier
        (Nat.lt_of_lt_of_le (Nat.lt_succ_self _) hEarlier.length_le) hCommitted
  · exact @commit_note worker s (.handled worker payload result) rfl hStatus registry hMoves

/-- The file is replaced by a snapshot. -/
theorem commit_stored {taken : Nat} {registry : Registry} (file : Bytes)
    (hTaken : taken ≤ s.log.length) (hCovers : Covers s.log taken registry) :
    commitContract.does worker s
      ({ s with store := some file }.note (.stored worker taken registry)) := by
  have hStored : OnlyOwn worker s { s with store := some file } := onlyOwn_of_fields rfl rfl
  refine ⟨hStored.trans (@onlyOwn_note worker (.stored ..) rfl _), fun hInv hOk => ⟨?_, ?_⟩⟩
  · refine ⟨hInv.registry.identified, hInv.registry.numbered,
      fun other payload result before hHandled _ hStatus => ?_⟩
    rcases List.suffix_cons_iff.1 hHandled with hHere | hEarlier
    · cases (List.cons_eq_cons.1 hHere).1
    · exact hInv.registry.commits other payload result before hEarlier
        (Nat.lt_of_lt_of_le (Nat.lt_succ_self _) hEarlier.length_le) hStatus
  · intro read held hLatest
    obtain ⟨rfl, rfl⟩ := Prod.mk.inj (Option.some.inj hLatest)
    exact ⟨Nat.le_succ_of_le hTaken, Covers.grows [_] hCovers hTaken,
      hOk.readable worker taken registry rfl⟩

/-! ## The parts of a turn -/

theorem commit_sends {type : WireMessageType} {requestId : UInt64} {payload : Bytes}
    (h : Sends worker type requestId payload s t) : commitContract.does worker s t := by
  cases h with
  | sent => exact @commit_note worker s (.sent ..) rfl trivial s.registry (.inl rfl)
  | lost => exact @commit_note worker s (.lost ..) rfl trivial s.registry (.inl rfl)

/-- Outside of `Publish` the registry moves by the methods that are called. -/
theorem commit_acts (h : Acts worker s t) : commitContract.does worker s t := by
  have hOwn := h.onlyOwn
  cases h with
  | chats hChats =>
      cases hChats with
      | reads => exact commitContract.still worker s
      | status hSends => exact commit_sends hSends
      | error hSends => exact commit_sends hSends
  | greets hSends => exact commit_sends hSends
  | acknowledges hSends => exact commit_sends hSends
  | @registers publisher scope workerBoot registry registration hRegisters =>
      refine @commit_note worker s (.registered ..) rfl trivial registry ?_
      exact .inr ⟨.registerPublisher publisher scope workerBoot,
        (congrArg Prod.fst hRegisters).symm⟩
  | connects hello hFound => exact commit_fields rfl hOwn (.inl rfl)
  | scopes workerBoot scope => exact commit_fields rfl hOwn (.inl rfl)
  | fences workerBoot reason =>
      exact commit_fields rfl hOwn (.inr ⟨.fenceWorkerBoot workerBoot reason, rfl⟩)
  | forgets workerBoot => exact commit_fields rfl hOwn (.inl rfl)
  | loses workerBoot reason =>
      exact @commit_note worker s (.closed ..) rfl trivial _
        (.inr ⟨.fenceWorkerBoot workerBoot reason, rfl⟩)
  | closes => exact @commit_note worker s (.closed ..) rfl trivial s.registry (.inl rfl)
  | erases => exact commit_fields rfl hOwn (.inl rfl)
  | calls operation => exact commit_fields rfl hOwn (.inr ⟨operation, rfl⟩)

/-- A part that needs no facts. -/
theorem commit_within {α : Type} {task : Work α} {P : Coordinator → Prop}
    (h : Within (commitContract.does worker) task) :
    Valid commitContract worker (fun _ _ => True) task P :=
  valid_weaken (valid_of_within h (stable_const True) fun _ _ _ _ _ hDoes => ⟨hDoes, trivial⟩)
    fun _ _ _ => trivial

theorem commit_acting {α : Type} {task : Work α} {P : Coordinator → Prop}
    (h : Within (Acts worker) task) : Valid commitContract worker (fun _ _ => True) task P :=
  commit_within (within_mono (fun _ _ => commit_acts) h)

/-- What is known of a snapshot stays known. -/
theorem covers_stable (registry : Registry) (taken : Nat) :
    Stable commitContract worker fun s => taken ≤ s.log.length ∧ Covers s.log taken registry := by
  intro other _ s t _ hCovers _ hDoes
  obtain ⟨new, hNew, -⟩ := hDoes.1.log
  rw [hNew]
  refine ⟨?_, hCovers.2.grows _ hCovers.1⟩
  rw [List.length_append]
  exact Nat.le_trans hCovers.1 (Nat.le_add_left _ _)

theorem saveStore_commits :
    Valid commitContract worker (fun _ _ => True) (saveStore worker) fun _ => True := by
  have hFail : ∀ {P : Coordinator → Prop},
      Valid commitContract worker (fun _ _ => True)
        (do
          Task.modify (Coordinator.note (.unstored worker))
          pure false : Work Bool) P :=
    commit_within (within_bind (within_update fun s =>
      @commit_note worker s (.unstored worker) rfl trivial s.registry (.inl rfl)) fun _ => trivial)
  refine valid_bind (M := fun read s => read.2 ≤ s.log.length ∧ Covers s.log read.2 read.1)
    (valid_read (fun read => covers_stable read.1 read.2) fun s hInv _ =>
      ⟨Nat.le_refl _, hInv.registry⟩) fun read => ?_
  obtain ⟨registry, taken⟩ := read
  dsimp only
  split
  · exact hFail
  · rename_i file report hSave
    refine valid_toss fun written => ?_
    cases written with
    | false => exact hFail
    | true =>
        refine valid_bind (M := fun _ _ => True)
          (valid_modify (stable_const True) fun s _ hCovers _ =>
            ⟨commit_stored file hCovers.1 hCovers.2, trivial⟩)
          fun _ => valid_pure fun _ _ _ => trivial

/-- The payload is refused, or it is published as it decodes. -/
theorem handlePayload_commits (state : ConnectionState) (payload : Bytes) :
    Within (commitContract.does worker) (handlePayload worker state payload) := by
  have hRefused : ∀ (s : Coordinator) code message, commitContract.does worker s
      (s.note (.handled worker payload (refusedResult code message))) := fun s code message =>
    @commit_note worker s (.handled worker payload (refusedResult code message)) rfl nofun
      s.registry (.inl rfl)
  refine within_mono (fun s t h => ?_) (handlePayload_handles worker state payload)
  cases h with
  | reads => exact commitContract.still worker s
  | unreadable decodes => exact hRefused s _ _
  | foreign decodes speaks => exact hRefused s _ _
  | @answers request epoch registry outcome decodes speaks publishes =>
      cases outcome with
      | ok result => exact commit_publishes decodes publishes (.inl rfl)
      | error e => exact commit_publishes decodes publishes (.inr nofun)

theorem servePublish_commits (options : CoordinatorOptions) (state : ConnectionState)
    (request : WireFrame) {P : Coordinator → Prop} :
    Valid commitContract worker (fun _ _ => True) (servePublish options worker state request)
      P := by
  have hAck : ∀ response {P : Coordinator → Prop},
      Valid commitContract worker (fun _ _ => True)
        (sendFrame worker .publishAck request.requestId response) P :=
    fun response => commit_within (within_mono (fun _ _ => commit_sends)
      (sendFrame_within worker .publishAck request.requestId response))
  unfold servePublish
  split
  · exact hAck _
  · refine valid_bind (commit_within (handlePayload_commits state request.payload))
      fun result => ?_
    split
    · exact valid_pure fun _ _ _ => trivial
    · rename_i response _
      refine valid_bind (M := fun _ _ => True) (commit_within (within_update fun s => ?_))
        fun _ => valid_bind (M := fun _ _ => True) ?_ fun _ => hAck response
      · dsimp only
        split
        · exact commitContract.still worker s
        · exact commit_fields rfl (onlyOwn_setConnection ..) (.inl rfl)
      · unfold persistMutation
        split
        · exact valid_bind saveStore_commits fun _ => valid_pure fun _ _ _ => trivial
        · exact valid_pure fun _ _ _ => trivial

theorem serveFrame_commits (options : CoordinatorOptions) (state : ConnectionState)
    (request : WireFrame) {P : Coordinator → Prop} :
    Valid commitContract worker (fun _ _ => True) (serveFrame options worker state request)
      P := by
  unfold serveFrame
  split
  · exact servePublish_commits options state request
  · exact commit_acting (within_mono (fun _ _ => .chats) (serveStatus_within worker request))
  · exact commit_acting (serveFence_acts worker state request)
  · exact commit_acting (within_mono (fun _ _ => .chats) (sendError_within worker _ _))

/-! ## All runs -/

theorem commitRules (options : CoordinatorOptions) :
    ServeRules options commitContract (fun _ _ => True) (fun _ _ _ => True)
      (fun _ _ _ => True) fun _ _ _ _ => True where
  stable _ _ := stable_const True
  aside _ := stable_const True
  ends _ _ _ _ _ := trivial
  receives worker _ request := commit_within (within_update fun s =>
    @commit_note worker s (.received worker request) rfl trivial s.registry (.inl rfl))
  leaves _ _ _ _ _ _ := trivial
  reads worker _ _ state := stable_and (stable_const True)
    (stable_connection (ownContract_own _ _) fun held => held = state)
  hello worker _ request _ := by
    refine valid_consequence (commit_acting (serveHello_acts worker request))
      fun boot _ _ _ => ?_
    cases boot <;> trivial
  frame worker _ request state _ := by
    refine valid_consequence (serveFrame_commits options state request) fun goesOn _ _ _ => ?_
    cases goesOn <;> trivial
  lost worker locals := commit_acting (fenceLost_acts worker locals)
  erases worker := commit_acting (within_update fun s => .erases)
  persist _ := saveStore_commits
  call worker operation := commit_acting (callRegistry_acts worker operation)
  accepts worker s t _ hStarts _ := by
    have hOwn := hStarts.onlyOwn
    cases hStarts with
    | accept _ _ => exact ⟨commit_fields rfl hOwn (.inl rfl), trivial⟩
  begins _ _ _ _ _ := ⟨commit_fields rfl (onlyOwn_of_fields rfl rfl) (.inl rfl), trivial⟩

end Steps

/-- `Start` applies operations to a new registry. -/
theorem startCoordinator_keeps {P : Registry → Prop} {options : CoordinatorOptions}
    {file : Option Bytes} {written : Bool} {s : Coordinator}
    (hInit : P (Registry.init options.registryOptions))
    (hStep : ∀ registry (operation : Operation), P registry → P (operation.apply registry))
    (h : startCoordinator options file written = .ok s) : P s.registry := by
  obtain ⟨registry, hLoaded, hAdvanced⟩ := outcome_bind_eq_ok.1 h
  have hRegistry : P registry := by
    unfold loadOnStart at hLoaded
    dsimp only at hLoaded
    split at hLoaded
    · rename_i config _ _
      split at hLoaded
      · cases hLoaded
      · rename_i loaded report hLoad
        cases hLoaded
        have hNext := hStep _ (.load config file) hInit
        rw [Operation.apply, hLoad] at hNext
        exact hNext
    · cases hLoaded
      exact hInit
  have hNext := hStep _ (.advanceCoordinatorEpoch (makeReason (txt "coordinator-start"))) hRegistry
  rw [Operation.apply] at hNext
  unfold advanceOnStart at hAdvanced
  split at hAdvanced
  · split at hAdvanced
    · cases hAdvanced
    · rename_i advanced epoch hEpoch
      rw [hEpoch] at hNext
      split at hAdvanced
      · split at hAdvanced
        · cases hAdvanced
        · cases hAdvanced
        · cases hAdvanced
          exact hNext
      · cases hAdvanced
        exact hNext
  · cases hAdvanced
    exact hRegistry

theorem commitsKept_start {options : CoordinatorOptions} {file : Option Bytes} {written : Bool}
    {s : Coordinator} (hStart : startCoordinator options file written = .ok s) :
    CommitsKept s := by
  obtain ⟨hLog, -, -⟩ := startCoordinator_fresh hStart
  refine ⟨⟨?_, ?_, ?_⟩, ?_⟩
  · exact startCoordinator_keeps (P := Registry.Identified) (init_identified _)
      (fun _ => step_identified) hStart
  · refine startCoordinator_keeps (P := fun registry => ∀ entity ∈ registry.entities,
      entity.Numbered) ?_ (fun _ => step_numbered) hStart
    rw [init_entities]
    exact fun _ hMem => absurd hMem List.not_mem_nil
  · intro worker payload result before hSuffix
    rw [hLog, List.suffix_nil] at hSuffix
    cases hSuffix
  · intro taken registry hLatest
    rw [hLog] at hLatest
    cases hLatest

/-- With `persist_on_mutation` and a store: in every state of every run whose steps keep the
commits, the file can be read and holds every commit that was acknowledged. -/
theorem acks_stored {options : CoordinatorOptions} {config : PersistenceConfig}
    {file : Option Bytes} {written : Bool} (hPersist : options.persistOnMutation = true)
    (hStore : options.persistence = some config) {s : Coordinator}
    (hStart : startCoordinator options file written = .ok s) {b : CoordinatorSystem}
    (hRun : Reaches (workerRound options) (Starts options) KeepsCommits (serving s) b) :
    AcksStored config b.shared := by
  have hSaves : Reaches (workerRound options) (Starts options) SavesInOrder (serving s) b :=
    reaches_mono (fun _ _ hKeeps => hKeeps.saves) hRun
  have hDurable : Durable b.shared := reaches_inv
    (durableRules hPersist (Option.isSome_of_eq_some hStore)).proved
    (atWork_idle (durable_start hStart)) hSaves
  have hKept : CommitsKept b.shared :=
    reaches_inv (commitRules options).proved (atWork_idle (commitsKept_start hStart)) hRun
  intro worker requestId response past hAck payload result before hHandled hStatus hEncoded
  have hPast : past <:+ b.shared.log := (List.suffix_cons _ _).trans hAck
  exact hKept.holds config (hHandled.trans hPast) hStatus
    (hDurable.acks worker requestId response past hAck payload result before hHandled hStatus
      hEncoded)

/-! ## Checks by evaluation -/

instance (grant : AuthorityGrant) : Decidable grant.FitsReader :=
  decidable_of_iff ((∀ kind ∈ grant.entityKinds, kind ≠ .unknown) ∧
    ∀ publisher ∈ grant.allowedPublishers, publisher.isSet = true)
    ⟨fun h => ⟨h.1, h.2⟩, fun h => ⟨h.entityKinds, h.allowedPublishers⟩⟩

theorem exists_ok_iff {α : Type} {outcome : Outcome α} :
    outcome.isOk = true ↔ ∃ value, outcome = .ok value := by
  cases outcome <;> simp [Except.isOk, Except.toBool]

instance (entity : EntityState) : Decidable entity.FitsReader :=
  decidable_of_iff
    (entity.capabilities.length ≤ kMaxCapabilitiesPerEntity ∧
      entity.storedCount ≤ kMaxEvidencePerEntity ∧
      entity.sourceHighWater.length ≤ kMaxEvidencePerEntity ∧
      entity.history.length ≤ kMaxEntityGenerationsRetained ∧
      (∀ entry ∈ entity.capabilities, (CapabilityId.parse entry.id.toText).isOk = true) ∧
      (entity.capabilities.map fun entry => entry.id.toText).Nodup ∧
      ∀ entry ∈ entity.capabilities, ∀ record ∈ entry.evidence,
        isStored record = true → record.value.decodable = true)
    ⟨fun ⟨h1, h2, h3, h4, h5, h6, h7⟩ =>
        ⟨h1, h2, h3, h4, fun entry hMem => exists_ok_iff.1 (h5 entry hMem), h6, h7⟩,
      fun h => ⟨h.capabilities, h.evidence, h.floors, h.history,
        fun entry hMem => exists_ok_iff.2 (h.parses entry hMem), h.apart, h.values⟩⟩

instance (registry : Registry) : Decidable registry.FitsReader :=
  decidable_of_iff
    (registry.authorities.length ≤ kMaxStoredAuthorities ∧
      registry.fences.length ≤ kMaxFencedWorkerBoots ∧
      registry.publishers.countP (·.2.active) ≤ kMaxStoredRegistrations ∧
      registry.entities.length ≤ kMaxEntities ∧
      (∀ grant ∈ registry.authorities, grant.FitsReader) ∧
      ∀ entity ∈ registry.entities, entity.FitsReader)
    ⟨fun ⟨h1, h2, h3, h4, h5, h6⟩ => ⟨h1, h2, h3, h4, h5, h6⟩,
      fun h => ⟨h.authorities, h.fences, h.registrations, h.entityCount, h.grants, h.entities⟩⟩

instance (a b : EntityState) : Decidable (a.Evolves b) := inferInstanceAs (Decidable (_ ∨ _))

/-- A check of `Evolves` by evaluation. -/
def evolvesTo (a b : Registry) : Bool :=
  a.entities.all fun held => (b.findEntity held.id).any fun later => decide (held.Evolves later)

theorem evolvesTo_sound {a b : Registry} (h : evolvesTo a b = true) : Evolves a b := by
  refine ⟨fun id held hFound => ?_⟩
  obtain ⟨later, hLater, hEvolves⟩ :=
    (Option.any_eq_true _ _).1 (List.all_eq_true.1 h held (lookup_mem hFound))
  rw [show held.id = id from lookup_key hFound] at hLater
  exact ⟨later, hLater, of_decide_eq_true hEvolves⟩

/-- A check of `KeepsCommits` by evaluation. -/
def keepsCommits (s t : Coordinator) : Bool :=
  savesInOrder s t && (evolvesTo s.registry t.registry &&
    match t.log with
    | .stored _ _ registry :: _ =>
        decide registry.FitsReader &&
          (save registry).toOption.all fun saved => decide (saved.2.bytes ≤ kMaxPersistenceBytes)
    | _ => true)

theorem keepsCommits_sound {s t : Coordinator} (h : keepsCommits s t = true) :
    KeepsCommits s t := by
  unfold keepsCommits at h
  obtain ⟨hSaves, hRest⟩ := Bool.and_eq_true_iff.1 h
  obtain ⟨hEvolves, hStored⟩ := Bool.and_eq_true_iff.1 hRest
  refine ⟨savesInOrder_sound hSaves, fun _ _ _ => evolvesTo_sound hEvolves,
    fun worker taken registry hLog => ?_⟩
  rw [hLog] at hStored
  obtain ⟨hFits, hBytes⟩ := Bool.and_eq_true_iff.1 hStored
  refine ⟨of_decide_eq_true hFits, fun file report hSave => ?_⟩
  rw [hSave] at hBytes
  exact of_decide_eq_true hBytes

section Acked

variable {p : Bytes → PublicationResult → Bool}

/-- Whether the worker has committed with this answer, and with a result that passes. -/
def committedWith (p : Bytes → PublicationResult → Bool) (worker : Nat) (response : Bytes) :
    List Event → Bool
  | [] => false
  | .handled other payload result :: past =>
      (other == worker && result.status == .committed && p payload result &&
        decide ((encodePublicationResult result).toOption = some response)) ||
          committedWith p worker response past
  | _ :: past => committedWith p worker response past

/-- A check that finds the ack of a commit with a result that passes. -/
def ackedWith (p : Bytes → PublicationResult → Bool) : List Event → Bool
  | [] => false
  | .sent worker .publishAck _ response :: past =>
      committedWith p worker response past || ackedWith p past
  | _ :: past => ackedWith p past

theorem committedWith_sound {worker : Nat} {response : Bytes} {log : List Event}
    (h : committedWith p worker response log = true) :
    ∃ payload result before, Event.handled worker payload result :: before <:+ log ∧
      result.status = .committed ∧ encodePublicationResult result = .ok response ∧
        p payload result = true := by
  induction log with
  | nil => cases h
  | cons event past ih =>
      have hRest : committedWith p worker response past = true →
          ∃ payload result before, Event.handled worker payload result :: before <:+ event :: past ∧
            result.status = .committed ∧ encodePublicationResult result = .ok response ∧
              p payload result = true := by
        intro hPast
        obtain ⟨payload, result, before, hSuffix, hFacts⟩ := ih hPast
        exact ⟨payload, result, before, hSuffix.trans (List.suffix_cons _ _), hFacts⟩
      cases event with
      | handled other payload result =>
          unfold committedWith at h
          rcases Bool.or_eq_true_iff.1 h with hHere | hPast
          · simp only [Bool.and_eq_true, beq_iff_eq, decide_eq_true_eq] at hHere
            obtain ⟨⟨⟨rfl, hCommitted⟩, hPasses⟩, hEncoded⟩ := hHere
            refine ⟨payload, result, past, List.suffix_refl _, hCommitted, ?_, hPasses⟩
            cases hResult : encodePublicationResult result with
            | ok bytes =>
                rw [hResult] at hEncoded
                cases hEncoded
                rfl
            | error e =>
                rw [hResult] at hEncoded
                cases hEncoded
          · exact hRest hPast
      | _ => exact hRest h

theorem ackedWith_sound {log : List Event} (h : ackedWith p log = true) :
    ∃ worker requestId response past payload result before,
      Event.sent worker .publishAck requestId response :: past <:+ log ∧
        Event.handled worker payload result :: before <:+ past ∧ result.status = .committed ∧
          encodePublicationResult result = .ok response ∧ p payload result = true := by
  induction log with
  | nil => cases h
  | cons event past ih =>
      have hRest : ackedWith p past = true →
          ∃ worker requestId response earlier payload result before,
            Event.sent worker .publishAck requestId response :: earlier <:+ event :: past ∧
              Event.handled worker payload result :: before <:+ earlier ∧
                result.status = .committed ∧ encodePublicationResult result = .ok response ∧
                  p payload result = true := by
        intro hPast
        obtain ⟨worker, requestId, response, earlier, payload, result, before, hSuffix, hFacts⟩ :=
          ih hPast
        exact ⟨worker, requestId, response, earlier, payload, result, before,
          hSuffix.trans (List.suffix_cons _ _), hFacts⟩
      unfold ackedWith at h
      split at h
      · cases h
      · rename_i worker requestId response earlier hEvent
        obtain ⟨rfl, rfl⟩ := List.cons_eq_cons.1 hEvent
        rcases Bool.or_eq_true_iff.1 h with hHere | hPast
        · obtain ⟨payload, result, before, hFacts⟩ := committedWith_sound hHere
          exact ⟨worker, requestId, response, _, payload, result, before, List.suffix_refl _,
            hFacts⟩
        · exact hRest hPast
      · rename_i hEvent
        obtain ⟨rfl, rfl⟩ := List.cons_eq_cons.1 hEvent
        exact hRest h

end Acked

instance (stored : StorePayload) (request : PublicationRequest) (result : PublicationResult) :
    Decidable (stored.Reaches request result) :=
  inferInstanceAs (Decidable (∃ entity ∈ stored.entities, _ ∧ (_ ∨ _)))

/-- Whether the file can be read and falls behind the result. -/
def fallsBehind (config : PersistenceConfig) (s : Coordinator) (payload : Bytes)
    (result : PublicationResult) : Bool :=
  match s.store.map fun file => Store.readStore config (some file),
    decodePublicationRequest payload with
  | some (.ok (stored, _)), .ok request => !decide (stored.Reaches request result)
  | _, _ => false

theorem fallsBehind_sound {config : PersistenceConfig} {s : Coordinator} {payload : Bytes}
    {result : PublicationResult} (h : fallsBehind config s payload result = true) :
    ¬ HoldsCommit config s payload result := by
  rintro ⟨file, stored, report, request, _, hStore, hRead, hDecodes, hReaches, -⟩
  unfold fallsBehind at h
  rw [hStore, Option.map_some, hRead, hDecodes] at h
  simp [hReaches] at h

namespace Sample

def storeConfig : PersistenceConfig := { storePath := [] }

def persisting : CoordinatorOptions where
  persistOnStart := false
  persistOnMutation := true
  persistence := some storeConfig

/-- Two connections; the first one sends a payload that is refused, which is saved like any
other, and has read what it is going to save. -/
def refusing : List CoordinatorMove :=
  declared ++ [.start 1 (.serving {})] ++ hello 1 bootOne scope ++ [.start 2 (.serving {})] ++
    hello 2 bootTwo scope ++ publishing 1 1 [] ++ turns 1 3

/-- The second connection commits, saves and is acknowledged. -/
def overtaking : List CoordinatorMove :=
  publishing 2 1 (payload bootTwo "a" 0 .supported) ++ turns 2 4 ++ storing 2 ++ answering 2

/-- The first connection replaces the file before the second one does, and the commit of the
second one, which is acknowledged, is in the file. -/
theorem ordered_saves_stored :
    ∃ b, Reaches (workerRound persisting) (Starts persisting) KeepsCommits
        (serving (started persisting none)) b ∧
      ∃ worker requestId response past payload result before,
        Event.sent worker .publishAck requestId response :: past <:+ b.shared.log ∧
          Event.handled worker payload result :: before <:+ past ∧
          result.status = .committed ∧ HoldsCommit storeConfig b.shared payload result := by
  obtain ⟨b, hRun, hAcked⟩ := exists_scheduled persisting none keepsCommits
    (fun _ _ => keepsCommits_sound) (refusing ++ storing 1 ++ overtaking)
    (fun s => ackedWith (fun _ _ => true) s.log) (by decide +kernel)
  obtain ⟨worker, requestId, response, past, payload, result, before, hSent, hHandled, hStatus,
    hEncoded, -⟩ := ackedWith_sound hAcked
  have hStored := acks_stored rfl rfl (started_ok (by decide +kernel)) hRun
  exact ⟨b, hRun, worker, requestId, response, past, payload, result, before, hSent, hHandled,
    hStatus, hStored worker requestId response past hSent payload result before hHandled hStatus
      hEncoded⟩

/-- It replaces the file afterwards, and drops what the second one has committed. -/
theorem older_snapshot_drops_commit :
    ∃ b, startCoordinator persisting none true = .ok (started persisting none) ∧
      Reaches (workerRound persisting) (Starts persisting) (fun _ _ => True)
        (serving (started persisting none)) b ∧ ¬ AcksStored storeConfig b.shared := by
  obtain ⟨b, hRun, hDropped⟩ := exists_scheduled persisting none (fun _ _ => true)
    (fun _ _ _ => trivial) (refusing ++ overtaking ++ storing 1)
    (fun s => ackedWith (fallsBehind storeConfig s) s.log) (by decide +kernel)
  obtain ⟨worker, requestId, response, past, payload, result, before, hSent, hHandled, hStatus,
    hEncoded, hBehind⟩ := ackedWith_sound hDropped
  exact ⟨b, started_ok (by decide +kernel), hRun, fun hStored => fallsBehind_sound hBehind
    (hStored worker requestId response past hSent payload result before hHandled hStatus
      hEncoded)⟩

end Sample

end FabricCapability.Ports
