import FabricCapability.Ports.CoordinatorRules

/-!
# When a save covers a commit

With `persist_on_mutation` a worker saves between its commit and its ack.  The snapshot is
taken under the lock of the registry, the file is replaced later, and nothing orders the
replacements of several workers; and the ack does not ask whether the save succeeded.  The
file was written from a registry that was read behind every acknowledged commit as long as no
older snapshot replaces a newer one and no save behind a commit fails.

What such a file holds of the commit is the matter of `StoredCommits`.

## Main results

* `durableRules`: what the workers do for it, turn by turn.
* `savesInOrder_sound`: the order of the saves, by evaluation.
-/

namespace FabricCapability.Ports

open FabricCapability.Verified.KeyedList
open FabricCapability.Verified.Workers

/-! ## Statements -/

/-- The registry that the file was last written from, and how many events had happened when
it was read. -/
def latestStore : List Event → Option (Nat × Registry)
  | [] => none
  | .stored _ taken registry :: _ => some (taken, registry)
  | _ :: past => latestStore past

/-- The file was written from a registry that was read behind this position of the log. -/
def InFile (s : Coordinator) (position : Nat) : Prop :=
  ∃ taken registry file report, latestStore s.log = some (taken, registry) ∧
    save registry = .ok (file, report) ∧ s.store = some file ∧ position < taken

/-- The file was read behind each commit that an ack reports. -/
def DurableAcks (s : Coordinator) : Prop :=
  ∀ worker requestId response past,
    Event.sent worker .publishAck requestId response :: past <:+ s.log →
      ∀ payload result before, Event.handled worker payload result :: before <:+ past →
        result.status = .committed → encodePublicationResult result = .ok response →
          InFile s before.length

/-- The file is not replaced by an older snapshot than it was written from, and no save
behind a commit fails. -/
structure SavesInOrder (s t : Coordinator) : Prop where
  stored : ∀ worker taken registry, t.log = .stored worker taken registry :: s.log →
    ∀ earlier held, latestStore s.log = some (earlier, held) → earlier ≤ taken
  unstored : ∀ worker, t.log = .unstored worker :: s.log →
    ∀ payload result, (ownEvents worker s.log).head? = some (.handled worker payload result) →
      result.status ≠ .committed

/-- A position of the log behind which the worker has committed. -/
def CommitAt (worker : Nat) (log : List Event) (position : Nat) : Prop :=
  ∃ payload result past, Event.handled worker payload result :: past <:+ log ∧
    result.status = .committed ∧ past.length = position

/-- The file was read behind the acknowledged commits, and the workers to come have committed
nothing. -/
structure Durable (s : Coordinator) : Prop where
  acks : DurableAcks s
  fresh : ∀ worker, s.workers ≤ worker → ∀ position, ¬ CommitAt worker s.log position

/-- What is in the file stays there. -/
structure KeepsFile (s t : Coordinator) : Prop where
  workers : s.workers ≤ t.workers
  kept : ∀ position, InFile s position → InFile t position

theorem keepsFile_refl (s : Coordinator) : KeepsFile s s := ⟨Nat.le_refl _, fun _ h => h⟩

def fileContract : Contract Coordinator Nat :=
  lawContract SavesInOrder Durable (fun _ => KeepsFile) fun _ => keepsFile_refl

theorem fileContract_own : KeepsToOwn fileContract := lawContract_own _ _ _ _

theorem fileContract_workers (worker : Nat) (s t : Coordinator)
    (h : fileContract.does worker s t) : s.workers ≤ t.workers := h.2.2.workers

/-- The file was read behind the commits of the worker. -/
def Saved (worker : Nat) (s : Coordinator) : Prop :=
  Begun worker s ∧ ∀ position, CommitAt worker s.log position → InFile s position

/-! ## Commits in the log -/

theorem commitAt_lt {worker : Nat} {log : List Event} {position : Nat}
    (h : CommitAt worker log position) : position < log.length := by
  obtain ⟨payload, result, past, hSuffix, -, rfl⟩ := h
  exact Nat.lt_of_lt_of_le (Nat.lt_succ_self _) hSuffix.length_le

/-- An event that is no commit of the worker. -/
theorem commitAt_cons {worker : Nat} {event : Event} {log : List Event} {position : Nat}
    (hEvent : ∀ payload result, event = .handled worker payload result →
      result.status ≠ .committed)
    (h : CommitAt worker (event :: log) position) : CommitAt worker log position := by
  obtain ⟨payload, result, past, hSuffix, hCommitted, hLength⟩ := h
  rcases List.suffix_cons_iff.1 hSuffix with hHere | hBefore
  · obtain ⟨rfl, -⟩ := List.cons_eq_cons.1 hHere
    exact absurd hCommitted (hEvent payload result rfl)
  · exact ⟨payload, result, past, hBefore, hCommitted, hLength⟩

theorem commitAt_append {worker : Nat} {new log : List Event} {position : Nat}
    (hNew : ∀ event ∈ new, ∀ payload result, event ≠ .handled worker payload result)
    (h : CommitAt worker (new ++ log) position) : CommitAt worker log position := by
  induction new with
  | nil => exact h
  | cons event new ih =>
      refine ih (fun other hMem => hNew other (List.mem_cons_of_mem _ hMem)) ?_
      exact commitAt_cons (fun payload result hEvent =>
        absurd hEvent (hNew event List.mem_cons_self payload result)) h

/-- The others do not commit under the number of the worker. -/
theorem commitAt_others {worker other : Nat} {s t : Coordinator} (hOwn : OnlyOwn other s t)
    (hNe : other ≠ worker) {position : Nat} (h : CommitAt worker t.log position) :
    CommitAt worker s.log position := by
  obtain ⟨new, hNew, hEvents⟩ := hOwn.log
  rw [hNew] at h
  refine commitAt_append (fun event hMem payload result hEvent => ?_) h
  have hWorker := hEvents event hMem
  rw [hEvent] at hWorker
  exact hNe hWorker.symm

/-- Facts about the commits of the worker are not disturbed. -/
theorem commits_stable (worker bound : Nat) :
    Stable fileContract worker fun s =>
      ∀ position, CommitAt worker s.log position → position < bound :=
  fun _ hNe _ _ _ hBound _ hDoes position hCommit =>
    hBound position (commitAt_others hDoes.1 hNe hCommit)

theorem saved_stable (worker : Nat) : Stable fileContract worker (Saved worker) :=
  fun other hNe s t hInv hSaved hOk hDoes =>
    ⟨begun_stable fileContract_workers worker other hNe s t hInv hSaved.1 hOk hDoes,
      fun position hCommit =>
        hDoes.2.2.kept position (hSaved.2 position (commitAt_others hDoes.1 hNe hCommit))⟩

/-! ## Steps that neither commit, acknowledge nor save -/

def Event.Silent : Event → Prop
  | handled .. | stored .. => False
  | sent _ type _ _ => type ≠ .publishAck
  | _ => True

/-- The change is no matter of commits, acks and the file. -/
structure Silent (worker : Nat) (s t : Coordinator) : Prop where
  own : OnlyOwn worker s t
  log : ∃ new, t.log = new ++ s.log ∧ ∀ event ∈ new, event.Silent
  store : t.store = s.store
  workers : s.workers ≤ t.workers

theorem silent_of_fields {worker : Nat} {s t : Coordinator} (hOwn : OnlyOwn worker s t)
    (hLog : t.log = s.log) (hStore : t.store = s.store) (hWorkers : s.workers ≤ t.workers) :
    Silent worker s t :=
  ⟨hOwn, ⟨[], hLog, fun _ hMem => absurd hMem List.not_mem_nil⟩, hStore, hWorkers⟩

theorem silent_change {worker : Nat} {event : Event} (hOwn : event.worker = worker)
    (hSilent : event.Silent) (registry : Registry) (s : Coordinator) :
    Silent worker s ({ s with registry }.note event) :=
  ⟨onlyOwn_change hOwn registry s,
    ⟨[event], rfl, fun _ hMem => List.mem_singleton.1 hMem ▸ hSilent⟩, rfl, Nat.le_refl _⟩

theorem latestStore_cons {event : Event} (h : event.Silent) (log : List Event) :
    latestStore (event :: log) = latestStore log := by
  cases event with
  | stored => exact absurd h id
  | _ => rfl

theorem Silent.latestStore {worker : Nat} {s t : Coordinator} (h : Silent worker s t) :
    latestStore t.log = latestStore s.log := by
  obtain ⟨new, hNew, hSilent⟩ := h.log
  rw [hNew]
  clear hNew
  induction new with
  | nil => rfl
  | cons event new ih =>
      rw [List.cons_append, latestStore_cons (hSilent event List.mem_cons_self)]
      exact ih fun other hMem => hSilent other (List.mem_cons_of_mem _ hMem)

theorem Silent.inFile {worker : Nat} {s t : Coordinator} (h : Silent worker s t)
    (position : Nat) (hHeld : InFile s position) : InFile t position := by
  unfold InFile
  rw [h.latestStore, h.store]
  exact hHeld

theorem Silent.commitAt {worker : Nat} {s t : Coordinator} (h : Silent worker s t)
    {other position : Nat} (hCommit : CommitAt other t.log position) :
    CommitAt other s.log position := by
  obtain ⟨new, hNew, hSilent⟩ := h.log
  rw [hNew] at hCommit
  refine commitAt_append (fun event hMem payload result hEvent => ?_) hCommit
  have hLoud := hSilent event hMem
  rw [hEvent] at hLoud
  exact hLoud

theorem durableAcks_cons {s : Coordinator} {t : Coordinator} {event : Event}
    (hLog : t.log = event :: s.log) (hKept : ∀ position, InFile s position → InFile t position)
    (h : DurableAcks s)
    (hAck : ∀ worker requestId response, event = .sent worker .publishAck requestId response →
      ∀ position, CommitAt worker s.log position → InFile t position) : DurableAcks t := by
  intro worker requestId response past hSuffix payload result before hHandled hCommitted hEncoded
  rw [hLog] at hSuffix
  rcases List.suffix_cons_iff.1 hSuffix with hHere | hBefore
  · obtain ⟨rfl, rfl⟩ := List.cons_eq_cons.1 hHere
    exact hAck worker requestId response rfl before.length
      ⟨payload, result, before, hHandled, hCommitted, rfl⟩
  · exact hKept _ (h worker requestId response past hBefore payload result before hHandled
      hCommitted hEncoded)

theorem Silent.durableAcks {worker : Nat} {s t : Coordinator} (hSilent : Silent worker s t)
    (h : DurableAcks s) : DurableAcks t := by
  intro other requestId response past hSuffix payload result before hHandled hCommitted hEncoded
  refine hSilent.inFile _ ?_
  obtain ⟨new, hNew, hEvents⟩ := hSilent.log
  rw [hNew] at hSuffix
  clear hNew
  induction new with
  | nil =>
      exact h other requestId response past hSuffix payload result before hHandled hCommitted
        hEncoded
  | cons event new ih =>
      rcases List.suffix_cons_iff.1 hSuffix with hHere | hBefore
      · obtain ⟨rfl, -⟩ := List.cons_eq_cons.1 hHere
        exact absurd rfl (hEvents _ List.mem_cons_self)
      · exact ih hBefore fun event hMem => hEvents event (List.mem_cons_of_mem _ hMem)

theorem silent_does {worker : Nat} {s t : Coordinator} (h : Silent worker s t) :
    fileContract.does worker s t :=
  ⟨h.own, fun hInv _ => ⟨h.durableAcks hInv.acks, fun other hLe position hCommit =>
    hInv.fresh other (Nat.le_trans h.workers hLe) position (h.commitAt hCommit)⟩,
    h.workers, h.inFile⟩

theorem Silent.saved {worker : Nat} {s t : Coordinator} (hSilent : Silent worker s t)
    (h : Saved worker s) : Saved worker t :=
  ⟨Nat.lt_of_lt_of_le h.1 hSilent.workers, fun position hCommit =>
    hSilent.inFile position (h.2 position (hSilent.commitAt hCommit))⟩

theorem Sends.silent {worker : Nat} {type : WireMessageType} {requestId : UInt64}
    {payload : Bytes} {s t : Coordinator} (h : Sends worker type requestId payload s t)
    (hType : type ≠ .publishAck) : Silent worker s t := by
  cases h with
  | sent => exact @silent_change worker (.sent ..) rfl hType s.registry s
  | lost => exact @silent_change worker (.lost ..) rfl trivial s.registry s

theorem Acts.silent {worker : Nat} {s t : Coordinator} (h : Acts worker s t) :
    Silent worker s t := by
  have hFields : ∀ {t : Coordinator}, OnlyOwn worker s t → t.log = s.log →
      t.store = s.store → t.workers = s.workers → Silent worker s t :=
    fun hOwn hLog hStore hWorkers =>
      silent_of_fields hOwn hLog hStore (Nat.le_of_eq hWorkers.symm)
  have hOwn := h.onlyOwn
  cases h with
  | chats hChats =>
      cases hChats with
      | reads => exact hFields hOwn rfl rfl rfl
      | status hSends => exact hSends.silent nofun
      | error hSends => exact hSends.silent nofun
  | greets hSends => exact hSends.silent nofun
  | acknowledges hSends => exact hSends.silent nofun
  | registers hRegisters => exact @silent_change worker (.registered ..) rfl trivial _ s
  | connects hello hFound => exact hFields hOwn rfl rfl rfl
  | scopes workerBoot scope => exact hFields hOwn rfl rfl rfl
  | fences workerBoot reason => exact hFields hOwn rfl rfl rfl
  | forgets workerBoot => exact hFields hOwn rfl rfl rfl
  | loses workerBoot reason => exact @silent_change worker (.closed ..) rfl trivial _ s
  | closes => exact @silent_change worker (.closed ..) rfl trivial s.registry s
  | erases => exact hFields hOwn rfl rfl rfl
  | calls operation => exact hFields hOwn rfl rfl rfl

/-! ## Saving -/

/-- The latest event of the worker is the handling of a payload; unless it is a commit, the
commits of the worker are in the file. -/
def Saving (worker : Nat) (payload : Bytes) (result : PublicationResult) (s : Coordinator) :
    Prop :=
  (Begun worker s ∧ (ownEvents worker s.log).head? = some (.handled worker payload result)) ∧
    (result.status ≠ .committed → Saved worker s)

theorem saving_stable (worker : Nat) (payload : Bytes) (result : PublicationResult) :
    Stable fileContract worker (Saving worker payload result) := by
  refine stable_and (stable_and (begun_stable fileContract_workers worker)
    (stable_ownEvents fileContract_own fun events =>
      events.head? = some (.handled worker payload result))) ?_
  exact fun other hNe s t hInv hSaved hOk hDoes hNot =>
    saved_stable worker other hNe s t hInv (hSaved hNot) hOk hDoes

/-- The file is replaced. -/
theorem stored_inFile {worker taken : Nat} {registry : Registry} {file : Bytes}
    {report : SaveReport} {s : Coordinator} (hSave : save registry = .ok (file, report))
    {position : Nat} (h : position < taken) :
    InFile ({ s with store := some file }.note (.stored worker taken registry)) position :=
  ⟨taken, registry, file, report, rfl, hSave, rfl, h⟩

theorem stored_does {worker taken : Nat} {registry : Registry} {file : Bytes}
    {report : SaveReport} {s : Coordinator} (hSave : save registry = .ok (file, report))
    (hOk : SavesInOrder s
      ({ s with store := some file }.note (.stored worker taken registry))) :
    fileContract.does worker s
      ({ s with store := some file }.note (.stored worker taken registry)) := by
  have hKept : ∀ position, InFile s position →
      InFile ({ s with store := some file }.note (.stored worker taken registry)) position := by
    rintro position ⟨earlier, held, _, _, hLatest, -, -, hBefore⟩
    have hOrder := hOk.stored worker taken registry rfl earlier held hLatest
    exact stored_inFile hSave (Nat.lt_of_lt_of_le hBefore hOrder)
  have hStored : OnlyOwn worker s { s with store := some file } := onlyOwn_of_fields rfl rfl
  refine ⟨hStored.trans (@onlyOwn_note worker (.stored ..) rfl _), fun hInv _ => ⟨?_, ?_⟩,
    Nat.le_refl _, hKept⟩
  · exact @durableAcks_cons s _ (.stored ..) rfl hKept hInv.acks fun _ _ _ => nofun
  · exact fun other hLe position hCommit =>
      hInv.fresh other hLe position (commitAt_cons (fun _ _ hEvent => by cases hEvent) hCommit)

/-- A save by a worker that handles a payload. -/
theorem saveStore_saves (worker : Nat) (payload : Bytes) (result : PublicationResult) :
    Valid fileContract worker (fun _ => Saved worker) (saveStore worker)
      (Saving worker payload result) := by
  have hFail : Valid fileContract worker (fun _ => Saved worker)
      (do
        Task.modify (Coordinator.note (.unstored worker))
        pure false : Work Bool) (Saving worker payload result) := by
    refine valid_bind (M := fun _ => Saved worker)
      (valid_modify (saved_stable worker) fun s _ hSaving hOk => ?_)
      fun _ => valid_pure fun _ _ hSaved => hSaved
    have hSilent := @silent_change worker (.unstored worker) rfl trivial s.registry s
    have hNot := hOk.unstored worker rfl payload result hSaving.1.2
    exact ⟨silent_does hSilent, hSilent.saved (hSaving.2 hNot)⟩
  refine valid_bind (M := fun read s => Saving worker payload result s ∧
      ∀ position, CommitAt worker s.log position → position < read.2)
    (valid_read (fun read => stable_and (saving_stable worker payload result)
      (commits_stable worker read.2)) fun s _ hSaving =>
        ⟨hSaving, fun position hCommit => commitAt_lt hCommit⟩) fun read => ?_
  obtain ⟨registry, taken⟩ := read
  dsimp only
  split
  · exact valid_weaken hFail fun _ _ hFacts => hFacts.1
  · rename_i file report hSave
    refine valid_toss fun written => ?_
    cases written with
    | false => exact valid_weaken hFail fun _ _ hFacts => hFacts.1
    | true =>
        refine valid_bind (M := fun _ => Saved worker)
          (valid_modify (saved_stable worker) fun s _ hFacts hOk => ?_)
          fun _ => valid_pure fun _ _ hSaved => hSaved
        refine ⟨stored_does hSave hOk, hFacts.1.1.1, fun position hCommit => ?_⟩
        have hBefore := hFacts.2 position (commitAt_cons (fun _ _ hEvent => by cases hEvent) hCommit)
        exact stored_inFile hSave hBefore

/-- A save on behalf of nobody. -/
theorem saveStore_keeps (worker : Nat) :
    Valid fileContract worker (fun _ _ => True) (saveStore worker) fun _ => True := by
  have hFail : Valid fileContract worker (fun _ _ => True)
      (do
        Task.modify (Coordinator.note (.unstored worker))
        pure false : Work Bool) fun _ => True := by
    refine valid_bind (M := fun _ _ => True)
      (valid_modify (stable_const True) fun s _ _ _ => ⟨?_, trivial⟩)
      fun _ => valid_pure fun _ _ _ => trivial
    exact silent_does (@silent_change worker (.unstored worker) rfl trivial s.registry s)
  refine valid_bind (M := fun _ _ => True)
    (valid_read (fun _ => stable_const True) fun _ _ _ => trivial) fun read => ?_
  obtain ⟨registry, taken⟩ := read
  dsimp only
  split
  · exact hFail
  · rename_i file report hSave
    refine valid_toss fun written => ?_
    cases written with
    | false => exact hFail
    | true =>
        exact valid_bind (M := fun _ _ => True)
          (valid_modify (stable_const True) fun s _ _ hOk => ⟨stored_does hSave hOk, trivial⟩)
          fun _ => valid_pure fun _ _ _ => trivial

/-! ## Publish -/

/-- A payload is handled. -/
theorem handled_does {worker : Nat} {payload : Bytes} {result : PublicationResult}
    {registry : Registry} {s : Coordinator} (hBegun : Begun worker s) :
    fileContract.does worker s ({ s with registry }.note (.handled worker payload result)) := by
  have hKept : ∀ position, InFile s position →
      InFile ({ s with registry }.note (.handled worker payload result)) position :=
    fun position hHeld => hHeld
  refine ⟨@onlyOwn_change worker (.handled ..) rfl registry s, fun hInv _ => ⟨?_, ?_⟩,
    Nat.le_refl _, hKept⟩
  · exact durableAcks_cons rfl hKept hInv.acks fun _ _ _ => nofun
  · refine fun other hLe position hCommit =>
      hInv.fresh other hLe position (commitAt_cons (fun _ _ hEvent => ?_) hCommit)
    cases hEvent
    exact absurd hBegun (Nat.not_lt.2 hLe)

theorem handled_saving {worker : Nat} {payload : Bytes} {result : PublicationResult}
    {registry : Registry} {s : Coordinator} (h : Saved worker s) :
    Saving worker payload result
      ({ s with registry }.note (.handled worker payload result)) := by
  refine ⟨⟨h.1, ?_⟩, fun hNot => ⟨h.1, fun position hCommit => ?_⟩⟩
  · rw [ownEvents_note]
    show (if worker = worker then _ else _ : List Event).head? = _
    rw [if_pos rfl]
    rfl
  · refine h.2 position (commitAt_cons (fun _ _ hEvent => ?_) hCommit)
    cases hEvent
    exact hNot

theorem handlePayload_saving (worker : Nat) (state : ConnectionState) (payload : Bytes) :
    Valid fileContract worker (fun result => Saving worker payload result)
      (handlePayload worker state payload) (Saved worker) := by
  have hRefused : ∀ code message,
      Valid fileContract worker (fun result => Saving worker payload result)
        (refusePayload worker payload code message) (Saved worker) := by
    intro code message
    refine valid_update (saving_stable worker payload) fun s _ hSaved _ => ?_
    have hHeld := @handled_saving worker payload (refusedResult code message) s.registry s hSaved
    exact ⟨@handled_does worker payload _ s.registry s hSaved.1, hHeld⟩
  unfold handlePayload
  split
  · exact hRefused _ _
  · split
    · refine valid_bind (M := fun _ => Saved worker)
        (valid_read (fun _ => saved_stable worker) fun _ _ hSaved => hSaved) fun epoch => ?_
      exact valid_update (saving_stable worker payload) fun s _ hSaved _ =>
        ⟨handled_does hSaved.1, handled_saving hSaved⟩
    · exact hRefused _ _

theorem rememberAnswer_saving (worker : Nat) (requestId : UInt64) (response payload : Bytes)
    (result : PublicationResult) :
    Valid fileContract worker (fun _ => Saving worker payload result)
      (rememberAnswer worker requestId response) (Saving worker payload result) := by
  refine valid_modify (saving_stable worker payload result) fun s _ hSaving _ => ?_
  split
  · exact ⟨fileContract.still worker s, hSaving⟩
  · exact ⟨silent_does (silent_of_fields (onlyOwn_setConnection ..) rfl rfl (Nat.le_refl _)),
      hSaving⟩

/-- An ack of a worker behind whose commits the file was read. -/
theorem sendAck_durable (worker : Nat) (requestId : UInt64) (response : Bytes) :
    Valid fileContract worker (fun _ => Saved worker)
      (sendFrame worker .publishAck requestId response) (Saved worker) := by
  refine valid_of_within (sendFrame_within worker .publishAck requestId response)
    (saved_stable worker) fun s t _ hSaved _ hSends => ?_
  cases hSends with
  | lost =>
      have hSilent := @silent_change worker (.lost worker .publishAck requestId response) rfl
        trivial s.registry s
      exact ⟨silent_does hSilent, hSilent.saved hSaved⟩
  | sent =>
      have hCommits : ∀ {other position}, CommitAt other
          (s.note (.sent worker .publishAck requestId response)).log position →
            CommitAt other s.log position :=
        fun hCommit => commitAt_cons (fun _ _ hEvent => by cases hEvent) hCommit
      have hKept : ∀ position, InFile s position →
          InFile (s.note (.sent worker .publishAck requestId response)) position :=
        fun position hHeld => hHeld
      refine ⟨⟨@onlyOwn_note worker (.sent ..) rfl s, fun hInv _ => ⟨?_, ?_⟩, Nat.le_refl _,
        hKept⟩, hSaved.1, fun position hCommit => hKept position (hSaved.2 position (hCommits hCommit))⟩
      · refine durableAcks_cons rfl hKept hInv.acks fun other _ _ hAck position hCommit => ?_
        cases hAck
        exact hKept position (hSaved.2 position hCommit)
      · exact fun other hLe position hCommit => hInv.fresh other hLe position (hCommits hCommit)

theorem servePublish_durable {options : CoordinatorOptions}
    (hPersist : options.persistOnMutation = true) (hStore : options.persistence.isSome = true)
    (worker : Nat) (state : ConnectionState) (request : WireFrame) :
    Valid fileContract worker
      (fun goesOn s => goesOn = true → Saved worker s)
      (servePublish options worker state request) (Saved worker) := by
  unfold servePublish
  split
  · exact valid_consequence (sendAck_durable worker _ _) fun _ _ _ hSaved _ => hSaved
  · refine valid_bind (handlePayload_saving worker state request.payload) fun result => ?_
    split
    · exact valid_pure fun _ _ _ => nofun
    · rename_i response _
      refine valid_bind (rememberAnswer_saving worker _ response request.payload result)
        fun _ => ?_
      refine valid_bind (M := fun _ => Saved worker) ?_ fun _ =>
        valid_consequence (sendAck_durable worker _ _) fun _ _ _ hSaved _ => hSaved
      unfold persistMutation
      rw [hPersist, hStore]
      exact valid_bind (saveStore_saves worker request.payload result) fun _ =>
        valid_pure fun _ _ hSaved => hSaved

/-! ## All runs -/

theorem acts_saved {α : Type} {worker : Nat} {task : Work α} (h : Within (Acts worker) task) :
    Valid fileContract worker (fun _ => Saved worker) task (Saved worker) :=
  valid_of_within h (saved_stable worker) fun _ _ _ hSaved _ hActs =>
    ⟨silent_does hActs.silent, hActs.silent.saved hSaved⟩

theorem acts_freely {α : Type} {worker : Nat} {task : Work α} {P : Coordinator → Prop}
    (h : Within (Acts worker) task) : Valid fileContract worker (fun _ _ => True) task P :=
  valid_weaken (valid_of_within h (stable_const True) fun _ _ _ _ _ hActs =>
    ⟨silent_does hActs.silent, trivial⟩) fun _ _ _ => trivial

theorem serveFrame_durable {options : CoordinatorOptions}
    (hPersist : options.persistOnMutation = true) (hStore : options.persistence.isSome = true)
    (worker : Nat) (state : ConnectionState) (request : WireFrame) :
    Valid fileContract worker (fun goesOn s => goesOn = true → Saved worker s)
      (serveFrame options worker state request) (Saved worker) := by
  have hActs : ∀ {task : Work Bool}, Within (Acts worker) task →
      Valid fileContract worker (fun goesOn s => goesOn = true → Saved worker s) task
        (Saved worker) :=
    fun hWithin => valid_consequence (acts_saved hWithin) fun _ _ _ hSaved _ => hSaved
  unfold serveFrame
  split
  · exact servePublish_durable hPersist hStore worker state request
  · exact hActs (within_mono (fun _ _ => .chats) (serveStatus_within worker request))
  · exact hActs (serveFence_acts worker state request)
  · exact hActs (within_mono (fun _ _ => .chats) (sendError_within worker _ _))

theorem durableRules {options : CoordinatorOptions}
    (hPersist : options.persistOnMutation = true)
    (hStore : options.persistence.isSome = true) :
    ServeRules options fileContract (fun _ _ => True) (fun worker _ => Saved worker)
      (fun _ _ _ => True) fun worker _ _ => Saved worker where
  stable worker _ := saved_stable worker
  aside _ := stable_const True
  ends _ _ _ _ _ := trivial
  receives worker _ request := by
    refine valid_modify (saved_stable worker) fun s _ hSaved _ => ?_
    have hSilent := @silent_change worker (.received worker request) rfl trivial s.registry s
    exact ⟨silent_does hSilent, hSilent.saved hSaved⟩
  leaves _ _ _ _ _ _ := trivial
  reads worker _ _ state := stable_and (saved_stable worker)
    (stable_connection fileContract_own fun held => held = state)
  hello worker locals request _ := by
    refine valid_consequence (acts_saved (serveHello_acts worker request))
      fun boot s _ hSaved => ?_
    cases boot with
    | none => trivial
    | some boot => exact hSaved
  frame worker _ request state _ := by
    have hFrame := serveFrame_durable hPersist hStore worker state request
    refine valid_consequence (valid_weaken hFrame fun _ _ hFacts => hFacts.1)
      fun goesOn s _ hSaved => ?_
    cases goesOn with
    | true => exact hSaved rfl
    | false => trivial
  lost worker locals := acts_freely (fenceLost_acts worker locals)
  erases worker := acts_freely (within_update fun s => .erases)
  persist worker := saveStore_keeps worker
  call worker operation := acts_freely (callRegistry_acts worker operation)
  accepts worker s t hInv hStarts _ := by
    have hOwn := hStarts.onlyOwn
    cases hStarts with
    | accept hFresh hRoom =>
        refine ⟨silent_does (silent_of_fields hOwn rfl rfl (Nat.le_succ _)),
          Nat.lt_succ_of_le (Nat.le_of_eq hFresh), fun position hCommit => ?_⟩
        exact absurd hCommit (hInv.fresh worker (Nat.le_of_eq hFresh.symm) position)
  begins worker s _ _ _ :=
    ⟨silent_does (silent_of_fields (onlyOwn_of_fields rfl rfl) rfl rfl (Nat.le_succ _)), trivial⟩

theorem durable_start {options : CoordinatorOptions} {file : Option Bytes} {written : Bool}
    {s : Coordinator} (hStart : startCoordinator options file written = .ok s) : Durable s := by
  obtain ⟨hLog, -, -⟩ := startCoordinator_fresh hStart
  refine ⟨fun worker requestId response past hSuffix => ?_, fun worker _ position hCommit => ?_⟩
  · rw [hLog, List.suffix_nil] at hSuffix
    cases hSuffix
  · have hBound := commitAt_lt hCommit
    rw [hLog] at hBound
    exact absurd hBound (Nat.not_lt_zero _)

/-- A check of `SavesInOrder` by evaluation. -/
def savesInOrder (_ t : Coordinator) : Bool :=
  match t.log with
  | .stored _ taken _ :: past => (latestStore past).all fun held => decide (held.1 ≤ taken)
  | .unstored worker :: past =>
      match (ownEvents worker past).head? with
      | some (.handled _ _ result) => result.status != .committed
      | _ => true
  | _ => true

theorem savesInOrder_sound {s t : Coordinator} (h : savesInOrder s t = true) :
    SavesInOrder s t := by
  refine ⟨fun worker taken registry hLog => ?_, fun worker hLog => ?_⟩
  · unfold savesInOrder at h
    rw [hLog] at h
    intro earlier held hLatest
    dsimp only at h
    rw [hLatest, Option.all_some] at h
    exact of_decide_eq_true h
  · unfold savesInOrder at h
    rw [hLog] at h
    intro payload result hHead
    dsimp only at h
    rw [hHead] at h
    exact bne_iff_ne.1 h

namespace Sample

/-- The worker replaces the file. -/
def storing (worker : Nat) : List CoordinatorMove := [.choose worker true, .turn worker]

end Sample

end FabricCapability.Ports
