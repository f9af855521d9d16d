import FabricCapability.Verified.SharedMutex
import FabricCapability.Ports.Requirements
import FabricCapability.Ports.Runs

/-!
# The public methods and the registry lock

Each public method of the registry as code with locked sections.  A method that is one
section is its model under the lock; the others are what their bodies are: `PublishBatch`
publishes one request after the other, the lookups that name a generation check it and then
look up, `Evaluate` asks leaf by leaf, `RegisterVendorDescriptor` takes no lock, and
`ExplainReplay` calls `ExplainPublication` while it holds the lock.

## Main results

* `operationCode_alone`: alone, the methods that write are the operations of the model.
* `calls_disciplined`: the sections of a method do not nest, unless `ExplainReplay` finds its
  attempt in the journal.
* `threads_go_on`: threads that never let `ExplainReplay` find its attempt do not wait for
  themselves, and one of them can always go on.
* `replayed_explanation_deadlocks`: a writer that arrives inside `ExplainReplay`.
-/

namespace FabricCapability.Ports

open FabricCapability.Verified.KeyedList
open FabricCapability.Verified.LockedCode
open FabricCapability.Verified.SharedMutex

/-! ## Methods that write -/

def publishCode (request : PublicationRequest) : Code Registry (Outcome PublicationResult) :=
  .locked .exclusive fun registry => publish registry request

def publishEachCode :
    List PublicationRequest → Code Registry (Outcome (List PublicationResult))
  | [] => .done (.ok [])
  | request :: requests =>
      (publishCode request).bind fun
        | .error e => .done (.error e)
        | .ok result => (publishEachCode requests).map fun results => results.map (result :: ·)

def publishBatchCode (requests : List PublicationRequest) :
    Code Registry (Outcome (List PublicationResult)) :=
  if requests.length > kMaxPublicationsPerBatch then
    .done (failure .tooManyItems (txt "publication batch exceeds the bound")
      (decimal requests.length))
  else publishEachCode requests

/-- `Load` reads the store before it takes the lock. -/
def loadCode (config : PersistenceConfig) (file : Option Bytes) :
    Code Registry (Outcome LoadReport) :=
  match Store.readStore config file with
  | .error e => .done (.error e)
  | .ok (payload, read) =>
      .locked .exclusive fun registry =>
        let loaded := loadPayload registry payload
        (loaded, .ok (loadReport read payload loaded))

/-- The operations of the model as code.  The schema has no lock, and the silent step of a
container is not a section of anybody. -/
def operationCode : Operation → Code Registry Unit
  | .publish request => (publishCode request).map fun _ => ()
  | .publishBatch requests => (publishBatchCode requests).map fun _ => ()
  | .load config file => (loadCode config file).map fun _ => ()
  | .registerVendorDescriptor descriptor =>
      .access (fun registry => (registerVendorDescriptor registry descriptor).1) fun _ =>
        .done ()
  | .rehash publishers =>
      .access (fun registry => (Operation.rehash publishers).apply registry) fun _ => .done ()
  | operation => .locked .exclusive fun registry => (operation.apply registry, ())

theorem publishEachCode_alone (registry : Registry) (requests : List PublicationRequest) :
    (publishEachCode requests).alone registry = publishEach registry requests := by
  induction requests generalizing registry with
  | nil => rfl
  | cons request requests ih =>
      unfold publishEachCode publishEach
      rw [alone_bind, publishCode, alone_locked]
      cases hPublish : publish registry request with
      | mk after outcome =>
          cases outcome with
          | error e => rfl
          | ok result =>
              show ((publishEachCode requests).map _).alone after = _
              rw [Code.map, alone_bind, ih]
              rfl

/-- Alone, a method that writes is the operation of the model. -/
theorem operationCode_alone (registry : Registry) (operation : Operation) :
    ((operationCode operation).alone registry).1 = operation.apply registry := by
  have hMap : ∀ {α : Type} (code : Code Registry α),
      ((code.map fun _ => ()).alone registry).1 = (code.alone registry).1 := by
    intro α code
    rw [Code.map, alone_bind]
    rfl
  cases operation with
  | publish request => rw [operationCode, hMap]; rfl
  | publishBatch requests =>
      rw [operationCode, hMap, Operation.apply, publishBatchCode, publishBatch]
      split
      · rfl
      · rw [publishEachCode_alone]
  | load config file =>
      rw [operationCode, hMap, Operation.apply, loadCode, load]
      cases Store.readStore config file with
      | error e => rfl
      | ok stored => rfl
  | registerVendorDescriptor descriptor => rfl
  | rehash publishers => rfl
  | _ => rfl

/-! ## Methods that read -/

/-- A lookup after a check that is a section of its own. -/
def checkedCode {α : Type} (check : Registry → Outcome Unit)
    (lookup : Code Registry (Outcome α)) : Code Registry (Outcome α) :=
  (Code.reading check).bind fun
    | .error e => .done (.error e)
    | .ok () => lookup

/-- `Query` for a generation. -/
def queryAtCode (entity : EntityId) (generation : EntityGeneration)
    (capability : CapabilityId) : Code Registry (Outcome CapabilityQueryResult) :=
  checkedCode (fun registry => requireCurrent registry entity generation)
    ((queryCode entity capability).map .ok)

/-- `QueryEntity` for a generation. -/
def queryEntityAtCode (entity : EntityId) (generation : EntityGeneration) :
    Code Registry (Outcome EntityCapabilitySet) :=
  checkedCode (fun registry => requireCurrent registry entity generation)
    (queryEntityCode entity)

/-- `ExplainPublication`. -/
def explainPublication (registry : Registry) (publication : PublicationId) :
    Outcome Explanation :=
  match lookup JournalEntry.publication publication registry.journal.entries with
  | none =>
      failure .notFound (txt "no publication with this identifier is retained")
        publication.value
  | some entry =>
      let step := makeStep (txt "publication.journal") (txt "retained publication outcome")
        [(txt "publication", entry.publication.value),
         (txt "attempt", entry.attempt.value),
         (txt "status", publicationStatusName entry.status),
         (txt "code", errorCodeName entry.code),
         (txt "message", entry.message),
         (txt "entity", entry.entity.toText),
         (txt "entity_generation", decimal entry.entityGeneration.toNat),
         (txt "previous_set_generation", decimal entry.previousGeneration.toNat),
         (txt "set_generation", decimal entry.newGeneration.toNat),
         (txt "registry_generation", decimal entry.registryGeneration.toNat)]
      .ok { entry.explanation with steps := entry.explanation.steps ++ [step] }

def explainPublicationCode (publication : PublicationId) :
    Code Registry (Outcome Explanation) :=
  .reading fun registry => explainPublication registry publication

/-- What `ExplainReplay` does once it holds the lock, which it gives back after the inner
call has answered. -/
def explainFound (attempt : MutationAttemptId) (registry : Registry) :
    Code Registry (Outcome Explanation) :=
  match lookup Prod.fst attempt registry.journal.attempts with
  | none =>
      .unlock (.done (failure .notFound
        (txt "no retained publication used this mutation attempt identifier") attempt.value))
  | some found => (explainPublicationCode found.2).bind fun answer => .unlock (.done answer)

/-- `ExplainReplay`. -/
def explainReplayCode (attempt : MutationAttemptId) : Code Registry (Outcome Explanation) :=
  .lock .shared (.access id (explainFound attempt))

/-- With the attempt in the journal it takes the lock that it holds. -/
theorem explainFound_locks {attempt : MutationAttemptId} {registry : Registry}
    (h : (lookup Prod.fst attempt registry.journal.attempts).isSome = true) :
    ∃ rest, (explainFound attempt registry).map (fun _ => ()) = .lock .shared rest := by
  obtain ⟨found, hFound⟩ := Option.isSome_iff_exists.1 h
  rw [explainFound, hFound]
  exact ⟨_, rfl⟩

/-! ## Calls -/

/-- The methods that read in one section and are called by no other method here. -/
inductive Reader where
  | currentEpoch | generation | authority | authorities | isWorkerBootFenced | fences
  | findPublisher | entityRecord | retiredGeneration | entities | entitiesSupporting
  | entitiesNotSupporting | entitiesWithState | capabilitiesInNamespace
  | capabilitiesRequiringRevalidation | createSnapshot | checkSnapshot
  | diffAgainstSnapshot | diffEntityAgainstSnapshot | explainCapability
  | explainGeneration | computeDigest | statistics | save
  deriving DecidableEq

/-- A call of a public method. -/
inductive Call where
  | write (operation : Operation)
  | read (method : Reader)
  | query (entity : EntityId) (capability : CapabilityId)
  | queryAt (entity : EntityId) (generation : EntityGeneration) (capability : CapabilityId)
  | queryEntity (entity : EntityId)
  | queryEntityAt (entity : EntityId) (generation : EntityGeneration)
  | evidenceFor (entity : EntityId) (capability : CapabilityId)
  | evaluate (entity : EntityId) (requirement : Requirement)
  | explainPublication (publication : PublicationId)
  | explainReplay (attempt : MutationAttemptId)

/-- What the call does, its answer apart. -/
def Call.code : Call → Code Registry Unit
  | write operation => operationCode operation
  | read _ => .reading fun _ => ()
  | query entity capability => (queryCode entity capability).map fun _ => ()
  | queryAt entity generation capability =>
      (queryAtCode entity generation capability).map fun _ => ()
  | queryEntity entity => (queryEntityCode entity).map fun _ => ()
  | queryEntityAt entity generation => (queryEntityAtCode entity generation).map fun _ => ()
  | evidenceFor entity capability => (queryCode entity capability).map fun _ => ()
  | evaluate entity requirement => (evaluateCode entity requirement).map fun _ => ()
  | explainPublication publication => (explainPublicationCode publication).map fun _ => ()
  | explainReplay attempt => (explainReplayCode attempt).map fun _ => ()

/-! ## Lock discipline -/

section Disciplined

variable {ok : Registry → Prop}

theorem publishEachCode_disciplined (requests : List PublicationRequest) :
    Disciplined ok (publishEachCode requests) false := by
  induction requests with
  | nil => rfl
  | cons request requests ih =>
      refine disciplined_bind disciplined_locked fun outcome => ?_
      cases outcome with
      | error e => rfl
      | ok result => exact disciplined_map ih

theorem operationCode_disciplined (operation : Operation) :
    Disciplined ok (operationCode operation) false := by
  cases operation with
  | publish request => exact disciplined_map disciplined_locked
  | publishBatch requests =>
      refine disciplined_map ?_
      unfold publishBatchCode
      split
      · rfl
      · exact publishEachCode_disciplined requests
  | load config file =>
      refine disciplined_map ?_
      unfold loadCode
      split
      · rfl
      · exact disciplined_locked
  | registerVendorDescriptor descriptor => exact fun _ _ => rfl
  | rehash publishers => exact fun _ _ => rfl
  | _ => exact disciplined_locked

mutual

theorem evaluateNode_disciplined (entity : EntityId) (path : Bytes)
    (nodes : List RequirementNodeResult) :
    ∀ requirement, Disciplined ok (evaluateNode entity path nodes requirement) false
  | .node fields children => by
      unfold evaluateNode
      split
      · exact disciplined_map (evaluateChildren_disciplined entity path 0 nodes children)
      · exact disciplined_map (evaluateChildren_disciplined entity path 0 nodes children)
      · cases children with
        | nil => rfl
        | cons child rest => exact disciplined_map (evaluateNode_disciplined entity _ nodes child)
      · exact disciplined_map disciplined_reading

theorem evaluateChildren_disciplined (entity : EntityId) (path : Bytes) (index : Nat)
    (nodes : List RequirementNodeResult) :
    ∀ children, Disciplined ok (evaluateChildren entity path index nodes children) false
  | [] => rfl
  | child :: children => by
      unfold evaluateChildren
      refine disciplined_bind (evaluateNode_disciplined entity _ nodes child) fun evaluated => ?_
      cases evaluated with
      | none => rfl
      | some answered =>
          exact disciplined_map (evaluateChildren_disciplined entity path _ _ children)

end

theorem checkedCode_disciplined {α : Type} {check : Registry → Outcome Unit}
    {lookup : Code Registry (Outcome α)} (h : Disciplined ok lookup false) :
    Disciplined ok (checkedCode check lookup) false := by
  refine disciplined_bind disciplined_reading fun outcome => ?_
  cases outcome with
  | error e => rfl
  | ok _ => exact h

theorem evaluateCode_disciplined (entity : EntityId) (requirement : Requirement) :
    Disciplined ok (evaluateCode entity requirement) false := by
  unfold evaluateCode
  split
  · rfl
  · exact disciplined_bind disciplined_reading fun _ =>
      disciplined_map (evaluateNode_disciplined entity _ _ requirement)

end Disciplined

/-- If the call is an `ExplainReplay`, its attempt is not in the journal. -/
def Unjournaled : Call → Registry → Prop
  | .explainReplay attempt, registry =>
      lookup Prod.fst attempt registry.journal.attempts = none
  | _, _ => True

/-- The sections of a call do not nest. -/
theorem calls_disciplined (call : Call) : Disciplined (Unjournaled call) call.code false := by
  cases call with
  | write operation => exact operationCode_disciplined operation
  | read method => exact disciplined_reading
  | query entity capability => exact disciplined_map disciplined_reading
  | queryAt entity generation capability =>
      exact disciplined_map (checkedCode_disciplined (disciplined_map disciplined_reading))
  | queryEntity entity => exact disciplined_map disciplined_reading
  | queryEntityAt entity generation =>
      exact disciplined_map (checkedCode_disciplined disciplined_reading)
  | evidenceFor entity capability => exact disciplined_map disciplined_reading
  | evaluate entity requirement =>
      exact disciplined_map (evaluateCode_disciplined entity requirement)
  | explainPublication publication => exact disciplined_map disciplined_reading
  | explainReplay attempt =>
      refine disciplined_map ⟨rfl, fun registry hAbsent => ?_⟩
      rw [explainFound, show lookup Prod.fst attempt registry.journal.attempts = none from hAbsent]
      exact ⟨rfl, rfl⟩

/-- For any threads, with any calls in any order: in a run in which no `ExplainReplay` finds
its attempt in the journal, no thread ever waits for the lock while it holds it, and as long
as a thread has something left to do some thread can take a step. -/
theorem threads_go_on {ι : Type} [DecidableEq ι] {a b : System Registry Call ι}
    (hFresh : ∀ i, (a.threads i).Fresh) (hRun : Run Call.code Unjournaled a b) :
    (∀ i, (b.threads i).waiting = true → (b.threads i).held = []) ∧
    ((∃ i, ¬(b.threads i).Finished) → ∃ i c, Step Call.code b i c) := by
  have hOrderly := run_orderly calls_disciplined hRun fun i => fresh_orderly (hFresh i)
  exact ⟨fun i hWaiting => waits_unheld (hOrderly i) hWaiting, can_step hOrderly⟩

/-! ### A writer that arrives inside -/

namespace Sample

/-- Its publisher is not registered, and the journal keeps the rejection. -/
def unregistered : PublicationRequest :=
  publication bootOne "attempt-1" 1 0 (claim .supported .processBound)

/-- Two threads on a registry. -/
def pair (shared : Registry) (reader writer : Thread Registry Call) :
    System Registry Call Bool :=
  { shared, threads := fun i => if i then reader else writer }

theorem pair_set_reader (shared : Registry) (reader writer thread : Thread Registry Call) :
    (pair shared reader writer).set true thread = pair shared thread writer := by
  unfold System.set pair
  congr 1
  funext i
  cases i <;> rfl

theorem pair_set_writer (shared : Registry) (reader writer thread : Thread Registry Call) :
    (pair shared reader writer).set false thread = pair shared reader thread := by
  unfold System.set pair
  congr 1
  funext i
  cases i <;> rfl

theorem pair_access_reader (shared later : Registry)
    (reader writer thread : Thread Registry Call) :
    (⟨later, Function.update (pair shared reader writer).threads true thread⟩ :
      System Registry Call Bool) = pair later thread writer :=
  congrArg (fun system : System Registry Call Bool => { system with shared := later })
    (pair_set_reader shared reader writer thread)

section Steps

variable {ok : Call → Registry → Prop} {shared : Registry} {reader writer : Thread Registry Call}

/-- The next step of the thread is no access of the registry. -/
def Quiet (thread : Thread Registry Call) : Prop :=
  ∀ write next, thread.code ≠ .access write next

/-- A step of the second thread, and steps of the first one. -/
theorem run_writer {thread : Thread Registry Call} (hQuiet : Quiet writer)
    (h : Step Call.code (pair shared reader writer) false
      ((pair shared reader writer).set false thread)) :
    Run Call.code ok (pair shared reader writer) (pair shared reader thread) := by
  rw [pair_set_writer] at h
  exact .single ⟨false, fun write next hAccess => absurd hAccess (hQuiet write next), h⟩

theorem run_reader {thread : Thread Registry Call} (hQuiet : Quiet reader)
    (h : Step Call.code (pair shared reader writer) true
      ((pair shared reader writer).set true thread)) :
    Run Call.code ok (pair shared reader writer) (pair shared thread writer) := by
  rw [pair_set_reader] at h
  exact .single ⟨true, fun write next hAccess => absurd hAccess (hQuiet write next), h⟩

theorem run_access {write : Registry → Registry} {next : Registry → Code Registry Unit}
    (h : reader.code = .access write next) (hAllowed : ∀ call ∈ reader.call, ok call shared) :
    Run Call.code ok (pair shared reader writer)
      (pair (write shared) { reader with code := next shared } writer) := by
  have hStep : Step Call.code (pair shared reader writer) true _ := .access h
  rw [show (pair shared reader writer).threads true = reader from rfl, pair_access_reader] at hStep
  exact .single ⟨true, fun _ _ _ => hAllowed, hStep⟩

end Steps

/-- A call of one section runs through when nobody else holds the lock or waits for it. -/
theorem run_locked {shared : Registry} {calls : List Call} {call : Call}
    {writer : Thread Registry Call} {mode : LockMode}
    {body : Registry → Registry × Unit} (hFree : writer.held = [])
    (hIdle : writer.waiting = false) (hCode : call.code = .locked mode body) {before : Option Call} :
    Run Call.code (fun _ _ => True)
      (pair shared { calls := call :: calls, call := before } writer)
      (pair (body shared).1 { calls, call := some call } writer) := by
  have hGrants : ∀ thread : Thread Registry Call, thread.held = [] → thread.waiting = true →
      thread.code = .locked mode body → Grants (pair shared thread writer) mode := by
    intro thread hHeld _ hLocked
    cases mode with
    | exclusive =>
        intro i
        cases i
        · exact hFree
        · exact hHeld
    | shared =>
        refine ⟨fun i => ?_, fun i => ?_⟩
        · cases i
          · rw [show (pair shared thread writer).threads false = writer from rfl, hFree]
            simp
          · rw [show (pair shared thread writer).threads true = thread from rfl, hHeld]
            simp
        · cases i
          · rintro ⟨hWaits, -⟩
            rw [show (pair shared thread writer).threads false = writer from rfl, hIdle] at hWaits
            cases hWaits
          · rintro ⟨-, next, hLock⟩
            rw [show (pair shared thread writer).threads true = thread from rfl, hLocked] at hLock
            cases hLock
  let inside : Code Registry Unit :=
    .access (fun s => (body s).1) fun s => .unlock (.done (body s).2)
  let begun : Thread Registry Call := { calls, call := some call, code := .locked mode body }
  let holding : Thread Registry Call :=
    { calls, call := some call, code := inside, held := [mode] }
  have hStart : Run Call.code (fun _ _ => True)
      (pair shared { calls := call :: calls, call := before } writer)
      (pair shared begun writer) := by
    have hBegun : begun = { calls, call := some call, code := call.code } := by rw [hCode]
    rw [hBegun]
    exact run_reader nofun (.start rfl rfl)
  have hRequest : Run Call.code (fun _ _ => True) (pair shared begun writer)
      (pair shared { begun with waiting := true } writer) := run_reader nofun (.request rfl rfl)
  have hGrant : Run Call.code (fun _ _ => True)
      (pair shared { begun with waiting := true } writer) (pair shared holding writer) :=
    run_reader nofun (.grant rfl rfl (hGrants _ rfl rfl rfl))
  have hAccess : Run Call.code (fun _ _ => True) (pair shared holding writer)
      (pair (body shared).1 { holding with code := .unlock (.done (body shared).2) } writer) :=
    @run_access _ shared holding writer (fun s => (body s).1)
      (fun s => .unlock (.done (body s).2)) rfl fun _ _ => trivial
  have hRelease : Run Call.code (fun _ _ => True)
      (pair (body shared).1 { holding with code := .unlock (.done (body shared).2) } writer)
      (pair (body shared).1 { calls, call := some call } writer) := run_reader nofun (.release rfl)
  exact (((hStart.trans hRequest).trans hGrant).trans hAccess).trans hRelease

/-- A thread that publishes and then asks for the explanation of its attempt. -/
def reader : Thread Registry Call :=
  { calls := [.write (.publish unregistered), .explainReplay unregistered.attempt] }

/-- A thread that asks for the explanation before it publishes. -/
def searcher : Thread Registry Call :=
  { calls := [.explainReplay unregistered.attempt, .write (.publish unregistered)] }

/-- A thread that declares a scope. -/
def writer : Thread Registry Call := { calls := [.write (.declareAuthority grant)] }

/-- It waits for the lock. -/
def queued : Thread Registry Call :=
  { calls := [], call := some (.write (.declareAuthority grant)),
    code := (Call.write (.declareAuthority grant)).code, waiting := true }

/-- A thread that has looked its attempt up, and holds the lock. -/
def inside (shared : Registry) (calls : List Call) : Thread Registry Call :=
  { calls, call := some (.explainReplay unregistered.attempt),
    code := (explainFound unregistered.attempt shared).map fun _ => (), held := [.shared] }

/-- The one thread gets inside `ExplainReplay`, and then the writer asks for the lock. -/
theorem run_inside {ok : Call → Registry → Prop} {shared : Registry} {calls : List Call}
    {before : Option Call} (hAllowed : ok (.explainReplay unregistered.attempt) shared) :
    Run Call.code ok
      (pair shared { calls := .explainReplay unregistered.attempt :: calls, call := before }
        writer)
      (pair shared (inside shared calls) queued) := by
  let explaining : Call := .explainReplay unregistered.attempt
  let found : Registry → Code Registry Unit := fun registry =>
    (explainFound unregistered.attempt registry).map fun _ => ()
  let begun : Thread Registry Call := { calls, call := some explaining, code := explaining.code }
  let holding : Thread Registry Call :=
    { calls, call := some explaining, code := .access id found, held := [.shared] }
  have hBegun : Run Call.code ok
      (pair shared { calls := explaining :: calls, call := before } writer)
      (pair shared begun writer) := run_reader nofun (.start rfl rfl)
  have hAsked : Run Call.code ok (pair shared begun writer)
      (pair shared { begun with waiting := true } writer) := run_reader nofun (.request rfl rfl)
  have hHolding : Run Call.code ok (pair shared { begun with waiting := true } writer)
      (pair shared holding writer) := by
    refine run_reader nofun (.grant rfl rfl ⟨fun i => ?_, fun i => ?_⟩)
    · cases i <;> exact List.not_mem_nil
    · cases i with
      | false => rintro ⟨hWaits, -⟩; cases hWaits
      | true => rintro ⟨-, next, hLock⟩; cases hLock
  have hInside : Run Call.code ok (pair shared holding writer)
      (pair shared (inside shared calls) writer) := by
    refine @run_access _ shared holding writer id found rfl fun call hCall => ?_
    cases hCall
    exact hAllowed
  have hDeclared : Run Call.code ok (pair shared (inside shared calls) writer)
      (pair shared (inside shared calls) { queued with waiting := false }) :=
    run_writer nofun (.start rfl rfl)
  have hQueued : Run Call.code ok
      (pair shared (inside shared calls) { queued with waiting := false })
      (pair shared (inside shared calls) queued) := run_writer nofun (.request rfl rfl)
  exact ((((hBegun.trans hAsked).trans hHolding).trans hInside).trans hDeclared).trans hQueued

end Sample

open Sample

/-- A thread looks up an attempt that is not in the journal; another one asks for the lock
while the first one has it. -/
theorem two_threads_go_on :
    ∃ b : System Registry Call Bool,
      Run Call.code Unjournaled (pair (Registry.init {}) searcher writer) b ∧
      (b.threads true).held = [.shared] ∧ (b.threads false).waiting = true ∧
      (∀ i, (b.threads i).waiting = true → (b.threads i).held = []) ∧
      ∃ i c, Step Call.code b i c := by
  have hAbsent : Unjournaled (.explainReplay unregistered.attempt) (Registry.init {}) := rfl
  have hRun : Run Call.code Unjournaled (pair (Registry.init {}) searcher writer)
      (pair (Registry.init {}) (inside (Registry.init {}) [.write (.publish unregistered)])
        queued) := run_inside hAbsent
  obtain ⟨hUnheld, hStep⟩ :=
    threads_go_on (fun i => by cases i <;> exact ⟨rfl, rfl, rfl, rfl⟩) hRun
  refine ⟨_, hRun, rfl, rfl, hUnheld, hStep ⟨true, ?_⟩⟩
  rintro ⟨hCalls, -⟩
  cases hCalls

/-- One thread publishes and asks for the explanation of its attempt; another one declares a
scope in between. -/
theorem replayed_explanation_deadlocks :
    ∃ a b : System Registry Call Bool, (∀ i, (a.threads i).Fresh) ∧
      Run Call.code (fun _ _ => True) a b ∧
      ((b.threads true).waiting = true ∧ (b.threads true).held ≠ []) ∧
      (∀ i, ¬(b.threads i).Finished) ∧ ∀ i c, ¬Step Call.code b i c := by
  have hFound : (lookup Prod.fst unregistered.attempt
      (publish (Registry.init {}) unregistered).1.journal.attempts).isSome = true := by
    decide +kernel
  let publishing : Call := .write (.publish unregistered)
  let later : Registry := (publish (Registry.init {}) unregistered).1
  have hPublished : Run Call.code (fun _ _ => True) (pair (Registry.init {}) reader writer)
      (pair later { calls := [.explainReplay unregistered.attempt], call := some publishing }
        writer) :=
    @run_locked (Registry.init {}) [.explainReplay unregistered.attempt] publishing writer
      .exclusive (fun registry => ((publish registry unregistered).1, ())) rfl rfl rfl none
  have hInside : Run Call.code (fun _ _ => True)
      (pair later { calls := [.explainReplay unregistered.attempt], call := some publishing }
        writer)
      (pair later (inside later []) queued) := run_inside trivial
  -- with its attempt in the journal the reader asks for the lock once more
  obtain ⟨rest, hRest⟩ := explainFound_locks hFound
  have hAgain : Run Call.code (fun _ _ => True) (pair later (inside later []) queued)
      (pair later { inside later [] with waiting := true } queued) :=
    run_reader (fun _ _ hAccess => by cases hRest.symm.trans hAccess) (.request hRest rfl)
  refine ⟨_, _, fun i => ?_, (hPublished.trans hInside).trans hAgain,
    ⟨rfl, by simp [pair, inside]⟩, ?_, ?_⟩
  · cases i <;> exact ⟨rfl, rfl, rfl, rfl⟩
  · intro i hFinished
    cases i with
    | false => cases hFinished.2.1
    | true => cases hFinished.2.2
  · intro i c hStep
    cases i with
    | false =>
        cases hStep with
        | start idle calls => cases calls
        | request wants arrives => cases arrives
        | grant wants waits grants =>
            cases wants
            cases grants true
        | release gives => cases gives
        | access accesses => cases accesses
    | true =>
        cases hStep with
        | start idle calls => cases calls
        | request wants arrives => cases arrives
        | grant wants waits grants =>
            obtain rfl := (Code.lock.inj (hRest.symm.trans wants)).1
            exact grants.2 false ⟨rfl, _, rfl⟩
        | release gives => cases hRest.symm.trans gives
        | access accesses => cases hRest.symm.trans accesses

end FabricCapability.Ports
