import FabricCapability.Ports.Persistence
import FabricCapability.Verified.Runs

/-!
# Runs of the registry

The registry as a transition system.  An `Operation` is one call of a mutating method;
`Operation.apply` is the registry after the call.  A run is a list of operations from
the constructor.

`rehash` is no call: the order in which an `unordered_map` is iterated is unspecified
and may change at any insertion, so a run may permute the publishers whenever it likes.

A publication inside a batch is a publication: `attempts` lists all calls of `Publish`
that an operation makes, with the state before and after each.

## Main results

* `publish_preserves`: what the stages of `Publish` preserve, `Publish` preserves.
* `publishBatch_preserves`: what `Publish` preserves, `PublishBatch` preserves.
-/

namespace FabricCapability.Ports

open FabricCapability.Verified.Runs

/-! ## Operations -/

inductive Operation where
  | publish (request : PublicationRequest)
  | publishBatch (requests : List PublicationRequest)
  | fenceWorkerBoot (workerBoot : WorkerBootId) (reason : ReasonToken)
  | advanceCoordinatorEpoch (reason : ReasonToken)
  | invalidateEntity (entity : EntityId) (generation : EntityGeneration)
      (reason : ReasonToken)
  | invalidateSource (source : SourceId) (reason : ReasonToken)
  | observeEntityGeneration (entity : EntityId) (generation : EntityGeneration)
      (reason : ReasonToken)
  | registerPublisher (publisher : PublisherId) (scope : AuthorityScopeId)
      (workerBoot : WorkerBootId)
  | retirePublisher (publisher : PublisherId) (workerBoot : WorkerBootId)
  | declareAuthority (grant : AuthorityGrant)
  | registerVendorDescriptor (descriptor : CapabilityDescriptor)
  | load (config : PersistenceConfig) (file : Option Bytes)
  | rehash (publishers : List (PublisherKey × PublisherRuntime))

namespace Operation

/-- The registry after the operation. -/
def apply (registry : Registry) : Operation → Registry
  | publish request => (Ports.publish registry request).1
  | publishBatch requests => (Ports.publishBatch registry requests).1
  | fenceWorkerBoot workerBoot reason =>
      (Ports.fenceWorkerBoot registry workerBoot reason).1
  | advanceCoordinatorEpoch reason => (Ports.advanceCoordinatorEpoch registry reason).1
  | invalidateEntity entity generation reason =>
      (Ports.invalidateEntity registry entity generation reason).1
  | invalidateSource source reason => (Ports.invalidateSource registry source reason).1
  | observeEntityGeneration entity generation reason =>
      (Ports.observeEntityGeneration registry entity generation reason).1
  | registerPublisher publisher scope workerBoot =>
      (Ports.registerPublisher registry publisher scope workerBoot).1
  | retirePublisher publisher workerBoot =>
      (Ports.retirePublisher registry publisher workerBoot).1
  | declareAuthority grant => (Ports.declareAuthority registry grant).1
  | registerVendorDescriptor descriptor =>
      (Ports.registerVendorDescriptor registry descriptor).1
  | load config file => (Ports.load registry config file).1
  | rehash publishers =>
      if publishers.Perm registry.publishers then { registry with publishers } else registry

def isLoad : Operation → Bool
  | load .. => true
  | _ => false

end Operation

/-- The registry after a run of operations from the constructor. -/
def afterRun (options : Options) (operations : List Operation) : Registry :=
  run Operation.apply (Registry.init options) operations

/-- The step is not a load. -/
def NoLoad (_ : Registry) (operation : Operation) : Prop := operation.isLoad = false

instance (registry : Registry) (operation : Operation) :
    Decidable (NoLoad registry operation) :=
  inferInstanceAs (Decidable (operation.isLoad = false))

/-! ## The publications of a run -/

/-- One call of `Publish`. -/
structure Attempt where
  before : Registry
  request : PublicationRequest

namespace Attempt

def after (attempt : Attempt) : Registry := (publish attempt.before attempt.request).1

def result (attempt : Attempt) : Outcome PublicationResult :=
  (publish attempt.before attempt.request).2

/-- The call returned a result with status `Committed`. -/
def committed (attempt : Attempt) : Bool :=
  match attempt.result with
  | .ok result => result.status == .committed
  | .error _ => false

end Attempt

/-- The calls that `publishEach` makes: up to the first failure. -/
def attemptsEach (registry : Registry) : List PublicationRequest → List Attempt
  | [] => []
  | request :: requests =>
      ⟨registry, request⟩ ::
        match publish registry request with
        | (_, .error _) => []
        | (registry, .ok _) => attemptsEach registry requests

def attempts (registry : Registry) : Operation → List Attempt
  | .publish request => [⟨registry, request⟩]
  | .publishBatch requests =>
      if requests.length > kMaxPublicationsPerBatch then []
      else attemptsEach registry requests
  | _ => []

/-- All publications of a run. -/
def publications (options : Options) (operations : List Operation) : List Attempt :=
  trace Operation.apply attempts (Registry.init options) operations

/-! ## Rules for `Publish` -/

section Preserves

variable {P : Registry → Prop} {registry : Registry}

theorem reject_preserves {request : PublicationRequest} {e : Error}
    (hJournal : ∀ registry entry, P registry → P (registry.recordJournal entry))
    (h : P registry) : P (reject registry request e).1 := by
  unfold reject
  dsimp only
  split
  · exact hJournal _ _ h
  · exact h

/-- `Publish` is its stages: a property that the journal does not touch is preserved
when stage 6, stage 10 and stage 11 preserve it. -/
theorem publish_preserves {request : PublicationRequest}
    (hJournal : ∀ registry entry, P registry → P (registry.recordJournal entry))
    (hBind : ∀ runtime grant, validateRequest registry request = .ok (runtime, grant) →
      P (bindEntity registry request).1)
    (hApply : ∀ runtime grant bound entity,
      validateRequest registry request = .ok (runtime, grant) →
      bindEntity registry request = (bound, .ok entity) →
      checkPreconditions entity request = .ok () → P bound →
      P (applyRequest bound request entity (applySteps bound.schema grant request)).1)
    (hCommit : ∀ runtime grant bound entity applied published,
      validateRequest registry request = .ok (runtime, grant) →
      bindEntity registry request = (bound, .ok entity) →
      checkPreconditions entity request = .ok () →
      applyRequest bound request entity (applySteps bound.schema grant request) =
        (applied, .ok published) → P applied →
      P (commit applied request entity.set published (applySteps bound.schema grant request)
        (requestContentDigest request grant).toText).1)
    (h : P registry) : P (publish registry request).1 := by
  unfold publish
  split
  · exact reject_preserves hJournal h
  · rename_i runtime grant hValid
    have hBound := hBind runtime grant hValid
    split
    · rename_i bound e hEq
      rw [hEq] at hBound
      exact reject_preserves hJournal hBound
    · rename_i bound e hEq
      rw [hEq] at hBound
      exact hBound
    · rename_i bound entity hEq
      rw [hEq] at hBound
      unfold publishBound
      dsimp only
      split
      · exact reject_preserves hJournal hBound
      · exact hJournal _ _ hBound
      · split
        · exact reject_preserves hJournal hBound
        · rename_i hChecked
          have hApplied := hApply runtime grant bound entity hValid hEq hChecked hBound
          split
          · rename_i applied e hApplyEq
            rw [hApplyEq] at hApplied
            exact reject_preserves hJournal hApplied
          · rename_i applied published hApplyEq
            rw [hApplyEq] at hApplied
            exact hCommit runtime grant bound entity applied published hValid hEq hChecked
              hApplyEq hApplied

theorem publishEach_preserves {requests : List PublicationRequest}
    (hPublish : ∀ attempt ∈ attemptsEach registry requests,
      P attempt.before → P attempt.after)
    (h : P registry) : P (publishEach registry requests).1 := by
  induction requests generalizing registry with
  | nil => exact h
  | cons request requests ih =>
      have hFirst := hPublish ⟨registry, request⟩ (List.mem_cons_self ..) h
      rw [Attempt.after] at hFirst
      unfold publishEach
      unfold attemptsEach at hPublish
      split
      · rename_i next e hEq
        rw [hEq] at hFirst
        exact hFirst
      · rename_i next result hEq
        rw [hEq] at hFirst hPublish
        exact ih (fun attempt hMem => hPublish attempt (List.mem_cons_of_mem _ hMem)) hFirst

theorem publishBatch_preserves {requests : List PublicationRequest}
    (hPublish : ∀ attempt ∈ attempts registry (.publishBatch requests),
      P attempt.before → P attempt.after)
    (h : P registry) : P (publishBatch registry requests).1 := by
  unfold publishBatch
  rw [attempts] at hPublish
  split
  · exact h
  · rename_i hSize
    rw [if_neg hSize] at hPublish
    exact publishEach_preserves hPublish h

theorem attemptsEach_invariant {requests : List PublicationRequest}
    (hPublish : ∀ registry request, P registry → P (publish registry request).1)
    (h : P registry) : ∀ attempt ∈ attemptsEach registry requests, P attempt.before := by
  induction requests generalizing registry with
  | nil => simp [attemptsEach]
  | cons request requests ih =>
      intro attempt hMem
      have hNext := hPublish registry request h
      unfold attemptsEach at hMem
      rcases List.mem_cons.1 hMem with rfl | hMem
      · exact h
      · split at hMem
        · cases hMem
        · rename_i next result hEq
          rw [hEq] at hNext
          exact ih hNext attempt hMem

/-- What `Publish` preserves holds when each publication of an operation starts. -/
theorem attempts_invariant {operation : Operation}
    (hPublish : ∀ registry request, P registry → P (publish registry request).1)
    (h : P registry) : ∀ attempt ∈ attempts registry operation, P attempt.before := by
  unfold attempts
  split
  · intro attempt hMem
    rw [List.mem_singleton.1 hMem]
    exact h
  · split
    · simp
    · exact attemptsEach_invariant hPublish h
  · simp

end Preserves

/-! ## Publications so far -/

section History

variable {P : List Attempt → Registry → Prop} {past : List Attempt} {registry : Registry}
  {requests : List PublicationRequest}

theorem batch_stops {request : PublicationRequest} {next : Registry} {e : Error}
    (h : publish registry request = (next, .error e)) :
    publishEach registry (request :: requests) = (next, .error e) ∧
      attemptsEach registry (request :: requests) = [⟨registry, request⟩] := by
  constructor
  · rw [publishEach, h]
  · rw [attemptsEach, h]

theorem batch_continues {request : PublicationRequest} {next : Registry}
    {result : PublicationResult} (h : publish registry request = (next, .ok result)) :
    (publishEach registry (request :: requests)).1 = (publishEach next requests).1 ∧
      attemptsEach registry (request :: requests) =
        ⟨registry, request⟩ :: attemptsEach next requests := by
  constructor
  · rw [publishEach, h]
  · rw [attemptsEach, h]

theorem attemptsEach_history
    (hPublish : ∀ past, ∀ attempt ∈ attemptsEach registry requests, P past attempt.before →
      P (past ++ [attempt]) attempt.after)
    (h : P past registry) :
    P (past ++ attemptsEach registry requests) (publishEach registry requests).1 := by
  induction requests generalizing registry past with
  | nil =>
      rw [attemptsEach, List.append_nil]
      exact h
  | cons request requests ih =>
      have hFirst := hPublish past ⟨registry, request⟩ (List.mem_cons_self ..) h
      rw [Attempt.after] at hFirst
      cases hEq : publish registry request with
      | mk next outcome =>
          rw [hEq] at hFirst
          cases outcome with
          | error e =>
              obtain ⟨hEach, hAttempts⟩ := @batch_stops _ requests _ _ _ hEq
              rw [hEach, hAttempts]
              exact hFirst
          | ok result =>
              obtain ⟨hEach, hAttempts⟩ := @batch_continues _ requests _ _ _ hEq
              rw [hAttempts] at hPublish
              have hRest := ih (fun past attempt hMem =>
                hPublish past attempt (List.mem_cons_of_mem _ hMem)) hFirst
              rw [List.append_assoc] at hRest
              rw [hEach, hAttempts]
              exact hRest

/-- What each publication preserves, with the publications before it, a batch preserves. -/
theorem publishBatch_history
    (hPublish : ∀ past, ∀ attempt ∈ attempts registry (.publishBatch requests),
      P past attempt.before → P (past ++ [attempt]) attempt.after)
    (h : P past registry) :
    P (past ++ attempts registry (.publishBatch requests))
      (publishBatch registry requests).1 := by
  unfold publishBatch
  rw [attempts] at hPublish ⊢
  split
  · rw [List.append_nil]
    exact h
  · rename_i hSize
    rw [if_neg hSize] at hPublish
    exact attemptsEach_history hPublish h

end History

/-! ## Publications in order -/

section Chained

variable {R : Registry → Registry → Prop}

theorem attemptsEach_chained (hRefl : ∀ registry, R registry registry)
    (hTrans : ∀ a b c, R a b → R b c → R a c) {registry : Registry}
    {requests : List PublicationRequest}
    (hPublish : ∀ attempt ∈ attemptsEach registry requests, R attempt.before attempt.after) :
    R registry (publishEach registry requests).1 ∧
      Chained R Attempt.before Attempt.after registry (publishEach registry requests).1
        (attemptsEach registry requests) := by
  induction requests generalizing registry with
  | nil => exact ⟨hRefl _, chained_nil⟩
  | cons request requests ih =>
      have hFirst := hPublish ⟨registry, request⟩ (List.mem_cons_self ..)
      have hEvent := hFirst
      rw [Attempt.after] at hFirst
      cases hEq : publish registry request with
      | mk next outcome =>
          rw [hEq] at hFirst
          have hAfter : Attempt.after ⟨registry, request⟩ = next := by rw [Attempt.after, hEq]
          cases outcome with
          | error e =>
              obtain ⟨hEach, hAttempts⟩ := @batch_stops _ requests _ _ _ hEq
              rw [hEach, hAttempts]
              exact ⟨hFirst, chained_cons (e := Attempt.mk registry request) hRefl hTrans hEvent
                (by rw [hAfter]; exact hRefl _) chained_nil⟩
          | ok result =>
              obtain ⟨hEach, hAttempts⟩ := @batch_continues _ requests _ _ _ hEq
              rw [hAttempts] at hPublish
              obtain ⟨hRest, hChain⟩ := @ih next fun attempt hMem =>
                hPublish attempt (List.mem_cons_of_mem _ hMem)
              rw [hEach, hAttempts]
              exact ⟨hTrans _ _ _ hFirst hRest,
                chained_cons (e := Attempt.mk registry request) hRefl hTrans hEvent
                  (hAfter ▸ hRest) (hAfter ▸ hChain)⟩

/-- The publications of one operation follow each other between its two ends. -/
theorem attempts_chained (hRefl : ∀ registry, R registry registry)
    (hTrans : ∀ a b c, R a b → R b c → R a c) (registry : Registry) (operation : Operation)
    (hPublish : ∀ attempt ∈ attempts registry operation, R attempt.before attempt.after) :
    Chained R Attempt.before Attempt.after registry (operation.apply registry)
      (attempts registry operation) := by
  revert hPublish
  unfold attempts
  split
  · rename_i request
    intro hPublish
    exact chained_cons (e := Attempt.mk registry request) hRefl hTrans
      (hPublish _ (List.mem_singleton_self _)) (hRefl _) chained_nil
  · rename_i requests
    split
    · exact fun _ => chained_nil
    · rename_i hSize
      intro hPublish
      rw [Operation.apply, publishBatch, if_neg hSize]
      exact (attemptsEach_chained hRefl hTrans hPublish).2
  · exact fun _ => chained_nil

end Chained

/-! ## A small deployment

The calls that the examples of the following modules are made of: one scope over the
queue capabilities of switches, one publisher, two worker boots. -/

namespace Sample

def token (tag : TokenTag) (text : String) : TokenId tag := .parseOrUnset (txt text)

def scope : AuthorityScopeId := token _ "scope-a"
def publisher : PublisherId := token _ "publisher-a"
def source : SourceId := token _ "source-a"
def bootOne : WorkerBootId := token _ "0000000000000001"
def bootTwo : WorkerBootId := token _ "0000000000000002"
def entity : EntityId := (EntityId.parse (txt "switch:leaf-1")).toOption.getD .unset

def queueNamespace : CapabilityNamespaceId :=
  (CapabilityNamespaceId.parse (txt "fabric.queue")).toOption.getD .unset

/-- A boolean capability of the canonical schema. -/
def capability : CapabilityId :=
  (CapabilityId.parse (txt "fabric.queue.isolation_supported")).toOption.getD .unset

/-- Every mode, durable declarations included. -/
def grant : AuthorityGrant where
  scope := scope
  entityKinds := [.switch]
  namespaces := [queueNamespace]
  modes := 7
  mayPublishDurable := true

def claim (state : CapabilityState) (durability : DurabilityClass) : CapabilityClaim where
  capability := capability
  state := state
  provenance := .authoritativeAdministrativeDeclaration
  sourceClass := .administrativeDeclaration
  durability := durability

/-- A partial observation of one claim in the first epoch. -/
def publication (boot : WorkerBootId) (attempt : String) (generation : EntityGeneration)
    (expected : CapabilitySetGeneration) (claim : CapabilityClaim) : PublicationRequest where
  attempt := token _ attempt
  publication := token _ attempt
  epoch := 1
  authority := { scope, publisher, workerBoot := boot, source, sourceGeneration := 1 }
  entity := entity
  entityGeneration := generation
  expectedSetGeneration := expected
  claims := [claim]

/-- The scope is declared and the publisher registered under the first boot. -/
def setup : List Operation :=
  [.declareAuthority grant, .registerPublisher publisher scope bootOne]

end Sample

end FabricCapability.Ports
