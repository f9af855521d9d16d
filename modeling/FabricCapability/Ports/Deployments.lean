import FabricCapability.Ports.Restart
import FabricCapability.Verified.Restores

/-!
# Deployments of registries

Registries that run side by side and load each other's files.  Every registry starts from
its constructor and makes calls; a load reads a file that another one, or itself, saved at
some time.

What a deployment went through is listed as transitions: the state before and after each
call, with a transition for every publication of a batch.

## Main results

* `restored_cases`: a load of a saved file loads what was saved, or changes nothing.
* `restored_entity`: an entity that was loaded, and the one that was saved.
-/

namespace FabricCapability.Ports

open FabricCapability.Verified.KeyedList
open FabricCapability.Verified.Restores
open FabricCapability.Verified.Runs
open FabricCapability.Verified.StrictOrder

/-! ## Transitions -/

structure Transition where
  before : Registry
  after : Registry

def Attempt.transition (attempt : Attempt) : Transition := ⟨attempt.before, attempt.after⟩

def Operation.isPublication : Operation → Bool
  | publish .. => true
  | publishBatch .. => true
  | _ => false

/-- The transitions of an operation: one for each publication, or one for the call. -/
def transitions (registry : Registry) (operation : Operation) : List Transition :=
  if operation.isPublication then (attempts registry operation).map Attempt.transition
  else [⟨registry, operation.apply registry⟩]

theorem transitions_publish (registry : Registry) (request : PublicationRequest) :
    transitions registry (.publish request) =
      [⟨registry, (Operation.publish request).apply registry⟩] :=
  rfl

theorem transitions_call {registry : Registry} {operation : Operation}
    (h : operation.isPublication = false) :
    transitions registry operation = [⟨registry, operation.apply registry⟩] := by
  rw [transitions, h]
  rfl

/-! ## Deployments -/

/-- The third registry is the first one after a load of a file that the second one saved. -/
def Restores (registry saved loaded : Registry) : Prop :=
  ∃ config file report, save saved = .ok (file, report) ∧
    loaded = (load registry config (some file)).1

/-- Registries with the given options, whose calls meet the guard. -/
def deployment (admits : Options → Prop) (guard : Registry → Operation → Prop) :
    Deployment Registry Operation Transition where
  starts registry := ∃ options, admits options ∧ registry = Registry.init options
  step := Operation.apply
  guard registry operation := NoLoad registry operation ∧ guard registry operation
  events := transitions
  restores := Restores

/-- A run of one registry, without a load. -/
theorem reached_of_operations {admits : Options → Prop} {guard : Registry → Operation → Prop}
    {options : Options} {operations : List Operation} (hAdmits : admits options)
    (hGuard : Guarded Operation.apply
      (fun registry operation => NoLoad registry operation ∧ guard registry operation)
      (Registry.init options) operations) :
    Reached (deployment admits guard)
      (trace Operation.apply transitions (Registry.init options) operations)
      (afterRun options operations) := by
  have hStart : Reached (deployment admits guard) [] (Registry.init options) :=
    .start ⟨options, hAdmits, rfl⟩
  exact reached_of_run hStart hGuard

/-- One more call. -/
theorem reached_call {admits : Options → Prop} {guard : Registry → Operation → Prop}
    {past : List Transition} {registry : Registry}
    (h : Reached (deployment admits guard) past registry) {operation : Operation}
    (hNoLoad : NoLoad registry operation) (hGuard : guard registry operation) :
    Reached (deployment admits guard) (past ++ transitions registry operation)
      (operation.apply registry) :=
  .step h ⟨hNoLoad, hGuard⟩

theorem restored_cases {registry saved loaded : Registry} (h : Restores registry saved loaded) :
    loaded = registry ∨
      ∃ payload, saved.payload.reread = some payload ∧ loaded = loadPayload registry payload := by
  obtain ⟨config, file, report, hSave, rfl⟩ := h
  cases hLoad : load registry config (some file) with
  | mk loaded outcome =>
      cases outcome with
      | ok report => exact .inr (load_eq_ok hSave hLoad)
      | error e =>
          left
          unfold load at hLoad
          split at hLoad
          · exact (Prod.ext_iff.1 hLoad).1.symm
          · cases (Prod.ext_iff.1 hLoad).2

/-- An entity that was loaded comes from one that was saved. -/
theorem restored_entity {saved target : Registry} {payload : StorePayload}
    (hReread : saved.payload.reread = some payload) {entity : EntityState}
    (hMem : entity ∈ (loadPayload target payload).entities) :
    ∃ held ∈ saved.entities, ∃ loading stored,
      entity = (loadEntity payload.registryGeneration loading stored).2 ∧
      held.stored.RereadAs stored := by
  obtain ⟨-, -, hEntities⟩ := StorePayload.reread_eq_some hReread
  obtain ⟨loading, stored, hStored, rfl⟩ := mem_mapAccum hMem
  obtain ⟨written, hWritten, hRead⟩ := mem_of_mapM hEntities (List.mem_filter.1 hStored).1
  obtain ⟨held, hHeld, rfl⟩ := List.mem_map.1 hWritten
  exact ⟨held, mem_sortBy.1 hHeld, loading, stored, rfl, StoredEntity.reread_eq_some hRead⟩

/-! ## One call -/

/-- The rule for a call that may speak of the transitions so far: what each publication
carries on, and what every other call does. -/
theorem call_history {P : List Transition → Registry → Prop} {past : List Transition}
    {registry : Registry} {operation : Operation}
    (hPublish : ∀ past, ∀ attempt ∈ attempts registry operation, P past attempt.before →
      P (past ++ [attempt.transition]) attempt.after)
    (hOther : operation.isPublication = false → P past registry →
      P (past ++ [⟨registry, operation.apply registry⟩]) (operation.apply registry))
    (h : P past registry) :
    P (past ++ transitions registry operation) (operation.apply registry) := by
  cases hKind : operation.isPublication with
  | false =>
      rw [transitions_call hKind]
      exact hOther hKind h
  | true =>
      rw [transitions, if_pos hKind]
      cases operation with
      | publish request =>
          exact hPublish past ⟨registry, request⟩ (List.mem_singleton_self _) h
      | publishBatch requests =>
          have hBatch := @publishBatch_history
            (fun publications later => P (past ++ publications.map Attempt.transition) later)
            [] registry requests (fun publications attempt hMem hBefore => by
              simpa using hPublish _ attempt hMem hBefore)
            (by simpa using h)
          simpa [Operation.apply] using hBatch
      | _ => cases hKind

end FabricCapability.Ports
