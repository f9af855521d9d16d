import Mathlib.Logic.Function.Basic
import Mathlib.Logic.Relation
import FabricCapability.Verified.LockedCode

/-!
# Threads under a shared mutex

Any number of threads make calls on one object whose lock is a shared mutex: several threads
may hold it shared, or one exclusively, and a thread that waits for exclusive access keeps
new shared holders out.  Taking the lock is two steps, so that a thread may wait.

A thread that waits while it holds the lock can wait for itself, through a writer that waits
in between.  `waits_unheld` excludes this for calls whose sections do not nest, and
`can_step` concludes that some thread can always go on.

## Main results

* `step_orderly`, `run_orderly`: disciplined calls keep the threads orderly.
* `waits_unheld`: no orderly thread waits while it holds the lock.
* `can_step`: orderly threads that have not all finished can go on.
-/

namespace FabricCapability.Verified.SharedMutex

open FabricCapability.Verified.LockedCode

variable {σ κ ι : Type}

/-- A thread: the calls that it has not begun, the one that it is in, what is left of that
one, and how it stands with the lock. -/
structure Thread (σ κ : Type) where
  calls : List κ
  call : Option κ := none
  code : Code σ Unit := .done ()
  held : List LockMode := []
  waiting : Bool := false

namespace Thread

/-- The thread has announced that it wants the lock in this mode. -/
def WaitsFor (thread : Thread σ κ) (mode : LockMode) : Prop :=
  thread.waiting = true ∧ ∃ next, thread.code = .lock mode next

/-- Nothing is left to do. -/
def Finished (thread : Thread σ κ) : Prop :=
  thread.calls = [] ∧ thread.code = .done () ∧ thread.held = []

/-- Nothing has been done. -/
def Fresh (thread : Thread σ κ) : Prop :=
  thread.call = none ∧ thread.code = .done () ∧ thread.held = [] ∧ thread.waiting = false

end Thread

structure System (σ κ ι : Type) where
  shared : σ
  threads : ι → Thread σ κ

/-- The lock can be taken in this mode: exclusively when nobody holds it, shared when nobody
holds it exclusively or waits to. -/
def Grants (system : System σ κ ι) : LockMode → Prop
  | .shared => (∀ i, .exclusive ∉ (system.threads i).held) ∧
      ∀ i, ¬(system.threads i).WaitsFor .exclusive
  | .exclusive => ∀ i, (system.threads i).held = []

section Steps

variable [DecidableEq ι]

/-- The system with one thread replaced. -/
def System.set (system : System σ κ ι) (i : ι) (thread : Thread σ κ) : System σ κ ι :=
  { system with threads := Function.update system.threads i thread }

/-- One step of thread `i`. -/
inductive Step (program : κ → Code σ Unit) (system : System σ κ ι) (i : ι) :
    System σ κ ι → Prop
  | start {call : κ} {rest : List κ} (idle : (system.threads i).code = .done ())
      (calls : (system.threads i).calls = call :: rest) :
      Step program system i (system.set i
        { system.threads i with calls := rest, call := some call, code := program call })
  | request {mode : LockMode} {next : Code σ Unit}
      (wants : (system.threads i).code = .lock mode next)
      (arrives : (system.threads i).waiting = false) :
      Step program system i (system.set i { system.threads i with waiting := true })
  | grant {mode : LockMode} {next : Code σ Unit}
      (wants : (system.threads i).code = .lock mode next)
      (waits : (system.threads i).waiting = true) (grants : Grants system mode) :
      Step program system i (system.set i
        { system.threads i with
          code := next, held := mode :: (system.threads i).held, waiting := false })
  | release {next : Code σ Unit} (gives : (system.threads i).code = .unlock next) :
      Step program system i (system.set i
        { system.threads i with code := next, held := (system.threads i).held.tail })
  | access {write : σ → σ} {next : σ → Code σ Unit}
      (accesses : (system.threads i).code = .access write next) :
      Step program system i
        { shared := write system.shared
          threads := Function.update system.threads i
            { system.threads i with code := next system.shared } }

/-- An access of thread `i` is made in a state in which its call may be. -/
def Allowed (ok : κ → σ → Prop) (system : System σ κ ι) (i : ι) : Prop :=
  ∀ write next, (system.threads i).code = .access write next →
    ∀ call ∈ (system.threads i).call, ok call system.shared

/-- The runs in which every access is allowed. -/
def Run (program : κ → Code σ Unit) (ok : κ → σ → Prop) :
    System σ κ ι → System σ κ ι → Prop :=
  Relation.ReflTransGen fun a b => ∃ i, Allowed ok a i ∧ Step program a i b

/-! ## Orderly threads -/

/-- The thread holds the lock at most once, what is left of its call is disciplined, and it
waits only where it takes the lock. -/
structure Orderly (ok : κ → σ → Prop) (thread : Thread σ κ) : Prop where
  disciplined : ∃ holds : Bool, thread.held.length = holds.toNat ∧
    Disciplined (fun s => ∀ call ∈ thread.call, ok call s) thread.code holds
  waits : thread.waiting = true → ∃ mode next, thread.code = .lock mode next

variable {program : κ → Code σ Unit} {ok : κ → σ → Prop} {a b : System σ κ ι} {i : ι}

theorem fresh_orderly {thread : Thread σ κ} (h : thread.Fresh) : Orderly ok thread := by
  obtain ⟨-, hCode, hHeld, hWaiting⟩ := h
  refine ⟨⟨false, by rw [hHeld]; rfl, by rw [hCode]; rfl⟩, fun hWaits => ?_⟩
  rw [hWaiting] at hWaits
  cases hWaits

theorem step_orderly (hProgram : ∀ call, Disciplined (ok call) (program call) false)
    (hAllowed : Allowed ok a i) (h : Step program a i b)
    (hOrderly : ∀ j, Orderly ok (a.threads j)) : ∀ j, Orderly ok (b.threads j) := by
  obtain ⟨⟨holds, hHeld, hCode⟩, hWaits⟩ := hOrderly i
  have hSet : ∀ thread : Thread σ κ, Orderly ok thread →
      ∀ j, Orderly ok (Function.update a.threads i thread j) := by
    intro thread hThread j
    by_cases hj : j = i
    · rw [hj, Function.update_self]
      exact hThread
    · rw [Function.update_of_ne hj]
      exact hOrderly j
  have hQuiet : ∀ code : Code σ Unit, (a.threads i).code = code →
      (∀ mode next, code ≠ .lock mode next) → (a.threads i).waiting = false := by
    intro code hIs hNot
    by_contra hWaiting
    obtain ⟨mode, next, hLock⟩ := hWaits (by simpa using hWaiting)
    exact hNot mode next (hIs.symm.trans hLock)
  cases h with
  | @start call rest idle calls =>
      have hWaiting := hQuiet _ idle (by simp)
      rw [idle] at hCode
      obtain rfl : holds = false := hCode
      refine hSet _ ⟨⟨false, hHeld, ?_⟩, fun hTrue => ?_⟩
      · simpa using hProgram call
      · rw [hWaiting] at hTrue
        cases hTrue
  | @request mode next wants arrives =>
      exact hSet _ ⟨⟨holds, hHeld, hCode⟩, fun _ => ⟨mode, next, wants⟩⟩
  | @grant mode next wants waits grants =>
      rw [wants] at hCode
      obtain ⟨rfl, hNext⟩ := hCode
      refine hSet _ ⟨⟨true, ?_, hNext⟩, fun hTrue => by cases hTrue⟩
      rw [List.length_cons, hHeld]
      rfl
  | @release next gives =>
      have hWaiting := hQuiet _ gives (by simp)
      rw [gives] at hCode
      obtain ⟨rfl, hNext⟩ := hCode
      refine hSet _ ⟨⟨false, ?_, hNext⟩, fun hTrue => ?_⟩
      · rw [List.length_tail, hHeld]
        rfl
      · rw [hWaiting] at hTrue
        cases hTrue
  | @access write next accesses =>
      have hWaiting := hQuiet _ accesses (by simp)
      rw [accesses] at hCode
      refine hSet _ ⟨⟨holds, hHeld, hCode a.shared (hAllowed write next accesses)⟩, fun hTrue => ?_⟩
      rw [hWaiting] at hTrue
      cases hTrue

theorem run_orderly (hProgram : ∀ call, Disciplined (ok call) (program call) false)
    (hRun : Run program ok a b) (hOrderly : ∀ j, Orderly ok (a.threads j)) :
    ∀ j, Orderly ok (b.threads j) := by
  induction hRun with
  | refl => exact hOrderly
  | tail _ hStep ih =>
      obtain ⟨i, hAllowed, hStep⟩ := hStep
      exact step_orderly hProgram hAllowed hStep ih

/-- An orderly thread does not wait while it holds the lock. -/
theorem waits_unheld {thread : Thread σ κ} (h : Orderly ok thread)
    (hWaiting : thread.waiting = true) : thread.held = [] := by
  obtain ⟨⟨holds, hHeld, hCode⟩, hWaits⟩ := h
  obtain ⟨mode, next, hLock⟩ := hWaits hWaiting
  rw [hLock] at hCode
  obtain ⟨rfl, -⟩ := hCode
  exact List.eq_nil_of_length_eq_zero hHeld

/-- A thread that does not wait and has not finished can go on. -/
theorem step_of_not_waiting (hWaiting : (a.threads i).waiting = false)
    (hHeld : (a.threads i).code = .done () → (a.threads i).held = [])
    (hFinished : ¬(a.threads i).Finished) : ∃ b, Step program a i b := by
  cases hCode : (a.threads i).code with
  | done answer =>
      cases hCalls : (a.threads i).calls with
      | nil => exact absurd ⟨hCalls, hCode, hHeld hCode⟩ hFinished
      | cons call rest => exact ⟨_, .start hCode hCalls⟩
  | lock mode next => exact ⟨_, .request hCode hWaiting⟩
  | unlock next => exact ⟨_, .release hCode⟩
  | access write next => exact ⟨_, .access hCode⟩

/-- Orderly threads that have not all finished can go on: one that holds the lock can, and
when nobody holds it, a waiting writer can take it, or a waiting reader when no writer
waits. -/
theorem can_step (hOrderly : ∀ j, Orderly ok (a.threads j))
    (hBusy : ∃ j, ¬(a.threads j).Finished) : ∃ i b, Step program a i b := by
  obtain ⟨busy, hBusy⟩ := hBusy
  have hDone : ∀ j, (a.threads j).code = .done () → (a.threads j).held = [] := by
    intro j hCode
    obtain ⟨⟨holds, hHeld, hLeft⟩, -⟩ := hOrderly j
    rw [hCode] at hLeft
    obtain rfl : holds = false := hLeft
    exact List.eq_nil_of_length_eq_zero hHeld
  by_cases hHolder : ∃ j, (a.threads j).held ≠ []
  · obtain ⟨j, hHeld⟩ := hHolder
    have hWaiting : (a.threads j).waiting = false := by
      by_contra hTrue
      exact hHeld (waits_unheld (hOrderly j) (by simpa using hTrue))
    exact ⟨j, step_of_not_waiting hWaiting (hDone j) fun hFinished => hHeld hFinished.2.2⟩
  · have hFree : ∀ j, (a.threads j).held = [] := fun j => not_not.1 fun h => hHolder ⟨j, h⟩
    by_cases hWriter : ∃ j, (a.threads j).WaitsFor .exclusive
    · obtain ⟨j, hWaits, next, hLock⟩ := hWriter
      exact ⟨j, _, .grant hLock hWaits hFree⟩
    · cases hWaiting : (a.threads busy).waiting with
      | false => exact ⟨busy, step_of_not_waiting hWaiting (hDone busy) hBusy⟩
      | true =>
          obtain ⟨mode, next, hLock⟩ := (hOrderly busy).waits hWaiting
          refine ⟨busy, _, .grant hLock hWaiting ?_⟩
          cases mode with
          | exclusive => exact hFree
          | shared =>
              refine ⟨fun j => ?_, fun j hWaits => hWriter ⟨j, hWaits⟩⟩
              rw [hFree j]
              simp

end Steps

end FabricCapability.Verified.SharedMutex
