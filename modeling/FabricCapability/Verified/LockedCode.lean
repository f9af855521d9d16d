import FabricCapability.Verified.Runs

/-!
# Calls made of locked sections

A call on a shared object takes its lock, reads and writes the object, gives the lock back,
and may do so several times before it answers.  `Code` is such a call: what it does next
may depend on what it has read.  Run `alone` it is a function of the state.  Among other
callers (`Execution`) the state may change whenever the call does not hold the lock.

## Main results

* `alone_bind`, `replay_bind`: calls one after another.
* `disciplined_bind`: sections that end before the next one starts.
* `execution_replay`: the answer follows from the states in which the accesses are made.
-/

namespace FabricCapability.Verified.LockedCode

variable {σ α β : Type}

inductive LockMode where
  | shared
  | exclusive
  deriving DecidableEq

/-- What is left of a call. -/
inductive Code (σ α : Type) where
  | done (answer : α)
  | lock (mode : LockMode) (next : Code σ α)
  | unlock (next : Code σ α)
  | access (write : σ → σ) (next : σ → Code σ α)

namespace Code

/-- One call, and then a second one that knows the answer of the first. -/
def bind : Code σ α → (α → Code σ β) → Code σ β
  | done answer, f => f answer
  | lock mode next, f => .lock mode (next.bind f)
  | unlock next, f => .unlock (next.bind f)
  | access write next, f => .access write fun s => (next s).bind f

def map (f : α → β) (code : Code σ α) : Code σ β := code.bind fun answer => done (f answer)

/-- One section that writes. -/
def locked (mode : LockMode) (body : σ → σ × α) : Code σ α :=
  .lock mode (.access (fun s => (body s).1) fun s => .unlock (.done (body s).2))

/-- One section that reads. -/
def reading (body : σ → α) : Code σ α :=
  .lock .shared (.access id fun s => .unlock (.done (body s)))

/-- The state and the answer when nothing else happens. -/
def alone : Code σ α → σ → σ × α
  | done answer, s => (s, answer)
  | lock _ next, s => next.alone s
  | unlock next, s => next.alone s
  | access write next, s => (next s).alone (write s)

end Code

open Code

@[simp] theorem alone_done {answer : α} {s : σ} :
    (done answer : Code σ α).alone s = (s, answer) := rfl

@[simp] theorem alone_locked {mode : LockMode} {body : σ → σ × α} {s : σ} :
    (locked mode body).alone s = body s := rfl

@[simp] theorem alone_reading {body : σ → α} {s : σ} :
    (reading body).alone s = (s, body s) := rfl

theorem alone_bind {code : Code σ α} {f : α → Code σ β} {s : σ} :
    (code.bind f).alone s = (f (code.alone s).2).alone (code.alone s).1 := by
  induction code generalizing s with
  | done answer => rfl
  | lock mode next ih => exact ih
  | unlock next ih => exact ih
  | access write next ih => exact ih s

/-! ## Replays -/

/-- The answer when the accesses are made in the states that are listed, one after the other,
and the states that are left. -/
def Code.replay : Code σ α → List σ → Option (α × List σ)
  | done answer, seen => some (answer, seen)
  | lock _ next, seen => next.replay seen
  | unlock next, seen => next.replay seen
  | access _ _, [] => none
  | access _ next, s :: seen => (next s).replay seen

theorem replay_bind {code : Code σ α} {f : α → Code σ β} {seen : List σ} :
    (code.bind f).replay seen =
      (code.replay seen).bind fun (answer, rest) => (f answer).replay rest := by
  induction code generalizing seen with
  | done answer => rfl
  | lock mode next ih => exact ih
  | unlock next ih => exact ih
  | access write next ih =>
      cases seen with
      | nil => rfl
      | cons s seen => exact ih s

@[simp] theorem replay_reading {body : σ → α} {s : σ} {seen : List σ} :
    (reading body).replay (s :: seen) = some (body s, seen) := rfl

/-- States that are not reached are left. -/
theorem replay_append {code : Code σ α} {seen rest : List σ} {answer : α}
    (h : code.replay seen = some (answer, rest)) (more : List σ) :
    code.replay (seen ++ more) = some (answer, rest ++ more) := by
  induction code generalizing seen with
  | done a =>
      cases h
      rfl
  | lock mode next ih => exact ih h
  | unlock next ih => exact ih h
  | access write next ih =>
      cases seen with
      | nil => cases h
      | cons s seen => exact ih s h

/-! ## Lock discipline -/

/-- Every section takes the lock when the call does not hold it and gives it back before it
ends, as long as the accesses are made in states that are `ok`. -/
def Disciplined (ok : σ → Prop) : Code σ α → Bool → Prop
  | .done _, holds => holds = false
  | .lock _ next, holds => holds = false ∧ Disciplined ok next true
  | .unlock next, holds => holds = true ∧ Disciplined ok next false
  | .access _ next, holds => ∀ s, ok s → Disciplined ok (next s) holds

section Disciplined

variable {ok : σ → Prop} {code : Code σ α} {holds : Bool}

theorem disciplined_locked {mode : LockMode} {body : σ → σ × α} :
    Disciplined ok (locked mode body) false :=
  ⟨rfl, fun _ _ => ⟨rfl, rfl⟩⟩

theorem disciplined_reading {body : σ → α} : Disciplined ok (reading body) false :=
  ⟨rfl, fun _ _ => ⟨rfl, rfl⟩⟩

theorem disciplined_bind {f : α → Code σ β} (h : Disciplined ok code holds)
    (hNext : ∀ answer, Disciplined ok (f answer) false) :
    Disciplined ok (code.bind f) holds := by
  induction code generalizing holds with
  | done answer =>
      obtain rfl : holds = false := h
      exact hNext answer
  | lock mode next ih => exact ⟨h.1, ih h.2⟩
  | unlock next ih => exact ⟨h.1, ih h.2⟩
  | access write next ih => exact fun s hOk => ih s (h s hOk)

theorem disciplined_map {f : α → β} (h : Disciplined ok code holds) :
    Disciplined ok (code.map f) holds :=
  disciplined_bind h fun _ => rfl

end Disciplined

/-! ## Among other callers -/

/-- The call runs from `s` to its answer while the others change the state by `others`
whenever it does not hold the lock.  The state goes through `states`; those in which the
call makes an access are `seen`. -/
inductive Execution (others : σ → σ → Prop) {α : Type} :
    Bool → σ → Code σ α → List σ → List σ → α → Prop
  | done {holds : Bool} {s : σ} {answer : α} :
      Execution others holds s (.done answer) [s] [] answer
  | lock {s : σ} {mode : LockMode} {next : Code σ α} {states seen : List σ} {answer : α}
      (rest : Execution others true s next states seen answer) :
      Execution others false s (.lock mode next) states seen answer
  | unlock {s : σ} {next : Code σ α} {states seen : List σ} {answer : α}
      (rest : Execution others false s next states seen answer) :
      Execution others true s (.unlock next) states seen answer
  | access {holds : Bool} {s : σ} {write : σ → σ} {next : σ → Code σ α}
      {states seen : List σ} {answer : α}
      (rest : Execution others holds (write s) (next s) states seen answer) :
      Execution others holds s (.access write next) (s :: states) (s :: seen) answer
  | other {s t : σ} {code : Code σ α} {states seen : List σ} {answer : α}
      (changes : others s t) (rest : Execution others false t code states seen answer) :
      Execution others false s code (s :: states) seen answer

section Execution

variable {others : σ → σ → Prop} {holds : Bool} {s : σ} {code : Code σ α}
  {states seen : List σ} {answer : α}

/-- No access of the call writes. -/
def ReadOnly : Code σ α → Prop
  | .done _ => True
  | .lock _ next => ReadOnly next
  | .unlock next => ReadOnly next
  | .access write next => (∀ s, write s = s) ∧ ∀ s, ReadOnly (next s)

theorem readOnly_reading {body : σ → α} : ReadOnly (reading body) :=
  ⟨fun _ => rfl, fun _ => trivial⟩

theorem readOnly_bind {f : α → Code σ β} (h : ReadOnly code)
    (hNext : ∀ answer, ReadOnly (f answer)) : ReadOnly (code.bind f) := by
  induction code with
  | done answer => exact hNext answer
  | lock mode next ih => exact ih h
  | unlock next ih => exact ih h
  | access write next ih => exact ⟨h.1, fun s => ih s (h.2 s)⟩

theorem readOnly_map {f : α → β} (h : ReadOnly code) : ReadOnly (code.map f) :=
  readOnly_bind h fun _ => trivial

/-- An execution is the replay of the states in which it makes its accesses. -/
theorem execution_replay (h : Execution others holds s code states seen answer) :
    code.replay seen = some (answer, []) := by
  induction h with
  | done => rfl
  | lock rest ih => exact ih
  | unlock rest ih => exact ih
  | access rest ih => exact ih
  | other changes rest ih => exact ih

/-- What the others keep holds of all the states that a call which reads goes through. -/
theorem execution_invariant {P : σ → Prop} (hOthers : ∀ a b, others a b → P a → P b)
    (h : Execution others holds s code states seen answer) (hReadOnly : ReadOnly code)
    (hStart : P s) : (∀ t ∈ states, P t) ∧ ∀ t ∈ seen, P t := by
  induction h with
  | done => exact ⟨by simpa using hStart, nofun⟩
  | lock rest ih => exact ih hReadOnly hStart
  | unlock rest ih => exact ih hReadOnly hStart
  | @access _ s _ _ _ _ _ rest ih =>
      obtain ⟨hStates, hSeen⟩ := ih (hReadOnly.2 s) ((hReadOnly.1 s).symm ▸ hStart)
      exact ⟨List.forall_mem_cons.2 ⟨hStart, hStates⟩, List.forall_mem_cons.2 ⟨hStart, hSeen⟩⟩
  | other changes rest ih =>
      obtain ⟨hStates, hSeen⟩ := ih hReadOnly (hOthers _ _ changes hStart)
      exact ⟨List.forall_mem_cons.2 ⟨hStart, hStates⟩, hSeen⟩

/-- An answer that was already decided. -/
theorem execution_done {a : α} (h : Execution others holds s (.done a) states seen answer) :
    answer = a ∧ seen = [] := by
  generalize hCode : (Code.done a : Code σ α) = code at h
  induction h with
  | done => exact ⟨(Code.done.inj hCode).symm, rfl⟩
  | other changes rest ih => exact ih hCode
  | lock | unlock | access => cases hCode

/-- One section reads one state. -/
theorem execution_reading_bind {body : σ → α} {f : α → Code σ β} {answer : β}
    (h : Execution others false s ((reading body).bind f) states seen answer) :
    ∃ t later laterSeen, t ∈ states ∧ seen = t :: laterSeen ∧ (∀ u ∈ later, u ∈ states) ∧
      Execution others false t (f (body t)) later laterSeen answer := by
  generalize hCode : (reading body).bind f = code at h
  generalize hHolds : false = holds at h
  induction h with
  | done | unlock | access => cases hCode
  | other changes rest ih =>
      obtain ⟨t, later, laterSeen, hMem, hSeen, hLater, hRest⟩ := ih hCode rfl
      exact ⟨t, later, laterSeen, List.mem_cons_of_mem _ hMem, hSeen,
        fun u hu => List.mem_cons_of_mem _ (hLater u hu), hRest⟩
  | lock rest ih =>
      cases hCode
      cases rest with
      | access rest =>
          cases rest with
          | unlock rest =>
              exact ⟨_, _, _, List.mem_cons_self .., rfl,
                fun u hu => List.mem_cons_of_mem _ hu, rest⟩

/-- One section that nobody comes before. -/
theorem reading_execution {body : σ → α} {f : α → Code σ β} {answer : β}
    (h : Execution others false s (f (body s)) states seen answer) :
    Execution others false s ((reading body).bind f) (s :: states) (s :: seen) answer :=
  .lock (.access (.unlock h))

theorem execution_reading {body : σ → α}
    (h : Execution others false s (reading body) states seen answer) :
    ∃ t ∈ states, seen = [t] ∧ answer = body t := by
  have hBind : (reading body).bind Code.done = reading body := rfl
  rw [← hBind] at h
  obtain ⟨t, later, laterSeen, hMem, hSeen, -, hRest⟩ := execution_reading_bind h
  obtain ⟨hAnswer, hNone⟩ := execution_done hRest
  exact ⟨t, hMem, by rw [hSeen, hNone], hAnswer⟩

end Execution

end FabricCapability.Verified.LockedCode
