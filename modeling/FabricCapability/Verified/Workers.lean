import Mathlib.Logic.Function.Basic
import Mathlib.Logic.Relation

/-!
# Workers that share a state

Any number of workers, each of which repeats a round: it takes what comes from outside,
accesses the shared state, one atomic access at a time, and goes the way that the outside
decides where a call may fail.  What it does next may depend on what it has read.

Properties of all interleavings are proved worker by worker.  A `Contract` says what a run is
assumed to keep to, what a worker may do to the state, and what holds of the state all the
time.  A round is `Valid` when each of its accesses keeps to the contract, given facts that
the other workers do not disturb.

## Main results

* `valid_bind`, `valid_update`: rounds made of parts.
* `valid_of_within`: parts whose accesses are all of one harmless kind.
* `reaches_inv`: the invariant in every run, if every round is valid.
* `reaches_does`: every step of a run is what some worker may do.
* `play_reaches`: what a schedule plays is a run.
-/

namespace FabricCapability.Verified.Workers

variable {σ κ ℓ ι α β : Type}

/-- What is left of a round: `σ` is the shared state, `κ` what comes from outside. -/
inductive Task (σ κ α : Type) where
  | done (answer : α)
  | access (write : σ → σ) (next : σ → Task σ κ α)
  | receive (next : κ → Task σ κ α)
  | choose (next : Bool → Task σ κ α)

namespace Task

/-- One task, and then a second one that knows the answer of the first. -/
def bind : Task σ κ α → (α → Task σ κ β) → Task σ κ β
  | done answer, f => f answer
  | access write next, f => .access write fun s => (next s).bind f
  | receive next, f => .receive fun k => (next k).bind f
  | choose next, f => .choose fun b => (next b).bind f

instance : Monad (Task σ κ) where
  pure := done
  bind := bind

/-- One access that answers by what it found. -/
def update (f : σ → σ × α) : Task σ κ α := .access (fun s => (f s).1) fun s => .done (f s).2

def read (f : σ → α) : Task σ κ α := update fun s => (s, f s)

def modify (f : σ → σ) : Task σ κ Unit := update fun s => (f s, ())

/-- What comes from outside. -/
def input : Task σ κ κ := .receive .done

/-- What the outside decides. -/
def toss : Task σ κ Bool := .choose .done

end Task

/-! ## Runs -/

/-- The shared state and what is left of the round of each worker that is at work.  A round
answers how to go on, or nothing when the worker is to end. -/
structure System (σ κ ℓ ι : Type) where
  shared : σ
  tasks : ι → Option (Task σ κ (Option ℓ))

section Runs

variable [DecidableEq ι]

/-- The system after worker `i` has changed the state and gone on. -/
def System.set (system : System σ κ ℓ ι) (i : ι) (shared : σ)
    (task : Option (Task σ κ (Option ℓ))) : System σ κ ℓ ι :=
  { shared, tasks := Function.update system.tasks i task }

@[simp] theorem set_shared (system : System σ κ ℓ ι) (i : ι) (s : σ)
    (task : Option (Task σ κ (Option ℓ))) : (system.set i s task).shared = s := rfl

@[simp] theorem set_self (system : System σ κ ℓ ι) (i : ι) (s : σ)
    (task : Option (Task σ κ (Option ℓ))) : (system.set i s task).tasks i = task :=
  Function.update_self ..

theorem set_ne {i j : ι} (h : j ≠ i) (system : System σ κ ℓ ι) (s : σ)
    (task : Option (Task σ κ (Option ℓ))) :
    (system.set i s task).tasks j = system.tasks j :=
  Function.update_of_ne h ..

variable (round : ι → ℓ → Task σ κ (Option ℓ)) (starts : ι → ℓ → σ → σ → Prop)

/-- One step of worker `i`. -/
inductive Step (a : System σ κ ℓ ι) (i : ι) : System σ κ ℓ ι → Prop
  | start {l : ℓ} {s : σ} (idle : a.tasks i = none) (begins : starts i l a.shared s) :
      Step a i (a.set i s (some (round i l)))
  | access {write : σ → σ} {next : σ → Task σ κ (Option ℓ)}
      (task : a.tasks i = some (.access write next)) :
      Step a i (a.set i (write a.shared) (some (next a.shared)))
  | receive {next : κ → Task σ κ (Option ℓ)} (k : κ)
      (task : a.tasks i = some (.receive next)) :
      Step a i (a.set i a.shared (some (next k)))
  | choose {next : Bool → Task σ κ (Option ℓ)} (b : Bool)
      (task : a.tasks i = some (.choose next)) :
      Step a i (a.set i a.shared (some (next b)))
  | again {l : ℓ} (task : a.tasks i = some (.done (some l))) :
      Step a i (a.set i a.shared (some (round i l)))
  | finish (task : a.tasks i = some (.done none)) : Step a i (a.set i a.shared none)

/-- The runs whose steps change the shared state as `ok` allows. -/
inductive Reaches (ok : σ → σ → Prop) (a : System σ κ ℓ ι) : System σ κ ℓ ι → Prop
  | refl : Reaches ok a a
  | step {b c : System σ κ ℓ ι} {i : ι} (before : Reaches ok a b)
      (next : Step round starts b i c) (allowed : ok b.shared c.shared) : Reaches ok a c

end Runs

/-! ## Contracts -/

/-- What runs are assumed to keep to, what each worker may do, and what holds throughout. -/
structure Contract (σ ι : Type) where
  ok : σ → σ → Prop
  does : ι → σ → σ → Prop
  inv : σ → Prop
  still : ∀ i s, does i s s
  keeps : ∀ i s t, inv s → ok s t → does i s t → inv t

section Contract

variable (c : Contract σ ι) (i : ι)

/-- The other workers do not disturb the fact. -/
def Stable (P : σ → Prop) : Prop :=
  ∀ j, j ≠ i → ∀ s t, c.inv s → P s → c.ok s t → c.does j s t → P t

/-- Each access keeps to the contract, given the facts `P` of the state, and the answer meets
`post` where it is given. -/
def Valid (post : α → σ → Prop) : Task σ κ α → (σ → Prop) → Prop
  | .done answer, P => ∀ s, c.inv s → P s → post answer s
  | .access write next, P => ∀ s, c.inv s → P s → c.ok s (write s) →
      c.does i s (write s) ∧
        ∃ Q, Stable c i Q ∧ Q (write s) ∧ Valid post (next s) Q
  | .receive next, P => ∀ k, Valid post (next k) P
  | .choose next, P => ∀ b, Valid post (next b) P

variable {c i} {P Q : σ → Prop} {post : α → σ → Prop}

theorem stable_and (hP : Stable c i P) (hQ : Stable c i Q) :
    Stable c i fun s => P s ∧ Q s :=
  fun j hNe s t hInv h hOk hDoes =>
    ⟨hP j hNe s t hInv h.1 hOk hDoes, hQ j hNe s t hInv h.2 hOk hDoes⟩

theorem stable_const (p : Prop) : Stable c i fun _ => p := fun _ _ _ _ _ h _ _ => h

theorem valid_weaken {task : Task σ κ α} (h : Valid c i post task P)
    (hImp : ∀ s, c.inv s → Q s → P s) : Valid c i post task Q := by
  induction task generalizing P Q with
  | done answer => exact fun s hInv hQ => h s hInv (hImp s hInv hQ)
  | access write next ih => exact fun s hInv hQ => h s hInv (hImp s hInv hQ)
  | receive next ih => exact fun k => ih k (h k) hImp
  | choose next ih => exact fun b => ih b (h b) hImp

/-- Nothing is left to show where the facts cannot hold. -/
theorem valid_absurd {task : Task σ κ α} (h : ∀ s, c.inv s → ¬ P s) :
    Valid c i post task P := by
  induction task with
  | done answer => exact fun s hInv hP => absurd hP (h s hInv)
  | access write next ih => exact fun s hInv hP => absurd hP (h s hInv)
  | receive next ih => exact fun k => ih k
  | choose next ih => exact fun b => ih b

/-- What the facts say of no state may be used at once. -/
theorem valid_given {p : Prop} {task : Task σ κ α} (hImp : ∀ s, c.inv s → P s → p)
    (h : p → Valid c i post task P) : Valid c i post task P := by
  by_cases hp : p
  · exact h hp
  · exact valid_absurd fun s hInv hP => hp (hImp s hInv hP)

theorem valid_consequence {post' : α → σ → Prop} {task : Task σ κ α}
    (h : Valid c i post task P) (hImp : ∀ answer s, c.inv s → post answer s → post' answer s) :
    Valid c i post' task P := by
  induction task generalizing P with
  | done answer => exact fun s hInv hP => hImp answer s hInv (h s hInv hP)
  | access write next ih =>
      intro s hInv hP hOk
      obtain ⟨hDoes, R, hStable, hR, hNext⟩ := h s hInv hP hOk
      exact ⟨hDoes, R, hStable, hR, ih s hNext⟩
  | receive next ih => exact fun k => ih k (h k)
  | choose next ih => exact fun b => ih b (h b)

/-- Two tasks one after the other, with facts in between. -/
theorem valid_bind {M : α → σ → Prop} {post' : β → σ → Prop} {task : Task σ κ α}
    {f : α → Task σ κ β} (h : Valid c i M task P)
    (hNext : ∀ answer, Valid c i post' (f answer) (M answer)) :
    Valid c i post' (task.bind f) P := by
  induction task generalizing P with
  | done answer => exact valid_weaken (hNext answer) h
  | access write next ih =>
      intro s hInv hP hOk
      obtain ⟨hDoes, R, hStable, hR, hRest⟩ := h s hInv hP hOk
      exact ⟨hDoes, R, hStable, hR, ih s hRest⟩
  | receive next ih => exact fun k => ih k (h k)
  | choose next ih => exact fun b => ih b (h b)

/-- An access that answers. -/
theorem valid_update {f : σ → σ × α} (hStable : ∀ answer, Stable c i (post answer))
    (h : ∀ s, c.inv s → P s → c.ok s (f s).1 →
      c.does i s (f s).1 ∧ post (f s).2 (f s).1) :
    Valid c i post (Task.update f : Task σ κ α) P := by
  intro s hInv hP hOk
  obtain ⟨hDoes, hPost⟩ := h s hInv hP hOk
  exact ⟨hDoes, post (f s).2, hStable _, hPost, fun _ _ hHeld => hHeld⟩

theorem valid_read {f : σ → α} (hStable : ∀ answer, Stable c i (post answer))
    (h : ∀ s, c.inv s → P s → post (f s) s) :
    Valid c i post (Task.read f : Task σ κ α) P :=
  valid_update hStable fun s hInv hP _ => ⟨c.still i s, h s hInv hP⟩

theorem valid_modify {f : σ → σ} {post : Unit → σ → Prop}
    (hStable : Stable c i (post ()))
    (h : ∀ s, c.inv s → P s → c.ok s (f s) → c.does i s (f s) ∧ post () (f s)) :
    Valid c i post (Task.modify f : Task σ κ Unit) P :=
  valid_update (fun _ => hStable) h

/-- Every access of the task is a change of this kind. -/
def Within (W : σ → σ → Prop) : Task σ κ α → Prop
  | .done _ => True
  | .access write next => ∀ s, W s (write s) ∧ Within W (next s)
  | .receive next => ∀ k, Within W (next k)
  | .choose next => ∀ b, Within W (next b)

/-- Changes of a kind that the contract allows and that keep the facts. -/
theorem valid_of_within {W : σ → σ → Prop} {task : Task σ κ α} (h : Within W task)
    (hStable : Stable c i P)
    (hKeeps : ∀ s t, c.inv s → P s → c.ok s t → W s t → c.does i s t ∧ P t) :
    Valid c i (fun _ => P) task P := by
  induction task with
  | done answer => exact fun s _ hP => hP
  | access write next ih =>
      intro s hInv hP hOk
      obtain ⟨hDoes, hKept⟩ := hKeeps s _ hInv hP hOk (h s).1
      exact ⟨hDoes, P, hStable, hKept, ih s (h s).2⟩
  | receive next ih => exact fun k => ih k (h k)
  | choose next ih => exact fun b => ih b (h b)

theorem valid_input {f : κ → Task σ κ α} (h : ∀ k, Valid c i post (f k) P) :
    Valid c i post (Task.input.bind f) P := h

theorem valid_toss {f : Bool → Task σ κ α} (h : ∀ b, Valid c i post (f b) P) :
    Valid c i post (Task.toss.bind f) P := h

theorem valid_pure {answer : α} (h : ∀ s, c.inv s → P s → post answer s) :
    Valid c i post (pure answer : Task σ κ α) P := h

end Contract

section Within

variable {W : σ → σ → Prop}

theorem within_bind {task : Task σ κ α} {f : α → Task σ κ β} (h : Within W task)
    (hNext : ∀ answer, Within W (f answer)) : Within W (task.bind f) := by
  induction task with
  | done answer => exact hNext answer
  | access write next ih => exact fun s => ⟨(h s).1, ih s (h s).2⟩
  | receive next ih => exact fun k => ih k (h k)
  | choose next ih => exact fun b => ih b (h b)

theorem within_update {f : σ → σ × α} (h : ∀ s, W s (f s).1) :
    Within W (Task.update f : Task σ κ α) :=
  fun s => ⟨h s, trivial⟩

theorem within_toss {f : Bool → Task σ κ β} (h : ∀ b, Within W (f b)) :
    Within W (Task.toss.bind f) := h

theorem within_mono {V : σ → σ → Prop} (hImp : ∀ s t, W s t → V s t) {task : Task σ κ α}
    (h : Within W task) : Within V task := by
  induction task with
  | done answer => trivial
  | access write next ih => exact fun s => ⟨hImp _ _ (h s).1, ih s (h s).2⟩
  | receive next ih => exact fun k => ih k (h k)
  | choose next ih => exact fun b => ih b (h b)

end Within

/-! ## All interleavings -/

/-- Every worker at work is in the middle of a valid round. -/
def AtWork (c : Contract σ ι) (E : ι → ℓ → σ → Prop) (system : System σ κ ℓ ι) : Prop :=
  c.inv system.shared ∧ ∀ i task, system.tasks i = some task →
    ∃ P, Stable c i P ∧ P system.shared ∧
      Valid c i (fun next s => ∀ l, next = some l → E i l s) task P

/-- Nobody is at work yet. -/
theorem atWork_idle {c : Contract σ ι} {E : ι → ℓ → σ → Prop} {s : σ} (h : c.inv s) :
    AtWork c E (⟨s, fun _ => none⟩ : System σ κ ℓ ι) :=
  ⟨h, fun _ _ hTask => by cases hTask⟩

/-- A run under an assumption is one under a weaker one. -/
theorem reaches_mono [DecidableEq ι] {round : ι → ℓ → Task σ κ (Option ℓ)}
    {starts : ι → ℓ → σ → σ → Prop} {ok ok' : σ → σ → Prop}
    (hImp : ∀ s t, ok s t → ok' s t) {a b : System σ κ ℓ ι}
    (h : Reaches round starts ok a b) : Reaches round starts ok' a b := by
  induction h with
  | refl => exact .refl
  | step _ next allowed ih => exact .step ih next (hImp _ _ allowed)

section Sound

variable [DecidableEq ι] {round : ι → ℓ → Task σ κ (Option ℓ)}
  {starts : ι → ℓ → σ → σ → Prop} {c : Contract σ ι} {E : ι → ℓ → σ → Prop}

/-- The rounds are valid from the facts `E` on, which hold when a worker starts. -/
structure Proved (round : ι → ℓ → Task σ κ (Option ℓ)) (starts : ι → ℓ → σ → σ → Prop)
    (c : Contract σ ι) (E : ι → ℓ → σ → Prop) : Prop where
  stable : ∀ i l, Stable c i (E i l)
  valid : ∀ i l, Valid c i (fun next s => ∀ l', next = some l' → E i l' s) (round i l) (E i l)
  starts : ∀ i l s t, c.inv s → starts i l s t → c.ok s t → c.does i s t ∧ E i l t

/-- What a step of worker `i` does, and what it leaves its own facts and those of the others. -/
theorem atWork_set {a : System σ κ ℓ ι} (h : AtWork c E a) {i : ι} {s : σ}
    {task : Option (Task σ κ (Option ℓ))} (hOk : c.ok a.shared s)
    (hDoes : c.does i a.shared s)
    (hTask : ∀ left, task = some left → ∃ P, Stable c i P ∧ P s ∧
      Valid c i (fun next s => ∀ l, next = some l → E i l s) left P) :
    AtWork c E (a.set i s task) := by
  refine ⟨c.keeps i _ _ h.1 hOk hDoes, fun j left hLeft => ?_⟩
  by_cases hSame : j = i
  · subst hSame
    refine hTask left ?_
    rwa [set_self] at hLeft
  · have hOther : a.tasks j = some left := by
      rwa [set_ne hSame] at hLeft
    obtain ⟨P, hStable, hP, hValid⟩ := h.2 j left hOther
    exact ⟨P, hStable, hStable i (Ne.symm hSame) _ _ h.1 hP hOk hDoes, hValid⟩

theorem step_atWork (hProved : Proved round starts c E) {a b : System σ κ ℓ ι} {i : ι}
    (h : AtWork c E a) (hStep : Step round starts a i b) (hOk : c.ok a.shared b.shared) :
    AtWork c E b ∧ c.does i a.shared b.shared := by
  cases hStep with
  | start hIdle hStarts =>
      rename_i l s
      obtain ⟨hDoes, hEntry⟩ := hProved.starts i l _ _ h.1 hStarts hOk
      refine ⟨atWork_set h hOk hDoes fun left hLeft => ?_, hDoes⟩
      cases hLeft
      exact ⟨E i l, hProved.stable i l, hEntry, hProved.valid i l⟩
  | access hTask =>
      obtain ⟨P, -, hP, hValid⟩ := h.2 i _ hTask
      obtain ⟨hDoes, Q, hQ, hHere, hNext⟩ := hValid _ h.1 hP hOk
      refine ⟨atWork_set h hOk hDoes fun left hLeft => ?_, hDoes⟩
      cases hLeft
      exact ⟨Q, hQ, hHere, hNext⟩
  | receive k hTask =>
      obtain ⟨P, hStable, hP, hValid⟩ := h.2 i _ hTask
      refine ⟨atWork_set h hOk (c.still i _) fun left hLeft => ?_, c.still i _⟩
      cases hLeft
      exact ⟨P, hStable, hP, hValid k⟩
  | choose b hTask =>
      obtain ⟨P, hStable, hP, hValid⟩ := h.2 i _ hTask
      refine ⟨atWork_set h hOk (c.still i _) fun left hLeft => ?_, c.still i _⟩
      cases hLeft
      exact ⟨P, hStable, hP, hValid b⟩
  | again hTask =>
      rename_i l
      obtain ⟨P, -, hP, hValid⟩ := h.2 i _ hTask
      have hEntry : E i l a.shared := hValid a.shared h.1 hP l rfl
      refine ⟨atWork_set h hOk (c.still i _) fun left hLeft => ?_, c.still i _⟩
      cases hLeft
      exact ⟨E i l, hProved.stable i l, hEntry, hProved.valid i l⟩
  | finish hTask =>
      refine ⟨atWork_set h hOk (c.still i _) fun left hLeft => ?_, c.still i _⟩
      cases hLeft

theorem reaches_atWork (hProved : Proved round starts c E) {a b : System σ κ ℓ ι}
    (h : AtWork c E a) (hRun : Reaches round starts c.ok a b) : AtWork c E b := by
  induction hRun with
  | refl => exact h
  | step before next allowed ih => exact (step_atWork hProved ih next allowed).1

/-- In every run that keeps to the contract's assumption the invariant holds. -/
theorem reaches_inv (hProved : Proved round starts c E) {a b : System σ κ ℓ ι}
    (h : AtWork c E a) (hRun : Reaches round starts c.ok a b) : c.inv b.shared :=
  (reaches_atWork hProved h hRun).1

/-- Every step of such a run is what its worker may do. -/
theorem reaches_does (hProved : Proved round starts c E) {a b d : System σ κ ℓ ι} {i : ι}
    (h : AtWork c E a) (hRun : Reaches round starts c.ok a b)
    (hStep : Step round starts b i d) (hOk : c.ok b.shared d.shared) :
    c.does i b.shared d.shared :=
  (step_atWork hProved (reaches_atWork hProved h hRun) hStep hOk).2

/-- What the steps of a run do under a contract may be assumed of them. -/
theorem reaches_and (hProved : Proved round starts c E) {ok : σ → σ → Prop}
    (hImp : ∀ s t, ok s t → c.ok s t) {a b : System σ κ ℓ ι} (h : AtWork c E a)
    (hRun : Reaches round starts ok a b) :
    Reaches round starts (fun s t => ok s t ∧ ∃ i, c.does i s t) a b := by
  induction hRun with
  | refl => exact .refl
  | step before next allowed ih =>
      have hDoes := reaches_does hProved h (reaches_mono hImp before) next (hImp _ _ allowed)
      exact .step ih next ⟨allowed, _, hDoes⟩

end Sound

/-! ## Schedules -/

/-- What the scheduler and the outside decide, step by step. -/
inductive Move (κ ℓ ι : Type) where
  | start (i : ι) (l : ℓ)
  | turn (i : ι)
  | receive (i : ι) (k : κ)
  | choose (i : ι) (b : Bool)

def Move.worker : Move κ ℓ ι → ι
  | start i _ | turn i | receive i _ | choose i _ => i

section Play

variable [DecidableEq ι] (round : ι → ℓ → Task σ κ (Option ℓ)) (begins : ι → ℓ → σ → Option σ)

def System.move (a : System σ κ ℓ ι) : Move κ ℓ ι → Option (System σ κ ℓ ι)
  | .start i l =>
      match a.tasks i, begins i l a.shared with
      | none, some s => some (a.set i s (some (round i l)))
      | _, _ => none
  | .turn i =>
      match a.tasks i with
      | some (.access write next) => some (a.set i (write a.shared) (some (next a.shared)))
      | some (.done (some l)) => some (a.set i a.shared (some (round i l)))
      | some (.done none) => some (a.set i a.shared none)
      | _ => none
  | .receive i k =>
      match a.tasks i with
      | some (.receive next) => some (a.set i a.shared (some (next k)))
      | _ => none
  | .choose i b =>
      match a.tasks i with
      | some (.choose next) => some (a.set i a.shared (some (next b)))
      | _ => none

/-- The moves one after the other, as long as `allowed` lets the shared state change. -/
def System.play (allowed : σ → σ → Bool) (a : System σ κ ℓ ι) :
    List (Move κ ℓ ι) → Option (System σ κ ℓ ι)
  | [] => some a
  | move :: moves =>
      match a.move round begins move with
      | none => none
      | some b => if allowed a.shared b.shared then b.play allowed moves else none

variable {round begins} {starts : ι → ℓ → σ → σ → Prop}

theorem move_step (hBegins : ∀ i l s t, begins i l s = some t → starts i l s t)
    {a b : System σ κ ℓ ι} {move : Move κ ℓ ι} (h : a.move round begins move = some b) :
    Step round starts a move.worker b := by
  cases move with
  | start i l =>
      dsimp only [System.move] at h
      split at h
      · rename_i hIdle hStarts
        cases h
        exact .start hIdle (hBegins i l _ _ hStarts)
      · cases h
  | turn i =>
      dsimp only [System.move] at h
      split at h
      · rename_i hTask
        cases h
        exact .access hTask
      · rename_i hTask
        cases h
        exact .again hTask
      · rename_i hTask
        cases h
        exact .finish hTask
      · cases h
  | receive i k =>
      dsimp only [System.move] at h
      split at h
      · rename_i hTask
        cases h
        exact .receive k hTask
      · cases h
  | choose i b =>
      dsimp only [System.move] at h
      split at h
      · rename_i hTask
        cases h
        exact .choose b hTask
      · cases h

/-- What is played is a run. -/
theorem play_reaches (hBegins : ∀ i l s t, begins i l s = some t → starts i l s t)
    {allowed : σ → σ → Bool} {ok : σ → σ → Prop}
    (hAllowed : ∀ s t, allowed s t = true → ok s t) {a b : System σ κ ℓ ι}
    {moves : List (Move κ ℓ ι)} (h : a.play round begins allowed moves = some b) :
    Reaches round starts ok a b := by
  have hRun : ∀ {c : System σ κ ℓ ι}, Reaches round starts ok a c →
      ∀ moves, c.play round begins allowed moves = some b → Reaches round starts ok a b := by
    intro c hBefore moves
    induction moves generalizing c with
    | nil =>
        intro hPlayed
        cases hPlayed
        exact hBefore
    | cons move moves ih =>
        intro hPlayed
        unfold System.play at hPlayed
        split at hPlayed
        · cases hPlayed
        · rename_i d hMove
          split at hPlayed
          · rename_i hOk
            exact ih (hBefore.step (move_step hBegins hMove) (hAllowed _ _ hOk)) hPlayed
          · cases hPlayed
  exact hRun .refl moves h

/-- A schedule shows that a run ends in a state of some kind. -/
theorem exists_played (hBegins : ∀ i l s t, begins i l s = some t → starts i l s t)
    {allowed : σ → σ → Bool} {ok : σ → σ → Prop}
    (hAllowed : ∀ s t, allowed s t = true → ok s t) {a : System σ κ ℓ ι}
    {moves : List (Move κ ℓ ι)} {p : σ → Bool}
    (h : ((a.play round begins allowed moves).any fun b => p b.shared) = true) :
    ∃ b, Reaches round starts ok a b ∧ p b.shared = true := by
  obtain ⟨b, hPlayed, hHolds⟩ := (Option.any_eq_true _ _).1 h
  exact ⟨b, play_reaches hBegins hAllowed hPlayed, hHolds⟩

/-- A schedule shows that a run goes on with a step of some kind. -/
theorem exists_played_step (hBegins : ∀ i l s t, begins i l s = some t → starts i l s t)
    {allowed : σ → σ → Bool} {ok : σ → σ → Prop}
    (hAllowed : ∀ s t, allowed s t = true → ok s t) {a : System σ κ ℓ ι}
    {moves : List (Move κ ℓ ι)} {last : Move κ ℓ ι} {p : σ → σ → Bool}
    (h : ((a.play round begins allowed moves).any fun b =>
      (b.move round begins last).any fun d => p b.shared d.shared) = true) :
    ∃ b d, Reaches round starts ok a b ∧ Step round starts b last.worker d ∧
      p b.shared d.shared = true := by
  obtain ⟨b, hPlayed, hLast⟩ := (Option.any_eq_true _ _).1 h
  obtain ⟨d, hMove, hHolds⟩ := (Option.any_eq_true _ _).1 hLast
  exact ⟨b, d, play_reaches hBegins hAllowed hPlayed, move_step hBegins hMove, hHolds⟩

end Play

end FabricCapability.Verified.Workers
