import Mathlib.Data.List.Basic

/-!
# Runs of a transition function

A system is a total step function on states and operations; a run is a list of
operations.  A guard restricts the steps of a run.  Two rules carry properties of one
step over to whole runs: an invariant holds at the end of a run, and a preorder that
every step respects relates any two moments of it.

A step may also emit events.  The trace of a run lists them in order, each event with
the state before and after it, so that the second rule relates any two events.

## Main results

* `run_invariant`: an invariant of the guarded steps is an invariant of guarded runs.
* `run_rel`: a reflexive and transitive relation that holds over each step holds over
  each run.
* `trace_forall`, `trace_chained`: the same two rules for events.
* `trace_invariant`: an invariant of the state and the events so far.
-/

namespace FabricCapability.Verified.Runs

variable {σ ω ε : Type} {step : σ → ω → σ} {guard : σ → ω → Prop} {s : σ} {ops : List ω}

/-- The state at the end of a run. -/
def run (step : σ → ω → σ) (s : σ) (ops : List ω) : σ := ops.foldl step s

@[simp] theorem run_nil : run step s [] = s := rfl

@[simp] theorem run_cons {op : ω} : run step s (op :: ops) = run step (step s op) ops := rfl

theorem run_append {later : List ω} :
    run step s (ops ++ later) = run step (run step s ops) later :=
  List.foldl_append ..

/-- Every step of the run meets the guard at the state in which it is taken. -/
def Guarded (step : σ → ω → σ) (guard : σ → ω → Prop) : σ → List ω → Prop
  | _, [] => True
  | s, op :: ops => guard s op ∧ Guarded step guard (step s op) ops

instance decidableGuarded [∀ s op, Decidable (guard s op)] :
    (s : σ) → (ops : List ω) → Decidable (Guarded step guard s ops)
  | _, [] => .isTrue trivial
  | s, op :: ops =>
      have := decidableGuarded (step s op) ops
      inferInstanceAs (Decidable (guard s op ∧ Guarded step guard (step s op) ops))

theorem guarded_append {later : List ω} :
    Guarded step guard s (ops ++ later) ↔
      Guarded step guard s ops ∧ Guarded step guard (run step s ops) later := by
  induction ops generalizing s with
  | nil => simp [Guarded]
  | cons op ops ih => simp [Guarded, ih, and_assoc]

theorem guarded_of_forall (h : ∀ s op, guard s op) : Guarded step guard s ops := by
  induction ops generalizing s with
  | nil => trivial
  | cons op ops ih => exact ⟨h s op, ih⟩

/-! ## Invariants and relations -/

/-- The guard of a run may assume what the guarded steps preserve. -/
theorem guarded_invariant {P : σ → Prop} (hStep : ∀ s op, guard s op → P s → P (step s op))
    (hGuard : Guarded step guard s ops) (hInit : P s) :
    Guarded step (fun s op => guard s op ∧ P s) s ops := by
  induction ops generalizing s with
  | nil => trivial
  | cons op ops ih => exact ⟨⟨hGuard.1, hInit⟩, ih hGuard.2 (hStep s op hGuard.1 hInit)⟩

theorem run_invariant {P : σ → Prop} (hStep : ∀ s op, guard s op → P s → P (step s op))
    (hGuard : Guarded step guard s ops) (hInit : P s) : P (run step s ops) := by
  induction ops generalizing s with
  | nil => exact hInit
  | cons op ops ih => exact ih hGuard.2 (hStep s op hGuard.1 hInit)

theorem run_rel {R : σ → σ → Prop} (hRefl : ∀ s, R s s)
    (hTrans : ∀ a b c, R a b → R b c → R a c)
    (hStep : ∀ s op, guard s op → R s (step s op)) (hGuard : Guarded step guard s ops) :
    R s (run step s ops) :=
  run_invariant (P := R s) (fun t op hOp hRel => hTrans _ _ _ hRel (hStep t op hOp)) hGuard
    (hRefl s)

/-! ## Events -/

/-- The events of a run, in order. -/
def trace (step : σ → ω → σ) (events : σ → ω → List ε) : σ → List ω → List ε
  | _, [] => []
  | s, op :: ops => events s op ++ trace step events (step s op) ops

variable {events : σ → ω → List ε}

theorem trace_append {later : List ω} :
    trace step events s (ops ++ later) =
      trace step events s ops ++ trace step events (run step s ops) later := by
  induction ops generalizing s with
  | nil => rfl
  | cons op ops ih => rw [List.cons_append, trace, ih, trace, run_cons, List.append_assoc]

/-- What holds of the events of each step from an invariant state holds of all events. -/
theorem trace_forall {P : σ → Prop} {Q : ε → Prop}
    (hStep : ∀ s op, guard s op → P s → P (step s op))
    (hEvent : ∀ s op, guard s op → P s → ∀ e ∈ events s op, Q e)
    (hGuard : Guarded step guard s ops) (hInit : P s) : ∀ e ∈ trace step events s ops, Q e := by
  induction ops generalizing s with
  | nil => simp [trace]
  | cons op ops ih =>
      intro e hMem
      rcases List.mem_append.1 hMem with hHere | hLater
      · exact hEvent s op hGuard.1 hInit e hHere
      · exact ih hGuard.2 (hStep s op hGuard.1 hInit) e hLater

/-- An invariant that may speak of the events so far. -/
theorem trace_invariant {P : List ε → σ → Prop}
    (hStep : ∀ past s op, guard s op → P past s → P (past ++ events s op) (step s op))
    (hGuard : Guarded step guard s ops) {past : List ε} (hInit : P past s) :
    P (past ++ trace step events s ops) (run step s ops) := by
  induction ops generalizing s past with
  | nil =>
      rw [trace, List.append_nil]
      exact hInit
  | cons op ops ih =>
      rw [trace, ← List.append_assoc]
      exact ih hGuard.2 (hStep past s op hGuard.1 hInit)

section Pairwise

variable {R : σ → σ → Prop} {before after : ε → σ}

/-- The events of one step follow each other between its two ends. -/
structure Chained (R : σ → σ → Prop) (before after : ε → σ) (s t : σ) (es : List ε) :
    Prop where
  starts : ∀ e ∈ es, R s (before e)
  ends : ∀ e ∈ es, R (after e) t
  within : es.Pairwise fun a b => R (after a) (before b)

theorem chained_nil {t : σ} : Chained R before after s t [] :=
  ⟨by simp, by simp, List.Pairwise.nil⟩

/-- An event that starts here, and a chain that starts where it ends. -/
theorem chained_cons {t : σ} {e : ε} {es : List ε} (hRefl : ∀ s, R s s)
    (hTrans : ∀ a b c, R a b → R b c → R a c) (hEvent : R (before e) (after e))
    (hRun : R (after e) t) (h : Chained R before after (after e) t es) :
    Chained R before after (before e) t (e :: es) := by
  refine ⟨?_, ?_, List.pairwise_cons.2 ⟨h.starts, h.within⟩⟩
  · intro other hMem
    rcases List.mem_cons.1 hMem with rfl | hMem
    · exact hRefl _
    · exact hTrans _ _ _ hEvent (h.starts other hMem)
  · intro other hMem
    rcases List.mem_cons.1 hMem with rfl | hMem
    · exact hRun
    · exact h.ends other hMem

/-- The chains of the steps join to one over the run. -/
theorem trace_chained (hRefl : ∀ s, R s s) (hTrans : ∀ a b c, R a b → R b c → R a c)
    (hStep : ∀ s op, guard s op → R s (step s op))
    (hEvents : ∀ s op, guard s op → Chained R before after s (step s op) (events s op))
    (hGuard : Guarded step guard s ops) :
    Chained R before after s (run step s ops) (trace step events s ops) := by
  induction ops generalizing s with
  | nil => exact chained_nil
  | cons op ops ih =>
      have hHere := hEvents s op hGuard.1
      have hLater := ih hGuard.2
      have hRest := run_rel hRefl hTrans hStep hGuard.2
      refine ⟨?_, ?_, List.pairwise_append.2 ⟨hHere.within, hLater.within, ?_⟩⟩
      · intro e hMem
        rcases List.mem_append.1 hMem with hMem | hMem
        · exact hHere.starts e hMem
        · exact hTrans _ _ _ (hStep s op hGuard.1) (hLater.starts e hMem)
      · intro e hMem
        rcases List.mem_append.1 hMem with hMem | hMem
        · exact hTrans _ _ _ (hHere.ends e hMem) hRest
        · exact hLater.ends e hMem
      · intro a ha b hb
        exact hTrans _ _ _ (hHere.ends a ha) (hLater.starts b hb)

end Pairwise

end FabricCapability.Verified.Runs
