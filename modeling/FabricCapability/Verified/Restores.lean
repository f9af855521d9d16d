import FabricCapability.Verified.Runs

/-!
# Runs that restore each other's states

A deployment of several systems: each makes its own steps, and now and then one restores
what another one stored.  What a state went through is then the steps of its own system,
and those of the systems whose states it restored.

`Reached past s` says that the state `s` can be reached with the events `past` behind it.
The rule of this module is the induction over such a history.

## Main results

* `reached_invariant`: what starts hold, what steps keep and restoring carries over.
* `reached_of_run`: a run without any restoring is a history.
-/

namespace FabricCapability.Verified.Restores

open FabricCapability.Verified.Runs

variable {σ ω ε : Type}

/-- What a deployment is made of: the states to start from, the steps with their events,
and which states come from restoring a second state into a first one. -/
structure Deployment (σ ω ε : Type) where
  starts : σ → Prop
  step : σ → ω → σ
  guard : σ → ω → Prop
  events : σ → ω → List ε
  restores : σ → σ → σ → Prop

variable {d : Deployment σ ω ε}

inductive Reached (d : Deployment σ ω ε) : List ε → σ → Prop
  | start {s : σ} (starts : d.starts s) : Reached d [] s
  | step {past : List ε} {s : σ} {op : ω} (before : Reached d past s) (allowed : d.guard s op) :
      Reached d (past ++ d.events s op) (d.step s op)
  | restore {past stored : List ε} {s t u : σ} (before : Reached d past s)
      (source : Reached d stored t) (restores : d.restores s t u) :
      Reached d (past ++ stored) u

theorem reached_invariant {P : List ε → σ → Prop} (hStart : ∀ s, d.starts s → P [] s)
    (hStep : ∀ past s op, d.guard s op → P past s → P (past ++ d.events s op) (d.step s op))
    (hRestore : ∀ past stored s t u, d.restores s t u → P past s → P stored t →
      P (past ++ stored) u)
    {past : List ε} {s : σ} (h : Reached d past s) : P past s := by
  induction h with
  | start hStarts => exact hStart _ hStarts
  | step before hAllowed ih => exact hStep _ _ _ hAllowed ih
  | restore before source hRestores ih ihSource =>
      exact hRestore _ _ _ _ _ hRestores ih ihSource

theorem reached_of_run {past : List ε} {s : σ} {ops : List ω} (h : Reached d past s)
    (hGuard : Guarded d.step d.guard s ops) :
    Reached d (past ++ trace d.step d.events s ops) (run d.step s ops) := by
  induction ops generalizing past s with
  | nil =>
      rw [trace, List.append_nil]
      exact h
  | cons op ops ih =>
      rw [trace, ← List.append_assoc]
      exact ih (.step h hGuard.1) hGuard.2

end FabricCapability.Verified.Restores
