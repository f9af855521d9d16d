import Mathlib.Data.List.Forall2
import Mathlib.Tactic.Common

/-!
# Three-valued conjunction, disjunction and negation

Strong Kleene logic over lists of truth values.  A conjunction is true when all of its parts
are, false when one of them is, and unknown otherwise; the disjunction is its dual.

A value refines another when it keeps what the other one knows.  The connectives keep
refinements: to learn more about the parts never takes back what was known of the whole.

## Main results

* `all_refines`, `any_refines`, `not_refines`: the connectives are monotone in information.
-/

namespace FabricCapability.Verified.Kleene

inductive Truth where
  | no | unknown | yes
  deriving DecidableEq, Repr

namespace Truth

def not : Truth → Truth
  | no => yes
  | unknown => unknown
  | yes => no

/-- The conjunction. -/
def all (values : List Truth) : Truth :=
  if values.all (· == yes) then yes else if values.contains no then no else unknown

/-- The disjunction. -/
def any (values : List Truth) : Truth :=
  if values.contains yes then yes else if values.all (· == no) then no else unknown

theorem all_eq_yes {values : List Truth} : all values = yes ↔ ∀ v ∈ values, v = yes := by
  unfold all
  split
  · rename_i hAll
    simpa using hAll
  · rename_i hNot
    split
    · simpa using hNot
    · simpa using hNot

theorem all_eq_no {values : List Truth} : all values = no ↔ no ∈ values := by
  unfold all
  split
  · rename_i hAll
    refine iff_of_false nofun fun hMem => ?_
    exact absurd (List.all_eq_true.1 hAll no hMem) (by decide)
  · split
    · rename_i hMem
      simpa using hMem
    · rename_i hMem
      simpa using hMem

theorem any_eq_yes {values : List Truth} : any values = yes ↔ yes ∈ values := by
  unfold any
  split
  · rename_i hMem
    simpa using hMem
  · rename_i hMem
    split <;> simpa using hMem

theorem any_eq_no {values : List Truth} : any values = no ↔ ∀ v ∈ values, v = no := by
  unfold any
  split
  · rename_i hMem
    refine iff_of_false nofun fun hAll => ?_
    exact absurd (hAll yes (by simpa using hMem)) nofun
  · split
    · rename_i hAll
      simpa using hAll
    · rename_i hNot
      simpa using hNot

/-! ## Refinement -/

/-- The second value keeps what the first one knows. -/
def Refines (a b : Truth) : Prop := a ≠ unknown → b = a

theorem Refines.refl (a : Truth) : a.Refines a := fun _ => rfl

theorem not_refines {a b : Truth} (h : a.Refines b) : a.not.Refines b.not := by
  intro hKnown
  have hA : a ≠ unknown := by
    rintro rfl
    exact hKnown rfl
  rw [h hA]

/-- What a list holds for certain, a refinement of it holds. -/
theorem mem_of_refines {xs ys : List Truth} (h : List.Forall₂ Refines xs ys) {value : Truth}
    (hKnown : value ≠ unknown) (hMem : value ∈ xs) : value ∈ ys := by
  induction h with
  | nil => cases hMem
  | cons hHead _ ih =>
      rcases List.mem_cons.1 hMem with rfl | hRest
      · rw [hHead hKnown]
        exact List.mem_cons_self ..
      · exact List.mem_cons_of_mem _ (ih hRest)

/-- What all of a list are for certain, all of a refinement are. -/
theorem forall_of_refines {xs ys : List Truth} (h : List.Forall₂ Refines xs ys) {value : Truth}
    (hKnown : value ≠ unknown) (hAll : ∀ v ∈ xs, v = value) : ∀ v ∈ ys, v = value := by
  induction h with
  | nil => exact fun v hMem => absurd hMem (by simp)
  | cons hHead _ ih =>
      rw [List.forall_mem_cons] at hAll ⊢
      obtain ⟨rfl, hRest⟩ := hAll
      exact ⟨hHead hKnown, ih hRest⟩

theorem all_refines {xs ys : List Truth} (h : List.Forall₂ Refines xs ys) :
    (all xs).Refines (all ys) := by
  intro hKnown
  cases hAll : all xs with
  | unknown => exact absurd hAll hKnown
  | no => exact all_eq_no.2 (mem_of_refines h nofun (all_eq_no.1 hAll))
  | yes => exact all_eq_yes.2 (forall_of_refines h nofun (all_eq_yes.1 hAll))

theorem any_refines {xs ys : List Truth} (h : List.Forall₂ Refines xs ys) :
    (any xs).Refines (any ys) := by
  intro hKnown
  cases hAny : any xs with
  | unknown => exact absurd hAny hKnown
  | no => exact any_eq_no.2 (forall_of_refines h nofun (any_eq_no.1 hAny))
  | yes => exact any_eq_yes.2 (mem_of_refines h nofun (any_eq_yes.1 hAny))

end Truth

end FabricCapability.Verified.Kleene
