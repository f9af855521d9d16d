import FabricCapability.Verified.KeyedList

/-!
# Tables that only grow

`Grows key R fresh` relates a keyed table to a later one that keeps its rows in place:
every row is replaced by one with the same key that `R` relates it to, and the rows that
were added develop from fresh ones.  When `R` is a preorder, so is `Grows`; updates,
additions and loops that rewrite every row are growth when `R` holds of what they do to
one row.

## Main results

* `Grows.trans`: growth composes.
* `Grows.find`, `Grows.found`: what a lookup finds before and after.
* `Grows.mem`: where the rows of the later table come from.
-/

namespace FabricCapability.Verified.KeyedList

variable {α κ σ : Type} {key : α → κ} {R : α → α → Prop} {fresh : α → Prop}

/-- The row develops from a fresh row with its key. -/
def Springs (key : α → κ) (R : α → α → Prop) (fresh : α → Prop) (b : α) : Prop :=
  ∃ a, fresh a ∧ key b = key a ∧ R a b

/-- Every row of the first table has a later version at its place in the second, and
the rows beyond spring from fresh ones. -/
inductive Grows (key : α → κ) (R : α → α → Prop) (fresh : α → Prop) : List α → List α → Prop
  | nil {ys : List α} : (∀ b ∈ ys, Springs key R fresh b) → Grows key R fresh [] ys
  | cons {a b : α} {xs ys : List α} : key b = key a → R a b → Grows key R fresh xs ys →
      Grows key R fresh (a :: xs) (b :: ys)

namespace Grows

variable {a b : α} {k : κ} {xs ys zs : List α}

/-! ## How tables grow -/

theorem refl (hRefl : ∀ a, R a a) (xs : List α) : Grows key R fresh xs xs := by
  induction xs with
  | nil => exact .nil (by simp)
  | cons x xs ih => exact .cons rfl (hRefl x) ih

theorem springs (hTrans : ∀ a b c, R a b → R b c → R a c)
    (h : Grows key R fresh xs ys) (hSprings : ∀ b ∈ xs, Springs key R fresh b) :
    ∀ b ∈ ys, Springs key R fresh b := by
  induction h with
  | nil hNew => exact hNew
  | @cons a b xs ys hKey hStep _ ih =>
      intro c hMem
      rcases List.mem_cons.1 hMem with rfl | hMem
      · obtain ⟨origin, hFresh, hOrigin, hDevelops⟩ := hSprings a (List.mem_cons_self ..)
        exact ⟨origin, hFresh, hKey.trans hOrigin, hTrans _ _ _ hDevelops hStep⟩
      · exact ih (fun b hb => hSprings b (List.mem_cons_of_mem _ hb)) c hMem

theorem trans (hTrans : ∀ a b c, R a b → R b c → R a c) (hxy : Grows key R fresh xs ys)
    (hyz : Grows key R fresh ys zs) : Grows key R fresh xs zs := by
  induction hxy generalizing zs with
  | nil hNew => exact .nil (hyz.springs hTrans hNew)
  | cons hKey hStep _ ih =>
      cases hyz with
      | cons hKey' hStep' hRest =>
          exact .cons (hKey'.trans hKey) (hTrans _ _ _ hStep hStep') (ih hRest)

theorem append (hRefl : ∀ a, R a a) (xs : List α) (h : Springs key R fresh b) :
    Grows key R fresh xs (xs ++ [b]) := by
  induction xs with
  | nil =>
      refine .nil fun c hMem => ?_
      rw [List.mem_singleton.1 hMem]
      exact h
  | cons x xs ih => exact .cons rfl (hRefl x) ih

/-- A loop that rewrites every row. -/
theorem mapAccum {f : σ → α → σ × α} (s : σ) (h : ∀ a ∈ xs, ∀ s,
      key (f s a).2 = key a ∧ R a (f s a).2) :
    Grows key R fresh xs (KeyedList.mapAccum f s xs).2 := by
  induction xs generalizing s with
  | nil => exact .nil (by simp [KeyedList.mapAccum])
  | cons x xs ih =>
      obtain ⟨hKey, hStep⟩ := h x (List.mem_cons_self ..) s
      exact .cons hKey hStep (ih _ fun a hMem => h a (List.mem_cons_of_mem _ hMem))

/-- Every row of the later table is a later version of a row, or springs from a fresh one. -/
theorem mem (h : Grows key R fresh xs ys) (hMem : b ∈ ys) :
    (∃ a ∈ xs, key b = key a ∧ R a b) ∨ Springs key R fresh b := by
  induction h with
  | nil hNew => exact .inr (hNew b hMem)
  | @cons x y xs ys hKey hStep _ ih =>
      rcases List.mem_cons.1 hMem with rfl | hMem
      · exact .inl ⟨x, List.mem_cons_self .., hKey, hStep⟩
      · rcases ih hMem with ⟨a, hOld, hRest⟩ | hNew
        · exact .inl ⟨a, List.mem_cons_of_mem _ hOld, hRest⟩
        · exact .inr hNew

theorem mono {S : α → α → Prop} (hRS : ∀ a b, R a b → S a b) (h : Grows key R fresh xs ys) :
    Grows key S fresh xs ys := by
  induction h with
  | nil hNew =>
      refine .nil fun b hMem => ?_
      obtain ⟨a, hFresh, hKey, hStep⟩ := hNew b hMem
      exact ⟨a, hFresh, hKey, hRS _ _ hStep⟩
  | cons hKey hStep _ ih => exact .cons hKey (hRS _ _ hStep) ih

/-! ## Lookups -/

variable [DecidableEq κ]

/-- Replacing the row that is found under its key. -/
theorem upsert (hRefl : ∀ a, R a a) (hFound : lookup key (key b) xs = some a) (h : R a b) :
    Grows key R fresh xs (KeyedList.upsert key b xs) := by
  induction xs with
  | nil => cases hFound
  | cons x xs ih =>
      rw [lookup_cons] at hFound
      rw [KeyedList.upsert]
      split at hFound
      · rename_i hx
        cases hFound
        rw [if_pos hx]
        exact .cons hx.symm h (refl hRefl xs)
      · rename_i hx
        rw [if_neg hx]
        exact .cons rfl (hRefl x) (ih hFound)

/-- A row that was found is found again, at a later version. -/
theorem find (h : Grows key R fresh xs ys) (hFound : lookup key k xs = some a) :
    ∃ b, lookup key k ys = some b ∧ R a b := by
  induction h with
  | nil => cases hFound
  | @cons x y xs ys hKey hStep _ ih =>
      rw [lookup_cons] at hFound
      simp only [lookup_cons, hKey]
      split at hFound
      · rename_i hx
        cases hFound
        exact ⟨y, by rw [if_pos hx], hStep⟩
      · rename_i hx
        rw [if_neg hx]
        exact ih hFound

/-- A row that is found later was found before, or springs from a fresh one. -/
theorem found (h : Grows key R fresh xs ys) (hFound : lookup key k ys = some b) :
    (∃ a, lookup key k xs = some a ∧ R a b) ∨
      (lookup key k xs = none ∧ Springs key R fresh b) := by
  induction h with
  | nil hNew => exact .inr ⟨rfl, hNew b (lookup_mem hFound)⟩
  | @cons x y xs ys hKey hStep _ ih =>
      rw [lookup_cons, hKey] at hFound
      simp only [lookup_cons]
      split at hFound
      · rename_i hx
        cases hFound
        exact .inl ⟨x, by rw [if_pos hx], hStep⟩
      · rename_i hx
        rw [if_neg hx]
        exact ih hFound

end Grows

end FabricCapability.Verified.KeyedList
