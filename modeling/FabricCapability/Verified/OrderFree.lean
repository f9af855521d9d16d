import FabricCapability.Verified.StrictOrder
import Mathlib.Data.Finset.Card

/-!
# Choices that do not depend on the order

A program walks over a list and keeps the best element seen so far, or counts how many
different elements there are.  Both results depend on the elements alone, and not on the
order of the list, when ties are ruled out for the one and when the comparison is an
equality of keys for the other.

## Main results

* `champion_perm`: without ties, the best element does not depend on the order.
* `length_firsts`, `length_firsts_perm`: how many elements are the first of their key.
-/

namespace FabricCapability.Verified.OrderFree

open FabricCapability.Verified.StrictOrder

variable {α κ : Type}

/-! ## The best element -/

/-- The best element of a walk: the element kept is replaced by one that beats it. -/
def champion (beats : α → α → Bool) (best : α) : List α → α
  | [] => best
  | x :: xs => champion beats (if beats x best then x else best) xs

section Champion

variable {beats : α → α → Bool}

theorem champion_mem (best : α) (xs : List α) : champion beats best xs ∈ best :: xs := by
  induction xs generalizing best with
  | nil => exact List.mem_singleton_self _
  | cons x xs ih =>
      have hStep := ih (if beats x best then x else best)
      rw [champion]
      by_cases h : beats x best = true
      · rw [if_pos h] at hStep ⊢
        exact List.mem_cons_of_mem _ hStep
      · rw [if_neg h] at hStep ⊢
        rcases List.mem_cons.1 hStep with hBest | hRest
        · rw [hBest]
          exact List.mem_cons_self ..
        · exact List.mem_cons_of_mem _ (List.mem_cons_of_mem _ hRest)

theorem beats_self (h : StrictWeak beats) (x : α) : beats x x = false := by
  cases hSelf : beats x x with
  | false => rfl
  | true =>
      have hAsymm := h.asymm _ _ hSelf
      rwa [hSelf] at hAsymm

/-- No element of the walk beats the one that is kept at its end. -/
theorem champion_unbeaten (h : StrictWeak beats) (best : α) (xs : List α) :
    ∀ x ∈ best :: xs, beats x (champion beats best xs) = false := by
  induction xs generalizing best with
  | nil =>
      intro x hMem
      rw [List.mem_singleton.1 hMem, champion]
      exact beats_self h best
  | cons x xs ih =>
      -- the element that goes on does not lose to the one that is dropped
      have hKept : ∀ kept, (kept = if beats x best then x else best) →
          beats best kept = false ∧ beats x kept = false := by
        rintro kept rfl
        by_cases hBeats : beats x best = true
        · rw [if_pos hBeats]
          exact ⟨h.asymm _ _ hBeats, beats_self h x⟩
        · rw [if_neg hBeats]
          exact ⟨beats_self h best, Bool.not_eq_true _ ▸ hBeats⟩
      obtain ⟨hBest, hFirst⟩ := hKept _ rfl
      have hRest := ih (if beats x best then x else best)
      have hHead := hRest _ (List.mem_cons_self ..)
      intro y hMem
      rw [champion]
      rcases List.mem_cons.1 hMem with rfl | hMem
      · exact h.negTrans _ _ _ hBest hHead
      · rcases List.mem_cons.1 hMem with rfl | hMem
        · exact h.negTrans _ _ _ hFirst hHead
        · exact hRest y (List.mem_cons_of_mem _ hMem)

/-- When elements that do not beat each other are the same, the best one does not depend
on the order. -/
theorem champion_perm (h : StrictWeak beats) {x y : α} {xs ys : List α}
    (hTies : ∀ a ∈ x :: xs, ∀ b ∈ x :: xs, beats a b = false → beats b a = false → a = b)
    (hPerm : (x :: xs).Perm (y :: ys)) : champion beats x xs = champion beats y ys := by
  have hMem := hPerm.mem_iff.2 (@champion_mem _ beats y ys)
  refine hTies _ (champion_mem x xs) _ hMem ?_ (champion_unbeaten h x xs _ hMem)
  exact champion_unbeaten h y ys _ (hPerm.mem_iff.1 (champion_mem x xs))

end Champion

/-! ## The first elements of their kind -/

/-- The elements that are the same as no element before them; `seen` are the elements
before the list. -/
def firsts (same : α → α → Bool) (seen : List α) : List α → List α
  | [] => []
  | x :: xs =>
      if seen.any (same · x) then firsts same (seen ++ [x]) xs
      else x :: firsts same (seen ++ [x]) xs

section Firsts

variable [DecidableEq κ] {same : α → α → Bool} {key : α → κ}

/-- There are as many first elements as there are new keys. -/
theorem length_firsts (hSame : ∀ a b, same a b = true ↔ key a = key b) (seen xs : List α) :
    (firsts same seen xs).length = ((xs.map key).toFinset \ (seen.map key).toFinset).card := by
  induction xs generalizing seen with
  | nil => simp [firsts]
  | cons x xs ih =>
      have hAny : seen.any (same · x) = true ↔ key x ∈ (seen.map key).toFinset := by
        simp only [List.any_eq_true, hSame, List.mem_toFinset, List.mem_map]
      rw [firsts]
      by_cases hSeen : seen.any (same · x) = true
      · rw [if_pos hSeen, ih]
        congr 1
        rw [hAny] at hSeen
        ext k
        simp only [List.map_append, List.map_cons, List.map_nil, List.toFinset_append,
          List.toFinset_cons, Finset.mem_sdiff, Finset.mem_union, Finset.mem_insert,
          List.toFinset_nil, Finset.notMem_empty, or_false, not_or]
        constructor
        · rintro ⟨hMem, hNew, -⟩
          exact ⟨.inr hMem, hNew⟩
        · rintro ⟨rfl | hMem, hNew⟩
          · exact absurd hSeen hNew
          · refine ⟨hMem, hNew, ?_⟩
            rintro rfl
            exact hNew hSeen
      · rw [if_neg hSeen, List.length_cons, ih]
        rw [hAny] at hSeen
        have hInsert : ((x :: xs).map key).toFinset \ (seen.map key).toFinset =
            insert (key x) ((xs.map key).toFinset \ ((seen ++ [x]).map key).toFinset) := by
          ext k
          simp only [List.map_append, List.map_cons, List.map_nil, List.toFinset_append,
            List.toFinset_cons, Finset.mem_sdiff, Finset.mem_union, Finset.mem_insert,
            List.toFinset_nil, Finset.notMem_empty, or_false, not_or]
          by_cases hEq : k = key x
          · subst hEq
            exact ⟨fun _ => .inl rfl, fun _ => ⟨.inl rfl, hSeen⟩⟩
          · constructor
            · rintro ⟨hKey | hMem, hNew⟩
              · exact absurd hKey hEq
              · exact .inr ⟨hMem, hNew, hEq⟩
            · rintro (hKey | ⟨hMem, hNew, -⟩)
              · exact absurd hKey hEq
              · exact ⟨.inr hMem, hNew⟩
        rw [hInsert, Finset.card_insert_of_notMem]
        simp

theorem length_firsts_perm (hSame : ∀ a b, same a b = true ↔ key a = key b)
    {xs ys : List α} (h : xs.Perm ys) :
    (firsts same [] xs).length = (firsts same [] ys).length := by
  rw [length_firsts hSame, length_firsts hSame, List.toFinset_eq_of_perm _ _ (h.map key)]

end Firsts

end FabricCapability.Verified.OrderFree
