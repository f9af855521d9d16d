import FabricCapability.Verified.StrictOrder
import Mathlib.Data.List.Basic

/-!
# Searching by halves

`std::lower_bound` on a range of known length: the part that is left is cut in two, and its
middle element decides which half to keep.

The search makes sense for a range that is partitioned: no element that is below comes after
one that is not.  There it stops where a scan from the front stops.

## Main results

* `lowerBound_eq_dropWhile`: the search drops what the scan drops.
* `head?_lowerBound`: it finds the first element that is not below.
* `searchKey_eq_find?`: comparing what it finds is looking for a key.
-/

namespace FabricCapability.Verified.PartitionPoint

open FabricCapability.Verified.StrictOrder

variable {α : Type} {below : α → Bool}

/-- The rounds of the search: `length` elements of the range are left to look at. -/
def search (below : α → Bool) : Nat → Nat → List α → List α
  | 0, _, range => range
  | rounds + 1, length, range =>
      if length = 0 then range
      else
        match range.drop (length / 2) with
        | [] => range
        | middle :: rest =>
            if below middle then search below rounds (length - length / 2 - 1) rest
            else search below rounds (length / 2) range

/-- The range from its first element on that is not below. -/
def lowerBound (below : α → Bool) (range : List α) : List α :=
  search below range.length range.length range

/-- No element that is below comes after one that is not. -/
def Partitioned (below : α → Bool) (range : List α) : Prop :=
  range.Pairwise fun a b => below b = true → below a = true

theorem dropWhile_of_none {front back : List α} (hBack : ∀ b ∈ back, below b = false) :
    (front ++ back).dropWhile below = front.dropWhile below ++ back := by
  rw [List.dropWhile_append]
  split
  · rename_i hEmpty
    rw [List.isEmpty_iff.1 hEmpty, List.nil_append]
    cases back with
    | nil => rfl
    | cons b back => rw [List.dropWhile_cons, hBack b (List.mem_cons_self ..)]; rfl
  · rfl

/-- Some rounds into the search: the range starts with what is left to look at. -/
theorem search_eq (rounds : Nat) {front back : List α} (hRounds : front.length ≤ rounds)
    (hFront : Partitioned below front) (hBack : ∀ b ∈ back, below b = false) :
    search below rounds front.length (front ++ back) = (front ++ back).dropWhile below := by
  induction rounds generalizing front back with
  | zero =>
      obtain rfl : front = [] := List.length_eq_zero_iff.1 (Nat.le_zero.1 hRounds)
      rw [search, dropWhile_of_none hBack]
      rfl
  | succ rounds ih =>
      by_cases hEmpty : front.length = 0
      · obtain rfl : front = [] := List.length_eq_zero_iff.1 hEmpty
        rw [search, if_pos hEmpty, dropWhile_of_none hBack]
        rfl
      · have hHalf : front.length / 2 < front.length := by omega
        -- the front falls into what is before the middle, the middle and what is after it
        obtain ⟨middle, rest, hDrop⟩ : ∃ middle rest,
            front.drop (front.length / 2) = middle :: rest := by
          cases hDrop : front.drop (front.length / 2) with
          | nil =>
              rw [List.drop_eq_nil_iff] at hDrop
              omega
          | cons middle rest => exact ⟨middle, rest, rfl⟩
        have hSplit : front = front.take (front.length / 2) ++ middle :: rest := by
          rw [← hDrop, List.take_append_drop]
        have hTake : (front.take (front.length / 2)).length = front.length / 2 := by
          rw [List.length_take]
          omega
        have hRest : rest.length = front.length - front.length / 2 - 1 := by
          have hLength := congrArg List.length hDrop
          rw [List.length_drop, List.length_cons] at hLength
          omega
        have hParts := hFront
        rw [hSplit] at hParts
        obtain ⟨hBefore, hFrom, hAcross⟩ := List.pairwise_append.1 hParts
        obtain ⟨hMiddle, hAfter⟩ := List.pairwise_cons.1 hFrom
        rw [search, if_neg hEmpty, List.drop_append_of_le_length (Nat.le_of_lt hHalf), hDrop]
        dsimp only [List.cons_append]
        by_cases hBelow : below middle = true
        · have hDropped : ∀ a ∈ front.take (front.length / 2), below a = true :=
            fun a hMem => hAcross a hMem middle (List.mem_cons_self ..) hBelow
          rw [if_pos hBelow, ← hRest, ih (by omega) hAfter hBack]
          conv_rhs => rw [hSplit, List.append_assoc, List.dropWhile_append_of_pos hDropped,
            List.cons_append, List.dropWhile_cons_of_pos hBelow]
        · have hAbove : ∀ b ∈ middle :: rest ++ back, below b = false := by
            intro b hMem
            rcases List.mem_append.1 hMem with hHere | hLater
            · rcases List.mem_cons.1 hHere with rfl | hAfterMiddle
              · simpa using hBelow
              · by_contra hNot
                exact hBelow (hMiddle b hAfterMiddle (by simpa using hNot))
            · exact hBack b hLater
          have hRange : front ++ back =
              front.take (front.length / 2) ++ (middle :: rest ++ back) := by
            rw [← List.append_assoc, ← hSplit]
          have hFound := ih (by omega) hBefore hAbove
          rw [hTake] at hFound
          rw [if_neg hBelow, hRange]
          exact hFound

/-- The search stops where a scan from the front stops. -/
theorem lowerBound_eq_dropWhile {range : List α} (h : Partitioned below range) :
    lowerBound below range = range.dropWhile below := by
  have hSearch : search below range.length range.length (range ++ []) =
      (range ++ []).dropWhile below := search_eq range.length (Nat.le_refl _) h (by simp)
  rwa [List.append_nil] at hSearch

theorem head?_lowerBound {range : List α} (h : Partitioned below range) :
    (lowerBound below range).head? = range.find? fun a => !below a := by
  rw [lowerBound_eq_dropWhile h]
  clear h
  induction range with
  | nil => rfl
  | cons a range ih =>
      rw [List.dropWhile_cons, List.find?_cons]
      cases below a with
      | true => exact ih
      | false => rfl

/-! ## Looking for a key -/

section Keys

variable {κ : Type} {lt : κ → κ → Bool} {key : α → κ}

/-- A sorted range is partitioned by what is below a key. -/
theorem partitioned_of_sorted (h : StrictWeak lt) {range : List α} (k : κ)
    (hSorted : range.Pairwise fun a b => lt (key b) (key a) = false) :
    Partitioned (fun a => lt (key a) k) range := by
  refine hSorted.imp fun {a b} hOrder hBelow => ?_
  cases hHere : lt (key a) k with
  | true => exact hHere
  | false => exact absurd (h.negTrans _ _ _ hOrder hHere) (by simpa using hBelow)

variable [DecidableEq κ]

/-- The search for a key, and the comparison with what it finds. -/
def searchKey (lt : κ → κ → Bool) (key : α → κ) (k : κ) (range : List α) : Option α :=
  match lowerBound (fun a => lt (key a) k) range with
  | [] => none
  | a :: _ => if key a = k then some a else none

theorem searchKey_eq_head? (lt : κ → κ → Bool) (key : α → κ) (k : κ) (range : List α) :
    searchKey lt key k range =
      (lowerBound (fun a => lt (key a) k) range).head?.filter fun a => key a = k := by
  unfold searchKey
  cases lowerBound (fun a => lt (key a) k) range with
  | nil => rfl
  | cons a rest =>
      rw [List.head?_cons, Option.filter_some]
      simp only [decide_eq_true_eq]

/-- In a sorted range the first element with the key is found. -/
theorem searchKey_eq_find? (h : StrictTotal lt) {range : List α} (k : κ)
    (hSorted : range.Pairwise fun a b => lt (key b) (key a) = false) :
    searchKey lt key k range = range.find? fun a => key a = k := by
  rw [searchKey_eq_head?, head?_lowerBound (partitioned_of_sorted h.weak k hSorted)]
  induction range with
  | nil => rfl
  | cons a range ih =>
      obtain ⟨hFirst, hRest⟩ := List.pairwise_cons.1 hSorted
      rw [List.find?_cons, List.find?_cons]
      cases hBelow : lt (key a) k with
      | true =>
          have hNe : decide (key a = k) = false := by
            rw [decide_eq_false_iff_not]
            intro hEq
            rw [hEq, h.irrefl] at hBelow
            cases hBelow
          rw [hNe]
          exact ih hRest
      | false =>
          rw [Bool.not_false, Option.filter_some]
          by_cases hHere : key a = k
          · rw [if_pos (decide_eq_true hHere), decide_eq_true hHere]
          · -- a later element with the key would be below this one
            have hNone : (range.find? fun b => decide (key b = k)) = none := by
              rw [List.find?_eq_none]
              intro b hMem hEq
              have hKey : key b = k := of_decide_eq_true hEq
              have hOrder := hFirst b hMem
              rw [hKey] at hOrder
              exact hHere (h.eq_of_not_lt _ _ hBelow hOrder)
            rw [if_neg (by simpa using hHere), decide_eq_false hHere, hNone]

end Keys

end FabricCapability.Verified.PartitionPoint
