import Mathlib.Data.List.Pairwise
import Mathlib.Data.List.Sort
import Mathlib.Tactic.Common

/-!
# Computable strict orders and sorting by them

Programs order their data with a comparator: a Boolean `lt` that a sort, a search
tree or a duplicate check calls.  This module states what a comparator has to
satisfy and what sorting by it gives.

* `StrictTotal lt` — `lt` is a strict total order; `StrictWeak lt` — `lt` is a
  strict order up to ties, which is what a comparison of keys is.
* `lexLt lt` — the lexicographic comparator of lists, a proper initial segment
  first.
* `sortBy lt` — stable sorting by a comparator.
* `increasing lt` — the linear check that each element is below the next one.

## Main results

* `StrictTotal.lex`, `StrictTotal.pair` — comparators compose.
* `sortBy_pairwise`, `sortBy_perm`, `sortBy_eq_self` — sorting sorts, keeps the
  elements, and does nothing to a sorted list.
* `increasing_iff_pairwise` — the linear check says that every element is below
  every later one.
* `increasing_of_sorted`, `increasing_sortBy` — a sorted list without ties is
  strictly increasing.
-/

namespace FabricCapability.Verified.StrictOrder

variable {α β : Type}

/-- `lt` is a strict total order. -/
structure StrictTotal (lt : α → α → Bool) : Prop where
  irrefl : ∀ a, lt a a = false
  trans : ∀ a b c, lt a b = true → lt b c = true → lt a c = true
  eq_of_not_lt : ∀ a b, lt a b = false → lt b a = false → a = b

/-- `lt` is a strict order in which elements may be tied. -/
structure StrictWeak (lt : α → α → Bool) : Prop where
  asymm : ∀ a b, lt a b = true → lt b a = false
  negTrans : ∀ a b c, lt a b = false → lt b c = false → lt a c = false

namespace StrictTotal

variable {lt : α → α → Bool}

theorem asymm (h : StrictTotal lt) {a b : α} (hab : lt a b = true) : lt b a = false := by
  cases hba : lt b a with
  | false => rfl
  | true =>
      have haa := h.trans a b a hab hba
      rw [h.irrefl] at haa
      cases haa

theorem weak (h : StrictTotal lt) : StrictWeak lt where
  asymm := fun _ _ hab => h.asymm hab
  negTrans := by
    intro a b c hab hbc
    cases hac : lt a c with
    | false => rfl
    | true =>
        cases hba : lt b a with
        | false =>
            rw [h.eq_of_not_lt a b hab hba] at hac
            rw [hac] at hbc
            cases hbc
        | true =>
            rw [h.trans b a c hba hac] at hbc
            cases hbc

/-- Comparing keys by a strict total order is a strict weak order. -/
theorem comap (h : StrictTotal lt) (key : β → α) :
    StrictWeak fun a b => lt (key a) (key b) where
  asymm := fun _ _ hab => h.asymm hab
  negTrans := fun _ _ _ => h.weak.negTrans _ _ _

/-- Comparing injective keys by a strict total order is a strict total order. -/
theorem comap_injective (h : StrictTotal lt) (key : β → α)
    (hKey : ∀ a b, key a = key b → a = b) :
    StrictTotal fun a b => lt (key a) (key b) where
  irrefl := fun _ => h.irrefl _
  trans := fun _ _ _ => h.trans _ _ _
  eq_of_not_lt := fun _ _ hab hba => hKey _ _ (h.eq_of_not_lt _ _ hab hba)

/-- The natural numbers with their order. -/
theorem nat : StrictTotal fun a b : Nat => decide (a < b) where
  irrefl := by simp
  trans := by
    intro a b c hab hbc
    simp only [decide_eq_true_eq] at *
    omega
  eq_of_not_lt := by
    intro a b hab hba
    simp only [decide_eq_false_iff_not] at *
    omega

/-- The integers with their order. -/
theorem int : StrictTotal fun a b : Int => decide (a < b) where
  irrefl := by simp
  trans := by
    intro a b c hab hbc
    simp only [decide_eq_true_eq] at *
    omega
  eq_of_not_lt := by
    intro a b hab hba
    simp only [decide_eq_false_iff_not] at *
    omega

end StrictTotal

/-! ## Composing comparators -/

/-- Lexicographic comparison of lists: the first difference decides, and a
proper initial segment is smaller. -/
def lexLt [DecidableEq α] (lt : α → α → Bool) : List α → List α → Bool
  | [], [] => false
  | [], _ :: _ => true
  | _ :: _, [] => false
  | a :: as, b :: bs => if a = b then lexLt lt as bs else lt a b

/-- Comparison of pairs: the first components decide unless they are equal. -/
def pairLt [DecidableEq α] (ltα : α → α → Bool) (ltβ : β → β → Bool) (x y : α × β) : Bool :=
  if x.1 = y.1 then ltβ x.2 y.2 else ltα x.1 y.1

namespace StrictTotal

variable [DecidableEq α] {lt : α → α → Bool} {ltβ : β → β → Bool}

theorem lex (h : StrictTotal lt) : StrictTotal (lexLt lt) where
  irrefl := by
    intro as
    induction as with
    | nil => rfl
    | cons a as ih => simpa [lexLt] using ih
  trans := by
    intro as
    induction as with
    | nil =>
        intro bs cs hab hbc
        cases bs with
        | nil => cases hab
        | cons b bs =>
            cases cs with
            | nil => cases hbc
            | cons c cs => rfl
    | cons a as ih =>
        intro bs cs hab hbc
        cases bs with
        | nil => cases hab
        | cons b bs =>
            cases cs with
            | nil => cases hbc
            | cons c cs =>
                simp only [lexLt] at hab hbc ⊢
                by_cases hAB : a = b
                · subst hAB
                  by_cases hBC : a = c
                  · subst hBC
                    simp only [if_true] at hab hbc ⊢
                    exact ih bs cs hab hbc
                  · simpa [hBC] using hbc
                · by_cases hBC : b = c
                  · subst hBC
                    simpa [hAB] using hab
                  · simp only [hAB, hBC, if_false] at hab hbc
                    have hac := h.trans a b c hab hbc
                    have hNe : a ≠ c := by
                      rintro rfl
                      rw [h.irrefl] at hac
                      cases hac
                    simpa [hNe] using hac
  eq_of_not_lt := by
    intro as
    induction as with
    | nil =>
        intro bs hab _
        cases bs with
        | nil => rfl
        | cons b bs => cases hab
    | cons a as ih =>
        intro bs hab hba
        cases bs with
        | nil => cases hba
        | cons b bs =>
            simp only [lexLt] at hab hba
            by_cases hAB : a = b
            · subst hAB
              simp only [if_true] at hab hba
              rw [ih bs hab hba]
            · simp only [hAB, Ne.symm hAB, if_false] at hab hba
              exact absurd (h.eq_of_not_lt a b hab hba) hAB

theorem pair (h : StrictTotal lt) (hβ : StrictTotal ltβ) : StrictTotal (pairLt lt ltβ) where
  irrefl := by
    intro x
    simp [pairLt, hβ.irrefl]
  trans := by
    intro x y z hxy hyz
    simp only [pairLt] at hxy hyz ⊢
    by_cases hXY : x.1 = y.1
    · rw [if_pos hXY] at hxy
      by_cases hYZ : y.1 = z.1
      · rw [if_pos hYZ] at hyz
        rw [if_pos (hXY.trans hYZ)]
        exact hβ.trans _ _ _ hxy hyz
      · rw [if_neg hYZ] at hyz
        rw [if_neg (hXY ▸ hYZ), hXY]
        exact hyz
    · rw [if_neg hXY] at hxy
      by_cases hYZ : y.1 = z.1
      · rw [if_neg (hYZ ▸ hXY), ← hYZ]
        exact hxy
      · rw [if_neg hYZ] at hyz
        have hxz := h.trans _ _ _ hxy hyz
        have hNe : x.1 ≠ z.1 := by
          intro hEq
          rw [hEq, h.irrefl] at hxz
          cases hxz
        rw [if_neg hNe]
        exact hxz
  eq_of_not_lt := by
    intro x y hxy hyx
    simp only [pairLt] at hxy hyx
    by_cases hXY : x.1 = y.1
    · rw [if_pos hXY] at hxy
      rw [if_pos hXY.symm] at hyx
      exact Prod.ext hXY (hβ.eq_of_not_lt _ _ hxy hyx)
    · rw [if_neg hXY] at hxy
      rw [if_neg (Ne.symm hXY)] at hyx
      exact absurd (h.eq_of_not_lt _ _ hxy hyx) hXY

end StrictTotal

/-! ## Sorting -/

/-- Stable sorting by a comparator. -/
def sortBy (lt : α → α → Bool) (xs : List α) : List α :=
  xs.insertionSort fun a b => lt b a = false

/-- Each element is below the next one. -/
def increasing (lt : α → α → Bool) : List α → Bool
  | a :: b :: rest => lt a b && increasing lt (b :: rest)
  | _ => true

/-- Some two neighbours are related; `std::adjacent_find` finds such a pair. -/
def anyAdjacent (tied : α → α → Bool) : List α → Bool
  | a :: b :: rest => tied a b || anyAdjacent tied (b :: rest)
  | _ => false

section Sorting

variable {lt : α → α → Bool}

theorem sortBy_perm (lt : α → α → Bool) (xs : List α) : (sortBy lt xs).Perm xs :=
  List.perm_insertionSort _ xs

/-- Sorting by a comparator of images is sorting the images. -/
theorem map_sortBy {β : Type} {f : α → β} {lt' : β → β → Bool}
    (h : ∀ a b, lt a b = lt' (f a) (f b)) (xs : List α) :
    (sortBy lt xs).map f = sortBy lt' (xs.map f) :=
  List.map_insertionSort _ _ f xs fun a _ b _ => by rw [h]

@[simp] theorem mem_sortBy {x : α} {xs : List α} : x ∈ sortBy lt xs ↔ x ∈ xs :=
  (sortBy_perm lt xs).mem_iff

@[simp] theorem length_sortBy (xs : List α) : (sortBy lt xs).length = xs.length :=
  (sortBy_perm lt xs).length_eq

/-- In a sorted list no later element is below an earlier one. -/
theorem sortBy_pairwise (h : StrictWeak lt) (xs : List α) :
    (sortBy lt xs).Pairwise fun a b => lt b a = false := by
  have hTotal : Std.Total fun a b => lt b a = false := ⟨by
    intro a b
    cases hba : lt b a with
    | false => exact .inl rfl
    | true => exact .inr (h.asymm b a hba)⟩
  have hTrans : IsTrans α fun a b => lt b a = false :=
    ⟨fun a b c hba hcb => h.negTrans c b a hcb hba⟩
  exact List.pairwise_insertionSort _ xs

/-- Comparators that agree on the elements sort alike. -/
theorem sortBy_congr {lt' : α → α → Bool} {xs : List α}
    (h : ∀ a ∈ xs, ∀ b ∈ xs, lt a b = lt' a b) : sortBy lt xs = sortBy lt' xs := by
  have hImage := List.map_insertionSort (fun a b => lt b a = false) (fun a b => lt' b a = false)
    id xs fun a ha b hb => by rw [h b hb a ha]; rfl
  rwa [List.map_id, List.map_id] at hImage

/-- Sorting a sorted list changes nothing. -/
theorem sortBy_eq_self {xs : List α} (h : xs.Pairwise fun a b => lt b a = false) :
    sortBy lt xs = xs :=
  List.Pairwise.insertionSort_eq h

/-- The linear check of neighbours says that every element is below every later
one. -/
theorem increasing_iff_pairwise (hTrans : ∀ a b c, lt a b = true → lt b c = true → lt a c = true)
    (xs : List α) : increasing lt xs = true ↔ xs.Pairwise fun a b => lt a b = true := by
  induction xs with
  | nil => simp [increasing]
  | cons a rest ih =>
      cases rest with
      | nil => simp [increasing]
      | cons b rest =>
          rw [increasing, Bool.and_eq_true, ih]
          constructor
          · rintro ⟨hab, hRest⟩
            refine List.pairwise_cons.2 ⟨?_, hRest⟩
            intro c hc
            rcases List.mem_cons.1 hc with rfl | hc
            · exact hab
            · exact hTrans a b c hab ((List.pairwise_cons.1 hRest).1 c hc)
          · intro hPairwise
            obtain ⟨hAll, hRest⟩ := List.pairwise_cons.1 hPairwise
            exact ⟨hAll b (List.mem_cons_self ..), hRest⟩

/-- A strictly increasing list is sorted. -/
theorem sortBy_of_increasing (h : StrictTotal lt) {xs : List α}
    (hInc : increasing lt xs = true) : sortBy lt xs = xs :=
  sortBy_eq_self (((increasing_iff_pairwise h.trans xs).1 hInc).imp fun hab => h.asymm hab)

/-- A sorted list in which no two neighbours are tied is strictly increasing. -/
theorem increasing_of_sorted (tied : α → α → Bool)
    (hTied : ∀ a b, lt a b = false → lt b a = false → tied a b = true) {xs : List α}
    (hSorted : xs.Pairwise fun a b => lt b a = false)
    (hNone : anyAdjacent tied xs = false) : increasing lt xs = true := by
  induction xs with
  | nil => rfl
  | cons a rest ih =>
      cases rest with
      | nil => rfl
      | cons b rest =>
          simp only [anyAdjacent, Bool.or_eq_false_iff] at hNone
          obtain ⟨hHead, hTail⟩ := List.pairwise_cons.1 hSorted
          rw [increasing, Bool.and_eq_true]
          refine ⟨?_, ih hTail hNone.2⟩
          cases hab : lt a b with
          | true => rfl
          | false =>
              have hTie := hTied a b hab (hHead b (List.mem_cons_self ..))
              rw [hNone.1] at hTie
              cases hTie

/-- A strictly increasing list has no two tied neighbours. -/
theorem anyAdjacent_of_increasing (tied : α → α → Bool)
    (hTied : ∀ a b, tied a b = true → lt a b = false) {xs : List α}
    (hInc : increasing lt xs = true) : anyAdjacent tied xs = false := by
  induction xs with
  | nil => rfl
  | cons a rest ih =>
      cases rest with
      | nil => rfl
      | cons b rest =>
          rw [increasing, Bool.and_eq_true] at hInc
          rw [anyAdjacent, ih hInc.2, Bool.or_false]
          cases hTie : tied a b with
          | false => rfl
          | true =>
              rw [hTied a b hTie] at hInc
              exact absurd hInc.1 (by simp)

/-- Sorting distinct elements by a strict total order makes them strictly
increasing. -/
theorem increasing_sortBy (h : StrictTotal lt) {xs : List α} (hNodup : xs.Nodup) :
    increasing lt (sortBy lt xs) = true := by
  have hSorted := sortBy_pairwise h.weak xs
  have hNodup' : (sortBy lt xs).Nodup := (sortBy_perm lt xs).nodup_iff.2 hNodup
  refine (increasing_iff_pairwise h.trans _).2 ?_
  refine (hSorted.and hNodup').imp ?_
  rintro a b ⟨hba, hNe⟩
  cases hab : lt a b with
  | true => rfl
  | false => exact absurd (h.eq_of_not_lt a b hab hba) hNe

/-- Permutations of a list without ties are sorted into one list. -/
theorem sortBy_eq_of_perm (h : StrictWeak lt) {xs ys : List α} (hPerm : xs.Perm ys)
    (hInc : (sortBy lt xs).Pairwise fun a b => lt a b = true) : sortBy lt xs = sortBy lt ys := by
  have hSame : (sortBy lt xs).Perm (sortBy lt ys) :=
    (sortBy_perm lt xs).trans (hPerm.trans (sortBy_perm lt ys).symm)
  refine hSame.eq_of_pairwise ?_ (sortBy_pairwise h xs) (sortBy_pairwise h ys)
  intro a b hA hB hba hab
  by_contra hNe
  have hSymm : Std.Symm fun a b => lt a b = true ∨ lt b a = true := ⟨fun _ _ => Or.symm⟩
  have hApart : (sortBy lt xs).Pairwise fun a b => lt a b = true ∨ lt b a = true :=
    hInc.imp Or.inl
  -- without ties one of the two is below the other
  rcases hApart.forall hA (hSame.mem_iff.2 hB) hNe with hBelow | hAbove
  · rw [hab] at hBelow
    cases hBelow
  · rw [hba] at hAbove
    cases hAbove

/-- Sorting by keys that are distinct makes the elements strictly increasing. -/
theorem sortBy_keys_pairwise (h : StrictTotal lt) (key : β → α) {xs : List β}
    (hNodup : (xs.map key).Nodup) :
    (sortBy (fun a b => lt (key a) (key b)) xs).Pairwise fun a b =>
      lt (key a) (key b) = true := by
  have hKeys : (sortBy (fun a b => lt (key a) (key b)) xs).map key = sortBy lt (xs.map key) :=
    List.map_insertionSort _ _ key xs fun _ _ _ _ => Iff.rfl
  have hIncreasing := (increasing_iff_pairwise h.trans _).1 (increasing_sortBy h hNodup)
  rw [← hKeys, List.pairwise_map] at hIncreasing
  exact hIncreasing

end Sorting

end FabricCapability.Verified.StrictOrder
