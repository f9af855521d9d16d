import FabricCapability.Verified.KeyedList
import FabricCapability.Verified.StrictOrder

/-!
# Tables whose new entries came in another order

Updating a keyed table appends an entry when its key is new, so the order of a table shows
the order of its updates.  Updates under different keys commute up to that order.

`Shuffled apart` relates two lists when exchanges of neighbours that are `apart` lead from
one to the other.  Updates keep the relation, and a stable sort does not see it when
elements that are apart are never tied.

## Main results

* `shuffled_updates`: the same updates in two orders.
* `sortBy_shuffled`: sorting by a comparator that tells apart what was exchanged.
-/

namespace FabricCapability.Verified.Shuffles

open FabricCapability.Verified.KeyedList
open FabricCapability.Verified.StrictOrder

variable {α κ : Type}

/-- Exchanges of neighbours that are apart lead from one list to the other. -/
inductive Shuffled (apart : α → α → Prop) : List α → List α → Prop
  | refl (xs : List α) : Shuffled apart xs xs
  | swap {a b : α} (h : apart a b) (xs : List α) : Shuffled apart (a :: b :: xs) (b :: a :: xs)
  | cons (x : α) {xs ys : List α} (h : Shuffled apart xs ys) :
      Shuffled apart (x :: xs) (x :: ys)
  | trans {xs ys zs : List α} (hFirst : Shuffled apart xs ys) (hSecond : Shuffled apart ys zs) :
      Shuffled apart xs zs

/-! ## Sorting -/

section Sorting

variable {lt : α → α → Bool}

theorem orderedInsert_comm (hOrder : StrictWeak lt) {a b : α} (h : lt a b = true) (xs : List α) :
    List.orderedInsert (fun a b => lt b a = false) a
        (List.orderedInsert (fun a b => lt b a = false) b xs) =
      List.orderedInsert (fun a b => lt b a = false) b
        (List.orderedInsert (fun a b => lt b a = false) a xs) := by
  have hNot : lt b a = false := hOrder.asymm a b h
  have hAbove : ¬lt a b = false := by rw [h]; exact nofun
  induction xs with
  | nil => simp [List.orderedInsert, hNot, h]
  | cons c xs ih =>
      by_cases hb : lt c b = false
      · have ha : lt c a = false := by
          cases hc : lt c a with
          | false => rfl
          | true => exact absurd (hOrder.negTrans c b a hb hNot) (by rw [hc]; exact nofun)
        simp only [List.orderedInsert, if_pos hb, if_pos ha, if_pos hNot, if_neg hAbove]
      · by_cases ha : lt c a = false
        · simp only [List.orderedInsert, if_neg hb, if_pos ha, if_neg hAbove]
        · simp only [List.orderedInsert, if_neg hb, if_neg ha, ih]

/-- A stable sort does not see the exchange of elements that are not tied. -/
theorem sortBy_shuffled (hOrder : StrictWeak lt) {apart : α → α → Prop}
    (hApart : ∀ a b, apart a b → lt a b = true ∨ lt b a = true) {xs ys : List α}
    (h : Shuffled apart xs ys) : sortBy lt xs = sortBy lt ys := by
  induction h with
  | refl xs => rfl
  | swap hPair xs =>
      unfold sortBy
      rw [List.insertionSort_cons, List.insertionSort_cons, List.insertionSort_cons,
        List.insertionSort_cons]
      rcases hApart _ _ hPair with hLess | hLess
      · exact orderedInsert_comm hOrder hLess _
      · exact (orderedInsert_comm hOrder hLess _).symm
  | cons x _ ih =>
      unfold sortBy at ih ⊢
      rw [List.insertionSort_cons, List.insertionSort_cons, ih]
  | trans _ _ ihFirst ihSecond => exact ihFirst.trans ihSecond

end Sorting

/-! ## Updates -/

section Updates

variable [DecidableEq κ] {key : α → κ} {apart : α → α → Prop}

/-- The table after a list of updates. -/
def updates (key : α → κ) (xs : List α) (es : List α) : List α :=
  es.foldl (fun held e => upsert key e held) xs

/-- The element may stand for any element with its key. -/
def Stands (key : α → κ) (apart : α → α → Prop) (e : α) : Prop :=
  ∀ a b, key a = key e → apart a b → apart e b

theorem shuffled_upsert (hSymm : ∀ a b, apart a b → apart b a)
    (hKeys : ∀ a b, apart a b → key a ≠ key b) {e : α} (hStands : Stands key apart e)
    {xs ys : List α} (h : Shuffled apart xs ys) :
    Shuffled apart (upsert key e xs) (upsert key e ys) := by
  induction h with
  | refl xs => exact .refl _
  | @swap a b hPair xs =>
      have hNe := hKeys a b hPair
      by_cases hA : key a = key e
      · have hB : ¬key b = key e := fun hB => hNe (hA.trans hB.symm)
        simp only [upsert, if_pos hA, if_neg hB]
        exact .swap (hStands a b hA hPair) xs
      · by_cases hB : key b = key e
        · simp only [upsert, if_neg hA, if_pos hB]
          exact .swap (hSymm _ _ (hStands b a hB (hSymm _ _ hPair))) xs
        · simp only [upsert, if_neg hA, if_neg hB]
          exact .swap hPair _
  | cons x hRest ih =>
      by_cases hX : key x = key e
      · simp only [upsert, if_pos hX]
        exact .cons e hRest
      · simp only [upsert, if_neg hX]
        exact .cons x ih
  | trans _ _ ihFirst ihSecond => exact ihFirst.trans ihSecond

/-- Two updates under different keys, in either order. -/
theorem upsert_upsert {a b : α} (hNe : key a ≠ key b) (hApart : apart b a) (xs : List α) :
    Shuffled apart (upsert key a (upsert key b xs)) (upsert key b (upsert key a xs)) := by
  induction xs with
  | nil =>
      simp only [upsert, if_neg hNe, if_neg (Ne.symm hNe)]
      exact .swap hApart []
  | cons x xs ih =>
      by_cases hA : key x = key a
      · have hB : ¬key x = key b := fun hB => hNe (hA.symm.trans hB)
        simp only [upsert, if_pos hA, if_neg hB, if_neg hNe]
        exact .refl _
      · by_cases hB : key x = key b
        · simp only [upsert, if_neg hA, if_pos hB, if_neg (Ne.symm hNe)]
          exact .refl _
        · simp only [upsert, if_neg hA, if_neg hB]
          exact .cons x ih

theorem shuffled_updates_left (hSymm : ∀ a b, apart a b → apart b a)
    (hKeys : ∀ a b, apart a b → key a ≠ key b) {es : List α}
    (hStands : ∀ e ∈ es, Stands key apart e) {xs ys : List α} (h : Shuffled apart xs ys) :
    Shuffled apart (updates key xs es) (updates key ys es) := by
  induction es generalizing xs ys with
  | nil => exact h
  | cons e es ih =>
      exact ih (fun later hMem => hStands later (List.mem_cons_of_mem _ hMem))
        (shuffled_upsert hSymm hKeys (hStands e (List.mem_cons_self ..)) h)

/-- Updates that are apart, in two orders. -/
theorem shuffled_updates (hSymm : ∀ a b, apart a b → apart b a)
    (hKeys : ∀ a b, apart a b → key a ≠ key b) {es later : List α} (hPerm : es.Perm later)
    (hApart : es.Pairwise apart) (hStands : ∀ e ∈ es, Stands key apart e) (xs : List α) :
    Shuffled apart (updates key xs es) (updates key xs later) := by
  induction hPerm generalizing xs with
  | nil => exact .refl _
  | cons e _ ih =>
      exact ih (List.pairwise_cons.1 hApart).2
        (fun other hMem => hStands other (List.mem_cons_of_mem _ hMem)) _
  | swap a b es =>
      have hPair : apart b a := (List.pairwise_cons.1 hApart).1 a (List.mem_cons_self ..)
      refine shuffled_updates_left hSymm hKeys
        (fun e hMem => hStands e (List.mem_cons_of_mem _ (List.mem_cons_of_mem _ hMem))) ?_
      exact upsert_upsert (hKeys _ _ (hSymm _ _ hPair)) hPair xs
  | trans hFirst _ ihFirst ihSecond =>
      refine (ihFirst hApart hStands xs).trans (ihSecond ?_ ?_ xs)
      · exact (hFirst.pairwise_iff fun hPair => hSymm _ _ hPair).1 hApart
      · exact fun e hMem => hStands e (hFirst.mem_iff.2 hMem)

/-- An update is found when no later one has its key. -/
theorem lookup_updates {es : List α} {e : α} (hMem : e ∈ es) (hNodup : (es.map key).Nodup)
    (xs : List α) : lookup key (key e) (updates key xs es) = some e := by
  have hKept : ∀ (es : List α) (xs : List α), key e ∉ es.map key →
      lookup key (key e) (updates key xs es) = lookup key (key e) xs := by
    intro es
    induction es with
    | nil => exact fun _ _ => rfl
    | cons later es ih =>
        intro xs hNot
        rw [List.map_cons, List.mem_cons, not_or] at hNot
        exact (ih _ hNot.2).trans (lookup_upsert_ne (Ne.symm hNot.1))
  induction es generalizing xs with
  | nil => cases hMem
  | cons first es ih =>
      rw [List.map_cons, List.nodup_cons] at hNodup
      rcases List.mem_cons.1 hMem with rfl | hMem
      · exact (hKept es _ hNodup.1).trans lookup_upsert_self
      · exact ih hMem hNodup.2 _

/-- What is not updated is found as it was. -/
theorem lookup_updates_ne {es : List α} {k : κ} (h : k ∉ es.map key) (xs : List α) :
    lookup key k (updates key xs es) = lookup key k xs := by
  induction es generalizing xs with
  | nil => rfl
  | cons e es ih =>
      rw [List.map_cons, List.mem_cons, not_or] at h
      exact (ih h.2 _).trans (lookup_upsert_ne (Ne.symm h.1))

/-- With distinct keys, the order of the updates does not matter to a lookup. -/
theorem lookup_updates_perm {es later : List α} (h : es.Perm later)
    (hNodup : (es.map key).Nodup) (xs : List α) (k : κ) :
    lookup key k (updates key xs es) = lookup key k (updates key xs later) := by
  by_cases hUpdated : k ∈ es.map key
  · obtain ⟨e, hMem, rfl⟩ := List.mem_map.1 hUpdated
    rw [lookup_updates hMem hNodup,
      lookup_updates (h.mem_iff.1 hMem) ((h.map key).nodup_iff.1 hNodup)]
  · have hLater : k ∉ later.map key := fun hMem => hUpdated ((h.map key).mem_iff.2 hMem)
    rw [lookup_updates_ne hUpdated, lookup_updates_ne hLater]

end Updates

end FabricCapability.Verified.Shuffles
