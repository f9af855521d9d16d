import Mathlib.Algebra.GroupWithZero.Nat
import Mathlib.Data.List.Nodup
import Mathlib.Data.List.Perm.Basic

/-!
# Lists as keyed tables

A list whose elements carry a key stands for a table: `lookup` finds the first
element with a key and `upsert` replaces it, or appends when the key is new.  The
lemmas say how the two interact, what `upsert` does to the list of keys, and which
elements it keeps.

`mapAccum` is the loop that visits every element once, may rewrite it, and threads a
state through the visits.
-/

namespace FabricCapability.Verified.KeyedList

variable {α β κ σ : Type} [DecidableEq κ]

/-! ## Lookup and update -/

/-- The first element with the given key. -/
def lookup (key : α → κ) (k : κ) (xs : List α) : Option α :=
  xs.find? fun a => key a = k

/-- Replace the first element that has the key of `a`, or append `a`. -/
def upsert (key : α → κ) (a : α) : List α → List α
  | [] => [a]
  | x :: xs => if key x = key a then a :: xs else x :: upsert key a xs

section Lemmas

variable {key : α → κ} {a b : α} {k : κ} {xs : List α}

theorem lookup_key (h : lookup key k xs = some a) : key a = k := by
  simpa using List.find?_some h

theorem lookup_mem (h : lookup key k xs = some a) : a ∈ xs :=
  List.mem_of_find?_eq_some h

theorem lookup_eq_none : lookup key k xs = none ↔ k ∉ xs.map key := by
  simp [lookup, List.find?_eq_none, List.mem_map]

theorem lookup_isSome : (lookup key k xs).isSome = true ↔ k ∈ xs.map key := by
  rw [← Option.ne_none_iff_isSome, ne_eq, lookup_eq_none, Decidable.not_not]

theorem lookup_cons {x : α} :
    lookup key k (x :: xs) = if key x = k then some x else lookup key k xs := by
  rw [lookup, List.find?_cons]
  by_cases h : key x = k <;> simp [h, lookup]

theorem lookup_upsert_self : lookup key (key a) (upsert key a xs) = some a := by
  induction xs with
  | nil => simp [upsert, lookup]
  | cons x xs ih =>
      rw [upsert]
      by_cases h : key x = key a
      · rw [if_pos h, lookup_cons, if_pos rfl]
      · rw [if_neg h, lookup_cons, if_neg h, ih]

theorem lookup_upsert_ne (h : key a ≠ k) : lookup key k (upsert key a xs) = lookup key k xs := by
  induction xs with
  | nil => simp [upsert, lookup, h]
  | cons x xs ih =>
      rw [upsert]
      by_cases hx : key x = key a
      · rw [if_pos hx, lookup_cons, lookup_cons, if_neg h, if_neg (hx ▸ h)]
      · rw [if_neg hx, lookup_cons, lookup_cons, ih]

/-- The keys after an update: unchanged, or one more at the end. -/
theorem map_key_upsert :
    (upsert key a xs).map key =
      if key a ∈ xs.map key then xs.map key else xs.map key ++ [key a] := by
  induction xs with
  | nil => simp [upsert]
  | cons x xs ih =>
      rw [upsert]
      by_cases h : key x = key a
      · simp [h]
      · rw [if_neg h, List.map_cons, ih]
        have hNe : key a ≠ key x := Ne.symm h
        by_cases hMem : key a ∈ xs.map key
        · rw [if_pos hMem, if_pos (by simp [List.mem_map.1 hMem])]
          rfl
        · rw [if_neg hMem, if_neg (by simpa [hNe] using hMem)]
          rfl

theorem nodup_upsert (h : (xs.map key).Nodup) : ((upsert key a xs).map key).Nodup := by
  rw [map_key_upsert]
  split
  · exact h
  · rename_i hNew
    exact List.nodup_append.2 ⟨h, List.nodup_singleton _, by
      rintro x hx y hy rfl
      rw [List.mem_singleton.1 hy] at hx
      exact hNew hx⟩

/-- Every element of an updated table is the new one or an old one. -/
theorem mem_upsert (h : b ∈ upsert key a xs) : b = a ∨ b ∈ xs := by
  induction xs with
  | nil => exact .inl (List.mem_singleton.1 h)
  | cons x xs ih =>
      rw [upsert] at h
      split at h
      · rcases List.mem_cons.1 h with rfl | h
        · exact .inl rfl
        · exact .inr (List.mem_cons_of_mem _ h)
      · rcases List.mem_cons.1 h with rfl | h
        · exact .inr (List.mem_cons_self ..)
        · rcases ih h with rfl | h
          · exact .inl rfl
          · exact .inr (List.mem_cons_of_mem _ h)

theorem mem_upsert_self : a ∈ upsert key a xs := by
  have hFound : lookup key (key a) (upsert key a xs) = some a := lookup_upsert_self
  exact lookup_mem hFound

/-- Old elements with another key stay. -/
theorem mem_upsert_of_ne (hMem : b ∈ xs) (hKey : key b ≠ key a) : b ∈ upsert key a xs := by
  induction xs with
  | nil => cases hMem
  | cons x xs ih =>
      rw [upsert]
      rcases List.mem_cons.1 hMem with rfl | hMem
      · rw [if_neg hKey]
        exact List.mem_cons_self ..
      · split
        · exact List.mem_cons_of_mem _ hMem
        · exact List.mem_cons_of_mem _ (ih hMem)

/-- With distinct keys, an element is the one its key finds. -/
theorem lookup_of_mem (hNodup : (xs.map key).Nodup) (hMem : a ∈ xs) :
    lookup key (key a) xs = some a := by
  induction xs with
  | nil => cases hMem
  | cons x xs ih =>
      rw [List.map_cons, List.nodup_cons] at hNodup
      rw [lookup_cons]
      rcases List.mem_cons.1 hMem with rfl | hMem
      · rw [if_pos rfl]
      · rw [if_neg, ih hNodup.2 hMem]
        intro hEq
        exact hNodup.1 (hEq ▸ List.mem_map_of_mem hMem)

/-- With distinct keys, the order of a table does not matter to a lookup. -/
theorem lookup_perm {ys : List α} (hNodup : (xs.map key).Nodup) (h : xs.Perm ys) :
    lookup key k xs = lookup key k ys := by
  cases hFound : lookup key k xs with
  | none =>
      rw [lookup_eq_none] at hFound
      exact (lookup_eq_none.2 fun hMem => hFound ((h.map key).mem_iff.2 hMem)).symm
  | some a =>
      have hLater : lookup key (key a) ys = some a :=
        lookup_of_mem ((h.map key).nodup_iff.1 hNodup) (h.mem_iff.1 (lookup_mem hFound))
      rw [lookup_key hFound] at hLater
      exact hLater.symm

/-- A rewriting of the elements that keeps the keys. -/
theorem lookup_map {f : α → α} (hKey : ∀ x, key (f x) = key x) :
    lookup key k (xs.map f) = (lookup key k xs).map f := by
  induction xs with
  | nil => rfl
  | cons x xs ih =>
      rw [List.map_cons, lookup_cons, lookup_cons, hKey, ih]
      split <;> rfl

/-- A lookup in an image of the elements under their keys. -/
theorem lookup_image {β : Type} {f : α → β} {key' : β → κ}
    (hKey : ∀ x ∈ xs, key' (f x) = key x) :
    lookup key' k (xs.map f) = (lookup key k xs).map f := by
  induction xs with
  | nil => rfl
  | cons x xs ih =>
      have hHere : key' (f x) = key x := hKey x (List.mem_cons_self ..)
      rw [List.map_cons, lookup_cons, lookup_cons, hHere,
        ih fun y hMem => hKey y (List.mem_cons_of_mem _ hMem)]
      split <;> rfl

/-- Elements under other keys do not matter to a lookup. -/
theorem lookup_filter {p : α → Bool} (hKeep : ∀ x ∈ xs, key x = k → p x = true) :
    lookup key k (xs.filter p) = lookup key k xs := by
  induction xs with
  | nil => rfl
  | cons x xs ih =>
      have hRest := ih fun y hMem => hKeep y (List.mem_cons_of_mem _ hMem)
      rw [List.filter_cons, lookup_cons]
      split
      · rw [lookup_cons, hRest]
      · rename_i hDropped
        rw [if_neg fun hKey => hDropped (hKeep x (List.mem_cons_self ..) hKey), hRest]

/-- Writing back the element that was found changes nothing. -/
theorem upsert_lookup (h : lookup key k xs = some a) : upsert key a xs = xs := by
  induction xs with
  | nil => simp [lookup] at h
  | cons x xs ih =>
      have hKey := lookup_key h
      rw [lookup_cons] at h
      rw [upsert]
      split at h
      · rename_i hx
        cases h
        rw [if_pos rfl]
      · rename_i hx
        rw [if_neg (hKey ▸ hx), ih h]

/-- A new element at the end is found when its key is new. -/
theorem lookup_append_right {ys : List α} (h : lookup key k xs = none) :
    lookup key k (xs ++ ys) = lookup key k ys := by
  rw [lookup, List.find?_append]
  rw [lookup] at h
  rw [h, Option.none_or, lookup]

/-- With a key that is missing, `upsert` appends. -/
theorem upsert_of_missing (h : lookup key (key a) xs = none) : upsert key a xs = xs ++ [a] := by
  induction xs with
  | nil => rfl
  | cons x xs ih =>
      rw [lookup_cons] at h
      split at h
      · cases h
      · rename_i hx
        rw [upsert, if_neg hx, ih h, List.cons_append]

/-- An update replaces the element behind others that do not have its key. -/
theorem upsert_append {x : α} {ys : List α} (hMissing : key a ∉ xs.map key)
    (hKey : key x = key a) : upsert key a (xs ++ x :: ys) = xs ++ a :: ys := by
  induction xs with
  | nil => rw [List.nil_append, upsert, if_pos hKey, List.nil_append]
  | cons y xs ih =>
      rw [List.map_cons, List.mem_cons, not_or] at hMissing
      rw [List.cons_append, upsert, if_neg (Ne.symm hMissing.1), ih hMissing.2,
        List.cons_append]

/-- What an update adds to the image of the element it replaces, it adds to the image of
the table. -/
theorem flatMap_upsert_perm {γ : Type} {F : α → List γ} {added : List γ}
    (h : lookup key (key a) xs = some b) (hF : (F a).Perm (F b ++ added)) :
    ((upsert key a xs).flatMap F).Perm (xs.flatMap F ++ added) := by
  induction xs with
  | nil => cases h
  | cons x xs ih =>
      rw [lookup_cons] at h
      rw [upsert]
      split at h
      · rename_i hx
        cases h
        rw [if_pos hx, List.flatMap_cons, List.flatMap_cons, List.append_assoc]
        exact (hF.append_right _).trans (by
          rw [List.append_assoc]
          exact List.perm_append_comm.append_left _)
      · rename_i hx
        rw [if_neg hx, List.flatMap_cons, List.flatMap_cons, List.append_assoc]
        exact (ih h).append_left _

/-- What an update does is not seen under the other keys. -/
theorem filter_upsert {p : κ → Bool} (h : p (key a) = false) :
    (upsert key a xs).filter (fun x => p (key x)) = xs.filter fun x => p (key x) := by
  induction xs with
  | nil => rw [upsert, List.filter_cons, h]; rfl
  | cons x xs ih =>
      rw [upsert]
      by_cases hx : key x = key a
      · rw [if_pos hx, List.filter_cons, List.filter_cons, h, hx, h]
        rfl
      · rw [if_neg hx, List.filter_cons, List.filter_cons, ih]

/-- Replacing what is found under a key by something with the same image. -/
theorem map_upsert {γ : Type} {f : α → γ} (hFound : lookup key (key b) xs = some a)
    (h : f b = f a) : (upsert key b xs).map f = xs.map f := by
  induction xs with
  | nil => rw [lookup] at hFound; cases hFound
  | cons x xs ih =>
      rw [lookup_cons] at hFound
      rw [upsert]
      split at hFound
      · rename_i hx
        cases hFound
        rw [if_pos hx, List.map_cons, List.map_cons, h]
      · rename_i hx
        rw [if_neg hx, List.map_cons, List.map_cons, ih hFound]

/-- An update, seen through an image that shows the keys. -/
theorem upsert_image {β : Type} {f : α → β} {key' : β → κ} (hKey : ∀ x, key' (f x) = key x) :
    (upsert key a xs).map f = upsert key' (f a) (xs.map f) := by
  induction xs with
  | nil => rfl
  | cons x xs ih =>
      rw [upsert, List.map_cons, upsert, hKey, hKey]
      split
      · rfl
      · rw [List.map_cons, ih]

theorem length_upsert_le : (upsert key a xs).length ≤ xs.length + 1 := by
  have hKeys := congrArg List.length (@map_key_upsert _ _ _ key a xs)
  rw [List.length_map] at hKeys
  rw [hKeys]
  split
  · rw [List.length_map]
    exact Nat.le_succ _
  · simp

/-- What an update adds to a sum over the table is the difference of the two elements. -/
theorem sum_upsert {f : α → Nat} (hFound : lookup key (key b) xs = some a) :
    ((upsert key b xs).map f).sum + f a = (xs.map f).sum + f b := by
  induction xs with
  | nil => cases hFound
  | cons x xs ih =>
      rw [lookup_cons] at hFound
      rw [upsert]
      split at hFound
      · rename_i hx
        cases hFound
        rw [if_pos hx, List.map_cons, List.map_cons, List.sum_cons, List.sum_cons]
        omega
      · rename_i hx
        have hRest := ih hFound
        rw [if_neg hx, List.map_cons, List.map_cons, List.sum_cons, List.sum_cons]
        omega

theorem length_upsert_of_mem (h : key a ∈ xs.map key) :
    (upsert key a xs).length = xs.length := by
  have hMap : (upsert key a xs).map key = xs.map key := by rw [map_key_upsert, if_pos h]
  simpa using congrArg List.length hMap

end Lemmas

/-! ## Loops that rewrite every element -/

/-- Visit the elements from left to right, rewriting each and threading a state. -/
def mapAccum (f : σ → α → σ × β) : σ → List α → σ × List β
  | s, [] => (s, [])
  | s, x :: xs =>
      let (s', y) := f s x
      let (s'', ys) := mapAccum f s' xs
      (s'', y :: ys)

section MapAccum

variable {f : σ → α → σ × β} {s : σ} {xs : List α}

/-- A key that the body keeps of the elements is kept by the loop. -/
theorem map_mapAccum_of_mem {γ : Type} (key : α → γ) (key' : β → γ)
    (hKey : ∀ s, ∀ x ∈ xs, key' (f s x).2 = key x) :
    (mapAccum f s xs).2.map key' = xs.map key := by
  induction xs generalizing s with
  | nil => rfl
  | cons x xs ih =>
      have hHere : key' (f s x).2 = key x := hKey s x (List.mem_cons_self ..)
      have hRest := @ih (f s x).1 fun t y hMem => hKey t y (List.mem_cons_of_mem _ hMem)
      rw [mapAccum]
      exact List.cons_eq_cons.2 ⟨hHere, hRest⟩

theorem map_mapAccum {γ : Type} (key : α → γ) (key' : β → γ)
    (hKey : ∀ s x, key' (f s x).2 = key x) :
    (mapAccum f s xs).2.map key' = xs.map key :=
  map_mapAccum_of_mem key key' fun s x _ => hKey s x

/-- A loop that keeps the keys rewrites the element found under a key, at some state. -/
theorem lookup_mapAccum {key : α → κ} {key' : β → κ} {k : κ} {x : α}
    (hKey : ∀ s x, key' (f s x).2 = key x) (h : lookup key k xs = some x) :
    ∃ t, lookup key' k (mapAccum f s xs).2 = some (f t x).2 := by
  induction xs generalizing s with
  | nil => cases h
  | cons y xs ih =>
      rw [lookup_cons] at h
      simp only [mapAccum, lookup_cons, hKey]
      split at h
      · rename_i hHere
        cases h
        exact ⟨s, by rw [if_pos hHere]⟩
      · rename_i hHere
        obtain ⟨t, ht⟩ := ih (s := (f s y).1) h
        exact ⟨t, by rw [if_neg hHere, ht]⟩

/-- Every result of the loop is a result of its body at some state. -/
theorem mem_mapAccum {y : β} (h : y ∈ (mapAccum f s xs).2) :
    ∃ t, ∃ x ∈ xs, y = (f t x).2 := by
  induction xs generalizing s with
  | nil => cases h
  | cons x xs ih =>
      rcases List.mem_cons.1 h with rfl | h
      · exact ⟨s, x, List.mem_cons_self .., rfl⟩
      · obtain ⟨t, x', hMem, hEq⟩ := ih h
        exact ⟨t, x', List.mem_cons_of_mem _ hMem, hEq⟩

/-- The image of the results, when each is the image of its element whatever the state. -/
theorem flatMap_mapAccum_perm {γ : Type} {F : β → List γ} {G : α → List γ}
    (h : ∀ s, ∀ x ∈ xs, (F (f s x).2).Perm (G x)) :
    ((mapAccum f s xs).2.flatMap F).Perm (xs.flatMap G) := by
  induction xs generalizing s with
  | nil => exact List.Perm.refl _
  | cons x xs ih =>
      simp only [mapAccum, List.flatMap_cons]
      exact (h s x (List.mem_cons_self ..)).append
        (ih fun t y hy => h t y (List.mem_cons_of_mem _ hy))

/-- The rule of the loop: what the body preserves of the state together with the
elements visited and those still to come, the loop preserves. -/
theorem mapAccum_induction {P : σ → List β → List α → Prop} (hInit : P s [] xs)
    (hStep : ∀ s done x rest, P s done (x :: rest) → P (f s x).1 (done ++ [(f s x).2]) rest) :
    P (mapAccum f s xs).1 (mapAccum f s xs).2 [] := by
  have general : ∀ (xs : List α) (done : List β) (s : σ), P s done xs →
      P (mapAccum f s xs).1 (done ++ (mapAccum f s xs).2) [] := by
    intro xs
    induction xs with
    | nil =>
        intro done s h
        simpa [mapAccum] using h
    | cons x xs ih =>
        intro done s h
        have hRest := ih (done ++ [(f s x).2]) (f s x).1 (hStep s done x xs h)
        simpa [mapAccum] using hRest
  simpa using general xs [] s hInit

/-- A loop whose results show that its body rewrote nothing. -/
theorem mapAccum_fixed {f : σ → α → σ × α} {P : α → Prop}
    (hFixed : ∀ s x, P (f s x).2 → (f s x).2 = x) (h : ∀ y ∈ (mapAccum f s xs).2, P y) :
    (mapAccum f s xs).2 = xs := by
  induction xs generalizing s with
  | nil => rfl
  | cons x xs ih =>
      have hHere : (f s x).2 = x := hFixed s x (h _ (List.mem_cons_self ..))
      have hRest : (mapAccum f (f s x).1 xs).2 = xs :=
        ih fun y hy => h y (List.mem_cons_of_mem _ hy)
      rw [mapAccum]
      exact List.cons_eq_cons.2 ⟨hHere, hRest⟩

end MapAccum

end FabricCapability.Verified.KeyedList
