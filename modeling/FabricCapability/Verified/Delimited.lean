import FabricCapability.Verified.ByteCodec

/-!
# Delimited encodings

A digest identifies what it was computed from as far as the digested bytes do.  Bytes are
made by writing the fields of a record one after another, so the question is whether two
records can be written to the same bytes.

`Delimited P enc` says that they cannot, and more: in front of anything, the encodings of
two values that meet `P` agree only when the values do, and then they end at the same
place.  The second half is what lets fields be taken off one at a time.

No reader is needed for that.  Where there is one that reads the field back, the encoding is
delimited (`Delimited.of_decodes`).

## Main results

* `Delimited.comap`: a field that is written through an injective function.
* `Delimited.prefixed`: a string in front of which its length is written.
* `Delimited.counted`: a list in front of which its length is written.
-/

namespace FabricCapability.Verified

open FabricCapability.Verified.ByteCodec

variable {α β γ : Type}

/-- In front of anything, the values that meet `P` are told apart by their encodings, which
show where they end. -/
def Delimited (P : α → Prop) (enc : α → List γ) : Prop :=
  ∀ ⦃a b : α⦄, P a → P b → ∀ {r s : List γ}, enc a ++ r = enc b ++ s → a = b ∧ r = s

namespace Delimited

variable {P : α → Prop} {Q : β → Prop} {enc : α → List γ}

/-- Delimited encodings are injective. -/
theorem injective (h : Delimited P enc) {a b : α} (ha : P a) (hb : P b)
    (hEq : enc a = enc b) : a = b :=
  (h ha hb (congrArg (· ++ []) hEq)).1

/-- A field that a reader reads back. -/
theorem of_decodes {ε : Type} {enc : α → List UInt8} {rd : Reader ε α}
    (h : ∀ a, P a → Decodes rd (enc a) (some a)) : Delimited P enc := by
  intro a b ha hb r s hEq
  have hRead : rd (enc a ++ r) = .ok (a, r) := h a ha r
  rw [hEq, h b hb s, Except.ok.injEq, Prod.mk.injEq] at hRead
  exact ⟨hRead.1.symm, hRead.2.symm⟩

/-- A field that is written through a function that keeps its values apart. -/
theorem comap {f : β → α} (h : Delimited P enc) (hInto : ∀ b, Q b → P (f b))
    (hInj : ∀ a b, Q a → Q b → f a = f b → a = b) : Delimited Q fun b => enc (f b) := by
  intro a b ha hb r s hEq
  obtain ⟨hSame, hRest⟩ := h (hInto a ha) (hInto b hb) hEq
  exact ⟨hInj a b ha hb hSame, hRest⟩

/-- Two lists of one length, written item by item. -/
theorem items (h : Delimited P enc) {xs ys : List α} (hLength : xs.length = ys.length)
    (hxs : ∀ x ∈ xs, P x) (hys : ∀ y ∈ ys, P y) {r s : List γ}
    (hEq : xs.flatMap enc ++ r = ys.flatMap enc ++ s) : xs = ys ∧ r = s := by
  induction xs generalizing ys with
  | nil =>
      obtain rfl := List.length_eq_zero_iff.1 hLength.symm
      exact ⟨rfl, hEq⟩
  | cons x xs ih =>
      cases ys with
      | nil => cases hLength
      | cons y ys =>
          rw [List.flatMap_cons, List.flatMap_cons, List.append_assoc, List.append_assoc] at hEq
          obtain ⟨rfl, hTail⟩ := h (hxs x (List.mem_cons_self ..))
            (hys y (List.mem_cons_self ..)) hEq
          obtain ⟨rfl, hRest⟩ := ih (Nat.succ.inj hLength)
            (fun z hz => hxs z (List.mem_cons_of_mem _ hz))
            (fun z hz => hys z (List.mem_cons_of_mem _ hz)) hTail
          exact ⟨rfl, hRest⟩

variable {N : Nat → Prop} {size : Nat → List γ}

/-- A list in front of which its length is written. -/
theorem counted (hSize : Delimited N size) (h : Delimited P enc) :
    Delimited (fun xs : List α => N xs.length ∧ ∀ x ∈ xs, P x)
      fun xs => size xs.length ++ xs.flatMap enc := by
  intro xs ys hxs hys r s hEq
  rw [List.append_assoc, List.append_assoc] at hEq
  obtain ⟨hLength, hItems⟩ := hSize hxs.1 hys.1 hEq
  exact h.items hLength hxs.2 hys.2 hItems

/-- A string in front of which its length is written. -/
theorem prefixed (hSize : Delimited N size) :
    Delimited (fun text : List γ => N text.length) fun text => size text.length ++ text := by
  intro a b ha hb r s hEq
  rw [List.append_assoc, List.append_assoc] at hEq
  obtain ⟨hLength, hText⟩ := hSize ha hb hEq
  exact List.append_inj hText hLength

end Delimited

end FabricCapability.Verified
