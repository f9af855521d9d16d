import FabricCapability.Verified.ByteCodec

/-!
# Canonical readers

A reader that reads back what a writer wrote may accept other bytes as well.  `Canonical`
is the converse of `Decodes`: whatever the reader accepts is the encoding of what it
returns, so nothing has two encodings and what was read can be written again byte for byte.

## Main results

* `Canonical.exact`: a field of a fixed width.
* `Canonical.readTimes`: a list whose length is known.
* `Canonical.checked`: a field that is read and then converted.
-/

namespace FabricCapability.Verified.ByteCodec

variable {ε α β : Type}

/-- A reader that fails on a condition succeeds when the condition is false. -/
theorem ite_fail_eq_ok {c : Prop} [Decidable c] {e : ε} {rd : Reader ε α} {bs : List UInt8}
    {r : α × List UInt8} : (if c then fail e else rd) bs = .ok r ↔ ¬c ∧ rd bs = .ok r := by
  by_cases h : c
  · simp [h, fail]
  · simp [h]

/-- What the reader accepts is the encoding of what it returns. -/
def Canonical (rd : Reader ε α) (enc : α → List UInt8) : Prop :=
  ∀ ⦃bs : List UInt8⦄ ⦃a : α⦄ ⦃rest : List UInt8⦄, rd bs = .ok (a, rest) → bs = enc a ++ rest

namespace Canonical

variable {rd : Reader ε α} {enc : α → List UInt8}

/-- A field of `n` bytes that is converted by an inverse of its rendering. -/
theorem exact {n : Nat} {e : ε} {conv : List UInt8 → α}
    (h : ∀ raw : List UInt8, raw.length = n → enc (conv raw) = raw) :
    Canonical (readExact n e >>= fun raw => pure (conv raw)) enc := by
  intro bs a rest hRead
  obtain ⟨raw, tail, hRaw, hPure⟩ := bind_eq_ok.1 hRead
  obtain ⟨hLength, rfl, rfl⟩ := readExact_eq_ok.1 hRaw
  cases hPure
  rw [h _ (by rw [List.length_take]; omega), List.take_append_drop]

/-- A list of `n` items is read item by item. -/
theorem readTimes (h : Canonical rd enc) {n : Nat} {bs rest : List UInt8} {as : List α}
    (hRead : ByteCodec.readTimes rd n bs = .ok (as, rest)) :
    as.length = n ∧ bs = as.flatMap enc ++ rest := by
  induction n generalizing bs as with
  | zero =>
      cases hRead
      exact ⟨rfl, rfl⟩
  | succ n ih =>
      obtain ⟨a, afterItem, hItem, hRead⟩ := bind_eq_ok.1 hRead
      obtain ⟨items, afterItems, hItems, hPure⟩ := bind_eq_ok.1 hRead
      cases hPure
      obtain ⟨hLength, hTail⟩ := ih hItems
      refine ⟨by rw [List.length_cons, hLength], ?_⟩
      rw [List.flatMap_cons, List.append_assoc, ← hTail]
      exact h hItem

/-- A field that is read and then checked or converted. -/
theorem checked {convert : α → Except ε β} {enc' : β → List UInt8} (h : Canonical rd enc)
    (hSame : ∀ a b, convert a = .ok b → enc' b = enc a) :
    Canonical (rd >>= fun a => accept (convert a)) enc' := by
  intro bs b rest hRead
  obtain ⟨a, tail, hFirst, hConvert⟩ := bind_eq_ok.1 hRead
  obtain ⟨hOk, rfl⟩ := accept_eq_ok.1 hConvert
  rw [hSame a b hOk]
  exact h hFirst

end Canonical

end FabricCapability.Verified.ByteCodec
