import FabricCapability.Verified.ByteCodec

/-!
# Sizes of written records

How many bytes a writer writes when it succeeds.  The size of a record is the sum of the
sizes of its fields, so that a bound on a payload is a bound on a sum.
-/

namespace FabricCapability.Verified.ByteCodec

section Sized

variable {ε α : Type} {field : Except ε (List UInt8)} {fields : List (Except ε (List UInt8))}

/-- The writer succeeds, with `n` bytes. -/
def Sized (written : Except ε (List UInt8)) (n : Nat) : Prop :=
  ∃ bs, written = .ok bs ∧ bs.length = n

namespace Sized

theorem ok {bs : List UInt8} {n : Nat} (h : bs.length = n) :
    Sized (.ok bs : Except ε (List UInt8)) n :=
  ⟨bs, rfl, h⟩

theorem done : Sized (emit [] : Except ε (List UInt8)) 0 := ok rfl

theorem cons {n m : Nat} (hField : Sized field n) (hFields : Sized (emit fields) m) :
    Sized (emit (field :: fields)) (n + m) := by
  obtain ⟨bs, hField, rfl⟩ := hField
  obtain ⟨bs', hFields, rfl⟩ := hFields
  exact ⟨bs ++ bs', emit_cons_eq_ok.2 ⟨bs, bs', hField, hFields, rfl⟩, List.length_append⟩

/-- A list of records takes what its records take. -/
theorem map {write : α → Except ε (List UInt8)} {size : α → Nat} {xs : List α}
    (h : ∀ x ∈ xs, Sized (write x) (size x)) :
    Sized (emit (xs.map write)) (xs.map size).sum := by
  induction xs with
  | nil => exact done
  | cons x xs ih =>
      rw [List.map_cons, List.map_cons, List.sum_cons]
      exact cons (h x (List.mem_cons_self ..))
        (ih fun y hMem => h y (List.mem_cons_of_mem _ hMem))

/-- The bytes that were written have the size that was announced. -/
theorem length_eq {n : Nat} {bs : List UInt8} (h : Sized field n) (hField : field = .ok bs) :
    bs.length = n := by
  obtain ⟨bs', hEq, rfl⟩ := h
  rw [hField] at hEq
  cases hEq
  rfl

end Sized

end Sized

end FabricCapability.Verified.ByteCodec
