import Mathlib.Data.List.Basic
import Mathlib.Tactic.Common

/-!
# Blocks of a list

A consumer that works on blocks of a fixed size cuts its input into the blocks `blocks size`
and keeps the items `leftover size` behind the last one.  Where a piece of the input ends does
not matter: the leftover of the first piece is the front of what follows.

## Main results

* `blocks_append`, `leftover_append`: the blocks and the leftover of an input in two pieces.
* `foldl_blocks_append`: the same for a consumer that folds over the blocks.
-/

namespace FabricCapability.Verified.Blocks

variable {α σ : Type}

/-- The whole blocks at the front of a list. -/
def blocks (size : Nat) (items : List α) : List (List α) :=
  (List.range (items.length / size)).map fun i => (items.drop (size * i)).take size

/-- The items behind the last whole block. -/
def leftover (size : Nat) (items : List α) : List α :=
  items.drop (size * (items.length / size))

theorem blocks_short {size : Nat} {items : List α} (h : items.length < size) :
    blocks size items = [] := by
  rw [blocks, Nat.div_eq_of_lt h]
  rfl

theorem leftover_short {size : Nat} {items : List α} (h : items.length < size) :
    leftover size items = items := by
  rw [leftover, Nat.div_eq_of_lt h]
  rfl

theorem length_div_append {size : Nat} (hSize : 0 < size) {block items : List α}
    (h : block.length = size) :
    (block ++ items).length / size = items.length / size + 1 := by
  rw [List.length_append, h, Nat.add_comm, Nat.add_div_right _ hSize]

theorem blocks_cons {size : Nat} (hSize : 0 < size) {block items : List α}
    (h : block.length = size) : blocks size (block ++ items) = block :: blocks size items := by
  rw [blocks, length_div_append hSize h, List.range_succ_eq_map, List.map_cons, List.map_map]
  congr 1
  · rw [Nat.mul_zero, List.drop_zero, ← h, List.take_left]
  · refine List.map_congr_left fun i _ => ?_
    show ((block ++ items).drop (size * (i + 1))).take size = _
    rw [Nat.mul_succ, Nat.add_comm, ← List.drop_drop, ← h, List.drop_left]

theorem leftover_cons {size : Nat} (hSize : 0 < size) {block items : List α}
    (h : block.length = size) : leftover size (block ++ items) = leftover size items := by
  rw [leftover, length_div_append hSize h, Nat.mul_succ, Nat.add_comm, ← List.drop_drop]
  rw [← h, List.drop_left]
  rfl

theorem length_leftover {size : Nat} (hSize : 0 < size) (items : List α) :
    (leftover size items).length < size := by
  have hSplit := Nat.div_add_mod items.length size
  have hRest := Nat.mod_lt items.length hSize
  rw [leftover, List.length_drop]
  omega

/-- Cut off the first block, as long as there is one. -/
theorem exists_block {size : Nat} {items : List α} (h : size ≤ items.length) :
    ∃ block rest, items = block ++ rest ∧ block.length = size :=
  ⟨items.take size, items.drop size, (List.take_append_drop size items).symm,
    List.length_take_of_le h⟩

/-- Induction over the blocks of a list. -/
theorem block_induction {size : Nat} (hSize : 0 < size) {P : List α → Prop}
    (short : ∀ items, items.length < size → P items)
    (step : ∀ block items, block.length = size → P items → P (block ++ items))
    (items : List α) : P items := by
  generalize hLength : items.length = length
  induction length using Nat.strongRecOn generalizing items with
  | ind length ih =>
      by_cases hShort : items.length < size
      · exact short items hShort
      · obtain ⟨block, rest, rfl, hBlock⟩ := exists_block (Nat.not_lt.1 hShort)
        rw [List.length_append] at hLength
        exact step block rest hBlock (ih rest.length (by omega) rest rfl)

theorem length_of_mem_blocks {size : Nat} (hSize : 0 < size) {items block : List α}
    (h : block ∈ blocks size items) : block.length = size := by
  induction items using block_induction hSize with
  | short items hShort =>
      rw [blocks_short hShort] at h
      cases h
  | step first items hFirst ih =>
      rw [blocks_cons hSize hFirst, List.mem_cons] at h
      rcases h with rfl | h
      · exact hFirst
      · exact ih h

/-- An input in two pieces: the leftover of the first is the front of what follows. -/
theorem blocks_append {size : Nat} (hSize : 0 < size) (front back : List α) :
    blocks size (front ++ back) =
      blocks size front ++ blocks size (leftover size front ++ back) := by
  induction front using block_induction hSize with
  | short front h => rw [blocks_short h, leftover_short h, List.nil_append]
  | step block front h ih =>
      rw [List.append_assoc, blocks_cons hSize h, blocks_cons hSize h, leftover_cons hSize h, ih,
        List.cons_append]

theorem leftover_append {size : Nat} (hSize : 0 < size) (front back : List α) :
    leftover size (front ++ back) = leftover size (leftover size front ++ back) := by
  induction front using block_induction hSize with
  | short front h => rw [leftover_short h]
  | step block front h ih =>
      rw [List.append_assoc, leftover_cons hSize h, leftover_cons hSize h, ih]

/-- A consumer that folds over the blocks may be fed in pieces. -/
theorem foldl_blocks_append {size : Nat} (hSize : 0 < size) (consume : σ → List α → σ)
    (state : σ) (front back : List α) :
    (blocks size (front ++ back)).foldl consume state =
      (blocks size (leftover size front ++ back)).foldl consume
        ((blocks size front).foldl consume state) := by
  rw [blocks_append hSize, List.foldl_append]

end FabricCapability.Verified.Blocks
