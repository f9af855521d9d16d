import Mathlib.Data.List.Basic
import Mathlib.Tactic.Common

/-!
# Input that arrives in pieces

A peer sends a sequence of items over a connection; the receiver sees it in pieces whose
boundaries mean nothing.  One `recv` hands over the items at the front of the first piece,
never more than asked for and never none, and `gather` calls it until a given number of
items has been read.

The receiver cannot see the boundaries: what `gather` returns, and what it leaves, is a
function of the concatenation of the pieces.

## Main results

* `gather_enough`: as long as there are enough items, they are the first ones of the
  concatenation, and the others stay in order.
* `gather_short`: otherwise the end of the connection is reported.
-/

namespace FabricCapability.Verified.ChunkedInput

/-- A piece of the input: at least one item. -/
structure Piece (α : Type) where
  items : List α
  nonempty : items ≠ []

/-- What has arrived and is not read yet, and how the connection ends after it: closed by
the peer, or failing with an error. -/
structure Source (α ε : Type) where
  pieces : List (Piece α)
  failure : Option ε

namespace Source

variable {α ε : Type}

/-- The items in the order they were sent. -/
def items (source : Source α ε) : List α := source.pieces.flatMap Piece.items

/-- The answer of one `recv`. -/
inductive Received (α ε : Type) where
  | data (piece : Piece α)
  | closed
  | failed (error : ε)

/-- The front of a piece, when not all of it is wanted. -/
def front (piece : Piece α) (limit : Nat) (hLimit : 0 < limit) : Piece α where
  items := piece.items.take limit
  nonempty := by
    have hLength := List.length_pos_of_ne_nil piece.nonempty
    refine List.ne_nil_of_length_pos ?_
    rw [List.length_take]
    omega

/-- Read up to `limit` items. -/
def recv (source : Source α ε) (limit : Nat) (hLimit : 0 < limit) :
    Received α ε × Source α ε :=
  match source.pieces with
  | [] =>
      match source.failure with
      | none => (.closed, source)
      | some error => (.failed error, source)
  | piece :: pieces =>
      if h : limit < piece.items.length then
        let rest : Piece α :=
          ⟨piece.items.drop limit, by
            refine List.ne_nil_of_length_pos ?_
            rw [List.length_drop]
            omega⟩
        (.data (front piece limit hLimit), { source with pieces := rest :: pieces })
      else (.data piece, { source with pieces })

/-- What `recv` hands over was in front of what it leaves. -/
theorem recv_data {source source' : Source α ε} {limit : Nat} {hLimit : 0 < limit}
    {piece : Piece α} (h : source.recv limit hLimit = (.data piece, source')) :
    source.items = piece.items ++ source'.items ∧ piece.items.length ≤ limit ∧
      source'.failure = source.failure := by
  obtain ⟨pieces, failure⟩ := source
  cases pieces with
  | nil =>
      cases failure with
      | none => simp [recv] at h
      | some error => simp [recv] at h
  | cons first pieces =>
      simp only [recv] at h
      by_cases hLength : limit < first.items.length
      · rw [dif_pos hLength] at h
        obtain ⟨hPiece, rfl⟩ := Prod.mk.inj h
        obtain rfl := Received.data.inj hPiece
        refine ⟨?_, ?_, rfl⟩
        · simp only [items, List.flatMap_cons, front]
          rw [← List.append_assoc, List.take_append_drop]
        · simp only [front, List.length_take]
          omega
      · rw [dif_neg hLength] at h
        obtain ⟨hPiece, rfl⟩ := Prod.mk.inj h
        obtain rfl := Received.data.inj hPiece
        refine ⟨?_, by omega, rfl⟩
        simp only [items, List.flatMap_cons]

/-- The end of a connection: what a read reports when nothing is left. -/
def ending (source : Source α ε) : Received α ε :=
  match source.failure with
  | none => .closed
  | some error => .failed error

/-- Without pieces there is nothing but the end of the connection. -/
theorem recv_nil {source : Source α ε} (h : source.pieces = []) (limit : Nat)
    (hLimit : 0 < limit) : source.recv limit hLimit = (source.ending, source) := by
  obtain ⟨pieces, failure⟩ := source
  obtain rfl : pieces = [] := h
  cases failure <;> rfl

/-- As long as there is a piece, `recv` hands over data. -/
theorem recv_cons {source : Source α ε} (h : source.pieces ≠ []) (limit : Nat)
    (hLimit : 0 < limit) :
    ∃ piece source', source.recv limit hLimit = (.data piece, source') := by
  obtain ⟨pieces, failure⟩ := source
  cases pieces with
  | nil => exact absurd rfl h
  | cons first pieces =>
      simp only [recv]
      by_cases hLength : limit < first.items.length
      · exact ⟨_, _, dif_pos hLength⟩
      · exact ⟨_, _, dif_neg hLength⟩

theorem pieces_eq_nil {source : Source α ε} : source.pieces = [] ↔ source.items = [] := by
  obtain ⟨pieces, failure⟩ := source
  cases pieces with
  | nil => simp [items]
  | cons piece pieces => simp [items, piece.nonempty]

/-- Call `recv` until `count` items have been read, asking for at most `window` at a
time. -/
def gather (window : Nat) (hWindow : 0 < window) (count : Nat) (source : Source α ε) :
    Except (Option ε) (List α) × Source α ε :=
  if hCount : 0 < count then
    match source.recv (min count window) (by omega) with
    | (.closed, source') => (.error none, source')
    | (.failed error, source') => (.error (some error), source')
    | (.data piece, source') =>
        -- never empty, so that fewer items are missing than before
        have hPiece := List.length_pos_of_ne_nil piece.nonempty
        let (others, source'') := gather window hWindow (count - piece.items.length) source'
        (others.map (piece.items ++ ·), source'')
  else (.ok [], source)
  termination_by count

theorem gather_zero (window : Nat) (hWindow : 0 < window) (source : Source α ε) :
    source.gather window hWindow 0 = (.ok [], source) := by
  rw [gather]
  rfl

/-- One turn of the loop that reads a piece. -/
theorem gather_data {window count : Nat} {hWindow : 0 < window} {source source' : Source α ε}
    {piece : Piece α} (hCount : 0 < count)
    (h : source.recv (min count window) (by omega) = (.data piece, source')) :
    source.gather window hWindow count =
      ((source'.gather window hWindow (count - piece.items.length)).1.map (piece.items ++ ·),
        (source'.gather window hWindow (count - piece.items.length)).2) := by
  rw [gather, dif_pos hCount, h]

/-- The turn of the loop that finds the end of the connection. -/
theorem gather_nil {window count : Nat} {hWindow : 0 < window} {source : Source α ε}
    (hCount : 0 < count) (h : source.pieces = []) :
    source.gather window hWindow count = (.error source.failure, source) := by
  rw [gather, dif_pos hCount, recv_nil h, ending]
  cases source.failure <;> rfl

/-- When enough items arrive, the first ones are read, whatever the pieces. -/
theorem gather_enough {window : Nat} (hWindow : 0 < window) (count : Nat)
    (source : Source α ε) (h : count ≤ source.items.length) :
    ∃ source' : Source α ε,
      source.gather window hWindow count = (.ok (source.items.take count), source') ∧
        source'.items = source.items.drop count ∧ source'.failure = source.failure := by
  induction count using Nat.strongRecOn generalizing source with
  | ind count ih =>
      by_cases hCount : 0 < count
      · have hSome : source.pieces ≠ [] := by
          intro hNil
          rw [pieces_eq_nil.1 hNil, List.length_nil] at h
          omega
        obtain ⟨piece, middle, hRecv⟩ :=
          recv_cons hSome (min count window) (by omega)
        obtain ⟨hItems, hLimit, hFailure⟩ := recv_data hRecv
        have hPiece := List.length_pos_of_ne_nil piece.nonempty
        have hShort : piece.items.length ≤ count := by omega
        have hEnough : count - piece.items.length ≤ middle.items.length := by
          rw [hItems, List.length_append] at h
          omega
        obtain ⟨source', hRest, hLeft, hEnd⟩ := ih _ (by omega) middle hEnough
        refine ⟨source', ?_, ?_, hEnd.trans hFailure⟩
        · rw [gather_data hCount hRecv, hRest, hItems, List.take_append,
            List.take_of_length_le hShort]
          rfl
        · rw [hLeft, hItems, List.drop_append, List.drop_of_length_le hShort,
            List.nil_append]
      · obtain rfl : count = 0 := by omega
        exact ⟨source, gather_zero window hWindow source, rfl, rfl⟩

/-- When too few items arrive, all of them are read and the end is reported. -/
theorem gather_short {window : Nat} (hWindow : 0 < window) (count : Nat)
    (source : Source α ε) (h : source.items.length < count) :
    ∃ source' : Source α ε,
      source.gather window hWindow count = (.error source.failure, source') ∧
        source'.items = [] ∧ source'.failure = source.failure := by
  induction count using Nat.strongRecOn generalizing source with
  | ind count ih =>
      have hCount : 0 < count := by omega
      by_cases hNil : source.pieces = []
      · exact ⟨source, gather_nil hCount hNil, pieces_eq_nil.1 hNil, rfl⟩
      · obtain ⟨piece, middle, hRecv⟩ := recv_cons hNil (min count window) (by omega)
        obtain ⟨hItems, -, hFailure⟩ := recv_data hRecv
        have hPiece := List.length_pos_of_ne_nil piece.nonempty
        have hShort : middle.items.length < count - piece.items.length := by
          rw [hItems, List.length_append] at h
          omega
        obtain ⟨source', hRest, hLeft, hEnd⟩ := ih _ (by omega) middle hShort
        refine ⟨source', ?_, hLeft, hEnd.trans hFailure⟩
        rw [gather_data hCount hRecv, hRest, hFailure]
        rfl

end Source

end FabricCapability.Verified.ChunkedInput
