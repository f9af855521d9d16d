import Mathlib.Logic.Function.Iterate
import Mathlib.Tactic.Common

/-!
# Reflected cyclic redundancy checks

A reflected CRC of width `w` shifts its state to the right and adds the polynomial whenever the
bit that falls out is set.  The shift is linear in exclusive or, and it is injective when the
top bit of the polynomial is set; so what comes after a change cannot undo it.

A change of at most `w` bits in consecutive bytes changes the state: the bytes of such a burst
act like their word added to the state before them.

## Main results

* `feed_injective`: different states stay different under the same bytes.
* `burst_detected`: two messages that differ in a burst of at most `w` bits differ in their
  checks.
-/

namespace FabricCapability.Verified.Crc

variable {w : Nat} {poly : BitVec w}

/-- One bit of the check. -/
def shift (poly x : BitVec w) : BitVec w :=
  if x.getLsbD 0 then x >>> 1 ^^^ poly else x >>> 1

/-- One byte. -/
def feedByte (poly state : BitVec w) (byte : UInt8) : BitVec w :=
  (shift poly)^[8] (state ^^^ byte.toBitVec.setWidth w)

def feed (poly state : BitVec w) (bytes : List UInt8) : BitVec w :=
  bytes.foldl (feedByte poly) state

/-! ## Linearity -/

theorem xor_cancel (x y : BitVec w) : x ^^^ poly ^^^ (y ^^^ poly) = x ^^^ y := by
  rw [BitVec.xor_assoc, ← BitVec.xor_assoc poly, BitVec.xor_comm poly, BitVec.xor_assoc,
    BitVec.xor_self, BitVec.xor_zero]

theorem shift_xor (x y : BitVec w) : shift poly (x ^^^ y) = shift poly x ^^^ shift poly y := by
  unfold shift
  rw [BitVec.getLsbD_xor, BitVec.ushiftRight_xor_distrib]
  cases x.getLsbD 0 <;> cases y.getLsbD 0
  · rfl
  · show x >>> 1 ^^^ y >>> 1 ^^^ poly = x >>> 1 ^^^ (y >>> 1 ^^^ poly)
    rw [BitVec.xor_assoc]
  · show x >>> 1 ^^^ y >>> 1 ^^^ poly = x >>> 1 ^^^ poly ^^^ y >>> 1
    rw [BitVec.xor_assoc, BitVec.xor_assoc, BitVec.xor_comm poly]
  · exact (xor_cancel _ _).symm

theorem shifts_xor (count : Nat) (x y : BitVec w) :
    (shift poly)^[count] (x ^^^ y) = (shift poly)^[count] x ^^^ (shift poly)^[count] y := by
  induction count generalizing x y with
  | zero => rfl
  | succ count ih => simp only [Function.iterate_succ_apply, shift_xor, ih]

/-! ## Injectivity -/

/-- The bit that falls out comes back as the top bit. -/
theorem shift_eq_zero (hTop : poly.msb = true) {x : BitVec w} (h : shift poly x = 0#w) :
    x = 0#w := by
  unfold shift at h
  cases hBit : x.getLsbD 0 with
  | true =>
      rw [hBit, if_pos rfl] at h
      have hMsb := congrArg BitVec.msb h
      rw [BitVec.msb_xor, hTop, BitVec.msb_zero, BitVec.msb_ushiftRight] at hMsb
      simp at hMsb
  | false =>
      rw [hBit, if_neg nofun] at h
      apply BitVec.eq_of_getLsbD_eq
      intro i hi
      rw [BitVec.getLsbD_zero]
      cases i with
      | zero => exact hBit
      | succ i =>
          have hNext := congrArg (fun v => BitVec.getLsbD v i) h
          simpa [BitVec.getLsbD_ushiftRight, Nat.add_comm] using hNext

theorem shift_injective (hTop : poly.msb = true) : Function.Injective (shift poly) := by
  intro x y h
  have hZero : shift poly (x ^^^ y) = 0#w := by rw [shift_xor, h, BitVec.xor_self]
  exact BitVec.xor_eq_zero_iff.1 (shift_eq_zero hTop hZero)

theorem shifts_injective (hTop : poly.msb = true) (count : Nat) :
    Function.Injective (shift poly)^[count] := (shift_injective hTop).iterate count

theorem feedByte_injective (hTop : poly.msb = true) {x y : BitVec w} {byte : UInt8}
    (h : feedByte poly x byte = feedByte poly y byte) : x = y := by
  have hSame := shifts_injective hTop 8 h
  exact (BitVec.xor_left_inj _).1 hSame

theorem feed_append (state : BitVec w) (front back : List UInt8) :
    feed poly state (front ++ back) = feed poly (feed poly state front) back :=
  List.foldl_append

theorem feed_cons (state : BitVec w) (byte : UInt8) (bytes : List UInt8) :
    feed poly state (byte :: bytes) = feed poly (feedByte poly state byte) bytes :=
  List.foldl_cons ..

/-- Different states stay different. -/
theorem feed_injective (hTop : poly.msb = true) {x y : BitVec w} {bytes : List UInt8}
    (h : feed poly x bytes = feed poly y bytes) : x = y := by
  induction bytes generalizing x y with
  | nil => exact h
  | cons byte bytes ih =>
      rw [feed_cons, feed_cons] at h
      exact feedByte_injective hTop (ih h)

/-! ## Bursts -/

/-- A state whose low bits are clear is only moved down. -/
theorem shifts_clear {x : BitVec w} {count : Nat} (h : ∀ i < count, x.getLsbD i = false) :
    (shift poly)^[count] x = x >>> count := by
  induction count with
  | zero => rw [Function.iterate_zero, id_eq, BitVec.ushiftRight_zero]
  | succ count ih =>
      have hBit : (x >>> count).getLsbD 0 = false := by
        rw [BitVec.getLsbD_ushiftRight, Nat.add_zero]
        exact h count (Nat.lt_succ_self count)
      rw [Function.iterate_succ_apply', ih fun i hi => h i (Nat.lt_succ_of_lt hi), shift, hBit,
        if_neg nofun, BitVec.shiftRight_add]

/-- The word of a burst, its first byte lowest. -/
def window (w : Nat) : List UInt8 → BitVec w
  | [] => 0#w
  | byte :: bytes => byte.toBitVec.setWidth w ^^^ window w bytes <<< 8

theorem window_high {bytes : List UInt8} {i : Nat} (h : 8 * bytes.length ≤ i) :
    (window w bytes).getLsbD i = false := by
  induction bytes generalizing i with
  | nil => exact BitVec.getLsbD_zero
  | cons byte bytes ih =>
      rw [List.length_cons] at h
      have hByte : byte.toBitVec.getLsbD i = false := BitVec.getLsbD_of_ge _ _ (by omega)
      have hRest : (window w bytes).getLsbD (i - 8) = false := ih (by omega)
      rw [window, BitVec.getLsbD_xor, BitVec.getLsbD_setWidth, BitVec.getLsbD_shiftLeft, hByte,
        hRest, Bool.and_false, Bool.and_false, Bool.false_xor]

/-- Eight shifts undo the place of the bytes behind the first one. -/
theorem shifts_window {bytes : List UInt8} (h : 8 * (bytes.length + 1) ≤ w) :
    (shift poly)^[8] (window w bytes <<< 8) = window w bytes := by
  have hClear : ∀ i < 8, (window w bytes <<< 8).getLsbD i = false := by
    intro i hi
    simp [BitVec.getLsbD_shiftLeft, hi]
  rw [shifts_clear hClear]
  apply BitVec.eq_of_getLsbD_eq
  intro i hi
  rw [BitVec.getLsbD_ushiftRight, BitVec.getLsbD_shiftLeft]
  by_cases hInside : 8 + i < w
  · simp [hInside]
  · simp [hInside, @window_high w bytes i (by omega)]

theorem feed_window {state : BitVec w} {bytes : List UInt8} (h : 8 * bytes.length ≤ w) :
    feed poly state bytes = (shift poly)^[8 * bytes.length] (state ^^^ window w bytes) := by
  induction bytes generalizing state with
  | nil => exact (BitVec.xor_zero).symm
  | cons byte bytes ih =>
      rw [List.length_cons] at h
      have hPlace := @shifts_window w poly bytes h
      have hFirst : feedByte poly state byte ^^^ window w bytes =
          (shift poly)^[8] (state ^^^ window w (byte :: bytes)) := by
        rw [window, ← BitVec.xor_assoc, shifts_xor 8 (state ^^^ _), hPlace]
        rfl
      rw [feed_cons, ih (by omega), hFirst, ← Function.iterate_add_apply, List.length_cons,
        Nat.mul_succ]

theorem window_injective {front back : List UInt8} (hLength : front.length = back.length)
    (hWidth : 8 * front.length ≤ w) (h : window w front = window w back) : front = back := by
  induction front generalizing back with
  | nil => exact (List.length_eq_zero_iff.1 hLength.symm).symm
  | cons a front ih =>
      cases back with
      | nil => cases hLength
      | cons b back =>
          rw [List.length_cons] at hWidth
          have hLengths : front.length = back.length := Nat.succ.inj hLength
          have hBits (i : Nat) := congrArg (fun v => BitVec.getLsbD v i) h
          simp only [window, BitVec.getLsbD_xor, BitVec.getLsbD_setWidth,
            BitVec.getLsbD_shiftLeft] at hBits
          have hFirst : a = b := by
            apply UInt8.toBitVec_inj.1
            apply BitVec.eq_of_getLsbD_eq
            intro i hi
            have hInside : i < w := by omega
            simpa [hi, hInside] using hBits i
          subst hFirst
          have hRest : window w front = window w back := by
            apply BitVec.eq_of_getLsbD_eq
            intro i hi
            by_cases hInside : i + 8 < w
            · have hNotLow : ¬i + 8 < 8 := by omega
              simpa [hInside, hNotLow] using hBits (i + 8)
            · rw [window_high (by omega), window_high (by omega)]
          rw [ih hLengths (by omega) hRest]

/--
**Burst detection**: messages that differ only in a burst of at most `w` bits of consecutive
bytes have different checks.
-/
theorem burst_detected (hTop : poly.msb = true) {state : BitVec w}
    {front burst changed back : List UInt8} (hLength : burst.length = changed.length)
    (hWidth : 8 * burst.length ≤ w)
    (h : feed poly state (front ++ burst ++ back) = feed poly state (front ++ changed ++ back)) :
    burst = changed := by
  rw [feed_append, feed_append state (front ++ changed)] at h
  have hStates := feed_injective hTop h
  have hChanged : 8 * changed.length ≤ w := by
    rw [← hLength]
    exact hWidth
  rw [feed_append, feed_append] at hStates
  generalize feed poly state front = before at hStates
  rw [feed_window hWidth, feed_window hChanged, ← hLength] at hStates
  have hWords := shifts_injective hTop _ hStates
  exact window_injective hLength hWidth ((BitVec.xor_right_inj _).1 hWords)

end FabricCapability.Verified.Crc
