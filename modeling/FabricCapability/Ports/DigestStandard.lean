import FabricCapability.Ports.Digest
import FabricCapability.Verified.Sha2
import Mathlib.Data.List.GetD
import Mathlib.Logic.Function.Iterate

/-!
# The streaming digest and the standard

`Sha256` is fed in pieces and keeps the bytes that do not fill a block.  The invariant is
`Sha256.Holds`: the state has absorbed the whole blocks of everything fed so far and the buffer
is what is behind them.  `Finish` pads through `Update`, one zero byte at a time, which ends at
the padded message of FIPS 180-4; the flag `finished_` makes a second `Finish` read the same
state again.

## Main results

* `transform_words`: one `Transform` is one step of the standard.
* `update_holds`: the invariant, for pieces of any length.
* `finish_standard`: the digest of any chunking is the one of the standard, however often it is
  asked for.
-/

namespace FabricCapability.Ports

open FabricCapability.Verified.Blocks
open FabricCapability.Verified.ByteCodec
open FabricCapability.Verified

/-! ## The hasher and its end -/

/-- What `Sha256::Finish` does to the state when it runs for the first time. -/
def Sha256.close (hasher : Sha256) : Sha256 :=
  let bitLength := hasher.totalBytes * 8
  let padded := Sha256.padZeros 64 (hasher.update [0x80])
  padded.update (leBytes 8 bitLength.toNat).reverse

/-- The hasher with its flag `finished_`. -/
structure Hasher where
  sha : Sha256
  finished : Bool

namespace Hasher

def start : Hasher := { sha := Sha256.start, finished := false }

def update (hasher : Hasher) (data : Bytes) : Hasher :=
  if hasher.finished then hasher else { hasher with sha := hasher.sha.update data }

def finish (hasher : Hasher) : Digest × Hasher :=
  let closed := if hasher.finished then hasher else { sha := hasher.sha.close, finished := true }
  (Digest.ofState closed.sha.state, closed)

end Hasher

/-- The digest of a hasher that is used once. -/
theorem Sha256.finish_eq (hasher : Sha256) :
    hasher.finish = (Hasher.finish { sha := hasher, finished := false }).1 := rfl

/-! ## Words -/

/-- The words of the state, as the standard has them. -/
def HashState.words (s : HashState) : Sha2.Words :=
  { a := s.a.toBitVec, b := s.b.toBitVec, c := s.c.toBitVec, d := s.d.toBitVec
    e := s.e.toBitVec, f := s.f.toBitVec, g := s.g.toBitVec, h := s.h.toBitVec }

theorem rotateRight_toBitVec {value bits : UInt32} (hPositive : 0 < bits.toNat)
    (hBound : bits.toNat < 32) :
    (rotateRight value bits).toBitVec = value.toBitVec.rotateRight bits.toNat := by
  have hRight : (bits.toBitVec % 32).toNat = bits.toNat := Nat.mod_eq_of_lt hBound
  have hLeft : ((32 - bits).toBitVec % 32).toNat = 32 - bits.toNat := by
    have hSub : (32 - bits).toNat = 32 - bits.toNat :=
      UInt32.toNat_sub_of_le _ _ (UInt32.le_iff_toNat_le.2 (Nat.le_of_lt hBound))
    show (32 - bits).toNat % 32 = _
    rw [hSub]
    omega
  rw [rotateRight, UInt32.toBitVec_or, UInt32.toBitVec_shiftRight, UInt32.toBitVec_shiftLeft,
    BitVec.shiftLeft_eq', BitVec.ushiftRight_eq', hRight, hLeft, BitVec.rotateRight_def,
    Nat.mod_eq_of_lt hBound]

theorem shiftRight_toBitVec {value bits : UInt32} (hBound : bits.toNat < 32) :
    (value >>> bits).toBitVec = value.toBitVec >>> bits.toNat := by
  have hRight : (bits.toBitVec % 32).toNat = bits.toNat := Nat.mod_eq_of_lt hBound
  rw [UInt32.toBitVec_shiftRight, BitVec.ushiftRight_eq', hRight]

theorem bigSigma0_toBitVec (x : UInt32) :
    (rotateRight x 2 ^^^ rotateRight x 13 ^^^ rotateRight x 22).toBitVec =
      Sha2.bigSigma0 x.toBitVec := by
  rw [UInt32.toBitVec_xor, UInt32.toBitVec_xor, rotateRight_toBitVec (by decide) (by decide),
    rotateRight_toBitVec (by decide) (by decide), rotateRight_toBitVec (by decide) (by decide)]
  rfl

theorem bigSigma1_toBitVec (x : UInt32) :
    (rotateRight x 6 ^^^ rotateRight x 11 ^^^ rotateRight x 25).toBitVec =
      Sha2.bigSigma1 x.toBitVec := by
  rw [UInt32.toBitVec_xor, UInt32.toBitVec_xor, rotateRight_toBitVec (by decide) (by decide),
    rotateRight_toBitVec (by decide) (by decide), rotateRight_toBitVec (by decide) (by decide)]
  rfl

theorem smallSigma0_toBitVec (x : UInt32) :
    (rotateRight x 7 ^^^ rotateRight x 18 ^^^ (x >>> 3)).toBitVec =
      Sha2.smallSigma0 x.toBitVec := by
  rw [UInt32.toBitVec_xor, UInt32.toBitVec_xor, rotateRight_toBitVec (by decide) (by decide),
    rotateRight_toBitVec (by decide) (by decide), shiftRight_toBitVec (by decide)]
  rfl

theorem smallSigma1_toBitVec (x : UInt32) :
    (rotateRight x 17 ^^^ rotateRight x 19 ^^^ (x >>> 10)).toBitVec =
      Sha2.smallSigma1 x.toBitVec := by
  rw [UInt32.toBitVec_xor, UInt32.toBitVec_xor, rotateRight_toBitVec (by decide) (by decide),
    rotateRight_toBitVec (by decide) (by decide), shiftRight_toBitVec (by decide)]
  rfl

theorem round_words (s : HashState) (k w : UInt32) :
    (round s k w).words = Sha2.roundStep s.words k.toBitVec w.toBitVec := by
  simp only [round, HashState.words, Sha2.roundStep, Sha2.ch, Sha2.maj, UInt32.toBitVec_add,
    bigSigma0_toBitVec, bigSigma1_toBitVec]
  rfl

theorem roundConstants_standard :
    roundConstants.map UInt32.toBitVec = (List.range 64).map Sha2.roundConstant := by
  decide +kernel

theorem initialHashState_standard : initialHashState.words = Sha2.initialHash := by
  decide +kernel

/-! ## The message schedule -/

theorem beValue_four (b0 b1 b2 b3 : UInt8) :
    Sha2.beValue [b0, b1, b2, b3] =
      2 ^ 24 * b0.toNat + 2 ^ 16 * b1.toNat + 2 ^ 8 * b2.toNat + b3.toNat := by
  show b3.toNat + 256 * (b2.toNat + 256 * (b1.toNat + 256 * (b0.toNat + 256 * 0))) = _
  omega

/-- Four bytes read as a big-endian word. -/
theorem word_toNat (b0 b1 b2 b3 : UInt8) :
    ((b0.toUInt32 <<< 24) ||| (b1.toUInt32 <<< 16) ||| (b2.toUInt32 <<< 8) |||
      b3.toUInt32).toNat = Sha2.beValue [b0, b1, b2, b3] := by
  have h0 := b0.toNat_lt
  have h1 := b1.toNat_lt
  have h2 := b2.toNat_lt
  have h3 := b3.toNat_lt
  have hTop : (b0.toUInt32 <<< 24).toNat = 2 ^ 24 * b0.toNat := by
    simp only [UInt32.toNat_shiftLeft, UInt8.toNat_toUInt32, Nat.shiftLeft_eq]
    show b0.toNat * 2 ^ 24 % 2 ^ 32 = _
    omega
  have hNext : (b1.toUInt32 <<< 16).toNat = 2 ^ 16 * b1.toNat := by
    simp only [UInt32.toNat_shiftLeft, UInt8.toNat_toUInt32, Nat.shiftLeft_eq]
    show b1.toNat * 2 ^ 16 % 2 ^ 32 = _
    omega
  have hThird : (b2.toUInt32 <<< 8).toNat = 2 ^ 8 * b2.toNat := by
    simp only [UInt32.toNat_shiftLeft, UInt8.toNat_toUInt32, Nat.shiftLeft_eq]
    show b2.toNat * 2 ^ 8 % 2 ^ 32 = _
    omega
  rw [UInt32.toNat_or, UInt32.toNat_or, UInt32.toNat_or, hTop, hNext, hThird,
    UInt8.toNat_toUInt32, beValue_four]
  -- The bytes do not overlap, from the top down.
  rw [← Nat.two_pow_add_eq_or_of_lt (by omega) b0.toNat]
  rw [show 2 ^ 24 * b0.toNat + 2 ^ 16 * b1.toNat = 2 ^ 16 * (2 ^ 8 * b0.toNat + b1.toNat) by omega,
    ← Nat.two_pow_add_eq_or_of_lt (by omega) (2 ^ 8 * b0.toNat + b1.toNat)]
  rw [show 2 ^ 16 * (2 ^ 8 * b0.toNat + b1.toNat) + 2 ^ 8 * b2.toNat =
      2 ^ 8 * (2 ^ 16 * b0.toNat + 2 ^ 8 * b1.toNat + b2.toNat) by omega,
    ← Nat.two_pow_add_eq_or_of_lt (by omega) (2 ^ 16 * b0.toNat + 2 ^ 8 * b1.toNat + b2.toNat)]

theorem word_toBitVec (b0 b1 b2 b3 : UInt8) :
    ((b0.toUInt32 <<< 24) ||| (b1.toUInt32 <<< 16) ||| (b2.toUInt32 <<< 8) |||
      b3.toUInt32).toBitVec = BitVec.ofNat 32 (Sha2.beValue [b0, b1, b2, b3]) := by
  apply BitVec.eq_of_toNat_eq
  rw [BitVec.toNat_ofNat, ← word_toNat, UInt32.toNat_toBitVec, Nat.mod_eq_of_lt (UInt32.toNat_lt _)]

/-- The words of a block, in order. -/
theorem blockWords_spec {count : Nat} {block : Bytes} (h : block.length = 4 * count) :
    (blockWords block).length = count ∧
      ∀ j < count, ((blockWords block).getD j 0).toBitVec = Sha2.messageWord block j := by
  induction count generalizing block with
  | zero =>
      obtain rfl := List.length_eq_zero_iff.1 h
      exact ⟨rfl, fun j hj => absurd hj (Nat.not_lt_zero j)⟩
  | succ count ih =>
      obtain ⟨b0, b1, b2, b3, rest, rfl⟩ : ∃ b0 b1 b2 b3 rest,
          block = b0 :: b1 :: b2 :: b3 :: rest := by
        match block, h with
        | b0 :: b1 :: b2 :: b3 :: rest, _ => exact ⟨b0, b1, b2, b3, rest, rfl⟩
      simp only [List.length_cons] at h
      obtain ⟨hLength, hWords⟩ := @ih rest (by omega)
      rw [blockWords]
      refine ⟨by rw [List.length_cons, hLength], fun j hj => ?_⟩
      cases j with
      | zero =>
          rw [List.getD_cons_zero, word_toBitVec]
          rfl
      | succ j =>
          rw [List.getD_cons_succ, hWords j (by omega)]
          rfl

/-- A schedule as far as it has been computed. -/
def ScheduleOf (block : Bytes) (words : List UInt32) : Prop :=
  ∀ t < words.length, (words.getD t 0).toBitVec = Sha2.schedule block t

theorem extendSchedule_spec {block : Bytes} {count : Nat} {words : List UInt32}
    (hStart : 16 ≤ words.length) (hWords : ScheduleOf block words) :
    (extendSchedule count words).length = words.length + count ∧
      ScheduleOf block (extendSchedule count words) := by
  induction count generalizing words with
  | zero => exact ⟨rfl, hWords⟩
  | succ count ih =>
      rw [extendSchedule]
      generalize hNext : words.getD (words.length - 16) 0 +
        (rotateRight (words.getD (words.length - 15) 0) 7 ^^^
          rotateRight (words.getD (words.length - 15) 0) 18 ^^^
          (words.getD (words.length - 15) 0 >>> 3)) + words.getD (words.length - 7) 0 +
        (rotateRight (words.getD (words.length - 2) 0) 17 ^^^
          rotateRight (words.getD (words.length - 2) 0) 19 ^^^
          (words.getD (words.length - 2) 0 >>> 10)) = next
      have hValue : next.toBitVec = Sha2.schedule block words.length := by
        rw [← hNext, UInt32.toBitVec_add, UInt32.toBitVec_add, UInt32.toBitVec_add,
          smallSigma0_toBitVec, smallSigma1_toBitVec, hWords _ (by omega), hWords _ (by omega),
          hWords _ (by omega), hWords _ (by omega), Sha2.schedule_later hStart]
        ac_rfl
      have hExtended : ScheduleOf block (words ++ [next]) := by
        intro t ht
        rw [List.length_append, List.length_singleton] at ht
        by_cases hOld : t < words.length
        · rw [List.getD_append _ _ _ _ hOld]
          exact hWords t hOld
        · obtain rfl : t = words.length := by omega
          rw [List.getD_append_right _ _ _ _ (Nat.le_refl _), Nat.sub_self]
          exact hValue
      have hLength : (words ++ [next]).length = words.length + 1 := List.length_append
      obtain ⟨hTotal, hSpec⟩ := ih (by omega) hExtended
      exact ⟨by omega, hSpec⟩

theorem schedule_words {block : Bytes} (h : block.length = 64) :
    (extendSchedule 48 (blockWords block)).length = 64 ∧
      ScheduleOf block (extendSchedule 48 (blockWords block)) := by
  obtain ⟨hLength, hWords⟩ := @blockWords_spec 16 block h
  obtain ⟨hTotal, hSpec⟩ := @extendSchedule_spec block 48 _ (Nat.le_of_eq hLength.symm)
    fun t ht => by
      rw [hLength] at ht
      rw [hWords t ht, Sha2.schedule_message ht]
  exact ⟨by omega, hSpec⟩

/-! ## One block -/

/-- The rounds over two lists are the rounds over the places in them. -/
theorem rounds_words {count : Nat} {constants words : List UInt32} (s : HashState)
    (hConstants : constants.length = count) (hWords : words.length = count) :
    ((constants.zip words).foldl (fun acc kw => round acc kw.1 kw.2) s).words =
      (List.range count).foldl (fun x t =>
        Sha2.roundStep x (constants.getD t 0).toBitVec (words.getD t 0).toBitVec) s.words := by
  induction count generalizing constants words s with
  | zero =>
      obtain rfl := List.length_eq_zero_iff.1 hConstants
      rfl
  | succ count ih =>
      match constants, words, hConstants, hWords with
      | k :: constants, w :: words, hConstants, hWords =>
          rw [List.zip_cons_cons, List.foldl_cons, List.range_succ_eq_map, List.foldl_cons,
            List.foldl_map, ih _ (Nat.succ.inj hConstants) (Nat.succ.inj hWords), round_words]
          rfl

theorem roundConstant_getD {t : Nat} (h : t < 64) :
    (roundConstants.getD t 0).toBitVec = Sha2.roundConstant t := by
  have hGet := congrArg (fun list => list.getD t 0) roundConstants_standard
  have hLength : t < roundConstants.length := h
  simpa [List.getD_eq_getElem?_getD, h, hLength] using hGet

theorem words_add (s r : HashState) :
    HashState.words { a := s.a + r.a, b := s.b + r.b, c := s.c + r.c, d := s.d + r.d
                      e := s.e + r.e, f := s.f + r.f, g := s.g + r.g, h := s.h + r.h } =
      s.words.add r.words := by
  simp only [HashState.words, Sha2.Words.add, UInt32.toBitVec_add]

theorem transform_words {s : HashState} {block : Bytes} (h : block.length = 64) :
    (transform s block).words = Sha2.compress s.words block := by
  obtain ⟨hLength, hSchedule⟩ := schedule_words h
  have hConstants : roundConstants.length = 64 := rfl
  unfold transform
  dsimp only
  generalize extendSchedule 48 (blockWords block) = words at hLength hSchedule
  rw [words_add, rounds_words s hConstants hLength, Sha2.compress]
  refine congrArg s.words.add (List.foldl_ext _ _ _ fun acc t hMem => ?_)
  have ht : t < 64 := List.mem_range.1 hMem
  rw [roundConstant_getD ht, hSchedule t (by omega)]

/-! ## Feeding in pieces -/

theorem absorb_nil (fuel : Nat) (hasher : Sha256) : Sha256.absorb fuel hasher [] = hasher := by
  cases fuel <;> rfl

/-- One turn of the copy loop. -/
theorem absorb_turn {fuel : Nat} {hasher : Sha256} {data : Bytes} (h : data ≠ []) :
    Sha256.absorb (fuel + 1) hasher data =
      Sha256.absorb fuel
        (if (hasher.buffer ++ data.take (64 - hasher.buffer.length)).length == 64 then
          { hasher with
            state := transform hasher.state
              (hasher.buffer ++ data.take (64 - hasher.buffer.length))
            buffer := [] }
        else { hasher with buffer := hasher.buffer ++ data.take (64 - hasher.buffer.length) })
        (data.drop (64 - hasher.buffer.length)) := by
  cases data with
  | nil => exact absurd rfl h
  | cons ch rest => rfl

/-- The copy loop absorbs the whole blocks and keeps what is behind them. -/
theorem absorb_eq {fuel : Nat} {hasher : Sha256} {data : Bytes}
    (hRoom : hasher.buffer.length < 64) (hFuel : data.length < fuel) :
    Sha256.absorb fuel hasher data =
      { hasher with
        state := (blocks 64 (hasher.buffer ++ data)).foldl transform hasher.state
        buffer := leftover 64 (hasher.buffer ++ data) } := by
  induction fuel generalizing hasher data with
  | zero => exact absurd hFuel (Nat.not_lt_zero _)
  | succ fuel ih =>
      by_cases hNil : data = []
      · rw [hNil, absorb_nil, List.append_nil, blocks_short hRoom, leftover_short hRoom]
        rfl
      have hPositive : 0 < data.length := List.length_pos_iff.2 hNil
      rw [absorb_turn hNil]
      by_cases hFull : (hasher.buffer ++ data.take (64 - hasher.buffer.length)).length = 64
      · have hCut : hasher.buffer ++ data =
            (hasher.buffer ++ data.take (64 - hasher.buffer.length)) ++
              data.drop (64 - hasher.buffer.length) := by
          rw [List.append_assoc, List.take_append_drop]
        rw [if_pos (beq_iff_eq.2 hFull), hCut, blocks_cons (by decide) hFull,
          leftover_cons (by decide) hFull, List.foldl_cons]
        have hRest : (data.drop (64 - hasher.buffer.length)).length < fuel := by
          rw [List.length_drop]
          omega
        have hNext := @ih { hasher with
          state := transform hasher.state
            (hasher.buffer ++ data.take (64 - hasher.buffer.length))
          buffer := [] } _ (Nat.succ_pos 63) hRest
        rw [List.nil_append] at hNext
        exact hNext
      · have hShort : data.length < 64 - hasher.buffer.length := by
          rw [List.length_append, List.length_take] at hFull
          omega
        have hTake : data.take (64 - hasher.buffer.length) = data :=
          List.take_of_length_le (Nat.le_of_lt hShort)
        have hDrop : data.drop (64 - hasher.buffer.length) = [] :=
          List.drop_eq_nil_of_le (Nat.le_of_lt hShort)
        have hTotal : (hasher.buffer ++ data).length < 64 := by
          rw [List.length_append]
          omega
        rw [if_neg (by simpa using hFull), hTake, hDrop, absorb_nil, blocks_short hTotal,
          leftover_short hTotal]
        rfl

namespace Sha256

/-- Everything that was fed to the hasher is in its state and its buffer. -/
structure Holds (hasher : Sha256) (message : Bytes) : Prop where
  state : hasher.state = (blocks 64 message).foldl transform initialHashState
  buffer : hasher.buffer = leftover 64 message
  total : hasher.totalBytes = UInt64.ofNat message.length

namespace Holds

variable {hasher : Sha256} {message : Bytes}

theorem start_holds : start.Holds [] := ⟨rfl, rfl, rfl⟩

theorem room (h : hasher.Holds message) : hasher.buffer.length < 64 := by
  rw [h.buffer]
  exact length_leftover (by decide) message

theorem update_holds (h : hasher.Holds message) (data : Bytes) :
    (hasher.update data).Holds (message ++ data) := by
  have hAbsorbed := @absorb_eq (data.length + 1)
    { hasher with totalBytes := hasher.totalBytes + UInt64.ofNat data.length } data h.room
    (Nat.lt_succ_self _)
  rw [update, hAbsorbed]
  refine ⟨?_, ?_, ?_⟩
  · show (blocks 64 (hasher.buffer ++ data)).foldl transform hasher.state = _
    rw [h.state, h.buffer, ← foldl_blocks_append (by decide)]
  · show leftover 64 (hasher.buffer ++ data) = _
    rw [h.buffer, ← leftover_append (by decide)]
  · show hasher.totalBytes + UInt64.ofNat data.length = _
    rw [h.total, List.length_append, UInt64.ofNat_add]

theorem length_buffer (h : hasher.Holds message) : hasher.buffer.length = message.length % 64 := by
  have hSplit := Nat.div_add_mod message.length 64
  rw [h.buffer, leftover, List.length_drop]
  omega

/-- The padding loop feeds zero bytes until eight bytes of the block are left. -/
theorem padZeros_holds {fuel count : Nat} (h : hasher.Holds message)
    (hEnd : (message.length + count) % 64 = 56)
    (hFirst : ∀ earlier < count, (message.length + earlier) % 64 ≠ 56) (hFuel : count < fuel) :
    (padZeros fuel hasher).Holds (message ++ List.replicate count 0) := by
  induction fuel generalizing hasher message count with
  | zero => exact absurd hFuel (Nat.not_lt_zero _)
  | succ fuel ih =>
      rw [padZeros, h.length_buffer]
      cases count with
      | zero =>
          have hHere : message.length % 64 = 56 := hEnd
          rw [if_pos (beq_iff_eq.2 hHere), List.replicate_zero, List.append_nil]
          exact h
      | succ count =>
          have hNot : message.length % 64 ≠ 56 := hFirst 0 (Nat.succ_pos count)
          have hZeros : message ++ List.replicate (count + 1) 0 =
              message ++ [0] ++ List.replicate count 0 := by
            rw [List.replicate_succ, List.append_assoc, List.singleton_append]
          rw [if_neg (by simpa using hNot), hZeros]
          have hLength : (message ++ [(0 : UInt8)]).length = message.length + 1 :=
            List.length_append
          refine ih (h.update_holds [0]) ?_ (fun earlier hEarlier => ?_)
            (Nat.lt_of_succ_lt_succ hFuel)
          · rw [hLength, Nat.add_assoc, Nat.add_comm 1]
            exact hEnd
          · rw [hLength, Nat.add_assoc, Nat.add_comm 1]
            exact hFirst _ (Nat.succ_lt_succ hEarlier)

/-- `Finish` feeds the padding of the standard. -/
theorem close_holds (h : hasher.Holds message) (hLength : message.length < 2 ^ 61) :
    hasher.close.Holds (Sha2.pad message) := by
  have hMarked : (message ++ [(0x80 : UInt8)]).length = message.length + 1 := List.length_append
  have hPadded := @padZeros_holds _ _ 64 (Sha2.zeroCount message.length) (h.update_holds [0x80])
    (by rw [hMarked]; exact Sha2.zeroCount_spec message.length)
    (fun earlier hEarlier hEnd => by
      rw [hMarked] at hEnd
      exact absurd (Sha2.zeroCount_least hEnd) (Nat.not_le.2 hEarlier))
    (by unfold Sha2.zeroCount; omega)
  have hBits : (hasher.totalBytes * 8).toNat = 8 * message.length := by
    rw [h.total, UInt64.toNat_mul, UInt64.toNat_ofNat']
    show message.length % 2 ^ 64 * 8 % 2 ^ 64 = _
    omega
  have hClosed := hPadded.update_holds (leBytes 8 (hasher.totalBytes * 8).toNat).reverse
  rw [hBits] at hClosed
  rw [close, hBits]
  have hPad : Sha2.pad message = message ++ [0x80] ++
      List.replicate (Sha2.zeroCount message.length) 0 ++
        (leBytes 8 (8 * message.length)).reverse := by
    rw [Sha2.pad, Sha2.beBytes, List.append_assoc, List.append_assoc, List.singleton_append]
  rw [hPad]
  exact hClosed

end Holds

end Sha256

/-! ## The digest -/

theorem wordBytes_eq (w : UInt32) : wordBytes w = Sha2.beBytes 4 w.toBitVec.toNat := by
  have hByte (bits : UInt32) (hBound : bits.toNat < 32) :
      (w >>> bits).toUInt8 = UInt8.ofNat (w.toNat / 2 ^ bits.toNat % 256) := by
    apply UInt8.toNat_inj.1
    rw [UInt32.toNat_toUInt8, UInt32.toNat_shiftRight, Nat.mod_eq_of_lt hBound,
      Nat.shiftRight_eq_div_pow, UInt8.toNat_ofNat', Nat.mod_mod]
  have hLast : w.toUInt8 = UInt8.ofNat (w.toNat % 256) := by
    apply UInt8.toNat_inj.1
    rw [UInt32.toNat_toUInt8, UInt8.toNat_ofNat', Nat.mod_mod]
  rw [wordBytes, hByte 24 (by decide), hByte 16 (by decide), hByte 8 (by decide), hLast]
  show _ = [UInt8.ofNat (w.toNat / 256 / 256 / 256 % 256), UInt8.ofNat (w.toNat / 256 / 256 % 256),
    UInt8.ofNat (w.toNat / 256 % 256), UInt8.ofNat (w.toNat % 256)]
  simp only [Nat.div_div_eq_div_mul]
  rfl

theorem ofState_bytes (s : HashState) :
    (Digest.ofState s).bytes = s.words.toList.flatMap fun word => Sha2.beBytes 4 word.toNat := by
  simp only [Digest.ofState, wordBytes_eq, Sha2.Words.toList, HashState.words,
    List.flatMap_cons, List.flatMap_nil, List.append_nil, List.append_assoc]

/-- The rounds of a whole message, block after block. -/
theorem foldl_transform_words {parts : List Bytes} (s : HashState)
    (h : ∀ block ∈ parts, block.length = 64) :
    (parts.foldl transform s).words = parts.foldl Sha2.compress s.words := by
  induction parts generalizing s with
  | nil => rfl
  | cons block parts ih =>
      obtain ⟨hBlock, hParts⟩ := List.forall_mem_cons.1 h
      rw [List.foldl_cons, List.foldl_cons, ih _ hParts, transform_words hBlock]

theorem Sha256.Holds.digest {hasher : Sha256} {message : Bytes} (h : hasher.Holds message)
    (hLength : message.length < 2 ^ 61) :
    (Digest.ofState hasher.close.state).bytes = Sha2.sha256 message := by
  rw [ofState_bytes, (h.close_holds hLength).state,
    foldl_transform_words _ fun block hMem => length_of_mem_blocks (by decide) hMem,
    initialHashState_standard]
  rfl

namespace Hasher

/-- Feeding a hasher that is not finished. -/
theorem foldl_update (pieces : List Bytes) {hasher : Sha256} {message : Bytes}
    (h : hasher.Holds message) :
    ∃ fed : Sha256, fed.Holds (message ++ pieces.flatten) ∧
      pieces.foldl update { sha := hasher, finished := false } =
        { sha := fed, finished := false } := by
  induction pieces generalizing hasher message with
  | nil => exact ⟨hasher, by rwa [List.flatten_nil, List.append_nil], rfl⟩
  | cons piece pieces ih =>
      obtain ⟨fed, hFed, hFold⟩ := ih (h.update_holds piece)
      refine ⟨fed, ?_, hFold⟩
      rwa [List.flatten_cons, ← List.append_assoc]

/-- A finished hasher answers with its state and stays as it is. -/
theorem finish_finished {hasher : Hasher} (h : hasher.finished = true) :
    hasher.finish = (Digest.ofState hasher.sha.state, hasher) := by
  rw [finish, if_pos h]

theorem finish_again {hasher : Hasher} (h : hasher.finished = true) (count : Nat) :
    (fun hasher : Hasher => hasher.finish.2)^[count] hasher = hasher := by
  apply Function.iterate_fixed
  rw [finish_finished h]

end Hasher

/--
**The streaming digest**: for every message below 2 ^ 61 bytes and every way of cutting it into
pieces, each of the calls of `Finish`, the first as well as later ones, returns the SHA-256
digest of the message.
-/
theorem finish_standard (pieces : List Bytes) (hLength : pieces.flatten.length < 2 ^ 61)
    (earlier : Nat) :
    ((fun hasher : Hasher => hasher.finish.2)^[earlier]
      (pieces.foldl Hasher.update Hasher.start)).finish.1.bytes =
        Sha2.sha256 pieces.flatten := by
  obtain ⟨fed, hFed, hFold⟩ := Hasher.foldl_update pieces Sha256.Holds.start_holds
  have hDigest := hFed.digest hLength
  have hStart : pieces.foldl Hasher.update Hasher.start = { sha := fed, finished := false } := hFold
  rw [hStart]
  cases earlier with
  | zero => exact hDigest
  | succ earlier =>
      rw [Function.iterate_succ_apply, Hasher.finish_again rfl, Hasher.finish_finished rfl]
      exact hDigest

theorem three_pieces_standard :
    (((Hasher.start.update (txt "fab")).update []).update (txt "ric")).finish.2.finish.1.bytes =
      Sha2.sha256 (txt "fabric") := by
  have hMessage : [txt "fab", [], txt "ric"].flatten = txt "fabric" := by decide
  rw [← hMessage]
  exact finish_standard [txt "fab", [], txt "ric"] (by decide) 1

/-- The digest that the other modules compute. -/
theorem computeDigest_standard {data : Bytes} (h : data.length < 2 ^ 61) :
    (computeDigest data).bytes = Sha2.sha256 data :=
  (Sha256.Holds.start_holds.update_holds data).digest h

example : (computeDigest (txt "abc")).toText =
    txt "ba7816bf8f01cfea414140de5dae2223b00361a396177a9cb410ff61f20015ad" := by decide +kernel

end FabricCapability.Ports
