import FabricCapability.Ports.FrameWire
import FabricCapability.Ports.StoreRoundTrip
import FabricCapability.Verified.Crc

/-!
# Corruption of frames and of store files

A frame is covered by its CRC up to the checksum itself, the first 64 bytes of a store file by
the CRC behind them, and the payload of the file by the digest in its header.  The lengths that
are declared decide where a checksum is read, and a burst in them moves nothing: the size of
the frame is the declared one, so the covered bytes of a corrupted frame are those of the
original with the burst in them.

## Main results

* `crc32_burst`: a burst changes the CRC of the bytes it is in.
* `corruption_detected`: no corrupted frame is decoded and no corrupted store file is read.
-/

namespace FabricCapability.Ports

open FabricCapability.Verified
open FabricCapability.Verified.ByteCodec

/-! ## The checksum -/

def crcPolynomial : BitVec 32 := 0xEDB88320

theorem crcPolynomial_top : crcPolynomial.msb = true := by decide

theorem low_toBitVec (crc : UInt32) :
    (crc &&& 1).toBitVec = BitVec.setWidth 32 (BitVec.ofBool (crc.toBitVec.getLsbD 0)) := by
  rw [UInt32.toBitVec_and]
  exact BitVec.and_one_eq_setWidth_ofBool_getLsbD

/-- The mask is all ones or zero, as the low bit is. -/
theorem crcBit_toBitVec (crc : UInt32) :
    (crcBit crc).toBitVec = Crc.shift crcPolynomial crc.toBitVec := by
  have hLow := low_toBitVec crc
  unfold Crc.shift
  cases hBit : crc.toBitVec.getLsbD 0 with
  | false =>
      have hZero : crc &&& 1 = 0 := by
        apply UInt32.toBitVec_inj.1
        rw [hLow, hBit]
        rfl
      rw [crcBit, hZero, if_neg nofun]
      simp
  | true =>
      have hOne : crc &&& 1 = 1 := by
        apply UInt32.toBitVec_inj.1
        rw [hLow, hBit]
        rfl
      rw [crcBit, hOne, if_pos rfl]
      rfl

theorem crc32Extend_toBitVec (state : UInt32) (data : Bytes) :
    (crc32Extend state data).toBitVec = Crc.feed crcPolynomial state.toBitVec data := by
  induction data generalizing state with
  | nil => rfl
  | cons ch rest ih =>
      have hByte : (Nat.repeat crcBit 8 (state ^^^ ch.toUInt32)).toBitVec =
          Crc.feedByte crcPolynomial state.toBitVec ch := by
        simp only [Nat.repeat, crcBit_toBitVec]
        rfl
      rw [Crc.feed_cons, ← hByte, ← ih]
      rfl

/-! ## Bursts -/

/-- The two texts differ in at most four consecutive bytes, all among the first `covered`. -/
def Burst (covered : Nat) (original changed : Bytes) : Prop :=
  ∃ front burst other back, original = front ++ burst ++ back ∧
    changed = front ++ other ++ back ∧ burst.length = other.length ∧ burst.length ≤ 4 ∧
    burst ≠ other ∧ (front ++ burst).length ≤ covered

theorem Burst.length_eq {covered : Nat} {original changed : Bytes}
    (h : Burst covered original changed) : original.length = changed.length := by
  obtain ⟨front, burst, other, back, rfl, rfl, hLength, -⟩ := h
  simp only [List.length_append, hLength]

/-- The burst in the covered bytes; behind them nothing changes. -/
theorem Burst.parts {covered : Nat} {original changed : Bytes}
    (h : Burst covered original changed) :
    original.drop covered = changed.drop covered ∧
      ∃ front burst other back, original.take covered = front ++ burst ++ back ∧
        changed.take covered = front ++ other ++ back ∧ burst.length = other.length ∧
        burst.length ≤ 4 ∧ burst ≠ other := by
  obtain ⟨front, burst, other, back, rfl, rfl, hLength, hWidth, hNe, hCovered⟩ := h
  have hOther : (front ++ other).length = (front ++ burst).length := by
    rw [List.length_append, List.length_append, hLength]
  obtain ⟨rest, rfl⟩ := Nat.exists_eq_add_of_le hCovered
  constructor
  · rw [List.drop_length_add_append, ← hOther, List.drop_length_add_append]
  · refine ⟨front, burst, other, back.take rest, List.take_length_add_append .., ?_, hLength,
      hWidth, hNe⟩
    rw [← hOther]
    exact List.take_length_add_append ..

/-- A burst changes the CRC of the covered bytes. -/
theorem crc32_burst {covered : Nat} {original changed : Bytes}
    (h : Burst covered original changed) :
    crc32 (original.take covered) ≠ crc32 (changed.take covered) := by
  obtain ⟨-, front, burst, other, back, hOriginal, hChanged, hLength, hWidth, hNe⟩ := h.parts
  intro hCrc
  rw [hOriginal, hChanged, crc32, crc32, UInt32.xor_left_inj] at hCrc
  have hFeed := congrArg UInt32.toBitVec hCrc
  rw [crc32Extend_toBitVec, crc32Extend_toBitVec] at hFeed
  exact hNe (Crc.burst_detected crcPolynomial_top hLength (by omega) hFeed)

/-! ## Frames -/

/-- A decoded frame ends in the checksum of what is in front of it. -/
theorem decodeFrame_covered {bytes : Bytes} {frame : WireFrame}
    (h : decodeFrame bytes = .ok frame) :
    bytes.drop (bytes.length - 4) = u32 (crc32 (bytes.take (bytes.length - 4))) := by
  obtain ⟨-, hEncode⟩ := decodeFrame_eq_ok.1 h
  obtain ⟨-, hBytes⟩ := encodeFrame_eq_ok.1 hEncode
  generalize frameHeader frame.type frame.flags frame.requestId
    (UInt32.ofNat frame.payload.length) ++ frame.payload = covered at hBytes
  have hCovered : bytes.length - 4 = covered.length := by
    rw [hBytes, List.length_append, length_u32]
    omega
  rw [hCovered, hBytes, List.drop_left, List.take_left]

theorem frame_corruption {bytes changed : Bytes} {frame : WireFrame}
    (h : decodeFrame bytes = .ok frame) (hBurst : Burst (bytes.length - 4) bytes changed) :
    ∃ e, decodeFrame changed = .error e := by
  cases hChanged : decodeFrame changed with
  | error e => exact ⟨e, rfl⟩
  | ok other =>
      have hOriginal := decodeFrame_covered h
      have hOther := decodeFrame_covered hChanged
      rw [← hBurst.length_eq, ← hBurst.parts.1, hOriginal] at hOther
      have hRead := congrArg readU32 hOther
      rw [readU32_bytes, readU32_bytes] at hRead
      exact absurd (Prod.mk.inj (Except.ok.inj hRead)).1 (crc32_burst hBurst)

/-! ## Store files -/

namespace Store

theorem parseHeader_eq_ok {file : Bytes} {header : Header} (h : parseHeader file = .ok header) :
    kStoreHeaderBytes ≤ file.length ∧ UInt32.ofNat (wordAt file 64 4) = crc32 (file.take 64) ∧
      header = headerOf file := by
  unfold parseHeader at h
  rw [ite_failure_eq_ok, ite_failure_eq_ok, ite_failure_eq_ok, ite_failure_eq_ok] at h
  obtain ⟨hLength, -, hCrc, -, hHeader⟩ := h
  exact ⟨Nat.not_lt.1 hLength, not_not.1 hCrc, (Except.ok.inj hHeader).symm⟩

theorem readFile_eq_ok {file : Bytes} {read : StorePayload × LoadReport}
    (h : readFile file = .ok read) :
    parseHeader file = .ok (headerOf file) ∧
      (headerOf file).payloadBytes.toNat = (file.drop kStoreHeaderBytes).length ∧
      computeDigest (file.drop kStoreHeaderBytes) = (headerOf file).payloadDigest ∧
      decodePayload (file.drop kStoreHeaderBytes) = .ok read.1 := by
  unfold readFile at h
  rw [ite_failure_eq_ok, outcome_bind_eq_ok] at h
  obtain ⟨-, header, hHeader, h⟩ := h
  obtain ⟨-, -, rfl⟩ := parseHeader_eq_ok hHeader
  rw [ite_failure_eq_ok, ite_failure_eq_ok, outcome_bind_eq_ok] at h
  obtain ⟨hLength, hDigest, payload, hPayload, hRead⟩ := h
  refine ⟨hHeader, not_not.1 hLength, not_not.1 hDigest, ?_⟩
  rw [hPayload, ← Except.ok.inj hRead]

/-- A burst in the first 64 bytes does not reach the stored checksum. -/
theorem header_corruption {file changed : Bytes} {header : Header}
    (h : parseHeader file = .ok header) (hBurst : Burst 64 file changed) :
    ∃ e, readFile changed = .error e := by
  cases hChanged : readFile changed with
  | error e => exact ⟨e, rfl⟩
  | ok read =>
      obtain ⟨-, hOriginal, -⟩ := parseHeader_eq_ok h
      obtain ⟨-, hOther, -⟩ := parseHeader_eq_ok (readFile_eq_ok hChanged).1
      have hStored : wordAt changed 64 4 = wordAt file 64 4 := by
        rw [wordAt, wordAt, hBurst.parts.1]
      rw [hStored, hOriginal] at hOther
      exact absurd hOther (crc32_burst hBurst)

/-- The header is read from the first 68 bytes. -/
theorem headerOf_front {front back other : Bytes} (h : front.length = kStoreHeaderBytes) :
    headerOf (front ++ back) = headerOf (front ++ other) := by
  have hWord (offset width : Nat) (hInside : offset + width ≤ kStoreHeaderBytes) (rest : Bytes) :
      ((front ++ rest).drop offset).take width = (front.drop offset).take width := by
    rw [List.drop_append_of_le_length (by omega), List.take_append_of_le_length]
    rw [List.length_drop]
    omega
  simp only [headerOf, wordAt]
  rw [hWord 8 4 (by decide), hWord 8 4 (by decide), hWord 12 4 (by decide),
    hWord 12 4 (by decide), hWord 16 8 (by decide), hWord 16 8 (by decide),
    hWord 24 8 (by decide), hWord 24 8 (by decide), hWord 32 kDigestBytes (by decide),
    hWord 32 kDigestBytes (by decide)]

theorem payload_corruption {front body changed : Bytes} {read : StorePayload × LoadReport}
    (hFront : front.length = kStoreHeaderBytes) (h : readFile (front ++ changed) = .ok read)
    (hDigest : (headerOf (front ++ body)).payloadDigest = computeDigest body) :
    computeDigest changed = computeDigest body := by
  obtain ⟨-, -, hChanged, -⟩ := readFile_eq_ok h
  rw [← hFront, List.drop_left, @headerOf_front front changed body hFront, hDigest] at hChanged
  exact hChanged

/-- What `WriteStore` wrote: a header of 68 bytes, with the digest of what is behind it. -/
theorem written_file {payload : StorePayload} {file : Bytes} {report : SaveReport}
    (h : writeStore payload = .ok (file, report)) :
    parseHeader file = .ok (headerOf file) ∧
      (file.take kStoreHeaderBytes).length = kStoreHeaderBytes ∧
      (headerOf file).payloadDigest = computeDigest (file.drop kStoreHeaderBytes) := by
  obtain ⟨body, -, hBound, rfl⟩ := writeStore_eq_ok h
  have hWord : body.length < 2 ^ 64 := by
    simp only [kMaxPersistenceBytes] at hBound
    omega
  obtain ⟨hHeader, -, hDigest⟩ := @parseHeader_layout payload.entities.length body hWord
  refine ⟨hHeader, ?_, by rw [hDigest, drop_layout]⟩
  rw [List.length_take, length_layout, kStoreHeaderBytes]
  omega

end Store

/--
**Corruption is detected**: a frame with a burst of at most four bytes in its header prefix or
its payload is refused, a store file with such a burst in its first 64 bytes is refused, and a
store file with another payload behind its header is refused unless the two payloads have one
SHA-256 digest.
-/
theorem corruption_detected (type : WireMessageType) (flags : UInt32) (requestId : UInt64)
    (framed bytes : Bytes) (payload : StorePayload) (file : Bytes) (report : SaveReport)
    (config : PersistenceConfig) :
    (encodeFrame type flags requestId framed = .ok bytes →
      ∀ changed, Burst (kFrameHeaderBytes + framed.length) bytes changed →
        ∃ e, decodeFrame changed = .error e) ∧
    (Store.writeStore payload = .ok (file, report) →
      (∀ changed, Burst 64 file changed →
        ∃ e, Store.readStore config (some changed) = .error e) ∧
      ∀ changed, changed ≠ file.drop kStoreHeaderBytes →
        (computeDigest changed = computeDigest (file.drop kStoreHeaderBytes) →
          changed = file.drop kStoreHeaderBytes) →
        ∃ e, Store.readStore config (some (file.take kStoreHeaderBytes ++ changed)) =
          .error e) := by
  constructor
  · intro hEncode changed hBurst
    have hDecode : decodeFrame bytes = .ok
        { version := kProtocolVersion, type, flags, requestId, payload := framed } :=
      decodeFrame_eq_ok.2 ⟨rfl, hEncode⟩
    have hCovered : bytes.length - 4 = kFrameHeaderBytes + framed.length := by
      rw [(encodeFrame_eq_ok.1 hEncode).2, List.length_append, List.length_append, length_u32]
      rfl
    exact frame_corruption hDecode (hCovered ▸ hBurst)
  · intro hWrite
    obtain ⟨hHeader, hFront, hDigest⟩ := Store.written_file hWrite
    constructor
    · intro changed hBurst
      exact Store.header_corruption hHeader hBurst
    · intro changed hChanged hCollisionFree
      cases hRead : Store.readFile (file.take kStoreHeaderBytes ++ changed) with
      | error e => exact ⟨e, hRead⟩
      | ok read =>
          rw [← List.take_append_drop kStoreHeaderBytes file] at hDigest
          rw [List.drop_left' hFront] at hDigest
          exact absurd (hCollisionFree (Store.payload_corruption hFront hRead hDigest)) hChanged

theorem burst_first {covered : Nat} {a b : UInt8} (h : a ≠ b) (hCovered : 1 ≤ covered)
    (rest : Bytes) : Burst covered (a :: rest) (b :: rest) :=
  ⟨[], [a], [b], rest, rfl, rfl, rfl, Nat.succ_pos 3, by simpa using h, hCovered⟩

/-- The payload of a store without records. -/
def Sample.emptyBody : Bytes := orNothing (Store.encodePayload {})

/-- A frame and a store file with another first byte, and the file without its payload. -/
theorem damaged_samples_refused :
    (∃ e, decodeFrame (0 :: (orNothing (encodeFrame .status 0 1 [])).tail) = .error e) ∧
      (∃ e, Store.readStore { storePath := txt "store" }
        (some (0 :: (Store.layout 0 Sample.emptyBody).tail)) = .error e) ∧
      ∃ e, Store.readStore { storePath := txt "store" }
        (some ((Store.layout 0 Sample.emptyBody).take kStoreHeaderBytes ++ [])) = .error e := by
  have hBody : Store.encodePayload {} = .ok Sample.emptyBody := rfl
  obtain ⟨report, hWrite⟩ := Store.writeStore_of_encode hBody (by decide)
  obtain ⟨hFrame, hStore⟩ := corruption_detected .status 0 1 [] _ {} _ report { storePath := txt "store" }
  obtain ⟨hHeader, hPayload⟩ := hStore hWrite
  refine ⟨hFrame rfl _ (burst_first (a := 0x46) (by decide) (by decide) _),
    hHeader _ (burst_first (a := 0x46) (by decide) (by decide) _), hPayload [] ?_ ?_⟩
  · rw [Store.drop_layout]
    decide
  · rw [Store.drop_layout]
    exact fun hSame => absurd hSame (by decide +kernel)

end FabricCapability.Ports
