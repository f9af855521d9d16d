import FabricCapability.Ports.Ids

/-!
# Byte writer and byte reader

Translation of `include/fabric/capability/encoding.hpp` and `src/encoding.cpp`.
A writer function returns the bytes it appends; a reader is a
`Verified.ByteCodec.Reader`.  Multi-byte numbers are little-endian.

`ByteWriter::Text` and `ByteWriter::Bytes` check the length before they append
anything.  Where a caller of the source drops their `Outcome`, a failing write
therefore appends nothing; `putText` and `putBytes` are those uses.

## Main results

* `decodes_u8` … `decodes_u64`, `decodes_i64`, `decodes_bool` — the fixed-width
  fields read back.
* `decodes_text` — a text field reads back unless it holds a control character,
  which the writer does not look at and the reader refuses.
* `decodes_bytes` — a byte-string field reads back.
-/

namespace FabricCapability.Ports

open FabricCapability.Verified.ByteCodec

/-! ## Writer -/

def u8 (v : UInt8) : Bytes := [v]
def u16 (v : UInt16) : Bytes := leBytes 2 v.toNat
def u32 (v : UInt32) : Bytes := leBytes 4 v.toNat
def u64 (v : UInt64) : Bytes := leBytes 8 v.toNat
def i64 (v : Int64) : Bytes := u64 v.toUInt64
def bool (v : Bool) : Bytes := u8 (if v then 1 else 0)

/-- `static_cast<std::uint32_t>` of a size. -/
def sizeU32 (n : Nat) : Bytes := u32 (UInt32.ofNat n)

@[simp] theorem length_u8 (v : UInt8) : (u8 v).length = 1 := rfl
@[simp] theorem length_u16 (v : UInt16) : (u16 v).length = 2 := length_leBytes ..
@[simp] theorem length_u32 (v : UInt32) : (u32 v).length = 4 := length_leBytes ..
@[simp] theorem length_u64 (v : UInt64) : (u64 v).length = 8 := length_leBytes ..
@[simp] theorem length_bool (v : Bool) : (bool v).length = 1 := rfl
@[simp] theorem length_sizeU32 (n : Nat) : (sizeU32 n).length = 4 := length_leBytes ..

def encodeFailure (code : ErrorCode) (what : Bytes) (value limit : Nat) : Outcome Bytes :=
  failure code
    (txt "cannot encode " ++ what ++ txt ": declared length exceeds the allowed bound")
    (txt "length=" ++ decimal value ++ txt " bound=" ++ decimal limit)

def checkedU32 (value : Nat) : Outcome UInt32 :=
  if value > 0xFFFFFFFF then
    failure .arithmeticOverflow (txt "value does not fit in a 32 bit length prefix")
      (decimal value)
  else .ok (UInt32.ofNat value)

/-- `ByteWriter::Bytes`: length-prefixed bounded byte string. -/
def writeBytes (data : Bytes) (maxLength : Nat) : Outcome Bytes :=
  if data.length > maxLength then
    encodeFailure .payloadTooLarge (txt "byte string") data.length maxLength
  else do
    let length ← checkedU32 data.length
    pure (u32 length ++ data)

/-- `ByteWriter::Text`: length-prefixed bounded text. -/
def writeText (text : Bytes) (maxLength : Nat) : Outcome Bytes :=
  if text.length > maxLength then
    encodeFailure .textTooLong (txt "text") text.length maxLength
  else do
    let length ← checkedU32 text.length
    pure (u32 length ++ text)

/-- What a writer whose `Outcome` is dropped has appended. -/
def orNothing : Outcome Bytes → Bytes
  | .ok bytes => bytes
  | .error _ => []

def putText (text : Bytes) (maxLength : Nat) : Bytes := orNothing (writeText text maxLength)

def putBytes (data : Bytes) (maxLength : Nat) : Bytes :=
  orNothing (writeBytes data maxLength)

theorem writeText_eq_ok {text : Bytes} {maxLength : Nat} (hMax : maxLength < 2 ^ 32)
    (h : text.length ≤ maxLength) :
    writeText text maxLength = .ok (u32 (UInt32.ofNat text.length) ++ text) := by
  rw [writeText, if_neg (by omega), checkedU32, if_neg (by omega)]
  rfl

/-- A text field that was written respects its bound and carries its length. -/
theorem writeText_inv {text out : Bytes} {maxLength : Nat}
    (h : writeText text maxLength = .ok out) :
    text.length ≤ maxLength ∧ text.length < 2 ^ 32 ∧
      out = u32 (UInt32.ofNat text.length) ++ text := by
  unfold writeText at h
  split at h
  · cases h
  · rename_i hLen
    unfold checkedU32 at h
    split at h
    · cases h
    · rename_i hWord
      cases h
      exact ⟨by omega, by omega, rfl⟩

theorem putText_eq {text : Bytes} {maxLength : Nat} (hMax : maxLength < 2 ^ 32)
    (h : text.length ≤ maxLength) :
    putText text maxLength = u32 (UInt32.ofNat text.length) ++ text := by
  rw [putText, writeText_eq_ok hMax h, orNothing]

theorem putBytes_eq {data : Bytes} {maxLength : Nat} (hMax : maxLength < 2 ^ 32)
    (h : data.length ≤ maxLength) :
    putBytes data maxLength = u32 (UInt32.ofNat data.length) ++ data := by
  rw [putBytes, writeBytes, if_neg (by omega), checkedU32, if_neg (by omega)]
  rfl

/-! ## Reader -/

/-- A reader of the source: it fails with an `Error`. -/
abbrev ByteReader (α : Type) := Reader Error α

def encodingError (code : ErrorCode) (message detail : Bytes) : Error :=
  { code, message, detail }

def readU8 : ByteReader UInt8 := do
  let raw ← readExact 1 (encodingError .malformedEncoding (txt "truncated byte") [])
  pure (UInt8.ofNat (leValue raw))

def readU16 : ByteReader UInt16 := do
  let raw ← readExact 2 (encodingError .malformedEncoding (txt "truncated u16") [])
  pure (UInt16.ofNat (leValue raw))

def readU32 : ByteReader UInt32 := do
  let raw ← readExact 4 (encodingError .malformedEncoding (txt "truncated u32") [])
  pure (UInt32.ofNat (leValue raw))

def readU64 : ByteReader UInt64 := do
  let raw ← readExact 8 (encodingError .malformedEncoding (txt "truncated u64") [])
  pure (UInt64.ofNat (leValue raw))

def readI64 : ByteReader Int64 := do
  let raw ← readU64
  pure raw.toInt64

def readBool : ByteReader Bool := do
  let raw ← readU8
  if raw > 1 then
    fail (encodingError .malformedEncoding (txt "boolean field is neither 0 nor 1")
      (txt "value=" ++ decimal raw.toNat))
  else pure (raw == 1)

/-- The bytes that `ByteReader::Text` refuses inside a text field. -/
def isControl (raw : UInt8) : Bool := raw < 0x20 || raw == 0x7F

/-- The character loop of `ByteReader::Text`. -/
def rejectControl (text : Bytes) : Outcome Bytes :=
  match text.find? isControl with
  | some raw =>
      failure .malformedEncoding (txt "text field contains a control character")
        (txt "byte=" ++ decimal raw.toNat)
  | none => .ok text

def readBytes (maxLength : Nat) : ByteReader Bytes := do
  let length ← readU32
  let declared := length.toNat
  if declared > maxLength then
    fail (encodingError .payloadTooLarge
      (txt "declared byte string length exceeds the allowed bound")
      (txt "length=" ++ decimal declared ++ txt " bound=" ++ decimal maxLength))
  else do
    let available ← remaining
    readExact declared (encodingError .malformedEncoding
      (txt "declared byte string length exceeds the available data")
      (txt "declared=" ++ decimal declared ++ txt " available=" ++ decimal available))

def readText (maxLength : Nat) : ByteReader Bytes := do
  let length ← readU32
  let declared := length.toNat
  if declared > maxLength then
    fail (encodingError .textTooLong
      (txt "declared text length exceeds the allowed bound")
      (txt "length=" ++ decimal declared ++ txt " bound=" ++ decimal maxLength))
  else do
    let available ← remaining
    let text ← readExact declared (encodingError .malformedEncoding
      (txt "declared text length exceeds the available data")
      (txt "declared=" ++ decimal declared ++ txt " available=" ++ decimal available))
    accept (rejectControl text)

/-- `ByteReader::ExpectEnd`: fails unless every byte has been consumed. -/
def expectEnd : ByteReader Unit := do
  let left ← remaining
  if left != 0 then
    fail (encodingError .frameTrailingBytes (txt "trailing bytes remain after decoding")
      (txt "remaining=" ++ decimal left))
  else pure ()

/-- Decode a complete payload: the reader followed by `ExpectEnd`. -/
def readWhole {α : Type} (rd : ByteReader α) (payload : Bytes) : Outcome α := do
  let (a, rest) ← rd payload
  let _ ← expectEnd rest
  pure a

/-! ## Reading back what was written -/

section Decodes

variable {α : Type}

/-- A payload is decoded to what its reader returns in front of it. -/
theorem readWhole_eq_ok {rd : ByteReader α} {bs : Bytes} {r : Option α} {a : α}
    (h : Decodes rd bs r) : readWhole rd bs = .ok a ↔ r = some a := by
  cases r with
  | none =>
      obtain ⟨e, he⟩ := h []
      rw [List.append_nil] at he
      simp [readWhole, he, bind, Except.bind]
  | some b =>
      have hb := h []
      rw [List.append_nil] at hb
      have hWhole : readWhole rd bs = .ok b := by
        rw [readWhole, hb]
        rfl
      rw [hWhole, Except.ok.injEq, Option.some.injEq]

/-- A little-endian field of `w` bytes, read back into a word that fits it. -/
theorem decodes_word {w v : Nat} (ofNat : Nat → α) (e : Error) (hv : v < 256 ^ w) :
    Decodes (readExact w e >>= fun raw => pure (ofNat (leValue raw)) : ByteReader α)
      (leBytes w v) (some (ofNat v)) := by
  have hRead : Decodes (readExact w e : ByteReader Bytes) (leBytes w v)
      (some (leBytes w v)) := by
    have h := Decodes.readExact (leBytes w v) e
    rwa [length_leBytes] at h
  have h := Decodes.map (fun raw => ofNat (leValue raw)) hRead
  rwa [Option.map_some, leValue_leBytes hv] at h

theorem decodes_u8 (v : UInt8) : Decodes readU8 (u8 v) (some v) := by
  have hv : v.toNat < 256 := v.toNat_lt
  have h := decodes_word (w := 1) UInt8.ofNat
    (encodingError .malformedEncoding (txt "truncated byte") []) (by omega : v.toNat < 256 ^ 1)
  simpa [leBytes, u8, readU8] using h

theorem decodes_u16 (v : UInt16) : Decodes readU16 (u16 v) (some v) := by
  have hv : v.toNat < 2 ^ 16 := v.toNat_lt
  have h := decodes_word (w := 2) UInt16.ofNat
    (encodingError .malformedEncoding (txt "truncated u16") []) (by omega : v.toNat < 256 ^ 2)
  simpa [u16, readU16] using h

theorem decodes_u32 (v : UInt32) : Decodes readU32 (u32 v) (some v) := by
  have hv : v.toNat < 2 ^ 32 := v.toNat_lt
  have h := decodes_word (w := 4) UInt32.ofNat
    (encodingError .malformedEncoding (txt "truncated u32") []) (by omega : v.toNat < 256 ^ 4)
  simpa [u32, readU32] using h

theorem decodes_u64 (v : UInt64) : Decodes readU64 (u64 v) (some v) := by
  have hv : v.toNat < 2 ^ 64 := v.toNat_lt
  have h := decodes_word (w := 8) UInt64.ofNat
    (encodingError .malformedEncoding (txt "truncated u64") []) (by omega : v.toNat < 256 ^ 8)
  simpa [u64, readU64] using h

theorem decodes_i64 (v : Int64) : Decodes readI64 (i64 v) (some v) := by
  have h := Decodes.map UInt64.toInt64 (decodes_u64 v.toUInt64)
  simpa [readI64, i64] using h

theorem decodes_bool (v : Bool) : Decodes readBool (bool v) (some v) := by
  have h : Decodes readBool (u8 (if v then 1 else 0) ++ []) (some v) :=
    Decodes.bind_some (decodes_u8 _) (by cases v <;> exact Decodes.pure _)
  simpa [bool] using h

/-- Bytes of the width of a word are the rendering of one. -/
theorem exists_u16 {bs : Bytes} (h : bs.length = 2) : ∃ v, bs = u16 v := by
  have hValue := leValue_lt bs
  rw [h] at hValue
  refine ⟨UInt16.ofNat (leValue bs), ?_⟩
  rw [u16, UInt16.toNat_ofNat_of_lt' hValue, ← h, leBytes_leValue]

theorem exists_u32 {bs : Bytes} (h : bs.length = 4) : ∃ v, bs = u32 v := by
  have hValue := leValue_lt bs
  rw [h] at hValue
  refine ⟨UInt32.ofNat (leValue bs), ?_⟩
  rw [u32, UInt32.toNat_ofNat_of_lt' hValue, ← h, leBytes_leValue]

theorem exists_u64 {bs : Bytes} (h : bs.length = 8) : ∃ v, bs = u64 v := by
  have hValue := leValue_lt bs
  rw [h] at hValue
  refine ⟨UInt64.ofNat (leValue bs), ?_⟩
  rw [u64, UInt64.toNat_ofNat_of_lt' hValue, ← h, leBytes_leValue]

/-- The length prefix of a size reads back as the size modulo `2 ^ 32`. -/
theorem decodes_sizeU32 (n : Nat) :
    Decodes readU32 (sizeU32 n) (some (UInt32.ofNat n)) :=
  decodes_u32 _

theorem toNat_sizeU32 {n : Nat} (h : n < 2 ^ 32) : (UInt32.ofNat n).toNat = n := by
  simpa using Nat.mod_eq_of_lt h

theorem decodes_remaining {f : Nat → ByteReader α} {bs : Bytes} {r : Option α}
    (h : ∀ n, Decodes (f n) bs r) : Decodes (remaining >>= f) bs r := by
  cases r with
  | none =>
      intro rest
      exact h _ rest
  | some a =>
      intro rest
      exact h _ rest

/-- A text field reads back exactly when it holds no control character. -/
theorem decodes_text {text : Bytes} {maxLength : Nat} (hMax : text.length ≤ maxLength)
    (hWord : text.length < 2 ^ 32) :
    Decodes (readText maxLength) (u32 (UInt32.ofNat text.length) ++ text)
      (rejectControl text).toOption := by
  refine Decodes.bind_some (decodes_u32 _) ?_
  rw [toNat_sizeU32 hWord]
  simp only [gt_iff_lt, Nat.not_lt.2 hMax, if_false]
  refine decodes_remaining fun available => ?_
  exact Decodes.checked rejectControl (Decodes.readExact text _)

theorem decodes_bytes {data : Bytes} {maxLength : Nat} (hMax : data.length ≤ maxLength)
    (hWord : data.length < 2 ^ 32) :
    Decodes (readBytes maxLength) (u32 (UInt32.ofNat data.length) ++ data)
      (some data) := by
  refine Decodes.bind_some (decodes_u32 _) ?_
  rw [toNat_sizeU32 hWord]
  simp only [gt_iff_lt, Nat.not_lt.2 hMax, if_false]
  exact decodes_remaining fun available => Decodes.readExact data _

end Decodes

end FabricCapability.Ports
