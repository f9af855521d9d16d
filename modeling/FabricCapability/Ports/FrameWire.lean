import FabricCapability.Ports.ResultWire
import FabricCapability.Verified.ChunkedInput

/-!
# Frames on a connection

Translation of `DecodeFrame` in `src/wire.cpp` and of `ReceiveAll` and `ReceiveFrame` in
`src/distributed.cpp`.

A frame is a header of fixed size, a payload whose length the header declares, and a
checksum over both.  `DecodeFrame` is given the bytes of one frame; `ReceiveFrame` finds
their number in the header, reads them from a socket and decodes them.  The bytes of a
socket arrive in pieces that do not respect the frames.

## Main results

* `decodeFrame_eq_ok`: the frames that are decoded are those of the protocol version, each
  from the bytes it is encoded as and from no others.
* `receiveFrame_encoded`: a frame in front of the input of a socket is received, and
  nothing behind it is touched.
* `receiveFrames_encoded`: a list of frames is received in order, and nothing else.
-/

namespace FabricCapability.Ports

open FabricCapability.Verified.ByteCodec
open FabricCapability.Verified.ChunkedInput

/-! ## Decoding a frame -/

def kFrameHeaderBytes : Nat := 24

structure WireFrame where
  version : UInt16 := 0
  type : WireMessageType := .hello
  flags : UInt32 := 0
  requestId : UInt64 := 0
  payload : Bytes := []
  deriving DecidableEq, Repr

/-- The fields of a header behind the magic. -/
structure FrameFields where
  version : UInt16
  type : UInt16
  flags : UInt32
  requestId : UInt64
  payloadLength : UInt32

def readFrameFields : ByteReader FrameFields := do
  let version ← readU16
  let type ← readU16
  let flags ← readU32
  let requestId ← readU64
  let payloadLength ← readU32
  pure { version, type, flags, requestId, payloadLength }

/-- `WireValueOf`. -/
def wireValueOf {α : Type} (table : List α) (raw : Nat) : Option α := table[raw]?

/-- The detail of the two failures about the size of a frame. -/
def sizeDetail (actual expected : Nat) : Bytes :=
  txt "actual=" ++ decimal actual ++ txt " expected=" ++ decimal expected

/-- The part of `DecodeFrame` behind the header. -/
def decodeFrameBody (bytes : Bytes) (fields : FrameFields) : Outcome WireFrame :=
  if fields.version ≠ kProtocolVersion then
    failure .frameVersionUnsupported (txt "frame protocol version is not supported")
      (decimal fields.version.toNat)
  else
    match wireValueOf kMessageTypeWire fields.type.toNat with
    | none =>
        failure .frameTypeUnknown (txt "frame message type is unknown")
          (decimal fields.type.toNat)
    | some type =>
        let length := fields.payloadLength.toNat
        let expected := kFrameHeaderBytes + length + 4
        if length > kMaxFrameBytes then
          failure .frameTooLarge (txt "declared payload length exceeds the bound")
            (decimal length)
        else if bytes.length < expected then
          failure .frameMalformed (txt "frame is shorter than the declared payload length")
            (sizeDetail bytes.length expected)
        else if bytes.length ≠ expected then
          failure .frameTrailingBytes
            (txt "frame size does not match the declared payload length")
            (sizeDetail bytes.length expected)
        else do
          let payload := (bytes.drop kFrameHeaderBytes).take length
          let (crc, _) ← readU32 ((bytes.drop (kFrameHeaderBytes + length)).take 4)
          if crc ≠ crc32 (bytes.take kFrameHeaderBytes ++ payload) then
            failure .frameIntegrityFailure
              (txt "frame header and payload CRC does not match") []
          else
            pure { version := fields.version, type, flags := fields.flags,
                   requestId := fields.requestId, payload }

def decodeFrame (bytes : Bytes) : Outcome WireFrame :=
  if bytes.length < kFrameHeaderBytes then
    failure .frameMalformed (txt "frame is shorter than its header") (decimal bytes.length)
  else if bytes.take 4 ≠ kFrameMagic then
    failure .frameMalformed (txt "frame magic does not match") []
  else do
    let (fields, _) ← readFrameFields ((bytes.drop 4).take (kFrameHeaderBytes - 4))
    decodeFrameBody bytes fields

/-! ## Headers -/

/-- The bytes of the fields of a header. -/
def FrameFields.bytes (fields : FrameFields) : Bytes :=
  u16 fields.version ++ (u16 fields.type ++ (u32 fields.flags ++
    (u64 fields.requestId ++ u32 fields.payloadLength)))

@[simp] theorem FrameFields.length_bytes (fields : FrameFields) : fields.bytes.length = 20 := by
  simp [bytes]

theorem decodes_frameFields (fields : FrameFields) :
    Decodes readFrameFields fields.bytes (some fields) := by
  refine Decodes.bind_some (decodes_u16 fields.version) ?_
  refine Decodes.bind_some (decodes_u16 fields.type) ?_
  refine Decodes.bind_some (decodes_u32 fields.flags) ?_
  refine Decodes.bind_some (decodes_u64 fields.requestId) ?_
  exact Decodes.map (fun payloadLength => ({ fields with payloadLength } : FrameFields))
    (decodes_u32 fields.payloadLength)

theorem readFrameFields_bytes (fields : FrameFields) :
    readFrameFields fields.bytes = .ok (fields, []) :=
  (Decodes.run_eq_ok (decodes_frameFields fields)).2 rfl

/-- Twenty bytes are the fields of a header, whatever they are. -/
theorem exists_frameFields {bs : Bytes} (h : bs.length = 20) :
    ∃ fields : FrameFields, bs = fields.bytes := by
  obtain ⟨version, hVersion⟩ := @exists_u16 (bs.take 2) (by simp; omega)
  obtain ⟨type, hType⟩ := @exists_u16 ((bs.drop 2).take 2) (by simp; omega)
  obtain ⟨flags, hFlags⟩ := @exists_u32 ((bs.drop 4).take 4) (by simp; omega)
  obtain ⟨requestId, hRequest⟩ := @exists_u64 ((bs.drop 8).take 8) (by simp; omega)
  obtain ⟨payloadLength, hLength⟩ := @exists_u32 (bs.drop 16) (by simp; omega)
  refine ⟨{ version, type, flags, requestId, payloadLength }, ?_⟩
  have hSplit (n w : Nat) : bs.drop n = (bs.drop n).take w ++ bs.drop (n + w) := by
    rw [← List.drop_drop, List.take_append_drop]
  calc bs = bs.take 2 ++ bs.drop 2 := (List.take_append_drop 2 bs).symm
    _ = _ := by rw [hSplit 2 2, hSplit 4 4, hSplit 8 8, hVersion, hType, hFlags, hRequest,
                  hLength]; rfl

/-- Bytes that are long enough for a header consist of a magic, the fields and the rest. -/
theorem exists_header {bytes : Bytes} (h : kFrameHeaderBytes ≤ bytes.length) :
    ∃ magic fields rest, magic.length = 4 ∧
      bytes = magic ++ FrameFields.bytes fields ++ rest := by
  simp only [kFrameHeaderBytes] at h
  obtain ⟨fields, hFields⟩ := @exists_frameFields ((bytes.drop 4).take 20) (by simp; omega)
  refine ⟨bytes.take 4, fields, bytes.drop 24, by simp; omega, ?_⟩
  have hSplit : bytes.drop 4 = (bytes.drop 4).take 20 ++ bytes.drop 24 := by
    rw [← List.drop_drop (i := 20) (j := 4), List.take_append_drop]
  calc bytes = bytes.take 4 ++ bytes.drop 4 := (List.take_append_drop 4 bytes).symm
    _ = bytes.take 4 ++ ((bytes.drop 4).take 20 ++ bytes.drop 24) := congrArg _ hSplit
    _ = _ := by rw [hFields, List.append_assoc]

/-- `DecodeFrame` on a header and the bytes behind it. -/
theorem decodeFrame_header {magic rest : Bytes} (fields : FrameFields)
    (hMagic : magic.length = 4) :
    decodeFrame (magic ++ fields.bytes ++ rest) =
      if magic ≠ kFrameMagic then
        failure .frameMalformed (txt "frame magic does not match") []
      else decodeFrameBody (magic ++ fields.bytes ++ rest) fields := by
  have hLong : ¬(magic ++ fields.bytes ++ rest).length < kFrameHeaderBytes := by
    simp only [List.length_append, FrameFields.length_bytes, kFrameHeaderBytes]
    omega
  have hTake : (magic ++ fields.bytes ++ rest).take 4 = magic := by
    rw [List.append_assoc, ← hMagic, List.take_left]
  have hFields : ((magic ++ fields.bytes ++ rest).drop 4).take (kFrameHeaderBytes - 4) =
      fields.bytes := by
    rw [List.append_assoc, ← hMagic, List.drop_left, hMagic]
    exact List.take_left' (fields.length_bytes)
  rw [decodeFrame, if_neg hLong, hTake, hFields, readFrameFields_bytes]
  rfl

/-! ## What is decoded -/

/-- The fields that `EncodeFrame` writes in front of a payload of the given length. -/
def encodedFields (type : WireMessageType) (flags : UInt32) (requestId : UInt64)
    (length : Nat) : FrameFields where
  version := kProtocolVersion
  type := UInt16.ofNat (wireCodeOf kMessageTypeWire type)
  flags := flags
  requestId := requestId
  payloadLength := UInt32.ofNat length

theorem frameHeader_eq (type : WireMessageType) (flags : UInt32) (requestId : UInt64)
    (length : Nat) :
    frameHeader type flags requestId (UInt32.ofNat length) =
      kFrameMagic ++ (encodedFields type flags requestId length).bytes := by
  simp only [frameHeader, FrameFields.bytes, encodedFields, List.append_assoc]

/-- A payload within the bound has the length that the header declares. -/
theorem encodedFields_payloadLength (type : WireMessageType) (flags : UInt32)
    (requestId : UInt64) {length : Nat} (h : length ≤ kMaxFrameBytes) :
    (encodedFields type flags requestId length).payloadLength.toNat = length := by
  refine toNat_sizeU32 ?_
  simp only [kMaxFrameBytes] at h
  omega

theorem wireValueOf_code (type : WireMessageType) :
    wireValueOf kMessageTypeWire
      (UInt16.ofNat (wireCodeOf kMessageTypeWire type)).toNat = some type := by
  cases type <;> decide

/-- A type is read from its own code and from no other. -/
theorem code_of_wireValueOf {raw : UInt16} {type : WireMessageType}
    (h : wireValueOf kMessageTypeWire raw.toNat = some type) :
    raw = UInt16.ofNat (wireCodeOf kMessageTypeWire type) := by
  obtain ⟨hRaw, hType⟩ := List.getElem?_eq_some_iff.1 h
  have hDistinct : kMessageTypeWire.Nodup := by decide
  have hMember : type ∈ kMessageTypeWire := by cases type <;> decide
  have hIndex : kMessageTypeWire.idxOf type = raw.toNat := by
    rw [← hType, hDistinct.idxOf_getElem]
  rw [wireCodeOf, if_pos hMember, hIndex, UInt16.ofNat_toNat]

/-- The bytes of a frame, when its payload is within the bound. -/
theorem encodeFrame_eq_ok {type : WireMessageType} {flags : UInt32} {requestId : UInt64}
    {payload bytes : Bytes} :
    encodeFrame type flags requestId payload = .ok bytes ↔
      payload.length ≤ kMaxFrameBytes ∧
        bytes = frameHeader type flags requestId (UInt32.ofNat payload.length) ++ payload ++
          u32 (crc32 (frameHeader type flags requestId (UInt32.ofNat payload.length) ++
            payload)) := by
  have hType : ¬wireCodeOf kMessageTypeWire type ≥ kMessageTypeWire.length := by
    cases type <;> decide
  unfold encodeFrame
  by_cases hLength : payload.length > kMaxFrameBytes
  · rw [if_pos hLength]
    simp [failure, Nat.not_le.2 hLength]
  · have hWord : ¬payload.length > 0xFFFFFFFF := by
      simp only [kMaxFrameBytes] at hLength
      omega
    rw [if_neg hLength, if_neg hType, checkedU32, if_neg hWord]
    simp only [Except.ok.injEq, Nat.not_lt.1 hLength, true_and]
    exact eq_comm

/-- Bytes that end in a checksum. -/
theorem exists_trailer {rest : Bytes} {n : Nat} (h : rest.length = n + 4) :
    ∃ payload crc, payload.length = n ∧ rest = payload ++ u32 crc := by
  obtain ⟨crc, hCrc⟩ := @exists_u32 (rest.drop n) (by simp; omega)
  refine ⟨rest.take n, crc, by simp; omega, ?_⟩
  rw [← hCrc, List.take_append_drop]

theorem readU32_bytes (v : UInt32) : readU32 (u32 v) = .ok (v, []) :=
  (Decodes.run_eq_ok (decodes_u32 v)).2 rfl

/-- The body of a frame whose size is the declared one is decoded up to its checksum. -/
theorem decodeFrameBody_sized {header payload : Bytes} {crc : UInt32} {fields : FrameFields}
    {type : WireMessageType} (hHeader : header.length = kFrameHeaderBytes)
    (hVersion : fields.version = kProtocolVersion)
    (hType : wireValueOf kMessageTypeWire fields.type.toNat = some type)
    (hBound : fields.payloadLength.toNat ≤ kMaxFrameBytes)
    (hPayload : payload.length = fields.payloadLength.toNat) :
    decodeFrameBody (header ++ (payload ++ u32 crc)) fields =
      if crc ≠ crc32 (header ++ payload) then
        failure .frameIntegrityFailure (txt "frame header and payload CRC does not match") []
      else .ok { version := fields.version, type, flags := fields.flags,
                 requestId := fields.requestId, payload } := by
  have hTotal : (header ++ (payload ++ u32 crc)).length =
      kFrameHeaderBytes + fields.payloadLength.toNat + 4 := by
    simp only [List.length_append, hHeader, hPayload, length_u32]
    omega
  have hTake : (header ++ (payload ++ u32 crc)).take kFrameHeaderBytes = header :=
    List.take_left' hHeader
  have hBody : (header ++ (payload ++ u32 crc)).drop kFrameHeaderBytes =
      payload ++ u32 crc := List.drop_left' hHeader
  have hFront : (payload ++ u32 crc).take fields.payloadLength.toNat = payload :=
    List.take_left' hPayload
  have hTrailer : ((header ++ (payload ++ u32 crc)).drop
      (kFrameHeaderBytes + fields.payloadLength.toNat)).take 4 = u32 crc := by
    rw [← List.drop_drop, hBody, List.drop_left' hPayload]
    exact List.take_of_length_le (length_u32 crc).le
  unfold decodeFrameBody
  rw [if_neg (not_not.2 hVersion), hType]
  dsimp only
  rw [if_neg (Nat.not_lt.2 hBound), hTotal, if_neg (Nat.lt_irrefl _), if_neg (not_not.2 rfl),
    hTake, hBody, hFront, hTrailer, readU32_bytes]
  rfl

/-- A body of another size is refused. -/
theorem decodeFrameBody_size {header rest : Bytes} {fields : FrameFields} {frame : WireFrame}
    (hHeader : header.length = kFrameHeaderBytes)
    (h : decodeFrameBody (header ++ rest) fields = .ok frame) :
    fields.version = kProtocolVersion ∧
      (∃ type, wireValueOf kMessageTypeWire fields.type.toNat = some type) ∧
      fields.payloadLength.toNat ≤ kMaxFrameBytes ∧
      rest.length = fields.payloadLength.toNat + 4 := by
  unfold decodeFrameBody at h
  rw [ite_failure_eq_ok] at h
  obtain ⟨hVersion, h⟩ := h
  cases hType : wireValueOf kMessageTypeWire fields.type.toNat with
  | none =>
      rw [hType] at h
      cases h
  | some type =>
      rw [hType] at h
      dsimp only at h
      rw [ite_failure_eq_ok, ite_failure_eq_ok, ite_failure_eq_ok] at h
      obtain ⟨hBound, hShort, hLong, -⟩ := h
      rw [List.length_append, hHeader] at hShort hLong
      exact ⟨not_not.1 hVersion, ⟨type, rfl⟩, by omega, by omega⟩

/-- The frames that are decoded are those of the protocol version, each from the bytes that
it is encoded as. -/
theorem decodeFrame_eq_ok {bytes : Bytes} {frame : WireFrame} :
    decodeFrame bytes = .ok frame ↔
      frame.version = kProtocolVersion ∧
        encodeFrame frame.type frame.flags frame.requestId frame.payload = .ok bytes := by
  constructor
  · intro h
    have hLong : kFrameHeaderBytes ≤ bytes.length := by
      rw [decodeFrame, ite_failure_eq_ok] at h
      omega
    obtain ⟨magic, fields, rest, hMagicLength, rfl⟩ := exists_header hLong
    rw [decodeFrame_header fields hMagicLength, ite_failure_eq_ok] at h
    obtain ⟨hMagic, h⟩ := h
    obtain rfl := not_not.1 hMagic
    have hHeader : (kFrameMagic ++ fields.bytes).length = kFrameHeaderBytes := by
      rw [List.length_append, fields.length_bytes]
      rfl
    obtain ⟨hVersion, ⟨type, hType⟩, hBound, hRest⟩ := decodeFrameBody_size hHeader h
    obtain ⟨payload, crc, hPayload, rfl⟩ := exists_trailer hRest
    rw [decodeFrameBody_sized hHeader hVersion hType hBound hPayload, ite_failure_eq_ok] at h
    obtain ⟨hCrc, h⟩ := h
    obtain rfl := Except.ok.inj h
    refine ⟨hVersion, encodeFrame_eq_ok.2 ⟨hPayload.trans_le hBound, ?_⟩⟩
    have hFields : frameHeader type fields.flags fields.requestId
        (UInt32.ofNat payload.length) = kFrameMagic ++ fields.bytes := by
      rw [frameHeader_eq, encodedFields, ← code_of_wireValueOf hType, hPayload,
        UInt32.ofNat_toNat, ← hVersion]
    dsimp only
    rw [hFields, not_not.1 hCrc]
    simp only [List.append_assoc]
  · rintro ⟨hVersion, hEncode⟩
    obtain ⟨hBound, rfl⟩ := encodeFrame_eq_ok.1 hEncode
    have hWord := encodedFields_payloadLength frame.type frame.flags frame.requestId hBound
    rw [frameHeader_eq, List.append_assoc, decodeFrame_header _ rfl, if_neg (by simp),
      decodeFrameBody_sized rfl rfl (wireValueOf_code frame.type)
        (by rw [hWord]; exact hBound) hWord.symm, if_neg (by simp)]
    obtain ⟨version, type, flags, requestId, payload⟩ := frame
    obtain rfl : version = kProtocolVersion := hVersion
    rfl

/-! ## Receiving frames -/

/-- A connected socket.  Its failure is the text of `LastSocketError`. -/
abbrev Socket := Source UInt8 Bytes

/-- The most that one `recv` of `ReceiveAll` asks for. -/
def kReceiveWindow : Nat := 1048576

theorem kReceiveWindow_pos : 0 < kReceiveWindow := Nat.succ_pos 1048575

def endOfInput : Option Bytes → Error
  | none => { code := .transportClosed, message := txt "peer closed the connection", detail := [] }
  | some detail =>
      { code := .transportFailure, message := txt "socket receive failed", detail }

def receiveAll (size : Nat) (socket : Socket) : Outcome Bytes × Socket :=
  let (received, socket) := socket.gather kReceiveWindow kReceiveWindow_pos size
  (received.mapError endOfInput, socket)

/-- The part of `ReceiveFrame` behind the reading of the header. -/
def receiveFrameBody (header : Bytes) (socket : Socket) : Outcome WireFrame × Socket :=
  if header.take 4 ≠ kFrameMagic then
    (failure .frameMalformed (txt "frame magic does not match") [], socket)
  else
    match readFrameFields (header.drop 4) with
    | .error e => (.error e, socket)
    | .ok (fields, _) =>
        let length := fields.payloadLength.toNat
        if length > kMaxFrameBytes then
          (failure .frameTooLarge (txt "declared frame payload exceeds the bound")
            (decimal length), socket)
        else
          match receiveAll (length + 4) socket with
          | (.error e, socket) => (.error e, socket)
          | (.ok rest, socket) => (decodeFrame (header ++ rest), socket)

def receiveFrame (socket : Socket) : Outcome WireFrame × Socket :=
  match receiveAll kFrameHeaderBytes socket with
  | (.error e, socket) => (.error e, socket)
  | (.ok header, socket) => receiveFrameBody header socket

/-- `ReceiveFrame` a number of times, until one call fails. -/
def receiveFrames : Nat → Socket → Outcome (List WireFrame) × Socket
  | 0, socket => (.ok [], socket)
  | count + 1, socket =>
      match receiveFrame socket with
      | (.error e, socket) => (.error e, socket)
      | (.ok frame, socket) =>
          let (frames, socket) := receiveFrames count socket
          (frames.map (frame :: ·), socket)

/-- The bytes of a frame, sent with its own fields. -/
def WireFrame.encode (frame : WireFrame) : Outcome Bytes :=
  encodeFrame frame.type frame.flags frame.requestId frame.payload

/-- What `ReceiveAll` returns when enough has been sent. -/
theorem receiveAll_front {socket : Socket} {front rest : Bytes}
    (h : socket.items = front ++ rest) :
    ∃ socket' : Socket, receiveAll front.length socket = (.ok front, socket') ∧
      socket'.items = rest ∧ socket'.failure = socket.failure := by
  have hEnough : front.length ≤ socket.items.length := by
    rw [h, List.length_append]
    omega
  obtain ⟨socket', hGather, hItems, hFailure⟩ :=
    Source.gather_enough kReceiveWindow_pos front.length socket hEnough
  refine ⟨socket', ?_, ?_, hFailure⟩
  · rw [receiveAll, hGather, h, List.take_left]
    rfl
  · rw [hItems, h, List.drop_left]

/-- A socket without input reports how the connection ended. -/
theorem receiveFrame_end {socket : Socket} (h : socket.items = []) :
    (receiveFrame socket).1 = .error (endOfInput socket.failure) := by
  have hShort : socket.items.length < kFrameHeaderBytes := by
    rw [h]
    decide
  obtain ⟨socket', hGather, -⟩ :=
    Source.gather_short kReceiveWindow_pos kFrameHeaderBytes socket hShort
  rw [receiveFrame, receiveAll, hGather]
  rfl

/-- A frame in front of the input is received, whatever the pieces it arrives in, and what
follows it stays. -/
theorem receiveFrame_encoded {socket : Socket} {frame : WireFrame} {bytes rest : Bytes}
    (hVersion : frame.version = kProtocolVersion) (hEncode : frame.encode = .ok bytes)
    (hItems : socket.items = bytes ++ rest) :
    ∃ socket' : Socket, receiveFrame socket = (.ok frame, socket') ∧
      socket'.items = rest ∧ socket'.failure = socket.failure := by
  have hDecode : decodeFrame bytes = .ok frame := decodeFrame_eq_ok.2 ⟨hVersion, hEncode⟩
  obtain ⟨hBound, rfl⟩ := encodeFrame_eq_ok.1 hEncode
  have hLength := encodedFields_payloadLength frame.type frame.flags frame.requestId hBound
  rw [frameHeader_eq] at hDecode hItems
  generalize encodedFields frame.type frame.flags frame.requestId frame.payload.length = fields
    at hDecode hItems hLength
  -- the input: the header, the body of the frame, and what follows
  generalize hCrc : u32 (crc32 (kFrameMagic ++ fields.bytes ++ frame.payload)) = trailer
    at hDecode hItems
  have hTrailer : (frame.payload ++ trailer).length = fields.payloadLength.toNat + 4 := by
    rw [List.length_append, ← hCrc, length_u32, hLength]
  rw [List.append_assoc, List.append_assoc] at hItems
  rw [List.append_assoc (kFrameMagic ++ fields.bytes)] at hDecode
  have hHeader : (kFrameMagic ++ fields.bytes).length = kFrameHeaderBytes := by
    rw [List.length_append, fields.length_bytes]
    rfl
  obtain ⟨middle, hFirst, hMiddle, hFailure⟩ := receiveAll_front hItems
  rw [← List.append_assoc] at hMiddle
  obtain ⟨socket', hSecond, hRest, hFailure'⟩ := receiveAll_front hMiddle
  refine ⟨socket', ?_, hRest, hFailure'.trans hFailure⟩
  have hTake : (kFrameMagic ++ fields.bytes).take 4 = kFrameMagic := List.take_left' rfl
  have hDrop : (kFrameMagic ++ fields.bytes).drop 4 = fields.bytes := List.drop_left' rfl
  rw [hHeader] at hFirst
  rw [hTrailer] at hSecond
  rw [receiveFrame, hFirst]
  dsimp only
  rw [receiveFrameBody, hTake, if_neg (not_not.2 rfl), hDrop, readFrameFields_bytes]
  dsimp only
  have hFits : ¬fields.payloadLength.toNat > kMaxFrameBytes := by
    rw [hLength]
    exact Nat.not_lt.2 hBound
  rw [if_neg hFits, hSecond]
  dsimp only
  rw [hDecode]

/-- A list of frames is received in order, and nothing behind them is touched. -/
theorem receiveFrames_encoded {frames : List WireFrame} {encodings : List Bytes}
    (hVersion : ∀ frame ∈ frames, frame.version = kProtocolVersion)
    (hEncode : List.Forall₂ (fun frame bytes => WireFrame.encode frame = .ok bytes)
      frames encodings)
    {socket : Socket} {rest : Bytes} (hItems : socket.items = encodings.flatten ++ rest) :
    ∃ socket' : Socket, receiveFrames frames.length socket = (.ok frames, socket') ∧
      socket'.items = rest ∧ socket'.failure = socket.failure := by
  induction hEncode generalizing socket with
  | nil => exact ⟨socket, rfl, hItems, rfl⟩
  | @cons frame bytes frames encodings hFrame hFrames ih =>
      rw [List.flatten_cons, List.append_assoc] at hItems
      obtain ⟨middle, hFirst, hMiddle, hFailure⟩ :=
        receiveFrame_encoded (hVersion frame (List.mem_cons_self ..)) hFrame hItems
      obtain ⟨socket', hOthers, hRest, hFailure'⟩ :=
        ih (fun other hMem => hVersion other (List.mem_cons_of_mem _ hMem)) hMiddle
      refine ⟨socket', ?_, hRest, hFailure'.trans hFailure⟩
      rw [List.length_cons, receiveFrames, hFirst]
      dsimp only
      rw [hOthers]
      rfl

/--
**Frame exactness**: the bytes that decode to a frame are those the frame is encoded as, and
a connection that carries a list of encoded frames, cut into pieces anywhere, delivers this
list and then its end.
-/
theorem frames_are_exact :
    (∀ (bytes : Bytes) (frame : WireFrame), decodeFrame bytes = .ok frame ↔
      frame.version = kProtocolVersion ∧ frame.encode = .ok bytes) ∧
    ∀ (frames : List WireFrame) (encodings : List Bytes) (socket : Socket),
      (∀ frame ∈ frames, frame.version = kProtocolVersion) →
      List.Forall₂ (fun frame bytes => WireFrame.encode frame = .ok bytes) frames encodings →
      socket.items = encodings.flatten →
      ∃ socket' : Socket, receiveFrames frames.length socket = (.ok frames, socket') ∧
        socket'.items = [] ∧
        (receiveFrame socket').1 = .error (endOfInput socket.failure) := by
  refine ⟨fun bytes frame => decodeFrame_eq_ok, ?_⟩
  intro frames encodings socket hVersion hEncode hItems
  rw [← List.append_nil encodings.flatten] at hItems
  obtain ⟨socket', hReceive, hRest, hFailure⟩ :=
    receiveFrames_encoded hVersion hEncode hItems
  exact ⟨socket', hReceive, hRest, by rw [receiveFrame_end hRest, hFailure]⟩

/-- Two short frames. -/
def Sample.frames : List WireFrame :=
  [{ version := kProtocolVersion, requestId := 7, payload := txt "abc" },
   { version := kProtocolVersion, type := .goodbye }]

def Sample.encodings : List Bytes :=
  Sample.frames.map fun frame => frame.encode.toOption.getD []

/-- Their bytes, with a boundary inside the first header and none between the frames. -/
def Sample.socket : Socket where
  pieces :=
    [⟨Sample.encodings.flatten.take 10, by decide +kernel⟩,
     ⟨Sample.encodings.flatten.drop 10, by decide +kernel⟩]
  failure := none

theorem sample_frames_delivered :
    ∃ socket' : Socket, receiveFrames Sample.frames.length Sample.socket =
        (.ok Sample.frames, socket') ∧
      socket'.items = [] ∧ (receiveFrame socket').1 = .error (endOfInput none) := by
  refine frames_are_exact.2 Sample.frames Sample.encodings Sample.socket (by decide) ?_
    (by decide +kernel)
  refine .cons ?_ (.cons ?_ .nil)
  · decide +kernel
  · decide +kernel

/-- A frame whose version was never set, as a default one is encoded with the version of the
protocol: it is not the frame that is decoded. -/
theorem unversioned_frame_not_decoded :
    ¬∀ (bytes : Bytes) (frame : WireFrame),
      decodeFrame bytes = .ok frame ↔ frame.encode = .ok bytes := by
  intro h
  obtain ⟨bytes, hEncode⟩ := (@encodeFrame_isOk .hello 0 0 []).2 (Nat.zero_le _)
  have hDecode := (h bytes {}).2 hEncode
  exact absurd (decodeFrame_eq_ok.1 hDecode).1 (by decide)

end FabricCapability.Ports
