import FabricCapability.Ports.Encoding

/-!
# Digests and checksums

Translation of `include/fabric/capability/digest.hpp` and `src/digest.cpp`: the
streaming SHA-256 behind every content digest of the library, the CRC-32 of the
store header, and the hexadecimal rendering from which identifiers are derived.

The 64-byte `buffer_` and its fill count `buffered_` are one list here, the bytes
that wait for a full block.  Loops over the input carry an explicit bound, so
that every function computes by structural recursion.
-/

namespace FabricCapability.Ports

/-! ## SHA-256 -/

def kDigestBytes : Nat := 32

/-- The round constants `kRoundConstants`. -/
def roundConstants : List UInt32 :=
  [0x428a2f98, 0x71374491, 0xb5c0fbcf, 0xe9b5dba5, 0x3956c25b, 0x59f111f1, 0x923f82a4,
   0xab1c5ed5, 0xd807aa98, 0x12835b01, 0x243185be, 0x550c7dc3, 0x72be5d74, 0x80deb1fe,
   0x9bdc06a7, 0xc19bf174, 0xe49b69c1, 0xefbe4786, 0x0fc19dc6, 0x240ca1cc, 0x2de92c6f,
   0x4a7484aa, 0x5cb0a9dc, 0x76f988da, 0x983e5152, 0xa831c66d, 0xb00327c8, 0xbf597fc7,
   0xc6e00bf3, 0xd5a79147, 0x06ca6351, 0x14292967, 0x27b70a85, 0x2e1b2138, 0x4d2c6dfc,
   0x53380d13, 0x650a7354, 0x766a0abb, 0x81c2c92e, 0x92722c85, 0xa2bfe8a1, 0xa81a664b,
   0xc24b8b70, 0xc76c51a3, 0xd192e819, 0xd6990624, 0xf40e3585, 0x106aa070, 0x19a4c116,
   0x1e376c08, 0x2748774c, 0x34b0bcb5, 0x391c0cb3, 0x4ed8aa4a, 0x5b9cca4f, 0x682e6ff3,
   0x748f82ee, 0x78a5636f, 0x84c87814, 0x8cc70208, 0x90befffa, 0xa4506ceb, 0xbef9a3f7,
   0xc67178f2]

def rotateRight (value : UInt32) (bits : UInt32) : UInt32 :=
  (value >>> bits) ||| (value <<< (32 - bits))

/-- The eight words `state_`. -/
structure HashState where
  a : UInt32
  b : UInt32
  c : UInt32
  d : UInt32
  e : UInt32
  f : UInt32
  g : UInt32
  h : UInt32
  deriving DecidableEq

/-- The initial value of `state_`. -/
def initialHashState : HashState :=
  { a := 0x6a09e667, b := 0xbb67ae85, c := 0x3c6ef372, d := 0xa54ff53a
    e := 0x510e527f, f := 0x9b05688c, g := 0x1f83d9ab, h := 0x5be0cd19 }

/-- The first sixteen schedule words: the block read as big-endian words. -/
def blockWords : Bytes → List UInt32
  | b0 :: b1 :: b2 :: b3 :: rest =>
      ((b0.toUInt32 <<< 24) ||| (b1.toUInt32 <<< 16) ||| (b2.toUInt32 <<< 8) ||| b3.toUInt32)
        :: blockWords rest
  | _ => []

/-- Extend the schedule by `n` words, each computed from the words 16, 15, 7 and
2 places before it. -/
def extendSchedule : Nat → List UInt32 → List UInt32
  | 0, schedule => schedule
  | n + 1, schedule =>
      let index := schedule.length
      let w15 := schedule.getD (index - 15) 0
      let w2 := schedule.getD (index - 2) 0
      let s0 := rotateRight w15 7 ^^^ rotateRight w15 18 ^^^ (w15 >>> 3)
      let s1 := rotateRight w2 17 ^^^ rotateRight w2 19 ^^^ (w2 >>> 10)
      extendSchedule n
        (schedule ++ [schedule.getD (index - 16) 0 + s0 + schedule.getD (index - 7) 0 + s1])

/-- One of the 64 rounds, with its round constant and schedule word. -/
def round (s : HashState) (k w : UInt32) : HashState :=
  let s1 := rotateRight s.e 6 ^^^ rotateRight s.e 11 ^^^ rotateRight s.e 25
  let choose := (s.e &&& s.f) ^^^ (~~~s.e &&& s.g)
  let temp1 := s.h + s1 + choose + k + w
  let s0 := rotateRight s.a 2 ^^^ rotateRight s.a 13 ^^^ rotateRight s.a 22
  let majority := (s.a &&& s.b) ^^^ (s.a &&& s.c) ^^^ (s.b &&& s.c)
  let temp2 := s0 + majority
  { a := temp1 + temp2, b := s.a, c := s.b, d := s.c
    e := s.d + temp1, f := s.e, g := s.f, h := s.g }

/-- `Sha256::Transform`: absorb one 64-byte block. -/
def transform (s : HashState) (block : Bytes) : HashState :=
  let schedule := extendSchedule 48 (blockWords block)
  let r := (roundConstants.zip schedule).foldl (fun acc kw => round acc kw.1 kw.2) s
  { a := s.a + r.a, b := s.b + r.b, c := s.c + r.c, d := s.d + r.d
    e := s.e + r.e, f := s.f + r.f, g := s.g + r.g, h := s.h + r.h }

/-- The streaming hasher. -/
structure Sha256 where
  state : HashState
  buffer : Bytes
  totalBytes : UInt64
  deriving DecidableEq

namespace Sha256

def start : Sha256 := { state := initialHashState, buffer := [], totalBytes := 0 }

/-- The copy loop of `Sha256::Update`; each turn takes what fits in the buffer
and absorbs the buffer when it is full. -/
def absorb : Nat → Sha256 → Bytes → Sha256
  | 0, hasher, _ => hasher
  | _ + 1, hasher, [] => hasher
  | fuel + 1, hasher, data =>
      let space := 64 - hasher.buffer.length
      let buffer := hasher.buffer ++ data.take space
      let hasher :=
        if buffer.length == 64 then
          { hasher with state := transform hasher.state buffer, buffer := [] }
        else { hasher with buffer := buffer }
      absorb fuel hasher (data.drop space)

/-- `Sha256::Update`. -/
def update (hasher : Sha256) (data : Bytes) : Sha256 :=
  absorb (data.length + 1)
    { hasher with totalBytes := hasher.totalBytes + UInt64.ofNat data.length } data

/-- The loop of `Sha256::Finish` that pads with zero bytes up to position 56. -/
def padZeros : Nat → Sha256 → Sha256
  | 0, hasher => hasher
  | fuel + 1, hasher =>
      if hasher.buffer.length == 56 then hasher else padZeros fuel (hasher.update [0])

end Sha256

/-- The four bytes of a word, most significant first. -/
def wordBytes (w : UInt32) : Bytes :=
  [(w >>> 24).toUInt8, (w >>> 16).toUInt8, (w >>> 8).toUInt8, w.toUInt8]

/-- 256 bit content digest. -/
structure Digest where
  bytes : Bytes
  size : bytes.length = kDigestBytes
  deriving DecidableEq

namespace Digest

/-- The default-constructed digest. -/
def zero : Digest := ⟨List.replicate 32 0, rfl⟩

instance : Inhabited Digest := ⟨zero⟩

def ofState (s : HashState) : Digest :=
  ⟨wordBytes s.a ++ wordBytes s.b ++ wordBytes s.c ++ wordBytes s.d ++ wordBytes s.e
    ++ wordBytes s.f ++ wordBytes s.g ++ wordBytes s.h, rfl⟩

/-- The digest whose bytes are the given 32 bytes. -/
def ofBytes (bytes : Bytes) : Option Digest :=
  if h : bytes.length = kDigestBytes then some ⟨bytes, h⟩ else none

end Digest

/-- `Sha256::Finish`: padding, the 64-bit length in bits, and the digest. -/
def Sha256.finish (hasher : Sha256) : Digest :=
  let bitLength := hasher.totalBytes * 8
  let padded := Sha256.padZeros 64 (hasher.update [0x80])
  let lengthBytes := (Verified.ByteCodec.leBytes 8 bitLength.toNat).reverse
  Digest.ofState (padded.update lengthBytes).state

/-- One-shot digest of a byte range. -/
def computeDigest (data : Bytes) : Digest := (Sha256.start.update data).finish

/-! ## Rendering -/

def hexDigit (v : UInt8) : UInt8 := if v < 10 then 0x30 + v else 0x61 + (v - 10)

/-- `RenderDigest`: lower-case hexadecimal text. -/
def renderDigest (bytes : Bytes) : Bytes :=
  bytes.flatMap fun (v : UInt8) => [hexDigit (v >>> 4), hexDigit (v &&& 0x0F)]

def Digest.toText (digest : Digest) : Bytes := renderDigest digest.bytes

/-- `Digest::ShortString`: the 128 bit prefix used for derived identifiers. -/
def Digest.shortString (digest : Digest) : Bytes :=
  renderDigest (digest.bytes.take (kDigestBytes / 2))

/-! ## CRC-32 -/

/-- One bit of the reflected CRC-32. -/
def crcBit (crc : UInt32) : UInt32 :=
  (crc >>> 1) ^^^ (0xEDB88320 &&& (0 - (crc &&& 1)))

def crc32Extend (state : UInt32) (data : Bytes) : UInt32 :=
  data.foldl (fun crc raw => Nat.repeat crcBit 8 (crc ^^^ raw.toUInt32)) state

/-- CRC-32 (IEEE 802.3, reflected). -/
def crc32 (data : Bytes) : UInt32 := crc32Extend 0xFFFFFFFF data ^^^ 0xFFFFFFFF

end FabricCapability.Ports
