import FabricCapability.Verified.Blocks
import FabricCapability.Verified.ByteCodec
import Mathlib.Data.Nat.NthRoot.Defs

/-!
# SHA-256 as FIPS 180-4 defines it

The secure hash standard over messages of whole bytes: the logical functions and constants of
sections 4.1.2 and 4.2.2, padding and parsing of section 5, the hash computation of section
6.2.2.  The words are bit vectors of width 32.

The constants are computed from what the standard says about them, the first 32 bits of the
fractional parts of square and cube roots of the first primes.
-/

namespace FabricCapability.Verified.Sha2

open FabricCapability.Verified.Blocks
open FabricCapability.Verified.ByteCodec

abbrev Word := BitVec 32

/-! ## Functions and constants -/

def ch (x y z : Word) : Word := (x &&& y) ^^^ (~~~x &&& z)

def maj (x y z : Word) : Word := (x &&& y) ^^^ (x &&& z) ^^^ (y &&& z)

/-- `Σ₀` -/
def bigSigma0 (x : Word) : Word := x.rotateRight 2 ^^^ x.rotateRight 13 ^^^ x.rotateRight 22

/-- `Σ₁` -/
def bigSigma1 (x : Word) : Word := x.rotateRight 6 ^^^ x.rotateRight 11 ^^^ x.rotateRight 25

/-- `σ₀` -/
def smallSigma0 (x : Word) : Word := x.rotateRight 7 ^^^ x.rotateRight 18 ^^^ x >>> 3

/-- `σ₁` -/
def smallSigma1 (x : Word) : Word := x.rotateRight 17 ^^^ x.rotateRight 19 ^^^ x >>> 10

/-- The first 64 primes. -/
def primes : List Nat :=
  [2, 3, 5, 7, 11, 13, 17, 19, 23, 29, 31, 37, 41, 43, 47, 53, 59, 61, 67, 71, 73, 79, 83, 89,
    97, 101, 103, 107, 109, 113, 127, 131, 137, 139, 149, 151, 157, 163, 167, 173, 179, 181, 191,
    193, 197, 199, 211, 223, 227, 229, 233, 239, 241, 251, 257, 263, 269, 271, 277, 281, 283,
    293, 307, 311]

/-- The first 32 bits of the fractional part of the `degree`-th root of `n`. -/
def rootFraction (degree n : Nat) : Word :=
  BitVec.ofNat 32 (Nat.nthRoot degree (n * 2 ^ (32 * degree)))

/-- `K_t` -/
def roundConstant (t : Nat) : Word := rootFraction 3 (primes.getD t 0)

/-! ## Padding and parsing -/

/-- The `w` bytes of a number, most significant first. -/
def beBytes (w value : Nat) : List UInt8 := (leBytes w value).reverse

/-- The number whose bytes are given, most significant first. -/
def beValue (bytes : List UInt8) : Nat := leValue bytes.reverse

/-- How many zero bytes follow the byte `0x80`: the least number that leaves eight bytes of the
last block. -/
def zeroCount (length : Nat) : Nat := (119 - length % 64) % 64

theorem zeroCount_spec (length : Nat) : (length + 1 + zeroCount length) % 64 = 56 := by
  unfold zeroCount
  omega

theorem zeroCount_least {length count : Nat} (h : (length + 1 + count) % 64 = 56) :
    zeroCount length ≤ count := by
  unfold zeroCount
  omega

def pad (message : List UInt8) : List UInt8 :=
  message ++ 0x80 :: (List.replicate (zeroCount message.length) 0 ++
    beBytes 8 (8 * message.length))

/-- The word `M_j` of a block. -/
def messageWord (block : List UInt8) (j : Nat) : Word :=
  BitVec.ofNat 32 (beValue ((block.drop (4 * j)).take 4))

/-! ## Hash computation -/

/-- The message schedule `W_t`. -/
def schedule (block : List UInt8) (t : Nat) : Word :=
  if t < 16 then messageWord block t
  else
    smallSigma1 (schedule block (t - 2)) + schedule block (t - 7) +
      smallSigma0 (schedule block (t - 15)) + schedule block (t - 16)
termination_by t

/-- Eight words: a hash value, or the working variables. -/
structure Words where
  a : Word
  b : Word
  c : Word
  d : Word
  e : Word
  f : Word
  g : Word
  h : Word
  deriving DecidableEq

namespace Words

def add (x y : Words) : Words :=
  { a := x.a + y.a, b := x.b + y.b, c := x.c + y.c, d := x.d + y.d
    e := x.e + y.e, f := x.f + y.f, g := x.g + y.g, h := x.h + y.h }

def toList (x : Words) : List Word := [x.a, x.b, x.c, x.d, x.e, x.f, x.g, x.h]

end Words

/-- `H⁽⁰⁾` -/
def initialHash : Words :=
  { a := rootFraction 2 2, b := rootFraction 2 3, c := rootFraction 2 5, d := rootFraction 2 7
    e := rootFraction 2 11, f := rootFraction 2 13, g := rootFraction 2 17
    h := rootFraction 2 19 }

/-- Step 3 for one `t`. -/
def roundStep (x : Words) (k w : Word) : Words :=
  let t1 := x.h + bigSigma1 x.e + ch x.e x.f x.g + k + w
  let t2 := bigSigma0 x.a + maj x.a x.b x.c
  { a := t1 + t2, b := x.a, c := x.b, d := x.c, e := x.d + t1, f := x.e, g := x.f, h := x.g }

/-- `H⁽ⁱ⁾` from `H⁽ⁱ⁻¹⁾` and the block `M⁽ⁱ⁾`. -/
def compress (hash : Words) (block : List UInt8) : Words :=
  hash.add ((List.range 64).foldl
    (fun x t => roundStep x (roundConstant t) (schedule block t)) hash)

def hash (message : List UInt8) : Words :=
  (blocks 64 (pad message)).foldl compress initialHash

/-- The message digest. -/
def sha256 (message : List UInt8) : List UInt8 :=
  (hash message).toList.flatMap fun word => beBytes 4 word.toNat

/-! ## Lemmas -/

theorem schedule_message {block : List UInt8} {t : Nat} (h : t < 16) :
    schedule block t = messageWord block t := by
  rw [schedule, if_pos h]

theorem schedule_later {block : List UInt8} {t : Nat} (h : 16 ≤ t) :
    schedule block t =
      smallSigma1 (schedule block (t - 2)) + schedule block (t - 7) +
        smallSigma0 (schedule block (t - 15)) + schedule block (t - 16) := by
  rw [schedule, if_neg (Nat.not_lt.2 h)]

end FabricCapability.Verified.Sha2
