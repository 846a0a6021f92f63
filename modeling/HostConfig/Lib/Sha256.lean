import Mathlib.Data.List.Basic

/-!
# `Lib.Sha256` — SHA-256 and its hexadecimal digest

The hash function of the standard library, on lists of bytes: padding to blocks of 64 bytes, the message
schedule of 64 words for each block, 64 rounds on eight working words. Everything computes, so digests of
given bytes can be decided; nothing here says anything about collisions.
-/

namespace Sha256

/-- The round constants: the first 32 bits of the fractional parts of the cube roots of
    the first 64 primes. -/
def roundConstants : List UInt32 :=
  [0x428a2f98, 0x71374491, 0xb5c0fbcf, 0xe9b5dba5, 0x3956c25b, 0x59f111f1, 0x923f82a4, 0xab1c5ed5,
   0xd807aa98, 0x12835b01, 0x243185be, 0x550c7dc3, 0x72be5d74, 0x80deb1fe, 0x9bdc06a7, 0xc19bf174,
   0xe49b69c1, 0xefbe4786, 0x0fc19dc6, 0x240ca1cc, 0x2de92c6f, 0x4a7484aa, 0x5cb0a9dc, 0x76f988da,
   0x983e5152, 0xa831c66d, 0xb00327c8, 0xbf597fc7, 0xc6e00bf3, 0xd5a79147, 0x06ca6351, 0x14292967,
   0x27b70a85, 0x2e1b2138, 0x4d2c6dfc, 0x53380d13, 0x650a7354, 0x766a0abb, 0x81c2c92e, 0x92722c85,
   0xa2bfe8a1, 0xa81a664b, 0xc24b8b70, 0xc76c51a3, 0xd192e819, 0xd6990624, 0xf40e3585, 0x106aa070,
   0x19a4c116, 0x1e376c08, 0x2748774c, 0x34b0bcb5, 0x391c0cb3, 0x4ed8aa4a, 0x5b9cca4f, 0x682e6ff3,
   0x748f82ee, 0x78a5636f, 0x84c87814, 0x8cc70208, 0x90befffa, 0xa4506ceb, 0xbef9a3f7, 0xc67178f2]

/-- The eight working words. -/
structure Words where
  a : UInt32
  b : UInt32
  c : UInt32
  d : UInt32
  e : UInt32
  f : UInt32
  g : UInt32
  h : UInt32
deriving DecidableEq

def initial : Words :=
  ⟨0x6a09e667, 0xbb67ae85, 0x3c6ef372, 0xa54ff53a, 0x510e527f, 0x9b05688c, 0x1f83d9ab, 0x5be0cd19⟩

def rotr (x n : UInt32) : UInt32 := (x >>> n) ||| (x <<< (32 - n))

def round (s : Words) (kw : UInt32 × UInt32) : Words :=
  let s1 := rotr s.e 6 ^^^ rotr s.e 11 ^^^ rotr s.e 25
  let ch := (s.e &&& s.f) ^^^ (~~~s.e &&& s.g)
  let temp1 := s.h + s1 + ch + kw.1 + kw.2
  let s0 := rotr s.a 2 ^^^ rotr s.a 13 ^^^ rotr s.a 22
  let maj := (s.a &&& s.b) ^^^ (s.a &&& s.c) ^^^ (s.b &&& s.c)
  ⟨temp1 + (s0 + maj), s.a, s.b, s.c, s.d + temp1, s.e, s.f, s.g⟩

/-- `n` more words of the message schedule, the latest word first. -/
def extend : Nat → List UInt32 → List UInt32
  | 0,     ws => ws
  | n + 1, ws =>
      let w2 := ws.getD 1 0
      let w15 := ws.getD 14 0
      let s1 := rotr w2 17 ^^^ rotr w2 19 ^^^ (w2 >>> 10)
      let s0 := rotr w15 7 ^^^ rotr w15 18 ^^^ (w15 >>> 3)
      extend n ((ws.getD 15 0 + s0 + ws.getD 6 0 + s1) :: ws)

/-- One block of sixteen words. -/
def compress (s : Words) (block : List UInt32) : Words :=
  let t := (roundConstants.zip (extend 48 block.reverse).reverse).foldl round s
  ⟨s.a + t.a, s.b + t.b, s.c + t.c, s.d + t.d, s.e + t.e, s.f + t.f, s.g + t.g, s.h + t.h⟩

/-- The eight bytes of a number, most significant first. -/
def lengthBytes (n : Nat) : List UInt8 :=
  [56, 48, 40, 32, 24, 16, 8, 0].map fun shift => UInt8.ofNat ((n >>> shift) % 256)

/-- A one bit, zeros up to the last eight bytes of a block, the length in bits. -/
def pad (message : List UInt8) : List UInt8 :=
  message ++ 0x80 :: (List.replicate ((119 - message.length % 64) % 64) 0 ++ lengthBytes (8 * message.length))

/-- Groups of four bytes as big-endian words. -/
def toWords : List UInt8 → List UInt32
  | a :: b :: c :: d :: bytes =>
      ((a.toUInt32 <<< 24) ||| (b.toUInt32 <<< 16) ||| (c.toUInt32 <<< 8) ||| d.toUInt32) :: toWords bytes
  | _ => []

/-- `n` blocks, one after another. -/
def compressBlocks : Nat → Words → List UInt32 → Words
  | 0,     s, _  => s
  | n + 1, s, ws => compressBlocks n (compress s (ws.take 16)) (ws.drop 16)

def digest (message : List UInt8) : Words :=
  let ws := toWords (pad message)
  compressBlocks (ws.length / 16) initial ws

def hexWord (w : UInt32) : List Char :=
  [28, 24, 20, 16, 12, 8, 4, 0].map fun shift => Nat.digitChar ((w.toNat >>> shift) % 16)

/-- `sha256(message).hexdigest()` -/
def hexdigest (message : List UInt8) : String :=
  let s := digest message
  String.ofList ([s.a, s.b, s.c, s.d, s.e, s.f, s.g, s.h].flatMap hexWord)

example : hexdigest [] = "e3b0c44298fc1c149afbf4c8996fb92427ae41e4649b934ca495991b7852b855" := by
  decide +kernel

example : hexdigest [0x61, 0x62, 0x63] =
    "ba7816bf8f01cfea414140de5dae2223b00361a396177a9cb410ff61f20015ad" := by
  decide +kernel

end Sha256
