import Mathlib.Algebra.Group.Nat.Defs
import Mathlib.Data.List.Basic

/-!
# SHA-256

The digest of FIPS 180-4 on byte lists: pad to whole blocks, expand each
block to 64 words, run 64 rounds, add.
-/

namespace Foundations.Sha256

def rotateRight (word count : UInt32) : UInt32 := (word >>> count) ||| (word <<< (32 - count))

def roundConstants : List UInt32 := [
  0x428a2f98, 0x71374491, 0xb5c0fbcf, 0xe9b5dba5, 0x3956c25b, 0x59f111f1, 0x923f82a4, 0xab1c5ed5,
  0xd807aa98, 0x12835b01, 0x243185be, 0x550c7dc3, 0x72be5d74, 0x80deb1fe, 0x9bdc06a7, 0xc19bf174,
  0xe49b69c1, 0xefbe4786, 0x0fc19dc6, 0x240ca1cc, 0x2de92c6f, 0x4a7484aa, 0x5cb0a9dc, 0x76f988da,
  0x983e5152, 0xa831c66d, 0xb00327c8, 0xbf597fc7, 0xc6e00bf3, 0xd5a79147, 0x06ca6351, 0x14292967,
  0x27b70a85, 0x2e1b2138, 0x4d2c6dfc, 0x53380d13, 0x650a7354, 0x766a0abb, 0x81c2c92e, 0x92722c85,
  0xa2bfe8a1, 0xa81a664b, 0xc24b8b70, 0xc76c51a3, 0xd192e819, 0xd6990624, 0xf40e3585, 0x106aa070,
  0x19a4c116, 0x1e376c08, 0x2748774c, 0x34b0bcb5, 0x391c0cb3, 0x4ed8aa4a, 0x5b9cca4f, 0x682e6ff3,
  0x748f82ee, 0x78a5636f, 0x84c87814, 0x8cc70208, 0x90befffa, 0xa4506ceb, 0xbef9a3f7, 0xc67178f2]

/-- The eight working words. -/
structure Words where
  a : UInt32
  b : UInt32
  c : UInt32
  d : UInt32
  e : UInt32
  f : UInt32
  g : UInt32
  h : UInt32

/-- The first digits of the square roots of the first eight primes. -/
def initial : Words where
  a := 0x6a09e667
  b := 0xbb67ae85
  c := 0x3c6ef372
  d := 0xa54ff53a
  e := 0x510e527f
  f := 0x9b05688c
  g := 0x1f83d9ab
  h := 0x5be0cd19

def Words.toList (words : Words) : List UInt32 :=
  [words.a, words.b, words.c, words.d, words.e, words.f, words.g, words.h]

def Words.add (first second : Words) : Words where
  a := first.a + second.a
  b := first.b + second.b
  c := first.c + second.c
  d := first.d + second.d
  e := first.e + second.e
  f := first.f + second.f
  g := first.g + second.g
  h := first.h + second.h

def round (words : Words) (constant word : UInt32) : Words :=
  let s1 := rotateRight words.e 6 ^^^ rotateRight words.e 11 ^^^ rotateRight words.e 25
  let choice := (words.e &&& words.f) ^^^ (~~~words.e &&& words.g)
  let t1 := words.h + s1 + choice + constant + word
  let s0 := rotateRight words.a 2 ^^^ rotateRight words.a 13 ^^^ rotateRight words.a 22
  let majority := (words.a &&& words.b) ^^^ (words.a &&& words.c) ^^^ (words.b &&& words.c)
  { a := t1 + (s0 + majority)
    b := words.a
    c := words.b
    d := words.c
    e := words.d + t1
    f := words.e
    g := words.f
    h := words.g }

/-- Prepend `count` further words to a schedule kept newest first. -/
def extendSchedule : Nat → List UInt32 → List UInt32
  | 0, schedule => schedule
  | count + 1, schedule =>
      let early := schedule.getD 14 0
      let late := schedule.getD 1 0
      let s0 := rotateRight early 7 ^^^ rotateRight early 18 ^^^ (early >>> 3)
      let s1 := rotateRight late 17 ^^^ rotateRight late 19 ^^^ (late >>> 10)
      extendSchedule count ((schedule.getD 15 0 + s0 + schedule.getD 6 0 + s1) :: schedule)

def compress (words : Words) (block : List UInt32) : Words :=
  let schedule := (extendSchedule 48 block.reverse).reverse
  words.add ((roundConstants.zip schedule).foldl
    (fun words (constant, word) => round words constant word) words)

def wordOfBytes (b0 b1 b2 b3 : UInt8) : UInt32 :=
  (b0.toUInt32 <<< 24) ||| (b1.toUInt32 <<< 16) ||| (b2.toUInt32 <<< 8) ||| b3.toUInt32

def bytesOfWord (word : UInt32) : List UInt8 :=
  [(word >>> 24).toUInt8, (word >>> 16).toUInt8, (word >>> 8).toUInt8, word.toUInt8]

def wordsOfBytes : List UInt8 → List UInt32
  | b0 :: b1 :: b2 :: b3 :: rest => wordOfBytes b0 b1 b2 b3 :: wordsOfBytes rest
  | _ => []

/-- A one bit, zeros up to eight bytes short of a block, the length in bits. -/
def pad (message : List UInt8) : List UInt8 :=
  let bits := message.length * 8
  message ++ [0x80] ++ List.replicate ((119 - message.length % 64) % 64) 0 ++
    (List.range 8).map fun place => .ofNat (bits / 256 ^ (7 - place))

/-- Compress `count` blocks of sixteen words. -/
def compressBlocks : Nat → List UInt32 → Words → Words
  | 0, _, words => words
  | count + 1, input, words =>
      compressBlocks count (input.drop 16) (compress words (input.take 16))

def digest (message : List UInt8) : List UInt8 :=
  let padded := pad message
  (compressBlocks (padded.length / 64) (wordsOfBytes padded) initial).toList.flatMap bytesOfWord

theorem digest_length (message : List UInt8) : (digest message).length = 32 := rfl

example : (digest [0x61, 0x62, 0x63]).take 8 =
    [0xba, 0x78, 0x16, 0xbf, 0x8f, 0x01, 0xcf, 0xea] := by decide +kernel

end Foundations.Sha256
