import Mathlib.Algebra.Group.Nat.Defs
import Mathlib.Data.List.Basic

/-!
# BLAKE3

The hash and the keyed hash with 32 bytes of output: chunks of 1024 bytes are
compressed block by block, and chunk values are combined by a binary tree whose
left subtrees are complete.  Words are numbers below `2 ^ 32`, so that digests
of concrete messages can be computed in proofs.
-/

namespace Foundations.Blake3

def wordSize : Nat := 2 ^ 32

def add (first second : Nat) : Nat := (first + second) % wordSize

def rotateRight (word count : Nat) : Nat :=
  (word / 2 ^ count) ||| (word * 2 ^ (32 - count) % wordSize)

/-- Four words that are mixed in parallel. -/
structure Row where
  w0 : Nat
  w1 : Nat
  w2 : Nat
  w3 : Nat

namespace Row

def add (first second : Row) : Row where
  w0 := Blake3.add first.w0 second.w0
  w1 := Blake3.add first.w1 second.w1
  w2 := Blake3.add first.w2 second.w2
  w3 := Blake3.add first.w3 second.w3

def xor (first second : Row) : Row where
  w0 := first.w0 ^^^ second.w0
  w1 := first.w1 ^^^ second.w1
  w2 := first.w2 ^^^ second.w2
  w3 := first.w3 ^^^ second.w3

def rotate (row : Row) (count : Nat) : Row where
  w0 := rotateRight row.w0 count
  w1 := rotateRight row.w1 count
  w2 := rotateRight row.w2 count
  w3 := rotateRight row.w3 count

/-- Move every word one place to the left. -/
def turn (row : Row) : Row where
  w0 := row.w1
  w1 := row.w2
  w2 := row.w3
  w3 := row.w0

def toList (row : Row) : List Nat := [row.w0, row.w1, row.w2, row.w3]

end Row

structure State where
  a : Row
  b : Row
  c : Row
  d : Row

/-- Mix two rows of message words into the four columns. -/
def mix (state : State) (x y : Row) : State :=
  let a := (state.a.add state.b).add x
  let d := (state.d.xor a).rotate 16
  let c := state.c.add d
  let b := (state.b.xor c).rotate 12
  let a := (a.add b).add y
  let d := (d.xor a).rotate 8
  let c := c.add d
  let b := (b.xor c).rotate 7
  { a := a, b := b, c := c, d := d }

/-- Turn the rows so that the diagonals become columns. -/
def diagonals (state : State) : State where
  a := state.a
  b := state.b.turn
  c := state.c.turn.turn
  d := state.d.turn.turn.turn

def columns (state : State) : State where
  a := state.a
  b := state.b.turn.turn.turn
  c := state.c.turn.turn
  d := state.d.turn

def round (state : State) : List Nat → State
  | [m0, m1, m2, m3, m4, m5, m6, m7, m8, m9, m10, m11, m12, m13, m14, m15] =>
      let state := mix state ⟨m0, m2, m4, m6⟩ ⟨m1, m3, m5, m7⟩
      columns (mix (diagonals state) ⟨m8, m10, m12, m14⟩ ⟨m9, m11, m13, m15⟩)
  | _ => state

def permute : List Nat → List Nat
  | [m0, m1, m2, m3, m4, m5, m6, m7, m8, m9, m10, m11, m12, m13, m14, m15] =>
      [m2, m6, m3, m10, m7, m0, m4, m13, m1, m11, m12, m5, m9, m14, m15, m8]
  | message => message

def rounds : Nat → State → List Nat → State
  | 0, state, _ => state
  | count + 1, state, message => rounds count (round state message) (permute message)

/-- Two rows: a key, or the value of a node. -/
structure Chaining where
  low : Row
  high : Row

def Chaining.toList (value : Chaining) : List Nat := value.low.toList ++ value.high.toList

def initialValue : Chaining where
  low := ⟨0x6a09e667, 0xbb67ae85, 0x3c6ef372, 0xa54ff53a⟩
  high := ⟨0x510e527f, 0x9b05688c, 0x1f83d9ab, 0x5be0cd19⟩

def chunkStart : Nat := 1

def chunkEnd : Nat := 2

def parent : Nat := 4

def root : Nat := 8

def keyed : Nat := 16

/-- One compression, cut to eight words. -/
def compress (chaining : Chaining) (block : List Nat) (counter length flags : Nat) : Chaining :=
  let state := rounds 7 {
    a := chaining.low
    b := chaining.high
    c := initialValue.low
    d := ⟨counter % wordSize, counter / wordSize % wordSize, length, flags⟩ } block
  { low := state.a.xor state.c, high := state.b.xor state.d }

def wordsOfBytes : List UInt8 → List Nat
  | b0 :: b1 :: b2 :: b3 :: rest =>
      (b0.toNat + b1.toNat * 2 ^ 8 + b2.toNat * 2 ^ 16 + b3.toNat * 2 ^ 24) :: wordsOfBytes rest
  | _ => []

def bytesOfWord (word : Nat) : List UInt8 :=
  [.ofNat word, .ofNat (word / 2 ^ 8), .ofNat (word / 2 ^ 16), .ofNat (word / 2 ^ 24)]

/-- The sixteen words of a block, filled up with zeros. -/
def blockWords (bytes : List UInt8) : List Nat :=
  wordsOfBytes (bytes ++ List.replicate (64 - bytes.length) 0)

/-- The last compression of a node, held back until it is known whether the
node is the root. -/
structure Output where
  chaining : Chaining
  block : List Nat
  counter : Nat
  length : Nat
  flags : Nat

def Output.chainingValue (output : Output) : Chaining :=
  compress output.chaining output.block output.counter output.length output.flags

def Output.rootValue (output : Output) : Chaining :=
  compress output.chaining output.block 0 output.length (output.flags + root)

/-- Compress all blocks of a chunk but the last. -/
def chunkOutput (flags counter : Nat) :
    (remaining : Nat) → (bytes : List UInt8) → (chaining : Chaining) → (start : Nat) → Output
  | 0, bytes, chaining, start =>
      { chaining := chaining
        block := blockWords bytes
        counter := counter
        length := bytes.length
        flags := flags + start + chunkEnd }
  | remaining + 1, bytes, chaining, start =>
      chunkOutput flags counter remaining (bytes.drop 64)
        (compress chaining (blockWords (bytes.take 64)) counter 64 (flags + start)) 0

/-- The node above some bytes.  Its depth is below their number. -/
def treeOutput (key : Chaining) (flags : Nat) :
    (depth : Nat) → (bytes : List UInt8) → (counter : Nat) → Output
  | 0, bytes, counter => chunkOutput flags counter ((bytes.length - 1) / 64) bytes key chunkStart
  | depth + 1, bytes, counter =>
      if bytes.length ≤ 1024 then
        chunkOutput flags counter ((bytes.length - 1) / 64) bytes key chunkStart
      else
        let chunks := 2 ^ Nat.log2 ((bytes.length - 1) / 1024)
        let left := treeOutput key flags depth (bytes.take (chunks * 1024)) counter
        let right := treeOutput key flags depth (bytes.drop (chunks * 1024)) (counter + chunks)
        { chaining := key
          block := left.chainingValue.toList ++ right.chainingValue.toList
          counter := 0
          length := 64
          flags := flags + parent }

def digest (key : Chaining) (flags : Nat) (message : List UInt8) : List UInt8 :=
  (treeOutput key flags message.length message 0).rootValue.toList.flatMap bytesOfWord

def hash (message : List UInt8) : List UInt8 := digest initialValue 0 message

def keyOfBytes (key : List UInt8) : Chaining :=
  match wordsOfBytes key with
  | [k0, k1, k2, k3, k4, k5, k6, k7] => { low := ⟨k0, k1, k2, k3⟩, high := ⟨k4, k5, k6, k7⟩ }
  | _ => initialValue

/-- The key is 32 bytes long. -/
def keyedHash (key message : List UInt8) : List UInt8 := digest (keyOfBytes key) keyed message

theorem digest_length (key : Chaining) (flags : Nat) (message : List UInt8) :
    (digest key flags message).length = 32 := rfl

example : (hash [0x61, 0x62, 0x63]).take 8 =
    [0x64, 0x37, 0xb3, 0xac, 0x38, 0x46, 0x51, 0x33] := by decide +kernel

end Foundations.Blake3
