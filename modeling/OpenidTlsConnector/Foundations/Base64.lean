import Mathlib.Data.List.GetD
import OpenidTlsConnector.Foundations.Text

/-!
# Base64

An engine is an encoder with its strict decoder: decoding inverts encoding,
and the only text accepted for some bytes is the one the encoder writes for
them.  The second half of the module builds the RFC 4648 engines over an
alphabet of 64 characters, with or without padding.  Like the usual strict
decoders they refuse non-zero trailing bits, missing or surplus padding and
characters outside the alphabet.
-/

namespace Foundations.Base64

structure Engine where
  encode : List UInt8 → String
  decode : String → Option (List UInt8)
  decode_encode : ∀ bytes, decode (encode bytes) = some bytes
  encode_of_decode : ∀ {text bytes}, decode text = some bytes → encode bytes = text
  graphic : ∀ bytes, ∀ char ∈ (encode bytes).toList, Text.isGraphic char = true

attribute [simp] Engine.decode_encode

theorem Engine.encode_injective (engine : Engine) : Function.Injective engine.encode := by
  intro first second same
  have decoded := congrArg engine.decode same
  simpa using decoded

structure Alphabet where
  chars : List Char
  size : chars.length = 64
  distinct : chars.Nodup
  graphic : ∀ char ∈ chars, Text.isGraphic char = true
  padFree : '=' ∉ chars

namespace Alphabet

variable (alphabet : Alphabet)

def char (digit : Nat) : Char := alphabet.chars.getD digit '='

def digit? (char : Char) : Option Nat :=
  if char ∈ alphabet.chars then some (alphabet.chars.idxOf char) else none

theorem char_mem {digit : Nat} (bounded : digit < 64) : alphabet.char digit ∈ alphabet.chars := by
  have inside : digit < alphabet.chars.length := by rw [alphabet.size]; exact bounded
  rw [char, List.getD_eq_getElem _ _ inside]
  exact List.getElem_mem inside

@[simp]
theorem digit?_char {digit : Nat} (bounded : digit < 64) :
    alphabet.digit? (alphabet.char digit) = some digit := by
  have inside : digit < alphabet.chars.length := by rw [alphabet.size]; exact bounded
  rw [digit?, if_pos (alphabet.char_mem bounded), char, List.getD_eq_getElem _ _ inside,
    alphabet.distinct.idxOf_getElem]

theorem char_of_digit? {char : Char} {digit : Nat} (found : alphabet.digit? char = some digit) :
    digit < 64 ∧ alphabet.char digit = char := by
  unfold digit? at found
  split at found
  · rename_i membership
    cases found
    have inside := List.idxOf_lt_length_of_mem membership
    refine ⟨by rw [← alphabet.size]; exact inside, ?_⟩
    rw [Alphabet.char, List.getD_eq_getElem _ _ inside, List.getElem_idxOf]
  · cases found

@[simp]
theorem digit?_pad : alphabet.digit? '=' = none := if_neg alphabet.padFree

theorem char_ne_pad {digit : Nat} (bounded : digit < 64) : alphabet.char digit ≠ '=' :=
  fun same => alphabet.padFree (same ▸ alphabet.char_mem bounded)

/-! ## Groups of up to three bytes -/

def encodeOne (first : UInt8) : List Char :=
  [alphabet.char (first.toNat / 4), alphabet.char (first.toNat % 4 * 16)]

def encodeTwo (first second : UInt8) : List Char :=
  [alphabet.char (first.toNat / 4),
    alphabet.char (first.toNat % 4 * 16 + second.toNat / 16),
    alphabet.char (second.toNat % 16 * 4)]

def encodeThree (first second third : UInt8) : List Char :=
  [alphabet.char (first.toNat / 4),
    alphabet.char (first.toNat % 4 * 16 + second.toNat / 16),
    alphabet.char (second.toNat % 16 * 4 + third.toNat / 64),
    alphabet.char (third.toNat % 64)]

def decodeOne (p q : Char) : Option (List UInt8) := do
  let x ← alphabet.digit? p
  let y ← alphabet.digit? q
  if y % 16 = 0 then some [.ofNat (x * 4 + y / 16)] else none

def decodeTwo (p q r : Char) : Option (List UInt8) := do
  let x ← alphabet.digit? p
  let y ← alphabet.digit? q
  let z ← alphabet.digit? r
  if z % 4 = 0 then some [.ofNat (x * 4 + y / 16), .ofNat (y % 16 * 16 + z / 4)] else none

def decodeThree (p q r s : Char) : Option (List UInt8) := do
  let x ← alphabet.digit? p
  let y ← alphabet.digit? q
  let z ← alphabet.digit? r
  let w ← alphabet.digit? s
  some [.ofNat (x * 4 + y / 16), .ofNat (y % 16 * 16 + z / 4), .ofNat (z % 4 * 64 + w)]

theorem ofNat_eq_of_toNat {value : Nat} {byte : UInt8} (same : value = byte.toNat) :
    UInt8.ofNat value = byte := by
  rw [same, UInt8.ofNat_toNat]

theorem toNat_ofNat_of_lt {value : Nat} (bounded : value < 256) :
    (UInt8.ofNat value).toNat = value := by
  simpa using Nat.mod_eq_of_lt bounded

theorem decodeOne_encodeOne (first : UInt8) :
    alphabet.decodeOne (alphabet.char (first.toNat / 4))
      (alphabet.char (first.toNat % 4 * 16)) = some [first] := by
  have small := first.toNat_lt
  have byte : UInt8.ofNat (first.toNat / 4 * 4 + first.toNat % 4 * 16 / 16) = first :=
    ofNat_eq_of_toNat (by omega)
  simp (disch := omega) only [decodeOne, digit?_char, Option.bind_eq_bind, Option.bind_some]
  simp only [byte, show first.toNat % 4 * 16 % 16 = 0 by omega, if_true]

theorem decodeTwo_encodeTwo (first second : UInt8) :
    alphabet.decodeTwo (alphabet.char (first.toNat / 4))
      (alphabet.char (first.toNat % 4 * 16 + second.toNat / 16))
      (alphabet.char (second.toNat % 16 * 4)) = some [first, second] := by
  have small := first.toNat_lt
  have small' := second.toNat_lt
  have byte : UInt8.ofNat
      (first.toNat / 4 * 4 + (first.toNat % 4 * 16 + second.toNat / 16) / 16) = first :=
    ofNat_eq_of_toNat (by omega)
  have byte' : UInt8.ofNat
      ((first.toNat % 4 * 16 + second.toNat / 16) % 16 * 16 + second.toNat % 16 * 4 / 4) =
        second :=
    ofNat_eq_of_toNat (by omega)
  simp (disch := omega) only [decodeTwo, digit?_char, Option.bind_eq_bind, Option.bind_some]
  simp only [byte, byte', show second.toNat % 16 * 4 % 4 = 0 by omega, if_true]

theorem decodeThree_encodeThree (first second third : UInt8) :
    alphabet.decodeThree (alphabet.char (first.toNat / 4))
      (alphabet.char (first.toNat % 4 * 16 + second.toNat / 16))
      (alphabet.char (second.toNat % 16 * 4 + third.toNat / 64))
      (alphabet.char (third.toNat % 64)) = some [first, second, third] := by
  have small := first.toNat_lt
  have small' := second.toNat_lt
  have small'' := third.toNat_lt
  have byte : UInt8.ofNat
      (first.toNat / 4 * 4 + (first.toNat % 4 * 16 + second.toNat / 16) / 16) = first :=
    ofNat_eq_of_toNat (by omega)
  have byte' : UInt8.ofNat
      ((first.toNat % 4 * 16 + second.toNat / 16) % 16 * 16 +
        (second.toNat % 16 * 4 + third.toNat / 64) / 4) = second :=
    ofNat_eq_of_toNat (by omega)
  have byte'' : UInt8.ofNat
      ((second.toNat % 16 * 4 + third.toNat / 64) % 4 * 64 + third.toNat % 64) = third :=
    ofNat_eq_of_toNat (by omega)
  simp (disch := omega) only [decodeThree, digit?_char, Option.bind_eq_bind, Option.bind_some]
  simp only [byte, byte', byte'']

theorem encodeOne_of_decodeOne {p q : Char} {bytes : List UInt8}
    (decoded : alphabet.decodeOne p q = some bytes) :
    ∃ first, bytes = [first] ∧ alphabet.encodeOne first = [p, q] := by
  simp only [decodeOne, Option.bind_eq_bind, Option.bind_eq_some_iff] at decoded
  obtain ⟨x, xFound, y, yFound, made⟩ := decoded
  obtain ⟨xSmall, rfl⟩ := alphabet.char_of_digit? xFound
  obtain ⟨ySmall, rfl⟩ := alphabet.char_of_digit? yFound
  split at made
  · rename_i zeroBits
    cases made
    refine ⟨_, rfl, ?_⟩
    rw [encodeOne, toNat_ofNat_of_lt (by omega)]
    have d1 : (x * 4 + y / 16) / 4 = x := by omega
    have d2 : (x * 4 + y / 16) % 4 * 16 = y := by omega
    rw [d1, d2]
  · cases made

theorem encodeTwo_of_decodeTwo {p q r : Char} {bytes : List UInt8}
    (decoded : alphabet.decodeTwo p q r = some bytes) :
    ∃ first second, bytes = [first, second] ∧ alphabet.encodeTwo first second = [p, q, r] := by
  simp only [decodeTwo, Option.bind_eq_bind, Option.bind_eq_some_iff] at decoded
  obtain ⟨x, xFound, y, yFound, z, zFound, made⟩ := decoded
  obtain ⟨xSmall, rfl⟩ := alphabet.char_of_digit? xFound
  obtain ⟨ySmall, rfl⟩ := alphabet.char_of_digit? yFound
  obtain ⟨zSmall, rfl⟩ := alphabet.char_of_digit? zFound
  split at made
  · rename_i zeroBits
    cases made
    refine ⟨_, _, rfl, ?_⟩
    rw [encodeTwo, toNat_ofNat_of_lt (by omega), toNat_ofNat_of_lt (by omega)]
    have d1 : (x * 4 + y / 16) / 4 = x := by omega
    have d2 : (x * 4 + y / 16) % 4 * 16 + (y % 16 * 16 + z / 4) / 16 = y := by omega
    have d3 : (y % 16 * 16 + z / 4) % 16 * 4 = z := by omega
    rw [d1, d2, d3]
  · cases made

theorem encodeThree_of_decodeThree {p q r s : Char} {bytes : List UInt8}
    (decoded : alphabet.decodeThree p q r s = some bytes) :
    ∃ first second third, bytes = [first, second, third] ∧
      alphabet.encodeThree first second third = [p, q, r, s] := by
  simp only [decodeThree, Option.bind_eq_bind, Option.bind_eq_some_iff] at decoded
  obtain ⟨x, xFound, y, yFound, z, zFound, w, wFound, made⟩ := decoded
  obtain ⟨xSmall, rfl⟩ := alphabet.char_of_digit? xFound
  obtain ⟨ySmall, rfl⟩ := alphabet.char_of_digit? yFound
  obtain ⟨zSmall, rfl⟩ := alphabet.char_of_digit? zFound
  obtain ⟨wSmall, rfl⟩ := alphabet.char_of_digit? wFound
  cases made
  refine ⟨_, _, _, rfl, ?_⟩
  rw [encodeThree, toNat_ofNat_of_lt (by omega), toNat_ofNat_of_lt (by omega),
    toNat_ofNat_of_lt (by omega)]
  have d1 : (x * 4 + y / 16) / 4 = x := by omega
  have d2 : (x * 4 + y / 16) % 4 * 16 + (y % 16 * 16 + z / 4) / 16 = y := by omega
  have d3 : (y % 16 * 16 + z / 4) % 16 * 4 + (z % 4 * 64 + w) / 64 = z := by omega
  have d4 : (z % 4 * 64 + w) % 64 = w := by omega
  rw [d1, d2, d3, d4]

/-! ## Whole texts -/

variable (padded : Bool)

def encodeChars : List UInt8 → List Char
  | [] => []
  | [first] => alphabet.encodeOne first ++ if padded then ['=', '='] else []
  | [first, second] => alphabet.encodeTwo first second ++ if padded then ['='] else []
  | first :: second :: third :: rest =>
      alphabet.encodeThree first second third ++ encodeChars rest

def decodeChars : List Char → Option (List UInt8)
  | [] => some []
  | [p, q] => if padded then none else alphabet.decodeOne p q
  | [p, q, r] => if padded then none else alphabet.decodeTwo p q r
  | p :: q :: r :: s :: rest =>
      if padded && s == '=' then
        if rest ≠ [] then none
        else if r = '=' then alphabet.decodeOne p q
        else alphabet.decodeTwo p q r
      else do
        let group ← alphabet.decodeThree p q r s
        let tail ← decodeChars rest
        some (group ++ tail)
  | [_] => none

theorem decodeChars_encodeChars (bytes : List UInt8) :
    alphabet.decodeChars padded (alphabet.encodeChars padded bytes) = some bytes := by
  fun_induction encodeChars with
  | case1 => rfl
  | case2 first =>
      cases padded <;> simp [encodeOne, decodeChars, decodeOne_encodeOne]
  | case3 first second =>
      have plain : alphabet.char (second.toNat % 16 * 4) ≠ '=' := alphabet.char_ne_pad (by omega)
      cases padded <;> simp [encodeTwo, decodeChars, decodeTwo_encodeTwo, plain]
  | case4 first second third rest inductionHypothesis =>
      have plain : alphabet.char (third.toNat % 64) ≠ '=' := alphabet.char_ne_pad (by omega)
      simp [encodeThree, decodeChars, decodeThree_encodeThree, plain, inductionHypothesis]

theorem encodeChars_of_decodeChars {chars : List Char} {bytes : List UInt8}
    (decoded : alphabet.decodeChars padded chars = some bytes) :
    alphabet.encodeChars padded bytes = chars := by
  fun_induction decodeChars generalizing bytes with
  | case1 => cases decoded; rfl
  | case2 p q checked => cases decoded
  | case3 p q unchecked =>
      obtain ⟨first, rfl, encoded⟩ := alphabet.encodeOne_of_decodeOne decoded
      simp [encodeChars, encoded, unchecked]
  | case4 p q r checked => cases decoded
  | case5 p q r unchecked =>
      obtain ⟨first, second, rfl, encoded⟩ := alphabet.encodeTwo_of_decodeTwo decoded
      simp [encodeChars, encoded, unchecked]
  | case6 p q r s rest padding surplus => cases decoded
  | case7 p q s rest padding noSurplus =>
      obtain ⟨first, rfl, encoded⟩ := alphabet.encodeOne_of_decodeOne decoded
      simp_all [encodeChars]
  | case8 p q r s rest padding noSurplus second =>
      obtain ⟨first, second, rfl, encoded⟩ := alphabet.encodeTwo_of_decodeTwo decoded
      simp_all [encodeChars]
  | case9 p q r s rest noPadding inductionHypothesis =>
      simp only [Option.bind_eq_bind, Option.bind_eq_some_iff] at decoded
      obtain ⟨group, groupDecoded, tail, tailDecoded, made⟩ := decoded
      cases made
      obtain ⟨first, second, third, rfl, encoded⟩ :=
        alphabet.encodeThree_of_decodeThree groupDecoded
      simp [encodeChars, encoded, inductionHypothesis tailDecoded]
  | case10 => cases decoded

theorem graphic_of_mem_encodeChars (bytes : List UInt8) :
    ∀ char ∈ alphabet.encodeChars padded bytes, Text.isGraphic char = true := by
  have digit {value : Nat} (bounded : value < 64) :
      Text.isGraphic (alphabet.char value) = true :=
    alphabet.graphic _ (alphabet.char_mem bounded)
  have pad : Text.isGraphic '=' = true := by decide
  fun_induction encodeChars with
  | case1 => simp
  | case2 first =>
      have small := first.toNat_lt
      cases padded <;>
        simp (disch := omega) [encodeOne, digit, pad]
  | case3 first second =>
      have small := first.toNat_lt
      have small' := second.toNat_lt
      cases padded <;>
        simp (disch := omega) [encodeTwo, digit, pad]
  | case4 first second third rest inductionHypothesis =>
      have small := first.toNat_lt
      have small' := second.toNat_lt
      have small'' := third.toNat_lt
      simpa (disch := omega) [encodeThree, digit] using inductionHypothesis

/-- The RFC 4648 engine over an alphabet. -/
def engine : Engine where
  encode bytes := String.ofList (alphabet.encodeChars padded bytes)
  decode text := alphabet.decodeChars padded text.toList
  decode_encode bytes := by simp [decodeChars_encodeChars]
  encode_of_decode decoded := by
    rw [alphabet.encodeChars_of_decodeChars padded decoded, String.ofList_toList]
  graphic bytes := by simpa using alphabet.graphic_of_mem_encodeChars padded bytes

end Alphabet

def alphanumerics : List Char :=
  "ABCDEFGHIJKLMNOPQRSTUVWXYZabcdefghijklmnopqrstuvwxyz0123456789".toList

def standardAlphabet : Alphabet where
  chars := alphanumerics ++ ['+', '/']
  size := by decide
  distinct := by decide
  graphic := List.all_eq_true.mp (by decide)
  padFree := by decide

def urlSafeAlphabet : Alphabet where
  chars := alphanumerics ++ ['-', '_']
  size := by decide
  distinct := by decide
  graphic := List.all_eq_true.mp (by decide)
  padFree := by decide

end Foundations.Base64
