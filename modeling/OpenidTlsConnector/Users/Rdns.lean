import OpenidTlsConnector.Foundations.Escaping
import OpenidTlsConnector.Foundations.Slices
import OpenidTlsConnector.Users

/-!
# The parts of a distinguished name

The byte scanner never slices a character apart: on every string it splits at
the commas that no backslash protects.
-/

namespace OpenidTlsConnector

open Foundations Foundations.Escaping

variable {dn : String}

/-- A byte that is neither a backslash nor a comma. -/
def IsOrdinaryByte (byte : UInt8) : Prop := byte ≠ '\\'.toUInt8 ∧ byte ≠ ','.toUInt8

theorem isOrdinaryByte_of_high {byte : UInt8} (high : 0x80 ≤ byte.toNat) :
    IsOrdinaryByte byte := by
  constructor
  · rintro rfl
    exact absurd high (by decide)
  · rintro rfl
    exact absurd high (by decide)

theorem splitRdnsFrom_ordinary {bytes : List UInt8}
    (ordinary : ∀ byte ∈ bytes, IsOrdinaryByte byte) (rest : List UInt8) (i start : Nat)
    (parts : List String) :
    splitRdnsFrom dn (bytes ++ rest) i start parts =
      splitRdnsFrom dn rest (i + bytes.length) start parts := by
  induction bytes generalizing i with
  | nil => rfl
  | cons byte bytes inductionHypothesis =>
      obtain ⟨⟨noEscape, noComma⟩, others⟩ := List.forall_mem_cons.mp ordinary
      rw [List.cons_append, splitRdnsFrom.eq_def]
      simp only [noEscape, noComma, if_false]
      rw [inductionHypothesis others, List.length_cons, Nat.add_comm bytes.length, Nat.add_assoc]

theorem splitRdnsFrom_escape (byte : UInt8) (rest : List UInt8) (i start : Nat)
    (parts : List String) :
    splitRdnsFrom dn ('\\'.toUInt8 :: byte :: rest) i start parts =
      splitRdnsFrom dn rest (i + 2) start parts := by
  rw [splitRdnsFrom.eq_def]
  simp only [if_true]

theorem splitRdnsFrom_comma (rest : List UInt8) (i start : Nat) (parts : List String) :
    splitRdnsFrom dn (','.toUInt8 :: rest) i start parts =
      (Text.slice dn start i).bind fun part =>
        splitRdnsFrom dn rest (i + 1) (i + 1) (parts ++ [part]) := by
  rw [splitRdnsFrom.eq_def]
  simp only [(by decide : ','.toUInt8 ≠ '\\'.toUInt8), if_false, if_true]
  rfl

/-- A character other than a backslash and a comma has only ordinary bytes. -/
theorem isOrdinaryByte_of_mem {char : Char} (noEscape : char ≠ '\\') (noComma : char ≠ ',') :
    ∀ byte ∈ String.utf8EncodeChar char, IsOrdinaryByte byte := by
  rcases Text.utf8EncodeChar_cases char with
    ⟨ascii, single⟩ | ⟨first, continuation, several, -, high, -, later⟩
  · rw [single]
    intro byte membership
    rw [List.mem_singleton] at membership
    -- the byte of an ASCII character determines the character
    have determines : ∀ other : Char, other.toNat < 128 → char ≠ other →
        byte ≠ UInt8.ofNat other.toNat := by
      intro other otherAscii different same
      apply different
      have numbers := congrArg UInt8.toNat (membership.symm.trans same)
      simp only [UInt8.toNat_ofNat'] at numbers
      rw [Nat.mod_eq_of_lt (by omega), Nat.mod_eq_of_lt (by omega)] at numbers
      rw [← Char.ofNat_toNat char, ← Char.ofNat_toNat other, numbers]
    exact ⟨determines '\\' (by decide) noEscape, determines ',' (by decide) noComma⟩
  · rw [several]
    intro byte membership
    rcases List.mem_cons.mp membership with rfl | inContinuation
    · exact isOrdinaryByte_of_high (by omega)
    · exact isOrdinaryByte_of_high (later byte inContinuation).1

/-- The first byte of a character and the ordinary bytes that may follow it. -/
theorem exists_bytes (char : Char) :
    ∃ first continuation, String.utf8EncodeChar char = first :: continuation ∧
      ∀ byte ∈ continuation, IsOrdinaryByte byte := by
  rcases Text.utf8EncodeChar_cases char with
    ⟨-, single⟩ | ⟨first, continuation, several, -, -, -, later⟩
  · exact ⟨_, [], single, by simp⟩
  · refine ⟨first, continuation, several, ?_⟩
    intro byte membership
    exact isOrdinaryByte_of_high (later byte membership).1

/-- At the end of the text, what is left is the last part. -/
theorem splitRdnsFrom_nil {before piece : List Char} (i : Nat) (parts : List String)
    (whole : dn.toList = before ++ piece) :
    splitRdnsFrom dn [] i (Text.utf8Chars before).length parts =
      some (parts ++ [String.ofList piece]) := by
  have parted : dn.toList = before ++ piece ++ [] := by simpa using whole
  have last := Text.slice_of_parts parted
  rw [splitRdnsFrom, Text.utf8_eq_utf8Chars, whole, last]
  rfl

theorem splitRdnsFrom_trailing (i start : Nat) (parts : List String) :
    splitRdnsFrom dn ['\\'.toUInt8] i start parts = splitRdnsFrom dn [] (i + 1) start parts := by
  rw [splitRdnsFrom.eq_def]
  simp only [if_true]

/-- A backslash and a comma are single bytes. -/
theorem utf8Chars_ascii_cons {char : Char} (ascii : char.toNat < 128) (rest : List Char) :
    Text.utf8Chars (char :: rest) = UInt8.ofNat char.toNat :: Text.utf8Chars rest := by
  rw [Text.utf8Chars_cons, Text.utf8EncodeChar_of_ascii ascii]
  rfl

/-- From any character on, the scanner adds the parts that are still to come.
`piece` is what it has read since the last part ended. -/
theorem splitRdnsFrom_eq (rest before piece : List Char) (i : Nat) (parts : List String)
    (whole : dn.toList = before ++ piece ++ rest)
    (read : (Text.utf8Chars (before ++ piece)).length = i) :
    splitRdnsFrom dn (Text.utf8Chars rest) i (Text.utf8Chars before).length parts =
      some (parts ++ ((splitUnescaped ',' rest).modifyHead (piece ++ ·)).map String.ofList) := by
  induction rest using splitUnescaped.induct ',' generalizing before piece i parts with
  | case1 =>
      rw [Text.utf8Chars_nil, splitRdnsFrom_nil _ _ (by simpa using whole)]
      simp [splitUnescaped]
  | case2 next rest inductionHypothesis =>
      -- the scanner may stand inside the protected character now
      obtain ⟨first, continuation, bytes, ordinary⟩ := exists_bytes next
      have past : (Text.utf8Chars (before ++ (piece ++ ['\\', next]))).length =
          i + 2 + continuation.length := by
        rw [← List.append_assoc, Text.utf8Chars_append, List.length_append, read,
          utf8Chars_ascii_cons (by decide), Text.utf8Chars_cons, bytes, Text.utf8Chars_nil]
        simp only [List.append_nil, List.length_cons]
        omega
      have further := inductionHypothesis before (piece ++ ['\\', next]) _ parts
        (by simpa using whole) past
      rw [utf8Chars_ascii_cons (by decide), Text.utf8Chars_cons, bytes, splitUnescaped_escape,
        List.modifyHead_modifyHead]
      refine ((splitRdnsFrom_escape _ _ _ _ _).trans
        (splitRdnsFrom_ordinary ordinary _ _ _ _)).trans ?_
      rw [further]
      simp [Function.comp_def]
  | case3 =>
      have last : dn.toList = before ++ (piece ++ ['\\']) := by simpa using whole
      rw [utf8Chars_ascii_cons (by decide), Text.utf8Chars_nil]
      refine (splitRdnsFrom_trailing _ _ _).trans ?_
      rw [splitRdnsFrom_nil _ _ last]
      simp [splitUnescaped]
  | case4 rest different inductionHypothesis =>
      have past : (Text.utf8Chars (before ++ piece ++ [','])).length = i + 1 := by
        rw [Text.utf8Chars_append, List.length_append, read, utf8Chars_ascii_cons (by decide)]
        rfl
      have further := inductionHypothesis (before ++ piece ++ [',']) [] (i + 1)
        (parts ++ [String.ofList piece]) (by simpa using whole) (by simpa using past)
      have part : Text.slice dn (Text.utf8Chars before).length i =
          some (String.ofList piece) := read ▸ Text.slice_of_parts whole
      rw [past] at further
      rw [utf8Chars_ascii_cons (by decide), splitUnescaped_separator different]
      refine (splitRdnsFrom_comma _ _ _ _).trans ?_
      rw [part, Option.bind_some, further]
      cases splitUnescaped ',' rest <;> simp
  | case5 char rest noEscape noComma inductionHypothesis =>
      have past : (Text.utf8Chars (before ++ (piece ++ [char]))).length =
          i + (String.utf8EncodeChar char).length := by
        rw [← List.append_assoc, Text.utf8Chars_append, List.length_append, read]
        simp
      have further := inductionHypothesis before (piece ++ [char]) _ parts
        (by simpa using whole) past
      rw [splitUnescaped_plain noEscape noComma, Text.utf8Chars_cons,
        splitRdnsFrom_ordinary (isOrdinaryByte_of_mem noEscape noComma), further]
      simp [Function.comp_def]

/-- The parts are the texts between unprotected commas. -/
theorem splitRdns_eq (dn : String) :
    splitRdns dn = some ((splitUnescaped ',' dn.toList).map String.ofList) := by
  have whole : dn.toList = [] ++ [] ++ dn.toList := rfl
  have parts := splitRdnsFrom_eq dn.toList [] [] 0 [] whole rfl
  rw [← Text.utf8_eq_utf8Chars] at parts
  refine parts.trans ?_
  cases splitUnescaped ',' dn.toList <;> simp

theorem extractDnAttribute_eq (platform : Platform) (dn dnAttribute : String) :
    extractDnAttribute platform dn dnAttribute =
      .ofExcept (findAttribute platform dnAttribute
        ((splitUnescaped ',' dn.toList).map String.ofList)) := by
  rw [extractDnAttribute, splitRdns_eq]

/-- Resolving a user ends with a user or an error on every header. -/
theorem UserManager.resolve_ne_panic (platform : Platform) (manager : UserManager)
    (headerValue : String) : manager.resolve platform headerValue ≠ .panic := by
  intro panicked
  rw [UserManager.resolve, extractDnAttribute_eq, Outcome.bind_eq_panic_iff] at panicked
  rcases panicked with extracting | ⟨subject, -, resolved⟩
  · exact Outcome.ofExcept_ne_panic _ extracting
  · cases resolved

end OpenidTlsConnector
