import OpenidTlsConnector.Foundations.Slices
import OpenidTlsConnector.Server.Main

/-!
# Reading the MAC key

The length is tested in bytes, the slices are cut at fixed byte offsets, and
each slice goes through a number parser that also takes a plus sign.  Two kinds
of text are misjudged: pairs with a plus sign pass, and a character across the
end of a slice stops the server.
-/

namespace OpenidTlsConnector

open Foundations

/-! ## Digits -/

def IsHexDigit (char : Char) : Prop :=
  ('0' ≤ char ∧ char ≤ '9') ∨ ('a' ≤ char ∧ char ≤ 'f') ∨ ('A' ≤ char ∧ char ≤ 'F')

instance (char : Char) : Decidable (IsHexDigit char) := inferInstanceAs (Decidable (_ ∨ _))

def lowerHexDigit (digit : Nat) : Char := "0123456789abcdef".toList.getD digit '0'

/-- Two digits for each byte. -/
def lowerHexChars (bytes : List UInt8) : List Char :=
  bytes.flatMap fun byte => [lowerHexDigit (byte.toNat / 16), lowerHexDigit (byte.toNat % 16)]

/-- The lower-case spelling of a key. -/
def lowerHex (key : Bytes32) : String := String.ofList (lowerHexChars key.val)

theorem hexDigit?_isSome_iff (char : Char) :
    (∃ value, hexDigit? char = some value) ↔ IsHexDigit char := by
  unfold hexDigit? IsHexDigit
  split_ifs with decimal lower upper <;> simp [*]

theorem ascii_of_isHexDigit {char : Char} (digit : IsHexDigit char) : char.toNat < 128 := by
  have bounded : ∀ limit : Char, limit.toNat < 128 → char ≤ limit → char.toNat < 128 :=
    fun limit small below => Nat.lt_of_le_of_lt (UInt32.le_iff_toNat_le.mp below) small
  rcases digit with ⟨-, below⟩ | ⟨-, below⟩ | ⟨-, below⟩
  · exact bounded '9' (by decide) below
  · exact bounded 'f' (by decide) below
  · exact bounded 'F' (by decide) below

/-- A digit is worth less than sixteen, and its value spells it in lower case. -/
theorem lowerHexDigit_of_hexDigit? {char : Char} {value : Nat}
    (digit : hexDigit? char = some value) :
    value < 16 ∧ lowerHexDigit value = char.toLower := by
  have ascii := ascii_of_isHexDigit ((hexDigit?_isSome_iff char).mp ⟨value, digit⟩)
  have spelled : ∀ value ∈ hexDigit? char, value < 16 ∧ lowerHexDigit value = char.toLower :=
    Text.forall_ascii (motive := fun char => ∀ value ∈ hexDigit? char,
      value < 16 ∧ lowerHexDigit value = char.toLower) (by decide) ascii
  exact spelled value digit

theorem hexDigit?_lowerHexDigit {value : Nat} (small : value < 16) :
    hexDigit? (lowerHexDigit value) = some value := by
  revert value
  decide

/-! ## Pairs -/

/-- What the number parser takes for two digits. -/
def IsHexPair (high low : Char) : Prop := (IsHexDigit high ∨ high = '+') ∧ IsHexDigit low

instance (high low : Char) : Decidable (IsHexPair high low) := inferInstanceAs (Decidable (_ ∧ _))

theorem u8FromHex_of_digits {high low : Char} {highValue lowValue : Nat}
    (highDigit : hexDigit? high = some highValue) (lowDigit : hexDigit? low = some lowValue) :
    u8FromHex (String.ofList [high, low]) = some (.ofNat (highValue * 16 + lowValue)) := by
  have notPlus : high ≠ '+' := by
    rintro rfl
    cases highDigit
  have highSmall := (lowerHexDigit_of_hexDigit? highDigit).1
  have lowSmall := (lowerHexDigit_of_hexDigit? lowDigit).1
  have fits : highValue * 16 + lowValue < 256 := by omega
  simp [u8FromHex, notPlus, highDigit, lowDigit, fits]

theorem u8FromHex_isSome_iff (high low : Char) :
    (∃ byte, u8FromHex (String.ofList [high, low]) = some byte) ↔ IsHexPair high low := by
  simp only [IsHexPair, ← hexDigit?_isSome_iff]
  by_cases plus : high = '+'
  · subst plus
    cases lowDigit : hexDigit? low with
    | none => simp [u8FromHex, lowDigit]
    | some lowValue =>
        have fits : lowValue < 256 := by
          have small := (lowerHexDigit_of_hexDigit? lowDigit).1
          omega
        simp [u8FromHex, lowDigit, fits]
  · simp only [plus, or_false]
    constructor
    · rintro ⟨byte, read⟩
      cases highDigit : hexDigit? high <;> cases lowDigit : hexDigit? low <;>
        simp [u8FromHex, plus, highDigit, lowDigit] at read ⊢
    · rintro ⟨⟨highValue, highDigit⟩, lowValue, lowDigit⟩
      exact ⟨_, u8FromHex_of_digits highDigit lowDigit⟩

/-- No character outside ASCII is a digit. -/
theorem u8FromHex_wide {wide : Char} (two : wide.utf8Size = 2) :
    u8FromHex (String.ofList [wide]) = none := by
  have outside : ¬ wide.toNat < 128 := by
    rw [← Text.length_utf8EncodeChar_eq_one_iff, String.length_utf8EncodeChar, two]
    decide
  have notPlus : wide ≠ '+' := by
    rintro rfl
    exact outside (by decide)
  cases digit : hexDigit? wide with
  | none => simp [u8FromHex, notPlus, digit]
  | some value =>
      exact absurd (ascii_of_isHexDigit ((hexDigit?_isSome_iff wide).mp ⟨value, digit⟩)) outside

/-! ## The loop -/

/-- The characters are pairs, and the parser takes each. -/
inductive ReadsAs : List Char → List UInt8 → Prop where
  | done : ReadsAs [] []
  | pair {high low rest byte bytes}
      (read : u8FromHex (String.ofList [high, low]) = some byte) (others : ReadsAs rest bytes) :
      ReadsAs (high :: low :: rest) (byte :: bytes)

/-- Behind pairs that the parser takes, there are two bytes that it can look at
and does not take. -/
inductive Refused : List Char → Prop where
  | wide {char rest} (two : char.utf8Size = 2) : Refused (char :: rest)
  | malformed {high low rest} (highAscii : high.toNat < 128) (lowAscii : low.toNat < 128)
      (notPair : ¬ IsHexPair high low) : Refused (high :: low :: rest)
  | later {high low rest} (taken : IsHexPair high low) (others : Refused rest) :
      Refused (high :: low :: rest)

theorem ascii_of_isHexPair {high low : Char} (pair : IsHexPair high low) :
    high.toNat < 128 ∧ low.toNat < 128 := by
  obtain ⟨digit | rfl, lowDigit⟩ := pair
  · exact ⟨ascii_of_isHexDigit digit, ascii_of_isHexDigit lowDigit⟩
  · exact ⟨by decide, ascii_of_isHexDigit lowDigit⟩

variable {hex : String} {before rest : List Char} {count i : Nat}

/-- One round of the loop, when the slice is two ASCII characters. -/
theorem hexPairs_of_ascii {high low : Char} (whole : hex.toList = before ++ high :: low :: rest)
    (start : (Text.utf8Chars before).length = i * 2) (highAscii : high.toNat < 128)
    (lowAscii : low.toNat < 128) :
    hexPairs hex (count + 1) i = (do
      let byte ← Outcome.okOr (u8FromHex (String.ofList [high, low])) ()
      let rest ← hexPairs hex count (i + 1)
      return byte :: rest) ∧
    hex.toList = (before ++ [high, low]) ++ rest ∧
    (Text.utf8Chars (before ++ [high, low])).length = (i + 1) * 2 := by
  have two := (Text.length_utf8Chars_eq_two_iff [high, low]).mpr
    (Or.inl ⟨high, low, rfl, highAscii, lowAscii⟩)
  have sliced : Text.slice hex (i * 2) (i * 2 + 2) = some (String.ofList [high, low]) := by
    rw [← start, Text.slice_past_iff whole]
    exact ⟨rest, by simp, by rwa [String.toList_ofList]⟩
  refine ⟨?_, by simp [whole], ?_⟩
  · rw [hexPairs, sliced]
    rfl
  · rw [Text.utf8Chars_append, List.length_append, start, two]
    omega

theorem hexPairs_of_readsAs {bytes : List UInt8} (reads : ReadsAs rest bytes)
    (whole : hex.toList = before ++ rest) (start : (Text.utf8Chars before).length = i * 2) :
    hexPairs hex bytes.length i = .ok bytes := by
  induction reads generalizing before i with
  | done => rfl
  | pair read others inductionHypothesis =>
      obtain ⟨highAscii, lowAscii⟩ := ascii_of_isHexPair ((u8FromHex_isSome_iff _ _).mp ⟨_, read⟩)
      obtain ⟨round, whole', start'⟩ := hexPairs_of_ascii whole start highAscii lowAscii
      rw [List.length_cons, round, read, inductionHypothesis whole' start']
      rfl

/-- A pair leaves bytes for one round less. -/
theorem exists_count_of_ascii {high low : Char} (highAscii : high.toNat < 128)
    (lowAscii : low.toNat < 128)
    (length : (Text.utf8Chars (high :: low :: rest)).length = count * 2) :
    ∃ fewer, count = fewer + 1 ∧ (Text.utf8Chars rest).length = fewer * 2 := by
  rw [← Text.length_utf8EncodeChar_eq_one_iff] at highAscii lowAscii
  rw [Text.utf8Chars_cons, Text.utf8Chars_cons, List.length_append, List.length_append, highAscii,
    lowAscii] at length
  exact ⟨count - 1, by omega, by omega⟩

theorem hexPairs_of_refused (refused : Refused rest) (whole : hex.toList = before ++ rest)
    (start : (Text.utf8Chars before).length = i * 2)
    (length : (Text.utf8Chars rest).length = count * 2) :
    hexPairs hex count i = .error () := by
  induction refused generalizing before i count with
  | @wide char rest two =>
      rw [Text.utf8Chars_cons, List.length_append, String.length_utf8EncodeChar, two] at length
      obtain ⟨fewer, rfl⟩ := Nat.exists_eq_succ_of_ne_zero (by omega : count ≠ 0)
      have sliced : Text.slice hex (i * 2) (i * 2 + 2) = some (String.ofList [char]) := by
        rw [← start, Text.slice_past_iff whole]
        exact ⟨rest, by simp, by simp [two]⟩
      rw [hexPairs, sliced, Outcome.expect, Outcome.ok_bind, u8FromHex_wide two]
      rfl
  | @malformed high low rest highAscii lowAscii notPair =>
      have nothing : u8FromHex (String.ofList [high, low]) = none := by
        rw [← Option.not_isSome_iff_eq_none, Option.isSome_iff_exists, u8FromHex_isSome_iff]
        exact notPair
      obtain ⟨fewer, rfl, -⟩ := exists_count_of_ascii highAscii lowAscii length
      rw [(hexPairs_of_ascii whole start highAscii lowAscii).1, nothing]
      rfl
  | @later high low rest taken others inductionHypothesis =>
      obtain ⟨highAscii, lowAscii⟩ := ascii_of_isHexPair taken
      obtain ⟨byte, read⟩ := (u8FromHex_isSome_iff high low).mpr taken
      obtain ⟨fewer, rfl, length'⟩ := exists_count_of_ascii highAscii lowAscii length
      obtain ⟨round, whole', start'⟩ := hexPairs_of_ascii whole start highAscii lowAscii
      rw [round, read, inductionHypothesis whole' start' length']
      rfl

/-- The loop takes every pair, meets two bytes that it refuses, or stops at a
slice that it cannot cut. -/
theorem hexPairs_cases (whole : hex.toList = before ++ rest)
    (start : (Text.utf8Chars before).length = i * 2)
    (length : (Text.utf8Chars rest).length = count * 2) :
    (∃ bytes, ReadsAs rest bytes ∧ bytes.length = count) ∨ Refused rest ∨
      hexPairs hex count i = .panic := by
  induction count generalizing before rest i with
  | zero =>
      have nothing : rest = [] := Text.utf8Chars_injective (List.length_eq_zero_iff.mp (by omega))
      subst nothing
      exact Or.inl ⟨[], .done, rfl⟩
  | succ count inductionHypothesis =>
      cases sliced : Text.slice hex (i * 2) (i * 2 + 2) with
      | none =>
          refine Or.inr (Or.inr ?_)
          rw [hexPairs, sliced]
          rfl
      | some piece =>
          rw [← start, Text.slice_past_iff whole] at sliced
          obtain ⟨after, rfl, two⟩ := sliced
          rcases (Text.length_utf8Chars_eq_two_iff _).mp two with
            ⟨high, low, chars, highAscii, lowAscii⟩ | ⟨wide, chars, size⟩
          · rw [chars] at whole length ⊢
            by_cases pair : IsHexPair high low
            · obtain ⟨round, whole', start'⟩ := hexPairs_of_ascii whole start highAscii lowAscii
              obtain ⟨fewer, same, length'⟩ := exists_count_of_ascii highAscii lowAscii length
              obtain rfl := Nat.succ.inj same
              obtain ⟨byte, read⟩ := (u8FromHex_isSome_iff high low).mpr pair
              rcases inductionHypothesis whole' start' length' with
                ⟨bytes, reads, enough⟩ | refused | stopped
              · exact Or.inl ⟨byte :: bytes, .pair read reads, congrArg Nat.succ enough⟩
              · exact Or.inr (Or.inl (.later pair refused))
              · refine Or.inr (Or.inr ?_)
                rw [round, read, stopped]
                rfl
            · exact Or.inr (Or.inl (.malformed highAscii lowAscii pair))
          · rw [chars]
            exact Or.inr (Or.inl (.wide size))

/-! ## Keys -/

/-- Sixty-four digits and nothing else. -/
def IsHexKey (hex : String) : Prop :=
  hex.toList.length = 64 ∧ ∀ char ∈ hex.toList, IsHexDigit char

/-- A key is read from its digits alone, and nothing stops the server. -/
structure JudgesKey (hex : String) : Prop where
  ends : hexTo32Bytes hex ≠ .panic
  accepted : (∃ key, hexTo32Bytes hex = .ok key) ↔ IsHexKey hex
  spelled : ∀ key, hexTo32Bytes hex = .ok key →
    lowerHex key = String.ofList (hex.toList.map Char.toLower)

theorem hexTo32Bytes_of_length {hex : String} (length : (Text.utf8 hex).length ≠ 64) :
    hexTo32Bytes hex = .error () := if_pos length

/-- With the right length, the loop decides. -/
theorem hexTo32Bytes_loop {hex : String} (length : (Text.utf8 hex).length = 64) :
    (hexTo32Bytes hex >>= fun key => Outcome.ok key.val) = hexPairs hex 32 0 := by
  rw [hexTo32Bytes, if_neg (not_not_intro length)]
  split <;> (rename_i read; exact read.symm)

/-- Pairs of digits are taken, and their bytes spell them in lower case. -/
theorem exists_readsAs_of_digits {chars : List Char} {count : Nat}
    (length : chars.length = count * 2) (digits : ∀ char ∈ chars, IsHexDigit char) :
    ∃ bytes, ReadsAs chars bytes ∧ bytes.length = count ∧
      lowerHexChars bytes = chars.map Char.toLower := by
  induction count generalizing chars with
  | zero =>
      obtain rfl := List.length_eq_zero_iff.mp (length.trans (Nat.zero_mul 2))
      exact ⟨[], .done, rfl, rfl⟩
  | succ count inductionHypothesis =>
      obtain ⟨high, low, rest, rfl⟩ : ∃ high low rest, chars = high :: low :: rest := by
        rcases chars with _ | ⟨high, _ | ⟨low, rest⟩⟩
        · simp at length
        · simp only [List.length_cons, List.length_nil] at length
          omega
        · exact ⟨high, low, rest, rfl⟩
      simp only [List.mem_cons, forall_eq_or_imp] at digits
      obtain ⟨highIsDigit, lowIsDigit, others⟩ := digits
      obtain ⟨highValue, highDigit⟩ := (hexDigit?_isSome_iff high).mpr highIsDigit
      obtain ⟨lowValue, lowDigit⟩ := (hexDigit?_isSome_iff low).mpr lowIsDigit
      obtain ⟨highSmall, highSpelled⟩ := lowerHexDigit_of_hexDigit? highDigit
      obtain ⟨lowSmall, lowSpelled⟩ := lowerHexDigit_of_hexDigit? lowDigit
      obtain ⟨bytes, reads, enough, spelled⟩ := inductionHypothesis
        (by simp only [List.length_cons] at length; omega) others
      refine ⟨.ofNat (highValue * 16 + lowValue) :: bytes,
        .pair (u8FromHex_of_digits highDigit lowDigit) reads, congrArg Nat.succ enough, ?_⟩
      have value : (UInt8.ofNat (highValue * 16 + lowValue)).toNat = highValue * 16 + lowValue := by
        rw [UInt8.toNat_ofNat']
        exact Nat.mod_eq_of_lt (by omega)
      have highHalf : (highValue * 16 + lowValue) / 16 = highValue := by omega
      have lowHalf : (highValue * 16 + lowValue) % 16 = lowValue := by omega
      simp only [lowerHexChars, List.flatMap_cons, value, highHalf, lowHalf, highSpelled,
        lowSpelled, List.map_cons, List.cons_append, List.nil_append, List.cons.injEq, true_and]
      exact spelled

/-- Every key is read from its lower-case spelling. -/
theorem readsAs_lowerHexChars (bytes : List UInt8) : ReadsAs (lowerHexChars bytes) bytes := by
  induction bytes with
  | nil => exact .done
  | cons byte bytes inductionHypothesis =>
      have small := byte.toNat_lt
      have read := u8FromHex_of_digits (hexDigit?_lowerHexDigit (by omega : byte.toNat / 16 < 16))
        (hexDigit?_lowerHexDigit (by omega : byte.toNat % 16 < 16))
      have whole : byte.toNat / 16 * 16 + byte.toNat % 16 = byte.toNat := by omega
      rw [whole, UInt8.ofNat_toNat] at read
      exact .pair read inductionHypothesis

theorem length_of_readsAs {chars : List Char} {bytes : List UInt8} (reads : ReadsAs chars bytes) :
    (Text.utf8Chars chars).length = bytes.length * 2 := by
  induction reads with
  | done => rfl
  | pair read others inductionHypothesis =>
      obtain ⟨highAscii, lowAscii⟩ := ascii_of_isHexPair ((u8FromHex_isSome_iff _ _).mp ⟨_, read⟩)
      rw [← Text.length_utf8EncodeChar_eq_one_iff] at highAscii lowAscii
      rw [Text.utf8Chars_cons, Text.utf8Chars_cons, List.length_append, List.length_append,
        highAscii, lowAscii, inductionHypothesis, List.length_cons]
      omega

theorem hexTo32Bytes_of_readsAs {hex : String} {bytes : List UInt8}
    (reads : ReadsAs hex.toList bytes) (enough : bytes.length = 32) :
    hexTo32Bytes hex = .ok ⟨bytes, enough⟩ := by
  have length : (Text.utf8 hex).length = 64 := by
    rw [Text.utf8_eq_utf8Chars, length_of_readsAs reads, enough]
  have whole : hex.toList = [] ++ hex.toList := rfl
  have start : (Text.utf8Chars []).length = 0 * 2 := rfl
  have pairs := hexPairs_of_readsAs reads whole start
  rw [enough, ← hexTo32Bytes_loop length, Outcome.bind_eq_ok_iff] at pairs
  obtain ⟨key, read, same⟩ := pairs
  cases same
  exact read

/-- A text with the right length is taken, is refused at a pair, or stops the
server. -/
theorem hexTo32Bytes_cases {hex : String} (length : (Text.utf8 hex).length = 64) :
    (∃ key, hexTo32Bytes hex = .ok key) ∨ Refused hex.toList ∨ hexTo32Bytes hex = .panic := by
  have whole : hex.toList = [] ++ hex.toList := rfl
  have start : (Text.utf8Chars []).length = 0 * 2 := rfl
  have remaining : (Text.utf8Chars hex.toList).length = 32 * 2 := by
    rwa [← Text.utf8_eq_utf8Chars]
  rcases hexPairs_cases whole start remaining with ⟨bytes, reads, enough⟩ | refused | stopped
  · exact Or.inl ⟨_, hexTo32Bytes_of_readsAs reads enough⟩
  · exact Or.inr (Or.inl refused)
  · have loop := hexTo32Bytes_loop length
    rw [stopped, Outcome.bind_eq_panic_iff] at loop
    exact Or.inr (Or.inr (loop.resolve_right (by simp)))

theorem hexTo32Bytes_of_refused {hex : String} (length : (Text.utf8 hex).length = 64)
    (refused : Refused hex.toList) : hexTo32Bytes hex = .error () := by
  have whole : hex.toList = [] ++ hex.toList := rfl
  have start : (Text.utf8Chars []).length = 0 * 2 := rfl
  have remaining : (Text.utf8Chars hex.toList).length = 32 * 2 := by
    rwa [← Text.utf8_eq_utf8Chars]
  have loop := hexTo32Bytes_loop length
  rw [hexPairs_of_refused refused whole start remaining, Outcome.bind_eq_error_iff] at loop
  exact loop.resolve_right (by simp)

theorem exists_key {hex : String} (isKey : IsHexKey hex) :
    ∃ key, hexTo32Bytes hex = .ok key ∧
      lowerHex key = String.ofList (hex.toList.map Char.toLower) := by
  obtain ⟨length, digits⟩ := isKey
  obtain ⟨bytes, reads, enough, spelled⟩ := exists_readsAs_of_digits
    (length.trans (by decide) : hex.toList.length = 32 * 2) digits
  exact ⟨⟨bytes, enough⟩, hexTo32Bytes_of_readsAs reads enough, congrArg String.ofList spelled⟩

/-- A text that is refused was no key. -/
theorem judgesKey_of_error {hex : String} (refused : hexTo32Bytes hex = .error ()) :
    JudgesKey hex := by
  refine ⟨by simp [refused], ?_, by simp [refused]⟩
  constructor
  · rintro ⟨key, read⟩
    cases refused.symm.trans read
  · intro isKey
    obtain ⟨key, read, -⟩ := exists_key isKey
    exact ⟨key, read⟩

theorem judgesKey_of_isHexKey {hex : String} (isKey : IsHexKey hex) : JudgesKey hex := by
  obtain ⟨key, read, spelled⟩ := exists_key isKey
  refine ⟨by simp [read], iff_of_true ⟨key, read⟩ isKey, ?_⟩
  intro key' read'
  cases read.symm.trans read'
  exact spelled

/-- A text is read as a key is described to be exactly when it does not have 64
bytes, is a key, or is refused at a pair; and every key can be written. -/
theorem judgesKey_iff (hex : String) (key : Bytes32) :
    (JudgesKey hex ↔ (Text.utf8 hex).length ≠ 64 ∨ IsHexKey hex ∨ Refused hex.toList) ∧
      hexTo32Bytes (lowerHex key) = .ok key := by
  constructor
  · by_cases length : (Text.utf8 hex).length = 64
    · constructor
      · intro judges
        rcases hexTo32Bytes_cases length with taken | refused | stopped
        · exact Or.inr (Or.inl (judges.accepted.mp taken))
        · exact Or.inr (Or.inr refused)
        · exact absurd stopped judges.ends
      · rintro (other | isKey | refused)
        · exact absurd length other
        · exact judgesKey_of_isHexKey isKey
        · exact judgesKey_of_error (hexTo32Bytes_of_refused length refused)
    · exact iff_of_true (judgesKey_of_error (hexTo32Bytes_of_length length)) (Or.inl length)
  · refine hexTo32Bytes_of_readsAs ?_ key.property
    rw [lowerHex, String.toList_ofList]
    exact readsAs_lowerHexChars key.val

/-! ## Misjudged texts -/

/-- Thirty-two pairs of a plus sign and a digit. -/
def plusKey : String := String.ofList (List.replicate 32 ['+', 'a']).flatten

/-- Sixty-four bytes, with a character across the end of the first slice. -/
def cutKey : String := String.ofList ('0' :: 'é' :: List.replicate 61 '0')

/-- One is taken for a key, and the other stops the server. -/
theorem not_judgesKey_of_plus :
    hexTo32Bytes plusKey = .ok ⟨List.replicate 32 10, rfl⟩ ∧ ¬ JudgesKey plusKey ∧
      hexTo32Bytes cutKey = .panic ∧ ¬ JudgesKey cutKey := by
  have taken : hexTo32Bytes plusKey = .ok ⟨List.replicate 32 10, rfl⟩ := by decide +kernel
  have stopped : hexTo32Bytes cutKey = .panic := by decide +kernel
  refine ⟨taken, ?_, stopped, fun judges => judges.ends stopped⟩
  intro judges
  obtain ⟨-, digits⟩ := judges.accepted.mp ⟨_, taken⟩
  exact absurd (digits '+' (by decide +kernel)) (by decide)

end OpenidTlsConnector
