import Mathlib.Data.List.Basic
import Mathlib.Data.List.DropRight

/-!
# Text operations of a Unicode string library

A string is a sequence of Unicode scalar values.  The operations below work on
`String` through its list of characters; byte views go through UTF-8.
Whitespace is the Unicode `White_Space` property, not its ASCII part.
-/

namespace Foundations.Text

/-- The Unicode `White_Space` property. -/
def isWhitespace (char : Char) : Bool :=
  let code := char.toNat
  (0x9 ≤ code && code ≤ 0xD) || code == 0x20 || code == 0x85 || code == 0xA0 ||
    code == 0x1680 || (0x2000 ≤ code && code ≤ 0x200A) || code == 0x2028 || code == 0x2029 ||
    code == 0x202F || code == 0x205F || code == 0x3000

/-- Printable ASCII other than the space. -/
def isGraphic (char : Char) : Bool :=
  0x21 ≤ char.toNat && char.toNat ≤ 0x7E

theorem isWhitespace_eq_false_of_isGraphic {char : Char} (graphic : isGraphic char = true) :
    isWhitespace char = false := by
  simp only [isGraphic, Bool.and_eq_true, decide_eq_true_eq] at graphic
  simp only [isWhitespace, Bool.or_eq_false_iff, Bool.and_eq_false_iff, decide_eq_false_iff_not,
    beq_eq_false_iff_ne, ne_eq]
  omega

/-- What holds of the first 128 code points holds of every ASCII character. -/
theorem forall_ascii {motive : Char → Prop} (holds : ∀ code < 128, motive (Char.ofNat code))
    {char : Char} (ascii : char.toNat < 128) : motive char := by
  have atCode := holds char.toNat ascii
  rwa [Char.ofNat_toNat] at atCode

/-- Printable ASCII throughout. -/
def Printable (text : String) : Prop :=
  ∀ char ∈ text.toList, char = ' ' ∨ isGraphic char = true

instance (text : String) : Decidable (Printable text) :=
  decidable_of_iff (text.toList.all (fun char => char == ' ' || isGraphic char) = true)
    (by simp [Printable])

@[simp]
theorem printable_append_iff {first second : String} :
    Printable (first ++ second) ↔ Printable first ∧ Printable second := by
  simp only [Printable, String.toList_append, List.mem_append, or_imp, forall_and]

/-! ## Trimming -/

def trimStart (chars : List Char) : List Char := chars.dropWhile isWhitespace

def trimEnd (chars : List Char) : List Char := (trimStart chars.reverse).reverse

/-- Remove leading and trailing whitespace. -/
def trim (text : String) : String := String.ofList (trimEnd (trimStart text.toList))

theorem trimStart_eq_self {chars : List Char}
    (graphic : ∀ char ∈ chars, isGraphic char = true) : trimStart chars = chars := by
  cases chars with
  | nil => rfl
  | cons char rest =>
      have solid := isWhitespace_eq_false_of_isGraphic (graphic char (by simp))
      simp [trimStart, solid]

theorem trim_eq_self {text : String}
    (graphic : ∀ char ∈ text.toList, isGraphic char = true) : trim text = text := by
  have reversed : trimStart text.toList.reverse = text.toList.reverse :=
    trimStart_eq_self (by simpa using graphic)
  simp [trim, trimEnd, trimStart_eq_self graphic, reversed]

theorem trimEnd_eq_rdropWhile (chars : List Char) : trimEnd chars = chars.rdropWhile isWhitespace :=
  rfl

theorem trimStart_cons {char : Char} (solid : isWhitespace char = false) (rest : List Char) :
    trimStart (char :: rest) = char :: rest := by
  simp [trimStart, solid]

/-- Nothing before a solid character is trimmed from the end. -/
theorem trimEnd_append_cons {char : Char} (solid : isWhitespace char = false)
    (before rest : List Char) :
    trimEnd (before ++ char :: rest) = before ++ char :: trimEnd rest := by
  simp only [trimEnd, trimStart, List.reverse_append, List.reverse_cons, List.append_assoc,
    List.dropWhile_append]
  cases blank : rest.reverse.dropWhile isWhitespace with
  | nil => simp [solid]
  | cons last others => simp

theorem trimEnd_eq_self {char : Char} (solid : isWhitespace char = false) (before : List Char) :
    trimEnd (before ++ [char]) = before ++ [char] := by
  rw [trimEnd_eq_rdropWhile, List.rdropWhile_concat_neg]
  simp [solid]

theorem trimEnd_append_blank {char : Char} (blank : isWhitespace char = true)
    (before : List Char) : trimEnd (before ++ [char]) = trimEnd before := by
  simp only [trimEnd_eq_rdropWhile, List.rdropWhile_concat_pos _ _ _ blank]

theorem trimEnd_eq_nil_iff (chars : List Char) :
    trimEnd chars = [] ↔ ∀ char ∈ chars, isWhitespace char = true := by
  rw [trimEnd_eq_rdropWhile, List.rdropWhile_eq_nil_iff]

theorem trimEnd_trimEnd (chars : List Char) : trimEnd (trimEnd chars) = trimEnd chars := by
  simp only [trimEnd_eq_rdropWhile, List.rdropWhile_idempotent]

theorem trimEnd_cons {char : Char} {rest : List Char} (kept : trimEnd rest ≠ []) :
    trimEnd (char :: rest) = char :: trimEnd rest := by
  rw [ne_eq, trimEnd, List.reverse_eq_nil_iff] at kept
  simp only [trimEnd, trimStart, List.reverse_cons, List.dropWhile_append] at kept ⊢
  simp [kept]

/-- The two ends are trimmed independently. -/
theorem trimStart_trimEnd (chars : List Char) :
    trimStart (trimEnd chars) = trimEnd (trimStart chars) := by
  induction chars with
  | nil => rfl
  | cons char rest inductionHypothesis =>
      by_cases blank : isWhitespace char = true
      · have start : trimStart (char :: rest) = trimStart rest := by simp [trimStart, blank]
        rw [start, ← inductionHypothesis]
        by_cases kept : trimEnd rest = []
        · have all : trimEnd (char :: rest) = [] := by
            rw [trimEnd_eq_nil_iff] at kept ⊢
            exact List.forall_mem_cons.mpr ⟨blank, kept⟩
          rw [all, kept]
        · rw [trimEnd_cons kept]
          simp [trimStart, blank]
      · have solid : isWhitespace char = false := by simpa using blank
        have whole := trimEnd_append_cons solid [] rest
        rw [List.nil_append, List.nil_append] at whole
        rw [trimStart_cons solid, whole, trimStart_cons solid]

theorem trim_trimEnd (chars : List Char) :
    trim (String.ofList (trimEnd chars)) = trim (String.ofList chars) := by
  simp only [trim, String.toList_ofList, trimStart_trimEnd, trimEnd_trimEnd]

/-! ## Prefixes and first separators -/

/-- What follows `start` in `text`, if `text` begins with it. -/
def stripPrefix (start text : String) : Option String :=
  (text.toList.dropPrefix? start.toList).map String.ofList

@[simp]
theorem stripPrefix_append (start rest : String) :
    stripPrefix start (start ++ rest) = some rest := by
  have found : (start.toList ++ rest.toList).dropPrefix? start.toList = some rest.toList :=
    List.dropPrefix?_eq_some_iff.mpr ⟨start.toList, by simp, by simp⟩
  simp [stripPrefix, found]

theorem eq_append_of_stripPrefix {start text rest : String}
    (stripped : stripPrefix start text = some rest) : text = start ++ rest := by
  obtain ⟨chars, found, rfl⟩ := Option.map_eq_some_iff.mp stripped
  obtain ⟨kept, parts, same⟩ := List.dropPrefix?_eq_some_iff.mp found
  rw [beq_iff_eq] at same
  rw [← String.toList_inj, parts, same]
  simp

/-- Split at the first occurrence of `separator`. -/
def splitOnceChars (separator : Char) : List Char → Option (List Char × List Char)
  | [] => none
  | char :: rest =>
      if char = separator then some ([], rest)
      else (splitOnceChars separator rest).map fun (before, after) => (char :: before, after)

def splitOnce (separator : Char) (text : String) : Option (String × String) :=
  (splitOnceChars separator text.toList).map fun (before, after) =>
    (String.ofList before, String.ofList after)

theorem splitOnceChars_append {separator : Char} {before : List Char}
    (absent : separator ∉ before) (after : List Char) :
    splitOnceChars separator (before ++ separator :: after) = some (before, after) := by
  induction before with
  | nil => simp [splitOnceChars]
  | cons char before inductionHypothesis =>
      simp only [List.mem_cons, not_or] at absent
      simp [splitOnceChars, Ne.symm absent.1, inductionHypothesis absent.2]

/-- The first separator decides: nothing before it contains one. -/
theorem splitOnce_append {separator : Char} {before : String}
    (absent : separator ∉ before.toList) (after : String) :
    splitOnce separator (before ++ String.singleton separator ++ after) =
      some (before, after) := by
  simp [splitOnce, splitOnceChars_append absent]

/-! ## Final characters -/

/-- The text ends in `char`. -/
def EndsIn (char : Char) (text : String) : Prop := text.toList.getLast? = some char

instance (char : Char) (text : String) : Decidable (EndsIn char text) :=
  inferInstanceAs (Decidable (_ = _))

/-- The text without one final `char`, if it ends in one. -/
def dropFinal (char : Char) (text : String) : String :=
  if text.toList.getLast? = some char then String.ofList text.toList.dropLast else text

theorem not_endsIn_empty (char : Char) : ¬ EndsIn char "" := by
  simp [EndsIn]

theorem endsIn_append_iff {char : Char} {rest : String} (nonempty : rest ≠ "") (start : String) :
    EndsIn char (start ++ rest) ↔ EndsIn char rest := by
  have some : rest.toList.getLast?.isSome = true := by simpa using nonempty
  rw [EndsIn, EndsIn, String.toList_append, List.getLast?_append, Option.or_of_isSome some]

/-- Behind another character, only what follows it can end in `char`. -/
theorem endsIn_append_singleton_iff {char other : Char} (different : other ≠ char)
    (start rest : String) :
    EndsIn char (start ++ String.singleton other ++ rest) ↔ EndsIn char rest := by
  by_cases nonempty : rest = ""
  · simp [EndsIn, nonempty, different]
  · exact endsIn_append_iff nonempty _

theorem exists_of_endsIn {char : Char} {text : String} (ends : EndsIn char text) :
    ∃ start, text = start ++ String.singleton char := by
  obtain ⟨start, parts⟩ := List.getLast?_eq_some_iff.mp ends
  exact ⟨String.ofList start, by rw [← String.toList_inj, parts]; simp⟩

theorem endsIn_concat (char : Char) (start : String) :
    EndsIn char (start ++ String.singleton char) := by
  simp [EndsIn]

theorem dropFinal_concat (char : Char) (start : String) :
    dropFinal char (start ++ String.singleton char) = start := by
  simp [dropFinal]

theorem dropFinal_eq_self {char : Char} {text : String} (kept : ¬ EndsIn char text) :
    dropFinal char text = text := if_neg kept

theorem dropFinal_eq_self_iff (char : Char) (text : String) :
    dropFinal char text = text ↔ ¬ EndsIn char text := by
  refine ⟨fun same ends => ?_, dropFinal_eq_self⟩
  obtain ⟨start, rfl⟩ := exists_of_endsIn ends
  rw [dropFinal_concat] at same
  simpa using congrArg String.length same

theorem dropFinal_append {char : Char} {rest : String} (nonempty : rest ≠ "") (start : String) :
    dropFinal char (start ++ rest) = start ++ dropFinal char rest := by
  by_cases ends : EndsIn char rest
  · obtain ⟨before, rfl⟩ := exists_of_endsIn ends
    rw [← String.append_assoc, dropFinal_concat, dropFinal_concat]
  · rw [dropFinal_eq_self ends, dropFinal_eq_self]
    rwa [endsIn_append_iff nonempty]

/-! ## Words -/

/-- The non-empty pieces between whitespace characters. -/
def splitWhitespace (text : String) : List String :=
  ((text.toList.splitOnP isWhitespace).filter (· ≠ [])).map String.ofList

/-- A word is non-empty and free of whitespace. -/
def IsWord (text : String) : Prop :=
  text.toList ≠ [] ∧ ∀ char ∈ text.toList, isWhitespace char = false

theorem splitOnP_pieces_free (separates : Char → Bool) (chars : List Char) :
    ∀ piece ∈ chars.splitOnP separates, ∀ char ∈ piece, separates char = false := by
  induction chars with
  | nil => simp
  | cons head rest inductionHypothesis =>
      rw [List.splitOnP_cons_eq_if_modifyHead]
      split
      · simpa using inductionHypothesis
      · rename_i kept
        obtain ⟨first, others, split⟩ :=
          List.exists_cons_of_ne_nil (List.splitOnP_ne_nil separates rest)
        rw [split] at inductionHypothesis ⊢
        simp only [List.modifyHead_cons, List.mem_cons, forall_eq_or_imp] at inductionHypothesis ⊢
        exact ⟨⟨by simpa using kept, inductionHypothesis.1⟩, inductionHypothesis.2⟩

theorem isWord_of_mem_splitWhitespace {text word : String}
    (membership : word ∈ splitWhitespace text) : IsWord word := by
  obtain ⟨piece, inPieces, rfl⟩ := List.mem_map.mp membership
  obtain ⟨inSplit, nonempty⟩ := List.mem_filter.mp inPieces
  refine ⟨by simpa using nonempty, ?_⟩
  simpa using splitOnP_pieces_free isWhitespace text.toList piece inSplit

theorem splitWhitespace_cons (word : String) (isWord : IsWord word) (rest : String) :
    splitWhitespace (word ++ " " ++ rest) = word :: splitWhitespace rest := by
  have split := List.splitOnP_append_cons_of_forall_mem isWord.2 ' ' (by decide) rest.toList
  have chars : (word ++ " " ++ rest).toList = word.toList ++ ' ' :: rest.toList := by simp
  have kept : word.toList ≠ [] := isWord.1
  simp [splitWhitespace, chars, split, kept]

theorem splitWhitespace_word (word : String) (isWord : IsWord word) :
    splitWhitespace word = [word] := by
  have kept : word.toList ≠ [] := isWord.1
  simp [splitWhitespace, List.splitOnP_eq_singleton isWord.2, kept]

/-- Joining words with single spaces and splitting again loses nothing. -/
theorem splitWhitespace_intercalate (words : List String) (areWords : ∀ word ∈ words, IsWord word) :
    splitWhitespace (" ".intercalate words) = words := by
  induction words with
  | nil => simp [splitWhitespace]
  | cons word rest inductionHypothesis =>
      have tailWords : ∀ other ∈ rest, IsWord other :=
        fun other membership => areWords other (List.mem_cons_of_mem _ membership)
      cases rest with
      | nil => simpa using splitWhitespace_word word (areWords word (by simp))
      | cons second others =>
          rw [String.intercalate_cons_of_ne_nil (by simp),
            splitWhitespace_cons word (areWords word (by simp)), inductionHypothesis tailWords]

/-! ## Case -/

/-- Unicode's full uppercase mapping, which may turn one character into
several.  On ASCII it is the familiar one. -/
structure UppercaseMapping where
  upper : Char → List Char
  upper_ascii : ∀ char, char.toNat < 128 → upper char = [char.toUpper]

def UppercaseMapping.apply (mapping : UppercaseMapping) (text : String) : String :=
  String.ofList (text.toList.flatMap mapping.upper)

/-- The mapping that knows no letters outside ASCII. -/
def UppercaseMapping.ascii : UppercaseMapping where
  upper char := [char.toUpper]
  upper_ascii _ _ := rfl

theorem UppercaseMapping.apply_of_ascii (mapping : UppercaseMapping) {text : String}
    (ascii : ∀ char ∈ text.toList, char.toNat < 128) :
    mapping.apply text = String.ofList (text.toList.map Char.toUpper) := by
  have each : ∀ char ∈ text.toList, mapping.upper char = [char.toUpper] :=
    fun char membership => mapping.upper_ascii char (ascii char membership)
  rw [apply, List.flatMap_congr each, List.map_eq_flatMap]

/-- Equality up to the case of ASCII letters. -/
def equalsIgnoringAsciiCase (first second : String) : Bool :=
  first.toList.map Char.toLower == second.toList.map Char.toLower

/-- A second map makes a first one needless if it does so on every ASCII
character. -/
theorem map_map_of_ascii {first second : Char → Char}
    (absorbs : ∀ code < 128, second (first (Char.ofNat code)) = second (Char.ofNat code))
    {chars : List Char} (ascii : ∀ char ∈ chars, char.toNat < 128) :
    (chars.map first).map second = chars.map second := by
  rw [List.map_map]
  apply List.map_congr_left
  intro char membership
  exact forall_ascii (motive := fun char => second (first char) = second char) absorbs
    (ascii char membership)

/-- For ASCII texts it is the same whichever case both are put in. -/
theorem equalsIgnoringAsciiCase_iff (mapping : UppercaseMapping) {first second : String}
    (firstAscii : ∀ char ∈ first.toList, char.toNat < 128)
    (secondAscii : ∀ char ∈ second.toList, char.toNat < 128) :
    equalsIgnoringAsciiCase first second = true ↔ mapping.apply first = mapping.apply second := by
  have throughUpper : ∀ text : String, (∀ char ∈ text.toList, char.toNat < 128) →
      (text.toList.map Char.toUpper).map Char.toLower = text.toList.map Char.toLower :=
    fun _ ascii => map_map_of_ascii (by decide) ascii
  have throughLower : ∀ text : String, (∀ char ∈ text.toList, char.toNat < 128) →
      (text.toList.map Char.toLower).map Char.toUpper = text.toList.map Char.toUpper :=
    fun _ ascii => map_map_of_ascii (by decide) ascii
  rw [equalsIgnoringAsciiCase, beq_iff_eq, mapping.apply_of_ascii firstAscii,
    mapping.apply_of_ascii secondAscii, String.ofList_inj]
  constructor
  · intro same
    rw [← throughLower first firstAscii, same, throughLower second secondAscii]
  · intro same
    rw [← throughUpper first firstAscii, same, throughUpper second secondAscii]

/-! ## Bytes -/

/-- The UTF-8 bytes of a string. -/
def utf8 (text : String) : List UInt8 := text.toByteArray.data.toList

/-- Read bytes as UTF-8, refusing any that are not. -/
def fromUtf8 (bytes : List UInt8) : Option String := String.fromUTF8? ⟨bytes.toArray⟩

@[simp]
theorem fromUtf8_utf8 (text : String) : fromUtf8 (utf8 text) = some text := by
  have same : (⟨(utf8 text).toArray⟩ : ByteArray) = text.toByteArray := by simp [utf8]
  rw [fromUtf8, same, String.fromUTF8?, dif_pos text.isValidUTF8]
  rfl

/-- Bytes that are read as a text are the bytes of that text. -/
theorem eq_utf8_of_fromUtf8 {bytes : List UInt8} {text : String}
    (read : fromUtf8 bytes = some text) : bytes = utf8 text := by
  rw [fromUtf8, String.fromUTF8?] at read
  split at read
  · cases read
    rfl
  · cases read

theorem utf8_append (first second : String) : utf8 (first ++ second) = utf8 first ++ utf8 second := by
  simp [utf8]

theorem utf8_injective : Function.Injective utf8 := by
  intro first second same
  have decoded := congrArg fromUtf8 same
  simpa using decoded

/-- A reader of UTF-8 that puts something in the place of bytes that are none. -/
structure LossyUtf8 where
  decode : List UInt8 → String
  decode_utf8 : ∀ text, decode (utf8 text) = text

/-- The reader that gives up the whole text. -/
def LossyUtf8.replaceAll : LossyUtf8 where
  decode bytes := (fromUtf8 bytes).getD "\uFFFD"
  decode_utf8 text := by simp

theorem utf8_eq_flatMap (text : String) :
    utf8 text = text.toList.flatMap String.utf8EncodeChar := by
  rw [utf8, ← String.utf8Encode_toList, List.utf8Encode]
  simp

/-- An ASCII character is its own single byte. -/
theorem utf8EncodeChar_of_ascii {char : Char} (ascii : char.toNat < 128) :
    String.utf8EncodeChar char = [UInt8.ofNat char.toNat] := by
  have small : char.val.toNat ≤ 0x7F := Nat.le_of_lt_succ ascii
  simp only [String.utf8EncodeChar, small, if_true]
  rfl

theorem utf8_of_ascii {text : String} (ascii : ∀ char ∈ text.toList, char.toNat < 128) :
    utf8 text = text.toList.map fun char => UInt8.ofNat char.toNat := by
  have each : ∀ char ∈ text.toList, String.utf8EncodeChar char = [UInt8.ofNat char.toNat] :=
    fun char membership => utf8EncodeChar_of_ascii (ascii char membership)
  rw [utf8_eq_flatMap, List.flatMap_congr each, List.map_eq_flatMap]

/-- A byte offset that does not split a character. -/
def isCharBoundary (bytes : List UInt8) (index : Nat) : Bool :=
  index == 0 || index == bytes.length ||
    match bytes[index]? with
    | some byte => byte < 0x80 || 0xC0 ≤ byte
    | none => false

/-- The slice between two byte offsets, absent when an offset is out of range
or splits a character. -/
def slice (text : String) (start stop : Nat) : Option String :=
  let bytes := utf8 text
  if start ≤ stop && isCharBoundary bytes start && isCharBoundary bytes stop then
    fromUtf8 ((bytes.take stop).drop start)
  else none

end Foundations.Text
