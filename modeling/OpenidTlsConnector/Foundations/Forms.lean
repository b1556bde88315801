import OpenidTlsConnector.Foundations.FormUrlEncoded

/-!
# Whole forms

A form is a list of pairs joined by `&`.  A server reads it from the bytes of a
body, which need not be UTF-8; of a text it reads what the parser of texts reads,
and of a serialized form the pairs that were written.
-/

namespace Foundations

namespace Text

/-- An ASCII byte occurs in a character only as that character. -/
theorem byte_ne_of_mem {char separator : Char} (ascii : separator.toNat < 128)
    (different : char ≠ separator) :
    ∀ byte ∈ String.utf8EncodeChar char, byte ≠ UInt8.ofNat separator.toNat := by
  have value : (UInt8.ofNat separator.toNat).toNat = separator.toNat := by
    simpa using Nat.mod_eq_of_lt (by omega : separator.toNat < 256)
  intro byte membership same
  rcases utf8EncodeChar_cases char with ⟨plain, single⟩ |
    ⟨first, continuation, several, -, high, -, later⟩
  · rw [single, List.mem_singleton] at membership
    have sameNat := congrArg UInt8.toNat (membership.symm.trans same)
    rw [value, UInt8.toNat_ofNat', Nat.mod_eq_of_lt (by omega)] at sameNat
    apply different
    rw [← Char.ofNat_toNat char, ← Char.ofNat_toNat separator, sameNat]
  · rw [several, List.mem_cons] at membership
    rw [same] at membership
    rcases membership with rfl | inContinuation
    · omega
    · have bounds := later _ inContinuation
      omega

theorem utf8Chars_eq_nil_iff {chars : List Char} : utf8Chars chars = [] ↔ chars = [] := by
  cases chars with
  | nil => simp
  | cons char rest =>
      rcases utf8EncodeChar_cases char with ⟨-, single⟩ | ⟨first, continuation, several, -⟩
      · simp [single]
      · simp [several]

end Text

/-- What lies before the first separator stays with the first piece. -/
theorem splitOnP_append_of_forall_mem {Item : Type} {separates : Item → Bool} {before : List Item}
    (free : ∀ item ∈ before, separates item = false) (after : List Item) :
    (before ++ after).splitOnP separates =
      (after.splitOnP separates).modifyHead (before ++ ·) := by
  induction before with
  | nil => exact (congrFun List.modifyHead_id _).symm
  | cons item before inductionHypothesis =>
      rw [List.cons_append, List.splitOnP_cons_eq_if_modifyHead,
        free item List.mem_cons_self, inductionHypothesis fun other membership =>
          free other (List.mem_cons_of_mem _ membership)]
      simp [List.modifyHead_modifyHead, Function.comp_def]

/-- Splitting bytes at an ASCII character is splitting the text. -/
theorem splitOnP_utf8Chars {separator : Char} (ascii : separator.toNat < 128)
    (chars : List Char) :
    (Text.utf8Chars chars).splitOnP (· == UInt8.ofNat separator.toNat) =
      (chars.splitOnP (· == separator)).map Text.utf8Chars := by
  induction chars with
  | nil => simp
  | cons char rest inductionHypothesis =>
      rw [Text.utf8Chars_cons, List.splitOnP_cons_eq_if_modifyHead]
      by_cases same : char = separator
      · subst same
        rw [Text.utf8EncodeChar_of_ascii ascii, List.singleton_append,
          List.splitOnP_cons_eq_if_modifyHead]
        simp [inductionHypothesis]
      · rw [splitOnP_append_of_forall_mem fun byte membership => by
          simpa using Text.byte_ne_of_mem ascii same byte membership, inductionHypothesis]
        simp only [beq_eq_false_iff_ne.mpr same, Bool.false_eq_true, if_false]
        cases chars : rest.splitOnP (· == separator) <;> simp

namespace FormUrlEncoded

/-- The parser as it works on bytes, where a piece without `=` has an empty value. -/
def pairsOfBytes (lossy : Text.LossyUtf8) (form : List UInt8) : List (String × String) :=
  let decode (component : List UInt8) : String :=
    lossy.decode (percentDecode (component.map plusToSpace))
  ((form.splitOnP (· == 0x26)).filter (· ≠ [])).map fun piece =>
    (decode (piece.takeWhile (· != 0x3D)), decode ((piece.dropWhile (· != 0x3D)).drop 1))

theorem splitOnceChars_equals (piece : List Char) :
    let bytes := Text.utf8Chars piece
    match Text.splitOnceChars '=' piece with
    | some (name, value) => bytes.takeWhile (· != 0x3D) = Text.utf8Chars name ∧
        (bytes.dropWhile (· != 0x3D)).drop 1 = Text.utf8Chars value
    | none => bytes.takeWhile (· != 0x3D) = bytes ∧ (bytes.dropWhile (· != 0x3D)).drop 1 = [] := by
  induction piece with
  | nil => simp [Text.splitOnceChars]
  | cons char rest inductionHypothesis =>
      by_cases same : char = '='
      · subst same
        simp [Text.splitOnceChars, Text.utf8EncodeChar_of_ascii (by decide : '='.toNat < 128)]
      · have free : ∀ byte ∈ String.utf8EncodeChar char, (byte != 0x3D) = true := by
          intro byte membership
          simpa using Text.byte_ne_of_mem (by decide : '='.toNat < 128) same byte membership
        simp only [Text.splitOnceChars, same, if_false, Text.utf8Chars_cons,
          List.takeWhile_append_of_pos free, List.dropWhile_append_of_pos free]
        cases found : Text.splitOnceChars '=' rest with
        | none =>
            simp only [found] at inductionHypothesis
            simp [inductionHypothesis]
        | some parts =>
            obtain ⟨name, value⟩ := parts
            simp only [found] at inductionHypothesis
            simp [inductionHypothesis]

/-- Both parsers read the same pairs of a text. -/
theorem pairsOfBytes_utf8 (lossy : Text.LossyUtf8) (form : String) :
    pairsOfBytes lossy (Text.utf8 form) = pairs lossy form := by
  have separated := splitOnP_utf8Chars (by decide : '&'.toNat < 128) form.toList
  rw [pairsOfBytes, pairs, Text.utf8_eq_utf8Chars]
  change List.map _ (List.filter _ ((Text.utf8Chars form.toList).splitOnP
    (· == UInt8.ofNat '&'.toNat))) = _
  rw [separated, List.filter_map, List.map_map]
  have kept : (fun bytes : List UInt8 => decide (bytes ≠ [])) ∘ Text.utf8Chars =
      fun piece => decide (piece ≠ []) := by
    funext piece
    simp [Text.utf8Chars_eq_nil_iff]
  rw [kept]
  apply List.map_congr_left
  intro piece _
  have split := splitOnceChars_equals piece
  simp only [Function.comp_apply, decodePair]
  cases found : Text.splitOnceChars '=' piece with
  | none =>
      simp only [found] at split
      simp [split, decodeComponent]
  | some parts =>
      obtain ⟨name, value⟩ := parts
      simp only [found] at split
      simp [split, decodeComponent]

/-- The pairs of a form, each encoded, joined by `&`. -/
def serialize (form : List (String × String)) : String :=
  String.ofList (['&'].intercalate (form.map fun pair => (encodePair pair.1 pair.2).toList))

theorem ampersand_not_mem_encodePair (name value : String) :
    '&' ∉ (encodePair name value).toList := by
  have chars : (encodePair name value).toList =
      (encode name).toList ++ '=' :: (encode value).toList := by simp [encodePair]
  rw [chars, List.mem_append, List.mem_cons, not_or, not_or]
  exact ⟨not_mem_encode (by decide) name, by decide, not_mem_encode (by decide) value⟩

/-- A serialized form is read back as it was. -/
theorem pairs_serialize (lossy : Text.LossyUtf8) (form : List (String × String)) :
    pairs lossy (serialize form) = form := by
  cases form with
  | nil => simp [pairs, serialize, List.intercalate]
  | cons first rest =>
      have free : ∀ piece ∈ (first :: rest).map fun pair => (encodePair pair.1 pair.2).toList,
          '&' ∉ piece := by
        intro piece membership
        obtain ⟨pair, -, rfl⟩ := List.mem_map.mp membership
        exact ampersand_not_mem_encodePair pair.1 pair.2
      have full : ∀ piece ∈ (first :: rest).map fun pair => (encodePair pair.1 pair.2).toList,
          decide (piece ≠ []) = true := by
        intro piece membership
        obtain ⟨pair, -, rfl⟩ := List.mem_map.mp membership
        simp [encodePair]
      have read (pair : String × String) :
          decodePair lossy (encodePair pair.1 pair.2).toList = pair := by
        have chars : (encodePair pair.1 pair.2).toList =
            (encode pair.1).toList ++ '=' :: (encode pair.2).toList := by simp [encodePair]
        rw [chars, decodePair_encode]
      rw [pairs, serialize, String.toList_ofList, ← List.splitOn_eq_splitOnP,
        List.splitOn_intercalate '&' free (by simp), List.filter_eq_self.mpr full, List.map_map]
      exact List.map_id'' read _

end FormUrlEncoded

end Foundations
