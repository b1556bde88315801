import OpenidTlsConnector.Foundations.Slices

/-!
# `application/x-www-form-urlencoded`

The serializer of one name or value: ASCII letters, digits, `*`, `-`, `.` and
`_` stand for themselves, a space becomes `+`, and every other UTF-8 byte
becomes a percent escape.  The parser splits at `&`, drops empty pieces, and
reads each side of the first `=` back.
-/

namespace Foundations

namespace FormUrlEncoded

def isUnreserved (char : Char) : Bool :=
  char.isAlphanum || char == '*' || char == '-' || char == '.' || char == '_'

def hexDigit (digit : Nat) : Char := "0123456789ABCDEF".toList.getD digit '0'

def encodeByte (byte : UInt8) : List Char :=
  let char := Char.ofNat byte.toNat
  if isUnreserved char then [char]
  else if byte = 0x20 then ['+']
  else ['%', hexDigit (byte.toNat / 16), hexDigit (byte.toNat % 16)]

def encode (text : String) : String :=
  String.ofList ((Text.utf8 text).flatMap encodeByte)

/-- What an encoded component is made of. -/
def isEncoded (char : Char) : Bool := isUnreserved char || char == '+' || char == '%'

theorem hexDigit_unreserved {digit : Nat} (small : digit < 16) :
    isUnreserved (hexDigit digit) = true := by
  revert digit
  decide

theorem isEncoded_of_mem_encodeByte (byte : UInt8) :
    ∀ char ∈ encodeByte byte, isEncoded char = true := by
  have small := byte.toNat_lt
  have high : isUnreserved (hexDigit (byte.toNat / 16)) = true := hexDigit_unreserved (by omega)
  have low : isUnreserved (hexDigit (byte.toNat % 16)) = true := hexDigit_unreserved (by omega)
  unfold encodeByte
  intro char membership
  dsimp only at membership
  split_ifs at membership with plain space
  · simp_all [isEncoded]
  · simp_all [isEncoded]
  · simp only [List.mem_cons, List.not_mem_nil, or_false] at membership
    rcases membership with rfl | rfl | rfl
    · decide
    · simp [isEncoded, high]
    · simp [isEncoded, low]

theorem isEncoded_of_mem_encode (text : String) :
    ∀ char ∈ (encode text).toList, isEncoded char = true := by
  intro char membership
  simp only [encode, String.toList_ofList, List.mem_flatMap] at membership
  obtain ⟨byte, -, inByte⟩ := membership
  exact isEncoded_of_mem_encodeByte byte char inByte

theorem not_mem_encode {separator : Char} (reserved : isEncoded separator = false)
    (text : String) : separator ∉ (encode text).toList := by
  intro membership
  have encoded := isEncoded_of_mem_encode text separator membership
  rw [reserved] at encoded
  cases encoded

theorem colon_not_mem_encode (text : String) : ':' ∉ (encode text).toList :=
  not_mem_encode (by decide) text

theorem ascii_of_isAlphanum {char : Char} (alphanumeric : char.isAlphanum = true) :
    char.toNat < 128 := by
  have bounds : ((decide (char.val ≥ 'A'.val ∧ char.val ≤ 'Z'.val) ||
      (char.val ≥ 'a'.val && char.val ≤ 'z'.val)) ||
      (char.val ≥ '0'.val && char.val ≤ '9'.val)) = true := alphanumeric
  simp only [Bool.or_eq_true, Bool.and_eq_true, decide_eq_true_eq, UInt32.le_iff_toNat_le,
    ge_iff_le] at bounds
  have upper : 'Z'.val.toNat = 90 := rfl
  have lower : 'z'.val.toNat = 122 := rfl
  have digit : '9'.val.toNat = 57 := rfl
  change char.val.toNat < 128
  omega

theorem ascii_of_isEncoded {char : Char} (encoded : isEncoded char = true) :
    char.toNat < 128 := by
  simp only [isEncoded, isUnreserved, Bool.or_eq_true, beq_iff_eq] at encoded
  rcases encoded with (((((alphanumeric | rfl) | rfl) | rfl) | rfl) | rfl) | rfl
  · exact ascii_of_isAlphanum alphanumeric
  all_goals decide

theorem printable_encode (text : String) : Text.Printable (encode text) := by
  intro char membership
  have encoded := isEncoded_of_mem_encode text char membership
  have graphic : isEncoded char = true → Text.isGraphic char = true :=
    Text.forall_ascii (motive := fun char => isEncoded char = true → Text.isGraphic char = true)
      (by decide) (ascii_of_isEncoded encoded)
  exact Or.inr (graphic encoded)

/-- One escape makes the encoded text longer than the bytes it stands for. -/
theorem flatMap_encodeByte_length (bytes : List UInt8) :
    bytes.length ≤ (bytes.flatMap encodeByte).length ∧
      ((bytes.flatMap encodeByte).length ≤ bytes.length →
        ∀ byte ∈ bytes, isUnreserved (Char.ofNat byte.toNat) = true ∨ byte = 0x20) := by
  induction bytes with
  | nil => simp
  | cons byte rest inductionHypothesis =>
      simp only [List.flatMap_cons, List.length_append, List.length_cons]
      have single : (encodeByte byte).length = 3 ∨ (encodeByte byte).length = 1 ∧
          (isUnreserved (Char.ofNat byte.toNat) = true ∨ byte = 0x20) := by
        unfold encodeByte
        dsimp only
        split_ifs with plain space <;> simp_all
      constructor
      · omega
      · intro short other membership
        rcases List.mem_cons.mp membership with rfl | inRest
        · rcases single with long | ⟨-, plain⟩
          · omega
          · exact plain
        · exact inductionHypothesis.2 (by omega) other inRest

theorem toNat_ofNat_of_ascii {char : Char} (ascii : char.toNat < 128) :
    Char.ofNat (UInt8.ofNat char.toNat).toNat = char := by
  have byte : (UInt8.ofNat char.toNat).toNat = char.toNat := by
    simpa using Nat.mod_eq_of_lt (by omega : char.toNat < 256)
  rw [byte, Char.ofNat_toNat]

/-- Encoding leaves a text alone exactly when it has nothing to escape. -/
theorem encode_eq_self_iff (text : String) :
    encode text = text ↔ ∀ char ∈ text.toList, isUnreserved char = true := by
  constructor
  · intro unchanged
    have encoded : ∀ char ∈ text.toList, isEncoded char = true := by
      have all := isEncoded_of_mem_encode text
      rwa [unchanged] at all
    have bytes := Text.utf8_of_ascii fun char membership => ascii_of_isEncoded (encoded char membership)
    have sameLength : ((Text.utf8 text).flatMap encodeByte).length = (Text.utf8 text).length := by
      have chars := congrArg (fun changed : String => changed.toList.length) unchanged
      simpa [encode, bytes] using chars
    intro char membership
    have inBytes : UInt8.ofNat char.toNat ∈ Text.utf8 text := by
      rw [bytes]
      exact List.mem_map_of_mem membership
    have ascii := ascii_of_isEncoded (encoded char membership)
    rcases (flatMap_encodeByte_length _).2 (Nat.le_of_eq sameLength) _ inBytes with plain | space
    · rwa [toNat_ofNat_of_ascii ascii] at plain
    · -- a space never survives encoding, so it cannot occur in an unchanged text
      have isSpace : char = ' ' := by
        rw [← toNat_ofNat_of_ascii ascii, space]
        decide
      have impossible := encoded char membership
      rw [isSpace] at impossible
      exact absurd impossible (by decide)
  · intro unreserved
    have encoded : ∀ char ∈ text.toList, isEncoded char = true :=
      fun char membership => by simp [isEncoded, unreserved char membership]
    have bytes := Text.utf8_of_ascii fun char membership => ascii_of_isEncoded (encoded char membership)
    have chars : (Text.utf8 text).flatMap encodeByte = text.toList := by
      rw [bytes, List.flatMap_map]
      have each : ∀ char ∈ text.toList,
          encodeByte (UInt8.ofNat char.toNat) = [char] := by
        intro char membership
        have same := toNat_ofNat_of_ascii (ascii_of_isEncoded (encoded char membership))
        simp only [encodeByte, same, unreserved char membership, if_true]
      rw [List.flatMap_congr each]
      simp
    rw [encode, chars, String.ofList_toList]

/-! ## Reading pairs back -/

def plusToSpace (byte : UInt8) : UInt8 := if byte = 0x2B then 0x20 else byte

def hexValue? (byte : UInt8) : Option Nat :=
  if 0x30 ≤ byte ∧ byte ≤ 0x39 then some (byte.toNat - 0x30)
  else if 0x41 ≤ byte ∧ byte ≤ 0x46 then some (byte.toNat - 0x41 + 10)
  else if 0x61 ≤ byte ∧ byte ≤ 0x66 then some (byte.toNat - 0x61 + 10)
  else none

/-- A percent sign that two hexadecimal digits do not follow stands for itself. -/
def percentDecode : List UInt8 → List UInt8
  | [] => []
  | byte :: rest =>
      if byte = 0x25 then
        match rest with
        | high :: low :: rest =>
            match hexValue? high, hexValue? low with
            | some high, some low => .ofNat (high * 16 + low) :: percentDecode rest
            | _, _ => byte :: percentDecode (high :: low :: rest)
        | rest => byte :: percentDecode rest
      else byte :: percentDecode rest

def decodeComponent (lossy : Text.LossyUtf8) (component : List Char) : String :=
  lossy.decode (percentDecode ((Text.utf8Chars component).map plusToSpace))

def decodePair (lossy : Text.LossyUtf8) (piece : List Char) : String × String :=
  match Text.splitOnceChars '=' piece with
  | some (name, value) => (decodeComponent lossy name, decodeComponent lossy value)
  | none => (decodeComponent lossy piece, decodeComponent lossy [])

/-- The name-value pairs of a query. -/
def pairs (lossy : Text.LossyUtf8) (query : String) : List (String × String) :=
  ((query.toList.splitOnP (· == '&')).filter (· ≠ [])).map (decodePair lossy)

theorem percentDecode_plain {byte : UInt8} (plain : byte ≠ 0x25) (rest : List UInt8) :
    percentDecode (byte :: rest) = byte :: percentDecode rest := by
  rw [percentDecode.eq_def]
  simp only [plain, if_false]

theorem percentDecode_escape {high low : UInt8} {highValue lowValue : Nat}
    (highDigit : hexValue? high = some highValue) (lowDigit : hexValue? low = some lowValue)
    (rest : List UInt8) :
    percentDecode (0x25 :: high :: low :: rest) =
      .ofNat (highValue * 16 + lowValue) :: percentDecode rest := by
  rw [percentDecode.eq_def]
  simp only [if_true, highDigit, lowDigit]

/-- The byte an escape digit becomes, and the value it is read back with. -/
theorem hexValue?_hexDigit {digit : Nat} (small : digit < 16) :
    (Text.utf8Chars [hexDigit digit]).map plusToSpace = [UInt8.ofNat (hexDigit digit).toNat] ∧
      hexValue? (UInt8.ofNat (hexDigit digit).toNat) = some digit := by
  revert digit
  decide

theorem ofNat_toNat_ofNat (byte : UInt8) : UInt8.ofNat (Char.ofNat byte.toNat).toNat = byte := by
  have small := byte.toNat_lt
  have valid : byte.toNat.isValidChar := Or.inl (by omega)
  rw [Char.ofNat, dif_pos valid]
  change UInt8.ofNat (UInt32.ofNatLT byte.toNat _).toNat = byte
  rw [UInt32.toNat_ofNatLT, UInt8.ofNat_toNat]

/-- A percent sign and a plus sign are always escaped. -/
theorem ne_of_isUnreserved {byte : UInt8}
    (plain : isUnreserved (Char.ofNat byte.toNat) = true) : byte ≠ 0x25 ∧ byte ≠ 0x2B := by
  constructor
  · rintro rfl
    exact absurd plain (by decide)
  · rintro rfl
    exact absurd plain (by decide)

theorem percentDecode_encodeByte (byte : UInt8) (rest : List UInt8) :
    percentDecode ((Text.utf8Chars (encodeByte byte)).map plusToSpace ++ rest) =
      byte :: percentDecode rest := by
  have small := byte.toNat_lt
  unfold encodeByte
  dsimp only
  split_ifs with plain space
  · obtain ⟨noPercent, noPlus⟩ := ne_of_isUnreserved plain
    have ascii : (Char.ofNat byte.toNat).toNat < 128 :=
      ascii_of_isEncoded (by simp [isEncoded, plain])
    rw [Text.utf8Chars_cons, Text.utf8EncodeChar_of_ascii ascii, ofNat_toNat_ofNat]
    simp [plusToSpace, noPlus, percentDecode_plain noPercent]
  · subst space
    exact percentDecode_plain (by decide) rest
  · obtain ⟨highByte, highValue⟩ := hexValue?_hexDigit (by omega : byte.toNat / 16 < 16)
    obtain ⟨lowByte, lowValue⟩ := hexValue?_hexDigit (by omega : byte.toNat % 16 < 16)
    have bytes : (Text.utf8Chars ['%', hexDigit (byte.toNat / 16),
        hexDigit (byte.toNat % 16)]).map plusToSpace =
          [0x25, UInt8.ofNat (hexDigit (byte.toNat / 16)).toNat,
            UInt8.ofNat (hexDigit (byte.toNat % 16)).toNat] := by
      rw [← List.singleton_append, ← List.singleton_append (l := [_]), Text.utf8Chars_append,
        Text.utf8Chars_append, List.map_append, List.map_append, highByte, lowByte]
      rfl
    rw [bytes]
    refine (percentDecode_escape highValue lowValue rest).trans ?_
    rw [Nat.div_add_mod', UInt8.ofNat_toNat]

theorem percentDecode_encode (bytes rest : List UInt8) :
    percentDecode ((Text.utf8Chars (bytes.flatMap encodeByte)).map plusToSpace ++ rest) =
      bytes ++ percentDecode rest := by
  induction bytes with
  | nil => simp
  | cons byte bytes inductionHypothesis =>
      rw [List.flatMap_cons, Text.utf8Chars_append, List.map_append, List.append_assoc,
        percentDecode_encodeByte, inductionHypothesis, List.cons_append]

/-- An encoded component is read back as it was. -/
theorem decodeComponent_encode (lossy : Text.LossyUtf8) (text : String) :
    decodeComponent lossy (encode text).toList = text := by
  have decoded := percentDecode_encode (Text.utf8 text) []
  rw [List.append_nil, percentDecode, List.append_nil] at decoded
  rw [decodeComponent, encode, String.toList_ofList, decoded, lossy.decode_utf8]

theorem decodePair_encode (lossy : Text.LossyUtf8) (name value : String) :
    decodePair lossy ((encode name).toList ++ '=' :: (encode value).toList) = (name, value) := by
  have split := Text.splitOnceChars_append (not_mem_encode (by decide : isEncoded '=' = false) name)
    (encode value).toList
  simp only [decodePair, split, decodeComponent_encode]

/-- One encoded pair. -/
def encodePair (name value : String) : String := encode name ++ "=" ++ encode value

theorem pairs_encodePair (lossy : Text.LossyUtf8) (name value : String) :
    pairs lossy (encodePair name value) = [(name, value)] := by
  have chars : (encodePair name value).toList =
      (encode name).toList ++ '=' :: (encode value).toList := by simp [encodePair]
  have whole : ∀ char ∈ (encodePair name value).toList, (char == '&') = false := by
    intro char membership
    rw [beq_eq_false_iff_ne]
    rintro rfl
    rw [chars, List.mem_append, List.mem_cons] at membership
    rcases membership with inName | same | inValue
    · exact not_mem_encode (by decide) name inName
    · exact absurd same (by decide)
    · exact not_mem_encode (by decide) value inValue
  rw [pairs, List.splitOnP_eq_singleton whole, chars]
  simp [decodePair_encode]

/-- A pair appended after a separator is read last, and changes nothing before it. -/
theorem pairs_append (lossy : Text.LossyUtf8) (query name value : String) :
    pairs lossy (query ++ "&" ++ encodePair name value) = pairs lossy query ++ [(name, value)] := by
  have single := pairs_encodePair lossy name value
  have chars : (query ++ "&" ++ encodePair name value).toList =
      query.toList ++ '&' :: (encodePair name value).toList := by simp
  simp only [pairs] at single ⊢
  rw [chars, List.splitOnP_append_cons _ _ (by simp), List.filter_append, List.map_append, single]

end FormUrlEncoded

end Foundations
