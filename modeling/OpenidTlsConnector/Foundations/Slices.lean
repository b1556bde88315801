import OpenidTlsConnector.Foundations.Text

/-!
# Slices by byte offset

Which byte offsets of a string are character boundaries, and what the slice
between two of them is.  An offset is a boundary exactly when it is the length
of a prefix.
-/

namespace Foundations.Text

/-- The bytes of a list of characters. -/
def utf8Chars (chars : List Char) : List UInt8 := chars.flatMap String.utf8EncodeChar

@[simp]
theorem utf8Chars_nil : utf8Chars [] = [] := rfl

@[simp]
theorem utf8Chars_cons (char : Char) (rest : List Char) :
    utf8Chars (char :: rest) = String.utf8EncodeChar char ++ utf8Chars rest := by
  simp [utf8Chars]

@[simp]
theorem utf8Chars_append (before after : List Char) :
    utf8Chars (before ++ after) = utf8Chars before ++ utf8Chars after := by
  simp [utf8Chars]

theorem utf8_eq_utf8Chars (text : String) : utf8 text = utf8Chars text.toList :=
  utf8_eq_flatMap text

@[simp]
theorem fromUtf8_utf8Chars (chars : List Char) :
    fromUtf8 (utf8Chars chars) = some (String.ofList chars) := by
  simpa [utf8_eq_utf8Chars] using fromUtf8_utf8 (String.ofList chars)

/-- A byte that starts a character, by Rust's test. -/
def isFirstByte (byte : UInt8) : Bool := byte < 0x80 || 0xC0 ≤ byte

/-- A character is one first byte and then continuation bytes.  Only the
characters outside ASCII use bytes from `0x80` on. -/
theorem utf8EncodeChar_cases (char : Char) :
    (char.toNat < 128 ∧ String.utf8EncodeChar char = [UInt8.ofNat char.toNat]) ∨
      ∃ first continuation, String.utf8EncodeChar char = first :: continuation ∧
        128 ≤ char.toNat ∧ 0xC0 ≤ first.toNat ∧ continuation ≠ [] ∧
        ∀ byte ∈ continuation, 0x80 ≤ byte.toNat ∧ byte.toNat < 0xC0 := by
  have asByte : ∀ n, n < 256 → (UInt8.ofNat n).toNat = n := fun n small => by
    simpa using Nat.mod_eq_of_lt small
  have continues : ∀ n, 0x80 ≤ (UInt8.ofNat (n % 0x40 + 0x80)).toNat ∧
      (UInt8.ofNat (n % 0x40 + 0x80)).toNat < 0xC0 := fun n => by
    rw [asByte _ (by omega)]
    omega
  by_cases ascii : char.toNat < 128
  · exact Or.inl ⟨ascii, utf8EncodeChar_of_ascii ascii⟩
  · apply Or.inr
    have notOne : ¬ char.val.toNat ≤ 0x7F := fun small => ascii (Nat.lt_succ_of_le small)
    simp only [String.utf8EncodeChar, notOne, if_false]
    -- two, three or four bytes
    split_ifs with two three
    all_goals
      refine ⟨_, _, rfl, by omega, ?_, by simp, ?_⟩
      · rw [asByte _ (by omega)]
        omega
      · simp only [List.mem_cons, List.not_mem_nil, or_false, forall_eq_or_imp, forall_eq,
          continues, and_self]

theorem isFirstByte_iff (byte : UInt8) :
    isFirstByte byte = true ↔ byte.toNat < 0x80 ∨ 0xC0 ≤ byte.toNat := by
  simp [isFirstByte, UInt8.lt_iff_toNat_lt, UInt8.le_iff_toNat_le]

/-- An offset inside the bytes is a boundary if a character starts there. -/
theorem isCharBoundary_iff_of_lt {bytes : List UInt8} {index : Nat} (inside : index < bytes.length)
    (positive : index ≠ 0) :
    isCharBoundary bytes index = true ↔ isFirstByte bytes[index] = true := by
  have notEnd : index ≠ bytes.length := Nat.ne_of_lt inside
  simp [isCharBoundary, isFirstByte, positive, notEnd, inside]

/-- The bytes of a string begin with the first byte of a character. -/
theorem isFirstByte_head {chars : List Char} {first : UInt8} {rest : List UInt8}
    (bytes : utf8Chars chars = first :: rest) : isFirstByte first = true := by
  cases chars with
  | nil => simp at bytes
  | cons char chars =>
      rw [utf8Chars_cons] at bytes
      rcases utf8EncodeChar_cases char with ⟨ascii, single⟩ | ⟨lead, _, several, -, high, -, -⟩
      · rw [single] at bytes
        obtain ⟨rfl, -⟩ := List.cons.inj bytes
        rw [isFirstByte_iff, UInt8.toNat_ofNat', Nat.mod_eq_of_lt (by omega)]
        exact Or.inl ascii
      · rw [several] at bytes
        obtain ⟨rfl, -⟩ := List.cons.inj bytes
        exact (isFirstByte_iff _).mpr (Or.inr high)

theorem isCharBoundary_append (before after : List Char) :
    isCharBoundary (utf8Chars before ++ utf8Chars after) (utf8Chars before).length = true := by
  cases bytes : utf8Chars after with
  | nil => simp [isCharBoundary]
  | cons first rest =>
      have starts := isFirstByte_head bytes
      simp only [isFirstByte] at starts
      simp [isCharBoundary, starts]

/-- No offset inside a character is a boundary. -/
theorem isCharBoundary_inside (char : Char) (rest : List Char) {index : Nat}
    (positive : index ≠ 0) (inside : index < (String.utf8EncodeChar char).length) :
    isCharBoundary (utf8Chars (char :: rest)) index = false := by
  have bounded : index < (utf8Chars (char :: rest)).length := by
    rw [utf8Chars_cons, List.length_append]
    omega
  rcases utf8EncodeChar_cases char with ⟨-, single⟩ | ⟨first, continuation, several, -, -, -, later⟩
  · rw [single] at inside
    simp only [List.length_singleton] at inside
    omega
  · rw [Bool.eq_false_iff, ne_eq, isCharBoundary_iff_of_lt bounded positive, isFirstByte_iff]
    obtain ⟨offset, rfl⟩ := Nat.exists_eq_succ_of_ne_zero positive
    have bound : offset < continuation.length := by simpa [several] using inside
    have range := later continuation[offset] (List.getElem_mem bound)
    simp only [utf8Chars_cons, several, List.cons_append, List.getElem_cons_succ,
      List.getElem_append_left bound]
    omega

/-- Past a character, the boundaries are those of what follows. -/
theorem isCharBoundary_past (char : Char) (rest : List Char) (index : Nat)
    (boundary : isCharBoundary (utf8Chars (char :: rest))
      ((String.utf8EncodeChar char).length + index) = true) :
    isCharBoundary (utf8Chars rest) index = true := by
  have nonempty : (String.utf8EncodeChar char).length ≠ 0 := by
    rw [String.length_utf8EncodeChar]
    exact Nat.ne_of_gt char.utf8Size_pos
  simp only [isCharBoundary, utf8Chars_cons, List.length_append, Bool.or_eq_true, beq_iff_eq,
    Nat.add_eq_zero_iff, nonempty, false_and, false_or, Nat.add_left_cancel_iff,
    List.getElem?_append_right (Nat.le_add_right _ _), Nat.add_sub_cancel_left] at boundary ⊢
  rcases boundary with atEnd | starts
  · exact Or.inl (Or.inr atEnd)
  · exact Or.inr starts

/-- Every boundary is where some prefix ends. -/
theorem exists_prefix_of_isCharBoundary {chars : List Char} {index : Nat}
    (inside : index ≤ (utf8Chars chars).length)
    (boundary : isCharBoundary (utf8Chars chars) index = true) :
    ∃ before after, chars = before ++ after ∧ (utf8Chars before).length = index := by
  induction chars generalizing index with
  | nil => exact ⟨[], [], rfl, (Nat.le_zero.mp inside).symm⟩
  | cons char rest inductionHypothesis =>
      by_cases start : index = 0
      · exact ⟨[], char :: rest, rfl, start.symm⟩
      · by_cases within : index < (String.utf8EncodeChar char).length
        · rw [isCharBoundary_inside char rest start within] at boundary
          cases boundary
        · obtain ⟨offset, rfl⟩ := Nat.exists_eq_add_of_le (Nat.le_of_not_lt within)
          have remaining : offset ≤ (utf8Chars rest).length := by
            simpa [utf8Chars_cons] using inside
          obtain ⟨before, after, rfl, length⟩ := inductionHypothesis remaining
            (isCharBoundary_past char rest offset boundary)
          exact ⟨char :: before, after, rfl, by simp [utf8Chars_cons, length]⟩

theorem utf8Chars_injective : Function.Injective utf8Chars := by
  intro first second same
  have decoded := congrArg fromUtf8 same
  rw [fromUtf8_utf8Chars, fromUtf8_utf8Chars, Option.some.injEq, String.ofList_inj] at decoded
  exact decoded

/-- Prefixes of one string that have as many bytes are the same prefix. -/
theorem prefix_unique {before after before' after' : List Char}
    (same : before ++ after = before' ++ after')
    (lengths : (utf8Chars before).length = (utf8Chars before').length) :
    before = before' ∧ after = after' := by
  have bytes : utf8Chars before ++ utf8Chars after = utf8Chars before' ++ utf8Chars after' := by
    simpa using congrArg utf8Chars same
  obtain ⟨prefixes, suffixes⟩ := List.append_inj bytes lengths
  exact ⟨utf8Chars_injective prefixes, utf8Chars_injective suffixes⟩

/-- A prefix with fewer bytes is a prefix of the other one. -/
theorem prefix_of_length_le {before after before' after' : List Char}
    (same : before ++ after = before' ++ after')
    (lengths : (utf8Chars before).length ≤ (utf8Chars before').length) :
    ∃ piece, before' = before ++ piece := by
  rcases List.append_eq_append_iff.mp same with ⟨piece, longer, -⟩ | ⟨piece, shorter, rest⟩
  · exact ⟨piece, longer⟩
  · have equal : (utf8Chars before).length = (utf8Chars before').length := by
      apply Nat.le_antisymm lengths
      rw [shorter, utf8Chars_append, List.length_append]
      exact Nat.le_add_right _ _
    obtain ⟨rfl, -⟩ := prefix_unique same equal
    exact ⟨[], by simp⟩

theorem le_length_of_isCharBoundary {bytes : List UInt8} {index : Nat}
    (boundary : isCharBoundary bytes index = true) : index ≤ bytes.length := by
  by_contra outside
  have absent : bytes[index]? = none := List.getElem?_eq_none (by omega)
  have notStart : index ≠ 0 := by omega
  have notEnd : index ≠ bytes.length := by omega
  simp [isCharBoundary, absent, notStart, notEnd] at boundary

/-- What the bytes between a prefix and a longer prefix spell. -/
theorem drop_take_utf8Chars (before piece after : List Char) :
    ((utf8Chars (before ++ piece ++ after)).take (utf8Chars (before ++ piece)).length).drop
      (utf8Chars before).length = utf8Chars piece := by
  rw [utf8Chars_append _ after, List.take_left, utf8Chars_append, List.drop_left]

/-- Offsets in order and in range, neither of which splits a character. -/
structure Sliceable (text : String) (start stop : Nat) : Prop where
  ordered : start ≤ stop
  inside : stop ≤ (utf8 text).length
  starts : isCharBoundary (utf8 text) start = true
  stops : isCharBoundary (utf8 text) stop = true

theorem sliceable_of_slice {text : String} {start stop : Nat} {piece : String}
    (sliced : slice text start stop = some piece) : Sliceable text start stop := by
  unfold slice at sliced
  dsimp only at sliced
  split_ifs at sliced with boundaries
  simp only [Bool.and_eq_true, decide_eq_true_eq] at boundaries
  obtain ⟨⟨ordered, starts⟩, stops⟩ := boundaries
  exact ⟨ordered, le_length_of_isCharBoundary stops, starts, stops⟩

/-- What such offsets cut off before and behind. -/
theorem Sliceable.exists_parts {text : String} {start stop : Nat}
    (sliceable : Sliceable text start stop) :
    ∃ before chars after, text.toList = before ++ chars ++ after ∧
      (utf8Chars before).length = start ∧ (utf8Chars (before ++ chars)).length = stop := by
  obtain ⟨ordered, inside, starts, stops⟩ := sliceable
  rw [utf8_eq_utf8Chars] at inside starts stops
  obtain ⟨before, rest, whole, rfl⟩ :=
    exists_prefix_of_isCharBoundary (Nat.le_trans ordered inside) starts
  obtain ⟨longer, after, whole', rfl⟩ := exists_prefix_of_isCharBoundary inside stops
  obtain ⟨chars, rfl⟩ := prefix_of_length_le (whole.symm.trans whole') ordered
  exact ⟨before, chars, after, whole', rfl, rfl⟩

theorem slice_of_parts {text : String} {before piece after : List Char}
    (whole : text.toList = before ++ piece ++ after) :
    slice text (utf8Chars before).length (utf8Chars (before ++ piece)).length =
      some (String.ofList piece) := by
  have starts := isCharBoundary_append before (piece ++ after)
  have stops := isCharBoundary_append (before ++ piece) after
  rw [← utf8Chars_append, ← List.append_assoc] at starts
  rw [← utf8Chars_append] at stops
  rw [slice, utf8_eq_utf8Chars, whole, starts, stops, drop_take_utf8Chars, fromUtf8_utf8Chars]
  simp

/-- A slice is what stands between a prefix and a suffix. -/
theorem slice_eq_some_iff {text : String} {start stop : Nat} {piece : String} :
    slice text start stop = some piece ↔
      ∃ before after, text.toList = before ++ piece.toList ++ after ∧
        (utf8Chars before).length = start ∧
        (utf8Chars (before ++ piece.toList)).length = stop := by
  constructor
  · intro sliced
    obtain ⟨before, chars, after, whole, rfl, rfl⟩ := (sliceable_of_slice sliced).exists_parts
    rw [slice_of_parts whole, Option.some.injEq] at sliced
    rw [← sliced, String.toList_ofList]
    exact ⟨before, after, whole, rfl, rfl⟩
  · rintro ⟨before, after, whole, rfl, rfl⟩
    rw [slice_of_parts whole, String.ofList_toList]

/-- Every pair of such offsets has a slice between them. -/
theorem exists_slice_iff {text : String} {start stop : Nat} :
    (∃ piece, slice text start stop = some piece) ↔ Sliceable text start stop := by
  constructor
  · rintro ⟨piece, sliced⟩
    exact sliceable_of_slice sliced
  · intro sliceable
    obtain ⟨before, chars, after, whole, rfl, rfl⟩ := sliceable.exists_parts
    exact ⟨String.ofList chars, slice_of_parts whole⟩

/-- A slice has as many bytes as its offsets are apart. -/
theorem length_of_slice {text : String} {start stop : Nat} {piece : String}
    (sliced : slice text start stop = some piece) : start + (utf8 piece).length = stop := by
  obtain ⟨before, after, -, rfl, rfl⟩ := slice_eq_some_iff.mp sliced
  rw [utf8Chars_append, List.length_append, utf8_eq_utf8Chars]

/-- Past a prefix, a slice begins what remains. -/
theorem slice_past_iff {text : String} {before rest : List Char} {length : Nat} {piece : String}
    (whole : text.toList = before ++ rest) :
    slice text (utf8Chars before).length ((utf8Chars before).length + length) = some piece ↔
      ∃ after, rest = piece.toList ++ after ∧ (utf8Chars piece.toList).length = length := by
  rw [slice_eq_some_iff, whole]
  simp only [List.append_assoc, utf8Chars_append, List.length_append]
  constructor
  · rintro ⟨before', after, parts, start, stop⟩
    obtain ⟨rfl, rfl⟩ := prefix_unique parts start.symm
    exact ⟨after, rfl, Nat.add_left_cancel stop⟩
  · rintro ⟨after, rfl, rfl⟩
    exact ⟨before, after, rfl, rfl, rfl⟩

theorem length_utf8EncodeChar_eq_one_iff (char : Char) :
    (String.utf8EncodeChar char).length = 1 ↔ char.toNat < 128 := by
  rw [String.length_utf8EncodeChar, Char.utf8Size_eq_one_iff, Nat.lt_succ_iff]
  exact UInt32.le_iff_toNat_le

/-- Two bytes are two ASCII characters or one that is not. -/
theorem length_utf8Chars_eq_two_iff (chars : List Char) :
    (utf8Chars chars).length = 2 ↔
      (∃ first second, chars = [first, second] ∧ first.toNat < 128 ∧ second.toNat < 128) ∨
        ∃ wide, chars = [wide] ∧ wide.utf8Size = 2 := by
  have positive := fun char : Char => char.utf8Size_pos
  constructor
  · intro two
    rcases chars with _ | ⟨first, _ | ⟨second, _ | ⟨third, others⟩⟩⟩
    · cases two
    · exact Or.inr ⟨first, rfl, by simpa using two⟩
    · have firstPositive := positive first
      have secondPositive := positive second
      simp only [utf8Chars_cons, utf8Chars_nil, List.append_nil, List.length_append,
        String.length_utf8EncodeChar] at two
      refine Or.inl ⟨first, second, rfl, ?_, ?_⟩
      all_goals
        rw [← length_utf8EncodeChar_eq_one_iff, String.length_utf8EncodeChar]
        omega
    · have firstPositive := positive first
      have secondPositive := positive second
      have thirdPositive := positive third
      simp only [utf8Chars_cons, List.length_append, String.length_utf8EncodeChar] at two
      omega
  · rintro (⟨first, second, rfl, firstAscii, secondAscii⟩ | ⟨wide, rfl, two⟩)
    · rw [← length_utf8EncodeChar_eq_one_iff] at firstAscii secondAscii
      simp [-String.length_utf8EncodeChar, firstAscii, secondAscii]
    · simp [two]

end Foundations.Text
