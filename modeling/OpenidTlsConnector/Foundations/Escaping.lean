import Mathlib.Data.List.Basic

/-!
# Backslash escapes

A backslash protects the character after it.  Fields without unprotected
separators can be joined by the separator and split again, and what a text
with escapes stands for is read back by dropping the backslashes.
-/

namespace Foundations.Escaping

universe u

/-! ## Splitting -/

/-- Split at the separators that no backslash protects. -/
def splitUnescaped (separator : Char) : List Char → List (List Char)
  | [] => [[]]
  | char :: rest =>
      if char = '\\' then
        match rest with
        | protected' :: rest =>
            (splitUnescaped separator rest).modifyHead fun field => char :: protected' :: field
        | [] => [[char]]
      else if char = separator then [] :: splitUnescaped separator rest
      else (splitUnescaped separator rest).modifyHead (char :: ·)

theorem splitUnescaped_plain {separator char : Char} (noEscape : char ≠ '\\')
    (noSeparator : char ≠ separator) (rest : List Char) :
    splitUnescaped separator (char :: rest) =
      (splitUnescaped separator rest).modifyHead (char :: ·) := by
  rw [splitUnescaped.eq_def]
  simp only [noEscape, noSeparator, if_false]

theorem splitUnescaped_escape (separator char : Char) (rest : List Char) :
    splitUnescaped separator ('\\' :: char :: rest) =
      (splitUnescaped separator rest).modifyHead ('\\' :: char :: ·) := by
  rw [splitUnescaped.eq_def]
  simp only [if_true]

theorem splitUnescaped_separator {separator : Char} (different : separator ≠ '\\')
    (rest : List Char) :
    splitUnescaped separator (separator :: rest) = [] :: splitUnescaped separator rest := by
  rw [splitUnescaped.eq_def]
  simp only [different, if_false, if_true]

/-- Text in which every backslash protects a character and no separator stands
unprotected. -/
inductive Field (separator : Char) : List Char → Prop
  | nil : Field separator []
  | plain {char rest} : char ≠ '\\' → char ≠ separator → Field separator rest →
      Field separator (char :: rest)
  | escaped {char rest} : Field separator rest → Field separator ('\\' :: char :: rest)

namespace Field

variable {separator : Char} {field : List Char}

theorem of_plain {chars : List Char} (plain : ∀ char ∈ chars, char ≠ '\\' ∧ char ≠ separator) :
    Field separator chars := by
  induction chars with
  | nil => exact .nil
  | cons char rest inductionHypothesis =>
      obtain ⟨noEscape, noSeparator⟩ := plain char List.mem_cons_self
      apply Field.plain noEscape noSeparator
      apply inductionHypothesis
      intro other membership
      exact plain other (List.mem_cons_of_mem _ membership)

theorem append {other : List Char} (isField : Field separator field)
    (otherField : Field separator other) : Field separator (field ++ other) := by
  induction isField with
  | nil => exact otherField
  | plain noEscape noSeparator _ inductionHypothesis =>
      exact .plain noEscape noSeparator inductionHypothesis
  | escaped _ inductionHypothesis => exact .escaped inductionHypothesis

/-- A field goes to the front of whatever is split after it. -/
theorem splitUnescaped_append (isField : Field separator field) (rest : List Char) :
    splitUnescaped separator (field ++ rest) =
      (splitUnescaped separator rest).modifyHead (field ++ ·) := by
  induction isField with
  | nil => cases split : splitUnescaped separator rest <;> simp [split]
  | @plain char field noEscape noSeparator _ inductionHypothesis =>
      rw [List.cons_append, splitUnescaped_plain noEscape noSeparator, inductionHypothesis]
      simp [Function.comp_def]
  | @escaped char field _ inductionHypothesis =>
      rw [List.cons_append, List.cons_append, splitUnescaped_escape, inductionHypothesis]
      simp [Function.comp_def]

theorem splitUnescaped_self (isField : Field separator field) :
    splitUnescaped separator field = [field] := by
  have split := isField.splitUnescaped_append []
  simpa [splitUnescaped] using split

theorem splitUnescaped_cons (isField : Field separator field) (different : separator ≠ '\\')
    (rest : List Char) :
    splitUnescaped separator (field ++ separator :: rest) =
      field :: splitUnescaped separator rest := by
  rw [isField.splitUnescaped_append, splitUnescaped_separator different]
  simp

end Field

/-- Joining fields and splitting again loses nothing. -/
theorem splitUnescaped_intercalate {separator : Char} (different : separator ≠ '\\')
    {fields : List (List Char)} (nonempty : fields ≠ [])
    (areFields : ∀ field ∈ fields, Field separator field) :
    splitUnescaped separator (List.intercalate [separator] fields) = fields := by
  induction fields with
  | nil => exact absurd rfl nonempty
  | cons field rest inductionHypothesis =>
      have isField := areFields field List.mem_cons_self
      cases rest with
      | nil => simpa using isField.splitUnescaped_self
      | cons second others =>
          have tailFields : ∀ other ∈ second :: others, Field separator other :=
            fun other membership => areFields other (List.mem_cons_of_mem _ membership)
          have joined : List.intercalate [separator] (field :: second :: others) =
              field ++ separator :: List.intercalate [separator] (second :: others) := by
            simp [List.intercalate]
          rw [joined, isField.splitUnescaped_cons different,
            inductionHypothesis (by simp) tailFields]

/-! ## Joining what was split -/

theorem splitUnescaped_ne_nil (separator : Char) (chars : List Char) :
    splitUnescaped separator chars ≠ [] := by
  induction chars using splitUnescaped.induct separator with
  | case1 => simp [splitUnescaped]
  | case2 char rest inductionHypothesis =>
      rw [splitUnescaped_escape]
      exact mt List.modifyHead_eq_nil_iff.mp inductionHypothesis
  | case3 => simp [splitUnescaped]
  | case4 rest different _ => simp [splitUnescaped_separator different]
  | case5 char rest noEscape noSeparator inductionHypothesis =>
      rw [splitUnescaped_plain noEscape noSeparator]
      exact mt List.modifyHead_eq_nil_iff.mp inductionHypothesis

theorem intercalate_modifyHead (separator start : List Char) {parts : List (List Char)}
    (nonempty : parts ≠ []) :
    List.intercalate separator (parts.modifyHead (start ++ ·)) =
      start ++ List.intercalate separator parts := by
  obtain ⟨first, others, rfl⟩ := List.exists_cons_of_ne_nil nonempty
  cases others with
  | nil => simp
  | cons second others => simp [List.intercalate_cons_cons]

/-- Joining the parts of a split gives the text back. -/
theorem intercalate_splitUnescaped (separator : Char) (chars : List Char) :
    List.intercalate [separator] (splitUnescaped separator chars) = chars := by
  induction chars using splitUnescaped.induct separator with
  | case1 => simp [splitUnescaped]
  | case2 char rest inductionHypothesis =>
      rw [splitUnescaped_escape]
      refine (intercalate_modifyHead [separator] ['\\', char]
        (splitUnescaped_ne_nil separator rest)).trans ?_
      rw [inductionHypothesis]
      rfl
  | case3 => simp [splitUnescaped]
  | case4 rest different inductionHypothesis =>
      rw [splitUnescaped_separator different,
        List.intercalate_cons_of_ne_nil (splitUnescaped_ne_nil separator rest), inductionHypothesis]
      rfl
  | case5 char rest noEscape noSeparator inductionHypothesis =>
      rw [splitUnescaped_plain noEscape noSeparator]
      refine (intercalate_modifyHead [separator] [char]
        (splitUnescaped_ne_nil separator rest)).trans ?_
      rw [inductionHypothesis]
      rfl

/-- What holds of every part holds once the first part has changed, if it holds
of that. -/
theorem forall_mem_modifyHead {motive : List Char → Prop} {change : List Char → List Char}
    {parts : List (List Char)} (holds : ∀ part ∈ parts, motive part)
    (changed : ∀ part ∈ parts, motive (change part)) :
    ∀ part ∈ parts.modifyHead change, motive part := by
  cases parts with
  | nil => exact holds
  | cons first others =>
      rw [List.modifyHead_cons, List.forall_mem_cons]
      exact ⟨changed first List.mem_cons_self, (List.forall_mem_cons.mp holds).2⟩

/-- No part of a split can be split further. -/
theorem splitUnescaped_of_mem (separator : Char) (chars : List Char) :
    ∀ part ∈ splitUnescaped separator chars, splitUnescaped separator part = [part] := by
  induction chars using splitUnescaped.induct separator with
  | case1 => simp [splitUnescaped]
  | case2 char rest inductionHypothesis =>
      rw [splitUnescaped_escape]
      apply forall_mem_modifyHead inductionHypothesis
      intro part membership
      rw [splitUnescaped_escape, inductionHypothesis part membership]
      rfl
  | case3 => simp [splitUnescaped]
  | case4 rest different inductionHypothesis =>
      rw [splitUnescaped_separator different, List.forall_mem_cons]
      exact ⟨rfl, inductionHypothesis⟩
  | case5 char rest noEscape noSeparator inductionHypothesis =>
      rw [splitUnescaped_plain noEscape noSeparator]
      apply forall_mem_modifyHead inductionHypothesis
      intro part membership
      rw [splitUnescaped_plain noEscape noSeparator, inductionHypothesis part membership]
      rfl

/-! ## Positions -/

section Positions

variable {Symbol : Type u} [DecidableEq Symbol] {escape separator : Symbol}
  {symbols : List Symbol} {position : Nat}

/-- A symbol is escaped if an active escape stands before it: one that is not
escaped itself and has a symbol behind it. -/
def isEscaped (escape : Symbol) (symbols : List Symbol) : Nat → Bool
  | 0 => false
  | position + 1 =>
      symbols[position]? == some escape && decide (position + 1 < symbols.length) &&
        !isEscaped escape symbols position

/-- The separators before a position that are not escaped. -/
def unescapedBefore (escape separator : Symbol) (symbols : List Symbol) (position : Nat) :
    List Nat :=
  (List.range position).filter fun position =>
    symbols[position]? == some separator && !isEscaped escape symbols position

theorem isEscaped_succ_of_escape (isEscape : symbols[position]? = some escape)
    (inside : position + 1 < symbols.length) (active : isEscaped escape symbols position = false) :
    isEscaped escape symbols (position + 1) = true := by
  simp [isEscaped, isEscape, inside, active]

theorem isEscaped_succ_of_escaped (escaped : isEscaped escape symbols position = true) :
    isEscaped escape symbols (position + 1) = false := by
  simp [isEscaped, escaped]

theorem isEscaped_succ_of_inactive
    (inactive : symbols[position]? = some escape → ¬ position + 1 < symbols.length) :
    isEscaped escape symbols (position + 1) = false := by
  by_cases isEscape : symbols[position]? = some escape
  · simp [isEscaped, inactive isEscape]
  · simp [isEscaped, isEscape]

theorem unescapedBefore_succ_of_separator (isSeparator : symbols[position]? = some separator)
    (unescaped : isEscaped escape symbols position = false) :
    unescapedBefore escape separator symbols (position + 1) =
      unescapedBefore escape separator symbols position ++ [position] := by
  simp [unescapedBefore, List.range_succ, isSeparator, unescaped]

theorem unescapedBefore_succ_of_plain (plain : symbols[position]? ≠ some separator) :
    unescapedBefore escape separator symbols (position + 1) =
      unescapedBefore escape separator symbols position := by
  simp [unescapedBefore, List.range_succ, plain]

theorem unescapedBefore_succ_of_escaped (escaped : isEscaped escape symbols position = true) :
    unescapedBefore escape separator symbols (position + 1) =
      unescapedBefore escape separator symbols position := by
  simp [unescapedBefore, List.range_succ, escaped]

end Positions

/-! ## Escaping -/

/-- `text` is `value` with backslashes before some characters, among them every
separator and every backslash. -/
inductive Escapes (separator : Char) : (value text : List Char) → Prop
  | nil : Escapes separator [] []
  | plain {char value text} : char ≠ '\\' → char ≠ separator → Escapes separator value text →
      Escapes separator (char :: value) (char :: text)
  | escaped {char value text} : Escapes separator value text →
      Escapes separator (char :: value) ('\\' :: char :: text)

/-- Drop the backslashes, unless one protects nothing. -/
def unescape : List Char → Option (List Char)
  | [] => some []
  | char :: rest =>
      if char = '\\' then
        match rest with
        | protected' :: rest => (unescape rest).map (protected' :: ·)
        | [] => none
      else (unescape rest).map (char :: ·)

theorem unescape_plain {char : Char} (noEscape : char ≠ '\\') (rest : List Char) :
    unescape (char :: rest) = (unescape rest).map (char :: ·) := by
  rw [unescape.eq_def]
  simp only [noEscape, if_false]

theorem unescape_escape (char : Char) (rest : List Char) :
    unescape ('\\' :: char :: rest) = (unescape rest).map (char :: ·) := by
  rw [unescape.eq_def]
  simp only [if_true]

namespace Escapes

variable {separator : Char} {value text : List Char}

theorem field (escapes : Escapes separator value text) : Field separator text := by
  induction escapes with
  | nil => exact .nil
  | plain noEscape noSeparator _ inductionHypothesis =>
      exact .plain noEscape noSeparator inductionHypothesis
  | escaped _ inductionHypothesis => exact .escaped inductionHypothesis

theorem append {value' text' : List Char} (escapes : Escapes separator value text)
    (escapes' : Escapes separator value' text') :
    Escapes separator (value ++ value') (text ++ text') := by
  induction escapes with
  | nil => exact escapes'
  | plain noEscape noSeparator _ inductionHypothesis =>
      exact .plain noEscape noSeparator inductionHypothesis
  | escaped _ inductionHypothesis => exact .escaped inductionHypothesis

/-- Escaped text is read back before anything that follows it. -/
theorem unescape_append (escapes : Escapes separator value text) (rest : List Char) :
    unescape (text ++ rest) = (unescape rest).map (value ++ ·) := by
  induction escapes with
  | nil => simp
  | plain noEscape _ _ inductionHypothesis =>
      rw [List.cons_append, unescape_plain noEscape, inductionHypothesis]
      simp [Function.comp_def]
  | escaped _ inductionHypothesis =>
      rw [List.cons_append, List.cons_append, unescape_escape, inductionHypothesis]
      simp [Function.comp_def]

theorem unescape_eq (escapes : Escapes separator value text) : unescape text = some value := by
  simpa [unescape] using escapes.unescape_append []

end Escapes

end Foundations.Escaping
