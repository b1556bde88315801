import OpenidTlsConnector.Foundations.Escaping
import OpenidTlsConnector.Foundations.Text

/-!
# Distinguished names in string form

An attribute value is written with backslashes before the characters that are
special everywhere, before a space or a `#` at its beginning, and before a
space at its end.  Attributes are joined by commas.
-/

namespace Foundations.DistinguishedName

open Escaping

def isSpecial (char : Char) : Bool :=
  char == '"' || char == '+' || char == ',' || char == ';' || char == '<' || char == '>' ||
    char == '\\'

/-- Escape what follows; `leading` says whether it is the beginning of the
value. -/
def escapeFrom (leading : Bool) : List Char → List Char
  | [] => []
  | char :: rest =>
      if isSpecial char || (leading && (char == ' ' || char == '#')) ||
          (rest.isEmpty && char == ' ') then
        '\\' :: char :: escapeFrom false rest
      else char :: escapeFrom false rest

def escapeValue (value : String) : String := String.ofList (escapeFrom true value.toList)

/-- `key=value` parts with escaped values, joined by commas. -/
def render (escape : String → String) (rdns : List (String × String)) : String :=
  ",".intercalate (rdns.map fun rdn => rdn.1 ++ "=" ++ escape rdn.2)

theorem ne_of_not_special {char : Char} (plain : isSpecial char = false) :
    char ≠ '\\' ∧ char ≠ ',' := by
  constructor
  · rintro rfl
    exact absurd plain (by decide)
  · rintro rfl
    exact absurd plain (by decide)

theorem escapes_escapeFrom (leading : Bool) (value : List Char) :
    Escapes ',' value (escapeFrom leading value) := by
  induction value generalizing leading with
  | nil => exact .nil
  | cons char rest inductionHypothesis =>
      unfold escapeFrom
      split_ifs with escaped
      · exact .escaped (inductionHypothesis false)
      · simp only [Bool.not_eq_true, Bool.or_eq_false_iff] at escaped
        obtain ⟨noEscape, noComma⟩ := ne_of_not_special escaped.1.1
        exact .plain noEscape noComma (inductionHypothesis false)

/-- How escaped text ends: with an escape, or with a character that is no space. -/
theorem escapeFrom_concat (leading : Bool) (value : List Char) (last : Char) :
    ∃ text, Escapes ',' value text ∧
      (escapeFrom leading (value ++ [last]) = text ++ ['\\', last] ∨
        last ≠ ' ' ∧ escapeFrom leading (value ++ [last]) = text ++ [last]) := by
  induction value generalizing leading with
  | nil =>
      refine ⟨[], .nil, ?_⟩
      simp only [List.nil_append, escapeFrom]
      split_ifs with escaped
      · exact Or.inl rfl
      · simp only [List.isEmpty_nil, Bool.true_and, Bool.or_eq_true, beq_iff_eq, not_or] at escaped
        exact Or.inr ⟨escaped.2, rfl⟩
  | cons char rest inductionHypothesis =>
      obtain ⟨text, escapes, ends⟩ := inductionHypothesis false
      rw [List.cons_append, escapeFrom]
      split_ifs with escaped
      · refine ⟨'\\' :: char :: text, .escaped escapes, ?_⟩
        rcases ends with escape | ⟨noSpace, plain⟩
        · exact Or.inl (by rw [escape]; rfl)
        · exact Or.inr ⟨noSpace, by rw [plain]; rfl⟩
      · simp only [Bool.not_eq_true, Bool.or_eq_false_iff] at escaped
        obtain ⟨noEscape, noComma⟩ := ne_of_not_special escaped.1.1
        refine ⟨char :: text, .plain noEscape noComma escapes, ?_⟩
        rcases ends with escape | ⟨noSpace, plain⟩
        · exact Or.inl (by rw [escape]; rfl)
        · exact Or.inr ⟨noSpace, by rw [plain]; rfl⟩

/-- Escaped text never begins with a space. -/
theorem escapeFrom_cons (char : Char) (rest : List Char) :
    (∃ text, escapeFrom true (char :: rest) = '\\' :: text) ∨
      char ≠ ' ' ∧ ∃ text, escapeFrom true (char :: rest) = char :: text := by
  rw [escapeFrom]
  split_ifs with escaped
  · exact Or.inl ⟨_, rfl⟩
  · simp only [Bool.true_and, Bool.or_eq_true, beq_iff_eq, not_or] at escaped
    exact Or.inr ⟨escaped.1.2.1, _, rfl⟩

theorem escapes_escapeValue (value : String) :
    Escapes ',' value.toList (escapeValue value).toList := by
  rw [escapeValue, String.toList_ofList]
  exact escapes_escapeFrom true value.toList

end Foundations.DistinguishedName
