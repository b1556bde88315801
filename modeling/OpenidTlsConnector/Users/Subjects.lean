import OpenidTlsConnector.Users.Injection

/-!
# Subjects of different certificates

The subject is the escaped value without the whitespace around it.  As long as
no tab stands at either end of the value, trimming takes at most the space of
a final escape, and the value can still be read back from the subject.
-/

namespace OpenidTlsConnector

open Foundations Foundations.Escaping Foundations.DistinguishedName

/-- What `HeaderValue::to_str` lets through. -/
def isHeaderChar (char : Char) : Bool := Text.isGraphic char || char == ' ' || char == '\t'

/-- A value of header characters without a tab at either end. -/
structure IsTabFreeAtEnds (value : String) : Prop where
  chars : ∀ char ∈ value.toList, isHeaderChar char = true
  start : value.toList.head? ≠ some '\t'
  finish : value.toList.getLast? ≠ some '\t'

/-- Whatever follows the first part of a distinguished name. -/
def FurtherRdns (rest : String) : Prop := rest = "" ∨ ∃ rdns, rest = "," ++ rdns

/-- The value a subject was made of: the subject is escaped text, or lost the
space of its last escape. -/
def recoverValue (subject : List Char) : Option (List Char) :=
  (unescape subject).or (unescape (subject ++ [' ']))

variable {platform : Platform} {value : String}

theorem isWhitespace_of_isHeaderChar {char : Char} (isHeader : isHeaderChar char = true)
    (noSpace : char ≠ ' ') (noTab : char ≠ '\t') : Text.isWhitespace char = false := by
  simp only [isHeaderChar, Bool.or_eq_true, beq_iff_eq, noSpace, noTab, or_false] at isHeader
  exact Text.isWhitespace_eq_false_of_isGraphic isHeader

/-- There is nothing to trim at the beginning. -/
theorem trimStart_escapeValue (tabFree : IsTabFreeAtEnds value) :
    Text.trimStart (escapeValue value).toList = (escapeValue value).toList := by
  rw [escapeValue, String.toList_ofList]
  cases chars : value.toList with
  | nil => rfl
  | cons char rest =>
      rcases escapeFrom_cons char rest with ⟨text, escape⟩ | ⟨noSpace, text, plain⟩
      · rw [escape, Text.trimStart_cons (by decide)]
      · have noTab : char ≠ '\t' := by
          intro tab
          apply tabFree.start
          rw [chars, tab]
          rfl
        have isHeader := tabFree.chars char (by rw [chars]; exact List.mem_cons_self)
        rw [plain, Text.trimStart_cons (isWhitespace_of_isHeaderChar isHeader noSpace noTab)]

/-- The value is read back from what is left of its escaped text. -/
theorem recoverValue_trimEnd (tabFree : IsTabFreeAtEnds value) :
    recoverValue (Text.trimEnd (escapeValue value).toList) = some value.toList := by
  have whole := (escapes_escapeValue value).unescape_eq
  rw [escapeValue, String.toList_ofList] at whole ⊢
  rcases List.eq_nil_or_concat' value.toList with empty | ⟨start, last, chars⟩
  · rw [empty]
    rfl
  · rw [chars] at whole ⊢
    have noTab : last ≠ '\t' := by
      intro tab
      apply tabFree.finish
      rw [chars, tab]
      simp
    have isHeader := tabFree.chars last (by rw [chars]; simp)
    obtain ⟨text, escapes, ends⟩ := escapeFrom_concat true start last
    by_cases space : last = ' '
    · -- the space of the last escape is trimmed, and its backslash protects nothing
      subst space
      have escape : escapeFrom true (start ++ [' ']) = text ++ ['\\'] ++ [' '] := by
        rcases ends with escape | ⟨noSpace, -⟩
        · simpa using escape
        · exact absurd rfl noSpace
      have dangling : unescape (text ++ ['\\']) = none := by
        rw [escapes.unescape_append]
        rfl
      rw [escape] at whole ⊢
      rw [Text.trimEnd_append_blank (by decide), Text.trimEnd_eq_self (by decide), recoverValue,
        dangling, whole]
      rfl
    · have solid := isWhitespace_of_isHeaderChar isHeader space noTab
      have untrimmed : Text.trimEnd (escapeFrom true (start ++ [last])) =
          escapeFrom true (start ++ [last]) := by
        rcases ends with escape | ⟨-, plain⟩
        · rw [escape, List.append_cons, Text.trimEnd_eq_self solid]
        · rw [plain, Text.trimEnd_eq_self solid]
      rw [untrimmed, recoverValue, whole]
      rfl

/-- Trimming loses nothing of an escaped value. -/
theorem trim_escapeValue_injective {value' : String} (tabFree : IsTabFreeAtEnds value)
    (tabFree' : IsTabFreeAtEnds value')
    (same : Text.trim (escapeValue value) = Text.trim (escapeValue value')) : value = value' := by
  rw [Text.trim, Text.trim, trimStart_escapeValue tabFree, trimStart_escapeValue tabFree',
    String.ofList_inj] at same
  have recovered := recoverValue_trimEnd tabFree
  rw [same, recoverValue_trimEnd tabFree', Option.some.injEq, String.toList_inj] at recovered
  exact recovered.symm

/-- A name that begins with an attribute, and other parts after it. -/
def dnWith (dnAttribute value rest : String) : String :=
  dnAttribute ++ "=" ++ escapeValue value ++ rest

theorem splitUnescaped_dnWith {dnAttribute : String} (isKey : IsKey dnAttribute) (value : String)
    {rest : String} (further : FurtherRdns rest) :
    ∃ others, splitUnescaped ',' (dnWith dnAttribute value rest).toList =
      (dnAttribute ++ "=" ++ escapeValue value).toList :: others := by
  have field := (isKey.field.append equals_field).append (escapes_escapeValue value).field
  rw [dnWith, String.toList_append, String.toList_append, String.toList_append]
  rcases further with rfl | ⟨rdns, rfl⟩
  · refine ⟨[], ?_⟩
    rw [String.toList_empty, List.append_nil, field.splitUnescaped_self]
  · refine ⟨splitUnescaped ',' rdns.toList, ?_⟩
    rw [String.toList_append]
    exact field.splitUnescaped_cons (by decide) rdns.toList

/-- The subject of such a name is the trimmed text of its first value. -/
theorem subject_dnWith {dnAttribute : String} (isKey : IsKey dnAttribute) (value : String)
    {rest : String} (further : FurtherRdns rest) {user : User}
    (resolved : UserManager.resolve platform { dnAttribute := dnAttribute }
      (dnWith dnAttribute value rest) = .ok user) :
    user.subject = Text.trim (escapeValue value) := by
  obtain ⟨others, parts⟩ := splitUnescaped_dnWith isKey value further
  rw [UserManager.resolve, Outcome.bind_eq_ok_iff] at resolved
  obtain ⟨subject, extracted, made⟩ := resolved
  rw [extractDnAttribute_eq, parts, List.map_cons, String.ofList_toList, findAttribute] at extracted
  simp only [isKey.splitOnce_trim, isKey.trim_eq, if_true, Text.trim_trimEnd, String.ofList_toList,
    Outcome.ofExcept, Outcome.ok.injEq] at extracted
  cases made
  exact extracted.symm

/-- Different values never give one subject, whatever follows them. -/
theorem subjects_ne (platform : Platform) {dnAttribute value value' rest rest' : String}
    (letters : ∀ char ∈ dnAttribute.toList, char.isAlpha = true)
    (tabFree : IsTabFreeAtEnds value) (tabFree' : IsTabFreeAtEnds value')
    (further : FurtherRdns rest) (further' : FurtherRdns rest') (different : value ≠ value') :
    ¬ ∃ user user', UserManager.resolve platform { dnAttribute := dnAttribute }
        (dnWith dnAttribute value rest) = .ok user ∧
      UserManager.resolve platform { dnAttribute := dnAttribute }
        (dnWith dnAttribute value' rest') = .ok user' ∧
      user.subject = user'.subject := by
  have isKey : IsKey dnAttribute := by
    intro char membership
    have alphanumeric : char.isAlphanum = true :=
      (congrArg (· || char.isDigit) (letters char membership)).trans (Bool.true_or _)
    rw [isKeyChar, alphanumeric]
    rfl
  rintro ⟨user, user', resolved, resolved', same⟩
  rw [subject_dnWith isKey value further resolved,
    subject_dnWith isKey value' further' resolved'] at same
  exact different (trim_escapeValue_injective tabFree tabFree' same)

theorem subjects_ne_sample :
    ¬ ∃ user user', UserManager.resolve Reference.platform { dnAttribute := "CN" }
        (dnWith "CN" "alice " ",O=Example") = .ok user ∧
      UserManager.resolve Reference.platform { dnAttribute := "CN" }
        (dnWith "CN" "alice\\" "") = .ok user' ∧
      user.subject = user'.subject :=
  subjects_ne Reference.platform (by simp)
    ⟨by simp [isHeaderChar, Text.isGraphic], by decide, by decide⟩
    ⟨by simp [isHeaderChar, Text.isGraphic], by decide, by decide⟩
    (Or.inr ⟨"O=Example", by decide⟩) (Or.inl rfl) (by decide)

/-- A tab at the end of a value is trimmed away. -/
theorem subjects_eq_of_tab :
    ¬ ∀ value value' : String, (∀ char ∈ value.toList, isHeaderChar char = true) →
      (∀ char ∈ value'.toList, isHeaderChar char = true) → value ≠ value' →
      ¬ ∃ user user', UserManager.resolve Reference.platform { dnAttribute := "CN" }
          (dnWith "CN" value "") = .ok user ∧
        UserManager.resolve Reference.platform { dnAttribute := "CN" }
          (dnWith "CN" value' "") = .ok user' ∧
        user.subject = user'.subject := by
  intro distinct
  apply distinct "alice" "alice\t" (by simp [isHeaderChar, Text.isGraphic])
    (by simp [isHeaderChar, Text.isGraphic]) (by decide)
  exact ⟨{ subject := "alice", rawDn := "CN=alice" }, { subject := "alice", rawDn := "CN=alice\t" },
    by decide +kernel, by decide +kernel, rfl⟩

end OpenidTlsConnector
