import OpenidTlsConnector.Foundations.DistinguishedName
import OpenidTlsConnector.Reference.Platform
import OpenidTlsConnector.Users.Rdns

/-!
# No attribute comes out of a value

A distinguished name whose values are escaped is read as the attributes it was
written from, whatever the values say: the first attribute with the right key
decides, and no value can put another attribute in front of it.
-/

namespace OpenidTlsConnector

open Foundations Foundations.Escaping Foundations.DistinguishedName

/-- ASCII letters, digits, dots and hyphens. -/
def isKeyChar (char : Char) : Bool := char.isAlphanum || char == '.' || char == '-'

def IsKey (key : String) : Prop := ∀ char ∈ key.toList, isKeyChar char = true

def IsAscii (text : String) : Prop := ∀ char ∈ text.toList, char.toNat < 128

/-- Every value is written with a backslash before every comma and every
backslash, and perhaps before other characters. -/
def EscapesValues (escape : String → String) : Prop :=
  ∀ value, Escapes ',' value.toList (escape value).toList

/-- What a key character is, and is not. -/
structure KeyChar (char : Char) : Prop where
  graphic : Text.isGraphic char = true
  noEquals : char ≠ '='
  noComma : char ≠ ','
  noEscape : char ≠ '\\'

theorem ascii_of_isKeyChar {char : Char} (isKey : isKeyChar char = true) : char.toNat < 128 := by
  simp only [isKeyChar, Bool.or_eq_true, beq_iff_eq] at isKey
  rcases isKey with (alphanumeric | rfl) | rfl
  · exact FormUrlEncoded.ascii_of_isAlphanum alphanumeric
  all_goals decide

theorem keyChar_of_isKeyChar {char : Char} (isKey : isKeyChar char = true) : KeyChar char := by
  have facts := Text.forall_ascii
    (motive := fun char => isKeyChar char = true →
      Text.isGraphic char = true ∧ char ≠ '=' ∧ char ≠ ',' ∧ char ≠ '\\')
    (by decide) (ascii_of_isKeyChar isKey) isKey
  exact ⟨facts.1, facts.2.1, facts.2.2.1, facts.2.2.2⟩

namespace IsKey

variable {key : String}

theorem ascii (isKey : IsKey key) : IsAscii key :=
  fun char membership => ascii_of_isKeyChar (isKey char membership)

theorem equals_not_mem (isKey : IsKey key) : '=' ∉ key.toList :=
  fun membership => (keyChar_of_isKeyChar (isKey '=' membership)).noEquals rfl

/-- A key has nothing to trim. -/
theorem trim_eq (isKey : IsKey key) : Text.trim key = key :=
  Text.trim_eq_self fun char membership => (keyChar_of_isKeyChar (isKey char membership)).graphic

theorem trimStart_append (isKey : IsKey key) (rest : List Char) :
    Text.trimStart (key.toList ++ '=' :: rest) = key.toList ++ '=' :: rest := by
  cases chars : key.toList with
  | nil => exact Text.trimStart_cons (by decide) rest
  | cons first others =>
      have graphic := (keyChar_of_isKeyChar (isKey first (by rw [chars]; simp))).graphic
      exact Text.trimStart_cons (Text.isWhitespace_eq_false_of_isGraphic graphic) _

/-- A part is split into its key and its value, which loses the whitespace at
its end. -/
theorem splitOnce_trim (isKey : IsKey key) (value : String) :
    Text.splitOnce '=' (Text.trim (key ++ "=" ++ value)) =
      some (key, String.ofList (Text.trimEnd value.toList)) := by
  have chars : (key ++ "=" ++ value).toList = key.toList ++ '=' :: value.toList := by simp
  have trimmed : Text.trim (key ++ "=" ++ value) =
      String.ofList (key.toList ++ '=' :: Text.trimEnd value.toList) := by
    rw [Text.trim, chars, isKey.trimStart_append, Text.trimEnd_append_cons (by decide)]
  rw [trimmed, Text.splitOnce, String.toList_ofList,
    Text.splitOnceChars_append isKey.equals_not_mem]
  simp

theorem field (isKey : IsKey key) : Field ',' key.toList :=
  .of_plain fun char membership =>
    have plain := keyChar_of_isKeyChar (isKey char membership)
    ⟨plain.noEscape, plain.noComma⟩

end IsKey

variable {platform : Platform} {escape : String → String}
  {rdns : List (String × String)} {dnAttribute : String}

theorem equals_field : Field ',' "=".toList := .of_plain (by simp)

/-- The parts of a rendered name are the attributes it was rendered from. -/
theorem splitUnescaped_render (escapes : EscapesValues escape) (nonempty : rdns ≠ [])
    (keys : ∀ rdn ∈ rdns, IsKey rdn.1) :
    (splitUnescaped ',' (render escape rdns).toList).map String.ofList =
      rdns.map fun rdn => rdn.1 ++ "=" ++ escape rdn.2 := by
  have chars : (render escape rdns).toList = List.intercalate [',']
      (rdns.map fun rdn => (rdn.1 ++ "=" ++ escape rdn.2).toList) := by
    rw [render, String.toList_intercalate, List.map_map]
    rfl
  have fields : ∀ field ∈ rdns.map
      fun rdn => (rdn.1 ++ "=" ++ escape rdn.2).toList, Field ',' field := by
    intro field membership
    obtain ⟨rdn, inRdns, rfl⟩ := List.mem_map.mp membership
    rw [String.toList_append, String.toList_append]
    exact ((keys rdn inRdns).field.append equals_field).append (escapes rdn.2).field
  rw [chars, splitUnescaped_intercalate (by decide) (by simpa using nonempty) fields,
    List.map_map]
  exact List.map_congr_left fun rdn _ => String.ofList_toList

/-- Whether an attribute is the one that is looked for. -/
def hasKey (dnAttribute : String) (rdn : String × String) : Bool :=
  Text.equalsIgnoringAsciiCase rdn.1 dnAttribute

/-- What the rendered attributes say about the one that is looked for. -/
def lookup (escape : String → String) (rdns : List (String × String))
    (dnAttribute : String) : Except UserError String :=
  match rdns.find? (hasKey dnAttribute) with
  | some rdn => .ok (Text.trim (escape rdn.2))
  | none => .error (.attributeNotFound dnAttribute)

theorem findAttribute_render (keys : ∀ rdn ∈ rdns, IsKey rdn.1)
    (ascii : IsAscii dnAttribute) :
    findAttribute platform dnAttribute
        (rdns.map fun rdn => rdn.1 ++ "=" ++ escape rdn.2) =
      lookup escape rdns dnAttribute := by
  induction rdns with
  | nil => rfl
  | cons rdn rest inductionHypothesis =>
      obtain ⟨isKey, others⟩ := List.forall_mem_cons.mp keys
      have sameKey := Text.equalsIgnoringAsciiCase_iff platform.uppercase isKey.ascii ascii
      simp only [List.map_cons, findAttribute, isKey.splitOnce_trim, isKey.trim_eq]
      by_cases found : hasKey dnAttribute rdn = true
      · rw [if_pos (sameKey.mp found), Text.trim_trimEnd, String.ofList_toList, lookup,
          List.find?_cons_of_pos found]
      · rw [if_neg (mt sameKey.mpr found), inductionHypothesis others, lookup, lookup,
          List.find?_cons_of_neg found]

theorem extractDnAttribute_render (escapes : EscapesValues escape) (nonempty : rdns ≠ [])
    (keys : ∀ rdn ∈ rdns, IsKey rdn.1) (ascii : IsAscii dnAttribute) :
    extractDnAttribute platform (render escape rdns) dnAttribute =
      .ofExcept (lookup escape rdns dnAttribute) := by
  rw [extractDnAttribute_eq, splitUnescaped_render escapes nonempty keys,
    findAttribute_render keys ascii]

/-! ## Changing values -/

/-- The same keys in the same places, and the same value where the first match
stands. -/
structure SameFirstMatch (dnAttribute : String) (rdns rdns' : List (String × String)) : Prop where
  keys : rdns'.map Prod.fst = rdns.map Prod.fst
  value : ∀ j, rdns.findIdx? (hasKey dnAttribute) = some j → rdns'[j]? = rdns[j]?

theorem SameFirstMatch.lookup_eq {rdns' : List (String × String)}
    (same : SameFirstMatch dnAttribute rdns rdns') :
    lookup escape rdns' dnAttribute = lookup escape rdns dnAttribute := by
  have byKey : ∀ list : List (String × String), list.findIdx? (hasKey dnAttribute) =
      (list.map Prod.fst).findIdx? (Text.equalsIgnoringAsciiCase · dnAttribute) := by
    intro list
    rw [List.findIdx?_map]
    rfl
  have index : rdns'.findIdx? (hasKey dnAttribute) = rdns.findIdx? (hasKey dnAttribute) := by
    rw [byKey, byKey, same.keys]
  have first : rdns'.find? (hasKey dnAttribute) = rdns.find? (hasKey dnAttribute) := by
    rw [List.find?_eq_bind_findIdx?_getElem?, List.find?_eq_bind_findIdx?_getElem?, index]
    cases found : rdns.findIdx? (hasKey dnAttribute) with
    | none => rfl
    | some j => exact same.value j found
  rw [lookup, lookup, first]

theorem lookup_eq_notFound_iff :
    lookup escape rdns dnAttribute = .error (.attributeNotFound dnAttribute) ↔
      ∀ rdn ∈ rdns, hasKey dnAttribute rdn = false := by
  unfold lookup
  cases found : rdns.find? (hasKey dnAttribute) with
  | none => simpa using found
  | some rdn =>
      simp only [reduceCtorEq, false_iff, not_forall]
      refine ⟨rdn, List.mem_of_find?_eq_some found, ?_⟩
      simpa using List.find?_some found

theorem lookup_ne_invalidDn (part : String) :
    lookup escape rdns dnAttribute ≠ .error (.invalidDn part) := by
  unfold lookup
  split <;> simp

/-- Reading a rendered name gives the escaped value of the first attribute with
the key, without the whitespace around it; it is never malformed, and the
values of the other attributes do not matter. -/
theorem extractDnAttribute_rendered (platform : Platform) (escapes : EscapesValues escape)
    (nonempty : rdns ≠ []) (keys : ∀ rdn ∈ rdns, IsKey rdn.1) (ascii : IsAscii dnAttribute) :
    (∀ rdn, rdns.find? (hasKey dnAttribute) = some rdn →
        extractDnAttribute platform (render escape rdns) dnAttribute =
          .ok (Text.trim (escape rdn.2))) ∧
      (extractDnAttribute platform (render escape rdns) dnAttribute =
          .error (.attributeNotFound dnAttribute) ↔
        ∀ rdn ∈ rdns, hasKey dnAttribute rdn = false) ∧
      (∀ part, extractDnAttribute platform (render escape rdns) dnAttribute ≠
        .error (.invalidDn part)) ∧
      ∀ rdns', SameFirstMatch dnAttribute rdns rdns' →
        extractDnAttribute platform (render escape rdns') dnAttribute =
          extractDnAttribute platform (render escape rdns) dnAttribute := by
  rw [extractDnAttribute_render escapes nonempty keys ascii]
  refine ⟨?_, ?_, ?_, ?_⟩
  · intro rdn found
    rw [lookup, found]
    rfl
  · rw [Outcome.ofExcept_eq_error_iff]
    exact lookup_eq_notFound_iff
  · intro part
    rw [ne_eq, Outcome.ofExcept_eq_error_iff]
    exact lookup_ne_invalidDn part
  · intro rdns' same
    have keys' : ∀ rdn ∈ rdns', IsKey rdn.1 := by
      intro rdn membership
      have inKeys : rdn.1 ∈ rdns.map Prod.fst := same.keys ▸ List.mem_map_of_mem membership
      obtain ⟨original, inRdns, sameKey⟩ := List.mem_map.mp inKeys
      exact sameKey ▸ keys original inRdns
    have nonempty' : rdns' ≠ [] := by
      intro empty
      have noKeys := same.keys
      rw [empty] at noKeys
      exact nonempty (List.map_eq_nil_iff.mp noKeys.symm)
    rw [extractDnAttribute_render escapes nonempty' keys' ascii, same.lookup_eq]

/-- An organisation cannot call itself the administrator. -/
theorem extractDnAttribute_rendered_sample :
    extractDnAttribute Reference.platform
      (render escapeValue [("O", "Example,CN=admin\\"), ("CN", "alice")]) "cn" = .ok "alice" :=
  ((extractDnAttribute_rendered Reference.platform escapes_escapeValue (by decide)
    (by simp [IsKey, isKeyChar]) (by simp [IsAscii])).1 ("CN", "alice") (by decide)).trans
    (by decide)

end OpenidTlsConnector
