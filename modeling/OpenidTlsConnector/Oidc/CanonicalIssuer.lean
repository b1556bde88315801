import OpenidTlsConnector.Reference.Platform

/-!
# The canonical issuer

The documentation takes a slash off the path.  The code takes it off the whole
text.  The two agree when the path is written last, or when there is no slash
to take off; and only one slash is ever taken.
-/

namespace OpenidTlsConnector

open Foundations

/-- The URL that the documentation describes. -/
def withoutTrailingSlash (issuer : Url) : Url :=
  { issuer with path := Text.dropFinal '/' issuer.path }

/-- What the documentation promises, and that a second time changes nothing. -/
structure CanonicalizesPath (library : UrlLibrary) (issuer : Url) : Prop where
  documented : canonicalizeIssuer issuer = (withoutTrailingSlash issuer).serialize
  idempotent : ∀ again, library.parse (canonicalizeIssuer issuer) = .ok again →
    canonicalizeIssuer again = canonicalizeIssuer issuer

/-- Neither the path nor the component written behind it ends in a slash; or
nothing is written behind the path, and it ends in one slash at most.  An empty
authority leaves slashes of its own in front of the path. -/
def OnlyPathSlash (issuer : Url) : Prop :=
  match issuer.lastComponent with
  | some last => ¬ Text.EndsIn '/' issuer.path ∧ ¬ Text.EndsIn '/' last
  | none => (¬ ∃ start, issuer.path = start ++ "//") ∧
      (issuer.authority = some "" → issuer.path ≠ "" ∧
        (issuer.path = "/" → Url.isSpecial issuer.scheme = true))

/-- The library reads its own output back, also with the path's final slash
taken off.  For a special scheme an empty path reads as a slash. -/
structure ReadsBack (library : UrlLibrary) (issuer : Url) : Prop where
  whole : library.parse issuer.serialize = .ok issuer
  shortened : ∀ start, issuer.path = start ++ "/" → issuer.lastComponent = none →
    library.parse { issuer with path := start }.serialize = .ok { issuer with
      path := if start = "" ∧ Url.isSpecial issuer.scheme = true then "/" else start }

theorem canonicalizeIssuer_eq_dropFinal (issuer : Url) :
    canonicalizeIssuer issuer = Text.dropFinal '/' issuer.serialize := rfl

theorem serialize_withoutTrailingSlash (issuer : Url) :
    (withoutTrailingSlash issuer).serialize =
      issuer.beforePath ++ Text.dropFinal '/' issuer.path ++ issuer.afterPath :=
  Url.serialize_eq _

variable {library : UrlLibrary} {issuer : Url} {authority last : String}

/-- An issuer without a final slash is idempotent by being read back. -/
theorem idempotent_of_unchanged (reads : ReadsBack library issuer)
    (unchanged : canonicalizeIssuer issuer = issuer.serialize) :
    ∀ again, library.parse (canonicalizeIssuer issuer) = .ok again →
      canonicalizeIssuer again = canonicalizeIssuer issuer := by
  intro again parsed
  rw [unchanged, reads.whole] at parsed
  cases parsed
  rfl

/-! ## With a query or a fragment -/

theorem endsIn_serialize_iff (present : issuer.lastComponent = some last) :
    Text.EndsIn '/' issuer.serialize ↔ Text.EndsIn '/' last := by
  obtain ⟨start, delimiter, notSlash, written⟩ := Url.afterPath_of_lastComponent present
  rw [Url.serialize_eq, written, ← String.append_assoc, ← String.append_assoc]
  exact Text.endsIn_append_singleton_iff notSlash _ _

theorem documented_iff_of_lastComponent (present : issuer.lastComponent = some last) :
    canonicalizeIssuer issuer = (withoutTrailingSlash issuer).serialize ↔
      ¬ Text.EndsIn '/' issuer.path ∧ ¬ Text.EndsIn '/' last := by
  have written : issuer.afterPath ≠ "" := by
    obtain ⟨start, delimiter, -, written⟩ := Url.afterPath_of_lastComponent present
    simp [written]
  rw [canonicalizeIssuer_eq_dropFinal, serialize_withoutTrailingSlash]
  constructor
  · intro same
    rw [Url.serialize_eq, Text.dropFinal_append written, String.append_assoc, String.append_assoc,
      String.append_right_inj] at same
    by_cases slash : Text.EndsIn '/' issuer.path
    · -- the slash would have to begin what follows the path
      obtain ⟨start, path⟩ := Text.exists_of_endsIn slash
      rw [path, Text.dropFinal_concat, String.append_assoc, String.append_right_inj] at same
      exact absurd same.symm (issuer.afterPath_ne_slash_append _)
    · rw [Text.dropFinal_eq_self slash, String.append_right_inj, Text.dropFinal_eq_self_iff] at same
      refine ⟨slash, fun lastSlash => same ?_⟩
      rw [← endsIn_serialize_iff present, Url.serialize_eq, Text.endsIn_append_iff written]
        at lastSlash
      exact lastSlash
  · rintro ⟨pathKept, lastKept⟩
    rw [Text.dropFinal_eq_self pathKept, Text.dropFinal_eq_self, Url.serialize_eq]
    rwa [endsIn_serialize_iff present]

/-! ## With the path written last -/

theorem serialize_of_pathLast (absent : issuer.lastComponent = none) (path : String) :
    { issuer with path := path }.serialize = issuer.beforePath ++ path := by
  have written := Url.serialize_eq { issuer with path := path }
  have nothing := Url.afterPath_of_lastComponent_eq_none absent
  simp only [Url.beforePath, Url.afterPath] at written nothing ⊢
  rw [written, nothing, String.append_empty]

theorem canonicalizeIssuer_of_pathLast (absent : issuer.lastComponent = none) (path : String) :
    canonicalizeIssuer { issuer with path := path } =
      Text.dropFinal '/' (issuer.beforePath ++ path) := by
  rw [canonicalizeIssuer_eq_dropFinal, serialize_of_pathLast absent]

theorem documented_iff_of_pathLast (absent : issuer.lastComponent = none)
    (present : issuer.authority = some authority) (slashFree : '/' ∉ authority.toList) :
    canonicalizeIssuer issuer = (withoutTrailingSlash issuer).serialize ↔
      (authority = "" → issuer.path ≠ "") := by
  rw [canonicalizeIssuer_of_pathLast absent issuer.path, withoutTrailingSlash,
    serialize_of_pathLast absent]
  by_cases empty : issuer.path = ""
  · have nothing := Text.dropFinal_eq_self (Text.not_endsIn_empty '/')
    rw [empty, nothing, String.append_empty, Text.dropFinal_eq_self_iff,
      Url.endsIn_beforePath_iff present slashFree]
    simp
  · exact iff_of_true (Text.dropFinal_append empty _) fun _ => empty

/-- A path loses its final slash; a second one goes with the next pass, and so
does the last slash before an empty path. -/
theorem idempotent_iff_of_slash {start : String} (reads : ReadsBack library issuer)
    (absent : issuer.lastComponent = none) (path : issuer.path = start ++ "/")
    (present : issuer.authority = some authority) (slashFree : '/' ∉ authority.toList) :
    (∀ again, library.parse (canonicalizeIssuer issuer) = .ok again →
        canonicalizeIssuer again = canonicalizeIssuer issuer) ↔
      ¬ Text.EndsIn '/' start ∧
        (authority = "" → start = "" → Url.isSpecial issuer.scheme = true) := by
  have canonical : canonicalizeIssuer issuer = issuer.beforePath ++ start := by
    rw [canonicalizeIssuer_of_pathLast absent issuer.path, path, ← String.append_assoc]
    exact Text.dropFinal_concat '/' _
  have reread := reads.shortened start path absent
  rw [serialize_of_pathLast absent] at reread
  simp only [canonical, reread, Except.ok.injEq, forall_eq']
  by_cases root : start = "" ∧ Url.isSpecial issuer.scheme = true
  · obtain ⟨rfl, special⟩ := root
    have same : canonicalizeIssuer { issuer with path := "/" } = issuer.beforePath ++ "" := by
      rw [← canonical, canonicalizeIssuer_of_pathLast absent,
        canonicalizeIssuer_of_pathLast absent issuer.path, path, String.empty_append]
    simp [special, same, Text.not_endsIn_empty]
  · rw [if_neg root, canonicalizeIssuer_of_pathLast absent, Text.dropFinal_eq_self_iff]
    by_cases empty : start = ""
    · have ordinary : Url.isSpecial issuer.scheme ≠ true := fun special => root ⟨empty, special⟩
      rw [empty, String.append_empty, Url.endsIn_beforePath_iff present slashFree]
      simp [Text.not_endsIn_empty, ordinary]
    · rw [Text.endsIn_append_iff empty]
      simp [empty]

/-- Two slashes at the end are one slash behind another. -/
theorem exists_doubleSlash_iff {path start : String} (slash : path = start ++ "/") :
    (∃ before, path = before ++ "//") ↔ Text.EndsIn '/' start := by
  have double : ∀ before : String, before ++ "//" = before ++ String.singleton '/' ++ "/" := by
    intro before
    rw [String.append_assoc]
    rfl
  simp only [slash, double, String.append_left_inj]
  constructor
  · rintro ⟨before, rfl⟩
    exact Text.endsIn_concat '/' before
  · exact Text.exists_of_endsIn

theorem canonicalizesPath_iff_of_pathLast (reads : ReadsBack library issuer)
    (absent : issuer.lastComponent = none) (present : issuer.authority = some authority)
    (slashFree : '/' ∉ authority.toList) :
    CanonicalizesPath library issuer ↔
      (¬ ∃ start, issuer.path = start ++ "//") ∧
        (authority = "" → issuer.path ≠ "" ∧
          (issuer.path = "/" → Url.isSpecial issuer.scheme = true)) := by
  have documented := documented_iff_of_pathLast absent present slashFree
  by_cases slash : Text.EndsIn '/' issuer.path
  · obtain ⟨start, path⟩ := Text.exists_of_endsIn slash
    have nonempty : issuer.path ≠ "" := by simp [path]
    have root : issuer.path = "/" ↔ start = "" := by
      rw [path]
      exact String.append_eq_right_iff
    have idempotent := idempotent_iff_of_slash reads absent path present slashFree
    rw [exists_doubleSlash_iff path, root]
    constructor
    · intro canonicalizes
      obtain ⟨single, special⟩ := idempotent.mp canonicalizes.idempotent
      exact ⟨single, fun empty => ⟨nonempty, special empty⟩⟩
    · rintro ⟨single, special⟩
      exact ⟨documented.mpr fun _ => nonempty,
        idempotent.mpr ⟨single, fun empty => (special empty).2⟩⟩
  · have notDouble : ¬ ∃ start, issuer.path = start ++ "//" := by
      rintro ⟨start, path⟩
      exact slash (by simp [Text.EndsIn, path])
    have notRoot : issuer.path ≠ "/" := by
      intro path
      exact slash (by simp [Text.EndsIn, path])
    constructor
    · intro canonicalizes
      exact ⟨notDouble, fun empty =>
        ⟨documented.mp canonicalizes.documented empty, fun root => absurd root notRoot⟩⟩
    · rintro ⟨-, nonempty⟩
      have promised := documented.mpr fun empty => (nonempty empty).1
      refine ⟨promised, idempotent_of_unchanged reads ?_⟩
      rw [promised, withoutTrailingSlash, Text.dropFinal_eq_self slash]

/-- The issuer is canonicalized as documented exactly when no other slash than
the path's comes last. -/
theorem canonicalizesPath_iff (library : UrlLibrary) (issuer : Url) (authority : String)
    (reads : ReadsBack library issuer) (present : issuer.authority = some authority)
    (slashFree : '/' ∉ authority.toList) :
    CanonicalizesPath library issuer ↔ OnlyPathSlash issuer := by
  unfold OnlyPathSlash
  cases component : issuer.lastComponent with
  | some last =>
      have documented := documented_iff_of_lastComponent component
      constructor
      · intro canonicalizes
        exact documented.mp canonicalizes.documented
      · intro noSlash
        have promised := documented.mpr noSlash
        refine ⟨promised, idempotent_of_unchanged reads ?_⟩
        rw [promised, withoutTrailingSlash, Text.dropFinal_eq_self noSlash.1]
  | none =>
      simp only [present, Option.some.injEq]
      exact canonicalizesPath_iff_of_pathLast reads component present slashFree

/-- An issuer below the root of its host. -/
def tenantIssuer : Url := { Reference.issuerUrl with path := "/oidc/" }

theorem canonicalizesPath_sample : CanonicalizesPath Url.plainLibrary tenantIssuer := by
  have reads : ReadsBack Url.plainLibrary tenantIssuer := by
    refine ⟨Url.plainLibrary_parse_eq_ok_iff.mpr (by decide), ?_⟩
    intro start path _
    have shortened : start = "/oidc" := by
      rw [← String.append_left_inj "/", ← path]
      rfl
    subst shortened
    exact Url.plainLibrary_parse_eq_ok_iff.mpr (by decide)
  have single : ¬ ∃ start, tenantIssuer.path = start ++ "//" := by
    rw [exists_doubleSlash_iff (by decide : tenantIssuer.path = "/oidc" ++ "/")]
    decide
  exact (canonicalizesPath_iff Url.plainLibrary tenantIssuer "auth.example.com" reads rfl
    (by decide)).mpr ⟨single, by decide⟩

/-- An issuer that routes behind the fragment sign. -/
def routedIssuer : Url := { Reference.issuerUrl with fragment := some "/" }

/-- The slash of a fragment is taken, and the one of the path stays. -/
theorem canonicalizeIssuer_cuts_fragment :
    Url.plainLibrary.parse "https://auth.example.com/#/" = .ok routedIssuer ∧
      canonicalizeIssuer routedIssuer = "https://auth.example.com/#" ∧
      (withoutTrailingSlash routedIssuer).serialize = "https://auth.example.com#/" ∧
      ¬ CanonicalizesPath Url.plainLibrary routedIssuer := by
  have cut : canonicalizeIssuer routedIssuer = "https://auth.example.com/#" := by decide
  have promised : (withoutTrailingSlash routedIssuer).serialize = "https://auth.example.com#/" := by
    decide
  refine ⟨Url.plainLibrary_parse_eq_ok_iff.mpr (by decide), cut, promised, ?_⟩
  intro canonicalizes
  have same := canonicalizes.documented
  rw [cut, promised] at same
  exact absurd same (by decide)

end OpenidTlsConnector
