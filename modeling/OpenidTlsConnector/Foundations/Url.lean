import OpenidTlsConnector.Foundations.FormUrlEncoded

/-!
# URLs by component

A parsed URL is its components, each as the serializer writes it.  Parsing,
reference resolution and query editing are the operations of a URL library.
The library at the end answers the URLs that need no percent-encoding and no
dot-segment removal, and refuses the others.
-/

namespace Foundations

structure Url where
  scheme : String
  authority : Option String
  path : String
  query : Option String
  fragment : Option String
  deriving DecidableEq

/-- A component with the delimiter that introduces it, if it is there. -/
def Url.delimited (delimiter : String) : Option String → String
  | none => ""
  | some component => delimiter ++ component

def Url.serialize (url : Url) : String :=
  url.scheme ++ ":" ++ Url.delimited "//" url.authority ++ url.path ++
    Url.delimited "?" url.query ++ Url.delimited "#" url.fragment

/-- What is written before the path. -/
def Url.beforePath (url : Url) : String :=
  url.scheme ++ ":" ++ Url.delimited "//" url.authority

/-- What is written after the path. -/
def Url.afterPath (url : Url) : String :=
  Url.delimited "?" url.query ++ Url.delimited "#" url.fragment

theorem Url.serialize_eq (url : Url) :
    url.serialize = url.beforePath ++ url.path ++ url.afterPath := by
  simp only [serialize, beforePath, afterPath, String.append_assoc]

/-- Of an authority without slashes, only an empty one leaves a slash before the
path. -/
theorem Url.endsIn_beforePath_iff {url : Url} {authority : String}
    (present : url.authority = some authority) (slashFree : '/' ∉ authority.toList) :
    Text.EndsIn '/' url.beforePath ↔ authority = "" := by
  simp only [beforePath, delimited, present]
  by_cases empty : authority = ""
  · simp [empty, Text.EndsIn]
  · rw [← String.append_assoc, Text.endsIn_append_iff empty]
    refine iff_of_false (fun ends => ?_) empty
    exact slashFree (List.mem_of_getLast? ends)

/-- The component written after the path, if any, that comes last. -/
def Url.lastComponent (url : Url) : Option String := url.fragment.or url.query

theorem Url.afterPath_of_lastComponent_eq_none {url : Url} (absent : url.lastComponent = none) :
    url.afterPath = "" := by
  obtain ⟨noFragment, noQuery⟩ := Option.or_eq_none_iff.mp absent
  simp [afterPath, delimited, noFragment, noQuery]

/-- The last component stands behind its delimiter. -/
theorem Url.afterPath_of_lastComponent {url : Url} {last : String}
    (present : url.lastComponent = some last) :
    ∃ start delimiter, delimiter ≠ '/' ∧
      url.afterPath = start ++ String.singleton delimiter ++ last := by
  unfold afterPath
  cases fragment : url.fragment with
  | some component =>
      simp only [lastComponent, fragment, Option.some_or, Option.some.injEq] at present
      subst present
      exact ⟨_, '#', by decide, String.append_assoc.symm⟩
  | none =>
      simp only [lastComponent, fragment, Option.none_or] at present
      rw [present]
      exact ⟨"", '?', by decide, by simp [delimited]⟩

/-- No slash directly follows the path. -/
theorem Url.afterPath_ne_slash_append (url : Url) (rest : String) :
    url.afterPath ≠ "/" ++ rest := by
  unfold afterPath delimited
  intro same
  have heads := congrArg (fun text => text.toList.head?) same
  revert heads
  cases url.query <;> cases url.fragment <;> simp

/-- Parsing says why it fails. -/
structure UrlLibrary where
  parse : String → Except String Url
  join : Url → String → Option Url
  appendPair : Url → String → String → Url

namespace Url

/-- Schemes whose URLs have a default port and never an empty path. -/
def defaultPort : String → Option String
  | "http" => some "80"
  | "https" => some "443"
  | "ws" => some "80"
  | "wss" => some "443"
  | "ftp" => some "21"
  | _ => none

/-- The schemes whose URLs never have an empty path. -/
def isSpecial (scheme : String) : Bool := (defaultPort scheme).isSome || scheme == "file"

def isPlain (char : Char) : Bool :=
  FormUrlEncoded.isUnreserved char || char == '/' || char == '~'

/-- A path the parser keeps as it is written. -/
def isPlainPath (chars : List Char) : Bool :=
  let segments := chars.splitOnP (· == '/')
  chars.all isPlain && !segments.contains ['.'] && !segments.contains ['.', '.']

/-- The two sides of the first `separator`, the second one optional. -/
def splitComponent (separator : Char) (chars : List Char) : List Char × Option (List Char) :=
  match Text.splitOnceChars separator chars with
  | some (before, after) => (before, some after)
  | none => (chars, none)

/-- A host of letters and dots, which is never read as an address. -/
def parseAuthority (scheme : String) (chars : List Char) : Option String :=
  let (host, port) := splitComponent ':' chars
  if host = [] || !host.all (fun char => char.isAlpha || char == '.') then none
  else
    let host := String.ofList (host.map Char.toLower)
    match port with
    | none => some host
    | some digits =>
        if digits = [] || digits.length > 4 || !digits.all Char.isDigit || digits.head? = some '0'
        then none
        else if some (String.ofList digits) = defaultPort scheme then some host
        else some (host ++ ":" ++ String.ofList digits)

/-- Parse a special URL made of plain characters. -/
def parsePlain (text : String) : Option Url := do
  let (rest, fragment) := splitComponent '#' text.toList
  let (rest, query) := splitComponent '?' rest
  let (scheme, rest) ← Text.splitOnceChars ':' rest
  let scheme := String.ofList (scheme.map Char.toLower)
  guard (defaultPort scheme).isSome
  let '/' :: '/' :: rest := rest | none
  let (host, path) := splitComponent '/' rest
  let authority ← parseAuthority scheme host
  guard (isPlainPath (path.getD []))
  guard ((query.getD []).all isPlain && (fragment.getD []).all isPlain)
  some {
    scheme := scheme
    authority := some authority
    path := String.ofList ('/' :: path.getD [])
    query := query.map String.ofList
    fragment := fragment.map String.ofList }

/-- Resolve an absolute-path reference. -/
def joinPath (base : Url) (reference : String) : Option Url :=
  match reference.toList with
  | '/' :: path =>
      if base.authority.isSome && isPlainPath path && path.head? != some '/' then
        some { base with path := reference, query := none, fragment := none }
      else none
  | _ => none

/-- Append one form-encoded pair to the query. -/
def appendEncodedPair (url : Url) (name value : String) : Url :=
  let pair := FormUrlEncoded.encode name ++ "=" ++ FormUrlEncoded.encode value
  match url.query with
  | none => { url with query := some pair }
  | some "" => { url with query := some pair }
  | some query => { url with query := some (query ++ "&" ++ pair) }

/-- The name-value pairs of the query. -/
def queryPairs (lossy : Text.LossyUtf8) (url : Url) : List (String × String) :=
  FormUrlEncoded.pairs lossy (url.query.getD "")

theorem queryPairs_appendEncodedPair (lossy : Text.LossyUtf8) (url : Url) (name value : String) :
    (appendEncodedPair url name value).queryPairs lossy =
      url.queryPairs lossy ++ [(name, value)] := by
  have single := FormUrlEncoded.pairs_encodePair lossy name value
  unfold appendEncodedPair queryPairs
  dsimp only
  split
  · rename_i absent
    rw [absent]
    exact single
  · rename_i empty
    rw [empty]
    exact single
  · rename_i query _ present
    rw [present]
    exact FormUrlEncoded.pairs_append lossy query name value

/-- Everything but the query. -/
def SameBase (url url' : Url) : Prop :=
  url.scheme = url'.scheme ∧ url.authority = url'.authority ∧ url.path = url'.path ∧
    url.fragment = url'.fragment

theorem sameBase_appendEncodedPair (url : Url) (name value : String) :
    (appendEncodedPair url name value).SameBase url := by
  unfold appendEncodedPair
  dsimp only
  split <;> exact ⟨rfl, rfl, rfl, rfl⟩

theorem printable_withQuery {url : Url} (printable : Text.Printable url.serialize) {query : String}
    (printableQuery : Text.Printable query) :
    Text.Printable { url with query := some query }.serialize := by
  have question : Text.Printable "?" := by decide
  simp only [serialize, Text.printable_append_iff] at printable ⊢
  obtain ⟨⟨before, -⟩, fragment⟩ := printable
  exact ⟨⟨before, Text.printable_append_iff.mpr ⟨question, printableQuery⟩⟩, fragment⟩

/-- A pair in the query brings no character that would need escaping. -/
theorem printable_appendEncodedPair {url : Url} (printable : Text.Printable url.serialize)
    (name value : String) : Text.Printable (appendEncodedPair url name value).serialize := by
  have pair : Text.Printable
      (FormUrlEncoded.encode name ++ "=" ++ FormUrlEncoded.encode value) := by
    have equals : Text.Printable "=" := by decide
    simp [FormUrlEncoded.printable_encode, equals]
  unfold appendEncodedPair
  dsimp only
  split
  · exact printable_withQuery printable pair
  · exact printable_withQuery printable pair
  · rename_i query _ present
    apply printable_withQuery printable
    have ampersand : Text.Printable "&" := by decide
    simp only [serialize, present, delimited, Text.printable_append_iff] at printable
    obtain ⟨⟨-, -, written⟩, -⟩ := printable
    simp [written, ampersand, pair]

def plainLibrary : UrlLibrary where
  parse text := (parsePlain text).elim (.error "relative URL without a base") .ok
  join := joinPath
  appendPair := appendEncodedPair

theorem plainLibrary_parse_eq_ok_iff {text : String} {url : Url} :
    plainLibrary.parse text = .ok url ↔ parsePlain text = some url := by
  cases parsed : parsePlain text <;> simp [plainLibrary, parsed]

example : (parsePlain "HTTPS://Auth.Example.com:443").map Url.serialize =
    some "https://auth.example.com/" := by decide

end Url

end Foundations
