import OpenidTlsConnector.Foundations.FormUrlEncoded
import OpenidTlsConnector.Reference.Exchange

/-!
# How a client presents itself

A client sends its id and secret in a Basic header or in the form.  The form
is decoded before the handler sees it; the header holds the two form-encoded,
and the handler takes them as they stand.
-/

namespace OpenidTlsConnector

open Foundations

/-- `client_secret_basic`: both parts form-encoded, joined by a colon. -/
def basicCredentials (platform : Platform) (clientId clientSecret : String) : HeaderValue :=
  .ofString ("Basic " ++ platform.standard.encode
    (Text.utf8 (FormUrlEncoded.encode clientId ++ ":" ++ FormUrlEncoded.encode clientSecret)))

def basicHeaders (platform : Platform) (headers : HeaderMap) (clientId clientSecret : String) :
    HeaderMap :=
  headers.withAuthorization (some (basicCredentials platform clientId clientSecret))

/-- With `client_secret_basic` the form names no client. -/
def TokenParams.anonymous (params : TokenParams) : TokenParams :=
  { params with clientId := none, clientSecret := none }

/-- `client_secret_post`. -/
def TokenParams.withCredentials (params : TokenParams) (clientId clientSecret : String) :
    TokenParams :=
  { params with clientId := some clientId, clientSecret := some clientSecret }

/-- The same request, authenticated either way, is the same to the server. -/
structure MethodsAgree (platform : Platform) (state : AppState) (headers : HeaderMap)
    (params : TokenParams) (clientId clientSecret : String) : Prop where
  request : tokenRequest platform (basicHeaders platform headers clientId clientSecret)
      params.anonymous =
    tokenRequest platform (headers.withAuthorization none)
      (params.withCredentials clientId clientSecret)
  outcome : ∀ readings store,
    tokenHandler platform state (basicHeaders platform headers clientId clientSecret)
        params.anonymous readings store =
      tokenHandler platform state (headers.withAuthorization none)
        (params.withCredentials clientId clientSecret) readings store

/-- The id and the secret of a request come from the header together or from
the form together. -/
def FromOneSource (platform : Platform) (headers : HeaderMap) (params : TokenParams) : Prop :=
  ∀ req, tokenRequest platform headers params = .ok req →
    (req.clientSecret.isSome ∧
        parseBasicAuth platform headers = (some req.clientId, req.clientSecret)) ∨
      parseBasicAuth platform headers = (none, none) ∧ params.clientId = some req.clientId ∧
        params.clientSecret = req.clientSecret

variable {platform : Platform} {headers : HeaderMap} {params : TokenParams}
  {clientId clientSecret : String}

/-- The handler reads the parts of a Basic header without decoding them. -/
theorem parseBasicAuth_basicHeaders :
    parseBasicAuth platform (basicHeaders platform headers clientId clientSecret) =
      (some (FormUrlEncoded.encode clientId), some (FormUrlEncoded.encode clientSecret)) := by
  have graphic := platform.standard.graphic
    (Text.utf8 (FormUrlEncoded.encode clientId ++ ":" ++ FormUrlEncoded.encode clientSecret))
  have scheme : ∀ char ∈ "Basic ".toList, char = ' ' ∨ Text.isGraphic char = true := by
    simp [Text.isGraphic]
  have split : Text.splitOnce ':' (FormUrlEncoded.encode clientId ++ ":" ++
      FormUrlEncoded.encode clientSecret) =
        some (FormUrlEncoded.encode clientId, FormUrlEncoded.encode clientSecret) :=
    Text.splitOnce_append (FormUrlEncoded.colon_not_mem_encode clientId) _
  simp [parseBasicAuth, basicHeaders, basicCredentials,
    HeaderValue.toStr_ofString_append scheme graphic, Text.trim_eq_self graphic, split]

@[simp]
theorem parseBasicAuth_withoutAuthorization :
    parseBasicAuth platform (headers.withAuthorization none) = (none, none) := by
  simp [parseBasicAuth]

/-- A Basic header gives both parts or neither. -/
theorem parseBasicAuth_cases (platform : Platform) (headers : HeaderMap) :
    (∃ clientId clientSecret,
        parseBasicAuth platform headers = (some clientId, some clientSecret)) ∨
      parseBasicAuth platform headers = (none, none) := by
  unfold parseBasicAuth
  repeat' split
  all_goals simp

/-- The header's pair counts whenever it has one. -/
theorem fromOneSource (platform : Platform) (headers : HeaderMap) (params : TokenParams) :
    FromOneSource platform headers params := by
  intro req made
  rcases parseBasicAuth_cases platform headers with ⟨clientId, clientSecret, basic⟩ | absent
  · rw [tokenRequest_of_named (by rw [basic]; rfl)] at made
    obtain ⟨grantType, -, rfl⟩ := except_map_eq_ok_iff.mp made
    exact Or.inl (by simp [basic])
  · cases named : params.clientId with
    | none =>
        cases supported : GrantType.fromStr params.grantType <;>
          simp [tokenRequest, supported, absent, named, bind, Except.bind] at made
    | some clientId =>
        rw [tokenRequest_of_named (by rw [absent, named]; rfl)] at made
        obtain ⟨grantType, -, rfl⟩ := except_map_eq_ok_iff.mp made
        exact Or.inr (by simp [absent])

/-- What the server makes of the two ways, side by side. -/
theorem tokenRequest_basicHeaders :
    tokenRequest platform (basicHeaders platform headers clientId clientSecret) params.anonymous =
      (GrantType.fromStr params.grantType).map fun grantType => {
        grantType := grantType
        clientId := FormUrlEncoded.encode clientId
        clientSecret := some (FormUrlEncoded.encode clientSecret)
        code := params.code
        redirectUri := params.redirectUri
        codeVerifier := params.codeVerifier } := by
  rw [tokenRequest_of_named (by rw [parseBasicAuth_basicHeaders]; rfl), parseBasicAuth_basicHeaders]
  rfl

theorem tokenRequest_withCredentials :
    tokenRequest platform (headers.withAuthorization none)
        (params.withCredentials clientId clientSecret) =
      (GrantType.fromStr params.grantType).map fun grantType => {
        grantType := grantType
        clientId := clientId
        clientSecret := some clientSecret
        code := params.code
        redirectUri := params.redirectUri
        codeVerifier := params.codeVerifier } := by
  rw [tokenRequest_of_named (by rw [parseBasicAuth_withoutAuthorization]; rfl),
    parseBasicAuth_withoutAuthorization]
  rfl

/-- The requests are the same exactly when form encoding changes neither part,
or the grant type is refused before anybody looks. -/
theorem tokenRequest_eq_iff :
    tokenRequest platform (basicHeaders platform headers clientId clientSecret) params.anonymous =
        tokenRequest platform (headers.withAuthorization none)
          (params.withCredentials clientId clientSecret) ↔
      params.grantType ≠ "authorization_code" ∨
        FormUrlEncoded.encode clientId = clientId ∧
          FormUrlEncoded.encode clientSecret = clientSecret := by
  rw [tokenRequest_basicHeaders, tokenRequest_withCredentials]
  by_cases supported : params.grantType = "authorization_code" <;>
    simp [GrantType.fromStr, supported, Except.map]

/-- Basic credentials and form credentials are interchangeable exactly for ids
and secrets of unreserved characters; the sources are never mixed. -/
theorem methodsAgree_iff (platform : Platform) (state : AppState) (headers : HeaderMap)
    (params : TokenParams) (clientId clientSecret : String) :
    (MethodsAgree platform state headers params clientId clientSecret ∧
        ∀ anyHeaders anyParams, FromOneSource platform anyHeaders anyParams) ↔
      params.grantType ≠ "authorization_code" ∨
        (∀ char ∈ clientId.toList, FormUrlEncoded.isUnreserved char = true) ∧
          ∀ char ∈ clientSecret.toList, FormUrlEncoded.isUnreserved char = true := by
  rw [← FormUrlEncoded.encode_eq_self_iff, ← FormUrlEncoded.encode_eq_self_iff,
    ← tokenRequest_eq_iff]
  constructor
  · rintro ⟨agree, -⟩
    exact agree.request
  · intro same
    refine ⟨⟨same, fun readings store => ?_⟩, fromOneSource platform⟩
    rw [tokenHandler, tokenHandler, same]

/-- A space in a secret arrives as a plus sign. -/
theorem not_methodsAgree_of_space :
    ¬ MethodsAgree Reference.platform Reference.state Reference.noHeaders
      (Reference.tokenParams "code" "https://backend.example/cb" none) "backend" "s3 cr3t" := by
  intro agree
  rcases tokenRequest_eq_iff.mp agree.request with unsupported | ⟨-, unchanged⟩
  · exact unsupported rfl
  · revert unchanged
    decide

end OpenidTlsConnector
