import OpenidTlsConnector.Foundations.Forms
import OpenidTlsConnector.Oidc.Router

/-!
# What travels

Parameters arrive as the pairs of a query or a form, and answers leave as JSON.
The derived decoders take the fields they know in any order and skip the
others, so what they accept is a permutation of the fields they would write.
-/

namespace OpenidTlsConnector

open Foundations

/-! ## Parameters -/

/-- A field of text that has to be there. -/
def textField (fields : Fields String) (name : String) : Option String :=
  fields.required name some

/-- A field of text that may be left out. -/
def optionalTextField (fields : Fields String) (name : String) : Option (Option String) :=
  fields.optional name fun value => some (some value)

namespace AuthorizeParams

def deserialize (fields : Fields String) : Option AuthorizeParams := do
  let responseType ← textField fields "response_type"
  let clientId ← textField fields "client_id"
  let redirectUri ← textField fields "redirect_uri"
  let scope ← optionalTextField fields "scope"
  let state ← optionalTextField fields "state"
  let codeChallenge ← optionalTextField fields "code_challenge"
  let codeChallengeMethod ← optionalTextField fields "code_challenge_method"
  let nonce ← optionalTextField fields "nonce"
  some {
    responseType := responseType
    clientId := clientId
    redirectUri := redirectUri
    scope := scope
    state := state
    codeChallenge := codeChallenge
    codeChallengeMethod := codeChallengeMethod
    nonce := nonce }

/-- The fields under their names. -/
def entries (params : AuthorizeParams) : List (String × Option String) := [
  ("response_type", some params.responseType),
  ("client_id", some params.clientId),
  ("redirect_uri", some params.redirectUri),
  ("scope", params.scope),
  ("state", params.state),
  ("code_challenge", params.codeChallenge),
  ("code_challenge_method", params.codeChallengeMethod),
  ("nonce", params.nonce)]

theorem entries_distinct (params : AuthorizeParams) : (params.entries.map Prod.fst).Nodup := by
  simp [entries]

/-- What a client sends. -/
def toFields (params : AuthorizeParams) : Fields String := Fields.present params.entries

theorem deserialize_eq_some_iff {fields : Fields String} {params : AuthorizeParams} :
    deserialize fields = some params ↔
      ∀ named ∈ params.entries, fields.entry named.1 = some named.2 := by
  simp only [deserialize, textField, optionalTextField, Option.bind_eq_bind,
    Option.bind_eq_some_iff, Fields.required_some_iff, Fields.optional_some_iff, entries,
    List.forall_mem_cons, List.not_mem_nil, false_imp_iff, implies_true, and_true,
    Option.some.injEq]
  constructor
  · intro read
    obtain ⟨_, responseType, _, clientId, _, redirectUri, _, scope, _, state, _, codeChallenge, _,
      codeChallengeMethod, _, nonce, rfl⟩ := read
    exact ⟨responseType, clientId, redirectUri, scope, state, codeChallenge, codeChallengeMethod,
      nonce⟩
  · intro found
    obtain ⟨responseType, clientId, redirectUri, scope, state, codeChallenge, codeChallengeMethod,
      nonce⟩ := found
    exact ⟨_, responseType, _, clientId, _, redirectUri, _, scope, _, state, _, codeChallenge, _,
      codeChallengeMethod, _, nonce, rfl⟩

/-- A client that spells its parameters out is understood. -/
theorem deserialize_serialize (lossy : Text.LossyUtf8) (params : AuthorizeParams) :
    deserialize (FormUrlEncoded.pairs lossy (FormUrlEncoded.serialize params.toFields)) =
      some params := by
  rw [FormUrlEncoded.pairs_serialize, deserialize_eq_some_iff]
  exact fun named membership => Fields.entry_present params.entries_distinct membership

end AuthorizeParams

namespace TokenParams

def deserialize (fields : Fields String) : Option TokenParams := do
  let grantType ← textField fields "grant_type"
  let code ← textField fields "code"
  let redirectUri ← textField fields "redirect_uri"
  let codeVerifier ← optionalTextField fields "code_verifier"
  let clientId ← optionalTextField fields "client_id"
  let clientSecret ← optionalTextField fields "client_secret"
  some {
    grantType := grantType
    code := code
    redirectUri := redirectUri
    codeVerifier := codeVerifier
    clientId := clientId
    clientSecret := clientSecret }

/-- The fields under their names. -/
def entries (params : TokenParams) : List (String × Option String) := [
  ("grant_type", some params.grantType),
  ("code", some params.code),
  ("redirect_uri", some params.redirectUri),
  ("code_verifier", params.codeVerifier),
  ("client_id", params.clientId),
  ("client_secret", params.clientSecret)]

theorem entries_distinct (params : TokenParams) : (params.entries.map Prod.fst).Nodup := by
  simp [entries]

/-- What a client sends. -/
def toFields (params : TokenParams) : Fields String := Fields.present params.entries

theorem deserialize_eq_some_iff {fields : Fields String} {params : TokenParams} :
    deserialize fields = some params ↔
      ∀ named ∈ params.entries, fields.entry named.1 = some named.2 := by
  simp only [deserialize, textField, optionalTextField, Option.bind_eq_bind,
    Option.bind_eq_some_iff, Fields.required_some_iff, Fields.optional_some_iff, entries,
    List.forall_mem_cons, List.not_mem_nil, false_imp_iff, implies_true, and_true,
    Option.some.injEq]
  constructor
  · intro read
    obtain ⟨_, grantType, _, code, _, redirectUri, _, codeVerifier, _, clientId, _, clientSecret,
      rfl⟩ := read
    exact ⟨grantType, code, redirectUri, codeVerifier, clientId, clientSecret⟩
  · intro found
    obtain ⟨grantType, code, redirectUri, codeVerifier, clientId, clientSecret⟩ := found
    exact ⟨_, grantType, _, code, _, redirectUri, _, codeVerifier, _, clientId, _, clientSecret,
      rfl⟩

/-- A client that spells its parameters out is understood. -/
theorem deserialize_serialize (lossy : Text.LossyUtf8) (params : TokenParams) :
    deserialize (FormUrlEncoded.pairsOfBytes lossy
      (Text.utf8 (FormUrlEncoded.serialize params.toFields))) = some params := by
  rw [FormUrlEncoded.pairsOfBytes_utf8, FormUrlEncoded.pairs_serialize, deserialize_eq_some_iff]
  exact fun named membership => Fields.entry_present params.entries_distinct membership

end TokenParams

/-- The parameters of both endpoints are read from exactly the queries and
forms whose pairs, unknown names left out, are the written fields in some
order; one that spells the fields out is read back as it was. -/
theorem deserialize_pairs_iff_perm (lossy : Text.LossyUtf8) :
    (∀ query params, AuthorizeParams.deserialize (FormUrlEncoded.pairs lossy query) = some params ↔
      ((FormUrlEncoded.pairs lossy query).filter fun field =>
        field.1 ∈ params.entries.map Prod.fst).Perm params.toFields) ∧
    (∀ form params, TokenParams.deserialize (FormUrlEncoded.pairsOfBytes lossy form) = some params ↔
      ((FormUrlEncoded.pairsOfBytes lossy form).filter fun field =>
        field.1 ∈ params.entries.map Prod.fst).Perm params.toFields) ∧
    (∀ params : AuthorizeParams, AuthorizeParams.deserialize (FormUrlEncoded.pairs lossy
      (FormUrlEncoded.serialize params.toFields)) = some params) ∧
    ∀ params : TokenParams, TokenParams.deserialize (FormUrlEncoded.pairsOfBytes lossy
      (Text.utf8 (FormUrlEncoded.serialize params.toFields))) = some params := by
  refine ⟨?_, ?_, AuthorizeParams.deserialize_serialize lossy,
    TokenParams.deserialize_serialize lossy⟩
  · intro query params
    rw [AuthorizeParams.deserialize_eq_some_iff]
    exact Fields.forall_entry_iff_perm params.entries_distinct
  · intro form params
    rw [TokenParams.deserialize_eq_some_iff]
    exact Fields.forall_entry_iff_perm params.entries_distinct

/-! ## Answers -/

def ErrorReply.toJson (reply : ErrorReply) : Json :=
  .object (("error", .string reply.error) ::
    skipIfNone "error_description" (reply.errorDescription.map .string))

namespace TokenResponse

def toJson (response : TokenResponse) : Json :=
  .object [
    ("access_token", .string response.accessToken),
    ("token_type", .string response.tokenType),
    ("expires_in", .number response.expiresIn),
    ("id_token", .string response.idToken),
    ("scope", (response.scope.map .string).getD .null)]

theorem toJson_injective : Function.Injective toJson := by
  intro first second same
  obtain ⟨accessToken, tokenType, expiresIn, idToken, scope⟩ := first
  obtain ⟨accessToken', tokenType', expiresIn', idToken', scope'⟩ := second
  cases scope <;> cases scope' <;> simp_all [toJson]

end TokenResponse

def UserInfo.toJson (info : UserInfo) : Json :=
  .object [
    ("sub", .string info.sub),
    ("groups", .strings info.groups),
    ("scope", .strings info.scope),
    ("client_id", .string info.clientId)]

def OIDCDiscovery.toJson (discovery : OIDCDiscovery) : Json :=
  .object [
    ("issuer", .string discovery.issuer),
    ("authorization_endpoint", .string discovery.authorizationEndpoint),
    ("token_endpoint", .string discovery.tokenEndpoint),
    ("userinfo_endpoint", .string discovery.userinfoEndpoint),
    ("jwks_uri", .string discovery.jwksUri),
    ("scopes_supported", .strings discovery.scopesSupported),
    ("response_types_supported", .strings discovery.responseTypesSupported),
    ("grant_types_supported", .strings discovery.grantTypesSupported),
    ("subject_types_supported", .strings discovery.subjectTypesSupported),
    ("id_token_signing_alg_values_supported", .strings discovery.idTokenSigningAlgValuesSupported),
    ("code_challenge_methods_supported", .strings discovery.codeChallengeMethodsSupported)]

end OpenidTlsConnector
