import OpenidTlsConnector.Oidc.Discovery
import OpenidTlsConnector.Oidc.Protocol
import OpenidTlsConnector.Users

/-!
# The endpoints

A handler turns headers and parameters into a call of the flow.  Extraction
of the parameters from the query or the form has happened; the clock and the
randomness a handler reads come with the request.
-/

namespace OpenidTlsConnector

open Foundations

/-! ## Headers and replies -/

structure HeaderValue where
  bytes : List UInt8

namespace HeaderValue

def isVisibleAscii (byte : UInt8) : Bool :=
  (0x20 ≤ byte && byte < 0x7F) || byte == 0x09

def toStr (value : HeaderValue) : Option String :=
  if value.bytes.all isVisibleAscii then Text.fromUtf8 value.bytes else none

def ofString (text : String) : HeaderValue := { bytes := Text.utf8 text }

/-- A text of visible ASCII characters and spaces survives as a header value. -/
theorem toStr_ofString {text : String}
    (visible : ∀ char ∈ text.toList, char = ' ' ∨ Text.isGraphic char = true) :
    (ofString text).toStr = some text := by
  have range : ∀ char ∈ text.toList, 0x20 ≤ char.toNat ∧ char.toNat < 0x7F := by
    intro char membership
    rcases visible char membership with rfl | graphic
    · decide
    · simp only [Text.isGraphic, Bool.and_eq_true, decide_eq_true_eq] at graphic
      omega
  have ascii : ∀ char ∈ text.toList, char.toNat < 128 := fun char membership => by
    have := range char membership
    omega
  have all : (Text.utf8 text).all isVisibleAscii = true := by
    rw [Text.utf8_of_ascii ascii, List.all_map, List.all_eq_true]
    intro char membership
    obtain ⟨low, high⟩ := range char membership
    simp [isVisibleAscii, UInt8.le_iff_toNat_le, UInt8.lt_iff_toNat_lt,
      Nat.mod_eq_of_lt (by omega : char.toNat < 256), low, high]
  simp [toStr, ofString, all]

/-- So do credentials behind the name of their scheme. -/
theorem toStr_ofString_append {scheme credentials : String}
    (visible : ∀ char ∈ scheme.toList, char = ' ' ∨ Text.isGraphic char = true)
    (graphic : ∀ char ∈ credentials.toList, Text.isGraphic char = true) :
    (ofString (scheme ++ credentials)).toStr = some (scheme ++ credentials) := by
  refine toStr_ofString fun char membership => ?_
  rw [String.toList_append, List.mem_append] at membership
  rcases membership with inScheme | inCredentials
  · exact visible char inScheme
  · exact Or.inr (graphic char inCredentials)

end HeaderValue

/-- The first value under each lower-case name. -/
structure HeaderMap where
  get : String → Option HeaderValue

namespace HeaderMap

/-- The header as text, if it is there and printable.  Names are looked up
without regard to case. -/
def text (headers : HeaderMap) (name : String) : Option String :=
  (headers.get (String.ofList (name.toList.map Char.toLower))).bind HeaderValue.toStr

/-- The same headers with another `Authorization`. -/
def withAuthorization (headers : HeaderMap) (value : Option HeaderValue) : HeaderMap where
  get := Function.update headers.get "authorization" value

@[simp]
theorem text_withAuthorization (headers : HeaderMap) (value : Option HeaderValue) :
    (headers.withAuthorization value).text "authorization" = value.bind HeaderValue.toStr := by
  simp [text, withAuthorization]

end HeaderMap

structure ErrorReply where
  status : Nat
  error : String
  errorDescription : Option String
  deriving DecidableEq

def statusForError : OIDCError → Nat
  | .accessDenied _ => 403
  | .invalidClient _ => 401
  | .serverError _ => 500
  | .temporarilyUnavailable _ => 503
  | _ => 400

def OIDCError.intoResponse (error : OIDCError) : ErrorReply where
  status := statusForError error
  error := error.errorCode
  errorDescription := some error.message

def unauthenticatedError (description : String) : ErrorReply where
  status := 401
  error := "invalid_token"
  errorDescription := some description

/-! ## State and parameters -/

/-- What the handlers share, except the token store. -/
structure AppState where
  flow : OIDCAuthCodePKCEFlow
  jwtIssuer : JwtIssuer
  clients : ClientRegistry
  userManager : UserManager
  discoveryManager : DiscoveryManager
  userHeader : String
  idTokenTtl : Duration
  accessTokenTtl : Duration
  defaultGroups : List String

def AppState.tokenContext (state : AppState) : TokenIssueContext where
  clients := state.clients
  jwtIssuer := state.jwtIssuer
  idTokenTtl := state.idTokenTtl
  accessTokenTtl := state.accessTokenTtl

structure AuthorizeParams where
  responseType : String
  clientId : String
  redirectUri : String
  scope : Option String
  state : Option String
  codeChallenge : Option String
  codeChallengeMethod : Option String
  nonce : Option String

structure TokenParams where
  grantType : String
  code : String
  redirectUri : String
  codeVerifier : Option String
  clientId : Option String
  clientSecret : Option String

def discoveryHandler (state : AppState) : OIDCDiscovery := state.discoveryManager.getDiscoveryInfo

/-! ## `/authorize` -/

def parseChallengeMethod : Option String → Except OIDCError CodeChallengeMethod
  | some "S256" => .ok .s256
  | some "plain" => .ok .plain
  | none => .ok .plain
  | some other => .error (.invalidRequest ("Unsupported code_challenge_method: " ++ other))

/-- The checks of the handler, and the authorization request it makes. -/
def checkAuthorize (platform : Platform) (state : AppState) (headers : HeaderMap)
    (params : AuthorizeParams) : Outcome OIDCError AuthorizationRequest := do
  let _ ← Outcome.ofExcept (ResponseType.fromStr params.responseType)
  let codeChallengeMethod ← Outcome.ofExcept (parseChallengeMethod params.codeChallengeMethod)
  let client ← Outcome.okOr (state.clients.findById params.clientId)
    (.unauthorizedClient ("Unknown client_id: " ++ params.clientId))
  if state.clients.validateRedirectUri params.clientId params.redirectUri then
    let headerValue ← Outcome.okOr (headers.text state.userHeader)
      (.accessDenied ("Missing required header: " ++ state.userHeader))
    let user ← (state.userManager.resolve platform headerValue).mapError fun e =>
      .accessDenied ("Failed to resolve user: " ++ e.message)
    return {
      clientId := params.clientId
      redirectUri := params.redirectUri
      codeChallenge := params.codeChallenge
      codeChallengeMethod := codeChallengeMethod
      subject := user.subject
      nonce := params.nonce
      groups := resolveGroups client.groups state.defaultGroups
      scope := (params.scope.map Text.splitWhitespace).getD [] }
  else .error (.invalidRequest "Invalid redirect_uri for this client")

/-- The authorization request made for a client and a user. -/
def AuthorizeParams.request (params : AuthorizeParams) (state : AppState)
    (method : CodeChallengeMethod) (client : ClientConfig) (user : User) :
    AuthorizationRequest where
  clientId := params.clientId
  redirectUri := params.redirectUri
  codeChallenge := params.codeChallenge
  codeChallengeMethod := method
  subject := user.subject
  nonce := params.nonce
  groups := resolveGroups client.groups state.defaultGroups
  scope := (params.scope.map Text.splitWhitespace).getD []

/-- Everything an accepted `/authorize` request has passed. -/
theorem checkAuthorize_eq_ok_iff {platform : Platform} {state : AppState} {headers : HeaderMap}
    {params : AuthorizeParams} {req : AuthorizationRequest} :
    checkAuthorize platform state headers params = .ok req ↔
      params.responseType = "code" ∧
        ∃ method client headerValue user,
          parseChallengeMethod params.codeChallengeMethod = .ok method ∧
          state.clients.findById params.clientId = some client ∧
          params.redirectUri ∈ client.redirectUris ∧
          headers.text state.userHeader = some headerValue ∧
          state.userManager.resolve platform headerValue = .ok user ∧
          params.request state method client user = req := by
  have responseType : (∃ type, ResponseType.fromStr params.responseType = .ok type) ↔
      params.responseType = "code" := by
    by_cases code : params.responseType = "code"
    · simpa [ResponseType.fromStr, code] using ⟨ResponseType.code⟩
    · simp [ResponseType.fromStr, code]
  simp only [checkAuthorize, Outcome.bind_eq_ok_iff, Outcome.ofExcept_eq_ok_iff,
    Outcome.okOr_eq_ok_iff]
  constructor
  · rintro ⟨type, typed, method, parsed, client, found, accepted⟩
    split_ifs at accepted with registered
    simp only [Outcome.bind_eq_ok_iff, Outcome.okOr_eq_ok_iff, Outcome.mapError_eq_ok_iff,
      Outcome.pure_eq, Outcome.ok.injEq] at accepted
    obtain ⟨headerValue, present, user, resolved, made⟩ := accepted
    obtain ⟨holder, isHolder, membership⟩ :=
      (state.clients.validateRedirectUri_iff _ _).mp registered
    rw [found] at isHolder
    cases isHolder
    exact ⟨responseType.mp ⟨type, typed⟩, method, client, headerValue, user, parsed, found,
      membership, present, resolved, made⟩
  · rintro ⟨code, method, client, headerValue, user, parsed, found, membership, present, resolved,
      made⟩
    obtain ⟨type, typed⟩ := responseType.mpr code
    refine ⟨type, typed, method, parsed, client, found, ?_⟩
    rw [if_pos ((state.clients.validateRedirectUri_iff _ _).mpr ⟨client, found, membership⟩)]
    simp only [Outcome.bind_eq_ok_iff, Outcome.okOr_eq_ok_iff, Outcome.mapError_eq_ok_iff,
      Outcome.pure_eq, Outcome.ok.injEq]
    exact ⟨headerValue, present, user, resolved, made⟩

/-- The URL the user agent is sent to. -/
def redirectLocation (platform : Platform) (params : AuthorizeParams) (encodedCode : String) :
    Except OIDCError String := do
  let redirectUrl ← (platform.url.parse params.redirectUri).mapError fun e =>
    .serverError ("Invalid redirect_uri: " ++ e)
  let redirectUrl := platform.url.appendPair redirectUrl "code" encodedCode
  let redirectUrl := match params.state with
    | some stateVal => platform.url.appendPair redirectUrl "state" stateVal
    | none => redirectUrl
  return redirectUrl.serialize

def authorizeHandler (platform : Platform) (state : AppState) (headers : HeaderMap)
    (params : AuthorizeParams) (readings : MintReadings) : Outcome OIDCError String := do
  let req ← checkAuthorize platform state headers params
  let (_, encodedCode) ← state.flow.authorizationRequest platform req readings
  Outcome.ofExcept (redirectLocation platform params encodedCode)

/-- A redirect carries the code minted for an accepted request. -/
theorem authorizeHandler_eq_ok_iff {platform : Platform} {state : AppState} {headers : HeaderMap}
    {params : AuthorizeParams} {readings : MintReadings} {location : String} :
    authorizeHandler platform state headers params readings = .ok location ↔
      ∃ req minted, checkAuthorize platform state headers params = .ok req ∧
        state.flow.authorizationRequest platform req readings = .ok minted ∧
        redirectLocation platform params minted.2 = .ok location := by
  simp only [authorizeHandler, Outcome.bind_eq_ok_iff, Outcome.ofExcept_eq_ok_iff]
  constructor
  · rintro ⟨req, checked, minted, made, sent⟩
    exact ⟨req, minted, checked, made, sent⟩
  · rintro ⟨req, minted, checked, made, sent⟩
    exact ⟨req, checked, minted, made, sent⟩

/-! ## `/token` -/

/-- The id and secret of a Basic header, both absent when there is no such
header or it cannot be decoded. -/
def parseBasicAuth (platform : Platform) (headers : HeaderMap) : Option String × Option String :=
  match headers.text "authorization" with
  | none => (none, none)
  | some header =>
      match (Text.stripPrefix "Basic " header).or (Text.stripPrefix "basic " header) with
      | none => (none, none)
      | some encoded =>
          match platform.standard.decode (Text.trim encoded) with
          | none => (none, none)
          | some decoded =>
              match Text.fromUtf8 decoded with
              | none => (none, none)
              | some decodedStr =>
                  match Text.splitOnce ':' decodedStr with
                  | none => (none, none)
                  | some (id, secret) => (some id, some secret)

/-- The access token request the handler makes. -/
def tokenRequest (platform : Platform) (headers : HeaderMap) (params : TokenParams) :
    Except OIDCError AccessTokenRequest := do
  let grantType ← GrantType.fromStr params.grantType
  let (basicClientId, basicClientSecret) := parseBasicAuth platform headers
  match basicClientId.or params.clientId with
  | none => .error (.invalidRequest "Missing client_id")
  | some clientId =>
      .ok {
        grantType := grantType
        clientId := clientId
        clientSecret := basicClientSecret.or params.clientSecret
        code := params.code
        redirectUri := params.redirectUri
        codeVerifier := params.codeVerifier }

/-- When somebody names a client, only the grant type is still in question. -/
theorem tokenRequest_of_named {platform : Platform} {headers : HeaderMap} {params : TokenParams}
    {clientId : String}
    (named : (parseBasicAuth platform headers).1.or params.clientId = some clientId) :
    tokenRequest platform headers params =
      (GrantType.fromStr params.grantType).map fun grantType => {
        grantType := grantType
        clientId := clientId
        clientSecret := (parseBasicAuth platform headers).2.or params.clientSecret
        code := params.code
        redirectUri := params.redirectUri
        codeVerifier := params.codeVerifier } := by
  cases supported : GrantType.fromStr params.grantType <;>
    simp [tokenRequest, supported, named, bind, Except.bind, Except.map]

def tokenHandler (platform : Platform) (state : AppState) (headers : HeaderMap)
    (params : TokenParams) (readings : Readings) (store : InMemoryTokenStore) :
    Outcome OIDCError TokenResponse × InMemoryTokenStore :=
  match tokenRequest platform headers params with
  | .error error => (.error error, store)
  | .ok req => state.flow.accessTokenRequest platform state.tokenContext req readings store

/-! ## `/userinfo` -/

structure UserInfo where
  sub : String
  groups : List String
  scope : List String
  clientId : String
  deriving DecidableEq

def bearerToken (headers : HeaderMap) : Except ErrorReply String :=
  match headers.text "authorization" with
  | none => .error (unauthenticatedError "Missing Authorization header")
  | some authHeader =>
      match Text.stripPrefix "Bearer " authHeader with
      | none => .error (unauthenticatedError "Authorization header must use Bearer scheme")
      | some token => .ok token

/-- A printable token arrives as it was sent. -/
theorem bearerToken_withAuthorization (headers : HeaderMap) {token : String}
    (graphic : ∀ char ∈ token.toList, Text.isGraphic char = true) :
    bearerToken (headers.withAuthorization (some (.ofString ("Bearer " ++ token)))) =
      .ok token := by
  have scheme : ∀ char ∈ "Bearer ".toList, char = ' ' ∨ Text.isGraphic char = true := by
    simp [Text.isGraphic]
  simp [bearerToken, HeaderValue.toStr_ofString_append scheme graphic]

def verifyBearerToken (state : AppState) (headers : HeaderMap) (clock : SystemTime) :
    Except ErrorReply AccessTokenClaims := do
  let token ← bearerToken headers
  match state.jwtIssuer.verifyAccessToken token clock with
  | some claims => .ok claims
  | none => .error (unauthenticatedError "Invalid or expired access token")

def userinfoHandler (state : AppState) (headers : HeaderMap) (clock : SystemTime)
    (store : InMemoryTokenStore) : Except ErrorReply UserInfo := do
  let claims ← verifyBearerToken state headers clock
  match store.lookup claims.jti with
  | none => .error (unauthenticatedError "Token has been revoked or is unknown")
  | some record =>
      .ok {
        sub := record.subject
        groups := record.groups
        scope := record.scope
        clientId := record.clientId }

def TokenRecord.userInfo (record : TokenRecord) : UserInfo where
  sub := record.subject
  groups := record.groups
  scope := record.scope
  clientId := record.clientId

/-- An answer needs a bearer token that verifies and a record under its `jti`,
and comes from the record. -/
theorem userinfoHandler_eq_ok_iff {state : AppState} {headers : HeaderMap} {clock : SystemTime}
    {store : InMemoryTokenStore} {info : UserInfo} :
    userinfoHandler state headers clock store = .ok info ↔
      ∃ token claims record, bearerToken headers = .ok token ∧
        state.jwtIssuer.verifyAccessToken token clock = some claims ∧
        store.lookup claims.jti = some record ∧ record.userInfo = info := by
  simp only [userinfoHandler, verifyBearerToken, except_bind_eq_ok_iff]
  constructor
  · rintro ⟨claims, ⟨token, presented, verified⟩, answered⟩
    split at verified
    · rename_i found accepted
      cases verified
      split at answered
      · cases answered
      · rename_i record recorded
        exact ⟨token, claims, record, presented, accepted, recorded, Except.ok.inj answered⟩
    · cases verified
  · rintro ⟨token, claims, record, presented, verified, recorded, rfl⟩
    exact ⟨claims, ⟨token, presented, by rw [verified]⟩, by rw [recorded]; rfl⟩

end OpenidTlsConnector
