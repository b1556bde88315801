import OpenidTlsConnector.Oidc.Client
import OpenidTlsConnector.Oidc.Code.Signature
import OpenidTlsConnector.Oidc.Storage
import OpenidTlsConnector.Oidc.Token

/-!
# The authorization code flow

`authorizationRequest` mints a signed code and `accessTokenRequest` redeems
it.  A redemption is a stateless check of the request, the consumption of the
code, the signing of two tokens and the recording of one.  It either returns,
fails with an error of the protocol, or panics; the store is threaded through.
-/

namespace OpenidTlsConnector

open Foundations

/-! ## Errors and parameters -/

inductive OIDCError where
  | invalidRequest (detail : String)
  | unauthorizedClient (detail : String)
  | accessDenied (detail : String)
  | unsupportedResponseType (detail : String)
  | invalidScope (detail : String)
  | invalidGrant (detail : String)
  | invalidClient (detail : String)
  | serverError (detail : String)
  | temporarilyUnavailable (detail : String)
  deriving DecidableEq

namespace OIDCError

/-- The `error` field of the response body. -/
def errorCode : OIDCError → String
  | .invalidRequest _ => "invalid_request"
  | .unauthorizedClient _ => "unauthorized_client"
  | .accessDenied _ => "access_denied"
  | .unsupportedResponseType _ => "unsupported_response_type"
  | .invalidScope _ => "invalid_scope"
  | .invalidGrant _ => "invalid_grant"
  | .invalidClient _ => "invalid_client"
  | .serverError _ => "server_error"
  | .temporarilyUnavailable _ => "temporarily_unavailable"

/-- The `error_description` field of the response body. -/
def message : OIDCError → String
  | .invalidRequest detail =>
      "The request is missing a required parameter, includes an invalid parameter value, " ++
        "includes a parameter more than once, or is otherwise malformed: " ++ detail
  | .unauthorizedClient detail =>
      "The client is not authorized to request an authorization code using this method: " ++ detail
  | .accessDenied detail =>
      "The resource owner or authorization server denied the request: " ++ detail
  | .unsupportedResponseType detail =>
      "The authorization server does not support obtaining an authorization code using this " ++
        "method: " ++ detail
  | .invalidScope detail => "The requested scope is invalid, unknown, or malformed: " ++ detail
  | .invalidGrant detail =>
      "The provided authorization grant or refresh token is invalid, expired, revoked, or was " ++
        "issued to another client: " ++ detail
  | .invalidClient detail => "Client authentication failed: " ++ detail
  | .serverError detail =>
      "The authorization server encountered an unexpected condition that prevented it from " ++
        "fulfilling the request: " ++ detail
  | .temporarilyUnavailable detail =>
      "The authorization server is currently unable to handle the request due to temporary " ++
        "overloading or maintenance: " ++ detail

end OIDCError

inductive ResponseType where
  | code
  deriving DecidableEq

def ResponseType.fromStr (s : String) : Except OIDCError ResponseType :=
  if s = "code" then .ok .code
  else .error (.unsupportedResponseType ("Unsupported response_type: " ++ s))

inductive GrantType where
  | authorizationCode
  deriving DecidableEq

def GrantType.fromStr (s : String) : Except OIDCError GrantType :=
  if s = "authorization_code" then .ok .authorizationCode
  else .error (.invalidRequest ("Unsupported grant_type: " ++ s))

structure TokenResponse where
  accessToken : String
  tokenType : String
  expiresIn : Nat
  idToken : String
  scope : Option String
  deriving DecidableEq

structure AuthorizationRequest where
  clientId : String
  redirectUri : String
  codeChallenge : Option String
  codeChallengeMethod : CodeChallengeMethod
  subject : String
  nonce : Option String
  groups : List String
  scope : List String

structure AccessTokenRequest where
  grantType : GrantType
  clientId : String
  clientSecret : Option String
  code : String
  redirectUri : String
  codeVerifier : Option String
  deriving DecidableEq

/-- What issuing needs besides the store, which is threaded. -/
structure TokenIssueContext where
  clients : ClientRegistry
  jwtIssuer : JwtIssuer
  idTokenTtl : Duration
  accessTokenTtl : Duration

/-- Read during one redemption: the clock, each time it is asked, and the
random bytes drawn for the `jti`. -/
structure Readings where
  verifiedAt : SystemTime
  idTokenAt : SystemTime
  accessTokenAt : SystemTime
  recordedAt : SystemTime
  jtiBytes : Fin 16 → UInt8

def mapCodeVerificationError : AuthorizationCodeVerificationError → OIDCError
  | .invalidTimestamp => .invalidGrant "Authorization code has expired"
  | .invalidSignature => .invalidGrant "Authorization code is invalid"
  | .invalidBase64Encoding | .invalidSignedDataContainerEncoding =>
      .invalidGrant "Authorization code is malformed"

def mapTokenRequestError (error : TokenRequestError) : OIDCError := .invalidGrant error.message

/-- The key a presented code string is remembered by. -/
def codeReplayKey (platform : Platform) (code : String) : String :=
  platform.urlSafeNoPad.encode (platform.hash (Text.utf8 code)).val

/-! ## Token identifiers -/

/-- Two lower-case hexadecimal digits. -/
def hexByte (byte : UInt8) : String :=
  String.ofList [Nat.digitChar (byte.toNat / 16), Nat.digitChar (byte.toNat % 16)]

/-- A version 4 UUID from sixteen random bytes. -/
def randomJti (bytes : Fin 16 → UInt8) : String :=
  let bytes := Function.update bytes 6 ((bytes 6 &&& 0x0f) ||| 0x40)
  let bytes := Function.update bytes 8 ((bytes 8 &&& 0x3f) ||| 0x80)
  let group (indices : List (Fin 16)) := String.join (indices.map fun i => hexByte (bytes i))
  "-".intercalate
    [group [0, 1, 2, 3], group [4, 5], group [6, 7], group [8, 9], group [10, 11, 12, 13, 14, 15]]

example : randomJti (fun _ => 0xff) = "ffffffff-ffff-4fff-bfff-ffffffffffff" := by decide

/-! ## The flow -/

structure OIDCAuthCodePKCEFlow where
  codeMaxAge : Duration
  hmacKey : MacKey

/-- When a code is created and when it is stamped. -/
structure MintReadings where
  createdAt : SystemTime
  stampedAt : SystemTime

/-- The code an authorization request asks for. -/
def AuthorizationRequest.toCode (req : AuthorizationRequest) (createdAt : SystemTime) :
    AuthorizationCode where
  clientId := req.clientId
  redirectUri := req.redirectUri
  codeChallenge := req.codeChallenge
  codeChallengeMethod := req.codeChallengeMethod
  timestamp := createdAt
  subject := req.subject
  nonce := req.nonce
  groups := req.groups
  scope := req.scope

namespace OIDCAuthCodePKCEFlow

def authorizationRequest (platform : Platform) (flow : OIDCAuthCodePKCEFlow)
    (req : AuthorizationRequest) (readings : MintReadings) :
    Outcome OIDCError (AuthorizationCode × String) := do
  let code := req.toCode readings.createdAt
  let encoded ← Outcome.expect
    (SignedAuthorizationCode.signAndEncode platform code flow.hmacKey readings.stampedAt)
  return (code, encoded)

/-- Everything `access_token_request` checks before it touches the store. -/
def checkTokenRequest (platform : Platform) (flow : OIDCAuthCodePKCEFlow)
    (clients : ClientRegistry) (req : AccessTokenRequest) (now : SystemTime) :
    Except OIDCError AuthorizationCode := do
  let authCode ← (SignedAuthorizationCode.decodeAndVerify platform req.code flow.hmacKey
    flow.codeMaxAge now).mapError mapCodeVerificationError
  (authCode.validateTokenRequest platform req.clientId req.redirectUri req.codeVerifier).mapError
    mapTokenRequestError
  if clients.validateRedirectUri req.clientId req.redirectUri then
    match clients.validateClientSecret req.clientId req.clientSecret with
    | .allow => .ok authCode
    | .deny => .error (.invalidClient "Client authentication failed")
  else .error (.invalidGrant "Invalid redirect_uri for this client")

/-- The ID token, then the access token. -/
def signTokens (platform : Platform) (ctx : TokenIssueContext) (clientId : String)
    (authCode : AuthorizationCode) (readings : Readings) : Outcome OIDCError (String × String) := do
  let idToken ← (ctx.jwtIssuer.issueIdToken platform authCode.subject clientId authCode.groups
    authCode.nonce ctx.idTokenTtl readings.idTokenAt).mapError fun e => .serverError e.message
  let accessToken ← (ctx.jwtIssuer.issueAccessToken platform authCode.subject clientId
    authCode.groups authCode.scope (randomJti readings.jtiBytes) ctx.accessTokenTtl
    readings.accessTokenAt).mapError fun e => .serverError e.message
  return (idToken, accessToken)

/-- Write the record that makes the access token known. -/
def recordToken (store : InMemoryTokenStore) (clientId : String) (authCode : AuthorizationCode)
    (readings : Readings) (expiresAt : SystemTime) : InMemoryTokenStore :=
  store.issue (randomJti readings.jtiBytes) authCode.subject clientId authCode.scope
    authCode.groups expiresAt

def tokenResponse (ctx : TokenIssueContext) (authCode : AuthorizationCode)
    (tokens : String × String) : TokenResponse where
  accessToken := tokens.2
  tokenType := "Bearer"
  expiresIn := ctx.accessTokenTtl.asSecs
  idToken := tokens.1
  scope := some (" ".intercalate authCode.scope)

/-- From the consumed code on: sign, record, answer. -/
def issueTokens (platform : Platform) (ctx : TokenIssueContext) (clientId : String)
    (authCode : AuthorizationCode) (readings : Readings) (store : InMemoryTokenStore) :
    Outcome OIDCError TokenResponse × InMemoryTokenStore :=
  match signTokens platform ctx clientId authCode readings with
  | .panic => (.panic, store)
  | .error error => (.error error, store)
  | .ok tokens =>
      match readings.recordedAt.checkedAdd ctx.accessTokenTtl with
      -- adding a duration to an instant panics out of range
      | none => (.panic, store)
      | some expiresAt =>
          (.ok (tokenResponse ctx authCode tokens),
            recordToken store clientId authCode readings expiresAt)

def codeAlreadyUsed : OIDCError := .invalidGrant "Authorization code has already been used"

def accessTokenRequest (platform : Platform) (flow : OIDCAuthCodePKCEFlow)
    (ctx : TokenIssueContext) (req : AccessTokenRequest) (readings : Readings)
    (store : InMemoryTokenStore) : Outcome OIDCError TokenResponse × InMemoryTokenStore :=
  match req.grantType with
  | .authorizationCode =>
      match flow.checkTokenRequest platform ctx.clients req readings.verifiedAt with
      | .error error => (.error error, store)
      | .ok authCode =>
          match store.consumeCode (codeReplayKey platform req.code) with
          | (false, store) => (.error codeAlreadyUsed, store)
          | (true, store) => issueTokens platform ctx req.clientId authCode readings store

end OIDCAuthCodePKCEFlow

end OpenidTlsConnector
