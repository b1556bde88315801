import OpenidTlsConnector.Reference.Platform
import OpenidTlsConnector.Server.Minting

/-!
# A sample exchange

The user alice, the public client and the small deployment: an authorization,
the code it mints, and the redemption of any text that decodes to that code.
-/

namespace OpenidTlsConnector.Reference

open Foundations

/-- The proxy's header for the user alice. -/
def userHeaders : HeaderMap where
  get name := if name = "x-client-cert-subject" then some (.ofString "CN=alice,O=Example") else none

/-- A request of the public client, with or without a challenge. -/
def authorizeParams (codeChallenge : Option String) (redirectUri : String) : AuthorizeParams where
  responseType := "code"
  clientId := "spa"
  redirectUri := redirectUri
  scope := some "openid profile"
  state := some "xyz"
  codeChallenge := codeChallenge
  codeChallengeMethod := none
  nonce := some "n-0S6"

def authorization (codeChallenge : Option String) (redirectUri : String) :
    AuthorizationRequest where
  clientId := "spa"
  redirectUri := redirectUri
  codeChallenge := codeChallenge
  codeChallengeMethod := .plain
  subject := "alice"
  nonce := some "n-0S6"
  groups := ["authenticated", "spa-users"]
  scope := ["openid", "profile"]

theorem checkAuthorize_sample (codeChallenge : Option String) {redirectUri : String}
    (registered : redirectUri ∈ publicClient.redirectUris) :
    checkAuthorize platform state userHeaders (authorizeParams codeChallenge redirectUri) =
      .ok (authorization codeChallenge redirectUri) := by
  have found : state.clients.findById "spa" = some publicClient := by decide
  have groups : resolveGroups publicClient.groups state.defaultGroups =
      ["authenticated", "spa-users"] := by decide
  have scope : Text.splitWhitespace "openid profile" = ["openid", "profile"] := by decide
  refine checkAuthorize_eq_ok_iff.mpr ⟨rfl, .plain, publicClient, "CN=alice,O=Example",
    { subject := "alice", rawDn := "CN=alice,O=Example" }, rfl, found, registered, by decide,
    by decide, ?_⟩
  simp [AuthorizeParams.request, authorizeParams, authorization, groups, scope]

/-- The code is created and stamped at `second`. -/
def stamps (second : UInt32) : MintReadings where
  createdAt := clock second
  stampedAt := clock second

/-- The redemption happens at `second` and draws `byte`. -/
def readings (second : UInt32) (byte : UInt8) : Readings where
  verifiedAt := clock second
  idTokenAt := clock second
  accessTokenAt := clock second
  recordedAt := clock second
  jtiBytes _ := byte

/-- The bytes under the MAC. -/
def signedData (req : AuthorizationRequest) (second : UInt32) : List UInt8 :=
  ((TimestampedContainer.new (req.toCode (clock second)) (clock second)).serialize platform).getD []

theorem serialize_sample (req : AuthorizationRequest) (second : UInt32) :
    (TimestampedContainer.new (req.toCode (clock second)) (clock second)).serialize platform =
      some (signedData req second) := by
  have afterEpoch : 0 ≤ (clock second).nanos := by
    simp only [clock, nanosPerSecond]
    omega
  obtain ⟨data, serialized⟩ := (TimestampedContainer.serialize_isSome_iff platform
    (.new (req.toCode (clock second)) (clock second))).mpr ⟨afterEpoch, afterEpoch⟩
  simp [signedData, serialized]

def signedCode (req : AuthorizationRequest) (second : UInt32) : SignedAuthorizationCode where
  data := signedData req second
  signature := platform.keyedHash flow.hmacKey (signedData req second)

/-- The code string as the server spells it. -/
def code (req : AuthorizationRequest) (second : UInt32) : String :=
  (signedCode req second).encode platform

theorem authorizationRequest_sample (req : AuthorizationRequest) (second : UInt32) :
    flow.authorizationRequest platform req (stamps second) =
      .ok (req.toCode (clock second), code req second) := by
  simp [OIDCAuthCodePKCEFlow.authorizationRequest, SignedAuthorizationCode.signAndEncode, stamps,
    serialize_sample, Outcome.expect, code, signedCode]

/-- The public client asks for tokens. -/
def redeem (code redirectUri : String) (codeVerifier : Option String) : AccessTokenRequest where
  grantType := .authorizationCode
  clientId := "spa"
  clientSecret := none
  code := code
  redirectUri := redirectUri
  codeVerifier := codeVerifier

/-- The same request in a form, without any header. -/
def tokenParams (code redirectUri : String) (codeVerifier : Option String) : TokenParams where
  grantType := "authorization_code"
  code := code
  redirectUri := redirectUri
  codeVerifier := codeVerifier
  clientId := some "spa"
  clientSecret := none

def noHeaders : HeaderMap where
  get _ := none

theorem decodeAndVerify_sample {req : AuthorizationRequest} {text : String}
    (decoded : SignedAuthorizationCode.decode platform text = .ok (signedCode req 1700000000)) :
    SignedAuthorizationCode.decodeAndVerify platform text flow.hmacKey flow.codeMaxAge
      (clock 1700000010) = .ok (req.toCode (clock 1700000000)) :=
  SignedAuthorizationCode.decodeAndVerify_of_signed (serialize_sample _ _) decoded (by decide)
    (by decide)

/-- Every text that decodes to the signed code passes the check. -/
theorem checkTokenRequest_sample {codeChallenge : Option String} {redirectUri text : String}
    (registered : redirectUri ∈ publicClient.redirectUris)
    (decoded : SignedAuthorizationCode.decode platform text =
      .ok (signedCode (authorization codeChallenge redirectUri) 1700000000)) :
    flow.checkTokenRequest platform clients (redeem text redirectUri codeChallenge)
      (clock 1700000010) =
        .ok ((authorization codeChallenge redirectUri).toCode (clock 1700000000)) := by
  have found : clients.findById "spa" = some publicClient := by decide
  have matched : ((authorization codeChallenge redirectUri).toCode
      (clock 1700000000)).validateTokenRequest platform "spa" redirectUri codeChallenge =
        .ok () := by
    refine (AuthorizationCode.validateTokenRequest_eq_ok_iff _ _ _ _ _).mpr ⟨rfl, rfl, ?_⟩
    cases codeChallenge with
    | none => exact Or.inl rfl
    | some challenge => exact Or.inr ⟨challenge, challenge, rfl, rfl, by simp [verifyPkce,
        AuthorizationRequest.toCode, authorization]⟩
  exact checkTokenRequest_eq_ok_iff.mpr ⟨decodeAndVerify_sample decoded, matched,
    (clients.validateRedirectUri_iff _ _).mpr ⟨publicClient, found, registered⟩,
    (clients.validateClientSecret_eq_allow_iff _ _).mpr ⟨publicClient, found, Or.inl rfl⟩⟩

/-- And is redeemed, as long as nobody has presented that text before. -/
theorem redeem_sample {issuer : String} {codeChallenge : Option String} {redirectUri text : String}
    {store : InMemoryTokenStore} (byte : UInt8)
    (registered : redirectUri ∈ publicClient.redirectUris)
    (decoded : SignedAuthorizationCode.decode platform text =
      .ok (signedCode (authorization codeChallenge redirectUri) 1700000000))
    (unused : codeReplayKey platform text ∉ store.consumedCodes) :
    ∃ tokens expiresAt, flow.accessTokenRequest platform (stateFor issuer).tokenContext
        (redeem text redirectUri codeChallenge) (readings 1700000010 byte) store =
      (.ok (OIDCAuthCodePKCEFlow.tokenResponse (stateFor issuer).tokenContext
        ((authorization codeChallenge redirectUri).toCode (clock 1700000000)) tokens),
        OIDCAuthCodePKCEFlow.recordToken (store.consumeCode (codeReplayKey platform text)).2 "spa"
          ((authorization codeChallenge redirectUri).toCode (clock 1700000000))
          (readings 1700000010 byte) expiresAt) := by
  obtain ⟨tokens, signed⟩ : ∃ tokens, OIDCAuthCodePKCEFlow.signTokens platform
      (stateFor issuer).tokenContext "spa" ((authorization codeChallenge redirectUri).toCode (clock 1700000000))
      (readings 1700000010 byte) = .ok tokens :=
    exists_signTokens (fun _ claims => ⟨sign claims, rfl⟩)
      (by decide : IsU64 ((clock 1700000010).epochSecs + (Duration.fromSecs 3600).asSecs))
      (by decide : IsU64 ((clock 1700000010).epochSecs + (Duration.fromSecs 3600).asSecs))
  obtain ⟨expiresAt, bounded⟩ : ∃ expiresAt,
      (clock 1700000010).checkedAdd (.fromSecs 3600) = some expiresAt :=
    Option.isSome_iff_exists.mp (by decide)
  exact ⟨tokens, expiresAt, accessTokenRequest_of_accepted
    (checkTokenRequest_sample registered decoded) unused signed bounded⟩

/-- Two requests with one code, each with a `jti` of its own. -/
def rivals (second : Bool) : AccessTokenRequest × Readings :=
  (redeem (code (authorization (some "verifier") "https://app.example/cb") 1700000000)
    "https://app.example/cb" (some "verifier"), readings 1700000010 (if second then 2 else 1))

theorem checkTokenRequest_rivals (second : Bool) :
    flow.checkTokenRequest platform state.tokenContext.clients (rivals second).1
      (rivals second).2.verifiedAt =
        .ok ((authorization (some "verifier") "https://app.example/cb").toCode
          (clock 1700000000)) := by
  have registered : "https://app.example/cb" ∈ publicClient.redirectUris := by decide
  exact checkTokenRequest_sample registered (SignedAuthorizationCode.decode_encode platform _)

/-! ## As a run -/

/-- The user agent asks for a code. -/
def authorizeCall (codeChallenge : Option String) (redirectUri : String) : Call :=
  .authorize userHeaders (authorizeParams codeChallenge redirectUri) (stamps 1700000000)

/-- The client redeems it. -/
def tokenCall (codeChallenge : Option String) (redirectUri : String) : Call :=
  .token noHeaders
    (tokenParams (code (authorization codeChallenge redirectUri) 1700000000) redirectUri
      codeChallenge)
    (readings 1700000010 1)

theorem mintsAtEndpoint_sample (codeChallenge : Option String) (redirectUri : String) :
    MintsAtEndpoint [authorizeCall codeChallenge redirectUri,
      tokenCall codeChallenge redirectUri] := by
  intro req readings
  simp [authorizeCall, tokenCall]

theorem macUnforgeable_sample (codeChallenge : Option String) {redirectUri : String}
    (registered : redirectUri ∈ publicClient.redirectUris) :
    MacUnforgeable platform state [authorizeCall codeChallenge redirectUri,
      tokenCall codeChallenge redirectUri] := by
  intro past call future split req readings signed requested decoded authentic
  match past, split with
  | [], split =>
      cases split
      cases requested
  | [earlier], split =>
      cases split
      cases requested
      cases decoded.symm.trans (SignedAuthorizationCode.decode_encode platform _)
      exact ⟨_, List.mem_singleton_self _, authorization codeChallenge redirectUri,
        stamps 1700000000, ⟨checkAuthorize_sample codeChallenge registered, rfl⟩,
        serialize_sample _ _⟩
  | _ :: _ :: past, split => simp at split

theorem tokenCall_redeemed (codeChallenge : Option String) {redirectUri : String}
    (registered : redirectUri ∈ publicClient.redirectUris) :
    ∃ response, Redeemed platform state [authorizeCall codeChallenge redirectUri]
      (tokenCall codeChallenge redirectUri)
      (redeem (code (authorization codeChallenge redirectUri) 1700000000) redirectUri
        codeChallenge)
      (readings 1700000010 1) response := by
  obtain ⟨tokens, expiresAt, result⟩ := redeem_sample 1 registered
    (SignedAuthorizationCode.decode_encode platform
      (signedCode (authorization codeChallenge redirectUri) 1700000000))
    (by simp : codeReplayKey platform _ ∉ InMemoryTokenStore.new.consumedCodes)
  exact ⟨_, rfl, congrArg Prod.fst result⟩

/-- Access tokens are printable. -/
theorem graphic_accessToken {past : List Call} {call : Call} {req : AccessTokenRequest}
    {stamps : Readings} {response : TokenResponse}
    (redeemed : Redeemed platform state past call req stamps response) :
    ∀ char ∈ response.accessToken.toList, Text.isGraphic char = true := by
  obtain ⟨authCode, tokens, expiresAt, -, -, signed, -, rfl, -⟩ := redeemed.outcome
  obtain ⟨exp, -, encoded⟩ := Outcome.bind_eq_ok_iff.mp (signTokens_eq_ok_iff.mp signed).2
  have token : _ = tokens.2 := Outcome.ok.inj encoded
  rw [OIDCAuthCodePKCEFlow.tokenResponse, ← token]
  exact platform.urlSafeNoPad.graphic _

end OpenidTlsConnector.Reference
