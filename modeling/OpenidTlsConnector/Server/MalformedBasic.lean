import OpenidTlsConnector.Server.ClientAuthentication

/-!
# Malformed Basic credentials

A Basic header that cannot be decoded counts as no header.  The form decides
then, so the request is refused for its credentials only when the form names a
confidential client without its secret.
-/

namespace OpenidTlsConnector

open Foundations OIDCAuthCodePKCEFlow

/-! ## The header -/

/-- `id:secret` in base64, with whitespace around it. -/
def credentials? (platform : Platform) (payload : List UInt8) : Option (String × String) := do
  let encoded ← Text.fromUtf8 payload
  let decoded ← platform.standard.decode (Text.trim encoded)
  let decodedStr ← Text.fromUtf8 decoded
  Text.splitOnce ':' decodedStr

def asciiLowercase (byte : UInt8) : UInt8 :=
  if 0x41 ≤ byte ∧ byte ≤ 0x5A then byte + 0x20 else byte

/-- The scheme is Basic, in whatever case, and the payload is not base64, not
UTF-8, or has no colon. -/
def MalformedBasic (platform : Platform) (value : HeaderValue) : Prop :=
  ∃ scheme payload, value.bytes = scheme ++ 0x20 :: payload ∧
    scheme.map asciiLowercase = Text.utf8 "basic" ∧ credentials? platform payload = none

variable {platform : Platform} {state : AppState} {headers : HeaderMap} {params : TokenParams}
  {readings : Readings} {store : InMemoryTokenStore}

/-- The bytes of a printable header are those of its text. -/
theorem bytes_of_toStr {value : HeaderValue} {header : String}
    (printable : value.toStr = some header) : value.bytes = Text.utf8 header := by
  unfold HeaderValue.toStr at printable
  split_ifs at printable
  exact Text.eq_utf8_of_fromUtf8 printable

/-- What follows the scheme is the payload. -/
theorem payload_eq {scheme payload : List UInt8} {header encoded : String}
    (bytes : Text.utf8 header = scheme ++ 0x20 :: payload)
    (isBasic : scheme.map asciiLowercase = Text.utf8 "basic")
    (stripped : (Text.stripPrefix "Basic " header).or (Text.stripPrefix "basic " header) =
      some encoded) : payload = Text.utf8 encoded := by
  have long : scheme.length = 5 := by
    have lengths := congrArg List.length isBasic
    rwa [List.length_map] at lengths
  have parts : ∃ start, header = start ++ encoded ∧ ∃ five, five.length = 5 ∧
      Text.utf8 start = five ++ [0x20] := by
    rcases Option.or_eq_some_iff.mp stripped with upper | ⟨-, lower⟩
    · exact ⟨"Basic ", Text.eq_append_of_stripPrefix upper, Text.utf8 "Basic", rfl, rfl⟩
    · exact ⟨"basic ", Text.eq_append_of_stripPrefix lower, Text.utf8 "basic", rfl, rfl⟩
  obtain ⟨start, rfl, five, fiveLong, startBytes⟩ := parts
  rw [Text.utf8_append, startBytes, List.append_assoc] at bytes
  have rests := (List.append_inj bytes (by rw [fiveLong, long])).2
  exact (List.cons.inj rests).2.symm

theorem parseBasicAuth_of_malformed {value : HeaderValue}
    (sent : headers.get "authorization" = some value) (malformed : MalformedBasic platform value) :
    parseBasicAuth platform headers = (none, none) := by
  obtain ⟨scheme, payload, bytes, isBasic, undecodable⟩ := malformed
  have header : headers.text "authorization" = value.toStr := by
    simp [HeaderMap.text, sent]
  unfold parseBasicAuth
  rw [header]
  cases printable : value.toStr with
  | none => rfl
  | some header =>
      rw [bytes_of_toStr printable] at bytes
      dsimp only
      cases stripped : (Text.stripPrefix "Basic " header).or (Text.stripPrefix "basic " header) with
      | none => rfl
      | some encoded =>
          -- the handler takes the steps of `credentials?` from here
          rw [payload_eq bytes isBasic stripped, credentials?, Text.fromUtf8_utf8] at undecodable
          dsimp only [Option.bind_eq_bind, Option.bind_some] at undecodable ⊢
          cases decoded : platform.standard.decode (Text.trim encoded) with
          | none => rfl
          | some bytes =>
              rw [decoded, Option.bind_some] at undecodable
              dsimp only
              cases read : Text.fromUtf8 bytes with
              | none => rfl
              | some decodedStr =>
                  rw [read, Option.bind_some] at undecodable
                  dsimp only
                  rw [undecodable]

/-! ## The refusal -/

/-- The request is refused for its client authentication, and changes nothing. -/
def RefusedAsInvalidClient (platform : Platform) (state : AppState) (headers : HeaderMap)
    (params : TokenParams) (readings : Readings) (store : InMemoryTokenStore) : Prop :=
  ∃ detail, tokenHandler platform state headers params readings store =
    (.error (.invalidClient detail), store)

/-- The form names a confidential client without its secret, in a request that
is right in everything that is checked before the secret. -/
structure FormLacksSecret (platform : Platform) (state : AppState) (params : TokenParams)
    (now : SystemTime) (clientId : String) (client : ClientConfig) (expected : String)
    (authCode : AuthorizationCode) : Prop where
  grantType : params.grantType = "authorization_code"
  named : params.clientId = some clientId
  verified : SignedAuthorizationCode.decodeAndVerify platform params.code state.flow.hmacKey
    state.flow.codeMaxAge now = .ok authCode
  matched : authCode.validateTokenRequest platform clientId params.redirectUri
    params.codeVerifier = .ok ()
  registered : state.clients.findById clientId = some client
  redirectUri : params.redirectUri ∈ client.redirectUris
  confidential : client.clientSecret = some expected
  lacks : params.clientSecret ≠ some expected

/-- Client authentication fails after everything else has passed. -/
theorem checkTokenRequest_eq_invalidClient_iff {flow : OIDCAuthCodePKCEFlow}
    {clients : ClientRegistry} {req : AccessTokenRequest} {now : SystemTime} {detail : String} :
    flow.checkTokenRequest platform clients req now = .error (.invalidClient detail) ↔
      ∃ authCode, SignedAuthorizationCode.decodeAndVerify platform req.code flow.hmacKey
          flow.codeMaxAge now = .ok authCode ∧
        authCode.validateTokenRequest platform req.clientId req.redirectUri req.codeVerifier =
          .ok () ∧
        clients.validateRedirectUri req.clientId req.redirectUri = true ∧
        clients.validateClientSecret req.clientId req.clientSecret = .deny ∧
        detail = "Client authentication failed" := by
  simp only [checkTokenRequest, except_bind_eq_error_iff, except_mapError_eq_error_iff,
    except_mapError_eq_ok_iff]
  constructor
  · rintro (⟨cause, -, converted⟩ | ⟨authCode, verified, rejected⟩)
    · cases cause <;> cases converted
    · rcases rejected with ⟨cause, -, converted⟩ | ⟨⟨⟩, matched, rejected⟩
      · cases converted
      · split_ifs at rejected with registered
        split at rejected
        · cases rejected
        · rename_i denied
          cases rejected
          exact ⟨authCode, verified, matched, registered, denied, rfl⟩
        · cases rejected
  · rintro ⟨authCode, verified, matched, registered, denied, rfl⟩
    exact Or.inr ⟨authCode, verified, Or.inr ⟨(), matched, by simp [registered, denied]⟩⟩

/-- A redemption is refused for its client authentication by its check only. -/
theorem accessTokenRequest_eq_invalidClient_iff {flow : OIDCAuthCodePKCEFlow}
    {ctx : TokenIssueContext} {req : AccessTokenRequest} {detail : String} :
    flow.accessTokenRequest platform ctx req readings store =
        (.error (.invalidClient detail), store) ↔
      flow.checkTokenRequest platform ctx.clients req readings.verifiedAt =
        .error (.invalidClient detail) := by
  constructor
  · intro refused
    have ending := accessTokenRequest_redemption platform flow ctx req readings store
    have failed := congrArg Prod.fst refused
    generalize flow.accessTokenRequest platform ctx req readings store = result at ending failed
    cases ending with
    | refused rejected =>
        cases failed
        exact rejected
    | replayed | aborted | redeemed => cases failed
    | unsigned _ _ unsigned =>
        obtain ⟨cause, server⟩ := signTokens_eq_error unsigned
        rw [server] at failed
        cases failed
  · intro rejected
    rw [accessTokenRequest, rejected]

/-- Behind a malformed header, the form's credentials are the request's. -/
theorem tokenRequest_of_malformed {value : HeaderValue} {clientId : String}
    (sent : headers.get "authorization" = some value) (malformed : MalformedBasic platform value)
    (grantType : params.grantType = "authorization_code") (named : params.clientId = some clientId) :
    tokenRequest platform headers params = .ok {
      grantType := .authorizationCode
      clientId := clientId
      clientSecret := params.clientSecret
      code := params.code
      redirectUri := params.redirectUri
      codeVerifier := params.codeVerifier } := by
  have absent := parseBasicAuth_of_malformed sent malformed
  rw [tokenRequest_of_named (by rw [absent, named]; rfl), GrantType.fromStr, if_pos grantType,
    absent]
  rfl

/-- Without a client in the form, or with another grant type, the request is
not refused for its authentication. -/
theorem named_of_refused {value : HeaderValue}
    (sent : headers.get "authorization" = some value) (malformed : MalformedBasic platform value)
    (refused : RefusedAsInvalidClient platform state headers params readings store) :
    params.grantType = "authorization_code" ∧ ∃ clientId, params.clientId = some clientId := by
  have absent := parseBasicAuth_of_malformed sent malformed
  obtain ⟨detail, answered⟩ := refused
  unfold tokenHandler tokenRequest at answered
  rw [absent] at answered
  by_cases supported : params.grantType = "authorization_code"
  · refine ⟨supported, ?_⟩
    cases named : params.clientId with
    | some clientId => exact ⟨clientId, rfl⟩
    | none =>
        simp [GrantType.fromStr, supported, named, bind, Except.bind] at answered
  · simp [GrantType.fromStr, supported, bind, Except.bind] at answered

/-- A request with a malformed Basic header is refused as `invalid_client`
exactly when the form names a confidential client without its secret and
everything before the secret is right. -/
theorem refusedAsInvalidClient_iff {value : HeaderValue}
    (sent : headers.get "authorization" = some value) (malformed : MalformedBasic platform value) :
    RefusedAsInvalidClient platform state headers params readings store ↔
      ∃ clientId client expected authCode,
        FormLacksSecret platform state params readings.verifiedAt clientId client expected
          authCode := by
  constructor
  · intro refused
    obtain ⟨grantType, clientId, named⟩ := named_of_refused sent malformed refused
    obtain ⟨detail, answered⟩ := refused
    rw [tokenHandler, tokenRequest_of_malformed sent malformed grantType named] at answered
    obtain ⟨authCode, verified, matched, registered, denied, -⟩ :=
      checkTokenRequest_eq_invalidClient_iff.mp (accessTokenRequest_eq_invalidClient_iff.mp answered)
    obtain ⟨client, found, redirectUri⟩ :=
      (state.clients.validateRedirectUri_iff _ _).mp registered
    obtain ⟨expected, confidential, lacks⟩ :=
      (ClientRegistry.validateClientSecret_eq_deny_iff found _).mp denied
    exact ⟨clientId, client, expected, authCode, {
      grantType, named, verified, matched, redirectUri, confidential, lacks
      registered := found }⟩
  · rintro ⟨clientId, client, expected, authCode, lacking⟩
    have denied : state.clients.validateClientSecret clientId params.clientSecret = .deny :=
      (ClientRegistry.validateClientSecret_eq_deny_iff lacking.registered _).mpr
        ⟨expected, lacking.confidential, lacking.lacks⟩
    have rejected : state.flow.checkTokenRequest platform state.tokenContext.clients {
        grantType := .authorizationCode
        clientId := clientId
        clientSecret := params.clientSecret
        code := params.code
        redirectUri := params.redirectUri
        codeVerifier := params.codeVerifier } readings.verifiedAt =
          .error (.invalidClient "Client authentication failed") :=
      checkTokenRequest_eq_invalidClient_iff.mpr ⟨authCode, lacking.verified, lacking.matched,
        (state.clients.validateRedirectUri_iff _ _).mpr
          ⟨client, lacking.registered, lacking.redirectUri⟩, denied, rfl⟩
    refine ⟨"Client authentication failed", ?_⟩
    rw [tokenHandler, tokenRequest_of_malformed sent malformed lacking.grantType lacking.named]
    exact accessTokenRequest_eq_invalidClient_iff.mpr rejected

/-! ## The public client behind a malformed header -/

namespace Reference

/-- A Basic header whose payload is not base64. -/
def malformedHeaders : HeaderMap := noHeaders.withAuthorization (some (.ofString "Basic !"))

theorem malformedHeaders_malformed :
    malformedHeaders.get "authorization" = some (.ofString "Basic !") ∧
      MalformedBasic Reference.platform (.ofString "Basic !") := by
  refine ⟨by simp [malformedHeaders, HeaderMap.withAuthorization], ?_⟩
  exact ⟨Text.utf8 "Basic", Text.utf8 "!", by decide, by decide, by decide⟩

/-- The confidential client without its secret. -/
def backendParams (code : String) : TokenParams where
  grantType := "authorization_code"
  code := code
  redirectUri := "https://backend.example/cb"
  codeVerifier := none
  clientId := some "backend"
  clientSecret := none

/-- What the confidential client's code stands for. -/
def backendAuthorization : AuthorizationRequest :=
  { authorization none "https://backend.example/cb" with clientId := "backend", groups := [] }

end Reference

theorem refusedAsInvalidClient_sample :
    RefusedAsInvalidClient Reference.platform Reference.state Reference.malformedHeaders
      (Reference.backendParams (Reference.code Reference.backendAuthorization 1700000000))
      (Reference.readings 1700000010 1) .new := by
  obtain ⟨sent, malformed⟩ := Reference.malformedHeaders_malformed
  have decoded := SignedAuthorizationCode.decode_encode Reference.platform
    (Reference.signedCode Reference.backendAuthorization 1700000000)
  refine (refusedAsInvalidClient_iff sent malformed).mpr
    ⟨"backend", Reference.confidentialClient, "s3cr3t",
      Reference.backendAuthorization.toCode (Reference.clock 1700000000), ?_⟩
  exact {
    grantType := rfl
    named := rfl
    verified := Reference.decodeAndVerify_sample decoded
    matched := (AuthorizationCode.validateTokenRequest_eq_ok_iff _ _ _ _ _).mpr
      ⟨rfl, rfl, Or.inl rfl⟩
    registered := by decide
    redirectUri := by decide
    confidential := rfl
    lacks := by decide }

/-- The public client is given tokens behind a malformed header. -/
theorem tokens_behind_malformedBasic :
    Reference.malformedHeaders.get "authorization" = some (.ofString "Basic !") ∧
      MalformedBasic Reference.platform (.ofString "Basic !") ∧
      ∃ response, (tokenHandler Reference.platform Reference.state
        Reference.malformedHeaders (Reference.tokenParams (Reference.code
          (Reference.authorization none "https://app.example/cb") 1700000000)
          "https://app.example/cb" none) (Reference.readings 1700000010 1) .new).1 =
        .ok response := by
  obtain ⟨sent, malformed⟩ := Reference.malformedHeaders_malformed
  refine ⟨sent, malformed, ?_⟩
  have registered : "https://app.example/cb" ∈ Reference.publicClient.redirectUris := by decide
  have decoded := SignedAuthorizationCode.decode_encode Reference.platform
    (Reference.signedCode (Reference.authorization none "https://app.example/cb") 1700000000)
  have unused : codeReplayKey Reference.platform (Reference.code (Reference.authorization none
      "https://app.example/cb") 1700000000) ∉ InMemoryTokenStore.new.consumedCodes := by
    simp [InMemoryTokenStore.new]
  obtain ⟨tokens, expiresAt, redeemed⟩ := Reference.redeem_sample 1 registered decoded unused
  rw [tokenHandler, tokenRequest_of_malformed sent malformed rfl rfl]
  exact ⟨_, congrArg Prod.fst redeemed⟩

end OpenidTlsConnector
