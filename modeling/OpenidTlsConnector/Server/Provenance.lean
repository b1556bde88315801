import OpenidTlsConnector.Reference.Exchange

/-!
# Where tokens come from

Under a MAC that nobody forges, a redeemed code was signed for an earlier
request at `/authorize`, and the tokens repeat that request's data.  The code
is signed before the redirect URL is parsed: only when it parses does the
handler also redirect.
-/

namespace OpenidTlsConnector

open Foundations OIDCAuthCodePKCEFlow

variable {platform : Platform} {state : AppState} {readings : Readings}

/-- The tokens repeat what the code says. -/
structure Repeats (state : AppState) (clientId : String) (authCode : AuthorizationCode)
    (idClaims : IdTokenClaims) (accessClaims : AccessTokenClaims) : Prop where
  idSubject : idClaims.sub = authCode.subject
  accessSubject : accessClaims.sub = authCode.subject
  idGroups : idClaims.groups = some authCode.groups
  accessGroups : accessClaims.groups = authCode.groups
  nonce : idClaims.nonce = authCode.nonce
  scope : accessClaims.scope = authCode.scope
  audience : idClaims.aud = clientId
  client : accessClaims.clientId = clientId
  idIssuer : idClaims.iss = state.jwtIssuer.issuer
  accessIssuer : accessClaims.iss = state.jwtIssuer.issuer

theorem repeats_of_signTokens {clientId : String} {authCode : AuthorizationCode}
    {tokens : String × String}
    (signed : signTokens platform state.tokenContext clientId authCode readings = .ok tokens) :
    ∃ idClaims accessClaims, state.jwtIssuer.idTokenClaims tokens.1 = some idClaims ∧
      state.jwtIssuer.accessTokenClaims tokens.2 = some accessClaims ∧
      Repeats state clientId authCode idClaims accessClaims := by
  obtain ⟨idIssued, accessIssued⟩ := signTokens_eq_ok_iff.mp signed
  obtain ⟨_, -, idRead⟩ := JwtIssuer.idTokenClaims_of_issueIdToken idIssued
  obtain ⟨_, -, accessRead⟩ := JwtIssuer.accessTokenClaims_of_issueAccessToken accessIssued
  exact ⟨_, _, idRead, accessRead, {
    idSubject := rfl
    accessSubject := rfl
    idGroups := rfl
    accessGroups := rfl
    nonce := rfl
    scope := rfl
    audience := rfl
    client := rfl
    idIssuer := rfl
    accessIssuer := rfl }⟩

/-- The request at `/authorize` a redemption goes back to, and what the tokens
take from it. -/
structure Provenance (platform : Platform) (state : AppState) (past : List Call)
    (req : AccessTokenRequest) (readings : Readings) (response : TokenResponse)
    (headers : HeaderMap) (params : AuthorizeParams) (stamps : MintReadings)
    (client : ClientConfig) (user : User) : Prop where
  earlier : Call.authorize headers params stamps ∈ past
  minted : ∃ authReq minted, checkAuthorize platform state headers params = .ok authReq ∧
    state.flow.authorizationRequest platform authReq stamps = .ok minted
  redirected : (∃ location, authorizeHandler platform state headers params stamps = .ok location) ↔
    ∃ url, platform.url.parse params.redirectUri = .ok url
  stamped : stamps.stampedAt.nanos ≤ readings.verifiedAt.nanos
  fresh : readings.verifiedAt.nanos < stamps.stampedAt.nanos + state.flow.codeMaxAge.nanos
  sameClient : params.clientId = req.clientId
  sameRedirect : params.redirectUri = req.redirectUri
  registeredClient : state.clients.findById req.clientId = some client
  registeredRedirect : req.redirectUri ∈ client.redirectUris
  resolved : ∃ headerValue, headers.text state.userHeader = some headerValue ∧
    state.userManager.resolve platform headerValue = .ok user
  tokens : ∃ idClaims accessClaims,
    state.jwtIssuer.idTokenClaims response.idToken = some idClaims ∧
    state.jwtIssuer.accessTokenClaims response.accessToken = some accessClaims ∧
    idClaims.sub = user.subject ∧ accessClaims.sub = user.subject ∧
    idClaims.groups = some (resolveGroups client.groups state.defaultGroups) ∧
    accessClaims.groups = resolveGroups client.groups state.defaultGroups ∧
    idClaims.nonce = params.nonce ∧
    accessClaims.scope = (params.scope.map Text.splitWhitespace).getD [] ∧
    idClaims.aud = req.clientId ∧ accessClaims.clientId = req.clientId

/-! ## Provenance -/

/-- Every successful redemption goes back to one request at `/authorize`. -/
theorem redemption_provenance (platform : Platform) (state : AppState) (run : List Call)
    (endpoint : MintsAtEndpoint run) (unforgeable : MacUnforgeable platform state run)
    (past future : List Call) (call : Call) (split : run = past ++ call :: future)
    (req : AccessTokenRequest) (readings : Readings) (response : TokenResponse)
    (redeemed : Redeemed platform state past call req readings response) :
    ∃ headers params stamps client user,
      Provenance platform state past req readings response headers params stamps client user := by
  subst split
  obtain ⟨authCode, tokens, expiresAt, checked, -, signed, -, rfl, -⟩ := redeemed.outcome
  obtain ⟨verified, matched, -, -⟩ := checkTokenRequest_eq_ok_iff.mp checked
  obtain ⟨sameClient, sameRedirect, -⟩ :=
    (AuthorizationCode.validateTokenRequest_eq_ok_iff _ _ _ _ _).mp matched
  obtain ⟨earlier, inPast, authReq, stamps, mints, created, stampedAfter, rfl, stamped, fresh⟩ :=
    redeemed.minted unforgeable verified
  obtain ⟨idClaims, accessClaims, idRead, accessRead, repeated⟩ := repeats_of_signTokens signed
  obtain ⟨headers, params, rfl, accepted⟩ := endpoint.authorizes inPast mints
  obtain ⟨encoded, minted⟩ :=
    authorizationRequest_of_afterEpoch platform state.flow authReq created stampedAfter
  obtain ⟨-, method, client, headerValue, user, -, found, registered, present, resolved, rfl⟩ :=
    checkAuthorize_eq_ok_iff.mp accepted
  change params.clientId = req.clientId at sameClient
  change params.redirectUri = req.redirectUri at sameRedirect
  exact ⟨headers, params, stamps, client, user, {
    earlier := inPast
    minted := ⟨_, _, accepted, minted⟩
    redirected := redirects_iff accepted minted
    stamped := stamped
    fresh := fresh
    sameClient := sameClient
    sameRedirect := sameRedirect
    registeredClient := by rw [← sameClient]; exact found
    registeredRedirect := by rw [← sameRedirect]; exact registered
    resolved := ⟨headerValue, present, resolved⟩
    tokens := ⟨idClaims, accessClaims, idRead, accessRead, repeated.idSubject,
      repeated.accessSubject, repeated.idGroups, repeated.accessGroups, repeated.nonce,
      repeated.scope, repeated.audience, repeated.client⟩ }⟩

/-- The sample redemption goes back to the sample authorization. -/
theorem redemption_provenance_sample :
    ∃ response headers params stamps client user,
      Provenance Reference.platform Reference.state
        [Reference.authorizeCall (some "verifier") "https://app.example/cb"]
        (Reference.redeem (Reference.code (Reference.authorization (some "verifier")
          "https://app.example/cb") 1700000000) "https://app.example/cb" (some "verifier"))
        (Reference.readings 1700000010 1) response headers params stamps client user := by
  have registered : "https://app.example/cb" ∈ Reference.publicClient.redirectUris := by decide
  obtain ⟨response, redeemed⟩ := Reference.tokenCall_redeemed (some "verifier") registered
  exact ⟨response, redemption_provenance _ _ _ (Reference.mintsAtEndpoint_sample _ _)
    (Reference.macUnforgeable_sample (some "verifier") registered) _ [] _ rfl _ _ _ redeemed⟩

/-- A registered redirect URI that is no URL: a code is minted and redeemed, and
nobody was ever redirected. -/
theorem redemption_without_redirect :
    MintsAtEndpoint [Reference.authorizeCall none "/cb", Reference.tokenCall none "/cb"] ∧
      MacUnforgeable Reference.platform Reference.state
        [Reference.authorizeCall none "/cb", Reference.tokenCall none "/cb"] ∧
      (∃ response, Redeemed Reference.platform Reference.state
        [Reference.authorizeCall none "/cb"] (Reference.tokenCall none "/cb")
        (Reference.redeem (Reference.code (Reference.authorization none "/cb") 1700000000) "/cb"
          none)
        (Reference.readings 1700000010 1) response) ∧
      ∀ headers params stamps location,
        Call.authorize headers params stamps ∈ [Reference.authorizeCall none "/cb"] →
        authorizeHandler Reference.platform Reference.state headers params stamps ≠
          .ok location := by
  have registered : "/cb" ∈ Reference.publicClient.redirectUris := by decide
  refine ⟨Reference.mintsAtEndpoint_sample _ _, Reference.macUnforgeable_sample none registered,
    Reference.tokenCall_redeemed none registered, ?_⟩
  intro headers params stamps location membership redirected
  cases List.mem_singleton.mp membership
  obtain ⟨url, parsed⟩ := (redirects_iff (Reference.checkAuthorize_sample none registered)
    (Reference.authorizationRequest_sample _ _)).mp ⟨location, redirected⟩
  have refused : Reference.platform.url.parse "/cb" = .error "relative URL without a base" := rfl
  cases refused.symm.trans parsed

end OpenidTlsConnector
