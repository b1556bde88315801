import OpenidTlsConnector.Reference.Exchange

/-!
# The honest flow

A registered client and a user the proxy vouches for always get through:
`/authorize` redirects with a code, the code is good for tokens while it is
fresh and unused, and the access token is good at `/userinfo`.
-/

namespace OpenidTlsConnector

open Foundations OIDCAuthCodePKCEFlow

/-- The ways a client can use PKCE: what it sends at `/authorize`, and the
verifier it sends at `/token`. -/
inductive PkceChoice (platform : Platform) :
    (codeChallenge codeChallengeMethod codeVerifier : Option String) → Prop where
  | absent {method codeVerifier}
      (supported : method = none ∨ method = some "plain" ∨ method = some "S256") :
      PkceChoice platform none method codeVerifier
  | plain {method} (codeVerifier : String) (isPlain : method = none ∨ method = some "plain") :
      PkceChoice platform (some codeVerifier) method (some codeVerifier)
  | s256 (codeVerifier : String) :
      PkceChoice platform
        (some (platform.urlSafeNoPad.encode (platform.sha256 (Text.utf8 codeVerifier)).val))
        (some "S256") (some codeVerifier)

/-- Both endpoints go along with every such choice. -/
theorem PkceChoice.proves {platform : Platform}
    {codeChallenge codeChallengeMethod codeVerifier : Option String}
    (choice : PkceChoice platform codeChallenge codeChallengeMethod codeVerifier) :
    ∃ method, parseChallengeMethod codeChallengeMethod = .ok method ∧
      ∀ code : AuthorizationCode, code.codeChallenge = codeChallenge →
        code.codeChallengeMethod = method →
        code.codeChallenge = none ∨ code.ProvedBy platform codeVerifier := by
  cases choice with
  | absent supported =>
      rcases supported with rfl | rfl | rfl <;>
        exact ⟨_, rfl, fun _ unchallenged _ => Or.inl unchallenged⟩
  | plain codeVerifier isPlain =>
      refine ⟨.plain, by rcases isPlain with rfl | rfl <;> rfl, fun code challenged method => ?_⟩
      exact Or.inr ⟨codeVerifier, codeVerifier, challenged, rfl, by simp [verifyPkce, method]⟩
  | s256 codeVerifier =>
      refine ⟨.s256, rfl, fun code challenged method => Or.inr ⟨_, codeVerifier, challenged, rfl, ?_⟩⟩
      simp [verifyPkce, method]

/-- The client and the user agent do everything right, and in time. -/
structure HonestExchange (platform : Platform) (state : AppState) (client : ClientConfig)
    (headers : HeaderMap) (params : AuthorizeParams) (stamps : MintReadings)
    (clientSecret codeVerifier : Option String) (verifiedAt : SystemTime) : Prop where
  registered : client ∈ state.clients.clients
  responseType : params.responseType = "code"
  clientId : params.clientId = client.clientId
  redirect : params.redirectUri ∈ client.redirectUris
  parsable : ∃ url, platform.url.parse params.redirectUri = .ok url
  resolved : ∃ headerValue user, headers.text state.userHeader = some headerValue ∧
    state.userManager.resolve platform headerValue = .ok user
  pkce : PkceChoice platform params.codeChallenge params.codeChallengeMethod codeVerifier
  secret : client.clientSecret = none ∨ client.clientSecret = clientSecret
  -- an instant before the epoch cannot be stamped
  created : 0 ≤ stamps.createdAt.nanos
  stamped : 0 ≤ stamps.stampedAt.nanos
  inOrder : stamps.stampedAt.nanos ≤ verifiedAt.nanos
  fresh : verifiedAt.nanos < stamps.stampedAt.nanos + state.flow.codeMaxAge.nanos

/-- Signing succeeds and no expiry time overflows. -/
structure Issuable (state : AppState) (readings : Readings) : Prop where
  signing : ∀ header claims, ∃ token, state.jwtIssuer.keys.sign header claims = .ok token
  idFits : IsU64 (readings.idTokenAt.epochSecs + state.idTokenTtl.asSecs)
  accessFits : IsU64 (readings.accessTokenAt.epochSecs + state.accessTokenTtl.asSecs)
  bounded : ∃ expiresAt, readings.recordedAt.checkedAdd state.accessTokenTtl = some expiresAt

/-- The token request that goes with an authorization request. -/
def AuthorizeParams.redeem (params : AuthorizeParams) (code : String)
    (clientSecret codeVerifier : Option String) : AccessTokenRequest where
  grantType := .authorizationCode
  clientId := params.clientId
  clientSecret := clientSecret
  code := code
  redirectUri := params.redirectUri
  codeVerifier := codeVerifier

namespace HonestExchange

variable {platform : Platform} {state : AppState} {client : ClientConfig} {headers : HeaderMap}
  {params : AuthorizeParams} {stamps : MintReadings} {clientSecret codeVerifier : Option String}
  {verifiedAt : SystemTime}

theorem found (honest : HonestExchange platform state client headers params stamps clientSecret
    codeVerifier verifiedAt) : state.clients.findById params.clientId = some client := by
  rw [honest.clientId]
  exact ClientRegistry.findById_of_mem honest.registered

/-- `/authorize` mints a code and sends it to the client; the code keeps the
scope as a list of words and passes every check at `/token`. -/
theorem minted (honest : HonestExchange platform state client headers params stamps clientSecret
    codeVerifier verifiedAt) :
    ∃ authReq code location,
      checkAuthorize platform state headers params = .ok authReq ∧
      state.flow.authorizationRequest platform authReq stamps =
        .ok (authReq.toCode stamps.createdAt, code) ∧
      redirectLocation platform params code = .ok location ∧
      authorizeHandler platform state headers params stamps = .ok location ∧
      (∀ word ∈ authReq.scope, Text.IsWord word) ∧
      state.flow.checkTokenRequest platform state.clients
        (params.redeem code clientSecret codeVerifier) verifiedAt =
          .ok (authReq.toCode stamps.createdAt) := by
  obtain ⟨headerValue, user, present, resolved⟩ := honest.resolved
  obtain ⟨method, parsed, proves⟩ := honest.pkce.proves
  have accepted : checkAuthorize platform state headers params =
      .ok (params.request state method client user) :=
    checkAuthorize_eq_ok_iff.mpr ⟨honest.responseType, method, client, headerValue, user, parsed,
      honest.found, honest.redirect, present, resolved, rfl⟩
  obtain ⟨code, made⟩ := authorizationRequest_of_afterEpoch platform state.flow
    (params.request state method client user) honest.created honest.stamped
  obtain ⟨location, redirected⟩ := (redirects_iff accepted made).mpr honest.parsable
  obtain ⟨authReq', minted', accepted', made', sent⟩ := authorizeHandler_eq_ok_iff.mp redirected
  cases accepted.symm.trans accepted'
  cases made.symm.trans made'
  refine ⟨_, code, location, accepted, made, sent, redirected, ?_, checkTokenRequest_eq_ok_iff.mpr
    ⟨decodeAndVerify_of_minted made honest.inOrder honest.fresh, ?_, ?_, ?_⟩⟩
  · intro word membership
    cases asked : params.scope with
    | none => simp [AuthorizeParams.request, asked] at membership
    | some scope =>
        simp only [AuthorizeParams.request, asked, Option.map_some, Option.getD_some] at membership
        exact Text.isWord_of_mem_splitWhitespace membership
  · exact (AuthorizationCode.validateTokenRequest_eq_ok_iff _ _ _ _ _).mpr
      ⟨rfl, rfl, proves _ rfl rfl⟩
  · exact (state.clients.validateRedirectUri_iff _ _).mpr ⟨client, honest.found, honest.redirect⟩
  · refine (state.clients.validateClientSecret_eq_allow_iff _ _).mpr ⟨client, honest.found, ?_⟩
    rcases honest.secret with isPublic | same
    · exact Or.inl isPublic
    · cases configured : client.clientSecret with
      | none => exact Or.inl rfl
      | some secret => exact Or.inr ⟨secret, rfl, same.symm.trans configured⟩

end HonestExchange

/-- A recorded access token is good at `/userinfo` until it expires or is
revoked, whatever else happens. -/
theorem userinfo_until_revoked {platform : Platform} {state : AppState}
    {store : InMemoryTokenStore} {token : String} {claims : AccessTokenClaims} {later : List Call}
    {userHeaders : HeaderMap} {clock : SystemTime}
    (read : state.jwtIssuer.accessTokenClaims token = some claims)
    (iss : claims.iss = state.jwtIssuer.issuer) (aud : claims.aud = state.jwtIssuer.issuer)
    (recorded : (store.records claims.jti).isSome) (unrevoked : Call.revoke claims.jti ∉ later)
    (presented : bearerToken userHeaders = .ok token) (unexpired : clock.epochSecs ≤ claims.exp) :
    ∃ info, userinfoHandler state userHeaders clock ((server platform state).after store later) =
      .ok info := by
  have kept : ∀ call ∈ later, ∀ store : InMemoryTokenStore, (store.records claims.jti).isSome →
      (((server platform state).next store call).records claims.jti).isSome := by
    intro call membership store present
    exact isSome_records_next (fun same => unrevoked (same ▸ membership)) present
  obtain ⟨record, stillThere⟩ := Option.isSome_iff_exists.mp
    ((server platform state).after_of_forall_mem later kept recorded)
  exact ⟨record.userInfo, userinfoHandler_eq_ok_iff.mpr ⟨token, claims, record, presented,
    JwtIssuer.verifyAccessToken_eq_some_iff.mpr ⟨read, iss, aud, by omega⟩, stillThere, rfl⟩⟩

/-- An honest exchange completes: the code is redeemed, response, token and
record agree on the scope, and the token works until it expires or is revoked. -/
theorem honest_flow_completes (platform : Platform) (state : AppState) (client : ClientConfig)
    (headers : HeaderMap) (params : AuthorizeParams) (stamps : MintReadings)
    (clientSecret codeVerifier : Option String) (readings : Readings)
    (honest : HonestExchange platform state client headers params stamps clientSecret codeVerifier
      readings.verifiedAt)
    (issuable : Issuable state readings) :
    ∃ authReq code location,
      checkAuthorize platform state headers params = .ok authReq ∧
      state.flow.authorizationRequest platform authReq stamps =
        .ok (authReq.toCode stamps.createdAt, code) ∧
      redirectLocation platform params code = .ok location ∧
      authorizeHandler platform state headers params stamps = .ok location ∧
      ∀ store, codeReplayKey platform code ∉ store.consumedCodes →
        ∃ response left claims record,
          state.flow.accessTokenRequest platform state.tokenContext
            (params.redeem code clientSecret codeVerifier) readings store = (.ok response, left) ∧
          state.jwtIssuer.accessTokenClaims response.accessToken = some claims ∧
          left.lookup claims.jti = some record ∧
          response.scope.map Text.splitWhitespace = some claims.scope ∧
          record.scope = claims.scope ∧
          ∀ later userHeaders clock, Call.revoke claims.jti ∉ later →
            bearerToken userHeaders = .ok response.accessToken →
            clock.epochSecs ≤ claims.exp →
            ∃ info, userinfoHandler state userHeaders clock
              ((server platform state).after left later) = .ok info := by
  obtain ⟨authReq, code, location, accepted, made, sent, redirected, areWords, checked⟩ :=
    honest.minted
  obtain ⟨expiresAt, bounded⟩ := issuable.bounded
  obtain ⟨tokens, signed⟩ : ∃ tokens, signTokens platform state.tokenContext params.clientId
      (authReq.toCode stamps.createdAt) readings = .ok tokens :=
    exists_signTokens issuable.signing issuable.idFits issuable.accessFits
  obtain ⟨exp, -, read⟩ := JwtIssuer.accessTokenClaims_of_issueAccessToken
    (signTokens_eq_ok_iff.mp signed).2
  refine ⟨authReq, code, location, accepted, made, sent, redirected, fun store unused => ?_⟩
  have recorded : (recordToken (store.consumeCode (codeReplayKey platform code)).2 params.clientId
      (authReq.toCode stamps.createdAt) readings expiresAt).records
        (randomJti readings.jtiBytes) =
      some (tokenRecord params.clientId (authReq.toCode stamps.createdAt) readings expiresAt) := by
    rw [recordToken_records, Function.update_self]
  refine ⟨_, _, _, _, accessTokenRequest_of_accepted checked unused signed bounded, read, recorded,
    ?_, rfl, fun later userHeaders clock unrevoked presented unexpired => ?_⟩
  · simpa [tokenResponse, AuthorizationRequest.toCode] using
      Text.splitWhitespace_intercalate _ areWords
  · exact userinfo_until_revoked read rfl rfl (Option.isSome_iff_exists.mpr ⟨_, recorded⟩)
      unrevoked presented unexpired

/-- The public client proves an S256 challenge and gets its tokens. -/
theorem honest_flow_completes_sample :
    let challenge := Reference.platform.urlSafeNoPad.encode
      (Reference.platform.sha256 (Text.utf8 "verifier")).val
    let params : AuthorizeParams := {
      Reference.authorizeParams (some challenge) "https://app.example/cb" with
      codeChallengeMethod := some "S256" }
    ∃ code location,
      authorizeHandler Reference.platform Reference.state Reference.userHeaders params
        (Reference.stamps 1700000000) = .ok location ∧
      ∃ response left, ∃ claims : AccessTokenClaims, ∃ record,
        Reference.flow.accessTokenRequest Reference.platform Reference.state.tokenContext
          (params.redeem code none (some "verifier")) (Reference.readings 1700000010 1) .new =
            (.ok response, left) ∧
        left.lookup claims.jti = some record ∧
        response.scope.map Text.splitWhitespace = some record.scope := by
  intro challenge params
  obtain ⟨url, parsed⟩ : ∃ url, Url.parsePlain "https://app.example/cb" = some url :=
    Option.isSome_iff_exists.mp (by decide)
  have honest : HonestExchange Reference.platform Reference.state Reference.publicClient
      Reference.userHeaders params (Reference.stamps 1700000000) none (some "verifier")
      (Reference.clock 1700000010) := {
    registered := by decide
    responseType := rfl
    clientId := rfl
    redirect := by decide
    parsable := ⟨url, Url.plainLibrary_parse_eq_ok_iff.mpr parsed⟩
    resolved := ⟨"CN=alice,O=Example", { subject := "alice", rawDn := "CN=alice,O=Example" },
      by decide, by decide⟩
    pkce := .s256 "verifier"
    secret := Or.inl rfl
    created := by decide
    stamped := by decide
    inOrder := by decide
    fresh := by decide }
  have issuable : Issuable Reference.state (Reference.readings 1700000010 1) := {
    signing := fun _ claims => ⟨Reference.sign claims, rfl⟩
    idFits := by decide
    accessFits := by decide
    bounded := Option.isSome_iff_exists.mp (by decide) }
  obtain ⟨_, code, location, -, -, -, redirected, completes⟩ :=
    honest_flow_completes _ _ _ _ _ _ _ _ _ honest issuable
  obtain ⟨response, left, claims, record, redeemed, -, recorded, scope, same, -⟩ :=
    completes .new (by simp)
  exact ⟨code, location, redirected, response, left, claims, record, redeemed, recorded,
    by rw [scope, same]⟩

end OpenidTlsConnector
