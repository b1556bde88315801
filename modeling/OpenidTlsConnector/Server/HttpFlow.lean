import OpenidTlsConnector.Reference.Http
import OpenidTlsConnector.Server.Histories
import OpenidTlsConnector.Server.Redirect

/-!
# The honest flow on the wire

A client that form-encodes its parameters, reads the code from the location it
is sent to, posts a form and presents the access token it is given gets through,
whatever else the server is asked before, between and after.
-/

namespace OpenidTlsConnector

open Foundations OIDCAuthCodePKCEFlow

/-! ## The three requests -/

structure AsksForCode (params : AuthorizeParams) (headers : HeaderMap) (request : Request) :
    Prop where
  method : request.method = .get
  path : request.path = "/authorize"
  query : request.query = some (FormUrlEncoded.serialize params.toFields)
  headers : request.headers = headers

/-- The credentials are in the form, and no header carries others. -/
structure AsksForTokens (framework : Framework) (params : TokenParams) (request : Request) :
    Prop where
  method : request.method = .post
  path : request.path = "/token"
  body : request.body = Text.utf8 (FormUrlEncoded.serialize params.toFields)
  isForm : framework.takesForm request.headers request.body = true
  unauthorized : request.headers.text "authorization" = none

structure AsksForUser (token : String) (request : Request) : Prop where
  method : request.method = .get
  path : request.path = "/userinfo"
  bearer : bearerToken request.headers = .ok token

variable {framework : Framework} {platform : Platform} {state : AppState} {jwk : Jwk}
  {arrival : Arrival} {store : InMemoryTokenStore} {params : AuthorizeParams} {headers : HeaderMap}

theorem Request.endpoint_of_route {request : Request} (route : Route)
    (routed : route ∈ oidcRouter) (path : request.path = route.path)
    (method : request.method = route.method) : request.endpoint = .ok route.endpoint :=
  endpoint_eq_ok_iff.mpr ⟨route, routed, path.symm, by simp [Route.serves, method], rfl⟩

theorem AsksForCode.endpoint (asks : AsksForCode params headers arrival.request) :
    arrival.request.endpoint = .ok .authorize :=
  Request.endpoint_of_route ⟨"/authorize", .get, .authorize⟩ (by decide) asks.path asks.method

theorem AsksForTokens.endpoint {params : TokenParams}
    (asks : AsksForTokens framework params arrival.request) :
    arrival.request.endpoint = .ok .token :=
  Request.endpoint_of_route ⟨"/token", .post, .token⟩ (by decide) asks.path asks.method

theorem AsksForUser.endpoint {token : String} (asks : AsksForUser token arrival.request) :
    arrival.request.endpoint = .ok .userinfo :=
  Request.endpoint_of_route ⟨"/userinfo", .get, .userinfo⟩ (by decide) asks.path asks.method

/-- The handler sees the parameters the client had in mind. -/
theorem AsksForCode.read (asks : AsksForCode params headers arrival.request) :
    arrival.request.authorizeParams framework = .ok params := by
  rw [Request.authorizeParams, asks.query, Option.getD_some,
    AuthorizeParams.deserialize_serialize]

theorem AsksForTokens.read {params : TokenParams}
    (asks : AsksForTokens framework params arrival.request) :
    arrival.request.tokenParams framework = .ok params := by
  rw [Request.tokenParams, if_pos asks.isForm, asks.body, TokenParams.deserialize_serialize]

theorem AsksForCode.call? (asks : AsksForCode params headers arrival.request) :
    arrival.call? framework = some (.authorize headers params arrival.moment.minting) := by
  simp only [Arrival.call?, asks.endpoint, asks.read, asks.headers, Except.toOption,
    Option.map_some]

theorem AsksForTokens.call? {params : TokenParams}
    (asks : AsksForTokens framework params arrival.request) :
    arrival.call? framework =
      some (.token arrival.request.headers params arrival.moment.redeeming) := by
  simp only [Arrival.call?, asks.endpoint, asks.read, Except.toOption, Option.map_some]

theorem AsksForCode.answer (asks : AsksForCode params headers arrival.request) :
    (httpServer framework platform state jwk).answer store arrival =
      .ofOutcome .redirect
        (authorizeHandler platform state headers params arrival.moment.minting) := by
  simp [Machine.answer, httpServer, serve, asks.endpoint, asks.method, asks.read, asks.headers]

theorem AsksForTokens.step {params : TokenParams}
    (asks : AsksForTokens framework params arrival.request) :
    (httpServer framework platform state jwk).step store arrival =
      (tokenHandler platform state arrival.request.headers params arrival.moment.redeeming
        store).map (.ofOutcome fun response => .json response.toJson) id := by
  simp only [httpServer, serve, asks.endpoint, asks.method, asks.read, reduceCtorEq, if_false]

theorem AsksForUser.answer {token : String} (asks : AsksForUser token arrival.request) :
    (httpServer framework platform state jwk).answer store arrival =
      .ofExcept (fun info => .json info.toJson)
        (userinfoHandler state arrival.request.headers arrival.moment.clock store) := by
  simp [Machine.answer, httpServer, serve, asks.endpoint, asks.method]

/-- The form that goes with an authorization request. -/
def AuthorizeParams.tokenParams (params : AuthorizeParams) (code : String)
    (clientSecret codeVerifier : Option String) : TokenParams where
  grantType := "authorization_code"
  code := code
  redirectUri := params.redirectUri
  codeVerifier := codeVerifier
  clientId := some params.clientId
  clientSecret := clientSecret

theorem AsksForTokens.tokenRequest {code : String} {clientSecret codeVerifier : Option String}
    (asks : AsksForTokens framework (params.tokenParams code clientSecret codeVerifier)
      arrival.request) :
    tokenRequest platform arrival.request.headers
        (params.tokenParams code clientSecret codeVerifier) =
      .ok (params.redeem code clientSecret codeVerifier) := by
  have noBasic : parseBasicAuth platform arrival.request.headers = (none, none) := by
    simp [parseBasicAuth, asks.unauthorized]
  have named : (parseBasicAuth platform arrival.request.headers).1.or
      (params.tokenParams code clientSecret codeVerifier).clientId = some params.clientId := by
    simp [noBasic, AuthorizeParams.tokenParams]
  rw [tokenRequest_of_named named]
  simp [GrantType.fromStr, AuthorizeParams.tokenParams, AuthorizeParams.redeem, noBasic, Except.map]

/-- A code that passes the checks and has not been presented gets its tokens. -/
theorem AsksForTokens.step_of_accepted (jwk : Jwk) {code : String}
    {clientSecret codeVerifier : Option String}
    {authCode : AuthorizationCode} {tokens : String × String} {expiresAt : SystemTime}
    (asks : AsksForTokens framework (params.tokenParams code clientSecret codeVerifier)
      arrival.request)
    (checked : state.flow.checkTokenRequest platform state.tokenContext.clients
      (params.redeem code clientSecret codeVerifier) arrival.moment.redeeming.verifiedAt =
        .ok authCode)
    (unused : codeReplayKey platform code ∉ store.consumedCodes)
    (signed : signTokens platform state.tokenContext params.clientId authCode
      arrival.moment.redeeming = .ok tokens)
    (bounded : arrival.moment.redeeming.recordedAt.checkedAdd
      state.tokenContext.accessTokenTtl = some expiresAt) :
    (httpServer framework platform state jwk).step store arrival =
      (.json (tokenResponse state.tokenContext authCode tokens).toJson,
        recordToken (store.consumeCode (codeReplayKey platform code)).2 params.clientId authCode
          arrival.moment.redeeming expiresAt) := by
  have redeemed : state.flow.accessTokenRequest platform state.tokenContext
      (params.redeem code clientSecret codeVerifier) arrival.moment.redeeming store =
        (.ok (tokenResponse state.tokenContext authCode tokens),
          recordToken (store.consumeCode (codeReplayKey platform code)).2 params.clientId authCode
            arrival.moment.redeeming expiresAt) :=
    accessTokenRequest_of_accepted checked unused signed bounded
  rw [asks.step, tokenHandler, asks.tokenRequest]
  simp only [redeemed, Prod.map_apply, Answer.ofOutcome, id_eq]

/-! ## What stays recorded -/

/-- Only a redemption that draws the `jti`, or its revocation, touches a record. -/
theorem records_next_of_other {call : Call} {jti : String} (other : call.jti? platform ≠ some jti)
    (kept : call ≠ .revoke jti) :
    ((server platform state).next store call).records jti = store.records jti := by
  cases made : call.redeems? platform with
  | none =>
      rw [next_of_not_redeems made]
      cases call with
      | revoke revoked =>
          have elsewhere : jti ≠ revoked := fun same => kept (by rw [same])
          simp [InMemoryTokenStore.revoke, Function.update_of_ne elsewhere]
      | authorize | authorizationRequest | token | accessTokenRequest | userinfo | lookup => rfl
  | some request =>
      obtain ⟨req, readings⟩ := request
      obtain ⟨result, ending, moved, -⟩ : ∃ result,
          Redemption platform state.flow state.tokenContext req readings store result ∧ _ ∧ _ :=
        exists_redemption made
      have elsewhere : jti ≠ randomJti readings.jtiBytes := by
        rintro rfl
        exact other (jti?_of_redeems made)
      rw [moved]
      cases ending with
      | refused | replayed | unsigned | aborted => rfl
      | redeemed => simp [recordToken_records, Function.update_of_ne elsewhere]

/-- As long as nobody draws its `jti` again, a record stays. -/
theorem records_httpServer_after {jti : String} (later : List Arrival)
    (distinct : ∀ call ∈ calls framework later, call.jti? platform ≠ some jti) :
    ((httpServer framework platform state jwk).after store later).records jti =
      store.records jti := by
  have kept : ∀ call ∈ calls framework later, ∀ left : InMemoryTokenStore,
      left.records jti = store.records jti →
        ((server platform state).next left call).records jti = store.records jti := by
    intro call membership left same
    have unrevoked : call ≠ .revoke jti := by
      rintro rfl
      exact not_mem_calls_revoke later membership
    rw [records_next_of_other (distinct call membership) unrevoked, same]
  rw [httpServer_after]
  exact (server platform state).after_of_forall_mem _ kept rfl

/-! ## The flow -/

/-- Of what a user agent is told, what the client has use for: the location is
its redirect URI with the code, and its state, at the end of the query. -/
def SendsCode (platform : Platform) (lossy : Text.LossyUtf8) (params : AuthorizeParams)
    (location code : String) : Prop :=
  ∃ base url : Url, platform.url.parse params.redirectUri = .ok base ∧ url.SameBase base ∧
    location = url.serialize ∧ url.queryPairs lossy = base.queryPairs lossy ++
      ("code", code) :: params.state.toList.map fun stateVal => ("state", stateVal)

theorem sendsCode_of_redirectLocation (lossy : Text.LossyUtf8)
    (appends : AppendsPairs platform.url) {code location : String}
    (redirected : redirectLocation platform params code = .ok location) :
    SendsCode platform lossy params location code := by
  rw [redirectLocation_eq appends] at redirected
  cases parsed : platform.url.parse params.redirectUri with
  | error reason =>
      rw [parsed] at redirected
      cases redirected
  | ok base =>
      rw [parsed] at redirected
      cases redirected
      exact ⟨base, answerUrl base params code, parsed, answerUrl_sameBase base code, rfl,
        answerUrl_queryPairs lossy base code⟩

/-- A bearer of a token that is recorded and not expired is told what the
record says. -/
theorem AsksForUser.answer_of_recorded {token : String} {claims : AccessTokenClaims}
    {record : TokenRecord} (asks : AsksForUser token arrival.request)
    (read : state.jwtIssuer.accessTokenClaims token = some claims)
    (iss : claims.iss = state.jwtIssuer.issuer) (aud : claims.aud = state.jwtIssuer.issuer)
    (unexpired : arrival.moment.clock.epochSecs ≤ claims.exp)
    (recorded : store.records claims.jti = some record) :
    (httpServer framework platform state jwk).answer store arrival =
      .json record.userInfo.toJson := by
  have answered : userinfoHandler state arrival.request.headers arrival.moment.clock store =
      .ok record.userInfo :=
    userinfoHandler_eq_ok_iff.mpr ⟨token, claims, record, asks.bearer,
      JwtIssuer.verifyAccessToken_eq_some_iff.mpr ⟨read, iss, aud, by omega⟩, recorded, rfl⟩
  rw [asks.answer, answered]
  rfl

/-- On the wire an honest exchange completes around everything else the server
is asked: the redirect carries a code, the code is good for tokens until
somebody presents it, and the access token is good for what the certificate and
the configuration say about the user until it expires. -/
theorem http_flow_completes (framework : Framework) (platform : Platform) (state : AppState)
    (jwk : Jwk) (client : ClientConfig) (headers : HeaderMap) (params : AuthorizeParams)
    (stamps : MintReadings) (clientSecret codeVerifier : Option String) (readings : Readings)
    (appends : AppendsPairs platform.url)
    (honest : HonestExchange platform state client headers params stamps clientSecret codeVerifier
      readings.verifiedAt)
    (issuable : Issuable state readings) :
    let machine := httpServer framework platform state jwk
    ∃ code location headerValue user, SendsCode platform framework.lossy params location code ∧
      headers.text state.userHeader = some headerValue ∧
      state.userManager.resolve platform headerValue = .ok user ∧
      (∀ before arrival, AsksForCode params headers arrival.request →
        arrival.moment.minting = stamps →
        machine.answer (machine.after .new before) arrival = .redirect location) ∧
      ∀ before arrival,
        AsksForTokens framework (params.tokenParams code clientSecret codeVerifier)
          arrival.request →
        arrival.moment.redeeming = readings →
        (∀ call ∈ calls framework before, ∀ req, call.Accepted platform state req →
          codeReplayKey platform req.code ≠ codeReplayKey platform code) →
        ∃ (response : TokenResponse) (claims : AccessTokenClaims),
          machine.answer (machine.after .new before) arrival = .json response.toJson ∧
          state.jwtIssuer.accessTokenClaims response.accessToken = some claims ∧
          ∀ later bearer, AsksForUser response.accessToken bearer.request →
            (∀ call ∈ calls framework later, call.jti? platform ≠ some claims.jti) →
            bearer.moment.clock.epochSecs ≤ claims.exp →
            machine.answer (machine.after .new (before ++ arrival :: later)) bearer = .json
              (UserInfo.toJson {
                sub := user.subject
                groups := resolveGroups client.groups state.defaultGroups
                scope := (params.scope.map Text.splitWhitespace).getD []
                clientId := params.clientId }) := by
  intro machine
  obtain ⟨authReq, code, location, accepted, made, sent, redirected, -, checked⟩ := honest.minted
  obtain ⟨-, method, found, headerValue, user, -, registered, -, present, resolved, rfl⟩ :=
    checkAuthorize_eq_ok_iff.mp accepted
  cases honest.found.symm.trans registered
  obtain ⟨expiresAt, bounded⟩ := issuable.bounded
  obtain ⟨tokens, signed⟩ : ∃ tokens, signTokens platform state.tokenContext params.clientId
      ((params.request state method client user).toCode stamps.createdAt) readings = .ok tokens :=
    exists_signTokens issuable.signing issuable.idFits issuable.accessFits
  obtain ⟨exp, -, read⟩ := JwtIssuer.accessTokenClaims_of_issueAccessToken
    (signTokens_eq_ok_iff.mp signed).2
  refine ⟨code, location, headerValue, user, sendsCode_of_redirectLocation _ appends sent, present,
    resolved, ?_, ?_⟩
  · rintro before arrival asks rfl
    rw [asks.answer, redirected]
    rfl
  · rintro before arrival asks rfl unpresented
    have unused : codeReplayKey platform code ∉ (machine.after .new before).consumedCodes := by
      rw [httpServer_after]
      intro consumed
      obtain ⟨call, membership, req, wasAccepted, same⟩ := mem_consumedCodes_iff.mp consumed
      exact unpresented call membership req wasAccepted same
    have step := asks.step_of_accepted jwk checked unused signed bounded
    refine ⟨_, _, congrArg Prod.fst step, read, ?_⟩
    intro later bearer presents distinct unexpired
    have recorded : (machine.after .new (before ++ arrival :: later)).records
        (randomJti arrival.moment.redeeming.jtiBytes) = some (tokenRecord params.clientId
          ((params.request state method client user).toCode stamps.createdAt)
          arrival.moment.redeeming expiresAt) := by
      rw [Machine.after_append, Machine.after_cons, records_httpServer_after later distinct,
        Machine.next, step, recordToken_records, Function.update_self]
    exact presents.answer_of_recorded read rfl rfl unexpired recorded

theorem Reference.asksForCode_sample (params : AuthorizeParams) :
    AsksForCode params userHeaders (authorizeArrival params).request where
  method := rfl
  path := rfl
  query := rfl
  headers := rfl

theorem Reference.asksForTokens_sample (params : TokenParams) :
    AsksForTokens Reference.framework params (tokenArrival params).request where
  method := rfl
  path := rfl
  body := by simp only [tokenArrival]
  isForm := by
    have isForm : formHeaders.text "content-type" = some "application/x-www-form-urlencoded" := by
      decide +kernel
    simp [Reference.framework, tokenArrival, isForm]
  unauthorized := by
    have absent : formHeaders.text "authorization" = none := by decide
    simp only [tokenArrival, absent]

/-- The public client is sent its code and gets its tokens. -/
theorem http_flow_completes_sample :
    let params := Reference.authorizeParams (some "verifier") "https://app.example/cb"
    let machine := httpServer Reference.framework Reference.platform Reference.state Reference.jwk
    ∃ (code location : String) (response : TokenResponse),
      SendsCode Reference.platform .replaceAll params location code ∧
      machine.answer (machine.after .new []) (Reference.authorizeArrival params) =
        .redirect location ∧
      machine.answer (machine.after .new [])
        (Reference.tokenArrival (params.tokenParams code none (some "verifier"))) =
          .json response.toJson := by
  intro params machine
  obtain ⟨code, location, _, _, sends, -, -, redirects, completes⟩ :=
    http_flow_completes Reference.framework Reference.platform Reference.state Reference.jwk
      Reference.publicClient Reference.userHeaders params Reference.moment.minting none
      (some "verifier") Reference.moment.redeeming (fun _ _ _ => rfl)
      Reference.honestExchange_sample Reference.issuable_sample
  obtain ⟨response, -, answered, -, -⟩ := completes []
    (Reference.tokenArrival (params.tokenParams code none (some "verifier")))
    (Reference.asksForTokens_sample _) rfl
    (fun _ membership => absurd membership List.not_mem_nil)
  exact ⟨code, location, response, sends,
    redirects [] _ (Reference.asksForCode_sample params) rfl, answered⟩

end OpenidTlsConnector
