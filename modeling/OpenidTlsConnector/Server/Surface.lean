import OpenidTlsConnector.Foundations.Simulation
import OpenidTlsConnector.Server.HttpFlow

/-!
# What the endpoints can say

Each endpoint has its own errors, each with one status.  Only `/authorize` sends
the user agent elsewhere, and only a form posted to `/token` can make a
difference to what is answered later.
-/

namespace OpenidTlsConnector

open Foundations OIDCAuthCodePKCEFlow

/-! ## Statuses and error codes -/

/-- The pairs of status and `error` an endpoint can answer with. -/
def Endpoint.errors : Endpoint → List (Nat × String)
  | .authorize => [(400, "unsupported_response_type"), (400, "invalid_request"),
      (400, "unauthorized_client"), (403, "access_denied"), (500, "server_error")]
  | .token => [(400, "invalid_request"), (400, "invalid_grant"), (401, "invalid_client"),
      (500, "server_error")]
  | .userinfo => [(401, "invalid_token")]
  | .discovery | .jwks => []

/-- Why the framework refuses a request that has found its endpoint. -/
def Endpoint.rejections : Endpoint → List Rejection
  | .authorize => [.queryString]
  | .token => [.formType, .formBody]
  | .discovery | .userinfo | .jwks => []

/-- The answers of an endpoint. -/
inductive Endpoint.Answers : Endpoint → Answer → Prop where
  | document {endpoint body} (notAuthorize : endpoint ≠ .authorize) :
      Answers endpoint (.json body)
  | redirected {location} : Answers .authorize (.redirect location)
  | refused {endpoint : Endpoint} {reply : ErrorReply}
      (listed : (reply.status, reply.error) ∈ endpoint.errors)
      (described : reply.errorDescription.isSome) : Answers endpoint (.error reply)
  | rejected {endpoint : Endpoint} {reason} (listed : reason ∈ endpoint.rejections) :
      Answers endpoint (.rejected reason)
  | aborted {endpoint} (readsClock : endpoint = .authorize ∨ endpoint = .token) :
      Answers endpoint .aborted

/-- An error of the protocol as an endpoint may answer it. -/
def Endpoint.Raises (endpoint : Endpoint) (error : OIDCError) : Prop :=
  (statusForError error, error.errorCode) ∈ endpoint.errors

variable {framework : Framework} {platform : Platform} {state : AppState} {jwk : Jwk}
  {arrival : Arrival} {store : InMemoryTokenStore} {headers : HeaderMap}

theorem Endpoint.Raises.answers {endpoint : Endpoint} {error : OIDCError}
    (raises : endpoint.Raises error) : endpoint.Answers (.error error.intoResponse) :=
  .refused raises rfl

@[simp]
theorem raises_authorize_iff {error : OIDCError} : Endpoint.authorize.Raises error ↔
    match error with
    | .invalidRequest _ | .unauthorizedClient _ | .accessDenied _ | .unsupportedResponseType _
    | .serverError _ => True
    | .invalidScope _ | .invalidGrant _ | .invalidClient _ | .temporarilyUnavailable _ => False := by
  cases error <;> simp [Endpoint.Raises, Endpoint.errors, statusForError, OIDCError.errorCode]

@[simp]
theorem raises_token_iff {error : OIDCError} : Endpoint.token.Raises error ↔
    match error with
    | .invalidRequest _ | .invalidGrant _ | .invalidClient _ | .serverError _ => True
    | .unauthorizedClient _ | .accessDenied _ | .unsupportedResponseType _ | .invalidScope _
    | .temporarilyUnavailable _ => False := by
  cases error <;> simp [Endpoint.Raises, Endpoint.errors, statusForError, OIDCError.errorCode]

theorem checkAuthorize_failsOnly (headers : HeaderMap) (params : AuthorizeParams) :
    (checkAuthorize platform state headers params).FailsOnly Endpoint.authorize.Raises := by
  apply Outcome.FailsOnly.bind
  · apply Outcome.failsOnly_ofExcept
    intro error untyped
    rw [ResponseType.fromStr] at untyped
    split_ifs at untyped
    cases untyped
    simp
  intro _ _
  apply Outcome.FailsOnly.bind
  · apply Outcome.failsOnly_ofExcept
    intro error unsupported
    unfold parseChallengeMethod at unsupported
    split at unsupported <;> cases unsupported
    simp
  intro method _
  refine Outcome.FailsOnly.bind (Outcome.failsOnly_okOr _ (by simp)) fun client _ => ?_
  split_ifs with registered
  · refine Outcome.FailsOnly.bind (Outcome.failsOnly_okOr _ (by simp)) fun headerValue _ => ?_
    refine Outcome.FailsOnly.bind (Outcome.failsOnly_mapError _ (by simp)) fun user _ => ?_
    exact Outcome.failsOnly_ok _
  · exact Outcome.failsOnly_error (by simp)

theorem authorizeHandler_failsOnly (headers : HeaderMap) (params : AuthorizeParams)
    (stamps : MintReadings) :
    (authorizeHandler platform state headers params stamps).FailsOnly
      Endpoint.authorize.Raises := by
  refine Outcome.FailsOnly.bind (checkAuthorize_failsOnly headers params) fun req _ => ?_
  apply Outcome.FailsOnly.bind
  · exact Outcome.FailsOnly.bind (Outcome.failsOnly_expect _) fun _ _ => Outcome.failsOnly_ok _
  intro minted _
  apply Outcome.failsOnly_ofExcept
  intro error unsent
  rw [redirectLocation, except_bind_eq_error_iff] at unsent
  rcases unsent with unparsed | ⟨url, -, sent⟩
  · obtain ⟨reason, -, rfl⟩ := except_mapError_eq_error_iff.mp unparsed
    simp
  · cases sent

theorem checkTokenRequest_raises {flow : OIDCAuthCodePKCEFlow} {clients : ClientRegistry}
    {req : AccessTokenRequest} {now : SystemTime} {error : OIDCError}
    (rejected : flow.checkTokenRequest platform clients req now = .error error) :
    Endpoint.token.Raises error := by
  rw [checkTokenRequest, except_bind_eq_error_iff] at rejected
  rcases rejected with unverified | ⟨authCode, -, rejected⟩
  · obtain ⟨cause, -, rfl⟩ := except_mapError_eq_error_iff.mp unverified
    cases cause <;> simp [mapCodeVerificationError]
  rw [except_bind_eq_error_iff] at rejected
  rcases rejected with unmatched | ⟨_, -, rejected⟩
  · obtain ⟨cause, -, rfl⟩ := except_mapError_eq_error_iff.mp unmatched
    simp [mapTokenRequestError]
  split_ifs at rejected with registered
  · cases judged : clients.validateClientSecret req.clientId req.clientSecret with
    | allow =>
        rw [judged] at rejected
        cases rejected
    | deny =>
        rw [judged] at rejected
        cases rejected
        simp
  · cases rejected
    simp

theorem tokenRequest_raises {params : TokenParams} {error : OIDCError}
    (rejected : tokenRequest platform headers params = .error error) :
    Endpoint.token.Raises error := by
  rw [tokenRequest, except_bind_eq_error_iff] at rejected
  rcases rejected with unsupported | ⟨grantType, -, unnamed⟩
  · rw [GrantType.fromStr] at unsupported
    split_ifs at unsupported
    cases unsupported
    simp
  · dsimp only at unnamed
    split at unnamed <;> cases unnamed
    simp

theorem accessTokenRequest_failsOnly (req : AccessTokenRequest) (readings : Readings)
    (store : InMemoryTokenStore) :
    (state.flow.accessTokenRequest platform state.tokenContext req readings store).1.FailsOnly
      Endpoint.token.Raises := by
  have ending := accessTokenRequest_redemption platform state.flow state.tokenContext req readings
    store
  intro error failed
  generalize state.flow.accessTokenRequest platform state.tokenContext req readings store =
    result at ending failed
  cases ending with
  | refused rejected =>
      cases failed
      exact checkTokenRequest_raises rejected
  | replayed =>
      cases failed
      simp [codeAlreadyUsed]
  | unsigned _ _ unsigned =>
      cases failed
      obtain ⟨cause, rfl⟩ := signTokens_eq_error unsigned
      simp
  | aborted | redeemed => cases failed

theorem tokenHandler_failsOnly (headers : HeaderMap) (params : TokenParams) (readings : Readings)
    (store : InMemoryTokenStore) :
    (tokenHandler platform state headers params readings store).1.FailsOnly
      Endpoint.token.Raises := by
  cases parsed : tokenRequest platform headers params with
  | error failure =>
      rw [tokenHandler, parsed]
      exact Outcome.failsOnly_error (tokenRequest_raises parsed)
  | ok req =>
      rw [tokenHandler, parsed]
      exact accessTokenRequest_failsOnly req readings store

theorem userinfoHandler_refused {clock : SystemTime} {reply : ErrorReply}
    (refused : userinfoHandler state headers clock store = .error reply) :
    ∃ description, reply = unauthenticatedError description := by
  rw [userinfoHandler, except_bind_eq_error_iff] at refused
  rcases refused with unverified | ⟨claims, -, unknown⟩
  · rw [verifyBearerToken, except_bind_eq_error_iff] at unverified
    rcases unverified with unreadable | ⟨token, -, invalid⟩
    · unfold bearerToken at unreadable
      split at unreadable
      · exact ⟨_, (Except.error.inj unreadable).symm⟩
      · split at unreadable <;> cases unreadable
        exact ⟨_, rfl⟩
    · split at invalid <;> cases invalid
      exact ⟨_, rfl⟩
  · split at unknown <;> cases unknown
    exact ⟨_, rfl⟩

/-- What an outcome becomes is an answer of the endpoint, if its errors are. -/
theorem Endpoint.answers_ofOutcome {endpoint : Endpoint} {Result : Type}
    {outcome : Outcome OIDCError Result} {answer : Result → Answer}
    (fails : outcome.FailsOnly endpoint.Raises)
    (succeeds : ∀ result, endpoint.Answers (answer result))
    (readsClock : endpoint = .authorize ∨ endpoint = .token) :
    endpoint.Answers (.ofOutcome answer outcome) := by
  cases outcome with
  | ok result => exact succeeds result
  | error error => exact (fails error rfl).answers
  | panic => exact .aborted readsClock

theorem authorizeParams_rejected {request : Request} {reason : Rejection}
    (rejected : request.authorizeParams framework = .error reason) :
    reason ∈ Endpoint.authorize.rejections := by
  unfold Request.authorizeParams at rejected
  split at rejected <;> cases rejected
  simp [Endpoint.rejections]

theorem tokenParams_rejected {request : Request} {reason : Rejection}
    (rejected : request.tokenParams framework = .error reason) :
    reason ∈ Endpoint.token.rejections := by
  unfold Request.tokenParams at rejected
  split_ifs at rejected
  · split at rejected <;> cases rejected
    simp [Endpoint.rejections]
  · cases rejected
    simp [Endpoint.rejections]

/-- Whatever the store holds, an endpoint answers with one of its answers. -/
theorem serve_answers (framework : Framework) (platform : Platform) (state : AppState) (jwk : Jwk)
    (endpoint : Endpoint) (arrival : Arrival) (store : InMemoryTokenStore) :
    endpoint.Answers (serve framework platform state jwk endpoint arrival store).1 := by
  cases endpoint with
  | discovery | jwks => exact .document (by simp)
  | authorize =>
      cases read : arrival.request.authorizeParams framework with
      | error reason =>
          simp only [serve, read]
          exact .rejected (authorizeParams_rejected read)
      | ok params =>
          simp only [serve, read]
          exact Endpoint.answers_ofOutcome (authorizeHandler_failsOnly _ params _)
            (fun _ => .redirected) (Or.inl rfl)
  | token =>
      cases read : arrival.request.tokenParams framework with
      | error reason =>
          simp only [serve, read]
          exact .rejected (tokenParams_rejected read)
      | ok params =>
          simp only [serve, read]
          exact Endpoint.answers_ofOutcome (tokenHandler_failsOnly _ params _ store)
            (fun _ => .document (by simp)) (Or.inr rfl)
  | userinfo =>
      simp only [serve]
      cases answered : userinfoHandler state arrival.request.headers arrival.moment.clock store with
      | ok info => exact .document (by simp)
      | error reply =>
          obtain ⟨description, rfl⟩ := userinfoHandler_refused answered
          exact .refused (by simp [Endpoint.errors, unauthenticatedError]) rfl

/-- The library writes the registered URIs it can parse in printable ASCII. -/
def PrintsRegistered (library : UrlLibrary) (clients : ClientRegistry) : Prop :=
  ∀ client ∈ clients.clients, ∀ redirectUri ∈ client.redirectUris, ∀ url,
    library.parse redirectUri = .ok url → Text.Printable url.serialize

/-- Only an answer of `/authorize` has a location. -/
theorem Endpoint.Answers.located {endpoint : Endpoint} {sent : Response} {location : String}
    (answers : endpoint.Answers (.response sent)) (located : sent.location = some location) :
    endpoint = .authorize := by
  cases answers with
  | redirected => rfl
  | document | refused => cases located

theorem serve_location {sent : Response} {location : String}
    (answered : (serve framework platform state jwk .authorize arrival store).1 = .response sent)
    (located : sent.location = some location) :
    ∃ params, arrival.request.authorizeParams framework = .ok params ∧
      authorizeHandler platform state arrival.request.headers params arrival.moment.minting =
        .ok location := by
  cases read : arrival.request.authorizeParams framework with
  | error reason =>
      simp only [serve, read] at answered
      cases answered
  | ok params =>
      refine ⟨params, rfl, ?_⟩
      simp only [serve, read] at answered
      cases handled : authorizeHandler platform state arrival.request.headers params
          arrival.moment.minting with
      | ok location' =>
          rw [handled] at answered
          cases answered
          cases located
          rfl
      | error failure =>
          rw [handled] at answered
          cases answered
          cases located
      | panic =>
          rw [handled] at answered
          cases answered

/-- The code and the state are escaped, so nothing in them can end the header. -/
theorem printable_redirectLocation (appends : AppendsPairs platform.url)
    {params : AuthorizeParams} {encodedCode location : String}
    (prints : ∀ url, platform.url.parse params.redirectUri = .ok url →
      Text.Printable url.serialize)
    (redirected : redirectLocation platform params encodedCode = .ok location) :
    Text.Printable location := by
  rw [redirectLocation_eq appends] at redirected
  cases parsed : platform.url.parse params.redirectUri with
  | error reason =>
      rw [parsed] at redirected
      cases redirected
  | ok base =>
      rw [parsed] at redirected
      cases redirected
      have withCode := Url.printable_appendEncodedPair (prints base parsed) "code" encodedCode
      unfold answerUrl
      cases params.state with
      | none => exact withCode
      | some stateVal => exact Url.printable_appendEncodedPair withCode "state" stateVal

/-- In every run, whoever is sent to another location asked at `/authorize`, and
is sent to a URI of the client that the query names, with the code and the
state; and whatever these hold, the location is read from its header as it was
written. -/
theorem httpServer_location (framework : Framework) (platform : Platform) (state : AppState)
    (jwk : Jwk) (run : List Arrival) (arrival : Arrival) (appends : AppendsPairs platform.url)
    (prints : PrintsRegistered platform.url state.clients) {sent : Response} {location : String}
    (answered : (httpServer framework platform state jwk).answer
      ((httpServer framework platform state jwk).after .new run) arrival = .response sent)
    (located : sent.location = some location) :
    arrival.request.endpoint = .ok .authorize ∧
      (HeaderValue.ofString location).toStr = some location ∧
      ∃ params client code, arrival.request.authorizeParams framework = .ok params ∧
        state.clients.findById params.clientId = some client ∧
        params.redirectUri ∈ client.redirectUris ∧
        SendsCode platform framework.lossy params location code := by
  generalize (httpServer framework platform state jwk).after .new run = store at answered
  cases reached : arrival.request.endpoint with
  | error reason => simp [Machine.answer, httpServer, reached] at answered
  | ok endpoint =>
      have answers := serve_answers framework platform state jwk endpoint arrival store
      simp only [Machine.answer, httpServer, reached] at answered
      cases served : (serve framework platform state jwk endpoint arrival store).1 with
      | rejected reason => simp [served, Answer.withoutBody] at answered
      | aborted => simp [served, Answer.withoutBody] at answered
      | response whole =>
          have stays : sent.location = whole.location := by
            rw [served] at answered
            split_ifs at answered <;> (cases answered; rfl)
          rw [served] at answers
          have isAuthorize := answers.located (stays.symm.trans located)
          subst isAuthorize
          obtain ⟨params, read, handled⟩ := serve_location served (stays.symm.trans located)
          obtain ⟨req, minted, checked, -, redirected⟩ := authorizeHandler_eq_ok_iff.mp handled
          obtain ⟨-, _, client, _, _, -, found, registered, -, -, -⟩ :=
            checkAuthorize_eq_ok_iff.mp checked
          refine ⟨rfl, ?_, params, client, minted.2, read, found, registered,
            sendsCode_of_redirectLocation framework.lossy appends redirected⟩
          apply HeaderValue.toStr_ofString
          apply printable_redirectLocation appends _ redirected
          exact prints client (List.mem_of_find?_eq_some found) params.redirectUri registered

/-- The sample redirect is sent and read. -/
theorem httpServer_location_sample : ∃ location,
    (httpServer Reference.framework Reference.platform Reference.state Reference.jwk).answer
      ((httpServer Reference.framework Reference.platform Reference.state Reference.jwk).after .new
        []) (Reference.authorizeArrival
          (Reference.authorizeParams (some "verifier") "https://app.example/cb")) =
        .redirect location ∧
      (HeaderValue.ofString location).toStr = some location := by
  obtain ⟨_, _, location, -, -, -, redirects, -, -⟩ := Reference.honestExchange_sample.minted
  have prints : PrintsRegistered Reference.platform.url Reference.state.clients := by
    have parsed : ∀ client ∈ Reference.state.clients.clients,
        ∀ redirectUri ∈ client.redirectUris, ∀ url ∈ (Url.parsePlain redirectUri).toList,
          Text.Printable url.serialize := by decide
    intro client membership redirectUri registered url written
    apply parsed client membership redirectUri registered url
    exact Option.mem_toList.mpr (Url.plainLibrary_parse_eq_ok_iff.mp written)
  have answered :
      (httpServer Reference.framework Reference.platform Reference.state Reference.jwk).answer
        ((httpServer Reference.framework Reference.platform Reference.state Reference.jwk).after
          .new []) (Reference.authorizeArrival
            (Reference.authorizeParams (some "verifier") "https://app.example/cb")) =
          .redirect location := by
    rw [(Reference.asksForCode_sample _).answer]
    exact congrArg (Answer.ofOutcome Answer.redirect) redirects
  exact ⟨location, answered, (httpServer_location Reference.framework Reference.platform
    Reference.state Reference.jwk [] _ (fun _ _ _ => rfl) prints answered rfl).2.1⟩

/-! ## What makes a difference -/

/-- Success, an internal error, or no answer. -/
def Answer.settles : Answer → Bool
  | .response sent => sent.status == 200 || sent.status == 500
  | .rejected _ => false
  | .aborted => true

/-- A request to `/token` that got such an answer. -/
def matters (entry : Arrival × Answer) : Bool :=
  match entry.1.request.endpoint with
  | .ok .token => entry.2.settles
  | _ => false

theorem serve_token_harmless
    (unsettled : (serve framework platform state jwk .token arrival store).1.settles = false) :
    (serve framework platform state jwk .token arrival store).2 = store := by
  cases read : arrival.request.tokenParams framework with
  | error reason => simp [serve, read]
  | ok params =>
      cases parsed : tokenRequest platform arrival.request.headers params with
      | error error => simp [serve, read, tokenHandler, parsed]
      | ok req =>
          have ending := accessTokenRequest_redemption platform state.flow state.tokenContext req
            arrival.moment.redeeming store
          simp only [serve, read, tokenHandler, parsed, Prod.map_fst, Prod.map_snd, id_eq]
            at unsettled ⊢
          generalize state.flow.accessTokenRequest platform state.tokenContext req
            arrival.moment.redeeming store = result at ending unsettled ⊢
          cases ending with
          | refused | replayed => rfl
          | unsigned _ _ failed =>
              obtain ⟨cause, rfl⟩ := signTokens_eq_error failed
              cases unsettled
          | aborted | redeemed => cases unsettled

/-- A request that does not matter leaves the store alone. -/
theorem httpServer_harmless (store : InMemoryTokenStore) (arrival : Arrival)
    (harmless : matters (arrival,
      (httpServer framework platform state jwk).answer store arrival) = false) :
    (httpServer framework platform state jwk).next store arrival = store := by
  cases reached : arrival.request.endpoint with
  | error reason => simp [Machine.next, httpServer, reached]
  | ok endpoint =>
      cases endpoint with
      | discovery | jwks | userinfo => simp [Machine.next, httpServer, serve, reached]
      | authorize =>
          cases read : arrival.request.authorizeParams framework <;>
            simp [Machine.next, httpServer, serve, reached, read]
      | token =>
          have posted : arrival.request.method ≠ .head := by
            simp [(Request.method_of_token reached).2]
          simp only [matters, reached, Machine.answer, httpServer, posted, if_false] at harmless
          simp only [Machine.next, httpServer, reached]
          exact serve_token_harmless harmless

/-- Struck from any run, all requests but those that `/token` answered with
success or an internal error, or not at all, are not missed: the others are
answered as before, and so is every later request. -/
theorem httpServer_strike (framework : Framework) (platform : Platform) (state : AppState)
    (jwk : Jwk) (run : List Arrival) :
    let machine := httpServer framework platform state jwk
    let kept := ((machine.trace .new run).filter matters).map Prod.fst
    machine.trace .new kept = (machine.trace .new run).filter matters ∧
      ∀ later, machine.trace (machine.after .new kept) later =
        machine.trace (machine.after .new run) later := by
  intro machine kept
  obtain ⟨sameTrace, sameState⟩ :=
    machine.trace_filter .new matters httpServer_harmless run
  exact ⟨sameTrace, fun later => by rw [sameState]⟩

end OpenidTlsConnector
