import OpenidTlsConnector.Reference.HttpRun
import OpenidTlsConnector.Server.Surface

/-!
# Tokens on the wire

No route takes an access token back, so it is good at `/userinfo` exactly from
its issue to its expiry.  What is then said about the user goes back, through
the token and the code, to the certificate the proxy saw at `/authorize`.
-/

namespace OpenidTlsConnector

open Foundations OIDCAuthCodePKCEFlow

/-- After the run `before` the request is answered with tokens. -/
structure TokensGiven (framework : Framework) (platform : Platform) (state : AppState) (jwk : Jwk)
    (before : List Arrival) (arrival : Arrival) (response : TokenResponse) : Prop where
  reached : arrival.request.endpoint = .ok .token
  answered : (httpServer framework platform state jwk).answer
    ((httpServer framework platform state jwk).after .new before) arrival = .json response.toJson

variable {framework : Framework} {platform : Platform} {state : AppState} {jwk : Jwk}
  {arrival : Arrival} {run before : List Arrival} {past later : List Call} {call : Call}
  {response : TokenResponse}

/-- A position in the calls of a run is a position in the run. -/
theorem calls_eq_append_cons_iff :
    calls framework run = past ++ call :: later ↔ ∃ before arrival after,
      run = before ++ arrival :: after ∧ calls framework before = past ∧
        arrival.call? framework = some call ∧ calls framework after = later := by
  constructor
  · intro split
    obtain ⟨first, rest, rfl, rfl, tail⟩ := List.filterMap_eq_append_iff.mp split
    obtain ⟨skipped, arrival, after, rfl, silent, isCall, rfl⟩ :=
      List.filterMap_eq_cons_iff.mp tail
    refine ⟨first ++ skipped, arrival, after, by simp, ?_, isCall, rfl⟩
    simp [calls, List.filterMap_append, List.filterMap_eq_nil_iff.mpr silent]
  · intro split
    obtain ⟨before, arrival, after, rfl, rfl, isCall, rfl⟩ := split
    simp [calls, List.filterMap_append, isCall]

theorem after_new (run : List Arrival) :
    (httpServer framework platform state jwk).after .new run =
      storeAfter platform state (calls framework run) := httpServer_after run

/-- Tokens are given in a redemption, and only there. -/
theorem tokensGiven_iff : TokensGiven framework platform state jwk before arrival response ↔
    ∃ call req readings, arrival.call? framework = some call ∧
      Redeemed platform state (calls framework before) call req readings response := by
  constructor
  · intro gives
    obtain ⟨reached, answered⟩ := gives
    cases read : arrival.request.tokenParams framework with
    | error reason =>
        have notHead : arrival.request.method ≠ .head := by
          simp [(Request.method_of_token reached).2]
        rw [Machine.answer, httpServer_step reached notHead] at answered
        simp [serve, read, Answer.json] at answered
    | ok params =>
        rw [httpServer_answer_token reached read, after_new] at answered
        cases parsed : tokenRequest platform arrival.request.headers params with
        | error failure => simp [tokenHandler, parsed, Answer.ofOutcome, Answer.error, Answer.json,
            ErrorReply.toJson, TokenResponse.toJson] at answered
        | ok req =>
            refine ⟨.token arrival.request.headers params arrival.moment.redeeming, req,
              arrival.moment.redeeming, by simp [Arrival.call?, reached, read, Except.toOption],
              by simp [Call.redeems?, parsed, Except.toOption], ?_⟩
            simp only [tokenHandler, parsed] at answered
            cases ended : (state.flow.accessTokenRequest platform state.tokenContext req
                arrival.moment.redeeming (storeAfter platform state (calls framework before))).1 with
            | ok given =>
                rw [ended] at answered
                simp only [Answer.ofOutcome, Answer.json, Answer.response.injEq,
                  Response.mk.injEq, Option.some.injEq, true_and] at answered
                rw [TokenResponse.toJson_injective answered]
            | error failure =>
                rw [ended] at answered
                simp [Answer.ofOutcome, Answer.error, Answer.json, ErrorReply.toJson,
                  TokenResponse.toJson] at answered
            | panic =>
                rw [ended] at answered
                cases answered
  · intro redeems
    obtain ⟨call, req, readings, isCall, redeemed⟩ := redeems
    obtain ⟨reached, params, read, rfl⟩ := Arrival.call?_of_redeems isCall redeemed.requested
    have answered : (server platform state).answer
        (storeAfter platform state (calls framework before))
        (.token arrival.request.headers params arrival.moment.redeeming) = .tokens (.ok response) := by
      rw [answer_of_redeems redeemed.requested, redeemed.answered]
    have handled : (tokenHandler platform state arrival.request.headers params
        arrival.moment.redeeming (storeAfter platform state (calls framework before))).1 =
          .ok response := Reply.tokens.inj answered
    refine ⟨reached, ?_⟩
    rw [httpServer_answer_token reached read, after_new, handled]
    rfl

/-! ## How long a token is good -/

theorem httpServer_answer_userinfo (reached : arrival.request.endpoint = .ok .userinfo)
    (notHead : arrival.request.method ≠ .head) :
    (httpServer framework platform state jwk).answer
        ((httpServer framework platform state jwk).after .new run) arrival =
      .ofExcept (fun info => .json info.toJson) (userinfoHandler state arrival.request.headers
        arrival.moment.clock (storeAfter platform state (calls framework run))) := by
  rw [Machine.answer, httpServer_step reached notHead, after_new]
  rfl

/-- A body that is not that of an error is what the handler says of a user. -/
theorem httpServer_answer_userinfo_eq_json_iff
    (reached : arrival.request.endpoint = .ok .userinfo)
    (notHead : arrival.request.method ≠ .head) {body : Json} :
    (httpServer framework platform state jwk).answer
        ((httpServer framework platform state jwk).after .new run) arrival = .json body ↔
      ∃ info, userinfoHandler state arrival.request.headers arrival.moment.clock
        (storeAfter platform state (calls framework run)) = .ok info ∧ body = info.toJson := by
  rw [httpServer_answer_userinfo reached notHead]
  cases answered : userinfoHandler state arrival.request.headers arrival.moment.clock
      (storeAfter platform state (calls framework run)) with
  | ok info => simp [Answer.ofExcept, Answer.json, eq_comm]
  | error reply =>
      obtain ⟨description, rfl⟩ := userinfoHandler_refused answered
      simp [Answer.ofExcept, Answer.error, Answer.json, unauthenticatedError]

/-- Since nothing on the wire revokes, a token that was given is issued. -/
theorem since_issues_iff {token jti : String} :
    Since (Issues platform state token jti) (· = Call.revoke jti) (calls framework run) ↔
      ∃ before granting after call req readings response,
        run = before ++ granting :: after ∧ granting.call? framework = some call ∧
        Redeemed platform state (calls framework before) call req readings response ∧
        response.accessToken = token ∧ randomJti readings.jtiBytes = jti := by
  constructor
  · intro issued
    obtain ⟨past, call, later, split, ⟨req, readings, response, redeemed, same, drawn⟩, -⟩ := issued
    obtain ⟨before, granting, after, rfl, rfl, isCall, -⟩ := calls_eq_append_cons_iff.mp split
    exact ⟨before, granting, after, call, req, readings, response, rfl, isCall, redeemed, same,
      drawn⟩
  · intro given
    obtain ⟨before, granting, after, call, req, readings, response, rfl, isCall, redeemed, same,
      drawn⟩ := given
    refine ⟨calls framework before, call, calls framework after,
      calls_eq_append_cons_iff.mpr ⟨before, granting, after, rfl, rfl, isCall, rfl⟩,
      ⟨req, readings, response, redeemed, same, drawn⟩, ?_⟩
    rintro revoked membership rfl
    exact not_mem_calls_revoke after membership

/-- What is said at `/userinfo` is said of a token that was given. -/
theorem httpServer_answer_eq_json_iff_given
    (reached : arrival.request.endpoint = .ok .userinfo)
    (notHead : arrival.request.method ≠ .head)
    (fresh : FreshJtis platform (calls framework run))
    (unforgeable : ∀ token claims, bearerToken arrival.request.headers = .ok token →
      state.jwtIssuer.keys.verify token = some claims →
      ∃ call ∈ calls framework run, call.Signs platform state token) {body : Json} :
    (httpServer framework platform state jwk).answer
        ((httpServer framework platform state jwk).after .new run) arrival = .json body ↔
      ∃ before granting after response claims, run = before ++ granting :: after ∧
        TokensGiven framework platform state jwk before granting response ∧
        bearerToken arrival.request.headers = .ok response.accessToken ∧
        state.jwtIssuer.accessTokenClaims response.accessToken = some claims ∧
        arrival.moment.clock.epochSecs ≤ claims.exp + 5 ∧ body = claims.userInfo.toJson := by
  simp only [httpServer_answer_userinfo_eq_json_iff reached notHead,
    userinfoHandler_eq_ok_iff_issued _ _ fresh unforgeable, since_issues_iff]
  constructor
  · intro answered
    obtain ⟨info, ⟨token, claims, presented, read, ⟨before, granting, after, call, req, readings,
      response, split, isCall, redeemed, rfl, -⟩, unexpired, rfl⟩, rfl⟩ := answered
    exact ⟨before, granting, after, response, claims, split,
      tokensGiven_iff.mpr ⟨call, req, readings, isCall, redeemed⟩, presented, read, unexpired, rfl⟩
  · intro given
    obtain ⟨before, granting, after, response, claims, split, gives, presented, read, unexpired,
      rfl⟩ := given
    obtain ⟨call, req, readings, isCall, redeemed⟩ := tokensGiven_iff.mp gives
    obtain ⟨claims', -, read', -, -, -, drawn, -, -⟩ := redeemed.accessTokenClaims
    cases read.symm.trans read'
    exact ⟨claims.userInfo, ⟨response.accessToken, claims, presented, read, ⟨before, granting,
      after, call, req, readings, response, split, isCall, redeemed, rfl, drawn.symm⟩, unexpired,
      rfl⟩, rfl⟩

/-- On the wire `/userinfo` answers for exactly the access tokens that `/token`
has given, until five seconds past their expiry, and refuses every other. -/
theorem httpServer_userinfo_iff (framework : Framework) (platform : Platform) (state : AppState)
    (jwk : Jwk) (run : List Arrival) (arrival : Arrival)
    (reached : arrival.request.endpoint = .ok .userinfo)
    (notHead : arrival.request.method ≠ .head)
    (fresh : FreshJtis platform (calls framework run))
    (unforgeable : ∀ token claims, bearerToken arrival.request.headers = .ok token →
      state.jwtIssuer.keys.verify token = some claims →
      ∃ call ∈ calls framework run, call.Signs platform state token) :
    let machine := httpServer framework platform state jwk
    (∀ body, machine.answer (machine.after .new run) arrival = .json body ↔
      ∃ before granting after response claims, run = before ++ granting :: after ∧
        TokensGiven framework platform state jwk before granting response ∧
        bearerToken arrival.request.headers = .ok response.accessToken ∧
        state.jwtIssuer.accessTokenClaims response.accessToken = some claims ∧
        arrival.moment.clock.epochSecs ≤ claims.exp + 5 ∧ body = claims.userInfo.toJson) ∧
      ((∀ body, machine.answer (machine.after .new run) arrival ≠ .json body) →
        ∃ description, machine.answer (machine.after .new run) arrival =
          .error (unauthenticatedError description)) := by
  intro machine
  refine ⟨fun body => httpServer_answer_eq_json_iff_given reached notHead fresh unforgeable, ?_⟩
  intro unanswered
  simp only [machine, httpServer_answer_userinfo reached notHead] at unanswered ⊢
  cases answered : userinfoHandler state arrival.request.headers arrival.moment.clock
      (storeAfter platform state (calls framework run)) with
  | ok info =>
      rw [answered] at unanswered
      exact absurd rfl (unanswered info.toJson)
  | error reply =>
      obtain ⟨description, rfl⟩ := userinfoHandler_refused answered
      exact ⟨description, rfl⟩

/-- The token of the sample run is good. -/
theorem httpServer_userinfo_iff_sample : ∃ arrival body,
    (httpServer Reference.framework Reference.platform Reference.state Reference.jwk).answer
      ((httpServer Reference.framework Reference.platform Reference.state Reference.jwk).after .new
        Reference.exchangeRun) arrival = .json body := by
  obtain ⟨response, claims, redeemed, presented, read, unexpired⟩ := Reference.exchange_sample
  exact ⟨_, _, ((httpServer_userinfo_iff Reference.framework Reference.platform Reference.state
    Reference.jwk Reference.exchangeRun _ (Reference.endpoint_userinfoArrival _)
    (Reference.notHead_userinfoArrival _) Reference.freshJtis_exchangeRun
    (Reference.signed_exchangeRun redeemed presented)).1 _).mpr
      ⟨[_], _, [], response, claims, rfl,
        tokensGiven_iff.mpr ⟨_, _, _, Reference.call?_tokenArrival, redeemed⟩, presented, read,
        unexpired, rfl⟩⟩

/-! ## Whom a token speaks of -/

/-- The record of a redemption says what the code says. -/
theorem Records.userInfo {jti : String} {record : TokenRecord} {req : AccessTokenRequest}
    {readings : Readings} {authCode : AuthorizationCode}
    (records : Records platform state jti record past call)
    (requested : call.redeems? platform = some (req, readings))
    (checked : state.flow.checkTokenRequest platform state.clients req readings.verifiedAt =
      .ok authCode) :
    record.userInfo = {
      sub := authCode.subject
      groups := authCode.groups
      scope := authCode.scope
      clientId := authCode.clientId } := by
  obtain ⟨req', readings', _, authCode', _, redeemed, checked', -, -, rfl⟩ := records
  cases requested.symm.trans redeemed.requested
  cases checked.symm.trans checked'
  obtain ⟨-, matched, -, -⟩ := checkTokenRequest_eq_ok_iff.mp checked
  obtain ⟨sameClient, -, -⟩ :=
    (AuthorizationCode.validateTokenRequest_eq_ok_iff _ _ _ _ _).mp matched
  rw [TokenRecord.userInfo, sameClient]

end OpenidTlsConnector
