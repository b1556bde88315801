import OpenidTlsConnector.Reference.Exchange
import OpenidTlsConnector.Users.Rdns

/-!
# Where `/authorize` sends the user agent

A redirect goes to a URI of the client that is named, and adds a code and the
state to its query.  Whatever is not redirected is refused before a code could
be in the answer, except that a clock before the epoch stops the server.
-/

namespace OpenidTlsConnector

open Foundations OIDCAuthCodePKCEFlow

/-- `append_pair` form-encodes the pair, appends it to the query, and leaves
the other components alone. -/
def AppendsPairs (library : UrlLibrary) : Prop :=
  ∀ url name value, library.appendPair url name value = Url.appendEncodedPair url name value

/-- What a redirect to `location` has come through, and what it carries. -/
structure Redirect (platform : Platform) (lossy : Text.LossyUtf8) (state : AppState)
    (headers : HeaderMap) (params : AuthorizeParams) (stamps : MintReadings) (location : String)
    (client : ClientConfig) (headerValue : String) (user : User) (method : CodeChallengeMethod)
    (base url : Url) (encodedCode : String) : Prop where
  responseType : params.responseType = "code"
  registered : state.clients.findById params.clientId = some client
  redirectUri : params.redirectUri ∈ client.redirectUris
  userHeader : headers.text state.userHeader = some headerValue
  resolved : state.userManager.resolve platform headerValue = .ok user
  challengeMethod : parseChallengeMethod params.codeChallengeMethod = .ok method
  parsed : platform.url.parse params.redirectUri = .ok base
  sent : location = url.serialize
  sameBase : url.SameBase base
  pairs : url.queryPairs lossy = base.queryPairs lossy ++
    ("code", encodedCode) :: params.state.toList.map fun stateVal => ("state", stateVal)
  code : ∀ now : SystemTime, stamps.stampedAt.nanos ≤ now.nanos →
    now.nanos < stamps.stampedAt.nanos + state.flow.codeMaxAge.nanos →
      SignedAuthorizationCode.decodeAndVerify platform encodedCode state.flow.hmacKey
        state.flow.codeMaxAge now =
          .ok ((params.request state method client user).toCode stamps.createdAt)

/-- The errors of `/authorize`: a check that fails, or a registered URI that
is no URL.  Neither has seen the code. -/
def RefusesWithoutCode (platform : Platform) (state : AppState) (headers : HeaderMap)
    (params : AuthorizeParams) (error : OIDCError) : Prop :=
  checkAuthorize platform state headers params = .error error ∨
    ∃ reason, platform.url.parse params.redirectUri = .error reason ∧
      error = .serverError ("Invalid redirect_uri: " ++ reason)

/-- How `/authorize` ends. -/
inductive AuthorizeAnswer (platform : Platform) (lossy : Text.LossyUtf8) (state : AppState)
    (headers : HeaderMap) (params : AuthorizeParams) (stamps : MintReadings) :
    Outcome OIDCError String → Prop where
  | redirected {location client headerValue user method base url encodedCode}
      (redirect : Redirect platform lossy state headers params stamps location client headerValue
        user method base url encodedCode) :
      AuthorizeAnswer platform lossy state headers params stamps (.ok location)
  | refused {error} (refuses : RefusesWithoutCode platform state headers params error) :
      AuthorizeAnswer platform lossy state headers params stamps (.error error)
  | stopped (beforeEpoch : stamps.createdAt.nanos < 0 ∨ stamps.stampedAt.nanos < 0) :
      AuthorizeAnswer platform lossy state headers params stamps .panic

variable {platform : Platform} {state : AppState} {headers : HeaderMap}
  {params : AuthorizeParams} {stamps : MintReadings}

/-! ## The steps of the handler -/

theorem checkAuthorize_ne_panic : checkAuthorize platform state headers params ≠ .panic := by
  simp only [checkAuthorize, ne_eq, Outcome.bind_eq_panic_iff, Outcome.ofExcept_ne_panic,
    Outcome.okOr_ne_panic, false_or, not_exists, not_and]
  intro _ _ method _ client _ panicked
  split_ifs at panicked
  simp only [Outcome.bind_eq_panic_iff, Outcome.okOr_ne_panic, Outcome.mapError_eq_panic_iff,
    UserManager.resolve_ne_panic, Outcome.pure_eq, reduceCtorEq, and_false, exists_false,
    or_false] at panicked

theorem authorizationRequest_ne_error {flow : OIDCAuthCodePKCEFlow} {req : AuthorizationRequest}
    {error : OIDCError} : flow.authorizationRequest platform req stamps ≠ .error error := by
  simp [authorizationRequest, Outcome.bind_eq_error_iff, Outcome.expect_ne_error]

/-- Minting stops the server when the clock is before the epoch. -/
theorem beforeEpoch_of_panic {flow : OIDCAuthCodePKCEFlow} {req : AuthorizationRequest}
    (panicked : flow.authorizationRequest platform req stamps = .panic) :
    stamps.createdAt.nanos < 0 ∨ stamps.stampedAt.nanos < 0 := by
  by_contra after
  rw [not_or, Int.not_lt, Int.not_lt] at after
  obtain ⟨encoded, made⟩ := authorizationRequest_of_afterEpoch platform flow req after.1 after.2
  rw [made] at panicked
  cases panicked

/-- The redirect URI with the code and the state in its query. -/
def answerUrl (base : Url) (params : AuthorizeParams) (encodedCode : String) : Url :=
  let withCode := Url.appendEncodedPair base "code" encodedCode
  match params.state with
  | some stateVal => Url.appendEncodedPair withCode "state" stateVal
  | none => withCode

theorem redirectLocation_eq (appends : AppendsPairs platform.url) (encodedCode : String) :
    redirectLocation platform params encodedCode =
      match platform.url.parse params.redirectUri with
      | .error reason => .error (.serverError ("Invalid redirect_uri: " ++ reason))
      | .ok base => .ok (answerUrl base params encodedCode).serialize := by
  unfold redirectLocation answerUrl
  cases platform.url.parse params.redirectUri with
  | error reason => rfl
  | ok base =>
      unfold AppendsPairs at appends
      simp only [Except.mapError, bind, Except.bind, appends]
      rfl

theorem answerUrl_sameBase (base : Url) (encodedCode : String) :
    (answerUrl base params encodedCode).SameBase base := by
  have code := Url.sameBase_appendEncodedPair base "code" encodedCode
  unfold answerUrl
  cases params.state with
  | none => exact code
  | some stateVal =>
      obtain ⟨scheme, authority, path, fragment⟩ := code
      obtain ⟨scheme', authority', path', fragment'⟩ :=
        Url.sameBase_appendEncodedPair (Url.appendEncodedPair base "code" encodedCode) "state"
          stateVal
      exact ⟨scheme'.trans scheme, authority'.trans authority, path'.trans path,
        fragment'.trans fragment⟩

theorem answerUrl_queryPairs (lossy : Text.LossyUtf8) (base : Url) (encodedCode : String) :
    (answerUrl base params encodedCode).queryPairs lossy = base.queryPairs lossy ++
      ("code", encodedCode) :: params.state.toList.map fun stateVal => ("state", stateVal) := by
  unfold answerUrl
  cases params.state with
  | none => simp [Url.queryPairs_appendEncodedPair]
  | some stateVal => simp [Url.queryPairs_appendEncodedPair]

/-! ## The handler -/

theorem redirect_of_ok (lossy : Text.LossyUtf8) (appends : AppendsPairs platform.url)
    {location : String}
    (redirected : authorizeHandler platform state headers params stamps = .ok location) :
    ∃ client headerValue user method base url encodedCode,
      Redirect platform lossy state headers params stamps location client headerValue user
        method base url encodedCode := by
  obtain ⟨req, minted, checked, made, sent⟩ := authorizeHandler_eq_ok_iff.mp redirected
  obtain ⟨responseType, method, client, headerValue, user, challengeMethod, registered,
    redirectUri, userHeader, resolved, rfl⟩ := checkAuthorize_eq_ok_iff.mp checked
  rw [redirectLocation_eq appends] at sent
  cases parsed : platform.url.parse params.redirectUri with
  | error reason =>
      rw [parsed] at sent
      cases sent
  | ok base =>
      rw [parsed] at sent
      cases sent
      refine ⟨client, headerValue, user, method, base, answerUrl base params minted.2, minted.2, ?_⟩
      exact {
        responseType, registered, redirectUri, userHeader, resolved, challengeMethod, parsed
        sent := rfl
        sameBase := answerUrl_sameBase base minted.2
        pairs := answerUrl_queryPairs lossy base minted.2
        code := fun now stamped fresh => decodeAndVerify_of_minted made stamped fresh }

theorem refusesWithoutCode_of_error (appends : AppendsPairs platform.url) {error : OIDCError}
    (refused : authorizeHandler platform state headers params stamps = .error error) :
    RefusesWithoutCode platform state headers params error := by
  rw [authorizeHandler, Outcome.bind_eq_error_iff] at refused
  rcases refused with unchecked | ⟨req, -, unanswered⟩
  · exact Or.inl unchecked
  · rw [Outcome.bind_eq_error_iff] at unanswered
    rcases unanswered with unmade | ⟨minted, -, unsent⟩
    · exact absurd unmade authorizationRequest_ne_error
    · rw [Outcome.ofExcept_eq_error_iff, redirectLocation_eq appends] at unsent
      cases parsed : platform.url.parse params.redirectUri with
      | ok base =>
          rw [parsed] at unsent
          cases unsent
      | error reason =>
          rw [parsed] at unsent
          cases unsent
          exact Or.inr ⟨reason, parsed, rfl⟩

theorem beforeEpoch_of_stopped
    (stopped : authorizeHandler platform state headers params stamps = .panic) :
    stamps.createdAt.nanos < 0 ∨ stamps.stampedAt.nanos < 0 := by
  rw [authorizeHandler, Outcome.bind_eq_panic_iff] at stopped
  rcases stopped with checking | ⟨req, -, answering⟩
  · exact absurd checking checkAuthorize_ne_panic
  · rw [Outcome.bind_eq_panic_iff] at answering
    rcases answering with minting | ⟨minted, -, sending⟩
    · exact beforeEpoch_of_panic minting
    · exact absurd sending (Outcome.ofExcept_ne_panic _)

/-- `/authorize` redirects to a registered URI of the client with everything
in place, or answers with an error that carries no code, or the clock is
before the epoch and the server stops. -/
theorem authorizeHandler_answer (lossy : Text.LossyUtf8) (appends : AppendsPairs platform.url)
    (state : AppState) (headers : HeaderMap) (params : AuthorizeParams) (stamps : MintReadings) :
    AuthorizeAnswer platform lossy state headers params stamps
      (authorizeHandler platform state headers params stamps) := by
  cases answered : authorizeHandler platform state headers params stamps with
  | ok location =>
      obtain ⟨_, _, _, _, _, _, _, redirect⟩ := redirect_of_ok lossy appends answered
      exact .redirected redirect
  | error error => exact .refused (refusesWithoutCode_of_error appends answered)
  | panic => exact .stopped (beforeEpoch_of_stopped answered)

theorem authorizeHandler_answer_sample :
    AuthorizeAnswer Reference.platform .replaceAll Reference.state Reference.userHeaders
      (Reference.authorizeParams none "https://app.example/cb") (Reference.stamps 1700000000)
      (authorizeHandler Reference.platform Reference.state Reference.userHeaders
        (Reference.authorizeParams none "https://app.example/cb") (Reference.stamps 1700000000)) :=
  authorizeHandler_answer .replaceAll (fun _ _ _ => rfl) _ _ _ _

example : redirectLocation Reference.platform
    (Reference.authorizeParams none "https://app.example/cb?tenant#top") "c0de==" =
      .ok "https://app.example/cb?tenant&code=c0de%3D%3D&state=xyz#top" := by decide

/-- With such a clock, a request that passes every check has no answer. -/
theorem authorizeHandler_beforeEpoch :
    ¬ ((∃ location, authorizeHandler Reference.platform Reference.state Reference.userHeaders
          (Reference.authorizeParams none "https://app.example/cb")
          ⟨Reference.beforeEpoch, Reference.beforeEpoch⟩ = .ok location) ∨
        ∃ error, authorizeHandler Reference.platform Reference.state Reference.userHeaders
          (Reference.authorizeParams none "https://app.example/cb")
          ⟨Reference.beforeEpoch, Reference.beforeEpoch⟩ = .error error) := by
  have registered : "https://app.example/cb" ∈ Reference.publicClient.redirectUris := by decide
  have unserialized : (TimestampedContainer.new ((Reference.authorization none
      "https://app.example/cb").toCode Reference.beforeEpoch) Reference.beforeEpoch).serialize
        Reference.platform = none := by
    rw [Option.eq_none_iff_forall_not_mem]
    intro data serialized
    have after := (TimestampedContainer.serialize_isSome_iff _ _).mp ⟨data, serialized⟩
    exact absurd after.2 (by decide)
  have panics : authorizeHandler Reference.platform Reference.state Reference.userHeaders
      (Reference.authorizeParams none "https://app.example/cb")
      ⟨Reference.beforeEpoch, Reference.beforeEpoch⟩ = .panic := by
    rw [authorizeHandler, Reference.checkAuthorize_sample none registered, Outcome.ok_bind,
      authorizationRequest, SignedAuthorizationCode.signAndEncode]
    rw [unserialized]
    rfl
  rw [panics]
  rintro (⟨_, redirected⟩ | ⟨_, refused⟩)
  · cases redirected
  · cases refused

end OpenidTlsConnector
