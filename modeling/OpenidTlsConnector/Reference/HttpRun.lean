import OpenidTlsConnector.Server.HttpFlow
import OpenidTlsConnector.Server.Userinfo

/-!
# The sample exchange as a run of requests

The public client is sent its code, posts the form, and presents the access
token it is given.
-/

namespace OpenidTlsConnector.Reference

open Foundations

/-- What the public client asks the user agent to fetch. -/
def codeParams : AuthorizeParams := authorizeParams (some "verifier") "https://app.example/cb"

/-- And the form it posts. -/
def codeForm : TokenParams :=
  codeParams.tokenParams (code (authorization (some "verifier") "https://app.example/cb") 1700000000)
    none (some "verifier")

def exchangeRun : List Arrival := [authorizeArrival codeParams, tokenArrival codeForm]

/-- The bearer of the access token, ten seconds later. -/
def userinfoArrival (token : String) : Arrival where
  request := {
    method := .get
    path := "/userinfo"
    query := none
    headers := noHeaders.withAuthorization (some (.ofString ("Bearer " ++ token)))
    body := [] }
  moment := { moment with clock := clock 1700000020 }

theorem endpoint_userinfoArrival (token : String) :
    (userinfoArrival token).request.endpoint = .ok .userinfo :=
  Request.endpoint_of_route ⟨"/userinfo", .get, .userinfo⟩ (by decide) rfl rfl

theorem notHead_userinfoArrival (token : String) :
    (userinfoArrival token).request.method ≠ .head := by
  simp [userinfoArrival]

def exchangeToken : Call := .token formHeaders codeForm (readings 1700000010 1)

def exchangeRequest : AccessTokenRequest :=
  redeem (code (authorization (some "verifier") "https://app.example/cb") 1700000000)
    "https://app.example/cb" (some "verifier")

theorem call?_tokenArrival :
    (tokenArrival codeForm).call? Reference.framework = some exchangeToken :=
  (asksForTokens_sample codeForm).call?

theorem calls_exchangeRun : calls Reference.framework exchangeRun =
    [authorizeCall (some "verifier") "https://app.example/cb", exchangeToken] := by
  have asked : (authorizeArrival codeParams).call? Reference.framework =
      some (authorizeCall (some "verifier") "https://app.example/cb") :=
    (asksForCode_sample codeParams).call?
  simp [calls, exchangeRun, asked, call?_tokenArrival]

theorem exchangeToken_redeems : exchangeToken.redeems? platform =
    some (exchangeRequest, readings 1700000010 1) := by
  have request : tokenRequest platform formHeaders codeForm = .ok _ :=
    (asksForTokens_sample codeForm).tokenRequest
  rw [exchangeToken, Call.redeems?, request]
  rfl

theorem freshJtis_exchangeRun : FreshJtis platform (calls Reference.framework exchangeRun) := by
  rw [calls_exchangeRun, FreshJtis, List.filterMap_cons_none rfl,
    List.filterMap_cons_some (jti?_of_redeems exchangeToken_redeems)]
  exact List.nodup_singleton _

theorem exchangeToken_redeemed : ∃ response,
    Redeemed platform state (calls Reference.framework [authorizeArrival codeParams]) exchangeToken
      exchangeRequest (readings 1700000010 1) response := by
  have silent : storeAfter platform state
      (calls Reference.framework [authorizeArrival codeParams]) = .new := by
    have asked : (authorizeArrival codeParams).call? Reference.framework =
        some (authorizeCall (some "verifier") "https://app.example/cb") :=
      (asksForCode_sample codeParams).call?
    simp only [calls, List.filterMap_cons, asked, List.filterMap_nil]
    rfl
  have registered : "https://app.example/cb" ∈ publicClient.redirectUris := by decide
  obtain ⟨tokens, expiresAt, result⟩ := redeem_sample 1 registered
    (SignedAuthorizationCode.decode_encode platform
      (signedCode (authorization (some "verifier") "https://app.example/cb") 1700000000))
    (by simp : codeReplayKey platform _ ∉ InMemoryTokenStore.new.consumedCodes)
  exact ⟨_, exchangeToken_redeems, silent ▸ congrArg Prod.fst result⟩

/-- The token of the run is presented in time. -/
theorem exchange_sample : ∃ response claims,
    Redeemed platform state (calls Reference.framework [authorizeArrival codeParams]) exchangeToken
      exchangeRequest (readings 1700000010 1) response ∧
    bearerToken (userinfoArrival response.accessToken).request.headers = .ok response.accessToken ∧
    state.jwtIssuer.accessTokenClaims response.accessToken = some claims ∧
    (userinfoArrival response.accessToken).moment.clock.epochSecs ≤ claims.exp + 5 := by
  obtain ⟨response, redeemed⟩ := exchangeToken_redeemed
  obtain ⟨claims, record, read, -, -, added, -, -, -⟩ := redeemed.accessTokenClaims
  have exp : (addU64 false 1700000010 3600 : Outcome JwtError Nat) = .ok 1700003610 := by decide
  have unexpired : claims.exp = 1700003610 := Outcome.ok.inj (added.symm.trans exp)
  refine ⟨response, claims, redeemed,
    bearerToken_withAuthorization noHeaders (graphic_accessToken redeemed), read, ?_⟩
  have inTime : (clock 1700000020).epochSecs ≤ 1700003610 + 5 := by decide
  simpa [unexpired, userinfoArrival] using inTime

/-- A token of the run was signed in it. -/
theorem signed_exchangeRun {response : TokenResponse}
    (redeemed : Redeemed platform state (calls Reference.framework [authorizeArrival codeParams])
      exchangeToken
      exchangeRequest (readings 1700000010 1) response)
    {headers : HeaderMap} (presented : bearerToken headers = .ok response.accessToken) :
    ∀ token json, bearerToken headers = .ok token →
      state.jwtIssuer.keys.verify token = some json →
      ∃ call ∈ calls Reference.framework exchangeRun, call.Signs platform state token := by
  intro token json presented' _
  cases presented.symm.trans presented'
  exact ⟨exchangeToken, by simp [calls_exchangeRun], redeemed.signs⟩

end OpenidTlsConnector.Reference
