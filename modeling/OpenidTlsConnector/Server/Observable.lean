import OpenidTlsConnector.Oidc.Registry
import OpenidTlsConnector.Reference.HttpRun
import OpenidTlsConnector.Server.MalformedBasic
import OpenidTlsConnector.Server.Surface

/-!
# What the answers say about the registry

A secret is looked at when a request to `/token` has passed every other check,
and then it is compared with the one presented.  Whoever does not get that far
learns nothing about it.  The order of the clients, and that of their redirect
URIs, cannot be seen at all.
-/

namespace OpenidTlsConnector

open Foundations OIDCAuthCodePKCEFlow

/-- The clients differ in nothing but their secrets and the order of their
redirect URIs. -/
structure ClientConfig.AlikeButSecret (client client' : ClientConfig) : Prop where
  redirectUris : ∀ redirectUri,
    redirectUri ∈ client.redirectUris ↔ redirectUri ∈ client'.redirectUris
  groups : client.groups = client'.groups

/-- The registries know the same clients, up to their secrets. -/
def ClientRegistry.AlikeButSecrets (registry registry' : ClientRegistry) : Prop :=
  ∀ clientId, Option.Rel ClientConfig.AlikeButSecret (registry.findById clientId)
    (registry'.findById clientId)

/-- Everything before the secret is in order. -/
def AccessTokenRequest.ReachesSecret (platform : Platform) (state : AppState)
    (req : AccessTokenRequest) (now : SystemTime) : Prop :=
  ∃ authCode, SignedAuthorizationCode.decodeAndVerify platform req.code state.flow.hmacKey
      state.flow.codeMaxAge now = .ok authCode ∧
    authCode.validateTokenRequest platform req.clientId req.redirectUri req.codeVerifier =
      .ok () ∧
    state.clients.validateRedirectUri req.clientId req.redirectUri = true

/-- Both registries say the same to a request that reaches the secret. -/
def JudgedAlike (platform : Platform) (state : AppState) (clients : ClientRegistry)
    (call : Call) : Prop :=
  ∀ req readings, call.redeems? platform = some (req, readings) →
    req.ReachesSecret platform state readings.verifiedAt →
      state.clients.validateClientSecret req.clientId req.clientSecret =
        clients.validateClientSecret req.clientId req.clientSecret

variable {framework : Framework} {platform : Platform} {state : AppState} {jwk : Jwk}
  {clients : ClientRegistry} {arrival : Arrival} {store : InMemoryTokenStore}

/-! ## Where the registry is asked -/

namespace ClientRegistry.AlikeButSecrets

theorem validateRedirectUri {registry registry' : ClientRegistry}
    (alike : registry.AlikeButSecrets registry') (clientId redirectUri : String) :
    registry.validateRedirectUri clientId redirectUri =
      registry'.validateRedirectUri clientId redirectUri := by
  have same := alike clientId
  unfold ClientRegistry.validateRedirectUri
  generalize registry.findById clientId = found, registry'.findById clientId = found' at same ⊢
  cases same with
  | none => rfl
  | some same =>
      rw [Option.map_some, Option.map_some, Option.getD_some, Option.getD_some, Bool.eq_iff_iff]
      simpa using same.redirectUris redirectUri

theorem checkAuthorize (alike : state.clients.AlikeButSecrets clients) (headers : HeaderMap)
    (params : AuthorizeParams) :
    OpenidTlsConnector.checkAuthorize platform { state with clients := clients } headers params =
      OpenidTlsConnector.checkAuthorize platform state headers params := by
  unfold OpenidTlsConnector.checkAuthorize
  dsimp only
  rw [← alike.validateRedirectUri]
  have same := alike params.clientId
  generalize state.clients.findById params.clientId = found,
    clients.findById params.clientId = found' at same ⊢
  cases same with
  | none => rfl
  | some same => simp only [Outcome.okOr, Option.elim_some, Outcome.ok_bind, same.groups]

/-- The check depends on a secret only in what is said to the one presented. -/
theorem checkTokenRequest (alike : state.clients.AlikeButSecrets clients)
    {req : AccessTokenRequest} {now : SystemTime}
    (judged : req.ReachesSecret platform state now →
      state.clients.validateClientSecret req.clientId req.clientSecret =
        clients.validateClientSecret req.clientId req.clientSecret) :
    state.flow.checkTokenRequest platform clients req now =
      state.flow.checkTokenRequest platform state.clients req now := by
  unfold OIDCAuthCodePKCEFlow.checkTokenRequest
  rw [← alike.validateRedirectUri]
  cases verified : SignedAuthorizationCode.decodeAndVerify platform req.code state.flow.hmacKey
      state.flow.codeMaxAge now with
  | error cause => rfl
  | ok authCode =>
      cases matched : authCode.validateTokenRequest platform req.clientId req.redirectUri
          req.codeVerifier with
      | error cause => simp [matched, Except.mapError, bind, Except.bind]
      | ok _ =>
          by_cases registered : state.clients.validateRedirectUri req.clientId req.redirectUri
          · rw [judged ⟨authCode, verified, matched, registered⟩]
          · simp [matched, registered, Except.mapError, bind, Except.bind]

end ClientRegistry.AlikeButSecrets

/-! ## Telling two servers apart -/

theorem authorizeHandler_of_alike (alike : state.clients.AlikeButSecrets clients)
    (headers : HeaderMap) (params : AuthorizeParams) (stamps : MintReadings) :
    authorizeHandler platform { state with clients := clients } headers params stamps =
      authorizeHandler platform state headers params stamps := by
  unfold authorizeHandler
  rw [alike.checkAuthorize]

theorem tokenHandler_of_alike (alike : state.clients.AlikeButSecrets clients)
    {headers : HeaderMap} {params : TokenParams} {readings : Readings}
    (judged : JudgedAlike platform state clients (.token headers params readings)) :
    tokenHandler platform { state with clients := clients } headers params readings store =
      tokenHandler platform state headers params readings store := by
  unfold tokenHandler
  cases parsed : tokenRequest platform headers params with
  | error failure => rfl
  | ok req =>
      have same := alike.checkTokenRequest
        (judged req readings (by simp [Call.redeems?, parsed, Except.toOption]))
      dsimp only
      unfold accessTokenRequest
      dsimp only [AppState.tokenContext]
      rw [same]
      rfl

/-- A request that is judged alike is handled alike. -/
theorem step_of_judgedAlike (alike : state.clients.AlikeButSecrets clients)
    (judged : ∀ call, arrival.call? framework = some call →
      JudgedAlike platform state clients call) :
    (httpServer framework platform { state with clients := clients } jwk).step store arrival =
      (httpServer framework platform state jwk).step store arrival := by
  simp only [httpServer]
  cases reached : arrival.request.endpoint with
  | error reason => rfl
  | ok endpoint =>
      cases endpoint with
      | discovery | userinfo | jwks => rfl
      | authorize => simp only [serve, authorizeHandler_of_alike alike]
      | token =>
          cases read : arrival.request.tokenParams framework with
          | error reason => simp only [serve, read]
          | ok params =>
              have isCall : arrival.call? framework =
                  some (.token arrival.request.headers params arrival.moment.redeeming) := by
                simp [Arrival.call?, reached, read, Except.toOption]
              simp only [serve, read, tokenHandler_of_alike alike (judged _ isCall)]

/-- The answer says that the client has not authenticated itself. -/
def Answer.refusesClient : Answer → Bool
  | .response sent => sent.status == 401
  | .rejected _ => false
  | .aborted => false

/-- Of all redemptions, those are answered so whose check ends at the secret. -/
theorem refusesClient_accessTokenRequest_iff {flow : OIDCAuthCodePKCEFlow}
    {ctx : TokenIssueContext} {req : AccessTokenRequest} {readings : Readings} :
    (Answer.ofOutcome (fun response : TokenResponse => .json response.toJson)
        (flow.accessTokenRequest platform ctx req readings store).1).refusesClient = true ↔
      ∃ detail, flow.checkTokenRequest platform ctx.clients req readings.verifiedAt =
        .error (.invalidClient detail) := by
  have ending := accessTokenRequest_redemption platform flow ctx req readings store
  generalize flow.accessTokenRequest platform ctx req readings store = result at ending
  cases ending with
  | @refused error rejected =>
      rw [rejected]
      cases error <;> simp [Answer.ofOutcome, Answer.error, Answer.refusesClient,
        OIDCError.intoResponse, statusForError]
  | replayed checked =>
      simp [checked, Answer.ofOutcome, Answer.error, Answer.refusesClient, codeAlreadyUsed,
        OIDCError.intoResponse, statusForError]
  | unsigned checked _ failed =>
      obtain ⟨cause, rfl⟩ := signTokens_eq_error failed
      simp [checked, Answer.ofOutcome, Answer.error, Answer.refusesClient, OIDCError.intoResponse,
        statusForError]
  | aborted checked => simp [checked, Answer.ofOutcome, Answer.refusesClient]
  | redeemed checked => simp [checked, Answer.ofOutcome, Answer.json, Answer.refusesClient]

/-- A request that reaches the secret is refused for it exactly when the
registry denies it. -/
theorem refusesClient_answer_iff (state : AppState) (jwk : Jwk) (store : InMemoryTokenStore)
    {params : TokenParams} {req : AccessTokenRequest}
    (reached : arrival.request.endpoint = .ok .token)
    (read : arrival.request.tokenParams framework = .ok params)
    (parsed : tokenRequest platform arrival.request.headers params = .ok req)
    (reaches : req.ReachesSecret platform state arrival.moment.redeeming.verifiedAt) :
    ((httpServer framework platform state jwk).answer store arrival).refusesClient = true ↔
      state.clients.validateClientSecret req.clientId req.clientSecret = .deny := by
  obtain ⟨authCode, verified, matched, registered⟩ := reaches
  rw [httpServer_answer_token reached read, tokenHandler, parsed,
    refusesClient_accessTokenRequest_iff]
  simp only [checkTokenRequest_eq_invalidClient_iff]
  constructor
  · intro refused
    obtain ⟨_, _, -, -, -, denied, -⟩ := refused
    exact denied
  · intro denied
    exact ⟨_, authCode, verified, matched, registered, denied, rfl⟩

/-- A request that is answered alike was judged alike. -/
theorem judgedAlike_of_answer (alike : state.clients.AlikeButSecrets clients)
    (same : (httpServer framework platform { state with clients := clients } jwk).answer store
      arrival = (httpServer framework platform state jwk).answer store arrival) {call : Call}
    (isCall : arrival.call? framework = some call) : JudgedAlike platform state clients call := by
  intro req readings requested reaches
  obtain ⟨reached, params, read, rfl⟩ := Arrival.call?_of_redeems isCall requested
  simp only [Call.redeems?, Option.map_eq_some_iff, Prod.mk.injEq] at requested
  obtain ⟨req', parsed, rfl, rfl⟩ := requested
  have parsed : tokenRequest platform arrival.request.headers params = .ok req' := by
    cases made : tokenRequest platform arrival.request.headers params with
    | error failure => simp [made, Except.toOption] at parsed
    | ok req => simpa [made, Except.toOption] using parsed
  have reaches' : req'.ReachesSecret platform { state with clients := clients }
      arrival.moment.redeeming.verifiedAt := by
    obtain ⟨authCode, verified, matched, registered⟩ := reaches
    exact ⟨authCode, verified, matched, (alike.validateRedirectUri _ _).symm.trans registered⟩
  have denies := refusesClient_answer_iff state jwk store reached read parsed reaches
  have denies' := refusesClient_answer_iff { state with clients := clients } jwk store reached read
    parsed reaches'
  rw [same, denies] at denies'
  cases judged : state.clients.validateClientSecret req'.clientId req'.clientSecret <;>
    cases judged' : clients.validateClientSecret req'.clientId req'.clientSecret <;>
      simp_all

/-- Two servers that know the same clients up to their secrets answer a run of
requests alike exactly if each request in it that has a good code, with its
redirect URI and verifier, presents a secret that is right for both or wrong
for both. -/
theorem trace_eq_iff_judgedAlike (framework : Framework) (platform : Platform) (state : AppState)
    (jwk : Jwk) (clients : ClientRegistry) (alike : state.clients.AlikeButSecrets clients)
    (run : List Arrival) :
    (httpServer framework platform { state with clients := clients } jwk).trace .new run =
        (httpServer framework platform state jwk).trace .new run ↔
      ∀ call ∈ calls framework run, JudgedAlike platform state clients call := by
  have alikeInputs : (∀ arrival ∈ run, ∀ call, arrival.call? framework = some call →
      JudgedAlike platform state clients call) ↔
        ∀ call ∈ calls framework run, JudgedAlike platform state clients call := by
    simp only [calls, List.mem_filterMap, forall_exists_index, and_imp]
    exact ⟨fun all call arrival membership => all arrival membership call,
      fun all arrival membership call => all call arrival membership⟩
  rw [← alikeInputs]
  apply Machine.trace_eq_iff_forall
  · intro store arrival judged
    exact step_of_judgedAlike alike judged
  · intro store arrival same call isCall
    exact judgedAlike_of_answer alike same isCall

/-- The sample deployment with another secret. -/
def Reference.otherSecret : ClientRegistry where
  clients := [publicClient, { confidentialClient with clientSecret := some "0ther" }]
  distinct := by decide

/-- The exchange of the public client says nothing about the secret. -/
theorem trace_eq_iff_judgedAlike_sample :
    (httpServer Reference.framework Reference.platform
        { Reference.state with clients := Reference.otherSecret } Reference.jwk).trace .new
        Reference.exchangeRun =
      (httpServer Reference.framework Reference.platform Reference.state Reference.jwk).trace .new
        Reference.exchangeRun := by
  have alike : Reference.state.clients.AlikeButSecrets Reference.otherSecret := by
    apply ClientRegistry.findById_of_forall₂
    exact .cons ⟨rfl, fun _ => Iff.rfl, rfl⟩ (.cons ⟨rfl, fun _ => Iff.rfl, rfl⟩ .nil)
  apply (trace_eq_iff_judgedAlike _ _ _ _ _ alike _).mpr
  rw [Reference.calls_exchangeRun]
  intro call membership
  simp only [List.mem_cons, List.not_mem_nil, or_false] at membership
  rcases membership with rfl | rfl
  · intro req readings requested
    cases requested
  · intro req readings requested _
    rw [Reference.exchangeToken_redeems, Option.some.injEq, Prod.mk.injEq] at requested
    rcases requested with ⟨rfl, rfl⟩
    decide

/-! ## What cannot be seen -/

/-- The clients differ in nothing but the order of their redirect URIs. -/
structure ClientConfig.Interchangeable (client client' : ClientConfig) : Prop
    extends client.AlikeButSecret client' where
  clientSecret : client.clientSecret = client'.clientSecret

/-- A server looks for clients by their ids only, and for a redirect URI among
all those of the client. -/
theorem httpServer_of_interchangeable (framework : Framework) (platform : Platform)
    (state : AppState) (jwk : Jwk) (clients : ClientRegistry)
    (same : ∀ clientId, Option.Rel ClientConfig.Interchangeable
      (state.clients.findById clientId) (clients.findById clientId)) :
    httpServer framework platform { state with clients := clients } jwk =
      httpServer framework platform state jwk := by
  have alike : state.clients.AlikeButSecrets clients := by
    intro clientId
    have found := same clientId
    generalize state.clients.findById clientId = client, clients.findById clientId = client'
      at found ⊢
    cases found with
    | none => exact .none
    | some interchangeable => exact .some interchangeable.toAlikeButSecret
  have judged : ∀ call, JudgedAlike platform state clients call := by
    intro call req _ _ _
    have found := same req.clientId
    unfold ClientRegistry.validateClientSecret
    generalize state.clients.findById req.clientId = client, clients.findById req.clientId = client'
      at found ⊢
    cases found with
    | none => rfl
    | some interchangeable => simp only [interchangeable.clientSecret]
  have steps : (httpServer framework platform { state with clients := clients } jwk).step =
      (httpServer framework platform state jwk).step := by
    funext store arrival
    exact step_of_judgedAlike alike fun call _ => judged call
  exact congrArg Machine.mk steps

end OpenidTlsConnector
