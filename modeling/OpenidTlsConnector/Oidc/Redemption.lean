import OpenidTlsConnector.Oidc.Protocol

/-!
# What one redemption can do

One inversion for the whole of `access_token_request`: the five ways it ends,
each with what led there and what it left in the store.
-/

namespace OpenidTlsConnector

open Foundations OIDCAuthCodePKCEFlow

variable {platform : Platform} {flow : OIDCAuthCodePKCEFlow} {ctx : TokenIssueContext}
  {req : AccessTokenRequest} {readings : Readings} {store : InMemoryTokenStore}

/-! ## The check -/

/-- The request passes when the code verifies, was made for this client and
redirect URI, is proved by the verifier or carries no challenge, and the
registry agrees to the URI and the secret. -/
theorem checkTokenRequest_eq_ok_iff {clients : ClientRegistry} {now : SystemTime}
    {authCode : AuthorizationCode} :
    flow.checkTokenRequest platform clients req now = .ok authCode ↔
      SignedAuthorizationCode.decodeAndVerify platform req.code flow.hmacKey flow.codeMaxAge now =
          .ok authCode ∧
        authCode.validateTokenRequest platform req.clientId req.redirectUri req.codeVerifier =
          .ok () ∧
        clients.validateRedirectUri req.clientId req.redirectUri = true ∧
        clients.validateClientSecret req.clientId req.clientSecret = .allow := by
  simp only [checkTokenRequest, except_bind_eq_ok_iff, except_mapError_eq_ok_iff]
  constructor
  · rintro ⟨code, verified, ⟨⟩, matched, accepted⟩
    split_ifs at accepted with registered
    split at accepted
    · rename_i authenticated
      cases accepted
      exact ⟨verified, matched, registered, authenticated⟩
    · cases accepted
  · rintro ⟨verified, matched, registered, authenticated⟩
    exact ⟨authCode, verified, (), matched, by simp [registered, authenticated]⟩

/-! ## Signing -/

theorem signTokens_eq_ok_iff {clientId : String} {authCode : AuthorizationCode}
    {tokens : String × String} :
    signTokens platform ctx clientId authCode readings = .ok tokens ↔
      ctx.jwtIssuer.issueIdToken platform authCode.subject clientId authCode.groups
          authCode.nonce ctx.idTokenTtl readings.idTokenAt = .ok tokens.1 ∧
        ctx.jwtIssuer.issueAccessToken platform authCode.subject clientId authCode.groups
          authCode.scope (randomJti readings.jtiBytes) ctx.accessTokenTtl
          readings.accessTokenAt = .ok tokens.2 := by
  simp only [signTokens, Outcome.bind_eq_ok_iff, Outcome.mapError_eq_ok_iff, Outcome.pure_eq,
    Outcome.ok.injEq]
  constructor
  · rintro ⟨idToken, idIssued, accessToken, accessIssued, rfl⟩
    exact ⟨idIssued, accessIssued⟩
  · rintro ⟨idIssued, accessIssued⟩
    exact ⟨tokens.1, idIssued, tokens.2, accessIssued, rfl⟩

/-- A failure to sign is the server's. -/
theorem signTokens_eq_error {clientId : String} {authCode : AuthorizationCode}
    {error : OIDCError}
    (failed : signTokens platform ctx clientId authCode readings = .error error) :
    ∃ cause : JwtError, error = .serverError cause.message := by
  unfold signTokens at failed
  cases idIssued : ctx.jwtIssuer.issueIdToken platform authCode.subject clientId authCode.groups
      authCode.nonce ctx.idTokenTtl readings.idTokenAt with
  | panic => simp [idIssued, Outcome.mapError] at failed
  | error cause =>
      simp only [idIssued, Outcome.mapError, Outcome.error_bind, Outcome.error.injEq] at failed
      exact ⟨cause, failed.symm⟩
  | ok idToken =>
      cases accessIssued : ctx.jwtIssuer.issueAccessToken platform authCode.subject clientId
          authCode.groups authCode.scope (randomJti readings.jtiBytes) ctx.accessTokenTtl
          readings.accessTokenAt with
      | panic => simp [idIssued, accessIssued, Outcome.mapError] at failed
      | error cause =>
          simp only [idIssued, accessIssued, Outcome.mapError, Outcome.ok_bind,
            Outcome.error_bind, Outcome.error.injEq] at failed
          exact ⟨cause, failed.symm⟩
      | ok accessToken => simp [idIssued, accessIssued, Outcome.mapError] at failed

/-- Signing succeeds when the keys sign everything and the expiry times fit. -/
theorem exists_signTokens {clientId : String} {authCode : AuthorizationCode}
    (signing : ∀ header claims, ∃ token, ctx.jwtIssuer.keys.sign header claims = .ok token)
    (idFits : IsU64 (readings.idTokenAt.epochSecs + ctx.idTokenTtl.asSecs))
    (accessFits : IsU64 (readings.accessTokenAt.epochSecs + ctx.accessTokenTtl.asSecs)) :
    ∃ tokens, signTokens platform ctx clientId authCode readings = .ok tokens := by
  have encodes (claims : Json) : ∃ token, ctx.jwtIssuer.encode claims = .ok token := by
    obtain ⟨token, signed⟩ := signing ctx.jwtIssuer.header claims
    exact ⟨token, by simp [JwtIssuer.encode, signed, Outcome.ofExcept, Outcome.mapError]⟩
  obtain ⟨idToken, idEncoded⟩ := encodes _
  obtain ⟨accessToken, accessEncoded⟩ := encodes _
  refine ⟨(idToken, accessToken), signTokens_eq_ok_iff.mpr ⟨?_, ?_⟩⟩
  · rw [JwtIssuer.issueIdToken, addU64_of_isU64 _ idFits]
    exact idEncoded
  · rw [JwtIssuer.issueAccessToken, addU64_of_isU64 _ accessFits]
    exact accessEncoded

/-- Signing stops the server only when an expiry time does not fit. -/
theorem signTokens_ne_panic {clientId : String} {authCode : AuthorizationCode}
    (idFits : IsU64 (readings.idTokenAt.epochSecs + ctx.idTokenTtl.asSecs))
    (accessFits : IsU64 (readings.accessTokenAt.epochSecs + ctx.accessTokenTtl.asSecs)) :
    signTokens platform ctx clientId authCode readings ≠ .panic := by
  have encodes (claims : Json) : ctx.jwtIssuer.encode claims ≠ .panic := by
    rw [JwtIssuer.encode, ne_eq, Outcome.mapError_eq_panic_iff]
    exact Outcome.ofExcept_ne_panic _
  intro panicked
  simp only [signTokens, Outcome.bind_eq_panic_iff, Outcome.mapError_eq_panic_iff,
    Outcome.pure_eq, reduceCtorEq, and_false, exists_false, or_false] at panicked
  rcases panicked with idPanicked | ⟨_, -, accessPanicked⟩
  · rw [JwtIssuer.issueIdToken, addU64_of_isU64 _ idFits] at idPanicked
    exact encodes _ idPanicked
  · rw [JwtIssuer.issueAccessToken, addU64_of_isU64 _ accessFits] at accessPanicked
    exact encodes _ accessPanicked

/-! ## Recording -/

/-- The record of the token issued to a request. -/
def tokenRecord (clientId : String) (authCode : AuthorizationCode) (readings : Readings)
    (expiresAt : SystemTime) : TokenRecord where
  subject := authCode.subject
  clientId := clientId
  scope := authCode.scope
  groups := authCode.groups
  expiresAt := expiresAt
  jti := randomJti readings.jtiBytes

theorem recordToken_records (store : InMemoryTokenStore) (clientId : String)
    (authCode : AuthorizationCode) (readings : Readings) (expiresAt : SystemTime) :
    (recordToken store clientId authCode readings expiresAt).records =
      Function.update store.records (randomJti readings.jtiBytes)
        (some (tokenRecord clientId authCode readings expiresAt)) := by
  simp only [recordToken, InMemoryTokenStore.issue, tokenRecord]

/-! ## The whole request -/

/-- The ways `access_token_request` ends, and the store each leaves. -/
inductive Redemption (platform : Platform) (flow : OIDCAuthCodePKCEFlow)
    (ctx : TokenIssueContext) (req : AccessTokenRequest) (readings : Readings)
    (store : InMemoryTokenStore) : Outcome OIDCError TokenResponse × InMemoryTokenStore → Prop where
  | refused {error}
      (rejected : flow.checkTokenRequest platform ctx.clients req readings.verifiedAt =
        .error error) :
      Redemption platform flow ctx req readings store (.error error, store)
  | replayed {authCode}
      (checked : flow.checkTokenRequest platform ctx.clients req readings.verifiedAt =
        .ok authCode)
      (used : codeReplayKey platform req.code ∈ store.consumedCodes) :
      Redemption platform flow ctx req readings store (.error codeAlreadyUsed, store)
  | unsigned {authCode error}
      (checked : flow.checkTokenRequest platform ctx.clients req readings.verifiedAt =
        .ok authCode)
      (unused : codeReplayKey platform req.code ∉ store.consumedCodes)
      (failed : signTokens platform ctx req.clientId authCode readings = .error error) :
      Redemption platform flow ctx req readings store
        (.error error, (store.consumeCode (codeReplayKey platform req.code)).2)
  | aborted {authCode}
      (checked : flow.checkTokenRequest platform ctx.clients req readings.verifiedAt =
        .ok authCode)
      (unused : codeReplayKey platform req.code ∉ store.consumedCodes)
      (overflow : signTokens platform ctx req.clientId authCode readings = .panic ∨
        ∃ tokens, signTokens platform ctx req.clientId authCode readings = .ok tokens ∧
          readings.recordedAt.checkedAdd ctx.accessTokenTtl = none) :
      Redemption platform flow ctx req readings store
        (.panic, (store.consumeCode (codeReplayKey platform req.code)).2)
  | redeemed {authCode tokens expiresAt}
      (checked : flow.checkTokenRequest platform ctx.clients req readings.verifiedAt =
        .ok authCode)
      (unused : codeReplayKey platform req.code ∉ store.consumedCodes)
      (signed : signTokens platform ctx req.clientId authCode readings = .ok tokens)
      (bounded : readings.recordedAt.checkedAdd ctx.accessTokenTtl = some expiresAt) :
      Redemption platform flow ctx req readings store
        (.ok (tokenResponse ctx authCode tokens),
          recordToken (store.consumeCode (codeReplayKey platform req.code)).2 req.clientId
            authCode readings expiresAt)

/-- What has to hold for a request to succeed, and what it then does. -/
theorem accessTokenRequest_of_accepted {authCode : AuthorizationCode} {tokens : String × String}
    {expiresAt : SystemTime}
    (checked : flow.checkTokenRequest platform ctx.clients req readings.verifiedAt = .ok authCode)
    (unused : codeReplayKey platform req.code ∉ store.consumedCodes)
    (signed : signTokens platform ctx req.clientId authCode readings = .ok tokens)
    (bounded : readings.recordedAt.checkedAdd ctx.accessTokenTtl = some expiresAt) :
    flow.accessTokenRequest platform ctx req readings store =
      (.ok (tokenResponse ctx authCode tokens),
        recordToken (store.consumeCode (codeReplayKey platform req.code)).2 req.clientId authCode
          readings expiresAt) := by
  unfold accessTokenRequest
  rw [checked, InMemoryTokenStore.consumeCode_of_notMem unused]
  simp [issueTokens, signed, bounded]

/-! By the check and the key, the same without the endings. -/

theorem accessTokenRequest_of_refused (ctx : TokenIssueContext) {error : OIDCError}
    (rejected : flow.checkTokenRequest platform ctx.clients req readings.verifiedAt =
      .error error) :
    flow.accessTokenRequest platform ctx req readings store = (.error error, store) := by
  simp [accessTokenRequest, rejected]

theorem accessTokenRequest_of_used (ctx : TokenIssueContext) {authCode : AuthorizationCode}
    (checked : flow.checkTokenRequest platform ctx.clients req readings.verifiedAt = .ok authCode)
    (used : codeReplayKey platform req.code ∈ store.consumedCodes) :
    flow.accessTokenRequest platform ctx req readings store = (.error codeAlreadyUsed, store) := by
  simp [accessTokenRequest, checked, InMemoryTokenStore.consumeCode_of_mem used]

theorem accessTokenRequest_of_unused (ctx : TokenIssueContext) {authCode : AuthorizationCode}
    (checked : flow.checkTokenRequest platform ctx.clients req readings.verifiedAt = .ok authCode)
    (unused : codeReplayKey platform req.code ∉ store.consumedCodes) :
    flow.accessTokenRequest platform ctx req readings store =
      issueTokens platform ctx req.clientId authCode readings
        (store.consumeCode (codeReplayKey platform req.code)).2 := by
  unfold accessTokenRequest
  rw [checked, InMemoryTokenStore.consumeCode_of_notMem unused]

/-- Issuing does the same to every store: nothing, or one record. -/
theorem issueTokens_uniform (platform : Platform) (ctx : TokenIssueContext) (clientId : String)
    (authCode : AuthorizationCode) (readings : Readings) :
    ∃ outcome, (∀ store, issueTokens platform ctx clientId authCode readings store =
        (outcome, store)) ∨
      ∃ expiresAt, ∀ store, issueTokens platform ctx clientId authCode readings store =
        (outcome, recordToken store clientId authCode readings expiresAt) := by
  cases signed : signTokens platform ctx clientId authCode readings with
  | panic => exact ⟨.panic, Or.inl fun store => by simp [issueTokens, signed]⟩
  | error error => exact ⟨.error error, Or.inl fun store => by simp [issueTokens, signed]⟩
  | ok tokens =>
      cases bounded : readings.recordedAt.checkedAdd ctx.accessTokenTtl with
      | none => exact ⟨.panic, Or.inl fun store => by simp [issueTokens, signed, bounded]⟩
      | some expiresAt =>
          exact ⟨.ok (tokenResponse ctx authCode tokens), Or.inr ⟨expiresAt, fun store => by
            simp [issueTokens, signed, bounded]⟩⟩

theorem issueTokens_congr (platform : Platform) (ctx : TokenIssueContext) (clientId : String)
    (authCode : AuthorizationCode) (readings : Readings) {other : InMemoryTokenStore}
    (same : store.records = other.records) :
    (issueTokens platform ctx clientId authCode readings store).1 =
        (issueTokens platform ctx clientId authCode readings other).1 ∧
      (issueTokens platform ctx clientId authCode readings store).2.records =
        (issueTokens platform ctx clientId authCode readings other).2.records := by
  obtain ⟨outcome, unchanged | ⟨expiresAt, recorded⟩⟩ :=
    issueTokens_uniform platform ctx clientId authCode readings
  · rw [unchanged, unchanged]
    exact ⟨rfl, same⟩
  · rw [recorded, recorded, recordToken_records, recordToken_records, same]
    exact ⟨rfl, rfl⟩

@[simp]
theorem issueTokens_consumedCodes (clientId : String) (authCode : AuthorizationCode) :
    (issueTokens platform ctx clientId authCode readings store).2.consumedCodes =
      store.consumedCodes := by
  obtain ⟨outcome, unchanged | ⟨expiresAt, recorded⟩⟩ :=
    issueTokens_uniform platform ctx clientId authCode readings
  · rw [unchanged]
  · rw [recorded]
    rfl

/-- Every request ends in one of these ways. -/
theorem accessTokenRequest_redemption (platform : Platform) (flow : OIDCAuthCodePKCEFlow)
    (ctx : TokenIssueContext) (req : AccessTokenRequest) (readings : Readings)
    (store : InMemoryTokenStore) :
    Redemption platform flow ctx req readings store
      (flow.accessTokenRequest platform ctx req readings store) := by
  unfold accessTokenRequest
  cases checked : flow.checkTokenRequest platform ctx.clients req readings.verifiedAt with
  | error error => exact .refused checked
  | ok authCode =>
      by_cases used : codeReplayKey platform req.code ∈ store.consumedCodes
      · simp only [InMemoryTokenStore.consumeCode_of_mem used]
        exact .replayed checked used
      · rw [InMemoryTokenStore.consumeCode_of_notMem used]
        dsimp only
        unfold issueTokens
        cases signed : signTokens platform ctx req.clientId authCode readings with
        | panic => exact .aborted checked used (Or.inl signed)
        | error error => exact .unsigned checked used signed
        | ok tokens =>
            cases bounded : readings.recordedAt.checkedAdd ctx.accessTokenTtl with
            | none => exact .aborted checked used (Or.inr ⟨tokens, signed, bounded⟩)
            | some expiresAt => exact .redeemed checked used signed bounded

/-- Only a success writes a record. -/
theorem Redemption.records_of_failed
    {result : Outcome OIDCError TokenResponse × InMemoryTokenStore}
    (ending : Redemption platform flow ctx req readings store result)
    (failed : ∀ response, result.1 ≠ .ok response) : result.2.records = store.records := by
  cases ending with
  | refused | replayed | unsigned | aborted => rfl
  | redeemed => exact absurd rfl (failed _)

end OpenidTlsConnector
