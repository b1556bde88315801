import OpenidTlsConnector.Foundations.Simulation
import OpenidTlsConnector.Oidc.TokenStore
import OpenidTlsConnector.Reference.Exchange

/-!
# The server over any store

`access_token_request` and `/userinfo` take whatever store they are given.
What they answer depends on the laws of the store alone, so a run over the hash
maps, or over a store shared by several processes, is a run over the sets and
functions that the other results are about.
-/

namespace OpenidTlsConnector

open Foundations OIDCAuthCodePKCEFlow

universe u

variable {Store : Type u}

/-! ## The flow and the handlers, with their store as a parameter -/

namespace TokenStore

def recordToken (tokens : TokenStore Store) (store : Store) (clientId : String)
    (authCode : AuthorizationCode) (readings : Readings) (expiresAt : SystemTime) : Store :=
  tokens.issue store (randomJti readings.jtiBytes) authCode.subject clientId authCode.scope
    authCode.groups expiresAt

def issueTokens (tokens : TokenStore Store) (platform : Platform) (ctx : TokenIssueContext)
    (clientId : String) (authCode : AuthorizationCode) (readings : Readings) (store : Store) :
    Outcome OIDCError TokenResponse × Store :=
  match signTokens platform ctx clientId authCode readings with
  | .panic => (.panic, store)
  | .error error => (.error error, store)
  | .ok signed =>
      match readings.recordedAt.checkedAdd ctx.accessTokenTtl with
      | none => (.panic, store)
      | some expiresAt =>
          (.ok (tokenResponse ctx authCode signed),
            tokens.recordToken store clientId authCode readings expiresAt)

def accessTokenRequest (tokens : TokenStore Store) (platform : Platform)
    (flow : OIDCAuthCodePKCEFlow) (ctx : TokenIssueContext) (req : AccessTokenRequest)
    (readings : Readings) (store : Store) : Outcome OIDCError TokenResponse × Store :=
  match req.grantType with
  | .authorizationCode =>
      match flow.checkTokenRequest platform ctx.clients req readings.verifiedAt with
      | .error error => (.error error, store)
      | .ok authCode =>
          match tokens.consumeCode store (codeReplayKey platform req.code) with
          | (false, store) => (.error codeAlreadyUsed, store)
          | (true, store) => tokens.issueTokens platform ctx req.clientId authCode readings store

def tokenHandler (tokens : TokenStore Store) (platform : Platform) (state : AppState)
    (headers : HeaderMap) (params : TokenParams) (readings : Readings) (store : Store) :
    Outcome OIDCError TokenResponse × Store :=
  match tokenRequest platform headers params with
  | .error error => (.error error, store)
  | .ok req =>
      tokens.accessTokenRequest platform state.flow state.tokenContext req readings store

def userinfoHandler (tokens : TokenStore Store) (state : AppState) (headers : HeaderMap)
    (clock : SystemTime) (store : Store) : Except ErrorReply UserInfo := do
  let claims ← verifyBearerToken state headers clock
  match tokens.lookup store claims.jti with
  | none => .error (unauthenticatedError "Token has been revoked or is unknown")
  | some record =>
      .ok {
        sub := record.subject
        groups := record.groups
        scope := record.scope
        clientId := record.clientId }

/-- The server over this store. -/
def server (tokens : TokenStore Store) (platform : Platform) (state : AppState) :
    Machine Store Call Reply where
  step store call := match call with
    | .authorize headers params readings =>
        (.location (authorizeHandler platform state headers params readings), store)
    | .authorizationRequest req readings =>
        (.code (state.flow.authorizationRequest platform req readings), store)
    | .token headers params readings =>
        (tokens.tokenHandler platform state headers params readings store).map .tokens id
    | .accessTokenRequest req readings =>
        (tokens.accessTokenRequest platform state.flow state.tokenContext req readings store).map
          .tokens id
    | .userinfo headers clock =>
        (.userinfo (tokens.userinfoHandler state headers clock store), store)
    | .revoke jti => (tokens.revoke store jti).map .revoked id
    | .lookup jti => (.record (tokens.lookup store jti), store)

/-! ## What a store is taken for -/

/-- The operations cannot tell `store` from `model`. -/
structure LooksLike (tokens : TokenStore Store) (store : Store) (model : InMemoryTokenStore) :
    Prop where
  lookup : ∀ jti, tokens.lookup store jti = model.lookup jti
  unused : ∀ codeKey, tokens.Unused store codeKey ↔ codeKey ∉ model.consumedCodes

namespace LooksLike

variable {tokens : TokenStore Store} {store : Store} {model : InMemoryTokenStore}
  {platform : Platform} {state : AppState} {req : AccessTokenRequest} {readings : Readings}

theorem consumeCode (alike : tokens.LooksLike store model) (lawful : tokens.Lawful)
    (codeKey : String) :
    (tokens.consumeCode store codeKey).1 = (model.consumeCode codeKey).1 ∧
      tokens.LooksLike (tokens.consumeCode store codeKey).2 (model.consumeCode codeKey).2 := by
  refine ⟨?_, ?_, ?_⟩
  · rw [Bool.eq_iff_iff, model.consumeCode_fst_iff]
    exact alike.unused codeKey
  · intro jti
    rw [lawful.lookup_consumeCode, alike.lookup]
    rfl
  · intro wanted
    rw [lawful.unused_consumeCode, alike.unused, InMemoryTokenStore.consumeCode_consumedCodes,
      Finset.mem_insert, not_or]

theorem recordToken (alike : tokens.LooksLike store model) (lawful : tokens.Lawful)
    (clientId : String) (authCode : AuthorizationCode) (readings : Readings)
    (expiresAt : SystemTime) :
    tokens.LooksLike (tokens.recordToken store clientId authCode readings expiresAt)
      (OIDCAuthCodePKCEFlow.recordToken model clientId authCode readings expiresAt) := by
  constructor
  · intro jti
    rw [TokenStore.recordToken, lawful.lookup_issue, alike.lookup, InMemoryTokenStore.lookup,
      InMemoryTokenStore.lookup, recordToken_records, Function.update_apply]
    rfl
  · intro codeKey
    rw [TokenStore.recordToken, lawful.unused_issue, alike.unused]
    rfl

theorem revoke (alike : tokens.LooksLike store model) (lawful : tokens.Lawful) (jti : String) :
    (tokens.revoke store jti).1 = (model.revoke jti).1 ∧
      tokens.LooksLike (tokens.revoke store jti).2 (model.revoke jti).2 := by
  refine ⟨?_, ?_, ?_⟩
  · rw [lawful.revoke_fst, alike.lookup]
    rfl
  · intro wanted
    rw [lawful.lookup_revoke, alike.lookup]
    exact (Function.update_apply model.records jti none wanted).symm
  · intro codeKey
    rw [lawful.unused_revoke, alike.unused]
    rfl

/-- A redemption ends alike over both. -/
theorem accessTokenRequest (alike : tokens.LooksLike store model) (lawful : tokens.Lawful)
    (platform : Platform) (flow : OIDCAuthCodePKCEFlow) (ctx : TokenIssueContext)
    (req : AccessTokenRequest) (readings : Readings) :
    (tokens.accessTokenRequest platform flow ctx req readings store).1 =
        (flow.accessTokenRequest platform ctx req readings model).1 ∧
      tokens.LooksLike (tokens.accessTokenRequest platform flow ctx req readings store).2
        (flow.accessTokenRequest platform ctx req readings model).2 := by
  obtain ⟨sameReply, consumed⟩ := alike.consumeCode lawful (codeReplayKey platform req.code)
  unfold TokenStore.accessTokenRequest OIDCAuthCodePKCEFlow.accessTokenRequest
  cases flow.checkTokenRequest platform ctx.clients req readings.verifiedAt with
  | error error => exact ⟨rfl, alike⟩
  | ok authCode =>
      generalize tokens.consumeCode store (codeReplayKey platform req.code) = replied at *
      generalize model.consumeCode (codeReplayKey platform req.code) = replied' at *
      obtain ⟨first, left⟩ := replied
      obtain ⟨first', left'⟩ := replied'
      cases sameReply
      cases first with
      | false => exact ⟨rfl, consumed⟩
      | true =>
          simp only [TokenStore.issueTokens, OIDCAuthCodePKCEFlow.issueTokens]
          cases signTokens platform ctx req.clientId authCode readings with
          | panic | error => exact ⟨rfl, consumed⟩
          | ok signed =>
              cases readings.recordedAt.checkedAdd ctx.accessTokenTtl with
              | none => exact ⟨rfl, consumed⟩
              | some expiresAt => exact ⟨rfl, consumed.recordToken lawful _ _ _ _⟩

/-- So does every call. -/
theorem step (alike : tokens.LooksLike store model) (lawful : tokens.Lawful) (call : Call) :
    (tokens.server platform state).answer store call =
        (OpenidTlsConnector.server platform state).answer model call ∧
      tokens.LooksLike ((tokens.server platform state).next store call)
        ((OpenidTlsConnector.server platform state).next model call) := by
  cases call with
  | authorize | authorizationRequest => exact ⟨rfl, alike⟩
  | accessTokenRequest req readings =>
      obtain ⟨same, left⟩ := alike.accessTokenRequest lawful platform state.flow
        state.tokenContext req readings
      exact ⟨congrArg Reply.tokens same, left⟩
  | token headers params readings =>
      cases parsed : tokenRequest platform headers params with
      | error error =>
          simpa [Machine.answer, Machine.next, TokenStore.server, OpenidTlsConnector.server,
            TokenStore.tokenHandler, OpenidTlsConnector.tokenHandler, parsed] using alike
      | ok req =>
          obtain ⟨same, left⟩ := alike.accessTokenRequest lawful platform state.flow
            state.tokenContext req readings
          simpa [Machine.answer, Machine.next, TokenStore.server, OpenidTlsConnector.server,
            TokenStore.tokenHandler, OpenidTlsConnector.tokenHandler, parsed] using ⟨same, left⟩
  | userinfo headers clock =>
      refine ⟨?_, alike⟩
      cases verified : verifyBearerToken state headers clock with
      | error failure =>
          simp [Machine.answer, TokenStore.server, OpenidTlsConnector.server,
            TokenStore.userinfoHandler, OpenidTlsConnector.userinfoHandler, verified, bind,
            Except.bind]
      | ok claims =>
          have shown := alike.lookup claims.jti
          cases found : model.lookup claims.jti with
          | none | some record =>
              simp [Machine.answer, TokenStore.server, OpenidTlsConnector.server,
                TokenStore.userinfoHandler, OpenidTlsConnector.userinfoHandler, verified, bind,
                Except.bind, shown, found]
  | revoke jti =>
      obtain ⟨same, left⟩ := alike.revoke lawful jti
      exact ⟨congrArg Reply.revoked same, left⟩
  | lookup jti => exact ⟨congrArg Reply.record (alike.lookup jti), alike⟩

end LooksLike

end TokenStore

/-- Over every run, the server answers over any lawful store what it answers
over the sets and functions. -/
theorem trace_eq_of_lawful (platform : Platform) (state : AppState) {tokens : TokenStore Store}
    (lawful : tokens.Lawful) {store : Store} (empty : tokens.Empty store) (run : List Call) :
    (tokens.server platform state).trace store run = (server platform state).trace .new run := by
  have start : tokens.LooksLike store .new :=
    ⟨fun jti => (empty.lookup jti).trans rfl, fun codeKey => by simp [empty.unused]⟩
  exact (Machine.trace_eq_of_related start
    (fun store model call alike => alike.step lawful call) run).1

/-- The hash maps are such a store. -/
theorem trace_eq_of_lawful_sample :
    (HashMaps.tokenStore.server Reference.platform Reference.state).trace .new
        [Reference.authorizeCall (some "verifier") "https://app.example/cb",
          Reference.tokenCall (some "verifier") "https://app.example/cb"] =
      (server Reference.platform Reference.state).trace .new
        [Reference.authorizeCall (some "verifier") "https://app.example/cb",
          Reference.tokenCall (some "verifier") "https://app.example/cb"] :=
  trace_eq_of_lawful Reference.platform Reference.state HashMaps.tokenStore_lawful
    HashMaps.new_empty _

end OpenidTlsConnector
