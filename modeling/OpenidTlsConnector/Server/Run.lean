import OpenidTlsConnector.Foundations.Machine
import OpenidTlsConnector.Oidc.Redemption
import OpenidTlsConnector.Oidc.Router

/-!
# Runs of the server

A run is a list of calls: requests at the endpoints, direct calls of the flow,
and operations on the token store.  Each call brings what it reads from the
clock and the random generator, so every run is covered by quantifying over
lists of calls.
-/

namespace OpenidTlsConnector

open Foundations

inductive Call where
  | authorize (headers : HeaderMap) (params : AuthorizeParams) (readings : MintReadings)
  | authorizationRequest (req : AuthorizationRequest) (readings : MintReadings)
  | token (headers : HeaderMap) (params : TokenParams) (readings : Readings)
  | accessTokenRequest (req : AccessTokenRequest) (readings : Readings)
  | userinfo (headers : HeaderMap) (clock : SystemTime)
  | revoke (jti : String)
  | lookup (jti : String)

inductive Reply where
  | location (outcome : Outcome OIDCError String)
  | code (outcome : Outcome OIDCError (AuthorizationCode × String))
  | tokens (outcome : Outcome OIDCError TokenResponse)
  | userinfo (result : Except ErrorReply UserInfo)
  | revoked (removed : Bool)
  | record (found : Option TokenRecord)

/-- The server as a machine over its token store. -/
def server (platform : Platform) (state : AppState) :
    Machine InMemoryTokenStore Call Reply where
  step store call := match call with
    | .authorize headers params readings =>
        (.location (authorizeHandler platform state headers params readings), store)
    | .authorizationRequest req readings =>
        (.code (state.flow.authorizationRequest platform req readings), store)
    | .token headers params readings =>
        (tokenHandler platform state headers params readings store).map .tokens id
    | .accessTokenRequest req readings =>
        (state.flow.accessTokenRequest platform state.tokenContext req readings store).map
          .tokens id
    | .userinfo headers clock => (.userinfo (userinfoHandler state headers clock store), store)
    | .revoke jti => (store.revoke jti).map .revoked id
    | .lookup jti => (.record (store.lookup jti), store)

/-- The store a run leaves behind, from an empty one. -/
def storeAfter (platform : Platform) (state : AppState) (run : List Call) : InMemoryTokenStore :=
  (server platform state).after .new run

namespace Call

/-- The access token request a call makes. -/
def redeems? (platform : Platform) : Call → Option (AccessTokenRequest × Readings)
  | .token headers params readings =>
      (tokenRequest platform headers params).toOption.map (·, readings)
  | .accessTokenRequest req readings => some (req, readings)
  | _ => none

/-- `call` makes the authorization request `req`, and with it has a code signed. -/
def Mints (platform : Platform) (state : AppState) (req : AuthorizationRequest)
    (readings : MintReadings) : Call → Prop
  | .authorize headers params stamps =>
      checkAuthorize platform state headers params = .ok req ∧ stamps = readings
  | .authorizationRequest direct stamps => direct = req ∧ stamps = readings
  | _ => False

end Call

section Steps

variable {platform : Platform} {state : AppState} {store : InMemoryTokenStore} {call : Call}
  {req : AccessTokenRequest} {readings : Readings}

/-- Whichever way a request for tokens arrives, it is one access token request. -/
theorem step_of_redeems (requested : call.redeems? platform = some (req, readings)) :
    (server platform state).step store call =
      (state.flow.accessTokenRequest platform state.tokenContext req readings store).map
        .tokens id := by
  cases call with
  | token headers params stamps =>
      simp only [Call.redeems?, Option.map_eq_some_iff, Prod.mk.injEq] at requested
      obtain ⟨made, isMade, rfl, rfl⟩ := requested
      cases parsed : tokenRequest platform headers params with
      | error failure => simp [parsed, Except.toOption] at isMade
      | ok inner =>
          simp only [parsed, Except.toOption, Option.some.injEq] at isMade
          subst isMade
          simp [server, tokenHandler, parsed]
  | accessTokenRequest direct stamps =>
      cases requested
      rfl
  | authorize | authorizationRequest | userinfo | revoke | lookup => cases requested

theorem next_of_redeems (requested : call.redeems? platform = some (req, readings)) :
    (server platform state).next store call =
      (state.flow.accessTokenRequest platform state.tokenContext req readings store).2 := by
  simp [Machine.next, step_of_redeems requested]

theorem answer_of_redeems (requested : call.redeems? platform = some (req, readings)) :
    (server platform state).answer store call = .tokens
      (state.flow.accessTokenRequest platform state.tokenContext req readings store).1 := by
  simp [Machine.answer, step_of_redeems requested]

/-- A request for tokens ends in one of the ways a redemption can end. -/
theorem exists_redemption (requested : call.redeems? platform = some (req, readings)) :
    ∃ result, Redemption platform state.flow state.tokenContext req readings store result ∧
      (server platform state).next store call = result.2 ∧
      (server platform state).answer store call = .tokens result.1 :=
  ⟨_, accessTokenRequest_redemption _ _ _ _ _ _, next_of_redeems requested,
    answer_of_redeems requested⟩

/-- Every other call leaves the store alone, except that `revoke` takes one
record away. -/
theorem next_of_not_redeems (other : call.redeems? platform = none) :
    (server platform state).next store call =
      match call with
      | .revoke jti => (store.revoke jti).2
      | _ => store := by
  cases call with
  | token headers params stamps =>
      cases parsed : tokenRequest platform headers params with
      | error failure => simp [Machine.next, server, tokenHandler, parsed]
      | ok inner => simp [Call.redeems?, parsed, Except.toOption] at other
  | accessTokenRequest direct stamps => cases other
  | authorize | authorizationRequest | userinfo | revoke | lookup => rfl

end Steps

/-- `call`, made after the run `past`, is an access token request that
returned `response`. -/
structure Redeemed (platform : Platform) (state : AppState) (past : List Call) (call : Call)
    (req : AccessTokenRequest) (readings : Readings) (response : TokenResponse) : Prop where
  requested : call.redeems? platform = some (req, readings)
  answered : (state.flow.accessTokenRequest platform state.tokenContext req readings
    (storeAfter platform state past)).1 = .ok response

@[simp]
theorem storeAfter_nil (platform : Platform) (state : AppState) :
    storeAfter platform state [] = .new := rfl

theorem storeAfter_snoc (platform : Platform) (state : AppState) (past : List Call) (call : Call) :
    storeAfter platform state (past ++ [call]) =
      (server platform state).next (storeAfter platform state past) call :=
  Machine.after_snoc _ _ _ _

/-- A successful redemption took an unused key, and used it. -/
theorem Redeemed.outcome {platform : Platform} {state : AppState} {past : List Call} {call : Call}
    {req : AccessTokenRequest} {readings : Readings} {response : TokenResponse}
    (redeemed : Redeemed platform state past call req readings response) :
    ∃ authCode tokens expiresAt,
      state.flow.checkTokenRequest platform state.clients req readings.verifiedAt = .ok authCode ∧
      codeReplayKey platform req.code ∉ (storeAfter platform state past).consumedCodes ∧
      OIDCAuthCodePKCEFlow.signTokens platform state.tokenContext req.clientId authCode readings =
        .ok tokens ∧
      readings.recordedAt.checkedAdd state.accessTokenTtl = some expiresAt ∧
      response = OIDCAuthCodePKCEFlow.tokenResponse state.tokenContext authCode tokens ∧
      storeAfter platform state (past ++ [call]) = OIDCAuthCodePKCEFlow.recordToken
        ((storeAfter platform state past).consumeCode (codeReplayKey platform req.code)).2
        req.clientId authCode readings expiresAt := by
  have ending := accessTokenRequest_redemption platform state.flow state.tokenContext req readings
    (storeAfter platform state past)
  have answered := redeemed.answered
  rw [storeAfter_snoc, next_of_redeems redeemed.requested]
  generalize state.flow.accessTokenRequest platform state.tokenContext req readings
    (storeAfter platform state past) = result at ending answered
  cases ending with
  | refused | replayed | unsigned | aborted => cases answered
  | redeemed checked unused signed bounded =>
      exact ⟨_, _, _, checked, unused, signed, bounded, (Outcome.ok.inj answered).symm, rfl⟩

/-! ## Consumed codes -/

/-- No call forgets a consumed code. -/
theorem preserves_consumed (platform : Platform) (state : AppState) (key : String) :
    (server platform state).Preserves fun store => key ∈ store.consumedCodes := by
  intro store call consumed
  cases made : call.redeems? platform with
  | none =>
      rw [next_of_not_redeems made]
      split <;> exact consumed
  | some request =>
      obtain ⟨result, ending, moved, -⟩ := exists_redemption made
      rw [moved]
      cases ending with
      | refused | replayed => exact consumed
      | unsigned | aborted => exact Finset.mem_insert_of_mem consumed
      | redeemed => exact Finset.mem_insert_of_mem consumed

/-! ## Records -/

/-- A record stays, or is replaced, until its `jti` is revoked. -/
theorem isSome_records_next {platform : Platform} {state : AppState} {store : InMemoryTokenStore}
    {call : Call} {jti : String} (kept : call ≠ .revoke jti)
    (present : (store.records jti).isSome) :
    (((server platform state).next store call).records jti).isSome := by
  cases made : call.redeems? platform with
  | none =>
      rw [next_of_not_redeems made]
      cases call with
      | revoke revoked =>
          have elsewhere : jti ≠ revoked := fun same => kept (by rw [same])
          simpa [InMemoryTokenStore.revoke, Function.update_of_ne elsewhere] using present
      | authorize | authorizationRequest | token | accessTokenRequest | userinfo | lookup =>
          exact present
  | some request =>
      obtain ⟨result, ending, moved, -⟩ := exists_redemption made
      rw [moved]
      cases ending with
      | refused | replayed | unsigned | aborted => exact present
      | redeemed =>
          by_cases same : jti = randomJti request.2.jtiBytes
          · simp [recordToken_records, same]
          · simpa [recordToken_records, Function.update_of_ne same] using present

end OpenidTlsConnector
