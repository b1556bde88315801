import OpenidTlsConnector.Reference.Exchange

/-!
# Refused redemptions

A redemption that fails leaves the records alone, and burns its code only when
everything about it was right and the signing failed.  Requests with any other
defect can precede an honest one in any number without changing its outcome.
-/

namespace OpenidTlsConnector

open Foundations OIDCAuthCodePKCEFlow

/-- Signing failed for a request that had passed every check with an unused
code. -/
structure SigningFailed (platform : Platform) (flow : OIDCAuthCodePKCEFlow)
    (ctx : TokenIssueContext) (req : AccessTokenRequest) (readings : Readings)
    (store : InMemoryTokenStore) (authCode : AuthorizationCode) (error : OIDCError) : Prop where
  verified : SignedAuthorizationCode.decodeAndVerify platform req.code flow.hmacKey
    flow.codeMaxAge readings.verifiedAt = .ok authCode
  client : authCode.clientId = req.clientId
  redirect : authCode.redirectUri = req.redirectUri
  proved : authCode.codeChallenge = none ∨ authCode.ProvedBy platform req.codeVerifier
  registered : ctx.clients.validateRedirectUri req.clientId req.redirectUri = true
  authenticated : ctx.clients.validateClientSecret req.clientId req.clientSecret = .allow
  unused : codeReplayKey platform req.code ∉ store.consumedCodes
  failed : signTokens platform ctx req.clientId authCode readings = .error error
  server : ∃ cause : JwtError, error = .serverError cause.message

/-- What an error says about the store. -/
theorem store_of_error (platform : Platform) (flow : OIDCAuthCodePKCEFlow)
    (ctx : TokenIssueContext) (req : AccessTokenRequest) (readings : Readings)
    (store : InMemoryTokenStore) {error : OIDCError}
    (failed : (flow.accessTokenRequest platform ctx req readings store).1 = .error error) :
    (flow.accessTokenRequest platform ctx req readings store).2 = store ∨
      (flow.accessTokenRequest platform ctx req readings store).2.records = store.records ∧
        ∃ authCode, SigningFailed platform flow ctx req readings store authCode error := by
  have ending := accessTokenRequest_redemption platform flow ctx req readings store
  generalize flow.accessTokenRequest platform ctx req readings store = result at ending failed
  cases ending with
  | refused | replayed => exact Or.inl rfl
  | aborted | redeemed => cases failed
  | unsigned checked unused unsigned =>
      cases failed
      obtain ⟨verified, matched, registered, authenticated⟩ :=
        checkTokenRequest_eq_ok_iff.mp checked
      obtain ⟨client, redirect, proved⟩ :=
        (AuthorizationCode.validateTokenRequest_eq_ok_iff _ _ _ _ _).mp matched
      exact Or.inr ⟨rfl, _, {
        verified := verified
        client := client
        redirect := redirect
        proved := proved
        registered := registered
        authenticated := authenticated
        unused := unused
        failed := unsigned
        server := signTokens_eq_error unsigned }⟩

/-! ## Hostile requests -/

/-- What can be wrong with a request, whatever the store says. -/
inductive Defective (platform : Platform) (state : AppState) (req : AccessTokenRequest)
    (now : SystemTime) : Prop where
  | malformed
      (unreadable : ∀ signed, SignedAuthorizationCode.decode platform req.code ≠ .ok signed)
  | malformedPayload {signed}
      (decoded : SignedAuthorizationCode.decode platform req.code = .ok signed)
      (unreadable : TimestampedContainer.deserialize platform signed.data = none)
  | forged {signed} (decoded : SignedAuthorizationCode.decode platform req.code = .ok signed)
      (forgery : ¬ signed.Authentic platform state.flow.hmacKey)
  | expired {signed container}
      (decoded : SignedAuthorizationCode.decode platform req.code = .ok signed)
      (read : TimestampedContainer.deserialize platform signed.data = some container)
      (stale : ¬ (container.timestamp.nanos ≤ now.nanos ∧
        now.nanos < container.timestamp.nanos + state.flow.codeMaxAge.nanos))
  | wrongClient {authCode}
      (verified : SignedAuthorizationCode.decodeAndVerify platform req.code state.flow.hmacKey
        state.flow.codeMaxAge now = .ok authCode)
      (other : authCode.clientId ≠ req.clientId)
  | wrongRedirect {authCode}
      (verified : SignedAuthorizationCode.decodeAndVerify platform req.code state.flow.hmacKey
        state.flow.codeMaxAge now = .ok authCode)
      (other : authCode.redirectUri ≠ req.redirectUri)
  | unregisteredRedirect
      (unregistered : state.clients.validateRedirectUri req.clientId req.redirectUri = false)
  | wrongVerifier {authCode}
      (verified : SignedAuthorizationCode.decodeAndVerify platform req.code state.flow.hmacKey
        state.flow.codeMaxAge now = .ok authCode)
      (challenged : authCode.codeChallenge ≠ none)
      (unproved : ¬ authCode.ProvedBy platform req.codeVerifier)
  | wrongSecret
      (denied : state.clients.validateClientSecret req.clientId req.clientSecret = .deny)

/-- A defective request does not pass the check. -/
theorem Defective.rejected {platform : Platform} {state : AppState} {req : AccessTokenRequest}
    {now : SystemTime} (defective : Defective platform state req now) :
    ∃ error, state.flow.checkTokenRequest platform state.clients req now = .error error := by
  cases checked : state.flow.checkTokenRequest platform state.clients req now with
  | error error => exact ⟨error, rfl⟩
  | ok authCode =>
      exfalso
      obtain ⟨verified, matched, registered, authenticated⟩ :=
        checkTokenRequest_eq_ok_iff.mp checked
      obtain ⟨client, redirect, proved⟩ :=
        (AuthorizationCode.validateTokenRequest_eq_ok_iff _ _ _ _ _).mp matched
      obtain ⟨signed, container, decoded, authentic, read, -, stamped, fresh⟩ :=
        (SignedAuthorizationCode.decodeAndVerify_eq_ok_iff _ _ _ _ _ _).mp verified
      cases defective with
      | malformed unreadable => exact unreadable signed decoded
      | malformedPayload decoded' unreadable =>
          cases decoded.symm.trans decoded'
          cases read.symm.trans unreadable
      | forged decoded' forgery =>
          cases decoded.symm.trans decoded'
          exact forgery authentic
      | expired decoded' read' stale =>
          cases decoded.symm.trans decoded'
          cases read.symm.trans read'
          exact stale ⟨stamped, fresh⟩
      | wrongClient verified' other =>
          cases verified.symm.trans verified'
          exact other client
      | wrongRedirect verified' other =>
          cases verified.symm.trans verified'
          exact other redirect
      | unregisteredRedirect unregistered => cases registered.symm.trans unregistered
      | wrongVerifier verified' challenged unproved =>
          cases verified.symm.trans verified'
          exact proved.elim challenged unproved
      | wrongSecret denied => cases authenticated.symm.trans denied

/-- The call is a token request with some defect. -/
def Call.Hostile (platform : Platform) (state : AppState) (call : Call) : Prop :=
  ∃ req readings, call.redeems? platform = some (req, readings) ∧
    Defective platform state req readings.verifiedAt

theorem next_of_hostile {platform : Platform} {state : AppState} {call : Call}
    (hostile : call.Hostile platform state) (store : InMemoryTokenStore) :
    (server platform state).next store call = store := by
  obtain ⟨req, readings, requested, defective⟩ := hostile
  obtain ⟨error, rejected⟩ := defective.rejected
  have context : state.tokenContext.clients = state.clients := rfl
  rw [next_of_redeems requested]
  simp [accessTokenRequest, context, rejected]

/-- A run of hostile requests ends where it began. -/
theorem after_of_hostile {platform : Platform} {state : AppState} {run : List Call}
    (hostile : ∀ call ∈ run, call.Hostile platform state) (store : InMemoryTokenStore) :
    (server platform state).after store run = store := by
  induction run with
  | nil => rfl
  | cons call rest inductionHypothesis =>
      rw [Machine.after_cons, next_of_hostile (hostile call (by simp))]
      exact inductionHypothesis fun other membership => hostile other (by simp [membership])

/-- An error leaves the records as they were, and the consumed codes too unless
signing failed for a flawless request.  Hence hostile requests never change
what a later request gets. -/
theorem refusal_changes_nothing (platform : Platform) (state : AppState)
    (store : InMemoryTokenStore) (req : AccessTokenRequest) (readings : Readings) :
    (∀ error,
      (state.flow.accessTokenRequest platform state.tokenContext req readings store).1 =
          .error error →
        (state.flow.accessTokenRequest platform state.tokenContext req readings store).2.records =
            store.records ∧
          ((state.flow.accessTokenRequest platform state.tokenContext req readings
                store).2.consumedCodes = store.consumedCodes ∨
            ∃ authCode, SigningFailed platform state.flow state.tokenContext req readings store
              authCode error)) ∧
      ∀ run, (∀ call ∈ run, call.Hostile platform state) →
        state.flow.accessTokenRequest platform state.tokenContext req readings
            ((server platform state).after store run) =
          state.flow.accessTokenRequest platform state.tokenContext req readings store := by
  constructor
  · intro error failed
    rcases store_of_error platform state.flow state.tokenContext req readings store failed with
      same | ⟨records, signing⟩
    · rw [same]
      exact ⟨rfl, Or.inl rfl⟩
    · exact ⟨records, Or.inr signing⟩
  · intro run hostile
    rw [after_of_hostile hostile]

/-- A garbled code, then a stolen one presented by an unknown client: the
owner's redemption is none the worse. -/
theorem refusal_changes_nothing_sample :
    let code := Reference.code (Reference.authorization none "https://app.example/cb") 1700000000
    let own := Reference.redeem code "https://app.example/cb" none
    let garbled := { own with code := "?" }
    let stolen := { own with clientId := "mallory" }
    Reference.state.flow.accessTokenRequest Reference.platform Reference.state.tokenContext own
        (Reference.readings 1700000010 3)
        ((server Reference.platform Reference.state).after .new
          [.accessTokenRequest garbled (Reference.readings 1700000010 1),
            .accessTokenRequest stolen (Reference.readings 1700000010 2)]) =
      Reference.state.flow.accessTokenRequest Reference.platform Reference.state.tokenContext own
        (Reference.readings 1700000010 3) .new := by
  intro code own garbled stolen
  refine (refusal_changes_nothing _ _ _ _ _).2 _ fun call membership => ?_
  simp only [List.mem_cons, List.not_mem_nil, or_false] at membership
  rcases membership with rfl | rfl
  · have notBase64 : Reference.platform.urlSafe.decode "?" = none := by decide
    exact ⟨garbled, _, rfl, .malformed fun signed decoded => by
      simp [SignedAuthorizationCode.decode, garbled, notBase64] at decoded⟩
  · exact ⟨stolen, _, rfl, .wrongSecret (by decide :
      Reference.state.clients.validateClientSecret "mallory" none = .deny)⟩

end OpenidTlsConnector
