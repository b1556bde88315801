import OpenidTlsConnector.Server.SingleUse

/-!
# What an answer owes to the run before it

A code is used up by the first request that passes the checks with it, whether
or not tokens came of it.  Apart from that, and from the records of the `jti`s
a call asks for, the store tells a call nothing: requests about other codes and
other tokens may come, go or fail without changing its answer.
-/

namespace OpenidTlsConnector

open Foundations OIDCAuthCodePKCEFlow

variable {platform : Platform} {state : AppState} {past run : List Call} {call : Call}
  {req : AccessTokenRequest} {readings : Readings}

/-! ## Used codes -/

theorem Call.accepted_of_redeems {authCode : AuthorizationCode}
    (requested : call.redeems? platform = some (req, readings))
    (checked : state.flow.checkTokenRequest platform state.clients req readings.verifiedAt =
      .ok authCode) : call.Accepted platform state req :=
  ⟨readings, authCode, requested, checked⟩

/-- A call uses up the key it is accepted with, and no other. -/
theorem mem_consumedCodes_next {store : InMemoryTokenStore} {key : String} :
    key ∈ ((server platform state).next store call).consumedCodes ↔
      key ∈ store.consumedCodes ∨
        ∃ req, call.Accepted platform state req ∧ codeReplayKey platform req.code = key := by
  cases made : call.redeems? platform with
  | none =>
      have notAccepted : ¬ ∃ req, call.Accepted platform state req ∧
          codeReplayKey platform req.code = key := by
        intro accepted
        obtain ⟨req, ⟨_, _, requested, -⟩, -⟩ := accepted
        cases made.symm.trans requested
      rw [next_of_not_redeems made, or_iff_left notAccepted]
      cases call <;> rfl
  | some request =>
      obtain ⟨req, readings⟩ := request
      have accepted_iff : (∃ req, call.Accepted platform state req ∧
          codeReplayKey platform req.code = key) ↔
          (∃ authCode, state.flow.checkTokenRequest platform state.clients req
            readings.verifiedAt = .ok authCode) ∧ codeReplayKey platform req.code = key := by
        constructor
        · intro accepted
          obtain ⟨_, ⟨_, authCode, requested, checked⟩, sameKey⟩ := accepted
          cases made.symm.trans requested
          exact ⟨⟨authCode, checked⟩, sameKey⟩
        · intro accepted
          obtain ⟨⟨authCode, checked⟩, sameKey⟩ := accepted
          exact ⟨req, Call.accepted_of_redeems made checked, sameKey⟩
      rw [next_of_redeems made, accepted_iff]
      cases verdict : state.flow.checkTokenRequest platform state.clients req
          readings.verifiedAt with
      | error error => simp [accessTokenRequest_of_refused state.tokenContext verdict]
      | ok authCode =>
          by_cases used : codeReplayKey platform req.code ∈ store.consumedCodes
          · rw [accessTokenRequest_of_used state.tokenContext verdict used]
            constructor
            · exact Or.inl
            · intro consumed
              rcases consumed with earlier | ⟨-, rfl⟩
              · exact earlier
              · exact used
          · rw [accessTokenRequest_of_unused state.tokenContext verdict used]
            simp [eq_comm, or_comm]

/-- A key is used up exactly when an accepted request of the run presented it. -/
theorem mem_consumedCodes_iff {key : String} :
    key ∈ (storeAfter platform state run).consumedCodes ↔
      ∃ call ∈ run, ∃ req, call.Accepted platform state req ∧
        codeReplayKey platform req.code = key := by
  induction run using List.reverseRecOn with
  | nil => simp
  | append_singleton past call inductionHypothesis =>
      rw [storeAfter_snoc, mem_consumedCodes_next, inductionHypothesis]
      simp [or_and_right, exists_or]

/-- A request for tokens succeeds exactly when it passes the checks, no request
before it passed them with the same key, the tokens can be signed and their
record bounded. -/
theorem redeemed_iff :
    (∃ response, Redeemed platform state past call req readings response) ↔
      call.redeems? platform = some (req, readings) ∧
        ∃ authCode tokens expiresAt,
          state.flow.checkTokenRequest platform state.clients req readings.verifiedAt =
            .ok authCode ∧
          (∀ earlier ∈ past, ∀ req', earlier.Accepted platform state req' →
            codeReplayKey platform req'.code ≠ codeReplayKey platform req.code) ∧
          signTokens platform state.tokenContext req.clientId authCode readings = .ok tokens ∧
          readings.recordedAt.checkedAdd state.accessTokenTtl = some expiresAt := by
  have unused_iff : (∀ earlier ∈ past, ∀ req', earlier.Accepted platform state req' →
      codeReplayKey platform req'.code ≠ codeReplayKey platform req.code) ↔
      codeReplayKey platform req.code ∉ (storeAfter platform state past).consumedCodes := by
    rw [mem_consumedCodes_iff]
    simp only [not_exists, not_and, ne_eq]
  simp only [unused_iff]
  constructor
  · intro succeeded
    obtain ⟨response, redeemed⟩ := succeeded
    obtain ⟨authCode, tokens, expiresAt, checked, unused, signed, bounded, -⟩ := redeemed.outcome
    exact ⟨redeemed.requested, authCode, tokens, expiresAt, checked, unused, signed, bounded⟩
  · intro conditions
    obtain ⟨requested, authCode, tokens, expiresAt, checked, unused, signed, bounded⟩ := conditions
    refine ⟨tokenResponse state.tokenContext authCode tokens, requested, ?_⟩
    have bounded' : readings.recordedAt.checkedAdd state.tokenContext.accessTokenTtl =
        some expiresAt := bounded
    rw [accessTokenRequest_of_unused state.tokenContext checked unused]
    simp [issueTokens, signed, bounded']

/-! ## What a call can learn -/

variable {keys jtis : Finset String} {store other : InMemoryTokenStore}

/-- Two stores that cannot be told apart by these keys and records. -/
structure AgreeOn (keys jtis : Finset String) (store other : InMemoryTokenStore) : Prop where
  consumed : ∀ key ∈ keys, (key ∈ store.consumedCodes ↔ key ∈ other.consumedCodes)
  records : ∀ jti ∈ jtis, store.records jti = other.records jti

/-- The call presents one of the keys, or draws or revokes one of the `jti`s. -/
def Call.concerns (platform : Platform) (keys jtis : Finset String) (call : Call) : Bool :=
  match call.redeems? platform with
  | some (req, readings) =>
      codeReplayKey platform req.code ∈ keys || randomJti readings.jtiBytes ∈ jtis
  | none =>
      match call with
      | .revoke jti => jti ∈ jtis
      | _ => false

/-- Whoever draws one of the `jti`s presents one of the keys. -/
def Call.Within (platform : Platform) (keys jtis : Finset String) (call : Call) : Prop :=
  ∀ req readings, call.redeems? platform = some (req, readings) →
    randomJti readings.jtiBytes ∈ jtis → codeReplayKey platform req.code ∈ keys

/-- The call asks the store for nothing else. -/
def Call.Asks (platform : Platform) (state : AppState) (keys jtis : Finset String) (call : Call) :
    Prop :=
  (∀ req readings, call.redeems? platform = some (req, readings) →
      codeReplayKey platform req.code ∈ keys) ∧
    match call with
    | .userinfo headers clock =>
        ∀ claims, verifyBearerToken state headers clock = .ok claims → claims.jti ∈ jtis
    | .revoke jti | .lookup jti => jti ∈ jtis
    | _ => True

namespace AgreeOn

theorem consumeCode (agree : AgreeOn keys jtis store other) (key : String) :
    AgreeOn keys jtis (store.consumeCode key).2 (other.consumeCode key).2 := by
  constructor
  · intro wanted inKeys
    simp [agree.consumed wanted inKeys]
  · exact agree.records

theorem recordToken (agree : AgreeOn keys jtis store other) (clientId : String)
    (authCode : AuthorizationCode) (readings : Readings) (expiresAt : SystemTime) :
    AgreeOn keys jtis (recordToken store clientId authCode readings expiresAt)
      (OIDCAuthCodePKCEFlow.recordToken other clientId authCode readings expiresAt) := by
  constructor
  · exact agree.consumed
  · intro jti inJtis
    rw [recordToken_records, recordToken_records]
    by_cases same : jti = randomJti readings.jtiBytes
    · rw [same, Function.update_self, Function.update_self]
    · rw [Function.update_of_ne same, Function.update_of_ne same]
      exact agree.records jti inJtis

theorem revoke (agree : AgreeOn keys jtis store other) (jti : String) :
    AgreeOn keys jtis (store.revoke jti).2 (other.revoke jti).2 := by
  constructor
  · exact agree.consumed
  · intro wanted inJtis
    by_cases same : wanted = jti
    · simp [InMemoryTokenStore.revoke, same]
    · simpa [InMemoryTokenStore.revoke, same] using agree.records wanted inJtis

/-- One redemption in two stores that agree on its key. -/
theorem accessTokenRequest (agree : AgreeOn keys jtis store other)
    (inKeys : codeReplayKey platform req.code ∈ keys) (flow : OIDCAuthCodePKCEFlow)
    (ctx : TokenIssueContext) :
    (flow.accessTokenRequest platform ctx req readings store).1 =
        (flow.accessTokenRequest platform ctx req readings other).1 ∧
      AgreeOn keys jtis (flow.accessTokenRequest platform ctx req readings store).2
        (flow.accessTokenRequest platform ctx req readings other).2 := by
  have sameKey := agree.consumed _ inKeys
  cases verdict : flow.checkTokenRequest platform ctx.clients req readings.verifiedAt with
  | error error =>
      rw [accessTokenRequest_of_refused ctx verdict, accessTokenRequest_of_refused ctx verdict]
      exact ⟨rfl, agree⟩
  | ok authCode =>
      by_cases used : codeReplayKey platform req.code ∈ store.consumedCodes
      · rw [accessTokenRequest_of_used ctx verdict used,
          accessTokenRequest_of_used ctx verdict (sameKey.mp used)]
        exact ⟨rfl, agree⟩
      · rw [accessTokenRequest_of_unused ctx verdict used,
          accessTokenRequest_of_unused ctx verdict (mt sameKey.mpr used)]
        have consumed := agree.consumeCode (codeReplayKey platform req.code)
        obtain ⟨outcome, unchanged | ⟨expiresAt, recorded⟩⟩ :=
          issueTokens_uniform platform ctx req.clientId authCode readings
        · rw [unchanged, unchanged]
          exact ⟨rfl, consumed⟩
        · rw [recorded, recorded]
          exact ⟨rfl, consumed.recordToken _ _ _ _⟩

/-- A redemption that concerns neither the keys nor the records leaves them. -/
theorem of_unconcerned (platform : Platform) (flow : OIDCAuthCodePKCEFlow)
    (ctx : TokenIssueContext) (agree : AgreeOn keys jtis store other)
    (notKey : codeReplayKey platform req.code ∉ keys)
    (notJti : randomJti readings.jtiBytes ∉ jtis) :
    AgreeOn keys jtis (flow.accessTokenRequest platform ctx req readings store).2 other := by
  have consumed : AgreeOn keys jtis
      (store.consumeCode (codeReplayKey platform req.code)).2 other := by
    constructor
    · intro wanted inKeys
      have elsewhere : wanted ≠ codeReplayKey platform req.code := fun same =>
        notKey (same ▸ inKeys)
      simp [elsewhere, agree.consumed wanted inKeys]
    · exact agree.records
  cases verdict : flow.checkTokenRequest platform ctx.clients req readings.verifiedAt with
  | error error => rwa [accessTokenRequest_of_refused ctx verdict]
  | ok authCode =>
      by_cases used : codeReplayKey platform req.code ∈ store.consumedCodes
      · rwa [accessTokenRequest_of_used ctx verdict used]
      · rw [accessTokenRequest_of_unused ctx verdict used]
        obtain ⟨outcome, unchanged | ⟨expiresAt, recorded⟩⟩ :=
          issueTokens_uniform platform ctx req.clientId authCode readings
        · rwa [unchanged]
        · rw [recorded]
          constructor
          · exact consumed.consumed
          · intro jti inJtis
            have elsewhere : jti ≠ randomJti readings.jtiBytes := fun same =>
              notJti (same ▸ inJtis)
            rw [recordToken_records, Function.update_of_ne elsewhere]
            exact consumed.records jti inJtis

/-- A call that concerns them does the same to both stores. -/
theorem next (agree : AgreeOn keys jtis store other) (within : call.Within platform keys jtis)
    (concerns : call.concerns platform keys jtis = true) :
    AgreeOn keys jtis ((server platform state).next store call)
      ((server platform state).next other call) := by
  cases made : call.redeems? platform with
  | some request =>
      obtain ⟨req, readings⟩ := request
      simp only [Call.concerns, made, Bool.or_eq_true, decide_eq_true_eq] at concerns
      rw [next_of_redeems made, next_of_redeems made]
      exact (agree.accessTokenRequest (concerns.elim id (within req readings made)) _ _).2
  | none =>
      rw [next_of_not_redeems made, next_of_not_redeems made]
      cases call with
      | revoke jti => exact agree.revoke jti
      | authorize | authorizationRequest | token | accessTokenRequest | userinfo | lookup =>
          exact agree

/-- A call that does not, changes nothing that matters. -/
theorem skip (agree : AgreeOn keys jtis store other)
    (unconcerned : call.concerns platform keys jtis = false) :
    AgreeOn keys jtis ((server platform state).next store call) other := by
  cases made : call.redeems? platform with
  | some request =>
      obtain ⟨req, readings⟩ := request
      simp only [Call.concerns, made, Bool.or_eq_false_iff, decide_eq_false_iff_not] at unconcerned
      rw [next_of_redeems made]
      exact agree.of_unconcerned platform _ _ unconcerned.1 unconcerned.2
  | none =>
      rw [next_of_not_redeems made]
      cases call with
      | revoke jti =>
          simp only [Call.concerns, made, decide_eq_false_iff_not] at unconcerned
          constructor
          · exact agree.consumed
          · intro wanted inJtis
            have elsewhere : wanted ≠ jti := fun same => unconcerned (same ▸ inJtis)
            simpa [InMemoryTokenStore.revoke, elsewhere] using agree.records wanted inJtis
      | authorize | authorizationRequest | token | accessTokenRequest | userinfo | lookup =>
          exact agree

/-- A call that asks for nothing else is answered alike. -/
theorem answer (agree : AgreeOn keys jtis store other) (asks : call.Asks platform state keys jtis) :
    (server platform state).answer store call = (server platform state).answer other call := by
  obtain ⟨presents, asks⟩ := asks
  cases made : call.redeems? platform with
  | some request =>
      obtain ⟨req, readings⟩ := request
      rw [answer_of_redeems made, answer_of_redeems made,
        (agree.accessTokenRequest (presents req readings made) _ _).1]
  | none =>
      cases call with
      | authorize | authorizationRequest => rfl
      | accessTokenRequest => cases made
      | token headers params stamps =>
          cases parsed : tokenRequest platform headers params with
          | error failure => simp [Machine.answer, server, tokenHandler, parsed]
          | ok inner => simp [Call.redeems?, parsed, Except.toOption] at made
      | revoke jti =>
          simp [Machine.answer, server, InMemoryTokenStore.revoke, agree.records jti asks]
      | lookup jti =>
          simp [Machine.answer, server, InMemoryTokenStore.lookup, agree.records jti asks]
      | userinfo headers clock =>
          cases verified : verifyBearerToken state headers clock with
          | error failure =>
              simp [Machine.answer, server, userinfoHandler, verified, bind, Except.bind]
          | ok claims =>
              have same := agree.records claims.jti (asks claims verified)
              simp [Machine.answer, server, userinfoHandler, verified, bind, Except.bind,
                InMemoryTokenStore.lookup, same]

theorem refl (keys jtis : Finset String) (store : InMemoryTokenStore) :
    AgreeOn keys jtis store store where
  consumed _ _ := Iff.rfl
  records _ _ := rfl

end AgreeOn

end OpenidTlsConnector
