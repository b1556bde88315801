import Mathlib.Data.Set.Card
import OpenidTlsConnector.Server.Surface

/-!
# What the server keeps

The store grows with the codes that are redeemed, and with nothing else that is
asked of the server.
-/

namespace OpenidTlsConnector

open Foundations OIDCAuthCodePKCEFlow

variable {framework : Framework} {platform : Platform} {state : AppState} {jwk : Jwk}
  {arrival : Arrival} {store : InMemoryTokenStore} {headers : HeaderMap}

/-- The `jti`s under which the store has a record. -/
def InMemoryTokenStore.recorded (store : InMemoryTokenStore) : Set String :=
  {jti | (store.records jti).isSome}

/-- A form at `/token` that was answered with tokens. -/
def answersTokens (entry : Arrival × Answer) : Bool :=
  match entry.1.request.endpoint, entry.2 with
  | .ok .token, .response sent => sent.status == 200
  | _, _ => false

/-- The check blames the request, never the server. -/
theorem unsettled_of_checkTokenRequest {flow : OIDCAuthCodePKCEFlow} {clients : ClientRegistry}
    {req : AccessTokenRequest} {now : SystemTime} {error : OIDCError}
    (rejected : flow.checkTokenRequest platform clients req now = .error error) :
    (Answer.error error.intoResponse).settles = false := by
  rw [checkTokenRequest, except_bind_eq_error_iff] at rejected
  rcases rejected with unverified | ⟨authCode, -, rejected⟩
  · rcases except_mapError_eq_error_iff.mp unverified with ⟨cause, -, rfl⟩
    cases cause <;> rfl
  rw [except_bind_eq_error_iff] at rejected
  rcases rejected with unmatched | ⟨_, -, rejected⟩
  · rcases except_mapError_eq_error_iff.mp unmatched with ⟨cause, -, rfl⟩
    rfl
  split_ifs at rejected with registered
  · split at rejected <;> cases rejected
    rfl
  · cases rejected
    rfl

/-- What a step does to the store: nothing, or it adds the key of a code, and
with it at most one record. -/
inductive Grows (store : InMemoryTokenStore) :
    (matters answersTokens : Bool) → InMemoryTokenStore → Prop where
  | same : Grows store false false store
  | consumed {left : InMemoryTokenStore} {key : String} (unused : key ∉ store.consumedCodes)
      (codes : left.consumedCodes = insert key store.consumedCodes)
      (records : left.records = store.records) : Grows store true false left
  | redeemed {left : InMemoryTokenStore} {key jti : String} {record : TokenRecord}
      (unused : key ∉ store.consumedCodes)
      (codes : left.consumedCodes = insert key store.consumedCodes)
      (records : left.records = Function.update store.records jti (some record)) :
      Grows store true true left

/-- A request that does not matter was given nothing. -/
theorem Grows.of_not_matters {entry : Arrival × Answer} (unmattered : matters entry = false) :
    Grows store (matters entry) (answersTokens entry) store := by
  have nothing : answersTokens entry = false := by
    unfold answersTokens
    split
    · rename_i sent reached answered
      simp only [matters, reached, answered, Answer.settles, Bool.or_eq_false_iff] at unmattered
      exact unmattered.1
    · rfl
  rw [unmattered, nothing]
  exact .same

theorem unsettled_of_tokenRequest {params : TokenParams} {error : OIDCError}
    (rejected : tokenRequest platform headers params = .error error) :
    (Answer.error error.intoResponse).settles = false := by
  rw [tokenRequest, except_bind_eq_error_iff] at rejected
  rcases rejected with unsupported | ⟨grantType, -, unnamed⟩
  · rw [GrantType.fromStr] at unsupported
    split_ifs at unsupported
    cases unsupported
    rfl
  · dsimp only at unnamed
    split at unnamed <;> cases unnamed
    rfl

/-- A redemption grows the store as its answer says. -/
theorem grows_of_redemption {ctx : TokenIssueContext} {req : AccessTokenRequest}
    {readings : Readings} {result : Outcome OIDCError TokenResponse × InMemoryTokenStore}
    (reached : arrival.request.endpoint = .ok .token)
    (ending : Redemption platform state.flow ctx req readings store result) :
    let answer := Answer.ofOutcome (fun response : TokenResponse => .json response.toJson) result.1
    Grows store (matters (arrival, answer)) (answersTokens (arrival, answer)) result.2 := by
  intro answer
  cases ending with
  | @refused error rejected =>
      apply Grows.of_not_matters
      simp only [matters, reached]
      exact unsettled_of_checkTokenRequest rejected
  | replayed =>
      simp only [answer, matters, answersTokens, reached]
      exact .same
  | unsigned _ unused failed =>
      obtain ⟨cause, rfl⟩ := signTokens_eq_error failed
      simp only [answer, matters, answersTokens, reached]
      exact .consumed unused rfl rfl
  | aborted _ unused =>
      simp only [answer, matters, answersTokens, reached]
      exact .consumed unused rfl rfl
  | redeemed _ unused =>
      simp only [answer, matters, answersTokens, reached]
      exact .redeemed unused rfl (recordToken_records ..)

theorem serve_token_grows (jwk : Jwk) (store : InMemoryTokenStore)
    (reached : arrival.request.endpoint = .ok .token) :
    let served := serve framework platform state jwk .token arrival store
    Grows store (matters (arrival, served.1)) (answersTokens (arrival, served.1)) served.2 := by
  cases read : arrival.request.tokenParams framework with
  | error reason =>
      simp only [serve, read]
      apply Grows.of_not_matters
      simp only [matters, reached, Answer.settles]
  | ok params =>
      simp only [serve, read, tokenHandler]
      cases parsed : tokenRequest platform arrival.request.headers params with
      | error failure =>
          apply Grows.of_not_matters
          simp only [matters, reached]
          exact unsettled_of_tokenRequest parsed
      | ok req => exact grows_of_redemption reached (accessTokenRequest_redemption ..)

/-- Every step grows the store as its answer says. -/
theorem httpServer_grows (framework : Framework) (platform : Platform) (state : AppState)
    (jwk : Jwk) (store : InMemoryTokenStore) (arrival : Arrival) :
    let entry := (arrival, (httpServer framework platform state jwk).answer store arrival)
    Grows store (matters entry) (answersTokens entry)
      ((httpServer framework platform state jwk).next store arrival) := by
  intro entry
  by_cases reached : arrival.request.endpoint = .ok .token
  · have notHead : arrival.request.method ≠ .head := by
      simp [(Request.method_of_token reached).2]
    have step : (httpServer framework platform state jwk).step store arrival = _ :=
      httpServer_step reached notHead
    simp only [entry, Machine.answer, Machine.next, step]
    exact serve_token_grows jwk store reached
  · have unmattered : matters entry = false := by
      unfold matters
      split
      · exact absurd ‹_› reached
      · rfl
    rw [httpServer_harmless store arrival unmattered]
    exact .of_not_matters unmattered

/-! ## Runs -/

/-- The store has one key for each request that mattered, and no more records
than tokens were given. -/
structure KeepsCount (history : List (Arrival × Answer)) (store : InMemoryTokenStore) : Prop where
  codes : store.consumedCodes.card = (history.filter matters).length
  finite : store.recorded.Finite
  records : store.recorded.ncard ≤ (history.filter answersTokens).length

theorem KeepsCount.snoc {history : List (Arrival × Answer)} {entry : Arrival × Answer}
    {left : InMemoryTokenStore} (keeps : KeepsCount history store)
    (grows : Grows store (matters entry) (answersTokens entry) left) :
    KeepsCount (history ++ [entry]) left := by
  generalize counted : matters entry = matter at grows
  generalize given : answersTokens entry = gives at grows
  cases grows with
  | same => exact {
      codes := by simp [counted, keeps.codes]
      finite := keeps.finite
      records := by simpa [given] using keeps.records }
  | @consumed _ key unused codes records =>
      have recorded : left.recorded = store.recorded := by
        rw [InMemoryTokenStore.recorded, records]
        rfl
      exact {
        codes := by simp [counted, codes, Finset.card_insert_of_notMem unused, keeps.codes]
        finite := recorded ▸ keeps.finite
        records := by simpa [given, recorded] using keeps.records }
  | @redeemed _ key jti record unused codes records =>
      have recorded : left.recorded = insert jti store.recorded := by
        ext other
        by_cases same : other = jti <;> simp [InMemoryTokenStore.recorded, records, same]
      exact {
        codes := by simp [counted, codes, Finset.card_insert_of_notMem unused, keeps.codes]
        finite := recorded ▸ keeps.finite.insert jti
        records := by
          have atMost := Set.ncard_insert_le jti store.recorded
          have before := keeps.records
          simp only [recorded, List.filter_append, List.length_append, List.filter_cons, given,
            if_true, List.filter_nil, List.length_singleton]
          omega }

/-- After any run of requests the store holds the key of one code for each
request to `/token` that was answered with success, an internal error or not at
all, and at most one record for each that was answered with tokens. -/
theorem httpServer_keepsCount (framework : Framework) (platform : Platform) (state : AppState)
    (jwk : Jwk) (run : List Arrival) :
    KeepsCount ((httpServer framework platform state jwk).trace .new run)
      ((httpServer framework platform state jwk).after .new run) := by
  have nothing : InMemoryTokenStore.new.recorded = ∅ := by simp [InMemoryTokenStore.recorded]
  apply Machine.trace_induction
  · exact {
      codes := rfl
      finite := nothing ▸ Set.finite_empty
      records := by simp [nothing] }
  · intro history reached arrival keeps
    exact keeps.snoc (httpServer_grows framework platform state jwk reached arrival)

end OpenidTlsConnector
