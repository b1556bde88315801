import OpenidTlsConnector.Foundations.History
import OpenidTlsConnector.Reference.Exchange

/-!
# `/userinfo` and the run

The store keeps a record exactly for the access tokens that were issued and
not revoked since.  With unforgeable signatures a bearer token leads back to
the redemption that issued it, so the record it finds repeats its claims.
-/

namespace OpenidTlsConnector

open Foundations OIDCAuthCodePKCEFlow

/-- The `jti` drawn for a token request. -/
def Call.jti? (platform : Platform) (call : Call) : Option String :=
  (call.redeems? platform).map fun request => randomJti request.2.jtiBytes

/-- No two token requests of the run draw the same `jti`. -/
def FreshJtis (platform : Platform) (run : List Call) : Prop :=
  (run.filterMap (Call.jti? platform)).Nodup

variable {platform : Platform} {state : AppState} {past before after : List Call} {call : Call}
  {req : AccessTokenRequest} {readings : Readings} {response : TokenResponse} {jti : String}
  {record : TokenRecord}

theorem FreshJtis.of_append (fresh : FreshJtis platform (past ++ after)) :
    FreshJtis platform past := by
  rw [FreshJtis, List.filterMap_append] at fresh
  exact (List.nodup_append.mp fresh).1

theorem jti?_of_redeems (requested : call.redeems? platform = some (req, readings)) :
    call.jti? platform = some (randomJti readings.jtiBytes) := by
  simp [Call.jti?, requested]

theorem Redeemed.jti? (redeemed : Redeemed platform state past call req readings response) :
    call.jti? platform = some (randomJti readings.jtiBytes) := jti?_of_redeems redeemed.requested

/-! ## Records -/

/-- The redemption writes `record` under `jti`. -/
def Records (platform : Platform) (state : AppState) (jti : String) (record : TokenRecord)
    (past : List Call) (call : Call) : Prop :=
  ∃ req readings response authCode expiresAt,
    Redeemed platform state past call req readings response ∧
    state.flow.checkTokenRequest platform state.clients req readings.verifiedAt = .ok authCode ∧
    readings.recordedAt.checkedAdd state.accessTokenTtl = some expiresAt ∧
    randomJti readings.jtiBytes = jti ∧
    record = {
      subject := authCode.subject
      clientId := req.clientId
      scope := authCode.scope
      groups := authCode.groups
      expiresAt := expiresAt
      jti := jti }

/-- Only a token request that drew `jti` writes under it. -/
theorem Records.jti? (records : Records platform state jti record past call) :
    call.jti? platform = some jti := by
  obtain ⟨req, readings, response, authCode, expiresAt, redeemed, -, -, rfl, -⟩ := records
  exact redeemed.jti?

/-- Two records of one redemption are the same. -/
theorem Records.unique {record' : TokenRecord}
    (records : Records platform state jti record past call)
    (records' : Records platform state jti record' past call) : record = record' := by
  obtain ⟨req, readings, _, authCode, expiresAt, redeemed, checked, bounded, -, rfl⟩ := records
  obtain ⟨req', readings', _, authCode', expiresAt', redeemed', checked', bounded', -, rfl⟩ :=
    records'
  cases redeemed.requested.symm.trans redeemed'.requested
  cases checked.symm.trans checked'
  cases bounded.symm.trans bounded'
  rfl

/-- A redemption writes its record and touches no other. -/
theorem Redeemed.records_next (redeemed : Redeemed platform state past call req readings response) :
    ∃ record, Records platform state (randomJti readings.jtiBytes) record past call ∧
      (storeAfter platform state (past ++ [call])).records =
        Function.update (storeAfter platform state past).records (randomJti readings.jtiBytes)
          (some record) := by
  obtain ⟨authCode, tokens, expiresAt, checked, -, -, bounded, -, left⟩ := redeemed.outcome
  exact ⟨_, ⟨req, readings, response, authCode, expiresAt, redeemed, checked, bounded, rfl, rfl⟩,
    by rw [left]; rfl⟩

/-- Any other call but `revoke` keeps all records. -/
theorem records_next_of_unredeemed
    (unredeemed : ∀ req readings response, ¬ Redeemed platform state past call req readings response) :
    (storeAfter platform state (past ++ [call])).records =
      match call with
      | .revoke jti => Function.update (storeAfter platform state past).records jti none
      | _ => (storeAfter platform state past).records := by
  rw [storeAfter_snoc]
  cases made : call.redeems? platform with
  | none =>
      rw [next_of_not_redeems made]
      cases call <;> rfl
  | some request =>
      obtain ⟨req, readings⟩ := request
      have failed : ∀ response, (state.flow.accessTokenRequest platform state.tokenContext req
          readings (storeAfter platform state past)).1 ≠ .ok response :=
        fun response answered => unredeemed req readings response ⟨made, answered⟩
      rw [next_of_redeems made, (accessTokenRequest_redemption _ _ _ _ _ _).records_of_failed failed]
      cases call with
      | revoke => cases made
      | authorize | authorizationRequest | token | accessTokenRequest | userinfo | lookup => rfl

/-- A fresh `jti` has no record yet. -/
theorem Redeemed.not_since_records (fresh : FreshJtis platform (past ++ [call]))
    (redeemed : Redeemed platform state past call req readings response) (record : TokenRecord) :
    ¬ Since (Records platform state (randomJti readings.jtiBytes) record)
      (· = Call.revoke (randomJti readings.jtiBytes)) past := by
  rintro ⟨start, cause, later, rfl, caused, -⟩
  have distinct := position_unique (by simpa [FreshJtis] using fresh)
    (by simp : start ++ cause :: (later ++ [call]) = (start ++ cause :: later) ++ [call])
    caused.jti? redeemed.jti?
  simp at distinct

/-- What a redemption does to one record, if its own `jti` is fresh. -/
theorem Redeemed.records_next_eq_some_iff
    (redeemed : Redeemed platform state past call req readings response)
    (unrecorded : ∀ older, (storeAfter platform state past).records
      (randomJti readings.jtiBytes) ≠ some older) :
    (storeAfter platform state (past ++ [call])).records jti = some record ↔
      ((storeAfter platform state past).records jti = some record ∧ ¬ call = .revoke jti) ∨
        Records platform state jti record past call := by
  obtain ⟨written, wrote, next⟩ := redeemed.records_next
  rw [next]
  by_cases same : jti = randomJti readings.jtiBytes
  · subst same
    simp only [Function.update_self, Option.some.injEq, unrecorded record, false_and, false_or]
    constructor
    · rintro rfl
      exact wrote
    · exact wrote.unique
  · have notRevoke : call ≠ .revoke jti := by
      rintro rfl
      cases redeemed.requested
    have elsewhere : ¬ Records platform state jti record past call := by
      intro caused
      have keyed := caused.jti?.symm.trans redeemed.jti?
      exact same (Option.some.inj keyed)
    simp [Function.update_of_ne same, notRevoke, elsewhere]

/-- What any other call does to one record. -/
theorem records_next_eq_some_iff_of_unredeemed
    (unredeemed : ∀ req readings response, ¬ Redeemed platform state past call req readings response) :
    (storeAfter platform state (past ++ [call])).records jti = some record ↔
      ((storeAfter platform state past).records jti = some record ∧ ¬ call = .revoke jti) ∨
        Records platform state jti record past call := by
  have elsewhere : ¬ Records platform state jti record past call := by
    rintro ⟨req, readings, response, _, _, redeemed, -⟩
    exact unredeemed req readings response redeemed
  rw [records_next_of_unredeemed unredeemed]
  cases call with
  | revoke revoked =>
      by_cases same : jti = revoked
      · simpa [same] using elsewhere
      · simp [Function.update_of_ne same, elsewhere, Ne.symm same]
  | authorize | authorizationRequest | token | accessTokenRequest | userinfo | lookup =>
      simp [elsewhere]

/-- The store holds a record exactly when a redemption wrote it and its `jti`
has not been revoked since. -/
theorem records_eq_some_iff (fresh : FreshJtis platform past) (jti : String)
    (record : TokenRecord) :
    (storeAfter platform state past).records jti = some record ↔
      Since (Records platform state jti record) (· = Call.revoke jti) past := by
  induction past using List.reverseRecOn generalizing jti record with
  | nil => simp
  | append_singleton past call inductionHypothesis =>
      rw [since_snoc, ← inductionHypothesis fresh.of_append]
      by_cases redeems : ∃ req readings response,
          Redeemed platform state past call req readings response
      · obtain ⟨req, readings, response, redeemed⟩ := redeems
        apply redeemed.records_next_eq_some_iff
        intro older recorded
        exact redeemed.not_since_records fresh older
          ((inductionHypothesis fresh.of_append _ older).mp recorded)
      · apply records_next_eq_some_iff_of_unredeemed
        intro req readings response redeemed
        exact redeems ⟨req, readings, response, redeemed⟩

/-! ## Bearer tokens -/

/-- The token was signed for a token request. -/
def Call.Signs (platform : Platform) (state : AppState) (token : String) (call : Call) : Prop :=
  ∃ req readings authCode, call.redeems? platform = some (req, readings) ∧
    state.flow.checkTokenRequest platform state.clients req readings.verifiedAt = .ok authCode ∧
    (state.jwtIssuer.issueIdToken platform authCode.subject req.clientId authCode.groups
        authCode.nonce state.idTokenTtl readings.idTokenAt = .ok token ∨
      state.jwtIssuer.issueAccessToken platform authCode.subject req.clientId authCode.groups
        authCode.scope (randomJti readings.jtiBytes) state.accessTokenTtl
        readings.accessTokenAt = .ok token)

/-- Every bearer token of the run that verifies was signed earlier in the run. -/
def SignaturesUnforgeable (platform : Platform) (state : AppState) (run : List Call) : Prop :=
  ∀ past headers clock future token claims,
    run = past ++ Call.userinfo headers clock :: future → bearerToken headers = .ok token →
    state.jwtIssuer.keys.verify token = some claims →
    ∃ call ∈ past, call.Signs platform state token

/-- The redemption returned `token` as its access token, under `jti`. -/
def Issues (platform : Platform) (state : AppState) (token jti : String) (past : List Call)
    (call : Call) : Prop :=
  ∃ req readings response, Redeemed platform state past call req readings response ∧
    response.accessToken = token ∧ randomJti readings.jtiBytes = jti

def AccessTokenClaims.userInfo (claims : AccessTokenClaims) : UserInfo where
  sub := claims.sub
  groups := claims.groups
  scope := claims.scope
  clientId := claims.clientId

/-- The access token of a redemption is genuine, carries the redemption's `jti`,
and repeats its record. -/
theorem Redeemed.accessTokenClaims
    (redeemed : Redeemed platform state past call req readings response) :
    ∃ claims record, state.jwtIssuer.accessTokenClaims response.accessToken = some claims ∧
      claims.iss = state.jwtIssuer.issuer ∧ claims.aud = state.jwtIssuer.issuer ∧
      (addU64 platform.overflowChecks readings.accessTokenAt.epochSecs
        state.accessTokenTtl.asSecs : Outcome JwtError Nat) = .ok claims.exp ∧
      claims.jti = randomJti readings.jtiBytes ∧
      Records platform state (randomJti readings.jtiBytes) record past call ∧
      record.userInfo = claims.userInfo := by
  obtain ⟨authCode, tokens, expiresAt, checked, -, signed, bounded, rfl, -⟩ := redeemed.outcome
  obtain ⟨-, issued⟩ := signTokens_eq_ok_iff.mp signed
  obtain ⟨exp, added, read⟩ := JwtIssuer.accessTokenClaims_of_issueAccessToken issued
  exact ⟨_, _, read, rfl, rfl, added, rfl,
    ⟨req, readings, _, authCode, expiresAt, redeemed, checked, bounded, rfl, rfl⟩, rfl⟩

/-- The access token of a redemption was signed for it. -/
theorem Redeemed.signs (redeemed : Redeemed platform state past call req readings response) :
    call.Signs platform state response.accessToken := by
  obtain ⟨authCode, tokens, _, checked, -, signed, -, rfl, -⟩ := redeemed.outcome
  exact ⟨req, readings, authCode, redeemed.requested, checked,
    Or.inr (signTokens_eq_ok_iff.mp signed).2⟩

/-- A genuine token whose `jti` a redemption recorded is that redemption's
access token. -/
theorem Records.issues {token : String} {claims : AccessTokenClaims}
    (fresh : FreshJtis platform (before ++ call :: after))
    (records : Records platform state claims.jti record before call)
    {signer : Call} (membership : signer ∈ before ++ call :: after)
    (signs : signer.Signs platform state token)
    (read : state.jwtIssuer.accessTokenClaims token = some claims) :
    Issues platform state token claims.jti before call := by
  obtain ⟨req, readings, authCode, requested, checked, issued | issued⟩ := signs
  · rw [JwtIssuer.accessTokenClaims_of_issueIdToken issued] at read
    cases read
  · obtain ⟨exp, -, read'⟩ := JwtIssuer.accessTokenClaims_of_issueAccessToken issued
    cases read.symm.trans read'
    -- both calls drew this `jti`, so they are one call
    obtain ⟨start, later, split⟩ := List.append_of_mem membership
    obtain ⟨rfl, rfl, rfl⟩ := position_unique fresh split records.jti? (jti?_of_redeems requested)
    obtain ⟨req', readings', response, authCode', expiresAt, redeemed, checked', -, -, -⟩ := records
    cases requested.symm.trans redeemed.requested
    obtain ⟨authCode'', tokens, _, checked'', -, signed, -, rfl, -⟩ := redeemed.outcome
    cases checked.symm.trans checked''
    cases issued.symm.trans (signTokens_eq_ok_iff.mp signed).2
    exact ⟨req, readings, _, redeemed, rfl, rfl⟩

/-- A genuine token that a redemption issued is addressed to the issuer and has
a record that says what it says. -/
theorem Issues.exists_record {token : String} {claims : AccessTokenClaims}
    (issues : Issues platform state token claims.jti past call)
    (read : state.jwtIssuer.accessTokenClaims token = some claims) :
    ∃ record, Records platform state claims.jti record past call ∧
      record.userInfo = claims.userInfo ∧ claims.iss = state.jwtIssuer.issuer ∧
      claims.aud = state.jwtIssuer.issuer := by
  obtain ⟨req, readings, response, redeemed, rfl, drawn⟩ := issues
  obtain ⟨claims', record, read', iss, aud, -, -, records, same⟩ := redeemed.accessTokenClaims
  cases read.symm.trans read'
  rw [drawn] at records
  exact ⟨record, records, same, iss, aud⟩

/-- What `/userinfo` answers after a run in which the presented token, if it is
genuine, was signed. -/
theorem userinfoHandler_eq_ok_iff_issued (headers : HeaderMap) (clock : SystemTime)
    (fresh : FreshJtis platform past)
    (signed : ∀ token claims, bearerToken headers = .ok token →
      state.jwtIssuer.keys.verify token = some claims →
      ∃ call ∈ past, call.Signs platform state token) (info : UserInfo) :
    userinfoHandler state headers clock (storeAfter platform state past) = .ok info ↔
      ∃ token claims, bearerToken headers = .ok token ∧
        state.jwtIssuer.accessTokenClaims token = some claims ∧
        Since (Issues platform state token claims.jti) (· = Call.revoke claims.jti) past ∧
        clock.epochSecs ≤ claims.exp + 5 ∧ claims.userInfo = info := by
  rw [userinfoHandler_eq_ok_iff]
  constructor
  · rintro ⟨token, claims, record, presented, verified, recorded, rfl⟩
    obtain ⟨read, -, -, unexpired⟩ := JwtIssuer.verifyAccessToken_eq_some_iff.mp verified
    obtain ⟨before, call, after, rfl, records, kept⟩ :=
      (records_eq_some_iff fresh claims.jti record).mp recorded
    obtain ⟨json, genuine, -⟩ := Option.bind_eq_some_iff.mp read
    obtain ⟨signer, membership, signs⟩ := signed token json presented genuine
    have issues := records.issues fresh membership signs read
    obtain ⟨record', records', same, -, -⟩ := issues.exists_record read
    cases records.unique records'
    exact ⟨token, claims, presented, read, ⟨before, call, after, rfl, issues, kept⟩, unexpired,
      same.symm⟩
  · rintro ⟨token, claims, presented, read, ⟨before, call, after, rfl, issues, kept⟩, unexpired,
      rfl⟩
    obtain ⟨record, records, same, iss, aud⟩ := issues.exists_record read
    have recorded := (records_eq_some_iff fresh claims.jti record).mpr
      ⟨before, call, after, rfl, records, kept⟩
    exact ⟨token, claims, record, presented,
      JwtIssuer.verifyAccessToken_eq_some_iff.mpr ⟨read, iss, aud, unexpired⟩, recorded, same⟩

/-- `/userinfo` answers for a token exactly while it is issued, unexpired and
unrevoked, and says what the token says.  A revocation is final. -/
theorem userinfo_agrees (platform : Platform) (state : AppState) (run : List Call)
    (fresh : FreshJtis platform run) (unforgeable : SignaturesUnforgeable platform state run)
    (past future : List Call) (headers : HeaderMap) (clock : SystemTime)
    (split : run = past ++ .userinfo headers clock :: future) :
    (∀ info,
      userinfoHandler state headers clock (storeAfter platform state past) = .ok info ↔
        ∃ token claims, bearerToken headers = .ok token ∧
          state.jwtIssuer.accessTokenClaims token = some claims ∧
          Since (Issues platform state token claims.jti) (· = Call.revoke claims.jti) past ∧
          clock.epochSecs ≤ claims.exp + 5 ∧ claims.userInfo = info) ∧
      ∀ before call after token jti, past = before ++ call :: after →
        Issues platform state token jti before call → Call.revoke jti ∈ after →
        bearerToken headers = .ok token → ∀ info,
        userinfoHandler state headers clock (storeAfter platform state past) ≠ .ok info := by
  have pastFresh : FreshJtis platform past := (split ▸ fresh).of_append
  have accepted := userinfoHandler_eq_ok_iff_issued headers clock pastFresh
    fun token json presented genuine =>
      unforgeable _ headers clock future token json split presented genuine
  refine ⟨accepted, ?_⟩
  rintro before call after token jti rfl issues revoked presented info answered
  obtain ⟨token', claims, presented', read, ⟨start, other, later, same, issues', kept⟩, -, -⟩ :=
    (accepted info).mp answered
  cases presented.symm.trans presented'
  obtain ⟨req, readings, response, redeemed, rfl, rfl⟩ := issues
  obtain ⟨req', readings', response', redeemed', sameToken, drawn⟩ := issues'
  obtain ⟨claims', _, read', -, -, -, carried, -⟩ := redeemed.accessTokenClaims
  cases read.symm.trans read'
  obtain ⟨rfl, rfl, rfl⟩ := position_unique pastFresh same redeemed.jti?
    (by rw [redeemed'.jti?, drawn, carried])
  exact kept _ revoked (by rw [carried])

/-- Ten seconds after the sample redemption its token is good at `/userinfo`. -/
theorem userinfo_agrees_sample :
    ∃ headers info, userinfoHandler Reference.state headers (Reference.clock 1700000020)
      (storeAfter Reference.platform Reference.state
        [Reference.authorizeCall (some "verifier") "https://app.example/cb",
          Reference.tokenCall (some "verifier") "https://app.example/cb"]) = .ok info := by
  have registered : "https://app.example/cb" ∈ Reference.publicClient.redirectUris := by decide
  obtain ⟨response, redeemed⟩ := Reference.tokenCall_redeemed (some "verifier") registered
  obtain ⟨claims, record, read, -, -, added, drawn, -, -⟩ := redeemed.accessTokenClaims
  have presented := bearerToken_withAuthorization Reference.noHeaders
    (Reference.graphic_accessToken redeemed)
  have exp : (addU64 false 1700000010 3600 : Outcome JwtError Nat) = .ok 1700003610 := by decide
  have unexpired : claims.exp = 1700003610 := Outcome.ok.inj (added.symm.trans exp)
  have fresh : FreshJtis Reference.platform
      [Reference.authorizeCall (some "verifier") "https://app.example/cb",
        Reference.tokenCall (some "verifier") "https://app.example/cb",
        .userinfo (Reference.noHeaders.withAuthorization
          (some (.ofString ("Bearer " ++ response.accessToken)))) (Reference.clock 1700000020)] :=
    List.nodup_singleton (randomJti (Reference.readings 1700000010 1).jtiBytes)
  have unforgeable : SignaturesUnforgeable Reference.platform Reference.state
      [Reference.authorizeCall (some "verifier") "https://app.example/cb",
        Reference.tokenCall (some "verifier") "https://app.example/cb",
        .userinfo (Reference.noHeaders.withAuthorization
          (some (.ofString ("Bearer " ++ response.accessToken)))) (Reference.clock 1700000020)] := by
    intro past headers clock future token json split presented' genuine
    match past, split with
    | [], split | [_], split => cases split
    | [_, _], split =>
        cases split
        cases presented.symm.trans presented'
        exact ⟨_, by simp, redeemed.signs⟩
    | _ :: _ :: _ :: past, split => simp at split
  refine ⟨_, claims.userInfo, ((userinfo_agrees _ _ _ fresh unforgeable _ [] _ _ rfl).1 _).mpr
    ⟨_, claims, presented, read, ⟨_, _, [], rfl, ⟨_, _, _, redeemed, rfl, drawn.symm⟩, by simp⟩,
      ?_, rfl⟩⟩
  rw [unexpired]
  decide

end OpenidTlsConnector
