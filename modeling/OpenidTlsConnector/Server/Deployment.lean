import Mathlib.Data.Fintype.Card
import OpenidTlsConnector.Foundations.Replicas
import OpenidTlsConnector.Server.Histories
import OpenidTlsConnector.Server.Userinfo

/-!
# Several replicas

The deployment runs several servers with one configuration, each with an
in-memory store of its own that a restart empties.  Codes travel, since every
replica can verify them; what is remembered of them does not.  So a code is
good once in every lifetime of every replica, and an access token is good only
where it was issued.
-/

namespace OpenidTlsConnector

open Foundations OIDCAuthCodePKCEFlow

universe u

variable {Id : Type u} [DecidableEq Id] {platform : Platform} {state : AppState}
  {history before between : List (Delivery Id Call)} {id issuer : Id} {call : Call}
  {req : AccessTokenRequest} {readings : Readings} {response : TokenResponse}

/-- One configuration, a store for each replica. -/
def replicas (platform : Platform) (state : AppState) :
    Machine (Id → InMemoryTokenStore) (Delivery Id Call) (Option Reply) :=
  (server platform state).replicate .new

/-- The stores after `history`, all empty at first. -/
def storesAfter (platform : Platform) (state : AppState) (history : List (Delivery Id Call)) :
    Id → InMemoryTokenStore :=
  (replicas platform state).after (fun _ => .new) history

/-- `call`, sent to `id` after `history`, is an access token request that
returned `response`. -/
structure RedeemedAt (platform : Platform) (state : AppState) (history : List (Delivery Id Call))
    (id : Id) (call : Call) (req : AccessTokenRequest) (readings : Readings)
    (response : TokenResponse) : Prop where
  requested : call.redeems? platform = some (req, readings)
  answered : (replicas platform state).answer (storesAfter platform state history)
    (.deliver id call) = some (.tokens (.ok response))

theorem storesAfter_eq (history : List (Delivery Id Call)) (id : Id) :
    storesAfter platform state history id =
      storeAfter platform state (Delivery.lifetime id history) :=
  (server platform state).replicate_after .new history id

theorem replicas_answer (history : List (Delivery Id Call)) (id : Id) (call : Call) :
    (replicas platform state).answer (storesAfter platform state history) (.deliver id call) =
      some ((server platform state).answer
        (storeAfter platform state (Delivery.lifetime id history)) call) :=
  (server platform state).replicate_answer .new history id call

/-- A redemption at a replica is a redemption in its lifetime. -/
theorem redeemedAt_iff :
    RedeemedAt platform state history id call req readings response ↔
      Redeemed platform state (Delivery.lifetime id history) call req readings response := by
  constructor
  · intro redeemed
    refine ⟨redeemed.requested, ?_⟩
    have answered := redeemed.answered
    rw [replicas_answer, answer_of_redeems redeemed.requested] at answered
    exact Reply.tokens.inj (Option.some.inj answered)
  · intro redeemed
    refine ⟨redeemed.requested, ?_⟩
    rw [replicas_answer, answer_of_redeems redeemed.requested, redeemed.answered]

/-! ## How often a code is good -/

/-- The entry shows tokens given for the code text. -/
def givesTokens (platform : Platform) (text : String) :
    Delivery Id Call × Option Reply → Bool
  | (.deliver _ call, some (.tokens (.ok _))) =>
      (call.redeems? platform).any fun request => request.1.code = text
  | _ => false

def isRestart : Delivery Id Call → Bool
  | .restart _ => true
  | .deliver _ _ => false

/-- The replicas that have not seen the code in their current lifetimes. -/
def unaware [Fintype Id] (platform : Platform) (text : String) (stores : Id → InMemoryTokenStore) :
    Finset Id :=
  {id | codeReplayKey platform text ∉ (stores id).consumedCodes}

/-- A success uses an unused key. -/
theorem key_of_answered {flow : OIDCAuthCodePKCEFlow} {ctx : TokenIssueContext}
    {store : InMemoryTokenStore}
    (answered : (flow.accessTokenRequest platform ctx req readings store).1 = .ok response) :
    codeReplayKey platform req.code ∉ store.consumedCodes ∧
      codeReplayKey platform req.code ∈
        (flow.accessTokenRequest platform ctx req readings store).2.consumedCodes := by
  have ending := accessTokenRequest_redemption platform flow ctx req readings store
  generalize flow.accessTokenRequest platform ctx req readings store = result at ending answered ⊢
  cases ending with
  | refused | replayed | unsigned | aborted => cases answered
  | redeemed checked unused => exact ⟨unused, Finset.mem_insert_self _ _⟩

section Count

variable [Fintype Id] {text : String} {stores : Id → InMemoryTokenStore}

omit [DecidableEq Id] in
theorem mem_unaware_iff : id ∈ unaware platform text stores ↔
    codeReplayKey platform text ∉ (stores id).consumedCodes := by
  simp [unaware]

/-- No call makes a replica forget. -/
theorem unaware_next_deliver_subset (platform : Platform) (state : AppState) (text : String)
    (stores : Id → InMemoryTokenStore) (id : Id) (call : Call) :
    unaware platform text ((replicas platform state).next stores (.deliver id call)) ⊆
      unaware platform text stores := by
  intro other
  rw [mem_unaware_iff, mem_unaware_iff, replicas, Machine.replicate_next_deliver]
  intro unused used
  by_cases same : other = id
  · subst same
    rw [Function.update_self] at unused
    exact unused (preserves_consumed platform state _ _ _ used)
  · rw [Function.update_of_ne same] at unused
    exact unused used

/-- Tokens for a code cost the replica that gives them its unawareness. -/
theorem unaware_next_of_givesTokens
    (gives : givesTokens platform text (.deliver id call,
      (replicas platform state).answer stores (.deliver id call)) = true) :
    unaware platform text ((replicas platform state).next stores (.deliver id call)) ⊂
      unaware platform text stores := by
  have answered : (replicas platform state).answer stores (.deliver id call) =
    some ((server platform state).answer (stores id) call) := rfl
  obtain ⟨response, req, readings, replied, made, rfl⟩ : ∃ response req readings,
      (server platform state).answer (stores id) call = .tokens (.ok response) ∧
        call.redeems? platform = some (req, readings) ∧ req.code = text := by
    rw [answered] at gives
    unfold givesTokens at gives
    split at gives
    · rename_i sent response shown
      obtain ⟨sameDelivery, sameReply⟩ := Prod.mk.inj shown
      cases sameDelivery
      obtain ⟨⟨req, readings⟩, made, isText⟩ := (Option.any_eq_true _ _).mp gives
      exact ⟨response, req, readings, Option.some.inj sameReply, made, of_decide_eq_true isText⟩
    · cases gives
  rw [answer_of_redeems made] at replied
  obtain ⟨unused, used⟩ := key_of_answered (Reply.tokens.inj replied)
  refine Finset.ssubset_iff_subset_ne.mpr ⟨unaware_next_deliver_subset _ _ _ _ _ _, fun same => ?_⟩
  have before : id ∈ unaware platform req.code stores := mem_unaware_iff.mpr unused
  rw [← same, mem_unaware_iff, replicas, Machine.replicate_next_deliver, Function.update_self,
    next_of_redeems made] at before
  exact before used

/-- A restart makes at most one replica forget. -/
theorem unaware_next_restart_subset (platform : Platform) (state : AppState) (text : String)
    (stores : Id → InMemoryTokenStore) (id : Id) :
    unaware platform text ((replicas platform state).next stores (.restart id)) ⊆
      insert id (unaware platform text stores) := by
  intro other
  rw [mem_unaware_iff, Finset.mem_insert, mem_unaware_iff, replicas,
    Machine.replicate_next_restart]
  intro unused
  by_cases same : other = id
  · exact Or.inl same
  · rw [Function.update_of_ne same] at unused
    exact Or.inr unused

/-- What a delivery gives it takes from what can still be given, unless it is a
restart. -/
theorem budget_next (platform : Platform) (state : AppState) (text : String)
    (stores : Id → InMemoryTokenStore) (delivery : Delivery Id Call) :
    [(delivery, (replicas platform state).answer stores delivery)].countP
          (givesTokens platform text) +
        (unaware platform text ((replicas platform state).next stores delivery)).card ≤
      (unaware platform text stores).card + [delivery].countP isRestart := by
  cases delivery with
  | restart id =>
      have more := Finset.card_le_card
        (unaware_next_restart_subset platform state text stores id)
      simpa [givesTokens, isRestart] using more.trans (Finset.card_insert_le _ _)
  | deliver id call =>
      by_cases gives : givesTokens platform text (.deliver id call,
          (replicas platform state).answer stores (.deliver id call)) = true
      · have fewer := Finset.card_lt_card (unaware_next_of_givesTokens gives)
        rw [List.countP_singleton, if_pos gives]
        omega
      · have fewer := Finset.card_le_card
          (unaware_next_deliver_subset platform state text stores id call)
        simpa [gives, isRestart] using fewer

theorem budget_after (platform : Platform) (state : AppState) (text : String)
    (history : List (Delivery Id Call)) :
    ((replicas platform state).trace (fun _ => .new) history).countP (givesTokens platform text) +
        (unaware platform text (storesAfter platform state history)).card ≤
      Fintype.card Id + history.countP isRestart := by
  induction history using List.reverseRecOn with
  | nil => simpa [Machine.trace] using Finset.card_le_univ _
  | append_singleton history delivery inductionHypothesis =>
      have step := budget_next platform state text (storesAfter platform state history) delivery
      rw [Machine.trace_snoc, List.countP_append, List.countP_append]
      simp only [storesAfter, Machine.after_snoc] at step inductionHypothesis ⊢
      omega

/-- However the replicas are called and restarted, one code text is good at most
once for every replica and once more for every restart. -/
theorem givesTokens_le (platform : Platform) (state : AppState) (text : String)
    (history : List (Delivery Id Call)) :
    ((replicas platform state).trace (fun _ => .new) history).countP (givesTokens platform text) ≤
      Fintype.card Id + history.countP isRestart := by
  have budget := budget_after platform state text history
  omega

end Count

/-! ## When and where -/

/-- Two checks of one payload lie within the lifetime of its stamp. -/
theorem verifiedAt_lt_of_signedData {flow : OIDCAuthCodePKCEFlow} {clients : ClientRegistry}
    {req' : AccessTokenRequest} {now now' : SystemTime} {authCode authCode' : AuthorizationCode}
    (checked : flow.checkTokenRequest platform clients req now = .ok authCode)
    (checked' : flow.checkTokenRequest platform clients req' now' = .ok authCode')
    {data : List UInt8} (signs : SignedData platform req.code data)
    (signs' : SignedData platform req'.code data) :
    now'.nanos < now.nanos + flow.codeMaxAge.nanos := by
  obtain ⟨signed, decoded, rfl⟩ := signs
  obtain ⟨signed', decoded', sameData⟩ := signs'
  obtain ⟨verified, -⟩ := checkTokenRequest_eq_ok_iff.mp checked
  obtain ⟨verified', -⟩ := checkTokenRequest_eq_ok_iff.mp checked'
  obtain ⟨_, container, decoding, -, read, -, stamped, -⟩ :=
    (SignedAuthorizationCode.decodeAndVerify_eq_ok_iff _ _ _ _ _ _).mp verified
  obtain ⟨_, container', decoding', -, read', -, -, fresh'⟩ :=
    (SignedAuthorizationCode.decodeAndVerify_eq_ok_iff _ _ _ _ _ _).mp verified'
  cases decoded.symm.trans decoding
  cases decoded'.symm.trans decoding'
  rw [sameData] at read'
  cases read.symm.trans read'
  omega

/-- A code text that is redeemed again is redeemed at another replica or after a
restart, and a payload that is redeemed again, however it is spelled, within
`code_max_age` of the first time. -/
theorem redeemed_again {call' : Call} {req' : AccessTokenRequest} {readings' : Readings}
    {response' : TokenResponse}
    (first : RedeemedAt platform state before issuer call req readings response)
    (second : RedeemedAt platform state (before ++ .deliver issuer call :: between) id call' req'
      readings' response') :
    (req.code = req'.code → issuer ≠ id ∨ .restart id ∈ between) ∧
      ∀ data, SignedData platform req.code data → SignedData platform req'.code data →
        readings'.verifiedAt.nanos < readings.verifiedAt.nanos + state.flow.codeMaxAge.nanos ∧
          readings.verifiedAt.nanos < readings'.verifiedAt.nanos + state.flow.codeMaxAge.nanos := by
  rw [redeemedAt_iff] at first second
  constructor
  · intro sameCode
    by_contra stayed
    obtain ⟨rfl, running⟩ := not_or.mp stayed |>.imp_left not_not.mp
    obtain ⟨received, grown⟩ := Delivery.lifetime_append issuer (before ++ [.deliver issuer call])
      running
    rw [Delivery.lifetime_snoc, List.append_assoc, List.singleton_append] at grown
    rw [grown] at second
    simp only [Delivery.extend, if_true, List.append_assoc, List.singleton_append] at second
    exact first.code_ne second sameCode
  · intro data signs signs'
    obtain ⟨authCode, _, _, checked, -⟩ := first.outcome
    obtain ⟨authCode', _, _, checked', -⟩ := second.outcome
    exact ⟨verifiedAt_lt_of_signedData checked checked' signs signs',
      verifiedAt_lt_of_signedData checked' checked signs' signs⟩

/-- The sample code is redeemed at one replica, and again at the other. -/
theorem redeemed_again_sample :
    ∃ req readings response,
      RedeemedAt Reference.platform Reference.state [.deliver false Reference.mint] false
        Reference.firstRedemption req readings response ∧
      RedeemedAt Reference.platform Reference.state
        ([.deliver false Reference.mint] ++ .deliver false Reference.firstRedemption ::
          [.deliver true Reference.mint]) true Reference.firstRedemption req readings response ∧
      (false ≠ true ∨ .restart true ∈ [Delivery.deliver true Reference.mint]) := by
  obtain ⟨response, redeemed⟩ := Reference.firstRedemption_redeemed
  have first : RedeemedAt Reference.platform Reference.state [.deliver false Reference.mint] false
      Reference.firstRedemption _ _ response := redeemedAt_iff.mpr redeemed
  have second : RedeemedAt Reference.platform Reference.state
      ([.deliver false Reference.mint] ++ .deliver false Reference.firstRedemption ::
        [.deliver true Reference.mint]) true Reference.firstRedemption _ _ response :=
    redeemedAt_iff.mpr redeemed
  exact ⟨_, _, response, first, second, (redeemed_again first second).1 rfl⟩

/-- A code is good wherever it was minted, as long as it has not been presented
to this replica in its current lifetime. -/
theorem redeemedAt_of_minted (platform : Platform) (state : AppState)
    (history : List (Delivery Id Call)) (id : Id)
    {authReq : AuthorizationRequest} {stamps : MintReadings}
    {minted : AuthorizationCode × String} {tokens : String × String} {expiresAt : SystemTime}
    (made : state.flow.authorizationRequest platform authReq stamps = .ok minted)
    (requested : call.redeems? platform = some (req, readings)) (isCode : req.code = minted.2)
    (stamped : stamps.stampedAt.nanos ≤ readings.verifiedAt.nanos)
    (fresh : readings.verifiedAt.nanos < stamps.stampedAt.nanos + state.flow.codeMaxAge.nanos)
    (matched : (authReq.toCode stamps.createdAt).validateTokenRequest platform req.clientId
      req.redirectUri req.codeVerifier = .ok ())
    (registered : state.clients.validateRedirectUri req.clientId req.redirectUri = true)
    (authenticated : state.clients.validateClientSecret req.clientId req.clientSecret = .allow)
    (signed : signTokens platform state.tokenContext req.clientId
      (authReq.toCode stamps.createdAt) readings = .ok tokens)
    (bounded : readings.recordedAt.checkedAdd state.accessTokenTtl = some expiresAt) :
    (∃ response, RedeemedAt platform state history id call req readings response) ↔
      ∀ earlier ∈ Delivery.lifetime id history, ∀ req', earlier.Accepted platform state req' →
        codeReplayKey platform req'.code ≠ codeReplayKey platform req.code := by
  simp only [redeemedAt_iff]
  rw [redeemed_iff]
  have verified := decodeAndVerify_of_minted made stamped fresh
  rw [← isCode] at verified
  have checked := checkTokenRequest_eq_ok_iff.mpr ⟨verified, matched, registered, authenticated⟩
  constructor
  · intro redeemed
    obtain ⟨-, _, _, _, -, unused, -⟩ := redeemed
    exact unused
  · intro unused
    exact ⟨requested, _, tokens, expiresAt, checked, unused, signed, bounded⟩

/-- The sample code is good at a replica that never heard of it. -/
theorem redeemedAt_of_minted_sample :
    ∃ req readings response, RedeemedAt Reference.platform Reference.state
      [.deliver false Reference.mint, .restart true] true Reference.firstRedemption req readings
      response := by
  obtain ⟨_, redeemed⟩ := Reference.firstRedemption_redeemed
  obtain ⟨authCode, tokens, expiresAt, checked, -, signed, bounded, -⟩ := redeemed.outcome
  cases checked.symm.trans (Reference.checkTokenRequest_rivals false)
  obtain ⟨-, matched, registered, authenticated⟩ :=
    checkTokenRequest_eq_ok_iff.mp (Reference.checkTokenRequest_rivals false)
  have requested : Reference.firstRedemption.redeems? Reference.platform = some (_, _) := rfl
  have again := (redeemedAt_of_minted Reference.platform Reference.state
    [.deliver false Reference.mint, .restart true] true
    (Reference.authorizationRequest_sample Reference.challengedRequest 1700000000) requested rfl
    (by decide) (by decide) matched registered authenticated signed bounded).mpr
      (by simp [Delivery.lifetime, Delivery.extend])
  exact ⟨_, _, again⟩

/-! ## Where a token is good -/

/-- Who signed an access token drew its `jti`. -/
theorem Call.Signs.jti?_eq {token : String} {claims : AccessTokenClaims}
    (signs : call.Signs platform state token)
    (read : state.jwtIssuer.accessTokenClaims token = some claims) :
    call.jti? platform = some claims.jti := by
  obtain ⟨req, readings, authCode, requested, -, issued | issued⟩ := signs
  · rw [JwtIssuer.accessTokenClaims_of_issueIdToken issued] at read
    cases read
  · obtain ⟨exp, -, read'⟩ := JwtIssuer.accessTokenClaims_of_issueAccessToken issued
    cases read.symm.trans read'
    exact jti?_of_redeems requested

/-- Calls that drew one `jti` are one call. -/
theorem FreshJtis.eq_of_jti? {sent : List Call} (fresh : FreshJtis platform sent)
    {first second : Call} (inSent : first ∈ sent) (inSent' : second ∈ sent) {jti : String}
    (drew : first.jti? platform = some jti) (drew' : second.jti? platform = some jti) :
    first = second := by
  obtain ⟨before, after, split⟩ := List.append_of_mem inSent
  obtain ⟨before', after', split'⟩ := List.append_of_mem inSent'
  rw [FreshJtis, split] at fresh
  exact (position_unique fresh (split.symm.trans split') drew drew').2.1

/-- What `/userinfo` answers where `past` was received, out of all that was
`sent` to anybody. -/
theorem userinfoHandler_eq_ok_iff_received {past sent : List Call} (headers : HeaderMap)
    (clock : SystemTime) (fresh : FreshJtis platform sent) (received : past.Sublist sent)
    (signed : ∀ token claims, bearerToken headers = .ok token →
      state.jwtIssuer.keys.verify token = some claims →
      ∃ call ∈ sent, call.Signs platform state token) (info : UserInfo) :
    userinfoHandler state headers clock (storeAfter platform state past) = .ok info ↔
      ∃ token claims, bearerToken headers = .ok token ∧
        state.jwtIssuer.accessTokenClaims token = some claims ∧
        Since (Issues platform state token claims.jti) (· = Call.revoke claims.jti) past ∧
        clock.epochSecs ≤ claims.exp + 5 ∧ claims.userInfo = info := by
  have pastFresh : FreshJtis platform past := fresh.sublist (received.filterMap _)
  rw [userinfoHandler_eq_ok_iff]
  constructor
  · intro answered
    obtain ⟨token, claims, record, presented, verified, recorded, rfl⟩ := answered
    obtain ⟨read, -, -, unexpired⟩ := JwtIssuer.verifyAccessToken_eq_some_iff.mp verified
    obtain ⟨before, cause, after, rfl, records, kept⟩ :=
      (records_eq_some_iff pastFresh claims.jti record).mp recorded
    obtain ⟨json, genuine, -⟩ := Option.bind_eq_some_iff.mp read
    obtain ⟨signer, inSent, signs⟩ := signed token json presented genuine
    -- whoever signed the token drew the `jti` that is recorded here
    have inPast : cause ∈ before ++ cause :: after := by simp
    have isSigner := fresh.eq_of_jti? (received.subset inPast) inSent records.jti?
      (signs.jti?_eq read)
    have issues := records.issues pastFresh inPast (isSigner ▸ signs) read
    obtain ⟨record', records', same, -, -⟩ := issues.exists_record read
    cases records.unique records'
    exact ⟨token, claims, presented, read, ⟨before, cause, after, rfl, issues, kept⟩, unexpired,
      same.symm⟩
  · intro issued
    obtain ⟨token, claims, presented, read, ⟨before, cause, after, rfl, issues, kept⟩, unexpired,
      rfl⟩ := issued
    obtain ⟨record, records, same, iss, aud⟩ := issues.exists_record read
    have recorded := (records_eq_some_iff pastFresh claims.jti record).mpr
      ⟨before, cause, after, rfl, records, kept⟩
    exact ⟨token, claims, record, presented,
      JwtIssuer.verifyAccessToken_eq_some_iff.mpr ⟨read, iss, aud, unexpired⟩, recorded, same⟩

/-- A replica answers at `/userinfo` exactly for the tokens that it has issued
and not revoked since it was last restarted, and for no other replica's. -/
theorem userinfo_in_lifetime (platform : Platform) (state : AppState)
    (history : List (Delivery Id Call)) (id : Id) (headers : HeaderMap) (clock : SystemTime)
    (fresh : FreshJtis platform (Delivery.inputs history))
    (unforgeable : ∀ token claims, bearerToken headers = .ok token →
      state.jwtIssuer.keys.verify token = some claims →
      ∃ call ∈ Delivery.inputs history, call.Signs platform state token) :
    (∀ info, (replicas platform state).answer (storesAfter platform state history)
        (.deliver id (.userinfo headers clock)) = some (.userinfo (.ok info)) ↔
      ∃ token claims, bearerToken headers = .ok token ∧
        state.jwtIssuer.accessTokenClaims token = some claims ∧
        Since (Issues platform state token claims.jti) (· = Call.revoke claims.jti)
          (Delivery.lifetime id history) ∧
        clock.epochSecs ≤ claims.exp + 5 ∧ claims.userInfo = info) ∧
      ∀ before issuer call between req readings response,
        history = before ++ .deliver issuer call :: between →
        RedeemedAt platform state before issuer call req readings response →
        bearerToken headers = .ok response.accessToken →
        issuer ≠ id ∨ .restart id ∈ between → ∀ info,
        (replicas platform state).answer (storesAfter platform state history)
          (.deliver id (.userinfo headers clock)) ≠ some (.userinfo (.ok info)) := by
  have answers (info : UserInfo) :
      (replicas platform state).answer (storesAfter platform state history)
          (.deliver id (.userinfo headers clock)) = some (.userinfo (.ok info)) ↔
        userinfoHandler state headers clock
          (storeAfter platform state (Delivery.lifetime id history)) = .ok info := by
    rw [replicas_answer, Option.some.injEq]
    exact Reply.userinfo.injEq _ _ ▸ Iff.rfl
  have accepted (info : UserInfo) := (answers info).trans
    (userinfoHandler_eq_ok_iff_received headers clock fresh
      (Delivery.lifetime_sublist id history) unforgeable info)
  refine ⟨accepted, ?_⟩
  rintro before issuer call between req readings response rfl redeemed presented elsewhere info
    answered
  obtain ⟨token, claims, presented', read, ⟨start, cause, later, split, issues, -⟩, -, -⟩ :=
    (accepted info).mp answered
  cases presented.symm.trans presented'
  rw [redeemedAt_iff] at redeemed
  obtain ⟨claims', _, read', -, -, -, drawn, -, -⟩ := redeemed.accessTokenClaims
  cases read.symm.trans read'
  obtain ⟨_, _, _, redeemed', -, drawn'⟩ := issues
  have drew : cause.jti? platform = some claims.jti := by
    rw [redeemed'.jti?, drawn']
  -- the lifetime leaves out the only call that drew this `jti`
  have received : cause ∈ Delivery.inputs before ++ Delivery.inputs between := by
    apply (Delivery.lifetime_sublist_of_elsewhere elsewhere).subset
    rw [split]
    simp
  rw [FreshJtis, Delivery.inputs_append, Delivery.inputs_deliver] at fresh
  have drawnTwice : claims.jti ∈
      (Delivery.inputs before ++ Delivery.inputs between).filterMap (Call.jti? platform) :=
    List.mem_filterMap.mpr ⟨cause, received, drew⟩
  have perm : (Delivery.inputs before ++ call :: Delivery.inputs between).Perm
      (call :: (Delivery.inputs before ++ Delivery.inputs between)) := List.perm_middle
  have distinct := ((perm.filterMap (Call.jti? platform)).nodup_iff).mp fresh
  rw [List.filterMap_cons_some (redeemed.jti?.trans (congrArg some drawn.symm))] at distinct
  exact (List.nodup_cons.mp distinct).1 drawnTwice

/-- The sample token is no good at the replica next door. -/
theorem userinfo_in_lifetime_sample :
    ∃ headers, ∀ info, (replicas Reference.platform Reference.state).answer
      (storesAfter Reference.platform Reference.state
        [.deliver false (Reference.authorizeCall (some "verifier") "https://app.example/cb"),
          .deliver false (Reference.tokenCall (some "verifier") "https://app.example/cb")])
      (.deliver true (.userinfo headers (Reference.clock 1700000020))) ≠
        some (.userinfo (.ok info)) := by
  have registered : "https://app.example/cb" ∈ Reference.publicClient.redirectUris := by decide
  obtain ⟨response, redeemed⟩ := Reference.tokenCall_redeemed (some "verifier") registered
  have presented := bearerToken_withAuthorization Reference.noHeaders
    (Reference.graphic_accessToken redeemed)
  have fresh : FreshJtis Reference.platform (Delivery.inputs
      [Delivery.deliver false (Reference.authorizeCall (some "verifier") "https://app.example/cb"),
        .deliver false (Reference.tokenCall (some "verifier") "https://app.example/cb")]) :=
    List.nodup_singleton (randomJti (Reference.readings 1700000010 1).jtiBytes)
  refine ⟨_, (userinfo_in_lifetime Reference.platform Reference.state _ true _
    (Reference.clock 1700000020) fresh ?_).2 [.deliver false _] false _ [] _ _ response rfl
      (redeemedAt_iff.mpr redeemed) presented (Or.inl (by simp))⟩
  intro token json presented' _
  cases presented.symm.trans presented'
  exact ⟨_, by simp [Delivery.inputs], redeemed.signs⟩

end OpenidTlsConnector
