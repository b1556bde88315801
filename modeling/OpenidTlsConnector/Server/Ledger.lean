import OpenidTlsConnector.Foundations.Simulation
import OpenidTlsConnector.Server.Userinfo

/-!
# The server as a ledger

What the server is for, said with tables: a list of codes handed out, a list of
those spent, and the access tokens that are good.  The server keeps neither the
first nor, for what a token says, the last; it relies on a MAC and on
signatures.  As long as nothing is forged, drawn twice or respelled on the way,
nobody can tell the difference.
-/

namespace OpenidTlsConnector

open Foundations OIDCAuthCodePKCEFlow

/-! ## The tables -/

/-- A code that was handed out, with what was decided then. -/
structure Grant where
  text : String
  authCode : AuthorizationCode
  stampedAt : SystemTime

/-- An access token that is good, with what it stands for. -/
structure Session where
  token : String
  exp : Nat
  record : TokenRecord

structure Ledger where
  grants : List Grant
  spent : List String
  sessions : List Session

/-- What a caller learns, leaving aside why it was refused. -/
inductive Verdict where
  | location (url : String)
  | code (authCode : AuthorizationCode) (text : String)
  | tokens (response : TokenResponse)
  | identity (info : UserInfo)
  | revoked (removed : Bool)
  | record (found : Option TokenRecord)
  | refused
  | aborted

universe u

def Verdict.ofOutcome {Value : Type u} (answer : Value → Verdict) :
    Outcome OIDCError Value → Verdict
  | .ok value => answer value
  | .error _ => .refused
  | .panic => .aborted

def Reply.verdict : Reply → Verdict
  | .location outcome => .ofOutcome .location outcome
  | .code outcome => .ofOutcome (fun minted => .code minted.1 minted.2) outcome
  | .tokens outcome => .ofOutcome .tokens outcome
  | .userinfo result => (result.toOption.map .identity).getD .refused
  | .revoked removed => .revoked removed
  | .record found => .record found

/-- The grant is fresh, and the request comes from whom it was made for. -/
def Grant.Admits (platform : Platform) (state : AppState) (grant : Grant)
    (req : AccessTokenRequest) (now : SystemTime) : Prop :=
  grant.stampedAt.nanos ≤ now.nanos ∧
    now.nanos < grant.stampedAt.nanos + state.flow.codeMaxAge.nanos ∧
    grant.authCode.validateTokenRequest platform req.clientId req.redirectUri req.codeVerifier =
      .ok () ∧
    state.clients.validateRedirectUri req.clientId req.redirectUri = true ∧
    state.clients.validateClientSecret req.clientId req.clientSecret = .allow

instance (platform : Platform) (state : AppState) (grant : Grant) (req : AccessTokenRequest)
    (now : SystemTime) : Decidable (grant.Admits platform state req now) :=
  inferInstanceAs (Decidable (_ ∧ _))

namespace Ledger

def empty : Ledger := { grants := [], spent := [], sessions := [] }

/-- Hand out a code, and remember what for. -/
def grant (platform : Platform) (state : AppState) (req : AuthorizationRequest)
    (stamps : MintReadings) (ledger : Ledger) :
    Outcome OIDCError (AuthorizationCode × String) × Ledger :=
  match state.flow.authorizationRequest platform req stamps with
  | .ok minted =>
      (.ok minted, { ledger with
        grants := { text := minted.2, authCode := minted.1, stampedAt := stamps.stampedAt } ::
          ledger.grants })
  | .error error => (.error error, ledger)
  | .panic => (.panic, ledger)

/-- The second the access token expires in. -/
def expiry (state : AppState) (readings : Readings) : Nat :=
  (readings.accessTokenAt.epochSecs + state.accessTokenTtl.asSecs) % 2 ^ 64

/-- Give out tokens and open their session. -/
def issue (platform : Platform) (state : AppState) (req : AccessTokenRequest)
    (readings : Readings) (authCode : AuthorizationCode) (ledger : Ledger) : Verdict × Ledger :=
  match signTokens platform state.tokenContext req.clientId authCode readings with
  | .panic => (.aborted, ledger)
  | .error _ => (.refused, ledger)
  | .ok tokens =>
      match readings.recordedAt.checkedAdd state.accessTokenTtl with
      | none => (.aborted, ledger)
      | some expiresAt =>
          (.tokens (tokenResponse state.tokenContext authCode tokens),
            { ledger with
              sessions := {
                token := tokens.2
                exp := expiry state readings
                record := tokenRecord req.clientId authCode readings expiresAt } ::
                  ledger.sessions })

/-- Spend a code for tokens. -/
def redeem (platform : Platform) (state : AppState) (req : AccessTokenRequest)
    (readings : Readings) (ledger : Ledger) : Verdict × Ledger :=
  match ledger.grants.find? fun grant => grant.text = req.code with
  | none => (.refused, ledger)
  | some grant =>
      if grant.Admits platform state req readings.verifiedAt ∧ req.code ∉ ledger.spent then
        { ledger with spent := req.code :: ledger.spent }.issue platform state req readings
          grant.authCode
      else (.refused, ledger)

section Redeem

variable {platform : Platform} {state : AppState} {req : AccessTokenRequest} {readings : Readings}
  {ledger : Ledger}

@[simp]
theorem issue_grants (authCode : AuthorizationCode) :
    (ledger.issue platform state req readings authCode).2.grants = ledger.grants := by
  unfold issue
  split
  · rfl
  · rfl
  · split <;> rfl

@[simp]
theorem issue_spent (authCode : AuthorizationCode) :
    (ledger.issue platform state req readings authCode).2.spent = ledger.spent := by
  unfold issue
  split
  · rfl
  · rfl
  · split <;> rfl

theorem redeem_of_refused
    (refused : ∀ grant, (ledger.grants.find? fun grant => grant.text = req.code) = some grant →
      grant.Admits platform state req readings.verifiedAt → req.code ∈ ledger.spent) :
    ledger.redeem platform state req readings = (.refused, ledger) := by
  unfold redeem
  cases found : ledger.grants.find? fun grant => grant.text = req.code with
  | none => rfl
  | some grant =>
      apply if_neg
      intro admitted
      exact admitted.2 (refused grant found admitted.1)

theorem redeem_of_admitted {grant : Grant}
    (found : (ledger.grants.find? fun grant => grant.text = req.code) = some grant)
    (admits : grant.Admits platform state req readings.verifiedAt)
    (unspent : req.code ∉ ledger.spent) :
    ledger.redeem platform state req readings =
      { ledger with spent := req.code :: ledger.spent }.issue platform state req readings
        grant.authCode := by
  unfold redeem
  rw [found]
  exact if_pos ⟨admits, unspent⟩

@[simp]
theorem redeem_grants : (ledger.redeem platform state req readings).2.grants = ledger.grants := by
  unfold redeem
  split
  · rfl
  · split
    · rw [issue_grants]
    · rfl

end Redeem

/-- Who stands behind a token. -/
def identify (token : String) (clock : SystemTime) (ledger : Ledger) : Option UserInfo :=
  (ledger.sessions.find? fun session => session.token = token ∧
    clock.epochSecs ≤ session.exp + 5).map fun session => session.record.userInfo

def lookup (jti : String) (ledger : Ledger) : Option TokenRecord :=
  (ledger.sessions.find? fun session => session.record.jti = jti).map (·.record)

def revoke (jti : String) (ledger : Ledger) : Bool × Ledger :=
  ((ledger.lookup jti).isSome,
    { ledger with sessions := ledger.sessions.filter fun session => session.record.jti ≠ jti })

def machine (platform : Platform) (state : AppState) : Machine Ledger Call Verdict where
  step ledger call := match call with
    | .authorize headers params stamps =>
        match checkAuthorize platform state headers params with
        | .ok req =>
            (ledger.grant platform state req stamps).map (fun outcome => .ofOutcome .location
              (outcome >>= fun minted =>
                Outcome.ofExcept (redirectLocation platform params minted.2))) id
        | .error _ => (.refused, ledger)
        | .panic => (.aborted, ledger)
    | .authorizationRequest req stamps =>
        (ledger.grant platform state req stamps).map
          (.ofOutcome fun minted => .code minted.1 minted.2) id
    | .token headers params readings =>
        match tokenRequest platform headers params with
        | .ok req => ledger.redeem platform state req readings
        | .error _ => (.refused, ledger)
    | .accessTokenRequest req readings => ledger.redeem platform state req readings
    | .userinfo headers clock =>
        match bearerToken headers with
        | .ok token => (((ledger.identify token clock).map .identity).getD .refused, ledger)
        | .error _ => (.refused, ledger)
    | .revoke jti => (ledger.revoke jti).map .revoked id
    | .lookup jti => (.record (ledger.lookup jti), ledger)

end Ledger

/-! ## Runs in which nobody cheats -/

/-- Nothing is forged, no `jti` is drawn twice, and codes are presented as they
were handed out, under keys of their own. -/
structure IdealRun (platform : Platform) (state : AppState) (run : List Call) : Prop where
  unforged : MacUnforgeable platform state run
  genuine : SignaturesUnforgeable platform state run
  fresh : FreshJtis platform run
  asHandedOut : ∀ call ∈ run, ∀ req readings signed, call.redeems? platform = some (req, readings) →
    SignedAuthorizationCode.decode platform req.code = .ok signed →
    signed.Authentic platform state.flow.hmacKey → req.code = signed.encode platform
  apart : ∀ call ∈ run, ∀ call' ∈ run, ∀ req readings req' readings',
    call.redeems? platform = some (req, readings) →
    call'.redeems? platform = some (req', readings') →
    codeReplayKey platform req.code = codeReplayKey platform req'.code → req.code = req'.code

variable {platform : Platform} {state : AppState} {past : List Call} {call : Call}
  {ledger : Ledger} {req : AccessTokenRequest} {readings : Readings}

theorem IdealRun.of_append {later : List Call} (ideal : IdealRun platform state (past ++ later)) :
    IdealRun platform state past := by
  obtain ⟨unforged, genuine, fresh, asHandedOut, apart⟩ := ideal
  constructor
  · intro before call after split
    exact unforged before call (after ++ later) (by rw [split]; simp)
  · intro before headers clock after token claims split
    exact genuine before headers clock (after ++ later) token claims (by rw [split]; simp)
  · exact fresh.of_append
  · intro call membership
    exact asHandedOut call (List.mem_append_left _ membership)
  · intro call membership call' membership'
    exact apart call (List.mem_append_left _ membership) call' (List.mem_append_left _ membership')

/-! ## What the tables hold -/

/-- The call handed out the code of `grant`. -/
def Call.Grants (platform : Platform) (state : AppState) (grant : Grant) (call : Call) : Prop :=
  ∃ req stamps, call.Mints platform state req stamps ∧
    state.flow.authorizationRequest platform req stamps = .ok (grant.authCode, grant.text) ∧
    stamps.stampedAt = grant.stampedAt

/-- The redemption opened `session`. -/
def Opens (platform : Platform) (state : AppState) (session : Session) (past : List Call)
    (call : Call) : Prop :=
  ∃ req readings response, Redeemed platform state past call req readings response ∧
    response.accessToken = session.token ∧ session.exp = Ledger.expiry state readings ∧
    Records platform state session.record.jti session.record past call

/-- The ledger is what the run has made of it. -/
structure Ledger.Reflects (platform : Platform) (state : AppState) (past : List Call)
    (ledger : Ledger) : Prop where
  grants : ∀ grant, grant ∈ ledger.grants ↔ ∃ earlier ∈ past, earlier.Grants platform state grant
  spent : ∀ key, key ∈ (storeAfter platform state past).consumedCodes ↔
    ∃ text ∈ ledger.spent, codeReplayKey platform text = key
  presented : ∀ text ∈ ledger.spent, ∃ earlier ∈ past, ∃ req readings,
    earlier.redeems? platform = some (req, readings) ∧ req.code = text
  sessions : ∀ session, session ∈ ledger.sessions ↔
    Since (Opens platform state session) (· = Call.revoke session.record.jti) past

/-- A search finds what there is to be found, when that is determined. -/
theorem map_find?_eq {Entry Value : Type*} {entries : List Entry} {wanted : Entry → Bool}
    {value : Entry → Value} {expected : Option Value}
    (sound : ∀ entry ∈ entries, wanted entry = true → expected = some (value entry))
    (complete : ∀ found, expected = some found → ∃ entry ∈ entries, wanted entry = true) :
    (entries.find? wanted).map value = expected := by
  cases search : entries.find? wanted with
  | some entry =>
      rw [sound entry (List.mem_of_find?_eq_some search) (List.find?_some search)]
      rfl
  | none =>
      cases known : expected with
      | none => rfl
      | some found =>
          obtain ⟨entry, membership, isWanted⟩ := complete found known
          exact absurd isWanted (List.find?_eq_none.mp search entry membership)

/-! ### Grants -/

/-- A code that was handed out reads back as what it was made for. -/
theorem Call.Grants.read {grant : Grant} (grants : call.Grants platform state grant) :
    ∃ signed, SignedAuthorizationCode.decode platform grant.text = .ok signed ∧
      signed.Authentic platform state.flow.hmacKey ∧
      TimestampedContainer.deserialize platform signed.data =
        some { content := grant.authCode, timestamp := grant.stampedAt } := by
  obtain ⟨authReq, stamps, -, made, stamped⟩ := grants
  obtain ⟨encoded, expected, pair⟩ := Outcome.bind_eq_ok_iff.mp made
  obtain ⟨data, serialized, rfl⟩ :=
    Option.map_eq_some_iff.mp (Outcome.expect_eq_ok_iff.mp expected)
  simp only [Outcome.pure_eq, Outcome.ok.injEq, Prod.mk.injEq] at pair
  obtain ⟨sameCode, sameText⟩ := pair
  refine ⟨{ data := data, signature := platform.keyedHash state.flow.hmacKey data }, ?_, rfl, ?_⟩
  · rw [← sameText, SignedAuthorizationCode.decode_encode]
  · rw [TimestampedContainer.deserialize_of_serialize serialized, ← sameCode, ← stamped]
    rfl

/-- A code that is accepted was handed out. -/
theorem IdealRun.exists_grants (ideal : IdealRun platform state (past ++ [call]))
    (requested : call.redeems? platform = some (req, readings)) {signed : SignedAuthorizationCode}
    (decoded : SignedAuthorizationCode.decode platform req.code = .ok signed)
    (authentic : signed.Authentic platform state.flow.hmacKey) :
    ∃ grant, (∃ earlier ∈ past, earlier.Grants platform state grant) ∧ grant.text = req.code := by
  obtain ⟨earlier, inPast, authReq, stamps, mints, tagged⟩ :=
    ideal.unforged past call [] rfl req readings signed requested decoded authentic
  have spelled := ideal.asHandedOut call (by simp) req readings signed requested decoded authentic
  obtain ⟨data, signature⟩ := signed
  have tag : platform.keyedHash state.flow.hmacKey data = signature := authentic
  subst tag
  refine ⟨{
    text := req.code
    authCode := authReq.toCode stamps.createdAt
    stampedAt := stamps.stampedAt }, ⟨earlier, inPast, authReq, stamps, mints, ?_, rfl⟩, rfl⟩
  rw [spelled, authorizationRequest, SignedAuthorizationCode.signAndEncode, tagged]
  rfl

/-- In an ideal run a code passes the check exactly when it is in the table and
the grant admits the request. -/
theorem Ledger.Reflects.check_eq_ok_iff
    (reflects : ledger.Reflects platform state past)
    (ideal : IdealRun platform state (past ++ [call]))
    (requested : call.redeems? platform = some (req, readings)) (authCode : AuthorizationCode) :
    state.flow.checkTokenRequest platform state.clients req readings.verifiedAt = .ok authCode ↔
      ∃ grant, (ledger.grants.find? fun grant => grant.text = req.code) = some grant ∧
        grant.Admits platform state req readings.verifiedAt ∧ grant.authCode = authCode := by
  rw [checkTokenRequest_eq_ok_iff, SignedAuthorizationCode.decodeAndVerify_eq_ok_iff]
  constructor
  · intro accepted
    obtain ⟨⟨signed, container, decoded, authentic, read, rfl, stamped, fresh⟩, matched,
      registered, authenticated⟩ := accepted
    obtain ⟨handedOut, granted, sameText⟩ := ideal.exists_grants requested decoded authentic
    obtain ⟨grant, found⟩ : ∃ grant, (ledger.grants.find? fun grant => grant.text = req.code) =
        some grant := by
      rw [← Option.isSome_iff_exists, List.find?_isSome]
      exact ⟨handedOut, (reflects.grants handedOut).mpr granted, by simp [sameText]⟩
    obtain ⟨earlier, -, grants⟩ := (reflects.grants grant).mp (List.mem_of_find?_eq_some found)
    obtain ⟨signed', decoded', -, read'⟩ := grants.read
    have isText : grant.text = req.code := by simpa using List.find?_some found
    -- the same text decodes to the same container
    rw [isText] at decoded'
    cases decoded.symm.trans decoded'
    cases read.symm.trans read'
    exact ⟨grant, found, ⟨stamped, fresh, matched, registered, authenticated⟩, rfl⟩
  · intro admitted
    obtain ⟨grant, found, ⟨stamped, fresh, matched, registered, authenticated⟩, rfl⟩ := admitted
    obtain ⟨earlier, -, grants⟩ := (reflects.grants grant).mp (List.mem_of_find?_eq_some found)
    obtain ⟨signed, decoded, authentic, read⟩ := grants.read
    have isText : grant.text = req.code := by simpa using List.find?_some found
    rw [isText] at decoded
    exact ⟨⟨signed, _, decoded, authentic, read, rfl, stamped, fresh⟩, matched, registered,
      authenticated⟩

/-! ### Spent codes -/

/-- Keys of their own make the map of consumed keys a list of spent codes. -/
theorem Ledger.Reflects.mem_consumedCodes_iff (reflects : ledger.Reflects platform state past)
    (ideal : IdealRun platform state (past ++ [call]))
    (requested : call.redeems? platform = some (req, readings)) :
    codeReplayKey platform req.code ∈ (storeAfter platform state past).consumedCodes ↔
      req.code ∈ ledger.spent := by
  rw [reflects.spent]
  constructor
  · intro membership
    obtain ⟨text, spent, sameKey⟩ := membership
    obtain ⟨earlier, inPast, req', readings', requested', rfl⟩ := reflects.presented text spent
    rw [← ideal.apart earlier (by simp [inPast]) call (by simp) req' readings' req readings
      requested' requested sameKey]
    exact spent
  · intro spent
    exact ⟨req.code, spent, rfl⟩

/-! ### Sessions -/

variable {jti : String} {record : TokenRecord}

/-- The records of the store are those of the sessions. -/
theorem Ledger.Reflects.records_eq_some_iff (reflects : ledger.Reflects platform state past)
    (fresh : FreshJtis platform past) :
    (storeAfter platform state past).records jti = some record ↔
      ∃ session ∈ ledger.sessions, session.record.jti = jti ∧ session.record = record := by
  rw [OpenidTlsConnector.records_eq_some_iff fresh]
  constructor
  · intro recorded
    obtain ⟨before, cause, after, split, records, kept⟩ := recorded
    obtain ⟨req, readings, response, authCode, expiresAt, redeemed, checked, bounded, drawn,
      isRecord⟩ := id records
    have isJti : record.jti = jti := by rw [isRecord]
    refine ⟨{
      token := response.accessToken
      exp := Ledger.expiry state readings
      record := record }, (reflects.sessions _).mpr ?_, isJti, rfl⟩
    exact ⟨before, cause, after, split, ⟨req, readings, response, redeemed, rfl, rfl,
      isJti.symm ▸ records⟩, fun later membership => isJti.symm ▸ kept later membership⟩
  · intro recorded
    obtain ⟨session, membership, rfl, rfl⟩ := recorded
    obtain ⟨before, cause, after, split, ⟨_, _, _, _, _, _, records⟩, kept⟩ :=
      (reflects.sessions session).mp membership
    exact ⟨before, cause, after, split, records, kept⟩

theorem Ledger.Reflects.lookup_eq (reflects : ledger.Reflects platform state past)
    (fresh : FreshJtis platform past) (jti : String) :
    ledger.lookup jti = (storeAfter platform state past).lookup jti := by
  apply map_find?_eq
  · intro session membership isJti
    exact (reflects.records_eq_some_iff fresh).mpr
      ⟨session, membership, of_decide_eq_true isJti, rfl⟩
  · intro record recorded
    obtain ⟨session, membership, isJti, -⟩ := (reflects.records_eq_some_iff fresh).mp recorded
    exact ⟨session, membership, decide_eq_true isJti⟩

theorem Ledger.expiry_eq {exp : Nat}
    (added : (addU64 platform.overflowChecks readings.accessTokenAt.epochSecs
      state.accessTokenTtl.asSecs : Outcome JwtError Nat) = .ok exp) :
    Ledger.expiry state readings = exp := by
  unfold addU64 at added
  split_ifs at added with fits checks
  · cases added
    exact Nat.mod_eq_of_lt fits
  · cases added
    rfl

/-- What a redemption opens is told by its access token. -/
theorem Opens.claims {session : Session} (opens : Opens platform state session past call)
    {claims : AccessTokenClaims}
    (read : state.jwtIssuer.accessTokenClaims session.token = some claims) :
    Issues platform state session.token claims.jti past call ∧ session.exp = claims.exp ∧
      session.record.jti = claims.jti ∧ session.record.userInfo = claims.userInfo := by
  obtain ⟨req, readings, response, redeemed, sameToken, expires, records⟩ := opens
  obtain ⟨claims', record, read', -, -, added, drawn, records', same⟩ := redeemed.accessTokenClaims
  rw [sameToken] at read'
  cases read.symm.trans read'
  have sameJti : session.record.jti = randomJti readings.jtiBytes :=
    Option.some.inj (records.jti?.symm.trans redeemed.jti?)
  rw [sameJti] at records
  cases records.unique records'
  exact ⟨⟨req, readings, response, redeemed, sameToken, drawn.symm⟩,
    expires.trans (Ledger.expiry_eq added), sameJti.trans drawn.symm, same⟩

theorem Issues.exists_opens {token : String} (issues : Issues platform state token jti past call) :
    ∃ session, session.token = token ∧ Opens platform state session past call := by
  obtain ⟨req, readings, response, redeemed, sameToken, -⟩ := issues
  obtain ⟨claims, record, -, -, -, -, -, records, -⟩ := redeemed.accessTokenClaims
  have isJti : record.jti = randomJti readings.jtiBytes := by
    obtain ⟨_, _, _, _, _, _, _, _, -, rfl⟩ := records
    rfl
  exact ⟨{
    token := response.accessToken
    exp := Ledger.expiry state readings
    record := record }, sameToken, req, readings, response, redeemed, rfl, rfl,
      isJti.symm ▸ records⟩

/-- One redemption opens one session. -/
theorem Opens.unique {session session' : Session}
    (opens : Opens platform state session past call)
    (opens' : Opens platform state session' past call) : session = session' := by
  obtain ⟨req, readings, response, redeemed, sameToken, expires, records⟩ := opens
  obtain ⟨req', readings', response', redeemed', sameToken', expires', records'⟩ := opens'
  cases redeemed.requested.symm.trans redeemed'.requested
  cases redeemed.answered.symm.trans redeemed'.answered
  have sameJti := Option.some.inj (records.jti?.symm.trans records'.jti?)
  rw [← sameJti] at records'
  obtain ⟨token, exp, record⟩ := session
  obtain ⟨token', exp', record'⟩ := session'
  cases records.unique records'
  cases sameToken.symm.trans sameToken'
  cases expires.trans expires'.symm
  rfl

/-- A token belongs to a good session exactly when it was issued and not
revoked since. -/
theorem Ledger.Reflects.exists_session_iff (reflects : ledger.Reflects platform state past)
    {token : String} {claims : AccessTokenClaims}
    (read : state.jwtIssuer.accessTokenClaims token = some claims) :
    Since (Issues platform state token claims.jti) (· = Call.revoke claims.jti) past ↔
      ∃ session ∈ ledger.sessions, session.token = token := by
  constructor
  · intro issued
    obtain ⟨before, cause, after, split, issues, kept⟩ := issued
    obtain ⟨session, rfl, opens⟩ := issues.exists_opens
    refine ⟨session, (reflects.sessions session).mpr ⟨before, cause, after, split, opens, ?_⟩, rfl⟩
    rw [(opens.claims read).2.2.1]
    exact kept
  · intro good
    obtain ⟨session, membership, rfl⟩ := good
    obtain ⟨before, cause, after, split, opens, kept⟩ := (reflects.sessions session).mp membership
    obtain ⟨issues, -, sameJti, -⟩ := opens.claims read
    exact ⟨before, cause, after, split, issues, sameJti ▸ kept⟩

/-- A good session's token is genuine and says what the session says. -/
theorem Ledger.Reflects.exists_claims (reflects : ledger.Reflects platform state past)
    {session : Session} (membership : session ∈ ledger.sessions) :
    ∃ claims, state.jwtIssuer.accessTokenClaims session.token = some claims ∧
      session.exp = claims.exp ∧ session.record.userInfo = claims.userInfo := by
  obtain ⟨before, cause, after, -, opens, -⟩ := (reflects.sessions session).mp membership
  obtain ⟨req, readings, response, redeemed, sameToken, -, -⟩ := id opens
  obtain ⟨claims, -, read, -, -, -, -, -, -⟩ := redeemed.accessTokenClaims
  rw [sameToken] at read
  obtain ⟨-, expires, -, same⟩ := opens.claims read
  exact ⟨claims, read, expires, same⟩

/-- `/userinfo` answers from the sessions. -/
theorem Ledger.Reflects.identify_eq (reflects : ledger.Reflects platform state past)
    (fresh : FreshJtis platform past) {headers : HeaderMap} (clock : SystemTime) {token : String}
    (presented : bearerToken headers = .ok token)
    (signed : ∀ claims, state.jwtIssuer.keys.verify token = some claims →
      ∃ earlier ∈ past, earlier.Signs platform state token) :
    ledger.identify token clock =
      (userinfoHandler state headers clock (storeAfter platform state past)).toOption := by
  have answers (info : UserInfo) :
      userinfoHandler state headers clock (storeAfter platform state past) = .ok info ↔
        ∃ session ∈ ledger.sessions, (session.token = token ∧
          clock.epochSecs ≤ session.exp + 5) ∧ session.record.userInfo = info := by
    rw [userinfoHandler_eq_ok_iff_issued headers clock fresh (by
      intro token' claims presented' genuine
      cases presented.symm.trans presented'
      exact signed claims genuine)]
    constructor
    · intro accepted
      obtain ⟨_, claims, presented', read, issued, unexpired, rfl⟩ := accepted
      cases presented.symm.trans presented'
      obtain ⟨session, membership, rfl⟩ := (reflects.exists_session_iff read).mp issued
      obtain ⟨claims', read', expires, same⟩ := reflects.exists_claims membership
      cases read.symm.trans read'
      exact ⟨session, membership, ⟨rfl, expires ▸ unexpired⟩, same⟩
    · intro good
      obtain ⟨session, membership, ⟨rfl, unexpired⟩, rfl⟩ := good
      obtain ⟨claims, read, expires, same⟩ := reflects.exists_claims membership
      exact ⟨_, claims, presented, read,
        (reflects.exists_session_iff read).mpr ⟨session, membership, rfl⟩, expires ▸ unexpired,
        same.symm⟩
  have toOption (info : UserInfo) :
      (userinfoHandler state headers clock (storeAfter platform state past)).toOption =
          some info ↔
        userinfoHandler state headers clock (storeAfter platform state past) = .ok info := by
    cases userinfoHandler state headers clock (storeAfter platform state past) <;>
      simp [Except.toOption]
  apply map_find?_eq
  · intro session membership isWanted
    exact (toOption _).mpr ((answers _).mpr
      ⟨session, membership, of_decide_eq_true isWanted, rfl⟩)
  · intro info answered
    obtain ⟨session, membership, isWanted, -⟩ := (answers info).mp ((toOption _).mp answered)
    exact ⟨session, membership, decide_eq_true isWanted⟩

/-! ## One step -/

theorem Ledger.mem_grants_of_grant {authReq : AuthorizationRequest} {stamps : MintReadings}
    (grant : Grant) :
    grant ∈ (ledger.grant platform state authReq stamps).2.grants ↔ grant ∈ ledger.grants ∨
      state.flow.authorizationRequest platform authReq stamps = .ok (grant.authCode, grant.text) ∧
        stamps.stampedAt = grant.stampedAt := by
  unfold Ledger.grant
  cases made : state.flow.authorizationRequest platform authReq stamps with
  | error | panic => simp
  | ok minted =>
      obtain ⟨authCode, text⟩ := minted
      obtain ⟨text', authCode', stampedAt⟩ := grant
      simp only [List.mem_cons, Grant.mk.injEq, Outcome.ok.injEq, Prod.mk.injEq]
      tauto

/-- A call adds the grant it hands out, and no call takes one away. -/
theorem Ledger.mem_grants_next_iff (grant : Grant) :
    grant ∈ ((Ledger.machine platform state).next ledger call).grants ↔
      grant ∈ ledger.grants ∨ call.Grants platform state grant := by
  cases call with
  | authorize headers params stamps =>
      cases accepted : checkAuthorize platform state headers params with
      | error | panic => simp [Machine.next, Ledger.machine, accepted, Call.Grants, Call.Mints]
      | ok authReq =>
          simp [Machine.next, Ledger.machine, accepted, Ledger.mem_grants_of_grant, Call.Grants,
            Call.Mints]
  | authorizationRequest authReq stamps =>
      simp [Machine.next, Ledger.machine, Ledger.mem_grants_of_grant, Call.Grants, Call.Mints]
  | token headers params stamps =>
      cases parsed : tokenRequest platform headers params <;>
        simp [Machine.next, Ledger.machine, parsed, Call.Grants, Call.Mints]
  | userinfo headers clock =>
      cases presented : bearerToken headers <;>
        simp [Machine.next, Ledger.machine, presented, Call.Grants, Call.Mints]
  | accessTokenRequest | revoke | lookup =>
      simp [Machine.next, Ledger.machine, Ledger.revoke, Call.Grants, Call.Mints]

/-- Nothing is opened but by a redemption. -/
theorem not_opens_of_unredeemed
    (unredeemed : ∀ req readings response,
      ¬ Redeemed platform state past call req readings response) (session : Session) :
    ¬ Opens platform state session past call := by
  intro opens
  obtain ⟨req, readings, response, redeemed, -⟩ := opens
  exact unredeemed req readings response redeemed

/-- What a call has to do to the tables that is not a revocation. -/
theorem Ledger.Reflects.snoc (reflects : ledger.Reflects platform state past) {ledger' : Ledger}
    (notRevoke : ∀ jti, call ≠ .revoke jti)
    (grants : ∀ grant, grant ∈ ledger'.grants ↔
      grant ∈ ledger.grants ∨ call.Grants platform state grant)
    (spent : ∀ key, key ∈ (storeAfter platform state (past ++ [call])).consumedCodes ↔
      ∃ text ∈ ledger'.spent, codeReplayKey platform text = key)
    (presented : ∀ text ∈ ledger'.spent, text ∈ ledger.spent ∨
      ∃ req readings, call.redeems? platform = some (req, readings) ∧ req.code = text)
    (sessions : ∀ session, session ∈ ledger'.sessions ↔
      session ∈ ledger.sessions ∨ Opens platform state session past call) :
    ledger'.Reflects platform state (past ++ [call]) := by
  constructor
  · intro grant
    rw [grants, reflects.grants]
    simp [or_and_right, exists_or]
  · exact spent
  · intro text membership
    rcases presented text membership with earlier | ⟨req, readings, requested, sameText⟩
    · obtain ⟨earlier, inPast, request⟩ := reflects.presented text earlier
      exact ⟨earlier, List.mem_append_left _ inPast, request⟩
    · exact ⟨call, by simp, req, readings, requested, sameText⟩
  · intro session
    rw [sessions, reflects.sessions, since_snoc]
    simp [notRevoke session.record.jti]

theorem not_grants_of_redeems (requested : call.redeems? platform = some (req, readings))
    (grant : Grant) : ¬ call.Grants platform state grant := by
  intro grants
  obtain ⟨_, _, mints, -⟩ := grants
  cases call with
  | token | accessTokenRequest => exact mints
  | authorize | authorizationRequest | userinfo | revoke | lookup => cases requested

/-- A request for tokens is one redemption of the ledger. -/
theorem Ledger.step_of_redeems (state : AppState) (ledger : Ledger)
    (requested : call.redeems? platform = some (req, readings)) :
    (Ledger.machine platform state).step ledger call =
      ledger.redeem platform state req readings := by
  cases call with
  | token headers params stamps =>
      simp only [Call.redeems?, Option.map_eq_some_iff, Prod.mk.injEq] at requested
      obtain ⟨made, isMade, rfl, rfl⟩ := requested
      cases parsed : tokenRequest platform headers params with
      | error failure => simp [parsed, Except.toOption] at isMade
      | ok inner =>
          simp only [parsed, Except.toOption, Option.some.injEq] at isMade
          subst isMade
          simp [Ledger.machine, parsed]
  | accessTokenRequest direct stamps =>
      cases requested
      rfl
  | authorize | authorizationRequest | userinfo | revoke | lookup => cases requested

/-- A redemption that comes to nothing leaves at most a spent code. -/
theorem Ledger.Reflects.fail (reflects : ledger.Reflects platform state past)
    (requested : call.redeems? platform = some (req, readings)) {spent : List String}
    (unredeemed : ∀ req readings response,
      ¬ Redeemed platform state past call req readings response)
    (consumed : ∀ key, key ∈ (storeAfter platform state (past ++ [call])).consumedCodes ↔
      ∃ text ∈ spent, codeReplayKey platform text = key)
    (presented : ∀ text ∈ spent, text ∈ ledger.spent ∨ text = req.code) :
    { ledger with spent := spent }.Reflects platform state (past ++ [call]) := by
  apply reflects.snoc
  · rintro jti rfl
    cases requested
  · simp [not_grants_of_redeems requested]
  · exact consumed
  · intro text membership
    exact (presented text membership).imp_right fun same => ⟨req, readings, requested, same.symm⟩
  · simp [not_opens_of_unredeemed unredeemed]

/-- A redemption that succeeds opens its session. -/
theorem Ledger.Reflects.succeed (reflects : ledger.Reflects platform state past)
    {response : TokenResponse} {token : String} {authCode : AuthorizationCode}
    {expiresAt : SystemTime} {spent : List String}
    (redeemed : Redeemed platform state past call req readings response)
    (checked : state.flow.checkTokenRequest platform state.clients req readings.verifiedAt =
      .ok authCode)
    (bounded : readings.recordedAt.checkedAdd state.accessTokenTtl = some expiresAt)
    (isToken : response.accessToken = token)
    (consumed : ∀ key, key ∈ (storeAfter platform state (past ++ [call])).consumedCodes ↔
      ∃ text ∈ spent, codeReplayKey platform text = key)
    (presented : ∀ text ∈ spent, text ∈ ledger.spent ∨ text = req.code) :
    { ledger with
      spent := spent
      sessions := {
        token := token
        exp := Ledger.expiry state readings
        record := tokenRecord req.clientId authCode readings expiresAt } ::
          ledger.sessions }.Reflects platform state (past ++ [call]) := by
  have opens : Opens platform state {
      token := token
      exp := Ledger.expiry state readings
      record := tokenRecord req.clientId authCode readings expiresAt } past call :=
    ⟨req, readings, response, redeemed, isToken, rfl, req, readings, response, authCode, expiresAt,
      redeemed, checked, bounded, rfl, rfl⟩
  apply reflects.snoc
  · rintro jti rfl
    cases redeemed.requested
  · simp [not_grants_of_redeems redeemed.requested]
  · exact consumed
  · intro text membership
    exact (presented text membership).imp_right fun same =>
      ⟨req, readings, redeemed.requested, same.symm⟩
  · intro session
    rw [List.mem_cons, or_comm]
    exact or_congr_right ⟨fun same => same ▸ opens, fun other => other.unique opens⟩

/-- A redemption does to the ledger what it does to the server. -/
theorem Ledger.Reflects.redemption (reflects : ledger.Reflects platform state past)
    (ideal : IdealRun platform state (past ++ [call]))
    (requested : call.redeems? platform = some (req, readings)) :
    ((server platform state).answer (storeAfter platform state past) call).verdict =
        (ledger.redeem platform state req readings).1 ∧
      (ledger.redeem platform state req readings).2.Reflects platform state (past ++ [call]) := by
  have check := reflects.check_eq_ok_iff ideal requested
  have used := reflects.mem_consumedCodes_iff ideal requested
  have left : storeAfter platform state (past ++ [call]) = (state.flow.accessTokenRequest platform
      state.tokenContext req readings (storeAfter platform state past)).2 := by
    rw [storeAfter_snoc, next_of_redeems requested]
  have unredeemed (failed : ∀ response, (state.flow.accessTokenRequest platform
      state.tokenContext req readings (storeAfter platform state past)).1 ≠ .ok response)
      (req' readings' response) :
      ¬ Redeemed platform state past call req' readings' response := by
    intro redeemed
    cases requested.symm.trans redeemed.requested
    exact failed response redeemed.answered
  rw [answer_of_redeems requested]
  cases verdict : state.flow.checkTokenRequest platform state.tokenContext.clients req
      readings.verifiedAt with
  | error error =>
      rw [accessTokenRequest_of_refused state.tokenContext verdict] at left unredeemed ⊢
      rw [Ledger.redeem_of_refused fun grant found admits => by
        cases verdict.symm.trans ((check _).mpr ⟨grant, found, admits, rfl⟩)]
      refine ⟨rfl, reflects.fail requested (unredeemed (by simp)) ?_ fun text => Or.inl⟩
      rw [left]
      exact reflects.spent
  | ok authCode =>
      obtain ⟨grant, found, admits, rfl⟩ := (check authCode).mp verdict
      by_cases unused : codeReplayKey platform req.code ∈
          (storeAfter platform state past).consumedCodes
      · rw [accessTokenRequest_of_used state.tokenContext verdict unused] at left unredeemed ⊢
        rw [Ledger.redeem_of_refused fun _ _ _ => used.mp unused]
        refine ⟨rfl, reflects.fail requested (unredeemed (by simp)) ?_ fun text => Or.inl⟩
        rw [left]
        exact reflects.spent
      · have accepted := accessTokenRequest_of_unused state.tokenContext verdict unused
        rw [Ledger.redeem_of_admitted found admits (mt used.mpr unused)]
        have consumed (key : String) :
            key ∈ (storeAfter platform state (past ++ [call])).consumedCodes ↔
              ∃ text ∈ req.code :: ledger.spent, codeReplayKey platform text = key := by
          rw [left, accepted, issueTokens_consumedCodes,
            InMemoryTokenStore.consumeCode_consumedCodes, Finset.mem_insert, reflects.spent]
          simp [eq_comm]
        have presented : ∀ text ∈ req.code :: ledger.spent, text ∈ ledger.spent ∨
            text = req.code := by
          intro text membership
          exact (List.mem_cons.mp membership).symm
        rw [accepted] at left unredeemed ⊢
        unfold issueTokens at left unredeemed ⊢
        unfold Ledger.issue
        cases signed : signTokens platform state.tokenContext req.clientId grant.authCode
            readings with
        | panic | error =>
            rw [signed] at unredeemed
            exact ⟨rfl, reflects.fail requested (unredeemed (by simp)) consumed presented⟩
        | ok tokens =>
            cases bounded : readings.recordedAt.checkedAdd state.accessTokenTtl with
            | none =>
                have unbounded : readings.recordedAt.checkedAdd state.tokenContext.accessTokenTtl =
                  none := bounded
                simp only [signed, unbounded] at unredeemed ⊢
                exact ⟨rfl, reflects.fail requested (unredeemed (by simp)) consumed presented⟩
            | some expiresAt =>
                have answered : (issueTokens platform state.tokenContext req.clientId grant.authCode
                    readings ((storeAfter platform state past).consumeCode
                      (codeReplayKey platform req.code)).2).1 =
                    .ok (tokenResponse state.tokenContext grant.authCode tokens) := by
                  simp [issueTokens, signed, show readings.recordedAt.checkedAdd
                    state.tokenContext.accessTokenTtl = some expiresAt from bounded]
                simp only [show readings.recordedAt.checkedAdd
                  state.tokenContext.accessTokenTtl = some expiresAt from bounded]
                exact ⟨rfl, reflects.succeed ⟨requested, accepted ▸ answered⟩ verdict bounded rfl
                  consumed presented⟩

theorem Ledger.grant_rest {authReq : AuthorizationRequest} {stamps : MintReadings} :
    (ledger.grant platform state authReq stamps).2.spent = ledger.spent ∧
      (ledger.grant platform state authReq stamps).2.sessions = ledger.sessions := by
  unfold Ledger.grant
  split <;> exact ⟨rfl, rfl⟩

/-- Other calls spend nothing, and open and close nothing unless they revoke. -/
theorem Ledger.next_of_not_redeems (platform : Platform) (state : AppState) (ledger : Ledger)
    (other : call.redeems? platform = none)
    (notRevoke : ∀ jti, call ≠ .revoke jti) :
    ((Ledger.machine platform state).next ledger call).spent = ledger.spent ∧
      ((Ledger.machine platform state).next ledger call).sessions = ledger.sessions := by
  cases call with
  | authorize headers params stamps =>
      cases accepted : checkAuthorize platform state headers params <;>
        simp [Machine.next, Ledger.machine, accepted, Ledger.grant_rest]
  | authorizationRequest authReq stamps =>
      simp [Machine.next, Ledger.machine, Ledger.grant_rest]
  | token headers params stamps =>
      cases parsed : tokenRequest platform headers params with
      | error failure => simp [Machine.next, Ledger.machine, parsed]
      | ok inner => simp [Call.redeems?, parsed, Except.toOption] at other
  | accessTokenRequest => cases other
  | userinfo headers clock =>
      cases presented : bearerToken headers <;> simp [Machine.next, Ledger.machine, presented]
  | revoke jti => exact absurd rfl (notRevoke jti)
  | lookup => exact ⟨rfl, rfl⟩

theorem Ledger.Reflects.other (reflects : ledger.Reflects platform state past)
    (other : call.redeems? platform = none) (notRevoke : ∀ jti, call ≠ .revoke jti) :
    ((Ledger.machine platform state).next ledger call).Reflects platform state
      (past ++ [call]) := by
  obtain ⟨spent, sessions⟩ := Ledger.next_of_not_redeems platform state ledger other notRevoke
  have unredeemed (req readings response) :
      ¬ Redeemed platform state past call req readings response := by
    intro redeemed
    cases other.symm.trans redeemed.requested
  apply reflects.snoc notRevoke
  · exact Ledger.mem_grants_next_iff
  · rw [spent, storeAfter_snoc, OpenidTlsConnector.next_of_not_redeems other]
    cases call with
    | revoke jti => exact absurd rfl (notRevoke jti)
    | authorize | authorizationRequest | token | accessTokenRequest | userinfo | lookup =>
        exact reflects.spent
  · rw [spent]
    exact fun text => Or.inl
  · simp [sessions, not_opens_of_unredeemed unredeemed]

/-- A revocation closes the session of its `jti`. -/
theorem Ledger.Reflects.revoke (reflects : ledger.Reflects platform state past) (jti : String) :
    (ledger.revoke jti).2.Reflects platform state (past ++ [.revoke jti]) := by
  have unredeemed (req readings response) :
      ¬ Redeemed platform state past (.revoke jti) req readings response := by
    intro redeemed
    cases redeemed.requested
  constructor
  · intro grant
    have none : ¬ (Call.revoke jti).Grants platform state grant := by
      intro grants
      obtain ⟨_, _, mints, -⟩ := grants
      exact mints
    simpa [Ledger.revoke, none, or_and_right, exists_or] using reflects.grants grant
  · rw [storeAfter_snoc, OpenidTlsConnector.next_of_not_redeems rfl]
    exact reflects.spent
  · intro text membership
    obtain ⟨earlier, inPast, request⟩ := reflects.presented text membership
    exact ⟨earlier, List.mem_append_left _ inPast, request⟩
  · intro session
    rw [since_snoc, ← reflects.sessions]
    simp [Ledger.revoke, not_opens_of_unredeemed unredeemed, eq_comm (a := jti)]

/-- Every call is answered alike, and leaves the tables as the run has made
them. -/
theorem Ledger.Reflects.step (reflects : ledger.Reflects platform state past)
    (ideal : IdealRun platform state (past ++ [call])) :
    ((server platform state).answer (storeAfter platform state past) call).verdict =
        (Ledger.machine platform state).answer ledger call ∧
      ((Ledger.machine platform state).next ledger call).Reflects platform state
        (past ++ [call]) := by
  have fresh := ideal.of_append.fresh
  cases made : call.redeems? platform with
  | some request =>
      obtain ⟨req, readings⟩ := request
      obtain ⟨alike, holds⟩ := reflects.redemption ideal made
      have step := Ledger.step_of_redeems state ledger made
      refine ⟨alike.trans (congrArg Prod.fst step).symm, ?_⟩
      rw [Machine.next, step]
      exact holds
  | none =>
      cases call with
      | accessTokenRequest => cases made
      | authorize headers params stamps =>
          refine ⟨?_, reflects.other made (by simp)⟩
          cases accepted : checkAuthorize platform state headers params with
          | error | panic =>
              simp [Machine.answer, server, Ledger.machine, authorizeHandler, accepted,
                Reply.verdict, Verdict.ofOutcome]
          | ok authReq =>
              cases minted : state.flow.authorizationRequest platform authReq stamps <;>
                simp [Machine.answer, server, Ledger.machine, Ledger.grant, authorizeHandler,
                  accepted, minted, Reply.verdict]
      | authorizationRequest authReq stamps =>
          refine ⟨?_, reflects.other made (by simp)⟩
          cases minted : state.flow.authorizationRequest platform authReq stamps <;>
            simp [Machine.answer, server, Ledger.machine, Ledger.grant, minted, Reply.verdict]
      | token headers params stamps =>
          refine ⟨?_, reflects.other made (by simp)⟩
          cases parsed : tokenRequest platform headers params with
          | error failure =>
              simp [Machine.answer, server, Ledger.machine, tokenHandler, parsed, Reply.verdict,
                Verdict.ofOutcome]
          | ok inner => simp [Call.redeems?, parsed, Except.toOption] at made
      | userinfo headers clock =>
          refine ⟨?_, reflects.other made (by simp)⟩
          cases presented : bearerToken headers with
          | error failure =>
              simp [Machine.answer, server, Ledger.machine, presented, Reply.verdict,
                userinfoHandler, verifyBearerToken, Except.toOption, bind, Except.bind]
          | ok token =>
              have same := reflects.identify_eq fresh clock presented
                fun claims => ideal.genuine past headers clock [] token claims rfl presented
              simp [Machine.answer, server, Ledger.machine, presented, Reply.verdict, same]
      | revoke jti =>
          refine ⟨?_, reflects.revoke jti⟩
          simp [Machine.answer, server, Ledger.machine, Ledger.revoke, Reply.verdict,
            reflects.lookup_eq fresh, InMemoryTokenStore.lookup, InMemoryTokenStore.revoke]
      | lookup jti =>
          refine ⟨?_, reflects.other made (by simp)⟩
          simp [Machine.answer, server, Ledger.machine, Reply.verdict, reflects.lookup_eq fresh]

end OpenidTlsConnector
