import OpenidTlsConnector.Server.Run

/-!
# Minted codes

Which calls have which bytes signed, and what an unforgeable MAC says about a
run: a code that is redeemed was minted earlier in it.
-/

namespace OpenidTlsConnector

open Foundations OIDCAuthCodePKCEFlow

/-- The call has `data` signed. -/
def Call.Tags (platform : Platform) (state : AppState) (data : List UInt8) (call : Call) : Prop :=
  ∃ req readings, call.Mints platform state req readings ∧
    (TimestampedContainer.new (req.toCode readings.createdAt) readings.stampedAt).serialize
      platform = some data

/-- Every tag that verifies in the run was made earlier in the run. -/
def MacUnforgeable (platform : Platform) (state : AppState) (run : List Call) : Prop :=
  ∀ past call future, run = past ++ call :: future →
    ∀ req readings signed, call.redeems? platform = some (req, readings) →
      SignedAuthorizationCode.decode platform req.code = .ok signed →
      signed.Authentic platform state.flow.hmacKey →
      ∃ earlier ∈ past, earlier.Tags platform state signed.data

/-- Codes are minted at `/authorize` only. -/
def MintsAtEndpoint (run : List Call) : Prop :=
  ∀ req readings, Call.authorizationRequest req readings ∉ run

variable {platform : Platform} {state : AppState} {past future : List Call} {call : Call}
  {req : AccessTokenRequest} {readings : Readings} {response : TokenResponse}

/-- Such a run mints nothing but what `/authorize` accepts. -/
theorem MintsAtEndpoint.authorizes {later : List Call} (endpoint : MintsAtEndpoint (past ++ later))
    {earlier : Call} (inPast : earlier ∈ past) {authReq : AuthorizationRequest}
    {stamps : MintReadings} (mints : earlier.Mints platform state authReq stamps) :
    ∃ headers params, earlier = .authorize headers params stamps ∧
      checkAuthorize platform state headers params = .ok authReq := by
  cases earlier with
  | authorizationRequest direct atMint =>
      exact absurd (List.mem_append_left _ inPast) (endpoint direct atMint)
  | authorize headers params atMint =>
      obtain ⟨accepted, rfl⟩ := mints
      exact ⟨headers, params, rfl, accepted⟩
  | token | accessTokenRequest | userinfo | revoke | lookup => exact mints.elim

/-- A redeemed code was minted earlier, and its stamp is fresh. -/
theorem Redeemed.minted (unforgeable : MacUnforgeable platform state (past ++ call :: future))
    (redeemed : Redeemed platform state past call req readings response)
    {authCode : AuthorizationCode}
    (verified : SignedAuthorizationCode.decodeAndVerify platform req.code state.flow.hmacKey
      state.flow.codeMaxAge readings.verifiedAt = .ok authCode) :
    ∃ earlier ∈ past, ∃ authReq stamps, earlier.Mints platform state authReq stamps ∧
      0 ≤ stamps.createdAt.nanos ∧ 0 ≤ stamps.stampedAt.nanos ∧
      authCode = authReq.toCode stamps.createdAt ∧
      stamps.stampedAt.nanos ≤ readings.verifiedAt.nanos ∧
      readings.verifiedAt.nanos < stamps.stampedAt.nanos + state.flow.codeMaxAge.nanos := by
  obtain ⟨signed, container, decoded, authentic, read, content, stamped, fresh⟩ :=
    (SignedAuthorizationCode.decodeAndVerify_eq_ok_iff _ _ _ _ _ _).mp verified
  obtain ⟨earlier, inPast, authReq, stamps, mints, tagged⟩ :=
    unforgeable past call future rfl req readings signed redeemed.requested decoded authentic
  -- what was signed is what is read
  cases read.symm.trans (TimestampedContainer.deserialize_of_serialize tagged)
  obtain ⟨created, stampedAfter⟩ :=
    (TimestampedContainer.serialize_isSome_iff platform _).mp ⟨_, tagged⟩
  exact ⟨earlier, inPast, authReq, stamps, mints, created, stampedAfter, content.symm, stamped,
    fresh⟩

theorem authorizationRequest_of_afterEpoch (platform : Platform) (flow : OIDCAuthCodePKCEFlow)
    (authReq : AuthorizationRequest) {stamps : MintReadings} (created : 0 ≤ stamps.createdAt.nanos)
    (stamped : 0 ≤ stamps.stampedAt.nanos) :
    ∃ encoded, flow.authorizationRequest platform authReq stamps =
      .ok (authReq.toCode stamps.createdAt, encoded) := by
  obtain ⟨data, serialized⟩ := (TimestampedContainer.serialize_isSome_iff platform
    (.new (authReq.toCode stamps.createdAt) stamps.stampedAt)).mpr ⟨created, stamped⟩
  simp [authorizationRequest, SignedAuthorizationCode.signAndEncode, serialized, Outcome.expect]

/-- A minted code is read back as the code that was minted, while it is fresh. -/
theorem decodeAndVerify_of_minted {flow : OIDCAuthCodePKCEFlow} {authReq : AuthorizationRequest}
    {stamps : MintReadings} {minted : AuthorizationCode × String} {now : SystemTime}
    (made : flow.authorizationRequest platform authReq stamps = .ok minted)
    (stamped : stamps.stampedAt.nanos ≤ now.nanos)
    (fresh : now.nanos < stamps.stampedAt.nanos + flow.codeMaxAge.nanos) :
    SignedAuthorizationCode.decodeAndVerify platform minted.2 flow.hmacKey flow.codeMaxAge now =
      .ok (authReq.toCode stamps.createdAt) := by
  obtain ⟨encoded, expected, pair⟩ := Outcome.bind_eq_ok_iff.mp made
  cases pair
  obtain ⟨data, serialized, rfl⟩ := Option.map_eq_some_iff.mp (Outcome.expect_eq_ok_iff.mp expected)
  exact SignedAuthorizationCode.decodeAndVerify_of_signed serialized
    (SignedAuthorizationCode.decode_encode platform _) stamped fresh

/-- Once the code is minted, only an unparsable redirect URI stops the redirect. -/
theorem redirects_iff {headers : HeaderMap} {params : AuthorizeParams} {stamps : MintReadings}
    {authReq : AuthorizationRequest} {minted : AuthorizationCode × String}
    (accepted : checkAuthorize platform state headers params = .ok authReq)
    (made : state.flow.authorizationRequest platform authReq stamps = .ok minted) :
    (∃ location, authorizeHandler platform state headers params stamps = .ok location) ↔
      ∃ url, platform.url.parse params.redirectUri = .ok url := by
  have sends : (∃ location, redirectLocation platform params minted.2 = .ok location) ↔
      ∃ url, platform.url.parse params.redirectUri = .ok url := by
    cases parsed : platform.url.parse params.redirectUri <;>
      simp [redirectLocation, parsed, Except.mapError, bind, Except.bind, pure, Except.pure]
  rw [← sends]
  constructor
  · rintro ⟨location, redirected⟩
    obtain ⟨authReq', minted', accepted', made', sent⟩ := authorizeHandler_eq_ok_iff.mp redirected
    cases accepted.symm.trans accepted'
    cases made.symm.trans made'
    exact ⟨location, sent⟩
  · rintro ⟨location, sent⟩
    exact ⟨location, authorizeHandler_eq_ok_iff.mpr ⟨authReq, minted, accepted, made, sent⟩⟩

end OpenidTlsConnector
