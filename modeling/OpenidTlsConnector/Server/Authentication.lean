import OpenidTlsConnector.Reference.Exchange

/-!
# Who redeems a code

A redeemer shows the client's secret or proves the code's challenge, unless the
client is public and the code carries no challenge: such a code is redeemed by
whoever has it.
-/

namespace OpenidTlsConnector

open Foundations OIDCAuthCodePKCEFlow

/-- The redeemer presented the configured secret, or a verifier for the
challenge in the code. -/
def Authenticated (platform : Platform) (state : AppState) (req : AccessTokenRequest)
    (authCode : AuthorizationCode) : Prop :=
  (∃ client secret, state.clients.findById req.clientId = some client ∧
      client.clientSecret = some secret ∧ req.clientSecret = some secret) ∨
    authCode.ProvedBy platform req.codeVerifier

/-- A code without a challenge, for a client without a secret. -/
def Bare (state : AppState) (clientId : String) (authCode : AuthorizationCode) : Prop :=
  (∃ client, state.clients.findById clientId = some client ∧ client.clientSecret = none) ∧
    authCode.codeChallenge = none

variable {platform : Platform} {state : AppState} {past : List Call} {call : Call}
  {req : AccessTokenRequest} {readings : Readings} {response : TokenResponse}
  {authCode : AuthorizationCode}

/-- A redemption is authenticated exactly when its code is not a bare one. -/
theorem Redeemed.authenticated_iff
    (redeemed : Redeemed platform state past call req readings response)
    (verified : SignedAuthorizationCode.decodeAndVerify platform req.code state.flow.hmacKey
      state.flow.codeMaxAge readings.verifiedAt = .ok authCode) :
    Authenticated platform state req authCode ↔ ¬ Bare state req.clientId authCode := by
  obtain ⟨authCode', _, _, checked, -⟩ := redeemed.outcome
  obtain ⟨verified', matched, -, allowed⟩ := checkTokenRequest_eq_ok_iff.mp checked
  cases verified.symm.trans verified'
  obtain ⟨-, -, proved⟩ := (AuthorizationCode.validateTokenRequest_eq_ok_iff _ _ _ _ _).mp matched
  obtain ⟨client, found, secret⟩ :=
    (state.clients.validateClientSecret_eq_allow_iff _ _).mp allowed
  constructor
  · rintro authenticated ⟨⟨client', found', isPublic⟩, unchallenged⟩
    rcases authenticated with ⟨holder, configured, isHolder, hasSecret, -⟩ |
      ⟨challenge, verifier, challenged, -⟩
    · cases found'.symm.trans isHolder
      cases isPublic.symm.trans hasSecret
    · cases unchallenged.symm.trans challenged
  · intro notBare
    rcases secret with isPublic | ⟨configured, hasSecret, presented⟩
    · rcases proved with unchallenged | proof
      · exact absurd ⟨⟨client, found, isPublic⟩, unchallenged⟩ notBare
      · exact Or.inr proof
    · exact Or.inl ⟨client, configured, found, hasSecret, presented⟩

/-! ## Over runs -/

/-- Every redemption of the run is by an authenticated party. -/
def RedeemersAuthenticated (platform : Platform) (state : AppState) (run : List Call) : Prop :=
  ∀ past call future req readings response authCode, run = past ++ call :: future →
    Redeemed platform state past call req readings response →
    SignedAuthorizationCode.decodeAndVerify platform req.code state.flow.hmacKey
      state.flow.codeMaxAge readings.verifiedAt = .ok authCode →
    Authenticated platform state req authCode

/-- The call is a token request of a public client whose code, genuine or not,
carries no challenge. -/
def Call.PresentsBareCode (platform : Platform) (state : AppState) (call : Call) : Prop :=
  ∃ req readings signed container, call.redeems? platform = some (req, readings) ∧
    SignedAuthorizationCode.decode platform req.code = .ok signed ∧
    TimestampedContainer.deserialize platform signed.data = some container ∧
    Bare state req.clientId container.content

/-- The call asks for a code for a public client without sending a challenge. -/
def Call.RequestsBareCode (state : AppState) : Call → Prop
  | .authorize _ params _ =>
      (∃ client, state.clients.findById params.clientId = some client ∧
        client.clientSecret = none) ∧ params.codeChallenge = none
  | _ => False

/-- When no bare code is presented, or under an unforgeable MAC requested, every
redeemer is authenticated.  A single bare code that is redeemed is one too
many. -/
theorem redeemers_authenticated (platform : Platform) (state : AppState) (run : List Call) :
    ((∀ call ∈ run, ¬ call.PresentsBareCode platform state) →
        RedeemersAuthenticated platform state run) ∧
      (MintsAtEndpoint run → MacUnforgeable platform state run →
        (∀ call ∈ run, ¬ call.RequestsBareCode state) →
        RedeemersAuthenticated platform state run) ∧
      (RedeemersAuthenticated platform state run ↔
        ∀ past call future req readings response authCode, run = past ++ call :: future →
          Redeemed platform state past call req readings response →
          SignedAuthorizationCode.decodeAndVerify platform req.code state.flow.hmacKey
            state.flow.codeMaxAge readings.verifiedAt = .ok authCode →
          ¬ Bare state req.clientId authCode) := by
  refine ⟨?_, ?_, ?_⟩
  · rintro noneBare past call future req readings response authCode rfl redeemed verified
    refine (redeemed.authenticated_iff verified).mpr fun bare => ?_
    obtain ⟨signed, container, decoded, -, read, rfl, -⟩ :=
      (SignedAuthorizationCode.decodeAndVerify_eq_ok_iff _ _ _ _ _ _).mp verified
    exact noneBare call (by simp)
      ⟨req, readings, signed, container, redeemed.requested, decoded, read, bare⟩
  · rintro endpoint unforgeable noneBare past call future req readings response authCode rfl
      redeemed verified
    refine (redeemed.authenticated_iff verified).mpr fun ⟨⟨client, found, isPublic⟩, bare⟩ => ?_
    obtain ⟨authCode', _, _, checked, -⟩ := redeemed.outcome
    obtain ⟨verified', matched, -⟩ := checkTokenRequest_eq_ok_iff.mp checked
    cases verified.symm.trans verified'
    obtain ⟨sameClient, -⟩ :=
      (AuthorizationCode.validateTokenRequest_eq_ok_iff _ _ _ _ _).mp matched
    obtain ⟨earlier, inPast, authReq, stamps, mints, -, -, rfl, -⟩ :=
      redeemed.minted unforgeable verified
    obtain ⟨headers, params, rfl, accepted⟩ := endpoint.authorizes inPast mints
    obtain ⟨-, method, holder, headerValue, user, -, -, -, -, -, rfl⟩ :=
      checkAuthorize_eq_ok_iff.mp accepted
    change params.clientId = req.clientId at sameClient
    rw [← sameClient] at found
    exact noneBare _ (List.mem_append_left _ inPast) ⟨⟨client, found, isPublic⟩, bare⟩
  · constructor
    · intro all past call future req readings response authCode split redeemed verified
      exact (redeemed.authenticated_iff verified).mp
        (all past call future req readings response authCode split redeemed verified)
    · intro noneBare past call future req readings response authCode split redeemed verified
      exact (redeemed.authenticated_iff verified).mpr
        (noneBare past call future req readings response authCode split redeemed verified)

/-- With a challenge in the sample request, its redeemer is authenticated. -/
theorem redeemers_authenticated_sample :
    RedeemersAuthenticated Reference.platform Reference.state
      [Reference.authorizeCall (some "verifier") "https://app.example/cb",
        Reference.tokenCall (some "verifier") "https://app.example/cb"] := by
  have registered : "https://app.example/cb" ∈ Reference.publicClient.redirectUris := by decide
  refine (redeemers_authenticated _ _ _).2.1 (Reference.mintsAtEndpoint_sample _ _)
    (Reference.macUnforgeable_sample (some "verifier") registered) fun call membership => ?_
  simp only [List.mem_cons, List.not_mem_nil, or_false] at membership
  rcases membership with rfl | rfl
  · rintro ⟨-, unchallenged⟩
    cases unchallenged
  · exact id

/-- Without one, the public client gets its tokens for the code alone. -/
theorem not_redeemers_authenticated :
    ¬ RedeemersAuthenticated Reference.platform Reference.state
      [Reference.authorizeCall none "https://app.example/cb",
        Reference.tokenCall none "https://app.example/cb"] := by
  intro authenticated
  have registered : "https://app.example/cb" ∈ Reference.publicClient.redirectUris := by decide
  have found : Reference.state.clients.findById "spa" = some Reference.publicClient := by decide
  obtain ⟨response, redeemed⟩ := Reference.tokenCall_redeemed none registered
  have verified := Reference.decodeAndVerify_sample (SignedAuthorizationCode.decode_encode
    Reference.platform (Reference.signedCode
      (Reference.authorization none "https://app.example/cb") 1700000000))
  rcases authenticated _ _ [] _ _ response _ rfl redeemed verified with
    ⟨holder, secret, isHolder, configured, -⟩ | ⟨challenge, verifier, challenged, -⟩
  · cases found.symm.trans isHolder
    cases configured
  · cases challenged

end OpenidTlsConnector
