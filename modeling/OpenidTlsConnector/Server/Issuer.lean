import OpenidTlsConnector.Reference.Exchange

/-!
# The issuer, published and signed

The configured issuer goes into every token as it is written.  The discovery
document names what the URL library makes of it, less a final slash.  The two
are compared byte for byte by whoever relies on the tokens.
-/

namespace OpenidTlsConnector

open Foundations OIDCAuthCodePKCEFlow

/-- The server answers this token request with these tokens. -/
def AppState.Issues (platform : Platform) (state : AppState) (response : TokenResponse) : Prop :=
  ∃ req readings store left,
    state.flow.accessTokenRequest platform state.tokenContext req readings store =
      (.ok response, left)

/-- Every token the server issues names the issuer of the discovery document. -/
def IssuerAgrees (platform : Platform) (state : AppState) : Prop :=
  ∀ response, state.Issues platform response →
    (∃ claims, state.jwtIssuer.idTokenClaims response.idToken = some claims ∧
      claims.iss = (discoveryHandler state).issuer) ∧
    ∃ claims, state.jwtIssuer.accessTokenClaims response.accessToken = some claims ∧
      claims.iss = (discoveryHandler state).issuer

/-- The issuer is written as the URL library writes it, and without the final
slash. -/
def WrittenCanonically (platform : Platform) (issuer : String) : Prop :=
  ∃ issuerUrl, platform.url.parse issuer = .ok issuerUrl ∧
    ((issuerUrl.serialize = issuer ∧ issuer.toList.getLast? ≠ some '/') ∨
      issuerUrl.serialize = issuer ++ "/")

variable {platform : Platform} {state : AppState} {response : TokenResponse}

/-- Both tokens name the issuer of the configuration. -/
theorem AppState.Issues.claims (issues : state.Issues platform response) :
    (∃ claims, state.jwtIssuer.idTokenClaims response.idToken = some claims ∧
      claims.iss = state.jwtIssuer.issuer) ∧
    ∃ claims, state.jwtIssuer.accessTokenClaims response.accessToken = some claims ∧
      claims.iss = state.jwtIssuer.issuer := by
  obtain ⟨req, readings, store, left, answered⟩ := issues
  have ending := accessTokenRequest_redemption platform state.flow state.tokenContext req readings
    store
  rw [answered] at ending
  cases ending with
  | redeemed checked unused signed bounded =>
      obtain ⟨idIssued, accessIssued⟩ := signTokens_eq_ok_iff.mp signed
      obtain ⟨_, -, readId⟩ := JwtIssuer.idTokenClaims_of_issueIdToken idIssued
      obtain ⟨_, -, readAccess⟩ := JwtIssuer.accessTokenClaims_of_issueAccessToken accessIssued
      exact ⟨⟨_, readId, rfl⟩, ⟨_, readAccess, rfl⟩⟩

/-- One token decides for all of them. -/
theorem issuerAgrees_iff_of_issues (issues : state.Issues platform response) :
    IssuerAgrees platform state ↔ state.jwtIssuer.issuer = (discoveryHandler state).issuer := by
  constructor
  · intro agrees
    obtain ⟨⟨claims, read, published⟩, -⟩ := agrees response issues
    obtain ⟨⟨claims', read', configured⟩, -⟩ := issues.claims
    cases read.symm.trans read'
    exact configured.symm.trans published
  · intro same other issued
    obtain ⟨⟨idClaims, readId, idIss⟩, accessClaims, readAccess, accessIss⟩ := issued.claims
    exact ⟨⟨idClaims, readId, idIss.trans same⟩, accessClaims, readAccess, accessIss.trans same⟩

/-- What is published is what is signed exactly when the issuer is written
canonically. -/
theorem published_iff {config : Config} {keys : RsaKeyPair} {kid : String}
    (started : main platform config keys kid = .ok state) :
    state.jwtIssuer.issuer = (discoveryHandler state).issuer ↔
      WrittenCanonically platform config.issuer := by
  obtain ⟨hmacKeyBytes, clientRegistry, issuerUrl, discovery, -, -, parsed, built, rfl⟩ :=
    main_eq_ok_iff.mp started
  have published := issuer_of_discoveryInfo built
  have canonical := canonicalizeIssuer_eq_iff issuerUrl config.issuer
  simp only [discoveryHandler, DiscoveryManager.getDiscoveryInfo, published, WrittenCanonically,
    parsed, Except.ok.injEq, exists_eq_left', ← canonical]
  exact eq_comm

/-- The discovery document and the tokens name one issuer exactly when the
configuration writes it canonically, or when no token is ever issued. -/
theorem issuerAgrees_iff (platform : Platform) (config : Config) (keys : RsaKeyPair)
    (kid : String) (state : AppState) (started : main platform config keys kid = .ok state) :
    IssuerAgrees platform state ↔
      WrittenCanonically platform config.issuer ∨
        ∀ response, ¬ state.Issues platform response := by
  rw [← published_iff started]
  by_cases issues : ∃ response, state.Issues platform response
  · obtain ⟨response, issued⟩ := issues
    rw [issuerAgrees_iff_of_issues issued]
    exact (or_iff_left fun none => none response issued).symm
  · have none : ∀ response, ¬ state.Issues platform response :=
      fun response issued => issues ⟨response, issued⟩
    exact iff_of_true (fun response issued => absurd issued (none response)) (Or.inr none)

/-- The sample exchange under any issuer. -/
theorem issues_sample (issuer : String) :
    ∃ response, (Reference.stateFor issuer).Issues Reference.platform response := by
  have registered : "https://app.example/cb" ∈ Reference.publicClient.redirectUris := by decide
  have decoded := SignedAuthorizationCode.decode_encode Reference.platform
    (Reference.signedCode (Reference.authorization none "https://app.example/cb") 1700000000)
  obtain ⟨tokens, expiresAt, redeemed⟩ := Reference.redeem_sample 1 registered decoded
    (by simp : codeReplayKey Reference.platform _ ∉ InMemoryTokenStore.new.consumedCodes)
  exact ⟨_, _, _, _, _, redeemed⟩

/-- An issuer without a path or a final slash is safe. -/
theorem issuerAgrees_sample : IssuerAgrees Reference.platform Reference.state := by
  have parsed : Url.parsePlain "https://auth.example.com" = some Reference.issuerUrl := by decide
  refine (issuerAgrees_iff _ _ _ _ _ (Reference.main_sample parsed)).mpr (Or.inl
    ⟨Reference.issuerUrl, Url.plainLibrary_parse_eq_ok_iff.mpr parsed, Or.inr ?_⟩)
  decide

/-- With a final slash the tokens say one thing and the document another. -/
theorem not_issuerAgrees_of_slash :
    main Reference.platform (Reference.config "https://auth.example.com/") Reference.keys "kid" =
        .ok (Reference.stateFor "https://auth.example.com/") ∧
      ¬ IssuerAgrees Reference.platform (Reference.stateFor "https://auth.example.com/") := by
  have parsed : Url.parsePlain "https://auth.example.com/" = some Reference.issuerUrl := by decide
  refine ⟨Reference.main_sample parsed, fun agrees => ?_⟩
  obtain ⟨response, issued⟩ := issues_sample "https://auth.example.com/"
  have same := (issuerAgrees_iff_of_issues issued).mp agrees
  revert same
  decide

end OpenidTlsConnector
