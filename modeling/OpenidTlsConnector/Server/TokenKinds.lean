import OpenidTlsConnector.Reference.Exchange

/-!
# ID tokens and access tokens are told apart

Both kinds come from one key and say nothing about their kind.  An access
token needs a `jti`, which no ID token has.  An ID token needs nothing an
access token lacks, so there the audience alone decides.
-/

namespace OpenidTlsConnector

open Foundations

/-- No ID token issued for the client passes for an access token, and none is
good at `/userinfo`. -/
def IdTokensRefused (platform : Platform) (state : AppState) (client : ClientConfig) : Prop :=
  ∀ subject groups nonce ttl issuedAt token,
    state.jwtIssuer.issueIdToken platform subject client.clientId groups nonce ttl issuedAt =
      .ok token →
    ∀ clock, state.jwtIssuer.verifyAccessToken token clock = none ∧
      ∀ headers store info, bearerToken headers = .ok token →
        userinfoHandler state headers clock store ≠ .ok info

/-- No access token, whoever it was issued to, passes for an ID token of the
client. -/
def AccessTokensRefused (platform : Platform) (state : AppState) (client : ClientConfig) : Prop :=
  ∀ subject clientId groups scope jti ttl issuedAt token,
    state.jwtIssuer.issueAccessToken platform subject clientId groups scope jti ttl issuedAt =
      .ok token →
    ∀ clock, state.jwtIssuer.verifyIdToken token client.clientId clock = none

theorem idTokensRefused (platform : Platform) (state : AppState) (client : ClientConfig) :
    IdTokensRefused platform state client := by
  intro subject groups nonce ttl issuedAt token issued clock
  have unreadable := JwtIssuer.accessTokenClaims_of_issueIdToken issued
  have refused : state.jwtIssuer.verifyAccessToken token clock = none := by
    simp [JwtIssuer.verifyAccessToken, unreadable]
  refine ⟨refused, fun headers store info presented answered => ?_⟩
  obtain ⟨token', claims, record, presented', verified, -, -⟩ :=
    userinfoHandler_eq_ok_iff.mp answered
  cases presented.symm.trans presented'
  cases refused.symm.trans verified

/-- The audience of an access token is the issuer, so it is refused for every
other client. -/
theorem accessTokensRefused (platform : Platform) (state : AppState) {client : ClientConfig}
    (other : client.clientId ≠ state.jwtIssuer.issuer) :
    AccessTokensRefused platform state client := by
  intro subject clientId groups scope jti ttl issuedAt token issued clock
  obtain ⟨exp, -, read⟩ := JwtIssuer.idTokenClaims_of_issueAccessToken issued
  refine Option.eq_none_iff_forall_ne_some.mpr fun claims verified => ?_
  obtain ⟨read', -, addressed, -⟩ := JwtIssuer.verifyIdToken_eq_some_iff.mp verified
  cases read.symm.trans read'
  exact other addressed.symm

/-- The two kinds are never interchangeable for a client, registered or not,
whose id is not the issuer itself. -/
theorem tokenKinds_apart (platform : Platform) (state : AppState) (client : ClientConfig) :
    IdTokensRefused platform state client ∧
      (client.clientId ≠ state.jwtIssuer.issuer → AccessTokensRefused platform state client) :=
  ⟨idTokensRefused platform state client, accessTokensRefused platform state⟩

/-- A client named like the issuer. -/
def issuerNamedClient : ClientConfig :=
  { Reference.publicClient with clientId := "https://auth.example.com" }

/-- The registry takes it. -/
def issuerNamedState : AppState :=
  { Reference.state with clients := { clients := [issuerNamedClient], distinct := by decide } }

/-- An access token is a valid ID token for that client. -/
theorem not_tokenKinds_apart :
    ¬ ∀ client ∈ issuerNamedState.clients.clients,
      IdTokensRefused Reference.platform issuerNamedState client ∧
        AccessTokensRefused Reference.platform issuerNamedState client := by
  intro apart
  obtain ⟨-, refused⟩ := apart issuerNamedClient (List.mem_singleton_self _)
  obtain ⟨token, issued⟩ : ∃ token, issuerNamedState.jwtIssuer.issueAccessToken Reference.platform
      "alice" "https://auth.example.com" [] ["openid"] "jti" (.fromSecs 3600)
      (Reference.clock 1700000000) = .ok token := ⟨_, rfl⟩
  obtain ⟨exp, added, read⟩ := JwtIssuer.idTokenClaims_of_issueAccessToken issued
  have sum : (addU64 false 1700000000 3600 : Outcome JwtError Nat) = .ok 1700003600 := by decide
  cases added.symm.trans sum
  have accepted := JwtIssuer.verifyIdToken_eq_some_iff.mpr ⟨read, rfl, rfl,
    (by decide : (Reference.clock 1700000000).epochSecs ≤ 1700003600 + 5)⟩
  cases (refused _ _ _ _ _ _ _ _ issued (Reference.clock 1700000000)).symm.trans accepted

end OpenidTlsConnector
