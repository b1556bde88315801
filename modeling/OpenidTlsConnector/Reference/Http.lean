import OpenidTlsConnector.Server.Completion
import OpenidTlsConnector.Server.Http

/-!
# The sample exchange on the wire

The requests of the sample exchange as the user agent and the client send them,
and the facts that make the exchange an honest one.
-/

namespace OpenidTlsConnector.Reference

open Foundations

def framework : Framework where
  lossy := .replaceAll
  takesForm headers _ := headers.text "content-type" == some "application/x-www-form-urlencoded"

def jwk : Jwk where
  kty := "RSA"
  use := "sig"
  kid := state.jwtIssuer.kid
  alg := "RS256"
  n := "DKE"
  e := "EQ"

/-- The code is minted first, and everything else happens ten seconds later. -/
def moment : Moment where
  minting := stamps 1700000000
  redeeming := readings 1700000010 1
  clock := clock 1700000010

def authorizeArrival (params : AuthorizeParams) : Arrival where
  request := {
    method := .get
    path := "/authorize"
    query := some (FormUrlEncoded.serialize params.toFields)
    headers := userHeaders
    body := [] }
  moment := moment

def formHeaders : HeaderMap where
  get name :=
    if name = "content-type" then some (.ofString "application/x-www-form-urlencoded") else none

def tokenArrival (params : TokenParams) : Arrival where
  request := {
    method := .post
    path := "/token"
    query := none
    headers := formHeaders
    body := Text.utf8 (FormUrlEncoded.serialize params.toFields) }
  moment := moment

/-- The sample request with a plain challenge. -/
theorem honestExchange_sample : HonestExchange platform state publicClient userHeaders
    (authorizeParams (some "verifier") "https://app.example/cb") moment.minting none
    (some "verifier") moment.redeeming.verifiedAt := by
  obtain ⟨url, parsed⟩ : ∃ url, Url.parsePlain "https://app.example/cb" = some url :=
    Option.isSome_iff_exists.mp (by decide)
  exact {
    registered := by decide
    responseType := rfl
    clientId := rfl
    redirect := by decide
    parsable := ⟨url, Url.plainLibrary_parse_eq_ok_iff.mpr parsed⟩
    resolved := ⟨"CN=alice,O=Example", { subject := "alice", rawDn := "CN=alice,O=Example" },
      by decide, by decide⟩
    pkce := .plain "verifier" (Or.inl rfl)
    secret := Or.inl rfl
    created := by decide
    stamped := by decide
    inOrder := by decide
    fresh := by decide }

theorem issuable_sample : Issuable state moment.redeeming where
  signing _ claims := ⟨sign claims, rfl⟩
  idFits := by decide
  accessFits := by decide
  bounded := Option.isSome_iff_exists.mp (by decide)

end OpenidTlsConnector.Reference
