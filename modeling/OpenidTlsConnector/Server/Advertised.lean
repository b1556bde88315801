import OpenidTlsConnector.Oidc.CanonicalIssuer
import OpenidTlsConnector.Server.Surface

/-!
# What the discovery document promises

The document names an address for each endpoint and the values the endpoints
accept.  The router and the handlers do not look at it, so that they agree is a
fact about both.
-/

namespace OpenidTlsConnector

open Foundations

variable {platform : Platform} {issuer : Url} {document : OIDCDiscovery} {state : AppState}

/-- The path at which the document of an issuer is looked for. -/
def wellKnownPath (issuer : Url) : String :=
  Text.dropFinal '/' issuer.path ++ "/.well-known/openid-configuration"

/-- The router has the document at the path of an issuer at the root only. -/
theorem endpoint_wellKnown_iff (rooted : issuer.path ≠ "") {request : Request}
    (path : request.path = wellKnownPath issuer) (method : request.method = .get) :
    request.endpoint = .ok .discovery ↔ issuer.path = "/" := by
  have atRoot : Text.dropFinal '/' issuer.path = "" ↔ issuer.path = "/" := by
    by_cases slash : Text.EndsIn '/' issuer.path
    · obtain ⟨start, whole⟩ := Text.exists_of_endsIn slash
      rw [whole, Text.dropFinal_concat]
      exact String.append_eq_right_iff.symm
    · rw [Text.dropFinal_eq_self slash]
      refine iff_of_false rooted fun isRoot => slash ?_
      rw [isRoot]
      decide
  rw [← atRoot]
  constructor
  · intro reached
    obtain ⟨route, routed, same, -, isDiscovery⟩ := Request.endpoint_eq_ok_iff.mp reached
    have discoveryPath : ∀ route ∈ oidcRouter, route.endpoint = .discovery →
        route.path = "/.well-known/openid-configuration" := by decide
    rw [discoveryPath route routed isDiscovery, path, wellKnownPath, eq_comm,
      String.append_eq_right_iff] at same
    exact same
  · intro empty
    rw [wellKnownPath, empty, String.empty_append] at path
    exact Request.endpoint_of_route ⟨"/.well-known/openid-configuration", .get, .discovery⟩
      (by decide) path method

/-- Whoever looks for the document at the address made from the issuer it names
finds it exactly when the issuer has no path of its own. -/
theorem discovery_found_iff (platform : Platform) (config : Config) (keys : RsaKeyPair)
    (kid : String) (state : AppState) (issuerUrl : Url)
    (started : main platform config keys kid = .ok state)
    (parsed : platform.url.parse config.issuer = .ok issuerUrl)
    (pathLast : issuerUrl.lastComponent = none) (rooted : issuerUrl.path ≠ "") :
    { issuerUrl with path := wellKnownPath issuerUrl }.serialize =
        (discoveryHandler state).issuer ++ "/.well-known/openid-configuration" ∧
      ∀ request : Request, request.path = wellKnownPath issuerUrl → request.method = .get →
        (request.endpoint = .ok .discovery ↔ issuerUrl.path = "/") := by
  obtain ⟨_, _, issuerUrl', document, -, -, parsed', built, rfl⟩ := main_eq_ok_iff.mp started
  cases parsed.symm.trans parsed'
  constructor
  · rw [serialize_of_pathLast pathLast, wellKnownPath, ← String.append_assoc,
      String.append_left_inj, ← Text.dropFinal_append rooted,
      ← canonicalizeIssuer_of_pathLast pathLast]
    exact (issuer_of_discoveryInfo built).symm
  · intro request path method
    exact endpoint_wellKnown_iff rooted path method

theorem discovery_found_iff_sample :
    { Reference.issuerUrl with path := wellKnownPath Reference.issuerUrl }.serialize =
      "https://auth.example.com/.well-known/openid-configuration" :=
  (discovery_found_iff Reference.platform (Reference.config "https://auth.example.com")
    Reference.keys "kid" Reference.state Reference.issuerUrl
    (Reference.main_sample (by decide)) (Url.plainLibrary_parse_eq_ok_iff.mpr (by decide)) rfl
    (by decide)).1

end OpenidTlsConnector
