import OpenidTlsConnector.Platform

/-!
# Discovery

The discovery document is built once, from the parsed issuer URL and the
endpoint paths, and served unchanged.
-/

namespace OpenidTlsConnector

open Foundations

structure OIDCEndpointPaths where
  authorizationEndpoint : String
  tokenEndpoint : String
  userinfoEndpoint : String
  jwksUri : String

def OIDCEndpointPaths.default : OIDCEndpointPaths where
  authorizationEndpoint := "/authorize"
  tokenEndpoint := "/token"
  userinfoEndpoint := "/userinfo"
  jwksUri := "/jwks"

structure OIDCDiscovery where
  issuer : String
  authorizationEndpoint : String
  tokenEndpoint : String
  userinfoEndpoint : String
  jwksUri : String
  scopesSupported : List String
  responseTypesSupported : List String
  grantTypesSupported : List String
  subjectTypesSupported : List String
  idTokenSigningAlgValuesSupported : List String
  codeChallengeMethodsSupported : List String
  deriving DecidableEq

/-- Drop the last character of the serialized URL if it is a slash. -/
def canonicalizeIssuer (issuer : Url) : String :=
  let s := issuer.serialize
  if s.toList.getLast? = some '/' then String.ofList s.toList.dropLast else s

/-- The texts an issuer can be canonicalized to, and the URLs it happens for. -/
theorem canonicalizeIssuer_eq_iff (issuer : Url) (text : String) :
    canonicalizeIssuer issuer = text ↔
      (issuer.serialize = text ∧ text.toList.getLast? ≠ some '/') ∨
        issuer.serialize = text ++ "/" := by
  unfold canonicalizeIssuer
  dsimp only
  split
  · rename_i slash
    obtain ⟨start, parts⟩ := List.getLast?_eq_some_iff.mp slash
    have whole : issuer.serialize = String.ofList start ++ "/" := by
      rw [← String.toList_inj, parts]
      simp
    simp only [whole, String.toList_append, String.toList_ofList]
    constructor
    · rintro rfl
      simp
    · rintro (⟨rfl, noSlash⟩ | same)
      · simp at noSlash
      · simpa using same
  · rename_i noSlash
    constructor
    · rintro rfl
      exact Or.inl ⟨rfl, noSlash⟩
    · rintro (⟨same, -⟩ | slash)
      · exact same
      · simp [slash] at noSlash

/-- Absent when an endpoint cannot be joined, which is a panic. -/
def discoveryInfo (platform : Platform) (issuer : Url) (paths : OIDCEndpointPaths) :
    Option OIDCDiscovery := do
  let canonicalIssuer := canonicalizeIssuer issuer
  let base := match platform.url.parse canonicalIssuer with
    | .ok url => url
    | .error _ => issuer
  let authorizationEndpoint ← platform.url.join base paths.authorizationEndpoint
  let tokenEndpoint ← platform.url.join base paths.tokenEndpoint
  let userinfoEndpoint ← platform.url.join base paths.userinfoEndpoint
  let jwksUri ← platform.url.join base paths.jwksUri
  some {
    issuer := canonicalIssuer
    authorizationEndpoint := authorizationEndpoint.serialize
    tokenEndpoint := tokenEndpoint.serialize
    userinfoEndpoint := userinfoEndpoint.serialize
    jwksUri := jwksUri.serialize
    scopesSupported := ["openid", "email", "profile"]
    responseTypesSupported := ["code"]
    grantTypesSupported := ["authorization_code"]
    subjectTypesSupported := ["public"]
    idTokenSigningAlgValuesSupported := ["RS256"]
    codeChallengeMethodsSupported := ["S256", "plain"] }

theorem issuer_of_discoveryInfo {platform : Platform} {issuer : Url} {paths : OIDCEndpointPaths}
    {discovery : OIDCDiscovery} (built : discoveryInfo platform issuer paths = some discovery) :
    discovery.issuer = canonicalizeIssuer issuer := by
  simp only [discoveryInfo, Option.bind_eq_bind, Option.bind_eq_some_iff] at built
  obtain ⟨_, -, _, -, _, -, _, -, made⟩ := built
  cases made
  rfl

structure DiscoveryManager where
  discovery : OIDCDiscovery

namespace DiscoveryManager

def new (platform : Platform) (issuer : Url) (paths : OIDCEndpointPaths) :
    Option DiscoveryManager :=
  (discoveryInfo platform issuer paths).map fun discovery => { discovery := discovery }

def getDiscoveryInfo (manager : DiscoveryManager) : OIDCDiscovery := manager.discovery

end DiscoveryManager

end OpenidTlsConnector
