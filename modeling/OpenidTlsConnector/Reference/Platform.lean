import OpenidTlsConnector.Foundations.Blake3
import OpenidTlsConnector.Foundations.Sha256
import OpenidTlsConnector.Server.Main

/-!
# A platform to evaluate the model on

The digests, the encodings and the codec are the real ones.  Tokens are signed
with a stand-in for RSA: a keyed digest over the encoded claims, carried next
to them.
-/

namespace OpenidTlsConnector.Reference

open Foundations Foundations.Cbor

def platform : Platform where
  urlSafe := Base64.urlSafeAlphabet.engine true
  urlSafeNoPad := Base64.urlSafeAlphabet.engine false
  standard := Base64.standardAlphabet.engine true
  cbor := rfc8949
  keyedHash key message := ⟨Blake3.keyedHash key.val message, Blake3.digest_length _ _ _⟩
  hash message := ⟨Blake3.hash message, Blake3.digest_length _ _ _⟩
  sha256 message := ⟨Sha256.digest message, Sha256.digest_length _⟩
  url := Url.plainLibrary
  uppercase := .ascii
  overflowChecks := false

/-! ## Signed claims -/

mutual

def itemOfJson : Json → Item
  | .null => .null
  | .bool value => .bool value
  | .number value => .unsigned value
  | .string value => .text value
  | .array items => .array (itemsOfJson items)
  | .object fields => .map (entriesOfJson fields)

def itemsOfJson : List Json → List Item
  | [] => []
  | value :: rest => itemOfJson value :: itemsOfJson rest

def entriesOfJson : List (String × Json) → List (Item × Item)
  | [] => []
  | (name, value) :: rest => (.text name, itemOfJson value) :: entriesOfJson rest

end

mutual

def jsonOfItem : Item → Option Json
  | .null => some .null
  | .bool value => some (.bool value)
  | .unsigned value => some (.number value)
  | .text value => some (.string value)
  | .array items => (jsonOfItems items).map .array
  | .map entries => (jsonOfEntries entries).map .object
  | .bytes _ => none

def jsonOfItems : List Item → Option (List Json)
  | [] => some []
  | item :: rest => do
      let value ← jsonOfItem item
      let values ← jsonOfItems rest
      some (value :: values)

def jsonOfEntries : List (Item × Item) → Option (List (String × Json))
  | [] => some []
  | (key, item) :: rest => do
      let name ← key.asText
      let value ← jsonOfItem item
      let fields ← jsonOfEntries rest
      some ((name, value) :: fields)

end

mutual

theorem jsonOfItem_itemOfJson : ∀ value : Json, jsonOfItem (itemOfJson value) = some value
  | .null | .bool _ | .number _ | .string _ => by simp [itemOfJson, jsonOfItem]
  | .array items => by simp [itemOfJson, jsonOfItem, jsonOfItems_itemsOfJson items]
  | .object fields => by simp [itemOfJson, jsonOfItem, jsonOfEntries_entriesOfJson fields]

theorem jsonOfItems_itemsOfJson : ∀ values : List Json,
    jsonOfItems (itemsOfJson values) = some values
  | [] => rfl
  | value :: rest => by
      simp [itemsOfJson, jsonOfItems, jsonOfItem_itemOfJson value, jsonOfItems_itemsOfJson rest]

theorem jsonOfEntries_entriesOfJson : ∀ fields : List (String × Json),
    jsonOfEntries (entriesOfJson fields) = some fields
  | [] => rfl
  | (name, value) :: rest => by
      simp [entriesOfJson, jsonOfEntries, jsonOfItem_itemOfJson value,
        jsonOfEntries_entriesOfJson rest]

end

def signingSecret : Bytes32 := ⟨List.replicate 32 7, rfl⟩

/-- The claims with a keyed digest of their encoding. -/
def signedItem (claims : Json) : Item :=
  let encoded := rfc8949.write (itemOfJson claims)
  .array [.bytes encoded, .bytes (platform.keyedHash signingSecret encoded).val]

def sign (claims : Json) : String := platform.urlSafeNoPad.encode (rfc8949.write (signedItem claims))

def verify (token : String) : Option Json :=
  match (platform.urlSafeNoPad.decode token).bind rfc8949.read with
  | some (.array [.bytes encoded, .bytes tag]) =>
      if (platform.keyedHash signingSecret encoded).val = tag then
        (rfc8949.read encoded).bind jsonOfItem
      else none
  | _ => none

theorem verify_sign (claims : Json) : verify (sign claims) = some claims := by
  simp [verify, sign, signedItem, jsonOfItem_itemOfJson]

def keys : RsaKeyPair where
  sign _ claims := .ok (sign claims)
  verify := verify
  verify_sign {_ claims _} signed := by
    cases signed
    exact verify_sign claims

/-! ## A small deployment -/

def clock (seconds : UInt32) : SystemTime where
  nanos := seconds.toNat * nanosPerSecond
  lower := by simp only [nanosPerSecond]; omega
  upper := by
    have bounded := seconds.toNat_lt
    simp only [nanosPerSecond]
    omega

/-- One nanosecond before the epoch. -/
def beforeEpoch : SystemTime := ⟨-1, by decide, by decide⟩

def publicClient : ClientConfig where
  clientId := "spa"
  clientSecret := none
  redirectUris := ["https://app.example/cb", "/cb"]
  groups := ["spa-users"]

def confidentialClient : ClientConfig where
  clientId := "backend"
  clientSecret := some "s3cr3t"
  redirectUris := ["https://backend.example/cb"]
  groups := []

def clients : ClientRegistry where
  clients := [publicClient, confidentialClient]
  distinct := by decide

def codeHmacKey : String := "2a2a2a2a2a2a2a2a2a2a2a2a2a2a2a2a2a2a2a2a2a2a2a2a2a2a2a2a2a2a2a2a"

/-- The configuration of the deployment, under some issuer. -/
def config (issuer : String) : Config where
  issuer := issuer
  codeMaxAgeSeconds := 300
  codeHmacKey := codeHmacKey
  userHeader := "X-Client-Cert-Subject"
  dnAttribute := "CN"
  idTokenTtlSeconds := 3600
  accessTokenTtlSeconds := 3600
  clients := [publicClient, confidentialClient]
  defaultGroups := ["authenticated"]

def flow : OIDCAuthCodePKCEFlow where
  codeMaxAge := .fromSecs 300
  hmacKey := ⟨List.replicate 32 42, rfl⟩

def discovery : OIDCDiscovery where
  issuer := "https://auth.example.com"
  authorizationEndpoint := "https://auth.example.com/authorize"
  tokenEndpoint := "https://auth.example.com/token"
  userinfoEndpoint := "https://auth.example.com/userinfo"
  jwksUri := "https://auth.example.com/jwks"
  scopesSupported := ["openid", "email", "profile"]
  responseTypesSupported := ["code"]
  grantTypesSupported := ["authorization_code"]
  subjectTypesSupported := ["public"]
  idTokenSigningAlgValuesSupported := ["RS256"]
  codeChallengeMethodsSupported := ["S256", "plain"]

/-- The state of a server configured with `issuer`. -/
def stateFor (issuer : String) : AppState where
  flow := flow
  jwtIssuer := { issuer := issuer, keys := keys, kid := "kid" }
  clients := clients
  userManager := { dnAttribute := "CN" }
  discoveryManager := { discovery := discovery }
  userHeader := "X-Client-Cert-Subject"
  idTokenTtl := .fromSecs 3600
  accessTokenTtl := .fromSecs 3600
  defaultGroups := ["authenticated"]

abbrev state : AppState := stateFor "https://auth.example.com"

def issuerUrl : Url where
  scheme := "https"
  authority := some "auth.example.com"
  path := "/"
  query := none
  fragment := none

theorem hexTo32Bytes_sample : hexTo32Bytes codeHmacKey = .ok flow.hmacKey := by decide +kernel

theorem discoveryInfo_sample :
    discoveryInfo platform issuerUrl .default = some discovery := by decide +kernel

/-- The server starts under every spelling of the issuer. -/
theorem main_sample {issuer : String} (parsed : Url.parsePlain issuer = some issuerUrl) :
    main platform (config issuer) keys "kid" = .ok (stateFor issuer) :=
  main_eq_ok_iff.mpr ⟨flow.hmacKey, clients, issuerUrl, discovery, hexTo32Bytes_sample,
    ClientRegistry.new_clients clients, Url.plainLibrary_parse_eq_ok_iff.mpr parsed,
    discoveryInfo_sample, rfl⟩

end OpenidTlsConnector.Reference
