import OpenidTlsConnector.Platform

/-!
# The authorization code

The code carries everything the token endpoint needs, so redeeming it reads no
state.  It travels as CBOR: a struct is a map from field names, an enum
variant its name, an absent option `null`, and an instant the seconds and
nanoseconds since the epoch.
-/

namespace OpenidTlsConnector

open Foundations Foundations.Cbor

/-! ## PKCE -/

inductive CodeChallengeMethod where
  | plain
  | s256
  deriving DecidableEq

def CodeChallengeMethod.toItem : CodeChallengeMethod → Item
  | .plain => .text "Plain"
  | .s256 => .text "S256"

def CodeChallengeMethod.fromItem : Item → Option CodeChallengeMethod
  | .text "Plain" => some .plain
  | .text "S256" => some .s256
  | _ => none

@[simp]
theorem CodeChallengeMethod.fromItem_toItem (method : CodeChallengeMethod) :
    fromItem method.toItem = some method := by
  cases method <;> rfl

def verifyPkce (platform : Platform) (method : CodeChallengeMethod)
    (codeChallenge codeVerifier : String) : Bool :=
  match method with
  | .plain => codeChallenge == codeVerifier
  | .s256 =>
      let digest := platform.sha256 (Text.utf8 codeVerifier)
      let shouldEqualCodeChallenge := platform.urlSafeNoPad.encode digest.val
      codeChallenge == shouldEqualCodeChallenge

/-! ## Instants -/

/-- Instants before the epoch do not serialize. -/
def serializeSystemTime (instant : SystemTime) : Option Item :=
  instant.sinceEpoch.map fun (secs, nanos) =>
    .ofFields [("secs_since_epoch", .unsigned secs), ("nanos_since_epoch", .unsigned nanos)]

/-- The parts fit their machine integers, and the nanoseconds carry into the
seconds without overflow. -/
def InstantParts (secs nanos : Nat) : Prop :=
  nanos < 2 ^ 32 ∧ secs + nanos / nanosPerSecond < 2 ^ 64

instance (secs nanos : Nat) : Decidable (InstantParts secs nanos) :=
  inferInstanceAs (Decidable (_ ∧ _))

/-- Both parts and no other field. -/
def deserializeSystemTime (item : Item) : Option SystemTime := do
  let fields ← item.asFields
  guard (fields.all fun field =>
    field.1 == "secs_since_epoch" || field.1 == "nanos_since_epoch")
  let secs ← fields.required "secs_since_epoch" Item.asUnsigned
  let nanos ← fields.required "nanos_since_epoch" Item.asUnsigned
  if InstantParts secs nanos then SystemTime.afterEpoch secs nanos else none

theorem serializeSystemTime_isSome_iff (instant : SystemTime) :
    (∃ item, serializeSystemTime instant = some item) ↔ 0 ≤ instant.nanos := by
  rw [← SystemTime.sinceEpoch_isSome_iff]
  cases parts : instant.sinceEpoch <;> simp [serializeSystemTime, parts]

theorem deserializeSystemTime_of_serialize {instant : SystemTime} {item : Item}
    (serialized : serializeSystemTime instant = some item) :
    deserializeSystemTime item = some instant := by
  obtain ⟨⟨secs, nanos⟩, parts, rfl⟩ := Option.map_eq_some_iff.mp serialized
  obtain ⟨secsBound, nanosBound⟩ := SystemTime.sinceEpoch_bounds parts
  have whole := SystemTime.afterEpoch_of_sinceEpoch parts
  have fits : InstantParts secs nanos := by
    simp only [InstantParts, nanosPerSecond] at *
    omega
  simp [deserializeSystemTime, fits, whole]

/-! ## The code itself -/

structure AuthorizationCode where
  clientId : String
  redirectUri : String
  /-- The PKCE challenge sent at `/authorize`, if any. -/
  codeChallenge : Option String
  codeChallengeMethod : CodeChallengeMethod
  timestamp : SystemTime
  subject : String
  nonce : Option String
  groups : List String
  scope : List String
  deriving DecidableEq

namespace AuthorizationCode

def toItem (code : AuthorizationCode) : Option Item := do
  let timestamp ← serializeSystemTime code.timestamp
  some (.ofFields [
    ("client_id", .text code.clientId),
    ("redirect_uri", .text code.redirectUri),
    ("code_challenge", .ofOptional code.codeChallenge),
    ("code_challenge_method", code.codeChallengeMethod.toItem),
    ("timestamp", timestamp),
    ("subject", .text code.subject),
    ("nonce", .ofOptional code.nonce),
    ("groups", .strings code.groups),
    ("scope", .strings code.scope)])

def fromItem (item : Item) : Option AuthorizationCode := do
  let fields ← item.asFields
  let clientId ← fields.required "client_id" Item.asText
  let redirectUri ← fields.required "redirect_uri" Item.asText
  let codeChallenge ← fields.optional "code_challenge" (Item.asOptional Item.asText)
  let codeChallengeMethod ← fields.required "code_challenge_method" CodeChallengeMethod.fromItem
  let timestamp ← fields.required "timestamp" deserializeSystemTime
  let subject ← fields.required "subject" Item.asText
  let nonce ← fields.optional "nonce" (Item.asOptional Item.asText)
  let groups ← fields.required "groups" Item.asStrings
  let scope ← fields.required "scope" Item.asStrings
  some {
    clientId := clientId
    redirectUri := redirectUri
    codeChallenge := codeChallenge
    codeChallengeMethod := codeChallengeMethod
    timestamp := timestamp
    subject := subject
    nonce := nonce
    groups := groups
    scope := scope }

theorem fromItem_of_toItem {code : AuthorizationCode} {item : Item}
    (serialized : code.toItem = some item) : fromItem item = some code := by
  simp only [toItem, Option.bind_eq_bind, Option.bind_eq_some_iff] at serialized
  obtain ⟨timestamp, stamped, made⟩ := serialized
  cases made
  have read := deserializeSystemTime_of_serialize stamped
  simp [fromItem, read]

end AuthorizationCode

inductive TokenRequestError where
  | invalidClientId
  | invalidRedirectUri
  | invalidPKCE
  deriving DecidableEq

def TokenRequestError.message : TokenRequestError → String
  | .invalidClientId => "Authorization code not issued for this client."
  | .invalidRedirectUri => "Authorization code not issued for this redirect URI."
  | .invalidPKCE => "Proof key did not match verifier."

namespace AuthorizationCode

/-- Without a stored challenge the verifier is not looked at. -/
def validateTokenRequest (platform : Platform) (code : AuthorizationCode)
    (clientId redirectUri : String) (codeVerifier : Option String) :
    Except TokenRequestError Unit :=
  if code.clientId ≠ clientId then .error .invalidClientId
  else if code.redirectUri ≠ redirectUri then .error .invalidRedirectUri
  else match code.codeChallenge with
    | none => .ok ()
    | some challenge =>
        match codeVerifier with
        | none => .error .invalidPKCE
        | some verifier =>
            if verifyPkce platform code.codeChallengeMethod challenge verifier then .ok ()
            else .error .invalidPKCE

/-- The presented verifier satisfies the challenge stored in the code. -/
def ProvedBy (platform : Platform) (code : AuthorizationCode) (codeVerifier : Option String) :
    Prop :=
  ∃ challenge verifier, code.codeChallenge = some challenge ∧ codeVerifier = some verifier ∧
    verifyPkce platform code.codeChallengeMethod challenge verifier = true

theorem validateTokenRequest_eq_ok_iff (platform : Platform) (code : AuthorizationCode)
    (clientId redirectUri : String) (codeVerifier : Option String) :
    code.validateTokenRequest platform clientId redirectUri codeVerifier = .ok () ↔
      code.clientId = clientId ∧ code.redirectUri = redirectUri ∧
        (code.codeChallenge = none ∨ code.ProvedBy platform codeVerifier) := by
  unfold validateTokenRequest ProvedBy
  split_ifs with client redirect
  · simp [client]
  · simp [redirect]
  · simp only [ne_eq, Decidable.not_not] at client redirect
    cases stored : code.codeChallenge with
    | none => simp [client, redirect]
    | some challenge =>
        cases codeVerifier with
        | none => simp
        | some verifier =>
            by_cases proved : verifyPkce platform code.codeChallengeMethod challenge verifier <;>
              simp [client, redirect, proved]

end AuthorizationCode

end OpenidTlsConnector
