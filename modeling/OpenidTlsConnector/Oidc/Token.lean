import OpenidTlsConnector.Foundations.Json
import OpenidTlsConnector.Platform

/-!
# ID tokens and access tokens

Both are RS256 JWTs under one key and one header.  Their claims differ: an ID
token is addressed to the client, an access token to the issuer itself, and
only the latter carries a `jti`, a scope and a `client_id`.
-/

namespace OpenidTlsConnector

open Foundations

structure IdTokenClaims where
  iss : String
  sub : String
  aud : String
  exp : Nat
  iat : Nat
  nonce : Option String
  groups : Option (List String)
  deriving DecidableEq

/-- The audience is the issuer; `clientId` records who asked for the token. -/
structure AccessTokenClaims where
  iss : String
  sub : String
  aud : String
  exp : Nat
  iat : Nat
  jti : String
  scope : List String
  groups : List String
  clientId : String
  deriving DecidableEq

/-- A field that is left out when absent. -/
def skipIfNone (name : String) : Option Json → List (String × Json)
  | none => []
  | some value => [(name, value)]

namespace IdTokenClaims

def toJson (claims : IdTokenClaims) : Json :=
  .object ([
    ("iss", .string claims.iss),
    ("sub", .string claims.sub),
    ("aud", .string claims.aud),
    ("exp", .number claims.exp),
    ("iat", .number claims.iat)] ++
    skipIfNone "nonce" (claims.nonce.map .string) ++
    skipIfNone "groups" (claims.groups.map .strings))

def fromJson (json : Json) : Option IdTokenClaims := do
  let fields ← json.asObject
  let iss ← fields.required "iss" Json.asString
  let sub ← fields.required "sub" Json.asString
  let aud ← fields.required "aud" Json.asString
  let exp ← fields.required "exp" Json.asU64
  let iat ← fields.required "iat" Json.asU64
  let nonce ← fields.optional "nonce" (Json.asOptional Json.asString)
  let groups ← fields.optional "groups" (Json.asOptional Json.asStrings)
  some {
    iss := iss
    sub := sub
    aud := aud
    exp := exp
    iat := iat
    nonce := nonce
    groups := groups }

theorem fromJson_toJson {claims : IdTokenClaims} (expFits : IsU64 claims.exp)
    (iatFits : IsU64 claims.iat) : fromJson claims.toJson = some claims := by
  obtain ⟨iss, sub, aud, exp, iat, nonce, groups⟩ := claims
  cases nonce <;> cases groups <;>
    simp [fromJson, toJson, skipIfNone, Json.asU64_number expFits, Json.asU64_number iatFits]

end IdTokenClaims

namespace AccessTokenClaims

def toJson (claims : AccessTokenClaims) : Json :=
  .object [
    ("iss", .string claims.iss),
    ("sub", .string claims.sub),
    ("aud", .string claims.aud),
    ("exp", .number claims.exp),
    ("iat", .number claims.iat),
    ("jti", .string claims.jti),
    ("scope", .strings claims.scope),
    ("groups", .strings claims.groups),
    ("client_id", .string claims.clientId)]

def fromJson (json : Json) : Option AccessTokenClaims := do
  let fields ← json.asObject
  let iss ← fields.required "iss" Json.asString
  let sub ← fields.required "sub" Json.asString
  let aud ← fields.required "aud" Json.asString
  let exp ← fields.required "exp" Json.asU64
  let iat ← fields.required "iat" Json.asU64
  let jti ← fields.required "jti" Json.asString
  let scope ← fields.required "scope" Json.asStrings
  let groups ← fields.required "groups" Json.asStrings
  let clientId ← fields.required "client_id" Json.asString
  some {
    iss := iss
    sub := sub
    aud := aud
    exp := exp
    iat := iat
    jti := jti
    scope := scope
    groups := groups
    clientId := clientId }

theorem fromJson_toJson {claims : AccessTokenClaims} (expFits : IsU64 claims.exp)
    (iatFits : IsU64 claims.iat) : fromJson claims.toJson = some claims := by
  simp [fromJson, toJson, Json.asU64_number expFits, Json.asU64_number iatFits]

/-- Claims without a `jti` are not those of an access token. -/
theorem fromJson_of_missing_jti {fields : Fields Json}
    (missing : ∀ field ∈ fields, field.1 ≠ "jti") : fromJson (.object fields) = none := by
  simp only [fromJson, Json.asObject_object, Fields.required_of_missing missing, Option.bind_eq_bind,
    Option.bind_some, Option.bind_none, Option.bind_fun_none]

/-- An ID token's claims lack a `jti`. -/
theorem fromJson_idTokenClaims (claims : IdTokenClaims) : fromJson claims.toJson = none := by
  apply fromJson_of_missing_jti
  obtain ⟨iss, sub, aud, exp, iat, nonce, groups⟩ := claims
  cases nonce <;> cases groups <;> simp [skipIfNone]

end AccessTokenClaims

/-- An access token's claims have everything an ID token needs. -/
theorem IdTokenClaims.fromJson_accessTokenClaims {claims : AccessTokenClaims}
    (expFits : IsU64 claims.exp) (iatFits : IsU64 claims.iat) :
    IdTokenClaims.fromJson claims.toJson = some {
      iss := claims.iss
      sub := claims.sub
      aud := claims.aud
      exp := claims.exp
      iat := claims.iat
      nonce := none
      groups := some claims.groups } := by
  simp [IdTokenClaims.fromJson, AccessTokenClaims.toJson, Json.asU64_number expFits,
    Json.asU64_number iatFits]

/-! ## Signing and verifying -/

inductive Algorithm where
  | rs256
  deriving DecidableEq

structure Header where
  alg : Algorithm
  kid : Option String
  deriving DecidableEq

inductive JwtError where
  | jwt (error : String)
  deriving DecidableEq

def JwtError.message : JwtError → String
  | .jwt error => "JWT signing/verification failed: " ++ error

/-- An RSA key pair in the hands of `jsonwebtoken`.  `sign` is `encode`;
`verify` is the part of `decode` that checks the signature and parses the
claims. -/
structure RsaKeyPair where
  sign : Header → Json → Except String String
  verify : String → Option Json
  verify_sign : ∀ {header claims token}, sign header claims = .ok token →
    verify token = some claims

/-- What `decode` checks on the claims of a genuine token. -/
structure Validation where
  issuer : String
  audience : String
  leeway : Nat

def Validation.accepts (validation : Validation) (iss aud : String) (exp now : Nat) : Bool :=
  iss == validation.issuer && aud == validation.audience &&
    decide (now ≤ exp + validation.leeway)

theorem Validation.accepts_iff (validation : Validation) (iss aud : String) (exp now : Nat) :
    validation.accepts iss aud exp now = true ↔
      iss = validation.issuer ∧ aud = validation.audience ∧ now ≤ exp + validation.leeway := by
  simp [accepts, and_assoc]

structure JwtIssuer where
  issuer : String
  keys : RsaKeyPair
  kid : String

namespace JwtIssuer

/-- The header of both kinds of token. -/
def header (issuer : JwtIssuer) : Header := { alg := .rs256, kid := some issuer.kid }

def encode (issuer : JwtIssuer) (claims : Json) : Outcome JwtError String :=
  (Outcome.ofExcept (issuer.keys.sign issuer.header claims)).mapError .jwt

/-- `audience` is the client's id. -/
def issueIdToken (platform : Platform) (issuer : JwtIssuer) (subject audience : String)
    (groups : List String) (nonce : Option String) (ttl : Duration) (clock : SystemTime) :
    Outcome JwtError String := do
  let now := clock.epochSecs
  let exp ← addU64 platform.overflowChecks now ttl.asSecs
  let claims : IdTokenClaims := {
    iss := issuer.issuer
    sub := subject
    aud := audience
    exp := exp
    iat := now
    nonce := nonce
    groups := some groups }
  issuer.encode claims.toJson

def issueAccessToken (platform : Platform) (issuer : JwtIssuer) (subject clientId : String)
    (groups scope : List String) (jti : String) (ttl : Duration) (clock : SystemTime) :
    Outcome JwtError String := do
  let now := clock.epochSecs
  let exp ← addU64 platform.overflowChecks now ttl.asSecs
  let claims : AccessTokenClaims := {
    iss := issuer.issuer
    sub := subject
    aud := issuer.issuer
    exp := exp
    iat := now
    jti := jti
    scope := scope
    groups := groups
    clientId := clientId }
  issuer.encode claims.toJson

/-- The claims of a genuine access token. -/
def accessTokenClaims (issuer : JwtIssuer) (token : String) : Option AccessTokenClaims :=
  (issuer.keys.verify token).bind AccessTokenClaims.fromJson

/-- The claims of a genuine ID token. -/
def idTokenClaims (issuer : JwtIssuer) (token : String) : Option IdTokenClaims :=
  (issuer.keys.verify token).bind IdTokenClaims.fromJson

def verifyAccessToken (issuer : JwtIssuer) (token : String) (clock : SystemTime) :
    Option AccessTokenClaims := do
  let validation : Validation := {
    issuer := issuer.issuer
    audience := issuer.issuer
    leeway := 5 }
  let claims ← issuer.accessTokenClaims token
  if validation.accepts claims.iss claims.aud claims.exp clock.epochSecs then some claims else none

def verifyIdToken (issuer : JwtIssuer) (token expectedAudience : String) (clock : SystemTime) :
    Option IdTokenClaims := do
  let validation : Validation := {
    issuer := issuer.issuer
    audience := expectedAudience
    leeway := 5 }
  let claims ← issuer.idTokenClaims token
  if validation.accepts claims.iss claims.aud claims.exp clock.epochSecs then some claims else none

variable {platform : Platform} {issuer : JwtIssuer} {subject audience clientId jti token : String}
  {groups scope : List String} {nonce : Option String} {ttl : Duration} {clock : SystemTime}

theorem verify_of_encode {claims : Json} (encoded : issuer.encode claims = .ok token) :
    issuer.keys.verify token = some claims :=
  issuer.keys.verify_sign
    (Outcome.ofExcept_eq_ok_iff.mp (Outcome.mapError_eq_ok_iff.mp encoded))

/-- What an issued ID token says. -/
theorem idTokenClaims_of_issueIdToken
    (issued : issueIdToken platform issuer subject audience groups nonce ttl clock = .ok token) :
    ∃ exp, (addU64 platform.overflowChecks clock.epochSecs ttl.asSecs :
        Outcome JwtError Nat) = .ok exp ∧
      issuer.idTokenClaims token = some {
        iss := issuer.issuer
        sub := subject
        aud := audience
        exp := exp
        iat := clock.epochSecs
        nonce := nonce
        groups := some groups } := by
  obtain ⟨exp, added, encoded⟩ := Outcome.bind_eq_ok_iff.mp issued
  refine ⟨exp, added, ?_⟩
  rw [idTokenClaims, verify_of_encode encoded, Option.bind_some]
  exact IdTokenClaims.fromJson_toJson (isU64_of_addU64 added) clock.isU64_epochSecs

/-- An ID token cannot be read as an access token. -/
theorem accessTokenClaims_of_issueIdToken
    (issued : issueIdToken platform issuer subject audience groups nonce ttl clock = .ok token) :
    issuer.accessTokenClaims token = none := by
  obtain ⟨exp, -, encoded⟩ := Outcome.bind_eq_ok_iff.mp issued
  simp [accessTokenClaims, verify_of_encode encoded, AccessTokenClaims.fromJson_idTokenClaims]

/-- What an issued access token says. -/
theorem accessTokenClaims_of_issueAccessToken
    (issued : issueAccessToken platform issuer subject clientId groups scope jti ttl clock =
      .ok token) :
    ∃ exp, (addU64 platform.overflowChecks clock.epochSecs ttl.asSecs :
        Outcome JwtError Nat) = .ok exp ∧
      issuer.accessTokenClaims token = some {
        iss := issuer.issuer
        sub := subject
        aud := issuer.issuer
        exp := exp
        iat := clock.epochSecs
        jti := jti
        scope := scope
        groups := groups
        clientId := clientId } := by
  obtain ⟨exp, added, encoded⟩ := Outcome.bind_eq_ok_iff.mp issued
  refine ⟨exp, added, ?_⟩
  rw [accessTokenClaims, verify_of_encode encoded, Option.bind_some]
  exact AccessTokenClaims.fromJson_toJson (isU64_of_addU64 added) clock.isU64_epochSecs

/-- Read as an ID token, an access token is one for the issuer itself. -/
theorem idTokenClaims_of_issueAccessToken
    (issued : issueAccessToken platform issuer subject clientId groups scope jti ttl clock =
      .ok token) :
    ∃ exp, (addU64 platform.overflowChecks clock.epochSecs ttl.asSecs :
        Outcome JwtError Nat) = .ok exp ∧
      issuer.idTokenClaims token = some {
        iss := issuer.issuer
        sub := subject
        aud := issuer.issuer
        exp := exp
        iat := clock.epochSecs
        nonce := none
        groups := some groups } := by
  obtain ⟨exp, added, encoded⟩ := Outcome.bind_eq_ok_iff.mp issued
  refine ⟨exp, added, ?_⟩
  rw [idTokenClaims, verify_of_encode encoded, Option.bind_some]
  exact IdTokenClaims.fromJson_accessTokenClaims (isU64_of_addU64 added) clock.isU64_epochSecs

/-! ## Verification -/

theorem verifyAccessToken_eq_some_iff {claims : AccessTokenClaims} :
    issuer.verifyAccessToken token clock = some claims ↔
      issuer.accessTokenClaims token = some claims ∧ claims.iss = issuer.issuer ∧
        claims.aud = issuer.issuer ∧ clock.epochSecs ≤ claims.exp + 5 := by
  have filtered : issuer.verifyAccessToken token clock =
      (issuer.accessTokenClaims token).filter fun claims =>
        Validation.accepts ⟨issuer.issuer, issuer.issuer, 5⟩ claims.iss claims.aud claims.exp
          clock.epochSecs :=
    Option.bind_guard _ _
  rw [filtered, Option.filter_eq_some_iff, Validation.accepts_iff]

theorem verifyIdToken_eq_some_iff {claims : IdTokenClaims} :
    issuer.verifyIdToken token audience clock = some claims ↔
      issuer.idTokenClaims token = some claims ∧ claims.iss = issuer.issuer ∧
        claims.aud = audience ∧ clock.epochSecs ≤ claims.exp + 5 := by
  have filtered : issuer.verifyIdToken token audience clock =
      (issuer.idTokenClaims token).filter fun claims =>
        Validation.accepts ⟨issuer.issuer, audience, 5⟩ claims.iss claims.aud claims.exp
          clock.epochSecs :=
    Option.bind_guard _ _
  rw [filtered, Option.filter_eq_some_iff, Validation.accepts_iff]

end JwtIssuer

end OpenidTlsConnector
