import OpenidTlsConnector.Oidc.Router

/-!
# Starting the server

`main` turns the configuration into the shared state.  The signing key has
been read and parsed: it arrives as a key pair with its `kid`.
-/

namespace OpenidTlsConnector

open Foundations

structure Config where
  issuer : String
  codeMaxAgeSeconds : UInt64
  codeHmacKey : String
  userHeader : String
  dnAttribute : String
  idTokenTtlSeconds : UInt64
  accessTokenTtlSeconds : UInt64
  clients : List ClientConfig
  defaultGroups : List String

/-! ## The MAC key -/

def hexDigit? (char : Char) : Option Nat :=
  if '0' ≤ char ∧ char ≤ '9' then some (char.toNat - '0'.toNat)
  else if 'a' ≤ char ∧ char ≤ 'f' then some (char.toNat - 'a'.toNat + 10)
  else if 'A' ≤ char ∧ char ≤ 'F' then some (char.toNat - 'A'.toNat + 10)
  else none

/-- `u8::from_str_radix(_, 16)`: an optional plus sign, then at least one digit,
without overflow. -/
def u8FromHex (src : String) : Option UInt8 := do
  let digits := match src.toList with
    | '+' :: rest => rest
    | digits => digits
  guard (digits ≠ [])
  let values ← digits.mapM hexDigit?
  let value := values.foldl (fun value digit => value * 16 + digit) 0
  if value < 256 then some (.ofNat value) else none

/-- The loop of `hex_to_32_bytes`, which stops at the first pair that is no
number. -/
def hexPairs (hex : String) : (count : Nat) → (i : Nat) → Outcome Unit (List UInt8)
  | 0, _ => .ok []
  | count + 1, i => do
      let pair ← Outcome.expect (Text.slice hex (i * 2) (i * 2 + 2))
      let byte ← Outcome.okOr (u8FromHex pair) ()
      let rest ← hexPairs hex count (i + 1)
      return byte :: rest

theorem length_of_hexPairs {hex : String} {count i : Nat} {bytes : List UInt8}
    (read : hexPairs hex count i = .ok bytes) : bytes.length = count := by
  induction count generalizing i bytes with
  | zero =>
      cases read
      rfl
  | succ count inductionHypothesis =>
      simp only [hexPairs, Outcome.bind_eq_ok_iff, Outcome.pure_eq, Outcome.ok.injEq] at read
      obtain ⟨_, -, byte, -, rest, tail, rfl⟩ := read
      simp [inductionHypothesis tail]

/-- The error stands for the source's `None`. -/
def hexTo32Bytes (hex : String) : Outcome Unit Bytes32 :=
  if (Text.utf8 hex).length ≠ 64 then .error ()
  else
    match read : hexPairs hex 32 0 with
    | .ok bytes => .ok ⟨bytes, length_of_hexPairs read⟩
    | .error () => .error ()
    | .panic => .panic

/-! ## The shared state -/

inductive StartupError where
  | clientRegistry (error : ClientRegistryError)
  | issuer (error : String)
  deriving DecidableEq

/-- `main` up to the router.  A MAC key that is not 64 hexadecimal digits is a
panic, and so is an issuer that no endpoint can be joined to. -/
def main (platform : Platform) (config : Config) (keys : RsaKeyPair) (kid : String) :
    Outcome StartupError AppState := do
  let hmacKeyBytes ← (hexTo32Bytes config.codeHmacKey).orPanic
  let jwtIssuer : JwtIssuer := { issuer := config.issuer, keys := keys, kid := kid }
  let clientRegistry ← (Outcome.ofExcept (ClientRegistry.new config.clients)).mapError
    .clientRegistry
  let issuerUrl ← (Outcome.ofExcept (platform.url.parse config.issuer)).mapError .issuer
  let discoveryManager ← Outcome.expect (DiscoveryManager.new platform issuerUrl .default)
  return {
    flow := { codeMaxAge := .fromSecs config.codeMaxAgeSeconds, hmacKey := hmacKeyBytes }
    jwtIssuer := jwtIssuer
    clients := clientRegistry
    userManager := { dnAttribute := config.dnAttribute }
    discoveryManager := discoveryManager
    userHeader := config.userHeader
    idTokenTtl := .fromSecs config.idTokenTtlSeconds
    accessTokenTtl := .fromSecs config.accessTokenTtlSeconds
    defaultGroups := config.defaultGroups }

/-- What a server that starts has come through, and the state it starts in. -/
theorem main_eq_ok_iff {platform : Platform} {config : Config} {keys : RsaKeyPair} {kid : String}
    {state : AppState} :
    main platform config keys kid = .ok state ↔
      ∃ hmacKeyBytes clientRegistry issuerUrl discovery,
        hexTo32Bytes config.codeHmacKey = .ok hmacKeyBytes ∧
        ClientRegistry.new config.clients = .ok clientRegistry ∧
        platform.url.parse config.issuer = .ok issuerUrl ∧
        discoveryInfo platform issuerUrl .default = some discovery ∧
        state = {
          flow := { codeMaxAge := .fromSecs config.codeMaxAgeSeconds, hmacKey := hmacKeyBytes }
          jwtIssuer := { issuer := config.issuer, keys := keys, kid := kid }
          clients := clientRegistry
          userManager := { dnAttribute := config.dnAttribute }
          discoveryManager := { discovery := discovery }
          userHeader := config.userHeader
          idTokenTtl := .fromSecs config.idTokenTtlSeconds
          accessTokenTtl := .fromSecs config.accessTokenTtlSeconds
          defaultGroups := config.defaultGroups } := by
  simp only [main, Outcome.bind_eq_ok_iff, Outcome.orPanic_eq_ok_iff, Outcome.mapError_eq_ok_iff,
    Outcome.ofExcept_eq_ok_iff, Outcome.expect_eq_ok_iff, DiscoveryManager.new,
    Option.map_eq_some_iff, Outcome.pure_eq, Outcome.ok.injEq]
  constructor
  · rintro ⟨hmacKeyBytes, read, clientRegistry, registered, issuerUrl, parsed, _,
      ⟨discovery, built, rfl⟩, rfl⟩
    exact ⟨hmacKeyBytes, clientRegistry, issuerUrl, discovery, read, registered, parsed, built, rfl⟩
  · rintro ⟨hmacKeyBytes, clientRegistry, issuerUrl, discovery, read, registered, parsed, built, rfl⟩
    exact ⟨hmacKeyBytes, read, clientRegistry, registered, issuerUrl, parsed, _,
      ⟨discovery, built, rfl⟩, rfl⟩

end OpenidTlsConnector
