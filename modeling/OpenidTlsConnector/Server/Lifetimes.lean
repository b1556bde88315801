import OpenidTlsConnector.Reference.Exchange

/-!
# Token lifetimes

A lifetime is added to the clock twice: to its whole seconds in 64 unsigned
bits, and to the instant itself, whose seconds have 64 signed bits.  The first
sum always fits.  The second one stops the server after the code is consumed.
-/

namespace OpenidTlsConnector

open Foundations OIDCAuthCodePKCEFlow

/-- A TOML integer that is not negative. -/
def IsTomlInteger (value : UInt64) : Prop := value.toNat < 2 ^ 63

instance (value : UInt64) : Decidable (IsTomlInteger value) :=
  inferInstanceAs (Decidable (value.toNat < 2 ^ 63))

/-- The seconds from 1970 to the end of the year 9999. -/
def secondsThrough9999 : Nat := 253402300800

/-- Between the year 1970 and the year 9999. -/
def InCalendar (instant : SystemTime) : Prop :=
  0 ≤ instant.nanos ∧ instant.nanos < secondsThrough9999 * nanosPerSecond

instance (instant : SystemTime) : Decidable (InCalendar instant) :=
  inferInstanceAs (Decidable (_ ∧ _))

/-- Both expiry times fit their representations, and the redemption ends. -/
structure NeverAborts (platform : Platform) (state : AppState) (req : AccessTokenRequest)
    (readings : Readings) (store : InMemoryTokenStore) : Prop where
  idToken : IsU64 (readings.idTokenAt.epochSecs + state.idTokenTtl.asSecs)
  accessToken : IsU64 (readings.accessTokenAt.epochSecs + state.accessTokenTtl.asSecs)
  record : ∃ expiresAt, readings.recordedAt.checkedAdd state.accessTokenTtl = some expiresAt
  ends : (state.flow.accessTokenRequest platform state.tokenContext req readings store).1 ≠ .panic

section

variable {platform : Platform} {config : Config} {keys : RsaKeyPair} {kid : String}
  {state : AppState} {req : AccessTokenRequest} {readings : Readings}
  {store : InMemoryTokenStore} {authCode : AuthorizationCode}

/-- The lifetimes of a server are the configured ones. -/
theorem lifetimes_of_main (started : main platform config keys kid = .ok state) :
    state.idTokenTtl = .fromSecs config.idTokenTtlSeconds ∧
      state.accessTokenTtl = .fromSecs config.accessTokenTtlSeconds := by
  obtain ⟨_, _, _, _, -, -, -, -, rfl⟩ := main_eq_ok_iff.mp started
  exact ⟨rfl, rfl⟩

/-- The sum of seconds fits with a wide margin. -/
theorem isU64_expiry {instant : SystemTime} {seconds : UInt64} (inCalendar : InCalendar instant)
    (admitted : IsTomlInteger seconds) :
    IsU64 (instant.epochSecs + (Duration.fromSecs seconds).asSecs) := by
  have early := SystemTime.epochSecs_lt (by decide : 0 < secondsThrough9999) inCalendar.2
  rw [Duration.asSecs_fromSecs]
  simp only [IsTomlInteger, IsU64, secondsThrough9999] at *
  omega

/-- The server can stop after the code is consumed. -/
theorem exists_aborted
    (checked : state.flow.checkTokenRequest platform state.clients req readings.verifiedAt =
      .ok authCode)
    (unused : codeReplayKey platform req.code ∉ store.consumedCodes)
    (signed : ∃ tokens, signTokens platform state.tokenContext req.clientId authCode readings =
      .ok tokens)
    (outOfRange : readings.recordedAt.checkedAdd state.accessTokenTtl = none) :
    ∃ left, state.flow.accessTokenRequest platform state.tokenContext req readings store =
        (.panic, left) ∧
      codeReplayKey platform req.code ∈ left.consumedCodes := by
  obtain ⟨tokens, signed⟩ := signed
  have ending := accessTokenRequest_redemption platform state.flow state.tokenContext req readings
    store
  generalize state.flow.accessTokenRequest platform state.tokenContext req readings store = result
    at ending
  cases ending with
  | aborted =>
      refine ⟨_, rfl, ?_⟩
      rw [InMemoryTokenStore.consumeCode_consumedCodes]
      exact Finset.mem_insert_self _ _
  | refused rejected => cases checked.symm.trans rejected
  | replayed _ used => exact absurd used unused
  | unsigned checked' _ failed =>
      cases checked.symm.trans checked'
      cases signed.symm.trans failed
  | redeemed _ _ _ bounded => cases outOfRange.symm.trans bounded

/-- Behind the check, only the last sum can stop the server. -/
theorem aborts_iff
    (checked : state.flow.checkTokenRequest platform state.clients req readings.verifiedAt =
      .ok authCode)
    (unused : codeReplayKey platform req.code ∉ store.consumedCodes)
    (idFits : IsU64 (readings.idTokenAt.epochSecs + state.idTokenTtl.asSecs))
    (accessFits : IsU64 (readings.accessTokenAt.epochSecs + state.accessTokenTtl.asSecs)) :
    (state.flow.accessTokenRequest platform state.tokenContext req readings store).1 = .panic ↔
      (∃ tokens, signTokens platform state.tokenContext req.clientId authCode readings =
        .ok tokens) ∧ readings.recordedAt.checkedAdd state.accessTokenTtl = none := by
  constructor
  · intro aborted
    have ending := accessTokenRequest_redemption platform state.flow state.tokenContext req readings
      store
    generalize state.flow.accessTokenRequest platform state.tokenContext req readings store = result
      at ending aborted
    cases ending with
    | refused | replayed | unsigned | redeemed => cases aborted
    | aborted checked' _ overflow =>
        cases checked.symm.trans checked'
        rcases overflow with signing | ⟨tokens, signed, outOfRange⟩
        · exact absurd signing (signTokens_ne_panic idFits accessFits)
        · exact ⟨⟨tokens, signed⟩, outOfRange⟩
  · rintro ⟨signed, outOfRange⟩
    obtain ⟨left, stopped, -⟩ := exists_aborted checked unused signed outOfRange
    rw [stopped]

/-- A server never aborts a redemption that passed every check exactly when the
access token's lifetime, counted from the clock, stays below `2 ^ 63` seconds. -/
theorem neverAborts_iff (started : main platform config keys kid = .ok state)
    (idAdmitted : IsTomlInteger config.idTokenTtlSeconds)
    (accessAdmitted : IsTomlInteger config.accessTokenTtlSeconds)
    (idTokenAt : InCalendar readings.idTokenAt) (accessTokenAt : InCalendar readings.accessTokenAt)
    (checked : state.flow.checkTokenRequest platform state.clients req readings.verifiedAt =
      .ok authCode)
    (unused : codeReplayKey platform req.code ∉ store.consumedCodes) :
    NeverAborts platform state req readings store ↔
      readings.recordedAt.nanos + config.accessTokenTtlSeconds.toNat * nanosPerSecond <
        2 ^ 63 * nanosPerSecond := by
  obtain ⟨idTtl, accessTtl⟩ := lifetimes_of_main started
  have idFits : IsU64 (readings.idTokenAt.epochSecs + state.idTokenTtl.asSecs) := by
    rw [idTtl]
    exact isU64_expiry idTokenAt idAdmitted
  have accessFits : IsU64 (readings.accessTokenAt.epochSecs + state.accessTokenTtl.asSecs) := by
    rw [accessTtl]
    exact isU64_expiry accessTokenAt accessAdmitted
  have range := SystemTime.checkedAdd_isSome_iff readings.recordedAt state.accessTokenTtl
  have nanos : (state.accessTokenTtl.nanos : Int) =
      config.accessTokenTtlSeconds.toNat * nanosPerSecond := by
    rw [accessTtl]
    exact Int.natCast_mul _ _
  rw [← nanos, ← range]
  constructor
  · intro never
    exact never.record
  · intro bounded
    refine ⟨idFits, accessFits, bounded, ?_⟩
    intro aborted
    obtain ⟨-, outOfRange⟩ := (aborts_iff checked unused idFits accessFits).mp aborted
    obtain ⟨expiresAt, inRange⟩ := bounded
    cases outOfRange.symm.trans inRange

end

/-! ## The small deployment, with either lifetime -/

namespace Reference

/-- The deployment with another lifetime of its access tokens. -/
def configWithTtl (seconds : UInt64) : Config :=
  { config "https://auth.example.com" with accessTokenTtlSeconds := seconds }

/-- The largest integer that TOML can write. -/
def longestTtl : UInt64 := 9223372036854775807

def stateWithTtl (seconds : UInt64) : AppState :=
  { state with accessTokenTtl := .fromSecs seconds }

theorem main_withTtl (seconds : UInt64) :
    main platform (configWithTtl seconds) keys "kid" = .ok (stateWithTtl seconds) := by
  have parsed : Url.parsePlain "https://auth.example.com" = some issuerUrl := by decide
  exact main_eq_ok_iff.mpr ⟨flow.hmacKey, clients, issuerUrl, discovery, hexTo32Bytes_sample,
    ClientRegistry.new_clients clients, Url.plainLibrary_parse_eq_ok_iff.mpr parsed,
    discoveryInfo_sample, rfl⟩

/-- The public client redeems its code. -/
def publicRedemption : AccessTokenRequest :=
  redeem (code (authorization none "https://app.example/cb") 1700000000) "https://app.example/cb"
    none

theorem checkTokenRequest_public (seconds : UInt64) :
    (stateWithTtl seconds).flow.checkTokenRequest platform (stateWithTtl seconds).clients
      publicRedemption (readings 1700000010 1).verifiedAt =
        .ok ((authorization none "https://app.example/cb").toCode (clock 1700000000)) := by
  have registered : "https://app.example/cb" ∈ publicClient.redirectUris := by decide
  exact checkTokenRequest_sample registered (SignedAuthorizationCode.decode_encode platform _)

theorem publicRedemption_unused :
    codeReplayKey platform publicRedemption.code ∉ InMemoryTokenStore.new.consumedCodes := by
  simp [InMemoryTokenStore.new]

end Reference

theorem neverAborts_sample :
    NeverAborts Reference.platform (Reference.stateWithTtl 3600) Reference.publicRedemption
      (Reference.readings 1700000010 1) .new :=
  (neverAborts_iff (Reference.main_withTtl 3600) (by decide) (by decide) (by decide) (by decide)
    (Reference.checkTokenRequest_public 3600) Reference.publicRedemption_unused).mpr (by decide)

/-- With the longest lifetime that TOML can write, the code is consumed and the
server aborts. -/
theorem aborts_with_longest_ttl :
    main Reference.platform (Reference.configWithTtl Reference.longestTtl) Reference.keys "kid" =
        .ok (Reference.stateWithTtl Reference.longestTtl) ∧
      IsTomlInteger Reference.longestTtl ∧
      InCalendar (Reference.clock 1700000010) ∧
      ¬ NeverAborts Reference.platform (Reference.stateWithTtl Reference.longestTtl)
        Reference.publicRedemption (Reference.readings 1700000010 1) .new ∧
      ∃ left, (Reference.stateWithTtl Reference.longestTtl).flow.accessTokenRequest
          Reference.platform (Reference.stateWithTtl Reference.longestTtl).tokenContext
          Reference.publicRedemption (Reference.readings 1700000010 1) .new = (.panic, left) ∧
        codeReplayKey Reference.platform Reference.publicRedemption.code ∈ left.consumedCodes := by
  have inCalendar : InCalendar (Reference.clock 1700000010) := by decide
  have longest : IsTomlInteger Reference.longestTtl := by decide
  have outOfRange : (Reference.readings 1700000010 1).recordedAt.checkedAdd
      (Reference.stateWithTtl Reference.longestTtl).accessTokenTtl = none := by decide
  have idFits : IsU64 ((Reference.clock 1700000010).epochSecs + (Duration.fromSecs 3600).asSecs) :=
    isU64_expiry inCalendar (by decide)
  have accessFits := isU64_expiry inCalendar longest
  have signed : ∃ tokens, signTokens Reference.platform
      (Reference.stateWithTtl Reference.longestTtl).tokenContext "spa"
      ((Reference.authorization none "https://app.example/cb").toCode (Reference.clock 1700000000))
      (Reference.readings 1700000010 1) = .ok tokens :=
    exists_signTokens (fun _ claims => ⟨Reference.sign claims, rfl⟩) idFits accessFits
  have aborted := exists_aborted (Reference.checkTokenRequest_public Reference.longestTtl)
    Reference.publicRedemption_unused signed outOfRange
  refine ⟨Reference.main_withTtl _, longest, inCalendar, ?_, aborted⟩
  intro never
  obtain ⟨left, stopped, -⟩ := aborted
  apply never.ends
  rw [stopped]

end OpenidTlsConnector
