import OpenidTlsConnector.Reference.Exchange

/-!
# Single use of a code

A code is remembered by the text it was presented as, while it is accepted for
what that text decodes to.  The envelope reader ignores bytes after the
envelope, so one signed payload has many texts, each good for one redemption.
As long as a payload is only ever presented in one spelling, it is redeemed at
most once.
-/

namespace OpenidTlsConnector

open Foundations

/-- The bytes under the MAC in a code string. -/
def SignedData (platform : Platform) (code : String) (data : List UInt8) : Prop :=
  ∃ signed, SignedAuthorizationCode.decode platform code = .ok signed ∧ signed.data = data

/-- A call whose request passes every check before the consumption. -/
def Call.Accepted (platform : Platform) (state : AppState) (call : Call)
    (req : AccessTokenRequest) : Prop :=
  ∃ readings authCode, call.redeems? platform = some (req, readings) ∧
    state.flow.checkTokenRequest platform state.clients req readings.verifiedAt = .ok authCode

theorem Redeemed.accepted {platform : Platform} {state : AppState} {past : List Call}
    {call : Call} {req : AccessTokenRequest} {readings : Readings} {response : TokenResponse}
    (redeemed : Redeemed platform state past call req readings response) :
    call.Accepted platform state req := by
  obtain ⟨authCode, _, _, checked, -⟩ := redeemed.outcome
  exact ⟨readings, authCode, redeemed.requested, checked⟩

/-- Once redeemed, a text is in the map of consumed codes for good. -/
theorem Redeemed.consumed {platform : Platform} {state : AppState} {past : List Call}
    {call : Call} {req : AccessTokenRequest} {readings : Readings} {response : TokenResponse}
    (redeemed : Redeemed platform state past call req readings response) (later : List Call) :
    codeReplayKey platform req.code ∈
      (storeAfter platform state (past ++ call :: later)).consumedCodes := by
  obtain ⟨authCode, tokens, expiresAt, -, -, -, -, -, left⟩ := redeemed.outcome
  have used : codeReplayKey platform req.code ∈
      (storeAfter platform state (past ++ [call])).consumedCodes := by
    rw [left]
    exact Finset.mem_insert_self _ _
  have split : past ++ call :: later = past ++ [call] ++ later := by simp
  rw [split, storeAfter, Machine.after_append]
  exact (preserves_consumed platform state _).after used later

/-- No text is redeemed twice. -/
theorem Redeemed.code_ne {platform : Platform} {state : AppState} {past between : List Call}
    {first second : Call} {firstReq secondReq : AccessTokenRequest}
    {firstReadings secondReadings : Readings} {firstResponse secondResponse : TokenResponse}
    (redeemedFirst : Redeemed platform state past first firstReq firstReadings firstResponse)
    (redeemedSecond : Redeemed platform state (past ++ first :: between) second secondReq
      secondReadings secondResponse) : firstReq.code ≠ secondReq.code := by
  intro same
  obtain ⟨_, _, _, -, unused, -⟩ := redeemedSecond.outcome
  rw [← same] at unused
  exact unused (redeemedFirst.consumed between)

/-! ## Two spellings of one code -/

namespace Reference

def challengedRequest : AuthorizationRequest :=
  authorization (some "verifier") "https://app.example/cb"

/-- The envelope of the sample code. -/
def envelope : List UInt8 :=
  platform.cbor.write (signedCode challengedRequest 1700000000).toItem

def mint : Call := .authorizationRequest challengedRequest (stamps 1700000000)

def firstRedemption : Call := .accessTokenRequest
  (redeem (code challengedRequest 1700000000) "https://app.example/cb" (some "verifier"))
  (readings 1700000010 1)

theorem firstRedemption_redeemed : ∃ response, Redeemed platform state [mint] firstRedemption
    (redeem (code challengedRequest 1700000000) "https://app.example/cb" (some "verifier"))
    (readings 1700000010 1) response := by
  have registered : "https://app.example/cb" ∈ publicClient.redirectUris := by decide
  obtain ⟨tokens, expiresAt, result⟩ := redeem_sample 1 registered
    (SignedAuthorizationCode.decode_encode platform (signedCode challengedRequest 1700000000))
    (by simp : codeReplayKey platform _ ∉ InMemoryTokenStore.new.consumedCodes)
  exact ⟨_, rfl, congrArg Prod.fst result⟩

end Reference

/-! ## At most one redemption -/

end OpenidTlsConnector
