import OpenidTlsConnector.Reference.Exchange

/-!
# Signing a code and reading it back

A code that can be serialized is read back as it was for as long as its stamp
is fresh, and is stale at every other time.  Another key that tags the same
data differently never reads it.
-/

namespace OpenidTlsConnector

open Foundations

/-- The half-open window in which a stamp is fresh. -/
def FreshAt (stampedAt : SystemTime) (maxAge : Duration) (now : SystemTime) : Prop :=
  stampedAt.nanos ≤ now.nanos ∧ now.nanos < stampedAt.nanos + maxAge.nanos

instance (stampedAt : SystemTime) (maxAge : Duration) (now : SystemTime) :
    Decidable (FreshAt stampedAt maxAge now) := inferInstanceAs (Decidable (_ ∧ _))

theorem TimestampedContainer.extract_eq (container : TimestampedContainer) (maxAge : Duration)
    (now : SystemTime) :
    container.extract maxAge now =
      if FreshAt container.timestamp maxAge now then .ok container.content
      else .error .invalidTimestamp := by
  have window := SystemTime.durationSince_lt_iff now container.timestamp maxAge
  by_cases fresh : FreshAt container.timestamp maxAge now
  · rw [if_pos fresh]
    exact (extract_eq_ok_iff _ _ _ _).mpr ⟨rfl, fresh⟩
  · rw [if_neg fresh]
    exact if_neg (mt window.mp fresh)

namespace SignedAuthorizationCode

variable {platform : Platform} {code : AuthorizationCode} {key : MacKey} {issuedAt : SystemTime}
  {data : List UInt8} {encoded : String}

/-- What is encoded is the serialized container with its tag. -/
theorem signAndEncode_eq_some_iff :
    signAndEncode platform code key issuedAt = some encoded ↔
      ∃ data, (TimestampedContainer.new code issuedAt).serialize platform = some data ∧
        encode platform { data := data, signature := platform.keyedHash key data } = encoded := by
  simp [signAndEncode]

/-- Under the key that signed it, only the time decides. -/
theorem decodeAndVerify_signed
    (serialized : (TimestampedContainer.new code issuedAt).serialize platform = some data)
    (maxAge : Duration) (now : SystemTime) :
    decodeAndVerify platform
        (encode platform { data := data, signature := platform.keyedHash key data }) key maxAge
        now =
      if FreshAt issuedAt maxAge now then .ok code else .error .invalidTimestamp := by
  have read := TimestampedContainer.deserialize_of_serialize serialized
  have authentic : Authentic platform key
      { data := data, signature := platform.keyedHash key data } := rfl
  simp only [decodeAndVerify, decode_encode, bind, Except.bind, authentic, if_true, read]
  exact TimestampedContainer.extract_eq _ maxAge now

/-- Under a key with another tag for the data, nothing is read. -/
theorem decodeAndVerify_otherKey {key' : MacKey} {signature : Bytes32}
    (differs : platform.keyedHash key' data ≠ signature) (maxAge : Duration) (now : SystemTime) :
    decodeAndVerify platform (encode platform { data := data, signature := signature }) key' maxAge
      now = .error .invalidSignature := by
  have forged : ¬ Authentic platform key' { data := data, signature := signature } := differs
  simp only [decodeAndVerify, decode_encode, bind, Except.bind, forged, if_false]

/-- Encoding and decoding are inverse inside the window, for every code and
issue time that are not before the epoch. -/
theorem decodeAndVerify_signAndEncode (platform : Platform) (code : AuthorizationCode)
    (key key' : MacKey) (maxAge : Duration) (issuedAt readAt : SystemTime)
    (created : 0 ≤ code.timestamp.nanos) (issued : 0 ≤ issuedAt.nanos) :
    ∃ encoded data,
      signAndEncode platform code key issuedAt = some encoded ∧
      (TimestampedContainer.new code issuedAt).serialize platform = some data ∧
      decodeAndVerify platform encoded key maxAge readAt =
        (if FreshAt issuedAt maxAge readAt then .ok code else .error .invalidTimestamp) ∧
      (platform.keyedHash key' data ≠ platform.keyedHash key data →
        decodeAndVerify platform encoded key' maxAge readAt = .error .invalidSignature) := by
  obtain ⟨data, serialized⟩ := (TimestampedContainer.serialize_isSome_iff platform
    (.new code issuedAt)).mpr ⟨created, issued⟩
  refine ⟨_, data, signAndEncode_eq_some_iff.mpr ⟨data, serialized, rfl⟩, serialized, ?_, ?_⟩
  · exact decodeAndVerify_signed serialized maxAge readAt
  · intro differs
    exact decodeAndVerify_otherKey differs maxAge readAt

/-- A code of the sample exchange, read ten seconds after it was issued. -/
theorem decodeAndVerify_signAndEncode_sample :
    ∃ encoded data,
      signAndEncode Reference.platform ((Reference.authorization none
        "https://app.example/cb").toCode (Reference.clock 1700000000)) Reference.flow.hmacKey
        (Reference.clock 1700000000) = some encoded ∧
      (TimestampedContainer.new ((Reference.authorization none "https://app.example/cb").toCode
        (Reference.clock 1700000000)) (Reference.clock 1700000000)).serialize
        Reference.platform = some data ∧
      decodeAndVerify Reference.platform encoded Reference.flow.hmacKey (.fromSecs 300)
        (Reference.clock 1700000010) =
        (if FreshAt (Reference.clock 1700000000) (.fromSecs 300) (Reference.clock 1700000010) then
          .ok ((Reference.authorization none "https://app.example/cb").toCode
            (Reference.clock 1700000000))
        else .error .invalidTimestamp) ∧
      (Reference.platform.keyedHash Reference.signingSecret data ≠
          Reference.platform.keyedHash Reference.flow.hmacKey data →
        decodeAndVerify Reference.platform encoded Reference.signingSecret (.fromSecs 300)
          (Reference.clock 1700000010) = .error .invalidSignature) :=
  decodeAndVerify_signAndEncode Reference.platform _ Reference.flow.hmacKey
    Reference.signingSecret (.fromSecs 300) _ _ (by decide) (by decide)

/-- A code that says it was made before the epoch cannot be signed. -/
theorem signAndEncode_beforeEpoch :
    ¬ ∃ encoded, signAndEncode Reference.platform ((Reference.authorization none
      "https://app.example/cb").toCode Reference.beforeEpoch) Reference.flow.hmacKey
      .unixEpoch = some encoded := by
  rintro ⟨encoded, signed⟩
  obtain ⟨data, serialized, -⟩ := signAndEncode_eq_some_iff.mp signed
  have after := (TimestampedContainer.serialize_isSome_iff _ _).mp ⟨data, serialized⟩
  exact absurd after.1 (by decide)

end SignedAuthorizationCode

end OpenidTlsConnector
