import OpenidTlsConnector.Oidc.Code.AuthorizationCode

/-!
# Signed containers

A code is stamped with the time of issue, serialized, tagged with a keyed
digest, and the pair is serialized again and written in base64.  Reading goes
the other way, and hands the code out only while the stamp is fresh.
-/

namespace OpenidTlsConnector

open Foundations Foundations.Cbor

abbrev MacKey := Bytes32

structure TimestampedContainer where
  content : AuthorizationCode
  timestamp : SystemTime
  deriving DecidableEq

inductive AuthorizationCodeVerificationError where
  | invalidTimestamp
  | invalidSignature
  | invalidBase64Encoding
  | invalidSignedDataContainerEncoding
  deriving DecidableEq

namespace TimestampedContainer

def new (content : AuthorizationCode) (now : SystemTime) : TimestampedContainer :=
  { content := content, timestamp := now }

def toItem (container : TimestampedContainer) : Option Item := do
  let content ← container.content.toItem
  let timestamp ← serializeSystemTime container.timestamp
  some (.ofFields [("content", content), ("timestamp", timestamp)])

def fromItem (item : Item) : Option TimestampedContainer := do
  let fields ← item.asFields
  let content ← fields.required "content" AuthorizationCode.fromItem
  let timestamp ← fields.required "timestamp" deserializeSystemTime
  some { content := content, timestamp := timestamp }

/-- The bytes under the signature. -/
def serialize (platform : Platform) (container : TimestampedContainer) : Option (List UInt8) :=
  container.toItem.map platform.cbor.write

def deserialize (platform : Platform) (data : List UInt8) : Option TimestampedContainer :=
  (platform.cbor.read data).bind fromItem

theorem fromItem_of_toItem {container : TimestampedContainer} {item : Item}
    (serialized : container.toItem = some item) : fromItem item = some container := by
  simp only [toItem, Option.bind_eq_bind, Option.bind_eq_some_iff] at serialized
  obtain ⟨content, contentMade, timestamp, stamped, made⟩ := serialized
  cases made
  have readContent := AuthorizationCode.fromItem_of_toItem contentMade
  have readStamp := deserializeSystemTime_of_serialize stamped
  simp [fromItem, readContent, readStamp]

theorem deserialize_of_serialize {platform : Platform} {container : TimestampedContainer}
    {data : List UInt8} (serialized : container.serialize platform = some data) :
    deserialize platform data = some container := by
  obtain ⟨item, made, rfl⟩ := Option.map_eq_some_iff.mp serialized
  simp [deserialize, fromItem_of_toItem made]

/-- Serialization fails only for instants before the epoch. -/
theorem serialize_isSome_iff (platform : Platform) (container : TimestampedContainer) :
    (∃ data, container.serialize platform = some data) ↔
      0 ≤ container.content.timestamp.nanos ∧ 0 ≤ container.timestamp.nanos := by
  rw [← serializeSystemTime_isSome_iff, ← serializeSystemTime_isSome_iff]
  cases inner : serializeSystemTime container.content.timestamp <;>
    cases outer : serializeSystemTime container.timestamp <;>
      simp [serialize, toItem, AuthorizationCode.toItem, inner, outer]

/-- Only data younger than `maxAge` comes out; a stamp in the future counts as
stale. -/
def extract (container : TimestampedContainer) (maxAge : Duration) (now : SystemTime) :
    Except AuthorizationCodeVerificationError AuthorizationCode :=
  let fresh :=
    ((now.durationSince container.timestamp).map fun elapsed => decide (elapsed < maxAge)).getD
      false
  if fresh then .ok container.content else .error .invalidTimestamp

theorem extract_eq_ok_iff (container : TimestampedContainer) (maxAge : Duration)
    (now : SystemTime) (code : AuthorizationCode) :
    container.extract maxAge now = .ok code ↔
      container.content = code ∧ container.timestamp.nanos ≤ now.nanos ∧
        now.nanos < container.timestamp.nanos + maxAge.nanos := by
  have window := SystemTime.durationSince_lt_iff now container.timestamp maxAge
  unfold extract
  dsimp only
  split
  · rename_i fresh
    simp [window.mp fresh]
  · rename_i stale
    have outside := mt window.mpr stale
    simp [outside]

end TimestampedContainer

structure SignedAuthorizationCode where
  data : List UInt8
  signature : Bytes32
  deriving DecidableEq

namespace SignedAuthorizationCode

def toItem (signed : SignedAuthorizationCode) : Item :=
  .ofFields [("data", .ofBytes signed.data), ("signature", .ofBytes signed.signature.val)]

def readBytes32 (item : Item) : Option Bytes32 := do
  let content ← item.asBytes
  if sized : content.length = 32 then some ⟨content, sized⟩ else none

def fromItem (item : Item) : Option SignedAuthorizationCode := do
  let fields ← item.asFields
  let data ← fields.required "data" Item.asBytes
  let signature ← fields.required "signature" readBytes32
  some { data := data, signature := signature }

@[simp]
theorem fromItem_toItem (signed : SignedAuthorizationCode) :
    fromItem signed.toItem = some signed := by
  have read : readBytes32 (.ofBytes signed.signature.val) = some signed.signature := by
    simp [readBytes32, signed.signature.property]
  simp [fromItem, toItem, read]

/-- Serialize and write in base64. -/
def encode (platform : Platform) (signed : SignedAuthorizationCode) : String :=
  platform.urlSafe.encode (platform.cbor.write signed.toItem)

/-- Tag the serialized container.  A clock before the epoch makes the
serialization, and with it the call, panic. -/
def signAndEncode (platform : Platform) (authorizationCode : AuthorizationCode)
    (hmacKey : MacKey) (now : SystemTime) : Option String :=
  let timestamped := TimestampedContainer.new authorizationCode now
  (timestamped.serialize platform).map fun data =>
    encode platform { data := data, signature := platform.keyedHash hmacKey data }

/-- What the outer envelope says, before anything about it is checked. -/
def decode (platform : Platform) (encoded : String) :
    Except AuthorizationCodeVerificationError SignedAuthorizationCode :=
  match platform.urlSafe.decode encoded with
  | none => .error .invalidBase64Encoding
  | some serialized =>
      match (platform.cbor.read serialized).bind fromItem with
      | none => .error .invalidSignedDataContainerEncoding
      | some signed => .ok signed

def Authentic (platform : Platform) (hmacKey : MacKey) (signed : SignedAuthorizationCode) : Prop :=
  platform.keyedHash hmacKey signed.data = signed.signature

instance (platform : Platform) (hmacKey : MacKey) (signed : SignedAuthorizationCode) :
    Decidable (Authentic platform hmacKey signed) :=
  inferInstanceAs (Decidable (platform.keyedHash hmacKey signed.data = signed.signature))

def decodeAndVerify (platform : Platform) (encoded : String) (hmacKey : MacKey)
    (maxAge : Duration) (now : SystemTime) :
    Except AuthorizationCodeVerificationError AuthorizationCode := do
  let signed ← decode platform encoded
  if Authentic platform hmacKey signed then
    match TimestampedContainer.deserialize platform signed.data with
    | none => .error .invalidSignedDataContainerEncoding
    | some timestamped => timestamped.extract maxAge now
  else .error .invalidSignature

@[simp]
theorem decode_encode (platform : Platform) (signed : SignedAuthorizationCode) :
    decode platform (encode platform signed) = .ok signed := by
  simp [decode, encode]

theorem decodeAndVerify_eq_ok_iff (platform : Platform) (encoded : String) (hmacKey : MacKey)
    (maxAge : Duration) (now : SystemTime) (code : AuthorizationCode) :
    decodeAndVerify platform encoded hmacKey maxAge now = .ok code ↔
      ∃ signed container, decode platform encoded = .ok signed ∧
        Authentic platform hmacKey signed ∧
        TimestampedContainer.deserialize platform signed.data = some container ∧
        container.content = code ∧ container.timestamp.nanos ≤ now.nanos ∧
        now.nanos < container.timestamp.nanos + maxAge.nanos := by
  unfold decodeAndVerify
  cases envelope : decode platform encoded with
  | error failure => simp [bind, Except.bind]
  | ok signed =>
      by_cases authentic : Authentic platform hmacKey signed
      · cases read : TimestampedContainer.deserialize platform signed.data with
        | none => simp [bind, Except.bind, authentic, read]
        | some container =>
            simp [bind, Except.bind, authentic, read,
              TimestampedContainer.extract_eq_ok_iff]
      · simp [bind, Except.bind, authentic]

/-- A text that decodes to what was signed gives back the signed code, for as
long as the stamp is fresh. -/
theorem decodeAndVerify_of_signed {platform : Platform} {authorizationCode : AuthorizationCode}
    {stampedAt now : SystemTime} {data : List UInt8} {encoded : String} {hmacKey : MacKey}
    {maxAge : Duration}
    (serialized : (TimestampedContainer.new authorizationCode stampedAt).serialize platform =
      some data)
    (decoded : decode platform encoded =
      .ok { data := data, signature := platform.keyedHash hmacKey data })
    (stamped : stampedAt.nanos ≤ now.nanos) (fresh : now.nanos < stampedAt.nanos + maxAge.nanos) :
    decodeAndVerify platform encoded hmacKey maxAge now = .ok authorizationCode :=
  (decodeAndVerify_eq_ok_iff platform encoded hmacKey maxAge now authorizationCode).mpr
    ⟨_, _, decoded, rfl, TimestampedContainer.deserialize_of_serialize serialized, rfl, stamped,
      fresh⟩

end SignedAuthorizationCode

end OpenidTlsConnector
