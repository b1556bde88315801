import OpenidTlsConnector.Foundations.Base64
import OpenidTlsConnector.Foundations.Cbor
import OpenidTlsConnector.Foundations.Outcome
import OpenidTlsConnector.Foundations.Time
import OpenidTlsConnector.Foundations.Url

/-!
# What the server is built against

The crates the server calls are parameters of every definition that uses
them: the three base64 engines, the CBOR codec, the BLAKE3 and SHA-256
digests, the URL library, the Unicode case table, and whether integer
arithmetic is compiled with overflow checks.
-/

namespace OpenidTlsConnector

open Foundations

abbrev Bytes32 := { bytes : List UInt8 // bytes.length = 32 }

structure Platform where
  /-- `URL_SAFE`, with padding. -/
  urlSafe : Base64.Engine
  /-- `URL_SAFE_NO_PAD`. -/
  urlSafeNoPad : Base64.Engine
  /-- `STANDARD`, with padding. -/
  standard : Base64.Engine
  /-- `ciborium`. -/
  cbor : Cbor.Codec
  /-- `blake3::keyed_hash`. -/
  keyedHash : Bytes32 → List UInt8 → Bytes32
  /-- `blake3::hash`. -/
  hash : List UInt8 → Bytes32
  /-- `Sha256::digest`. -/
  sha256 : List UInt8 → Bytes32
  /-- `url::Url`. -/
  url : UrlLibrary
  /-- `char::to_uppercase`. -/
  uppercase : Text.UppercaseMapping
  overflowChecks : Bool

end OpenidTlsConnector
