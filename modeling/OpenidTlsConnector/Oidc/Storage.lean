import Mathlib.Data.Finset.Insert
import Mathlib.Logic.Function.Basic
import OpenidTlsConnector.Foundations.Time

/-!
# The token store

Two maps, each behind a lock of its own: the records of issued access tokens
by `jti`, and the keys of consumed authorization codes, whose values carry
nothing.  Every operation is one critical section.
-/

namespace OpenidTlsConnector

open Foundations

structure TokenRecord where
  subject : String
  clientId : String
  scope : List String
  groups : List String
  expiresAt : SystemTime
  jti : String
  deriving DecidableEq

structure InMemoryTokenStore where
  records : String → Option TokenRecord
  consumedCodes : Finset String

namespace InMemoryTokenStore

def new : InMemoryTokenStore := { records := fun _ => none, consumedCodes := ∅ }

def issue (store : InMemoryTokenStore) (jti subject clientId : String)
    (scope groups : List String) (expiresAt : SystemTime) : InMemoryTokenStore :=
  let record : TokenRecord := {
    subject := subject
    clientId := clientId
    scope := scope
    groups := groups
    expiresAt := expiresAt
    jti := jti }
  { store with records := Function.update store.records jti (some record) }

def lookup (store : InMemoryTokenStore) (jti : String) : Option TokenRecord := store.records jti

/-- Tells whether a record was removed. -/
def revoke (store : InMemoryTokenStore) (jti : String) : Bool × InMemoryTokenStore :=
  ((store.records jti).isSome, { store with records := Function.update store.records jti none })

/-- Tells whether this is the first time; the key is in the map afterwards
either way. -/
def consumeCode (store : InMemoryTokenStore) (codeKey : String) : Bool × InMemoryTokenStore :=
  (decide (codeKey ∉ store.consumedCodes),
    { store with consumedCodes := insert codeKey store.consumedCodes })

variable (store : InMemoryTokenStore)

@[simp]
theorem new_records (jti : String) : new.records jti = none := rfl

@[simp]
theorem new_consumedCodes : new.consumedCodes = ∅ := rfl

@[simp]
theorem issue_consumedCodes (jti subject clientId : String) (scope groups : List String)
    (expiresAt : SystemTime) :
    (store.issue jti subject clientId scope groups expiresAt).consumedCodes =
      store.consumedCodes := rfl

@[simp]
theorem revoke_consumedCodes (jti : String) :
    (store.revoke jti).2.consumedCodes = store.consumedCodes := rfl

@[simp]
theorem consumeCode_records (codeKey : String) :
    (store.consumeCode codeKey).2.records = store.records := rfl

@[simp]
theorem consumeCode_consumedCodes (codeKey : String) :
    (store.consumeCode codeKey).2.consumedCodes = insert codeKey store.consumedCodes := rfl

theorem consumeCode_fst_iff (codeKey : String) :
    (store.consumeCode codeKey).1 = true ↔ codeKey ∉ store.consumedCodes := by
  simp [consumeCode]

/-- Consuming a second time changes nothing. -/
theorem consumeCode_of_mem {store : InMemoryTokenStore} {codeKey : String}
    (used : codeKey ∈ store.consumedCodes) : store.consumeCode codeKey = (false, store) := by
  simp [consumeCode, used]

theorem consumeCode_of_notMem {store : InMemoryTokenStore} {codeKey : String}
    (unused : codeKey ∉ store.consumedCodes) :
    store.consumeCode codeKey = (true, (store.consumeCode codeKey).2) :=
  Prod.ext ((store.consumeCode_fst_iff codeKey).mpr unused) rfl

/-- Only the record under the revoked `jti` goes. -/
theorem revoke_records_eq_some_iff {jti revoked : String} {record : TokenRecord} :
    (store.revoke revoked).2.records jti = some record ↔
      jti ≠ revoked ∧ store.records jti = some record := by
  by_cases same : jti = revoked <;> simp [revoke, same]

end InMemoryTokenStore

end OpenidTlsConnector
