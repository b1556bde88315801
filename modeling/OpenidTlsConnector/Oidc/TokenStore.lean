import OpenidTlsConnector.Oidc.Storage

/-!
# The store as a trait

The flow and the handlers see the store through four operations.  The trait
says in words what they owe each other; in laws, an access token is found from
its issue to its revocation, and a code key is told to be new once.
-/

namespace OpenidTlsConnector

open Foundations

universe u

/-- The operations, over whatever an implementation keeps. -/
structure TokenStore (Store : Type u) where
  issue : Store → String → String → String → List String → List String → SystemTime → Store
  lookup : Store → String → Option TokenRecord
  revoke : Store → String → Bool × Store
  consumeCode : Store → String → Bool × Store

namespace TokenStore

variable {Store : Type u}

/-- The next consumption of the key would be its first. -/
def Unused (tokens : TokenStore Store) (store : Store) (codeKey : String) : Prop :=
  (tokens.consumeCode store codeKey).1 = true

/-- What the documentation of the trait promises. -/
structure Lawful (tokens : TokenStore Store) : Prop where
  lookup_issue : ∀ store jti subject clientId scope groups expiresAt wanted,
    tokens.lookup (tokens.issue store jti subject clientId scope groups expiresAt) wanted =
      if wanted = jti then some {
        subject := subject
        clientId := clientId
        scope := scope
        groups := groups
        expiresAt := expiresAt
        jti := jti }
      else tokens.lookup store wanted
  unused_issue : ∀ store jti subject clientId scope groups expiresAt codeKey,
    tokens.Unused (tokens.issue store jti subject clientId scope groups expiresAt) codeKey ↔
      tokens.Unused store codeKey
  revoke_fst : ∀ store jti, (tokens.revoke store jti).1 = (tokens.lookup store jti).isSome
  lookup_revoke : ∀ store jti wanted, tokens.lookup (tokens.revoke store jti).2 wanted =
    if wanted = jti then none else tokens.lookup store wanted
  unused_revoke : ∀ store jti codeKey,
    tokens.Unused (tokens.revoke store jti).2 codeKey ↔ tokens.Unused store codeKey
  lookup_consumeCode : ∀ store codeKey wanted,
    tokens.lookup (tokens.consumeCode store codeKey).2 wanted = tokens.lookup store wanted
  unused_consumeCode : ∀ store codeKey wanted,
    tokens.Unused (tokens.consumeCode store codeKey).2 wanted ↔
      wanted ≠ codeKey ∧ tokens.Unused store wanted

/-- Nothing recorded, nothing consumed. -/
structure Empty (tokens : TokenStore Store) (store : Store) : Prop where
  lookup : ∀ jti, tokens.lookup store jti = none
  unused : ∀ codeKey, tokens.Unused store codeKey

end TokenStore

/-! ## In memory -/

/-- The two hash maps behind the locks. -/
structure HashMaps where
  records : Std.HashMap String TokenRecord
  consumedCodes : Std.HashMap String Unit

namespace HashMaps

def new : HashMaps := { records := ∅, consumedCodes := ∅ }

def issue (store : HashMaps) (jti subject clientId : String) (scope groups : List String)
    (expiresAt : SystemTime) : HashMaps :=
  let record : TokenRecord := {
    subject := subject
    clientId := clientId
    scope := scope
    groups := groups
    expiresAt := expiresAt
    jti := jti }
  { store with records := store.records.insert jti record }

def lookup (store : HashMaps) (jti : String) : Option TokenRecord := store.records[jti]?

def revoke (store : HashMaps) (jti : String) : Bool × HashMaps :=
  (store.records[jti]?.isSome, { store with records := store.records.erase jti })

/-- Whether the insertion replaced nothing. -/
def consumeCode (store : HashMaps) (codeKey : String) : Bool × HashMaps :=
  (store.consumedCodes[codeKey]?.isNone,
    { store with consumedCodes := store.consumedCodes.insert codeKey () })

def tokenStore : TokenStore HashMaps where
  issue := issue
  lookup := lookup
  revoke := revoke
  consumeCode := consumeCode

theorem tokenStore_lawful : tokenStore.Lawful where
  lookup_issue store jti _ _ _ _ _ wanted := by
    by_cases same : wanted = jti
    · simp [tokenStore, lookup, issue, same]
    · simp [tokenStore, lookup, issue, Std.HashMap.getElem?_insert, same, Ne.symm same]
  unused_issue _ _ _ _ _ _ _ _ := Iff.rfl
  revoke_fst _ _ := rfl
  lookup_revoke store jti wanted := by
    by_cases same : wanted = jti
    · simp [tokenStore, lookup, revoke, same]
    · simp [tokenStore, lookup, revoke, Std.HashMap.getElem?_erase, same, Ne.symm same]
  unused_revoke _ _ _ := Iff.rfl
  lookup_consumeCode _ _ _ := rfl
  unused_consumeCode store codeKey wanted := by
    by_cases same : wanted = codeKey
    · simp [TokenStore.Unused, tokenStore, consumeCode, same]
    · simp [TokenStore.Unused, tokenStore, consumeCode, Std.HashMap.getElem?_insert, same,
        Ne.symm same]

theorem new_empty : tokenStore.Empty new where
  lookup jti := by simp [tokenStore, lookup, new]
  unused codeKey := by simp [TokenStore.Unused, tokenStore, consumeCode, new]

end HashMaps

end OpenidTlsConnector
