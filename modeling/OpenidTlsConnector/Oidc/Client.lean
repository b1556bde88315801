import Mathlib.Data.List.Forall2
import Mathlib.Data.List.Nodup
import OpenidTlsConnector.Platform

/-!
# Registered clients

The registry is the list of configured clients.  Its constructor refuses a
repeated `client_id`, so a registry carries the distinctness of its ids, and
the first entry with an id is the only one.
-/

namespace OpenidTlsConnector

open Foundations

inductive AuthResult where
  | allow
  | deny
  deriving DecidableEq

structure ClientConfig where
  clientId : String
  /-- `none` for public clients, a secret for confidential ones. -/
  clientSecret : Option String
  redirectUris : List String
  groups : List String
  deriving DecidableEq

inductive ClientRegistryError where
  | duplicateClientId (clientId : String)
  deriving DecidableEq

structure ClientRegistry where
  clients : List ClientConfig
  distinct : (clients.map ClientConfig.clientId).Nodup

namespace ClientRegistry

/-- The loop of `new`: the first id that was seen before. -/
def repeatedClientId (seen : List String) : List ClientConfig → Option String
  | [] => none
  | client :: rest =>
      if client.clientId ∈ seen then some client.clientId
      else repeatedClientId (client.clientId :: seen) rest

theorem repeatedClientId_eq_none_iff (seen : List String) (clients : List ClientConfig) :
    repeatedClientId seen clients = none ↔
      (clients.map ClientConfig.clientId).Nodup ∧ ∀ client ∈ clients, client.clientId ∉ seen := by
  induction clients generalizing seen with
  | nil => simp [repeatedClientId]
  | cons client rest inductionHypothesis =>
      by_cases known : client.clientId ∈ seen
      · simp [repeatedClientId, known]
      · simp only [repeatedClientId, known, if_false, inductionHypothesis, List.mem_cons, not_or,
          List.map_cons, List.nodup_cons, List.mem_map, not_exists, not_and, forall_eq_or_imp,
          not_false_eq_true, true_and]
        constructor
        · rintro ⟨nodup, fresh⟩
          exact ⟨⟨fun other membership => (fresh other membership).1, nodup⟩,
            fun other membership => (fresh other membership).2⟩
        · rintro ⟨⟨fresh, nodup⟩, unseen⟩
          exact ⟨nodup, fun other membership => ⟨fresh other membership, unseen other membership⟩⟩

def new (clients : List ClientConfig) : Except ClientRegistryError ClientRegistry :=
  match found : repeatedClientId [] clients with
  | some clientId => .error (.duplicateClientId clientId)
  | none => .ok ⟨clients, ((repeatedClientId_eq_none_iff [] clients).mp found).1⟩

/-- Every registry is one the constructor accepts. -/
theorem new_clients (registry : ClientRegistry) : new registry.clients = .ok registry := by
  have noDuplicate : repeatedClientId [] registry.clients = none :=
    (repeatedClientId_eq_none_iff [] registry.clients).mpr ⟨registry.distinct, by simp⟩
  unfold new
  split
  · rename_i found
    rw [noDuplicate] at found
    cases found
  · rfl

def findById (registry : ClientRegistry) (clientId : String) : Option ClientConfig :=
  registry.clients.find? fun client => client.clientId == clientId

theorem clientId_of_findById {registry : ClientRegistry} {clientId : String}
    {client : ClientConfig} (found : registry.findById clientId = some client) :
    client.clientId = clientId := by
  simpa using List.find?_some found

/-- A registered client is the one its id finds. -/
theorem findById_of_mem {registry : ClientRegistry} {client : ClientConfig}
    (registered : client ∈ registry.clients) :
    registry.findById client.clientId = some client := by
  obtain ⟨found, isFound⟩ : ∃ found, registry.findById client.clientId = some found :=
    Option.isSome_iff_exists.mp (List.find?_isSome.mpr ⟨client, registered, by simp⟩)
  rw [isFound, List.inj_on_of_nodup_map registry.distinct (List.mem_of_find?_eq_some isFound)
    registered (clientId_of_findById isFound)]

def validateRedirectUri (registry : ClientRegistry) (clientId redirectUri : String) : Bool :=
  ((registry.findById clientId).map fun client => client.redirectUris.any (· == redirectUri)).getD
    false

theorem validateRedirectUri_iff (registry : ClientRegistry) (clientId redirectUri : String) :
    registry.validateRedirectUri clientId redirectUri = true ↔
      ∃ client, registry.findById clientId = some client ∧
        redirectUri ∈ client.redirectUris := by
  cases found : registry.findById clientId <;> simp [validateRedirectUri, found]

end ClientRegistry

/-! ## Secrets -/

/-- Lengths first, then every difference folded into one byte. -/
def constantTimeEq (first second : List UInt8) : Bool :=
  if first.length ≠ second.length then false
  else (first.zip second).foldl (fun diff (x, y) => diff ||| (x ^^^ y)) 0 == 0

/-- A difference, once folded in, is never cancelled. -/
theorem foldl_diff_eq_zero_iff (pairs : List (UInt8 × UInt8)) (diff : UInt8) :
    pairs.foldl (fun diff (x, y) => diff ||| (x ^^^ y)) diff = 0 ↔
      diff = 0 ∧ ∀ pair ∈ pairs, pair.1 = pair.2 := by
  induction pairs generalizing diff with
  | nil => simp
  | cons pair rest inductionHypothesis =>
      simp [inductionHypothesis, UInt8.or_eq_zero_iff, and_assoc]

/-- Sequences of one length are zipped entirely. -/
theorem eq_iff_forall_mem_zip (first second : List UInt8) :
    first = second ↔
      first.length = second.length ∧ ∀ pair ∈ first.zip second, pair.1 = pair.2 := by
  rw [← List.forall₂_eq_eq_eq, List.forall₂_iff_zip, Prod.forall]

theorem constantTimeEq_iff (first second : List UInt8) :
    constantTimeEq first second = true ↔ first = second := by
  rw [constantTimeEq, eq_iff_forall_mem_zip]
  by_cases lengths : first.length = second.length
  · rw [if_neg (not_not_intro lengths), beq_iff_eq, foldl_diff_eq_zero_iff]
    exact ⟨fun equal => ⟨lengths, equal.2⟩, fun equal => ⟨rfl, equal.2⟩⟩
  · rw [if_pos lengths]
    exact iff_of_false Bool.false_ne_true fun equal => lengths equal.1

namespace ClientRegistry

def validateClientSecret (registry : ClientRegistry) (clientId : String)
    (presentedSecret : Option String) : AuthResult :=
  match registry.findById clientId with
  | some client =>
      match client.clientSecret with
      | none => .allow
      | some expected =>
          match presentedSecret with
          | some given =>
              if constantTimeEq (Text.utf8 expected) (Text.utf8 given) then .allow else .deny
          | none => .deny
  | none => .deny

/-- A registered client passes if it is public or presents its own secret. -/
theorem validateClientSecret_eq_allow_iff (registry : ClientRegistry) (clientId : String)
    (presentedSecret : Option String) :
    registry.validateClientSecret clientId presentedSecret = .allow ↔
      ∃ client, registry.findById clientId = some client ∧
        (client.clientSecret = none ∨
          ∃ secret, client.clientSecret = some secret ∧ presentedSecret = some secret) := by
  unfold validateClientSecret
  cases found : registry.findById clientId with
  | none => simp
  | some client =>
      cases configured : client.clientSecret with
      | none => simp [configured]
      | some expected =>
          cases presentedSecret with
          | none => simp [configured]
          | some given =>
              simp only [constantTimeEq_iff, Text.utf8_injective.eq_iff, configured,
                Option.some.injEq, reduceCtorEq, false_or, exists_eq_left']
              by_cases same : expected = given <;> simp [same, eq_comm]

/-- A registered client is refused if it has a secret and does not present it. -/
theorem validateClientSecret_eq_deny_iff {registry : ClientRegistry} {clientId : String}
    {client : ClientConfig} (found : registry.findById clientId = some client)
    (presentedSecret : Option String) :
    registry.validateClientSecret clientId presentedSecret = .deny ↔
      ∃ expected, client.clientSecret = some expected ∧ presentedSecret ≠ some expected := by
  have allowed := registry.validateClientSecret_eq_allow_iff clientId presentedSecret
  simp only [found, Option.some.injEq, exists_eq_left'] at allowed
  constructor
  · intro denied
    have refused : ¬ _ := mt allowed.mpr (by simp [denied])
    obtain ⟨confidential, lacks⟩ := not_or.mp refused
    obtain ⟨expected, configured⟩ := Option.ne_none_iff_exists'.mp confidential
    exact ⟨expected, configured, fun presented => lacks ⟨expected, configured, presented⟩⟩
  · rintro ⟨expected, configured, lacks⟩
    cases result : registry.validateClientSecret clientId presentedSecret with
    | deny => rfl
    | allow =>
        rcases allowed.mp result with isPublic | ⟨secret, same, presented⟩
        · cases configured.symm.trans isPublic
        · cases configured.symm.trans same
          exact absurd presented lacks

end ClientRegistry

end OpenidTlsConnector
