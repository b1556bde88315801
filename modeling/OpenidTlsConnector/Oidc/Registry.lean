import OpenidTlsConnector.Oidc.Client

/-!
# What a registry answers

An answer about a client depends on the entry with its id and on nothing else:
not on where the entry stands, and not on the entries with other ids.  A secret
is accepted if it is the one of that entry in full.
-/

namespace OpenidTlsConnector

open Foundations

namespace ClientRegistry

/-- The three lookups answer alike about one id. -/
structure SameAnswers (registry registry' : ClientRegistry) (clientId : String) : Prop where
  findById : registry.findById clientId = registry'.findById clientId
  validateRedirectUri : ∀ redirectUri,
    registry.validateRedirectUri clientId redirectUri =
      registry'.validateRedirectUri clientId redirectUri
  validateClientSecret : ∀ presentedSecret,
    registry.validateClientSecret clientId presentedSecret =
      registry'.validateClientSecret clientId presentedSecret

variable {registry registry' : ClientRegistry} {clients clients' : List ClientConfig}
  {clientId : String}

/-- The two validations look at the entry that is found. -/
theorem sameAnswers_of_findById (same : registry.findById clientId = registry'.findById clientId) :
    SameAnswers registry registry' clientId where
  findById := same
  validateRedirectUri redirectUri := by
    rw [ClientRegistry.validateRedirectUri, ClientRegistry.validateRedirectUri, same]
  validateClientSecret presentedSecret := by
    rw [ClientRegistry.validateClientSecret, ClientRegistry.validateClientSecret, same]

/-- The entry that is found is the one with the id. -/
theorem findById_eq_some_iff {client : ClientConfig} :
    registry.findById clientId = some client ↔
      client ∈ registry.clients ∧ client.clientId = clientId := by
  constructor
  · intro found
    exact ⟨List.mem_of_find?_eq_some found, clientId_of_findById found⟩
  · rintro ⟨registered, rfl⟩
    exact findById_of_mem registered

/-- Registries whose entries correspond find entries that correspond. -/
theorem findById_of_forall₂ {Corresponds : ClientConfig → ClientConfig → Prop}
    (entries : List.Forall₂
      (fun client client' => client.clientId = client'.clientId ∧ Corresponds client client')
      registry.clients registry'.clients) (clientId : String) :
    Option.Rel Corresponds (registry.findById clientId) (registry'.findById clientId) := by
  rw [findById, findById]
  generalize registry.clients = clients, registry'.clients = clients' at entries ⊢
  induction entries with
  | nil => exact .none
  | @cons client client' rest rest' corresponds _ inductionHypothesis =>
      rw [List.find?_cons, List.find?_cons, ← corresponds.1]
      cases client.clientId == clientId with
      | true => exact .some corresponds.2
      | false => exact inductionHypothesis

theorem clients_of_new (made : new clients = .ok registry) : registry.clients = clients := by
  unfold new at made
  split at made
  · cases made
  · cases made
    rfl

/-- The constructor accepts exactly the lists without repeated ids. -/
theorem new_isOk_iff (clients : List ClientConfig) :
    (∃ registry, new clients = .ok registry) ↔
      (clients.map ClientConfig.clientId).Nodup := by
  constructor
  · rintro ⟨registry, made⟩
    rw [← clients_of_new made]
    exact registry.distinct
  · intro distinct
    exact ⟨⟨clients, distinct⟩, new_clients ⟨clients, distinct⟩⟩

/-- Entries with other ids do not matter. -/
theorem sameAnswers_of_entries
    (entries : ∀ client : ClientConfig, client.clientId = clientId →
      (client ∈ registry.clients ↔ client ∈ registry'.clients)) :
    SameAnswers registry registry' clientId := by
  apply sameAnswers_of_findById
  apply Option.ext
  intro client
  rw [findById_eq_some_iff, findById_eq_some_iff]
  constructor
  · rintro ⟨registered, sameId⟩
    exact ⟨(entries client sameId).mp registered, sameId⟩
  · rintro ⟨registered, sameId⟩
    exact ⟨(entries client sameId).mpr registered, sameId⟩

/-- A registry can be made exactly of clients with different ids.  Every order
of them makes one, with the same answers; an answer comes from the entry with
the id, and stays when the entries with other ids change. -/
theorem new_independent (clients : List ClientConfig) :
    ((∃ registry, new clients = .ok registry) ↔
        (clients.map ClientConfig.clientId).Nodup) ∧
      ∀ registry, new clients = .ok registry →
        (∀ clients', clients.Perm clients' → ∃ registry', new clients' = .ok registry' ∧
          ∀ clientId, SameAnswers registry registry' clientId) ∧
        (∀ clientId client, registry.findById clientId = some client ↔
          client ∈ clients ∧ client.clientId = clientId) ∧
        ∀ clients' registry' clientId, new clients' = .ok registry' →
          (∀ client : ClientConfig, client.clientId = clientId →
            (client ∈ clients ↔ client ∈ clients')) →
          SameAnswers registry registry' clientId := by
  refine ⟨new_isOk_iff clients, ?_⟩
  intro registry made
  obtain rfl := clients_of_new made
  refine ⟨?_, ?_, ?_⟩
  · intro clients' perm
    obtain ⟨registry', made'⟩ := (new_isOk_iff clients').mpr
      ((perm.map ClientConfig.clientId).nodup_iff.mp registry.distinct)
    refine ⟨registry', made', fun clientId => ?_⟩
    apply sameAnswers_of_entries
    intro client _
    rw [clients_of_new made']
    exact perm.mem_iff
  · intro clientId client
    exact findById_eq_some_iff
  · intro clients' registry' clientId made' entries
    obtain rfl := clients_of_new made'
    exact sameAnswers_of_entries entries

/-! ## Secrets -/

/-- Comparing secrets decides whether they are equal, so exactly those requests
pass that name a registered client and, if it has a secret, present all the
bytes of it. -/
theorem validateClientSecret_decides :
    (∀ first second : List UInt8, constantTimeEq first second = true ↔ first = second) ∧
      ∀ (registry : ClientRegistry) (clientId : String) (presentedSecret : Option String),
        registry.validateClientSecret clientId presentedSecret = .allow ↔
          ∃ client ∈ registry.clients, client.clientId = clientId ∧
            (client.clientSecret = none ∨
              ∃ expected given, client.clientSecret = some expected ∧
                presentedSecret = some given ∧ Text.utf8 given = Text.utf8 expected) := by
  refine ⟨constantTimeEq_iff, ?_⟩
  intro registry clientId presentedSecret
  rw [validateClientSecret_eq_allow_iff]
  constructor
  · rintro ⟨client, found, authenticates⟩
    obtain ⟨registered, sameId⟩ := findById_eq_some_iff.mp found
    refine ⟨client, registered, sameId, ?_⟩
    apply authenticates.imp_right
    rintro ⟨secret, configured, presented⟩
    exact ⟨secret, secret, configured, presented, rfl⟩
  · rintro ⟨client, registered, sameId, authenticates⟩
    refine ⟨client, findById_eq_some_iff.mpr ⟨registered, sameId⟩, ?_⟩
    apply authenticates.imp_right
    rintro ⟨expected, given, configured, presented, sameBytes⟩
    obtain rfl := Text.utf8_injective sameBytes
    exact ⟨given, configured, presented⟩

end ClientRegistry

end OpenidTlsConnector
