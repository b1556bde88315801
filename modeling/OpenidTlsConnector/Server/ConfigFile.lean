import OpenidTlsConnector.Foundations.Toml
import OpenidTlsConnector.Server.Observable

/-!
# The configuration file

The server is configured by one TOML document.  Its keys may stand in any order
and it may hold keys that nobody reads; what has a default may be left out.  None
of this is seen by those who talk to the server, and neither is the order of the
clients and of their redirect URIs.
-/

namespace OpenidTlsConnector

open Foundations

/-! ## Reading the document -/

namespace ClientConfig

def visitMap (fields : Fields Toml) : Option ClientConfig := do
  return {
    clientId := ← fields.required "client_id" Toml.asString
    clientSecret := ← fields.optional "client_secret" fun value => value.asString.map some
    redirectUris := ← fields.required "redirect_uris" Toml.asStrings
    groups := ← fields.defaulted "groups" [] Toml.asStrings }

/-- A derived decoder also takes an array with the fields in their order.  What
follows the last one is not looked at. -/
def visitSeq : List Toml → Option ClientConfig
  | clientId :: clientSecret :: redirectUris :: rest => do
      return {
        clientId := ← clientId.asString
        clientSecret := some (← clientSecret.asString)
        redirectUris := ← redirectUris.asStrings
        groups := ← rest.head?.elim (some []) Toml.asStrings }
  | _ => none

def deserialize : Toml → Option ClientConfig
  | .table fields => visitMap fields
  | .array items => visitSeq items
  | _ => none

/-- The keys of a client. -/
def keys : List String := ["client_id", "client_secret", "redirect_uris", "groups"]

/-- A client without groups may say so. -/
def defaults : Fields Toml := [("groups", .array [])]

end ClientConfig

def defaultUserHeader : String := "X-Client-Cert-Subject"

def defaultDnAttribute : String := "CN"

def defaultIdTokenTtl : UInt64 := 3600

def defaultAccessTokenTtl : UInt64 := 3600

/-- All settings: those of the server, the address it listens on, and where its
signing key is. -/
structure ConfigFile extends Config where
  listenAddr : String
  signingKeyPath : String

namespace ConfigFile

/-- The parser of TOML has produced the document. -/
def load (document : Fields Toml) : Option ConfigFile := do
  return {
    issuer := ← document.required "issuer" Toml.asString
    listenAddr := ← document.required "listen_addr" Toml.asString
    codeMaxAgeSeconds := ← document.required "code_max_age_seconds" Toml.asU64
    codeHmacKey := ← document.required "code_hmac_key" Toml.asString
    userHeader := ← document.defaulted "user_header" defaultUserHeader Toml.asString
    dnAttribute := ← document.defaulted "dn_attribute" defaultDnAttribute Toml.asString
    idTokenTtlSeconds :=
      ← document.defaulted "id_token_ttl_seconds" defaultIdTokenTtl Toml.asU64
    accessTokenTtlSeconds :=
      ← document.defaulted "access_token_ttl_seconds" defaultAccessTokenTtl Toml.asU64
    signingKeyPath := ← document.required "signing_key_path" Toml.asString
    clients := ← document.defaulted "clients" [] (Toml.asListOf ClientConfig.deserialize)
    defaultGroups := ← document.defaulted "default_groups" [] Toml.asStrings }

def keys : List String :=
  ["issuer", "listen_addr", "code_max_age_seconds", "code_hmac_key", "user_header", "dn_attribute",
    "id_token_ttl_seconds", "access_token_ttl_seconds", "signing_key_path", "clients",
    "default_groups"]

/-- The defaults as a document would spell them out. -/
def defaults : Fields Toml :=
  [("user_header", .string defaultUserHeader), ("dn_attribute", .string defaultDnAttribute),
    ("id_token_ttl_seconds", .integer 3600), ("access_token_ttl_seconds", .integer 3600),
    ("clients", .array []), ("default_groups", .array [])]

end ConfigFile

/-! ## Starting from the document -/

inductive StartError where
  | config
  | startup (error : StartupError)
  deriving DecidableEq

/-- `main` from the document to the address it listens on and the state behind
it.  A signing key that cannot be read is a panic. -/
def start (platform : Platform) (signingKey : String → Option (RsaKeyPair × String))
    (document : Fields Toml) : Outcome StartError (String × AppState) := do
  let config ← Outcome.okOr (ConfigFile.load document) .config
  let (keys, kid) ← Outcome.expect (signingKey config.signingKeyPath)
  let state ← (main platform config.toConfig keys kid).mapError .startup
  return (config.listenAddr, state)

theorem start_eq_ok_iff {platform : Platform}
    {signingKey : String → Option (RsaKeyPair × String)} {document : Fields Toml}
    {listenAddr : String} {state : AppState} :
    start platform signingKey document = .ok (listenAddr, state) ↔
      ∃ config keys kid, ConfigFile.load document = some config ∧
        signingKey config.signingKeyPath = some (keys, kid) ∧
        main platform config.toConfig keys kid = .ok state ∧
        config.listenAddr = listenAddr := by
  simp only [start, Outcome.bind_eq_ok_iff, Outcome.okOr_eq_ok_iff, Outcome.expect_eq_ok_iff,
    Outcome.mapError_eq_ok_iff, Outcome.pure_eq, Outcome.ok.injEq, Prod.mk.injEq, Prod.exists]
  constructor
  · rintro ⟨config, loaded, keys, kid, keyRead, _, started, rfl, rfl⟩
    exact ⟨config, keys, kid, loaded, keyRead, started, rfl⟩
  · rintro ⟨config, keys, kid, loaded, keyRead, started, rfl⟩
    exact ⟨config, loaded, keys, kid, keyRead, state, started, rfl, rfl⟩

namespace Reference

def publicTable : Toml := .table [("client_id", .string "spa"),
  ("redirect_uris", .array [.string "https://app.example/cb", .string "/cb"]),
  ("groups", .array [.string "spa-users"])]

def confidentialTable : Toml := .table [("client_id", .string "backend"),
  ("client_secret", .string "s3cr3t"),
  ("redirect_uris", .array [.string "https://backend.example/cb"])]

/-- The settings of the sample deployment besides its clients. -/
def settings : Fields Toml := [
  ("issuer", .string "https://auth.example.com"),
  ("listen_addr", .string "127.0.0.1:8080"),
  ("code_max_age_seconds", .integer 300),
  ("code_hmac_key", .string codeHmacKey),
  ("signing_key_path", .string "signing_key.pem"),
  ("default_groups", .array [.string "authenticated"])]

def configDocument : Fields Toml :=
  ("clients", .array [publicTable, confidentialTable]) :: settings

def editedDocument : Fields Toml :=
  ("dn_attribute", .string "CN") :: ("clients", .array [confidentialTable, publicTable]) :: settings

def configFile : ConfigFile where
  toConfig := config "https://auth.example.com"
  listenAddr := "127.0.0.1:8080"
  signingKeyPath := "signing_key.pem"

theorem load_sample : ConfigFile.load configDocument = some configFile := rfl

theorem start_sample : start platform (fun _ => some (keys, "kid")) configDocument =
    .ok ("127.0.0.1:8080", state) := by
  have parsed : Url.parsePlain "https://auth.example.com" = some issuerUrl := by decide
  exact start_eq_ok_iff.mpr
    ⟨configFile, keys, "kid", load_sample, rfl, main_sample parsed, rfl⟩

end Reference

/-! ## Edits -/

/-- Two ways to write down one client. -/
inductive ClientEdit : Fields Toml → Fields Toml → Prop
  | keys {client client' : Fields Toml}
      (edit : Fields.Edit ClientConfig.keys ClientConfig.defaults client client') :
      ClientEdit client client'
  | redirectUris {rest : Fields Toml} {uris uris' : List Toml}
      (single : ∀ field ∈ rest, field.1 ≠ "redirect_uris") (perm : uris.Perm uris') :
      ClientEdit (("redirect_uris", .array uris) :: rest) (("redirect_uris", .array uris') :: rest)

/-- Two ways to write down the clients. -/
inductive ClientsEdit : List Toml → List Toml → Prop
  | reorder {items items' : List Toml} (perm : items.Perm items') : ClientsEdit items items'
  | client {client client' : Fields Toml} (before after : List Toml)
      (edit : ClientEdit client client') :
      ClientsEdit (before ++ .table client :: after) (before ++ .table client' :: after)

/-- Two ways to write down one configuration. -/
inductive ConfigEdit : Fields Toml → Fields Toml → Prop
  | keys {document document' : Fields Toml}
      (edit : Fields.Edit ConfigFile.keys ConfigFile.defaults document document') :
      ConfigEdit document document'
  | clients {rest : Fields Toml} {items items' : List Toml}
      (single : ∀ field ∈ rest, field.1 ≠ "clients") (edit : ClientsEdit items items') :
      ConfigEdit (("clients", .array items) :: rest) (("clients", .array items') :: rest)

/-! ## What an edit changes -/

/-- The clients with one id that differ in the order of their redirect URIs. -/
def ClientConfig.SameClient (client client' : ClientConfig) : Prop :=
  client.clientId = client'.clientId ∧ client.Interchangeable client'

theorem ClientConfig.SameClient.refl (client : ClientConfig) : client.SameClient client :=
  ⟨rfl, { redirectUris := fun _ => Iff.rfl, groups := rfl, clientSecret := rfl }⟩

/-- Lists of clients that one edit takes into each other. -/
inductive SameClients : List ClientConfig → List ClientConfig → Prop
  | reorder {clients clients' : List ClientConfig} (perm : clients.Perm clients') :
      SameClients clients clients'
  | clients {clients clients' : List ClientConfig}
      (same : List.Forall₂ ClientConfig.SameClient clients clients') : SameClients clients clients'

/-- Configurations that differ only in their clients, and in those little. -/
inductive ConfigFile.SameConfig (config : ConfigFile) : ConfigFile → Prop
  | clients {clients' : List ClientConfig} (same : SameClients config.clients clients') :
      ConfigFile.SameConfig config { config with clients := clients' }

theorem visitMap_of_edit {client client' : Fields Toml}
    (edit : Fields.Edit ClientConfig.keys ClientConfig.defaults client client') :
    ClientConfig.visitMap client' = ClientConfig.visitMap client := by
  have noGroups : ∀ value, ("groups", value) ∈ ClientConfig.defaults →
      Toml.asStrings value = some [] := by
    simp [ClientConfig.defaults, Toml.asStrings]
  unfold ClientConfig.visitMap
  rw [edit.required (by decide) (by decide), edit.optional (by decide) (by decide),
    edit.required (by decide) (by decide), edit.defaulted (by decide) noGroups]

theorem load_of_edit {document document' : Fields Toml}
    (edit : Fields.Edit ConfigFile.keys ConfigFile.defaults document document') :
    ConfigFile.load document' = ConfigFile.load document := by
  -- Every default, spelled out, is read as the default.
  have userHeader : ∀ value, ("user_header", value) ∈ ConfigFile.defaults →
      Toml.asString value = some defaultUserHeader := by
    simp [ConfigFile.defaults]
  have dnAttribute : ∀ value, ("dn_attribute", value) ∈ ConfigFile.defaults →
      Toml.asString value = some defaultDnAttribute := by
    simp [ConfigFile.defaults]
  have hour : Toml.asU64 (.integer 3600) = some 3600 := by decide
  have idTokenTtl : ∀ value, ("id_token_ttl_seconds", value) ∈ ConfigFile.defaults →
      Toml.asU64 value = some defaultIdTokenTtl := by
    simp [ConfigFile.defaults, defaultIdTokenTtl, hour]
  have accessTokenTtl : ∀ value, ("access_token_ttl_seconds", value) ∈ ConfigFile.defaults →
      Toml.asU64 value = some defaultAccessTokenTtl := by
    simp [ConfigFile.defaults, defaultAccessTokenTtl, hour]
  have noClients : ∀ value, ("clients", value) ∈ ConfigFile.defaults →
      Toml.asListOf ClientConfig.deserialize value = some [] := by
    simp [ConfigFile.defaults]
  have noGroups : ∀ value, ("default_groups", value) ∈ ConfigFile.defaults →
      Toml.asStrings value = some [] := by
    simp [ConfigFile.defaults, Toml.asStrings]
  unfold ConfigFile.load
  rw [edit.required (by decide) (by decide), edit.required (by decide) (by decide),
    edit.required (by decide) (by decide), edit.required (by decide) (by decide),
    edit.defaulted (by decide) userHeader, edit.defaulted (by decide) dnAttribute,
    edit.defaulted (by decide) idTokenTtl, edit.defaulted (by decide) accessTokenTtl,
    edit.required (by decide) (by decide), edit.defaulted (by decide) noClients,
    edit.defaulted (by decide) noGroups]

theorem visitMap_redirectUris {rest : Fields Toml}
    (single : ∀ field ∈ rest, field.1 ≠ "redirect_uris") (uris : List Toml) :
    ClientConfig.visitMap (("redirect_uris", .array uris) :: rest) = do
      let clientId ← rest.required "client_id" Toml.asString
      let clientSecret ← rest.optional "client_secret" fun value => value.asString.map some
      let redirectUris ← uris.mapM Toml.asString
      let groups ← rest.defaulted "groups" [] Toml.asStrings
      return { clientId, clientSecret, redirectUris, groups } := by
  simp [ClientConfig.visitMap, Fields.required_cons_self single, Toml.asStrings]

theorem visitMap_of_clientEdit {client client' : Fields Toml} (edit : ClientEdit client client') :
    Option.Rel ClientConfig.SameClient (ClientConfig.visitMap client)
      (ClientConfig.visitMap client') := by
  cases edit with
  | keys edit => exact optionRel_of_eq .refl (visitMap_of_edit edit)
  | redirectUris single perm =>
      rw [visitMap_redirectUris single, visitMap_redirectUris single]
      apply optionRel_bind_right
      intro clientId
      apply optionRel_bind_right
      intro clientSecret
      apply optionRel_bind (mapM_rel_of_perm perm)
      intro redirectUris redirectUris' reordered
      apply optionRel_bind_right
      intro groups
      exact .some ⟨rfl, {
        redirectUris := fun _ => reordered.mem_iff
        groups := rfl
        clientSecret := rfl }⟩

theorem deserialize_of_clientsEdit {items items' : List Toml} (edit : ClientsEdit items items') :
    Option.Rel SameClients (items.mapM ClientConfig.deserialize)
      (items'.mapM ClientConfig.deserialize) := by
  cases edit with
  | reorder perm =>
      exact optionRel_mono (fun _ _ perm => .reorder perm) (mapM_rel_of_perm perm)
  | @client client client' before after edit =>
      apply optionRel_mono (fun _ _ same => .clients same)
      apply mapM_rel_of_forall₂
      have unchanged (item : Toml) : Option.Rel ClientConfig.SameClient
          (ClientConfig.deserialize item) (ClientConfig.deserialize item) :=
        optionRel_of_eq .refl rfl
      apply List.rel_append
      · exact List.forall₂_same.mpr fun item _ => unchanged item
      · exact .cons (visitMap_of_clientEdit edit)
          (List.forall₂_same.mpr fun item _ => unchanged item)

theorem load_clients {rest : Fields Toml} (single : ∀ field ∈ rest, field.1 ≠ "clients")
    (items : List Toml) :
    ConfigFile.load (("clients", .array items) :: rest) = do
      let issuer ← rest.required "issuer" Toml.asString
      let listenAddr ← rest.required "listen_addr" Toml.asString
      let codeMaxAgeSeconds ← rest.required "code_max_age_seconds" Toml.asU64
      let codeHmacKey ← rest.required "code_hmac_key" Toml.asString
      let userHeader ← rest.defaulted "user_header" defaultUserHeader Toml.asString
      let dnAttribute ← rest.defaulted "dn_attribute" defaultDnAttribute Toml.asString
      let idTokenTtlSeconds ← rest.defaulted "id_token_ttl_seconds" defaultIdTokenTtl Toml.asU64
      let accessTokenTtlSeconds ←
        rest.defaulted "access_token_ttl_seconds" defaultAccessTokenTtl Toml.asU64
      let signingKeyPath ← rest.required "signing_key_path" Toml.asString
      let clients ← items.mapM ClientConfig.deserialize
      let defaultGroups ← rest.defaulted "default_groups" [] Toml.asStrings
      return {
        issuer, listenAddr, codeMaxAgeSeconds, codeHmacKey, userHeader, dnAttribute,
        idTokenTtlSeconds, accessTokenTtlSeconds, signingKeyPath, clients, defaultGroups } := by
  simp only [ConfigFile.load, Fields.required_cons_of_ne, Fields.defaulted_cons_of_ne,
    Fields.defaulted_cons_self single, Toml.asListOf_array, ne_eq, String.reduceEq,
    not_false_eq_true]

theorem load_of_configEdit {document document' : Fields Toml}
    (edit : ConfigEdit document document') :
    Option.Rel ConfigFile.SameConfig (ConfigFile.load document) (ConfigFile.load document') := by
  cases edit with
  | keys edit => exact optionRel_of_eq (fun _ => .clients (.reorder (.refl _))) (load_of_edit edit)
  | @clients rest items items' single edit =>
      rw [load_clients single, load_clients single]
      -- Every other setting is read from the rest of the document.
      iterate 9
        apply optionRel_bind_right
        intro _
      apply optionRel_bind (deserialize_of_clientsEdit edit)
      intro clients clients' same
      apply optionRel_bind_right
      intro _
      exact .some (.clients same)

/-! ## What an edit leaves -/

namespace SameClients

variable {clients clients' : List ClientConfig}

theorem symm (same : SameClients clients clients') : SameClients clients' clients := by
  cases same with
  | reorder perm => exact .reorder perm.symm
  | clients same =>
      refine .clients (same.flip.imp ?_)
      rintro client' client ⟨sameId, alike⟩
      exact ⟨sameId.symm, {
        redirectUris := fun redirectUri => (alike.redirectUris redirectUri).symm
        groups := alike.groups.symm
        clientSecret := alike.clientSecret.symm }⟩

theorem distinct (same : SameClients clients clients')
    (distinct : (clients.map ClientConfig.clientId).Nodup) :
    (clients'.map ClientConfig.clientId).Nodup := by
  cases same with
  | reorder perm => exact (perm.map ClientConfig.clientId).nodup_iff.mp distinct
  | clients same =>
      have ids : clients.map ClientConfig.clientId = clients'.map ClientConfig.clientId := by
        rw [← List.forall₂_eq_eq_eq, List.forall₂_map_left_iff, List.forall₂_map_right_iff]
        exact same.imp fun _ _ same => same.1
      rw [← ids]
      exact distinct

/-- The registries find corresponding clients. -/
theorem findById {registry registry' : ClientRegistry}
    (same : SameClients registry.clients registry'.clients) (clientId : String) :
    Option.Rel ClientConfig.Interchangeable (registry.findById clientId)
      (registry'.findById clientId) := by
  generalize entries : registry.clients = clients, entries' : registry'.clients = clients' at same
  cases same with
  | reorder perm =>
      apply optionRel_of_eq (fun client => (ClientConfig.SameClient.refl client).2)
      apply Option.ext
      intro client
      rw [ClientRegistry.findById_eq_some_iff, ClientRegistry.findById_eq_some_iff, entries,
        entries', perm.mem_iff]
  | clients same =>
      apply ClientRegistry.findById_of_forall₂
      rw [entries, entries']
      exact same

end SameClients

/-- Where the first document starts a server, the second one starts a server
that listens on the same address and answers every run of requests alike. -/
def StartsAlike (framework : Framework) (platform : Platform)
    (signingKey : String → Option (RsaKeyPair × String)) (jwk : Jwk)
    (document document' : Fields Toml) : Prop :=
  ∀ listenAddr state, start platform signingKey document = .ok (listenAddr, state) →
    ∃ state', start platform signingKey document' = .ok (listenAddr, state') ∧
      ∀ run, (httpServer framework platform state' jwk).trace .new run =
        (httpServer framework platform state jwk).trace .new run

variable {framework : Framework} {platform : Platform}
  {signingKey : String → Option (RsaKeyPair × String)} {jwk : Jwk}
  {document document' : Fields Toml}

namespace StartsAlike

theorem refl (document : Fields Toml) :
    StartsAlike framework platform signingKey jwk document document :=
  fun _ state started => ⟨state, started, fun _ => rfl⟩

theorem trans {middle : Fields Toml}
    (first : StartsAlike framework platform signingKey jwk document middle)
    (second : StartsAlike framework platform signingKey jwk middle document') :
    StartsAlike framework platform signingKey jwk document document' := by
  intro listenAddr state started
  obtain ⟨between, startedBetween, same⟩ := first listenAddr state started
  obtain ⟨state', started', same'⟩ := second listenAddr between startedBetween
  exact ⟨state', started', fun run => (same' run).trans (same run)⟩

end StartsAlike

theorem startsAlike_of_load (loads : Option.Rel ConfigFile.SameConfig (ConfigFile.load document)
      (ConfigFile.load document')) :
    StartsAlike framework platform signingKey jwk document document' := by
  intro listenAddr state started
  obtain ⟨config, keys, kid, loaded, keyRead, mainStarted, rfl⟩ := start_eq_ok_iff.mp started
  rw [loaded] at loads
  generalize loaded' : ConfigFile.load document' = found at loads
  cases loads with
  | some same =>
      cases same with
      | @clients clients' same =>
          obtain ⟨hmacKeyBytes, registry, issuerUrl, discovery, read, registered, parsed, built,
            made⟩ := main_eq_ok_iff.mp mainStarted
          obtain ⟨registry', registered'⟩ := (ClientRegistry.new_isOk_iff clients').mpr
            (same.distinct ((ClientRegistry.new_isOk_iff _).mp ⟨registry, registered⟩))
          rw [← ClientRegistry.clients_of_new registered,
            ← ClientRegistry.clients_of_new registered'] at same
          have found : ∀ clientId, Option.Rel ClientConfig.Interchangeable
              (state.clients.findById clientId) (registry'.findById clientId) := by
            rw [made]
            exact same.findById
          refine ⟨{ state with clients := registry' }, start_eq_ok_iff.mpr ⟨_, keys, kid, loaded',
            keyRead, main_eq_ok_iff.mpr ⟨hmacKeyBytes, registry', issuerUrl, discovery, read,
              registered', parsed, built, by rw [made]⟩, rfl⟩, fun run => ?_⟩
          rw [httpServer_of_interchangeable framework platform state jwk registry' found]

theorem startsAlike_of_configEdit (edit : ConfigEdit document document') :
    StartsAlike framework platform signingKey jwk document document' ∧
      StartsAlike framework platform signingKey jwk document' document := by
  have loads := load_of_configEdit edit
  refine ⟨startsAlike_of_load loads, startsAlike_of_load (optionRel_symm ?_ loads)⟩
  intro config config' same
  cases same with
  | clients same => exact .clients same.symm

/-- Of documents that come from each other by edits, one after the other, both
start a server or none does; the servers listen on the same address and answer
every run of requests alike. -/
theorem start_of_configEdits (framework : Framework) (platform : Platform)
    (signingKey : String → Option (RsaKeyPair × String)) (jwk : Jwk)
    (document document' : Fields Toml) (edits : Relation.EqvGen ConfigEdit document document')
    (listenAddr : String) :
    ((∃ state, start platform signingKey document = .ok (listenAddr, state)) ↔
        ∃ state, start platform signingKey document' = .ok (listenAddr, state)) ∧
      ∀ state state', start platform signingKey document = .ok (listenAddr, state) →
        start platform signingKey document' = .ok (listenAddr, state') → ∀ run,
          (httpServer framework platform state' jwk).trace .new run =
            (httpServer framework platform state jwk).trace .new run := by
  have alike : StartsAlike framework platform signingKey jwk document document' ∧
      StartsAlike framework platform signingKey jwk document' document := by
    induction edits with
    | rel document document' edit => exact startsAlike_of_configEdit edit
    | refl document => exact ⟨.refl document, .refl document⟩
    | symm document document' _ inductionHypothesis => exact inductionHypothesis.symm
    | trans document middle document' _ _ first second =>
        exact ⟨first.1.trans second.1, second.2.trans first.2⟩
  refine ⟨⟨?_, ?_⟩, ?_⟩
  · rintro ⟨state, started⟩
    obtain ⟨state', started', -⟩ := alike.1 listenAddr state started
    exact ⟨state', started'⟩
  · rintro ⟨state', started'⟩
    obtain ⟨state, started, -⟩ := alike.2 listenAddr state' started'
    exact ⟨state, started⟩
  · intro state state' started started' run
    obtain ⟨_, startedAgain, same⟩ := alike.1 listenAddr state started
    cases started'.symm.trans startedAgain
    exact same run

/-- The clients change places, and a default is spelled out. -/
theorem start_of_configEdits_sample :
    ∃ state, start Reference.platform (fun _ => some (Reference.keys, "kid"))
      Reference.editedDocument = .ok ("127.0.0.1:8080", state) := by
  have edits : Relation.EqvGen ConfigEdit Reference.configDocument Reference.editedDocument := by
    apply Relation.EqvGen.trans
    · exact .rel _ _ (.clients (by decide) (.reorder (.swap _ _ [])))
    · exact .rel _ _ (.keys (.add (by decide) (Or.inr
        (by simp [ConfigFile.defaults, defaultDnAttribute]))))
  have alike := start_of_configEdits Reference.framework Reference.platform
    (fun _ => some (Reference.keys, "kid")) Reference.jwk Reference.configDocument
    Reference.editedDocument edits "127.0.0.1:8080"
  exact alike.1.mp ⟨Reference.state, Reference.start_sample⟩

end OpenidTlsConnector
