import OpenidTlsConnector.Foundations.Processes
import OpenidTlsConnector.Reference.Exchange

/-!
# Racing redemptions

`access_token_request` holds no lock from one store operation to the next, so
requests in flight interleave: each takes its steps (check, consume, sign,
record, answer) whenever it is scheduled, among the steps of the others and
the revocations and lookups of the store.
-/

namespace OpenidTlsConnector

open Foundations OIDCAuthCodePKCEFlow

/-- Where a request in flight stands, with what it holds there. -/
inductive Phase where
  | ready
  | checked (authCode : AuthorizationCode)
  | consumed (authCode : AuthorizationCode)
  | signed (authCode : AuthorizationCode) (tokens : String × String)
  | answering (outcome : Outcome OIDCError TokenResponse)
  | finished (outcome : Outcome OIDCError TokenResponse)

/-- What a step shows: the replies of the store and the answer to the client. -/
inductive Observation where
  | consumed (first : Bool)
  | issued (record : TokenRecord)
  | returned (outcome : Outcome OIDCError TokenResponse)
  | revoked (removed : Bool)
  | found (record : Option TokenRecord)

/-- One atomic step of `access_token_request`. -/
def redemptionStep (platform : Platform) (flow : OIDCAuthCodePKCEFlow) (ctx : TokenIssueContext)
    (req : AccessTokenRequest) (readings : Readings) :
    Process InMemoryTokenStore Phase Observation
  | .ready, store =>
      match flow.checkTokenRequest platform ctx.clients req readings.verifiedAt with
      | .error error => (none, .answering (.error error), store)
      | .ok authCode => (none, .checked authCode, store)
  | .checked authCode, store =>
      match store.consumeCode (codeReplayKey platform req.code) with
      | (false, store) => (some (.consumed false), .answering (.error codeAlreadyUsed), store)
      | (true, store) => (some (.consumed true), .consumed authCode, store)
  | .consumed authCode, store =>
      match signTokens platform ctx req.clientId authCode readings with
      | .panic => (none, .answering .panic, store)
      | .error error => (none, .answering (.error error), store)
      | .ok tokens => (none, .signed authCode tokens, store)
  | .signed authCode tokens, store =>
      match readings.recordedAt.checkedAdd ctx.accessTokenTtl with
      -- the sum is formed before the lock is taken
      | none => (none, .answering .panic, store)
      | some expiresAt =>
          (some (.issued (tokenRecord req.clientId authCode readings expiresAt)),
            .answering (.ok (tokenResponse ctx authCode tokens)),
            recordToken store req.clientId authCode readings expiresAt)
  | .answering outcome, store => (some (.returned outcome), .finished outcome, store)
  | .finished outcome, store => (none, .finished outcome, store)

inductive StoreCall where
  | revoke (jti : String)
  | lookup (jti : String)

/-- The store's other users. -/
def storeCalls : Machine InMemoryTokenStore StoreCall Observation where
  step store call := match call with
    | .revoke jti => (store.revoke jti).map .revoked id
    | .lookup jti => (.found (store.lookup jti), store)

universe u

variable {Id : Type u} [DecidableEq Id] {platform : Platform} {flow : OIDCAuthCodePKCEFlow}
  {ctx : TokenIssueContext} {req : AccessTokenRequest} {readings : Readings}

/-- The requests in flight, on one store. -/
def redemptions (platform : Platform) (flow : OIDCAuthCodePKCEFlow) (ctx : TokenIssueContext)
    (requests : Id → AccessTokenRequest × Readings) :
    Machine (Pool Id InMemoryTokenStore Phase) (Turn Id StoreCall) (Option Observation) :=
  Pool.interleave
    (fun id => redemptionStep platform flow ctx (requests id).1 (requests id).2) storeCalls

/-- Nobody has taken a step. -/
def unstarted (store : InMemoryTokenStore) : Pool Id InMemoryTokenStore Phase where
  shared := store
  locals _ := .ready

/-- Left alone, the five steps of a request are `access_token_request`. -/
theorem redemptions_alone (requests : Id → AccessTokenRequest × Readings) (id : Id)
    (store : InMemoryTokenStore) :
    (redemptions platform flow ctx requests).after (unstarted store)
        (List.replicate 5 (.advance id)) = {
      shared := (flow.accessTokenRequest platform ctx (requests id).1 (requests id).2 store).2
      locals := Function.update (fun _ => .ready) id (.finished
        (flow.accessTokenRequest platform ctx (requests id).1 (requests id).2 store).1) } := by
  have ending := accessTokenRequest_redemption platform flow ctx (requests id).1 (requests id).2
    store
  rw [redemptions, Pool.interleave_alone]
  generalize flow.accessTokenRequest platform ctx (requests id).1 (requests id).2 store =
    result at ending ⊢
  simp only [unstarted, Function.iterate_succ_apply, Function.iterate_zero, id_eq]
  cases ending with
  | refused rejected => simp [redemptionStep, rejected]
  | replayed checked used =>
      simp [redemptionStep, checked, InMemoryTokenStore.consumeCode_of_mem used]
  | unsigned checked unused failed =>
      have won := InMemoryTokenStore.consumeCode_of_notMem unused
      generalize (store.consumeCode (codeReplayKey platform (requests id).1.code)).2 = left at won ⊢
      simp [redemptionStep, checked, won, failed]
  | aborted checked unused overflow =>
      have won := InMemoryTokenStore.consumeCode_of_notMem unused
      generalize (store.consumeCode (codeReplayKey platform (requests id).1.code)).2 = left at won ⊢
      rcases overflow with panicked | ⟨tokens, signed, unbounded⟩
      · simp [redemptionStep, checked, won, panicked]
      · simp [redemptionStep, checked, won, signed, unbounded]
  | redeemed checked unused signed bounded =>
      have won := InMemoryTokenStore.consumeCode_of_notMem unused
      generalize (store.consumeCode (codeReplayKey platform (requests id).1.code)).2 = left at won ⊢
      simp [redemptionStep, checked, won, signed, bounded]

/-! ## What one request shows -/

/-- What a request has shown when it stands at a phase. -/
inductive Shown (platform : Platform) (ctx : TokenIssueContext) (req : AccessTokenRequest)
    (readings : Readings) : Phase → List Observation → Prop where
  | ready : Shown platform ctx req readings .ready []
  | checked {authCode} : Shown platform ctx req readings (.checked authCode) []
  | consumed {authCode} : Shown platform ctx req readings (.consumed authCode) [.consumed true]
  | signed {authCode tokens}
      (tokensSigned : signTokens platform ctx req.clientId authCode readings = .ok tokens) :
      Shown platform ctx req readings (.signed authCode tokens) [.consumed true]
  | refused {error} : Shown platform ctx req readings (.answering (.error error)) []
  | replayed :
      Shown platform ctx req readings (.answering (.error codeAlreadyUsed)) [.consumed false]
  | failed {outcome} (unanswered : ∀ response, outcome ≠ .ok response) :
      Shown platform ctx req readings (.answering outcome) [.consumed true]
  | issued {authCode tokens expiresAt}
      (tokensSigned : signTokens platform ctx req.clientId authCode readings = .ok tokens) :
      Shown platform ctx req readings (.answering (.ok (tokenResponse ctx authCode tokens)))
        [.consumed true, .issued (tokenRecord req.clientId authCode readings expiresAt)]
  | finished {outcome shown} (answering : Shown platform ctx req readings (.answering outcome) shown) :
      Shown platform ctx req readings (.finished outcome) (shown ++ [.returned outcome])

variable {phase : Phase} {observed : List Observation}

/-- Every step keeps the account. -/
theorem Shown.step (shown : Shown platform ctx req readings phase observed)
    (store : InMemoryTokenStore) :
    Shown platform ctx req readings (redemptionStep platform flow ctx req readings phase store).2.1
      (observed ++
        (redemptionStep platform flow ctx req readings phase store).1.toList) := by
  cases shown with
  | ready =>
      cases verdict : flow.checkTokenRequest platform ctx.clients req readings.verifiedAt with
      | error error => simpa [redemptionStep, verdict] using .refused
      | ok authCode => simpa [redemptionStep, verdict] using .checked
  | checked =>
      by_cases used : codeReplayKey platform req.code ∈ store.consumedCodes
      · simpa [redemptionStep, InMemoryTokenStore.consumeCode_of_mem used] using .replayed
      · simp only [redemptionStep]
        rw [InMemoryTokenStore.consumeCode_of_notMem used]
        exact .consumed
  | @consumed authCode =>
      cases signed : signTokens platform ctx req.clientId authCode readings with
      | panic => simpa [redemptionStep, signed] using .failed (by simp)
      | error error => simpa [redemptionStep, signed] using .failed (by simp)
      | ok tokens => simpa [redemptionStep, signed] using .signed signed
  | signed tokensSigned =>
      cases bounded : readings.recordedAt.checkedAdd ctx.accessTokenTtl with
      | none => simpa [redemptionStep, bounded] using .failed (by simp)
      | some expiresAt => simpa [redemptionStep, bounded] using .issued tokensSigned
  | refused => exact .finished .refused
  | replayed => exact .finished .replayed
  | failed unanswered => exact .finished (.failed unanswered)
  | issued tokensSigned => exact .finished (.issued tokensSigned)
  | finished answering => simpa [redemptionStep] using .finished answering

/-- A request that found its code used answers `invalid_grant` and records
nothing. -/
theorem Shown.lost (shown : Shown platform ctx req readings phase observed)
    (lost : .consumed false ∈ observed) :
    (phase = .answering (.error codeAlreadyUsed) ∨ phase = .finished (.error codeAlreadyUsed)) ∧
      .consumed true ∉ observed ∧ ∀ record, .issued record ∉ observed := by
  cases shown with
  | ready | checked | consumed | signed | refused | failed | issued => simp at lost
  | replayed => simp
  | finished answering =>
      cases answering with
      | refused | failed | issued => simp at lost
      | replayed => simp

/-- A record goes with a consumed code and the request's own `jti`, and there
is no other. -/
theorem Shown.record {record : TokenRecord}
    (shown : Shown platform ctx req readings phase observed)
    (recorded : .issued record ∈ observed) :
    .consumed true ∈ observed ∧ record.jti = randomJti readings.jtiBytes ∧
      ∀ other, .issued other ∈ observed → other = record := by
  cases shown with
  | ready | checked | consumed | signed | refused | replayed | failed => simp at recorded
  | issued =>
      simp only [List.mem_cons, reduceCtorEq, Observation.issued.injEq, List.not_mem_nil,
        or_false, false_or] at recorded
      subst recorded
      exact ⟨by simp, rfl, by simp⟩
  | finished answering =>
      cases answering with
      | refused | replayed | failed => simp at recorded
      | issued =>
          simp only [List.cons_append, List.nil_append, List.mem_cons, reduceCtorEq,
            Observation.issued.injEq, List.not_mem_nil, or_false, false_or] at recorded
          subst recorded
          exact ⟨by simp, rfl, by simp⟩

/-- A request about to record has recorded nothing. -/
theorem Shown.unrecorded {authCode : AuthorizationCode} {tokens : String × String}
    (shown : Shown platform ctx req readings (.signed authCode tokens) observed)
    (record : TokenRecord) : .issued record ∉ observed := by
  cases shown
  simp

/-- A response comes after its record, and its access token carries the
record's `jti`. -/
theorem Shown.response {response : TokenResponse}
    (shown : Shown platform ctx req readings phase observed)
    (returned : .returned (.ok response) ∈ observed) :
    ∃ record claims, .issued record ∈ observed ∧
      ctx.jwtIssuer.accessTokenClaims response.accessToken = some claims ∧
      claims.jti = record.jti := by
  cases shown with
  | ready | checked | consumed | signed | refused | replayed | failed | issued => simp at returned
  | finished answering =>
      cases answering with
      | refused | replayed => simp at returned
      | failed unanswered =>
          simp only [List.cons_append, List.nil_append, List.mem_cons, reduceCtorEq, false_or,
            Observation.returned.injEq, List.not_mem_nil, or_false] at returned
          exact absurd returned.symm (unanswered response)
      | @issued authCode tokens expiresAt tokensSigned =>
          simp only [List.cons_append, List.nil_append, List.mem_cons, reduceCtorEq, false_or,
            Observation.returned.injEq, Outcome.ok.injEq, List.not_mem_nil, or_false] at returned
          obtain ⟨exp, -, read⟩ := JwtIssuer.accessTokenClaims_of_issueAccessToken
            (signTokens_eq_ok_iff.mp tokensSigned).2
          subst returned
          exact ⟨tokenRecord req.clientId authCode readings expiresAt, _, by simp, read, rfl⟩

/-! ## What the store owes to the requests -/

/-- What a step does to the store. -/
theorem redemptionStep_store (platform : Platform) (flow : OIDCAuthCodePKCEFlow)
    (ctx : TokenIssueContext) (req : AccessTokenRequest) (readings : Readings) (phase : Phase)
    (store : InMemoryTokenStore) :
    (redemptionStep platform flow ctx req readings phase store).2.2 = store ∧
        (∀ first, (redemptionStep platform flow ctx req readings phase store).1 ≠
          some (.consumed first)) ∧
        (∀ record, (redemptionStep platform flow ctx req readings phase store).1 ≠
          some (.issued record)) ∨
      (redemptionStep platform flow ctx req readings phase store).2.2 =
          (store.consumeCode (codeReplayKey platform req.code)).2 ∧
        (redemptionStep platform flow ctx req readings phase store).1 =
          some (.consumed (store.consumeCode (codeReplayKey platform req.code)).1) ∨
      ∃ authCode tokens expiresAt, phase = .signed authCode tokens ∧
        (redemptionStep platform flow ctx req readings phase store).2.2 =
          recordToken store req.clientId authCode readings expiresAt ∧
        (redemptionStep platform flow ctx req readings phase store).1 =
          some (.issued (tokenRecord req.clientId authCode readings expiresAt)) := by
  cases phase with
  | ready =>
      cases verdict : flow.checkTokenRequest platform ctx.clients req readings.verifiedAt <;>
        exact Or.inl (by simp [redemptionStep, verdict])
  | checked authCode =>
      refine Or.inr (Or.inl ?_)
      cases replied : store.consumeCode (codeReplayKey platform req.code) with
      | mk first left => cases first <;> simp [redemptionStep, replied]
  | consumed authCode =>
      cases signed : signTokens platform ctx req.clientId authCode readings <;>
        exact Or.inl (by simp [redemptionStep, signed])
  | signed authCode tokens =>
      cases bounded : readings.recordedAt.checkedAdd ctx.accessTokenTtl with
      | none => exact Or.inl (by simp [redemptionStep, bounded])
      | some expiresAt =>
          exact Or.inr (Or.inr ⟨authCode, tokens, expiresAt, rfl, by simp [redemptionStep, bounded]⟩)
  | answering | finished => exact Or.inl (by simp [redemptionStep])

/-- What the requests in flight and the store have shown, from an empty store. -/
abbrev History (Id : Type u) := List (Turn Id StoreCall × Option Observation)

/-- The code of a request has been presented to the store, and this is what the
store said. -/
def Answered (history : History Id) (id : Id) (first : Bool) : Prop :=
  .consumed first ∈ Pool.observations id history

def Issued (history : History Id) (id : Id) (record : TokenRecord) : Prop :=
  .issued record ∈ Pool.observations id history

def Returned (history : History Id) (id : Id) (outcome : Outcome OIDCError TokenResponse) : Prop :=
  .returned outcome ∈ Pool.observations id history

/-- The record has been taken out of the store. -/
def Removed (history : History Id) (jti : String) : Prop :=
  (.event (.revoke jti), some (.revoked true)) ∈ history

section Snoc

variable (history : History Id) (mover id : Id) (call : StoreCall) (shown : Option Observation)

@[simp]
theorem answered_snoc_advance (first : Bool) :
    Answered (history ++ [(.advance mover, shown)]) id first ↔
      Answered history id first ∨ mover = id ∧ shown = some (.consumed first) := by
  by_cases same : mover = id <;> simp [Answered, same]

@[simp]
theorem issued_snoc_advance (record : TokenRecord) :
    Issued (history ++ [(.advance mover, shown)]) id record ↔
      Issued history id record ∨ mover = id ∧ shown = some (.issued record) := by
  by_cases same : mover = id <;> simp [Issued, same]

omit [DecidableEq Id] in
@[simp]
theorem removed_snoc_advance (jti : String) :
    Removed (history ++ [(.advance mover, shown)]) jti ↔ Removed history jti := by
  simp [Removed]

@[simp]
theorem answered_snoc_event (first : Bool) :
    Answered (history ++ [(.event call, shown)]) id first ↔ Answered history id first := by
  simp [Answered]

@[simp]
theorem issued_snoc_event (record : TokenRecord) :
    Issued (history ++ [(.event call, shown)]) id record ↔ Issued history id record := by
  simp [Issued]

omit [DecidableEq Id] in
@[simp]
theorem removed_snoc_event (jti : String) :
    Removed (history ++ [(.event call, shown)]) jti ↔
      Removed history jti ∨ call = .revoke jti ∧ shown = some (.revoked true) := by
  simp [Removed, eq_comm]

end Snoc

/-- Consumed keys have one winner each, and records stay until revoked. -/
structure Accounted (platform : Platform) (requests : Id → AccessTokenRequest × Readings)
    (history : History Id) (store : InMemoryTokenStore) : Prop where
  winner : ∀ key ∈ store.consumedCodes,
    ∃ id, codeReplayKey platform (requests id).1.code = key ∧ Answered history id true
  consumed : ∀ id first, Answered history id first →
    codeReplayKey platform (requests id).1.code ∈ store.consumedCodes
  unique : ∀ id id', Answered history id true → Answered history id' true →
    codeReplayKey platform (requests id).1.code = codeReplayKey platform (requests id').1.code →
    id = id'
  drawn : ∀ id record, Issued history id record →
    record.jti = randomJti (requests id).2.jtiBytes
  visible : ∀ id record, Issued history id record →
    store.lookup record.jti = some record ∨ Removed history record.jti

namespace Accounted

variable {requests : Id → AccessTokenRequest × Readings} {history : History Id}
  {store : InMemoryTokenStore}

theorem start : Accounted platform requests [] .new where
  winner := by simp
  consumed := by simp [Answered, Pool.observations]
  unique := by simp [Answered, Pool.observations]
  drawn := by simp [Issued, Pool.observations]
  visible := by simp [Issued, Pool.observations]

/-- Whatever is shown besides, a step that consumes nothing and records nothing
changes no account. -/
theorem advance_of_unchanged (accounted : Accounted platform requests history store) (mover : Id)
    {shown : Option Observation} (notConsumed : ∀ first, shown ≠ some (.consumed first))
    (notIssued : ∀ record, shown ≠ some (.issued record)) :
    Accounted platform requests (history ++ [(.advance mover, shown)]) store where
  winner := by simpa [notConsumed] using accounted.winner
  consumed := by simpa [notConsumed] using accounted.consumed
  unique := by simpa [notConsumed] using accounted.unique
  drawn := by simpa [notIssued] using accounted.drawn
  visible := by simpa [notIssued] using accounted.visible

/-- The first request to consume a key is its winner. -/
theorem advance_of_consumed (accounted : Accounted platform requests history store) (mover : Id) :
    Accounted platform requests
      (history ++ [(.advance mover, some (.consumed (store.consumeCode
        (codeReplayKey platform (requests mover).1.code)).1))])
      (store.consumeCode (codeReplayKey platform (requests mover).1.code)).2 := by
  obtain ⟨winner, consumed, unique, drawn, visible⟩ := accounted
  generalize isKey : codeReplayKey platform (requests mover).1.code = key
  have first := store.consumeCode_fst_iff key
  -- a winner so far has its key in the store already
  have loses (id : Id) (won : Answered history id true)
      (same : codeReplayKey platform (requests id).1.code = key) :
      (store.consumeCode key).1 ≠ true := by
    intro isFirst
    exact first.mp isFirst (same ▸ consumed id true won)
  constructor
  · intro other membership
    rcases Finset.mem_insert.mp membership with rfl | earlier
    · by_cases isFirst : (store.consumeCode other).1 = true
      · exact ⟨mover, isKey, by simp [isFirst]⟩
      · obtain ⟨id, same, won⟩ := winner other (not_not.mp (mt first.mpr isFirst))
        exact ⟨id, same, by simp [won]⟩
    · obtain ⟨id, same, won⟩ := winner other earlier
      exact ⟨id, same, by simp [won]⟩
  · intro id answer answered
    rcases (answered_snoc_advance _ _ _ _ _).mp answered with earlier | ⟨rfl, -⟩
    · exact Finset.mem_insert_of_mem (consumed id answer earlier)
    · exact isKey ▸ Finset.mem_insert_self _ _
  · intro id id' won won' same
    simp only [answered_snoc_advance, Option.some.injEq, Observation.consumed.injEq] at won won'
    rcases won with won | ⟨rfl, isFirst⟩ <;> rcases won' with won' | ⟨rfl, isFirst'⟩
    · exact unique id id' won won' same
    · exact absurd isFirst' (loses id won (same.trans isKey))
    · exact absurd isFirst (loses id' won' (same.symm.trans isKey))
    · rfl
  · simpa using drawn
  · simpa [InMemoryTokenStore.lookup] using visible

/-- A record written under a fresh `jti` replaces none. -/
theorem advance_of_issued (accounted : Accounted platform requests history store)
    (freshJtis : ∀ id id', randomJti (requests id).2.jtiBytes =
      randomJti (requests id').2.jtiBytes → id = id')
    (mover : Id) (authCode : AuthorizationCode) (expiresAt : SystemTime)
    (unrecorded : ∀ record, ¬ Issued history mover record) :
    Accounted platform requests
      (history ++ [(.advance mover, some (.issued (tokenRecord (requests mover).1.clientId authCode
        (requests mover).2 expiresAt)))])
      (recordToken store (requests mover).1.clientId authCode (requests mover).2 expiresAt) := by
  obtain ⟨winner, consumed, unique, drawn, visible⟩ := accounted
  constructor
  · simpa [recordToken] using winner
  · simpa [recordToken] using consumed
  · simpa using unique
  · intro id record issued
    rcases (issued_snoc_advance _ _ _ _ _).mp issued with earlier | ⟨rfl, isRecord⟩
    · exact drawn id record earlier
    · cases isRecord
      rfl
  · intro id record issued
    rw [removed_snoc_advance, InMemoryTokenStore.lookup, recordToken_records]
    rcases (issued_snoc_advance _ _ _ _ _).mp issued with earlier | ⟨rfl, isRecord⟩
    · have elsewhere : record.jti ≠ randomJti (requests mover).2.jtiBytes := by
        intro same
        cases freshJtis id mover ((drawn id record earlier).symm.trans same)
        exact unrecorded record earlier
      rw [Function.update_of_ne elsewhere]
      exact visible id record earlier
    · cases isRecord
      exact Or.inl (Function.update_self _ _ _)

theorem consumedCodes_next (store : InMemoryTokenStore) (call : StoreCall) :
    (storeCalls.next store call).consumedCodes = store.consumedCodes := by
  cases call <;> rfl

/-- A revocation is the only way a record goes. -/
theorem lookup_next {store : InMemoryTokenStore} {jti : String} {record : TokenRecord}
    (recorded : store.lookup jti = some record) (call : StoreCall) :
    (storeCalls.next store call).lookup jti = some record ∨
      call = .revoke jti ∧ storeCalls.answer store call = .revoked true := by
  cases call with
  | lookup other => exact Or.inl recorded
  | revoke other =>
      by_cases same : jti = other
      · subst same
        have removed : (store.records jti).isSome = true := Option.isSome_of_eq_some recorded
        exact Or.inr ⟨rfl, congrArg Observation.revoked removed⟩
      · exact Or.inl (store.revoke_records_eq_some_iff.mpr ⟨same, recorded⟩)

theorem event (accounted : Accounted platform requests history store) (call : StoreCall) :
    Accounted platform requests
      (history ++ [(.event call, some (storeCalls.answer store call))])
      (storeCalls.next store call) := by
  obtain ⟨winner, consumed, unique, drawn, visible⟩ := accounted
  constructor
  · simpa [consumedCodes_next] using winner
  · simpa [consumedCodes_next] using consumed
  · simpa using unique
  · simpa using drawn
  · intro id record issued
    rw [issued_snoc_event] at issued
    rw [removed_snoc_event, Option.some.injEq]
    rcases visible id record issued with recorded | removed
    · rcases lookup_next recorded call with kept | revoked
      · exact Or.inl kept
      · exact Or.inr (Or.inr revoked)
    · exact Or.inr (Or.inl removed)

end Accounted

/-- Every request and the store keep their accounts in every run. -/
theorem redemptions_accounted (platform : Platform) (flow : OIDCAuthCodePKCEFlow)
    (ctx : TokenIssueContext) (requests : Id → AccessTokenRequest × Readings)
    (freshJtis : ∀ id id', randomJti (requests id).2.jtiBytes =
      randomJti (requests id').2.jtiBytes → id = id')
    (run : List (Turn Id StoreCall)) :
    (∀ id, Shown platform ctx (requests id).1 (requests id).2
        (((redemptions platform flow ctx requests).after (unstarted .new) run).locals id)
        (Pool.observations id
          ((redemptions platform flow ctx requests).trace (unstarted .new) run))) ∧
      Accounted platform requests
        ((redemptions platform flow ctx requests).trace (unstarted .new) run)
        ((redemptions platform flow ctx requests).after (unstarted .new) run).shared := by
  refine Pool.interleave_induction (unstarted .new) (fun _ => .ready)
    (fun id phase store observed shown => shown.step store) .start ?_
    (fun history store call accounted => accounted.event call) run
  intro history store mover phase accounted shown
  rcases redemptionStep_store platform flow ctx (requests mover).1 (requests mover).2 phase store
    with ⟨same, notConsumed, notIssued⟩ | ⟨consumed, showed⟩ |
      ⟨authCode, tokens, expiresAt, rfl, recorded, showed⟩
  · rw [same]
    exact accounted.advance_of_unchanged mover notConsumed notIssued
  · rw [consumed, showed]
    exact accounted.advance_of_consumed mover
  · rw [recorded, showed]
    exact accounted.advance_of_issued freshJtis mover authCode expiresAt shown.unrecorded

/-- However redemptions interleave, every record has a consumed key of its own,
each presented code has one winner, the losers are refused, and no response
comes before its record. -/
theorem redemptions_race (platform : Platform) (flow : OIDCAuthCodePKCEFlow)
    (ctx : TokenIssueContext) (requests : Id → AccessTokenRequest × Readings)
    (freshJtis : ∀ id id', randomJti (requests id).2.jtiBytes =
      randomJti (requests id').2.jtiBytes → id = id')
    (distinctKeys : ∀ id id', codeReplayKey platform (requests id).1.code =
      codeReplayKey platform (requests id').1.code → (requests id).1.code = (requests id').1.code)
    (run : List (Turn Id StoreCall)) :
    let pool := (redemptions platform flow ctx requests).after (unstarted .new) run
    let history := (redemptions platform flow ctx requests).trace (unstarted .new) run
    (∃ keyOf : TokenRecord → String,
      Set.InjOn keyOf {record | ∃ id, Issued history id record} ∧
        ∀ id record, Issued history id record →
          keyOf record = codeReplayKey platform (requests id).1.code ∧
            keyOf record ∈ pool.shared.consumedCodes) ∧
      (∀ code, (∃ id first, (requests id).1.code = code ∧ Answered history id first) →
        ∃! id, (requests id).1.code = code ∧ Answered history id true) ∧
      (∀ id, Answered history id false →
        (pool.locals id = .answering (.error codeAlreadyUsed) ∨
          pool.locals id = .finished (.error codeAlreadyUsed)) ∧
        ¬ Answered history id true ∧ ∀ record, ¬ Issued history id record) ∧
      ∀ id response, Returned history id (.ok response) →
        ∃ record claims, Issued history id record ∧
          ctx.jwtIssuer.accessTokenClaims response.accessToken = some claims ∧
          claims.jti = record.jti ∧
          (pool.shared.lookup record.jti = some record ∨ Removed history record.jti) := by
  intro pool history
  obtain ⟨shown, accounted⟩ :=
    redemptions_accounted platform flow ctx requests freshJtis run
  refine ⟨?_, ?_, fun id lost => (shown id).lost lost, ?_⟩
  · have hasKey (record : TokenRecord) : ∃ key, ∀ id, Issued history id record →
        key = codeReplayKey platform (requests id).1.code := by
      by_cases issued : ∃ id, Issued history id record
      · obtain ⟨id, issued⟩ := issued
        refine ⟨codeReplayKey platform (requests id).1.code, fun id' issued' => ?_⟩
        rw [freshJtis id id'
          ((accounted.drawn id record issued).symm.trans (accounted.drawn id' record issued'))]
      · exact ⟨"", fun id elsewhere => absurd ⟨id, elsewhere⟩ issued⟩
    choose keyOf isKey using hasKey
    refine ⟨keyOf, ?_, fun id record issued => ⟨isKey record id issued, ?_⟩⟩
    · rintro record ⟨id, issued⟩ record' ⟨id', issued'⟩ same
      obtain ⟨won, -, only⟩ := (shown id).record issued
      obtain ⟨won', -, -⟩ := (shown id').record issued'
      rw [isKey record id issued, isKey record' id' issued'] at same
      cases accounted.unique id id' won won' same
      exact (only record' issued').symm
    · rw [isKey record id issued]
      exact accounted.consumed id true ((shown id).record issued).1
  · rintro code ⟨id, first, rfl, answered⟩
    obtain ⟨winner, same, won⟩ := accounted.winner _ (accounted.consumed id first answered)
    refine ⟨winner, ⟨distinctKeys winner id same, won⟩, ?_⟩
    rintro other ⟨sameCode, alsoWon⟩
    exact accounted.unique other winner alsoWon won (by rw [sameCode, same])
  · intro id response returned
    obtain ⟨record, claims, issued, read, same⟩ := (shown id).response returned
    exact ⟨record, claims, issued, read, same, accounted.visible id record issued⟩

/-- Of two requests that pass the check, the one that consumes first is told so. -/
theorem answered_of_checked {requests : Bool → AccessTokenRequest × Readings}
    {authCode : AuthorizationCode}
    (checked : ∀ id, flow.checkTokenRequest platform ctx.clients (requests id).1
      (requests id).2.verifiedAt = .ok authCode) :
    Answered ((redemptions platform flow ctx requests).trace (unstarted .new)
      [.advance false, .advance true, .advance true, .advance false]) true true := by
  have unused : codeReplayKey platform (requests true).1.code ∉
      InMemoryTokenStore.new.consumedCodes := by simp
  have won := InMemoryTokenStore.consumeCode_of_notMem unused
  generalize (InMemoryTokenStore.new.consumeCode
    (codeReplayKey platform (requests true).1.code)).2 = left at won
  simp [Answered, Pool.mem_observations, Machine.trace, Machine.answer, Machine.next, redemptions,
    Pool.interleave, unstarted, redemptionStep, checked, won]

/-- Of two requests with one code, `false` checks first, `true` consumes first,
and one wins. -/
theorem redemptions_race_sample :
    ∃! id, (Reference.rivals id).1.code = (Reference.rivals true).1.code ∧
      Answered ((redemptions Reference.platform Reference.flow Reference.state.tokenContext
        Reference.rivals).trace (unstarted .new)
          [.advance false, .advance true, .advance true, .advance false]) id true := by
  have freshJtis : ∀ id id', randomJti (Reference.rivals id).2.jtiBytes =
      randomJti (Reference.rivals id').2.jtiBytes → id = id' := by decide
  exact (redemptions_race Reference.platform Reference.flow Reference.state.tokenContext
    Reference.rivals freshJtis (fun _ _ _ => rfl) _).2.1 _
    ⟨true, true, rfl, answered_of_checked Reference.checkTokenRequest_rivals⟩

end OpenidTlsConnector
