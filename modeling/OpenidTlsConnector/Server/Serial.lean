import OpenidTlsConnector.Foundations.Simulation
import OpenidTlsConnector.Server.Interleaving

/-!
# Racing redemptions in some order

A request that has consumed its code and not yet recorded its token has
reserved the key.  Another request with that key is turned away before the
first one is done, so its place in a serial order is later than its own answer:
the order agrees with the store and with every answer, though not with the
clock.
-/

namespace OpenidTlsConnector

open Foundations OIDCAuthCodePKCEFlow

universe u

variable {Id : Type u} {platform : Platform} {flow : OIDCAuthCodePKCEFlow}
  {ctx : TokenIssueContext} {requests : Id → AccessTokenRequest × Readings}

/-- The requests and the other users of the store, one at a time: each request
runs from its check to its answer. -/
def serially (platform : Platform) (flow : OIDCAuthCodePKCEFlow) (ctx : TokenIssueContext)
    (requests : Id → AccessTokenRequest × Readings) :
    Machine InMemoryTokenStore (Turn Id StoreCall) (Option Observation) where
  step store turn := match turn with
    | .advance mover =>
        (flow.accessTokenRequest platform ctx (requests mover).1 (requests mover).2 store).map
          (some ∘ .returned) id
    | .event call => (storeCalls.step store call).map some id

/-! ## Where a request stands -/

inductive Standing where
  | pending
  | holding
  | answered (outcome : Outcome OIDCError TokenResponse)

namespace Phase

/-- A request holds its key from the consumption to the answer. -/
def standing : Phase → Standing
  | .ready | .checked _ => .pending
  | .consumed _ | .signed _ _ => .holding
  | .answering outcome | .finished outcome => .answered outcome

/-- What a request carries, it has computed. -/
def Justified (platform : Platform) (flow : OIDCAuthCodePKCEFlow) (ctx : TokenIssueContext)
    (req : AccessTokenRequest) (readings : Readings) : Phase → Prop
  | .ready | .answering _ | .finished _ => True
  | .checked authCode | .consumed authCode =>
      flow.checkTokenRequest platform ctx.clients req readings.verifiedAt = .ok authCode
  | .signed authCode tokens =>
      flow.checkTokenRequest platform ctx.clients req readings.verifiedAt = .ok authCode ∧
        signTokens platform ctx req.clientId authCode readings = .ok tokens

end Phase

/-! ## Holding a key -/

section Holding

variable {req : AccessTokenRequest} {readings : Readings} {store : InMemoryTokenStore}

/-- What a request can do that holds its key: go on holding it, or leave it as
issuing does. -/
theorem redemptionStep_of_holding (store : InMemoryTokenStore) {phase : Phase}
    (justified : phase.Justified platform flow ctx req readings)
    (holding : phase.standing = .holding) :
    ((redemptionStep platform flow ctx req readings phase store).2.1.standing = .holding ∧
        (redemptionStep platform flow ctx req readings phase store).2.2 = store) ∨
      ∃ authCode, flow.checkTokenRequest platform ctx.clients req readings.verifiedAt =
          .ok authCode ∧
        (redemptionStep platform flow ctx req readings phase store).2 =
          (issueTokens platform ctx req.clientId authCode readings store).map .answering id := by
  cases phase with
  | ready | checked | answering | finished => cases holding
  | consumed authCode =>
      cases signed : signTokens platform ctx req.clientId authCode readings with
      | panic => exact Or.inr ⟨authCode, justified, by simp [redemptionStep, issueTokens, signed]⟩
      | error error =>
          exact Or.inr ⟨authCode, justified, by simp [redemptionStep, issueTokens, signed]⟩
      | ok tokens => exact Or.inl (by simp [redemptionStep, signed, Phase.standing])
  | signed authCode tokens =>
      obtain ⟨checked, signed⟩ := justified
      refine Or.inr ⟨authCode, checked, ?_⟩
      cases bounded : readings.recordedAt.checkedAdd ctx.accessTokenTtl <;>
        simp [redemptionStep, issueTokens, signed, bounded]

theorem Phase.Justified.step {phase : Phase}
    (justified : phase.Justified platform flow ctx req readings) :
    (redemptionStep platform flow ctx req readings phase store).2.1.Justified platform flow ctx
      req readings := by
  cases phase with
  | ready =>
      cases verdict : flow.checkTokenRequest platform ctx.clients req readings.verifiedAt <;>
        simp [redemptionStep, verdict, Justified]
  | checked authCode =>
      cases replied : store.consumeCode (codeReplayKey platform req.code) with
      | mk first left =>
          cases first with
          | false => simp [redemptionStep, replied, Justified]
          | true => simpa [redemptionStep, replied, Justified] using justified
  | consumed authCode =>
      have checked : flow.checkTokenRequest platform ctx.clients req readings.verifiedAt =
        .ok authCode := justified
      cases signed : signTokens platform ctx req.clientId authCode readings <;>
        simp [redemptionStep, signed, Justified, checked]
  | signed authCode tokens =>
      cases bounded : readings.recordedAt.checkedAdd ctx.accessTokenTtl <;>
        simp [redemptionStep, bounded, Justified]
  | answering | finished => exact trivial

end Holding

/-! ## The two stores -/

/-- The store of the race is the serial one, except that each holder has taken
a key of its own out of it. -/
structure Reserved (keyOf : Id → String) (holders : Set Id) (shared serial : InMemoryTokenStore) :
    Prop where
  records : shared.records = serial.records
  consumed : (shared.consumedCodes : Set String) = ↑serial.consumedCodes ∪ keyOf '' holders
  unspent : ∀ id ∈ holders, keyOf id ∉ serial.consumedCodes
  apart : Set.InjOn keyOf holders

namespace Reserved

variable {keyOf : Id → String} {holders : Set Id} {shared serial : InMemoryTokenStore} {mover : Id}

theorem refl (store : InMemoryTokenStore) : Reserved keyOf ∅ store store where
  records := rfl
  consumed := by simp
  unspent := by simp
  apart := Set.injOn_empty _

theorem eq_of_empty (reserved : Reserved keyOf ∅ shared serial) : serial = shared := by
  obtain ⟨records, consumed, -, -⟩ := reserved
  cases shared
  cases serial
  simp_all

theorem notMem_of_mem (reserved : Reserved keyOf holders shared serial) {key : String}
    (unused : key ∉ shared.consumedCodes) : key ∉ serial.consumedCodes ∧ key ∉ keyOf '' holders := by
  rwa [← Finset.mem_coe, reserved.consumed, Set.mem_union, not_or, Finset.mem_coe] at unused

/-- A request consumes its key. -/
theorem hold (reserved : Reserved keyOf holders shared serial)
    (unused : keyOf mover ∉ shared.consumedCodes) :
    Reserved keyOf (insert mover holders) (shared.consumeCode (keyOf mover)).2 serial := by
  obtain ⟨unspent, elsewhere⟩ := reserved.notMem_of_mem unused
  constructor
  · exact reserved.records
  · rw [InMemoryTokenStore.consumeCode_consumedCodes, Finset.coe_insert, reserved.consumed,
      Set.image_insert_eq, Set.union_insert]
  · intro id membership
    rcases membership with rfl | earlier
    · exact unspent
    · exact reserved.unspent id earlier
  · rw [Set.injOn_insert fun earlier => elsewhere (Set.mem_image_of_mem _ earlier)]
    exact ⟨reserved.apart, elsewhere⟩

/-- A holder is done, in both stores. -/
theorem release (reserved : Reserved keyOf holders shared serial) (holding : mover ∈ holders)
    {shared' serial' : InMemoryTokenStore} (records : shared'.records = serial'.records)
    (kept : shared'.consumedCodes = shared.consumedCodes)
    (spent : serial'.consumedCodes = insert (keyOf mover) serial.consumedCodes) :
    Reserved keyOf (holders \ {mover}) shared' serial' where
  records := records
  consumed := by
    rw [kept, spent, reserved.consumed, Finset.coe_insert, Set.insert_union,
      ← Set.union_insert, ← Set.image_insert_eq, Set.insert_sdiff_singleton,
      Set.insert_eq_of_mem holding]
  unspent := by
    intro id membership
    rw [spent, Finset.mem_insert, not_or]
    refine ⟨fun same => membership.2 ?_, reserved.unspent id membership.1⟩
    exact reserved.apart membership.1 holding same
  apart := reserved.apart.mono Set.sdiff_subset

/-- The other users of the store meet the same records. -/
theorem event (reserved : Reserved keyOf holders shared serial) (call : StoreCall) :
    storeCalls.answer shared call = storeCalls.answer serial call ∧
      Reserved keyOf holders (storeCalls.next shared call) (storeCalls.next serial call) := by
  obtain ⟨records, consumed, unspent, apart⟩ := reserved
  constructor
  · cases call with
    | revoke | lookup =>
        simp [storeCalls, Machine.answer, InMemoryTokenStore.revoke, InMemoryTokenStore.lookup,
          records]
  · constructor
    · cases call with
      | revoke jti => simp [storeCalls, Machine.next, InMemoryTokenStore.revoke, records]
      | lookup => exact records
    · rw [Accounted.consumedCodes_next, Accounted.consumedCodes_next]
      exact consumed
    · rw [Accounted.consumedCodes_next]
      exact unspent
    · exact apart

end Reserved

/-! ## The two histories -/

variable [DecidableEq Id]

/-- A serial history tells of each request at most once, of its answer, and of
every answer but those of the requests still waiting for a place. -/
structure Booked (history shown : History Id) (standing : Id → Standing) (waiting : List Id) :
    Prop where
  once : ((shown.map Prod.fst).filterMap Turn.mover?).Nodup
  settled : ∀ id observation, (.advance id, observation) ∈ shown →
    ∃ outcome, observation = some (.returned outcome) ∧ standing id = .answered outcome
  distinct : waiting.Nodup
  waits : ∀ id ∈ waiting, standing id = .answered (.error codeAlreadyUsed) ∧
    ∀ observation, (.advance id, observation) ∉ shown
  answered : ∀ id outcome, standing id = .answered outcome →
    (.advance id, some (.returned outcome)) ∈ shown ∨ id ∈ waiting
  replied : Pool.replies shown = Pool.replies history

namespace Booked

variable {history shown : History Id} {standing : Id → Standing} {waiting : List Id} {mover : Id}
  {observation : Option Observation}

omit [DecidableEq Id] in
theorem mover_mem_iff {id : Id} :
    id ∈ (shown.map Prod.fst).filterMap Turn.mover? ↔
      ∃ observation, (.advance id, observation) ∈ shown := by
  simp only [List.mem_filterMap, List.mem_map, Prod.exists, exists_and_right, exists_eq_right]
  constructor
  · intro membership
    obtain ⟨turn, ⟨observation, found⟩, mine⟩ := membership
    cases turn with
    | event => cases mine
    | advance other =>
        cases mine
        exact ⟨observation, found⟩
  · intro membership
    obtain ⟨observation, found⟩ := membership
    exact ⟨_, ⟨observation, found⟩, rfl⟩

omit [DecidableEq Id] in
theorem start (unanswered : ∀ id outcome, standing id ≠ .answered outcome) :
    Booked [] [] standing [] where
  once := List.nodup_nil
  settled := by simp
  distinct := List.nodup_nil
  waits := by simp
  answered := fun id outcome here => absurd here (unanswered id outcome)
  replied := rfl

omit [DecidableEq Id] in
/-- A step that leaves the request where it stood. -/
theorem stay (booked : Booked history shown standing waiting) :
    Booked (history ++ [(.advance mover, observation)]) shown standing waiting where
  once := booked.once
  settled := booked.settled
  distinct := booked.distinct
  waits := booked.waits
  answered := booked.answered
  replied := by rw [booked.replied, Pool.replies_snoc_advance]

omit [DecidableEq Id] in
/-- A request without an answer is told of nowhere. -/
theorem untold (booked : Booked history shown standing waiting)
    (unanswered : ∀ outcome, standing mover ≠ .answered outcome) :
    mover ∉ waiting ∧ ∀ observation, (.advance mover, observation) ∉ shown := by
  constructor
  · intro waits
    exact unanswered _ (booked.waits mover waits).1
  · intro observation told
    obtain ⟨outcome, -, here⟩ := booked.settled mover observation told
    exact unanswered _ here

/-- A request goes on without an answer. -/
theorem proceed (booked : Booked history shown standing waiting) {next : Standing}
    (unanswered : ∀ outcome, standing mover ≠ .answered outcome)
    (still : ∀ outcome, next ≠ .answered outcome) :
    Booked (history ++ [(.advance mover, observation)]) shown
      (Function.update standing mover next) waiting := by
  obtain ⟨notWaiting, notShown⟩ := booked.untold unanswered
  refine ⟨booked.once, ?_, booked.distinct, ?_, ?_, ?_⟩
  · intro id shownThere told
    have other : id ≠ mover := fun same => notShown shownThere (same ▸ told)
    rw [Function.update_of_ne other]
    exact booked.settled id shownThere told
  · intro id waits
    have other : id ≠ mover := fun same => notWaiting (same ▸ waits)
    rw [Function.update_of_ne other]
    exact booked.waits id waits
  · intro id outcome here
    by_cases same : id = mover
    · subst same
      rw [Function.update_self] at here
      exact absurd here (still outcome)
    · rw [Function.update_of_ne same] at here
      exact booked.answered id outcome here
  · rw [booked.replied, Pool.replies_snoc_advance]

/-- A request finds its code used, and waits. -/
theorem lose (booked : Booked history shown standing waiting)
    (unanswered : ∀ outcome, standing mover ≠ .answered outcome) :
    Booked (history ++ [(.advance mover, observation)]) shown
      (Function.update standing mover (.answered (.error codeAlreadyUsed))) (mover :: waiting) := by
  obtain ⟨notWaiting, notShown⟩ := booked.untold unanswered
  refine ⟨booked.once, ?_, List.nodup_cons.mpr ⟨notWaiting, booked.distinct⟩, ?_, ?_, ?_⟩
  · intro id shownThere told
    have other : id ≠ mover := fun same => notShown shownThere (same ▸ told)
    rw [Function.update_of_ne other]
    exact booked.settled id shownThere told
  · intro id waits
    rcases List.mem_cons.mp waits with rfl | earlier
    · exact ⟨Function.update_self _ _ _, notShown⟩
    · have other : id ≠ mover := fun same => notWaiting (same ▸ earlier)
      rw [Function.update_of_ne other]
      exact booked.waits id earlier
  · intro id outcome here
    by_cases same : id = mover
    · exact Or.inr (same ▸ List.mem_cons_self)
    · rw [Function.update_of_ne same] at here
      exact (booked.answered id outcome here).imp_right (List.mem_cons_of_mem _)
  · rw [booked.replied, Pool.replies_snoc_advance]

/-- A request gets its answer, and its place. -/
theorem settle (booked : Booked history shown standing waiting)
    (unanswered : ∀ outcome, standing mover ≠ .answered outcome)
    (outcome : Outcome OIDCError TokenResponse) :
    Booked (history ++ [(.advance mover, observation)])
      (shown ++ [(.advance mover, some (.returned outcome))])
      (Function.update standing mover (.answered outcome)) waiting := by
  obtain ⟨notWaiting, notShown⟩ := booked.untold unanswered
  refine ⟨?_, ?_, booked.distinct, ?_, ?_, ?_⟩
  · have absent : mover ∉ (shown.map Prod.fst).filterMap Turn.mover? := by
      intro present
      obtain ⟨observation, told⟩ := mover_mem_iff.mp present
      exact notShown observation told
    rw [List.map_append, List.filterMap_append]
    exact List.nodup_append.mpr ⟨booked.once, List.nodup_singleton mover,
      fun id present other isMover same => absent (by
        rwa [← List.mem_singleton.mp isMover, ← same])⟩
  · intro id shownThere told
    rcases List.mem_append.mp told with earlier | now
    · have other : id ≠ mover := fun same => notShown shownThere (same ▸ earlier)
      rw [Function.update_of_ne other]
      exact booked.settled id shownThere earlier
    · cases List.mem_singleton.mp now
      exact ⟨outcome, rfl, Function.update_self _ _ _⟩
  · intro id waits
    have other : id ≠ mover := fun same => notWaiting (same ▸ waits)
    rw [Function.update_of_ne other]
    refine ⟨(booked.waits id waits).1, fun shownThere told => ?_⟩
    rcases List.mem_append.mp told with earlier | now
    · exact (booked.waits id waits).2 shownThere earlier
    · cases List.mem_singleton.mp now
      exact other rfl
  · intro id reached here
    by_cases same : id = mover
    · subst same
      rw [Function.update_self] at here
      cases here
      exact Or.inl (by simp)
    · rw [Function.update_of_ne same] at here
      exact (booked.answered id reached here).imp_left (List.mem_append_left _)
  · rw [Pool.replies_snoc_advance, Pool.replies_snoc_advance, booked.replied]

omit [DecidableEq Id] in
/-- The other users of the store are told of in both, in the same order. -/
theorem event (booked : Booked history shown standing waiting) (call : StoreCall) :
    Booked (history ++ [(.event call, observation)]) (shown ++ [(.event call, observation)])
      standing waiting := by
  refine ⟨?_, ?_, booked.distinct, ?_, ?_, ?_⟩
  · simpa [Turn.mover?, List.filterMap_cons] using booked.once
  · intro id shownThere told
    exact booked.settled id shownThere (by simpa using told)
  · intro id waits
    exact ⟨(booked.waits id waits).1, by simpa using (booked.waits id waits).2⟩
  · intro id outcome here
    exact (booked.answered id outcome here).imp_left (List.mem_append_left _)
  · rw [Pool.replies_snoc_event, Pool.replies_snoc_event, booked.replied]

end Booked

/-! ## The simulation -/

/-- The requests that have reserved their keys. -/
def holders (standing : Id → Standing) : Set Id := {id | standing id = .holding}

theorem holders_update_holding (standing : Id → Standing) (mover : Id) :
    holders (Function.update standing mover .holding) = insert mover (holders standing) := by
  ext id
  by_cases same : id = mover <;> simp [holders, same]

theorem holders_update_of_ne (standing : Id → Standing) (mover : Id) {next : Standing}
    (released : next ≠ .holding) :
    holders (Function.update standing mover next) = holders standing \ {mover} := by
  ext id
  by_cases same : id = mover <;> simp [holders, same, released]

/-- The race and a serial run of it agree so far. -/
structure Serialized (platform : Platform) (flow : OIDCAuthCodePKCEFlow) (ctx : TokenIssueContext)
    (requests : Id → AccessTokenRequest × Readings) (history : History Id)
    (pool : Pool Id InMemoryTokenStore Phase) (shown : History Id) (serial : InMemoryTokenStore)
    (waiting : List Id) : Prop where
  justified : ∀ id, (pool.locals id).Justified platform flow ctx (requests id).1 (requests id).2
  reserved : Reserved (fun id => codeReplayKey platform (requests id).1.code)
    (holders (Phase.standing ∘ pool.locals)) pool.shared serial
  booked : Booked history shown (Phase.standing ∘ pool.locals) waiting
  beaten : ∀ id ∈ waiting, (∃ authCode, flow.checkTokenRequest platform ctx.clients
      (requests id).1 (requests id).2.verifiedAt = .ok authCode) ∧
    codeReplayKey platform (requests id).1.code ∈ pool.shared.consumedCodes

/-- The serial run can be continued to agree with the race. -/
def Continues (platform : Platform) (flow : OIDCAuthCodePKCEFlow) (ctx : TokenIssueContext)
    (requests : Id → AccessTokenRequest × Readings) (history : History Id)
    (pool : Pool Id InMemoryTokenStore Phase) (shown : History Id) (serial : InMemoryTokenStore) :
    Prop :=
  ∃ emitted waiting, Serialized platform flow ctx requests history pool
    (shown ++ (serially platform flow ctx requests).trace serial emitted)
    ((serially platform flow ctx requests).after serial emitted) waiting

namespace Serialized

variable {history shown : History Id} {pool : Pool Id InMemoryTokenStore Phase}
  {serial : InMemoryTokenStore} {waiting : List Id} {mover : Id} {observation : Option Observation}
  {next : Phase} {left : InMemoryTokenStore}

omit [DecidableEq Id] in
theorem start (store : InMemoryTokenStore) :
    Serialized platform flow ctx requests [] (unstarted store) [] store [] where
  justified _ := trivial
  reserved := by
    have nobody : holders (Phase.standing ∘ (unstarted store : Pool Id InMemoryTokenStore Phase).locals) = ∅ := by
      simp [holders, unstarted, Phase.standing]
    rw [nobody]
    exact Reserved.refl store
  booked := Booked.start (by simp [unstarted, Phase.standing])
  beaten := by simp

theorem justified_update (serialized : Serialized platform flow ctx requests history pool shown
      serial waiting)
    (justified : next.Justified platform flow ctx (requests mover).1 (requests mover).2) (id : Id) :
    (Function.update pool.locals mover next id).Justified platform flow ctx (requests id).1
      (requests id).2 := by
  by_cases same : id = mover
  · subst same
    rwa [Function.update_self]
  · rw [Function.update_of_ne same]
    exact serialized.justified id

/-- The request stands where it stood. -/
theorem wait (serialized : Serialized platform flow ctx requests history pool shown serial waiting)
    (next : Phase)
    (justified : next.Justified platform flow ctx (requests mover).1 (requests mover).2)
    (same : next.standing = (pool.locals mover).standing) :
    Serialized platform flow ctx requests (history ++ [(.advance mover, observation)])
      { shared := pool.shared, locals := Function.update pool.locals mover next } shown serial
      waiting := by
  have unmoved : Phase.standing ∘ Function.update pool.locals mover next =
      Phase.standing ∘ pool.locals := by
    rw [Function.comp_update, same]
    exact Function.update_eq_self mover _
  constructor
  · exact serialized.justified_update justified
  · rw [unmoved]
    exact serialized.reserved
  · rw [unmoved]
    exact serialized.booked.stay
  · exact serialized.beaten

/-- The request consumes its key. -/
theorem hold (serialized : Serialized platform flow ctx requests history pool shown serial waiting)
    (next : Phase)
    (justified : next.Justified platform flow ctx (requests mover).1 (requests mover).2)
    (pending : (pool.locals mover).standing = .pending) (holding : next.standing = .holding)
    (unused : codeReplayKey platform (requests mover).1.code ∉ pool.shared.consumedCodes) :
    Serialized platform flow ctx requests (history ++ [(.advance mover, observation)])
      { shared := (pool.shared.consumeCode (codeReplayKey platform (requests mover).1.code)).2
        locals := Function.update pool.locals mover next } shown serial waiting := by
  constructor
  · exact serialized.justified_update justified
  · rw [Function.comp_update, holding, holders_update_holding]
    exact serialized.reserved.hold unused
  · rw [Function.comp_update]
    apply serialized.booked.proceed
    · simp [pending]
    · simp [holding]
  · intro id waits
    obtain ⟨checked, consumed⟩ := serialized.beaten id waits
    exact ⟨checked, Finset.mem_insert_of_mem consumed⟩

/-- The request finds its key consumed. -/
theorem lose (serialized : Serialized platform flow ctx requests history pool shown serial waiting)
    (pending : (pool.locals mover).standing = .pending) {authCode : AuthorizationCode}
    (checked : flow.checkTokenRequest platform ctx.clients (requests mover).1
      (requests mover).2.verifiedAt = .ok authCode)
    (used : codeReplayKey platform (requests mover).1.code ∈ pool.shared.consumedCodes) :
    Serialized platform flow ctx requests (history ++ [(.advance mover, observation)])
      { shared := pool.shared
        locals := Function.update pool.locals mover (.answering (.error codeAlreadyUsed)) }
      shown serial (mover :: waiting) := by
  constructor
  · exact serialized.justified_update trivial
  · rw [Function.comp_update, holders_update_of_ne _ _ (by simp [Phase.standing]),
      Set.sdiff_singleton_eq_self (by simp [holders, pending])]
    exact serialized.reserved
  · rw [Function.comp_update]
    apply serialized.booked.lose
    simp [pending]
  · intro id waits
    rcases List.mem_cons.mp waits with rfl | earlier
    · exact ⟨⟨authCode, checked⟩, used⟩
    · exact serialized.beaten id earlier

/-- The request is answered, and the serial run answers it now. -/
theorem settle (serialized : Serialized platform flow ctx requests history pool shown serial
      waiting) {outcome : Outcome OIDCError TokenResponse} {serial' : InMemoryTokenStore}
    (unanswered : ∀ earlier, (pool.locals mover).standing ≠ .answered earlier)
    (kept : left.consumedCodes = pool.shared.consumedCodes)
    (reserved : Reserved (fun id => codeReplayKey platform (requests id).1.code)
      (holders (Phase.standing ∘ pool.locals) \ {mover}) left serial') :
    Serialized platform flow ctx requests (history ++ [(.advance mover, observation)])
      { shared := left, locals := Function.update pool.locals mover (.answering outcome) }
      (shown ++ [(.advance mover, some (.returned outcome))]) serial' waiting := by
  constructor
  · exact serialized.justified_update trivial
  · rw [Function.comp_update, holders_update_of_ne _ _ (by simp [Phase.standing])]
    exact reserved
  · rw [Function.comp_update]
    exact serialized.booked.settle unanswered outcome
  · intro id waits
    rw [kept]
    exact serialized.beaten id waits

omit [DecidableEq Id] in
theorem continues (serialized : Serialized platform flow ctx requests history pool shown serial
    waiting) : Continues platform flow ctx requests history pool shown serial :=
  ⟨[], waiting, by simpa [Machine.trace] using serialized⟩

omit [DecidableEq Id] in
theorem continues_request (serialized : Serialized platform flow ctx requests history pool
      (shown ++ [(.advance mover, some (.returned (flow.accessTokenRequest platform ctx
        (requests mover).1 (requests mover).2 serial).1))])
      (flow.accessTokenRequest platform ctx (requests mover).1 (requests mover).2 serial).2
      waiting) :
    Continues platform flow ctx requests history pool shown serial :=
  ⟨[.advance mover], waiting, serialized⟩

/-- A step of a request is matched by nothing, or by the whole request. -/
theorem advance (serialized : Serialized platform flow ctx requests history pool shown serial
      waiting) (mover : Id) :
    Continues platform flow ctx requests
      (history ++ [(.advance mover,
        (redemptions platform flow ctx requests).answer pool (.advance mover))])
      ((redemptions platform flow ctx requests).next pool (.advance mover)) shown serial := by
  change Continues platform flow ctx requests
    (history ++ [(.advance mover, (redemptionStep platform flow ctx (requests mover).1
      (requests mover).2 (pool.locals mover) pool.shared).1)])
    { shared := (redemptionStep platform flow ctx (requests mover).1 (requests mover).2
        (pool.locals mover) pool.shared).2.2
      locals := Function.update pool.locals mover (redemptionStep platform flow ctx
        (requests mover).1 (requests mover).2 (pool.locals mover) pool.shared).2.1 }
    shown serial
  have justified := serialized.justified mover
  cases stands : (pool.locals mover).standing with
  | pending =>
      cases here : pool.locals mover with
      | consumed | signed | answering | finished => simp [here, Phase.standing] at stands
      | ready =>
          cases verdict : flow.checkTokenRequest platform ctx.clients (requests mover).1
              (requests mover).2.verifiedAt with
          | ok authCode =>
              simp only [redemptionStep, verdict]
              exact (serialized.wait (.checked authCode) verdict stands.symm).continues
          | error error =>
              simp only [redemptionStep, verdict]
              apply continues_request
              rw [accessTokenRequest_of_refused ctx verdict]
              apply serialized.settle (by simp [stands]) rfl
              rw [Set.sdiff_singleton_eq_self (by simp [holders, stands])]
              exact serialized.reserved
      | checked authCode =>
          have checked : flow.checkTokenRequest platform ctx.clients (requests mover).1
              (requests mover).2.verifiedAt = .ok authCode := by simpa [here, Phase.Justified] using justified
          by_cases used : codeReplayKey platform (requests mover).1.code ∈
              pool.shared.consumedCodes
          · simp only [redemptionStep, InMemoryTokenStore.consumeCode_of_mem used]
            exact (serialized.lose stands checked used).continues
          · simp only [redemptionStep]
            rw [InMemoryTokenStore.consumeCode_of_notMem used]
            exact (serialized.hold (.consumed authCode) checked stands rfl used).continues
  | holding =>
      rcases redemptionStep_of_holding pool.shared justified stands with
        ⟨holds, unchanged⟩ | ⟨authCode, checked, leaves⟩
      · rw [unchanged]
        exact (serialized.wait _ justified.step (holds.trans stands.symm)).continues
      · have holding : mover ∈ holders (Phase.standing ∘ pool.locals) := stands
        have same : pool.shared.records = (serial.consumeCode
            (codeReplayKey platform (requests mover).1.code)).2.records :=
          serialized.reserved.records
        obtain ⟨sameOutcome, sameRecords⟩ := issueTokens_congr platform ctx
          (requests mover).1.clientId authCode (requests mover).2 same
        rw [leaves]
        apply continues_request
        rw [accessTokenRequest_of_unused ctx checked (serialized.reserved.unspent mover holding),
          ← sameOutcome]
        apply serialized.settle (by simp [stands]) (issueTokens_consumedCodes _ _)
        apply serialized.reserved.release holding sameRecords
        · exact issueTokens_consumedCodes _ _
        · rw [issueTokens_consumedCodes, InMemoryTokenStore.consumeCode_consumedCodes]
  | answered outcome =>
      cases here : pool.locals mover with
      | ready | checked | consumed | signed => simp [here, Phase.standing] at stands
      | answering earlier | finished earlier =>
          apply Serialized.continues
          apply serialized.wait (.finished earlier) trivial
          simp [here, Phase.standing]

/-- A call of another user is matched by itself. -/
theorem event (serialized : Serialized platform flow ctx requests history pool shown serial
      waiting) (call : StoreCall) :
    Continues platform flow ctx requests
      (history ++ [(.event call,
        (redemptions platform flow ctx requests).answer pool (.event call))])
      ((redemptions platform flow ctx requests).next pool (.event call)) shown serial := by
  obtain ⟨sameReply, reserved⟩ := serialized.reserved.event call
  refine ⟨[.event call], waiting, serialized.justified, reserved, ?_, ?_⟩
  · change Booked (history ++ [(.event call, some (storeCalls.answer pool.shared call))])
      (shown ++ [(.event call, some (storeCalls.answer serial call))])
      (Phase.standing ∘ pool.locals) waiting
    rw [← sameReply]
    exact serialized.booked.event call
  · intro id waits
    obtain ⟨checked, consumed⟩ := serialized.beaten id waits
    refine ⟨checked, ?_⟩
    change _ ∈ (storeCalls.next pool.shared call).consumedCodes
    rwa [Accounted.consumedCodes_next]

/-- Every race has a serial run that agrees with it but for those who wait. -/
theorem exists_order (platform : Platform) (flow : OIDCAuthCodePKCEFlow) (ctx : TokenIssueContext)
    (requests : Id → AccessTokenRequest × Readings) (store : InMemoryTokenStore)
    (run : List (Turn Id StoreCall)) :
    ∃ order waiting, Serialized platform flow ctx requests
      ((redemptions platform flow ctx requests).trace (unstarted store) run)
      ((redemptions platform flow ctx requests).after (unstarted store) run)
      ((serially platform flow ctx requests).trace store order)
      ((serially platform flow ctx requests).after store order) waiting := by
  apply Machine.exists_simulating_run
    (fun history pool shown serial => ∃ waiting,
      Serialized platform flow ctx requests history pool shown serial waiting)
  · exact ⟨[], start store⟩
  · intro history pool shown serial turn agrees
    obtain ⟨waiting, serialized⟩ := agrees
    cases turn with
    | advance mover => exact serialized.advance mover
    | event call => exact serialized.event call

omit [DecidableEq Id] in
/-- Those who wait find their codes used, whenever they are served. -/
theorem serve_waiting (serialized : Serialized platform flow ctx requests history pool shown serial
      waiting) (idle : ∀ id, (pool.locals id).standing ≠ .holding) :
    serial = pool.shared ∧
      (serially platform flow ctx requests).after serial (waiting.map .advance) = serial ∧
      (serially platform flow ctx requests).trace serial (waiting.map .advance) =
        waiting.map fun id => (.advance id, some (.returned (.error codeAlreadyUsed))) := by
  have nobody : holders (Phase.standing ∘ pool.locals) = ∅ :=
    Set.eq_empty_of_forall_notMem idle
  have same : serial = pool.shared := (nobody ▸ serialized.reserved).eq_of_empty
  have refused (id : Id) (waits : id ∈ waiting) : flow.accessTokenRequest platform ctx
      (requests id).1 (requests id).2 serial = (.error codeAlreadyUsed, serial) := by
    obtain ⟨⟨authCode, checked⟩, consumed⟩ := serialized.beaten id waits
    exact accessTokenRequest_of_used ctx checked (same ▸ consumed)
  refine ⟨same, ?_⟩
  clear serialized
  induction waiting with
  | nil => exact ⟨rfl, rfl⟩
  | cons id waiting inductionHypothesis =>
      have here := refused id List.mem_cons_self
      obtain ⟨after, trace⟩ := inductionHypothesis fun other waits =>
        refused other (List.mem_cons_of_mem _ waits)
      constructor
      · simpa [Machine.next, serially, here] using after
      · simpa [Machine.trace, Machine.answer, Machine.next, serially, here] using trace

end Serialized

/-- The answer is shown by the last step, and the request stays finished. -/
theorem redemptionStep_returned {req : AccessTokenRequest} {readings : Readings} {phase : Phase}
    {store : InMemoryTokenStore} {outcome : Outcome OIDCError TokenResponse}
    (shows : (redemptionStep platform flow ctx req readings phase store).1 =
      some (.returned outcome)) : phase = .answering outcome := by
  cases phase with
  | ready =>
      cases verdict : flow.checkTokenRequest platform ctx.clients req readings.verifiedAt <;>
        simp [redemptionStep, verdict] at shows
  | checked authCode =>
      cases replied : store.consumeCode (codeReplayKey platform req.code) with
      | mk first left => cases first <;> simp [redemptionStep, replied] at shows
  | consumed authCode =>
      cases signed : signTokens platform ctx req.clientId authCode readings <;>
        simp [redemptionStep, signed] at shows
  | signed authCode tokens =>
      cases bounded : readings.recordedAt.checkedAdd ctx.accessTokenTtl <;>
        simp [redemptionStep, bounded] at shows
  | answering reached =>
      cases shows
      rfl
  | finished => cases shows

theorem finished_of_returned (platform : Platform) (flow : OIDCAuthCodePKCEFlow)
    (ctx : TokenIssueContext) (requests : Id → AccessTokenRequest × Readings)
    (store : InMemoryTokenStore) (run : List (Turn Id StoreCall)) {id : Id}
    {outcome : Outcome OIDCError TokenResponse}
    (returned : Returned ((redemptions platform flow ctx requests).trace (unstarted store) run) id
      outcome) :
    ((redemptions platform flow ctx requests).after (unstarted store) run).locals id =
      .finished outcome := by
  refine (@Pool.interleave_induction _ _ _ _ _ _ _ _ (unstarted store)
    (fun _ phase observed => ∀ outcome, .returned outcome ∈ observed → phase = .finished outcome)
    (fun _ _ => True) (by simp) ?_ trivial (by simp) (by simp) run).1 id outcome returned
  intro id phase shared observed told outcome seen
  rcases List.mem_append.mp seen with earlier | now
  · rw [told outcome earlier]
    rfl
  · rw [redemptionStep_returned (Option.mem_toList.mp now)]
    rfl

/-- However redemptions interleave with each other and with the other users of
the store, once nobody stands between the consumption of a code and the answer
there is an order in which the same requests, each run whole and once, give the
same answers, leave the same store, and the other users get the same replies. -/
theorem redemptions_serializable (platform : Platform) (flow : OIDCAuthCodePKCEFlow)
    (ctx : TokenIssueContext) (requests : Id → AccessTokenRequest × Readings)
    (store : InMemoryTokenStore) (run : List (Turn Id StoreCall))
    (idle : ∀ id, (((redemptions platform flow ctx requests).after (unstarted store) run).locals
      id).standing ≠ .holding) :
    let race := redemptions platform flow ctx requests
    let order := serially platform flow ctx requests
    ∃ turns,
      order.after store turns = (race.after (unstarted store) run).shared ∧
      (turns.filterMap Turn.mover?).Nodup ∧
      (∀ id outcome, (.advance id, some (.returned outcome)) ∈ order.trace store turns ↔
        ((race.after (unstarted store) run).locals id).standing = .answered outcome) ∧
      (∀ id outcome, Returned (race.trace (unstarted store) run) id outcome →
        (.advance id, some (.returned outcome)) ∈ order.trace store turns) ∧
      Pool.replies (order.trace store turns) = Pool.replies (race.trace (unstarted store) run) := by
  intro race order
  obtain ⟨turns, waiting, serialized⟩ :=
    Serialized.exists_order platform flow ctx requests store run
  obtain ⟨same, served, told⟩ := serialized.serve_waiting idle
  have booked := serialized.booked
  have trace : order.trace store (turns ++ waiting.map .advance) = order.trace store turns ++
      waiting.map fun id => (.advance id, some (.returned (.error codeAlreadyUsed))) := by
    rw [Machine.trace_append]
    exact congrArg _ told
  have answers (id : Id) (outcome : Outcome OIDCError TokenResponse) :
      (.advance id, some (.returned outcome)) ∈
          order.trace store (turns ++ waiting.map .advance) ↔
        ((race.after (unstarted store) run).locals id).standing = .answered outcome := by
    rw [trace, List.mem_append]
    constructor
    · intro membership
      rcases membership with placed | late
      · obtain ⟨_, isReturned, stands⟩ := booked.settled id _ placed
        cases isReturned
        exact stands
      · simp only [List.mem_map, Prod.mk.injEq, Turn.advance.injEq, Option.some.injEq,
          Observation.returned.injEq] at late
        obtain ⟨_, waits, rfl, rfl⟩ := late
        exact (booked.waits _ waits).1
    · intro stands
      rcases booked.answered id outcome stands with placed | waits
      · exact Or.inl placed
      · refine Or.inr (List.mem_map.mpr ⟨id, waits, ?_⟩)
        cases stands.symm.trans (booked.waits id waits).1
        rfl
  refine ⟨turns ++ waiting.map .advance, ?_, ?_, answers, ?_, ?_⟩
  · rw [Machine.after_append]
    exact served.trans same
  · have once := booked.once
    rw [Machine.map_fst_trace] at once
    rw [List.filterMap_append, List.filterMap_map, Function.comp_def]
    simp only [Turn.mover?, List.filterMap_some]
    refine List.nodup_append.mpr ⟨once, booked.distinct, ?_⟩
    rintro id placed other waits rfl
    rw [← order.map_fst_trace store turns] at placed
    obtain ⟨observation, found⟩ := Booked.mover_mem_iff.mp placed
    exact (booked.waits id waits).2 observation found
  · intro id outcome returned
    rw [answers, finished_of_returned platform flow ctx requests store run returned]
    rfl
  · rw [trace, ← booked.replied]
    simp [Pool.replies, List.filterMap_append, List.filterMap_map, order]

/-- `true` consumes first, and `false` is answered while `true` holds the key. -/
def overtakingSchedule : List (Turn Bool StoreCall) :=
  [.advance false, .advance true, .advance true, .advance false, .advance false,
    .event (.lookup ""), .advance true, .advance true, .advance true]

theorem idle_of_checked {requests : Bool → AccessTokenRequest × Readings}
    {authCode : AuthorizationCode}
    (checked : ∀ id, flow.checkTokenRequest platform ctx.clients (requests id).1
      (requests id).2.verifiedAt = .ok authCode)
    (sameCode : (requests false).1.code = (requests true).1.code) (id : Bool) :
    (((redemptions platform flow ctx requests).after (unstarted .new) overtakingSchedule).locals
      id).standing ≠ .holding := by
  have used : codeReplayKey platform (requests false).1.code ∈
      (InMemoryTokenStore.new.consumeCode
        (codeReplayKey platform (requests true).1.code)).2.consumedCodes := by simp [sameCode]
  have fresh : codeReplayKey platform (requests true).1.code ∉
      InMemoryTokenStore.new.consumedCodes := by simp
  have won := InMemoryTokenStore.consumeCode_of_notMem fresh
  have lost := InMemoryTokenStore.consumeCode_of_mem used
  generalize (InMemoryTokenStore.new.consumeCode
    (codeReplayKey platform (requests true).1.code)).2 = left at won lost
  cases signed : signTokens platform ctx (requests true).1.clientId authCode (requests true).2 with
  | panic | error =>
      cases id <;>
        simp [overtakingSchedule, Machine.next, redemptions, Pool.interleave, unstarted,
          redemptionStep, checked, won, lost, signed, Phase.standing, storeCalls]
  | ok tokens =>
      cases bounded : (requests true).2.recordedAt.checkedAdd ctx.accessTokenTtl <;> cases id <;>
        simp [overtakingSchedule, Machine.next, redemptions, Pool.interleave, unstarted,
          redemptionStep, checked, won, lost, signed, bounded, Phase.standing, storeCalls]

theorem redemptions_serializable_sample :
    ∃ turns, (serially Reference.platform Reference.flow Reference.state.tokenContext
        Reference.rivals).after .new turns =
      ((redemptions Reference.platform Reference.flow Reference.state.tokenContext
        Reference.rivals).after (unstarted .new) overtakingSchedule).shared := by
  obtain ⟨turns, same, -⟩ := redemptions_serializable Reference.platform Reference.flow
    Reference.state.tokenContext Reference.rivals .new overtakingSchedule
    (idle_of_checked Reference.checkTokenRequest_rivals rfl)
  exact ⟨turns, same⟩

end OpenidTlsConnector
