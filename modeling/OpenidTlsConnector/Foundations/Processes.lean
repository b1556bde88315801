import Mathlib.Logic.Function.Iterate
import OpenidTlsConnector.Foundations.Machine

/-!
# Processes that share state

Any number of processes take turns.  A turn is one atomic step of one process
on its local state and the shared one, or an event of the environment, which
touches the shared state only.  No other turn changes a process's local state
or its observations, so an assertion about these two is checked against the
process's own steps alone; an invariant of the shared state may rely on it.
-/

namespace Foundations

universe u v w x y

/-- One atomic step of a process: what it shows, if anything, its next local
state, and the shared state it leaves. -/
abbrev Process (Shared : Type v) (Local : Type w) (Observation : Type x) :=
  Local → Shared → Option Observation × Local × Shared

structure Pool (Id : Type u) (Shared : Type v) (Local : Type w) where
  shared : Shared
  locals : Id → Local

inductive Turn (Id : Type u) (Event : Type y) where
  | advance (id : Id)
  | event (event : Event)

/-- The process whose turn it is. -/
def Turn.mover? {Id : Type u} {Event : Type y} : Turn Id Event → Option Id
  | .advance id => some id
  | .event _ => none

namespace Pool

variable {Id : Type u} {Shared : Type v} {Local : Type w} {Observation : Type x} {Event : Type y}
  [DecidableEq Id]

def interleave (process : Id → Process Shared Local Observation)
    (environment : Machine Shared Event Observation) :
    Machine (Pool Id Shared Local) (Turn Id Event) (Option Observation) where
  step pool turn := match turn with
    | .advance id =>
        let moved := process id (pool.locals id) pool.shared
        (moved.1, {
          shared := moved.2.2
          locals := Function.update pool.locals id moved.2.1 })
    | .event event =>
        let moved := environment.step pool.shared event
        (some moved.1, { pool with shared := moved.2 })

/-- What one process has shown. -/
def observations (id : Id) (history : List (Turn Id Event × Option Observation)) :
    List Observation :=
  history.filterMap fun entry => match entry with
    | (.advance other, observation) => if other = id then observation else none
    | (.event _, _) => none

theorem mem_observations {id : Id} {history : List (Turn Id Event × Option Observation)}
    {observation : Observation} :
    observation ∈ observations id history ↔ (.advance id, some observation) ∈ history := by
  simp only [observations, List.mem_filterMap]
  constructor
  · rintro ⟨⟨turn, shown⟩, membership, mine⟩
    cases turn with
    | advance other =>
        by_cases same : other = id
        · simp only [same, if_true] at mine
          rwa [same, mine] at membership
        · simp [same] at mine
    | event => cases mine
  · intro membership
    exact ⟨_, membership, by simp⟩

variable {process : Id → Process Shared Local Observation}
  {environment : Machine Shared Event Observation} (pool : Pool Id Shared Local)

@[simp]
theorem observations_snoc_advance (id other : Id)
    (history : List (Turn Id Event × Option Observation)) (shown : Option Observation) :
    observations id (history ++ [(.advance other, shown)]) =
      if other = id then observations id history ++ shown.toList else observations id history := by
  by_cases same : other = id <;> cases shown <;> simp [observations, same]

@[simp]
theorem observations_snoc_event (id : Id) (history : List (Turn Id Event × Option Observation))
    (event : Event) (shown : Option Observation) :
    observations id (history ++ [(.event event, shown)]) = observations id history := by
  simp [observations]

/-- What the environment was told, in order. -/
def replies (history : List (Turn Id Event × Option Observation)) :
    List (Event × Option Observation) :=
  history.filterMap fun entry => match entry with
    | (.advance _, _) => none
    | (.event event, reply) => some (event, reply)

omit [DecidableEq Id] in
@[simp]
theorem replies_snoc_advance (id : Id) (history : List (Turn Id Event × Option Observation))
    (shown : Option Observation) :
    replies (history ++ [(.advance id, shown)]) = replies history := by
  simp [replies]

omit [DecidableEq Id] in
@[simp]
theorem replies_snoc_event (event : Event) (history : List (Turn Id Event × Option Observation))
    (reply : Option Observation) :
    replies (history ++ [(.event event, reply)]) = replies history ++ [(event, reply)] := by
  simp [replies]

/-- The proof rule: every process keeps its own assertion, and each turn keeps
the invariant, given the assertion of the process that takes it. -/
theorem interleave_induction {assertion : Id → Local → List Observation → Prop}
    {invariant : List (Turn Id Event × Option Observation) → Shared → Prop}
    (starts : ∀ id, assertion id (pool.locals id) [])
    (keeps : ∀ id here shared observed, assertion id here observed →
      assertion id (process id here shared).2.1
        (observed ++ (process id here shared).1.toList))
    (start : invariant [] pool.shared)
    (advances : ∀ history shared id here, invariant history shared →
      assertion id here (observations id history) →
      invariant (history ++ [(.advance id, (process id here shared).1)])
        (process id here shared).2.2)
    (events : ∀ history shared event, invariant history shared →
      invariant (history ++ [(.event event, some (environment.answer shared event))])
        (environment.next shared event))
    (run : List (Turn Id Event)) :
    (∀ id, assertion id (((interleave process environment).after pool run).locals id)
        (observations id ((interleave process environment).trace pool run))) ∧
      invariant ((interleave process environment).trace pool run)
        ((interleave process environment).after pool run).shared := by
  refine Machine.trace_induction (interleave process environment) pool
    (motive := fun history reached => (∀ id, assertion id (reached.locals id)
      (observations id history)) ∧ invariant history reached.shared) ⟨starts, start⟩ ?_ run
  rintro history reached turn ⟨asserted, held⟩
  cases turn with
  | advance mover =>
      refine ⟨fun id => ?_, advances _ _ _ _ held (asserted mover)⟩
      by_cases same : mover = id
      · subst same
        simpa [Machine.answer, Machine.next, interleave] using
          keeps mover (reached.locals mover) reached.shared _ (asserted mover)
      · simpa [Machine.answer, Machine.next, interleave, same,
          Function.update_of_ne (Ne.symm same)] using asserted id
  | event event =>
      exact ⟨fun id => by simpa [Machine.next, interleave] using asserted id,
        events _ _ _ held⟩

/-- A process that takes all the turns. -/
theorem interleave_alone (id : Id) (count : Nat) :
    (interleave process environment).after pool (List.replicate count (.advance id)) =
      let alone := (fun now : Local × Shared => (process id now.1 now.2).2)^[count]
        (pool.locals id, pool.shared)
      { shared := alone.2
        locals := Function.update pool.locals id alone.1 } := by
  induction count generalizing pool with
  | zero => simp
  | succ count inductionHypothesis =>
      rw [List.replicate_succ, Machine.after_cons, inductionHypothesis]
      simp [Machine.next, interleave]

end Pool

end Foundations
