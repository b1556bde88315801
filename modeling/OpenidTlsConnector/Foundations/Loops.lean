import Mathlib.Logic.Basic

/-!
# While loops

A loop goes on round by round as long as its condition holds, and a round may
abort.  Rounds that come through, keep an invariant and lower a measure lead
to a state in which the loop ends.
-/

namespace Foundations

universe u

/-- A `while` loop over its variables.  A round without a next state aborts. -/
structure Loop (State : Type u) where
  continues : State → Bool
  round : State → Option State

namespace Loop

variable {State : Type u} {loop : Loop State} {invariant : State → Prop} {measure : State → Nat}

/-- Where the loop stands after a number of rounds; it stays where it ends. -/
def run (loop : Loop State) : Nat → State → Option State
  | 0, state => some state
  | rounds + 1, state =>
      if loop.continues state then (loop.round state).bind (loop.run rounds) else some state

theorem run_of_ended {state : State} (ended : loop.continues state = false) (rounds : Nat) :
    loop.run rounds state = some state := by
  cases rounds with
  | zero => rfl
  | succ rounds => rw [run, if_neg (by rw [ended]; exact Bool.false_ne_true)]

theorem run_of_round {state next : State} (goesOn : loop.continues state = true)
    (round : loop.round state = some next) (rounds : Nat) :
    loop.run (rounds + 1) state = loop.run rounds next := by
  rw [run, if_pos goesOn, round, Option.bind_some]

/-- From a state in the invariant a round does not abort, stays in the
invariant and lowers the measure. -/
def Progresses (loop : Loop State) (invariant : State → Prop) (measure : State → Nat) : Prop :=
  ∀ state, loop.continues state = true → invariant state →
    ∃ next, loop.round state = some next ∧ invariant next ∧ measure next < measure state

/-- However many rounds it is given, a loop that makes progress stands in its
invariant, and as many rounds as the measure are enough for it to end. -/
theorem Progresses.run (progresses : loop.Progresses invariant measure) (rounds : Nat)
    {state : State} (holds : invariant state) :
    ∃ reached, loop.run rounds state = some reached ∧ invariant reached ∧
      (measure state ≤ rounds → loop.continues reached = false) := by
  induction rounds generalizing state with
  | zero =>
      refine ⟨state, rfl, holds, fun exhausted => ?_⟩
      rw [← Bool.not_eq_true]
      intro goesOn
      obtain ⟨next, -, -, lower⟩ := progresses state goesOn holds
      exact Nat.not_lt_zero _ (Nat.lt_of_lt_of_le lower exhausted)
  | succ rounds inductionHypothesis =>
      cases goesOn : loop.continues state with
      | false => exact ⟨state, run_of_ended goesOn _, holds, fun _ => goesOn⟩
      | true =>
          obtain ⟨next, round, kept, lower⟩ := progresses state goesOn holds
          obtain ⟨reached, runs, reachedHolds, ends⟩ := inductionHypothesis kept
          refine ⟨reached, (run_of_round goesOn round rounds).trans runs, reachedHolds, ?_⟩
          intro enough
          exact ends (Nat.le_of_lt_succ (Nat.lt_of_lt_of_le lower enough))

end Loop

end Foundations
