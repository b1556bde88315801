import OpenidTlsConnector.Foundations.Machine

/-!
# Simulations between machines

One machine may answer for another in two ways.  Step for step, under a map of
inputs and of answers; or with a run of its own choosing for every step, which
may be empty, so that what it does may come later or in another order.
-/

namespace Foundations

universe u v w x y z

namespace Machine

variable {State : Type u} {Input : Type v} {Output : Type w}
  {State' : Type x} {Input' : Type y} {Output' : Type z}
  (machine : Machine State Input Output) (state : State)

theorem trace_append (first second : List Input) :
    machine.trace state (first ++ second) =
      machine.trace state first ++ machine.trace (machine.after state first) second := by
  induction first generalizing state with
  | nil => rfl
  | cons input first inductionHypothesis => simp [trace, inductionHypothesis]

/-- The trace repeats the run. -/
@[simp]
theorem map_fst_trace (run : List Input) : (machine.trace state run).map Prod.fst = run := by
  induction run generalizing state with
  | nil => rfl
  | cons input run inductionHypothesis => simp [trace, inductionHypothesis]

variable {machine} {state} {machine' : Machine State' Input' Output'} {state' : State'}

/-- Machines that answer alike from related states, and stay related, cannot be
told apart. -/
theorem trace_eq_of_related {machine' : Machine State' Input Output} {state' : State'}
    {related : State → State' → Prop} (start : related state state')
    (step : ∀ state state' input, related state state' →
      machine.answer state input = machine'.answer state' input ∧
        related (machine.next state input) (machine'.next state' input))
    (run : List Input) :
    machine.trace state run = machine'.trace state' run ∧
      related (machine.after state run) (machine'.after state' run) := by
  induction run generalizing state state' with
  | nil => exact ⟨rfl, start⟩
  | cons input run inductionHypothesis =>
      obtain ⟨answered, continued⟩ := step state state' input start
      obtain ⟨alike, holds⟩ := inductionHypothesis continued
      exact ⟨by rw [trace, trace, answered, alike], holds⟩

/-- If two machines take the same step at some inputs, and answer differently at
all others, a run tells them apart exactly when it has one of the others. -/
theorem trace_eq_iff_forall {machine' : Machine State Input Output} {alike : Input → Prop}
    (same : ∀ state input, alike input → machine.step state input = machine'.step state input)
    (differ : ∀ state input, machine.answer state input = machine'.answer state input →
      alike input) (run : List Input) :
    machine.trace state run = machine'.trace state run ↔ ∀ input ∈ run, alike input := by
  induction run generalizing state with
  | nil => simp [trace]
  | cons input run inductionHypothesis =>
      simp only [trace, List.cons.injEq, Prod.mk.injEq, true_and, List.forall_mem_cons]
      constructor
      · intro equal
        obtain ⟨answered, continued⟩ := equal
        have isAlike := differ state input answered
        rw [next, next, same state input isAlike] at continued
        exact ⟨isAlike, inductionHypothesis.mp continued⟩
      · intro allAlike
        obtain ⟨isAlike, rest⟩ := allAlike
        rw [answer, answer, next, next, same state input isAlike]
        exact ⟨rfl, inductionHypothesis.mpr rest⟩

/-- Inputs that leave the state alone can be struck from a run: the rest is
answered as before, and leads to the same state. -/
theorem trace_filter (machine : Machine State Input Output) (state : State)
    (matters : Input × Output → Bool)
    (harmless : ∀ state input, matters (input, machine.answer state input) = false →
      machine.next state input = state) (run : List Input) :
    let kept := ((machine.trace state run).filter matters).map Prod.fst
    machine.trace state kept = (machine.trace state run).filter matters ∧
      machine.after state kept = machine.after state run := by
  induction run generalizing state with
  | nil => exact ⟨rfl, rfl⟩
  | cons input run inductionHypothesis =>
      obtain ⟨sameTrace, sameState⟩ := inductionHypothesis (machine.next state input)
      cases counted : matters (input, machine.answer state input) with
      | true =>
          rw [trace, List.filter_cons_of_pos counted, List.map_cons]
          exact ⟨by rw [trace, sameTrace], by rw [after_cons, sameState, after_cons]⟩
      | false =>
          rw [trace, List.filter_cons_of_neg (by simp [counted]), after_cons]
          rw [harmless state input counted] at sameTrace sameState ⊢
          exact ⟨sameTrace, sameState⟩

/-- If each step can be matched by some run of the other machine, a whole run
can. -/
theorem exists_simulating_run
    (related : List (Input × Output) → State → List (Input' × Output') → State' → Prop)
    (start : related [] state [] state')
    (matched : ∀ history reached shown reached' input, related history reached shown reached' →
      ∃ emitted, related (history ++ [(input, machine.answer reached input)])
        (machine.next reached input) (shown ++ machine'.trace reached' emitted)
        (machine'.after reached' emitted))
    (run : List Input) :
    ∃ order, related (machine.trace state run) (machine.after state run)
      (machine'.trace state' order) (machine'.after state' order) := by
  apply machine.trace_induction state (motive := fun history reached =>
    ∃ order, related history reached (machine'.trace state' order) (machine'.after state' order))
  · exact ⟨[], start⟩
  · intro history reached input simulated
    obtain ⟨order, holds⟩ := simulated
    obtain ⟨emitted, continued⟩ := matched history reached _ _ input holds
    refine ⟨order ++ emitted, ?_⟩
    rw [trace_append, after_append]
    exact continued

end Machine

end Foundations
