import Mathlib.Data.List.Induction

/-!
# Deterministic input/output machines

A machine answers one input at a time and keeps a state.  Whatever the
environment decides (a clock reading, a random draw, the order of requests)
is part of the input, so a run is a list of inputs and "every run" is a
quantifier over lists.
-/

namespace Foundations

universe u v w

/-- One step consumes an input, answers it and moves to the next state. -/
structure Machine (State : Type u) (Input : Type v) (Output : Type w) where
  step : State → Input → Output × State

namespace Machine

variable {State : Type u} {Input : Type v} {Output : Type w}

/-- The answer to one input. -/
def answer (machine : Machine State Input Output) (state : State) (input : Input) : Output :=
  (machine.step state input).1

/-- The state after one input. -/
def next (machine : Machine State Input Output) (state : State) (input : Input) : State :=
  (machine.step state input).2

/-- The state after a whole run. -/
def after (machine : Machine State Input Output) (state : State) (run : List Input) : State :=
  run.foldl machine.next state

variable (machine : Machine State Input Output) (state : State)

@[simp]
theorem after_nil : machine.after state [] = state := rfl

@[simp]
theorem after_cons (input : Input) (run : List Input) :
    machine.after state (input :: run) = machine.after (machine.next state input) run := rfl

@[simp]
theorem after_append (first second : List Input) :
    machine.after state (first ++ second) =
      machine.after (machine.after state first) second := by
  simp [after, List.foldl_append]

theorem after_snoc (past : List Input) (input : Input) :
    machine.after state (past ++ [input]) =
      machine.next (machine.after state past) input := by
  simp

/-- `invariant` survives every single step. -/
def Preserves (invariant : State → Prop) : Prop :=
  ∀ state input, invariant state → invariant (machine.next state input)

/-- What every input of a run preserves, the run preserves. -/
theorem after_of_forall_mem {invariant : State → Prop} (run : List Input)
    (kept : ∀ input ∈ run, ∀ state, invariant state → invariant (machine.next state input))
    {state : State} (holds : invariant state) : invariant (machine.after state run) := by
  induction run generalizing state with
  | nil => exact holds
  | cons input run inductionHypothesis =>
      exact inductionHypothesis (fun later membership => kept later (List.mem_cons_of_mem _ membership))
        (kept input List.mem_cons_self state holds)

/-- What every step preserves, every run preserves. -/
theorem Preserves.after {machine : Machine State Input Output} {invariant : State → Prop}
    (preserved : machine.Preserves invariant) {state : State} (holds : invariant state)
    (run : List Input) : invariant (machine.after state run) :=
  machine.after_of_forall_mem run (fun input _ state => preserved state input) holds

/-- What the run showed: each input with its answer. -/
def trace (machine : Machine State Input Output) (state : State) : List Input →
    List (Input × Output)
  | [] => []
  | input :: run =>
      (input, machine.answer state input) :: machine.trace (machine.next state input) run

theorem trace_snoc (past : List Input) (input : Input) :
    machine.trace state (past ++ [input]) =
      machine.trace state past ++ [(input, machine.answer (machine.after state past) input)] := by
  induction past generalizing state with
  | nil => rfl
  | cons first past inductionHypothesis => simp [trace, inductionHypothesis]

/-- Induction over runs from the last input backwards, for properties that
relate the state reached to what the run showed. -/
theorem trace_induction {motive : List (Input × Output) → State → Prop} (start : motive [] state)
    (step : ∀ history reached input, motive history reached →
      motive (history ++ [(input, machine.answer reached input)]) (machine.next reached input))
    (run : List Input) : motive (machine.trace state run) (machine.after state run) := by
  induction run using List.reverseRecOn with
  | nil => exact start
  | append_singleton past input inductionHypothesis =>
      rw [trace_snoc, after_snoc]
      exact step _ _ input inductionHypothesis

end Machine

end Foundations
