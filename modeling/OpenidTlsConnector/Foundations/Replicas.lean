import Mathlib.Logic.Function.Basic
import OpenidTlsConnector.Foundations.Machine

/-!
# Replicas of one machine

Several copies of a machine run side by side, each with a state of its own, and
any of them may be restarted, which returns it to the first state.  What a copy
knows is what it was sent in its current lifetime, so a property of single runs
is a property of lifetimes.
-/

namespace Foundations

universe u v w x

/-- What happens to one of the copies. -/
inductive Delivery (Id : Type u) (Input : Type v) where
  | deliver (id : Id) (input : Input)
  | restart (id : Id)

variable {Id : Type u} {Input : Type v} {State : Type w} {Output : Type x}

namespace Delivery

/-- Everything that was sent, to whichever copy. -/
def inputs (history : List (Delivery Id Input)) : List Input :=
  history.filterMap fun delivery => match delivery with
    | .deliver _ input => some input
    | .restart _ => none

@[simp]
theorem inputs_nil : inputs ([] : List (Delivery Id Input)) = [] := rfl

@[simp]
theorem inputs_append (first second : List (Delivery Id Input)) :
    inputs (first ++ second) = inputs first ++ inputs second :=
  List.filterMap_append

@[simp]
theorem inputs_deliver (id : Id) (input : Input) (history : List (Delivery Id Input)) :
    inputs (.deliver id input :: history) = input :: inputs history := rfl

@[simp]
theorem inputs_restart (id : Id) (history : List (Delivery Id Input)) :
    inputs (.restart id :: history) = inputs history := rfl

variable [DecidableEq Id]

/-- A copy's current lifetime, one delivery later. -/
def extend (id : Id) (life : List Input) : Delivery Id Input → List Input
  | .deliver other input => if other = id then life ++ [input] else life
  | .restart other => if other = id then [] else life

/-- What a copy was sent since it was last restarted. -/
def lifetime (id : Id) (history : List (Delivery Id Input)) : List Input :=
  history.foldl (extend id) []

@[simp]
theorem lifetime_nil (id : Id) : lifetime id ([] : List (Delivery Id Input)) = [] := rfl

@[simp]
theorem lifetime_snoc (id : Id) (history : List (Delivery Id Input))
    (delivery : Delivery Id Input) :
    lifetime id (history ++ [delivery]) = extend id (lifetime id history) delivery := by
  simp [lifetime, List.foldl_append]

/-- Until it is restarted, a copy's lifetime only grows. -/
theorem lifetime_append (id : Id) (history : List (Delivery Id Input))
    {later : List (Delivery Id Input)} (running : .restart id ∉ later) :
    ∃ received, lifetime id (history ++ later) = lifetime id history ++ received := by
  induction later using List.reverseRecOn with
  | nil => exact ⟨[], by simp⟩
  | append_singleton later delivery inductionHypothesis =>
      obtain ⟨received, grown⟩ := inductionHypothesis fun restarted =>
        running (List.mem_append_left _ restarted)
      rw [← List.append_assoc, lifetime_snoc, grown]
      cases delivery with
      | deliver other input =>
          by_cases same : other = id
          · exact ⟨received ++ [input], by simp [extend, same]⟩
          · exact ⟨received, by simp [extend, same]⟩
      | restart other =>
          have elsewhere : other ≠ id := fun same => running (by simp [same])
          exact ⟨received, by simp [extend, elsewhere]⟩

/-- A copy is sent nothing but what is sent. -/
theorem lifetime_sublist (id : Id) (history : List (Delivery Id Input)) :
    (lifetime id history).Sublist (inputs history) := by
  induction history using List.reverseRecOn with
  | nil => exact List.Sublist.slnil
  | append_singleton history delivery inductionHypothesis =>
      rw [lifetime_snoc, inputs_append]
      cases delivery with
      | deliver other input =>
          by_cases same : other = id
          · simpa [extend, same] using inductionHypothesis.append (List.Sublist.refl [input])
          · simpa [extend, same] using inductionHypothesis.trans (List.sublist_append_left _ _)
      | restart other =>
          by_cases same : other = id
          · simp [extend, same]
          · simpa [extend, same] using inductionHypothesis

/-- What was sent to another copy, or before the last restart, is no part of
the lifetime. -/
theorem lifetime_sublist_of_elsewhere {id issuer : Id} {before later : List (Delivery Id Input)}
    {input : Input} (elsewhere : issuer ≠ id ∨ .restart id ∈ later) :
    (lifetime id (before ++ .deliver issuer input :: later)).Sublist
      (inputs before ++ inputs later) := by
  induction later using List.reverseRecOn with
  | nil =>
      rcases elsewhere with other | restarted
      · simpa [extend, other] using lifetime_sublist id before
      · cases restarted
  | append_singleton later delivery inductionHypothesis =>
      have regrouped : before ++ .deliver issuer input :: (later ++ [delivery]) =
          (before ++ .deliver issuer input :: later) ++ [delivery] := by simp
      rw [regrouped, lifetime_snoc, inputs_append, ← List.append_assoc]
      cases delivery with
      | deliver other sent =>
          have kept := inductionHypothesis (elsewhere.imp_right fun restarted => by
            simpa using restarted)
          by_cases same : other = id
          · simpa [extend, same] using kept.append (List.Sublist.refl [sent])
          · simpa [extend, same] using
              kept.trans (List.sublist_append_left _ (inputs [.deliver other sent]))
      | restart other =>
          by_cases same : other = id
          · simp [extend, same]
          · have kept := inductionHypothesis (elsewhere.imp_right fun restarted => by
              simpa [Ne.symm same] using restarted)
            simpa [extend, same] using kept

end Delivery

namespace Machine

variable [DecidableEq Id] (machine : Machine State Input Output) (initial : State)

/-- The copies side by side. -/
def replicate : Machine (Id → State) (Delivery Id Input) (Option Output) where
  step states delivery := match delivery with
    | .deliver id input =>
        let moved := machine.step (states id) input
        (some moved.1, Function.update states id moved.2)
    | .restart id => (none, Function.update states id initial)

@[simp]
theorem replicate_next_deliver (states : Id → State) (id : Id) (input : Input) :
    (machine.replicate initial).next states (.deliver id input) =
      Function.update states id (machine.next (states id) input) := rfl

@[simp]
theorem replicate_next_restart (states : Id → State) (id : Id) :
    (machine.replicate initial).next states (.restart id) =
      Function.update states id initial := rfl

/-- Each copy stands where its lifetime has taken it. -/
theorem replicate_after (history : List (Delivery Id Input)) (id : Id) :
    (machine.replicate initial).after (fun _ => initial) history id =
      machine.after initial (Delivery.lifetime id history) := by
  induction history using List.reverseRecOn with
  | nil => rfl
  | append_singleton history delivery inductionHypothesis =>
      rw [after_snoc, Delivery.lifetime_snoc]
      cases delivery with
      | deliver other input =>
          rw [replicate_next_deliver]
          by_cases same : other = id
          · subst same
            rw [Function.update_self, inductionHypothesis, Delivery.extend, if_pos rfl, after_snoc]
          · rw [Function.update_of_ne (Ne.symm same), inductionHypothesis, Delivery.extend,
              if_neg same]
      | restart other =>
          rw [replicate_next_restart]
          by_cases same : other = id
          · subst same
            rw [Function.update_self, Delivery.extend, if_pos rfl, after_nil]
          · rw [Function.update_of_ne (Ne.symm same), inductionHypothesis, Delivery.extend,
              if_neg same]

/-- And answers accordingly. -/
theorem replicate_answer (history : List (Delivery Id Input)) (id : Id) (input : Input) :
    (machine.replicate initial).answer
        ((machine.replicate initial).after (fun _ => initial) history) (.deliver id input) =
      some (machine.answer (machine.after initial (Delivery.lifetime id history)) input) := by
  rw [← machine.replicate_after initial history id]
  rfl

end Machine

end Foundations
