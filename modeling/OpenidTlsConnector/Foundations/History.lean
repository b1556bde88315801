import Mathlib.Data.List.Nodup

/-!
# Positions in a history

A history is the list of inputs so far.  `Since` says that something happened
and nothing has undone it yet; it is decided by the last input and the history
before it.  When inputs carry distinct keys, a key determines its position.
-/

namespace Foundations

universe u v

variable {Input : Type u} {Key : Type v}

/-- An input of the history was an `event`, given the inputs before it, and no
later one `undoes` it. -/
def Since (event : List Input → Input → Prop) (undoes : Input → Prop) (history : List Input) :
    Prop :=
  ∃ before input after, history = before ++ input :: after ∧ event before input ∧
    ∀ later ∈ after, ¬ undoes later

section Since

variable {event : List Input → Input → Prop} {undoes : Input → Prop}

@[simp]
theorem not_since_nil : ¬ Since event undoes [] := by
  rintro ⟨before, input, after, empty, -⟩
  simp at empty

theorem since_snoc (history : List Input) (input : Input) :
    Since event undoes (history ++ [input]) ↔
      (Since event undoes history ∧ ¬ undoes input) ∨ event history input := by
  constructor
  · rintro ⟨before, cause, after, split, happened, kept⟩
    rcases List.eq_nil_or_concat after with rfl | ⟨front, last, rfl⟩
    · obtain ⟨rfl, same⟩ := List.append_inj' split rfl
      cases same
      exact Or.inr happened
    · have regrouped : history ++ [input] = (before ++ cause :: front) ++ [last] := by
        simpa using split
      obtain ⟨rfl, same⟩ := List.append_inj' regrouped rfl
      cases same
      refine Or.inl ⟨⟨before, cause, front, rfl, happened, fun later membership => ?_⟩, ?_⟩
      · exact kept later (by simp [membership])
      · exact kept input (by simp)
  · rintro (⟨⟨before, cause, after, rfl, happened, kept⟩, harmless⟩ | happened)
    · refine ⟨before, cause, after ++ [input], by simp, happened, fun later membership => ?_⟩
      rcases List.mem_append.mp membership with earlier | isLast
      · exact kept later earlier
      · rw [List.mem_singleton.mp isLast]
        exact harmless
    · exact ⟨history, input, [], rfl, happened, by simp⟩

end Since

/-- Distinct keys sit at distinct positions. -/
theorem position_unique {key : Input → Option Key} {before before' after after' : List Input}
    {input input' : Input} {value : Key}
    (distinct : ((before ++ input :: after).filterMap key).Nodup)
    (same : before ++ input :: after = before' ++ input' :: after')
    (keyed : key input = some value) (keyed' : key input' = some value) :
    before = before' ∧ input = input' ∧ after = after' := by
  rcases List.append_eq_append_iff.mp same with ⟨middle, rfl, rest⟩ | ⟨middle, rfl, rest⟩
  · cases middle with
    | nil => simpa using rest
    | cons head middle =>
        simp only [List.cons_append, List.cons.injEq] at rest
        obtain ⟨rfl, rfl⟩ := rest
        simp [keyed, keyed', List.nodup_append] at distinct
  · cases middle with
    | nil => simpa [eq_comm] using rest
    | cons head middle =>
        simp only [List.cons_append, List.cons.injEq] at rest
        obtain ⟨rfl, rfl⟩ := rest
        simp [keyed, keyed', List.nodup_append] at distinct

end Foundations
