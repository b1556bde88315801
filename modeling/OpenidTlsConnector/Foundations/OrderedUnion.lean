import Mathlib.Data.List.Nodup

/-!
# Appending what is new

A loop that appends each element its result does not contain yet computes a
union in order of first occurrence.  It removes repetitions from what it adds,
and leaves what it starts from alone.
-/

namespace Foundations

universe u

variable {Element : Type u} [DecidableEq Element]

/-- One round of the loop. -/
def appendNew (result : List Element) (element : Element) : List Element :=
  if result.contains element then result else result ++ [element]

/-- The union of `first` and `second` without repetitions: all of `first`
before what is in `second` only, each part by first occurrence. -/
structure OrderedUnion (first second result : List Element) : Prop where
  nodup : result.Nodup
  mem_iff : ∀ x, x ∈ result ↔ x ∈ first ∨ x ∈ second
  firstBefore : ∀ x ∈ first, ∀ y ∈ second, y ∉ first → result.idxOf x < result.idxOf y
  firstOrder : ∀ x ∈ first, ∀ y ∈ first,
    (result.idxOf x < result.idxOf y ↔ first.idxOf x < first.idxOf y)
  secondOrder : ∀ x ∈ second, x ∉ first → ∀ y ∈ second, y ∉ first →
    (result.idxOf x < result.idxOf y ↔ second.idxOf x < second.idxOf y)

/-- What the loop has added to `result` after it went through `elements`. -/
structure FirstOccurrences (result elements added : List Element) : Prop where
  nodup : added.Nodup
  mem_iff : ∀ x, x ∈ added ↔ x ∈ elements ∧ x ∉ result
  order : ∀ x ∈ added, ∀ y ∈ added,
    (added.idxOf x < added.idxOf y ↔ elements.idxOf x < elements.idxOf y)

namespace FirstOccurrences

variable {result elements added : List Element} {element : Element}

/-- A known element adds nothing. -/
theorem skip (occurrences : FirstOccurrences result elements added)
    (known : element ∈ result) : FirstOccurrences result (element :: elements) added := by
  have different : ∀ x ∈ added, element ≠ x := by
    rintro x membership rfl
    exact ((occurrences.mem_iff element).mp membership).2 known
  refine ⟨occurrences.nodup, ?_, ?_⟩
  · intro x
    rw [occurrences.mem_iff, List.mem_cons]
    constructor
    · rintro ⟨inElements, unknown⟩
      exact ⟨Or.inr inElements, unknown⟩
    · rintro ⟨rfl | inElements, unknown⟩
      · exact absurd known unknown
      · exact ⟨inElements, unknown⟩
  · intro x inAdded y inAdded'
    rw [occurrences.order x inAdded y inAdded', List.idxOf_cons_ne _ (different x inAdded),
      List.idxOf_cons_ne _ (different y inAdded')]
    exact Nat.succ_lt_succ_iff.symm

/-- A new element is added in front of what is added after it. -/
theorem add (occurrences : FirstOccurrences (result ++ [element]) elements added)
    (unknown : element ∉ result) :
    FirstOccurrences result (element :: elements) (element :: added) := by
  have different : ∀ x ∈ added, element ≠ x := by
    rintro x membership rfl
    exact ((occurrences.mem_iff element).mp membership).2 (by simp)
  refine ⟨?_, ?_, ?_⟩
  · rw [List.nodup_cons]
    exact ⟨fun membership => different element membership rfl, occurrences.nodup⟩
  · intro x
    rw [List.mem_cons, List.mem_cons, occurrences.mem_iff, List.mem_append, List.mem_singleton]
    by_cases same : x = element
    · simp [same, unknown]
    · simp [same]
  · intro x inAdded y inAdded'
    by_cases firstIsNew : element = x
    · by_cases secondIsNew : element = y
      · simp [← firstIsNew, ← secondIsNew]
      · subst firstIsNew
        simp [List.idxOf_cons_ne _ secondIsNew]
    · have inAdded : x ∈ added := List.mem_of_ne_of_mem (Ne.symm firstIsNew) inAdded
      by_cases secondIsNew : element = y
      · subst secondIsNew
        simp
      · have inAdded' : y ∈ added := List.mem_of_ne_of_mem (Ne.symm secondIsNew) inAdded'
        simp only [List.idxOf_cons_ne _ firstIsNew, List.idxOf_cons_ne _ secondIsNew,
          Nat.succ_lt_succ_iff]
        exact occurrences.order x inAdded y inAdded'

end FirstOccurrences

/-- The whole loop adds the first occurrences of what is new. -/
theorem exists_firstOccurrences (result elements : List Element) :
    ∃ added, elements.foldl appendNew result = result ++ added ∧
      FirstOccurrences result elements added := by
  induction elements generalizing result with
  | nil => exact ⟨[], by simp, by simp, by simp, by simp⟩
  | cons element elements inductionHypothesis =>
      by_cases known : element ∈ result
      · obtain ⟨added, loop, occurrences⟩ := inductionHypothesis result
        refine ⟨added, ?_, occurrences.skip known⟩
        rw [List.foldl_cons, appendNew, if_pos (by simpa using known), loop]
      · obtain ⟨added, loop, occurrences⟩ := inductionHypothesis (result ++ [element])
        refine ⟨element :: added, ?_, occurrences.add known⟩
        rw [List.foldl_cons, appendNew, if_neg (by simpa using known), loop]
        simp

/-- The loop computes the ordered union exactly when what it starts from has no
repetitions. -/
theorem orderedUnion_foldl_iff (first second : List Element) :
    OrderedUnion first second (second.foldl appendNew first) ↔ first.Nodup := by
  obtain ⟨added, loop, occurrences⟩ := exists_firstOccurrences first second
  rw [loop]
  constructor
  · intro union
    exact (List.nodup_append.mp union.nodup).1
  · intro nodup
    have disjoint : ∀ x ∈ first, ∀ y ∈ added, x ≠ y := by
      rintro x inFirst y inAdded rfl
      exact ((occurrences.mem_iff x).mp inAdded).2 inFirst
    have added_of : ∀ y ∈ second, y ∉ first → y ∈ added :=
      fun y inSecond unknown => (occurrences.mem_iff y).mpr ⟨inSecond, unknown⟩
    refine ⟨List.nodup_append.mpr ⟨nodup, occurrences.nodup, disjoint⟩, ?_, ?_, ?_, ?_⟩
    · intro x
      rw [List.mem_append, occurrences.mem_iff]
      tauto
    · intro x inFirst y inSecond unknown
      rw [List.idxOf_append_of_mem inFirst, List.idxOf_append_of_notMem unknown]
      exact Nat.lt_of_lt_of_le (List.idxOf_lt_length_of_mem inFirst) (Nat.le_add_right _ _)
    · intro x inFirst y inFirst'
      rw [List.idxOf_append_of_mem inFirst, List.idxOf_append_of_mem inFirst']
    · intro x inSecond unknown y inSecond' unknown'
      rw [List.idxOf_append_of_notMem unknown, List.idxOf_append_of_notMem unknown',
        ← occurrences.order x (added_of x inSecond unknown) y (added_of y inSecond' unknown')]
      omega

end Foundations
