import Mathlib.Algebra.Group.Nat.Defs
import Mathlib.Tactic.SplitIfs

/-!
# How a call into fallible code ends

A call returns a value, returns an error, or panics.  Integers are machine
integers: `addU64` is the 64-bit addition whose overflow panics in a build
with overflow checks and wraps in one without.
-/

namespace Foundations

universe u v

theorem except_bind_eq_ok_iff {Failure : Type u} {Value Result : Type v}
    {checked : Except Failure Value} {next : Value → Except Failure Result} {result : Result} :
    (checked >>= next) = .ok result ↔ ∃ value, checked = .ok value ∧ next value = .ok result := by
  cases checked <;> simp [bind, Except.bind]

theorem except_bind_eq_error_iff {Failure : Type u} {Value Result : Type v}
    {checked : Except Failure Value} {next : Value → Except Failure Result} {failure : Failure} :
    (checked >>= next) = .error failure ↔
      checked = .error failure ∨ ∃ value, checked = .ok value ∧ next value = .error failure := by
  cases checked <;> simp [bind, Except.bind]

theorem except_mapError_eq_error_iff {Failure Other : Type u} {Value : Type v}
    {convert : Failure → Other} {checked : Except Failure Value} {failure : Other} :
    checked.mapError convert = .error failure ↔
      ∃ cause, checked = .error cause ∧ convert cause = failure := by
  cases checked <;> simp [Except.mapError]

theorem except_mapError_eq_ok_iff {Failure Other : Type u} {Value : Type v}
    {convert : Failure → Other} {checked : Except Failure Value} {value : Value} :
    checked.mapError convert = .ok value ↔ checked = .ok value := by
  cases checked <;> simp [Except.mapError]

theorem except_map_eq_ok_iff {Failure : Type u} {Value Result : Type v}
    {convert : Value → Result} {checked : Except Failure Value} {result : Result} :
    checked.map convert = .ok result ↔ ∃ value, checked = .ok value ∧ convert value = result := by
  cases checked <;> simp [Except.map]

inductive Outcome (Failure : Type u) (Value : Type v) where
  | ok (value : Value)
  | error (failure : Failure)
  | panic
  deriving DecidableEq

namespace Outcome

variable {Failure : Type u} {Value Result : Type v}

def bind (outcome : Outcome Failure Value) (next : Value → Outcome Failure Result) :
    Outcome Failure Result :=
  match outcome with
  | .ok value => next value
  | .error failure => .error failure
  | .panic => .panic

instance : Monad (Outcome Failure) where
  pure := .ok
  bind := bind

def ofExcept : Except Failure Value → Outcome Failure Value
  | .ok value => .ok value
  | .error failure => .error failure

/-- `unwrap` and `expect`: an absent value is a panic. -/
def expect : Option Value → Outcome Failure Value
  | some value => .ok value
  | none => .panic

/-- An absent value is an error of the caller's choice. -/
def okOr (candidate : Option Value) (failure : Failure) : Outcome Failure Value :=
  candidate.elim (.error failure) .ok

def mapError {Other : Type u} (convert : Failure → Other) :
    Outcome Failure Value → Outcome Other Value
  | .ok value => .ok value
  | .error failure => .error (convert failure)
  | .panic => .panic

/-- `expect` on what a call returned: its error is the caller's panic. -/
def orPanic {Other : Type u} : Outcome Failure Value → Outcome Other Value
  | .ok value => .ok value
  | .error _ | .panic => .panic

@[simp]
theorem pure_eq (value : Value) : (pure value : Outcome Failure Value) = .ok value := rfl

@[simp]
theorem ok_bind (value : Value) (next : Value → Outcome Failure Result) :
    (Outcome.ok value >>= next) = next value := rfl

@[simp]
theorem error_bind (failure : Failure) (next : Value → Outcome Failure Result) :
    (Outcome.error failure >>= next) = .error failure := rfl

@[simp]
theorem panic_bind (next : Value → Outcome Failure Result) :
    ((Outcome.panic : Outcome Failure Value) >>= next) = .panic := rfl

/-- A sequence of calls succeeds exactly when each of them does. -/
theorem bind_eq_ok_iff {outcome : Outcome Failure Value}
    {next : Value → Outcome Failure Result} {result : Result} :
    (outcome >>= next) = .ok result ↔
      ∃ value, outcome = .ok value ∧ next value = .ok result := by
  cases outcome <;> simp

/-- It fails where the first of them does. -/
theorem bind_eq_error_iff {outcome : Outcome Failure Value}
    {next : Value → Outcome Failure Result} {failure : Failure} :
    (outcome >>= next) = .error failure ↔
      outcome = .error failure ∨ ∃ value, outcome = .ok value ∧ next value = .error failure := by
  cases outcome <;> simp

theorem bind_eq_panic_iff {outcome : Outcome Failure Value}
    {next : Value → Outcome Failure Result} :
    (outcome >>= next) = .panic ↔
      outcome = .panic ∨ ∃ value, outcome = .ok value ∧ next value = .panic := by
  cases outcome <;> simp

theorem mapError_eq_panic_iff {Other : Type u} {convert : Failure → Other}
    {outcome : Outcome Failure Value} : outcome.mapError convert = .panic ↔ outcome = .panic := by
  cases outcome <;> simp [mapError]

theorem expect_ne_error (candidate : Option Value) (failure : Failure) :
    expect candidate ≠ .error failure := by
  cases candidate <;> simp [expect]

theorem okOr_ne_panic (candidate : Option Value) (failure : Failure) :
    okOr candidate failure ≠ .panic := by
  cases candidate <;> simp [okOr]

theorem ofExcept_ne_panic (result : Except Failure Value) : ofExcept result ≠ .panic := by
  cases result <;> simp [ofExcept]

theorem ofExcept_eq_error_iff {result : Except Failure Value} {failure : Failure} :
    ofExcept result = .error failure ↔ result = .error failure := by
  cases result <;> simp [ofExcept]

theorem mapError_eq_ok_iff {Other : Type u} {convert : Failure → Other}
    {outcome : Outcome Failure Value} {value : Value} :
    outcome.mapError convert = .ok value ↔ outcome = .ok value := by
  cases outcome <;> simp [mapError]

theorem expect_eq_ok_iff {candidate : Option Value} {value : Value} :
    (expect candidate : Outcome Failure Value) = .ok value ↔ candidate = some value := by
  cases candidate <;> simp [expect]

theorem orPanic_eq_ok_iff {Other : Type u} {outcome : Outcome Failure Value} {value : Value} :
    (outcome.orPanic : Outcome Other Value) = .ok value ↔ outcome = .ok value := by
  cases outcome <;> simp [orPanic]

theorem okOr_eq_ok_iff {candidate : Option Value} {failure : Failure} {value : Value} :
    okOr candidate failure = .ok value ↔ candidate = some value := by
  cases candidate <;> simp [okOr]

theorem ofExcept_eq_ok_iff {result : Except Failure Value} {value : Value} :
    ofExcept result = .ok value ↔ result = .ok value := by
  cases result <;> simp [ofExcept]

/-! ## Which failures -/

/-- Whatever it fails with is allowed. -/
def FailsOnly (allowed : Failure → Prop) (outcome : Outcome Failure Value) : Prop :=
  ∀ failure, outcome = .error failure → allowed failure

variable {allowed : Failure → Prop}

theorem failsOnly_ok (value : Value) : (Outcome.ok value).FailsOnly allowed := by
  intro failure failed
  cases failed

theorem failsOnly_error {failure : Failure} (isAllowed : allowed failure) :
    (Outcome.error failure : Outcome Failure Value).FailsOnly allowed := by
  intro failure' failed
  cases failed
  exact isAllowed

/-- A sequence fails only as its parts do. -/
theorem FailsOnly.bind {outcome : Outcome Failure Value}
    {next : Value → Outcome Failure Result} (first : outcome.FailsOnly allowed)
    (rest : ∀ value, outcome = .ok value → (next value).FailsOnly allowed) :
    (outcome >>= next).FailsOnly allowed := by
  intro failure failed
  rcases bind_eq_error_iff.mp failed with early | ⟨value, reached, late⟩
  · exact first failure early
  · exact rest value reached failure late

theorem failsOnly_okOr (candidate : Option Value) {failure : Failure}
    (isAllowed : allowed failure) : (okOr candidate failure).FailsOnly allowed := by
  cases candidate with
  | none => exact failsOnly_error isAllowed
  | some value => exact failsOnly_ok value

theorem failsOnly_ofExcept {result : Except Failure Value}
    (fails : ∀ failure, result = .error failure → allowed failure) :
    (ofExcept result).FailsOnly allowed :=
  fun failure failed => fails failure (ofExcept_eq_error_iff.mp failed)

theorem failsOnly_mapError {Other : Type u} {convert : Failure → Other} {allowed : Other → Prop}
    (outcome : Outcome Failure Value) (converts : ∀ failure, allowed (convert failure)) :
    (outcome.mapError convert).FailsOnly allowed := by
  cases outcome with
  | ok value => exact failsOnly_ok value
  | error failure => exact failsOnly_error (converts failure)
  | panic =>
      intro failure failed
      cases failed

theorem failsOnly_expect (candidate : Option Value) :
    (expect candidate : Outcome Failure Value).FailsOnly allowed :=
  fun failure failed => absurd failed (expect_ne_error candidate failure)

end Outcome

/-- The values of a 64-bit unsigned integer. -/
def IsU64 (value : Nat) : Prop := value < 2 ^ 64

instance (value : Nat) : Decidable (IsU64 value) := inferInstanceAs (Decidable (value < 2 ^ 64))

/-- 64-bit addition.  The flag says whether the build checks for overflow. -/
def addU64 {Failure : Type u} (overflowChecks : Bool) (first second : Nat) :
    Outcome Failure Nat :=
  if IsU64 (first + second) then .ok (first + second)
  else if overflowChecks then .panic
  else .ok ((first + second) % 2 ^ 64)

theorem addU64_of_isU64 {Failure : Type u} (overflowChecks : Bool) {first second : Nat}
    (fits : IsU64 (first + second)) :
    (addU64 overflowChecks first second : Outcome Failure Nat) = .ok (first + second) :=
  if_pos fits

/-- What comes out fits the integer, wrapped or not. -/
theorem isU64_of_addU64 {Failure : Type u} {overflowChecks : Bool} {first second sum : Nat}
    (added : (addU64 overflowChecks first second : Outcome Failure Nat) = .ok sum) :
    IsU64 sum := by
  unfold addU64 at added
  split_ifs at added with fits
  · cases added
    exact fits
  · cases added
    exact Nat.mod_lt _ (by decide)

end Foundations
