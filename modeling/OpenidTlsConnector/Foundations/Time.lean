import Mathlib.Algebra.Group.Nat.Defs
import Mathlib.Algebra.Group.Int.Defs
import Mathlib.Data.Int.Order.Basic
import OpenidTlsConnector.Foundations.Outcome

/-!
# Wall-clock instants and durations

Both are exact to the nanosecond and carry the range of their machine
representation: a duration counts seconds in 64 unsigned bits, an instant
counts them in 64 signed bits relative to the Unix epoch.
-/

namespace Foundations

def nanosPerSecond : Nat := 1000000000

structure Duration where
  nanos : Nat
  bounded : nanos < 2 ^ 64 * nanosPerSecond
  deriving DecidableEq

namespace Duration

def fromSecs (secs : UInt64) : Duration where
  nanos := secs.toNat * nanosPerSecond
  bounded := Nat.mul_lt_mul_of_pos_right secs.toNat_lt (by decide)

/-- Whole seconds, the fraction dropped. -/
def asSecs (duration : Duration) : Nat := duration.nanos / nanosPerSecond

@[simp]
theorem asSecs_fromSecs (secs : UInt64) : (fromSecs secs).asSecs = secs.toNat :=
  Nat.mul_div_cancel _ (by decide)

instance : LT Duration where
  lt first second := first.nanos < second.nanos

instance (first second : Duration) : Decidable (first < second) :=
  inferInstanceAs (Decidable (first.nanos < second.nanos))

end Duration

/-- An instant, in nanoseconds relative to the Unix epoch. -/
structure SystemTime where
  nanos : Int
  lower : -(2 ^ 63 * nanosPerSecond : Int) ≤ nanos
  upper : nanos < 2 ^ 63 * nanosPerSecond
  deriving DecidableEq

namespace SystemTime

def ofNanos? (nanos : Int) : Option SystemTime :=
  if inRange : -(2 ^ 63 * nanosPerSecond : Int) ≤ nanos ∧ nanos < 2 ^ 63 * nanosPerSecond then
    some ⟨nanos, inRange.1, inRange.2⟩
  else none

theorem ofNanos?_nanos (instant : SystemTime) : ofNanos? instant.nanos = some instant :=
  dif_pos ⟨instant.lower, instant.upper⟩

def unixEpoch : SystemTime := ⟨0, by decide, by decide⟩

/-- The elapsed time, or nothing when `earlier` is in fact later. -/
def durationSince (instant earlier : SystemTime) : Option Duration :=
  if ordered : earlier.nanos ≤ instant.nanos then
    some ⟨(instant.nanos - earlier.nanos).toNat, by
      have low := earlier.lower
      have high := instant.upper
      simp only [nanosPerSecond] at *
      omega⟩
  else none

/-- Addition, absent when the sum leaves the representable range. -/
def checkedAdd (instant : SystemTime) (duration : Duration) : Option SystemTime :=
  ofNanos? (instant.nanos + duration.nanos)

/-- Adding a duration, which is never negative, can only leave the range at its
upper end. -/
theorem checkedAdd_isSome_iff (instant : SystemTime) (duration : Duration) :
    (∃ sum, instant.checkedAdd duration = some sum) ↔
      instant.nanos + duration.nanos < 2 ^ 63 * nanosPerSecond := by
  have lower := instant.lower
  unfold checkedAdd ofNanos?
  split
  · rename_i inRange
    simpa using inRange.2
  · rename_i outside
    simp only [reduceCtorEq, exists_false, false_iff]
    intro below
    exact outside ⟨by omega, below⟩

/-- An elapsed time is below `limit` exactly in the half-open window that
starts at `earlier`. -/
theorem durationSince_lt_iff (instant earlier : SystemTime) (limit : Duration) :
    ((instant.durationSince earlier).map fun elapsed => decide (elapsed < limit)).getD false =
        true ↔
      earlier.nanos ≤ instant.nanos ∧ instant.nanos < earlier.nanos + limit.nanos := by
  unfold durationSince
  split
  · rename_i ordered
    simp only [Option.map_some, Option.getD_some, decide_eq_true_eq]
    change (instant.nanos - earlier.nanos).toNat < limit.nanos ↔ _
    omega
  · rename_i reversed
    simp [reversed]

/-- Whole seconds and remaining nanoseconds since the epoch, for an instant
not before it. -/
def sinceEpoch (instant : SystemTime) : Option (Nat × Nat) :=
  (instant.durationSince unixEpoch).map fun elapsed =>
    (elapsed.nanos / nanosPerSecond, elapsed.nanos % nanosPerSecond)

/-- The instant `secs` seconds and `nanos` nanoseconds after the epoch. -/
def afterEpoch (secs nanos : Nat) : Option SystemTime :=
  ofNanos? (secs * nanosPerSecond + nanos)

theorem sinceEpoch_isSome_iff (instant : SystemTime) :
    (∃ parts, instant.sinceEpoch = some parts) ↔ 0 ≤ instant.nanos := by
  unfold sinceEpoch durationSince unixEpoch
  split <;> rename_i order <;> simpa using order

theorem sinceEpoch_bounds {instant : SystemTime} {secs nanos : Nat}
    (parts : instant.sinceEpoch = some (secs, nanos)) :
    secs < 2 ^ 64 ∧ nanos < nanosPerSecond := by
  unfold sinceEpoch at parts
  obtain ⟨elapsed, -, split⟩ := Option.map_eq_some_iff.mp parts
  cases split
  have bounded := elapsed.bounded
  simp only [nanosPerSecond] at *
  omega

theorem afterEpoch_of_sinceEpoch {instant : SystemTime} {secs nanos : Nat}
    (parts : instant.sinceEpoch = some (secs, nanos)) :
    afterEpoch secs nanos = some instant := by
  unfold sinceEpoch durationSince unixEpoch at parts
  split at parts
  · rename_i ordered
    simp only [Option.map_some, Option.some.injEq, Prod.mk.injEq, Int.sub_zero] at parts ordered
    have whole : (secs * nanosPerSecond + nanos : Int) = instant.nanos := by
      simp only [nanosPerSecond] at *
      omega
    rw [afterEpoch, whole, ofNanos?_nanos]
  · cases parts

/-- The whole seconds since the epoch, and 0 before it. -/
def epochSecs (instant : SystemTime) : Nat :=
  ((instant.durationSince unixEpoch).map Duration.asSecs).getD 0

theorem isU64_epochSecs (instant : SystemTime) : IsU64 instant.epochSecs := by
  unfold epochSecs
  cases elapsed : instant.durationSince unixEpoch with
  | none => exact (by decide : IsU64 0)
  | some duration => exact Nat.div_lt_of_lt_mul (by have := duration.bounded; rwa [Nat.mul_comm])

/-- Seconds that an instant is bounded by bound its whole seconds. -/
theorem epochSecs_lt {instant : SystemTime} {bound : Nat} (positive : 0 < bound)
    (below : instant.nanos < bound * nanosPerSecond) : instant.epochSecs < bound := by
  unfold epochSecs durationSince unixEpoch
  split
  · rename_i ordered
    simp only [Option.map_some, Option.getD_some, Duration.asSecs, Int.sub_zero] at ordered ⊢
    rw [Nat.div_lt_iff_lt_mul (by decide)]
    omega
  · exact positive

end SystemTime

end Foundations
