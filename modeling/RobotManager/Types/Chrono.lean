import Mathlib.Algebra.Group.Nat.Defs
import Mathlib.Algebra.Group.Int.Defs
import Mathlib.Data.Int.Notation

/-!
# Times and durations

`std::chrono` as the program uses it: time points and their differences are
signed 64-bit counts of nanoseconds, requested durations are signed 64-bit counts
of milliseconds, and mixed arithmetic converts milliseconds to nanoseconds first.
The conversions and differences wrap modulo `2 ^ 64`.
-/

namespace RobotManager

/-- A `steady_clock::time_point`, in nanoseconds since the clock's epoch. -/
abbrev TimePoint := ℤ

/-- A `std::chrono::milliseconds`. -/
abbrev Milliseconds := ℤ

/-- Reduce to the range of `std::int64_t`. -/
def wrapInt64 (count : ℤ) : ℤ := count.bmod (2 ^ 64)

theorem wrapInt64_bounds (count : ℤ) : -2 ^ 63 ≤ wrapInt64 count ∧ wrapInt64 count < 2 ^ 63 := by
  have lower : -(((2 ^ 64 : ℕ) : ℤ) / 2) ≤ wrapInt64 count := Int.le_bmod (by decide)
  have upper : wrapInt64 count < (((2 ^ 64 : ℕ) : ℤ) + 1) / 2 := Int.bmod_lt (by decide)
  omega

theorem wrapInt64_eq_self {count : ℤ} (lower : -2 ^ 63 ≤ count) (upper : count < 2 ^ 63) :
    wrapInt64 count = count :=
  Int.bmod_eq_of_le (by omega) (by omega)

/-- The implicit conversion of a millisecond count to nanoseconds. -/
def Milliseconds.toNanoseconds (duration : Milliseconds) : ℤ := wrapInt64 (duration * 1000000)

/-- The difference `now - since` of two time points. -/
def TimePoint.sub (now since : TimePoint) : ℤ := wrapInt64 (now - since)

/-- The sum of a time point and a duration. -/
def TimePoint.addMs (time : TimePoint) (duration : Milliseconds) : TimePoint :=
  wrapInt64 (time + duration.toNanoseconds)

/-- The comparison `now - since >= duration` with a duration in milliseconds. -/
def elapsedAtLeast (now since : TimePoint) (duration : Milliseconds) : Bool :=
  decide (duration.toNanoseconds ≤ now.sub since)

example : elapsedAtLeast 31000000000 1000000000 30000 = true := by decide

end RobotManager
