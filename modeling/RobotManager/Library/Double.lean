import Mathlib.Algebra.Order.Ring.Rat

/-!
# Floating-point values and their comparisons

A double is a finite rational, an infinity or NaN.  The comparisons are those of
IEEE 754: every comparison with NaN is false, so `¬ x < y` does not give `y ≤ x`.
Signed zeros and rounding are left out, as nothing here computes with doubles.
-/

inductive Double where
  | finite (value : ℚ)
  | posInf
  | negInf
  | nan
deriving DecidableEq, Repr

namespace Double

/-- `std::isfinite`. -/
def isFinite : Double → Bool
  | .finite _ => true
  | _ => false

def isNaN : Double → Bool
  | .nan => true
  | _ => false

def neg : Double → Double
  | .finite value => .finite (-value)
  | .posInf => .negInf
  | .negInf => .posInf
  | .nan => .nan

/-- The comparison `<` of IEEE 754. -/
def Less : Double → Double → Prop
  | .nan, _ | _, .nan => False
  | .finite left, .finite right => left < right
  | .negInf, .negInf => False
  | .negInf, _ => True
  | _, .negInf => False
  | .posInf, _ => False
  | .finite _, .posInf => True

/-- The comparison `==` of IEEE 754: NaN differs from itself. -/
def Equal (left right : Double) : Prop := left = right ∧ left ≠ .nan

/-- The comparison `<=` of IEEE 754. -/
def LessEqual (left right : Double) : Prop := left.Less right ∨ left.Equal right

instance : LT Double := ⟨Less⟩

instance : LE Double := ⟨LessEqual⟩

instance : DecidableRel Less
  | .nan, _ => isFalse (by simp [Less])
  | .finite _, .nan => isFalse (by simp [Less])
  | .finite left, .finite right => inferInstanceAs (Decidable (left < right))
  | .finite _, .posInf => isTrue trivial
  | .finite _, .negInf => isFalse (by simp [Less])
  | .posInf, .nan => isFalse (by simp [Less])
  | .posInf, .finite _ => isFalse (by simp [Less])
  | .posInf, .posInf => isFalse (by simp [Less])
  | .posInf, .negInf => isFalse (by simp [Less])
  | .negInf, .nan => isFalse (by simp [Less])
  | .negInf, .finite _ => isTrue trivial
  | .negInf, .posInf => isTrue trivial
  | .negInf, .negInf => isFalse (by simp [Less])

instance (left right : Double) : Decidable (left.Equal right) :=
  inferInstanceAs (Decidable (_ ∧ _))

instance (left right : Double) : Decidable (left < right) :=
  inferInstanceAs (Decidable (left.Less right))

instance (left right : Double) : Decidable (left ≤ right) :=
  inferInstanceAs (Decidable (left.Less right ∨ left.Equal right))

theorem isNaN_of_isFinite {value : Double} (finite : value.isFinite = true) :
    value.isNaN = false := by
  cases value <;> simp_all [isFinite, isNaN]

theorem eq_iff_equal_of_not_nan {left : Double} (notNaN : left.isNaN = false) (right : Double) :
    left.Equal right ↔ left = right := by
  cases left <;> simp_all [Equal, isNaN]

@[simp]
theorem finite_lt_finite (left right : ℚ) :
    (Double.finite left < Double.finite right) ↔ left < right :=
  Iff.rfl

@[simp]
theorem finite_le_finite (left right : ℚ) :
    (Double.finite left ≤ Double.finite right) ↔ left ≤ right := by
  rw [le_iff_lt_or_eq]
  change left < right ∨ (Double.finite left).Equal (Double.finite right) ↔ _
  simp [Equal]

theorem lt_of_not_le {left right : Double} (leftFinite : left.isFinite = true)
    (rightFinite : right.isFinite = true) (notLe : ¬right ≤ left) : left < right := by
  cases left with
  | finite left =>
      cases right with
      | finite right => simpa using notLe
      | posInf | negInf | nan => simp [isFinite] at rightFinite
  | posInf | negInf | nan => simp [isFinite] at leftFinite

/-- Rejecting `value < bound` accepts a NaN bound as well as the bounds up to `value`. -/
theorem not_lt_iff_of_isFinite {value bound : Double} (finite : value.isFinite = true) :
    ¬value < bound ↔ bound ≤ value ∨ bound.isNaN = true := by
  cases value with
  | finite left =>
      cases bound with
      | finite right => simp [isNaN]
      | posInf | negInf | nan => simp [LT.lt, LE.le, Less, LessEqual, Equal, isNaN]
  | posInf | negInf | nan => simp [isFinite] at finite

/-- Rejecting `value > bound` accepts a NaN bound as well as the bounds from `value` on. -/
theorem not_gt_iff_of_isFinite {value bound : Double} (finite : value.isFinite = true) :
    ¬bound < value ↔ value ≤ bound ∨ bound.isNaN = true := by
  cases value with
  | finite left =>
      cases bound with
      | finite right => simp [isNaN]
      | posInf | negInf | nan => simp [LT.lt, LE.le, Less, LessEqual, Equal, isNaN]
  | posInf | negInf | nan => simp [isFinite] at finite

theorem not_le_of_isNaN {value bound : Double} (nan : bound.isNaN = true) :
    ¬bound ≤ value ∧ ¬value ≤ bound := by
  cases bound <;> cases value <;>
    simp_all [isNaN, LE.le, Less, LessEqual, Equal]

end Double
