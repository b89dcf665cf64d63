import Mathlib

/-!
# Comparing floating-point numbers

Two floating-point numbers compare unless one of them is no number, and the other way
round they compare the other way.  So a number that is not below another one is at least
as large, or one of the two is no number.
-/

namespace EditorLaunch

open Float.Model (UnpackedFloat)

theorem compare_swapped (left right : UnpackedFloat) :
    right.compare left = (left.compare right).map Ordering.swap := by
  cases left with
  | notANumber => cases right <;> rfl
  | infinity sign =>
      cases sign <;> cases right with
      | notANumber => rfl
      | infinity otherSign => cases otherSign <;> rfl
      | zero otherSign => rfl
      | finite otherSign _ _ _ => cases otherSign <;> rfl
  | zero sign =>
      cases right with
      | notANumber => rfl
      | infinity otherSign => cases otherSign <;> rfl
      | zero otherSign => rfl
      | finite otherSign _ _ _ => cases otherSign <;> rfl
  | finite sign mantissa exponent _ =>
      cases sign <;> cases right with
      | notANumber => rfl
      | infinity otherSign => cases otherSign <;> rfl
      | zero otherSign => rfl
      | finite otherSign otherMantissa otherExponent _ =>
          -- only here does the order come from the numbers behind the signs
          cases otherSign <;>
            simp [UnpackedFloat.compare, Ordering.swap_then, Int.compare_swap,
              Nat.compare_swap]

theorem compare_eq_none_iff (left right : UnpackedFloat) :
    left.compare right = none ↔ left.isNaN = true ∨ right.isNaN = true := by
  fun_cases UnpackedFloat.compare left right <;> simp_all

theorem lt_iff_compare (left right : Float) :
    left < right ↔
      left.toModel.unpack.compare right.toModel.unpack = some .lt := by
  have unfolded : left < right ↔
      decide (left.toModel.unpack.lt right.toModel.unpack = true) = true := Iff.rfl
  rw [unfolded, decide_eq_true_iff, UnpackedFloat.lt, beq_iff_eq]

theorem le_iff_compare (left right : Float) :
    left ≤ right ↔
      ∃ order, left.toModel.unpack.compare right.toModel.unpack = some order ∧
        order.isLE = true := by
  have unfolded : left ≤ right ↔
      decide (left.toModel.unpack.le right.toModel.unpack = true) = true := Iff.rfl
  rw [unfolded, decide_eq_true_iff, UnpackedFloat.le, Option.any_eq_true]

/-- A number that is not below another one is at least as large, unless one of the two is
no number. -/
theorem not_lt_iff_le_or_isNaN (left right : Float) :
    ¬ left < right ↔ right ≤ left ∨ left.isNaN = true ∨ right.isNaN = true := by
  have noNumber : left.isNaN = true ∨ right.isNaN = true ↔
      left.toModel.unpack.compare right.toModel.unpack = none :=
    (compare_eq_none_iff _ _).symm
  rw [noNumber, lt_iff_compare, le_iff_compare, compare_swapped left.toModel.unpack]
  cases left.toModel.unpack.compare right.toModel.unpack with
  | none => simp
  | some order => cases order <;> simp

end EditorLaunch
