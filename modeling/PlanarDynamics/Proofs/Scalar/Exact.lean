import Mathlib.Analysis.Real.Sqrt
import PlanarDynamics.Proofs.Scalar.Comparison

/-!
# Exact arithmetic

The real numbers are scalars of a simulation, with exact operations and an exact square root. Every
real is a number and is finite, so the two bounds are the minimum and the maximum
(`lower_eq_min`, `upper_eq_max`).
-/

set_option autoImplicit false

namespace PlanarDynamics

open scoped Classical in
/-- Exact numbers. -/
noncomputable instance : Scalar ℝ where
  beq a b := decide (a = b)
  abs a := |a|
  sqrt := Real.sqrt
  isFinite _ := true
  ofNat n := n
  decLt _ _ := inferInstance
  decLe _ _ := inferInstance
  zero_not_pos := lt_irrefl 0

namespace Scalar

theorem isNaN_real (a : ℝ) : isNaN a = false := by
  simp [isNaN, BEq.beq]

theorem abs_real (a : ℝ) : Scalar.abs a = |a| := rfl

theorem lower_eq_min (a b : ℝ) : lower a b = min a b := by
  unfold lower
  split
  case isTrue h => exact (min_eq_right (by simpa [isNaN_real] using h : b < a).le).symm
  case isFalse h => exact (min_eq_left (by simpa [isNaN_real] using h : a ≤ b)).symm

theorem upper_eq_max (a b : ℝ) : upper a b = max a b := by
  unfold upper
  split
  case isTrue h => exact (max_eq_right (by simpa [isNaN_real] using h : a < b).le).symm
  case isFalse h => exact (max_eq_left (by simpa [isNaN_real] using h : b ≤ a)).symm

end Scalar

instance : OrderedScalar ℝ where
  lt_asymm less := less.not_gt
  isNumber_of_lt _ := ⟨Scalar.isNaN_real _, Scalar.isNaN_real _⟩
  lt_or_lt less _ := (lt_or_ge _ _).imp_right fun notAbove => notAbove.trans_lt less
  isNumber_midpoint _ _ := Scalar.isNaN_real _
  zero_lt_one := one_pos

end PlanarDynamics
