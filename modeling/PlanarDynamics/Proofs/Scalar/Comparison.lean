import PlanarDynamics.Plane.Box

/-!
# Laws of comparison

The scalars of a simulation are not quite ordered: a value that is no number compares with
nothing, and two zeros may compare equal without being the same. `OrderedScalar` collects what
comparisons still satisfy. On numbers, the strict order is a strict weak order; a value that
takes part in a true comparison is a number; and the midpoint of two values is a number when
both lie strictly between others, whatever rounding does to it.

The bounds `lower` and `upper` then have the usual laws (`lower_lt_iff`, `lt_upper_iff`), with no
exception for values that are no numbers.
-/

set_option autoImplicit false

namespace PlanarDynamics

/-- Scalars whose strict order is a strict weak order on the values that are numbers. -/
class OrderedScalar (α : Type) [Scalar α] : Prop where
  /-- Two values are not less than each other. -/
  lt_asymm {a b : α} : a < b → ¬ b < a
  /-- Only numbers are less or greater than anything. -/
  isNumber_of_lt {a b : α} : a < b → Scalar.isNaN a = false ∧ Scalar.isNaN b = false
  /-- A number lies above the lesser or below the greater of two others. -/
  lt_or_lt {a b c : α} : a < b → Scalar.isNaN c = false → a < c ∨ c < b
  /-- The midpoint of two values that have lesser and greater ones is a number. -/
  isNumber_midpoint {a b : α} : (∃ x y, x < a ∧ a < y) → (∃ x y, x < b ∧ b < y) →
    Scalar.isNaN ((a + b) * (0.5 : α)) = false
  /-- One is positive. -/
  zero_lt_one : (0 : α) < 1

namespace Scalar

variable {α : Type} [Scalar α] [OrderedScalar α] {a b x y : α}

theorem isNumber_left (h : a < b) : isNaN a = false := (OrderedScalar.isNumber_of_lt h).1

theorem isNumber_right (h : a < b) : isNaN b = false := (OrderedScalar.isNumber_of_lt h).2

theorem lt_trans (h : a < b) (h' : b < x) : a < x :=
  (OrderedScalar.lt_or_lt h (isNumber_right h')).resolve_right (OrderedScalar.lt_asymm h')

/-- A value lies below the greater of two others exactly when it lies below one of them. -/
theorem lt_upper_iff : x < upper a b ↔ x < a ∨ x < b := by
  unfold upper
  split
  case isTrue h =>
      refine ⟨Or.inr, fun below => below.elim (fun below => ?_) id⟩
      rcases h with less | nan
      · exact lt_trans below less
      · exact absurd (isNumber_right below) (by simp [nan])
  case isFalse h =>
      obtain ⟨notLess, number⟩ := not_or.mp h
      refine ⟨Or.inl, fun below => below.elim id fun below => ?_⟩
      exact (OrderedScalar.lt_or_lt below (by simpa using number)).resolve_right notLess

/-- A value lies above the lesser of two others exactly when it lies above one of them. -/
theorem lower_lt_iff : lower a b < y ↔ a < y ∨ b < y := by
  unfold lower
  split
  case isTrue h =>
      refine ⟨Or.inr, fun above => above.elim (fun above => ?_) id⟩
      rcases h with less | nan
      · exact lt_trans less above
      · exact absurd (isNumber_left above) (by simp [nan])
  case isFalse h =>
      obtain ⟨notLess, number⟩ := not_or.mp h
      refine ⟨Or.inl, fun above => above.elim id fun above => ?_⟩
      exact (OrderedScalar.lt_or_lt above (by simpa using number)).resolve_left notLess

end Scalar

end PlanarDynamics
