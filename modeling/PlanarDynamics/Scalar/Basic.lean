/-!
# Scalars

A simulation computes with numbers of one type, and that type is a parameter. `Scalar`
collects what the engine asks of it: the four operations, a sign change, a square root,
comparisons and decimal literals. Nothing is assumed about rounding, so the same programs
run on binary32 and are read over exact numbers.

A value that differs from itself is not a number (`isNaN`). The two component-wise bounds
`lower` and `upper` let such a value give way to the other operand, so a bound is lost only
when both sides are (`lower_of_isNaN`, `upper_of_isNaN`).
-/

set_option autoImplicit false

namespace PlanarDynamics

/-- The operations a simulation uses on its numbers. The one law says that zero is not
positive, which makes an entity of mass zero a vacant one. -/
class Scalar (α : Type) extends Add α, Sub α, Mul α, Div α, Neg α, Zero α, One α,
    LT α, LE α, BEq α, OfScientific α where
  /-- The value without its sign. -/
  abs : α → α
  /-- The square root. -/
  sqrt : α → α
  /-- Whether the value is an ordinary number, neither infinite nor undefined. -/
  isFinite : α → Bool
  /-- The number nearest to a count. -/
  ofNat : Nat → α
  /-- The strict order is decided by the program. -/
  decLt : DecidableLT α
  /-- The order is decided by the program. -/
  decLe : DecidableLE α
  /-- Zero is not positive. -/
  zero_not_pos : ¬ (0 : α) < 0

namespace Scalar

variable {α : Type} [Scalar α]

instance : DecidableLT α := Scalar.decLt

instance : DecidableLE α := Scalar.decLe

/-- Whether a value differs from itself. -/
def isNaN (a : α) : Bool := !(a == a)

/-- The lesser of two values. A value that is no number gives way to the other one. -/
def lower (a b : α) : α := if b < a ∨ isNaN a then b else a

/-- The greater of two values. A value that is no number gives way to the other one. -/
def upper (a b : α) : α := if a < b ∨ isNaN a then b else a

/-- The value moved to the nearer end when it lies outside the range from `lo` to `hi`.
A value that is no number is neither below nor above, and stays. -/
def within (lo hi a : α) : α :=
  let raised := if a < lo then lo else a
  if hi < raised then hi else raised

/-- Minus one below zero, one otherwise. -/
def sign (a : α) : α := if a < 0 then -1 else 1

/-- One of two values is chosen by `lower`. -/
theorem lower_eq_or (a b : α) : lower a b = a ∨ lower a b = b := by
  unfold lower
  split
  · exact Or.inr rfl
  · exact Or.inl rfl

/-- One of two values is chosen by `upper`. -/
theorem upper_eq_or (a b : α) : upper a b = a ∨ upper a b = b := by
  unfold upper
  split
  · exact Or.inr rfl
  · exact Or.inl rfl

theorem lower_of_isNaN {a : α} (h : isNaN a = true) (b : α) : lower a b = b :=
  if_pos (Or.inr h)

theorem upper_of_isNaN {a : α} (h : isNaN a = true) (b : α) : upper a b = b :=
  if_pos (Or.inr h)

end Scalar

end PlanarDynamics
