import PlanarDynamics.Scalar.Binary32

/-!
# The shortest decimal of a binary32 number

A finite binary32 number is an integer times a power of two (`Magnitude`). The reals that
round to it form an interval around it, which reaches half way to each neighbour and includes
its ends exactly when the integer is even. `Magnitude.shortest` is a decimal of that interval
with the fewest digits, and among those the one nearest to the number, the greater one when two
are equally near.

All of this is exact: a decimal grid and the interval are compared as integers after clearing
denominators (`Magnitude.Grid`).
-/

set_option autoImplicit false

namespace PlanarDynamics

/-- A non-negative decimal number, `digits` times ten to the `exponent`. -/
structure Decimal where
  digits : Nat
  exponent : Int
deriving DecidableEq

namespace Decimal

/-- The same number without trailing zeros in its digits. -/
def trimmed (d : Decimal) : Decimal :=
  if h : d.digits = 0 then ⟨0, 0⟩
  else if d.digits % 10 = 0 then trimmed ⟨d.digits / 10, d.exponent + 1⟩
  else d
termination_by d.digits
decreasing_by exact Nat.div_lt_self (Nat.pos_of_ne_zero h) (by decide)

end Decimal

/-- The absolute value of a finite binary32 number, `significand` times two to the `exponent`. -/
structure Magnitude where
  significand : Nat
  exponent : Int
  /-- Whether the next lower number is only half as far away as the next greater one. -/
  narrowBelow : Bool
deriving DecidableEq

namespace Magnitude

/-- The absolute value of the finite number of the given bits. -/
def ofBits (bits : Nat) : Magnitude :=
  let fraction : Nat := bits % 0x800000
  let biased : Nat := bits / 0x800000 % 0x100
  if biased = 0 then ⟨fraction, -149, false⟩
  else ⟨fraction + 0x800000, (biased : Int) - 150, fraction = 0 && biased > 1⟩

/-- A decimal grid laid over quarter steps of a magnitude: a point `p` of the quarter steps and
a point `c` of the grid are the same number exactly when `p * quarter = c * unit`. -/
structure Grid where
  quarter : Nat
  unit : Nat

/-- The grid of the multiples of ten to the `scale`. -/
def grid (m : Magnitude) (scale : Int) : Grid :=
  let twos := m.exponent - 2
  ⟨Nat.pow 2 twos.toNat * Nat.pow 10 (-scale).toNat,
    Nat.pow 2 (-twos).toNat * Nat.pow 10 scale.toNat⟩

/-- The lower end of the interval, in quarter steps. -/
def lowEnd (m : Magnitude) : Nat := 4 * m.significand - if m.narrowBelow then 1 else 2

/-- The upper end of the interval, in quarter steps. -/
def highEnd (m : Magnitude) : Nat := 4 * m.significand + 2

/-- Whether a point of a grid rounds to the number. -/
def covers (m : Magnitude) (g : Grid) (c : Nat) : Bool :=
  if m.significand % 2 = 0 then
    m.lowEnd * g.quarter ≤ c * g.unit && c * g.unit ≤ m.highEnd * g.quarter
  else m.lowEnd * g.quarter < c * g.unit && c * g.unit < m.highEnd * g.quarter

/-- The distance from the number to a point of a grid, up to the common factor of that grid. -/
def gap (m : Magnitude) (g : Grid) (c : Nat) : Nat :=
  (4 * m.significand * g.quarter - c * g.unit) + (c * g.unit - 4 * m.significand * g.quarter)

/-- The point of a grid that rounds to the number, the nearer one if both neighbours do. -/
def nearest? (m : Magnitude) (g : Grid) : Option Nat :=
  let below := 4 * m.significand * g.quarter / g.unit
  let above := below + 1
  match m.covers g below, m.covers g above with
  | true, true => some (if m.gap g below < m.gap g above then below else above)
  | true, false => some below
  | false, true => some above
  | false, false => none

/-- The number of digits before the point, negative for a number that starts with zeros after
the point. Sixty places after the point are enough to see the first digit. -/
def width (m : Magnitude) : Int :=
  let scaled :=
    m.significand * Nat.pow 2 m.exponent.toNat * Nat.pow 10 60 / Nat.pow 2 (-m.exponent).toNat
  (Nat.toDigits 10 scaled).length - 60

/-- The decimal of the fewest digits that rounds to the number. Nine digits are always enough. -/
def shortest (m : Magnitude) : Decimal :=
  if m.significand = 0 then ⟨0, 0⟩
  else
    let found := (List.range 9).findSome? fun n =>
      let scale := m.width - (n + 1 : Nat)
      (m.nearest? (m.grid scale)).map fun c => (⟨c, scale⟩ : Decimal)
    (found.getD ⟨0, 0⟩).trimmed

/-- The number in units of ten to the minus `places`, rounded to the nearest integer, a tie to
the even one. -/
def rounded (m : Magnitude) (places : Nat) : Nat :=
  let scaled := m.significand * Nat.pow 2 m.exponent.toNat * Nat.pow 10 places
  let unit := Nat.pow 2 (-m.exponent).toNat
  let below := scaled / unit
  let rest := 2 * (scaled % unit)
  if rest < unit ∨ rest = unit ∧ below % 2 = 0 then below else below + 1

end Magnitude

end PlanarDynamics
