import PlanarDynamics.Scalar.Basic

/-!
# Binary32 scalars

The scalar of a running simulation is the IEEE binary32 number: every operation rounds once,
to the nearest value, with ties to even. A count is rounded the same way
(`Binary32.ofCount`), and a number becomes a count by dropping its fraction, with everything
below zero or undefined read as zero and everything too large as the largest 64-bit count
(`Binary32.toCount`).
-/

set_option autoImplicit false

namespace PlanarDynamics

namespace Binary32

/-- The binary32 number nearest to a 64-bit count. -/
def ofCount (n : Nat) : Float32 := n.toUInt64.toFloat32

/-- The binary32 number nearest to an integer of at most 64 bits. -/
def ofInteger (n : Int) : Float32 := if n < 0 then -ofCount n.natAbs else ofCount n.natAbs

/-- The whole part of a number as a 64-bit count, cut off at both ends of the range. -/
def toCount (x : Float32) : Nat := x.toUInt64.toNat

/-- Whether the sign bit of a number is set. -/
def signBit (x : Float32) : Bool := x.toBits ≥ 0x80000000

end Binary32

instance : Scalar Float32 where
  zero := 0
  one := 1
  abs := Float32.abs
  sqrt := Float32.sqrt
  isFinite := Float32.isFinite
  ofNat := Binary32.ofCount
  decLt := inferInstance
  decLe := inferInstance
  zero_not_pos := by decide

end PlanarDynamics
