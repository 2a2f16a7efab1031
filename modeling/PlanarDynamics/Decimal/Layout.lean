import PlanarDynamics.Decimal.Shortest

/-!
# Writing binary32 numbers

A number is written with its shortest digits in one of two layouts, or with a fixed number of
places. A `Layout` says between which powers of ten the point is placed positionally and
whether a whole number ends in a zero place. The sign is always kept, also that of zero.
-/

set_option autoImplicit false

namespace PlanarDynamics

/-- How a decimal is written. -/
structure Layout where
  /-- The powers of ten of the leading digit that are written without an exponent, all of them
  when there is no range. -/
  positional : Option (Int × Int)
  /-- Whether a whole number ends in a zero place. -/
  wholePlace : Bool

namespace Layout

/-- Never an exponent, and whole numbers without a point. -/
def plain : Layout := ⟨none, false⟩

/-- An exponent below `0.0001` and from `1e16` on, and a zero place after whole numbers. -/
def structured : Layout := ⟨some (-4, 15), true⟩

/-- The digits with the point in its place. -/
def positionally (l : Layout) (d : Decimal) : String :=
  let text := toString d.digits
  if d.exponent ≥ 0 then
    text ++ "".pushn '0' d.exponent.toNat ++ if l.wholePlace then ".0" else ""
  else
    let places := (-d.exponent).toNat
    let padded := "".pushn '0' (places + 1 - text.length) ++ text
    String.ofList (padded.toList.take (padded.length - places)) ++ "." ++
      String.ofList (padded.toList.drop (padded.length - places))

/-- One digit before the point, and the power of ten. -/
def scientifically (d : Decimal) : String :=
  match (toString d.digits).toList with
  | [] => ""
  | lead :: rest =>
    let power := d.exponent + (rest.length : Int)
    let fraction := if rest.isEmpty then "" else "." ++ String.ofList rest
    String.singleton lead ++ fraction ++ "e" ++ toString power

/-- A decimal in this layout. -/
def write (l : Layout) (d : Decimal) : String :=
  let lead := d.exponent + ((toString d.digits).length : Int) - 1
  match l.positional with
  | none => l.positionally d
  | some (least, greatest) =>
    if d.digits = 0 ∨ least ≤ lead ∧ lead ≤ greatest then l.positionally d else scientifically d

end Layout

namespace Binary32

/-- The texts of a number that is no number or infinite. -/
def specialText? (x : Float32) : Option String :=
  if x.isNaN then some "NaN"
  else if x.isFinite then none
  else some (if signBit x then "-inf" else "inf")

/-- The sign of a number as it is written. -/
def signText (x : Float32) : String := if signBit x then "-" else ""

/-- The absolute value of a finite number. -/
def magnitude (x : Float32) : Magnitude := .ofBits x.toBits.toNat

/-- The number with its shortest digits in a layout. -/
def text (l : Layout) (x : Float32) : String :=
  (specialText? x).getD (signText x ++ l.write (magnitude x).shortest)

/-- The number with exactly so many places after the point. -/
def fixedText (places : Nat) (x : Float32) : String :=
  (specialText? x).getD <|
    let units := (magnitude x).rounded places
    let fraction := toString (units % Nat.pow 10 places)
    signText x ++ toString (units / Nat.pow 10 places) ++ "." ++
      "".pushn '0' (places - fraction.length) ++ fraction

end Binary32

end PlanarDynamics
