import PlanarDynamics.Plane.Vector

/-!
# Axis-aligned boxes

A `Box` is given by two corners. The corners are ordered when a box is spanned by two points
(`Box.spanning`), but a box may also be written down with any corners, and every operation is
defined for those too. Two boxes that share only an edge do not overlap (`Box.overlaps`),
while a box contains a box that reaches its edges (`Box.contains`).

The four `Quadrant`s of a box meet in its centre.
-/

set_option autoImplicit false

namespace PlanarDynamics

/-- The rectangle between a lower and an upper corner. -/
@[ext]
structure Box (α : Type) where
  lo : Vector2 α
  hi : Vector2 α
deriving DecidableEq, Inhabited

/-- The four parts of a box cut at its centre, in the order in which they are numbered. -/
inductive Quadrant
  | bottomLeft
  | bottomRight
  | topLeft
  | topRight
deriving DecidableEq

namespace Quadrant

/-- All quadrants in order. -/
def all : List Quadrant := [bottomLeft, bottomRight, topLeft, topRight]

/-- The place of a quadrant in the order. -/
def index : Quadrant → Nat
  | bottomLeft => 0
  | bottomRight => 1
  | topLeft => 2
  | topRight => 3

theorem mem_all (q : Quadrant) : q ∈ all := by cases q <;> decide

end Quadrant

namespace Box

variable {α : Type} [Scalar α]

/-- Two boxes are equal when their corners compare equal. -/
instance : BEq (Box α) := ⟨fun a b => a.lo == b.lo && a.hi == b.hi⟩

/-- The box of two opposite corners, given in any order. -/
def spanning (a b : Vector2 α) : Box α := ⟨a.lower b, a.upper b⟩

/-- The box around `center` that reaches `half` in each direction, whatever its sign. -/
def centered (center half : Vector2 α) : Box α := ⟨center - half.abs, center + half.abs⟩

/-- The box of the origin alone. -/
def origin : Box α := spanning 0 0

/-- Whether two boxes share more than an edge: on each axis, each one starts before the other
one ends. -/
def overlaps (a b : Box α) : Bool :=
  a.hi.x > b.lo.x && a.lo.x < b.hi.x && (a.hi.y > b.lo.y && a.lo.y < b.hi.y)

/-- Whether the second box lies inside the first, edges included. -/
def contains (a b : Box α) : Bool :=
  b.lo.x ≥ a.lo.x && b.lo.y ≥ a.lo.y && b.hi.x ≤ a.hi.x && b.hi.y ≤ a.hi.y

/-- The least box around two boxes. -/
def merge (a b : Box α) : Box α := ⟨a.lo.lower b.lo, a.hi.upper b.hi⟩

/-- The box around a list of points, none for the empty list. -/
def around? : List (Vector2 α) → Option (Box α)
  | [] => none
  | p :: ps => some (spanning (ps.foldl Vector2.lower p) (ps.foldl Vector2.upper p))

/-- The point half way between the corners. -/
def center (a : Box α) : Vector2 α := (a.lo + a.hi) * (0.5 : α)

/-- Half of the way from the lower to the upper corner. -/
def halfExtents (a : Box α) : Vector2 α := (a.hi - a.lo) * (0.5 : α)

/-- The box moved by an offset. -/
def translate (a : Box α) (offset : Vector2 α) : Box α := ⟨a.lo + offset, a.hi + offset⟩

/-- One quarter of the box. -/
def quadrant (a : Box α) : Quadrant → Box α
  | .bottomLeft => spanning a.lo a.center
  | .bottomRight => spanning ⟨a.center.x, a.lo.y⟩ ⟨a.hi.x, a.center.y⟩
  | .topLeft => spanning ⟨a.lo.x, a.center.y⟩ ⟨a.center.x, a.hi.y⟩
  | .topRight => spanning a.center a.hi

/-- The four quarters in order. -/
def quadrants (a : Box α) : List (Box α) := Quadrant.all.map a.quadrant

theorem around?_eq_none_iff {points : List (Vector2 α)} : around? points = none ↔ points = [] := by
  cases points <;> simp [around?]

end Box

end PlanarDynamics
