import PlanarDynamics.Contact.Basic
import PlanarDynamics.Shape.Basic

/-!
# The narrow phase

`Shape.meet` tells how two shapes, both placed in the world, lie to each other. Circles and
rectangles are tested exactly; as soon as a polygon takes part, only the boxes around the two
shapes are compared. Shapes that merely share a boundary point are apart, and so is everything
from the empty shape (`Shape.meet_empty_left`, `Shape.meet_empty_right`). A rectangle against a
circle is the circle against the rectangle seen from the other side (`Shape.meet_rectangle_circle`).

When the centres coincide no direction is better than another and the normal is `up`.
-/

set_option autoImplicit false

namespace PlanarDynamics

variable {α : Type} [Scalar α]

/-- Two circles meet when their centres are closer than the sum of the radii. The point
divides the line of the centres in the ratio of the radii. -/
def Circle.meet (a b : Circle α) : Meeting α :=
  let delta := a.center - b.center
  let reach := a.radius + b.radius
  if delta.lengthSquared ≥ reach * reach then .apart
  else
    let distance := Scalar.sqrt delta.lengthSquared
    .contact
      { normal := if distance > negligibleLength then delta / distance else .up
        point := b.center + delta * (b.radius / reach)
        depth := reach - distance }

/-- The point of a rectangle nearest to a given point. -/
def Rectangle.nearest (r : Rectangle α) (p : Vector2 α) : Vector2 α :=
  r.center + (p - r.center).clamp (-r.extents) r.extents

/-- A circle meets a rectangle when the nearest point of the rectangle is closer to the centre
than the radius. A centre inside the rectangle counts as a full radius deep. -/
def Circle.meetRectangle (c : Circle α) (r : Rectangle α) : Meeting α :=
  let nearest := r.nearest c.center
  let delta := c.center - nearest
  if delta.lengthSquared ≥ c.radius * c.radius then .apart
  else
    let distance := Scalar.sqrt delta.lengthSquared
    if distance > negligibleLength then
      .contact ⟨delta / distance, nearest, c.radius - distance⟩
    else .contact ⟨.up, nearest, c.radius⟩

/-- Two rectangles meet when they overlap on both axes. They are parted along the axis of the
lesser overlap, the first axis if both are equal, and the point is the centre of the overlap. -/
def Rectangle.meet (a b : Rectangle α) : Meeting α :=
  let delta := a.center - b.center
  let reach := a.extents + b.extents
  let overlapX := reach.x - Scalar.abs delta.x
  let overlapY := reach.y - Scalar.abs delta.y
  if overlapX ≤ 0 ∨ overlapY ≤ 0 then .apart
  else
    let point := (a.lo.upper b.lo + a.hi.lower b.hi) * (0.5 : α)
    if overlapX ≤ overlapY then .contact ⟨⟨Scalar.sign delta.x, 0⟩, point, overlapX⟩
    else .contact ⟨⟨0, Scalar.sign delta.y⟩, point, overlapY⟩

/-- Whether the boxes around two shapes overlap. A shape without bounds overlaps nothing. -/
def Shape.boundsOverlap (a b : Shape α) : Bool :=
  match a.bounds?, b.bounds? with
  | some boxA, some boxB => boxA.overlaps boxB
  | _, _ => false

/-- How two shapes placed in the world lie to each other. -/
def Shape.meet (a b : Shape α) : Meeting α :=
  match a, b with
  | .circle a, .circle b => a.meet b
  | .circle c, .rectangle r => c.meetRectangle r
  | .rectangle r, .circle c => (c.meetRectangle r).flip
  | .rectangle a, .rectangle b => a.meet b
  | a, b => if a.boundsOverlap b then .boxesOverlap else .apart

namespace Shape

@[simp] theorem meet_empty_left (b : Shape α) : meet empty b = .apart := by
  cases b <;> rfl

@[simp] theorem meet_empty_right (a : Shape α) : meet a empty = .apart := by
  cases a <;> rfl

theorem meet_rectangle_circle (r : Rectangle α) (c : Circle α) :
    meet (.rectangle r) (.circle c) = (meet (.circle c) (.rectangle r)).flip := rfl

theorem meet_polygon_left (p : Polygon α) (b : Shape α) :
    meet (.polygon p) b = if boundsOverlap (.polygon p) b then .boxesOverlap else .apart := by
  cases b <;> rfl

theorem meet_polygon_right (a : Shape α) (p : Polygon α) :
    meet a (.polygon p) = if boundsOverlap a (.polygon p) then .boxesOverlap else .apart := by
  cases a <;> rfl

end Shape

end PlanarDynamics
