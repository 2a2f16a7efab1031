import PlanarDynamics.Plane.Box

/-!
# Shapes

A collider's geometry is a circle, an axis-aligned rectangle or a polygon, each given relative
to the body that carries it. The fields are free: a radius or half size may have any sign and
a polygon any number of vertices, so every operation answers for those too. The empty shape
stands for a collider without geometry, and is the only one without bounds
(`Shape.bounds?_eq_none_iff`). A shape is placed in the world by `translate`.
-/

set_option autoImplicit false

namespace PlanarDynamics

/-- The kinds of geometry. -/
inductive ShapeKind
  | empty
  | circle
  | rectangle
  | polygon
deriving DecidableEq, Inhabited

/-- A disc. -/
@[ext]
structure Circle (α : Type) where
  center : Vector2 α
  radius : α
deriving DecidableEq

/-- An axis-aligned rectangle around its centre. -/
@[ext]
structure Rectangle (α : Type) where
  center : Vector2 α
  halfSize : Vector2 α
deriving DecidableEq

/-- A closed chain of vertices, each joined to the next and the last to the first. -/
@[ext]
structure Polygon (α : Type) where
  vertices : List (Vector2 α)
deriving DecidableEq

/-- The geometry of a collider. -/
inductive Shape (α : Type)
  | empty
  | circle (c : Circle α)
  | rectangle (r : Rectangle α)
  | polygon (p : Polygon α)
deriving DecidableEq

variable {α : Type} [Scalar α]

namespace Circle

/-- The disc of radius one half around the origin. -/
def standard : Circle α := ⟨0, 0.5⟩

/-- The circle moved by an offset. -/
def translate (c : Circle α) (offset : Vector2 α) : Circle α :=
  { c with center := c.center + offset }

/-- The least box around the circle. -/
def bounds (c : Circle α) : Box α :=
  .spanning (c.center - .splat c.radius) (c.center + .splat c.radius)

end Circle

namespace Rectangle

/-- The unit square around the origin. -/
def standard : Rectangle α := ⟨0, .splat 0.5⟩

/-- The rectangle between two opposite corners, given in any order. -/
def spanning (a b : Vector2 α) : Rectangle α :=
  ⟨(a.lower b + a.upper b) * (0.5 : α), (a.upper b - a.lower b) * (0.5 : α)⟩

/-- The half size without its sign. -/
def extents (r : Rectangle α) : Vector2 α := r.halfSize.abs

/-- The lower corner. -/
def lo (r : Rectangle α) : Vector2 α := r.center - r.extents

/-- The upper corner. -/
def hi (r : Rectangle α) : Vector2 α := r.center + r.extents

/-- The rectangle moved by an offset. -/
def translate (r : Rectangle α) (offset : Vector2 α) : Rectangle α :=
  { r with center := r.center + offset }

/-- The rectangle as a box. -/
def bounds (r : Rectangle α) : Box α := .spanning r.lo r.hi

end Rectangle

namespace Polygon

/-- The polygon without vertices. -/
def standard : Polygon α := ⟨[]⟩

/-- The polygon moved by an offset. -/
def translate (p : Polygon α) (offset : Vector2 α) : Polygon α := ⟨p.vertices.map (· + offset)⟩

/-- The least box around the vertices. Without vertices it is the origin alone. -/
def bounds (p : Polygon α) : Box α := (Box.around? p.vertices).getD .origin

end Polygon

namespace Shape

/-- The kind of a shape. -/
def kind : Shape α → ShapeKind
  | empty => .empty
  | circle _ => .circle
  | rectangle _ => .rectangle
  | polygon _ => .polygon

/-- The shape a new collider of some kind starts with. -/
def standard : ShapeKind → Shape α
  | .empty => empty
  | .circle => circle .standard
  | .rectangle => rectangle .standard
  | .polygon => polygon .standard

/-- The shape moved by an offset. -/
def translate (s : Shape α) (offset : Vector2 α) : Shape α :=
  match s with
  | empty => empty
  | circle c => circle (c.translate offset)
  | rectangle r => rectangle (r.translate offset)
  | polygon p => polygon (p.translate offset)

/-- The least box around a shape, none for the empty shape. -/
def bounds? : Shape α → Option (Box α)
  | empty => none
  | circle c => some c.bounds
  | rectangle r => some r.bounds
  | polygon p => some p.bounds

@[simp] theorem kind_standard (k : ShapeKind) : (standard k : Shape α).kind = k := by
  cases k <;> rfl

@[simp] theorem kind_translate (s : Shape α) (offset : Vector2 α) :
    (s.translate offset).kind = s.kind := by
  cases s <;> rfl

theorem bounds?_eq_none_iff {s : Shape α} : s.bounds? = none ↔ s = empty := by
  cases s <;> simp [bounds?]

end Shape

end PlanarDynamics
