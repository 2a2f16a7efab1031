import PlanarDynamics.Shape.Basic

/-!
# Area and centroid of a polygon

The area follows the edges around the polygon: half the sum of the cross products of their
ends. The centroid follows the fan of triangles from the first vertex, each weighted by its
signed area, so that the parts outside a dent cancel. When the signed areas cancel to next to
nothing the centroid is the average of the vertices instead (`centroid_of_flat`).
-/

set_option autoImplicit false

namespace PlanarDynamics.Polygon

variable {α : Type} [Scalar α]

/-- The edges in order, the last one back to the first vertex. -/
def edges (p : Polygon α) : List (Vector2 α × Vector2 α) :=
  p.vertices.zip (p.vertices.rotateLeft 1)

/-- The far sides of the triangles spanned with the first vertex. -/
def fan (p : Polygon α) : List (Vector2 α × Vector2 α) :=
  p.vertices.tail.zip p.vertices.tail.tail

/-- The area enclosed by the edges, zero for fewer than three vertices. -/
def area (p : Polygon α) : α :=
  if p.vertices.length < 3 then 0
  else Scalar.abs (p.edges.foldl (fun sum e => sum + e.1.cross e.2) 0 / (2.0 : α))

/-- The signed area of the triangle of three points. -/
def signedArea (a b c : Vector2 α) : α := (b - a).cross (c - a) / (2.0 : α)

/-- The sum of the signed areas of the fan from `origin`. -/
def fanArea (p : Polygon α) (origin : Vector2 α) : α :=
  p.fan.foldl (fun sum side => sum + signedArea origin side.1 side.2) 0

/-- The sum of the centres of the triangles of the fan from `origin`, each weighted by its
signed area. -/
def fanMoment (p : Polygon α) (origin : Vector2 α) : Vector2 α :=
  p.fan.foldl (fun sum side =>
    sum + (origin + side.1 + side.2) / (3.0 : α) * signedArea origin side.1 side.2) 0

/-- The mean of the vertices. -/
def average (p : Polygon α) : Vector2 α :=
  p.vertices.foldl (· + ·) 0 / (Scalar.ofNat p.vertices.length : α)

/-- Whether the signed areas of the fan from `origin` cancel. -/
def IsFlat (p : Polygon α) (origin : Vector2 α) : Prop :=
  Scalar.abs (p.fanArea origin) < (1e-8 : α)

instance (p : Polygon α) (origin : Vector2 α) : Decidable (p.IsFlat origin) :=
  inferInstanceAs (Decidable (_ < _))

/-- The centre of mass of the polygon at uniform density. -/
def centroid (p : Polygon α) : Vector2 α :=
  match p.vertices with
  | [] => 0
  | origin :: _ => if p.IsFlat origin then p.average else p.fanMoment origin / p.fanArea origin

theorem centroid_of_flat {p : Polygon α} {origin : Vector2 α} {rest : List (Vector2 α)}
    (hp : p.vertices = origin :: rest) (h : p.IsFlat origin) : p.centroid = p.average := by
  simp [centroid, hp, h]

end PlanarDynamics.Polygon
