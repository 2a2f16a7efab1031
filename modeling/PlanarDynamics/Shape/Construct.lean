import PlanarDynamics.Shape.Basic

/-!
# Checked shapes

Shapes built from measurements are checked: a radius and a half size must be non-negative,
which also refuses a value that is no number, and a polygon needs three vertices. A refusal
names the measurement that was wrong. `Circle.make_eq_ok_iff`, `Rectangle.make_eq_ok_iff` and
`Polygon.make_eq_ok_iff` say exactly what is accepted.
-/

set_option autoImplicit false

namespace PlanarDynamics

/-- Why a shape was refused. -/
inductive ShapeFault (α : Type)
  | negativeRadius (radius : α)
  | negativeHalfSize (halfSize : Vector2 α)
  | tooFewVertices (count : Nat)
deriving DecidableEq

variable {α : Type} [Scalar α]

/-- A circle of non-negative radius. -/
def Circle.make (center : Vector2 α) (radius : α) : Except (ShapeFault α) (Circle α) :=
  if radius ≥ 0 then .ok ⟨center, radius⟩ else .error (.negativeRadius radius)

/-- A rectangle of non-negative half size. -/
def Rectangle.make (center halfSize : Vector2 α) : Except (ShapeFault α) (Rectangle α) :=
  if halfSize.x ≥ 0 ∧ halfSize.y ≥ 0 then .ok ⟨center, halfSize⟩
  else .error (.negativeHalfSize halfSize)

/-- A polygon of at least three vertices. -/
def Polygon.make (vertices : List (Vector2 α)) : Except (ShapeFault α) (Polygon α) :=
  if vertices.length < 3 then .error (.tooFewVertices vertices.length) else .ok ⟨vertices⟩

theorem Circle.make_eq_ok_iff {center : Vector2 α} {radius : α} {c : Circle α} :
    Circle.make center radius = .ok c ↔ radius ≥ 0 ∧ c = ⟨center, radius⟩ := by
  unfold Circle.make
  split <;> simp_all [eq_comm]

theorem Rectangle.make_eq_ok_iff {center halfSize : Vector2 α} {r : Rectangle α} :
    Rectangle.make center halfSize = .ok r ↔
      (halfSize.x ≥ 0 ∧ halfSize.y ≥ 0) ∧ r = ⟨center, halfSize⟩ := by
  unfold Rectangle.make
  split <;> simp_all [eq_comm]

omit [Scalar α] in
theorem Polygon.make_eq_ok_iff {vertices : List (Vector2 α)} {p : Polygon α} :
    Polygon.make vertices = .ok p ↔ 3 ≤ vertices.length ∧ p = ⟨vertices⟩ := by
  unfold Polygon.make
  split
  · simp; omega
  · simp [eq_comm]; omega

end PlanarDynamics
