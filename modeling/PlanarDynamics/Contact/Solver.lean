import PlanarDynamics.Body
import PlanarDynamics.Contact.Basic

/-!
# Resolving a contact

A `Solver` parts two bodies in contact. An impulse along the normal turns the speed at which
they approach into one at which they separate, damped by the restitution of the pair; bodies
that already separate get none. Then both are pushed apart by a share of the depth that exceeds
a tolerated slop. Both changes are divided by inverse mass, so a fixed body takes no part.

A fixed body against a moving one is resolved with the moving body first, and the contact seen
from its side (`Solver.resolve_of_fixed_moving`).
-/

set_option autoImplicit false

namespace PlanarDynamics

variable {α : Type} [Scalar α]

/-- The restitution of a pair: the mean of the two, weighted by mass. A pair without mass has
the lesser one. -/
def pairRestitution (massA restitutionA massB restitutionB : α) : α :=
  if massA + massB ≤ 0 then Scalar.lower restitutionA restitutionB
  else (restitutionA * massA + restitutionB * massB) / (massA + massB)

/-- How contacts are resolved. -/
@[ext]
structure Solver (α : Type) where
  /-- The share of the excess depth that one resolution removes. -/
  percent : α
  /-- The depth that is left alone. -/
  slop : α
deriving DecidableEq

/-- The two bodies of a pair after a contact, with the impulse between them. -/
@[ext]
structure Resolution (α : Type) where
  first : Body α
  second : Body α
  impulse : α
  /-- The contact that was acted on, none when neither body can move. -/
  settled : Option (Contact α)
deriving DecidableEq

namespace Resolution

/-- The same resolution with the bodies in the other order. -/
def swap {α : Type} (r : Resolution α) : Resolution α :=
  { r with first := r.second, second := r.first }

end Resolution

namespace Solver

/-- The solver that removes all of the depth. -/
def standard : Solver α := ⟨1, 0⟩

/-- The impulse that turns the approach of two bodies into separation, zero when they already
separate. -/
def impulse (a b : Body α) (restitution : α) (normal : Vector2 α) (inverseMass : α) : α :=
  -(1 + restitution) * (a.velocity - b.velocity).dot normal / inverseMass

/-- Whether two bodies move apart along a normal. -/
def separating (a b : Body α) (normal : Vector2 α) : Bool :=
  (a.velocity - b.velocity).dot normal > 0

/-- A body pushed by an impulse along a normal. A fixed body is not pushed. -/
def push (b : Body α) (normal : Vector2 α) (impulse : α) : Body α :=
  if b.isMoving then { b with velocity := b.velocity + normal * (impulse * b.inverseMass) } else b

/-- A body pushed against a normal. A fixed body is not pushed. -/
def pull (b : Body α) (normal : Vector2 α) (impulse : α) : Body α :=
  if b.isMoving then { b with velocity := b.velocity - normal * (impulse * b.inverseMass) } else b

/-- The depth to be removed. -/
def excess (s : Solver α) (c : Contact α) : α := Scalar.upper (c.depth - s.slop) 0

/-- The displacement per unit of inverse mass that removes the share of the depth. -/
def correction (s : Solver α) (c : Contact α) (inverseMass : α) : Vector2 α :=
  c.normal * (s.excess c / inverseMass * s.percent)

/-- The two bodies moved apart. Nothing moves when no depth is to be removed. -/
def separate (s : Solver α) (a b : Body α) (c : Contact α) (inverseMass : α) : Body α × Body α :=
  if s.excess c ≤ 0 then (a, b)
  else
    let shift := s.correction c inverseMass
    (if a.isMoving then { a with position := a.position + shift * a.inverseMass } else a,
      if b.isMoving then { b with position := b.position - shift * b.inverseMass } else b)

/-- The contact of two bodies resolved in the given order. -/
def settle (s : Solver α) (a b : Body α) (restitutionA restitutionB : α) (c : Contact α) :
    Resolution α :=
  let inverseMass := a.inverseMass + b.inverseMass
  if inverseMass ≤ 0 then ⟨a, b, 0, none⟩
  else if separating a b c.normal then
    let (a, b) := s.separate a b c inverseMass
    ⟨a, b, 0, some c⟩
  else
    let e := pairRestitution a.mass restitutionA b.mass restitutionB
    let j := impulse a b e c.normal inverseMass
    let (a, b) := s.separate (push a c.normal j) (pull b c.normal j) c inverseMass
    ⟨a, b, j, some c⟩

/-- The contact of two bodies resolved, a moving body before a fixed one. -/
def resolve (s : Solver α) (a b : Body α) (restitutionA restitutionB : α) (c : Contact α) :
    Resolution α :=
  if a.isFixed && b.isMoving then (s.settle b a restitutionB restitutionA c.flip).swap
  else s.settle a b restitutionA restitutionB c

theorem resolve_of_fixed_moving (s : Solver α) {a b : Body α} (ha : a.isFixed = true)
    (hb : b.isMoving = true) (ra rb : α) (c : Contact α) :
    s.resolve a b ra rb c = (s.resolve b a rb ra c.flip).swap := by
  simp_all [resolve, Body.isMoving_eq_not_isFixed]

end Solver

end PlanarDynamics
