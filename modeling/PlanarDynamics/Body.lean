import PlanarDynamics.Plane.Vector

/-!
# Bodies and their motion

A body is a point mass with an accumulated force. A dynamic body follows the force, first in
its velocity and then, with the new velocity, in its position; a static one stays where it is.
Either way the force is used up (`force_integrate`). Gravity is a force proportional to the
mass, so that it accelerates all dynamic bodies alike.
-/

set_option autoImplicit false

namespace PlanarDynamics

/-- Whether a body moves. -/
inductive BodyKind
  | fixed
  | moving
deriving DecidableEq, Inhabited

/-- A body of the simulation. -/
@[ext]
structure Body (α : Type) where
  position : Vector2 α
  velocity : Vector2 α
  mass : α
  force : Vector2 α
  kind : BodyKind
deriving DecidableEq

namespace Body

variable {α : Type} [Scalar α]

/-- A moving body of mass one, at rest at the origin. -/
def standard : Body α := ⟨0, 0, 1, 0, .moving⟩

/-- The body that marks a vacant slot: its mass is zero. -/
def vacant : Body α := { standard with mass := 0 }

/-- Whether the body stands for an entity: its mass is positive. -/
def isLive (b : Body α) : Bool := b.mass > 0

/-- Whether the body never moves. -/
def isFixed (b : Body α) : Bool := b.kind = .fixed

/-- Whether the body follows forces and contacts. -/
def isMoving (b : Body α) : Bool := b.kind = .moving

/-- How easily a contact moves the body: one over the mass, zero for a fixed body. -/
def inverseMass (b : Body α) : α := if b.isMoving ∧ b.mass > 0 then 1 / b.mass else 0

/-- The body with a force added to the accumulated one. -/
def applyForce (b : Body α) (force : Vector2 α) : Body α := { b with force := b.force + force }

/-- The body without accumulated force. -/
def clearForce (b : Body α) : Body α := { b with force := 0 }

/-- The body under gravity: a moving body takes up a force proportional to its mass. -/
def applyGravity (b : Body α) (gravity : Vector2 α) : Body α :=
  if b.isMoving && gravity != 0 then b.applyForce (gravity * b.mass) else b

/-- The velocity after the accumulated force has acted for a time. -/
def accelerated (b : Body α) (dt : α) : Vector2 α := b.velocity + b.force / b.mass * dt

/-- The body after a time step. -/
def integrate (b : Body α) (dt : α) : Body α :=
  if b.isMoving && b.isLive then
    { b with
      velocity := b.accelerated dt
      position := b.position + b.accelerated dt * dt
      force := 0 }
  else b.clearForce

/-- The body after a time step under gravity. -/
def step (b : Body α) (gravity : Vector2 α) (dt : α) : Body α :=
  (b.applyGravity gravity).integrate dt

@[simp] theorem isLive_vacant : (vacant : Body α).isLive = false :=
  decide_eq_false Scalar.zero_not_pos

omit [Scalar α] in
theorem isMoving_eq_not_isFixed (b : Body α) : b.isMoving = !b.isFixed := by
  cases h : b.kind <;> simp [isMoving, isFixed, h]

@[simp] theorem mass_applyGravity (b : Body α) (g : Vector2 α) :
    (b.applyGravity g).mass = b.mass := by
  unfold applyGravity; split <;> rfl

@[simp] theorem kind_applyGravity (b : Body α) (g : Vector2 α) :
    (b.applyGravity g).kind = b.kind := by
  unfold applyGravity; split <;> rfl

@[simp] theorem mass_integrate (b : Body α) (dt : α) : (b.integrate dt).mass = b.mass := by
  unfold integrate; split <;> rfl

@[simp] theorem kind_integrate (b : Body α) (dt : α) : (b.integrate dt).kind = b.kind := by
  unfold integrate; split <;> rfl

@[simp] theorem force_integrate (b : Body α) (dt : α) : (b.integrate dt).force = 0 := by
  unfold integrate; split <;> rfl

end Body

end PlanarDynamics
