import PlanarDynamics.Store.Handle

/-!
# Colliders

A collider ties geometry to a body. It names its geometry by kind and place, knows its own
handle, and has a material; a trigger collider reports overlaps instead of resolving them. A
collider of the empty kind marks a vacant slot.
-/

set_option autoImplicit false

namespace PlanarDynamics

/-- The surface of a collider. -/
@[ext]
structure Material (α : Type) where
  restitution : α
  friction : α
deriving DecidableEq

namespace Material

variable {α : Type} [Scalar α]

/-- A material with the restitution between zero and one and the friction not negative. -/
def make (restitution friction : α) : Material α :=
  ⟨Scalar.within 0 1 restitution, Scalar.upper friction 0⟩

/-- Full restitution without friction. -/
def bouncy : Material α := make 1 0

/-- No restitution. -/
def inelastic : Material α := make 0 0.5

/-- A little restitution and some friction. -/
def standard : Material α := ⟨0.2, 0.5⟩

end Material

/-- The geometry of a body at one place. -/
@[ext]
structure Collider (α : Type) where
  kind : ShapeKind
  place : Nat
  body : BodyRef
  self : ColliderRef
  material : Material α
  isTrigger : Bool
deriving DecidableEq

namespace Collider

variable {α : Type} [Scalar α]

/-- A solid collider of the standard material, not yet told its own handle. -/
def make (body : BodyRef) (kind : ShapeKind) (place : Nat) : Collider α :=
  ⟨kind, place, body, .first, .standard, false⟩

/-- The collider that marks a vacant slot. -/
def vacant : Collider α := make .first .empty 0

/-- Whether the collider stands for an entity. -/
def isLive (c : Collider α) : Bool := c.kind ≠ .empty

@[simp] theorem isLive_vacant : (vacant : Collider α).isLive = false := rfl

@[simp] theorem isLive_make (body : BodyRef) (kind : ShapeKind) (i : Nat) :
    (make body kind i : Collider α).isLive = decide (kind ≠ .empty) := rfl

end Collider

end PlanarDynamics
