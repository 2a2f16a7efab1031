import PlanarDynamics.Body
import PlanarDynamics.Collider
import PlanarDynamics.Store.Arena

/-!
# What the stores hold

Bodies and colliders tell by their own fields whether they are live. A piece of geometry has no
field for it, so its slots hold it optionally. The bytes of a slot are those of the entity and
its generation.
-/

set_option autoImplicit false

namespace PlanarDynamics

variable {α : Type} [Scalar α]

instance : Entity (Body α) := ⟨Body.isLive, Body.vacant, 40, Body.isLive_vacant⟩

instance : Entity (Collider α) := ⟨Collider.isLive, Collider.vacant, 64, rfl⟩

/-- Geometry that is kept in slots of a known size. -/
class Geometry (γ : Type) where
  /-- The bytes of a slot, with its generation. -/
  slotBytes : Nat

instance {γ : Type} [Geometry γ] : Entity (Option γ) :=
  ⟨Option.isSome, none, Geometry.slotBytes γ, rfl⟩

/-- The size of a circle's slot. -/
instance : Geometry (Circle α) := ⟨24⟩

/-- The size of a rectangle's slot. -/
instance : Geometry (Rectangle α) := ⟨32⟩

/-- The size of a polygon's slot. -/
instance : Geometry (Polygon α) := ⟨32⟩

end PlanarDynamics
