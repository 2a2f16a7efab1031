import PlanarDynamics.Plane.Vector

/-!
# Contacts

Where two solid shapes meet, a `Contact` says how to part them: a normal from the second shape
towards the first, a point of the overlap and the depth along the normal. The answer of the
narrow phase is a `Meeting`: the shapes are apart, they are in contact, or only the boxes around
them are known to overlap. Seen from the other shape the normal turns round and nothing else
changes (`Contact.flip`).
-/

set_option autoImplicit false

namespace PlanarDynamics

/-- How two shapes press into each other. The normal points from the second to the first. -/
@[ext]
structure Contact (α : Type) where
  normal : Vector2 α
  point : Vector2 α
  depth : α
deriving DecidableEq

/-- How two shapes lie to each other. -/
inductive Meeting (α : Type)
  | apart
  | contact (c : Contact α)
  | boxesOverlap
deriving DecidableEq

variable {α : Type} [Scalar α]

/-- The same contact seen from the other shape. -/
def Contact.flip (c : Contact α) : Contact α := { c with normal := -c.normal }

namespace Meeting

/-- Whether the shapes count as touching. -/
def isTouching : Meeting α → Bool
  | apart => false
  | contact _ => true
  | boxesOverlap => true

/-- The contact, if there is one. -/
def contact? : Meeting α → Option (Contact α)
  | contact c => some c
  | _ => none

/-- The same meeting seen from the other shape. -/
def flip : Meeting α → Meeting α
  | contact c => contact c.flip
  | m => m

@[simp] theorem isTouching_flip (m : Meeting α) : m.flip.isTouching = m.isTouching := by
  cases m <;> rfl

omit [Scalar α] in
theorem isTouching_eq_false_iff {m : Meeting α} : m.isTouching = false ↔ m = apart := by
  cases m <;> simp [isTouching]

end Meeting

end PlanarDynamics
