import PlanarDynamics.Shape.Basic

/-!
# Stores and handles

A world keeps its bodies, its colliders and the three kinds of geometry in stores. A `Handle`
names an entity of a store by the slot it lives in and the generation the slot had when the
entity was put there, so that a handle outlives its entity without ever naming another one.
Handles are ordered by slot, then by generation.
-/

set_option autoImplicit false

namespace PlanarDynamics

/-- What a store holds. -/
inductive StoreKind
  | body
  | collider
  | shape (kind : ShapeKind)
deriving DecidableEq

/-- A name for an entity of a store. -/
@[ext]
structure Handle (k : StoreKind) where
  index : Nat
  generation : Nat
deriving DecidableEq

/-- A name for a body. -/
abbrev BodyRef := Handle .body

/-- A name for a collider. -/
abbrev ColliderRef := Handle .collider

namespace Handle

variable {k : StoreKind}

/-- The name of the first slot in its first generation. -/
def first : Handle k := ⟨0, 0⟩

/-- Handles are ordered by slot, then by generation. -/
instance : LE (Handle k) :=
  ⟨fun a b => a.index < b.index ∨ a.index = b.index ∧ a.generation ≤ b.generation⟩

theorem le_def {a b : Handle k} :
    a ≤ b ↔ a.index < b.index ∨ a.index = b.index ∧ a.generation ≤ b.generation :=
  Iff.rfl

instance (a b : Handle k) : Decidable (a ≤ b) := decidable_of_iff' _ le_def

theorem le_refl (a : Handle k) : a ≤ a := Or.inr ⟨rfl, Nat.le_refl _⟩

theorem le_total (a b : Handle k) : a ≤ b ∨ b ≤ a := by
  simp only [le_def]; omega

theorem le_trans {a b c : Handle k} (h₁ : a ≤ b) (h₂ : b ≤ c) : a ≤ c := by
  simp only [le_def] at *; omega

theorem le_antisymm {a b : Handle k} (h₁ : a ≤ b) (h₂ : b ≤ a) : a = b := by
  simp only [le_def] at *
  exact Handle.ext (by omega) (by omega)

end Handle

end PlanarDynamics
