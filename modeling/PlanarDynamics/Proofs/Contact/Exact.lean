import Mathlib.Analysis.Real.Sqrt
import PlanarDynamics.Proofs.Contact.Symmetry

/-!
# Resolving a contact in exact arithmetic

With exact arithmetic the order of the two bodies does not matter at all, and a fixed body needs no
case of its own: its inverse mass is zero, so its share of every change is nothing. A contact gives
each body its share of the impulse, which changes its velocity, and its share of the correction,
which changes its place (`Solver.Shared`, `Solver.shared_resolve`).
-/

set_option autoImplicit false

namespace PlanarDynamics

namespace Vector2

theorem Alike.eq_of_real {u v : Vector2 ℝ} (alike : u.Alike v) : u = v :=
  Vector2.ext (Scalar.alike_real_iff.mp alike.x) (Scalar.alike_real_iff.mp alike.y)

theorem add_mul_zero (u v : Vector2 ℝ) : u + v * (0 : ℝ) = u :=
  Vector2.ext (by simp) (by simp)

theorem sub_mul_zero (u v : Vector2 ℝ) : u - v * (0 : ℝ) = u :=
  Vector2.ext (by simp) (by simp)

end Vector2

namespace Body

theorem Alike.eq_of_real {b b' : Body ℝ} (alike : b.Alike b') : b = b' :=
  Body.ext alike.position.eq_of_real alike.velocity.eq_of_real alike.mass alike.force alike.kind

variable {b : Body ℝ}

theorem inverseMass_nonneg (b : Body ℝ) : 0 ≤ b.inverseMass := by
  unfold inverseMass
  split
  case isTrue moving => exact one_div_nonneg.mpr moving.2.le
  case isFalse => exact le_rfl

theorem inverseMass_of_moving (moving : b.isMoving = true) (heavy : 0 < b.mass) :
    b.inverseMass = 1 / b.mass :=
  if_pos ⟨moving, heavy⟩

theorem inverseMass_of_fixed (fixed : ¬ b.isMoving = true) : b.inverseMass = 0 :=
  if_neg fun moving => fixed moving.1

theorem inverseMass_pos (moving : b.isMoving = true) (heavy : 0 < b.mass) : 0 < b.inverseMass := by
  rw [inverseMass_of_moving moving heavy]
  exact one_div_pos.mpr heavy

/-- Two bodies of which one can be moved can be moved together. -/
theorem add_inverseMass_pos {a : Body ℝ} (heavyA : 0 < a.mass) (heavyB : 0 < b.mass)
    (movable : a.isMoving = true ∨ b.isMoving = true) : 0 < a.inverseMass + b.inverseMass := by
  rcases movable with moving | moving
  · exact add_pos_of_pos_of_nonneg (inverseMass_pos moving heavyA) b.inverseMass_nonneg
  · exact add_pos_of_nonneg_of_pos a.inverseMass_nonneg (inverseMass_pos moving heavyB)

end Body

namespace Solver

/-- A fixed body gets its share of an impulse too, which is nothing. -/
theorem push_eq (b : Body ℝ) (normal : Vector2 ℝ) (j : ℝ) :
    push b normal j = { b with velocity := b.velocity + normal * (j * b.inverseMass) } := by
  unfold push
  split
  case isTrue => rfl
  case isFalse fixed => rw [Body.inverseMass_of_fixed fixed, mul_zero, Vector2.add_mul_zero]

theorem pull_eq (b : Body ℝ) (normal : Vector2 ℝ) (j : ℝ) :
    pull b normal j = { b with velocity := b.velocity - normal * (j * b.inverseMass) } := by
  unfold pull
  split
  case isTrue => rfl
  case isFalse fixed => rw [Body.inverseMass_of_fixed fixed, mul_zero, Vector2.sub_mul_zero]

theorem excess_eq_max (s : Solver ℝ) (c : Contact ℝ) : s.excess c = max (c.depth - s.slop) 0 :=
  Scalar.upper_eq_max _ _

/-- A depth within the slop is removed too, by nothing. -/
theorem separate_eq (s : Solver ℝ) (a b : Body ℝ) (c : Contact ℝ) (m : ℝ) :
    s.separate a b c m =
      ({ a with position := a.position + s.correction c m * a.inverseMass },
        { b with position := b.position - s.correction c m * b.inverseMass }) := by
  unfold separate
  split
  case isTrue within =>
    have none : s.excess c = 0 := le_antisymm within (s.excess_eq_max c ▸ le_max_right _ _)
    have still : ∀ k : ℝ, s.correction c m * k = c.normal * (0 : ℝ) := by
      intro k
      rw [correction, none, zero_div, zero_mul]
      exact Vector2.ext (by simp) (by simp)
    rw [still, still, Vector2.add_mul_zero, Vector2.sub_mul_zero]
  case isFalse =>
    refine Prod.ext ?_ ?_
    · dsimp only
      split
      case isTrue => rfl
      case isFalse fixed => rw [Body.inverseMass_of_fixed fixed, Vector2.add_mul_zero]
    · dsimp only
      split
      case isTrue => rfl
      case isFalse fixed => rw [Body.inverseMass_of_fixed fixed, Vector2.sub_mul_zero]

/-- The impulse between two bodies, none when they move apart. -/
noncomputable def exchanged (a b : Body ℝ) (restitution : ℝ) (normal : Vector2 ℝ) : ℝ :=
  if 0 < (a.velocity - b.velocity).dot normal then 0
  else impulse a b restitution normal (a.inverseMass + b.inverseMass)

/-- Each of two bodies got its share of the impulse and of the correction. -/
structure Shared (s : Solver ℝ) (a b : Body ℝ) (ra rb : ℝ) (c : Contact ℝ) (r : Resolution ℝ) :
    Prop where
  first : r.first = { a with
    position := a.position + s.correction c (a.inverseMass + b.inverseMass) * a.inverseMass
    velocity := a.velocity + c.normal * (r.impulse * a.inverseMass) }
  second : r.second = { b with
    position := b.position - s.correction c (a.inverseMass + b.inverseMass) * b.inverseMass
    velocity := b.velocity - c.normal * (r.impulse * b.inverseMass) }
  impulse : r.impulse = exchanged a b (pairRestitution a.mass ra b.mass rb) c.normal

variable (s : Solver ℝ) {a b : Body ℝ} (ra rb : ℝ) (c : Contact ℝ)
  (movable : 0 < a.inverseMass + b.inverseMass)

include movable

theorem shared_settle : s.Shared a b ra rb c (s.settle a b ra rb c) := by
  unfold settle
  dsimp only
  rw [if_neg movable.not_ge]
  split
  case isTrue parting =>
    have none : exchanged a b (pairRestitution a.mass ra b.mass rb) c.normal = 0 :=
      if_pos (of_decide_eq_true parting)
    rw [separate_eq]
    refine ⟨?_, ?_, none.symm⟩
    · rw [zero_mul, Vector2.add_mul_zero]
    · rw [zero_mul, Vector2.sub_mul_zero]
  case isFalse approaching =>
    have given : exchanged a b (pairRestitution a.mass ra b.mass rb) c.normal =
        Solver.impulse a b (pairRestitution a.mass ra b.mass rb) c.normal
          (a.inverseMass + b.inverseMass) :=
      if_neg fun parting => approaching (decide_eq_true parting)
    rw [separate_eq, push_eq, pull_eq]
    exact ⟨rfl, rfl, given.symm⟩

/-- **A contact in exact arithmetic.** Whatever the kinds of the bodies and their order, each of
them gets its share. -/
theorem shared_resolve : s.Shared a b ra rb c (s.resolve a b ra rb c) := by
  have settled := s.shared_settle ra rb c movable
  unfold resolve
  split
  case isFalse => exact settled
  case isTrue =>
    have turned := s.settle_flip a b ra rb c
    have first := turned.first.eq_of_real
    have second := turned.second.eq_of_real
    have impulse := Scalar.alike_real_iff.mp turned.impulse
    exact ⟨first ▸ impulse ▸ settled.first, second ▸ impulse ▸ settled.second,
      impulse ▸ settled.impulse⟩

end Solver

end PlanarDynamics
