import Mathlib.Algebra.BigOperators.Group.List.Basic
import Mathlib.Tactic.LinearCombination
import PlanarDynamics.Proofs.Contact.Response
import PlanarDynamics.Proofs.Scalar.Exact

/-!
# What a contact gives to one body it takes from the other

With exact arithmetic the vectors of the plane form a commutative group, so the momenta of bodies
can be added up, and so can their moments, the masses at their places. A contact of two moving
bodies keeps both sums (`Solver.conserves_resolve`): what one body is pushed and shifted, weighted
with its mass, the other is pushed and shifted the opposite way. A step of time accelerates a body
by gravity and by its force (`Body.step_of_moving`); without either it keeps the momentum and moves
the moment along it (`Body.Drifting.moment_step`).
-/

set_option autoImplicit false

namespace PlanarDynamics

namespace Vector2

noncomputable instance : AddCommGroup (Vector2 ℝ) where
  add_assoc a b c := Vector2.ext (add_assoc a.x b.x c.x) (add_assoc a.y b.y c.y)
  zero_add a := Vector2.ext (zero_add a.x) (zero_add a.y)
  add_zero a := Vector2.ext (add_zero a.x) (add_zero a.y)
  neg_add_cancel a := Vector2.ext (neg_add_cancel a.x) (neg_add_cancel a.y)
  add_comm a b := Vector2.ext (add_comm a.x b.x) (add_comm a.y b.y)
  sub_eq_add_neg a b := Vector2.ext (sub_eq_add_neg a.x b.x) (sub_eq_add_neg a.y b.y)
  nsmul := nsmulRec
  zsmul := zsmulRec

/-- Scaling by a number, which respects sums. -/
noncomputable def scaling (s : ℝ) : Vector2 ℝ →+ Vector2 ℝ where
  toFun v := v * s
  map_zero' := Vector2.ext (zero_mul s) (zero_mul s)
  map_add' a b := Vector2.ext (add_mul a.x b.x s) (add_mul a.y b.y s)

theorem scaling_apply (s : ℝ) (v : Vector2 ℝ) : scaling s v = v * s := rfl

end Vector2

namespace Body

theorem Nudged.isMoving {α : Type} {b b' : Body α} (nudged : b.Nudged b') :
    b'.isMoving = b.isMoving := by
  rw [Body.isMoving, Body.isMoving, nudged.kind]

/-- Gravity is a force in proportion to the mass, so it accelerates by itself. Where there is none,
no weight is added at all, which comes to the same. -/
theorem step_of_moving {v : Body ℝ} (moving : v.kind = .moving) (live : v.isLive = true)
    (gravity : Vector2 ℝ) (dt : ℝ) :
    let velocity := v.velocity + (gravity + v.force / v.mass) * dt
    v.step gravity dt =
      { v with velocity := velocity, position := v.position + velocity * dt, force := 0 } := by
  intro velocity
  have positive : v.mass ≠ 0 := (of_decide_eq_true live : 0 < v.mass).ne'
  have follows : v.isMoving = true := decide_eq_true moving
  have pulled : v.applyGravity gravity = v.applyForce (gravity * v.mass) := by
    rw [applyGravity, follows, Bool.true_and]
    split
    case isTrue => rfl
    case isFalse weightless =>
      have none : gravity = 0 := by simpa [bne, BEq.beq, Vector2.ext_iff] using weightless
      subst none
      exact Body.ext rfl rfl rfl (Vector2.ext (by simp [applyForce]) (by simp [applyForce])) rfl
  have reached : (v.applyForce (gravity * v.mass)).accelerated dt = velocity := by
    apply Vector2.ext
    · simp only [accelerated, applyForce, velocity, Vector2.add_x, Vector2.mul_x, Vector2.div_x]
      field_simp
      ring
    · simp only [accelerated, applyForce, velocity, Vector2.add_y, Vector2.mul_y, Vector2.div_y]
      field_simp
      ring
  have moves : ((v.applyForce (gravity * v.mass)).isMoving &&
      (v.applyForce (gravity * v.mass)).isLive) = true :=
    Bool.and_eq_true_iff.mpr ⟨follows, live⟩
  rw [step, pulled, integrate, if_pos moves, reached]
  rfl

/-- The mass in motion. -/
noncomputable def momentum (b : Body ℝ) : Vector2 ℝ := b.velocity * b.mass

/-- The mass at its place. -/
noncomputable def moment (b : Body ℝ) : Vector2 ℝ := b.position * b.mass

/-- The body follows contacts, and no force is waiting to act on it. -/
structure Drifting (b : Body ℝ) : Prop where
  moving : b.kind = .moving
  unforced : b.force = 0

section Drifting

variable {b : Body ℝ} (drifting : b.Drifting)

include drifting

/-- A step of time without forces moves a body along its velocity. -/
theorem Drifting.step (live : b.isLive = true) (dt : ℝ) :
    b.step 0 dt = { b with position := b.position + b.velocity * dt } := by
  have steady : b.velocity + (0 + b.force / b.mass) * dt = b.velocity := by
    rw [drifting.unforced]
    exact Vector2.ext (by simp) (by simp)
  rw [step_of_moving drifting.moving live, steady]
  exact Body.ext rfl rfl rfl drifting.unforced.symm rfl

theorem Drifting.momentum_step (live : b.isLive = true) (dt : ℝ) :
    (b.step 0 dt).momentum = b.momentum := by
  rw [drifting.step live]
  rfl

theorem Drifting.moment_step (live : b.isLive = true) (dt : ℝ) :
    (b.step 0 dt).moment = b.moment + b.momentum * dt := by
  rw [drifting.step live]
  exact Vector2.ext (by simp [moment, momentum]; ring) (by simp [moment, momentum]; ring)

theorem Drifting.of_nudged {b' : Body ℝ} (nudged : b.Nudged b') : b'.Drifting :=
  ⟨nudged.kind.trans drifting.moving, nudged.force.trans drifting.unforced⟩

end Drifting

end Body

namespace Solver

/-- The two bodies of a contact have together what they had before. -/
structure Conserves (a b a' b' : Body ℝ) : Prop where
  momentum : a'.momentum + b'.momentum = a.momentum + b.momentum
  moment : a'.moment + b'.moment = a.moment + b.moment

theorem Conserves.trans {a b a' b' a'' b'' : Body ℝ} (first : Conserves a b a' b')
    (second : Conserves a' b' a'' b'') : Conserves a b a'' b'' :=
  ⟨second.momentum.trans first.momentum, second.moment.trans first.moment⟩

section Pair

variable {a b : Body ℝ} (movingA : a.isMoving = true) (movingB : b.isMoving = true)
  (liveA : a.isLive = true) (liveB : b.isLive = true)

include movingA movingB liveA liveB

/-- What two moving bodies get in shares of their inverse masses, one along a vector and the other
against it, cancels out. -/
theorem shares_cancel (u v d : Vector2 ℝ) :
    (u + d * a.inverseMass) * a.mass + (v - d * b.inverseMass) * b.mass =
      u * a.mass + v * b.mass := by
  have share : ∀ {e : Body ℝ}, e.isMoving = true → e.isLive = true →
      e.inverseMass * e.mass = 1 := by
    intro e moving live
    have positive : 0 < e.mass := of_decide_eq_true live
    rw [Body.inverseMass, if_pos ⟨moving, positive⟩]
    exact one_div_mul_cancel positive.ne'
  have shareA := share movingA liveA
  have shareB := share movingB liveB
  apply Vector2.ext
  · simp only [Vector2.add_x, Vector2.mul_x, Vector2.sub_x]
    linear_combination d.x * shareA - d.x * shareB
  · simp only [Vector2.add_y, Vector2.mul_y, Vector2.sub_y]
    linear_combination d.y * shareA - d.y * shareB

theorem conserves_push_pull (normal : Vector2 ℝ) (j : ℝ) :
    Conserves a b (push a normal j) (pull b normal j) := by
  have apart : ∀ m : ℝ, normal * (j * m) = normal * j * m := fun m =>
    Vector2.ext (mul_assoc normal.x j m).symm (mul_assoc normal.y j m).symm
  rw [push, if_pos movingA, pull, if_pos movingB, apart, apart]
  exact ⟨shares_cancel movingA movingB liveA liveB _ _ _, rfl⟩

theorem conserves_separate (s : Solver ℝ) (c : Contact ℝ) (m : ℝ) :
    Conserves a b (s.separate a b c m).1 (s.separate a b c m).2 := by
  unfold separate
  dsimp only
  rw [if_pos movingA, if_pos movingB]
  split
  · exact ⟨rfl, rfl⟩
  · exact ⟨rfl, shares_cancel movingA movingB liveA liveB _ _ _⟩

/-- **A contact of two moving bodies conserves.** -/
theorem conserves_resolve (s : Solver ℝ) (ra rb : ℝ) (c : Contact ℝ) :
    Conserves a b (s.resolve a b ra rb c).first (s.resolve a b ra rb c).second := by
  have first : a.isFixed = false := by
    rw [← Bool.not_eq_true', ← a.isMoving_eq_not_isFixed, movingA]
  rw [resolve, first, Bool.false_and, if_neg Bool.false_ne_true, settle]
  dsimp only
  split
  · exact ⟨rfl, rfl⟩
  · split
    · exact conserves_separate movingA movingB liveA liveB s c _
    · generalize impulse a b _ _ _ = j
      have pushed := nudged_push a c.normal j
      have pulled := nudged_pull b c.normal j
      exact (conserves_push_pull movingA movingB liveA liveB c.normal j).trans
        (conserves_separate (pushed.isMoving.trans movingA) (pulled.isMoving.trans movingB)
          (pushed.isLive.trans liveA) (pulled.isLive.trans liveB) s c _)

end Pair

end Solver

end PlanarDynamics
