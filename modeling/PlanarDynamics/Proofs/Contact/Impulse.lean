import Mathlib.Analysis.Real.Sqrt
import Mathlib.Tactic.LinearCombination
import PlanarDynamics.Proofs.Contact.Depth
import PlanarDynamics.Proofs.Contact.Exact

/-!
# The impulse of a contact

Two bodies approach along the normal of their contact or move apart. If they move apart, nothing is
done to their velocities. If they approach, the impulse turns the speed of approach into a speed of
separation, damped by the restitution of the pair, and leaves alone what the velocities have across
the normal (`Vector2.across`). The restitution lies between those of the two bodies, so it is at
most one, and two moving bodies lose kinetic energy or keep it (`Solver.impulse_law`).
-/

set_option autoImplicit false

namespace PlanarDynamics

namespace Vector2

variable {n : Vector2 ℝ}

/-- The part of a vector that is orthogonal to a unit vector. -/
noncomputable def across (v n : Vector2 ℝ) : Vector2 ℝ := v - n * v.dot n

theorem lengthSquared_of_unit (unit : n.length = 1) : n.dot n = 1 := by
  have square : n.length * n.length = n.lengthSquared := Real.mul_self_sqrt n.lengthSquared_nonneg
  rw [unit, one_mul] at square
  exact square.symm

theorem sub_dot (u v n : Vector2 ℝ) : (u - v).dot n = u.dot n - v.dot n := by
  simp only [dot, sub_x, sub_y]
  ring

theorem add_mul_dot (v n : Vector2 ℝ) (k : ℝ) (w : Vector2 ℝ) :
    (v + n * k).dot w = v.dot w + k * n.dot w := by
  simp only [dot, add_x, add_y, mul_x, mul_y]
  ring

theorem sub_mul_eq (v n : Vector2 ℝ) (k : ℝ) : v - n * k = v + n * -k := by
  apply Vector2.ext <;> simp <;> ring

/-- What is added along a unit vector does not change the part across it. -/
theorem across_add_mul (unit : n.length = 1) (v : Vector2 ℝ) (k : ℝ) :
    (v + n * k).across n = v.across n := by
  rw [across, across, add_mul_dot, lengthSquared_of_unit unit]
  apply Vector2.ext <;> simp <;> ring

theorem lengthSquared_add_mul (unit : n.length = 1) (v : Vector2 ℝ) (k : ℝ) :
    (v + n * k).lengthSquared = v.lengthSquared + 2 * k * v.dot n + k ^ 2 := by
  have square : n.x * n.x + n.y * n.y = 1 := lengthSquared_of_unit unit
  simp only [lengthSquared, dot, add_x, add_y, mul_x, mul_y]
  linear_combination k ^ 2 * square

end Vector2

/-! ## Restitution -/

/-- The restitution of two bodies with mass is a mean of theirs. -/
theorem pairRestitution_between {massA massB : ℝ} (heavyA : 0 < massA) (heavyB : 0 < massB)
    (ra rb : ℝ) :
    min ra rb ≤ pairRestitution massA ra massB rb ∧
      pairRestitution massA ra massB rb ≤ max ra rb := by
  have total : 0 < massA + massB := add_pos heavyA heavyB
  rw [pairRestitution, if_neg total.not_ge, le_div_iff₀ total, div_le_iff₀ total, mul_add, mul_add]
  constructor
  · exact add_le_add (mul_le_mul_of_nonneg_right (min_le_left _ _) heavyA.le)
      (mul_le_mul_of_nonneg_right (min_le_right _ _) heavyB.le)
  · exact add_le_add (mul_le_mul_of_nonneg_right (le_max_left _ _) heavyA.le)
      (mul_le_mul_of_nonneg_right (le_max_right _ _) heavyB.le)

/-! ## Energy -/

/-- The energy of a body in motion. -/
noncomputable def Body.kineticEnergy (b : Body ℝ) : ℝ := b.mass * b.velocity.lengthSquared / 2

/-- A moving body that is pushed along a unit vector gains energy in proportion to its speed along
it, and to the square of the push. -/
theorem Body.kineticEnergy_pushed {b b' : Body ℝ} (moving : b.isMoving = true) (heavy : 0 < b.mass)
    {n : Vector2 ℝ} (unit : n.length = 1) {j : ℝ} (mass : b'.mass = b.mass)
    (velocity : b'.velocity = b.velocity + n * (j * b.inverseMass)) :
    b'.kineticEnergy =
      b.kineticEnergy + j * b.velocity.dot n + j ^ 2 * b.inverseMass / 2 := by
  rw [kineticEnergy, kineticEnergy, mass, velocity, Vector2.lengthSquared_add_mul unit,
    inverseMass_of_moving moving heavy]
  field_simp

/-! ## The law -/

namespace Solver

/-- The work that an impulse does which turns a speed round and damps it. -/
theorem work_of_turning {m : ℝ} (positive : 0 < m) (e speed : ℝ) :
    (1 + e) * -speed / m * speed + ((1 + e) * -speed / m) ^ 2 * m / 2 =
      -((1 - e ^ 2) * speed ^ 2 / (2 * m)) := by
  field_simp
  ring

variable {s : Solver ℝ} {a b : Body ℝ} {ra rb : ℝ} {c : Contact ℝ} {r : Resolution ℝ}

namespace Shared

variable (shared : s.Shared a b ra rb c r)

include shared

theorem velocity_first :
    r.first.velocity = a.velocity + c.normal * (r.impulse * a.inverseMass) :=
  congrArg Body.velocity shared.first

/-- The second body is pushed by the negative impulse. -/
theorem velocity_second :
    r.second.velocity = b.velocity + c.normal * (-r.impulse * b.inverseMass) := by
  rw [neg_mul, ← Vector2.sub_mul_eq]
  exact congrArg Body.velocity shared.second

theorem impulse_of_parting (parting : 0 < (a.velocity - b.velocity).dot c.normal) :
    r.impulse = 0 :=
  shared.impulse.trans (if_pos parting)

theorem velocities_of_parting (parting : 0 < (a.velocity - b.velocity).dot c.normal) :
    r.first.velocity = a.velocity ∧ r.second.velocity = b.velocity := by
  rw [shared.velocity_first, shared.velocity_second, shared.impulse_of_parting parting, neg_zero,
    zero_mul, zero_mul, Vector2.add_mul_zero, Vector2.add_mul_zero]
  exact ⟨rfl, rfl⟩

theorem impulse_of_approaching (approaching : (a.velocity - b.velocity).dot c.normal ≤ 0) :
    r.impulse = (1 + pairRestitution a.mass ra b.mass rb) *
      -(a.velocity - b.velocity).dot c.normal / (a.inverseMass + b.inverseMass) := by
  rw [shared.impulse, exchanged, if_neg approaching.not_gt, Solver.impulse, neg_mul, mul_neg]

section Unit

variable (unit : c.normal.length = 1)

include unit

theorem across_first : r.first.velocity.across c.normal = a.velocity.across c.normal := by
  rw [shared.velocity_first, Vector2.across_add_mul unit]

theorem across_second : r.second.velocity.across c.normal = b.velocity.across c.normal := by
  rw [shared.velocity_second, Vector2.across_add_mul unit]

/-- The approach is turned into a separation. -/
theorem turned_of_approaching (movable : 0 < a.inverseMass + b.inverseMass)
    (approaching : (a.velocity - b.velocity).dot c.normal ≤ 0) :
    (r.first.velocity - r.second.velocity).dot c.normal =
      -pairRestitution a.mass ra b.mass rb * (a.velocity - b.velocity).dot c.normal := by
  have speed : (r.first.velocity - r.second.velocity).dot c.normal =
      (a.velocity - b.velocity).dot c.normal + r.impulse * (a.inverseMass + b.inverseMass) := by
    rw [shared.velocity_first, shared.velocity_second, Vector2.sub_dot, Vector2.sub_dot,
      Vector2.add_mul_dot, Vector2.add_mul_dot, Vector2.lengthSquared_of_unit unit]
    ring
  rw [speed, shared.impulse_of_approaching approaching, div_mul_cancel₀ _ movable.ne']
  ring

section Moving

variable (heavyA : 0 < a.mass) (heavyB : 0 < b.mass) (movingA : a.isMoving = true)
  (movingB : b.isMoving = true)

include heavyA heavyB movingA movingB

theorem kineticEnergy :
    r.first.kineticEnergy + r.second.kineticEnergy =
      a.kineticEnergy + b.kineticEnergy + r.impulse * (a.velocity - b.velocity).dot c.normal +
        r.impulse ^ 2 * (a.inverseMass + b.inverseMass) / 2 := by
  have massA : r.first.mass = a.mass := by rw [shared.first]
  have massB : r.second.mass = b.mass := by rw [shared.second]
  rw [Body.kineticEnergy_pushed movingA heavyA unit massA shared.velocity_first,
    Body.kineticEnergy_pushed movingB heavyB unit massB shared.velocity_second, Vector2.sub_dot]
  ring

theorem energy_of_parting (parting : 0 < (a.velocity - b.velocity).dot c.normal) :
    r.first.kineticEnergy + r.second.kineticEnergy = a.kineticEnergy + b.kineticEnergy := by
  rw [shared.kineticEnergy unit heavyA heavyB movingA movingB, shared.impulse_of_parting parting]
  ring

/-- What two moving bodies that approach lose of their energy. -/
theorem energy_lost (approaching : (a.velocity - b.velocity).dot c.normal ≤ 0) :
    a.kineticEnergy + b.kineticEnergy - (r.first.kineticEnergy + r.second.kineticEnergy) =
      (1 - pairRestitution a.mass ra b.mass rb ^ 2) * (a.velocity - b.velocity).dot c.normal ^ 2 /
        (2 * (a.inverseMass + b.inverseMass)) := by
  have work := work_of_turning (Body.add_inverseMass_pos heavyA heavyB (Or.inl movingA))
    (pairRestitution a.mass ra b.mass rb) ((a.velocity - b.velocity).dot c.normal)
  rw [← shared.impulse_of_approaching approaching] at work
  rw [shared.kineticEnergy unit heavyA heavyB movingA movingB]
  linarith

end Moving

end Unit

end Shared

/-- **The impulse law.** For bodies with mass of which one can move, restitutions between zero and
one, and a contact with a unit normal. -/
theorem impulse_law (s : Solver ℝ) (heavyA : 0 < a.mass) (heavyB : 0 < b.mass)
    (movable : a.isMoving = true ∨ b.isMoving = true) (boundA : ra ∈ Set.Icc 0 1)
    (boundB : rb ∈ Set.Icc 0 1) (unit : c.normal.length = 1) :
    let r := s.resolve a b ra rb c
    let e := pairRestitution a.mass ra b.mass rb
    let speed := (a.velocity - b.velocity).dot c.normal
    let m := a.inverseMass + b.inverseMass
    (min ra rb ≤ e ∧ e ≤ max ra rb) ∧
      (0 < speed → r.first.velocity = a.velocity ∧ r.second.velocity = b.velocity ∧
        r.impulse = 0) ∧
      (speed ≤ 0 →
        (r.first.velocity - r.second.velocity).dot c.normal = -e * speed ∧ 0 ≤ -e * speed ∧
          r.first.velocity.across c.normal = a.velocity.across c.normal ∧
          r.second.velocity.across c.normal = b.velocity.across c.normal ∧
          r.impulse = (1 + e) * -speed / m ∧ 0 ≤ r.impulse) ∧
      (a.isMoving = true → b.isMoving = true →
        r.first.kineticEnergy + r.second.kineticEnergy ≤ a.kineticEnergy + b.kineticEnergy ∧
          (speed ≤ 0 →
            a.kineticEnergy + b.kineticEnergy - (r.first.kineticEnergy + r.second.kineticEnergy) =
              (1 - e ^ 2) * speed ^ 2 / (2 * m))) := by
  intro r e speed m
  have positive : 0 < m := Body.add_inverseMass_pos heavyA heavyB movable
  have shared : s.Shared a b ra rb c r := s.shared_resolve ra rb c positive
  have mean := pairRestitution_between heavyA heavyB ra rb
  have e_nonneg : 0 ≤ e := (le_min boundA.1 boundB.1).trans mean.1
  have e_le_one : e ≤ 1 := mean.2.trans (max_le boundA.2 boundB.2)
  refine ⟨mean, fun parting => ?_, fun approaching => ?_, fun movingA movingB => ?_⟩
  · obtain ⟨first, second⟩ := shared.velocities_of_parting parting
    exact ⟨first, second, shared.impulse_of_parting parting⟩
  · have given : r.impulse = (1 + e) * -speed / m := shared.impulse_of_approaching approaching
    refine ⟨shared.turned_of_approaching unit positive approaching, ?_, shared.across_first unit,
      shared.across_second unit, given, ?_⟩
    · exact mul_nonneg_of_nonpos_of_nonpos (neg_nonpos.mpr e_nonneg) approaching
    · rw [given]
      exact div_nonneg (mul_nonneg (by linarith) (neg_nonneg.mpr approaching)) positive.le
  · have lost := shared.energy_lost unit heavyA heavyB movingA movingB
    refine ⟨?_, lost⟩
    rcases lt_or_ge 0 speed with parting | approaching
    · exact (shared.energy_of_parting unit heavyA heavyB movingA movingB parting).le
    · rw [← sub_nonneg, lost approaching]
      exact div_nonneg
        (mul_nonneg (sub_nonneg.mpr (pow_le_one₀ e_nonneg e_le_one)) (sq_nonneg speed))
        (by linarith)

/-- A body of mass one and a body of mass three meet head on. A quarter of the approach comes back
as separation. -/
theorem impulse_law_meeting :
    let a : Body ℝ := { Body.standard with velocity := ⟨-1, 0⟩ }
    let b : Body ℝ := { Body.standard with velocity := ⟨1, 0⟩, mass := 3 }
    let c : Contact ℝ := ⟨⟨1, 0⟩, 0, 1⟩
    let r := standard.resolve a b 1 0 c
    0 < a.mass ∧ 0 < b.mass ∧ a.isMoving = true ∧ b.isMoving = true ∧ c.normal.length = 1 ∧
      (r.first.velocity - r.second.velocity).dot c.normal = 1 / 2 ∧
      a.kineticEnergy + b.kineticEnergy - (r.first.kineticEnergy + r.second.kineticEnergy) =
        45 / 32 := by
  intro a b c r
  have heavyA : 0 < a.mass := one_pos
  have heavyB : 0 < b.mass := by norm_num [b]
  have unit : c.normal.length = 1 :=
    Vector2.length_eq_one (by simp [c, Vector2.lengthSquared, Vector2.dot])
  have restitution : pairRestitution a.mass 1 b.mass 0 = 1 / 4 := by
    norm_num [pairRestitution, a, b, Body.standard]
  have speed : (a.velocity - b.velocity).dot c.normal = -2 := by
    norm_num [a, b, c, Vector2.dot]
  have m : a.inverseMass + b.inverseMass = 4 / 3 := by
    norm_num [a, b, Body.inverseMass, Body.isMoving, Body.standard]
  have elastic : (1 : ℝ) ∈ Set.Icc 0 1 := by norm_num
  have inelastic : (0 : ℝ) ∈ Set.Icc 0 1 := by norm_num
  obtain ⟨-, -, approaching, energy⟩ :=
    impulse_law standard heavyA heavyB (Or.inl rfl) elastic inelastic unit
  have slow : (a.velocity - b.velocity).dot c.normal ≤ 0 := by
    rw [speed]
    norm_num
  refine ⟨heavyA, heavyB, rfl, rfl, unit, (approaching slow).1.trans ?_,
    ((energy rfl rfl).2 slow).trans ?_⟩
  · rw [restitution, speed]
    norm_num
  · rw [restitution, speed, m]
    norm_num

end Solver

end PlanarDynamics
