import Mathlib.Analysis.Real.Sqrt
import PlanarDynamics.Proofs.Contact.Exact
import PlanarDynamics.Proofs.Contact.Geometry

/-!
# How far a contact parts two shapes

The depth of a contact is what is missing to a distance. For two circles it is missing to the sum of
the radii, for a circle and a rectangle to the radius, and for two rectangles to an edge of the
overlap (`Meeting.DeepBy`). With exact arithmetic, moving the shapes apart along the normal takes
exactly that much off the depth (`Shape.deepBy_of_moved`): the centres of two circles move along
their own line, the nearest point of a rectangle stays the nearest when a circle moves straight away
from it, and the axis of the lesser overlap stays the one of the lesser overlap.

A solver moves the two bodies by the share of the depth that it is to remove, so this share is gone
afterwards (`Solver.depth_after_resolve`).
-/

set_option autoImplicit false

namespace PlanarDynamics

/-! ## Depth as a distance -/

/-- Two shapes are in each other by a depth. They are apart when it is not positive, and in a
contact of this depth when it is. -/
structure Meeting.DeepBy (m : Meeting ℝ) (d : ℝ) : Prop where
  apart : d ≤ 0 → m = .apart
  contact : 0 < d → ∃ k, m = .contact k ∧ k.depth = d

theorem Meeting.DeepBy.flip {m : Meeting ℝ} {d : ℝ} (deep : m.DeepBy d) : m.flip.DeepBy d := by
  constructor
  · intro none
    rw [deep.apart none]
    rfl
  · intro some
    obtain ⟨k, rfl, same⟩ := deep.contact some
    exact ⟨k.flip, rfl, same⟩

theorem Meeting.DeepBy.depth_eq {m : Meeting ℝ} {d : ℝ} (deep : m.DeepBy d) {k : Contact ℝ}
    (met : m = .contact k) : 0 < d ∧ k.depth = d := by
  rcases le_or_gt d 0 with none | some
  · rw [deep.apart none] at met
    cases met
  · obtain ⟨k', met', same⟩ := deep.contact some
    rw [met'] at met
    cases met
    exact ⟨some, same⟩

theorem Circle.deepBy_meet {a b : Circle ℝ} (reachA : 0 ≤ a.radius) (reachB : 0 ≤ b.radius) :
    (a.meet b).DeepBy (a.radius + b.radius - a.center.distance b.center) := by
  constructor
  · intro far
    refine if_pos (not_lt.mp fun near => far.not_gt ?_)
    exact sub_pos.mpr ((Vector2.lengthSquared_lt_iff (add_nonneg reachA reachB)).mp near)
  · intro near
    obtain ⟨k, met⟩ := (Circle.exists_contact_iff reachA reachB).mpr (sub_pos.mp near)
    obtain ⟨-, same⟩ := Circle.meet_eq_contact_iff.mp met
    exact ⟨k, met, congrArg Contact.depth same⟩

theorem Circle.deepBy_meetRectangle {c : Circle ℝ} {r : Rectangle ℝ} (reach : 0 ≤ c.radius)
    (outside : negligibleLength < c.center.distance (r.nearest c.center)) :
    (c.meetRectangle r).DeepBy (c.radius - c.center.distance (r.nearest c.center)) := by
  constructor
  · intro far
    refine if_pos (not_lt.mp fun near => far.not_gt ?_)
    exact sub_pos.mpr ((Vector2.lengthSquared_lt_iff reach).mp near)
  · intro near
    obtain ⟨k, met⟩ := (Circle.exists_contact_rectangle_iff reach).mpr (sub_pos.mp near)
    obtain ⟨-, same⟩ := Circle.meetRectangle_eq_contact_iff.mp met
    rw [if_pos outside] at same
    exact ⟨k, met, congrArg Contact.depth same⟩

theorem Rectangle.deepBy_meet (a b : Rectangle ℝ) :
    (a.meet b).DeepBy (a.lesserOverlap b) := by
  constructor
  · intro gap
    exact if_pos (min_le_iff.mp gap)
  · intro overlap
    obtain ⟨first, second⟩ := lt_min_iff.mp overlap
    have meets : a.bounds.overlaps b.bounds = true := by
      rw [overlaps_iff]
      rintro (_ | _)
      exacts [first, second]
    obtain ⟨k, met⟩ := exists_contact_iff.mpr meets
    exact ⟨k, met, depth_of_meet met⟩

/-! ## Moving straight away -/

namespace Vector2

/-- A vector that is made longer in its own direction. -/
theorem length_add_direction {v : Vector2 ℝ} (long : 0 < v.length) {t : ℝ} (nonneg : 0 ≤ t) :
    (v + v / v.length * t).length = v.length + t := by
  have scaled : v + v / v.length * t = v * (1 + t / v.length) := by
    apply Vector2.ext
    · simp only [add_x, mul_x, div_x]
      ring
    · simp only [add_y, mul_y, div_y]
      ring
  rw [scaled, length_mul (by positivity)]
  field_simp

theorem eq_zero_of_length {v : Vector2 ℝ} (short : v.length = 0) : v = 0 := by
  have squares : v.x * v.x + v.y * v.y = 0 := (Real.sqrt_eq_zero v.lengthSquared_nonneg).mp short
  have parts := (add_eq_zero_iff_of_nonneg (mul_self_nonneg v.x) (mul_self_nonneg v.y)).mp squares
  exact Vector2.ext (mul_self_eq_zero.mp parts.1) (mul_self_eq_zero.mp parts.2)

theorem length_zero_add_up {t : ℝ} (nonneg : 0 ≤ t) :
    (0 + (up : Vector2 ℝ) * t : Vector2 ℝ).length = t := by
  have moved : (0 + (up : Vector2 ℝ) * t : Vector2 ℝ) = (up : Vector2 ℝ) * t := by
    apply Vector2.ext <;> simp
  rw [moved, length_mul nonneg, length_up, one_mul]

/-- Two points that are moved against each other. -/
theorem add_mul_sub_add_mul (u v n : Vector2 ℝ) (k l : ℝ) :
    u + n * k - (v + n * -l) = u - v + n * (k + l) := by
  apply Vector2.ext
  · simp only [sub_x, add_x, mul_x]
    ring
  · simp only [sub_y, add_y, mul_y]
    ring

end Vector2

namespace Rectangle

/-- A point that moves straight away from a rectangle keeps its nearest point. -/
theorem nearest_add_away (r : Rectangle ℝ) (p : Vector2 ℝ) {s : ℝ} (nonneg : 0 ≤ s) :
    r.nearest (p + (p - r.nearest p) * s) = r.nearest p := by
  have axis : ∀ c v e : ℝ, 0 ≤ e →
      Scalar.lower (Scalar.upper
        (v + (v - (c + Scalar.lower (Scalar.upper (v - c) (-e)) e)) * s - c) (-e)) e =
      Scalar.lower (Scalar.upper (v - c) (-e)) e := by
    intro c v e reach
    rcases le_total (v - c) (-e) with below | above
    · have moved : (v - (c + -e)) * s ≤ 0 :=
        mul_nonpos_of_nonpos_of_nonneg (by linarith) nonneg
      rw [Scalar.clamp_of_le reach below]
      exact Scalar.clamp_of_le reach (by linarith)
    rcases le_total (v - c) e with within | beyond
    · rw [Scalar.clamp_of_within above within, add_sub_cancel, sub_self, zero_mul, add_zero]
      exact Scalar.clamp_of_within above within
    · have moved : 0 ≤ (v - (c + e)) * s := mul_nonneg (by linarith) nonneg
      rw [Scalar.clamp_of_ge reach beyond]
      exact Scalar.clamp_of_ge reach (by linarith)
  refine Vector2.ext ?_ ?_
  · exact congrArg (r.center.x + ·) (axis r.center.x p.x _ (abs_nonneg _))
  · exact congrArg (r.center.y + ·) (axis r.center.y p.y _ (abs_nonneg _))

/-- The nearest point moves with the rectangle. -/
theorem nearest_translate (r : Rectangle ℝ) (p u : Vector2 ℝ) :
    (r.translate u).nearest (p + u) = r.nearest p + u := by
  have same : p + u - (r.center + u) = p - r.center := by
    apply Vector2.ext <;> simp
  rw [nearest, nearest, translate, same]
  apply Vector2.ext
  · simp only [Vector2.add_x]
    exact add_right_comm _ _ _
  · simp only [Vector2.add_y]
    exact add_right_comm _ _ _

/-- Only how far two rectangles are moved against each other changes their overlap. -/
theorem overlapOn_translate_both (i : Axis) (a b : Rectangle ℝ) (n : Vector2 ℝ) (k l : ℝ) :
    (a.translate (n * k)).overlapOn i (b.translate (n * -l)) =
      (a.translate (n * (k + l))).overlapOn i b := by
  have moved : a.center.on i + n.on i * k - (b.center.on i + n.on i * -l) =
      a.center.on i + n.on i * (k + l) - b.center.on i := by
    ring
  simp only [overlapOn, translate, Vector2.on_add, Vector2.on_mul, moved]

end Rectangle

/-! ## Shapes moved along the normal of their contact -/

/-- The direction of a contact is that of its shapes: two centres are in one place or notably apart,
and the centre of a circle is notably outside a rectangle. -/
def Shape.Directed : Shape ℝ → Shape ℝ → Prop
  | .circle a, .circle b =>
      a.center.distance b.center = 0 ∨ negligibleLength < a.center.distance b.center
  | .circle c, .rectangle r => ∀ p ∈ r.region, negligibleLength < c.center.distance p
  | .rectangle r, .circle c => ∀ p ∈ r.region, negligibleLength < c.center.distance p
  | _, _ => True

/-- The radius of a circle is not negative. All other shapes are proper. -/
def Shape.Proper : Shape ℝ → Prop
  | .circle c => 0 ≤ c.radius
  | _ => True

section Moved

variable {k l : ℝ} (forth : 0 ≤ k) (back : 0 ≤ l)

include forth back

theorem Circle.deepBy_of_moved {a b : Circle ℝ} (reachA : 0 ≤ a.radius) (reachB : 0 ≤ b.radius)
    {c : Contact ℝ} (met : a.meet b = .contact c)
    (directed : (Shape.circle a).Directed (.circle b)) :
    ((a.translate (c.normal * k)).meet (b.translate (c.normal * -l))).DeepBy
      (c.depth - (k + l)) := by
  have depth := ((deepBy_meet reachA reachB).depth_eq met).2
  obtain ⟨-, same⟩ := meet_eq_contact_iff.mp met
  have normal := congrArg Contact.normal same
  dsimp only at normal
  have further : (a.translate (c.normal * k)).center.distance (b.translate (c.normal * -l)).center =
      a.center.distance b.center + (k + l) := by
    rw [Vector2.distance, translate, translate, Vector2.add_mul_sub_add_mul, normal]
    rcases directed with together | notable
    · have still : ¬ a.center.distance b.center > negligibleLength := by
        rw [together]
        exact negligibleLength_pos.le.not_gt
      rw [if_neg still, together, Vector2.eq_zero_of_length together,
        Vector2.length_zero_add_up (add_nonneg forth back), zero_add]
    · rw [if_pos notable]
      exact Vector2.length_add_direction (negligibleLength_pos.trans notable)
        (add_nonneg forth back)
  have moved := deepBy_meet (a := a.translate (c.normal * k)) (b := b.translate (c.normal * -l))
    reachA reachB
  rw [further, ← sub_sub] at moved
  rw [depth]
  exact moved

theorem Circle.deepBy_of_movedRectangle {a : Circle ℝ} {r : Rectangle ℝ} (reach : 0 ≤ a.radius)
    {c : Contact ℝ} (met : a.meetRectangle r = .contact c)
    (outside : negligibleLength < a.center.distance (r.nearest a.center)) :
    ((a.translate (c.normal * k)).meetRectangle (r.translate (c.normal * -l))).DeepBy
      (c.depth - (k + l)) := by
  have depth := ((deepBy_meetRectangle reach outside).depth_eq met).2
  obtain ⟨-, same⟩ := meetRectangle_eq_contact_iff.mp met
  rw [if_pos outside] at same
  have normal := congrArg Contact.normal same
  dsimp only at normal
  have long : 0 < a.center.distance (r.nearest a.center) := negligibleLength_pos.trans outside
  have sum : 0 ≤ k + l := add_nonneg forth back
  have nearest : (r.translate (c.normal * -l)).nearest (a.center + c.normal * k) =
      r.nearest a.center + c.normal * -l := by
    have away : a.center + c.normal * k = a.center +
        (a.center - r.nearest a.center) * ((k + l) / a.center.distance (r.nearest a.center)) +
          c.normal * -l := by
      rw [normal]
      apply Vector2.ext
      · simp only [Vector2.add_x, Vector2.mul_x, Vector2.div_x]
        ring
      · simp only [Vector2.add_y, Vector2.mul_y, Vector2.div_y]
        ring
    rw [away, Rectangle.nearest_translate, Rectangle.nearest_add_away _ _ (div_nonneg sum long.le)]
  have further : (a.center + c.normal * k).distance
      ((r.translate (c.normal * -l)).nearest (a.center + c.normal * k)) =
        a.center.distance (r.nearest a.center) + (k + l) := by
    rw [nearest, Vector2.distance, Vector2.add_mul_sub_add_mul, normal]
    exact Vector2.length_add_direction long sum
  have moved := deepBy_meetRectangle (c := a.translate (c.normal * k))
    (r := r.translate (c.normal * -l)) reach
    (outside.trans_le (further ▸ le_add_of_nonneg_right sum))
  rw [translate, further, ← sub_sub] at moved
  rw [depth]
  exact moved

/-- The axis of the lesser overlap stays the one of the lesser overlap. -/
theorem Rectangle.deepBy_of_moved {a b : Rectangle ℝ} {c : Contact ℝ}
    (met : a.meet b = .contact c) :
    ((a.translate (c.normal * k)).meet (b.translate (c.normal * -l))).DeepBy
      (c.depth - (k + l)) := by
  have sum : 0 ≤ k + l := add_nonneg forth back
  have moved := deepBy_meet (a.translate (c.normal * k)) (b.translate (c.normal * -l))
  rw [lesserOverlap, overlapOn_translate_both, overlapOn_translate_both] at moved
  obtain ⟨-, rfl⟩ := meet_eq_contact_iff.mp met
  split at moved
  case isTrue less =>
    rw [overlapOn_translate_away .first a b rfl sum, overlapOn_translate_across .second a b rfl,
      min_eq_left (by linarith)] at moved
    rwa [if_pos less]
  case isFalse greater =>
    rw [overlapOn_translate_away .second a b rfl sum, overlapOn_translate_across .first a b rfl,
      min_eq_right (by linarith [not_le.mp greater])] at moved
    rwa [if_neg greater]

/-- **Moving two shapes apart along the normal of their contact takes as much off the depth.** A
rectangle and a circle are seen from the circle, which moves by the second distance. -/
theorem Shape.deepBy_of_moved {p q : Shape ℝ} (properP : p.Proper) (properQ : q.Proper)
    {c : Contact ℝ} (met : p.meet q = .contact c) (directed : p.Directed q) :
    ((p.translate (c.normal * k)).meet (q.translate (c.normal * -l))).DeepBy
      (c.depth - (k + l)) := by
  cases solids_of_meet met with
  | circles test => exact Circle.deepBy_of_moved forth back properP properQ test directed
  | @circleRectangle a r _ test =>
      exact Circle.deepBy_of_movedRectangle forth back properP test
        (directed _ (r.nearestIn_nearest a.center).mem)
  | rectangles test => exact Rectangle.deepBy_of_moved forth back test
  | @rectangleCircle r a c test =>
      have moved := Circle.deepBy_of_movedRectangle back forth properQ test
        (directed _ (r.nearestIn_nearest a.center).mem)
      have forward : c.flip.normal * k = c.normal * -k := by
        apply Vector2.ext <;> simp [Contact.flip]
      have backward : c.flip.normal * -l = c.normal * l := by
        apply Vector2.ext <;> simp [Contact.flip]
      rw [forward, backward, add_comm k]
      exact moved.flip

end Moved

/-- Proper shapes in contact are in each other by a positive depth. -/
theorem Shape.depth_pos_of_meet {p q : Shape ℝ} (properP : p.Proper) (properQ : q.Proper)
    {c : Contact ℝ} (met : p.meet q = .contact c) : 0 < c.depth := by
  refine (sound_of_meet met).depth_pos_iff.mpr ?_
  cases solids_of_meet met with
  | circles test =>
      exact (Vector2.length_nonneg _).trans_lt
        ((Circle.exists_contact_iff properP properQ).mp ⟨_, test⟩)
  | circleRectangle test =>
      exact (Vector2.length_nonneg _).trans_lt
        ((Circle.exists_contact_rectangle_iff properP).mp ⟨_, test⟩)
  | rectangleCircle test =>
      exact (Vector2.length_nonneg _).trans_lt
        ((Circle.exists_contact_rectangle_iff properQ).mp ⟨_, test⟩)
  | rectangles => trivial

theorem Shape.Proper.translate {p : Shape ℝ} (proper : p.Proper) (v : Vector2 ℝ) :
    (p.translate v).Proper := by
  cases p <;> exact proper

theorem Shape.translate_add (p : Shape ℝ) (u v : Vector2 ℝ) :
    p.translate (u + v) = (p.translate u).translate v := by
  have moved : ∀ w : Vector2 ℝ, w + (u + v) = w + u + v := by
    intro w
    apply Vector2.ext <;> simp [add_assoc]
  cases p with
  | empty => rfl
  | circle c => exact congrArg circle (Circle.ext (moved c.center) rfl)
  | rectangle r => exact congrArg rectangle (Rectangle.ext (moved r.center) rfl)
  | polygon p => simp [translate, Polygon.translate, moved]

/-! ## After a resolution -/

namespace Solver

section Shares

variable {s : Solver ℝ} {a b : Body ℝ} {ra rb : ℝ} {c : Contact ℝ} {r : Resolution ℝ}

/-- How far a body is moved along the normal, in proportion to its inverse mass. -/
noncomputable def shareOf (s : Solver ℝ) (a b e : Body ℝ) (c : Contact ℝ) : ℝ :=
  s.excess c / (a.inverseMass + b.inverseMass) * s.percent * e.inverseMass

theorem Shared.position_first (shared : s.Shared a b ra rb c r) :
    r.first.position = a.position + c.normal * s.shareOf a b a c := by
  rw [shared.first]
  apply Vector2.ext <;> simp [correction, shareOf, mul_assoc]

theorem Shared.position_second (shared : s.Shared a b ra rb c r) :
    r.second.position = b.position + c.normal * -s.shareOf a b b c := by
  rw [shared.second]
  apply Vector2.ext <;> simp [correction, shareOf, mul_assoc, sub_eq_add_neg]

theorem shareOf_nonneg (percent : 0 ≤ s.percent) (movable : 0 < a.inverseMass + b.inverseMass)
    (e : Body ℝ) (c : Contact ℝ) : 0 ≤ s.shareOf a b e c := by
  have excess : 0 ≤ s.excess c := s.excess_eq_max c ▸ le_max_right _ _
  exact mul_nonneg (mul_nonneg (div_nonneg excess movable.le) percent) e.inverseMass_nonneg

/-- The two bodies move apart by the share of the depth that is to be removed. -/
theorem add_shareOf (movable : 0 < a.inverseMass + b.inverseMass) (c : Contact ℝ) :
    s.shareOf a b a c + s.shareOf a b b c = s.percent * max (c.depth - s.slop) 0 := by
  rw [shareOf, shareOf, ← mul_add, ← s.excess_eq_max]
  field_simp

end Shares

/-- **Resolving a contact leaves of its depth what the solver does not remove.** For bodies with
mass of which one can move, proper shapes placed at them, and a contact with a direction. -/
theorem depth_after_resolve (s : Solver ℝ) (slop : 0 ≤ s.slop) (percent : s.percent ∈ Set.Icc 0 1)
    {a b : Body ℝ} (heavyA : 0 < a.mass) (heavyB : 0 < b.mass)
    (movable : a.isMoving = true ∨ b.isMoving = true) {p q : Shape ℝ} (properP : p.Proper)
    (properQ : q.Proper) {c : Contact ℝ}
    (met : (p.translate a.position).meet (q.translate b.position) = .contact c)
    (directed : (p.translate a.position).Directed (q.translate b.position)) (ra rb : ℝ) :
    let r := s.resolve a b ra rb c
    let after := (p.translate r.first.position).meet (q.translate r.second.position)
    let rest := c.depth - s.percent * max (c.depth - s.slop) 0
    (rest = 0 → after = .apart) ∧ (rest ≠ 0 → ∃ k, after = .contact k ∧ k.depth = rest) ∧
      (s.percent = 1 → s.slop = 0 → after = .apart) := by
  intro r after rest
  have deep : 0 < c.depth :=
    Shape.depth_pos_of_meet (properP.translate _) (properQ.translate _) met
  have positive := Body.add_inverseMass_pos heavyA heavyB movable
  have shared : s.Shared a b ra rb c r := s.shared_resolve ra rb c positive
  have left : after.DeepBy rest := by
    have moved := Shape.deepBy_of_moved (shareOf_nonneg percent.1 positive a c)
      (shareOf_nonneg percent.1 positive b c) (properP.translate _) (properQ.translate _) met
      directed
    rwa [← Shape.translate_add, ← Shape.translate_add, ← shared.position_first,
      ← shared.position_second, add_shareOf positive] at moved
  have within : max (c.depth - s.slop) 0 ≤ c.depth := max_le (by linarith) deep.le
  have nonneg : 0 ≤ rest :=
    sub_nonneg.mpr ((mul_le_of_le_one_left (le_max_right _ _) percent.2).trans within)
  refine ⟨fun none => left.apart none.le, fun some => left.contact (nonneg.lt_of_ne' some), ?_⟩
  intro whole strict
  refine left.apart (le_of_eq ?_)
  show c.depth - s.percent * max (c.depth - s.slop) 0 = 0
  rw [whole, strict, sub_zero, max_eq_left deep.le, one_mul, sub_self]

/-- A circle that is carried above its body has sunk by one into the fixed ground, given first. A
solver that removes half of what exceeds one half leaves three quarters. -/
theorem depth_after_resolve_sunk :
    let s : Solver ℝ := ⟨1 / 2, 1 / 2⟩
    let a : Body ℝ := { Body.standard with kind := .fixed }
    let b : Body ℝ := { Body.standard with position := ⟨0, 2⟩ }
    let p : Shape ℝ := .rectangle ⟨0, ⟨1, 1⟩⟩
    let q : Shape ℝ := .circle ⟨⟨0, 1⟩, 3⟩
    let c : Contact ℝ := ⟨⟨0, -1⟩, ⟨0, 1⟩, 1⟩
    let r := s.resolve a b 0 0 c
    0 ≤ s.slop ∧ s.percent ∈ Set.Icc 0 1 ∧ 0 < a.mass ∧ 0 < b.mass ∧ b.isMoving = true ∧
      p.Proper ∧ q.Proper ∧ (p.translate a.position).meet (q.translate b.position) = .contact c ∧
      (p.translate a.position).Directed (q.translate b.position) ∧
      ∃ k, (p.translate r.first.position).meet (q.translate r.second.position) = .contact k ∧
        k.depth = 3 / 4 := by
  intro s a b p q c r
  have slop : 0 ≤ s.slop := by norm_num [s]
  have percent : s.percent ∈ Set.Icc 0 1 := by norm_num [s]
  have proper : q.Proper := by
    show (0 : ℝ) ≤ 3
    norm_num
  let ground : Rectangle ℝ := ⟨0 + 0, ⟨1, 1⟩⟩
  let ball : Circle ℝ := ⟨⟨0, 1⟩ + ⟨0, 2⟩, 3⟩
  have nearest : ground.nearest ball.center = ⟨0, 1⟩ := by
    apply Vector2.ext <;>
      norm_num [ground, ball, Rectangle.nearest, Vector2.clamp, Vector2.lower, Vector2.upper,
        Rectangle.extents, Vector2.abs, Scalar.abs_real, Scalar.lower_eq_min, Scalar.upper_eq_max]
  have away : ball.center - ⟨0, 1⟩ = (⟨0, 2⟩ : Vector2 ℝ) := by
    apply Vector2.ext <;> norm_num [ball]
  have distance : ball.center.distance (ground.nearest ball.center) = 2 := by
    rw [nearest, Vector2.distance, away]
    norm_num [Vector2.length, Vector2.lengthSquared, Vector2.dot, Scalar.sqrt]
  have outside : negligibleLength < ball.center.distance (ground.nearest ball.center) := by
    rw [distance]
    norm_num [negligibleLength]
  have met : (p.translate a.position).meet (q.translate b.position) = .contact c := by
    have test : ball.meetRectangle ground = .contact c.flip := by
      refine Circle.meetRectangle_eq_contact_iff.mpr ⟨?_, ?_⟩
      · rw [nearest, away]
        norm_num [Vector2.lengthSquared, Vector2.dot, ball]
      · rw [if_pos outside, distance, nearest, away]
        refine Contact.ext ?_ rfl ?_
        · apply Vector2.ext <;> norm_num [c, Contact.flip]
        · norm_num [c, Contact.flip, ball]
    exact (congrArg Meeting.flip test).trans (congrArg Meeting.contact c.flip_flip)
  have directed : (p.translate a.position).Directed (q.translate b.position) := fun point inside =>
    outside.trans_le ((ground.nearestIn_nearest ball.center).le point inside)
  obtain ⟨-, rest, -⟩ := s.depth_after_resolve slop percent (a := a) (b := b) one_pos one_pos
    (Or.inr rfl) (p := p) trivial proper met directed 0 0
  have left : c.depth - s.percent * max (c.depth - s.slop) 0 = 3 / 4 := by
    norm_num [s, c]
  obtain ⟨k, after, depth⟩ := rest (by rw [left]; norm_num)
  exact ⟨slop, percent, one_pos, one_pos, rfl, trivial, proper, met, directed, k, after,
    depth.trans left⟩

end Solver

end PlanarDynamics
