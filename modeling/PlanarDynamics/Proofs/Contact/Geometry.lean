import Mathlib.Analysis.Real.Sqrt
import Mathlib.Order.Bounds.Basic
import PlanarDynamics.Proofs.Contact.Bounds
import PlanarDynamics.Proofs.Contact.Depth

/-!
# Contacts and the regions of the plane

With exact arithmetic a contact says something about sets of points. A circle is the set of points
no further from its centre than the radius, a rectangle the set of points no further from its centre
than the half size on each axis, whatever the sign of the half size. Circles are in contact when
their centres are closer than the radii together, a circle and a rectangle when the point of the
rectangle nearest to the centre is closer than the radius, and rectangles when their boxes overlap.
The point of a contact belongs to both shapes, and the depth of two rectangles is the least distance
along an axis that parts them (`Shape.meet_agrees_with_geometry`).
-/

set_option autoImplicit false

namespace PlanarDynamics

/-! ## Distances -/

namespace Vector2

theorem lengthSquared_lt_iff {v : Vector2 ℝ} {r : ℝ} (nonneg : 0 ≤ r) :
    v.lengthSquared < r * r ↔ v.length < r := by
  have root : v.length < Real.sqrt (r * r) ↔ v.lengthSquared < r * r :=
    Real.sqrt_lt_sqrt_iff v.lengthSquared_nonneg
  rw [← root, Real.sqrt_mul_self nonneg]

theorem length_le_of_abs {u v : Vector2 ℝ} (x : |u.x| ≤ |v.x|) (y : |u.y| ≤ |v.y|) :
    u.length ≤ v.length :=
  Real.sqrt_le_sqrt (add_le_add (abs_le_iff_mul_self_le.mp x) (abs_le_iff_mul_self_le.mp y))

theorem length_mul {s : ℝ} (nonneg : 0 ≤ s) (v : Vector2 ℝ) : (v * s).length = v.length * s := by
  have squares : (v * s).lengthSquared = v.lengthSquared * (s * s) := by
    simp only [lengthSquared, dot, mul_x, mul_y]
    ring
  show Real.sqrt (v * s).lengthSquared = Real.sqrt v.lengthSquared * s
  rw [squares, Real.sqrt_mul v.lengthSquared_nonneg, Real.sqrt_mul_self nonneg]

theorem distance_comm (u v : Vector2 ℝ) : u.distance v = v.distance u := by
  have turned : v - u = -(u - v) := by
    apply Vector2.ext <;> simp
  rw [distance, distance, turned, length_neg]

end Vector2

/-! ## Axes -/

/-- One of the two axes of the plane. -/
inductive Axis
  | first
  | second

namespace Vector2

/-- The component of a vector on an axis. -/
def on (v : Vector2 ℝ) : Axis → ℝ
  | .first => v.x
  | .second => v.y

variable (i : Axis)

@[simp] theorem on_first (v : Vector2 ℝ) : v.on .first = v.x := rfl

@[simp] theorem on_second (v : Vector2 ℝ) : v.on .second = v.y := rfl

@[simp] theorem on_add (u v : Vector2 ℝ) : (u + v).on i = u.on i + v.on i := by cases i <;> rfl

@[simp] theorem on_mul (v : Vector2 ℝ) (s : ℝ) : (v * s).on i = v.on i * s := by cases i <;> rfl

end Vector2

/-! ## Regions -/

/-- The points of a circle, its boundary included. -/
def Circle.region (c : Circle ℝ) : Set (Vector2 ℝ) := {p | p.distance c.center ≤ c.radius}

theorem Circle.mem_region_iff {c : Circle ℝ} {p : Vector2 ℝ} :
    p ∈ c.region ↔ p.distance c.center ≤ c.radius :=
  Iff.rfl

namespace Rectangle

/-- The points of a rectangle, its boundary included. -/
def region (r : Rectangle ℝ) : Set (Vector2 ℝ) :=
  {p | |p.x - r.center.x| ≤ |r.halfSize.x| ∧ |p.y - r.center.y| ≤ |r.halfSize.y|}

/-- The points strictly inside a rectangle. -/
def interior (r : Rectangle ℝ) : Set (Vector2 ℝ) :=
  {p | |p.x - r.center.x| < |r.halfSize.x| ∧ |p.y - r.center.y| < |r.halfSize.y|}

end Rectangle

/-- A point of a region than which none is nearer to a given point. -/
structure NearestIn (region : Set (Vector2 ℝ)) (p q : Vector2 ℝ) : Prop where
  mem : q ∈ region
  le : ∀ q' ∈ region, p.distance q ≤ p.distance q'

/-! ## What a contact consists of -/

theorem Circle.meet_eq_contact_iff {a b : Circle ℝ} {k : Contact ℝ} :
    a.meet b = .contact k ↔
      (a.center - b.center).lengthSquared < (a.radius + b.radius) * (a.radius + b.radius) ∧
        k = {
          normal := if a.center.distance b.center > negligibleLength
            then (a.center - b.center) / a.center.distance b.center else .up
          point := b.center + (a.center - b.center) * (b.radius / (a.radius + b.radius))
          depth := a.radius + b.radius - a.center.distance b.center } := by
  unfold Circle.meet
  dsimp only
  split
  case isTrue far => exact iff_of_false nofun fun near => far.not_gt near.1
  case isFalse near =>
    refine ⟨fun met => ⟨not_le.mp near, (Meeting.contact.inj met).symm⟩, ?_⟩
    rintro ⟨-, rfl⟩
    rfl

theorem Circle.meetRectangle_eq_contact_iff {c : Circle ℝ} {r : Rectangle ℝ} {k : Contact ℝ} :
    c.meetRectangle r = .contact k ↔
      (c.center - r.nearest c.center).lengthSquared < c.radius * c.radius ∧
        k = if c.center.distance (r.nearest c.center) > negligibleLength then
            { normal := (c.center - r.nearest c.center) / c.center.distance (r.nearest c.center)
              point := r.nearest c.center
              depth := c.radius - c.center.distance (r.nearest c.center) }
          else ⟨.up, r.nearest c.center, c.radius⟩ := by
  unfold Circle.meetRectangle
  dsimp only
  split
  case isTrue far => exact iff_of_false nofun fun near => far.not_gt near.1
  case isFalse near =>
    rw [← apply_ite Meeting.contact]
    refine ⟨fun met => ⟨not_le.mp near, (Meeting.contact.inj met).symm⟩, ?_⟩
    rintro ⟨-, rfl⟩
    rfl

namespace Rectangle

/-- How far two rectangles overlap on an axis. It is negative when there is a gap. -/
noncomputable def overlapOn (i : Axis) (a b : Rectangle ℝ) : ℝ :=
  |a.halfSize.on i| + |b.halfSize.on i| - |a.center.on i - b.center.on i|

/-- The lesser overlap. -/
noncomputable def lesserOverlap (a b : Rectangle ℝ) : ℝ :=
  min (a.overlapOn .first b) (a.overlapOn .second b)

/-- The centre of the overlap of two rectangles. -/
noncomputable def middle (a b : Rectangle ℝ) : Vector2 ℝ :=
  (a.lo.upper b.lo + a.hi.lower b.hi) * (0.5 : ℝ)

theorem meet_eq_contact_iff {a b : Rectangle ℝ} {k : Contact ℝ} :
    a.meet b = .contact k ↔
      (∀ i, 0 < a.overlapOn i b) ∧
        k = if a.overlapOn .first b ≤ a.overlapOn .second b then
            ⟨⟨Scalar.sign (a.center.x - b.center.x), 0⟩, a.middle b, a.overlapOn .first b⟩
          else ⟨⟨0, Scalar.sign (a.center.y - b.center.y)⟩, a.middle b, a.overlapOn .second b⟩ := by
  have unfolded : a.meet b =
      if a.overlapOn .first b ≤ 0 ∨ a.overlapOn .second b ≤ 0 then .apart
      else if a.overlapOn .first b ≤ a.overlapOn .second b then
        .contact ⟨⟨Scalar.sign (a.center.x - b.center.x), 0⟩, a.middle b, a.overlapOn .first b⟩
      else .contact
        ⟨⟨0, Scalar.sign (a.center.y - b.center.y)⟩, a.middle b, a.overlapOn .second b⟩ := rfl
  rw [unfolded, ← apply_ite Meeting.contact]
  split
  case isTrue gap =>
    refine iff_of_false nofun fun overlap => ?_
    exact gap.elim (overlap.1 .first).not_ge (overlap.1 .second).not_ge
  case isFalse overlap =>
    rw [not_or, not_le, not_le] at overlap
    refine ⟨fun met => ⟨?_, (Meeting.contact.inj met).symm⟩, ?_⟩
    · rintro (_ | _)
      exacts [overlap.1, overlap.2]
    · rintro ⟨-, rfl⟩
      rfl

/-- The depth of a contact is the lesser overlap. -/
theorem depth_of_meet {a b : Rectangle ℝ} {k : Contact ℝ} (met : a.meet b = .contact k) :
    k.depth = a.lesserOverlap b := by
  obtain ⟨-, rfl⟩ := meet_eq_contact_iff.mp met
  split
  case isTrue less => exact (min_eq_left less).symm
  case isFalse greater => exact (min_eq_right (not_le.mp greater).le).symm

theorem point_of_meet {a b : Rectangle ℝ} {k : Contact ℝ} (met : a.meet b = .contact k) :
    k.point = a.middle b := by
  obtain ⟨-, rfl⟩ := meet_eq_contact_iff.mp met
  split <;> rfl

end Rectangle

/-! ## Circles -/

namespace Circle

variable {a b : Circle ℝ}

theorem exists_contact_iff (reachA : 0 ≤ a.radius) (reachB : 0 ≤ b.radius) :
    (∃ k, a.meet b = .contact k) ↔ a.center.distance b.center < a.radius + b.radius := by
  rw [Vector2.distance, ← Vector2.lengthSquared_lt_iff (add_nonneg reachA reachB)]
  simp only [meet_eq_contact_iff, exists_and_left, exists_eq, and_true]

/-- The point that divides the line of the centres in the ratio of the radii is in both circles. -/
theorem point_mem_of_meet (reachA : 0 ≤ a.radius) (reachB : 0 ≤ b.radius) {k : Contact ℝ}
    (met : a.meet b = .contact k) : k.point ∈ a.region ∧ k.point ∈ b.region := by
  have near := (exists_contact_iff reachA reachB).mp ⟨k, met⟩
  obtain ⟨-, rfl⟩ := meet_eq_contact_iff.mp met
  have reach : 0 < a.radius + b.radius := (Vector2.length_nonneg _).trans_lt near
  have share : ∀ {r : ℝ}, 0 ≤ r →
      a.center.distance b.center * (r / (a.radius + b.radius)) ≤ r := by
    intro r nonneg
    rw [mul_div_assoc', div_le_iff₀ reach, mul_comm]
    exact mul_le_mul_of_nonneg_left near.le nonneg
  constructor
  · have line : a.center - (b.center + (a.center - b.center) * (b.radius / (a.radius + b.radius))) =
        (a.center - b.center) * (a.radius / (a.radius + b.radius)) := by
      have whole : a.radius / (a.radius + b.radius) = 1 - b.radius / (a.radius + b.radius) := by
        field_simp
        ring
      rw [whole]
      apply Vector2.ext <;> simp <;> ring
    rw [mem_region_iff, Vector2.distance_comm, Vector2.distance, line,
      Vector2.length_mul (div_nonneg reachA reach.le)]
    exact share reachA
  · have line : b.center + (a.center - b.center) * (b.radius / (a.radius + b.radius)) - b.center =
        (a.center - b.center) * (b.radius / (a.radius + b.radius)) := by
      apply Vector2.ext <;> simp
    rw [mem_region_iff, Vector2.distance, line, Vector2.length_mul (div_nonneg reachB reach.le)]
    exact share reachB

end Circle

/-! ## A circle and a rectangle -/

namespace Scalar

variable {e v : ℝ}

theorem clamp_of_le (nonneg : 0 ≤ e) (below : v ≤ -e) : lower (upper v (-e)) e = -e := by
  rw [upper_eq_max, lower_eq_min, max_eq_right below, min_eq_left (by linarith)]

theorem clamp_of_ge (nonneg : 0 ≤ e) (beyond : e ≤ v) : lower (upper v (-e)) e = e := by
  rw [upper_eq_max, lower_eq_min, max_eq_left (by linarith), min_eq_right beyond]

theorem clamp_of_within (above : -e ≤ v) (within : v ≤ e) : lower (upper v (-e)) e = v := by
  rw [upper_eq_max, lower_eq_min, max_eq_left above, min_eq_left within]

end Scalar

namespace Rectangle

/-- The clamped point is the nearest one. -/
theorem nearestIn_nearest (r : Rectangle ℝ) (p : Vector2 ℝ) :
    NearestIn r.region p (r.nearest p) := by
  have axis : ∀ c e v w : ℝ, |w - c| ≤ e →
      |v - (c + Scalar.lower (Scalar.upper (v - c) (-e)) e)| ≤ |v - w| := by
    intro c e v w inside
    have nonneg : 0 ≤ e := (abs_nonneg _).trans inside
    obtain ⟨low, high⟩ := abs_le.mp inside
    rcases le_total (v - c) (-e) with below | above
    · rw [Scalar.clamp_of_le nonneg below, abs_of_nonpos (by linarith), abs_of_nonpos (by linarith)]
      linarith
    rcases le_total (v - c) e with within | beyond
    · rw [Scalar.clamp_of_within above within, add_sub_cancel, sub_self, abs_zero]
      exact abs_nonneg _
    · rw [Scalar.clamp_of_ge nonneg beyond, abs_of_nonneg (by linarith),
        abs_of_nonneg (by linarith)]
      linarith
  refine ⟨r.abs_nearest_sub_le p, fun q inside => Vector2.length_le_of_abs ?_ ?_⟩
  · exact axis _ _ _ _ inside.1
  · exact axis _ _ _ _ inside.2

end Rectangle

namespace Circle

variable {a : Circle ℝ} {r : Rectangle ℝ}

theorem exists_contact_rectangle_iff (reach : 0 ≤ a.radius) :
    (∃ k, a.meetRectangle r = .contact k) ↔
      a.center.distance (r.nearest a.center) < a.radius := by
  rw [Vector2.distance, ← Vector2.lengthSquared_lt_iff reach]
  simp only [meetRectangle_eq_contact_iff, exists_and_left, exists_eq, and_true]

theorem point_of_meetRectangle {k : Contact ℝ} (met : a.meetRectangle r = .contact k) :
    k.point = r.nearest a.center := by
  obtain ⟨-, rfl⟩ := meetRectangle_eq_contact_iff.mp met
  split <;> rfl

theorem point_mem_of_meetRectangle (reach : 0 ≤ a.radius) {k : Contact ℝ}
    (met : a.meetRectangle r = .contact k) : k.point ∈ a.region ∧ k.point ∈ r.region := by
  have near := (exists_contact_rectangle_iff reach).mp ⟨k, met⟩
  rw [point_of_meetRectangle met, mem_region_iff, Vector2.distance_comm]
  exact ⟨near.le, (r.nearestIn_nearest a.center).mem⟩

end Circle

/-! ## Rectangles -/

namespace Rectangle

variable {r t : Rectangle ℝ}

theorem overlaps_iff (r t : Rectangle ℝ) :
    r.bounds.overlaps t.bounds = true ↔ ∀ i, 0 < r.overlapOn i t := by
  rw [r.bounds_eq_centered, t.bounds_eq_centered, Box.overlaps_centered_iff]
  constructor
  · rintro near (_ | _)
    exacts [sub_pos.mpr near.1, sub_pos.mpr near.2]
  · exact fun overlap => ⟨sub_pos.mp (overlap .first), sub_pos.mp (overlap .second)⟩

theorem exists_contact_iff :
    (∃ k, r.meet t = .contact k) ↔ r.bounds.overlaps t.bounds = true := by
  simp only [meet_eq_contact_iff, overlaps_iff, exists_and_left, exists_eq, and_true]

/-- The half size of the rectangle is not zero on either axis. -/
structure Wide (r : Rectangle ℝ) : Prop where
  x : r.halfSize.x ≠ 0
  y : r.halfSize.y ≠ 0

/-- A part of a distance, in the ratio of two reaches. -/
theorem abs_mul_share_lt {d e f : ℝ} (positive : 0 < e) (positive' : 0 < f) (near : |d| < e + f) :
    |d * (e / (e + f))| < e := by
  have sum : 0 < e + f := add_pos positive positive'
  rw [abs_mul, abs_of_pos (div_pos positive sum), mul_div_assoc', div_lt_iff₀ sum, mul_comm]
  exact mul_lt_mul_of_pos_left near positive

/-- Two numbers are nearer than two reaches together exactly when one is within both reaches, such
as the one that divides the way in the ratio of the reaches. -/
theorem exists_within_iff {p q e f : ℝ} (positive : 0 < e) (positive' : 0 < f) :
    |p - q| < e + f ↔ ∃ z, |z - p| < e ∧ |z - q| < f := by
  constructor
  · intro near
    have sum : e + f ≠ 0 := (add_pos positive positive').ne'
    refine ⟨p + (q - p) * (e / (e + f)), ?_, ?_⟩
    · rw [add_sub_cancel_left]
      exact abs_mul_share_lt positive positive' (abs_sub_comm p q ▸ near)
    · have rest : p + (q - p) * (e / (e + f)) - q = (p - q) * (f / (f + e)) := by
        rw [add_comm f]
        field_simp
        ring
      rw [rest]
      exact abs_mul_share_lt positive' positive (add_comm e f ▸ near)
  · rintro ⟨z, first, second⟩
    rw [abs_sub_comm] at first
    exact (abs_sub_le p z q).trans_lt (add_lt_add first second)

/-- Rectangles of some width overlap exactly when they have an inner point in common. -/
theorem overlaps_iff_interior (wide : r.Wide) (wide' : t.Wide) :
    r.bounds.overlaps t.bounds = true ↔ (r.interior ∩ t.interior).Nonempty := by
  rw [r.bounds_eq_centered, t.bounds_eq_centered, Box.overlaps_centered_iff,
    exists_within_iff (abs_pos.mpr wide.x) (abs_pos.mpr wide'.x),
    exists_within_iff (abs_pos.mpr wide.y) (abs_pos.mpr wide'.y)]
  constructor
  · rintro ⟨⟨x, x_r, x_t⟩, ⟨y, y_r, y_t⟩⟩
    exact ⟨⟨x, y⟩, ⟨x_r, y_r⟩, ⟨x_t, y_t⟩⟩
  · rintro ⟨p, inner, inner'⟩
    exact ⟨⟨p.x, inner.1, inner'.1⟩, ⟨p.y, inner.2, inner'.2⟩⟩

/-- The centre of the overlap is in both rectangles, as the ends of the overlap are. -/
theorem middle_mem (overlap : ∀ i, 0 < r.overlapOn i t) :
    r.middle t ∈ r.region ∧ r.middle t ∈ t.region := by
  have axis : ∀ {p q e f : ℝ}, 0 ≤ e → 0 ≤ f → 0 < e + f - |p - q| →
      |(Scalar.upper (p - e) (q - f) + Scalar.lower (p + e) (q + f)) * (0.5 : ℝ) - p| ≤ e ∧
        |(Scalar.upper (p - e) (q - f) + Scalar.lower (p + e) (q + f)) * (0.5 : ℝ) - q| ≤ f := by
    intro p q e f he hf near
    obtain ⟨left, right⟩ := abs_lt.mp (sub_pos.mp near)
    have start : p - e ≤ max (p - e) (q - f) ∧ q - f ≤ max (p - e) (q - f) :=
      ⟨le_max_left _ _, le_max_right _ _⟩
    have start' : max (p - e) (q - f) ≤ p + e ∧ max (p - e) (q - f) ≤ q + f :=
      ⟨max_le (by linarith) (by linarith), max_le (by linarith) (by linarith)⟩
    have stop : min (p + e) (q + f) ≤ p + e ∧ min (p + e) (q + f) ≤ q + f :=
      ⟨min_le_left _ _, min_le_right _ _⟩
    have stop' : p - e ≤ min (p + e) (q + f) ∧ q - f ≤ min (p + e) (q + f) :=
      ⟨le_min (by linarith) (by linarith), le_min (by linarith) (by linarith)⟩
    rw [Scalar.upper_eq_max, Scalar.lower_eq_min, abs_le, abs_le]
    refine ⟨⟨?_, ?_⟩, ?_, ?_⟩ <;> linarith
  have x := axis (abs_nonneg _) (abs_nonneg _) (overlap .first)
  have y := axis (abs_nonneg _) (abs_nonneg _) (overlap .second)
  exact ⟨⟨x.1, y.1⟩, ⟨x.2, y.2⟩⟩

/-- The four directions along an axis. -/
def directions : List (Vector2 ℝ) := [⟨1, 0⟩, ⟨-1, 0⟩, ⟨0, 1⟩, ⟨0, -1⟩]

/-- Moving the first of two rectangles by a distance along an axis ends their overlap. -/
def ClearedBy (r t : Rectangle ℝ) (d : ℝ) : Prop :=
  0 ≤ d ∧ ∃ v ∈ directions, (r.translate (v * d)).bounds.overlaps t.bounds = false

theorem overlapOn_comm (i : Axis) (r t : Rectangle ℝ) : r.overlapOn i t = t.overlapOn i r := by
  rw [overlapOn, overlapOn, abs_sub_comm, add_comm]

theorem lesserOverlap_comm (r t : Rectangle ℝ) : r.lesserOverlap t = t.lesserOverlap r := by
  rw [lesserOverlap, lesserOverlap, overlapOn_comm, overlapOn_comm .second]

theorem overlapOn_translate (i : Axis) (r t : Rectangle ℝ) (v : Vector2 ℝ) :
    (r.translate v).overlapOn i t =
      |r.halfSize.on i| + |t.halfSize.on i| - |r.center.on i - t.center.on i + v.on i| := by
  have moved : r.center.on i + v.on i - t.center.on i = r.center.on i - t.center.on i + v.on i :=
    add_sub_right_comm _ _ _
  simp only [overlapOn, translate, Vector2.on_add, moved]

/-- A number that is moved away from zero grows by the distance. -/
theorem abs_add_sign_mul (x : ℝ) {d : ℝ} (nonneg : 0 ≤ d) :
    |x + Scalar.sign x * d| = |x| + d := by
  unfold Scalar.sign
  split
  case isTrue negative =>
    have below : x + -1 * d ≤ 0 := by linarith [negative.le]
    rw [abs_of_nonpos below, abs_of_neg negative]
    ring
  case isFalse positive =>
    have above : 0 ≤ x + 1 * d := by linarith [not_lt.mp positive]
    rw [abs_of_nonneg above, abs_of_nonneg (not_lt.mp positive), one_mul]

/-- Moving a rectangle away from another one takes the distance off their overlap. -/
theorem overlapOn_translate_away (i : Axis) (r t : Rectangle ℝ) {v : Vector2 ℝ}
    (away : v.on i = Scalar.sign (r.center.on i - t.center.on i)) {d : ℝ} (nonneg : 0 ≤ d) :
    (r.translate (v * d)).overlapOn i t = r.overlapOn i t - d := by
  rw [overlapOn_translate, Vector2.on_mul, away, abs_add_sign_mul _ nonneg, overlapOn, sub_sub]

/-- Moving a rectangle along the other axis does not change an overlap. -/
theorem overlapOn_translate_across (i : Axis) (r t : Rectangle ℝ) {v : Vector2 ℝ}
    (across : v.on i = 0) (d : ℝ) : (r.translate (v * d)).overlapOn i t = r.overlapOn i t := by
  rw [overlapOn_translate, Vector2.on_mul, across, zero_mul, add_zero, overlapOn]

/-- No move takes more off an overlap than its length. -/
theorem sub_le_overlapOn_translate (i : Axis) (r t : Rectangle ℝ) (v : Vector2 ℝ) :
    r.overlapOn i t - |v.on i| ≤ (r.translate v).overlapOn i t := by
  rw [overlapOn_translate, overlapOn, sub_sub]
  exact sub_le_sub_left (abs_add_le _ _) _

theorem sign_mem_directions (x : ℝ) :
    (⟨Scalar.sign x, 0⟩ : Vector2 ℝ) ∈ directions ∧
      (⟨0, Scalar.sign x⟩ : Vector2 ℝ) ∈ directions := by
  unfold Scalar.sign
  split <;> simp [directions]

theorem abs_on_le_one_of_mem_directions {v : Vector2 ℝ} (direction : v ∈ directions) (i : Axis) :
    |v.on i| ≤ 1 := by
  simp only [directions, List.mem_cons, List.not_mem_nil, or_false] at direction
  rcases direction with rfl | rfl | rfl | rfl <;> cases i <;> norm_num

/-- The lesser overlap is the least distance along an axis that parts two rectangles. -/
theorem isLeast_clearedBy (overlap : ∀ i, 0 < r.overlapOn i t) :
    IsLeast {d | r.ClearedBy t d} (r.lesserOverlap t) := by
  have nonneg : 0 ≤ r.lesserOverlap t := (lt_min (overlap .first) (overlap .second)).le
  constructor
  · have parted : ∀ i, ∀ v ∈ directions, v.on i = Scalar.sign (r.center.on i - t.center.on i) →
        r.overlapOn i t = r.lesserOverlap t → r.ClearedBy t (r.lesserOverlap t) := by
      intro i v direction away least
      refine ⟨nonneg, v, direction, ?_⟩
      rw [← Bool.not_eq_true, overlaps_iff]
      intro still
      have gone := overlapOn_translate_away i r t away nonneg
      rw [least, sub_self] at gone
      exact (still i).ne' gone
    rcases le_total (r.overlapOn .first t) (r.overlapOn .second t) with less | greater
    · exact parted .first _ (sign_mem_directions _).1 rfl (min_eq_left less).symm
    · exact parted .second _ (sign_mem_directions _).2 rfl (min_eq_right greater).symm
  · rintro d ⟨nonneg, v, direction, cleared⟩
    by_contra short
    obtain ⟨short_first, short_second⟩ := lt_min_iff.mp (not_le.mp short)
    have within : ∀ i, d < r.overlapOn i t → 0 < (r.translate (v * d)).overlapOn i t := by
      intro i less
      have moved : |(v * d).on i| ≤ d := by
        rw [Vector2.on_mul, abs_mul, abs_of_nonneg nonneg]
        exact mul_le_of_le_one_left nonneg (abs_on_le_one_of_mem_directions direction i)
      linarith [sub_le_overlapOn_translate i r t (v * d)]
    have still : (r.translate (v * d)).bounds.overlaps t.bounds = true := by
      rw [overlaps_iff]
      rintro (_ | _)
      exacts [within .first short_first, within .second short_second]
    rw [still] at cleared
    cases cleared

end Rectangle

/-! ## All pairs -/

theorem Meeting.exists_flip_eq_contact_iff {α : Type} [Scalar α] {m : Meeting α} :
    (∃ k, m.flip = .contact k) ↔ ∃ k, m = .contact k := by
  cases m <;> simp [flip]

namespace Shape

/-- Two shapes are in contact. -/
def InContact (a b : Shape ℝ) : Prop := ∃ k, a.meet b = .contact k

/-- **Contacts agree with the geometry of the shapes.** For two circles, for a circle and a
rectangle in either order, and for two rectangles. -/
theorem meet_agrees_with_geometry {a b : Circle ℝ} (reachA : 0 ≤ a.radius) (reachB : 0 ≤ b.radius)
    (r t : Rectangle ℝ) :
    ((InContact (circle a) (circle b) ↔ a.center.distance b.center < a.radius + b.radius) ∧
      ∀ k, meet (circle a) (circle b) = .contact k →
        k.point ∈ a.region ∧ k.point ∈ b.region) ∧
    (∃ q, NearestIn r.region a.center q ∧
      (InContact (circle a) (rectangle r) ↔ a.center.distance q < a.radius) ∧
      (InContact (rectangle r) (circle a) ↔ a.center.distance q < a.radius) ∧
      ∀ k, meet (circle a) (rectangle r) = .contact k ∨ meet (rectangle r) (circle a) = .contact k →
        k.point = q ∧ k.point ∈ a.region ∧ k.point ∈ r.region) ∧
    ((InContact (rectangle r) (rectangle t) ↔ r.bounds.overlaps t.bounds = true) ∧
      (r.Wide → t.Wide →
        (InContact (rectangle r) (rectangle t) ↔ (r.interior ∩ t.interior).Nonempty)) ∧
      ∀ k, meet (rectangle r) (rectangle t) = .contact k →
        IsLeast {d | r.ClearedBy t d} k.depth ∧ IsLeast {d | t.ClearedBy r d} k.depth ∧
          k.point ∈ r.region ∧ k.point ∈ t.region) := by
  refine ⟨⟨?_, ?_⟩, ⟨r.nearest a.center, r.nearestIn_nearest a.center, ?_, ?_, ?_⟩, ?_, ?_, ?_⟩
  · exact Circle.exists_contact_iff reachA reachB
  · exact fun k => Circle.point_mem_of_meet reachA reachB
  · exact Circle.exists_contact_rectangle_iff reachA
  · exact Meeting.exists_flip_eq_contact_iff.trans (Circle.exists_contact_rectangle_iff reachA)
  · intro k met
    have forward : ∃ k', a.meetRectangle r = .contact k' ∧ k'.point = k.point := by
      rcases met with met | met
      · exact ⟨k, met, rfl⟩
      · obtain ⟨k', met', rfl⟩ := Meeting.flip_eq_contact_iff.mp met
        exact ⟨k', met', rfl⟩
    obtain ⟨k', met', same⟩ := forward
    rw [← same]
    exact ⟨Circle.point_of_meetRectangle met', Circle.point_mem_of_meetRectangle reachA met'⟩
  · exact Rectangle.exists_contact_iff
  · exact fun wide wide' =>
      Rectangle.exists_contact_iff.trans (Rectangle.overlaps_iff_interior wide wide')
  · intro k met
    have overlap := (Rectangle.meet_eq_contact_iff.mp met).1
    rw [Rectangle.depth_of_meet met, Rectangle.point_of_meet met]
    refine ⟨Rectangle.isLeast_clearedBy overlap, ?_, Rectangle.middle_mem overlap⟩
    rw [r.lesserOverlap_comm t]
    exact Rectangle.isLeast_clearedBy fun i => t.overlapOn_comm i r ▸ overlap i

/-- A circle past the corner of a rectangle is apart from it, although their boxes overlap, while a
circle half way to the corner is in contact with the first one. -/
theorem meet_agrees_with_geometry_corner :
    let a : Circle ℝ := ⟨⟨1.4, 1.4⟩, 0.5⟩
    let b : Circle ℝ := ⟨⟨0.7, 0.7⟩, 0.5⟩
    let r : Rectangle ℝ := ⟨0, ⟨-1, 1⟩⟩
    0 ≤ a.radius ∧ 0 ≤ b.radius ∧ a.bounds.overlaps r.bounds = true ∧
      InContact (circle a) (circle b) ∧ ¬ InContact (circle a) (rectangle r) := by
  intro a b r
  have reach : (0 : ℝ) ≤ 0.5 := by norm_num
  obtain ⟨⟨circles, -⟩, ⟨q, nearest, corner, -, -⟩, -⟩ :=
    meet_agrees_with_geometry (a := a) (b := b) reach reach r r
  refine ⟨reach, reach, ?_, circles.mpr ?_, fun touching => ?_⟩
  · rw [a.bounds_eq_centered, r.bounds_eq_centered, Box.overlaps_centered_iff]
    norm_num [a, r, Vector2.splat, abs_lt]
  · show (a.center - b.center).length < 0.5 + 0.5
    rw [← Vector2.lengthSquared_lt_iff (by norm_num)]
    norm_num [a, b, Vector2.lengthSquared, Vector2.dot]
  · have near : (a.center - q).lengthSquared < 0.5 * 0.5 :=
      (Vector2.lengthSquared_lt_iff reach).mpr (corner.mp touching)
    have x : q.x ≤ 1 := by simpa [r] using (abs_le.mp nearest.mem.1).2
    have y : q.y ≤ 1 := by simpa [r] using (abs_le.mp nearest.mem.2).2
    have far : ∀ z : ℝ, z ≤ 1 → 0.4 * 0.4 ≤ (1.4 - z) * (1.4 - z) := fun z below =>
      mul_self_le_mul_self (by norm_num) (by linarith)
    have sum : 0.4 * 0.4 + 0.4 * 0.4 ≤ (a.center - q).lengthSquared :=
      add_le_add (far q.x x) (far q.y y)
    norm_num at near sum
    linarith

end Shape

end PlanarDynamics
