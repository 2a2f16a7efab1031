import PlanarDynamics.Contact.Narrow
import PlanarDynamics.Proofs.BroadPhase.Completeness
import PlanarDynamics.Proofs.Scalar.Exact

/-!
# Shapes that touch have boxes that overlap

The box around a circle or a rectangle is centred and reaches as far as the radius or the half size
without its sign, so two such boxes overlap exactly when their centres are nearer to each other on
both axes than the two together reach (`Box.overlaps_centered_iff`). With exact arithmetic, shapes
that touch have centres that near, whatever the signs of their fields
(`Shape.boundsOverlap_of_isTouching`).
-/

set_option autoImplicit false

namespace PlanarDynamics

theorem Shape.boundsOverlap_iff {α : Type} [Scalar α] {a b : Shape α} :
    a.boundsOverlap b = true ↔ ∃ boxA boxB, a.bounds? = some boxA ∧ b.bounds? = some boxB ∧
      boxA.overlaps boxB = true := by
  unfold boundsOverlap
  cases a.bounds? with
  | none => simp
  | some boxA => cases b.bounds? <;> simp

/-! ## Centred boxes -/

theorem Scalar.lower_sub_add (c h : ℝ) : Scalar.lower (c - h) (c + h) = c - |h| := by
  rw [Scalar.lower_eq_min]
  rcases le_total 0 h with positive | negative
  · rw [abs_of_nonneg positive, min_eq_left (by linarith)]
  · rw [abs_of_nonpos negative, min_eq_right (by linarith), sub_neg_eq_add]

theorem Scalar.upper_sub_add (c h : ℝ) : Scalar.upper (c - h) (c + h) = c + |h| := by
  rw [Scalar.upper_eq_max]
  rcases le_total 0 h with positive | negative
  · rw [abs_of_nonneg positive, max_eq_right (by linarith)]
  · rw [abs_of_nonpos negative, max_eq_left (by linarith), sub_eq_add_neg]

theorem Box.spanning_eq_centered (center half : Vector2 ℝ) :
    Box.spanning (center - half) (center + half) = Box.centered center half :=
  Box.ext (Vector2.ext (Scalar.lower_sub_add _ _) (Scalar.lower_sub_add _ _))
    (Vector2.ext (Scalar.upper_sub_add _ _) (Scalar.upper_sub_add _ _))

theorem Circle.bounds_eq_centered (c : Circle ℝ) :
    c.bounds = .centered c.center (.splat c.radius) :=
  Box.spanning_eq_centered _ _

theorem Rectangle.bounds_eq_centered (r : Rectangle ℝ) :
    r.bounds = .centered r.center r.halfSize := by
  have once : r.extents.abs = r.extents := Vector2.ext (abs_abs _) (abs_abs _)
  refine (Box.spanning_eq_centered _ _).trans ?_
  rw [Box.centered, once]
  rfl

/-- Boxes overlap when their centres are nearer on both axes than they reach together. -/
theorem Box.overlaps_centered_iff {c c' h h' : Vector2 ℝ} :
    (Box.centered c h).overlaps (Box.centered c' h') = true ↔
      |c.x - c'.x| < |h.x| + |h'.x| ∧ |c.y - c'.y| < |h.y| + |h'.y| := by
  have axis : ∀ p q r s : ℝ, SpansMeet (p - r) (p + r) (q - s) (q + s) ↔ |p - q| < r + s := by
    intro p q r s
    rw [SpansMeet, abs_lt]
    constructor <;> rintro ⟨left, right⟩ <;> constructor <;> linarith
  rw [Box.overlaps_iff]
  exact and_congr (axis _ _ _ _) (axis _ _ _ _)

/-! ## Shapes that touch -/

/-- On each axis, a point is no further from another than the length between them. -/
theorem Vector2.sq_le_lengthSquared (v : Vector2 ℝ) :
    v.x ^ 2 ≤ v.lengthSquared ∧ v.y ^ 2 ≤ v.lengthSquared := by
  have sum : v.lengthSquared = v.x ^ 2 + v.y ^ 2 := by
    rw [Vector2.lengthSquared, Vector2.dot, sq, sq]
  rw [sum]
  exact ⟨le_add_of_nonneg_right (sq_nonneg _), le_add_of_nonneg_left (sq_nonneg _)⟩

/-- On each axis, a vector shorter than a length of any sign is shorter than it. -/
theorem Vector2.abs_lt_of_lengthSquared {v : Vector2 ℝ} {r : ℝ} (near : v.lengthSquared < r * r) :
    |v.x| < |r| ∧ |v.y| < |r| := by
  obtain ⟨first, second⟩ := v.sq_le_lengthSquared
  rw [← sq] at near
  exact ⟨sq_lt_sq.mp (first.trans_lt near), sq_lt_sq.mp (second.trans_lt near)⟩

theorem Circle.overlaps_of_meet {a b : Circle ℝ} (touching : (a.meet b).isTouching = true) :
    a.bounds.overlaps b.bounds = true := by
  have near : (a.center - b.center).lengthSquared <
      (a.radius + b.radius) * (a.radius + b.radius) := by
    by_contra far
    rw [Circle.meet, if_pos (not_lt.mp far)] at touching
    cases touching
  obtain ⟨first, second⟩ := Vector2.abs_lt_of_lengthSquared near
  have sum := abs_add_le a.radius b.radius
  rw [a.bounds_eq_centered, b.bounds_eq_centered, Box.overlaps_centered_iff]
  exact ⟨first.trans_le sum, second.trans_le sum⟩

/-- The nearest point of a rectangle is inside it. -/
theorem Rectangle.abs_nearest_sub_le (r : Rectangle ℝ) (p : Vector2 ℝ) :
    |(r.nearest p).x - r.center.x| ≤ |r.halfSize.x| ∧
      |(r.nearest p).y - r.center.y| ≤ |r.halfSize.y| := by
  have axis : ∀ c e v : ℝ, 0 ≤ e →
      |c + Scalar.lower (Scalar.upper v (-e)) e - c| ≤ e := by
    intro c e v nonneg
    rw [Scalar.lower_eq_min, Scalar.upper_eq_max, add_sub_cancel_left, abs_le]
    exact ⟨le_min (le_max_right _ _) (by linarith), min_le_right _ _⟩
  exact ⟨axis _ _ _ (abs_nonneg _), axis _ _ _ (abs_nonneg _)⟩

theorem Circle.overlaps_of_meetRectangle {c : Circle ℝ} {r : Rectangle ℝ}
    (touching : (c.meetRectangle r).isTouching = true) :
    c.bounds.overlaps r.bounds = true := by
  have near : (c.center - r.nearest c.center).lengthSquared < c.radius * c.radius := by
    by_contra far
    rw [Circle.meetRectangle, if_pos (not_lt.mp far)] at touching
    cases touching
  obtain ⟨first, second⟩ := Vector2.abs_lt_of_lengthSquared near
  obtain ⟨first', second'⟩ := r.abs_nearest_sub_le c.center
  rw [c.bounds_eq_centered, r.bounds_eq_centered, Box.overlaps_centered_iff]
  exact ⟨(abs_sub_le _ _ _).trans_lt (add_lt_add_of_lt_of_le first first'),
    (abs_sub_le _ _ _).trans_lt (add_lt_add_of_lt_of_le second second')⟩

theorem Rectangle.overlaps_of_meet {a b : Rectangle ℝ} (touching : (a.meet b).isTouching = true) :
    a.bounds.overlaps b.bounds = true := by
  rw [a.bounds_eq_centered, b.bounds_eq_centered, Box.overlaps_centered_iff]
  by_contra far
  have apart : a.meet b = .apart := by
    refine if_pos ?_
    refine (not_and_or.mp far).imp (fun first => ?_) fun second => ?_
    · exact sub_nonpos.mpr (not_lt.mp first)
    · exact sub_nonpos.mpr (not_lt.mp second)
  rw [apart] at touching
  cases touching

/-- **Shapes that touch have boxes that overlap.** -/
theorem Shape.boundsOverlap_of_isTouching {a b : Shape ℝ}
    (touching : (a.meet b).isTouching = true) : a.boundsOverlap b = true := by
  have viaBoxes : (if a.boundsOverlap b then .boxesOverlap else .apart : Meeting ℝ).isTouching =
      true → a.boundsOverlap b = true := by
    split
    case isTrue overlap => exact fun _ => overlap
    case isFalse => exact fun touching => nomatch touching
  cases a with
  | empty => cases b <;> cases touching
  | circle a =>
      cases b with
      | empty => cases touching
      | circle b => exact Circle.overlaps_of_meet touching
      | rectangle b => exact Circle.overlaps_of_meetRectangle touching
      | polygon b => exact viaBoxes touching
  | rectangle a =>
      cases b with
      | empty => cases touching
      | circle b =>
          rw [meet_rectangle_circle, Meeting.isTouching_flip] at touching
          exact (Box.overlaps_comm _ _).trans (Circle.overlaps_of_meetRectangle touching)
      | rectangle b => exact Rectangle.overlaps_of_meet touching
      | polygon b => exact viaBoxes touching
  | polygon a =>
      rw [meet_polygon_left] at touching
      exact viaBoxes touching

end PlanarDynamics
