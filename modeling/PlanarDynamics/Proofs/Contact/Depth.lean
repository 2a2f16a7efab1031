import PlanarDynamics.Contact.Narrow
import PlanarDynamics.Proofs.Scalar.Exact

/-!
# Normal and depth of a contact

With exact arithmetic the normal of every contact has length one. The depth is what the shapes reach
beyond the distance between them, and whether they meet is decided by squares. A square cannot tell
a reach from its negative: rectangles drop the sign of their half sizes, but circles keep the sign
of their radii, so the depth of a contact with a circle is positive exactly when the radii reach
anywhere at all (`Shape.Reaches`, `Shape.normal_and_depth_of_meet`).
-/

set_option autoImplicit false

namespace PlanarDynamics

theorem negligibleLength_pos : (0 : ℝ) < negligibleLength := by
  norm_num [negligibleLength]

/-! ## Lengths -/

namespace Vector2

variable {v : Vector2 ℝ}

theorem length_nonneg (v : Vector2 ℝ) : 0 ≤ v.length := Real.sqrt_nonneg _

theorem lengthSquared_nonneg (v : Vector2 ℝ) : 0 ≤ v.lengthSquared :=
  add_nonneg (mul_self_nonneg v.x) (mul_self_nonneg v.y)

theorem length_eq_one (unit : v.lengthSquared = 1) : v.length = 1 :=
  (congrArg Real.sqrt unit).trans Real.sqrt_one

@[simp] theorem length_neg (v : Vector2 ℝ) : (-v).length = v.length := by
  have squares : (-v).lengthSquared = v.lengthSquared :=
    congrArg₂ (· + ·) (neg_mul_neg v.x v.x) (neg_mul_neg v.y v.y)
  exact congrArg Real.sqrt squares

theorem length_up : (up : Vector2 ℝ).length = 1 :=
  length_eq_one (by simp [up, lengthSquared, dot])

/-- A vector that is divided by its length has length one. -/
theorem length_div_length (long : 0 < v.length) : (v / v.length).length = 1 := by
  have square : v.length * v.length = v.lengthSquared := Real.mul_self_sqrt v.lengthSquared_nonneg
  have parts : (v / v.length).lengthSquared = v.lengthSquared / (v.length * v.length) := by
    simp only [lengthSquared, dot, div_x, div_y]
    ring
  refine length_eq_one ?_
  rw [parts, ← square, div_self (mul_pos long long).ne']

theorem length_div_length_of_notable (notable : v.length > negligibleLength) :
    (v / v.length).length = 1 :=
  length_div_length (negligibleLength_pos.trans notable)

/-- What is nearer than a reach in squares leaves some of the reach, unless the reach is
negative. -/
theorem sub_length_pos_iff {reach : ℝ} (near : v.lengthSquared < reach * reach) :
    0 < reach - v.length ↔ 0 < reach := by
  constructor
  · exact fun left => v.length_nonneg.trans_lt (sub_pos.mp left)
  · intro positive
    rw [← sq] at near
    exact sub_pos.mpr ((Real.sqrt_lt' positive).mpr near)

end Vector2

/-! ## Contacts of two kinds -/

/-- The normal of the contact is a unit vector, and its depth is positive when the shapes reach
anywhere. -/
structure Contact.Sound (c : Contact ℝ) (reaches : Prop) : Prop where
  unit : c.normal.length = 1
  depth_pos_iff : 0 < c.depth ↔ reaches

theorem Contact.Sound.flip {c : Contact ℝ} {reaches : Prop} (sound : c.Sound reaches) :
    c.flip.Sound reaches :=
  ⟨(Vector2.length_neg c.normal).trans sound.unit, sound.depth_pos_iff⟩

theorem Meeting.flip_eq_contact_iff {α : Type} [Scalar α] {m : Meeting α} {c : Contact α} :
    m.flip = .contact c ↔ ∃ k, m = .contact k ∧ k.flip = c := by
  cases m <;> simp [flip]

theorem Circle.sound_of_meet {a b : Circle ℝ} {c : Contact ℝ} (met : a.meet b = .contact c) :
    c.Sound (0 < a.radius + b.radius) := by
  unfold Circle.meet at met
  dsimp only at met
  split at met
  case isTrue => cases met
  case isFalse near =>
    obtain rfl := Meeting.contact.inj met
    refine ⟨?_, Vector2.sub_length_pos_iff (not_le.mp near)⟩
    dsimp only
    split
    case isTrue notable => exact Vector2.length_div_length_of_notable notable
    case isFalse => exact Vector2.length_up

theorem Circle.sound_of_meetRectangle {a : Circle ℝ} {r : Rectangle ℝ} {c : Contact ℝ}
    (met : a.meetRectangle r = .contact c) : c.Sound (0 < a.radius) := by
  unfold Circle.meetRectangle at met
  dsimp only at met
  split at met
  case isTrue => cases met
  case isFalse near =>
    split at met
    case isTrue notable =>
      obtain rfl := Meeting.contact.inj met
      exact ⟨Vector2.length_div_length_of_notable notable,
        Vector2.sub_length_pos_iff (not_le.mp near)⟩
    case isFalse =>
      obtain rfl := Meeting.contact.inj met
      exact ⟨Vector2.length_up, Iff.rfl⟩

theorem Scalar.sign_mul_self (a : ℝ) : sign a * sign a = 1 := by
  unfold sign
  split
  · exact neg_mul_neg 1 1 |>.trans (one_mul 1)
  · exact one_mul 1

theorem Rectangle.sound_of_meet {a b : Rectangle ℝ} {c : Contact ℝ} (met : a.meet b = .contact c) :
    c.Sound True := by
  unfold Rectangle.meet at met
  dsimp only at met
  split at met
  case isTrue => cases met
  case isFalse overlap =>
    obtain ⟨first, second⟩ := not_or.mp overlap
    split at met
    case isTrue =>
      obtain rfl := Meeting.contact.inj met
      refine ⟨Vector2.length_eq_one ?_, iff_true_intro (not_le.mp first)⟩
      simp [Vector2.lengthSquared, Vector2.dot, Scalar.sign_mul_self]
    case isFalse =>
      obtain rfl := Meeting.contact.inj met
      refine ⟨Vector2.length_eq_one ?_, iff_true_intro (not_le.mp second)⟩
      simp [Vector2.lengthSquared, Vector2.dot, Scalar.sign_mul_self]

/-! ## All contacts -/

namespace Shape

/-- The pairs of shapes that can be in contact, with the test that says so. -/
inductive Solids : Shape ℝ → Shape ℝ → Contact ℝ → Prop
  | circles {a b : Circle ℝ} {c : Contact ℝ} :
      a.meet b = .contact c → Solids (circle a) (circle b) c
  | circleRectangle {a : Circle ℝ} {r : Rectangle ℝ} {c : Contact ℝ} :
      a.meetRectangle r = .contact c → Solids (circle a) (rectangle r) c
  | rectangleCircle {r : Rectangle ℝ} {a : Circle ℝ} {c : Contact ℝ} :
      a.meetRectangle r = .contact c → Solids (rectangle r) (circle a) c.flip
  | rectangles {r t : Rectangle ℝ} {c : Contact ℝ} :
      r.meet t = .contact c → Solids (rectangle r) (rectangle t) c

/-- Only circles and rectangles are ever in contact. -/
theorem solids_of_meet {a b : Shape ℝ} {c : Contact ℝ} (met : a.meet b = .contact c) :
    Solids a b c := by
  have viaBoxes : (if a.boundsOverlap b then .boxesOverlap else .apart : Meeting ℝ) ≠
      .contact c := by
    split <;> exact nofun
  cases a with
  | empty => exact nomatch (meet_empty_left b).symm.trans met
  | circle a =>
      cases b with
      | empty => cases met
      | circle b => exact .circles met
      | rectangle r => exact .circleRectangle met
      | polygon p => exact absurd met viaBoxes
  | rectangle r =>
      cases b with
      | empty => cases met
      | circle b =>
          obtain ⟨k, forward, rfl⟩ := Meeting.flip_eq_contact_iff.mp met
          exact .rectangleCircle forward
      | rectangle b => exact .rectangles met
      | polygon p => exact absurd met viaBoxes
  | polygon p =>
      rw [meet_polygon_left] at met
      exact absurd met viaBoxes

/-- Two shapes reach somewhere: the radius of a circle, or the sum of two of them, is positive.
Rectangles always do. -/
def Reaches : Shape ℝ → Shape ℝ → Prop
  | circle a, circle b => 0 < a.radius + b.radius
  | circle c, rectangle _ => 0 < c.radius
  | rectangle _, circle c => 0 < c.radius
  | _, _ => True

theorem sound_of_meet {a b : Shape ℝ} {c : Contact ℝ} (met : a.meet b = .contact c) :
    c.Sound (a.Reaches b) := by
  cases solids_of_meet met with
  | circles test => exact Circle.sound_of_meet test
  | circleRectangle test => exact Circle.sound_of_meetRectangle test
  | rectangleCircle test => exact (Circle.sound_of_meetRectangle test).flip
  | rectangles test => exact Rectangle.sound_of_meet test

/-- **Every contact has a unit normal, and a positive depth exactly when the shapes reach
somewhere.** -/
theorem normal_and_depth_of_meet {a b : Shape ℝ} {c : Contact ℝ} (met : a.meet b = .contact c) :
    c.normal.length = 1 ∧ (0 < c.depth ↔ a.Reaches b) :=
  ⟨(sound_of_meet met).unit, (sound_of_meet met).depth_pos_iff⟩

/-- Two circles of radius minus one in the same place press into each other by minus two. -/
theorem meet_inverted :
    (circle ⟨0, -1⟩ : Shape ℝ).meet (circle ⟨0, -1⟩) = .contact ⟨.up, 0, -2⟩ := by
  have together : (0 - 0 : Vector2 ℝ).lengthSquared = 0 := by
    simp [Vector2.lengthSquared, Vector2.dot]
  have near : ¬ (0 - 0 : Vector2 ℝ).lengthSquared ≥ ((-1 : ℝ) + -1) * (-1 + -1) := by
    rw [together]
    norm_num
  have distance : Scalar.sqrt (0 - 0 : Vector2 ℝ).lengthSquared = 0 := by
    rw [together]
    exact Real.sqrt_zero
  have still : ¬ (0 : ℝ) > negligibleLength := negligibleLength_pos.le.not_gt
  refine (if_neg near).trans (congrArg Meeting.contact ?_)
  dsimp only
  rw [distance, if_neg still]
  refine Contact.ext rfl ?_ ?_
  · apply Vector2.ext <;> simp
  · norm_num

theorem normal_and_depth_of_meet_inverted :
    let a : Shape ℝ := circle ⟨0, -1⟩
    let c : Contact ℝ := ⟨.up, 0, -2⟩
    a.meet a = .contact c ∧ c.normal.length = 1 ∧ ¬ a.Reaches a ∧ ¬ 0 < c.depth := by
  intro a c
  obtain ⟨unit, deep⟩ := normal_and_depth_of_meet meet_inverted
  have inverted : ¬ a.Reaches a := by
    show ¬ (0 : ℝ) < -1 + -1
    norm_num
  exact ⟨meet_inverted, unit, inverted, fun positive => inverted (deep.mp positive)⟩

/-- Not every contact has a positive depth. -/
theorem negative_depth_of_inverted :
    ¬ ∀ (a b : Shape ℝ) (c : Contact ℝ), a.meet b = .contact c → 0 < c.depth := by
  intro always
  have positive := always _ _ _ meet_inverted
  norm_num at positive

end Shape

end PlanarDynamics
