import PlanarDynamics.Contact.Narrow
import PlanarDynamics.Proofs.BroadPhase.Completeness
import PlanarDynamics.Proofs.Contact.Symmetry
import PlanarDynamics.Proofs.Scalar.Sizes

/-!
# Meetings from either side

Two shapes meet in the same way whichever of them is asked about the other, and in contact they
press into each other equally deep. The normal points from the other shape to the one that is
asked, so it turns round, unless the centres of the shapes give it no direction: then a fixed one
is taken, the same from both sides (`Shape.Undirected`). The point is the same but for two circles,
where it depends on rounding which of them it is measured from.

`Meeting.Opposed` says this of two meetings. It needs the laws of signs and sizes only
(`Shape.opposed_meet`), so it is as true of binary32 numbers, whatever the fields of the shapes
(`Shape.meet_from_either_side`).
-/

set_option autoImplicit false

namespace PlanarDynamics

variable {α : Type} [Scalar α]

/-- A contact as it is seen from both sides. The normal turns round when it has a direction. -/
structure Contact.Opposed (undirected : Prop) (c c' : Contact α) : Prop where
  depth : Scalar.Alike c.depth c'.depth
  turned : ¬ undirected → c'.normal.Alike (-c.normal)
  fixed : undirected → c'.normal = c.normal

/-- How two shapes lie to each other, as it is seen from both sides. -/
inductive Meeting.Opposed (undirected samePoint : Prop) : Meeting α → Meeting α → Prop
  | apart : Opposed undirected samePoint .apart .apart
  | boxesOverlap : Opposed undirected samePoint .boxesOverlap .boxesOverlap
  | contact {c c' : Contact α} (opposed : c.Opposed undirected c')
      (point : samePoint → c.point.Alike c'.point) :
      Opposed undirected samePoint (.contact c) (.contact c')

namespace Meeting

theorem Opposed.mono {undirected samePoint samePoint' : Prop} {m m' : Meeting α}
    (opposed : m.Opposed undirected samePoint m') (fewer : samePoint' → samePoint) :
    m.Opposed undirected samePoint' m' := by
  cases opposed with
  | apart => exact .apart
  | boxesOverlap => exact .boxesOverlap
  | contact opposed point => exact .contact opposed (point ∘ fewer)

/-- A meeting and its flip are the same meeting from two sides. -/
theorem opposed_flip (m : Meeting α) (samePoint : Prop) : m.Opposed False samePoint m.flip := by
  cases m with
  | apart => exact .apart
  | boxesOverlap => exact .boxesOverlap
  | contact c => exact .contact ⟨.refl _, fun _ => .refl _, False.elim⟩ fun _ => .refl _

theorem flip_flip [SymmetricScalar α] (m : Meeting α) : m.flip.flip = m := by
  cases m with
  | contact c => exact congrArg contact c.flip_flip
  | apart | boxesOverlap => rfl

end Meeting

/-! ## Circles -/

namespace Circle

/-- The centres of two circles give no direction: their distance is negligible or no number. -/
def Coincide (a b : Circle α) : Prop := ¬ a.center.distance b.center > negligibleLength

theorem meet_eq (a b : Circle α) :
    a.meet b =
      if (a.center - b.center).lengthSquared ≥ (a.radius + b.radius) * (a.radius + b.radius) then
        .apart
      else .contact
        { normal := if a.center.distance b.center > negligibleLength
            then (a.center - b.center) / a.center.distance b.center else .up
          point := b.center + (a.center - b.center) * (b.radius / (a.radius + b.radius))
          depth := a.radius + b.radius - a.center.distance b.center } :=
  rfl

variable [MeasuredScalar α]

/-- Circles meet alike from either side. A distance between them that is not negligible is the same
number from both. -/
theorem opposed_meet (a b : Circle α) :
    (a.meet b).Opposed (a.Coincide b) False (b.meet a) := by
  have turned := Vector2.sub_alike_neg_sub a.center b.center
  have squares := Vector2.lengthSquared_alike_of_turned turned
  have distances := Vector2.distance_alike_comm a.center b.center
  have far := (Scalar.Alike.refl ((a.radius + b.radius) * (a.radius + b.radius))).le_iff squares
  have long : b.center.distance a.center > negligibleLength ↔
      a.center.distance b.center > negligibleLength := (Scalar.Alike.refl _).lt_iff distances
  rw [meet_eq, meet_eq, SymmetricScalar.add_comm b.radius]
  simp only [ge_iff_le, far, long]
  split
  · exact .apart
  · refine .contact ⟨(Scalar.Alike.refl _).sub distances.symm, fun directed => ?_,
      fun coincide => ?_⟩ False.elim
    · have notable := Classical.not_not.mp directed
      have same := MeasuredScalar.eq_of_alike_of_pos distances.symm
        (Scalar.lt_trans MeasuredScalar.negligible_pos notable)
      simp only [notable, if_true, ← same]
      exact Vector2.div_alike_of_turned turned _
    · simp only [if_neg coincide]

end Circle

/-! ## Rectangles -/

namespace Rectangle

/-- How far two rectangles overlap on each axis. -/
def overlaps (a b : Rectangle α) : Vector2 α :=
  a.extents + b.extents - (a.center - b.center).abs

/-- What the centres of two rectangles are apart on the axis along which they are parted. -/
def partingOffset (a b : Rectangle α) : α :=
  if (a.overlaps b).x ≤ (a.overlaps b).y then (a.center - b.center).x else (a.center - b.center).y

/-- The centre of the overlap of two rectangles. -/
def overlapCenter (a b : Rectangle α) : Vector2 α :=
  (a.lo.upper b.lo + a.hi.lower b.hi) * (0.5 : α)

theorem meet_eq (a b : Rectangle α) :
    a.meet b =
      if (a.overlaps b).x ≤ 0 ∨ (a.overlaps b).y ≤ 0 then .apart
      else if (a.overlaps b).x ≤ (a.overlaps b).y then
        .contact ⟨⟨Scalar.sign (a.center - b.center).x, 0⟩, a.overlapCenter b, (a.overlaps b).x⟩
      else
        .contact ⟨⟨0, Scalar.sign (a.center - b.center).y⟩, a.overlapCenter b, (a.overlaps b).y⟩ :=
  rfl

variable [MeasuredScalar α]

theorem overlaps_alike_comm (a b : Rectangle α) : (a.overlaps b).Alike (b.overlaps a) := by
  have axis : ∀ e e' c c' : α, Scalar.Alike (e + e' - Scalar.abs (c - c'))
      (e' + e - Scalar.abs (c' - c)) := by
    intro e e' c c'
    rw [SymmetricScalar.add_comm e]
    exact (Scalar.Alike.refl _).sub (Scalar.abs_sub_alike_comm c c')
  exact ⟨axis _ _ _ _, axis _ _ _ _⟩

theorem overlapCenter_alike_comm (a b : Rectangle α) :
    (a.overlapCenter b).Alike (b.overlapCenter a) := by
  have axis : ∀ l l' h h' : α,
      Scalar.Alike ((Scalar.upper l l' + Scalar.lower h h') * (0.5 : α))
        ((Scalar.upper l' l + Scalar.lower h' h) * (0.5 : α)) := by
    intro l l' h h'
    exact ((Scalar.upper_alike_comm l l').add (Scalar.lower_alike_comm h h')).mul (.refl _)
  exact ⟨axis _ _ _ _, axis _ _ _ _⟩

theorem opposed_meet (a b : Rectangle α) :
    (a.meet b).Opposed (Scalar.isDirectionless (a.partingOffset b) = true) True (b.meet a) := by
  have overlaps := overlaps_alike_comm a b
  have turned := Vector2.sub_alike_neg_sub a.center b.center
  have gapX := overlaps.symm.x.le_iff (Scalar.Alike.refl 0)
  have gapY := overlaps.symm.y.le_iff (Scalar.Alike.refl 0)
  have less := overlaps.symm.x.le_iff overlaps.symm.y
  have zero : Scalar.Alike (0 : α) (-0) := MeasuredScalar.zero_alike_neg_zero
  have points := overlapCenter_alike_comm a b
  rw [meet_eq, meet_eq]
  simp only [partingOffset, gapX, gapY, less]
  by_cases gap : (a.overlaps b).x ≤ 0 ∨ (a.overlaps b).y ≤ 0
  · simp only [gap, if_true]
    exact .apart
  · by_cases first : (a.overlaps b).x ≤ (a.overlaps b).y
    · simp only [gap, first, if_true, if_false, Scalar.sign_of_turned turned.x]
      refine .contact ⟨overlaps.x, fun directed => ?_, fun undirected => ?_⟩ fun _ => points
      · rw [if_neg directed]
        exact ⟨.refl _, zero⟩
      · rw [if_pos undirected]
    · simp only [gap, first, if_false, Scalar.sign_of_turned turned.y]
      refine .contact ⟨overlaps.y, fun directed => ?_, fun undirected => ?_⟩ fun _ => points
      · rw [if_neg directed]
        exact ⟨zero, .refl _⟩
      · rw [if_pos undirected]

end Rectangle

/-! ## All shapes -/

namespace Shape

/-- The centres of two shapes give their normal no direction. -/
def Undirected : Shape α → Shape α → Prop
  | circle a, circle b => a.Coincide b
  | rectangle a, rectangle b => Scalar.isDirectionless (a.partingOffset b) = true
  | _, _ => False

theorem boundsOverlap_comm (a b : Shape α) : a.boundsOverlap b = b.boundsOverlap a := by
  unfold boundsOverlap
  cases a.bounds? <;> cases b.bounds? <;> simp [Box.overlaps_comm]

/-- Boxes overlap from both sides. -/
theorem opposed_boundsOverlap (a b : Shape α) (undirected samePoint : Prop) :
    Meeting.Opposed (α := α) undirected samePoint
      (if a.boundsOverlap b then .boxesOverlap else .apart)
      (if b.boundsOverlap a then .boxesOverlap else .apart) := by
  rw [boundsOverlap_comm b a]
  split
  · exact .boxesOverlap
  · exact .apart

variable [MeasuredScalar α]

/-- **Two shapes meet in the same way from either side.** -/
theorem opposed_meet (a b : Shape α) :
    (a.meet b).Opposed (a.Undirected b) (¬ (a.kind = .circle ∧ b.kind = .circle)) (b.meet a) := by
  cases a with
  | empty =>
      rw [meet_empty_left, meet_empty_right]
      exact .apart
  | circle a =>
      cases b with
      | empty => exact .apart
      | circle b => exact (Circle.opposed_meet a b).mono fun different => different ⟨rfl, rfl⟩
      | rectangle r => exact Meeting.opposed_flip _ _
      | polygon p => exact opposed_boundsOverlap (circle a) (polygon p) _ _
  | rectangle r =>
      cases b with
      | empty => exact .apart
      | circle c =>
          have opposed := (c.meetRectangle r).flip.opposed_flip
          rw [Meeting.flip_flip] at opposed
          exact opposed _
      | rectangle t => exact (Rectangle.opposed_meet r t).mono fun _ => trivial
      | polygon p => exact opposed_boundsOverlap (rectangle r) (polygon p) _ _
  | polygon p =>
      rw [meet_polygon_left, meet_polygon_right]
      exact opposed_boundsOverlap (polygon p) b _ _

/-- **The narrow phase does not care which shape comes first.** With binary32 numbers, and for
every two shapes, both orders find the shapes apart, or both find that only their boxes overlap,
or both find a contact. The contacts are equally deep. Their normals are negatives of each other,
unless the centres give no direction, and then they are the same. But for two circles, the points
are the same. -/
theorem meet_from_either_side (a b : Shape Float32) :
    (a.meet b = .apart ∧ b.meet a = .apart) ∨
      (a.meet b = .boxesOverlap ∧ b.meet a = .boxesOverlap) ∨
      ∃ c c', a.meet b = .contact c ∧ b.meet a = .contact c' ∧
        Scalar.Alike c.depth c'.depth ∧
        (¬ a.Undirected b → c'.normal.Alike (-c.normal)) ∧
        (a.Undirected b → c'.normal = c.normal) ∧
        (¬ (a.kind = .circle ∧ b.kind = .circle) → c.point.Alike c'.point) := by
  have opposed := opposed_meet a b
  generalize a.meet b = m at opposed
  generalize b.meet a = m' at opposed
  cases opposed with
  | apart => exact Or.inl ⟨rfl, rfl⟩
  | boxesOverlap => exact Or.inr (Or.inl ⟨rfl, rfl⟩)
  | @contact c c' opposed point =>
      exact Or.inr (Or.inr ⟨c, c', rfl, rfl, opposed.depth, opposed.turned, opposed.fixed, point⟩)

end Shape

end PlanarDynamics
