import PlanarDynamics.Proofs.Contact.Bounds
import PlanarDynamics.Proofs.World.Candidates

/-!
# Boxes of moved shapes

With exact arithmetic the box around a moved shape is the moved box around the shape
(`Shape.bounds?_translate`), whatever the fields of the shape are. One shape is an exception. A
polygon without vertices has nothing that could be moved, and the box it is given, the origin alone,
stays where it is (`Shape.bounds?_translate_vertexless`). So a collider whose polygon has not been
filled in yet is looked for at the origin of the world and not at its body
(`World.box_placed_iff`).
-/

set_option autoImplicit false

namespace PlanarDynamics

/-! ## Points and boxes -/

namespace Vector2

theorem lower_add_right (a b offset : Vector2 ℝ) :
    (a + offset).lower (b + offset) = a.lower b + offset := by
  apply Vector2.ext <;> simp [lower, Scalar.lower_eq_min, min_add_add_right]

theorem upper_add_right (a b offset : Vector2 ℝ) :
    (a + offset).upper (b + offset) = a.upper b + offset := by
  apply Vector2.ext <;> simp [upper, Scalar.upper_eq_max, max_add_add_right]

/-- What moves with two points moves with all points of a list. -/
theorem foldl_add_right {f : Vector2 ℝ → Vector2 ℝ → Vector2 ℝ} {offset : Vector2 ℝ}
    (moves : ∀ a b, f (a + offset) (b + offset) = f a b + offset) (p : Vector2 ℝ)
    (ps : List (Vector2 ℝ)) :
    (ps.map (· + offset)).foldl f (p + offset) = ps.foldl f p + offset := by
  rw [List.foldl_map]
  exact List.foldl_hom (· + offset) moves

end Vector2

namespace Box

theorem spanning_add_right (a b offset : Vector2 ℝ) :
    spanning (a + offset) (b + offset) = (spanning a b).translate offset :=
  Box.ext (Vector2.lower_add_right a b offset) (Vector2.upper_add_right a b offset)

theorem centered_add_right (center half offset : Vector2 ℝ) :
    centered (center + offset) half = (centered center half).translate offset := by
  apply Box.ext <;> apply Vector2.ext <;> simp [centered, translate] <;> ring

/-- The box around moved points. -/
theorem around?_map_add_right (points : List (Vector2 ℝ)) (offset : Vector2 ℝ) :
    around? (points.map (· + offset)) = (around? points).map (·.translate offset) := by
  cases points with
  | nil => rfl
  | cons p ps =>
      have lowest := Vector2.foldl_add_right (Vector2.lower_add_right · · offset) p ps
      have highest := Vector2.foldl_add_right (Vector2.upper_add_right · · offset) p ps
      simp only [List.map_cons, around?, lowest, highest, spanning_add_right, Option.map_some]

theorem translate_origin_eq_iff (offset : Vector2 ℝ) :
    (origin : Box ℝ).translate offset = origin ↔ offset = 0 := by
  have corner : (origin : Box ℝ).lo = 0 :=
    Vector2.ext (by simp [origin, spanning, Vector2.lower, Scalar.lower_eq_min])
      (by simp [origin, spanning, Vector2.lower, Scalar.lower_eq_min])
  constructor
  · intro stays
    have here : (origin : Box ℝ).lo + offset = (origin : Box ℝ).lo := congrArg Box.lo stays
    rw [corner] at here
    exact Vector2.ext (by simpa using congrArg Vector2.x here)
      (by simpa using congrArg Vector2.y here)
  · rintro rfl
    apply Box.ext <;> apply Vector2.ext <;> simp [translate]

end Box

/-! ## Shapes -/

namespace Shape

/-- The box around a shape, moved by an offset. -/
def movedBox? {α : Type} [Scalar α] (s : Shape α) (offset : Vector2 α) : Option (Box α) :=
  s.bounds?.map (·.translate offset)

/-- **The box around a moved shape is the moved box around the shape**, but for a polygon without
vertices. -/
theorem bounds?_translate {s : Shape ℝ} (filled : s ≠ .polygon .standard) (offset : Vector2 ℝ) :
    (s.translate offset).bounds? = s.movedBox? offset := by
  cases s with
  | empty => rfl
  | circle c =>
      have moved : (c.translate offset).bounds = c.bounds.translate offset := by
        rw [Circle.bounds_eq_centered, Circle.bounds_eq_centered]
        exact Box.centered_add_right _ _ offset
      exact congrArg some moved
  | rectangle r =>
      have moved : (r.translate offset).bounds = r.bounds.translate offset := by
        rw [Rectangle.bounds_eq_centered, Rectangle.bounds_eq_centered]
        exact Box.centered_add_right _ _ offset
      exact congrArg some moved
  | polygon p =>
      obtain ⟨vertices⟩ := p
      cases vertices with
      | nil => exact absurd rfl filled
      | cons v vs =>
          have moved := Box.around?_map_add_right (v :: vs) offset
          exact congrArg (fun box => some (box.getD .origin)) moved

/-- A polygon without vertices has its box at the origin, wherever it is moved. -/
theorem bounds?_translate_vertexless {α : Type} [Scalar α] (offset : Vector2 α) :
    ((Shape.polygon .standard : Shape α).translate offset).bounds? = some .origin := rfl

/-- The box of a shape goes along with it by an offset: the shape has a vertex, if it is a polygon,
or there is nowhere to go. -/
def GoesAlong (s : Shape ℝ) (offset : Vector2 ℝ) : Prop := s = .polygon .standard → offset = 0

theorem bounds?_translate_eq_iff {s : Shape ℝ} {offset : Vector2 ℝ} :
    (s.translate offset).bounds? = s.movedBox? offset ↔ s.GoesAlong offset := by
  by_cases vertexless : s = .polygon .standard
  · subst vertexless
    rw [bounds?_translate_vertexless]
    have stays := Box.translate_origin_eq_iff offset
    exact ⟨fun same _ => stays.mp (Option.some.inj same).symm,
      fun goes => congrArg some (stays.mpr (goes rfl)).symm⟩
  · exact ⟨fun _ same => absurd same vertexless, fun _ => bounds?_translate vertexless offset⟩

end Shape

/-! ## Colliders -/

namespace World

/-- The box of a collider whose body and geometry are there. -/
theorem boxOf_eq_bounds? {α L : Type} [Scalar α] {w : World α L} {v : Collider α} {body : Body α}
    {s : Shape α} (held : w.bodies.get v.body = .ok body)
    (stored : w.shapes.get v.kind v.place = .ok s) :
    w.boxOf v = .ok (s.translate body.position).bounds? := by
  simp only [boxOf, held, Shapes.placed, stored]
  rfl

/-- **The box of a collider goes along with its body, unless its polygon has no vertices.** The box
around a moved shape is the moved box around the shape exactly when the shape goes along; then the
broad phase is given the local box of the geometry at the place of the body, and two shapes are
compared by their local boxes at their places. -/
theorem box_placed_iff (s : Shape ℝ) (offset : Vector2 ℝ) :
    ((s.translate offset).bounds? = s.movedBox? offset ↔ s.GoesAlong offset) ∧
    (∀ {L : Type} (w : World ℝ L) (v : Collider ℝ) (body : Body ℝ),
      w.bodies.get v.body = .ok body → body.position = offset →
      w.shapes.get v.kind v.place = .ok s →
      (w.boxOf v = .ok (s.movedBox? offset) ↔ s.GoesAlong offset)) ∧
    ∀ (t : Shape ℝ) (other : Vector2 ℝ), s.GoesAlong offset → t.GoesAlong other →
      ((s.translate offset).boundsOverlap (t.translate other) = true ↔
        ∃ a b, s.movedBox? offset = some a ∧ t.movedBox? other = some b ∧ a.overlaps b = true) := by
  refine ⟨Shape.bounds?_translate_eq_iff, ?_, ?_⟩
  · rintro L w v body held rfl stored
    rw [boxOf_eq_bounds? held stored, Except.ok.injEq]
    exact Shape.bounds?_translate_eq_iff
  · intro t other goes goes'
    rw [Shape.boundsOverlap_iff, Shape.bounds?_translate_eq_iff.mpr goes,
      Shape.bounds?_translate_eq_iff.mpr goes']

/-- A body away from the origin, with a collider whose polygon has not been filled in. -/
noncomputable def strandedWorld : World ℝ Unit :=
  { blank .standard with
    bodies := ⟨#[⟨⟨⟨1, 1⟩, 0, 1, 0, .moving⟩, 0⟩], 0, 2, []⟩
    colliders := ⟨#[⟨.make ⟨0, 0⟩ .polygon 0, 0⟩], 0, 2, []⟩
    shapes := ⟨.empty 2, .empty 2, ⟨#[⟨some .standard, 0⟩], 0, 2, []⟩⟩ }

theorem box_placed_iff_stranded :
    let v : Collider ℝ := .make ⟨0, 0⟩ .polygon 0
    let body : Body ℝ := ⟨⟨1, 1⟩, 0, 1, 0, .moving⟩
    let s : Shape ℝ := .polygon .standard
    strandedWorld.bodies.get v.body = .ok body ∧ body.position = ⟨1, 1⟩ ∧
      strandedWorld.shapes.get v.kind v.place = .ok s ∧
      strandedWorld.boxOf v = .ok (some .origin) ∧
      strandedWorld.boxOf v ≠ .ok (s.movedBox? ⟨1, 1⟩) := by
  intro v body s
  have live : Entity.isLive body = true := decide_eq_true one_pos
  have held : strandedWorld.bodies.get v.body = .ok body :=
    Arena.get_eq_ok_iff.mpr ⟨rfl, live⟩
  have stored : strandedWorld.shapes.get v.kind v.place = .ok s := rfl
  have stays : ¬ s.GoesAlong ⟨1, 1⟩ := fun goes => by
    simpa using congrArg Vector2.x (goes rfl)
  exact ⟨held, rfl, stored, boxOf_eq_bounds? held stored, fun moved =>
    stays (((box_placed_iff s ⟨1, 1⟩).2.1 strandedWorld v body held rfl stored).mp moved)⟩

/-- Not every box goes along. -/
theorem vertexless_stays_behind :
    ¬ ∀ (s : Shape ℝ) (offset : Vector2 ℝ), (s.translate offset).bounds? = s.movedBox? offset := by
  intro always
  have goes := Shape.bounds?_translate_eq_iff.mp (always (.polygon .standard) ⟨3, 4⟩)
  simpa using congrArg Vector2.x (goes rfl)

end World

end PlanarDynamics
