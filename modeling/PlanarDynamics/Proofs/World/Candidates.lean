import PlanarDynamics.Proofs.Contact.Bounds
import PlanarDynamics.Proofs.Store.Liveness
import PlanarDynamics.Proofs.World.Opening

/-!
# No contact is missed

A frame fills the broad phase with one entry for every collider that takes up a box
(`World.state_populate`), so in a tree that pairs with ancestors two colliders are candidates when
the boxes around their placed shapes overlap (`World.mem_candidates_of_boundsOverlap`). With exact
arithmetic shapes that touch have such boxes. Hence a frame tests every two colliders whose shapes
touch after the bodies have moved, exactly when the depth limit is low enough for the broad phase to
be queried (`World.tests_of_touching`).
-/

set_option autoImplicit false

namespace PlanarDynamics

variable {α L ρ : Type} [Scalar α]

namespace World

/-! ## The boxes of colliders -/

/-- The shapes in a world depend on its entities and their geometry only. -/
theorem placedShape_congr {w w' : World α L} (bodies : w'.bodies = w.bodies)
    (colliders : w'.colliders = w.colliders) (shapes : w'.shapes = w.shapes) (c : ColliderRef) :
    w'.placedShape c = w.placedShape c := by
  rw [placedShape, placedShape, bodies, colliders, shapes]

theorem entryOf?_eq_some_iff {w : World α L} {listed : ColliderRef × Collider α}
    {e : TreeEntry α} :
    w.entryOf? listed = some e ↔
      listed.1 = e.collider ∧ w.boxOf listed.2 = .ok (some e.bounds) := by
  unfold entryOf?
  split
  · rename_i box boxed
    rw [boxed, Option.some_inj, TreeEntry.ext_iff, and_comm]
    simp
  · rename_i other
    exact ⟨nofun, fun boxed => absurd boxed.2 (other e.bounds)⟩

/-- The box of a collider is the one around its placed shape. -/
theorem boxOf_eq_some_iff {w : World α L} {collider : Collider α} {box : Box α} :
    w.boxOf collider = .ok (some box) ↔ ∃ body shape, w.bodies.get collider.body = .ok body ∧
      w.shapes.placed collider.kind collider.place body.position = .ok shape ∧
      shape.bounds? = some box := by
  unfold boxOf
  cases w.bodies.get collider.body with
  | error fault => exact ⟨nofun, fun ⟨_, _, there, _⟩ => nomatch there⟩
  | ok body =>
      dsimp only
      cases placed : w.shapes.placed collider.kind collider.place body.position with
      | error fault =>
          refine ⟨nofun, fun ⟨u, shape, there, found, _⟩ => ?_⟩
          obtain rfl := Except.ok.inj there
          exact nomatch placed.symm.trans found
      | ok shape =>
          constructor
          · exact fun bounds => ⟨body, shape, rfl, placed, Except.ok.inj bounds⟩
          · rintro ⟨u, shape', there, found, bounds⟩
            obtain rfl := Except.ok.inj there
            obtain rfl := Except.ok.inj (placed.symm.trans found)
            exact congrArg Except.ok bounds

/-- A collider is listed with the box around its placed shape, if it has one. -/
theorem mem_filterMap_entryOf?_iff {w : World α L} {e : TreeEntry α} :
    e ∈ w.colliders.entries.filterMap w.entryOf? ↔
      ∃ shape, w.placedShape e.collider = .ok shape ∧ shape.bounds? = some e.bounds := by
  rw [List.mem_filterMap]
  constructor
  · rintro ⟨⟨c, collider⟩, listed, entry⟩
    obtain ⟨rfl, boxed⟩ := entryOf?_eq_some_iff.mp entry
    obtain ⟨body, shape, there, placed, bounds⟩ := boxOf_eq_some_iff.mp boxed
    exact ⟨shape, placedShape_eq_ok_iff.mpr
      ⟨collider, body, Arena.mem_entries_iff.mp listed, there, placed⟩, bounds⟩
  · rintro ⟨shape, placed, bounds⟩
    obtain ⟨collider, body, found, there, placed⟩ := placedShape_eq_ok_iff.mp placed
    exact ⟨(e.collider, collider), Arena.mem_entries_iff.mpr found, entryOf?_eq_some_iff.mpr
      ⟨rfl, boxOf_eq_some_iff.mpr ⟨body, shape, there, placed, bounds⟩⟩⟩

/-- Every collider is listed once. -/
theorem nodup_filterMap_entryOf? (w : World α L) :
    ((w.colliders.entries.filterMap w.entryOf?).map TreeEntry.collider).Nodup := by
  refine List.pairwise_map.mpr (w.colliders.pairwise_entries.filterMap _ ?_)
  intro x y before e first f second same
  obtain ⟨here, _⟩ := entryOf?_eq_some_iff.mp first
  obtain ⟨there, _⟩ := entryOf?_eq_some_iff.mp second
  exact Nat.ne_of_lt before (congrArg Handle.index (here.trans (same.trans there.symm)))

/-- **Colliders with boxes that overlap are candidates.** -/
theorem mem_candidates_of_boundsOverlap [OrderedScalar α] {w : World α L}
    (mode : w.tree.settings.pairing = .includeAncestors) {c d : ColliderRef} (different : c ≠ d)
    {a b : Shape α} (placed : w.placedShape c = .ok a) (placed' : w.placedShape d = .ok b)
    (overlap : a.boundsOverlap b = true) :
    ColliderPair.of c d ∈ ((populate : Action α L ρ Unit).run w).state.candidates := by
  obtain ⟨boxA, boxB, bounds, bounds', overlap⟩ := Shape.boundsOverlap_iff.mp overlap
  rw [state_populate, candidates, PairSet.mem_ofList, rebuilt]
  have holds := QuadTree.holds_map_insert w.tree.boundary w.tree.settings
    (w.colliders.entries.filterMap w.entryOf?)
  have unchanged := (QuadTree.frame_map_insert w.tree.clear
    (w.colliders.entries.filterMap w.entryOf?)).2
  have reported := holds.pairwise_reports ((congrArg TreeSettings.pairing unchanged).trans mode)
  have listed : ⟨boxA, c⟩ ∈ w.colliders.entries.filterMap w.entryOf? :=
    mem_filterMap_entryOf?_iff.mpr ⟨a, placed, bounds⟩
  have listed' : ⟨boxB, d⟩ ∈ w.colliders.entries.filterMap w.entryOf? :=
    mem_filterMap_entryOf?_iff.mpr ⟨b, placed', bounds'⟩
  exact reported.forall listed listed' (fun same => different (congrArg TreeEntry.collider same))
    overlap

/-- A frame tests colliders with boxes that overlap once the bodies have moved. -/
theorem mem_tests_of_boundsOverlap [OrderedScalar α] (react : Reaction α L ρ) (dt : α)
    {w : World α L} (mode : w.tree.settings.pairing = .includeAncestors) {c d : ColliderRef}
    (different : c ≠ d) {a b : Shape α}
    (placed : ((integrate dt : Action α L ρ Unit).run w).state.placedShape c = .ok a)
    (placed' : ((integrate dt : Action α L ρ Unit).run w).state.placedShape d = .ok b)
    (overlap : a.boundsOverlap b = true) :
    ColliderPair.of c d ∈ (tests react dt w).map Prod.fst := by
  let start : World α L := { w with updating := true, listener := none }
  let moved := ((integrate dt : Action α L ρ Unit).run start).state
  have opened : ((opening dt : Action α L ρ Unit).run w).state =
      ((populate : Action α L ρ Unit).run moved).state := rfl
  rw [tests_fst, opened]
  refine mem_candidates_of_boundsOverlap (w := moved) mode different ?_ ?_ overlap
  · exact (placedShape_congr rfl rfl rfl c).trans placed
  · exact (placedShape_congr rfl rfl rfl d).trans placed'

/-! ## Exact arithmetic -/

/-- **No contact is missed in a frame that is completed.** Shapes that touch have bounds, and these
overlap. An update is completed, and tests every two colliders whose shapes touch once the bodies
have moved, exactly when the depth limit lets the broad phase be queried, whatever shapes and
positions they have and whatever the area of the broad phase and the entries of its leaves are. -/
theorem tests_of_touching :
    (∀ a b : Shape ℝ, (a.meet b).isTouching = true → ∃ boxA boxB, a.bounds? = some boxA ∧
      b.bounds? = some boxB ∧ boxA.overlaps boxB = true) ∧
    ∀ (react : Reaction ℝ L ρ) (dt : ℝ) (w : World ℝ L),
      w.tree.settings.pairing = .includeAncestors → w.updating = false →
      ((((updateOrCrash react dt).attempt.run w).answer = .ok () ∧
        ∀ (c d : ColliderRef) (a b : Shape ℝ), c ≠ d →
          ((integrate dt : Action ℝ L ρ Unit).run w).state.placedShape c = .ok a →
          ((integrate dt : Action ℝ L ρ Unit).run w).state.placedShape d = .ok b →
          (a.meet b).isTouching = true →
          ColliderPair.of c d ∈ (tests react dt w).map Prod.fst) ↔
        w.tree.settings.maxDepth + 1 < 2 ^ 60) := by
  constructor
  · exact fun a b touching =>
      Shape.boundsOverlap_iff.mp (Shape.boundsOverlap_of_isTouching touching)
  · intro react dt w mode idle
    rw [answer_updateOrCrash react dt idle]
    constructor
    · rintro ⟨completed, _⟩
      exact Classical.byContradiction fun deep => nomatch (if_neg deep).symm.trans completed
    · intro low
      refine ⟨if_pos low, fun c d a b different placed placed' touching => ?_⟩
      exact mem_tests_of_boundsOverlap react dt mode different placed placed'
        (Shape.boundsOverlap_of_isTouching touching)

/-- A circle of negative radius on a fixed body, and a rectangle on a body that comes from far. -/
noncomputable def approachingWorld : World ℝ Unit :=
  { blank { WorldSettings.topDown with tree := ⟨5, 1, .includeAncestors⟩ } with
    bodies := ⟨#[⟨⟨0, 0, 1, 0, .fixed⟩, 0⟩, ⟨⟨⟨10, 0⟩, ⟨-8, 0⟩, 1, 0, .moving⟩, 0⟩], 0, 2, []⟩
    colliders := ⟨#[⟨⟨.circle, 0, ⟨0, 0⟩, ⟨0, 0⟩, .standard, false⟩, 0⟩,
      ⟨⟨.rectangle, 0, ⟨1, 0⟩, ⟨1, 0⟩, .standard, false⟩, 0⟩], 0, 2, []⟩
    shapes := ⟨⟨#[⟨some ⟨0, -3⟩, 0⟩], 0, 2, []⟩, ⟨#[⟨some ⟨0, ⟨-1, 1⟩⟩, 0⟩], 0, 2, []⟩, .empty 2⟩ }

theorem approachingWorld_placed :
    let moved := ((integrate 1 : Action ℝ Unit Unit Unit).run approachingWorld).state
    moved.placedShape ⟨0, 0⟩ = .ok ((Shape.circle ⟨0, -3⟩).translate 0) ∧
      moved.placedShape ⟨1, 0⟩ = .ok ((Shape.rectangle ⟨0, ⟨-1, 1⟩⟩).translate ⟨2, 0⟩) := by
  intro moved
  let still : Body ℝ := ⟨0, 0, 1, 0, .fixed⟩
  let coming : Body ℝ := ⟨⟨10, 0⟩, ⟨-8, 0⟩, 1, 0, .moving⟩
  have live : ∀ b : Body ℝ, Entity.isLive (b.step 0 1) = Entity.isLive b :=
    fun b => Body.isLive_step b 0 1
  have alive : Entity.isLive still = true := decide_eq_true one_pos
  have alive' : Entity.isLive coming = true := decide_eq_true one_pos
  have stays : (still.step 0 1).position = 0 := by
    simp [still, Body.step, Body.applyGravity, Body.integrate, Body.isMoving, Body.clearForce]
  have comes : (coming.step 0 1).position = ⟨2, 0⟩ := by
    have free : coming.applyGravity 0 = coming := by simp [Body.applyGravity, bne, BEq.beq]
    have follows : (coming.isMoving && coming.isLive) = true := alive'
    rw [Body.step, free, Body.integrate, if_pos follows]
    ext <;> norm_num [coming, Body.accelerated]
  constructor
  · refine placedShape_eq_ok_iff.mpr ⟨_, still.step 0 1, Arena.get_eq_ok_iff.mpr ⟨rfl, rfl⟩,
      (Arena.get_mapLive_iff live).mpr ⟨still, Arena.get_eq_ok_iff.mpr ⟨rfl, alive⟩, rfl⟩, ?_⟩
    exact stays ▸ rfl
  · refine placedShape_eq_ok_iff.mpr ⟨_, coming.step 0 1, Arena.get_eq_ok_iff.mpr ⟨rfl, rfl⟩,
      (Arena.get_mapLive_iff live).mpr ⟨coming, Arena.get_eq_ok_iff.mpr ⟨rfl, alive'⟩, rfl⟩, ?_⟩
    exact comes ▸ rfl

theorem approachingWorld_touches :
    (((Shape.circle ⟨0, -3⟩).translate 0).meet
      ((Shape.rectangle ⟨0, ⟨-1, 1⟩⟩).translate ⟨2, 0⟩) : Meeting ℝ).isTouching = true := by
  let circle : Circle ℝ := (⟨0, -3⟩ : Circle ℝ).translate 0
  let rectangle : Rectangle ℝ := (⟨0, ⟨-1, 1⟩⟩ : Rectangle ℝ).translate ⟨2, 0⟩
  have nearest : rectangle.nearest circle.center = ⟨1, 0⟩ := by
    ext <;> norm_num [rectangle, circle, Rectangle.nearest, Rectangle.extents, Vector2.abs,
      Vector2.clamp, Vector2.lower, Vector2.upper, Rectangle.translate, Circle.translate,
      Scalar.lower_eq_min, Scalar.upper_eq_max, Scalar.abs_real]
  have near : ¬ (circle.center - rectangle.nearest circle.center).lengthSquared ≥
      circle.radius * circle.radius := by
    rw [nearest]
    norm_num [circle, Circle.translate, Vector2.lengthSquared, Vector2.dot]
  have contact : (circle.meetRectangle rectangle).isTouching = true := by
    rw [Circle.meetRectangle, if_neg near]
    dsimp only
    split <;> rfl
  exact contact

theorem tests_of_touching_approaching :
    let w := approachingWorld
    let react : Reaction ℝ Unit Unit := fun l _ _ => pure (l, ())
    let moved := ((integrate 1 : Action ℝ Unit Unit Unit).run w).state
    let a : Shape ℝ := (Shape.circle ⟨0, -3⟩).translate 0
    let b : Shape ℝ := (Shape.rectangle ⟨0, ⟨-1, 1⟩⟩).translate ⟨2, 0⟩
    w.tree.settings.pairing = .includeAncestors ∧ w.updating = false ∧
      moved.placedShape ⟨0, 0⟩ = .ok a ∧ moved.placedShape ⟨1, 0⟩ = .ok b ∧
      (a.meet b).isTouching = true ∧
      (∃ boxA boxB, a.bounds? = some boxA ∧ b.bounds? = some boxB ∧
        boxA.overlaps boxB = true) ∧
      ((updateOrCrash react 1).attempt.run w).answer = .ok () ∧
      ColliderPair.of ⟨0, 0⟩ ⟨1, 0⟩ ∈ (tests react 1 w).map Prod.fst := by
  obtain ⟨placed, placed'⟩ := approachingWorld_placed
  obtain ⟨completed, all⟩ := (tests_of_touching.2 (fun l _ _ => pure (l, ())) 1 approachingWorld
    rfl rfl).mpr (show 5 + 1 < 2 ^ 60 by decide)
  exact ⟨rfl, rfl, placed, placed', approachingWorld_touches,
    (tests_of_touching (L := Unit) (ρ := Unit)).1 _ _ approachingWorld_touches, completed,
    all _ _ _ _ (by decide) placed placed' approachingWorld_touches⟩

/-- With a depth limit that is as good as none, a frame breaks off before it tests two shapes that
touch. -/
theorem untested_of_boundless :
    let w : World ℝ Unit := { approachingWorld with
      tree := .empty approachingWorld.tree.boundary ⟨9223372036854775807, 1, .includeAncestors⟩ }
    let react : Reaction ℝ Unit Unit := fun l _ _ => pure (l, ())
    let moved := ((integrate 1 : Action ℝ Unit Unit Unit).run w).state
    let a : Shape ℝ := (Shape.circle ⟨0, -3⟩).translate 0
    let b : Shape ℝ := (Shape.rectangle ⟨0, ⟨-1, 1⟩⟩).translate ⟨2, 0⟩
    w.tree.settings.pairing = .includeAncestors ∧ w.updating = false ∧
      moved.placedShape ⟨0, 0⟩ = .ok a ∧ moved.placedShape ⟨1, 0⟩ = .ok b ∧
      (a.meet b).isTouching = true ∧
      ((updateOrCrash react 1).attempt.run w).answer = .error .capacityOverflow := by
  intro w react moved a b
  obtain ⟨placed, placed'⟩ := approachingWorld_placed
  refine ⟨rfl, rfl, placed, placed', approachingWorld_touches, ?_⟩
  exact (answer_updateOrCrash react 1 rfl).trans
    (if_neg (show ¬ 9223372036854775807 + 1 < 2 ^ 60 by decide))

end World

end PlanarDynamics
