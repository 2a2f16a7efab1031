import PlanarDynamics.Proofs.World.Housing
import PlanarDynamics.Proofs.World.Unheard

/-!
# What a frame finds out

The touching pairs are kept up to date pair by pair, by insertions and removals while the frame
goes on and by a sweep at its end. What comes out is nevertheless the result of this frame alone
(`World.Fresh`): the touching pairs are the candidates that were found to touch, and the broad
phase holds the box of every collider where the bodies have moved. Nothing is left of the touching
pairs and the broad phase of the frame before (`World.state_update_congr`), so they have no
influence on the motion.

In a housed world every active collider takes up a box (`World.Housed.exists_box`), and is thus in
the broad phase exactly once.
-/

set_option autoImplicit false

namespace PlanarDynamics

variable {α L ρ : Type} [Scalar α]

namespace World

/-- What a frame leaves behind, from a world without a listener, is the result of this frame. -/
structure Fresh (react : Reaction α L ρ) (dt : α) (w out : World α L) : Prop where
  reached : ((update react dt).run w).state = out
  /-- The touching pairs are the candidates that were found to touch, each examined with the
  bodies as the contacts before it have left them. -/
  touching : ∀ p, p ∈ out.touching ↔
    ∃ x, Examined out.candidates.toList (w.moved dt) p x ∧ x.meeting.isTouching = true
  /-- Both colliders of a touching pair are live, on different live bodies. -/
  bodies : ∀ p ∈ out.touching, ∃ a b, out.active? p.first = some a ∧
    out.active? p.second = some b ∧ a.body ≠ b.body
  once : (out.tree.root.contents.map TreeEntry.collider).Nodup
  /-- The broad phase holds the boxes of the placed shapes once the bodies have moved. -/
  entries : ∀ e, e ∈ out.tree.root.contents ↔
    ∃ shape, (w.moved dt).placedShape e.collider = .ok shape ∧ shape.bounds? = some e.bounds
  /-- Other touching pairs and other entries in the broad phase would have led to the same. -/
  same : ∀ (touching : PairSet) (tree : QuadTree α), tree.boundary = w.tree.boundary →
    tree.settings = w.tree.settings →
      ((update react dt).run { w with touching := touching, tree := tree }).state = out

/-- The broad phase has an entry of every active collider, and of no other. -/
def Listed (w : World α L) : Prop :=
  ∀ c, (∃ e ∈ w.tree.root.contents, e.collider = c) ↔ (w.active? c).isSome = true

/-! ## Activity -/

section Activity

variable {w w' : World α L} {c : ColliderRef}

/-- Colliders are active alike when the bodies are live under the same handles. -/
theorem active?_congr (colliders : w'.colliders = w.colliders)
    (bodies : w.bodies.SameOutline w'.bodies) (c : ColliderRef) : w'.active? c = w.active? c := by
  rw [active?, active?, colliders]
  simp only [bodies.contains]

theorem colliders_foldl_parted (items : List ColliderPair) (w : World α L) :
    (items.foldl parted w).colliders = w.colliders := by
  have scene : w.SameScene w := ⟨rfl, rfl, rfl, rfl⟩
  rw [scene.foldl_parted]

/-- A pair is only examined when its colliders are active, on different bodies. -/
theorem Examined.active {items : List ColliderPair} {p : ColliderPair} {x : Examination α}
    (examined : Examined items w p x) :
    ∃ a b, w.active? p.first = some a ∧ w.active? p.second = some b ∧ a.body ≠ b.body := by
  induction items generalizing w with
  | nil => exact absurd examined not_examined_nil
  | cons q rest ih =>
      rcases examined_cons.mp examined with ⟨rfl, known⟩ | later
      · obtain ⟨a, b, _, _, first, second, apart, placed, placed', _⟩ :=
          colliders_of_examination known
        obtain ⟨u, body, found, there, _⟩ := placedShape_eq_ok_iff.mp placed
        obtain ⟨v, body', found', there', _⟩ := placedShape_eq_ok_iff.mp placed'
        obtain rfl := Except.ok.inj (first.symm.trans found)
        obtain rfl := Except.ok.inj (second.symm.trans found')
        exact ⟨a, b, active?_eq_some_iff.mpr ⟨first, body, there⟩,
          active?_eq_some_iff.mpr ⟨second, body', there'⟩, apart⟩
      · have same := active?_congr (colliders_foldl_parted [q] w) (sameOutline_parted w q)
        obtain ⟨a, b, first, second, apart⟩ := ih later
        exact ⟨a, b, (same p.first).symm.trans first, (same p.second).symm.trans second, apart⟩

/-- In a housed world every active collider takes up a box. -/
theorem Housed.exists_box (housed : w.Housed) (active : (w.active? c).isSome = true) :
    ∃ shape box, w.placedShape c = .ok shape ∧ shape.bounds? = some box := by
  obtain ⟨v, known⟩ := Option.isSome_iff_exists.mp active
  obtain ⟨found, body, there⟩ := active?_eq_some_iff.mp known
  obtain ⟨real, shape, held⟩ := housed.home c v.kind v.place ⟨v, found, rfl, rfl⟩
  have kind := (Shapes.kind_of_get? ((Shapes.get_eq_ok_iff real).mp held)).1
  have placed : w.shapes.placed v.kind v.place body.position =
      .ok (shape.translate body.position) := by
    rw [Shapes.placed, held]
    rfl
  cases bounds : (shape.translate body.position).bounds? with
  | none =>
      have empty := Shape.bounds?_eq_none_iff.mp bounds
      rw [← kind, ← Shape.kind_translate shape body.position, empty] at real
      exact absurd rfl real
  | some box =>
      exact ⟨_, box, placedShape_eq_ok_iff.mpr ⟨v, body, found, there, placed⟩, bounds⟩

end Activity

/-! ## Frames -/

section Frame

variable (react : Reaction α L ρ) (dt : α) {w : World α L} (idle : w.updating = false)
  (silent : w.listener = none)

include idle silent in
/-- A frame leaves the same colliders active. -/
theorem active?_update (c : ColliderRef) :
    ((update react dt).run w).state.active? c = (w.moved dt).active? c := by
  obtain ⟨touching, state, _⟩ := state_update_unheard react dt idle silent
  rw [state]
  apply active?_congr
  · rfl
  · exact sameOutline_foldl_parted (w.moved dt) (w.due dt)

include idle silent in
/-- **Old touching pairs and the old broad phase have no influence on a frame.** -/
theorem state_update_congr (touching : PairSet) (tree : QuadTree α)
    (boundary : tree.boundary = w.tree.boundary) (settings : tree.settings = w.tree.settings) :
    ((update react dt).run { w with touching := touching, tree := tree }).state =
      ((update react dt).run w).state := by
  let w' : World α L := { w with touching := touching, tree := tree }
  have scene : (w.moved dt).SameScene (w'.moved dt) := ⟨rfl, rfl, rfl, rfl⟩
  have rebuilt : (w'.moved dt).rebuilt = (w.moved dt).rebuilt := by
    have cleared : (w'.moved dt).tree.clear = (w.moved dt).tree.clear :=
      congrArg₂ QuadTree.empty boundary settings
    have listed : (w'.moved dt).colliders.entries.filterMap (w'.moved dt).entryOf? =
        (w.moved dt).colliders.entries.filterMap (w.moved dt).entryOf? := rfl
    rw [World.rebuilt, World.rebuilt, cleared, listed]
  have due : w'.due dt = w.due dt := by
    rw [World.due, World.due, candidates, candidates, rebuilt]
  obtain ⟨found, state, members⟩ := state_update_unheard react dt idle silent
  obtain ⟨found', state', members'⟩ := state_update_unheard react dt (w := w') idle silent
  have same : found' = found := by
    refine PairSet.eq_of_mem_iff fun p => ?_
    simp only [members, members', due, Examined, scene.examinations]
  rw [state, state', same, due, rebuilt, scene.foldl_parted]

include idle silent in
/-- **A frame without a listener leaves behind its own results.** -/
theorem fresh_update : Fresh react dt w ((update react dt).run w).state := by
  obtain ⟨touching, state, members⟩ := state_update_unheard react dt idle silent
  have same := active?_update react dt idle silent
  have holds : (w.moved dt).rebuilt.Holds
      ((w.moved dt).colliders.entries.filterMap (w.moved dt).entryOf?) :=
    QuadTree.holds_map_insert _ _ _
  have congr := state_update_congr react dt idle silent
  rw [state] at same congr ⊢
  exact
    { reached := state
      touching := members
      bodies := by
        intro p member
        obtain ⟨x, examined, _⟩ := (members p).mp member
        obtain ⟨a, b, first, second, apart⟩ := examined.active
        exact ⟨a, b, (same p.first).trans first, (same p.second).trans second, apart⟩
      once := (holds.contents.map _).nodup_iff.mpr (nodup_filterMap_entryOf? _)
      entries := fun e => holds.contents.mem_iff.trans mem_filterMap_entryOf?_iff
      same := congr }

include idle silent in
/-- In a housed world, every active collider is in the broad phase after a frame. -/
theorem listed_update (housed : w.Housed) : ((update react dt).run w).state.Listed := by
  intro c
  have fresh := fresh_update react dt idle silent
  have moved : (w.moved dt).Housed := housed.of_colliders_eq rfl fun _ _ => Iff.rfl
  rw [active?_update react dt idle silent]
  constructor
  · rintro ⟨e, member, rfl⟩
    obtain ⟨shape, placed, _⟩ := (fresh.entries e).mp member
    exact active_of_placedShape placed
  · intro active
    obtain ⟨shape, box, placed, bounds⟩ := moved.exists_box active
    exact ⟨⟨box, c⟩, (fresh.entries ⟨box, c⟩).mpr ⟨shape, placed, bounds⟩, rfl⟩

end Frame

/-- **What a frame finds out is this frame's result alone.** In every run from the creation of a
world, a frame without a listener leaves behind its own results, whatever touching pairs and
whatever entries of the broad phase it started with. As long as callers leave the links of
colliders alone, its broad phase lists the active colliders. -/
theorem findings_of_frame [OrderedScalar α] (react : Reaction α L ρ) {settings : WorldSettings α}
    {start : World α L} (made : make settings = .ok start) (ops : List (Operation α L)) (dt : α)
    (silent : (after react ops start).listener = none) :
    let w := after react ops start
    let out := ((update react dt).run w).state
    Fresh react dt w out ∧ ((∀ m ∈ history react ops start, m.KeepsLinks) → out.Listed) := by
  intro w out
  have idle : w.updating = false := updating_after react ops (settles_of_make made).updating
  refine ⟨fresh_update react dt idle silent, fun kept => ?_⟩
  have housed : w.Housed := housed_of_passes react made ops (.inl ⟨rfl, rfl⟩) kept
  exact listed_update react dt idle silent housed

/-- Two bodies meet, and then one of them gets another collider in the place of the first. -/
def replacing : List (Operation Float32 Unit) :=
  [.createBody, .createBody, .createCollider ⟨0, 0⟩ .circle, .createCollider ⟨1, 0⟩ .rectangle,
    .update 0.5, .destroyCollider ⟨0, 0⟩, .createCollider ⟨0, 0⟩ .circle,
    .editBody ⟨1, 0⟩ fun b => { b with position := ⟨0.25, -2⟩ }]

theorem findings_of_frame_replacing :
    let start : World Float32 Unit := blank .standard
    let w := after passive replacing start
    let out := ((update passive 0.25).run w).state
    make .standard = .ok start ∧ w.listener = none ∧
      (∀ m ∈ history passive replacing start, m.KeepsLinks) ∧
      w.touching.toList = [.of ⟨0, 0⟩ ⟨1, 0⟩] ∧ out.touching.toList = [.of ⟨0, 1⟩ ⟨1, 0⟩] ∧
      Fresh passive 0.25 w out ∧ out.Listed := by
  intro start
  have made : make .standard = .ok start := rfl
  have silent : (after passive replacing start).listener = none := by decide +kernel
  have kept : ∀ m ∈ history passive replacing start, m.KeepsLinks := by decide +kernel
  obtain ⟨fresh, listed⟩ := findings_of_frame passive made replacing 0.25 silent
  exact ⟨made, silent, kept, by decide +kernel, by decide +kernel, fresh, listed kept⟩

end World

end PlanarDynamics
