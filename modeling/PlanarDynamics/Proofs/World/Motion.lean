import PlanarDynamics.Proofs.World.Unheard

/-!
# What frames may touch

Frames without a listener change the bodies, the broad phase and the touching pairs, and leave the
rest of the world as it is (`World.OnlyMoves`). Every body stays under its handle and keeps its
mass and its kind. A fixed body does not move. A moving body follows gravity and its force alone
unless it collides: a contact acts on the two bodies of a solid pair and on nothing else
(`World.nudged_foldl_parted`). This is so for any number of frames (`World.carried_by_frames`).
-/

set_option autoImplicit false

namespace PlanarDynamics

variable {α L ρ : Type} [Scalar α]

/-- What frames of the given lengths do to a body. When it is free it only follows gravity and its
force. -/
structure Body.Carried (gravity : Vector2 α) (dts : List α) (free : Prop) (v u : Body α) :
    Prop where
  mass : u.mass = v.mass
  kind : u.kind = v.kind
  force : dts ≠ [] → u.force = 0
  fixed : v.kind = .fixed → u.position = v.position ∧ u.velocity = v.velocity
  follows : free → u = dts.foldl (fun b dt => b.step gravity dt) v

namespace World

/-- A solid pair with the body is examined and in contact. -/
def Collides (items : List ColliderPair) (w : World α L) (b : BodyRef) : Prop :=
  ∃ p x c, Examined items w p x ∧ x.isTrigger = false ∧ x.meeting = .contact c ∧
    (b = x.bodyA ∨ b = x.bodyB)

/-- What frames leave alone. -/
structure OnlyMoves (w out : World α L) : Prop where
  /-- Settings, memory, colliders, geometry, solver and listener are the same. -/
  rest : out = { w with bodies := out.bodies, tree := out.tree, touching := out.touching }
  bodies : w.bodies.SameOutline out.bodies
  boundary : out.tree.boundary = w.tree.boundary
  limits : out.tree.settings = w.tree.settings

/-! ## Contacts -/

section Contacts

variable {w : World α L} {p : ColliderPair} {rest items : List ColliderPair} {b : BodyRef}
  {v : Body α}

theorem collides_cons : Collides (p :: rest) w b ↔
    (∃ x c, w.collision? p = some (x, c) ∧ (b = x.bodyA ∨ b = x.bodyB)) ∨
      Collides rest (w.parted p) b := by
  constructor
  · rintro ⟨q, x, c, examined, solid, contact, takesPart⟩
    rcases examined_cons.mp examined with ⟨rfl, known⟩ | later
    · exact .inl ⟨x, c, collision?_eq_some_iff.mpr ⟨known, solid, contact⟩, takesPart⟩
    · exact .inr ⟨q, x, c, later, solid, contact, takesPart⟩
  · rintro (⟨x, c, collides, takesPart⟩ | ⟨q, x, c, later, rest⟩)
    · obtain ⟨known, solid, contact⟩ := collision?_eq_some_iff.mp collides
      exact ⟨p, x, c, examined_cons.mpr (.inl ⟨rfl, known⟩), solid, contact, takesPart⟩
    · exact ⟨q, x, c, examined_cons.mpr (.inr later), rest⟩

instance decidableCollides : (items : List ColliderPair) → (w : World α L) → (b : BodyRef) →
    Decidable (Collides items w b)
  | [], _, _ => .isFalse fun ⟨_, _, _, examined, _⟩ => not_examined_nil examined
  | p :: rest, w, b =>
      have : Decidable (Collides rest (w.parted p) b) := decidableCollides rest _ b
      match collides : w.collision? p with
      | some (x, c) =>
          decidable_of_iff ((b = x.bodyA ∨ b = x.bodyB) ∨ Collides rest (w.parted p) b) <| by
            simp [collides_cons, collides]
      | none => decidable_of_iff (Collides rest (w.parted p) b) <| by
          simp [collides_cons, collides]

/-- Resolving the contact of a pair nudges its two bodies and no other. -/
theorem nudged_parted (found : w.bodies.get b = .ok v) : ∃ u, (w.parted p).bodies.get b = .ok u ∧
    v.Nudged u ∧
      ((¬ ∃ x c, w.collision? p = some (x, c) ∧ (b = x.bodyA ∨ b = x.bodyB)) → u = v) := by
  rcases parted_cases w p with same | ⟨x, c, y, z, y', z', collides, first, second, apart, nudged,
    nudged', same⟩
  · rw [same]
    exact ⟨v, found, .refl v, fun _ => rfl⟩
  · have live := nudged.isLive.trans (Arena.get_eq_ok_iff.mp first).2
    have live' := nudged'.isLive.trans (Arena.get_eq_ok_iff.mp second).2
    have there := (Arena.get_write_of_ne (u := y') (Ne.symm apart)).mpr second
    rw [same]
    by_cases isFirst : b = x.bodyA
    · subst isFirst
      obtain rfl := Except.ok.inj (first.symm.trans found)
      exact ⟨y', (Arena.get_write_of_ne apart).mpr (Arena.get_write_of_get first live), nudged,
        fun free => absurd ⟨x, c, collides, .inl rfl⟩ free⟩
    · by_cases isSecond : b = x.bodyB
      · subst isSecond
        obtain rfl := Except.ok.inj (second.symm.trans found)
        exact ⟨z', Arena.get_write_of_get there live', nudged',
          fun free => absurd ⟨x, c, collides, .inr rfl⟩ free⟩
      · have kept := (Arena.get_write_iff first live).mpr (.inr ⟨isFirst, found⟩)
        exact ⟨v, (Arena.get_write_iff there live').mpr (.inr ⟨isSecond, kept⟩), .refl v,
          fun _ => rfl⟩

/-- **Contacts nudge the bodies that collide and no other.** -/
theorem nudged_foldl_parted (found : w.bodies.get b = .ok v) :
    ∃ u, (items.foldl parted w).bodies.get b = .ok u ∧ v.Nudged u ∧
      (¬ Collides items w b → u = v) := by
  induction items generalizing w v with
  | nil => exact ⟨v, found, .refl v, fun _ => rfl⟩
  | cons p rest ih =>
      obtain ⟨u, there, nudged, free⟩ := nudged_parted (p := p) found
      obtain ⟨u', there', nudged', free'⟩ := ih there
      refine ⟨u', there', nudged.trans nudged', fun apart => ?_⟩
      rw [collides_cons, not_or] at apart
      exact (free' apart.2).trans (free apart.1)

end Contacts

/-! ## Frames -/

section Frames

variable (react : Reaction α L ρ) {w : World α L}

/-- One frame steps every body, and contacts nudge it afterwards. -/
theorem nudged_update (dt : α) (idle : w.updating = false) (silent : w.listener = none)
    {b : BodyRef} {v : Body α} (found : w.bodies.get b = .ok v) :
    ∃ u, ((update react dt).run w).state.bodies.get b = .ok u ∧
      (v.step w.settings.gravity dt).Nudged u ∧
        (¬ Collides (w.due dt) (w.moved dt) b → u = v.step w.settings.gravity dt) := by
  obtain ⟨touching, state, _⟩ := state_update_unheard react dt idle silent
  have stepped : (w.moved dt).bodies.get b = .ok (v.step w.settings.gravity dt) :=
    (Arena.get_mapLive_iff fun u => Body.isLive_step u _ dt).mpr ⟨v, found, rfl⟩
  rw [state]
  exact nudged_foldl_parted stepped

/-- One frame changes the bodies, the broad phase and the touching pairs at most. -/
theorem onlyMoves_update (dt : α) (idle : w.updating = false) (silent : w.listener = none) :
    w.OnlyMoves ((update react dt).run w).state := by
  obtain ⟨touching, state, _⟩ := state_update_unheard react dt idle silent
  obtain ⟨boundary, limits⟩ := QuadTree.frame_map_insert (w.moved dt).tree.clear
    ((w.moved dt).colliders.entries.filterMap (w.moved dt).entryOf?)
  rw [state]
  exact
    { rest := rfl
      bodies := (sameOutline_moved w dt).trans (sameOutline_foldl_parted _ _)
      boundary := boundary
      limits := limits }

theorem OnlyMoves.refl (w : World α L) : w.OnlyMoves w := ⟨rfl, .refl _, rfl, rfl⟩

theorem OnlyMoves.trans {u v : World α L} (first : u.OnlyMoves v) (second : v.OnlyMoves w) :
    u.OnlyMoves w where
  rest := by
    rw [second.rest, first.rest]
  bodies := first.bodies.trans second.bodies
  boundary := second.boundary.trans first.boundary
  limits := second.limits.trans first.limits

/-- The body collides in none of the frames that start in the given world. -/
def Free : List α → World α L → BodyRef → Prop
  | [], _, _ => True
  | dt :: rest, w, b =>
      ¬ Collides (w.due dt) (w.moved dt) b ∧ Free rest ((update react dt).run w).state b

instance decidableFree : (dts : List α) → (w : World α L) → (b : BodyRef) →
    Decidable (Free react dts w b)
  | [], _, _ => .isTrue trivial
  | dt :: rest, w, b =>
      have : Decidable (Free react rest ((update react dt).run w).state b) := decidableFree rest _ b
      inferInstanceAs (Decidable (_ ∧ _))

/-- **What frames without a listener do.** -/
theorem carried_after (dts : List α) (idle : w.updating = false) (silent : w.listener = none) :
    let out := after react (dts.map .update) w
    w.OnlyMoves out ∧ ∀ b v, w.bodies.get b = .ok v → ∃ u, out.bodies.get b = .ok u ∧
      v.Carried w.settings.gravity dts (Free react dts w b) u := by
  induction dts generalizing w with
  | nil =>
      refine ⟨.refl w, fun b v found => ⟨v, found, ?_⟩⟩
      exact ⟨rfl, rfl, fun some => absurd rfl some, fun _ => ⟨rfl, rfl⟩, fun _ => rfl⟩
  | cons dt rest ih =>
      have first : w.OnlyMoves ((update react dt).run w).state :=
        onlyMoves_update react dt idle silent
      have idle' : ((update react dt).run w).state.updating = false := by
        rw [first.rest]
        exact idle
      have silent' : ((update react dt).run w).state.listener = none := by
        rw [first.rest]
        exact silent
      have gravity : ((update react dt).run w).state.settings.gravity = w.settings.gravity := by
        rw [first.rest]
      obtain ⟨second, bodies⟩ := ih idle' silent'
      refine ⟨first.trans second, fun b v found => ?_⟩
      obtain ⟨t, there, nudged, free⟩ := nudged_update react dt idle silent found
      obtain ⟨u, there', carried⟩ := bodies b t there
      rw [gravity] at carried
      refine ⟨u, there', ?_⟩
      constructor
      case mass => exact carried.mass.trans (nudged.mass.trans (v.mass_step _ dt))
      case kind => exact carried.kind.trans (nudged.kind.trans (v.kind_step _ dt))
      case force =>
        intro _
        cases rest with
        | nil =>
            rw [carried.follows trivial]
            exact nudged.force.trans (v.force_step _ dt)
        | cons _ _ => exact carried.force nofun
      case fixed =>
        intro fixed
        have still : t = v.clearForce :=
          (nudged.fixed ((v.kind_step _ dt).trans fixed)).trans (Body.step_of_isFixed fixed _ dt)
        obtain ⟨position, velocity⟩ := carried.fixed (by rw [still]; exact fixed)
        rw [still] at position velocity
        exact ⟨position, velocity⟩
      case follows =>
        rintro ⟨here, later⟩
        rw [carried.follows later, free here]
        rfl

end Frames

/-- **What frames may touch.** In every run from the creation of a world, any number of frames
without a listener change only the bodies, the broad phase and the touching pairs. Every body stays
under its handle and keeps its mass and its kind, its force is used up, and a fixed body stays in
place. A body that does not collide goes where gravity and its force take it. -/
theorem carried_by_frames [OrderedScalar α] (react : Reaction α L ρ) {settings : WorldSettings α}
    {start : World α L} (made : make settings = .ok start) (ops : List (Operation α L))
    (silent : (after react ops start).listener = none) (dts : List α) :
    let w := after react ops start
    let out := after react (dts.map .update) w
    w.OnlyMoves out ∧ ∀ b v, w.bodies.get b = .ok v → ∃ u, out.bodies.get b = .ok u ∧
      v.Carried w.settings.gravity dts (Free react dts w b) u :=
  carried_after react dts (updating_after react ops (settles_of_make made).updating) silent

/-- Two boxes that overlap, one of them fixed, and a body far away that is pushed. -/
def pushing : List (Operation Float32 Unit) :=
  [.createBody, .createBody, .createBody, .createCollider ⟨0, 0⟩ .rectangle,
    .createCollider ⟨1, 0⟩ .rectangle, .editBody ⟨0, 0⟩ fun b => { b with kind := .fixed },
    .editBody ⟨1, 0⟩ fun b => { b with position := ⟨0.25, 0.5⟩ },
    .editBody ⟨2, 0⟩ fun b => { b with position := ⟨64, 0⟩, force := ⟨1, 0⟩ }]

theorem carried_by_frames_pushing :
    let start : World Float32 Unit := blank .standard
    let w := after passive pushing start
    let dts := [0.25, 0.5]
    make .standard = .ok start ∧ w.listener = none ∧ ¬ Free passive dts w ⟨1, 0⟩ ∧
      Free passive dts w ⟨2, 0⟩ ∧ w.OnlyMoves (after passive (dts.map .update) w) ∧
      ∀ b v, w.bodies.get b = .ok v →
        ∃ u, (after passive (dts.map .update) w).bodies.get b = .ok u ∧
          v.Carried w.settings.gravity dts (Free passive dts w b) u := by
  intro start
  have made : make .standard = .ok start := rfl
  have silent : (after passive pushing start).listener = none := by decide +kernel
  obtain ⟨moves, bodies⟩ := carried_by_frames passive made pushing silent [0.25, 0.5]
  exact ⟨made, silent, by decide +kernel, by decide +kernel, moves, bodies⟩

end World

end PlanarDynamics
