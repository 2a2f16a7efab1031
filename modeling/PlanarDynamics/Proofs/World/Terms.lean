import PlanarDynamics.Proofs.Store.Renaming
import PlanarDynamics.Proofs.World.Books

/-!
# What a world keeps for its lifetime

Gravity and the number of slots to reserve may be set anew. Everything else that a world was told
when it was made stays: the other settings, the solver, the area and the limits of the broad phase,
the growth of the stores, and where the memory comes from (`World.SameTerms`). No operation and no
frame changes these terms (`World.sameTerms_perform`, `World.Drifts.sameTerms`), so every run keeps
them (`World.sameTerms_after`).
-/

set_option autoImplicit false

namespace PlanarDynamics

variable {α L ρ : Type}

namespace Memory

theorem reset_request (m : Memory) (r : Request) :
    (m.request r).state.reset.withoutTotals = m.reset.withoutTotals := by
  induction m with
  | heap used => rfl
  | linear capacity offset =>
      rw [request]
      split <;> rfl
  | metered name inner stats ih =>
      rw [request]
      cases (inner.request r).answer <;>
        simp only [reset, withoutTotals, ih] <;> rfl

theorem reset_giveBack (m : Memory) (r : Request) :
    (m.giveBack r).state.reset.withoutTotals = m.reset.withoutTotals := by
  induction m with
  | heap used => rfl
  | linear capacity offset => rfl
  | metered name inner stats ih =>
      simp only [giveBack, reset, withoutTotals, ih]
      rfl

theorem reset_returned (m : Memory) (blocks : List Request) :
    (m.returned blocks).reset.withoutTotals = m.reset.withoutTotals := by
  induction blocks generalizing m with
  | nil => rfl
  | cons block rest ih => exact (ih _).trans (m.reset_giveBack block)

theorem reset_reset (m : Memory) : m.reset.reset = m.reset := by
  induction m with
  | heap used => rfl
  | linear capacity offset => rfl
  | metered name inner stats ih => simp only [reset, ih]

end Memory

/-! ## Stores -/

namespace Arena

variable {k : StoreKind} {ε : Type} [Entity ε]

/-- The second arena grows like the first, and the memory behind it is of the same source. -/
structure SameTerms (x y : Memory × Arena k ε) : Prop where
  growth : y.2.growth = x.2.growth
  memory : y.1.reset.withoutTotals = x.1.reset.withoutTotals

theorem sameTerms_reserve (length : Nat) (x : Memory × Arena k ε) :
    SameTerms x ((reserve length).attempt.run x).state := by
  rw [run_reserve]
  split
  · cases blockFor? ε (length - x.2.capacity) with
    | none => exact ⟨rfl, rfl⟩
    | some block =>
        dsimp only
        cases (x.1.request block).answer with
        | ok _ => exact ⟨rfl, x.1.reset_request block⟩
        | error fault => exact ⟨rfl, x.1.reset_request block⟩
  · exact ⟨rfl, rfl⟩

theorem sameTerms_create (v : ε) (x : Memory × Arena k ε) :
    SameTerms x ((create v).attempt.run x).state := by
  rw [run_create]
  cases x.2.firstVacant? with
  | some i => exact ⟨rfl, rfl⟩
  | none =>
      have grown := sameTerms_reserve (nextLength x.2.capacity x.2.growth) x
      dsimp only
      cases ((reserve (nextLength x.2.capacity x.2.growth)).attempt.run x).answer with
      | ok _ => exact ⟨grown.growth, grown.memory⟩
      | error fault => exact grown

theorem growth_of_destroy {a b : Arena k ε} {h : Handle k} (done : a.destroy h = .ok b) :
    b.growth = a.growth := by
  obtain ⟨_, _, rfl⟩ := bind_pure_eq_ok_iff.mp done
  rfl

end Arena

namespace Shapes

/-- The pools of the second geometry grow like those of the first. -/
structure SameGrowth (s t : Shapes α) : Prop where
  circles : t.circles.arena.growth = s.circles.arena.growth
  rectangles : t.rectangles.arena.growth = s.rectangles.arena.growth
  polygons : t.polygons.arena.growth = s.polygons.arena.growth

theorem SameGrowth.refl (s : Shapes α) : s.SameGrowth s := ⟨rfl, rfl, rfl⟩

theorem SameGrowth.trans {s t u : Shapes α} (first : s.SameGrowth t) (second : t.SameGrowth u) :
    s.SameGrowth u :=
  ⟨second.circles.trans first.circles, second.rectangles.trans first.rectangles,
    second.polygons.trans first.polygons⟩

theorem sameGrowth_insert (shape : Shape α) (x : Memory × Shapes α) :
    let out := (insert shape).attempt.run x
    x.2.SameGrowth out.state.2 ∧ out.state.1.reset.withoutTotals = x.1.reset.withoutTotals := by
  have stored : ∀ {kind : ShapeKind} {γ : Type} [Geometry γ] (v : γ)
      (y : Memory × ShapePool kind γ), let out := (ShapePool.insert v).attempt.run y
      out.state.2.arena.growth = y.2.arena.growth ∧
        out.state.1.reset.withoutTotals = y.1.reset.withoutTotals := by
    intro kind γ _ v y
    have terms := Arena.sameTerms_create (some v) (y.1, y.2.arena)
    rw [ShapePool.run_insert]
    exact ⟨terms.growth, terms.memory⟩
  cases shape with
  | empty => exact ⟨.refl _, rfl⟩
  | circle c =>
      obtain ⟨growth, memory⟩ := stored c (x.1, x.2.circles)
      exact ⟨⟨growth, rfl, rfl⟩, memory⟩
  | rectangle r =>
      obtain ⟨growth, memory⟩ := stored r (x.1, x.2.rectangles)
      exact ⟨⟨rfl, growth, rfl⟩, memory⟩
  | polygon p =>
      obtain ⟨growth, memory⟩ := stored p (x.1, x.2.polygons)
      exact ⟨⟨rfl, rfl, growth⟩, memory⟩

theorem sameGrowth_remove {s t : Shapes α} {kind : ShapeKind} {i : Nat}
    (removed : s.remove kind i = .ok t) : s.SameGrowth t := by
  have freed : ∀ {kind : ShapeKind} {γ : Type} {p q : ShapePool kind γ}, p.remove i = .ok q →
      q.arena.growth = p.arena.growth := by
    intro kind γ p q freed
    obtain ⟨_, _, rfl⟩ := bind_pure_eq_ok_iff.mp freed
    rfl
  cases kind with
  | empty => exact Except.ok.inj removed ▸ .refl s
  | circle =>
      obtain ⟨q, done, rfl⟩ := bind_pure_eq_ok_iff.mp removed
      exact ⟨freed done, rfl, rfl⟩
  | rectangle =>
      obtain ⟨q, done, rfl⟩ := bind_pure_eq_ok_iff.mp removed
      exact ⟨rfl, freed done, rfl⟩
  | polygon =>
      obtain ⟨q, done, rfl⟩ := bind_pure_eq_ok_iff.mp removed
      exact ⟨rfl, rfl, freed done⟩

theorem sameGrowth_reshape {s t : Shapes α} {i : Nat} {r : Reshape α} {shape : Shape α}
    (changed : s.reshape i r = .ok (shape, t)) : s.SameGrowth t := by
  have written : ∀ {kind : ShapeKind} {γ : Type} {p q : ShapePool kind γ} {f : γ → γ},
      p.modify i f = .ok q → q.arena.growth = p.arena.growth := by
    intro kind γ p q f changed
    obtain ⟨v, _, rfl⟩ := bind_pure_eq_ok_iff.mp changed
    rfl
  cases r with
  | circle f =>
      obtain ⟨c, _, rest⟩ := bind_eq_ok_iff.mp changed
      obtain ⟨q, done, same⟩ := bind_pure_eq_ok_iff.mp rest
      exact (Prod.mk.inj same).2 ▸ ⟨written done, rfl, rfl⟩
  | rectangle f =>
      obtain ⟨c, _, rest⟩ := bind_eq_ok_iff.mp changed
      obtain ⟨q, done, same⟩ := bind_pure_eq_ok_iff.mp rest
      exact (Prod.mk.inj same).2 ▸ ⟨rfl, written done, rfl⟩
  | polygon f =>
      obtain ⟨c, _, rest⟩ := bind_eq_ok_iff.mp changed
      obtain ⟨q, done, same⟩ := bind_pure_eq_ok_iff.mp rest
      exact (Prod.mk.inj same).2 ▸ ⟨rfl, rfl, written done⟩

end Shapes

namespace World

/-! ## Worlds -/

/-- The second world has kept what the first was told, but for gravity and the slots to reserve. -/
structure SameTerms (v w : World α L) : Prop where
  settings : ∃ gravity slots,
    w.settings = { v.settings with gravity := gravity, bodySlots := slots }
  solver : w.solver = v.solver
  boundary : w.tree.boundary = v.tree.boundary
  limits : w.tree.settings = v.tree.settings
  bodies : w.bodies.growth = v.bodies.growth
  colliders : w.colliders.growth = v.colliders.growth
  shapes : v.shapes.SameGrowth w.shapes
  memory : w.memory.reset.withoutTotals = v.memory.reset.withoutTotals

theorem SameTerms.refl (w : World α L) : w.SameTerms w :=
  ⟨⟨_, _, rfl⟩, rfl, rfl, rfl, rfl, rfl, .refl _, rfl⟩

theorem SameTerms.trans {u v w : World α L} (first : u.SameTerms v) (second : v.SameTerms w) :
    u.SameTerms w where
  settings := by
    obtain ⟨_, _, same⟩ := first.settings
    obtain ⟨gravity, slots, same'⟩ := second.settings
    exact ⟨gravity, slots, by rw [same', same]⟩
  solver := second.solver.trans first.solver
  boundary := second.boundary.trans first.boundary
  limits := second.limits.trans first.limits
  bodies := second.bodies.trans first.bodies
  colliders := second.colliders.trans first.colliders
  shapes := first.shapes.trans second.shapes
  memory := second.memory.trans first.memory

variable [Scalar α] (w : World α L)

theorem Drifts.sameTerms {w w' : World α L} (drifts : w.Drifts w') : w.SameTerms w' where
  settings := ⟨w.settings.gravity, w.settings.bodySlots, by rw [drifts.rest]⟩
  solver := by rw [drifts.rest]
  boundary := drifts.boundary
  limits := drifts.limits
  bodies := drifts.outline.growth
  colliders := by rw [drifts.colliders]
  shapes := drifts.shapes ▸ .refl _
  memory := by rw [drifts.rest]

/-! ### Operations -/

theorem sameTerms_createBody :
    w.SameTerms ((createBody : Attempt α L ρ BodyRef).attempt.run w).state := by
  have terms := Arena.sameTerms_create (Body.standard : Body α) (w.memory, w.bodies)
  have same : w.SameTerms { w with
      memory := ((Arena.create Body.standard).attempt.run (w.memory, w.bodies)).state.1
      bodies := ((Arena.create Body.standard).attempt.run (w.memory, w.bodies)).state.2 } :=
    { SameTerms.refl w with bodies := terms.growth, memory := terms.memory }
  rw [run_createBody]
  dsimp only
  cases ((Arena.create Body.standard).attempt.run (w.memory, w.bodies)).answer with
  | ok b => exact same
  | error fault => exact same

theorem sameTerms_attach (b : BodyRef) (shape : Shape α) :
    w.SameTerms ((attach b shape : Attempt α L ρ ColliderRef).attempt.run w).state := by
  rw [run_attach]
  cases w.bodies.get b with
  | error fault => exact .refl w
  | ok body =>
      let put := (Shapes.insert shape).attempt.run (w.memory, w.shapes)
      let w₁ : World α L := { w with memory := put.state.1, shapes := put.state.2 }
      obtain ⟨shapes, memory⟩ := Shapes.sameGrowth_insert shape (w.memory, w.shapes)
      have first : w.SameTerms w₁ := { SameTerms.refl w with shapes := shapes, memory := memory }
      dsimp only
      cases ((Shapes.insert shape).attempt.run (w.memory, w.shapes)).answer with
      | error fault => exact first
      | ok place =>
          let made := (Arena.create (Collider.make b shape.kind place)).attempt.run
            (w₁.memory, w₁.colliders)
          let w₂ : World α L := { w₁ with memory := made.state.1, colliders := made.state.2 }
          have terms := Arena.sameTerms_create (Collider.make b shape.kind place)
            (w₁.memory, w₁.colliders)
          have second : w.SameTerms w₂ :=
            { first with colliders := terms.growth, memory := terms.memory.trans first.memory }
          dsimp only
          cases ((Arena.create (Collider.make b shape.kind place)).attempt.run
            (((Shapes.insert shape).attempt.run (w.memory, w.shapes)).state.1,
              w.colliders)).answer with
          | error fault =>
              dsimp only
              cases removed : w₂.shapes.remove shape.kind place with
              | ok shapes =>
                  exact { second with
                    shapes := second.shapes.trans (Shapes.sameGrowth_remove removed) }
              | error missing => exact second
          | ok c =>
              dsimp only
              cases told : w₂.colliders.modify c fun collider => { collider with self := c } with
              | ok colliders =>
                  obtain ⟨_, _, rfl⟩ := bind_pure_eq_ok_iff.mp told
                  exact { second with colliders := second.colliders }
              | error missing => exact second

theorem sameTerms_destroyCollider (c : ColliderRef) :
    w.SameTerms ((destroyCollider c : Attempt α L ρ Unit).attempt.run w).state := by
  rw [run_destroyCollider]
  split
  · rename_i collider colliders _ done
    have growth := Arena.growth_of_destroy done
    cases removed : w.shapes.remove collider.kind collider.place with
    | ok shapes =>
        exact { SameTerms.refl w with
          colliders := growth, shapes := Shapes.sameGrowth_remove removed }
    | error missing => exact { SameTerms.refl w with colliders := growth }
  · exact .refl w
  · exact .refl w

omit [Scalar α] in
theorem sameTerms_reshapeAt (i : Nat) (r : Reshape α) :
    w.SameTerms ((reshapeAt i r : Attempt α L ρ (Shape α)).attempt.run w).state := by
  rw [run_reshapeAt]
  cases changed : w.shapes.reshape i r with
  | ok made => exact { SameTerms.refl w with shapes := Shapes.sameGrowth_reshape changed }
  | error fault => exact .refl w

theorem sameTerms_reshape (c : ColliderRef) (r : Reshape α) :
    w.SameTerms ((reshape c r : Attempt α L ρ (Shape α)).attempt.run w).state := by
  rw [run_reshape]
  cases w.colliders.get c with
  | error fault => exact .refl w
  | ok v =>
      dsimp only
      split
      · exact w.sameTerms_reshapeAt v.place r
      · exact .refl w

theorem sameTerms_reserveSlots :
    w.SameTerms ((reserveSlots : Attempt α L ρ Unit).attempt.run w).state := by
  let first := (Arena.reserve w.settings.bodySlots).attempt.run (w.memory, w.bodies)
  let w₁ : World α L := { w with memory := first.state.1, bodies := first.state.2 }
  have terms := Arena.sameTerms_reserve w.settings.bodySlots (w.memory, w.bodies)
  have bodies : w.SameTerms w₁ :=
    { SameTerms.refl w with bodies := terms.growth, memory := terms.memory }
  have terms' := Arena.sameTerms_reserve w.settings.colliderSlots (w₁.memory, w₁.colliders)
  simp only [reserveSlots, Fallible.run_bind, Fallible.run_get, Fallible.run_mk, onBodies,
    onColliders, Recorded.run_zoom, Outcome.after_nil]
  cases ((Arena.reserve w.settings.bodySlots).attempt.run (w.memory, w.bodies)).answer with
  | error fault => exact bodies
  | ok _ =>
      exact { bodies with colliders := terms'.growth, memory := terms'.memory.trans bodies.memory }

omit [Scalar α] in
theorem sameTerms_vacate : w.SameTerms ((vacate : Action α L ρ Unit).run w).state := by
  rw [state_vacate_eq]
  exact
    { SameTerms.refl w with
      boundary := rfl
      limits := rfl
      bodies := rfl
      colliders := rfl
      shapes := ⟨rfl, rfl, rfl⟩
      memory := by
        dsimp only
        rw [Memory.reset_reset, Memory.reset_returned] }

omit [Scalar α] in
theorem sameTerms_emptied (gravity : Vector2 α) (slots : Int) :
    w.SameTerms (w.emptied gravity slots) := by
  have vacated := w.sameTerms_vacate (ρ := Unit)
  obtain ⟨_, _, settings⟩ := vacated.settings
  exact { vacated with settings := ⟨gravity, slots.toNat, by rw [emptied, settings]⟩ }

/-- **No operation changes the terms of a world.** -/
theorem sameTerms_perform (op : Operation α L) :
    w.SameTerms ((op.perform (refuseUpdate : α → Action α L ρ Unit)).run w).state := by
  cases op with
  | createBody => exact w.sameTerms_createBody
  | attach b shape => exact w.sameTerms_attach b shape
  | createCollider b kind =>
      dsimp only [Operation.perform, createCollider]
      split
      · exact .refl w
      · exact w.sameTerms_attach b _
  | vacate => exact w.sameTerms_vacate
  | restart gravity slots =>
      dsimp only [Operation.perform]
      rw [(run_restart gravity slots w).2]
      exact (w.sameTerms_emptied gravity slots).trans (sameTerms_reserveSlots _)
  | destroyBody b =>
      dsimp only [Operation.perform]
      rw [run_destroyBody]
      cases done : w.bodies.destroy b with
      | ok bodies => exact { SameTerms.refl w with bodies := Arena.growth_of_destroy done }
      | error fault => exact .refl w
  | editBody b f =>
      dsimp only [Operation.perform]
      rw [run_editBody]
      cases w.bodies.get b with
      | ok body => exact { SameTerms.refl w with bodies := rfl }
      | error fault => exact .refl w
  | destroyCollider c => exact w.sameTerms_destroyCollider c
  | editCollider c f =>
      dsimp only [Operation.perform]
      rw [run_editCollider]
      cases w.colliders.get c with
      | ok collider => exact { SameTerms.refl w with colliders := rfl }
      | error fault => exact .refl w
  | reshapeAt i r => exact w.sameTerms_reshapeAt i r
  | reshape c r => exact w.sameTerms_reshape c r
  | setGravity gravity => exact { SameTerms.refl w with settings := ⟨gravity, _, rfl⟩ }
  | installListener _ | removeListener => exact { SameTerms.refl w with settings := ⟨_, _, rfl⟩ }
  | look | update _ => exact .refl w

/-- **Every run keeps the terms of its world.** -/
theorem sameTerms_after (react : Reaction α L ρ) (ops : List (Operation α L)) (start : World α L) :
    start.SameTerms (after react ops start) := by
  have kept : KeptByOperations (fun _ : Moment α L ρ => True) start.SameTerms :=
    fun w op _ same => same.trans (w.sameTerms_perform op)
  have throughout := throughout_history kept (fun _ _ drifts same => same.trans drifts.sameTerms)
    (fun w _ same => { same with settings := same.settings }) react ops (.refl start)
  exact throughout _ _ (.inl ⟨rfl, rfl⟩) fun _ _ => trivial

end World

end PlanarDynamics
