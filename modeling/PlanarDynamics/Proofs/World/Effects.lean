import PlanarDynamics.Proofs.Scalar.Comparison
import PlanarDynamics.Proofs.Store.Ledger
import PlanarDynamics.Proofs.World.Quiet

/-!
# What operations do to a world

An operation issues at most one handle, that of the entity it creates, and discards at most one,
that of an entity it changes in place into one that is not live. Apart from that every body and
every collider stays as it is, is changed as the operation says, or has its handle retired. This
and what becomes of the touching pairs and of the broad phase is the `Operation.Effect` of an
operation, and `Operation.effect_perform` shows it for each of them.
-/

set_option autoImplicit false

namespace PlanarDynamics

variable {α L ρ : Type} [Scalar α]

namespace Operation

/-! ## Issued and discarded handles -/

omit [Scalar α] in
/-- The body that an operation has created. -/
def issuedBody? : (op : Operation α L) → op.Answer → Option BodyRef
  | .createBody, .ok b => some b
  | _, _ => none

omit [Scalar α] in
/-- The collider that an operation has created. -/
def issuedCollider? : (op : Operation α L) → op.Answer → Option ColliderRef
  | .createCollider _ _, .ok c => some c
  | .attach _ _, .ok c => some c
  | _, _ => none

/-- The body that an operation has changed into one that is not live. -/
def discardedBody? : (op : Operation α L) → op.Answer → Option BodyRef
  | .editBody b _, .ok body => if body.isLive then none else some b
  | _, _ => none

/-- The collider that an operation has changed into one that is not live. -/
def discardedCollider? : (op : Operation α L) → op.Answer → Option ColliderRef
  | .editCollider c _, .ok collider => if collider.isLive then none else some c
  | _, _ => none

omit [Scalar α] in
/-- What an operation makes of a body that it does not create or destroy. -/
def bodyEdit : Operation α L → BodyRef → Body α → Body α
  | .editBody b f => fun h v => if h = b then f v else v
  | _ => fun _ v => v

omit [Scalar α] in
/-- What an operation makes of a collider that it does not create or destroy. -/
def colliderEdit : Operation α L → ColliderRef → Collider α → Collider α
  | .editCollider c f => fun h v => if h = c then f v else v
  | _ => fun _ v => v

/-- What an operation with an answer has done to a world. -/
structure Effect (op : Operation α L) (answer : op.Answer) (w w' : World α L) : Prop where
  bodies : w.bodies.Evolves (fun h v u => u = op.bodyEdit h v) w'.bodies (op.issuedBody? answer)
    (op.discardedBody? answer)
  colliders : w.colliders.Evolves (fun h v u => u = op.colliderEdit h v) w'.colliders
    (op.issuedCollider? answer) (op.discardedCollider? answer)
  /-- A new collider is solid and belongs to a live body. -/
  attached : ∀ c ∈ op.issuedCollider? answer, ∃ v, w'.colliders.get c = .ok v ∧
    v.isTrigger = false ∧ w'.bodies.contains v.body = true
  /-- The touching pairs are only ever forgotten together with all colliders. -/
  touching : w'.touching = w.touching ∨
    w'.touching = .empty ∧ ∀ c v, w.colliders.get c = .ok v → w'.colliders.Retired c
  /-- Between frames the broad phase is emptied at most. -/
  tree : w'.tree = w.tree ∨ w'.tree = w.tree.clear
  updating : w'.updating = w.updating

end Operation

/-- An operation that changes no store has no effect. -/
theorem Operation.Effect.of_unchanged {op : Operation α L} {answer : op.Answer} {w w' : World α L}
    (same : w'.bodies = w.bodies ∧ w'.colliders = w.colliders ∧ w'.touching = w.touching ∧
      w'.tree = w.tree ∧ w'.updating = w.updating)
    (noBody : op.issuedBody? answer = none ∧ op.discardedBody? answer = none)
    (noCollider : op.issuedCollider? answer = none ∧ op.discardedCollider? answer = none)
    (noEdit : ∀ h v, w.bodies.get h = .ok v → op.bodyEdit h v = v)
    (noEdit' : ∀ h v, w.colliders.get h = .ok v → op.colliderEdit h v = v) :
    op.Effect answer w w' where
  bodies := by
    rw [noBody.1, noBody.2, same.1]
    exact Arena.evolves_self fun h v found => (noEdit h v found).symm
  colliders := by
    rw [noCollider.1, noCollider.2, same.2.1]
    exact Arena.evolves_self fun h v found => (noEdit' h v found).symm
  attached := by
    rw [noCollider.1]
    exact nofun
  touching := .inl same.2.2.1
  tree := .inl same.2.2.2.1
  updating := same.2.2.2.2

namespace World

/-! ## Bodies -/

theorem run_createBody (w : World α L) :
    (createBody : Attempt α L ρ BodyRef).attempt.run w =
      let made := (Arena.create Body.standard).attempt.run (w.memory, w.bodies)
      let next := { w with memory := made.state.1, bodies := made.state.2 }
      match made.answer with
      | .ok b => ⟨.ok b, next, made.notes.map (.log ∘ .store) ++ [.log (.createdBody b)]⟩
      | .error fault => ⟨.error fault, next, made.notes.map (.log ∘ .store)⟩ := by
  simp only [createBody, Fallible.run_bind, Fallible.run_mk, onBodies, Recorded.run_zoom]
  cases ((Arena.create Body.standard).attempt.run (w.memory, w.bodies)).answer <;> rfl

theorem run_destroyBody (b : BodyRef) (w : World α L) :
    (destroyBody b : Attempt α L ρ Unit).attempt.run w =
      match w.bodies.destroy b with
      | .ok bodies => ⟨.ok (), { w with bodies := bodies }, [.log (.destroyedBody b)]⟩
      | .error fault => ⟨.error fault, w, []⟩ := by
  simp only [destroyBody, Fallible.run_bind, Fallible.run_get, Fallible.run_ofExcept,
    Outcome.after_nil]
  cases w.bodies.destroy b <;> rfl

theorem run_editBody (b : BodyRef) (f : Body α → Body α) (w : World α L) :
    (editBody b f : Attempt α L ρ (Body α)).attempt.run w =
      match w.bodies.get b with
      | .ok body => ⟨.ok (f body), { w with bodies := w.bodies.write b.index (f body) }, []⟩
      | .error fault => ⟨.error fault, w, []⟩ := by
  simp only [editBody, Arena.modify, Fallible.run_bind, Fallible.run_get, Fallible.run_ofExcept,
    Outcome.after_nil]
  cases w.bodies.get b <;> rfl

theorem effect_createBody [OrderedScalar α] (w : World α L) :
    let out := (createBody : Attempt α L ρ BodyRef).attempt.run w
    (Operation.createBody : Operation α L).Effect out.answer w out.state := by
  have live : Entity.isLive (Body.standard : Body α) = true :=
    decide_eq_true OrderedScalar.zero_lt_one
  rw [run_createBody]
  dsimp only
  cases made : ((Arena.create Body.standard).attempt.run (w.memory, w.bodies)).answer with
  | ok b =>
      exact
        { bodies := ((Arena.create_fills made).evolves live).mono fun _ _ _ same => same.symm
          colliders := (Arena.Keeps.refl _).evolves.mono fun _ _ _ same => same.symm
          attached := nofun
          touching := .inl rfl
          tree := .inl rfl
          updating := rfl }
  | error fault =>
      exact .of_unchanged ⟨Arena.create_refused made, rfl, rfl, rfl, rfl⟩ ⟨rfl, rfl⟩ ⟨rfl, rfl⟩
        (fun _ _ _ => rfl) fun _ _ _ => rfl

theorem effect_destroyBody (b : BodyRef) (w : World α L) :
    let out := (destroyBody b : Attempt α L ρ Unit).attempt.run w
    (Operation.destroyBody b : Operation α L).Effect out.answer w out.state := by
  rw [run_destroyBody]
  dsimp only
  cases done : w.bodies.destroy b with
  | ok bodies =>
      exact
        { bodies := (Arena.evolves_destroy done).mono fun _ _ _ same => same.symm
          colliders := (Arena.Keeps.refl _).evolves.mono fun _ _ _ same => same.symm
          attached := nofun
          touching := .inl rfl
          tree := .inl rfl
          updating := rfl }
  | error fault =>
      exact .of_unchanged ⟨rfl, rfl, rfl, rfl, rfl⟩ ⟨rfl, rfl⟩ ⟨rfl, rfl⟩ (fun _ _ _ => rfl)
        fun _ _ _ => rfl

theorem effect_editBody (b : BodyRef) (f : Body α → Body α) (w : World α L) :
    let out := (editBody b f : Attempt α L ρ (Body α)).attempt.run w
    (Operation.editBody b f : Operation α L).Effect out.answer w out.state := by
  rw [run_editBody]
  dsimp only
  cases found : w.bodies.get b with
  | ok body =>
      exact
        { bodies := Arena.evolves_modify found (if_pos rfl).symm
            (fun _ other _ => (if_neg other).symm) (by simp only [Arena.modify, found]; rfl)
          colliders := (Arena.Keeps.refl _).evolves.mono fun _ _ _ same => same.symm
          attached := nofun
          touching := .inl rfl
          tree := .inl rfl
          updating := rfl }
  | error fault =>
      refine .of_unchanged ⟨rfl, rfl, rfl, rfl, rfl⟩ ⟨rfl, rfl⟩ ⟨rfl, rfl⟩ ?_ fun _ _ _ => rfl
      intro h v there
      refine if_neg fun same => ?_
      subst same
      rw [found] at there
      cases there

/-! ## Colliders -/

theorem run_attach (b : BodyRef) (shape : Shape α) (w : World α L) :
    (attach b shape : Attempt α L ρ ColliderRef).attempt.run w =
      match w.bodies.get b with
      | .error fault => ⟨.error fault, w, []⟩
      | .ok _ =>
        let put := (Shapes.insert shape).attempt.run (w.memory, w.shapes)
        let w₁ := { w with memory := put.state.1, shapes := put.state.2 }
        match put.answer with
        | .error fault => ⟨.error fault, w₁, put.notes.map (.log ∘ .store)⟩
        | .ok place =>
          let made := (Arena.create (Collider.make b shape.kind place)).attempt.run
            (w₁.memory, w₁.colliders)
          let w₂ := { w₁ with memory := made.state.1, colliders := made.state.2 }
          let notes := put.notes.map (.log ∘ .store) ++ made.notes.map (.log ∘ .store)
          match made.answer with
          | .error fault =>
            match w₂.shapes.remove shape.kind place with
            | .ok shapes => ⟨.error fault, { w₂ with shapes := shapes }, notes⟩
            | .error missing => ⟨.error missing, w₂, notes⟩
          | .ok c =>
            match w₂.colliders.modify c fun collider => { collider with self := c } with
            | .ok colliders => ⟨.ok c, { w₂ with colliders := colliders },
                notes ++ [.log (.createdCollider c shape.kind place b)]⟩
            | .error missing => ⟨.error missing, w₂, notes⟩ := by
  simp only [attach, Fallible.run_bind, Fallible.run_get, Fallible.run_ofExcept, Fallible.run_mk,
    Fallible.run_always, onShapes, onColliders, Recorded.run_zoom, Outcome.after_nil]
  cases w.bodies.get b with
  | error fault => rfl
  | ok _ =>
      dsimp only
      cases ((Shapes.insert shape).attempt.run (w.memory, w.shapes)).answer with
      | error fault => rfl
      | ok place =>
          dsimp only
          cases ((Arena.create (Collider.make b shape.kind place)).attempt.run
            (((Shapes.insert shape).attempt.run (w.memory, w.shapes)).state.1, w.colliders)).answer
            with
          | error fault =>
              simp only [Fallible.run_bind, Fallible.run_get, Fallible.run_ofExcept,
                Outcome.after_nil]
              split <;> rename_i removed <;> simp [removed]
          | ok c =>
              simp only [Fallible.run_bind, Fallible.run_get, Fallible.run_ofExcept,
                Outcome.after_nil]
              split <;> rename_i edited <;> simp [edited]

/-- Attaching a collider touches the memory, the colliders and the geometry only. -/
theorem state_attach (b : BodyRef) (shape : Shape α) (w : World α L) : ∃ memory colliders shapes,
    ((attach b shape : Attempt α L ρ ColliderRef).attempt.run w).state =
      { w with memory := memory, colliders := colliders, shapes := shapes } := by
  rw [run_attach]
  split
  case h_1 => exact ⟨_, _, _, rfl⟩
  case h_2 =>
    dsimp only
    split
    case h_1 => exact ⟨_, _, _, rfl⟩
    case h_2 =>
      split
      case h_1 => split <;> exact ⟨_, _, _, rfl⟩
      case h_2 => split <;> exact ⟨_, _, _, rfl⟩

omit [Scalar α] in
/-- Only shapes of a kind are stored. -/
theorem kind_of_insert {shape : Shape α} {s : Memory × Shapes α} {place : Nat}
    (stored : ((Shapes.insert shape).attempt.run s).answer = .ok place) : shape.kind ≠ .empty := by
  cases shape with
  | empty => cases stored
  | circle _ | rectangle _ | polygon _ => exact nofun

/-- Attaching a collider creates one that knows its handle, or leaves the colliders as they are. -/
theorem attach_spec (b : BodyRef) (shape : Shape α) (w : World α L) :
    let out := (attach b shape : Attempt α L ρ ColliderRef).attempt.run w
    (out.state.bodies = w.bodies ∧ out.state.touching = w.touching ∧ out.state.tree = w.tree ∧
      out.state.updating = w.updating) ∧
      match out.answer with
      | .ok c => (∃ v, w.bodies.get b = .ok v) ∧ shape.kind ≠ .empty ∧ ∃ place,
          w.colliders.Fills { Collider.make b shape.kind place with self := c } c
            out.state.colliders
      | .error _ => out.state.colliders = w.colliders := by
  rw [run_attach]
  dsimp only
  cases held : w.bodies.get b with
  | error fault => exact ⟨⟨rfl, rfl, rfl, rfl⟩, rfl⟩
  | ok v =>
      dsimp only
      cases stored : ((Shapes.insert shape).attempt.run (w.memory, w.shapes)).answer with
      | error fault => exact ⟨⟨rfl, rfl, rfl, rfl⟩, rfl⟩
      | ok place =>
          dsimp only
          cases made : ((Arena.create (Collider.make b shape.kind place)).attempt.run
            (((Shapes.insert shape).attempt.run (w.memory, w.shapes)).state.1, w.colliders)).answer
            with
          | error fault =>
              have same := Arena.create_refused made
              dsimp only
              split <;> exact ⟨⟨rfl, rfl, rfl, rfl⟩, same⟩
          | ok c =>
              have kind := kind_of_insert stored
              have live : Entity.isLive (Collider.make b shape.kind place : Collider α) = true :=
                decide_eq_true kind
              have fills := Arena.create_fills made
              simp only [Arena.modify, fills.get live]
              exact ⟨⟨rfl, rfl, rfl, rfl⟩, ⟨v, rfl⟩, kind, place, fills.write _⟩

/-- An operation that attaches a collider has the effect of creating it. -/
theorem effect_of_attach {op : Operation α L} {answer : op.Answer} (b : BodyRef) (shape : Shape α)
    (w : World α L)
    (issued : op.issuedCollider? answer =
      ((attach b shape : Attempt α L ρ ColliderRef).attempt.run w).answer.toOption)
    (noDiscard : op.discardedCollider? answer = none)
    (noBody : op.issuedBody? answer = none ∧ op.discardedBody? answer = none)
    (noEdit : ∀ h v, op.bodyEdit h v = v) (noEdit' : ∀ h v, op.colliderEdit h v = v) :
    op.Effect answer w ((attach b shape : Attempt α L ρ ColliderRef).attempt.run w).state := by
  obtain ⟨⟨bodies, touching, tree, updating⟩, made⟩ := attach_spec b shape w (ρ := ρ)
  cases answered : ((attach b shape : Attempt α L ρ ColliderRef).attempt.run w).answer with
  | error fault =>
      rw [answered] at issued made
      exact .of_unchanged ⟨bodies, made, touching, tree, updating⟩ noBody ⟨issued, noDiscard⟩
        (fun h v _ => noEdit h v) fun h v _ => noEdit' h v
  | ok c =>
      rw [answered] at issued made
      obtain ⟨⟨v, held⟩, kind, place, fills⟩ := made
      have live : Entity.isLive ({ Collider.make b shape.kind place with self := c } : Collider α) =
          true := decide_eq_true kind
      constructor
      case bodies =>
        rw [noBody.1, noBody.2, bodies]
        exact Arena.evolves_self fun h v _ => (noEdit h v).symm
      case colliders =>
        rw [issued, noDiscard]
        exact (fills.evolves live).mono fun h v _ same => same.symm.trans (noEdit' h v).symm
      case attached =>
        rw [issued]
        rintro _ ⟨⟩
        refine ⟨_, fills.get live, rfl, ?_⟩
        rw [bodies]
        exact (Arena.contains_iff_get_eq_ok _ _).mpr ⟨v, held⟩
      case touching => exact .inl touching
      case tree => exact .inl tree
      case updating => exact updating

theorem effect_attach (b : BodyRef) (shape : Shape α) (w : World α L) :
    let out := (attach b shape : Attempt α L ρ ColliderRef).attempt.run w
    (Operation.attach b shape : Operation α L).Effect out.answer w out.state := by
  refine effect_of_attach b shape w ?_ rfl ⟨rfl, rfl⟩ (fun _ _ => rfl) fun _ _ => rfl
  cases ((attach b shape : Attempt α L ρ ColliderRef).attempt.run w).answer <;> rfl

theorem effect_createCollider (b : BodyRef) (kind : ShapeKind) (w : World α L) :
    let out := (createCollider b kind : Attempt α L ρ ColliderRef).attempt.run w
    (Operation.createCollider b kind : Operation α L).Effect out.answer w out.state := by
  unfold createCollider
  split
  · exact .of_unchanged ⟨rfl, rfl, rfl, rfl, rfl⟩ ⟨rfl, rfl⟩ ⟨rfl, rfl⟩ (fun _ _ _ => rfl)
      fun _ _ _ => rfl
  · refine effect_of_attach b (.standard kind) w ?_ rfl ⟨rfl, rfl⟩ (fun _ _ => rfl) fun _ _ => rfl
    cases ((attach b (.standard kind) : Attempt α L ρ ColliderRef).attempt.run w).answer <;> rfl

theorem run_destroyCollider (c : ColliderRef) (w : World α L) :
    (destroyCollider c : Attempt α L ρ Unit).attempt.run w =
      match w.colliders.get c, w.colliders.destroy c with
      | .ok collider, .ok colliders =>
        match w.shapes.remove collider.kind collider.place with
        | .ok shapes => ⟨.ok (), { w with colliders := colliders, shapes := shapes },
            [.log (.destroyedCollider c)]⟩
        | .error missing => ⟨.error missing, { w with colliders := colliders }, []⟩
      | .error fault, _ => ⟨.error fault, w, []⟩
      | _, .error fault => ⟨.error fault, w, []⟩ := by
  simp only [destroyCollider, Fallible.run_bind, Fallible.run_get, Fallible.run_ofExcept,
    Fallible.run_set, Outcome.after_nil]
  cases w.colliders.get c with
  | error fault => rfl
  | ok collider =>
      cases w.colliders.destroy c with
      | error fault => rfl
      | ok colliders =>
          dsimp only
          cases w.shapes.remove collider.kind collider.place <;> rfl

theorem state_destroyCollider (c : ColliderRef) (w : World α L) : ∃ colliders shapes,
    ((destroyCollider c : Attempt α L ρ Unit).attempt.run w).state =
      { w with colliders := colliders, shapes := shapes } := by
  rw [run_destroyCollider]
  split
  · split <;> exact ⟨_, _, rfl⟩
  · exact ⟨_, _, rfl⟩
  · exact ⟨_, _, rfl⟩

theorem effect_destroyCollider (c : ColliderRef) (w : World α L) :
    let out := (destroyCollider c : Attempt α L ρ Unit).attempt.run w
    (Operation.destroyCollider c : Operation α L).Effect out.answer w out.state := by
  have destroyed : ∀ {colliders shapes}, w.colliders.destroy c = .ok colliders →
      ∀ answer, (Operation.destroyCollider c : Operation α L).Effect answer w
        { w with colliders := colliders, shapes := shapes } := fun done _ =>
    { bodies := Arena.evolves_self fun _ _ _ => rfl
      colliders := (Arena.evolves_destroy done).mono fun _ _ _ same => same.symm
      attached := nofun
      touching := .inl rfl
      tree := .inl rfl
      updating := rfl }
  have unchanged : ∀ answer, (Operation.destroyCollider c : Operation α L).Effect answer w w :=
    fun _ => .of_unchanged ⟨rfl, rfl, rfl, rfl, rfl⟩ ⟨rfl, rfl⟩ ⟨rfl, rfl⟩ (fun _ _ _ => rfl)
      fun _ _ _ => rfl
  rw [run_destroyCollider]
  dsimp only
  split
  · rename_i collider colliders _ done
    split
    · exact destroyed done _
    · exact destroyed done _
  · exact unchanged _
  · exact unchanged _

theorem run_editCollider (c : ColliderRef) (f : Collider α → Collider α) (w : World α L) :
    (editCollider c f : Attempt α L ρ (Collider α)).attempt.run w =
      match w.colliders.get c with
      | .ok collider =>
        ⟨.ok (f collider), { w with colliders := w.colliders.write c.index (f collider) }, []⟩
      | .error fault => ⟨.error fault, w, []⟩ := by
  simp only [editCollider, Arena.modify, Fallible.run_bind, Fallible.run_get,
    Fallible.run_ofExcept, Outcome.after_nil]
  cases w.colliders.get c <;> rfl

theorem effect_editCollider (c : ColliderRef) (f : Collider α → Collider α) (w : World α L) :
    let out := (editCollider c f : Attempt α L ρ (Collider α)).attempt.run w
    (Operation.editCollider c f : Operation α L).Effect out.answer w out.state := by
  rw [run_editCollider]
  dsimp only
  cases found : w.colliders.get c with
  | ok collider =>
      exact
        { bodies := Arena.evolves_self fun _ _ _ => rfl
          colliders := Arena.evolves_modify found (if_pos rfl).symm
            (fun _ other _ => (if_neg other).symm) (by simp only [Arena.modify, found]; rfl)
          attached := nofun
          touching := .inl rfl
          tree := .inl rfl
          updating := rfl }
  | error fault =>
      refine .of_unchanged ⟨rfl, rfl, rfl, rfl, rfl⟩ ⟨rfl, rfl⟩ ⟨rfl, rfl⟩ (fun _ _ _ => rfl) ?_
      intro h v there
      refine if_neg fun same => ?_
      subst same
      rw [found] at there
      cases there

/-! ## Geometry -/

omit [Scalar α] in
theorem run_reshapeAt (i : Nat) (r : Reshape α) (w : World α L) :
    (reshapeAt i r : Attempt α L ρ (Shape α)).attempt.run w =
      match w.shapes.reshape i r with
      | .ok made => ⟨.ok made.1, { w with shapes := made.2 }, []⟩
      | .error fault => ⟨.error fault, w, []⟩ := by
  simp only [reshapeAt, Fallible.run_bind, Fallible.run_get, Fallible.run_ofExcept,
    Outcome.after_nil]
  cases w.shapes.reshape i r <;> rfl

omit [Scalar α] in
theorem state_reshapeAt (i : Nat) (r : Reshape α) (w : World α L) :
    ∃ shapes, ((reshapeAt i r : Attempt α L ρ (Shape α)).attempt.run w).state =
      { w with shapes := shapes } := by
  rw [run_reshapeAt]
  cases w.shapes.reshape i r with
  | ok made => exact ⟨made.2, rfl⟩
  | error fault => exact ⟨w.shapes, rfl⟩

/-- Reshaping a collider is reshaping the place that it occupies, or refused. -/
theorem run_reshape (c : ColliderRef) (r : Reshape α) (w : World α L) :
    (reshape c r : Attempt α L ρ (Shape α)).attempt.run w =
      match w.colliders.get c with
      | .ok v => if v.kind = r.kind then (reshapeAt v.place r).attempt.run w
        else ⟨.error (.kindMismatch r.kind v.kind), w, []⟩
      | .error fault => ⟨.error fault, w, []⟩ := by
  simp only [reshape, Fallible.run_bind, Fallible.run_get, Fallible.run_ofExcept,
    Outcome.after_nil]
  cases w.colliders.get c with
  | error fault => rfl
  | ok v =>
      dsimp only
      split <;> rfl

theorem state_reshape (c : ColliderRef) (r : Reshape α) (w : World α L) :
    ∃ shapes, ((reshape c r : Attempt α L ρ (Shape α)).attempt.run w).state =
      { w with shapes := shapes } := by
  rw [run_reshape]
  split
  · split
    · exact state_reshapeAt _ r w
    · exact ⟨w.shapes, rfl⟩
  · exact ⟨w.shapes, rfl⟩

/-! ## Starting afresh -/

omit [Scalar α] in
theorem state_vacate (w : World α L) :
    let w' := ((vacate : Action α L ρ Unit).run w).state
    w'.bodies = w.bodies.cleared ∧ w'.colliders = w.colliders.cleared ∧ w'.touching = .empty ∧
      w'.tree = w.tree.clear ∧ w'.updating = w.updating := by
  simp only [vacate, Recorded.state_bind, Recorded.run_modify, onShapes, onColliders, onBodies,
    Recorded.run_zoom, Arena.run_clear, and_true]

/-- The second world comes after the first and has the same entities, geometry, touching pairs
and broad phase. -/
structure Settles (w w' : World α L) : Prop where
  bodies : w.bodies.Keeps w'.bodies
  colliders : w.colliders.Keeps w'.colliders
  shapes : w'.shapes = w.shapes
  touching : w'.touching = w.touching
  tree : w'.tree = w.tree
  updating : w'.updating = w.updating

theorem Settles.refl (w : World α L) : w.Settles w := ⟨.refl _, .refl _, rfl, rfl, rfl, rfl⟩

theorem Settles.trans {u v w : World α L} (first : u.Settles v) (second : v.Settles w) :
    u.Settles w :=
  ⟨first.bodies.trans second.bodies, first.colliders.trans second.colliders,
    second.shapes.trans first.shapes, second.touching.trans first.touching,
    second.tree.trans first.tree, second.updating.trans first.updating⟩

theorem settles_bind {β γ : Type} {m : Attempt α L ρ β} {f : β → Attempt α L ρ γ}
    (first : ∀ w : World α L, w.Settles (m.attempt.run w).state)
    (second : ∀ b (w : World α L), w.Settles ((f b).attempt.run w).state) (w : World α L) :
    w.Settles ((m >>= f).attempt.run w).state := by
  rw [Fallible.run_bind]
  split
  · exact (first w).trans (second _ _)
  · exact first w

theorem settles_reserveSlots (w : World α L) :
    w.Settles ((reserveSlots : Attempt α L ρ Unit).attempt.run w).state := by
  have bodies : ∀ w : World α L, w.Settles
      ((onBodies (Arena.reserve w.settings.bodySlots).attempt :
        Action α L ρ (Except Fault Unit)).run w).state :=
    fun w => ⟨Arena.reserve_keeps _ (w.memory, w.bodies), .refl _, rfl, rfl, rfl, rfl⟩
  have colliders : ∀ w : World α L, w.Settles
      ((onColliders (Arena.reserve w.settings.colliderSlots).attempt :
        Action α L ρ (Except Fault Unit)).run w).state :=
    fun w => ⟨.refl _, Arena.reserve_keeps _ (w.memory, w.colliders), rfl, rfl, rfl, rfl⟩
  simp only [reserveSlots, Fallible.run_bind, Fallible.run_get, Fallible.run_mk, Outcome.after_nil]
  split
  · exact (bodies w).trans (colliders _)
  · exact bodies w

/-- A new world is a blank one with its slots reserved. -/
theorem settles_of_make {settings : WorldSettings α} {w : World α L}
    (made : make settings = .ok w) :
    (blank settings).Settles w := by
  have settles := settles_reserveSlots (blank settings : World α L) (ρ := Unit)
  simp only [make] at made
  cases answered : ((reserveSlots : Attempt α L Unit Unit).attempt.run (blank settings)).answer with
  | error fault =>
      rw [answered] at made
      cases made
  | ok _ =>
      rw [answered] at made
      exact Except.ok.inj made ▸ settles

/-- Starting afresh empties the world and then only reserves slots. -/
theorem settles_restart (gravity : Vector2 α) (slots : Int) (w : World α L) :
    ((vacate : Action α L ρ Unit).run w).state.Settles
      ((restart gravity slots : Attempt α L ρ Unit).attempt.run w).state := by
  have reserve : ∀ (_ : PUnit) (v : World α L), v.Settles ((do
      modify fun w : World α L =>
        { w with settings := { w.settings with gravity := gravity, bodySlots := slots.toNat } }
      reserveSlots
      Fallible.note (.log (.initialised gravity slots.toNat)) : Attempt α L ρ Unit).attempt.run
        v).state := by
    intro _
    refine settles_bind (fun v => ⟨.refl _, .refl _, rfl, rfl, rfl, rfl⟩) fun _ => ?_
    exact settles_bind settles_reserveSlots fun _ v => .refl v
  simp only [restart, Fallible.run_bind (Fallible.always _), Fallible.run_always]
  split
  · exact settles_bind (m := Fallible.note (.log (.negativeSlots slots))) (fun v => .refl v)
      reserve _
  · exact reserve ⟨⟩ _

theorem effect_vacate (w : World α L) :
    (Operation.vacate : Operation α L).Effect () w ((vacate : Action α L ρ Unit).run w).state := by
  obtain ⟨bodies, colliders, touching, tree, updating⟩ := state_vacate w (ρ := ρ)
  exact
    { bodies := bodies ▸ (Arena.evolves_cleared _).mono fun _ _ _ same => same.symm
      colliders := colliders ▸ (Arena.evolves_cleared _).mono fun _ _ _ same => same.symm
      attached := nofun
      touching := .inr ⟨touching, fun c v found =>
        colliders ▸ (Arena.issued_of_get found).retired_cleared⟩
      tree := .inr tree
      updating := updating }

theorem effect_restart (gravity : Vector2 α) (slots : Int) (w : World α L) :
    let out := (restart gravity slots : Attempt α L ρ Unit).attempt.run w
    (Operation.restart gravity slots : Operation α L).Effect out.answer w out.state := by
  have settles := settles_restart gravity slots w (ρ := ρ)
  obtain ⟨bodies, colliders, touching, tree, updating⟩ := state_vacate w (ρ := ρ)
  have named := bodies ▸ settles.bodies
  have named' := colliders ▸ settles.colliders
  have compose : ∀ {k : StoreKind} {ε : Type} (_ : Handle k) (u v w : ε), u = v → v = w → u = w :=
    fun _ _ _ _ => Eq.trans
  exact
    { bodies := ((Arena.evolves_cleared _).trans compose named.evolves).mono fun _ _ _ same =>
        same.symm
      colliders := ((Arena.evolves_cleared _).trans compose named'.evolves).mono fun _ _ _ same =>
        same.symm
      attached := nofun
      touching := .inr ⟨settles.touching.trans touching, fun c v found =>
        (Arena.issued_of_get found).retired_cleared.mono named'.precedes⟩
      tree := .inr (settles.tree.trans tree)
      updating := settles.updating.trans updating }

end World

/-- **Every operation inside a callback has its effect.** -/
theorem Operation.effect_perform [OrderedScalar α] (op : Operation α L) (w : World α L) :
    let out := (op.perform (World.refuseUpdate : α → Action α L ρ Unit)).run w
    op.Effect out.answer w out.state := by
  cases op with
  | createBody => exact World.effect_createBody w
  | destroyBody b => exact World.effect_destroyBody b w
  | editBody b f => exact World.effect_editBody b f w
  | createCollider b kind => exact World.effect_createCollider b kind w
  | attach b shape => exact World.effect_attach b shape w
  | destroyCollider c => exact World.effect_destroyCollider c w
  | editCollider c f => exact World.effect_editCollider c f w
  | vacate => exact World.effect_vacate w
  | restart gravity slots => exact World.effect_restart gravity slots w
  | reshapeAt i r =>
      obtain ⟨shapes, same⟩ := World.state_reshapeAt i r w (ρ := ρ)
      exact .of_unchanged (same ▸ ⟨rfl, rfl, rfl, rfl, rfl⟩) ⟨rfl, rfl⟩ ⟨rfl, rfl⟩
        (fun _ _ _ => rfl) fun _ _ _ => rfl
  | reshape c r =>
      obtain ⟨shapes, same⟩ := World.state_reshape c r w (ρ := ρ)
      exact .of_unchanged (same ▸ ⟨rfl, rfl, rfl, rfl, rfl⟩) ⟨rfl, rfl⟩ ⟨rfl, rfl⟩
        (fun _ _ _ => rfl) fun _ _ _ => rfl
  | look | setGravity _ | installListener _ | removeListener | update _ =>
      exact .of_unchanged ⟨rfl, rfl, rfl, rfl, rfl⟩ ⟨rfl, rfl⟩ ⟨rfl, rfl⟩ (fun _ _ _ => rfl)
        fun _ _ _ => rfl

end PlanarDynamics
