import PlanarDynamics.Proofs.World.MirroredFrames
import PlanarDynamics.Proofs.World.Names
import PlanarDynamics.Proofs.World.Terms
import PlanarDynamics.Proofs.World.Turns

/-!
# Starting afresh leaves no trace

A world that starts afresh is emptied and keeps its terms, so it mirrors a blank world with the same
settings, ahead of it by the generations that its stores have used up (`World.mirrors_emptied`).
Both then reserve the same slots. From there on, whatever is asked of the two, each by its own
handles, they answer alike, tell their listeners of the same events, and look the same
(`World.restart_renews`).

Handles from before are below all generations to come, and are rejected for ever; handles issued
since are above them (`Arena.Spans`), which is all it takes for an operation to have a counterpart
in the new world (`Operation.exists_mirrors`).
-/

set_option autoImplicit false

namespace PlanarDynamics

variable {α L ρ : Type}

/-! ## Operations on handles issued since -/

theorem Handle.exists_raise {δ : Offsets} {k : StoreKind} {h : Handle k}
    (above : δ k ≤ h.generation) : ∃ g : Handle k, h = g.raise δ :=
  ⟨⟨h.index, h.generation - δ k⟩, Handle.ext rfl (Nat.sub_add_cancel above).symm⟩

namespace Operation

/-- The operation goes by handles of the generations after the offsets, and leaves only such handles
behind in a collider that it changes. A listener that it installs has a counterpart. -/
def Recent (δ : Offsets) (same : L → L → Prop) : Operation α L → Prop
  | installListener l => ∃ l', same l l'
  | destroyBody b => δ .body ≤ b.generation
  | editBody b _ => δ .body ≤ b.generation
  | createCollider b _ => δ .body ≤ b.generation
  | attach b _ => δ .body ≤ b.generation
  | destroyCollider c => δ .collider ≤ c.generation
  | editCollider c f =>
      δ .collider ≤ c.generation ∧ ∀ v : Collider α, ∃ u : Collider α, f (v.raise δ) = u.raise δ
  | reshape c _ => δ .collider ≤ c.generation
  | _ => True

/-- **An operation on recent handles has a counterpart in a world that is behind.** -/
theorem exists_mirrors [Scalar α] {δ : Offsets} {same : L → L → Prop} {op : Operation α L}
    (recent : op.Recent δ same) : ∃ op' answers, Operation.Mirrors δ same op op' answers := by
  cases op with
  | look => exact ⟨_, _, .look⟩
  | restart gravity slots => exact ⟨_, _, .restart gravity slots⟩
  | vacate => exact ⟨_, _, .vacate⟩
  | setGravity gravity => exact ⟨_, _, .setGravity gravity⟩
  | installListener l =>
      obtain ⟨l', listeners⟩ := recent
      exact ⟨_, _, .installListener listeners⟩
  | removeListener => exact ⟨_, _, .removeListener⟩
  | createBody => exact ⟨_, _, .createBody⟩
  | destroyBody b =>
      obtain ⟨b, rfl⟩ := Handle.exists_raise (δ := δ) (k := .body) recent
      exact ⟨_, _, .destroyBody b⟩
  | editBody b f =>
      obtain ⟨b, rfl⟩ := Handle.exists_raise (δ := δ) (k := .body) recent
      exact ⟨_, _, .editBody b f⟩
  | createCollider b kind =>
      obtain ⟨b, rfl⟩ := Handle.exists_raise (δ := δ) (k := .body) recent
      exact ⟨_, _, .createCollider b kind⟩
  | attach b shape =>
      obtain ⟨b, rfl⟩ := Handle.exists_raise (δ := δ) (k := .body) recent
      exact ⟨_, _, .attach b shape⟩
  | destroyCollider c =>
      obtain ⟨c, rfl⟩ := Handle.exists_raise (δ := δ) (k := .collider) recent
      exact ⟨_, _, .destroyCollider c⟩
  | editCollider c f =>
      obtain ⟨above, edits⟩ := recent
      obtain ⟨c, rfl⟩ := Handle.exists_raise above
      choose g edits using edits
      exact ⟨_, _, .editCollider c edits⟩
  | reshapeAt place r => exact ⟨_, _, .reshapeAt place r⟩
  | reshape c r =>
      obtain ⟨c, rfl⟩ := Handle.exists_raise (δ := δ) (k := .collider) recent
      exact ⟨_, _, .reshape c r⟩
  | update dt => exact ⟨_, _, .update dt⟩

end Operation

/-! ## Generations of handles -/

namespace Arena

variable {k : StoreKind} {ε : Type} [Entity ε] {a b : Arena k ε}

/-- All handles issued so far lie between a floor and what the arena has reached. -/
structure Spans (floor : Nat) (past : List (Handle k)) (a : Arena k ε) : Prop where
  floor_le : ∀ i, floor ≤ a.generationAt i
  issued : ∀ h ∈ past, floor ≤ h.generation ∧ a.Issued h

theorem Spans.step {floor : Nat} {past : List (Handle k)} {same : Handle k → ε → ε → Prop}
    {issued discarded : Option (Handle k)} (spans : Spans floor past a)
    (evolves : a.Evolves same b issued discarded) : Spans floor (past ++ issued.toList) b where
  floor_le := fun i => Nat.le_trans (spans.floor_le i) (evolves.precedes.generationAt i)
  issued := by
    intro h member
    rcases List.mem_append.mp member with old | new
    · exact ⟨(spans.issued h old).1, (spans.issued h old).2.mono evolves.precedes⟩
    · obtain ⟨v, found⟩ := evolves.filled h (Option.mem_toList.mp new)
      have reached := evolves.generation h (Option.mem_toList.mp new)
      exact ⟨reached ▸ spans.floor_le h.index, issued_of_get found⟩

/-- A cleared arena is an empty one that is ahead. -/
theorem mirrors_cleared (a : Arena k ε) {δ : Offsets} {rename : ε → ε} {growth : Float32}
    (base : a.cleared.base = δ k) (same : a.growth = growth) :
    a.cleared.Mirrors δ rename (.empty growth) where
  slots := .nil
  base := base.trans (Nat.zero_add _).symm
  growth := same
  blocks := rfl

end Arena

namespace World

variable [Scalar α]

/-- The handles issued in the past lie between the floors of the stores and what they have
reached. -/
structure Spans (floor : Offsets) (past : List (Moment α L ρ)) (w : World α L) : Prop where
  bodies : w.bodies.Spans (floor .body) (past.filterMap Moment.issuedBody?)
  colliders : w.colliders.Spans (floor .collider) (past.filterMap Moment.issuedCollider?)

theorem spans_history [OrderedScalar α] {floor : Offsets} (react : Reaction α L ρ)
    (ops : List (Operation α L)) {start : World α L}
    (bodies : ∀ i, floor .body ≤ start.bodies.generationAt i)
    (colliders : ∀ i, floor .collider ≤ start.colliders.generationAt i) :
    Spans floor (history react ops start) (after react ops start) := by
  have inside : CarriedInside (Spans floor : List (Moment α L ρ) → World α L → Prop) := by
    intro past w op spans
    have effect := op.effect_perform w (ρ := ρ)
    constructor
    · rw [filterMap_concat]
      exact spans.bodies.step effect.bodies
    · rw [filterMap_concat]
      exact spans.colliders.step effect.colliders
  have drift : KeptByDrift (Spans floor : List (Moment α L ρ) → World α L → Prop) := by
    intro past w w' spans drifts
    have bodies := spans.bodies.step drifts.bodies
    rw [Option.toList_none, List.append_nil] at bodies
    exact ⟨bodies, drifts.colliders ▸ spans.colliders⟩
  have told : KeptByTelling (Spans floor : List (Moment α L ρ) → World α L → Prop) := by
    intro past c spans
    constructor
    · rw [filterMap_concat, show (Moment.told c).issuedBody? = none from rfl, Option.toList_none,
        List.append_nil]
      exact spans.bodies
    · rw [filterMap_concat, show (Moment.told c).issuedCollider? = none from rfl,
        Option.toList_none, List.append_nil]
      exact spans.colliders
  have fresh : Spans floor ([] : List (Moment α L ρ)) start :=
    ⟨⟨bodies, nofun⟩, ⟨colliders, nofun⟩⟩
  have along := along_history inside drift told
    (fun _ _ _ spans => ⟨spans.bodies, spans.colliders⟩) react ops fresh
  exact along _ _ (.inl ⟨rfl, rfl⟩)

/-- A retired handle is rejected from then on. -/
theorem rejects_of_retired [OrderedScalar α] (react : Reaction α L ρ) (ops : List (Operation α L))
    {start : World α L} {past : List (Moment α L ρ)} {w : World α L}
    (passes : Passes (history react ops start) (after react ops start) past w) :
    (∀ b, start.bodies.Retired b → w.bodies.Rejects b) ∧
      ∀ c, start.colliders.Retired c → w.colliders.Rejects c := by
  let Later (w : World α L) : Prop :=
    start.bodies.Precedes w.bodies ∧ start.colliders.Precedes w.colliders
  have kept : KeptByOperations (fun _ : Moment α L ρ => True) Later := fun w op _ before =>
    have effect := op.effect_perform w (ρ := ρ)
    ⟨before.1.trans effect.bodies.precedes, before.2.trans effect.colliders.precedes⟩
  have drift : ∀ w w' : World α L, w.Drifts w' → Later w → Later w' := fun w w' drifts before =>
    ⟨before.1.trans drifts.bodies.precedes, drifts.colliders ▸ before.2⟩
  have throughout := throughout_history kept drift (fun _ _ before => before) react ops
    (⟨.refl _, .refl _⟩ : Later start)
  obtain ⟨bodies, colliders⟩ := throughout past w passes fun _ _ => trivial
  exact ⟨fun b retired => (retired.mono bodies).rejects,
    fun c retired => (retired.mono colliders).rejects⟩

/-! ## Emptied worlds -/

omit [Scalar α] in
/-- The generations that the stores of a world have used up. -/
def offsets (w : World α L) : Offsets
  | .body => w.bodies.cleared.base
  | .collider => w.colliders.cleared.base
  | .shape .empty => 0
  | .shape .circle => w.shapes.circles.arena.cleared.base
  | .shape .rectangle => w.shapes.rectangles.arena.cleared.base
  | .shape .polygon => w.shapes.polygons.arena.cleared.base

variable {settings : WorldSettings α} {w : World α L}

/-- **A world that has been emptied mirrors a blank one** with the same settings. -/
theorem mirrors_emptied (terms : (blank settings).SameTerms w) (idle : w.updating = false)
    {same : L → L → Prop} {listener : Option L} (listeners : Option.Rel same w.listener listener)
    (gravity : Vector2 α) (slots : Int) :
    (w.emptied gravity slots).Mirrors w.offsets same
      { (blank { settings with gravity := gravity, bodySlots := slots.toNat } : World α L) with
        listener := listener } := by
  obtain ⟨_, _, told⟩ := terms.settings
  have build : settings.memory.build.reset.withoutTotals = settings.memory.build.withoutTotals := by
    obtain ⟨strategy, metered⟩ := settings.memory
    cases strategy <;> cases metered <;> rfl
  rw [emptied, state_vacate_eq]
  exact
    { settings := by dsimp only; rw [told]; rfl
      memory := (Memory.reset_returned _ _).trans (terms.memory.trans build)
      bodies := w.bodies.mirrors_cleared rfl terms.bodies
      colliders := w.colliders.mirrors_cleared rfl terms.colliders
      shapes := ⟨⟨Arena.mirrors_cleared _ rfl terms.shapes.circles⟩,
        ⟨Arena.mirrors_cleared _ rfl terms.shapes.rectangles⟩,
        ⟨Arena.mirrors_cleared _ rfl terms.shapes.polygons⟩⟩
      tree := by
        dsimp only [QuadTree.clear]
        rw [terms.boundary, terms.limits]
        rfl
      touching := rfl
      solver := terms.solver
      listener := listeners
      updating := idle }

/-! ## Starting afresh -/

/-- Reserving slots does not involve the listener. -/
theorem run_reserveSlots_told {σ : Type} (w : World α L) (listener : Option L) :
    let out := (reserveSlots : Attempt α L ρ Unit).attempt.run w
    let out' := (reserveSlots : Attempt α L σ Unit).attempt.run { w with listener := listener }
    out'.answer = out.answer ∧ out'.state = { out.state with listener := listener } := by
  simp only [reserveSlots, Fallible.run_bind, Fallible.run_get, Fallible.run_mk, onBodies,
    onColliders, Recorded.run_zoom, Outcome.after_nil]
  cases ((Arena.reserve w.settings.bodySlots).attempt.run (w.memory, w.bodies)).answer with
  | error fault => exact ⟨rfl, rfl⟩
  | ok _ => exact ⟨rfl, rfl⟩

theorem run_reserveSlots_unheard {σ : Type} (w : World α L) :
    let out := (reserveSlots : Attempt α L ρ Unit).attempt.run w
    let out' := (reserveSlots : Attempt α L σ Unit).attempt.run w
    out'.answer = out.answer ∧ out'.state = out.state :=
  have other := run_reserveSlots_told w w.listener (ρ := ρ) (σ := σ)
  have same := run_reserveSlots_told w w.listener (ρ := ρ) (σ := ρ)
  ⟨other.1, other.2.trans same.2.symm⟩

/-- A world is made by reserving slots in a blank one. -/
theorem make_eq_ok_iff {settings : WorldSettings α} {w : World α L} :
    let out := (reserveSlots : Attempt α L Unit Unit).attempt.run (blank settings)
    make settings = .ok w ↔ out.answer = .ok () ∧ out.state = w := by
  simp only [make]
  cases ((reserveSlots : Attempt α L Unit Unit).attempt.run (blank settings)).answer with
  | error fault =>
      constructor
      · intro made
        cases made
      · rintro ⟨⟨⟩, _⟩
  | ok _ => exact ⟨fun made => ⟨rfl, Except.ok.inj made⟩, fun both => congrArg Except.ok both.2⟩

theorem sameTerms_of_make {settings : WorldSettings α} {w : World α L}
    (made : make settings = .ok w) : (blank settings).SameTerms w :=
  (make_eq_ok_iff.mp made).2 ▸ sameTerms_reserveSlots (blank settings)

/-- Starting afresh leaves the listener. -/
theorem listener_restart (gravity : Vector2 α) (slots : Int) (w : World α L) :
    ((restart gravity slots : Attempt α L ρ Unit).attempt.run w).state.listener = w.listener := by
  have told := run_reserveSlots_told (w.emptied gravity slots) (w.emptied gravity slots).listener
    (ρ := ρ) (σ := ρ)
  have kept : (w.emptied gravity slots).listener = w.listener := by rw [emptied, state_vacate_eq]
  rw [(run_restart gravity slots w).2]
  exact (congrArg World.listener told.2).trans kept

/-- **A world that has started afresh mirrors a new one** with the same settings. -/
theorem mirrors_restart (terms : (blank settings).SameTerms w) (idle : w.updating = false)
    (gravity : Vector2 α) (slots : Int) :
    let out := (restart gravity slots : Attempt α L ρ Unit).attempt.run w
    out.answer = .ok () → ∃ fresh : World α L,
      make { settings with gravity := gravity, bodySlots := slots.toNat } = .ok fresh ∧
        ∀ (same : L → L → Prop) listener, Option.Rel same w.listener listener →
          out.state.Mirrors w.offsets same { fresh with listener := listener } := by
  intro out started
  let settings' : WorldSettings α := { settings with gravity := gravity, bodySlots := slots.toNat }
  let reserved := (reserveSlots : Attempt α L Unit Unit).attempt.run (blank settings')
  obtain ⟨answer, state⟩ := run_restart gravity slots w (ρ := ρ)
  have unheard := run_reserveSlots_unheard (w.emptied gravity slots) (ρ := Unit) (σ := ρ)
  have likewise : ∀ (same : L → L → Prop) listener, Option.Rel same w.listener listener →
      Alike w.offsets Eq out.answer reserved.answer ∧
        out.state.Mirrors w.offsets same { reserved.state with listener := listener } := by
    intro same listener listeners
    let k : Likeness α L Unit :=
      { offsets := w.offsets, same := same, said := Eq, react := fun l _ _ => .done (l, ())
        react' := fun l _ _ => .done (l, ()), reactions := fun _ _ _ _ h => .done ⟨h, rfl⟩ }
    have emptied := mirrors_emptied terms idle listeners gravity slots
    have mirrors := simulates_reserveSlots (k := k) _ _ emptied
    have told := run_reserveSlots_told (blank settings' : World α L) listener (ρ := Unit)
      (σ := Unit)
    rw [answer, state, unheard.1, unheard.2, ← told.1, ← told.2]
    exact ⟨mirrors.answer, mirrors.state⟩
  have made : reserved.answer = .ok () := by
    have listeners : Option.Rel Eq w.listener w.listener := by
      cases w.listener with
      | none => exact .none
      | some l => exact .some rfl
    rcases (likewise Eq w.listener listeners).1.cases with ⟨_, _, _, done, _⟩ | ⟨_, refused, _⟩
    · exact done
    · exact nomatch started.symm.trans refused
  exact ⟨reserved.state, make_eq_ok_iff.mpr ⟨made, rfl⟩, fun same listener listeners =>
    (likewise same listener listeners).2⟩

/-! ## Whole runs -/

theorem exists_mirroredOperations {δ : Offsets} {same : L → L → Prop} {ops : List (Operation α L)}
    (recent : ∀ op ∈ ops, op.Recent δ same) : ∃ ops', MirroredOperations δ same ops ops' := by
  induction ops with
  | nil => exact ⟨[], .nil⟩
  | cons op rest ih =>
      obtain ⟨first, others⟩ := List.forall_mem_cons.mp recent
      obtain ⟨op', answers, mirrors⟩ := Operation.exists_mirrors first
      obtain ⟨rest', mirrored⟩ := ih others
      exact ⟨op' :: rest', .cons ⟨answers, mirrors⟩ mirrored⟩

/-- What a world that has started afresh has to do with a new one. -/
structure Renews [OrderedScalar α] (past : List (Moment α L ρ)) (δ : Offsets)
    (renewed fresh : World α L) : Prop where
  /-- Whatever is asked by recent handles may be asked of the new world. -/
  counterpart : ∀ {same : L → L → Prop} {later : List (Operation α L)},
    (∀ op ∈ later, op.Recent δ same) → ∃ later', MirroredOperations δ same later later'
  /-- With a listener in the new world like the one that was kept, the same happens in both. -/
  runs : ∀ {same : L → L → Prop} {said : ρ → ρ → Prop} {react react' : Reaction α L ρ}
    {listener : Option L} {later later' : List (Operation α L)},
    Reaction.Mirrors δ same said react react' → Option.Rel same renewed.listener listener →
    MirroredOperations δ same later later' →
    let new : World α L := { fresh with listener := listener }
    List.Forall₂ (Moment.Mirrors δ same said) (history react later renewed)
        (history react' later' new) ∧
      (after react later renewed).Mirrors δ same (after react' later' new)
  /-- The handles issued from now on are recent. -/
  recent : ∀ (react : Reaction α L ρ) (later : List (Operation α L)),
    let moments := history react later renewed
    (∀ b ∈ moments.filterMap Moment.issuedBody?, δ .body ≤ b.generation) ∧
      ∀ c ∈ moments.filterMap Moment.issuedCollider?, δ .collider ≤ c.generation
  /-- The handles issued before are never accepted again. -/
  stale : ∀ (react : Reaction α L ρ) (later : List (Operation α L)) {done : List (Moment α L ρ)}
    {w : World α L}, Passes (history react later renewed) (after react later renewed) done w →
    (∀ b ∈ past.filterMap Moment.issuedBody?, w.bodies.Rejects b) ∧
      ∀ c ∈ past.filterMap Moment.issuedCollider?, w.colliders.Rejects c

/-- A world that has started afresh comes after a cleared one. -/
theorem precedes_restart (gravity : Vector2 α) (slots : Int) (w : World α L) :
    let w' := ((restart gravity slots : Attempt α L ρ Unit).attempt.run w).state
    w.bodies.cleared.Precedes w'.bodies ∧ w.colliders.cleared.Precedes w'.colliders := by
  have settles := settles_restart gravity slots w (ρ := ρ)
  obtain ⟨bodies, colliders, _⟩ := state_vacate w (ρ := ρ)
  exact ⟨bodies ▸ settles.bodies.precedes, colliders ▸ settles.colliders.precedes⟩

/-- Handles issued after starting afresh are ahead by the offsets at least. -/
theorem spans_restart [OrderedScalar α] (react : Reaction α L ρ) (later : List (Operation α L))
    (gravity : Vector2 α) (slots : Int) (w : World α L) :
    let w' := ((restart gravity slots : Attempt α L ρ Unit).attempt.run w).state
    Spans w.offsets (history react later w') (after react later w') := by
  obtain ⟨bodies, colliders⟩ := precedes_restart gravity slots w (ρ := ρ)
  exact spans_history react later bodies.generationAt colliders.generationAt

/-- Handles issued before starting afresh are rejected from then on. -/
theorem rejects_restart [OrderedScalar α] {past done : List (Moment α L ρ)} {w v : World α L}
    {floor : Offsets} (spans : Spans floor past w) (react : Reaction α L ρ)
    (later : List (Operation α L)) (gravity : Vector2 α) (slots : Int) :
    let w' := ((restart gravity slots : Attempt α L ρ Unit).attempt.run w).state
    Passes (history react later w') (after react later w') done v →
      (∀ b ∈ past.filterMap Moment.issuedBody?, v.bodies.Rejects b) ∧
        ∀ c ∈ past.filterMap Moment.issuedCollider?, v.colliders.Rejects c := by
  intro w' passes
  obtain ⟨bodies, colliders⟩ := precedes_restart gravity slots w (ρ := ρ)
  obtain ⟨rejected, rejected'⟩ := rejects_of_retired react later passes
  constructor
  · intro b member
    exact rejected b ((spans.bodies.issued b member).2.retired_cleared.mono bodies)
  · intro c member
    exact rejected' c ((spans.colliders.issued c member).2.retired_cleared.mono colliders)

/-- **Starting afresh leaves no trace.** In every run from the creation of a world, once the world
has successfully started afresh, a new world can be made from the same settings with the new gravity
and slots, and from then on the old world does what the new one does, but for fixed offsets of the
generations and the counters of a memory that only grow. -/
theorem restart_renews [OrderedScalar α] (react : Reaction α L ρ)
    {settings : WorldSettings α} {start : World α L} (made : make settings = .ok start)
    (ops : List (Operation α L)) (gravity : Vector2 α) (slots : Int) :
    let w := after react ops start
    let out := (restart gravity slots : Attempt α L ρ Unit).attempt.run w
    out.answer = .ok () → ∃ fresh,
      make { settings with gravity := gravity, bodySlots := slots.toNat } = .ok fresh ∧
        Renews (history react ops start) w.offsets out.state fresh := by
  intro w out started
  have terms := (sameTerms_of_make made).trans (sameTerms_after react ops start)
  have idle := updating_after react ops (settles_of_make made).updating
  have past : Spans (fun _ => 0) (history react ops start) w :=
    spans_history react ops (fun _ => Nat.zero_le _) fun _ => Nat.zero_le _
  obtain ⟨fresh, made', mirrors⟩ := mirrors_restart terms idle gravity slots started
  refine ⟨fresh, made', ?_⟩
  constructor
  case counterpart => exact exists_mirroredOperations
  case runs =>
    intro same said react react' listener later later' reactions listeners asked
    let k : Likeness α L ρ := ⟨w.offsets, same, said, react, react', reactions⟩
    rw [listener_restart] at listeners
    exact mirrors_history (k := k) asked (mirrors same listener listeners)
  case recent =>
    intro react later
    have spans := spans_restart react later gravity slots w
    exact ⟨fun b member => (spans.bodies.issued b member).1,
      fun c member => (spans.colliders.issued c member).1⟩
  case stale =>
    intro react later done v passes
    exact rejects_restart past react later gravity slots passes

/-- A listener that counts events, and on each destroys the first collider of the pair. -/
def clearing : Reaction Float32 Nat Unit
  | heard, _, p => .ask (.destroyCollider p.first) fun _ => .done (heard + 1, ())

/-- A trigger and a solid circle that overlap, in a world whose stores have come so far, for one
frame. -/
def overlapping (δ : Offsets) : List (Operation Float32 Nat) :=
  [.createBody, .createBody, .createCollider (Handle.raise δ ⟨0, 0⟩) .circle,
    .createCollider (Handle.raise δ ⟨1, 0⟩) .circle,
    .editCollider (Handle.raise δ ⟨0, 0⟩) fun c => { c with isTrigger := true }, .update 0.5]

theorem mirrors_overlapping (δ : Offsets) :
    MirroredOperations δ Eq (overlapping δ) (overlapping 0) :=
  .cons ⟨_, .createBody⟩ <| .cons ⟨_, .createBody⟩ <|
    .cons ⟨_, .createCollider ⟨0, 0⟩ .circle⟩ <| .cons ⟨_, .createCollider ⟨1, 0⟩ .circle⟩ <|
    .cons ⟨_, .editCollider ⟨0, 0⟩ fun _ => rfl⟩ <| .cons ⟨_, .update 0.5⟩ .nil

theorem mirrors_clearing (δ : Offsets) : Reaction.Mirrors δ Eq Eq clearing clearing :=
  fun _ _ _ p same =>
    .ask (.destroyCollider p.first) fun _ _ _ => .done ⟨congrArg (· + 1) same, rfl⟩

theorem restart_renews_clearing :
    let start : World Float32 Nat := blank .standard
    let ops := .installListener 0 :: overlapping 0 ++ [.createCollider ⟨0, 0⟩ .circle]
    let w := after clearing ops start
    let out := (restart 0 2 : Attempt Float32 Nat Unit Unit).attempt.run w
    make .standard = .ok start ∧ w.listener = some 1 ∧ out.answer = .ok () ∧
      w.offsets .body = 1 ∧ w.offsets .collider = 2 ∧
      ∃ fresh, make { WorldSettings.standard with gravity := 0, bodySlots := 2 } = .ok fresh ∧
        Renews (history clearing ops start) w.offsets out.state fresh ∧
        (after clearing (overlapping w.offsets) out.state).Mirrors w.offsets Eq
          (after clearing (overlapping 0) { fresh with listener := some 1 }) := by
  intro start ops w out
  have made : make .standard = .ok start := rfl
  have kept : w.listener = some 1 := by decide +kernel
  have started : out.answer = .ok () := by decide +kernel
  obtain ⟨fresh, made', renews⟩ := restart_renews clearing made ops 0 2 started
  have listeners : Option.Rel Eq out.state.listener (some 1) := by
    rw [listener_restart, kept]
    exact .some rfl
  have renewed : Renews (history clearing ops start) w.offsets out.state fresh := renews
  have runs := renewed.runs (mirrors_clearing w.offsets) listeners (mirrors_overlapping w.offsets)
  exact ⟨made, kept, started, by decide +kernel, by decide +kernel, fresh, made', renewed, runs.2⟩

end World

end PlanarDynamics
