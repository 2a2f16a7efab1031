import PlanarDynamics.Proofs.BroadPhase.Renaming
import PlanarDynamics.Proofs.Store.RenamedShapes
import PlanarDynamics.Proofs.World.Books

/-!
# Worlds that differ in their generations only

One world mirrors another (`World.Mirrors`) when they have the same bodies, colliders, geometry,
touching pairs and broad phase, use the same memory and follow the same settings, but for the
generations of their stores, which are ahead by a fixed offset each. The counters of a memory that
only grow may differ.

Operations mirror each other when they ask for the same, each by the handles of its own world
(`Operation.Mirrors`); so do programs (`Program.Mirrors`) and listeners (`Reaction.Mirrors`). On
worlds that mirror each other, such operations answer alike and leave worlds that do so again
(`Operation.simulates_perform`). Actions that behave like this may be put one after the other
(`Simulates.bind`).
-/

set_option autoImplicit false

namespace PlanarDynamics

variable {α L ρ β β' γ γ' : Type}

/-! ## What mirrors what -/

/-- The collider with the handles that it keeps renamed. -/
def Collider.raise (δ : Offsets) (c : Collider α) : Collider α :=
  { c with body := c.body.raise δ, self := c.self.raise δ }

@[simp] theorem Collider.isLive_raise [Scalar α] (δ : Offsets) (c : Collider α) :
    Entity.isLive (c.raise δ) = Entity.isLive c := rfl

/-- The first world is ahead of the second by these generations, and is the same otherwise but for
the counters of its memory that only grow. The listeners are related as given. -/
structure World.Mirrors [Scalar α] (δ : Offsets) (same : L → L → Prop) (v w : World α L) : Prop
    where
  settings : v.settings = w.settings
  memory : v.memory.withoutTotals = w.memory.withoutTotals
  bodies : v.bodies.Mirrors δ id w.bodies
  colliders : v.colliders.Mirrors δ (Collider.raise δ) w.colliders
  shapes : v.shapes.Mirrors δ w.shapes
  tree : v.tree = w.tree.raise δ
  touching : v.touching = w.touching.raise δ
  solver : v.solver = w.solver
  listener : Option.Rel same v.listener w.listener
  updating : v.updating = w.updating

/-- The first operation asks of a world what the second asks of the one it mirrors, and their
answers are to be related. -/
inductive Operation.Mirrors [Scalar α] (δ : Offsets) (same : L → L → Prop) :
    (op op' : Operation α L) → (op.Answer → op'.Answer → Prop) → Prop
  | look : Mirrors δ same .look .look (World.Mirrors δ same)
  | restart (gravity : Vector2 α) (slots : Int) :
    Mirrors δ same (.restart gravity slots) (.restart gravity slots) (Alike δ Eq)
  | vacate : Mirrors δ same .vacate .vacate Eq
  | setGravity (gravity : Vector2 α) : Mirrors δ same (.setGravity gravity) (.setGravity gravity) Eq
  | installListener {l l' : L} (listeners : same l l') :
    Mirrors δ same (.installListener l) (.installListener l') (Option.Rel same)
  | removeListener : Mirrors δ same .removeListener .removeListener (Option.Rel same)
  | createBody : Mirrors δ same .createBody .createBody (Alike δ fun b c => b = c.raise δ)
  | destroyBody (b : BodyRef) :
    Mirrors δ same (.destroyBody (b.raise δ)) (.destroyBody b) (Alike δ Eq)
  | editBody (b : BodyRef) (f : Body α → Body α) :
    Mirrors δ same (.editBody (b.raise δ) f) (.editBody b f) (Alike δ Eq)
  | createCollider (b : BodyRef) (kind : ShapeKind) :
    Mirrors δ same (.createCollider (b.raise δ) kind) (.createCollider b kind)
      (Alike δ fun c d => c = d.raise δ)
  | attach (b : BodyRef) (shape : Shape α) :
    Mirrors δ same (.attach (b.raise δ) shape) (.attach b shape) (Alike δ fun c d => c = d.raise δ)
  | destroyCollider (c : ColliderRef) :
    Mirrors δ same (.destroyCollider (c.raise δ)) (.destroyCollider c) (Alike δ Eq)
  | editCollider (c : ColliderRef) {f g : Collider α → Collider α}
    (edits : ∀ v, f (v.raise δ) = (g v).raise δ) :
    Mirrors δ same (.editCollider (c.raise δ) f) (.editCollider c g)
      (Alike δ fun v u => v = u.raise δ)
  | reshapeAt (place : Nat) (r : Reshape α) :
    Mirrors δ same (.reshapeAt place r) (.reshapeAt place r) (Alike δ Eq)
  | reshape (c : ColliderRef) (r : Reshape α) :
    Mirrors δ same (.reshape (c.raise δ) r) (.reshape c r) (Alike δ Eq)
  | update (dt : α) : Mirrors δ same (.update dt) (.update dt) Eq

/-- The first program asks of a world what the second asks of the one it mirrors, for as long as
the answers are related, and their results are. -/
inductive Program.Mirrors [Scalar α] (δ : Offsets) (same : L → L → Prop) (R : β → γ → Prop) :
    Program α L β → Program α L γ → Prop
  | done {b : β} {c : γ} (results : R b c) : Mirrors δ same R (.done b) (.done c)
  | ask {op op' : Operation α L} {answers : op.Answer → op'.Answer → Prop}
    {next : op.Answer → Program α L β} {next' : op'.Answer → Program α L γ}
    (asked : Operation.Mirrors δ same op op' answers)
    (rest : ∀ x y, answers x y → Mirrors δ same R (next x) (next' y)) :
    Mirrors δ same R (.ask op next) (.ask op' next')

/-- Related listeners react to an event of a pair by mirroring programs, and go on related, with
related reports. -/
def Reaction.Mirrors [Scalar α] (δ : Offsets) (same : L → L → Prop) (said : ρ → ρ → Prop)
    (react react' : Reaction α L ρ) : Prop :=
  ∀ l l' event p, same l l' →
    Program.Mirrors δ same (fun x y => same x.1 y.1 ∧ said x.2 y.2) (react l event (p.raise δ))
      (react' l' event p)

/-- The same operation is performed with related answers, or related listeners are told of the same
event, in worlds that mirror each other. -/
inductive Moment.Mirrors [Scalar α] (δ : Offsets) (same : L → L → Prop) (said : ρ → ρ → Prop) :
    Moment α L ρ → Moment α L ρ → Prop
  | asked {v w : World α L} {op op' : Operation α L} {answers : op.Answer → op'.Answer → Prop}
    {answer : op.Answer} {answer' : op'.Answer} (worlds : v.Mirrors δ same w)
    (operations : Operation.Mirrors δ same op op' answers) (answered : answers answer answer') :
    Mirrors δ same said (.asked v op answer) (.asked w op' answer')
  | told {v w : World α L} {l l' : L} {event : TriggerEvent} {p : ColliderPair} {r r' : ρ}
    (worlds : v.Mirrors δ same w) (listeners : same l l') (reports : said r r') :
    Mirrors δ same said (.told ⟨v, l, event, p.raise δ, r⟩) (.told ⟨w, l', event, p, r'⟩)

/-- How the listeners of two runs correspond: the offsets of the handles, which states of listeners
and which reports stand for each other, and the reactions. -/
structure Likeness (α L ρ : Type) [Scalar α] where
  offsets : Offsets
  same : L → L → Prop
  said : ρ → ρ → Prop
  react : Reaction α L ρ
  react' : Reaction α L ρ
  reactions : Reaction.Mirrors offsets same said react react'

variable [Scalar α] {δ : Offsets} {same : L → L → Prop}

/-! ## Actions that mirror each other -/

/-- On worlds that mirror each other the two actions have related answers, leave worlds that mirror
each other, and go through moments that do. -/
structure Outcome.Mirrors (k : Likeness α L ρ) (R : β → γ → Prop)
    (x : Outcome (Note α L ρ) (World α L) β) (y : Outcome (Note α L ρ) (World α L) γ) : Prop where
  answer : R x.answer y.answer
  state : x.state.Mirrors k.offsets k.same y.state
  moments : List.Forall₂ (Moment.Mirrors k.offsets k.same k.said)
    (x.notes.flatMap (Note.moments k.react)) (y.notes.flatMap (Note.moments k.react'))

/-- On worlds that mirror each other the outcomes of the two actions do. -/
def Simulates (k : Likeness α L ρ) (R : β → γ → Prop) (m : Action α L ρ β) (n : Action α L ρ γ) :
    Prop :=
  ∀ v w, v.Mirrors k.offsets k.same w → Outcome.Mirrors k R (m.run v) (n.run w)

section Simulates

variable {k : Likeness α L ρ} {R : β → γ → Prop} {S : β' → γ' → Prop}

theorem Simulates.bind {m : Action α L ρ β} {n : Action α L ρ γ} {f : β → Action α L ρ β'}
    {g : γ → Action α L ρ γ'} (first : Simulates k R m n)
    (second : ∀ b c, R b c → Simulates k S (f b) (g c)) : Simulates k S (m >>= f) (n >>= g) := by
  intro v w mirrors
  have early := first v w mirrors
  have late := second _ _ early.answer _ _ early.state
  refine ⟨late.answer, late.state, ?_⟩
  rw [Recorded.notes_bind, Recorded.notes_bind, List.flatMap_append, List.flatMap_append]
  exact List.rel_append early.moments late.moments

/-- Quiet actions need only answer alike and leave worlds that mirror each other. -/
theorem simulates_of_quiet {m : Action α L ρ β} {n : Action α L ρ γ} (quiet : Quiet m)
    (quiet' : Quiet n)
    (step : ∀ v w, v.Mirrors k.offsets k.same w → R (m.run v).answer (n.run w).answer ∧
      (m.run v).state.Mirrors k.offsets k.same (n.run w).state) : Simulates k R m n := by
  intro v w mirrors
  obtain ⟨answer, state⟩ := step v w mirrors
  refine ⟨answer, state, ?_⟩
  rw [quiet.moments, quiet'.moments]
  exact .nil

theorem simulates_pure {b : β} {c : γ} (related : R b c) :
    Simulates k R (pure b : Action α L ρ β) (pure c) :=
  simulates_of_quiet (quiet_pure b) (quiet_pure c) fun _ _ mirrors => ⟨related, mirrors⟩

theorem simulates_get : Simulates k (World.Mirrors k.offsets k.same) get get :=
  simulates_of_quiet quiet_get quiet_get fun _ _ mirrors => ⟨mirrors, mirrors⟩

theorem simulates_modify {f g : World α L → World α L}
    (step : ∀ v w, v.Mirrors k.offsets k.same w → (f v).Mirrors k.offsets k.same (g w)) :
    Simulates k Eq (modify f : Action α L ρ PUnit) (modify g) :=
  simulates_of_quiet (quiet_modify f) (quiet_modify g) fun v w mirrors => ⟨rfl, step v w mirrors⟩

theorem simulates_log (r r' : LogRecord α) :
    Simulates k Eq (World.log r : Action α L ρ Unit) (World.log r') :=
  simulates_of_quiet (quiet_log r) (quiet_log r') fun _ _ mirrors => ⟨rfl, mirrors⟩

theorem Simulates.attempt_bind {m : Attempt α L ρ β} {n : Attempt α L ρ γ}
    {f : β → Attempt α L ρ β'} {g : γ → Attempt α L ρ γ'}
    (first : Simulates k (Alike k.offsets R) m.attempt n.attempt)
    (second : ∀ b c, R b c → Simulates k (Alike k.offsets S) (f b).attempt (g c).attempt) :
    Simulates k (Alike k.offsets S) (m >>= f).attempt (n >>= g).attempt := by
  intro v w mirrors
  have early := first v w mirrors
  rw [Fallible.run_bind, Fallible.run_bind]
  rcases early.answer.cases with ⟨b, c, made, made', related⟩ | ⟨fault, refused, refused'⟩
  · have late := second b c related _ _ early.state
    rw [made, made']
    refine ⟨late.answer, late.state, ?_⟩
    dsimp only [Outcome.after]
    rw [List.flatMap_append, List.flatMap_append]
    exact List.rel_append early.moments late.moments
  · rw [refused, refused']
    exact ⟨.error fault, early.state, early.moments⟩

theorem simulates_attempt_get :
    Simulates k (Alike k.offsets (World.Mirrors k.offsets k.same))
      (get : Attempt α L ρ (World α L)).attempt (get : Attempt α L ρ (World α L)).attempt :=
  simulates_of_quiet quiet_attempt_get quiet_attempt_get fun _ _ mirrors => ⟨.ok mirrors, mirrors⟩

theorem simulates_ofExcept {x : Except Fault β} {y : Except Fault γ}
    (alike : Alike k.offsets R x y) :
    Simulates k (Alike k.offsets R) (Fallible.ofExcept x : Attempt α L ρ β).attempt
      (Fallible.ofExcept y : Attempt α L ρ γ).attempt :=
  simulates_of_quiet (quiet_ofExcept x) (quiet_ofExcept y) fun _ _ mirrors => ⟨alike, mirrors⟩

theorem simulates_set {v w : World α L} (mirrors : v.Mirrors k.offsets k.same w) :
    Simulates k (Alike k.offsets Eq) (set v : Attempt α L ρ PUnit).attempt
      (set w : Attempt α L ρ PUnit).attempt :=
  simulates_of_quiet (quiet_set v) (quiet_set w) fun _ _ _ => ⟨.ok rfl, mirrors⟩

theorem simulates_note (r r' : LogRecord α) :
    Simulates k (Alike k.offsets Eq) (Fallible.note (.log r) : Attempt α L ρ Unit).attempt
      (Fallible.note (.log r') : Attempt α L ρ Unit).attempt :=
  simulates_of_quiet (quiet_note r) (quiet_note r') fun _ _ mirrors => ⟨.ok rfl, mirrors⟩

theorem simulates_attempt_pure {b : β} {c : γ} (related : R b c) :
    Simulates k (Alike k.offsets R) (pure b : Attempt α L ρ β).attempt
      (pure c : Attempt α L ρ γ).attempt :=
  simulates_of_quiet (quiet_attempt_pure b) (quiet_attempt_pure c) fun _ _ mirrors =>
    ⟨.ok related, mirrors⟩

end Simulates

namespace World

variable {k : Likeness α L ρ} {R : β → γ → Prop} {v w : World α L}

/-! ## Looking at worlds -/

section Looking

variable (mirrors : v.Mirrors δ same w)

include mirrors

theorem Mirrors.usage : v.memory.used = w.memory.used ∧
    v.memory.capacity? = w.memory.capacity? ∧ v.memory.stats.inUse = w.memory.stats.inUse := by
  obtain ⟨used, capacity, inUse⟩ := v.memory.usage_withoutTotals
  rw [← used, ← capacity, ← inUse, mirrors.memory]
  exact w.memory.usage_withoutTotals

theorem Mirrors.placedShape (c : ColliderRef) :
    Alike δ Eq (v.placedShape (c.raise δ)) (w.placedShape c) := by
  refine (mirrors.colliders.get c).bind fun collider collider' found => ?_
  subst found
  refine (mirrors.bodies.get collider'.body).bind fun body body' found => ?_
  subst found
  exact mirrors.shapes.placed _ _ _

theorem Mirrors.isTouching (a b : ColliderRef) :
    v.isTouching (a.raise δ) (b.raise δ) = w.isTouching a b := by
  unfold World.isTouching
  rw [ColliderPair.of_raise, mirrors.touching]
  exact decide_eq_decide.mpr (PairSet.mem_raise _ _)

theorem Mirrors.active? (c : ColliderRef) :
    v.active? (c.raise δ) = (w.active? c).map (Collider.raise δ) := by
  unfold World.active?
  rcases (mirrors.colliders.get c).cases with ⟨_, collider, found, found', rfl⟩ |
    ⟨fault, missing, missing'⟩
  · rw [found, found']
    dsimp only
    rw [show (collider.raise δ).body = collider.body.raise δ from rfl,
      mirrors.bodies.contains collider.body]
    split <;> rfl
  · rw [missing, missing']
    rfl

theorem Mirrors.set_bodies {a b : Arena .body (Body α)} (bodies : a.Mirrors δ id b) :
    ({ v with bodies := a } : World α L).Mirrors δ same { w with bodies := b } :=
  { mirrors with bodies := bodies }

theorem Mirrors.set_colliders {a b : Arena .collider (Collider α)}
    (colliders : a.Mirrors δ (Collider.raise δ) b) :
    ({ v with colliders := a } : World α L).Mirrors δ same { w with colliders := b } :=
  { mirrors with colliders := colliders }

theorem Mirrors.set_shapes {s t : Shapes α} (shapes : s.Mirrors δ t) :
    ({ v with shapes := s } : World α L).Mirrors δ same { w with shapes := t } :=
  { mirrors with shapes := shapes }

end Looking

/-! ## Operations -/

theorem simulates_createBody : Simulates k (Alike k.offsets fun b c => b = c.raise k.offsets)
    (createBody : Attempt α L ρ BodyRef).attempt
    (createBody : Attempt α L ρ BodyRef).attempt := by
  refine Simulates.attempt_bind (R := fun b c => b = c.raise k.offsets) ?_ fun b c same =>
    (simulates_note _ _).attempt_bind fun _ _ _ => simulates_attempt_pure same
  refine simulates_of_quiet (quiet_onBodies _) (quiet_onBodies _) fun v w mirrors => ?_
  have beside := mirrors.bodies.beside mirrors.memory
  obtain ⟨alike, made⟩ := beside.create (fun _ => rfl) (Body.standard : Body α)
  exact ⟨alike, { mirrors with memory := made.memory, bodies := made.arena }⟩

theorem simulates_destroyBody (b : BodyRef) : Simulates k (Alike k.offsets Eq)
    (destroyBody (b.raise k.offsets) : Attempt α L ρ Unit).attempt
    (destroyBody b : Attempt α L ρ Unit).attempt := by
  refine simulates_attempt_get.attempt_bind fun v w mirrors => ?_
  refine (simulates_ofExcept (mirrors.bodies.destroy b)).attempt_bind fun _ _ destroyed => ?_
  exact (simulates_set (mirrors.set_bodies destroyed)).attempt_bind fun _ _ _ =>
    simulates_note _ _

theorem simulates_editBody (b : BodyRef) (f : Body α → Body α) : Simulates k (Alike k.offsets Eq)
    (editBody (b.raise k.offsets) f : Attempt α L ρ (Body α)).attempt
    (editBody b f : Attempt α L ρ (Body α)).attempt := by
  refine simulates_attempt_get.attempt_bind fun v w mirrors => ?_
  refine (simulates_ofExcept (mirrors.bodies.get b)).attempt_bind fun _ _ found => ?_
  have edits := mirrors.bodies.modify (fun _ => rfl) b (f := f) (g := f) fun _ => rfl
  refine (simulates_ofExcept edits).attempt_bind fun _ _ edited => ?_
  exact (simulates_set (mirrors.set_bodies edited)).attempt_bind fun _ _ _ =>
    simulates_attempt_pure (congrArg f found)

theorem simulates_destroyCollider (c : ColliderRef) : Simulates k (Alike k.offsets Eq)
    (destroyCollider (c.raise k.offsets) : Attempt α L ρ Unit).attempt
    (destroyCollider c : Attempt α L ρ Unit).attempt := by
  refine simulates_attempt_get.attempt_bind fun v w mirrors => ?_
  refine (simulates_ofExcept (mirrors.colliders.get c)).attempt_bind fun _ collider found => ?_
  subst found
  refine (simulates_ofExcept (mirrors.colliders.destroy c)).attempt_bind fun _ _ destroyed => ?_
  refine (simulates_set (mirrors.set_colliders destroyed)).attempt_bind fun _ _ _ => ?_
  have removes := mirrors.shapes.remove collider.kind collider.place
  refine (simulates_ofExcept removes).attempt_bind fun _ _ removed => ?_
  exact (simulates_set ((mirrors.set_colliders destroyed).set_shapes removed)).attempt_bind
    fun _ _ _ => simulates_note _ _

theorem simulates_editCollider (c : ColliderRef) {f g : Collider α → Collider α}
    (edits : ∀ v, f (v.raise k.offsets) = (g v).raise k.offsets) :
    Simulates k (Alike k.offsets fun v u => v = u.raise k.offsets)
      (editCollider (c.raise k.offsets) f : Attempt α L ρ (Collider α)).attempt
      (editCollider c g : Attempt α L ρ (Collider α)).attempt := by
  refine simulates_attempt_get.attempt_bind fun v w mirrors => ?_
  refine (simulates_ofExcept (mirrors.colliders.get c)).attempt_bind fun _ collider found => ?_
  subst found
  have edited := mirrors.colliders.modify (Collider.isLive_raise k.offsets) c edits
  refine (simulates_ofExcept edited).attempt_bind fun _ _ edited => ?_
  exact (simulates_set (mirrors.set_colliders edited)).attempt_bind fun _ _ _ =>
    simulates_attempt_pure (edits collider)

theorem simulates_reshapeAt (i : Nat) (r : Reshape α) : Simulates k (Alike k.offsets Eq)
    (reshapeAt i r : Attempt α L ρ (Shape α)).attempt
    (reshapeAt i r : Attempt α L ρ (Shape α)).attempt := by
  refine simulates_attempt_get.attempt_bind fun v w mirrors => ?_
  refine (simulates_ofExcept (mirrors.shapes.reshape i r)).attempt_bind fun _ _ changed => ?_
  exact (simulates_set (mirrors.set_shapes changed.2)).attempt_bind fun _ _ _ =>
    simulates_attempt_pure changed.1

theorem simulates_reshape (c : ColliderRef) (r : Reshape α) : Simulates k (Alike k.offsets Eq)
    (reshape (c.raise k.offsets) r : Attempt α L ρ (Shape α)).attempt
    (reshape c r : Attempt α L ρ (Shape α)).attempt := by
  refine simulates_attempt_get.attempt_bind fun v w mirrors => ?_
  refine (simulates_ofExcept (mirrors.colliders.get c)).attempt_bind fun _ collider found => ?_
  subst found
  have kind : (collider.raise k.offsets).kind = collider.kind := rfl
  rw [kind]
  split
  · exact simulates_reshapeAt collider.place r
  · exact simulates_of_quiet (quiet_throw _) (quiet_throw _) fun _ _ mirrors =>
      ⟨.error (.kindMismatch r.kind collider.kind), mirrors⟩

/-- A collider is created in both worlds and told its handle, or is refused in both. -/
theorem create_told {x y : Memory × Arena .collider (Collider α)}
    (beside : Arena.MirrorsBeside δ (Collider.raise δ) x y) (b : BodyRef) {kind : ShapeKind}
    (real : kind ≠ .empty) (place : Nat) :
    let out := (Arena.create (Collider.make (b.raise δ) kind place)).attempt.run x
    let out' := (Arena.create (Collider.make b kind place)).attempt.run y
    out.state.1.withoutTotals = out'.state.1.withoutTotals ∧
      ((∃ c : ColliderRef, out.answer = .ok (c.raise δ) ∧ out'.answer = .ok c ∧
        ∃ told told' : Arena .collider (Collider α),
          (out.state.2.modify (c.raise δ) fun v => { v with self := c.raise δ }) = .ok told ∧
          (out'.state.2.modify c fun v => { v with self := c }) = .ok told' ∧
          told.Mirrors δ (Collider.raise δ) told') ∨
      ∃ fault, out.answer = .error (fault.raise δ) ∧ out'.answer = .error fault ∧
        out.state.2.Mirrors δ (Collider.raise δ) out'.state.2) := by
  have live : ∀ b : BodyRef, Entity.isLive (Collider.make b kind place : Collider α) = true :=
    fun _ => decide_eq_true real
  obtain ⟨memory, ⟨c, made, made', writes⟩ | refused⟩ :=
    beside.create_write (Collider.isLive_raise δ) (Collider.make (b.raise δ) kind place)
      (Collider.make b kind place)
  · refine ⟨memory, .inl ⟨c, made, made', _, _, ?_, ?_, writes
      { Collider.make b kind place with self := c }⟩⟩
    · rw [Arena.modify, (Arena.create_fills made).get (live _)]
      rfl
    · rw [Arena.modify, (Arena.create_fills made').get (live _)]
      rfl
  · exact ⟨memory, .inr refused⟩

theorem simulates_attach (b : BodyRef) (shape : Shape α) :
    Simulates k (Alike k.offsets fun c d => c = d.raise k.offsets)
      (attach (b.raise k.offsets) shape : Attempt α L ρ ColliderRef).attempt
      (attach b shape : Attempt α L ρ ColliderRef).attempt := by
  refine simulates_of_quiet (quiet_attach _ shape) (quiet_attach b shape) fun v w mirrors => ?_
  rw [run_attach, run_attach]
  rcases (mirrors.bodies.get b).cases with ⟨_, _, found, found', _⟩ | ⟨fault, missing, missing'⟩
  · rw [found, found']
    obtain ⟨alike, memory, shapes⟩ := mirrors.shapes.insert mirrors.memory shape
    dsimp only
    rcases alike.cases with ⟨place, _, stored, stored', rfl⟩ | ⟨fault, refused, refused'⟩
    · rw [stored, stored']
      have beside := mirrors.colliders.beside memory
      obtain ⟨memory, ⟨c, made, made', told, told', tells, tells', colliders⟩ |
        ⟨fault, refused, refused', colliders⟩⟩ :=
        create_told beside b (kind_of_insert stored) place
      · dsimp only at made made' ⊢
        rw [made, made']
        dsimp only at tells tells' ⊢
        rw [tells, tells']
        exact ⟨.ok rfl,
          { mirrors with memory := memory, shapes := shapes, colliders := colliders }⟩
      · dsimp only at refused refused' ⊢
        rw [refused, refused']
        dsimp only
        rcases (shapes.remove shape.kind place).cases with ⟨_, _, freed, freed', shapes⟩ |
          ⟨missing, kept, kept'⟩
        · rw [freed, freed']
          exact ⟨.error fault,
            { mirrors with memory := memory, shapes := shapes, colliders := colliders }⟩
        · rw [kept, kept']
          exact ⟨.error missing,
            { mirrors with memory := memory, shapes := shapes, colliders := colliders }⟩
    · rw [refused, refused']
      exact ⟨.error fault, { mirrors with memory := memory, shapes := shapes }⟩
  · rw [missing, missing']
    exact ⟨.error fault, mirrors⟩

theorem simulates_createCollider (b : BodyRef) (kind : ShapeKind) :
    Simulates k (Alike k.offsets fun c d => c = d.raise k.offsets)
      (createCollider (b.raise k.offsets) kind : Attempt α L ρ ColliderRef).attempt
      (createCollider b kind : Attempt α L ρ ColliderRef).attempt := by
  unfold createCollider
  split
  · exact simulates_of_quiet (quiet_throw _) (quiet_throw _) fun _ _ mirrors =>
      ⟨.error .noGeometry, mirrors⟩
  · exact simulates_attach b _

/-! ### Starting afresh -/

theorem Mirrors.blocks (mirrors : v.Mirrors δ same w) : v.blocks = w.blocks := by
  simp only [World.blocks, Shapes.blocks, mirrors.shapes.circles.arena.blocks,
    mirrors.shapes.rectangles.arena.blocks, mirrors.shapes.polygons.arena.blocks,
    mirrors.colliders.blocks, mirrors.bodies.blocks]

/-- Giving up everything leaves worlds that mirror each other. -/
theorem Mirrors.vacated (mirrors : v.Mirrors δ same w) :
    ((vacate : Action α L ρ Unit).run v).state.Mirrors δ same
      ((vacate : Action α L ρ Unit).run w).state := by
  rw [state_vacate_eq, state_vacate_eq, mirrors.tree, QuadTree.clear_raise, mirrors.blocks]
  exact
    { mirrors with
      memory := Memory.reset_congr (Memory.returned_congr mirrors.memory _)
      bodies := mirrors.bodies.cleared
      colliders := mirrors.colliders.cleared
      shapes := ⟨mirrors.shapes.circles.cleared, mirrors.shapes.rectangles.cleared,
        mirrors.shapes.polygons.cleared⟩
      tree := rfl
      touching := rfl }

theorem Mirrors.emptied (mirrors : v.Mirrors δ same w) (gravity : Vector2 α) (slots : Int) :
    (v.emptied gravity slots).Mirrors δ same (w.emptied gravity slots) :=
  { mirrors.vacated (ρ := Unit) with
    settings := by simp only [World.emptied, state_vacate_eq, mirrors.settings] }

theorem simulates_reserveSlots : Simulates k (Alike k.offsets Eq)
    (reserveSlots : Attempt α L ρ Unit).attempt (reserveSlots : Attempt α L ρ Unit).attempt := by
  refine simulates_attempt_get.attempt_bind fun v w seen => ?_
  rw [seen.settings]
  refine Simulates.attempt_bind (R := Eq) ?_ fun _ _ _ => ?_
  · refine simulates_of_quiet (quiet_onBodies _) (quiet_onBodies _) fun v w mirrors => ?_
    have beside := mirrors.bodies.beside mirrors.memory
    obtain ⟨alike, grown⟩ := beside.reserve _
    exact ⟨alike, { mirrors with memory := grown.memory, bodies := grown.arena }⟩
  · refine simulates_attempt_get.attempt_bind fun v w seen => ?_
    rw [seen.settings]
    refine simulates_of_quiet (quiet_onColliders _) (quiet_onColliders _) fun v w mirrors => ?_
    have beside := mirrors.colliders.beside mirrors.memory
    obtain ⟨alike, grown⟩ := beside.reserve _
    exact ⟨alike, { mirrors with memory := grown.memory, colliders := grown.arena }⟩

theorem simulates_restart (gravity : Vector2 α) (slots : Int) : Simulates k (Alike k.offsets Eq)
    (restart gravity slots : Attempt α L ρ Unit).attempt
    (restart gravity slots : Attempt α L ρ Unit).attempt := by
  refine simulates_of_quiet (quiet_restart _ _) (quiet_restart _ _) fun v w mirrors => ?_
  obtain ⟨answer, state⟩ := run_restart gravity slots v (ρ := ρ)
  obtain ⟨answer', state'⟩ := run_restart gravity slots w (ρ := ρ)
  rw [answer, state, answer', state']
  have reserved := simulates_reserveSlots (k := k) _ _ (mirrors.emptied gravity slots)
  exact ⟨reserved.answer, reserved.state⟩

end World

/-- **Operations that mirror each other answer alike**, on worlds that mirror each other, and leave
such worlds. -/
theorem Operation.simulates_perform {k : Likeness α L ρ} {op op' : Operation α L}
    {answers : op.Answer → op'.Answer → Prop}
    (mirrors : Operation.Mirrors k.offsets k.same op op' answers)
    {onUpdate onUpdate' : α → Action α L ρ Unit}
    (updates : ∀ dt, Simulates k Eq (onUpdate dt) (onUpdate' dt)) :
    Simulates k answers (op.perform onUpdate) (op'.perform onUpdate') := by
  cases mirrors with
  | look => exact simulates_get
  | restart gravity slots => exact World.simulates_restart gravity slots
  | vacate =>
      exact simulates_of_quiet quiet_vacate quiet_vacate fun _ _ mirrors => ⟨rfl, mirrors.vacated⟩
  | setGravity gravity =>
      exact simulates_modify fun v w mirrors =>
        { mirrors with settings := by simp only [World.setGravity, mirrors.settings] }
  | installListener listeners =>
      refine simulates_of_quiet (fun _ _ member => nomatch member)
        (fun _ _ member => nomatch member) fun v w mirrors =>
          ⟨mirrors.listener, { mirrors with listener := .some listeners }⟩
  | removeListener =>
      refine simulates_of_quiet (fun _ _ member => nomatch member)
        (fun _ _ member => nomatch member) fun v w mirrors =>
          ⟨mirrors.listener, { mirrors with listener := .none }⟩
  | createBody => exact World.simulates_createBody
  | destroyBody b => exact World.simulates_destroyBody b
  | editBody b f => exact World.simulates_editBody b f
  | createCollider b kind => exact World.simulates_createCollider b kind
  | attach b shape => exact World.simulates_attach b shape
  | destroyCollider c => exact World.simulates_destroyCollider c
  | editCollider c edits => exact World.simulates_editCollider c edits
  | reshapeAt place r => exact World.simulates_reshapeAt place r
  | reshape c r => exact World.simulates_reshape c r
  | update dt => exact updates dt

end PlanarDynamics
