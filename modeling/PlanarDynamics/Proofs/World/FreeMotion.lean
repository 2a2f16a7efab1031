import PlanarDynamics.Proofs.Contact.Momentum
import PlanarDynamics.Proofs.World.Motion

/-!
# Bodies that nothing but forces acts on

A moving body that takes part in no resolved contact and is only ever edited by applying forces to
it goes where gravity and these forces take it. What it feels is its `Course`: every update adds a
`Stretch` of time with the gravity that is set and the force that has been applied since the update
before, whether the operations come from outside or from the listener in the middle of a frame
(`Course.add`). With exact arithmetic its velocity is the sum of the accelerations over the
stretches and its position the sum of the velocities reached in them (`Body.travelled`).

Operations keep the body on its course (`World.OnCourse.perform`), and so does the turn to a pair,
with the call of the listener (`World.kept_travelling`). The motion that opens a frame adds its
stretch (`World.OnCourse.opening`). So the course of a whole run leads to where the body then is
(`World.carried_by_forces`), and without forces the mass makes no difference. When nothing listens
and nothing collides, the course is made up of the stretches that were asked for
(`World.Lone.course_operations`).
-/

set_option autoImplicit false

namespace PlanarDynamics

/-! ## Courses -/

/-- A frame as a free body feels it. -/
structure Stretch (α : Type) where
  dt : α
  gravity : Vector2 α
  force : Vector2 α

/-- What a free body has felt so far. -/
structure Course (α : Type) where
  /-- The frames that have moved the body, from the first on. -/
  stretches : List (Stretch α)
  /-- The gravity that the next frame will find. -/
  gravity : Vector2 α
  /-- The force applied since the last frame has moved the body. -/
  pushed : Vector2 α

section Course

variable {α L ρ : Type} [Scalar α]

/-- The operations that let a body feel a stretch. -/
def Stretch.operations (s : Stretch α) (b : BodyRef) : List (Operation α L) :=
  [.setGravity s.gravity, .editBody b fun v => v.applyForce s.force, .update s.dt]

/-- One more frame, which uses up the force. -/
def Course.frame (c : Course α) (dt : α) : Course α :=
  { c with stretches := c.stretches ++ [⟨dt, c.gravity, c.pushed⟩], pushed := 0 }

/-- What a moment adds to the course of a body. A refused update adds nothing, and the force that
an edit applies is what it makes of a body without force. -/
def Course.add (b : BodyRef) (c : Course α) : Moment α L ρ → Course α
  | .asked w (.update dt) _ => if w.updating then c else c.frame dt
  | .asked _ (.setGravity gravity) _ => { c with gravity := gravity }
  | .asked _ (.editBody h f) _ =>
    if h = b then { c with pushed := c.pushed + (f .standard).force } else c
  | _ => c

/-- An update outside of a frame adds the frame that it starts. -/
theorem Course.add_update {w : World α L} (idle : w.updating = false) (b : BodyRef) (c : Course α)
    (dt : α) : c.add b (.asked w (.update dt) () : Moment α L ρ) = c.frame dt :=
  if_neg (Bool.eq_false_iff.mp idle)

/-- The course of a body in a run. -/
def World.course (react : Reaction α L ρ) (ops : List (Operation α L)) (w : World α L)
    (b : BodyRef) : Course α :=
  (history react ops w).foldl (Course.add b) ⟨[], w.settings.gravity, 0⟩

/-- The operation keeps the body, and edits it only by applying a force. -/
def Operation.LeavesToForces (b : BodyRef) : Operation α L → Prop
  | .restart _ _ | .vacate => False
  | .destroyBody h => h ≠ b
  | .editBody h f => h = b → ∃ force, f = fun v => v.applyForce force
  | _ => True

/-- What is asked at the moment keeps the body, and edits it only by applying a force. -/
def Moment.LeavesToForces (b : BodyRef) : Moment α L ρ → Prop
  | .asked _ op _ => op.LeavesToForces b
  | .told _ => True

/-- The body is edited at the moment. -/
def Moment.Edits (b : BodyRef) : Moment α L ρ → Prop
  | .asked _ (.editBody h _) _ => h = b
  | _ => False

namespace World

/-- The pair is in contact, and the body is one of the two that this pushes apart. -/
def TakesPart (w : World α L) (p : ColliderPair) (b : BodyRef) : Prop :=
  ∃ x c, w.collision? p = some (x, c) ∧ (b = x.bodyA ∨ b = x.bodyB)

/-- The body takes part in no contact of a frame. -/
def Spared (react : Reaction α L ρ) (dt : α) (w : World α L) (b : BodyRef) : Prop :=
  ∀ t ∈ tests react dt w, ¬ t.2.TakesPart t.1 b

/-- The body takes part in no contact of a run. -/
def SparedIn (react : Reaction α L ρ) (b : BodyRef) : List (Operation α L) → World α L → Prop
  | [], _ => True
  | op :: ops, w => (∀ dt, op = .update dt → w.Spared react dt b) ∧
      SparedIn react b ops ((op.perform (update react)).run w).state

theorem sparedIn_append {react : Reaction α L ρ} {b : BodyRef}
    {first second : List (Operation α L)} {w : World α L} :
    SparedIn react b (first ++ second) w ↔
      SparedIn react b first w ∧ SparedIn react b second (after react first w) := by
  induction first generalizing w with
  | nil => exact ⟨fun spared => ⟨trivial, spared⟩, And.right⟩
  | cons op rest ih =>
      rw [List.cons_append, SparedIn, SparedIn, ih, and_assoc]
      rfl

end World

end Course

/-! ## Where a course leads -/

namespace Body

variable (v : Body ℝ)

/-- The velocity of a body after stretches of time, in each of which it is accelerated. -/
noncomputable def velocityAfter (ss : List (Stretch ℝ)) : Vector2 ℝ :=
  v.velocity + (ss.map fun s => ((s.gravity + s.force / v.mass) * s.dt : Vector2 ℝ)).sum

/-- The position of a body after stretches of time: in each it moves with the velocity it has at
the end of it. -/
noncomputable def positionAfter (ss : List (Stretch ℝ)) : Vector2 ℝ :=
  v.position + (ss.mapIdx fun k s => v.velocityAfter (ss.take (k + 1)) * s.dt).sum

/-- The body where its course leads it. -/
noncomputable def travelled (c : Course ℝ) : Body ℝ :=
  { v with
    velocity := v.velocityAfter c.stretches
    position := v.positionAfter c.stretches
    force := c.pushed }

theorem velocityAfter_concat (ss : List (Stretch ℝ)) (s : Stretch ℝ) :
    v.velocityAfter (ss ++ [s]) =
      v.velocityAfter ss + (s.gravity + s.force / v.mass) * s.dt := by
  simp only [velocityAfter, List.map_append, List.map_cons, List.map_nil, List.sum_append,
    List.sum_singleton, add_assoc]

theorem positionAfter_concat (ss : List (Stretch ℝ)) (s : Stretch ℝ) :
    v.positionAfter (ss ++ [s]) = v.positionAfter ss + v.velocityAfter (ss ++ [s]) * s.dt := by
  have before : (ss.mapIdx fun k t => v.velocityAfter ((ss ++ [s]).take (k + 1)) * t.dt) =
      ss.mapIdx fun k t => v.velocityAfter (ss.take (k + 1)) * t.dt := by
    refine List.mapIdx_eq_mapIdx_iff.mpr fun k inside => ?_
    rw [List.take_append_of_le_length inside]
  have last : (ss ++ [s]).take (ss.length + 1) = ss ++ [s] :=
    List.take_of_length_le (by simp)
  rw [positionAfter, List.mapIdx_concat, before, last, List.sum_append, List.sum_singleton,
    ← add_assoc]
  rfl

/-- A stretch without force accelerates all masses alike. -/
theorem velocityAfter_mass {ss : List (Stretch ℝ)} (unforced : ∀ s ∈ ss, s.force = 0) (m : ℝ) :
    ({ v with mass := m }).velocityAfter ss = v.velocityAfter ss := by
  have none : ∀ n : ℝ, (0 : Vector2 ℝ) / n = 0 := fun n =>
    Vector2.ext (zero_div n) (zero_div n)
  refine congrArg (fun added : List (Vector2 ℝ) => v.velocity + added.sum) ?_
  refine List.map_congr_left fun s member => ?_
  rw [unforced s member, none, none]

/-- Without forces all masses go the same way. -/
theorem positionAfter_mass {ss : List (Stretch ℝ)} (unforced : ∀ s ∈ ss, s.force = 0) (m : ℝ) :
    ({ v with mass := m }).positionAfter ss = v.positionAfter ss := by
  refine congrArg (fun moved : List (Vector2 ℝ) => v.position + moved.sum) ?_
  refine List.mapIdx_eq_mapIdx_iff.mpr fun k inside => ?_
  rw [v.velocityAfter_mass (fun s member => unforced s (List.mem_of_mem_take member)) m]

variable {v}

/-- **The motion of a frame adds its stretch to the course.** -/
theorem step_travelled (moving : v.kind = .moving) (live : v.isLive = true) (c : Course ℝ)
    (dt : ℝ) : (v.travelled c).step c.gravity dt = v.travelled (c.frame dt) := by
  have velocity := v.velocityAfter_concat c.stretches ⟨dt, c.gravity, c.pushed⟩
  have position := v.positionAfter_concat c.stretches ⟨dt, c.gravity, c.pushed⟩
  rw [velocity] at position
  have moving' : (v.travelled c).kind = .moving := moving
  have live' : (v.travelled c).isLive = true := live
  rw [step_of_moving moving' live']
  exact Body.ext position.symm velocity.symm rfl rfl rfl

end Body

/-! ## Operations -/

namespace World

variable {L ρ : Type} {w : World ℝ L} {b : BodyRef} {v : Body ℝ} {c : Course ℝ}

/-- The body is where its course has led it, and gravity is that of the course. -/
structure OnCourse (w : World ℝ L) (b : BodyRef) (v : Body ℝ) (c : Course ℝ) : Prop where
  body : w.bodies.get b = .ok (v.travelled c)
  gravity : w.settings.gravity = c.gravity

namespace OnCourse

/-- What touches neither the bodies nor gravity keeps a body on its course. -/
theorem of_eq {w' : World ℝ L} (on : w.OnCourse b v c) (bodies : w'.bodies = w.bodies)
    (settings : w'.settings = w.settings) : w'.OnCourse b v c :=
  ⟨bodies ▸ on.body, settings ▸ on.gravity⟩

/-- What happens to another body keeps a body on its course. -/
theorem write (on : w.OnCourse b v c) {h : BodyRef} {u : Body ℝ} (other : h ≠ b)
    (found : w.bodies.get h = .ok u) (u' : Body ℝ) :
    OnCourse { w with bodies := w.bodies.write h.index u' } b v c := by
  refine ⟨(Arena.get_write_of_ne fun place => other ?_).mpr on.body, on.gravity⟩
  exact Arena.eq_of_get found on.body place.symm

/-- An edit adds its force to the course of the body, and nothing to that of another one. -/
theorem edit (on : w.OnCourse b v c) {h : BodyRef} {f : Body ℝ → Body ℝ}
    (left : h = b → ∃ force, f = fun u => u.applyForce force) :
    let out := (editBody h f : Attempt ℝ L ρ (Body ℝ)).attempt.run w
    out.state.OnCourse b v (c.add b (.asked w (.editBody h f) out.answer : Moment ℝ L ρ)) := by
  dsimp only
  rw [run_editBody]
  by_cases this : h = b
  · subst this
    obtain ⟨force, rfl⟩ := left rfl
    have added : c.add h (.asked w (.editBody h fun u => u.applyForce force)
        (.ok ((v.travelled c).applyForce force)) : Moment ℝ L ρ) =
          { c with pushed := c.pushed + force } := by
      have alone : (Body.standard.applyForce force).force = force := zero_add force
      rw [Course.add, if_pos rfl, alone]
    rw [on.body]
    dsimp only
    rw [added]
    exact ⟨Arena.get_write_of_get on.body (Arena.get_eq_ok_iff.mp on.body).2, on.gravity⟩
  · have same : ∀ answer, c.add b (.asked w (.editBody h f) answer : Moment ℝ L ρ) = c :=
      fun _ => if_neg this
    cases found : w.bodies.get h with
    | ok u =>
        dsimp only
        rw [same]
        exact on.write this found (f u)
    | error fault =>
        dsimp only
        rw [same]
        exact on

/-- **Operations that leave the body to forces keep it on its course.** -/
theorem perform (on : w.OnCourse b v c) {op : Operation ℝ L} (left : op.LeavesToForces b)
    (refused : ∀ dt, op = .update dt → w.updating = true) :
    let out := (op.perform (refuseUpdate : ℝ → Action ℝ L ρ Unit)).run w
    out.state.OnCourse b v (c.add b (.asked w op out.answer : Moment ℝ L ρ)) := by
  cases op with
  | look | installListener _ | removeListener => exact on.of_eq rfl rfl
  | restart _ _ | vacate => exact left.elim
  | setGravity gravity => exact ⟨on.body, rfl⟩
  | update dt =>
      have same : c.add b (.asked w (.update dt) () : Moment ℝ L ρ) = c :=
        if_pos (refused dt rfl)
      exact (congrArg (w.OnCourse b v) same).mpr on
  | createBody =>
      dsimp only [Operation.perform]
      rw [run_createBody]
      have live : Entity.isLive (Body.standard : Body ℝ) = true := decide_eq_true one_pos
      dsimp only
      cases made : ((Arena.create Body.standard).attempt.run (w.memory, w.bodies)).answer with
      | ok h =>
          have kept := ((Arena.create_fills made).get_iff live).mpr (.inr on.body)
          exact ⟨kept, on.gravity⟩
      | error fault => exact on.of_eq (Arena.create_refused made) rfl
  | destroyBody h =>
      dsimp only [Operation.perform]
      rw [run_destroyBody]
      cases done : w.bodies.destroy h with
      | ok bodies =>
          exact ⟨(Arena.get_destroy_iff done).mpr ⟨on.body, Ne.symm left⟩, on.gravity⟩
      | error fault => exact on
  | editBody h f => exact on.edit left
  | createCollider h kind =>
      dsimp only [Operation.perform, createCollider]
      split
      · exact on
      · obtain ⟨memory, colliders, shapes, same⟩ := state_attach h (.standard kind) w (ρ := ρ)
        rw [same]
        exact on.of_eq rfl rfl
  | attach h shape =>
      obtain ⟨memory, colliders, shapes, same⟩ := state_attach h shape w (ρ := ρ)
      dsimp only [Operation.perform]
      rw [same]
      exact on.of_eq rfl rfl
  | destroyCollider h =>
      obtain ⟨colliders, shapes, same⟩ := state_destroyCollider h w (ρ := ρ)
      dsimp only [Operation.perform]
      rw [same]
      exact on.of_eq rfl rfl
  | editCollider h f =>
      dsimp only [Operation.perform]
      rw [run_editCollider]
      cases w.colliders.get h with
      | ok collider => exact on.of_eq rfl rfl
      | error fault => exact on
  | reshapeAt i r =>
      obtain ⟨shapes, same⟩ := state_reshapeAt i r w (ρ := ρ)
      dsimp only [Operation.perform]
      rw [same]
      exact on.of_eq rfl rfl
  | reshape h r =>
      obtain ⟨shapes, same⟩ := state_reshape h r w (ρ := ρ)
      dsimp only [Operation.perform]
      rw [same]
      exact on.of_eq rfl rfl

end OnCourse

/-! ## Frames -/

/-- In the middle of a frame, after a past that has left the body to forces, the body is on its
course. -/
def Travelling (b : BodyRef) (v : Body ℝ) (c : Course ℝ) (past : List (Moment ℝ L ρ))
    (w : World ℝ L) : Prop :=
  (∀ m ∈ past, m.LeavesToForces b) →
    w.updating = true ∧ w.OnCourse b v (past.foldl (Course.add b) c)

section Frames

variable {past : List (Moment ℝ L ρ)} {react : Reaction ℝ L ρ}

theorem travelling_inside :
    CarriedInside (Travelling b v c : List (Moment ℝ L ρ) → World ℝ L → Prop) := by
  intro past w op start out left
  obtain ⟨left, last⟩ := List.forall_mem_append.mp left
  obtain ⟨busy, on⟩ := start left
  rw [List.foldl_append]
  exact ⟨(op.effect_perform w).updating.trans busy,
    on.perform (last _ (List.mem_singleton_self _)) fun _ _ => busy⟩

theorem travelling_told :
    KeptByTelling (Travelling b v c : List (Moment ℝ L ρ) → World ℝ L → Prop) := by
  intro past call start left
  rw [List.foldl_append]
  exact start (List.forall_mem_append.mp left).1

theorem travelling_tracking :
    KeptByTracking (Travelling b v c : List (Moment ℝ L ρ) → World ℝ L → Prop) := by
  intro past w touching start left
  obtain ⟨busy, on⟩ := start left
  exact ⟨busy, on.of_eq rfl rfl⟩

/-- The turn to a pair keeps a body on its course that takes no part in its contact. -/
theorem Travelling.visit (start : Travelling b v c past w) {p : ColliderPair}
    (apart : ¬ w.TakesPart p b) (done : Progress L) :
    let out := (World.visit react done p).run w
    Travelling b v c (past ++ out.notes.flatMap (Note.moments react)) out.state := by
  have handled := handled react done p w
  generalize (World.visit react done p).run w = out at handled
  cases handled with
  | passed untested logs =>
      dsimp only
      rw [logs.moments react, List.append_nil]
      exact start
  | silent found _ logs =>
      dsimp only
      rw [logs.moments react, List.append_nil]
      intro left
      obtain ⟨busy, on⟩ := start left
      obtain ⟨bodies, parted⟩ := parted_eq w p
      obtain ⟨u, there, _, same⟩ := nudged_parted (p := p) on.body
      obtain rfl := same apart
      rw [parted] at there ⊢
      exact ⟨busy, there, on.gravity⟩
  | told listening verdict called =>
      obtain ⟨_, found, _⟩ := verdict?_eq_some_iff.mp verdict
      obtain ⟨touching, tracked, _, _⟩ := tracked_eq found
      have before := travelling_tracking past w touching start
      rw [← tracked] at before
      rw [called]
      exact holds_dispatch travelling_inside _ _ p past _ fun report =>
        travelling_told past ⟨_, _, _, p, report⟩ before

/-- The visits of a frame, with the turns that are left to come. -/
theorem kept_travelling : KeptByTurns react (visit react) fun items done past w =>
    (∀ t ∈ turns (visit react) done items w, ¬ t.2.TakesPart t.1 b) ∧
      Travelling b v c past w := by
  rintro p rest done past w ⟨apart, start⟩
  obtain ⟨here, later⟩ := List.forall_mem_cons.mp apart
  exact ⟨later, start.visit here done⟩

/-- A frame opens with the body moved along its course. -/
theorem OnCourse.opening (on : w.OnCourse b v c) (moving : v.kind = .moving) (dt : ℝ) :
    Travelling b v (c.frame dt) ([] : List (Moment ℝ L ρ))
      ((World.opening dt : Action ℝ L ρ Unit).run w).state := by
  intro _
  have live : v.isLive = true := (Arena.get_eq_ok_iff.mp on.body).2
  have moved : (w.moved dt).bodies.get b = .ok (v.travelled (c.frame dt)) := by
    refine (Arena.get_mapLive_iff fun u => Body.isLive_step u _ dt).mpr ⟨_, on.body, ?_⟩
    rw [on.gravity]
    exact Body.step_travelled moving live c dt
  rw [state_opening]
  exact ⟨rfl, moved, on.gravity⟩

/-- **A frame that spares the body keeps it on its course.** The body moves before the listener can
act, so what the listener does belongs to the next stretch. -/
theorem OnCourse.update (on : w.OnCourse b v c) (moving : v.kind = .moving) {dt : ℝ}
    (idle : w.updating = false) (spared : w.Spared react dt b)
    (left : ∀ m ∈ (Operation.update dt).moments react w, m.LeavesToForces b) :
    ((World.update react dt).run w).state.OnCourse b v
      (((Operation.update dt).moments react w).foldl (Course.add b) c) := by
  rw [moments_update] at left ⊢
  rw [List.foldl_cons, Course.add_update idle]
  have released : KeptByTurns react (release react) fun _ _ past (w : World ℝ L) =>
      Travelling b v (c.frame dt) past w := fun p _ listener past w start =>
    carries_release travelling_inside travelling_told travelling_tracking listener p past w start
  have closing := holds_advance react dt kept_travelling (fun _ _ _ held => held.2) released
    ⟨spared, on.opening moving dt⟩
  rw [List.nil_append] at closing
  rw [run_update idle] at left ⊢
  obtain ⟨_, on'⟩ := closing (List.forall_mem_cons.mp left).2
  have bodies : ((advance react dt).run w).state.bodies = (releases react dt w).state.bodies := by
    rw [run_advance]
  have settings : ((advance react dt).run w).state.settings =
      (releases react dt w).state.settings := by
    rw [run_advance]
  exact on'.of_eq bodies settings

end Frames

/-! ## Frames of a lone body -/

/-- Nothing listens, and no collider can be in contact. -/
structure Lone (w : World ℝ L) : Prop where
  idle : w.updating = false
  silent : w.listener = none
  empty : w.colliders.entries = []

section Lone

variable (react : Reaction ℝ L ρ) (lone : w.Lone) (b : BodyRef)

include lone

/-- Without colliders no body takes part in a contact. -/
theorem Lone.spared (dt : ℝ) : w.Spared react dt b := by
  have rebuilt : (w.moved dt).rebuilt = w.tree.clear := by
    have none : (w.moved dt).colliders.entries = [] := lone.empty
    rw [World.rebuilt, none]
    rfl
  have pairs : ∀ pairing, (TreeNode.leaf [] : TreeNode ℝ).pairs pairing [] = [] := by
    rintro (_ | _) <;> rfl
  intro t turn
  have member := List.mem_map_of_mem turn (f := Prod.fst)
  rw [tests_fst, state_opening, rebuilt] at member
  have candidate := PairSet.mem_ofList.mp member
  rw [QuadTree.pairs] at candidate
  exact absurd (pairs _ ▸ candidate) List.not_mem_nil

/-- Pushing a body makes nobody listen and nothing collide. -/
theorem Lone.push (force : Vector2 ℝ) :
    let push : Attempt ℝ L ρ (Body ℝ) := editBody b fun v => v.applyForce force
    (push.attempt.run w).state.Lone := by
  dsimp only
  rw [run_editBody]
  split
  · exact ⟨lone.idle, lone.silent, lone.empty⟩
  · exact lone

/-- Nor does a frame. -/
theorem Lone.update (dt : ℝ) : ((World.update react dt).run w).state.Lone := by
  obtain ⟨touching, state, _⟩ := state_update_unheard react dt lone.idle lone.silent
  rw [state]
  exact ⟨lone.idle, lone.silent, lone.empty⟩

/-- A stretch that is asked for is the one that is felt. -/
theorem Lone.feels (s : Stretch ℝ) :
    let ops : List (Operation ℝ L) := s.operations b
    (World.after react ops w).Lone ∧ SparedIn react b ops w ∧
      (∀ m ∈ history react ops w, m.LeavesToForces b) ∧
      ∀ c : Course ℝ, (history react ops w).foldl (Course.add b) c =
        ⟨c.stretches ++ [{ s with force := c.pushed + s.force }], s.gravity, 0⟩ := by
  intro ops
  let push : Operation ℝ L := .editBody b fun v => v.applyForce s.force
  let w₁ := w.setGravity s.gravity
  let pushed := (push.perform (refuseUpdate : ℝ → Action ℝ L ρ Unit)).run w₁
  have turned : w₁.Lone := ⟨lone.idle, lone.silent, lone.empty⟩
  have ready : pushed.state.Lone := turned.push b s.force
  have moments : history react ops w = [.asked w (.setGravity s.gravity) ⟨⟩,
      .asked w₁ push pushed.answer, .asked pushed.state (.update s.dt) ()] := by
    have framed := moments_update_unheard react s.dt ready.idle ready.silent
    have split : history react ops w = [.asked w (.setGravity s.gravity) ⟨⟩] ++
        (push.moments react w₁ ++ ((Operation.update s.dt).moments react pushed.state ++ [])) := rfl
    rw [split, moments_of_ne_update nofun, framed]
    rfl
  refine ⟨ready.update react s.dt, ?_, ?_, fun c => ?_⟩
  · exact ⟨nofun, nofun, fun dt _ => ready.spared react b dt, trivial⟩
  · have edit : push.LeavesToForces b := fun _ => ⟨s.force, rfl⟩
    rw [moments]
    exact List.forall_mem_cons.mpr ⟨trivial, List.forall_mem_cons.mpr
      ⟨edit, List.forall_mem_singleton.mpr trivial⟩⟩
  · have added : (Body.standard.applyForce s.force).force = s.force := zero_add s.force
    rw [moments]
    simp [Course.add, Course.frame, push, added, ready.idle]

/-- Stretches that are asked for are felt one after the other. -/
theorem Lone.feels_all (ss : List (Stretch ℝ)) :
    let ops : List (Operation ℝ L) := ss.flatMap fun s => s.operations b
    SparedIn react b ops w ∧ (∀ m ∈ history react ops w, m.LeavesToForces b) ∧
      ∀ c : Course ℝ, c.pushed = 0 →
        let course := (history react ops w).foldl (Course.add b) c
        course.stretches = c.stretches ++ ss ∧ course.pushed = 0 := by
  induction ss generalizing w with
  | nil =>
      refine ⟨trivial, List.forall_mem_nil _, fun c none => ⟨?_, none⟩⟩
      exact (List.append_nil c.stretches).symm
  | cons s rest ih =>
      obtain ⟨lone', spared, left, felt⟩ := lone.feels react b s
      obtain ⟨spared', left', felt'⟩ := ih lone'
      rw [List.flatMap_cons]
      dsimp only
      rw [sparedIn_append, history_append]
      refine ⟨⟨spared, spared'⟩, List.forall_mem_append.mpr ⟨left, left'⟩, fun c none => ?_⟩
      have same : ({ s with force := c.pushed + s.force } : Stretch ℝ) = s := by
        rw [none, zero_add]
      obtain ⟨stretches, pushed⟩ := felt' ⟨c.stretches ++ [s], s.gravity, 0⟩ rfl
      rw [List.foldl_append, felt, same]
      exact ⟨stretches.trans (by simp), pushed⟩

/-- **Stretches that are asked for one after the other are the course of a lone body.** -/
theorem Lone.course_operations (ss : List (Stretch ℝ)) :
    let ops : List (Operation ℝ L) := ss.flatMap fun s => s.operations b
    SparedIn react b ops w ∧ (∀ m ∈ history react ops w, m.LeavesToForces b) ∧
      (course react ops w b).stretches = ss ∧ (course react ops w b).pushed = 0 := by
  obtain ⟨spared, left, felt⟩ := lone.feels_all react b ss
  exact ⟨spared, left, felt ⟨[], w.settings.gravity, 0⟩ rfl⟩

end Lone

/-! ## Runs -/

section Runs

variable (react : Reaction ℝ L ρ)

/-- **A run that spares the body keeps it on its course.** -/
theorem OnCourse.after (on : w.OnCourse b v c) (moving : v.kind = .moving)
    (idle : w.updating = false) {ops : List (Operation ℝ L)} (spared : SparedIn react b ops w)
    (left : ∀ m ∈ history react ops w, m.LeavesToForces b) :
    (World.after react ops w).OnCourse b v ((history react ops w).foldl (Course.add b) c) := by
  induction ops generalizing w c with
  | nil => exact on
  | cons op rest ih =>
      obtain ⟨here, later⟩ := spared
      obtain ⟨first, second⟩ := List.forall_mem_append.mp left
      have idle' : ((op.perform (World.update react)).run w).state.updating = false :=
        updating_after react [op] idle
      have next : ((op.perform (World.update react)).run w).state.OnCourse b v
          ((op.moments react w).foldl (Course.add b) c) := by
        by_cases other : ∀ dt, op ≠ .update dt
        · rw [moments_of_ne_update other] at first ⊢
          rw [perform_of_ne_update other (World.update react)]
          exact on.perform (first _ (List.mem_singleton_self _)) fun dt same =>
            absurd same (other dt)
        · obtain ⟨dt, rfl⟩ := Classical.not_forall_not.mp other
          exact on.update moving idle (here dt rfl) first
      rw [history, List.foldl_append]
      exact ih next idle' later second

/-- As long as the body is not edited, no force waits to act on it. -/
theorem pushed_foldl {later : List (Moment ℝ L ρ)} (unedited : ∀ m ∈ later, ¬ m.Edits b)
    (none : c.pushed = 0) : (later.foldl (Course.add b) c).pushed = 0 := by
  induction later generalizing c with
  | nil => exact none
  | cons m rest ih =>
      obtain ⟨here, later⟩ := List.forall_mem_cons.mp unedited
      refine ih later ?_
      unfold Course.add
      split
      case h_1 =>
        split
        · exact none
        · rfl
      case h_2 => exact none
      case h_3 h f answer =>
        have other : h ≠ b := here
        rw [if_neg other]
        exact none
      case h_4 => exact none

/-- A frame uses up the force. -/
theorem pushed_after_frame {u : World ℝ L} (idle : u.updating = false) (dt : ℝ)
    (earlier : List (Moment ℝ L ρ)) {later : List (Moment ℝ L ρ)}
    (unedited : ∀ m ∈ later, ¬ m.Edits b) :
    ((earlier ++ .asked u (.update dt) () :: later).foldl (Course.add b) c).pushed = 0 := by
  rw [List.foldl_append, List.foldl_cons, Course.add_update idle]
  exact pushed_foldl unedited rfl

/-- **Free motion.** In every run, whatever the listener does in it, a moving body without force
that takes part in no contact and is edited only by applying forces to it is where its course leads
it. Each frame has changed its velocity by the gravity and the force of the frame, and then its
position by the new velocity. The force is used up, unless the body is edited after the last frame
has moved it, and where none has been applied the mass makes no difference. -/
theorem carried_by_forces (ops : List (Operation ℝ L)) (idle : w.updating = false)
    (found : w.bodies.get b = .ok v) (moving : v.kind = .moving) (unforced : v.force = 0)
    (left : ∀ m ∈ history react ops w, m.LeavesToForces b) (spared : SparedIn react b ops w) :
    let course := course react ops w b
    (World.after react ops w).bodies.get b = .ok (v.travelled course) ∧
      (∀ earlier u dt later, history react ops w = earlier ++ .asked u (.update dt) () :: later →
        u.updating = false → (∀ m ∈ later, ¬ m.Edits b) → course.pushed = 0) ∧
      ((∀ s ∈ course.stretches, s.force = 0) → ∀ m : ℝ,
        ({ v with mass := m }).travelled course = { v.travelled course with mass := m }) := by
  intro course
  refine ⟨?_, ?_, fun none m => ?_⟩
  · have start : w.OnCourse b v ⟨[], w.settings.gravity, 0⟩ := by
      refine ⟨found.trans (congrArg Except.ok ?_), rfl⟩
      exact Body.ext (add_zero v.position).symm (add_zero v.velocity).symm rfl unforced rfl
    exact (start.after react moving idle spared left).body
  · intro earlier u dt later split idle unedited
    dsimp only [course, World.course]
    rw [split]
    exact pushed_after_frame idle dt earlier unedited
  · exact Body.ext (v.positionAfter_mass none m) (v.velocityAfter_mass none m) rfl rfl rfl

end Runs

/-- A body on its own. -/
noncomputable def loneWorld (v : Body ℝ) : World ℝ Unit :=
  { blank .standard with bodies := ⟨#[⟨v, 0⟩], 0, 2, []⟩ }

/-- Two frames, the second of them with a push and without gravity. A body of another mass would
have gone the same way in the first. -/
theorem carried_by_forces_thrown :
    let v : Body ℝ := ⟨0, ⟨3, 0⟩, 2, 0, .moving⟩
    let w := loneWorld v
    let react : Reaction ℝ Unit Unit := fun l _ _ => pure (l, ())
    let b : BodyRef := ⟨0, 0⟩
    let fall : Stretch ℝ := ⟨1, ⟨0, -10⟩, 0⟩
    let push : Stretch ℝ := ⟨1 / 2, 0, ⟨2, 4⟩⟩
    let ops : List (Operation ℝ Unit) := [fall, push].flatMap fun s => s.operations b
    let first : List (Operation ℝ Unit) := [fall].flatMap fun s => s.operations b
    w.updating = false ∧ w.bodies.get b = .ok v ∧ v.kind = .moving ∧ v.force = 0 ∧
      (∀ m ∈ history react ops w, m.LeavesToForces b) ∧ SparedIn react b ops w ∧
      (course react ops w b).stretches = [fall, push] ∧
      (World.after react ops w).bodies.get b =
        .ok ⟨⟨19 / 4, -29 / 2⟩, ⟨7 / 2, -9⟩, 2, 0, .moving⟩ ∧
      ∀ m : ℝ, ({ v with mass := m }).travelled (course react first w b) =
        { v.travelled (course react first w b) with mass := m } := by
  intro v w react b fall push ops first
  have lone : w.Lone := ⟨rfl, rfl, rfl⟩
  have live : Entity.isLive v = true := decide_eq_true two_pos
  have found : w.bodies.get b = .ok v := Arena.get_eq_ok_iff.mpr ⟨rfl, live⟩
  obtain ⟨spared, left, stretches, pushed⟩ := lone.course_operations react b [fall, push]
  obtain ⟨reached, _, _⟩ := carried_by_forces react ops rfl found rfl rfl left spared
  obtain ⟨spared', left', fallen, _⟩ := lone.course_operations react b [fall]
  obtain ⟨_, _, alike⟩ := carried_by_forces react first rfl found rfl rfl left' spared'
  have unforced : ∀ s ∈ (course react first w b).stretches, s.force = 0 :=
    fallen ▸ List.forall_mem_singleton.mpr rfl
  have position : v.positionAfter [fall, push] = ⟨19 / 4, -29 / 2⟩ := by
    ext <;> norm_num [Body.positionAfter, Body.velocityAfter, v, fall, push]
  have velocity : v.velocityAfter [fall, push] = ⟨7 / 2, -9⟩ := by
    ext <;> norm_num [Body.velocityAfter, v, fall, push]
  have travelled : v.travelled (course react ops w b) =
      ⟨⟨19 / 4, -29 / 2⟩, ⟨7 / 2, -9⟩, 2, 0, .moving⟩ :=
    Body.ext ((congrArg v.positionAfter stretches).trans position)
      ((congrArg v.velocityAfter stretches).trans velocity) rfl pushed rfl
  exact ⟨rfl, found, rfl, rfl, left, spared, stretches, travelled ▸ reached, alike unforced⟩

end World

end PlanarDynamics
