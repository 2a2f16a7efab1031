import PlanarDynamics.Proofs.Contact.Response
import PlanarDynamics.Proofs.Store.Outline
import PlanarDynamics.Proofs.World.Effects

/-!
# What a frame does between operations

Apart from the operations of the listener, a frame moves bodies, fills the broad phase and keeps
track of the touching pairs. None of this touches a name: bodies stay live under their handles
(`World.Drifts`), since neither motion nor the solver changes a mass, and colliders stay as they
are. A call of the listener carries on what the operations of its program carry on
(`holds_dispatch`). Together, a whole frame carries on what drift, tracking, telling and operations
carry on (`carries_update`), and so does a whole run (`holds_history`).
-/

set_option autoImplicit false

namespace PlanarDynamics

variable {α L ρ β : Type} [Scalar α]

namespace World

/-! ## Drift -/

/-- The bodies have moved, under their handles, and the broad phase may differ. -/
structure Drifts (w w' : World α L) : Prop where
  bodies : w.bodies.Evolves (fun _ _ _ => True) w'.bodies none none
  /-- Motion neither frees a slot nor fills one. -/
  outline : w.bodies.SameOutline w'.bodies
  boundary : w'.tree.boundary = w.tree.boundary
  limits : w'.tree.settings = w.tree.settings
  /-- All else is as it was, but a frame may have begun or ended. -/
  rest : w' = { w with
    bodies := w'.bodies, tree := w'.tree, listener := w'.listener, updating := w'.updating }

section Drifts

variable {w w' : World α L} (drifts : w.Drifts w')

include drifts

theorem Drifts.colliders : w'.colliders = w.colliders := by rw [drifts.rest]

theorem Drifts.shapes : w'.shapes = w.shapes := by rw [drifts.rest]

theorem Drifts.touching : w'.touching = w.touching := by rw [drifts.rest]

end Drifts

theorem drifts_of_eq {w w' : World α L} (boundary : w'.tree.boundary = w.tree.boundary)
    (limits : w'.tree.settings = w.tree.settings)
    (rest : w' =
      { w with tree := w'.tree, listener := w'.listener, updating := w'.updating }) :
    w.Drifts w' := by
  have bodies : w'.bodies = w.bodies := by rw [rest]
  constructor
  case bodies => exact bodies ▸ Arena.evolves_self fun _ _ _ => trivial
  case outline => exact bodies ▸ .refl w'.bodies
  case boundary => exact boundary
  case limits => exact limits
  case rest => rw [bodies]; exact rest

theorem state_integrate (dt : α) (w : World α L) :
    ((integrate dt : Action α L ρ Unit).run w).state =
      { w with bodies := w.bodies.mapLive (·.step w.settings.gravity dt) } := rfl

theorem drifts_integrate (dt : α) (w : World α L) :
    w.Drifts ((integrate dt : Action α L ρ Unit).run w).state := by
  rw [state_integrate]
  exact
    { bodies := Arena.evolves_mapLive (fun b => Body.isLive_step b _ dt) fun _ _ => trivial
      outline := Arena.sameOutline_mapLive fun b => Body.isLive_step b _ dt
      boundary := rfl
      limits := rfl
      rest := rfl }

theorem run_resolve (x : Examination α) (c : Contact α) (w : World α L) :
    ((resolve x c : Action α L ρ Bool).run w).state =
      match w.bodies.getPair x.bodyA x.bodyB with
      | .error _ => w
      | .ok (a, b) =>
        let r := w.solver.resolve a b x.restitutionA x.restitutionB c
        { w with
          bodies := (w.bodies.write x.bodyA.index r.first).write x.bodyB.index r.second } := by
  simp only [resolve, Recorded.state_bind, Recorded.run_get]
  cases w.bodies.getPair x.bodyA x.bodyB with
  | error _ => rfl
  | ok both =>
      simp only [Recorded.state_bind, Recorded.run_set]
      split <;> rfl

/-- Resolving a contact nudges two bodies under their handles, or finds one of them missing. -/
theorem state_resolve (x : Examination α) (c : Contact α) (w : World α L) :
    ((resolve x c : Action α L ρ Bool).run w).state = w ∨
      ∃ a b a' b', w.bodies.get x.bodyA = .ok a ∧ w.bodies.get x.bodyB = .ok b ∧
        x.bodyA.index ≠ x.bodyB.index ∧ a.Nudged a' ∧ b.Nudged b' ∧
        ((resolve x c : Action α L ρ Bool).run w).state =
          { w with bodies := (w.bodies.write x.bodyA.index a').write x.bodyB.index b' } := by
  rw [run_resolve]
  split
  · exact .inl rfl
  · rename_i a b both
    obtain ⟨first, second, apart⟩ := Arena.get_of_getPair both
    obtain ⟨nudged, nudged'⟩ := w.solver.nudged_resolve a b x.restitutionA x.restitutionB c
    exact .inr ⟨a, b, _, _, first, second, apart, nudged, nudged', rfl⟩

theorem drifts_resolve (x : Examination α) (c : Contact α) (w : World α L) :
    w.Drifts ((resolve x c : Action α L ρ Bool).run w).state := by
  rcases state_resolve x c w (ρ := ρ) with same | ⟨a, b, a', b', first, second, apart, nudged,
    nudged', same⟩
  · rw [same]
    exact drifts_of_eq rfl rfl rfl
  · rw [same]
    have live := nudged.isLive.trans (Arena.get_eq_ok_iff.mp first).2
    have live' := nudged'.isLive.trans (Arena.get_eq_ok_iff.mp second).2
    have there := (Arena.get_write_of_ne (u := a') (Ne.symm apart)).mpr second
    exact
      { bodies := (Arena.evolves_write first live trivial fun _ _ _ => trivial).trans
          (fun _ _ _ _ _ _ => trivial)
          (Arena.evolves_write there live' trivial fun _ _ _ => trivial)
        outline := (Arena.sameOutline_write first live).trans (Arena.sameOutline_write there live')
        boundary := rfl
        limits := rfl
        rest := rfl }

/-! ## Calls and frames -/

variable {react : Reaction α L ρ} {holds : List (Moment α L ρ) → World α L → Prop}

/-- A call of the listener leaves behind that it was told, with the report that its program makes,
and then the moments of the program. -/
theorem moments_dispatch_eq (react : Reaction α L ρ) (listener : L) (event : TriggerEvent)
    (p : ColliderPair) (w : World α L) :
    let out := ((react listener event p).run refuseUpdate : Action α L ρ (L × ρ)).run w
    ((dispatch react listener event p).run w).notes.flatMap (Note.moments react) =
      .told ⟨w, listener, event, p, out.answer.2⟩ :: (react listener event p).moments w := by
  simp only [dispatch, Recorded.notes_bind, Recorded.run_get, Recorded.run_note, Recorded.run_pure,
    List.nil_append, List.append_nil, List.flatMap_append, List.flatMap_singleton,
    (react listener event p).quiet_run.moments react w]
  rfl

theorem moments_dispatch (react : Reaction α L ρ) (listener : L) (event : TriggerEvent)
    (p : ColliderPair) (w : World α L) :
    ∃ report, ((dispatch react listener event p).run w).notes.flatMap (Note.moments react) =
      .told ⟨w, listener, event, p, report⟩ :: (react listener event p).moments w :=
  ⟨_, moments_dispatch_eq react listener event p w⟩

/-- What is true once the listener has been told of an event is true again after its program. -/
theorem holds_dispatch (inside : CarriedInside holds) (listener : L) (event : TriggerEvent)
    (p : ColliderPair) (past : List (Moment α L ρ)) (w : World α L)
    (told : ∀ report, holds (past ++ [.told ⟨w, listener, event, p, report⟩]) w) :
    let out := (dispatch react listener event p).run w
    holds (past ++ out.notes.flatMap (Note.moments react)) out.state := by
  obtain ⟨report, moments⟩ := moments_dispatch react listener event p w
  dsimp only
  rw [moments, List.append_cons]
  exact holds_moments inside (react listener event p) _ w (told report)

/-- What drift keeps true. -/
def KeptByDrift (holds : List (Moment α L ρ) → World α L → Prop) : Prop :=
  ∀ past (w w' : World α L), holds past w → w.Drifts w' → holds past w'

theorem carries_of_drifts (drift : KeptByDrift holds) {m : Action α L ρ β} (quiet : Quiet m)
    (drifts : ∀ w : World α L, w.Drifts (m.run w).state) : Carries react holds m :=
  carries_of_quiet (fun w => quiet.moments react w) fun past w start =>
    drift past w _ start (drifts w)

theorem carries_integrate (drift : KeptByDrift holds) (dt : α) :
    Carries react holds (integrate dt) :=
  carries_of_drifts drift (quiet_get.bind fun _ => (quiet_modify _).bind fun _ => quiet_log _)
    (drifts_integrate dt)

theorem carries_enlist (drift : KeptByDrift holds) (entry : ColliderRef × Collider α) :
    Carries react holds (enlist entry) := by
  refine carries_get.bind fun w => ?_
  cases w.boxOf entry.2 with
  | error fault => exact carries_log _
  | ok box =>
      cases box with
      | none => exact carries_pure _
      | some box =>
          exact carries_of_drifts drift (quiet_onTree _) fun _ => drifts_of_eq rfl rfl rfl

theorem carries_populate (drift : KeptByDrift holds) : Carries react holds populate := by
  have clear : Carries react holds
      (modify fun w : World α L => { w with tree := w.tree.clear }) :=
    carries_of_drifts drift (quiet_modify _) fun _ => drifts_of_eq rfl rfl rfl
  exact clear.bind fun _ => carries_get.bind fun w =>
    (carries_forM (carries_enlist drift) w.colliders.entries).bind fun _ =>
      carries_get.bind fun w => carries_log _

theorem advance_eq (react : Reaction α L ρ) (dt : α) :
    advance react dt = (do
      let w ← get
      opening dt
      let v ← get
      let done ← v.candidates.toList.foldlM (visit react) ⟨w.listener, [], 0⟩
      let v ← get
      let gone := v.touching.filter fun p => !done.tested.contains p
      let listener ← gone.toList.foldlM (release react) done.listener
      let v ← get
      log (.updated dt done.tested.length v.touching.size done.resolved)
      modify fun w => { w with listener := w.listener <|> listener, updating := false }) :=
  rfl

/-- A frame opens without telling the listener. -/
theorem carries_opening (drift : KeptByDrift holds) (dt : α) :
    Carries react holds (opening dt) := by
  have start : Carries react holds
      (modify fun w : World α L => { w with updating := true, listener := none }) :=
    carries_of_drifts drift (quiet_modify _) fun _ => drifts_of_eq rfl rfl rfl
  exact start.bind fun _ => (carries_integrate drift dt).bind fun _ => carries_populate drift

/-- What a frame does before it turns to its first pair leaves no moments behind. -/
theorem moments_opening (react : Reaction α L ρ) (dt : α) (w : World α L) :
    ((opening dt : Action α L ρ Unit).run w).notes.flatMap (Note.moments react) = [] := by
  have nothing : Carries react (fun past _ => past = []) (opening dt) :=
    carries_opening (fun _ _ _ start _ => start) dt
  exact nothing [] w rfl

theorem quiet_resolve (x : Examination α) (c : Contact α) :
    Quiet (resolve x c : Action α L ρ Bool) := by
  refine quiet_get.bind fun w => ?_
  cases w.bodies.getPair x.bodyA x.bodyB with
  | error _ => exact quiet_pure false
  | ok both =>
      refine Quiet.bind (fun _ _ member => nomatch member) fun _ => ?_
      dsimp only
      split
      · exact (quiet_log _).bind fun _ => quiet_pure true
      · exact quiet_pure true

theorem carries_resolve (drift : KeptByDrift holds) (x : Examination α) (c : Contact α) :
    Carries react holds (resolve x c) :=
  carries_of_drifts drift (quiet_resolve x c) (drifts_resolve x c)

theorem carries_examine (p : ColliderPair) : Carries react holds (examine p) := by
  refine carries_get.bind fun w => ?_
  cases w.examination p with
  | ok found => exact carries_pure found
  | error fault => exact (carries_log _).bind fun _ => carries_pure none

omit [Scalar α] in
theorem run_track (p : ColliderPair) (touches : Bool) (w : World α L) :
    (track p touches : Action α L ρ (Option TriggerEvent)).run w =
      match touches, decide (p ∈ w.touching) with
      | true, false => ⟨some .enter, { w with touching := w.touching.insert p }, []⟩
      | true, true => ⟨some .stay, w, []⟩
      | false, true => ⟨some .exit, { w with touching := w.touching.erase p }, []⟩
      | false, false => ⟨none, w, []⟩ := by
  have run : (track p touches : Action α L ρ (Option TriggerEvent)).run w =
      ((match touches, decide (p ∈ w.touching) with
        | true, false => do
          set { w with touching := w.touching.insert p }
          return some .enter
        | true, true => return some .stay
        | false, true => do
          set { w with touching := w.touching.erase p }
          return some .exit
        | false, false => return none) : Action α L ρ (Option TriggerEvent)).run w := rfl
  rw [run]
  cases touches <;> cases decide (p ∈ w.touching) <;> rfl

/-- What telling the listener keeps true. -/
def KeptByTelling (holds : List (Moment α L ρ) → World α L → Prop) : Prop :=
  ∀ past (c : Callback α L ρ), holds past c.world → holds (past ++ [.told c]) c.world

/-- What any change of the touching pairs keeps true. -/
def KeptByTracking (holds : List (Moment α L ρ) → World α L → Prop) : Prop :=
  ∀ past (w : World α L) touching, holds past w → holds past { w with touching := touching }

section Insensitive

variable (inside : CarriedInside holds) (drift : KeptByDrift holds) (told : KeptByTelling holds)
  (tracking : KeptByTracking holds)

include inside told in
theorem carries_notify (listener : Option L) (event : TriggerEvent) (p : ColliderPair) :
    Carries react holds (notify react listener event p) := by
  cases listener with
  | none => exact carries_pure none
  | some l =>
      have call : Carries react holds (dispatch react l event p) := fun past w start =>
        holds_dispatch inside l event p past w fun report =>
          told past ⟨w, l, event, p, report⟩ start
      exact call.bind fun _ => carries_pure _

include tracking in
theorem carries_track (p : ColliderPair) (touches : Bool) :
    Carries react holds (track p touches) := by
  refine carries_of_quiet (fun w => ?_) fun past w start => ?_
  · rw [run_track]
    split <;> rfl
  · rw [run_track]
    split
    · exact tracking past w _ start
    · exact start
    · exact tracking past w _ start
    · exact start

include inside drift told tracking in
theorem carries_visit (done : Progress L) (p : ColliderPair) :
    Carries react holds (visit react done p) := by
  refine (carries_examine p).bind fun found => ?_
  cases found with
  | none => exact carries_pure done
  | some x =>
      refine (carries_track tracking p _).bind fun event => ?_
      dsimp only
      split
      · cases event with
        | none => exact carries_pure _
        | some event =>
            exact (carries_notify inside told done.listener event p).bind fun _ => carries_pure _
      · cases x.meeting.contact? with
        | none => exact carries_pure _
        | some c => exact (carries_resolve drift x c).bind fun _ => carries_pure _

include inside told tracking in
theorem carries_release (listener : Option L) (p : ColliderPair) :
    Carries react holds (release react listener p) := by
  refine Carries.bind (carries_modify fun past w start => tracking past w _ start) fun _ => ?_
  refine carries_get.bind fun w => ?_
  split
  · split
    · exact carries_notify inside told listener .exit p
    · exact carries_pure listener
  · exact (carries_log _).bind fun _ => carries_pure listener

include inside drift told tracking in
theorem carries_advance (dt : α) : Carries react holds (advance react dt) := by
  rw [advance_eq]
  refine carries_get.bind fun w => (carries_opening drift dt).bind fun _ => ?_
  refine carries_get.bind fun w => ?_
  refine (carries_foldlM (carries_visit inside drift told tracking) _ _).bind fun done => ?_
  refine carries_get.bind fun w => ?_
  refine (carries_foldlM (carries_release inside told tracking) _ _).bind fun listener => ?_
  refine carries_get.bind fun w => (carries_log _).bind fun _ => ?_
  exact carries_of_drifts drift (quiet_modify _) fun _ => drifts_of_eq rfl rfl rfl

include inside drift told tracking in
/-- **An update carries on what drift, tracking, telling and operations carry on.** -/
theorem carries_update (dt : α) : Carries react holds (update react dt) := by
  refine carries_get.bind fun w => ?_
  split
  · exact carries_log .nestedUpdate
  · exact carries_advance inside drift told tracking dt

end Insensitive

/-! ## Whole runs -/

/-- What every update of a run carries on. -/
def CarriedByUpdates (react : Reaction α L ρ) (holds : List (Moment α L ρ) → World α L → Prop) :
    Prop :=
  ∀ past (w : World α L) dt, holds past w →
    holds (past ++ (Operation.update dt).moments react w) ((update react dt).run w).state

theorem carriedByUpdates_of_carries (inside : CarriedInside holds)
    (carries : ∀ dt, Carries react holds (update react dt)) : CarriedByUpdates react holds := by
  intro past w dt start
  have asked := carries dt _ w (inside past w (.update dt) start)
  rw [List.append_assoc] at asked
  exact asked

/-- An update is asked, and what it leaves behind follows. -/
theorem moments_update (react : Reaction α L ρ) (dt : α) (w : World α L) :
    (Operation.update dt).moments react w =
      .asked w (.update dt) () :: ((update react dt).run w).notes.flatMap (Note.moments react) :=
  rfl

/-- Only an update depends on what updates mean. -/
theorem perform_of_ne_update {op : Operation α L} (other : ∀ dt, op ≠ .update dt)
    (onUpdate : α → Action α L ρ Unit) : op.perform onUpdate = op.perform refuseUpdate := by
  cases op with
  | update dt => exact absurd rfl (other dt)
  | _ => rfl

/-- An operation that is no update is a single moment. -/
theorem moments_of_ne_update {op : Operation α L} (other : ∀ dt, op ≠ .update dt)
    (react : Reaction α L ρ) (w : World α L) :
    op.moments react w =
      [.asked w op ((op.perform (refuseUpdate : α → Action α L ρ Unit)).run w).answer] := by
  simp only [Operation.moments, perform_of_ne_update other (update react), op.quiet_perform.moments]

/-- **What operations and updates carry on is true after every run.** -/
theorem holds_history (inside : CarriedInside holds) (updates : CarriedByUpdates react holds)
    (ops : List (Operation α L)) (past : List (Moment α L ρ)) (w : World α L)
    (start : holds past w) : holds (past ++ history react ops w) (after react ops w) := by
  induction ops generalizing past w with
  | nil => exact (List.append_nil past).symm ▸ start
  | cons op rest ih =>
      have step : holds (past ++ op.moments react w) ((op.perform (update react)).run w).state := by
        by_cases other : ∀ dt, op ≠ .update dt
        · rw [moments_of_ne_update other, perform_of_ne_update other (update react)]
          exact inside past w op start
        · obtain ⟨dt, rfl⟩ := Classical.not_forall_not.mp other
          exact updates past w dt start
      have whole := ih _ _ step
      rw [List.append_assoc] at whole
      exact whole

end World

end PlanarDynamics
