import PlanarDynamics.Proofs.BroadPhase.Edits
import PlanarDynamics.Proofs.World.Turns

/-!
# How a frame opens

Before a frame turns to its first pair, it moves the bodies and fills the broad phase with one entry
for every collider that takes up a box (`World.state_opening`). Then the broad phase is queried for
the candidates. An update that is asked for from outside does what an update does if the query
answers, and breaks off behind the opening of its frame if it does not (`World.run_updateOrCrash`).

The limits of the broad phase are those that a world was made with, whatever is asked of it
(`World.settings_perform`). So nothing that is asked from outside crashes in a world with a depth
limit below `2 ^ 60 - 1` (`Program.run_runOrCrash`), and in any other world the first frame does.
-/

set_option autoImplicit false

namespace PlanarDynamics

variable {α L ρ β : Type} [Scalar α]

namespace World

/-! ## Filling the broad phase -/

/-- The entry of a collider in the broad phase, none if it takes up no box. -/
def entryOf? (w : World α L) (listed : ColliderRef × Collider α) : Option (TreeEntry α) :=
  match w.boxOf listed.2 with
  | .ok (some box) => some ⟨box, listed.1⟩
  | _ => none

theorem state_enlist (listed : ColliderRef × Collider α) (w : World α L) :
    ((enlist listed : Action α L ρ Unit).run w).state =
      { w with tree := w.tree.edited ((w.entryOf? listed).toList.map .insert) } := by
  simp only [enlist, Recorded.state_bind, Recorded.run_get, entryOf?]
  cases w.boxOf listed.2 with
  | error fault => rfl
  | ok box => cases box <;> rfl

theorem state_forM_enlist (listed : List (ColliderRef × Collider α)) (w : World α L) :
    ((listed.forM enlist : Action α L ρ PUnit).run w).state =
      { w with tree := w.tree.edited ((listed.filterMap w.entryOf?).map .insert) } := by
  induction listed generalizing w with
  | nil => rfl
  | cons first rest ih =>
      have step : ((first :: rest).forM enlist : Action α L ρ PUnit) =
          enlist first >>= fun _ => rest.forM enlist := rfl
      have same : ∀ t : QuadTree α, entryOf? { w with tree := t } = w.entryOf? := fun _ => rfl
      rw [step, Recorded.state_bind, ih, state_enlist, same, List.filterMap_cons]
      cases w.entryOf? first <;> rfl

/-- The broad phase filled anew with the entries of the colliders. -/
def rebuilt (w : World α L) : QuadTree α :=
  w.tree.clear.edited ((w.colliders.entries.filterMap w.entryOf?).map .insert)

theorem settings_rebuilt (w : World α L) : w.rebuilt.settings = w.tree.settings :=
  (w.tree.clear.frame_map_insert _).2

/-- The broad phase is filled with the entries of the colliders. -/
theorem state_populate (w : World α L) :
    ((populate : Action α L ρ Unit).run w).state = { w with tree := w.rebuilt } := by
  simp only [populate, Recorded.state_bind, Recorded.run_modify, Recorded.run_get, log,
    Recorded.run_note]
  exact state_forM_enlist _ _

/-- The world once its bodies have moved. -/
def moved (dt : α) (w : World α L) : World α L :=
  { w with bodies := w.bodies.mapLive (·.step w.settings.gravity dt) }

/-- A frame opens by moving the bodies and filling the broad phase. -/
theorem state_opening (dt : α) (w : World α L) :
    ((opening dt : Action α L ρ Unit).run w).state =
      { w.moved dt with tree := (w.moved dt).rebuilt, listener := none, updating := true } := by
  have opened : ((opening dt : Action α L ρ Unit).run w).state = ((populate : Action α L ρ Unit).run
      { w.moved dt with listener := none, updating := true }).state := rfl
  rw [opened, state_populate]
  rfl

/-! ## Querying the broad phase -/

/-- The candidates of an opened frame are there if the limits of its world let a query answer. -/
theorem query_opening (dt : α) (w : World α L) :
    let opened := ((opening dt : Action α L ρ Unit).run w).state
    opened.query =
      if w.tree.settings.Walkable then .ok opened.candidates else .error .capacityOverflow := by
  intro opened
  have limits : opened.tree.settings = w.tree.settings := by
    show ((opening dt : Action α L ρ Unit).run w).state.tree.settings = _
    rw [state_opening]
    exact settings_rebuilt _
  rw [query, ← limits]
  split
  case isTrue walkable => rw [QuadTree.query_of_walkable walkable]; rfl
  case isFalse deep => rw [QuadTree.query_of_not_walkable deep]; rfl

section Updates

variable (react : Reaction α L ρ) (dt : α) (w : World α L)

theorem run_advance_eq_conclude :
    let opened := (opening dt : Action α L ρ Unit).run w
    (advance react dt).run w =
      ((conclude react dt w.listener opened.state.candidates).run opened.state).after
        opened.notes := by
  simp only [advance, Recorded.run_bind, Recorded.run_get, List.nil_append]
  rfl

theorem run_advanceOrCrash :
    (advanceOrCrash react dt).attempt.run w =
      let opened := (opening dt : Action α L ρ Unit).run w
      match opened.state.query with
      | .ok candidates =>
        let out := (conclude react dt w.listener candidates).run opened.state
        ⟨.ok (), out.state, opened.notes ++ out.notes⟩
      | .error crash => ⟨.error crash, opened.state, opened.notes⟩ := by
  rw [advanceOrCrash, Crashing.run_bind_of_ok (Crashing.run_get w), Outcome.after_nil,
    Crashing.run_bind_of_ok (Crashing.run_lift (opening dt) w),
    Crashing.run_bind_of_ok (Crashing.run_get _), Outcome.after_nil]
  dsimp only
  generalize (opening dt : Action α L ρ Unit).run w = opened
  have asked := Crashing.run_ofExcept opened.state.query opened.state (ν := Note α L ρ)
  cases answered : opened.state.query with
  | ok candidates =>
      rw [answered] at asked
      rw [Crashing.run_bind_of_ok asked, Crashing.run_lift]
      rfl
  | error crash =>
      rw [answered] at asked
      rw [Crashing.run_bind_of_error asked]
      exact Outcome.ext rfl rfl (List.append_nil _)

/-- **An update that is asked for from outside does what an update does, or breaks off behind the
opening of its frame.** -/
theorem run_updateOrCrash :
    (updateOrCrash react dt).attempt.run w =
      if w.updating = true ∨ w.tree.settings.Walkable then
        let out := (update react dt).run w
        ⟨.ok (), out.state, out.notes⟩
      else
        let opened := (opening dt : Action α L ρ Unit).run w
        ⟨.error .capacityOverflow, opened.state, opened.notes⟩ := by
  rw [updateOrCrash, Crashing.run_bind_of_ok (Crashing.run_get w), Outcome.after_nil]
  cases busy : w.updating with
  | true => rw [if_pos rfl, if_pos (.inl rfl), Crashing.run_lift, run_update_busy busy]; rfl
  | false =>
      have asked := query_opening dt w (ρ := ρ)
      rw [if_neg Bool.false_ne_true, run_advanceOrCrash, run_update busy, run_advance_eq_conclude]
      dsimp only at asked ⊢
      rw [asked]
      by_cases walkable : w.tree.settings.Walkable
      · simp only [if_pos walkable, if_pos (Or.inr walkable)]
        rfl
      · rw [if_neg walkable, if_neg (not_or.mpr ⟨Bool.false_ne_true, walkable⟩)]

/-- An update from outside is completed exactly when the depth limit lets a query answer. -/
theorem answer_updateOrCrash {w : World α L} (idle : w.updating = false) :
    ((updateOrCrash react dt).attempt.run w).answer =
      if w.tree.settings.maxDepth + 1 < 2 ^ 60 then .ok () else .error .capacityOverflow := by
  rw [run_updateOrCrash, idle]
  simp only [Bool.false_eq_true, false_or, ← TreeSettings.walkable_iff]
  split <;> rfl

end Updates

/-! ## Programs from outside -/

/-- No operation changes the limits of the broad phase. -/
theorem settings_perform [OrderedScalar α] (react : Reaction α L ρ) (op : Operation α L)
    (w : World α L) :
    ((op.perform (update react)).run w).state.tree.settings = w.tree.settings := by
  let holds : List (Moment α L ρ) → World α L → Prop :=
    fun _ v => v.tree.settings = w.tree.settings
  have inside : CarriedInside holds := by
    intro past v op same
    rcases (op.effect_perform v (ρ := ρ)).tree with kept | emptied
    · exact (congrArg QuadTree.settings kept).trans same
    · exact (congrArg QuadTree.settings emptied).trans same
  have updates : CarriedByUpdates react holds := carriedByUpdates_of_carries inside fun dt =>
    carries_update inside (fun _ _ _ same drifts => drifts.limits.trans same)
      (fun _ _ same => same) (fun _ _ _ same => same) dt
  exact holds_history inside updates [op] [] w rfl

end World

/-- **A program from outside is carried out to its end if the depth limit lets queries answer.** -/
theorem Program.run_runOrCrash [OrderedScalar α] (react : Reaction α L ρ) (p : Program α L β)
    {w : World α L} (low : w.tree.settings.maxDepth + 1 < 2 ^ 60) :
    (p.runOrCrash react).attempt.run w =
      let out := (p.runOn react).run w
      ⟨.ok out.answer, out.state, out.notes⟩ := by
  induction p generalizing w with
  | done b => rfl
  | ask op next ih =>
      have performed : (op.performOrCrash react).attempt.run w =
          let out := (op.perform (World.update react)).run w
          ⟨.ok out.answer, out.state, out.notes⟩ := by
        cases op with
        | update dt =>
            have walkable := TreeSettings.walkable_iff.mpr low
            exact (World.run_updateOrCrash react dt w).trans (if_pos (.inr walkable))
        | _ => exact Crashing.run_lift _ w
      have limits := World.settings_perform react op w
      rw [runOrCrash, Crashing.run_bind_of_ok performed, ih _ (limits ▸ low)]
      rfl

end PlanarDynamics
