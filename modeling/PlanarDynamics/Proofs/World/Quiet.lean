import PlanarDynamics.Proofs.World.History

/-!
# Quiet actions

An action is quiet when all it leaves is lines of the log: it calls no listener. Quiet actions
may be put one after the other, and every operation is quiet where updates are refused
(`Operation.quiet_perform`), so the callbacks of a run come from its frames alone.
-/

set_option autoImplicit false

namespace PlanarDynamics

variable {α L ρ β γ σ : Type}

/-- Notes that call no listener. -/
def Logs (notes : List (Note α L ρ)) : Prop := ∀ n ∈ notes, ∃ r, n = .log r

theorem logs_nil : Logs ([] : List (Note α L ρ)) := fun _ member => absurd member List.not_mem_nil

/-- Lines of the log leave no moments behind. -/
theorem Logs.moments [Scalar α] {notes : List (Note α L ρ)} (logs : Logs notes)
    (react : Reaction α L ρ) : notes.flatMap (Note.moments react) = [] := by
  rw [List.flatMap_eq_nil_iff]
  intro n member
  obtain ⟨r, rfl⟩ := logs n member
  rfl

/-- An action that calls no listener. -/
def Quiet (m : Action α L ρ β) : Prop := ∀ w, Logs (m.run w).notes

theorem Quiet.bind {m : Action α L ρ β} {f : β → Action α L ρ γ} (first : Quiet m)
    (second : ∀ b, Quiet (f b)) : Quiet (m >>= f) := by
  intro w n member
  rcases List.mem_append.mp (Recorded.notes_bind m f w ▸ member) with early | late
  · exact first w n early
  · exact second _ _ n late

theorem Quiet.attempt_bind {m : Attempt α L ρ β} {f : β → Attempt α L ρ γ}
    (first : Quiet m.attempt) (second : ∀ b, Quiet (f b).attempt) : Quiet (m >>= f).attempt := by
  intro w n member
  rw [Fallible.run_bind] at member
  split at member
  · rcases List.mem_append.mp member with early | late
    · exact first w n early
    · exact second _ _ n late
  · exact first w n member

/-- Quiet actions leave no moments behind. -/
theorem Quiet.moments [Scalar α] {m : Action α L ρ β} (quiet : Quiet m) (react : Reaction α L ρ)
    (w : World α L) : (m.run w).notes.flatMap (Note.moments react) = [] :=
  (quiet w).moments react

theorem quiet_pure (b : β) : Quiet (pure b : Action α L ρ β) := fun _ _ member => nomatch member

theorem quiet_get : Quiet (get : Action α L ρ (World α L)) := fun _ _ member => nomatch member

theorem quiet_modify (f : World α L → World α L) : Quiet (modify f : Action α L ρ PUnit) :=
  fun _ _ member => nomatch member

theorem quiet_log (r : LogRecord α) : Quiet (World.log r : Action α L ρ Unit) :=
  fun _ _ member => ⟨r, List.mem_singleton.mp member⟩

/-- An action on a part of a world is quiet. -/
theorem quiet_zoom {τ ν : Type} (part : World α L → τ) (put : τ → World α L → World α L)
    (lift : ν → LogRecord α) (m : Recorded ν τ β) :
    Quiet (Recorded.zoom part put (Note.log ∘ lift) m : Action α L ρ β) := by
  intro w n member
  obtain ⟨inner, _, rfl⟩ := List.mem_map.mp member
  exact ⟨lift inner, rfl⟩

theorem quiet_onBodies (m : Recorded StoreNote (Memory × Arena .body (Body α)) β) :
    Quiet (World.onBodies m : Action α L ρ β) := quiet_zoom _ _ .store m

theorem quiet_onColliders (m : Recorded StoreNote (Memory × Arena .collider (Collider α)) β) :
    Quiet (World.onColliders m : Action α L ρ β) := quiet_zoom _ _ .store m

theorem quiet_onShapes (m : Recorded StoreNote (Memory × Shapes α) β) :
    Quiet (World.onShapes m : Action α L ρ β) := quiet_zoom _ _ .store m

theorem quiet_onTree (m : Recorded Subdivision (QuadTree α) β) :
    Quiet (World.onTree m : Action α L ρ β) := quiet_zoom _ _ .subdivided m

theorem quiet_ofExcept (e : Except Fault β) :
    Quiet (Fallible.ofExcept e : Attempt α L ρ β).attempt := fun _ _ member => nomatch member

theorem quiet_always {m : Action α L ρ β} (quiet : Quiet m) :
    Quiet (Fallible.always m).attempt := by
  intro w n member
  rw [Fallible.run_always] at member
  exact quiet w n member

theorem quiet_note (r : LogRecord α) :
    Quiet (Fallible.note (.log r) : Attempt α L ρ Unit).attempt :=
  fun _ _ member => ⟨r, List.mem_singleton.mp member⟩

theorem quiet_attempt_pure (b : β) : Quiet (pure b : Attempt α L ρ β).attempt :=
  fun _ _ member => nomatch member

theorem quiet_throw (fault : Fault) : Quiet (throw fault : Attempt α L ρ β).attempt :=
  fun _ _ member => nomatch member

theorem quiet_attempt_get : Quiet (get : Attempt α L ρ (World α L)).attempt :=
  fun _ _ member => nomatch member

theorem quiet_set (w : World α L) : Quiet (set w : Attempt α L ρ PUnit).attempt :=
  fun _ _ member => nomatch member

theorem quiet_attempt_modify (f : World α L → World α L) :
    Quiet (modify f : Attempt α L ρ PUnit).attempt := fun _ _ member => nomatch member

variable [Scalar α]

/-! ## Operations -/

theorem quiet_createBody : Quiet (World.createBody : Attempt α L ρ BodyRef).attempt :=
  Quiet.attempt_bind (quiet_onBodies _) fun b =>
    (quiet_note (.createdBody b)).attempt_bind fun _ => quiet_attempt_pure b

theorem quiet_destroyBody (b : BodyRef) :
    Quiet (World.destroyBody b : Attempt α L ρ Unit).attempt :=
  quiet_attempt_get.attempt_bind fun _ => (quiet_ofExcept _).attempt_bind fun _ =>
    (quiet_set _).attempt_bind fun _ => quiet_note _

theorem quiet_editBody (b : BodyRef) (f : Body α → Body α) :
    Quiet (World.editBody b f : Attempt α L ρ (Body α)).attempt :=
  quiet_attempt_get.attempt_bind fun _ => (quiet_ofExcept _).attempt_bind fun _ =>
    (quiet_ofExcept _).attempt_bind fun _ => (quiet_set _).attempt_bind fun _ =>
      quiet_attempt_pure _

theorem quiet_attach (b : BodyRef) (shape : Shape α) :
    Quiet (World.attach b shape : Attempt α L ρ ColliderRef).attempt := by
  refine quiet_attempt_get.attempt_bind fun w => (quiet_ofExcept _).attempt_bind fun _ =>
    Quiet.attempt_bind (quiet_onShapes _) fun place =>
      (quiet_always (quiet_onColliders _)).attempt_bind fun made => ?_
  cases made with
  | error fault =>
      exact quiet_attempt_get.attempt_bind fun _ => (quiet_ofExcept _).attempt_bind fun _ =>
        (quiet_set _).attempt_bind fun _ => quiet_throw fault
  | ok c =>
      exact quiet_attempt_get.attempt_bind fun _ => (quiet_ofExcept _).attempt_bind fun _ =>
        (quiet_set _).attempt_bind fun _ => (quiet_note _).attempt_bind fun _ =>
          quiet_attempt_pure c

theorem quiet_createCollider (b : BodyRef) (kind : ShapeKind) :
    Quiet (World.createCollider b kind : Attempt α L ρ ColliderRef).attempt := by
  unfold World.createCollider
  split
  · exact quiet_throw _
  · exact quiet_attach b _

theorem quiet_destroyCollider (c : ColliderRef) :
    Quiet (World.destroyCollider c : Attempt α L ρ Unit).attempt :=
  quiet_attempt_get.attempt_bind fun _ => (quiet_ofExcept _).attempt_bind fun _ =>
    (quiet_ofExcept _).attempt_bind fun _ => (quiet_set _).attempt_bind fun _ =>
      (quiet_ofExcept _).attempt_bind fun _ => (quiet_set _).attempt_bind fun _ => quiet_note _

theorem quiet_editCollider (c : ColliderRef) (f : Collider α → Collider α) :
    Quiet (World.editCollider c f : Attempt α L ρ (Collider α)).attempt :=
  quiet_attempt_get.attempt_bind fun _ => (quiet_ofExcept _).attempt_bind fun _ =>
    (quiet_ofExcept _).attempt_bind fun _ => (quiet_set _).attempt_bind fun _ =>
      quiet_attempt_pure _

omit [Scalar α] in
theorem quiet_reshapeAt (i : Nat) (r : Reshape α) :
    Quiet (World.reshapeAt i r : Attempt α L ρ (Shape α)).attempt :=
  quiet_attempt_get.attempt_bind fun _ => (quiet_ofExcept _).attempt_bind fun _ =>
    (quiet_set _).attempt_bind fun _ => quiet_attempt_pure _

theorem quiet_reshape (c : ColliderRef) (r : Reshape α) :
    Quiet (World.reshape c r : Attempt α L ρ (Shape α)).attempt := by
  refine quiet_attempt_get.attempt_bind fun _ => (quiet_ofExcept _).attempt_bind fun _ => ?_
  split
  · exact quiet_reshapeAt _ r
  · exact quiet_throw _

theorem quiet_reserveSlots : Quiet (World.reserveSlots : Attempt α L ρ Unit).attempt :=
  quiet_attempt_get.attempt_bind fun _ => Quiet.attempt_bind (quiet_onBodies _) fun _ =>
    quiet_attempt_get.attempt_bind fun _ => quiet_onColliders _

omit [Scalar α] in
theorem quiet_vacate : Quiet (World.vacate : Action α L ρ Unit) :=
  (quiet_modify _).bind fun _ => (quiet_onShapes _).bind fun _ =>
    (quiet_onColliders _).bind fun _ => (quiet_onBodies _).bind fun _ => quiet_modify _

theorem quiet_restart (gravity : Vector2 α) (slots : Int) :
    Quiet (World.restart gravity slots : Attempt α L ρ Unit).attempt := by
  have start : ∀ _ : PUnit, Quiet (do
      modify fun w : World α L =>
        { w with settings := { w.settings with gravity := gravity, bodySlots := slots.toNat } }
      World.reserveSlots
      Fallible.note (.log (.initialised gravity slots.toNat)) : Attempt α L ρ Unit).attempt :=
    fun _ => (quiet_attempt_modify _).attempt_bind fun _ => quiet_reserveSlots.attempt_bind fun _ =>
      quiet_note _
  refine (quiet_always quiet_vacate).attempt_bind fun _ => ?_
  split
  · exact (quiet_note _).attempt_bind start
  · exact start ⟨⟩

/-- **No operation inside a callback calls a listener.** -/
theorem Operation.quiet_perform (op : Operation α L) :
    Quiet (op.perform (World.refuseUpdate : α → Action α L ρ Unit)) := by
  cases op with
  | look => exact quiet_get
  | restart gravity slots => exact quiet_restart gravity slots
  | vacate => exact quiet_vacate
  | setGravity gravity => exact quiet_modify _
  | installListener listener => exact fun _ _ member => nomatch member
  | removeListener => exact fun _ _ member => nomatch member
  | createBody => exact quiet_createBody
  | destroyBody b => exact quiet_destroyBody b
  | editBody b f => exact quiet_editBody b f
  | createCollider b kind => exact quiet_createCollider b kind
  | attach b shape => exact quiet_attach b shape
  | destroyCollider c => exact quiet_destroyCollider c
  | editCollider c f => exact quiet_editCollider c f
  | reshapeAt i r => exact quiet_reshapeAt i r
  | reshape c r => exact quiet_reshape c r
  | update dt => exact quiet_log .nestedUpdate

/-- A program inside a callback calls no listener. -/
theorem Program.quiet_run (p : Program α L β) :
    Quiet (p.run World.refuseUpdate : Action α L ρ β) := by
  induction p with
  | done b => exact quiet_pure b
  | ask op next ih => exact op.quiet_perform.bind ih

end PlanarDynamics
