import PlanarDynamics.Proofs.Execution
import PlanarDynamics.World.Frame

/-!
# Histories of worlds

A run performs operations one after the other. During an update the listener is told of events,
and its program performs operations of its own. The history of a run is the list of all these
`Moment`s in the order they happen, at any depth: an operation that is asked, with its answer,
or an event that the listener is told, each with the world at that moment (`World.history`).

What is true of a history and of the world it leads to is carried on by an action when it stays
true (`Carries`). It is carried on by a program inside a callback once it is carried on by every
operation there (`holds_moments`).
-/

set_option autoImplicit false

namespace PlanarDynamics

variable {α L ρ β γ : Type}

/-- A moment of a run. -/
inductive Moment (α L ρ : Type)
  /-- An operation is performed. -/
  | asked (world : World α L) (op : Operation α L) (answer : op.Answer)
  /-- The listener is told of an event. -/
  | told (call : Callback α L ρ)

/-- The world at a moment. -/
def Moment.world : Moment α L ρ → World α L
  | asked world _ _ => world
  | told call => call.world

theorem filterMap_concat (f : Moment α L ρ → Option β) (past : List (Moment α L ρ))
    (m : Moment α L ρ) : (past ++ [m]).filterMap f = past.filterMap f ++ (f m).toList := by
  rw [List.filterMap_append]
  cases found : f m <;> simp [found]

/-- A moment at the end of a past is the last one or lies in the past. -/
theorem split_concat {past earlier later : List (Moment α L ρ)} {last m : Moment α L ρ}
    (split : past ++ [last] = earlier ++ m :: later) :
    past = earlier ∧ last = m ∨ ∃ rest, past = earlier ++ m :: rest := by
  rcases List.eq_nil_or_concat later with rfl | ⟨rest, final, rfl⟩
  · obtain ⟨same, last⟩ := List.append_inj' split rfl
    exact .inl ⟨same, List.head_eq_of_cons_eq last⟩
  · rw [List.concat_eq_append, ← List.cons_append, ← List.append_assoc] at split
    exact .inr ⟨rest, (List.append_inj' split rfl).1⟩

section Moments

variable [Scalar α]

/-- The moments of a program that is carried out inside a callback. -/
def Program.moments : Program α L β → World α L → List (Moment α L ρ)
  | .done _, _ => []
  | .ask op next, w =>
    let out := (op.perform (World.refuseUpdate : α → Action α L ρ Unit)).run w
    .asked w op out.answer :: (next out.answer).moments out.state

/-- The moments that a note tells of: a call of the listener, and what the listener then does. -/
def Note.moments (react : Reaction α L ρ) : Note α L ρ → List (Moment α L ρ)
  | .log _ => []
  | .called c => .told c :: (react c.listener c.event c.pair).moments c.world

/-- The moments of an operation on a world. -/
def Operation.moments (react : Reaction α L ρ) (op : Operation α L) (w : World α L) :
    List (Moment α L ρ) :=
  let out := (op.perform (World.update react)).run w
  .asked w op out.answer :: out.notes.flatMap (Note.moments react)

namespace World

/-- The world after several operations. -/
def after (react : Reaction α L ρ) (ops : List (Operation α L)) (w : World α L) : World α L :=
  ops.foldl (fun w op => ((op.perform (update react)).run w).state) w

/-- The moments of several operations. -/
def history (react : Reaction α L ρ) : List (Operation α L) → World α L → List (Moment α L ρ)
  | [], _ => []
  | op :: ops, w =>
    op.moments react w ++ history react ops ((op.perform (update react)).run w).state

theorem history_append (react : Reaction α L ρ) (first second : List (Operation α L))
    (w : World α L) :
    history react (first ++ second) w =
      history react first w ++ history react second (after react first w) := by
  induction first generalizing w with
  | nil => rfl
  | cons op rest ih => simp only [List.cons_append, history, ih, List.append_assoc]; rfl

end World

/-! ## What an action carries on -/

/-- What is true of a past and of the world it has led to is true again after the action. -/
def Carries (react : Reaction α L ρ) (holds : List (Moment α L ρ) → World α L → Prop)
    (m : Action α L ρ β) : Prop :=
  ∀ past w, holds past w →
    holds (past ++ (m.run w).notes.flatMap (Note.moments react)) (m.run w).state

variable {react : Reaction α L ρ} {holds : List (Moment α L ρ) → World α L → Prop}

theorem Carries.bind {m : Action α L ρ β} {f : β → Action α L ρ γ} (first : Carries react holds m)
    (second : ∀ b, Carries react holds (f b)) : Carries react holds (m >>= f) := by
  intro past w start
  rw [Recorded.notes_bind, List.flatMap_append, ← List.append_assoc]
  exact second _ _ _ (first past w start)

/-- An action without calls carries on what its change of the world keeps true. -/
theorem carries_of_quiet {m : Action α L ρ β}
    (quiet : ∀ w, (m.run w).notes.flatMap (Note.moments react) = [])
    (keeps : ∀ past w, holds past w → holds past (m.run w).state) : Carries react holds m := by
  intro past w start
  rw [quiet, List.append_nil]
  exact keeps past w start

theorem carries_pure (b : β) : Carries react holds (pure b) :=
  carries_of_quiet (fun _ => rfl) fun _ _ start => start

theorem carries_get : Carries react holds get :=
  carries_of_quiet (fun _ => rfl) fun _ _ start => start

theorem carries_log (r : LogRecord α) : Carries react holds (World.log r) :=
  carries_of_quiet (fun _ => rfl) fun _ _ start => start

theorem carries_modify {f : World α L → World α L}
    (keeps : ∀ past w, holds past w → holds past (f w)) :
    Carries react holds (modify f : Action α L ρ PUnit) :=
  carries_of_quiet (fun _ => rfl) keeps

theorem carries_foldlM {δ : Type} {f : γ → δ → Action α L ρ γ}
    (each : ∀ c d, Carries react holds (f c d)) (items : List δ) (start : γ) :
    Carries react holds (items.foldlM f start) := by
  induction items generalizing start with
  | nil => exact carries_pure start
  | cons item rest ih => exact (each start item).bind ih

theorem carries_forM {δ : Type} {f : δ → Action α L ρ PUnit}
    (each : ∀ d, Carries react holds (f d)) (items : List δ) :
    Carries react holds (items.forM f) := by
  induction items with
  | nil => exact carries_pure _
  | cons item rest ih => exact (each item).bind fun _ => ih

/-! ## Calling the listener -/

/-- What is carried on by every operation inside a callback. -/
def CarriedInside (holds : List (Moment α L ρ) → World α L → Prop) : Prop :=
  ∀ past w (op : Operation α L), holds past w →
    let out := (op.perform (World.refuseUpdate : α → Action α L ρ Unit)).run w
    holds (past ++ [.asked w op out.answer]) out.state

/-- A program inside a callback carries on what its operations carry on. -/
theorem holds_moments (inside : CarriedInside holds) (p : Program α L β)
    (past : List (Moment α L ρ)) (w : World α L) (start : holds past w) :
    holds (past ++ p.moments w) ((p.run World.refuseUpdate : Action α L ρ β).run w).state := by
  induction p generalizing past w with
  | done b => exact (List.append_nil past).symm ▸ start
  | ask op next ih =>
      let out := (op.perform (World.refuseUpdate : α → Action α L ρ Unit)).run w
      have step := ih out.answer _ out.state (inside past w op start)
      rw [List.append_assoc] at step
      exact step

end Moments

end PlanarDynamics
