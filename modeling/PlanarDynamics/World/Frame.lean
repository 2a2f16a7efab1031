import PlanarDynamics.Contact.Narrow
import PlanarDynamics.World.Operation

/-!
# A frame of the simulation

One update moves the bodies, fills the broad phase anew and examines the candidate pairs, each
once and in ascending order. A pair of bodies in contact is resolved at once, so later pairs see
the bodies as earlier ones have left them. The set of touching pairs follows: a pair enters it,
stays in it or leaves it, and if one of the two colliders is a trigger the listener is told
instead of a contact being resolved. Touching pairs that were not examined leave the set at the
end; the listener hears of it when both colliders are still active.

A listener answers with a program on the world. It is carried out at once, with every update
inside it refused (`World.refuseUpdate`), so a frame never starts within a frame.

`World.update` takes the candidates as the broad phase has them. An update that is asked for from
outside queries the broad phase for them, and breaks off there when the query crashes
(`World.updateOrCrash`).
-/

set_option autoImplicit false

namespace PlanarDynamics

/-- A listener acts on an event of a pair, and says how it goes on and what it has to report. -/
abbrev Reaction (α L ρ : Type) : Type := L → TriggerEvent → ColliderPair → Program α L (L × ρ)

/-- What a frame needs to know about a candidate pair. -/
structure Examination (α : Type) where
  bodyA : BodyRef
  bodyB : BodyRef
  restitutionA : α
  restitutionB : α
  isTrigger : Bool
  meeting : Meeting α
deriving DecidableEq

/-- What a frame has done so far. -/
structure Progress (L : Type) where
  listener : Option L
  /-- The pairs examined, latest first. -/
  tested : List ColliderPair
  resolved : Nat

namespace World

variable {α L ρ : Type} [Scalar α]

/-! ## Motion and broad phase -/

/-- Move every body by a time step. -/
def integrate (dt : α) : Action α L ρ Unit := do
  let count := (← get).bodies.liveCount
  modify fun w => { w with bodies := w.bodies.mapLive (·.step w.settings.gravity dt) }
  log (.integrated count)

/-- The box that a collider takes up in the world: none when its body is gone or it has no
bounds. -/
def boxOf (w : World α L) (c : Collider α) : Except Fault (Option (Box α)) :=
  match w.bodies.get c.body with
  | .error _ => .ok none
  | .ok body => Shape.bounds? <$> w.shapes.placed c.kind c.place body.position

/-- Put one collider into the broad phase. -/
def enlist (entry : ColliderRef × Collider α) : Action α L ρ Unit := do
  match (← get).boxOf entry.2 with
  | .ok (some box) => onTree (QuadTree.insert ⟨box, entry.1⟩)
  | .ok none => pure ()
  | .error fault => log (.skippedCollider entry.1 fault)

/-- Fill the broad phase anew with the colliders of live bodies. -/
def populate : Action α L ρ Unit := do
  modify fun w => { w with tree := w.tree.clear }
  (← get).colliders.entries.forM enlist
  log (.populated (← get).tree.size)

/-- The candidates of the broad phase, each once and in ascending order. -/
def candidates (w : World α L) : PairSet := .ofList w.tree.pairs

/-- Ask the broad phase for its candidates. -/
def query (w : World α L) : Except Crash PairSet := PairSet.ofList <$> w.tree.query

/-! ## One pair -/

/-- What there is to know about a pair, none for two colliders of one body and when a body or
its geometry is missing. -/
def examination (w : World α L) (p : ColliderPair) : Except Fault (Option (Examination α)) := do
  let a ← w.colliders.get p.first
  let b ← w.colliders.get p.second
  if a.body = b.body then return none
  else
    match w.placedShape p.first, w.placedShape p.second with
    | .ok shapeA, .ok shapeB =>
      return some
        { bodyA := a.body
          bodyB := b.body
          restitutionA := a.material.restitution
          restitutionB := b.material.restitution
          isTrigger := a.isTrigger || b.isTrigger
          meeting := shapeA.meet shapeB }
    | _, _ => return none

/-- Examine a pair. A pair with a collider that is gone is skipped with a warning. -/
def examine (p : ColliderPair) : Action α L ρ (Option (Examination α)) := do
  match (← get).examination p with
  | .ok found => return found
  | .error fault =>
    log (.skippedCandidate p fault)
    return none

omit [Scalar α] in
/-- Let a pair enter, stay in or leave the set of touching pairs. -/
def track (p : ColliderPair) (touches : Bool) : Action α L ρ (Option TriggerEvent) := do
  let w ← get
  match touches, decide (p ∈ w.touching) with
  | true, false =>
    set { w with touching := w.touching.insert p }
    return some .enter
  | true, true => return some .stay
  | false, true =>
    set { w with touching := w.touching.erase p }
    return some .exit
  | false, false => return none

omit [Scalar α] in
/-- What an update does inside a callback: nothing but a warning. -/
def refuseUpdate (_ : α) : Action α L ρ Unit := log .nestedUpdate

/-- Call a listener, let it act, and answer how it goes on. -/
def dispatch (react : Reaction α L ρ) (listener : L) (event : TriggerEvent) (p : ColliderPair) :
    Action α L ρ L := do
  let shown ← get
  let (next, report) ← (react listener event p).run refuseUpdate
  Recorded.note (.called ⟨shown, listener, event, p, report⟩)
  return next

/-- Call the listener if there is one. -/
def notify (react : Reaction α L ρ) (listener : Option L) (event : TriggerEvent)
    (p : ColliderPair) : Action α L ρ (Option L) :=
  match listener with
  | none => return none
  | some l => some <$> dispatch react l event p

/-- Resolve the contact of an examined pair, and answer whether its bodies were there. -/
def resolve (x : Examination α) (c : Contact α) : Action α L ρ Bool := do
  let w ← get
  match w.bodies.getPair x.bodyA x.bodyB with
  | .error _ => return false
  | .ok (a, b) =>
    let r := w.solver.resolve a b x.restitutionA x.restitutionB c
    set { w with bodies := (w.bodies.write x.bodyA.index r.first).write x.bodyB.index r.second }
    match r.settled with
    | some settled => log (.settled settled r.impulse)
    | none => pure ()
    return true

/-- Deal with one candidate pair. -/
def visit (react : Reaction α L ρ) (done : Progress L) (p : ColliderPair) :
    Action α L ρ (Progress L) := do
  match ← examine p with
  | none => return done
  | some x =>
    let event ← track p x.meeting.isTouching
    let done := { done with tested := p :: done.tested }
    if x.isTrigger then
      match event with
      | none => return done
      | some event =>
        let listener ← notify react done.listener event p
        return { done with listener := listener }
    else
      match x.meeting.contact? with
      | none => return done
      | some c =>
        let resolved ← resolve x c
        return { done with resolved := done.resolved + if resolved then 1 else 0 }

/-! ## The whole frame -/

/-- Remove a touching pair that was not examined, and tell the listener when both colliders are
active and one is a trigger. -/
def release (react : Reaction α L ρ) (listener : Option L) (p : ColliderPair) :
    Action α L ρ (Option L) := do
  modify fun w => { w with touching := w.touching.erase p }
  let w ← get
  match w.active? p.first, w.active? p.second with
  | some a, some b =>
    if a.isTrigger || b.isTrigger then notify react listener .exit p else return listener
  | _, _ =>
    log (.dropped p)
    return listener

/-- What a frame does before it turns to its first pair. -/
def opening (dt : α) : Action α L ρ Unit := do
  modify fun w => { w with updating := true, listener := none }
  integrate dt
  populate

/-- What a frame does once it has its candidates. -/
def conclude (react : Reaction α L ρ) (dt : α) (listener : Option L) (candidates : PairSet) :
    Action α L ρ Unit := do
  let done ← candidates.toList.foldlM (visit react) ⟨listener, [], 0⟩
  let gone := (← get).touching.filter fun p => !done.tested.contains p
  let listener ← gone.toList.foldlM (release react) done.listener
  log (.updated dt done.tested.length (← get).touching.size done.resolved)
  modify fun w => { w with listener := w.listener <|> listener, updating := false }

/-- Advance the simulation by a time step. -/
def advance (react : Reaction α L ρ) (dt : α) : Action α L ρ Unit := do
  let listener := (← get).listener
  opening dt
  conclude react dt listener (← get).candidates

/-- Advance the simulation, unless a frame is being computed already. -/
def update (react : Reaction α L ρ) (dt : α) : Action α L ρ Unit := do
  if (← get).updating then refuseUpdate dt else advance react dt

/-- Advance the simulation by a time step, as long as the broad phase can be queried. -/
def advanceOrCrash (react : Reaction α L ρ) (dt : α) :
    Crashing (Note α L ρ) (World α L) Unit := do
  let listener := (← get).listener
  (opening dt : Action α L ρ Unit)
  let candidates ← Crashing.ofExcept (← get).query
  conclude react dt listener candidates

/-- An update that is asked for from outside. -/
def updateOrCrash (react : Reaction α L ρ) (dt : α) :
    Crashing (Note α L ρ) (World α L) Unit := do
  if (← get).updating then (refuseUpdate dt : Action α L ρ Unit) else advanceOrCrash react dt

end World

section Programs

variable {α L ρ β : Type} [Scalar α]

/-- Carry out a program on a world, with its listener reacting to the updates. -/
def Program.runOn (react : Reaction α L ρ) (p : Program α L β) : Action α L ρ β :=
  p.run (World.update react)

/-- Carry out an operation that is asked for from outside. -/
def Operation.performOrCrash (react : Reaction α L ρ) :
    (op : Operation α L) → Crashing (Note α L ρ) (World α L) op.Answer
  | .update dt => World.updateOrCrash react dt
  | op => ExceptT.lift (op.perform (World.update react))

/-- Carry out a program from outside, up to the first update that crashes. -/
def Program.runOrCrash (react : Reaction α L ρ) :
    Program α L β → Crashing (Note α L ρ) (World α L) β
  | .done b => pure b
  | .ask op next => do
    let answer ← op.performOrCrash react
    (next answer).runOrCrash react

end Programs

end PlanarDynamics
