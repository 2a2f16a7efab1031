import PlanarDynamics.Store.Shapes
import PlanarDynamics.World.Settings

/-!
# Worlds

A `World` owns the bodies, the colliders and their geometry, the memory behind the stores, the
broad phase and the set of pairs that touched in the last frame. It may have a listener, of a
type `L` that only the callbacks look into.

Every operation on a world leaves `Note`s: the lines of its log, and the callbacks it made, each
with the world that the listener was shown and what the listener reported. Notes are written
and never read, so they cannot influence the simulation.
-/

set_option autoImplicit false

namespace PlanarDynamics

/-- What happened to a pair with a trigger in a frame. -/
inductive TriggerEvent
  | enter
  | stay
  | exit
deriving DecidableEq

/-- A line of a world's log. -/
inductive LogRecord (α : Type)
  | store (n : StoreNote)
  | subdivided (s : Subdivision)
  | negativeSlots (count : Int)
  | initialised (gravity : Vector2 α) (bodySlots : Nat)
  | createdBody (body : BodyRef)
  | destroyedBody (body : BodyRef)
  | createdCollider (collider : ColliderRef) (kind : ShapeKind) (place : Nat) (body : BodyRef)
  | destroyedCollider (collider : ColliderRef)
  | nestedUpdate
  | integrated (bodies : Nat)
  | skippedCollider (collider : ColliderRef) (fault : Fault)
  | populated (colliders : Nat)
  | skippedCandidate (pair : ColliderPair) (fault : Fault)
  | settled (contact : Contact α) (impulse : α)
  | dropped (pair : ColliderPair)
  | updated (dt : α) (tested touching resolved : Nat)
deriving DecidableEq

/-- How much a line of the log matters. -/
inductive Severity
  | trace
  | debug
  | warn
deriving DecidableEq

/-- The severities from the least on. -/
def Severity.rank : Severity → Nat
  | trace => 0
  | debug => 1
  | warn => 2

/-- What a memory tells is a detail, the growth of a store is not. -/
def StoreNote.severity : StoreNote → Severity
  | memory _ => .trace
  | grew .. => .debug

namespace LogRecord

/-- The severity of a line: misuse and missing data warn, what is done once per frame is a
detail. -/
def severity {α : Type} : LogRecord α → Severity
  | store n => n.severity
  | subdivided _ | negativeSlots _ | initialised .. | createdBody _ | destroyedBody _
  | createdCollider .. | destroyedCollider _ | dropped _ => .debug
  | nestedUpdate | skippedCollider .. | skippedCandidate .. => .warn
  | integrated _ | populated _ | settled .. | updated .. => .trace

end LogRecord

/-- A simulation with all its entities. -/
structure World (α L : Type) where
  settings : WorldSettings α
  memory : Memory
  bodies : Arena .body (Body α)
  colliders : Arena .collider (Collider α)
  shapes : Shapes α
  tree : QuadTree α
  /-- The pairs that touched at the end of the last frame. -/
  touching : PairSet
  solver : Solver α
  listener : Option L
  /-- Whether a frame is being computed. -/
  updating : Bool

/-- A call of a listener. -/
structure Callback (α L ρ : Type) where
  /-- The world as the listener finds it. -/
  world : World α L
  listener : L
  event : TriggerEvent
  pair : ColliderPair
  /-- What the listener has to say about it. -/
  report : ρ

/-- What a world tells about an operation. -/
inductive Note (α L ρ : Type)
  | log (r : LogRecord α)
  | called (c : Callback α L ρ)

/-- An operation on a world. -/
abbrev Action (α L ρ β : Type) : Type := Recorded (Note α L ρ) (World α L) β

/-- An operation on a world that may be refused. -/
abbrev Attempt (α L ρ β : Type) : Type := Fallible (Note α L ρ) (World α L) β

namespace World

variable {α L ρ β : Type}

/-- Write a line of the log. -/
def log (r : LogRecord α) : Action α L ρ Unit := Recorded.note (.log r)

/-- An operation on the bodies. -/
def onBodies (m : Recorded StoreNote (Memory × Arena .body (Body α)) β) : Action α L ρ β :=
  Recorded.zoom (fun w => (w.memory, w.bodies))
    (fun s w => { w with memory := s.1, bodies := s.2 }) (.log ∘ .store) m

/-- An operation on the colliders. -/
def onColliders (m : Recorded StoreNote (Memory × Arena .collider (Collider α)) β) :
    Action α L ρ β :=
  Recorded.zoom (fun w => (w.memory, w.colliders))
    (fun s w => { w with memory := s.1, colliders := s.2 }) (.log ∘ .store) m

/-- An operation on the geometry. -/
def onShapes (m : Recorded StoreNote (Memory × Shapes α) β) : Action α L ρ β :=
  Recorded.zoom (fun w => (w.memory, w.shapes))
    (fun s w => { w with memory := s.1, shapes := s.2 }) (.log ∘ .store) m

/-- An operation on the broad phase. -/
def onTree (m : Recorded Subdivision (QuadTree α) β) : Action α L ρ β :=
  Recorded.zoom World.tree (fun t w => { w with tree := t }) (.log ∘ .subdivided) m

/-- A world without entities and without reserved slots. -/
def blank (s : WorldSettings α) : World α L where
  settings := s
  memory := s.memory.build
  bodies := .empty s.growth
  colliders := .empty s.growth
  shapes := .empty s.growth
  tree := .empty s.bounds s.tree
  touching := .empty
  solver := ⟨s.percent, s.slop⟩
  listener := none
  updating := false

/-- The world with another gravity. -/
def setGravity (w : World α L) (gravity : Vector2 α) : World α L :=
  { w with settings := { w.settings with gravity := gravity } }

variable [Scalar α]

/-- Reserve the slots that the settings ask for, bodies first. -/
def reserveSlots : Attempt α L ρ Unit := do
  ExceptT.mk (onBodies (Arena.reserve (← get).settings.bodySlots).attempt)
  ExceptT.mk (onColliders (Arena.reserve (← get).settings.colliderSlots).attempt)

/-- A world by its settings, with the slots they ask for. -/
def make (s : WorldSettings α) : Except Fault (World α L) :=
  let start := (reserveSlots : Attempt α L Unit Unit).attempt.run (blank s)
  start.answer.map fun _ => start.state

/-- Give up every entity and all memory. The settings and the listener stay. -/
def vacate : Action α L ρ Unit := do
  modify fun w => { w with touching := .empty, tree := w.tree.clear }
  onShapes Shapes.clear
  onColliders Arena.clear
  onBodies Arena.clear
  modify fun w => { w with memory := w.memory.reset }

/-- Start afresh with a gravity and so many slots for bodies, none for a negative number. -/
def restart (gravity : Vector2 α) (slots : Int) : Attempt α L ρ Unit := do
  Fallible.always vacate
  if slots < 0 then
    Fallible.note (.log (.negativeSlots slots))
  modify fun w =>
    { w with settings := { w.settings with gravity := gravity, bodySlots := slots.toNat } }
  reserveSlots
  Fallible.note (.log (.initialised gravity slots.toNat))

/-! ## Looking at a world -/

/-- The geometry of a collider, placed at its body. -/
def placedShape (w : World α L) (c : ColliderRef) : Except Fault (Shape α) := do
  let collider ← w.colliders.get c
  let body ← w.bodies.get collider.body
  w.shapes.placed collider.kind collider.place body.position

/-- Whether two colliders touched at the end of the last frame. -/
def isTouching (w : World α L) (a b : ColliderRef) : Bool := ColliderPair.of a b ∈ w.touching

/-- The collider of a handle, when it and its body are both live. -/
def active? (w : World α L) (c : ColliderRef) : Option (Collider α) :=
  match w.colliders.get c with
  | .ok collider => if w.bodies.contains collider.body then some collider else none
  | .error _ => none

end World

end PlanarDynamics
