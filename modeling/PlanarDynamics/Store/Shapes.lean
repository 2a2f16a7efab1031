import PlanarDynamics.Store.Entities

/-!
# Stores of geometry

Geometry is kept apart by kind, and within a kind it is named by the place alone: a `ShapePool`
reuses a place as soon as it is free, without a new generation. The three pools together are
the `Shapes` of a world, a finite map from a kind and a place to a shape (`Shapes.get`).
-/

set_option autoImplicit false

namespace PlanarDynamics

/-- The geometry of one kind. -/
@[ext]
structure ShapePool (kind : ShapeKind) (γ : Type) where
  arena : Arena (.shape kind) (Option γ)

namespace ShapePool

variable {kind : ShapeKind} {γ : Type}

/-- A pool without places. -/
def empty (growth : Float32) : ShapePool kind γ := ⟨.empty growth⟩

/-- What is wrong with a place that holds nothing. -/
def missing (p : ShapePool kind γ) (i : Nat) : Fault :=
  match p.arena.generation? i with
  | some generation => .stale (.shape kind) i generation generation
  | none => .outOfRange (.shape kind) i p.arena.capacity

/-- The geometry at a place, if there is any. -/
def get? (p : ShapePool kind γ) (i : Nat) : Option γ := p.arena.slots[i]?.bind Slot.entity

/-- The geometry at a place. -/
protected def get (p : ShapePool kind γ) (i : Nat) : Except Fault γ :=
  match p.get? i with
  | some v => .ok v
  | none => .error (p.missing i)

/-- The pool with the geometry at a place changed. -/
protected def modify (p : ShapePool kind γ) (i : Nat) (f : γ → γ) :
    Except Fault (ShapePool kind γ) := do
  let v ← p.get i
  return ⟨p.arena.write i (some (f v))⟩

/-- The pool with a place freed. -/
def remove (p : ShapePool kind γ) (i : Nat) : Except Fault (ShapePool kind γ) := do
  let _ ← p.get i
  return ⟨p.arena.write i none⟩

variable [Geometry γ]

/-- The number of places that hold geometry. -/
def size (p : ShapePool kind γ) : Nat := p.arena.liveCount

/-- Put geometry into the first free place, and answer the place. -/
def insert (v : γ) : Fallible StoreNote (Memory × ShapePool kind γ) Nat := do
  let h ← Fallible.zoom (fun s => (s.1, s.2.arena)) (fun s _ => (s.1, ⟨s.2⟩)) id
    (Arena.create (some v))
  return h.index

/-- Give up all places. -/
def clear : Recorded StoreNote (Memory × ShapePool kind γ) Unit :=
  Recorded.zoom (fun s => (s.1, s.2.arena)) (fun s _ => (s.1, ⟨s.2⟩)) id Arena.clear

end ShapePool

/-- The geometry of a world. -/
@[ext]
structure Shapes (α : Type) where
  circles : ShapePool .circle (Circle α)
  rectangles : ShapePool .rectangle (Rectangle α)
  polygons : ShapePool .polygon (Polygon α)

namespace Shapes

variable {α : Type}

/-- No geometry. -/
def empty (growth : Float32) : Shapes α := ⟨.empty growth, .empty growth, .empty growth⟩

/-- The shape of a kind at a place. The empty kind has its one shape everywhere. -/
protected def get (s : Shapes α) : ShapeKind → Nat → Except Fault (Shape α)
  | .empty, _ => .ok .empty
  | .circle, i => .circle <$> s.circles.get i
  | .rectangle, i => .rectangle <$> s.rectangles.get i
  | .polygon, i => .polygon <$> s.polygons.get i

/-- The geometry with a place of a kind freed. There is nothing to free for the empty kind. -/
def remove (s : Shapes α) : ShapeKind → Nat → Except Fault (Shapes α)
  | .empty, _ => .ok s
  | .circle, i => return { s with circles := ← s.circles.remove i }
  | .rectangle, i => return { s with rectangles := ← s.rectangles.remove i }
  | .polygon, i => return { s with polygons := ← s.polygons.remove i }

/-- A computation on the circles. -/
def onCircles {β : Type} (m : Fallible StoreNote (Memory × ShapePool .circle (Circle α)) β) :
    Fallible StoreNote (Memory × Shapes α) β :=
  Fallible.zoom (fun s => (s.1, s.2.circles)) (fun s t => (s.1, { t.2 with circles := s.2 })) id m

/-- A computation on the rectangles. -/
def onRectangles {β : Type}
    (m : Fallible StoreNote (Memory × ShapePool .rectangle (Rectangle α)) β) :
    Fallible StoreNote (Memory × Shapes α) β :=
  Fallible.zoom (fun s => (s.1, s.2.rectangles))
    (fun s t => (s.1, { t.2 with rectangles := s.2 })) id m

/-- A computation on the polygons. -/
def onPolygons {β : Type} (m : Fallible StoreNote (Memory × ShapePool .polygon (Polygon α)) β) :
    Fallible StoreNote (Memory × Shapes α) β :=
  Fallible.zoom (fun s => (s.1, s.2.polygons)) (fun s t => (s.1, { t.2 with polygons := s.2 })) id m

/-- Put a shape into the first free place of its kind, and answer the place. -/
def insert : Shape α → Fallible StoreNote (Memory × Shapes α) Nat
  | .empty => throw .nothingToStore
  | .circle c => onCircles (ShapePool.insert c)
  | .rectangle r => onRectangles (ShapePool.insert r)
  | .polygon p => onPolygons (ShapePool.insert p)

/-- Give up all places of all kinds. -/
def clear : Recorded StoreNote (Memory × Shapes α) Unit := do
  Recorded.zoom (fun s => (s.1, s.2.circles)) (fun s t => (s.1, { t.2 with circles := s.2 })) id
    ShapePool.clear
  Recorded.zoom (fun s => (s.1, s.2.rectangles))
    (fun s t => (s.1, { t.2 with rectangles := s.2 })) id ShapePool.clear
  Recorded.zoom (fun s => (s.1, s.2.polygons)) (fun s t => (s.1, { t.2 with polygons := s.2 })) id
    ShapePool.clear

/-- The shape of a kind at a place, moved into the world. -/
def placed [Scalar α] (s : Shapes α) (kind : ShapeKind) (i : Nat) (offset : Vector2 α) :
    Except Fault (Shape α) :=
  (·.translate offset) <$> s.get kind i

end Shapes

end PlanarDynamics
