import PlanarDynamics.World.Basic

/-!
# Entities of a world

Creating, editing and destroying bodies and colliders. A collider is created together with its
geometry and destroyed together with it: when there is no slot for the collider the geometry is
taken back (`World.attach`). Entities are edited in place and freely, their liveness included.
-/

set_option autoImplicit false

namespace PlanarDynamics

/-- A change of a piece of geometry, of the kind it applies to. -/
inductive Reshape (α : Type)
  | circle (f : Circle α → Circle α)
  | rectangle (f : Rectangle α → Rectangle α)
  | polygon (f : Polygon α → Polygon α)

/-- The kind of geometry a change applies to. -/
def Reshape.kind {α : Type} : Reshape α → ShapeKind
  | circle _ => .circle
  | rectangle _ => .rectangle
  | polygon _ => .polygon

/-- The geometry with one piece changed, and the piece as it now is. -/
def Shapes.reshape {α : Type} (s : Shapes α) (i : Nat) :
    Reshape α → Except Fault (Shape α × Shapes α)
  | .circle f => do
    let c ← s.circles.get i
    return (.circle (f c), { s with circles := ← s.circles.modify i f })
  | .rectangle f => do
    let r ← s.rectangles.get i
    return (.rectangle (f r), { s with rectangles := ← s.rectangles.modify i f })
  | .polygon f => do
    let p ← s.polygons.get i
    return (.polygon (f p), { s with polygons := ← s.polygons.modify i f })

namespace World

variable {α L ρ : Type} [Scalar α]

/-! ## Bodies -/

/-- Create a moving body of mass one at the origin. -/
def createBody : Attempt α L ρ BodyRef := do
  let b ← ExceptT.mk (onBodies (Arena.create Body.standard).attempt)
  Fallible.note (.log (.createdBody b))
  return b

/-- Destroy a body. Its colliders stay, without taking part in the simulation. -/
def destroyBody (b : BodyRef) : Attempt α L ρ Unit := do
  let w ← get
  let bodies ← Fallible.ofExcept (w.bodies.destroy b)
  set { w with bodies := bodies }
  Fallible.note (.log (.destroyedBody b))

/-- Change a body, and answer what it now is. -/
def editBody (b : BodyRef) (f : Body α → Body α) : Attempt α L ρ (Body α) := do
  let w ← get
  let body ← Fallible.ofExcept (w.bodies.get b)
  let bodies ← Fallible.ofExcept (w.bodies.modify b f)
  set { w with bodies := bodies }
  return f body

/-! ## Colliders -/

/-- Create a collider of a body with a shape of its own. -/
def attach (b : BodyRef) (shape : Shape α) : Attempt α L ρ ColliderRef := do
  let _ ← Fallible.ofExcept ((← get).bodies.get b)
  let place ← ExceptT.mk (onShapes (Shapes.insert shape).attempt)
  let made ← Fallible.always
    (onColliders (Arena.create (Collider.make b shape.kind place)).attempt)
  match made with
  | .error fault =>
    let w ← get
    let shapes ← Fallible.ofExcept (w.shapes.remove shape.kind place)
    set { w with shapes := shapes }
    throw fault
  | .ok c =>
    let w ← get
    let colliders ← Fallible.ofExcept
      (w.colliders.modify c fun collider => { collider with self := c })
    set { w with colliders := colliders }
    Fallible.note (.log (.createdCollider c shape.kind place b))
    return c

/-- Create a collider of a body with the usual shape of a kind. -/
def createCollider (b : BodyRef) (kind : ShapeKind) : Attempt α L ρ ColliderRef :=
  if kind = .empty then throw .noGeometry else attach b (.standard kind)

/-- Destroy a collider and its geometry. -/
def destroyCollider (c : ColliderRef) : Attempt α L ρ Unit := do
  let w ← get
  let collider ← Fallible.ofExcept (w.colliders.get c)
  let colliders ← Fallible.ofExcept (w.colliders.destroy c)
  set { w with colliders := colliders }
  let shapes ← Fallible.ofExcept (w.shapes.remove collider.kind collider.place)
  set { w with colliders := colliders, shapes := shapes }
  Fallible.note (.log (.destroyedCollider c))

/-- Change a collider, and answer what it now is. -/
def editCollider (c : ColliderRef) (f : Collider α → Collider α) :
    Attempt α L ρ (Collider α) := do
  let w ← get
  let collider ← Fallible.ofExcept (w.colliders.get c)
  let colliders ← Fallible.ofExcept (w.colliders.modify c f)
  set { w with colliders := colliders }
  return f collider

/-! ## Geometry -/

/-- Change the geometry at a place, and answer what it now is. -/
def reshapeAt (i : Nat) (r : Reshape α) : Attempt α L ρ (Shape α) := do
  let w ← get
  let (shape, shapes) ← Fallible.ofExcept (w.shapes.reshape i r)
  set { w with shapes := shapes }
  return shape

/-- Change the geometry of a collider, which must be of the kind of the change, and answer what
it now is. -/
def reshape (c : ColliderRef) (r : Reshape α) : Attempt α L ρ (Shape α) := do
  let collider ← Fallible.ofExcept ((← get).colliders.get c)
  if collider.kind = r.kind then reshapeAt collider.place r
  else throw (.kindMismatch r.kind collider.kind)

end World

end PlanarDynamics
