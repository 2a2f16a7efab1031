import PlanarDynamics.World.Entities

/-!
# Operations as data

Everything that can be asked of a world is an `Operation`, and each operation has its type of
answers. A `Program` asks operations one after the other, each depending on the answers so far;
this is how a listener acts on the world it is shown.

To carry out an operation (`Operation.perform`) one has to say what an update means, since it
means something else inside a callback than outside.
-/

set_option autoImplicit false

namespace PlanarDynamics

/-- What can be asked of a world. -/
inductive Operation (α L : Type)
  /-- See the whole world. -/
  | look
  | restart (gravity : Vector2 α) (slots : Int)
  | vacate
  | setGravity (gravity : Vector2 α)
  /-- Install a listener, and answer the one there was. -/
  | installListener (listener : L)
  /-- Remove the listener, and answer it. -/
  | removeListener
  | createBody
  | destroyBody (body : BodyRef)
  | editBody (body : BodyRef) (f : Body α → Body α)
  | createCollider (body : BodyRef) (kind : ShapeKind)
  | attach (body : BodyRef) (shape : Shape α)
  | destroyCollider (collider : ColliderRef)
  | editCollider (collider : ColliderRef) (f : Collider α → Collider α)
  | reshapeAt (place : Nat) (r : Reshape α)
  | reshape (collider : ColliderRef) (r : Reshape α)
  | update (dt : α)

namespace Operation

variable {α L ρ : Type}

/-- What an operation answers. -/
abbrev Answer : Operation α L → Type
  | look => World α L
  | restart .. => Except Fault Unit
  | vacate => Unit
  | setGravity _ => Unit
  | installListener _ => Option L
  | removeListener => Option L
  | createBody => Except Fault BodyRef
  | destroyBody _ => Except Fault Unit
  | editBody .. => Except Fault (Body α)
  | createCollider .. => Except Fault ColliderRef
  | attach .. => Except Fault ColliderRef
  | destroyCollider _ => Except Fault Unit
  | editCollider .. => Except Fault (Collider α)
  | reshapeAt .. => Except Fault (Shape α)
  | reshape .. => Except Fault (Shape α)
  | update _ => Unit

/-- Carry out an operation, given what an update does. -/
def perform [Scalar α] (onUpdate : α → Action α L ρ Unit) : (op : Operation α L) →
    Action α L ρ op.Answer
  | look => get
  | restart gravity slots => (World.restart gravity slots).attempt
  | vacate => World.vacate
  | setGravity gravity => modify (World.setGravity · gravity)
  | installListener listener =>
    modifyGet fun w => (w.listener, { w with listener := some listener })
  | removeListener => modifyGet fun w => (w.listener, { w with listener := none })
  | createBody => World.createBody.attempt
  | destroyBody body => (World.destroyBody body).attempt
  | editBody body f => (World.editBody body f).attempt
  | createCollider body kind => (World.createCollider body kind).attempt
  | attach body shape => (World.attach body shape).attempt
  | destroyCollider collider => (World.destroyCollider collider).attempt
  | editCollider collider f => (World.editCollider collider f).attempt
  | reshapeAt place r => (World.reshapeAt place r).attempt
  | reshape collider r => (World.reshape collider r).attempt
  | update dt => onUpdate dt

end Operation

/-- Operations asked one after the other. -/
inductive Program (α L β : Type)
  | done (result : β)
  | ask (op : Operation α L) (next : op.Answer → Program α L β)

namespace Program

variable {α L ρ β γ : Type}

/-- Go on with the result of a program. -/
protected def bind : Program α L β → (β → Program α L γ) → Program α L γ
  | done b, f => f b
  | ask op next, f => ask op fun answer => (next answer).bind f

instance : Monad (Program α L) where
  pure := done
  bind := Program.bind

/-- Ask one operation. -/
def call (op : Operation α L) : Program α L op.Answer := ask op done

/-- Carry out a program, given what an update does. -/
def run [Scalar α] (onUpdate : α → Action α L ρ Unit) : Program α L β → Action α L ρ β
  | done b => pure b
  | ask op next => do
    let answer ← op.perform onUpdate
    (next answer).run onUpdate

end Program

end PlanarDynamics
