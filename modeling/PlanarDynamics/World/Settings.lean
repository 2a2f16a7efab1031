import PlanarDynamics.BroadPhase.QuadTree
import PlanarDynamics.Contact.Solver
import PlanarDynamics.Store.Memory

/-!
# Settings of a world

Everything a world is told before it starts: gravity, how its stores start and grow, the area
and the limits of its broad phase, how contacts are resolved and which memory backs the stores.
`WorldSettings.standard` is the usual choice; the other two are variations of it.
-/

set_option autoImplicit false

namespace PlanarDynamics

/-- Where the memory of the stores comes from. -/
inductive MemoryStrategy
  | heap
  /-- A fixed number of bytes, handed out once. -/
  | linear (capacity : Nat)
deriving DecidableEq

/-- The memory behind the stores. -/
@[ext]
structure MemorySettings where
  strategy : MemoryStrategy
  /-- Whether the traffic is counted. -/
  metered : Bool
deriving DecidableEq

namespace MemorySettings

/-- A heap that is not metered. -/
def standard : MemorySettings := ⟨.heap, false⟩

/-- The capacity of the strategy, none for a heap. -/
def capacity? (s : MemorySettings) : Option Nat :=
  match s.strategy with
  | .heap => none
  | .linear capacity => some capacity

/-- The memory at the start. A meter is named for what it measures. -/
def build (s : MemorySettings) : Memory :=
  match s.strategy, s.metered with
  | .heap, false => .newHeap
  | .heap, true => .meter "heap" .newHeap
  | .linear capacity, false => .newLinear capacity
  | .linear capacity, true => .meter "linear" (.newLinear capacity)

end MemorySettings

/-- What a world is told before it starts. -/
@[ext]
structure WorldSettings (α : Type) where
  gravity : Vector2 α
  /-- Slots for bodies reserved at the start. -/
  bodySlots : Nat
  /-- Slots for colliders reserved at the start. -/
  colliderSlots : Nat
  /-- The factor by which stores grow. -/
  growth : Float32
  /-- The area of the broad phase. -/
  bounds : Box α
  tree : TreeSettings
  /-- The share of the excess depth that a contact removes. -/
  percent : α
  /-- The depth that contacts leave alone. -/
  slop : α
  memory : MemorySettings
deriving DecidableEq

namespace WorldSettings

variable {α : Type} [Scalar α]

/-- Earth's gravity, no reserved slots, stores that double, a square of two thousand units and
contacts that remove all of the depth. -/
def standard : WorldSettings α where
  gravity := ⟨0, -9.81⟩
  bodySlots := 0
  colliderSlots := 0
  growth := 2.0
  bounds := .centered 0 (.splat 1000.0)
  tree := .standard
  percent := 1
  slop := 0
  memory := .standard

/-- The plane seen from above: no gravity. -/
def topDown : WorldSettings α := { standard with gravity := 0 }

/-- Contacts that leave a little overlap, so that stacks settle. -/
def stableStacking : WorldSettings α := { standard with percent := 0.8, slop := 0.01 }

end WorldSettings

end PlanarDynamics
