import PlanarDynamics.Scalar.Binary32
import PlanarDynamics.Store.Memory

/-!
# Arenas

An `Arena` is a growing row of slots that are recycled but never given up one by one. The
entity in a slot tells itself whether it is live (`Entity`); a slot whose entity is not live is
vacant. A new entity goes to the first vacant slot (`firstVacant?`), and only when there is none
does the arena grow, by its growth factor and by one slot at least. Destroying an entity raises
the generation of its slot, so handles to it go stale.

`entries` is the view of an arena: the live entities with their handles, in the order of the
slots. Clearing an arena gives up all slots, and the slots that come after it start at a
generation above every one there has been.
-/

set_option autoImplicit false

namespace PlanarDynamics

/-- Entities that know whether they are live. -/
class Entity (ε : Type) where
  /-- Whether the value stands for an entity. -/
  isLive : ε → Bool
  /-- The value of a vacant slot. -/
  vacant : ε
  /-- The bytes of a slot, with its generation. -/
  slotBytes : Nat
  /-- A vacant slot holds no entity. -/
  not_isLive_vacant : isLive vacant = false

/-- A slot of an arena. -/
@[ext]
structure Slot (ε : Type) where
  entity : ε
  generation : Nat
deriving DecidableEq

/-- Whether a slot holds a live entity. -/
def Slot.isLive {ε : Type} [Entity ε] (s : Slot ε) : Bool := Entity.isLive s.entity

/-- A growing row of slots. -/
@[ext]
structure Arena (k : StoreKind) (ε : Type) where
  slots : Array (Slot ε)
  /-- The generation of slots to come. -/
  base : Nat
  growth : Float32
  /-- The memory held, oldest first. -/
  blocks : List Request
deriving DecidableEq

/-- What a store tells about its growth. -/
inductive StoreNote
  | memory (n : MemoryNote)
  | grew (store : StoreKind) (fromSlots toSlots : Nat)
deriving DecidableEq

namespace Arena

variable {k : StoreKind} {ε : Type}

/-- The alignment of every block. -/
def blockAlign : Nat := 8

/-- The largest block that can be asked for. -/
def largestBlock : Nat := 0x7FFFFFFFFFFFFFF8

/-- The number of slots after one growth step: the length times the factor, and at least one
more than before. -/
def nextLength (length : Nat) (growth : Float32) : Nat :=
  max (Binary32.toCount (Binary32.ofCount length * growth)) (length + 1)

/-- An arena without slots. -/
def empty (growth : Float32) : Arena k ε := ⟨#[], 0, growth, []⟩

/-- The number of slots, live or vacant. -/
def capacity (a : Arena k ε) : Nat := a.slots.size

/-- The generation of a slot that there is. -/
def generation? (a : Arena k ε) (i : Nat) : Option Nat := a.slots[i]?.map Slot.generation

/-- The generation of a slot, or the one it will have once the arena reaches it. -/
def generationAt (a : Arena k ε) (i : Nat) : Nat := (a.generation? i).getD a.base

/-- The arena with another entity in one slot, whose generation stays. -/
def write (a : Arena k ε) (i : Nat) (v : ε) : Arena k ε :=
  { a with slots := a.slots.modify i fun s => { s with entity := v } }

/-! ## Reading and editing live entities -/

section Access

variable [Entity ε]

/-- The entity a handle names, or why it names none: the slot does not exist, or it is vacant
or of another generation. -/
protected def get (a : Arena k ε) (h : Handle k) : Except Fault ε :=
  match a.slots[h.index]? with
  | none => .error (.outOfRange k h.index a.capacity)
  | some s =>
    if s.generation = h.generation ∧ s.isLive then .ok s.entity
    else .error (.stale k h.index h.generation s.generation)

/-- Whether a handle names a live entity. -/
def contains (a : Arena k ε) (h : Handle k) : Bool := (a.get h).isOk

/-- The two entities of two handles, which must name different slots. -/
def getPair (a : Arena k ε) (h₁ h₂ : Handle k) : Except Fault (ε × ε) := do
  let v₁ ← a.get h₁
  let v₂ ← a.get h₂
  if h₁.index = h₂.index then .error (.aliased k h₁.index) else .ok (v₁, v₂)

/-- The arena with the entity of a handle changed. -/
protected def modify (a : Arena k ε) (h : Handle k) (f : ε → ε) : Except Fault (Arena k ε) := do
  let v ← a.get h
  return a.write h.index (f v)

/-- The arena with the entities of two handles changed together. -/
def modifyPair (a : Arena k ε) (h₁ h₂ : Handle k) (f : ε → ε → ε × ε) :
    Except Fault (Arena k ε) := do
  let (v₁, v₂) ← a.getPair h₁ h₂
  return (a.write h₁.index (f v₁ v₂).1).write h₂.index (f v₁ v₂).2

/-- The arena without the entity of a handle, and its slot in the next generation. -/
def destroy (a : Arena k ε) (h : Handle k) : Except Fault (Arena k ε) := do
  let _ ← a.get h
  return { a with slots := a.slots.modify h.index fun s => ⟨Entity.vacant, s.generation + 1⟩ }

/-- The handle of the live entity in a slot. -/
def handleAt? (a : Arena k ε) (i : Nat) : Option (Handle k) :=
  match a.slots[i]? with
  | some s => if s.isLive then some ⟨i, s.generation⟩ else none
  | none => none

/-- The live entities with their handles, in the order of the slots. -/
def entries (a : Arena k ε) : List (Handle k × ε) :=
  a.slots.toList.zipIdx.filterMap fun (s, i) =>
    if s.isLive then some (⟨i, s.generation⟩, s.entity) else none

/-- The number of live entities. -/
def liveCount (a : Arena k ε) : Nat := a.slots.countP Slot.isLive

/-- The arena with every live entity changed. -/
def mapLive (a : Arena k ε) (f : ε → ε) : Arena k ε :=
  { a with slots := a.slots.map fun s => if s.isLive then { s with entity := f s.entity } else s }

/-- The first vacant slot. -/
def firstVacant? (a : Arena k ε) : Option Nat := a.slots.findIdx? fun s => !s.isLive

/-! ## Growing, filling and clearing -/

/-- The arena with vacant slots added up to a length, against a block of memory. -/
def extend (a : Arena k ε) (length : Nat) (block : Request) : Arena k ε :=
  { a with
    slots := a.slots ++ Array.replicate (length - a.capacity) ⟨Entity.vacant, a.base⟩
    blocks := a.blocks ++ [block] }

/-- The block of memory for so many slots, none when it would be too large to ask for. -/
def blockFor? (ε : Type) [Entity ε] (slots : Nat) : Option Request :=
  if slots * Entity.slotBytes ε > largestBlock then none
  else some ⟨slots * Entity.slotBytes ε, blockAlign⟩

/-- Run a computation on the memory beside a store. -/
def onMemory {σ β : Type} (m : Fallible MemoryNote Memory β) : Fallible StoreNote (Memory × σ) β :=
  Fallible.zoom Prod.fst (fun memory s => (memory, s.2)) .memory m

/-- Grow to a length at least. -/
def reserve (length : Nat) : Fallible StoreNote (Memory × Arena k ε) Unit := do
  let (_, a) ← get
  if a.capacity < length then
    match blockFor? ε (length - a.capacity) with
    | none => throw (.allocationFailed wordMax 0)
    | some block =>
      onMemory (Memory.allocate block)
      modify fun (memory, a) => (memory, a.extend length block)
      Fallible.note (.grew k a.capacity length)

/-- Put an entity into the first vacant slot, after one growth step when there is none. The
slot keeps its generation. -/
def create (v : ε) : Fallible StoreNote (Memory × Arena k ε) (Handle k) := do
  let (_, a) ← get
  let i := a.firstVacant?.getD a.capacity
  if a.firstVacant?.isNone then
    reserve (nextLength a.capacity a.growth)
  modify fun (memory, a) => (memory, a.write i v)
  return ⟨i, a.generationAt i⟩

/-- The arena without slots. Its next slots start above every generation there has been. -/
def cleared (a : Arena k ε) : Arena k ε :=
  { a with
    slots := #[]
    base := a.slots.foldl (fun b s => max b (s.generation + 1)) a.base
    blocks := [] }

/-- Give up all slots and hand the memory back, oldest block first. -/
def clear : Recorded StoreNote (Memory × Arena k ε) Unit := do
  let (_, a) ← get
  for block in a.blocks do
    Recorded.zoom Prod.fst (fun memory s => (memory, s.2)) .memory (Memory.deallocate block)
  modify fun (memory, a) => (memory, a.cleared)

/-! ## Small laws -/

omit [Entity ε] in
theorem capacity_write (a : Arena k ε) (i : Nat) (v : ε) : (a.write i v).capacity = a.capacity := by
  simp [write, capacity]

omit [Entity ε] in
theorem generation?_write (a : Arena k ε) (i j : Nat) (v : ε) :
    (a.write i v).generation? j = a.generation? j := by
  simp only [write, generation?, Array.getElem?_modify]
  split <;> simp [Function.comp_def]

theorem contains_iff_get_eq_ok (a : Arena k ε) (h : Handle k) :
    a.contains h = true ↔ ∃ v, a.get h = .ok v := by
  unfold contains
  cases a.get h <;> simp [Except.isOk, Except.toBool]

end Access

end Arena

end PlanarDynamics
