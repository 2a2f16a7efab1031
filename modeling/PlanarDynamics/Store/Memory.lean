import PlanarDynamics.Recorded

/-!
# Memory budgets

Before a store grows it asks a `Memory` for the bytes, and hands them back when it is emptied.
A memory keeps the books and may refuse:

* `heap` grants everything and counts the bytes in use;
* `linear` serves requests one behind the other within a fixed capacity, and takes nothing back
  until it is reset;
* `metered` passes every request on to another memory and counts the traffic.

A request starts at a multiple of its alignment, found by `alignUp`. Sizes are those of a
64-bit word, `wordMax` at most.
-/

set_option autoImplicit false

namespace PlanarDynamics

/-- The largest 64-bit count. -/
def wordMax : Nat := 0xFFFFFFFFFFFFFFFF

/-- The least multiple of `align`, a power of two, that is not below `value`, computed on 64-bit
words by clearing the low bits. -/
def alignUp (value align : UInt64) : UInt64 := (value + align - 1) &&& ~~~(align - 1)

/-- A request for memory: so many bytes, starting at a multiple of the alignment. -/
structure Request where
  size : Nat
  align : Nat
deriving DecidableEq

/-- Counters of a memory. -/
@[ext]
structure MemoryStats where
  allocations : Nat
  deallocations : Nat
  failed : Nat
  inUse : Nat
  peak : Nat
deriving DecidableEq

/-- A source of memory. -/
inductive Memory
  | heap (used : Nat)
  | linear (capacity offset : Nat)
  | metered (name : String) (inner : Memory) (stats : MemoryStats)
deriving DecidableEq

/-- What a metered memory tells about a request. -/
inductive MemoryNote
  | granted (name : String) (size inUse : Nat)
  | refused (name : String) (size : Nat)
  | returned (name : String) (size inUse : Nat)
deriving DecidableEq

namespace MemoryStats

/-- Nothing counted yet. -/
def zero : MemoryStats := ⟨0, 0, 0, 0, 0⟩

/-- The counters after a granted request. -/
def grant (s : MemoryStats) (size : Nat) : MemoryStats :=
  { s with
    allocations := s.allocations + 1
    inUse := s.inUse + size
    peak := max s.peak (s.inUse + size) }

/-- The counters after a refused request. -/
def refuse (s : MemoryStats) : MemoryStats := { s with failed := s.failed + 1 }

/-- The counters after memory was handed back. -/
def giveBack (s : MemoryStats) (size : Nat) : MemoryStats :=
  { s with deallocations := s.deallocations + 1, inUse := s.inUse - size }

end MemoryStats

namespace Memory

/-- An empty heap. -/
def newHeap : Memory := heap 0

/-- An empty linear memory. -/
def newLinear (capacity : Nat) : Memory := linear capacity 0

/-- A memory metered from now on. -/
def meter (name : String) (inner : Memory) : Memory := metered name inner .zero

/-- The bytes in use. -/
def used : Memory → Nat
  | heap used => used
  | linear _ offset => offset
  | metered _ inner _ => inner.used

/-- The bytes there are in all, none when there is no limit. -/
def capacity? : Memory → Option Nat
  | heap _ => none
  | linear capacity _ => some capacity
  | metered _ inner _ => inner.capacity?

/-- The bytes still free, none when there is no limit. -/
def available? (m : Memory) : Option Nat := m.capacity?.map (· - m.used)

/-- The counters. A memory that is not metered only knows the bytes in use. -/
def stats : Memory → MemoryStats
  | metered _ _ stats => stats
  | m => { MemoryStats.zero with inUse := m.used }

/-- The memory that is metered, none for one that is not. -/
def inner? : Memory → Option Memory
  | metered _ inner _ => some inner
  | _ => none

/-- Where a request of a linear memory ends, cut off at the largest count. -/
def linearEnd (offset : Nat) (r : Request) : Nat :=
  min ((alignUp offset.toUInt64 r.align.toUInt64).toNat + r.size) wordMax

/-- Ask for memory, and say what became of it. -/
def request : Memory → Request → Outcome MemoryNote Memory (Except Fault Unit)
  | heap used, r => ⟨.ok (), heap (used + r.size), []⟩
  | linear capacity offset, r =>
    if linearEnd offset r > capacity then
      ⟨.error (.allocationFailed r.size (capacity - offset)), linear capacity offset, []⟩
    else ⟨.ok (), linear capacity (linearEnd offset r), []⟩
  | metered name inner stats, r =>
    let below := inner.request r
    match below.answer with
    | .ok _ =>
      ⟨.ok (), metered name below.state (stats.grant r.size),
        below.notes ++ [.granted name r.size (stats.grant r.size).inUse]⟩
    | .error fault =>
      ⟨.error fault, metered name below.state stats.refuse, below.notes ++ [.refused name r.size]⟩

/-- Hand memory back. -/
def giveBack : Memory → Request → Outcome MemoryNote Memory Unit
  | heap used, r => ⟨(), heap (used - r.size), []⟩
  | linear capacity offset, _ => ⟨(), linear capacity offset, []⟩
  | metered name inner stats, r =>
    let below := inner.giveBack r
    ⟨(), metered name below.state (stats.giveBack r.size),
      below.notes ++ [.returned name r.size (stats.giveBack r.size).inUse]⟩

/-- Forget everything that is in use. -/
def reset : Memory → Memory
  | heap _ => heap 0
  | linear capacity _ => linear capacity 0
  | metered name inner stats => metered name inner.reset { stats with inUse := 0 }

/-- Ask for memory. -/
def allocate (r : Request) : Fallible MemoryNote Memory Unit := ExceptT.mk fun m => m.request r

/-- Hand memory back. -/
def deallocate (r : Request) : Recorded MemoryNote Memory Unit := fun m => m.giveBack r

@[simp] theorem used_reset (m : Memory) : m.reset.used = 0 := by
  induction m with
  | heap => rfl
  | linear => rfl
  | metered _ _ _ ih => exact ih

@[simp] theorem capacity?_reset (m : Memory) : m.reset.capacity? = m.capacity? := by
  induction m with
  | heap => rfl
  | linear => rfl
  | metered _ _ _ ih => exact ih

end Memory

end PlanarDynamics
