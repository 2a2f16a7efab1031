import PlanarDynamics.Store.Handle

/-!
# Faults

Everything a store or a world can refuse, by cause. A fault carries what its report has to
name, and no wording. A `Crash` is not refused to anybody: what was going on breaks off, and
there is no answer.
-/

set_option autoImplicit false

namespace PlanarDynamics

/-- Why an operation was refused. -/
inductive Fault
  /-- The slot exists and does not hold the entity the handle was issued for. -/
  | stale (store : StoreKind) (index generation current : Nat)
  /-- The store has no such slot. -/
  | outOfRange (store : StoreKind) (index slots : Nat)
  /-- Two entities were asked for and both handles name the same slot. -/
  | aliased (store : StoreKind) (index : Nat)
  /-- The collider has geometry of another kind. -/
  | kindMismatch (expected found : ShapeKind)
  /-- The empty shape cannot be stored. -/
  | nothingToStore
  /-- A collider cannot be created with the empty shape. -/
  | noGeometry
  /-- The memory refused to grow a store. -/
  | allocationFailed (requested available : Nat)
deriving DecidableEq

/-- Why a computation broke off. -/
inductive Crash
  /-- More places were reserved at once than the largest block has. -/
  | capacityOverflow
deriving DecidableEq

end PlanarDynamics
