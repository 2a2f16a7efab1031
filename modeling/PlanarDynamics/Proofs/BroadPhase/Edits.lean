import Mathlib.Algebra.Group.Nat.Defs
import PlanarDynamics.Proofs.BroadPhase.Arrangement

/-!
# Trees over their lifetime

A tree is changed by `TreeEdit`s: entries are inserted, the tree is cleared, and its boundary or
its way of pairing is replaced. `TreeEdit.insertions` lists what has been inserted since the tree
was last emptied. After any edits, the tree is arranged and keeps exactly these entries
(`QuadTree.holds_edited`).

No edit changes the depth limit (`QuadTree.maxDepth_edited`). So it is known from the start whether
a query answers: it does for a limit below `2 ^ 60 - 1`, and crashes for any other
(`QuadTree.query_edited`).
-/

set_option autoImplicit false

namespace PlanarDynamics

/-- The deepest walk can be reserved for as long as it has less than `2 ^ 60` nodes. -/
theorem TreeSettings.walkable_iff {s : TreeSettings} : s.Walkable ↔ s.maxDepth + 1 < 2 ^ 60 := by
  unfold Walkable numberBytes Arena.largestBlock
  omega

/-- A change of a tree. -/
inductive TreeEdit (α : Type)
  | insert (entry : TreeEntry α)
  | clear
  | setBoundary (boundary : Box α)
  | setPairing (pairing : Pairing)

variable {α : Type}

namespace TreeEdit

/-- The entries held after a change, given the ones held before. -/
def keep (held : List (TreeEntry α)) : TreeEdit α → List (TreeEntry α)
  | insert entry => held ++ [entry]
  | clear => []
  | setBoundary _ => []
  | setPairing _ => held

/-- The entries inserted since the tree was last emptied, in order. -/
def insertions (edits : List (TreeEdit α)) : List (TreeEntry α) := edits.foldl keep []

theorem insertions_map_insert (l : List (TreeEntry α)) : insertions (l.map insert) = l := by
  have run : ∀ held : List (TreeEntry α), (l.map insert).foldl keep held = held ++ l := by
    induction l with
    | nil => exact fun held => (List.append_nil held).symm
    | cons e l ih => exact fun held => (ih (held ++ [e])).trans (List.append_assoc ..)
  exact run []

end TreeEdit

namespace QuadTree

variable [Scalar α]

/-- The tree after a change. -/
def edit (t : QuadTree α) : TreeEdit α → QuadTree α
  | .insert entry => ((insert entry).run t).state
  | .clear => t.clear
  | .setBoundary boundary => t.setBoundary boundary
  | .setPairing pairing => t.setPairing pairing

/-- The tree after several changes. -/
def edited (t : QuadTree α) (edits : List (TreeEdit α)) : QuadTree α := edits.foldl edit t

/-- The tree is arranged and keeps exactly the given entries. -/
structure Holds (t : QuadTree α) (held : List (TreeEntry α)) : Prop where
  arranged : t.root.Arranged t.settings.nodeCapacity t.settings.maxDepth t.boundary
  contents : t.root.contents.Perm held

theorem holds_empty (boundary : Box α) (settings : TreeSettings) :
    (empty boundary settings).Holds [] :=
  ⟨.leaf fun _ => Nat.zero_le _, .refl _⟩

theorem Holds.edit {t : QuadTree α} {held : List (TreeEntry α)} (holds : t.Holds held)
    (change : TreeEdit α) : (t.edit change).Holds (change.keep held) := by
  cases change with
  | insert entry =>
      have takes := TreeNode.takes_insert t.settings.nodeCapacity t.settings.maxDepth 0 0
        t.boundary entry t.root t.nodeCount
      exact ⟨takes.arranged holds.arranged, takes.contents.trans
        ((holds.contents.cons entry).trans (List.perm_append_singleton entry held).symm)⟩
  | clear => exact holds_empty t.boundary t.settings
  | setBoundary boundary => exact holds_empty boundary t.settings
  | setPairing pairing => exact ⟨holds.arranged, holds.contents⟩

/-- What is true of an empty tree and kept by every change is true after any changes. -/
theorem edited_induction {motive : QuadTree α → List (TreeEntry α) → Prop} (boundary : Box α)
    (settings : TreeSettings) (start : motive (empty boundary settings) [])
    (step : ∀ (t : QuadTree α) held change, motive t held →
      motive (t.edit change) (change.keep held))
    (edits : List (TreeEdit α)) :
    motive ((empty boundary settings).edited edits) (TreeEdit.insertions edits) := by
  have run : ∀ (edits : List (TreeEdit α)) (t : QuadTree α) (held : List (TreeEntry α)),
      motive t held → motive (t.edited edits) (edits.foldl TreeEdit.keep held) := by
    intro edits
    induction edits with
    | nil => exact fun _ _ holds => holds
    | cons change rest ih => exact fun t held holds => ih _ _ (step t held change holds)
  exact run edits _ _ start

/-- **A tree keeps exactly what was inserted since it was last emptied.** -/
theorem holds_edited (boundary : Box α) (settings : TreeSettings) (edits : List (TreeEdit α)) :
    ((empty boundary settings).edited edits).Holds (TreeEdit.insertions edits) :=
  edited_induction boundary settings (holds_empty boundary settings)
    (fun _ _ change holds => holds.edit change) edits

/-- Inserting changes neither the boundary nor the settings. -/
theorem frame_map_insert (t : QuadTree α) (l : List (TreeEntry α)) :
    (t.edited (l.map .insert)).boundary = t.boundary ∧
      (t.edited (l.map .insert)).settings = t.settings := by
  induction l generalizing t with
  | nil => exact ⟨rfl, rfl⟩
  | cons e l ih => exact ih (t.edit (.insert e))

/-- A tree keeps exactly what is inserted when it is empty. -/
theorem holds_map_insert (boundary : Box α) (settings : TreeSettings) (l : List (TreeEntry α)) :
    ((empty boundary settings).edited (l.map .insert)).Holds l := by
  have holds := holds_edited boundary settings (l.map .insert)
  rwa [TreeEdit.insertions_map_insert] at holds

/-! ## Queries -/

theorem maxDepth_edit (t : QuadTree α) (change : TreeEdit α) :
    (t.edit change).settings.maxDepth = t.settings.maxDepth := by
  cases change <;> rfl

/-- Whatever happens to a tree, its depth limit stays. -/
theorem maxDepth_edited (t : QuadTree α) (edits : List (TreeEdit α)) :
    (t.edited edits).settings.maxDepth = t.settings.maxDepth := by
  induction edits generalizing t with
  | nil => rfl
  | cons change rest ih => exact (ih (t.edit change)).trans (t.maxDepth_edit change)

section

variable (boundary : Box α) (settings : TreeSettings) (edits : List (TreeEdit α))

theorem walkable_edited :
    ((empty boundary settings).edited edits).settings.Walkable ↔
      settings.maxDepth + 1 < 2 ^ 60 := by
  rw [TreeSettings.walkable_iff, maxDepth_edited]
  rfl

/-- **Whether a query answers is decided by the depth limit alone.** -/
theorem query_edited :
    let t := (empty boundary settings).edited edits
    t.query = if settings.maxDepth + 1 < 2 ^ 60 then .ok t.pairs else .error .capacityOverflow :=
  if_congr (walkable_edited boundary settings edits) rfl rfl

/-- What is true of the candidates of the walk is true of an answer, if there is one. -/
theorem exists_query_edited_iff {wanted : List ColliderPair → Prop}
    (walk : settings.maxDepth + 1 < 2 ^ 60 →
      wanted ((empty boundary settings).edited edits).pairs) :
    (∃ reported, ((empty boundary settings).edited edits).query = .ok reported ∧
      wanted reported) ↔ settings.maxDepth + 1 < 2 ^ 60 := by
  have answers := walkable_edited boundary settings edits
  constructor
  · rintro ⟨reported, answered, _⟩
    exact answers.mp (query_eq_ok_iff.mp answered).1
  · intro low
    exact ⟨_, query_of_walkable (answers.mpr low), walk low⟩

end

end QuadTree

end PlanarDynamics
