import PlanarDynamics.BroadPhase.Pair
import PlanarDynamics.Plane.Box
import PlanarDynamics.Store.Arena

/-!
# The quad-tree

The broad phase keeps one box per collider in a tree of nested boxes. A leaf that holds more
entries than its capacity, and is not yet at the depth limit, splits into the four quadrants of
its box. An entry sinks for as long as its box overlaps exactly one quadrant (`onlyQuadrant?`),
and an entry that overlaps none or several stays where it is.

Nodes are numbered in the order in which they come to be, the root first and the quadrants of a
split one behind the other. `QuadTree.nodes` lists them in that order.

Two entries are candidates for contact when they are kept at the same node and, if the tree
pairs with ancestors, when one is kept above the other (`QuadTree.pairs`). They are collected on
a walk from the root that keeps the nodes above it in a list. A query reserves the list for the
deepest walk that the depth limit allows, so it crashes when the limit is so high that the list
would not fit into one block (`QuadTree.query`).
-/

set_option autoImplicit false

namespace PlanarDynamics

/-- Which entries of a tree are paired. -/
inductive Pairing
  /-- Only entries of the same node. -/
  | sameNode
  /-- Also each entry with the entries of the nodes above it. -/
  | includeAncestors
deriving DecidableEq, Inhabited

/-- The limits of a tree. -/
@[ext]
structure TreeSettings where
  maxDepth : Nat
  /-- The entries a leaf holds without splitting. -/
  nodeCapacity : Nat
  pairing : Pairing
deriving DecidableEq

namespace TreeSettings

/-- The limits a tree has when nothing else is said. -/
def standard : TreeSettings := ⟨5, 16, .sameNode⟩

/-- The bytes of the number of a node. -/
def numberBytes : Nat := 8

/-- Whether the numbers of the nodes on the deepest walk, one for every depth, fit into one block.
They are counted without overflow, and a list that fits is granted. -/
def Walkable (s : TreeSettings) : Prop := (s.maxDepth + 1) * numberBytes ≤ Arena.largestBlock

instance (s : TreeSettings) : Decidable s.Walkable := inferInstanceAs (Decidable (_ ≤ _))

end TreeSettings

/-- The box of a collider. -/
@[ext]
structure TreeEntry (α : Type) where
  bounds : Box α
  collider : ColliderRef
deriving DecidableEq

/-- A node of a tree, with the entries kept at it. -/
inductive TreeNode (α : Type)
  | leaf (entries : List (TreeEntry α))
  /-- A node with four quadrants, numbered from `first` on. -/
  | split (first : Nat) (entries : List (TreeEntry α)) (bl br tl tr : TreeNode α)

/-- A leaf that has split. -/
structure Subdivision where
  node : Nat
  depth : Nat
  entries : Nat
deriving DecidableEq

variable {α : Type} [Scalar α]

/-- The quadrant of a boundary that a box overlaps, when it overlaps exactly one. -/
def onlyQuadrant? (boundary bounds : Box α) : Option Quadrant :=
  match Quadrant.all.filter fun q => (boundary.quadrant q).overlaps bounds with
  | [q] => some q
  | _ => none

namespace TreeNode

/-- The entries kept at a node itself. -/
def entries {α : Type} : TreeNode α → List (TreeEntry α)
  | leaf entries => entries
  | split _ entries _ _ _ _ => entries

/-- A node with one more entry kept at itself. -/
def keep {α : Type} (e : TreeEntry α) : TreeNode α → TreeNode α
  | leaf entries => leaf (entries ++ [e])
  | split first entries bl br tl tr => split first (entries ++ [e]) bl br tl tr

/-- A node with four empty quadrants. -/
def opened {α : Type} (first : Nat) : TreeNode α :=
  split first [] (leaf []) (leaf []) (leaf []) (leaf [])

/-- Let an entry sink below a node with quadrants, by way of `descend`, or keep it there. -/
def sink (boundary : Box α)
    (descend : (index : Nat) → Quadrant → TreeEntry α → TreeNode α →
      Recorded Subdivision Nat (TreeNode α))
    (n : TreeNode α) (e : TreeEntry α) : Recorded Subdivision Nat (TreeNode α) :=
  match n, onlyQuadrant? boundary e.bounds with
  | split first entries bl br tl tr, some .bottomLeft => do
    return split first entries (← descend first .bottomLeft e bl) br tl tr
  | split first entries bl br tl tr, some .bottomRight => do
    return split first entries bl (← descend (first + 1) .bottomRight e br) tl tr
  | split first entries bl br tl tr, some .topLeft => do
    return split first entries bl br (← descend (first + 2) .topLeft e tl) tr
  | split first entries bl br tl tr, some .topRight => do
    return split first entries bl br tl (← descend (first + 3) .topRight e tr)
  | n, _ => return n.keep e

/-- Insert an entry at a node that may still split `room` times on the way down. The state is
the number of the next node. -/
def insert (capacity : Nat) : (room index depth : Nat) → Box α → TreeEntry α → TreeNode α →
    Recorded Subdivision Nat (TreeNode α)
  | 0, _, _, _, e, n => return n.keep e
  | room + 1, index, depth, boundary, e, n =>
    let descend := fun child q => insert capacity room child (depth + 1) (boundary.quadrant q)
    match n with
    | leaf entries =>
      if entries.length + 1 > capacity then do
        let first ← get
        set (first + 4)
        Recorded.note ⟨index, depth, entries.length + 1⟩
        (entries ++ [e]).foldlM (sink boundary descend) (opened first)
      else return leaf (entries ++ [e])
    | split .. => sink boundary descend n e

/-- The pairs of different entries of a list, in order. -/
def pairsWithin {α : Type} : List (TreeEntry α) → List ColliderPair
  | [] => []
  | e :: es => es.map (fun f => .of e.collider f.collider) ++ pairsWithin es

/-- The pairs of an entry of one list with an entry of another, in order. -/
def pairsBetween {α : Type} (upper lower : List (TreeEntry α)) : List ColliderPair :=
  upper.flatMap fun e => lower.map fun f => .of e.collider f.collider

/-- The pairs at a node and below it, given the entries above it from the root down. -/
def pairs {α : Type} (pairing : Pairing) (above : List (TreeEntry α)) :
    TreeNode α → List ColliderPair
  | leaf entries => here entries
  | split _ entries bl br tl tr =>
    here entries ++ bl.pairs pairing (above ++ entries) ++ br.pairs pairing (above ++ entries) ++
      tl.pairs pairing (above ++ entries) ++ tr.pairs pairing (above ++ entries)
where
  /-- The pairs whose lower entry is kept at the node. -/
  here (entries : List (TreeEntry α)) : List ColliderPair :=
    pairsWithin entries ++
      match pairing with
      | .sameNode => []
      | .includeAncestors => pairsBetween above entries

end TreeNode

/-- A node as seen from outside. -/
structure NodeView (α : Type) where
  index : Nat
  boundary : Box α
  depth : Nat
  /-- The number of the first quadrant, none for a leaf. -/
  firstChild : Option Nat
  entries : List (TreeEntry α)
deriving DecidableEq

/-- Whether the node has no quadrants. -/
def NodeView.isLeaf {α : Type} (v : NodeView α) : Bool := v.firstChild.isNone

/-- The nodes from a node down, each before its quadrants. -/
def TreeNode.views (index depth : Nat) (boundary : Box α) : TreeNode α → List (NodeView α)
  | leaf entries => [⟨index, boundary, depth, none, entries⟩]
  | split first entries bl br tl tr =>
    ⟨index, boundary, depth, some first, entries⟩ ::
      (bl.views first (depth + 1) (boundary.quadrant .bottomLeft) ++
        br.views (first + 1) (depth + 1) (boundary.quadrant .bottomRight) ++
        tl.views (first + 2) (depth + 1) (boundary.quadrant .topLeft) ++
        tr.views (first + 3) (depth + 1) (boundary.quadrant .topRight))

/-- The broad phase. -/
structure QuadTree (α : Type) where
  settings : TreeSettings
  boundary : Box α
  root : TreeNode α
  nodeCount : Nat
  /-- The number of entries. -/
  size : Nat

namespace QuadTree

/-- A tree without entries. -/
def empty {α : Type} (boundary : Box α) (settings : TreeSettings) : QuadTree α :=
  ⟨settings, boundary, .leaf [], 1, 0⟩

/-- The boundary a tree has when nothing else is said. -/
def standardBoundary : Box α := .spanning (-.splat 1000.0) (.splat 1000.0)

/-- A tree over the usual boundary. -/
def standard : QuadTree α := empty standardBoundary .standard

/-- The tree without its entries. -/
def clear {α : Type} (t : QuadTree α) : QuadTree α := empty t.boundary t.settings

/-- An empty tree over another boundary. -/
def setBoundary {α : Type} (t : QuadTree α) (boundary : Box α) : QuadTree α :=
  empty boundary t.settings

/-- The tree with another way to pair entries. -/
def setPairing {α : Type} (t : QuadTree α) (pairing : Pairing) : QuadTree α :=
  { t with settings := { t.settings with pairing := pairing } }

/-- Add an entry, and note the leaves that split for it. -/
def insert (e : TreeEntry α) : Recorded Subdivision (QuadTree α) Unit := fun t =>
  let grown :=
    (t.root.insert t.settings.nodeCapacity t.settings.maxDepth 0 0 t.boundary e).run t.nodeCount
  ⟨(), { t with root := grown.answer, nodeCount := grown.state, size := t.size + 1 }, grown.notes⟩

/-- The candidates for contact that a walk from the root collects. -/
def pairs {α : Type} (t : QuadTree α) : List ColliderPair := t.root.pairs t.settings.pairing []

/-- Ask for the candidates for contact. -/
def query {α : Type} (t : QuadTree α) : Except Crash (List ColliderPair) :=
  if t.settings.Walkable then .ok t.pairs else .error .capacityOverflow

theorem query_of_walkable {α : Type} {t : QuadTree α} (walkable : t.settings.Walkable) :
    t.query = .ok t.pairs :=
  if_pos walkable

theorem query_of_not_walkable {α : Type} {t : QuadTree α} (deep : ¬ t.settings.Walkable) :
    t.query = .error .capacityOverflow :=
  if_neg deep

/-- A query answers with the candidates of the walk if it answers at all. -/
theorem query_eq_ok_iff {α : Type} {t : QuadTree α} {reported : List ColliderPair} :
    t.query = .ok reported ↔ t.settings.Walkable ∧ reported = t.pairs := by
  unfold query
  split
  case isTrue walkable => simp [walkable, eq_comm]
  case isFalse deep => simp [deep]

/-- All nodes by number. -/
def nodes (t : QuadTree α) : List (NodeView α) :=
  (t.root.views 0 0 t.boundary).mergeSort fun u v => u.index ≤ v.index

/-- The number of the first node that keeps an entry of a collider. -/
def nodeOf? (t : QuadTree α) (c : ColliderRef) : Option Nat :=
  (t.nodes.find? fun v => v.entries.any fun e => e.collider = c).map NodeView.index

end QuadTree

end PlanarDynamics
