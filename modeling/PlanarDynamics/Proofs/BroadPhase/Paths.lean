import PlanarDynamics.Proofs.BroadPhase.Numbering

/-!
# Paths to nodes

A path names a node by the quadrants that lead to it from the root. `QuadTree.nodeAt?` follows a
path through the list of all nodes, by the numbers that the nodes have for their quadrants. In a
numbered tree this finds the node in its place (`Numbered.nodeAt?_eq`), every node is found by one
path (`Numbered.existsUnique_path`), and two paths to one number are the same (`Spot.follow_inj`).
-/

set_option autoImplicit false

namespace PlanarDynamics

variable {α : Type}

/-- A node in its place in a tree. -/
@[ext]
structure Spot (α : Type) where
  index : Nat
  depth : Nat
  boundary : Box α
  node : TreeNode α

namespace TreeNode

/-- The number of the first quadrant, none for a leaf. -/
def firstChild : TreeNode α → Option Nat
  | leaf _ => none
  | split first _ _ _ _ _ => some first

end TreeNode

namespace Spot

/-- The node as seen from outside. -/
def view (p : Spot α) : NodeView α :=
  ⟨p.index, p.boundary, p.depth, p.node.firstChild, p.node.entries⟩

variable [Scalar α]

/-- A quadrant in its place, none for a leaf. -/
def child? (p : Spot α) (q : Quadrant) : Option (Spot α) :=
  match p.node with
  | .leaf _ => none
  | .split first _ bl br tl tr =>
    some ⟨first + q.index, p.depth + 1, p.boundary.quadrant q, TreeNode.quarters bl br tl tr q⟩

/-- The node at the end of a path. -/
def follow (p : Spot α) : List Quadrant → Option (Spot α)
  | [] => some p
  | q :: path => (p.child? q).bind (·.follow path)

/-- All nodes from a node down, as seen from outside. -/
def views (p : Spot α) : List (NodeView α) := p.node.views p.index p.depth p.boundary

theorem child?_joined (i depth first : Nat) (boundary : Box α) (entries : List (TreeEntry α))
    (part : Quadrant → TreeNode α) (q : Quadrant) :
    (⟨i, depth, boundary, .joined first entries part⟩ : Spot α).child? q =
      some ⟨first + q.index, depth + 1, boundary.quadrant q, part q⟩ := by
  cases q <;> rfl

theorem follow_append (p : Spot α) (path rest : List Quadrant) :
    p.follow (path ++ rest) = (p.follow path).bind (·.follow rest) := by
  induction path generalizing p with
  | nil => rfl
  | cons q path ih =>
      simp only [List.cons_append, follow, Option.bind_assoc]
      exact Option.bind_congr fun c _ => ih c

/-- A path that starts with a quadrant goes on from there. -/
theorem follow_cons {p c : Spot α} {q : Quadrant} (child : p.child? q = some c)
    (path : List Quadrant) : p.follow (q :: path) = c.follow path := by
  rw [follow, child, Option.bind_some]

theorem follow_cons_joined (i depth first : Nat) (boundary : Box α) (entries : List (TreeEntry α))
    (part : Quadrant → TreeNode α) (q : Quadrant) (path : List Quadrant) :
    (⟨i, depth, boundary, .joined first entries part⟩ : Spot α).follow (q :: path) =
      (⟨first + q.index, depth + 1, boundary.quadrant q, part q⟩ : Spot α).follow path :=
  follow_cons (child?_joined i depth first boundary entries part q) path

/-- A path can be extended by a quadrant of its last node. -/
theorem follow_concat {p s c : Spot α} {path : List Quadrant} {q : Quadrant}
    (found : p.follow path = some s) (child : s.child? q = some c) :
    p.follow (path ++ [q]) = some c := by
  rw [follow_append, found, Option.bind_some, follow_cons child, follow]

/-- A quadrant of a node belongs to a split node. -/
theorem eq_joined_of_child? {p c : Spot α} {q : Quadrant} (child : p.child? q = some c) :
    ∃ first entries part, p.node = .joined first entries part ∧
      c = ⟨first + q.index, p.depth + 1, p.boundary.quadrant q, part q⟩ := by
  obtain ⟨i, depth, boundary, n⟩ := p
  cases n with
  | leaf entries => cases child
  | split first entries bl br tl tr =>
      exact ⟨first, entries, TreeNode.quarters bl br tl tr, rfl, (Option.some.inj child).symm⟩

/-- What the quadrants of a node inherit from it, every node below it inherits. -/
theorem follow_inherits {motive : Spot α → Prop}
    (inherits : ∀ {p c : Spot α} {q : Quadrant}, p.child? q = some c → motive p → motive c)
    {p s : Spot α} {path : List Quadrant} (found : p.follow path = some s) (start : motive p) :
    motive s := by
  induction path generalizing p with
  | nil => exact Option.some.inj found ▸ start
  | cons q path ih =>
      obtain ⟨c, child, found⟩ := Option.bind_eq_some_iff.mp found
      exact ih found (inherits child start)

/-- The nodes from a node down are those at the ends of its paths. -/
theorem mem_views_iff {p : Spot α} {v : NodeView α} :
    v ∈ p.views ↔ ∃ path s, p.follow path = some s ∧ s.view = v := by
  obtain ⟨i, depth, boundary, n⟩ := p
  dsimp only [views]
  induction n using TreeNode.joined_induction generalizing i depth boundary with
  | leaf entries =>
      simp only [TreeNode.views, List.mem_singleton]
      constructor
      · rintro rfl
        exact ⟨[], _, rfl, rfl⟩
      · rintro ⟨path, s, found, rfl⟩
        cases path with
        | nil => exact Option.some.inj found ▸ rfl
        | cons q path => cases found
  | joined first entries part ih =>
      rw [TreeNode.views_joined, List.mem_cons, List.mem_flatMap]
      constructor
      · rintro (rfl | ⟨q, _, member⟩)
        · exact ⟨[], _, rfl, rfl⟩
        · obtain ⟨path, s, found, same⟩ := (ih q _ _ _).mp member
          refine ⟨q :: path, s, ?_, same⟩
          rw [follow_cons_joined]
          exact found
      · rintro ⟨path, s, found, rfl⟩
        cases path with
        | nil => exact .inl (Option.some.inj found ▸ rfl)
        | cons q path =>
            rw [follow_cons_joined] at found
            exact .inr ⟨q, Quadrant.mem_all q, (ih q _ _ _).mpr ⟨path, s, found, rfl⟩⟩

theorem view_mem_views (p : Spot α) : p.view ∈ p.views :=
  mem_views_iff.mpr ⟨[], p, rfl, rfl⟩

theorem map_index_views (p : Spot α) : p.views.map NodeView.index = p.index :: p.node.numbers :=
  TreeNode.map_index_views p.index p.depth p.boundary p.node

theorem index_mem_of_follow {p s : Spot α} {path : List Quadrant}
    (found : p.follow path = some s) : s.index ∈ p.index :: p.node.numbers := by
  rw [← map_index_views]
  exact List.mem_map_of_mem (f := NodeView.index) (mem_views_iff.mpr ⟨path, s, found, rfl⟩)

/-- **Two paths that lead to the same number are the same.** A number below a node is not the number
of the node itself. -/
theorem follow_inj {p s s' : Spot α} (once : (p.index :: p.node.numbers).Nodup)
    {path path' : List Quadrant} (found : p.follow path = some s)
    (found' : p.follow path' = some s') (same : s.index = s'.index) : path = path' := by
  induction path generalizing p path' with
  | nil =>
      obtain rfl := Option.some.inj found
      cases path' with
      | nil => rfl
      | cons q path' =>
          obtain ⟨c, child, found'⟩ := Option.bind_eq_some_iff.mp found'
          obtain ⟨first, entries, part, split, rfl⟩ := eq_joined_of_child? child
          have inside := index_mem_of_follow found'
          refine absurd ?_ (List.nodup_cons.mp once).1
          rw [split, TreeNode.numbers_joined, same]
          exact List.mem_flatMap.mpr ⟨q, Quadrant.mem_all q, inside⟩
  | cons q path ih =>
      obtain ⟨c, child, found⟩ := Option.bind_eq_some_iff.mp found
      obtain ⟨first, entries, part, split, rfl⟩ := eq_joined_of_child? child
      have inside := index_mem_of_follow found
      obtain ⟨fresh, apart⟩ := List.nodup_cons.mp once
      rw [split, TreeNode.numbers_joined] at fresh apart
      cases path' with
      | nil =>
          obtain rfl := Option.some.inj found'
          exact absurd (List.mem_flatMap.mpr ⟨q, Quadrant.mem_all q, same ▸ inside⟩) fresh
      | cons r path' =>
          obtain ⟨c', child', found'⟩ := Option.bind_eq_some_iff.mp found'
          obtain ⟨first', entries', part', split', rfl⟩ := eq_joined_of_child? child'
          obtain ⟨rfl, rfl, rfl⟩ := TreeNode.joined_inj (split.symm.trans split')
          have inside' := index_mem_of_follow found'
          by_cases equal : q = r
          · subst equal
            have once := (List.nodup_flatMap.mp apart).1 q (Quadrant.mem_all q)
            exact congrArg (q :: ·) (ih once found found')
          · exact absurd (same ▸ inside') (TreeNode.disjoint_parts apart equal inside)

end Spot

/-! ## Nodes in a list -/

section Listed

variable [Scalar α]

/-- The node at the end of a path from a number on, looked up by number at every step. -/
def walk (nodes : List (NodeView α)) : Nat → List Quadrant → Option (NodeView α)
  | i, [] => nodes[i]?
  | i, q :: path => do
    let v ← nodes[i]?
    walk nodes ((← v.firstChild) + q.index) path

/-- The nodes from a node down stand in a list at the places of their numbers. -/
def Spot.Stored (nodes : List (NodeView α)) (p : Spot α) : Prop :=
  ∀ v ∈ p.views, nodes[v.index]? = some v

theorem Spot.Stored.child {nodes : List (NodeView α)} {p c : Spot α} {q : Quadrant}
    (stored : p.Stored nodes) (child : p.child? q = some c) : c.Stored nodes := by
  intro v member
  obtain ⟨path, s, found, same⟩ := Spot.mem_views_iff.mp member
  refine stored v (Spot.mem_views_iff.mpr ⟨q :: path, s, ?_, same⟩)
  rw [Spot.follow_cons child]
  exact found

/-- **Walking through stored nodes follows the path.** -/
theorem Spot.Stored.walk_eq {nodes : List (NodeView α)} {p : Spot α} (stored : p.Stored nodes)
    (path : List Quadrant) : walk nodes p.index path = (p.follow path).map Spot.view := by
  have here : nodes[p.index]? = some p.view := stored p.view p.view_mem_views
  induction path generalizing p with
  | nil => exact here
  | cons q path ih =>
      have step : walk nodes p.index (q :: path) =
          p.node.firstChild.bind fun first => walk nodes (first + q.index) path := by
        rw [walk, here]
        rfl
      obtain ⟨i, depth, boundary, n⟩ := p
      rw [step]
      cases n with
      | leaf entries => rfl
      | split first entries bl br tl tr =>
          have child : (⟨i, depth, boundary, .split first entries bl br tl tr⟩ : Spot α).child? q =
              some ⟨first + q.index, depth + 1, boundary.quadrant q,
                TreeNode.quarters bl br tl tr q⟩ := rfl
          have below := stored.child child
          rw [Spot.follow_cons child]
          exact ih below (below _ (Spot.view_mem_views _))

namespace QuadTree

variable {t : QuadTree α}

/-- The root in its place. -/
def top (t : QuadTree α) : Spot α := ⟨0, 0, t.boundary, t.root⟩

/-- The node at the end of a path from the root, looked up by number at every step. -/
def nodeAt? (t : QuadTree α) (path : List Quadrant) : Option (NodeView α) := walk t.nodes 0 path

theorem Numbered.stored (numbered : t.Numbered) : t.top.Stored t.nodes :=
  fun _ member => numbered.getElem?_nodes.mpr ⟨member, rfl⟩

/-- The node at the end of a path stands at the place of its number. -/
theorem Numbered.getElem?_view (numbered : t.Numbered) {s : Spot α} {path : List Quadrant}
    (found : t.top.follow path = some s) : t.nodes[s.index]? = some s.view :=
  numbered.stored s.view (Spot.mem_views_iff.mpr ⟨path, s, found, rfl⟩)

theorem Numbered.nodeAt?_eq (numbered : t.Numbered) (path : List Quadrant) :
    t.nodeAt? path = (t.top.follow path).map Spot.view :=
  numbered.stored.walk_eq path

omit [Scalar α] in
theorem Numbered.nodup (numbered : t.Numbered) : (0 :: t.root.numbers).Nodup :=
  numbered.numbers.nodup_iff.mpr List.nodup_range

/-- **Every node is at the end of one path from the root.** -/
theorem Numbered.existsUnique_path (numbered : t.Numbered) {v : NodeView α} (member : v ∈ t.nodes) :
    ∃! path, t.nodeAt? path = some v := by
  obtain ⟨path, s, found, same⟩ := (Spot.mem_views_iff (p := t.top)).mp (t.nodes_perm.subset member)
  refine ⟨path, ?_, fun other found' => ?_⟩
  · dsimp only
    rw [numbered.nodeAt?_eq]
    exact Option.map_eq_some_iff.mpr ⟨s, found, same⟩
  · dsimp only at found'
    rw [numbered.nodeAt?_eq] at found'
    obtain ⟨s', found', same'⟩ := Option.map_eq_some_iff.mp found'
    exact Spot.follow_inj numbered.nodup found' found
      (congrArg NodeView.index (same'.trans same.symm))

end QuadTree

end Listed

end PlanarDynamics
