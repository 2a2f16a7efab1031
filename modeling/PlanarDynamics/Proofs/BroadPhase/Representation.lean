import PlanarDynamics.Proofs.BroadPhase.Completeness
import PlanarDynamics.Proofs.BroadPhase.Rows

/-!
# How a tree represents its entries

The nodes of a tree form one tree below the root, each in the quadrant of the node it belongs to,
and keep the inserted entries where their boxes stop. `QuadTree.Represents` says all of this of the
list of nodes as it is seen from outside, together with what it is good for: inserting an entry and
collecting the candidates look up no node that is not there. It holds after any changes
(`represents_edited`).
-/

set_option autoImplicit false

namespace PlanarDynamics

variable {α : Type} [Scalar α]

/-- An entry stays at a split node when it overlaps no quadrant or several. -/
theorem onlyQuadrant?_eq_none_iff {boundary bounds : Box α} :
    onlyQuadrant? boundary bounds = none ↔
      Quadrant.all.countP (fun q => (boundary.quadrant q).overlaps bounds) ≠ 1 := by
  rw [List.countP_eq_length_filter, onlyQuadrant?]
  generalize Quadrant.all.filter (fun q => (boundary.quadrant q).overlaps bounds) = met
  match met with
  | [] => simp
  | [_] => simp
  | _ :: _ :: _ => simp

/-! ## Nodes in their places -/

namespace Spot

/-- A node in its place is arranged, with as many splits left as the depth allows. -/
def Arranged (settings : TreeSettings) (p : Spot α) : Prop :=
  ∃ room, p.depth + room = settings.maxDepth ∧
    p.node.Arranged settings.nodeCapacity room p.boundary

variable {settings : TreeSettings} {p c s : Spot α} {q : Quadrant} {path : List Quadrant}

/-- The quadrants of an arranged node are arranged, and keep what overlaps no other quadrant. -/
theorem Arranged.child (arranged : p.Arranged settings) (child : p.child? q = some c) :
    c.Arranged settings ∧
      (∀ e ∈ c.node.contents, onlyQuadrant? p.boundary e.bounds = some q) ∧
      ∀ e ∈ p.node.entries, onlyQuadrant? p.boundary e.bounds = none := by
  obtain ⟨room, level, arranged⟩ := arranged
  obtain ⟨first, entries, part, split, rfl⟩ := eq_joined_of_child? child
  rw [split] at arranged ⊢
  generalize same : TreeNode.joined first entries part = n at arranged
  cases arranged with
  | leaf fits => cases same
  | @joined room first' _ entries' part' stay sunk parts =>
      obtain ⟨rfl, rfl, rfl⟩ := TreeNode.joined_inj same
      exact ⟨⟨room, by simpa [Nat.add_assoc, Nat.add_comm 1] using level, parts q⟩, sunk q, stay⟩

/-- An arranged leaf that may split holds no more than its capacity. -/
theorem Arranged.leaf (arranged : p.Arranged settings) (leaf : p.view.isLeaf = true)
    (less : p.depth < settings.maxDepth) : p.node.entries.length ≤ settings.nodeCapacity := by
  obtain ⟨i, depth, boundary, n⟩ := p
  obtain ⟨room, level, arranged⟩ := arranged
  dsimp only at level less
  cases arranged with
  | leaf fits => exact fits (by omega)
  | joined => cases leaf

/-- A node that is not a leaf has every quadrant. -/
theorem exists_child (p : Spot α) (split : p.view.isLeaf = false) (q : Quadrant) :
    ∃ c, p.child? q = some c := by
  obtain ⟨i, depth, boundary, n⟩ := p
  cases n with
  | leaf entries => cases split
  | split first entries bl br tl tr => exact ⟨_, rfl⟩

theorem contents_subset_of_follow (found : p.follow path = some s) :
    s.node.contents ⊆ p.node.contents := by
  refine follow_inherits (motive := fun c => c.node.contents ⊆ p.node.contents)
    (fun {a c q} child inside => ?_) found (List.Subset.refl _)
  obtain ⟨first, entries, part, split, rfl⟩ := eq_joined_of_child? child
  rw [split, TreeNode.contents_joined] at inside
  intro e member
  exact inside (List.mem_append_right entries
    (List.mem_flatMap.mpr ⟨q, Quadrant.mem_all q, member⟩))

omit [Scalar α] in
theorem entries_subset_contents (p : Spot α) : p.node.entries ⊆ p.node.contents := by
  obtain ⟨i, depth, boundary, n⟩ := p
  cases n with
  | leaf entries => exact List.Subset.refl _
  | split first entries bl br tl tr => exact List.subset_append_left _ _

end Spot

/-! ## Trees as represented by their nodes -/

namespace QuadTree

/-- A node is the quadrant of another one. -/
def IsChild (t : QuadTree α) (v : NodeView α) (q : Quadrant) (u : NodeView α) : Prop :=
  ∃ first, v.firstChild = some first ∧ t.nodes[first + q.index]? = some u

/-- The nodes of a tree are one tree and keep the given entries where these belong. -/
structure Represents (t : QuadTree α) (held : List (TreeEntry α)) : Prop where
  /-- Every node stands at the place of its number. -/
  place : ∀ (i : Nat) (v : NodeView α), t.nodes[i]? = some v → v.index = i
  root : ∃ v : NodeView α, t.nodes[0]? = some v ∧ v.depth = 0 ∧ v.boundary = t.boundary
  /-- A node that is not a leaf has all four quadrants. -/
  quadrants : ∀ v ∈ t.nodes, v.isLeaf = false → ∀ q, ∃ u, t.IsChild v q u
  child : ∀ v ∈ t.nodes, ∀ q u, t.IsChild v q u →
    v.index < u.index ∧ u.depth = v.depth + 1 ∧ u.boundary = v.boundary.quadrant q
  /-- Every node but the root is a quadrant of exactly one node, and only one of its quadrants. -/
  parent : ∀ u ∈ t.nodes, u.index ≠ 0 →
    ∃! p : NodeView α × Quadrant, p.1 ∈ t.nodes ∧ t.IsChild p.1 p.2 u
  path : ∀ v ∈ t.nodes, ∃! path, t.nodeAt? path = some v
  depth_le : ∀ v ∈ t.nodes, v.depth ≤ t.settings.maxDepth
  entries : (t.nodes.flatMap NodeView.entries).Perm held
  size : t.size = held.length
  leaf : ∀ v ∈ t.nodes, v.isLeaf = true → v.depth < t.settings.maxDepth →
    v.entries.length ≤ t.settings.nodeCapacity
  /-- An entry at a node with quadrants overlaps none or several of them. -/
  stays : ∀ v ∈ t.nodes, v.isLeaf = false → ∀ e ∈ v.entries,
    Quadrant.all.countP (fun q => (v.boundary.quadrant q).overlaps e.bounds) ≠ 1
  /-- On the path to an entry, it overlaps the quadrant that is taken and no other. -/
  sunk : ∀ path q rest v u, t.nodeAt? path = some v → t.nodeAt? (path ++ q :: rest) = some u →
    ∀ e ∈ u.entries, ∀ r, (v.boundary.quadrant r).overlaps e.bounds = true ↔ r = q
  /-- Inserting looks up only nodes that are there. -/
  insertRow : ∀ e, t.insertRow? e = some (t.edit (.insert e)).nodes
  /-- Pairing looks up only nodes that are there. -/
  pairsRow : t.pairsRow? = some t.pairs

section

variable {t : QuadTree α} {held : List (TreeEntry α)}

theorem mem_nodes_iff {v : NodeView α} :
    v ∈ t.nodes ↔ ∃ path s, t.top.follow path = some s ∧ s.view = v :=
  (t.nodes_perm.mem_iff).trans (Spot.mem_views_iff (p := t.top))

theorem Numbered.nodeAt?_eq_some_iff (numbered : t.Numbered) {path : List Quadrant}
    {v : NodeView α} :
    t.nodeAt? path = some v ↔ ∃ s, t.top.follow path = some s ∧ s.view = v := by
  rw [numbered.nodeAt?_eq, Option.map_eq_some_iff]

/-- The quadrants of a node in the list are those in the tree. -/
theorem Numbered.isChild_iff (numbered : t.Numbered) {path : List Quadrant} {s : Spot α}
    (found : t.top.follow path = some s) {q : Quadrant} {u : NodeView α} :
    t.IsChild s.view q u ↔ ∃ c, s.child? q = some c ∧ c.view = u := by
  have stored : s.Stored t.nodes :=
    Spot.follow_inherits (fun child stored => stored.child child) found numbered.stored
  obtain ⟨i, depth, boundary, n⟩ := s
  cases n using TreeNode.joined_induction with
  | leaf entries =>
      constructor
      · rintro ⟨_, ⟨⟩, _⟩
      · rintro ⟨_, ⟨⟩, _⟩
  | joined first entries part =>
      have there := (Spot.stored_joined.mp stored).2 q _ (Spot.view_mem_views _)
      rw [Spot.child?_joined]
      constructor
      · rintro ⟨_, ⟨⟩, here⟩
        exact ⟨_, rfl, Option.some.inj (there.symm.trans here)⟩
      · rintro ⟨_, ⟨⟩, rfl⟩
        exact ⟨first, rfl, there⟩

theorem Numbered.isChild_spec (numbered : t.Numbered) {v u : NodeView α} {q : Quadrant}
    (member : v ∈ t.nodes) (child : t.IsChild v q u) :
    v.index < u.index ∧ u.depth = v.depth + 1 ∧ u.boundary = v.boundary.quadrant q := by
  obtain ⟨path, s, found, rfl⟩ := mem_nodes_iff.mp member
  obtain ⟨c, below, rfl⟩ := (numbered.isChild_iff found).mp child
  have ascends : s.node.Ascends s.index := by
    refine Spot.follow_inherits (motive := fun p => p.node.Ascends p.index)
      (fun {p c q} child ascends => ?_) found numbered.ascends
    obtain ⟨first, entries, part, split, rfl⟩ := Spot.eq_joined_of_child? child
    rw [split] at ascends
    exact (TreeNode.ascends_joined.mp ascends).2 q
  obtain ⟨first, entries, part, split, rfl⟩ := Spot.eq_joined_of_child? below
  rw [split] at ascends
  exact ⟨Nat.lt_add_right _ (TreeNode.ascends_joined.mp ascends).1, rfl, rfl⟩

/-- A node other than the root is one quadrant of one node. Two ways down to it end at the same
number, so they are the same path. -/
theorem Numbered.existsUnique_parent (numbered : t.Numbered) {u : NodeView α} (member : u ∈ t.nodes)
    (notRoot : u.index ≠ 0) :
    ∃! p : NodeView α × Quadrant, p.1 ∈ t.nodes ∧ t.IsChild p.1 p.2 u := by
  obtain ⟨path, s, found, rfl⟩ := mem_nodes_iff.mp member
  rcases List.eq_nil_or_concat path with rfl | ⟨path, q, rfl⟩
  · exact absurd (Option.some.inj found ▸ rfl) notRoot
  · rw [List.concat_eq_append] at found
    have steps := found
    rw [Spot.follow_append] at steps
    obtain ⟨p, above, last⟩ := Option.bind_eq_some_iff.mp steps
    obtain ⟨c, child, here⟩ := Option.bind_eq_some_iff.mp last
    obtain rfl := Option.some.inj here
    refine ⟨(p.view, q), ⟨mem_nodes_iff.mpr ⟨path, p, above, rfl⟩,
      (numbered.isChild_iff above).mpr ⟨c, child, rfl⟩⟩, ?_⟩
    rintro ⟨v, r⟩ ⟨member', child'⟩
    obtain ⟨path', p', above', rfl⟩ := mem_nodes_iff.mp member'
    obtain ⟨c', below, same⟩ := (numbered.isChild_iff above').mp child'
    have found' : t.top.follow (path' ++ [r]) = some c' := Spot.follow_concat above' below
    obtain ⟨rfl, equal⟩ := List.append_inj'
      (Spot.follow_inj numbered.nodup found' found (congrArg NodeView.index same)) rfl
    obtain rfl := Option.some.inj (above'.symm.trans above)
    exact Prod.ext rfl (List.singleton_inj.mp equal)

theorem Holds.arranged_of_follow (holds : t.Holds held) {path : List Quadrant} {s : Spot α}
    (found : t.top.follow path = some s) : s.Arranged t.settings :=
  Spot.follow_inherits (fun child arranged => (arranged.child child).1) found
    ⟨t.settings.maxDepth, Nat.zero_add _, holds.arranged⟩

/-- A numbered tree that holds its entries represents them. -/
theorem Holds.represents (holds : t.Holds held) (numbered : t.Numbered)
    (size : t.size = held.length) : t.Represents held where
  place _ _ there := (numbered.getElem?_nodes.mp there).2
  root := ⟨t.top.view, numbered.stored _ (Spot.view_mem_views _), rfl, rfl⟩
  quadrants v member split q := by
    obtain ⟨path, s, found, rfl⟩ := mem_nodes_iff.mp member
    obtain ⟨c, child⟩ := s.exists_child split q
    exact ⟨c.view, (numbered.isChild_iff found).mpr ⟨c, child, rfl⟩⟩
  child _ member _ _ := numbered.isChild_spec member
  parent _ := numbered.existsUnique_parent
  path _ := numbered.existsUnique_path
  depth_le v member := by
    obtain ⟨path, s, found, rfl⟩ := mem_nodes_iff.mp member
    obtain ⟨room, level, _⟩ := holds.arranged_of_follow found
    exact level ▸ Nat.le_add_right _ _
  entries := by
    refine ((t.nodes_perm.flatMap_right _).trans ?_).trans holds.contents
    rw [TreeNode.flatMap_entries_views]
  size := size
  leaf v member leaf less := by
    obtain ⟨path, s, found, rfl⟩ := mem_nodes_iff.mp member
    exact (holds.arranged_of_follow found).leaf leaf less
  stays v member split e kept := by
    obtain ⟨path, s, found, rfl⟩ := mem_nodes_iff.mp member
    obtain ⟨c, child⟩ := s.exists_child split .bottomLeft
    exact onlyQuadrant?_eq_none_iff.mp
      (((holds.arranged_of_follow found).child child).2.2 e kept)
  sunk path q rest v u found below e kept := by
    obtain ⟨s, above, rfl⟩ := numbered.nodeAt?_eq_some_iff.mp found
    obtain ⟨s', there, rfl⟩ := numbered.nodeAt?_eq_some_iff.mp below
    rw [Spot.follow_append, above, Option.bind_some] at there
    obtain ⟨c, child, rest⟩ := Option.bind_eq_some_iff.mp there
    have inside := Spot.contents_subset_of_follow rest (s'.entries_subset_contents kept)
    exact onlyQuadrant?_eq_some_iff.mp
      (((holds.arranged_of_follow above).child child).2.1 e inside)
  insertRow e := numbered.insertRow?_eq holds.arranged e
  pairsRow := numbered.pairsRow?_eq holds.arranged

end

theorem size_edited (boundary : Box α) (settings : TreeSettings) (edits : List (TreeEdit α)) :
    ((empty boundary settings).edited edits).size = (TreeEdit.insertions edits).length := by
  refine edited_induction (motive := fun t held => t.size = held.length) boundary settings rfl
    (fun t held change size => ?_) edits
  cases change with
  | insert entry =>
      rw [TreeEdit.keep, List.length_append, ← size]
      rfl
  | clear => rfl
  | setBoundary boundary => rfl
  | setPairing pairing => exact size

/-- **A tree represents what was inserted since it was last emptied, whatever has been done to
it.** -/
theorem represents_edited (boundary : Box α) (settings : TreeSettings)
    (edits : List (TreeEdit α)) :
    ((empty boundary settings).edited edits).Represents (TreeEdit.insertions edits) :=
  (holds_edited boundary settings edits).represents (numbered_edited boundary settings edits)
    (size_edited boundary settings edits)

end QuadTree

end PlanarDynamics
