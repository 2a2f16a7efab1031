import Mathlib.Data.List.Sort
import Mathlib.Data.List.Range
import PlanarDynamics.Proofs.BroadPhase.Edits

/-!
# Numbers of nodes

Nodes are numbered in the order in which they come to be. Taking entries gives the next numbers to
the nodes that are new and keeps the others (`Takes.numbers`), and a node has a lesser number than
the nodes below it (`Takes.ascends`). So the nodes of a tree bear the numbers from zero on, each
once, after any changes (`numbered_edited`), and the node with a number is the one at that place in
the list of all nodes (`Numbered.getElem?_nodes`).
-/

set_option autoImplicit false

namespace PlanarDynamics

namespace TreeNode

variable {α : Type}

/-! ## Numbers below a node -/

/-- The numbers of the nodes below a node. -/
def numbers : TreeNode α → List Nat
  | leaf _ => []
  | split first _ bl br tl tr =>
    (first :: bl.numbers) ++ ((first + 1) :: br.numbers) ++ ((first + 2) :: tl.numbers) ++
      ((first + 3) :: tr.numbers)

/-- A node with a number, and every node below it, has a lesser number than its quadrants. -/
def Ascends : Nat → TreeNode α → Prop
  | _, leaf _ => True
  | i, split first _ bl br tl tr =>
    i < first ∧ bl.Ascends first ∧ br.Ascends (first + 1) ∧ tl.Ascends (first + 2) ∧
      tr.Ascends (first + 3)

theorem numbers_joined (first : Nat) (entries : List (TreeEntry α)) (part : Quadrant → TreeNode α) :
    (joined first entries part).numbers =
      Quadrant.all.flatMap fun q => (first + q.index) :: (part q).numbers := by
  simp [joined, numbers, Quadrant.all, Quadrant.index]

/-- No number is in two quadrants. -/
theorem disjoint_parts {first : Nat} {part : Quadrant → TreeNode α}
    (once : (Quadrant.all.flatMap fun q => (first + q.index) :: (part q).numbers).Nodup)
    {q r : Quadrant} (different : q ≠ r) :
    List.Disjoint ((first + q.index) :: (part q).numbers)
      ((first + r.index) :: (part r).numbers) := by
  have : Std.Symm (Function.onFun List.Disjoint fun q : Quadrant =>
      (first + q.index) :: (part q).numbers) := ⟨fun _ _ => List.disjoint_symm⟩
  exact (List.nodup_flatMap.mp once).2.forall (Quadrant.mem_all q) (Quadrant.mem_all r) different

theorem ascends_joined {i first : Nat} {entries : List (TreeEntry α)}
    {part : Quadrant → TreeNode α} :
    (joined first entries part).Ascends i ↔
      i < first ∧ ∀ q : Quadrant, (part q).Ascends (first + q.index) := by
  simp only [joined, Ascends]
  constructor
  · rintro ⟨less, bl, br, tl, tr⟩
    refine ⟨less, fun q => ?_⟩
    cases q with
    | bottomLeft => exact bl
    | bottomRight => exact br
    | topLeft => exact tl
    | topRight => exact tr
  · rintro ⟨less, parts⟩
    exact ⟨less, parts .bottomLeft, parts .bottomRight, parts .topLeft, parts .topRight⟩

theorem numbers_opened (first : Nat) :
    (joined first [] fun _ => (leaf [] : TreeNode α)).numbers = List.range' first 4 := rfl

/-- A node below the numbers of its new quadrants is numbered once. -/
theorem nodup_opened {i first : Nat} (below : i < first) :
    (i :: (joined first [] fun _ => (leaf [] : TreeNode α)).numbers).Nodup := by
  rw [numbers_opened]
  exact List.nodup_cons.mpr
    ⟨fun member => (List.mem_range'_1.mp member).1.not_gt below, List.nodup_range'⟩

/-- Below the numbers of its new quadrants there is only the node itself. -/
theorem eq_of_mem_opened {i j first : Nat}
    (member : j ∈ i :: (joined first [] fun _ => (leaf [] : TreeNode α)).numbers)
    (below : j < first) : j = i := by
  rw [numbers_opened] at member
  exact (List.mem_cons.mp member).resolve_right fun new =>
    (List.mem_range'_1.mp new).1.not_gt below

theorem numbers_keep (e : TreeEntry α) (n : TreeNode α) : (n.keep e).numbers = n.numbers := by
  cases n <;> rfl

theorem ascends_keep {i : Nat} {e : TreeEntry α} {n : TreeNode α} :
    (n.keep e).Ascends i ↔ n.Ascends i := by
  cases n <;> exact Iff.rfl

theorem numbers_update {first : Nat} {entries : List (TreeEntry α)} {part : Quadrant → TreeNode α}
    {q : Quadrant} {n : TreeNode α} {added : List Nat}
    (h : n.numbers.Perm (added ++ (part q).numbers)) :
    (joined first entries (Function.update part q n)).numbers.Perm
      (added ++ (joined first entries part).numbers) := by
  rw [numbers_joined, numbers_joined]
  refine flatMap_update (fun r n => (first + r.index) :: TreeNode.numbers n) ?_ Quadrant.nodup_all
    (Quadrant.mem_all q)
  exact (h.cons _).trans List.perm_middle.symm

/-! ## Taking entries -/

variable [Scalar α] {capacity room s s' : Nat} {boundary : Box α} {es : List (TreeEntry α)}
  {n n' : TreeNode α}

/-- **The nodes that are new get the next numbers.** -/
theorem Takes.numbers (takes : Takes capacity room boundary es n s n' s') :
    ∃ count, s' = s + count ∧ n'.numbers.Perm (List.range' s count ++ n.numbers) := by
  induction takes with
  | nil => exact ⟨0, rfl, .refl _⟩
  | cons _ _ ih ih' =>
      obtain ⟨count, rfl, numbers⟩ := ih
      obtain ⟨count', rfl, numbers'⟩ := ih'
      refine ⟨count + count', Nat.add_assoc _ _ _, numbers'.trans ?_⟩
      rw [← List.range'_append_1, List.append_assoc]
      exact (numbers.append_left _).trans (List.perm_append_comm_assoc _ _ _)
  | keep => exact ⟨0, rfl, .of_eq (numbers_keep _ _)⟩
  | fit => exact ⟨0, rfl, .refl _⟩
  | divide _ _ ih =>
      obtain ⟨count, rfl, numbers⟩ := ih
      refine ⟨4 + count, Nat.add_assoc _ _ _, numbers.trans ?_⟩
      rw [numbers_opened, ← List.range'_append_1]
      exact List.perm_append_comm.trans (List.append_nil _ ▸ .refl _)
  | stay => exact ⟨0, rfl, .refl _⟩
  | sink _ _ ih =>
      obtain ⟨count, rfl, numbers⟩ := ih
      exact ⟨count, rfl, numbers_update numbers⟩

/-- A number from before belongs to a node from before. -/
theorem Takes.old_of_lt (takes : Takes capacity room boundary es n s n' s') {j : Nat}
    (member : j ∈ n'.numbers) (less : j < s) : j ∈ n.numbers := by
  obtain ⟨count, _, numbers⟩ := takes.numbers
  refine (List.mem_append.mp (numbers.subset member)).resolve_left fun new => ?_
  exact (List.mem_range'_1.mp new).1.not_gt less

/-- Numbers that were used once are used once. -/
theorem Takes.nodup (takes : Takes capacity room boundary es n s n' s') {i : Nat}
    (earlier : ∀ j ∈ i :: n.numbers, j < s) (once : (i :: n.numbers).Nodup) :
    (i :: n'.numbers).Nodup := by
  obtain ⟨count, _, numbers⟩ := takes.numbers
  refine ((numbers.cons i).trans List.perm_middle.symm).nodup_iff.mpr ?_
  refine List.nodup_append.mpr ⟨List.nodup_range', once, fun j new k old same => ?_⟩
  exact (List.mem_range'_1.mp new).1.not_gt (same ▸ earlier k old)

/-- **Quadrants get greater numbers than the node they are of.** -/
theorem Takes.ascends (takes : Takes capacity room boundary es n s n' s') {i : Nat} (less : i < s)
    (earlier : ∀ j ∈ n.numbers, j < s) (ascends : n.Ascends i) : n'.Ascends i := by
  induction takes generalizing i with
  | nil => exact ascends
  | cons first _ ih ih' =>
      obtain ⟨count, rfl, numbers⟩ := first.numbers
      refine ih' (Nat.lt_add_right count less) (fun j member => ?_) (ih less earlier ascends)
      rcases List.mem_append.mp (numbers.subset member) with new | old
      · exact (List.mem_range'_1.mp new).2
      · exact Nat.lt_add_right count (earlier j old)
  | keep => exact ascends_keep.mpr ascends
  | fit => trivial
  | @divide room s _ _ _ _ _ _ _ ih =>
      refine ih (Nat.lt_add_right 4 less) (fun j member => ?_)
        (ascends_joined.mpr ⟨less, fun _ => trivial⟩)
      rw [numbers_opened] at member
      exact (List.mem_range'_1.mp member).2
  | stay => exact ascends_joined.mpr (ascends_joined.mp ascends)
  | @sink room s s' first boundary e q entries part n' only _ ih =>
      obtain ⟨less', parts⟩ := ascends_joined.mp ascends
      have inside : ∀ j ∈ (first + q.index) :: (part q).numbers, j < s := by
        intro j member
        refine earlier j ?_
        rw [numbers_joined]
        exact List.mem_flatMap.mpr ⟨q, Quadrant.mem_all q, member⟩
      refine ascends_joined.mpr ⟨less', (Function.forall_update_iff part fun r n =>
        n.Ascends (first + r.index)).mpr ⟨?_, fun r _ => parts r⟩⟩
      exact ih (inside _ List.mem_cons_self)
        (fun j member => inside j (List.mem_cons_of_mem _ member)) (parts q)

/-! ## Nodes as seen from outside -/

theorem views_joined (i depth first : Nat) (boundary : Box α) (entries : List (TreeEntry α))
    (part : Quadrant → TreeNode α) :
    (joined first entries part).views i depth boundary =
      ⟨i, boundary, depth, some first, entries⟩ :: Quadrant.all.flatMap fun q =>
        (part q).views (first + q.index) (depth + 1) (boundary.quadrant q) := by
  simp [joined, views, Quadrant.all, Quadrant.index]

theorem map_index_views (i depth : Nat) (boundary : Box α) (n : TreeNode α) :
    (n.views i depth boundary).map NodeView.index = i :: n.numbers := by
  induction n using joined_induction generalizing i depth boundary with
  | leaf entries => rfl
  | joined first entries part ih =>
      rw [views_joined, numbers_joined, List.map_cons, List.map_flatMap]
      exact congrArg (i :: ·) (List.flatMap_congr fun q _ => ih q _ _ _)

theorem flatMap_entries_views (i depth : Nat) (boundary : Box α) (n : TreeNode α) :
    (n.views i depth boundary).flatMap NodeView.entries = n.contents := by
  induction n using joined_induction generalizing i depth boundary with
  | leaf entries => simp [views, contents]
  | joined first entries part ih =>
      rw [views_joined, contents_joined, List.flatMap_cons, List.flatMap_assoc]
      exact congrArg (entries ++ ·) (List.flatMap_congr fun q _ => ih q _ _ _)

end TreeNode

/-! ## Numbered trees -/

namespace QuadTree

variable {α : Type} [Scalar α] {t : QuadTree α}

/-- The nodes of a tree bear the numbers from zero on, each once, and lesser numbers than the nodes
below them. -/
structure Numbered (t : QuadTree α) : Prop where
  ascends : t.root.Ascends 0
  numbers : (0 :: t.root.numbers).Perm (List.range t.nodeCount)

omit [Scalar α] in
theorem numbered_empty (boundary : Box α) (settings : TreeSettings) :
    (empty boundary settings).Numbered :=
  ⟨trivial, .refl _⟩

theorem Numbered.edit (numbered : t.Numbered) (change : TreeEdit α) : (t.edit change).Numbered := by
  cases change with
  | insert entry =>
      have takes := TreeNode.takes_insert t.settings.nodeCapacity t.settings.maxDepth 0 0
        t.boundary entry t.root t.nodeCount
      have earlier : ∀ j ∈ 0 :: t.root.numbers, j < t.nodeCount := fun j member =>
        List.mem_range.mp (numbered.numbers.subset member)
      obtain ⟨count, state, numbers⟩ := takes.numbers
      refine ⟨takes.ascends (earlier 0 List.mem_cons_self)
        (fun j member => earlier j (List.mem_cons_of_mem 0 member)) numbered.ascends, ?_⟩
      have added := (numbers.cons 0).trans
        (List.perm_middle.symm.trans (numbered.numbers.append_left _))
      refine added.trans (List.perm_append_comm.trans ?_)
      rw [List.range_eq_range', List.range_eq_range']
      refine .of_eq (Eq.trans ?_ (congrArg (List.range' 0) state.symm))
      rw [← List.range'_append_1, Nat.zero_add]
  | clear => exact numbered_empty t.boundary t.settings
  | setBoundary boundary => exact numbered_empty boundary t.settings
  | setPairing pairing => exact ⟨numbered.ascends, numbered.numbers⟩

/-- **The nodes of a tree are numbered, whatever has been done to it.** -/
theorem numbered_edited (boundary : Box α) (settings : TreeSettings) (edits : List (TreeEdit α)) :
    ((empty boundary settings).edited edits).Numbered :=
  edited_induction (motive := fun t _ => t.Numbered) boundary settings
    (numbered_empty boundary settings) (fun _ _ change numbered => numbered.edit change) edits

theorem nodes_perm (t : QuadTree α) : t.nodes.Perm (t.root.views 0 0 t.boundary) :=
  List.mergeSort_perm _ _

theorem Numbered.map_index_nodes (numbered : t.Numbered) :
    t.nodes.map NodeView.index = List.range t.nodeCount := by
  have sorted : (t.nodes.map NodeView.index).Pairwise (· ≤ ·) := by
    refine List.pairwise_map.mpr ?_
    refine (List.pairwise_mergeSort (fun a b c => ?_) (fun a b => ?_) _).imp fun {a b} => ?_
    · simpa using Nat.le_trans
    · simpa using Nat.le_total a.index b.index
    · simp
  refine List.Perm.eq_of_pairwise (fun a b _ _ => Nat.le_antisymm) sorted List.pairwise_le_range ?_
  refine (t.nodes_perm.map NodeView.index).trans ?_
  rw [TreeNode.map_index_views]
  exact numbered.numbers

/-- **A node stands in the list of all nodes at the place of its number.** -/
theorem Numbered.getElem?_nodes (numbered : t.Numbered) {i : Nat} {v : NodeView α} :
    t.nodes[i]? = some v ↔ v ∈ t.root.views 0 0 t.boundary ∧ v.index = i := by
  have place : ∀ {j : Nat} {u : NodeView α}, t.nodes[j]? = some u → u.index = j := by
    intro j u there
    have number : (t.nodes.map NodeView.index)[j]? = some u.index := by
      rw [List.getElem?_map, there]
      rfl
    rw [numbered.map_index_nodes] at number
    obtain ⟨_, same⟩ := List.getElem?_eq_some_iff.mp number
    exact same.symm.trans (List.getElem_range _)
  constructor
  · exact fun there => ⟨t.nodes_perm.subset (List.mem_of_getElem? there), place there⟩
  · rintro ⟨member, rfl⟩
    obtain ⟨j, there⟩ := List.mem_iff_getElem?.mp (t.nodes_perm.symm.subset member)
    rw [place there]
    exact there

end QuadTree

end PlanarDynamics
