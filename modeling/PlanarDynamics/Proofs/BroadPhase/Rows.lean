import PlanarDynamics.Proofs.BroadPhase.Paths

/-!
# Nodes in a row

A tree can be kept as a row of nodes that refer to their quadrants by number. `insertAt?` and
`pairsAt?` insert an entry and collect the candidates in such a row: every node is looked up by its
number, and the outcome is `none` as soon as a number is not in the row, or after too many steps.

On the row of the nodes of a tree neither happens. Inserting gives the row of the nodes of the
tree with the entry (`QuadTree.insertRow?_eq`), and the candidates are those of the tree
(`QuadTree.pairsRow?_eq`).
-/

set_option autoImplicit false

namespace PlanarDynamics

variable {α : Type} [Scalar α]

/-! ## Inserting and pairing by number -/

/-- The number of the quadrant that a box overlaps, when it overlaps exactly one. -/
def onlyChild? (row : List (NodeView α)) (first : Nat) (bounds : Box α) : Option (Option Nat) := do
  let children ← Quadrant.all.mapM fun q => row[first + q.index]?
  return match children.filter fun child => child.boundary.overlaps bounds with
    | [child] => some child.index
    | _ => none

/-- The row after a leaf has got four empty quadrants at its end. -/
def subdivided (row : List (NodeView α)) (v : NodeView α) : List (NodeView α) :=
  row.set v.index { v with firstChild := some row.length, entries := [] } ++
    Quadrant.all.map fun q =>
      ⟨row.length + q.index, v.boundary.quadrant q, v.depth + 1, none, []⟩

/-- Insert an entry at the node with a number, in at most `fuel` rounds. -/
def insertAt? (settings : TreeSettings) :
    (fuel : Nat) → Nat → List (NodeView α) → TreeEntry α → Option (List (NodeView α))
  | 0, _, _, _ => none
  | fuel + 1, i, row, e => do
    let v ← row[i]?
    let filled := { v with entries := v.entries ++ [e] }
    match v.firstChild with
    | some first =>
      match ← onlyChild? row first e.bounds with
      | some child => insertAt? settings fuel child row e
      | none => return row.set i filled
    | none =>
      if filled.entries.length > settings.nodeCapacity ∧ v.depth < settings.maxDepth then
        filled.entries.foldlM (insertAt? settings fuel i) (subdivided row v)
      else return row.set i filled

/-- The candidates whose lower entry is kept at a node, given the numbers of the nodes above it. -/
def hereAt? (pairing : Pairing) (row : List (NodeView α)) (above : List Nat)
    (entries : List (TreeEntry α)) : Option (List ColliderPair) :=
  match pairing with
  | .sameNode => some (TreeNode.pairsWithin entries)
  | .includeAncestors => do
    let across ← above.mapM fun a => do return TreeNode.pairsBetween (← row[a]?).entries entries
    return TreeNode.pairsWithin entries ++ across.flatten

/-- The candidates at the node with a number and below it, given the numbers of the nodes above it,
in at most `fuel` rounds. -/
def pairsAt? (pairing : Pairing) (row : List (NodeView α)) :
    (fuel : Nat) → List Nat → Nat → Option (List ColliderPair)
  | 0, _, _ => none
  | fuel + 1, above, i => do
    let v ← row[i]?
    let here ← hereAt? pairing row above v.entries
    match v.firstChild with
    | none => return here
    | some first =>
      let below ← Quadrant.all.mapM fun q =>
        pairsAt? pairing row fuel (above ++ [i]) (first + q.index)
      return here ++ below.flatten

/-! ## Stored nodes -/

namespace Spot

/-- What it means for a split node to be stored. -/
theorem stored_joined {row : List (NodeView α)} {i depth first : Nat} {boundary : Box α}
    {entries : List (TreeEntry α)} {part : Quadrant → TreeNode α} :
    (⟨i, depth, boundary, .joined first entries part⟩ : Spot α).Stored row ↔
      row[i]? = some ⟨i, boundary, depth, some first, entries⟩ ∧
        ∀ q, (⟨first + q.index, depth + 1, boundary.quadrant q, part q⟩ : Spot α).Stored row := by
  simp only [Stored, views, TreeNode.views_joined, List.forall_mem_cons, List.forall_mem_flatMap]
  exact and_congr_right fun _ =>
    ⟨fun parts q => parts q (Quadrant.mem_all q), fun parts q _ => parts q⟩

theorem stored_leaf {row : List (NodeView α)} {i depth : Nat} {boundary : Box α}
    {entries : List (TreeEntry α)} :
    (⟨i, depth, boundary, .leaf entries⟩ : Spot α).Stored row ↔
      row[i]? = some ⟨i, boundary, depth, none, entries⟩ := by
  simp [Stored, views, TreeNode.views]

variable {row row' : List (NodeView α)} {p : Spot α}

/-- Nodes stay stored where the row stays the same. -/
theorem Stored.frame (stored : p.Stored row)
    (same : ∀ j ∈ p.index :: p.node.numbers, row'[j]? = row[j]?) : p.Stored row' := by
  intro v member
  refine (same v.index ?_).trans (stored v member)
  rw [← p.map_index_views]
  exact List.mem_map_of_mem (f := NodeView.index) member

theorem Stored.lt_length (stored : p.Stored row) {j : Nat}
    (member : j ∈ p.index :: p.node.numbers) : j < row.length := by
  rw [← p.map_index_views] at member
  obtain ⟨v, inside, rfl⟩ := List.mem_map.mp member
  exact (List.getElem?_eq_some_iff.mp (stored v inside)).1

/-- The quadrant for an entry is the one that the boxes of the quadrants in the row give. -/
theorem Stored.onlyChild?_eq {i depth first : Nat} {boundary : Box α}
    {entries : List (TreeEntry α)} {part : Quadrant → TreeNode α}
    (stored : (⟨i, depth, boundary, .joined first entries part⟩ : Spot α).Stored row)
    (bounds : Box α) :
    onlyChild? row first bounds =
      some ((onlyQuadrant? boundary bounds).map fun q => first + q.index) := by
  have looked : (fun q : Quadrant => row[first + q.index]?) = fun q => pure
      (⟨first + q.index, depth + 1, boundary.quadrant q, part q⟩ : Spot α).view :=
    funext fun q => (stored_joined.mp stored).2 q _ (view_mem_views _)
  rw [onlyChild?, looked, List.mapM_pure, pure_bind, List.filter_map]
  unfold onlyQuadrant?
  generalize hit : Quadrant.all.filter (fun q => (boundary.quadrant q).overlaps bounds) = met
  have same : Quadrant.all.filter ((fun child : NodeView α => child.boundary.overlaps bounds) ∘
      fun q => (⟨first + q.index, depth + 1, boundary.quadrant q, part q⟩ : Spot α).view) = met :=
    hit
  rw [same]
  match met with
  | [] => rfl
  | [_] => rfl
  | _ :: _ :: _ => rfl

/-- A row after a node has changed in its place: the new node is stored, and the row is the same
elsewhere. -/
structure Replaces (p p' : Spot α) (row row' : List (NodeView α)) : Prop where
  stored : p'.Stored row'
  longer : row.length ≤ row'.length
  elsewhere : ∀ j < row.length, j ∉ p.index :: p.node.numbers → row'[j]? = row[j]?

/-- Changes of one place follow each other when the numbers that come in between are new. -/
theorem Replaces.trans {p' p'' : Spot α} {row'' : List (NodeView α)}
    (first : Replaces p p' row row') (second : Replaces p' p'' row' row'')
    (fresh : ∀ j ∈ p'.index :: p'.node.numbers, j < row.length → j ∈ p.index :: p.node.numbers) :
    Replaces p p'' row row'' where
  stored := second.stored
  longer := first.longer.trans second.longer
  elsewhere j less outside :=
    (second.elsewhere j (less.trans_le first.longer)
      fun member => outside (fresh j member less)).trans (first.elsewhere j less outside)

/-- One more entry at a node itself. -/
theorem Stored.keep (stored : p.Stored row) (once : (p.index :: p.node.numbers).Nodup)
    (e : TreeEntry α) :
    Replaces p { p with node := p.node.keep e } row
      (row.set p.index { p.view with entries := p.node.entries ++ [e] }) := by
  have inRow := stored.lt_length List.mem_cons_self
  refine ⟨?_, (List.length_set ..).ge, fun j _ outside => List.getElem?_set_ne ?_⟩
  rotate_left
  · rintro rfl
    exact outside List.mem_cons_self
  obtain ⟨i, depth, boundary, n⟩ := p
  cases n using TreeNode.joined_induction with
  | leaf entries => exact stored_leaf.mpr (List.getElem?_set_self inRow)
  | joined first entries part =>
      refine stored_joined.mpr ⟨List.getElem?_set_self inRow, fun q => ?_⟩
      refine ((stored_joined.mp stored).2 q).frame fun j member => List.getElem?_set_ne ?_
      rintro rfl
      refine (List.nodup_cons.mp once).1 ?_
      rw [TreeNode.numbers_joined]
      exact List.mem_flatMap.mpr ⟨q, Quadrant.mem_all q, member⟩

/-- A leaf gets four empty quadrants. -/
theorem Stored.subdivide {i depth : Nat} {boundary : Box α} {entries : List (TreeEntry α)}
    (stored : (⟨i, depth, boundary, .leaf entries⟩ : Spot α).Stored row)
    (kept : List (TreeEntry α)) :
    Replaces ⟨i, depth, boundary, .leaf entries⟩
      ⟨i, depth, boundary, .joined row.length [] fun _ => .leaf []⟩ row
      (subdivided row ⟨i, boundary, depth, none, kept⟩) := by
  have inRow : i < row.length := stored.lt_length List.mem_cons_self
  refine ⟨stored_joined.mpr ⟨?_, fun q => stored_leaf.mpr ?_⟩, ?_, fun j less outside => ?_⟩
  · rw [subdivided, List.getElem?_append_left (by simpa using inRow)]
    exact List.getElem?_set_self inRow
  · rw [subdivided, List.getElem?_append_right (by simp), List.length_set, Nat.add_sub_cancel_left]
    cases q <;> rfl
  · simp [subdivided]
  · rw [subdivided, List.getElem?_append_left (by simpa using less)]
    refine List.getElem?_set_ne ?_
    rintro rfl
    exact outside List.mem_cons_self

/-- A quadrant changes in its place. -/
theorem Replaces.joined {i depth first : Nat} {boundary : Box α} {entries : List (TreeEntry α)}
    {part : Quadrant → TreeNode α} {q : Quadrant} {n' : TreeNode α}
    (stored : (⟨i, depth, boundary, .joined first entries part⟩ : Spot α).Stored row)
    (once : (i :: (TreeNode.joined first entries part).numbers).Nodup)
    (below : Replaces ⟨first + q.index, depth + 1, boundary.quadrant q, part q⟩
      ⟨first + q.index, depth + 1, boundary.quadrant q, n'⟩ row row') :
    Replaces ⟨i, depth, boundary, .joined first entries part⟩
      ⟨i, depth, boundary, .joined first entries (Function.update part q n')⟩ row row' := by
  rw [TreeNode.numbers_joined] at once
  obtain ⟨fresh, apart⟩ := List.nodup_cons.mp once
  have inside : ∀ r, ∀ j ∈ (first + r.index) :: (part r).numbers,
      j ∈ Quadrant.all.flatMap fun r => (first + r.index) :: (part r).numbers :=
    fun r j member => List.mem_flatMap.mpr ⟨r, Quadrant.mem_all r, member⟩
  have here : i < row.length := stored.lt_length List.mem_cons_self
  refine ⟨stored_joined.mpr ⟨?_, ?_⟩, below.longer, fun j less outside => ?_⟩
  · exact (below.elsewhere i here fun member => fresh (inside q i member)).trans
      (stored_joined.mp stored).1
  · refine (Function.forall_update_iff part fun r n =>
      (⟨first + r.index, depth + 1, boundary.quadrant r, n⟩ : Spot α).Stored row').mpr
        ⟨below.stored, fun r different => ?_⟩
    have stored' := (stored_joined.mp stored).2 r
    refine stored'.frame fun j member => below.elsewhere j (stored'.lt_length member) ?_
    exact fun member' => TreeNode.disjoint_parts apart different member member'
  · refine below.elsewhere j less fun member => outside (List.mem_cons_of_mem i ?_)
    rw [TreeNode.numbers_joined]
    exact inside q j member

end Spot

/-! ## Inserting by number -/

section Rounds

variable {settings : TreeSettings} {row : List (NodeView α)} {i depth : Nat} {boundary : Box α}

/-- One round at a leaf. -/
theorem insertAt?_leaf {entries : List (TreeEntry α)}
    (stored : (⟨i, depth, boundary, .leaf entries⟩ : Spot α).Stored row) (fuel : Nat)
    (e : TreeEntry α) :
    insertAt? settings (fuel + 1) i row e =
      if entries.length + 1 > settings.nodeCapacity ∧ depth < settings.maxDepth then
        (entries ++ [e]).foldlM (insertAt? settings fuel i)
          (subdivided row ⟨i, boundary, depth, none, entries ++ [e]⟩)
      else some (row.set i ⟨i, boundary, depth, none, entries ++ [e]⟩) := by
  have looked := Spot.stored_leaf.mp stored
  simp only [insertAt?, looked, Option.bind_eq_bind, Option.bind_some, List.length_append,
    List.length_singleton]
  rfl

/-- One round at a node with quadrants. -/
theorem insertAt?_joined {first : Nat} {entries : List (TreeEntry α)} {part : Quadrant → TreeNode α}
    (stored : (⟨i, depth, boundary, .joined first entries part⟩ : Spot α).Stored row) (fuel : Nat)
    (e : TreeEntry α) :
    insertAt? settings (fuel + 1) i row e =
      match onlyQuadrant? boundary e.bounds with
      | some q => insertAt? settings fuel (first + q.index) row e
      | none => some (row.set i ⟨i, boundary, depth, some first, entries ++ [e]⟩) := by
  have looked := (Spot.stored_joined.mp stored).1
  simp only [insertAt?, looked, stored.onlyChild?_eq, Option.bind_eq_bind, Option.bind_some]
  cases onlyQuadrant? boundary e.bounds <;> rfl

end Rounds

namespace TreeNode

/-- The rounds that inserting an entry at a node may take. -/
def rounds (room : Nat) : TreeNode α → Nat
  | leaf _ => 2 * room + 1
  | split .. => 2 * room

omit [Scalar α] in
theorem rounds_le_leaf (room : Nat) (n : TreeNode α) : n.rounds room ≤ 2 * room + 1 := by
  cases n <;> simp [rounds]

variable {room s s' : Nat} {boundary : Box α} {es : List (TreeEntry α)} {n n' : TreeNode α}

theorem Takes.rounds_le {capacity : Nat} (takes : Takes capacity room boundary es n s n' s') :
    n'.rounds room ≤ n.rounds room := by
  induction takes with
  | nil => exact Nat.le_refl _
  | cons _ _ ih ih' => exact ih'.trans ih
  | @keep _ _ _ n => cases n <;> exact Nat.le_refl _
  | fit => exact Nat.le_refl _
  | divide _ _ ih => exact ih.trans (Nat.le_succ _)
  | stay => exact Nat.le_refl _
  | sink => exact Nat.le_refl _

/-- **Taking entries is inserting them by number.** -/
theorem Takes.insertAt?_eq {settings : TreeSettings}
    (takes : Takes settings.nodeCapacity room boundary es n s n' s') {fuel i depth : Nat}
    {row : List (NodeView α)} (level : depth + room = settings.maxDepth)
    (arranged : Arranged settings.nodeCapacity room boundary n)
    (stored : (⟨i, depth, boundary, n⟩ : Spot α).Stored row) (length : row.length = s)
    (once : (i :: n.numbers).Nodup) (enough : n.rounds room ≤ fuel) :
    ∃ row', es.foldlM (insertAt? settings fuel i) row = some row' ∧ row'.length = s' ∧
      Spot.Replaces ⟨i, depth, boundary, n⟩ ⟨i, depth, boundary, n'⟩ row row' := by
  induction takes generalizing fuel i depth row with
  | nil => exact ⟨row, rfl, length, stored, Nat.le_refl _, fun _ _ _ => rfl⟩
  | @cons room s s₁ s' boundary e es n n₁ n' first rest ih ih' =>
      subst length
      obtain ⟨row₁, run, length₁, replaces⟩ := ih level arranged stored rfl once enough
      have earlier : ∀ j ∈ i :: n.numbers, j < row.length := fun j => stored.lt_length
      obtain ⟨row', run', length', replaces'⟩ := ih' level (first.arranged arranged)
        replaces.stored length₁ (first.nodup earlier once) (first.rounds_le.trans enough)
      refine ⟨row', ?_, length', replaces.trans replaces' fun j member less => ?_⟩
      · rw [← List.singleton_append, List.foldlM_append, run]
        exact run'
      · rcases List.mem_cons.mp member with rfl | below
        · exact List.mem_cons_self
        · exact List.mem_cons_of_mem i (first.old_of_lt below less)
  | @keep s boundary e n =>
      cases arranged with
      | @leaf _ _ entries fits =>
          cases fuel with
          | zero => exact absurd enough (Nat.not_succ_le_zero _)
          | succ fuel =>
              refine ⟨_, ?_, List.length_set.trans length, stored.keep once e⟩
              rw [List.foldlM_cons, insertAt?_leaf stored, if_neg fun both => by omega]
              rfl
  | @fit room s boundary e entries fits =>
      cases fuel with
      | zero => exact absurd enough (Nat.not_succ_le_zero _)
      | succ fuel =>
          refine ⟨_, ?_, List.length_set.trans length, stored.keep once e⟩
          rw [List.foldlM_cons, insertAt?_leaf stored, if_neg fun both => by omega]
          rfl
  | @divide room s s' boundary e entries n' full anew ih =>
      subst length
      cases fuel with
      | zero => exact absurd enough (Nat.not_succ_le_zero _)
      | succ fuel =>
          have inRow : i < row.length := stored.lt_length List.mem_cons_self
          have opened := stored.subdivide (entries ++ [e])
          obtain ⟨row', run, length', replaces⟩ := ih level (arranged_opened _) opened.stored
            (by simp [subdivided, Quadrant.all]) (nodup_opened inRow)
            (Nat.le_of_succ_le_succ enough)
          refine ⟨row', ?_, length', opened.trans replaces fun j member less => ?_⟩
          · rw [List.foldlM_cons, insertAt?_leaf stored, if_pos ⟨by omega, by omega⟩, run]
            rfl
          · exact eq_of_mem_opened member less ▸ List.mem_cons_self
  | @stay room s first boundary e entries part none =>
      cases fuel with
      | zero => exact absurd enough (Nat.not_succ_le_zero _)
      | succ fuel =>
          refine ⟨_, ?_, List.length_set.trans length, stored.keep once e⟩
          rw [List.foldlM_cons, insertAt?_joined stored, none]
          rfl
  | @sink room s s' first boundary e q entries part n' only below ih =>
      cases fuel with
      | zero => exact absurd enough (Nat.not_succ_le_zero _)
      | succ fuel =>
          obtain ⟨_, apart⟩ := List.nodup_cons.mp once
          rw [numbers_joined] at apart
          have enough' : (part q).rounds room ≤ fuel :=
            (rounds_le_leaf _ _).trans (Nat.le_of_succ_le_succ enough)
          obtain ⟨row', run, length', replaces⟩ := ih (by omega) (arranged.of_joined.2.2 q)
            ((Spot.stored_joined.mp stored).2 q) length
            ((List.nodup_flatMap.mp apart).1 q (Quadrant.mem_all q)) enough'
          refine ⟨row', ?_, length', replaces.joined stored once⟩
          rw [List.foldlM_cons, insertAt?_joined stored, only]
          exact run

end TreeNode

/-! ## Pairing by number -/

section Pairing

variable {row : List (NodeView α)}

omit [Scalar α] in
theorem hereAt?_eq {above : List Nat} {us : List (NodeView α)}
    (looked : (above.map fun a => row[a]?) = us.map some) (pairing : Pairing)
    (entries : List (TreeEntry α)) :
    hereAt? pairing row above entries =
      some (TreeNode.pairs.here pairing (us.flatMap NodeView.entries) entries) := by
  cases pairing with
  | sameNode => simp [hereAt?, TreeNode.pairs.here]
  | includeAncestors =>
      have across : (above.mapM fun a => do
          return TreeNode.pairsBetween (← row[a]?).entries entries) =
            some (us.map fun u => TreeNode.pairsBetween u.entries entries) := by
        have mapped := congrArg (List.mapM fun u? : Option (NodeView α) => do
          return TreeNode.pairsBetween (← u?).entries entries) looked
        rw [List.mapM_map, List.mapM_map] at mapped
        exact mapped.trans List.mapM_pure
      rw [hereAt?, across, TreeNode.pairs.here, TreeNode.pairsBetween, List.flatMap_assoc]
      rfl

/-- **Pairing by number finds the candidates of the node.** -/
theorem TreeNode.Arranged.pairsAt?_eq {capacity room : Nat} {boundary : Box α} {n : TreeNode α}
    (arranged : Arranged capacity room boundary n) (pairing : Pairing) {i depth fuel : Nat}
    {above : List Nat} {us : List (NodeView α)}
    (stored : (⟨i, depth, boundary, n⟩ : Spot α).Stored row)
    (looked : (above.map fun a => row[a]?) = us.map some) (enough : room < fuel) :
    pairsAt? pairing row fuel above i = some (n.pairs pairing (us.flatMap NodeView.entries)) := by
  induction arranged generalizing i depth fuel above us with
  | leaf =>
      cases fuel with
      | zero => exact absurd enough (Nat.not_lt_zero _)
      | succ fuel =>
          simp only [pairsAt?, Spot.stored_leaf.mp stored, hereAt?_eq looked,
            Option.bind_eq_bind, Option.bind_some]
          rfl
  | @joined room first boundary entries part _ _ _ ih =>
      cases fuel with
      | zero => exact absurd enough (Nat.not_lt_zero _)
      | succ fuel =>
          obtain ⟨here, parts⟩ := Spot.stored_joined.mp stored
          let v : NodeView α := ⟨i, boundary, depth, some first, entries⟩
          have looked' : ((above ++ [i]).map fun a => row[a]?) = (us ++ [v]).map some := by
            rw [List.map_append, List.map_append, looked, List.map_singleton, here]
            rfl
          have below : (fun q : Quadrant =>
              pairsAt? pairing row fuel (above ++ [i]) (first + q.index)) = fun q =>
                pure ((part q).pairs pairing (us.flatMap NodeView.entries ++ entries)) := by
            funext q
            rw [ih q (parts q) looked' (Nat.lt_of_succ_lt_succ enough), List.flatMap_append,
              List.flatMap_singleton]
            rfl
          simp only [pairsAt?, here, hereAt?_eq looked, below, List.mapM_pure,
            TreeNode.pairs_joined, Option.bind_eq_bind, Option.bind_some]
          rfl

end Pairing

/-! ## The row of a tree -/

namespace QuadTree

variable {t : QuadTree α}

/-- Insert an entry into the row of the nodes of a tree. -/
def insertRow? (t : QuadTree α) (e : TreeEntry α) : Option (List (NodeView α)) :=
  insertAt? t.settings (2 * t.settings.maxDepth + 1) 0 t.nodes e

/-- Collect the candidates from the row of the nodes of a tree. -/
def pairsRow? (t : QuadTree α) : Option (List ColliderPair) :=
  pairsAt? t.settings.pairing t.nodes (t.settings.maxDepth + 1) [] 0

theorem Numbered.length_nodes (numbered : t.Numbered) : t.nodes.length = t.nodeCount := by
  have := congrArg List.length numbered.map_index_nodes
  rwa [List.length_map, List.length_range] at this

/-- A row that stores a tree and nothing else is the row of its nodes. -/
theorem Numbered.eq_nodes (numbered : t.Numbered) {row : List (NodeView α)}
    (stored : t.top.Stored row) (length : row.length = t.nodeCount) : row = t.nodes := by
  refine List.ext_getElem? fun j => ?_
  by_cases inside : j < t.nodeCount
  · have there := List.getElem?_eq_getElem (l := t.nodes) (i := j) (numbered.length_nodes ▸ inside)
    obtain ⟨member, same⟩ := numbered.getElem?_nodes.mp there
    have here := stored _ member
    rw [same] at here
    exact here.trans there.symm
  · rw [List.getElem?_eq_none (by omega),
      List.getElem?_eq_none (by rw [numbered.length_nodes]; omega)]

/-- **Inserting by number ends after enough rounds, looks up only nodes that are there, and gives
the nodes of the tree with the entry.** -/
theorem Numbered.insertAt?_eq (numbered : t.Numbered)
    (arranged : t.root.Arranged t.settings.nodeCapacity t.settings.maxDepth t.boundary)
    (e : TreeEntry α) {fuel : Nat} (enough : 2 * t.settings.maxDepth + 1 ≤ fuel) :
    insertAt? t.settings fuel 0 t.nodes e = some (t.edit (.insert e)).nodes := by
  have takes := TreeNode.takes_insert t.settings.nodeCapacity t.settings.maxDepth 0 0
    t.boundary e t.root t.nodeCount
  obtain ⟨row', run, length, replaces⟩ := takes.insertAt?_eq (Nat.zero_add _) arranged
    numbered.stored numbered.length_nodes numbered.nodup
    ((TreeNode.rounds_le_leaf _ _).trans enough)
  simp only [List.foldlM_cons, List.foldlM_nil, bind_pure] at run
  exact run.trans (congrArg some ((numbered.edit (.insert e)).eq_nodes replaces.stored length))

theorem Numbered.insertRow?_eq (numbered : t.Numbered)
    (arranged : t.root.Arranged t.settings.nodeCapacity t.settings.maxDepth t.boundary)
    (e : TreeEntry α) : t.insertRow? e = some (t.edit (.insert e)).nodes :=
  numbered.insertAt?_eq arranged e (Nat.le_refl _)

/-- **Pairing by number looks up only nodes that are there, and gives the candidates of the
tree.** -/
theorem Numbered.pairsRow?_eq (numbered : t.Numbered)
    (arranged : t.root.Arranged t.settings.nodeCapacity t.settings.maxDepth t.boundary) :
    t.pairsRow? = some t.pairs := by
  have looked : (([] : List Nat).map fun a => t.nodes[a]?) =
      ([] : List (NodeView α)).map some := rfl
  exact arranged.pairsAt?_eq t.settings.pairing numbered.stored looked (Nat.lt_succ_self _)

end QuadTree

end PlanarDynamics
