import PlanarDynamics.Proofs.BroadPhase.Representation

/-!
# Splits go straight down

A leaf splits when it holds one entry more than its capacity, and all its entries enter anew. Until
the last of them every quadrant is a leaf with room to spare, so the entries only spread over the
node and its quadrants (`TreeNode.scattered`). Only the last entry can make a quadrant split, and it
enters no more than one.

So the splits of an insertion lie one below the other on a single path (`Spot.SplitsDown`), there
are no more of them than the depth allows, and inserting comes to an end.
`QuadTree.InsertsStraight` says this of a tree and an entry, and it holds after any changes
(`QuadTree.insertsStraight_edited`).
-/

set_option autoImplicit false

namespace PlanarDynamics

variable {α : Type} [Scalar α]

/-! ## A chain of splits -/

/-- The noted leaves have split one below the other, from a node in its place downwards, each for
the same number of entries. -/
inductive Spot.SplitsDown (entries : Nat) : Spot α → List Subdivision → Prop
  | done {p : Spot α} : SplitsDown entries p []
  | more {p c : Spot α} {q : Quadrant} {notes : List Subdivision} (child : p.child? q = some c)
      (below : SplitsDown entries c notes) :
      SplitsDown entries p (⟨p.index, p.depth, entries⟩ :: notes)

/-- The splits of an insertion with `room` further splits lie one below the other, somewhere below
a node, and each has taken four numbers. -/
structure Spot.SplitsStraight (p : Spot α) (entries room s s' : Nat) (notes : List Subdivision) :
    Prop where
  straight : ∃ path c, p.follow path = some c ∧ c.SplitsDown entries notes
  few : notes.length ≤ room
  numbers : s' = s + 4 * notes.length

section

variable {settings : TreeSettings} {p : Spot α} {entries : Nat} {notes : List Subdivision}

/-- A node in its place that has quadrants is above the depth limit. -/
theorem Spot.Arranged.depth_lt {c : Spot α} {q : Quadrant} (arranged : p.Arranged settings)
    (child : p.child? q = some c) : p.depth < settings.maxDepth := by
  obtain ⟨⟨room, level, _⟩, _⟩ := arranged.child child
  obtain ⟨_, _, _, _, rfl⟩ := Spot.eq_joined_of_child? child
  dsimp only at level
  omega

/-- Every split of a chain is of a node on one path, that has quadrants. -/
theorem Spot.SplitsDown.exists_follow (down : p.SplitsDown entries notes) {d : Subdivision}
    (member : d ∈ notes) :
    ∃ path s q c, p.follow path = some s ∧ s.child? q = some c ∧
      d = ⟨s.index, s.depth, entries⟩ := by
  induction down with
  | done => cases member
  | @more p c q notes child below ih =>
      rcases List.mem_cons.mp member with rfl | later
      · exact ⟨[], p, q, c, rfl, child, rfl⟩
      · obtain ⟨path, s, r, c', found, child', same⟩ := ih later
        refine ⟨q :: path, s, r, c', ?_, child', same⟩
        rw [Spot.follow_cons child]
        exact found

end

namespace TreeNode

/-! ## Entries that spread over a node and its quadrants -/

/-- A split node whose quadrants are leaves, with entries where their boxes stop. -/
def scattered (boundary : Box α) (first : Nat) (es : List (TreeEntry α)) : TreeNode α :=
  joined first (es.filter fun e => onlyQuadrant? boundary e.bounds = none) fun q =>
    leaf (es.filter fun e => onlyQuadrant? boundary e.bounds = some q)

theorem opened_eq_scattered (boundary : Box α) (first : Nat) :
    opened first = scattered boundary first [] := rfl

section

variable {boundary : Box α} {first : Nat} {es : List (TreeEntry α)} {e : TreeEntry α}

theorem scattered_append_of_none (none : onlyQuadrant? boundary e.bounds = none) :
    scattered boundary first (es ++ [e]) =
      joined first ((es.filter fun e => onlyQuadrant? boundary e.bounds = .none) ++ [e]) fun q =>
        leaf (es.filter fun e => onlyQuadrant? boundary e.bounds = some q) := by
  simp [scattered, none]

theorem scattered_append_of_some {q : Quadrant} (only : onlyQuadrant? boundary e.bounds = some q) :
    scattered boundary first (es ++ [e]) =
      joined first (es.filter fun e => onlyQuadrant? boundary e.bounds = none)
        (Function.update
          (fun q => leaf (es.filter fun e => onlyQuadrant? boundary e.bounds = some q)) q
          (leaf ((es.filter fun e => onlyQuadrant? boundary e.bounds = some q) ++ [e]))) := by
  rw [scattered, List.filter_append]
  congr 1
  · simp [only]
  · funext r
    by_cases same : r = q
    · subst same
      simp [only]
    · have other : ¬ q = r := fun equal => same equal.symm
      simp [only, same, other]

end

/-! ## Inserting below a split -/

section

variable {boundary : Box α}
  {descend : Nat → Quadrant → TreeEntry α → TreeNode α → Recorded Subdivision Nat (TreeNode α)}
  {e : TreeEntry α}

theorem run_sink_of_none (none : onlyQuadrant? boundary e.bounds = none) (first : Nat)
    (entries : List (TreeEntry α)) (part : Quadrant → TreeNode α) (s : Nat) :
    (sink boundary descend (joined first entries part) e).run s =
      ⟨joined first (entries ++ [e]) part, s, []⟩ := by
  rw [sink_joined, none, Recorded.run_pure]

theorem run_sink_of_some {q : Quadrant} (only : onlyQuadrant? boundary e.bounds = some q)
    (first : Nat) (entries : List (TreeEntry α)) (part : Quadrant → TreeNode α) (s : Nat) :
    (sink boundary descend (joined first entries part) e).run s =
      let out := (descend (first + q.index) q e (part q)).run s
      ⟨joined first entries (Function.update part q out.answer), out.state, out.notes⟩ := by
  rw [sink_joined, only]
  simp only [Recorded.run_bind, Recorded.run_pure, List.append_nil]

end

variable {capacity : Nat}

/-- A leaf with room to spare does not split. -/
theorem run_insert_leaf_of_lt {entries : List (TreeEntry α)} (fits : entries.length < capacity)
    (room index depth : Nat) (boundary : Box α) (e : TreeEntry α) (s : Nat) :
    (insert capacity room index depth boundary e (leaf entries)).run s =
      ⟨leaf (entries ++ [e]), s, []⟩ := by
  cases room with
  | zero => rfl
  | succ room =>
      have small : ¬ entries.length + 1 > capacity := by omega
      simp [insert, small]

section

variable (room depth : Nat) (boundary : Box α) (first : Nat) (s : Nat)

/-- While there are fewer entries than a leaf may hold, the next one makes nothing split. -/
theorem run_sink_scattered {es : List (TreeEntry α)} (fits : es.length < capacity)
    (e : TreeEntry α) :
    (sink boundary (fun child q => insert capacity room child (depth + 1) (boundary.quadrant q))
        (scattered boundary first es) e).run s = ⟨scattered boundary first (es ++ [e]), s, []⟩ := by
  cases only : onlyQuadrant? boundary e.bounds with
  | none => rw [scattered_append_of_none only, scattered, run_sink_of_none only]
  | some q =>
      have less : (es.filter fun e => onlyQuadrant? boundary e.bounds = some q).length < capacity :=
        (List.length_filter_le _ _).trans_lt fits
      rw [scattered_append_of_some only, scattered, run_sink_of_some only,
        run_insert_leaf_of_lt less]

theorem run_scatter (placed es : List (TreeEntry α))
    (fits : (placed ++ es).length ≤ capacity) :
    (es.foldlM
        (sink boundary fun child q => insert capacity room child (depth + 1) (boundary.quadrant q))
        (scattered boundary first placed)).run s =
      ⟨scattered boundary first (placed ++ es), s, []⟩ := by
  induction es generalizing placed with
  | nil => simp
  | cons e es ih =>
      have less : placed.length < capacity := by
        rw [List.length_append, List.length_cons] at fits
        omega
      have rest := ih (placed ++ [e]) (by simpa using fits)
      simp only [List.foldlM_cons, Recorded.run_bind, run_sink_scattered room depth boundary first s
        less e, rest, List.append_assoc, List.singleton_append, List.nil_append]

end

/-- A full leaf splits, its entries spread, and the new one enters last. -/
theorem run_insert_leaf_full {entries : List (TreeEntry α)} (full : entries.length = capacity)
    (room index depth : Nat) (boundary : Box α) (e : TreeEntry α) (s : Nat) :
    (insert capacity (room + 1) index depth boundary e (leaf entries)).run s =
      let last :=
        (sink boundary (fun child q => insert capacity room child (depth + 1) (boundary.quadrant q))
          (scattered boundary s entries) e).run (s + 4)
      ⟨last.answer, last.state, ⟨index, depth, capacity + 1⟩ :: last.notes⟩ := by
  subst full
  have spread := run_scatter room depth boundary s (s + 4) [] entries (Nat.le_refl entries.length)
  have overfull : entries.length + 1 > entries.length := Nat.lt_succ_self _
  simp only [insert, overfull, if_true, List.foldlM_append, List.foldlM_cons, List.foldlM_nil,
    bind_pure, opened_eq_scattered boundary, Recorded.run_bind, Recorded.run_get, Recorded.run_set,
    Recorded.run_note, spread, List.nil_append, List.singleton_append]

/-- **The splits of an insertion at a leaf start at the leaf and go straight down.** A leaf that
splits sends the entry on to a leaf with no more entries than it had itself. -/
theorem insert_leaf_splits (capacity : Nat) :
    ∀ (room index depth : Nat) (boundary : Box α) (e : TreeEntry α) (entries : List (TreeEntry α))
      (s : Nat), (0 < room → entries.length ≤ capacity) →
      let out := (insert capacity room index depth boundary e (leaf entries)).run s
      (⟨index, depth, boundary, out.answer⟩ : Spot α).SplitsDown (capacity + 1) out.notes ∧
        out.notes.length ≤ room ∧ out.state = s + 4 * out.notes.length
  | 0, _, _, _, _, _, _, _ => ⟨.done, Nat.zero_le _, rfl⟩
  | room + 1, index, depth, boundary, e, entries, s, fits => by
      rcases (fits (Nat.succ_pos room)).lt_or_eq with less | full
      · rw [run_insert_leaf_of_lt less]
        exact ⟨.done, Nat.zero_le _, rfl⟩
      · rw [run_insert_leaf_full full, scattered]
        cases only : onlyQuadrant? boundary e.bounds with
        | none =>
            rw [run_sink_of_none only]
            dsimp only
            refine ⟨.more (Spot.child?_joined _ _ _ _ _ _ .bottomLeft) .done, ?_, rfl⟩
            exact Nat.succ_le_succ (Nat.zero_le room)
        | some q =>
            have most : (entries.filter fun e =>
                onlyQuadrant? boundary e.bounds = some q).length ≤ capacity :=
              (List.length_filter_le _ _).trans full.le
            obtain ⟨below, few, numbers⟩ := insert_leaf_splits capacity room (s + q.index)
              (depth + 1) (boundary.quadrant q) e _ (s + 4) fun _ => most
            rw [run_sink_of_some only]
            dsimp only
            refine ⟨.more (Spot.child?_joined _ _ _ _ _ _ q) ?_, ?_, ?_⟩
            · rw [Function.update_self]
              exact below
            · exact Nat.succ_le_succ few
            · simp only [List.length_cons]
              omega

/-- **The splits of an insertion go straight down.** -/
theorem insert_splits {capacity room : Nat} {boundary : Box α} {n : TreeNode α}
    (arranged : Arranged capacity room boundary n) (index depth : Nat) (e : TreeEntry α) (s : Nat) :
    let out := (insert capacity room index depth boundary e n).run s
    (⟨index, depth, boundary, out.answer⟩ : Spot α).SplitsStraight (capacity + 1) room s out.state
      out.notes := by
  induction arranged generalizing index depth with
  | @leaf room boundary entries fits =>
      obtain ⟨down, few, numbers⟩ :=
        insert_leaf_splits capacity room index depth boundary e entries s fits
      exact ⟨⟨[], _, rfl, down⟩, few, numbers⟩
  | @joined room first boundary entries part stay sunk parts ih =>
      have enters : (insert capacity (room + 1) index depth boundary e
          (.joined first entries part)).run s =
          (sink boundary (fun child q =>
            insert capacity room child (depth + 1) (boundary.quadrant q))
              (.joined first entries part) e).run s := rfl
      rw [enters]
      cases only : onlyQuadrant? boundary e.bounds with
      | none =>
          rw [run_sink_of_none only]
          exact ⟨⟨[], _, rfl, .done⟩, Nat.zero_le _, rfl⟩
      | some q =>
          obtain ⟨⟨path, c, found, down⟩, few, numbers⟩ := ih q (first + q.index) (depth + 1)
          rw [run_sink_of_some only]
          refine ⟨⟨q :: path, c, ?_, down⟩, Nat.le_succ_of_le few, numbers⟩
          rw [Spot.follow_cons_joined, Function.update_self]
          exact found

end TreeNode

/-! ## Inserting into a tree -/

namespace QuadTree

/-- Inserting an entry into a tree ends, and its splits go straight down. -/
structure InsertsStraight (t : QuadTree α) (e : TreeEntry α) : Prop where
  /-- In the row of the nodes, twice the depth of rounds are enough. -/
  ends : ∀ fuel, 2 * t.settings.maxDepth + 1 ≤ fuel →
    insertAt? t.settings fuel 0 t.nodes e = some ((insert e).run t).state.nodes
  /-- Every split but the first is of a quadrant of the one before. -/
  chain : ((insert e).run t).notes.IsChain fun d d' => d'.depth = d.depth + 1 ∧
    ∃ q v u, ((insert e).run t).state.nodes[d.node]? = some v ∧
      ((insert e).run t).state.nodes[d'.node]? = some u ∧ ((insert e).run t).state.IsChild v q u
  /-- A leaf splits above the depth limit and with one entry too many. -/
  split : ∀ d ∈ ((insert e).run t).notes, d.depth < t.settings.maxDepth ∧
    d.entries = t.settings.nodeCapacity + 1 ∧
      ∃ v, ((insert e).run t).state.nodes[d.node]? = some v ∧ v.depth = d.depth ∧ v.isLeaf = false
  few : ((insert e).run t).notes.length ≤ t.settings.maxDepth
  /-- Each split adds four nodes. -/
  added : ((insert e).run t).state.nodes.length =
    t.nodes.length + 4 * ((insert e).run t).notes.length
  bounded : ((insert e).run t).state.nodes.length ≤ t.nodes.length + 4 * t.settings.maxDepth

section

variable {t : QuadTree α} {p : Spot α} {entries : Nat} {notes : List Subdivision}

/-- Splits that go down from a node of a tree are of nodes of the tree, each of a quadrant of the
one before. -/
theorem Numbered.isChain (numbered : t.Numbered) {path : List Quadrant}
    (found : t.top.follow path = some p) (down : p.SplitsDown entries notes) :
    notes.IsChain fun d d' => d'.depth = d.depth + 1 ∧
      ∃ q v u, t.nodes[d.node]? = some v ∧ t.nodes[d'.node]? = some u ∧ t.IsChild v q u := by
  induction down generalizing path with
  | done => exact .nil
  | @more p c q notes child below ih =>
      have further : t.top.follow (path ++ [q]) = some c := Spot.follow_concat found child
      have rest := ih further
      cases below with
      | done => exact .singleton _
      | more =>
          refine .cons_cons ⟨?_, q, p.view, c.view, ?_, ?_, ?_⟩ rest
          · obtain ⟨_, _, _, _, rfl⟩ := Spot.eq_joined_of_child? child
            rfl
          · exact numbered.getElem?_view found
          · exact numbered.getElem?_view further
          · exact (numbered.isChild_iff found).mpr ⟨c, child, rfl⟩

end

/-- **Inserting into a tree that holds its entries goes straight down.** -/
theorem Holds.insertsStraight {t : QuadTree α} {held : List (TreeEntry α)} (holds : t.Holds held)
    (numbered : t.Numbered) (e : TreeEntry α) : t.InsertsStraight e := by
  have numbered' : ((insert e).run t).state.Numbered := numbered.edit (.insert e)
  have holds' : ((insert e).run t).state.Holds _ := holds.edit (.insert e)
  obtain ⟨⟨path, p, found, down⟩, few, numbers⟩ :=
    TreeNode.insert_splits holds.arranged 0 0 e t.nodeCount
  have below : ((insert e).run t).state.top.follow path = some p := found
  have added : ((insert e).run t).state.nodes.length =
      t.nodes.length + 4 * ((insert e).run t).notes.length := by
    rw [numbered'.length_nodes, numbered.length_nodes]
    exact numbers
  refine ⟨fun fuel => numbered.insertAt?_eq holds.arranged e, numbered'.isChain below down, ?_,
    few, added, ?_⟩
  · intro d member
    obtain ⟨rest, s, q, c, found', child, rfl⟩ := down.exists_follow member
    have there : ((insert e).run t).state.top.follow (path ++ rest) = some s := by
      rw [Spot.follow_append, below, Option.bind_some, found']
    refine ⟨(holds'.arranged_of_follow there).depth_lt child, rfl, s.view,
      numbered'.getElem?_view there, rfl, ?_⟩
    obtain ⟨_, _, _, split, _⟩ := Spot.eq_joined_of_child? child
    simp only [NodeView.isLeaf, Spot.view, split]
    rfl
  · rw [added]
    exact Nat.add_le_add_left (Nat.mul_le_mul_left 4 few) _

/-- **Inserting an entry ends, and its splits go straight down, whatever has been done to the
tree.** -/
theorem insertsStraight_edited (boundary : Box α) (settings : TreeSettings)
    (edits : List (TreeEdit α)) (e : TreeEntry α) :
    ((empty boundary settings).edited edits).InsertsStraight e :=
  (holds_edited boundary settings edits).insertsStraight (numbered_edited boundary settings edits) e

/-- A leaf that may hold nothing splits down to the depth limit. -/
example :
    let t : QuadTree Float32 := empty (.spanning ⟨-8, -8⟩ ⟨8, 8⟩) ⟨3, 0, .sameNode⟩
    let out := (insert ⟨⟨⟨1, 1⟩, ⟨1, 1⟩⟩, ⟨0, 0⟩⟩).run t
    out.notes = [⟨0, 0, 1⟩, ⟨4, 1, 1⟩, ⟨5, 2, 1⟩] ∧ out.state.nodeCount = 13 := by
  decide +kernel

end QuadTree

end PlanarDynamics
