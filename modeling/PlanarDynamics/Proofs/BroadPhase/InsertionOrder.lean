import PlanarDynamics.Proofs.BroadPhase.Paths
import PlanarDynamics.Scalar.Binary32

/-!
# The order of insertions

A node splits when too many entries have come to it, so which entry makes it split depends on the
order of the insertions. What is there in the end does not. A node with quadrants has more entries
at it and below it than a leaf may hold (`Takes.crowded`), and a leaf that may split has no more.
So the entries alone decide which nodes split, and where an entry lies is decided by its box
(`similar_of_perm`).

Trees with the same entries have the same nodes on the same paths, up to the numbers of the nodes
and the order of the entries at each, and the same candidates. Queries report the same pairs
exactly when the depth limit is low enough for them to answer (`QuadTree.alike_of_perm`).
-/

set_option autoImplicit false

namespace PlanarDynamics

variable {α : Type}

/-! ## Pairs of permuted entries -/

namespace TreeNode

/-- One pair for every two entries of a list that are related, the earlier entry first. -/
def pairsWhere (related : TreeEntry α → TreeEntry α → Bool) :
    List (TreeEntry α) → List ColliderPair
  | [] => []
  | e :: es =>
    (es.filter (related e)).map (fun f => .of e.collider f.collider) ++ pairsWhere related es

variable {related : TreeEntry α → TreeEntry α → Bool}

/-- When all entries are related, every two of them are paired. -/
theorem pairsWhere_eq_pairsWithin {es : List (TreeEntry α)}
    (all : ∀ e ∈ es, ∀ f ∈ es, related e f = true) : pairsWhere related es = pairsWithin es := by
  induction es with
  | nil => rfl
  | cons e es ih =>
      have first : es.filter (related e) = es :=
        List.filter_eq_self.mpr fun f member =>
          all e List.mem_cons_self f (List.mem_cons_of_mem e member)
      have rest := ih fun f member g member' =>
        all f (List.mem_cons_of_mem e member) g (List.mem_cons_of_mem e member')
      simp only [pairsWhere, pairsWithin, first, rest]

/-- The order of a list does not matter for the pairs of its entries. -/
theorem pairsWhere_perm (symm : ∀ e f, related e f = related f e) {es fs : List (TreeEntry α)}
    (perm : es.Perm fs) : (pairsWhere related es).Perm (pairsWhere related fs) := by
  induction perm with
  | nil => exact .refl _
  | cons e rest ih => exact ((rest.filter _).map _).append ih
  | swap e f rest =>
      simp only [pairsWhere, List.filter_cons, symm f e]
      cases related e f with
      | false => exact List.perm_append_comm_assoc _ _ _
      | true =>
          simp only [if_true, List.map_cons, List.cons_append, ColliderPair.of_comm f.collider]
          exact (List.perm_append_comm_assoc _ _ _).cons _
  | trans _ _ ih ih' => exact ih.trans ih'

theorem pairsWithin_perm {es fs : List (TreeEntry α)} (perm : es.Perm fs) :
    (pairsWithin es).Perm (pairsWithin fs) := by
  have all : ∀ l : List (TreeEntry α), pairsWhere (fun _ _ => true) l = pairsWithin l :=
    fun _ => pairsWhere_eq_pairsWithin fun _ _ _ _ => rfl
  rw [← all es, ← all fs]
  exact pairsWhere_perm (fun _ _ => rfl) perm

theorem pairsBetween_perm {es fs es' fs' : List (TreeEntry α)} (upper : es.Perm fs)
    (lower : es'.Perm fs') : (pairsBetween es es').Perm (pairsBetween fs fs') :=
  upper.flatMap fun _ _ => lower.map _

theorem here_perm {above above' es fs : List (TreeEntry α)} (pairing : Pairing)
    (upper : above.Perm above') (kept : es.Perm fs) :
    (pairs.here pairing above es).Perm (pairs.here pairing above' fs) := by
  refine (pairsWithin_perm kept).append ?_
  cases pairing with
  | sameNode => exact .refl _
  | includeAncestors => exact pairsBetween_perm upper kept

/-! ## Similar nodes -/

/-- Two nodes split in the same places and keep the same entries there, in some order. -/
inductive Similar : TreeNode α → TreeNode α → Prop
  | leaf {es fs : List (TreeEntry α)} (kept : es.Perm fs) : Similar (leaf es) (leaf fs)
  | joined {first first' : Nat} {es fs : List (TreeEntry α)} {part part' : Quadrant → TreeNode α}
      (kept : es.Perm fs) (parts : ∀ q, Similar (part q) (part' q)) :
      Similar (joined first es part) (joined first' fs part')

/-- **Similar nodes have the same candidates.** -/
theorem Similar.pairs_perm {n n' : TreeNode α} (similar : Similar n n') (pairing : Pairing)
    {above above' : List (TreeEntry α)} (upper : above.Perm above') :
    (n.pairs pairing above).Perm (n'.pairs pairing above') := by
  induction similar generalizing above above' with
  | leaf kept => exact here_perm pairing upper kept
  | joined kept _ ih =>
      rw [pairs_joined, pairs_joined]
      refine (here_perm pairing upper kept).append ?_
      exact List.Perm.flatMap_left _ fun q _ => ih q (upper.append kept)

/-! ## Crowded nodes -/

/-- A split node, and every split node below it, has more entries at it and below it than a leaf
may hold. -/
inductive Crowded (capacity : Nat) : TreeNode α → Prop
  | leaf {entries : List (TreeEntry α)} : Crowded capacity (leaf entries)
  | joined {first : Nat} {entries : List (TreeEntry α)} {part : Quadrant → TreeNode α}
      (many : capacity < (joined first entries part).contents.length)
      (parts : ∀ q, Crowded capacity (part q)) : Crowded capacity (joined first entries part)

/-- What it means for a split node to be crowded. -/
theorem Crowded.of_joined {capacity first : Nat} {entries : List (TreeEntry α)}
    {part : Quadrant → TreeNode α} (h : Crowded capacity (TreeNode.joined first entries part)) :
    capacity < (TreeNode.joined first entries part).contents.length ∧
      ∀ q, Crowded capacity (part q) := by
  generalize same : TreeNode.joined first entries part = n at h
  cases h with
  | leaf => cases same
  | joined many parts =>
      obtain ⟨rfl, rfl, rfl⟩ := joined_inj same
      exact ⟨many, parts⟩

/-- Every split node below a node is crowded. The node itself need not be: it is not while the
entries that made it split are on their way back. -/
def CrowdedBelow (capacity : Nat) (n : TreeNode α) : Prop :=
  ∀ first entries part, n = joined first entries part → ∀ q, Crowded capacity (part q)

theorem Crowded.crowdedBelow {capacity : Nat} {n : TreeNode α} (crowded : Crowded capacity n) :
    CrowdedBelow capacity n := by
  rintro first entries part rfl
  exact crowded.of_joined.2

theorem CrowdedBelow.crowded {capacity : Nat} {n : TreeNode α} (below : CrowdedBelow capacity n)
    (many : capacity < n.contents.length) : Crowded capacity n := by
  cases n using joined_induction with
  | leaf entries => exact .leaf
  | joined first entries part => exact .joined many (below first entries part rfl)

theorem crowdedBelow_joined {capacity first : Nat} {entries : List (TreeEntry α)}
    {part : Quadrant → TreeNode α} (parts : ∀ q, Crowded capacity (part q)) :
    CrowdedBelow capacity (joined first entries part) := by
  intro first' entries' part' same
  obtain ⟨_, _, rfl⟩ := joined_inj same
  exact parts

variable [Scalar α] {capacity room s s' : Nat} {boundary : Box α} {es : List (TreeEntry α)}
  {n n' : TreeNode α}

/-- **Taking entries keeps a node crowded.** -/
theorem Takes.crowded (takes : Takes capacity room boundary es n s n' s')
    (arranged : Arranged capacity room boundary n) :
    (CrowdedBelow capacity n → CrowdedBelow capacity n') ∧
      (Crowded capacity n → Crowded capacity n') := by
  induction takes with
  | nil => exact ⟨id, id⟩
  | cons first _ ih ih' =>
      have later := ih' (first.arranged arranged)
      exact ⟨later.1 ∘ (ih arranged).1, later.2 ∘ (ih arranged).2⟩
  | keep =>
      cases arranged with
      | leaf => exact ⟨fun _ => Crowded.leaf.crowdedBelow, fun _ => .leaf⟩
  | fit => exact ⟨fun _ => Crowded.leaf.crowdedBelow, fun _ => .leaf⟩
  | @divide room s s' boundary e entries n' full anew ih =>
      have below := (ih (arranged_opened s)).1 (crowdedBelow_joined fun _ => .leaf)
      refine ⟨fun _ => below, fun _ => below.crowded ?_⟩
      rw [anew.contents.length_eq, contents_empty]
      simpa using Nat.lt_succ_of_le full
  | @stay room s first boundary e entries part none =>
      refine ⟨fun below => crowdedBelow_joined (below _ _ _ rfl), fun crowded => ?_⟩
      obtain ⟨many, parts⟩ := crowded.of_joined
      have stays :
          Takes capacity (room + 1) boundary [e] (TreeNode.joined first entries part) s _ s :=
        .stay none
      refine .joined ?_ parts
      rw [stays.contents.length_eq]
      exact Nat.lt_succ_of_lt many
  | @sink room s s' first boundary e q entries part n' only below ih =>
      have grown := (ih (arranged.of_joined.2.2 q)).2
      have parts' : (∀ r, Crowded capacity (part r)) →
          ∀ r, Crowded capacity (Function.update part q n' r) := fun parts =>
        (Function.forall_update_iff part fun _ => Crowded capacity).mpr
          ⟨grown (parts q), fun r _ => parts r⟩
      refine ⟨fun below => crowdedBelow_joined (parts' (below _ _ _ rfl)), fun crowded => ?_⟩
      obtain ⟨many, parts⟩ := crowded.of_joined
      refine .joined ?_ (parts' parts)
      rw [(Takes.sink only below).contents.length_eq]
      exact Nat.lt_succ_of_lt many

/-! ## What the entries alone decide -/

/-- The entries that stay at a split node are those without an only quadrant. -/
theorem Arranged.entries_eq {first : Nat} {entries : List (TreeEntry α)}
    {part : Quadrant → TreeNode α}
    (arranged : Arranged capacity (room + 1) boundary (TreeNode.joined first entries part)) :
    (TreeNode.joined first entries part).contents.filter
      (fun e => onlyQuadrant? boundary e.bounds = none) = entries := by
  obtain ⟨stay, sunk, _⟩ := arranged.of_joined
  rw [contents_joined, List.filter_append, List.filter_eq_self.mpr (by simpa using stay)]
  refine (List.append_right_eq_self ..).mpr (List.filter_eq_nil_iff.mpr fun e member => ?_)
  obtain ⟨q, _, member⟩ := List.mem_flatMap.mp member
  simp [sunk q e member]

/-- The entries below a split node in a quadrant are those with that only quadrant. -/
theorem Arranged.contents_eq {first : Nat} {entries : List (TreeEntry α)}
    {part : Quadrant → TreeNode α}
    (arranged : Arranged capacity (room + 1) boundary (TreeNode.joined first entries part))
    (q : Quadrant) :
    (TreeNode.joined first entries part).contents.filter
      (fun e => onlyQuadrant? boundary e.bounds = some q) = (part q).contents := by
  obtain ⟨stay, sunk, _⟩ := arranged.of_joined
  have none : entries.filter (fun e => onlyQuadrant? boundary e.bounds = some q) = [] :=
    List.filter_eq_nil_iff.mpr fun e member => by simp [stay e member]
  have each : ∀ r, (part r).contents.filter (fun e => onlyQuadrant? boundary e.bounds = some q) =
      if r = q then (part r).contents else [] := by
    intro r
    split
    case isTrue same =>
      subst same
      exact List.filter_eq_self.mpr (by simpa using sunk r)
    case isFalse different =>
      refine List.filter_eq_nil_iff.mpr fun e member => ?_
      simpa [sunk r e member] using different
  rw [contents_joined, List.filter_append, none, List.nil_append, List.filter_flatMap]
  simp only [each]
  cases q <;> simp [Quadrant.all]

/-- **Nodes with the same entries are similar.** -/
theorem similar_of_perm (arranged : Arranged capacity room boundary n)
    (crowded : Crowded capacity n) (arranged' : Arranged capacity room boundary n')
    (crowded' : Crowded capacity n') (same : n.contents.Perm n'.contents) : Similar n n' := by
  induction arranged generalizing n' with
  | leaf fits =>
      cases arranged' with
      | leaf => exact .leaf same
      | joined =>
          exact absurd (same.length_eq ▸ fits (Nat.succ_pos _)) crowded'.of_joined.1.not_ge
  | @joined room first boundary entries part stay sunk parts ih =>
      have here : Arranged capacity (room + 1) boundary (joined first entries part) :=
        .joined stay sunk parts
      cases arranged' with
      | leaf fits =>
          exact absurd (same.length_eq ▸ fits (Nat.succ_pos _)) crowded.of_joined.1.not_ge
      | @joined _ first' _ entries' part' stay' sunk' parts' =>
          have here' : Arranged capacity (room + 1) boundary (joined first' entries' part') :=
            .joined stay' sunk' parts'
          refine .joined ?_ fun q => ih q (crowded.of_joined.2 q) (parts' q)
            (crowded'.of_joined.2 q) ?_
          · rw [← here.entries_eq, ← here'.entries_eq]
            exact same.filter _
          · rw [← here.contents_eq q, ← here'.contents_eq q]
            exact same.filter _

end TreeNode

/-! ## Alike trees -/

/-- Two nodes differ in nothing but their numbers and the order of their entries. -/
structure NodeView.Alike (v w : NodeView α) : Prop where
  boundary : v.boundary = w.boundary
  depth : v.depth = w.depth
  isLeaf : v.isLeaf = w.isLeaf
  entries : v.entries.Perm w.entries

/-- From similar nodes in places of the same kind, the same paths lead to nodes that are alike. -/
theorem TreeNode.Similar.follow [Scalar α] {p p' : Spot α} (similar : Similar p.node p'.node)
    (depth : p.depth = p'.depth) (boundary : p.boundary = p'.boundary) (path : List Quadrant) :
    Option.Rel NodeView.Alike ((p.follow path).map Spot.view) ((p'.follow path).map Spot.view) := by
  induction path generalizing p p' with
  | nil =>
      refine .some ⟨boundary, depth, ?_, ?_⟩
      · obtain ⟨i, _, _, n⟩ := p
        obtain ⟨i', _, _, n'⟩ := p'
        cases similar <;> rfl
      · obtain ⟨i, _, _, n⟩ := p
        obtain ⟨i', _, _, n'⟩ := p'
        cases similar <;> assumption
  | cons q path ih =>
      obtain ⟨i, level, outline, n⟩ := p
      obtain ⟨i', level', outline', n'⟩ := p'
      obtain rfl : level = level' := depth
      obtain rfl : outline = outline' := boundary
      rw [Spot.follow, Spot.follow]
      cases similar with
      | leaf => exact .none
      | @joined first first' es fs part part' kept parts =>
          have child := Spot.child?_joined i level first outline es part q
          have child' := Spot.child?_joined i' level first' outline fs part' q
          exact child.symm ▸ child'.symm ▸ ih (parts q) rfl rfl

namespace QuadTree

variable [Scalar α]

/-- Two trees have the same nodes up to renumbering. -/
structure Alike (t u : QuadTree α) : Prop where
  /-- The same paths lead to nodes, and to nodes that are alike. -/
  nodeAt : ∀ path, Option.Rel NodeView.Alike (t.nodeAt? path) (u.nodeAt? path)
  /-- Paths tell the nodes of the one tree apart, and reach all of them. -/
  path : ∀ v ∈ t.nodes, ∃! path, t.nodeAt? path = some v
  /-- Paths tell the nodes of the other tree apart, and reach all of them. -/
  path' : ∀ v ∈ u.nodes, ∃! path, u.nodeAt? path = some v

/-- Trees with similar roots are alike. -/
theorem Numbered.alike {t u : QuadTree α} (numbered : t.Numbered) (numbered' : u.Numbered)
    (boundary : t.boundary = u.boundary) (similar : t.root.Similar u.root) : t.Alike u where
  nodeAt path := by
    rw [numbered.nodeAt?_eq, numbered'.nodeAt?_eq]
    have depth : t.top.depth = u.top.depth := rfl
    exact TreeNode.Similar.follow similar depth boundary path
  path _ := numbered.existsUnique_path
  path' _ := numbered'.existsUnique_path

/-- Trees with similar roots that pair in the same way have the same candidates. -/
theorem pairs_perm {α : Type} {t u : QuadTree α} (pairing : t.settings.pairing = u.settings.pairing)
    (similar : t.root.Similar u.root) : t.pairs.Perm u.pairs := by
  rw [pairs, pairs, pairing]
  exact similar.pairs_perm _ (.refl _)

/-- The root of a tree is crowded, whatever has been done to the tree. -/
theorem crowded_edited (boundary : Box α) (settings : TreeSettings) (edits : List (TreeEdit α)) :
    let t := (empty boundary settings).edited edits
    t.root.Crowded t.settings.nodeCapacity := by
  refine (edited_induction (motive := fun t held => t.Holds held ∧
    t.root.Crowded t.settings.nodeCapacity) boundary settings
    ⟨holds_empty boundary settings, .leaf⟩ (fun t held change both => ?_) edits).2
  refine ⟨both.1.edit change, ?_⟩
  cases change with
  | insert entry =>
      exact ((TreeNode.takes_insert t.settings.nodeCapacity t.settings.maxDepth 0 0 t.boundary entry
        t.root t.nodeCount).crowded both.1.arranged).2 both.2
  | clear => exact .leaf
  | setBoundary boundary => exact .leaf
  | setPairing pairing => exact both.2

/-- The order of insertions changes neither the boundary nor the settings, and leaves the roots
similar. -/
theorem similar_of_perm (boundary : Box α) (settings : TreeSettings) {l m : List (TreeEntry α)}
    (perm : l.Perm m) :
    let t := (empty boundary settings).edited (l.map .insert)
    let u := (empty boundary settings).edited (m.map .insert)
    t.boundary = u.boundary ∧ t.settings = u.settings ∧ t.root.Similar u.root := by
  have holds := holds_map_insert boundary settings l
  have holds' := holds_map_insert boundary settings m
  have crowded := crowded_edited boundary settings (l.map .insert)
  have crowded' := crowded_edited boundary settings (m.map .insert)
  obtain ⟨sameBoundary, sameSettings⟩ := frame_map_insert (empty boundary settings) l
  obtain ⟨sameBoundary', sameSettings'⟩ := frame_map_insert (empty boundary settings) m
  generalize (empty boundary settings).edited (l.map .insert) = t at *
  generalize (empty boundary settings).edited (m.map .insert) = u at *
  have outline := sameBoundary.trans sameBoundary'.symm
  have limits := sameSettings.trans sameSettings'.symm
  refine ⟨outline, limits, ?_⟩
  refine TreeNode.similar_of_perm holds.arranged crowded (limits ▸ outline ▸ holds'.arranged)
    (limits ▸ crowded') ?_
  exact holds.contents.trans (perm.trans holds'.contents.symm)

/-- **The order of insertions does not matter.** The trees have the same nodes whatever their limits
are, and the same pairs are reported exactly when the depth limit lets the queries answer. -/
theorem alike_of_perm (boundary : Box α) (settings : TreeSettings) {l m : List (TreeEntry α)}
    (perm : l.Perm m) :
    let t := (empty boundary settings).edited (l.map .insert)
    let u := (empty boundary settings).edited (m.map .insert)
    t.Alike u ∧
      ((∃ reported, t.query = .ok reported ∧
        ∃ reported', u.query = .ok reported' ∧ reported.Perm reported') ↔
          settings.maxDepth + 1 < 2 ^ 60) := by
  intro t u
  obtain ⟨outline, limits, similar⟩ := similar_of_perm boundary settings perm
  have numbered := numbered_edited boundary settings (l.map .insert)
  have numbered' := numbered_edited boundary settings (m.map .insert)
  refine ⟨numbered.alike numbered' outline similar, ?_⟩
  refine exists_query_edited_iff _ _ _ fun low => ⟨u.pairs, ?_, ?_⟩
  · exact query_of_walkable ((walkable_edited boundary settings (m.map .insert)).mpr low)
  · exact pairs_perm (congrArg TreeSettings.pairing limits) similar

/-- Boxes that make a tree split twice, one of them across the middle and one undefined. -/
def scatteredEntries : List (TreeEntry Float32) :=
  [⟨⟨⟨1, 1⟩, ⟨2, 2⟩⟩, ⟨0, 0⟩⟩, ⟨⟨⟨-1, -1⟩, ⟨1, 1⟩⟩, ⟨1, 0⟩⟩, ⟨⟨⟨3, 3⟩, ⟨3.5, 3.5⟩⟩, ⟨2, 0⟩⟩,
    ⟨⟨⟨0 / 0, 0⟩, ⟨1, 1⟩⟩, ⟨3, 0⟩⟩, ⟨⟨⟨2.5, 2.5⟩, ⟨2.6, 2.6⟩⟩, ⟨4, 0⟩⟩]

theorem alike_of_perm_scattered :
    let t := (empty (.spanning ⟨-4, -4⟩ ⟨4, 4⟩) ⟨3, 2, .includeAncestors⟩).edited
      (scatteredEntries.map .insert)
    let u := (empty (.spanning ⟨-4, -4⟩ ⟨4, 4⟩) ⟨3, 2, .includeAncestors⟩).edited
      (scatteredEntries.reverse.map .insert)
    scatteredEntries.Perm scatteredEntries.reverse ∧ t.nodeCount = 9 ∧ t.Alike u ∧
      ∃ reported, t.query = .ok reported ∧
        ∃ reported', u.query = .ok reported' ∧ reported.Perm reported' := by
  have perm := (List.reverse_perm scatteredEntries).symm
  obtain ⟨nodes, pairs⟩ :=
    alike_of_perm (.spanning ⟨-4, -4⟩ ⟨4, 4⟩) ⟨3, 2, .includeAncestors⟩ perm
  exact ⟨perm, by decide +kernel, nodes, pairs.mpr (by decide)⟩

/-- With a depth limit that is as good as none, neither order of the insertions gets an answer. -/
theorem unanswered_of_boundless :
    let t := (empty (.spanning ⟨-4, -4⟩ ⟨4, 4⟩)
      ⟨9223372036854775807, 2, .includeAncestors⟩).edited (scatteredEntries.map .insert)
    let u := (empty (.spanning ⟨-4, -4⟩ ⟨4, 4⟩)
      ⟨9223372036854775807, 2, .includeAncestors⟩).edited (scatteredEntries.reverse.map .insert)
    scatteredEntries.Perm scatteredEntries.reverse ∧ t.query = .error .capacityOverflow ∧
      u.query = .error .capacityOverflow :=
  ⟨(List.reverse_perm scatteredEntries).symm, query_edited _ _ (scatteredEntries.map .insert),
    query_edited _ _ (scatteredEntries.reverse.map .insert)⟩

end QuadTree

end PlanarDynamics
