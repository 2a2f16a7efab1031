import Mathlib.Data.List.Flatten
import Mathlib.Data.List.Nodup
import PlanarDynamics.Proofs.BroadPhase.InsertionOrder
import PlanarDynamics.Proofs.BroadPhase.Representation

/-!
# Each pair once

An entry of a tree is kept at one node, where its box stops on the way down. The path to that node
is the `home` of the entry (`TreeNode.Arranged.mem_follow_iff`). Two entries are candidates when
their homes are the same or, in a tree that pairs with ancestors, when one home lies on the way to
the other (`Pairing.joins`).

The candidates of a tree are then one pair for every two insertions whose homes are joined, and
nothing else (`TreeNode.Arranged.pairs_perm`). `QuadTree.PairsOnce` says this of a list of pairs,
together with what follows from it. After any changes, a query answers with such a list exactly
when the depth limit is low enough for it to answer (`QuadTree.pairs_once`).
-/

set_option autoImplicit false

namespace PlanarDynamics

/-- Whether entries at the ends of two paths are paired: at the same node, or with ancestors also
where one path is a part of the way to the end of the other. -/
def Pairing.joins (pairing : Pairing) (path path' : List Quadrant) : Bool :=
  match pairing with
  | .sameNode => path = path'
  | .includeAncestors => path <+: path' ∨ path' <+: path

theorem Pairing.joins_comm (pairing : Pairing) (path path' : List Quadrant) :
    pairing.joins path path' = pairing.joins path' path := by
  cases pairing with
  | sameNode => exact decide_eq_decide.mpr eq_comm
  | includeAncestors => exact decide_eq_decide.mpr or_comm

@[simp] theorem Pairing.joins_self (pairing : Pairing) (path : List Quadrant) :
    pairing.joins path path = true := by
  cases pairing <;> simp [joins]

@[simp] theorem Pairing.joins_cons_self (pairing : Pairing) (q : Quadrant)
    (path path' : List Quadrant) :
    pairing.joins (q :: path) (q :: path') = pairing.joins path path' := by
  cases pairing <;> simp [joins]

theorem Pairing.joins_cons_of_ne (pairing : Pairing) {q r : Quadrant} (different : q ≠ r)
    (path path' : List Quadrant) : pairing.joins (q :: path) (r :: path') = false := by
  cases pairing <;> simp [joins, different, different.symm]

/-- The pairs of a collider with two others are different. -/
theorem ColliderPair.of_injective (a : ColliderRef) : Function.Injective (of a) := by
  intro b c same
  have inSecond : (of a c).contains b = true := by simp [← same, contains_of]
  have inFirst : (of a b).contains c = true := by simp [same, contains_of]
  simp only [contains_of, Bool.or_eq_true, decide_eq_true_eq] at inSecond inFirst
  rcases inSecond with rfl | rfl
  · rcases inFirst with rfl | rfl <;> rfl
  · rfl

variable {α : Type}

/-! ## Pairs of related entries -/

namespace TreeNode

/-- One pair for every entry of one list and entry of another that are related. -/
def pairsAcross (related : TreeEntry α → TreeEntry α → Bool) (upper lower : List (TreeEntry α)) :
    List ColliderPair :=
  upper.flatMap fun e => (lower.filter (related e)).map fun f => .of e.collider f.collider

variable {related related' : TreeEntry α → TreeEntry α → Bool}

theorem pairsWhere_congr {es : List (TreeEntry α)}
    (same : ∀ e ∈ es, ∀ f ∈ es, related e f = related' e f) :
    pairsWhere related es = pairsWhere related' es := by
  induction es with
  | nil => rfl
  | cons e es ih =>
      have first : es.filter (related e) = es.filter (related' e) :=
        List.filter_congr fun f member =>
          same e List.mem_cons_self f (List.mem_cons_of_mem e member)
      have rest := ih fun f member g member' =>
        same f (List.mem_cons_of_mem e member) g (List.mem_cons_of_mem e member')
      simp only [pairsWhere, first, rest]

theorem pairsAcross_eq_pairsBetween {upper lower : List (TreeEntry α)}
    (all : ∀ e ∈ upper, ∀ f ∈ lower, related e f = true) :
    pairsAcross related upper lower = pairsBetween upper lower := by
  refine List.flatMap_congr fun e member => ?_
  rw [List.filter_eq_self.mpr (all e member)]

theorem pairsAcross_eq_nil {upper lower : List (TreeEntry α)}
    (none : ∀ e ∈ upper, ∀ f ∈ lower, related e f = false) :
    pairsAcross related upper lower = [] := by
  refine List.flatMap_eq_nil_iff.mpr fun e member => ?_
  have nothing : lower.filter (related e) = [] :=
    List.filter_eq_nil_iff.mpr fun f member' => by simp [none e member f member']
  rw [nothing, List.map_nil]

theorem pairsWhere_append (es fs : List (TreeEntry α)) :
    (pairsWhere related (es ++ fs)).Perm
      (pairsWhere related es ++ (pairsAcross related es fs ++ pairsWhere related fs)) := by
  induction es with
  | nil => exact .refl _
  | cons e es ih =>
      simp only [List.cons_append, pairsWhere, pairsAcross, List.flatMap_cons, List.filter_append,
        List.map_append, List.append_assoc]
      refine List.Perm.append_left _ ?_
      refine (ih.append_left _).trans ?_
      simp only [pairsAcross]
      exact List.perm_append_comm_assoc _ _ _

/-- Lists of which no entries are related across have only their own pairs. -/
theorem pairsWhere_flatMap {γ : Type} {f : γ → List (TreeEntry α)} {l : List γ}
    (apart : l.Pairwise fun q r => ∀ d ∈ f q, ∀ e ∈ f r, related d e = false) :
    (pairsWhere related (l.flatMap f)).Perm (l.flatMap fun q => pairsWhere related (f q)) := by
  induction l with
  | nil => exact .refl _
  | cons q l ih =>
      obtain ⟨first, rest⟩ := List.pairwise_cons.mp apart
      have nothing : pairsAcross related (f q) (l.flatMap f) = [] := by
        refine pairsAcross_eq_nil fun d member e member' => ?_
        obtain ⟨r, inRest, member'⟩ := List.mem_flatMap.mp member'
        exact first r inRest d member e member'
      rw [List.flatMap_cons, List.flatMap_cons]
      refine (pairsWhere_append _ _).trans ?_
      rw [nothing, List.nil_append]
      exact (ih rest).append_left _

theorem pairsWhere_sublist (es : List (TreeEntry α)) :
    (pairsWhere related es).Sublist (pairsWithin es) := by
  induction es with
  | nil => exact .slnil
  | cons e es ih => exact (List.filter_sublist.map _).append ih

/-! ## Different entries -/

/-- A pair of entries of a list is of colliders of the list. -/
theorem contains_of_mem_pairsWithin {es : List (TreeEntry α)} {p : ColliderPair}
    (member : p ∈ pairsWithin es) {c : ColliderRef} (here : p.contains c = true) :
    c ∈ es.map TreeEntry.collider := by
  induction es with
  | nil => cases member
  | cons e es ih =>
      rw [List.map_cons]
      rcases List.mem_append.mp member with first | rest
      · obtain ⟨f, inside, rfl⟩ := List.mem_map.mp first
        simp only [ColliderPair.contains_of, Bool.or_eq_true, decide_eq_true_eq] at here
        rcases here with rfl | rfl
        · exact List.mem_cons_self
        · exact List.mem_cons_of_mem _ (List.mem_map_of_mem inside)
      · exact List.mem_cons_of_mem _ (ih rest)

/-- Entries of different colliders give different pairs. -/
theorem nodup_pairsWithin {es : List (TreeEntry α)}
    (different : (es.map TreeEntry.collider).Nodup) : (pairsWithin es).Nodup := by
  induction es with
  | nil => exact .nil
  | cons e es ih =>
      obtain ⟨fresh, different⟩ := List.nodup_cons.mp different
      refine List.nodup_append'.mpr ⟨?_, ih different, ?_⟩
      · have first : es.map (fun f => ColliderPair.of e.collider f.collider) =
            (es.map TreeEntry.collider).map (ColliderPair.of e.collider) := by simp
        rw [first]
        exact different.map (ColliderPair.of_injective e.collider)
      · intro p first rest
        obtain ⟨f, _, rfl⟩ := List.mem_map.mp first
        have here : (ColliderPair.of e.collider f.collider).contains e.collider = true := by
          simp [ColliderPair.contains_of]
        exact fresh (contains_of_mem_pairsWithin rest here)

/-! ## Pairs at a node and below it -/

theorem pairsBetween_append (upper lower lower' : List (TreeEntry α)) :
    (pairsBetween upper (lower ++ lower')).Perm
      (pairsBetween upper lower ++ pairsBetween upper lower') := by
  simp only [pairsBetween, List.map_append]
  exact (List.flatMap_append_perm _ _ _).symm

theorem pairsBetween_flatMap {γ : Type} (upper : List (TreeEntry α)) (f : γ → List (TreeEntry α))
    (l : List γ) :
    (pairsBetween upper (l.flatMap f)).Perm (l.flatMap fun q => pairsBetween upper (f q)) := by
  induction l with
  | nil => simp [pairsBetween]
  | cons q l ih =>
      rw [List.flatMap_cons, List.flatMap_cons]
      exact (pairsBetween_append _ _ _).trans (ih.append_left _)

/-- The pairs of entries with those above them. -/
def pairsAbove (pairing : Pairing) (above entries : List (TreeEntry α)) : List ColliderPair :=
  match pairing with
  | .sameNode => []
  | .includeAncestors => pairsBetween above entries

theorem here_eq (pairing : Pairing) (above entries : List (TreeEntry α)) :
    pairs.here pairing above entries = pairsWithin entries ++ pairsAbove pairing above entries :=
  rfl

theorem pairsAbove_append (pairing : Pairing) (above entries lower : List (TreeEntry α)) :
    pairsAbove pairing (above ++ entries) lower =
      pairsAbove pairing above lower ++ pairsAbove pairing entries lower := by
  cases pairing with
  | sameNode => rfl
  | includeAncestors => exact List.flatMap_append

theorem pairsAbove_contents (pairing : Pairing) (above entries : List (TreeEntry α)) (first : Nat)
    (part : Quadrant → TreeNode α) :
    (pairsAbove pairing above (joined first entries part).contents).Perm
      (pairsAbove pairing above entries ++
        Quadrant.all.flatMap fun q => pairsAbove pairing above (part q).contents) := by
  cases pairing with
  | sameNode => simp [pairsAbove]
  | includeAncestors =>
      simp only [pairsAbove, contents_joined]
      exact (pairsBetween_append _ _ _).trans ((pairsBetween_flatMap _ _ _).append_left _)

/-- A tree that pairs with ancestors has the candidates of the same node among its own. -/
theorem sublist_pairs (n : TreeNode α) (above above' : List (TreeEntry α)) :
    (n.pairs .sameNode above).Sublist (n.pairs .includeAncestors above') := by
  induction n using joined_induction generalizing above above' with
  | leaf entries => exact (List.Sublist.refl _).append (List.nil_sublist _)
  | joined first entries part ih =>
      rw [pairs_joined, pairs_joined, here_eq, here_eq]
      refine ((List.Sublist.refl _).append (List.nil_sublist _)).append ?_
      exact List.Sublist.flatMap_right _ fun q _ => ih q _ _

/-! ## The home of a box -/

/-- The path on which a box sinks from a node with a boundary. -/
def home [Scalar α] (boundary bounds : Box α) : TreeNode α → List Quadrant
  | leaf _ => []
  | split _ _ bl br tl tr =>
    match onlyQuadrant? boundary bounds with
    | none => []
    | some .bottomLeft => .bottomLeft :: bl.home (boundary.quadrant .bottomLeft) bounds
    | some .bottomRight => .bottomRight :: br.home (boundary.quadrant .bottomRight) bounds
    | some .topLeft => .topLeft :: tl.home (boundary.quadrant .topLeft) bounds
    | some .topRight => .topRight :: tr.home (boundary.quadrant .topRight) bounds

section

variable [Scalar α] {boundary bounds : Box α} {first : Nat} {entries : List (TreeEntry α)}
  {part : Quadrant → TreeNode α} {q : Quadrant}

theorem home_joined_of_none (none : onlyQuadrant? boundary bounds = none) :
    (joined first entries part).home boundary bounds = [] := by
  simp [joined, home, none]

theorem home_joined_of_some (only : onlyQuadrant? boundary bounds = some q) :
    (joined first entries part).home boundary bounds =
      q :: (part q).home (boundary.quadrant q) bounds := by
  cases q <;> simp [joined, home, only]

end

variable [Scalar α] {capacity room : Nat} {boundary : Box α} {n : TreeNode α}

/-- **An entry of an arranged node is kept at its home and nowhere else.** -/
theorem Arranged.mem_follow_iff (arranged : Arranged capacity room boundary n)
    {e : TreeEntry α} (member : e ∈ n.contents) (i depth : Nat) (path : List Quadrant) :
    (∃ s, (⟨i, depth, boundary, n⟩ : Spot α).follow path = some s ∧ e ∈ s.node.entries) ↔
      path = n.home boundary e.bounds := by
  induction arranged generalizing i depth path with
  | leaf fits =>
      cases path with
      | nil => exact ⟨fun _ => rfl, fun _ => ⟨_, rfl, member⟩⟩
      | cons q path =>
          constructor
          · rintro ⟨_, found, _⟩
            cases found
          · intro same
            cases same
  | @joined room first boundary entries part stay sunk parts ih =>
      have here : Arranged capacity (room + 1) boundary (.joined first entries part) :=
        .joined stay sunk parts
      have kept : e ∈ entries ↔ onlyQuadrant? boundary e.bounds = none := by
        rw [← here.entries_eq]
        simp [member]
      have below : ∀ q, e ∈ (part q).contents ↔ onlyQuadrant? boundary e.bounds = some q := by
        intro q
        rw [← here.contents_eq q]
        simp [member]
      cases path with
      | nil =>
          have own : (∃ s, (⟨i, depth, boundary, .joined first entries part⟩ : Spot α).follow [] =
              some s ∧ e ∈ s.node.entries) ↔ e ∈ entries := by
            constructor
            · rintro ⟨s, found, kept⟩
              obtain rfl := Option.some.inj found
              exact kept
            · intro kept
              exact ⟨_, rfl, kept⟩
          rw [own, kept]
          cases only : onlyQuadrant? boundary e.bounds with
          | none => simp [home_joined_of_none only]
          | some q => simp [home_joined_of_some only]
      | cons r rest =>
          rw [Spot.follow_cons_joined]
          by_cases inside : e ∈ (part r).contents
          · rw [ih r inside, home_joined_of_some ((below r).mp inside)]
            simp
          · constructor
            · rintro ⟨s, found, kept⟩
              have low := Spot.contents_subset_of_follow found (s.entries_subset_contents kept)
              exact absurd low inside
            · intro same
              cases only : onlyQuadrant? boundary e.bounds with
              | none =>
                  rw [home_joined_of_none only] at same
                  cases same
              | some q =>
                  rw [home_joined_of_some only] at same
                  obtain ⟨rfl, _⟩ := List.cons.inj same
                  exact absurd ((below r).mpr only) inside

/-! ## The pairs of an arranged node -/

/-- Whether two entries are paired by their homes. -/
def homesJoin (pairing : Pairing) (boundary : Box α) (n : TreeNode α) (e f : TreeEntry α) : Bool :=
  pairing.joins (n.home boundary e.bounds) (n.home boundary f.bounds)

section

variable {first : Nat} {entries : List (TreeEntry α)} {part : Quadrant → TreeNode α}
  (pairing : Pairing) (stay : ∀ e ∈ entries, onlyQuadrant? boundary e.bounds = none)
  (sunk : ∀ q, ∀ e ∈ (part q).contents, onlyQuadrant? boundary e.bounds = some q)

include stay

theorem pairsWhere_entries :
    pairsWhere (homesJoin pairing boundary (joined first entries part)) entries =
      pairsWithin entries := by
  refine pairsWhere_eq_pairsWithin fun e member f member' => ?_
  rw [homesJoin, home_joined_of_none (stay e member), home_joined_of_none (stay f member')]
  exact pairing.joins_self []

include sunk

theorem pairsAcross_below :
    (pairsAcross (homesJoin pairing boundary (joined first entries part)) entries
        (Quadrant.all.flatMap fun q => (part q).contents)).Perm
      (Quadrant.all.flatMap fun q => pairsAbove pairing entries (part q).contents) := by
  cases pairing with
  | sameNode =>
      rw [pairsAcross_eq_nil]
      · simp [pairsAbove]
      · intro e member f inside
        obtain ⟨q, _, inside⟩ := List.mem_flatMap.mp inside
        rw [homesJoin, home_joined_of_none (stay e member), home_joined_of_some (sunk q f inside)]
        simp [Pairing.joins]
  | includeAncestors =>
      rw [pairsAcross_eq_pairsBetween]
      · exact pairsBetween_flatMap _ _ _
      · intro e member f inside
        rw [homesJoin, home_joined_of_none (stay e member)]
        simp [Pairing.joins]

omit stay

theorem pairsWhere_below :
    (pairsWhere (homesJoin pairing boundary (joined first entries part))
        (Quadrant.all.flatMap fun q => (part q).contents)).Perm
      (Quadrant.all.flatMap fun q =>
        pairsWhere (homesJoin pairing (boundary.quadrant q) (part q)) (part q).contents) := by
  have apart : Quadrant.all.Pairwise fun q r => ∀ d ∈ (part q).contents, ∀ e ∈ (part r).contents,
      homesJoin pairing boundary (joined first entries part) d e = false := by
    refine Quadrant.nodup_all.imp fun {q r} different d inside e inside' => ?_
    rw [homesJoin, home_joined_of_some (sunk q d inside), home_joined_of_some (sunk r e inside')]
    exact pairing.joins_cons_of_ne different _ _
  refine (pairsWhere_flatMap apart).trans (.of_eq (List.flatMap_congr fun q _ => ?_))
  refine pairsWhere_congr fun d inside e inside' => ?_
  rw [homesJoin, home_joined_of_some (sunk q d inside), home_joined_of_some (sunk q e inside')]
  exact pairing.joins_cons_self q _ _

end

theorem pairsWhere_joined (first : Nat) {entries : List (TreeEntry α)}
    {part : Quadrant → TreeNode α} (pairing : Pairing)
    (stay : ∀ e ∈ entries, onlyQuadrant? boundary e.bounds = none)
    (sunk : ∀ q, ∀ e ∈ (part q).contents, onlyQuadrant? boundary e.bounds = some q) :
    (pairsWhere (homesJoin pairing boundary (joined first entries part))
        (joined first entries part).contents).Perm
      (pairsWithin entries ++
        ((Quadrant.all.flatMap fun q => pairsAbove pairing entries (part q).contents) ++
          Quadrant.all.flatMap fun q =>
            pairsWhere (homesJoin pairing (boundary.quadrant q) (part q)) (part q).contents)) := by
  rw [contents_joined]
  refine (pairsWhere_append _ _).trans ?_
  rw [pairsWhere_entries pairing stay]
  refine List.Perm.append_left _ ?_
  exact (pairsAcross_below pairing stay sunk).append (pairsWhere_below pairing sunk)

/-- **The candidates at an arranged node and below it are one pair for every two entries whose
homes are joined, and one for every entry with every one above it that is paired with it.** -/
theorem Arranged.pairs_perm (arranged : Arranged capacity room boundary n) (pairing : Pairing)
    (above : List (TreeEntry α)) :
    (n.pairs pairing above).Perm
      (pairsWhere (homesJoin pairing boundary n) n.contents ++
        pairsAbove pairing above n.contents) := by
  induction arranged generalizing above with
  | @leaf room boundary entries fits =>
      have within : pairsWhere (homesJoin pairing boundary (.leaf entries)) entries =
          pairsWithin entries :=
        pairsWhere_eq_pairsWithin fun e _ f _ => pairing.joins_self []
      exact .of_eq (congrArg (· ++ pairsAbove pairing above entries) within.symm)
  | @joined room first boundary entries part stay sunk parts ih =>
      have own := pairsWhere_joined first pairing stay sunk
      have outer := pairsAbove_contents pairing above entries first part
      have lower : (Quadrant.all.flatMap fun q => (part q).pairs pairing (above ++ entries)).Perm
          ((Quadrant.all.flatMap fun q =>
              pairsWhere (homesJoin pairing (boundary.quadrant q) (part q)) (part q).contents) ++
            ((Quadrant.all.flatMap fun q => pairsAbove pairing above (part q).contents) ++
              Quadrant.all.flatMap fun q => pairsAbove pairing entries (part q).contents)) := by
        refine (List.Perm.flatMap_left _ fun q _ => ih q (above ++ entries)).trans ?_
        simp only [pairsAbove_append]
        refine (List.flatMap_append_perm _ _ _).symm.trans (List.Perm.append_left _ ?_)
        exact (List.flatMap_append_perm _ _ _).symm
      rw [pairs_joined, here_eq]
      refine List.perm_iff_count.mpr fun p => ?_
      have own := own.count_eq p
      have outer := outer.count_eq p
      have lower := lower.count_eq p
      simp only [List.count_append] at own outer lower ⊢
      omega

end TreeNode

namespace QuadTree

variable [Scalar α] {t : QuadTree α} {held : List (TreeEntry α)}

/-- The path to the node where a box stops. -/
def home (t : QuadTree α) (bounds : Box α) : List Quadrant := t.root.home t.boundary bounds

/-- The node at the end of a path from the root keeps an entry. -/
def KeepsAt (t : QuadTree α) (e : TreeEntry α) (path : List Quadrant) : Prop :=
  ∃ v, t.nodeAt? path = some v ∧ e ∈ v.entries

/-- The pairs of a tree that keeps the given entries are as they should be. -/
structure PairsOnce (t : QuadTree α) (held : List (TreeEntry α)) (reported : List ColliderPair) :
    Prop where
  /-- Every two entries are one pair if their homes are joined, and none otherwise. -/
  pairs : reported.Perm (TreeNode.pairsWhere
    (fun e f => t.settings.pairing.joins (t.home e.bounds) (t.home f.bounds)) held)
  /-- With different colliders, no pair is there twice. -/
  nodup : (held.map TreeEntry.collider).Nodup → reported.Nodup
  /-- Pairing with ancestors keeps every pair of the same node. -/
  sameNode : ∃ same all, (t.setPairing .sameNode).query = .ok same ∧
    (t.setPairing .includeAncestors).query = .ok all ∧ same.Sublist all

theorem Holds.keepsAt_iff (holds : t.Holds held) (numbered : t.Numbered) {e : TreeEntry α}
    (member : e ∈ held) (path : List Quadrant) : t.KeepsAt e path ↔ path = t.home e.bounds := by
  have inside : e ∈ t.root.contents := holds.contents.mem_iff.mpr member
  refine Iff.trans ?_ (holds.arranged.mem_follow_iff inside 0 0 path)
  constructor
  · rintro ⟨v, found, kept⟩
    obtain ⟨s, there, rfl⟩ := numbered.nodeAt?_eq_some_iff.mp found
    exact ⟨s, there, kept⟩
  · rintro ⟨s, found, kept⟩
    exact ⟨s.view, numbered.nodeAt?_eq_some_iff.mpr ⟨s, found, rfl⟩, kept⟩

theorem Holds.pairs_perm (holds : t.Holds held) :
    t.pairs.Perm (TreeNode.pairsWhere
      (fun e f => t.settings.pairing.joins (t.home e.bounds) (t.home f.bounds)) held) := by
  have all := holds.arranged.pairs_perm t.settings.pairing []
  have none : TreeNode.pairsAbove t.settings.pairing [] t.root.contents = [] := by
    cases t.settings.pairing <;> rfl
  rw [none, List.append_nil] at all
  refine all.trans (TreeNode.pairsWhere_perm (fun e f => ?_) holds.contents)
  exact t.settings.pairing.joins_comm _ _

theorem Holds.pairsOnce (holds : t.Holds held) (walkable : t.settings.Walkable) :
    t.PairsOnce held t.pairs where
  pairs := holds.pairs_perm
  nodup different := by
    refine holds.pairs_perm.nodup_iff.mpr ?_
    exact (TreeNode.nodup_pairsWithin different).sublist (TreeNode.pairsWhere_sublist held)
  sameNode := ⟨_, _, query_of_walkable (t := t.setPairing .sameNode) walkable,
    query_of_walkable (t := t.setPairing .includeAncestors) walkable, t.root.sublist_pairs [] []⟩

/-- **A tree reports every two insertions once when the nodes that keep them are paired, and not
otherwise, whatever has been done to it, exactly when the depth limit lets a query answer.** An
entry is kept at its home and at no other node. -/
theorem pairs_once (boundary : Box α) (settings : TreeSettings) (edits : List (TreeEdit α)) :
    let t := (empty boundary settings).edited edits
    let held := TreeEdit.insertions edits
    (∀ e ∈ held, ∀ path, t.KeepsAt e path ↔ path = t.home e.bounds) ∧
      ((∃ reported, t.query = .ok reported ∧ t.PairsOnce held reported) ↔
        settings.maxDepth + 1 < 2 ^ 60) := by
  intro t held
  have holds := holds_edited boundary settings edits
  refine ⟨fun e member => holds.keepsAt_iff (numbered_edited boundary settings edits) member, ?_⟩
  refine exists_query_edited_iff _ _ _ fun low => holds.pairsOnce ?_
  exact (walkable_edited boundary settings edits).mpr low

/-- With a depth limit that is as good as none, two entries of the root are not reported. -/
theorem unpaired_of_boundless :
    let t := (empty (.spanning ⟨-4, -4⟩ ⟨4, 4⟩) ⟨9223372036854775807, 2, .sameNode⟩).edited
      [.insert ⟨⟨⟨-1, -1⟩, ⟨1, 1⟩⟩, ⟨0, 0⟩⟩, .insert (⟨⟨⟨-2, -2⟩, ⟨2, 2⟩⟩, ⟨1, 0⟩⟩ :
        TreeEntry Float32)]
    t.settings.pairing.joins (t.home ⟨⟨-1, -1⟩, ⟨1, 1⟩⟩) (t.home ⟨⟨-2, -2⟩, ⟨2, 2⟩⟩) = true ∧
      t.query = .error .capacityOverflow :=
  ⟨by decide +kernel, query_edited _ _ _⟩

end QuadTree

end PlanarDynamics
