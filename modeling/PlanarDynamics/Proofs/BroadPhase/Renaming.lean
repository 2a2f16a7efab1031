import PlanarDynamics.Proofs.BroadPhase.Arrangement
import PlanarDynamics.Proofs.Store.Renaming

/-!
# The broad phase does not notice generations

Handles whose generations are all ahead by the same offset are in the same order
(`ColliderPair.raise_lt_raise`), so pairs and sets of pairs may be renamed before or after anything
that is done to them (`ColliderPair.of_raise`, `PairSet.insert_raise`, `PairSet.ofList_raise`). A
tree arranges its entries by their boxes alone: inserting a renamed entry into a renamed tree gives
the renamed tree, with the same splits (`QuadTree.insert_raise`), and its candidates are the renamed
ones (`QuadTree.pairs_raise`).
-/

set_option autoImplicit false

namespace PlanarDynamics

variable {δ : Offsets}

/-! ## Pairs -/

namespace ColliderPair

variable {p q : ColliderPair}

/-- The pair of the colliders at the same places in a store that is ahead. -/
def raise (δ : Offsets) (p : ColliderPair) : ColliderPair :=
  ⟨p.first.raise δ, p.second.raise δ, Handle.raise_le_raise.mpr p.first_le_second⟩

@[simp] theorem first_raise (p : ColliderPair) : (p.raise δ).first = p.first.raise δ := rfl

@[simp] theorem second_raise (p : ColliderPair) : (p.raise δ).second = p.second.raise δ := rfl

@[simp] theorem raise_inj : p.raise δ = q.raise δ ↔ p = q := by
  simp only [ColliderPair.ext_iff, first_raise, second_raise, Handle.raise_inj]

/-- The order of pairs does not notice that their store is ahead. -/
@[simp] theorem raise_lt_raise : p.raise δ < q.raise δ ↔ p < q := by
  simp only [lt_def, le_def, first_raise, second_raise, Handle.raise_le_raise]

theorem of_raise (a b : ColliderRef) : of (a.raise δ) (b.raise δ) = (of a b).raise δ := by
  unfold of
  by_cases ordered : a ≤ b
  · rw [dif_pos ordered, dif_pos (Handle.raise_le_raise.mpr ordered)]
    rfl
  · rw [dif_neg ordered, dif_neg (mt Handle.raise_le_raise.mp ordered)]
    rfl

end ColliderPair

namespace PairSet

/-- The set with its pairs renamed. -/
def raise (δ : Offsets) (s : PairSet) : PairSet :=
  ⟨s.toList.map (ColliderPair.raise δ),
    s.ascending.map _ fun _ _ => ColliderPair.raise_lt_raise.mpr⟩

variable (s : PairSet) (p : ColliderPair)

@[simp] theorem toList_raise : (s.raise δ).toList = s.toList.map (ColliderPair.raise δ) := rfl

@[simp] theorem mem_raise : p.raise δ ∈ s.raise δ ↔ p ∈ s :=
  List.mem_map_of_injective fun _ _ => ColliderPair.raise_inj.mp

theorem insert_raise : (s.raise δ).insert (p.raise δ) = (s.insert p).raise δ := by
  have sorted : ∀ l : List ColliderPair, insertSorted (p.raise δ) (l.map (ColliderPair.raise δ)) =
      (insertSorted p l).map (ColliderPair.raise δ) := by
    intro l
    induction l with
    | nil => rfl
    | cons q rest ih =>
        simp only [List.map_cons, insertSorted, ColliderPair.raise_lt_raise, ColliderPair.raise_inj,
          ih]
        split
        · rfl
        · split <;> rfl
  exact PairSet.ext (sorted s.toList)

theorem filter_raise {keep keep' : ColliderPair → Bool}
    (same : ∀ p, keep (p.raise δ) = keep' p) :
    (s.raise δ).filter keep = (s.filter keep').raise δ := by
  refine PairSet.ext ?_
  show (s.toList.map (ColliderPair.raise δ)).filter keep =
    (s.toList.filter keep').map (ColliderPair.raise δ)
  rw [List.filter_map]
  exact congrArg _ (List.filter_congr fun p _ => same p)

theorem erase_raise : (s.raise δ).erase (p.raise δ) = (s.erase p).raise δ :=
  s.filter_raise fun _ => decide_eq_decide.mpr (not_congr ColliderPair.raise_inj)

theorem ofList_raise (l : List ColliderPair) :
    ofList (l.map (ColliderPair.raise δ)) = (ofList l).raise δ := by
  have from_ : ∀ s : PairSet, (l.map (ColliderPair.raise δ)).foldl insert (s.raise δ) =
      (l.foldl insert s).raise δ := by
    induction l with
    | nil => exact fun _ => rfl
    | cons p rest ih =>
        intro s
        rw [List.map_cons, List.foldl_cons, List.foldl_cons, insert_raise]
        exact ih _
  exact from_ empty

end PairSet

/-! ## Trees -/

variable {α : Type}

/-- The entry under another name. -/
def TreeEntry.raise (δ : Offsets) (e : TreeEntry α) : TreeEntry α :=
  ⟨e.bounds, e.collider.raise δ⟩

namespace TreeNode

/-- The node with all entries renamed. -/
def raise (δ : Offsets) : TreeNode α → TreeNode α
  | leaf entries => leaf (entries.map (TreeEntry.raise δ))
  | split first entries bl br tl tr =>
    split first (entries.map (TreeEntry.raise δ)) (bl.raise δ) (br.raise δ) (tl.raise δ)
      (tr.raise δ)

theorem joined_raise (first : Nat) (entries : List (TreeEntry α)) (part : Quadrant → TreeNode α) :
    (joined first entries part).raise δ =
      joined first (entries.map (TreeEntry.raise δ)) fun q => (part q).raise δ := rfl

theorem keep_raise (e : TreeEntry α) (n : TreeNode α) :
    (n.raise δ).keep (e.raise δ) = (n.keep e).raise δ := by
  cases n <;> simp only [raise, keep, List.map_append, List.map_cons, List.map_nil]

/-! ### Candidates -/

theorem pairsWithin_raise (es : List (TreeEntry α)) :
    pairsWithin (es.map (TreeEntry.raise δ)) = (pairsWithin es).map (ColliderPair.raise δ) := by
  induction es with
  | nil => rfl
  | cons e rest ih =>
      simp only [List.map_cons, pairsWithin, List.map_append, List.map_map, ih]
      congr 1
      exact List.map_congr_left fun f _ => ColliderPair.of_raise _ _

theorem pairsBetween_raise (upper lower : List (TreeEntry α)) :
    pairsBetween (upper.map (TreeEntry.raise δ)) (lower.map (TreeEntry.raise δ)) =
      (pairsBetween upper lower).map (ColliderPair.raise δ) := by
  simp only [pairsBetween, List.flatMap_map, List.map_flatMap, List.map_map]
  exact List.flatMap_congr fun e _ => List.map_congr_left fun f _ => ColliderPair.of_raise _ _

theorem here_raise (pairing : Pairing) (above entries : List (TreeEntry α)) :
    pairs.here pairing (above.map (TreeEntry.raise δ)) (entries.map (TreeEntry.raise δ)) =
      (pairs.here pairing above entries).map (ColliderPair.raise δ) := by
  unfold pairs.here
  rw [pairsWithin_raise, List.map_append]
  cases pairing with
  | sameNode => rfl
  | includeAncestors => rw [pairsBetween_raise]

theorem pairs_raise (pairing : Pairing) (above : List (TreeEntry α)) (n : TreeNode α) :
    (n.raise δ).pairs pairing (above.map (TreeEntry.raise δ)) =
      (n.pairs pairing above).map (ColliderPair.raise δ) := by
  induction n using joined_induction generalizing above with
  | leaf entries => exact here_raise pairing above entries
  | joined first entries part ih =>
      rw [joined_raise, pairs_joined, pairs_joined, here_raise, List.map_append, List.map_flatMap,
        ← List.map_append]
      congr 1
      exact List.flatMap_congr fun q _ => ih q (above ++ entries)

/-! ### Inserting -/

variable [Scalar α]

/-- Entries sink by their boxes, under whatever name. -/
theorem sink_raise {boundary : Box α}
    {descend : Nat → Quadrant → TreeEntry α → TreeNode α → Recorded Subdivision Nat (TreeNode α)}
    (below : ∀ i q e n, descend i q (e.raise δ) (n.raise δ) = raise δ <$> descend i q e n)
    (e : TreeEntry α) (n : TreeNode α) :
    sink boundary descend (n.raise δ) (e.raise δ) = raise δ <$> sink boundary descend n e := by
  have bounds : (e.raise δ).bounds = e.bounds := rfl
  cases n using joined_induction with
  | leaf entries =>
      have stays : ∀ m : List (TreeEntry α), ∀ f : TreeEntry α,
          sink boundary descend (leaf m) f = pure ((leaf m).keep f) := by
        intro m f
        cases h : onlyQuadrant? boundary f.bounds <;> simp [sink]
      rw [raise, stays, stays, map_pure, ← keep_raise]
      rfl
  | joined first entries part _ =>
      rw [joined_raise, sink_joined, sink_joined, bounds]
      cases onlyQuadrant? boundary e.bounds with
      | none =>
          rw [map_pure, joined_raise, List.map_append]
          rfl
      | some q =>
          simp only [below, map_bind, map_pure, bind_map_left, joined_raise,
            Function.apply_update fun _ => raise δ]

omit [Scalar α] in
theorem foldlM_raise {f : TreeNode α → TreeEntry α → Recorded Subdivision Nat (TreeNode α)}
    (each : ∀ e n, f (n.raise δ) (e.raise δ) = raise δ <$> f n e) (es : List (TreeEntry α))
    (n : TreeNode α) :
    (es.map (TreeEntry.raise δ)).foldlM f (n.raise δ) = raise δ <$> es.foldlM f n := by
  induction es generalizing n with
  | nil => rfl
  | cons e rest ih =>
      rw [List.map_cons, List.foldlM_cons, List.foldlM_cons, each, bind_map_left, map_bind]
      exact bind_congr ih

/-- **A node splits for an entry under whatever name.** -/
theorem insert_raise (capacity : Nat) :
    ∀ (room index depth : Nat) (boundary : Box α) (e : TreeEntry α) (n : TreeNode α),
      insert capacity room index depth boundary (e.raise δ) (n.raise δ) =
        raise δ <$> insert capacity room index depth boundary e n
  | 0, index, depth, boundary, e, n => by
      rw [insert, insert, keep_raise, map_pure]
  | room + 1, index, depth, boundary, e, n => by
      have below : ∀ i q e n, insert capacity room i (depth + 1) (boundary.quadrant q)
          (e.raise δ) (n.raise δ) = raise δ <$>
            insert capacity room i (depth + 1) (boundary.quadrant q) e n :=
        fun i q e n => insert_raise capacity room i (depth + 1) (boundary.quadrant q) e n
      cases n with
      | leaf entries =>
          have appended : entries.map (TreeEntry.raise δ) ++ [e.raise δ] =
              (entries ++ [e]).map (TreeEntry.raise δ) := by
            rw [List.map_append]
            rfl
          simp only [raise, insert, List.length_map, appended]
          split
          · have opens : ∀ first, (opened first : TreeNode α) = (opened first).raise δ :=
              fun _ => rfl
            simp only [map_bind]
            refine bind_congr fun first => bind_congr fun _ => bind_congr fun _ => ?_
            rw [← foldlM_raise (sink_raise below), ← opens]
          · rfl
      | split first entries bl br tl tr =>
          exact sink_raise below e (split first entries bl br tl tr)

end TreeNode

namespace QuadTree

/-- The tree with all entries renamed. -/
def raise (δ : Offsets) (t : QuadTree α) : QuadTree α := { t with root := t.root.raise δ }

theorem clear_raise (t : QuadTree α) : (t.raise δ).clear = t.clear.raise δ := rfl

theorem pairs_raise (t : QuadTree α) : (t.raise δ).pairs = t.pairs.map (ColliderPair.raise δ) :=
  t.root.pairs_raise t.settings.pairing []

/-- **Renamed entries are inserted as they are.** -/
theorem insert_raise [Scalar α] (e : TreeEntry α) (t : QuadTree α) :
    let out := (insert e).run t
    (insert (e.raise δ)).run (t.raise δ) = ⟨(), out.state.raise δ, out.notes⟩ := by
  have run_map : ∀ (m : Recorded Subdivision Nat (TreeNode α)) (s : Nat),
      (TreeNode.raise δ <$> m).run s =
        ⟨(m.run s).answer.raise δ, (m.run s).state, (m.run s).notes⟩ :=
    fun _ _ => Outcome.ext rfl rfl (List.append_nil _)
  have grown : (t.raise δ).root.insert t.settings.nodeCapacity t.settings.maxDepth 0 0 t.boundary
      (e.raise δ) = TreeNode.raise δ <$>
        t.root.insert t.settings.nodeCapacity t.settings.maxDepth 0 0 t.boundary e :=
    TreeNode.insert_raise _ _ _ _ _ e t.root
  show Outcome.mk _ _ _ = _
  simp only [raise] at grown ⊢
  rw [grown, run_map]
  rfl

end QuadTree

end PlanarDynamics
