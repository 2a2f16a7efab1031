import PlanarDynamics.Proofs.BroadPhase.Edits
import PlanarDynamics.Proofs.Scalar.Binary32

/-!
# The broad phase misses no overlap

Two boxes that overlap are never kept in separate branches of a tree. Cut an axis at its
midpoint: a span that meets only the lower half and one that meets only the upper half do not
meet each other (`not_meet_of_halves`). This holds for spans and halves given the wrong way
round, and for a midpoint that is infinite. The midpoint is undefined only when an end of the
axis is infinite or undefined, and then nothing meets the half at that end.

So a tree that pairs entries with those above them has a candidate for every two entries whose
boxes overlap, after any sequence of changes. A query reports them exactly when the depth limit is
low enough for it to answer (`pairs_of_overlaps`).
-/

set_option autoImplicit false

namespace PlanarDynamics

/-! ## Spans and halves of an axis -/

section Spans

variable {α : Type} [Scalar α]

/-- Two spans share more than an end, each given by its lower and its upper end. -/
def SpansMeet (lo hi lo' hi' : α) : Prop := lo' < hi ∧ lo < hi'

/-- A span meets the upper or the lower half of an axis from `lo` to `hi`. -/
def MeetsHalf (lo hi : α) (upperHalf : Bool) (s t : α) : Prop :=
  let mid := (lo + hi) * (0.5 : α)
  if upperHalf then SpansMeet (Scalar.lower mid hi) (Scalar.upper mid hi) s t
  else SpansMeet (Scalar.lower lo mid) (Scalar.upper lo mid) s t

theorem SpansMeet.symm {lo hi lo' hi' : α} (h : SpansMeet lo hi lo' hi') :
    SpansMeet lo' hi' lo hi :=
  ⟨h.2, h.1⟩

theorem Box.overlaps_iff {a b : Box α} :
    a.overlaps b = true ↔
      SpansMeet a.lo.x a.hi.x b.lo.x b.hi.x ∧ SpansMeet a.lo.y a.hi.y b.lo.y b.hi.y := by
  simp [Box.overlaps, SpansMeet]

theorem Box.overlaps_comm (a b : Box α) : a.overlaps b = b.overlaps a := by
  rw [Bool.eq_iff_iff, overlaps_iff, overlaps_iff]
  exact ⟨fun h => ⟨h.1.symm, h.2.symm⟩, fun h => ⟨h.1.symm, h.2.symm⟩⟩

variable [OrderedScalar α]

/-- A span that meets only the lower half does not meet one that meets only the upper half. Nothing
compares with an undefined midpoint, so both ends of the axis would lie between others, and the
midpoint would be defined. With a defined midpoint, the upper half lies on one side of the first
span. -/
theorem not_meet_of_halves {lo hi a₀ a₁ b₀ b₁ : α} (aLow : MeetsHalf lo hi false a₀ a₁)
    (aNotHigh : ¬ MeetsHalf lo hi true a₀ a₁) (bHigh : MeetsHalf lo hi true b₀ b₁)
    (bNotLow : ¬ MeetsHalf lo hi false b₀ b₁) : ¬ SpansMeet a₀ a₁ b₀ b₁ := by
  have midpoint := OrderedScalar.isNumber_midpoint (a := lo) (b := hi)
  simp only [MeetsHalf, SpansMeet, Scalar.lt_upper_iff, Scalar.lower_lt_iff, if_true,
    Bool.false_eq_true, if_false, not_and_or, not_or] at aLow aNotHigh bHigh bNotLow
  generalize (lo + hi) * (0.5 : α) = mid at *
  rintro ⟨meet, meet'⟩
  cases undefined : Scalar.isNaN mid with
  | true =>
      have noLess : ∀ x, ¬ x < mid := fun x less => by
        simp [Scalar.isNumber_right less] at undefined
      have noGreater : ∀ x, ¬ mid < x := fun x less => by
        simp [Scalar.isNumber_left less] at undefined
      have aboutLo :=
        And.intro (aLow.1.resolve_right (noLess _)) (aLow.2.resolve_right (noGreater _))
      have aboutHi :=
        And.intro (bHigh.1.resolve_left (noLess _)) (bHigh.2.resolve_left (noGreater _))
      rw [midpoint ⟨_, _, aboutLo⟩ ⟨_, _, aboutHi⟩] at undefined
      cases undefined
  | false =>
      have aOrB := OrderedScalar.lt_or_lt meet' undefined
      have bOrA := OrderedScalar.lt_or_lt meet undefined
      rcases aNotHigh with ⟨notAboveMid, notAboveHi⟩ | ⟨notBelowMid, notBelowHi⟩
      · have bAbove := aOrB.resolve_left notAboveMid
        obtain ⟨notBelowLo, notBelow⟩ := bNotLow.resolve_right fun h => h.2 bAbove
        have bHi := bHigh.1.resolve_left notBelow
        have aLo := aLow.1.resolve_right notAboveMid
        have loHi :=
          (OrderedScalar.lt_or_lt bHi (Scalar.isNumber_right aLo)).resolve_left notBelowLo
        exact notAboveHi (Scalar.lt_trans aLo loHi)
      · have bBelow := bOrA.resolve_right notBelowMid
        obtain ⟨notAboveLo, notAbove⟩ := bNotLow.resolve_left fun h => h.2 bBelow
        have hiB := bHigh.2.resolve_left notAbove
        have loA := aLow.2.resolve_right notBelowMid
        have hiLo :=
          (OrderedScalar.lt_or_lt hiB (Scalar.isNumber_left loA)).resolve_right notAboveLo
        exact notBelowHi (Scalar.lt_trans hiLo loA)

end Spans

/-! ## Boxes in different quadrants -/

namespace Quadrant

/-- Whether the quadrant is on the right. -/
def isRight : Quadrant → Bool
  | bottomLeft | topLeft => false
  | bottomRight | topRight => true

/-- Whether the quadrant is at the top. -/
def isTop : Quadrant → Bool
  | bottomLeft | bottomRight => false
  | topLeft | topRight => true

/-- The quadrant of two sides. -/
def ofSides (right top : Bool) : Quadrant :=
  match right, top with
  | false, false => bottomLeft
  | true, false => bottomRight
  | false, true => topLeft
  | true, true => topRight

@[simp] theorem isRight_ofSides (right top : Bool) : (ofSides right top).isRight = right := by
  cases right <;> cases top <;> rfl

@[simp] theorem isTop_ofSides (right top : Bool) : (ofSides right top).isTop = top := by
  cases right <;> cases top <;> rfl

@[simp] theorem ofSides_sides (q : Quadrant) : ofSides q.isRight q.isTop = q := by
  cases q <;> rfl

end Quadrant

variable {α : Type} [Scalar α]

theorem quadrant_overlaps_iff {boundary bounds : Box α} {q : Quadrant} :
    (boundary.quadrant q).overlaps bounds = true ↔
      MeetsHalf boundary.lo.x boundary.hi.x q.isRight bounds.lo.x bounds.hi.x ∧
        MeetsHalf boundary.lo.y boundary.hi.y q.isTop bounds.lo.y bounds.hi.y := by
  rw [Box.overlaps_iff]
  cases q <;> exact Iff.rfl

/-- A box has an only quadrant exactly when it overlaps that one and no other. -/
theorem onlyQuadrant?_eq_some_iff {boundary bounds : Box α} {q : Quadrant} :
    onlyQuadrant? boundary bounds = some q ↔
      ∀ r, (boundary.quadrant r).overlaps bounds = true ↔ r = q := by
  have single : onlyQuadrant? boundary bounds = some q ↔
      (Quadrant.all.filter fun r => (boundary.quadrant r).overlaps bounds) = [q] := by
    unfold onlyQuadrant?
    split
    case h_1 r equal => simp [equal]
    case h_2 others => simpa using others q
  rw [single, ← List.perm_singleton, List.perm_ext_iff_of_nodup
    (Quadrant.nodup_all.filter _) (by simp)]
  simp [Quadrant.mem_all]

/-- The spans of a box with an only quadrant meet one half of each axis. -/
theorem meetsHalf_iff_of_onlyQuadrant? {boundary bounds : Box α} {q : Quadrant}
    (only : onlyQuadrant? boundary bounds = some q) :
    (∀ side, MeetsHalf boundary.lo.x boundary.hi.x side bounds.lo.x bounds.hi.x ↔
      side = q.isRight) ∧
    ∀ side, MeetsHalf boundary.lo.y boundary.hi.y side bounds.lo.y bounds.hi.y ↔
      side = q.isTop := by
  have overlap := onlyQuadrant?_eq_some_iff.mp only
  simp only [quadrant_overlaps_iff] at overlap
  obtain ⟨meetsX, meetsY⟩ := (overlap q).mpr rfl
  constructor
  · intro side
    refine ⟨fun meets => ?_, fun same => same ▸ meetsX⟩
    have equal := (overlap (.ofSides side q.isTop)).mp (by simpa using ⟨meets, meetsY⟩)
    simpa using congrArg Quadrant.isRight equal
  · intro side
    refine ⟨fun meets => ?_, fun same => same ▸ meetsY⟩
    have equal := (overlap (.ofSides q.isRight side)).mp (by simpa using ⟨meetsX, meets⟩)
    simpa using congrArg Quadrant.isTop equal

section Apart

variable [OrderedScalar α]

/-- Spans that meet different halves of an axis, and only those, do not meet each other. -/
theorem not_meet_of_sides {lo hi a₀ a₁ b₀ b₁ : α} {side side' : Bool} (different : side ≠ side')
    (first : ∀ s, MeetsHalf lo hi s a₀ a₁ ↔ s = side)
    (second : ∀ s, MeetsHalf lo hi s b₀ b₁ ↔ s = side') : ¬ SpansMeet a₀ a₁ b₀ b₁ := by
  cases side <;> cases side' <;> simp at different
  · exact not_meet_of_halves ((first _).mpr rfl) (fun h => absurd ((first _).mp h) (by decide))
      ((second _).mpr rfl) fun h => absurd ((second _).mp h) (by decide)
  · exact fun meet => not_meet_of_halves ((second _).mpr rfl)
      (fun h => absurd ((second _).mp h) (by decide)) ((first _).mpr rfl)
      (fun h => absurd ((first _).mp h) (by decide)) meet.symm

/-- **Boxes that belong to different quadrants do not overlap.** -/
theorem not_overlaps_of_onlyQuadrant? {boundary a b : Box α} {q r : Quadrant}
    (first : onlyQuadrant? boundary a = some q) (second : onlyQuadrant? boundary b = some r)
    (different : q ≠ r) : ¬ a.overlaps b = true := by
  obtain ⟨firstX, firstY⟩ := meetsHalf_iff_of_onlyQuadrant? first
  obtain ⟨secondX, secondY⟩ := meetsHalf_iff_of_onlyQuadrant? second
  intro overlap
  obtain ⟨meetX, meetY⟩ := Box.overlaps_iff.mp overlap
  refine different ?_
  rw [← Quadrant.ofSides_sides q, ← Quadrant.ofSides_sides r]
  congr 1
  · exact Classical.byContradiction fun h => not_meet_of_sides h firstX secondX meetX
  · exact Classical.byContradiction fun h => not_meet_of_sides h firstY secondY meetY

end Apart

/-! ## The reported pairs of a node -/

namespace TreeNode

variable {above : List (TreeEntry α)}

omit [Scalar α] in
theorem mem_pairsBetween {upper lower : List (TreeEntry α)} {e f : TreeEntry α}
    (he : e ∈ upper) (hf : f ∈ lower) :
    ColliderPair.of e.collider f.collider ∈ pairsBetween upper lower :=
  List.mem_flatMap.mpr ⟨e, he, List.mem_map.mpr ⟨f, hf, rfl⟩⟩

omit [Scalar α] in
/-- Entries of one node are paired. -/
theorem pairwise_pairsWithin (entries : List (TreeEntry α)) :
    entries.Pairwise fun e f => ColliderPair.of e.collider f.collider ∈ pairsWithin entries := by
  induction entries with
  | nil => exact .nil
  | cons e es ih =>
      refine List.pairwise_cons.mpr ⟨fun f member => ?_, ih.imp fun mem => ?_⟩
      · exact List.mem_append_left _ (List.mem_map.mpr ⟨f, member, rfl⟩)
      · exact List.mem_append_right _ mem

omit [Scalar α] in
/-- An entry is paired with the entries above it. -/
theorem mem_pairs_of_above {e f : TreeEntry α} {n : TreeNode α} {above : List (TreeEntry α)}
    (he : e ∈ above) (hf : f ∈ n.contents) :
    ColliderPair.of e.collider f.collider ∈ n.pairs .includeAncestors above := by
  induction n using joined_induction generalizing above with
  | leaf entries => exact List.mem_append_right _ (mem_pairsBetween he hf)
  | joined first entries part ih =>
      rw [contents_joined] at hf
      rw [pairs_joined]
      rcases List.mem_append.mp hf with here | below
      · exact List.mem_append_left _ (List.mem_append_right _ (mem_pairsBetween he here))
      · obtain ⟨q, member, hf⟩ := List.mem_flatMap.mp below
        exact List.mem_append_right _
          (List.mem_flatMap.mpr ⟨q, member, ih q (List.mem_append_left _ he) hf⟩)

/-- **An arranged node reports every two of its entries whose boxes overlap.** Entries of different
quadrants are not paired, and do not overlap. -/
theorem Arranged.pairwise_pairs [OrderedScalar α] {capacity room : Nat} {boundary : Box α}
    {n : TreeNode α} (arranged : Arranged capacity room boundary n)
    (above : List (TreeEntry α)) :
    n.contents.Pairwise fun e f => e.bounds.overlaps f.bounds = true →
      ColliderPair.of e.collider f.collider ∈ n.pairs .includeAncestors above := by
  induction arranged generalizing above with
  | leaf fits =>
      exact (pairwise_pairsWithin _).imp fun mem _ => List.mem_append_left _ mem
  | @joined room first boundary entries part stay sunk parts ih =>
      rw [contents_joined, pairs_joined]
      refine List.pairwise_append.mpr ⟨?_, List.pairwise_flatMap.mpr ⟨?_, ?_⟩, ?_⟩
      · exact (pairwise_pairsWithin entries).imp fun mem _ =>
          List.mem_append_left _ (List.mem_append_left _ mem)
      · intro q member
        exact (ih q (above ++ entries)).imp fun mem overlap =>
          List.mem_append_right _ (List.mem_flatMap.mpr ⟨q, member, mem overlap⟩)
      · exact Quadrant.nodup_all.imp fun different e he f hf overlap =>
          absurd overlap (not_overlaps_of_onlyQuadrant? (sunk _ e he) (sunk _ f hf) different)
      · intro e he f hf _
        obtain ⟨q, member, hf⟩ := List.mem_flatMap.mp hf
        exact List.mem_append_right _ (List.mem_flatMap.mpr
          ⟨q, member, mem_pairs_of_above (List.mem_append_right _ he) hf⟩)

end TreeNode

/-! ## The reported pairs of a tree -/

namespace QuadTree

/-- A tree reports two entries if their boxes overlap. -/
def Reports (t : QuadTree α) (e f : TreeEntry α) : Prop :=
  e.bounds.overlaps f.bounds = true → ColliderPair.of e.collider f.collider ∈ t.pairs

theorem Reports.symm {t : QuadTree α} {e f : TreeEntry α} (reports : t.Reports e f) :
    t.Reports f e := by
  intro overlap
  rw [ColliderPair.of_comm]
  exact reports ((Box.overlaps_comm e.bounds f.bounds).trans overlap)

instance (t : QuadTree α) : Std.Symm t.Reports := ⟨fun _ _ => Reports.symm⟩

/-- A tree that pairs with ancestors reports every two of the entries it holds. -/
theorem Holds.pairwise_reports [OrderedScalar α] {t : QuadTree α} {held : List (TreeEntry α)}
    (holds : t.Holds held) (mode : t.settings.pairing = .includeAncestors) :
    held.Pairwise t.Reports := by
  refine (holds.contents.pairwise_iff Reports.symm).mp ?_
  have kept := holds.arranged.pairwise_pairs []
  rwa [← mode] at kept

/-- **Any two insertions whose boxes overlap are reported, exactly when the depth limit lets a query
answer.** The boundary, the number of entries that a leaf holds and the boxes are arbitrary, and so
is what happened to the tree before. -/
theorem pairs_of_overlaps (boundary : Box Float32) (settings : TreeSettings)
    (edits : List (TreeEdit Float32))
    (mode : ((empty boundary settings).edited edits).settings.pairing = .includeAncestors) :
    (∃ reported, ((empty boundary settings).edited edits).query = .ok reported ∧
      ∀ (i j : Nat) (e f : TreeEntry Float32), i ≠ j →
        (TreeEdit.insertions edits)[i]? = some e → (TreeEdit.insertions edits)[j]? = some f →
        e.bounds.overlaps f.bounds = true →
        ColliderPair.of e.collider f.collider ∈ reported) ↔
      settings.maxDepth + 1 < 2 ^ 60 := by
  have reported := (holds_edited boundary settings edits).pairwise_reports mode
  rw [List.pairwise_iff_getElem] at reported
  refine exists_query_edited_iff _ _ _ fun _ i j e f different first second overlap => ?_
  generalize (empty boundary settings).edited edits = t at *
  obtain ⟨hi, rfl⟩ := List.getElem?_eq_some_iff.mp first
  obtain ⟨hj, rfl⟩ := List.getElem?_eq_some_iff.mp second
  rcases Nat.lt_or_gt_of_ne different with before | after
  · exact reported i j hi hj before overlap
  · exact Reports.symm (reported j i hj hi after) overlap

/-- A tree that is emptied once, over a boundary whose midpoint overflows. -/
def overflowingEdits : List (TreeEdit Float32) :=
  [.insert ⟨⟨⟨0, 0⟩, ⟨1, 1⟩⟩, ⟨7, 0⟩⟩, .clear, .setPairing .includeAncestors,
    .insert ⟨⟨⟨2e38, 2e38⟩, ⟨3.2e38, 3.2e38⟩⟩, ⟨0, 0⟩⟩,
    .insert ⟨⟨⟨3e38, 3e38⟩, ⟨3.3e38, 3.3e38⟩⟩, ⟨1, 4⟩⟩]

theorem pairs_of_overlaps_overflowing :
    let t := (empty ⟨⟨3e38, 2e38⟩, ⟨3.4e38, 3.4e38⟩⟩ ⟨3, 0, .sameNode⟩).edited overflowingEdits
    (TreeEdit.insertions overflowingEdits)[0]? =
        some ⟨⟨⟨2e38, 2e38⟩, ⟨3.2e38, 3.2e38⟩⟩, ⟨0, 0⟩⟩ ∧
      (TreeEdit.insertions overflowingEdits)[1]? =
        some ⟨⟨⟨3e38, 3e38⟩, ⟨3.3e38, 3.3e38⟩⟩, ⟨1, 4⟩⟩ ∧
      (⟨⟨2e38, 2e38⟩, ⟨3.2e38, 3.2e38⟩⟩ : Box Float32).overlaps
        ⟨⟨3e38, 3e38⟩, ⟨3.3e38, 3.3e38⟩⟩ = true ∧
      t.settings.pairing = .includeAncestors ∧
      ∃ reported, t.query = .ok reported ∧ ColliderPair.of ⟨0, 0⟩ ⟨1, 4⟩ ∈ reported := by
  have overlap : (⟨⟨2e38, 2e38⟩, ⟨3.2e38, 3.2e38⟩⟩ : Box Float32).overlaps
      ⟨⟨3e38, 3e38⟩, ⟨3.3e38, 3.3e38⟩⟩ = true := by decide +kernel
  obtain ⟨reported, answered, all⟩ :=
    (pairs_of_overlaps ⟨⟨3e38, 2e38⟩, ⟨3.4e38, 3.4e38⟩⟩ ⟨3, 0, .sameNode⟩ overflowingEdits
      rfl).mpr (by decide)
  exact ⟨rfl, rfl, overlap, rfl, reported, answered,
    all 0 1 _ _ (by decide) rfl rfl overlap⟩

/-- Two boxes that overlap. -/
def overlappingEdits : List (TreeEdit Float32) :=
  [.insert ⟨⟨⟨0, 0⟩, ⟨2, 2⟩⟩, ⟨0, 0⟩⟩, .insert ⟨⟨⟨1, 1⟩, ⟨3, 3⟩⟩, ⟨1, 0⟩⟩]

/-- With a depth limit that is as good as none, a query crashes on two boxes that overlap. -/
theorem unreported_of_boundless :
    let t := (empty ⟨⟨-4, -4⟩, ⟨4, 4⟩⟩ ⟨9223372036854775807, 16, .includeAncestors⟩).edited
      overlappingEdits
    TreeEdit.insertions overlappingEdits =
        [⟨⟨⟨0, 0⟩, ⟨2, 2⟩⟩, ⟨0, 0⟩⟩, ⟨⟨⟨1, 1⟩, ⟨3, 3⟩⟩, ⟨1, 0⟩⟩] ∧
      (⟨⟨0, 0⟩, ⟨2, 2⟩⟩ : Box Float32).overlaps ⟨⟨1, 1⟩, ⟨3, 3⟩⟩ = true ∧
      t.settings.pairing = .includeAncestors ∧ t.query = .error .capacityOverflow :=
  ⟨rfl, by decide +kernel, rfl, query_edited _ _ overlappingEdits⟩

end QuadTree

end PlanarDynamics
