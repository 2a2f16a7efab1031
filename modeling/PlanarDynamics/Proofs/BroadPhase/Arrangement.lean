import Mathlib.Data.List.Perm.Basic
import Mathlib.Logic.Function.Basic
import PlanarDynamics.BroadPhase.QuadTree

/-!
# Where entries are kept

An entry of a tree is kept where its box stops: below a split it lies in a quadrant exactly when
that is the only quadrant its box overlaps, and a leaf that may still split holds no more entries
than its capacity. `Arranged` says this of a node and everything below it.

What an insertion may do to a node, whatever splits on the way, is said once, by `Takes`
(`TreeNode.takes_insert`). Taking an entry adds it to the contents of the node and keeps the node
arranged (`Takes.contents`, `Takes.arranged`). Splits are handled by quadrant: `joined` builds a
split node from one node for each quadrant, so that one argument serves all four.
-/

set_option autoImplicit false

namespace PlanarDynamics

theorem Quadrant.nodup_all : Quadrant.all.Nodup := by decide

namespace TreeNode

variable {α : Type}

/-! ## Split nodes by quadrant -/

/-- A node with the given nodes for its quadrants. -/
def joined (first : Nat) (entries : List (TreeEntry α)) (part : Quadrant → TreeNode α) :
    TreeNode α :=
  split first entries (part .bottomLeft) (part .bottomRight) (part .topLeft) (part .topRight)

/-- Four nodes by their quadrants. -/
def quarters (bl br tl tr : TreeNode α) : Quadrant → TreeNode α
  | .bottomLeft => bl
  | .bottomRight => br
  | .topLeft => tl
  | .topRight => tr

/-- Every node is a leaf or joined from four nodes. -/
theorem joined_induction {motive : TreeNode α → Prop} (leaf : ∀ entries, motive (leaf entries))
    (joined : ∀ first entries part, (∀ q, motive (part q)) → motive (joined first entries part))
    (n : TreeNode α) : motive n := by
  induction n with
  | leaf entries => exact leaf entries
  | split first entries bl br tl tr hbl hbr htl htr =>
      refine joined first entries (quarters bl br tl tr) fun q => ?_
      cases q with
      | bottomLeft => exact hbl
      | bottomRight => exact hbr
      | topLeft => exact htl
      | topRight => exact htr

theorem joined_inj {first first' : Nat} {entries entries' : List (TreeEntry α)}
    {part part' : Quadrant → TreeNode α}
    (h : joined first entries part = joined first' entries' part') :
    first = first' ∧ entries = entries' ∧ part = part' := by
  simp only [joined, split.injEq] at h
  obtain ⟨hfirst, hentries, bl, br, tl, tr⟩ := h
  refine ⟨hfirst, hentries, funext fun q => ?_⟩
  cases q with
  | bottomLeft => exact bl
  | bottomRight => exact br
  | topLeft => exact tl
  | topRight => exact tr

/-- The entries kept at a node or anywhere below it. -/
def contents : TreeNode α → List (TreeEntry α)
  | leaf entries => entries
  | split _ entries bl br tl tr =>
    entries ++ (bl.contents ++ (br.contents ++ (tl.contents ++ tr.contents)))

theorem contents_joined (first : Nat) (entries : List (TreeEntry α))
    (part : Quadrant → TreeNode α) :
    (joined first entries part).contents =
      entries ++ Quadrant.all.flatMap fun q => (part q).contents := by
  simp [joined, contents, Quadrant.all]

theorem contents_empty (first : Nat) :
    (joined first [] fun _ => (leaf [] : TreeNode α)).contents = [] := by
  simp [contents_joined, contents]

theorem pairs_joined (pairing : Pairing) (above : List (TreeEntry α)) (first : Nat)
    (entries : List (TreeEntry α)) (part : Quadrant → TreeNode α) :
    (joined first entries part).pairs pairing above =
      pairs.here pairing above entries ++
        Quadrant.all.flatMap fun q => (part q).pairs pairing (above ++ entries) := by
  simp [joined, pairs, Quadrant.all]

/-- What is added in one of several quadrants is added to what they have together. -/
theorem flatMap_update {β γ : Type} (f : Quadrant → γ → List β) {part : Quadrant → γ} {q : Quadrant}
    {n : γ} {added : List β} (h : (f q n).Perm (added ++ f q (part q))) :
    ∀ {l : List Quadrant}, l.Nodup → q ∈ l →
      (l.flatMap fun r => f r (Function.update part q n r)).Perm
        (added ++ l.flatMap fun r => f r (part r))
  | [], _, member => by cases member
  | r :: rest, nodup, member => by
      obtain ⟨fresh, nodup⟩ := List.nodup_cons.mp nodup
      simp only [List.flatMap_cons]
      by_cases same : r = q
      · subst same
        have others : ∀ s ∈ rest, f s (Function.update part r n s) = f s (part s) :=
          fun s member => by rw [Function.update_of_ne (ne_of_mem_of_not_mem member fresh)]
        rw [Function.update_self, List.flatMap_congr others, ← List.append_assoc]
        exact h.append_right _
      · rw [Function.update_of_ne same]
        have inRest := (List.mem_cons.mp member).resolve_left fun equal => same equal.symm
        exact ((flatMap_update f h nodup inRest).append_left _).trans
          (List.perm_append_comm_assoc _ _ _)

/-- Adding an entry in one quadrant adds it to the contents of the node. -/
theorem contents_update {first : Nat} {entries : List (TreeEntry α)}
    {part : Quadrant → TreeNode α} {q : Quadrant} {e : TreeEntry α} {n : TreeNode α}
    (h : n.contents.Perm (e :: (part q).contents)) :
    (joined first entries (Function.update part q n)).contents.Perm
      (e :: (joined first entries part).contents) := by
  have added : n.contents.Perm ([e] ++ (part q).contents) := h
  have together := flatMap_update (fun _ => TreeNode.contents) added Quadrant.nodup_all
    (Quadrant.mem_all q)
  rw [contents_joined, contents_joined]
  exact (together.append_left _).trans List.perm_middle

variable [Scalar α]

/-- An entry that enters a split node goes to the one quadrant it overlaps, or stays. -/
theorem sink_joined (boundary : Box α)
    (descend : Nat → Quadrant → TreeEntry α → TreeNode α → Recorded Subdivision Nat (TreeNode α))
    (first : Nat) (entries : List (TreeEntry α)) (part : Quadrant → TreeNode α)
    (e : TreeEntry α) :
    sink boundary descend (joined first entries part) e =
      match onlyQuadrant? boundary e.bounds with
      | none => pure (joined first (entries ++ [e]) part)
      | some q => do
        return joined first entries
          (Function.update part q (← descend (first + q.index) q e (part q))) := by
  cases h : onlyQuadrant? boundary e.bounds with
  | none => simp [sink, joined, h, keep]
  | some q => cases q <;> simp [sink, joined, h, Quadrant.index]

/-! ## Inserting -/

/-- How entries come to a node one after the other, with the number of the next node before and
after. An entry is kept at a node that may not split, by a leaf with room for it, and by a split
node from which it does not sink. A full leaf opens and takes all its entries anew. -/
inductive Takes (capacity : Nat) :
    Nat → Box α → List (TreeEntry α) → TreeNode α → Nat → TreeNode α → Nat → Prop
  | nil {room s : Nat} {boundary : Box α} {n : TreeNode α} :
      Takes capacity room boundary [] n s n s
  | cons {room s s₁ s' : Nat} {boundary : Box α} {e : TreeEntry α} {es : List (TreeEntry α)}
      {n n₁ n' : TreeNode α} (first : Takes capacity room boundary [e] n s n₁ s₁)
      (rest : Takes capacity room boundary es n₁ s₁ n' s') :
      Takes capacity room boundary (e :: es) n s n' s'
  | keep {s : Nat} {boundary : Box α} {e : TreeEntry α} {n : TreeNode α} :
      Takes capacity 0 boundary [e] n s (n.keep e) s
  | fit {room s : Nat} {boundary : Box α} {e : TreeEntry α} {entries : List (TreeEntry α)}
      (fits : entries.length < capacity) :
      Takes capacity (room + 1) boundary [e] (leaf entries) s (leaf (entries ++ [e])) s
  | divide {room s s' : Nat} {boundary : Box α} {e : TreeEntry α} {entries : List (TreeEntry α)}
      {n' : TreeNode α} (full : capacity ≤ entries.length)
      (anew : Takes capacity (room + 1) boundary (entries ++ [e])
        (joined s [] fun _ => leaf []) (s + 4) n' s') :
      Takes capacity (room + 1) boundary [e] (leaf entries) s n' s'
  | stay {room s first : Nat} {boundary : Box α} {e : TreeEntry α}
      {entries : List (TreeEntry α)} {part : Quadrant → TreeNode α}
      (none : onlyQuadrant? boundary e.bounds = none) :
      Takes capacity (room + 1) boundary [e] (joined first entries part) s
        (joined first (entries ++ [e]) part) s
  | sink {room s s' first : Nat} {boundary : Box α} {e : TreeEntry α} {q : Quadrant}
      {entries : List (TreeEntry α)} {part : Quadrant → TreeNode α} {n' : TreeNode α}
      (only : onlyQuadrant? boundary e.bounds = some q)
      (below : Takes capacity room (boundary.quadrant q) [e] (part q) s n' s') :
      Takes capacity (room + 1) boundary [e] (joined first entries part) s
        (joined first entries (Function.update part q n')) s'

variable {capacity room : Nat} {boundary : Box α}
  {descend : Nat → Quadrant → TreeEntry α → TreeNode α → Recorded Subdivision Nat (TreeNode α)}

/-- A way to put entries into nodes with `room` further splits. -/
def Descends (capacity room : Nat) (boundary : Box α)
    (descend : Nat → Quadrant → TreeEntry α → TreeNode α → Recorded Subdivision Nat (TreeNode α)) :
    Prop :=
  ∀ i q e n s, Takes capacity room (boundary.quadrant q) [e] n s ((descend i q e n).run s).answer
    ((descend i q e n).run s).state

/-- An entry put into a split node leaves a split node that has taken it. -/
theorem takes_sink (descends : Descends capacity room boundary descend) (first : Nat)
    (entries : List (TreeEntry α)) (part : Quadrant → TreeNode α) (e : TreeEntry α) (s : Nat) :
    ∃ entries' part' s',
      ((TreeNode.sink boundary descend (joined first entries part) e).run s).answer =
        joined first entries' part' ∧
      ((TreeNode.sink boundary descend (joined first entries part) e).run s).state = s' ∧
      Takes capacity (room + 1) boundary [e] (joined first entries part) s
        (joined first entries' part') s' := by
  rw [sink_joined]
  cases only : onlyQuadrant? boundary e.bounds with
  | none => exact ⟨entries ++ [e], part, s, rfl, rfl, .stay only⟩
  | some q =>
      exact ⟨entries, _, _, rfl, rfl, .sink only (descends (first + q.index) q e (part q) s)⟩

/-- Entries put into a split node one after the other are all taken. -/
theorem takes_foldlM_sink (descends : Descends capacity room boundary descend) (first : Nat)
    (es entries : List (TreeEntry α)) (part : Quadrant → TreeNode α) (s : Nat) :
    let out := (es.foldlM (TreeNode.sink boundary descend) (joined first entries part)).run s
    Takes capacity (room + 1) boundary es (joined first entries part) s out.answer out.state := by
  induction es generalizing entries part s with
  | nil => exact .nil
  | cons e es ih =>
      obtain ⟨entries', part', s', answer, state, takes⟩ :=
        takes_sink descends first entries part e s
      simp only [List.foldlM_cons, Recorded.answer_bind, Recorded.state_bind, answer, state]
      exact .cons takes (ih entries' part' s')

/-- **Inserting an entry makes a node take it.** -/
theorem takes_insert (capacity : Nat) :
    ∀ (room index depth : Nat) (boundary : Box α) (e : TreeEntry α) (n : TreeNode α) (s : Nat),
      let out := (insert capacity room index depth boundary e n).run s
      Takes capacity room boundary [e] n s out.answer out.state
  | 0, index, depth, boundary, e, n, s => .keep
  | room + 1, index, depth, boundary, e, n, s => by
      have descends : Descends capacity room boundary fun child q =>
          insert capacity room child (depth + 1) (boundary.quadrant q) :=
        fun i q e n s => takes_insert capacity room i (depth + 1) (boundary.quadrant q) e n s
      cases n with
      | leaf entries =>
          by_cases full : entries.length + 1 > capacity
          · simp only [insert, full, if_true]
            exact .divide (by omega)
              (takes_foldlM_sink descends s (entries ++ [e]) [] (fun _ => leaf []) (s + 4))
          · simp only [insert, full, if_false]
            exact .fit (by omega)
      | split first entries bl br tl tr =>
          obtain ⟨entries', part', s', answer, state, takes⟩ :=
            takes_sink descends first entries (quarters bl br tl tr) e s
          dsimp only [insert]
          rw [← answer, ← state] at takes
          exact takes

/-! ## Contents of a node that takes entries -/

omit [Scalar α] in
theorem contents_keep (e : TreeEntry α) (n : TreeNode α) :
    (n.keep e).contents.Perm (e :: n.contents) := by
  cases n with
  | leaf entries => exact List.perm_append_comm
  | split first entries bl br tl tr =>
      simp only [keep, contents, List.append_assoc]
      exact List.perm_middle

/-- **The entries a node takes are added to its contents.** -/
theorem Takes.contents {es : List (TreeEntry α)} {n n' : TreeNode α} {s s' : Nat}
    (takes : Takes capacity room boundary es n s n' s') : n'.contents.Perm (es ++ n.contents) := by
  induction takes with
  | nil => exact .refl _
  | cons _ _ ih ih' => exact ih'.trans ((ih.append_left _).trans List.perm_middle)
  | keep => exact contents_keep _ _
  | fit => exact List.perm_append_comm
  | divide _ _ ih =>
      rw [contents_empty, List.append_nil] at ih
      exact ih.trans List.perm_append_comm
  | stay =>
      rw [contents_joined, contents_joined, List.append_assoc]
      exact List.perm_middle
  | sink _ _ ih => exact contents_update ih

/-! ## Arranged nodes -/

/-- The entries at a node and below it are where their boxes stop. The node may still split
`room` times on the way down. -/
inductive Arranged (capacity : Nat) : Nat → Box α → TreeNode α → Prop
  | leaf {room : Nat} {boundary : Box α} {entries : List (TreeEntry α)}
      (fits : 0 < room → entries.length ≤ capacity) :
      Arranged capacity room boundary (leaf entries)
  | joined {room first : Nat} {boundary : Box α} {entries : List (TreeEntry α)}
      {part : Quadrant → TreeNode α}
      (stay : ∀ e ∈ entries, onlyQuadrant? boundary e.bounds = none)
      (sunk : ∀ q, ∀ e ∈ (part q).contents, onlyQuadrant? boundary e.bounds = some q)
      (parts : ∀ q, Arranged capacity room (boundary.quadrant q) (part q)) :
      Arranged capacity (room + 1) boundary (joined first entries part)

theorem arranged_opened (first : Nat) :
    Arranged capacity (room + 1) boundary (joined first [] fun _ => (leaf [] : TreeNode α)) :=
  .joined (by simp) (by simp [TreeNode.contents]) fun _ => .leaf (by simp)

/-- What it means for a split node to be arranged. -/
theorem Arranged.of_joined {first : Nat} {entries : List (TreeEntry α)}
    {part : Quadrant → TreeNode α}
    (h : Arranged capacity (room + 1) boundary (TreeNode.joined first entries part)) :
    (∀ e ∈ entries, onlyQuadrant? boundary e.bounds = none) ∧
      (∀ q, ∀ e ∈ (part q).contents, onlyQuadrant? boundary e.bounds = some q) ∧
      ∀ q, Arranged capacity room (boundary.quadrant q) (part q) := by
  generalize same : TreeNode.joined first entries part = n at h
  cases h with
  | leaf fits => cases same
  | joined stay sunk parts =>
      obtain ⟨rfl, rfl, rfl⟩ := joined_inj same
      exact ⟨stay, sunk, parts⟩

/-- **Taking entries keeps a node arranged.** -/
theorem Takes.arranged {es : List (TreeEntry α)} {n n' : TreeNode α} {s s' : Nat}
    (takes : Takes capacity room boundary es n s n' s')
    (arranged : Arranged capacity room boundary n) : Arranged capacity room boundary n' := by
  induction takes with
  | nil => exact arranged
  | cons _ _ ih ih' => exact ih' (ih arranged)
  | keep =>
      cases arranged with
      | leaf fits => exact .leaf (by simp)
  | fit fits => exact .leaf fun _ => by simpa using Nat.succ_le_of_lt fits
  | divide _ _ ih => exact ih (arranged_opened _)
  | stay none =>
      obtain ⟨stay, sunk, parts⟩ := arranged.of_joined
      refine .joined (fun f member => ?_) sunk parts
      rcases List.mem_append.mp member with old | new
      · exact stay f old
      · rwa [List.mem_singleton.mp new]
  | @sink room s s' first boundary e q entries part n' only below ih =>
      obtain ⟨stay, sunk, parts⟩ := arranged.of_joined
      refine .joined stay ?_ ?_
      · refine (Function.forall_update_iff part fun r n => ∀ f ∈ n.contents,
          onlyQuadrant? boundary f.bounds = some r).mpr ⟨fun f member => ?_, fun r _ => sunk r⟩
        rcases List.mem_cons.mp (below.contents.subset member) with rfl | old
        · exact only
        · exact sunk q f old
      · exact (Function.forall_update_iff part fun r n =>
          Arranged capacity room (boundary.quadrant r) n).mpr ⟨ih (parts q), fun r _ => parts r⟩

end TreeNode

end PlanarDynamics
