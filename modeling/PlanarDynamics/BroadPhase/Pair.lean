import PlanarDynamics.Store.Handle

/-!
# Pairs of colliders

A `ColliderPair` is unordered: it keeps the lesser handle first, so both orders of two handles
give the same pair (`ColliderPair.of_comm`). Pairs are ordered by their first, then by their
second handle. A `PairSet` is a finite set of pairs as a strictly ascending list, so two equal
sets are the same list and a set is gone through in one order only.
-/

set_option autoImplicit false

namespace PlanarDynamics

/-- Two colliders in the order of their handles. -/
@[ext]
structure ColliderPair where
  first : ColliderRef
  second : ColliderRef
  first_le_second : first ≤ second
deriving DecidableEq

namespace ColliderPair

/-- The pair of two colliders. -/
def of (a b : ColliderRef) : ColliderPair :=
  if h : a ≤ b then ⟨a, b, h⟩ else ⟨b, a, (Handle.le_total a b).resolve_left h⟩

/-- Whether a collider is one of the two. -/
def contains (p : ColliderPair) (c : ColliderRef) : Bool := p.first = c || p.second = c

theorem of_comm (a b : ColliderRef) : of a b = of b a := by
  unfold of
  split <;> split
  · rename_i h₁ h₂
    exact ColliderPair.ext (Handle.le_antisymm h₁ h₂) (Handle.le_antisymm h₂ h₁)
  · rfl
  · rfl
  · rename_i h₁ h₂
    exact absurd ((Handle.le_total a b).resolve_left h₁) h₂

theorem contains_of (a b c : ColliderRef) : (of a b).contains c = (a = c || b = c) := by
  unfold of contains
  split
  · rfl
  · exact Bool.or_comm _ _

/-- Pairs are ordered by their first, then by their second handle. -/
instance : LE ColliderPair :=
  ⟨fun p q => p.first ≤ q.first ∧ (q.first ≤ p.first → p.second ≤ q.second)⟩

theorem le_def {p q : ColliderPair} :
    p ≤ q ↔ p.first ≤ q.first ∧ (q.first ≤ p.first → p.second ≤ q.second) :=
  Iff.rfl

instance (p q : ColliderPair) : Decidable (p ≤ q) := decidable_of_iff' _ le_def

/-- The strict order of pairs. -/
instance : LT ColliderPair := ⟨fun p q => p ≤ q ∧ ¬ q ≤ p⟩

theorem lt_def {p q : ColliderPair} : p < q ↔ p ≤ q ∧ ¬ q ≤ p := Iff.rfl

instance (p q : ColliderPair) : Decidable (p < q) := decidable_of_iff' _ lt_def

theorem le_total (p q : ColliderPair) : p ≤ q ∨ q ≤ p := by
  simp only [le_def, Handle.le_def]; omega

theorem le_trans {p q r : ColliderPair} (h₁ : p ≤ q) (h₂ : q ≤ r) : p ≤ r := by
  simp only [le_def, Handle.le_def] at *; omega

theorem le_antisymm {p q : ColliderPair} (h₁ : p ≤ q) (h₂ : q ≤ p) : p = q := by
  simp only [le_def, Handle.le_def] at *
  exact ColliderPair.ext (Handle.ext (by omega) (by omega)) (Handle.ext (by omega) (by omega))

theorem lt_trans {p q r : ColliderPair} (h₁ : p < q) (h₂ : q < r) : p < r :=
  ⟨le_trans h₁.1 h₂.1, fun h => h₁.2 (le_trans h₂.1 h)⟩

theorem lt_irrefl (p : ColliderPair) : ¬ p < p := fun h => h.2 h.1

theorem lt_or_eq_or_gt (p q : ColliderPair) : p < q ∨ p = q ∨ q < p := by
  by_cases h₁ : p ≤ q <;> by_cases h₂ : q ≤ p
  · exact Or.inr (Or.inl (le_antisymm h₁ h₂))
  · exact Or.inl ⟨h₁, h₂⟩
  · exact Or.inr (Or.inr ⟨h₂, h₁⟩)
  · exact absurd ((le_total p q).resolve_left h₁) h₂

end ColliderPair

/-- A finite set of pairs, listed in ascending order. -/
@[ext]
structure PairSet where
  toList : List ColliderPair
  ascending : toList.Pairwise (· < ·)
deriving DecidableEq

namespace PairSet

/-- No pairs. -/
def empty : PairSet := ⟨[], .nil⟩

instance : Membership ColliderPair PairSet := ⟨fun s p => p ∈ s.toList⟩

instance (p : ColliderPair) (s : PairSet) : Decidable (p ∈ s) :=
  inferInstanceAs (Decidable (p ∈ s.toList))

@[simp] theorem mem_toList {p : ColliderPair} {s : PairSet} : p ∈ s.toList ↔ p ∈ s := Iff.rfl

/-- The number of pairs. -/
def size (s : PairSet) : Nat := s.toList.length

/-- An ascending list with one more pair. -/
def insertSorted (p : ColliderPair) : List ColliderPair → List ColliderPair
  | [] => [p]
  | q :: qs => if p < q then p :: q :: qs else if p = q then q :: qs else q :: insertSorted p qs

theorem mem_insertSorted {p r : ColliderPair} {l : List ColliderPair} :
    r ∈ insertSorted p l ↔ r = p ∨ r ∈ l := by
  induction l with
  | nil => simp [insertSorted]
  | cons q qs ih =>
    unfold insertSorted
    split
    · simp
    · split
      · rename_i h
        subst h
        simp
      · simp only [List.mem_cons, ih]
        exact or_left_comm

theorem pairwise_insertSorted {p : ColliderPair} {l : List ColliderPair}
    (h : l.Pairwise (· < ·)) : (insertSorted p l).Pairwise (· < ·) := by
  induction l with
  | nil => simp [insertSorted]
  | cons q qs ih =>
    unfold insertSorted
    have hq := List.pairwise_cons.mp h
    split
    · rename_i hpq
      refine List.pairwise_cons.mpr ⟨fun r hr => ?_, h⟩
      rcases List.mem_cons.mp hr with rfl | hr
      · exact hpq
      · exact ColliderPair.lt_trans hpq (hq.1 r hr)
    · split
      · exact h
      · rename_i h₁ h₂
        refine List.pairwise_cons.mpr ⟨fun r hr => ?_, ih hq.2⟩
        rcases mem_insertSorted.mp hr with rfl | hr
        · exact ((ColliderPair.lt_or_eq_or_gt r q).resolve_left h₁).resolve_left h₂
        · exact hq.1 r hr

/-- The set with one more pair. -/
def insert (s : PairSet) (p : ColliderPair) : PairSet :=
  ⟨insertSorted p s.toList, pairwise_insertSorted s.ascending⟩

/-- The pairs of the set that pass a test. -/
def filter (s : PairSet) (keep : ColliderPair → Bool) : PairSet :=
  ⟨s.toList.filter keep, s.ascending.filter keep⟩

/-- The set without a pair. -/
def erase (s : PairSet) (p : ColliderPair) : PairSet := s.filter (· ≠ p)

@[simp] theorem mem_insert {s : PairSet} {p q : ColliderPair} :
    q ∈ s.insert p ↔ q = p ∨ q ∈ s :=
  mem_insertSorted

@[simp] theorem mem_filter {s : PairSet} {keep : ColliderPair → Bool} {q : ColliderPair} :
    q ∈ s.filter keep ↔ q ∈ s ∧ keep q = true :=
  List.mem_filter

@[simp] theorem mem_erase {s : PairSet} {p q : ColliderPair} : q ∈ s.erase p ↔ q ∈ s ∧ q ≠ p := by
  simp [erase]

/-- The pairs of a list, each once. -/
def ofList (l : List ColliderPair) : PairSet := l.foldl insert empty

@[simp] theorem not_mem_empty (p : ColliderPair) : ¬ p ∈ empty := List.not_mem_nil

theorem mem_foldl_insert {l : List ColliderPair} {s : PairSet} {q : ColliderPair} :
    q ∈ l.foldl insert s ↔ q ∈ l ∨ q ∈ s := by
  induction l generalizing s with
  | nil => simp
  | cons p ps ih =>
    simp only [List.foldl_cons, ih, mem_insert, List.mem_cons]
    exact ⟨fun h => by rcases h with h | h | h <;> simp [h],
      fun h => by rcases h with (h | h) | h <;> simp [h]⟩

@[simp] theorem mem_ofList {l : List ColliderPair} {q : ColliderPair} : q ∈ ofList l ↔ q ∈ l := by
  simp [ofList, mem_foldl_insert]

end PairSet

end PlanarDynamics
