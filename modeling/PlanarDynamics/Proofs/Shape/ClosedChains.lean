import Mathlib.Algebra.BigOperators.Group.List.Basic
import Mathlib.Algebra.Group.Hom.Basic
import Mathlib.Data.List.Rotate

/-!
# Sums around a closed chain

The edges of a closed chain join each vertex to the next one and the last to the first. A quantity
of the edges is added up by `around`. The sum does not depend on the vertex the chain starts with
(`around_rotate`), and walking the chain backwards takes every edge the other way
(`around_reverse`). Differences between the two ends of an edge cancel out around the chain
(`around_sub`).

A quantity that is nothing on the edges at the first vertex needs only the other edges, and these
are the far sides of the fan from that vertex (`around_cons_eq_fan`).
-/

set_option autoImplicit false

namespace PlanarDynamics

/-- What is added up along two lists is added up over their pairs. -/
theorem foldl_zip_add {V W M : Type} [AddCommMonoid M] (f : V → W → M) (l : List V) (l' : List W) :
    (l.zip l').foldl (fun sum e => sum + f e.1 e.2) 0 = (List.zipWith f l l').sum := by
  rw [← List.map_uncurry_zip_eq_zipWith, List.sum_eq_foldl, List.foldl_map]
  rfl

theorem rotateLeft_one {V : Type} (l : List V) : l.rotateLeft 1 = l.rotate 1 := by
  rcases l with _ | ⟨a, _ | ⟨b, l⟩⟩
  · rfl
  · exact (List.rotate_singleton a 1).symm
  · have large : ¬ (a :: b :: l).length ≤ 1 := by simp
    have rest : 1 % (a :: b :: l).length = 1 := Nat.mod_eq_of_lt (by simp)
    rw [List.rotateLeft, if_neg large, List.rotate_eq_drop_append_take_mod, rest]

section

variable {V W M : Type}

/-- A quantity of the edges of a closed chain, added up. -/
def around [AddCommMonoid M] (f : V → V → M) (l : List V) : M :=
  (List.zipWith f l (l.rotate 1)).sum

section Monoid

variable [AddCommMonoid M] (f g : V → V → M) (l : List V)

theorem around_rotate (n : Nat) : around f (l.rotate n) = around f l := by
  have turned : (l.rotate n).rotate 1 = (l.rotate 1).rotate n := by
    rw [List.rotate_rotate, List.rotate_rotate, Nat.add_comm]
  have edges : List.zipWith f (l.rotate n) ((l.rotate 1).rotate n) =
      (List.zipWith f l (l.rotate 1)).rotate n :=
    (List.zipWith_rotate_distrib f l (l.rotate 1) n (List.length_rotate l 1).symm).symm
  rw [around, turned, edges]
  exact (List.rotate_perm _ n).sum_eq

/-- A chain that is passed backwards is turned by all vertices but one, with its edges the other way
round. -/
theorem around_reverse : around f l.reverse = around (fun a b => f b a) l := by
  cases l with
  | nil => rfl
  | cons a l =>
      have turned : (a :: l).reverse.rotate 1 = ((a :: l).rotate l.length).reverse := by
        rw [List.reverse_rotate, List.length_cons, Nat.mod_eq_of_lt (Nat.lt_succ_self _),
          Nat.add_sub_cancel_left]
      have full : ((a :: l).rotate l.length).rotate 1 = a :: l := by
        rw [List.rotate_rotate]
        exact List.rotate_length (a :: l)
      have backwards : around f (a :: l).reverse =
          (List.zipWith (fun u v => f v u) ((a :: l).rotate l.length) (a :: l)).sum := by
        rw [around, turned, ← List.reverse_zipWith (by simp), List.sum_reverse, List.zipWith_comm]
      rw [backwards, ← around_rotate _ _ l.length, around, full]

theorem around_map (h : W → V) (l : List W) :
    around f (l.map h) = around (fun a b => f (h a) (h b)) l := by
  rw [around, ← List.map_rotate, List.zipWith_map]
  rfl

theorem around_add : around (fun a b => f a b + g a b) l = around f l + around g l := by
  have split : ∀ l l' : List V, (List.zipWith (fun a b => f a b + g a b) l l').sum =
      (List.zipWith f l l').sum + (List.zipWith g l l').sum := by
    intro l
    induction l with
    | nil => exact fun _ => (add_zero 0).symm
    | cons a l ih =>
        rintro (_ | ⟨b, l'⟩)
        · exact (add_zero 0).symm
        · simp only [List.zipWith_cons_cons, List.sum_cons, ih l', add_add_add_comm]
  exact split l (l.rotate 1)

theorem map_around {N : Type} [AddCommMonoid N] (φ : M →+ N) :
    φ (around f l) = around (fun a b => φ (f a b)) l := by
  rw [around, map_list_sum, List.map_zipWith]
  rfl

/-- The edges at the first vertex add nothing, so the fan from it is enough. -/
theorem around_cons_eq_fan {o : V} (starts : ∀ a, f o a = 0) (ends : ∀ a, f a o = 0) (l : List V) :
    around f (o :: l) = (List.zipWith f l l.tail).sum := by
  have path : ∀ (a : V) (l : List V),
      (List.zipWith f (a :: l) (l ++ [o])).sum = (List.zipWith f (a :: l) l).sum := by
    intro a l
    induction l generalizing a with
    | nil => simp [ends]
    | cons b l ih => simp only [List.cons_append, List.zipWith_cons_cons, List.sum_cons, ih b]
  have closed : around f (o :: l) = (List.zipWith f (o :: l) l).sum := by
    rw [around, List.rotate_cons_succ, List.rotate_zero]
    exact path o l
  rw [closed]
  cases l with
  | nil => rfl
  | cons b l => rw [List.zipWith_cons_cons, List.sum_cons, starts, zero_add, List.tail_cons]

end Monoid

section Group

variable [AddCommGroup M] (f : V → V → M) (l : List V)

theorem around_neg : around (fun a b => -f a b) l = -around f l :=
  (map_around f l (negAddMonoidHom : M →+ M)).symm

/-- What one end of an edge takes the other gives back. -/
theorem around_sub (h : V → M) : around (fun a b => h b - h a) l = 0 := by
  have ends : ∀ l l' : List V, l.length = l'.length →
      (List.zipWith (fun a b => h b - h a) l l').sum = (l'.map h).sum - (l.map h).sum := by
    intro l
    induction l with
    | nil =>
        rintro (_ | ⟨b, l'⟩) same
        · exact (sub_zero 0).symm
        · cases same
    | cons a l ih =>
        rintro (_ | ⟨b, l'⟩) same
        · cases same
        · simp only [List.zipWith_cons_cons, List.map_cons, List.sum_cons,
            ih l' (Nat.succ.inj same), add_sub_add_comm]
  rw [around, ends l (l.rotate 1) (List.length_rotate l 1).symm,
    ((List.rotate_perm l 1).map h).sum_eq, sub_self]

end Group

end

end PlanarDynamics
