import Mathlib.Tactic.LinearCombination
import PlanarDynamics.Proofs.Contact.Momentum
import PlanarDynamics.Proofs.Shape.ClosedChains
import PlanarDynamics.Shape.Measure

/-!
# Area and centroid of a closed chain

The area of a polygon is found along its edges, the centroid with the fan of triangles from its
first vertex. With exact arithmetic both come from sums around the chain, whatever the polygon looks
like: the fan has the area that the edges enclose (`Polygon.fanArea_eq_around`), and its moment is
a sum of the edges as well (`Polygon.fanMoment_eq_around`), so neither depends on the vertex the fan
starts from.

Hence the area and the centroid stay the same when the chain starts at another vertex or is walked
backwards, and when the polygon is moved the centroid goes along
(`Polygon.measures_of_chain`).
-/

set_option autoImplicit false

namespace PlanarDynamics

namespace Polygon

/-! ## The sums of a chain -/

/-- The signed area between an edge and the origin. -/
noncomputable def edgeArea (a b : Vector2 ℝ) : ℝ := a.cross b / (2.0 : ℝ)

/-- The moment of the triangle between an edge and the origin. -/
noncomputable def edgeMoment (a b : Vector2 ℝ) : Vector2 ℝ := (a + b) / (3.0 : ℝ) * edgeArea a b

/-- The signed area of a triangle, and the centre of the triangle weighted with it. -/
noncomputable def triangleMoment (o a b : Vector2 ℝ) : Vector2 ℝ :=
  (o + a + b) / (3.0 : ℝ) * signedArea o a b

theorem edgeArea_eq (a b : Vector2 ℝ) : edgeArea a b = a.cross b / 2 := by
  norm_num [edgeArea]

theorem edgeMoment_eq (a b : Vector2 ℝ) : edgeMoment a b = (a + b) / (3 : ℝ) * edgeArea a b := by
  norm_num [edgeMoment]

theorem signedArea_eq (o a b : Vector2 ℝ) :
    signedArea o a b = edgeArea a b + (edgeArea b o - edgeArea a o) := by
  simp only [signedArea, edgeArea_eq, Vector2.cross, Vector2.sub_x, Vector2.sub_y]
  norm_num
  ring

theorem triangleMoment_eq (o a b : Vector2 ℝ) :
    triangleMoment o a b = edgeMoment a b + (edgeMoment b o - edgeMoment a o) := by
  apply Vector2.ext <;>
    simp only [triangleMoment, signedArea_eq, edgeMoment_eq, edgeArea_eq, Vector2.cross,
      Vector2.add_x, Vector2.add_y, Vector2.sub_x, Vector2.sub_y, Vector2.mul_x, Vector2.mul_y,
      Vector2.div_x, Vector2.div_y] <;>
    norm_num <;> ring

theorem edgeArea_swap (a b : Vector2 ℝ) : edgeArea b a = -edgeArea a b := by
  simp only [edgeArea_eq, Vector2.cross]
  ring

theorem edgeMoment_swap (a b : Vector2 ℝ) : edgeMoment b a = -edgeMoment a b := by
  rw [edgeMoment_eq, edgeMoment_eq, edgeArea_swap, add_comm b a]
  exact Vector2.ext (mul_neg _ _) (mul_neg _ _)

theorem edgeArea_self (a : Vector2 ℝ) : edgeArea a a = 0 := by
  simp only [edgeArea_eq, Vector2.cross]
  ring

theorem edgeMoment_self (a : Vector2 ℝ) : edgeMoment a a = 0 := by
  rw [edgeMoment_eq, edgeArea_self]
  exact Vector2.ext (mul_zero _) (mul_zero _)

/-- **The area is what the edges enclose.** -/
theorem area_eq_around (p : Polygon ℝ) : p.area = |around edgeArea p.vertices| := by
  obtain ⟨l⟩ := p
  by_cases few : l.length < 3
  · have nothing : around edgeArea l = 0 := by
      rcases l with _ | ⟨a, _ | ⟨b, _ | ⟨c, l⟩⟩⟩
      · rfl
      · simp [around, edgeArea_self]
      · simp [around, edgeArea_swap a b]
      · exact absurd few (by simp)
    rw [area, if_pos few, nothing, abs_zero]
  · have crossed : (⟨l⟩ : Polygon ℝ).edges.foldl (fun sum e => sum + e.1.cross e.2) 0 =
        around Vector2.cross l := by
      rw [edges, rotateLeft_one, foldl_zip_add Vector2.cross]
      rfl
    have halved : around edgeArea l = around Vector2.cross l / 2 := by
      have scaled := map_around Vector2.cross l (AddMonoidHom.mulRight (2⁻¹ : ℝ))
      simp only [AddMonoidHom.mulRight_apply, ← div_eq_mul_inv, ← edgeArea_eq] at scaled
      exact scaled.symm
    rw [area, if_neg few, crossed, halved, Scalar.abs_real]
    norm_num

section Fan

variable {M : Type} [AddCommGroup M] {g : Vector2 ℝ → Vector2 ℝ → M}

/-- What is added up over the triangles of the fan from the first vertex is added up around the
chain, if a triangle adds what its three edges add. -/
theorem foldl_fan_eq_around (self : ∀ a, g a a = 0) (swap : ∀ a b, g b a = -g a b) (o : Vector2 ℝ)
    (rest : List (Vector2 ℝ)) {f : Vector2 ℝ → Vector2 ℝ → M}
    (triangle : ∀ a b, f a b = g a b + (g b o - g a o)) :
    (⟨o :: rest⟩ : Polygon ℝ).fan.foldl (fun sum side => sum + f side.1 side.2) 0 =
      around g (o :: rest) := by
  have starts : ∀ a, f o a = 0 := by
    intro a
    rw [triangle, self, swap a o, sub_zero, neg_add_cancel]
  have ends : ∀ a, f a o = 0 := by
    intro a
    rw [triangle, self, zero_sub, add_neg_cancel]
  have edges : f = fun a b => g a b + (g b o - g a o) := by
    funext a b
    exact triangle a b
  calc (⟨o :: rest⟩ : Polygon ℝ).fan.foldl (fun sum side => sum + f side.1 side.2) 0
      = (List.zipWith f rest rest.tail).sum := foldl_zip_add f rest rest.tail
    _ = around f (o :: rest) := (around_cons_eq_fan f starts ends rest).symm
    _ = around g (o :: rest) := by rw [edges, around_add, around_sub _ (g · o), add_zero]

end Fan

/-- **The fan from a vertex has the area that the edges enclose.** -/
theorem fanArea_eq_around (o : Vector2 ℝ) (rest : List (Vector2 ℝ)) :
    (⟨o :: rest⟩ : Polygon ℝ).fanArea o = around edgeArea (o :: rest) :=
  foldl_fan_eq_around edgeArea_self edgeArea_swap o rest (signedArea_eq o)

/-- **The moment of the fan from a vertex is the moment of the edges.** -/
theorem fanMoment_eq_around (o : Vector2 ℝ) (rest : List (Vector2 ℝ)) :
    (⟨o :: rest⟩ : Polygon ℝ).fanMoment o = around edgeMoment (o :: rest) :=
  foldl_fan_eq_around edgeMoment_self edgeMoment_swap o rest (triangleMoment_eq o)

theorem average_eq_sum (p : Polygon ℝ) : p.average = p.vertices.sum / (p.vertices.length : ℝ) := by
  rw [average, List.sum_eq_foldl]
  rfl

/-- The centroid in terms of the sums around the chain. -/
theorem centroid_eq {p : Polygon ℝ} (filled : p.vertices ≠ []) :
    p.centroid = if |around edgeArea p.vertices| < 1e-8 then p.average
      else around edgeMoment p.vertices / around edgeArea p.vertices := by
  obtain ⟨_ | ⟨o, rest⟩⟩ := p
  · exact absurd rfl filled
  · simp only [centroid, IsFlat, fanArea_eq_around, fanMoment_eq_around]
    rfl

/-! ## Other walks around the same chain -/

/-- The same chain, started at a later vertex. -/
def turned (p : Polygon ℝ) (n : Nat) : Polygon ℝ := ⟨p.vertices.rotate n⟩

/-- The same chain, walked backwards. -/
def reversed (p : Polygon ℝ) : Polygon ℝ := ⟨p.vertices.reverse⟩

theorem average_of_perm {p q : Polygon ℝ} (same : q.vertices.Perm p.vertices) :
    q.average = p.average := by
  rw [average_eq_sum, average_eq_sum, same.sum_eq, same.length_eq]

theorem area_turned (p : Polygon ℝ) (n : Nat) : (p.turned n).area = p.area := by
  rw [area_eq_around, area_eq_around, turned, around_rotate]

theorem centroid_turned {p : Polygon ℝ} (filled : p.vertices ≠ []) (n : Nat) :
    (p.turned n).centroid = p.centroid := by
  have filled' : (p.turned n).vertices ≠ [] := fun empty => filled (List.rotate_eq_nil_iff.mp empty)
  have average : (p.turned n).average = p.average := average_of_perm (List.rotate_perm p.vertices n)
  rw [centroid_eq filled, centroid_eq filled', average, turned, around_rotate, around_rotate]

theorem around_edgeArea_reverse (l : List (Vector2 ℝ)) :
    around edgeArea l.reverse = -around edgeArea l := by
  rw [around_reverse, ← around_neg]
  simp only [← edgeArea_swap]

theorem around_edgeMoment_reverse (l : List (Vector2 ℝ)) :
    around edgeMoment l.reverse = -around edgeMoment l := by
  rw [around_reverse, ← around_neg]
  simp only [← edgeMoment_swap]

theorem area_reversed (p : Polygon ℝ) : p.reversed.area = p.area := by
  rw [area_eq_around, area_eq_around, reversed, around_edgeArea_reverse, abs_neg]

/-- Backwards both sums change their signs, and the centroid is their quotient. -/
theorem centroid_reversed {p : Polygon ℝ} (filled : p.vertices ≠ []) :
    p.reversed.centroid = p.centroid := by
  have filled' : p.reversed.vertices ≠ [] := fun empty => filled (List.reverse_eq_nil_iff.mp empty)
  have quotient : ∀ (m : Vector2 ℝ) (s : ℝ), -m / -s = m / s := fun m s =>
    Vector2.ext (neg_div_neg_eq m.x s) (neg_div_neg_eq m.y s)
  have average : p.reversed.average = p.average := average_of_perm (List.reverse_perm p.vertices)
  rw [centroid_eq filled, centroid_eq filled', average, reversed, around_edgeArea_reverse,
    around_edgeMoment_reverse, abs_neg, quotient]

/-! ## The chain somewhere else -/

/-- A number of times a vector, which respects sums. -/
noncomputable def along (d : Vector2 ℝ) : ℝ →+ Vector2 ℝ where
  toFun s := d * s
  map_zero' := Vector2.ext (mul_zero d.x) (mul_zero d.y)
  map_add' s t := Vector2.ext (mul_add d.x s t) (mul_add d.y s t)

theorem edgeArea_add (d a b : Vector2 ℝ) :
    edgeArea (a + d) (b + d) = edgeArea a b + (edgeArea d b - edgeArea d a) := by
  simp only [edgeArea_eq, Vector2.cross, Vector2.add_x, Vector2.add_y]
  ring

theorem around_edgeArea_map_add (d : Vector2 ℝ) (l : List (Vector2 ℝ)) :
    around edgeArea (l.map (· + d)) = around edgeArea l := by
  simp only [around_map, edgeArea_add d]
  rw [around_add, around_sub _ (edgeArea d ·), add_zero]

/-- What the moment of an edge changes by when the edge is moved, up to a difference between the
ends of the edge. -/
theorem edgeMoment_add (d a b : Vector2 ℝ) :
    edgeMoment (a + d) (b + d) = edgeMoment a b + along d (edgeArea a b) +
      ((edgeMoment b (-d) + along d (edgeArea b (-d))) -
        (edgeMoment a (-d) + along d (edgeArea a (-d)))) := by
  apply Vector2.ext <;>
    simp only [edgeMoment_eq, edgeArea_eq, along, AddMonoidHom.coe_mk, ZeroHom.coe_mk,
      Vector2.cross, Vector2.add_x, Vector2.add_y, Vector2.sub_x, Vector2.sub_y, Vector2.neg_x,
      Vector2.neg_y, Vector2.mul_x, Vector2.mul_y, Vector2.div_x, Vector2.div_y] <;>
    ring

theorem around_edgeMoment_map_add (d : Vector2 ℝ) (l : List (Vector2 ℝ)) :
    around edgeMoment (l.map (· + d)) = around edgeMoment l + d * around edgeArea l := by
  simp only [around_map, edgeMoment_add d]
  rw [around_add, around_sub _ (fun a => edgeMoment a (-d) + along d (edgeArea a (-d))), add_zero,
    around_add, ← map_around]
  rfl

theorem sum_map_add_right (d : Vector2 ℝ) (l : List (Vector2 ℝ)) :
    (l.map (· + d)).sum = l.sum + d * (l.length : ℝ) := by
  induction l with
  | nil => exact Vector2.ext (by simp) (by simp)
  | cons v l ih =>
      rw [List.map_cons, List.sum_cons, List.sum_cons, ih, List.length_cons]
      apply Vector2.ext <;> simp <;> ring

theorem area_translate (p : Polygon ℝ) (offset : Vector2 ℝ) :
    (p.translate offset).area = p.area := by
  rw [area_eq_around, area_eq_around, translate, around_edgeArea_map_add]

/-- The quotient of two sums that have moved by a multiple of the divisor. -/
theorem add_mul_div (m d : Vector2 ℝ) {s : ℝ} (large : s ≠ 0) : (m + d * s) / s = m / s + d := by
  apply Vector2.ext <;> simp [add_div, large]

/-- **The centroid goes along with the polygon.** -/
theorem centroid_translate {p : Polygon ℝ} (filled : p.vertices ≠ []) (offset : Vector2 ℝ) :
    (p.translate offset).centroid = p.centroid + offset := by
  have filled' : (p.translate offset).vertices ≠ [] :=
    fun empty => filled (List.map_eq_nil_iff.mp empty)
  have length : (p.vertices.length : ℝ) ≠ 0 :=
    Nat.cast_ne_zero.mpr fun none => filled (List.length_eq_zero_iff.mp none)
  have average : (p.translate offset).average = p.average + offset := by
    rw [average_eq_sum, average_eq_sum, translate, sum_map_add_right, List.length_map,
      add_mul_div _ _ length]
  rw [centroid_eq filled, centroid_eq filled', average, translate, around_edgeArea_map_add,
    around_edgeMoment_map_add]
  split
  case isTrue => rfl
  case isFalse wide =>
    have enclosed : around edgeArea p.vertices ≠ 0 := fun none => wide (by rw [none]; norm_num)
    exact add_mul_div _ _ enclosed

/-! ## All together -/

/-- **Area and centroid belong to the chain.** The area is the size of the fan's, whichever vertex
the fan starts from. The chain may be started at any vertex and walked either way, and when it is
moved the centroid moves with it, whether or not the signed areas cancel. -/
theorem measures_of_chain (origin : Vector2 ℝ) (rest : List (Vector2 ℝ)) :
    let p : Polygon ℝ := ⟨origin :: rest⟩
    p.area = |p.fanArea origin| ∧
      (∀ n, (p.turned n).area = p.area ∧ (p.turned n).centroid = p.centroid) ∧
      (p.reversed.area = p.area ∧ p.reversed.centroid = p.centroid) ∧
      ∀ offset, (p.translate offset).area = p.area ∧
        (p.translate offset).centroid = p.centroid + offset := by
  intro p
  have filled : p.vertices ≠ [] := List.cons_ne_nil origin rest
  refine ⟨?_, fun n => ⟨area_turned p n, centroid_turned filled n⟩,
    ⟨area_reversed p, centroid_reversed filled⟩,
    fun offset => ⟨area_translate p offset, centroid_translate filled offset⟩⟩
  rw [area_eq_around, fanArea_eq_around]

end Polygon

end PlanarDynamics
