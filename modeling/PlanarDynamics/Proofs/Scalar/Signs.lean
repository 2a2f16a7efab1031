import PlanarDynamics.Proofs.Scalar.Exact

/-!
# Laws of signs

Two values are alike when they compare equal, or when neither is a number. Zeros of either sign are
alike, so alike values lead to alike results in sums, differences and products; only a division by
them can tell them apart. `SymmetricScalar` collects how the operations of a simulation treat signs
and the order of operands. None of its laws is about the size of a result, so all of them hold in
spite of rounding: the sums and products of a pair commute, a sign can be taken out of a product,
and the negative of a sum is, up to the sign of a zero, the sum of the negatives.

A computation that is carried out with all signs turned then has alike results
(`Scalar.neg_sub_alike`, `Vector2.dot_alike_of_turned`).
-/

set_option autoImplicit false

namespace PlanarDynamics

/-- Two values compare equal, or neither is a number. -/
def Scalar.Alike {α : Type} [Scalar α] (a b : α) : Prop :=
  (a == b) = true ∨ (Scalar.isNaN a = true ∧ Scalar.isNaN b = true)

/-- Scalars that are rounded the same way on both sides of zero. -/
class SymmetricScalar (α : Type) [Scalar α] : Prop extends OrderedScalar α where
  alike_symm {a b : α} : Scalar.Alike a b → Scalar.Alike b a
  alike_trans {a b c : α} : Scalar.Alike a b → Scalar.Alike b c → Scalar.Alike a c
  /-- Numbers of which neither is less than the other are alike. -/
  alike_of_not_lt {a b : α} : Scalar.isNaN a = false → Scalar.isNaN b = false → ¬ a < b → ¬ b < a →
    Scalar.Alike a b
  lt_of_alike {a a' b b' : α} : Scalar.Alike a a' → Scalar.Alike b b' → a < b → a' < b'
  add_alike {a a' b b' : α} : Scalar.Alike a a' → Scalar.Alike b b' → Scalar.Alike (a + b) (a' + b')
  mul_alike {a a' b b' : α} : Scalar.Alike a a' → Scalar.Alike b b' → Scalar.Alike (a * b) (a' * b')
  neg_alike {a a' : α} : Scalar.Alike a a' → Scalar.Alike (-a) (-a')
  /-- The sign of a zero matters in a divisor only. -/
  div_alike {a a' : α} : Scalar.Alike a a' → ∀ b : α, Scalar.Alike (a / b) (a' / b)
  add_comm (a b : α) : a + b = b + a
  mul_comm (a b : α) : a * b = b * a
  neg_neg (a : α) : - -a = a
  neg_mul (a b : α) : -a * b = -(a * b)
  sub_eq_add_neg (a b : α) : a - b = a + -b
  neg_add_alike (a b : α) : Scalar.Alike (-(a + b)) (-a + -b)

namespace Scalar

variable {α : Type} [Scalar α]

theorem Alike.refl (a : α) : Alike a a := by
  by_cases same : (a == a) = true
  · exact Or.inl same
  · have undefined : isNaN a = true := by simp [isNaN, same]
    exact Or.inr ⟨undefined, undefined⟩

theorem Alike.of_eq {a b : α} (same : a = b) : Alike a b := same ▸ Alike.refl a

variable [SymmetricScalar α] {a a' b b' : α}

theorem Alike.symm (alike : Alike a b) : Alike b a := SymmetricScalar.alike_symm alike

theorem Alike.trans {c : α} (first : Alike a b) (second : Alike b c) : Alike a c :=
  SymmetricScalar.alike_trans first second

theorem Alike.add (first : Alike a a') (second : Alike b b') : Alike (a + b) (a' + b') :=
  SymmetricScalar.add_alike first second

theorem Alike.mul (first : Alike a a') (second : Alike b b') : Alike (a * b) (a' * b') :=
  SymmetricScalar.mul_alike first second

theorem Alike.neg (alike : Alike a a') : Alike (-a) (-a') := SymmetricScalar.neg_alike alike

theorem Alike.div (alike : Alike a a') (b : α) : Alike (a / b) (a' / b) :=
  SymmetricScalar.div_alike alike b

theorem Alike.sub (first : Alike a a') (second : Alike b b') : Alike (a - b) (a' - b') := by
  rw [SymmetricScalar.sub_eq_add_neg, SymmetricScalar.sub_eq_add_neg]
  exact first.add second.neg

theorem Alike.lt_iff (first : Alike a a') (second : Alike b b') : a < b ↔ a' < b' :=
  ⟨SymmetricScalar.lt_of_alike first second, SymmetricScalar.lt_of_alike first.symm second.symm⟩

theorem mul_neg (a b : α) : a * -b = -(a * b) := by
  rw [SymmetricScalar.mul_comm, SymmetricScalar.neg_mul, SymmetricScalar.mul_comm]

theorem neg_mul_neg (a b : α) : -a * -b = a * b := by
  rw [SymmetricScalar.neg_mul, mul_neg, SymmetricScalar.neg_neg]

theorem sub_neg (a b : α) : a - -b = a + b := by
  rw [SymmetricScalar.sub_eq_add_neg, SymmetricScalar.neg_neg]

/-- A difference taken the other way round is the negative one, up to the sign of a zero. -/
theorem neg_sub_alike (a b : α) : Alike (-(a - b)) (b - a) := by
  have turned : -a + - -b = b - a := by
    rw [SymmetricScalar.neg_neg, SymmetricScalar.add_comm, SymmetricScalar.sub_eq_add_neg]
  rw [SymmetricScalar.sub_eq_add_neg a b]
  exact (SymmetricScalar.neg_add_alike a (-b)).trans (.of_eq turned)

omit [SymmetricScalar α] in
/-- Which of two values comes first does not matter for a bound of them, in whatever order of the
values. Where neither is less, they are zeros, the same number, or one of them is no number. -/
theorem bound_alike_comm (less : α → α → Prop) [DecidableRel less]
    (asymm : ∀ {u v}, less u v → ¬ less v u)
    (numbers : ∀ {u v}, less u v → isNaN u = false ∧ isNaN v = false)
    (level : ∀ {u v}, isNaN u = false → isNaN v = false → ¬ less u v → ¬ less v u → Alike u v)
    (a b : α) :
    Alike (if less b a ∨ isNaN a then b else a) (if less a b ∨ isNaN b then a else b) := by
  by_cases below : less b a
  · simp only [below, asymm below, (numbers below).1, true_or, false_or, if_true,
      Bool.false_eq_true, if_false]
    exact .refl b
  by_cases above : less a b
  · simp only [above, below, (numbers above).1, true_or, false_or, if_true, Bool.false_eq_true,
      if_false]
    exact .refl a
  simp only [below, above, false_or]
  cases nanA : isNaN a with
  | true =>
      cases nanB : isNaN b with
      | true => exact Or.inr ⟨nanB, nanA⟩
      | false => exact .refl b
  | false =>
      cases nanB : isNaN b with
      | true => exact .refl a
      | false => exact level nanA nanB above below

/-- Which of two values comes first does not matter for the lesser of them. -/
theorem lower_alike_comm (a b : α) : Alike (lower a b) (lower b a) :=
  bound_alike_comm (· < ·) OrderedScalar.lt_asymm OrderedScalar.isNumber_of_lt
    SymmetricScalar.alike_of_not_lt a b

/-- Which of two values comes first does not matter for the greater of them. -/
theorem upper_alike_comm (a b : α) : Alike (upper a b) (upper b a) :=
  bound_alike_comm (· > ·) OrderedScalar.lt_asymm
    (fun above => (OrderedScalar.isNumber_of_lt above).symm)
    (fun nanA nanB notAbove notBelow =>
      SymmetricScalar.alike_of_not_lt nanA nanB notBelow notAbove) a b

end Scalar

/-! ## Vectors -/

namespace Vector2

variable {α : Type} [Scalar α]

/-- Two vectors are alike on both axes. -/
structure Alike (u v : Vector2 α) : Prop where
  x : Scalar.Alike u.x v.x
  y : Scalar.Alike u.y v.y

theorem Alike.refl (u : Vector2 α) : u.Alike u := ⟨.refl u.x, .refl u.y⟩

variable [SymmetricScalar α]

theorem neg_neg (u : Vector2 α) : - -u = u :=
  Vector2.ext (SymmetricScalar.neg_neg u.x) (SymmetricScalar.neg_neg u.y)

theorem neg_mul (u : Vector2 α) (s : α) : -u * s = -(u * s) :=
  Vector2.ext (SymmetricScalar.neg_mul u.x s) (SymmetricScalar.neg_mul u.y s)

theorem sub_neg (u v : Vector2 α) : u - -v = u + v :=
  Vector2.ext (Scalar.sub_neg u.x v.x) (Scalar.sub_neg u.y v.y)

theorem sub_eq_add_neg (u v : Vector2 α) : u - v = u + -v :=
  Vector2.ext (SymmetricScalar.sub_eq_add_neg u.x v.x) (SymmetricScalar.sub_eq_add_neg u.y v.y)

theorem Alike.symm {u v : Vector2 α} (alike : u.Alike v) : v.Alike u :=
  ⟨alike.x.symm, alike.y.symm⟩

theorem Alike.add {u u' v v' : Vector2 α} (first : u.Alike u') (second : v.Alike v') :
    (u + v).Alike (u' + v') :=
  ⟨first.x.add second.x, first.y.add second.y⟩

theorem Alike.sub {u u' v v' : Vector2 α} (first : u.Alike u') (second : v.Alike v') :
    (u - v).Alike (u' - v') :=
  ⟨first.x.sub second.x, first.y.sub second.y⟩

theorem mul_alike (u : Vector2 α) {s s' : α} (alike : Scalar.Alike s s') :
    (u * s).Alike (u * s') :=
  ⟨(Scalar.Alike.refl u.x).mul alike, (Scalar.Alike.refl u.y).mul alike⟩

/-- A difference has the same part along a direction as the turned difference along the turned
direction. -/
theorem dot_alike_of_turned (u v n : Vector2 α) :
    Scalar.Alike ((u - v).dot n) ((v - u).dot (-n)) := by
  have axis : ∀ a b d : α, Scalar.Alike ((a - b) * d) ((b - a) * -d) := by
    intro a b d
    have turned := (Scalar.neg_sub_alike a b).mul (.refl (-d))
    rwa [Scalar.neg_mul_neg] at turned
  exact (axis u.x v.x n.x).add (axis u.y v.y n.y)

end Vector2

/-! ## Exact numbers -/

namespace Scalar

/-- Exact numbers are alike only when they are equal. -/
theorem alike_real_iff {a b : ℝ} : Alike a b ↔ a = b := by
  simp [Alike, isNaN_real, BEq.beq]

end Scalar

instance : SymmetricScalar ℝ where
  alike_symm alike := by
    rw [Scalar.alike_real_iff] at *
    exact alike.symm
  alike_trans first second := by
    rw [Scalar.alike_real_iff] at *
    exact first.trans second
  alike_of_not_lt _ _ notLess notGreater :=
    Scalar.alike_real_iff.mpr (le_antisymm (not_lt.mp notGreater) (not_lt.mp notLess))
  lt_of_alike first second less := by
    rwa [← Scalar.alike_real_iff.mp first, ← Scalar.alike_real_iff.mp second]
  add_alike first second := by
    rw [Scalar.alike_real_iff.mp first, Scalar.alike_real_iff.mp second]
    exact .refl _
  mul_alike first second := by
    rw [Scalar.alike_real_iff.mp first, Scalar.alike_real_iff.mp second]
    exact .refl _
  neg_alike alike := by
    rw [Scalar.alike_real_iff.mp alike]
    exact .refl _
  div_alike alike _ := by
    rw [Scalar.alike_real_iff.mp alike]
    exact .refl _
  add_comm := add_comm
  mul_comm := mul_comm
  neg_neg := neg_neg
  neg_mul := neg_mul
  sub_eq_add_neg := sub_eq_add_neg
  neg_add_alike a b := .of_eq (neg_add a b)

end PlanarDynamics
