import PlanarDynamics.Proofs.Scalar.Binary32Signs

/-!
# Laws of sizes

The size of a value is what is left when its sign is dropped. `MeasuredScalar` adds to the laws of
signs how the operations that look at sizes treat alike values and turned ones: absolute value,
square root, quotient and the comparison `≤`. Again no law is about the size of a result, so
rounding breaks none of them.

Two points are then equally far apart from either of them, on each axis
(`Scalar.abs_sub_alike_comm`) and in the plane (`Vector2.distance_alike_comm`). A sign turns with
the value it is of, unless the value points neither way (`Scalar.sign_of_turned`). Binary32 numbers
satisfy all the laws.
-/

set_option autoImplicit false

namespace PlanarDynamics

/-- Scalars whose sizes do not depend on their signs. -/
class MeasuredScalar (α : Type) [Scalar α] : Prop extends SymmetricScalar α where
  le_of_alike {a a' b b' : α} : Scalar.Alike a a' → Scalar.Alike b b' → a ≤ b → a' ≤ b'
  abs_alike {a a' : α} : Scalar.Alike a a' → Scalar.Alike (Scalar.abs a) (Scalar.abs a')
  sqrt_alike {a a' : α} : Scalar.Alike a a' → Scalar.Alike (Scalar.sqrt a) (Scalar.sqrt a')
  abs_neg (a : α) : Scalar.abs (-a) = Scalar.abs a
  neg_div (a b : α) : -a / b = -(a / b)
  neg_lt_zero_iff {a : α} : -a < 0 ↔ 0 < a
  zero_alike_neg_zero : Scalar.Alike (0 : α) (-0)
  /-- Only zeros can be alike and yet different. -/
  eq_of_alike_of_pos {a a' : α} : Scalar.Alike a a' → 0 < a → a = a'
  negligible_pos : (0 : α) < negligibleLength

namespace Scalar

/-- Whether a value points neither way: it is zero or no number. -/
def isDirectionless {α : Type} [Scalar α] (v : α) : Bool := v == 0 || isNaN v

variable {α : Type} [Scalar α] [MeasuredScalar α] {a a' b b' : α}

theorem Alike.le_iff (first : Alike a a') (second : Alike b b') : a ≤ b ↔ a' ≤ b' :=
  ⟨MeasuredScalar.le_of_alike first second, MeasuredScalar.le_of_alike first.symm second.symm⟩

/-- Two values are equally far apart from either of them. -/
theorem abs_sub_alike_comm (a b : α) : Alike (Scalar.abs (a - b)) (Scalar.abs (b - a)) := by
  have sizes := MeasuredScalar.abs_alike (neg_sub_alike a b)
  rwa [MeasuredScalar.abs_neg] at sizes

/-- What points neither way is neither negative nor positive, and everything else is. -/
theorem isDirectionless_iff {v : α} : isDirectionless v = true ↔ ¬ v < 0 ∧ ¬ 0 < v := by
  have zeroNumber : isNaN (0 : α) = false := isNumber_left OrderedScalar.zero_lt_one
  simp only [isDirectionless, Bool.or_eq_true]
  constructor
  · rintro (zero | undefined)
    · have same : Alike v 0 := Or.inl zero
      rw [same.lt_iff (.refl 0), (Alike.refl 0).lt_iff same]
      exact ⟨fun less => OrderedScalar.lt_asymm less less,
        fun less => OrderedScalar.lt_asymm less less⟩
    · refine ⟨fun less => ?_, fun less => ?_⟩
      · simp [isNumber_left less] at undefined
      · simp [isNumber_right less] at undefined
  · rintro ⟨notNegative, notPositive⟩
    cases number : isNaN v with
    | true => exact Or.inr rfl
    | false =>
        rcases SymmetricScalar.alike_of_not_lt number zeroNumber notNegative notPositive with
          zero | ⟨_, undefined⟩
        · exact Or.inl zero
        · simp [zeroNumber] at undefined

/-- **A sign turns with the value it is of, unless the value points neither way.** -/
theorem sign_of_turned {d d' : α} (turned : Alike d' (-d)) :
    sign d' = if isDirectionless d then sign d else -sign d := by
  have below : d' < 0 ↔ 0 < d :=
    (turned.lt_iff (.refl 0)).trans MeasuredScalar.neg_lt_zero_iff
  simp only [sign, below, isDirectionless_iff]
  by_cases negative : d < 0
  · have notPositive : ¬ 0 < d := OrderedScalar.lt_asymm negative
    simp [negative, notPositive, SymmetricScalar.neg_neg]
  · by_cases positive : 0 < d <;> simp [negative, positive]

end Scalar

/-! ## Vectors -/

namespace Vector2

variable {α : Type} [Scalar α] [MeasuredScalar α]

/-- The way from one point to another is turned by going back. -/
theorem sub_alike_neg_sub (u v : Vector2 α) : (v - u).Alike (-(u - v)) :=
  ⟨(Scalar.neg_sub_alike u.x v.x).symm, (Scalar.neg_sub_alike u.y v.y).symm⟩

theorem lengthSquared_alike_of_turned {u v : Vector2 α} (turned : v.Alike (-u)) :
    Scalar.Alike v.lengthSquared u.lengthSquared := by
  have axis : ∀ {a d : α}, Scalar.Alike d (-a) → Scalar.Alike (d * d) (a * a) := by
    intro a d turned
    have squares := turned.mul turned
    rwa [Scalar.neg_mul_neg] at squares
  exact (axis turned.x).add (axis turned.y)

theorem distance_alike_comm (u v : Vector2 α) :
    Scalar.Alike (v.distance u) (u.distance v) :=
  MeasuredScalar.sqrt_alike (lengthSquared_alike_of_turned (sub_alike_neg_sub u v))

theorem div_alike_of_turned {u v : Vector2 α} (turned : v.Alike (-u)) (s : α) :
    (v / s).Alike (-(u / s)) := by
  have axis : ∀ {a d : α}, Scalar.Alike d (-a) → Scalar.Alike (d / s) (-(a / s)) := by
    intro a d turned
    have quotients := turned.div s
    rwa [MeasuredScalar.neg_div] at quotients
  exact ⟨axis turned.x, axis turned.y⟩

end Vector2

/-! ## Binary32 numbers -/

namespace Binary32

open Float.Model (Format UnpackedFloat)
open Float.Model.UnpackedFloat (Sign)

section Operations

variable {f : Format} {u u' v v' : UnpackedFloat}

theorem rank_abs_congr (same : rank u = rank u') : rank u.abs = rank u'.abs := by
  rcases rank_eq_iff.mp same with rfl | ⟨s, t, rfl, rfl⟩
  · rfl
  · rfl

theorem rank_sqrt_congr (same : rank u = rank u') :
    rank (UnpackedFloat.sqrt f u) = rank (UnpackedFloat.sqrt f u') := by
  rcases rank_eq_iff.mp same with rfl | ⟨s, t, rfl, rfl⟩
  · rfl
  · rfl

theorem abs_neg_unpacked (u : UnpackedFloat) : u.neg.abs = u.abs := by
  cases u <;> rfl

theorem neg_div_unpacked (u v : UnpackedFloat) :
    UnpackedFloat.div f u.neg v = (UnpackedFloat.div f u v).neg := by
  have signs : ∀ s t : Sign, -s / t = -(s / t) := by rintro (_ | _) (_ | _) <;> rfl
  rcases u with s | _ | s | ⟨s, m, e, hm⟩ <;> rcases v with t | _ | t | ⟨t, n, d, hn⟩
  case finite.finite =>
    refine Eq.trans ?_ (neg_roundWithAccuracy _ _ _ _).symm
    rw [← signs]
    rfl
  all_goals simp [UnpackedFloat.div, UnpackedFloat.neg, signs]

/-- Numbers of the same rank compare in the same way with everything. -/
theorem le_congr (first : rank u = rank u') (second : rank v = rank v') :
    UnpackedFloat.le u v = UnpackedFloat.le u' v' := by
  have left : UnpackedFloat.le u v = UnpackedFloat.le u' v := by
    rcases rank_eq_iff.mp first with rfl | ⟨s, t, rfl, rfl⟩
    · rfl
    · rcases v with p | _ | p | ⟨p, m, e, hm⟩ <;> (try cases p) <;> rfl
  have right : UnpackedFloat.le u' v = UnpackedFloat.le u' v' := by
    rcases rank_eq_iff.mp second with rfl | ⟨s, t, rfl, rfl⟩
    · rfl
    · rcases u' with p | _ | p | ⟨p, m, e, hm⟩ <;> (try cases p) <;> rfl
  exact left.trans right

/-- Values that are swapped compare the other way round. -/
theorem compare_unpacked_swap (u v : UnpackedFloat) :
    UnpackedFloat.compare v u = (UnpackedFloat.compare u v).map Ordering.swap := by
  rcases u with s | _ | s | ⟨s, m, e, hm⟩ <;> rcases v with t | _ | t | ⟨t, n, d, hn⟩ <;>
    (try cases s) <;> (try cases t) <;>
    simp [UnpackedFloat.compare, compare_sign, Ordering.swap_then, Int.compare_swap,
      Nat.compare_swap]

/-- Only undefined values do not compare. -/
theorem compare_eq_none_iff (u v : UnpackedFloat) :
    UnpackedFloat.compare u v = none ↔ u = .notANumber ∨ v = .notANumber := by
  rcases u with s | _ | s | ⟨s, m, e, hm⟩ <;> rcases v with t | _ | t | ⟨t, n, d, hn⟩ <;>
    (try cases s) <;> (try cases t) <;> simp [UnpackedFloat.compare]

theorem neg_lt_zero_unpacked (u : UnpackedFloat) (s t : Sign) :
    UnpackedFloat.lt u.neg (.zero s) = UnpackedFloat.lt (.zero t) u := by
  rcases u with p | _ | p | ⟨p, m, e, hm⟩ <;> (try cases p) <;> rfl

end Operations

theorem le_iff {a b : Float32} :
    a ≤ b ↔ UnpackedFloat.le a.toModel.unpack b.toModel.unpack = true := by
  show decide (a.toModel ≤ b.toModel) = true ↔ _
  rw [decide_eq_true_iff]
  exact Iff.rfl

/-- A number that is not above another one is at most as great. -/
theorem le_of_not_lt {a b : Float32} (numberA : Scalar.isNaN a = false)
    (numberB : Scalar.isNaN b = false) (notAbove : ¬ b < a) : a ≤ b := by
  rw [lt_iff, UnpackedFloat.lt, compare_unpacked_swap] at notAbove
  rw [le_iff, UnpackedFloat.le]
  rw [← Bool.not_eq_true, isNaN_eq_true_iff] at numberA numberB
  cases compared : UnpackedFloat.compare a.toModel.unpack b.toModel.unpack with
  | none => exact ((compare_eq_none_iff _ _).mp compared).elim (absurd · numberA) (absurd · numberB)
  | some order =>
      rw [compared] at notAbove
      cases order with
      | lt => rfl
      | eq => rfl
      | gt => exact absurd rfl notAbove

instance : MeasuredScalar Float32 where
  le_of_alike first second le := by
    rw [le_iff] at le ⊢
    rwa [← le_congr (alike_iff_rank.mp first) (alike_iff_rank.mp second)]
  abs_alike alike :=
    alike_iff_rank.mpr (rank_stored_congr (rank_abs_congr (alike_iff_rank.mp alike)))
  sqrt_alike alike :=
    alike_iff_rank.mpr (rank_stored_congr (rank_sqrt_congr (alike_iff_rank.mp alike)))
  abs_neg a := by
    refine eq_of_unpack ?_
    calc (Scalar.abs (-a)).toModel.unpack = stored (-a).toModel.unpack.abs := rfl
      _ = stored a.toModel.unpack.abs := by rw [unpack_neg, abs_neg_unpacked]
  neg_div a b := by
    refine eq_of_unpack ?_
    calc (-a / b).toModel.unpack
        = stored (UnpackedFloat.div .binary32 (-a).toModel.unpack b.toModel.unpack) := rfl
      _ = stored (UnpackedFloat.div .binary32 a.toModel.unpack b.toModel.unpack).neg := by
          rw [unpack_neg, neg_div_unpacked]
      _ = (-(a / b)).toModel.unpack := by
          rw [stored_neg, unpack_neg]
          rfl
  neg_lt_zero_iff {a} := by
    rw [lt_iff, lt_iff, unpack_neg]
    exact Bool.eq_iff_iff.mp (neg_lt_zero_unpacked _ .positive .positive)
  zero_alike_neg_zero := Or.inl (by decide)
  eq_of_alike_of_pos {a a'} alike positive := by
    rcases rank_eq_iff.mp (alike_iff_rank.mp alike) with same | ⟨s, t, zero, _⟩
    · exact eq_of_unpack same
    · rw [lt_iff, zero] at positive
      cases positive
  negligible_pos := by decide

end Binary32

end PlanarDynamics
