import Mathlib
import PlanarDynamics.Proofs.Scalar.Binary32
import PlanarDynamics.Proofs.Scalar.Signs

/-!
# Signs of binary32 numbers

Binary32 numbers satisfy the laws of `SymmetricScalar`. A number is packed as sign, exponent and
mantissa, and rounding looks at the last two only, so turning the sign before an operation turns the
sign of what is kept of its result (`stored_neg`, `neg_roundWithAccuracy`). Only a sum that cancels
out is an exception: it is the positive zero whichever way round it is taken, and its negative is
the other zero. The `rank` of a number does not tell zeros apart, and numbers are alike exactly when
they have the same rank (`alike_iff_rank`).

The laws of unpacking and packing (`UnpackedFloat.pack_unpack_of_valid`) come with the whole
library only, so it is imported whole.
-/

set_option autoImplicit false

namespace PlanarDynamics

namespace Binary32

open Float.Model (Format UnpackedFloat)
open Float.Model.UnpackedFloat (Sign Accuracy packComponents packedInfinity packedZero)

/-! ## Numbers that are alike -/

/-- Only zeros share a rank. -/
theorem rank_eq_iff {u v : UnpackedFloat} :
    rank u = rank v ↔ u = v ∨ ∃ s t, u = .zero s ∧ v = .zero t := by
  constructor
  · rcases u with s | _ | s | ⟨s, m, e, hm⟩ <;> rcases v with t | _ | t | ⟨t, n, f, hn⟩ <;>
      (try cases s) <;> (try cases t) <;> simp +contextual [rank]
  · rintro (rfl | ⟨s, t, rfl, rfl⟩)
    · rfl
    · rfl

theorem alike_iff_rank {a b : Float32} :
    Scalar.Alike a b ↔ rank a.toModel.unpack = rank b.toModel.unpack := by
  have equal : (a == b) = UnpackedFloat.beq a.toModel.unpack b.toModel.unpack := rfl
  rw [Scalar.Alike, isNaN_eq_true_iff, isNaN_eq_true_iff, equal,
    UnpackedFloat.beq_iff_ne_notANumber_and_eq, rank_eq_iff]
  generalize a.toModel.unpack = u
  generalize b.toModel.unpack = v
  constructor
  · rintro (⟨_, _, rfl | ⟨rfl, rfl⟩ | ⟨rfl, rfl⟩⟩ | ⟨rfl, rfl⟩)
    · exact Or.inl rfl
    · exact Or.inr ⟨_, _, rfl, rfl⟩
    · exact Or.inr ⟨_, _, rfl, rfl⟩
    · exact Or.inl rfl
  · rintro (rfl | ⟨s, t, rfl, rfl⟩)
    · by_cases number : u = .notANumber
      · exact Or.inr ⟨number, number⟩
      · exact Or.inl ⟨number, number, Or.inl rfl⟩
    · refine Or.inl ⟨by simp, by simp, ?_⟩
      cases s <;> cases t <;> simp

/-! ## What is kept of a result -/

/-- The number that is kept of a result. -/
def stored (u : UnpackedFloat) : UnpackedFloat := (Float32.Model.pack u).unpack

theorem unpack_packComponents_neg {f : Format} (s : Sign) (e : BitVec f.exponentBits)
    (m : BitVec f.mantissaBitsWithoutImplicit) :
    UnpackedFloat.unpack f (packComponents f (-s) e m) =
      (UnpackedFloat.unpack f (packComponents f s e m)).neg := by
  unfold UnpackedFloat.unpack
  simp only [UnpackedFloat.unpackExponent_packComponents,
    UnpackedFloat.unpackMantissa_packComponents, UnpackedFloat.unpackSign_packComponents,
    Sign.ofBitVec_toBitVec]
  split
  · split <;> rfl
  · split
    · split <;> rfl
    · rfl

/-- Turning the sign of a result turns the sign of what is kept of it. -/
theorem stored_neg (u : UnpackedFloat) : stored u.neg = (stored u).neg := by
  show UnpackedFloat.unpack .binary32 (UnpackedFloat.pack .binary32 u.neg) =
    (UnpackedFloat.unpack .binary32 (UnpackedFloat.pack .binary32 u)).neg
  cases u with
  | notANumber => rfl
  | infinity s => exact unpack_packComponents_neg s _ _
  | zero s => exact unpack_packComponents_neg s _ _
  | finite s m e hm =>
      simp only [UnpackedFloat.neg, UnpackedFloat.pack]
      split
      · exact unpack_packComponents_neg s _ _
      · split <;> exact unpack_packComponents_neg s _ _

theorem stored_zero (s : Sign) : stored (.zero s) = .zero s :=
  UnpackedFloat.unpack_packedZero

/-- What has been kept is kept unchanged. -/
theorem stored_unpack (a : Float32) : stored a.toModel.unpack = a.toModel.unpack :=
  congrArg (UnpackedFloat.unpack .binary32) (UnpackedFloat.pack_unpack_of_valid a.toModel.valid)

theorem eq_of_unpack {a b : Float32} (same : a.toModel.unpack = b.toModel.unpack) : a = b := by
  rcases a with ⟨⟨⟨a⟩, validA⟩⟩
  rcases b with ⟨⟨⟨b⟩, validB⟩⟩
  obtain rfl : a = b := (UnpackedFloat.unpack_inj_of_valid validA validB).mp same
  rfl

theorem unpack_neg (a : Float32) : (-a).toModel.unpack = a.toModel.unpack.neg :=
  (stored_neg a.toModel.unpack).trans (congrArg UnpackedFloat.neg (stored_unpack a))

/-! ## Operations before rounding -/

section Operations

variable {f : Format} (u v : UnpackedFloat)

theorem neg_neg_unpacked : u.neg.neg = u := by
  rcases u with s | _ | s | ⟨s, m, e, hm⟩ <;> (try cases s) <;> rfl

theorem neg_apply (s : Sign) (n : ℤ) : (-s).apply n = -s.apply n := by
  cases s
  · exact (Int.neg_neg n).symm
  · rfl

theorem add_unpacked_comm : UnpackedFloat.add f u v = UnpackedFloat.add f v u := by
  rcases u with s | _ | s | ⟨s, m, e, hm⟩ <;> rcases v with t | _ | t | ⟨t, n, d, hn⟩ <;>
    (try cases s) <;> (try cases t) <;>
    simp [UnpackedFloat.add, Int.add_comm, min_comm]

theorem mul_unpacked_comm : UnpackedFloat.mul f u v = UnpackedFloat.mul f v u := by
  have signs : ∀ s t : Sign, s * t = t * s := by rintro (_ | _) (_ | _) <;> rfl
  rcases u with s | _ | s | ⟨s, m, e, hm⟩ <;> rcases v with t | _ | t | ⟨t, n, d, hn⟩ <;>
    simp [UnpackedFloat.mul, signs, Nat.mul_comm, Int.add_comm]

theorem sub_eq_add_neg_unpacked : UnpackedFloat.sub f u v = UnpackedFloat.add f u v.neg := by
  rcases u with s | _ | s | ⟨s, m, e, hm⟩ <;> rcases v with t | _ | t | ⟨t, n, d, hn⟩ <;>
    simp [UnpackedFloat.sub, UnpackedFloat.add, UnpackedFloat.neg, neg_apply, Int.sub_eq_add_neg]

/-- Rounding looks at the size of a number, never at its sign. -/
theorem neg_roundWithAccuracy (s : Sign) (m : ℕ) (e : ℤ) (accuracy : Accuracy) :
    (UnpackedFloat.roundWithAccuracy f s m e accuracy).neg =
      UnpackedFloat.roundWithAccuracy f (-s) m e accuracy := by
  unfold UnpackedFloat.roundWithAccuracy
  dsimp only
  split <;> rfl

theorem neg_mul_unpacked : UnpackedFloat.mul f u.neg v = (UnpackedFloat.mul f u v).neg := by
  have signs : ∀ s t : Sign, -s * t = -(s * t) := by rintro (_ | _) (_ | _) <;> rfl
  rcases u with s | _ | s | ⟨s, m, e, hm⟩ <;> rcases v with t | _ | t | ⟨t, n, d, hn⟩
  case finite.finite =>
    refine Eq.trans ?_ (neg_roundWithAccuracy _ _ _ _).symm
    rw [← signs]
    rfl
  all_goals simp [UnpackedFloat.mul, UnpackedFloat.neg, signs]

theorem neg_round (s : Sign) (m : ℕ) (e : ℤ) :
    (UnpackedFloat.round f s m e).neg = UnpackedFloat.round f (-s) m e :=
  neg_roundWithAccuracy _ _ _ _

/-- Only a sum that cancels out has a sign that does not turn with the operands. -/
theorem rank_neg_normalize (m e : ℤ) (zero : Sign) :
    rank (UnpackedFloat.normalize f m e zero).neg =
      rank (UnpackedFloat.normalize f (-m) e zero) := by
  unfold UnpackedFloat.normalize
  rcases lt_trichotomy m 0 with negative | rfl | positive
  · have turned : compare (-m) 0 = .gt := Int.compare_eq_gt.mpr (by omega)
    rw [Int.compare_eq_lt.mpr negative, turned]
    exact congrArg rank (neg_round _ _ _)
  · rfl
  · have turned : compare (-m) 0 = .lt := Int.compare_eq_lt.mpr (by omega)
    rw [Int.compare_eq_gt.mpr positive, turned]
    dsimp only
    rw [neg_round, Int.neg_neg]
    rfl

theorem rank_neg_add :
    rank (UnpackedFloat.add f u v).neg = rank (UnpackedFloat.add f u.neg v.neg) := by
  rcases u with s | _ | s | ⟨s, m, e, hm⟩ <;> rcases v with t | _ | t | ⟨t, n, d, hn⟩
  case finite.finite =>
    refine (rank_neg_normalize _ _ _).trans ?_
    simp only [UnpackedFloat.neg, UnpackedFloat.add, UnpackedFloat.decreaseExponent, neg_apply,
      Int.neg_add]
  all_goals (try cases s) <;> (try cases t) <;> rfl

/-- Operands that are alike cannot be told apart by a sum. -/
theorem rank_add_congr {u u' : UnpackedFloat} (same : rank u = rank u') :
    rank (UnpackedFloat.add f u v) = rank (UnpackedFloat.add f u' v) := by
  rcases rank_eq_iff.mp same with rfl | ⟨s, t, rfl, rfl⟩
  · rfl
  · rcases v with p | _ | p | ⟨p, m, e, hm⟩ <;> cases s <;> cases t <;> (try cases p) <;> rfl

theorem rank_mul_congr {u u' : UnpackedFloat} (same : rank u = rank u') :
    rank (UnpackedFloat.mul f u v) = rank (UnpackedFloat.mul f u' v) := by
  rcases rank_eq_iff.mp same with rfl | ⟨s, t, rfl, rfl⟩
  · rfl
  · rcases v with p | _ | p | ⟨p, m, e, hm⟩ <;> rfl

theorem rank_div_congr {u u' : UnpackedFloat} (same : rank u = rank u') :
    rank (UnpackedFloat.div f u v) = rank (UnpackedFloat.div f u' v) := by
  rcases rank_eq_iff.mp same with rfl | ⟨s, t, rfl, rfl⟩
  · rfl
  · rcases v with p | _ | p | ⟨p, m, e, hm⟩ <;> rfl

end Operations

/-! ## The laws of binary32 -/

theorem rank_stored_congr {u v : UnpackedFloat} (same : rank u = rank v) :
    rank (stored u) = rank (stored v) := by
  rcases rank_eq_iff.mp same with rfl | ⟨s, t, rfl, rfl⟩
  · rfl
  · rw [stored_zero, stored_zero]
    rfl

theorem rank_neg_congr {u v : UnpackedFloat} (same : rank u = rank v) :
    rank u.neg = rank v.neg := by
  rcases rank_eq_iff.mp same with rfl | ⟨s, t, rfl, rfl⟩
  · rfl
  · rfl

theorem add_comm (a b : Float32) : a + b = b + a :=
  eq_of_unpack (congrArg stored (add_unpacked_comm _ _))

theorem mul_comm (a b : Float32) : a * b = b * a :=
  eq_of_unpack (congrArg stored (mul_unpacked_comm _ _))

theorem neg_mul (a b : Float32) : -a * b = -(a * b) := by
  refine eq_of_unpack ?_
  calc (-a * b).toModel.unpack
      = stored (UnpackedFloat.mul .binary32 (-a).toModel.unpack b.toModel.unpack) := rfl
    _ = stored (UnpackedFloat.mul .binary32 a.toModel.unpack b.toModel.unpack).neg := by
        rw [unpack_neg, neg_mul_unpacked]
    _ = (-(a * b)).toModel.unpack := by
        rw [stored_neg, unpack_neg]
        rfl

theorem sub_eq_add_neg (a b : Float32) : a - b = a + -b := by
  refine eq_of_unpack ?_
  calc (a - b).toModel.unpack
      = stored (UnpackedFloat.sub .binary32 a.toModel.unpack b.toModel.unpack) := rfl
    _ = stored (UnpackedFloat.add .binary32 a.toModel.unpack (-b).toModel.unpack) := by
        rw [sub_eq_add_neg_unpacked, unpack_neg]

theorem neg_add_alike (a b : Float32) : Scalar.Alike (-(a + b)) (-a + -b) := by
  rw [alike_iff_rank]
  calc rank (-(a + b)).toModel.unpack
      = rank (stored (UnpackedFloat.add .binary32 a.toModel.unpack b.toModel.unpack).neg) := by
        rw [unpack_neg, stored_neg]
        rfl
    _ = rank (stored
          (UnpackedFloat.add .binary32 (-a).toModel.unpack (-b).toModel.unpack)) := by
        rw [rank_stored_congr (rank_neg_add _ _), unpack_neg, unpack_neg]

theorem add_alike_left {a a' : Float32} (alike : Scalar.Alike a a') (b : Float32) :
    Scalar.Alike (a + b) (a' + b) :=
  alike_iff_rank.mpr (rank_stored_congr (rank_add_congr _ (alike_iff_rank.mp alike)))

theorem mul_alike_left {a a' : Float32} (alike : Scalar.Alike a a') (b : Float32) :
    Scalar.Alike (a * b) (a' * b) :=
  alike_iff_rank.mpr (rank_stored_congr (rank_mul_congr _ (alike_iff_rank.mp alike)))

theorem alike_trans {a b c : Float32} (first : Scalar.Alike a b) (second : Scalar.Alike b c) :
    Scalar.Alike a c :=
  alike_iff_rank.mpr ((alike_iff_rank.mp first).trans (alike_iff_rank.mp second))

/-- Ranks lie on a line, so numbers of which neither is less have the same rank. -/
theorem alike_of_not_lt {a b : Float32} (numberA : Scalar.isNaN a = false)
    (numberB : Scalar.isNaN b = false) (notLess : ¬ a < b) (notGreater : ¬ b < a) :
    Scalar.Alike a b := by
  obtain ⟨x, hx⟩ := rank_of_isNumber numberA
  obtain ⟨y, hy⟩ := rank_of_isNumber numberB
  have same : x = y := by
    rcases lt_trichotomy x y with less | same | greater
    · exact absurd (lt_iff_rank.mpr ⟨x, y, hx, hy, less⟩) notLess
    · exact same
    · exact absurd (lt_iff_rank.mpr ⟨y, x, hy, hx, greater⟩) notGreater
  rw [alike_iff_rank, hx, hy, same]

instance : SymmetricScalar Float32 where
  alike_symm alike := alike_iff_rank.mpr (alike_iff_rank.mp alike).symm
  alike_trans := alike_trans
  alike_of_not_lt := alike_of_not_lt
  lt_of_alike first second less := by
    rw [lt_iff_rank] at less ⊢
    rwa [← alike_iff_rank.mp first, ← alike_iff_rank.mp second]
  add_alike {a a' b b'} first second := by
    have other := add_alike_left second a'
    rw [add_comm b, add_comm b'] at other
    exact alike_trans (add_alike_left first b) other
  mul_alike {a a' b b'} first second := by
    have other := mul_alike_left second a'
    rw [mul_comm b, mul_comm b'] at other
    exact alike_trans (mul_alike_left first b) other
  neg_alike {a a'} alike := by
    rw [alike_iff_rank, unpack_neg, unpack_neg]
    exact rank_neg_congr (alike_iff_rank.mp alike)
  div_alike alike _ :=
    alike_iff_rank.mpr (rank_stored_congr (rank_div_congr _ (alike_iff_rank.mp alike)))
  add_comm := add_comm
  mul_comm := mul_comm
  neg_neg a := eq_of_unpack (by rw [unpack_neg, unpack_neg, neg_neg_unpacked])
  neg_mul := neg_mul
  sub_eq_add_neg := sub_eq_add_neg
  neg_add_alike := neg_add_alike

end Binary32

end PlanarDynamics
