import Mathlib.Data.Prod.Lex
import PlanarDynamics.Scalar.Binary32
import PlanarDynamics.Proofs.Scalar.Comparison

/-!
# Comparisons of binary32 numbers

Binary32 numbers satisfy the laws of `OrderedScalar`. A number that is not undefined has a
place on a line, its `rank`: the sign first, then exponent and mantissa, with both zeros at the
same place. Comparing numbers is comparing ranks (`lt_iff_rank`), so the laws of the order are
those of a linear order.

The midpoint of two finite numbers is a number because packing never makes an undefined value
out of a defined one (`pack_eq_notANumber`): a sum that is too large becomes an infinity.
-/

set_option autoImplicit false

namespace PlanarDynamics

namespace Binary32

open Float.Model (Format UnpackedFloat)
open Float.Model.UnpackedFloat (Sign packedInfinity packedZero unpackExponent unpackMantissa)

/-! ## The line of numbers -/

/-- The place of a number among all numbers, none for an undefined one. -/
def rank : UnpackedFloat → Option (ℤ ×ₗ ℤ ×ₗ ℤ)
  | .notANumber => none
  | .infinity .negative => some (toLex (-2, toLex (0, 0)))
  | .finite .negative m e _ => some (toLex (-1, toLex (-e, -m)))
  | .zero _ => some (toLex (0, toLex (0, 0)))
  | .finite .positive m e _ => some (toLex (1, toLex (e, m)))
  | .infinity .positive => some (toLex (2, toLex (0, 0)))

theorem rank_eq_none_iff {u : UnpackedFloat} : rank u = none ↔ u = .notANumber := by
  constructor
  · intro unplaced
    rcases u with s | _ | s | ⟨s, m, e, h⟩
    · cases s <;> cases unplaced
    · rfl
    · cases unplaced
    · cases s <;> cases unplaced
  · rintro rfl
    rfl

theorem compare_sign (s t : Sign) :
    compare s t = match s, t with
      | .negative, .positive => .lt
      | .positive, .negative => .gt
      | _, _ => .eq := by
  cases s <;> cases t <;> rfl

/-- Unpacked numbers are compared by their ranks. -/
theorem lt_eq_true_iff {u v : UnpackedFloat} :
    UnpackedFloat.lt u v = true ↔ ∃ x y, rank u = some x ∧ rank v = some y ∧ x < y := by
  rcases u with s | _ | s | ⟨s, m, e, hm⟩ <;> rcases v with t | _ | t | ⟨t, n, f, hn⟩ <;>
    (try cases s) <;> (try cases t) <;>
    dsimp only [UnpackedFloat.lt, UnpackedFloat.compare, rank] <;>
    simp [compare_sign, Prod.Lex.toLex_lt_toLex, Ordering.swap_eq_lt, Ordering.then_eq_lt,
      Ordering.then_eq_gt, Int.compare_eq_lt, Int.compare_eq_gt, Nat.compare_eq_lt,
      Nat.compare_eq_gt]

/-- Only an undefined value differs from itself. -/
theorem beq_self_eq_false_iff {u : UnpackedFloat} :
    UnpackedFloat.beq u u = false ↔ u = .notANumber := by
  have equal : UnpackedFloat.beq u u = (UnpackedFloat.compare u u == some .eq) := rfl
  rw [equal]
  cases u with
  | notANumber => exact iff_of_true rfl rfl
  | infinity s => cases s <;> exact iff_of_false nofun nofun
  | zero s => exact iff_of_false nofun nofun
  | finite s m e h =>
      refine iff_of_false ?_ nofun
      cases s <;> dsimp only [UnpackedFloat.compare] <;> simp

/-! ## Packing keeps numbers defined -/

theorem eq_notANumber_of_unpack {s : Format} {b : BitVec s.numBits}
    (h : UnpackedFloat.unpack s b = .notANumber) :
    unpackExponent b = -1#_ ∧ unpackMantissa b ≠ 0#_ := by
  dsimp only [UnpackedFloat.unpack] at h
  by_cases top : unpackExponent b = -1#_
  · rw [if_pos top] at h
    by_cases empty : unpackMantissa b = 0#_
    · rw [if_pos empty] at h
      cases h
    · exact ⟨top, empty⟩
  · rw [if_neg top] at h
    by_cases bottom : unpackExponent b = 0#_
    · rw [if_pos bottom] at h
      by_cases empty : unpackMantissa b = 0#_
      · rw [dif_pos empty] at h
        cases h
      · rw [dif_neg empty] at h
        cases h
    · rw [if_neg bottom] at h
      cases h

/-- Packing makes no undefined value out of a defined one: a number of ordinary size keeps its
exponent below the one of an undefined value. -/
theorem pack_eq_notANumber {s : Format} {u : UnpackedFloat}
    (h : UnpackedFloat.unpack s (UnpackedFloat.pack s u) = .notANumber) : u = .notANumber := by
  obtain ⟨exponent, mantissa⟩ := eq_notANumber_of_unpack h
  have positive : 1 < 2 ^ s.exponentBits := Nat.one_lt_two_pow s.he.ne'
  revert exponent mantissa
  fun_cases UnpackedFloat.pack with
  | case1 => exact fun _ _ => rfl
  | case2 sign => exact fun _ full => absurd (UnpackedFloat.unpackMantissa_packComponents ..) full
  | case3 sign => exact fun _ full => absurd (UnpackedFloat.unpackMantissa_packComponents ..) full
  | case4 sign m e hm biased large =>
      exact fun _ full => absurd (UnpackedFloat.unpackMantissa_packComponents ..) full
  | case5 sign m e hm width biased small normal =>
      intro exponent
      have same := congrArg BitVec.toNat exponent
      simp only [UnpackedFloat.unpackExponent_packComponents, BitVec.toNat_ofNat,
        BitVec.neg_one_eq_allOnes, BitVec.toNat_allOnes] at same
      rw [Nat.mod_eq_of_lt (by omega)] at same
      omega
  | case6 sign m e hm width biased small subnormal =>
      intro exponent
      have same := congrArg BitVec.toNat exponent
      simp only [UnpackedFloat.unpackExponent_packComponents, BitVec.toNat_ofNat,
        BitVec.neg_one_eq_allOnes, BitVec.toNat_allOnes, Nat.zero_mod] at same
      omega

theorem not_lt_negative_infinity (u : UnpackedFloat) :
    UnpackedFloat.lt u (.infinity .negative) = false := by
  rcases u with p | _ | p | ⟨p, m, e, hm⟩ <;> (try cases p) <;> rfl

theorem not_positive_infinity_lt (u : UnpackedFloat) :
    UnpackedFloat.lt (.infinity .positive) u = false := by
  rcases u with p | _ | p | ⟨p, m, e, hm⟩ <;> (try cases p) <;> rfl

/-- A value that lies between others is neither infinite nor undefined. -/
theorem isFinite_of_between {u v w : UnpackedFloat} (below : UnpackedFloat.lt u v = true)
    (above : UnpackedFloat.lt v w = true) : v.isFinite = true := by
  cases v with
  | infinity p =>
      cases p with
      | negative => exact absurd below (Bool.eq_false_iff.mp (not_lt_negative_infinity u))
      | positive => exact absurd above (Bool.eq_false_iff.mp (not_positive_infinity_lt w))
  | notANumber => cases above
  | zero p => rfl
  | finite p m e hm => rfl

theorem roundWithAccuracy_ne_notANumber (s : Format) (sign : Sign) (m : ℕ) (e : ℤ)
    (accuracy : UnpackedFloat.Accuracy) :
    UnpackedFloat.roundWithAccuracy s sign m e accuracy ≠ .notANumber := by
  unfold UnpackedFloat.roundWithAccuracy
  dsimp only
  intro undefined
  generalize UnpackedFloat.shiftToTargetExponent s _ _ _ = kept at undefined
  by_cases vanished : kept.1.mantissa = 0
  · rw [dif_pos vanished] at undefined
    cases undefined
  · rw [dif_neg vanished] at undefined
    cases undefined

theorem normalize_ne_notANumber (s : Format) (m e : ℤ) (z : Sign) :
    UnpackedFloat.normalize s m e z ≠ .notANumber := by
  unfold UnpackedFloat.normalize
  generalize compare m 0 = order
  cases order with
  | lt => exact roundWithAccuracy_ne_notANumber _ _ _ _ _
  | eq => nofun
  | gt => exact roundWithAccuracy_ne_notANumber _ _ _ _ _

theorem add_ne_notANumber {s : Format} {u v : UnpackedFloat} (hu : u.isFinite = true)
    (hv : v.isFinite = true) : UnpackedFloat.add s u v ≠ .notANumber := by
  rcases u with _ | _ | p | ⟨p, m, e, hm⟩
  · cases hu
  · cases hu
  · rcases v with _ | _ | q | ⟨q, n, f, hn⟩
    · cases hv
    · cases hv
    · cases p <;> cases q <;> nofun
    · nofun
  · rcases v with _ | _ | q | ⟨q, n, f, hn⟩
    · cases hv
    · cases hv
    · nofun
    · exact normalize_ne_notANumber _ _ _ _

theorem mul_ne_notANumber {s : Format} {u : UnpackedFloat} (hu : u ≠ .notANumber) {p : Sign}
    {m : ℕ} {e : ℤ} {hm : 0 < m} :
    UnpackedFloat.mul s u (.finite p m e hm) ≠ .notANumber := by
  cases u with
  | notANumber => exact absurd rfl hu
  | infinity q => nofun
  | zero q => nofun
  | finite q n f hn => exact roundWithAccuracy_ne_notANumber _ _ _ _ _

/-! ## The laws of binary32 -/

theorem lt_iff {a b : Float32} :
    a < b ↔ UnpackedFloat.lt a.toModel.unpack b.toModel.unpack = true := by
  show decide (a.toModel < b.toModel) = true ↔ _
  rw [decide_eq_true_iff]
  exact Iff.rfl

/-- Numbers are compared by their ranks. -/
theorem lt_iff_rank {a b : Float32} :
    a < b ↔ ∃ x y, rank a.toModel.unpack = some x ∧ rank b.toModel.unpack = some y ∧ x < y :=
  lt_iff.trans lt_eq_true_iff

theorem isNaN_eq_true_iff {a : Float32} :
    Scalar.isNaN a = true ↔ a.toModel.unpack = .notANumber := by
  unfold Scalar.isNaN
  rw [Bool.not_eq_true', ← beq_self_eq_false_iff]
  exact Iff.rfl

/-- A number has a rank. -/
theorem rank_of_isNumber {a : Float32} (h : Scalar.isNaN a = false) :
    ∃ x, rank a.toModel.unpack = some x := by
  rw [← Option.isSome_iff_exists, Option.isSome_iff_ne_none, ne_eq, rank_eq_none_iff,
    ← isNaN_eq_true_iff, h]
  exact Bool.false_ne_true

theorem isNumber_of_rank {a : Float32} {x : ℤ ×ₗ ℤ ×ₗ ℤ} (h : rank a.toModel.unpack = some x) :
    Scalar.isNaN a = false := by
  rw [Bool.eq_false_iff, ne_eq, isNaN_eq_true_iff, ← rank_eq_none_iff, h]
  exact Option.some_ne_none x

theorem isNaN_ofModel_pack {u : UnpackedFloat} (h : u ≠ .notANumber) :
    Scalar.isNaN (Float32.ofModel (.pack u)) = false := by
  rw [Bool.eq_false_iff, ne_eq, isNaN_eq_true_iff]
  exact fun nan => h (pack_eq_notANumber nan)

theorem isNumber_midpoint {a b x y x' y' : Float32} (ha : x < a ∧ a < y) (hb : x' < b ∧ b < y') :
    Scalar.isNaN ((a + b) * (0.5 : Float32)) = false := by
  have finiteA := isFinite_of_between (lt_iff.mp ha.1) (lt_iff.mp ha.2)
  have finiteB := isFinite_of_between (lt_iff.mp hb.1) (lt_iff.mp hb.2)
  have half : (0.5 : Float32).toModel.unpack = .finite .positive 8388608 (-24) (by decide) := rfl
  refine isNaN_ofModel_pack ?_
  rw [half]
  exact mul_ne_notANumber fun nan => add_ne_notANumber finiteA finiteB (pack_eq_notANumber nan)

instance : OrderedScalar Float32 where
  lt_asymm h h' := by
    obtain ⟨x, y, hx, hy, less⟩ := lt_iff_rank.mp h
    obtain ⟨y', x', hy', hx', less'⟩ := lt_iff_rank.mp h'
    rw [hx] at hx'
    rw [hy] at hy'
    cases hx'
    cases hy'
    exact lt_asymm less less'
  isNumber_of_lt h := by
    obtain ⟨x, y, hx, hy, _⟩ := lt_iff_rank.mp h
    exact ⟨isNumber_of_rank hx, isNumber_of_rank hy⟩
  lt_or_lt h number := by
    obtain ⟨x, y, hx, hy, less⟩ := lt_iff_rank.mp h
    obtain ⟨z, hz⟩ := rank_of_isNumber number
    rcases lt_or_ge x z with below | above
    · exact Or.inl (lt_iff_rank.mpr ⟨x, z, hx, hz, below⟩)
    · exact Or.inr (lt_iff_rank.mpr ⟨z, y, hz, hy, above.trans_lt less⟩)
  isNumber_midpoint := fun ⟨_, _, ha⟩ ⟨_, _, hb⟩ => isNumber_midpoint ha hb
  zero_lt_one := by decide

end Binary32

end PlanarDynamics
