import Mathlib.Data.Nat.Bitwise
import Mathlib.Order.Bounds.Basic
import PlanarDynamics.Store.Memory

/-!
# Alignment

`alignUp` rounds a count up to a multiple of a power of two by clearing its low bits. As long as
the sum before the bits are cleared is a 64-bit count, this is rounding of plain numbers
(`toNat_alignUp`), to the least multiple that is not below the value (`isLeast_alignUp`).

The result is below a multiple exactly when the value is (`alignUp_le_iff`), so a greater value has
no lesser result, and rounding a result changes nothing. A result can always be rounded, also at the
top of the range, where the next multiple would be no 64-bit count any more (`alignUp_fits`).
-/

set_option autoImplicit false

namespace PlanarDynamics

/-- Clearing the low bits of a 64-bit count rounds it down to a multiple of a power of two. -/
theorem and_not_low_bits {value bits : Nat} (small : value < 2 ^ 64) (width : bits ≤ 64) :
    value &&& (2 ^ 64 - 1 - (2 ^ bits - 1)) = value / 2 ^ bits * 2 ^ bits := by
  have positive : 0 < 2 ^ bits := Nat.two_pow_pos bits
  have low : 2 ^ bits - 1 < 2 ^ 64 :=
    Nat.lt_of_lt_of_le (Nat.sub_one_lt_of_lt positive) (Nat.pow_le_pow_right (by decide) width)
  have mask : 2 ^ 64 - 1 - (2 ^ bits - 1) = 2 ^ 64 - (2 ^ bits - 1 + 1) := by omega
  refine Nat.eq_of_testBit_eq fun i => ?_
  rw [mask, Nat.testBit_and, Nat.testBit_two_pow_sub_succ low, Nat.testBit_two_pow_sub_one,
    Nat.testBit_mul_two_pow, Nat.testBit_div_two_pow]
  by_cases above : bits ≤ i
  · rw [Nat.sub_add_cancel above, decide_eq_true above, decide_eq_false (Nat.not_lt.mpr above)]
    by_cases inside : i < 64
    · simp [inside]
    · have zero : value.testBit i = false := Nat.testBit_lt_two_pow
        (Nat.lt_of_lt_of_le small (Nat.pow_le_pow_right (by decide) (Nat.not_lt.mp inside)))
      simp [zero]
  · simp [above, Nat.lt_of_not_le above]

variable {value align : UInt64} {bits : Nat}

theorem bits_le_of_power (power : align.toNat = 2 ^ bits) : bits ≤ 64 :=
  Nat.le_of_lt ((Nat.pow_lt_pow_iff_right (by decide)).mp (power ▸ align.toNat_lt))

/-- Without overflow, aligning is rounding up. -/
theorem toNat_alignUp (power : align.toNat = 2 ^ bits)
    (fits : value.toNat + (align.toNat - 1) < 2 ^ 64) :
    (alignUp value align).toNat =
      (value.toNat + (align.toNat - 1)) / align.toNat * align.toNat := by
  have positive : 0 < 2 ^ bits := Nat.two_pow_pos bits
  have one_le : 1 ≤ align := UInt64.le_iff_toNat_le.mpr (power ▸ positive)
  have low : (align - 1).toNat = align.toNat - 1 := UInt64.toNat_sub_of_le align 1 one_le
  have raised : (value + align - 1).toNat = value.toNat + (align.toNat - 1) := by
    have regrouped : value + align - 1 = value + (align - 1) := by
      rw [UInt64.sub_eq_add_neg, UInt64.add_assoc, ← UInt64.sub_eq_add_neg]
    rw [regrouped, UInt64.toNat_add, low, Nat.mod_eq_of_lt fits]
  have size : UInt64.size = 2 ^ 64 := rfl
  rw [alignUp, UInt64.toNat_and, UInt64.toNat_not, raised, low, size, power]
  exact and_not_low_bits (power ▸ fits) (bits_le_of_power power)

/-- Aligning takes nothing away. -/
theorem le_alignUp (power : align.toNat = 2 ^ bits)
    (fits : value.toNat + (align.toNat - 1) < 2 ^ 64) :
    value.toNat ≤ (alignUp value align).toNat := by
  have positive : 0 < align.toNat := power ▸ Nat.two_pow_pos bits
  rw [toNat_alignUp power fits]
  have rounded := Nat.div_add_mod (value.toNat + (align.toNat - 1)) align.toNat
  have rest := Nat.mod_lt (value.toNat + (align.toNat - 1)) positive
  rw [Nat.mul_comm] at rounded
  omega

/-- Aligning gives the least multiple that is not below the value. -/
theorem isLeast_alignUp (power : align.toNat = 2 ^ bits)
    (fits : value.toNat + (align.toNat - 1) < 2 ^ 64) :
    IsLeast {n | value.toNat ≤ n ∧ align.toNat ∣ n} (alignUp value align).toNat := by
  have positive : 0 < align.toNat := power ▸ Nat.two_pow_pos bits
  refine ⟨⟨le_alignUp power fits, ?_⟩, ?_⟩
  · rw [toNat_alignUp power fits]
    exact Nat.dvd_mul_left _ _
  · rintro _ ⟨above, quotient, rfl⟩
    rw [toNat_alignUp power fits, Nat.mul_comm]
    refine Nat.mul_le_mul_left _ (Nat.lt_succ_iff.mp ((Nat.div_lt_iff_lt_mul positive).mpr ?_))
    rw [Nat.succ_mul, Nat.mul_comm quotient]
    omega

/-- A result lies below a multiple exactly when the value does. -/
theorem alignUp_le_iff (power : align.toNat = 2 ^ bits)
    (fits : value.toNat + (align.toNat - 1) < 2 ^ 64) {n : Nat} (multiple : align.toNat ∣ n) :
    (alignUp value align).toNat ≤ n ↔ value.toNat ≤ n := by
  obtain ⟨⟨above, _⟩, least⟩ := isLeast_alignUp power fits
  exact ⟨above.trans, fun below => least ⟨below, multiple⟩⟩

/-- Between the last multiple that is a 64-bit count and the first one that is none there is room
for the alignment. -/
theorem alignUp_fits (power : align.toNat = 2 ^ bits)
    (fits : value.toNat + (align.toNat - 1) < 2 ^ 64) :
    (alignUp value align).toNat + (align.toNat - 1) < 2 ^ 64 := by
  obtain ⟨⟨_, multiple⟩, _⟩ := isLeast_alignUp power fits
  have word : (alignUp value align).toNat < 2 ^ 64 := UInt64.toNat_lt _
  have whole : align.toNat ∣ 2 ^ 64 := power ▸ Nat.pow_dvd_pow 2 (bits_le_of_power power)
  have room : align.toNat ≤ 2 ^ 64 - (alignUp value align).toNat :=
    Nat.le_of_dvd (Nat.sub_pos_of_lt word) (Nat.dvd_sub whole multiple)
  have positive : 0 < align.toNat := power ▸ Nat.two_pow_pos bits
  omega

/-- **Aligning rounds up.** Whenever the value and the alignment less one add up to a 64-bit count,
the result is the least multiple that is not below the value, it is its own result, and no lesser
value has a greater one. -/
theorem alignUp_rounds_up (value align : UInt64) (power : align.toNat.isPowerOfTwo)
    (fits : value.toNat + align.toNat - 1 < 2 ^ 64) :
    IsLeast {n | value.toNat ≤ n ∧ align.toNat ∣ n} (alignUp value align).toNat ∧
      alignUp (alignUp value align) align = alignUp value align ∧
      ∀ lesser ≤ value, alignUp lesser align ≤ alignUp value align := by
  obtain ⟨bits, power⟩ := power
  have positive : 0 < align.toNat := power ▸ Nat.two_pow_pos bits
  have fits : value.toNat + (align.toNat - 1) < 2 ^ 64 := by omega
  have least := isLeast_alignUp power fits
  have above := least.1.1
  have multiple := least.1.2
  refine ⟨least, ?_, fun lesser le => ?_⟩
  · have again := alignUp_fits power fits
    refine UInt64.toNat_inj.mp (Nat.le_antisymm ?_ (le_alignUp power again))
    exact (alignUp_le_iff power again multiple).mpr (Nat.le_refl _)
  · have le : lesser.toNat ≤ value.toNat := UInt64.le_iff_toNat_le.mp le
    have fits' : lesser.toNat + (align.toNat - 1) < 2 ^ 64 := by omega
    exact UInt64.le_iff_toNat_le.mpr ((alignUp_le_iff power fits' multiple).mpr (le.trans above))

/-- The last value that eight can still round up to a greater one. -/
theorem alignUp_rounds_up_last :
    let value : UInt64 := 0xFFFFFFFFFFFFFFF7
    let align : UInt64 := 8
    align.toNat.isPowerOfTwo ∧ value.toNat + align.toNat - 1 < 2 ^ 64 ∧
      alignUp value align = 0xFFFFFFFFFFFFFFF8 ∧
      IsLeast {n | value.toNat ≤ n ∧ align.toNat ∣ n} (alignUp value align).toNat ∧
      alignUp (alignUp value align) align = alignUp value align ∧
      ∀ lesser ≤ value, alignUp lesser align ≤ alignUp value align :=
  have power : (8 : UInt64).toNat.isPowerOfTwo := ⟨3, rfl⟩
  have fits : (0xFFFFFFFFFFFFFFF7 : UInt64).toNat + (8 : UInt64).toNat - 1 < 2 ^ 64 := by decide
  ⟨power, fits, by decide, alignUp_rounds_up _ _ power fits⟩

end PlanarDynamics
