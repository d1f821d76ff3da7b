import Liki.Library.DecimalArithmetic

/-! Rational numbers in binary floating point with 53 significant bits. A number is rounded to a
multiple of its unit, ties to even. Integers of at most 53 bits are exact, and the integral part of a
number survives as long as the number keeps more than half a unit away from the next integer. -/
namespace BinaryFloat
open DecimalArithmetic Int

/-- The value of the last bit. -/
def unit (x : ℚ) : ℚ := 2 ^ (log 2 |x| - 52)

/-- The nearest `double`, within the range of the exponents. -/
def double (x : ℚ) : ℚ := roundHalfEven (x / unit x) * unit x

@[simp] theorem double_zero : double 0 = 0 := by
  rw [double, zero_div, show roundHalfEven 0 = 0 from roundHalfEven_int 0, cast_zero, zero_mul]

theorem unit_pos (x : ℚ) : 0 < unit x := zpow_pos (by norm_num) _

theorem roundHalfEven_sub_le (x : ℚ) : (roundHalfEven x : ℚ) - x ≤ 1 / 2 := by
  have below := floor_le x
  have above := lt_floor_add_one x
  unfold roundHalfEven
  split_ifs <;> push_cast <;> linarith

/-- Rounding adds at most half a unit. -/
theorem double_sub_le (x : ℚ) : double x - x ≤ unit x / 2 := by
  have positive := unit_pos x
  have nearest := mul_le_mul_of_nonneg_right (roundHalfEven_sub_le (x / unit x)) positive.le
  rw [sub_mul, div_mul_cancel₀ x positive.ne'] at nearest
  unfold double
  linarith

theorem unit_le {x : ℚ} {bits : ℤ} (nonzero : x ≠ 0) (below : |x| < 2 ^ bits) : unit x ≤ 2 ^ (bits - 53) := by
  have log : log 2 |x| < bits := (lt_zpow_iff_log_lt (by norm_num) (abs_pos.mpr nonzero)).mp below
  exact zpow_le_zpow_right₀ (by norm_num) (by omega)

theorem int_multiple {x : ℚ} (nonzero : x ≠ 0) (below : |x| < 2 ^ (53 : ℤ)) (n : ℤ) :
    ∃ multiple : ℤ, (n : ℚ) / unit x = multiple := by
  have log : Int.log 2 |x| < 53 := (Int.lt_zpow_iff_log_lt (by norm_num) (abs_pos.mpr nonzero)).mp below
  obtain ⟨bits, _⟩ := Int.eq_ofNat_of_zero_le (show 0 ≤ 52 - Int.log 2 |x| by omega)
  refine ⟨n * 2 ^ bits, ?_⟩
  have unitEq : unit x = ((2 : ℚ) ^ bits)⁻¹ := by
    rw [unit, ← zpow_natCast, ← zpow_neg]
    congr 1
    omega
  rw [unitEq, div_inv_eq_mul]
  push_cast
  rfl

/-- Integers of at most 53 bits are exact. -/
theorem double_int (n : ℤ) (short : |n| < 2 ^ 53) : double n = n := by
  rcases eq_or_ne n 0 with rfl | nonzero
  · simp
  have cast : (n : ℚ) ≠ 0 := cast_ne_zero.mpr nonzero
  have below : |(n : ℚ)| < 2 ^ (53 : ℤ) := by exact_mod_cast short
  obtain ⟨_, same⟩ := int_multiple cast below n
  rw [double, same, roundHalfEven_int, ← same, div_mul_cancel₀ _ (unit_pos _).ne']

/-- An integer below a number is below its `double`. -/
theorem int_le_double {x : ℚ} (n : ℤ) (below : |x| < 2 ^ (53 : ℤ)) (least : n ≤ x) : n ≤ double x := by
  rcases eq_or_ne x 0 with rfl | nonzero
  · simpa using least
  have positive := unit_pos x
  obtain ⟨multiple, same⟩ := int_multiple nonzero below n
  have scaled : (multiple : ℚ) ≤ x / unit x := same ▸ div_le_div_of_nonneg_right least positive.le
  have kept : (multiple : ℚ) ≤ roundHalfEven (x / unit x) := by exact_mod_cast le_roundHalfEven scaled
  have back := mul_le_mul_of_nonneg_right kept positive.le
  rwa [← same, div_mul_cancel₀ _ positive.ne'] at back

/-- The integral part survives when the number keeps more than half a unit away from the next integer. -/
theorem floor_double {x : ℚ} {bits : ℤ} (few : bits ≤ 53) (below : |x| < 2 ^ bits)
    (gap : (2 : ℚ) ^ (bits - 54) < ⌊x⌋ + 1 - x) : ⌊double x⌋ = ⌊x⌋ := by
  rcases eq_or_ne x 0 with rfl | nonzero
  · simp
  have within : |x| < 2 ^ (53 : ℤ) := below.trans_le (zpow_le_zpow_right₀ (by norm_num) few)
  refine floor_eq_iff.mpr ⟨int_le_double ⌊x⌋ within (floor_le x), ?_⟩
  have half : unit x / 2 ≤ 2 ^ (bits - 54) := by
    have smaller := unit_le nonzero below
    rw [show bits - 53 = bits - 54 + 1 by ring, zpow_add_one₀ (by norm_num)] at smaller
    linarith
  linarith [double_sub_le x]

end BinaryFloat
