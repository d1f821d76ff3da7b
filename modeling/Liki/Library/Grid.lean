import Mathlib.Algebra.Order.Floor.Ring
import Mathlib.Algebra.Order.Field.Basic
import Mathlib.Order.Bounds.Basic
import Mathlib.Tactic.Linarith

/-! Rounding onto a grid of equal steps. The multiple below a value is the greatest that is not above
it, the multiple above is the least that is not below it, and both keep what is on the grid. -/
namespace Grid
open Int

variable {Value : Type*} [Field Value] [LinearOrder Value]

def On (step value : Value) : Prop := ∃ count : ℤ, value = count * step

section Rounding

variable [FloorRing Value]

def below (step value : Value) : Value := ⌊value / step⌋ * step

def above (step value : Value) : Value := ⌈value / step⌉ * step

theorem below_on (step value : Value) : On step (below step value) := ⟨⌊value / step⌋, rfl⟩

theorem above_on (step value : Value) : On step (above step value) := ⟨⌈value / step⌉, rfl⟩

variable [IsStrictOrderedRing Value] {step value : Value}

theorem below_le (value : Value) (positive : 0 < step) : below step value ≤ value :=
  (le_div_iff₀ positive).mp (floor_le (value / step))

theorem le_above (value : Value) (positive : 0 < step) : value ≤ above step value :=
  (div_le_iff₀ positive).mp (le_ceil (value / step))

/-- The multiple below is less than a step away. -/
theorem lt_below_add (value : Value) (positive : 0 < step) : value < below step value + step := by
  have near := (div_lt_iff₀ positive).mp (lt_floor_add_one (value / step))
  rwa [add_mul, one_mul] at near

/-- The multiple above is less than a step away. -/
theorem above_lt_add (value : Value) (positive : 0 < step) : above step value < value + step := by
  have near := mul_lt_mul_of_pos_right (ceil_lt_add_one (value / step)) positive
  rwa [add_mul, one_mul, div_mul_cancel₀ _ positive.ne'] at near

theorem below_isGreatest (positive : 0 < step) :
    IsGreatest {multiple | On step multiple ∧ multiple ≤ value} (below step value) := by
  refine ⟨⟨below_on step value, below_le value positive⟩, ?_⟩
  rintro _ ⟨⟨_, rfl⟩, within⟩
  refine mul_le_mul_of_nonneg_right ?_ positive.le
  exact_mod_cast le_floor.mpr ((le_div_iff₀ positive).mpr within)

theorem above_isLeast (positive : 0 < step) :
    IsLeast {multiple | On step multiple ∧ value ≤ multiple} (above step value) := by
  refine ⟨⟨above_on step value, le_above value positive⟩, ?_⟩
  rintro _ ⟨⟨_, rfl⟩, within⟩
  refine mul_le_mul_of_nonneg_right ?_ positive.le
  exact_mod_cast ceil_le.mpr ((div_le_iff₀ positive).mpr within)

/-- What is on the grid stays. -/
theorem below_eq_self (positive : 0 < step) (on : On step value) : below step value = value :=
  ((below_isGreatest positive).unique ⟨⟨on, le_rfl⟩, fun _ lower => lower.2⟩)

theorem above_eq_self (positive : 0 < step) (on : On step value) : above step value = value :=
  ((above_isLeast positive).unique ⟨⟨on, le_rfl⟩, fun _ upper => upper.2⟩)

/-- Of a value that is not negative, something is left below exactly when it reaches one step. -/
theorem below_pos_iff (positive : 0 < step) : 0 < below step value ↔ step ≤ value := by
  constructor
  · intro some
    have count : 0 < ⌊value / step⌋ := by
      have cast := (pos_iff_pos_of_mul_pos some).mpr positive
      exact_mod_cast cast
    have one : (1 : Value) ≤ value / step :=
      le_trans (by exact_mod_cast count) (floor_le (value / step))
    exact (one_le_div positive).mp one
  · intro reaches
    have whole : On step step := ⟨1, by rw [cast_one, one_mul]⟩
    exact positive.trans_le ((below_isGreatest positive).2 ⟨whole, reaches⟩)

end Rounding

end Grid
