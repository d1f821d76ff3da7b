import Mathlib.MeasureTheory.Integral.IntegralEqImproper
import Mathlib.Probability.Distributions.Gaussian.Real

/-! Survival functions of symmetric continuous distributions, with their inverses. The probability to
exceed a boundary is one half at zero, so the boundary of a probability is positive exactly when the
probability is less than one half. A positive even density has such a function; the standard normal
distribution is the one of the Gaussian density. -/
open MeasureTheory Filter
open scoped Topology

/-- The probability to exceed a value, and the value that is exceeded with a probability. -/
structure SurvivalFunction where
  sf : ℝ → ℝ
  isf : ℝ → ℝ
  continuous : Continuous sf
  decreasing : StrictAnti sf
  proper : ∀ x, 0 < sf x ∧ sf x < 1
  symmetric : ∀ x, sf (-x) = 1 - sf x
  inverse : ∀ p, 0 < p → p < 1 → sf (isf p) = p

namespace SurvivalFunction

theorem sf_zero (distribution : SurvivalFunction) : distribution.sf 0 = 1 / 2 := by
  have zero := distribution.symmetric 0
  rw [neg_zero] at zero
  linarith

/-- A boundary is positive exactly when it is exceeded with a probability less than one half. -/
theorem isf_pos_iff (distribution : SurvivalFunction) {p : ℝ} (positive : 0 < p) (less : p < 1) :
    0 < distribution.isf p ↔ p < 1 / 2 := by
  rw [← distribution.sf_zero, ← distribution.inverse p positive less, distribution.decreasing.lt_iff_gt,
    distribution.inverse p positive less]

section Density

variable (density : ℝ → ℝ)

/-- What exceeds a value of an even density of total mass one. -/
noncomputable def tail (x : ℝ) : ℝ := 1 / 2 - ∫ t in (0 : ℝ)..x, density t

variable {density} (integrable : Integrable density) (positive : ∀ x, 0 < density x)
  (even : ∀ x, density (-x) = density x) (total : ∫ x, density x = 1)

include integrable in
theorem tail_continuous : Continuous (tail density) :=
  continuous_const.sub (intervalIntegral.continuous_primitive (fun _ _ => integrable.intervalIntegrable) 0)

include integrable positive in
theorem tail_decreasing : StrictAnti (tail density) := by
  intro x y before
  have between := intervalIntegral.intervalIntegral_pos_of_pos (integrable.intervalIntegrable (a := x) (b := y))
    positive before
  have split := intervalIntegral.integral_interval_sub_left (integrable.intervalIntegrable (a := 0) (b := y))
    (integrable.intervalIntegrable (a := 0) (b := x))
  unfold tail
  linarith

include even in
theorem tail_symmetric (x : ℝ) : tail density (-x) = 1 - tail density x := by
  have reflected := intervalIntegral.integral_comp_neg (f := density) (a := 0) (b := x)
  simp only [even, neg_zero] at reflected
  rw [tail, tail, intervalIntegral.integral_symm, ← reflected]
  ring

include integrable even total in
theorem tail_tendsto : Tendsto (tail density) atTop (𝓝 0) := by
  have halves := intervalIntegral.integral_Iic_add_Ioi (b := 0) integrable.integrableOn integrable.integrableOn
  have same := integral_comp_neg_Iic 0 density
  simp only [even, neg_zero] at same
  rw [same, total] at halves
  have half : ∫ x in Set.Ioi (0 : ℝ), density x = 1 / 2 := by linarith
  have mass := intervalIntegral_tendsto_integral_Ioi 0 (f := density) integrable.integrableOn tendsto_id
  rw [half] at mass
  have limit := mass.const_sub (1 / 2 : ℝ)
  rw [sub_self] at limit
  exact limit

include integrable positive even total in
theorem tail_proper (x : ℝ) : 0 < tail density x ∧ tail density x < 1 := by
  have decreasing := tail_decreasing integrable positive
  have above : ∀ x, 0 < tail density x := by
    intro x
    have later := decreasing.antitone.le_of_tendsto (tail_tendsto integrable even total) (x + 1)
    exact later.trans_lt (decreasing (lt_add_one x))
  refine ⟨above x, ?_⟩
  have mirrored := above (-x)
  rw [tail_symmetric even] at mirrored
  linarith

include integrable even total in
theorem tail_surjective {p : ℝ} (above : 0 < p) (below : p < 1) : ∃ x, tail density x = p := by
  have tends := tail_tendsto integrable even total
  obtain ⟨late, small⟩ := (tends.eventually_lt_const above).exists
  obtain ⟨early, _⟩ := (tends.eventually_lt_const (sub_pos.mpr below)).exists
  refine mem_range_of_exists_le_of_exists_ge (tail_continuous integrable) ⟨late, small.le⟩ ⟨-early, ?_⟩
  rw [tail_symmetric even]
  linarith

noncomputable def ofDensity : SurvivalFunction where
  sf := tail density
  isf := Function.invFun (tail density)
  continuous := tail_continuous integrable
  decreasing := tail_decreasing integrable positive
  proper := tail_proper integrable positive even total
  symmetric := tail_symmetric even
  inverse p above below := Function.invFun_eq (tail_surjective integrable even total above below)

end Density

theorem gaussian_even (x : ℝ) :
    ProbabilityTheory.gaussianPDFReal 0 1 (-x) = ProbabilityTheory.gaussianPDFReal 0 1 x := by
  simp [ProbabilityTheory.gaussianPDFReal]

noncomputable def standardNormal : SurvivalFunction :=
  ofDensity (ProbabilityTheory.integrable_gaussianPDFReal 0 1)
    (fun x => ProbabilityTheory.gaussianPDFReal_pos 0 1 x one_ne_zero) gaussian_even
    (ProbabilityTheory.integral_gaussianPDFReal_eq_one 0 one_ne_zero)

end SurvivalFunction
