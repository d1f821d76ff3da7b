import Mathlib.Algebra.Order.Group.MinMax
import Liki.Finance.Metrics
import Liki.Library.SmallestSums
import Liki.Statistics.Metrics

/-! Drawdown and expected shortfall in exact arithmetic. The loop over the equity keeps the running peak
and the deepest decline from it; the tail of the returns is their smallest members. -/
namespace Liki.Finance.Metrics
open DecimalArithmetic Checks Drawdowns SmallestSums List DecimalContext Nat

def valued (metricId : String) (value : ℚ) : MetricResult := ⟨metricId, "1", .value, some value, none⟩

theorem deepen_exact (positive : 0 < peak) (drawdown value : ℚ) :
    deepen .exact (peak, drawdown) value =
      .ok (max peak value, min drawdown (value / max peak value - 1)) := by
  have high : ¬max peak value ≤ 0 := not_le.mpr (lt_max_of_lt_left positive)
  simp [deepen, refuseIf, high, pure, Except.pure, bind, Except.bind]

theorem foldlM_deepen (curve : ℕ → ℚ) (positive : 0 < curve 0) (horizon : ℕ) :
    (points curve horizon).foldlM (deepen .exact) (curve 0, 0) =
      .ok (partialSups curve horizon, -deepest curve horizon) := by
  induction horizon with
  | zero => simp [points, deepen_exact positive, deepest_zero positive, positive.ne']
  | succ horizon ih =>
    have high : 0 < partialSups curve horizon :=
      positive.trans_le (le_partialSups_of_le curve (zero_le horizon))
    rw [points_succ, foldlM_append, ih, ok_bind, foldlM_cons, deepen_exact high, ok_bind, foldlM_nil,
      deepest_succ, partialSups_add_one, decline, partialSups_add_one, ← min_neg_neg, neg_sub]
    rfl

theorem maxDrawdown_exact (positive : 0 < first) (later : List ℚ) :
    maxDrawdown .exact (first :: later) =
      valued "maximum_drawdown" (-deepest (through (first :: later)) later.length) := by
  have run := foldlM_deepen (through (first :: later)) positive later.length
  rw [points_through] at run
  rw [maxDrawdown]
  change result _ _ (Except.map Prod.snd (foldlM (deepen .exact) (through (first :: later) 0, 0) _)) = _
  rw [run]
  rfl

/-- The loop finds the least return from a running peak, which is the least return from the highest equity so
far; the accumulating form finds the same for positive equity; and an equity more finds no shallower one. -/
theorem maxDrawdown_pairwise {first : ℚ} (positive : 0 < first) (later : List ℚ) :
    ∃ drawdown ≤ 0, maxDrawdown .exact (first :: later) = valued "maximum_drawdown" drawdown ∧
      IsLeast (fallsFromPeaks (through (first :: later)) later.length) drawdown ∧
      IsLeast (insert 0 (fallsFromHighest (through (first :: later)) later.length)) drawdown ∧
      (∀ provenance, (∀ value ∈ later, 0 < value) →
        Statistics.maximumDrawdown id ((first :: later).map some) provenance =
          ⟨.value, some drawdown, "maximum-drawdown.v1", provenance.provenanceIds,
            ["negative sign denotes a loss"], none⟩) ∧
      ∀ value, ∃ deeper, maxDrawdown .exact (first :: later ++ [value]) = valued "maximum_drawdown" deeper ∧
        |drawdown| ≤ |deeper| := by
  have least := deepest_isLeast (through (first :: later)) later.length
  have loss : 0 ≤ deepest (through (first :: later)) later.length := deepest_nonneg positive
  refine ⟨_, neg_nonpos.mpr loss, maxDrawdown_exact positive later, ?_, ?_, ?_, ?_⟩
  · rw [fallsFromPeaks_eq]
    exact least
  · refine ⟨Set.mem_insert_of_mem 0 least.1, ?_⟩
    rintro fall (rfl | member)
    · exact neg_nonpos.mpr loss
    · exact least.2 member
  · intro provenance rising
    have positives : ∀ value ∈ first :: later, 0 < value := forall_mem_cons.mpr ⟨positive, rising⟩
    have found := Statistics.drawdowns_points (through (first :: later)) later.length
    rw [points_through] at found
    rw [Statistics.maximumDrawdown_positive (cons_ne_nil first later) positives, found]
    rfl
  · intro value
    have deeper := deepest_append first value later
    refine ⟨_, maxDrawdown_exact positive (later ++ [value]), ?_⟩
    rw [abs_neg, abs_neg, abs_of_nonneg loss, length_append, length_singleton]
    exact deeper.trans (le_abs_self _)

theorem maxDrawdown_pairwise_recovery :
    ∃ drawdown ≤ 0, maxDrawdown .exact [2, 1, 4, -3] = valued "maximum_drawdown" drawdown ∧
      IsLeast (fallsFromPeaks (through [2, 1, 4, -3]) 3) drawdown ∧
      IsLeast (insert 0 (fallsFromHighest (through [2, 1, 4, -3]) 3)) drawdown ∧
      (∀ provenance, (∀ value ∈ ([1, 4, -3] : List ℚ), 0 < value) →
        Statistics.maximumDrawdown id ([2, 1, 4, -3].map some) provenance =
          ⟨.value, some drawdown, "maximum-drawdown.v1", provenance.provenanceIds,
            ["negative sign denotes a loss"], none⟩) ∧
      ∀ value, ∃ deeper, maxDrawdown .exact ([2, 1, 4, -3] ++ [value]) = valued "maximum_drawdown" deeper ∧
        |drawdown| ≤ |deeper| :=
  maxDrawdown_pairwise two_pos [1, 4, -3]

theorem roundDown_toNat (x : ℚ) : (roundDown x).toNat = ⌊x⌋₊ := by
  rw [roundDown]
  split
  · rfl
  · rename_i negative
    rw [floor_of_nonpos (not_le.mp negative).le, Int.toNat_eq_zero]
    exact Int.ceil_le.mpr (not_le.mp negative).le

variable {confidence : ℚ} {returns : List ℚ}

theorem tailCount_pos (confidence : ℚ) (size : ℕ) : 0 < tailCount .exact confidence size :=
  lt_of_lt_of_le one_pos (le_max_left 1 _)

theorem tailCount_le (positive : 0 < confidence) {size : ℕ} (some : 0 < size) :
    tailCount .exact confidence size ≤ size := by
  refine max_le some ?_
  have part : 0 ≤ confidence * size := mul_nonneg positive.le (cast_nonneg size)
  rw [roundDown_toNat]
  apply floor_le_of_le
  rw [exact_sub, exact_mul]
  linarith only [part]

theorem tailCount_anti (ordered : low ≤ high) (size : ℕ) :
    tailCount .exact high size ≤ tailCount .exact low size := by
  have less : 0 ≤ (high - low) * size := mul_nonneg (sub_nonneg.mpr ordered) (cast_nonneg size)
  refine max_le_max le_rfl ?_
  rw [roundDown_toNat, roundDown_toNat]
  apply floor_mono
  rw [exact_sub, exact_mul, exact_sub, exact_mul]
  linarith only [less]

theorem expectedShortfall_exact (positive : 0 < confidence) (proper : confidence < 1) (some : returns ≠ []) :
    expectedShortfall .exact returns confidence =
      valued "expected_shortfall" (smallestMean (tailCount .exact confidence returns.length) returns) := by
  rw [expectedShortfall, if_neg (not_not.mpr ⟨positive, proper⟩), if_neg some]
  simp [result, valued, smallestMean, smallestSum, ascending]

theorem forall₂_set (below : lower ≤ returns.get index) :
    List.Forall₂ (· ≤ ·) (returns.set index lower) returns := by
  refine forall₂_iff_get.mpr ⟨length_set, ?_⟩
  intro position _ inside
  rw [get_eq_getElem, getElem_set]
  split
  · rename_i here
    subst here
    exact below
  · exact le_rfl

/-- Expected shortfall does not depend on the order of the returns, is between the least return and their
mean, and falls with more confidence and with every return. -/
theorem expectedShortfall_laws {low high : ℚ} (positive : 0 < low) (ordered : low ≤ high) (proper : high < 1)
    (some : returns ≠ []) :
    ∃ atLow atHigh, expectedShortfall .exact returns low = valued "expected_shortfall" atLow ∧
      expectedShortfall .exact returns high = valued "expected_shortfall" atHigh ∧ atHigh ≤ atLow ∧
      (∀ others, others.Perm returns → ∀ confidence,
        expectedShortfall .exact others confidence = expectedShortfall .exact returns confidence) ∧
      (∃ least ∈ returns, (∀ value ∈ returns, least ≤ value) ∧ least ≤ atLow) ∧
      atLow ≤ returns.sum / returns.length ∧
      ∀ (index : Fin returns.length) (lower), lower ≤ returns.get index →
        ∃ lowered, expectedShortfall .exact (returns.set index lower) low = valued "expected_shortfall" lowered ∧
          lowered ≤ atLow := by
  have filled : 0 < returns.length := length_pos_iff.mpr some
  have inside := tailCount_le positive filled
  have tail := tailCount_pos low returns.length
  refine ⟨_, _, expectedShortfall_exact positive (ordered.trans_lt proper) some,
    expectedShortfall_exact (positive.trans_le ordered) proper some, ?_, ?_, ?_, ?_, ?_⟩
  · exact smallestMean_mono (tailCount_pos high _) (tailCount_anti ordered _) inside
  · intro others same confidence
    have sorted : others.insertionSort (· ≤ ·) = returns.insertionSort (· ≤ ·) := ascending_congr same
    have none : others = [] ↔ returns = [] := by rw [← length_eq_zero_iff, same.length_eq,
      length_eq_zero_iff]
    simp only [expectedShortfall, none, same.length_eq, sorted]
  · refine ⟨returns.min some, min_mem some, fun value member => min_le_of_mem member, ?_⟩
    exact le_smallestMean (fun value member => min_le_of_mem member) tail inside
  · rw [← smallestMean_all]
    exact smallestMean_mono tail inside le_rfl
  · intro index lower below
    have changed : returns.set index lower ≠ [] := by simpa using some
    refine ⟨_, expectedShortfall_exact positive (ordered.trans_lt proper) changed, ?_⟩
    rw [length_set]
    exact div_le_div_of_nonneg_right (smallestSum_mono (forall₂_set below) _) (cast_nonneg _)

theorem expectedShortfall_laws_quarter :
    ∃ atLow atHigh, expectedShortfall .exact [3, -1, 2, 0] (1 / 4) = valued "expected_shortfall" atLow ∧
      expectedShortfall .exact [3, -1, 2, 0] (1 / 2) = valued "expected_shortfall" atHigh ∧ atHigh ≤ atLow ∧
      (∀ others : List ℚ, others.Perm [3, -1, 2, 0] → ∀ confidence,
        expectedShortfall .exact others confidence = expectedShortfall .exact [3, -1, 2, 0] confidence) ∧
      (∃ least ∈ ([3, -1, 2, 0] : List ℚ), (∀ value ∈ ([3, -1, 2, 0] : List ℚ), least ≤ value) ∧ least ≤ atLow) ∧
      atLow ≤ ([3, -1, 2, 0] : List ℚ).sum / ([3, -1, 2, 0] : List ℚ).length ∧
      ∀ (index : Fin ([3, -1, 2, 0] : List ℚ).length) (lower : ℚ), lower ≤ ([3, -1, 2, 0] : List ℚ).get index →
        ∃ lowered, expectedShortfall .exact (([3, -1, 2, 0] : List ℚ).set index lower) (1 / 4) =
          valued "expected_shortfall" lowered ∧ lowered ≤ atLow :=
  expectedShortfall_laws (by norm_num) (by norm_num) (by norm_num) (cons_ne_nil _ _)

end Liki.Finance.Metrics
