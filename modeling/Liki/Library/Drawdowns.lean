import Mathlib.Algebra.BigOperators.Intervals
import Mathlib.Algebra.Order.BigOperators.Ring.Finset
import Mathlib.Algebra.Order.Field.Basic
import Mathlib.Algebra.Order.SuccPred.PartialSups
import Mathlib.Data.List.GetD
import Mathlib.Data.Nat.SuccPred
import Mathlib.Tactic.Linarith

/-! Declines of a curve. A decline is measured from the highest point so far, or only from the start.
What falls from the start falls from a peak; the other way round fails where the curve rises first. A curve
that compounds growth factors tells the two apart by its factors: the product over a stretch of time, and
the products from the start. The deepest decline is itself a running maximum. -/
namespace Drawdowns
open List Nat

variable {K : Type*} [Field K]

def compounded (start : K) (growth : ℕ → K) (time : ℕ) : K :=
  start * ∏ period ∈ Finset.range time, growth period

/-- What a unit becomes over a stretch of time. -/
def stretch (growth : ℕ → K) (first last : ℕ) : K := ∏ period ∈ Finset.Ico first last, growth period

theorem compounded_zero (start : K) (growth : ℕ → K) : compounded start growth 0 = start := by
  rw [compounded, Finset.prod_range_zero, mul_one]

theorem compounded_succ (start : K) (growth : ℕ → K) (time : ℕ) :
    compounded start growth (time + 1) = compounded start growth time * growth time := by
  rw [compounded, compounded, Finset.prod_range_succ, mul_assoc]

theorem compounded_stretch (start : K) (growth : ℕ → K) {first last : ℕ} (ordered : first ≤ last) :
    compounded start growth last = compounded start growth first * stretch growth first last := by
  rw [compounded, compounded, stretch, mul_assoc, Finset.prod_range_mul_prod_Ico growth ordered]

variable [LinearOrder K]

def FallsFromPeak (fraction : K) (curve : ℕ → K) (horizon : ℕ) : Prop :=
  ∃ time ≤ horizon, fraction * partialSups curve time ≤ partialSups curve time - curve time

def FallsFromStart (fraction : K) (curve : ℕ → K) (horizon : ℕ) : Prop :=
  ∃ time ≤ horizon, curve time ≤ (1 - fraction) * curve 0

def NoHiddenFall (fraction : K) (growth : ℕ → K) (horizon : ℕ) : Prop :=
  ∀ first last, first ≤ last → last ≤ horizon → stretch growth first last ≤ 1 - fraction →
    ∃ time ≤ horizon, stretch growth 0 time ≤ 1 - fraction

variable {fraction start : K} {curve growth : ℕ → K} {horizon : ℕ} {other : ℕ → K}

variable [IsStrictOrderedRing K]

theorem fallsFromPeak_iff (proper : fraction ≤ 1) : FallsFromPeak fraction curve horizon ↔
    ∃ first last, first ≤ last ∧ last ≤ horizon ∧ curve last ≤ (1 - fraction) * curve first := by
  constructor
  · rintro ⟨last, inside, falls⟩
    obtain ⟨first, ordered, peak⟩ := exists_partialSups_eq curve last
    refine ⟨first, last, ordered, inside, ?_⟩
    rw [← peak]
    linarith only [falls]
  · rintro ⟨first, last, ordered, inside, falls⟩
    refine ⟨last, inside, ?_⟩
    have below : curve first ≤ partialSups curve last := le_partialSups_of_le curve ordered
    have scaled := mul_le_mul_of_nonneg_left below (sub_nonneg.mpr proper)
    linarith only [falls, scaled]

theorem FallsFromStart.fallsFromPeak (proper : fraction ≤ 1) (falls : FallsFromStart fraction curve horizon) :
    FallsFromPeak fraction curve horizon := by
  obtain ⟨time, inside, low⟩ := falls
  exact (fallsFromPeak_iff proper).mpr ⟨0, time, zero_le time, inside, low⟩

section Compounded

variable (positive : 0 < start) (nonneg : ∀ period, 0 ≤ growth period)

include positive in
theorem fallsFromStart_iff : FallsFromStart fraction (compounded start growth) horizon ↔
    ∃ time ≤ horizon, stretch growth 0 time ≤ 1 - fraction := by
  refine exists_congr fun time => and_congr_right fun _ => ?_
  rw [compounded_stretch start growth (zero_le time), compounded_zero, mul_comm, mul_le_mul_iff_left₀ positive]

include positive nonneg in
theorem compounded_nonneg (time : ℕ) : 0 ≤ compounded start growth time :=
  mul_nonneg positive.le (Finset.prod_nonneg fun period _ => nonneg period)

include positive nonneg in
/-- A curve that reaches zero has fallen from its start. -/
theorem fallsFromStart_of_zero (proper : fraction ≤ 1) {time : ℕ} (inside : time ≤ horizon)
    (zero : compounded start growth time ≤ 0) : FallsFromStart fraction (compounded start growth) horizon := by
  refine ⟨time, inside, zero.trans ?_⟩
  exact mul_nonneg (sub_nonneg.mpr proper) (compounded_nonneg positive nonneg 0)

include positive nonneg in
theorem falls_imp_iff (proper : fraction ≤ 1) :
    (FallsFromPeak fraction (compounded start growth) horizon →
      FallsFromStart fraction (compounded start growth) horizon) ↔ NoHiddenFall fraction growth horizon := by
  rw [fallsFromPeak_iff proper, fallsFromStart_iff positive]
  constructor
  · intro falls first last ordered inside low
    refine falls ⟨first, last, ordered, inside, ?_⟩
    rw [compounded_stretch start growth ordered, mul_comm]
    exact mul_le_mul_of_nonneg_right low (compounded_nonneg positive nonneg first)
  · rintro hidden ⟨first, last, ordered, inside, low⟩
    rcases (compounded_nonneg positive nonneg first).eq_or_lt with zero | some
    · exact (fallsFromStart_iff positive).mp
        (fallsFromStart_of_zero positive nonneg proper (ordered.trans inside) zero.ge)
    · refine hidden first last ordered inside ?_
      rw [compounded_stretch start growth ordered, mul_comm, mul_le_mul_iff_left₀ some] at low
      exact low

end Compounded

/-- The part of the running peak that is lost. -/
def decline (curve : ℕ → K) (time : ℕ) : K := 1 - curve time / partialSups curve time

def deepest (curve : ℕ → K) (horizon : ℕ) : K := partialSups (decline curve) horizon

/-- The returns from a running peak to a point that is not above it. -/
def fallsFromPeaks (curve : ℕ → K) (horizon : ℕ) : Set K :=
  {fall | ∃ first last, first ≤ last ∧ last ≤ horizon ∧ (∀ time ≤ last, curve time ≤ curve first) ∧
    fall = curve last / curve first - 1}

/-- The returns from the highest point so far. -/
def fallsFromHighest (curve : ℕ → K) (horizon : ℕ) : Set K :=
  {fall | ∃ time ≤ horizon, fall = curve time / partialSups curve time - 1}

omit [IsStrictOrderedRing K] in
theorem decline_zero (positive : 0 < curve 0) : decline curve 0 = 0 := by
  rw [decline, partialSups_zero, div_self positive.ne', sub_self]

omit [IsStrictOrderedRing K] in
theorem deepest_zero (positive : 0 < curve 0) : deepest curve 0 = 0 := by
  rw [deepest, partialSups_zero, decline_zero positive]

omit [IsStrictOrderedRing K] in
theorem deepest_succ (curve : ℕ → K) (horizon : ℕ) :
    deepest curve (horizon + 1) = max (deepest curve horizon) (decline curve (horizon + 1)) :=
  partialSups_add_one (decline curve) horizon

omit [IsStrictOrderedRing K] in
theorem deepest_nonneg (positive : 0 < curve 0) : 0 ≤ deepest curve horizon :=
  (decline_zero positive).ge.trans (le_partialSups_of_le (decline curve) (zero_le horizon))

omit [Field K] [IsStrictOrderedRing K] in
theorem partialSups_congr (same : ∀ time ≤ horizon, curve time = other time) :
    partialSups curve horizon = partialSups other horizon := by
  apply le_antisymm
  · exact partialSups_le curve horizon _ fun time inside => (same time inside).le.trans (le_partialSups_of_le other inside)
  · exact partialSups_le other horizon _ fun time inside => (same time inside).ge.trans (le_partialSups_of_le curve inside)

omit [IsStrictOrderedRing K] in
theorem deepest_congr (same : ∀ time ≤ horizon, curve time = other time) :
    deepest curve horizon = deepest other horizon := by
  apply partialSups_congr
  intro time inside
  rw [decline, decline, same time inside, partialSups_congr fun earlier before => same earlier (before.trans inside)]

/-- A return from a running peak is one from the highest point so far. -/
theorem fallsFromPeaks_eq (curve : ℕ → K) (horizon : ℕ) :
    fallsFromPeaks curve horizon = fallsFromHighest curve horizon := by
  ext fall
  constructor
  · rintro ⟨first, last, ordered, inside, highest, rfl⟩
    have peak : partialSups curve last = curve first :=
      (partialSups_le curve last (curve first) highest).antisymm (le_partialSups_of_le curve ordered)
    exact ⟨last, inside, by rw [peak]⟩
  · rintro ⟨last, inside, rfl⟩
    obtain ⟨first, ordered, peak⟩ := exists_partialSups_eq curve last
    refine ⟨first, last, ordered, inside, ?_, by rw [peak]⟩
    intro time earlier
    rw [← peak]
    exact le_partialSups_of_le curve earlier

/-- The deepest decline is the least return from the highest point so far. -/
theorem deepest_isLeast (curve : ℕ → K) (horizon : ℕ) :
    IsLeast (fallsFromHighest curve horizon) (-deepest curve horizon) := by
  constructor
  · obtain ⟨time, inside, found⟩ := exists_partialSups_eq (decline curve) horizon
    exact ⟨time, inside, by rw [deepest, found, decline, neg_sub]⟩
  · rintro fall ⟨time, inside, rfl⟩
    have below : decline curve time ≤ deepest curve horizon := le_partialSups_of_le (decline curve) inside
    rw [decline] at below
    linarith only [below]

variable {Point : Type*} [LinearOrder Point]

def runningPeaks : List Point → List Point
  | [] => []
  | first :: rest => rest.scanl max first

def points {Point : Type*} (curve : ℕ → Point) (horizon : ℕ) : List Point := (range (horizon + 1)).map curve

def through (series : List K) (time : ℕ) : K := series.getD time 0

section Points

variable {Point : Type*}

theorem points_succ (curve : ℕ → Point) (horizon : ℕ) :
    points curve (horizon + 1) = points curve horizon ++ [curve (horizon + 1)] := by
  rw [points, range_succ, map_append, ← points, map_singleton]

theorem map_points {Other : Type*} (change : Point → Other) (curve : ℕ → Point) (horizon : ℕ) :
    (points curve horizon).map change = points (fun time => change (curve time)) horizon := by
  rw [points, map_map]
  rfl

theorem zip_points {Other : Type*} (curve : ℕ → Point) (other : ℕ → Other) (horizon : ℕ) :
    (points curve horizon).zip (points other horizon) = points (fun time => (curve time, other time)) horizon :=
  zip_map'

theorem points_cons (curve : ℕ → Point) (horizon : ℕ) : ∃ rest, points curve horizon = curve 0 :: rest :=
  ⟨_, by rw [points, range_succ_eq_map, map_cons]⟩

end Points

omit [LinearOrder K] [IsStrictOrderedRing K] in
theorem points_through (first : K) (rest : List K) :
    points (through (first :: rest)) rest.length = first :: rest := by
  apply ext_getElem
  · simp [points]
  · intro time inside other
    simp [points, through, getD_eq_getElem?_getD, getElem?_eq_getElem other]

omit [IsStrictOrderedRing K] in
/-- A longer series has not fallen less. -/
theorem deepest_append (first value : K) (rest : List K) :
    deepest (through (first :: rest)) rest.length ≤ deepest (through (first :: rest ++ [value])) (rest.length + 1) := by
  have same : ∀ time ≤ rest.length, through (first :: rest) time = through (first :: rest ++ [value]) time := by
    intro time inside
    rw [through, through, getD_append]
    simpa using lt_succ_of_le inside
  rw [deepest_congr same, deepest_succ]
  exact le_max_left _ _

theorem foldl_max_points (curve : ℕ → Point) (horizon : ℕ) :
    (points curve horizon).foldl max (curve 0) = partialSups curve horizon := by
  induction horizon with
  | zero => simp [points]
  | succ _ ih => rw [points_succ, foldl_append, ih, foldl_cons, foldl_nil, partialSups_add_one]

theorem runningPeaks_points (curve : ℕ → Point) (horizon : ℕ) :
    runningPeaks (points curve horizon) = points (partialSups curve) horizon := by
  induction horizon with
  | zero => simp [points, runningPeaks]
  | succ horizon ih =>
    obtain ⟨_, first⟩ := points_cons curve horizon
    have peak := foldl_max_points curve horizon
    rw [first, foldl_cons, max_self] at peak
    rw [points_succ, points_succ, ← ih, partialSups_add_one, first, cons_append, runningPeaks, runningPeaks,
      scanl_append, peak]
    simp

theorem min?_points (curve : ℕ → K) (horizon : ℕ) :
    (points (fun time => -curve time) horizon).min? = some (-partialSups curve horizon) := by
  rw [min?_eq_some_iff]
  constructor
  · obtain ⟨time, inside, found⟩ := exists_partialSups_eq curve horizon
    rw [found]
    exact mem_map.mpr ⟨time, mem_range.mpr (lt_succ_of_le inside), rfl⟩
  · intro point member
    obtain ⟨_, inside, rfl⟩ := mem_map.mp member
    exact neg_le_neg (le_partialSups_of_le curve (le_of_lt_succ (mem_range.mp inside)))

end Drawdowns
