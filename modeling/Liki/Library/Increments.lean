import Mathlib.Algebra.BigOperators.Group.Finset.Basic
import Mathlib.Algebra.BigOperators.Intervals
import Mathlib.Order.Interval.Finset.Nat
import Mathlib.Tactic.Abel

/-! Paths that are cut into pieces. A path gains something at each of its steps; over
consecutive steps the gains add up to the difference of the ends. Pieces that take every step
once gain together what the whole path gains, in whatever order they come. -/
namespace Increments

variable {Value : Type*} [AddCommGroup Value] (path : ℕ → Value)

def gain (step : ℕ) : Value := path (step + 1) - path step

theorem sum_gain_range (steps : ℕ) : ∑ step ∈ Finset.range steps, gain path step = path steps - path 0 :=
  Finset.sum_range_sub path steps

/-- Consecutive steps, both ends included. -/
theorem sum_gain_Icc {first last : ℕ} (ordered : first ≤ last) :
    ∑ step ∈ Finset.Icc first last, gain path step = path (last + 1) - path first := by
  have halfOpen : Finset.Icc first last = Finset.Ico first (last + 1) := by
    ext step
    simp only [Finset.mem_Icc, Finset.mem_Ico]
    omega
  rw [halfOpen, Finset.sum_Ico_eq_sub _ (by omega), sum_gain_range, sum_gain_range]
  abel

section Pieces

variable {Piece : Type*} (takes : Piece → ℕ → Bool) {steps : ℕ}

def pieceGain (steps : ℕ) (piece : Piece) : Value :=
  ∑ step ∈ (Finset.range steps).filter fun step => takes piece step, gain path step

theorem sum_pieceGain (steps : ℕ) (pieces : List Piece) :
    (pieces.map (pieceGain path takes steps)).sum =
      ∑ step ∈ Finset.range steps, pieces.countP (takes · step) • gain path step := by
  induction pieces with
  | nil => simp
  | cons piece _ ih =>
    rw [List.map_cons, List.sum_cons, ih, pieceGain, Finset.sum_filter, ← Finset.sum_add_distrib]
    refine Finset.sum_congr rfl fun step _ => ?_
    rw [List.countP_cons]
    cases takes piece step
    · simp
    · rw [if_pos rfl, if_pos rfl, succ_nsmul]
      exact add_comm _ _

theorem pieces_gain_whole {pieces : List Piece}
    (once : ∀ step < steps, pieces.countP (takes · step) = 1) :
    (pieces.map (pieceGain path takes steps)).sum = path steps - path 0 := by
  rw [sum_pieceGain, ← sum_gain_range]
  refine Finset.sum_congr rfl fun step inside => ?_
  rw [once step (Finset.mem_range.mp inside), one_nsmul]

theorem pieceGain_of_consecutive {first last : ℕ} {piece : Piece} (ordered : first ≤ last)
    (consecutive : ∀ step, (step < steps ∧ takes piece step = true) ↔ first ≤ step ∧ step ≤ last) :
    pieceGain path takes steps piece = path (last + 1) - path first := by
  rw [pieceGain, ← sum_gain_Icc path ordered]
  refine Finset.sum_congr ?_ fun _ _ => rfl
  ext step
  rw [Finset.mem_filter, Finset.mem_range, Finset.mem_Icc]
  exact consecutive step

end Pieces

end Increments
