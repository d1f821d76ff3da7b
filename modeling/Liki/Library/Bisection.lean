import Mathlib.Algebra.Order.Field.Basic
import Mathlib.Logic.Function.Iterate
import Mathlib.Tactic.FieldSimp
import Mathlib.Tactic.Linarith
import Mathlib.Tactic.Ring

/-! Bisection. A bracket has a lower end that fails and an upper end that passes; each round replaces one
of the ends by the point between them, whichever keeps that so. With the mean between them every round
halves the bracket. -/
namespace Bisection
open Function

variable {Value : Type*}

/-- One round. -/
def halve (between : Value → Value → Value) (passes : Value → Bool) (bracket : Value × Value) :
    Value × Value :=
  let middle := between bracket.1 bracket.2
  if passes middle then (bracket.1, middle) else (middle, bracket.2)

def bisect (between : Value → Value → Value) (passes : Value → Bool) (rounds : ℕ)
    (bracket : Value × Value) : Value × Value :=
  (halve between passes)^[rounds] bracket

/-- The lower end fails and the upper end passes. -/
def Brackets (passes : Value → Bool) (bracket : Value × Value) : Prop :=
  passes bracket.1 = false ∧ passes bracket.2 = true

variable {between : Value → Value → Value} {passes : Value → Bool} {bracket : Value × Value}

theorem Brackets.halve (brackets : Brackets passes bracket) : Brackets passes (halve between passes bracket) := by
  unfold Bisection.halve
  dsimp only
  cases middle : passes (between bracket.1 bracket.2) with
  | true =>
    rw [if_pos rfl]
    exact ⟨brackets.1, middle⟩
  | false =>
    rw [if_neg Bool.false_ne_true]
    exact ⟨middle, brackets.2⟩

theorem Brackets.bisect (brackets : Brackets passes bracket) (rounds : ℕ) :
    Brackets passes (bisect between passes rounds bracket) := by
  induction rounds with
  | zero => exact brackets
  | succ _ ih =>
    rw [Bisection.bisect, iterate_succ_apply']
    exact ih.halve

section Mean

variable [Field Value] [LinearOrder Value] [IsStrictOrderedRing Value]
  (mean : ∀ lower upper : Value, between lower upper = (lower + upper) / 2) {highest lowest : Value}

include mean

/-- A round halves the width. -/
theorem width_halve (passes : Value → Bool) (bracket : Value × Value) :
    (halve between passes bracket).2 - (halve between passes bracket).1 = (bracket.2 - bracket.1) / 2 := by
  simp only [halve, mean]
  split <;> ring

theorem width_bisect (passes : Value → Bool) (rounds : ℕ) (bracket : Value × Value) :
    (bisect between passes rounds bracket).2 - (bisect between passes rounds bracket).1 =
      (bracket.2 - bracket.1) / 2 ^ rounds := by
  induction rounds with
  | zero => rw [pow_zero, div_one]; rfl
  | succ _ ih =>
    rw [bisect, iterate_succ_apply', width_halve mean]
    rw [bisect] at ih
    rw [ih, pow_succ, div_div]

theorem halve_within (ordered : bracket.1 ≤ bracket.2) (low : lowest ≤ bracket.1)
    (high : bracket.2 ≤ highest) : (halve between passes bracket).1 ≤ (halve between passes bracket).2 ∧
      lowest ≤ (halve between passes bracket).1 ∧ (halve between passes bracket).2 ≤ highest := by
  simp only [halve, mean]
  split
  · exact ⟨by linarith, low, by linarith⟩
  · exact ⟨by linarith, by linarith, high⟩

theorem bisect_within (rounds : ℕ) (ordered : bracket.1 ≤ bracket.2) (low : lowest ≤ bracket.1)
    (high : bracket.2 ≤ highest) :
    (bisect between passes rounds bracket).1 ≤ (bisect between passes rounds bracket).2 ∧
      lowest ≤ (bisect between passes rounds bracket).1 ∧ (bisect between passes rounds bracket).2 ≤ highest := by
  induction rounds with
  | zero => exact ⟨ordered, low, high⟩
  | succ _ ih =>
    rw [bisect, iterate_succ_apply']
    exact halve_within mean ih.1 ih.2.1 ih.2.2

end Mean

end Bisection
