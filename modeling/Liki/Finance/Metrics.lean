import Mathlib.Data.List.Sort
import Liki.Core
import Liki.Library.Checks

/-! The metrics of a package, with the states that a value can be missing in. -/
namespace Liki.Finance
open DecimalArithmetic Checks

/-- What arithmetic raises. None of these is a `ValueError`. -/
inductive ArithmeticError where
  | zeroDivision (message : String)
  /-- `decimal.InvalidOperation`. -/
  | invalidOperation
  | overflow
  deriving DecidableEq

inductive MetricState where
  | value | undefined | insufficientData | numericError | notApplicable
  deriving DecidableEq

structure MetricResult where
  metricId : String
  version : String
  state : MetricState
  value : Option ℚ
  reason : Option String
  deriving DecidableEq

namespace Metrics

variable (ctx : DecimalContext)

/-- `_result`. -/
def result (metricId version : String) : Except ArithmeticError ℚ → MetricResult
  | .ok value => ⟨metricId, version, .value, some value, none⟩
  | .error (.zeroDivision message) => ⟨metricId, version, .undefined, none, some message⟩
  | .error .invalidOperation => ⟨metricId, version, .numericError, none, some "InvalidOperation"⟩
  | .error .overflow => ⟨metricId, version, .numericError, none, some "OverflowError"⟩

def simpleReturn (previous current : ℚ) : Except ArithmeticError ℚ := do
  refuseIf (previous = 0) (.zeroDivision "return is undefined at zero prior equity")
  return ctx.sub (ctx.div current previous) 1

def simpleReturns (equity : List ℚ) : Except ArithmeticError (List ℚ) :=
  (equity.zip equity.tail).mapM fun (previous, current) => simpleReturn ctx previous current

/-- One round of the loop over the equity, from the peak and the drawdown so far. -/
def deepen (state : ℚ × ℚ) (value : ℚ) : Except ArithmeticError (ℚ × ℚ) := do
  let (peak, drawdown) := state
  let peak := max peak value
  refuseIf (peak ≤ 0) (.zeroDivision "drawdown undefined with nonpositive peak")
  return (peak, min drawdown (ctx.sub (ctx.div value peak) 1))

def maxDrawdown (equity : List ℚ) : MetricResult :=
  match equity with
  | [] => ⟨"maximum_drawdown", "1", .insufficientData, none, some "empty equity series"⟩
  | first :: _ =>
    result "maximum_drawdown" "1" ((equity.foldlM (deepen ctx) (first, 0)).map Prod.snd)

/-- How many of the worst returns the tail holds. -/
def tailCount (confidence : ℚ) (returns : ℕ) : ℕ :=
  max 1 (roundDown (ctx.mul (ctx.sub 1 confidence) returns)).toNat

def expectedShortfall (returns : List ℚ) (confidence : ℚ) : MetricResult :=
  if ¬(0 < confidence ∧ confidence < 1) then
    ⟨"expected_shortfall", "1", .notApplicable, none, some "confidence outside (0, 1)"⟩
  else if returns = [] then
    ⟨"expected_shortfall", "1", .insufficientData, none, some "empty return series"⟩
  else
    let count := tailCount ctx confidence returns.length
    let ordered := returns.insertionSort fun first second => first ≤ second
    result "expected_shortfall" "1" (.ok (ctx.div (ctx.sum (ordered.take count)) count))

end Metrics

end Liki.Finance
