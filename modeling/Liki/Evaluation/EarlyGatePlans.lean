import Mathlib.Data.List.Nodup
import Liki.Core

/-! What an early gate is checked against: the plan of the candidate and the policy that
governance has written. Both are validated when they are read, so a plan or a policy that
breaks its own rules does not exist. -/
namespace Liki.Evaluation

inductive FailureSeverity where
  | soft | medium | hard

structure GatePolicy where
  policyVersion : String
  cooldownHours : FailureSeverity → ℕ
  defaultFailureSeverity : FailureSeverity
  g4MeanAfterCostLower : Option ℚ
  g4MeanExcessAfterCostLower : Option ℚ
  named : policyVersion ≠ ""
  /-- `complete_and_gate_specific`: both bounds are declared, or none. -/
  bounds_together : g4MeanAfterCostLower = none ↔ g4MeanExcessAfterCostLower = none

inductive CostName where
  | fee | spread | slippage | funding | borrow | impact | other
  deriving DecidableEq

/-- The fields of `CostBounds`, in their order. -/
def costNames : List CostName := [.fee, .spread, .slippage, .funding, .borrow, .impact, .other]

theorem mem_costNames (name : CostName) : name ∈ costNames := by
  cases name <;> decide

structure CostBounds where
  lower : CostName → ℚ
  upper : CostName → ℚ
  ordered : ∀ name, lower name ≤ upper name

structure G4Plan where
  minimumSamples : ℕ
  costBounds : CostBounds
  capacityLimit : ℚ
  currency : String
  benchmarkId : String
  benchmarkVersion : String
  samples_pos : 1 ≤ minimumSamples
  limit_pos : 0 < capacityLimit
  named : currency ≠ "" ∧ benchmarkId ≠ "" ∧ benchmarkVersion ≠ ""

end Liki.Evaluation
