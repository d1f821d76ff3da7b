import Liki.Core

/-! The strict financial contracts of the engine. A record the source validates
on construction carries the validated facts as fields, so an invalid value
cannot be built; a record that `model_copy` may change without validation is
left raw and keeps its validator as a function. -/
namespace Liki.Finance
open DecimalArithmetic

/-- What the finance code raises. `UnknownContractError` is a `ValueError`, but
callers tell the two apart. -/
inductive FinanceError where
  | value (message : String)
  | unknownContract (message : String)
  /-- `effective_at` names the instant and how many contracts matched. -/
  | effectiveContracts (instant : Time) (found : ℕ)
  deriving DecidableEq

/-- Whether `except UnknownContractError` catches it. -/
def FinanceError.isUnknownContract : FinanceError → Bool
  | .value _ => false
  | .unknownContract _ => true
  | .effectiveContracts _ _ => true

inductive FidelityTier where
  | f0Bar | f1TradeBbo | f2AggL2 | f3SeqL2 | f4OrderLevel | f5AccountObserved
  deriving DecidableEq

def FidelityTier.rank : FidelityTier → ℕ
  | .f0Bar => 0
  | .f1TradeBbo => 1
  | .f2AggL2 => 2
  | .f3SeqL2 => 3
  | .f4OrderLevel => 4
  | .f5AccountObserved => 5

inductive Side where
  | buy | sell
  deriving DecidableEq

def Side.sign : Side → ℚ
  | .buy => 1
  | .sell => -1

@[simp] theorem Side.sign_buy : Side.buy.sign = 1 := rfl
@[simp] theorem Side.sign_sell : Side.sell.sign = -1 := rfl

inductive LiquidityRole where
  | maker | taker
  deriving DecidableEq

inductive ContractKind where
  | spot | linearPerpetual | inversePerpetual
  deriving DecidableEq

inductive TradingStatus where
  | trading | halted | maintenance
  deriving DecidableEq

structure InstrumentSpec where
  version : String
  venue : String
  instrumentId : String
  contractKind : ContractKind
  baseCurrency : String
  quoteCurrency : String
  settlementCurrency : String
  tickSize : ℚ
  lotSize : ℚ
  minQuantity : ℚ
  minNotional : ℚ
  maxQuantity : Option ℚ
  priceLower : Option ℚ
  priceUpper : Option ℚ
  multiplier : ℚ
  effectiveFrom : Time
  effectiveTo : Option Time
  tradingStatus : TradingStatus
  /-- `valid_spec`: increments and multiplier are positive, the interval is not empty. -/
  increments_pos : 0 < tickSize ∧ 0 < lotSize ∧ 0 < minQuantity ∧ 0 < minNotional ∧ 0 < multiplier
  interval : ∀ expiry ∈ effectiveTo, effectiveFrom < expiry
  deriving DecidableEq

structure FeeSchedule where
  version : String
  venue : String
  instrumentId : String
  accountTier : String
  liquidityRole : LiquidityRole
  /-- A fraction of quote notional; a rebate is negative. -/
  rate : ℚ
  effectiveFrom : Time
  effectiveTo : Option Time
  source : String
  deriving DecidableEq

/-- `to_integral_value` does not round to the context; only the division and
the product do. -/
def floorToIncrement (ctx : DecimalContext) (value increment : ℚ) : ℚ :=
  ctx.mul (roundDown (ctx.div value increment)) increment

def ceilToIncrement (ctx : DecimalContext) (value increment : ℚ) : ℚ :=
  ctx.mul (roundUp (ctx.div value increment)) increment

variable {increment : ℚ}

theorem floorToIncrement_le (nonneg : 0 ≤ value) (positive : 0 < increment) :
    floorToIncrement .exact value increment ≤ value := by
  have below := roundDown_le (x := value / increment) (by positivity)
  calc (roundDown (value / increment) : ℚ) * increment
      ≤ value / increment * increment := mul_le_mul_of_nonneg_right below positive.le
    _ = value := div_mul_cancel₀ value positive.ne'

theorem floorToIncrement_nonneg (nonneg : 0 ≤ value) (positive : 0 < increment) :
    0 ≤ floorToIncrement .exact value increment := by
  have lots := roundDown_nonneg (x := value / increment) (by positivity)
  exact mul_nonneg (by exact_mod_cast lots) positive.le

end Liki.Finance
