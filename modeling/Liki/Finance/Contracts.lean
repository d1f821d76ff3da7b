import Liki.Finance.Types
import Liki.Library.Checks

/-! Effective-dated contract selection and venue-native validation. -/
namespace Liki.Finance
open DecimalArithmetic Checks

/-- Whether a contract valid from `effectiveFrom` until `effectiveTo` covers the instant. -/
def effective (effectiveFrom : Time) (effectiveTo : Option Time) (instant : Time) : Bool :=
  effectiveFrom ≤ instant ∧ ∀ expiry ∈ effectiveTo, instant < expiry

/-- `effective_at`: the only contract that covers the instant. `interval` reads a
contract's `effective_from` and `effective_to`. -/
def effectiveAt {Contract : Type*} (interval : Contract → Time × Option Time)
    (contracts : List Contract) (instant : Time) : Except FinanceError Contract :=
  match contracts.filter fun contract => effective (interval contract).1 (interval contract).2 instant with
  | [only] => .ok only
  | found => .error (.effectiveContracts instant found.length)

theorem effectiveAt_mem {Contract : Type*} {interval : Contract → Time × Option Time}
    {contracts : List Contract} {instant : Time} {contract : Contract}
    (ok : effectiveAt interval contracts instant = .ok contract) : contract ∈ contracts := by
  unfold effectiveAt at ok
  split at ok
  · rename_i only single
    cases ok
    have chosen : contract ∈ contracts.filter fun contract =>
        effective (interval contract).1 (interval contract).2 instant := by
      rw [single]
      exact List.mem_singleton.mpr rfl
    exact List.mem_of_mem_filter chosen
  · cases ok

def InstrumentSpec.effectiveInterval (spec : InstrumentSpec) : Time × Option Time :=
  (spec.effectiveFrom, spec.effectiveTo)

def FeeSchedule.effectiveInterval (schedule : FeeSchedule) : Time × Option Time :=
  (schedule.effectiveFrom, schedule.effectiveTo)

def selectFee (schedules : List FeeSchedule) (venue instrumentId accountTier : String)
    (role : LiquidityRole) (instant : Time) : Except FinanceError FeeSchedule :=
  effectiveAt FeeSchedule.effectiveInterval
    (schedules.filter fun schedule => schedule.venue = venue ∧ schedule.instrumentId = instrumentId ∧
      schedule.accountTier = accountTier ∧ schedule.liquidityRole = role) instant

/-- `fee_amount(...).amount`: a signed fee or rebate. -/
def feeAmount (ctx : DecimalContext) (schedule : FeeSchedule) (notional : ℚ) : Except FinanceError ℚ :=
  if notional < 0 then .error (.value "notional must not be negative")
  else .ok (ctx.mul notional schedule.rate)

inductive OrderType where
  | market | limit
  deriving DecidableEq

inductive TimeInForce where
  | gtc | ioc | fok
  deriving DecidableEq

structure VenueOrder where
  side : Side
  quantity : ℚ
  orderType : OrderType
  limitPrice : Option ℚ
  reduceOnly : Bool
  postOnly : Bool
  timeInForce : TimeInForce
  deriving DecidableEq

def roundedPrice (ctx : DecimalContext) (order : VenueOrder) (spec : InstrumentSpec) :
    Except FinanceError (Option ℚ) :=
  if order.orderType = .limit then
    match order.limitPrice with
    | none => .error (.value "limit order needs positive limit price")
    | some price =>
      if price ≤ 0 then .error (.value "limit order needs positive limit price")
      else if order.side = .buy then .ok (some (ceilToIncrement ctx price spec.tickSize))
      else .ok (some (floorToIncrement ctx price spec.tickSize))
  else .ok order.limitPrice

def roundedOrder (ctx : DecimalContext) (order : VenueOrder) (spec : InstrumentSpec) :
    Except FinanceError VenueOrder := do
  let quantity := floorToIncrement ctx order.quantity spec.lotSize
  refuseIf (quantity < spec.minQuantity) (.value "quantity rounds below venue minimum")
  let limitPrice ← roundedPrice ctx order spec
  return { order with quantity, limitPrice }

/-- Whether a price leaves the venue's band. -/
def violatesBand (spec : InstrumentSpec) (price : ℚ) : Bool :=
  (∃ lower ∈ spec.priceLower, price < lower) ∨ (∃ upper ∈ spec.priceUpper, upper < price)

/-- `rounded.limit_price or reference_price`: a zero limit price is falsy. -/
def effectivePrice (limitPrice : Option ℚ) (reference : ℚ) : ℚ :=
  match limitPrice with
  | none => reference
  | some price => if price = 0 then reference else price

def validateOrder (ctx : DecimalContext) (order : VenueOrder) (spec : InstrumentSpec)
    (referencePrice currentPosition : ℚ) : Except FinanceError Unit := do
  refuseIf (spec.tradingStatus ≠ .trading) (.value "instrument is not tradeable")
  refuseIf (referencePrice ≤ 0) (.value "reference price must be positive")
  let rounded ← roundedOrder ctx order spec
  refuseIf (∃ maximum ∈ spec.maxQuantity, maximum < rounded.quantity)
    (.value "quantity exceeds venue maximum")
  let price := effectivePrice rounded.limitPrice referencePrice
  refuseIf (violatesBand spec price) (.value "price violates venue band")
  refuseIf (ctx.mul (ctx.mul price rounded.quantity) spec.multiplier < spec.minNotional)
    (.value "notional below venue minimum")
  refuseIf (rounded.reduceOnly ∧ ctx.abs currentPosition <
      ctx.abs (ctx.add currentPosition (ctx.mul rounded.side.sign rounded.quantity)))
    (.value "reduce-only order can increase exposure")

theorem roundedOrder_ok (ok : roundedOrder ctx order spec = .ok rounded) :
    rounded.quantity = floorToIncrement ctx order.quantity spec.lotSize ∧
      spec.minQuantity ≤ rounded.quantity := by
  simp only [roundedOrder, bind_ok, guard_ok, pure_ok] at ok
  obtain ⟨enough, _, -, rfl⟩ := ok
  exact ⟨rfl, not_lt.mp enough⟩

end Liki.Finance
