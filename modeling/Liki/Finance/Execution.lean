import Liki.Finance.Contracts

/-! Order intents, market observations and the deterministic fill model. -/
namespace Liki.Finance
open DecimalArithmetic Checks

inductive OrderState where
  | intent | pretradeValidated | submitted | acknowledged | unknownReconciling | partiallyFilled
  | amended | cancelPending | filled | cancelled | rejected | expired
  deriving DecidableEq

/-- An intent as its fields stand: `model_copy` changes them without running the
validators, so validity is not part of the type. -/
structure OrderIntent where
  clientOrderId : String
  strategyId : String
  venue : String
  instrumentId : String
  side : Side
  quantity : ℚ
  orderType : OrderType
  limitPrice : Option ℚ
  informationCutoffTime : Time
  signalReadyTime : Time
  orderEligibleTime : Time
  submissionTime : Time
  reduceOnly : Bool
  postOnly : Bool
  timeInForce : TimeInForce
  deriving DecidableEq

namespace OrderIntent

/-- The field constraints and then `causal_order`, as the constructor and
`model_validate` run them. -/
def validate (intent : OrderIntent) : Except FinanceError OrderIntent := do
  refuseIf (intent.clientOrderId = "") (.value "client_order_id: String should have at least 1 character")
  refuseIf (intent.strategyId = "") (.value "strategy_id: String should have at least 1 character")
  refuseIf (intent.quantity ≤ 0) (.value "order quantity must be positive")
  refuseIf (¬(intent.informationCutoffTime ≤ intent.signalReadyTime ∧
      intent.signalReadyTime ≤ intent.orderEligibleTime ∧
      intent.orderEligibleTime ≤ intent.submissionTime))
    (.value "causality timestamps are out of order")
  refuseIf (intent.orderType = .limit ∧ intent.limitPrice = none)
    (.value "limit order requires limit price")
  refuseIf (intent.orderType = .market ∧ intent.limitPrice ≠ none)
    (.value "market order cannot include limit price")
  return intent

def venueOrder (intent : OrderIntent) : VenueOrder where
  side := intent.side
  quantity := intent.quantity
  orderType := intent.orderType
  limitPrice := intent.limitPrice
  reduceOnly := intent.reduceOnly
  postOnly := intent.postOnly
  timeInForce := intent.timeInForce

theorem validate_ok {intent valid : OrderIntent} (ok : intent.validate = .ok valid) :
    valid = intent ∧ 0 < intent.quantity := by
  simp only [validate, bind_ok, guard_ok, pure_ok] at ok
  obtain ⟨-, -, positive, -, -, -, same⟩ := ok
  exact ⟨same.symm, not_le.mp positive⟩

end OrderIntent

@[ext]
structure MarketSnapshot where
  timestamp : Time
  bid : ℚ
  ask : ℚ
  availableQuantity : ℚ
  fidelity : FidelityTier
  bookSequenceValid : Bool
  observedAt : Option Time
  /-- `__post_init__`. -/
  bid_pos : 0 < bid
  bid_le_ask : bid ≤ ask
  available_nonneg : 0 ≤ availableQuantity

instance : DecidableEq MarketSnapshot := fun _ _ => decidable_of_iff _ MarketSnapshot.ext_iff.symm

structure SimulatedFill where
  quantity : ℚ
  price : ℚ
  role : LiquidityRole
  uncertainty : Option String
  deriving DecidableEq

@[ext]
structure FillModel where
  version : String
  minimumFidelity : FidelityTier
  participationLimit : ℚ
  latency : Duration
  queueAssumption : Option String
  stressMultiplier : ℚ
  /-- `__post_init__`. -/
  participation_pos : 0 < participationLimit
  participation_le : participationLimit ≤ 1
  latency_nonneg : 0 ≤ latency
  stress_ge : 1 ≤ stressMultiplier
  queue_explicit : minimumFidelity = .f3SeqL2 ∨ minimumFidelity = .f4OrderLevel →
    ∃ assumption ∈ queueAssumption, assumption ≠ ""

instance : DecidableEq FillModel := fun _ _ => decidable_of_iff _ FillModel.ext_iff.symm

namespace FillModel

/-- Whether the order executes against the opposite quote at once. -/
def marketable (order : OrderIntent) (snapshot : MarketSnapshot) : Bool :=
  order.orderType = .market ∨ ∃ limit ∈ order.limitPrice,
    (order.side = .buy ∧ snapshot.ask ≤ limit) ∨ (order.side = .sell ∧ limit ≤ snapshot.bid)

/-- The price of a marketable order: the opposite quote, worsened by the stress. -/
def takerPrice (ctx : DecimalContext) (model : FillModel) (side : Side) (snapshot : MarketSnapshot) : ℚ :=
  let base := if side = .buy then snapshot.ask else snapshot.bid
  let halfSpread := ctx.div (ctx.sub snapshot.ask snapshot.bid) 2
  ctx.add base (ctx.mul (ctx.mul halfSpread (ctx.sub model.stressMultiplier 1)) side.sign)

def simulate (ctx : DecimalContext) (model : FillModel) (order : OrderIntent)
    (snapshot : MarketSnapshot) : Except FinanceError (Option SimulatedFill) :=
  if snapshot.timestamp < order.submissionTime + model.latency then .ok none
  else do
    refuseIf (snapshot.fidelity.rank < model.minimumFidelity.rank)
      (.value "insufficient market-data fidelity for fill model")
    refuseIf (FidelityTier.f2AggL2.rank ≤ model.minimumFidelity.rank ∧ !snapshot.bookSequenceValid)
      (.value "unresolved order-book sequence gap")
    let executable := min order.quantity (ctx.mul snapshot.availableQuantity model.participationLimit)
    if executable ≤ 0 then return none
    else if marketable order snapshot then
      return some ⟨executable, takerPrice ctx model order.side snapshot, .taker, none⟩
    else match order.limitPrice with
      | none => throw (.value "non-marketable market order is invalid")
      | some limit =>
        let touched := (order.side = .buy ∧ snapshot.bid ≤ limit) ∨
          (order.side = .sell ∧ limit ≤ snapshot.ask)
        if ¬touched ∨ snapshot.availableQuantity = 0 then return none
        else
          let uncertainty := if snapshot.fidelity.rank < FidelityTier.f4OrderLevel.rank then
            some "aggregate-depth queue position is unobserved" else none
          return some ⟨executable, limit, .maker, uncertainty⟩

variable {ctx : DecimalContext} {fill : SimulatedFill}

theorem simulate_ok {model : FillModel} (ok : model.simulate ctx order snapshot = .ok (some fill)) :
    0 < fill.quantity ∧
      fill.quantity = min order.quantity (ctx.mul snapshot.availableQuantity model.participationLimit) ∧
      if marketable order snapshot then
        fill.price = model.takerPrice ctx order.side snapshot ∧ fill.role = .taker ∧
          fill.uncertainty = none
      else order.limitPrice = some fill.price ∧ fill.role = .maker ∧
        (fill.uncertainty = none ↔ FidelityTier.f4OrderLevel.rank ≤ snapshot.fidelity.rank) := by
  unfold simulate at ok
  split at ok
  · cases ok
  simp only [bind_ok, guard_ok] at ok
  obtain ⟨-, -, ok⟩ := ok
  split at ok
  · simp [pure_ok] at ok
  rename_i positive
  split at ok
  · rename_i takes
    simp only [pure_ok, Option.some.injEq] at ok
    subst ok
    refine ⟨not_le.mp positive, rfl, ?_⟩
    rw [if_pos takes]
    exact ⟨rfl, rfl, rfl⟩
  rename_i waits
  split at ok
  · cases ok
  rename_i limit given
  split at ok
  · simp [pure_ok] at ok
  simp only [pure_ok, Option.some.injEq] at ok
  subst ok
  refine ⟨not_le.mp positive, rfl, ?_⟩
  rw [if_neg waits]
  refine ⟨given, rfl, ?_⟩
  by_cases unobserved : snapshot.fidelity.rank < FidelityTier.f4OrderLevel.rank
  · simp [unobserved]
  · simp [unobserved, not_lt.mp unobserved]

theorem simulate_quantity {model : FillModel}
    (ok : model.simulate ctx order snapshot = .ok (some fill)) :
    0 < fill.quantity ∧ fill.quantity ≤ order.quantity := by
  obtain ⟨positive, size, -⟩ := simulate_ok ok
  exact ⟨positive, size ▸ min_le_left _ _⟩

end FillModel

end Liki.Finance
