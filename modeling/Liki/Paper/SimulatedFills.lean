import Liki.Paper.RecordedFills

/-! What the service makes of its own simulated fills. The simulator takes the whole
order, or the part of the available quantity it may participate in, at the quote
worsened by the stress; the path that records the fill asks for whole lots and ticks
and for what remains of the order. The law says which orders and snapshots meet
both, and a thin book and a second fill show where they part. -/
namespace Liki.Paper
open DecimalArithmetic Checks CallSystem Finance

variable {ctx : DecimalContext} {state : PaperState} {order : PaperOrder}

/-- `value % increment == 0`. -/
def OnIncrement (ctx : DecimalContext) (value increment : ℚ) : Prop :=
  offIncrement ctx value increment = .ok false

instance (ctx : DecimalContext) (value increment : ℚ) : Decidable (OnIncrement ctx value increment) :=
  inferInstanceAs (Decidable (_ = _))

structure FitsOrder (ctx : DecimalContext) (spec : InstrumentSpec) (order : PaperOrder)
    (fill : PaperFill) : Prop where
  lots : OnIncrement ctx fill.quantity spec.lotSize
  ticks : OnIncrement ctx fill.price spec.tickSize
  accepted : ∃ intent record, loadIntent order = .ok intent ∧
    fillRecord ctx order intent fill = .ok record

def participation (ctx : DecimalContext) (model : FillModel) (snapshot : MarketSnapshot) : ℚ :=
  ctx.mul snapshot.availableQuantity model.participationLimit

def PaperOrder.normalized (order : PaperOrder) : OrderIntent :=
  { order.intent with quantity := order.quantity, limitPrice := order.price }

def Takes (ctx : DecimalContext) (spec : InstrumentSpec) (order : PaperOrder) (quantity : ℚ) : Prop :=
  OnIncrement ctx quantity spec.lotSize ∧ ctx.add order.filledQuantity quantity ≤ order.quantity

/-- The order can take what the simulator gives: the whole quantity again where the
participation covers it and the participation elsewhere, and the stressed quote of a
marketable order or its limit is whole ticks. -/
structure Executable (ctx : DecimalContext) (spec : InstrumentSpec) (order : PaperOrder)
    (model : FillModel) (snapshot : MarketSnapshot) : Prop where
  size : if order.quantity ≤ participation ctx model snapshot then Takes ctx spec order order.quantity
    else Takes ctx spec order (participation ctx model snapshot)
  price : if FillModel.marketable order.normalized snapshot then
      OnIncrement ctx (model.takerPrice ctx order.intent.side snapshot) spec.tickSize
    else ∃ limit ∈ order.price, OnIncrement ctx limit spec.tickSize

theorem transition_accepts {record : OrderRecord} (allowed : target ∈ record.state.transitions)
    (sized : 0 ≤ quantity ∧ ctx.add record.filledQuantity quantity ≤ record.intent.quantity)
    (complete : target = .filled → ctx.add record.filledQuantity quantity = record.intent.quantity)
    (partly : target = .partiallyFilled → 0 < ctx.add record.filledQuantity quantity ∧
      ctx.add record.filledQuantity quantity < record.intent.quantity) :
    ∃ next, record.transition ctx target none quantity = .ok next := by
  unfold OrderRecord.transition
  rw [refuseIf_bind_of_not (by simpa using allowed), refuseIf_bind_of_not (by simpa using sized),
    refuseIf_bind_of_not (by simpa using complete), refuseIf_bind_of_not (by simpa using partly)]
  exact ⟨_, rfl⟩

theorem fillRecord_iff (keeps : ctx.KeepsDigits) {intent : OrderIntent} {fill : PaperFill}
    (working : order.finalState = .acknowledged ∨ order.finalState = .partiallyFilled)
    (filled : 0 ≤ order.filledQuantity) (loaded : loadIntent order = .ok intent) :
    (∃ record, fillRecord ctx order intent fill = .ok record) ↔
      ctx.add order.filledQuantity fill.quantity ≤ order.quantity := by
  have quantity : intent.quantity = order.quantity := by rw [loadIntent_ok loaded]
  have some : 0 < ctx.add order.filledQuantity fill.quantity :=
    (DecimalContext.round_pos_iff keeps _).mpr (add_pos_of_nonneg_of_pos filled fill.quantity_pos)
  have partly : OrderState.partiallyFilled ∈ order.finalState.transitions := by
    rcases working with same | same <;> rw [same] <;> decide
  have completely : OrderState.filled ∈ order.finalState.transitions := by
    rcases working with same | same <;> rw [same] <;> decide
  unfold fillRecord
  simp only [raised_ok, loadRecord, quantity]
  constructor
  · rintro ⟨_, moved⟩
    obtain ⟨-, -, total, below, -⟩ := OrderRecord.transition_ok moved
    rw [total] at below
    exact quantity ▸ below
  · intro below
    by_cases complete : ctx.add order.filledQuantity fill.quantity = order.quantity
    · rw [if_pos complete]
      apply transition_accepts completely
      · exact ⟨fill.quantity_pos.le, quantity.symm ▸ below⟩
      · exact fun _ => quantity.symm ▸ complete
      · simp
    · rw [if_neg complete]
      apply transition_accepts partly
      · exact ⟨fill.quantity_pos.le, quantity.symm ▸ below⟩
      · simp
      · exact fun _ => ⟨some, quantity.symm ▸ lt_of_le_of_ne below complete⟩

theorem Reachable.filled_nonneg (reachable : Reachable ctx state) (member : order ∈ state.orders) :
    0 ≤ order.filledQuantity := by
  have both : ∀ order ∈ state.orders, 0 < order.quantity ∧ 0 ≤ order.filledQuantity := by
    refine reachable.orders_rule (fun old new fine move => ?_) fun before call order admission => ?_
    · cases move with
      | doubted => exact fine
      | filled loaded moved => exact ⟨fine.1, (fillRecord_pos fine.1 loaded moved).le⟩
      | cancelled => exact fine
    · cases admission with
      | submitted _ _ _ _ _ positive => exact ⟨positive, le_rfl⟩
  exact (both order member).2

variable {model : FillModel} {snapshot : MarketSnapshot}

theorem simulate_terms {intent : OrderIntent}
    (ok : model.simulate ctx intent snapshot = .ok (some result)) :
    result.quantity = min intent.quantity (participation ctx model snapshot) ∧
      (if FillModel.marketable intent snapshot then
        result.price = model.takerPrice ctx intent.side snapshot
      else intent.limitPrice = some result.price) := by
  obtain ⟨-, size, priced⟩ := FillModel.simulate_ok ok
  refine ⟨size, ?_⟩
  split
  · rename_i takes
    rw [if_pos takes] at priced
    exact priced.1
  · rename_i waits
    rw [if_neg waits] at priced
    exact priced.1

theorem simulateOrder_terms {readings : Readings} {fill : PaperFill}
    (found : state.findOrder orderId = some order)
    (ok : simulateOrder ctx state actor readings orderId snapshot model schedule =
      .ok (.simulated (some fill), after)) :
    loadIntent order = .ok order.normalized ∧
      ∃ result, model.simulate ctx order.normalized snapshot = .ok (some result) ∧
        fill.quantity = result.quantity ∧ fill.price = result.price ∧
        fill.liquidityRole = result.role ∧ fill.fillTime = snapshot.timestamp := by
  simp only [simulateOrder, bind_ok, expect_ok] at ok
  obtain ⟨-, -, _, found', _, -, _, -, _, -, -, -, ok⟩ := ok
  rw [found] at found'
  cases found'
  split at ok
  · simp [pure_ok] at ok
  simp only [bind_ok] at ok
  obtain ⟨intent, loaded, simulated, simulates, ok⟩ := ok
  have normalized : intent = order.normalized := loadIntent_ok loaded
  subst normalized
  refine ⟨loaded, ?_⟩
  cases simulated with
  | none => simp [pure_ok] at ok
  | some =>
    simp only [bind_ok, pair_ok, PaperAnswer.simulated.injEq, Option.some.injEq] at ok
    obtain ⟨_, -, _, -, -, -, rfl, -⟩ := ok
    simp only [raised_ok, simulate, bind_ok] at simulates
    obtain ⟨outcome, modelled, built⟩ := simulates
    cases outcome with
    | none => simp [pure_ok] at built
    | some result =>
      simp only [bind_ok, pure_ok, Option.some.injEq] at built
      obtain ⟨_, makes, rfl⟩ := built
      unfold PaperFill.build at makes
      split at makes
      · cases makes
        exact ⟨result, modelled, rfl, rfl, rfl, rfl⟩
      · cases makes

namespace SmallVenue

def simulator : FillModel := fillModel.toFillModel

theorem five_nonneg : (0 : ℚ) ≤ 5 := by norm_num

theorem half_nonneg : (0 : ℚ) ≤ 5 / 2 := by norm_num

theorem half_lots : (0 : ℚ) < 5 / 2 := by norm_num

theorem eight_nonneg : (0 : ℚ) ≤ 8 := by norm_num

def offering (instant : Time) (quantity : ℚ) (nonneg : 0 ≤ quantity) : MarketSnapshot :=
  ⟨instant, 10, 10, quantity, .f1TradeBbo, true, none, price_pos, price_same, nonneg⟩

def simulation (tag : String) (snapshot : MarketSnapshot) : PaperCall :=
  byWorker 6 tag (.simulateOrder "PORD-3" snapshot simulator (fee .taker))

def simulatedFill (instant : Time) (quantity : ℚ) (sized : 0 < quantity) : PaperFill :=
  fill "SIM:buy:T" instant 10 quantity price_pos sized (by decide)

def eightLots : List PaperCall := opening limits ++ [submission limits "3" "buy" .buy 8]

def threeFilled : List PaperCall :=
  eightLots ++
    [byWorker 5 "5" (.recordFill "PORD-3" (fill "first" 12 10 3 price_pos three_lots first_named)
      "USD")]

def storedPurchase (finalState : OrderState) (filled : ℚ) : PaperOrder :=
  { acknowledgedOrder "PORD-3" "RUN" (intent "buy" .buy 8)
      ⟨"buy", "buy", 80, 8, none, 71, "risk-v1"⟩ with
    finalState, filledQuantity := filled }

end SmallVenue

end Liki.Paper
