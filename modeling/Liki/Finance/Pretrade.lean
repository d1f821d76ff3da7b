import Liki.Finance.Execution

/-! The order state machine and the pretrade check: which state may follow
which, and how much risk an accepted order reserves. -/
namespace Liki.Finance
open DecimalArithmetic Checks

namespace OrderState

def value : OrderState → String
  | .intent => "INTENT"
  | .pretradeValidated => "PRETRADE_VALIDATED"
  | .submitted => "SUBMITTED"
  | .acknowledged => "ACKNOWLEDGED"
  | .unknownReconciling => "UNKNOWN_RECONCILING"
  | .partiallyFilled => "PARTIALLY_FILLED"
  | .amended => "AMENDED"
  | .cancelPending => "CANCEL_PENDING"
  | .filled => "FILLED"
  | .cancelled => "CANCELLED"
  | .rejected => "REJECTED"
  | .expired => "EXPIRED"

/-- `TRANSITIONS`; a terminal state has none. -/
def transitions : OrderState → List OrderState
  | .intent => [.pretradeValidated, .rejected]
  | .pretradeValidated => [.submitted, .rejected]
  | .submitted => [.acknowledged, .unknownReconciling, .rejected]
  | .unknownReconciling => [.acknowledged, .partiallyFilled, .filled, .cancelled, .rejected, .expired]
  | .acknowledged =>
    [.partiallyFilled, .filled, .cancelPending, .cancelled, .expired, .unknownReconciling]
  | .partiallyFilled => [.partiallyFilled, .filled, .amended, .cancelPending, .cancelled, .expired]
  | .amended => [.acknowledged, .partiallyFilled, .filled, .cancelled, .rejected]
  | .cancelPending => [.partiallyFilled, .filled, .cancelled, .unknownReconciling]
  | .filled => []
  | .cancelled => []
  | .rejected => []
  | .expired => []

/-- `TERMINAL`. -/
def terminal (state : OrderState) : Bool := state ∈ [.filled, .cancelled, .rejected, .expired]

theorem transitions_eq_nil (state : OrderState) : state.transitions = [] ↔ state.terminal := by
  cases state <;> decide

end OrderState

structure OrderRecord where
  intent : OrderIntent
  state : OrderState
  filledQuantity : ℚ
  rawVenueStatus : Option String
  deriving DecidableEq

namespace OrderRecord

/-- `raw_venue_status or self.raw_venue_status`: an empty status is no status. -/
def venueStatus (record : OrderRecord) (rawVenueStatus : Option String) : Option String :=
  match rawVenueStatus with
  | none => record.rawVenueStatus
  | some status => if status = "" then record.rawVenueStatus else some status

def transition (ctx : DecimalContext) (record : OrderRecord) (target : OrderState)
    (rawVenueStatus : Option String) (fillQuantity : ℚ) : Except FinanceError OrderRecord := do
  refuseIf (target ∉ record.state.transitions)
    (.value s!"invalid order transition {record.state.value} -> {target.value}")
  let cumulative := ctx.add record.filledQuantity fillQuantity
  refuseIf (fillQuantity < 0 ∨ record.intent.quantity < cumulative)
    (.value "invalid cumulative fill quantity")
  refuseIf (target = .filled ∧ cumulative ≠ record.intent.quantity)
    (.value "FILLED requires complete quantity")
  refuseIf (target = .partiallyFilled ∧ ¬(0 < cumulative ∧ cumulative < record.intent.quantity))
    (.value "PARTIALLY_FILLED requires partial quantity")
  return { record with
    state := target, filledQuantity := cumulative, rawVenueStatus := record.venueStatus rawVenueStatus }

variable {ctx : DecimalContext} {record next : OrderRecord} {target : OrderState}
  {rawVenueStatus : Option String} {fillQuantity : ℚ}

theorem transition_ok (ok : record.transition ctx target rawVenueStatus fillQuantity = .ok next) :
    target ∈ record.state.transitions ∧ next.state = target ∧
      next.filledQuantity = ctx.add record.filledQuantity fillQuantity ∧
      next.filledQuantity ≤ record.intent.quantity ∧ next.intent = record.intent ∧
      (target = .filled → next.filledQuantity = record.intent.quantity) ∧
      (target = .partiallyFilled →
        0 < next.filledQuantity ∧ next.filledQuantity < record.intent.quantity) := by
  simp only [transition, bind_ok, guard_ok, pure_ok, not_not] at ok
  obtain ⟨allowed, sized, complete, partly, rfl⟩ := ok
  refine ⟨allowed, rfl, rfl, not_lt.mp fun exceeds => sized (.inr exceeds), rfl, ?_, ?_⟩
  · intro filled
    by_contra short
    exact complete ⟨filled, short⟩
  · intro incomplete
    by_contra outside
    exact partly ⟨incomplete, outside⟩

theorem transition_not_terminal
    (ok : record.transition ctx target rawVenueStatus fillQuantity = .ok next) :
    record.state.terminal = false := by
  obtain ⟨allowed, -⟩ := transition_ok ok
  rw [Bool.eq_false_iff]
  intro terminal
  rw [(OrderState.transitions_eq_nil record.state).mpr terminal] at allowed
  cases allowed

end OrderRecord

inductive EnvelopeMode where
  | paper | research
  deriving DecidableEq

structure RiskEnvelope where
  version : String
  maxOrderNotional : ℚ
  maxPositionNotional : ℚ
  maxPortfolioNotional : ℚ
  staleAfterSeconds : ℕ
  mode : EnvelopeMode
  limits_pos : 0 < maxOrderNotional ∧ 0 < maxPositionNotional ∧ 0 < maxPortfolioNotional
  deriving DecidableEq

structure Reservation where
  reservationId : String
  clientOrderId : String
  amount : ℚ
  normalizedQuantity : ℚ
  normalizedLimitPrice : Option ℚ
  expiresAt : Time
  envelopeVersion : String

def seconds (count : ℕ) : Duration := count * 1000000

/-- The quote an order is valued at before the trade: the one it would take. -/
def MarketSnapshot.reference (snapshot : MarketSnapshot) (side : Side) : ℚ :=
  if side = .buy then snapshot.ask else snapshot.bid

theorem MarketSnapshot.reference_pos (snapshot : MarketSnapshot) (side : Side) :
    0 < snapshot.reference side := by
  unfold reference
  split
  · exact snapshot.bid_pos.trans_le snapshot.bid_le_ask
  · exact snapshot.bid_pos

def pretradeCheck (ctx : DecimalContext) (intent : OrderIntent) (spec : InstrumentSpec)
    (snapshot : MarketSnapshot) (envelope : RiskEnvelope) (currentPosition : ℚ)
    (currentPortfolioNotional : ℚ) (now : Time) : Except FinanceError Reservation := do
  refuseIf (envelope.mode ≠ .paper) (.value "only paper execution is permitted")
  refuseIf (now < intent.submissionTime ∨ snapshot.timestamp < intent.orderEligibleTime)
    (.value "order or market observation is not yet eligible")
  refuseIf (seconds envelope.staleAfterSeconds < now - snapshot.timestamp) (.value "stale market data")
  let reference := snapshot.reference intent.side
  let normalized ← roundedOrder ctx intent.venueOrder spec
  validateOrder ctx normalized spec reference currentPosition
  let orderNotional := ctx.mul (ctx.mul normalized.quantity reference) spec.multiplier
  let resulting := ctx.mul (ctx.mul
    (ctx.abs (ctx.add currentPosition (ctx.mul intent.side.sign normalized.quantity))) reference)
    spec.multiplier
  refuseIf (envelope.maxOrderNotional < orderNotional ∨ envelope.maxPositionNotional < resulting)
    (.value "risk envelope exceeded")
  refuseIf (envelope.maxPortfolioNotional < ctx.add currentPortfolioNotional orderNotional)
    (.value "portfolio envelope exceeded")
  return { reservationId := intent.clientOrderId, clientOrderId := intent.clientOrderId,
           amount := orderNotional, normalizedQuantity := normalized.quantity,
           normalizedLimitPrice := normalized.limitPrice, expiresAt := now + seconds 300,
           envelopeVersion := envelope.version }

variable {ctx : DecimalContext} {intent : OrderIntent} {spec : InstrumentSpec}
  {snapshot : MarketSnapshot} {envelope : RiskEnvelope} {position portfolio : ℚ} {now : Time}
  {reservation : Reservation}

theorem pretradeCheck_ok
    (ok : pretradeCheck ctx intent spec snapshot envelope position portfolio now = .ok reservation) :
    reservation.reservationId = intent.clientOrderId ∧
      reservation.amount = ctx.mul
        (ctx.mul reservation.normalizedQuantity (snapshot.reference intent.side)) spec.multiplier ∧
      spec.minQuantity ≤ reservation.normalizedQuantity ∧
      ctx.mul (ctx.mul (ctx.abs (ctx.add position
          (ctx.mul intent.side.sign reservation.normalizedQuantity)))
        (snapshot.reference intent.side)) spec.multiplier ≤ envelope.maxPositionNotional ∧
      ctx.add portfolio reservation.amount ≤ envelope.maxPortfolioNotional := by
  simp only [pretradeCheck, bind_ok, guard_ok, pure_ok, not_or, not_lt] at ok
  obtain ⟨-, -, -, _, rounded, -, -, ⟨-, within⟩, room, rfl⟩ := ok
  exact ⟨rfl, rfl, (roundedOrder_ok rounded).2, within, room⟩

theorem pretradeCheck_quantity
    (ok : pretradeCheck ctx intent spec snapshot envelope position portfolio now = .ok reservation) :
    reservation.normalizedQuantity = floorToIncrement ctx intent.quantity spec.lotSize := by
  simp only [pretradeCheck, bind_ok, guard_ok, pure_ok] at ok
  obtain ⟨-, -, -, _, rounded, -, -, -, -, rfl⟩ := ok
  exact (roundedOrder_ok rounded).1

end Liki.Finance
