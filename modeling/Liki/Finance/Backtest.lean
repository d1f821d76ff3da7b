import Mathlib.Data.List.Sort
import Liki.Finance.Execution
import Liki.Finance.Reference
import Liki.Library.KeyedRows

/-! The deterministic replay: one pass over the bars, submitting what the program
asks for and filling what is pending against each bar's observation. An
exception that leaves the replay carries the state it was raised in, so what is
true of every fill can be said of aborted replays too. -/
namespace Liki.Finance
open DecimalArithmetic Checks KeyedRows

@[ext]
structure Bar where
  timestamp : Time
  openPrice : ℚ
  high : ℚ
  low : ℚ
  close : ℚ
  volume : ℚ
  availableAt : Time
  fidelity : FidelityTier
  revised : Bool
  quote : Option MarketSnapshot
  /-- `__post_init__`: a valid observation, and a quote made at it. -/
  low_pos : 0 < low
  volume_nonneg : 0 ≤ volume
  low_le : low ≤ min openPrice close
  le_high : max openPrice close ≤ high
  quote_matches : ∀ snapshot ∈ quote, snapshot.timestamp = timestamp ∧ snapshot.fidelity = fidelity

instance : DecidableEq Bar := fun _ _ => decidable_of_iff _ Bar.ext_iff.symm

theorem Bar.open_pos (bar : Bar) : 0 < bar.openPrice :=
  lt_of_lt_of_le bar.low_pos (bar.low_le.trans (min_le_left _ _))

/-- Signals cannot inspect the bar itself; execution uses its opening
observation, not its close. -/
def Bar.snapshot (bar : Bar) : Except FinanceError MarketSnapshot :=
  match bar.quote with
  | some quote => .ok quote
  | none =>
    if bar.fidelity = .f0Bar then
      .ok ⟨bar.timestamp, bar.openPrice, bar.openPrice, bar.volume, bar.fidelity, true, none,
        bar.open_pos, le_rfl, bar.volume_nonneg⟩
    else .error (.unknownContract "higher-fidelity replay requires actual bid/ask observations")

/-- `CausalHistory(bars, cutoff).all()`. -/
def causalHistory (bars : List Bar) (cutoff : Time) : List Bar :=
  bars.filter fun bar => bar.availableAt ≤ cutoff ∧ bar.timestamp ≤ cutoff ∧ !bar.revised

/-- A program may refuse with any error of its own. -/
abbrev Signal := List Bar → Time → Except FinanceError (Option OrderIntent)
abbrev Target := List Bar → Time → Except FinanceError ℚ

/-- The reason text of an order event; a rejection carries `str(error)`. -/
inductive EventReason where
  | none | unfilledImmediateRemainder | endOfReplay
  | refused (error : FinanceError)
  deriving DecidableEq

structure OrderEvent where
  orderId : String
  timestamp : Time
  state : OrderState
  reason : EventReason
  deriving DecidableEq

/-- `orders[oid]`; the key is the intent's own id. -/
structure ReplayOrder where
  intent : OrderIntent
  state : OrderState
  filledQuantity : ℚ
  normalizedIntent : Option OrderIntent
  deriving DecidableEq

def ReplayOrder.orderId (order : ReplayOrder) : String := order.intent.clientOrderId

structure Observation where
  timestamp : Time
  mark : ℚ
  cash : ℚ
  position : ℚ
  equity : ℚ
  exposure : ℚ
  fees : ℚ
  otherCosts : ℚ
  reference : Reconciliation
  deriving DecidableEq

structure CostTotals where
  fee : ℚ
  spread : ℚ
  slippage : ℚ
  impact : ℚ
  deriving DecidableEq

/-- The local variables of `_run`, which are also what it returns. `pending` maps
each order id to the intent that still waits; `rejections` is `errors`. -/
structure Replay where
  ledger : LedgerState
  curve : List (Time × ℚ)
  rejections : List (String × FinanceError)
  orders : List ReplayOrder
  events : List OrderEvent
  observations : List Observation
  pending : List OrderIntent
  costs : CostTotals
  deriving DecidableEq

/-- A computation that an exception may leave, in the state it was raised in. -/
abbrev Replaying (Result : Type) := Except (FinanceError × Replay) Result

namespace Replay

def start (cash : ℚ) : Replay := ⟨.flat cash, [], [], [], [], [], [], ⟨0, 0, 0, 0⟩⟩

/-- The inner function `event`. -/
def event (replay : Replay) (orderId : String) (timestamp : Time) (state : OrderState)
    (reason : EventReason) : Replay :=
  { replay with
    events := replay.events ++ [⟨orderId, timestamp, state, reason⟩]
    orders := update ReplayOrder.orderId orderId
      (fun order => { order with state := state }) replay.orders }

def isPending (replay : Replay) (orderId : String) : Bool :=
  replay.pending.any fun intent => intent.clientOrderId = orderId

/-- `del pending[oid]`. -/
def drop (replay : Replay) (orderId : String) : Replay :=
  { replay with pending := replay.pending.filter fun intent => intent.clientOrderId ≠ orderId }

/-- `pending[oid] = intent` for an id that is pending. -/
def keep (replay : Replay) (intent : OrderIntent) : Replay :=
  { replay with
    pending := update OrderIntent.clientOrderId intent.clientOrderId (fun _ => intent)
      replay.pending }

/-- `orders[oid].setdefault("normalized_intent", ...)`. -/
def noteNormalized (replay : Replay) (intent : OrderIntent) : Replay :=
  { replay with
    orders := update ReplayOrder.orderId intent.clientOrderId
      (fun order => { order with normalizedIntent := order.normalizedIntent.or (some intent) })
      replay.orders }

end Replay

structure DeterministicBacktest where
  spec : InstrumentSpec
  fillModel : FillModel
  startingCash : ℚ
  feeSchedules : List FeeSchedule
  accountTier : String
  slippageBps : ℚ
  impactBps : ℚ
  /-- The constructor's checks. -/
  fees_explicit : feeSchedules ≠ [] ∧ accountTier ≠ ""
  spot : spec.contractKind = .spot ∧ spec.multiplier = 1 ∧
    spec.settlementCurrency = spec.quoteCurrency
  cash_pos : 0 < startingCash
  slippage_nonneg : 0 ≤ slippageBps
  impact_nonneg : 0 ≤ impactBps

namespace DeterministicBacktest

variable (ctx : DecimalContext) (engine : DeterministicBacktest)

def targetIntent (strategyId : String) (index : ℕ) (bar : Bar) (delta : ℚ) : OrderIntent where
  clientOrderId := s!"{strategyId}:{index}"
  strategyId := strategyId
  venue := engine.spec.venue
  instrumentId := engine.spec.instrumentId
  side := if 0 < delta then .buy else .sell
  quantity := ctx.abs delta
  orderType := .market
  limitPrice := none
  informationCutoffTime := bar.timestamp
  signalReadyTime := bar.timestamp
  orderEligibleTime := bar.timestamp
  submissionTime := bar.timestamp
  reduceOnly := false
  postOnly := false
  timeInForce := .ioc

def propose (signal : Option Signal) (target : Option Target) (strategyId : String) (index : ℕ)
    (history : List Bar) (bar : Bar) (replay : Replay) : Except FinanceError (Option OrderIntent) := do
  let intent ← match signal with
    | none => pure none
    | some program => program history bar.timestamp
  match target with
  | none => return intent
  | some program =>
    if replay.pending ≠ [] then return intent
    else
      let desired ← program history bar.timestamp
      refuseIf (desired < 0) (.unknownContract "spot target cannot require borrow")
      let delta := ctx.sub desired replay.ledger.position
      if delta = 0 then return intent
      else return some (← (engine.targetIntent ctx strategyId index bar delta).validate)

def submit (history : List Bar) (bar : Bar) (replay : Replay) (proposed : OrderIntent) :
    Replaying Replay :=
  match proposed.validate with
  | .error error => .error (error, replay)
  | .ok intent =>
    if replay.orders.any fun order => order.orderId = intent.clientOrderId then
      .error (.value "duplicate client order id", replay)
    else
      let order : ReplayOrder := ⟨intent, .intent, 0, none⟩
      let opened := { replay with orders := replay.orders ++ [order] }
      let noted := opened.event intent.clientOrderId bar.timestamp .intent .none
      if bar.timestamp < intent.informationCutoffTime ∨ intent.submissionTime < bar.timestamp ∨
          ∃ seen ∈ history, intent.informationCutoffTime < seen.availableAt then
        .error (.value "signal information cutoff does not match causal history", noted)
      else
        let waiting := { noted with pending := noted.pending ++ [intent] }
        .ok (waiting.event intent.clientOrderId bar.timestamp .submitted .none)

def normalize (bar : Bar) (snapshot : MarketSnapshot) (intent : OrderIntent) :
    Except FinanceError OrderIntent := do
  let _ ← effectiveAt InstrumentSpec.effectiveInterval [engine.spec] bar.timestamp
  refuseIf (intent.venue ≠ engine.spec.venue ∨ intent.instrumentId ≠ engine.spec.instrumentId)
    (.value "order instrument does not match pinned specification")
  refuseIf (engine.spec.tradingStatus ≠ .trading) (.value "instrument is not trading")
  refuseIf (intent.postOnly ∧ intent.orderType = .market) (.value "post-only market order")
  refuseIf (snapshot.fidelity.rank < engine.fillModel.minimumFidelity.rank)
    (.unknownContract "insufficient market-data fidelity for fill model")
  refuseIf (engine.fillModel.minimumFidelity = .f0Bar ∧ intent.orderType ≠ .market)
    (.unknownContract "OHLC cannot establish passive order fills")
  let normalized ← roundedOrder ctx intent.venueOrder engine.spec
  return { intent with quantity := normalized.quantity, limitPrice := normalized.limitPrice }

def violatesLimit (intent : OrderIntent) (price : ℚ) : Bool :=
  ∃ limit ∈ intent.limitPrice,
    (intent.side = .buy ∧ limit < price) ∨ (intent.side = .sell ∧ price < limit)

def allow (bar : Bar) (snapshot : MarketSnapshot) (ledger : LedgerState) (remaining : ℚ)
    (intent : OrderIntent) : Except FinanceError (Option (SimulatedFill × ℚ)) := do
  validateOrder ctx intent.venueOrder engine.spec bar.openPrice ledger.position
  match ← engine.fillModel.simulate ctx intent snapshot with
  | none => return none
  | some simulated =>
    refuseIf (violatesBand engine.spec simulated.price)
      (.value "execution price violates venue band")
    refuseIf (intent.postOnly ∧ simulated.role = .taker)
      (.value "post-only order would take liquidity")
    refuseIf (violatesLimit intent simulated.price) (.value "fill would violate the order limit")
    refuseIf (simulated.uncertainty ≠ none)
      (.unknownContract "passive fill uncertainty requires an explicit queue model")
    let quantity := floorToIncrement ctx (min simulated.quantity remaining) engine.spec.lotSize
    if intent.timeInForce = .fok ∧ quantity < intent.quantity then return none
    else if quantity < engine.spec.minQuantity ∨
        ctx.mul quantity simulated.price < engine.spec.minNotional then return none
    else return some (simulated, quantity)

/-- A posted fill and the cost totals it adds to. -/
structure Execution where
  fill : Fill
  ledger : LedgerState
  slippage : ℚ
  impact : ℚ
  spread : ℚ

def execute (index : ℕ) (bar : Bar) (snapshot : MarketSnapshot) (ledger : LedgerState)
    (intent : OrderIntent) (simulated : SimulatedFill) (quantity : ℚ) :
    Except FinanceError Execution := do
  let notional := ctx.mul quantity simulated.price
  let slippage := ctx.div (ctx.mul notional engine.slippageBps) 10000
  let impact := ctx.div (ctx.mul notional engine.impactBps) 10000
  let schedule ← selectFee engine.feeSchedules engine.spec.venue engine.spec.instrumentId
    engine.accountTier simulated.role bar.timestamp
  let fee ← feeAmount ctx schedule notional
  refuseIf (fee ≠ ctx.mul (ctx.mul quantity simulated.price) schedule.rate)
    (.unknownContract "independent fee accounting disagreement")
  refuseIf (ctx.sub (ctx.sub (ctx.sub (ctx.sub ledger.cash (ctx.mul intent.side.sign notional)) fee)
      slippage) impact < 0) (.value "spot execution costs exceed available cash")
  refuseIf (intent.side = .sell ∧ ledger.position < quantity)
    (.value "unfunded spot short requires an explicit borrow model")
  let fill ← Fill.build s!"{intent.clientOrderId}:{index}" intent.clientOrderId bar.timestamp
    intent.side quantity simulated.price simulated.role fee
    [.additive .implementationShortfall slippage, .additive .impact impact]
  let posted ← ledger.apply ctx fill
  let spread := ctx.mul (ctx.mul quantity intent.side.sign)
    (ctx.sub simulated.price (ctx.div (ctx.add snapshot.bid snapshot.ask) 2))
  return ⟨fill, posted, slippage, impact, spread⟩

def charge (replay : Replay) (orderId : String) (execution : Execution) : Replay :=
  { replay with
    ledger := execution.ledger
    costs := {
      fee := ctx.add replay.costs.fee execution.fill.fee
      slippage := ctx.add replay.costs.slippage execution.slippage
      impact := ctx.add replay.costs.impact execution.impact
      spread := ctx.add replay.costs.spread execution.spread }
    orders := update ReplayOrder.orderId orderId (fun order =>
      { order with filledQuantity := ctx.add order.filledQuantity execution.fill.quantity })
      replay.orders }

/-- The bookkeeping of a posted fill of a normalized intent: the order is done,
or its remainder waits on. -/
def settle (bar : Bar) (replay : Replay) (intent : OrderIntent) (execution : Execution) : Replay :=
  let charged := charge ctx replay intent.clientOrderId execution
  if execution.fill.quantity = intent.quantity then
    (charged.event intent.clientOrderId bar.timestamp .filled .none).drop intent.clientOrderId
  else
    (charged.event intent.clientOrderId bar.timestamp .partiallyFilled .none).keep
      { intent with quantity := ctx.sub intent.quantity execution.fill.quantity }

def cancelImmediate (bar : Bar) (replay : Replay) (intent : OrderIntent) : Replay :=
  if replay.isPending intent.clientOrderId ∧ (intent.timeInForce = .ioc ∨ intent.timeInForce = .fok) then
    (replay.event intent.clientOrderId bar.timestamp .cancelled .unfilledImmediateRemainder).drop
      intent.clientOrderId
  else replay

/-- The two `except` clauses: an unknown contract ends the replay, any other
`ValueError` rejects the order. -/
def refuse (bar : Bar) (replay : Replay) (orderId : String) (remaining : ℚ) (error : FinanceError) :
    Replaying (Replay × ℚ) :=
  if error.isUnknownContract then .error (error, replay)
  else
    let noted := { replay with rejections := replay.rejections ++ [(orderId, error)] }
    .ok ((noted.event orderId bar.timestamp .rejected (.refused error)).drop orderId, remaining)

/-- One pass of the inner loop, with the bar's remaining liquidity. -/
def processOrder (index : ℕ) (bar : Bar) (snapshot : MarketSnapshot) (state : Replay × ℚ)
    (intent : OrderIntent) : Replaying (Replay × ℚ) :=
  let (replay, remaining) := state
  if snapshot.timestamp < intent.submissionTime + engine.fillModel.latency then .ok state
  else match engine.normalize ctx bar snapshot intent with
    | .error error => refuse bar replay intent.clientOrderId remaining error
    | .ok normalized =>
      let noted := replay.noteNormalized normalized
      match engine.allow ctx bar snapshot noted.ledger remaining normalized with
      | .error error => refuse bar noted intent.clientOrderId remaining error
      | .ok none => .ok (cancelImmediate bar noted normalized, remaining)
      | .ok (some (simulated, quantity)) =>
        match engine.execute ctx index bar snapshot noted.ledger normalized simulated quantity with
        | .error error => refuse bar noted intent.clientOrderId remaining error
        | .ok execution =>
          .ok (cancelImmediate bar (settle ctx bar noted normalized execution) normalized,
            ctx.sub remaining quantity)

def submitProposed (history : List Bar) (bar : Bar) (replay : Replay) :
    Option OrderIntent → Replaying Replay
  | none => .ok replay
  | some intent => submit history bar replay intent

/-- The inner loop, over the orders pending when it starts. -/
def fillPending (index : ℕ) (bar : Bar) (replay : Replay) : Replaying Replay :=
  match bar.snapshot with
  | .error error => .error (error, replay)
  | .ok snapshot =>
    let liquidity := ctx.mul snapshot.availableQuantity engine.fillModel.participationLimit
    (replay.pending.foldlM (engine.processOrder ctx index bar snapshot) (replay, liquidity)).map
      Prod.fst

def trade (signal : Option Signal) (target : Option Target) (strategyId : String)
    (past : List Bar) (bar : Bar) (replay : Replay) : Replaying Replay :=
  if bar.timestamp < bar.availableAt then
    .error (.unknownContract "execution observation unavailable at simulated time", replay)
  else
    let history := causalHistory past bar.timestamp
    match engine.propose ctx signal target strategyId past.length history bar replay with
    | .error error => .error (error, replay)
    | .ok proposed => do
      let submitted ← submitProposed history bar replay proposed
      engine.fillPending ctx past.length bar submitted

def observe (bar : Bar) (replay : Replay) : Replaying Replay :=
  let ledger := replay.ledger
  match independentlyReconcile ctx engine.startingCash ledger.fills bar.close with
  | .error error => .error (error, replay)
  | .ok independent =>
    if ledger.cash ≠ independent.cash ∨ ledger.position ≠ independent.position ∨
        ledger.equity ctx bar.close ≠ independent.equity ∨ ledger.reconcile ctx bar.close ≠ 0 then
      .error (.value "independent accounting disagreement", replay)
    else
      .ok { replay with
        curve := replay.curve ++ [(bar.timestamp, ledger.equity ctx bar.close)]
        observations := replay.observations ++ [⟨bar.timestamp, bar.close, ledger.cash,
          ledger.position, ledger.equity ctx bar.close, ctx.mul ledger.position bar.close,
          ledger.fees, ledger.otherCosts, independent⟩] }

/-- The loop over the bars still to come, after those in `past`. -/
def replayBars (signal : Option Signal) (target : Option Target) (strategyId : String) :
    List Bar → List Bar → Replay → Replaying Replay
  | _, [], replay => .ok replay
  | past, bar :: future, replay => do
    let traded ← engine.trade ctx signal target strategyId past bar replay
    let observed ← engine.observe ctx bar traded
    replayBars signal target strategyId (past ++ [bar]) future observed

def endReplay (ordered : List Bar) (replay : Replay) : Replay :=
  match ordered.getLast? with
  | none => replay
  | some last => replay.pending.foldl (fun replay intent =>
      replay.event intent.clientOrderId last.timestamp .cancelled .endOfReplay) replay

/-- `sorted(bars, key=timestamp)`. -/
def sortBars (bars : List Bar) : List Bar :=
  bars.insertionSort fun first second => first.timestamp ≤ second.timestamp

/-- `_run` in a given arithmetic; `run` is `_run` in the pinned one. -/
def runIn (bars : List Bar) (signal : Option Signal) (target : Option Target) (strategyId : String) :
    Replaying Replay := do
  let nothing := Replay.start engine.startingCash
  let ordered := sortBars bars
  refuseIf (signal.isNone = target.isNone)
    (.value "exactly one signal or target program is required", nothing)
  refuseIf (ordered = []) (.value "empty market replay", nothing)
  refuseIf (¬(ordered.map Bar.timestamp).Nodup) (.value "duplicate market timestamp", nothing)
  refuseIf (∃ bar ∈ ordered, bar.revised)
    (.value "revised or naive market data cannot enter an execution replay", nothing)
  let final ← engine.replayBars ctx signal target strategyId [] ordered nothing
  return endReplay ordered final

/-- `DeterministicBacktest.run`. -/
def run (bars : List Bar) (signal : Option Signal) (target : Option Target) (strategyId : String) :
    Replaying Replay :=
  engine.runIn prec28 bars signal target strategyId

end DeterministicBacktest

end Liki.Finance
