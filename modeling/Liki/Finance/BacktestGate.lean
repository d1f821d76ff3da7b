import Liki.Finance.BacktestInvariants
import Liki.Finance.Metrics

/-! The fifth gate: a pinned spot protocol, replayed over a tape of quotes and packaged. The
arithmetic is an argument, so that the same code can be read with exact numbers; decimals have
no largest exponent here. -/
namespace Liki.Finance.BacktestGate
open DecimalArithmetic Checks DeterministicBacktest

inductive Algorithm where
  | laggedMomentum | buyHold
  deriving DecidableEq

@[ext] structure StrategyProgram where
  algorithm : Algorithm
  quantity : ℚ
  lookback : ℕ
  threshold : ℚ
  quantity_pos : 0 < quantity
  lookback_range : 1 ≤ lookback ∧ lookback ≤ 10000
  threshold_nonneg : 0 ≤ threshold

instance strategyProgram_decidableEq : DecidableEq StrategyProgram :=
  fun _ _ => decidable_of_iff _ StrategyProgram.ext_iff.symm

@[ext] structure QuoteObservation where
  timestamp : Time
  availableAt : Time
  bid : ℚ
  ask : ℚ
  executableQuantity : ℚ
  bid_pos : 0 < bid
  ask_pos : 0 < ask
  executable_nonneg : 0 ≤ executableQuantity
  /-- `valid_quote`. -/
  ordered : bid ≤ ask
  observed : availableAt = timestamp

instance quoteObservation_decidableEq : DecidableEq QuoteObservation :=
  fun _ _ => decidable_of_iff _ QuoteObservation.ext_iff.symm

structure KnownFee where
  schedule : FeeSchedule
  availableAt : Time

/-- A tape of quotes, strictly in time order. -/
structure QuoteReplayData where
  instrument : InstrumentSpec
  specificationAvailableAt : Time
  fees : List KnownFee
  quotes : List QuoteObservation
  fees_some : fees ≠ []
  quotes_some : 2 ≤ quotes.length ∧ quotes.length ≤ 10000
  chronological : (quotes.map QuoteObservation.timestamp).Pairwise (· < ·)
  specified : ∀ first ∈ quotes.head?, specificationAvailableAt ≤ first.timestamp

/-- A half-open interval of time. -/
structure ScenarioWindow where
  name : String
  start : Time
  stop : Time
  named : blank name = false
  ordered : start < stop
  deriving DecidableEq

@[ext] structure ExecutionCosts where
  version : String
  slippageBps : ℚ
  impactBps : ℚ
  estimateReason : String
  slippage_nonneg : 0 ≤ slippageBps
  impact_nonneg : 0 ≤ impactBps
  estimated : blank estimateReason = false

instance executionCosts_decidableEq : DecidableEq ExecutionCosts :=
  fun _ _ => decidable_of_iff _ ExecutionCosts.ext_iff.symm

@[ext] structure BacktestPlan where
  candidateArtifactId : String
  candidateHash : String
  snapshotId : String
  datasetArtifactId : String
  codeHash : String
  environmentFingerprint : String
  startingCash : ℚ
  accountTier : String
  executionModelVersion : String
  participationLimit : ℚ
  latencySeconds : ℕ
  maximumObservationGapSeconds : ℕ
  costs : ExecutionCosts
  benchmark : StrategyProgram
  tailConfidence : ℚ
  scenarios : List ScenarioWindow
  cash_pos : 0 < startingCash
  tier_named : accountTier ≠ ""
  participation : 0 < participationLimit ∧ participationLimit ≤ 1
  gap_pos : 0 < maximumObservationGapSeconds
  confidence : 0 < tailConfidence ∧ tailConfidence < 1
  scenarios_some : scenarios ≠ []
  /-- `benchmark_and_slices`. -/
  held : benchmark.algorithm = .buyHold
  scenarios_named : (scenarios.map ScenarioWindow.name).Nodup

instance backtestPlan_decidableEq : DecidableEq BacktestPlan :=
  fun _ _ => decidable_of_iff _ BacktestPlan.ext_iff.symm

variable (ctx : DecimalContext)

/-- `target`. The rows are the bars of the history, the latest last. -/
def StrategyProgram.target (program : StrategyProgram) : Target := fun history _ =>
  match program.algorithm with
  | .buyHold => .ok program.quantity
  | .laggedMomentum =>
    if history.length ≤ program.lookback then .ok 0
    else match history.reverse[0]?, history.reverse[program.lookback]? with
      | some latest, some lagged =>
        let change := ctx.sub (ctx.div latest.close lagged.close) 1
        .ok (if program.threshold < change then program.quantity else 0)
      | _, _ => .ok 0

def QuoteObservation.mid (quote : QuoteObservation) : ℚ :=
  ctx.div (ctx.add quote.bid quote.ask) 2

def QuoteObservation.snapshot (quote : QuoteObservation) : MarketSnapshot where
  timestamp := quote.timestamp
  bid := quote.bid
  ask := quote.ask
  availableQuantity := quote.executableQuantity
  fidelity := .f1TradeBbo
  bookSequenceValid := true
  observedAt := none
  bid_pos := quote.bid_pos
  bid_le_ask := quote.ordered
  available_nonneg := quote.executable_nonneg

theorem snapshot_matches (quote : QuoteObservation) : ∀ snapshot ∈ some quote.snapshot,
    snapshot.timestamp = quote.timestamp ∧ snapshot.fidelity = .f1TradeBbo := by
  rintro snapshot ⟨⟩
  exact ⟨rfl, rfl⟩

theorem mid_flat (mid : ℚ) : mid ≤ min mid mid ∧ max mid mid ≤ mid := by simp

/-- `bar`: the open, the high, the low and the close are the middle of the quote. -/
def QuoteObservation.bar (quote : QuoteObservation) : Except FinanceError Bar :=
  let mid := quote.mid ctx
  if positive : 0 < mid then
    .ok {
      timestamp := quote.timestamp
      openPrice := mid
      high := mid
      low := mid
      close := mid
      volume := quote.executableQuantity
      availableAt := quote.availableAt
      fidelity := .f1TradeBbo
      revised := false
      quote := some quote.snapshot
      low_pos := positive
      volume_nonneg := quote.executable_nonneg
      low_le := (mid_flat mid).1
      le_high := (mid_flat mid).2
      quote_matches := snapshot_matches quote }
  else .error (.value "invalid market observation")

def ScenarioWindow.covers (window : ScenarioWindow) (instant : Time) : Bool :=
  window.start ≤ instant ∧ instant < window.stop

/-- What `replay` raises. -/
inductive ReplayError where
  /-- A `ValueError`, an unknown contract among them. -/
  | finance (error : FinanceError)
  | arithmetic (error : ArithmeticError)
  /-- `IndexError`. -/
  | index
  deriving DecidableEq

/-- A quantity that was held for some time, or still is when the tape ends. -/
structure Holding where
  quantity : ℚ
  seconds : ℚ
  censored : Bool
  deriving DecidableEq

/-- Quantity and instant of a purchase. -/
abbrev Lot := ℚ × Time

structure ScenarioSlice where
  name : String
  start : Time
  stop : Time
  observations : ℕ
  netPnl : ℚ
  drawdown : MetricResult
  deriving DecidableEq

structure Package where
  orders : List ReplayOrder
  events : List OrderEvent
  fills : List Fill
  observations : List Observation
  grossPnlBeforeExecutionCosts : ℚ
  netPnl : ℚ
  costComponents : CostTotals
  costApplicability : ExecutionCosts
  turnoverNotional : ℚ
  turnoverOverStartingCash : ℚ
  leverage : List (Time × Option ℚ)
  drawdown : MetricResult
  tailLoss : MetricResult
  holdingTimes : List Holding
  scenarioSlices : List ScenarioSlice
  market : String × String × String
  capacityObservations : List (Time × ℚ)
  rejectionEvents : List (String × FinanceError)
  deriving DecidableEq

/-- `total_seconds()`. -/
def totalSeconds (duration : Duration) : ℚ := duration / 1000000

/-- The `while remaining` loop: match a sale against the oldest lots. -/
def matchLots (sold : Time) : ℚ → List Lot → Except ReplayError (List Holding × List Lot)
  | remaining, [] => if remaining = 0 then .ok ([], []) else .error .index
  | remaining, (quantity, bought) :: rest =>
    if remaining = 0 then .ok ([], (quantity, bought) :: rest)
    else
      let matched := min remaining quantity
      let holding : Holding := ⟨matched, totalSeconds (sold - bought), false⟩
      let left := ctx.sub quantity matched
      if left = 0 then do
        let (holdings, lots) ← matchLots sold (ctx.sub remaining matched) rest
        return (holding :: holdings, lots)
      -- A lot that outlives the sale used up all of it, so the loop's next test fails.
      else .ok ([holding], (left, bought) :: rest)

/-- One round of the loop over the fills. -/
def holdFill (state : List Lot × List Holding) (fill : Fill) :
    Except ReplayError (List Lot × List Holding) :=
  let (lots, holdings) := state
  match fill.side with
  | .buy => .ok (lots ++ [(fill.quantity, fill.timestamp)], holdings)
  | .sell => do
    let (more, lots) ← matchLots ctx fill.timestamp fill.quantity lots
    return (lots, holdings ++ more)

def indices (quotes : List QuoteObservation) (window : ScenarioWindow) : List ℕ :=
  (quotes.zipIdx.filter fun (quote, _) => window.covers quote.timestamp).map Prod.snd

/-- `equity[indices[0]:indices[-1] + 2]`. -/
def path (equity : List ℚ) (first last : ℕ) : List ℚ := (equity.take (last + 2)).drop first

/-- One round of the loop over the scenarios. -/
def slice (equity : List ℚ) (quotes : List QuoteObservation) (window : ScenarioWindow) :
    Except ReplayError ScenarioSlice := do
  let selected := indices quotes window
  let first ← expect selected.head?
    (.finance (.unknownContract "predeclared scenario has no observations"))
  let last ← expect selected.getLast? .index
  let path := path equity first last
  let opening ← expect path.head? .index
  let closing ← expect path.getLast? .index
  return ⟨window.name, window.start, window.stop, selected.length, ctx.sub closing opening,
    Metrics.maxDrawdown ctx path⟩

def equityPath (plan : BacktestPlan) (result : Replay) : List ℚ :=
  plan.startingCash :: result.curve.map Prod.snd

/-- `sum((fill.quantity * fill.price for fill in fills), 0)`. -/
def turnover (fills : List Fill) : ℚ := ctx.sum (fills.map fun fill => ctx.mul fill.quantity fill.price)

/-- `sum(result.cost_totals.values(), 0)`. -/
def totalCost (costs : CostTotals) : ℚ := ctx.sum [costs.fee, costs.spread, costs.slippage, costs.impact]

/-- What the model could have executed against the quote. -/
def capacity (plan : BacktestPlan) (quote : QuoteObservation) : ℚ :=
  ctx.div (ctx.mul (ctx.mul quote.executableQuantity plan.participationLimit)
    (ctx.add quote.bid quote.ask)) 2

/-- The lots that are left when the tape ends. -/
def censored (quotes : List QuoteObservation) (lots : List Lot) : Except ReplayError (List Holding) :=
  lots.mapM fun (quantity, bought) => do
    let last ← expect quotes.getLast? .index
    return ⟨quantity, totalSeconds (last.timestamp - bought), true⟩

/-- `_package`. -/
def package (result : Replay) (plan : BacktestPlan) (data : QuoteReplayData) :
    Except ReplayError Package := do
  let fills := result.ledger.fills
  let equity := equityPath plan result
  let final ← expect equity.getLast? .index
  let net := ctx.sub final plan.startingCash
  let (lots, holdings) ← fills.foldlM (holdFill ctx) ([], [])
  let unsold ← censored data.quotes lots
  let scenarioSlices ← plan.scenarios.mapM (slice ctx equity data.quotes)
  let returns ← (Metrics.simpleReturns ctx equity).mapError .arithmetic
  return {
    orders := result.orders
    events := result.events
    fills := fills
    observations := result.observations
    grossPnlBeforeExecutionCosts := ctx.add net (totalCost ctx result.costs)
    netPnl := net
    costComponents := result.costs
    costApplicability := plan.costs
    turnoverNotional := turnover ctx fills
    turnoverOverStartingCash := ctx.div (turnover ctx fills) plan.startingCash
    leverage := result.observations.map fun row =>
      (row.timestamp, if 0 < row.equity then some (ctx.div row.exposure row.equity) else none)
    drawdown := Metrics.maxDrawdown ctx equity
    tailLoss := Metrics.expectedShortfall ctx returns plan.tailConfidence
    holdingTimes := holdings ++ unsold
    scenarioSlices := scenarioSlices
    market := (data.instrument.venue, data.instrument.instrumentId, data.instrument.quoteCurrency)
    capacityObservations := data.quotes.map fun quote => (quote.timestamp, capacity ctx plan quote)
    rejectionEvents := result.rejections }

/-- `%`. The quotient has to be a whole number of no more digits than the context keeps. -/
def remainder (value increment : ℚ) : Except ArithmeticError ℚ := do
  refuseIf (∃ digits ∈ ctx.prec, (10 : ℚ) ^ digits ≤ |(roundDown (value / increment) : ℚ)|)
    .invalidOperation
  return ctx.round (value - roundDown (value / increment) * increment)

/-- The quantity of a program is a whole number of lots, and not too small. -/
def checkTarget (spec : InstrumentSpec) (item : StrategyProgram) : Except ReplayError Unit := do
  let rest ← (remainder ctx item.quantity spec.lotSize).mapError .arithmetic
  refuseIf (rest ≠ 0 ∨ item.quantity < spec.minQuantity)
    (.finance (.unknownContract "strategy and benchmark targets must use native quantity increments"))

def checkPrice (spec : InstrumentSpec) (price : ℚ) : Except ReplayError Unit := do
  let rest ← (remainder ctx price spec.tickSize).mapError .arithmetic
  refuseIf (rest ≠ 0) (.finance (.unknownContract "quote violates native price increment"))

def checkKnown (plan : BacktestPlan) (data : QuoteReplayData) (previous : Option QuoteObservation)
    (quote : QuoteObservation) : Except ReplayError Unit := do
  let _ ← (effectiveAt InstrumentSpec.effectiveInterval [data.instrument] quote.timestamp).mapError .finance
  let schedule ← (selectFee (data.fees.map KnownFee.schedule) data.instrument.venue
    data.instrument.instrumentId plan.accountTier .taker quote.timestamp).mapError .finance
  refuseIf (∃ item ∈ data.fees, item.schedule = schedule ∧ quote.timestamp < item.availableAt)
    (.finance (.unknownContract "historical fee was not available at decision time"))
  refuseIf (∃ earlier ∈ previous, (plan.maximumObservationGapSeconds : ℚ) <
      totalSeconds (quote.timestamp - earlier.timestamp))
    (.finance (.unknownContract "market observation gap exceeds protocol"))

/-- One round of the loop over the quotes. -/
def checkQuote (plan : BacktestPlan) (data : QuoteReplayData) (previous : Option QuoteObservation)
    (quote : QuoteObservation) : Except ReplayError Unit := do
  checkKnown plan data previous quote
  checkPrice ctx data.instrument quote.bid
  checkPrice ctx data.instrument quote.ask

def checkQuotes (plan : BacktestPlan) (data : QuoteReplayData) :
    Option QuoteObservation → List QuoteObservation → Except ReplayError Unit
  | _, [] => .ok ()
  | previous, quote :: rest => do
    checkQuote ctx plan data previous quote
    checkQuotes plan data (some quote) rest

def Supported (spec : InstrumentSpec) : Prop :=
  spec.contractKind = .spot ∧ spec.multiplier = 1 ∧ spec.settlementCurrency = spec.quoteCurrency

instance (spec : InstrumentSpec) : Decidable (Supported spec) := inferInstanceAs (Decidable (_ ∧ _ ∧ _))

/-- `timedelta(seconds=...)`, of fewer than a thousand million days. -/
def timedelta (seconds : ℕ) : Except ArithmeticError Duration := do
  refuseIf (86400 * 10 ^ 9 ≤ seconds) .overflow
  return 1000000 * seconds

theorem stress_one : (1 : ℚ) ≤ 1 := le_rfl

theorem quotes_unqueued (assumption : Option String) :
    FidelityTier.f1TradeBbo = .f3SeqL2 ∨ FidelityTier.f1TradeBbo = .f4OrderLevel →
      ∃ text ∈ assumption, text ≠ "" := by
  rintro (same | same) <;> cases same

theorem fees_explicit (plan : BacktestPlan) (data : QuoteReplayData) :
    data.fees.map KnownFee.schedule ≠ [] ∧ plan.accountTier ≠ "" :=
  ⟨fun none => data.fees_some (List.map_eq_nil_iff.mp none), plan.tier_named⟩

/-- `FillModel(...)` with the latency of the plan. -/
def fillModel (plan : BacktestPlan) (latency : Duration) (nonneg : 0 ≤ latency) : FillModel where
  version := plan.executionModelVersion
  minimumFidelity := .f1TradeBbo
  participationLimit := plan.participationLimit
  latency := latency
  queueAssumption := none
  stressMultiplier := 1
  participation_pos := plan.participation.1
  participation_le := plan.participation.2
  latency_nonneg := nonneg
  stress_ge := stress_one
  queue_explicit := quotes_unqueued none

/-- `DeterministicBacktest(...)`. -/
def engine (plan : BacktestPlan) (data : QuoteReplayData) (model : FillModel)
    (supported : Supported data.instrument) : DeterministicBacktest where
  spec := data.instrument
  fillModel := model
  startingCash := plan.startingCash
  feeSchedules := data.fees.map KnownFee.schedule
  accountTier := plan.accountTier
  slippageBps := plan.costs.slippageBps
  impactBps := plan.costs.impactBps
  fees_explicit := fees_explicit plan data
  spot := supported
  cash_pos := plan.cash_pos
  slippage_nonneg := plan.costs.slippage_nonneg
  impact_nonneg := plan.costs.impact_nonneg

def lastInstant : Time := 253402300799999999

/-- `submission_time + latency` is past the last instant. The engine adds the two as soon as
an order is submitted, before anything else happens to it. -/
def Unreachable (model : FillModel) (order : ReplayOrder) : Prop :=
  lastInstant < order.intent.submissionTime + model.latency

instance (model : FillModel) (order : ReplayOrder) : Decidable (Unreachable model order) :=
  inferInstanceAs (Decidable (_ < _))

/-- `engine.run`. The instants of the engine have no end, so that an order which is submitted
too late for its latency is found among those that it registered. -/
def runProgram (engine : DeterministicBacktest) (bars : List Bar) (program : StrategyProgram)
    (strategyId : String) : Except ReplayError Replay := do
  let ran := engine.runIn ctx bars none (some (program.target ctx)) strategyId
  refuseIf (∃ order ∈ (reached ran).orders, Unreachable engine.fillModel order) (.arithmetic .overflow)
  ran.mapError fun raised => .finance raised.1

/-- What `replay` returns, beside the plan, the program and what the protocol fixes. -/
structure ProtocolReport where
  candidate : Package
  benchmark : Package
  deriving DecidableEq

/-- The checks that come before the engine. -/
def checkProtocol (plan : BacktestPlan) (data : QuoteReplayData) (strategy : StrategyProgram) :
    Except ReplayError Unit := do
  checkTarget ctx data.instrument strategy
  checkTarget ctx data.instrument plan.benchmark
  checkQuotes ctx plan data none data.quotes

def runBoth (plan : BacktestPlan) (data : QuoteReplayData) (strategy : StrategyProgram)
    (engine : DeterministicBacktest) : Except ReplayError (Replay × Replay) := do
  let bars ← (data.quotes.mapM (QuoteObservation.bar ctx)).mapError .finance
  let candidate ← runProgram ctx engine bars strategy "candidate"
  let benchmark ← runProgram ctx engine bars plan.benchmark "benchmark"
  return (candidate, benchmark)

/-- `replay` in a given arithmetic. -/
def replayIn (plan : BacktestPlan) (data : QuoteReplayData) (strategy : StrategyProgram) :
    Except ReplayError ProtocolReport :=
  if supported : Supported data.instrument then do
    checkProtocol ctx plan data strategy
    let latency ← (timedelta plan.latencySeconds).mapError .arithmetic
    if nonneg : 0 ≤ latency then do
      let engine := engine plan data (fillModel plan latency nonneg) supported
      let (candidate, benchmark) ← runBoth ctx plan data strategy engine
      let candidate ← package ctx candidate plan data
      let benchmark ← package ctx benchmark plan data
      return ⟨candidate, benchmark⟩
    else .error (.finance (.value "latency cannot be negative"))
  else .error (.finance (.unknownContract "unsupported derivative or cross-currency replay"))

/-- `replay`, in the arithmetic that it pins. -/
def replay (plan : BacktestPlan) (data : QuoteReplayData) (strategy : StrategyProgram) :
    Except ReplayError ProtocolReport :=
  replayIn prec28 plan data strategy

end Liki.Finance.BacktestGate
