import Liki.Finance.Reference
import Liki.Library.CallSystem
import Liki.Paper.Types
import Mathlib.Data.List.Sort

/-! The paper execution service. Every operation is one transaction behind the
advisory lock, so it is a function from the tables to an answer and new tables;
a refused operation is rolled back.

`simulate_order` is two transactions: the one modelled under its name reads the
order and computes a fill, and what it answers is then recorded by an ordinary
`record_fill` call. -/
namespace Liki.Paper
open DecimalArithmetic Checks CallSystem Finance KeyedRows PaperOrder

abbrev PaperStore := Store PaperAggregate Empty String PaperContent
abbrev PaperEvent := Event PaperAggregate Empty String
abbrev PaperTransition := TransitionRequest PaperAggregate Empty

structure PaperState where
  store : PaperStore
  runs : List PaperRun
  orders : List PaperOrder
  fills : List FillRow
  reservations : List RiskReservation
  positions : List PaperPosition
  cash : List CashEntry
  stops : List StopEvent
  latches : List SafetyLatch
  deriving DecidableEq

structure LedgerRow where
  fill : FillRow
  side : Side
  clientOrderId : String

/-- What an operation makes of the tables. -/
abbrev Outcome := Except ServiceError (PaperAnswer × PaperState)

/-- A `ValueError` that nobody catches. A missing contract is always caught. -/
def raised {α : Type} (computation : Except FinanceError α) : Except ServiceError α :=
  computation.mapError fun
    | .value message => .value message
    | .unknownContract message => .value message
    | .effectiveContracts _ found => .value s!"expected one effective contract, found {found}"

/-- `except ValueError as error: raise DomainError(code) from error`. -/
def orRaise {α : Type} (code : String) (computation : Except FinanceError α) :
    Except ServiceError α :=
  computation.mapError fun _ => .domain code

namespace PaperState

def empty : PaperState := ⟨.empty, [], [], [], [], [], [], [], []⟩

def findRun (state : PaperState) (runId : String) : Option PaperRun :=
  find PaperRun.paperRunId runId state.runs

def findOrder (state : PaperState) (orderId : String) : Option PaperOrder :=
  find paperOrderId orderId state.orders

def findClientOrder (state : PaperState) (clientOrderId : String) : Option PaperOrder :=
  find PaperOrder.clientOrderId clientOrderId state.orders

def findFill (state : PaperState) (externalFillKey : String) : Option FillRow :=
  find FillRow.externalFillKey externalFillKey state.fills

def findReservation (state : PaperState) (reservationId : String) : Option RiskReservation :=
  find RiskReservation.reservationId reservationId state.reservations

def findPosition (state : PaperState) (runId venueId instrumentId : String) : Option PaperPosition :=
  find PaperPosition.key (runId, venueId, instrumentId) state.positions

def findLatch (state : PaperState) (latchId : String) : Option SafetyLatch :=
  find SafetyLatch.safetyLatchId latchId state.latches

def findEvent (state : PaperState) (operationKey : String) : Option PaperEvent :=
  find Event.operationKey operationKey state.store.events

def content (state : PaperState) (artifactId : ℕ) : Option PaperContent :=
  state.store.artifacts[artifactId]?.map Artifact.content

/-- `paper_runs r JOIN artifacts a ON a.artifact_id=r.execution_config_artifact_id`. -/
def joinedRun (state : PaperState) (runId : String) : Option (PaperRun × PaperContent) :=
  (state.findRun runId).bind fun run =>
    (state.content run.executionConfigArtifactId).map fun config => (run, config)

/-- `_prior_operation`: the event recorded under the key, if it is of an accepted
type and about this aggregate. -/
def priorOperation (state : PaperState) (operationKey : String) (acceptedTypes : List String)
    (aggregateId : String) : Except ServiceError (Option PaperEvent) :=
  match state.findEvent operationKey with
  | none => .ok none
  | some event =>
    if event.request.eventType ∉ acceptedTypes ∨ event.request.aggregateId ≠ aggregateId then
      .error (.domain "IDEMPOTENCY_CONFLICT")
    else .ok (some event)

/-- `_aggregate`. -/
def aggregate (state : PaperState) (kind aggregateId : String) :
    Except ServiceError (Aggregate PaperAggregate) :=
  expect (state.store.state kind aggregateId) (.domain "PAPER_PROJECTION_MISSING")

/-- `_run_policy`. -/
def runPolicy (state : PaperState) (runId : String) : Except ServiceError String :=
  expect ((state.findRun runId).map PaperRun.policyVersion) (.domain "PAPER_RUN_PROJECTION_MISSING")

/-- `_ensure_not_stopped`: whether an active stop of the run or an active safety
latch covers the intent. -/
def stopped (state : PaperState) (runId : String) (intent : OrderIntent) : Bool :=
  (state.stops.any fun stop => stop.paperRunId = runId && stop.active &&
    (stop.scope = .global || (stop.scope = .venue && stop.scopeId = some intent.venue) ||
      (stop.scope = .strategy && stop.scopeId = some intent.strategyId))) ||
  (state.latches.any fun latch => latch.active &&
    (latch.scope = .global || (latch.scope = .venue && latch.scopeId = some intent.venue)))

/-- The rows a submission reads before its pretrade check. -/
def positionQuantity (state : PaperState) (runId venueId instrumentId : String) : ℚ :=
  ((state.findPosition runId venueId instrumentId).map PaperPosition.quantity).getD 0

def heldReservations (state : PaperState) (runId poolId : String) : List RiskReservation :=
  state.reservations.filter fun reservation =>
    reservation.paperRunId = runId && reservation.poolId = poolId && reservation.holdsRisk

/-- `active_risk`, summed in the order the rows come. -/
def activeRisk (ctx : DecimalContext) (rank : String → ℕ) (state : PaperState)
    (runId poolId : String) : ℚ :=
  ctx.sum (((state.heldReservations runId poolId).insertionSort fun first second =>
      rank first.reservationId ≤ rank second.reservationId).map fun reservation =>
    ctx.add reservation.amounts.working reservation.amounts.position)

def instrumentFills (state : PaperState) (runId venueId instrumentId : String) : List LedgerRow :=
  state.fills.filterMap fun fill =>
    (state.findOrder fill.paperOrderId).bind fun order =>
      if order.paperRunId = runId ∧ order.venueId = venueId ∧ order.instrumentId = instrumentId then
        some ⟨fill, order.side, order.clientOrderId⟩
      else none

def updateRun (state : PaperState) (runId : String) (change : PaperRun → PaperRun) : PaperState :=
  { state with runs := update PaperRun.paperRunId runId change state.runs }

def updateOrder (state : PaperState) (orderId : String) (change : PaperOrder → PaperOrder) :
    PaperState :=
  { state with orders := update paperOrderId orderId change state.orders }

def updateReservation (state : PaperState) (reservationId : String)
    (change : RiskReservation → RiskReservation) : PaperState :=
  { state with reservations :=
      KeyedRows.update RiskReservation.reservationId reservationId change state.reservations }

def updateLatch (state : PaperState) (latchId : String) (change : SafetyLatch → SafetyLatch) :
    PaperState :=
  { state with latches := update SafetyLatch.safetyLatchId latchId change state.latches }

def request (actor : Identity) (kind aggregateId : String) (expectedVersion : ℕ)
    (after : PaperAggregate) (eventType taskId policyVersion : String) (artifactIds : List ℕ) :
    PaperTransition where
  kind := kind
  aggregateId := aggregateId
  expectedVersion := expectedVersion
  state := after
  eventType := eventType
  principalId := actor.principalId
  taskId := taskId
  policyVersion := policyVersion
  evidenceIds := []
  artifactIds := artifactIds
  metadata := none

/-- `store.transition`. -/
def transition (state : PaperState) (actor : Identity) (capability : Capability)
    (operationKey : String) (request : PaperTransition) (topic : String) :
    Except ServiceError PaperState :=
  (state.store.transition actor capability operationKey request (some topic)).map fun store =>
    { state with store }

end PaperState

open PaperState

/-- `_configured_model`. -/
def configuredModel : PaperContent → Except ServiceError PinnedFillModel
  | .executionConfig config => .ok config.fillModel
  | .riskEnvelope _ => .error (.domain "PAPER_EXECUTION_CONFIG_INVALID")

/-- `_instrument`. -/
def instrument (config : PaperContent) (venue instrumentId : String) (instant : Time) :
    Except ServiceError InstrumentSpec :=
  match config with
  | .executionConfig config => orRaise "INSTRUMENT_CONFIG_NOT_PINNED"
      (effectiveAt InstrumentSpec.effectiveInterval
        (config.instruments.filter fun spec => spec.venue = venue ∧ spec.instrumentId = instrumentId)
        instant)
  | .riskEnvelope _ => .error (.domain "INSTRUMENT_CONFIG_NOT_PINNED")

/-- `_fee_schedule`. -/
def feeSchedule (config : PaperContent) (order : PaperOrder) (fill : PaperFill) :
    Except ServiceError FeeSchedule :=
  match config with
  | .executionConfig config => orRaise "FEE_CONFIG_NOT_PINNED"
      (selectFee config.feeSchedules order.venueId order.instrumentId config.feeAccountTier
        fill.liquidityRole fill.fillTime)
  | .riskEnvelope _ => .error (.domain "FEE_CONFIG_NOT_PINNED")

def loadIntent (order : PaperOrder) : Except ServiceError OrderIntent :=
  (raised order.intent.validate).map fun intent =>
    { intent with quantity := order.quantity, limitPrice := order.price }

/-- `OrderRecord(intent, OrderState(order["final_state"]), order["filled_quantity"])`. -/
def loadRecord (order : PaperOrder) (intent : OrderIntent) : OrderRecord :=
  ⟨intent, order.finalState, order.filledQuantity, none⟩

def startedState (spec : PaperRunSpec) (riskArtifact executionArtifact : ℕ) : RunState :=
  ⟨spec.paperRunId, .reconcileOnly, riskArtifact, executionArtifact, none, none, none, none⟩

def startedRequest (actor : Identity) (spec : PaperRunSpec) (riskArtifact executionArtifact : ℕ) :
    PaperTransition :=
  request actor "paper_run" spec.paperRunId 0 (.run (startedState spec riskArtifact executionArtifact))
    "PAPER_RUN_STARTED_RECONCILE_ONLY" spec.paperRunId spec.policyVersion
    [riskArtifact, executionArtifact]

/-- The row of a new run. -/
def startedRun (spec : PaperRunSpec) (riskArtifact executionArtifact : ℕ) : PaperRun :=
  ⟨spec.paperRunId, .reconcileOnly, spec.policyVersion, riskArtifact, executionArtifact,
    spec.reportingCurrency⟩

/-- Whether paper execution supports the contract of an instrument. -/
def spotIn (currency : String) (listed : InstrumentSpec) : Prop :=
  listed.contractKind = .spot ∧ listed.multiplier = 1 ∧
    listed.settlementCurrency = listed.quoteCurrency ∧ listed.quoteCurrency = currency

instance (currency : String) (listed : InstrumentSpec) : Decidable (spotIn currency listed) :=
  inferInstanceAs (Decidable (_ ∧ _))

def startRun (state : PaperState) (actor : Identity) (spec : PaperRunSpec) (operationKey : String) :
    Outcome := do
  actor.requires .paper
  refuseIf (∃ listed ∈ spec.instruments, ¬spotIn spec.reportingCurrency listed)
    (.domain "PAPER_CONTRACT_NOT_SUPPORTED")
  match state.findRun spec.paperRunId with
  | some existing =>
    let prior ← state.priorOperation operationKey ["PAPER_RUN_STARTED_RECONCILE_ONLY"] spec.paperRunId
    let _ ← expect prior (.domain "PAPER_RUN_EXISTS")
    let storedRisk ← expect (state.content existing.riskConfigArtifactId)
      (.domain "PAPER_CONFIG_PROJECTION_MISSING")
    let storedExecution ← expect (state.content existing.executionConfigArtifactId)
      (.domain "PAPER_CONFIG_PROJECTION_MISSING")
    refuseIf ((existing.policyVersion, existing.reportingCurrency, storedRisk, storedExecution) ≠
        (spec.policyVersion, spec.reportingCurrency, .riskEnvelope spec.riskEnvelope,
          .executionConfig spec.executionConfig))
      (.domain "IDEMPOTENCY_CONFLICT")
    return (.id existing.paperRunId, state)
  | none =>
    let (riskArtifact, filed) ← state.store.putArtifact actor (.riskEnvelope spec.riskEnvelope)
      "paper/risk-envelope-v1" .internal spec.policyVersion
    let (executionArtifact, filed) ← filed.putArtifact actor (.executionConfig spec.executionConfig)
      "paper/execution-config-v1" .internal spec.policyVersion
    let state ← { state with store := filed }.transition actor .paper operationKey
      (startedRequest actor spec riskArtifact executionArtifact) "paper.run"
    return (.id spec.paperRunId,
      { state with runs := state.runs ++ [startedRun spec riskArtifact executionArtifact] })

def PaperState.unresolved (state : PaperState) (runId : String) : Bool :=
  state.orders.any fun order => order.paperRunId = runId && order.finalState = .unknownReconciling

def PaperState.globalLatch (state : PaperState) : Option SafetyLatch :=
  state.latches.find? fun latch => latch.active && latch.scope = .global

def PaperState.reconciledStatus (state : PaperState) (runId : String) (marketDataValid : Bool) :
    PaperRunStatus :=
  if marketDataValid ∧ ¬state.unresolved runId ∧ state.globalLatch = none then .active
  else .reconcileOnly

def PaperState.reconciledState (state : PaperState) (runId : String) (marketDataValid : Bool)
    (recorded : RunState) : RunState :=
  { recorded with
    status := state.reconciledStatus runId marketDataValid
    marketDataValid := some marketDataValid
    unresolvedOrders := some (state.unresolved runId)
    globalSafetyLatchId := some (state.globalLatch.map SafetyLatch.safetyLatchId) }

def reconciledRequest (actor : Identity) (state : PaperState) (run : PaperRun)
    (marketDataValid : Bool) (current : Aggregate PaperAggregate) : PaperTransition :=
  request actor "paper_run" run.paperRunId current.version
    (current.state.mapRun (state.reconciledState run.paperRunId marketDataValid))
    (if state.reconciledStatus run.paperRunId marketDataValid = .active then
      "PAPER_RECONCILIATION_COMPLETE" else "PAPER_RECONCILIATION_BLOCKED")
    run.paperRunId run.policyVersion []

def reconcile (state : PaperState) (actor : Identity) (runId operationKey : String)
    (marketDataValid : Bool) : Outcome := do
  actor.requires .paper
  let run ← expect (state.findRun runId) (.domain "PAPER_RUN_NOT_FOUND")
  match ← state.priorOperation operationKey
      ["PAPER_RECONCILIATION_COMPLETE", "PAPER_RECONCILIATION_BLOCKED"] runId with
  | some prior =>
    let recorded ← expect prior.request.state.run? .typeError
    refuseIf (recorded.marketDataValid ≠ some marketDataValid) (.domain "IDEMPOTENCY_CONFLICT")
    return (.status recorded.status, state)
  | none =>
    let status := state.reconciledStatus runId marketDataValid
    let current ← state.aggregate "paper_run" runId
    let state ← state.transition actor .paper operationKey
      (reconciledRequest actor state run marketDataValid current) "paper.reconcile"
    return (.status status, state.updateRun runId fun run => { run with status })

def restartedRequest (actor : Identity) (run : PaperRun) (current : Aggregate PaperAggregate) :
    PaperTransition :=
  request actor "paper_run" run.paperRunId current.version
    (current.state.mapRun fun recorded => { recorded with status := .reconcileOnly })
    "PAPER_RESTART_RECONCILE_ONLY" run.paperRunId run.policyVersion []

def restart (state : PaperState) (actor : Identity) (runId operationKey : String) : Outcome := do
  actor.requires .paper
  let (run, _) ← expect (state.joinedRun runId) (.domain "PAPER_RUN_NOT_FOUND")
  match ← state.priorOperation operationKey ["PAPER_RESTART_RECONCILE_ONLY"] runId with
  | some _ => return (.status .reconcileOnly, state)
  | none =>
    let current ← state.aggregate "paper_run" runId
    let state ← state.transition actor .paper operationKey (restartedRequest actor run current)
      "paper.reconcile"
    return (.status .reconcileOnly, state.updateRun runId fun run => { run with status := .reconcileOnly })

/-- The order row of an accepted submission. -/
def acknowledgedOrder (orderId runId : String) (intent : OrderIntent) (reservation : Reservation) :
    PaperOrder where
  paperOrderId := orderId
  clientOrderId := intent.clientOrderId
  paperRunId := runId
  instrumentId := intent.instrumentId
  venueId := intent.venue
  side := intent.side
  price := reservation.normalizedLimitPrice
  quantity := reservation.normalizedQuantity
  reduceOnly := intent.reduceOnly
  finalState := .acknowledged
  filledQuantity := 0
  intent := intent
  reservationId := reservation.reservationId

def acknowledgedRequest (actor : Identity) (order : PaperOrder) (policyVersion : String) :
    PaperTransition :=
  request actor "paper_order" order.paperOrderId 0
    (.order ⟨order.paperOrderId, order.paperRunId, order.clientOrderId, .acknowledged, order.quantity,
      order.reservationId, none, none, none, none, none⟩)
    "PAPER_ORDER_ACKNOWLEDGED" order.paperRunId policyVersion []

/-- The reservation row of an accepted submission: all of its amount is working. -/
def heldReservation (order : PaperOrder) (poolId : String) (reservation : Reservation)
    (amounts : ReservedAmounts) : RiskReservation where
  reservationId := reservation.reservationId
  paperRunId := order.paperRunId
  paperOrderId := order.paperOrderId
  poolId := poolId
  envelopeVersion := reservation.envelopeVersion
  amounts := amounts
  state := .held
  expiresAt := reservation.expiresAt

/-- The CHECKs of `paper_orders` on a new row. -/
def checkOrder (order : PaperOrder) : Except ServiceError Unit := do
  refuseIf (order.quantity ≤ 0) (.constraint "quantity")
  refuseIf (¬(order.intent.informationCutoffTime ≤ order.intent.signalReadyTime ∧
      order.intent.signalReadyTime ≤ order.intent.orderEligibleTime ∧
      order.intent.orderEligibleTime ≤ order.intent.submissionTime))
    (.constraint "information_cutoff_time")
  refuseIf (¬((order.intent.orderType = .limit ∧ order.price ≠ none) ∨
      (order.intent.orderType = .market ∧ order.price = none))) (.constraint "order_type")

def submit (ctx : DecimalContext) (state : PaperState) (actor : Identity) (readings : Readings)
    (runId : String) (intent : OrderIntent) (spec : InstrumentSpec) (snapshot : MarketSnapshot)
    (envelope : RiskEnvelope) (poolId : String) : Outcome := do
  actor.requires .paper
  match state.findClientOrder intent.clientOrderId with
  | some prior =>
    refuseIf (prior.intent ≠ intent) (.domain "IDEMPOTENCY_CONFLICT")
    return (.id prior.paperOrderId, state)
  | none =>
    let (run, config) ← expect ((state.joinedRun runId).filter fun joined => joined.1.status = .active)
      (.domain "PAPER_RECONCILIATION_REQUIRED")
    refuseIf (state.stopped runId intent) (.domain "PAPER_STOP_ACTIVE")
    let configuredEnvelope ← expect (state.content run.riskConfigArtifactId)
      (.domain "PAPER_CONFIG_PROJECTION_MISSING")
    refuseIf (configuredEnvelope ≠ .riskEnvelope envelope) (.domain "RISK_CONFIG_NOT_PINNED")
    let configuredSpec ← instrument config intent.venue intent.instrumentId intent.submissionTime
    refuseIf (configuredSpec ≠ spec) (.domain "INSTRUMENT_CONTRACT_MISMATCH")
    let position := state.positionQuantity runId intent.venue intent.instrumentId
    let activeRisk := state.activeRisk ctx readings.rank runId poolId
    let reservation ← orRaise "PRETRADE_REJECTED"
      (pretradeCheck ctx intent spec snapshot envelope position activeRisk readings.now)
    let orderId := readings.uid "PORD"
    let amounts ← ReservedAmounts.build reservation.amount reservation.amount 0 0
    refuseIf (state.findReservation reservation.reservationId ≠ none) (.constraint "reservation_id")
    let order := acknowledgedOrder orderId runId intent reservation
    checkOrder order
    refuseIf (state.findOrder orderId ≠ none) (.constraint "paper_order_id")
    let state ← state.transition actor .paper s!"paper-order:{intent.clientOrderId}"
      (acknowledgedRequest actor order run.policyVersion) "paper.order"
    return (.id orderId, { state with
      orders := state.orders ++ [order]
      reservations := state.reservations ++ [heldReservation order poolId reservation amounts] })

/-- The adapter's `simulate`: a local fill, never a network order. -/
def simulate (ctx : DecimalContext) (isoformat : Time → String) (intent : OrderIntent)
    (snapshot : MarketSnapshot) (model : FillModel) : Except FinanceError (Option PaperFill) := do
  match ← model.simulate ctx intent snapshot with
  | none => return none
  | some result =>
    let fill ← PaperFill.build s!"SIM:{intent.clientOrderId}:{isoformat snapshot.timestamp}"
      snapshot.timestamp result.price result.quantity 0 result.role model.version
    return some fill

/-- `quantity * price * multiplier * rate`. -/
def pinnedFee (ctx : DecimalContext) (fill : PaperFill) (spec : InstrumentSpec)
    (schedule : FeeSchedule) : ℚ :=
  ctx.mul (ctx.mul (ctx.mul fill.quantity fill.price) spec.multiplier) schedule.rate

/-- The first transaction of `simulate_order`. -/
def simulateOrder (ctx : DecimalContext) (state : PaperState) (actor : Identity) (readings : Readings)
    (orderId : String) (snapshot : MarketSnapshot) (model : FillModel) (schedule : FeeSchedule) :
    Outcome := do
  actor.requires .paper
  let order ← expect (state.findOrder orderId) (.domain "PAPER_ORDER_NOT_FOUND")
  let (_, config) ← expect (state.joinedRun order.paperRunId) (.domain "PAPER_EXECUTION_CONFIG_MISSING")
  let configured ← configuredModel config
  let pinned ← raised (PinnedFillModel.fromModel model)
  refuseIf (configured ≠ pinned) (.domain "EXECUTION_CONFIG_NOT_PINNED")
  if order.finalState.terminal then return (.simulated none, state)
  else
    let intent ← loadIntent order
    match ← raised (simulate ctx readings.isoformat intent snapshot model) with
    | none => return (.simulated none, state)
    | some simulated =>
      let spec ← instrument config order.venueId order.instrumentId simulated.fillTime
      let configuredSchedule ← feeSchedule config order simulated
      refuseIf (schedule ≠ configuredSchedule) (.domain "FEE_CONFIG_NOT_PINNED")
      return (.simulated (some { simulated with
        feeAmount := pinnedFee ctx simulated spec configuredSchedule }), state)

def unknownRequest (actor : Identity) (order : PaperOrder) (reasonCode policyVersion : String)
    (current : Aggregate PaperAggregate) : PaperTransition :=
  request actor "paper_order" order.paperOrderId current.version
    (current.state.mapOrder fun recorded => { recorded with
      state := .unknownReconciling, reconciliationReason := some reasonCode })
    "PAPER_ORDER_UNKNOWN_RECONCILING" order.paperRunId policyVersion []

/-- The rows that the mark of an order writes. -/
def PaperState.postUnknown (state : PaperState) (order : PaperOrder) : PaperState :=
  (state.updateOrder order.paperOrderId fun order => { order with finalState := .unknownReconciling }
  ).updateReservation order.reservationId fun reservation => { reservation with state := .unreconciled }

def markUnknown (ctx : DecimalContext) (state : PaperState) (actor : Identity)
    (orderId reasonCode operationKey : String) : Outcome := do
  actor.requires .paper
  let order ← expect (state.findOrder orderId) (.domain "PAPER_ORDER_NOT_FOUND")
  match ← state.priorOperation operationKey ["PAPER_ORDER_UNKNOWN_RECONCILING"] orderId with
  | some _ =>
    let current ← state.aggregate "paper_order" orderId
    refuseIf (current.state.order?.bind OrderStateRecord.reconciliationReason ≠ some reasonCode)
      (.domain "IDEMPOTENCY_CONFLICT")
    return (.done, state)
  | none =>
    let intent ← loadIntent order
    let _ ← raised ((loadRecord order intent).transition ctx .unknownReconciling (some reasonCode) 0)
    let current ← state.aggregate "paper_order" orderId
    let policy ← state.runPolicy order.paperRunId
    let state ← state.transition actor .paper operationKey
      (unknownRequest actor order reasonCode policy current) "paper.incident"
    return (.done, state.postUnknown order)

/-- `value % increment != 0`. The remainder is not defined once the quotient
needs more digits than the context keeps. -/
def offIncrement (ctx : DecimalContext) (value increment : ℚ) : Except ServiceError Bool := do
  refuseIf (∃ digits ∈ ctx.prec, 10 ^ digits ≤ |roundDown (value / increment)|) .invalidOperation
  return value ≠ roundDown (value / increment) * increment

/-- What `record_fill` checks of a fill against the pinned configuration. -/
def checkFill (ctx : DecimalContext) (config : PaperContent) (order : PaperOrder) (fill : PaperFill)
    (quoteCurrency : String) : Except ServiceError Unit := do
  let model ← configuredModel config
  refuseIf (fill.executionModelVersion ≠ model.version) (.domain "EXECUTION_CONFIG_NOT_PINNED")
  let spec ← instrument config order.venueId order.instrumentId fill.fillTime
  refuseIf (quoteCurrency ≠ spec.quoteCurrency) (.domain "FILL_QUOTE_CURRENCY_MISMATCH")
  let offLot ← offIncrement ctx fill.quantity spec.lotSize
  refuseIf offLot (.domain "FILL_VENUE_INCREMENT_MISMATCH")
  let offTick ← offIncrement ctx fill.price spec.tickSize
  refuseIf offTick (.domain "FILL_VENUE_INCREMENT_MISMATCH")
  let schedule ← feeSchedule config order fill
  refuseIf (fill.feeAmount ≠ pinnedFee ctx fill spec schedule) (.domain "FEE_CONFIG_NOT_PINNED")

/-- `ORDER BY f.fill_time,f.fill_sequence`; what these leave open is open. -/
def LedgerRow.precedes (rank : String → ℕ) (first second : LedgerRow) : Prop :=
  first.fill.fillTime < second.fill.fillTime ∨ (first.fill.fillTime = second.fill.fillTime ∧
    (first.fill.fillSequence < second.fill.fillSequence ∨
      (first.fill.fillSequence = second.fill.fillSequence ∧
        rank first.fill.paperFillId ≤ rank second.fill.paperFillId)))

instance (rank : String → ℕ) : DecidableRel (LedgerRow.precedes rank) := fun _ _ =>
  inferInstanceAs (Decidable (_ ∨ _))

def LedgerRow.toFill (row : LedgerRow) : Fill :=
  ⟨row.fill.paperFillId, row.clientOrderId, row.fill.fillTime, row.side, row.fill.quantity,
    row.fill.price, row.fill.liquidityFlag, row.fill.feeAmount, [], row.fill.quantity_pos,
    row.fill.price_pos⟩

/-- The ledger entry of a fill that is being recorded. -/
def PaperFill.toFill (fill : PaperFill) (order : PaperOrder) : Fill :=
  ⟨fill.externalFillKey, order.clientOrderId, fill.fillTime, order.side, fill.quantity, fill.price,
    fill.liquidityRole, fill.feeAmount, [], fill.quantity_pos, fill.price_pos⟩

def rebuildLedger (ctx : DecimalContext) (rank : String → ℕ) (rows : List LedgerRow) (fill : Fill) :
    Except FinanceError LedgerState := do
  let ledger ← (rows.insertionSort (LedgerRow.precedes rank)).foldlM
    (fun (ledger : LedgerState) row => ledger.apply ctx row.toFill) (LedgerState.flat 0)
  ledger.apply ctx fill

/-- `ORDER BY created_at DESC LIMIT 1`. -/
def CashEntry.precedes (rank : String → ℕ) (first second : CashEntry) : Prop :=
  second.createdAt < first.createdAt ∨ (first.createdAt = second.createdAt ∧
    rank first.paperCashEntryId ≤ rank second.paperCashEntryId)

instance (rank : String → ℕ) : DecidableRel (CashEntry.precedes rank) := fun _ _ =>
  inferInstanceAs (Decidable (_ ∨ _))

def PaperState.cashEntries (state : PaperState) (runId currency : String) : List CashEntry :=
  state.cash.filter fun entry => entry.paperRunId = runId ∧ entry.currency = currency

/-- `balance_after` of the entry taken for the newest, or zero. -/
def PaperState.priorBalance (state : PaperState) (rank : String → ℕ) (runId currency : String) : ℚ :=
  (((state.cashEntries runId currency).insertionSort (CashEntry.precedes rank)).head?.map
    CashEntry.balanceAfter).getD 0

/-- `-Side(...).sign * quantity * price - fee_amount`. -/
def cashDelta (ctx : DecimalContext) (side : Side) (fill : PaperFill) : ℚ :=
  ctx.sub (ctx.mul (ctx.mul (-side.sign) fill.quantity) fill.price) fill.feeAmount

def filledAmounts (ctx : DecimalContext) (amounts : ReservedAmounts) (filled quantity : ℚ) :
    Except ServiceError ReservedAmounts :=
  let position := ctx.mul amounts.original (ctx.div filled quantity)
  ReservedAmounts.build amounts.original (ctx.sub amounts.original position) position amounts.released

def fillRecord (ctx : DecimalContext) (order : PaperOrder) (intent : OrderIntent) (fill : PaperFill) :
    Except ServiceError OrderRecord :=
  let record := loadRecord order intent
  let newTotal := ctx.add record.filledQuantity fill.quantity
  let target : OrderState := if newTotal = record.intent.quantity then .filled else .partiallyFilled
  raised (record.transition ctx target none fill.quantity)

def PaperState.orderFills (state : PaperState) (orderId : String) : List FillRow :=
  state.fills.filter fun fill => fill.paperOrderId = orderId

def fillRow (fillId orderId : String) (sequence : ℕ) (fill : PaperFill) (quoteCurrency : String) :
    FillRow :=
  ⟨fillId, orderId, sequence, fill.fillTime, fill.price, fill.quantity, fill.feeAmount, quoteCurrency,
    fill.liquidityRole, fill.executionModelVersion, fill.externalFillKey, fill.price_pos,
    fill.quantity_pos⟩

/-- Whether a stored fill is the fill of a call. -/
def FillRow.matches (row : FillRow) (orderId : String) (fill : PaperFill) (quoteCurrency : String) :
    Bool :=
  row.price = fill.price ∧ row.quantity = fill.quantity ∧ row.feeAmount = fill.feeAmount ∧
    row.paperOrderId = orderId ∧ row.fillTime = fill.fillTime ∧ row.feeAsset = quoteCurrency ∧
    row.liquidityFlag = fill.liquidityRole ∧ row.executionModelVersion = fill.executionModelVersion

def checkedLedger (ctx : DecimalContext) (rank : String → ℕ) (rows : List LedgerRow)
    (order : PaperOrder) (fill : PaperFill) : Except ServiceError LedgerState := do
  let ledger ← raised (rebuildLedger ctx rank rows (fill.toFill order))
  let reference ← raised (independentlyReconcile ctx 0 ledger.fills fill.price)
  refuseIf (ledger.position ≠ reference.position ∨ ledger.equity ctx fill.price ≠ reference.equity)
    (.domain "ACCOUNTING_DISAGREEMENT")
  return ledger

def PaperState.postFill (state : PaperState) (row : FillRow) (position : PaperPosition)
    (entry : CashEntry) (reservationId : String) (amounts : ReservedAmounts) (record : OrderRecord) :
    PaperState :=
  ({ state with
      fills := state.fills ++ [row]
      positions := upsert PaperPosition.key position state.positions
      cash := state.cash ++ [entry] }.updateReservation reservationId fun reservation =>
        { reservation with amounts, state := if amounts.position ≠ 0 then .converted else .held }
    ).updateOrder row.paperOrderId fun order =>
      { order with finalState := record.state, filledQuantity := record.filledQuantity }

def filledRequest (actor : Identity) (order : PaperOrder) (record : OrderRecord)
    (policyVersion : String) (current : Aggregate PaperAggregate) : PaperTransition :=
  request actor "paper_order" order.paperOrderId current.version
    (current.state.mapOrder fun recorded => { recorded with
      state := record.state, filledQuantity := some record.filledQuantity,
      accountingCheck := some "PASS" })
    "PAPER_FILL_RECORDED" order.paperRunId policyVersion []

def recordFill (ctx : DecimalContext) (state : PaperState) (actor : Identity) (readings : Readings)
    (orderId : String) (fill : PaperFill) (quoteCurrency : String) : Outcome := do
  actor.requires .paper
  match state.findFill fill.externalFillKey with
  | some existing =>
    refuseIf (¬existing.matches orderId fill quoteCurrency) (.domain "IDEMPOTENCY_CONFLICT")
    return (.id existing.paperFillId, state)
  | none =>
    let order ← expect (state.findOrder orderId) (.domain "PAPER_ORDER_NOT_FOUND")
    let (run, config) ← expect (state.joinedRun order.paperRunId)
      (.domain "PAPER_EXECUTION_CONFIG_MISSING")
    checkFill ctx config order fill quoteCurrency
    let rows := state.instrumentFills order.paperRunId order.venueId order.instrumentId
    refuseIf (∃ earlier ∈ rows, fill.fillTime < earlier.fill.fillTime) (.domain "FILL_TIME_REGRESSION")
    let intent ← loadIntent order
    refuseIf (fill.fillTime < intent.submissionTime) (.domain "FILL_CAUSALITY_VIOLATION")
    let record ← fillRecord ctx order intent fill
    let ledger ← checkedLedger ctx readings.rank rows order fill
    let fillId := readings.uid "PFILL"
    let row := fillRow fillId orderId ((state.orderFills orderId).length + 1) fill quoteCurrency
    refuseIf (∃ other ∈ state.fills, other.paperFillId = fillId) (.constraint "paper_fill_id")
    let position : PaperPosition := ⟨order.paperRunId, order.venueId, order.instrumentId,
      ledger.position, quoteCurrency, ledger.realizedPnl⟩
    let delta := cashDelta ctx order.side fill
    let prior := state.priorBalance readings.rank order.paperRunId quoteCurrency
    let entry : CashEntry := ⟨readings.uid "PCASH", order.paperRunId, fillId, quoteCurrency, delta,
      ctx.add prior delta, readings.started⟩
    refuseIf (∃ other ∈ state.cash, other.paperCashEntryId = entry.paperCashEntryId)
      (.constraint "paper_cash_entry_id")
    let reservation ← expect (state.findReservation order.reservationId)
      (.domain "PAPER_RESERVATION_PROJECTION_MISSING")
    let amounts ← filledAmounts ctx reservation.amounts record.filledQuantity record.intent.quantity
    let current ← state.aggregate "paper_order" orderId
    let state ← state.transition actor .paper s!"paper-fill:{fill.externalFillKey}"
      (filledRequest actor order record run.policyVersion current) "paper.fill"
    return (.id fillId, state.postFill row position entry order.reservationId amounts record)

def cancelledAmounts (ctx : DecimalContext) (amounts : ReservedAmounts) :
    Except ServiceError ReservedAmounts :=
  ReservedAmounts.build amounts.original 0 amounts.position (ctx.sub amounts.original amounts.position)

/-- The rows that a cancellation writes. -/
def PaperState.postCancel (state : PaperState) (order : PaperOrder) (amounts : ReservedAmounts) :
    PaperState :=
  (state.updateReservation order.reservationId fun reservation =>
    { reservation with amounts, state := if 0 < amounts.position then .converted else .released }
  ).updateOrder order.paperOrderId fun order => { order with finalState := .cancelled }

def cancelledRequest (actor : Identity) (order : PaperOrder) (policyVersion : String)
    (current : Aggregate PaperAggregate) : PaperTransition :=
  request actor "paper_order" order.paperOrderId current.version
    (current.state.mapOrder fun recorded => { recorded with state := .cancelled })
    "PAPER_ORDER_CANCELLED" order.paperRunId policyVersion []

def cancel (ctx : DecimalContext) (state : PaperState) (actor : Identity)
    (orderId operationKey : String) : Outcome := do
  actor.requires .paper
  let order ← expect (state.findOrder orderId) (.domain "PAPER_ORDER_NOT_FOUND")
  match ← state.priorOperation operationKey ["PAPER_ORDER_CANCELLED"] orderId with
  | some _ => return (.done, state)
  | none =>
    refuseIf (order.finalState = .cancelled) (.domain "ORDER_ALREADY_CANCELLED")
    refuseIf (order.finalState = .unknownReconciling) (.domain "UNKNOWN_ORDER_REQUIRES_RECONCILIATION")
    let intent ← loadIntent order
    let pending ← raised ((loadRecord order intent).transition ctx .cancelPending none 0)
    let _ ← raised (pending.transition ctx .cancelled none 0)
    let reservation ← expect (state.findReservation order.reservationId)
      (.domain "PAPER_RESERVATION_PROJECTION_MISSING")
    let amounts ← cancelledAmounts ctx reservation.amounts
    let current ← state.aggregate "paper_order" orderId
    let policy ← state.runPolicy order.paperRunId
    let state ← state.transition actor .paper operationKey
      (cancelledRequest actor order policy current) "paper.order"
    return (.done, state.postCancel order amounts)

def stopAuthority (actor : Identity) (request : StopRequest) : Except ServiceError Unit := do
  refuseIf (actor.role = .paper ∧ ¬request.automatic) (.domain "MANUAL_STOP_REQUIRES_OWNER")
  refuseIf (actor.role ∉ [.paper, .owner, .operator]) (.domain "FORBIDDEN")

def stoppedRequest (actor : Identity) (run : PaperRun) (stopping : StopRequest)
    (current : Aggregate PaperAggregate) : PaperTransition :=
  request actor "paper_run" run.paperRunId current.version
    (current.state.mapRun fun recorded => { recorded with lastStop := some stopping })
    "PAPER_EMERGENCY_STOP" run.paperRunId run.policyVersion []

def stopEvent (stopId runId : String) (stopping : StopRequest) (operationKey : String) : StopEvent :=
  ⟨stopId, runId, stopping.scope, stopping.scopeId, true, operationKey⟩

def stop (state : PaperState) (actor : Identity) (readings : Readings) (runId : String)
    (stopping : StopRequest) (operationKey : String) : Outcome := do
  stopAuthority actor stopping
  let run ← expect (state.findRun runId) (.domain "PAPER_RUN_NOT_FOUND")
  match ← state.priorOperation operationKey ["PAPER_EMERGENCY_STOP"] runId with
  | some prior =>
    refuseIf (prior.request.state.run?.bind RunState.lastStop ≠ some stopping)
      (.domain "IDEMPOTENCY_CONFLICT")
    let existing ← expect (find StopEvent.eventKey operationKey state.stops)
      (.domain "PAPER_STOP_PROJECTION_MISSING")
    return (.id existing.emergencyStopId, state)
  | none =>
    let current ← state.aggregate "paper_run" runId
    let state ← state.transition actor .stop operationKey (stoppedRequest actor run stopping current)
      "paper.stop"
    let stopId := readings.uid "STOP"
    refuseIf (∃ other ∈ state.stops, other.emergencyStopId = stopId) (.constraint "emergency_stop_id")
    return (.id stopId, { state with
      stops := state.stops ++ [stopEvent stopId runId stopping operationKey] })

def latchAggregate (scope : StopScope) (scopeId : Option String) : String :=
  let identifier := scopeId.getD "None"
  if scope = .global then "GLOBAL" else s!"VENUE:{identifier}"

def latchCancelRequest (actor : Identity) (latchId : String) (order : PaperOrder)
    (policyVersion : String) (current : Aggregate PaperAggregate) : PaperTransition :=
  request actor "paper_order" order.paperOrderId current.version
    (current.state.mapOrder fun recorded => { recorded with
      state := .cancelled, cancelReason := some "EMERGENCY_STOP", safetyLatchId := some latchId })
    "PAPER_ORDER_CANCELLED_FOR_SAFETY_LATCH" order.paperRunId policyVersion []

/-- `_cancel_for_safety_latch`. -/
def cancelForSafetyLatch (ctx : DecimalContext) (actor : Identity) (latchId : String)
    (state : PaperState) (order : PaperOrder) : Except ServiceError PaperState := do
  let reservation ← expect (state.findReservation order.reservationId)
    (.domain "PAPER_RESERVATION_PROJECTION_MISSING")
  let amounts ← cancelledAmounts ctx reservation.amounts
  let current ← state.aggregate "paper_order" order.paperOrderId
  let policy ← state.runPolicy order.paperRunId
  let state ← state.transition actor .stop s!"safety-latch-cancel:{latchId}:{order.paperOrderId}"
    (latchCancelRequest actor latchId order policy current) "paper.order"
  return state.postCancel order amounts

def fencedRequest (actor : Identity) (latchId : String) (run : PaperRun)
    (current : Aggregate PaperAggregate) : PaperTransition :=
  request actor "paper_run" run.paperRunId current.version
    (current.state.mapRun fun recorded => { recorded with
      status := .reconcileOnly, globalSafetyLatchId := some (some latchId) })
    "PAPER_GLOBAL_SAFETY_LATCH_RECONCILIATION_REQUIRED" run.paperRunId run.policyVersion []

def fenceRun (actor : Identity) (latchId : String) (state : PaperState) (run : PaperRun) :
    Except ServiceError PaperState := do
  let current ← state.aggregate "paper_run" run.paperRunId
  let state ← state.transition actor .stop s!"safety-latch-fence:{latchId}:{run.paperRunId}"
    (fencedRequest actor latchId run current) "paper.reconcile"
  return state.updateRun run.paperRunId fun run => { run with status := .reconcileOnly }

/-- Whether a latch cancels the order: a risk-increasing one it covers, in a
working state the venue has confirmed. -/
def PaperOrder.covered (scope : StopScope) (scopeId : Option String) (order : PaperOrder) : Bool :=
  order.finalState ∈ [.acknowledged, .partiallyFilled, .amended, .cancelPending] &&
    !order.reduceOnly && (scope = .global || scopeId = some order.venueId)

def PaperState.coveredOrders (state : PaperState) (scope : StopScope) (scopeId : Option String) :
    List PaperOrder :=
  state.orders.filter (covered scope scopeId)

def latchedRequest (actor : Identity) (stopping : StopRequest) (latchId : String) (version : ℕ) :
    PaperTransition :=
  request actor "paper_safety_latch" (latchAggregate stopping.scope stopping.scopeId) version
    (.latch ⟨latchId, some stopping, true, none⟩) "PAPER_GLOBAL_EMERGENCY_STOP" latchId
    stopping.policyVersion []

def safetyLatch (latchId : String) (stopping : StopRequest) : SafetyLatch :=
  ⟨latchId, stopping.scope, stopping.scopeId, true⟩

def emergencyStop (ctx : DecimalContext) (state : PaperState) (actor : Identity) (readings : Readings)
    (stopping : StopRequest) (operationKey : String) : Outcome := do
  refuseIf (stopping.scope = .strategy) (.domain "GLOBAL_STOP_SCOPE_REQUIRED")
  stopAuthority actor stopping
  let aggregateId := latchAggregate stopping.scope stopping.scopeId
  match ← state.priorOperation operationKey ["PAPER_GLOBAL_EMERGENCY_STOP"] aggregateId with
  | some prior =>
    let recorded ← expect prior.request.state.latch? .typeError
    refuseIf (recorded.request ≠ some stopping) (.domain "IDEMPOTENCY_CONFLICT")
    return (.id recorded.safetyLatchId, state)
  | none =>
    refuseIf (∃ latch ∈ state.latches, latch.active ∧ latch.scope = stopping.scope ∧
      latch.scopeId = stopping.scopeId) (.domain "PAPER_STOP_ALREADY_ACTIVE")
    let latchId := readings.uid "SLATCH"
    let state ← state.transition actor .stop operationKey
      (latchedRequest actor stopping latchId (state.store.version "paper_safety_latch" aggregateId))
      "paper.stop"
    refuseIf (state.findLatch latchId ≠ none) (.constraint "safety_latch_id")
    let latched : PaperState := { state with latches := state.latches ++ [safetyLatch latchId stopping] }
    let cleared ← (latched.coveredOrders stopping.scope stopping.scopeId).foldlM
      (cancelForSafetyLatch ctx actor latchId) latched
    if stopping.scope = .global then
      let fenced ← (cleared.runs.filter fun run => run.status = .active).foldlM
        (fenceRun actor latchId) cleared
      return (.id latchId, fenced)
    else return (.id latchId, cleared)

def releasedRequest (actor : Identity) (latch : SafetyLatch) (reasonCode : String)
    (current : Aggregate PaperAggregate) : PaperTransition :=
  request actor "paper_safety_latch" (latchAggregate latch.scope latch.scopeId) current.version
    (.latch ⟨latch.safetyLatchId, none, false, some reasonCode⟩)
    "PAPER_GLOBAL_EMERGENCY_STOP_RELEASED" latch.safetyLatchId "emergency-stop-v1" []

def releaseEmergencyStop (state : PaperState) (actor : Identity)
    (latchId reasonCode operationKey : String) : Outcome := do
  refuseIf (actor.role ≠ .owner) (.domain "STOP_RELEASE_REQUIRES_OWNER")
  let latch ← expect (state.findLatch latchId) (.domain "PAPER_SAFETY_LATCH_NOT_FOUND")
  let aggregateId := latchAggregate latch.scope latch.scopeId
  match ← state.priorOperation operationKey ["PAPER_GLOBAL_EMERGENCY_STOP_RELEASED"] aggregateId with
  | some prior =>
    refuseIf (prior.request.state.latch?.map LatchState.safetyLatchId ≠ some latchId)
      (.domain "IDEMPOTENCY_CONFLICT")
    return (.done, state)
  | none =>
    refuseIf (¬latch.active) (.domain "PAPER_STOP_NOT_ACTIVE")
    let current ← state.aggregate "paper_safety_latch" aggregateId
    let state ← state.transition actor .stop operationKey
      (releasedRequest actor latch reasonCode current) "paper.stop"
    return (.done, state.updateLatch latchId fun latch => { latch with active := false })

def handle (ctx : DecimalContext) : Handler PaperState PaperCall ServiceError PaperAnswer :=
  fun state call =>
    let actor := call.actor
    let readings := call.readings
    match call.request with
    | .startRun spec operationKey => startRun state actor spec operationKey
    | .reconcile runId operationKey marketDataValid =>
      reconcile state actor runId operationKey marketDataValid
    | .restart runId operationKey => restart state actor runId operationKey
    | .submit runId intent spec snapshot envelope poolId =>
      submit ctx state actor readings runId intent spec snapshot envelope poolId
    | .simulateOrder orderId snapshot model schedule =>
      simulateOrder ctx state actor readings orderId snapshot model schedule
    | .markUnknown orderId reasonCode operationKey =>
      markUnknown ctx state actor orderId reasonCode operationKey
    | .recordFill orderId fill quoteCurrency =>
      recordFill ctx state actor readings orderId fill quoteCurrency
    | .cancel orderId operationKey => cancel ctx state actor orderId operationKey
    | .stop runId stopping operationKey => stop state actor readings runId stopping operationKey
    | .emergencyStop stopping operationKey =>
      emergencyStop ctx state actor readings stopping operationKey
    | .releaseEmergencyStop latchId reasonCode operationKey =>
      releaseEmergencyStop state actor latchId reasonCode operationKey

/-- The tables after a run of calls on a fresh database. -/
def Reachable (ctx : DecimalContext) (state : PaperState) : Prop :=
  ∃ calls, state = run (handle ctx) .empty calls

end Liki.Paper
