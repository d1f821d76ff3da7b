import Liki.Finance.Accounting
import Liki.Finance.Pretrade
import Liki.Store

/-! The contracts, requests and tables of the paper execution service. Records
that are validated on construction carry what was validated; a reservation
carries the conservation rule that the database checks on every write. -/
namespace Liki.Paper
open DecimalArithmetic Checks Finance

inductive PaperRunStatus where
  | reconcileOnly | active | stopped | failed
  deriving DecidableEq

inductive StopScope where
  | global | venue | strategy
  deriving DecidableEq

/-- The fill model pinned for a run; `model_post_init` builds the execution
model from it and so has its bounds checked. -/
@[ext]
structure PinnedFillModel where
  version : String
  minimumFidelity : FidelityTier
  participationLimit : ℚ
  latencyMicroseconds : ℕ
  queueAssumption : Option String
  stressMultiplier : ℚ
  version_named : version ≠ ""
  participation_pos : 0 < participationLimit
  participation_le : participationLimit ≤ 1
  stress_ge : 1 ≤ stressMultiplier
  queue_explicit : minimumFidelity = .f3SeqL2 ∨ minimumFidelity = .f4OrderLevel →
    ∃ assumption ∈ queueAssumption, assumption ≠ ""

instance : DecidableEq PinnedFillModel := fun _ _ => decidable_of_iff _ PinnedFillModel.ext_iff.symm

namespace PinnedFillModel

/-- `from_model`: the model's own bounds were checked when it was built, and a
pinned version must be named. -/
def fromModel (model : FillModel) : Except FinanceError PinnedFillModel :=
  if named : model.version ≠ "" then
    .ok { version := model.version, minimumFidelity := model.minimumFidelity,
          participationLimit := model.participationLimit,
          latencyMicroseconds := model.latency.toNat, queueAssumption := model.queueAssumption,
          stressMultiplier := model.stressMultiplier, version_named := named,
          participation_pos := model.participation_pos, participation_le := model.participation_le,
          stress_ge := model.stress_ge, queue_explicit := model.queue_explicit }
  else .error (.value "version: String should have at least 1 character")

def toFillModel (pinned : PinnedFillModel) : FillModel where
  version := pinned.version
  minimumFidelity := pinned.minimumFidelity
  participationLimit := pinned.participationLimit
  latency := pinned.latencyMicroseconds
  queueAssumption := pinned.queueAssumption
  stressMultiplier := pinned.stressMultiplier
  participation_pos := pinned.participation_pos
  participation_le := pinned.participation_le
  latency_nonneg := Int.natCast_nonneg _
  stress_ge := pinned.stress_ge
  queue_explicit := pinned.queue_explicit

end PinnedFillModel

structure ExecutionConfig where
  fillModel : PinnedFillModel
  instruments : List InstrumentSpec
  feeSchedules : List FeeSchedule
  feeAccountTier : String
  deriving DecidableEq

structure PaperRunSpec where
  paperRunId : String
  policyVersion : String
  reportingCurrency : String
  riskEnvelope : RiskEnvelope
  fillModel : PinnedFillModel
  instruments : List InstrumentSpec
  feeSchedules : List FeeSchedule
  feeAccountTier : String
  /-- `min_length`. -/
  named : paperRunId ≠ "" ∧ policyVersion ≠ "" ∧ reportingCurrency ≠ "" ∧ feeAccountTier ≠ ""
  configured : instruments ≠ [] ∧ feeSchedules ≠ []

/-- `execution_config()`. -/
def PaperRunSpec.executionConfig (spec : PaperRunSpec) : ExecutionConfig where
  fillModel := spec.fillModel
  instruments := spec.instruments
  feeSchedules := spec.feeSchedules
  feeAccountTier := spec.feeAccountTier

structure StopRequest where
  scope : StopScope
  scopeId : Option String
  reasonCode : String
  automatic : Bool
  policyVersion : String
  named : reasonCode ≠ "" ∧ policyVersion ≠ ""
  /-- A GLOBAL stop has no scope id; scoped stops require one. -/
  scope_identified : scope = .global ↔ scopeId = none
  deriving DecidableEq

@[ext]
structure PaperFill where
  externalFillKey : String
  fillTime : Time
  price : ℚ
  quantity : ℚ
  feeAmount : ℚ
  liquidityRole : LiquidityRole
  executionModelVersion : String
  /-- `__post_init__`. -/
  price_pos : 0 < price
  quantity_pos : 0 < quantity
  named : externalFillKey ≠ "" ∧ executionModelVersion ≠ ""

instance : DecidableEq PaperFill := fun _ _ => decidable_of_iff _ PaperFill.ext_iff.symm

/-- `PaperFill(...)`. -/
def PaperFill.build (externalFillKey : String) (fillTime : Time) (price quantity feeAmount : ℚ)
    (liquidityRole : LiquidityRole) (executionModelVersion : String) :
    Except FinanceError PaperFill :=
  if valid : 0 < price ∧ 0 < quantity ∧ externalFillKey ≠ "" ∧ executionModelVersion ≠ "" then
    .ok ⟨externalFillKey, fillTime, price, quantity, feeAmount, liquidityRole, executionModelVersion,
      valid.1, valid.2.1, valid.2.2⟩
  else .error (.value "invalid paper fill")

/-- A row of `paper_runs`. -/
structure PaperRun where
  paperRunId : String
  status : PaperRunStatus
  policyVersion : String
  riskConfigArtifactId : ℕ
  executionConfigArtifactId : ℕ
  reportingCurrency : String
  deriving DecidableEq

/-- A row of `paper_orders`. The columns that repeat the intent without being
read are left to the intent. -/
structure PaperOrder where
  paperOrderId : String
  clientOrderId : String
  paperRunId : String
  instrumentId : String
  venueId : String
  side : Side
  price : Option ℚ
  quantity : ℚ
  reduceOnly : Bool
  finalState : OrderState
  filledQuantity : ℚ
  /-- `intent_json`. -/
  intent : OrderIntent
  reservationId : String
  deriving DecidableEq

/-- A row of `paper_fills`. -/
@[ext]
structure FillRow where
  paperFillId : String
  paperOrderId : String
  fillSequence : ℕ
  fillTime : Time
  price : ℚ
  quantity : ℚ
  feeAmount : ℚ
  feeAsset : String
  liquidityFlag : LiquidityRole
  executionModelVersion : String
  externalFillKey : String
  price_pos : 0 < price
  quantity_pos : 0 < quantity

instance : DecidableEq FillRow := fun _ _ => decidable_of_iff _ FillRow.ext_iff.symm

inductive ReservationState where
  | held | converted | released | unreconciled
  deriving DecidableEq

/-- The amounts of a reservation under `risk_reservations_conservation`. -/
@[ext]
structure ReservedAmounts where
  original : ℚ
  working : ℚ
  position : ℚ
  released : ℚ
  original_pos : 0 < original
  nonneg : 0 ≤ working ∧ 0 ≤ position ∧ 0 ≤ released
  conserved : working + position + released = original

instance : DecidableEq ReservedAmounts := fun _ _ => decidable_of_iff _ ReservedAmounts.ext_iff.symm

/-- Amounts that the database accepts. -/
def ReservedAmounts.build (original working position released : ℚ) :
    Except ServiceError ReservedAmounts :=
  if positive : 0 < original then
    if nonneg : 0 ≤ working ∧ 0 ≤ position ∧ 0 ≤ released then
      if conserved : working + position + released = original then
        .ok ⟨original, working, position, released, positive, nonneg, conserved⟩
      else .error (.constraint "risk_reservations_conservation")
    else .error (.constraint "working_amount")
  else .error (.constraint "original_amount")

theorem ReservedAmounts.build_ok {original working position released : ℚ}
    (ok : build original working position released = .ok amounts) :
    amounts.original = original ∧ amounts.working = working ∧ amounts.position = position ∧
      amounts.released = released := by
  unfold build at ok
  split at ok
  · split at ok
    · split at ok
      · cases ok
        exact ⟨rfl, rfl, rfl, rfl⟩
      · cases ok
    · cases ok
  · cases ok

/-- A row of `risk_reservations`. -/
structure RiskReservation where
  reservationId : String
  paperRunId : String
  paperOrderId : String
  poolId : String
  envelopeVersion : String
  amounts : ReservedAmounts
  state : ReservationState
  expiresAt : Time
  deriving DecidableEq

/-- `state IN ('HELD','CONVERTED','UNRECONCILED')`. -/
def RiskReservation.holdsRisk (reservation : RiskReservation) : Bool :=
  reservation.state ∈ [.held, .converted, .unreconciled]

/-- A row of `paper_positions`. -/
structure PaperPosition where
  paperRunId : String
  venueId : String
  instrumentId : String
  quantity : ℚ
  cashCurrency : String
  realizedPnl : ℚ
  deriving DecidableEq

def PaperPosition.key (position : PaperPosition) : String × String × String :=
  (position.paperRunId, position.venueId, position.instrumentId)

/-- A row of `paper_cash_ledger`. -/
structure CashEntry where
  paperCashEntryId : String
  paperRunId : String
  paperFillId : String
  currency : String
  delta : ℚ
  balanceAfter : ℚ
  /-- `now()` of the transaction that wrote it. -/
  createdAt : Time
  deriving DecidableEq

/-- A row of `emergency_stop_events`. -/
structure StopEvent where
  emergencyStopId : String
  paperRunId : String
  scope : StopScope
  scopeId : Option String
  active : Bool
  /-- The event it was recorded with, by the operation key that is unique to it. -/
  eventKey : String
  deriving DecidableEq

/-- A row of `paper_safety_latches`. -/
structure SafetyLatch where
  safetyLatchId : String
  scope : StopScope
  scopeId : Option String
  active : Bool
  deriving DecidableEq

/-- The state of a `paper_run` aggregate; what a key may lack is optional. -/
structure RunState where
  paperRunId : String
  status : PaperRunStatus
  riskConfigArtifactId : ℕ
  executionConfigArtifactId : ℕ
  marketDataValid : Option Bool
  unresolvedOrders : Option Bool
  /-- Written as null when no latch is active. -/
  globalSafetyLatchId : Option (Option String)
  lastStop : Option StopRequest
  deriving DecidableEq

/-- The state of a `paper_order` aggregate. -/
structure OrderStateRecord where
  paperOrderId : String
  paperRunId : String
  clientOrderId : String
  state : OrderState
  normalizedQuantity : ℚ
  reservationId : String
  reconciliationReason : Option String
  filledQuantity : Option ℚ
  accountingCheck : Option String
  cancelReason : Option String
  safetyLatchId : Option String
  deriving DecidableEq

/-- The state of a `paper_safety_latch` aggregate. -/
structure LatchState where
  safetyLatchId : String
  request : Option StopRequest
  active : Bool
  releaseReasonCode : Option String
  deriving DecidableEq

inductive PaperAggregate where
  | run (state : RunState)
  | order (state : OrderStateRecord)
  | latch (state : LatchState)
  deriving DecidableEq

namespace PaperAggregate

/-- `{**state, ...}` on the state of a run. -/
def mapRun (change : RunState → RunState) : PaperAggregate → PaperAggregate
  | .run state => .run (change state)
  | other => other

/-- `{**state, ...}` on the state of an order. -/
def mapOrder (change : OrderStateRecord → OrderStateRecord) : PaperAggregate → PaperAggregate
  | .order state => .order (change state)
  | other => other

def run? : PaperAggregate → Option RunState
  | .run state => some state
  | _ => none

def order? : PaperAggregate → Option OrderStateRecord
  | .order state => some state
  | _ => none

def latch? : PaperAggregate → Option LatchState
  | .latch state => some state
  | _ => none

end PaperAggregate

/-- The two artifacts a run pins. -/
inductive PaperContent where
  | riskEnvelope (envelope : RiskEnvelope)
  | executionConfig (config : ExecutionConfig)
  deriving DecidableEq

inductive PaperRequest where
  | startRun (spec : PaperRunSpec) (operationKey : String)
  | reconcile (runId operationKey : String) (marketDataValid : Bool)
  | restart (runId operationKey : String)
  | submit (runId : String) (intent : OrderIntent) (spec : InstrumentSpec)
      (snapshot : MarketSnapshot) (envelope : RiskEnvelope) (poolId : String)
  | simulateOrder (orderId : String) (snapshot : MarketSnapshot) (model : FillModel)
      (feeSchedule : FeeSchedule)
  | markUnknown (orderId reasonCode operationKey : String)
  | recordFill (orderId : String) (fill : PaperFill) (quoteCurrency : String)
  | cancel (orderId operationKey : String)
  | stop (runId : String) (request : StopRequest) (operationKey : String)
  | emergencyStop (request : StopRequest) (operationKey : String)
  | releaseEmergencyStop (latchId reasonCode operationKey : String)

/-- What a call reads from outside its arguments and the tables. -/
structure Readings where
  /-- `now()`: when the transaction started, before it waited for the lock. -/
  started : Time
  /-- `utcnow()`. -/
  now : Time
  /-- `uid(...)`, by the kind of row the id is for. -/
  uid : String → String
  /-- The order of rows that a query leaves open. -/
  rank : String → ℕ
  /-- An instant does not show the offset it was written in. -/
  isoformat : Time → String

structure PaperCall where
  actor : Identity
  readings : Readings
  request : PaperRequest

inductive PaperAnswer where
  | id (id : String)
  | status (status : PaperRunStatus)
  | done
  /-- The fill that `simulate_order` goes on to record. -/
  | simulated (fill : Option PaperFill)
  deriving DecidableEq

end Liki.Paper
