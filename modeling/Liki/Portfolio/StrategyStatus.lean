import Liki.Research.Service
import Mathlib.Data.List.MinMax
import Mathlib.Data.Prod.Lex

/-! The monitoring states of the strategies of a portfolio. A transaction reads the state that is shown
last for a strategy, and only then waits for the lock under which its own state is recorded; the new row
is dated with the start of the transaction. Between the two other transactions may commit, so the two are
steps of their own. What else is checked before the lock is about tables that only grow, and is checked
here with the second step. -/
namespace Liki.Portfolio
open Checks CallSystem Research

inductive StrategyHealth where
  | healthy | watch | degraded | suspended | dormant | retired
  deriving DecidableEq

structure StrategyStatusTransition where
  portfolioId : String
  strategyVersionId : String
  state : StrategyHealth
  reason : String
  predeclaredRegimeRuleArtifactId : Option (Option ℕ)
  refreshedEvidenceIds : List String
  deriving DecidableEq

/-- The arguments of `record_strategy_status`. -/
structure StatusRequest where
  evaluationId : String
  transition : StrategyStatusTransition
  operationKey : String
  policyVersion : String

inductive PortfolioAggregate where
  | monitor (transition : StrategyStatusTransition)
  | other (text : String)
  deriving DecidableEq

abbrev PortfolioStore := Store PortfolioAggregate Unit String ArtifactContent
abbrev PortfolioTransition := TransitionRequest PortfolioAggregate Unit

/-- A row of `portfolio_evaluations`. -/
structure EvaluationRow where
  portfolioEvaluationId : String
  strategyVersionIds : List String
  campaignId : String

/-- A row of `portfolio_strategy_status_events`. -/
structure StatusEvent where
  statusEventId : String
  portfolioEvaluationId : String
  strategyVersionId : String
  state : StrategyHealth
  reason : String
  regimeRuleArtifactId : Option ℕ
  refreshedEvidenceIds : List String
  eventId : ℕ
  createdBy : String
  createdAt : Time
  deriving DecidableEq

structure PortfolioState where
  store : PortfolioStore
  evaluations : List EvaluationRow
  /-- In the order in which they are committed. -/
  statusEvents : List StatusEvent

namespace PortfolioState

def empty : PortfolioState := ⟨.empty, [], []⟩

variable (state : PortfolioState) (evaluationId strategyVersionId : String)

def findEvaluation : Option EvaluationRow :=
  KeyedRows.find EvaluationRow.portfolioEvaluationId evaluationId state.evaluations

def statuses : List StatusEvent :=
  state.statusEvents.filter fun row =>
    row.portfolioEvaluationId = evaluationId ∧ row.strategyVersionId = strategyVersionId

/-- `ORDER BY created_at DESC LIMIT 1`; the rank is the order of rows of one instant. -/
def shown (rank : String → ℕ) : Option StatusEvent :=
  (state.statuses evaluationId strategyVersionId).argmax fun row => toLex
    (row.createdAt, rank row.statusEventId)

end PortfolioState

/-- What a transaction knows when it starts to wait for the lock. -/
structure StatusReading where
  actor : Identity
  request : StatusRequest
  /-- `now()`. -/
  start : Time
  campaignId : String
  prior : Option StatusEvent

/-- Before the lock. -/
def readStatus (state : PortfolioState) (actor : Identity) (request : StatusRequest) (start : Time)
    (rank : String → ℕ) : Except ServiceError StatusReading := do
  let transition := request.transition
  actor.requires .research
  let row ← expect (state.findEvaluation request.evaluationId) (.domain "UNKNOWN_PORTFOLIO_STRATEGY")
  refuseIf (transition.portfolioId ≠ request.evaluationId ∨
    transition.strategyVersionId ∉ row.strategyVersionIds)
    (.domain "UNKNOWN_PORTFOLIO_STRATEGY")
  let prior := state.shown request.evaluationId transition.strategyVersionId rank
  refuseIf (∃ row ∈ prior, row.state = .retired ∧ transition.state ≠ .retired)
    (.domain "RETIRED_STRATEGY_CANNOT_REACTIVATE")
  refuseIf (∃ row ∈ prior, row.state = .dormant ∧ transition.state = .healthy ∧
    (transition.predeclaredRegimeRuleArtifactId = none ∨ transition.refreshedEvidenceIds = []))
    (.domain "DORMANT_REACTIVATION_REQUIRES_RULE_AND_EVIDENCE")
  return ⟨actor, request, start, row.campaignId, prior⟩

/-- `f"{evaluation_id}:{transition.strategy_version_id}:{operation_key}"`. -/
def StatusRequest.statusId (request : StatusRequest) : String :=
  request.evaluationId ++ ":" ++ request.transition.strategyVersionId ++ ":" ++ request.operationKey

def StrategyStatusTransition.rule (transition : StrategyStatusTransition) : Option ℕ :=
  transition.predeclaredRegimeRuleArtifactId.bind id

def monitorRequest (reading : StatusReading) : PortfolioTransition where
  kind := "portfolio_strategy_monitor"
  aggregateId := reading.request.statusId
  expectedVersion := 0
  state := .monitor reading.request.transition
  eventType := "PORTFOLIO_STRATEGY_STATUS_RECORDED"
  principalId := reading.actor.principalId
  taskId := reading.campaignId
  policyVersion := reading.request.policyVersion
  evidenceIds := reading.request.transition.refreshedEvidenceIds
  artifactIds := reading.request.transition.rule.toList
  metadata := none

def readRule (state : PortfolioState) (reading : StatusReading) : Except ServiceError Unit :=
  match reading.request.transition.rule with
  | some artifactId => do
    let _ ← state.store.artifact ArtifactContent.intact reading.actor artifactId
    return ()
  | none => .ok ()

def statusRow (store : PortfolioStore) (reading : StatusReading) : StatusEvent where
  statusEventId := reading.request.statusId
  portfolioEvaluationId := reading.request.evaluationId
  strategyVersionId := reading.request.transition.strategyVersionId
  state := reading.request.transition.state
  reason := reading.request.transition.reason
  regimeRuleArtifactId := reading.request.transition.rule
  refreshedEvidenceIds := reading.request.transition.refreshedEvidenceIds
  eventId := store.events.findIdx fun event => event.operationKey = reading.request.operationKey
  createdBy := reading.actor.principalId
  createdAt := reading.start

/-- `INSERT INTO portfolio_strategy_status_events ... ON CONFLICT DO NOTHING`. -/
def insertStatus (state : PortfolioState) (reading : StatusReading) : Except ServiceError PortfolioState :=
  if ∃ row ∈ state.statusEvents, row.statusEventId = reading.request.statusId then .ok state
  else do
    refuseIf (reading.request.transition.predeclaredRegimeRuleArtifactId = some none)
      (.constraint "regime_rule_artifact_id")
    return { state with statusEvents := state.statusEvents ++ [statusRow state.store reading] }

/-- Behind the lock. -/
def commitStatus (state : PortfolioState) (reading : StatusReading) :
    Except ServiceError (String × PortfolioState) := do
  refuseIf (∃ evidence ∈ reading.request.transition.refreshedEvidenceIds, evidence ∉ state.store.evidence)
    (.domain "UNKNOWN_EVIDENCE")
  readRule state reading
  refuseIf (reading.request.operationKey = "") (.domain "INVALID_TRANSITION")
  let store ← state.store.transition reading.actor .research reading.request.operationKey
    (monitorRequest reading) none
  let after ← insertStatus { state with store } reading
  return (reading.request.statusId, after)

/-- `record_strategy_status`, when no other transaction commits meanwhile. -/
def recordStrategyStatus (state : PortfolioState) (actor : Identity) (request : StatusRequest)
    (start : Time)
    (rank : String → ℕ) : Except ServiceError (String × PortfolioState) := do
  let reading ← readStatus state actor request start rank
  commitStatus state reading

inductive PortfolioWrite where
  /-- What `evaluate` records of a portfolio. -/
  | evaluation (row : EvaluationRow)
  | evidence (evidenceId : String)
  | artifact (content : ArtifactContent) (schemaName : String) (classification : StoreClassification)
      (policyVersion : String)
  | transition (capability : Capability) (operationKey : String) (request : PortfolioTransition)

def write (state : PortfolioState) (actor : Identity) : PortfolioWrite → Except ServiceError PortfolioState
  | .evaluation row => do
    refuseIf ((state.findEvaluation row.portfolioEvaluationId).isSome)
      (.constraint "portfolio_evaluation_id")
    return { state with evaluations := state.evaluations ++ [row] }
  | .evidence evidenceId => .ok { state with store.evidence := state.store.evidence ++ [evidenceId] }
  | .artifact content schemaName classification policyVersion => do
    let (_, store) ← state.store.putArtifact actor content schemaName classification policyVersion
    return { state with store }
  | .transition capability operationKey request => do
    refuseIf (request.kind = "portfolio_strategy_monitor") (.constraint "aggregate_type")
    refuseIf (operationKey = "") (.domain "INVALID_TRANSITION")
    let store ← state.store.transition actor capability operationKey request none
    return { state with store }

inductive StatusCall where
  | record (actor : Identity) (request : StatusRequest) (start : Time) (rank : String → ℕ)
  | write (actor : Identity) (write : PortfolioWrite)

inductive StatusAnswer where
  | done
  | recorded (statusId : String)

def handle : Handler PortfolioState StatusCall ServiceError StatusAnswer
  | state, .record actor request start rank => do
    let (statusId, after) ← recordStrategyStatus state actor request start rank
    return (.recorded statusId, after)
  | state, .write actor written => do
    let after ← write state actor written
    return (.done, after)

def history (calls : List StatusCall) : PortfolioState := run handle .empty calls

structure PortfolioSystem where
  state : PortfolioState
  /-- The transactions that have read, and not committed. -/
  readings : List StatusReading

def PortfolioSystem.empty : PortfolioSystem := ⟨.empty, []⟩

inductive SystemStep where
  | read (actor : Identity) (request : StatusRequest) (start : Time) (rank : String → ℕ)
  /-- The transaction at the position gets the lock. -/
  | commit (position : ℕ)
  | write (actor : Identity) (write : PortfolioWrite)

inductive SystemAnswer where
  | done
  | committed (statusId : String)
  | rolledBack (refusal : ServiceError)

def handleStep : Handler PortfolioSystem SystemStep ServiceError SystemAnswer
  | system, .read actor request start rank => do
    let reading ← readStatus system.state actor request start rank
    return (.done, { system with readings := system.readings ++ [reading] })
  | system, .commit position => do
    let reading ← expect system.readings[position]? (.constraint "transaction")
    let waiting := system.readings.eraseIdx position
    match commitStatus system.state reading with
    | .ok (statusId, after) => return (.committed statusId, ⟨after, waiting⟩)
    | .error refusal => return (.rolledBack refusal, ⟨system.state, waiting⟩)
  | system, .write actor written => do
    let after ← write system.state actor written
    return (.done, { system with state := after })

/-- What the steps of some transactions lead to. -/
def interleaved (steps : List SystemStep) : PortfolioSystem := run handleStep .empty steps

end Liki.Portfolio
