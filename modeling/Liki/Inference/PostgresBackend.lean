import Liki.Inference.Types
import Liki.Library.CallSystem
import Liki.Store

/-! The Postgres source of truth for broker attempts. Every operation is one
transaction that takes the advisory lock before it reads a row, so it is a
function from a database to an answer and the next database; an error rolls
everything back. -/
namespace Liki.Inference
open DecimalArithmetic Checks KeyedRows

inductive PayloadValue where
  | text (value : String)
  | texts (values : List String)
  | status (value : AttemptStatus)
  deriving DecidableEq

/-- A note's payload, by key. -/
abbrev Payload := List (String × PayloadValue)

/-- A decimal numeral: equal values may be written differently. -/
structure Numeral where
  coefficient : ℤ
  exponent : ℤ
  deriving DecidableEq

def Numeral.value (numeral : Numeral) : ℚ := numeral.coefficient * (10 : ℚ) ^ numeral.exponent

/-- The operation keys, one constructor for each text the code builds. -/
inductive OperationKey where
  | admission (idempotencyKey : String)
  | claim (attemptId : String)
  | reserve (attemptId : String)
  | finish (attemptId : String)
  | note (requestId eventType : String) (payload : Payload)
  | hibernate (requestId reason : String)
  | revive (requestId reason : String)
  | circuit (routeId : String) (version : ℕ)
  | circuitRevive (routeId reason : String)
  | reconcile (attemptId : String) (providerCost : Numeral)
  | useful (attemptId : String)
  deriving DecidableEq

inductive RequestStatus where
  | admitted | attempting | semanticAccepted | decisionUseful | hibernated
  deriving DecidableEq

/-- The aggregate state of a request, as `_state` builds it. -/
structure RequestState where
  inferenceRequestId : String
  semanticTaskId : String
  status : RequestStatus
  contextManifestHash : ManifestContent
  completedAttemptId : Option String
  finalArtifactId : Option ℕ
  failureReason : Option String
  reservedCost : ℚ
  accruedCost : ℚ
  /-- Only a claim writes it. -/
  activeAttemptId : Option String
  deriving DecidableEq

structure CircuitState where
  providerRouteId : String
  consecutiveFailures : ℕ
  isOpen : Bool
  deriving DecidableEq

inductive AggregateState where
  | request (state : RequestState)
  | circuit (state : CircuitState)
  deriving DecidableEq

inductive Metadata where
  | manifest (hash : ManifestContent)
  | lease (routeId : String) (fence : ℕ)
  | amount (amount : ℚ)
  | payload (payload : Payload)
  | reason (reason : String)
  | succeeded (succeeded : Bool)
  | billing (attemptId : String) (estimatedCost : ℚ) (providerCost : Numeral)
  deriving DecidableEq

inductive ArtifactContent where
  | manifest (manifest : ContextManifest)
  | response (attemptId : String) (artifact : Document)
  deriving DecidableEq

/-- A row of `inference_requests`; the columns copied from the request are read
off `request`. -/
structure RequestRow where
  request : InferenceRequest
  contextManifestHash : ManifestContent
  status : RequestStatus
  reservedCost : ℚ
  accruedCost : ℚ
  completedAttemptId : Option String
  finalArtifactId : Option ℕ
  failureReason : Option String
  deriving DecidableEq

def RequestRow.requestId (row : RequestRow) : String := row.request.inferenceRequestId

/-- A row of `context_manifests`. -/
structure ManifestRow where
  manifest : ContextManifest
  inferenceRequestId : String

/-- A row of `inference_attempts`. While the attempt is `CREATED`, its total cost
is what it reserves. -/
structure AttemptRow where
  inferenceAttemptId : String
  inferenceRequestId : String
  attemptNo : ℕ
  leaseFence : ℕ
  leaseUntil : Time
  status : AttemptStatus
  totalCost : ℚ
  outputArtifactId : Option ℕ
  attemptJson : InferenceAttempt

/-- A row of `inference_route_circuits`. -/
structure CircuitRow where
  providerRouteId : String
  consecutiveFailures : ℕ
  isOpen : Bool

structure PostgresBackend where
  store : Store AggregateState Metadata OperationKey ArtifactContent
  requests : List RequestRow
  manifests : List ManifestRow
  attempts : List AttemptRow
  circuits : List CircuitRow

/-- What the backend is constructed with: the authenticated principal and the
registered routes. -/
structure Deployment where
  actor : Identity
  routes : List ProviderRoute
  workload : actor.role = .inference

/-- The clocks of one call: `now()` is when its transaction started, `utcnow()`
what the caller's clock shows inside it. -/
structure Readings where
  started : Time
  wall : Time

/-- `timedelta(seconds=...)`. -/
def leaseDuration (seconds : ℚ) : Duration := roundHalfEven (seconds * 1000000)

/-- `_request_hash`: the request without its id. -/
def requestHash (request : InferenceRequest) : InferenceRequest := { request with inferenceRequestId := "" }

/-- `_state`. -/
def RequestRow.state (row : RequestRow) : RequestState where
  inferenceRequestId := row.requestId
  semanticTaskId := row.request.semanticTaskId
  status := row.status
  contextManifestHash := row.contextManifestHash
  completedAttemptId := row.completedAttemptId
  finalArtifactId := row.finalArtifactId
  failureReason := row.failureReason
  reservedCost := row.reservedCost
  accruedCost := row.accruedCost
  activeAttemptId := none

def completedStatus (status : AttemptStatus) : RequestStatus :=
  if status = .decisionUseful then .decisionUseful else .semanticAccepted

namespace PostgresBackend

def policyVersion : String := "inference-broker-v1"

def empty : PostgresBackend := ⟨.empty, [], [], [], []⟩

variable (deployment : Deployment) (backend : PostgresBackend)

def findRequest (requestId : String) : Option RequestRow :=
  find RequestRow.requestId requestId backend.requests

def findAttempt (attemptId : String) : Option AttemptRow :=
  find AttemptRow.inferenceAttemptId attemptId backend.attempts

def findCircuit (routeId : String) : Option CircuitRow :=
  find CircuitRow.providerRouteId routeId backend.circuits

/-- `WHERE inference_attempt_id = ... AND inference_request_id = ...`. -/
def findAttemptOf (requestId attemptId : String) : Option AttemptRow :=
  (backend.findAttempt attemptId).filter fun row => row.inferenceRequestId = requestId

def attemptsOf (requestId : String) : List AttemptRow :=
  backend.attempts.filter fun row => row.inferenceRequestId = requestId

/-- `COALESCE(MAX(attempt_no), 0)`. -/
def lastAttemptNo (requestId : String) : ℕ :=
  ((backend.attemptsOf requestId).map AttemptRow.attemptNo).foldr max 0

/-- `MAX(lease_fence)`; fences are positive, so zero stands for no attempt. -/
def newestFence (requestId : String) : ℕ :=
  ((backend.attemptsOf requestId).map AttemptRow.leaseFence).foldr max 0

/-- An attempt of the request is still `CREATED` and its lease has not run out. -/
def leased (requestId : String) (instant : Time) : Bool :=
  (backend.attemptsOf requestId).any fun row => row.status = .created ∧ instant < row.leaseUntil

def updateRequest (requestId : String) (change : RequestRow → RequestRow) : PostgresBackend :=
  { backend with requests := update RequestRow.requestId requestId change backend.requests }

def updateAttempt (attemptId : String) (change : AttemptRow → AttemptRow) : PostgresBackend :=
  { backend with
    attempts := update AttemptRow.inferenceAttemptId attemptId change backend.attempts }

def updateCircuit (routeId : String) (change : CircuitRow → CircuitRow) : PostgresBackend :=
  { backend with
    circuits := update CircuitRow.providerRouteId routeId change backend.circuits }

/-- What `_transition` asks the store for: the next version of the request. -/
def requestTransition (requestId taskId : String) (state : RequestState) (eventType : String)
    (metadata : Option Metadata) (artifactIds : List ℕ) :
    TransitionRequest AggregateState Metadata where
  kind := "inference_request"
  aggregateId := requestId
  expectedVersion := backend.store.version "inference_request" requestId
  state := .request state
  eventType := eventType
  principalId := deployment.actor.principalId
  taskId := taskId
  policyVersion := policyVersion
  evidenceIds := []
  artifactIds := artifactIds
  metadata := metadata

def log (key : OperationKey) (request : TransitionRequest AggregateState Metadata) : PostgresBackend :=
  { backend with store := backend.store.append key request none }

/-- `_transition`. -/
def transition (requestId taskId : String) (state : RequestState) (eventType : String)
    (key : OperationKey) (metadata : Option Metadata) (artifactIds : List ℕ) :
    Except ServiceError PostgresBackend := do
  let store ← backend.store.transition deployment.actor .inference key
    (requestTransition deployment backend requestId taskId state eventType metadata artifactIds) none
  return { backend with store := store }

def circuitTransition (routeId : String) (state : CircuitState) (eventType : String)
    (metadata : Option Metadata) : TransitionRequest AggregateState Metadata where
  kind := "inference_route_circuit"
  aggregateId := routeId
  expectedVersion := backend.store.version "inference_route_circuit" routeId
  state := .circuit state
  eventType := eventType
  principalId := deployment.actor.principalId
  taskId := routeId
  policyVersion := policyVersion
  evidenceIds := []
  artifactIds := []
  metadata := metadata

def transitionCircuit (routeId : String) (state : CircuitState) (eventType : String)
    (key : OperationKey) (metadata : Option Metadata) : Except ServiceError PostgresBackend := do
  let store ← backend.store.transition deployment.actor .inference key
    (circuitTransition deployment backend routeId state eventType metadata) none
  return { backend with store := store }

def admittedRow (request : InferenceRequest) (manifest : ContextManifest) : RequestRow where
  request := request
  contextManifestHash := manifest.manifestHash
  status := .admitted
  reservedCost := 0
  accruedCost := 0
  completedAttemptId := none
  finalArtifactId := none
  failureReason := none

def createOrGet (request : InferenceRequest) (manifest : ContextManifest) :
    Except ServiceError (InferenceRequest × PostgresBackend) := do
  deployment.actor.requires .inference
  match backend.requests.find? fun row => row.request.idempotencyKey = request.idempotencyKey with
  | some current =>
    refuseIf (requestHash current.request ≠ requestHash request ∨
        current.contextManifestHash ≠ manifest.manifestHash)
      (.idempotencyConflict "idempotency key is bound to different request content or context")
    return (current.request, backend)
  | none =>
    let (artifactId, store) ← backend.store.putArtifact deployment.actor (.manifest manifest)
      "inference/context-manifest-v1" .internal policyVersion
    let row := admittedRow request manifest
    let noted ← transition deployment { backend with store := store } request.inferenceRequestId
      request.semanticTaskId row.state "INFERENCE_ADMITTED" (.admission request.idempotencyKey)
      (some (.manifest manifest.manifestHash)) [artifactId]
    refuseIf (noted.findRequest request.inferenceRequestId).isSome
      (.constraint "inference_requests.inference_request_id")
    refuseIf (∃ stored ∈ noted.manifests,
        stored.manifest.contextManifestId = manifest.contextManifestId ∨
          stored.inferenceRequestId = request.inferenceRequestId)
      (.constraint "context_manifests")
    return (request, { noted with
      requests := noted.requests ++ [row]
      manifests := noted.manifests ++ [⟨manifest, request.inferenceRequestId⟩] })

def completedResult (requestId : String) : Option InferenceResult := do
  let row ← backend.findRequest requestId
  let attemptId ← row.completedAttemptId
  let attempt ← backend.findAttempt attemptId
  return ⟨requestId, attempt.attemptJson.status, attempt.attemptJson.outputArtifact, none,
    some attempt.attemptJson.providerRouteId⟩

def claimedAttempt (attemptId : String) (row : RequestRow) (route : ProviderRoute)
    (attemptNo fence : ℕ) : InferenceAttempt where
  inferenceAttemptId := attemptId
  inferenceRequestId := row.requestId
  attemptNo := attemptNo
  providerRouteId := route.routeId
  leaseFence := fence
  modelFamily := route.modelFamily
  modelVersion := route.modelVersion
  upstreamCorrelationDomain := some route.upstreamCorrelationDomain
  reasoningEffort := row.request.preferredReasoningEffort
  promptManifestHash := row.contextManifestHash
  completedAt := none
  status := .created
  errorClass := none
  usage := .reported
  pricingPlanId := some route.pricing.pricePlanId
  fixedCallCost := none
  tokenCost := none
  billedTokens := none
  providerReportedCost := none
  totalCost := 0
  outputArtifact := none

def claimedRow (attempt : InferenceAttempt) (leaseUntil : Time) : AttemptRow where
  inferenceAttemptId := attempt.inferenceAttemptId
  inferenceRequestId := attempt.inferenceRequestId
  attemptNo := attempt.attemptNo
  leaseFence := attempt.leaseFence
  leaseUntil := leaseUntil
  status := .created
  totalCost := 0
  outputArtifactId := none
  attemptJson := attempt

def claimAttempt (readings : Readings) (attemptId requestId routeId : String) (leaseSeconds : ℚ) :
    Except ServiceError (InferenceAttempt × PostgresBackend) := do
  refuseIf (leaseSeconds ≤ 0) (.value "attempt lease must be positive")
  match deployment.routes.find? fun route => route.routeId = routeId with
  | none => throw (.value "unregistered inference route")
  | some route =>
    deployment.actor.requires .inference
    match backend.findRequest requestId with
    | none => throw (.value "unknown inference request")
    | some row =>
      refuseIf row.completedAttemptId.isSome
        (.concurrentModification "semantic request already completed")
      refuseIf (backend.leased requestId readings.started)
        (.concurrentModification "inference request has an active lease")
      let attempt := claimedAttempt attemptId row route (backend.lastAttemptNo requestId + 1)
        (backend.newestFence requestId + 1)
      let noted ← transition deployment backend requestId row.request.semanticTaskId
        { row.state with status := .attempting, activeAttemptId := some attemptId }
        "INFERENCE_ATTEMPT_CLAIMED" (.claim attemptId) (some (.lease routeId attempt.leaseFence)) []
      refuseIf (noted.findAttempt attemptId).isSome
        (.constraint "inference_attempts.inference_attempt_id")
      let claimed := claimedRow attempt (readings.started + leaseDuration leaseSeconds)
      return (attempt, { noted with attempts := noted.attempts ++ [claimed] }.updateRequest requestId
        fun row => { row with status := .attempting })

variable (ctx : DecimalContext)

def reserveCost (requestId attemptId : String) (amount : ℚ) :
    Except ServiceError (Bool × PostgresBackend) := do
  refuseIf (amount < 0) (.value "cost reservation cannot be negative")
  deployment.actor.requires .inference
  match backend.findRequest requestId, backend.findAttemptOf requestId attemptId with
  | some row, some attempt =>
    if attempt.status ≠ .created then return (false, backend)
    else
      let reserved := ctx.add (ctx.sub row.reservedCost attempt.totalCost) amount
      if ∃ maximum ∈ row.request.maxTotalAttemptCost, maximum < ctx.add row.accruedCost reserved then
        return (false, backend)
      else
        let noted ← transition deployment backend requestId row.request.semanticTaskId
          { row.state with reservedCost := reserved } "INFERENCE_COST_RESERVED" (.reserve attemptId)
          (some (.amount amount)) []
        refuseIf (reserved < 0) (.constraint "inference_requests.reserved_cost_usd")
        return (true, (noted.updateRequest requestId fun row => { row with reservedCost := reserved })
          |>.updateAttempt attemptId fun row => { row with totalCost := amount })
  | _, _ => throw (.value "unknown inference request or attempt")

/-- Whether a finish comes too late: from another fence than its own or the
newest, after its lease, or with an answer to an answered request. -/
def stale (readings : Readings) (row : RequestRow) (stored : AttemptRow) (attempt : InferenceAttempt) :
    Bool :=
  stored.leaseFence ≠ attempt.leaseFence ∨
    backend.newestFence attempt.inferenceRequestId ≠ attempt.leaseFence ∨
    stored.leaseUntil ≤ readings.wall ∨
    (row.completedAttemptId.isSome ∧ attempt.status.accepted)

def persisted (stale : Bool) (attempt : InferenceAttempt) : InferenceAttempt :=
  if stale then { attempt with
      status := .hibernated, errorClass := some "late_result_deduplicated", outputArtifact := none }
  else attempt

def storeAnswer (attempt : InferenceAttempt) : Except ServiceError (Option ℕ × PostgresBackend) :=
  match attempt.outputArtifact with
  | none => return (none, backend)
  | some artifact => do
    let (artifactId, store) ← backend.store.putArtifact deployment.actor
      (.response attempt.inferenceAttemptId artifact) "inference/response-artifact-v1" .internal
      policyVersion
    return (some artifactId, { backend with store := store })

def finishedRow (row : RequestRow) (attempt : InferenceAttempt) (artifactId : Option ℕ)
    (reserved accrued : ℚ) : RequestRow :=
  { row with
    status := if attempt.status.accepted then completedStatus attempt.status else row.status
    completedAttemptId := if attempt.status.accepted then some attempt.inferenceAttemptId
      else row.completedAttemptId
    finalArtifactId := if attempt.status.accepted then artifactId else row.finalArtifactId
    reservedCost := reserved
    accruedCost := accrued }

def finishAttempt (readings : Readings) (attempt : InferenceAttempt) :
    Except ServiceError (Bool × PostgresBackend) := do
  deployment.actor.requires .inference
  match backend.findRequest attempt.inferenceRequestId,
      backend.findAttempt attempt.inferenceAttemptId with
  | some row, some stored =>
    let late := backend.stale readings row stored attempt
    let kept := persisted late attempt
    let (artifactId, filed) ← storeAnswer deployment backend kept
    let reserved := ctx.sub row.reservedCost stored.totalCost
    let accrued := ctx.add row.accruedCost kept.totalCost
    let finished := finishedRow row kept artifactId reserved accrued
    let noted ← transition deployment filed attempt.inferenceRequestId row.request.semanticTaskId
      finished.state
      (if late then "INFERENCE_LATE_RESULT_DEDUPLICATED" else "INFERENCE_ATTEMPT_FINISHED")
      (.finish attempt.inferenceAttemptId) none artifactId.toList
    refuseIf (kept.totalCost < 0) (.constraint "inference_attempts.total_cost_usd")
    refuseIf (∃ cost ∈ kept.providerReportedCost, cost < 0)
      (.constraint "inference_attempts.provider_reported_cost_usd")
    refuseIf (reserved < 0) (.constraint "inference_requests.reserved_cost_usd")
    refuseIf (accrued < 0) (.constraint "inference_requests.accrued_cost_usd")
    return (!late, (noted.updateAttempt attempt.inferenceAttemptId fun row =>
        { row with status := kept.status, totalCost := kept.totalCost,
                   outputArtifactId := artifactId, attemptJson := kept })
      |>.updateRequest attempt.inferenceRequestId fun row =>
        finishedRow row kept artifactId reserved accrued)
  | _, _ => return (false, backend)

def appendEvent (requestId eventType : String) (payload : Payload) :
    Except ServiceError PostgresBackend := do
  deployment.actor.requires .inference
  match backend.findRequest requestId with
  | none => throw (.value "unknown inference request")
  | some row =>
    transition deployment backend requestId row.request.semanticTaskId row.state eventType
      (.note requestId eventType payload) (some (.payload payload)) []

def hibernate (requestId reason : String) : Except ServiceError PostgresBackend := do
  refuseIf (blank reason) (.value "a hibernation reason is required")
  deployment.actor.requires .inference
  match backend.findRequest requestId with
  | none => throw (.value "unknown inference request")
  | some row =>
    if row.completedAttemptId.isSome then return backend
    else
      let noted ← transition deployment backend requestId row.request.semanticTaskId
        { row.state with status := .hibernated, failureReason := some reason } "INFERENCE_HIBERNATED"
        (.hibernate requestId reason) (some (.reason reason)) []
      return noted.updateRequest requestId fun row =>
        { row with status := .hibernated, failureReason := some reason }

def revive (requestId reason : String) : Except ServiceError (Bool × PostgresBackend) := do
  refuseIf (blank reason) (.value "a revival reason is required")
  deployment.actor.requires .inference
  match backend.findRequest requestId with
  | none => throw (.value "unknown inference request")
  | some row =>
    if row.status ≠ .hibernated ∨ row.completedAttemptId.isSome then return (false, backend)
    else
      let noted ← transition deployment backend requestId row.request.semanticTaskId
        { row.state with status := .admitted, failureReason := none } "INFERENCE_REVIVED"
        (.revive requestId reason) (some (.reason reason)) []
      return (true, noted.updateRequest requestId fun row =>
        { row with status := .admitted, failureReason := none })

def circuitIsOpen (routeId : String) : Bool :=
  (backend.findCircuit routeId).any CircuitRow.isOpen

def recordRouteOutcome (routeId : String) (succeeded : Bool) (failureThreshold : ℤ) :
    Except ServiceError PostgresBackend := do
  refuseIf (failureThreshold ≤ 0) (.value "circuit failure threshold must be positive")
  deployment.actor.requires .inference
  let failures := if succeeded then 0
    else ((backend.findCircuit routeId).map CircuitRow.consecutiveFailures).getD 0 + 1
  let row : CircuitRow := ⟨routeId, failures, decide (failureThreshold ≤ failures)⟩
  let noted ← transitionCircuit deployment backend routeId ⟨routeId, failures, row.isOpen⟩
    "INFERENCE_ROUTE_HEALTH_RECORDED"
    (.circuit routeId (backend.store.version "inference_route_circuit" routeId + 1))
    (some (.succeeded succeeded))
  return { noted with circuits := upsert CircuitRow.providerRouteId row noted.circuits }

def reviveRoute (routeId reason : String) : Except ServiceError (Bool × PostgresBackend) := do
  refuseIf (blank reason) (.value "a route revival reason is required")
  deployment.actor.requires .inference
  if backend.circuitIsOpen routeId then
    refuseIf (backend.store.state "inference_route_circuit" routeId).isNone
      (.domain "INFERENCE_CIRCUIT_PROJECTION_MISSING")
    let noted ← transitionCircuit deployment backend routeId ⟨routeId, 0, false⟩
      "INFERENCE_ROUTE_REVIVED" (.circuitRevive routeId reason) (some (.reason reason))
    return (true, noted.updateCircuit routeId fun row =>
      { row with consecutiveFailures := 0, isOpen := false })
  else return (false, backend)

def reconcileAttemptCost (requestId attemptId : String) (providerCost : Numeral) :
    Except ServiceError (Bool × PostgresBackend) := do
  refuseIf (providerCost.value < 0) (.value "provider cost cannot be negative")
  deployment.actor.requires .inference
  match backend.findRequest requestId, backend.findAttemptOf requestId attemptId with
  | some row, some stored =>
    let attempt := stored.attemptJson
    refuseIf attempt.completedAt.isNone (.value "cannot reconcile an unfinished inference attempt")
    let reconciled := { attempt with
      providerReportedCost := some providerCost.value, totalCost := providerCost.value }
    let isMatch : Bool := attempt.totalCost = providerCost.value
    let accrued := ctx.add (ctx.sub row.accruedCost attempt.totalCost) providerCost.value
    let noted ← transition deployment backend requestId row.request.semanticTaskId
      { row.state with accruedCost := accrued }
      (if isMatch then "INFERENCE_BILLING_RECONCILED" else "BILLING_RECONCILIATION_ERROR")
      (.reconcile attemptId providerCost)
      (some (.billing attemptId attempt.totalCost providerCost)) []
    refuseIf (accrued < 0) (.constraint "inference_requests.accrued_cost_usd")
    return (isMatch, (noted.updateAttempt attemptId fun row =>
        { row with totalCost := providerCost.value, attemptJson := reconciled })
      |>.updateRequest requestId fun row => { row with accruedCost := accrued })
  | _, _ => throw (.value "unknown inference request or attempt")

def markDecisionUseful (requestId attemptId reason : String) :
    Except ServiceError (Bool × PostgresBackend) := do
  refuseIf (blank reason) (.value "a useful-decision reason is required")
  deployment.actor.requires .inference
  match backend.findRequest requestId, backend.findAttemptOf requestId attemptId with
  | some row, some stored =>
    if row.completedAttemptId ≠ some attemptId then return (false, backend)
    else if stored.attemptJson.status = .decisionUseful then return (true, backend)
    else if stored.attemptJson.status ≠ .semanticAccepted then return (false, backend)
    else
      let noted ← transition deployment backend requestId row.request.semanticTaskId
        { row.state with status := .decisionUseful } "INFERENCE_DECISION_USEFUL" (.useful attemptId)
        (some (.reason reason)) []
      return (true, (noted.updateAttempt attemptId fun row =>
          { row with status := .decisionUseful
                     attemptJson := { row.attemptJson with status := .decisionUseful } })
        |>.updateRequest requestId fun row => { row with status := .decisionUseful })
  | _, _ => return (false, backend)

end PostgresBackend

inductive BackendCall where
  | createOrGet (request : InferenceRequest) (manifest : ContextManifest)
  | claimAttempt (attemptId requestId routeId : String) (leaseSeconds : ℚ)
  | reserveCost (requestId attemptId : String) (amount : ℚ)
  | finishAttempt (attempt : InferenceAttempt)
  | appendEvent (requestId eventType : String) (payload : Payload)
  | hibernate (requestId reason : String)
  | revive (requestId reason : String)
  | recordRouteOutcome (routeId : String) (succeeded : Bool) (failureThreshold : ℤ)
  | reviveRoute (routeId reason : String)
  | reconcileAttemptCost (requestId attemptId : String) (providerCost : Numeral)
  | markDecisionUseful (requestId attemptId reason : String)

inductive BackendAnswer where
  | request (request : InferenceRequest)
  | attempt (attempt : InferenceAttempt)
  | flag (flag : Bool)
  | done
  deriving DecidableEq

/-- A call and the clocks it reads. -/
abbrev TimedCall := Readings × BackendCall

namespace PostgresBackend

def handle (deployment : Deployment) (ctx : DecimalContext) :
    CallSystem.Handler PostgresBackend TimedCall ServiceError BackendAnswer :=
  fun backend (readings, call) =>
  match call with
  | .createOrGet request manifest =>
    (createOrGet deployment backend request manifest).map fun (found, next) => (.request found, next)
  | .claimAttempt attemptId requestId routeId leaseSeconds =>
    (claimAttempt deployment backend readings attemptId requestId routeId leaseSeconds).map
      fun (attempt, next) => (.attempt attempt, next)
  | .reserveCost requestId attemptId amount =>
    (reserveCost deployment backend ctx requestId attemptId amount).map
      fun (flag, next) => (.flag flag, next)
  | .finishAttempt attempt =>
    (finishAttempt deployment backend ctx readings attempt).map fun (flag, next) => (.flag flag, next)
  | .appendEvent requestId eventType payload =>
    (appendEvent deployment backend requestId eventType payload).map fun next => (.done, next)
  | .hibernate requestId reason =>
    (hibernate deployment backend requestId reason).map fun next => (.done, next)
  | .revive requestId reason =>
    (revive deployment backend requestId reason).map fun (flag, next) => (.flag flag, next)
  | .recordRouteOutcome routeId succeeded failureThreshold =>
    (recordRouteOutcome deployment backend routeId succeeded failureThreshold).map
      fun next => (.done, next)
  | .reviveRoute routeId reason =>
    (reviveRoute deployment backend routeId reason).map fun (flag, next) => (.flag flag, next)
  | .reconcileAttemptCost requestId attemptId providerCost =>
    (reconcileAttemptCost deployment backend ctx requestId attemptId providerCost).map
      fun (flag, next) => (.flag flag, next)
  | .markDecisionUseful requestId attemptId reason =>
    (markDecisionUseful deployment backend requestId attemptId reason).map
      fun (flag, next) => (.flag flag, next)

end PostgresBackend

def sampleRoute : ProviderRoute where
  routeId := "route"
  providerClass := "direct"
  adapter := "openai_chat"
  modelFamily := "family"
  modelVersion := some "1"
  upstreamCorrelationDomain := "upstream"
  egressClearance := .internal
  retentionKnown := true
  mayTrainOnPrompts := some false
  licenseApproved := true
  sealedEvaluatorApproved := false
  health := .healthy
  capabilities := ⟨8000, 1000, [], false, 30, by decide⟩
  pricing := ⟨"plan", 0, 10, 20, 0, 0, 0, 0, false, false, ⟨some 0, some 0, some 0, some 0, some 0, "reserve"⟩, []⟩
  qualityFloor := 0
  reliabilityFloor := 0
  observedSemanticAcceptance := 1
  observedReliability := 1
  expectedRework := 0
  taskMetrics := []
  license := rfl
  retention := fun _ => rfl
  sealing := fun sealed => Classification.noConfusion sealed

def sampleDeployment : Deployment := ⟨⟨"broker", .inference⟩, [sampleRoute], rfl⟩

def sampleRequest : InferenceRequest where
  inferenceRequestId := "request"
  semanticTaskId := "task"
  taskClass := "review"
  criticality := .normal
  whyLlmNeeded := "judgement"
  expectedArtifactSchema := "{}"
  expectedDecisionImpact := "triage"
  preferredReasoningEffort := "standard"
  idempotencyKey := "idempotency-key-1"
  allowedProviderClasses := []
  fallbackPolicyId := "fallback"
  maxCallCost := none
  maxTotalAttemptCost := some 1
  maxLatencySec := none
  minSemanticAcceptance := 0
  minReliability := 0
  routingBenchmarkId := none
  requiresTools := false
  parentRunId := none
  campaignId := none
  branchId := none
  exploratory := false
  task_nonempty := by decide
  latency_pos := by simp
  call_cost_nonneg := by simp
  total_cost_nonneg := by simp
  floors_le_one := by simp

def sampleManifest : ContextManifest where
  contextManifestId := "manifest"
  createdAt := 0
  content := {
    compilerVersion := "1"
    retrievalVersion := "1"
    requiredEvidenceClasses := []
    candidateEvidenceIds := []
    includedEvidenceIds := []
    toolAddressableEvidenceIds := []
    excludedEvidence := []
    summaryArtifactIds := []
    truncation := []
    egressDecision := ⟨"route", .internal, 0, true, some false, true, 0⟩
    completenessStatus := .complete
    retrievalQueryFingerprint := "query"
    toolExpansionIds := []
    candidateMemoryIds := []
    includedMemoryIds := []
    excludedMemory := [] }

def sampleClaim : List TimedCall :=
  [(⟨0, 0⟩, .createOrGet sampleRequest sampleManifest),
    (⟨0, 0⟩, .claimAttempt "attempt" "request" "route" 60)]

def sampleAnswer (status : AttemptStatus) (totalCost : ℚ) : InferenceAttempt where
  inferenceAttemptId := "attempt"
  inferenceRequestId := "request"
  attemptNo := 1
  providerRouteId := "route"
  leaseFence := 1
  modelFamily := "family"
  modelVersion := some "1"
  upstreamCorrelationDomain := some "upstream"
  reasoningEffort := "standard"
  promptManifestHash := sampleManifest.manifestHash
  completedAt := some 1000000
  status := status
  errorClass := none
  usage := .reported
  pricingPlanId := some "plan"
  fixedCallCost := none
  tokenCost := none
  billedTokens := none
  providerReportedCost := none
  totalCost := totalCost
  outputArtifact := some "{}"

end Liki.Inference
