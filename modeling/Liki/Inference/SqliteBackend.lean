import Liki.Inference.PostgresBackend

/-! The SQLite implementation that the broker's tests run on. Every operation is
one transaction, and an exception rolls it back. Its event table is written and
never read, so it is left out. -/
namespace Liki.Inference
open DecimalArithmetic Checks KeyedRows

/-- A row of `inference_requests`; `request_id` and `idempotency_key` are read off
the request. -/
structure SqliteRequest where
  request : InferenceRequest
  manifest : ContextManifest
  status : RequestStatus
  reservedCost : ℚ
  accruedCost : ℚ
  completedAttemptId : Option String
  failureReason : Option String

def SqliteRequest.requestId (row : SqliteRequest) : String := row.request.inferenceRequestId

/-- A row of `inference_attempts`. -/
structure SqliteAttempt where
  attemptId : String
  requestId : String
  attemptNo : ℕ
  routeId : String
  fence : ℕ
  leaseUntil : Time
  reservation : ℚ
  attemptJson : InferenceAttempt

/-- A row of `route_circuits`. -/
structure SqliteCircuit where
  routeId : String
  failures : ℕ
  isOpen : Bool

structure SqliteBackend where
  requests : List SqliteRequest
  attempts : List SqliteAttempt
  circuits : List SqliteCircuit

namespace SqliteBackend

def empty : SqliteBackend := ⟨[], [], []⟩

variable (backend : SqliteBackend)

def findRequest (requestId : String) : Option SqliteRequest :=
  find SqliteRequest.requestId requestId backend.requests

def findAttempt (attemptId : String) : Option SqliteAttempt :=
  find SqliteAttempt.attemptId attemptId backend.attempts

/-- `WHERE attempt_id=? AND request_id=?`. -/
def findAttemptOf (requestId attemptId : String) : Option SqliteAttempt :=
  (backend.findAttempt attemptId).filter fun row => row.requestId = requestId

def findCircuit (routeId : String) : Option SqliteCircuit :=
  find SqliteCircuit.routeId routeId backend.circuits

def attemptsOf (requestId : String) : List SqliteAttempt :=
  backend.attempts.filter fun row => row.requestId = requestId

/-- `MAX(fence)`, where zero stands for no attempt. -/
def newestFence (requestId : String) : ℕ :=
  ((backend.attemptsOf requestId).map SqliteAttempt.fence).foldr max 0

def updateRequest (requestId : String) (change : SqliteRequest → SqliteRequest) : SqliteBackend :=
  { backend with
    requests := update SqliteRequest.requestId requestId change backend.requests }

def updateAttempt (attemptId : String) (change : SqliteAttempt → SqliteAttempt) : SqliteBackend :=
  { backend with
    attempts := update SqliteAttempt.attemptId attemptId change backend.attempts }

def updateCircuit (routeId : String) (change : SqliteCircuit → SqliteCircuit) : SqliteBackend :=
  { backend with
    circuits := update SqliteCircuit.routeId routeId change backend.circuits }

def createOrGet (request : InferenceRequest) (manifest : ContextManifest) :
    Except ServiceError (InferenceRequest × SqliteBackend) :=
  match backend.requests.find? fun row => row.request.idempotencyKey = request.idempotencyKey with
  | some prior => do
    refuseIf (prior.request.semanticTaskId ≠ request.semanticTaskId ∨
        prior.manifest.manifestHash ≠ manifest.manifestHash)
      (.idempotencyConflict "idempotency key is already bound to another semantic request or context")
    return (prior.request, backend)
  | none => do
    refuseIf (backend.findRequest request.inferenceRequestId).isSome
      (.constraint "inference_requests.request_id")
    return (request, { backend with
      requests := backend.requests ++ [⟨request, manifest, .admitted, 0, 0, none, none⟩] })

def completedResult (requestId : String) : Option InferenceResult := do
  let row ← backend.findRequest requestId
  let attemptId ← row.completedAttemptId
  let attempt ← backend.findAttempt attemptId
  return ⟨requestId, attempt.attemptJson.status, attempt.attemptJson.outputArtifact, none,
    some attempt.attemptJson.providerRouteId⟩

def claimedAttempt (attemptId : String) (row : SqliteRequest) (routeId : String)
    (attemptNo fence : ℕ) : InferenceAttempt where
  inferenceAttemptId := attemptId
  inferenceRequestId := row.requestId
  attemptNo := attemptNo
  providerRouteId := routeId
  leaseFence := fence
  modelFamily := "pending_route_resolution"
  modelVersion := none
  upstreamCorrelationDomain := none
  reasoningEffort := row.request.preferredReasoningEffort
  promptManifestHash := row.manifest.manifestHash
  completedAt := none
  status := .created
  errorClass := none
  usage := .reported
  pricingPlanId := none
  fixedCallCost := none
  tokenCost := none
  billedTokens := none
  providerReportedCost := none
  totalCost := 0
  outputArtifact := none

def claimAttempt (readings : Readings) (attemptId requestId routeId : String) (leaseSeconds : ℚ) :
    Except ServiceError (InferenceAttempt × SqliteBackend) :=
  match backend.findRequest requestId with
  | none => throw (.value "unknown inference request")
  | some row => do
    refuseIf row.completedAttemptId.isSome
      (.concurrentModification "semantic request already completed")
    let no := (backend.attemptsOf requestId).length + 1
    let fence := backend.newestFence requestId + 1
    let attempt := claimedAttempt attemptId row routeId no fence
    refuseIf (backend.findAttempt attemptId).isSome (.constraint "inference_attempts.attempt_id")
    refuseIf (∃ stored ∈ backend.attemptsOf requestId, stored.attemptNo = no)
      (.constraint "inference_attempts.request_id, inference_attempts.attempt_no")
    let claimed : SqliteAttempt := ⟨attemptId, requestId, no, routeId, fence,
      readings.wall + leaseDuration leaseSeconds, 0, attempt⟩
    return (attempt, { backend with attempts := backend.attempts ++ [claimed] }.updateRequest requestId
      fun row => { row with status := .attempting })

variable (ctx : DecimalContext)

def reserveCost (requestId attemptId : String) (amount : ℚ) :
    Except ServiceError (Bool × SqliteBackend) := do
  refuseIf (amount < 0) (.value "cost reservation cannot be negative")
  match backend.findRequest requestId, backend.findAttemptOf requestId attemptId with
  | some row, some attempt =>
    let outstanding := ctx.add (ctx.sub row.reservedCost attempt.reservation) amount
    if ∃ maximum ∈ row.request.maxTotalAttemptCost, maximum < ctx.add row.accruedCost outstanding then
      return (false, backend)
    else
      return (true, (backend.updateRequest requestId fun row => { row with reservedCost := outstanding })
        |>.updateAttempt attemptId fun row => { row with reservation := amount })
  | _, _ => throw (.value "unknown inference request or attempt")

/-- Whether a finish comes too late. -/
def stale (readings : Readings) (row : SqliteRequest) (stored : SqliteAttempt)
    (attempt : InferenceAttempt) : Bool :=
  stored.fence ≠ attempt.leaseFence ∨
    backend.newestFence attempt.inferenceRequestId ≠ attempt.leaseFence ∨
    stored.leaseUntil < readings.wall ∨
    (row.completedAttemptId.isSome ∧ attempt.status.accepted)

def finishedRow (row : SqliteRequest) (attempt : InferenceAttempt) (reserved accrued : ℚ) :
    SqliteRequest :=
  { row with
    status := if attempt.status.accepted then completedStatus attempt.status else row.status
    completedAttemptId := if attempt.status.accepted then some attempt.inferenceAttemptId
      else row.completedAttemptId
    reservedCost := reserved
    accruedCost := accrued }

def finishAttempt (readings : Readings) (attempt : InferenceAttempt) :
    Except ServiceError (Bool × SqliteBackend) :=
  match backend.findRequest attempt.inferenceRequestId,
      backend.findAttempt attempt.inferenceAttemptId with
  | some row, some stored => do
    -- `int(newest_fence[0])` is only reached when the fence is the attempt's own
    refuseIf (stored.fence = attempt.leaseFence ∧ backend.attemptsOf attempt.inferenceRequestId = [])
      .typeError
    let reserved := ctx.sub row.reservedCost stored.reservation
    let accrued := ctx.add row.accruedCost attempt.totalCost
    if backend.stale readings row stored attempt then
      if stored.attemptJson.status ≠ .created then return (false, backend)
      else
        return (false, (backend.updateAttempt attempt.inferenceAttemptId fun row =>
            { row with attemptJson := { attempt with
                status := .hibernated, errorClass := some "late_result_deduplicated",
                outputArtifact := none } })
          |>.updateRequest attempt.inferenceRequestId fun row =>
            { row with reservedCost := reserved, accruedCost := accrued })
    else
      return (true, (backend.updateAttempt attempt.inferenceAttemptId fun row =>
          { row with attemptJson := attempt })
        |>.updateRequest attempt.inferenceRequestId fun row => finishedRow row attempt reserved accrued)
  | _, _ => return (false, backend)

def hibernate (requestId reason : String) : SqliteBackend :=
  backend.updateRequest requestId fun row =>
    if row.completedAttemptId.isNone then
      { row with status := .hibernated, failureReason := some reason }
    else row

def revive (requestId : String) : Bool × SqliteBackend :=
  match backend.findRequest requestId with
  | none => (false, backend)
  | some row =>
    if row.status = .hibernated ∧ row.completedAttemptId.isNone then
      (true, backend.updateRequest requestId fun row =>
        { row with status := .admitted, failureReason := none })
    else (false, backend)

def circuitIsOpen (routeId : String) : Bool :=
  (backend.findCircuit routeId).any SqliteCircuit.isOpen

def recordRouteOutcome (routeId : String) (succeeded : Bool) (failureThreshold : ℤ) : SqliteBackend :=
  let failures := if succeeded then 0
    else ((backend.findCircuit routeId).map SqliteCircuit.failures).getD 0 + 1
  { backend with
    circuits := upsert SqliteCircuit.routeId
      ⟨routeId, failures, decide (failureThreshold ≤ failures)⟩ backend.circuits }

def reviveRoute (routeId reason : String) : Except ServiceError (Bool × SqliteBackend) := do
  refuseIf (blank reason) (.value "a route revival reason is required")
  match backend.findCircuit routeId with
  | none => return (false, backend)
  | some _ => return (true, backend.updateCircuit routeId fun row =>
      { row with failures := 0, isOpen := false })

def reconcileAttemptCost (requestId attemptId : String) (providerCost : Numeral) :
    Except ServiceError (Bool × SqliteBackend) :=
  match backend.findAttemptOf requestId attemptId with
  | none => throw (.value "unknown inference attempt")
  | some stored => do
    refuseIf (providerCost.value < 0) (.value "provider cost cannot be negative")
    return (decide (stored.attemptJson.totalCost = providerCost.value),
      backend.updateAttempt attemptId fun row => { row with attemptJson :=
        { stored.attemptJson with providerReportedCost := some providerCost.value } })

def markDecisionUseful (requestId attemptId : String) : Bool × SqliteBackend :=
  match backend.findRequest requestId, backend.findAttemptOf requestId attemptId with
  | some row, some stored =>
    if row.completedAttemptId ≠ some attemptId then (false, backend)
    else if stored.attemptJson.status = .decisionUseful then (true, backend)
    else if stored.attemptJson.status ≠ .semanticAccepted then (false, backend)
    else (true, (backend.updateAttempt attemptId fun row =>
        { row with attemptJson := { stored.attemptJson with status := .decisionUseful } })
      |>.updateRequest requestId fun row => { row with status := .decisionUseful })
  | _, _ => (false, backend)

/-- One call at one database. Appending a note only writes the event table. -/
def handle (ctx : DecimalContext) :
    CallSystem.Handler SqliteBackend TimedCall ServiceError BackendAnswer :=
  fun backend (readings, call) =>
  match call with
  | .createOrGet request manifest =>
    (createOrGet backend request manifest).map fun (found, next) => (.request found, next)
  | .claimAttempt attemptId requestId routeId leaseSeconds =>
    (claimAttempt backend readings attemptId requestId routeId leaseSeconds).map
      fun (attempt, next) => (.attempt attempt, next)
  | .reserveCost requestId attemptId amount =>
    (reserveCost backend ctx requestId attemptId amount).map fun (flag, next) => (.flag flag, next)
  | .finishAttempt attempt =>
    (finishAttempt backend ctx readings attempt).map fun (flag, next) => (.flag flag, next)
  | .appendEvent _ _ _ => .ok (.done, backend)
  | .hibernate requestId reason => .ok (.done, hibernate backend requestId reason)
  | .revive requestId _ => .ok (.flag (revive backend requestId).1, (revive backend requestId).2)
  | .recordRouteOutcome routeId succeeded failureThreshold =>
    .ok (.done, recordRouteOutcome backend routeId succeeded failureThreshold)
  | .reviveRoute routeId reason =>
    (reviveRoute backend routeId reason).map fun (flag, next) => (.flag flag, next)
  | .reconcileAttemptCost requestId attemptId providerCost =>
    (reconcileAttemptCost backend requestId attemptId providerCost).map
      fun (flag, next) => (.flag flag, next)
  | .markDecisionUseful requestId attemptId _ =>
    .ok (.flag (markDecisionUseful backend requestId attemptId).1,
      (markDecisionUseful backend requestId attemptId).2)

end SqliteBackend

end Liki.Inference
