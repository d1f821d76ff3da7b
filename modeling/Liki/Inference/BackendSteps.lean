import Liki.Inference.PostgresBackend

/-! What one accepted backend call can do. Every write notes one event under a
fresh operation key and then changes a request row, an attempt row or a circuit
row; `Effect` lists the writes with the guards that led to them, and every
invariant of the backend is a case analysis over it. -/
namespace Liki.Inference
open DecimalArithmetic Checks Store
namespace PostgresBackend

/-- The log grew by one event under a fresh key and no table changed. -/
structure Noted (before after : PostgresBackend) (key : OperationKey) : Prop where
  fresh : key ∉ before.store.keys
  keys : after.store.keys = before.store.keys ++ [key]
  versioned : after.store.Versioned
  advances : ∀ kind aggregateId,
    before.store.version kind aggregateId ≤ after.store.version kind aggregateId
  projects : ∀ kind aggregateId, (before.store.state kind aggregateId).isSome →
    (after.store.state kind aggregateId).isSome
  requests : after.requests = before.requests
  manifests : after.manifests = before.manifests
  attempts : after.attempts = before.attempts
  circuits : after.circuits = before.circuits

variable {deployment : Deployment} {ctx : DecimalContext} {backend before after noted : PostgresBackend}
  {key : OperationKey}

theorem log_noted (versioned : backend.store.Versioned) (fresh : key ∉ backend.store.keys)
    (current : request.expectedVersion = backend.store.version request.kind request.aggregateId) :
    Noted backend (backend.log key request) key where
  fresh := fresh
  keys := keys_append
  versioned := versioned.append _ _ current
  advances := fun kind aggregateId => version_le_append kind aggregateId current
  projects := by
    intro kind aggregateId known
    simp only [log, state_append]
    split
    · rfl
    · exact known
  requests := rfl
  manifests := rfl
  attempts := rfl
  circuits := rfl

/-- Two databases that differ in their artifacts at most. -/
structure Refiled (before after : PostgresBackend) : Prop where
  events : after.store.events = before.store.events
  aggregates : after.store.aggregates = before.store.aggregates
  requests : after.requests = before.requests
  manifests : after.manifests = before.manifests
  attempts : after.attempts = before.attempts
  circuits : after.circuits = before.circuits

theorem Refiled.versioned (refiled : Refiled before after) (versioned : before.store.Versioned) :
    after.store.Versioned := by
  intro event member
  rw [refiled.events] at member
  simpa [version, state, refiled.aggregates] using versioned event member

variable {filed : PostgresBackend} {artifactIds : List ℕ} {state : RequestState} {taskId : String}

theorem Refiled.then_noted (refiled : Refiled before filed) (noting : Noted filed after key) :
    Noted before after key where
  fresh := by simpa [keys, refiled.events] using noting.fresh
  keys := by simpa [keys, refiled.events] using noting.keys
  versioned := noting.versioned
  advances := by simpa [version, state, refiled.aggregates] using noting.advances
  projects := by simpa [state, refiled.aggregates] using noting.projects
  requests := noting.requests.trans refiled.requests
  manifests := noting.manifests.trans refiled.manifests
  attempts := noting.attempts.trans refiled.attempts
  circuits := noting.circuits.trans refiled.circuits

variable {eventType requestId routeId : String} {metadata : Option Metadata}

theorem transition_ok (versioned : backend.store.Versioned)
    (ok : transition deployment backend requestId taskId state eventType key metadata artifactIds =
      .ok noted) :
    requestId ≠ "" ∧ Noted backend noted key ∧ noted.store.artifacts = backend.store.artifacts := by
  simp only [transition, bind_ok, pure_ok] at ok
  obtain ⟨_, moved, rfl⟩ := ok
  obtain ⟨named, fresh, rfl⟩ := transition_ok versioned rfl moved
  exact ⟨named, log_noted versioned fresh rfl, rfl⟩

theorem transitionCircuit_ok {state : CircuitState} (versioned : backend.store.Versioned)
    (ok : transitionCircuit deployment backend routeId state eventType key metadata = .ok noted) :
    routeId ≠ "" ∧ Noted backend noted key ∧
      (noted.store.state "inference_route_circuit" routeId).isSome ∧
      noted.store.version "inference_route_circuit" routeId =
        backend.store.version "inference_route_circuit" routeId + 1 := by
  simp only [transitionCircuit, bind_ok, pure_ok] at ok
  obtain ⟨_, moved, rfl⟩ := ok
  obtain ⟨named, fresh, rfl⟩ := Store.transition_ok versioned rfl moved
  refine ⟨named, log_noted versioned fresh rfl, ?_, ?_⟩
  · simp [Store.state_append, circuitTransition]
  · simp [Store.version_append, circuitTransition]

theorem workload_permitted (deployment : Deployment) :
    Capability.inference ∈ deployment.actor.role.capabilities := by
  rw [deployment.workload]
  decide

theorem transition_at (versioned : backend.store.Versioned) (named : requestId ≠ "")
    (task : taskId ≠ "")
    (artifacts : ∀ artifact ∈ artifactIds, artifact < backend.store.artifacts.length) :
    transition deployment backend requestId taskId state eventType key metadata artifactIds =
      if key ∈ backend.store.keys then .error (.domain "IDEMPOTENCY_CONFLICT")
      else .ok (backend.log key
        (requestTransition deployment backend requestId taskId state eventType metadata artifactIds)) := by
  unfold transition
  rw [transition_at_current versioned (workload_permitted deployment)
    ⟨by simp [requestTransition], named, task,
      by simp [requestTransition, policyVersion]⟩ rfl rfl artifacts]
  split <;> rfl

theorem transitionCircuit_at {state : CircuitState} (versioned : backend.store.Versioned)
    (named : routeId ≠ "") :
    transitionCircuit deployment backend routeId state eventType key metadata =
      if key ∈ backend.store.keys then .error (.domain "IDEMPOTENCY_CONFLICT")
      else .ok (backend.log key
        (circuitTransition deployment backend routeId state eventType metadata)) := by
  unfold transitionCircuit
  rw [transition_at_current versioned (workload_permitted deployment)
    ⟨by simp [circuitTransition], named, named, by simp [circuitTransition, policyVersion]⟩ rfl rfl
      (by simp [circuitTransition])]
  split <;> rfl

inductive Effect (deployment : Deployment) (ctx : DecimalContext) (before : PostgresBackend) :
    TimedCall → PostgresBackend → Prop
  | unchanged {call} : Effect deployment ctx before call before
  | admitted {readings request manifest noted}
      (noting : Noted before noted (.admission request.idempotencyKey))
      (named : request.inferenceRequestId ≠ "")
      (absent : before.findRequest request.inferenceRequestId = none) :
      Effect deployment ctx before (readings, .createOrGet request manifest) { noted with
        requests := noted.requests ++ [admittedRow request manifest]
        manifests := noted.manifests ++ [⟨manifest, request.inferenceRequestId⟩] }
  | claimed {readings attemptId requestId routeId leaseSeconds row attempt noted}
      (noting : Noted before noted (.claim attemptId))
      (found : before.findRequest requestId = some row)
      (incomplete : row.completedAttemptId = none)
      (claims : ∃ route ∈ deployment.routes, attempt = claimedAttempt attemptId row route
        (before.lastAttemptNo requestId + 1) (before.newestFence requestId + 1))
      (absent : before.findAttempt attemptId = none) :
      Effect deployment ctx before (readings, .claimAttempt attemptId requestId routeId leaseSeconds)
        ({ noted with
          attempts := noted.attempts ++
            [claimedRow attempt (readings.started + leaseDuration leaseSeconds)] }.updateRequest
          requestId fun row => { row with status := .attempting })
  | reserved {readings requestId attemptId amount row stored reserved noted}
      (noting : Noted before noted (.reserve attemptId))
      (found : before.findRequest requestId = some row)
      (held : before.findAttempt attemptId = some stored)
      (owned : stored.inferenceRequestId = requestId)
      (pending : stored.status = .created)
      (amounts : reserved = ctx.add (ctx.sub row.reservedCost stored.totalCost) amount)
      (within : ∀ maximum ∈ row.request.maxTotalAttemptCost,
        ctx.add row.accruedCost reserved ≤ maximum) :
      Effect deployment ctx before (readings, .reserveCost requestId attemptId amount)
        ((noted.updateRequest requestId fun row => { row with reservedCost := reserved })
          |>.updateAttempt attemptId fun row => { row with totalCost := amount })
  | finished {readings attempt row stored kept artifactId noted}
      (noting : Noted before noted (.finish attempt.inferenceAttemptId))
      (found : before.findRequest attempt.inferenceRequestId = some row)
      (held : before.findAttempt attempt.inferenceAttemptId = some stored)
      (keeps : kept = persisted (before.stale readings row stored attempt) attempt)
      (filed : before.stale readings row stored attempt →
        noted.store.artifacts = before.store.artifacts) :
      Effect deployment ctx before (readings, .finishAttempt attempt)
        ((noted.updateAttempt attempt.inferenceAttemptId fun row =>
            { row with status := kept.status, totalCost := kept.totalCost,
                       outputArtifactId := artifactId, attemptJson := kept })
          |>.updateRequest attempt.inferenceRequestId fun current =>
            finishedRow current kept artifactId (ctx.sub row.reservedCost stored.totalCost)
              (ctx.add row.accruedCost kept.totalCost))
  | noted {readings requestId eventType payload noted}
      (noting : Noted before noted (.note requestId eventType payload)) :
      Effect deployment ctx before (readings, .appendEvent requestId eventType payload) noted
  | hibernated {readings requestId reason noted}
      (noting : Noted before noted (.hibernate requestId reason)) :
      Effect deployment ctx before (readings, .hibernate requestId reason)
        (noted.updateRequest requestId fun row =>
          { row with status := .hibernated, failureReason := some reason })
  | revived {readings requestId reason noted}
      (noting : Noted before noted (.revive requestId reason)) :
      Effect deployment ctx before (readings, .revive requestId reason)
        (noted.updateRequest requestId fun row =>
          { row with status := .admitted, failureReason := none })
  | recorded {readings routeId succeeded failureThreshold row noted}
      (noting : Noted before noted
        (.circuit routeId (before.store.version "inference_route_circuit" routeId + 1)))
      (charted : routeId ≠ "")
      (named : row.providerRouteId = routeId)
      (projected : (noted.store.state "inference_route_circuit" routeId).isSome)
      (numbered : noted.store.version "inference_route_circuit" routeId =
        before.store.version "inference_route_circuit" routeId + 1) :
      Effect deployment ctx before (readings, .recordRouteOutcome routeId succeeded failureThreshold)
        { noted with circuits := KeyedRows.upsert CircuitRow.providerRouteId row noted.circuits }
  | routeRevived {readings routeId reason noted}
      (noting : Noted before noted (.circuitRevive routeId reason)) :
      Effect deployment ctx before (readings, .reviveRoute routeId reason)
        (noted.updateCircuit routeId fun row => { row with consecutiveFailures := 0, isOpen := false })
  | reconciled {readings requestId attemptId providerCost row stored accrued noted}
      (noting : Noted before noted (.reconcile attemptId providerCost))
      (found : before.findRequest requestId = some row)
      (held : before.findAttempt attemptId = some stored)
      (owned : stored.inferenceRequestId = requestId)
      (completed : stored.attemptJson.completedAt ≠ none)
      (amounts : accrued =
        ctx.add (ctx.sub row.accruedCost stored.attemptJson.totalCost) providerCost.value) :
      Effect deployment ctx before (readings, .reconcileAttemptCost requestId attemptId providerCost)
        ((noted.updateAttempt attemptId fun row =>
            { row with totalCost := providerCost.value
                       attemptJson := { stored.attemptJson with
                         providerReportedCost := some providerCost.value
                         totalCost := providerCost.value } })
          |>.updateRequest requestId fun row => { row with accruedCost := accrued })
  | useful {readings requestId attemptId reason row stored noted}
      (noting : Noted before noted (.useful attemptId))
      (found : before.findRequest requestId = some row)
      (held : before.findAttempt attemptId = some stored)
      (owned : stored.inferenceRequestId = requestId)
      (accepted : stored.attemptJson.status = .semanticAccepted) :
      Effect deployment ctx before (readings, .markDecisionUseful requestId attemptId reason)
        ((noted.updateAttempt attemptId fun row =>
            { row with status := .decisionUseful
                       attemptJson := { row.attemptJson with status := .decisionUseful } })
          |>.updateRequest requestId fun row => { row with status := .decisionUseful })

variable {attemptId reason : String} {readings : Readings} {attempt : InferenceAttempt}

theorem findAttemptOf_some :
    backend.findAttemptOf requestId attemptId = some stored ↔
      backend.findAttempt attemptId = some stored ∧ stored.inferenceRequestId = requestId := by
  simp [findAttemptOf, Option.filter_eq_some_iff]

theorem createOrGet_effect (versioned : before.store.Versioned)
    (ok : createOrGet deployment before request manifest = .ok (found, after)) :
    Effect deployment ctx before (readings, .createOrGet request manifest) after := by
  simp only [createOrGet, Identity.requires, bind_ok, guard_ok] at ok
  obtain ⟨-, ok⟩ := ok
  split at ok
  · simp only [bind_ok, guard_ok, pair_ok] at ok
    obtain ⟨-, -, rfl⟩ := ok
    exact .unchanged
  · simp only [bind_ok, guard_ok, pair_ok] at ok
    obtain ⟨⟨_, store⟩, filed, _, moved, absent, -, -, rfl⟩ := ok
    obtain ⟨events, aggregates, -⟩ := putArtifact_ok filed
    have refiled : Refiled before { before with store := store } :=
      ⟨events, aggregates, rfl, rfl, rfl, rfl⟩
    obtain ⟨named, noting, -⟩ := transition_ok (refiled.versioned versioned) moved
    refine .admitted (refiled.then_noted noting) named ?_
    simpa [findRequest, noting.requests] using absent

variable {leaseSeconds : ℚ} {revives : Bool}

theorem claimAttempt_ok (versioned : before.store.Versioned)
    (ok : claimAttempt deployment before readings attemptId requestId routeId leaseSeconds =
      .ok (attempt, after)) :
    ∃ row noted, Noted before noted (.claim attemptId) ∧ before.findRequest requestId = some row ∧
      row.completedAttemptId = none ∧
      (∃ route ∈ deployment.routes, attempt = claimedAttempt attemptId row route
        (before.lastAttemptNo requestId + 1) (before.newestFence requestId + 1)) ∧
      before.findAttempt attemptId = none ∧
      after = { noted with attempts := noted.attempts ++
        [claimedRow attempt (readings.started + leaseDuration leaseSeconds)] }.updateRequest requestId
          fun row => { row with status := .attempting } := by
  simp only [claimAttempt, Identity.requires, bind_ok, guard_ok] at ok
  obtain ⟨-, ok⟩ := ok
  split at ok
  · cases ok
  rename_i route registered
  simp only [bind_ok, guard_ok] at ok
  obtain ⟨-, ok⟩ := ok
  split at ok
  · cases ok
  rename_i row found
  simp only [bind_ok, guard_ok, pair_ok] at ok
  obtain ⟨incomplete, -, noted, moved, absent, rfl, rfl⟩ := ok
  obtain ⟨-, noting, -⟩ := transition_ok versioned moved
  refine ⟨row, noted, noting, found, by simpa using incomplete,
    ⟨route, List.mem_of_find?_eq_some registered, rfl⟩, ?_, rfl⟩
  simpa [findAttempt, noting.attempts] using absent

theorem claimAttempt_effect (versioned : before.store.Versioned)
    (ok : claimAttempt deployment before readings attemptId requestId routeId leaseSeconds =
      .ok (attempt, after)) :
    Effect deployment ctx before (readings, .claimAttempt attemptId requestId routeId leaseSeconds)
      after := by
  obtain ⟨_, _, noting, found, incomplete, claims, absent, rfl⟩ := claimAttempt_ok versioned ok
  exact .claimed noting found incomplete claims absent

theorem reserveCost_effect (versioned : before.store.Versioned)
    (ok : reserveCost deployment before ctx requestId attemptId amount = .ok (reserves, after)) :
    Effect deployment ctx before (readings, .reserveCost requestId attemptId amount) after := by
  simp only [reserveCost, Identity.requires, bind_ok, guard_ok] at ok
  obtain ⟨-, -, ok⟩ := ok
  split at ok
  · rename_i row stored found held
    split at ok
    · cases ok
      exact .unchanged
    rename_i pending
    split at ok
    · cases ok
      exact .unchanged
    rename_i within
    simp only [bind_ok, guard_ok, pair_ok] at ok
    obtain ⟨_, moved, -, -, rfl⟩ := ok
    obtain ⟨-, noting, -⟩ := transition_ok versioned moved
    obtain ⟨held, owned⟩ := findAttemptOf_some.mp held
    exact .reserved noting found held owned (by simpa using pending) rfl (by simpa using within)
  · cases ok

theorem storeAnswer_ok (ok : storeAnswer deployment backend attempt = .ok (artifactId, filed)) :
    Refiled backend filed ∧
      (∀ artifact ∈ artifactId.toList, artifact < filed.store.artifacts.length) ∧
      (attempt.outputArtifact = none → filed.store.artifacts = backend.store.artifacts) := by
  unfold storeAnswer at ok
  split at ok
  · cases ok
    exact ⟨⟨rfl, rfl, rfl, rfl, rfl, rfl⟩, by simp, fun _ => rfl⟩
  · rename_i artifact answer
    simp only [bind_ok, pair_ok] at ok
    obtain ⟨⟨_, _⟩, put, rfl, rfl⟩ := ok
    obtain ⟨events, aggregates, -, -, within⟩ := putArtifact_ok put
    exact ⟨⟨events, aggregates, rfl, rfl, rfl, rfl⟩, by simpa using within, by simp [answer]⟩

theorem finishAttempt_effect (versioned : before.store.Versioned)
    (ok : finishAttempt deployment before ctx readings attempt = .ok (timely, after)) :
    Effect deployment ctx before (readings, .finishAttempt attempt) after := by
  simp only [finishAttempt, Identity.requires, bind_ok, guard_ok] at ok
  obtain ⟨-, ok⟩ := ok
  split at ok
  · rename_i row stored found held
    simp only [bind_ok, guard_ok, pair_ok] at ok
    obtain ⟨⟨_, _⟩, answered, _, moved, -, -, -, -, -, rfl⟩ := ok
    obtain ⟨refiled, -, unanswered⟩ := storeAnswer_ok answered
    obtain ⟨-, noting, artifacts⟩ := transition_ok (refiled.versioned versioned) moved
    refine .finished (refiled.then_noted noting) found held rfl ?_
    intro late
    rw [artifacts]
    exact unanswered (by simp [persisted, late])
  · cases ok
    exact .unchanged

theorem appendEvent_effect (versioned : before.store.Versioned)
    (ok : appendEvent deployment before requestId eventType payload = .ok after) :
    Effect deployment ctx before (readings, .appendEvent requestId eventType payload) after := by
  simp only [appendEvent, Identity.requires, bind_ok, guard_ok] at ok
  obtain ⟨-, ok⟩ := ok
  split at ok
  · cases ok
  · exact .noted (transition_ok versioned ok).2.1

theorem hibernate_effect (versioned : before.store.Versioned)
    (ok : hibernate deployment before requestId reason = .ok after) :
    Effect deployment ctx before (readings, .hibernate requestId reason) after := by
  simp only [hibernate, Identity.requires, bind_ok, guard_ok] at ok
  obtain ⟨-, -, ok⟩ := ok
  split at ok
  · cases ok
  split at ok
  · cases ok
    exact .unchanged
  · simp only [bind_ok, pure_ok] at ok
    obtain ⟨_, moved, rfl⟩ := ok
    exact .hibernated (transition_ok versioned moved).2.1

theorem revive_effect (versioned : before.store.Versioned)
    (ok : revive deployment before requestId reason = .ok (revives, after)) :
    Effect deployment ctx before (readings, .revive requestId reason) after := by
  simp only [revive, Identity.requires, bind_ok, guard_ok] at ok
  obtain ⟨-, -, ok⟩ := ok
  split at ok
  · cases ok
  split at ok
  · cases ok
    exact .unchanged
  · simp only [bind_ok, pair_ok] at ok
    obtain ⟨_, moved, -, rfl⟩ := ok
    exact .revived (transition_ok versioned moved).2.1

theorem recordRouteOutcome_effect (versioned : before.store.Versioned)
    (ok : recordRouteOutcome deployment before routeId succeeded failureThreshold = .ok after) :
    Effect deployment ctx before (readings, .recordRouteOutcome routeId succeeded failureThreshold)
      after := by
  simp only [recordRouteOutcome, Identity.requires, bind_ok, guard_ok, pure_ok] at ok
  obtain ⟨-, -, _, moved, rfl⟩ := ok
  obtain ⟨charted, noting, projected, numbered⟩ := transitionCircuit_ok versioned moved
  exact .recorded noting charted rfl projected numbered

theorem reviveRoute_effect (versioned : before.store.Versioned)
    (ok : reviveRoute deployment before routeId reason = .ok (revives, after)) :
    Effect deployment ctx before (readings, .reviveRoute routeId reason) after := by
  simp only [reviveRoute, Identity.requires, bind_ok, guard_ok] at ok
  obtain ⟨-, -, ok⟩ := ok
  split at ok
  · simp only [bind_ok, guard_ok, pair_ok] at ok
    obtain ⟨-, _, moved, -, rfl⟩ := ok
    exact .routeRevived (transitionCircuit_ok versioned moved).2.1
  · cases ok
    exact .unchanged

theorem reconcileAttemptCost_effect (versioned : before.store.Versioned)
    (ok : reconcileAttemptCost deployment before ctx requestId attemptId providerCost =
      .ok (agreed, after)) :
    Effect deployment ctx before (readings, .reconcileAttemptCost requestId attemptId providerCost)
      after := by
  simp only [reconcileAttemptCost, Identity.requires, bind_ok, guard_ok] at ok
  obtain ⟨-, -, ok⟩ := ok
  split at ok
  · rename_i row stored found held
    simp only [bind_ok, guard_ok, pair_ok] at ok
    obtain ⟨completed, _, moved, -, -, rfl⟩ := ok
    obtain ⟨-, noting, -⟩ := transition_ok versioned moved
    obtain ⟨held, owned⟩ := findAttemptOf_some.mp held
    exact .reconciled noting found held owned (by simpa using completed) rfl
  · cases ok

theorem markDecisionUseful_effect (versioned : before.store.Versioned)
    (ok : markDecisionUseful deployment before requestId attemptId reason = .ok (marked, after)) :
    Effect deployment ctx before (readings, .markDecisionUseful requestId attemptId reason) after := by
  simp only [markDecisionUseful, Identity.requires, bind_ok, guard_ok] at ok
  obtain ⟨-, -, ok⟩ := ok
  split at ok
  · rename_i row stored found held
    split at ok
    · cases ok
      exact .unchanged
    split at ok
    · cases ok
      exact .unchanged
    split at ok
    · cases ok
      exact .unchanged
    rename_i accepted
    simp only [bind_ok, pair_ok] at ok
    obtain ⟨_, moved, -, rfl⟩ := ok
    obtain ⟨-, noting, -⟩ := transition_ok versioned moved
    obtain ⟨held, owned⟩ := findAttemptOf_some.mp held
    exact .useful noting found held owned (by simpa using accepted)
  · cases ok
    exact .unchanged

theorem handle_effect (versioned : before.store.Versioned)
    (ok : handle deployment ctx before call = .ok (answer, after)) :
    Effect deployment ctx before call after := by
  obtain ⟨_, call⟩ := call
  cases call <;> obtain ⟨result, accepted, same⟩ := map_ok.mp ok <;> cases same
  case createOrGet => exact createOrGet_effect versioned accepted
  case claimAttempt => exact claimAttempt_effect versioned accepted
  case reserveCost => exact reserveCost_effect versioned accepted
  case finishAttempt => exact finishAttempt_effect versioned accepted
  case appendEvent => exact appendEvent_effect versioned accepted
  case hibernate => exact hibernate_effect versioned accepted
  case revive => exact revive_effect versioned accepted
  case recordRouteOutcome => exact recordRouteOutcome_effect versioned accepted
  case reviveRoute => exact reviveRoute_effect versioned accepted
  case reconcileAttemptCost => exact reconcileAttemptCost_effect versioned accepted
  case markDecisionUseful => exact markDecisionUseful_effect versioned accepted

theorem next_effect (versioned : before.store.Versioned) (call : TimedCall) :
    Effect deployment ctx before call (CallSystem.next (handle deployment ctx) before call) := by
  unfold CallSystem.next
  cases result : handle deployment ctx before call with
  | error => exact .unchanged
  | ok => exact handle_effect versioned result

end PostgresBackend
end Liki.Inference
