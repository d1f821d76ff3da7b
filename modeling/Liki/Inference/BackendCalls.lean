import Liki.Inference.BackendInvariants

/-! When a call is accepted. In a reachable database every guard but one reads a
row; the one that remains is whether the call's operation key is fresh. -/
namespace Liki.Inference
open DecimalArithmetic Checks CallSystem KeyedRows Store
namespace PostgresBackend

variable {deployment : Deployment} {ctx : DecimalContext} {backend : PostgresBackend}
  {requestId attemptId routeId : String} {row : RequestRow} {stored : AttemptRow}
  {request : InferenceRequest} {reason : String} {amount : ℚ}

theorem requires_inference (deployment : Deployment) :
    deployment.actor.requires .inference = .ok () := by
  simp [Identity.requires, refuseIf, workload_permitted]

theorem Sound.attempt_key_fresh (sound : backend.Sound) (names : key.attempt = some attemptId)
    (absent : backend.findAttempt attemptId = none) : key ∉ backend.store.keys := by
  intro used
  obtain ⟨row, member, carried⟩ := List.mem_map.mp (sound.attempted key used attemptId names)
  exact find_none.mp absent row member carried

theorem Sound.pending (sound : backend.Sound) (held : backend.findAttempt attemptId = some stored)
    (fresh : .finish attemptId ∉ backend.store.keys) : stored.status = .created := by
  have carried : stored.inferenceAttemptId = attemptId := find_key held
  by_contra done
  obtain ⟨used, -⟩ := sound.settled stored (find_mem held) done
  exact fresh (carried ▸ used)

theorem claimAttempt_accepts (readings : Readings) (sound : backend.Sound)
    (lease : 0 < leaseSeconds)
    (registered : (deployment.routes.find? fun route => route.routeId = routeId) = some route)
    (found : backend.findRequest requestId = some row) (incomplete : row.completedAttemptId = none)
    (unleased : backend.leased requestId readings.started = false)
    (absent : backend.findAttempt attemptId = none) :
    let attempt := claimedAttempt attemptId row route (backend.lastAttemptNo requestId + 1)
      (backend.newestFence requestId + 1)
    ∃ noted, Noted backend noted (.claim attemptId) ∧
      claimAttempt deployment backend readings attemptId requestId routeId leaseSeconds =
        .ok (attempt, { noted with
          attempts := noted.attempts ++
            [claimedRow attempt (readings.started + leaseDuration leaseSeconds)] }.updateRequest
          requestId fun row => { row with status := .attempting }) := by
  intro attempt
  have fresh : .claim attemptId ∉ backend.store.keys := sound.attempt_key_fresh rfl absent
  have untaken : ¬(backend.findAttempt attemptId).isSome := by simp [absent]
  refine ⟨backend.log _ ?request, log_noted sound.versioned fresh ?current, ?accepted⟩
  case accepted =>
    unfold claimAttempt
    rw [refuseIf_bind_of_not (not_le.mpr lease)]
    simp only [registered, found]
    rw [requires_inference, ok_bind, refuseIf_bind_of_not (by simp [incomplete]),
      refuseIf_bind_of_not (by simp [unleased]), transition_at sound.versioned
      (sound.requestId_ne found) row.request.task_nonempty (by simp), if_neg fresh, ok_bind,
      refuseIf_bind_of_not]
    · rfl
    · exact untaken
  case current => rfl

theorem claimAttempt_refuses (deployment : Deployment) (readings : Readings) (leaseSeconds : ℚ)
    (versioned : backend.store.Versioned)
    (lacks : ∀ row, backend.findRequest requestId = some row → row.completedAttemptId = none →
      backend.findAttempt attemptId ≠ none) :
    ∃ refusal, claimAttempt deployment backend readings attemptId requestId routeId leaseSeconds =
      .error refusal := by
  refine refused_of_not_ok ?_
  rintro ⟨_, _⟩ ok
  obtain ⟨row, -, -, found, incomplete, -, absent, -⟩ := claimAttempt_ok versioned ok
  exact lacks row found incomplete absent

theorem createOrGet_known
    (known : (backend.requests.find? fun row => row.request.idempotencyKey = request.idempotencyKey) =
      some row) :
    createOrGet deployment backend request manifest =
      if requestHash row.request ≠ requestHash request ∨
          row.contextManifestHash ≠ manifest.manifestHash then
        .error (.idempotencyConflict
          "idempotency key is bound to different request content or context")
      else .ok (row.request, backend) := by
  unfold createOrGet
  rw [requires_inference, ok_bind, known]
  dsimp only
  rw [refuseIf_bind]
  rfl

theorem createOrGet_refuses (deployment : Deployment) (manifest : ContextManifest)
    (unknown : (backend.requests.find? fun row =>
      row.request.idempotencyKey = request.idempotencyKey) = none)
    (versioned : backend.store.Versioned)
    (taken : backend.findRequest request.inferenceRequestId = some row) :
    ∃ refusal, createOrGet deployment backend request manifest = .error refusal := by
  refine refused_of_not_ok ?_
  rintro ⟨_, _⟩ ok
  simp only [createOrGet, unknown, bind_ok, guard_ok, pure_ok] at ok
  obtain ⟨-, -, ⟨_, store⟩, filed, _, moved, absent, -⟩ := ok
  obtain ⟨events, aggregates, -⟩ := putArtifact_ok filed
  have refiled : Refiled backend { backend with store := store } :=
    ⟨events, aggregates, rfl, rfl, rfl, rfl⟩
  obtain ⟨-, noting, -⟩ := transition_ok (refiled.versioned versioned) moved
  rw [noting.findRequest] at absent
  exact absent (Option.isSome_of_eq_some taken)

/-- A new request is admitted when its ids are new. -/
theorem createOrGet_admits (sound : backend.Sound) (recorded : backend.Recorded)
    (unknown : (backend.requests.find? fun row =>
      row.request.idempotencyKey = request.idempotencyKey) = none)
    (named : request.inferenceRequestId ≠ "")
    (absent : backend.findRequest request.inferenceRequestId = none)
    (unfiled : ∀ stored ∈ backend.manifests,
      stored.manifest.contextManifestId ≠ manifest.contextManifestId) :
    ∃ noted, Noted backend noted (.admission request.idempotencyKey) ∧
      createOrGet deployment backend request manifest = .ok (request, { noted with
        requests := noted.requests ++ [admittedRow request manifest]
        manifests := noted.manifests ++ [⟨manifest, request.inferenceRequestId⟩] }) := by
  have permitted : Capability.artifact ∈ deployment.actor.role.capabilities := by
    rw [deployment.workload]
    decide
  obtain ⟨_, store, put⟩ := putArtifact_accepts backend.store
    (ArtifactContent.manifest manifest) "inference/context-manifest-v1" policyVersion permitted
  obtain ⟨events, aggregates, -, -, within⟩ := putArtifact_ok put
  have refiled : Refiled backend { backend with store := store } :=
    ⟨events, aggregates, rfl, rfl, rfl, rfl⟩
  have fresh : .admission request.idempotencyKey ∉ backend.store.keys := by
    intro used
    obtain ⟨stored, member, same⟩ := sound.admissions _ used
    obtain ⟨row, held, rfl⟩ := List.mem_map.mp member
    exact List.find?_eq_none.mp unknown row held (by simpa using same)
  have untaken : ¬(backend.findRequest request.inferenceRequestId).isSome := by simp [absent]
  have still : .admission request.idempotencyKey ∉ store.keys := by
    rwa [keys, events]
  refine ⟨log { backend with store := store } _ ?request, refiled.then_noted
    (log_noted (refiled.versioned sound.versioned) still ?current), ?accepted⟩
  case accepted =>
    unfold createOrGet
    rw [requires_inference, ok_bind, unknown]
    dsimp only
    rw [put, ok_bind]
    dsimp only
    rw [transition_at (refiled.versioned sound.versioned) named request.task_nonempty
      (by simpa using within), if_neg still, ok_bind, refuseIf_bind_of_not, refuseIf_bind_of_not]
    · rfl
    · rintro ⟨stored, member, sameManifest | sameRequest⟩
      · exact unfiled stored member sameManifest
      · have filed := recorded.filed stored member
        rw [sameRequest, absent] at filed
        cases filed
    · exact untaken
  case current => rfl

theorem reserveCost_within (sound : backend.Sound) (nonneg : 0 ≤ amount)
    (found : backend.findRequest requestId = some row)
    (held : backend.findAttempt attemptId = some stored)
    (owned : stored.inferenceRequestId = requestId) (pending : stored.status = .created)
    (within : ∀ maximum ∈ row.request.maxTotalAttemptCost,
      ctx.add row.accruedCost (ctx.add (ctx.sub row.reservedCost stored.totalCost) amount) ≤ maximum)
    (fresh : .reserve attemptId ∉ backend.store.keys)
    (reserved : 0 ≤ ctx.add (ctx.sub row.reservedCost stored.totalCost) amount) :
    ∃ noted, Noted backend noted (.reserve attemptId) ∧
      reserveCost deployment backend ctx requestId attemptId amount =
        .ok (true, (noted.updateRequest requestId fun current => { current with
            reservedCost := ctx.add (ctx.sub row.reservedCost stored.totalCost) amount })
          |>.updateAttempt attemptId fun row => { row with totalCost := amount }) := by
  refine ⟨backend.log _ ?request, log_noted sound.versioned fresh ?current, ?accepted⟩
  case accepted =>
    unfold reserveCost
    rw [refuseIf_bind_of_not (not_lt.mpr nonneg), requires_inference, ok_bind, found,
      findAttemptOf_some.mpr ⟨held, owned⟩]
    dsimp only
    rw [if_neg (by simpa using pending), if_neg (by simpa using within),
      transition_at sound.versioned (sound.requestId_ne found) row.request.task_nonempty (by simp),
      if_neg fresh, ok_bind, refuseIf_bind_of_not (not_lt.mpr reserved)]
    rfl
  case current => rfl

theorem reserveCost_beyond (nonneg : 0 ≤ amount) (found : backend.findRequest requestId = some row)
    (held : backend.findAttempt attemptId = some stored)
    (owned : stored.inferenceRequestId = requestId) (pending : stored.status = .created)
    (capped : row.request.maxTotalAttemptCost = some maximum)
    (beyond : maximum <
      ctx.add row.accruedCost (ctx.add (ctx.sub row.reservedCost stored.totalCost) amount)) :
    reserveCost deployment backend ctx requestId attemptId amount = .ok (false, backend) := by
  unfold reserveCost
  rw [refuseIf_bind_of_not (not_lt.mpr nonneg), requires_inference, ok_bind, found,
    findAttemptOf_some.mpr ⟨held, owned⟩]
  dsimp only
  rw [if_neg (by simpa using pending), if_pos ⟨maximum, capped, beyond⟩]
  rfl

theorem storeAnswer_accepts (deployment : Deployment) (backend : PostgresBackend)
    (attempt : InferenceAttempt) :
    ∃ artifactId filed, storeAnswer deployment backend attempt = .ok (artifactId, filed) := by
  have permitted : Capability.artifact ∈ deployment.actor.role.capabilities := by
    rw [deployment.workload]
    decide
  unfold storeAnswer
  cases attempt.outputArtifact with
  | none => exact ⟨_, _, rfl⟩
  | some artifact =>
    obtain ⟨_, _, put⟩ := putArtifact_accepts backend.store
      (ArtifactContent.response attempt.inferenceAttemptId artifact)
      "inference/response-artifact-v1" policyVersion permitted
    dsimp only
    rw [put, ok_bind]
    exact ⟨_, _, rfl⟩

theorem finishAttempt_accepts (deployment : Deployment) (readings : Readings)
    (sound : backend.Sound) (found : backend.findRequest attempt.inferenceRequestId = some row)
    (held : backend.findAttempt attempt.inferenceAttemptId = some stored)
    (fresh : .finish attempt.inferenceAttemptId ∉ backend.store.keys) (cost : 0 ≤ attempt.totalCost)
    (reported : ∀ cost ∈ attempt.providerReportedCost, 0 ≤ cost)
    (reserved : 0 ≤ ctx.sub row.reservedCost stored.totalCost)
    (accrued : 0 ≤ ctx.add row.accruedCost attempt.totalCost) :
    let late := backend.stale readings row stored attempt
    let kept := persisted late attempt
    ∃ noted artifactId, Noted backend noted (.finish attempt.inferenceAttemptId) ∧
      finishAttempt deployment backend ctx readings attempt =
        .ok (!late, (noted.updateAttempt attempt.inferenceAttemptId fun row =>
            { row with status := kept.status, totalCost := kept.totalCost,
                       outputArtifactId := artifactId, attemptJson := kept })
          |>.updateRequest attempt.inferenceRequestId fun current =>
            finishedRow current kept artifactId (ctx.sub row.reservedCost stored.totalCost)
              (ctx.add row.accruedCost kept.totalCost)) := by
  intro late kept
  have keptCost : kept.totalCost = attempt.totalCost := persisted_totalCost late attempt
  have keptReported : kept.providerReportedCost = attempt.providerReportedCost := by
    cases same : late <;> simp [kept, persisted, same]
  obtain ⟨artifactId, filed, answered⟩ := storeAnswer_accepts deployment backend kept
  obtain ⟨refiled, within, -⟩ := storeAnswer_ok answered
  have still : .finish attempt.inferenceAttemptId ∉ filed.store.keys := by
    rwa [keys, refiled.events]
  refine ⟨filed.log _ ?request, artifactId, refiled.then_noted
    (log_noted (refiled.versioned sound.versioned) still ?current), ?accepted⟩
  case accepted =>
    unfold finishAttempt
    rw [requires_inference, ok_bind, found, held]
    dsimp only
    rw [answered, ok_bind]
    dsimp only
    rw [transition_at (refiled.versioned sound.versioned) (sound.requestId_ne found)
      row.request.task_nonempty within, if_neg still, ok_bind,
      refuseIf_bind_of_not (not_lt.mpr (keptCost ▸ cost)), refuseIf_bind_of_not,
      refuseIf_bind_of_not (not_lt.mpr reserved), refuseIf_bind_of_not]
    · rfl
    · exact not_lt.mpr (keptCost ▸ accrued)
    · rintro ⟨cost, member, negative⟩
      exact absurd negative (not_lt.mpr (reported cost (keptReported ▸ member)))
  case current => rfl

theorem appendEvent_at (deployment : Deployment) (eventType : String) (payload : Payload)
    (sound : backend.Sound) (found : backend.findRequest requestId = some row) :
    appendEvent deployment backend requestId eventType payload =
      if .note requestId eventType payload ∈ backend.store.keys then
        .error (.domain "IDEMPOTENCY_CONFLICT")
      else .ok (backend.log (.note requestId eventType payload)
        (requestTransition deployment backend requestId row.request.semanticTaskId row.state eventType
          (some (.payload payload)) [])) := by
  unfold appendEvent
  rw [requires_inference, ok_bind, found]
  exact transition_at sound.versioned (sound.requestId_ne found) row.request.task_nonempty (by simp)

theorem reconcileAttemptCost_refuses (deployment : Deployment) (ctx : DecimalContext)
    (providerCost : Numeral) (absent : backend.findAttemptOf requestId attemptId = none) :
    ∃ refusal, reconcileAttemptCost deployment backend ctx requestId attemptId providerCost =
      .error refusal := by
  refine refused_of_not_ok ?_
  rintro ⟨_, _⟩ ok
  simp only [reconcileAttemptCost, absent, bind_ok, guard_ok] at ok
  obtain ⟨-, -, -, ok⟩ := ok
  cases found : backend.findRequest requestId <;> rw [found] at ok <;> cases ok

theorem reconcileAttemptCost_accepts (sound : backend.Sound) (nonneg : 0 ≤ providerCost.value)
    (found : backend.findRequest requestId = some row)
    (held : backend.findAttempt attemptId = some stored)
    (owned : stored.inferenceRequestId = requestId)
    (completed : stored.attemptJson.completedAt ≠ none)
    (fresh : .reconcile attemptId providerCost ∉ backend.store.keys)
    (accrued : 0 ≤ ctx.add (ctx.sub row.accruedCost stored.attemptJson.totalCost) providerCost.value) :
    ∃ noted, Noted backend noted (.reconcile attemptId providerCost) ∧
      reconcileAttemptCost deployment backend ctx requestId attemptId providerCost =
        .ok (decide (stored.attemptJson.totalCost = providerCost.value),
          (noted.updateAttempt attemptId fun row =>
            { row with totalCost := providerCost.value
                       attemptJson := { stored.attemptJson with
                         providerReportedCost := some providerCost.value
                         totalCost := providerCost.value } })
          |>.updateRequest requestId fun current => { current with
            accruedCost := ctx.add (ctx.sub row.accruedCost stored.attemptJson.totalCost)
              providerCost.value }) := by
  refine ⟨backend.log _ ?request, log_noted sound.versioned fresh ?current, ?accepted⟩
  case accepted =>
    unfold reconcileAttemptCost
    rw [refuseIf_bind_of_not (not_lt.mpr nonneg), requires_inference, ok_bind, found,
      findAttemptOf_some.mpr ⟨held, owned⟩]
    dsimp only
    rw [refuseIf_bind_of_not (by simpa using completed), transition_at sound.versioned
      (sound.requestId_ne found) row.request.task_nonempty (by simp), if_neg fresh, ok_bind,
      refuseIf_bind_of_not (not_lt.mpr accrued)]
    rfl
  case current => rfl

theorem markDecisionUseful_accepts (sound : backend.Sound) (recorded : backend.Recorded)
    (spoken : ¬blank reason) (found : backend.findRequest requestId = some row)
    (held : backend.findAttempt attemptId = some stored)
    (owned : stored.inferenceRequestId = requestId)
    (answers : row.completedAttemptId = some attemptId)
    (accepted : stored.attemptJson.status = .semanticAccepted) :
    ∃ noted, Noted backend noted (.useful attemptId) ∧
      markDecisionUseful deployment backend requestId attemptId reason =
        .ok (true, (noted.updateAttempt attemptId fun row =>
            { row with status := .decisionUseful
                       attemptJson := { row.attemptJson with status := .decisionUseful } })
          |>.updateRequest requestId fun row => { row with status := .decisionUseful }) := by
  have fresh : .useful attemptId ∉ backend.store.keys := by
    intro used
    have carried : stored.inferenceAttemptId = attemptId := find_key held
    have marked := recorded.marked stored (find_mem held) (carried ▸ used)
    rw [accepted] at marked
    cases marked
  refine ⟨backend.log _ ?request, log_noted sound.versioned fresh ?current, ?accepts⟩
  case accepts =>
    unfold markDecisionUseful
    rw [refuseIf_bind_of_not spoken, requires_inference, ok_bind, found,
      findAttemptOf_some.mpr ⟨held, owned⟩]
    dsimp only
    rw [if_neg (not_not.mpr answers), if_neg (by simp [accepted]), if_neg (not_not.mpr accepted),
      transition_at sound.versioned (sound.requestId_ne found) row.request.task_nonempty (by simp),
      if_neg fresh, ok_bind]
    rfl
  case current => rfl

theorem hibernate_at (deployment : Deployment) (spoken : ¬blank reason) (sound : backend.Sound)
    (found : backend.findRequest requestId = some row) (incomplete : row.completedAttemptId = none) :
    hibernate deployment backend requestId reason =
      if OperationKey.hibernate requestId reason ∈ backend.store.keys then
        .error (.domain "IDEMPOTENCY_CONFLICT")
      else .ok ((backend.log (.hibernate requestId reason)
          (requestTransition deployment backend requestId row.request.semanticTaskId
            { row.state with status := .hibernated, failureReason := some reason }
            "INFERENCE_HIBERNATED" (some (.reason reason)) [])).updateRequest requestId
        fun row => { row with status := .hibernated, failureReason := some reason }) := by
  unfold hibernate
  rw [refuseIf_bind_of_not spoken, requires_inference]
  simp only [ok_bind, found, incomplete, Option.isSome_none, Bool.false_eq_true, ↓reduceIte]
  rw [transition_at sound.versioned (sound.requestId_ne found) row.request.task_nonempty (by simp),
    guarded_bind]
  rfl

/-- Reviving is a no-op unless the request is hibernated, and then it is accepted
exactly with a fresh reason. -/
theorem revive_at (deployment : Deployment) (spoken : ¬blank reason) (sound : backend.Sound)
    (found : backend.findRequest requestId = some row) (incomplete : row.completedAttemptId = none) :
    revive deployment backend requestId reason =
      if row.status ≠ .hibernated then .ok (false, backend)
      else if OperationKey.revive requestId reason ∈ backend.store.keys then
        .error (.domain "IDEMPOTENCY_CONFLICT")
      else .ok (true, (backend.log (.revive requestId reason)
          (requestTransition deployment backend requestId row.request.semanticTaskId
            { row.state with status := .admitted, failureReason := none }
            "INFERENCE_REVIVED" (some (.reason reason)) [])).updateRequest requestId
        fun row => { row with status := .admitted, failureReason := none }) := by
  unfold revive
  rw [refuseIf_bind_of_not spoken, requires_inference]
  simp only [ok_bind, found, incomplete, Option.isSome_none, Bool.false_eq_true, or_false]
  rw [transition_at sound.versioned (sound.requestId_ne found) row.request.task_nonempty (by simp),
    guarded_bind]
  rfl

def circuitOf (backend : PostgresBackend) (routeId : String) : ℕ × Bool :=
  ((backend.findCircuit routeId).map fun row => (row.consecutiveFailures, row.isOpen)).getD (0, false)

theorem circuitIsOpen_eq : backend.circuitIsOpen routeId = (backend.circuitOf routeId).2 := by
  unfold circuitIsOpen circuitOf
  cases backend.findCircuit routeId <;> simp

theorem failures_eq : ((backend.findCircuit routeId).map CircuitRow.consecutiveFailures).getD 0 =
    (backend.circuitOf routeId).1 := by
  unfold circuitOf
  cases backend.findCircuit routeId <;> simp

theorem Sound.outcome_fresh (sound : backend.Sound) (routeId : String) :
    .circuit routeId (backend.store.version "inference_route_circuit" routeId + 1) ∉
      backend.store.keys := by
  intro used
  have bound := sound.numbered routeId _ used
  omega

theorem recordRouteOutcome_at (deployment : Deployment) (named : routeId ≠ "") (succeeded : Bool)
    {threshold : ℤ} (positive : 0 < threshold) (sound : backend.Sound) :
    let counted := if succeeded then 0 else (backend.circuitOf routeId).1 + 1
    let row : CircuitRow := ⟨routeId, counted, decide (threshold ≤ counted)⟩
    let version := backend.store.version "inference_route_circuit" routeId
    recordRouteOutcome deployment backend routeId succeeded threshold =
      .ok { backend.log (.circuit routeId (version + 1))
          (circuitTransition deployment backend routeId ⟨routeId, counted, row.isOpen⟩
            "INFERENCE_ROUTE_HEALTH_RECORDED" (some (.succeeded succeeded))) with
        circuits := upsert CircuitRow.providerRouteId row backend.circuits } := by
  intro counted row version
  unfold recordRouteOutcome
  rw [refuseIf_bind_of_not (not_le.mpr positive), requires_inference, ok_bind]
  simp only [failures_eq]
  rw [transitionCircuit_at sound.versioned named, if_neg (sound.outcome_fresh routeId), ok_bind]
  rfl

/-- Reviving a route is a no-op unless its circuit is open, and then it is
accepted exactly with a fresh reason. -/
theorem reviveRoute_at (deployment : Deployment) (named : routeId ≠ "") (spoken : ¬blank reason)
    (sound : backend.Sound) :
    reviveRoute deployment backend routeId reason =
      if (backend.circuitOf routeId).2 then
        if .circuitRevive routeId reason ∈ backend.store.keys then
          .error (.domain "IDEMPOTENCY_CONFLICT")
        else .ok (true, (backend.log (.circuitRevive routeId reason)
            (circuitTransition deployment backend routeId ⟨routeId, 0, false⟩
              "INFERENCE_ROUTE_REVIVED" (some (.reason reason)))).updateCircuit routeId
          fun row => { row with consecutiveFailures := 0, isOpen := false })
      else .ok (false, backend) := by
  unfold reviveRoute
  rw [refuseIf_bind_of_not spoken, requires_inference, ok_bind, circuitIsOpen_eq]
  by_cases isOpen : (backend.circuitOf routeId).2
  · have projected : ¬(backend.store.state "inference_route_circuit" routeId).isNone := by
      cases found : backend.findCircuit routeId with
      | none => simp [circuitOf, found] at isOpen
      | some row =>
        have carried : row.providerRouteId = routeId := find_key found
        have known := sound.projected row (find_mem found)
        rw [carried] at known
        simpa using Option.isSome_iff_ne_none.mp known
    rw [if_pos isOpen, if_pos isOpen, refuseIf_bind_of_not projected,
      transitionCircuit_at sound.versioned named, guarded_bind]
    rfl
  · rw [if_neg isOpen, if_neg isOpen]
    rfl

theorem circuitOf_close :
    (backend.updateCircuit routeId fun row =>
      { row with consecutiveFailures := 0, isOpen := false }).circuitOf routeId = (0, false) := by
  have closed : (backend.updateCircuit routeId fun row =>
      { row with consecutiveFailures := 0, isOpen := false }).findCircuit routeId =
        (backend.findCircuit routeId).map fun row =>
          { row with consecutiveFailures := 0, isOpen := false } :=
    find_update_self fun _ carried => carried
  unfold circuitOf
  rw [closed]
  cases backend.findCircuit routeId <;> rfl

end PostgresBackend
end Liki.Inference
