import Liki.Inference.BackendCalls
import Liki.Inference.SqliteBackend

/-! The two backends side by side. They answer alike as long as every call stays
on the ground they share; `Shared` says what that ground is, operation by
operation, in terms of the Postgres database before the call. -/
namespace Liki.Inference
open DecimalArithmetic Checks CallSystem KeyedRows List PostgresBackend Option

/-- An attempt without the four fields that SQLite leaves open when it claims. -/
def InferenceAttempt.unresolved (attempt : InferenceAttempt) : InferenceAttempt :=
  { attempt with
    modelFamily := ""
    modelVersion := none
    upstreamCorrelationDomain := none
    pricingPlanId := none }

def BackendAnswer.unresolved : BackendAnswer → BackendAnswer
  | .attempt claimed => .attempt claimed.unresolved
  | answer => answer

def Agree : Except ServiceError BackendAnswer → Except ServiceError BackendAnswer → Prop
  | .ok answer, .ok reply => answer.unresolved = reply.unresolved
  | .error _, .error _ => True
  | _, _ => False

instance : DecidableRel Agree := fun answer reply => by
  cases answer <;> cases reply <;> unfold Agree <;> infer_instance

structure Standing where
  status : RequestStatus
  completedAttemptId : Option String
  reservedCost : ℚ
  accruedCost : ℚ

def RequestRow.standing (row : RequestRow) : Standing :=
  ⟨row.status, row.completedAttemptId, row.reservedCost, row.accruedCost⟩

def SqliteRequest.standing (row : SqliteRequest) : Standing :=
  ⟨row.status, row.completedAttemptId, row.reservedCost, row.accruedCost⟩

structure RequestsMatch (row : RequestRow) (other : SqliteRequest) : Prop where
  request : row.request = other.request
  manifest : row.contextManifestHash = other.manifest.manifestHash
  status : row.status = other.status
  completedAttemptId : row.completedAttemptId = other.completedAttemptId
  reservedCost : row.reservedCost = other.reservedCost
  accruedCost : row.accruedCost = other.accruedCost

variable {other : SqliteRequest}

theorem RequestsMatch.requestId (pair : RequestsMatch row other) :
    row.requestId = other.requestId :=
  congrArg InferenceRequest.inferenceRequestId pair.request

structure AttemptsMatch (keys : List OperationKey) (row : AttemptRow) (other : SqliteAttempt) :
    Prop where
  attemptId : row.inferenceAttemptId = other.attemptId
  requestId : row.inferenceRequestId = other.requestId
  attemptNo : row.attemptNo = other.attemptNo
  fence : row.leaseFence = other.fence
  leaseUntil : row.leaseUntil = other.leaseUntil
  json : row.attemptJson.unresolved = other.attemptJson.unresolved
  unfinished : .finish row.inferenceAttemptId ∉ keys →
    row.attemptJson.completedAt = none ∧ row.totalCost = other.reservation

structure CircuitsMatch (row : CircuitRow) (other : SqliteCircuit) : Prop where
  routeId : row.providerRouteId = other.routeId
  failures : row.consecutiveFailures = other.failures
  isOpen : row.isOpen = other.isOpen

/-- The tables correspond row by row. -/
structure Matches (postgres : PostgresBackend) (sqlite : SqliteBackend) : Prop where
  requests : List.Forall₂ RequestsMatch postgres.requests sqlite.requests
  attempts : List.Forall₂ (AttemptsMatch postgres.store.keys) postgres.attempts sqlite.attempts
  circuits : List.Forall₂ CircuitsMatch postgres.circuits sqlite.circuits

theorem matches_empty : Matches .empty .empty := ⟨.nil, .nil, .nil⟩

variable {deployment : Deployment} {ctx : DecimalContext} {postgres after : PostgresBackend}
  {sqlite : SqliteBackend} {key : OperationKey} {requestId attemptId routeId : String}
  {call : TimedCall} {row : AttemptRow}

theorem Matches.findRequest (matched : Matches postgres sqlite) {row : RequestRow}
    (found : postgres.findRequest requestId = some row) :
    ∃ other, sqlite.findRequest requestId = some other ∧ RequestsMatch row other :=
  find_some_related (fun _ _ pair => pair.requestId) matched.requests found

theorem Matches.findRequest_none (matched : Matches postgres sqlite)
    (absent : postgres.findRequest requestId = none) : sqlite.findRequest requestId = none :=
  find_none_related (fun _ _ pair => pair.requestId) matched.requests absent

theorem Matches.findAttempt (matched : Matches postgres sqlite)
    (held : postgres.findAttempt attemptId = some row) :
    ∃ other, sqlite.findAttempt attemptId = some other ∧
      AttemptsMatch postgres.store.keys row other :=
  find_some_related (fun _ _ pair => pair.attemptId) matched.attempts held

theorem Matches.findAttempt_none (matched : Matches postgres sqlite)
    (absent : postgres.findAttempt attemptId = none) : sqlite.findAttempt attemptId = none :=
  find_none_related (fun _ _ pair => pair.attemptId) matched.attempts absent

theorem Matches.findAttemptOf (matched : Matches postgres sqlite)
    (held : postgres.findAttemptOf requestId attemptId = some row) :
    ∃ other, sqlite.findAttemptOf requestId attemptId = some other ∧
      AttemptsMatch postgres.store.keys row other := by
  obtain ⟨held, owned⟩ := findAttemptOf_some.mp held
  obtain ⟨other, found, pair⟩ := matched.findAttempt held
  refine ⟨other, ?_, pair⟩
  rw [SqliteBackend.findAttemptOf, found, filter_some, if_pos]
  simpa [← pair.requestId] using owned

theorem Matches.findAttemptOf_none (matched : Matches postgres sqlite)
    (absent : postgres.findAttemptOf requestId attemptId = none) :
    sqlite.findAttemptOf requestId attemptId = none := by
  unfold PostgresBackend.findAttemptOf at absent
  unfold SqliteBackend.findAttemptOf
  cases held : postgres.findAttempt attemptId with
  | none =>
    rw [matched.findAttempt_none held]
    rfl
  | some row =>
    obtain ⟨other, found, pair⟩ := matched.findAttempt held
    rw [held, filter_some] at absent
    rw [found, filter_some, ← pair.requestId]
    split at absent
    · cases absent
    · rename_i foreign
      rw [if_neg foreign]

theorem Matches.findCircuit (matched : Matches postgres sqlite) {row : CircuitRow}
    (found : postgres.findCircuit routeId = some row) :
    ∃ other, sqlite.findCircuit routeId = some other ∧ CircuitsMatch row other :=
  find_some_related (fun _ _ pair => pair.routeId) matched.circuits found

theorem Matches.findCircuit_none (matched : Matches postgres sqlite)
    (absent : postgres.findCircuit routeId = none) : sqlite.findCircuit routeId = none :=
  find_none_related (fun _ _ pair => pair.routeId) matched.circuits absent

theorem Matches.newestFence (matched : Matches postgres sqlite) (requestId : String) :
    postgres.newestFence requestId = sqlite.newestFence requestId := by
  unfold PostgresBackend.newestFence SqliteBackend.newestFence
  congr 1
  refine filter_map_related ?_ matched.attempts
  exact fun _ _ pair => ⟨by rw [pair.requestId], pair.fence⟩

theorem Matches.numbersOf (matched : Matches postgres sqlite) (requestId : String) :
    postgres.numbersOf requestId = (sqlite.attemptsOf requestId).map SqliteAttempt.attemptNo := by
  refine filter_map_related ?_ matched.attempts
  exact fun _ _ pair => ⟨by rw [pair.requestId], pair.attemptNo⟩

variable {keys : List OperationKey} {change : RequestRow → RequestRow}

theorem AttemptsMatch.mono {other : SqliteAttempt} (pair : AttemptsMatch keys row other)
    (grows : ∀ key ∈ keys, key ∈ more) : AttemptsMatch more row other :=
  { pair with unfinished := fun fresh => pair.unfinished fun used => fresh (grows _ used) }

theorem AttemptsMatch.column {other : SqliteAttempt} (pair : AttemptsMatch keys row other)
    {Value : Type} (column : InferenceAttempt → Value)
    (filled : ∀ attempt, column attempt.unresolved = column attempt) :
    column row.attemptJson = column other.attemptJson := by
  rw [← filled, pair.json, filled]

theorem Matches.noted (matched : Matches postgres sqlite)
    (noting : PostgresBackend.Noted postgres after key) : Matches after sqlite where
  requests := noting.requests ▸ matched.requests
  attempts := by
    rw [noting.attempts, noting.keys]
    exact matched.attempts.imp fun _ _ pair =>
      pair.mono fun _ used => mem_append_left _ used
  circuits := noting.circuits ▸ matched.circuits

theorem Matches.updateRequest {other : SqliteRequest → SqliteRequest}
    (matched : Matches postgres sqlite)
    (changed : ∀ row ∈ postgres.requests, ∀ stored, RequestsMatch row stored →
      row.requestId = requestId → RequestsMatch (change row) (other stored)) :
    Matches (postgres.updateRequest requestId change) (sqlite.updateRequest requestId other) where
  requests := update_related (fun _ _ pair => pair.requestId) matched.requests changed
  attempts := matched.attempts
  circuits := matched.circuits

theorem Matches.updateRequest_left (matched : Matches postgres sqlite)
    (changed : ∀ row ∈ postgres.requests, ∀ stored, RequestsMatch row stored →
      row.requestId = requestId → RequestsMatch (change row) stored) :
    Matches (postgres.updateRequest requestId change) sqlite := by
  have followed : Matches (postgres.updateRequest requestId change)
      (sqlite.updateRequest requestId id) := matched.updateRequest changed
  rwa [SqliteBackend.updateRequest, update_id] at followed

theorem Matches.updateAttempt {change : AttemptRow → AttemptRow} {other : SqliteAttempt → SqliteAttempt}
    (matched : Matches postgres sqlite)
    (changed : ∀ row ∈ postgres.attempts, ∀ stored, AttemptsMatch postgres.store.keys row stored →
      row.inferenceAttemptId = attemptId →
      AttemptsMatch postgres.store.keys (change row) (other stored)) :
    Matches (postgres.updateAttempt attemptId change) (sqlite.updateAttempt attemptId other) where
  requests := matched.requests
  attempts := update_related (fun _ _ pair => pair.attemptId) matched.attempts changed
  circuits := matched.circuits

/-- Two calls that both refuse, or answer alike and lead to corresponding databases. -/
inductive Corresponds : Except ServiceError (BackendAnswer × PostgresBackend) →
    Except ServiceError (BackendAnswer × SqliteBackend) → Prop
  | refused (refusal other : ServiceError) : Corresponds (.error refusal) (.error other)
  | answered {answer reply : BackendAnswer} {after : PostgresBackend} {other : SqliteBackend}
      (same : answer.unresolved = reply.unresolved) (matched : Matches after other) :
      Corresponds (.ok (answer, after)) (.ok (reply, other))

variable {readings : Readings} {reason : String}

theorem createOrGet_corresponds {request : InferenceRequest} {manifest : ContextManifest}
    (matched : Matches postgres sqlite) (sound : postgres.Sound) (recorded : postgres.Recorded)
    (known : ∀ row ∈ postgres.requests, row.request.idempotencyKey = request.idempotencyKey →
      row.request.semanticTaskId = request.semanticTaskId →
      row.contextManifestHash = manifest.manifestHash →
      requestHash row.request = requestHash request)
    (new : (∀ row ∈ postgres.requests, row.request.idempotencyKey ≠ request.idempotencyKey) →
      postgres.findRequest request.inferenceRequestId = none →
      request.inferenceRequestId ≠ "" ∧
        ∀ stored ∈ postgres.manifests,
          stored.manifest.contextManifestId ≠ manifest.contextManifestId) :
    Corresponds
      (handle deployment ctx postgres (readings, .createOrGet request manifest))
      (SqliteBackend.handle ctx sqlite (readings, .createOrGet request manifest)) := by
  let priorKey := fun row : RequestRow => row.request.idempotencyKey
  let otherKey := fun row : SqliteRequest => row.request.idempotencyKey
  have sameKey : ∀ row other, RequestsMatch row other → priorKey row = otherKey other :=
    fun _ _ pair => congrArg InferenceRequest.idempotencyKey pair.request
  cases prior : find priorKey request.idempotencyKey postgres.requests with
  | some row =>
    obtain ⟨other, found, pair⟩ := find_some_related sameKey matched.requests prior
    have right : SqliteBackend.createOrGet sqlite request manifest =
        if other.request.semanticTaskId ≠ request.semanticTaskId ∨
            other.manifest.manifestHash ≠ manifest.manifestHash then
          .error (.idempotencyConflict
            "idempotency key is already bound to another semantic request or context")
        else .ok (other.request, sqlite) := by
      unfold SqliteBackend.createOrGet
      rw [show find? _ _ = some other from found]
      dsimp only
      rw [refuseIf_bind]
      rfl
    have left : createOrGet deployment postgres request manifest = _ :=
      createOrGet_known prior
    have carried : priorKey row = request.idempotencyKey := find_key prior
    rw [← pair.request, ← pair.manifest] at right
    simp only [handle, SqliteBackend.handle, left, right]
    by_cases differs : row.request.semanticTaskId ≠ request.semanticTaskId ∨
        row.contextManifestHash ≠ manifest.manifestHash
    · have apart : requestHash row.request ≠ requestHash request ∨
          row.contextManifestHash ≠ manifest.manifestHash := by
        refine differs.imp_left fun task same => task ?_
        simpa [requestHash] using congrArg InferenceRequest.semanticTaskId same
      rw [if_pos apart, if_pos differs]
      exact .refused _ _
    · obtain ⟨task, context⟩ := not_or.mp differs
      have content := known row (find_mem prior) carried (not_not.mp task) (not_not.mp context)
      rw [if_neg (by simpa [content] using context), if_neg differs]
      exact .answered rfl matched
  | none =>
    have unknown := find_none_related sameKey matched.requests prior
    have right : SqliteBackend.createOrGet sqlite request manifest =
        if (sqlite.findRequest request.inferenceRequestId).isSome then
          .error (.constraint "inference_requests.request_id")
        else .ok (request, { sqlite with
          requests := sqlite.requests ++ [⟨request, manifest, .admitted, 0, 0, none, none⟩] }) := by
      unfold SqliteBackend.createOrGet
      rw [show find? _ _ = none from unknown]
      dsimp only
      rw [refuseIf_bind]
      rfl
    simp only [handle, SqliteBackend.handle]
    cases taken : postgres.findRequest request.inferenceRequestId with
    | some =>
      obtain ⟨_, found, -⟩ := matched.findRequest taken
      obtain ⟨_, left⟩ := createOrGet_refuses deployment manifest prior
        sound.versioned taken
      rw [left, right, found]
      exact .refused _ _
    | none =>
      obtain ⟨named, unfiled⟩ := new (find_none.mp prior) taken
      obtain ⟨_, noting, left⟩ := createOrGet_admits sound recorded prior named
        taken unfiled
      rw [left, right, matched.findRequest_none taken]
      have base := matched.noted noting
      exact .answered rfl ⟨insert_related base.requests ⟨rfl, rfl, rfl, rfl, rfl, rfl⟩,
        base.attempts, base.circuits⟩

variable {leaseSeconds : ℚ} {attempt : InferenceAttempt}

theorem SqliteBackend.claimAttempt_at {row : SqliteRequest}
    (found : sqlite.findRequest requestId = some row)
    (counted : ∀ stored ∈ sqlite.attemptsOf requestId,
      stored.attemptNo ≠ (sqlite.attemptsOf requestId).length + 1) :
    let attempt := SqliteBackend.claimedAttempt attemptId row routeId
      ((sqlite.attemptsOf requestId).length + 1) (sqlite.newestFence requestId + 1)
    SqliteBackend.claimAttempt sqlite readings attemptId requestId routeId leaseSeconds =
      if row.completedAttemptId.isSome then
        .error (.concurrentModification "semantic request already completed")
      else if (sqlite.findAttempt attemptId).isSome then
        .error (.constraint "inference_attempts.attempt_id")
      else .ok (attempt, ({ sqlite with
        attempts := sqlite.attempts ++ [⟨attemptId, requestId, attempt.attemptNo, routeId,
          attempt.leaseFence, readings.wall + leaseDuration leaseSeconds, 0, attempt⟩] } :
        SqliteBackend).updateRequest requestId fun row => { row with status := .attempting }) := by
  intro attempt
  unfold claimAttempt
  rw [found]
  dsimp only
  rw [refuseIf_bind, refuseIf_bind, refuseIf_bind_of_not]
  · rfl
  · rintro ⟨stored, member, same⟩
    exact counted stored member same

theorem le_foldr_max {numbers : List ℕ} (member : number ∈ numbers) :
    number ≤ numbers.foldr max 0 := by
  induction numbers with
  | nil => cases member
  | cons _ _ ih =>
    rw [foldr_cons]
    rcases mem_cons.mp member with rfl | later
    · exact le_max_left _ _
    · exact (ih later).trans (le_max_right _ _)

theorem claimAttempt_corresponds (matched : Matches postgres sqlite) (sound : postgres.Sound)
    (recorded : postgres.Recorded) (oneClock : readings.started = readings.wall)
    (claimable : ∀ row, postgres.findRequest requestId = some row → row.completedAttemptId = none →
      postgres.findAttempt attemptId = none → 0 < leaseSeconds ∧
        (deployment.routes.find? fun route => route.routeId = routeId).isSome ∧
        postgres.leased requestId readings.started = false) :
    Corresponds
      (handle deployment ctx postgres
        (readings, .claimAttempt attemptId requestId routeId leaseSeconds))
      (SqliteBackend.handle ctx sqlite
        (readings, .claimAttempt attemptId requestId routeId leaseSeconds)) := by
  simp only [handle, SqliteBackend.handle]
  have numbers := matched.numbersOf requestId
  have count : (sqlite.attemptsOf requestId).length = postgres.lastAttemptNo requestId := by
    have counted := recorded.counted requestId
    rw [numbers, length_map, ← numbers] at counted
    exact counted.symm
  cases found : postgres.findRequest requestId with
  | none =>
    obtain ⟨refusal, left⟩ : ∃ refusal, claimAttempt deployment postgres readings
        attemptId requestId routeId leaseSeconds = .error refusal := by
      apply claimAttempt_refuses _ _ _ sound.versioned
      simp [found]
    rw [left, SqliteBackend.claimAttempt, matched.findRequest_none found]
    exact .refused _ _
  | some row =>
    obtain ⟨other, held, pair⟩ := matched.findRequest found
    have counted : ∀ stored ∈ sqlite.attemptsOf requestId,
        stored.attemptNo ≠ (sqlite.attemptsOf requestId).length + 1 := by
      intro stored member same
      have numbered : stored.attemptNo ∈ postgres.numbersOf requestId := by
        rw [numbers]
        exact mem_map_of_mem member
      have bound : stored.attemptNo ≤ postgres.lastAttemptNo requestId := le_foldr_max numbered
      omega
    have right : SqliteBackend.claimAttempt sqlite readings attemptId requestId routeId leaseSeconds =
        _ := SqliteBackend.claimAttempt_at held counted
    rw [right, ← pair.completedAttemptId]
    by_cases answered : row.completedAttemptId.isSome
    · obtain ⟨refusal, left⟩ : ∃ refusal, claimAttempt deployment postgres readings
          attemptId requestId routeId leaseSeconds = .error refusal := by
        apply claimAttempt_refuses _ _ _ sound.versioned
        intro stored other incomplete
        cases found.symm.trans other
        simp [incomplete] at answered
      rw [left, if_pos answered]
      exact .refused _ _
    rw [if_neg answered]
    cases taken : postgres.findAttempt attemptId with
    | some =>
      obtain ⟨kept, present, -⟩ := matched.findAttempt taken
      obtain ⟨refusal, left⟩ : ∃ refusal, claimAttempt deployment postgres readings
          attemptId requestId routeId leaseSeconds = .error refusal := by
        apply claimAttempt_refuses _ _ _ sound.versioned
        simp [taken]
      rw [left, present]
      exact .refused _ _
    | none =>
      have incomplete : row.completedAttemptId = none := by simpa using answered
      obtain ⟨lease, registered, unleased⟩ := claimable row found incomplete taken
      obtain ⟨route, registered⟩ := isSome_iff_exists.mp registered
      obtain ⟨_, noting, left⟩ := claimAttempt_accepts readings sound lease
        registered found incomplete unleased taken
      have same : (claimedAttempt attemptId row route
            (postgres.lastAttemptNo requestId + 1) (postgres.newestFence requestId + 1)).unresolved =
          (SqliteBackend.claimedAttempt attemptId other routeId
            ((sqlite.attemptsOf requestId).length + 1) (sqlite.newestFence requestId + 1)).unresolved := by
        have named : route.routeId = routeId := by simpa using find?_some registered
        simp [InferenceAttempt.unresolved, claimedAttempt,
          SqliteBackend.claimedAttempt, named, count, ← matched.newestFence, pair.manifest,
          pair.requestId, pair.request]
      have base := matched.noted noting
      rw [left, matched.findAttempt_none taken]
      refine .answered (congrArg BackendAnswer.attempt same) (Matches.updateRequest ?inserted ?status)
      case inserted =>
        refine ⟨base.requests, insert_related base.attempts ?_, base.circuits⟩
        refine {
          attemptId := rfl
          requestId := (find_key found : row.requestId = requestId)
          attemptNo := congrArg (· + 1) count.symm
          fence := congrArg (· + 1) (matched.newestFence requestId)
          leaseUntil := congrArg (· + leaseDuration leaseSeconds) oneClock
          json := same
          unfinished := fun _ => ⟨rfl, rfl⟩ }
      case status => exact fun _ _ _ kept _ => { kept with status := rfl }

theorem reserveCost_corresponds (matched : Matches postgres sqlite) (sound : postgres.Sound)
    (reservable : 0 ≤ amount → ∀ row ∈ postgres.findRequest requestId,
      ∀ stored ∈ postgres.findAttemptOf requestId attemptId,
        let reserved := ctx.add (ctx.sub row.reservedCost stored.totalCost) amount
        .finish attemptId ∉ postgres.store.keys ∧
          ((∀ maximum ∈ row.request.maxTotalAttemptCost, ctx.add row.accruedCost reserved ≤ maximum) →
            .reserve attemptId ∉ postgres.store.keys ∧ 0 ≤ reserved)) :
    Corresponds
      (handle deployment ctx postgres (readings, .reserveCost requestId attemptId amount))
      (SqliteBackend.handle ctx sqlite (readings, .reserveCost requestId attemptId amount)) := by
  simp only [handle, SqliteBackend.handle]
  by_cases negative : amount < 0
  · rw [reserveCost, SqliteBackend.reserveCost, refuseIf_bind_of negative,
      refuseIf_bind_of negative]
    exact .refused _ _
  have nonneg : 0 ≤ amount := not_lt.mp negative
  cases found : postgres.findRequest requestId with
  | none =>
    rw [reserveCost, SqliteBackend.reserveCost, refuseIf_bind_of_not negative,
      refuseIf_bind_of_not negative, requires_inference, ok_bind, found,
      matched.findRequest_none found]
    exact .refused _ _
  | some row =>
    obtain ⟨_, present, pair⟩ := matched.findRequest found
    cases held : postgres.findAttemptOf requestId attemptId with
    | none =>
      rw [reserveCost, SqliteBackend.reserveCost, refuseIf_bind_of_not negative,
        refuseIf_bind_of_not negative, requires_inference, ok_bind, found, present,
        held, matched.findAttemptOf_none held]
      exact .refused _ _
    | some stored =>
      obtain ⟨_, kept, twin⟩ := matched.findAttemptOf held
      obtain ⟨unfinished, accepts⟩ := reservable nonneg row found stored held
      obtain ⟨carried, owned⟩ := findAttemptOf_some.mp held
      have pending := sound.pending carried unfinished
      have named : stored.inferenceAttemptId = attemptId := find_key carried
      have reservation := (twin.unfinished (named ▸ unfinished)).2
      have right : SqliteBackend.reserveCost sqlite ctx requestId attemptId amount =
          if ∃ maximum ∈ row.request.maxTotalAttemptCost, maximum < ctx.add row.accruedCost
              (ctx.add (ctx.sub row.reservedCost stored.totalCost) amount) then .ok (false, sqlite)
          else .ok (true, (sqlite.updateRequest requestId fun current => { current with
              reservedCost := ctx.add (ctx.sub row.reservedCost stored.totalCost) amount })
            |>.updateAttempt attemptId fun row => { row with reservation := amount }) := by
        rw [SqliteBackend.reserveCost, refuseIf_bind_of_not negative, present, kept, pair.request,
          pair.accruedCost, pair.reservedCost, reservation]
        rfl
      rw [right]
      by_cases beyond : ∃ maximum ∈ row.request.maxTotalAttemptCost, maximum <
          ctx.add row.accruedCost (ctx.add (ctx.sub row.reservedCost stored.totalCost) amount)
      · rw [if_pos beyond]
        obtain ⟨maximum, capped, beyond⟩ := beyond
        rw [reserveCost_beyond nonneg found carried owned pending capped beyond]
        exact .answered rfl matched
      · rw [if_neg beyond]
        have within : ∀ maximum ∈ row.request.maxTotalAttemptCost, ctx.add row.accruedCost
            (ctx.add (ctx.sub row.reservedCost stored.totalCost) amount) ≤ maximum := by
          simpa using beyond
        obtain ⟨fresh, reserved⟩ := accepts within
        obtain ⟨_, noting, left⟩ := reserveCost_within sound nonneg found carried
          owned pending within fresh reserved
        rw [left]
        refine .answered rfl (Matches.updateAttempt (Matches.updateRequest (matched.noted noting) ?_) ?_)
        · exact fun _ _ _ kept _ => { kept with reservedCost := rfl }
        · exact fun _ _ _ kept _ => { kept with
            unfinished := fun fresh => ⟨(kept.unfinished fresh).1, rfl⟩ }

theorem stale_eq {row : RequestRow} (matched : Matches postgres sqlite)
    (pair : RequestsMatch row other) (twin : AttemptsMatch postgres.store.keys stored kept)
    (instant : stored.leaseUntil ≠ readings.wall) :
    sqlite.stale readings other kept attempt = postgres.stale readings row stored attempt := by
  have expired : stored.leaseUntil < readings.wall ↔ stored.leaseUntil ≤ readings.wall :=
    ⟨le_of_lt, fun reached => lt_of_le_of_ne reached instant⟩
  unfold SqliteBackend.stale stale
  rw [← twin.fence, ← twin.leaseUntil, ← pair.completedAttemptId, matched.newestFence]
  simp only [expired]

theorem finishAttempt_corresponds (matched : Matches postgres sqlite) (sound : postgres.Sound)
    (finishable : ∀ row ∈ postgres.findRequest attempt.inferenceRequestId,
      ∀ stored ∈ postgres.findAttempt attempt.inferenceAttemptId,
        .finish attempt.inferenceAttemptId ∉ postgres.store.keys ∧
        stored.leaseUntil ≠ readings.wall ∧
        (stored.leaseFence = attempt.leaseFence →
          postgres.attemptsOf attempt.inferenceRequestId ≠ []) ∧
        0 ≤ attempt.totalCost ∧ (∀ cost ∈ attempt.providerReportedCost, 0 ≤ cost) ∧
        0 ≤ ctx.sub row.reservedCost stored.totalCost ∧
        0 ≤ ctx.add row.accruedCost attempt.totalCost) :
    Corresponds
      (handle deployment ctx postgres (readings, .finishAttempt attempt))
      (SqliteBackend.handle ctx sqlite (readings, .finishAttempt attempt)) := by
  simp only [handle, SqliteBackend.handle]
  cases found : postgres.findRequest attempt.inferenceRequestId with
  | none =>
    rw [finishAttempt, SqliteBackend.finishAttempt,
      requires_inference, ok_bind, found, matched.findRequest_none found]
    exact .answered rfl matched
  | some row =>
    obtain ⟨other, present, pair⟩ := matched.findRequest found
    cases held : postgres.findAttempt attempt.inferenceAttemptId with
    | none =>
      rw [finishAttempt, SqliteBackend.finishAttempt,
        requires_inference, ok_bind, found, present, held,
        matched.findAttempt_none held]
      exact .answered rfl matched
    | some stored =>
      obtain ⟨kept, carried, twin⟩ := matched.findAttempt held
      obtain ⟨fresh, instant, numbered, cost, reported, reserved, accrued⟩ :=
        finishable row found stored held
      have named : stored.inferenceAttemptId = attempt.inferenceAttemptId := find_key held
      have reservation := (twin.unfinished (named ▸ fresh)).2
      have created : kept.attemptJson.status = .created := by
        have mirrored := sound.mirrored stored (find_mem held)
        rw [← twin.column InferenceAttempt.status fun _ => rfl, mirrored]
        exact sound.pending held fresh
      have late : sqlite.stale readings other kept attempt = _ := stale_eq matched pair twin instant
      have numbers : ¬(kept.fence = attempt.leaseFence ∧
          sqlite.attemptsOf attempt.inferenceRequestId = []) := by
        rintro ⟨own, none⟩
        refine numbered (twin.fence.trans own) ?_
        have same := matched.numbersOf attempt.inferenceRequestId
        rw [none] at same
        simpa [numbersOf] using same
      have right : SqliteBackend.finishAttempt sqlite ctx readings attempt =
          if postgres.stale readings row stored attempt then
            .ok (false, (sqlite.updateAttempt attempt.inferenceAttemptId fun row =>
                { row with attemptJson := persisted true attempt })
              |>.updateRequest attempt.inferenceRequestId fun current => { current with
                reservedCost := ctx.sub row.reservedCost stored.totalCost
                accruedCost := ctx.add row.accruedCost attempt.totalCost })
          else .ok (true, (sqlite.updateAttempt attempt.inferenceAttemptId fun row =>
                { row with attemptJson := attempt })
              |>.updateRequest attempt.inferenceRequestId fun current =>
                SqliteBackend.finishedRow current attempt (ctx.sub row.reservedCost stored.totalCost)
                  (ctx.add row.accruedCost attempt.totalCost)) := by
        rw [SqliteBackend.finishAttempt, present, carried]
        dsimp only
        rw [refuseIf_bind_of_not numbers, late, if_neg (not_not.mpr created), pair.reservedCost,
          pair.accruedCost, reservation]
        rfl
      obtain ⟨noted, _, noting, left⟩ := finishAttempt_accepts deployment
        readings sound found held fresh cost reported reserved accrued
      have used : .finish attempt.inferenceAttemptId ∈ noted.store.keys := by
        rw [noting.keys]
        simp
      have base := matched.noted noting
      rw [left, right]
      cases timely : postgres.stale readings row stored attempt with
      | true =>
        refine .answered rfl (Matches.updateRequest (Matches.updateAttempt base ?_) ?_)
        · exact fun _ _ _ kept same => { kept with
            json := rfl
            unfinished := fun fresh => absurd (same ▸ used) fresh }
        · exact fun _ _ _ kept _ => { kept with reservedCost := rfl, accruedCost := rfl }
      | false =>
        refine .answered rfl (Matches.updateRequest (Matches.updateAttempt base ?_) ?_)
        · exact fun _ _ _ kept same => { kept with
            json := rfl
            unfinished := fun fresh => absurd (same ▸ used) fresh }
        · intro current _ twin kept _
          refine { kept with
            status := ?_, completedAttemptId := ?_, reservedCost := rfl, accruedCost := rfl }
          · simp [finishedRow, SqliteBackend.finishedRow, persisted,
              kept.status]
          · simp [finishedRow, SqliteBackend.finishedRow, persisted,
              kept.completedAttemptId]

theorem appendEvent_corresponds (matched : Matches postgres sqlite) (sound : postgres.Sound)
    (known : (postgres.findRequest requestId).isSome)
    (fresh : .note requestId eventType payload ∉ postgres.store.keys) :
    Corresponds
      (handle deployment ctx postgres
        (readings, .appendEvent requestId eventType payload))
      (SqliteBackend.handle ctx sqlite (readings, .appendEvent requestId eventType payload)) := by
  obtain ⟨_, found⟩ := isSome_iff_exists.mp known
  simp only [handle, SqliteBackend.handle]
  rw [appendEvent_at deployment eventType payload sound found, if_neg fresh]
  exact .answered rfl (matched.noted (log_noted sound.versioned fresh rfl))

theorem hibernate_corresponds (matched : Matches postgres sqlite) (sound : postgres.Sound)
    (spoken : ¬blank reason) (known : (postgres.findRequest requestId).isSome)
    (fresh : ∀ row ∈ postgres.findRequest requestId, row.completedAttemptId = none →
      .hibernate requestId reason ∉ postgres.store.keys) :
    Corresponds
      (handle deployment ctx postgres (readings, .hibernate requestId reason))
      (SqliteBackend.handle ctx sqlite (readings, .hibernate requestId reason)) := by
  obtain ⟨row, found⟩ := isSome_iff_exists.mp known
  simp only [handle, SqliteBackend.handle]
  cases answered : row.completedAttemptId with
  | some attemptId =>
    have left : hibernate deployment postgres requestId reason = .ok postgres := by
      unfold hibernate
      rw [refuseIf_bind_of_not spoken, requires_inference, ok_bind, found]
      simp only [answered, isSome_some, ↓reduceIte]
      rfl
    rw [left]
    have kept : Matches (postgres.updateRequest requestId id) (sqlite.hibernate requestId reason) := by
      refine matched.updateRequest fun current member other pair carried => ?_
      have completed : other.completedAttemptId = some attemptId := by
        rw [← pair.completedAttemptId, sound.found_request found member carried, answered]
      rw [completed]
      exact pair
    rw [updateRequest, update_id] at kept
    exact .answered rfl kept
  | none =>
    have unused := fresh row found answered
    have left := hibernate_at deployment spoken sound found answered
    rw [if_neg unused] at left
    rw [left]
    refine .answered rfl (Matches.updateRequest
      (matched.noted (log_noted sound.versioned unused rfl)) ?_)
    intro current member other pair carried
    have incomplete : other.completedAttemptId = none := by
      rw [← pair.completedAttemptId, sound.found_request found member carried, answered]
    rw [incomplete]
    exact { pair with status := rfl, completedAttemptId := pair.completedAttemptId.trans incomplete }

theorem revive_corresponds (matched : Matches postgres sqlite) (sound : postgres.Sound)
    (spoken : ¬blank reason) (known : (postgres.findRequest requestId).isSome)
    (fresh : ∀ row ∈ postgres.findRequest requestId, row.status = .hibernated →
      row.completedAttemptId = none → .revive requestId reason ∉ postgres.store.keys) :
    Corresponds
      (handle deployment ctx postgres (readings, .revive requestId reason))
      (SqliteBackend.handle ctx sqlite (readings, .revive requestId reason)) := by
  obtain ⟨row, found⟩ := isSome_iff_exists.mp known
  obtain ⟨_, present, pair⟩ := matched.findRequest found
  simp only [handle, SqliteBackend.handle, SqliteBackend.revive, present]
  rw [← pair.status, ← pair.completedAttemptId]
  by_cases dormant : row.status = .hibernated ∧ row.completedAttemptId.isNone
  · have incomplete : row.completedAttemptId = none := by simpa using dormant.2
    have unused := fresh row found dormant.1 incomplete
    have left := revive_at deployment spoken sound found incomplete
    rw [if_neg (not_not.mpr dormant.1), if_neg unused] at left
    rw [left, if_pos dormant]
    refine .answered rfl (Matches.updateRequest
      (matched.noted (log_noted sound.versioned unused rfl)) ?_)
    exact fun _ _ _ pair _ => { pair with status := rfl }
  · have left : revive deployment postgres requestId reason = .ok (false, postgres) := by
      unfold revive
      rw [refuseIf_bind_of_not spoken, requires_inference, ok_bind, found]
      dsimp only
      rw [if_pos]
      · rfl
      · by_cases hibernated : row.status = .hibernated
        · right
          simpa [isSome_iff_ne_none] using fun incomplete => dormant ⟨hibernated, incomplete⟩
        · exact .inl hibernated
    rw [left, if_neg dormant]
    exact .answered rfl matched

/-! Circuits. -/

theorem Matches.failures (matched : Matches postgres sqlite) (routeId : String) :
    ((sqlite.findCircuit routeId).map SqliteCircuit.failures).getD 0 =
      (postgres.circuitOf routeId).1 := by
  rw [← failures_eq]
  cases found : postgres.findCircuit routeId with
  | none => rw [matched.findCircuit_none found]; rfl
  | some =>
    obtain ⟨_, present, pair⟩ := matched.findCircuit found
    rw [present]
    exact pair.failures.symm

theorem recordRouteOutcome_corresponds (matched : Matches postgres sqlite) (sound : postgres.Sound)
    (named : routeId ≠ "") (positive : 0 < threshold) :
    Corresponds
      (handle deployment ctx postgres
        (readings, .recordRouteOutcome routeId succeeded threshold))
      (SqliteBackend.handle ctx sqlite (readings, .recordRouteOutcome routeId succeeded threshold)) := by
  simp only [handle, SqliteBackend.handle, SqliteBackend.recordRouteOutcome]
  rw [recordRouteOutcome_at deployment named succeeded positive sound,
    matched.failures]
  refine .answered rfl ⟨matched.requests, ?_, ?_⟩
  · exact (matched.noted (log_noted sound.versioned (sound.outcome_fresh routeId)
      rfl)).attempts
  · exact upsert_related (fun _ _ pair => pair.routeId) matched.circuits ⟨rfl, rfl, rfl⟩

theorem reviveRoute_corresponds (matched : Matches postgres sqlite) (sound : postgres.Sound)
    (closable : ¬blank reason → ∀ row ∈ postgres.findCircuit routeId,
      row.isOpen ∧ .circuitRevive routeId reason ∉ postgres.store.keys) :
    Corresponds
      (handle deployment ctx postgres (readings, .reviveRoute routeId reason))
      (SqliteBackend.handle ctx sqlite (readings, .reviveRoute routeId reason)) := by
  simp only [handle, SqliteBackend.handle]
  by_cases silent : blank reason
  · rw [reviveRoute, SqliteBackend.reviveRoute, refuseIf_bind_of silent,
      refuseIf_bind_of silent]
    exact .refused _ _
  cases found : postgres.findCircuit routeId with
  | none =>
    rw [reviveRoute, SqliteBackend.reviveRoute, refuseIf_bind_of_not silent,
      refuseIf_bind_of_not silent, requires_inference, ok_bind,
      circuitIsOpen, found, matched.findCircuit_none found]
    exact .answered rfl matched
  | some row =>
    obtain ⟨_, present, pair⟩ := matched.findCircuit found
    obtain ⟨isOpen, fresh⟩ := closable silent row found
    have carried : row.providerRouteId = routeId := find_key found
    have named : routeId ≠ "" := by
      rw [← carried]
      exact sound.charted row (find_mem found)
    have left := reviveRoute_at deployment named silent sound
    rw [if_pos (by simpa [circuitOf, found] using isOpen), if_neg fresh] at left
    rw [left, SqliteBackend.reviveRoute, refuseIf_bind_of_not silent, present]
    refine .answered rfl ⟨matched.requests, ?_, ?_⟩
    · exact (matched.noted (log_noted sound.versioned fresh rfl)).attempts
    · exact update_related (fun _ _ pair => pair.routeId) matched.circuits
        fun _ _ _ pair _ => ⟨pair.routeId, rfl, rfl⟩

/-! Costs and marks. -/

theorem reconcileAttemptCost_corresponds (matched : Matches postgres sqlite)
    (sound : postgres.Sound)
    (reconcilable : 0 ≤ providerCost.value → ∀ row ∈ postgres.findRequest requestId,
      ∀ stored ∈ postgres.findAttemptOf requestId attemptId,
        stored.attemptJson.completedAt ≠ none ∧
        .reconcile attemptId providerCost ∉ postgres.store.keys ∧
        providerCost.value = stored.attemptJson.totalCost ∧
        ctx.add (ctx.sub row.accruedCost stored.attemptJson.totalCost) providerCost.value =
          row.accruedCost ∧
        0 ≤ row.accruedCost) :
    Corresponds
      (handle deployment ctx postgres
        (readings, .reconcileAttemptCost requestId attemptId providerCost))
      (SqliteBackend.handle ctx sqlite
        (readings, .reconcileAttemptCost requestId attemptId providerCost)) := by
  simp only [handle, SqliteBackend.handle]
  cases held : postgres.findAttemptOf requestId attemptId with
  | none =>
    obtain ⟨_, left⟩ := reconcileAttemptCost_refuses deployment ctx providerCost
      held
    rw [left, SqliteBackend.reconcileAttemptCost, matched.findAttemptOf_none held]
    exact .refused _ _
  | some stored =>
    obtain ⟨_, carried, twin⟩ := matched.findAttemptOf held
    rw [SqliteBackend.reconcileAttemptCost, carried]
    by_cases negative : providerCost.value < 0
    · rw [reconcileAttemptCost, refuseIf_bind_of negative]
      dsimp only
      rw [refuseIf_bind_of negative]
      exact .refused _ _
    have nonneg : 0 ≤ providerCost.value := not_lt.mp negative
    obtain ⟨found, owned⟩ := findAttemptOf_some.mp held
    obtain ⟨row, present⟩ := isSome_iff_exists.mp (sound.owned stored (find_mem found))
    rw [owned] at present
    obtain ⟨completed, fresh, agreed, same, accrued⟩ := reconcilable nonneg row present stored held
    obtain ⟨noted, noting, left⟩ := reconcileAttemptCost_accepts sound nonneg present
      found owned completed fresh (same.symm ▸ accrued)
    have named : stored.inferenceAttemptId = attemptId := find_key found
    have finished : .finish attemptId ∈ noted.store.keys := by
      by_contra unfinished
      rw [noting.keys, mem_append, not_or] at unfinished
      exact completed (twin.unfinished (named ▸ unfinished.1)).1
    dsimp only
    rw [left, refuseIf_bind_of_not negative]
    refine .answered ?_ ?_
    · exact congrArg BackendAnswer.flag
        (by rw [twin.column InferenceAttempt.totalCost fun _ => rfl])
    · refine Matches.updateRequest_left (Matches.updateAttempt (matched.noted noting) ?_) ?_
      · intro current _ other pair carried
        refine { pair with
          json := ?_, unfinished := fun fresh => absurd (carried.symm ▸ finished) fresh }
        rw [agreed]
        exact congrArg (fun attempt : InferenceAttempt => { attempt with
          providerReportedCost := some stored.attemptJson.totalCost }) twin.json
      · intro current member other pair carried
        rw [requests_updateAttempt, noting.requests] at member
        have only := sound.found_request present member carried
        refine { pair with accruedCost := ?_ }
        rw [← pair.accruedCost, only, same]

theorem markDecisionUseful_corresponds (matched : Matches postgres sqlite) (sound : postgres.Sound)
    (recorded : postgres.Recorded) (spoken : ¬blank reason) :
    Corresponds
      (handle deployment ctx postgres
        (readings, .markDecisionUseful requestId attemptId reason))
      (SqliteBackend.handle ctx sqlite
        (readings, .markDecisionUseful requestId attemptId reason)) := by
  -- without a write both backends only have to give the same flag
  have unwritten (flag : Bool)
      (left : markDecisionUseful deployment postgres requestId attemptId reason =
        .ok (flag, postgres))
      (right : sqlite.markDecisionUseful requestId attemptId = (flag, sqlite)) :
      Corresponds
        (handle deployment ctx postgres
          (readings, .markDecisionUseful requestId attemptId reason))
        (SqliteBackend.handle ctx sqlite
          (readings, .markDecisionUseful requestId attemptId reason)) := by
    simp only [handle, SqliteBackend.handle]
    rw [left, right]
    exact .answered rfl matched
  cases found : postgres.findRequest requestId with
  | none =>
    apply unwritten false
    · rw [markDecisionUseful, refuseIf_bind_of_not spoken,
        requires_inference, ok_bind, found]
      rfl
    · rw [SqliteBackend.markDecisionUseful, matched.findRequest_none found]
  | some row =>
    obtain ⟨other, present, pair⟩ := matched.findRequest found
    cases held : postgres.findAttemptOf requestId attemptId with
    | none =>
      apply unwritten false
      · rw [markDecisionUseful, refuseIf_bind_of_not spoken,
          requires_inference, ok_bind, found, held]
        rfl
      · rw [SqliteBackend.markDecisionUseful, present, matched.findAttemptOf_none held]
    | some stored =>
      obtain ⟨kept, carried, twin⟩ := matched.findAttemptOf held
      have status := twin.column InferenceAttempt.status fun _ => rfl
      obtain ⟨_, leftIs⟩ : ∃ write,
          markDecisionUseful deployment postgres requestId attemptId reason =
            if row.completedAttemptId ≠ some attemptId then .ok (false, postgres)
            else if stored.attemptJson.status = .decisionUseful then .ok (true, postgres)
            else if stored.attemptJson.status ≠ .semanticAccepted then .ok (false, postgres)
            else write := by
        rw [markDecisionUseful, refuseIf_bind_of_not spoken,
          requires_inference, ok_bind, found, held]
        exact ⟨_, rfl⟩
      have rightIs : sqlite.markDecisionUseful requestId attemptId =
          if row.completedAttemptId ≠ some attemptId then (false, sqlite)
          else if stored.attemptJson.status = .decisionUseful then (true, sqlite)
          else if stored.attemptJson.status ≠ .semanticAccepted then (false, sqlite)
          else (true, (sqlite.updateAttempt attemptId fun row =>
              { row with attemptJson := { kept.attemptJson with status := .decisionUseful } })
            |>.updateRequest requestId fun row => { row with status := .decisionUseful }) := by
        rw [SqliteBackend.markDecisionUseful, present, carried, pair.completedAttemptId, status]
      by_cases other : row.completedAttemptId ≠ some attemptId
      · rw [if_pos other] at leftIs rightIs
        exact unwritten false leftIs rightIs
      rw [if_neg other] at leftIs rightIs
      by_cases useful : stored.attemptJson.status = .decisionUseful
      · rw [if_pos useful] at leftIs rightIs
        exact unwritten true leftIs rightIs
      rw [if_neg useful] at leftIs rightIs
      by_cases unaccepted : stored.attemptJson.status ≠ .semanticAccepted
      · rw [if_pos unaccepted] at leftIs rightIs
        exact unwritten false leftIs rightIs
      rw [if_neg unaccepted] at rightIs
      obtain ⟨carries, owned⟩ := findAttemptOf_some.mp held
      obtain ⟨_, noting, left⟩ := markDecisionUseful_accepts sound recorded spoken
        found carries owned (not_not.mp other) (not_not.mp unaccepted)
      simp only [handle, SqliteBackend.handle]
      rw [left, rightIs]
      refine .answered rfl (Matches.updateRequest (Matches.updateAttempt (matched.noted noting) ?_) ?_)
      · intro current member other pair same
        have only := sound.found_attempt carries (noting.attempts ▸ member) same
        have done : stored.status ≠ .created := by
          rw [← sound.mirrored stored (find_mem carries), not_not.mp unaccepted]
          decide
        obtain ⟨finished, -⟩ := sound.settled stored (find_mem carries) done
        refine { pair with json := ?_, unfinished := fun fresh => absurd ?_ fresh }
        · rw [only]
          exact congrArg (fun attempt : InferenceAttempt => { attempt with status := .decisionUseful })
            twin.json
        · rw [noting.keys, only]
          exact mem_append_left _ finished
      · exact fun _ _ _ pair _ => { pair with status := rfl }

/-- The ground both backends share. Everything outside it only one of them
checks: SQLite knows no leases when it claims, no operation keys, no registered
routes and no bounds on its columns, and it reconciles a bill without charging
the difference. -/
def Shared (deployment : Deployment) (ctx : DecimalContext) (postgres : PostgresBackend) :
    TimedCall → Prop
  | (_, .createOrGet request manifest) =>
    (∀ row ∈ postgres.requests, row.request.idempotencyKey = request.idempotencyKey →
      row.request.semanticTaskId = request.semanticTaskId →
      row.contextManifestHash = manifest.manifestHash →
      requestHash row.request = requestHash request) ∧
    ((∀ row ∈ postgres.requests, row.request.idempotencyKey ≠ request.idempotencyKey) →
      postgres.findRequest request.inferenceRequestId = none →
      request.inferenceRequestId ≠ "" ∧
        ∀ stored ∈ postgres.manifests,
          stored.manifest.contextManifestId ≠ manifest.contextManifestId)
  | (readings, .claimAttempt attemptId requestId routeId leaseSeconds) =>
    readings.started = readings.wall ∧
    ∀ row ∈ postgres.findRequest requestId, row.completedAttemptId = none →
      postgres.findAttempt attemptId = none → 0 < leaseSeconds ∧
        (deployment.routes.find? fun route => route.routeId = routeId).isSome ∧
        postgres.leased requestId readings.started = false
  | (_, .reserveCost requestId attemptId amount) =>
    0 ≤ amount → ∀ row ∈ postgres.findRequest requestId,
      ∀ stored ∈ postgres.findAttemptOf requestId attemptId,
        let reserved := ctx.add (ctx.sub row.reservedCost stored.totalCost) amount
        .finish attemptId ∉ postgres.store.keys ∧
          ((∀ maximum ∈ row.request.maxTotalAttemptCost, ctx.add row.accruedCost reserved ≤ maximum) →
            .reserve attemptId ∉ postgres.store.keys ∧ 0 ≤ reserved)
  | (readings, .finishAttempt attempt) =>
    ∀ row ∈ postgres.findRequest attempt.inferenceRequestId,
      ∀ stored ∈ postgres.findAttempt attempt.inferenceAttemptId,
        .finish attempt.inferenceAttemptId ∉ postgres.store.keys ∧
        stored.leaseUntil ≠ readings.wall ∧
        (stored.leaseFence = attempt.leaseFence →
          postgres.attemptsOf attempt.inferenceRequestId ≠ []) ∧
        0 ≤ attempt.totalCost ∧ (∀ cost ∈ attempt.providerReportedCost, 0 ≤ cost) ∧
        0 ≤ ctx.sub row.reservedCost stored.totalCost ∧
        0 ≤ ctx.add row.accruedCost attempt.totalCost
  | (_, .appendEvent requestId eventType payload) =>
    (postgres.findRequest requestId).isSome ∧
      .note requestId eventType payload ∉ postgres.store.keys
  | (_, .hibernate requestId reason) =>
    ¬blank reason ∧ (postgres.findRequest requestId).isSome ∧
      ∀ row ∈ postgres.findRequest requestId, row.completedAttemptId = none →
        .hibernate requestId reason ∉ postgres.store.keys
  | (_, .revive requestId reason) =>
    ¬blank reason ∧ (postgres.findRequest requestId).isSome ∧
      ∀ row ∈ postgres.findRequest requestId, row.status = .hibernated →
        row.completedAttemptId = none → .revive requestId reason ∉ postgres.store.keys
  | (_, .recordRouteOutcome routeId _ failureThreshold) => routeId ≠ "" ∧ 0 < failureThreshold
  | (_, .reviveRoute routeId reason) =>
    ¬blank reason → ∀ row ∈ postgres.findCircuit routeId,
      row.isOpen ∧ .circuitRevive routeId reason ∉ postgres.store.keys
  | (_, .reconcileAttemptCost requestId attemptId providerCost) =>
    0 ≤ providerCost.value → ∀ row ∈ postgres.findRequest requestId,
      ∀ stored ∈ postgres.findAttemptOf requestId attemptId,
        stored.attemptJson.completedAt ≠ none ∧
        .reconcile attemptId providerCost ∉ postgres.store.keys ∧
        providerCost.value = stored.attemptJson.totalCost ∧
        ctx.add (ctx.sub row.accruedCost stored.attemptJson.totalCost) providerCost.value =
          row.accruedCost ∧
        0 ≤ row.accruedCost
  | (_, .markDecisionUseful _ _ reason) => ¬blank reason

instance : Decidable (Shared deployment ctx postgres call) := by
  obtain ⟨_, call⟩ := call
  induction call using BackendCall.casesOn <;> unfold Shared <;> infer_instance

theorem handle_corresponds (matched : Matches postgres sqlite) (sound : postgres.Sound)
    (recorded : postgres.Recorded) (shared : Shared deployment ctx postgres call) :
    Corresponds (handle deployment ctx postgres call)
      (SqliteBackend.handle ctx sqlite call) := by
  obtain ⟨_, call⟩ := call
  cases call with
  | createOrGet => exact createOrGet_corresponds matched sound recorded shared.1 shared.2
  | claimAttempt => exact claimAttempt_corresponds matched sound recorded shared.1 shared.2
  | reserveCost => exact reserveCost_corresponds matched sound shared
  | finishAttempt => exact finishAttempt_corresponds matched sound shared
  | appendEvent => exact appendEvent_corresponds matched sound shared.1 shared.2
  | hibernate => exact hibernate_corresponds matched sound shared.1 shared.2.1 shared.2.2
  | revive => exact revive_corresponds matched sound shared.1 shared.2.1 shared.2.2
  | recordRouteOutcome => exact recordRouteOutcome_corresponds matched sound shared.1 shared.2
  | reviveRoute => exact reviveRoute_corresponds matched sound shared
  | reconcileAttemptCost => exact reconcileAttemptCost_corresponds matched sound shared
  | markDecisionUseful => exact markDecisionUseful_corresponds matched sound recorded shared

theorem Corresponds.next (matched : Matches postgres sqlite)
    (corresponds : Corresponds (handle deployment ctx postgres call)
      (SqliteBackend.handle ctx sqlite call)) :
    Agree (reply (handle deployment ctx) postgres call)
        (reply (SqliteBackend.handle ctx) sqlite call) ∧
      Matches (CallSystem.next (handle deployment ctx) postgres call)
        (CallSystem.next (SqliteBackend.handle ctx) sqlite call) := by
  unfold reply CallSystem.next
  generalize handle deployment ctx postgres call = left at corresponds
  generalize SqliteBackend.handle ctx sqlite call = right at corresponds
  cases corresponds with
  | refused => exact ⟨trivial, matched⟩
  | answered same matched => exact ⟨same, matched⟩

theorem Matches.standing (matched : Matches postgres sqlite) (requestId : String) :
    (postgres.findRequest requestId).map RequestRow.standing =
      (sqlite.findRequest requestId).map SqliteRequest.standing := by
  cases found : postgres.findRequest requestId with
  | none => rw [matched.findRequest_none found]; rfl
  | some =>
    obtain ⟨_, present, pair⟩ := matched.findRequest found
    rw [present, map_some, map_some, RequestRow.standing, SqliteRequest.standing,
      pair.status, pair.completedAttemptId, pair.reservedCost, pair.accruedCost]

theorem Matches.completedResult (matched : Matches postgres sqlite) (requestId : String) :
    postgres.completedResult requestId = sqlite.completedResult requestId := by
  unfold PostgresBackend.completedResult SqliteBackend.completedResult
  cases found : postgres.findRequest requestId with
  | none => rw [matched.findRequest_none found]; rfl
  | some =>
    obtain ⟨other, present, pair⟩ := matched.findRequest found
    rw [present]
    simp only [bind_eq_bind, bind_some, pair.completedAttemptId]
    cases answered : other.completedAttemptId with
    | none => rfl
    | some attemptId =>
      cases held : postgres.findAttempt attemptId with
      | none => simp [held, matched.findAttempt_none held]
      | some =>
        obtain ⟨_, carried, twin⟩ := matched.findAttempt held
        simp [held, carried, twin.column InferenceAttempt.status fun _ => rfl,
          twin.column InferenceAttempt.outputArtifact fun _ => rfl,
          twin.column InferenceAttempt.providerRouteId fun _ => rfl]

theorem Matches.circuitIsOpen (matched : Matches postgres sqlite) (routeId : String) :
    postgres.circuitIsOpen routeId = sqlite.circuitIsOpen routeId := by
  unfold PostgresBackend.circuitIsOpen SqliteBackend.circuitIsOpen
  cases found : postgres.findCircuit routeId with
  | none => rw [matched.findCircuit_none found]; rfl
  | some =>
    obtain ⟨_, present, pair⟩ := matched.findCircuit found
    rw [present]
    exact pair.isOpen

/-- On shared ground the two backends are indistinguishable: they give agreeing
replies, refuse the same calls, and show the same requests, answers and circuits. -/
theorem backends_agree_on_shared_ground (deployment : Deployment) (ctx : DecimalContext)
    (calls : List TimedCall)
    (shared : Along (handle deployment ctx) (Shared deployment ctx) .empty calls) :
    let postgres := run (handle deployment ctx) .empty calls
    let sqlite := run (SqliteBackend.handle ctx) .empty calls
    List.Forall₂ Agree (replies (handle deployment ctx) .empty calls)
        (replies (SqliteBackend.handle ctx) .empty calls) ∧
      (∀ requestId, (postgres.findRequest requestId).map RequestRow.standing =
        (sqlite.findRequest requestId).map SqliteRequest.standing) ∧
      (∀ requestId, postgres.completedResult requestId = sqlite.completedResult requestId) ∧
      ∀ routeId, postgres.circuitIsOpen routeId = sqlite.circuitIsOpen routeId := by
  intro postgres sqlite
  have start : empty.Sound ∧ empty.Recorded ∧
      Matches .empty .empty :=
    ⟨sound_empty, recorded_empty, matches_empty⟩
  have step (left : PostgresBackend) (right : SqliteBackend) (call : TimedCall)
      (related : left.Sound ∧ left.Recorded ∧ Matches left right)
      (shared : Shared deployment ctx left call) :
      Agree (reply (handle deployment ctx) left call)
          (reply (SqliteBackend.handle ctx) right call) ∧
        (CallSystem.next (handle deployment ctx) left call).Sound ∧
        (CallSystem.next (handle deployment ctx) left call).Recorded ∧
        Matches (CallSystem.next (handle deployment ctx) left call)
          (CallSystem.next (SqliteBackend.handle ctx) right call) := by
    obtain ⟨sound, recorded, matched⟩ := related
    obtain ⟨agreed, kept⟩ := (handle_corresponds matched sound recorded shared).next matched
    exact ⟨agreed, sound.next call,
      recorded.step sound (next_effect sound.versioned call), kept⟩
  obtain ⟨agreed, -, -, matched⟩ := run_simulates step start shared
  exact ⟨agreed, matched.standing, matched.completedResult, matched.circuitIsOpen⟩

/-- An attempt is claimed, reserves, answers and is marked useful. -/
theorem answered_request_agrees :
    let calls := sampleClaim ++ [(⟨0, 0⟩, .reserveCost "request" "attempt" (1 / 2)),
      (⟨0, 1⟩, .finishAttempt (sampleAnswer .semanticAccepted (1 / 4))),
      (⟨1, 1⟩, .markDecisionUseful "request" "attempt" "acted upon")]
    List.Forall₂ Agree (replies (handle sampleDeployment prec28) .empty calls)
      (replies (SqliteBackend.handle prec28) .empty calls) := by
  intro calls
  have shared : Along (handle sampleDeployment prec28)
      (Shared sampleDeployment prec28) .empty calls := by
    decide +kernel
  exact (backends_agree_on_shared_ground sampleDeployment prec28 calls shared).1

/-- Off it they drift apart, here on one request: when a failed attempt is
finished twice, a second attempt is claimed under a live lease, a finished
attempt reserves again, a hibernation recurs, and a bill is reconciled. -/
theorem backends_drift :
    let agree := fun calls => List.Forall₂ Agree
      (replies (handle sampleDeployment prec28) .empty calls)
      (replies (SqliteBackend.handle prec28) .empty calls)
    let failed : List TimedCall := sampleClaim ++
      [(⟨0, 1⟩, .finishAttempt (sampleAnswer .retryableFailure (1 / 4)))]
    let reconciled : List TimedCall := failed ++
      [(⟨1, 1⟩, .reconcileAttemptCost "request" "attempt" ⟨5, -1⟩)]
    ¬agree (failed ++ [(⟨1, 1⟩, .finishAttempt (sampleAnswer .retryableFailure (1 / 4)))]) ∧
    ¬agree (sampleClaim ++ [(⟨1, 1⟩, .claimAttempt "second" "request" "route" 60)]) ∧
    ¬agree (failed ++ [(⟨1, 1⟩, .reserveCost "request" "attempt" (1 / 2))]) ∧
    ¬agree (sampleClaim ++ [(⟨1, 1⟩, .hibernate "request" "quota"),
      (⟨2, 2⟩, .hibernate "request" "quota")]) ∧
    (((run (handle sampleDeployment prec28) .empty reconciled).findRequest
        "request").map RequestRow.accruedCost = some (1 / 2) ∧
      ((run (SqliteBackend.handle prec28) .empty reconciled).findRequest "request").map
        SqliteRequest.accruedCost = some (1 / 4)) := by
  decide +kernel

end Liki.Inference
