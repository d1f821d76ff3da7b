import Liki.Library.AppendOnly
import Liki.Library.CallSystem
import Liki.Library.Reachability
import Liki.Store
import Mathlib.Data.List.MinMax
import Mathlib.Data.Prod.Lex

/-! The scheduler: campaigns with budgets, tasks that are queued under them, and the leases that
workers run tasks under. Every operation but `heartbeat` is one transaction behind the advisory
lock, and `heartbeat` is one update. A transaction has the instant at which it started, which is
`now()`, and the reading of the clock behind the lock, which is `utcnow()`. -/
namespace Liki.Scheduler
open DecimalArithmetic Checks CallSystem AppendOnly Reachability KeyedRows

/-- `POLICY["policy_id"]`. -/
def policyId : String := "runtime-boot-v1"

/-- `POLICY["class_limits"]`. -/
def classLimits : List (String × ℕ) :=
  [("cheap", 8), ("medium", 4), ("expensive", 2), ("telegram", 1), ("evaluator", 8),
    ("backtest", 3), ("data", 4),
    ("maintenance", 1), ("paper", 1), ("governance", 1)]

def classLimit (taskClass : String) : ℕ :=
  ((find Prod.fst taskClass classLimits).map Prod.snd).getD 0

/-- `POLICY["exploration_floor"]`. -/
def explorationFloor : ℚ := 1 / 20

def laneClasses : List String :=
  ["EXPLOIT", "ALTERNATIVE", "NOVELTY", "FALSIFICATION", "REPLICATION", "DATA_QA", "EXECUTION_QA",
    "SYSTEM_QA",
    "GOVERNANCE"]

def qualityLanes : List String := ["DATA_QA", "EXECUTION_QA", "SYSTEM_QA"]

/-- The instants of a transaction. -/
structure Clock where
  /-- `now()`. -/
  start : Time
  /-- `utcnow()`. -/
  reading : Time

@[ext]
structure Campaign where
  campaignId : String
  purpose : String
  startRule : String
  stoppingRule : String
  /-- None for an instant without a zone. -/
  horizonAt : Option Time
  usdBudget : ℚ
  tokenBudget : ℕ
  computeSecondsBudget : ℚ
  statisticalBudget : ℕ
  usdBudget_nonneg : 0 ≤ usdBudget

instance : DecidableEq Campaign := fun _ _ => decidable_of_iff _ Campaign.ext_iff.symm

/-- What the semantic hash of a task is taken of. -/
structure Semantic where
  handler : String
  /-- A `dict`, by its canonical text. -/
  inputs : String
  schema : String
  deriving DecidableEq

@[ext]
structure Task where
  taskId : String
  campaignId : String
  parentTaskId : Option String
  purpose : String
  expectedArtifactSchema : String
  taskClass : String
  laneClass : String
  handler : String
  inputs : String
  budgetUsd : ℚ
  voiLowerBound : ℚ
  novelty : ℚ
  informationValue : ℚ
  maxRetries : ℕ
  timeoutSec : ℕ
  independentIfParentFails : Bool
  dependencies : List String
  budgetUsd_nonneg : 0 ≤ budgetUsd
  timeoutSec_pos : 0 < timeoutSec

instance : DecidableEq Task := fun _ _ => decidable_of_iff _ Task.ext_iff.symm

namespace Task

variable (task : Task)

def semantic : Semantic := ⟨task.handler, task.inputs, task.expectedArtifactSchema⟩

def parent : Option String := task.parentTaskId.filter fun parentId => parentId ≠ ""

end Task

inductive TaskStatus where
  | queued | running | hibernating | completed | failed | killed | expired | quarantined | blockedByBudget
  | blockedByCooldown
  deriving DecidableEq

structure TaskState where
  task : Task
  dependencies : List String
  status : TaskStatus
  runId : Option String
  failure : Option String
  artifactId : Option ℕ
  deriving DecidableEq

inductive SchedulerAggregate where
  | campaign (campaign : Campaign)
  | task (state : TaskState)
  | other (text : String)
  deriving DecidableEq

/-- The content of an artifact, which may have lost its hash on the way to the database. -/
structure ArtifactContent where
  text : String
  intact : Bool
  deriving DecidableEq

abbrev SchedulerStore := Store SchedulerAggregate Unit String ArtifactContent
abbrev SchedulerTransition := TransitionRequest SchedulerAggregate Unit

/-- A row of `campaigns`. -/
structure CampaignRow where
  campaignId : String
  horizonAt : Time
  usdBudget : ℚ
  allocatedUsd : ℚ
  deriving DecidableEq

/-- A row of `tasks`. -/
structure TaskRow where
  taskId : String
  campaignId : String
  parentTaskId : Option String
  semantic : Semantic
  purpose : String
  taskClass : String
  laneClass : String
  budgetUsd : ℚ
  childAllocatedUsd : ℚ
  voiLowerBound : ℚ
  novelty : ℚ
  informationValue : ℚ
  maxRetries : ℕ
  timeoutSec : ℕ
  status : TaskStatus
  independentIfParentFails : Bool
  availableAt : Time
  createdAt : Time
  deriving DecidableEq

inductive RunStatus where
  | running | completed | failed | expired
  deriving DecidableEq

/-- A row of `active_task_runs`. -/
structure Run where
  runId : String
  taskId : String
  workerId : String
  taskClass : String
  status : RunStatus
  expectedArtifactSchema : String
  retryCount : ℕ
  maxRetries : ℕ
  timeoutSec : ℕ

/-- A row of `resource_leases`. -/
structure Lease where
  leaseId : String
  runId : String
  workerId : String
  fencingToken : String
  expiresAt : Time
  releasedAt : Option Time
  resourceClass : String
  deriving DecidableEq

structure SchedulerState where
  store : SchedulerStore
  campaigns : List CampaignRow
  tasks : List TaskRow
  /-- From a task to a task that it depends on. -/
  dependencies : List (String × String)
  runs : List Run
  leases : List Lease

namespace SchedulerState

def empty : SchedulerState := ⟨.empty, [], [], [], [], []⟩

variable (state : SchedulerState)

def findCampaign (campaignId : String) : Option CampaignRow :=
  find CampaignRow.campaignId campaignId state.campaigns

def findTask (taskId : String) : Option TaskRow := find TaskRow.taskId taskId state.tasks

def findRun (runId : String) : Option Run := find Run.runId runId state.runs

def projection (taskId : String) : Option (ℕ × TaskState) :=
  match state.store.state "task" taskId with
  | some ⟨_, _, version, .task task⟩ => some (version, task)
  | _ => none

def transition (actor : Identity) (capability : Capability) (operationKey : String)
    (request : SchedulerTransition) (topic : Option String) : Except ServiceError SchedulerState := do
  actor.requires capability
  refuseIf (operationKey = "") (.domain "INVALID_TRANSITION")
  let store ← state.store.transition actor capability operationKey request topic
  return { state with store }

def updateTask (taskId : String) (change : TaskRow → TaskRow) : SchedulerState :=
  { state with tasks := update TaskRow.taskId taskId change state.tasks }

/-- `UPDATE resource_leases SET released_at=now() WHERE run_id=%s`, with the status of the run. -/
def closeRun (runId : String) (status : RunStatus) (instant : Time) : SchedulerState :=
  { state with
    runs := update Run.runId runId (fun run => { run with status := status }) state.runs
    leases := update Lease.runId runId (fun lease => { lease with releasedAt := some instant })
      state.leases }

end SchedulerState

def campaignRequest (actor : Identity) (spec : Campaign) : SchedulerTransition where
  kind := "campaign"
  aggregateId := spec.campaignId
  expectedVersion := 0
  state := .campaign spec
  eventType := "CAMPAIGN_DECLARED"
  principalId := actor.principalId
  taskId := spec.campaignId
  policyVersion := policyId
  evidenceIds := []
  artifactIds := []
  metadata := none

/-- `INSERT INTO campaigns ... ON CONFLICT DO NOTHING`. -/
def insertCampaign (state : SchedulerState) (row : CampaignRow) : SchedulerState :=
  if (state.findCampaign row.campaignId).isSome then state
  else { state with campaigns := state.campaigns ++ [row] }

/-- `campaign`. -/
def declareCampaign (state : SchedulerState) (actor : Identity) (spec : Campaign) (clock : Clock) :
    Except ServiceError (String × SchedulerState) := do
  let horizonAt ← expect spec.horizonAt (.domain "INVALID_CAMPAIGN_HORIZON")
  refuseIf (horizonAt ≤ clock.reading) (.domain "INVALID_CAMPAIGN_HORIZON")
  let state ← state.transition actor .research ("campaign:" ++ spec.campaignId)
    (campaignRequest actor spec) none
  return (spec.campaignId, insertCampaign state ⟨spec.campaignId, horizonAt, spec.usdBudget, 0⟩)

def taskRequest (actor : Identity) (taskId : String) (expectedVersion : ℕ) (after : TaskState)
    (eventType : String)
    (artifactIds : List ℕ) : SchedulerTransition where
  kind := "task"
  aggregateId := taskId
  expectedVersion := expectedVersion
  state := .task after
  eventType := eventType
  principalId := actor.principalId
  taskId := taskId
  policyVersion := policyId
  evidenceIds := []
  artifactIds := artifactIds
  metadata := none

def Task.queued (task : Task) : TaskState := ⟨task, task.dependencies, .queued, none, none, none⟩

def Task.row (task : Task) (instant : Time) : TaskRow where
  taskId := task.taskId
  campaignId := task.campaignId
  parentTaskId := task.parentTaskId
  semantic := task.semantic
  purpose := task.purpose
  taskClass := task.taskClass
  laneClass := task.laneClass
  budgetUsd := task.budgetUsd
  childAllocatedUsd := 0
  voiLowerBound := task.voiLowerBound
  novelty := task.novelty
  informationValue := task.informationValue
  maxRetries := task.maxRetries
  timeoutSec := task.timeoutSec
  status := .queued
  independentIfParentFails := task.independentIfParentFails
  availableAt := instant
  createdAt := instant

def failedStatuses : List TaskStatus := [.failed, .killed, .quarantined]

def allocate (state : SchedulerState) (task : Task) (campaign : CampaignRow) :
    Except ServiceError SchedulerState :=
  match task.parent with
  | some parentId => do
    let parent ← expect (state.findTask parentId) (.domain "INVALID_PARENT")
    refuseIf (parent.campaignId ≠ task.campaignId ∨
      parent.status ∈ failedStatuses) (.domain "INVALID_PARENT")
    refuseIf (parent.budgetUsd < prec28.add parent.childAllocatedUsd task.budgetUsd)
      (.domain "SUBTREE_BUDGET_EXHAUSTED")
    -- the sum that is stored is not rounded
    refuseIf (parent.budgetUsd < parent.childAllocatedUsd + task.budgetUsd)
      (.constraint "child_allocated_usd")
    return state.updateTask parentId fun row =>
      { row with childAllocatedUsd := row.childAllocatedUsd + task.budgetUsd }
  | none => do
    refuseIf (campaign.usdBudget < prec28.add campaign.allocatedUsd task.budgetUsd)
      (.domain "CAMPAIGN_BUDGET_EXHAUSTED")
    refuseIf (campaign.usdBudget < campaign.allocatedUsd + task.budgetUsd) (.constraint "allocated_usd")
    return { state with
      campaigns := update CampaignRow.campaignId task.campaignId
        (fun row => { row with allocatedUsd := row.allocatedUsd + task.budgetUsd }) state.campaigns }

/-- `INSERT INTO tasks`. -/
def insertTask (state : SchedulerState) (row : TaskRow) : Except ServiceError SchedulerState := do
  refuseIf ((state.findTask row.taskId).isSome) (.constraint "task_id")
  refuseIf (∃ parentId ∈ row.parentTaskId, state.findTask parentId = none) (.constraint "parent_task_id")
  return { state with tasks := state.tasks ++ [row] }

/-- `INSERT INTO task_dependencies`. -/
def insertDependency (task : Task) (state : SchedulerState) (dependency : String) :
    Except ServiceError SchedulerState := do
  let target ← expect (state.findTask dependency) (.domain "INVALID_DEPENDENCY")
  refuseIf (target.campaignId ≠ task.campaignId) (.domain "INVALID_DEPENDENCY")
  refuseIf (task.taskId = dependency ∨ (task.taskId, dependency) ∈ state.dependencies)
    (.constraint "task_dependencies")
  return { state with dependencies := state.dependencies ++ [(task.taskId, dependency)] }

/-- `enqueue`. -/
def enqueue (state : SchedulerState) (actor : Identity) (task : Task) (clock : Clock) :
    Except ServiceError (String × SchedulerState) := do
  refuseIf (task.taskClass ∉ classLimits.map Prod.fst) (.domain "UNKNOWN_RESOURCE_CLASS")
  refuseIf (task.laneClass ∉ laneClasses) (.domain "UNKNOWN_LANE_CLASS")
  refuseIf (task.voiLowerBound ≤ 0 ∧
    task.laneClass ∉ qualityLanes) (.domain "NO_POSITIVE_INFORMATION_VALUE")
  actor.requires .task
  match state.tasks.find? fun row => row.campaignId = task.campaignId ∧ row.semantic = task.semantic with
  | some duplicate => return (duplicate.taskId, state)
  | none =>
    let campaign ← expect (state.findCampaign task.campaignId) (.domain "CAMPAIGN_UNAVAILABLE")
    refuseIf (campaign.horizonAt ≤ clock.reading) (.domain "CAMPAIGN_UNAVAILABLE")
    let state ← allocate state task campaign
    let state ← state.transition actor .task ("task:" ++ task.taskId)
      (taskRequest actor task.taskId 0 task.queued "TASK_QUEUED" []) (some "task.queued")
    let state ← insertTask state (task.row clock.start)
    let state ← task.dependencies.foldlM (insertDependency task) state
    return (task.taskId, state)

/-- `sorted(set(dependencies))`. -/
def sortedIds (ids : List String) : List String := ids.dedup.insertionSort (· ≤ ·)

def ClosesCycle (state : SchedulerState) (taskId dependency : String) : Prop :=
  taskId ∈ closure state.dependencies [dependency]

instance (state : SchedulerState) (taskId dependency : String) :
    Decidable (ClosesCycle state taskId dependency) :=
  inferInstanceAs (Decidable (_ ∈ _))

def dependencyKey (taskId dependency : String) : String := "dependency:" ++ taskId ++ ":" ++ dependency

/-- `add_dependency`. -/
def addDependency (state : SchedulerState) (actor : Identity) (taskId dependency : String) :
    Except ServiceError SchedulerState := do
  actor.requires .task
  refuseIf (ClosesCycle state taskId dependency) (.domain "INVALID_DEPENDENCY_DAG")
  let task ← expect (state.findTask taskId) (.domain "INVALID_DEPENDENCY_DAG")
  let target ← expect (state.findTask dependency) (.domain "INVALID_DEPENDENCY_DAG")
  refuseIf (task.campaignId ≠ target.campaignId ∨ task.status ≠ .queued) (.domain "INVALID_DEPENDENCY_DAG")
  let (version, current) ← expect (state.projection taskId) (.domain "TASK_PROJECTION_MISSING")
  let state ← state.transition actor .task (dependencyKey taskId dependency)
    (taskRequest actor taskId version
      { current with dependencies := sortedIds (current.dependencies ++ [dependency]) } "TASK_DEPENDENCY_ADDED" [])
    none
  return { state with dependencies := insertNew state.dependencies (taskId, dependency) }

def Lease.Live (instant : Time) (lease : Lease) : Prop :=
    lease.releasedAt = none ∧ instant < lease.expiresAt

instance (instant : Time) : DecidablePred (Lease.Live instant) :=
    fun _ => inferInstanceAs (Decidable (_ ∧ _))

def SchedulerState.running (state : SchedulerState) (instant : Time) (taskClass : String) : List Lease :=
  state.leases.filter fun lease => lease.Live instant ∧ lease.resourceClass = taskClass

def DependenciesCompleted (state : SchedulerState) (taskId : String) : Prop :=
  ∀ edge ∈ state.dependencies, edge.1 = taskId → ∀ task ∈ state.findTask edge.2, task.status = .completed

instance (state : SchedulerState) (taskId : String) : Decidable (DependenciesCompleted state taskId) :=
  inferInstanceAs (Decidable (∀ _ ∈ _, _))

def ParentPermits (state : SchedulerState) (row : TaskRow) : Prop :=
  row.parentTaskId = none ∨ row.independentIfParentFails = true ∨
    ∃ parentId ∈ row.parentTaskId, ∃ parent ∈ state.findTask parentId, parent.status ∉ failedStatuses

instance (state : SchedulerState) (row : TaskRow) : Decidable (ParentPermits state row) :=
  inferInstanceAs (Decidable (_ ∨ _ ∨ _))

/-- The condition of the query for candidates. -/
def Claimable (state : SchedulerState) (taskClass : String) (instant : Time) (row : TaskRow) : Prop :=
  (row.status = .queued ∨ row.status = .hibernating) ∧ row.availableAt ≤ instant ∧
    (∃ campaign ∈ state.findCampaign row.campaignId, instant < campaign.horizonAt) ∧
      row.taskClass = taskClass ∧
      DependenciesCompleted state row.taskId ∧ ParentPermits state row

instance (state : SchedulerState) (taskClass : String) (instant : Time) :
    DecidablePred (Claimable state taskClass instant) :=
  fun _ => inferInstanceAs (Decidable (_ ∧ _ ∧ _ ∧ _ ∧ _ ∧ _))

def SchedulerState.claimable (state : SchedulerState) (taskClass : String) (instant : Time) :
    List TaskRow :=
  state.tasks.filter (Claimable state taskClass instant)

/-- `ORDER BY t.created_at`; the rank orders tasks of one instant, as the database does. -/
def Before (rank : String → ℕ) (first second : TaskRow) : Prop :=
  toLex (first.createdAt, rank first.taskId) ≤ toLex (second.createdAt, rank second.taskId)

instance (rank : String → ℕ) : DecidableRel (Before rank) := fun _ _ => inferInstanceAs (Decidable (_ ≤ _))

/-- `LIMIT`. -/
def pageSize : ℕ := 100

def SchedulerState.candidates (state : SchedulerState) (taskClass : String) (instant : Time)
    (rank : String → ℕ) :
    List TaskRow :=
  ((state.claimable taskClass instant).insertionSort (Before rank)).take pageSize

def SchedulerState.lanes (state : SchedulerState) : List String :=
  state.runs.filterMap fun run => (state.findTask run.taskId).map TaskRow.laneClass

/-- Novelty has had less than its share of the runs. -/
def NoveltyDue (state : SchedulerState) : Prop :=
  (state.lanes.count "NOVELTY" : ℚ) < prec28.mul explorationFloor ((state.lanes.length + 1 : ℕ) : ℚ)

instance (state : SchedulerState) : Decidable (NoveltyDue state) := inferInstanceAs (Decidable (_ < _))

def inLane (laneClass : String) (tasks : List TaskRow) : List TaskRow :=
  tasks.filter fun task => task.laneClass = laneClass

/-- The candidates that are looked at first. -/
def protectedTasks (state : SchedulerState) (candidates : List TaskRow) : List TaskRow :=
  let novelty := if NoveltyDue state then inLane "NOVELTY" candidates else []
  if novelty ≠ [] then novelty
  else if state.lanes.count "REPLICATION" = 0 then inLane "REPLICATION" candidates
  else []

/-- What candidates are compared by. -/
def value (instant : Time) (task : TaskRow) : ℚ ×ₗ Duration ×ₗ ℚ :=
  toLex (prec28.div task.informationValue (prec28.add task.budgetUsd 1),
    toLex (instant - task.createdAt, task.novelty))

/-- `max(protected or candidates, key=...)`, the first of the largest. -/
def select (state : SchedulerState) (candidates : List TaskRow) (instant : Time) : Option TaskRow :=
  let preferred := protectedTasks state candidates
  (if preferred ≠ [] then preferred else candidates).argmax (value instant)

structure ClaimIds where
  runId : String
  leaseId : String
  fence : String

structure Claimed where
  task : TaskRow
  ids : ClaimIds

/-- `INSERT INTO active_task_runs`, and the lease. -/
def insertRun (state : SchedulerState) (run : Run) (lease : Lease) :
    Except ServiceError SchedulerState := do
  refuseIf ((state.findRun run.runId).isSome) (.constraint "run_id")
  refuseIf (∃ other ∈ state.leases, other.leaseId = lease.leaseId) (.constraint "lease_id")
  refuseIf (∃ other ∈ state.leases, other.fencingToken = lease.fencingToken) (.constraint "fencing_token")
  return { state with runs := state.runs ++ [run], leases := state.leases ++ [lease] }

def claimedRun (actor : Identity) (task : TaskRow) (ids : ClaimIds) (attempts : ℕ) : Run where
  runId := ids.runId
  taskId := task.taskId
  workerId := actor.principalId
  taskClass := task.taskClass
  status := .running
  expectedArtifactSchema := task.semantic.schema
  retryCount := attempts
  maxRetries := task.maxRetries
  timeoutSec := task.timeoutSec

def seconds (count : ℕ) : Duration := 1000000 * count

def claimedLease (actor : Identity) (task : TaskRow) (ids : ClaimIds) (instant : Time) : Lease where
  leaseId := ids.leaseId
  runId := ids.runId
  workerId := actor.principalId
  fencingToken := ids.fence
  expiresAt := instant + seconds task.timeoutSec
  releasedAt := none
  resourceClass := task.taskClass

def SchedulerState.attempts (state : SchedulerState) (taskId : String) : ℕ :=
  state.runs.countP fun run => run.taskId = taskId

/-- `claim`. -/
def claim (state : SchedulerState) (actor : Identity) (taskClass : String) (clock : Clock) (ids : ClaimIds)
    (rank : String → ℕ) : Except ServiceError (Option Claimed × SchedulerState) := do
  actor.requires .task
  refuseIf (actor.role ≠ .scheduler) (.domain "WORKER_AUTHORITY_REQUIRED")
  if classLimit taskClass ≤ (state.running clock.reading taskClass).length then return (none, state)
  else
    match select state (state.candidates taskClass clock.reading rank) clock.reading with
    | none => return (none, state)
    | some task =>
      let (version, current) ← expect (state.projection task.taskId) (.domain "TASK_PROJECTION_MISSING")
      let after ← state.transition actor .task ("run:" ++ ids.runId)
        (taskRequest actor task.taskId version { current with status := .running, runId := some ids.runId }
          "TASK_STARTED" []) none
      let after ← insertRun after (claimedRun actor task ids (state.attempts task.taskId))
        (claimedLease actor task ids clock.reading)
      return (some ⟨task, ids⟩, after.updateTask task.taskId fun row => { row with status := .running })

/-- The lease of the worker, neither released nor expired when the transaction started. -/
def Lease.HeldBy (actor : Identity) (runId fence : String) (clock : Clock) (lease : Lease) : Prop :=
  lease.runId = runId ∧ lease.fencingToken = fence ∧ lease.workerId = actor.principalId ∧
    lease.Live clock.start

instance (actor : Identity) (runId fence : String) (clock : Clock) :
    DecidablePred (Lease.HeldBy actor runId fence clock) :=
  fun _ => inferInstanceAs (Decidable (_ ∧ _ ∧ _ ∧ _))

/-- `heartbeat`: a lease that is held is found again. -/
def heartbeat (state : SchedulerState) (actor : Identity) (runId fence : String) (clock : Clock) :
    Except ServiceError SchedulerState := do
  refuseIf (¬∃ lease ∈ state.leases, lease.HeldBy actor runId fence clock) (.domain "STALE_LEASE")
  return state

/-- The worker reports a failure; an empty text is none. -/
def Failed (failure : Option String) : Prop := failure.getD "" ≠ ""

instance (failure : Option String) : Decidable (Failed failure) := inferInstanceAs (Decidable (_ ≠ _))

def checkArtifact (state : SchedulerState) (actor : Identity) (run : Run) (artifactId : Option ℕ)
    (failure : Option String) : Except ServiceError Unit :=
  if Failed failure then .ok ()
  else do
    let artifactId ← expect artifactId (.domain "EXPECTED_ARTIFACT_MISSING")
    let artifact ← state.store.artifact ArtifactContent.intact actor artifactId
    refuseIf (artifact.schemaName ≠ run.expectedArtifactSchema) (.domain "ARTIFACT_SCHEMA_MISMATCH")

def settledStatus (run : Run) (failure : Option String) : TaskStatus :=
  if ¬Failed failure then .completed
  else if run.maxRetries ≤ run.retryCount then .quarantined
  else .hibernating

def endedStatus (failure : Option String) : RunStatus := if ¬Failed failure then .completed else .failed

/-- `finish`. -/
def finish (state : SchedulerState) (actor : Identity) (runId fence : String) (artifactId : Option ℕ)
    (failure : Option String) (clock : Clock) : Except ServiceError (TaskStatus × SchedulerState) := do
  actor.requires .task
  refuseIf (¬∃ lease ∈ state.leases, lease.HeldBy actor runId fence clock) (.domain "STALE_LEASE")
  let run ← expect (state.findRun runId) (.domain "STALE_LEASE")
  checkArtifact state actor run artifactId failure
  let status := settledStatus run failure
  let (version, current) ← expect (state.projection run.taskId) (.domain "TASK_PROJECTION_MISSING")
  let after ← state.transition actor .task ("finish:" ++ runId)
    (taskRequest actor run.taskId version
      { current with status := status, failure := failure, artifactId := artifactId } "TASK_FINISHED"
      artifactId.toList) none
  let after := after.updateTask run.taskId fun row =>
    { row with status := status, availableAt := clock.start + seconds run.timeoutSec }
  return (status, after.closeRun runId (endedStatus failure) clock.start)

def SchedulerState.expiredRuns (state : SchedulerState) (clock : Clock) : List Run :=
  (state.leases.filter fun lease => lease.releasedAt = none ∧ lease.expiresAt ≤ clock.start).filterMap
    fun lease => state.findRun lease.runId

/-- One round of the loop of `recover`. -/
def expireRun (actor : Identity) (clock : Clock) (state : SchedulerState) (run : Run) :
    Except ServiceError SchedulerState := do
  let (version, current) ← expect (state.projection run.taskId) (.domain "TASK_PROJECTION_MISSING")
  let status : TaskStatus := if run.maxRetries ≤ run.retryCount then .quarantined else .queued
  let after ← state.transition actor .task ("expire:" ++ run.runId)
    (taskRequest actor run.taskId version { current with status := status, failure := some "LEASE_EXPIRED" }
      "LEASE_EXPIRED" []) none
  let after := after.updateTask run.taskId fun row => { row with status := status }
  return after.closeRun run.runId .expired clock.start

/-- `recover`: the number of runs that have expired. -/
def recover (state : SchedulerState) (actor : Identity) (clock : Clock) :
    Except ServiceError (ℕ × SchedulerState) := do
  actor.requires .task
  let runs := state.expiredRuns clock
  let state ← runs.foldlM (expireRun actor clock) state
  return (runs.length, state)

inductive SchedulerRequest where
  | campaign (spec : Campaign)
  | enqueue (task : Task)
  | addDependency (taskId dependency : String)
  | claim (taskClass : String) (ids : ClaimIds) (rank : String → ℕ)
  | heartbeat (runId fence : String)
  | finish (runId fence : String) (artifactId : Option ℕ) (failure : Option String)
  | recover
  | putArtifact (content : ArtifactContent) (schemaName : String) (classification : StoreClassification)
      (policyVersion : String)
  | transition (capability : Capability) (operationKey : String) (request : SchedulerTransition)
      (topic : Option String)

structure SchedulerCall where
  actor : Identity
  clock : Clock
  request : SchedulerRequest

inductive SchedulerAnswer where
  | done
  | named (id : String)
  | claimed (claimed : Option Claimed)
  | finished (status : TaskStatus)
  | recovered (count : ℕ)

def handle : Handler SchedulerState SchedulerCall ServiceError SchedulerAnswer
  | state, ⟨actor, clock, .campaign spec⟩ => do
    let (campaignId, after) ← declareCampaign state actor spec clock
    return (.named campaignId, after)
  | state, ⟨actor, clock, .enqueue task⟩ => do
    let (taskId, after) ← enqueue state actor task clock
    return (.named taskId, after)
  | state, ⟨actor, _, .addDependency taskId dependency⟩ => do
    let after ← addDependency state actor taskId dependency
    return (.done, after)
  | state, ⟨actor, clock, .claim taskClass ids rank⟩ => do
    let (claimed, after) ← claim state actor taskClass clock ids rank
    return (.claimed claimed, after)
  | state, ⟨actor, clock, .heartbeat runId fence⟩ => do
    let after ← heartbeat state actor runId fence clock
    return (.done, after)
  | state, ⟨actor, clock, .finish runId fence artifactId failure⟩ => do
    let (status, after) ← finish state actor runId fence artifactId failure clock
    return (.finished status, after)
  | state, ⟨actor, clock, .recover⟩ => do
    let (count, after) ← recover state actor clock
    return (.recovered count, after)
  | state, ⟨actor, _, .putArtifact content schemaName classification policyVersion⟩ => do
    let (_, store) ← state.store.putArtifact actor content schemaName classification policyVersion
    return (.done, { state with store })
  | state, ⟨actor, _, .transition capability operationKey request topic⟩ => do
    refuseIf (request.kind ∈ ["task", "campaign"]) (.constraint "aggregate_type")
    let after ← state.transition actor capability operationKey request topic
    return (.done, after)

def history (calls : List SchedulerCall) : SchedulerState := run handle .empty calls

end Liki.Scheduler
