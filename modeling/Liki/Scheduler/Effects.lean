import Liki.Scheduler.Service

/-! What the calls of the scheduler do to its tables. Every answered call leaves the tables,
declares a campaign, queues a task, adds a dependency, claims a task for one worker, or closes
runs; the event log only grows. -/
namespace Liki.Scheduler
open DecimalArithmetic Checks CallSystem AppendOnly Reachability List KeyedRows

variable {state after : SchedulerState} {actor : Identity} {clock : Clock} {task : Task}

/-- One step of the event log: nothing that concerns aggregates, or a transition, where those of
tasks have states of tasks. -/
inductive Logged (store : SchedulerStore) : SchedulerStore → Prop
  | stored {after : SchedulerStore} (events : after.events = store.events)
      (aggregates : after.aggregates = store.aggregates) : Logged store after
  | recorded {after : SchedulerStore} {operationKey : String} {request : SchedulerTransition}
      {topic : Option String} (recorded : store.Recorded operationKey request topic after)
      (typed : request.kind = "task" → ∃ current, request.state = .task current) : Logged store after

theorem Logged.refl (store : SchedulerStore) : Logged store store := .stored rfl rfl

variable {operationKey taskId : String} {topic : Option String} {request : SchedulerTransition}
  {store : SchedulerStore}

theorem transition_ok {capability : Capability}
    (ok : state.transition actor capability operationKey request topic = .ok after) :
    request.aggregateId ≠ "" ∧ ∃ store, state.store.Recorded operationKey request topic store ∧
      after = { state with store } := by
  simp only [SchedulerState.transition, bind_ok, guard_ok, pure_ok] at ok
  obtain ⟨-, -, -, store, recorded, rfl⟩ := ok
  exact ⟨Store.transition_named recorded, store, Store.transition_recorded recorded, rfl⟩

theorem logged_task {version : ℕ} {current : TaskState} {eventType : String} {artifactIds : List ℕ}
    {after : SchedulerStore}
    (recorded : store.Recorded operationKey
      (taskRequest actor taskId version current eventType artifactIds) topic
      after) : Logged store after :=
  .recorded recorded fun _ => ⟨current, rfl⟩

inductive Allocates (state : SchedulerState) (task : Task) (campaign : CampaignRow) : SchedulerState → Prop
  | child {parentId : String} {parent : TaskRow} (named : task.parent = some parentId)
      (found : state.findTask parentId = some parent) (sameCampaign : parent.campaignId = task.campaignId)
      (fits : parent.childAllocatedUsd + task.budgetUsd ≤ parent.budgetUsd) :
      Allocates state task campaign (state.updateTask parentId fun row =>
        { row with childAllocatedUsd := row.childAllocatedUsd + task.budgetUsd })
  | root (unnamed : task.parent = none)
      (fits : campaign.allocatedUsd + task.budgetUsd ≤ campaign.usdBudget) :
      Allocates state task campaign { state with
        campaigns := update CampaignRow.campaignId task.campaignId
          (fun row => { row with allocatedUsd := row.allocatedUsd + task.budgetUsd }) state.campaigns }

variable {campaign : CampaignRow}

theorem allocate_ok (ok : allocate state task campaign = .ok after) :
    Allocates state task campaign after := by
  unfold allocate at ok
  split at ok
  · rename_i parentId named
    simp only [bind_ok, expect_ok, guard_ok, pure_ok, not_or, not_not, not_lt] at ok
    obtain ⟨parent, found, ⟨same, -⟩, -, fits, rfl⟩ := ok
    exact .child named found same fits
  · rename_i unnamed
    simp only [bind_ok, guard_ok, pure_ok, not_lt] at ok
    obtain ⟨-, fits, rfl⟩ := ok
    exact .root unnamed fits

theorem insertDependencies_ok {dependencies : List String}
    (ok : dependencies.foldlM (insertDependency task) state = .ok after) :
    after = { state with dependencies := state.dependencies ++ dependencies.map fun target => (task.taskId, target) } ∧
      ∀ dependency ∈ dependencies, dependency ≠ task.taskId ∧
        ∃ target, state.findTask dependency = some target ∧ target.campaignId = task.campaignId := by
  induction dependencies generalizing state with
  | nil =>
    rw [foldlM_nil, pure_ok] at ok
    subst ok
    exact ⟨by simp, fun _ member => absurd member not_mem_nil⟩
  | cons _ _ ih =>
    simp only [foldlM_cons, bind_ok] at ok
    obtain ⟨_, inserted, ok⟩ := ok
    simp only [insertDependency, bind_ok, expect_ok, guard_ok, pure_ok, not_not, not_or] at inserted
    obtain ⟨target, found, same, ⟨differ, -⟩, rfl⟩ := inserted
    obtain ⟨rfl, others⟩ := ih ok
    refine ⟨by simp, fun dependency member => ?_⟩
    rcases mem_cons.mp member with rfl | later
    · exact ⟨Ne.symm differ, target, found, same⟩
    · exact others dependency later

structure Enqueues (state : SchedulerState) (task : Task) (clock : Clock) (campaign : CampaignRow)
    (allocated after : SchedulerState) : Prop where
  named : task.taskId ≠ ""
  found : state.findCampaign task.campaignId = some campaign
  allocates : Allocates state task campaign allocated
  fresh : allocated.findTask task.taskId = none
  parent : ∀ parentId ∈ task.parentTaskId, allocated.findTask parentId ≠ none
  logged : Logged state.store after.store
  recorded : ∃ event ∈ after.store.events, event.request.kind = "task" ∧
    event.request.aggregateId = task.taskId
  campaigns : after.campaigns = allocated.campaigns
  tasks : after.tasks = allocated.tasks ++ [task.row clock.start]
  dependencies : after.dependencies = state.dependencies ++ task.dependencies.map fun target =>
    (task.taskId, target)
  targets : ∀ dependency ∈ task.dependencies,
    ∃ target, allocated.findTask dependency = some target ∧ target.campaignId = task.campaignId
  runs : after.runs = state.runs
  leases : after.leases = state.leases

theorem recorded_event {after : SchedulerStore}
    (recorded : store.Recorded operationKey request topic after) :
    ∃ event ∈ after.events, event.request = request := by
  cases recorded with
  | replayed member _ same => exact ⟨_, member, same⟩
  | appended => exact ⟨⟨operationKey, request⟩,
      mem_append_right _ mem_cons_self, rfl⟩

theorem Allocates.frame (allocates : Allocates state task campaign after) :
    after.store = state.store ∧ after.dependencies = state.dependencies ∧ after.runs = state.runs ∧
      after.leases = state.leases := by
  cases allocates with
  | child | root => exact ⟨rfl, rfl, rfl, rfl⟩

theorem enqueue_ok (ok : enqueue state actor task clock = .ok (taskId, after)) :
    after = state ∨ ∃ campaign allocated, Enqueues state task clock campaign allocated after := by
  simp only [enqueue, bind_ok, guard_ok] at ok
  obtain ⟨-, -, -, -, -, ok⟩ := ok
  split at ok
  · rw [pure_ok, Prod.mk.injEq] at ok
    exact .inl ok.2.symm
  · simp only [bind_ok, guard_ok, expect_ok, pair_ok] at ok
    obtain ⟨campaign, found, -, allocated, allocates, _, recorded, _, entered, _,
      edges, -, rfl⟩ := ok
    have allocates := allocate_ok allocates
    obtain ⟨store, dependencies, runs, leases⟩ := allocates.frame
    obtain ⟨named, _, stored, rfl⟩ := transition_ok recorded
    simp only [insertTask, bind_ok, guard_ok, pure_ok] at entered
    obtain ⟨fresh, parent, rfl⟩ := entered
    obtain ⟨rfl, targets⟩ := insertDependencies_ok edges
    refine .inr ⟨campaign, allocated, ?_⟩
    exact
      { named := named
        found := found
        allocates := allocates
        fresh := Option.not_isSome_iff_eq_none.mp fresh
        parent := fun parentId member absent => parent ⟨parentId, member, absent⟩
        logged := store ▸ logged_task stored
        recorded := by
          obtain ⟨event, member, same⟩ := recorded_event stored
          exact ⟨event, member, by rw [same]; exact ⟨rfl, rfl⟩⟩
        campaigns := rfl
        tasks := rfl
        dependencies := congrArg (· ++ _) dependencies
        targets := by
          intro dependency member
          obtain ⟨differ, target, held, same⟩ := targets dependency member
          refine ⟨target, ?_, same⟩
          have old : find TaskRow.taskId dependency (allocated.tasks ++ [task.row clock.start]) =
              some target := held
          have other : (task.row clock.start).taskId ≠ dependency := Ne.symm differ
          rw [find_insert, if_neg other, Option.or_none] at old
          exact old
        runs := runs
        leases := leases }

structure Links (state : SchedulerState) (taskId dependency : String) (after : SchedulerState) : Prop where
  acyclic : ¬Reaches state.dependencies dependency taskId
  ends : ∃ task target, state.findTask taskId = some task ∧ state.findTask dependency = some target ∧
    task.campaignId = target.campaignId ∧ task.status = .queued
  logged : Logged state.store after.store
  dependencies : after.dependencies = insertNew state.dependencies (taskId, dependency)
  campaigns : after.campaigns = state.campaigns
  tasks : after.tasks = state.tasks
  runs : after.runs = state.runs
  leases : after.leases = state.leases

variable {dependency taskClass : String} {instant : Time} {row : TaskRow} {rank : String → ℕ}

theorem closesCycle_iff :
    ClosesCycle state taskId dependency ↔ Reaches state.dependencies dependency taskId := by
  rw [ClosesCycle, mem_closure]
  simp

theorem addDependency_ok (ok : addDependency state actor taskId dependency = .ok after) :
    Links state taskId dependency after := by
  simp only [addDependency, bind_ok, guard_ok, expect_ok, pure_ok, not_or, not_not, Prod.exists] at ok
  obtain ⟨-, -, acyclic, task, found, target, other, ⟨same, queued⟩, _, _, -, _,
    recorded, rfl⟩ := ok
  obtain ⟨-, _, stored, rfl⟩ := transition_ok recorded
  exact ⟨fun path => acyclic (closesCycle_iff.mpr path), ⟨task, target, found, other, same, queued⟩,
    logged_task stored, rfl, rfl, rfl, rfl, rfl⟩

theorem protectedTasks_subset (candidates : List TaskRow) :
    protectedTasks state candidates ⊆ candidates := by
  intro row member
  have lane : ∀ laneClass, row ∈ inLane laneClass candidates → row ∈ candidates :=
    fun _ held => (mem_filter.mp held).1
  simp only [protectedTasks] at member
  split_ifs at member
  · exact lane "NOVELTY" member
  · exact lane "REPLICATION" member
  · exact absurd member not_mem_nil
  · exact absurd member not_mem_nil
  · exact lane "REPLICATION" member
  · exact absurd member not_mem_nil

theorem select_mem {candidates : List TaskRow}
    (selected : select state candidates instant = some row) : row ∈ candidates := by
  have chosen := argmax_mem selected
  split at chosen
  · exact protectedTasks_subset candidates chosen
  · exact chosen

theorem select_claimable
    (selected : select state (state.candidates taskClass instant rank) instant = some row) :
    row ∈ state.tasks ∧ Claimable state taskClass instant row := by
  have member := mem_of_mem_take (select_mem selected)
  rw [mem_insertionSort] at member
  obtain ⟨held, claimable⟩ := mem_filter.mp member
  exact ⟨held, of_decide_eq_true claimable⟩

structure Starts (state : SchedulerState) (actor : Identity) (clock : Clock) (taskClass : String)
    (ids : ClaimIds)
    (rank : String → ℕ) (task : TaskRow) (after : SchedulerState) : Prop where
  within : (state.running clock.reading taskClass).length < classLimit taskClass
  selected : select state (state.candidates taskClass clock.reading rank) clock.reading = some task
  fresh : state.findRun ids.runId = none
  unused : ∀ lease ∈ state.leases, lease.fencingToken ≠ ids.fence
  logged : Logged state.store after.store
  campaigns : after.campaigns = state.campaigns
  dependencies : after.dependencies = state.dependencies
  tasks : after.tasks = update TaskRow.taskId task.taskId (fun row => { row with status := .running })
    state.tasks
  runs : after.runs = state.runs ++ [claimedRun actor task ids (state.attempts task.taskId)]
  leases : after.leases = state.leases ++ [claimedLease actor task ids clock.reading]

/-- A claim starts a run, or finds nothing to do. -/
theorem claim_ok (ok : claim state actor taskClass clock ids rank = .ok (claimed, after)) :
    (claimed = none ∧ after = state) ∨
      ∃ task, claimed = some ⟨task, ids⟩ ∧ Starts state actor clock taskClass ids rank task after := by
  simp only [claim, bind_ok, guard_ok] at ok
  obtain ⟨-, -, -, ok⟩ := ok
  split at ok
  · rw [pure_ok, Prod.mk.injEq] at ok
    exact .inl ⟨ok.1.symm, ok.2.symm⟩
  · rename_i within
    split at ok
    · rw [pure_ok, Prod.mk.injEq] at ok
      exact .inl ⟨ok.1.symm, ok.2.symm⟩
    · rename_i task selected
      simp only [bind_ok, expect_ok, pair_ok, Prod.exists] at ok
      obtain ⟨_, _, -, _, recorded, _, entered, rfl, rfl⟩ := ok
      obtain ⟨-, _, stored, rfl⟩ := transition_ok recorded
      simp only [insertRun, bind_ok, guard_ok, pure_ok] at entered
      obtain ⟨fresh, -, unused, rfl⟩ := entered
      exact .inr ⟨task, rfl, not_le.mp within, selected, Option.not_isSome_iff_eq_none.mp fresh,
        fun lease member same => unused ⟨lease, member, same⟩, logged_task stored, rfl, rfl, rfl, rfl, rfl⟩

structure Closes (state : SchedulerState) (run : Run) (status : TaskStatus) (ended : RunStatus)
    (instant : Time)
    (after : SchedulerState) : Prop where
  logged : Logged state.store after.store
  campaigns : after.campaigns = state.campaigns
  dependencies : after.dependencies = state.dependencies
  tasks : ∃ available : Time → Time, after.tasks = update TaskRow.taskId run.taskId
    (fun row => { row with status := status, availableAt := available row.availableAt }) state.tasks
  runs : after.runs = update Run.runId run.runId (fun run => { run with status := ended }) state.runs
  leases : after.leases = update Lease.runId run.runId
    (fun lease => { lease with releasedAt := some instant }) state.leases

/-- The status after a run without success: it is tried again as long as it may be. -/
def Retried (run : Run) (status : TaskStatus) : Prop :=
  (status = .quarantined ∧ run.maxRetries ≤ run.retryCount) ∨
    ((status = .hibernating ∨ status = .queued) ∧ run.retryCount < run.maxRetries)

def Settled (run : Run) (status : TaskStatus) (ended : RunStatus) : Prop :=
  (status = .completed ∧ ended = .completed) ∨ (Retried run status ∧ ended = .failed)

variable {fence runId : String}

theorem finish_ok {artifactId : Option ℕ} {failure : Option String} {status : TaskStatus}
    (ok : finish state actor runId fence artifactId failure clock = .ok (status, after)) :
    (∃ lease ∈ state.leases, lease.HeldBy actor runId fence clock) ∧
      ∃ run ended, state.findRun runId = some run ∧
      Settled run status ended ∧ Closes state run status ended clock.start after := by
  simp only [finish, bind_ok, guard_ok, expect_ok, pair_ok, not_not, Prod.exists] at ok
  obtain ⟨-, -, held, run, found, -, -, version, current, -, written, recorded, rfl, rfl⟩ := ok
  obtain ⟨-, store, stored, rfl⟩ := transition_ok recorded
  have named : run.runId = runId := find_key found
  subst named
  refine ⟨held, run, _, found, ?_, logged_task stored, rfl, rfl, ⟨fun _ => _, rfl⟩, rfl, rfl⟩
  unfold settledStatus endedStatus
  by_cases failed : Failed failure
  · rw [if_neg (not_not.mpr failed), if_neg (not_not.mpr failed)]
    refine .inr ⟨?_, rfl⟩
    split
    · rename_i exhausted
      exact .inl ⟨rfl, exhausted⟩
    · rename_i remaining
      exact .inr ⟨.inl rfl, not_le.mp remaining⟩
  · rw [if_pos failed, if_pos failed]
    exact .inl ⟨rfl, rfl⟩

theorem expireRun_ok {run : Run} (ok : expireRun actor clock state run = .ok after) :
    ∃ status, Retried run status ∧ Closes state run status .expired clock.start after := by
  simp only [expireRun, bind_ok, expect_ok, pure_ok, Prod.exists] at ok
  obtain ⟨version, current, -, written, recorded, rfl⟩ := ok
  obtain ⟨-, store, stored, rfl⟩ := transition_ok recorded
  refine ⟨_, ?_, logged_task stored, rfl, rfl, ⟨id, rfl⟩, rfl, rfl⟩
  unfold Retried
  split
  · rename_i exhausted
    exact .inl ⟨rfl, exhausted⟩
  · rename_i remaining
    exact .inr ⟨.inr rfl, not_le.mp remaining⟩

theorem heartbeat_ok (ok : heartbeat state actor runId fence clock = .ok after) :
    after = state := by
  simp only [heartbeat, bind_ok, guard_ok, pure_ok] at ok
  exact ok.2.symm

/-- The tables are as before. -/
structure Aside (state after : SchedulerState) : Prop where
  campaigns : after.campaigns = state.campaigns
  tasks : after.tasks = state.tasks
  dependencies : after.dependencies = state.dependencies
  runs : after.runs = state.runs
  leases : after.leases = state.leases

inductive ClosesAll (instant : Time) : SchedulerState → List Run → SchedulerState → Prop
  | nil (state : SchedulerState) : ClosesAll instant state [] state
  | cons {state between after : SchedulerState} {run : Run} {runs : List Run} {status : TaskStatus}
      (retried : Retried run status) (closes : Closes state run status .expired instant between)
      (rest : ClosesAll instant between runs after) : ClosesAll instant state (run :: runs) after

theorem expireRuns_ok {runs : List Run} (ok : runs.foldlM (expireRun actor clock) state = .ok after) :
    ClosesAll clock.start state runs after := by
  induction runs generalizing state with
  | nil =>
    rw [foldlM_nil, pure_ok] at ok
    exact ok ▸ .nil state
  | cons _ _ ih =>
    simp only [foldlM_cons, bind_ok] at ok
    obtain ⟨_, closed, ok⟩ := ok
    obtain ⟨_, retried, closes⟩ := expireRun_ok closed
    exact .cons retried closes (ih ok)

/-- What an answered call does, and what it answers. -/
inductive Effect (state : SchedulerState) : SchedulerCall → SchedulerAnswer → SchedulerState → Prop
  | aside {call : SchedulerCall} {answer : SchedulerAnswer} {after : SchedulerState}
      (aside : Aside state after)
      (logged : Logged state.store after.store) (unclaimed : ∀ claimed, answer ≠ .claimed (some claimed)) :
      Effect state call answer after
  | declared {call : SchedulerCall} {campaignId : String} {row : CampaignRow} {after : SchedulerState}
      (fresh : state.findCampaign row.campaignId = none) (unallocated : row.allocatedUsd = 0)
      (budget : 0 ≤ row.usdBudget) (logged : Logged state.store after.store)
      (campaigns : after.campaigns = state.campaigns ++ [row]) (tasks : after.tasks = state.tasks)
      (dependencies : after.dependencies = state.dependencies) (runs : after.runs = state.runs)
      (leases : after.leases = state.leases) : Effect state call (.named campaignId) after
  | enqueued {actor : Identity} {clock : Clock} {task : Task} {campaign : CampaignRow}
      {allocated after : SchedulerState} {taskId : String}
      (enqueues : Enqueues state task clock campaign allocated after) :
      Effect state ⟨actor, clock, .enqueue task⟩ (.named taskId) after
  | linked {actor : Identity} {clock : Clock} {taskId dependency : String} {after : SchedulerState}
      (links : Links state taskId dependency after) :
      Effect state ⟨actor, clock, .addDependency taskId dependency⟩ .done after
  | started {actor : Identity} {clock : Clock} {taskClass : String} {ids : ClaimIds} {rank : String → ℕ}
      {task : TaskRow} {after : SchedulerState}
      (starts : Starts state actor clock taskClass ids rank task after) :
      Effect state ⟨actor, clock, .claim taskClass ids rank⟩ (.claimed (some ⟨task, ids⟩)) after
  | finished {actor : Identity} {clock : Clock} {runId fence : String} {artifactId : Option ℕ}
      {failure : Option String} {run : Run} {status : TaskStatus} {ended : RunStatus}
      {after : SchedulerState}
      (held : ∃ lease ∈ state.leases, lease.HeldBy actor runId fence clock)
      (found : state.findRun runId = some run) (settled : Settled run status ended)
      (closes : Closes state run status ended clock.start after) :
      Effect state ⟨actor, clock, .finish runId fence artifactId failure⟩ (.finished status) after
  | recovered {actor : Identity} {clock : Clock} {after : SchedulerState}
      (closes : ClosesAll clock.start state (state.expiredRuns clock) after) :
      Effect state ⟨actor, clock, .recover⟩ (.recovered (state.expiredRuns clock).length) after

theorem Aside.refl (state : SchedulerState) : Aside state state := ⟨rfl, rfl, rfl, rfl, rfl⟩

variable {call : SchedulerCall}

theorem declareCampaign_ok {spec : Campaign} {campaignId : String}
    (ok : declareCampaign state actor spec clock = .ok (campaignId, after)) :
    Effect state call (.named campaignId) after := by
  simp only [declareCampaign, bind_ok, guard_ok, expect_ok, pair_ok] at ok
  obtain ⟨horizonAt, -, -, written, recorded, -, rfl⟩ := ok
  obtain ⟨-, store, stored, rfl⟩ := transition_ok recorded
  have logged : Logged state.store store := .recorded stored (by simp [campaignRequest])
  unfold insertCampaign
  split
  · exact .aside ⟨rfl, rfl, rfl, rfl, rfl⟩ logged fun _ => by simp
  · rename_i absent
    exact .declared (Option.not_isSome_iff_eq_none.mp absent) rfl spec.usdBudget_nonneg logged rfl rfl rfl rfl rfl

theorem handle_effect {answer : SchedulerAnswer} (ok : handle state call = .ok (answer, after)) :
    Effect state call answer after := by
  obtain ⟨_, _, request⟩ := call
  cases request with
  | campaign =>
    simp only [handle, bind_ok, pair_ok, Prod.exists] at ok
    obtain ⟨_, _, ok, rfl, rfl⟩ := ok
    exact declareCampaign_ok ok
  | enqueue =>
    simp only [handle, bind_ok, pair_ok, Prod.exists] at ok
    obtain ⟨_, _, ok, rfl, rfl⟩ := ok
    rcases enqueue_ok ok with rfl | ⟨_, _, enqueues⟩
    · exact .aside (.refl _) (.refl _) fun _ => by simp
    · exact .enqueued enqueues
  | addDependency =>
    simp only [handle, bind_ok, pair_ok] at ok
    obtain ⟨_, ok, rfl, rfl⟩ := ok
    exact .linked (addDependency_ok ok)
  | claim =>
    simp only [handle, bind_ok, pair_ok, Prod.exists] at ok
    obtain ⟨_, _, ok, rfl, rfl⟩ := ok
    rcases claim_ok ok with ⟨rfl, rfl⟩ | ⟨_, rfl, starts⟩
    · exact .aside (.refl _) (.refl _) fun _ => by simp
    · exact .started starts
  | heartbeat =>
    simp only [handle, bind_ok, pair_ok] at ok
    obtain ⟨_, ok, rfl, rfl⟩ := ok
    rw [heartbeat_ok ok]
    exact .aside (.refl _) (.refl _) fun _ => by simp
  | finish =>
    simp only [handle, bind_ok, pair_ok, Prod.exists] at ok
    obtain ⟨_, _, ok, rfl, rfl⟩ := ok
    obtain ⟨held, _, _, found, settled, closes⟩ := finish_ok ok
    exact .finished held found settled closes
  | recover =>
    simp only [handle, bind_ok, pair_ok, Prod.exists] at ok
    obtain ⟨_, _, ok, rfl, rfl⟩ := ok
    simp only [recover, bind_ok, pair_ok] at ok
    obtain ⟨-, -, _, closed, rfl, rfl⟩ := ok
    exact .recovered (expireRuns_ok closed)
  | putArtifact =>
    simp only [handle, bind_ok, pair_ok, Prod.exists] at ok
    obtain ⟨_, store, stored, rfl, rfl⟩ := ok
    obtain ⟨events, aggregates, -⟩ := Store.putArtifact_ok stored
    exact .aside ⟨rfl, rfl, rfl, rfl, rfl⟩ (.stored events aggregates) fun _ => by simp
  | transition =>
    simp only [handle, bind_ok, guard_ok, pair_ok] at ok
    obtain ⟨other, _, recorded, rfl, rfl⟩ := ok
    obtain ⟨-, _, stored, rfl⟩ := transition_ok recorded
    exact .aside ⟨rfl, rfl, rfl, rfl, rfl⟩
      (.recorded stored fun kind => absurd (by simp [kind]) other) fun _ => by simp

end Liki.Scheduler
