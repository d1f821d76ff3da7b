import Liki.Scheduler.Budgets

/-! Dependencies. A task that is queued depends on tasks that were there before, and an edge that
is added later must not lead back, so the graph has no cycle in any state. Whether an edge is
refused is decided by the graph and the rows of its ends, except that an operation key is used
once: the second request for one edge is refused whatever it asks for. -/
namespace Liki.Scheduler
open Checks CallSystem AppendOnly Reachability List KeyedRows Store

variable {state after allocated : SchedulerState} {task : Task} {campaign : CampaignRow} {clock : Clock}
  {instant : Time} {call : SchedulerCall} {change : TaskRow → TaskRow} {row : TaskRow}
  {runs : List Run}

def homes (tasks : List TaskRow) : List (String × String) :=
    tasks.map fun row => (row.taskId, row.campaignId)

theorem InPlace.homes (inPlace : InPlace change) (tasks : List TaskRow) :
    homes (tasks.map change) = homes tasks := by
  unfold Scheduler.homes
  rw [map_map]
  refine map_congr_left fun row _ => ?_
  rw [Function.comp_apply, inPlace.taskId, inPlace.campaignId]

theorem homes_update (inPlace : InPlace change) (taskId : String) (tasks : List TaskRow) :
    homes (update TaskRow.taskId taskId change tasks) = homes tasks :=
  (inPlace.updating taskId).homes tasks

theorem mem_homes_of_find {tasks : List TaskRow} {taskId : String}
    (found : find TaskRow.taskId taskId tasks = some row) :
      (taskId, row.campaignId) ∈ homes tasks := by
  rw [← find_key found]
  exact mem_map_of_mem (find_mem found)

theorem Allocates.homes (allocates : Allocates state task campaign after) :
    homes after.tasks = homes state.tasks := by
  cases allocates with
  | child => exact homes_update (charge_inPlace task.budgetUsd) _ _
  | root => rfl

theorem Enqueues.homes (enqueues : Enqueues state task clock campaign allocated after) :
    homes after.tasks = homes state.tasks ++ [(task.taskId, task.campaignId)] := by
  rw [enqueues.tasks, ← enqueues.allocates.homes]
  exact map_append

theorem Closes.homes {run : Run} (closes : Closes state run status ended instant after) :
    homes after.tasks = homes state.tasks := by
  obtain ⟨_, tasks⟩ := closes.tasks
  rw [tasks]
  refine homes_update ?_ _ _
  exact ⟨fun _ => rfl, fun _ => rfl, fun _ => rfl, fun _ => rfl⟩

theorem ClosesAll.frame (closes : ClosesAll instant state runs after) :
    homes after.tasks = homes state.tasks ∧ after.dependencies = state.dependencies := by
  induction closes with
  | nil => exact ⟨rfl, rfl⟩
  | cons _ closes _ ih => exact ⟨ih.1.trans closes.homes, ih.2.trans closes.dependencies⟩

theorem Effect.homes (effect : Effect state call answer after) :
    (homes after.tasks = homes state.tasks ∧ after.dependencies = state.dependencies) ∨
      (∃ clock task campaign allocated, Enqueues state task clock campaign allocated after) ∨
        ∃ taskId dependency, Links state taskId dependency after := by
  cases effect with
  | aside aside => exact .inl ⟨by rw [aside.tasks], aside.dependencies⟩
  | declared _ _ _ _ _ tasks dependencies =>
    exact .inl
      ⟨by rw [tasks], dependencies⟩
  | enqueued enqueues => exact .inr (.inl ⟨_, _, _, _, enqueues⟩)
  | linked links => exact .inr (.inr ⟨_, _, links⟩)
  | started starts =>
    refine .inl ⟨?_, starts.dependencies⟩
    rw [starts.tasks]
    refine homes_update ?_ _ _
    exact ⟨fun _ => rfl, fun _ => rfl, fun _ => rfl, fun _ => rfl⟩
  | finished _ _ _ closes => exact .inl ⟨closes.homes, closes.dependencies⟩
  | recovered closes => exact .inl closes.frame

structure Ordered (state : SchedulerState) : Prop where
  acyclic : Acyclic state.dependencies
  joins : ∀ edge ∈ state.dependencies, ∃ campaignId, (edge.1, campaignId) ∈ homes state.tasks ∧
    (edge.2, campaignId) ∈ homes state.tasks

theorem Ordered.enqueue (ordered : Ordered state)
    (enqueues : Enqueues state task clock campaign allocated after) :
    Ordered after := by
  have homes := enqueues.homes
  have absent : ∀ campaignId, (task.taskId, campaignId) ∉ Scheduler.homes state.tasks := by
    intro campaignId member
    rw [← enqueues.allocates.homes] at member
    obtain ⟨row, held, same⟩ := mem_map.mp member
    exact find_none.mp enqueues.fresh row held (congrArg Prod.fst same)
  refine ⟨?_, fun edge member => ?_⟩
  · rw [enqueues.dependencies]
    refine ordered.acyclic.append_fresh (fun edge member same => ?_) fun target member same => ?_
    · obtain ⟨campaignId, -, known⟩ := ordered.joins edge member
      rw [same] at known
      exact absent campaignId known
    · obtain ⟨row, found, -⟩ := enqueues.targets target member
      rw [same, enqueues.fresh] at found
      cases found
  · rw [homes]
    rw [enqueues.dependencies] at member
    rcases mem_append.mp member with held | new
    · obtain ⟨campaignId, first, second⟩ := ordered.joins edge held
      exact ⟨campaignId, mem_append_left _ first, mem_append_left _ second⟩
    · obtain ⟨target, named, rfl⟩ := mem_map.mp new
      obtain ⟨_, found, same⟩ := enqueues.targets target named
      have there := mem_homes_of_find found
      rw [enqueues.allocates.homes, same] at there
      exact ⟨task.campaignId, mem_append_right _ mem_cons_self, mem_append_left _ there⟩

theorem Ordered.link (ordered : Ordered state) {taskId dependency : String}
    (links : Links state taskId dependency after) : Ordered after := by
  obtain ⟨_, target, found, other, same, -⟩ := links.ends
  refine ⟨?_, fun edge member => ?_⟩
  · rw [links.dependencies]
    unfold insertNew
    split
    · exact ordered.acyclic
    · exact acyclic_append_one.mpr ⟨ordered.acyclic, links.acyclic⟩
  · rw [links.tasks]
    rw [links.dependencies, mem_insertNew] at member
    rcases member with held | rfl
    · exact ordered.joins edge held
    · exact ⟨target.campaignId, same ▸ mem_homes_of_find found, mem_homes_of_find other⟩

theorem Effect.ordered (effect : Effect state call answer after) (ordered : Ordered state) :
    Ordered after := by
  rcases effect.homes with ⟨tasks, dependencies⟩ | ⟨_, _, _, _, enqueues⟩ | ⟨_, _, links⟩
  · refine ⟨dependencies ▸ ordered.acyclic, fun edge member => ?_⟩
    rw [dependencies] at member
    rw [tasks]
    exact ordered.joins edge member
  · exact ordered.enqueue enqueues
  · exact ordered.link links

theorem history_ordered (calls : List SchedulerCall) : Ordered (history calls) := by
  refine run_preserves Ordered ⟨?_, ?_⟩ (fun state call ordered => ?_) calls
  · exact fun _ member => absurd member not_mem_nil
  · exact fun _ member => absurd member not_mem_nil
  · exact next_of_answered Ordered ordered fun _ _ ok => (handle_effect ok).ordered ordered

structure Journal (store : SchedulerStore) : Prop where
  versioned : store.Versioned
  typed : ∀ taskId aggregate, store.state "task" taskId = some aggregate →
    ∃ current, aggregate.state = .task current

/-- The log of a store has grown in order. -/
structure Extends (store after : SchedulerStore) : Prop where
  journal : Journal store → Journal after
  events : store.events ⊆ after.events

theorem Extends.refl (store : SchedulerStore) : Extends store store := ⟨id, List.Subset.refl _⟩

theorem Extends.trans (earlier : Extends first second) (later : Extends second third) :
    Extends first third :=
  ⟨later.journal ∘ earlier.journal, fun _ member => later.events (earlier.events member)⟩

theorem Logged.extends {store after : SchedulerStore} (logged : Logged store after) :
    Extends store after := by
  cases logged with
  | stored events aggregates =>
    refine ⟨fun journal => ⟨?_, ?_⟩, events ▸ List.Subset.refl _⟩
    · intro event member
      rw [events] at member
      rw [version, state, aggregates]
      exact journal.versioned event member
    · intro taskId aggregate found
      rw [state, aggregates] at found
      exact journal.typed taskId aggregate found
  | recorded recorded typed =>
    cases recorded with
    | replayed => exact .refl store
    | appended fresh current =>
      refine ⟨fun journal => ⟨journal.versioned.append _ _ current, ?_⟩, subset_append_left _ _⟩
      intro taskId aggregate found
      rw [state_append] at found
      split at found
      · rename_i same
        cases found
        exact typed same.1
      · exact journal.typed taskId aggregate found

theorem ClosesAll.extends (closes : ClosesAll instant state runs after) :
    Extends state.store after.store := by
  induction closes with
  | nil => exact .refl _
  | cons _ closes _ ih => exact closes.logged.extends.trans ih

theorem Effect.extends (effect : Effect state call answer after) :
    Extends state.store after.store := by
  cases effect with
  | aside _ logged => exact logged.extends
  | declared _ _ _ logged => exact logged.extends
  | enqueued enqueues => exact enqueues.logged.extends
  | linked links => exact links.logged.extends
  | started starts => exact starts.logged.extends
  | finished _ _ _ closes => exact closes.logged.extends
  | recovered closes => exact closes.extends

structure Projected (state : SchedulerState) : Prop where
  journal : Journal state.store
  recorded : ∀ home ∈ homes state.tasks, ∃ event ∈ state.store.events,
    event.request.kind = "task" ∧ event.request.aggregateId = home.1

theorem Effect.projected (effect : Effect state call answer after) (projected : Projected state) :
    Projected after := by
  have extended := effect.extends
  have known : ∀ home ∈ Scheduler.homes state.tasks, ∃ event ∈ after.store.events,
      event.request.kind = "task" ∧ event.request.aggregateId = home.1 := by
    intro home member
    obtain ⟨event, held, named⟩ := projected.recorded home member
    exact ⟨event, extended.events held, named⟩
  refine ⟨extended.journal projected.journal, fun home member => ?_⟩
  rcases effect.homes with ⟨tasks, -⟩ | ⟨_, _, _, _, enqueues⟩ | ⟨_, _, links⟩
  · exact known home (tasks ▸ member)
  · rw [enqueues.homes] at member
    rcases mem_added member with held | new
    · exact known home held
    · rw [new]
      exact enqueues.recorded
  · exact known home (links.tasks ▸ member)

theorem history_projected (calls : List SchedulerCall) : Projected (history calls) := by
  refine run_preserves Projected ⟨⟨versioned_empty, ?_⟩, ?_⟩ (fun state call projected => ?_) calls
  · intro taskId aggregate found
    cases found
  · exact fun _ member => absurd member not_mem_nil
  · exact next_of_answered Projected projected fun _ _ ok => (handle_effect ok).projected projected

theorem Projected.projection (projected : Projected state) {taskId : String}
    (found : state.findTask taskId = some row) :
    ∃ current, state.projection taskId = some (state.store.version "task" taskId, current) := by
  obtain ⟨event, member, kind, named⟩ := projected.recorded _ (mem_homes_of_find found)
  have behind := projected.journal.versioned event member
  rw [kind, named] at behind
  cases held : state.store.state "task" taskId with
  | none =>
    rw [version, held] at behind
    exact absurd behind (Nat.not_lt_zero _)
  | some aggregate =>
    obtain ⟨current, typed⟩ := projected.journal.typed taskId aggregate held
    refine ⟨current, ?_⟩
    rw [SchedulerState.projection, held, version, held]
    obtain ⟨_, _, _, _⟩ := aggregate
    subst typed
    rfl

/-- The edge may be added: it closes no cycle, and its ends are tasks of one campaign, the first of
which is queued. -/
structure Admissible (state : SchedulerState) (taskId dependency : String) : Prop where
  acyclic : Acyclic (state.dependencies ++ [(taskId, dependency)])
  ends : ∃ task target, state.findTask taskId = some task ∧ state.findTask dependency = some target ∧
    task.campaignId = target.campaignId ∧ task.status = .queued

def Refuses (state : SchedulerState) (actor : Identity) (taskId dependency : String) : Prop :=
  ∃ refusal, addDependency state actor taskId dependency = .error refusal

variable {actor : Identity} {taskId dependency : String}

theorem dependencyKey_ne : dependencyKey taskId dependency ≠ "" := by
  intro empty
  have length := congrArg String.length empty
  simp only [dependencyKey, String.length_append] at length
  have named : "dependency:".length = 11 := by decide
  have none : "".length = 0 := by decide
  omega

theorem permits_task (permitted : Capability.task ∈ actor.role.capabilities) :
    actor.requires .task = .ok () := by
  rw [Identity.requires, refuseIf_ok]
  exact not_not.mpr permitted

theorem transition_task (versioned : state.store.Versioned)
    (permitted : Capability.task ∈ actor.role.capabilities) (named : taskId ≠ "")
    (present : operationKey ≠ "") {version : ℕ}
    (latest : version = state.store.version "task" taskId) (current : TaskState)
    (eventType : String) (topic : Option String) :
    state.transition actor .task operationKey
      (taskRequest actor taskId version current eventType []) topic =
      if operationKey ∈ state.store.keys then .error (.domain "IDEMPOTENCY_CONFLICT")
      else .ok { state with
        store := state.store.append operationKey
          (taskRequest actor taskId version current eventType []) topic } := by
  unfold SchedulerState.transition
  rw [permits_task permitted, ok_bind, refuseIf_bind_of_not present,
    transition_at_current versioned permitted ⟨by simp [taskRequest], named, named,
      by simp [taskRequest, policyId]⟩
      latest rfl (by simp [taskRequest])]
  split <;> rfl

theorem addDependency_of_admissible (projected : Projected state)
    (named : ∀ row ∈ state.tasks, row.taskId ≠ "")
    (permitted : Capability.task ∈ actor.role.capabilities)
    (admissible : Admissible state taskId dependency) :
    Refuses state actor taskId dependency ↔ dependencyKey taskId dependency ∈ state.store.keys := by
  obtain ⟨task, target, found, other, same, queued⟩ := admissible.ends
  obtain ⟨current, projection⟩ := projected.projection found
  have clear : ¬ClosesCycle state taskId dependency :=
    fun closes => (acyclic_append_one.mp admissible.acyclic).2 (closesCycle_iff.mp closes)
  have present : taskId ≠ "" := find_key found ▸ named task (find_mem found)
  have joined : ¬(task.campaignId ≠ target.campaignId ∨ task.status ≠ .queued) := by
    rintro (differ | other)
    · exact differ same
    · exact other queued
  unfold Refuses addDependency
  rw [permits_task permitted, ok_bind, refuseIf_bind_of_not clear, found, expect, ok_bind, other,
    expect, ok_bind,
    refuseIf_bind_of_not joined, projection, expect, ok_bind]
  dsimp only
  rw [transition_task projected.journal.versioned permitted present dependencyKey_ne rfl]
  split
  · rename_i used
    exact ⟨fun _ => used, fun _ => ⟨_, rfl⟩⟩
  · rename_i fresh
    refine ⟨?_, fun used => absurd used fresh⟩
    rintro ⟨_, refused⟩
    cases refused

theorem refuses_of_inadmissible (ordered : Ordered state)
    (inadmissible : ¬Admissible state taskId dependency) :
    Refuses state actor taskId dependency := by
  cases answered : addDependency state actor taskId dependency with
  | error refusal => exact ⟨refusal, answered⟩
  | ok =>
    have links := addDependency_ok answered
    exact absurd ⟨acyclic_append_one.mpr ⟨ordered.acyclic, links.acyclic⟩, links.ends⟩ inadmissible

/-- After any calls the dependencies form no cycle and stay within a campaign, and an edge is refused
exactly when it would close a cycle or its ends do not permit it, if and only if it is to be refused
when its operation key has been used. -/
theorem dependencies_acyclic (calls : List SchedulerCall) :
    Acyclic (history calls).dependencies ∧
    (∀ edge ∈ (history calls).dependencies, ∃ task target, (history calls).findTask edge.1 = some task ∧
      (history calls).findTask edge.2 = some target ∧ task.campaignId = target.campaignId) ∧
    ∀ actor : Identity, Capability.task ∈ actor.role.capabilities → ∀ taskId dependency,
      ((Refuses (history calls) actor taskId dependency ↔ ¬Admissible (history calls) taskId dependency) ↔
        (dependencyKey taskId dependency ∈ (history calls).store.keys →
          ¬Admissible (history calls) taskId dependency)) := by
  have ordered := history_ordered calls
  have projected := history_projected calls
  have planted := (history_budgeted calls).1
  refine ⟨ordered.acyclic, fun edge member => ?_, fun actor permitted taskId dependency => ?_⟩
  · obtain ⟨_, first, second⟩ := ordered.joins edge member
    obtain ⟨task, held, same⟩ := mem_map.mp first
    obtain ⟨target, there, other⟩ := mem_map.mp second
    rw [Prod.mk.injEq] at same other
    refine ⟨task, target, ?_, ?_, same.2.trans other.2.symm⟩
    · exact same.1 ▸ find_of_mem planted.distinct held
    · exact other.1 ▸ find_of_mem planted.distinct there
  · by_cases admissible : Admissible (history calls) taskId dependency
    · rw [addDependency_of_admissible projected planted.named permitted admissible]
      exact ⟨fun exact used => exact.mp used, fun refused => ⟨refused, fun not => absurd admissible not⟩⟩
    · exact ⟨fun _ _ => admissible,
        fun _ => ⟨fun _ => admissible, fun _ => refuses_of_inadmissible ordered admissible⟩⟩

def sampleActor : Identity := ⟨"worker", .research⟩

def sampleCampaign : Campaign where
  campaignId := "c"
  purpose := "study"
  startRule := "now"
  stoppingRule := "budget"
  horizonAt := some 1000000000
  usdBudget := 10
  tokenBudget := 0
  computeSecondsBudget := 0
  statisticalBudget := 0
  usdBudget_nonneg := by decide

def sampleTask (taskId laneClass : String) : Task where
  taskId := taskId
  campaignId := "c"
  parentTaskId := none
  purpose := "study"
  expectedArtifactSchema := "report"
  taskClass := "cheap"
  laneClass := laneClass
  handler := "study"
  inputs := taskId
  budgetUsd := 0
  voiLowerBound := 1
  novelty := 0
  informationValue := 1
  maxRetries := 0
  timeoutSec := 60
  independentIfParentFails := false
  dependencies := []
  budgetUsd_nonneg := le_rfl
  timeoutSec_pos := by decide

def sampleCalls : List SchedulerCall :=
  [⟨sampleActor, ⟨0, 0⟩, .campaign sampleCampaign⟩,
    ⟨sampleActor, ⟨1, 1⟩, .enqueue (sampleTask "a" "EXPLOIT")⟩,
    ⟨sampleActor, ⟨2, 2⟩, .enqueue (sampleTask "b" "EXPLOIT")⟩,
    ⟨sampleActor, ⟨3, 3⟩, .addDependency "a" "b"⟩]

/-- The same edge is refused the second time, although nothing is wrong with it. -/
theorem repeated_dependency_refused :
    Admissible (history sampleCalls) "a" "b" ∧ Refuses (history sampleCalls) sampleActor "a" "b" := by
  have found : (history sampleCalls).findTask "a" = some
    ((sampleTask "a" "EXPLOIT").row 1) := by decide +kernel
  have other : (history sampleCalls).findTask "b" = some
    ((sampleTask "b" "EXPLOIT").row 2) := by decide +kernel
  have clear : ¬ClosesCycle (history sampleCalls) "a" "b" := by decide +kernel
  have used : dependencyKey "a" "b" ∈ (history sampleCalls).store.keys := by decide +kernel
  have admissible : Admissible (history sampleCalls) "a" "b" :=
    ⟨acyclic_append_one.mpr ⟨(history_ordered sampleCalls).acyclic,
      fun path => clear (closesCycle_iff.mpr path)⟩,
      ⟨_, _, found, other, rfl, rfl⟩⟩
  have named := (history_budgeted sampleCalls).1.named
  exact ⟨admissible, (addDependency_of_admissible (history_projected sampleCalls) named
    (by decide) admissible).mpr used⟩

end Liki.Scheduler
