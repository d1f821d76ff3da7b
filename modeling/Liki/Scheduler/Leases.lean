import Liki.Scheduler.Dependencies

/-! Leases. A run whose lease is not released is the last one of its task, and its task is running;
so no task has two of them, a finished task stays finished, and the attempts are counted by the
runs. The limit of a class is kept because the clock is read behind the lock: what was live at an
earlier reading is live at a later one or not at all. -/
namespace Liki.Scheduler
open Checks CallSystem KeyedRows List Nat TaskRow

variable {tasks : List TaskRow} {runs : List Run} {leases : List Lease} {run other : Run}
  {status : TaskStatus}

def Running (runs : List Run) (leases : List Lease) (run : Run) : Prop :=
  run ∈ runs ∧ ∃ lease ∈ leases, lease.runId = run.runId ∧ lease.releasedAt = none

def attemptsOf (runs : List Run) (taskId : String) : ℕ := runs.countP fun run => run.taskId = taskId

def completions (runs : List Run) (taskId : String) : ℕ :=
  runs.countP fun run => run.taskId = taskId ∧ run.status = .completed

def TaskStatus.Waits (status : TaskStatus) : Prop := status = .queued ∨ status = .hibernating

theorem TaskStatus.Waits.unsettled (waits : status.Waits) :
    status ≠ .running ∧ status ≠ .completed := by
  rcases waits with rfl | rfl
  · exact ⟨nofun, nofun⟩
  · exact ⟨nofun, nofun⟩

structure Current (tasks : List TaskRow) (runs : List Run) (run : Run) : Prop where
  running : run.status = .running
  last : run.retryCount + 1 = attemptsOf runs run.taskId
  task : ∃ row ∈ tasks, row.taskId = run.taskId ∧ row.status = .running ∧ row.maxRetries = run.maxRetries

structure Leased (tasks : List TaskRow) (runs : List Run) (leases : List Lease) : Prop where
  paired : leases.map Lease.runId = runs.map Run.runId
  distinct : KeyedRows.Distinct Run.runId runs
  tokens : KeyedRows.Distinct Lease.fencingToken leases
  owned : ∀ run ∈ runs, ∃ row ∈ tasks, row.taskId = run.taskId
  current : ∀ run, Running runs leases run → Current tasks runs run
  exclusive : ∀ first second, Running runs leases first → Running runs leases second →
    first.taskId = second.taskId → first = second
  attempts : ∀ row ∈ tasks, attemptsOf runs row.taskId ≤ row.maxRetries + 1 ∧
    (row.status.Waits → attemptsOf runs row.taskId ≤ row.maxRetries)
  completed : ∀ row ∈ tasks, completions runs row.taskId ≤ 1 ∧
    (row.status ≠ .completed → completions runs row.taskId = 0)

theorem Leased.map (leased : Leased tasks runs leases) {change : TaskRow → TaskRow}
    (ids : ∀ row, (change row).taskId = row.taskId) (statuses : ∀ row, (change row).status = row.status)
    (limits : ∀ row, (change row).maxRetries = row.maxRetries) : Leased (tasks.map change) runs leases where
  paired := leased.paired
  distinct := leased.distinct
  tokens := leased.tokens
  owned := by
    intro run member
    obtain ⟨row, held, same⟩ := leased.owned run member
    exact ⟨change row, mem_map_of_mem held, (ids row).trans same⟩
  current := by
    intro run running
    obtain ⟨status, last, row, held, same, started, limit⟩ := leased.current run running
    exact ⟨status, last, change row, mem_map_of_mem held, (ids row).trans same,
      (statuses row).trans started,
      (limits row).trans limit⟩
  exclusive := leased.exclusive
  attempts := by
    intro row member
    obtain ⟨old, held, rfl⟩ := mem_map.mp member
    rw [ids, statuses, limits]
    exact leased.attempts old held
  completed := by
    intro row member
    obtain ⟨old, held, rfl⟩ := mem_map.mp member
    rw [ids, statuses]
    exact leased.completed old held

theorem Leased.untried (leased : Leased tasks runs leases) {taskId : String}
    (fresh : KeyedRows.find TaskRow.taskId taskId tasks = none) :
    attemptsOf runs taskId = 0 ∧ completions runs taskId = 0 := by
  have none : ∀ run ∈ runs, run.taskId ≠ taskId := by
    intro run member same
    obtain ⟨row, held, named⟩ := leased.owned run member
    exact find_none.mp fresh row held (named.trans same)
  constructor
  · refine countP_eq_zero.mpr fun run member => ?_
    simpa using none run member
  · refine countP_eq_zero.mpr fun run member => ?_
    simp [none run member]

variable {row : TaskRow} {lease : Lease}

theorem Leased.append (leased : Leased tasks runs leases)
    (fresh : KeyedRows.find TaskRow.taskId row.taskId tasks = none) : Leased
      (tasks ++ [row]) runs leases where
  paired := leased.paired
  distinct := leased.distinct
  tokens := leased.tokens
  owned := by
    intro run member
    obtain ⟨other, held, same⟩ := leased.owned run member
    exact ⟨other, mem_append_left _ held, same⟩
  current := by
    intro run running
    obtain ⟨status, last, other, held, rest⟩ := leased.current run running
    exact ⟨status, last, other, mem_append_left _ held, rest⟩
  exclusive := leased.exclusive
  attempts := by
    intro other member
    rcases mem_added member with held | new
    · exact leased.attempts other held
    · rw [new, (leased.untried fresh).1]
      exact ⟨zero_le _, fun _ => zero_le _⟩
  completed := by
    intro other member
    rcases mem_added member with held | new
    · exact leased.completed other held
    · rw [new, (leased.untried fresh).2]
      exact ⟨zero_le _, fun _ => rfl⟩

theorem attemptsOf_append (taskId : String) :
    attemptsOf (runs ++ [run]) taskId = attemptsOf runs taskId + if run.taskId = taskId then 1 else 0 := by
  unfold attemptsOf
  rw [countP_append, countP_singleton]
  simp only [decide_eq_true_eq]

theorem completions_append (unfinished : run.status ≠ .completed) (taskId : String) :
    completions (runs ++ [run]) taskId = completions runs taskId := by
  unfold completions
  rw [countP_append, countP_singleton, if_neg (by simp [unfinished]), add_zero]

theorem running_start (fresh : KeyedRows.find Run.runId run.runId runs = none)
    (paired : lease.runId = run.runId) (running : Running (runs ++ [run]) (leases ++ [lease]) other) :
    Running runs leases other ∨ other = run := by
  obtain ⟨member, held, there, same, unreleased⟩ := running
  rcases mem_append.mp member with old | new
  · rcases mem_append.mp there with older | newest
    · exact .inl ⟨old, held, older, same, unreleased⟩
    · rw [mem_singleton.mp newest, paired] at same
      exact absurd same.symm (find_none.mp fresh other old)
  · exact .inr (mem_singleton.mp new)

variable {task : TaskRow} {ended : RunStatus} {instant : Time}

theorem eq_of_taskId (distinct : KeyedRows.Distinct taskId tasks) (held : row ∈ tasks)
    (there : task ∈ tasks) (same : row.taskId = task.taskId) : row = task :=
  inj_on_of_nodup_map distinct held there same

theorem Leased.start (leased : Leased tasks runs leases)
    (distinct : KeyedRows.Distinct taskId tasks) (member : task ∈ tasks)
    (waits : task.status.Waits) (fresh : KeyedRows.find Run.runId run.runId runs = none)
    (unused : KeyedRows.find Lease.fencingToken lease.fencingToken leases = none)
    (paired : lease.runId = run.runId) (owner : run.taskId = task.taskId)
    (started : run.status = .running) (last : run.retryCount = attemptsOf runs task.taskId)
    (limit : run.maxRetries = task.maxRetries) :
    Leased (KeyedRows.update taskId task.taskId (fun row => { row with status := .running }) tasks)
      (runs ++ [run]) (leases ++ [lease]) := by
  -- a running run is of another task, since this one waits
  have apart : ∀ other, Running runs leases other → other.taskId ≠ task.taskId := by
    intro other running same
    obtain ⟨-, -, row, held, named, status, -⟩ := leased.current other running
    have only := eq_of_taskId distinct held member (named.trans same)
    exact waits.unsettled.1 (only ▸ status)
  have unfinished : run.status ≠ .completed := by
    rw [started]
    exact nofun
  refine ⟨?_, distinct_insert leased.distinct fresh,
    distinct_insert leased.tokens unused, ?_, ?_,
    ?_, ?_, ?_⟩
  · rw [map_append, map_append, leased.paired, map_singleton, map_singleton, paired]
  · intro other held
    have known : ∃ row ∈ tasks, row.taskId = other.taskId := by
      rcases mem_added held with old | new
      · exact leased.owned other old
      · exact ⟨task, member, by rw [new, owner]⟩
    obtain ⟨row, there, same⟩ := known
    refine ⟨_, mem_map_of_mem there, ?_⟩
    split
    · exact same
    · exact same
  · intro other running
    rcases running_start fresh paired running with old | rfl
    · obtain ⟨status, attempts, row, held, same, rest⟩ := leased.current other old
      have differ := apart other old
      refine ⟨status, ?_, row, mem_update_of_mem held (same.trans_ne differ), same, rest⟩
      rw [attemptsOf_append, if_neg (owner.trans_ne differ.symm), attempts, add_zero]
    · refine ⟨started, ?_, { task with status := .running }, ?_, owner.symm, rfl, limit.symm⟩
      · rw [attemptsOf_append, if_pos rfl, last, owner]
      · exact mem_map.mpr ⟨task, member, if_pos rfl⟩
  · intro first second one two same
    rcases running_start fresh paired one with old | rfl
    · rcases running_start fresh paired two with older | rfl
      · exact leased.exclusive first second old older same
      · exact absurd (same.trans owner) (apart first old)
    · rcases running_start fresh paired two with older | rfl
      · exact absurd (same.symm.trans owner) (apart second older)
      · rfl
  · intro row there
    rcases mem_update there with ⟨old, held, same, rfl⟩ | ⟨held, differ⟩
    · have only := eq_of_taskId distinct held member same
      subst only
      have tried := (leased.attempts old held).2 waits
      refine ⟨?_, fun waiting => absurd rfl waiting.unsettled.1⟩
      rw [attemptsOf_append, if_pos owner]
      exact succ_le_succ tried
    · rw [attemptsOf_append, if_neg (owner.trans_ne differ.symm)]
      exact leased.attempts row held
  · intro row there
    rw [completions_append unfinished]
    rcases mem_update there with ⟨old, held, same, rfl⟩ | ⟨held, _⟩
    · have only := eq_of_taskId distinct held member same
      subst only
      have none : completions runs old.taskId = 0 := (leased.completed old held).2 waits.unsettled.2
      exact ⟨none.trans_le (zero_le _), fun _ => none⟩
    · exact leased.completed row held

def Ends (run : Run) (status : TaskStatus) (ended : RunStatus) : Prop :=
  (status = .completed ∧ ended = .completed) ∨ (Retried run status ∧ ended ≠ .completed)

theorem Settled.ends (settled : Settled run status ended) : Ends run status ended := by
  rcases settled with completed | ⟨retried, rfl⟩
  · exact .inl completed
  · exact .inr ⟨retried, nofun⟩

def endRun (run : Run) (ended : RunStatus) (runs : List Run) : List Run :=
  KeyedRows.update Run.runId run.runId (fun run => { run with status := ended }) runs

def release (run : Run) (instant : Time) (leases : List Lease) : List Lease :=
  KeyedRows.update Lease.runId run.runId (fun lease => { lease with releasedAt := some instant }) leases

theorem endRun_ids (ended : RunStatus) : (endRun run ended runs).map Run.runId = runs.map Run.runId := by
  refine map_update Run.runId fun _ _ => ?_
  rfl

theorem release_ids {Value : Type} {column : Lease → Value} (instant : Time)
    (kept : ∀ lease : Lease, column { lease with releasedAt := some instant } = column lease) :
    (release run instant leases).map column = leases.map column :=
  map_update column fun lease _ => kept lease

theorem attemptsOf_endRun (ended : RunStatus) (taskId : String) :
    attemptsOf (endRun run ended runs) taskId = attemptsOf runs taskId := by
  unfold attemptsOf endRun KeyedRows.update
  rw [countP_map]
  refine countP_congr fun other _ => ?_
  rw [Function.comp_apply]
  split
  · exact Iff.rfl
  · exact Iff.rfl

theorem running_end (running : Running (endRun run ended runs) (release run instant leases) other) :
    Running runs leases other ∧ other.runId ≠ run.runId := by
  obtain ⟨member, lease, there, same, unreleased⟩ := running
  rcases mem_update there with ⟨old, held, named, rfl⟩ | ⟨held, differ⟩
  · cases unreleased
  · rw [same] at differ
    rcases mem_update member with ⟨_, -, named, rfl⟩ | ⟨kept, -⟩
    · exact absurd named differ
    · exact ⟨⟨kept, lease, held, same, unreleased⟩, differ⟩

theorem completions_endRun (distinct : KeyedRows.Distinct Run.runId runs) (member : run ∈ runs)
    (running : run.status = .running) (ended : RunStatus) (taskId : String) :
    completions (endRun run ended runs) taskId =
      completions runs taskId + if run.taskId = taskId ∧ ended = .completed then 1 else 0 := by
  have counted : completions (endRun run ended runs) taskId + _ = completions runs taskId + _ :=
    countP_update (fun run => decide (run.taskId = taskId ∧ run.status = .completed)) distinct
      (find_of_mem distinct member)
  rw [running] at counted
  simpa using counted

theorem Leased.close (leased : Leased tasks runs leases)
    (distinct : KeyedRows.Distinct taskId tasks) (running : Running runs leases run)
    (ends : Ends run status ended) (available : Time → Time) (instant : Time) :
    Leased (KeyedRows.update taskId run.taskId
      (fun row => { row with status := status, availableAt := available row.availableAt }) tasks)
      (endRun run ended runs) (release run instant leases) := by
  obtain ⟨started, last, _, member, named, before, limit⟩ := leased.current run running
  have apart : ∀ other, Running runs leases other → other.runId ≠ run.runId → other.taskId ≠ run.taskId :=
    fun other still differ same => differ
      (congrArg Run.runId (leased.exclusive other run still running same))
  refine ⟨?_, ?_, ?_, ?_, ?_, ?_, ?_, ?_⟩
  · rw [endRun_ids, release_ids instant fun _ => rfl]
    exact leased.paired
  · rw [KeyedRows.Distinct, endRun_ids]
    exact leased.distinct
  · rw [KeyedRows.Distinct, release_ids instant fun _ => rfl]
    exact leased.tokens
  · intro other held
    have known : ∃ row ∈ tasks, row.taskId = other.taskId := by
      rcases mem_update held with ⟨old, there, -, rfl⟩ | ⟨there, -⟩
      · exact leased.owned old there
      · exact leased.owned other there
    obtain ⟨row, there, same⟩ := known
    refine ⟨_, mem_map_of_mem there, ?_⟩
    split
    · exact same
    · exact same
  · intro other still
    obtain ⟨earlier, differ⟩ := running_end still
    obtain ⟨status, attempts, row, held, same, rest⟩ := leased.current other earlier
    refine ⟨status, ?_, row, ?_, same, rest⟩
    · rw [attemptsOf_endRun, attempts]
    · exact mem_update_of_mem held (same.trans_ne (apart other earlier differ))
  · intro first second one two same
    exact leased.exclusive first second (running_end one).1 (running_end two).1 same
  · intro row there
    rw [attemptsOf_endRun]
    rcases mem_update there with ⟨old, held, same, rfl⟩ | ⟨held, -⟩
    · have only := eq_of_taskId distinct held member (same.trans named.symm)
      subst only
      refine ⟨(leased.attempts old held).1, fun waits => ?_⟩
      have remaining : run.retryCount < run.maxRetries := by
        rcases ends with ⟨rfl, -⟩ | ⟨⟨rfl, -⟩ | ⟨-, remaining⟩, -⟩
        · exact absurd rfl waits.unsettled.2
        · rcases waits with queued | hibernating
          · cases queued
          · cases hibernating
        · exact remaining
      rw [named, limit, ← last]
      exact remaining
    · exact leased.attempts row held
  · intro row there
    rw [completions_endRun leased.distinct running.1 started]
    rcases mem_update there with ⟨old, held, same, rfl⟩ | ⟨held, differ⟩
    · have only := eq_of_taskId distinct held member (same.trans named.symm)
      subst only
      have none : completions runs old.taskId = 0 := by
        refine (leased.completed old held).2 ?_
        rw [before]
        simp
      rcases ends with ⟨rfl, rfl⟩ | ⟨-, unfinished⟩
      · rw [none, if_pos ⟨named.symm, rfl⟩]
        exact ⟨le_rfl, fun differ => absurd rfl differ⟩
      · rw [none, if_neg fun both => unfinished both.2]
        exact ⟨zero_le _, fun _ => rfl⟩
    · rw [if_neg fun both => differ both.1.symm, add_zero]
      exact leased.completed row held

variable {state after allocated : SchedulerState}

structure Sound (state : SchedulerState) : Prop where
  budgeted : Budgeted state
  leased : Leased state.tasks state.runs state.leases

theorem Closes.leased (closes : Closes state run status ended instant after) (sound : Sound state)
    (running : Running state.runs state.leases run) (ends : Ends run status ended) : Sound after := by
  refine ⟨sound.budgeted.closes closes, ?_⟩
  obtain ⟨available, tasks⟩ := closes.tasks
  rw [tasks, closes.runs, closes.leases]
  exact sound.leased.close sound.budgeted.1.distinct running ends available instant

theorem Closes.running (closes : Closes state run status ended instant after)
    (running : Running state.runs state.leases other) (differ : other.runId ≠ run.runId) :
    Running after.runs after.leases other := by
  obtain ⟨member, lease, held, same, unreleased⟩ := running
  rw [closes.runs, closes.leases]
  exact ⟨mem_update_of_mem member differ, lease,
    mem_update_of_mem held (same.trans_ne differ), same, unreleased⟩

theorem ClosesAll.preserves {invariant : SchedulerState → Prop}
    (closes : ClosesAll instant state runs after) (sound : Sound state)
    (once : (runs.map Run.runId).Nodup)
    (running : ∀ run ∈ runs, Running state.runs state.leases run) (holds : invariant state)
    (step : ∀ {before run status between}, Sound before → Running before.runs before.leases run →
      Closes before run status .expired instant between → invariant before → invariant between) :
    Sound after ∧ invariant after := by
  induction closes with
  | nil => exact ⟨sound, holds⟩
  | cons retried closes _ ih =>
    obtain ⟨fresh, others⟩ := nodup_cons.mp once
    have first := running _ mem_cons_self
    have ends : Ends _ _ RunStatus.expired := .inr ⟨retried, nofun⟩
    refine ih (closes.leased sound first ends) others (fun other member => ?_)
      (step sound first closes holds)
    refine closes.running (running other (mem_cons_of_mem _ member)) fun same => fresh ?_
    exact same ▸ mem_map_of_mem member

theorem expiredRuns_running (clock : Clock) :
    ∀ run ∈ state.expiredRuns clock, Running state.runs state.leases run := by
  intro run member
  obtain ⟨lease, selected, found⟩ := mem_filterMap.mp member
  obtain ⟨held, expired⟩ := mem_filter.mp selected
  exact ⟨find_mem found, lease, held, (find_key found).symm,
    (of_decide_eq_true expired).1⟩

theorem runIds_sublist (leases : List Lease) :
    ((leases.filterMap fun lease => state.findRun lease.runId).map Run.runId).Sublist
      (leases.map Lease.runId) := by
  induction leases with
  | nil => exact List.Sublist.refl _
  | cons lease _ ih =>
    cases found : state.findRun lease.runId with
    | none =>
      rw [filterMap_cons, found]
      exact ih.cons _
    | some run =>
      have same : run.runId = lease.runId := find_key found
      rw [filterMap_cons, found, map_cons, map_cons, same]
      exact ih.cons_cons _

theorem expiredRuns_once (leased : Leased state.tasks state.runs state.leases) (clock : Clock) :
    ((state.expiredRuns clock).map Run.runId).Nodup := by
  have once : (state.leases.map Lease.runId).Nodup := leased.paired ▸ leased.distinct
  exact once.sublist ((runIds_sublist _).trans (filter_sublist.map _))

variable {clock : Clock}

variable {actor : Identity}

theorem running_of_held {runId fence : String}
    (held : ∃ lease ∈ state.leases, lease.HeldBy actor runId fence clock)
    (found : state.findRun runId = some run) : Running state.runs state.leases run := by
  obtain ⟨lease, member, named, -, -, unreleased, -⟩ := held
  exact ⟨find_mem found, lease, member, named.trans (find_key found).symm, unreleased⟩

theorem Enqueues.leased {task : Task} {campaign : CampaignRow}
    (enqueues : Enqueues state task clock campaign allocated after)
    (leased : Leased state.tasks state.runs state.leases) :
    Leased after.tasks after.runs after.leases := by
  have kept : Leased allocated.tasks state.runs state.leases := by
    have allocates := enqueues.allocates
    cases allocates with
    | child =>
      exact leased.map (fun row => by split <;> rfl)
        (fun row => by split <;> rfl) fun row => by split <;> rfl
    | root => exact leased
  rw [enqueues.tasks, enqueues.runs, enqueues.leases]
  exact kept.append enqueues.fresh

theorem Starts.leased {taskClass : String} {ids : ClaimIds} {rank : String → ℕ}
    (starts : Starts state actor clock taskClass ids rank task after) (sound : Sound state) :
    Leased after.tasks after.runs after.leases := by
  obtain ⟨member, claimable⟩ := select_claimable starts.selected
  rw [starts.tasks, starts.runs, starts.leases]
  exact sound.leased.start sound.budgeted.1.distinct member claimable.1 starts.fresh
    (find_none.mpr starts.unused) rfl rfl rfl rfl rfl

theorem Effect.sound {call : SchedulerCall} {answer : SchedulerAnswer}
    (effect : Effect state call answer after)
    (sound : Sound state) : Sound after := by
  refine ⟨effect.budgeted sound.budgeted, ?_⟩
  cases effect with
  | aside aside =>
    rw [aside.tasks, aside.runs, aside.leases]
    exact sound.leased
  | declared _ _ _ _ _ tasks _ runs leases =>
    rw [tasks, runs, leases]
    exact sound.leased
  | enqueued enqueues => exact enqueues.leased sound.leased
  | linked links =>
    rw [links.tasks, links.runs, links.leases]
    exact sound.leased
  | started starts => exact starts.leased sound
  | finished held found settled closes =>
    exact (closes.leased sound (running_of_held held found) settled.ends).leased
  | recovered closes =>
    have kept : Sound after ∧ True :=
      closes.preserves sound (expiredRuns_once sound.leased _)
        (expiredRuns_running _) trivial fun _ _ _ _ => trivial
    exact kept.1.leased

theorem empty_leased : Leased [] [] [] := by
  have idle : ∀ run, ¬Running [] [] run := fun run running => absurd running.1 not_mem_nil
  refine ⟨rfl, nodup_nil, nodup_nil, fun _ member => ?_, fun run running => ?_,
    fun first _ running => ?_,
    fun _ member => ?_, fun _ member => ?_⟩
  · exact absurd member not_mem_nil
  · exact absurd running (idle run)
  · exact absurd running (idle first)
  · exact absurd member not_mem_nil
  · exact absurd member not_mem_nil

theorem history_sound (calls : List SchedulerCall) : Sound (history calls) := by
  refine run_preserves Sound ⟨empty_budgeted, empty_leased⟩ (fun state call sound => ?_) calls
  exact next_of_answered Sound sound fun _ _ ok => (handle_effect ok).sound sound

end Liki.Scheduler
