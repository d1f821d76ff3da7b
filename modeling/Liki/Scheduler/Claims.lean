import Liki.Scheduler.Leases

/-! What workers may rely on over whole runs: a task is run by one of them at a time, no more often
than its retries permit, not before what it depends on has completed, and never again after it has
completed; and a class has no more live leases than its limit. -/
namespace Liki.Scheduler
open Checks CallSystem List KeyedRows SchedulerState

variable {state after : SchedulerState} {call : SchedulerCall} {answer : SchedulerAnswer} {taskId : String}
  {ended : RunStatus} {instant time : Time} {status : TaskStatus} {runs : List Run} {fence : String}
  {clock : Clock}

def openLeases (state : SchedulerState) (taskId : String) : List Lease :=
  state.leases.filter fun lease => lease.releasedAt = none ∧
    ∃ run ∈ state.findRun lease.runId, run.taskId = taskId

theorem length_le_one {Row : Type} {rows : List Row} (once : rows.Nodup)
    (same : ∀ first ∈ rows, ∀ second ∈ rows, first = second) :
    rows.length ≤ 1 := by
  rcases rows with _ | ⟨first, _ | ⟨second, _⟩⟩
  · exact Nat.zero_le _
  · exact le_rfl
  · have equal := same first mem_cons_self second (mem_cons_of_mem _ mem_cons_self)
    rw [equal] at once
    exact absurd mem_cons_self (nodup_cons.mp once).1

theorem Leased.openLeases_le (leased : Leased state.tasks state.runs state.leases) (taskId : String) :
    (openLeases state taskId).length ≤ 1 := by
  have once : (state.leases.map Lease.runId).Nodup := leased.paired ▸ leased.distinct
  have runs : ∀ lease ∈ openLeases state taskId, lease ∈ state.leases ∧ ∃ run,
      Running state.runs state.leases run ∧ run.runId = lease.runId ∧ run.taskId = taskId := by
    intro lease member
    obtain ⟨held, selected⟩ := mem_filter.mp member
    obtain ⟨unreleased, run, found, owner⟩ := of_decide_eq_true selected
    have named : run.runId = lease.runId := find_key found
    exact ⟨held, run, ⟨find_mem found, lease, held, named.symm, unreleased⟩, named, owner⟩
  refine length_le_one ((List.Nodup.of_map _ once).filter _) fun first one second two => ?_
  obtain ⟨held, run, running, named, owner⟩ := runs first one
  obtain ⟨there, other, also, known, task⟩ := runs second two
  have same := leased.exclusive run other running also (owner.trans task.symm)
  exact inj_on_of_nodup_map once held there (named.symm.trans (same ▸ known))

theorem running_antitone {earlier later : Time} (passes : earlier ≤ later) (taskClass : String) :
    (state.running later taskClass).length ≤ (state.running earlier taskClass).length := by
  unfold running
  rw [← countP_eq_length_filter, ← countP_eq_length_filter]
  refine countP_mono_left fun lease _ selected => ?_
  obtain ⟨⟨unreleased, live⟩, own⟩ := of_decide_eq_true selected
  exact decide_eq_true ⟨⟨unreleased, lt_of_le_of_lt passes live⟩, own⟩

theorem Closes.running_le {run : Run} (closes : Closes state run status ended instant after)
    (time : Time) (taskClass : String) :
    (after.running time taskClass).length ≤ (state.running time taskClass).length := by
  unfold SchedulerState.running
  rw [closes.leases, update, ← countP_eq_length_filter,
    ← countP_eq_length_filter, countP_map]
  refine countP_mono_left fun lease _ selected => ?_
  rw [Function.comp_apply] at selected
  split at selected
  · obtain ⟨⟨unreleased, -⟩, -⟩ := of_decide_eq_true selected
    cases unreleased
  · exact selected

theorem ClosesAll.running_le (closes : ClosesAll instant state runs after) (time : Time)
    (taskClass : String) :
    (after.running time taskClass).length ≤ (state.running time taskClass).length := by
  induction closes with
  | nil => exact le_rfl
  | cons _ closes _ ih => exact ih.trans (closes.running_le time taskClass)

/-- A claim adds a lease of its class, of which fewer than the limit were live. -/
theorem Starts.running_le (starts : Starts state actor clock claimedClass ids rank task after)
    (passes : clock.reading ≤ time) (taskClass : String)
    (within : (state.running time taskClass).length ≤ classLimit taskClass) :
    (after.running time taskClass).length ≤ classLimit taskClass := by
  obtain ⟨-, claimable⟩ := select_claimable starts.selected
  have own : task.taskClass = claimedClass := claimable.2.2.2.1
  have grows : (after.running time taskClass).length ≤
      (state.running time taskClass).length + if claimedClass = taskClass then 1 else 0 := by
    unfold running
    rw [starts.leases, filter_append, length_append]
    refine Nat.add_le_add_left ?_ _
    split
    · exact length_filter_le _ _
    · rename_i differ
      have none : [claimedLease actor task ids clock.reading].filter (fun lease =>
          decide (lease.Live time ∧ lease.resourceClass = taskClass)) = [] := by
        refine filter_eq_nil_iff.mpr fun lease member selected => ?_
        rw [mem_singleton.mp member] at selected
        exact differ (own.symm.trans (of_decide_eq_true selected).2)
      rw [none, length_nil]
  by_cases same : claimedClass = taskClass
  · rw [if_pos same] at grows
    have fewer : (state.running time taskClass).length < classLimit taskClass :=
      lt_of_le_of_lt (running_antitone passes taskClass) (same ▸ starts.within)
    omega
  · rw [if_neg same] at grows
    omega

theorem Effect.within (effect : Effect state call answer after) (passes : call.clock.reading ≤ time)
    (taskClass : String) (within : (state.running time taskClass).length ≤ classLimit taskClass) :
    (after.running time taskClass).length ≤ classLimit taskClass := by
  have same : after.leases = state.leases →
    (after.running time taskClass).length ≤ classLimit taskClass := by
    intro leases
    rw [running, leases]
    exact within
  cases effect with
  | aside aside => exact same aside.leases
  | declared _ _ _ _ _ _ _ _ leases => exact same leases
  | enqueued enqueues => exact same enqueues.leases
  | linked links => exact same links.leases
  | started starts => exact starts.running_le passes taskClass within
  | finished _ _ _ closes => exact (closes.running_le time taskClass).trans within
  | recovered closes => exact (closes.running_le time taskClass).trans within

/-- The clock that is read behind the lock does not go back. -/
def ReadInOrder (calls : List SchedulerCall) : Prop :=
  calls.Pairwise fun first second => first.clock.reading ≤ second.clock.reading

theorem history_within (ordered : ReadInOrder calls)
    (passes : ∀ call ∈ calls, call.clock.reading ≤ time) (taskClass : String) :
    ((history calls).running time taskClass).length ≤ classLimit taskClass := by
  induction calls using reverseRecOn generalizing time with
  | nil => exact Nat.zero_le _
  | append_singleton calls call ih =>
    obtain ⟨earlier, -, -⟩ := pairwise_append.mp ordered
    have last : call.clock.reading ≤ time := passes call (mem_append_right _ mem_cons_self)
    have before : ((history calls).running time taskClass).length ≤ classLimit taskClass :=
      ih earlier fun other member => passes other (mem_append_left _ member)
    rw [history, run_append]
    exact next_of_answered
      (fun state => (state.running time taskClass).length ≤ classLimit taskClass) before
      fun _ _ ok => (handle_effect ok).within last taskClass before

/-- The reply hands out the task. -/
def claimsTask (taskId : String) : Except ServiceError SchedulerAnswer → Bool
  | .ok (.claimed (some claimed)) => claimed.task.taskId = taskId
  | _ => false

/-- How often a task has been handed out. -/
def claimsOf (calls : List SchedulerCall) (taskId : String) : ℕ :=
  (replies handle .empty calls).countP (claimsTask taskId)

theorem claimsTask_of_unclaimed (unclaimed : ∀ claimed, answer ≠ .claimed (some claimed))
    (taskId : String) :
    claimsTask taskId (.ok answer) = false := by
  cases answer with
  | claimed claimed =>
    cases claimed with
    | none => rfl
    | some claimed => exact absurd rfl (unclaimed claimed)
  | done => rfl
  | named => rfl
  | finished => rfl
  | recovered => rfl

theorem ClosesAll.attempts (closes : ClosesAll instant state runs after) (taskId : String) :
    after.attempts taskId = state.attempts taskId := by
  induction closes with
  | nil => rfl
  | cons _ closes _ ih =>
    refine ih.trans ?_
    rw [SchedulerState.attempts, closes.runs]
    exact attemptsOf_endRun _ taskId

/-- The runs of a task grow by the claims that are answered with it. -/
theorem Effect.attempts (effect : Effect state call answer after) (taskId : String) :
    after.attempts taskId = state.attempts taskId + if claimsTask taskId (.ok answer) then 1 else 0 := by
  have idle : after.runs = state.runs → claimsTask taskId (.ok answer) = false →
      after.attempts taskId = state.attempts taskId + if claimsTask taskId (.ok answer) then 1 else 0 := by
    intro runs unclaimed
    rw [SchedulerState.attempts, runs, unclaimed]
    rfl
  cases effect with
  | aside aside _ unclaimed => exact idle aside.runs (claimsTask_of_unclaimed unclaimed taskId)
  | declared _ _ _ _ _ _ _ runs => exact idle runs rfl
  | enqueued enqueues => exact idle enqueues.runs rfl
  | linked links => exact idle links.runs rfl
  | started starts =>
    rw [SchedulerState.attempts, starts.runs]
    refine (attemptsOf_append taskId).trans ?_
    simp only [claimsTask, claimedRun, decide_eq_true_eq]
    rfl
  | finished _ _ _ closes =>
    rw [SchedulerState.attempts, closes.runs]
    exact attemptsOf_endRun _ taskId
  | recovered closes => exact closes.attempts taskId

theorem run_attempts (state : SchedulerState) (calls : List SchedulerCall) (taskId : String) :
    (run handle state calls).attempts taskId =
      state.attempts taskId + (replies handle state calls).countP (claimsTask taskId) := by
  refine run_counted (fun _ : SchedulerState => True) (fun state => state.attempts taskId)
    (claimsTask taskId) trivial (fun _ _ _ => trivial) (fun _ => rfl) ?_ calls
  exact fun _ _ _ _ _ ok => (handle_effect ok).attempts taskId

theorem attempts_eq_claims (calls : List SchedulerCall) (taskId : String) :
    (history calls).attempts taskId = claimsOf calls taskId := by
  rw [history, run_attempts, claimsOf]
  exact Nat.zero_add _

def Completed (state : SchedulerState) (taskId : String) : Prop :=
  ∃ row ∈ state.tasks, row.taskId = taskId ∧ row.status = .completed

theorem Completed.update (completed : Completed state taskId) (other : taskId ≠ changed)
    (updated : after.tasks = update TaskRow.taskId changed change state.tasks) :
      Completed after taskId := by
  obtain ⟨row, held, named, status⟩ := completed
  refine ⟨row, ?_, named, status⟩
  rw [updated]
  exact mem_update_of_mem held (named.trans_ne other)

theorem Completed.ne (completed : Completed state taskId)
    (distinct : KeyedRows.Distinct TaskRow.taskId state.tasks) (held : row ∈ state.tasks)
    (unfinished : row.status ≠ .completed) : taskId ≠ row.taskId := by
  obtain ⟨_, there, named, status⟩ := completed
  intro same
  have only := eq_of_taskId distinct there held (named.trans same)
  exact unfinished (only ▸ status)

theorem Closes.completed {run : Run} (closes : Closes state run status ended instant after)
    (sound : Sound state) (running : Running state.runs state.leases run)
    (completed : Completed state taskId) : Completed after taskId := by
  obtain ⟨-, -, row, held, named, started, -⟩ := sound.leased.current run running
  have unfinished : row.status ≠ .completed := by
    rw [started]
    exact nofun
  obtain ⟨_, tasks⟩ := closes.tasks
  exact completed.update (named ▸ completed.ne sound.budgeted.1.distinct held unfinished) tasks

theorem Enqueues.completed (enqueues : Enqueues state task clock campaign allocated after)
    (completed : Completed state taskId) : Completed after taskId := by
  have kept : Completed allocated taskId := by
    obtain ⟨row, held, named, status⟩ := completed
    have allocates := enqueues.allocates
    cases allocates with
    | child =>
      refine ⟨_, mem_map_of_mem held, ?_, ?_⟩
      · split
        · exact named
        · exact named
      · split
        · exact status
        · exact status
    | root => exact ⟨row, held, named, status⟩
  obtain ⟨row, held, rest⟩ := kept
  refine ⟨row, ?_, rest⟩
  rw [enqueues.tasks]
  exact mem_append_left _ held

theorem Effect.completed (effect : Effect state call answer after) (sound : Sound state)
    (completed : Completed state taskId) : Completed after taskId ∧
      claimsTask taskId (.ok answer) = false := by
  have idle : after.tasks = state.tasks → Completed after taskId := by
    intro tasks
    rw [Completed, tasks]
    exact completed
  cases effect with
  | aside aside _ unclaimed => exact ⟨idle aside.tasks, claimsTask_of_unclaimed unclaimed taskId⟩
  | declared _ _ _ _ _ tasks => exact ⟨idle tasks, rfl⟩
  | enqueued enqueues => exact ⟨enqueues.completed completed, rfl⟩
  | linked links => exact ⟨idle links.tasks, rfl⟩
  | started starts =>
    obtain ⟨member, claimable⟩ := select_claimable starts.selected
    have waits : TaskStatus.Waits _ := claimable.1
    have other := completed.ne sound.budgeted.1.distinct member waits.unsettled.2
    exact ⟨completed.update other starts.tasks, decide_eq_false other.symm⟩
  | finished held found _ closes =>
    exact ⟨closes.completed sound (running_of_held held found) completed, rfl⟩
  | recovered closes =>
    have kept := closes.preserves sound (expiredRuns_once sound.leased _) (expiredRuns_running _) completed
      fun sound running closes completed => closes.completed sound running completed
    exact ⟨kept.2, rfl⟩

theorem run_completed (sound : Sound state) (completed : Completed state taskId)
    (calls : List SchedulerCall) : Completed (run handle state calls) taskId ∧
      (replies handle state calls).countP (claimsTask taskId) = 0 := by
  induction calls generalizing state with
  | nil => exact ⟨completed, rfl⟩
  | cons call _ ih =>
    rw [run_cons, replies, countP_cons]
    cases result : handle state call with
    | error =>
      rw [next_of_error result, reply_of_error result]
      exact ih sound completed
    | ok pair =>
      obtain ⟨_, _⟩ := pair
      have effect := handle_effect result
      obtain ⟨kept, unclaimed⟩ := effect.completed sound completed
      rw [next_of_ok result, reply_of_ok result, unclaimed]
      exact ih (effect.sound sound) kept

def Released (state : SchedulerState) (fence : String) : Prop :=
  ∃ lease ∈ state.leases, lease.fencingToken = fence ∧ lease.releasedAt ≠ none

theorem Closes.released {run : Run} (closes : Closes state run status ended instant after)
    (released : Released state fence) : Released after fence := by
  obtain ⟨_, held, named, closed⟩ := released
  unfold Released
  rw [closes.leases]
  refine ⟨_, mem_map_of_mem held, ?_, ?_⟩
  · split
    · exact named
    · exact named
  · split
    · exact nofun
    · exact closed

theorem ClosesAll.released (closes : ClosesAll instant state runs after)
    (released : Released state fence) : Released after fence := by
  induction closes with
  | nil => exact released
  | cons _ closes _ ih => exact ih (closes.released released)

theorem Effect.released (effect : Effect state call answer after) (released : Released state fence) :
    Released after fence := by
  have idle : after.leases = state.leases → Released after fence := by
    intro leases
    rw [Released, leases]
    exact released
  cases effect with
  | aside aside => exact idle aside.leases
  | declared _ _ _ _ _ _ _ _ leases => exact idle leases
  | enqueued enqueues => exact idle enqueues.leases
  | linked links => exact idle links.leases
  | started starts =>
    obtain ⟨lease, held, rest⟩ := released
    refine ⟨lease, ?_, rest⟩
    rw [starts.leases]
    exact mem_append_left _ held
  | finished _ _ _ closes => exact closes.released released
  | recovered closes => exact closes.released released

theorem finish_of_released (tokens : KeyedRows.Distinct Lease.fencingToken state.leases)
    (released : Released state fence) (actor : Identity) (clock : Clock) (runId : String)
    (artifactId : Option ℕ) (failure : Option String) :
    next handle state ⟨actor, clock, .finish runId fence artifactId failure⟩ = state := by
  refine next_of_answered (fun after => after = state) rfl fun answer after ok => ?_
  obtain ⟨lease, member, named, closed⟩ := released
  obtain ⟨_, there, -, same, -, unreleased, -⟩ : ∃ lease ∈ state.leases,
    lease.HeldBy actor runId fence clock := by
    simp only [handle, bind_ok, pure_ok, Prod.exists] at ok
    obtain ⟨_, _, ok, -⟩ := ok
    exact (finish_ok ok).1
  have only := inj_on_of_nodup_map tokens there member (same.trans named.symm)
  exact absurd (only ▸ unreleased) closed

/-- Over any calls, whoever makes them, with readings of the clock that do not go back: a task has at
most one lease that is not released, and a class no more live leases than its limit; a completed task
stays completed and is not claimed again; a finish under the fence of a released lease changes nothing; a
task has at most one completed run and is claimed at most once more than it may be retried; and a task
that is claimed depends on completed tasks only. -/
theorem leases_exclusive (calls : List SchedulerCall) (ordered : ReadInOrder calls) :
    (∀ taskId, (openLeases (history calls) taskId).length ≤ 1) ∧
    (∀ time, (∀ call ∈ calls, call.clock.reading ≤ time) → ∀ taskClass,
      ((history calls).running time taskClass).length ≤ classLimit taskClass) ∧
    (∀ earlier later, calls = earlier ++ later → ∀ taskId, Completed (history earlier) taskId →
      Completed (history calls) taskId ∧ claimsOf calls taskId = claimsOf earlier taskId) ∧
    (∀ earlier later, calls = earlier ++ later → ∀ fence, Released (history earlier) fence →
      ∀ actor clock runId artifactId failure,
        next handle (history calls) ⟨actor, clock, .finish runId fence artifactId failure⟩ =
          history calls) ∧
    (∀ task ∈ (history calls).tasks, completions (history calls).runs task.taskId ≤ 1 ∧
      claimsOf calls task.taskId ≤ task.maxRetries + 1) ∧
    ∀ actor clock taskClass ids rank claimed,
      reply handle (history calls) ⟨actor, clock, .claim taskClass ids rank⟩ = .ok
        (.claimed (some claimed)) →
        ∀ edge ∈ (history calls).dependencies, edge.1 = claimed.task.taskId →
          ∃ target, (history calls).findTask edge.2 = some target ∧ target.status = .completed := by
  have sound := history_sound calls
  refine ⟨sound.leased.openLeases_le, fun time passes => history_within ordered passes, ?_, ?_, ?_, ?_⟩
  · rintro earlier later rfl taskId completed
    obtain ⟨kept, unclaimed⟩ := run_completed (history_sound earlier) completed later
    have counted := run_attempts (history earlier) later taskId
    rw [unclaimed, Nat.add_zero, history, ← run_append, ← history, attempts_eq_claims, ← history,
      attempts_eq_claims] at counted
    refine ⟨?_, counted⟩
    rw [history, run_append]
    exact kept
  · rintro earlier later rfl fence released actor clock runId artifactId failure
    refine finish_of_released sound.leased.tokens ?_ actor clock runId artifactId failure
    rw [history, run_append]
    exact run_preserves (fun state => Released state fence) released
      (fun _ _ released => next_of_answered (fun state => Released state fence) released
        fun _ _ ok => (handle_effect ok).released released) later
  · intro task member
    rw [← attempts_eq_claims]
    exact ⟨(sound.leased.completed task member).1, (sound.leased.attempts task member).1⟩
  · intro actor clock taskClass ids rank claimed answered edge member named
    have effect := handle_effect (ok_of_reply answered)
    cases effect with
    | aside _ _ unclaimed => exact absurd rfl (unclaimed claimed)
    | started starts =>
      obtain ⟨-, claimable⟩ := select_claimable starts.selected
      obtain ⟨_, -, known⟩ := (history_ordered calls).joins edge member
      obtain ⟨target, held, same⟩ := mem_map.mp known
      rw [Prod.mk.injEq] at same
      have found : (history calls).findTask edge.2 = some target :=
        same.1 ▸ find_of_mem sound.budgeted.1.distinct held
      exact ⟨target, found, claimable.2.2.2.2.1 edge member named target found⟩

def sampleShift : List SchedulerCall :=
  let worker : Identity := ⟨"scheduler", .scheduler⟩
  [⟨sampleActor, ⟨0, 0⟩, .campaign sampleCampaign⟩,
    ⟨sampleActor, ⟨1, 1⟩, .enqueue { sampleTask "a" "EXPLOIT" with maxRetries := 1 }⟩,
    ⟨worker, ⟨2, 2⟩, .claim "cheap" ⟨"r", "l", "f"⟩ fun _ => 0⟩,
    ⟨worker, ⟨3, 3⟩, .finish "r" "f" none (some "lost")⟩,
    ⟨worker, ⟨100000000, 100000000⟩, .claim "cheap" ⟨"s", "m", "g"⟩ fun _ => 0⟩]

/-- The task is claimed twice and leased once, and the first fence is of no use any more. -/
theorem sampleShift_exclusive :
    ReadInOrder sampleShift ∧ claimsOf sampleShift "a" = 2 ∧
      (openLeases (history sampleShift) "a").length ≤ 1 ∧
      ∀ actor clock artifactId failure,
        next handle (history sampleShift) ⟨actor, clock, .finish "r" "f" artifactId failure⟩ =
          history sampleShift := by
  have ordered : ReadInOrder sampleShift := by
    unfold ReadInOrder
    decide
  have released : Released (history sampleShift) "f" := by
    refine ⟨⟨"l", "r", "scheduler", "f", 60000002, some 3, "cheap"⟩, ?_, rfl, nofun⟩
    decide +kernel
  obtain ⟨one, -, -, stale, -⟩ := leases_exclusive sampleShift ordered
  refine ⟨ordered, by decide +kernel, one "a", fun actor clock artifactId failure => ?_⟩
  exact stale sampleShift [] (append_nil _).symm "f" released actor clock "r" artifactId failure

end Liki.Scheduler
