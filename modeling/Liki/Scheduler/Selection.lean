import Liki.Scheduler.Dependencies

/-! Which task a claim hands out. The lanes that are protected and the ranking of the others are
looked at among the oldest claimable tasks, a page of them, and not among all. So a claim does what
the rule asks for when a task that the rule prefers is on the page, and only then; in particular
always when the page holds every claimable task. -/
namespace Liki.Scheduler
open DecimalArithmetic Checks CallSystem List KeyedRows Nat SchedulerState

variable {state after : SchedulerState} {page tasks : List TaskRow} {row task : TaskRow} {instant : Time}

def Preferred (state : SchedulerState) (tasks : List TaskRow) (instant : Time) (task : TaskRow) : Prop :=
  if NoveltyDue state ∧ inLane "NOVELTY" tasks ≠ [] then task.laneClass = "NOVELTY"
  else if state.lanes.count "REPLICATION" = 0 ∧
    inLane "REPLICATION" tasks ≠ [] then task.laneClass = "REPLICATION"
  else ∀ other ∈ tasks, value instant other ≤ value instant task

theorem mem_inLane : row ∈ inLane laneClass tasks ↔ row ∈ tasks ∧ row.laneClass = laneClass := by
  rw [inLane, mem_filter, decide_eq_true_eq]

theorem inLane_ne_nil (member : row ∈ tasks) (lane : row.laneClass = laneClass) :
    inLane laneClass tasks ≠ [] :=
  ne_nil_of_mem (mem_inLane.mpr ⟨member, lane⟩)

theorem inLane_subset (inside : page ⊆ tasks) (none : inLane laneClass tasks = []) :
    inLane laneClass page = [] := by
  refine eq_nil_iff_forall_not_mem.mpr fun row member => ?_
  obtain ⟨held, lane⟩ := mem_inLane.mp member
  exact inLane_ne_nil (inside held) lane none

theorem protectedTasks_eq (page : List TaskRow) : protectedTasks state page =
    if NoveltyDue state ∧ inLane "NOVELTY" page ≠ [] then inLane "NOVELTY" page
    else if state.lanes.count "REPLICATION" = 0 then inLane "REPLICATION" page else [] := by
  unfold protectedTasks
  by_cases due : NoveltyDue state
  · simp only [due, ↓reduceIte, true_and]
  · simp [due]

theorem select_eq (page : List TaskRow) (instant : Time) : select state page instant =
    (if protectedTasks state page ≠ [] then protectedTasks state page else page).argmax
      (value instant) := rfl

theorem selected_preferred_iff (inside : page ⊆ tasks) (selected : select state page instant = some task) :
    Preferred state tasks instant task ↔ ∃ row ∈ page, Preferred state tasks instant row := by
  refine ⟨fun preferred => ⟨task, select_mem selected, preferred⟩, ?_⟩
  rintro ⟨row, member, preferred⟩
  rw [select_eq] at selected
  unfold Preferred at preferred ⊢
  by_cases novelty : NoveltyDue state ∧ inLane "NOVELTY" tasks ≠ []
  · rw [if_pos novelty] at preferred ⊢
    have there := inLane_ne_nil member preferred
    have lane : protectedTasks state page = inLane "NOVELTY" page := by
      rw [protectedTasks_eq, if_pos ⟨novelty.1, there⟩]
    rw [lane, if_pos there] at selected
    exact (mem_inLane.mp (argmax_mem selected)).2
  · rw [if_neg novelty] at preferred ⊢
    have apart : ¬(NoveltyDue state ∧ inLane "NOVELTY" page ≠ []) :=
      fun both => novelty ⟨both.1, fun none => both.2 (inLane_subset inside none)⟩
    by_cases replication : state.lanes.count "REPLICATION" = 0 ∧ inLane "REPLICATION" tasks ≠ []
    · rw [if_pos replication] at preferred ⊢
      have there := inLane_ne_nil member preferred
      have lane : protectedTasks state page = inLane "REPLICATION" page := by
        rw [protectedTasks_eq, if_neg apart, if_pos replication.1]
      rw [lane, if_pos there] at selected
      exact (mem_inLane.mp (argmax_mem selected)).2
    · rw [if_neg replication] at preferred ⊢
      -- neither lane is protected, so the whole page is compared
      have unprotected : protectedTasks state page = [] := by
        rw [protectedTasks_eq, if_neg apart]
        split
        · rename_i first
          exact inLane_subset inside (not_not.mp fun some => replication ⟨first, some⟩)
        · rfl
      rw [unprotected, if_neg fun some => some rfl] at selected
      intro other held
      exact (preferred other held).trans (le_of_mem_argmax member selected)

theorem candidates_subset (taskClass : String) (instant : Time) (rank : String → ℕ) :
    state.candidates taskClass instant rank ⊆ state.claimable taskClass instant := by
  intro row member
  exact (mem_insertionSort (Before rank)).mp (mem_of_mem_take member)

/-- A claim that hands out a task hands out one that the rule prefers among all claimable tasks if and
only if there is such a task among the candidates. -/
theorem claim_preferred_iff (calls : List SchedulerCall) (actor : Identity) (clock : Clock)
    (taskClass : String)
    (ids : ClaimIds) (rank : String → ℕ) (claimed : Claimed)
    (answered : reply handle (history calls) ⟨actor, clock, .claim taskClass ids rank⟩ =
      .ok (.claimed (some claimed))) :
    Preferred (history calls)
      ((history calls).claimable taskClass clock.reading) clock.reading claimed.task ↔
      ∃ row ∈ (history calls).candidates taskClass clock.reading rank,
        Preferred (history calls)
          ((history calls).claimable taskClass clock.reading) clock.reading row := by
  have effect := handle_effect (ok_of_reply answered)
  cases effect with
  | aside _ _ unclaimed => exact absurd rfl (unclaimed claimed)
  | started starts =>
    exact selected_preferred_iff
      (candidates_subset taskClass clock.reading rank) starts.selected

variable {actor : Identity} {clock : Clock} {campaign : CampaignRow}

structure Acceptable (state : SchedulerState) (actor : Identity) (task : Task) (clock : Clock)
    (campaign : CampaignRow) : Prop where
  known : task.taskClass ∈ classLimits.map Prod.fst
  lane : task.laneClass ∈ laneClasses
  informative : 0 < task.voiLowerBound
  permitted : Capability.task ∈ actor.role.capabilities
  unique : ∀ row ∈ state.tasks, row.semantic ≠ task.semantic
  found : state.findCampaign task.campaignId = some campaign
  ahead : clock.reading < campaign.horizonAt
  orphan : task.parentTaskId = none
  free : task.budgetUsd = 0
  funded : campaign.allocatedUsd = 0 ∧ 0 ≤ campaign.usdBudget
  alone : task.dependencies = []
  versioned : state.store.Versioned
  fresh : "task:" ++ task.taskId ∉ state.store.keys
  first : state.store.version "task" task.taskId = 0
  named : task.taskId ≠ ""
  new : state.findTask task.taskId = none

theorem enqueue_accepts {task : Task} (acceptable : Acceptable state actor task clock campaign) :
    enqueue state actor task clock = .ok (task.taskId, { state with
      store := state.store.append ("task:" ++ task.taskId)
        (taskRequest actor task.taskId 0 task.queued "TASK_QUEUED" []) (some "task.queued")
      campaigns := update CampaignRow.campaignId task.campaignId (grant 0) state.campaigns
      tasks := state.tasks ++ [task.row clock.start] }) := by
  obtain ⟨known, lane, informative, permitted, unique, found, ahead, orphan, free, ⟨funded, within⟩,
    alone, versioned,
    fresh, first, named, new⟩ := acceptable
  have nothing : prec28.add 0 0 ≤ campaign.usdBudget := by
    have sum : prec28.add 0 0 = 0 := by decide +kernel
    rw [sum]
    exact within
  have unpaid : task.parent = none := by rw [Task.parent, orphan, Option.filter_none]
  have absent : (state.tasks.find? fun row => row.campaignId = task.campaignId ∧
    row.semantic = task.semantic) = none :=
    find?_eq_none.mpr fun row member same => unique row member (of_decide_eq_true same).2
  have key : "task:" ++ task.taskId ≠ "" := by
    intro empty
    have length := congrArg String.length empty
    rw [String.length_append] at length
    have prefixed : "task:".length = 5 := by decide
    have none : "".length = 0 := by decide
    omega
  -- the state after each of the writes
  obtain ⟨granted, granting⟩ : ∃ granted, granted = { state with
    campaigns := update CampaignRow.campaignId task.campaignId
      (grant 0) state.campaigns } := ⟨_, rfl⟩
  obtain ⟨noted, noting⟩ : ∃ noted, noted = { granted with
    store := state.store.append ("task:" ++ task.taskId)
      (taskRequest actor task.taskId 0 task.queued "TASK_QUEUED" []) (some "task.queued") } := ⟨_, rfl⟩
  have store : granted.store = state.store := by rw [granting]
  have allocated : allocate state task campaign = .ok granted := by
    unfold allocate
    rw [unpaid, free, funded, granting]
    dsimp only
    rw [refuseIf_bind_of_not (not_lt.mpr nothing),
      refuseIf_bind_of_not (not_lt.mpr (by simpa using within))]
    rfl
  have recorded : granted.transition actor .task ("task:" ++ task.taskId)
      (taskRequest actor task.taskId 0 task.queued "TASK_QUEUED" []) (some "task.queued") = .ok noted := by
    rw [transition_task (store ▸ versioned) permitted named key (store ▸ first.symm), store,
      if_neg fresh, noting]
  have inserted : insertTask noted (task.row clock.start) =
      .ok { noted with tasks := noted.tasks ++ [task.row clock.start] } := by
    have gone : noted.findTask task.taskId = none := by
      rw [noting, granting]
      exact new
    unfold insertTask
    rw [refuseIf_bind_of_not (by simp [Task.row, gone]), refuseIf_bind_of_not (by simp [Task.row, orphan])]
    rfl
  unfold enqueue
  rw [refuseIf_bind_of_not (not_not.mpr known), refuseIf_bind_of_not (not_not.mpr lane),
    refuseIf_bind_of_not fun both => absurd informative (not_lt.mpr both.1), permits_task permitted,
      ok_bind, absent]
  dsimp only
  rw [found, expect, ok_bind, refuseIf_bind_of_not (not_le.mpr ahead), allocated, ok_bind, recorded,
    ok_bind, inserted,
    ok_bind, alone, foldlM_nil]
  subst noting granting
  rfl

/-- Ids that differ in their length. -/
def backlogId (n : ℕ) : String := String.ofList (replicate (n + 1) 't')

theorem backlogId_length (n : ℕ) : (backlogId n).length = n + 1 := by
  simp [backlogId]

theorem backlogId_inj (same : backlogId m = backlogId n) : m = n := by
  have lengths := congrArg String.length same
  rw [backlogId_length, backlogId_length] at lengths
  omega

/-- A task of a long queue; the one behind the page is in the lane for novelty. -/
def backlogTask (n : ℕ) : Task := sampleTask (backlogId n) (if n = pageSize then "NOVELTY" else "EXPLOIT")

def backlog (n : ℕ) : List SchedulerCall :=
  ⟨sampleActor, ⟨0, 0⟩, .campaign sampleCampaign⟩ ::
    (range n).map fun i : ℕ => ⟨sampleActor, ⟨i, i⟩, .enqueue (backlogTask i)⟩

structure Backlogged (n : ℕ) (state : SchedulerState) : Prop where
  campaign : state.findCampaign "c" = some ⟨"c", 1000000000, 10, 0⟩
  tasks : state.tasks = (range n).map fun i : ℕ => (backlogTask i).row i
  dependencies : state.dependencies = []
  runs : state.runs = []
  leases : state.leases = []
  keys : ∀ key ∈ state.store.keys, key = "campaign:c" ∨ ∃ i < n, key = "task:" ++ backlogId i
  versions : ∀ taskId, n < taskId.length → state.store.version "task" taskId = 0

theorem Backlogged.enqueue (backlogged : Backlogged n state) (versioned : state.store.Versioned)
    (soon : n < 1000000000) :
    Backlogged (n + 1) (next handle state ⟨sampleActor, ⟨n, n⟩, .enqueue (backlogTask n)⟩) := by
  have others : ∀ row ∈ state.tasks, row.taskId ≠ backlogId n ∧
    row.semantic ≠ (backlogTask n).semantic := by
    intro row member
    rw [backlogged.tasks] at member
    obtain ⟨i, inside, rfl⟩ := mem_map.mp member
    have earlier : i < n := mem_range.mp inside
    refine ⟨fun same => ?_, fun same => ?_⟩
    · have := backlogId_inj same
      omega
    · have := backlogId_inj (congrArg Semantic.inputs same)
      omega
  have fresh : "task:" ++ backlogId n ∉ state.store.keys := by
    intro used
    rcases backlogged.keys _ used with same | ⟨i, earlier, same⟩
    · have heads := congrArg (fun text : String => text.toList.head?) same
      simp [backlogId] at heads
    · have lengths := congrArg String.length same
      rw [String.length_append, String.length_append, backlogId_length, backlogId_length] at lengths
      omega
  have present : backlogId n ≠ "" := by
    intro empty
    have lengths := congrArg String.length empty
    rw [backlogId_length] at lengths
    have none : "".length = 0 := by decide
    omega
  have acceptable : Acceptable state sampleActor (backlogTask n) ⟨n, n⟩ ⟨"c", 1000000000, 10, 0⟩ :=
    { known := by simp [backlogTask, sampleTask, classLimits]
      lane := by
        simp only [backlogTask, sampleTask, laneClasses]
        split <;> simp
      informative := one_pos
      permitted := by decide
      unique := fun row member => (others row member).2
      found := backlogged.campaign
      ahead := Int.ofNat_lt.mpr soon
      orphan := rfl
      free := rfl
      funded := ⟨rfl, by decide⟩
      alone := rfl
      versioned := versioned
      fresh := fresh
      first := backlogged.versions _
        (by rw [show (backlogTask n).taskId = backlogId n from rfl, backlogId_length]; omega)
      named := present
      new := find_none.mpr fun row member => (others row member).1 }
  unfold CallSystem.next
  rw [handle, enqueue_accepts acceptable]
  refine ⟨?_, ?_, backlogged.dependencies, backlogged.runs, backlogged.leases, fun key used => ?_,
    fun taskId longer => ?_⟩
  · have kept : ∀ row : CampaignRow, row.campaignId = "c" → (grant 0 row).campaignId = "c" :=
      fun _ same => same
    refine (find_update_self kept).trans ?_
    rw [show find CampaignRow.campaignId "c" state.campaigns = _ from backlogged.campaign]
    simp [grant]
  · rw [range_succ, map_append, ← backlogged.tasks]
    rfl
  · have known : key ∈ state.store.keys ++ ["task:" ++ backlogId n] := Store.keys_append ▸ used
    rcases mem_added known with older | newest
    · rcases backlogged.keys key older with same | ⟨i, earlier, same⟩
      · exact .inl same
      · exact .inr ⟨i, lt_succ_of_lt earlier, same⟩
    · exact .inr ⟨n, lt_succ_self n, newest⟩
  · refine (Store.version_append "task" taskId).trans ?_
    rw [if_neg]
    · exact backlogged.versions taskId (lt_of_succ_lt longer)
    · rintro ⟨-, same⟩
      have lengths : (backlogId n).length = taskId.length := congrArg String.length same
      rw [backlogId_length] at lengths
      omega

theorem history_backlogged (soon : n ≤ 1000000000) : Backlogged n (history (backlog n)) := by
  induction n with
  | zero =>
    refine ⟨by decide +kernel, by decide +kernel, by decide +kernel, by decide +kernel,
      by decide +kernel, ?_, ?_⟩
    · decide +kernel
    · intro taskId _
      rfl
  | succ n ih =>
    have longer : backlog (n + 1) = backlog n ++ [⟨sampleActor, ⟨n, n⟩, .enqueue (backlogTask n)⟩] := by
      rw [backlog, range_succ, map_append]
      rfl
    rw [history, longer, run_append]
    exact (ih (by omega)).enqueue (history_projected (backlog n)).journal.versioned (by omega)

/-- All of the queue can be claimed, in its order. -/
theorem Backlogged.candidates (backlogged : Backlogged n state) (soon : n < 1000000000) :
    state.claimable "cheap" n = state.tasks ∧
      state.candidates "cheap" n (fun _ => 0) = state.tasks.take pageSize := by
  have all : state.claimable "cheap" n = state.tasks := by
    refine filter_eq_self.mpr fun row member => decide_eq_true ?_
    rw [backlogged.tasks] at member
    obtain ⟨i, inside, rfl⟩ := mem_map.mp member
    have earlier : i < n := mem_range.mp inside
    refine ⟨.inl rfl, Int.ofNat_le.mpr earlier.le, ⟨_, backlogged.campaign, Int.ofNat_lt.mpr soon⟩,
      rfl, ?_, .inl rfl⟩
    intro edge there
    rw [backlogged.dependencies] at there
    cases there
  refine ⟨all, ?_⟩
  have sorted : state.tasks.Pairwise (Before fun _ => 0) := by
    rw [backlogged.tasks, pairwise_map]
    refine pairwise_lt_range.imp fun {i j} earlier => ?_
    exact Prod.Lex.toLex_le_toLex.mpr (.inl (Int.ofNat_lt.mpr earlier))
  rw [SchedulerState.candidates, all, sorted.insertionSort_eq]

theorem select_some (nonempty : page ≠ []) : ∃ task, select state page instant = some task := by
  have chosen : select state page instant ≠ none := by
    rw [select_eq, ne_eq, argmax_eq_none]
    split
    · assumption
    · exact nonempty
  exact Option.ne_none_iff_exists'.mp chosen

def sampleWorker : Identity := ⟨"scheduler", .scheduler⟩

theorem Backlogged.claims (backlogged : Backlogged n state) (projected : Projected state)
    (planted : Planted state.campaigns state.tasks) (soon : n < 1000000000) (positive : 0 < n) :
    ∃ claimed, reply handle state ⟨sampleWorker, ⟨n, n⟩, .claim "cheap" ⟨"r", "l", "f"⟩ fun _ => 0⟩ =
      .ok (.claimed (some claimed)) ∧
        select state (state.candidates "cheap" n fun _ => 0) n = some claimed.task := by
  have queue : state.candidates "cheap" n (fun _ => 0) ≠ [] := by
    rw [(backlogged.candidates soon).2, backlogged.tasks]
    simp only [ne_eq, take_eq_nil_iff, map_eq_nil_iff, range_eq_nil, not_or]
    exact ⟨by decide, positive.ne'⟩
  obtain ⟨task, selected⟩ : ∃ task, select state (state.candidates "cheap" n fun _ => 0) n = some task :=
    select_some queue
  obtain ⟨member, -⟩ := select_claimable selected
  obtain ⟨_, projection⟩ := projected.projection (find_of_mem planted.distinct member)
  have idle : ¬classLimit "cheap" ≤ (state.running n "cheap").length := by
    rw [running, backlogged.leases, filter_nil, length_nil]
    decide
  have fresh : "run:" ++ "r" ∉ state.store.keys := by
    intro used
    rcases backlogged.keys _ used with same | ⟨i, -, same⟩
    · exact absurd same (by decide)
    · have heads := congrArg (fun text : String => text.toList.head?) same
      simp [backlogId] at heads
  have computed : ∃ after, claim state sampleWorker "cheap" ⟨n, n⟩ ⟨"r", "l", "f"⟩ (fun _ => 0) =
      .ok (some ⟨task, ⟨"r", "l", "f"⟩⟩, after) := by
    have permitted : Capability.task ∈ sampleWorker.role.capabilities := by decide
    have unstarted : ∀ store, findRun { state with store := store } "r" = none := by
      intro store
      rw [findRun, backlogged.runs, find_nil]
    unfold claim
    rw [permits_task permitted, ok_bind, refuseIf_bind_of_not (by decide), if_neg idle, selected]
    dsimp only
    rw [projection, expect, ok_bind]
    dsimp only
    rw [transition_task projected.journal.versioned permitted (planted.named task member)
      (by decide) rfl, if_neg fresh,
      ok_bind]
    unfold insertRun
    rw [refuseIf_bind_of_not (by simp [claimedRun, unstarted]),
      refuseIf_bind_of_not (by simp [backlogged.leases]),
      refuseIf_bind_of_not (by simp [backlogged.leases])]
    exact ⟨_, rfl⟩
  obtain ⟨_, claims⟩ := computed
  refine ⟨⟨task, ⟨"r", "l", "f"⟩⟩, ?_, selected⟩
  unfold reply
  rw [handle, claims]
  rfl

/-- From a queue that is longer than the page the worker is not given the task behind the page, although
it is in the lane for novelty, which is due. -/
theorem Backlogged.hides (backlogged : Backlogged n state) (projected : Projected state)
    (planted : Planted state.campaigns state.tasks) (soon : n < 1000000000) (longer : pageSize < n) :
    ∃ claimed, reply handle state ⟨sampleWorker, ⟨n, n⟩, .claim "cheap" ⟨"r", "l", "f"⟩ fun _ => 0⟩ =
      .ok (.claimed (some claimed)) ∧ ¬Preferred state (state.claimable "cheap" n) n claimed.task := by
  obtain ⟨claimed, answered, selected⟩ :=
    backlogged.claims projected planted soon (zero_lt_of_lt longer)
  refine ⟨claimed, answered, ?_⟩
  obtain ⟨all, page⟩ := backlogged.candidates soon
  have due : NoveltyDue state := by
    unfold NoveltyDue lanes
    rw [backlogged.runs, filterMap_nil]
    decide +kernel
  have behind : (backlogTask pageSize).row (pageSize : ℕ) ∈ state.claimable "cheap" n := by
    rw [all, backlogged.tasks]
    exact mem_map.mpr ⟨pageSize, mem_range.mpr longer, rfl⟩
  have novelty : ((backlogTask pageSize).row (pageSize : ℕ)).laneClass = "NOVELTY" := by
    simp [backlogTask, sampleTask, Task.row]
  unfold Preferred
  rw [if_pos ⟨due, inLane_ne_nil behind novelty⟩]
  have member : claimed.task ∈ state.candidates "cheap" n fun _ => 0 := select_mem selected
  rw [page, backlogged.tasks, ← map_take, take_range] at member
  obtain ⟨i, inside, same⟩ := mem_map.mp member
  have earlier : i ≠ pageSize := (lt_of_lt_of_le (mem_range.mp inside) (min_le_left _ _)).ne
  rw [← same]
  simp [backlogTask, sampleTask, Task.row, earlier]

/-- A queue of one task more than the page. -/
theorem page_hides_novelty : ∃ claimed,
    reply handle (history (backlog 101)) ⟨sampleWorker, ⟨101, 101⟩,
      .claim "cheap" ⟨"r", "l", "f"⟩ fun _ => 0⟩ =
      .ok (.claimed (some claimed)) ∧
    ¬Preferred (history (backlog 101))
      ((history (backlog 101)).claimable "cheap" 101) 101 claimed.task := by
  have backlogged : Backlogged 101 (history (backlog 101)) := history_backlogged (by decide)
  have hidden := backlogged.hides (history_projected (backlog 101))
    (history_budgeted (backlog 101)).1 (by decide)
    (by decide)
  simpa only [cast_ofNat] using hidden

/-- With one task in the queue the worker is given it. -/
theorem backlog_claimed : ∃ claimed,
    reply handle (history (backlog 1)) ⟨sampleWorker, ⟨1, 1⟩, .claim "cheap" ⟨"r", "l", "f"⟩ fun _ => 0⟩ =
      .ok (.claimed (some claimed)) ∧
    (Preferred (history (backlog 1)) ((history (backlog 1)).claimable "cheap" 1) 1 claimed.task ↔
      ∃ row ∈ (history (backlog 1)).candidates "cheap" 1 fun _ => 0,
        Preferred (history (backlog 1)) ((history (backlog 1)).claimable "cheap" 1) 1 row) := by
  have backlogged : Backlogged 1 (history (backlog 1)) := history_backlogged (by decide)
  obtain ⟨claimed, answered, -⟩ :=
    backlogged.claims (history_projected (backlog 1)) (history_budgeted (backlog 1)).1 (by decide)
      (by decide)
  exact ⟨claimed, answered, claim_preferred_iff (backlog 1) sampleWorker ⟨1, 1⟩ "cheap"
    ⟨"r", "l", "f"⟩ (fun _ => 0)
    claimed answered⟩

end Liki.Scheduler
