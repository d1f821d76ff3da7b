import Liki.Scheduler.Claims

/-! What waits behind a task. A task is only claimed when all that it depends on is completed, and only
a queued task is given another dependency; so behind a task that is not completed everything is still
queued. A quarantined task is never claimed again, and whatever depends on it waits for good. -/
namespace Liki.Scheduler
open Checks CallSystem AppendOnly Reachability List KeyedRows

variable {state after : SchedulerState} {call : SchedulerCall} {answer : SchedulerAnswer} {run : Run}
  {taskId target : String} {row moved : TaskRow}
  {closed : TaskStatus} {outcome : RunStatus} {tasks between later : List TaskRow}

def Free (state : SchedulerState) (taskId : String) : Prop :=
  ∀ edge ∈ state.dependencies, edge.1 = taskId → Completed state edge.2

/-- Where a task of the next state comes from. -/
inductive Moves (state : SchedulerState) (moved : TaskRow) : Prop
  | added (queued : moved.status = .queued) (fresh : ∀ row ∈ state.tasks, row.taskId ≠ moved.taskId)
  | kept {row : TaskRow} (held : row ∈ state.tasks) (named : row.taskId = moved.taskId)
      (same : moved.status = row.status)
  | claimed {row : TaskRow} (held : row ∈ state.tasks) (named : row.taskId = moved.taskId)
      (waits : row.status.Waits) (free : Free state row.taskId)
  | ended {row : TaskRow} (held : row ∈ state.tasks) (named : row.taskId = moved.taskId)
      (running : row.status = .running)

def Ended (tasks after : List TaskRow) : Prop :=
  ∀ moved ∈ after, ∃ row ∈ tasks, row.taskId = moved.taskId ∧ (moved.status = row.status ∨ row.status = .running)

theorem Closes.ended (closes : Closes state run closed outcome instant after) (sound : Sound state)
    (running : Running state.runs state.leases run) : Ended state.tasks after.tasks := by
  intro moved held
  obtain ⟨-, -, own, there, named, started, -⟩ := sound.leased.current run running
  obtain ⟨_, tasks⟩ := closes.tasks
  rw [tasks] at held
  rcases mem_update held with ⟨old, -, same, rfl⟩ | ⟨older, -⟩
  · exact ⟨own, there, named.trans same.symm, .inr started⟩
  · exact ⟨moved, older, rfl, .inl rfl⟩

theorem Ended.trans (first : Ended tasks between) (second : Ended between later) : Ended tasks later := by
  intro moved held
  obtain ⟨old, there, same, moves⟩ := second moved held
  obtain ⟨row, before, named, earlier⟩ := first old there
  refine ⟨row, before, named.trans same, ?_⟩
  rcases earlier with still | running
  · rwa [← still]
  · exact .inr running

theorem Enqueues.absent (enqueues : Enqueues state task clock campaign allocated after) :
    ∀ row ∈ state.tasks, row.taskId ≠ task.taskId := by
  intro row held same
  have known : (row.taskId, row.campaignId) ∈ Scheduler.homes allocated.tasks := by
    rw [enqueues.allocates.homes]
    exact mem_map_of_mem held
  obtain ⟨other, there, named⟩ := mem_map.mp known
  exact find_none.mp enqueues.fresh other there ((Prod.mk.inj named).1.trans same)

theorem Effect.moves (effect : Effect state call answer after) (sound : Sound state) (ordered : Ordered state)
    (held : moved ∈ after.tasks) : Moves state moved := by
  have idle (older : moved ∈ state.tasks) : Moves state moved := .kept older rfl rfl
  have halted (ended : Ended state.tasks after.tasks) : Moves state moved := by
    obtain ⟨row, there, named, still | running⟩ := ended moved held
    · exact .kept there named still
    · exact .ended there named running
  cases effect with
  | aside aside => exact idle (aside.tasks ▸ held)
  | declared _ _ _ _ _ tasks => exact idle (tasks ▸ held)
  | linked links => exact idle (links.tasks ▸ held)
  | finished found known _ closes => exact halted (closes.ended sound (running_of_held found known))
  | recovered closes =>
    let since (later : SchedulerState) := Ended state.tasks later.tasks
    have start : since state := fun row older => ⟨row, older, rfl, .inl rfl⟩
    have all := closes.preserves sound (expiredRuns_once sound.leased _) (expiredRuns_running _) start
      fun sound running closes before => before.trans (closes.ended sound running)
    exact halted all.2
  | enqueued enqueues =>
    rw [enqueues.tasks] at held
    rcases mem_added held with older | rfl
    · have allocates := enqueues.allocates
      cases allocates with
      | root => exact idle older
      | child =>
        obtain ⟨row, there, rfl⟩ := mem_map.mp older
        exact .kept there (by split <;> rfl) (by split <;> rfl)
    · exact .added rfl enqueues.absent
  | started starts =>
    rw [starts.tasks] at held
    rcases mem_update held with ⟨_, -, named, rfl⟩ | ⟨older, -⟩
    · obtain ⟨member, claimable⟩ := select_claimable starts.selected
      refine .claimed member named.symm claimable.1 fun edge there same => ?_
      obtain ⟨_, -, known⟩ := ordered.joins edge there
      obtain ⟨target, row, ends⟩ := mem_map.mp known
      have ends := (Prod.mk.inj ends).1
      have found := find_of_mem sound.budgeted.1.distinct row
      exact ⟨target, row, ends, claimable.2.2.2.2.1 edge there same target (ends ▸ found)⟩
    · exact idle older

/-- Only a queued task is given another dependency. -/
theorem Effect.edges (effect : Effect state call answer after) (sound : Sound state)
    (member : edge ∈ after.dependencies) (held : moved ∈ after.tasks) (named : edge.1 = moved.taskId)
    (left : moved.status ≠ .queued) : edge ∈ state.dependencies := by
  rcases effect.homes with ⟨-, same⟩ | ⟨_, _, _, _, enqueues⟩ | ⟨_, _, links⟩
  · exact same ▸ member
  · rw [enqueues.dependencies] at member
    rw [enqueues.tasks] at held
    refine (mem_append.mp member).resolve_right fun newer => ?_
    obtain ⟨_, -, rfl⟩ := mem_map.mp newer
    rcases mem_added held with older | rfl
    · exact find_none.mp enqueues.fresh moved older named.symm
    · exact left rfl
  · rw [links.dependencies, mem_insertNew] at member
    refine member.resolve_right ?_
    rintro rfl
    obtain ⟨task, _, found, -, -, queued⟩ := links.ends
    rw [links.tasks] at held
    rw [eq_of_taskId sound.budgeted.1.distinct held (find_mem found) (named.symm.trans (find_key found).symm)] at left
    exact left queued

theorem Effect.grows (effect : Effect state call answer after) :
    Scheduler.homes state.tasks ⊆ Scheduler.homes after.tasks ∧ state.dependencies ⊆ after.dependencies := by
  rcases effect.homes with ⟨same, edges⟩ | ⟨_, _, _, _, enqueues⟩ | ⟨_, _, links⟩
  · exact ⟨same ▸ Subset.refl _, edges ▸ Subset.refl _⟩
  · exact ⟨enqueues.homes ▸ subset_append_left _ _, enqueues.dependencies ▸ subset_append_left _ _⟩
  · exact ⟨links.tasks ▸ Subset.refl _, fun edge member => links.dependencies ▸ mem_insertNew.mpr (.inl member)⟩

/-- A task that has left the queue depends on completed tasks. -/
def Gated (state : SchedulerState) : Prop := ∀ row ∈ state.tasks, row.status ≠ .queued → Free state row.taskId

theorem Effect.gated (effect : Effect state call answer after) (sound : Sound state) (ordered : Ordered state)
    (gated : Gated state) : Gated after := by
  intro moved held left edge member named
  have older := effect.edges sound member held named left
  have before : Completed state edge.2 := by
    cases effect.moves sound ordered held with
    | added queued => exact absurd queued left
    | kept there same still => exact gated _ there (still ▸ left) edge older (named.trans same.symm)
    | claimed _ same _ free => exact free edge older (named.trans same.symm)
    | ended there same running =>
      exact gated _ there (by rw [running]; nofun) edge older (named.trans same.symm)
  exact (effect.completed sound before).1

theorem history_gated (calls : List SchedulerCall) : Gated (history calls) := by
  induction calls using reverseRecOn with
  | nil => exact fun _ held => absurd held not_mem_nil
  | append_singleton calls call gated =>
    rw [history, run_append, run_cons, run_nil]
    refine next_of_answered Gated gated fun _ _ ok => ?_
    exact (handle_effect ok).gated (history_sound calls) (history_ordered calls) gated

/-- Behind a task that has left the queue, everything is completed. -/
theorem Gated.behind (gated : Gated state) (path : Reaches state.dependencies taskId target)
    (held : row ∈ state.tasks) (named : row.taskId = taskId) (left : row.status ≠ .queued) :
    target = taskId ∨ Completed state target := by
  induction path using Relation.ReflTransGen.head_induction_on generalizing row with
  | refl => exact .inl rfl
  | head edge _ ih =>
    obtain ⟨next, there, same, completed⟩ := gated row held left _ edge named.symm
    rcases ih there same (by rw [completed]; nofun) with rfl | behind
    · exact .inr ⟨next, there, same, completed⟩
    · exact .inr behind

/-- What a quarantined task stands in the way of. -/
structure Blocks (state : SchedulerState) (taskId target : String) : Prop where
  quarantined : ∃ row ∈ state.tasks, row.taskId = target ∧ row.status = .quarantined
  path : Reaches state.dependencies taskId target

theorem Effect.blocks (effect : Effect state call answer after) (sound : Sound state) (ordered : Ordered state)
    (blocks : Blocks state taskId target) : Blocks after taskId target := by
  obtain ⟨⟨row, held, named, quarantined⟩, path⟩ := blocks
  obtain ⟨homes, edges⟩ := effect.grows
  obtain ⟨moved, there, home⟩ := mem_map.mp (homes (mem_map_of_mem held))
  have own := (Prod.mk.inj home).1
  refine ⟨⟨moved, there, own.trans named, ?_⟩, path.mono edges⟩
  have only {old : TaskRow} (before : old ∈ state.tasks) (same : old.taskId = moved.taskId) : old = row :=
    eq_of_taskId sound.budgeted.1.distinct before held (same.trans own)
  cases effect.moves sound ordered there with
  | added _ fresh => exact absurd own.symm (fresh row held)
  | kept before same still => exact still.trans (only before same ▸ quarantined)
  | claimed before same waits => simp [TaskStatus.Waits, only before same, quarantined] at waits
  | ended before same running => cases quarantined.symm.trans (only before same ▸ running)

theorem blocked_later (blocks : Blocks (history earlier) taskId target) (later : List SchedulerCall) :
    Blocks (history (earlier ++ later)) taskId target := by
  induction later using reverseRecOn with
  | nil => exact (append_nil earlier).symm ▸ blocks
  | append_singleton later call ih =>
    rw [← append_assoc, history, run_append, run_cons, run_nil]
    refine next_of_answered (Blocks · taskId target) ih fun _ _ ok => ?_
    exact (handle_effect ok).blocks (history_sound _) (history_ordered _) ih

/-- In every run, a task that has left the queue has only completed tasks behind it, however far; and
what depends on a quarantined task, however far, is queued from then on, whatever calls are made. -/
theorem quarantine_blocks (earlier : List SchedulerCall) :
    (∀ row ∈ (history earlier).tasks, row.status ≠ .queued → ∀ target ≠ row.taskId,
      Reaches (history earlier).dependencies row.taskId target → Completed (history earlier) target) ∧
    ∀ taskId target, taskId ≠ target → Blocks (history earlier) taskId target → ∀ later,
      ∀ row ∈ (history (earlier ++ later)).tasks, row.taskId = taskId → row.status = .queued := by
  refine ⟨fun row held left target apart path => ?_, fun taskId target apart blocks later row there named => ?_⟩
  · exact ((history_gated earlier).behind path held rfl left).resolve_left apart
  · by_contra left
    obtain ⟨⟨failed, held, same, quarantined⟩, path⟩ := blocked_later blocks later
    rcases (history_gated _).behind path there named left with first | ⟨done, known, other, completed⟩
    · exact apart first.symm
    · rw [eq_of_taskId (history_sound _).budgeted.1.distinct held known (same.trans other.symm), completed] at quarantined
      cases quarantined

end Liki.Scheduler
