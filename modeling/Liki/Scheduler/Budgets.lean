import Liki.Library.Forest
import Liki.Scheduler.Effects

/-! Budgets. A task takes its budget from its parent's, or from the campaign's, in the transaction
that queues it, and no other call touches a budget. So what is allocated is always the sum over
the rows, and tasks of a campaign none of which is above another one fit into its budget. -/
namespace Liki.Scheduler
open Checks CallSystem KeyedRows List TaskRow SchedulerState

variable {campaigns : List CampaignRow} {tasks : List TaskRow} {row : TaskRow} {change : TaskRow → TaskRow}

def spent (counts : TaskRow → Prop) [DecidablePred counts] (tasks : List TaskRow) : ℚ :=
  KeyedRows.total budgetUsd (tasks.filter counts)

def rootBudget (campaignId : String) (tasks : List TaskRow) : ℚ :=
  spent (fun row => row.campaignId = campaignId ∧ row.parentTaskId = none) tasks

def childBudget (taskId : String) (tasks : List TaskRow) : ℚ :=
    spent (fun row => row.parentTaskId = some taskId) tasks

structure InPlace (change : TaskRow → TaskRow) : Prop where
  taskId : ∀ row, (change row).taskId = row.taskId
  campaignId : ∀ row, (change row).campaignId = row.campaignId
  parentTaskId : ∀ row, (change row).parentTaskId = row.parentTaskId
  budgetUsd : ∀ row, (change row).budgetUsd = row.budgetUsd

section Sums

variable {counts : TaskRow → Prop} [DecidablePred counts]

theorem spent_append (row : TaskRow) :
    spent counts (tasks ++ [row]) = spent counts tasks + if counts row then row.budgetUsd else 0 := by
  unfold spent
  rw [filter_append]
  by_cases counted : counts row
  · rw [if_pos counted, ← total_insert]
    simp [counted]
  · rw [if_neg counted, add_zero]
    simp [counted]

theorem spent_map (kept : ∀ row, counts (change row) ↔ counts row)
    (budgets : ∀ row, (change row).budgetUsd = row.budgetUsd) :
    spent counts (tasks.map change) = spent counts tasks := by
  unfold spent
  rw [filter_map, KeyedRows.total, map_map, KeyedRows.total]
  have counted : (fun row => decide (counts row)) ∘ change = fun row => decide (counts row) := by
    funext row
    simp [kept row]
  have same : budgetUsd ∘ change = budgetUsd := funext budgets
  rw [counted, same]

theorem spent_eq_zero (none : ∀ row ∈ tasks, ¬counts row) : spent counts tasks = 0 := by
  have nothing : tasks.filter counts = [] :=
    filter_eq_nil_iff.mpr fun row member => by simpa using none row member
  rw [spent, nothing, total_nil]

theorem InPlace.rootBudget (inPlace : InPlace change) (campaignId : String) :
    rootBudget campaignId (tasks.map change) = rootBudget campaignId tasks := by
  refine spent_map (fun row => ?_) inPlace.budgetUsd
  rw [inPlace.campaignId, inPlace.parentTaskId]

theorem InPlace.childBudget (inPlace : InPlace change) (taskId : String) :
    childBudget taskId (tasks.map change) = childBudget taskId tasks := by
  refine spent_map (fun row => ?_) inPlace.budgetUsd
  rw [inPlace.parentTaskId]

end Sums

structure Planted (campaigns : List CampaignRow) (tasks : List TaskRow) : Prop where
  distinct : KeyedRows.Distinct taskId tasks
  named : ∀ row ∈ tasks, row.taskId ≠ ""
  grown : Forest.Grown taskId parentTaskId tasks
  declared : ∀ row ∈ tasks, KeyedRows.find CampaignRow.campaignId row.campaignId campaigns ≠ none
  family : ∀ row ∈ tasks, ∀ parent ∈ tasks, row.parentTaskId = some parent.taskId →
    row.campaignId = parent.campaignId

structure Allotted (campaigns : List CampaignRow) (tasks : List TaskRow) : Prop where
  distinct : KeyedRows.Distinct CampaignRow.campaignId campaigns
  nonneg : ∀ row ∈ tasks, 0 ≤ row.budgetUsd
  campaign : ∀ campaign ∈ campaigns, campaign.allocatedUsd = rootBudget campaign.campaignId tasks ∧
    campaign.allocatedUsd ≤ campaign.usdBudget
  children : ∀ row ∈ tasks, row.childAllocatedUsd = childBudget row.taskId tasks ∧
    row.childAllocatedUsd ≤ row.budgetUsd

theorem Planted.map (planted : Planted campaigns tasks) (inPlace : InPlace change) :
    Planted campaigns (tasks.map change) where
  distinct := by
    have ids : (tasks.map change).map taskId = tasks.map taskId := by
      rw [map_map]
      exact map_congr_left fun row _ => inPlace.taskId row
    rw [KeyedRows.Distinct, ids]
    exact planted.distinct
  named := by
    intro row member
    obtain ⟨old, held, rfl⟩ := mem_map.mp member
    rw [inPlace.taskId]
    exact planted.named old held
  grown := planted.grown.map inPlace.taskId inPlace.parentTaskId
  declared := by
    intro row member
    obtain ⟨old, held, rfl⟩ := mem_map.mp member
    rw [inPlace.campaignId]
    exact planted.declared old held
  family := by
    intro row member parent there
    obtain ⟨old, held, rfl⟩ := mem_map.mp member
    obtain ⟨above, known, rfl⟩ := mem_map.mp there
    rw [inPlace.parentTaskId, inPlace.taskId, inPlace.campaignId, inPlace.campaignId]
    exact planted.family old held above known

theorem Planted.append (planted : Planted campaigns tasks)
    (fresh : KeyedRows.find taskId row.taskId tasks = none)
    (named : row.taskId ≠ "")
    (parent : ∀ parentId ∈ row.parentTaskId, ∃ other ∈ tasks, other.taskId = parentId)
    (declared : KeyedRows.find CampaignRow.campaignId row.campaignId campaigns ≠ none)
    (family : ∀ parent ∈ tasks, row.parentTaskId = some parent.taskId →
      row.campaignId = parent.campaignId) :
    Planted campaigns (tasks ++ [row]) where
  distinct := distinct_insert planted.distinct fresh
  named := by
    intro other member
    rcases mem_append.mp member with held | new
    · exact planted.named other held
    · exact mem_singleton.mp new ▸ named
  grown := planted.grown.append parent
  declared := by
    intro other member
    rcases mem_append.mp member with held | new
    · exact planted.declared other held
    · exact mem_singleton.mp new ▸ declared
  family := by
    have absent := find_none.mp fresh
    intro child member above there names
    rcases mem_append.mp there with known | new
    · rcases mem_append.mp member with held | new
      · exact planted.family child held above known names
      · rw [mem_singleton.mp new] at names ⊢
        exact family above known names
    · -- the new task is nobody's parent
      rw [mem_singleton.mp new] at names
      rcases mem_append.mp member with held | new
      · obtain ⟨other, known, same⟩ := planted.grown.parent_mem held names
        exact absurd same (absent other known)
      · rw [mem_singleton.mp new] at names
        obtain ⟨other, known, same⟩ := parent _ names
        exact absurd same (absent other known)

theorem childBudget_fresh (planted : Planted campaigns tasks) {taskId : String}
    (fresh : KeyedRows.find TaskRow.taskId taskId tasks = none) : childBudget taskId tasks = 0 := by
  refine spent_eq_zero fun other member names => ?_
  obtain ⟨parent, known, same⟩ := planted.grown.parent_mem member names
  exact find_none.mp fresh parent known same

theorem Allotted.map (allotted : Allotted campaigns tasks) (inPlace : InPlace change)
    (allocated : ∀ row, (change row).childAllocatedUsd = row.childAllocatedUsd) :
    Allotted campaigns (tasks.map change) where
  distinct := allotted.distinct
  nonneg := by
    intro row member
    obtain ⟨old, held, rfl⟩ := mem_map.mp member
    rw [inPlace.budgetUsd]
    exact allotted.nonneg old held
  campaign := by
    intro campaign member
    rw [inPlace.rootBudget]
    exact allotted.campaign campaign member
  children := by
    intro row member
    obtain ⟨old, held, rfl⟩ := mem_map.mp member
    rw [inPlace.childBudget, inPlace.taskId, inPlace.budgetUsd, allocated]
    exact allotted.children old held

theorem InPlace.updating (inPlace : InPlace change) (taskId : String) :
    InPlace fun row => if row.taskId = taskId then change row else row where
  taskId := fun row => by split <;> simp only [inPlace.taskId]
  campaignId := fun row => by split <;> simp only [inPlace.campaignId]
  parentTaskId := fun row => by split <;> simp only [inPlace.parentTaskId]
  budgetUsd := fun row => by split <;> simp only [inPlace.budgetUsd]

/-- A child takes from its parent. -/
def charge (amount : ℚ) (row : TaskRow) : TaskRow := { row with childAllocatedUsd := row.childAllocatedUsd + amount }

/-- A task without a parent takes from its campaign. -/
def grant (amount : ℚ) (row : CampaignRow) : CampaignRow := { row with allocatedUsd := row.allocatedUsd + amount }

theorem charge_inPlace (amount : ℚ) : InPlace (charge amount) :=
  ⟨fun _ => rfl, fun _ => rfl, fun _ => rfl, fun _ => rfl⟩

theorem declared_grant {campaignId granted : String}
    (declared : KeyedRows.find CampaignRow.campaignId campaignId campaigns ≠ none) :
    KeyedRows.find CampaignRow.campaignId campaignId
      (KeyedRows.update CampaignRow.campaignId granted (grant amount) campaigns) ≠ none := by
  have kept : ∀ row : CampaignRow, row.campaignId = granted → (grant amount row).campaignId = granted :=
    fun _ same => same
  rw [ne_eq, find_update_eq_none kept]
  exact declared

theorem rootBudget_fresh (planted : Planted campaigns tasks) {campaignId : String}
    (fresh : KeyedRows.find CampaignRow.campaignId campaignId campaigns = none) :
      rootBudget campaignId tasks = 0 := by
  refine spent_eq_zero fun row member counted => planted.declared row member ?_
  rw [counted.1]
  exact fresh

theorem Planted.declare (planted : Planted campaigns tasks) (campaign : CampaignRow) :
    Planted (campaigns ++ [campaign]) tasks where
  distinct := planted.distinct
  named := planted.named
  grown := planted.grown
  declared := by
    intro row member
    obtain ⟨found, held⟩ := Option.ne_none_iff_exists'.mp (planted.declared row member)
    rw [find_append_some held]
    exact Option.some_ne_none found
  family := planted.family

theorem Allotted.declare (allotted : Allotted campaigns tasks) (planted : Planted campaigns tasks)
    {campaign : CampaignRow}
    (fresh : KeyedRows.find CampaignRow.campaignId campaign.campaignId campaigns = none)
    (unallocated : campaign.allocatedUsd = 0) (budget : 0 ≤ campaign.usdBudget) :
    Allotted (campaigns ++ [campaign]) tasks where
  distinct := distinct_insert allotted.distinct fresh
  nonneg := allotted.nonneg
  campaign := by
    intro other member
    rcases mem_added member with held | new
    · exact allotted.campaign other held
    · rw [new, rootBudget_fresh planted fresh, unallocated]
      exact ⟨rfl, budget⟩
  children := allotted.children

theorem Allotted.child (allotted : Allotted campaigns tasks) (planted : Planted campaigns tasks)
    {parent : TaskRow}
    (found : KeyedRows.find TaskRow.taskId parent.taskId tasks = some parent)
    (fresh : KeyedRows.find TaskRow.taskId row.taskId tasks = none)
    (child : row.parentTaskId = some parent.taskId)
    (childless : row.childAllocatedUsd = 0) (nonneg : 0 ≤ row.budgetUsd)
    (fits : parent.childAllocatedUsd + row.budgetUsd ≤ parent.budgetUsd) :
    Allotted campaigns (KeyedRows.update TaskRow.taskId parent.taskId
      (charge row.budgetUsd) tasks ++ [row]) := by
  have inPlace := (charge_inPlace row.budgetUsd).updating parent.taskId
  have absent := find_none.mp fresh
  have children : ∀ taskId,
    childBudget taskId (KeyedRows.update TaskRow.taskId parent.taskId (charge row.budgetUsd)
      tasks ++ [row]) = childBudget taskId tasks + if parent.taskId = taskId then row.budgetUsd else 0 := by
    intro taskId
    rw [childBudget, spent_append, ← childBudget, KeyedRows.update, inPlace.childBudget, child]
    simp only [Option.some.injEq]
  refine ⟨allotted.distinct, fun other member => ?_, fun campaign member => ?_, fun other member => ?_⟩
  · rcases mem_added member with held | new
    · obtain ⟨old, known, rfl⟩ := mem_map.mp held
      rw [inPlace.budgetUsd]
      exact allotted.nonneg old known
    · exact new ▸ nonneg
  · rw [rootBudget, spent_append, ← rootBudget, KeyedRows.update, inPlace.rootBudget, child,
      if_neg (by simp), add_zero]
    exact allotted.campaign campaign member
  · rw [children]
    rcases mem_added member with held | new
    · rcases mem_update_of_find planted.distinct found held with rfl | ⟨known, other⟩
      · have before := (allotted.children parent (find_mem found)).1
        have own : (if parent.taskId =
          (charge row.budgetUsd parent).taskId then row.budgetUsd else 0) = row.budgetUsd :=
          if_pos rfl
        rw [own]
        exact ⟨congrArg (· + row.budgetUsd) before, fits⟩
      · rw [if_neg (Ne.symm other), add_zero]
        exact allotted.children _ known
    · rw [new, childBudget_fresh planted fresh,
        if_neg (absent parent (find_mem found)),
        childless, add_zero]
      exact ⟨rfl, nonneg⟩

theorem Allotted.root (allotted : Allotted campaigns tasks) (planted : Planted campaigns tasks)
    {campaign : CampaignRow}
    (found : KeyedRows.find CampaignRow.campaignId row.campaignId campaigns = some campaign)
    (fresh : KeyedRows.find TaskRow.taskId row.taskId tasks = none) (orphan : row.parentTaskId = none)
    (childless : row.childAllocatedUsd = 0) (nonneg : 0 ≤ row.budgetUsd)
    (fits : campaign.allocatedUsd + row.budgetUsd ≤ campaign.usdBudget) :
    Allotted (KeyedRows.update CampaignRow.campaignId row.campaignId (grant row.budgetUsd) campaigns)
      (tasks ++ [row]) := by
  have named : campaign.campaignId = row.campaignId := find_key found
  have roots : ∀ campaignId, rootBudget campaignId (tasks ++ [row]) =
      rootBudget campaignId tasks + if row.campaignId = campaignId then row.budgetUsd else 0 := by
    intro campaignId
    rw [rootBudget, spent_append, ← rootBudget, orphan]
    simp only [and_true]
  have children : ∀ taskId, childBudget taskId (tasks ++ [row]) = childBudget taskId tasks := by
    intro taskId
    rw [childBudget, spent_append, ← childBudget, orphan, if_neg (by simp), add_zero]
  refine ⟨distinct_update (fun _ same => same) allotted.distinct, fun other member => ?_,
    fun other member => ?_, fun other member => ?_⟩
  · rcases mem_added member with held | new
    · exact allotted.nonneg other held
    · exact new ▸ nonneg
  · rw [roots]
    rcases mem_update_of_find allotted.distinct found member with rfl | ⟨known, differ⟩
    · have before := (allotted.campaign campaign (find_mem found)).1
      have own : (if row.campaignId = (grant row.budgetUsd campaign).campaignId then row.budgetUsd else 0) =
          row.budgetUsd := if_pos named.symm
      rw [own]
      exact ⟨congrArg (· + row.budgetUsd) before, fits⟩
    · rw [if_neg (Ne.symm differ), add_zero]
      exact allotted.campaign _ known
  · rw [children]
    rcases mem_added member with held | new
    · exact allotted.children other held
    · rw [new, childBudget_fresh planted fresh, childless]
      exact ⟨rfl, nonneg⟩

def Budgeted (state : SchedulerState) : Prop :=
  Planted state.campaigns state.tasks ∧ Allotted state.campaigns state.tasks

variable {state after allocated : SchedulerState} {task : Task} {campaign : CampaignRow} {clock : Clock}

theorem Budgeted.of_eq (budgeted : Budgeted state) (campaigns : after.campaigns = state.campaigns)
    (tasks : after.tasks = state.tasks) : Budgeted after := by
  rw [Budgeted, campaigns, tasks]
  exact budgeted

theorem Budgeted.edit (budgeted : Budgeted state) {taskId : String} (inPlace : InPlace change)
    (allocated : ∀ row, (change row).childAllocatedUsd = row.childAllocatedUsd)
    (campaigns : after.campaigns = state.campaigns)
    (tasks : after.tasks = KeyedRows.update TaskRow.taskId taskId change state.tasks) : Budgeted after := by
  have kept : ∀ row, (if row.taskId = taskId then change row else row).childAllocatedUsd =
    row.childAllocatedUsd := by
    intro row
    split
    · exact allocated row
    · rfl
  rw [Budgeted, campaigns, tasks]
  exact ⟨budgeted.1.map (inPlace.updating taskId), budgeted.2.map (inPlace.updating taskId) kept⟩

theorem Budgeted.closes (budgeted : Budgeted state) {run : Run} {status : TaskStatus}
    (closes : Closes state run status ended instant after) : Budgeted after := by
  obtain ⟨_, tasks⟩ := closes.tasks
  refine budgeted.edit ?_ (fun _ => ?_) closes.campaigns tasks
  · exact ⟨fun _ => rfl, fun _ => rfl, fun _ => rfl, fun _ => rfl⟩
  · rfl

theorem Budgeted.closesAll (budgeted : Budgeted state) {runs : List Run}
    (closes : ClosesAll instant state runs after) : Budgeted after := by
  induction closes with
  | nil => exact budgeted
  | cons _ closes _ ih => exact ih (budgeted.closes closes)

theorem Enqueues.parent_eq (enqueues : Enqueues state task clock campaign allocated after)
    (planted : Planted allocated.campaigns allocated.tasks) : task.parent = task.parentTaskId := by
  cases named : task.parentTaskId with
  | none => rw [Task.parent, named, Option.filter_none]
  | some parentId =>
    obtain ⟨parent, found⟩ := Option.ne_none_iff_exists'.mp (enqueues.parent parentId named)
    have same : parent.taskId = parentId := find_key found
    have present : parentId ≠ "" := same ▸ planted.named parent (find_mem found)
    rw [Task.parent, named]
    simp [present]

/-- The new task is planted where its budget comes from. -/
theorem Enqueues.planted (enqueues : Enqueues state task clock campaign allocated after)
    (planted : Planted state.campaigns state.tasks) :
    Planted allocated.campaigns allocated.tasks ∧ Planted after.campaigns after.tasks := by
  have declared : KeyedRows.find CampaignRow.campaignId task.campaignId state.campaigns ≠ none := by
    rw [show KeyedRows.find CampaignRow.campaignId task.campaignId state.campaigns =
      some campaign from enqueues.found]
    exact Option.some_ne_none campaign
  have present : ∀ parentId ∈ (task.row clock.start).parentTaskId, ∃ other ∈ allocated.tasks,
      other.taskId = parentId := by
    intro parentId member
    obtain ⟨other, found⟩ := Option.ne_none_iff_exists'.mp (enqueues.parent parentId member)
    exact ⟨other, find_mem found, find_key found⟩
  have allocates := enqueues.allocates
  have fresh := enqueues.fresh
  have parent := enqueues.parent_eq
  rw [enqueues.campaigns, enqueues.tasks]
  cases allocates with
  | @child parentId _ named found sameCampaign =>
    have kept := planted.map ((charge_inPlace task.budgetUsd).updating parentId)
    refine ⟨kept, kept.append fresh enqueues.named present declared fun other member names => ?_⟩
    have same : some parentId = some other.taskId := named.symm.trans ((parent kept).trans names)
    cases same
    rcases mem_update_of_find planted.distinct found member with rfl | ⟨_, differ⟩
    · exact sameCampaign.symm
    · exact absurd rfl differ
  | root unnamed =>
    have kept : Planted (KeyedRows.update CampaignRow.campaignId task.campaignId
      (grant task.budgetUsd) state.campaigns)
        state.tasks := by
      refine ⟨planted.distinct, planted.named, planted.grown, fun other member => ?_, planted.family⟩
      exact declared_grant (planted.declared other member)
    refine ⟨kept, kept.append fresh enqueues.named present
      (declared_grant declared) fun other member names => ?_⟩
    exact absurd (unnamed.symm.trans ((parent kept).trans names)) (Option.some_ne_none _).symm

theorem Budgeted.enqueue (budgeted : Budgeted state)
    (enqueues : Enqueues state task clock campaign allocated after) :
    Budgeted after := by
  obtain ⟨planted, allotted⟩ := budgeted
  obtain ⟨kept, whole⟩ := enqueues.planted planted
  have parent : task.parent = (task.row clock.start).parentTaskId := enqueues.parent_eq kept
  have nonneg : 0 ≤ (task.row clock.start).budgetUsd := task.budgetUsd_nonneg
  have allocates := enqueues.allocates
  have fresh := enqueues.fresh
  refine ⟨whole, ?_⟩
  rw [enqueues.campaigns, enqueues.tasks]
  cases allocates with
  | @child parentId above named found _ fits =>
    have key : above.taskId = parentId := find_key found
    subst key
    have ids : ∀ row : TaskRow, row.taskId = above.taskId →
      (charge task.budgetUsd row).taskId = above.taskId :=
      fun _ same => same
    have absent : KeyedRows.find taskId task.taskId state.tasks = none :=
      (find_update_eq_none ids).mp fresh
    exact allotted.child planted found absent (parent.symm.trans named) rfl nonneg fits
  | root unnamed fits =>
    have found : KeyedRows.find CampaignRow.campaignId
      (task.row clock.start).campaignId state.campaigns = some campaign :=
      enqueues.found
    exact allotted.root planted found fresh (parent.symm.trans unnamed) rfl nonneg fits

theorem Effect.budgeted (effect : Effect state call answer after) (budgeted : Budgeted state) :
    Budgeted after := by
  cases effect with
  | aside aside => exact budgeted.of_eq aside.campaigns aside.tasks
  | declared fresh unallocated budget _ campaigns tasks =>
    rw [Budgeted, campaigns, tasks]
    exact ⟨budgeted.1.declare _, budgeted.2.declare budgeted.1 fresh unallocated budget⟩
  | enqueued enqueues => exact budgeted.enqueue enqueues
  | linked links => exact budgeted.of_eq links.campaigns links.tasks
  | started starts =>
    refine budgeted.edit ?_ (fun _ => ?_) starts.campaigns starts.tasks
    · exact ⟨fun _ => rfl, fun _ => rfl, fun _ => rfl, fun _ => rfl⟩
    · rfl
  | finished _ _ _ closes => exact budgeted.closes closes
  | recovered closes => exact budgeted.closesAll closes

theorem empty_budgeted : Budgeted .empty :=
  ⟨⟨nodup_nil, by simp [empty], Forest.grown_nil, by simp [empty],
      by simp [empty]⟩,
    ⟨nodup_nil, by simp [empty], by simp [empty],
      by simp [empty]⟩⟩

theorem history_budgeted (calls : List SchedulerCall) : Budgeted (history calls) :=
  run_preserves Budgeted empty_budgeted
    (fun _ _ budgeted => next_of_answered Budgeted budgeted fun _ _ ok =>
      (handle_effect ok).budgeted budgeted) calls

def campaignTasks (campaignId : String) (tasks : List TaskRow) : List TaskRow :=
  tasks.filter fun row => row.campaignId = campaignId

theorem children_campaignTasks (planted : Planted campaigns tasks) {campaignId : String}
    (member : row ∈ campaignTasks campaignId tasks) :
    Forest.children parentTaskId row.taskId (campaignTasks campaignId tasks) =
      Forest.children parentTaskId row.taskId tasks := by
  obtain ⟨held, home⟩ := mem_filter.mp member
  rw [campaignTasks, Forest.children, filter_filter, Forest.children]
  refine filter_congr fun child there => ?_
  by_cases names : child.parentTaskId = some row.taskId
  · have same := (planted.family child there row held names).trans (of_decide_eq_true home)
    simp [names, same]
  · simp [names]

theorem roots_campaignTasks (campaignId : String) :
    KeyedRows.total budgetUsd (Forest.roots parentTaskId (campaignTasks campaignId tasks)) =
      rootBudget campaignId tasks := by
  rw [campaignTasks, Forest.roots, filter_filter, rootBudget, spent]
  refine congrArg (KeyedRows.total budgetUsd) (filter_congr fun row _ => ?_)
  cases row.parentTaskId with
  | none => simp
  | some => simp

theorem Budgeted.apart_le (budgeted : Budgeted state) (member : campaign ∈ state.campaigns)
    (inside : ∀ task ∈ chosen, task ∈ state.tasks ∧ task.campaignId = campaign.campaignId)
    (once : chosen.Nodup) (apart : Forest.Apart taskId parentTaskId state.tasks chosen) :
    KeyedRows.total budgetUsd chosen ≤ campaign.usdBudget := by
  obtain ⟨planted, allotted⟩ := budgeted
  have grown : Forest.Grown taskId parentTaskId
    (campaignTasks campaign.campaignId state.tasks) :=
    planted.grown.filter fun row held other there names home =>
      (planted.family row held other there names).symm.trans home
  have bears : Forest.Bears taskId parentTaskId budgetUsd
      (campaignTasks campaign.campaignId state.tasks) := by
    intro row held
    rw [children_campaignTasks planted held]
    obtain ⟨sum, fits⟩ := allotted.children row (mem_filter.mp held).1
    have total : KeyedRows.total budgetUsd
      (Forest.children parentTaskId row.taskId state.tasks) =
        row.childAllocatedUsd := sum.symm
    exact total.trans_le fits
  have nonneg : ∀ row ∈ campaignTasks campaign.campaignId state.tasks, 0 ≤ row.budgetUsd :=
    fun row held => allotted.nonneg row (mem_filter.mp held).1
  have nodup : (campaignTasks campaign.campaignId state.tasks).Nodup :=
    (List.Nodup.of_map _ planted.distinct).filter _
  have among : chosen ⊆ campaignTasks campaign.campaignId state.tasks := fun row held =>
    mem_filter.mpr ⟨(inside row held).1, decide_eq_true (inside row held).2⟩
  have unrelated : Forest.Apart taskId parentTaskId
      (campaignTasks campaign.campaignId state.tasks) chosen := fun first held second there above =>
    apart first held second there (above.mono fun _ held => (mem_filter.mp held).1)
  calc KeyedRows.total budgetUsd chosen
      ≤ KeyedRows.total budgetUsd
          (Forest.roots parentTaskId (campaignTasks campaign.campaignId state.tasks)) :=
        Forest.total_apart_le grown bears nonneg nodup among once unrelated
    _ = campaign.allocatedUsd := by rw [roots_campaignTasks, (allotted.campaign campaign member).1]
    _ ≤ campaign.usdBudget := (allotted.campaign campaign member).2

/-- After any calls, what is allocated from a campaign is what its tasks without a parent have, what
is allocated from a task is what its children have, and neither is more than there is; so tasks of a
campaign none of which is above another one have at most its budget. -/
theorem budgets_hold (calls : List SchedulerCall) :
    (∀ campaign ∈ (history calls).campaigns,
      campaign.allocatedUsd = rootBudget campaign.campaignId (history calls).tasks ∧
        campaign.allocatedUsd ≤ campaign.usdBudget) ∧
    (∀ task ∈ (history calls).tasks,
      task.childAllocatedUsd = childBudget task.taskId (history calls).tasks ∧
        task.childAllocatedUsd ≤ task.budgetUsd) ∧
    ∀ campaign ∈ (history calls).campaigns, ∀ chosen : List TaskRow, chosen.Nodup →
      (∀ task ∈ chosen, task ∈ (history calls).tasks ∧ task.campaignId = campaign.campaignId) →
        Forest.Apart taskId parentTaskId (history calls).tasks chosen →
          KeyedRows.total budgetUsd chosen ≤ campaign.usdBudget := by
  have budgeted := history_budgeted calls
  refine ⟨budgeted.2.campaign, budgeted.2.children, ?_⟩
  intro campaign member chosen once inside apart
  exact budgeted.apart_le member inside once apart

end Liki.Scheduler
