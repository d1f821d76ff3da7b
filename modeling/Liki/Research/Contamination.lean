import Liki.Research.Exposures

/-! Contamination. A sealed answer marks the exposed strategy and its descendants at once; an
object that is registered later takes the tags of its parents. Descendants of exposed strategies
are marked either way, and trials are recorded with the tags that their strategy has by then. -/
namespace Liki.Research
open Checks CallSystem AppendOnly Reachability List ResearchState

variable {state after : ResearchState} {actor : Identity} {object : ResearchObject} {trial : Trial}
  {request : SealedRequest} {objectId tag : String} {child : String}
  {contamination : List ContaminationEdge} {edge : ContaminationEdge}
  {parents : List (String × String)}

def sealedTag : String := "saw_sealed_category"

def Exposed (state : ResearchState) (objectId : String) : Prop :=
  ∃ query ∈ state.queries, Reaches state.parentage objectId query.strategyVersionId

theorem mem_tagsOf : tag ∈ state.tagsOf objectId ↔
    ∃ edge ∈ state.contamination, edge.descendantId = objectId ∧ edge.tag = tag := by
  simp [tagsOf, and_assoc]

theorem mem_inherits (member : edge ∈ contamination) :
    edge ∈ parents.foldl (fun contamination parent =>
      insertAll contamination (inherited contamination parent.1 child)) contamination := by
  induction parents generalizing contamination with
  | nil => exact member
  | cons _ _ ih => exact ih (mem_insertAll.mpr (.inl member))

theorem inherits (listed : parent ∈ parents.map Prod.fst) (member : edge ∈ contamination)
    (marked : edge.descendantId = parent) :
    ⟨parent, child, edge.tag⟩ ∈ parents.foldl (fun contamination parent =>
      insertAll contamination (inherited contamination parent.1 child)) contamination := by
  induction parents generalizing contamination with
  | nil => cases listed
  | cons _ _ ih =>
    rcases mem_cons.mp listed with rfl | later
    · rw [foldl_cons]
      refine mem_inherits (mem_insertAll.mpr (.inr ?_))
      rw [inherited, map_map]
      exact mem_map.mpr ⟨edge, mem_filter.mpr ⟨member, decide_eq_true marked⟩, rfl⟩
    · exact ih later (mem_insertAll.mpr (.inl member))

structure Marks (state after : ResearchState) : Prop where
  kept : state.contamination ⊆ after.contamination
  trials : ∃ more, after.trials = state.trials ++ more ∧
    ∀ row ∈ more, ∀ tag ∈ state.tagsOf row.strategyVersionId, tag ∈ row.contaminationTags

theorem Marks.of_eq (contamination : state.contamination ⊆ after.contamination)
    (trials : after.trials = state.trials) : Marks state after :=
  ⟨contamination, [], by rw [trials, append_nil], fun _ member => absurd member not_mem_nil⟩

theorem Marks.refl (state : ResearchState) : Marks state state := .of_eq (List.Subset.refl _) rfl

theorem Marks.tagsOf (marks : Marks state after) (member : tag ∈ state.tagsOf objectId) :
    tag ∈ after.tagsOf objectId := by
  obtain ⟨edge, held, named⟩ := mem_tagsOf.mp member
  exact mem_tagsOf.mpr ⟨edge, marks.kept held, named⟩

theorem Marks.trans (first : Marks state between) (second : Marks between after) :
    Marks state after := by
  obtain ⟨more, trials, tagged⟩ := first.trials
  obtain ⟨rest, added, marked⟩ := second.trials
  refine ⟨List.Subset.trans first.kept second.kept, more ++ rest, ?_, fun row member tag given => ?_⟩
  · rw [added, trials, append_assoc]
  · rcases mem_append.mp member with earlier | later
    · exact tagged row earlier tag given
    · exact marked row later tag (first.tagsOf given)

theorem register_marks (ok : register state actor object = .ok (objectId, after)) :
    Marks state after ∧ ∀ parent ∈ object.parents, ∀ tag ∈ state.tagsOf parent.1,
      tag ∈ after.tagsOf object.objectId := by
  simp only [register, bind_ok, guard_ok, pair_ok] at ok
  obtain ⟨_, -, _, -, -, _, written, inserted, entered, -, -, rfl⟩ := ok
  obtain ⟨_, -, rfl⟩ := transition_ok written
  have same : inserted.contamination = state.contamination ∧ inserted.trials = state.trials := by
    unfold insertObject at entered
    split at entered
    · cases entered
      exact ⟨rfl, rfl⟩
    · simp only [bind_ok, guard_ok, pure_ok] at entered
      obtain ⟨-, rfl⟩ := entered
      exact ⟨rfl, rfl⟩
  refine ⟨.of_eq (fun edge member => mem_inherits (same.1 ▸ member)) same.2,
    fun parent listed tag marked => ?_⟩
  obtain ⟨_, member, named, rfl⟩ := mem_tagsOf.mp marked
  exact mem_tagsOf.mpr ⟨_, inherits (mem_map_of_mem listed) (same.1 ▸ member) named, rfl, rfl⟩

theorem mem_sortedTags : tag ∈ sortedTags tags ↔ tag ∈ tags := by
  rw [sortedTags, mem_insertionSort, mem_dedup]

theorem recordTrial_marks (ok : recordTrial state actor trial = .ok (trialEventId, after)) :
    Marks state after := by
  obtain ⟨_, written, entered⟩ := recordTrial_written ok
  obtain ⟨_, -, rfl⟩ := transition_ok written
  unfold insertTrial at entered
  split at entered
  · cases entered
    exact .of_eq (List.Subset.refl _) rfl
  · simp only [bind_ok, guard_ok, pure_ok] at entered
    obtain ⟨-, -, -, rfl⟩ := entered
    refine ⟨List.Subset.refl _, [_], rfl, fun row member tag marked => ?_⟩
    rw [mem_singleton.mp member] at marked ⊢
    exact mem_sortedTags.mpr (mem_append_right _ marked)

theorem sealedResult_marks
    (ok : sealedResult state actor request = .ok ((category, queryId), after)) :
    Marks state after ∧ (after.queries = state.queries ∨
      ∀ objectId, Reaches state.parentage objectId request.strategyVersionId →
        sealedTag ∈ after.tagsOf objectId) := by
  simp only [sealedResult, bind_ok] at ok
  obtain ⟨-, -, ok⟩ := ok
  split at ok
  · simp only [bind_ok, guard_ok, pair_ok] at ok
    obtain ⟨-, -, rfl⟩ := ok
    exact ⟨.refl _, .inl rfl⟩
  · simp only [bind_ok, guard_ok, expect_ok, pair_ok] at ok
    obtain ⟨_, -, _, -, -, -, -, -, _, written, -, -, rfl⟩ := ok
    obtain ⟨_, -, rfl⟩ := transition_ok written
    refine ⟨.of_eq (fun edge member => mem_insertAll.mpr (.inl member)) rfl, .inr fun objectId path => ?_⟩
    refine mem_tagsOf.mpr ⟨⟨request.queryId, objectId, sealedTag⟩, mem_insertAll.mpr (.inr ?_), rfl, rfl⟩
    exact mem_map.mpr
      ⟨objectId, mem_closure.mpr ⟨_, mem_singleton_self _, reaches_swap.mpr path⟩, rfl⟩

/-- Edges lead from registered objects, and every registered descendant of an exposed strategy is
marked. -/
structure Marked (state : ResearchState) : Prop where
  children : ∀ edge ∈ state.edges, state.Has edge.childId
  marked : ∀ objectId, state.Has objectId → Exposed state objectId → sealedTag ∈ state.tagsOf objectId

theorem marked_empty : Marked .empty where
  children := by simp [empty]
  marked := by simp [Exposed, empty]

theorem Marked.keeps (marked : Marked state) (marks : Marks state after)
    (objects : after.objects = state.objects)
    (edges : after.edges = state.edges) (queries : after.queries = state.queries) : Marked after where
  children := by
    intro edge member
    rw [ResearchState.Has, objects]
    exact marked.children edge (edges ▸ member)
  marked := by
    intro objectId has exposed
    rw [ResearchState.Has, objects] at has
    rw [Exposed, queries, parentage, edges] at exposed
    exact marks.tagsOf (marked.marked objectId has exposed)

theorem Marked.aside (marked : Marked state) (contamination : after.contamination = state.contamination)
    (trials : after.trials = state.trials) (objects : after.objects = state.objects)
    (edges : after.edges = state.edges) (queries : after.queries = state.queries) :
    Marked after ∧ Marks state after := by
  have marks : Marks state after := .of_eq (contamination ▸ List.Subset.refl _) trials
  exact ⟨marked.keeps marks objects edges queries, marks⟩

theorem Registers.exposed_of_has (sound : Sound state) (registers : Registers state actor object after)
    (has : state.Has objectId) (exposed : Exposed after objectId) : Exposed state objectId := by
  obtain ⟨query, member, path⟩ := exposed
  rw [registers.queries] at member
  exact ⟨query, member, (registers.reaches_iff sound.registered has).mp path⟩

theorem Registers.exposed_parent (sound : Sound state) (marked : Marked state)
    (registers : Registers state actor object after) (absent : ¬state.Has object.objectId)
    (exposed : Exposed after object.objectId) :
    ∃ parent ∈ object.parents, state.Has parent.1 ∧ Exposed state parent.1 := by
  obtain ⟨query, member, path⟩ := exposed
  rcases path.cases_head with same | ⟨_, edge, rest⟩
  · rw [registers.queries] at member
    exact absurd (same ▸ sound.exposed query member) absent
  · obtain ⟨row, held, same⟩ := mem_map.mp edge
    obtain ⟨child, rfl⟩ := Prod.mk.inj same
    rw [registers.edges, mem_insertAll] at held
    rcases held with older | new
    · exact absurd (child ▸ marked.children row older) absent
    · obtain ⟨parent, listed, rfl⟩ := mem_map.mp new
      have has := registers.parents parent listed
      exact ⟨parent, listed, has, registers.exposed_of_has sound has ⟨query, member, rest⟩⟩

theorem Registers.marked (sound : Sound state) (marked : Marked state)
    (registers : Registers state actor object after) (marks : Marks state after)
    (inherited : ∀ parent ∈ object.parents, ∀ tag ∈ state.tagsOf parent.1,
      tag ∈ after.tagsOf object.objectId) :
    Marked after := by
  rcases registers.cases sound.registered with ⟨objects, edges, -⟩ | ⟨absent, objects, -⟩
  · exact marked.keeps marks objects edges registers.queries
  · refine ⟨fun edge member => ?_, fun objectId has exposed => ?_⟩
    · rw [registers.edges, mem_insertAll] at member
      rcases member with older | new
      · exact registers.has_of_has (marked.children edge older)
      · obtain ⟨parent, -, rfl⟩ := mem_map.mp new
        rw [ResearchState.Has, objects]
        exact ⟨_, mem_append_right _ mem_cons_self, rfl⟩
    · rw [ResearchState.Has, objects] at has
      obtain ⟨row, held, rfl⟩ := has
      rcases KeyedRows.mem_added held with older | new
      · have known : state.Has row.objectId := ⟨row, older, rfl⟩
        exact marks.tagsOf (marked.marked _ known (registers.exposed_of_has sound known exposed))
      · rw [new] at exposed ⊢
        obtain ⟨parent, listed, known, before⟩ := registers.exposed_parent sound marked absent exposed
        exact inherited parent listed sealedTag (marked.marked _ known before)

theorem Exposes.marked (marked : Marked state)
    (exposes : Exposes state actor request holdout row after) (marks : Marks state after)
    (descendants : ∀ objectId, Reaches state.parentage objectId request.strategyVersionId →
      sealedTag ∈ after.tagsOf objectId) : Marked after where
  children := by
    intro edge member
    rw [ResearchState.Has, exposes.objects]
    exact marked.children edge (exposes.edges ▸ member)
  marked := by
    rintro objectId has ⟨query, member, path⟩
    rw [ResearchState.Has, exposes.objects] at has
    rw [exposes.parentage] at path
    rw [exposes.queries] at member
    rcases KeyedRows.mem_added member with older | new
    · exact marks.tagsOf (marked.marked objectId has ⟨query, older, path⟩)
    · rw [new] at path
      exact descendants objectId path

theorem Marked.step (sound : Sound state) (marked : Marked state)
    (ok : handle state call = .ok (answer, after)) : Marked after ∧
      Marks state after := by
  obtain ⟨_, call⟩ := call
  cases call with
  | register =>
    simp only [handle, bind_ok, pair_ok] at ok
    obtain ⟨⟨_, stored⟩, done, -, rfl⟩ := ok
    obtain ⟨marks, inherited⟩ := register_marks done
    exact ⟨(register_ok done).marked sound marked marks inherited, marks⟩
  | trial =>
    simp only [handle, bind_ok, pair_ok] at ok
    obtain ⟨⟨_, stored⟩, done, -, rfl⟩ := ok
    obtain ⟨tags, -, objects, edges, queries, -⟩ := recordTrial_ok done
    have marks := recordTrial_marks done
    exact ⟨marked.keeps marks objects edges queries, marks⟩
  | sealedResult =>
    simp only [handle, bind_ok, pair_ok] at ok
    obtain ⟨⟨⟨_, _⟩, stored⟩, done, -, rfl⟩ := ok
    obtain ⟨marks, exposed⟩ := sealedResult_marks done
    rcases sealedResult_ok done with ⟨rfl, -⟩ | ⟨holdout, _, exposes, -⟩
    · exact ⟨marked, marks⟩
    · rcases exposed with same | descendants
      · rw [exposes.queries] at same
        simp at same
      · exact ⟨exposes.marked marked marks descendants, marks⟩
  | remember =>
    simp only [handle, bind_ok, pair_ok] at ok
    obtain ⟨⟨_, _⟩, done, -, rfl⟩ := ok
    obtain ⟨_, -, same⟩ := remember_ok done
    rw [same]
    exact marked.aside rfl rfl rfl rfl rfl
  | putArtifact =>
    simp only [handle, bind_ok, pair_ok] at ok
    obtain ⟨_, -, -, rfl⟩ := ok
    exact marked.aside rfl rfl rfl rfl rfl
  | admitEvidence =>
    simp only [handle, bind_ok, guard_ok, pair_ok] at ok
    obtain ⟨-, -, rfl⟩ := ok
    exact marked.aside rfl rfl rfl rfl rfl
  | campaign =>
    cases ok
    exact marked.aside rfl rfl rfl rfl rfl
  | holdout =>
    simp only [handle, bind_ok, guard_ok, pair_ok] at ok
    obtain ⟨-, -, rfl⟩ := ok
    exact marked.aside rfl rfl rfl rfl rfl
  | retire =>
    cases ok
    exact marked.aside rfl rfl rfl rfl rfl

theorem history_marked (calls : List (Identity × ResearchCall)) : Marked (history calls) := by
  have both : Sound (history calls) ∧ Marked (history calls) := by
    refine run_preserves (fun state => Sound state ∧ Marked state) ⟨sound_empty, marked_empty⟩
      (fun state call ⟨sound, marked⟩ => ?_) calls
    exact next_of_answered (fun state => Sound state ∧ Marked state) ⟨sound, marked⟩ fun _ _ ok =>
      ⟨sound.step ok, (marked.step sound ok).1⟩
  exact both.2

theorem history_marks (earlier later : List (Identity × ResearchCall)) :
    Marks (history earlier) (history (earlier ++ later)) := by
  induction later using reverseRecOn with
  | nil =>
    rw [append_nil]
    exact .refl _
  | append_singleton later call ih =>
    have last : history (earlier ++ (later ++ [call])) = next handle (history (earlier ++ later)) call := by
      rw [← append_assoc]
      exact run_append _ _
    rw [last]
    refine next_of_answered (Marks (history earlier)) ih fun _ after ok => ih.trans ?_
    exact ((history_marked _).step (history_sound _) ok).2

/-- In every run the registered descendants of exposed strategies are marked, and the trials that
are recorded for a marked strategy from then on have the tag. -/
theorem exposures_contaminate (earlier later : List (Identity × ResearchCall)) :
    (∀ objectId, (history earlier).Has objectId → Exposed (history earlier) objectId →
      ∃ edge ∈ (history earlier).contamination, edge.descendantId = objectId ∧ edge.tag = sealedTag) ∧
    ∃ recorded, (history (earlier ++ later)).trials = (history earlier).trials ++ recorded ∧
      ∀ row ∈ recorded, (history earlier).Has row.strategyVersionId →
        Exposed (history earlier) row.strategyVersionId → sealedTag ∈ row.contaminationTags := by
  have marked := history_marked earlier
  obtain ⟨recorded, trials, tagged⟩ := (history_marks earlier later).trials
  refine ⟨fun objectId has exposed => mem_tagsOf.mp (marked.marked objectId has exposed), recorded,
    trials, ?_⟩
  intro row member has exposed
  exact tagged row member sealedTag (marked.marked _ has exposed)

/-- The trial that an exposure asks for is recorded before it, without the tag. -/
theorem declared_untagged : ¬∀ calls objectId, (history calls).Has objectId → Exposed
    (history calls) objectId →
    (∃ edge ∈ (history calls).contamination, edge.descendantId = objectId ∧ edge.tag = sealedTag) ∧
      ∀ row ∈ (history calls).trials, row.strategyVersionId = objectId →
        sealedTag ∈ row.contaminationTags := by
  intro always
  have run : (∃ row ∈ (history Small.calls).objects, row.objectId = "PARENT") ∧
      (∃ query ∈ (history Small.calls).queries, query.strategyVersionId = "PARENT") ∧
        ∃ row ∈ (history Small.calls).trials, row.strategyVersionId = "PARENT" ∧
          sealedTag ∉ row.contaminationTags := by
    decide +kernel
  obtain ⟨has, ⟨query, member, named⟩, row, recorded, own, untagged⟩ := run
  have exposed : Exposed (history Small.calls) "PARENT" := ⟨query, member, named ▸ .refl⟩
  exact untagged ((always Small.calls "PARENT" has exposed).2 row recorded own)

end Liki.Research
