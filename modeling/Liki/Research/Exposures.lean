import Liki.Research.Service

/-! Exposures of a holdout. Edges are added with the object they lead from, which no path
leads to before, so the ancestors of an object never change once it is registered; what was
apart when a strategy was exposed stays apart. -/
namespace Liki.Research
open Checks CallSystem AppendOnly Reachability KeyedRows List Store

variable {state after : ResearchState} {actor : Identity} {object : ResearchObject} {trial : Trial}
  {request : SealedRequest} {objectId : String}

def ResearchState.Has (state : ResearchState) (objectId : String) : Prop :=
  ∃ row ∈ state.objects, row.objectId = objectId

theorem has_iff : state.Has objectId ↔ (state.findObject objectId).isSome := by
  simp [ResearchState.Has, ResearchState.findObject, KeyedRows.find]

theorem transition_ok {request : ResearchTransition}
    (ok : state.transition actor capability operationKey request = .ok after) :
    ∃ store, state.store.Recorded operationKey request none store ∧ after = { state with store } := by
  simp only [ResearchState.transition, bind_ok, guard_ok, pure_ok] at ok
  obtain ⟨-, -, -, store, recorded, rfl⟩ := ok
  exact ⟨store, transition_recorded recorded, rfl⟩

/-- What a registration makes of the tables. -/
structure Registers (state : ResearchState) (actor : Identity) (object : ResearchObject)
    (after : ResearchState) : Prop where
  recorded : state.store.Recorded object.operationKey (object.request actor) none after.store
  parents : ∀ parent ∈ object.parents, state.Has parent.1
  objects : after.objects = state.objects ∧ state.Has object.objectId ∨
    after.objects = state.objects ++ [⟨object.objectId, object.campaignId, actor.principalId⟩] ∧
      ¬state.Has object.objectId
  edges : after.edges = insertAll state.edges object.edges
  queries : after.queries = state.queries
  holdouts : after.holdouts = state.holdouts

theorem register_ok (ok : register state actor object = .ok (objectId, after)) :
    Registers state actor object after := by
  simp only [register, bind_ok, guard_ok, pair_ok, not_exists, not_and, not_forall, not_not] at ok
  obtain ⟨_, -, _, -, parents, recorded, written, inserted, entered, -, -, rfl⟩ := ok
  obtain ⟨store, stored, rfl⟩ := transition_ok written
  have known : ∀ parent ∈ object.parents, state.Has parent.1 := by
    intro parent member
    obtain ⟨row, found, -⟩ := parents parent member
    exact ⟨row, find_mem found, find_key found⟩
  unfold insertObject at entered
  split at entered
  · rename_i present
    cases entered
    exact ⟨stored, known, .inl ⟨rfl, has_iff.mpr present⟩, rfl, rfl, rfl⟩
  · rename_i absent
    simp only [bind_ok, guard_ok, pure_ok] at entered
    obtain ⟨-, rfl⟩ := entered
    exact ⟨stored, known, .inr ⟨rfl, fun present => absent (has_iff.mp present)⟩, rfl, rfl, rfl⟩

variable {trialEventId : String}

theorem recordTrial_written (ok : recordTrial state actor trial = .ok (trialEventId, after)) :
    ∃ recorded, state.transition actor .research trial.operationKey
      (trial.request actor (sortedTags (trial.contaminationTags ++ state.tagsOf trial.strategyVersionId))) =
        .ok recorded ∧ insertTrial recorded trial
          (sortedTags (trial.contaminationTags ++ state.tagsOf trial.strategyVersionId)) = .ok after := by
  simp only [recordTrial, bind_ok, guard_ok] at ok
  obtain ⟨_, -, -, ok⟩ := ok
  split at ok
  all_goals
    simp only [bind_ok, guard_ok, pair_ok] at ok
    obtain ⟨-, recorded, written, _, entered, -, rfl⟩ := ok
    exact ⟨recorded, written, entered⟩

theorem recordTrial_ok (ok : recordTrial state actor trial = .ok (trialEventId, after)) :
    ∃ tags, state.store.Recorded trial.operationKey (trial.request actor tags) none after.store ∧
      after.objects = state.objects ∧ after.edges = state.edges ∧ after.queries = state.queries ∧
      after.holdouts = state.holdouts := by
  obtain ⟨_, written, entered⟩ := recordTrial_written ok
  obtain ⟨_, stored, rfl⟩ := transition_ok written
  unfold insertTrial at entered
  split at entered
  · cases entered
    exact ⟨_, stored, rfl, rfl, rfl, rfl⟩
  · simp only [bind_ok, guard_ok, pure_ok] at entered
    obtain ⟨-, -, -, rfl⟩ := entered
    exact ⟨_, stored, rfl, rfl, rfl, rfl⟩

theorem insertClaim_eq (state : ResearchState) (row : MemoryRow) :
    insertClaim state row = { state with claims := (insertClaim state row).claims } := by
  unfold insertClaim
  split <;> rfl

theorem remember_ok (ok : remember state actor now claim = .ok (memoryId, after)) :
    ∃ tags, state.store.Recorded claim.operationKey (claim.request actor tags) none after.store ∧
      after = { state with store := after.store, claims := after.claims } := by
  simp only [remember, bind_ok, expect_ok, guard_ok, pair_ok] at ok
  obtain ⟨_, -, -, _, -, _, -, -, _, written, -, rfl⟩ := ok
  obtain ⟨_, stored, rfl⟩ := transition_ok written
  rw [insertClaim_eq]
  exact ⟨_, stored, rfl⟩

/-- What an answered query makes of the tables. -/
structure Exposes (state : ResearchState) (actor : Identity) (request : SealedRequest)
    (holdout : HoldoutPolicy)
    (object : ObjectRow) (after : ResearchState) : Prop where
  unasked : state.findQuery request.holdoutId request.strategyVersionId = none
  policy : state.findHoldout request.holdoutId = some holdout
  strategy : state.findObject request.strategyVersionId = some object
  affordable : holdout.queries < holdout.queryBudget
  family : ∀ query ∈ state.queriesOf request.holdoutId, query.trialFamilyId ≠ request.familyId
  lineage : ¬LineageExposed state request.holdoutId request.strategyVersionId
  recorded : state.store.Recorded request.operationKey
    (request.transition actor object.campaignId holdout.policyVersion) none after.store
  objects : after.objects = state.objects
  edges : after.edges = state.edges
  queries : after.queries = state.queries ++ [request.query holdout object.campaignId]
  holdouts : after.holdouts = KeyedRows.update HoldoutPolicy.holdoutId request.holdoutId
    (fun row => { row with queries := row.queries + 1 }) state.holdouts

variable {category : Category} {queryId : String}

theorem sealedResult_ok (ok : sealedResult state actor request = .ok ((category, queryId), after)) :
    (after = state ∧ ∃ old, state.findQuery request.holdoutId request.strategyVersionId = some old ∧
      request.Asks old ∧ category = old.responseCategory ∧ queryId = old.holdoutQueryId) ∨
    ∃ holdout object, Exposes state actor request holdout object after ∧ category = request.category ∧
      queryId = request.queryId := by
  simp only [sealedResult, bind_ok] at ok
  obtain ⟨-, -, ok⟩ := ok
  split at ok
  · rename_i old found
    simp only [bind_ok, guard_ok, pair_ok, not_not] at ok
    obtain ⟨asks, ⟨rfl, rfl⟩, rfl⟩ := ok
    exact .inl ⟨rfl, old, found, asks, rfl, rfl⟩
  · rename_i absent
    simp only [bind_ok, guard_ok, expect_ok, pair_ok] at ok
    obtain ⟨holdout, policy, object, strategy, usable, -, family, lineage, _, written, -,
      ⟨rfl, rfl⟩, rfl⟩ := ok
    obtain ⟨_, stored, rfl⟩ := transition_ok written
    refine .inr ⟨holdout, object,
      ⟨absent, policy, strategy, ?_, ?_, lineage, stored, rfl, rfl, rfl, rfl⟩, rfl, rfl⟩
    · simp only [not_or, not_le] at usable
      exact usable.2.2
    · intro query member same
      exact family ⟨query, member, same⟩

structure Registered (state : ResearchState) : Prop where
  versions : ∀ objectId, state.Has objectId → 0 < state.store.version "research_object" objectId
  recorded : ∀ event ∈ state.store.events, ∀ object, event.request.state = .object object →
    state.Has object.objectId ∧ ∀ edge ∈ object.edges, edge ∈ state.edges
  edges : ∀ edge ∈ state.edges, state.Has edge.parentId

theorem Registered.keeps (registered : Registered state) (objects : after.objects = state.objects)
    (edges : after.edges = state.edges)
    (versions : ∀ objectId, state.store.version "research_object" objectId ≤
      after.store.version "research_object" objectId)
    (events : ∀ event ∈ after.store.events, event ∈ state.store.events ∨
      ∀ object, event.request.state ≠ .object object) : Registered after := by
  have same : ∀ objectId, after.Has objectId ↔ state.Has objectId := by
    intro objectId
    rw [ResearchState.Has, ResearchState.Has, objects]
  refine ⟨fun objectId has => ?_, fun event member object recorded => ?_, fun edge member => ?_⟩
  · have before := registered.versions objectId ((same objectId).mp has)
    have grown := versions objectId
    omega
  · rcases events event member with older | other
    · obtain ⟨has, present⟩ := registered.recorded event older object recorded
      rw [edges]
      exact ⟨(same _).mpr has, present⟩
    · exact absurd recorded (other object)
  · rw [edges] at member
    exact (same _).mpr (registered.edges edge member)

theorem Registered.records (registered : Registered state) {request : ResearchTransition}
    (recorded : state.store.Recorded operationKey request none after.store)
    (other : ∀ object, request.state ≠ .object object) (objects : after.objects = state.objects)
    (edges : after.edges = state.edges) : Registered after := by
  refine registered.keeps objects edges (fun objectId => recorded.version_le _ _) fun event member => ?_
  refine (recorded.mem_events member).imp_right fun same object => ?_
  rw [same]
  exact other object

/-- An object that is registered again changes nothing; otherwise it was not there. -/
theorem Registers.cases (registered : Registered state) (registers : Registers state actor object after) :
    (after.objects = state.objects ∧ after.edges = state.edges ∧ after.store = state.store) ∨
      (¬state.Has object.objectId ∧
        after.objects = state.objects ++ [⟨object.objectId, object.campaignId, actor.principalId⟩] ∧
        after.store = state.store.append object.operationKey (object.request actor) none) := by
  have stored := registers.recorded
  generalize kept : after.store = store at stored
  cases stored with
  | replayed member _ same =>
    obtain ⟨has, present⟩ := registered.recorded _ member object (by rw [same]; rfl)
    refine .inl ⟨?_, ?_, rfl⟩
    · rcases registers.objects with ⟨unchanged, -⟩ | ⟨-, absent⟩
      · exact unchanged
      · exact absurd has absent
    · rw [registers.edges, insertAll_of_subset present]
  | appended _ current =>
    have absent : ¬state.Has object.objectId := by
      intro has
      have positive := registered.versions _ has
      have zero : 0 = state.store.version "research_object" object.objectId := current
      omega
    rcases registers.objects with ⟨-, has⟩ | ⟨added, -⟩
    · exact absurd has absent
    · exact .inr ⟨absent, added, rfl⟩

theorem Registers.has_of_has (registers : Registers state actor object after)
    (has : state.Has objectId) : after.Has objectId := by
  obtain ⟨row, member, named⟩ := has
  rcases registers.objects with ⟨same, -⟩ | ⟨added, -⟩
  · exact ⟨row, same ▸ member, named⟩
  · exact ⟨row, added ▸ mem_append_left _ member, named⟩

theorem Registers.registered (registered : Registered state)
    (registers : Registers state actor object after) :
    Registered after := by
  rcases registers.cases registered with ⟨objects, edges, store⟩ | ⟨absent, objects, store⟩
  · exact registered.keeps objects edges (fun objectId => by rw [store]) fun event member => .inl
      (store ▸ member)
  · have newest : after.Has object.objectId := by
      rw [ResearchState.Has, objects]
      exact ⟨_, mem_append_right _ mem_cons_self, rfl⟩
    refine ⟨fun objectId has => ?_, fun event member other recorded => ?_, fun edge member => ?_⟩
    · rw [store, version_append]
      split
      · exact Nat.succ_pos _
      · rename_i differ
        rw [ResearchState.Has, objects] at has
        obtain ⟨row, held, named⟩ := has
        rcases mem_added held with older | new
        · exact registered.versions objectId ⟨row, older, named⟩
        · rw [new] at named
          exact absurd ⟨rfl, named⟩ differ
    · rw [store] at member
      rcases mem_added member with older | new
      · obtain ⟨has, present⟩ := registered.recorded event older other recorded
        refine ⟨registers.has_of_has has, fun edge listed => ?_⟩
        rw [registers.edges, mem_insertAll]
        exact .inl (present edge listed)
      · rw [new] at recorded
        cases recorded
        refine ⟨newest, fun edge listed => ?_⟩
        rw [registers.edges, mem_insertAll]
        exact .inr listed
    · rw [registers.edges, mem_insertAll] at member
      rcases member with older | new
      · exact registers.has_of_has (registered.edges edge older)
      · obtain ⟨parent, listed, rfl⟩ := mem_map.mp new
        exact registers.has_of_has (registers.parents parent listed)

variable {node : String}

theorem Registered.reaches (registered : Registered state) (has : state.Has objectId)
    (path : Reaches state.parentage objectId node) : state.Has node := by
  rcases path.cases_end with rfl | ⟨_, member, rfl⟩
  · exact has
  · obtain ⟨row, held, rfl⟩ := mem_map.mp member
    exact registered.edges row held

theorem Registers.reaches_iff (registered : Registered state)
    (registers : Registers state actor object after) (has : state.Has objectId) :
    Reaches after.parentage objectId node ↔ Reaches state.parentage objectId node := by
  rcases registers.cases registered with ⟨-, edges, -⟩ | ⟨absent, -, -⟩
  · rw [ResearchState.parentage, ResearchState.parentage, edges]
  · have grows : Grows (fun edge => edge.childId = object.objectId) state.edges after.edges := by
      rw [registers.edges]
      refine grows_insertAll fun edge listed => ?_
      obtain ⟨_, -, rfl⟩ := mem_map.mp listed
      rfl
    obtain ⟨_, added, new⟩ := grows
    rw [ResearchState.parentage, added, map_append]
    refine reaches_append fun edge member path => ?_
    obtain ⟨row, held, rfl⟩ := mem_map.mp member
    have named : row.childId = object.objectId := new row held
    exact absent (named ▸ registered.reaches has path)

/-- No ancestor is common to the two objects, and neither is an ancestor of the other. -/
def Apart (state : ResearchState) (first second : String) : Prop :=
  ∀ node, Reaches state.parentage first node → ¬Reaches state.parentage second node

structure Protected (state : ResearchState) (holdout : HoldoutPolicy) : Prop where
  counted : (state.queriesOf holdout.holdoutId).length = holdout.queries
  within : holdout.queries ≤ holdout.queryBudget
  families : ((state.queriesOf holdout.holdoutId).map HoldoutQuery.trialFamilyId).Nodup
  strategies : ((state.queriesOf holdout.holdoutId).map HoldoutQuery.strategyVersionId).Nodup
  apart : ∀ first ∈ state.queriesOf holdout.holdoutId, ∀ second ∈ state.queriesOf holdout.holdoutId,
    first.strategyVersionId ≠ second.strategyVersionId →
      Apart state first.strategyVersionId second.strategyVersionId

/-- What every run keeps. -/
structure Sound (state : ResearchState) : Prop where
  registered : Registered state
  distinct : KeyedRows.Distinct HoldoutPolicy.holdoutId state.holdouts
  exposed : ∀ query ∈ state.queries, state.Has query.strategyVersionId
  named : ∀ query ∈ state.queries, (state.findHoldout query.holdoutId).isSome
  guarded : ∀ holdout ∈ state.holdouts, Protected state holdout

theorem sound_empty : Sound .empty where
  registered := ⟨by simp [ResearchState.Has, ResearchState.empty],
    by simp [ResearchState.empty, empty],
    by simp [ResearchState.empty]⟩
  distinct := .nil
  exposed := by simp [ResearchState.empty]
  named := by simp [ResearchState.empty]
  guarded := by simp [ResearchState.empty]

theorem Protected.congr (guarded : Protected state holdout)
    (queries : after.queries = state.queries)
    (paths : ∀ query ∈ state.queries, ∀ node, Reaches after.parentage query.strategyVersionId node ↔
      Reaches state.parentage query.strategyVersionId node) : Protected after holdout := by
  have same : after.queriesOf holdout.holdoutId = state.queriesOf holdout.holdoutId := by
    rw [ResearchState.queriesOf, ResearchState.queriesOf, queries]
  refine ⟨same ▸ guarded.counted, guarded.within, same ▸ guarded.families, same ▸ guarded.strategies, ?_⟩
  rw [same]
  intro first here second there differ node path other
  rw [paths first (mem_filter.mp here).1] at path
  rw [paths second (mem_filter.mp there).1] at other
  exact guarded.apart first here second there differ node path other

theorem Sound.keeps (sound : Sound state) (registered : Registered after)
    (objects : after.objects = state.objects)
    (edges : after.edges = state.edges) (queries : after.queries = state.queries)
    (holdouts : after.holdouts = state.holdouts) : Sound after where
  registered := registered
  distinct := holdouts ▸ sound.distinct
  exposed := by
    intro query member
    rw [ResearchState.Has, objects]
    exact sound.exposed query (queries ▸ member)
  named := by
    intro query member
    rw [ResearchState.findHoldout, holdouts]
    exact sound.named query (queries ▸ member)
  guarded := by
    intro holdout member
    refine (sound.guarded holdout (holdouts ▸ member)).congr queries fun query _ node => ?_
    rw [ResearchState.parentage, ResearchState.parentage, edges]

theorem Registers.sound (sound : Sound state) (registers : Registers state actor object after) :
    Sound after where
  registered := registers.registered sound.registered
  distinct := registers.holdouts ▸ sound.distinct
  exposed := by
    intro query member
    exact registers.has_of_has (sound.exposed query (registers.queries ▸ member))
  named := by
    intro query member
    rw [ResearchState.findHoldout, registers.holdouts]
    exact sound.named query (registers.queries ▸ member)
  guarded := by
    intro holdout member
    refine (sound.guarded holdout
      (registers.holdouts ▸ member)).congr registers.queries fun query held node => ?_
    exact registers.reaches_iff sound.registered (sound.exposed query held)

theorem Protected.policy (guarded : Protected state holdout)
    (named : other.holdoutId = holdout.holdoutId) (queries : other.queries = holdout.queries)
    (budget : other.queryBudget = holdout.queryBudget) : Protected state other where
  counted := by rw [named, queries]; exact guarded.counted
  within := by rw [queries, budget]; exact guarded.within
  families := named ▸ guarded.families
  strategies := named ▸ guarded.strategies
  apart := named ▸ guarded.apart

theorem isSome_update (change : HoldoutPolicy → HoldoutPolicy)
    (kept : ∀ row, (change row).holdoutId = row.holdoutId) (holdoutId other : String)
    (holdouts : List HoldoutPolicy) :
    (KeyedRows.find HoldoutPolicy.holdoutId other
      (KeyedRows.update HoldoutPolicy.holdoutId holdoutId change holdouts)).isSome =
        (KeyedRows.find HoldoutPolicy.holdoutId other holdouts).isSome := by
  rw [find_update fun row same => (kept row).trans same, Option.isSome_map]

variable {holdout : HoldoutPolicy} {row : ObjectRow}

theorem Exposes.queriesOf (exposes : Exposes state actor request holdout row after) (holdoutId : String) :
    after.queriesOf holdoutId = state.queriesOf holdoutId ++
      if request.holdoutId = holdoutId then [request.query holdout row.campaignId] else [] := by
  rw [ResearchState.queriesOf, exposes.queries, filter_append]
  congr 1
  split
  · rename_i same
    exact filter_cons_of_pos (decide_eq_true same)
  · rename_i differ
    exact filter_cons_of_neg fun hit => differ (of_decide_eq_true hit)

theorem Exposes.parentage (exposes : Exposes state actor request holdout row after) :
    after.parentage = state.parentage := by
  rw [ResearchState.parentage, ResearchState.parentage, exposes.edges]

theorem Exposes.apart (exposes : Exposes state actor request holdout row after)
    (member : query ∈ state.queriesOf request.holdoutId)
    (differ : query.strategyVersionId ≠ request.strategyVersionId) :
    Apart state request.strategyVersionId query.strategyVersionId := by
  intro node here there
  refine exposes.lineage ⟨query, member, differ, node, ?_, ?_⟩
  · exact mem_closure.mpr ⟨_, mem_singleton_self _, here⟩
  · exact mem_closure.mpr ⟨_, mem_singleton_self _, there⟩

/-- The holdout that is queried has one more answer, within its budget. -/
theorem Exposes.protected (exposes : Exposes state actor request holdout row after)
    (guarded : Protected state holdout) (named : holdout.holdoutId = request.holdoutId) :
    Protected after { holdout with queries := holdout.queries + 1 } := by
  have queries : after.queriesOf holdout.holdoutId =
      state.queriesOf holdout.holdoutId ++ [request.query holdout row.campaignId] := by
    rw [exposes.queriesOf, if_pos named.symm]
  refine ⟨?_, exposes.affordable, ?_, ?_, ?_⟩
  · change (after.queriesOf holdout.holdoutId).length = holdout.queries + 1
    rw [queries, length_append, guarded.counted, length_singleton]
  · change ((after.queriesOf holdout.holdoutId).map HoldoutQuery.trialFamilyId).Nodup
    rw [queries, map_append, nodup_append]
    refine ⟨guarded.families, nodup_singleton _, fun family held other new => ?_⟩
    obtain ⟨query, member, rfl⟩ := mem_map.mp held
    rw [map_singleton, mem_singleton] at new
    rw [new]
    exact exposes.family query (named ▸ member)
  · change ((after.queriesOf holdout.holdoutId).map HoldoutQuery.strategyVersionId).Nodup
    rw [queries, map_append, nodup_append]
    refine ⟨guarded.strategies, nodup_singleton _, fun strategy held other new same => ?_⟩
    obtain ⟨query, member, rfl⟩ := mem_map.mp held
    rw [map_singleton, mem_singleton] at new
    obtain ⟨stored, own⟩ := mem_filter.mp member
    refine find_none.mp exposes.unasked query stored ?_
    exact Prod.ext ((of_decide_eq_true own).trans named) (same.trans new)
  · change ∀ first ∈ after.queriesOf holdout.holdoutId, ∀ second ∈ after.queriesOf holdout.holdoutId, _
    rw [queries]
    intro first here second there differ node path other
    rw [exposes.parentage] at path other
    rcases mem_append.mp here with older | new
    · rcases mem_append.mp there with oldest | newest
      · exact guarded.apart first older second oldest differ node path other
      · rw [mem_singleton.mp newest] at other differ
        exact exposes.apart (named ▸ older) differ node other path
    · rw [mem_singleton.mp new] at path differ
      rcases mem_append.mp there with oldest | newest
      · exact exposes.apart (named ▸ oldest) (Ne.symm differ) node path other
      · rw [mem_singleton.mp newest] at differ
        exact differ rfl

theorem Exposes.sound (sound : Sound state) (exposes : Exposes state actor request holdout row after) :
    Sound after where
  registered := by
    refine sound.registered.records exposes.recorded ?_ exposes.objects exposes.edges
    intro object
    simp [SealedRequest.transition]
  distinct := by
    rw [exposes.holdouts]
    exact distinct_update (fun _ same => same) sound.distinct
  exposed := by
    intro query member
    rw [ResearchState.Has, exposes.objects]
    rw [exposes.queries] at member
    rcases mem_added member with older | new
    · exact sound.exposed query older
    · rw [new]
      exact ⟨row, find_mem exposes.strategy, find_key exposes.strategy⟩
  named := by
    intro query member
    rw [ResearchState.findHoldout, exposes.holdouts,
      isSome_update (fun row => { row with queries := row.queries + 1 }) fun _ => rfl]
    rw [exposes.queries] at member
    rcases mem_added member with older | new
    · exact sound.named query older
    · rw [new]
      exact Option.isSome_iff_exists.mpr ⟨holdout, exposes.policy⟩
  guarded := by
    intro other member
    rw [exposes.holdouts] at member
    have named : holdout.holdoutId = request.holdoutId := find_key exposes.policy
    rcases mem_update_of_find sound.distinct exposes.policy member with rfl | ⟨older, differ⟩
    · exact exposes.protected (sound.guarded holdout (find_mem exposes.policy)) named
    · have guarded := sound.guarded other older
      have same : after.queriesOf other.holdoutId = state.queriesOf other.holdoutId := by
        rw [exposes.queriesOf, if_neg (Ne.symm differ), append_nil]
      refine ⟨same ▸ guarded.counted, guarded.within, same ▸ guarded.families,
        same ▸ guarded.strategies, ?_⟩
      rw [same]
      intro first here second there apart node
      rw [exposes.parentage]
      exact guarded.apart first here second there apart node

variable {holdoutId : String} {call : Identity × ResearchCall} {old : HoldoutQuery}

theorem protected_new (sound : Sound state) (absent : (state.findHoldout holdoutId).isSome = false) :
    Protected state ⟨holdoutId, families, budget, 0, false, policyVersion⟩ := by
  have none : state.queriesOf holdoutId = [] := by
    rw [ResearchState.queriesOf, filter_eq_nil_iff]
    intro query member same
    have present := sound.named query member
    rw [of_decide_eq_true same, absent] at present
    cases present
  refine ⟨?_, Nat.zero_le _, ?_, ?_, ?_⟩
  · rw [none]
    rfl
  · rw [none]
    exact .nil
  · rw [none]
    exact .nil
  · rw [none]
    simp

/-- Every call keeps what every run keeps. -/
theorem Sound.step (sound : Sound state) {answer : ResearchAnswer}
    (ok : handle state call = .ok (answer, after)) : Sound after := by
  obtain ⟨_, call⟩ := call
  cases call with
  | register =>
    simp only [handle, bind_ok, pair_ok] at ok
    obtain ⟨⟨objectId, stored⟩, done, -, rfl⟩ := ok
    exact (register_ok done).sound sound
  | trial =>
    simp only [handle, bind_ok, pair_ok] at ok
    obtain ⟨⟨_, stored⟩, done, -, rfl⟩ := ok
    obtain ⟨tags, recorded, objects, edges, queries, holdouts⟩ := recordTrial_ok done
    have registered : Registered stored :=
      sound.registered.records recorded (by simp [Trial.request]) objects edges
    exact sound.keeps registered objects edges queries holdouts
  | sealedResult =>
    simp only [handle, bind_ok, pair_ok] at ok
    obtain ⟨⟨⟨_, _⟩, stored⟩, done, -, rfl⟩ := ok
    rcases sealedResult_ok done with ⟨rfl, -⟩ | ⟨holdout, row, exposes, -⟩
    · exact sound
    · exact exposes.sound sound
  | remember =>
    simp only [handle, bind_ok, pair_ok] at ok
    obtain ⟨⟨_, stored⟩, done, -, rfl⟩ := ok
    obtain ⟨_, recorded, same⟩ := remember_ok done
    rw [same]
    have registered : Registered { state with store := stored.store, claims := stored.claims } :=
      sound.registered.records recorded (by simp [MemoryClaim.request]) rfl rfl
    exact sound.keeps registered rfl rfl rfl rfl
  | putArtifact =>
    simp only [handle, bind_ok, pair_ok] at ok
    obtain ⟨⟨_, _⟩, stored, -, rfl⟩ := ok
    obtain ⟨events, aggregates, -⟩ := Store.putArtifact_ok stored
    refine sound.keeps (sound.registered.keeps rfl rfl (fun objectId => ?_) ?_) rfl rfl rfl rfl
    · simp only [Store.version, Store.state, aggregates, le_refl]
    · exact fun event member => .inl (events ▸ member)
  | campaign campaignId =>
    cases ok
    have registered : Registered { state with campaigns := insertNew state.campaigns campaignId } :=
      sound.registered.keeps rfl rfl (fun _ => le_rfl) fun _ member => .inl member
    exact sound.keeps registered rfl rfl rfl rfl
  | holdout =>
    simp only [handle, bind_ok, guard_ok, pair_ok, Bool.not_eq_true] at ok
    obtain ⟨absent, -, rfl⟩ := ok
    refine ⟨⟨sound.registered.versions, sound.registered.recorded, sound.registered.edges⟩, ?_,
      sound.exposed,
      fun query member => ?_, fun holdout member => ?_⟩
    · refine distinct_insert sound.distinct (Option.not_isSome_iff_eq_none.mp ?_)
      rw [Bool.not_eq_true]
      exact absent
    · rw [ResearchState.findHoldout, find_append, Option.isSome_or, Bool.or_eq_true]
      exact .inl (sound.named query member)
    · rcases mem_added member with older | new
      · exact (sound.guarded holdout older).congr rfl fun _ _ _ => Iff.rfl
      · rw [new]
        exact (protected_new sound absent).congr rfl fun _ _ _ => Iff.rfl
  | retire =>
    cases ok
    refine ⟨⟨sound.registered.versions, sound.registered.recorded, sound.registered.edges⟩, ?_,
      sound.exposed,
      fun query member => ?_, fun holdout member => ?_⟩
    · exact distinct_update (fun _ same => same) sound.distinct
    · exact (isSome_update (fun row => { row with retired := true }) (fun _ => rfl) _ _ _).trans
        (sound.named query member)
    · rcases mem_update member with ⟨old, held, -, rfl⟩ | ⟨held, -⟩
      · have retired : Protected state { old with retired := true } :=
          (sound.guarded old held).policy rfl rfl rfl
        exact retired.congr rfl fun _ _ _ => Iff.rfl
      · exact (sound.guarded holdout held).congr rfl fun _ _ _ => Iff.rfl
  | admitEvidence =>
    simp only [handle, bind_ok, guard_ok, pair_ok] at ok
    obtain ⟨-, -, rfl⟩ := ok
    refine sound.keeps (sound.registered.keeps rfl rfl (fun _ => le_rfl) ?_) rfl rfl rfl rfl
    exact fun event member => .inl member

theorem history_sound (calls : List (Identity × ResearchCall)) : Sound (history calls) :=
  run_preserves Sound sound_empty
    (fun _ _ sound => next_of_answered Sound sound fun _ _ ok => sound.step ok) calls

/-- No query is taken back. -/
def KeepsQueries (before after : ResearchState) : Prop := before.queries <+: after.queries

theorem queries_kept (ok : handle state call = .ok (answer, after)) : KeepsQueries state after := by
  unfold KeepsQueries
  obtain ⟨_, call⟩ := call
  cases call with
  | register =>
    simp only [handle, bind_ok, pair_ok] at ok
    obtain ⟨⟨_, stored⟩, done, -, rfl⟩ := ok
    rw [(register_ok done).queries]
  | trial =>
    simp only [handle, bind_ok, pair_ok] at ok
    obtain ⟨⟨_, stored⟩, done, -, rfl⟩ := ok
    obtain ⟨tags, -, -, -, queries, -⟩ := recordTrial_ok done
    rw [queries]
  | sealedResult =>
    simp only [handle, bind_ok, pair_ok] at ok
    obtain ⟨⟨⟨_, _⟩, stored⟩, done, -, rfl⟩ := ok
    rcases sealedResult_ok done with ⟨rfl, -⟩ | ⟨holdout, _, exposes, -⟩
    · exact prefix_refl _
    · rw [exposes.queries]
      exact prefix_append _ _
  | remember =>
    simp only [handle, bind_ok, pair_ok] at ok
    obtain ⟨⟨_, _⟩, done, -, rfl⟩ := ok
    obtain ⟨_, -, same⟩ := remember_ok done
    rw [same]
  | admitEvidence =>
    simp only [handle, bind_ok, guard_ok, pair_ok] at ok
    obtain ⟨-, -, rfl⟩ := ok
    exact prefix_refl _
  | putArtifact =>
    simp only [handle, bind_ok, pair_ok] at ok
    obtain ⟨-, -, -, rfl⟩ := ok
    exact prefix_refl _
  | holdout =>
    simp only [handle, bind_ok, guard_ok, pair_ok] at ok
    obtain ⟨-, -, rfl⟩ := ok
    exact prefix_refl _
  | campaign =>
    cases ok
    exact prefix_refl _
  | retire =>
    cases ok
    exact prefix_refl _

theorem findQuery_kept (calls : List (Identity × ResearchCall))
    (found : state.findQuery holdoutId strategyVersionId = some old) :
    (run handle state calls).findQuery holdoutId strategyVersionId = some old := by
  have kept : KeepsQueries state (run handle state calls) := by
    have same : ∀ state, KeepsQueries state state := fun state => prefix_refl state.queries
    have trans : ∀ {first second third}, KeepsQueries first second → KeepsQueries second third →
        KeepsQueries first third := fun before later => List.IsPrefix.trans before later
    refine run_related same trans (fun state call => ?_) state calls
    exact next_of_answered (KeepsQueries state) (same state) fun _ _ ok => queries_kept ok
  obtain ⟨more, whole⟩ := kept
  rw [ResearchState.findQuery, ← whole]
  exact find_append_some found more

theorem answered_query (ok : sealedResult state actor request = .ok ((category, queryId), after)) :
    ∃ old, after.findQuery request.holdoutId request.strategyVersionId = some old ∧ request.Asks old ∧
      category = old.responseCategory ∧ queryId = old.holdoutQueryId := by
  rcases sealedResult_ok ok with ⟨rfl, old, found, asks, same⟩ | ⟨holdout, row, exposes, rfl, rfl⟩
  · exact ⟨old, found, asks, same⟩
  · refine ⟨request.query holdout row.campaignId, ?_, ⟨rfl, rfl, rfl⟩, rfl, rfl⟩
    rw [ResearchState.findQuery, exposes.queries]
    exact find_insert_new exposes.unasked rfl

theorem sealedResult_again (permitted : actor.requires .sealed = .ok ())
    (found : state.findQuery request.holdoutId request.strategyVersionId = some old)
    (asks : request.Asks old) :
    sealedResult state actor request = .ok ((old.responseCategory, old.holdoutQueryId), state) := by
  rw [sealedResult, permitted, ok_bind, found]
  exact refuseIf_bind_of_not (not_not.mpr asks) _

/-- The same question, from the same actor, whatever id a new query would be given. -/
def Repeated (calls : List (Identity × ResearchCall)) (actor : Identity) (request : SealedRequest)
    (answer : ResearchAnswer) : Prop :=
  ∀ queryId, handle (history calls) (actor, .sealedResult { request with queryId := queryId }) =
    .ok (answer, history calls)

/-- Along every run, a repeated question is answered as before and changes nothing. -/
theorem repeated_answer
    (answered : reply handle (history earlier) (actor, .sealedResult request) = .ok answer) :
    Repeated (earlier ++ (actor, .sealedResult request) :: later) actor request answer := by
  intro queryId
  have ok := ok_of_reply answered
  simp only [handle, bind_ok, pair_ok] at ok
  obtain ⟨⟨⟨_, _⟩, stored⟩, done, rfl, reached⟩ := ok
  dsimp only at reached
  have permitted : actor.requires .sealed = .ok () := by
    simp only [sealedResult, bind_ok] at done
    obtain ⟨_, allowed, -⟩ := done
    exact allowed
  obtain ⟨old, found, asks, rfl, rfl⟩ := answered_query done
  have whole : history (earlier ++ (actor, .sealedResult request) :: later) = run handle stored later := by
    rw [history, run_append, run_cons, reached]
    rfl
  have kept := findQuery_kept later found
  rw [whole]
  have again : sealedResult (run handle stored later) actor { request with queryId := queryId } =
      .ok ((old.responseCategory, old.holdoutQueryId), run handle stored later) :=
    sealedResult_again permitted kept asks
  rw [handle, again, ok_bind]
  rfl

/-- In every run every holdout has answered within its budget, for one lineage and one family
once; and whatever was answered is answered again without a new query. -/
theorem holdouts_protected (calls : List (Identity × ResearchCall)) :
    (∀ holdout ∈ (history calls).holdouts, Protected (history calls) holdout) ∧
      ∀ earlier actor request later answer, calls = earlier ++ (actor, .sealedResult request) :: later →
        reply handle (history earlier) (actor, .sealedResult request) = .ok answer →
          Repeated calls actor request answer := by
  refine ⟨(history_sound calls).guarded, ?_⟩
  rintro earlier actor request later answer rfl answered
  exact repeated_answer answered

namespace Small

def researcher : Identity := ⟨"research", .research⟩

def evaluator : Identity := ⟨"sealed", .sealedEvaluator⟩

def strategy (objectId : String) (parents : List (String × String)) : ResearchObject :=
  ⟨objectId, .strategyVersion, "CAMPAIGN", 0, parents⟩

def declared (strategyVersionId familyId : String) : Trial :=
  ⟨"TRIAL-" ++ familyId, "CAMPAIGN", familyId, strategyVersionId, .hypothesis, "predeclared",
    "\x7b\x7d", [], [], [],
    none, none, false, "OP-" ++ familyId⟩

def calls : List (Identity × ResearchCall) :=
  [(researcher, .putArtifact ⟨"candidate", true⟩ "candidate" .internal "v1"),
    (researcher, .campaign "CAMPAIGN"),
    (evaluator, .holdout "HOLDOUT" ["F", "G"] 5 "v1"), (researcher, .register (strategy "PARENT" [])),
    (researcher, .trial (declared "PARENT" "F")),
    (evaluator, .sealedResult ⟨"HOLDOUT", "PARENT", "F", "hash", .pass, "Q1"⟩),
    (researcher, .register (strategy "CHILD" [("PARENT", "parameter_variant_of")])),
    (researcher, .trial (declared "CHILD" "G"))]

end Small

end Liki.Research
