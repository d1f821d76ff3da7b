import Liki.Research.Contamination

/-! Retries. What a call was recorded as is found under its key for ever, and what it looks at before it
gets there is never taken back, so a call that is made again is answered from the log. A trial is
recorded with the tags of its strategy, though, so it is made again only as long as the strategy has
inherited nothing new. -/
namespace Liki.Research
open Checks CallSystem AppendOnly List KeyedRows Store

variable {state after : ResearchState} {actor : Identity} {object : ResearchObject} {trial : Trial}
  {claim : MemoryClaim} {now : Time}

/-- The tables that are only appended to. -/
structure Persists (before after : ResearchState) : Prop where
  events : before.store.events <+: after.store.events
  artifacts : before.store.artifacts <+: after.store.artifacts
  objects : before.objects <+: after.objects
  trials : before.trials <+: after.trials
  evidence : before.evidence <+: after.evidence
  claims : before.claims <+: after.claims

theorem Persists.refl (state : ResearchState) : Persists state state :=
  ⟨prefix_refl _, prefix_refl _, prefix_refl _, prefix_refl _, prefix_refl _,
    prefix_refl _⟩

theorem Persists.trans (first : Persists state between) (second : Persists between after) :
    Persists state after :=
  ⟨first.events.trans second.events, first.artifacts.trans second.artifacts,
    first.objects.trans second.objects, first.trials.trans second.trials,
    first.evidence.trans second.evidence, first.claims.trans second.claims⟩

theorem Persists.of_recorded (recorded : state.store.Recorded operationKey request none after.store)
    (objects : state.objects <+: after.objects) (trials : state.trials <+: after.trials)
    (evidence : after.evidence = state.evidence) (claims : state.claims <+: after.claims) :
    Persists state after := by
  refine ⟨?_, ?_, objects, trials, by rw [evidence], claims⟩
  · generalize after.store = store at recorded
    cases recorded with
    | replayed => exact prefix_refl _
    | appended => exact prefix_append _ _
  · generalize after.store = store at recorded
    cases recorded with
    | replayed => exact prefix_refl _
    | appended => exact prefix_refl _

theorem find_prefix {Row Key : Type} [DecidableEq Key] {key : Row → Key} {rows more : List Row} {k : Key}
    {row : Row} (grows : rows <+: more) (found : find key k rows = some row) :
    find key k more = some row := by
  obtain ⟨rest, rfl⟩ := grows
  exact find_append_some found rest

namespace Persists

theorem findObject (persists : Persists state after) {objectId : String} {row : ObjectRow}
    (found : state.findObject objectId = some row) : after.findObject objectId = some row :=
  find_prefix persists.objects found

theorem findEvidence (persists : Persists state after) {evidenceId : String} {row : EvidenceRow}
    (found : state.findEvidence evidenceId = some row) : after.findEvidence evidenceId = some row :=
  find_prefix persists.evidence found

theorem artifact (persists : Persists state after) {row : Artifact ArtifactContent}
    (read : state.store.artifact ArtifactContent.intact actor artifactId = .ok row) :
    after.store.artifact ArtifactContent.intact actor artifactId = .ok row := by
  simp only [Store.artifact, bind_ok, expect_ok] at read ⊢
  obtain ⟨held, found, rest⟩ := read
  obtain ⟨_, whole⟩ := persists.artifacts
  refine ⟨held, ?_, rest⟩
  rw [← whole, List.getElem?_append_left (List.getElem?_eq_some_iff.mp found).1]
  exact found

theorem event (persists : Persists state after) {event : Event ResearchAggregate Unit String}
    (found : state.store.events.find? (fun event => event.operationKey = operationKey) = some event) :
    after.store.events.find? (fun event => event.operationKey = operationKey) = some event := by
  obtain ⟨_, whole⟩ := persists.events
  rw [← whole, find?_append, found]
  rfl

end Persists

structure Found (state : ResearchState) (actor : Identity) (operationKey : String)
    (request : ResearchTransition) : Prop where
  permitted : actor.requires .research = .ok ()
  keyed : operationKey ≠ ""
  named : ¬(request.kind = "" ∨ request.aggregateId = "" ∨ request.taskId = "" ∨ request.policyVersion = "")
  event : state.store.events.find? (fun event => event.operationKey = operationKey) =
    some ⟨operationKey, request⟩

theorem Found.persists (found : Found state actor operationKey request)
    (persists : Persists state after) : Found after actor operationKey request :=
  ⟨found.permitted, found.keyed, found.named, persists.event found.event⟩

theorem transition_leaves_found
    (ok : state.transition actor .research operationKey request = .ok after) :
    Found after actor operationKey request := by
  simp only [ResearchState.transition, bind_ok, guard_ok, pure_ok] at ok
  obtain ⟨_, permitted, keyed, _, recorded, rfl⟩ := ok
  refine ⟨permitted, keyed, ?_, transition_found recorded⟩
  simp only [transition, bind_ok, guard_ok] at recorded
  obtain ⟨-, -, named, -⟩ := recorded
  exact named

theorem Found.again (found : Found state actor operationKey request) :
    state.transition actor .research operationKey request = .ok state := by
  rw [ResearchState.transition, found.permitted, ok_bind, refuseIf_bind_of_not found.keyed,
    transition_again found.permitted found.named found.event]
  rfl

structure Unchanged (state after : ResearchState) : Prop where
  events : after.store.events = state.store.events
  objects : after.objects = state.objects
  trials : after.trials = state.trials
  claims : after.claims = state.claims

/-- All that a registration looks at is there. -/
structure ObjectKept (state : ResearchState) (actor : Identity) (object : ResearchObject) : Prop where
  found : Found state actor object.operationKey (object.request actor)
  artifact : ∃ row, state.store.artifact ArtifactContent.intact actor object.artifactId = .ok row
  parents : ∀ parent ∈ object.parents, ∃ row, state.findObject parent.1 = some row ∧
    row.campaignId = object.campaignId
  row : ∃ row, state.findObject object.objectId = some row
  edges : ¬∃ edge ∈ object.edges, edge.edgeType ∉ edgeTypes ∨ edge.parentId = edge.childId

theorem ObjectKept.persists (kept : ObjectKept state actor object) (persists : Persists state after) :
    ObjectKept after actor object where
  found := kept.found.persists persists
  artifact := kept.artifact.imp fun _ read => persists.artifact read
  parents parent listed := by
    obtain ⟨row, found, campaign⟩ := kept.parents parent listed
    exact ⟨row, persists.findObject found, campaign⟩
  row := kept.row.imp fun _ found => persists.findObject found
  edges := kept.edges

theorem register_leaves (ok : register state actor object = .ok (objectId, after)) :
    Persists state after ∧ objectId = object.objectId ∧ ObjectKept after actor object := by
  have registers := register_ok ok
  simp only [register, bind_ok, guard_ok, pair_ok, not_exists, not_and, not_forall, not_not] at ok
  obtain ⟨_, -, read, artifact, parents, recorded, written, inserted, entered, edges, rfl, same⟩ := ok
  have found := transition_leaves_found written
  obtain ⟨store, stored, rfl⟩ := transition_ok written
  have row : ∃ row, inserted.findObject object.objectId = some row := by
    unfold insertObject at entered
    split at entered
    · rename_i present
      cases entered
      exact Option.isSome_iff_exists.mp present
    · rename_i absent
      simp only [bind_ok, guard_ok, pure_ok] at entered
      obtain ⟨-, rfl⟩ := entered
      exact ⟨_, find_insert_new (Option.not_isSome_iff_eq_none.mp absent) rfl⟩
  have tables : inserted.store = store ∧ state.objects <+: inserted.objects ∧
      inserted.trials = state.trials ∧ inserted.evidence = state.evidence ∧
      inserted.claims = state.claims := by
    unfold insertObject at entered
    split at entered
    · cases entered
      exact ⟨rfl, prefix_refl _, rfl, rfl, rfl⟩
    · simp only [bind_ok, guard_ok, pure_ok] at entered
      obtain ⟨-, rfl⟩ := entered
      exact ⟨rfl, prefix_append _ _, rfl, rfl, rfl⟩
  obtain ⟨written_store, objects, trials, evidence, claims⟩ := tables
  have persists : Persists state after := by
    refine .of_recorded registers.recorded ?_ ?_ ?_ ?_
    all_goals rw [← same]
    · exact objects
    · rw [trials]
    · exact evidence
    · rw [claims]
  refine ⟨persists, rfl, ?_, ⟨read, persists.artifact artifact⟩, fun parent listed => ?_, ?_, ?_⟩
  · rw [← same]
    exact ⟨found.permitted, found.keyed, found.named, written_store ▸ found.event⟩
  · obtain ⟨held, known, campaign⟩ := parents parent listed
    exact ⟨held, persists.findObject known, campaign⟩
  · rw [← same]
    exact row
  · rintro ⟨edge, listed, wrong⟩
    exact edges edge listed wrong

theorem ObjectKept.again (kept : ObjectKept state actor object) :
    ∃ after, register state actor object = .ok (object.objectId, after) ∧ Unchanged state after := by
  obtain ⟨_, artifact⟩ := kept.artifact
  obtain ⟨row, present⟩ := kept.row
  have parents : ¬∃ parent ∈ object.parents, ∀ row ∈ state.findObject parent.1,
      row.campaignId ≠ object.campaignId := by
    rintro ⟨parent, listed, differ⟩
    obtain ⟨held, found, campaign⟩ := kept.parents parent listed
    exact differ held found campaign
  have inserted : insertObject state ⟨object.objectId, object.campaignId, actor.principalId⟩ = .ok state :=
    if_pos (Option.isSome_iff_exists.mpr ⟨row, present⟩)
  refine ⟨{ state with
    edges := insertAll state.edges object.edges
    contamination := object.parents.foldl (fun contamination parent =>
      insertAll contamination (inherited contamination parent.1 object.objectId)) state.contamination },
    ?_, rfl, rfl, rfl, rfl⟩
  rw [register, kept.found.permitted, ok_bind, artifact, ok_bind, refuseIf_bind_of_not parents,
    kept.found.again, ok_bind, inserted, ok_bind, refuseIf_bind_of_not kept.edges]
  rfl

def Trial.tags (trial : Trial) (state : ResearchState) : List String :=
  sortedTags (trial.contaminationTags ++ state.tagsOf trial.strategyVersionId)

def Classified (state : ResearchState) (trial : Trial) : Prop :=
  if trial.infrastructureRetry then
    ∃ original ∈ state.trials, some original.trialEventId = trial.scientificRetryOf ∧ trial.Repeats original
  else trial.scientificRetryOf.getD "" = ""

variable {trialEventId : String}

theorem recordTrial_iff :
    recordTrial state actor trial = .ok (trialEventId, after) ↔
      actor.requires .research = .ok () ∧
      (∃ row, state.findObject trial.strategyVersionId = some row ∧ row.campaignId = trial.campaignId) ∧
      Classified state trial ∧
      ∃ recorded, state.transition actor .research trial.operationKey
          (trial.request actor (trial.tags state)) = .ok recorded ∧
        insertTrial recorded trial (trial.tags state) = .ok after ∧ trial.trialEventId = trialEventId := by
  have strategy : (¬∀ row ∈ state.findObject trial.strategyVersionId, row.campaignId ≠ trial.campaignId) ↔
      ∃ row, state.findObject trial.strategyVersionId = some row ∧ row.campaignId = trial.campaignId := by
    simp only [Option.mem_def, not_forall, not_not, exists_prop]
  unfold Classified
  rw [recordTrial]
  cases trial.infrastructureRetry with
  | true =>
    simp only [bind_ok, guard_ok, if_true, pair_ok, strategy, not_not, Trial.tags]
    constructor
    · rintro ⟨_, permitted, known, classified, recorded, written, _, entered, named, rfl⟩
      exact ⟨permitted, known, classified, recorded, written, entered, named⟩
    · rintro ⟨permitted, known, classified, recorded, written, entered, named⟩
      exact ⟨(), permitted, known, classified, recorded, written, after, entered, named, rfl⟩
  | false =>
    simp only [bind_ok, guard_ok, Bool.false_eq_true, if_false, pair_ok, strategy, not_not,
      Trial.tags]
    constructor
    · rintro ⟨_, permitted, known, classified, recorded, written, _, entered, named, rfl⟩
      exact ⟨permitted, known, classified, recorded, written, entered, named⟩
    · rintro ⟨permitted, known, classified, recorded, written, entered, named⟩
      exact ⟨(), permitted, known, classified, recorded, written, after, entered, named, rfl⟩

theorem Classified.persists (classified : Classified state trial) (persists : Persists state after) :
    Classified after trial := by
  unfold Classified at classified ⊢
  split
  · rename_i retry
    rw [if_pos retry] at classified
    obtain ⟨original, member, repeated⟩ := classified
    exact ⟨original, persists.trials.subset member, repeated⟩
  · rename_i fresh
    rwa [if_neg fresh] at classified

/-- All that a trial looks at is there, and what it was recorded with. -/
structure TrialKept (state : ResearchState) (actor : Identity) (trial : Trial) (tags : List String) :
    Prop where
  found : Found state actor trial.operationKey (trial.request actor tags)
  strategy : ∃ row, state.findObject trial.strategyVersionId = some row ∧ row.campaignId = trial.campaignId
  classified : Classified state trial
  row : ∃ row ∈ state.trials, row.operationKey = trial.operationKey

theorem TrialKept.persists (kept : TrialKept state actor trial tags)
    (persists : Persists state after) : TrialKept after actor trial tags where
  found := kept.found.persists persists
  strategy := kept.strategy.imp fun _ known => ⟨persists.findObject known.1, known.2⟩
  classified := kept.classified.persists persists
  row := kept.row.imp fun _ held => ⟨persists.trials.subset held.1, held.2⟩

theorem insertTrial_ok (ok : insertTrial state trial tags = .ok after) :
    (∃ row ∈ after.trials, row.operationKey = trial.operationKey) ∧
      state.trials <+: after.trials ∧ after = { state with trials := after.trials } := by
  unfold insertTrial at ok
  split at ok
  · rename_i present
    cases ok
    exact ⟨present, prefix_refl _, rfl⟩
  · simp only [bind_ok, guard_ok, pure_ok] at ok
    obtain ⟨-, -, -, rfl⟩ := ok
    exact ⟨⟨_, mem_append_right _ mem_cons_self, rfl⟩, prefix_append _ _, rfl⟩

theorem trial_leaves (ok : recordTrial state actor trial = .ok (trialEventId, after)) :
    Persists state after ∧ trialEventId = trial.trialEventId ∧
      TrialKept after actor trial (trial.tags state) := by
  obtain ⟨-, strategy, classified, _, written, entered, rfl⟩ := recordTrial_iff.mp ok
  have found := transition_leaves_found written
  obtain ⟨_, stored, rfl⟩ := transition_ok written
  obtain ⟨row, grows, same⟩ := insertTrial_ok entered
  have persists : Persists state after := by
    rw [same]
    exact .of_recorded stored (prefix_refl _) grows rfl (prefix_refl _)
  refine ⟨persists, rfl, ?_, ?_, classified.persists persists, row⟩
  · rw [same]
    exact ⟨found.permitted, found.keyed, found.named, found.event⟩
  · exact strategy.imp fun _ known => ⟨persists.findObject known.1, known.2⟩

theorem TrialKept.again_iff (kept : TrialKept state actor trial tags) :
    (∃ after, recordTrial state actor trial = .ok (trial.trialEventId, after) ∧ Unchanged state after) ↔
      trial.tags state = tags := by
  constructor
  · rintro ⟨_, ok, -⟩
    obtain ⟨-, -, -, _, written, -⟩ := recordTrial_iff.mp ok
    simp only [ResearchState.transition, bind_ok, guard_ok, pure_ok] at written
    obtain ⟨_, -, -, _, stored, -⟩ := written
    have same := transition_same kept.found.event stored
    simpa [Trial.request] using same.symm
  · rintro rfl
    refine ⟨state, recordTrial_iff.mpr ?_, rfl, rfl, rfl, rfl⟩
    exact ⟨kept.found.permitted, kept.strategy, kept.classified, state, kept.found.again, if_pos kept.row, rfl⟩

theorem sortedTags_eq_iff :
    sortedTags first = sortedTags second ↔ ∀ tag, tag ∈ first ↔ tag ∈ second := by
  constructor
  · intro same tag
    rw [← mem_sortedTags, same, mem_sortedTags]
  · intro same
    have perm : first.dedup.Perm second.dedup :=
      (perm_ext_iff_of_nodup first.nodup_dedup second.nodup_dedup).mpr fun tag => by
        rw [mem_dedup, mem_dedup, same]
    have arranged : (sortedTags first).Perm (sortedTags second) :=
      (perm_insertionSort _ _).trans (perm.trans (perm_insertionSort _ _).symm)
    exact arranged.eq_of_pairwise (fun _ _ _ _ => String.le_antisymm) (pairwise_insertionSort _ _)
      (pairwise_insertionSort _ _)

def MemoryClaim.tags (claim : MemoryClaim) (evidence : List EvidenceRow) : List String :=
  sortedTags (claim.contaminationTags ++ evidence.flatMap EvidenceRow.contaminationTags)

structure Supported (state : ResearchState) (actor : Identity) (claim : MemoryClaim)
    (evidence : List EvidenceRow) : Prop where
  read : claim.evidenceIds.mapM (state.readEvidence actor) = .ok evidence
  replicated : ¬(claim.confidenceState = .replicated ∧
    ∀ row ∈ evidence, row.evidenceClass ≠ "independent_reproduction")

theorem Supported.persists {evidence : List EvidenceRow} (supported : Supported state actor claim evidence)
    (persists : Persists state after) : Supported after actor claim evidence where
  read := by
    refine mapM_ok_mono (fun evidenceId _ row ok => ?_) supported.read
    simp only [ResearchState.readEvidence, bind_ok, expect_ok, pure_ok] at ok ⊢
    obtain ⟨held, found, content, read, same⟩ := ok
    exact ⟨held, persists.findEvidence found, content, persists.artifact read, same⟩
  replicated := supported.replicated

structure ClaimKept (state : ResearchState) (actor : Identity) (now : Time) (claim : MemoryClaim) : Prop where
  revalidated : ∃ instant, claim.lastRevalidatedAt = some instant ∧ instant ≤ now
  supported : ∃ evidence, Supported state actor claim evidence ∧
    Found state actor claim.operationKey (claim.request actor (claim.tags evidence))
  row : ∃ row ∈ state.claims, row.memoryId = claim.memoryId

theorem ClaimKept.persists (kept : ClaimKept state actor now claim) (persists : Persists state after) :
    ClaimKept after actor now claim where
  revalidated := kept.revalidated
  supported := kept.supported.imp fun _ both => ⟨both.1.persists persists, both.2.persists persists⟩
  row := kept.row.imp fun _ held => ⟨persists.claims.subset held.1, held.2⟩

theorem ClaimKept.later {later : Time} (kept : ClaimKept state actor now claim) (le : now ≤ later) :
    ClaimKept state actor later claim where
  revalidated := kept.revalidated.imp fun _ both => ⟨both.1, both.2.trans le⟩
  supported := kept.supported
  row := kept.row

theorem insertClaim_claims (state : ResearchState) (row : MemoryRow) :
    state.claims <+: (insertClaim state row).claims ∧
      ∃ other ∈ (insertClaim state row).claims, other.memoryId = row.memoryId := by
  unfold insertClaim
  split
  · rename_i present
    exact ⟨prefix_refl _, present⟩
  · exact ⟨prefix_append _ _, row, mem_append_right _ mem_cons_self, rfl⟩

theorem remember_leaves (ok : remember state actor now claim = .ok (memoryId, after)) :
    Persists state after ∧ memoryId = claim.memoryId ∧ ClaimKept after actor now claim := by
  simp only [remember, bind_ok, expect_ok, guard_ok, pair_ok] at ok
  obtain ⟨instant, revalidated, past, _, -, evidence, read, replicated, _, written, rfl, same⟩ := ok
  have found := transition_leaves_found written
  obtain ⟨store, stored, rfl⟩ := transition_ok written
  obtain ⟨grows, row⟩ := insertClaim_claims { state with store }
    (claim.row actor now instant (claim.tags evidence))
  have whole := insertClaim_eq { state with store } (claim.row actor now instant (claim.tags evidence))
  rw [MemoryClaim.tags] at grows row whole
  rw [same] at grows row whole
  have persists : Persists state after := by
    rw [whole]
    exact .of_recorded stored (prefix_refl _) (prefix_refl _) rfl grows
  refine ⟨persists, rfl, ⟨instant, revalidated, not_lt.mp past⟩, ⟨evidence, ?_, ?_⟩, row⟩
  · exact Supported.persists ⟨read, replicated⟩ persists
  · rw [whole]
    exact ⟨found.permitted, found.keyed, found.named, found.event⟩

theorem ClaimKept.again (kept : ClaimKept state actor now claim) :
    remember state actor now claim = .ok (claim.memoryId, state) := by
  obtain ⟨instant, revalidated, past⟩ := kept.revalidated
  obtain ⟨evidence, supported, found⟩ := kept.supported
  have inserted : insertClaim state (claim.row actor now instant (claim.tags evidence)) = state :=
    if_pos kept.row
  rw [remember, revalidated, expect, ok_bind, refuseIf_bind_of_not (not_lt.mpr past), found.permitted,
    ok_bind, supported.read, ok_bind, refuseIf_bind_of_not supported.replicated]
  change (state.transition actor .research claim.operationKey (claim.request actor (claim.tags evidence)) >>=
    fun state => .ok (claim.memoryId, insertClaim state (claim.row actor now instant (claim.tags evidence)))) = _
  rw [found.again, ok_bind, inserted]

theorem sealedResult_persists
    (ok : sealedResult state actor request = .ok ((category, queryId), after)) :
    Persists state after := by
  simp only [sealedResult, bind_ok] at ok
  obtain ⟨-, -, ok⟩ := ok
  split at ok
  · simp only [bind_ok, guard_ok, pair_ok] at ok
    obtain ⟨-, -, rfl⟩ := ok
    exact .refl _
  · simp only [bind_ok, guard_ok, expect_ok, pair_ok] at ok
    obtain ⟨_, -, _, -, -, -, -, -, _, written, -, -, rfl⟩ := ok
    obtain ⟨_, stored, rfl⟩ := transition_ok written
    exact .of_recorded stored (prefix_refl _) (prefix_refl _) rfl (prefix_refl _)

theorem putArtifact_persists
    (ok : state.store.putArtifact actor content schemaName classification policyVersion =
      .ok (artifactId, store)) : Persists state { state with store } := by
  have events := (putArtifact_ok ok).1
  exact ⟨by rw [events], putArtifact_grows ok, prefix_refl _, prefix_refl _, prefix_refl _,
    prefix_refl _⟩

/-- No call takes anything back. -/
theorem step_persists (ok : handle state call = .ok (answer, after)) : Persists state after := by
  obtain ⟨_, call⟩ := call
  cases call with
  | register =>
    simp only [handle, bind_ok, pair_ok] at ok
    obtain ⟨⟨_, stored⟩, done, -, rfl⟩ := ok
    exact (register_leaves done).1
  | trial =>
    simp only [handle, bind_ok, pair_ok] at ok
    obtain ⟨⟨_, stored⟩, done, -, rfl⟩ := ok
    exact (trial_leaves done).1
  | sealedResult =>
    simp only [handle, bind_ok, pair_ok] at ok
    obtain ⟨⟨⟨_, _⟩, stored⟩, done, -, rfl⟩ := ok
    exact sealedResult_persists done
  | remember =>
    simp only [handle, bind_ok, pair_ok] at ok
    obtain ⟨⟨_, stored⟩, done, -, rfl⟩ := ok
    exact (remember_leaves done).1
  | putArtifact =>
    simp only [handle, bind_ok, pair_ok] at ok
    obtain ⟨⟨_, _⟩, stored, -, rfl⟩ := ok
    exact putArtifact_persists stored
  | campaign =>
    cases ok
    exact { Persists.refl state with }
  | holdout =>
    simp only [handle, bind_ok, guard_ok, pair_ok] at ok
    obtain ⟨-, -, rfl⟩ := ok
    exact { Persists.refl state with }
  | retire =>
    cases ok
    exact { Persists.refl state with }
  | admitEvidence =>
    simp only [handle, bind_ok, guard_ok, pair_ok] at ok
    obtain ⟨-, -, rfl⟩ := ok
    exact { Persists.refl state with evidence := prefix_append _ _ }

theorem run_persists (state : ResearchState) (calls : List (Identity × ResearchCall)) :
    Persists state (run handle state calls) :=
  run_related Persists.refl Persists.trans
    (fun state _ => next_of_answered (Persists state) (.refl state) fun _ _ ok => step_persists ok) state calls

inductive Reissued : ResearchCall → ResearchCall → Prop where
  | register (object : ResearchObject) : Reissued (.register object) (.register object)
  | trial (trial : Trial) : Reissued (.trial trial) (.trial trial)
  | remember {earlier later : Time} (claim : MemoryClaim) (le : earlier ≤ later) :
      Reissued (.remember earlier claim) (.remember later claim)

/-- The call succeeds with the answer, appends no event and adds no object, trial or claim. -/
def Repeats (state : ResearchState) (actor : Identity) (call : ResearchCall) (answer : ResearchAnswer) :
    Prop :=
  ∃ after, handle state (actor, call) = .ok (answer, after) ∧ Unchanged state after

def InheritedNothing (before after : ResearchState) : ResearchCall → Prop
  | .trial trial => ∀ tag ∈ after.tagsOf trial.strategyVersionId,
      tag ∈ trial.contaminationTags ∨ tag ∈ before.tagsOf trial.strategyVersionId
  | _ => True

theorem tags_eq_iff (marks : Marks state after) :
    trial.tags after = trial.tags state ↔ InheritedNothing state after (.trial trial) := by
  rw [Trial.tags, Trial.tags, sortedTags_eq_iff]
  simp only [mem_append, InheritedNothing]
  constructor
  · intro same tag marked
    exact (same tag).mp (.inr marked)
  · intro nothing tag
    constructor
    · rintro (own | marked)
      · exact .inl own
      · exact nothing tag marked
    · rintro (own | marked)
      · exact .inl own
      · exact .inr (marks.tagsOf marked)

/-- Along every run, a registration, a trial or a claim that succeeded succeeds again with its answer
and changes nothing, for a trial exactly when its strategy has inherited no tag since. -/
theorem retry_iff (earlier later : List (Identity × ResearchCall)) (actor : Identity)
    (call again : ResearchCall) (answer : ResearchAnswer) (reissued : Reissued call again)
    (answered : reply handle (history earlier) (actor, call) = .ok answer) :
    Repeats (history (earlier ++ (actor, call) :: later)) actor again answer ↔
      InheritedNothing (history earlier) (history (earlier ++ (actor, call) :: later)) call := by
  have ok := ok_of_reply answered
  have marks := history_marks earlier ((actor, call) :: later)
  have whole : history (earlier ++ (actor, call) :: later) =
      run handle (next handle (history earlier) (actor, call)) later := by
    rw [history, run_append, run_cons]
    rfl
  have persists := run_persists (next handle (history earlier) (actor, call)) later
  rw [← whole] at persists
  cases reissued with
  | register =>
    simp only [handle, bind_ok, pair_ok] at ok
    obtain ⟨⟨_, stored⟩, done, rfl, reached⟩ := ok
    obtain ⟨-, rfl, kept⟩ := register_leaves done
    rw [← reached] at persists
    obtain ⟨after, repeated, unchanged⟩ := (kept.persists persists).again
    refine ⟨fun _ => trivial, fun _ => ⟨after, ?_, unchanged⟩⟩
    rw [handle, repeated, ok_bind]
    rfl
  | trial =>
    simp only [handle, bind_ok, pair_ok] at ok
    obtain ⟨⟨_, stored⟩, done, rfl, reached⟩ := ok
    obtain ⟨-, rfl, kept⟩ := trial_leaves done
    rw [← reached] at persists
    rw [← tags_eq_iff marks, ← (kept.persists persists).again_iff]
    simp only [Repeats, handle, bind_ok, pair_ok, ResearchAnswer.trial.injEq]
    constructor
    · rintro ⟨after, ⟨⟨_, between⟩, repeated, rfl, rfl⟩, unchanged⟩
      exact ⟨between, repeated, unchanged⟩
    · rintro ⟨after, repeated, unchanged⟩
      exact ⟨after, ⟨_, repeated, rfl, rfl⟩, unchanged⟩
  | remember _ le =>
    simp only [handle, bind_ok, pair_ok] at ok
    obtain ⟨⟨_, _⟩, done, rfl, reached⟩ := ok
    obtain ⟨-, rfl, kept⟩ := remember_leaves done
    rw [← reached] at persists
    have repeated := ((kept.persists persists).later le).again
    refine ⟨fun _ => trivial, fun _ => ⟨_, ?_, ⟨rfl, rfl, rfl, rfl⟩⟩⟩
    rw [handle, repeated, ok_bind]
    rfl

namespace Small

def prepared : List (Identity × ResearchCall) := calls.take 4

def tried : ResearchCall := .trial (declared "PARENT" "F")

def exposed : List (Identity × ResearchCall) :=
  [(evaluator, .sealedResult ⟨"HOLDOUT", "PARENT", "F", "hash", .pass, "Q1"⟩)]

end Small

open Small in
/-- The law at a trial that is made again at once. -/
theorem retry_iff_at_once :
    Repeats (history (prepared ++ [(researcher, tried)])) researcher tried (.trial "TRIAL-F") := by
  have answered : reply handle (history prepared) (researcher, tried) = .ok (.trial "TRIAL-F") := by
    decide +kernel
  have nothing : ∀ tag ∈ (history (prepared ++ [(researcher, tried)])).tagsOf "PARENT",
      tag ∈ (declared "PARENT" "F").contaminationTags ∨ tag ∈ (history prepared).tagsOf "PARENT" := by
    decide +kernel
  exact (retry_iff prepared [] researcher tried tried (.trial "TRIAL-F") (.trial _) answered).mpr nothing

open Small in
/-- A trial succeeds, its strategy is exposed, and the trial is refused when it is made again. -/
theorem exposed_trial_refused :
    reply handle (history prepared) (researcher, tried) = .ok (.trial "TRIAL-F") ∧
      reply handle (history (prepared ++ (researcher, tried) :: exposed)) (researcher, tried) =
        .error (.domain "IDEMPOTENCY_CONFLICT") ∧
      ¬Repeats (history (prepared ++ (researcher, tried) :: exposed)) researcher tried
        (.trial "TRIAL-F") := by
  have refused : reply handle (history (prepared ++ (researcher, tried) :: exposed)) (researcher, tried) =
      .error (.domain "IDEMPOTENCY_CONFLICT") := by
    decide +kernel
  refine ⟨by decide +kernel, refused, ?_⟩
  rintro ⟨_, ok, -⟩
  rw [reply_of_ok ok] at refused
  cases refused

end Liki.Research
