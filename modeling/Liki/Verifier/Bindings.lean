import Liki.Verifier.Effects

/-! What the evidence of a decision comes from. An execution is bound to a strategy, to the content of a
snapshot, to a gate, and to the version that the candidate had; the evaluator takes its report for that
decision and for no other. So a report is used once, and is of no use after the candidate has moved. -/
namespace Liki.Verifier
open Checks Evaluation AppendOnly CallSystem KeyedRows List

variable {deployment : Deployment} {state after : VerifierState} {actor : Identity} {now : Time}

def Unchanged (state : VerifierState) (binding : Binding) : Prop :=
  ∀ item ∈ binding.inputArtifacts, ∃ artifact, state.evaluation.store.artifacts[item.1]? = some artifact ∧
    artifact.content.contentHash = item.2

section Evidence

variable {artifactId : ℕ} {artifact : Artifact EvaluationContent} {request : GateInput} {row : SnapshotRow}
  {evidenceId : String} {item : EvidenceItem}

theorem unchanged_of_checked
    (checked : binding.inputArtifacts.mapM (checkInput state actor) = .ok results) :
    Unchanged state binding := by
  intro item member
  obtain ⟨⟨⟩, ok⟩ := mapM_succeeds_iff.mp ⟨results, checked⟩ item member
  simp only [checkInput, bind_ok, refuseIf_ok, not_not] at ok
  obtain ⟨artifact, read, same⟩ := ok
  exact ⟨artifact, (readArtifact_ok read).1, same⟩

structure Verified (deployment : Deployment) (state : VerifierState) (actor : Identity) (now : Time)
    (artifactId : ℕ) (artifact : Artifact EvaluationContent) (request : GateInput) (row : SnapshotRow)
    (execution : ExecutionRow) : Prop where
  found : state.findExecution artifactId = some execution
  binds : ∃ key, Binds execution key artifactId artifact request row
  unchanged : Unchanged state execution.manifest.binding
  refreshed : request.gateId = 1 → refreshScreen deployment state actor artifact request row
    execution.manifest.binding.inputArtifacts now = .ok ()

theorem verifyExecution_ok
    (ok : verifyExecution deployment state now evaluation actor artifactId artifact request row = .ok ()) :
    ∃ execution, Verified deployment state actor now artifactId artifact request row execution := by
  simp only [verifyExecution, bind_ok, expect_ok, guard_ok, not_not] at ok
  obtain ⟨execution, found, key, -, -, binds, -, -, -, _, checked, -, refreshed⟩ := ok
  refine ⟨execution, found, ⟨key, binds⟩, unchanged_of_checked checked, fun first => ?_⟩
  rwa [if_pos first] at refreshed

theorem gatherEvidence_ok
    (ok : gatherEvidence verify evaluation actor request row now evidenceId = .ok item) :
    evaluation.findEvidence evidenceId = some item.evidence ∧
      evaluation.readArtifact actor item.evidence.artifactId = .ok item.artifact ∧
        verify evaluation actor item.evidence.artifactId item.artifact request row = .ok () := by
  simp only [gatherEvidence, bind_ok, expect_ok, guard_ok, pure_ok] at ok
  obtain ⟨_, found, _, read, -, -, ⟨⟩, verified, rfl⟩ := ok
  exact ⟨found, read, verified⟩

end Evidence

/-- What is always true of an execution. -/
structure Genuine (state : VerifierState) (execution : ExecutionRow) : Prop where
  supported : execution.gateId.val ≤ 5
  stateVersion : execution.manifest.binding.candidateStateVersion ≤
    state.evaluation.store.version "candidate" execution.strategyVersionId
  stored : execution.reportArtifactId < state.evaluation.store.artifacts.length
  logged : ∃ event, state.evaluation.findEvent execution.operationKey = some event

theorem Genuine.later (genuine : Genuine state execution) (later : Later state after) :
    Genuine after execution where
  supported := genuine.supported
  stateVersion := genuine.stateVersion.trans (later.versions _)
  stored := genuine.stored.trans_le later.artifacts.length_le
  logged := by
    obtain ⟨event, found⟩ := genuine.logged
    exact ⟨event, later.events _ _ found⟩

structure Supports (state : VerifierState) (decided : GateDecision) (evidenceId : String)
    (execution : ExecutionRow) : Prop where
  made : execution ∈ state.executions
  admitted : ∃ row, state.evaluation.findEvidence evidenceId = some row ∧
    row.artifactId = execution.reportArtifactId
  strategyVersionId : execution.strategyVersionId = decided.strategyVersionId
  snapshotId : execution.snapshotId = decided.snapshotId
  gateId : execution.gateId = decided.gateId
  snapshotHash : ∃ row, state.evaluation.findSnapshot decided.snapshotId = some row ∧
    execution.manifest.binding.snapshotHash = row.manifest
  stateVersion : execution.manifest.binding.candidateStateVersion = decided.versionBefore
  unchanged : Unchanged state execution.manifest.binding

theorem Later.artifact (later : Later state after) {artifactId : ℕ} {artifact : Artifact EvaluationContent}
    (held : state.evaluation.store.artifacts[artifactId]? = some artifact) :
    after.evaluation.store.artifacts[artifactId]? = some artifact := artifact_kept later.artifacts held

theorem Unchanged.later {binding : Binding} (unchanged : Unchanged state binding) (later : Later state after) :
    Unchanged after binding := by
  intro item member
  obtain ⟨artifact, held, same⟩ := unchanged item member
  exact ⟨artifact, later.artifact held, same⟩

variable {evidenceId : String}

theorem Later.findEvidence (later : Later state after)
    (found : state.evaluation.findEvidence evidenceId = some row) :
    after.evaluation.findEvidence evidenceId = some row := by
  obtain ⟨more, grown, -⟩ := later.evidence
  rw [EvaluationState.findEvidence, grown]
  exact find_append_some found more

theorem Later.executions_mem (later : Later state after) (made : execution ∈ state.executions) :
    execution ∈ after.executions := by
  obtain ⟨more, grown, -⟩ := later.executions
  rw [grown]
  exact mem_append_left more made

theorem Supports.later {decided : GateDecision}
    (supports : Supports state decided evidenceId execution) (later : Later state after) :
    Supports after decided evidenceId execution where
  made := later.executions_mem supports.made
  admitted := by
    obtain ⟨row, found, same⟩ := supports.admitted
    exact ⟨row, later.findEvidence found, same⟩
  strategyVersionId := supports.strategyVersionId
  snapshotId := supports.snapshotId
  gateId := supports.gateId
  snapshotHash := by
    obtain ⟨row, found, same⟩ := supports.snapshotHash
    exact ⟨row, later.snapshots _ _ found, same⟩
  stateVersion := supports.stateVersion
  unchanged := supports.unchanged.later later

structure Traced (state : VerifierState) : Prop where
  orderly : Orderly state.evaluation
  evidence : ∀ row ∈ state.evaluation.evidence, row.artifactId < state.evaluation.store.artifacts.length
  executions : ∀ execution ∈ state.executions, Genuine state execution
  reports : KeyedRows.Distinct ExecutionRow.reportArtifactId state.executions
  operations : KeyedRows.Distinct ExecutionRow.operationKey state.executions
  cited : ∀ decided ∈ state.evaluation.decisions, decided.evidenceIds ≠ []
  supported : ∀ decided ∈ state.evaluation.decisions, ∀ evidenceId ∈ decided.evidenceIds,
    ∃ execution, Supports state decided evidenceId execution
  single : ∀ first ∈ state.evaluation.decisions, ∀ second ∈ state.evaluation.decisions,
    first.strategyVersionId = second.strategyVersionId → first.versionBefore = second.versionBefore →
      first = second

theorem traced_empty : Traced .empty where
  orderly := orderly_empty
  evidence _ member := nomatch member
  executions _ member := nomatch member
  reports := nodup_nil
  operations := nodup_nil
  cited _ member := nomatch member
  supported _ member := nomatch member
  single _ member := nomatch member

theorem Traced.evidence_later (traced : Traced state) (later : Later state after) :
    ∀ row ∈ after.evaluation.evidence, row.artifactId < after.evaluation.store.artifacts.length := by
  intro row member
  rcases later.evidence.mem member with older | bound
  · exact (traced.evidence row older).trans_le later.artifacts.length_le
  · exact bound

theorem Traced.supported_later (traced : Traced state) (later : Later state after)
    {decided : GateDecision} (member : decided ∈ state.evaluation.decisions)
    (cited : evidenceId ∈ decided.evidenceIds) :
    ∃ execution, Supports after decided evidenceId execution := by
  obtain ⟨execution, supports⟩ := traced.supported decided member evidenceId cited
  exact ⟨execution, supports.later later⟩

theorem Traced.idle (traced : Traced state) (idle : Idle state after) : Traced after where
  orderly := idle.orderly traced.orderly
  evidence := traced.evidence_later idle.later
  executions execution member :=
    (traced.executions execution (idle.executions ▸ member)).later idle.later
  reports := idle.executions ▸ traced.reports
  operations := idle.executions ▸ traced.operations
  cited decided member := traced.cited decided (idle.decisions ▸ member)
  supported _ member _ cited := traced.supported_later idle.later (idle.decisions ▸ member) cited
  single first member second other :=
    traced.single first (idle.decisions ▸ member) second (idle.decisions ▸ other)

section Executed

variable {runner : Runner} {request : ExecuteRequest} {ids : GeneratedIds} {began : Time} {making : Making}

theorem Prepares.stateVersion_eq (prepares : Prepares state actor request prepared)
    (orderly : Orderly state.evaluation) :
    prepared.stateVersion = state.evaluation.store.version "candidate" request.strategyVersionId := by
  rw [prepares.stateVersion]
  cases held : state.evaluation.candidate request.strategyVersionId with
  | some => exact (orderly.version_eq held).symm
  | none =>
    cases stored : state.evaluation.store.state "candidate" request.strategyVersionId with
    | none => rw [Store.version, stored]; rfl
    | some aggregate =>
      obtain ⟨_, known⟩ := orderly.typed _ aggregate stored
      rw [held] at known
      cases known

theorem Makes.genuine (makes : Makes deployment state actor runner request ids now making)
    (orderly : Orderly state.evaluation) : Genuine (making.result deployment state actor runner request ids began)
      (making.execution deployment state runner request ids) where
  supported := makes.prepares.supported
  stateVersion := by
    have kept : Later state (making.result deployment state actor runner request ids began) := making.later
    exact (makes.prepares.stateVersion_eq orderly).le.trans (kept.versions request.strategyVersionId)
  stored := by simp [Making.result, Making.evaluation, Store.append, Making.execution, executionRow, makeManifest]
  logged := ⟨_, findEvent_new makes.unused⟩

/-- The execution that is made has a key and a report of its own. -/
theorem Traced.executed (traced : Traced state)
    (makes : Makes deployment state actor runner request ids now making) :
    Traced (making.result deployment state actor runner request ids began) := by
  have later : Later state (making.result deployment state actor runner request ids began) := making.later
  have freshReport : KeyedRows.find ExecutionRow.reportArtifactId
      (making.execution deployment state runner request ids).reportArtifactId state.executions = none := by
    rw [find_none]
    exact fun other member same => absurd (traced.executions other member).stored same.ge.not_gt
  have freshKey : KeyedRows.find ExecutionRow.operationKey
      (making.execution deployment state runner request ids).operationKey state.executions = none := by
    rw [find_none]
    intro other member same
    obtain ⟨_, logged⟩ := (traced.executions other member).logged
    rw [same] at logged
    exact absurd (logged.symm.trans makes.unused) (by simp)
  refine ⟨makes.orderly traced.orderly, traced.evidence_later later, fun execution member => ?_,
    distinct_insert traced.reports freshReport, distinct_insert traced.operations freshKey,
    traced.cited, fun _ member _ cited => traced.supported_later later member cited, traced.single⟩
  rcases mem_added member with older | newest
  · exact (traced.executions execution older).later later
  · rw [newest]
    exact makes.genuine traced.orderly

end Executed

section Decided

variable {request : GateInput} {row : SnapshotRow} {object : ObjectRow} {items : List EvidenceItem}
  {version gateDecisionId : String}

theorem Judges.verified (judges : Judges deployment state actor request now row object items)
    (cited : evidenceId ∈ request.evidenceIds) : ∃ evidence artifact execution,
      state.evaluation.findEvidence evidenceId = some evidence ∧
        Verified deployment state actor now evidence.artifactId artifact request row execution := by
  obtain ⟨item, gathered⟩ := mapM_succeeds_iff.mp ⟨items, judges.gathers.gathered⟩ evidenceId cited
  obtain ⟨found, -, checked⟩ := gatherEvidence_ok gathered
  obtain ⟨execution, verified⟩ := verifyExecution_ok checked
  exact ⟨item.evidence, item.artifact, execution, found, verified⟩

theorem Judges.supports (judges : Judges deployment state actor request now row object items)
    (cited : evidenceId ∈ request.evidenceIds) : ∃ execution,
      Supports state (judged state actor request now row object items version gateDecisionId) evidenceId
        execution := by
  obtain ⟨evidence, _, execution, found, verified⟩ := judges.verified cited
  obtain ⟨_, binds⟩ := verified.binds
  obtain ⟨pinned, strategy, gate, -⟩ := binds.columns
  exact ⟨execution, find_mem verified.found,
    ⟨evidence, found, (find_key verified.found).symm⟩, strategy, pinned, gate,
    ⟨row, judges.decides.admissible.pinned, binds.snapshotHash⟩, binds.stateVersion, verified.unchanged⟩

theorem Judges.cited (judges : Judges deployment state actor request now row object items) :
    request.evidenceIds ≠ [] := by
  intro none
  have gathered := judges.gathers.gathered
  rw [none, mapM_nil, pure_ok] at gathered
  subst gathered
  exact judges.gathers.classed rfl

theorem Traced.decided (traced : Traced state)
    (judges : Judges deployment state actor request now row object items) :
    Traced (state.recordDecision request (judgedTransition actor request now row object items version)
      (judged state actor request now row object items version gateDecisionId)) := by
  have later : Later state (state.recordDecision request
    (judgedTransition actor request now row object items version)
    (judged state actor request now row object items version gateDecisionId)) := judges.later
  have ahead : ∀ decided ∈ state.evaluation.decisions, decided.strategyVersionId = request.strategyVersionId →
      decided.versionBefore ≠ request.expectedVersion := by
    intro decided member same
    have behind := traced.orderly.behind decided member
    rw [same, ← judges.current] at behind
    exact behind.ne
  refine ⟨judges.orderly traced.orderly, traced.evidence_later later,
    fun execution member => (traced.executions execution member).later later, traced.reports,
    traced.operations, fun decided member => ?_, fun decided member evidenceId cited => ?_,
    fun first member second other named before => ?_⟩
  · rcases mem_append.mp member with older | newest
    · exact traced.cited decided older
    · rw [mem_singleton.mp newest]
      exact judges.cited
  · rcases mem_append.mp member with older | newest
    · exact traced.supported_later later older cited
    · rw [mem_singleton.mp newest] at cited ⊢
      obtain ⟨execution, supports⟩ := judges.supports cited
      exact ⟨execution, supports.later later⟩
  · rcases mem_append.mp member with older | newest <;>
      rcases mem_append.mp other with olderToo | newestToo
    · exact traced.single first older second olderToo named before
    · rw [mem_singleton.mp newestToo] at named before
      exact absurd before (ahead first older named)
    · rw [mem_singleton.mp newest] at named before
      exact absurd before.symm (ahead second olderToo named.symm)
    · exact (mem_singleton.mp newest).trans (mem_singleton.mp newestToo).symm

end Decided

variable {call : TimedCall}

theorem Effect.traced (effect : Effect deployment state after call) (traced : Traced state) :
    Traced after := by
  cases effect with
  | idle idle => exact traced.idle idle
  | executed makes same => exact same ▸ traced.executed makes
  | decided judges same => exact same ▸ traced.decided judges

theorem idle_stamp (before : EvaluationState) (began : Time) : Idle state (stamp before state began) :=
  idle_of_evaluation rfl rfl rfl

theorem handle_effect (traced : Traced state)
    (ok : handle deployment state call = .ok (answer, after)) : ∃ between,
      respond deployment state call.actor call.began call.call = .ok (answer, between) ∧
        Effect deployment state between call ∧ after = stamp state.evaluation between call.began := by
  simp only [handle, bind_ok, pair_ok, Prod.exists] at ok
  obtain ⟨_, between, responded, rfl, rfl⟩ := ok
  exact ⟨between, responded, respond_effect traced.orderly responded, rfl⟩

theorem handle_traced (traced : Traced state)
    (ok : handle deployment state call = .ok (answer, after)) :
    Traced after ∧ Later state after := by
  obtain ⟨_, -, effect, rfl⟩ := handle_effect traced ok
  exact ⟨(effect.traced traced).idle (idle_stamp _ _), effect.later.trans (idle_stamp _ _).later⟩

theorem run_traced (traced : Traced state) (calls : List TimedCall) :
    Traced (run (handle deployment) state calls) ∧ Later state (run (handle deployment) state calls) := by
  refine run_preserves (fun reached => Traced reached ∧ Later state reached) ⟨traced, .refl state⟩
    (fun reached call kept => ?_) calls
  refine next_of_answered (fun reached => Traced reached ∧ Later state reached) kept fun _ _ ok => ?_
  obtain ⟨next, later⟩ := handle_traced kept.1 ok
  exact ⟨next, kept.2.trans later⟩

theorem history_traced (deployment : Deployment) (calls : List TimedCall) : Traced (history deployment calls) :=
  (run_traced traced_empty calls).1

theorem hashes_unchanged (held : Held state inputs) :
    ∀ item ∈ sortedItems (hashes inputs), ∃ artifact,
      state.evaluation.store.artifacts[item.1]? = some artifact ∧ artifact.content.contentHash = item.2 := by
  intro item member
  obtain ⟨input, read, rfl⟩ := mem_map.mp (mem_sortedItems.mp member)
  exact ⟨input.2, held input read, rfl⟩

structure MadeFor (state : VerifierState) (request : ExecuteRequest) (execution : ExecutionRow) : Prop where
  strategyVersionId : execution.strategyVersionId = request.strategyVersionId
  snapshotId : execution.snapshotId = request.snapshotId
  gateId : execution.gateId = request.gateId
  operationKey : execution.operationKey = request.operationKey
  snapshotHash : ∃ row, state.evaluation.findSnapshot request.snapshotId = some row ∧
    execution.manifest.binding.snapshotHash = row.manifest
  stateVersion : execution.manifest.binding.candidateStateVersion =
    state.evaluation.store.version "candidate" request.strategyVersionId
  unchanged : Unchanged state execution.manifest.binding

theorem Makes.madeFor (makes : Makes deployment state actor runner request ids now making)
    (orderly : Orderly state.evaluation) :
    MadeFor state request (making.execution deployment state runner request ids) where
  strategyVersionId := rfl
  snapshotId := rfl
  gateId := rfl
  operationKey := rfl
  snapshotHash := ⟨making.prepared.row, makes.prepares.admissible.pinned, rfl⟩
  stateVersion := makes.prepares.stateVersion_eq orderly
  unchanged := hashes_unchanged (gatherInputs_held makes.read makes.gathered)

def Made (deployment : Deployment) (calls : List TimedCall) (execution : ExecutionRow) : Prop :=
  ∃ earlier later actor began runner request ids now,
    calls = earlier ++ ⟨actor, began, .execute runner request ids now⟩ :: later ∧
      MadeFor (history deployment earlier) request execution

/-- Only `execute` makes executions. -/
theorem made_of_mem (member : execution ∈ (history deployment calls).executions) :
    Made deployment calls execution := by
  obtain ⟨earlier, call, later, cut, before, gained⟩ :=
    run_gained (fun state : VerifierState => execution ∈ state.executions) not_mem_nil member
  have traced := history_traced deployment earlier
  cases result : handle deployment (run (handle deployment) .empty earlier) call with
  | error =>
    rw [next_of_error result] at gained
    exact absurd gained before
  | ok pair =>
    obtain ⟨_, _⟩ := pair
    rw [next_of_ok result] at gained
    obtain ⟨_, -, effect, rfl⟩ := handle_effect traced result
    cases effect with
    | idle idle => exact absurd (idle.executions ▸ gained) before
    | @executed actor began now runner request ids _ makes same =>
      subst same
      refine ⟨earlier, later, actor, began, runner, request, ids, now, cut, ?_⟩
      rcases mem_added gained with older | newest
      · exact absurd older before
      · rw [newest]
        exact makes.madeFor traced.orderly
    | decided _ same =>
      subst same
      exact absurd gained before

variable {operationKey : String}

theorem Answers.later (answers : Answers state operationKey evidenceId) (later : Later state after) :
    Answers after operationKey evidenceId := by
  obtain ⟨event, found, named⟩ := answers
  exact ⟨event, later.events _ _ found, named⟩

section Retries

variable {runner : Runner} {request : ExecuteRequest} {ids : GeneratedIds} {began : Time} {evidenceId : String}

theorem execute_answers
    (ok : execute deployment state actor runner request ids began now = .ok (evidenceId, after)) :
    Answers after request.operationKey evidenceId := by
  rcases execute_ok ok with ⟨rfl, answers⟩ | ⟨_, makes, rfl, rfl⟩
  · exact answers
  · exact ⟨_, findEvent_new makes.unused, rfl⟩

theorem execute_again (answers : Answers state operationKey earlier)
    (same : request.operationKey = operationKey)
    (ok : execute deployment state actor runner request ids began now = .ok (evidenceId, after)) :
    evidenceId = earlier ∧ after = state := by
  obtain ⟨_, found, named⟩ := answers
  rcases execute_ok ok with ⟨rfl, _, foundAgain, namedAgain⟩ | ⟨_, makes, -, -⟩
  · rw [same, found] at foundAgain
    cases foundAgain
    rw [named] at namedAgain
    exact ⟨(Option.some.inj namedAgain).symm, rfl⟩
  · have unused := makes.unused
    rw [same, found] at unused
    cases unused

theorem handle_execute
    (ok : handle deployment state ⟨actor, began, .execute runner request ids now⟩ = .ok (answer, after)) :
    ∃ evidenceId between, execute deployment state actor runner request ids began now = .ok (evidenceId, between) ∧
      answer = .evidence evidenceId ∧ after = stamp state.evaluation between began := by
  simp only [handle, respond, bind_ok, pair_ok, Prod.exists] at ok
  obtain ⟨_, _, ⟨evidenceId, between, done, rfl, rfl⟩, rfl, rfl⟩ := ok
  exact ⟨evidenceId, between, done, rfl, rfl⟩

end Retries

/-- A call of `execute` under an operation key. -/
def TimedCall.Executes (call : TimedCall) (operationKey : String) : Prop :=
  ∃ runner request ids now, call.call = .execute runner request ids now ∧ request.operationKey = operationKey

theorem handle_executes (executes : call.Executes operationKey)
    (ok : handle deployment state call = .ok (answer, after)) :
    ∃ evidenceId, answer = .evidence evidenceId ∧ Answers after operationKey evidenceId ∧
      ∀ earlier, Answers state operationKey earlier →
        evidenceId = earlier ∧ after.executions = state.executions := by
  obtain ⟨_, _, call⟩ := call
  obtain ⟨_, _, _, _, rfl, rfl⟩ := executes
  obtain ⟨evidenceId, _, done, rfl, rfl⟩ := handle_execute ok
  refine ⟨evidenceId, rfl, (execute_answers done).later (idle_stamp _ _).later, fun earlier answers => ?_⟩
  obtain ⟨same, rfl⟩ := execute_again answers rfl done
  exact ⟨same, rfl⟩

theorem answered_once {earlier later : List TimedCall} (executes : first.Executes operationKey)
    (executesAgain : second.Executes operationKey)
    (ok : handle deployment (history deployment earlier) first = .ok (answer, after))
    (okAgain : handle deployment (history deployment (earlier ++ first :: later)) second = .ok (again, final)) :
    again = answer ∧ final.executions = (history deployment (earlier ++ first :: later)).executions := by
  obtain ⟨evidenceId, rfl, answers, -⟩ := handle_executes executes ok
  have reached : history deployment (earlier ++ first :: later) = run (handle deployment) after later := by
    rw [history, run_append, run_cons]
    exact congrArg (fun state => run (handle deployment) state later) (next_of_ok ok)
  have traced : Traced after := (handle_traced (history_traced deployment earlier) ok).1
  have kept : Answers (run (handle deployment) after later) operationKey evidenceId :=
    answers.later (run_traced traced later).2
  rw [← reached] at kept
  obtain ⟨_, rfl, -, repeats⟩ := handle_executes executesAgain okAgain
  obtain ⟨rfl, same⟩ := repeats evidenceId kept
  exact ⟨rfl, same⟩

theorem handle_reentry (traced : Traced state)
    (ok : handle deployment state ⟨actor, began, .reenter request⟩ = .ok (answer, after)) :
    after.evaluation.decisions = state.evaluation.decisions := by
  obtain ⟨_, -, effect, rfl⟩ := handle_effect traced ok
  cases effect with
  | idle idle => exact idle.decisions

theorem evidence_left_behind {earlier later : List TimedCall} {strategyVersionId : String}
    {decided : GateDecision}
    (ok : handle deployment (history deployment earlier) call = .ok (answer, after))
    (moved : after.evaluation.store.version "candidate" strategyVersionId ≠
      (history deployment earlier).evaluation.store.version "candidate" strategyVersionId)
    (member : decided ∈ (history deployment (earlier ++ call :: later)).evaluation.decisions)
    (made : decided ∉ after.evaluation.decisions)
    (named : decided.strategyVersionId = strategyVersionId)
    (cited : evidenceId ∈ decided.evidenceIds) :
    (history deployment earlier).evaluation.findEvidence evidenceId = none := by
  have traced := history_traced deployment earlier
  obtain ⟨tracedAfter, first⟩ := handle_traced traced ok
  have reached : history deployment (earlier ++ call :: later) = run (handle deployment) after later := by
    rw [history, run_append, run_cons]
    exact congrArg (fun state => run (handle deployment) state later) (next_of_ok ok)
  obtain ⟨tracedFinal, rest⟩ := run_traced tracedAfter later
  rw [reached] at member
  by_contra known
  obtain ⟨row, found⟩ := Option.ne_none_iff_exists'.mp known
  obtain ⟨execution, supports⟩ := tracedFinal.supported decided member evidenceId cited
  obtain ⟨_, foundLater, same⟩ := supports.admitted
  have whole := first.trans rest
  rw [whole.findEvidence found] at foundLater
  cases foundLater
  -- the report was there before the call, and so its execution was
  have stored := traced.evidence row (find_mem found)
  have old : execution ∈ (history deployment earlier).executions := by
    rcases whole.executions.mem supports.made with older | newer
    · exact older
    · exact absurd (same ▸ stored) newer.not_gt
  have bound := (traced.executions execution old).stateVersion
  rw [supports.stateVersion, supports.strategyVersionId, named] at bound
  have ahead : after.evaluation.store.version "candidate" strategyVersionId ≤ decided.versionBefore := by
    rcases rest.decisions.mem member with older | newer
    · exact absurd older made
    · exact named ▸ newer
  exact moved ((ahead.trans bound).antisymm (first.versions strategyVersionId))

theorem Traced.early (traced : Traced state) {decided : GateDecision}
    (member : decided ∈ state.evaluation.decisions) : decided.gateId.val ≤ 5 := by
  obtain ⟨evidenceId, cited⟩ := exists_mem_of_ne_nil _ (traced.cited decided member)
  obtain ⟨execution, supports⟩ := traced.supported decided member evidenceId cited
  rw [← supports.gateId]
  exact (traced.executions execution supports.made).supported

theorem Traced.early_status (traced : Traced state) {strategyVersionId : String}
    {current : CandidateState} {gateId : GateId}
    (held : state.evaluation.candidate strategyVersionId = some (version, current))
    (status : current.status = states gateId) : gateId.val ≤ 5 := by
  have standing := traced.orderly.standing strategyVersionId
  rw [held] at standing
  have outcomes := standing.passed status
  have last : (gateId.val, current.snapshotId, Decision.pass) ∈ passes current.snapshotId (gateId.val + 1) := by
    rw [passes_succ]
    exact mem_append_right _ (mem_singleton_self _)
  rw [← outcomes] at last
  obtain ⟨decided, member, same⟩ := mem_map.mp last
  have gate : decided.gateId.val = gateId.val := congrArg Prod.fst same
  rw [← gate]
  exact traced.early (mem_of_mem_filter member)

/-- The evidence of every decision is the report of an execution that was made for just that decision, and
supports no other; what precedes a re-entry supports nothing after it. An operation key makes one
execution, and no decision is made on a gate after the sixth. -/
theorem evidence_used_once (deployment : Deployment) (calls : List TimedCall) :
    (∀ decided ∈ (history deployment calls).evaluation.decisions, ∀ evidenceId ∈ decided.evidenceIds,
      ∃ execution, Supports (history deployment calls) decided evidenceId execution ∧
        Made deployment calls execution) ∧
    (∀ first ∈ (history deployment calls).evaluation.decisions,
      ∀ second ∈ (history deployment calls).evaluation.decisions, ∀ evidenceId ∈ first.evidenceIds,
        evidenceId ∈ second.evidenceIds → first = second) ∧
    (∀ earlier later actor began request answer after, calls = earlier ++ ⟨actor, began, .reenter request⟩ :: later →
      handle deployment (history deployment earlier) ⟨actor, began, .reenter request⟩ = .ok (answer, after) →
      after.evaluation.store.version "candidate" request.strategyVersionId ≠
        (history deployment earlier).evaluation.store.version "candidate" request.strategyVersionId →
      ∀ decided ∈ (history deployment calls).evaluation.decisions,
        decided ∉ (history deployment earlier).evaluation.decisions →
        decided.strategyVersionId = request.strategyVersionId → ∀ evidenceId ∈ decided.evidenceIds,
          (history deployment earlier).evaluation.findEvidence evidenceId = none) ∧
    KeyedRows.Distinct ExecutionRow.operationKey (history deployment calls).executions ∧
    (∀ earlier first later second operationKey answer after again final, calls = earlier ++ first :: later →
      first.Executes operationKey → second.Executes operationKey →
      handle deployment (history deployment earlier) first = .ok (answer, after) →
      handle deployment (history deployment calls) second = .ok (again, final) →
        again = answer ∧ final.executions = (history deployment calls).executions) ∧
    (∀ decided ∈ (history deployment calls).evaluation.decisions, decided.gateId.val < 6) ∧
    ∀ strategyVersionId version current gateId,
      (history deployment calls).evaluation.candidate strategyVersionId = some (version, current) →
      current.status = states gateId → gateId.val < 6 := by
  have traced := history_traced deployment calls
  refine ⟨fun decided member evidenceId cited => ?_, fun first member second other evidenceId cited citedToo => ?_,
    ?_, traced.operations, ?_, fun decided member => Nat.lt_succ_of_le (traced.early member),
    fun strategyVersionId version current gateId held status =>
      Nat.lt_succ_of_le (traced.early_status held status)⟩
  · obtain ⟨execution, supports⟩ := traced.supported decided member evidenceId cited
    exact ⟨execution, supports, made_of_mem supports.made⟩
  · obtain ⟨execution, supports⟩ := traced.supported first member evidenceId cited
    obtain ⟨executionToo, supportsToo⟩ := traced.supported second other evidenceId citedToo
    obtain ⟨_, found, report⟩ := supports.admitted
    obtain ⟨_, foundToo, reportToo⟩ := supportsToo.admitted
    rw [found] at foundToo
    cases foundToo
    -- one report, one execution
    have one : execution = executionToo := by
      have held := find_of_mem traced.reports supports.made
      have heldToo := find_of_mem traced.reports supportsToo.made
      rw [← reportToo, report] at heldToo
      exact Option.some.inj (held.symm.trans heldToo)
    subst one
    exact traced.single first member second other
      (supports.strategyVersionId.symm.trans supportsToo.strategyVersionId)
      (supports.stateVersion.symm.trans supportsToo.stateVersion)
  · rintro earlier later actor began request answer after rfl ok moved decided member made named evidenceId cited
    refine evidence_left_behind ok moved member ?_ named cited
    rwa [handle_reentry (history_traced deployment earlier) ok]
  · rintro earlier first later second operationKey answer after again final rfl executes executesAgain ok okAgain
    exact answered_once executes executesAgain ok okAgain

end Liki.Verifier
