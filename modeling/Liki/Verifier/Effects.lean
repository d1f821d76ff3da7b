import Liki.Evaluation.GateHistory
import Liki.Verifier.Calls

/-! What the calls do. An execution is made once under its operation key, from inputs that are read in
its transaction; whatever has been written stays, and grows at its end. -/
namespace Liki.Verifier
open Checks Evaluation AppendOnly CallSystem List Store EvaluationState

variable {deployment : Deployment} {state after : VerifierState} {actor : Identity} {runner : Runner}
  {request : ExecuteRequest} {ids : GeneratedIds} {began now : Time} {artifactId : ℕ}
  {artifacts : BoundArtifacts}

theorem readArtifact_ok {evaluation : EvaluationState} {artifact : Artifact EvaluationContent}
    (ok : evaluation.readArtifact actor artifactId = .ok artifact) :
    evaluation.store.artifacts[artifactId]? = some artifact ∧
      (artifact.classification ≠ .sealed ∨ actor.role = .sealedEvaluator) := by
  simp only [readArtifact, Store.artifact, bind_ok, expect_ok, guard_ok, pure_ok] at ok
  obtain ⟨row, held, shown, -, rfl⟩ := ok
  refine ⟨held, ?_⟩
  by_cases hidden : row.classification = .sealed
  · exact .inr (not_not.mp fun other => shown ⟨hidden, other⟩)
  · exact .inl hidden

def Held (state : VerifierState) (artifacts : BoundArtifacts) : Prop :=
  ∀ item ∈ artifacts, state.evaluation.store.artifacts[item.1]? = some item.2

theorem readBound_ok (ok : readBound state actor artifactId = .ok item) :
    item.1 = artifactId ∧ state.evaluation.store.artifacts[item.1]? = some item.2 := by
  simp only [readBound, bind_ok, pure_ok] at ok
  obtain ⟨_, read, rfl⟩ := ok
  exact ⟨rfl, (readArtifact_ok read).1⟩

theorem held_mapM {inputs : List ℕ} (ok : inputs.mapM (readBound state actor) = .ok artifacts) :
    Held state artifacts := by
  intro item member
  obtain ⟨_, -, read⟩ := mem_of_mapM ok item member
  exact (readBound_ok read).2

theorem Held.append (left : Held state first) (right : Held state second) :
    Held state (first ++ second) :=
  fun item member => (mem_append.mp member).elim (left item) (right item)

theorem Held.plans (held : Held state artifacts) : Held state (plans artifacts) :=
  fun item member => held item (mem_of_mem_filter member)

variable {row : SnapshotRow} {object : ObjectRow} {gateId : GateId} {artifact : Artifact EvaluationContent}
  {inputs datasets : BoundArtifacts} {derived : Option DerivedReport}

theorem gatherInputs_held (read : state.evaluation.readArtifact actor object.artifactId = .ok artifact)
    (ok : gatherInputs deployment state actor row object gateId artifact now = .ok (inputs, datasets, derived)) :
    Held state inputs := by
  simp only [gatherInputs, bind_ok] at ok
  obtain ⟨pinned, readDatasets, bound, readInputs, found, -, ok⟩ := ok
  have own : Held state [(object.artifactId, artifact)] := by
    intro item member
    rw [mem_singleton.mp member]
    exact (readArtifact_ok read).1
  have first : Held state ((object.artifactId, artifact) :: pinned ++ bound) :=
    (own.append (held_mapM readDatasets)).append (held_mapM readInputs)
  cases found with
  | none =>
    simp only [pair_ok] at ok
    rw [← ok.1]
    exact first
  | some =>
    simp only [bind_ok] at ok
    obtain ⟨_, readOthers, ok⟩ := ok
    have all := first.append (held_mapM readOthers)
    split at ok
    · simp only [bind_ok, pair_ok] at ok
      obtain ⟨_, readUpstream, rfl, -, -⟩ := ok
      exact all.append (held_mapM readUpstream).plans
    · simp only [pair_ok] at ok
      rw [← ok.1]
      exact all

theorem mem_sortedItems : item ∈ sortedItems items ↔ item ∈ items := by
  rw [sortedItems, mem_insertionSort, mem_dedup]

/-- What `prepare` has found. -/
structure Prepares (state : VerifierState) (actor : Identity) (request : ExecuteRequest) (prepared : Prepared) :
    Prop where
  supported : request.gateId.val ≤ 5
  admissible : Admissible state.evaluation actor request.strategyVersionId request.snapshotId prepared.row
    prepared.object
  stateVersion : prepared.stateVersion =
    ((state.evaluation.candidate request.strategyVersionId).map Prod.fst).getD 0

theorem prepare_ok {prepared : Prepared} (ok : prepare deployment state actor runner request = .ok prepared) :
    Prepares state actor request prepared := by
  simp only [prepare, bind_ok, guard_ok, expect_ok, pure_ok, not_not] at ok
  obtain ⟨supported, -, -, _, -, -, _, usable, _, registered, bound, foreign, -, rfl⟩ := ok
  obtain ⟨pinned, valid⟩ := validSnapshot_ok usable
  exact ⟨not_lt.mp supported, ⟨pinned, valid, registered, bound, foreign⟩, rfl⟩

/-- What an execution is made of. -/
structure Making where
  prepared : Prepared
  artifact : Artifact EvaluationContent
  inputs : BoundArtifacts
  datasets : BoundArtifacts
  derived : Option DerivedReport
  version : String

namespace Making

variable (making : Making) (deployment : Deployment) (state : VerifierState) (actor : Identity)
  (runner : Runner) (request : ExecuteRequest) (ids : GeneratedIds) (began : Time)

def binding : Binding :=
  makeBinding request making.prepared.row making.prepared.stateVersion making.inputs

def report : VerifierReport :=
  makeReport ids making.prepared.row (contractChecks deployment state making.prepared.row
    making.prepared.object making.artifact making.datasets) making.derived

def stored : Artifact EvaluationContent :=
  ⟨deployment.content (making.report deployment state ids), "verified-gate-report-v1", .internal,
    actor.principalId, making.version⟩

def execution : ExecutionRow :=
  executionRow deployment runner request (makeManifest deployment runner making.prepared.key ids
    (making.binding request) state.evaluation.store.artifacts.length (making.report deployment state ids))

def transition : EvaluationTransition :=
  executionRequest actor runner ids (making.binding request) making.prepared.object.campaignId making.version
    state.evaluation.store.artifacts.length

def evaluation : EvaluationState :=
  let store := { state.evaluation.store with
    artifacts := state.evaluation.store.artifacts ++ [making.stored deployment state actor ids] }
  let store := store.append request.operationKey (making.transition state actor runner request ids) none
  { state.evaluation with
    store := { store with evidence := store.evidence ++ [ids.evidenceId] }
    evidence := state.evaluation.evidence ++ [⟨ids.evidenceId, state.evaluation.store.artifacts.length,
      evidenceClasses request.gateId, .development, began⟩] }

def result : VerifierState :=
  { state with
    evaluation := making.evaluation deployment state actor runner request ids began
    executions := state.executions ++ [making.execution deployment state runner request ids] }

end Making

structure Makes (deployment : Deployment) (state : VerifierState) (actor : Identity) (runner : Runner)
    (request : ExecuteRequest) (ids : GeneratedIds) (now : Time) (making : Making) : Prop where
  prepares : Prepares state actor request making.prepared
  read : state.evaluation.readArtifact actor making.prepared.object.artifactId = .ok making.artifact
  gathered : gatherInputs deployment state actor making.prepared.row making.prepared.object request.gateId
    making.artifact now = .ok (making.inputs, making.datasets, making.derived)
  unused : state.evaluation.findEvent request.operationKey = none
  current : 0 = state.evaluation.store.version "verifier_execution" ids.executionId
  unnamed : state.evaluation.findEvidence ids.evidenceId = none

/-- The log has an execution under the key that gave the evidence. -/
def Answers (state : VerifierState) (operationKey evidenceId : String) : Prop :=
  ∃ event, state.evaluation.findEvent operationKey = some event ∧ evidenceOf event = some evidenceId

variable {evidenceId schemaName operationKey : String} {event : EvaluationEvent}
  {classification : StoreClassification} {content : EvaluationContent} {store : EvaluationStore}

theorem retryExecution_ok (ok : retryExecution state runner request = .ok evidenceId) :
    Answers state request.operationKey evidenceId := by
  simp only [retryExecution, bind_ok, expect_ok, guard_ok, pure_ok] at ok
  obtain ⟨event, found, _, named, _, -, _, -, -, rfl⟩ := ok
  exact ⟨event, found, named⟩

theorem repeatExecution_ok {binding : Binding}
    (ok : repeatExecution event runner binding = .ok evidenceId) :
    evidenceOf event = some evidenceId := by
  unfold repeatExecution at ok
  split at ok
  · rename_i execution same
    simp only [bind_ok, guard_ok, pure_ok] at ok
    simp only [evidenceOf, same, ok.2]
  · cases ok

theorem putArtifact_new {stored : EvaluationStore} {policyVersion : String}
    (ok : store.putArtifact actor content schemaName classification policyVersion = .ok (artifactId, stored))
    (new : artifactId = store.artifacts.length) :
    stored = { store with
      artifacts := store.artifacts ++ [⟨content, schemaName, classification, actor.principalId, policyVersion⟩] } := by
  rcases putArtifact_cases ok with ⟨-, found⟩ | ⟨-, -, appended⟩
  · obtain ⟨_, -⟩ := findIdx?_eq_some_iff_getElem.mp found
    omega
  · exact appended

theorem transition_new {evaluation later : EvaluationState} {request : EvaluationTransition}
    (ok : evaluation.transition actor capability operationKey request = .ok later)
    (unused : evaluation.findEvent operationKey = none) :
    later = evaluation.append operationKey request ∧
      request.expectedVersion = evaluation.store.version request.kind request.aggregateId := by
  obtain ⟨_, recorded, rfl⟩ := transition_ok ok
  cases recorded with
  | replayed member named =>
    exact absurd named (by simpa using find?_eq_none.mp unused _ member)
  | appended _ current => exact ⟨rfl, current⟩

theorem insertEvidence_ok {evaluation later : EvaluationState} {row : EvidenceRow}
    (ok : insertEvidence evaluation row = .ok later) :
    evaluation.findEvidence row.evidenceId = none ∧ row.artifactId < evaluation.store.artifacts.length ∧
      later = { evaluation with
        store := { evaluation.store with evidence := evaluation.store.evidence ++ [row.evidenceId] }
        evidence := evaluation.evidence ++ [row] } := by
  simp only [insertEvidence, bind_ok, guard_ok, pure_ok, Bool.not_eq_true,
    Option.isSome_eq_false_iff, Option.isNone_iff_eq_none, not_le] at ok
  exact ⟨ok.1, ok.2.1, ok.2.2.symm⟩

/-- An answered `execute` repeats what an earlier one has answered, or makes an execution. -/
theorem execute_ok
    (ok : execute deployment state actor runner request ids began now = .ok (evidenceId, after)) :
    (after = state ∧ Answers state request.operationKey evidenceId) ∨
      ∃ making, Makes deployment state actor runner request ids now making ∧ evidenceId = ids.evidenceId ∧
        after = making.result deployment state actor runner request ids began := by
  simp only [execute, bind_ok] at ok
  obtain ⟨prepared, asked, ok⟩ := ok
  split at ok
  · simp only [bind_ok, pure_ok, Prod.mk.injEq] at ok
    obtain ⟨_, retried, rfl, rfl⟩ := ok
    exact .inl ⟨rfl, retryExecution_ok retried⟩
  · simp only [bind_ok, guard_ok] at ok
    obtain ⟨artifact, read, -, ⟨inputs, datasets, derived⟩, gathered, ok⟩ := ok
    split at ok
    · rename_i event found
      simp only [bind_ok, pure_ok, Prod.mk.injEq] at ok
      obtain ⟨_, repeated, rfl, rfl⟩ := ok
      exact .inl ⟨rfl, event, found, repeatExecution_ok repeated⟩
    · rename_i unused
      simp only [recordExecution, insertExecution, bind_ok, expect_ok, guard_ok, pure_ok,
        Prod.mk.injEq, Prod.exists, not_not] at ok
      obtain ⟨_, ⟨version, -, _, _, put, new, _, moved, _, ⟨-, -, rfl⟩, _,
        admitted, rfl⟩, rfl, rfl⟩ := ok
      subst new
      rw [putArtifact_new put rfl] at moved
      obtain ⟨rfl, current⟩ := transition_new moved unused
      obtain ⟨unnamed, -, rfl⟩ := insertEvidence_ok admitted
      exact .inr ⟨⟨prepared, artifact, inputs, datasets, derived, version⟩,
        ⟨prepare_ok asked, read, gathered, unused, current, unnamed⟩, rfl, rfl⟩

/-- The artifact is there, and row-level security shows it to everyone. -/
def Shown (state : VerifierState) (artifactId : ℕ) : Prop :=
  ∃ artifact, state.evaluation.store.artifacts[artifactId]? = some artifact ∧ artifact.classification ≠ .sealed

/-- What was written stays. What is new is written later: no execution is about a report that was there,
and no decision is made at a version that was left. What is registered is not sealed. -/
structure Later (state after : VerifierState) : Prop where
  artifacts : state.evaluation.store.artifacts <+: after.evaluation.store.artifacts
  events : ∀ operationKey event, state.evaluation.findEvent operationKey = some event →
    after.evaluation.findEvent operationKey = some event
  versions : ∀ strategyVersionId, state.evaluation.store.version "candidate" strategyVersionId ≤
    after.evaluation.store.version "candidate" strategyVersionId
  snapshots : ∀ snapshotId row, state.evaluation.findSnapshot snapshotId = some row →
    after.evaluation.findSnapshot snapshotId = some row
  objects : ∀ objectId object, state.evaluation.findObject objectId = some object →
    after.evaluation.findObject objectId = some object
  evidence : AppendOnly.Grows (fun row => row.artifactId < after.evaluation.store.artifacts.length)
    state.evaluation.evidence after.evaluation.evidence
  trials : state.trials <+: after.trials
  executions : AppendOnly.Grows
    (fun execution => state.evaluation.store.artifacts.length ≤ execution.reportArtifactId)
    state.executions after.executions
  decisions : AppendOnly.Grows
    (fun decided => state.evaluation.store.version "candidate" decided.strategyVersionId ≤ decided.versionBefore)
    state.evaluation.decisions after.evaluation.decisions
  registered : AppendOnly.Grows (fun object => Shown after object.artifactId)
    state.evaluation.objects after.evaluation.objects

theorem Later.refl (state : VerifierState) : Later state state :=
  ⟨prefix_rfl, fun _ _ => id, fun _ => le_rfl, fun _ _ => id, fun _ _ => id, .refl _ _,
    prefix_rfl, .refl _ _, .refl _ _, .refl _ _⟩

theorem artifact_kept
    (grown : state.evaluation.store.artifacts <+: after.evaluation.store.artifacts)
    (held : state.evaluation.store.artifacts[artifactId]? = some artifact) :
    after.evaluation.store.artifacts[artifactId]? = some artifact := by
  obtain ⟨_, grown⟩ := grown
  obtain ⟨bound, -⟩ := List.getElem?_eq_some_iff.mp held
  rw [← grown, List.getElem?_append_left bound, held]

theorem Shown.kept (shown : Shown state artifactId)
    (grown : state.evaluation.store.artifacts <+: after.evaluation.store.artifacts) :
    Shown after artifactId := by
  obtain ⟨artifact, held, plain⟩ := shown
  exact ⟨artifact, artifact_kept grown held, plain⟩

variable {between : VerifierState}

theorem Later.trans (first : Later state between) (second : Later between after) :
    Later state after where
  artifacts := first.artifacts.trans second.artifacts
  events _ _ found := second.events _ _ (first.events _ _ found)
  versions _ := (first.versions _).trans (second.versions _)
  snapshots _ _ found := second.snapshots _ _ (first.snapshots _ _ found)
  objects _ _ found := second.objects _ _ (first.objects _ _ found)
  evidence := (first.evidence.mono fun _ bound => bound.trans_le second.artifacts.length_le).trans
    second.evidence
  trials := first.trials.trans second.trials
  executions := first.executions.trans
    (second.executions.mono fun _ new => first.artifacts.length_le.trans new)
  decisions := first.decisions.trans (second.decisions.mono fun _ new => (first.versions _).trans new)
  registered := (first.registered.mono fun _ shown => shown.kept second.artifacts).trans second.registered

theorem findEvent_append {evaluation : EvaluationState} {request : EvaluationTransition}
    (found : evaluation.findEvent operationKey = some event) :
    (evaluation.append other request).findEvent operationKey = some event := by
  have held : evaluation.store.events.find? (fun event => event.operationKey = operationKey) = some event := found
  change (evaluation.store.events ++ [_]).find? _ = _
  rw [find?_append, held, Option.some_or]

theorem findEvent_new {evaluation : EvaluationState} {request : EvaluationTransition}
    (unused : evaluation.findEvent operationKey = none) :
    (evaluation.append operationKey request).findEvent operationKey = some ⟨operationKey, request⟩ := by
  have absent : evaluation.store.events.find? (fun event => event.operationKey = operationKey) = none := unused
  change (evaluation.store.events ++ [_]).find? _ = _
  rw [find?_append, absent, Option.none_or]
  simp

theorem findEvent_recorded {evaluation : EvaluationState} {request : EvaluationTransition}
    (recorded : evaluation.store.Recorded operationKey request none store)
    (found : evaluation.findEvent key = some event) :
    { evaluation with store }.findEvent key = some event := by
  cases recorded with
  | replayed => exact found
  | appended => exact findEvent_append found

theorem artifacts_recorded {request : EvaluationTransition}
    (recorded : store.Recorded operationKey request none moved) :
    moved.artifacts = store.artifacts := by
  cases recorded with
  | replayed => rfl
  | appended => rfl

theorem later_recorded {request : EvaluationTransition}
    (recorded : state.evaluation.store.Recorded operationKey request none store) :
    Later state { state with evaluation := { state.evaluation with store } } where
  artifacts := (artifacts_recorded recorded).symm ▸ prefix_rfl
  events _ _ found := findEvent_recorded recorded found
  versions _ := recorded.version_le _ _
  snapshots _ _ := id
  objects _ _ := id
  evidence := .refl _ _
  trials := prefix_rfl
  executions := .refl _ _
  decisions := .refl _ _
  registered := .refl _ _

theorem later_putArtifact {policyVersion : String}
    (ok : state.evaluation.store.putArtifact actor content schemaName classification policyVersion =
      .ok (artifactId, store)) :
    Later state { state with evaluation := { state.evaluation with store } } := by
  obtain ⟨events, aggregates, -⟩ := Store.putArtifact_ok ok
  refine ⟨Store.putArtifact_grows ok, fun _ _ found => ?_, fun _ => ?_, fun _ _ => id, fun _ _ => id, .refl _ _,
    prefix_rfl, .refl _ _, .refl _ _, .refl _ _⟩
  · rw [findEvent, events]
    exact found
  · rw [Store.version, Store.version, Store.state, Store.state, aggregates]

/-- Nothing is verified or decided. -/
structure Idle (state after : VerifierState) : Prop where
  later : Later state after
  orderly : Orderly state.evaluation → Orderly after.evaluation
  executions : after.executions = state.executions
  decisions : after.evaluation.decisions = state.evaluation.decisions

theorem Idle.refl (state : VerifierState) : Idle state state := ⟨.refl state, id, rfl, rfl⟩

theorem Idle.trans (first : Idle state between) (second : Idle between after) : Idle state after :=
  ⟨first.later.trans second.later, fun orderly => second.orderly (first.orderly orderly),
    second.executions.trans first.executions, second.decisions.trans first.decisions⟩

/-- Whatever leaves the tables that are compared is idle. -/
theorem idle_of_tables (store : after.evaluation.store = state.evaluation.store)
    (objects : after.evaluation.objects = state.evaluation.objects)
    (snapshots : after.evaluation.snapshots = state.evaluation.snapshots)
    (evidence : after.evaluation.evidence = state.evaluation.evidence)
    (decisions : after.evaluation.decisions = state.evaluation.decisions)
    (trials : after.trials = state.trials) (executions : after.executions = state.executions) :
    Idle state after where
  later :=
    { artifacts := store ▸ prefix_rfl
      events := fun _ _ found => by rwa [findEvent, store]
      versions := fun _ => by rw [store]
      snapshots := fun _ _ found => by rwa [findSnapshot, snapshots]
      objects := fun _ _ found => by rwa [findObject, objects]
      evidence := evidence ▸ .refl _ _
      trials := trials ▸ prefix_rfl
      executions := executions ▸ .refl _ _
      decisions := decisions ▸ .refl _ _
      registered := objects ▸ .refl _ _ }
  orderly orderly := by
    refine orderly.quiet (quiet_of_tables (by rw [store]) (by rw [store]) decisions
      (fun _ _ found => ?_) fun _ _ found => ?_)
    · rwa [findObject, objects]
    · rwa [findSnapshot, snapshots]
  executions := executions
  decisions := decisions

theorem idle_of_evaluation (evaluation : after.evaluation = state.evaluation) (trials : after.trials = state.trials)
    (executions : after.executions = state.executions) : Idle state after := by
  refine idle_of_tables ?_ ?_ ?_ ?_ ?_ trials executions
  all_goals rw [evaluation]

theorem idle_insertEvidence {row : EvidenceRow} {evaluation : EvaluationState}
    (ok : insertEvidence state.evaluation row = .ok evaluation) : Idle state { state with evaluation } := by
  obtain ⟨-, bound, rfl⟩ := insertEvidence_ok ok
  have grows : AppendOnly.Grows (fun other => other.artifactId < state.evaluation.store.artifacts.length)
      state.evaluation.evidence (state.evaluation.evidence ++ [row]) := ⟨[row], rfl, by simpa using bound⟩
  exact ⟨⟨prefix_rfl, fun _ _ => id, fun _ => le_rfl, fun _ _ => id, fun _ _ => id, grows,
    prefix_rfl, .refl _ _, .refl _ _, .refl _ _⟩,
    fun orderly => orderly.quiet (quiet_of_tables rfl rfl rfl (fun _ _ => id) fun _ _ => id), rfl, rfl⟩

theorem idle_recorded {request : EvaluationTransition}
    (recorded : state.evaluation.store.Recorded operationKey request none store)
    (other : request.kind ≠ "candidate") :
    Idle state { state with evaluation := { state.evaluation with store } } :=
  ⟨later_recorded recorded, fun orderly => orderly.quiet (quiet_recorded recorded other), rfl, rfl⟩

theorem idle_putArtifact {policyVersion : String}
    (ok : state.evaluation.store.putArtifact actor content schemaName classification policyVersion =
      .ok (artifactId, store)) :
    Idle state { state with evaluation := { state.evaluation with store } } :=
  ⟨later_putArtifact ok, fun orderly => orderly.quiet (quiet_putArtifact ok), rfl, rfl⟩

theorem idle_insertSnapshot (row : SnapshotRow) :
    Idle state { state with evaluation := insertSnapshot state.evaluation row } := by
  have quiet : Quiet state.evaluation (insertSnapshot state.evaluation row) := quiet_insertSnapshot row
  unfold insertSnapshot at quiet ⊢
  split
  · exact .refl state
  · rename_i new
    rw [if_neg new] at quiet
    exact ⟨⟨prefix_rfl, fun _ _ => id, fun _ => le_rfl, quiet.snapshots, fun _ _ => id, .refl _ _,
      prefix_rfl, .refl _ _, .refl _ _, .refl _ _⟩, fun orderly => orderly.quiet quiet, rfl, rfl⟩

theorem idle_insertObject {row : ObjectRow} (shown : Shown state row.artifactId)
    (ok : insertObject state row = .ok after) : Idle state after := by
  unfold insertObject at ok
  split at ok
  · cases ok
    exact .refl state
  · simp only [bind_ok, guard_ok, pure_ok] at ok
    obtain ⟨-, rfl⟩ := ok
    have kept : ∀ objectId object, state.evaluation.findObject objectId = some object →
        { state.evaluation with objects := state.evaluation.objects ++ [row] }.findObject objectId =
          some object := fun _ _ found => KeyedRows.find_append_some found [row]
    have grows : AppendOnly.Grows (fun object => Shown state object.artifactId)
        state.evaluation.objects (state.evaluation.objects ++ [row]) := ⟨[row], rfl, by simpa using shown⟩
    exact ⟨⟨prefix_rfl, fun _ _ => id, fun _ => le_rfl, fun _ _ => id, kept, .refl _ _, prefix_rfl,
      .refl _ _, .refl _ _, grows⟩,
      fun orderly => orderly.quiet (quiet_of_tables rfl rfl rfl kept fun _ _ => id), rfl, rfl⟩

theorem shown_of_read (permitted : actor.requires .research = .ok ())
    (read : state.evaluation.readArtifact actor artifactId = .ok artifact) :
    Shown state artifactId := by
  obtain ⟨held, plain | sealedRole⟩ := readArtifact_ok read
  · exact ⟨artifact, held, plain⟩
  · simp [Identity.requires, refuseIf_ok, sealedRole, Role.capabilities] at permitted

variable {name : String} {trial : Research.Trial}

theorem idle_register {registered : Research.ResearchObject}
    (ok : register state actor registered = .ok (name, after)) : Idle state after := by
  simp only [register, bind_ok, guard_ok, pair_ok] at ok
  obtain ⟨⟨⟩, permitted, _, read, -, evaluation, moved, between, inserted, -, -, rfl⟩ := ok
  obtain ⟨store, recorded, rfl⟩ := transition_ok moved
  have shown : Shown state registered.artifactId := shown_of_read permitted read
  have logged : Idle state { state with evaluation := { state.evaluation with store } } :=
    idle_recorded recorded (by simp [shared, Research.ResearchObject.request])
  have registers : Idle { state with evaluation := { state.evaluation with store } } between :=
    idle_insertObject (shown.kept logged.later.artifacts) inserted
  exact (logged.trans registers).trans (idle_of_evaluation rfl rfl rfl)

theorem idle_insertTrial (ok : insertTrial state trial tags = .ok after) : Idle state after := by
  unfold insertTrial at ok
  split at ok
  · cases ok
    exact .refl state
  · simp only [bind_ok, guard_ok, pure_ok] at ok
    obtain ⟨-, -, -, rfl⟩ := ok
    exact ⟨⟨prefix_rfl, fun _ _ => id, fun _ => le_rfl, fun _ _ => id, fun _ _ => id, .refl _ _,
      prefix_append _ _, .refl _ _, .refl _ _, .refl _ _⟩, id, rfl, rfl⟩

theorem idle_recordTrial (ok : recordTrial state actor trial = .ok (name, after)) :
    Idle state after := by
  have written : ∀ tags evaluation, state.evaluation.transition actor .research trial.operationKey
      (shared (trial.request actor tags)) = .ok evaluation →
        insertTrial { state with evaluation } trial tags = .ok after → Idle state after := by
    intro tags evaluation moved inserted
    obtain ⟨store, recorded, rfl⟩ := transition_ok moved
    have logged : Idle state { state with evaluation := { state.evaluation with store } } :=
      idle_recorded recorded (by simp [shared, Research.Trial.request])
    exact logged.trans (idle_insertTrial inserted)
  simp only [recordTrial, bind_ok] at ok
  obtain ⟨-, -, -, -, ok⟩ := ok
  split at ok
  · simp only [bind_ok, pair_ok] at ok
    obtain ⟨-, -, evaluation, moved, _, inserted, -, rfl⟩ := ok
    exact written _ _ moved inserted
  · simp only [bind_ok, pair_ok] at ok
    obtain ⟨-, -, _, moved, _, inserted, -, rfl⟩ := ok
    exact written _ _ moved inserted

def VerifierState.recordDecision (state : VerifierState) (request : GateInput) (transition : EvaluationTransition)
    (decided : GateDecision) : VerifierState :=
  { state with evaluation := state.evaluation.record request.operationKey transition [decided] }

structure Judges (deployment : Deployment) (state : VerifierState) (actor : Identity) (request : GateInput)
    (now : Time) (row : SnapshotRow) (object : ObjectRow) (items : List EvidenceItem) : Prop where
  decides : Decides state.evaluation actor request row object
  current : request.expectedVersion = state.evaluation.store.version "candidate" request.strategyVersionId
  gathers : Gathers (verifyExecution deployment state now) state.evaluation actor request row now items

def judged (state : VerifierState) (actor : Identity) (request : GateInput) (now : Time) (row : SnapshotRow)
    (object : ObjectRow) (items : List EvidenceItem) (version gateDecisionId : String) : GateDecision :=
  decisionRow actor request (judge row.manifest request object.createdBy now items) version
    (items.map fun item => item.evidence.artifactId) (state.evaluation.prior request.strategyVersionId).2
    gateDecisionId

def judgedTransition (actor : Identity) (request : GateInput) (now : Time) (row : SnapshotRow) (object : ObjectRow)
    (items : List EvidenceItem) (version : String) : EvaluationTransition :=
  gateRequest actor request (judge row.manifest request object.createdBy now items) object.campaignId version
    (items.map fun item => item.evidence.artifactId)

/-- What an answered call does, before its rows get their instants. -/
inductive Effect (deployment : Deployment) (state after : VerifierState) : TimedCall → Prop
  | idle {call : TimedCall} (idle : Idle state after) : Effect deployment state after call
  | executed {actor : Identity} {began now : Time} {runner : Runner} {request : ExecuteRequest}
      {ids : GeneratedIds} {making : Making} (makes : Makes deployment state actor runner request ids now making)
      (same : after = making.result deployment state actor runner request ids began) :
      Effect deployment state after ⟨actor, began, .execute runner request ids now⟩
  | decided {actor : Identity} {began now : Time} {request : GateInput} {gateDecisionId version : String}
      {row : SnapshotRow} {object : ObjectRow} {items : List EvidenceItem}
      (judges : Judges deployment state actor request now row object items)
      (same : after = state.recordDecision request (judgedTransition actor request now row object items version)
        (judged state actor request now row object items version gateDecisionId)) :
      Effect deployment state after ⟨actor, began, .gate request now gateDecisionId⟩

theorem idle_reenter {request : GateReentry} {report : CandidateReport} {evaluation : EvaluationState}
    (orderly : Orderly state.evaluation) (ok : reenter state.evaluation actor request = .ok (report, evaluation)) :
    Idle state { state with evaluation } := by
  -- a re-entry asks for no evidence
  have handled : Evaluation.handle (fun _ _ _ _ _ _ => .ok ()) state.evaluation (actor, .reenter request) =
      .ok (some report, evaluation) := by
    rw [Evaluation.handle, ok]
    rfl
  have effect := handle_effect orderly handled
  rcases reenter_ok ok with rfl | ⟨_, _, _, _, -, recorded, rfl⟩
  · exact .refl state
  · exact ⟨later_recorded recorded, effect.orderly, rfl, rfl⟩

variable {call : TimedCall}

theorem respond_effect {answer : VerifierAnswer} (orderly : Orderly state.evaluation)
    (ok : respond deployment state call.actor call.began call.call = .ok (answer, after)) :
    Effect deployment state after call := by
  obtain ⟨_, _, call⟩ := call
  cases call with
  | execute =>
    simp only [respond, bind_ok, pure_ok, Prod.mk.injEq, Prod.exists] at ok
    obtain ⟨_, _, ok, -, rfl⟩ := ok
    rcases execute_ok ok with ⟨rfl, -⟩ | ⟨_, makes, -, rfl⟩
    · exact .idle (.refl _)
    · exact .executed makes rfl
  | gate =>
    simp only [respond, bind_ok, pure_ok, Prod.mk.injEq, Prod.exists] at ok
    obtain ⟨report, evaluation, ok, -, rfl⟩ := ok
    rcases decideGate_ok ok with rfl | ⟨_, _, _, _, store, decides, gathers, recorded, rfl⟩
    · exact .idle (.refl _)
    · obtain ⟨rfl, current⟩ := orderly.appended recorded rfl decides.current
      exact .decided ⟨decides, current, gathers⟩ rfl
  | reenter =>
    simp only [respond, bind_ok, pure_ok, Prod.mk.injEq, Prod.exists] at ok
    obtain ⟨_, evaluation, ok, -, rfl⟩ := ok
    exact .idle (idle_reenter orderly ok)
  | «snapshot» pinned =>
    simp only [respond, bind_ok, pure_ok, Prod.mk.injEq, Prod.exists] at ok
    obtain ⟨_, evaluation, ok, -, rfl⟩ := ok
    obtain ⟨store, recorded, rfl⟩ := pinSnapshot_ok ok
    have logged : Idle state { state with evaluation := { state.evaluation with store } } :=
      idle_recorded recorded (by simp [snapshotRequest])
    exact .idle (logged.trans (idle_insertSnapshot _))
  | register =>
    simp only [respond, bind_ok, pure_ok, Prod.mk.injEq, Prod.exists] at ok
    obtain ⟨_, _, ok, -, rfl⟩ := ok
    exact .idle (idle_register ok)
  | trial =>
    simp only [respond, bind_ok, pure_ok, Prod.mk.injEq, Prod.exists] at ok
    obtain ⟨_, _, ok, -, rfl⟩ := ok
    exact .idle (idle_recordTrial ok)
  | provision =>
    simp only [respond, provisionVerifier, bind_ok, guard_ok, pure_ok, Prod.mk.injEq] at ok
    obtain ⟨_, ⟨-, -, rfl⟩, -, rfl⟩ := ok
    exact .idle (idle_of_evaluation rfl rfl rfl)
  | enable =>
    cases ok
    exact .idle (idle_of_evaluation rfl rfl rfl)
  | putArtifact =>
    simp only [respond, bind_ok, pure_ok, Prod.mk.injEq, Prod.exists] at ok
    obtain ⟨_, _, ok, -, rfl⟩ := ok
    exact .idle (idle_putArtifact ok)
  | recordEvidence =>
    simp only [respond, bind_ok, pure_ok, Prod.mk.injEq] at ok
    obtain ⟨_, ok, -, rfl⟩ := ok
    exact .idle (idle_insertEvidence ok)
  | invalidate =>
    cases ok
    exact .idle (idle_of_tables rfl rfl rfl rfl rfl rfl rfl)
  | principal =>
    simp only [respond, bind_ok, guard_ok, pure_ok, Prod.mk.injEq] at ok
    obtain ⟨-, -, rfl⟩ := ok
    exact .idle (idle_of_tables rfl rfl rfl rfl rfl rfl rfl)
  | freeze =>
    cases ok
    exact .idle (idle_of_tables rfl rfl rfl rfl rfl rfl rfl)
  | campaign =>
    cases ok
    exact .idle (idle_of_evaluation rfl rfl rfl)
  | dataset =>
    cases ok
    exact .idle (idle_of_evaluation rfl rfl rfl)
  | contaminate =>
    cases ok
    exact .idle (idle_of_evaluation rfl rfl rfl)

theorem Making.apart (making : Making) (strategyVersionId : String) :
    ¬((making.transition state actor runner request ids).kind = "candidate" ∧
      (making.transition state actor runner request ids).aggregateId = strategyVersionId) :=
  fun same => absurd same.1 (by simp [Making.transition, executionRequest])

theorem Making.state_candidate (making : Making) (strategyVersionId : String) :
    (making.result deployment state actor runner request ids began).evaluation.store.state "candidate"
        strategyVersionId = state.evaluation.store.state "candidate" strategyVersionId := by
  change (append _ request.operationKey (making.transition state actor runner request ids) none).state
    "candidate" strategyVersionId = _
  rw [state_append, if_neg (making.apart strategyVersionId)]
  rfl

theorem Making.later (making : Making) :
    Later state (making.result deployment state actor runner request ids began) where
  artifacts := prefix_append _ _
  events _ _ found := findEvent_append found
  versions strategyVersionId := by
    rw [Store.version, Store.version, making.state_candidate]
  snapshots _ _ := id
  objects _ _ := id
  evidence := ⟨[_], rfl, by simp [Making.result, Making.evaluation, Store.append]⟩
  trials := prefix_rfl
  executions := ⟨[_], rfl, by simp [Making.execution, executionRow, makeManifest]⟩
  decisions := .refl _ _
  registered := .refl _ _

theorem Makes.orderly (makes : Makes deployment state actor runner request ids now making)
    (orderly : Orderly state.evaluation) :
    Orderly (making.result deployment state actor runner request ids began).evaluation := by
  refine orderly.quiet ⟨fun versioned => ?_, fun strategyVersionId => ?_, fun strategyVersionId => ?_, rfl,
    fun _ _ => id, fun _ _ => id⟩
  · exact Store.Versioned.append versioned request.operationKey none makes.current
  · exact making.state_candidate strategyVersionId
  · exact lastReentry_append_other (making.apart strategyVersionId)

variable {gate : GateInput} {items : List EvidenceItem} {version gateDecisionId : String}

theorem Judges.later (judges : Judges deployment state actor gate now row object items) :
    Later state (state.recordDecision gate (judgedTransition actor gate now row object items version)
      (judged state actor gate now row object items version gateDecisionId)) where
  artifacts := prefix_rfl
  events _ _ found := findEvent_append found
  versions _ := version_le_append _ _ judges.current
  snapshots _ _ := id
  objects _ _ := id
  evidence := .refl _ _
  trials := prefix_rfl
  executions := .refl _ _
  decisions := by
    refine ⟨[_], rfl, fun decided member => ?_⟩
    rw [mem_singleton.mp member]
    exact judges.current.ge
  registered := .refl _ _

theorem Judges.orderly (judges : Judges deployment state actor gate now row object items)
    (orderly : Orderly state.evaluation) :
    Orderly (state.recordDecision gate (judgedTransition actor gate now row object items version)
      (judged state actor gate now row object items version gateDecisionId)).evaluation := by
  have effect : Evaluation.Effect state.evaluation (state.recordDecision gate
      (judgedTransition actor gate now row object items version)
      (judged state actor gate now row object items version gateDecisionId)).evaluation
        (actor, .gate gate now gateDecisionId) := .decided judges.decides judges.current rfl
  exact effect.orderly orderly

theorem Effect.later (effect : Effect deployment state after call) : Later state after := by
  cases effect with
  | idle idle => exact idle.later
  | executed _ same => exact same ▸ Making.later _
  | decided judges same => exact same ▸ judges.later

end Liki.Verifier
