import Liki.Verifier.Runner

/-! The calls of researchers, verifiers and evaluators on one database. All of them write to one event
log, and each is one transaction behind the advisory lock. -/
namespace Liki.Verifier
open Checks Evaluation AppendOnly CallSystem

def shared (request : Research.ResearchTransition) : EvaluationTransition where
  kind := request.kind
  aggregateId := request.aggregateId
  expectedVersion := request.expectedVersion
  state := .research request.state
  eventType := request.eventType
  principalId := request.principalId
  taskId := request.taskId
  policyVersion := request.policyVersion
  evidenceIds := request.evidenceIds
  artifactIds := request.artifactIds
  metadata := none

/-- `INSERT INTO research_objects ... ON CONFLICT DO NOTHING`. -/
def insertObject (state : VerifierState) (row : ObjectRow) : Except ServiceError VerifierState :=
  if (state.evaluation.findObject row.objectId).isSome then .ok state
  else do
    refuseIf (row.campaignId ∉ state.campaigns) (.constraint "campaign_id")
    return { state with evaluation := { state.evaluation with objects := state.evaluation.objects ++ [row] } }

/-- `register`. -/
def register (state : VerifierState) (actor : Identity) (object : Research.ResearchObject) :
    Except ServiceError (String × VerifierState) := do
  actor.requires .research
  let _ ← state.evaluation.readArtifact actor object.artifactId
  refuseIf (∃ parent ∈ object.parents, ∀ row ∈ state.evaluation.findObject parent.1,
    row.campaignId ≠ object.campaignId) (.domain "UNKNOWN_LINEAGE_PARENT")
  let evaluation ← state.evaluation.transition actor .research object.operationKey (shared (object.request actor))
  let state ← insertObject { state with evaluation }
    ⟨object.objectId, object.campaignId, object.artifactId, actor.principalId⟩
  refuseIf (∃ edge ∈ object.edges, edge.edgeType ∉ Research.edgeTypes ∨ edge.parentId = edge.childId)
    (.constraint "lineage_edges")
  return (object.objectId, { state with
    edges := insertAll state.edges object.edges
    contamination := object.parents.foldl (fun contamination parent =>
      insertAll contamination (Research.inherited contamination parent.1 object.objectId)) state.contamination })

/-- `INSERT INTO trial_events ... ON CONFLICT(operation_key) DO NOTHING`. -/
def insertTrial (state : VerifierState) (trial : Research.Trial) (tags : List String) :
    Except ServiceError VerifierState :=
  if ∃ row ∈ state.trials, row.operationKey = trial.operationKey then .ok state
  else do
    refuseIf (∃ row ∈ state.trials, row.trialEventId = trial.trialEventId) (.constraint "trial_event_id")
    refuseIf (∃ named ∈ trial.parentTrialEventId, ∀ row ∈ state.trials, row.trialEventId ≠ named)
      (.constraint "parent_trial_event_id")
    refuseIf (∃ named ∈ trial.scientificRetryOf, ∀ row ∈ state.trials, row.trialEventId ≠ named)
      (.constraint "scientific_retry_of")
    return { state with trials := state.trials ++ [trial.row tags] }

/-- `trial`. -/
def recordTrial (state : VerifierState) (actor : Identity) (trial : Research.Trial) :
    Except ServiceError (String × VerifierState) := do
  actor.requires .research
  refuseIf (∀ row ∈ state.evaluation.findObject trial.strategyVersionId, row.campaignId ≠ trial.campaignId)
    (.domain "INVALID_TRIAL_LINEAGE")
  if trial.infrastructureRetry then
    refuseIf (¬∃ original ∈ state.trials, some original.trialEventId = trial.scientificRetryOf ∧
      trial.Repeats original) (.domain "SCIENTIFIC_CHANGE_IS_NOT_INFRASTRUCTURE_RETRY")
  else
    -- an empty id is no retry
    refuseIf (trial.scientificRetryOf.getD "" ≠ "") (.domain "RETRY_CLASSIFICATION_REQUIRED")
  let tags := Research.sortedTags (trial.contaminationTags ++ state.tagsOf trial.strategyVersionId)
  let evaluation ← state.evaluation.transition actor .research trial.operationKey
    (shared (trial.request actor tags))
  let state ← insertTrial { state with evaluation } trial tags
  return (trial.trialEventId, state)

/-- `provision_verifier`. -/
def provisionVerifier (deployment : Deployment) (state : VerifierState) (principalId keyId publicKey : String) :
    Except ServiceError VerifierState := do
  refuseIf (∀ role ∈ state.evaluation.roleOf principalId, role ∉ [Role.evaluator, .sealedEvaluator])
    (.domain "INVALID_VERIFIER_PRINCIPAL")
  refuseIf ((state.findKey keyId).isSome) (.constraint "verifier_key_id")
  return { state with
    keys := state.keys ++ [⟨keyId, principalId, verifierVersion, publicKey, deployment.codeHash, true⟩] }

inductive VerifierCall where
  | execute (runner : Runner) (request : ExecuteRequest) (ids : GeneratedIds) (now : Time)
  | gate (request : GateInput) (now : Time) (gateDecisionId : String)
  | reenter (request : GateReentry)
  | «snapshot» (snapshot : EvaluationSnapshot)
  | register (object : Research.ResearchObject)
  | trial (trial : Research.Trial)
  | provision (principalId keyId publicKey : String)
  /-- A key is enabled or disabled; nothing else of it changes. -/
  | enable (keyId : String) (enabled : Bool)
  | putArtifact (content : EvaluationContent) (schemaName : String) (classification : StoreClassification)
      (policyVersion : String)
  /-- Evidence that is not a verifier's. -/
  | recordEvidence (row : EvidenceRow)
  | invalidate (snapshotId : String)
  | principal (principalId : String) (role : Role)
  | freeze (frozen : Bool)
  | campaign (campaignId : String)
  | dataset (artifactId : ℕ)
  | contaminate (edge : Research.ContaminationEdge)

inductive VerifierAnswer where
  | evidence (evidenceId : String)
  | candidate (report : CandidateReport)
  | named (name : String)
  | done

structure TimedCall where
  actor : Identity
  began : Time
  call : VerifierCall

def respond (deployment : Deployment) (state : VerifierState) (actor : Identity) (began : Time) :
    VerifierCall → Except ServiceError (VerifierAnswer × VerifierState)
  | .execute runner request ids now => do
    let (evidenceId, after) ← execute deployment state actor runner request ids began now
    return (.evidence evidenceId, after)
  | .gate request now gateDecisionId => do
    let (report, evaluation) ← decideGate (verifyExecution deployment state now) state.evaluation actor
      request now gateDecisionId
    return (.candidate report, { state with evaluation })
  | .reenter request => do
    let (report, evaluation) ← reenter state.evaluation actor request
    return (.candidate report, { state with evaluation })
  | .snapshot snapshot => do
    let (name, evaluation) ← pinSnapshot state.evaluation actor snapshot
    return (.named name, { state with evaluation })
  | .register object => do
    let (name, after) ← register state actor object
    return (.named name, after)
  | .trial trial => do
    let (name, after) ← recordTrial state actor trial
    return (.named name, after)
  | .provision principalId keyId publicKey => do
    let after ← provisionVerifier deployment state principalId keyId publicKey
    return (.done, after)
  | .enable keyId enabled => .ok (.done, { state with
      keys := KeyedRows.update VerifierKey.verifierKeyId keyId (fun key => { key with enabled }) state.keys })
  | .putArtifact content schemaName classification policyVersion => do
    let (_, store) ← state.evaluation.store.putArtifact actor content schemaName classification policyVersion
    return (.done, { state with evaluation := { state.evaluation with store } })
  | .recordEvidence row => do
    let evaluation ← insertEvidence state.evaluation row
    return (.done, { state with evaluation })
  | .invalidate snapshotId => .ok (.done, { state with evaluation := { state.evaluation with
      invalidations := insertNew state.evaluation.invalidations snapshotId } })
  | .principal principalId role => do
    refuseIf ((state.evaluation.roleOf principalId).isSome) (.constraint "principal_id")
    return (.done, { state with evaluation := { state.evaluation with
      principals := state.evaluation.principals ++ [(principalId, role)] } })
  | .freeze frozen => .ok (.done, { state with evaluation := { state.evaluation with frozen } })
  | .campaign campaignId => .ok (.done, { state with campaigns := insertNew state.campaigns campaignId })
  | .dataset artifactId => .ok (.done, { state with datasets := insertNew state.datasets artifactId })
  | .contaminate edge => .ok (.done, { state with contamination := insertNew state.contamination edge })

/-- The columns `created_at` of the rows that a call has inserted. -/
def stamp (before : EvaluationState) (after : VerifierState) (began : Time) : VerifierState :=
  { after with
    artifactTimes := after.artifactTimes ++
      (after.evaluation.store.artifacts.drop before.store.artifacts.length).map fun _ => began
    snapshotTimes := after.snapshotTimes ++
      (after.evaluation.snapshots.drop before.snapshots.length).map fun row => (row.snapshotId, began)
    decisionTimes := after.decisionTimes ++
      (after.evaluation.decisions.drop before.decisions.length).map fun row => (row.gateDecisionId, began) }

def handle (deployment : Deployment) : Handler VerifierState TimedCall ServiceError VerifierAnswer :=
  fun state call => do
    let (answer, after) ← respond deployment state call.actor call.began call.call
    return (answer, stamp state.evaluation after call.began)

def history (deployment : Deployment) (calls : List TimedCall) : VerifierState :=
  run (handle deployment) .empty calls

end Liki.Verifier
