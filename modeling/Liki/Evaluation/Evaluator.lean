import Liki.Evaluation.Gates
import Liki.Research.Service

/-! The evaluator. A snapshot pins what a candidate is evaluated against, a gate decision moves
the candidate to the next gate or stops it, and a blocked candidate enters again with another
snapshot. Every operation is one transaction behind the advisory lock; input hashes are
represented by the inputs. -/
namespace Liki.Evaluation
open Checks CallSystem AppendOnly KeyedRows Prod

structure CandidateState where
  strategyVersionId : String
  snapshotId : String
  gateId : ℤ
  status : CandidateStatus
  verdict : Option Verdict
  deriving DecidableEq

/-- What a verification is made of, which its `input_hash` is taken of. The hash of a snapshot is
represented by the snapshot. -/
structure Binding where
  strategyVersionId : String
  snapshotId : String
  snapshotHash : EvaluationSnapshot
  gateId : GateId
  candidateStateVersion : ℕ
  /-- A `dict` from artifacts to their hashes, by its sorted items. -/
  inputArtifacts : List (ℕ × String)
  deriving DecidableEq

structure ExecutionState where
  inputHash : Binding
  evidenceId : String
  verifierKeyId : String
  deriving DecidableEq

inductive EvaluationAggregate where
  | candidate (state : CandidateState)
  | «snapshot» (snapshot : EvaluationSnapshot)
  | execution (state : ExecutionState)
  | research (state : Research.ResearchAggregate)
  deriving DecidableEq

/-- What `input_hash` is taken of. -/
inductive EvaluationInput where
  | gate (request : GateInput)
  | reentry (request : GateReentry)
  deriving DecidableEq

structure EvaluationMetadata where
  input : EvaluationInput
  previousSnapshotId : Option String
  deriving DecidableEq

abbrev EvaluationStore := Store EvaluationAggregate EvaluationMetadata String EvaluationContent
abbrev EvaluationEvent := Event EvaluationAggregate EvaluationMetadata String
abbrev EvaluationTransition := TransitionRequest EvaluationAggregate EvaluationMetadata

/-- A row of `research_objects`. -/
structure ObjectRow where
  objectId : String
  campaignId : String
  artifactId : ℕ
  createdBy : String
  deriving DecidableEq

/-- A row of `evaluation_snapshots`. -/
structure SnapshotRow where
  manifest : EvaluationSnapshot
  producerId : String
  deriving DecidableEq

def SnapshotRow.snapshotId (row : SnapshotRow) : String := row.manifest.snapshotId

/-- A row of `gate_decisions`. Its event is named by the operation key. -/
structure GateDecision where
  gateDecisionId : String
  strategyVersionId : String
  gateId : GateId
  snapshotId : String
  gateVersion : String
  versionBefore : ℕ
  versionAfter : ℕ
  stateBefore : CandidateStatus
  stateAfter : CandidateStatus
  decision : Decision
  reasonCode : String
  actorId : String
  evidenceIds : List String
  artifactIds : List ℕ
  metrics : List MetricValue
  operationKey : String
  deriving DecidableEq

structure EvaluationState where
  store : EvaluationStore
  principals : List (String × Role)
  objects : List ObjectRow
  evidence : List EvidenceRow
  snapshots : List SnapshotRow
  invalidations : List String
  decisions : List GateDecision
  /-- A promotion freeze has not been lifted. -/
  frozen : Bool
  deriving DecidableEq

namespace EvaluationState

def empty : EvaluationState := ⟨.empty, [], [], [], [], [], [], false⟩

def roleOf (state : EvaluationState) (principalId : String) : Option Role :=
  (find fst principalId state.principals).map snd

def findObject (state : EvaluationState) (objectId : String) : Option ObjectRow :=
  find ObjectRow.objectId objectId state.objects

def findEvidence (state : EvaluationState) (evidenceId : String) : Option EvidenceRow :=
  find EvidenceRow.evidenceId evidenceId state.evidence

def findSnapshot (state : EvaluationState) (snapshotId : String) : Option SnapshotRow :=
  find SnapshotRow.snapshotId snapshotId state.snapshots

def findEvent (state : EvaluationState) (operationKey : String) : Option EvaluationEvent :=
  state.store.events.find? fun event => event.operationKey = operationKey

def findDecision (state : EvaluationState) (operationKey : String) : Option GateDecision :=
  find GateDecision.operationKey operationKey state.decisions

def validSnapshot (state : EvaluationState) (snapshotId : String) : Except ServiceError SnapshotRow := do
  let row ← expect (state.findSnapshot snapshotId) (.domain "STALE_EVALUATION_SNAPSHOT")
  refuseIf (snapshotId ∈ state.invalidations) (.domain "STALE_EVALUATION_SNAPSHOT")
  return row

def candidate (state : EvaluationState) (strategyVersionId : String) : Option (ℕ × CandidateState) :=
  match state.store.state "candidate" strategyVersionId with
  | some ⟨_, _, version, .candidate candidate⟩ => some (version, candidate)
  | _ => none

def readArtifact (state : EvaluationState) (actor : Identity) (artifactId : ℕ) :
    Except ServiceError (Artifact EvaluationContent) :=
  state.store.artifact EvaluationContent.intact actor artifactId

def transition (state : EvaluationState) (actor : Identity) (capability : Capability)
    (operationKey : String) (request : EvaluationTransition) : Except ServiceError EvaluationState := do
  actor.requires capability
  refuseIf (operationKey = "") (.domain "INVALID_TRANSITION")
  let store ← state.store.transition actor capability operationKey request none
  return { state with store }

end EvaluationState

/-- `set(map(str, range(14)))`. -/
def gateKeys : List String := (List.range 14).map toString

def checkCalibration (state : EvaluationState) (actor : Identity) (artifactId : ℕ) :
    Except ServiceError Unit := do
  let calibration ← state.readArtifact actor artifactId
  refuseIf (∀ role ∈ state.roleOf calibration.producerId, role ∉ [Role.governance, .evaluator])
    (.domain "UNTRUSTED_CALIBRATION")

def snapshotRequest (actor : Identity) (snapshot : EvaluationSnapshot) : EvaluationTransition where
  kind := "snapshot"
  aggregateId := snapshot.snapshotId
  expectedVersion := 0
  state := .snapshot snapshot
  eventType := "EVALUATION_PINNED"
  principalId := actor.principalId
  taskId := snapshot.snapshotId
  policyVersion := "evaluation-v1"
  evidenceIds := []
  artifactIds := snapshot.candidateArtifactId :: snapshot.calibrationArtifactIds
  metadata := none

/-- `INSERT INTO evaluation_snapshots ... ON CONFLICT DO NOTHING`. -/
def insertSnapshot (state : EvaluationState) (row : SnapshotRow) : EvaluationState :=
  if (state.findSnapshot row.snapshotId).isSome then state
  else { state with snapshots := state.snapshots ++ [row] }

/-- `snapshot`. -/
def pinSnapshot (state : EvaluationState) (actor : Identity) (snapshot : EvaluationSnapshot) :
    Except ServiceError (String × EvaluationState) := do
  refuseIf (snapshot.forwardEvaluationAt = none) (.domain "NAIVE_EVALUATION_TIME")
  refuseIf (¬((∀ entry ∈ snapshot.gatePolicyVersions, entry.1 ∈ gateKeys) ∧
    ∀ key ∈ gateKeys, key ∈ snapshot.gatePolicyVersions.map fst))
      (.domain "INCOMPLETE_GATE_POLICY_SET")
  refuseIf (∃ entry ∈ snapshot.gateInputArtifactIds, entry.1 ∉ gateKeys)
    (.domain "INVALID_GATE_INPUT_BINDING")
  actor.requires .snapshot
  let candidate ← state.readArtifact actor snapshot.candidateArtifactId
  refuseIf (candidate.content.contentHash ≠ snapshot.candidateHash) (.domain "CANDIDATE_HASH_MISMATCH")
  let _ ← snapshot.calibrationArtifactIds.mapM (checkCalibration state actor)
  refuseIf ((∃ entry ∈ snapshot.rulesByGate, entry.2 ≠ []) ∧ snapshot.calibrationArtifactIds = [])
    (.domain "UNCALIBRATED_NUMERIC_GATES")
  let _ ← snapshot.datasetSnapshotIds.mapM (state.readArtifact actor)
  let _ ← (snapshot.gateInputArtifactIds.flatMap snd).mapM (state.readArtifact actor)
  let state ← state.transition actor .snapshot ("snapshot:" ++ snapshot.snapshotId)
    (snapshotRequest actor snapshot)
  return (snapshot.snapshotId, insertSnapshot state ⟨snapshot, actor.principalId⟩)

def reentryState (request : GateReentry) : CandidateState where
  strategyVersionId := request.strategyVersionId
  snapshotId := request.snapshotId
  gateId := -1
  status := .idea
  verdict := none

def reentryRequest (actor : Identity) (request : GateReentry) (campaignId previousSnapshotId : String) :
    EvaluationTransition where
  kind := "candidate"
  aggregateId := request.strategyVersionId
  expectedVersion := request.expectedVersion
  state := .candidate (reentryState request)
  eventType := "EVALUATION_REENTERED"
  principalId := actor.principalId
  taskId := campaignId
  policyVersion := "evaluation-v1"
  evidenceIds := []
  artifactIds := []
  metadata := some ⟨.reentry request, some previousSnapshotId⟩

/-- What a caller is told about a candidate. -/
structure CandidateReport where
  gateDecisionId : Option String
  state : EvaluationAggregate
  version : ℕ
  deriving DecidableEq

/-- `reenter`. -/
def reenter (state : EvaluationState) (actor : Identity) (request : GateReentry) :
    Except ServiceError (CandidateReport × EvaluationState) := do
  actor.requires .gate
  match state.findEvent request.operationKey with
  | some prior =>
    refuseIf (prior.request.principalId ≠ actor.principalId ∨
      prior.request.eventType ≠ "EVALUATION_REENTERED" ∨
      prior.request.metadata.map EvaluationMetadata.input ≠ some (.reentry request))
      (.domain "IDEMPOTENCY_CONFLICT")
    return (⟨none, prior.request.state, prior.request.expectedVersion + 1⟩, state)
  | none =>
    let (version, current) ← expect (state.candidate request.strategyVersionId)
      (.domain "CONCURRENT_MODIFICATION")
    refuseIf (version ≠ request.expectedVersion) (.domain "CONCURRENT_MODIFICATION")
    refuseIf (current.status ≠ .blocked) (.domain "REENTRY_REQUIRES_BLOCKED_DEPENDENCY")
    let row ← state.validSnapshot request.snapshotId
    refuseIf (current.snapshotId = request.snapshotId) (.domain "REENTRY_REQUIRES_NEW_SNAPSHOT")
    let object ← expect (state.findObject request.strategyVersionId) (.domain "CANDIDATE_SNAPSHOT_MISMATCH")
    refuseIf (object.artifactId ≠ row.manifest.candidateArtifactId) (.domain "CANDIDATE_SNAPSHOT_MISMATCH")
    refuseIf (object.createdBy = actor.principalId) (.domain "SELF_CERTIFICATION")
    let after ← state.transition actor .gate request.operationKey
      (reentryRequest actor request object.campaignId current.snapshotId)
    return (⟨none, .candidate (reentryState request), request.expectedVersion + 1⟩, after)

/-- `verify_execution`: whether a report may be used as evidence under a request. -/
abbrev Verification :=
    EvaluationState → Identity → ℕ → Artifact EvaluationContent → GateInput → SnapshotRow →
  Except ServiceError Unit

def reporters : List Role := [.evaluator, .sealedEvaluator, .data, .paper]

/-- One round of the loop over the evidence. -/
def gatherEvidence (verify : Verification) (state : EvaluationState) (actor : Identity)
    (request : GateInput)
    (row : SnapshotRow) (now : Time) (evidenceId : String) : Except ServiceError EvidenceItem := do
  let evidence ← expect (state.findEvidence evidenceId) (.domain "UNKNOWN_EVIDENCE")
  let artifact ← state.readArtifact actor evidence.artifactId
  refuseIf (∀ role ∈ state.roleOf artifact.producerId, role ∉ reporters) (.domain "UNTRUSTED_GATE_EVIDENCE")
  refuseIf (now < evidence.availableAt ∨ artifact.content.report.snapshotId ≠ some request.snapshotId)
    (.domain "EVIDENCE_SNAPSHOT_MISMATCH")
  verify state actor evidence.artifactId artifact request row
  return ⟨evidence, artifact⟩

def decidedState (request : GateInput) (verdict : Verdict) : CandidateState where
  strategyVersionId := request.strategyVersionId
  snapshotId := request.snapshotId
  gateId := request.gateId.val
  status := verdict.1.status request.gateId
  verdict := some verdict

def gateRequest (actor : Identity) (request : GateInput) (verdict : Verdict) (campaignId version : String)
    (artifactIds : List ℕ) : EvaluationTransition where
  kind := "candidate"
  aggregateId := request.strategyVersionId
  expectedVersion := request.expectedVersion
  state := .candidate (decidedState request verdict)
  eventType := "GATE_DECISION"
  principalId := actor.principalId
  taskId := campaignId
  policyVersion := version
  evidenceIds := request.evidenceIds
  artifactIds := artifactIds
  metadata := some ⟨.gate request, none⟩

def decisionRow (actor : Identity) (request : GateInput) (verdict : Verdict) (version : String)
    (artifactIds : List ℕ) (before : CandidateStatus) (gateDecisionId : String) : GateDecision where
  gateDecisionId := gateDecisionId
  strategyVersionId := request.strategyVersionId
  gateId := request.gateId
  snapshotId := request.snapshotId
  gateVersion := version
  versionBefore := request.expectedVersion
  versionAfter := request.expectedVersion + 1
  stateBefore := before
  stateAfter := verdict.1.status request.gateId
  decision := verdict.1
  reasonCode := verdict.2
  actorId := actor.principalId
  evidenceIds := request.evidenceIds
  artifactIds := artifactIds
  metrics := request.metrics
  operationKey := request.operationKey

/-- `INSERT INTO gate_decisions`, behind its trigger. -/
def insertDecision (state : EvaluationState) (row : GateDecision) :
    Except ServiceError EvaluationState := do
  refuseIf (row.decision = .pass ∧ state.frozen = true) (.constraint "PROMOTION_FROZEN")
  refuseIf (∃ other ∈ state.decisions, other.gateDecisionId = row.gateDecisionId)
    (.constraint "gate_decision_id")
  refuseIf (∃ other ∈ state.decisions, other.strategyVersionId = row.strategyVersionId ∧
    other.versionBefore = row.versionBefore) (.constraint "gate_state_version_before")
  return { state with decisions := state.decisions ++ [row] }

/-- The state before the first decision, which has no snapshot. -/
def EvaluationState.prior (state : EvaluationState) (strategyVersionId : String) : ℤ × CandidateStatus :=
  match state.candidate strategyVersionId with
  | some (_, current) => (current.gateId, current.status)
  | none => (-1, .idea)

def stopped : List CandidateStatus := [.failed, .blocked, .borderlineFrontier, .suspended]

/-- `gate`, at an instant and with the id that a decision is given. -/
def decideGate (verify : Verification) (state : EvaluationState) (actor : Identity) (request : GateInput)
    (now : Time) (gateDecisionId : String) : Except ServiceError (CandidateReport × EvaluationState) := do
  actor.requires .gate
  match state.findDecision request.operationKey, state.findEvent request.operationKey with
  | some decided, some event =>
    refuseIf (decided.actorId ≠ actor.principalId ∨
      event.request.metadata.map EvaluationMetadata.input ≠ some (.gate request))
        (.domain "IDEMPOTENCY_CONFLICT")
    return (⟨some decided.gateDecisionId, event.request.state, decided.versionAfter⟩, state)
  | _, _ =>
    let row ← state.validSnapshot request.snapshotId
    refuseIf (state.frozen = true) (.domain "PROMOTION_FROZEN")
    let object ← expect (state.findObject request.strategyVersionId) (.domain "CANDIDATE_SNAPSHOT_MISMATCH")
    refuseIf (object.artifactId ≠ row.manifest.candidateArtifactId) (.domain "CANDIDATE_SNAPSHOT_MISMATCH")
    refuseIf (actor.principalId = object.createdBy) (.domain "SELF_CERTIFICATION")
    let previous := state.candidate request.strategyVersionId
    let (gateId, status) := state.prior request.strategyVersionId
    refuseIf (∃ current ∈ previous, current.1 ≠ request.expectedVersion) (.domain "CONCURRENT_MODIFICATION")
    refuseIf (status ∈ stopped ∨
      (request.gateId.val : ℤ) ≠ gateId + 1) (.domain "GATE_DEPENDENCY_UNSATISFIED")
    refuseIf (∃ current ∈ previous, current.2.snapshotId ≠ request.snapshotId)
      (.domain "EVALUATION_REENTRY_REQUIRED")
    let items ← request.evidenceIds.mapM (gatherEvidence verify state actor request row now)
    refuseIf (ofClass request.gateId items = []) (.domain "REQUIRED_EVIDENCE_CLASS_MISSING")
    let verdict := judge row.manifest request object.createdBy now items
    let version ← expect
      ((row.manifest.gatePolicyVersions.find? fun entry => entry.1 = gateKey request.gateId).map
      snd) .typeError
    let artifactIds := items.map fun item => item.evidence.artifactId
    let after ← state.transition actor .gate request.operationKey
      (gateRequest actor request verdict object.campaignId version artifactIds)
    let after ← insertDecision after
      (decisionRow actor request verdict version artifactIds status gateDecisionId)
    return (⟨some gateDecisionId, .candidate (decidedState request verdict),
      request.expectedVersion + 1⟩, after)

inductive EvaluationCall where
  | gate (request : GateInput) (now : Time) (gateDecisionId : String)
  | reenter (request : GateReentry)
  | «snapshot» (snapshot : EvaluationSnapshot)
  | putArtifact (content : EvaluationContent) (schemaName : String) (classification : StoreClassification)
      (policyVersion : String)
  | recordEvidence (evidence : EvidenceRow)
  | object (row : ObjectRow)
  | invalidate (snapshotId : String)
  | principal (principalId : String) (role : Role)
  | freeze (frozen : Bool)

/-- One call of an actor. What others write is only ever added, but for freezes. -/
def handle (verify : Verification) :
    Handler EvaluationState (Identity × EvaluationCall) ServiceError (Option CandidateReport)
  | state, (actor, .gate request now gateDecisionId) => do
    let (report, after) ← decideGate verify state actor request now gateDecisionId
    return (some report, after)
  | state, (actor, .reenter request) => do
    let (report, after) ← reenter state actor request
    return (some report, after)
  | state, (actor, .snapshot snapshot) => do
    let (_, after) ← pinSnapshot state actor snapshot
    return (none, after)
  | state, (actor, .putArtifact content schemaName classification policyVersion) => do
    let (_, store) ← state.store.putArtifact actor content schemaName classification policyVersion
    return (none, { state with store })
  | state, (_, .recordEvidence evidence) => do
    refuseIf ((state.findEvidence evidence.evidenceId).isSome) (.constraint "evidence_id")
    return (none, { state with
      store := { state.store with evidence := state.store.evidence ++ [evidence.evidenceId] }
      evidence := state.evidence ++ [evidence] })
  | state, (_, .object row) => do
    refuseIf ((state.findObject row.objectId).isSome) (.constraint "object_id")
    return (none, { state with objects := state.objects ++ [row] })
  | state, (_, .invalidate snapshotId) =>
    .ok (none, { state with invalidations := insertNew state.invalidations snapshotId })
  | state, (_, .principal principalId role) => do
    refuseIf ((state.roleOf principalId).isSome) (.constraint "principal_id")
    return (none, { state with principals := state.principals ++ [(principalId, role)] })
  | state, (_, .freeze frozen) => .ok (none, { state with frozen := frozen })

def history (verify : Verification) (calls : List (Identity × EvaluationCall)) : EvaluationState :=
  run (handle verify) .empty calls

end Liki.Evaluation
