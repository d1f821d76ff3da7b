import Mathlib.Tactic.MkIffOfInductiveProp
import Liki.Verifier.FamilyScreen

/-! The runner that verifies the evidence for a gate and signs what it has verified, and the check
that the evaluator makes of such an execution before it takes the report as evidence. -/
namespace Liki.Verifier
open Checks Evaluation AppendOnly Prod

structure Runner where
  keyId : String
  signingKey : String

/-- The arguments of `execute`. -/
structure ExecuteRequest where
  snapshotId : String
  strategyVersionId : String
  gateId : GateId
  operationKey : String

/-- The ids that `uid` makes for an execution. -/
structure GeneratedIds where
  executionId : String
  evidenceId : String

/-- The key belongs to the actor and to the release that runs. -/
def Runner.Authorized (runner : Runner) (deployment : Deployment) (actor : Identity) (key : VerifierKey) :
    Prop :=
  key.enabled = true ∧ key.principalId = actor.principalId ∧ key.codeHash = deployment.codeHash ∧
    key.codeHash = deployment.fingerprint ∧ key.verifierVersion = verifierVersion ∧
      key.publicKey = deployment.publicKey runner.signingKey

instance (runner : Runner) (deployment : Deployment) (actor : Identity) (key : VerifierKey) :
    Decidable (runner.Authorized deployment actor key) := inferInstanceAs (Decidable (_ ∧ _))

/-- `snapshot.gate_input_artifact_ids.get(str(gate_id), ())`. -/
def gateInputs (snapshot : EvaluationSnapshot) (gateId : GateId) : List ℕ :=
  ((snapshot.gateInputArtifactIds.find? fun entry => entry.1 = gateKey gateId).map snd).getD []

def pinnedInputs (snapshot : EvaluationSnapshot) (gateId : GateId) : List ℕ :=
  insertAll [] (snapshot.datasetSnapshotIds ++ gateInputs snapshot gateId)

def readBound (state : VerifierState) (actor : Identity) (artifactId : ℕ) :
    Except ServiceError (ℕ × Artifact EvaluationContent) := do
  let artifact ← state.evaluation.readArtifact actor artifactId
  return (artifactId, artifact)

def derive (deployment : Deployment) (state : VerifierState) (actor : Identity) (row : SnapshotRow)
    (object : ObjectRow) (gateId : GateId) (now : Time) : Except ServiceError (Option DerivedReport) :=
  if gateId = 0 then .ok none
  else if gateId = 1 then
    some <$> checkFamily deployment state actor row object (pinnedInputs row.manifest gateId) now
  else some <$> deployment.laterChecks state actor row object gateId (pinnedInputs row.manifest gateId)

def plans (artifacts : BoundArtifacts) : BoundArtifacts :=
  artifacts.filter fun item => item.2.schemaName = planSchema

/-- The minimum of the third gate's plan, and the samples that the fourth gate's plan asks for. -/
def declaredMinimum (deployment : Deployment) (upstream current : BoundArtifacts) : Option (ℕ × ℕ) :=
  match plans upstream, insertAll [] (plans current) with
  | [earlier], [later] => do
    let first ← deployment.readPlan earlier.2.content
    let second ← deployment.readPlan later.2.content
    match first.plan, second.plan with
    | .g3 minimumObservations, .g4 plan => some (minimumObservations, plan.minimumSamples)
    | _, _ => none
  | _, _ => none

def DerivedReport.dishonored (report : DerivedReport) : DerivedReport :=
  { report with
    checks := KeyedRows.upsert fst ("sample_available", false) report.checks
    unknowns := report.unknowns ++ ["G4_MINIMUM_TEST_NOT_HONORED"] }

def DerivedMetrics.withMinimum (minimum : ℕ) : DerivedMetrics → DerivedMetrics
  | .other text _ => .other text (some minimum)
  | metrics => metrics

/-- The report of the fourth gate, which may not ask for fewer samples than the third. -/
def honorMinimum (deployment : Deployment) (upstream current : BoundArtifacts) (report : DerivedReport) :
    DerivedReport :=
  let report :=
    match declaredMinimum deployment upstream current with
    | some (minimum, samples) =>
      let report := { report with derivedMetrics := report.derivedMetrics.withMinimum minimum }
      if samples < minimum then report.dishonored else report
    | none => report.dishonored
  { report with
    inputArtifacts := sortedItems (report.inputArtifacts ++ hashes (plans upstream))
    referencedInputArtifacts := sortedItems (report.referencedInputArtifacts ++ hashes (plans upstream)) }

def gatherInputs (deployment : Deployment) (state : VerifierState) (actor : Identity) (row : SnapshotRow)
    (object : ObjectRow) (gateId : GateId) (artifact : Artifact EvaluationContent) (now : Time) :
    Except ServiceError (BoundArtifacts × BoundArtifacts × Option DerivedReport) := do
  let datasets ← row.manifest.datasetSnapshotIds.mapM (readBound state actor)
  let bound ← (gateInputs row.manifest gateId).mapM (readBound state actor)
  let inputs := (object.artifactId, artifact) :: datasets ++ bound
  match ← derive deployment state actor row object gateId now with
  | none => return (inputs, datasets, none)
  | some report =>
    let derived ← (report.inputArtifacts.map fst).mapM (readBound state actor)
    let inputs := inputs ++ derived
    if gateId = 4 then
      let upstream ← (gateInputs row.manifest 3).mapM (readBound state actor)
      return (inputs ++ plans upstream, datasets, some (honorMinimum deployment upstream inputs report))
    else return (inputs, datasets, some report)

def contractChecks (deployment : Deployment) (state : VerifierState) (row : SnapshotRow)
    (object : ObjectRow) (artifact : Artifact EvaluationContent) (datasets : BoundArtifacts) :
    List (String × Bool) × List String :=
  match deployment.readContract artifact.content with
  | .error errors => (noChecks 0, errors)
  | .ok contract =>
    ([("measurable_objective", decide
        ((KeyedRows.find fst contract.metricId row.manifest.metricVersions).map snd =
          some contract.metricVersion)),
      ("data_evaluator_defined", decide
        (contract.evaluatorVersion = row.manifest.evaluatorVersion ∧
          contract.datasetSnapshotIds = row.manifest.datasetSnapshotIds.map artifactText ∧
          ∀ item ∈ datasets, item.2.schemaName = "data/dataset-manifest-v1" ∧ item.1 ∈ state.datasets)),
      ("permitted_conduct", decide (contract.mode ∈ [ResearchMode.research, .shadow, .paper])),
      ("lineage_present", decide
        (contract.strategyVersionId = object.objectId ∧ contract.campaignId = object.campaignId))], [])

def makeReport (ids : GeneratedIds) (row : SnapshotRow) (contract : List (String × Bool) × List String)
    (derived : Option DerivedReport) : VerifierReport where
  verifierExecutionId := ids.executionId
  snapshotId := row.snapshotId
  errors := contract.2
  derived := derived.getD
    ⟨contract.1, decide (∃ check ∈ contract.1, check.2 = false), [], [], .absent, [], []⟩

def makeBinding (request : ExecuteRequest) (row : SnapshotRow) (stateVersion : ℕ) (inputs : BoundArtifacts) :
    Binding where
  strategyVersionId := request.strategyVersionId
  snapshotId := request.snapshotId
  snapshotHash := row.manifest
  gateId := request.gateId
  candidateStateVersion := stateVersion
  inputArtifacts := sortedItems (hashes inputs)

def makeManifest (deployment : Deployment) (runner : Runner) (key : VerifierKey) (ids : GeneratedIds)
    (binding : Binding) (reportId : ℕ) (report : VerifierReport) : Manifest where
  binding := binding
  inputHash := binding
  reportArtifactId := reportId
  reportHash := deployment.contentHash report
  verifierKeyId := runner.keyId
  verifierExecutionId := ids.executionId
  verifierVersion := verifierVersion
  codeHash := key.codeHash
  environmentFingerprint := deployment.fingerprint

def executionRequest (actor : Identity) (runner : Runner) (ids : GeneratedIds) (binding : Binding)
    (campaignId version : String) (reportId : ℕ) : EvaluationTransition where
  kind := "verifier_execution"
  aggregateId := ids.executionId
  expectedVersion := 0
  state := .execution ⟨binding, ids.evidenceId, runner.keyId⟩
  eventType := "DETERMINISTIC_VERIFICATION_EXECUTED"
  principalId := actor.principalId
  taskId := campaignId
  policyVersion := version
  evidenceIds := []
  artifactIds := reportId :: binding.inputArtifacts.map fst
  metadata := none

def executionRow (deployment : Deployment) (runner : Runner) (request : ExecuteRequest) (manifest : Manifest) :
    ExecutionRow where
  verifierExecutionId := manifest.verifierExecutionId
  verifierKeyId := runner.keyId
  snapshotId := request.snapshotId
  strategyVersionId := request.strategyVersionId
  gateId := request.gateId
  inputHash := manifest.inputHash
  reportArtifactId := manifest.reportArtifactId
  reportHash := manifest.reportHash
  manifest := manifest
  signature := deployment.sign runner.signingKey manifest
  operationKey := request.operationKey

/-- `INSERT INTO verifier_executions`. -/
def insertExecution (state : VerifierState) (row : ExecutionRow) : Except ServiceError VerifierState := do
  refuseIf (∃ other ∈ state.executions, other.verifierExecutionId = row.verifierExecutionId)
    (.constraint "verifier_execution_id")
  refuseIf (∃ other ∈ state.executions, other.reportArtifactId = row.reportArtifactId)
    (.constraint "report_artifact_id")
  return { state with executions := state.executions ++ [row] }

/-- `INSERT INTO evidence`. -/
def insertEvidence (state : EvaluationState) (row : EvidenceRow) : Except ServiceError EvaluationState := do
  refuseIf ((state.findEvidence row.evidenceId).isSome) (.constraint "evidence_id")
  refuseIf (state.store.artifacts.length ≤ row.artifactId) (.constraint "artifact_id")
  return { state with
    store := { state.store with evidence := state.store.evidence ++ [row.evidenceId] }
    evidence := state.evidence ++ [row] }

def evidenceOf (event : EvaluationEvent) : Option String :=
  match event.request.state with
  | .execution execution => some execution.evidenceId
  | _ => none

def retryExecution (state : VerifierState) (runner : Runner) (request : ExecuteRequest) :
    Except ServiceError String := do
  let previous ← expect (state.evaluation.findEvent request.operationKey) (.domain "GATE_DEPENDENCY_UNSATISFIED")
  let evidenceId ← expect (evidenceOf previous) (.domain "IDEMPOTENCY_CONFLICT")
  let evidence ← expect (state.evaluation.findEvidence evidenceId) (.domain "IDEMPOTENCY_CONFLICT")
  let execution ← expect (state.findExecution evidence.artifactId) (.domain "IDEMPOTENCY_CONFLICT")
  refuseIf (¬(execution.snapshotId = request.snapshotId ∧
    execution.strategyVersionId = request.strategyVersionId ∧ execution.gateId = request.gateId ∧
      execution.verifierKeyId = runner.keyId)) (.domain "IDEMPOTENCY_CONFLICT")
  return evidenceId

def repeatExecution (previous : EvaluationEvent) (runner : Runner) (binding : Binding) :
    Except ServiceError String :=
  match previous.request.state with
  | .execution execution => do
    refuseIf (execution.inputHash ≠ binding ∨ execution.verifierKeyId ≠ runner.keyId)
      (.domain "IDEMPOTENCY_CONFLICT")
    return execution.evidenceId
  | _ => .error (.domain "IDEMPOTENCY_CONFLICT")

/-- What an execution is made from. -/
structure Prepared where
  key : VerifierKey
  row : SnapshotRow
  object : ObjectRow
  stateVersion : ℕ

/-- The first half of `execute`: who asks, and for what. -/
def prepare (deployment : Deployment) (state : VerifierState) (actor : Identity) (runner : Runner)
    (request : ExecuteRequest) : Except ServiceError Prepared := do
  refuseIf (5 < request.gateId.val) (.domain "VERIFIER_GATE_NOT_SUPPORTED")
  actor.requires .gate
  let key ← expect (state.findKey runner.keyId) (.domain "UNAUTHORIZED_VERIFIER")
  refuseIf (¬runner.Authorized deployment actor key) (.domain "UNAUTHORIZED_VERIFIER")
  let row ← state.evaluation.validSnapshot request.snapshotId
  let object ← expect (state.evaluation.findObject request.strategyVersionId)
    (.domain "CANDIDATE_SNAPSHOT_MISMATCH")
  refuseIf (object.artifactId ≠ row.manifest.candidateArtifactId) (.domain "CANDIDATE_SNAPSHOT_MISMATCH")
  refuseIf (object.createdBy = actor.principalId) (.domain "SELF_CERTIFICATION")
  let prior := state.evaluation.candidate request.strategyVersionId
  refuseIf (∃ current ∈ prior, current.2.snapshotId ≠ request.snapshotId) (.domain "EVALUATION_REENTRY_REQUIRED")
  return ⟨key, row, object, (prior.map fst).getD 0⟩

def recordExecution (deployment : Deployment) (state : VerifierState) (actor : Identity) (runner : Runner)
    (request : ExecuteRequest) (ids : GeneratedIds) (prepared : Prepared) (binding : Binding)
    (report : VerifierReport) (began : Time) : Except ServiceError VerifierState := do
  let version ← expect (policyVersion prepared.row request.gateId) .typeError
  let stored := state.evaluation.store.artifacts.length
  let (reportId, store) ← state.evaluation.store.putArtifact actor (deployment.content report)
    "verified-gate-report-v1" .internal version
  refuseIf (reportId ≠ stored) (.constraint "uid")
  let manifest := makeManifest deployment runner prepared.key ids binding reportId report
  let evaluation ← { state.evaluation with store }.transition actor .gate request.operationKey
    (executionRequest actor runner ids binding prepared.object.campaignId version reportId)
  let after ← insertExecution { state with evaluation } (executionRow deployment runner request manifest)
  let evaluation ← insertEvidence after.evaluation
    ⟨ids.evidenceId, reportId, evidenceClasses request.gateId, .development, began⟩
  return { after with evaluation }

/-- `execute`, with the ids that it generates; its transaction began at an instant. -/
def execute (deployment : Deployment) (state : VerifierState) (actor : Identity) (runner : Runner)
    (request : ExecuteRequest) (ids : GeneratedIds) (began now : Time) :
    Except ServiceError (String × VerifierState) := do
  let prepared ← prepare deployment state actor runner request
  let (gateId, status) := state.evaluation.prior request.strategyVersionId
  if (request.gateId.val : ℤ) ≠ gateId + 1 ∨ status ∈ stopped then
    let evidenceId ← retryExecution state runner request
    return (evidenceId, state)
  else
    let artifact ← state.evaluation.readArtifact actor prepared.object.artifactId
    refuseIf (artifact.content.contentHash ≠ prepared.row.manifest.candidateHash)
      (.domain "CANDIDATE_HASH_MISMATCH")
    let (inputs, datasets, derived) ← gatherInputs deployment state actor prepared.row prepared.object
      request.gateId artifact now
    let binding := makeBinding request prepared.row prepared.stateVersion inputs
    match state.evaluation.findEvent request.operationKey with
    | some previous =>
      let evidenceId ← repeatExecution previous runner binding
      return (evidenceId, state)
    | none =>
      let contract := contractChecks deployment state prepared.row prepared.object artifact datasets
      let after ← recordExecution deployment state actor runner request ids prepared binding
        (makeReport ids prepared.row contract derived) began
      return (ids.evidenceId, after)

/-- The manifest, the row and the key are about the report and the request. -/
@[mk_iff]
structure Binds (execution : ExecutionRow) (key : VerifierKey) (artifactId : ℕ)
    (artifact : Artifact EvaluationContent) (request : GateInput) (row : SnapshotRow) : Prop where
  snapshotId : execution.manifest.binding.snapshotId = request.snapshotId
  strategyVersionId : execution.manifest.binding.strategyVersionId = request.strategyVersionId
  gateId : execution.manifest.binding.gateId = request.gateId
  snapshotHash : execution.manifest.binding.snapshotHash = row.manifest
  reportArtifactId : execution.manifest.reportArtifactId = artifactId
  reportHash : execution.manifest.reportHash = artifact.content.contentHash
  verifierKeyId : execution.manifest.verifierKeyId = execution.verifierKeyId
  verifierExecutionId : execution.manifest.verifierExecutionId = execution.verifierExecutionId
  verifierVersion : execution.manifest.verifierVersion = key.verifierVersion
  codeHash : execution.manifest.codeHash = key.codeHash
  stateVersion : execution.manifest.binding.candidateStateVersion = request.expectedVersion
  producer : key.principalId = artifact.producerId
  columns : execution.snapshotId = request.snapshotId ∧
    execution.strategyVersionId = request.strategyVersionId ∧ execution.gateId = request.gateId ∧
      execution.reportHash = artifact.content.contentHash

instance (execution : ExecutionRow) (key : VerifierKey) (artifactId : ℕ)
    (artifact : Artifact EvaluationContent) (request : GateInput) (row : SnapshotRow) :
    Decidable (Binds execution key artifactId artifact request row) := decidable_of_iff _
  (binds_iff execution key artifactId artifact request row).symm

def SameReport (deployment : Deployment) (content : EvaluationContent) (report : DerivedReport) : Prop :=
  content.report.checks = report.passed ∧ content.report.hardInvalidity = report.hardInvalidity ∧
    content.report.unknowns = decide (report.unknowns ≠ []) ∧ content.report.metrics = report.metrics ∧
      deployment.readDerived content = some report

instance (deployment : Deployment) (content : EvaluationContent) (report : DerivedReport) :
    Decidable (SameReport deployment content report) := inferInstanceAs (Decidable (_ ∧ _))

def checkInput (state : VerifierState) (actor : Identity) (item : ℕ × String) : Except ServiceError Unit := do
  let artifact ← state.evaluation.readArtifact actor item.1
  refuseIf (artifact.content.contentHash ≠ item.2) (.domain "VERIFIER_INPUT_MISMATCH")

def bindsCandidate (binding : Binding) (row : SnapshotRow) : Bool :=
  (binding.inputArtifacts.find? fun item => item.1 = row.manifest.candidateArtifactId).map snd =
    some row.manifest.candidateHash

def refreshScreen (deployment : Deployment) (state : VerifierState) (actor : Identity)
    (artifact : Artifact EvaluationContent) (request : GateInput) (row : SnapshotRow)
    (inputs : List (ℕ × String)) (now : Time) : Except ServiceError Unit := do
  let object ← expect (state.evaluation.findObject request.strategyVersionId) .typeError
  let fresh ← checkFamily deployment state actor row object
    ((inputs.map fst).filter fun artifactId => artifactId ≠ row.manifest.candidateArtifactId) now
  refuseIf (¬SameReport deployment artifact.content fresh) (.domain "STALE_FAMILY_SCREEN")

/-- `verify_execution`. -/
def verifyExecution (deployment : Deployment) (state : VerifierState) (now : Time) : Verification :=
  fun _ actor artifactId artifact request row => do
    let execution ← expect (state.findExecution artifactId) (.domain "UNVERIFIED_GATE_EVIDENCE")
    let key ← expect (state.findKey execution.verifierKeyId) (.domain "UNVERIFIED_GATE_EVIDENCE")
    refuseIf (key.enabled = false) (.domain "UNVERIFIED_GATE_EVIDENCE")
    let manifest := execution.manifest
    refuseIf (¬Binds execution key artifactId artifact request row) (.domain "VERIFIER_BINDING_MISMATCH")
    refuseIf (deployment.verifies key.publicKey execution.signature manifest = false)
      (.domain "INVALID_VERIFIER_SIGNATURE")
    let inputs := manifest.binding.inputArtifacts
    refuseIf (inputs = []) (.domain "VERIFIER_INPUT_MISSING")
    refuseIf (manifest.binding ≠ manifest.inputHash ∨ execution.inputHash ≠ manifest.inputHash)
      (.domain "VERIFIER_INPUT_MISMATCH")
    let _ ← inputs.mapM (checkInput state actor)
    refuseIf (bindsCandidate manifest.binding row = false) (.domain "VERIFIER_CANDIDATE_NOT_BOUND")
    if request.gateId = 1 then refreshScreen deployment state actor artifact request row inputs now
    else return ()

end Liki.Verifier
