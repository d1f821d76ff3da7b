import Liki.Verifier.Tables

/-! The check of the first gate. Its plan and its policy are among the artifacts that the snapshot
pins; with them it looks for duplicates of the candidate, for the trial that was declared, for
equivalent trials, and for what has failed in the family. -/
namespace Liki.Verifier
open Checks Evaluation AppendOnly Reachability

abbrev BoundArtifacts := List (ℕ × Artifact EvaluationContent)

/-- The items of a `dict` from ids to hashes, sorted. -/
def sortedItems (items : List (ℕ × String)) : List (ℕ × String) :=
  items.dedup.insertionSort fun first second => first.1 ≤ second.1

def hashes (artifacts : BoundArtifacts) : List (ℕ × String) :=
  artifacts.map fun item => (item.1, item.2.content.contentHash)

/-- `_bound_artifacts`. -/
def boundArtifacts (state : VerifierState) (actor : Identity) (inputs : List ℕ) :
    Except ServiceError BoundArtifacts :=
  inputs.foldlM (fun rows artifactId => do
    refuseIf (artifactId ∈ rows.map Prod.fst) (.domain "INVALID_EARLY_GATE_INPUT_ARTIFACTS")
    let row ← state.evaluation.readArtifact actor artifactId
    return rows ++ [(artifactId, row)]) []

/-- `_report`. -/
def earlyReport (checks : List (String × Bool)) (hardInvalidity : Bool) (unknowns : List String)
    (metrics : DerivedMetrics) (artifacts : BoundArtifacts) : DerivedReport where
  checks := checks
  hardInvalidity := hardInvalidity
  unknowns := unknowns.dedup.insertionSort (· ≤ ·)
  metrics := []
  derivedMetrics := metrics
  inputArtifacts := sortedItems (hashes artifacts)
  referencedInputArtifacts := sortedItems (hashes artifacts)

def planSchema : String := "research/early-gate-plan-v1"

def policySchema : String := "governance/early-gate-policy-v1"

/-- What an early gate is about. -/
structure GateSubject where
  gateId : GateId
  candidateId : ℕ
  candidateHash : String
  snapshotId : String

def EarlyGatePlan.PinnedTo (plan : EarlyGatePlan) (subject : GateSubject) : Prop :=
  plan.plan.gateId = subject.gateId ∧ plan.candidateArtifactId = artifactText subject.candidateId ∧
    plan.candidateHash = subject.candidateHash ∧ plan.snapshotId = subject.snapshotId

instance (plan : EarlyGatePlan) (subject : GateSubject) : Decidable (plan.PinnedTo subject) :=
  inferInstanceAs (Decidable (_ ∧ _))

/-- `_plan`: the plan, or what is unknown without it. -/
def findPlan (deployment : Deployment) (state : VerifierState) (artifacts : BoundArtifacts)
    (subject : GateSubject) : Except String GatePlan :=
  match artifacts.filter fun item => item.2.schemaName = planSchema with
  | [(artifactId, row)] => do
    let plan ← expect (deployment.readPlan row.content) "EARLY_GATE_PLAN_INVALID"
    refuseIf (¬plan.PinnedTo subject) "EARLY_GATE_PLAN_NOT_CANDIDATE_SNAPSHOT_PINNED"
    refuseIf (¬state.Predates artifactId subject.snapshotId) "EARLY_GATE_PLAN_DOES_NOT_PREDATE_EVALUATION"
    return plan.plan
  | _ => .error "EARLY_GATE_PLAN_MISSING_OR_AMBIGUOUS"

/-- `_policy`. -/
def findPolicy (deployment : Deployment) (state : VerifierState) (artifacts : BoundArtifacts)
    (snapshotId expectedVersion : String) : Except String GatePolicy :=
  match artifacts.filter fun item => item.2.schemaName = policySchema with
  | [(artifactId, row)] => do
    let policy ← expect (deployment.readPolicy row.content) "EARLY_GATE_POLICY_INVALID"
    refuseIf (state.evaluation.roleOf row.producerId ≠ some .governance)
      "EARLY_GATE_POLICY_NOT_GOVERNANCE_AUTHORED"
    refuseIf (¬state.Predates artifactId snapshotId) "EARLY_GATE_POLICY_DOES_NOT_PREDATE_EVALUATION"
    refuseIf (row.policyVersion ≠ expectedVersion ∨ policy.policyVersion ≠ expectedVersion)
      "EARLY_GATE_POLICY_VERSION_MISMATCH"
    return policy
  | _ => .error "EARLY_GATE_POLICY_MISSING_OR_AMBIGUOUS"

variable (state : VerifierState) (actor : Identity) (plan : G1Plan) (policy : GatePolicy)
  (strategyVersionId candidateHash : String) (now : Time)

def duplicates : List ObjectRow :=
  state.evaluation.objects.filter fun object => object.objectId ≠ strategyVersionId ∧
    ∃ artifact ∈ state.visible actor object.artifactId, artifact.content.contentHash = candidateHash

def Declared : Prop :=
  ∃ trial ∈ state.trials, trial.strategyVersionId = strategyVersionId ∧ trial.trialFamilyId = plan.familyId ∧
    semanticHash trial = plan.semanticHash ∧ trial.infrastructureRetry = false

instance : Decidable (Declared state plan strategyVersionId) := inferInstanceAs (Decidable (∃ _ ∈ _, _))

def equivalents : List Research.TrialRow :=
  state.trials.filter fun trial => semanticHash trial = plan.semanticHash ∧
    trial.strategyVersionId ≠ strategyVersionId ∧ trial.infrastructureRetry = false

def ancestry : List String := closure state.parentage [strategyVersionId]

def familyTrials : List Research.TrialRow :=
  state.trials.filter fun trial => trial.strategyVersionId ∈ ancestry state strategyVersionId ∨
    (trial.trialFamilyId = plan.familyId ∧ trial.strategyVersionId ≠ strategyVersionId)

def related : List String :=
  (familyTrials state plan strategyVersionId ++ equivalents state plan strategyVersionId).map
      Research.TrialRow.strategyVersionId ++
    (duplicates state actor strategyVersionId candidateHash).map ObjectRow.objectId

def failures : List GateDecision :=
  state.evaluation.decisions.filter fun decided => decided.decision = .fail ∧
    decided.strategyVersionId ∈ related state actor plan strategyVersionId candidateHash

def hour : Duration := 3600000000

def severity (failure : GateDecision) : FailureSeverity :=
  if failure.reasonCode = "HARD_INVALIDITY" then .hard else policy.defaultFailureSeverity

def Cooling (failure : GateDecision) : Prop :=
  ∃ created ∈ state.decisionTime failure.gateDecisionId,
    now < created + hour * policy.cooldownHours (severity policy failure)

instance (failure : GateDecision) : Decidable (Cooling state policy now failure) :=
  inferInstanceAs (Decidable (∃ _ ∈ _, _))

def Invalid (failure : GateDecision) : Prop :=
  ∃ artifactId ∈ failure.artifactIds, ∃ artifact ∈ state.visible actor artifactId,
    artifact.content.report.hardInvalidity = true

instance (failure : GateDecision) : Decidable (Invalid state actor failure) :=
  inferInstanceAs (Decidable (∃ _ ∈ _, _))

/-- What the first gate finds. -/
structure Screen where
  notDuplicate : Bool
  familyHistoryChecked : Bool
  cooldownClear : Bool
  noKnownInvalidity : Bool
  metrics : ScreenMetrics

/-- `_gate_one`. -/
def gateOne : Screen :=
  let copies := duplicates state actor strategyVersionId candidateHash
  let same := equivalents state plan strategyVersionId
  let failed := failures state actor plan strategyVersionId candidateHash
  { notDuplicate := decide (copies = [] ∧ same = [])
    familyHistoryChecked := decide (Declared state plan strategyVersionId)
    cooldownClear := decide (¬∃ failure ∈ failed, Cooling state policy now failure)
    noKnownInvalidity := decide (¬∃ failure ∈ failed, Invalid state actor failure)
    metrics :=
      { familyKey := plan.familyKey
        familyTrialCount := (familyTrials state plan strategyVersionId).length
        equivalentExperimentCount := same.length
        priorFailureCount := failed.length
        candidateExactDuplicate := decide (copies ≠ [])
        semanticHash := plan.semanticHash } }

/-- `dict.fromkeys(required[gate_id], False)`. -/
def noChecks (gateId : GateId) : List (String × Bool) := (requiredChecks gateId).map fun check => (check, false)

def Pins (plan : G1Plan) (row : SnapshotRow) : Prop :=
  plan.datasetSnapshotIds = row.manifest.datasetSnapshotIds.map artifactText

instance (row : SnapshotRow) : Decidable (Pins plan row) := inferInstanceAs (Decidable (_ = _))

def Screen.unknowns (screen : Screen) (plan : G1Plan) (row : SnapshotRow) : List String :=
  (if screen.notDuplicate = false ∧ screen.noKnownInvalidity = true then
    ["EQUIVALENT_RESEARCH_NOT_CONCLUSIVELY_REJECTED"] else []) ++
  (if screen.familyHistoryChecked = false then ["G1_DECLARED_TRIAL_NOT_BOUND"] else []) ++
  (if ¬Pins plan row then ["G1_DATASET_SET_NOT_SNAPSHOT_PINNED"] else [])

def Screen.checks (screen : Screen) (plan : G1Plan) (row : SnapshotRow) : List (String × Bool) :=
  [("not_duplicate", screen.notDuplicate),
    ("family_history_checked", screen.familyHistoryChecked && decide (Pins plan row)),
    ("cooldown_clear", screen.cooldownClear),
    ("no_known_invalidity", screen.noKnownInvalidity)]

def policyVersion (row : SnapshotRow) (gateId : GateId) : Option String :=
  (row.manifest.gatePolicyVersions.find? fun entry => entry.1 = gateKey gateId).map Prod.snd

def screenTerms (deployment : Deployment) (state : VerifierState) (row : SnapshotRow) (candidateId : ℕ)
    (candidateHash : String) (artifacts : BoundArtifacts) : Except String (G1Plan × GatePolicy) := do
  let snapshotId := row.snapshotId
  match ← findPlan deployment state artifacts ⟨1, candidateId, candidateHash, snapshotId⟩ with
  | .g1 plan =>
    let policy ← findPolicy deployment state artifacts snapshotId ((policyVersion row 1).getD "")
    return (plan, policy)
  -- a plan of this gate is a `G1Plan`
  | _ => .error "EARLY_GATE_PLAN_INVALID"

/-- `check_gate` at the first gate. -/
def checkFamily (deployment : Deployment) (state : VerifierState) (actor : Identity) (row : SnapshotRow)
    (object : ObjectRow) (inputs : List ℕ) (now : Time) : Except ServiceError DerivedReport := do
  actor.requires .read
  let candidate ← state.evaluation.readArtifact actor object.artifactId
  let others ← boundArtifacts state actor inputs
  let artifacts := (object.artifactId, candidate) ::
    others.filter fun item => item.1 ≠ object.artifactId
  match screenTerms deployment state row object.artifactId candidate.content.contentHash artifacts with
  | .error unknown => return earlyReport (noChecks 1) false [unknown] (.other "" none) artifacts
  | .ok (plan, policy) =>
    let screen := gateOne state actor plan policy object.objectId candidate.content.contentHash now
    return earlyReport (screen.checks plan row) (!screen.noKnownInvalidity) (screen.unknowns plan row)
      (.screen screen.metrics) artifacts

end Liki.Verifier
