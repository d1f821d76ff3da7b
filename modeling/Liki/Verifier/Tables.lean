import Liki.Evaluation.EarlyGatePlans
import Liki.Evaluation.Evaluator

/-! What the verifiers of gate evidence read and write: the plans and contracts that artifacts hold,
the reports that are derived, and the signed executions. Where the code takes a content hash of
something, the thing itself stands for it. -/
namespace Liki.Verifier
open Evaluation KeyedRows Prod

inductive ResearchMode where
  | research | shadow | paper
  deriving DecidableEq

/-- The fields of `ResearchContract` that a verifier compares. -/
structure ResearchContract where
  metricId : String
  metricVersion : String
  datasetSnapshotIds : List String
  evaluatorVersion : String
  mode : ResearchMode
  strategyVersionId : String
  campaignId : String

structure FamilyKey where
  assetClass : String
  market : String
  timeframe : String
  strategyFamily : String
  signalFamily : String
  holdingPeriodBucket : String
  deriving DecidableEq

structure G1Plan where
  familyId : String
  familyKey : FamilyKey
  trialType : String
  /-- A `dict`, by its canonical text. -/
  semanticConfiguration : String
  datasetSnapshotIds : List String
  metricIds : List String
  named : familyId ≠ "" ∧ trialType ≠ ""
  pinned : datasetSnapshotIds ≠ [] ∧ metricIds ≠ []

/-- The one plan that an `EarlyGatePlan` has; of the third gate's plan only the number is read. -/
inductive GatePlan where
  | g1 (plan : G1Plan)
  | g2
  | g3 (minimumObservations : ℕ)
  | g4 (plan : G4Plan)

def GatePlan.gateId : GatePlan → GateId
  | .g1 _ => 1
  | .g2 => 2
  | .g3 _ => 3
  | .g4 _ => 4

structure EarlyGatePlan where
  candidateArtifactId : String
  candidateHash : String
  snapshotId : String
  plan : GatePlan

def artifactText (artifactId : ℕ) : String := "ART-" ++ toString artifactId

/-- What `semantic_hash` is taken of. -/
structure SemanticHash where
  configuration : String
  datasets : List String
  metrics : List String
  type : String
  deriving DecidableEq

def trialTypeText : Research.TrialType → String
  | .hypothesis => "hypothesis"
  | .parameter => "parameter"
  | .mechanism => "mechanism"
  | .dataset => "dataset"
  | .seed => "seed"
  | .nuisance => "nuisance"
  | .metric => "metric"
  | .window => "window"
  | .universe => "universe"
  | .sizing => "sizing"
  | .portfolio => "portfolio"
  | .campaignExtension => "campaign_extension"
  | .allocation => "allocation"
  | .forwardFeedback => "forward_feedback"
  | .stopping => "stopping"
  | .systemChange => "system_change"

/-- The column `semantic_hash` of a trial. -/
def semanticHash (trial : Research.TrialRow) : SemanticHash :=
  ⟨trial.semantic.configuration, trial.semantic.datasets, trial.semantic.metrics,
    trialTypeText trial.semantic.trialType⟩

def G1Plan.semanticHash (plan : G1Plan) : SemanticHash :=
  ⟨plan.semanticConfiguration, plan.datasetSnapshotIds, plan.metricIds, plan.trialType⟩

/-- The `derived_metrics` of the first gate. -/
structure ScreenMetrics where
  familyKey : FamilyKey
  familyTrialCount : ℕ
  equivalentExperimentCount : ℕ
  priorFailureCount : ℕ
  candidateExactDuplicate : Bool
  semanticHash : SemanticHash
  deriving DecidableEq

/-- `derived_metrics`, where there are any. -/
inductive DerivedMetrics where
  | absent
  | screen (metrics : ScreenMetrics)
  | other (text : String) (minimumTestObservations : Option ℕ)
  deriving DecidableEq

/-- What the checks of a gate say, apart from who made them. -/
structure DerivedReport where
  checks : List (String × Bool)
  hardInvalidity : Bool
  unknowns : List String
  metrics : List ReportedMetric
  derivedMetrics : DerivedMetrics
  inputArtifacts : List (ℕ × String)
  referencedInputArtifacts : List (ℕ × String)
  deriving DecidableEq

/-- The checks that are `true`. -/
def DerivedReport.passed (report : DerivedReport) : List String :=
  (report.checks.filter snd).map fst

structure VerifierReport where
  verifierExecutionId : String
  snapshotId : String
  errors : List String
  derived : DerivedReport

def VerifierReport.read (report : VerifierReport) : Report where
  snapshotId := some report.snapshotId
  checks := report.derived.passed
  metrics := report.derived.metrics
  hardInvalidity := report.derived.hardInvalidity
  unknowns := decide (report.derived.unknowns ≠ [])
  independentOpportunities := 0

structure Manifest where
  binding : Binding
  inputHash : Binding
  reportArtifactId : ℕ
  reportHash : String
  verifierKeyId : String
  verifierExecutionId : String
  verifierVersion : String
  codeHash : String
  environmentFingerprint : String

/-- A row of `verifier_keys`. -/
structure VerifierKey where
  verifierKeyId : String
  principalId : String
  verifierVersion : String
  publicKey : String
  codeHash : String
  enabled : Bool

/-- A row of `verifier_executions`. Its event is named by the operation key. -/
structure ExecutionRow where
  verifierExecutionId : String
  verifierKeyId : String
  snapshotId : String
  strategyVersionId : String
  gateId : GateId
  inputHash : Binding
  reportArtifactId : ℕ
  reportHash : String
  manifest : Manifest
  signature : String
  operationKey : String

structure VerifierState where
  evaluation : EvaluationState
  keys : List VerifierKey
  executions : List ExecutionRow
  campaigns : List String
  trials : List Research.TrialRow
  edges : List Research.LineageEdge
  contamination : List Research.ContaminationEdge
  /-- The artifacts that `dataset_manifests` has. -/
  datasets : List ℕ
  /-- The column `created_at` of the artifacts, in their order. -/
  artifactTimes : List Time
  /-- The column `created_at` of the snapshots. -/
  snapshotTimes : List (String × Time)
  /-- The column `created_at` of the gate decisions. -/
  decisionTimes : List (String × Time)

namespace VerifierState

def empty : VerifierState := ⟨.empty, [], [], [], [], [], [], [], [], [], []⟩

def findKey (state : VerifierState) (verifierKeyId : String) : Option VerifierKey :=
  find VerifierKey.verifierKeyId verifierKeyId state.keys

/-- `WHERE report_artifact_id=%s`. -/
def findExecution (state : VerifierState) (reportArtifactId : ℕ) : Option ExecutionRow :=
  find ExecutionRow.reportArtifactId reportArtifactId state.executions

def snapshotTime (state : VerifierState) (snapshotId : String) : Option Time :=
  (find fst snapshotId state.snapshotTimes).map snd

def decisionTime (state : VerifierState) (gateDecisionId : String) : Option Time :=
  (find fst gateDecisionId state.decisionTimes).map snd

def Predates (state : VerifierState) (artifactId : ℕ) (snapshotId : String) : Prop :=
  ∃ created ∈ state.artifactTimes[artifactId]?, ∃ pinned ∈ state.snapshotTime snapshotId, created < pinned

instance (state : VerifierState) (artifactId : ℕ) (snapshotId : String) :
    Decidable (state.Predates artifactId snapshotId) := inferInstanceAs (Decidable (∃ _ ∈ _, _))

/-- The artifact, where row-level security shows it to the actor. -/
def visible (state : VerifierState) (actor : Identity) (artifactId : ℕ) : Option (Artifact EvaluationContent) :=
  state.evaluation.store.artifacts[artifactId]?.filter fun artifact =>
    artifact.classification ≠ .sealed ∨ actor.role = .sealedEvaluator

def parentage (state : VerifierState) : List (String × String) :=
  state.edges.map fun edge => (edge.childId, edge.parentId)

def tagsOf (state : VerifierState) (objectId : String) : List String :=
  (state.contamination.filter fun edge => edge.descendantId = objectId).map Research.ContaminationEdge.tag

end VerifierState

/-- What is outside the database: the release that runs, the signature scheme, how the contents of
artifacts are read, and the checks of the gates after the first, which read the database too. -/
structure Deployment where
  /-- `verifier_code_hash()`. -/
  codeHash : String
  /-- `store.fingerprint`. -/
  fingerprint : String
  /-- `content_hash` of a report. -/
  contentHash : VerifierReport → String
  publicKey : String → String
  sign : String → Manifest → String
  verifies : String → String → Manifest → Bool
  /-- `model_validate` of a `research_contract`, or its errors. -/
  readContract : EvaluationContent → Except (List String) ResearchContract
  readPlan : EvaluationContent → Option EarlyGatePlan
  readPolicy : EvaluationContent → Option GatePolicy
  readDerived : EvaluationContent → Option DerivedReport
  laterChecks : VerifierState → Identity → SnapshotRow → ObjectRow → GateId → List ℕ →
    Except ServiceError DerivedReport

def Deployment.content (deployment : Deployment) (report : VerifierReport) : EvaluationContent :=
  ⟨deployment.contentHash report, true, report.read⟩

/-- `VERIFIER_VERSION`. -/
def verifierVersion : String := "deterministic-gates-v3"

end Liki.Verifier
