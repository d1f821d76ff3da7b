import Liki.Store
import Mathlib.Data.List.Sort
import Mathlib.Data.Prod.Lex
import Mathlib.Order.Lattice

/-! The immutable records of governance: proposals and what is gathered about them,
incidents, change sets and the policy that classifies. A digest of a record is
represented by the record it is taken of; the digest of an artifact's content is the
column that the artifact carries. Fields that no operation reads are left out. -/
namespace Liki.Governance

inductive ChangeClass where
  | green | amber | red
  deriving DecidableEq

/-- `_severity_rank` and the `_rank` of the policy. -/
def ChangeClass.rank : ChangeClass → ℕ
  | .green => 0
  | .amber => 1
  | .red => 2

inductive ProposalStatus where
  | proposed | classified | reviewing | replayed | tested | shadow | canary | ready | promoted
  | monitoring | rolledBack | vetoed | frozen | staleApproval | rejected
  deriving DecidableEq

def ProposalStatus.value : ProposalStatus → String
  | .proposed => "PROPOSED"
  | .classified => "CLASSIFIED"
  | .reviewing => "REVIEWING"
  | .replayed => "REPLAYED"
  | .tested => "TESTED"
  | .shadow => "SHADOW"
  | .canary => "CANARY"
  | .ready => "READY"
  | .promoted => "PROMOTED"
  | .monitoring => "MONITORING"
  | .rolledBack => "ROLLED_BACK"
  | .vetoed => "VETOED"
  | .frozen => "FROZEN"
  | .staleApproval => "STALE_APPROVAL"
  | .rejected => "REJECTED"

inductive ReviewVerdict where
  | support | concerns | reject
  deriving DecidableEq

inductive ObjectionDisposition where
  | opened | falsified | acceptedRisk | moreEvidence | blocked
  deriving DecidableEq

inductive CheckResult where
  | pass | fail
  deriving DecidableEq

def CheckResult.value : CheckResult → String
  | .pass => "PASS"
  | .fail => "FAIL"

structure ArtifactProvenance where
  artifactId : ℕ
  contentHash : String
  authenticatedPrincipal : String
  environmentFingerprint : String
  codeFingerprint : String
  classification : String
  deriving DecidableEq

structure AutomatedCheck where
  checkId : String
  checkKind : String
  result : CheckResult
  resultArtifact : ArtifactProvenance
  executedAt : Time
  deriving DecidableEq

structure EvidenceReference where
  role : String
  artifact : ArtifactProvenance
  deriving DecidableEq

structure SnapshotDependency where
  scope : String
  version : String
  contentHash : String
  deriving DecidableEq

/-- The body of a snapshot in canonical order, which is what its hash is taken of. -/
structure SnapshotHash where
  dependencies : List SnapshotDependency
  knownIncidentIds : List String
  evidenceHashes : List String
  deriving DecidableEq

structure ApprovalSnapshot where
  dependencies : List SnapshotDependency
  knownIncidentIds : List String
  evidenceHashes : List String
  deriving DecidableEq

/-- `(item["scope"], item["version"])`. -/
def SnapshotDependency.precedes (first second : SnapshotDependency) : Prop :=
  first.scope < second.scope ∨ first.scope = second.scope ∧ first.version ≤ second.version

instance : DecidableRel SnapshotDependency.precedes := fun _ _ =>
  inferInstanceAs (Decidable (_ ∨ _))

/-- `sorted` on strings. -/
def sortedNames (names : List String) : List String := names.insertionSort (· ≤ ·)

/-- `snapshot_hash`, which the snapshot's validator ties to its contents. -/
def ApprovalSnapshot.snapshotHash (snapshot : ApprovalSnapshot) : SnapshotHash where
  dependencies := snapshot.dependencies.insertionSort SnapshotDependency.precedes
  knownIncidentIds := sortedNames snapshot.knownIncidentIds
  evidenceHashes := sortedNames snapshot.evidenceHashes

structure GovernanceProposal where
  proposalId : String
  proposalVersion : ℕ
  authoredBy : String
  declaredClass : ChangeClass
  affectedModules : List String
  affectedPaths : List String
  protectedControls : List String
  evidence : List EvidenceReference
  counterevidence : List EvidenceReference
  realMoneyEnablement : Bool
  approvalSnapshot : ApprovalSnapshot
  status : ProposalStatus
  completeEvidenceAt : Option Time
  ownerNotificationDeliveredAt : Option Time
  promotionEligibleAt : Option Time
  deriving DecidableEq

structure ProtectedControl where
  controlId : String
  pathPrefixes : List String
  minimumClass : ChangeClass

/-- The review thresholds of a valid policy are the fixed ones. -/
structure GovernancePolicy where
  policyId : String
  policyVersion : String
  contentHash : String
  protectedControls : List ProtectedControl

structure Classification where
  proposalId : String
  policyId : String
  policyVersion : String
  classifierPrincipal : String
  deterministicFloor : ChangeClass
  finalClass : ChangeClass
  matchedControls : List String
  policyContentHash : String
  classifiedAt : Time
  /-- A classification may escalate its floor but not downgrade it. -/
  keeps_floor : deterministicFloor.rank ≤ finalClass.rank
  deriving DecidableEq

structure IndependenceProfile where
  providerCorrelationDomain : String
  modelFamily : String
  modelVersion : String
  reviewerMandate : String
  promptTemplateVersion : String
  evidenceOrdering : List String
  sharedToolsRetrievalPolicy : String
  knownSharedContamination : List String
  independenceGroupId : String
  deriving DecidableEq

structure CorrelationFingerprint where
  providerCorrelationDomain : String
  modelFamily : String
  modelVersion : String
  promptTemplateVersion : String
  evidenceOrdering : List String
  sharedToolsRetrievalPolicy : String
  knownSharedContamination : List String
  deriving DecidableEq

def IndependenceProfile.correlationFingerprint (profile : IndependenceProfile) :
    CorrelationFingerprint where
  providerCorrelationDomain := profile.providerCorrelationDomain
  modelFamily := profile.modelFamily
  modelVersion := profile.modelVersion
  promptTemplateVersion := profile.promptTemplateVersion
  evidenceOrdering := profile.evidenceOrdering
  sharedToolsRetrievalPolicy := profile.sharedToolsRetrievalPolicy
  knownSharedContamination := profile.knownSharedContamination

structure MaterialObjection where
  objectionId : String
  disposition : ObjectionDisposition
  resolutionEvidence : List EvidenceReference
  resolved_with_evidence : disposition = .falsified ∨ disposition = .acceptedRisk →
    resolutionEvidence ≠ []
  deriving DecidableEq

structure GovernanceReview where
  councilReviewId : String
  proposalId : String
  reviewerPrincipal : String
  profile : IndependenceProfile
  evidenceManifestHash : String
  inspectedEvidence : List ArtifactProvenance
  verdict : ReviewVerdict
  materialObjections : List MaterialObjection
  deriving DecidableEq

structure SynthesisRecord where
  proposalId : String
  synthesizedBy : String
  synthesisArtifact : ArtifactProvenance
  residualCorrelationLimitations : List String
  deriving DecidableEq

structure LifecycleEvidence where
  replay : List AutomatedCheck
  tests : List AutomatedCheck
  shadow : List AutomatedCheck
  canary : List AutomatedCheck
  deriving DecidableEq

namespace LifecycleEvidence

def empty : LifecycleEvidence := ⟨[], [], [], []⟩

def checks (lifecycle : LifecycleEvidence) : List AutomatedCheck :=
  lifecycle.replay ++ lifecycle.tests ++ lifecycle.shadow ++ lifecycle.canary

def hasFailure (lifecycle : LifecycleEvidence) : Bool :=
  lifecycle.checks.any fun check => check.result = .fail

end LifecycleEvidence

inductive Phase where
  | replay | tests | shadow | canary
  deriving DecidableEq

def LifecycleEvidence.phased (lifecycle : LifecycleEvidence) : List (Phase × AutomatedCheck) :=
  lifecycle.replay.map (Phase.replay, ·) ++ lifecycle.tests.map (Phase.tests, ·) ++
    lifecycle.shadow.map (Phase.shadow, ·) ++ lifecycle.canary.map (Phase.canary, ·)

theorem LifecycleEvidence.phased_checks (lifecycle : LifecycleEvidence) :
    lifecycle.phased.map Prod.snd = lifecycle.checks := by
  simp [phased, checks, Function.comp_def]

structure OwnerDelivery where
  authoritativeChannel : String
  notificationId : String
  providerMessageId : String
  deliveredAt : Time
  /-- `lifecycle_snapshot_hash`. -/
  lifecycleSnapshot : LifecycleEvidence
  deriving DecidableEq

structure OwnerDecision where
  proposalId : String
  ownerPrincipal : String
  approved : Bool
  vetoed : Bool
  decisionArtifact : ArtifactProvenance
  decidedAt : Time
  one_decision : approved = !vetoed
  deriving DecidableEq

inductive IncidentSeverity where
  | sev0 | sev1 | sev2 | sev3
  deriving DecidableEq

/-- `severity in {SEV0, SEV1}`. -/
def IncidentSeverity.material (severity : IncidentSeverity) : Bool := severity ∈ [.sev0, .sev1]

def IncidentSeverity.value : IncidentSeverity → String
  | .sev0 => "SEV0"
  | .sev1 => "SEV1"
  | .sev2 => "SEV2"
  | .sev3 => "SEV3"

inductive IncidentStatus where
  | opened | contained | reconciling | resolved | closed
  deriving DecidableEq

def IncidentStatus.value : IncidentStatus → String
  | .opened => "OPEN"
  | .contained => "CONTAINED"
  | .reconciling => "RECONCILING"
  | .resolved => "RESOLVED"
  | .closed => "CLOSED"

/-- `status not in {RESOLVED, CLOSED}`. -/
def IncidentStatus.unresolved (status : IncidentStatus) : Bool := status ∉ [.resolved, .closed]

/-- The fields of an incident before they are validated. -/
structure IncidentData where
  incidentId : String
  severity : IncidentSeverity
  status : IncidentStatus
  openedBy : String
  affectedModules : List String
  affectedPolicyVersions : List String
  evidence : List ArtifactProvenance
  containmentActions : List String
  containedAt : Option Time
  resolvedAt : Option Time
  closedAt : Option Time
  reconciliationEvidence : List ArtifactProvenance
  rootCauseArtifact : Option ArtifactProvenance
  impactAssessmentArtifact : Option ArtifactProvenance
  postmortemArtifact : Option ArtifactProvenance
  correctiveActionIds : List String
  stateVersion : ℕ
  deriving DecidableEq

def IncidentData.Explained (data : IncidentData) : Prop :=
  data.reconciliationEvidence ≠ [] ∧ data.rootCauseArtifact ≠ none ∧
    data.impactAssessmentArtifact ≠ none

instance (data : IncidentData) : Decidable data.Explained := inferInstanceAs (Decidable (_ ∧ _))

structure Incident extends IncidentData where
  numbered : 1 ≤ stateVersion
  /-- `_incident_evidence_is_complete`. -/
  explained : status = .resolved ∨ status = .closed → toIncidentData.Explained
  learned : status = .closed ∧ severity.material → postmortemArtifact ≠ none
  deriving DecidableEq

/-- `Incident.model_validate`. -/
def IncidentData.validate (data : IncidentData) : Except ServiceError Incident :=
  if numbered : 1 ≤ data.stateVersion then
    if explained : data.status = .resolved ∨ data.status = .closed → data.Explained then
      if learned : data.status = .closed ∧ data.severity.material → data.postmortemArtifact ≠ none then
        .ok ⟨data, numbered, explained, learned⟩
      else .error (.value "material incident closure requires a structured postmortem")
    else .error (.value "resolution requires reconciliation, root-cause, and impact evidence")
  else .error (.value "Input should be greater than or equal to 1")

theorem IncidentData.validate_ok {data : IncidentData} (ok : data.validate = .ok incident) :
    incident.toIncidentData = data := by
  unfold validate at ok
  split at ok
  · split at ok
    · split at ok
      · cases ok
        rfl
      · cases ok
    · cases ok
  · cases ok

structure ChangeSet where
  changeSetId : String
  proposalIds : List String
  approvalSnapshotHash : SnapshotHash
  interactionTestArtifacts : List ArtifactProvenance
  interactionTests : List AutomatedCheck
  state : String
  /-- Combined changes carry interaction tests. -/
  composite_tested : 1 < proposalIds.length →
    interactionTestArtifacts ≠ [] ∧ interactionTests ≠ []
  deriving DecidableEq

end Liki.Governance
