import Liki.Governance.ReliabilityService
import Liki.Library.CallSystem

/-! Governance as a system that answers one call at a time: the operations of the
governance service, the incident operations of the reliability service, and what the
rest of the system does to the tables they read. -/
namespace Liki.Governance
open Checks GovernanceState CallSystem

/-- `put_artifact`. -/
def putArtifact (deployment : Deployment) (readings : Readings) (state : GovernanceState)
    (actor : Identity) (fields : Fields) (schemaName : String) (classification : StoreClassification)
    (policyVersion : String) : Outcome := do
  actor.requires .artifact
  refuseIf (classification = .secret ∨ (classification = .sealed ∧ actor.role ≠ .sealedEvaluator))
    (.domain "FORBIDDEN_CLASSIFICATION")
  let stored := fun artifact : Artifact ArtifactContent => artifact.producerId = actor.principalId ∧
    artifact.content.contentHash = deployment.contentHash fields ∧ artifact.schemaName = schemaName
  match state.store.artifacts.findIdx? fun artifact => stored artifact with
  | some existing => return (.artifact existing, state)
  | none => return (.artifact state.store.artifacts.length, { state with
      store := { state.store with
        artifacts := state.store.artifacts ++
          [⟨⟨fields, deployment.contentHash fields, readings.fingerprint⟩, schemaName, classification,
            actor.principalId, policyVersion⟩] } })

def governedKinds : List String :=
  ["governance_proposal", "policy_version", "governance_change_set", "incident", "notification"]

def otherTransition (state : GovernanceState) (actor : Identity) (capability : Capability)
    (operationKey : String) (request : GovernanceTransition) (topic : Option String) : Outcome := do
  refuseIf (request.kind ∈ governedKinds) (.domain "FORBIDDEN")
  let (eventId, state) ← state.transition actor capability operationKey request topic
  return (.event eventId, state)

def deliver (readings : Readings) (state : GovernanceState) (notificationId receipt : String) :
    Outcome := do
  refuseIf (¬∃ row ∈ state.notifications, row.notificationId = notificationId)
    (.constraint "notification_id")
  refuseIf (∃ delivery ∈ state.deliveries, delivery.notificationId = notificationId)
    (.constraint "notification_id")
  return (.done, { state with
    deliveries := state.deliveries ++ [⟨notificationId, receipt, readings.now⟩] })

/-- A breached indicator freezes promotions, unless it already does. -/
def freezeIndicator (state : GovernanceState) (indicatorId : String) : Outcome :=
  if ∃ freeze ∈ state.indicatorFreezes, freeze.scopeId = indicatorId ∧ freeze.liftedAt = none then
    .ok (.done, state)
  else .ok (.done, { state with indicatorFreezes := state.indicatorFreezes ++ [⟨indicatorId, none⟩] })

/-- `lift_sli_freeze`. -/
def liftIndicatorFreeze (deployment : Deployment) (readings : Readings) (state : GovernanceState)
    (actor : Identity) (indicatorId : String) (remediation : ArtifactProvenance) : Outcome := do
  Reliability.governance actor
  let _ ← Reliability.artifactId deployment state remediation (some "reliability/slo-remediation/v1")
  refuseIf (¬∃ freeze ∈ state.indicatorFreezes, freeze.scopeId = indicatorId ∧ freeze.liftedAt = none)
    (.domain "NO_ACTIVE_SLI_FREEZE")
  return (.done, { state with
    indicatorFreezes := KeyedRows.update FreezeRow.scopeId indicatorId
      (fun freeze => { freeze with liftedAt := some (freeze.liftedAt.getD readings.now) })
      state.indicatorFreezes })

inductive ReliabilityRequest where
  | declareIncident (incident : Incident) (operationKey policyVersion : String)
      (ownerRecipient : Option String)
  | contain (incidentId action : String) (evidence : ArtifactProvenance)
      (operationKey policyVersion : String)
  | beginReconciliation (incidentId operationKey policyVersion : String)
  | recordCorrectiveAction (incidentId : String) (action : Reliability.CorrectiveAction)
      (operationKey policyVersion : String)
  | resolve (incidentId : String) (reconciliationEvidence : List ArtifactProvenance)
      (rootCause impactAssessment : ArtifactProvenance) (operationKey policyVersion : String)
  | close (incidentId : String) (postmortem : Option ArtifactProvenance)
      (operationKey policyVersion : String)
  | reopen (incidentId : String) (evidence : ArtifactProvenance) (operationKey policyVersion : String)
  | linkRecurrence (incidentId relatedIncidentId : String) (relationship : ArtifactProvenance)
      (operationKey policyVersion : String)
  | liftIncidentFreeze (incidentId : String) (remediation : ArtifactProvenance)
      (operationKey policyVersion : String)

inductive GovernanceRequest where
  | registerPolicy (policy : GovernancePolicy) (policyArtifact : ArtifactProvenance)
      (operationKey : String) (effective : Bool)
  | activatePolicy (policyId policyVersion proposalId : String) (expectedVersion : ℕ)
      (operationKey : String)
  | rollbackPolicy (policyId rollbackToVersion : String) (expectedVersion : ℕ) (operationKey : String)
  | propose (proposal : GovernanceProposal) (operationKey policyVersion : String)
  | classify (proposalId : String) (policy : GovernancePolicy) (expectedVersion : ℕ)
      (operationKey : String)
  | recordReview (review : GovernanceReview) (evidenceManifest : ArtifactProvenance)
      (expectedVersion : ℕ) (operationKey policyVersion : String)
  | recordLifecycle (proposalId : String) (lifecycle : LifecycleEvidence) (expectedVersion : ℕ)
      (operationKey policyVersion : String)
  | recordSynthesis (synthesis : SynthesisRecord) (expectedVersion : ℕ)
      (operationKey policyVersion : String)
  | queueOwnerNotification (proposalId channel : String) (notificationPackage : ArtifactProvenance)
      (expectedVersion : ℕ) (operationKey policyVersion : String)
  | recordOwnerDelivery (proposalId channel : String) (expectedVersion : ℕ)
      (operationKey policyVersion : String)
  | decide (proposalId : String) (verdict : OwnerVerdict) (reason : String) (expectedVersion : ℕ)
      (operationKey policyVersion : String)
  | evaluate (proposalId : String) (expectedVersion : ℕ) (operationKey policyVersion : String)
      (changeSetId : Option String)
  | recordChangeSet (changeSet : ChangeSet) (expectedVersion : ℕ) (operationKey policyVersion : String)
  | declareIncident (incident : Incident) (operationKey policyVersion : String)
  | advanceIncident (incidentId : String) (toStatus : IncidentStatus) (expectedVersion : ℕ)
      (operationKey policyVersion : String) (details : IncidentDetails)
  | reliability (request : ReliabilityRequest)
  | putArtifact (fields : Fields) (schemaName : String) (classification : StoreClassification)
      (policyVersion : String)
  | otherTransition (capability : Capability) (operationKey : String) (request : GovernanceTransition)
      (topic : Option String)
  | deliver (notificationId receipt : String)
  | freezeIndicator (indicatorId : String)
  | liftIndicatorFreeze (indicatorId : String) (remediation : ArtifactProvenance)

/-- A request with who makes it and what it reads from outside. -/
structure GovernanceCall where
  readings : Readings
  actor : Identity
  request : GovernanceRequest

def ReliabilityRequest.operationKey : ReliabilityRequest → String
  | .declareIncident _ operationKey _ _ | .contain _ _ _ operationKey _
  | .beginReconciliation _ operationKey _ | .recordCorrectiveAction _ _ operationKey _
  | .resolve _ _ _ _ operationKey _ | .close _ _ operationKey _ | .reopen _ _ operationKey _
  | .linkRecurrence _ _ _ operationKey _ | .liftIncidentFreeze _ _ operationKey _ => operationKey

def ReliabilityRequest.incidentId : ReliabilityRequest → String
  | .declareIncident incident _ _ _ => incident.incidentId
  | .contain incidentId _ _ _ _ | .beginReconciliation incidentId _ _
  | .recordCorrectiveAction incidentId _ _ _ | .resolve incidentId _ _ _ _ _
  | .close incidentId _ _ _ | .reopen incidentId _ _ _ | .linkRecurrence incidentId _ _ _ _
  | .liftIncidentFreeze incidentId _ _ _ => incidentId

def GovernanceCall.operationKey (call : GovernanceCall) : String :=
  match call.request with
  | .registerPolicy _ _ operationKey _ | .activatePolicy _ _ _ _ operationKey
  | .rollbackPolicy _ _ _ operationKey | .propose _ operationKey _ | .classify _ _ _ operationKey
  | .recordReview _ _ _ operationKey _ | .recordLifecycle _ _ _ operationKey _
  | .recordSynthesis _ _ operationKey _ | .queueOwnerNotification _ _ _ _ operationKey _
  | .recordOwnerDelivery _ _ _ operationKey _ | .decide _ _ _ _ operationKey _
  | .evaluate _ _ operationKey _ _ | .recordChangeSet _ _ operationKey _
  | .declareIncident _ operationKey _ | .advanceIncident _ _ _ operationKey _ _
  | .otherTransition _ operationKey _ _ => operationKey
  | .reliability request => request.operationKey
  | .putArtifact _ _ _ _ | .deliver _ _ | .freezeIndicator _ | .liftIndicatorFreeze _ _ => ""

/-! ### A small deployment

One principal of each role that governs, and hashes that spell their content out. -/
namespace Small

def rendered : JsonValue → String
  | .text value => value
  | .lifecycleHash lifecycle => String.join (lifecycle.checks.map AutomatedCheck.checkId)
  | .data value => value

def parsed (written : String) : ParsedInstant :=
  .utc (written.toList.foldl (fun instant digit => 10 * instant + (digit.toNat - 48)) 0)

def deployment : Deployment where
  contentHash fields := String.join (fields.map fun field => field.1 ++ "=" ++ rendered field.2 ++ ";")
  fromIsoFormat := parsed
  isoFormat instant := toString instant
  principals := [⟨"gov", .governance, "code"⟩, ⟨"own", .owner, "code"⟩, ⟨"eval", .evaluator, "code"⟩]

def governance : Identity := ⟨"gov", .governance⟩

def owner : Identity := ⟨"own", .owner⟩

def evaluator : Identity := ⟨"eval", .evaluator⟩

def made (now : ℕ) (actor : Identity) (request : GovernanceRequest) : GovernanceCall :=
  ⟨⟨now, "NTF-" ++ toString now, "env"⟩, actor, request⟩

def provenance (artifactId : ℕ) (producer : Identity) (fields : Fields) : ArtifactProvenance :=
  ⟨artifactId, deployment.contentHash fields, producer.principalId, "env", "code", "INTERNAL"⟩

end Small

variable (deployment : Deployment)

def Reliability.answer (readings : Readings) (state : GovernanceState) (actor : Identity) :
    ReliabilityRequest → Outcome
  | .declareIncident incident operationKey policyVersion ownerRecipient =>
    declareIncident deployment readings state actor incident operationKey policyVersion ownerRecipient
  | .contain incidentId action evidence operationKey policyVersion =>
    contain deployment readings state actor incidentId action evidence operationKey policyVersion
  | .beginReconciliation incidentId operationKey policyVersion =>
    beginReconciliation readings state actor incidentId operationKey policyVersion
  | .recordCorrectiveAction incidentId action operationKey policyVersion =>
    recordCorrectiveAction deployment state actor incidentId action operationKey policyVersion
  | .resolve incidentId evidence rootCause impactAssessment operationKey policyVersion =>
    resolve deployment readings state actor incidentId evidence rootCause impactAssessment operationKey
      policyVersion
  | .close incidentId postmortem operationKey policyVersion =>
    close deployment readings state actor incidentId postmortem operationKey policyVersion
  | .reopen incidentId evidence operationKey policyVersion =>
    reopen deployment readings state actor incidentId evidence operationKey policyVersion
  | .linkRecurrence incidentId relatedIncidentId relationship operationKey policyVersion =>
    linkRecurrence deployment state actor incidentId relatedIncidentId relationship operationKey
      policyVersion
  | .liftIncidentFreeze incidentId remediation operationKey policyVersion =>
    liftIncidentFreeze deployment readings state actor incidentId remediation operationKey policyVersion

def answer : Handler GovernanceState GovernanceCall ServiceError GovernanceAnswer
  | state, ⟨readings, actor, request⟩ =>
    match request with
    | .registerPolicy policy policyArtifact operationKey effective =>
      registerPolicy deployment state actor policy policyArtifact operationKey effective
    | .activatePolicy policyId policyVersion proposalId expectedVersion operationKey =>
      activatePolicy state actor policyId policyVersion proposalId expectedVersion operationKey
    | .rollbackPolicy policyId rollbackToVersion expectedVersion operationKey =>
      rollbackPolicy state actor policyId rollbackToVersion expectedVersion operationKey
    | .propose proposal operationKey policyVersion =>
      propose deployment state actor proposal operationKey policyVersion
    | .classify proposalId policy expectedVersion operationKey =>
      classify readings state actor proposalId policy expectedVersion operationKey
    | .recordReview review manifest expectedVersion operationKey policyVersion =>
      recordReview deployment state actor review manifest expectedVersion operationKey policyVersion
    | .recordLifecycle proposalId lifecycle expectedVersion operationKey policyVersion =>
      recordLifecycle deployment state actor proposalId lifecycle expectedVersion operationKey
        policyVersion
    | .recordSynthesis synthesis expectedVersion operationKey policyVersion =>
      recordSynthesis deployment state actor synthesis expectedVersion operationKey policyVersion
    | .queueOwnerNotification proposalId channel package expectedVersion operationKey policyVersion =>
      queueOwnerNotification deployment readings state actor proposalId channel package expectedVersion
        operationKey policyVersion
    | .recordOwnerDelivery proposalId channel expectedVersion operationKey policyVersion =>
      recordOwnerDelivery deployment state actor proposalId channel expectedVersion operationKey
        policyVersion
    | .decide proposalId verdict reason expectedVersion operationKey policyVersion =>
      decide deployment readings state actor proposalId verdict reason expectedVersion operationKey
        policyVersion
    | .evaluate proposalId expectedVersion operationKey policyVersion changeSetId =>
      evaluate deployment readings state actor proposalId expectedVersion operationKey policyVersion
        changeSetId
    | .recordChangeSet changeSet expectedVersion operationKey policyVersion =>
      recordChangeSet deployment state actor changeSet expectedVersion operationKey policyVersion
    | .declareIncident incident operationKey policyVersion =>
      declareIncident deployment state actor incident operationKey policyVersion
    | .advanceIncident incidentId toStatus expectedVersion operationKey policyVersion details =>
      advanceIncident deployment readings state actor incidentId toStatus expectedVersion operationKey
        policyVersion details
    | .reliability request => Reliability.answer deployment readings state actor request
    | .putArtifact fields schemaName classification policyVersion =>
      putArtifact deployment readings state actor fields schemaName classification policyVersion
    | .otherTransition capability operationKey request topic =>
      otherTransition state actor capability operationKey request topic
    | .deliver notificationId receipt => deliver readings state notificationId receipt
    | .freezeIndicator indicatorId => freezeIndicator state indicatorId
    | .liftIndicatorFreeze indicatorId remediation =>
      liftIndicatorFreeze deployment readings state actor indicatorId remediation

/-- The tables after some calls on a new system. -/
def history (calls : List GovernanceCall) : GovernanceState := run (answer deployment) .empty calls

theorem history_append (calls : List GovernanceCall) (call : GovernanceCall) :
    history deployment (calls ++ [call]) = next (answer deployment) (history deployment calls) call := by
  rw [history, run_append]
  rfl

end Liki.Governance
