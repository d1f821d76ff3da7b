import Liki.Governance.GovernanceService

/-! The incident operations of the reliability service. It shares the tables, the lock
and the event log with the governance service and reads the version of an incident from
its row. -/
namespace Liki.Governance
open Checks GovernanceState

variable (deployment : Deployment) (readings : Readings)

namespace Reliability

/-- `_governance`. -/
def governance (actor : Identity) : Except ServiceError Unit :=
  refuseIf (actor.role ≠ .governance) (.domain "FORBIDDEN")

/-- `_artifact`. -/
def artifactId (state : GovernanceState) (value : ArtifactProvenance) (schema : Option String) :
    Except ServiceError ℕ := do
  let _ ← state.artifact deployment value schema [] []
  return value.artifactId

/-- `_transition_incident`. -/
def moveIncident (state : GovernanceState) (actor : Identity) (before after : Incident)
    (eventType operationKey policyVersion : String) (artifactIds : List ℕ) :
    Except ServiceError GovernanceState := do
  let (_, state) ← state.transition actor .incident operationKey
    (incidentRequest actor after.incidentId before.stateVersion
      (.incident after.status (some after.severity)) eventType policyVersion artifactIds none) none
  return state.updateIncident after

/-- `model_copy(update={"state_version": incident.state_version + 1})`. -/
def Incident.touched (incident : Incident) : Incident :=
  { incident with
    stateVersion := incident.stateVersion + 1
    numbered := Nat.le_add_left 1 _ }

def declaredNotification (incident : Incident) (ownerRecipient : String) : Notification where
  deduplicationKey := "incident:" ++ incident.incidentId
  urgency := if incident.severity = .sev0 then "CRITICAL" else "HIGH"
  recipientRef := ownerRecipient
  title := .text (incident.severity.value ++ " incident declared")
  message := .text ("Incident " ++ incident.incidentId ++ " requires owner awareness.")
  requiredAction := none
  objectId := some incident.incidentId

def notifyOwner (state : GovernanceState) (actor : Identity) (incident : Incident)
    (ownerRecipient : Option String) : Except ServiceError (Option String × GovernanceState) :=
  if incident.severity.material then do
    let recipient ← expect (ownerRecipient.filter fun recipient => recipient ≠ "")
      (.domain "OWNER_NOTIFICATION_RECIPIENT_REQUIRED")
    let (notificationId, state) ← state.notify readings actor (declaredNotification incident recipient)
    return (some notificationId, state)
  else .ok (none, state)

/-- `INSERT INTO incident_evidence_snapshots` for each artifact. -/
def insertEvidence (state : GovernanceState) (incidentId : String) (artifactIds : List ℕ) :
    Except ServiceError GovernanceState := do
  let rows := artifactIds.map fun artifactId => (incidentId, artifactId)
  refuseIf (¬rows.Nodup ∨ ∃ row ∈ rows, row ∈ state.evidenceSnapshots)
    (.constraint "incident_id,artifact_id")
  return { state with evidenceSnapshots := state.evidenceSnapshots ++ rows }

/-- `INSERT INTO incident_evidence_snapshots ... ON CONFLICT DO NOTHING`. -/
def captureEvidence (state : GovernanceState) (incidentId : String) (artifactId : ℕ) :
    GovernanceState :=
  if (incidentId, artifactId) ∈ state.evidenceSnapshots then state
  else { state with evidenceSnapshots := state.evidenceSnapshots ++ [(incidentId, artifactId)] }

/-- `INSERT INTO incident_promotion_freezes`. -/
def freezePromotions (state : GovernanceState) (incidentId : String) :
    Except ServiceError GovernanceState := do
  refuseIf (∃ freeze ∈ state.incidentFreezes, freeze.scopeId = incidentId)
    (.constraint "incident_id")
  return { state with incidentFreezes := state.incidentFreezes ++ [⟨incidentId, none⟩] }

def freezeMaterial (state : GovernanceState) (incident : Incident) :
    Except ServiceError GovernanceState :=
  if incident.severity.material then freezePromotions state incident.incidentId else .ok state

def declareIncident (state : GovernanceState) (actor : Identity) (incident : Incident)
    (operationKey policyVersion : String) (ownerRecipient : Option String) : Outcome := do
  actor.requires .incident
  refuseIf (incident.openedBy ≠ actor.principalId ∨ incident.status ≠ .opened)
    (.domain "FORGED_INCIDENT_DECLARATION")
  let evidenceIds ← state.artifacts deployment incident.evidence
  let (notificationId, state) ← notifyOwner readings state actor incident ownerRecipient
  let (_, state) ← state.transition actor .incident operationKey
    (incidentRequest actor incident.incidentId 0 (.incident .opened (some incident.severity))
      "INCIDENT_DECLARED" policyVersion evidenceIds none) none
  let state ← state.insertIncident incident
  let state ← insertEvidence state incident.incidentId evidenceIds
  let state ← freezeMaterial state incident
  return (.notification notificationId, state)

def contain (state : GovernanceState) (actor : Identity) (incidentId action : String)
    (evidence : ArtifactProvenance) (operationKey policyVersion : String) : Outcome := do
  actor.requires .incident
  let incident ← expect (state.findIncident incidentId) (.domain "UNKNOWN_INCIDENT")
  let artifactId ← artifactId deployment state evidence none
  let after ← transitionIncident incident .contained readings.now { containmentAction := some action }
  let state ← moveIncident state actor incident after "INCIDENT_CONTAINED" operationKey policyVersion
    [artifactId]
  return (.incident after, captureEvidence state incidentId artifactId)

def beginReconciliation (state : GovernanceState) (actor : Identity)
    (incidentId operationKey policyVersion : String) : Outcome := do
  actor.requires .incident
  let incident ← expect (state.findIncident incidentId) (.domain "UNKNOWN_INCIDENT")
  let after ← transitionIncident incident .reconciling readings.now {}
  let state ← moveIncident state actor incident after "INCIDENT_RECONCILIATION_STARTED" operationKey
    policyVersion []
  return (.incident after, state)

structure CorrectiveAction where
  correctiveActionId : String
  completionArtifact : ArtifactProvenance
  regressionChecks : List AutomatedCheck
  guarded : regressionChecks ≠ []

def Incident.corrected (incident : Incident) (correctiveActionId : String) : Incident :=
  { incident with
    correctiveActionIds := incident.correctiveActionIds ++ [correctiveActionId]
    stateVersion := incident.stateVersion + 1
    numbered := Nat.le_add_left 1 _ }

/-- `INSERT INTO incident_corrective_actions`. -/
def insertCorrectiveAction (state : GovernanceState) (row : CorrectiveActionRow) :
    Except ServiceError GovernanceState := do
  refuseIf (∃ other ∈ state.correctiveActions, other.correctiveActionId = row.correctiveActionId)
    (.constraint "corrective_action_id")
  return { state with correctiveActions := state.correctiveActions ++ [row] }

def recordCorrectiveAction (state : GovernanceState) (actor : Identity) (incidentId : String)
    (action : CorrectiveAction) (operationKey policyVersion : String) : Outcome := do
  governance actor
  let incident ← expect (state.findIncident incidentId) (.domain "UNKNOWN_INCIDENT")
  refuseIf (incident.status ≠ .reconciling) (.domain "INCIDENT_NOT_RECONCILING")
  let completion ← artifactId deployment state action.completionArtifact none
  let regressionIds ← action.regressionChecks.mapM (state.regressionCheck deployment)
  let after := Incident.corrected incident action.correctiveActionId
  let state ← moveIncident state actor incident after "INCIDENT_CORRECTIVE_ACTION_VERIFIED"
    operationKey policyVersion (completion :: regressionIds)
  let state ← insertCorrectiveAction state ⟨action.correctiveActionId, incidentId⟩
  return (.incident after, state)

def completedActions (state : GovernanceState) (incidentId : String) : List String :=
  (state.correctiveActions.filter fun row => row.incidentId = incidentId).map
    CorrectiveActionRow.correctiveActionId

def resolve (state : GovernanceState) (actor : Identity) (incidentId : String)
    (reconciliationEvidence : List ArtifactProvenance) (rootCause impactAssessment : ArtifactProvenance)
    (operationKey policyVersion : String) : Outcome := do
  governance actor
  let incident ← expect (state.findIncident incidentId) (.domain "UNKNOWN_INCIDENT")
  refuseIf (incident.correctiveActionIds = []) (.domain "CORRECTIVE_ACTION_REQUIRED")
  refuseIf (incident.correctiveActionIds.toFinset ≠ (completedActions state incidentId).toFinset)
    (.domain "UNVERIFIED_CORRECTIVE_ACTION")
  let artifactIds ← state.artifacts deployment reconciliationEvidence
  let root ← artifactId deployment state rootCause none
  let impact ← artifactId deployment state impactAssessment none
  let after ← transitionIncident incident .resolved readings.now
    { reconciliationEvidence, rootCauseArtifact := some rootCause,
      impactAssessmentArtifact := some impactAssessment }
  let state ← moveIncident state actor incident after "INCIDENT_RESOLVED" operationKey policyVersion
    (artifactIds ++ [root, impact])
  return (.incident after, state)

def close (state : GovernanceState) (actor : Identity) (incidentId : String)
    (postmortem : Option ArtifactProvenance) (operationKey policyVersion : String) : Outcome := do
  governance actor
  let incident ← expect (state.findIncident incidentId) (.domain "UNKNOWN_INCIDENT")
  let artifactIds ← postmortem.toList.mapM fun postmortem =>
    artifactId deployment state postmortem (some "reliability/incident-postmortem/v1")
  let after ← transitionIncident incident .closed readings.now { postmortemArtifact := postmortem }
  let state ← moveIncident state actor incident after "INCIDENT_CLOSED" operationKey policyVersion
    artifactIds
  return (.incident after, state)

def reopen (state : GovernanceState) (actor : Identity) (incidentId : String)
    (evidence : ArtifactProvenance) (operationKey policyVersion : String) : Outcome := do
  actor.requires .incident
  let incident ← expect (state.findIncident incidentId) (.domain "UNKNOWN_INCIDENT")
  refuseIf (incident.status ≠ .resolved) (.domain "ONLY_RESOLVED_INCIDENTS_MAY_REOPEN")
  let artifactId ← artifactId deployment state evidence
    (some "reliability/incident-reopen-evidence/v1")
  let after ← transitionIncident incident .opened readings.now {}
  let state ← moveIncident state actor incident after "INCIDENT_REOPENED" operationKey policyVersion
    [artifactId]
  return (.incident after, captureEvidence state incidentId artifactId)

def linkRecurrence (state : GovernanceState) (actor : Identity)
    (incidentId relatedIncidentId : String) (relationship : ArtifactProvenance)
    (operationKey policyVersion : String) : Outcome := do
  actor.requires .incident
  let incident ← expect (state.findIncident incidentId) (.domain "UNKNOWN_INCIDENT")
  let _ ← expect (state.findIncident relatedIncidentId) (.domain "UNKNOWN_INCIDENT")
  let artifactId ← artifactId deployment state relationship (some "reliability/incident-cause-link/v1")
  let state ← moveIncident state actor incident (Incident.touched incident)
    "INCIDENT_RECURRENCE_LINKED" operationKey policyVersion [artifactId]
  refuseIf (incidentId = relatedIncidentId) (.constraint "incident_id <> related_incident_id")
  return (.done, state)

/-- `UPDATE incident_promotion_freezes SET lifted_at=...`. -/
def liftFreeze (state : GovernanceState) (incidentId : String) : GovernanceState :=
  { state with
    incidentFreezes := KeyedRows.update FreezeRow.scopeId incidentId
      (fun freeze => { freeze with liftedAt := some (freeze.liftedAt.getD readings.now) })
      state.incidentFreezes }

def liftIncidentFreeze (state : GovernanceState) (actor : Identity) (incidentId : String)
    (remediation : ArtifactProvenance) (operationKey policyVersion : String) : Outcome := do
  governance actor
  let incident ← expect (state.findIncident incidentId) (.domain "UNKNOWN_INCIDENT")
  refuseIf (incident.status.unresolved) (.domain "INCIDENT_NOT_RESOLVED")
  let artifactId ← artifactId deployment state remediation
    (some "reliability/incident-remediation/v1")
  refuseIf (¬∃ freeze ∈ state.incidentFreezes, freeze.scopeId = incidentId ∧ freeze.liftedAt = none)
    (.domain "NO_ACTIVE_INCIDENT_FREEZE")
  let state ← moveIncident state actor incident (Incident.touched incident)
    "INCIDENT_PROMOTION_FREEZE_LIFTED" operationKey policyVersion [artifactId]
  return (.done, liftFreeze readings state incidentId)

end Reliability

end Liki.Governance
