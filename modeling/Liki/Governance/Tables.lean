import Liki.Governance.Domain

/-! The tables that the governance and the reliability service share, what both read
from them before they write, and the triggers that guard them. A column that repeats
one inside a stored record and is written with it is that record's. -/
namespace Liki.Governance
open Checks KeyedRows

/-- A value in an artifact's content. -/
inductive JsonValue where
  | text (value : String)
  | lifecycleHash (lifecycle : LifecycleEvidence)
  /-- Anything but a string. -/
  | data (value : String)
  deriving DecidableEq

abbrev Fields := List (String × JsonValue)

structure ArtifactContent where
  fields : Fields
  contentHash : String
  environmentFingerprint : String
  deriving DecidableEq

/-- `content.get(key)`. -/
def ArtifactContent.get (content : ArtifactContent) (key : String) : Option JsonValue :=
  (content.fields.find? fun field => field.1 = key).map Prod.snd

/-- `text.strip()`. -/
def strip (text : String) : String :=
  String.ofList (((text.toList.dropWhile (whitespace.contains ·)).reverse.dropWhile
    (whitespace.contains ·)).reverse)

def JsonValue.stripped : JsonValue → Option JsonValue
  | .text value => if blank value then none else some (.text (strip value))
  | .lifecycleHash lifecycle => some (.lifecycleHash lifecycle)
  | .data _ => none

structure Principal where
  principalId : String
  role : Role
  codeFingerprint : String

/-- What `datetime.fromisoformat` makes of a string. -/
inductive ParsedInstant where
  | invalid
  /-- Without a zone, or not in UTC. -/
  | elsewhere
  | utc (instant : Time)

structure Deployment where
  contentHash : Fields → String
  fromIsoFormat : String → ParsedInstant
  isoFormat : Time → String
  principals : List Principal

/-- What one call reads from outside the database. -/
structure Readings where
  now : Time
  uid : String
  fingerprint : String

inductive PolicyStatus where
  | draft | effective | retired
  deriving DecidableEq

structure Notification where
  deduplicationKey : String
  urgency : String
  recipientRef : String
  title : JsonValue
  message : JsonValue
  requiredAction : Option String
  objectId : Option String
  deriving DecidableEq

inductive GovernanceAggregate where
  | policy (status : PolicyStatus) (policyId policyVersion : String)
  | proposal (status : ProposalStatus) (proposalVersion : Option ℕ)
  | changeSet (state : String)
  | incident (status : IncidentStatus) (severity : Option IncidentSeverity)
  | notification (content : Notification)
  | other (state : String)
  deriving DecidableEq

inductive GovernanceMetadata where
  | classified (classification : Classification)
  | lifecycle (lifecycle : LifecycleEvidence)
  | queued (channel notificationId : String) (lifecycle : LifecycleEvidence) (lifecycleEventId : ℕ)
  | delivered (notificationId providerMessageId : String) (lifecycle : LifecycleEvidence)
  | decided (reason : String) (expectedVersion : ℕ) (policyVersion : String) (proposalVersion : ℕ)
  | revalidated (snapshotHash : SnapshotHash)
  | declared (severity : IncidentSeverity) (ownerNotificationRequired : Bool)
  | other (metadata : String)
  deriving DecidableEq

abbrev GovernanceStore := Store GovernanceAggregate GovernanceMetadata String ArtifactContent
abbrev GovernanceEvent := Event GovernanceAggregate GovernanceMetadata String
abbrev GovernanceTransition := TransitionRequest GovernanceAggregate GovernanceMetadata

structure PolicyRow where
  policyId : String
  policyVersion : String
  contentHash : String
  status : PolicyStatus
  policyArtifactId : ℕ
  deriving DecidableEq

def PolicyRow.key (row : PolicyRow) : String × String := (row.policyId, row.policyVersion)

structure ProposalRow where
  package : GovernanceProposal
  classification : Option Classification
  lifecycle : LifecycleEvidence
  synthesis : Option SynthesisRecord
  ownerDelivery : Option OwnerDelivery
  ownerDecision : Option OwnerDecision
  status : ProposalStatus
  deriving DecidableEq

def ProposalRow.proposalId (row : ProposalRow) : String := row.package.proposalId

/-- `_proposal`. -/
def ProposalRow.proposal (row : ProposalRow) : GovernanceProposal :=
  { row.package with status := row.status }

/-- A row of `governance_lifecycle_outcomes`. -/
structure LifecycleOutcome where
  lifecycleEventId : ℕ
  proposalId : String
  phase : Phase
  checkId : String
  result : CheckResult
  executedAt : Time
  deriving DecidableEq

def LifecycleOutcome.key (outcome : LifecycleOutcome) : ℕ × Phase × String :=
  (outcome.lifecycleEventId, outcome.phase, outcome.checkId)

structure CorrectiveActionRow where
  correctiveActionId : String
  incidentId : String
  deriving DecidableEq

/-- A freeze of promotions, for an incident or for a breached indicator. -/
structure FreezeRow where
  scopeId : String
  liftedAt : Option Time
  deriving DecidableEq

structure NotificationRow where
  notificationId : String
  notification : Notification
  deriving DecidableEq

structure DeliveryRow where
  notificationId : String
  providerMessageId : String
  deliveredAt : Time
  deriving DecidableEq

/-- Links of an incident are compared as pairs. -/
instance link_lawfulBEq : LawfulBEq (String × ℕ) := inferInstance

structure GovernanceState where
  store : GovernanceStore
  policies : List PolicyRow
  proposals : List ProposalRow
  reviews : List GovernanceReview
  outcomes : List LifecycleOutcome
  changeSets : List ChangeSet
  incidents : List Incident
  incidentEvents : List (String × ℕ)
  /-- Incident and captured artifact. -/
  evidenceSnapshots : List (String × ℕ)
  correctiveActions : List CorrectiveActionRow
  incidentFreezes : List FreezeRow
  indicatorFreezes : List FreezeRow
  notifications : List NotificationRow
  deliveries : List DeliveryRow
  deriving DecidableEq

namespace GovernanceState

def empty : GovernanceState := ⟨.empty, [], [], [], [], [], [], [], [], [], [], [], [], []⟩

def findProposal (state : GovernanceState) (proposalId : String) : Option ProposalRow :=
  find ProposalRow.proposalId proposalId state.proposals

def findPolicy (state : GovernanceState) (policyId policyVersion : String) : Option PolicyRow :=
  find PolicyRow.key (policyId, policyVersion) state.policies

def effectivePolicy (state : GovernanceState) (policyId : String) : Option PolicyRow :=
  state.policies.find? fun row => row.policyId = policyId ∧ row.status = .effective

def findIncident (state : GovernanceState) (incidentId : String) : Option Incident :=
  find (fun incident : Incident => incident.incidentId) incidentId state.incidents

def findEvent (state : GovernanceState) (operationKey : String) : Option GovernanceEvent :=
  find Event.operationKey operationKey state.store.events

def joinedArtifact (deployment : Deployment) (state : GovernanceState) (artifactId : ℕ) :
    Option (Artifact ArtifactContent × Principal) :=
  state.store.artifacts[artifactId]?.bind fun artifact =>
    (find Principal.principalId artifact.producerId deployment.principals).map fun producer =>
      (artifact, producer)

/-- `_artifact`. -/
def artifact (deployment : Deployment) (state : GovernanceState) (provenance : ArtifactProvenance)
    (schemaName : Option String) (allowedRoles : List Role) (expectedContent : Fields) :
    Except ServiceError (Artifact ArtifactContent) := do
  let (row, producer) ← expect (state.joinedArtifact deployment provenance.artifactId)
    (.domain "UNKNOWN_ARTIFACT")
  refuseIf (deployment.contentHash row.content.fields ≠ row.content.contentHash)
    (.domain "ARTIFACT_CORRUPTED")
  refuseIf (row.content.contentHash ≠ provenance.contentHash ∨
      row.producerId ≠ provenance.authenticatedPrincipal ∨
      row.content.environmentFingerprint ≠ provenance.environmentFingerprint ∨
      producer.codeFingerprint ≠ provenance.codeFingerprint)
    (.domain "FORGED_PROVENANCE")
  refuseIf (∃ schema ∈ schemaName, row.schemaName ≠ schema) (.domain "ARTIFACT_SCHEMA_MISMATCH")
  refuseIf (allowedRoles ≠ [] ∧ producer.role ∉ allowedRoles)
    (.domain "ARTIFACT_PRODUCER_ROLE_MISMATCH")
  refuseIf (∃ field ∈ expectedContent, row.content.get field.1 ≠ some field.2)
    (.domain "ARTIFACT_CONTENT_MISMATCH")
  return row

def verified (deployment : Deployment) (state : GovernanceState) (provenance : ArtifactProvenance) :
    Except ServiceError ℕ := do
  let _ ← state.artifact deployment provenance none [] []
  return provenance.artifactId

/-- `_artifacts`. -/
def artifacts (deployment : Deployment) (state : GovernanceState)
    (values : List ArtifactProvenance) : Except ServiceError (List ℕ) :=
  values.mapM (state.verified deployment)

def recordedInstant (deployment : Deployment) (content : ArtifactContent) :
    Except ServiceError ParsedInstant :=
  match content.get "executed_at_utc" with
  | some (.text written) => .ok (deployment.fromIsoFormat written)
  | some (.lifecycleHash _) => .ok .invalid
  | _ => .error (.domain "AUTOMATED_CHECK_TIMESTAMP_MISSING")

def checkContent (check : AutomatedCheck) : Fields :=
  [("check_id", .text check.checkId), ("check_kind", .text check.checkKind),
    ("result", .text check.result.value)]

/-- `_check` of the governance service. -/
def check (deployment : Deployment) (state : GovernanceState) (check : AutomatedCheck) :
    Except ServiceError ℕ := do
  let row ← state.artifact deployment check.resultArtifact
    (some "governance/automated-check-result/v1") [.evaluator, .sealedEvaluator] (checkContent check)
  match ← recordedInstant deployment row.content with
  | .invalid | .elsewhere => .error (.domain "AUTOMATED_CHECK_TIMESTAMP_INVALID")
  | .utc recordedAt =>
    refuseIf (recordedAt ≠ check.executedAt) (.domain "FORGED_AUTOMATED_CHECK_TIMESTAMP")
    return check.resultArtifact.artifactId

/-- `_check` of the reliability service. -/
def regressionCheck (deployment : Deployment) (state : GovernanceState) (check : AutomatedCheck) :
    Except ServiceError ℕ := do
  let row ← state.artifact deployment check.resultArtifact
    (some "governance/automated-check-result/v1") [] []
  refuseIf (∃ field ∈ checkContent check, row.content.get field.1 ≠ some field.2)
    (.domain "ARTIFACT_CONTENT_MISMATCH")
  refuseIf (check.result ≠ .pass) (.domain "REGRESSION_CHECK_FAILED")
  match ← recordedInstant deployment row.content with
  | .invalid => .error (.domain "AUTOMATED_CHECK_TIMESTAMP_INVALID")
  | .elsewhere => .error (.domain "FORGED_AUTOMATED_CHECK_TIMESTAMP")
  | .utc executedAt =>
    refuseIf (executedAt ≠ check.executedAt) (.domain "FORGED_AUTOMATED_CHECK_TIMESTAMP")
    return check.resultArtifact.artifactId

/-- `_lifecycle`. -/
def lifecycle (deployment : Deployment) (state : GovernanceState) (lifecycle : LifecycleEvidence) :
    Except ServiceError (List ℕ) :=
  lifecycle.checks.mapM (state.check deployment)

/-- A row that the freeze trigger looks at. -/
inductive GuardedRow where
  | gateDecision (decision : String)
  | proposal (status : ProposalStatus)
  | model (status : String)
  | policy (status : PolicyStatus)

def GuardedRow.promoting : GuardedRow → Prop
  | .gateDecision decision => decision = "PASS"
  | .proposal status => status = .promoted
  | .model status => status ∈ ["PROMOTED", "APPROVED", "EFFECTIVE"]
  | .policy status => status = .effective

instance : (row : GuardedRow) → Decidable row.promoting
  | .gateDecision decision => inferInstanceAs (Decidable (decision = "PASS"))
  | .proposal status => inferInstanceAs (Decidable (status = .promoted))
  | .model status => inferInstanceAs (Decidable (status ∈ _))
  | .policy status => inferInstanceAs (Decidable (status = .effective))

def promotionsFrozen (state : GovernanceState) : Prop :=
  (∃ freeze ∈ state.incidentFreezes, freeze.liftedAt = none) ∨
    ∃ freeze ∈ state.indicatorFreezes, freeze.liftedAt = none

instance (state : GovernanceState) : Decidable state.promotionsFrozen :=
  inferInstanceAs (Decidable (_ ∨ _))

/-- `liki_guard_promotion_freeze`. -/
def guardPromotionFreeze (state : GovernanceState) (row : GuardedRow) : Except ServiceError Unit :=
  refuseIf (row.promoting ∧ state.promotionsFrozen) (.constraint "PROMOTION_FROZEN")

/-- `promotion_blockers`. -/
def promotionBlockers (state : GovernanceState) : List String :=
  sortedNames (((state.incidentFreezes.filter fun freeze => freeze.liftedAt = none).map
      fun freeze => "incident:" ++ freeze.scopeId) ++
    (state.indicatorFreezes.filter fun freeze => freeze.liftedAt = none).map
      fun freeze => "sli:" ++ freeze.scopeId)

/-- `liki_restrict_safety_mutation`: an owner or an operator changes nothing of a
proposal but its decision, and its status to VETOED only. -/
def restrictSafetyMutation (actor : Identity) (old new : ProposalRow) : Except ServiceError Unit :=
  refuseIf (actor.role ∈ [Role.owner, .operator] ∧
      ({ new with ownerDecision := none, status := .vetoed } ≠
          { old with ownerDecision := none, status := .vetoed } ∨
        (new.status ≠ old.status ∧ new.status ≠ .vetoed)))
    (.constraint "OWNER_CANNOT_PROMOTE_POLICY_DIRECTLY")

/-- `UPDATE governance_proposals`, behind its triggers. -/
def updateProposal (state : GovernanceState) (actor : Identity) (row : ProposalRow)
    (change : ProposalRow → ProposalRow) : Except ServiceError GovernanceState := do
  state.guardPromotionFreeze (.proposal (change row).status)
  restrictSafetyMutation actor row (change row)
  return { state with
    proposals := update ProposalRow.proposalId row.proposalId change state.proposals }

/-- `INSERT INTO governance_proposals ... ON CONFLICT(proposal_id) DO NOTHING`. -/
def insertProposal (state : GovernanceState) (row : ProposalRow) :
    Except ServiceError GovernanceState := do
  state.guardPromotionFreeze (.proposal row.status)
  match state.findProposal row.proposalId with
  | some _ => return state
  | none => return { state with proposals := state.proposals ++ [row] }

def transition (state : GovernanceState) (actor : Identity) (capability : Capability)
    (operationKey : String) (request : GovernanceTransition) (topic : Option String) :
    Except ServiceError (ℕ × GovernanceState) := do
  actor.requires capability
  refuseIf (operationKey = "") (.domain "INVALID_TRANSITION")
  let store ← state.store.transition actor capability operationKey request topic
  return (store.events.findIdx fun event => event.operationKey = operationKey, { state with store })

def updateIncident (state : GovernanceState) (after : Incident) : GovernanceState :=
  { state with
    incidents := update (fun incident : Incident => incident.incidentId) after.incidentId
      (fun _ => after) state.incidents }

/-- `notify`. -/
def notify (state : GovernanceState) (readings : Readings) (actor : Identity)
    (notification : Notification) : Except ServiceError (String × GovernanceState) := do
  actor.requires .notification
  match find (fun row : NotificationRow => row.notification.deduplicationKey)
      notification.deduplicationKey state.notifications with
  | some previous =>
    refuseIf (previous.notification ≠ notification) (.domain "IDEMPOTENCY_CONFLICT")
    return (previous.notificationId, state)
  | none =>
    let (_, state) ← state.transition actor .notification ("notify:" ++ notification.deduplicationKey)
      { kind := "notification", aggregateId := readings.uid, expectedVersion := 0,
        state := .notification notification, eventType := "NOTIFICATION_QUEUED",
        principalId := actor.principalId,
        taskId := (notification.objectId.filter fun objectId => objectId ≠ "").getD readings.uid,
        policyVersion := "notification-v1", evidenceIds := [], artifactIds := [], metadata := none }
      (some "telegram.notification")
    refuseIf (∃ row ∈ state.notifications, row.notificationId = readings.uid)
      (.constraint "notification_id")
    return (readings.uid, { state with
      notifications := state.notifications ++ [⟨readings.uid, notification⟩] })

end GovernanceState

end Liki.Governance
