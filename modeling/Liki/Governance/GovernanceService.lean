import Liki.Governance.Tables

/-! The governance service. Every operation is one transaction behind the advisory
lock, so it is a function from the tables to an answer and new tables; a refused
operation is rolled back. What an operation reads from outside, its readings, is an
argument. -/
namespace Liki.Governance
open Checks GovernanceState KeyedRows

inductive GovernanceAnswer where
  | event (eventId : ℕ)
  | classification (classification : Classification)
  | delivery (delivery : OwnerDelivery)
  | decision (decision : OwnerDecision)
  | status (status : ProposalStatus)
  | incident (incident : Incident)
  | notification (notificationId : Option String)
  | artifact (artifactId : ℕ)
  | done
  deriving DecidableEq

/-- What an operation makes of the tables. -/
abbrev Outcome := Except ServiceError (GovernanceAnswer × GovernanceState)

variable (deployment : Deployment) (readings : Readings)

def proposalRequest (actor : Identity) (proposalId : String) (expectedVersion : ℕ)
    (after : GovernanceAggregate) (eventType policyVersion : String) (artifactIds : List ℕ)
    (metadata : Option GovernanceMetadata) : GovernanceTransition where
  kind := "governance_proposal"
  aggregateId := proposalId
  expectedVersion := expectedVersion
  state := after
  eventType := eventType
  principalId := actor.principalId
  taskId := "governance:" ++ proposalId
  policyVersion := policyVersion
  evidenceIds := []
  artifactIds := artifactIds
  metadata := metadata

def policyRequest (actor : Identity) (policyId policyVersion : String) (expectedVersion : ℕ)
    (status : PolicyStatus) (eventType task authority : String) (artifactId : ℕ) :
    GovernanceTransition where
  kind := "policy_version"
  aggregateId := policyId ++ ":" ++ policyVersion
  expectedVersion := expectedVersion
  state := .policy status policyId policyVersion
  eventType := eventType
  principalId := actor.principalId
  taskId := "governance:" ++ task
  policyVersion := authority
  evidenceIds := []
  artifactIds := [artifactId]
  metadata := none

def incidentRequest (actor : Identity) (incidentId : String) (expectedVersion : ℕ)
    (after : GovernanceAggregate) (eventType policyVersion : String) (artifactIds : List ℕ)
    (metadata : Option GovernanceMetadata) : GovernanceTransition where
  kind := "incident"
  aggregateId := incidentId
  expectedVersion := expectedVersion
  state := after
  eventType := eventType
  principalId := actor.principalId
  taskId := "incident:" ++ incidentId
  policyVersion := policyVersion
  evidenceIds := []
  artifactIds := artifactIds
  metadata := metadata

/-- `_require_effective_policy`. -/
def requireEffectivePolicy (state : GovernanceState) (policy : GovernancePolicy) :
    Except ServiceError Unit :=
  refuseIf (¬∃ row ∈ state.findPolicy policy.policyId policy.policyVersion,
    row.status = .effective ∧ row.contentHash = policy.contentHash) (.domain "POLICY_NOT_EFFECTIVE")

/-- `UPDATE policy_versions SET status='RETIRED' WHERE policy_id=... AND status='EFFECTIVE'`. -/
def GovernanceState.retirePolicy (state : GovernanceState) (policyId : String) : GovernanceState :=
  { state with
    policies := state.policies.map fun row =>
      if row.policyId = policyId ∧ row.status = .effective then { row with status := .retired }
      else row }

def GovernanceState.makeEffective (state : GovernanceState) (policyId policyVersion : String) :
    Except ServiceError GovernanceState := do
  let retired := state.retirePolicy policyId
  retired.guardPromotionFreeze (.policy .effective)
  return { retired with
    policies := update PolicyRow.key (policyId, policyVersion)
      (fun row => { row with status := .effective }) retired.policies }

/-- `INSERT INTO policy_versions ... ON CONFLICT(policy_id,policy_version) DO NOTHING`. -/
def GovernanceState.insertPolicy (state : GovernanceState) (row : PolicyRow) :
    Except ServiceError GovernanceState := do
  state.guardPromotionFreeze (.policy row.status)
  match state.findPolicy row.policyId row.policyVersion with
  | some _ => return state
  | none =>
    refuseIf (∃ other ∈ state.policies, other.policyId = row.policyId ∧
      other.contentHash = row.contentHash) (.constraint "policy_id,content_hash")
    return { state with policies := state.policies ++ [row] }

def registeredStatus (effective : Bool) : PolicyStatus := if effective then .effective else .draft

def registerPolicy (state : GovernanceState) (actor : Identity) (policy : GovernancePolicy)
    (policyArtifact : ArtifactProvenance) (operationKey : String) (effective : Bool) : Outcome := do
  actor.requires .policy
  let _ ← state.artifact deployment policyArtifact (some "governance/policy-version/v1") [.governance]
    [("policy_id", .text policy.policyId), ("policy_version", .text policy.policyVersion),
      ("content_hash", .text policy.contentHash)]
  let (eventId, state) ← state.transition actor .policy operationKey
    (policyRequest actor policy.policyId policy.policyVersion 0 (registeredStatus effective)
      "POLICY_REGISTERED" policy.policyId policy.policyVersion policyArtifact.artifactId) none
  refuseIf (effective ∧ (state.effectivePolicy policy.policyId).isSome)
    (.domain "POLICY_ACTIVATION_REQUIRES_GOVERNANCE")
  let state ← state.insertPolicy ⟨policy.policyId, policy.policyVersion, policy.contentHash,
    registeredStatus effective, policyArtifact.artifactId⟩
  return (.event eventId, state)

def activatePolicy (state : GovernanceState) (actor : Identity) (policyId policyVersion : String)
    (proposalId : String) (expectedVersion : ℕ) (operationKey : String) : Outcome := do
  actor.requires .policy
  let current ← expect (state.effectivePolicy policyId) (.domain "POLICY_DEPLOYMENT_NOT_AUTHORIZED")
  let target ← expect ((state.findPolicy policyId policyVersion).filter fun row =>
    row.status = .draft) (.domain "POLICY_DEPLOYMENT_NOT_AUTHORIZED")
  let proposal ← expect ((state.findProposal proposalId).filter fun row => row.status = .promoted)
    (.domain "POLICY_DEPLOYMENT_NOT_AUTHORIZED")
  let classification ← expect proposal.classification (.value "Input should be a valid dictionary")
  refuseIf (classification.policyVersion ≠ current.policyVersion)
    (.domain "POLICY_SELF_APPROVAL_FORBIDDEN")
  let (eventId, state) ← state.transition actor .policy operationKey
    (policyRequest actor policyId policyVersion expectedVersion .effective "POLICY_ACTIVATED"
      proposalId current.policyVersion target.policyArtifactId) none
  let state ← state.makeEffective policyId policyVersion
  return (.event eventId, state)

def rollbackPolicy (state : GovernanceState) (actor : Identity) (policyId rollbackToVersion : String)
    (expectedVersion : ℕ) (operationKey : String) : Outcome := do
  actor.requires .policy
  let current ← expect (state.effectivePolicy policyId) (.domain "ROLLBACK_TARGET_UNAVAILABLE")
  let target ← expect ((state.findPolicy policyId rollbackToVersion).filter fun row =>
    row.status = .retired) (.domain "ROLLBACK_TARGET_UNAVAILABLE")
  let (eventId, state) ← state.transition actor .policy operationKey
    (policyRequest actor policyId rollbackToVersion expectedVersion .effective "POLICY_ROLLED_BACK"
      policyId current.policyVersion target.policyArtifactId) none
  let state ← state.makeEffective policyId rollbackToVersion
  return (.event eventId, state)

def propose (state : GovernanceState) (actor : Identity) (proposal : GovernanceProposal)
    (operationKey policyVersion : String) : Outcome := do
  actor.requires .proposal
  refuseIf (proposal.authoredBy ≠ actor.principalId) (.domain "FORGED_PROPOSAL_AUTHOR")
  let artifactIds ← state.artifacts deployment
    ((proposal.evidence ++ proposal.counterevidence).map EvidenceReference.artifact)
  let (eventId, state) ← state.transition actor .proposal operationKey
    (proposalRequest actor proposal.proposalId 0
      (.proposal proposal.status (some proposal.proposalVersion)) "GOVERNANCE_PROPOSED" policyVersion
      artifactIds none) none
  let state ← state.insertProposal ⟨proposal, none, .empty, none, none, none, proposal.status⟩
  return (.event eventId, state)

def classify (state : GovernanceState) (actor : Identity) (proposalId : String)
    (policy : GovernancePolicy) (expectedVersion : ℕ) (operationKey : String) : Outcome := do
  actor.requires .policy
  requireEffectivePolicy state policy
  let row ← expect (state.findProposal proposalId) (.domain "UNKNOWN_PROPOSAL")
  let classification ← classifyProposal row.proposal policy actor.principalId readings.now
  let (_, state) ← state.transition actor .policy operationKey
    (proposalRequest actor proposalId expectedVersion
      (.proposal .classified (some row.package.proposalVersion)) "GOVERNANCE_CLASSIFIED"
      policy.policyVersion [] (some (.classified classification))) none
  let state ← state.updateProposal actor row fun row =>
    { row with classification := some classification, status := .classified }
  return (.classification classification, state)

/-- `INSERT INTO governance_reviews ... ON CONFLICT(council_review_id) DO NOTHING`. -/
def GovernanceState.insertReview (state : GovernanceState) (review : GovernanceReview) :
    GovernanceState :=
  if ∃ other ∈ state.reviews, other.councilReviewId = review.councilReviewId then state
  else { state with reviews := state.reviews ++ [review] }

def recordReview (state : GovernanceState) (actor : Identity) (review : GovernanceReview)
    (evidenceManifest : ArtifactProvenance) (expectedVersion : ℕ)
    (operationKey policyVersion : String) : Outcome := do
  actor.requires .proposal
  refuseIf (review.reviewerPrincipal ≠ actor.principalId) (.domain "FORGED_REVIEWER")
  let row ← expect (state.findProposal review.proposalId) (.domain "UNKNOWN_PROPOSAL")
  refuseIf (row.package.authoredBy = actor.principalId) (.domain "SELF_CERTIFICATION")
  let _ ← state.artifact deployment evidenceManifest (some "governance/evidence-manifest/v1") [] []
  refuseIf (evidenceManifest.contentHash ≠ review.evidenceManifestHash)
    (.domain "FORGED_EVIDENCE_MANIFEST")
  let artifactIds ← state.artifacts deployment review.inspectedEvidence
  let (eventId, state) ← state.transition actor .proposal operationKey
    (proposalRequest actor review.proposalId expectedVersion
      (.proposal .reviewing (some row.package.proposalVersion)) "GOVERNANCE_REVIEW_RECORDED"
      policyVersion (evidenceManifest.artifactId :: artifactIds) none) none
  let state ← (state.insertReview review).updateProposal actor row fun row =>
    { row with status := .reviewing }
  return (.event eventId, state)

/-- `_lifecycle_checks`: the same check is not listed twice in a phase. -/
def lifecycleChecks (lifecycle : LifecycleEvidence) :
    Except ServiceError (List (Phase × AutomatedCheck)) := do
  refuseIf (¬(lifecycle.phased.map fun phased => (phased.1, phased.2.checkId)).Nodup)
    (.domain "DUPLICATE_LIFECYCLE_CHECK")
  return lifecycle.phased

/-- The latest recorded failure of the proposal at or after an instant. -/
def GovernanceState.failedAt (state : GovernanceState) (proposalId : String) (since : Time) :
    Option Time :=
  ((state.outcomes.filter fun outcome => outcome.proposalId = proposalId ∧
    outcome.result = .fail ∧ since ≤ outcome.executedAt).map LifecycleOutcome.executedAt).max?

/-- `_requires_fresh_revalidation`. -/
def requiresFreshRevalidation (state : GovernanceState) (proposalId : String)
    (lifecycle : LifecycleEvidence) : Prop :=
  ∃ row ∈ state.findProposal proposalId, ∃ delivery ∈ row.ownerDelivery,
    ∃ failedAt ∈ state.failedAt proposalId delivery.deliveredAt,
      ∃ check ∈ lifecycle.checks, check.executedAt ≤ failedAt

instance (state : GovernanceState) (proposalId : String) (lifecycle : LifecycleEvidence) :
    Decidable (requiresFreshRevalidation state proposalId lifecycle) := by
  unfold requiresFreshRevalidation
  infer_instance

/-- How far the evidence has come. -/
def LifecycleEvidence.stage (lifecycle : LifecycleEvidence) : ProposalStatus :=
  if lifecycle.hasFailure then .frozen
  else if lifecycle.canary ≠ [] then .canary
  else if lifecycle.shadow ≠ [] then .shadow
  else if lifecycle.tests ≠ [] then .tested
  else .replayed

/-- The outcomes of one recording, in the order they are inserted. -/
def lifecycleOutcomes (eventId : ℕ) (proposalId : String)
    (checks : List (Phase × AutomatedCheck)) : List LifecycleOutcome :=
  checks.map fun phased =>
    ⟨eventId, proposalId, phased.1, phased.2.checkId, phased.2.result, phased.2.executedAt⟩

/-- `INSERT INTO governance_lifecycle_outcomes` for each of the outcomes. -/
def GovernanceState.insertOutcomes (state : GovernanceState) (outcomes : List LifecycleOutcome) :
    Except ServiceError GovernanceState := do
  refuseIf (¬((state.outcomes ++ outcomes).map LifecycleOutcome.key).Nodup)
    (.constraint "lifecycle_event_id,phase,check_id")
  return { state with outcomes := state.outcomes ++ outcomes }

def recordLifecycle (state : GovernanceState) (actor : Identity) (proposalId : String)
    (lifecycle : LifecycleEvidence) (expectedVersion : ℕ) (operationKey policyVersion : String) :
    Outcome := do
  actor.requires .policy
  let row ← expect (state.findProposal proposalId) (.domain "UNKNOWN_PROPOSAL")
  let checks ← lifecycleChecks lifecycle
  let artifactIds ← state.lifecycle deployment lifecycle
  refuseIf (¬lifecycle.hasFailure ∧ requiresFreshRevalidation state proposalId lifecycle)
    (.domain "REVALIDATION_REQUIRES_FRESH_EVIDENCE")
  let (eventId, state) ← state.transition actor .policy operationKey
    (proposalRequest actor proposalId expectedVersion (.proposal lifecycle.stage none)
      "GOVERNANCE_LIFECYCLE_EVIDENCE" policyVersion artifactIds (some (.lifecycle lifecycle))) none
  let state ← state.insertOutcomes (lifecycleOutcomes eventId proposalId checks)
  let state ← state.updateProposal actor row fun row =>
    { row with lifecycle, status := lifecycle.stage }
  return (.event eventId, state)

def recordSynthesis (state : GovernanceState) (actor : Identity) (synthesis : SynthesisRecord)
    (expectedVersion : ℕ) (operationKey policyVersion : String) : Outcome := do
  actor.requires .proposal
  let row ← expect (state.findProposal synthesis.proposalId) (.domain "UNKNOWN_PROPOSAL")
  refuseIf (synthesis.synthesizedBy ≠ actor.principalId) (.domain "FORGED_SYNTHESIS_AUTHOR")
  let artifactId ← state.verified deployment synthesis.synthesisArtifact
  let (eventId, state) ← state.transition actor .proposal operationKey
    (proposalRequest actor synthesis.proposalId expectedVersion (.proposal .canary none)
      "GOVERNANCE_SYNTHESIZED" policyVersion [artifactId] none) none
  let state ← state.updateProposal actor row fun row =>
    { row with synthesis := some synthesis, status := .canary }
  return (.event eventId, state)

/-- `_latest_lifecycle_event`. -/
def GovernanceState.latestLifecycleEvent (state : GovernanceState) (proposalId : String)
    (lifecycle : LifecycleEvidence) : Except ServiceError ℕ := do
  let (event, eventId) ← expect (state.store.events.zipIdx.reverse.find? fun (event, _) =>
      event.request.kind = "governance_proposal" ∧ event.request.aggregateId = proposalId ∧
        event.request.eventType = "GOVERNANCE_LIFECYCLE_EVIDENCE")
    (.domain "LIFECYCLE_EVIDENCE_NOT_DURABLE")
  refuseIf (event.request.metadata ≠ some (.lifecycle lifecycle))
    (.domain "LIFECYCLE_EVIDENCE_NOT_DURABLE")
  return eventId

/-- The evidence is verified again, complete and the latest that was recorded. -/
def passingLifecycle (state : GovernanceState) (proposalId : String) (row : ProposalRow) :
    Except ServiceError ℕ := do
  let _ ← state.lifecycle deployment row.lifecycle
  refuseIf (row.lifecycle.tests = [] ∨ row.lifecycle.hasFailure)
    (.domain "AUTOMATED_CHECKS_NOT_PASSING")
  state.latestLifecycleEvent proposalId row.lifecycle

def ownerNotification (row : ProposalRow) (proposalId channel : String) (lifecycleEventId : ℕ)
    (title message : JsonValue) : Notification where
  deduplicationKey := s!"governance-owner-decision:{proposalId}:{row.package.proposalVersion}:" ++
    s!"EVT-{lifecycleEventId}"
  urgency := if row.package.declaredClass = .red then "CRITICAL" else "HIGH"
  recipientRef := channel
  title := title
  message := message
  requiredAction := some "APPROVE or VETO"
  objectId := some proposalId

def ownerDeliveryService (actor : Identity) : Except ServiceError Unit := do
  actor.requires .proposal
  refuseIf (actor.role ≠ .governance) (.domain "OWNER_DELIVERY_SERVICE_ONLY")

def queueOwnerNotification (state : GovernanceState) (actor : Identity) (proposalId channel : String)
    (notificationPackage : ArtifactProvenance) (expectedVersion : ℕ)
    (operationKey policyVersion : String) : Outcome := do
  ownerDeliveryService actor
  let row ← expect (state.findProposal proposalId) (.domain "UNKNOWN_PROPOSAL")
  let lifecycleEventId ← passingLifecycle deployment state proposalId row
  let package ← state.artifact deployment notificationPackage
    (some "governance/owner-notification-package/v1") [.governance]
    [("proposal_id", .text proposalId), ("channel", .text channel),
      ("lifecycle_snapshot_hash", .lifecycleHash row.lifecycle)]
  let title ← expect ((package.content.get "title").bind JsonValue.stripped)
    (.domain "OWNER_NOTIFICATION_PACKAGE_INCOMPLETE")
  let message ← expect ((package.content.get "message").bind JsonValue.stripped)
    (.domain "OWNER_NOTIFICATION_PACKAGE_INCOMPLETE")
  let (notificationId, state) ← state.notify readings actor
    (ownerNotification row proposalId channel lifecycleEventId title message)
  let (eventId, state) ← state.transition actor .proposal operationKey
    (proposalRequest actor proposalId expectedVersion (.proposal row.status none)
      "OWNER_NOTIFICATION_QUEUED" policyVersion [notificationPackage.artifactId]
      (some (.queued channel notificationId row.lifecycle lifecycleEventId))) none
  let state ← state.updateProposal actor row fun row =>
    { row with package := { row.proposal with completeEvidenceAt := some readings.now } }
  return (.event eventId, state)

def GovernanceState.queuedNotification (state : GovernanceState) (proposalId channel : String)
    (lifecycle : LifecycleEvidence) (lifecycleEventId : ℕ) : Option String :=
  state.store.events.reverse.findSome? fun event =>
    if event.request.kind = "governance_proposal" ∧ event.request.aggregateId = proposalId ∧
        event.request.eventType = "OWNER_NOTIFICATION_QUEUED" then
      match event.request.metadata with
      | some (.queued queuedChannel notificationId queuedLifecycle queuedEventId) =>
        if (queuedChannel, queuedLifecycle, queuedEventId) = (channel, lifecycle, lifecycleEventId) then
          some notificationId
        else none
      | _ => none
    else none

def GovernanceState.receipt (state : GovernanceState) (notificationId channel proposalId : String) :
    Option DeliveryRow :=
  state.deliveries.find? fun delivery => delivery.notificationId = notificationId ∧
    ∃ row ∈ state.notifications, row.notificationId = notificationId ∧
      row.notification.recipientRef = channel ∧ row.notification.objectId = some proposalId

def deliveredPackage (proposal : GovernanceProposal) (deliveredAt : Time) : GovernanceProposal :=
  { proposal with
    ownerNotificationDeliveredAt := some deliveredAt
    promotionEligibleAt := some (deliveredAt + day) }

def recordOwnerDelivery (state : GovernanceState) (actor : Identity) (proposalId channel : String)
    (expectedVersion : ℕ) (operationKey policyVersion : String) : Outcome := do
  ownerDeliveryService actor
  let row ← expect (state.findProposal proposalId) (.domain "UNKNOWN_PROPOSAL")
  let lifecycleEventId ← passingLifecycle deployment state proposalId row
  let notificationId ← expect
    ((state.queuedNotification proposalId channel row.lifecycle lifecycleEventId).filter (· ≠ ""))
    (.domain "OWNER_NOTIFICATION_NOT_QUEUED")
  let receipt ← expect (state.receipt notificationId channel proposalId)
    (.domain "OWNER_DELIVERY_UNCONFIRMED")
  refuseIf (¬∃ completed ∈ row.package.completeEvidenceAt, completed ≤ receipt.deliveredAt)
    (.domain "OWNER_DELIVERY_BEFORE_COMPLETE_EVIDENCE")
  let delivered : OwnerDelivery := ⟨channel, notificationId, receipt.providerMessageId,
    receipt.deliveredAt, row.lifecycle⟩
  let (_, state) ← state.transition actor .proposal operationKey
    (proposalRequest actor proposalId expectedVersion (.proposal row.status none)
      "OWNER_NOTIFICATION_DELIVERED" policyVersion []
      (some (.delivered notificationId receipt.providerMessageId row.lifecycle))) none
  let state ← state.updateProposal actor row fun row =>
    { row with
      package := deliveredPackage row.proposal receipt.deliveredAt
      ownerDelivery := some delivered }
  return (.delivery delivered, state)

inductive OwnerVerdict where
  | approve | veto
  deriving DecidableEq

def OwnerVerdict.value : OwnerVerdict → String
  | .approve => "APPROVE"
  | .veto => "VETO"

def attestationContent (row : ProposalRow) (actor : Identity) (proposalId : String)
    (verdict : OwnerVerdict) (reason : String) (expectedVersion : ℕ)
    (operationKey policyVersion : String) : Fields :=
  [("attestation_kind", .text "governance-owner-decision/v1"),
    ("attestation_service", .text "governance-service"),
    ("server_environment_fingerprint", .text readings.fingerprint),
    ("proposal_id", .text proposalId), ("proposal_version", .data (toString row.package.proposalVersion)),
    ("owner_principal", .text actor.principalId), ("decision", .text verdict.value),
    ("reason", .text (strip reason)), ("expected_version", .data (toString expectedVersion)),
    ("operation_key", .text operationKey), ("policy_version", .text policyVersion),
    ("decided_at_utc", .text (deployment.isoFormat readings.now))]

/-- `INSERT INTO artifacts`, with the id of the new row. -/
def GovernanceState.insertArtifact (state : GovernanceState)
    (artifact : Artifact ArtifactContent) : Except ServiceError (ℕ × GovernanceState) := do
  refuseIf (∃ other ∈ state.store.artifacts, other.producerId = artifact.producerId ∧
      other.content.contentHash = artifact.content.contentHash ∧
      other.schemaName = artifact.schemaName)
    (.constraint "producer_id,content_hash,schema_name")
  return (state.store.artifacts.length, { state with
    store := { state.store with artifacts := state.store.artifacts ++ [artifact] } })

def Deployment.codeFingerprint (actor : Identity) : String :=
  ((find Principal.principalId actor.principalId deployment.principals).map
    Principal.codeFingerprint).getD ""

def ownerDecision (actor : Identity) (proposalId : String) (verdict : OwnerVerdict)
    (attestationId : ℕ) (attestation : Fields) : OwnerDecision where
  proposalId := proposalId
  ownerPrincipal := actor.principalId
  approved := verdict = .approve
  vetoed := verdict = .veto
  decisionArtifact := ⟨attestationId, deployment.contentHash attestation, actor.principalId,
    readings.fingerprint, deployment.codeFingerprint actor, "INTERNAL"⟩
  decidedAt := readings.now
  one_decision := by cases verdict <;> rfl

def decidedStatus (decision : OwnerDecision) (row : ProposalRow) : ProposalStatus :=
  if decision.vetoed then .vetoed else row.status

def GovernanceMetadata.decision? : GovernanceMetadata → Option (String × ℕ × String)
  | .decided reason expectedVersion policyVersion _ => some (reason, expectedVersion, policyVersion)
  | _ => none

def sameDecision (event : GovernanceEvent) (actor : Identity) (proposalId : String)
    (verdict : OwnerVerdict) (reason : String) (expectedVersion : ℕ) (policyVersion : String) : Prop :=
  event.request.eventType = "OWNER_" ++ verdict.value ∧
    event.request.principalId = actor.principalId ∧ event.request.aggregateId = proposalId ∧
    event.request.metadata.bind GovernanceMetadata.decision? =
      some (strip reason, expectedVersion, policyVersion)

instance (event : GovernanceEvent) (actor : Identity) (proposalId : String) (verdict : OwnerVerdict)
    (reason : String) (expectedVersion : ℕ) (policyVersion : String) :
    Decidable (sameDecision event actor proposalId verdict reason expectedVersion policyVersion) :=
  inferInstanceAs (Decidable (_ ∧ _ ∧ _ ∧ _))

def decide (state : GovernanceState) (actor : Identity) (proposalId : String) (verdict : OwnerVerdict)
    (reason : String) (expectedVersion : ℕ) (operationKey policyVersion : String) : Outcome := do
  actor.requires .ownerDecision
  refuseIf (actor.role ≠ .owner) (.domain "OWNER_AUTH_REQUIRED")
  refuseIf (proposalId = "" ∨ operationKey = "" ∨ policyVersion = "" ∨ blank reason)
    (.domain "INVALID_OWNER_DECISION_REQUEST")
  match state.findEvent operationKey with
  | some existing =>
    refuseIf (¬sameDecision existing actor proposalId verdict reason expectedVersion policyVersion)
      (.domain "IDEMPOTENCY_CONFLICT")
    let persisted ← expect ((state.findProposal proposalId).bind ProposalRow.ownerDecision)
      (.domain "OWNER_DECISION_REPLAY_INCONSISTENT")
    return (.decision persisted, state)
  | none =>
    let row ← expect (state.findProposal proposalId) (.domain "UNKNOWN_PROPOSAL")
    refuseIf (row.ownerDecision ≠ none) (.domain "OWNER_DECISION_ALREADY_RECORDED")
    let attestation := attestationContent deployment readings row actor proposalId verdict reason
      expectedVersion operationKey policyVersion
    let (attestationId, state) ← state.insertArtifact
      ⟨⟨attestation, deployment.contentHash attestation, readings.fingerprint⟩,
        "governance/server-owner-decision-attestation/v1", .internal, actor.principalId, policyVersion⟩
    let result := ownerDecision deployment readings actor proposalId verdict attestationId attestation
    let (_, state) ← state.transition actor .ownerDecision operationKey
      (proposalRequest actor proposalId expectedVersion (.proposal (decidedStatus result row) none)
        ("OWNER_" ++ verdict.value) policyVersion [attestationId]
        (some (.decided (strip reason) expectedVersion policyVersion row.package.proposalVersion))) none
    let state ← state.updateProposal actor row fun row =>
      { row with ownerDecision := some result, status := decidedStatus result row }
    return (.decision result, state)

def GovernanceState.knownIncidents (state : GovernanceState) (proposal : GovernanceProposal) :
    List String :=
  (state.incidents.filter fun incident => incident.status.unresolved ∧
    ∃ scope ∈ proposal.affectedModules ++ proposal.affectedPaths,
      scope ∈ incident.affectedModules).map fun incident => incident.incidentId

def GovernanceState.currentDependency (state : GovernanceState) (dependency : SnapshotDependency) :
    Except ServiceError SnapshotDependency := do
  let row ← expect (state.effectivePolicy dependency.scope) (.domain "POLICY_DEPENDENCY_NOT_REGISTERED")
  return ⟨dependency.scope, row.policyVersion, row.contentHash⟩

/-- `_current_snapshot`. -/
def GovernanceState.currentSnapshot (state : GovernanceState) (proposal : GovernanceProposal) :
    Except ServiceError ApprovalSnapshot := do
  let dependencies ← proposal.approvalSnapshot.dependencies.mapM state.currentDependency
  return ⟨dependencies, state.knownIncidents proposal, proposal.approvalSnapshot.evidenceHashes⟩

def GovernanceState.namedChangeSet (state : GovernanceState) (changeSetId : Option String) :
    Except ServiceError (Option ChangeSet) :=
  match changeSetId.filter fun changeSetId => changeSetId ≠ "" with
  | none => .ok none
  | some changeSetId => do
    let changeSet ← expect (find ChangeSet.changeSetId changeSetId state.changeSets)
      (.domain "UNKNOWN_CHANGE_SET")
    let _ ← state.artifacts deployment changeSet.interactionTestArtifacts
    let _ ← changeSet.interactionTests.mapM (state.check deployment)
    return some changeSet

/-- What an evaluation of the row looks at. -/
def GovernanceState.promotionCase (state : GovernanceState) (row : ProposalRow)
    (classification : Classification) (currentSnapshot : ApprovalSnapshot)
    (changeSet : Option ChangeSet) : PromotionCase where
  proposal := row.proposal
  classification := classification
  reviews := state.reviews.filter fun review => review.proposalId = row.proposalId
  lifecycle := row.lifecycle
  currentSnapshot := currentSnapshot
  now := readings.now
  synthesis := row.synthesis
  ownerDelivery := row.ownerDelivery
  ownerDecision := row.ownerDecision
  relevantIncidents := state.incidents.filter fun incident => incident.status.unresolved
  changeSet := changeSet

def evaluate (state : GovernanceState) (actor : Identity) (proposalId : String)
    (expectedVersion : ℕ) (operationKey policyVersion : String) (changeSetId : Option String) :
    Outcome := do
  actor.requires .policy
  let row ← expect (state.findProposal proposalId) (.domain "PROPOSAL_NOT_CLASSIFIED")
  let classification ← expect row.classification (.domain "PROPOSAL_NOT_CLASSIFIED")
  let changeSet ← state.namedChangeSet deployment changeSetId
  let snapshot ← state.currentSnapshot row.proposal
  let result := evaluatePromotion (state.promotionCase readings row classification snapshot changeSet)
  let artifactIds ← state.lifecycle deployment row.lifecycle
  let (_, state) ← state.transition actor .policy operationKey
    (proposalRequest actor proposalId expectedVersion (.proposal result none)
      "GOVERNANCE_REVALIDATED" policyVersion artifactIds (some (.revalidated snapshot.snapshotHash))) none
  let state ← state.updateProposal actor row fun row => { row with status := result }
  return (.status result, state)

def recordChangeSet (state : GovernanceState) (actor : Identity) (changeSet : ChangeSet)
    (expectedVersion : ℕ) (operationKey policyVersion : String) : Outcome := do
  actor.requires .policy
  let artifactIds ← state.artifacts deployment changeSet.interactionTestArtifacts
  let checkIds ← changeSet.interactionTests.mapM (state.check deployment)
  let (eventId, state) ← state.transition actor .policy operationKey
    { kind := "governance_change_set", aggregateId := changeSet.changeSetId, expectedVersion,
      state := .changeSet changeSet.state, eventType := "GOVERNANCE_CHANGE_SET_RECORDED",
      principalId := actor.principalId,
      taskId := "governance-change-set:" ++ changeSet.changeSetId, policyVersion, evidenceIds := [],
      artifactIds := artifactIds ++ checkIds, metadata := none } none
  match find ChangeSet.changeSetId changeSet.changeSetId state.changeSets with
  | some _ => return (.event eventId, state)
  | none => return (.event eventId, { state with changeSets := state.changeSets ++ [changeSet] })

/-- `INSERT INTO incidents`. -/
def GovernanceState.insertIncident (state : GovernanceState) (incident : Incident) :
    Except ServiceError GovernanceState := do
  refuseIf ((state.findIncident incident.incidentId).isSome) (.constraint "incident_id")
  return { state with incidents := state.incidents ++ [incident] }

/-- `INSERT INTO incident_events`. -/
def GovernanceState.insertIncidentEvent (state : GovernanceState) (incidentId : String)
    (eventId : ℕ) : Except ServiceError GovernanceState := do
  refuseIf ((incidentId, eventId) ∈ state.incidentEvents) (.constraint "incident_id,event_id")
  return { state with incidentEvents := state.incidentEvents ++ [(incidentId, eventId)] }

def declareIncident (state : GovernanceState) (actor : Identity) (incident : Incident)
    (operationKey policyVersion : String) : Outcome := do
  actor.requires .incident
  refuseIf (incident.openedBy ≠ actor.principalId) (.domain "FORGED_INCIDENT_AUTHOR")
  let artifactIds ← state.artifacts deployment incident.evidence
  let (eventId, state) ← state.transition actor .incident operationKey
    (incidentRequest actor incident.incidentId 0 (.incident incident.status none) "INCIDENT_DECLARED"
      policyVersion artifactIds (some (.declared incident.severity incident.severity.material)))
    (some "governance.incident_notification.requested")
  let state ← state.insertIncident incident
  let state ← state.insertIncidentEvent incident.incidentId eventId
  return (.event eventId, state)

def Incident.references (incident : Incident) : List ArtifactProvenance :=
  incident.evidence ++ incident.reconciliationEvidence ++ (incident.rootCauseArtifact.toList ++
    incident.impactAssessmentArtifact.toList ++ incident.postmortemArtifact.toList)

def advanceIncident (state : GovernanceState) (actor : Identity) (incidentId : String)
    (toStatus : IncidentStatus) (expectedVersion : ℕ) (operationKey policyVersion : String)
    (details : IncidentDetails) : Outcome := do
  actor.requires .incident
  let current ← expect (state.findIncident incidentId) (.domain "UNKNOWN_INCIDENT")
  let nextIncident ← transitionIncident current toStatus readings.now details
  let artifactIds ← state.artifacts deployment nextIncident.references
  let (eventId, state) ← state.transition actor .incident operationKey
    (incidentRequest actor incidentId expectedVersion (.incident toStatus none)
      ("INCIDENT_" ++ toStatus.value) policyVersion artifactIds none) none
  let state ← (state.updateIncident nextIncident).insertIncidentEvent incidentId eventId
  return (.incident nextIncident, state)

end Liki.Governance
