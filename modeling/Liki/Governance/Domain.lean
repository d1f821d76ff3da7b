import Liki.Governance.Types

/-! The pure rules of governance: how a proposal is classified, what it takes to be
promoted, and which transitions proposals and incidents make. -/
namespace Liki.Governance
open Checks

/-- `path == prefix or path.startswith(prefix.rstrip("/") + "/")`. -/
def underPath (path pathPrefix : String) : Bool :=
  path = pathPrefix ∨
    ((pathPrefix.toList.reverse.dropWhile (· = '/')).reverse ++ ['/']).isPrefixOf path.toList

/-- Whether a control covers one of the paths or is named. -/
def ProtectedControl.matches (control : ProtectedControl) (paths controls : List String) : Bool :=
  control.controlId ∈ controls ∨
    ∃ path ∈ paths, ∃ pathPrefix ∈ control.pathPrefixes, underPath path pathPrefix

def GovernancePolicy.floorFor (policy : GovernancePolicy) (paths controls : List String) :
    ChangeClass × List String :=
  let matched := policy.protectedControls.filter fun control => control.matches paths controls
  (matched.foldl (fun floor control =>
    if floor.rank < control.minimumClass.rank then control.minimumClass else floor) .green,
    matched.map ProtectedControl.controlId)

/-- `classify_proposal`. A classifier may only escalate the floor. -/
def classifyProposal (proposal : GovernanceProposal) (policy : GovernancePolicy)
    (classifierPrincipal : String) (now : Time) : Except ServiceError Classification := do
  refuseIf (classifierPrincipal = proposal.authoredBy)
    (.value "proposal author cannot be the sole severity classifier")
  let matched := policy.floorFor proposal.affectedPaths proposal.protectedControls
  let floor := if proposal.realMoneyEnablement then .red else matched.1
  let controls := if proposal.realMoneyEnablement then matched.2 ++ ["real_money_enablement"]
    else matched.2
  let final := if floor.rank ≤ proposal.declaredClass.rank then proposal.declaredClass else floor
  return {
    proposalId := proposal.proposalId, policyId := policy.policyId,
    policyVersion := policy.policyVersion, classifierPrincipal, deterministicFloor := floor,
    finalClass := final, matchedControls := sortedNames controls.dedup,
    policyContentHash := policy.contentHash, classifiedAt := now,
    keeps_floor := by
      unfold final
      split
      · assumption
      · exact le_rfl }

/-- Everything `evaluate_promotion` looks at. -/
structure PromotionCase where
  proposal : GovernanceProposal
  classification : Classification
  reviews : List GovernanceReview
  lifecycle : LifecycleEvidence
  currentSnapshot : ApprovalSnapshot
  now : Time
  synthesis : Option SynthesisRecord
  ownerDelivery : Option OwnerDelivery
  ownerDecision : Option OwnerDecision
  relevantIncidents : List Incident
  changeSet : Option ChangeSet

def ChangeClass.requiredReviews : ChangeClass → ℕ
  | .green => 3
  | .amber => 5
  | .red => 7

/-- `"adversarial" in review.profile.reviewer_mandate.lower()`. -/
def GovernanceReview.adversarial (review : GovernanceReview) : Bool :=
  "adversarial".toList <:+: review.profile.reviewerMandate.toLower.toList

def GovernanceReview.correlationDomain (review : GovernanceReview) : String × String × String :=
  (review.profile.providerCorrelationDomain, review.profile.modelFamily, review.profile.modelVersion)

/-- The objection is neither refuted nor accepted with evidence. -/
def MaterialObjection.unresolved (objection : MaterialObjection) : Bool :=
  objection.disposition ∈ [.opened, .moreEvidence, .blocked]

/-- `_check_unique_independence`. -/
def uniqueIndependence (reviews : List GovernanceReview) : Prop :=
  (reviews.map fun review => review.profile.independenceGroupId).Nodup ∧
    (reviews.map fun review => review.profile.correlationFingerprint).Nodup

instance (reviews : List GovernanceReview) : Decidable (uniqueIndependence reviews) :=
  inferInstanceAs (Decidable (_ ∧ _))

/-- A reason that applies when a condition fails. -/
def reasonIf (bad : Prop) [Decidable bad] (reason : String) : List String :=
  if bad then [reason] else []

def separateSynthesis (given : PromotionCase) : Prop :=
  ∃ synthesis ∈ given.synthesis, synthesis.synthesizedBy ≠ given.proposal.authoredBy ∧
    synthesis.synthesizedBy ≠ given.classification.classifierPrincipal

instance (given : PromotionCase) : Decidable (separateSynthesis given) := by
  unfold separateSynthesis
  infer_instance

/-- `_requirements_met`: the reasons against a promotion. -/
def requirementsMet (given : PromotionCase) : List String :=
  let final := given.classification.finalClass
  let reviews := given.reviews
  let lifecycle := given.lifecycle
  reasonIf (reviews.length < final.requiredReviews)
      s!"requires {final.requiredReviews} independent blind reviews" ++
    reasonIf (∃ review ∈ reviews, review.proposalId ≠ given.proposal.proposalId)
      "review proposal mismatch" ++
    reasonIf (∃ review ∈ reviews, review.reviewerPrincipal = given.proposal.authoredBy)
      "proposal author cannot review own proposal" ++
    reasonIf (¬(reviews.map GovernanceReview.correlationDomain).Nodup ∧
        ¬∃ synthesis ∈ given.synthesis, synthesis.residualCorrelationLimitations ≠ [])
      "shared model correlation requires explicit synthesis disclosure" ++
    reasonIf (lifecycle.tests = [])
      "automated acceptance checks are required before owner timing or promotion" ++
    reasonIf lifecycle.hasFailure "lifecycle evidence contains a failed deterministic check" ++
    reasonIf (final ≠ .green ∧ ¬separateSynthesis given)
      "AMBER/RED synthesis must be separate from author and classifier" ++
    reasonIf (final ≠ .green ∧ (lifecycle.replay = [] ∨ lifecycle.tests = [] ∨ lifecycle.shadow = [] ∨
        lifecycle.canary = []))
      "AMBER/RED requires replay, tests, shadow, and canary evidence" ++
    reasonIf (final = .red ∧ (reviews.filter GovernanceReview.adversarial).length < 2)
      "RED requires two independent adversarial audits" ++
    reasonIf (final = .amber ∧ (reviews.filter GovernanceReview.adversarial).length < 1)
      "AMBER requires one independent adversarial audit" ++
    reasonIf (∃ review ∈ reviews, ∃ objection ∈ review.materialObjections, objection.unresolved)
      "material objections are unresolved; a majority cannot override them"

/-- `_incident_relevant`. -/
def incidentRelevant (incident : Incident) (proposal : GovernanceProposal) : Bool :=
  (∃ scope ∈ proposal.affectedModules ++ proposal.affectedPaths, scope ∈ incident.affectedModules) ∨
    incident.affectedPolicyVersions ≠ []

def ChangeSet.covers (changeSet : ChangeSet) (proposal : GovernanceProposal) : Prop :=
  proposal.proposalId ∈ changeSet.proposalIds ∧
    changeSet.approvalSnapshotHash = proposal.approvalSnapshot.snapshotHash ∧
    (1 < changeSet.proposalIds.length →
      changeSet.interactionTestArtifacts ≠ [] ∧ changeSet.interactionTests ≠ [])

instance (changeSet : ChangeSet) (proposal : GovernanceProposal) :
    Decidable (changeSet.covers proposal) :=
  inferInstanceAs (Decidable (_ ∧ _ ∧ _))

def day : Duration := 24 * 60 * 60 * 1000000

/-- `evaluate_promotion`. -/
def evaluatePromotion (given : PromotionCase) : ProposalStatus :=
  let proposal := given.proposal
  if given.classification.proposalId ≠ proposal.proposalId then .rejected
  else if ∃ decision ∈ given.ownerDecision, decision.proposalId ≠ proposal.proposalId then .rejected
  else if proposal.status = .vetoed ∨ ∃ decision ∈ given.ownerDecision, decision.vetoed then .vetoed
  else if proposal.realMoneyEnablement then .rejected
  else if ∃ incident ∈ given.relevantIncidents,
      incident.status.unresolved ∧ incidentRelevant incident proposal then .frozen
  else if proposal.approvalSnapshot.snapshotHash ≠ given.currentSnapshot.snapshotHash then
    .staleApproval
  else if ∃ changeSet ∈ given.changeSet, ¬changeSet.covers proposal then .staleApproval
  else if ¬uniqueIndependence given.reviews then .rejected
  else if ∃ delivery ∈ given.ownerDelivery, ∃ check ∈ given.lifecycle.checks,
      check.result = .fail ∧ delivery.deliveredAt ≤ check.executedAt then .frozen
  else if requirementsMet given ≠ [] then .reviewing
  else if given.classification.finalClass = .red then
    if ∃ decision ∈ given.ownerDecision, decision.approved then .promoted else .ready
  else match given.ownerDelivery with
    | none => .ready
    | some delivery =>
      if ¬∃ completed ∈ proposal.completeEvidenceAt, completed ≤ delivery.deliveredAt then .ready
      else if delivery.lifecycleSnapshot ≠ given.lifecycle then .ready
      else if ∃ check ∈ given.lifecycle.checks, delivery.deliveredAt < check.executedAt then .ready
      else if given.now < delivery.deliveredAt + day then .ready
      else .promoted

namespace ProposalStatus

def flow : ProposalStatus → List ProposalStatus
  | .proposed => [.classified]
  | .classified => [.reviewing]
  | .reviewing => [.replayed]
  | .replayed => [.tested]
  | .tested => [.shadow]
  | .shadow => [.canary]
  | .canary => [.ready]
  | .ready => [.promoted]
  | .promoted => [.monitoring, .rolledBack]
  | .monitoring => [.rolledBack]
  | .rolledBack | .vetoed | .frozen | .staleApproval | .rejected => []

def universal : List ProposalStatus := [.frozen, .staleApproval, .vetoed, .rejected]

end ProposalStatus

structure ProposalStateTransition where
  proposalId : String
  proposalVersion : ℕ
  stateBefore : ProposalStatus
  stateAfter : ProposalStatus
  stateVersionBefore : ℕ
  stateVersionAfter : ℕ
  actorPrincipal : String
  evidence : List ArtifactProvenance
  createdAt : Time
  serialized : stateVersionAfter = stateVersionBefore + 1

/-- `transition_proposal`. -/
def transitionProposal (proposal : GovernanceProposal) (stateVersion : ℕ) (toStatus : ProposalStatus)
    (actorPrincipal : String) (evidence : List ArtifactProvenance) (now : Time)
    (promotionEvaluation : Option ProposalStatus) : Except ServiceError ProposalStateTransition := do
  refuseIf (toStatus ∉ proposal.status.flow ++ ProposalStatus.universal)
    (.value s!"invalid proposal transition {proposal.status.value} -> {toStatus.value}")
  refuseIf (toStatus = .promoted ∧ promotionEvaluation ≠ some .promoted)
    (.value "promotion requires a fresh deterministic promotion evaluation")
  refuseIf (evidence = []) (.value "every proposal transition requires provenance-backed evidence")
  return ⟨proposal.proposalId, proposal.proposalVersion, proposal.status, toStatus, stateVersion,
    stateVersion + 1, actorPrincipal, evidence, now, rfl⟩

def IncidentStatus.successors : IncidentStatus → List IncidentStatus
  | .opened => [.contained]
  | .contained => [.reconciling]
  | .reconciling => [.resolved]
  | .resolved => [.closed, .opened]
  | .closed => []

/-- What a transition of an incident may bring. -/
structure IncidentDetails where
  containmentAction : Option String := none
  reconciliationEvidence : List ArtifactProvenance := []
  rootCauseArtifact : Option ArtifactProvenance := none
  impactAssessmentArtifact : Option ArtifactProvenance := none
  postmortemArtifact : Option ArtifactProvenance := none

/-- `containment_action or "contained"`. -/
def IncidentDetails.containment (details : IncidentDetails) : String :=
  (details.containmentAction.filter fun action => action ≠ "").getD "contained"

/-- The fields of an incident after a transition. -/
def IncidentData.moved (data : IncidentData) (toStatus : IncidentStatus) (now : Time)
    (details : IncidentDetails) : IncidentData :=
  let data := { data with status := toStatus, stateVersion := data.stateVersion + 1 }
  match toStatus with
  | .contained => { data with
      containedAt := some now
      containmentActions := data.containmentActions ++ [details.containment] }
  | .resolved => { data with
      resolvedAt := some now
      reconciliationEvidence := details.reconciliationEvidence
      rootCauseArtifact := details.rootCauseArtifact
      impactAssessmentArtifact := details.impactAssessmentArtifact }
  | .closed => { data with closedAt := some now, postmortemArtifact := details.postmortemArtifact }
  | .opened | .reconciling => data

/-- `transition_incident`. -/
def transitionIncident (incident : Incident) (toStatus : IncidentStatus) (now : Time)
    (details : IncidentDetails) : Except ServiceError Incident := do
  refuseIf (toStatus ∉ incident.status.successors)
    (.value s!"invalid incident transition {incident.status.value} -> {toStatus.value}")
  (incident.toIncidentData.moved toStatus now details).validate

@[simp] theorem IncidentData.moved_status (data : IncidentData) (toStatus : IncidentStatus)
    (now : Time) (details : IncidentDetails) :
    (data.moved toStatus now details).status = toStatus := by
  cases toStatus <;> rfl

@[simp] theorem IncidentData.moved_severity (data : IncidentData) (toStatus : IncidentStatus)
    (now : Time) (details : IncidentDetails) :
    (data.moved toStatus now details).severity = data.severity := by
  cases toStatus <;> rfl

@[simp] theorem IncidentData.moved_incidentId (data : IncidentData) (toStatus : IncidentStatus)
    (now : Time) (details : IncidentDetails) :
    (data.moved toStatus now details).incidentId = data.incidentId := by
  cases toStatus <;> rfl

@[simp] theorem IncidentData.moved_stateVersion (data : IncidentData) (toStatus : IncidentStatus)
    (now : Time) (details : IncidentDetails) :
    (data.moved toStatus now details).stateVersion = data.stateVersion + 1 := by
  cases toStatus <;> rfl

@[simp] theorem IncidentData.moved_resolvedAt (data : IncidentData) (toStatus : IncidentStatus)
    (now : Time) (details : IncidentDetails) :
    (data.moved toStatus now details).resolvedAt =
      if toStatus = .resolved then some now else data.resolvedAt := by
  cases toStatus <;> rfl

variable {details : IncidentDetails} {incident : Incident} {now : Time} {toStatus : IncidentStatus}

theorem transitionIncident_ok (ok : transitionIncident incident toStatus now details = .ok next) :
    toStatus ∈ incident.status.successors ∧
      next.toIncidentData = incident.toIncidentData.moved toStatus now details := by
  simp only [transitionIncident, bind_ok, guard_ok, not_not] at ok
  exact ⟨ok.1, IncidentData.validate_ok ok.2⟩

theorem transitionIncident_keeps (ok : transitionIncident incident toStatus now details = .ok next) :
    next.status = toStatus ∧ next.severity = incident.severity ∧
      next.incidentId = incident.incidentId ∧ next.stateVersion = incident.stateVersion + 1 := by
  rw [(transitionIncident_ok ok).2]
  simp

end Liki.Governance
