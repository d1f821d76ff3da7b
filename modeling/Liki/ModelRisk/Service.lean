import Liki.ModelRisk.Types
import Liki.Library.CallSystem

/-! The inventory of models, as two services keep it: the governance service registers a
model, records validations and drift, and the model-risk service links evidence, challenges,
approves, observes, retires and grants exceptions. Every operation is one transaction behind
the advisory lock. -/
namespace Liki.ModelRisk
open Checks Governance CallSystem

inductive ModelAggregate where
  | model (status : ModelStatus) (version : String)
  | validation (modelId validatorPrincipal : String)
  | drift (modelId : String) (breached : Bool)
  | other (state : String)
  deriving DecidableEq

inductive ModelMetadata where
  | linked (role : EvidenceRole)
  | validation (validationId : String)
  | drift (driftKind : String) (breached : Bool)
  | exception (exceptionId : String)
  | other (metadata : String)
  deriving DecidableEq

abbrev ModelStore := Store ModelAggregate ModelMetadata String ArtifactContent
abbrev ModelEvent := Event ModelAggregate ModelMetadata String
abbrev ModelTransition := TransitionRequest ModelAggregate ModelMetadata

/-- A row of `model_inventory`. -/
structure ModelRow where
  version : String
  status : ModelStatus
  record : ModelData
  deriving DecidableEq

def ModelRow.modelId (row : ModelRow) : String := row.record.modelId

structure ValidationRow where
  modelId : String
  validation : ModelValidation
  deriving DecidableEq

/-- A row of `model_evidence_links`. -/
structure EvidenceLink where
  evidenceLinkId : String
  modelId : String
  artifactId : ℕ
  evidenceRole : EvidenceRole
  deriving DecidableEq

structure ChallengeRow where
  challengeId : String
  modelId : String
  validationId : String
  deriving DecidableEq

structure ModelState where
  store : ModelStore
  inventory : List ModelRow
  validations : List ValidationRow
  links : List EvidenceLink
  challenges : List ChallengeRow
  drifts : List String
  exceptions : List String
  retirements : List String
  /-- A promotion freeze has not been lifted. -/
  frozen : Bool
  deriving DecidableEq

namespace ModelState

def empty : ModelState := ⟨.empty, [], [], [], [], [], [], [], false⟩

def provenance (state : ModelState) : GovernanceState :=
  { GovernanceState.empty with store := ⟨[], [], state.store.artifacts, [], []⟩ }

def findModel (state : ModelState) (modelId : String) : Option ModelRow :=
  KeyedRows.find ModelRow.modelId modelId state.inventory

def findValidation (state : ModelState) (modelId validationId : String) : Option ModelValidation :=
  (state.validations.find? fun row =>
    row.validation.validationId = validationId ∧ row.modelId = modelId).map ValidationRow.validation

def rolesOf (state : ModelState) (modelId : String) (artifactId : ℕ) : List EvidenceRole :=
  (state.links.filter fun link => link.modelId = modelId ∧ link.artifactId = artifactId).map
    EvidenceLink.evidenceRole

def transition (state : ModelState) (actor : Identity) (capability : Capability)
    (operationKey : String) (request : ModelTransition) : Except ServiceError (ℕ × ModelState) := do
  actor.requires capability
  refuseIf (operationKey = "") (.domain "INVALID_TRANSITION")
  let store ← state.store.transition actor capability operationKey request none
  return (store.events.findIdx fun event => event.operationKey = operationKey, { state with store })

def currentVersion (state : ModelState) (modelId : String) : Except ServiceError ℕ := do
  let current ← expect (state.store.state "model" modelId) (.domain "MODEL_AGGREGATE_MISSING")
  return current.version

/-- The freeze trigger on `model_inventory`. -/
def guardApproval (state : ModelState) (status : ModelStatus) : Except ServiceError Unit :=
  refuseIf (status = .approved ∧ state.frozen) (.constraint "PROMOTION_FROZEN")

/-- `UPDATE model_inventory`, behind its trigger. -/
def updateModel (state : ModelState) (row : ModelRow) (change : ModelRow → ModelRow) :
    Except ServiceError ModelState := do
  state.guardApproval (change row).status
  return { state with
    inventory := KeyedRows.update ModelRow.modelId row.modelId change state.inventory }

/-- `INSERT INTO model_evidence_links ... ON CONFLICT(model_id,artifact_id,evidence_role) DO NOTHING`. -/
def insertLink (state : ModelState) (link : EvidenceLink) : Except ServiceError ModelState :=
  if ∃ other ∈ state.links, other.modelId = link.modelId ∧ other.artifactId = link.artifactId ∧
      other.evidenceRole = link.evidenceRole then .ok state
  else do
    refuseIf (∃ other ∈ state.links, other.evidenceLinkId = link.evidenceLinkId)
      (.constraint "evidence_link_id")
    return { state with links := state.links ++ [link] }

end ModelState

open ModelState

inductive ModelAnswer where
  | event (eventId : ℕ)
  | record (record : ModelData)
  | artifact (artifactId : ℕ)
  | done
  deriving DecidableEq

/-- What an operation makes of the tables. -/
abbrev ModelOutcome := Except ServiceError (ModelAnswer × ModelState)

variable (deployment : Deployment) (readings : Readings)

def modelRequest (actor : Identity) (modelId : String) (expectedVersion : ℕ) (status : ModelStatus)
    (version eventType policyVersion : String) (artifactIds : List ℕ)
    (metadata : Option ModelMetadata) : ModelTransition where
  kind := "model"
  aggregateId := modelId
  expectedVersion := expectedVersion
  state := .model status version
  eventType := eventType
  principalId := actor.principalId
  taskId := "model:" ++ modelId
  policyVersion := policyVersion
  evidenceIds := []
  artifactIds := artifactIds
  metadata := metadata

/-- `INSERT INTO model_inventory`. -/
def ModelState.insertModel (state : ModelState) (row : ModelRow) : Except ServiceError ModelState := do
  state.guardApproval row.status
  refuseIf ((state.findModel row.modelId).isSome) (.constraint "model_id")
  refuseIf (∃ replacement ∈ row.record.replacementModelId, replacement ≠ row.modelId ∧
    (state.findModel replacement).isNone) (.constraint "replacement_model_id")
  return { state with inventory := state.inventory ++ [row] }

/-- What a record artifact has to say. -/
def recordContent (record : ModelData) : Fields :=
  [("model_id", .text record.modelId), ("version", .text record.version)]

def registerModel (state : ModelState) (actor : Identity) (record : ModelRecord)
    (recordArtifact : ArtifactProvenance) (operationKey policyVersion : String) : ModelOutcome := do
  actor.requires .policy
  refuseIf (actor.principalId ∉ record.developerPrincipals) (.domain "FORGED_MODEL_DEVELOPER")
  let _ ← state.provenance.artifact deployment recordArtifact (some "governance/model-record/v1") []
    (recordContent record.toModelData)
  let cardIds ← state.provenance.artifacts deployment record.modelCard.toList
  let (eventId, state) ← state.transition actor .policy operationKey
    (modelRequest actor record.modelId 0 record.status record.version "MODEL_REGISTERED" policyVersion
      (recordArtifact.artifactId :: cardIds) none)
  let state ← state.insertModel ⟨record.version, record.status, record.toModelData⟩
  return (.event eventId, state)

/-- `INSERT INTO model_validations ... ON CONFLICT(validation_id) DO NOTHING`. -/
def ModelState.insertValidation (state : ModelState) (row : ValidationRow) : ModelState :=
  if ∃ other ∈ state.validations, other.validation.validationId = row.validation.validationId then state
  else { state with validations := state.validations ++ [row] }

def recordModelValidation (state : ModelState) (actor : Identity) (modelId : String)
    (validation : ModelValidation) (validationArtifact : ArtifactProvenance) : ModelOutcome := do
  actor.requires .policy
  refuseIf (validation.validatorPrincipal ≠ actor.principalId) (.domain "FORGED_VALIDATOR")
  let model ← expect (state.findModel modelId) (.domain "UNKNOWN_MODEL")
  let record ← model.record.validate
  refuseIf (actor.principalId ∈ record.developerPrincipals) (.domain "SELF_VALIDATION")
  let _ ← state.provenance.artifact deployment validationArtifact
    (some "governance/model-validation/v1") [] []
  let _ ← state.provenance.artifacts deployment validation.validationEvidence
  let checkIds ← [validation.conceptualSoundness, validation.implementationCorrectness,
    validation.sensitivity].mapM (state.provenance.check deployment)
  let (_, state) ← state.transition actor .policy ("model-validation:" ++ validation.validationId)
    { kind := "model_validation", aggregateId := validation.validationId, expectedVersion := 0,
      state := .validation modelId actor.principalId, eventType := "MODEL_VALIDATION_RECORDED",
      principalId := actor.principalId, taskId := "model:" ++ modelId, policyVersion := "model-risk",
      evidenceIds := [], artifactIds := validationArtifact.artifactId :: checkIds, metadata := none }
  return (.done, state.insertValidation ⟨modelId, validation⟩)

/-- The status column after a breach that the governance service records. -/
def watchedStatus (status : ModelStatus) : ModelStatus :=
  if status ∈ [.retired, .suspended] then status else .watch

/-- `INSERT INTO model_drift_observations ... ON CONFLICT(observation_id) DO NOTHING`. -/
def ModelState.insertDrift (state : ModelState) (observationId : String) : ModelState :=
  if observationId ∈ state.drifts then state
  else { state with drifts := state.drifts ++ [observationId] }

/-- A breach moves the aggregate and the column to WATCH, and leaves the record alone. -/
def watchModel (state : ModelState) (actor : Identity) (row : ModelRow)
    (observation : DriftObservation) : Except ServiceError ModelState := do
  let version ← state.currentVersion row.modelId
  let (_, state) ← state.transition actor .policy
    ("model-watch:" ++ row.modelId ++ ":" ++ observation.observationId)
    (modelRequest actor row.modelId version .watch row.version "MODEL_WATCHED_FOR_DRIFT" "model-risk"
      [observation.measurementArtifact.artifactId] none)
  state.updateModel row fun row => { row with status := watchedStatus row.status }

namespace GovernanceService

/-- `record_drift` of the governance service. -/
def recordDrift (state : ModelState) (actor : Identity) (modelId : String)
    (observation : DriftObservation) : ModelOutcome := do
  actor.requires .policy
  let _ ← state.provenance.artifact deployment observation.measurementArtifact
    (some "governance/drift-measurement/v1") [] []
  let row ← expect (state.findModel modelId) (.domain "UNKNOWN_MODEL")
  let (_, state) ← state.transition actor .policy ("model-drift:" ++ observation.observationId)
    { kind := "model_drift", aggregateId := observation.observationId, expectedVersion := 0,
      state := .drift modelId observation.breached, eventType := "MODEL_DRIFT_RECORDED",
      principalId := actor.principalId, taskId := "model:" ++ modelId, policyVersion := "model-risk",
      evidenceIds := [], artifactIds := [observation.measurementArtifact.artifactId], metadata := none }
  let state := state.insertDrift observation.observationId
  if observation.breached then do
    let state ← watchModel state actor row observation
    return (.done, state)
  else return (.done, state)

end GovernanceService

/-- `_require_governance`. -/
def requireGovernance (actor : Identity) : Except ServiceError Unit :=
  refuseIf (actor.role ≠ .governance) (.domain "FORBIDDEN")

def ModelState.readModel (state : ModelState) (modelId : String) :
    Except ServiceError (ModelRow × ModelRecord) := do
  let row ← expect (state.findModel modelId) (.domain "UNKNOWN_MODEL")
  let record ← row.record.validate
  return (row, record)

def linkEvidence (state : ModelState) (actor : Identity) (modelId : String)
    (evidence : ArtifactProvenance) (role : EvidenceRole) (operationKey policyVersion : String) :
    ModelOutcome := do
  requireGovernance actor
  let (row, record) ← state.readModel modelId
  let _ ← state.provenance.artifact deployment evidence none [] []
  let existing := state.rolesOf modelId evidence.artifactId
  refuseIf (role = .validation ∧ (.development ∈ existing ∨ .developmentUsed ∈ existing))
    (.domain "CONTAMINATED_VALIDATION_EVIDENCE")
  refuseIf (role = .developmentUsed ∧ .validation ∉ existing)
    (.domain "ONLY_VALIDATION_EVIDENCE_CAN_BE_RECALIBRATION_CONSUMED")
  let updated := updatedRecord readings.now record.toModelData evidence role
  let version ← state.currentVersion modelId
  let (_, state) ← state.transition actor .policy operationKey
    (modelRequest actor modelId version updated.status updated.version "MODEL_EVIDENCE_LINKED"
      policyVersion [evidence.artifactId] (some (.linked role)))
  let state ← state.insertLink ⟨operationKey, modelId, evidence.artifactId, role⟩
  let state ← state.updateModel row fun row => { row with record := updated }
  return (.record updated, state)

/-- What a challenge artifact has to say. -/
def challengeContent (modelId : String) (challenge : EffectiveChallenge) : Fields :=
  [("challenge_id", .text challenge.challengeId), ("model_id", .text modelId),
    ("validation_id", .text challenge.validationId),
    ("validator_principal", .text challenge.validatorPrincipal)]

/-- `INSERT INTO model_effective_challenges`. -/
def ModelState.insertChallenge (state : ModelState) (row : ChallengeRow)
    (challengerModelId : Option String) : Except ServiceError ModelState := do
  refuseIf (∃ other ∈ state.challenges, other.challengeId = row.challengeId) (.constraint "challenge_id")
  refuseIf (∃ challenger ∈ challengerModelId, (state.findModel challenger).isNone)
    (.constraint "challenger_model_id")
  return { state with challenges := state.challenges ++ [row] }

def ModelState.challenged (state : ModelState) (modelId validationId : String) : Prop :=
  ∃ row ∈ state.challenges, row.modelId = modelId ∧ row.validationId = validationId

instance (state : ModelState) (modelId validationId : String) :
    Decidable (state.challenged modelId validationId) :=
  inferInstanceAs (Decidable (∃ _ ∈ _, _))

def recordEffectiveChallenge (state : ModelState) (actor : Identity) (modelId : String)
    (challenge : EffectiveChallenge) (operationKey policyVersion : String) : ModelOutcome := do
  requireGovernance actor
  let (_, record) ← state.readModel modelId
  let validation ← expect (state.findValidation modelId challenge.validationId)
    (.domain "UNKNOWN_MODEL_VALIDATION")
  refuseIf (challenge.validatorPrincipal ≠ validation.validatorPrincipal ∨
    challenge.validatorPrincipal ∈ record.developerPrincipals) (.domain "INEFFECTIVE_CHALLENGE")
  refuseIf (state.challenged modelId challenge.validationId)
    (.domain "EFFECTIVE_CHALLENGE_ALREADY_RECORDED")
  let _ ← state.provenance.artifact deployment challenge.challengeArtifact
    (some "model-risk/effective-challenge/v1") [.evaluator, .sealedEvaluator]
    (challengeContent modelId challenge)
  let checkIds ← challenge.checks.mapM (state.provenance.check deployment)
  let version ← state.currentVersion modelId
  let (_, state) ← state.transition actor .policy operationKey
    (modelRequest actor modelId version record.status record.version
      "MODEL_EFFECTIVE_CHALLENGE_RECORDED" policyVersion
      (challenge.challengeArtifact.artifactId :: checkIds) (some (.validation challenge.validationId)))
  let state ← state.insertChallenge ⟨challenge.challengeId, modelId, challenge.validationId⟩
    challenge.challengerModelId
  return (.done, state)

def approvedRecord (now : Time) (record : ModelData) (validation : ModelValidation) : ModelData :=
  { record with
    status := .approved
    validationStatus := "VALIDATED"
    validationEvidence := validation.validationEvidence
    updatedAt := now }

def validationLink (modelId validationId : String) (evidence : ArtifactProvenance) : EvidenceLink where
  evidenceLinkId := "model-validation:" ++ validationId ++ ":" ++ toString evidence.artifactId
  modelId := modelId
  artifactId := evidence.artifactId
  evidenceRole := .validation

def ModelState.insertLinks (state : ModelState) (links : List EvidenceLink) :
    Except ServiceError ModelState :=
  links.foldlM ModelState.insertLink state

def approve (state : ModelState) (actor : Identity) (modelId validationId : String)
    (expectedVersion : ℕ) (operationKey policyVersion : String) : ModelOutcome := do
  requireGovernance actor
  let (row, record) ← state.readModel modelId
  let validation ← expect ((state.findValidation modelId validationId).filter fun _ =>
    state.challenged modelId validationId) (.domain "MODEL_VALIDATION_OR_EFFECTIVE_CHALLENGE_MISSING")
  refuseIf (assessModelAdmission record.toModelData (some validation) ≠ [])
    (.domain "MODEL_ADMISSION_REJECTED")
  let _ ← state.currentVersion modelId
  let approved := approvedRecord readings.now record.toModelData validation
  let (_, state) ← state.transition actor .policy operationKey
    (modelRequest actor modelId expectedVersion .approved row.version "MODEL_APPROVED" policyVersion
      (validation.validationEvidence.map ArtifactProvenance.artifactId)
      (some (.validation validationId)))
  let state ← state.updateModel row fun row => { row with status := .approved, record := approved }
  let state ← state.insertLinks
    (validation.validationEvidence.map (validationLink modelId validationId))
  return (.record approved, state)

def observedStatus (breached : Bool) (status : ModelStatus) : ModelStatus :=
  if breached ∧ status ∉ [.retired, .suspended] then .watch else status

/-- `record_drift` of the model-risk service. -/
def recordDrift (state : ModelState) (actor : Identity) (modelId : String)
    (observation : DriftObservation) (expectedVersion : ℕ) (operationKey policyVersion : String) :
    ModelOutcome := do
  requireGovernance actor
  let (row, record) ← state.readModel modelId
  let _ ← state.provenance.artifact deployment observation.measurementArtifact
    (some "governance/drift-measurement/v1") [] []
  let _ ← state.currentVersion modelId
  let status := observedStatus observation.breached record.status
  let updated : ModelData := { record.toModelData with status, updatedAt := readings.now }
  let (_, state) ← state.transition actor .policy operationKey
    (modelRequest actor modelId expectedVersion status row.version
      (if observation.breached then "MODEL_DRIFT_BREACH" else "MODEL_DRIFT_RECORDED") policyVersion
      [observation.measurementArtifact.artifactId]
      (some (.drift observation.driftKind observation.breached)))
  refuseIf (observation.observationId ∈ state.drifts) (.constraint "observation_id")
  let state := { state with drifts := state.drifts ++ [observation.observationId] }
  let state ← state.updateModel row fun row => { row with status, record := updated }
  return (.done, state)

/-- `INSERT INTO model_retirements`. -/
def ModelState.insertRetirement (state : ModelState) (modelId : String) :
    Except ServiceError ModelState := do
  refuseIf (modelId ∈ state.retirements) (.constraint "model_id")
  return { state with retirements := state.retirements ++ [modelId] }

def ModelState.replaceable (state : ModelState) (replacementModelId : Option String) : Prop :=
  ∀ replacement ∈ replacementModelId, replacement ≠ "" →
    ∃ row ∈ state.findModel replacement, row.status = .approved

instance (state : ModelState) (replacementModelId : Option String) :
    Decidable (state.replaceable replacementModelId) := by
  unfold ModelState.replaceable
  infer_instance

def retiredRecord (now : Time) (record : ModelData) (replacementModelId : Option String) : ModelData :=
  { record with
    status := .retired
    retiredAt := some now
    replacementModelId
    updatedAt := now }

def retire (state : ModelState) (actor : Identity) (modelId : String)
    (retirementArtifact : ArtifactProvenance) (expectedVersion : ℕ)
    (operationKey policyVersion : String) (replacementModelId : Option String) : ModelOutcome := do
  requireGovernance actor
  let (row, record) ← state.readModel modelId
  refuseIf (record.status = .retired) (.domain "MODEL_ALREADY_RETIRED")
  refuseIf (¬state.replaceable replacementModelId) (.domain "INVALID_MODEL_REPLACEMENT")
  let _ ← state.provenance.artifact deployment retirementArtifact (some "model-risk/retirement/v1") [] []
  let retired := retiredRecord readings.now record.toModelData replacementModelId
  let (_, state) ← state.transition actor .policy operationKey
    (modelRequest actor modelId expectedVersion .retired row.version "MODEL_RETIRED" policyVersion
      [retirementArtifact.artifactId] none)
  refuseIf (∃ replacement ∈ replacementModelId, (state.findModel replacement).isNone)
    (.constraint "replacement_model_id")
  let state ← state.updateModel row fun row => { row with status := .retired, record := retired }
  let state ← state.insertRetirement modelId
  return (.record retired, state)

/-- `INSERT INTO model_use_exceptions`. -/
def ModelState.insertException (state : ModelState) (exceptionId : String) :
    Except ServiceError ModelState := do
  refuseIf (exceptionId ∈ state.exceptions) (.constraint "exception_id")
  return { state with exceptions := state.exceptions ++ [exceptionId] }

def grantException (state : ModelState) (actor : Identity) (modelId : String)
    (useException : ModelUseException) (operationKey policyVersion : String) : ModelOutcome := do
  requireGovernance actor
  let (row, record) ← state.readModel modelId
  refuseIf (record.status = .retired ∨ useException.expiresAt ≤ readings.now)
    (.domain "INVALID_MODEL_EXCEPTION")
  let _ ← state.provenance.artifact deployment useException.approvalArtifact
    (some "model-risk/use-exception/v1") [] []
  let version ← state.currentVersion modelId
  let (_, state) ← state.transition actor .policy operationKey
    (modelRequest actor modelId version record.status row.version "MODEL_USE_EXCEPTION_GRANTED"
      policyVersion [useException.approvalArtifact.artifactId]
      (some (.exception useException.exceptionId)))
  let state ← state.insertException useException.exceptionId
  return (.done, state)

/-- `put_artifact`. -/
def putArtifact (state : ModelState) (actor : Identity) (fields : Fields) (schemaName : String)
    (classification : StoreClassification) (policyVersion : String) : ModelOutcome := do
  actor.requires .artifact
  refuseIf (classification = .secret ∨ (classification = .sealed ∧ actor.role ≠ .sealedEvaluator))
    (.domain "FORBIDDEN_CLASSIFICATION")
  let stored := fun artifact : Artifact ArtifactContent => artifact.producerId = actor.principalId ∧
    artifact.content.contentHash = deployment.contentHash fields ∧ artifact.schemaName = schemaName
  match state.store.artifacts.findIdx? fun artifact => stored artifact with
  | some existing => return (.artifact existing, state)
  | none => return (.artifact state.store.artifacts.length, { state with
      store := { state.store with
        artifacts := state.store.artifacts ++
          [⟨⟨fields, deployment.contentHash fields, readings.fingerprint⟩, schemaName, classification,
            actor.principalId, policyVersion⟩] } })

def modelKinds : List String := ["model", "model_validation", "model_drift"]

def otherTransition (state : ModelState) (actor : Identity) (capability : Capability)
    (operationKey : String) (request : ModelTransition) : ModelOutcome := do
  refuseIf (request.kind ∈ modelKinds) (.domain "FORBIDDEN")
  let (eventId, state) ← state.transition actor capability operationKey request
  return (.event eventId, state)

inductive RiskRequest where
  | linkEvidence (modelId : String) (evidence : ArtifactProvenance) (role : EvidenceRole)
      (operationKey policyVersion : String)
  | recordEffectiveChallenge (modelId : String) (challenge : EffectiveChallenge)
      (operationKey policyVersion : String)
  | approve (modelId validationId : String) (expectedVersion : ℕ) (operationKey policyVersion : String)
  | recordDrift (modelId : String) (observation : DriftObservation) (expectedVersion : ℕ)
      (operationKey policyVersion : String)
  | retire (modelId : String) (retirementArtifact : ArtifactProvenance) (expectedVersion : ℕ)
      (operationKey policyVersion : String) (replacementModelId : Option String)
  | grantException (modelId : String) (useException : ModelUseException)
      (operationKey policyVersion : String)

inductive ModelRequest where
  | registerModel (record : ModelRecord) (recordArtifact : ArtifactProvenance)
      (operationKey policyVersion : String)
  | recordModelValidation (modelId : String) (validation : ModelValidation)
      (validationArtifact : ArtifactProvenance)
  | recordDrift (modelId : String) (observation : DriftObservation)
  | risk (request : RiskRequest)
  | putArtifact (fields : Fields) (schemaName : String) (classification : StoreClassification)
      (policyVersion : String)
  | otherTransition (capability : Capability) (operationKey : String) (request : ModelTransition)
  /-- Promotions are frozen or free again. -/
  | freeze (frozen : Bool)

structure ModelCall where
  readings : Readings
  actor : Identity
  request : ModelRequest

def riskAnswer (state : ModelState) (actor : Identity) : RiskRequest → ModelOutcome
  | .linkEvidence modelId evidence role operationKey policyVersion =>
    linkEvidence deployment readings state actor modelId evidence role operationKey policyVersion
  | .recordEffectiveChallenge modelId challenge operationKey policyVersion =>
    recordEffectiveChallenge deployment state actor modelId challenge operationKey policyVersion
  | .approve modelId validationId expectedVersion operationKey policyVersion =>
    approve readings state actor modelId validationId expectedVersion operationKey policyVersion
  | .recordDrift modelId observation expectedVersion operationKey policyVersion =>
    recordDrift deployment readings state actor modelId observation expectedVersion operationKey
      policyVersion
  | .retire modelId retirementArtifact expectedVersion operationKey policyVersion replacement =>
    retire deployment readings state actor modelId retirementArtifact expectedVersion operationKey
      policyVersion replacement
  | .grantException modelId useException operationKey policyVersion =>
    grantException deployment readings state actor modelId useException operationKey policyVersion

def answer : Handler ModelState ModelCall ServiceError ModelAnswer
  | state, ⟨readings, actor, request⟩ =>
    match request with
    | .registerModel record recordArtifact operationKey policyVersion =>
      registerModel deployment state actor record recordArtifact operationKey policyVersion
    | .recordModelValidation modelId validation validationArtifact =>
      recordModelValidation deployment state actor modelId validation validationArtifact
    | .recordDrift modelId observation =>
      GovernanceService.recordDrift deployment state actor modelId observation
    | .risk request => riskAnswer deployment readings state actor request
    | .putArtifact fields schemaName classification policyVersion =>
      putArtifact deployment readings state actor fields schemaName classification policyVersion
    | .otherTransition capability operationKey request =>
      otherTransition state actor capability operationKey request
    | .freeze frozen => .ok (.done, { state with frozen })

/-- The tables after some calls on a new system. -/
def history (calls : List ModelCall) : ModelState := run (answer deployment) .empty calls

theorem history_append (calls : List ModelCall) (call : ModelCall) :
    history deployment (calls ++ [call]) = next (answer deployment) (history deployment calls) call := by
  rw [history, run_append]
  rfl

end Liki.ModelRisk
