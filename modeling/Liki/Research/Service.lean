import Liki.Library.AppendOnly
import Liki.Library.CallSystem
import Liki.Library.Reachability
import Liki.Research.MemoryClaims

/-! Research objects with their lineage, trials, what is remembered of them, and the holdouts that
sealed evaluators query. Every operation is one transaction behind the advisory lock. A family or a
lineage that a holdout has answered for is not answered for again. -/
namespace Liki.Research
open Checks CallSystem AppendOnly Reachability KeyedRows

inductive ObjectType where
  | hypothesis | mechanism | strategy | strategyVersion | branch | experiment | portfolioCandidate
  deriving DecidableEq

structure ResearchObject where
  objectId : String
  objectType : ObjectType
  campaignId : String
  artifactId : ℕ
  /-- Parents with the types of their edges. -/
  parents : List (String × String)
  deriving DecidableEq

inductive TrialType where
  | hypothesis | parameter | mechanism | dataset | seed | nuisance | metric | window | «universe» | sizing
  | portfolio | campaignExtension | allocation | forwardFeedback | stopping | systemChange
  deriving DecidableEq

structure Trial where
  trialEventId : String
  campaignId : String
  trialFamilyId : String
  strategyVersionId : String
  trialType : TrialType
  selectionReason : String
  /-- A `dict`, by its canonical text. -/
  semanticConfiguration : String
  datasetSnapshotIds : List String
  metricIds : List String
  contaminationTags : List String
  parentTrialEventId : Option String
  scientificRetryOf : Option String
  infrastructureRetry : Bool
  operationKey : String
  deriving DecidableEq

inductive Category where
  | pass | borderline | fail
  deriving DecidableEq

/-- The arguments of `sealed_result`, with the id that a query is given. -/
structure SealedRequest where
  holdoutId : String
  strategyVersionId : String
  familyId : String
  requestHash : String
  category : Category
  queryId : String

inductive ResearchAggregate where
  | object (object : ResearchObject)
  | trial (trial : Trial) (tags : List String)
  | holdoutQuery (holdoutId strategyVersionId : String) (category : Category)
  | memory (claim : MemoryClaim) (tags : List String)
  deriving DecidableEq

/-- The content of an artifact, which may have lost its hash on the way to the database. -/
structure ArtifactContent where
  text : String
  intact : Bool
  deriving DecidableEq

abbrev ResearchStore := Store ResearchAggregate Unit String ArtifactContent
abbrev ResearchTransition := TransitionRequest ResearchAggregate Unit

/-- A row of `research_objects`. -/
structure ObjectRow where
  objectId : String
  campaignId : String
  createdBy : String

/-- A row of `lineage_edges`. -/
structure LineageEdge where
  parentId : String
  childId : String
  edgeType : String
  deriving DecidableEq

structure Semantic where
  configuration : String
  datasets : List String
  metrics : List String
  trialType : TrialType
  deriving DecidableEq

/-- A row of `trial_events`. -/
structure TrialRow where
  trialEventId : String
  campaignId : String
  trialFamilyId : String
  strategyVersionId : String
  infrastructureRetry : Bool
  contaminationTags : List String
  operationKey : String
  semantic : Semantic

/-- A row of `holdout_policies`. -/
structure HoldoutPolicy where
  holdoutId : String
  allowedFamilyIds : List String
  queryBudget : ℕ
  queries : ℕ
  retired : Bool
  policyVersion : String

/-- A row of `holdout_query_events`. -/
structure HoldoutQuery where
  holdoutQueryId : String
  holdoutId : String
  campaignId : String
  strategyVersionId : String
  trialFamilyId : String
  requestHash : String
  responseCategory : Category
  budgetBefore : ℕ
  budgetAfter : ℕ

/-- A row of `memory_contamination_edges`. -/
structure ContaminationEdge where
  sourceId : String
  descendantId : String
  tag : String
  deriving DecidableEq

/-- A row of `evidence`. -/
structure EvidenceRow where
  evidenceId : String
  artifactId : ℕ
  evidenceClass : String
  contaminationTags : List String

structure ResearchState where
  store : ResearchStore
  campaigns : List String
  objects : List ObjectRow
  edges : List LineageEdge
  trials : List TrialRow
  holdouts : List HoldoutPolicy
  queries : List HoldoutQuery
  contamination : List ContaminationEdge
  evidence : List EvidenceRow
  claims : List MemoryRow

namespace ResearchState

def empty : ResearchState := ⟨.empty, [], [], [], [], [], [], [], [], []⟩

def findObject (state : ResearchState) (objectId : String) : Option ObjectRow :=
  find ObjectRow.objectId objectId state.objects

def findHoldout (state : ResearchState) (holdoutId : String) : Option HoldoutPolicy :=
  find HoldoutPolicy.holdoutId holdoutId state.holdouts

/-- `WHERE holdout_id=%s AND strategy_version_id=%s`. -/
def findQuery (state : ResearchState) (holdoutId strategyVersionId : String) : Option HoldoutQuery :=
  find (fun query : HoldoutQuery => (query.holdoutId, query.strategyVersionId))
    (holdoutId, strategyVersionId) state.queries

def findEvidence (state : ResearchState) (evidenceId : String) : Option EvidenceRow :=
  find EvidenceRow.evidenceId evidenceId state.evidence

def queriesOf (state : ResearchState) (holdoutId : String) : List HoldoutQuery :=
  state.queries.filter fun query => query.holdoutId = holdoutId

def parentage (state : ResearchState) : List (String × String) :=
  state.edges.map fun edge => (edge.childId, edge.parentId)

def tagsOf (state : ResearchState) (objectId : String) : List String :=
  (state.contamination.filter fun edge => edge.descendantId = objectId).map ContaminationEdge.tag

def transition (state : ResearchState) (actor : Identity) (capability : Capability)
    (operationKey : String) (request : ResearchTransition) : Except ServiceError ResearchState := do
  actor.requires capability
  refuseIf (operationKey = "") (.domain "INVALID_TRANSITION")
  let store ← state.store.transition actor capability operationKey request none
  return { state with store }

end ResearchState

/-- The edge types that `lineage_edges` takes. -/
def edgeTypes : List String :=
  ["derived_from", "parameter_variant_of", "mechanism_variant_of", "data_variant_of",
    "execution_variant_of", "portfolio_variant_of", "independent_reimplementation_of", "ablation_of",
    "combination_of", "reproduction_of"]

namespace ResearchObject

variable (object : ResearchObject)

def operationKey : String := "object:" ++ object.objectId

def edges : List LineageEdge :=
  object.parents.map fun parent => ⟨parent.1, object.objectId, parent.2⟩

def request (actor : Identity) : ResearchTransition where
  kind := "research_object"
  aggregateId := object.objectId
  expectedVersion := 0
  state := .object object
  eventType := "RESEARCH_OBJECT_REGISTERED"
  principalId := actor.principalId
  taskId := object.campaignId
  policyVersion := "research-v1"
  evidenceIds := []
  artifactIds := [object.artifactId]
  metadata := none

end ResearchObject

/-- `INSERT INTO research_objects ... ON CONFLICT DO NOTHING`. -/
def insertObject (state : ResearchState) (row : ObjectRow) : Except ServiceError ResearchState :=
  if (state.findObject row.objectId).isSome then .ok state
  else do
    refuseIf (row.campaignId ∉ state.campaigns) (.constraint "campaign_id")
    return { state with objects := state.objects ++ [row] }

def inherited (contamination : List ContaminationEdge) (parentId childId : String) : List ContaminationEdge :=
  ((contamination.filter fun edge => edge.descendantId = parentId).map ContaminationEdge.tag).map
    fun tag => ⟨parentId, childId, tag⟩

/-- `register`. -/
def register (state : ResearchState) (actor : Identity) (object : ResearchObject) :
    Except ServiceError (String × ResearchState) := do
  actor.requires .research
  let _ ← state.store.artifact ArtifactContent.intact actor object.artifactId
  refuseIf (∃ parent ∈ object.parents, ∀ row ∈ state.findObject parent.1, row.campaignId ≠ object.campaignId)
    (.domain "UNKNOWN_LINEAGE_PARENT")
  let state ← state.transition actor .research object.operationKey (object.request actor)
  let state ← insertObject state ⟨object.objectId, object.campaignId, actor.principalId⟩
  refuseIf (∃ edge ∈ object.edges, edge.edgeType ∉ edgeTypes ∨ edge.parentId = edge.childId)
    (.constraint "lineage_edges")
  return (object.objectId, { state with
    edges := insertAll state.edges object.edges
    contamination := object.parents.foldl (fun contamination parent =>
      insertAll contamination (inherited contamination parent.1 object.objectId)) state.contamination })

/-- `sorted(tags)`. -/
def sortedTags (tags : List String) : List String := tags.dedup.insertionSort (· ≤ ·)

namespace Trial

variable (trial : Trial)

def semantic : Semantic :=
  ⟨trial.semanticConfiguration, trial.datasetSnapshotIds, trial.metricIds, trial.trialType⟩

def row (tags : List String) : TrialRow where
  trialEventId := trial.trialEventId
  campaignId := trial.campaignId
  trialFamilyId := trial.trialFamilyId
  strategyVersionId := trial.strategyVersionId
  infrastructureRetry := trial.infrastructureRetry
  contaminationTags := tags
  operationKey := trial.operationKey
  semantic := trial.semantic

def request (actor : Identity) (tags : List String) : ResearchTransition where
  kind := "trial"
  aggregateId := trial.trialEventId
  expectedVersion := 0
  state := .trial trial tags
  eventType := "TRIAL_RECORDED"
  principalId := actor.principalId
  taskId := trial.campaignId
  policyVersion := "trial-v1"
  evidenceIds := []
  artifactIds := []
  metadata := none

def Repeats (original : TrialRow) : Prop :=
  original.semantic = trial.semantic ∧ original.trialFamilyId = trial.trialFamilyId ∧
    original.strategyVersionId = trial.strategyVersionId

instance (original : TrialRow) : Decidable (trial.Repeats original) := inferInstanceAs (Decidable (_ ∧ _))

end Trial

/-- `INSERT INTO trial_events ... ON CONFLICT(operation_key) DO NOTHING`. -/
def insertTrial (state : ResearchState) (trial : Trial) (tags : List String) : Except ServiceError ResearchState :=
  if ∃ row ∈ state.trials, row.operationKey = trial.operationKey then .ok state
  else do
    refuseIf (∃ row ∈ state.trials, row.trialEventId = trial.trialEventId) (.constraint "trial_event_id")
    refuseIf (∃ named ∈ trial.parentTrialEventId, ∀ row ∈ state.trials, row.trialEventId ≠ named)
      (.constraint "parent_trial_event_id")
    refuseIf (∃ named ∈ trial.scientificRetryOf, ∀ row ∈ state.trials, row.trialEventId ≠ named)
      (.constraint "scientific_retry_of")
    return { state with trials := state.trials ++ [trial.row tags] }

/-- `trial`. -/
def recordTrial (state : ResearchState) (actor : Identity) (trial : Trial) :
    Except ServiceError (String × ResearchState) := do
  actor.requires .research
  refuseIf (∀ row ∈ state.findObject trial.strategyVersionId, row.campaignId ≠ trial.campaignId)
    (.domain "INVALID_TRIAL_LINEAGE")
  if trial.infrastructureRetry then
    refuseIf (¬∃ original ∈ state.trials, some original.trialEventId = trial.scientificRetryOf ∧
      trial.Repeats original) (.domain "SCIENTIFIC_CHANGE_IS_NOT_INFRASTRUCTURE_RETRY")
  else
    -- an empty id is no retry
    refuseIf (trial.scientificRetryOf.getD "" ≠ "") (.domain "RETRY_CLASSIFICATION_REQUIRED")
  let tags := sortedTags (trial.contaminationTags ++ state.tagsOf trial.strategyVersionId)
  let state ← state.transition actor .research trial.operationKey (trial.request actor tags)
  let state ← insertTrial state trial tags
  return (trial.trialEventId, state)

def ResearchState.readEvidence (state : ResearchState) (actor : Identity) (evidenceId : String) :
    Except ServiceError EvidenceRow := do
  let row ← expect (state.findEvidence evidenceId) (.domain "UNKNOWN_EVIDENCE")
  let _ ← state.store.artifact ArtifactContent.intact actor row.artifactId
  return row

namespace MemoryClaim

variable (claim : MemoryClaim)

def operationKey : String := "memory:" ++ claim.memoryId

def evidenceIds : List String := claim.sourceEvidenceIds ++ claim.knownCounterevidenceIds

def request (actor : Identity) (tags : List String) : ResearchTransition where
  kind := "memory"
  aggregateId := claim.memoryId
  expectedVersion := 0
  state := .memory claim tags
  eventType := "MEMORY_RECORDED"
  principalId := actor.principalId
  taskId := claim.memoryId
  policyVersion := claim.policyVersion
  evidenceIds := claim.evidenceIds
  artifactIds := []
  metadata := none

def row (actor : Identity) (now lastRevalidatedAt : Time) (tags : List String) : MemoryRow where
  memoryId := claim.memoryId
  claim := claim.claim
  claimType := claim.claimType
  sourceEvidenceIds := claim.sourceEvidenceIds
  confidenceState := claim.confidenceState
  marketScope := claim.marketScope
  mechanismScope := claim.mechanismScope
  regimeScope := claim.regimeScope
  createdAt := now
  lastRevalidatedAt := lastRevalidatedAt
  policyVersion := claim.policyVersion
  contaminationTags := tags
  knownCounterevidenceIds := claim.knownCounterevidenceIds
  supersedes := claim.supersedes
  createdBy := actor.principalId

end MemoryClaim

/-- `INSERT INTO memory_claims ... ON CONFLICT DO NOTHING`. -/
def insertClaim (state : ResearchState) (row : MemoryRow) : ResearchState :=
  if ∃ other ∈ state.claims, other.memoryId = row.memoryId then state
  else { state with claims := state.claims ++ [row] }

/-- `remember`. -/
def remember (state : ResearchState) (actor : Identity) (now : Time) (claim : MemoryClaim) :
    Except ServiceError (String × ResearchState) := do
  let lastRevalidatedAt ← expect claim.lastRevalidatedAt (.domain "INVALID_MEMORY_TIMESTAMP")
  refuseIf (now < lastRevalidatedAt) (.domain "INVALID_MEMORY_TIMESTAMP")
  actor.requires .research
  let evidence ← claim.evidenceIds.mapM (state.readEvidence actor)
  refuseIf (claim.confidenceState = .replicated ∧
    ∀ row ∈ evidence, row.evidenceClass ≠ "independent_reproduction") (.domain "REPLICATION_EVIDENCE_REQUIRED")
  let tags := sortedTags (claim.contaminationTags ++ evidence.flatMap EvidenceRow.contaminationTags)
  let state ← state.transition actor .research claim.operationKey (claim.request actor tags)
  return (claim.memoryId, insertClaim state (claim.row actor now lastRevalidatedAt tags))

namespace SealedRequest

variable (request : SealedRequest)

def operationKey : String := "sealed:" ++ request.holdoutId ++ ":" ++ request.strategyVersionId

def transition (actor : Identity) (campaignId policyVersion : String) : ResearchTransition where
  kind := "holdout_query"
  aggregateId := request.queryId
  expectedVersion := 0
  state := .holdoutQuery request.holdoutId request.strategyVersionId request.category
  eventType := "SEALED_EXPOSURE"
  principalId := actor.principalId
  taskId := campaignId
  policyVersion := policyVersion
  evidenceIds := []
  artifactIds := []
  metadata := none

/-- The row of an answered query. -/
def query (holdout : HoldoutPolicy) (campaignId : String) : HoldoutQuery where
  holdoutQueryId := request.queryId
  holdoutId := request.holdoutId
  campaignId := campaignId
  strategyVersionId := request.strategyVersionId
  trialFamilyId := request.familyId
  requestHash := request.requestHash
  responseCategory := request.category
  budgetBefore := holdout.queryBudget - holdout.queries
  budgetAfter := holdout.queryBudget - holdout.queries - 1

/-- The row answers the same question in the same way. -/
def Asks (old : HoldoutQuery) : Prop :=
  old.requestHash = request.requestHash ∧ old.trialFamilyId = request.familyId ∧
    old.responseCategory = request.category

instance (old : HoldoutQuery) : Decidable (request.Asks old) := inferInstanceAs (Decidable (_ ∧ _))

end SealedRequest

def ancestry (state : ResearchState) (objectId : String) : List String :=
  closure state.parentage [objectId]

def descendants (state : ResearchState) (objectId : String) : List String :=
  closure (state.parentage.map Prod.swap) [objectId]

def LineageExposed (state : ResearchState) (holdoutId strategyVersionId : String) : Prop :=
  ∃ query ∈ state.queriesOf holdoutId, query.strategyVersionId ≠ strategyVersionId ∧
    ∃ node ∈ ancestry state strategyVersionId, node ∈ ancestry state query.strategyVersionId

instance (state : ResearchState) (holdoutId strategyVersionId : String) :
    Decidable (LineageExposed state holdoutId strategyVersionId) :=
  inferInstanceAs (Decidable (∃ _ ∈ _, _))

def Declared (state : ResearchState) (object : ObjectRow) (familyId : String) : Prop :=
  ∃ row ∈ state.trials, row.strategyVersionId = object.objectId ∧ row.campaignId = object.campaignId ∧
    row.trialFamilyId = familyId ∧ row.infrastructureRetry = false

instance (state : ResearchState) (object : ObjectRow) (familyId : String) :
    Decidable (Declared state object familyId) := inferInstanceAs (Decidable (∃ _ ∈ _, _))

/-- `sealed_result`: the category and the id of the query. -/
def sealedResult (state : ResearchState) (actor : Identity) (request : SealedRequest) :
    Except ServiceError ((Category × String) × ResearchState) := do
  actor.requires .sealed
  match state.findQuery request.holdoutId request.strategyVersionId with
  | some old =>
    refuseIf (¬request.Asks old) (.domain "IDEMPOTENCY_CONFLICT")
    return ((old.responseCategory, old.holdoutQueryId), state)
  | none =>
    let holdout ← expect (state.findHoldout request.holdoutId) (.domain "SEALED_EVALUATION_UNAVAILABLE")
    let object ← expect (state.findObject request.strategyVersionId) (.domain "SEALED_EVALUATION_UNAVAILABLE")
    refuseIf (holdout.retired = true ∨ request.familyId ∉ holdout.allowedFamilyIds ∨
      holdout.queryBudget ≤ holdout.queries) (.domain "SEALED_EVALUATION_UNAVAILABLE")
    refuseIf (¬Declared state object request.familyId) (.domain "SEALED_TRIAL_NOT_DECLARED")
    refuseIf (∃ query ∈ state.queriesOf request.holdoutId, query.trialFamilyId = request.familyId)
      (.domain "SEALED_FAMILY_ALREADY_EXPOSED")
    refuseIf (LineageExposed state request.holdoutId request.strategyVersionId)
      (.domain "SEALED_LINEAGE_ALREADY_EXPOSED")
    let state ← state.transition actor .sealed request.operationKey
      (request.transition actor object.campaignId holdout.policyVersion)
    refuseIf (∃ query ∈ state.queries, query.holdoutQueryId = request.queryId) (.constraint "holdout_query_id")
    return ((request.category, request.queryId), { state with
      queries := state.queries ++ [request.query holdout object.campaignId]
      holdouts := update HoldoutPolicy.holdoutId request.holdoutId
        (fun row => { row with queries := row.queries + 1 }) state.holdouts
      contamination := insertAll state.contamination ((descendants state request.strategyVersionId).map
        fun descendant => ⟨request.queryId, descendant, "saw_sealed_category"⟩) })

inductive ResearchCall where
  | register (object : ResearchObject)
  | trial (trial : Trial)
  | sealedResult (request : SealedRequest)
  | remember (now : Time) (claim : MemoryClaim)
  | putArtifact (content : ArtifactContent) (schemaName : String) (classification : StoreClassification)
      (policyVersion : String)
  | campaign (campaignId : String)
  | holdout (holdoutId : String) (allowedFamilyIds : List String) (queryBudget : ℕ) (policyVersion : String)
  | retire (holdoutId : String)
  /-- A row of evidence is written; no row is written twice or changed. -/
  | admitEvidence (row : EvidenceRow)

inductive ResearchAnswer where
  | object (objectId : String)
  | trial (trialEventId : String)
  | memory (memoryId : String)
  | result (category : Category) (queryId : String)
  | done
  deriving DecidableEq

def handle : Handler ResearchState (Identity × ResearchCall) ServiceError ResearchAnswer
  | state, (actor, .register object) => do
    let (objectId, after) ← register state actor object
    return (.object objectId, after)
  | state, (actor, .trial trial) => do
    let (trialEventId, after) ← recordTrial state actor trial
    return (.trial trialEventId, after)
  | state, (actor, .sealedResult request) => do
    let ((category, queryId), after) ← sealedResult state actor request
    return (.result category queryId, after)
  | state, (actor, .remember now claim) => do
    let (memoryId, after) ← remember state actor now claim
    return (.memory memoryId, after)
  | state, (actor, .putArtifact content schemaName classification policyVersion) => do
    let (_, store) ← state.store.putArtifact actor content schemaName classification policyVersion
    return (.done, { state with store })
  | state, (_, .campaign campaignId) => .ok (.done, { state with campaigns := insertNew state.campaigns campaignId })
  | state, (_, .holdout holdoutId allowedFamilyIds queryBudget policyVersion) => do
    refuseIf ((state.findHoldout holdoutId).isSome) (.constraint "holdout_id")
    return (.done, { state with
      holdouts := state.holdouts ++ [⟨holdoutId, allowedFamilyIds, queryBudget, 0, false, policyVersion⟩] })
  | state, (_, .retire holdoutId) => .ok (.done, { state with
      holdouts := update HoldoutPolicy.holdoutId holdoutId (fun row => { row with retired := true })
        state.holdouts })
  | state, (_, .admitEvidence row) => do
    refuseIf ((state.findEvidence row.evidenceId).isSome) (.constraint "evidence_id")
    return (.done, { state with
      store := { state.store with evidence := state.store.evidence ++ [row.evidenceId] }
      evidence := state.evidence ++ [row] })

def history (calls : List (Identity × ResearchCall)) : ResearchState := run handle .empty calls

end Liki.Research
