import Liki.Core

/-! Strict contracts for the inference broker and controlled contexts. A JSON
document is its canonical text, and a canonical hash is represented by the
content it is taken of. Times and costs are exact; a `float` is the rational it
denotes. -/
namespace Liki.Inference
open DecimalArithmetic

/-- A JSON document, as its canonical text. -/
abbrev Document := String

inductive Criticality where
  | low | normal | high | critical
  deriving DecidableEq

inductive Classification where
  | «public» | internal | confidential | secret | sealed
  deriving DecidableEq

/-- `CLASSIFICATION_RANK`. -/
def Classification.rank : Classification → ℕ
  | .public => 0
  | .internal => 1
  | .confidential => 2
  | .secret => 3
  | .sealed => 4

inductive CompletenessStatus where
  | complete | blocking | declaredNoncritical
  deriving DecidableEq

inductive EvidenceRetrievalStatus where
  | retrieved | notRetrieved | notRelevant | permissionDenied | toolTimeout | indexLag
  deriving DecidableEq

inductive ProviderHealth where
  | healthy | degraded | rateLimited | authFailed | quotaExhausted | openCircuit | unknown
  deriving DecidableEq

inductive AttemptStatus where
  | created | transportSuccess | schemaSuccess | semanticAccepted | decisionUseful
  | retryableFailure | nonretryableFailure | hibernated
  deriving DecidableEq

def AttemptStatus.accepted : AttemptStatus → Bool
  | .semanticAccepted => true
  | .decisionUseful => true
  | _ => false

structure InferenceRequest where
  inferenceRequestId : String
  semanticTaskId : String
  taskClass : String
  criticality : Criticality
  whyLlmNeeded : String
  expectedArtifactSchema : Document
  expectedDecisionImpact : String
  preferredReasoningEffort : String
  idempotencyKey : String
  allowedProviderClasses : List String
  fallbackPolicyId : String
  maxCallCost : Option ℚ
  maxTotalAttemptCost : Option ℚ
  maxLatencySec : Option ℚ
  minSemanticAcceptance : ℚ
  minReliability : ℚ
  routingBenchmarkId : Option String
  requiresTools : Bool
  parentRunId : Option String
  campaignId : Option String
  branchId : Option String
  exploratory : Bool
  /-- The field constraints that are relied on. -/
  task_nonempty : semanticTaskId ≠ ""
  latency_pos : ∀ latency ∈ maxLatencySec, 0 < latency
  call_cost_nonneg : ∀ cost ∈ maxCallCost, 0 ≤ cost
  total_cost_nonneg : ∀ cost ∈ maxTotalAttemptCost, 0 ≤ cost
  floors_le_one : minSemanticAcceptance ≤ 1 ∧ minReliability ≤ 1
  deriving DecidableEq

structure AgentTaskContract where
  agentRunId : String
  role : String
  question : String
  decisionAuthority : List String
  inputEvidenceIds : List String
  requiredEvidenceClasses : List String
  forbiddenEvidenceClasses : List String
  allowedTools : List String
  expectedArtifactSchema : Document
  successCondition : String
  stopCondition : String
  maxInferenceBudget : Document
  maxToolBudget : Document
  independenceGroupId : Option String
  parentRunId : Option String
  deriving DecidableEq

inductive ConfidenceState where
  | unverified | candidate | replicated | invalidated
  deriving DecidableEq

structure MemoryItem where
  memoryId : String
  claim : String
  claimType : String
  sourceEvidenceIds : List String
  confidenceState : ConfidenceState
  marketScope : List String
  regimeScope : List String
  mechanismScope : List String
  createdAt : Time
  lastRevalidatedAt : Option Time
  policyVersion : String
  classification : Classification
  licenseAllowsExternalEgress : Bool
  contaminationTags : List String
  knownCounterevidenceIds : List String
  supersedes : List String
  deriving DecidableEq

structure EvidenceItem where
  evidenceId : String
  evidenceClass : String
  classification : Classification
  retrievalStatus : EvidenceRetrievalStatus
  content : Option String
  material : Bool
  licenseAllowsExternalEgress : Bool
  canonicalSourceId : Option String
  summarySourceIds : List String

inductive TrustLevel where
  | trusted | sandboxed | externalUntrusted
  deriving DecidableEq

structure ToolCapability where
  toolId : String
  version : String
  purpose : String
  inputSchema : Document
  outputSchema : Document
  deterministic : Bool
  costModel : String
  latencyModel : String
  trustLevel : TrustLevel
  sideEffects : List String
  requiredCapabilities : List String
  knownFailureModes : List String
  deriving DecidableEq

/-- What the compiler records about the route it compiled for. -/
structure EgressDecision where
  routeId : String
  clearance : Classification
  highestPromptAccessibleClassification : ℕ
  retentionKnown : Bool
  mayTrainOnPrompts : Option Bool
  routeLicenseApproved : Bool
  excludedCount : ℕ
  deriving DecidableEq

/-- A manifest without its id and creation time: the content its hash is taken of. -/
structure ManifestContent where
  compilerVersion : String
  retrievalVersion : String
  requiredEvidenceClasses : List String
  candidateEvidenceIds : List String
  includedEvidenceIds : List String
  toolAddressableEvidenceIds : List String
  excludedEvidence : List (String × String)
  summaryArtifactIds : List String
  truncation : List (String × String)
  egressDecision : EgressDecision
  completenessStatus : CompletenessStatus
  retrievalQueryFingerprint : String
  toolExpansionIds : List String
  candidateMemoryIds : List String
  includedMemoryIds : List String
  excludedMemory : List (String × String)
  deriving DecidableEq

structure ContextManifest where
  contextManifestId : String
  createdAt : Time
  content : ManifestContent
  deriving DecidableEq

/-- `manifest_hash`. -/
def ContextManifest.manifestHash (manifest : ContextManifest) : ManifestContent := manifest.content

structure PromptEvidence where
  evidenceId : String
  evidenceClass : String
  canonicalSourceId : Option String
  content : Option String
  deriving DecidableEq

/-- The package that a user prompt is the JSON text of. -/
structure PromptPackage where
  taskContract : AgentTaskContract
  manifestHash : ManifestContent
  expectedArtifactSchema : Document
  unknownEvidenceClasses : List String
  forbiddenEvidenceClasses : List String
  evidence : List PromptEvidence
  memoryClaims : List MemoryItem
  toolCapabilities : List ToolCapability
  toolExpansions : List PromptEvidence
  deriving DecidableEq

structure CompiledContext where
  systemPrompt : String
  userPrompt : PromptPackage
  manifest : ContextManifest
  toolCapabilities : List ToolCapability
  deriving DecidableEq

structure Usage where
  inputTokens : Option ℕ
  outputTokens : Option ℕ
  reasoningTokens : Option ℕ
  cacheReadTokens : Option ℕ
  cacheWriteTokens : Option ℕ
  tokenCountMethod : String
  deriving DecidableEq

def Usage.counts (usage : Usage) : List (Option ℕ) :=
  [usage.inputTokens, usage.outputTokens, usage.reasoningTokens, usage.cacheReadTokens,
    usage.cacheWriteTokens]

/-- `Usage()`. -/
def Usage.reported : Usage := ⟨none, none, none, none, none, "provider_reported"⟩

/-- `Usage(token_count_method="unknown_conservative")`. -/
def Usage.unknownConservative : Usage := ⟨none, none, none, none, none, "unknown_conservative"⟩

/-- Rate tier selected from total billed tokens for a single documented request. -/
structure PricingTier where
  upToBilledTokens : Option ℕ
  inputPerMillion : Option ℚ
  outputPerMillion : Option ℚ
  reasoningPerMillion : Option ℚ
  cacheReadPerMillion : Option ℚ
  cacheWritePerMillion : Option ℚ
  deriving DecidableEq

structure PricingPlan where
  pricePlanId : String
  fixedRequest : ℚ
  inputPerMillion : ℚ
  outputPerMillion : ℚ
  reasoningPerMillion : ℚ
  cacheReadPerMillion : ℚ
  cacheWritePerMillion : ℚ
  minimumRequest : ℚ
  billFailed : Bool
  billTimeout : Bool
  unknownUsageReserve : Usage
  tieredRates : List PricingTier
  deriving DecidableEq

namespace PricingPlan

/-- Whether an outcome is charged for at all. -/
def billable (plan : PricingPlan) : AttemptStatus → Bool
  | .retryableFailure => plan.billTimeout
  | .nonretryableFailure => plan.billFailed
  | _ => true

/-- `sum(value or 0 for value in ...)`. -/
def totalTokens (usage : Usage) : ℕ := (usage.counts.map fun count => count.getD 0).sum

def tier (plan : PricingPlan) (tokens : ℕ) : Option PricingTier :=
  plan.tieredRates.find? fun candidate => ∀ bound ∈ candidate.upToBilledTokens, tokens ≤ bound

/-- The five rates, in the order of the counts: a tier's own where it has one. -/
def rates (plan : PricingPlan) (tier : Option PricingTier) : List ℚ :=
  [(tier.bind PricingTier.inputPerMillion).getD plan.inputPerMillion,
    (tier.bind PricingTier.outputPerMillion).getD plan.outputPerMillion,
    (tier.bind PricingTier.reasoningPerMillion).getD plan.reasoningPerMillion,
    (tier.bind PricingTier.cacheReadPerMillion).getD plan.cacheReadPerMillion,
    (tier.bind PricingTier.cacheWritePerMillion).getD plan.cacheWritePerMillion]

def tokenCost (ctx : DecimalContext) (counts : List (Option ℕ)) (rates : List ℚ) : ℚ :=
  (counts.zip rates).foldl (fun cost (tokens, rate) =>
    match tokens with
    | none => cost
    | some tokens => ctx.add cost (ctx.div (ctx.mul tokens rate) 1000000)) 0

/-- `cost_components`: fixed cost, token cost and billable tokens of one attempt. -/
def costComponents (ctx : DecimalContext) (plan : PricingPlan) (usage : Usage)
    (outcome : AttemptStatus) : ℚ × ℚ × ℕ :=
  if plan.billable outcome then
    let resolved := if usage.tokenCountMethod = "unknown_conservative" then plan.unknownUsageReserve
      else usage
    let tokens := totalTokens resolved
    (plan.fixedRequest, tokenCost ctx resolved.counts (plan.rates (plan.tier tokens)), tokens)
  else (0, 0, 0)

/-- `quantize(Decimal("0.000001"), rounding=ROUND_UP)`, which raises when the
result does not fit the context's precision. -/
def quantizeMicro (ctx : DecimalContext) (amount : ℚ) : Option ℚ :=
  let units := roundUp (amount * 1000000)
  if ∀ digits ∈ ctx.prec, |units| < 10 ^ digits then some (units / 1000000) else none

def cost (ctx : DecimalContext) (plan : PricingPlan) (usage : Usage) (outcome : AttemptStatus) :
    Option ℚ :=
  let components := plan.costComponents ctx usage outcome
  quantizeMicro ctx (max (ctx.add components.1 components.2.1) plan.minimumRequest)

end PricingPlan

@[ext]
structure RouteCapabilities where
  contextWindow : ℕ
  maxOutputTokens : ℕ
  reasoningEfforts : List String
  toolsSupported : Bool
  timeoutSeconds : ℚ
  timeout_pos : 0 < timeoutSeconds

instance : DecidableEq RouteCapabilities := fun _ _ => decidable_of_iff _ RouteCapabilities.ext_iff.symm

/-- Calibration measured on controlled common or challenger tasks. -/
structure TaskClassRouteMetrics where
  taskClass : String
  semanticAcceptance : ℚ
  reliability : ℚ
  correctionRate : ℚ
  reversalRate : ℚ
  sampleCount : ℕ
  benchmarkId : Option String
  deriving DecidableEq

structure ProviderRoute where
  routeId : String
  providerClass : String
  adapter : String
  modelFamily : String
  modelVersion : Option String
  upstreamCorrelationDomain : String
  egressClearance : Classification
  retentionKnown : Bool
  mayTrainOnPrompts : Option Bool
  licenseApproved : Bool
  sealedEvaluatorApproved : Bool
  health : ProviderHealth
  capabilities : RouteCapabilities
  pricing : PricingPlan
  qualityFloor : ℚ
  reliabilityFloor : ℚ
  observedSemanticAcceptance : ℚ
  observedReliability : ℚ
  expectedRework : ℚ
  taskMetrics : List TaskClassRouteMetrics
  /-- `configured_host_only`, as far as it concerns these fields. -/
  license : licenseApproved = true
  retention : Classification.confidential.rank ≤ egressClearance.rank → retentionKnown = true
  sealing : egressClearance = .sealed → sealedEvaluatorApproved = true
  deriving DecidableEq

structure RawProviderResponse where
  text : String
  usage : Usage
  modelVersion : Option String
  stopReason : Option String

structure InferenceAttempt where
  inferenceAttemptId : String
  inferenceRequestId : String
  attemptNo : ℕ
  providerRouteId : String
  leaseFence : ℕ
  modelFamily : String
  modelVersion : Option String
  upstreamCorrelationDomain : Option String
  reasoningEffort : String
  promptManifestHash : ManifestContent
  completedAt : Option Time
  status : AttemptStatus
  errorClass : Option String
  usage : Usage
  pricingPlanId : Option String
  fixedCallCost : Option ℚ
  tokenCost : Option ℚ
  billedTokens : Option ℕ
  providerReportedCost : Option ℚ
  totalCost : ℚ
  outputArtifact : Option Document
  deriving DecidableEq

structure InferenceResult where
  requestId : String
  status : AttemptStatus
  artifact : Option Document
  failureReason : Option String
  routeId : Option String

end Liki.Inference
