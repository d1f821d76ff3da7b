import Liki.Inference.Types
import Liki.Store
import Mathlib.Data.List.Sort

/-! Value-gated routing. The broker prices a route conservatively, keeps the
routes that suit a request and a context, and orders them by expected cost, one
of each correlation domain first. -/
namespace Liki.Inference
open DecimalArithmetic Checks

/-- What the broker computes with besides decimals: binary floating point, the
decimal numeral of a float, and the text of a prompt. -/
structure Language where
  floatAdd : ℚ → ℚ → ℚ
  floatMul : ℚ → ℚ → ℚ
  /-- `Decimal(str(value))`. -/
  decimalOfFloat : ℚ → ℚ
  /-- `json.dumps(package, sort_keys=True, separators=(",", ":"))`. -/
  dumps : PromptPackage → String

structure RetryPolicy where
  sameRouteRetries : ℤ
  circuitFailureThreshold : ℤ

/-- A price that does not fit the decimal context raises. -/
def priced (price : Option ℚ) : Except ServiceError ℚ := expect price .invalidOperation

/-- `_conservative_usage`: unknown counts are taken from the reserve of the plan. -/
def conservativeUsage (route : ProviderRoute) (usage : Usage) : Usage :=
  let reserve := route.pricing.unknownUsageReserve
  if none ∈ usage.counts then
    { inputTokens := usage.inputTokens.or reserve.inputTokens
      outputTokens := usage.outputTokens.or reserve.outputTokens
      reasoningTokens := usage.reasoningTokens.or reserve.reasoningTokens
      cacheReadTokens := usage.cacheReadTokens.or reserve.cacheReadTokens
      cacheWriteTokens := usage.cacheWriteTokens.or reserve.cacheWriteTokens
      tokenCountMethod := "estimated_with_conservative_defaults" }
  else usage

/-- `_conservative_cost`. -/
def conservativeCost (ctx : DecimalContext) (route : ProviderRoute) (usage : Usage)
    (status : AttemptStatus) : Except ServiceError ℚ :=
  priced (route.pricing.cost ctx (conservativeUsage route usage) status)

/-- `_response_cost`. -/
def responseCost (ctx : DecimalContext) (route : ProviderRoute) (usage : Usage) (status : AttemptStatus)
    (reservation : ℚ) : Except ServiceError ℚ :=
  if none ∉ usage.counts then priced (route.pricing.cost ctx usage status)
  else do
    let conservative ← conservativeCost ctx route usage status
    return max reservation conservative

/-- `_metrics`: those of the first calibration for the task class. -/
def metrics (route : ProviderRoute) (taskClass : String) : TaskClassRouteMetrics :=
  (route.taskMetrics.find? fun metrics => metrics.taskClass = taskClass).getD
    ⟨taskClass, route.observedSemanticAcceptance, route.observedReliability, 0, 0, 0, none⟩

/-- `_has_required_benchmark`. -/
def hasRequiredBenchmark (route : ProviderRoute) (taskClass : String)
    (requiredBenchmarkId : Option String) : Bool :=
  match requiredBenchmarkId with
  | none => true
  | some benchmarkId => route.taskMetrics.any fun metrics =>
      metrics.taskClass = taskClass && metrics.benchmarkId = some benchmarkId &&
        decide (0 < metrics.sampleCount)

/-- The float literal `0.01`. -/
def leastProbability : ℚ := 5764607523034235 / 576460752303423488

/-- `expected_cost`. -/
def expectedCost (language : Language) (ctx : DecimalContext) (route : ProviderRoute) (usage : Usage)
    (taskClass : String) : Except ServiceError ℚ := do
  let direct ← conservativeCost ctx route usage .semanticAccepted
  let measured := metrics route taskClass
  let acceptedProbability :=
    max (language.floatMul measured.semanticAcceptance measured.reliability) leastProbability
  let rework := ctx.mul route.expectedRework (language.decimalOfFloat
    (language.floatAdd (language.floatAdd 1 measured.correctionRate) measured.reversalRate))
  return ctx.add (ctx.div direct (language.decimalOfFloat acceptedProbability)) rework

/-- `_context_safe_for_route`: a fallback may only receive a context no less
protected than its original route. -/
def contextSafeForRoute (context : CompiledContext) (route : ProviderRoute) : Bool :=
  let decision := context.manifest.content.egressDecision
  let requiredRank := decision.highestPromptAccessibleClassification
  if route.egressClearance.rank < requiredRank then false
  else if Classification.confidential.rank ≤ requiredRank then
    route.retentionKnown && route.mayTrainOnPrompts = some false
  else decision.mayTrainOnPrompts ≠ some false || route.mayTrainOnPrompts = some false

/-- `prompt_tokens`. -/
def promptTokens (language : Language) (context : CompiledContext) : ℕ :=
  max 1 ((context.systemPrompt.length + (language.dumps context.userPrompt).length) / 4)

/-- The checks of one route that need no price. -/
def eligible (language : Language) (circuitIsOpen : String → Bool) (request : InferenceRequest)
    (context : CompiledContext) (route : ProviderRoute) : Bool :=
  let measured := metrics route request.taskClass
  !(request.allowedProviderClasses ≠ [] && route.providerClass ∉ request.allowedProviderClasses) &&
  hasRequiredBenchmark route request.taskClass request.routingBenchmarkId &&
  contextSafeForRoute context route && route.licenseApproved &&
  route.health ∈ [.healthy, .degraded] &&
  !circuitIsOpen route.routeId &&
  decide (promptTokens language context + route.capabilities.maxOutputTokens ≤
    route.capabilities.contextWindow) &&
  request.preferredReasoningEffort ∈ "standard" :: route.capabilities.reasoningEfforts &&
  !((request.requiresTools || context.toolCapabilities ≠ []) && !route.capabilities.toolsSupported) &&
  decide (max route.qualityFloor request.minSemanticAcceptance ≤ measured.semanticAcceptance) &&
  decide (max route.reliabilityFloor request.minReliability ≤ measured.reliability)

def suitableRoutes (language : Language) (ctx : DecimalContext) (circuitIsOpen : String → Bool)
    (request : InferenceRequest) (context : CompiledContext) (usage : Usage) :
    List ProviderRoute → Except ServiceError (List ProviderRoute)
  | [] => return []
  | route :: routes => do
    let others := suitableRoutes language ctx circuitIsOpen request context usage routes
    if eligible language circuitIsOpen request context route then
      let directCost ← conservativeCost ctx route usage .semanticAccepted
      if ∃ maximum ∈ request.maxCallCost, maximum < directCost then others
      else return route :: (← others)
    else others

def ranked (language : Language) (ctx : DecimalContext) (usage : Usage) (taskClass : String)
    (route : ProviderRoute) : Except ServiceError (ℚ × ProviderRoute) :=
  (expectedCost language ctx route usage taskClass).map fun cost => (cost, route)

/-- `(expected_cost, route_id)`. -/
def precedes (first second : ℚ × ProviderRoute) : Prop :=
  first.1 < second.1 ∨ (first.1 = second.1 ∧ first.2.routeId ≤ second.2.routeId)

instance : DecidableRel precedes := fun _ _ => inferInstanceAs (Decidable (_ ∨ _))

def diverse : List String → List ProviderRoute → List ProviderRoute
  | _, [] => []
  | seenDomains, route :: routes =>
    if route.upstreamCorrelationDomain ∈ seenDomains then diverse seenDomains routes
    else route :: diverse (route.upstreamCorrelationDomain :: seenDomains) routes

structure InferenceBroker where
  routes : List ProviderRoute
  adapters : List String
  retryPolicy : RetryPolicy
  distinct : KeyedRows.Distinct ProviderRoute.routeId routes

/-- `InferenceBroker(...)`: of routes with one id the last stays. -/
def InferenceBroker.build (routes : List ProviderRoute) (adapters : List String)
    (retryPolicy : RetryPolicy) : InferenceBroker where
  routes := routes.foldl (fun registry route => KeyedRows.upsert ProviderRoute.routeId route registry) []
  adapters := adapters
  retryPolicy := retryPolicy
  distinct := by
    have start : KeyedRows.Distinct ProviderRoute.routeId ([] : List ProviderRoute) := List.nodup_nil
    revert start
    generalize ([] : List ProviderRoute) = registry
    induction routes generalizing registry with
    | nil => exact fun start => start
    | cons route _ ih => exact fun start => ih _ (KeyedRows.distinct_upsert start route)

def InferenceBroker.selectRoutes (broker : InferenceBroker) (language : Language) (ctx : DecimalContext)
    (circuitIsOpen : String → Bool) (request : InferenceRequest) (context : CompiledContext)
    (usage : Usage) : Except ServiceError (List ProviderRoute) := do
  let suitable ← suitableRoutes language ctx circuitIsOpen request context usage broker.routes
  let keyed ← suitable.mapM (ranked language ctx usage request.taskClass)
  let sorted := (keyed.insertionSort precedes).map Prod.snd
  let first := diverse [] sorted
  return first ++ sorted.filter fun route => route ∉ first

end Liki.Inference
