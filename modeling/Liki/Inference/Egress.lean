import Liki.Inference.Broker
import Liki.Inference.Context
import Liki.Inference.PostgresBackend

/-! What a fallback route may receive. The compiler holds every item of a prompt
against the route it compiles for; the broker holds another route against the
manifest of the compiled context. The manifest speaks for the evidence of the
context and not for its memories. -/
namespace Liki.Inference
open DecimalArithmetic Checks List DecimalContext

variable {language : Language} {ctx : DecimalContext} {circuitIsOpen : String → Bool}
  {request : InferenceRequest} {context : CompiledContext} {usage : Usage} {route : ProviderRoute}
  {compiler : ContextCompiler}

structure Guards (route : ProviderRoute) (classification : Classification) : Prop where
  cleared : classification.rank ≤ route.egressClearance.rank
  retained : Classification.confidential.rank ≤ classification.rank →
    route.retentionKnown = true ∧ route.mayTrainOnPrompts = some false

def Shows (compiler : ContextCompiler) (context : CompiledContext) (item : EvidenceItem) : Prop :=
  item ∈ compiler.evidence ∧ item.shown ∈ context.userPrompt.evidence

/-- A route may receive everything whose text is in the prompt. -/
structure GuardsPrompt (compiler : ContextCompiler) (context : CompiledContext) (route : ProviderRoute) :
    Prop where
  evidence : ∀ item, Shows compiler context item → Guards route item.classification
  memories : ∀ memory ∈ context.userPrompt.memoryClaims, Guards route memory.classification

/-- The prompt shows the item or its tools can read it. -/
def Reaches (context : CompiledContext) (item : EvidenceItem) : Prop :=
  item.evidenceId ∈ context.manifest.content.includedEvidenceIds ∨
    item.evidenceId ∈ context.manifest.content.toolAddressableEvidenceIds

def MemoriesCovered (compiler : ContextCompiler) (context : CompiledContext) : Prop :=
  ∀ memory ∈ context.userPrompt.memoryClaims, memory.classification = .public ∨
    ∃ item ∈ compiler.evidence, Reaches context item ∧
      memory.classification.rank ≤ item.classification.rank

theorem diverse_sublist (domains : List String) (routes : List ProviderRoute) :
    (diverse domains routes).Sublist routes := by
  induction routes generalizing domains with
  | nil => exact List.Sublist.slnil
  | cons route routes ih =>
    rw [diverse]
    split
    · exact (ih domains).cons route
    · exact (ih _).cons_cons route

theorem suitableRoutes_eligible
    (ok : suitableRoutes language ctx circuitIsOpen request context usage routes = .ok suitable) :
    ∀ route ∈ suitable, route ∈ routes ∧ eligible language circuitIsOpen request context route := by
  induction routes generalizing suitable with
  | nil =>
    rw [suitableRoutes, pure_ok] at ok
    subst ok
    exact fun route member => nomatch member
  | cons first routes ih =>
    rw [suitableRoutes] at ok
    have others : ∀ {rest}, suitableRoutes language ctx circuitIsOpen request context usage routes =
        .ok rest → ∀ route ∈ rest, route ∈ first :: routes ∧
          eligible language circuitIsOpen request context route :=
      fun found route member => ⟨mem_cons_of_mem _ (ih found route member).1,
        (ih found route member).2⟩
    by_cases fits : eligible language circuitIsOpen request context first
    · simp only [fits, if_true, bind_ok] at ok
      obtain ⟨_, -, ok⟩ := ok
      split at ok
      · exact others ok
      · simp only [bind_ok, pure_ok] at ok
        obtain ⟨_, found, rfl⟩ := ok
        intro route member
        rcases mem_cons.mp member with rfl | later
        · exact ⟨mem_cons_self, fits⟩
        · exact others found route later
    · simp only [fits] at ok
      exact others ok

/-- Every selected route is registered and passed the checks. -/
theorem selectRoutes_eligible {broker : InferenceBroker}
    (ok : broker.selectRoutes language ctx circuitIsOpen request context usage = .ok routes) :
    ∀ route ∈ routes, route ∈ broker.routes ∧
      eligible language circuitIsOpen request context route := by
  simp only [InferenceBroker.selectRoutes, bind_ok, pure_ok] at ok
  obtain ⟨suitable, collected, keyed, ranks, rfl⟩ := ok
  have sorted : ∀ route ∈ (keyed.insertionSort precedes).map Prod.snd, route ∈ suitable := by
    intro route member
    obtain ⟨pair, held, rfl⟩ := mem_map.mp member
    obtain ⟨_, listed, same⟩ :=
      mem_of_mapM ranks pair ((perm_insertionSort precedes keyed).mem_iff.mp held)
    simp only [ranked, map_ok] at same
    obtain ⟨_, -, rfl⟩ := same
    exact listed
  intro route member
  refine suitableRoutes_eligible collected route (sorted route ?_)
  rcases mem_append.mp member with early | late
  · exact (diverse_sublist [] _).subset early
  · exact mem_of_mem_filter late

theorem contextSafe_of_eligible (fits : eligible language circuitIsOpen request context route) :
    contextSafeForRoute context route = true := by
  simp only [eligible, Bool.and_eq_true] at fits
  exact fits.1.1.1.1.1.1.1.1.2

theorem guards_of_safe (safe : contextSafeForRoute context route = true)
    (spoken : classification.rank ≤
      context.manifest.content.egressDecision.highestPromptAccessibleClassification) :
    Guards route classification := by
  simp only [contextSafeForRoute] at safe
  split at safe
  · cases safe
  · rename_i cleared
    refine ⟨by omega, fun confidential => ?_⟩
    rw [if_pos (confidential.trans spoken)] at safe
    simpa using safe

theorem compile_ok (ok : compiler.compile = .ok context) :
    compiler.evidenceIds.Nodup ∧ ∃ eligible, compiler.eligibleMemories = .ok eligible ∧
      context = ⟨ContextCompiler.systemPrompt, compiler.package eligible, compiler.manifest eligible,
        compiler.exposedTools⟩ := by
  simp only [ContextCompiler.compile, bind_ok, guard_ok, not_not, pure_ok] at ok
  obtain ⟨-, -, -, distinct, -, -, -, -, -, eligible, found, rfl⟩ := ok
  exact ⟨distinct, eligible, found, rfl⟩

theorem highest_le_iff (compiler : ContextCompiler) (bound : ℕ) :
    compiler.egress.highestPromptAccessibleClassification ≤ bound ↔
      ∀ item ∈ compiler.accessible, item.classification.rank ≤ bound := by
  unfold ContextCompiler.egress
  induction compiler.accessible with
  | nil => simp
  | cons _ _ ih =>
    simp only [map_cons, foldr_cons, forall_mem_cons, max_le_iff] at ih ⊢
    rw [ih]

theorem mem_sortedSet : name ∈ sortedSet names ↔ name ∈ names := by
  simp [sortedSet]

theorem reaches_iff (ok : compiler.compile = .ok context) (given : item ∈ compiler.evidence) :
    Reaches context item ↔ item ∈ compiler.accessible := by
  obtain ⟨-, _, -, rfl⟩ := compile_ok ok
  simp [Reaches, ContextCompiler.manifest, ContextCompiler.accessible, mem_sortedSet, given]

theorem reaches_of_shows (ok : compiler.compile = .ok context) (shows : Shows compiler context item) :
    Reaches context item := by
  obtain ⟨-, _, -, rfl⟩ := compile_ok ok
  obtain ⟨_, shown⟩ := shows
  obtain ⟨other, included, same⟩ := mem_map.mp shown
  left
  have named : other.evidenceId = item.evidenceId := congrArg PromptEvidence.evidenceId same
  exact named ▸ mem_map_of_mem included

theorem spoken_of_reaches (ok : compiler.compile = .ok context) (given : item ∈ compiler.evidence)
    (within : Reaches context item) :
    item.classification.rank ≤
      context.manifest.content.egressDecision.highestPromptAccessibleClassification := by
  have counted := (reaches_iff ok given).mp within
  obtain ⟨-, _, -, rfl⟩ := compile_ok ok
  exact (highest_le_iff compiler _).mp le_rfl item counted

theorem guardsPrompt_of_covered (ok : compiler.compile = .ok context)
    (covered : MemoriesCovered compiler context) (safe : contextSafeForRoute context route = true) :
    GuardsPrompt compiler context route where
  evidence := fun _ shows =>
    guards_of_safe safe (spoken_of_reaches ok shows.1 (reaches_of_shows ok shows))
  memories := by
    intro memory member
    rcases covered memory member with isPublic | ⟨_, given, within, below⟩
    · refine guards_of_safe safe ?_
      rw [isPublic]
      exact Nat.zero_le _
    · exact guards_of_safe safe (below.trans (spoken_of_reaches ok given within))

theorem selectRoutes_only (fits : eligible language circuitIsOpen request context route = true)
    (price : conservativeCost ctx route usage .semanticAccepted = .ok cost)
    (affordable : ∀ maximum ∈ request.maxCallCost, cost ≤ maximum) :
    (InferenceBroker.build [route] adapters retryPolicy).selectRoutes language ctx circuitIsOpen request
      context usage = .ok [route] := by
  have cheap : ¬∃ maximum ∈ request.maxCallCost, maximum < cost := by
    rintro ⟨maximum, capped, below⟩
    exact absurd (affordable maximum capped) below.not_ge
  have suitable : suitableRoutes language ctx circuitIsOpen request context usage [route] =
      .ok [route] := by
    simp only [suitableRoutes, fits, if_true, price, ok_bind, cheap, if_false]
    rfl
  have keyed : ∃ expected, ranked language ctx usage request.taskClass route = .ok (expected, route) := by
    rw [ranked, expectedCost, price]
    exact ⟨_, rfl⟩
  obtain ⟨_, keyed⟩ := keyed
  have registered : (InferenceBroker.build [route] adapters retryPolicy).routes = [route] := rfl
  rw [InferenceBroker.selectRoutes, registered, suitable, ok_bind, mapM_cons, keyed]
  simp [ok_bind, diverse, pure, Except.pure]

/-! ### A fallback at the manifest's rank

The manifest admits a free route that is cleared for just the rank it records. -/

def freePlan : PricingPlan :=
  ⟨"free", 0, 0, 0, 0, 0, 0, 0, false, false, .reported, []⟩

def fallbackRoute (language : Language) (request : InferenceRequest) (context : CompiledContext)
    (clearance : Classification) (unsealed : clearance ≠ .sealed) : ProviderRoute where
  routeId := "fallback"
  providerClass := request.allowedProviderClasses.headD "direct"
  adapter := "openai_chat"
  modelFamily := "family"
  modelVersion := none
  upstreamCorrelationDomain := "upstream"
  egressClearance := clearance
  retentionKnown := true
  mayTrainOnPrompts := some false
  licenseApproved := true
  sealedEvaluatorApproved := false
  health := .healthy
  capabilities := ⟨promptTokens language context + 1, 1, [request.preferredReasoningEffort], true, 1,
    by decide⟩
  pricing := freePlan
  qualityFloor := 0
  reliabilityFloor := 0
  observedSemanticAcceptance := 1
  observedReliability := 1
  expectedRework := 0
  taskMetrics := [⟨request.taskClass, 1, 1, 0, 0, 1, request.routingBenchmarkId⟩]
  license := rfl
  retention := fun _ => rfl
  sealing := fun sealed => absurd sealed unsealed

theorem tokenCost_free (counts : List (Option ℕ)) (free : ∀ rate ∈ rates, rate = 0) :
    PricingPlan.tokenCost ctx counts rates = 0 := by
  have zero : ctx.round 0 = 0 := ctx.fits_zero
  unfold PricingPlan.tokenCost
  induction counts generalizing rates with
  | nil => rfl
  | cons tokens _ ih =>
    cases rates with
    | nil => rfl
    | cons =>
      obtain ⟨rfl, rest⟩ := forall_mem_cons.mp free
      rw [zip_cons_cons, foldl_cons]
      cases tokens with
      | none => exact ih rest
      | some =>
        simp only [mul, div, add, mul_zero, zero, zero_div,
          add_zero]
        exact ih rest

theorem cost_free (usage : Usage) (outcome : AttemptStatus) : freePlan.cost ctx usage outcome = some 0 := by
  have zero : ctx.round 0 = 0 := ctx.fits_zero
  have untiered : ∀ tokens, freePlan.tier tokens = none := fun tokens => rfl
  have free : ∀ rate ∈ freePlan.rates none, rate = 0 := by simp [PricingPlan.rates, freePlan]
  have components : ∃ tokens, freePlan.costComponents ctx usage outcome = (0, 0, tokens) := by
    unfold PricingPlan.costComponents
    split
    · simp only [untiered, tokenCost_free _ free]
      exact ⟨_, rfl⟩
    · exact ⟨0, rfl⟩
  obtain ⟨_, components⟩ := components
  rw [PricingPlan.cost, components]
  simp [PricingPlan.quantizeMicro, add, zero, freePlan, roundUp]

variable {clearance : Classification} {unsealed : clearance ≠ .sealed}

theorem conservativeCost_fallback :
    conservativeCost ctx (fallbackRoute language request context clearance unsealed) usage
      .semanticAccepted = .ok 0 := by
  rw [conservativeCost, show (fallbackRoute language request context clearance unsealed).pricing =
    freePlan from rfl, cost_free]
  rfl

theorem eligible_fallback (closed : ∀ routeId, circuitIsOpen routeId = false)
    (manifested : clearance.rank =
      context.manifest.content.egressDecision.highestPromptAccessibleClassification) :
    eligible language circuitIsOpen request context
      (fallbackRoute language request context clearance unsealed) = true := by
  have safe : contextSafeForRoute context
      (fallbackRoute language request context clearance unsealed) = true := by
    simp [contextSafeForRoute, fallbackRoute, manifested]
  have measured : metrics (fallbackRoute language request context clearance unsealed) request.taskClass =
      ⟨request.taskClass, 1, 1, 0, 0, 1, request.routingBenchmarkId⟩ := by
    simp [metrics, fallbackRoute]
  have benchmarked : hasRequiredBenchmark (fallbackRoute language request context clearance unsealed)
      request.taskClass request.routingBenchmarkId = true := by
    cases named : request.routingBenchmarkId <;> simp [hasRequiredBenchmark, fallbackRoute, named]
  have classed : request.allowedProviderClasses = [] ∨
      request.allowedProviderClasses.head?.getD "direct" ∈ request.allowedProviderClasses := by
    cases request.allowedProviderClasses with
    | nil => exact .inl rfl
    | cons => exact .inr (by simp)
  obtain ⟨accepts, relies⟩ := request.floors_le_one
  simp only [eligible, safe, measured, benchmarked, closed]
  simp [fallbackRoute, classed, accepts, relies]

theorem exists_unsealed (below : rank < Classification.sealed.rank) :
    ∃ clearance : Classification, clearance.rank = rank ∧ clearance ≠ .sealed := by
  have bounded : rank < 4 := below
  obtain rfl | rfl | rfl | rfl : rank = 0 ∨ rank = 1 ∨ rank = 2 ∨ rank = 3 := by omega
  · exact ⟨.public, rfl, by decide⟩
  · exact ⟨.internal, rfl, by decide⟩
  · exact ⟨.confidential, rfl, by decide⟩
  · exact ⟨.secret, rfl, by decide⟩

theorem rank_le_sealed (classification : Classification) :
    classification.rank ≤ Classification.sealed.rank := by
  cases classification <;> decide

/-- A memory that nothing within reach covers outranks the manifest. -/
theorem manifest_below_uncovered (ok : compiler.compile = .ok context) {memory : MemoryItem}
    (secretive : memory.classification ≠ .public)
    (alone : ∀ item ∈ compiler.evidence, Reaches context item →
      item.classification.rank < memory.classification.rank) :
    context.manifest.content.egressDecision.highestPromptAccessibleClassification <
      memory.classification.rank := by
  have positive : 0 < memory.classification.rank := by
    cases classified : memory.classification with
    | «public» => exact absurd classified secretive
    | internal | confidential | secret | sealed => decide
  have bounded : compiler.egress.highestPromptAccessibleClassification ≤
      memory.classification.rank - 1 := by
    refine (highest_le_iff compiler _).mpr fun item counted => ?_
    have given : item ∈ compiler.evidence := mem_of_mem_filter counted
    have lower := alone item given ((reaches_iff ok given).mpr counted)
    omega
  obtain ⟨-, _, -, rfl⟩ := compile_ok ok
  simp only [ContextCompiler.manifest]
  omega

/-- For every request, the broker sends a compiled context only to routes that
may receive its prompt exactly when the memories of the prompt are covered. -/
theorem selected_routes_guard_prompt_iff (language : Language) (ctx : DecimalContext)
    (compiler : ContextCompiler) (context : CompiledContext) (request : InferenceRequest)
    (compiled : compiler.compile = .ok context) :
    (∀ (broker : InferenceBroker) (circuitIsOpen : String → Bool) (usage : Usage)
        (routes : List ProviderRoute),
        broker.selectRoutes language ctx circuitIsOpen request context usage = .ok routes →
        ∀ route ∈ routes, GuardsPrompt compiler context route) ↔ MemoriesCovered compiler context := by
  constructor
  · intro guarded memory member
    by_contra uncovered
    rw [not_or] at uncovered
    obtain ⟨secretive, alone⟩ := uncovered
    have below := manifest_below_uncovered compiled secretive fun item given within => by
      by_contra reaches
      exact alone ⟨item, given, within, not_lt.mp reaches⟩
    obtain ⟨clearance, manifested, unsealed⟩ :=
      exists_unsealed (below.trans_le (rank_le_sealed memory.classification))
    -- The route cleared for what the manifest records is selected and sees the memory.
    have receives : GuardsPrompt compiler context
        (fallbackRoute language request context clearance unsealed) :=
      guarded (.build [_] [] ⟨0, 1⟩) (fun _ => false) Usage.reported _
        (selectRoutes_only (eligible_fallback (fun _ => rfl) manifested) conservativeCost_fallback
          request.call_cost_nonneg) _ mem_cons_self
    have cleared : memory.classification.rank ≤ clearance.rank :=
      (receives.memories memory member).cleared
    omega
  · intro covered broker circuitIsOpen usage routes selected route member
    have fits := (selectRoutes_eligible selected route member).2
    exact guardsPrompt_of_covered compiled covered (contextSafe_of_eligible fits)

def sampleLanguage : Language where
  floatAdd := (· + ·)
  floatMul := (· * ·)
  decimalOfFloat := id
  dumps := fun package => String.join (package.memoryClaims.map MemoryItem.claim)

def memoryCompiler (classification : Classification) : ContextCompiler where
  request := sampleRequest
  contract := ⟨"run", "analyst", "question", [], [], [], [], [], "{}", "success", "stop", "{}", "{}", none,
    none⟩
  route := { sampleRoute with
    egressClearance := .confidential
    retention := fun _ => rfl
    sealing := fun sealed => Classification.noConfusion sealed }
  evidence := []
  requiredEvidenceClasses := []
  retrievalVersion := "1"
  retrievalQuery := "query"
  tools := []
  toolAddressableIds := []
  memories := [⟨"memory", "the book is short", "verdict", [], .candidate, [], [], [], 0, none, "policy",
    classification, true, [], [], []⟩]
  tokenBudget := 1000
  manifestId := "manifest"
  createdAt := 0

def memoryContext (classification : Classification) : CompiledContext :=
  let compiler := memoryCompiler classification
  ⟨ContextCompiler.systemPrompt, compiler.package compiler.memories, compiler.manifest compiler.memories, []⟩

theorem memoryContext_short (classification : Classification) :
    promptTokens sampleLanguage (memoryContext classification) ≤ 100 := by
  have instruction : (memoryContext classification).systemPrompt.length ≤ 200 := by
    change ContextCompiler.systemPrompt.length ≤ 200
    decide +kernel
  have claims : (sampleLanguage.dumps (memoryContext classification).userPrompt).length ≤ 100 := by
    cases classification <;> decide +kernel
  unfold promptTokens
  omega

theorem memoryContext_selects (classification : Classification) :
    (InferenceBroker.build [sampleRoute] [] ⟨0, 1⟩).selectRoutes sampleLanguage .exact (fun _ => false)
      sampleRequest (memoryContext classification) .reported = .ok [sampleRoute] := by
  have price : conservativeCost .exact sampleRoute .reported .semanticAccepted = .ok 0 := by
    decide +kernel
  refine selectRoutes_only ?_ price fun maximum capped => nomatch capped
  have short := memoryContext_short classification
  have window : promptTokens sampleLanguage (memoryContext classification) +
      sampleRoute.capabilities.maxOutputTokens ≤ sampleRoute.capabilities.contextWindow := by
    change _ + 1000 ≤ 8000
    omega
  rw [eligible, decide_eq_true window]
  cases classification <;> decide +kernel

/-- A PUBLIC memory may be sent to the fallback. -/
theorem selected_routes_guard_prompt_public :
    GuardsPrompt (memoryCompiler .public) (memoryContext .public) sampleRoute := by
  have covered : MemoriesCovered (memoryCompiler .public) (memoryContext .public) := by
    intro memory member
    have known := mem_of_mem_filter (show memory ∈ (memoryCompiler .public).includedMemory _ from member)
    left
    rw [mem_singleton.mp known]
  exact (selected_routes_guard_prompt_iff sampleLanguage .exact (memoryCompiler .public)
    (memoryContext .public) sampleRequest rfl).mpr covered _ _ _ _ (memoryContext_selects .public) sampleRoute
    mem_cons_self

/-- A CONFIDENTIAL memory is compiled into the prompt for one route, and the
fallback that is selected for it is cleared for INTERNAL only. -/
theorem fallback_receives_confidential_memory :
    (memoryCompiler .confidential).compile = .ok (memoryContext .confidential) ∧
    (InferenceBroker.build [sampleRoute] [] ⟨0, 1⟩).selectRoutes sampleLanguage .exact (fun _ => false)
      sampleRequest (memoryContext .confidential) .reported = .ok [sampleRoute] ∧
    ¬GuardsPrompt (memoryCompiler .confidential) (memoryContext .confidential) sampleRoute := by
  refine ⟨rfl, memoryContext_selects .confidential, fun guards => ?_⟩
  have cleared := (guards.memories _ mem_cons_self).cleared
  exact absurd cleared (by decide)

end Liki.Inference
