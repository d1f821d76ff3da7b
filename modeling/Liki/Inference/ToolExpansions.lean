import Liki.Inference.ContextContents

/-! Expansions of a compiled context. An on-demand read is attached to the prompt and to the manifest at once,
and a refused one to neither, so the two tell the same after any number of attempts. The route of an expansion
is known by its id alone: its clearance is the one that the caller hands in. -/
namespace Liki.Inference
open Checks CallSystem ContextCompiler List

variable {compiler : ContextCompiler} {initial context after : CompiledContext} {item : EvidenceItem}
  {route : ProviderRoute} {calls : List (EvidenceItem × ProviderRoute)}

def expand : Handler CompiledContext (EvidenceItem × ProviderRoute) ContextRejected Unit
  | context, (evidence, route) => (applyToolExpansion context evidence route).map fun after => ((), after)

structure Expandable (manifest : ContextManifest) (item : EvidenceItem) (route : ProviderRoute) : Prop where
  sameRoute : manifest.content.egressDecision.routeId = route.routeId
  declared : item.evidenceId ∈ manifest.content.toolAddressableEvidenceIds
  fresh : item.evidenceId ∉ manifest.content.toolExpansionIds
  retrieved : item.retrievalStatus = .retrieved
  unsecret : item.classification ≠ .secret
  cleared : item.classification.rank ≤ route.egressClearance.rank
  licensed : item.licenseAllowsExternalEgress = true

def ContextManifest.expanded (manifest : ContextManifest) (evidenceId : String) : ContextManifest :=
  { manifest with content := { manifest.content with
    toolExpansionIds := manifest.content.toolExpansionIds ++ [evidenceId] } }

theorem recordToolExpansion_ok {manifest recorded : ContextManifest}
    (ok : recordToolExpansion manifest item route = .ok recorded) :
    Expandable manifest item route ∧ recorded = manifest.expanded item.evidenceId := by
  simp only [recordToolExpansion, bind_ok, guard_ok, not_not, not_lt, Bool.not_eq_false,
    pure_ok] at ok
  obtain ⟨sameRoute, declared, fresh, retrieved, unsecret, cleared, licensed, rfl⟩ := ok
  exact ⟨⟨sameRoute, declared, fresh, retrieved, unsecret, cleared, licensed⟩, rfl⟩

theorem applyToolExpansion_ok (ok : applyToolExpansion context item route = .ok after) :
    Expandable context.manifest item route ∧ after = { context with
      userPrompt := { context.userPrompt with
        manifestHash := (context.manifest.expanded item.evidenceId).manifestHash
        toolExpansions := context.userPrompt.toolExpansions ++ [item.shown] }
      manifest := context.manifest.expanded item.evidenceId } := by
  simp only [applyToolExpansion, bind_ok, pure_ok] at ok
  obtain ⟨_, recorded, rfl⟩ := ok
  obtain ⟨expandable, rfl⟩ := recordToolExpansion_ok recorded
  exact ⟨expandable, rfl⟩

def CompiledContext.unexpanded (context : CompiledContext) (hash : ManifestContent) : CompiledContext :=
  { context with
    userPrompt := { context.userPrompt with
      manifestHash := hash
      toolExpansions := [] }
    manifest := { context.manifest with content := { context.manifest.content with toolExpansionIds := [] } } }

structure Expanded (compiler : ContextCompiler) (initial : CompiledContext)
    (calls : List (EvidenceItem × ProviderRoute)) (context : CompiledContext) : Prop where
  hashed : context.userPrompt.manifestHash = context.manifest.manifestHash
  told : context.userPrompt.toolExpansions.map PromptEvidence.evidenceId = context.manifest.content.toolExpansionIds
  declared : ∀ evidenceId ∈ context.manifest.content.toolExpansionIds,
    evidenceId ∈ initial.manifest.content.toolAddressableEvidenceIds
  once : context.manifest.content.toolExpansionIds.Nodup
  items : ∀ shown ∈ context.userPrompt.toolExpansions, ∃ item route, (item, route) ∈ calls ∧ shown = item.shown ∧
    route.routeId = compiler.route.routeId ∧ item.retrievalStatus = .retrieved ∧
      item.licenseAllowsExternalEgress = true ∧ item.classification ≠ .secret ∧
        item.classification.rank ≤ route.egressClearance.rank
  kept : context.unexpanded initial.userPrompt.manifestHash = initial

theorem compiled_expanded (ok : compiler.compile = .ok context) : Expanded compiler context [] context := by
  obtain ⟨-, _, -, rfl⟩ := compile_ok ok
  exact ⟨rfl, rfl, fun _ member => absurd member not_mem_nil, nodup_nil,
    fun _ member => absurd member not_mem_nil, rfl⟩

theorem Expanded.routeId (expanded : Expanded compiler initial calls context)
    (ok : compiler.compile = .ok initial) :
    context.manifest.content.egressDecision.routeId = compiler.route.routeId := by
  have same := congrArg (fun context => context.manifest.content.egressDecision.routeId) expanded.kept
  obtain ⟨-, _, -, rfl⟩ := compile_ok ok
  exact same

theorem Expanded.addressable (expanded : Expanded compiler initial calls context) :
    context.manifest.content.toolAddressableEvidenceIds = initial.manifest.content.toolAddressableEvidenceIds :=
  congrArg (fun context => context.manifest.content.toolAddressableEvidenceIds) expanded.kept

theorem Expanded.refused (expanded : Expanded compiler initial calls context) (call : EvidenceItem × ProviderRoute) :
    Expanded compiler initial (calls ++ [call]) context where
  hashed := expanded.hashed
  told := expanded.told
  declared := expanded.declared
  once := expanded.once
  items := by
    intro shown member
    obtain ⟨item, route, handed, holds⟩ := expanded.items shown member
    exact ⟨item, route, mem_append_left [call] handed, holds⟩
  kept := expanded.kept

/-- An expansion keeps what holds. -/
theorem Expanded.applied (expanded : Expanded compiler initial calls context) (ok : compiler.compile = .ok initial)
    (applied : applyToolExpansion context item route = .ok after) :
    Expanded compiler initial (calls ++ [(item, route)]) after := by
  obtain ⟨expandable, rfl⟩ := applyToolExpansion_ok applied
  constructor
  · rfl
  · change (context.userPrompt.toolExpansions ++ [item.shown]).map PromptEvidence.evidenceId =
      context.manifest.content.toolExpansionIds ++ [item.evidenceId]
    rw [map_append, expanded.told]
    rfl
  · intro evidenceId member
    rcases mem_append.mp member with earlier | last
    · exact expanded.declared evidenceId earlier
    · rw [mem_singleton.mp last, ← expanded.addressable]
      exact expandable.declared
  · exact nodup_append.mpr ⟨expanded.once, nodup_singleton _, fun evidenceId earlier other last =>
      fun same => expandable.fresh (mem_singleton.mp last ▸ same ▸ earlier)⟩
  · intro shown member
    rcases mem_append.mp member with earlier | last
    · exact (expanded.refused (item, route)).items shown earlier
    · refine ⟨item, route, mem_append_right calls mem_cons_self, mem_singleton.mp last, ?_,
        expandable.retrieved, expandable.licensed, expandable.unsecret, expandable.cleared⟩
      rw [← expandable.sameRoute, expanded.routeId ok]
  · exact expanded.kept

theorem Expanded.next (expanded : Expanded compiler initial calls context) (ok : compiler.compile = .ok initial)
    (call : EvidenceItem × ProviderRoute) :
    Expanded compiler initial (calls ++ [call]) (next expand context call) := by
  obtain ⟨item, route⟩ := call
  cases result : expand context (item, route) with
  | error =>
    rw [next_of_error result]
    exact expanded.refused (item, route)
  | ok pair =>
    obtain ⟨⟨⟩, _⟩ := pair
    rw [next_of_ok result]
    simp only [expand, map_ok] at result
    obtain ⟨_, applied, same⟩ := result
    cases same
    exact expanded.applied ok applied

/-- Prompt and manifest agree after any attempts at expansions of a compiled context. -/
theorem expansions_agree (compiled : compiler.compile = .ok initial) (calls : List (EvidenceItem × ProviderRoute)) :
    Expanded compiler initial calls (run expand initial calls) := by
  induction calls using reverseRecOn with
  | nil => exact compiled_expanded compiled
  | append_singleton _ call ih =>
    rw [run_append]
    exact ih.next compiled call

namespace Survey

def guarded : EvidenceItem := { fact "appendix" "raw_results" .retrieved (some "1234") with classification := .confidential }

theorem retained : Classification.confidential.rank ≤ Classification.confidential.rank →
    sampleRoute.retentionKnown = true := fun _ => rfl

theorem unsealed : Classification.confidential = .sealed → sampleRoute.sealedEvaluatorApproved = true :=
  nofun

def raised : ProviderRoute := { sampleRoute with
  egressClearance := .confidential
  retention := retained
  sealing := unsealed }

end Survey

/-- A route of the same id brings in an item above the clearance that the context was compiled for. -/
theorem expansion_above_clearance :
    Survey.review.compile = .ok Survey.compiled ∧
      (run expand Survey.compiled [(Survey.guarded, Survey.raised)]).userPrompt.toolExpansions =
        [Survey.guarded.shown] ∧
      ¬Survey.guarded.classification.rank ≤ Survey.review.route.egressClearance.rank := by
  decide +kernel

/-- The appendix is read once, and then refused. -/
theorem expansions_agree_survey :
    (run expand Survey.compiled [(Survey.fact "appendix" "raw_results" .retrieved (some "1234"), sampleRoute),
      (Survey.guarded, Survey.raised)]).manifest.content.toolExpansionIds = ["appendix"] ∧
    Expanded Survey.review Survey.compiled
      [(Survey.fact "appendix" "raw_results" .retrieved (some "1234"), sampleRoute), (Survey.guarded, Survey.raised)]
      (run expand Survey.compiled
        [(Survey.fact "appendix" "raw_results" .retrieved (some "1234"), sampleRoute),
          (Survey.guarded, Survey.raised)]) :=
  ⟨by decide +kernel,
    expansions_agree (show Survey.review.compile = .ok Survey.compiled by decide +kernel) _⟩

end Liki.Inference
