import Liki.Inference.Types
import Liki.Library.Checks
import Liki.Library.KeyedRows

/-! Controlled context construction with manifest and external-egress
enforcement. Each definition between the arguments and `compile` is a local of
the compiler under its own name; a set of names is a list without regard to its
order, which is sorted where the code sorts it. -/
namespace Liki.Inference
open Checks

/-- Raised before external transport when a context contract fails closed; the
message lists the names. -/
structure ContextRejected where
  message : String
  names : List String
  deriving DecidableEq

/-- `sorted(set(...))`. -/
def sortedSet (names : List String) : List String := names.dedup.mergeSort fun a b => decide (a ≤ b)

def EvidenceRetrievalStatus.text : EvidenceRetrievalStatus → String
  | .retrieved => "RETRIEVED"
  | .notRetrieved => "NOT_RETRIEVED"
  | .notRelevant => "NOT_RELEVANT"
  | .permissionDenied => "PERMISSION_DENIED"
  | .toolTimeout => "TOOL_TIMEOUT"
  | .indexLag => "INDEX_LAG"

def EvidenceItem.shown (item : EvidenceItem) : PromptEvidence :=
  ⟨item.evidenceId, item.evidenceClass, item.canonicalSourceId, item.content⟩

namespace MemoryRetrievalFirewall

/-- `retrieve` filters durable claims; callers never receive a whole memory layer. -/
def retrieve (memories : List MemoryItem) (purpose role : String) (allowedContamination : List String)
    (freshIndependentReview : Bool) (marketScope mechanismScope : List String)
    (maxAgeDays : Option ℤ) (now : Option Time) : Except ContextRejected (List MemoryItem) := do
  refuseIf (purpose = "" ∨ role = "") ⟨"memory retrieval requires purpose and role", []⟩
  return memories.filter fun memory =>
    memory.confidenceState ≠ .invalidated ∧
    ¬(freshIndependentReview ∧ memory.contaminationTags ≠ []) ∧
    (∀ tag ∈ memory.contaminationTags, tag ∈ allowedContamination) ∧
    ¬(marketScope ≠ [] ∧ memory.marketScope ≠ [] ∧ ∀ market ∈ marketScope, market ∉ memory.marketScope) ∧
    ¬(mechanismScope ≠ [] ∧ memory.mechanismScope ≠ [] ∧
      ∀ mechanism ∈ mechanismScope, mechanism ∉ memory.mechanismScope) ∧
    ∀ days ∈ maxAgeDays, ∀ instant ∈ now,
      (instant - memory.lastRevalidatedAt.getD memory.createdAt) / 86400000000 ≤ days

end MemoryRetrievalFirewall

def MemoryItem.refusal (route : ProviderRoute) (memory : MemoryItem) : Option String :=
  if memory.classification = .secret then some "secret_never_in_prompt"
  else if route.egressClearance.rank < memory.classification.rank then some "egress_clearance"
  else if memory.licenseAllowsExternalEgress = false then some "license_restriction"
  else none

/-- The arguments of `compile`, and the manifest id and the time it generates. -/
structure ContextCompiler where
  request : InferenceRequest
  contract : AgentTaskContract
  route : ProviderRoute
  evidence : List EvidenceItem
  requiredEvidenceClasses : List String
  retrievalVersion : String
  retrievalQuery : String
  tools : List ToolCapability
  toolAddressableIds : List String
  memories : List MemoryItem
  tokenBudget : ℤ
  manifestId : String
  createdAt : Time

namespace ContextCompiler

def version : String := "1"

def systemPrompt : String :=
  "Return only an artifact satisfying the supplied JSON Schema. Do not claim facts " ++
  "without cited evidence IDs. Return an explicit unknown when evidence is insufficient."

variable (compiler : ContextCompiler)

def evidenceIds : List String := compiler.evidence.map EvidenceItem.evidenceId

def unknownAllowedTools : List String :=
  compiler.contract.allowedTools.filter fun toolId =>
    toolId ∉ compiler.tools.map ToolCapability.toolId

def unknownAddressable : List String :=
  compiler.toolAddressableIds.filter fun evidenceId => evidenceId ∉ compiler.evidenceIds

def exposedTools : List ToolCapability :=
  compiler.tools.filter fun tool =>
    tool.toolId ∈ compiler.contract.allowedTools ∧ tool.sideEffects = []

def sideEffectingTools : List String :=
  (compiler.tools.filter fun tool =>
    tool.toolId ∈ compiler.contract.allowedTools ∧ tool.sideEffects ≠ []).map ToolCapability.toolId

def isCritical : Bool := compiler.request.criticality = .critical

def required : List String :=
  sortedSet (compiler.requiredEvidenceClasses ++ compiler.contract.requiredEvidenceClasses ++
    if compiler.isCritical then ["adverse_facts"] else [])

def missingClasses : List String :=
  compiler.required.filter fun evidenceClass =>
    evidenceClass ∉ compiler.evidence.map EvidenceItem.evidenceClass

def unresolved : List String :=
  compiler.required.filter fun evidenceClass => ∃ item ∈ compiler.evidence,
    item.evidenceClass = evidenceClass ∧ item.retrievalStatus ≠ .retrieved ∧
      item.retrievalStatus ≠ .notRelevant

def missingInputs : List String :=
  compiler.contract.inputEvidenceIds.filter fun evidenceId => evidenceId ∉ compiler.evidenceIds

/-- Why an item stays out of the prompt whatever the budget, if it does. -/
def refusal (item : EvidenceItem) : Option String :=
  if item.evidenceClass ∈ compiler.contract.forbiddenEvidenceClasses then
    some "role_forbidden_evidence_class"
  else if item.retrievalStatus ≠ .retrieved then some ("retrieval:" ++ item.retrievalStatus.text)
  else if item.classification = .secret then some "secret_never_in_prompt"
  else if compiler.route.egressClearance.rank < item.classification.rank then some "egress_clearance"
  else if item.licenseAllowsExternalEgress = false then some "license_restriction"
  else none

/-- What the loop over the items has accumulated. -/
structure Packing where
  included : List EvidenceItem
  excluded : List (String × String)
  truncation : List (String × String)
  consumed : ℕ

def estimatedTokens (item : EvidenceItem) : ℕ := max 1 ((item.content.getD "").length / 4)

def pack (packing : Packing) (item : EvidenceItem) : Packing :=
  match compiler.refusal item with
  | some reason => { packing with excluded := packing.excluded ++ [(item.evidenceId, reason)] }
  | none =>
    if compiler.tokenBudget < packing.consumed + estimatedTokens item then
      if item.evidenceId ∈ compiler.toolAddressableIds ∧ compiler.exposedTools ≠ [] then
        { packing with
          excluded := packing.excluded ++ [(item.evidenceId, "tool_addressable_due_to_budget")]
          truncation := packing.truncation ++
            [(item.evidenceId, "tool_addressable; canonical source retained")] }
      else
        { packing with
          excluded := packing.excluded ++ [(item.evidenceId, "token_budget")]
          truncation := packing.truncation ++
            [(item.evidenceId, "not included; explicit manifest omission")] }
    else
      { packing with
        included := packing.included ++ [item]
        consumed := packing.consumed + estimatedTokens item }

def packing : Packing := compiler.evidence.foldl compiler.pack ⟨[], [], [], 0⟩

def includedIds : List String := compiler.packing.included.map EvidenceItem.evidenceId

/-- The ids the code collects in `addressable`. -/
def addressable : List String :=
  (compiler.evidence.filter fun item =>
    item.evidenceId ∈ compiler.toolAddressableIds ∧ item.retrievalStatus = .retrieved ∧
      item.evidenceClass ∉ compiler.contract.forbiddenEvidenceClasses ∧
      item.classification ≠ .secret ∧
      item.classification.rank ≤ compiler.route.egressClearance.rank ∧
      item.licenseAllowsExternalEgress ∧ compiler.exposedTools ≠ []).map EvidenceItem.evidenceId

def accessible : List EvidenceItem :=
  compiler.evidence.filter fun item =>
    item.evidenceId ∈ compiler.includedIds ∨ item.evidenceId ∈ compiler.addressable

def declaredAbsent : List String :=
  (compiler.evidence.filter fun item => item.retrievalStatus = .notRelevant).map
    EvidenceItem.evidenceClass

def unavailable : List String :=
  compiler.required.filter fun evidenceClass =>
    evidenceClass ∉ compiler.accessible.map EvidenceItem.evidenceClass ∧
      evidenceClass ∉ compiler.declaredAbsent

def inaccessibleMaterialClasses : List String :=
  (compiler.evidence.filter fun item =>
    item.evidenceClass ∈ compiler.required ∧ item.material ∧ item.retrievalStatus = .retrieved ∧
      item.evidenceId ∉ compiler.includedIds ++ compiler.addressable).map EvidenceItem.evidenceClass

def summaryOnly : List String :=
  (compiler.packing.included.filter fun item =>
    item.material ∧ item.summarySourceIds ≠ [] ∧
      ∀ source ∈ item.summarySourceIds, source ∉ compiler.includedIds ++ compiler.addressable).map
    EvidenceItem.evidenceId

def blocking : Bool :=
  ¬(compiler.missingClasses = [] ∧ compiler.missingInputs = [] ∧ compiler.unresolved = [] ∧
    compiler.unavailable = [] ∧ compiler.inaccessibleMaterialClasses = [] ∧ compiler.summaryOnly = [])

def completeness : CompletenessStatus :=
  if compiler.isCritical && compiler.blocking then .blocking
  else if compiler.blocking then .declaredNoncritical
  else .complete

def egress : EgressDecision where
  routeId := compiler.route.routeId
  clearance := compiler.route.egressClearance
  highestPromptAccessibleClassification :=
    (compiler.accessible.map fun item => item.classification.rank).foldr max 0
  retentionKnown := compiler.route.retentionKnown
  mayTrainOnPrompts := compiler.route.mayTrainOnPrompts
  routeLicenseApproved := compiler.route.licenseApproved
  excludedCount := compiler.packing.excluded.length

def missing : List String :=
  sortedSet (compiler.missingClasses ++ compiler.missingInputs ++ compiler.unresolved ++
    compiler.unavailable ++ compiler.inaccessibleMaterialClasses ++
    compiler.summaryOnly.map fun itemId => "summary:" ++ itemId)

/-- `excluded_memory`: the candidates the firewall held back, then those it let
through that may not leave. -/
def excludedMemory (eligible : List MemoryItem) : List (String × String) :=
  let heldBack := (compiler.memories.filter fun memory =>
    memory.memoryId ∉ eligible.map MemoryItem.memoryId).map fun memory =>
      (memory.memoryId, "retrieval_firewall_policy")
  let refused := eligible.filterMap fun memory =>
    (memory.refusal compiler.route).map fun reason => (memory.memoryId, reason)
  (heldBack ++ refused).foldl (fun excluded entry => KeyedRows.upsert Prod.fst entry excluded) []

def includedMemory (eligible : List MemoryItem) : List MemoryItem :=
  eligible.filter fun memory => memory.refusal compiler.route = none

def manifest (eligible : List MemoryItem) : ContextManifest where
  contextManifestId := compiler.manifestId
  createdAt := compiler.createdAt
  content := {
    compilerVersion := version
    retrievalVersion := compiler.retrievalVersion
    requiredEvidenceClasses := compiler.required
    candidateEvidenceIds := compiler.evidenceIds
    includedEvidenceIds := compiler.includedIds
    toolAddressableEvidenceIds := sortedSet compiler.addressable
    excludedEvidence := compiler.packing.excluded
    summaryArtifactIds := compiler.packing.included.flatMap EvidenceItem.summarySourceIds
    truncation := compiler.packing.truncation
    egressDecision := compiler.egress
    completenessStatus := compiler.completeness
    retrievalQueryFingerprint := compiler.retrievalQuery
    toolExpansionIds := []
    candidateMemoryIds := compiler.memories.map MemoryItem.memoryId
    includedMemoryIds := (compiler.includedMemory eligible).map MemoryItem.memoryId
    excludedMemory := compiler.excludedMemory eligible }

def package (eligible : List MemoryItem) : PromptPackage where
  taskContract := compiler.contract
  manifestHash := (compiler.manifest eligible).manifestHash
  expectedArtifactSchema := compiler.request.expectedArtifactSchema
  unknownEvidenceClasses :=
    sortedSet (compiler.missingClasses ++ compiler.unresolved ++ compiler.unavailable)
  forbiddenEvidenceClasses :=
    compiler.contract.forbiddenEvidenceClasses.mergeSort fun a b => decide (a ≤ b)
  evidence := compiler.packing.included.map EvidenceItem.shown
  memoryClaims := compiler.includedMemory eligible
  toolCapabilities := compiler.exposedTools
  toolExpansions := []

def eligibleMemories : Except ContextRejected (List MemoryItem) :=
  MemoryRetrievalFirewall.retrieve compiler.memories compiler.request.taskClass compiler.contract.role []
    compiler.contract.independenceGroupId.isSome [] [] none none

def compile : Except ContextRejected CompiledContext := do
  refuseIf (compiler.tokenBudget ≤ 0) ⟨"context token budget must be positive", []⟩
  refuseIf (compiler.contract.expectedArtifactSchema ≠ compiler.request.expectedArtifactSchema)
    ⟨"task contract and request output schemas must match", []⟩
  refuseIf (compiler.route.licenseApproved = false)
    ⟨"route has not passed license and terms review", []⟩
  refuseIf (¬compiler.evidenceIds.Nodup)
    ⟨"duplicate evidence IDs are not permitted in one context", []⟩
  refuseIf (compiler.unknownAllowedTools ≠ [])
    ⟨"task contract requests unregistered tools", sortedSet compiler.unknownAllowedTools⟩
  refuseIf (compiler.unknownAddressable ≠ [])
    ⟨"tool-addressable evidence was not retrieved", sortedSet compiler.unknownAddressable⟩
  refuseIf (compiler.sideEffectingTools ≠ [])
    ⟨"task contract cannot expose side-effecting tools", sortedSet compiler.sideEffectingTools⟩
  refuseIf (compiler.toolAddressableIds ≠ [] ∧ compiler.exposedTools = [])
    ⟨"tool-addressable evidence requires an exposed read-only tool", []⟩
  refuseIf (compiler.isCritical ∧ compiler.completeness = .blocking)
    ⟨"critical context is incomplete", compiler.missing⟩
  let eligible ← compiler.eligibleMemories
  return ⟨systemPrompt, compiler.package eligible, compiler.manifest eligible, compiler.exposedTools⟩

end ContextCompiler

def recordToolExpansion (manifest : ContextManifest) (evidence : EvidenceItem) (route : ProviderRoute) :
    Except ContextRejected ContextManifest := do
  refuseIf (manifest.content.egressDecision.routeId ≠ route.routeId)
    ⟨"tool expansion route differs from the compiled context route", []⟩
  refuseIf (evidence.evidenceId ∉ manifest.content.toolAddressableEvidenceIds)
    ⟨"tool expansion was not declared in the manifest", []⟩
  refuseIf (evidence.evidenceId ∈ manifest.content.toolExpansionIds)
    ⟨"tool expansion is already recorded", []⟩
  refuseIf (evidence.retrievalStatus ≠ .retrieved)
    ⟨"unretrieved evidence cannot be added by tool expansion", []⟩
  refuseIf (evidence.classification = .secret) ⟨"SECRET evidence cannot be expanded into a prompt", []⟩
  refuseIf (route.egressClearance.rank < evidence.classification.rank)
    ⟨"tool expansion exceeds route egress clearance", []⟩
  refuseIf (evidence.licenseAllowsExternalEgress = false)
    ⟨"tool expansion violates evidence license", []⟩
  return { manifest with content := { manifest.content with
    toolExpansionIds := manifest.content.toolExpansionIds ++ [evidence.evidenceId] } }

/-- Attach an approved on-demand read to both the prompt and evidence manifest. -/
def applyToolExpansion (context : CompiledContext) (evidence : EvidenceItem) (route : ProviderRoute) :
    Except ContextRejected CompiledContext := do
  let manifest ← recordToolExpansion context.manifest evidence route
  return { context with
    userPrompt := { context.userPrompt with
      manifestHash := manifest.manifestHash
      toolExpansions := context.userPrompt.toolExpansions ++ [evidence.shown] }
    manifest := manifest }

end Liki.Inference
