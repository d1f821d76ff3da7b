import Liki.Inference.Egress

/-! What a compiled context contains. Packing decides for each item whether its text is in the prompt, the tools'
reach is found by another pass with the same refusals, and completeness is judged on the two together; the
passes agree, and a critical context that is compiled has everything it was asked for. -/
namespace Liki.Inference
open Checks ContextCompiler List

variable {compiler : ContextCompiler} {context : CompiledContext} {item : EvidenceItem}

/-- The item may leave towards the route and the role. -/
structure Releasable (compiler : ContextCompiler) (item : EvidenceItem) : Prop where
  allowed : item.evidenceClass ∉ compiler.contract.forbiddenEvidenceClasses
  retrieved : item.retrievalStatus = .retrieved
  unsecret : item.classification ≠ .secret
  cleared : item.classification.rank ≤ compiler.route.egressClearance.rank
  licensed : item.licenseAllowsExternalEgress = true

theorem refusal_none_iff : compiler.refusal item = none ↔ Releasable compiler item := by
  unfold ContextCompiler.refusal
  constructor
  · intro free
    split_ifs at free with forbidden unread secret above barred
    exact ⟨forbidden, not_not.mp unread, secret, not_lt.mp above, Bool.eq_true_of_not_eq_false barred⟩
  · rintro ⟨allowed, retrieved, unsecret, cleared, licensed⟩
    simp [allowed, retrieved, unsecret, not_lt.mpr cleared, licensed]

structure Packed (compiler : ContextCompiler) (items : List EvidenceItem) (packing : Packing) : Prop where
  divided : (packing.included.map EvidenceItem.evidenceId ++ packing.excluded.map Prod.fst).Perm
    (items.map EvidenceItem.evidenceId)
  taken : packing.included.Sublist items
  released : ∀ item ∈ packing.included, Releasable compiler item
  counted : packing.consumed = (packing.included.map estimatedTokens).sum
  bounded : (packing.consumed : ℤ) ≤ max 0 compiler.tokenBudget

theorem packed_nil : Packed compiler [] ⟨[], [], [], 0⟩ where
  divided := .refl _
  taken := .refl _
  released := fun _ member => absurd member not_mem_nil
  counted := rfl
  bounded := le_max_left 0 _

theorem Packed.exclude {packing : Packing} (packed : Packed compiler items packing)
    (item : EvidenceItem) (reason : String) (truncation : List (String × String)) :
    Packed compiler (items ++ [item])
      { packing with
        excluded := packing.excluded ++ [(item.evidenceId, reason)]
        truncation := truncation } where
  divided := by
    rw [map_append, map_append, ← append_assoc]
    exact packed.divided.append_right _
  taken := packed.taken.trans (sublist_append_left items [item])
  released := packed.released
  counted := packed.counted
  bounded := packed.bounded

theorem Packed.add {packing : Packing} (packed : Packed compiler items packing)
    (released : Releasable compiler item)
    (fits : ¬compiler.tokenBudget < packing.consumed + estimatedTokens item) :
    Packed compiler (items ++ [item])
      { packing with
        included := packing.included ++ [item]
        consumed := packing.consumed + estimatedTokens item } where
  divided := by
    rw [map_append, map_append, append_assoc]
    exact ((perm_append_comm.append_left _).trans (by rw [← append_assoc])).trans
      (packed.divided.append_right _)
  taken := packed.taken.append (.refl _)
  released := by
    intro other member
    rcases KeyedRows.mem_added member with earlier | last
    · exact packed.released other earlier
    · rw [last]
      exact released
  counted := by rw [packed.counted, map_append, sum_append]; rfl
  bounded := by
    push_cast
    exact (not_lt.mp fits).trans (le_max_right 0 _)

theorem Packed.pack {packing : Packing} (packed : Packed compiler items packing)
    (item : EvidenceItem) : Packed compiler (items ++ [item]) (compiler.pack packing item) := by
  unfold ContextCompiler.pack
  split
  · exact packed.exclude item _ _
  · rename_i free
    split
    · split
      · exact packed.exclude item _ _
      · exact packed.exclude item _ _
    · rename_i fits
      exact packed.add (refusal_none_iff.mp free) fits

theorem packing_packed (compiler : ContextCompiler) : Packed compiler compiler.evidence compiler.packing := by
  have all : ∀ items, Packed compiler items (items.foldl compiler.pack ⟨[], [], [], 0⟩) := by
    intro items
    induction items using reverseRecOn with
    | nil => exact packed_nil
    | append_singleton _ item ih =>
      rw [foldl_append]
      exact ih.pack item
  exact all compiler.evidence

/-- A critical context has what it was asked for. -/
structure Completed (compiler : ContextCompiler) (context : CompiledContext) : Prop where
  classes : ∀ evidenceClass, (evidenceClass ∈ compiler.requiredEvidenceClasses ∨
      evidenceClass ∈ compiler.contract.requiredEvidenceClasses ∨ evidenceClass = "adverse_facts") →
    (∃ item ∈ compiler.evidence, item.evidenceClass = evidenceClass ∧ Reaches context item) ∨
      ∃ item ∈ compiler.evidence, item.evidenceClass = evidenceClass ∧ item.retrievalStatus = .notRelevant
  inputs : ∀ evidenceId ∈ compiler.contract.inputEvidenceIds, evidenceId ∈ compiler.evidenceIds
  material : ∀ item ∈ compiler.evidence, (item.evidenceClass ∈ compiler.requiredEvidenceClasses ∨
      item.evidenceClass ∈ compiler.contract.requiredEvidenceClasses ∨ item.evidenceClass = "adverse_facts") →
    item.material = true → item.retrievalStatus = .retrieved → Reaches context item
  summaries : ∀ item ∈ compiler.evidence, item.evidenceId ∈ context.manifest.content.includedEvidenceIds →
    item.material = true → item.summarySourceIds ≠ [] → ∃ source ∈ item.summarySourceIds,
      source ∈ context.manifest.content.includedEvidenceIds ∨
        source ∈ context.manifest.content.toolAddressableEvidenceIds

structure Controlled (compiler : ContextCompiler) (context : CompiledContext) : Prop where
  candidates : context.manifest.content.candidateEvidenceIds = compiler.evidence.map EvidenceItem.evidenceId
  divided : ∀ evidenceId ∈ context.manifest.content.candidateEvidenceIds,
    (evidenceId ∈ context.manifest.content.includedEvidenceIds ↔
      evidenceId ∉ context.manifest.content.excludedEvidence.map Prod.fst)
  known : ∀ evidenceId, evidenceId ∈ context.manifest.content.includedEvidenceIds ∨
    evidenceId ∈ context.manifest.content.toolAddressableEvidenceIds →
      evidenceId ∈ context.manifest.content.candidateEvidenceIds
  released : ∀ item ∈ compiler.evidence, Reaches context item → Releasable compiler item
  shown : ∀ shown ∈ context.userPrompt.evidence, ∃ item ∈ compiler.evidence,
    item.evidenceId ∈ context.manifest.content.includedEvidenceIds ∧ shown = item.shown
  memories : ∀ memory ∈ context.userPrompt.memoryClaims, memory.classification ≠ .secret ∧
    memory.classification.rank ≤ compiler.route.egressClearance.rank ∧ memory.licenseAllowsExternalEgress = true
  affordable : (((compiler.evidence.filter fun item =>
    item.evidenceId ∈ context.manifest.content.includedEvidenceIds).map estimatedTokens).sum : ℤ) ≤
      compiler.tokenBudget
  complete : compiler.request.criticality = .critical → Completed compiler context

theorem blocking_false_iff : compiler.blocking = false ↔ compiler.missingClasses = [] ∧
    compiler.missingInputs = [] ∧ compiler.unresolved = [] ∧ compiler.unavailable = [] ∧
      compiler.inaccessibleMaterialClasses = [] ∧ compiler.summaryOnly = [] := by
  simp [ContextCompiler.blocking]

theorem compile_checked (ok : compiler.compile = .ok context) :
    0 < compiler.tokenBudget ∧ (compiler.request.criticality = .critical → compiler.blocking = false) := by
  simp only [ContextCompiler.compile, bind_ok, guard_ok, not_le, not_and] at ok
  obtain ⟨positive, -, -, -, -, -, -, -, whole, -⟩ := ok
  refine ⟨positive, fun critical => ?_⟩
  have asked : compiler.isCritical = true := decide_eq_true critical
  by_contra standing
  exact whole asked (by simp [ContextCompiler.completeness, asked, Bool.eq_true_of_not_eq_false standing])

theorem included_perm (distinct : compiler.evidenceIds.Nodup) :
    (compiler.evidence.filter fun item => item.evidenceId ∈ compiler.includedIds).Perm
      compiler.packing.included := by
  have packed := packing_packed compiler
  have apart := inj_on_of_nodup_map distinct
  have whole : compiler.evidence.Nodup := List.Nodup.of_map EvidenceItem.evidenceId distinct
  refine (perm_ext_iff_of_nodup (whole.filter _) (whole.sublist packed.taken)).mpr fun item => ?_
  rw [mem_filter, decide_eq_true_eq]
  constructor
  · rintro ⟨given, included⟩
    obtain ⟨_, taken, same⟩ := mem_map.mp included
    rwa [apart given (packed.taken.subset taken) same.symm]
  · intro taken
    exact ⟨packed.taken.subset taken, mem_map_of_mem taken⟩

theorem includedIds_iff (distinct : compiler.evidenceIds.Nodup) (given : item ∈ compiler.evidence) :
    item.evidenceId ∈ compiler.includedIds ↔ item ∈ compiler.packing.included := by
  rw [← (included_perm distinct).mem_iff, mem_filter, decide_eq_true_eq]
  exact (and_iff_right given).symm

theorem addressable_iff (distinct : compiler.evidenceIds.Nodup) (given : item ∈ compiler.evidence) :
    item.evidenceId ∈ compiler.addressable ↔ item.evidenceId ∈ compiler.toolAddressableIds ∧
      compiler.exposedTools ≠ [] ∧ Releasable compiler item := by
  have apart := inj_on_of_nodup_map distinct
  constructor
  · intro reached
    obtain ⟨_, selected, same⟩ := mem_map.mp reached
    obtain ⟨listed, conditions⟩ := mem_filter.mp selected
    obtain rfl := apart listed given same
    obtain ⟨asked, retrieved, allowed, unsecret, cleared, licensed, tools⟩ := of_decide_eq_true conditions
    exact ⟨asked, tools, allowed, retrieved, unsecret, cleared, licensed⟩
  · rintro ⟨asked, tools, released⟩
    refine mem_map_of_mem (mem_filter.mpr ⟨given, decide_eq_true ?_⟩)
    exact ⟨asked, released.retrieved, released.allowed, released.unsecret, released.cleared, released.licensed, tools⟩

theorem released_of_accessible (distinct : compiler.evidenceIds.Nodup) (given : item ∈ compiler.evidence)
    (reached : item ∈ compiler.accessible) : Releasable compiler item := by
  rcases of_decide_eq_true (mem_filter.mp reached).2 with included | addressed
  · exact (packing_packed compiler).released item ((includedIds_iff distinct given).mp included)
  · exact ((addressable_iff distinct given).mp addressed).2.2

theorem memory_refusal_none {route : ProviderRoute} {memory : MemoryItem} (free : memory.refusal route = none) :
    memory.classification ≠ .secret ∧ memory.classification.rank ≤ route.egressClearance.rank ∧
      memory.licenseAllowsExternalEgress = true := by
  unfold MemoryItem.refusal at free
  split_ifs at free with secret above barred
  exact ⟨secret, not_lt.mp above, Bool.eq_true_of_not_eq_false barred⟩

theorem mem_required (critical : compiler.request.criticality = .critical) :
    evidenceClass ∈ compiler.required ↔ evidenceClass ∈ compiler.requiredEvidenceClasses ∨
      evidenceClass ∈ compiler.contract.requiredEvidenceClasses ∨ evidenceClass = "adverse_facts" := by
  have asked : compiler.isCritical = true := decide_eq_true critical
  rw [ContextCompiler.required, mem_sortedSet, asked, if_pos rfl, mem_append, mem_append,
    mem_singleton, or_assoc]

theorem completed_of_unblocked (ok : compiler.compile = .ok context)
    (critical : compiler.request.criticality = .critical) : Completed compiler context := by
  have reached : ∀ item ∈ compiler.evidence, Reaches context item ↔ item ∈ compiler.accessible :=
    fun _ given => reaches_iff ok given
  obtain ⟨-, inputs, -, unavailable, inaccessible, summaries⟩ :=
    blocking_false_iff.mp ((compile_checked ok).2 critical)
  obtain ⟨distinct, _, -, rfl⟩ := compile_ok ok
  refine ⟨fun evidenceClass asked => ?_, fun evidenceId declared => ?_, fun item given asked material retrieved => ?_,
    fun item given included material summarises => ?_⟩
  · have available := filter_eq_nil_iff.mp unavailable evidenceClass ((mem_required critical).mpr asked)
    rw [decide_eq_true_eq, not_and_or, not_not, not_not] at available
    rcases available with within | absent
    · obtain ⟨item, member, rfl⟩ := mem_map.mp within
      have given : item ∈ compiler.evidence := mem_of_mem_filter member
      exact .inl ⟨item, given, rfl, (reached item given).mpr member⟩
    · obtain ⟨item, member, rfl⟩ := mem_map.mp absent
      obtain ⟨given, irrelevant⟩ := mem_filter.mp member
      exact .inr ⟨item, given, rfl, of_decide_eq_true irrelevant⟩
  · have found := filter_eq_nil_iff.mp inputs evidenceId declared
    rwa [decide_eq_true_eq, not_not] at found
  · have within := filter_eq_nil_iff.mp (map_eq_nil_iff.mp inaccessible) item given
    refine (reached item given).mpr (mem_filter.mpr ⟨given, decide_eq_true ?_⟩)
    by_contra hidden
    rw [← mem_append] at hidden
    exact within (decide_eq_true ⟨(mem_required critical).mpr asked, material, retrieved, hidden⟩)
  · have taken := (includedIds_iff distinct given).mp included
    have sourced := filter_eq_nil_iff.mp (map_eq_nil_iff.mp summaries) item taken
    by_contra sourceless
    push Not at sourceless
    refine sourced (decide_eq_true ⟨material, summarises, fun source member among => ?_⟩)
    rcases mem_append.mp among with included | addressed
    · exact (sourceless source member).1 included
    · exact (sourceless source member).2 (mem_sortedSet.mpr addressed)

/-- Compiling keeps the law, for every mix of evidence, memories, tools and budget. -/
theorem compile_controlled (ok : compiler.compile = .ok context) : Controlled compiler context := by
  have reached : ∀ item ∈ compiler.evidence, Reaches context item ↔ item ∈ compiler.accessible :=
    fun _ given => reaches_iff ok given
  obtain ⟨positive, -⟩ := compile_checked ok
  have complete := completed_of_unblocked ok
  obtain ⟨distinct, _, _, rfl⟩ := compile_ok ok
  have packed := packing_packed compiler
  have whole := packed.divided.nodup_iff.mpr distinct
  refine ⟨rfl, fun evidenceId given => ?_, fun evidenceId within => ?_, fun item given within => ?_,
    fun shown member => ?_, fun memory member => ?_, ?_, complete⟩
  · have sides := packed.divided.mem_iff.mpr given
    rw [mem_append] at sides
    constructor
    · exact fun included excluded => disjoint_of_nodup_append whole included excluded
    · exact fun kept => sides.resolve_right kept
  · rcases within with included | addressed
    · exact packed.divided.mem_iff.mp (mem_append_left _ included)
    · obtain ⟨item, selected, rfl⟩ := mem_map.mp (mem_sortedSet.mp addressed)
      exact mem_map_of_mem (mem_of_mem_filter selected)
  · exact released_of_accessible distinct given ((reached item given).mp within)
  · obtain ⟨item, taken, rfl⟩ := mem_map.mp member
    exact ⟨item, packed.taken.subset taken, mem_map_of_mem taken, rfl⟩
  · exact memory_refusal_none (of_decide_eq_true (mem_filter.mp member).2)
  · have sum := ((included_perm distinct).map estimatedTokens).sum_eq
    have bounded := packed.bounded
    rw [max_eq_right positive.le, packed.counted, ← sum] at bounded
    exact bounded

/-! A critical review whose appendix does not fit and is left to a tool. -/
namespace Survey

def fact (evidenceId evidenceClass : String) (status : EvidenceRetrievalStatus) (content : Option String) :
    EvidenceItem :=
  ⟨evidenceId, evidenceClass, .internal, status, content, true, true, none, []⟩

def reader : ToolCapability :=
  ⟨"evidence-read", "1", "read evidence", "{}", "{}", true, "none", "fast", .trusted, [], [], []⟩

def review : ContextCompiler where
  request := { sampleRequest with criticality := .critical }
  contract := ⟨"run", "analyst", "question", [], ["result"], ["adverse_facts"], [], ["evidence-read"], "{}", "success",
    "stop", "{}", "{}", none, none⟩
  route := sampleRoute
  evidence := [fact "result" "raw_results" .retrieved (some "12345678"),
    fact "appendix" "raw_results" .retrieved (some "1234"), fact "adverse" "adverse_facts" .notRelevant none]
  requiredEvidenceClasses := []
  retrievalVersion := "1"
  retrievalQuery := "query"
  tools := [reader]
  toolAddressableIds := ["appendix"]
  memories := []
  tokenBudget := 2
  manifestId := "manifest"
  createdAt := 0

def compiled : CompiledContext :=
  ⟨systemPrompt, review.package [], review.manifest [], review.exposedTools⟩

end Survey

theorem compile_controlled_survey : Survey.compiled.manifest.content.includedEvidenceIds = ["result"] ∧
    Survey.compiled.manifest.content.toolAddressableEvidenceIds = ["appendix"] ∧
      Controlled Survey.review Survey.compiled :=
  ⟨by decide +kernel, by decide +kernel,
    compile_controlled (show Survey.review.compile = .ok Survey.compiled by decide +kernel)⟩

end Liki.Inference
