import Liki.Verifier.Bindings

/-! What a pass of the first gate says. Its screen was signed at another moment, but the screen is made again
when the decision is made, so what came between is seen. A strategy that passes has a trial of its own with
the semantics of its plan, and no other strategy has one: so over a whole history one strategy at most
passes for a semantic hash. -/
namespace Liki.Verifier
open Checks Evaluation AppendOnly CallSystem Reachability List KeyedRows

variable {deployment : Deployment} {state after : VerifierState} {actor : Identity} {now : Time}
  {pins : EvaluationSnapshot} {artifact : Artifact EvaluationContent}

def screenInputs (pins : EvaluationSnapshot) : List ℕ := pins.candidateArtifactId :: pinnedInputs pins 1

/-- The inputs of the first gate are there, and just one of them has the schema. -/
def OnlyOne (state : VerifierState) (pins : EvaluationSnapshot) (schemaName : String)
    (artifact : Artifact EvaluationContent) : Prop :=
  ∃ artifactId ∈ screenInputs pins, state.evaluation.store.artifacts[artifactId]? = some artifact ∧
    ∀ other ∈ screenInputs pins, ∃ found, state.evaluation.store.artifacts[other]? = some found ∧
      (found.schemaName = schemaName ↔ other = artifactId)

def PlanOf (deployment : Deployment) (state : VerifierState) (pins : EvaluationSnapshot) (plan : G1Plan) : Prop :=
  ∃ artifact whole, OnlyOne state pins planSchema artifact ∧
    deployment.readPlan artifact.content = some whole ∧ whole.plan = .g1 plan

def PolicyOf (deployment : Deployment) (state : VerifierState) (pins : EvaluationSnapshot) (policy : GatePolicy) :
    Prop :=
  ∃ artifact, OnlyOne state pins policySchema artifact ∧ deployment.readPolicy artifact.content = some policy

section Pinned

variable {schemaName : String}

theorem OnlyOne.same (one : OnlyOne state pins schemaName artifact)
    (again : OnlyOne state pins schemaName other) : other = artifact := by
  obtain ⟨artifactId, -, held, only⟩ := one
  obtain ⟨otherId, member, heldToo, onlyToo⟩ := again
  obtain ⟨_, foundAt, schema⟩ := only otherId member
  obtain ⟨_, foundAtToo, schemaToo⟩ := onlyToo otherId member
  rw [foundAt] at foundAtToo
  cases foundAtToo
  have same : otherId = artifactId := schema.mp (schemaToo.mpr rfl)
  rw [same, held] at heldToo
  exact (Option.some.inj heldToo).symm

theorem OnlyOne.later (one : OnlyOne state pins schemaName artifact) (later : Later state after) :
    OnlyOne after pins schemaName artifact := by
  obtain ⟨artifactId, member, held, only⟩ := one
  refine ⟨artifactId, member, later.artifact held, fun other pinned => ?_⟩
  obtain ⟨found, foundAt, schema⟩ := only other pinned
  exact ⟨found, later.artifact foundAt, schema⟩

theorem PlanOf.same {plan other : G1Plan} (planned : PlanOf deployment state pins plan)
    (again : PlanOf deployment state pins other) : other = plan := by
  obtain ⟨_, _, one, read, first⟩ := planned
  obtain ⟨_, _, oneToo, readToo, firstToo⟩ := again
  rw [one.same oneToo, read] at readToo
  cases readToo
  rw [first] at firstToo
  exact (GatePlan.g1.inj firstToo).symm

theorem PlanOf.later {plan : G1Plan} (planned : PlanOf deployment state pins plan) (later : Later state after) :
    PlanOf deployment after pins plan := by
  obtain ⟨artifact, whole, one, read, first⟩ := planned
  exact ⟨artifact, whole, one.later later, read, first⟩

theorem PolicyOf.same {policy other : GatePolicy} (ruled : PolicyOf deployment state pins policy)
    (again : PolicyOf deployment state pins other) : other = policy := by
  obtain ⟨_, one, read⟩ := ruled
  obtain ⟨_, oneToo, readToo⟩ := again
  rw [one.same oneToo, read] at readToo
  exact (Option.some.inj readToo).symm

end Pinned

/-- The artifacts are the inputs of the first gate, as they are in the table. -/
structure Reads (state : VerifierState) (pins : EvaluationSnapshot) (artifacts : BoundArtifacts) : Prop where
  held : Held state artifacts
  inputs : ∀ artifactId, artifactId ∈ artifacts.map Prod.fst ↔ artifactId ∈ screenInputs pins

variable {artifacts : BoundArtifacts} {row : SnapshotRow} {inputs : List ℕ} {object : ObjectRow}

theorem Reads.onlyOne (reads : Reads state pins artifacts)
    (found : (artifacts.filter fun item => item.2.schemaName = schemaName) = [(artifactId, artifact)]) :
    OnlyOne state pins schemaName artifact := by
  have one : ∀ item ∈ artifacts, item.2.schemaName = schemaName → item = (artifactId, artifact) := by
    intro item member schema
    have kept : item ∈ artifacts.filter fun item => item.2.schemaName = schemaName :=
      mem_filter.mpr ⟨member, decide_eq_true schema⟩
    rw [found] at kept
    exact mem_singleton.mp kept
  obtain ⟨member, schema⟩ : (artifactId, artifact) ∈ artifacts ∧ artifact.schemaName = schemaName := by
    have kept : (artifactId, artifact) ∈ artifacts.filter fun item => item.2.schemaName = schemaName :=
      found ▸ mem_singleton_self _
    exact ⟨mem_of_mem_filter kept, by simpa using (mem_filter.mp kept).2⟩
  refine ⟨artifactId, (reads.inputs artifactId).mp (mem_map_of_mem member), reads.held _ member,
    fun other pinned => ?_⟩
  obtain ⟨item, listed, rfl⟩ := mem_map.mp ((reads.inputs other).mpr pinned)
  refine ⟨item.2, reads.held item listed, fun same => congrArg Prod.fst (one item listed same), fun same => ?_⟩
  have twice := reads.held item listed
  rw [same, reads.held _ member] at twice
  rw [← Option.some.inj twice]
  exact schema

theorem findPlan_ok {plan : GatePlan} (ok : findPlan deployment state artifacts subject = .ok plan)
    (reads : Reads state pins artifacts) :
    ∃ artifact whole, OnlyOne state pins planSchema artifact ∧
      deployment.readPlan artifact.content = some whole ∧ whole.plan = plan := by
  unfold findPlan at ok
  split at ok
  · rename_i artifactId row found
    simp only [bind_ok, expect_ok, pure_ok] at ok
    obtain ⟨whole, read, -, -, -, -, rfl⟩ := ok
    exact ⟨row, whole, reads.onlyOne found, read, rfl⟩
  · cases ok

theorem findPolicy_ok {policy : GatePolicy}
    (ok : findPolicy deployment state artifacts snapshotId expectedVersion = .ok policy)
    (reads : Reads state pins artifacts) : PolicyOf deployment state pins policy := by
  unfold findPolicy at ok
  split at ok
  · rename_i artifactId row found
    simp only [bind_ok, expect_ok, pure_ok] at ok
    obtain ⟨_, read, -, -, -, -, -, -, rfl⟩ := ok
    exact ⟨row, reads.onlyOne found, read⟩
  · cases ok

theorem screenTerms_ok {plan : G1Plan} {policy : GatePolicy}
    (ok : screenTerms deployment state row candidateId candidateHash artifacts = .ok (plan, policy))
    (reads : Reads state pins artifacts) :
    PlanOf deployment state pins plan ∧ PolicyOf deployment state pins policy := by
  simp only [screenTerms, bind_ok] at ok
  obtain ⟨whole, planned, ok⟩ := ok
  cases whole with
  | g1 =>
    simp only [bind_ok, pair_ok] at ok
    obtain ⟨_, ruled, rfl, rfl⟩ := ok
    exact ⟨findPlan_ok planned reads, findPolicy_ok ruled reads⟩
  | g2 => cases ok
  | g3 => cases ok
  | g4 => cases ok

theorem boundArtifacts_ok (ok : boundArtifacts state actor inputs = .ok artifacts) :
    artifacts.map Prod.fst = inputs ∧ Held state artifacts := by
  unfold boundArtifacts at ok
  constructor
  · refine foldlM_written (map Prod.fst) (fun rows artifactId after round => ?_) ok
    simp only [bind_ok, pure_ok] at round
    obtain ⟨-, -, row, -, rfl⟩ := round
    simp
  · refine foldlM_invariant (Held state) (fun rows artifactId after held round => ?_) (fun _ member => ?_) ok
    · simp only [bind_ok, pure_ok] at round
      obtain ⟨-, -, row, read, rfl⟩ := round
      have one : Held state [(artifactId, row)] := by
        intro item member
        rw [mem_singleton.mp member]
        exact (readArtifact_ok read).1
      exact held.append one
    · cases member

theorem noChecks_passed : ((noChecks 1).filter Prod.snd).map Prod.fst = [] := by decide

theorem checkFamily_ok (ok : checkFamily deployment state actor row object inputs now = .ok fresh)
    (same : ∀ artifactId, artifactId ∈ object.artifactId :: inputs ↔ artifactId ∈ screenInputs pins) :
    (∀ artifactId, artifactId ∈ fresh.inputArtifacts.map Prod.fst ↔ artifactId ∈ screenInputs pins) ∧
      ∃ candidate, state.evaluation.store.artifacts[object.artifactId]? = some candidate ∧
        (fresh.passed = [] ∨ ∃ plan policy, PlanOf deployment state pins plan ∧
          PolicyOf deployment state pins policy ∧ fresh.checks = (gateOne state actor plan policy object.objectId
            candidate.content.contentHash now).checks plan row) := by
  simp only [checkFamily, bind_ok] at ok
  obtain ⟨-, -, candidate, read, others, found, ok⟩ := ok
  obtain ⟨ids, held⟩ := boundArtifacts_ok found
  have own := (readArtifact_ok read).1
  have reads : Reads state pins ((object.artifactId, candidate) ::
      others.filter fun item => item.1 ≠ object.artifactId) := by
    refine ⟨fun item member => ?_, fun artifactId => ?_⟩
    · rcases mem_cons.mp member with rfl | member
      · exact own
      · exact held item (mem_of_mem_filter member)
    · rw [← same artifactId, ← ids]
      by_cases candidateId : artifactId = object.artifactId
      · simp [candidateId]
      · simp [candidateId]
  have signed : ∀ artifactId, artifactId ∈ (sortedItems (hashes ((object.artifactId, candidate) ::
      others.filter fun item => item.1 ≠ object.artifactId))).map Prod.fst ↔ artifactId ∈ screenInputs pins := by
    intro artifactId
    rw [← reads.inputs artifactId]
    simp only [mem_map, mem_sortedItems, hashes]
    constructor
    · rintro ⟨_, ⟨item, member, rfl⟩, rfl⟩
      exact ⟨item, member, rfl⟩
    · rintro ⟨item, member, rfl⟩
      exact ⟨_, ⟨item, member, rfl⟩, rfl⟩
  split at ok
  · rw [pure_ok] at ok
    subst ok
    exact ⟨signed, candidate, own, .inl noChecks_passed⟩
  · rename_i plan policy terms
    rw [pure_ok] at ok
    subst ok
    obtain ⟨planned, ruled⟩ := screenTerms_ok terms reads
    exact ⟨signed, candidate, own, .inr ⟨plan, policy, planned, ruled, rfl⟩⟩

theorem mapM_readBound_ids (ok : inputs.mapM (readBound state actor) = .ok artifacts) :
    artifacts.map Prod.fst = inputs := by
  have ids := map_of_mapM (fun artifactId _ item read => (readBound_ok read).1) ok
  rwa [map_id'] at ids

/-- The inputs of an execution of the first gate are what the snapshot pins for it. -/
theorem gatherInputs_screen {inputs datasets : BoundArtifacts}
    (ok : gatherInputs deployment state actor row object 1 artifact now = .ok (inputs, datasets, derived))
    (bound : object.artifactId = row.manifest.candidateArtifactId) :
    ∀ artifactId, artifactId ∈ inputs.map Prod.fst ↔ artifactId ∈ screenInputs row.manifest := by
  simp only [gatherInputs, derive, bind_ok] at ok
  obtain ⟨_, readPinned, _, readGate, _, screened, ok⟩ := ok
  have first : (1 : GateId) ≠ 0 := by decide
  rw [if_neg first, if_pos trivial] at screened
  cases fresh : checkFamily deployment state actor row object (pinnedInputs row.manifest 1) now with
  | error =>
    rw [fresh] at screened
    cases screened
  | ok =>
    rw [fresh] at screened
    cases screened
    have own : ∀ artifactId, artifactId ∈ object.artifactId :: pinnedInputs row.manifest 1 ↔
        artifactId ∈ screenInputs row.manifest := fun artifactId => by rw [bound, screenInputs]
    obtain ⟨signed, -⟩ := checkFamily_ok fresh own
    simp only [bind_ok] at ok
    obtain ⟨_, readOthers, ok⟩ := ok
    have other : (1 : GateId) ≠ 4 := by decide
    rw [if_neg other, pure_ok, Prod.mk.injEq] at ok
    obtain ⟨rfl, -⟩ := ok
    intro artifactId
    simp only [map_append, map_cons, mapM_readBound_ids readPinned, mapM_readBound_ids readGate,
      mapM_readBound_ids readOthers, cons_append, mem_cons, mem_append, signed, bound]
    simp only [screenInputs, pinnedInputs, mem_cons, mem_insertAll, mem_append]
    tauto

structure Disclosed (state : VerifierState) : Prop where
  registered : ∀ object ∈ state.evaluation.objects, Shown state object.artifactId
  reports : ∀ execution ∈ state.executions, Shown state execution.reportArtifactId
  pinned : ∀ execution ∈ state.executions, execution.gateId = 1 → ∀ artifactId,
    artifactId ∈ execution.manifest.binding.inputArtifacts.map Prod.fst ↔
      artifactId ∈ screenInputs execution.manifest.binding.snapshotHash
  decided : ∀ decided ∈ state.evaluation.decisions, ∀ artifactId ∈ decided.artifactIds, Shown state artifactId

theorem disclosed_empty : Disclosed .empty := by
  refine ⟨fun object member => ?_, fun execution member => ?_, fun execution member => ?_,
    fun decided member => ?_⟩
  all_goals cases member

theorem Disclosed.registered_later (disclosed : Disclosed state) (later : Later state after) :
    ∀ object ∈ after.evaluation.objects, Shown after object.artifactId := by
  intro object member
  rcases later.registered.mem member with older | shown
  · exact (disclosed.registered object older).kept later.artifacts
  · exact shown

theorem Disclosed.idle (disclosed : Disclosed state) (idle : Idle state after) : Disclosed after where
  registered := disclosed.registered_later idle.later
  reports execution member :=
    (disclosed.reports execution (idle.executions ▸ member)).kept idle.later.artifacts
  pinned execution member := disclosed.pinned execution (idle.executions ▸ member)
  decided decided member artifactId cited :=
    (disclosed.decided decided (idle.decisions ▸ member) artifactId cited).kept idle.later.artifacts

theorem Disclosed.executed {runner : Runner} {request : ExecuteRequest} {ids : GeneratedIds} {began : Time}
    {making : Making} (disclosed : Disclosed state)
    (makes : Makes deployment state actor runner request ids now making) :
    Disclosed (making.result deployment state actor runner request ids began) := by
  have later : Later state (making.result deployment state actor runner request ids began) := making.later
  refine ⟨disclosed.registered_later later, fun execution member => ?_, fun execution member first => ?_,
    fun decided member artifactId cited =>
      (disclosed.decided decided member artifactId cited).kept later.artifacts⟩
  · rcases mem_added member with older | newest
    · exact (disclosed.reports execution older).kept later.artifacts
    · rw [newest]
      refine ⟨making.stored deployment state actor ids, ?_, by simp [Making.stored]⟩
      simp [Making.result, Making.evaluation, Store.append, Making.execution, executionRow, makeManifest]
  · rcases mem_added member with older | newest
    · exact disclosed.pinned execution older first
    · rw [newest] at first ⊢
      have gate : request.gateId = 1 := first
      intro artifactId
      refine Iff.trans ?_ (gatherInputs_screen (gate ▸ makes.gathered) makes.prepares.admissible.bound artifactId)
      simp [Making.execution, executionRow, makeManifest, Making.binding, makeBinding, mem_sortedItems, hashes]

section Decided

variable {request : GateInput} {row : SnapshotRow} {object : ObjectRow} {items : List EvidenceItem}
  {version gateDecisionId : String}

theorem Judges.item_verified (judges : Judges deployment state actor request now row object items)
    (member : item ∈ items) : ∃ execution,
      Verified deployment state actor now item.evidence.artifactId item.artifact request row execution := by
  obtain ⟨_, -, gathered⟩ := mem_of_mapM judges.gathers.gathered item member
  obtain ⟨-, -, checked⟩ := gatherEvidence_ok gathered
  exact verifyExecution_ok checked

theorem Disclosed.judged (disclosed : Disclosed state)
    (judges : Judges deployment state actor request now row object items) :
    Disclosed (state.recordDecision request (judgedTransition actor request now row object items version)
      (judged state actor request now row object items version gateDecisionId)) := by
  refine ⟨disclosed.registered, disclosed.reports, disclosed.pinned, fun decided member artifactId cited => ?_⟩
  rcases mem_added member with older | newest
  · exact disclosed.decided decided older artifactId cited
  · rw [newest] at cited
    obtain ⟨_, gathered, rfl⟩ := mem_map.mp cited
    obtain ⟨execution, verified⟩ := judges.item_verified gathered
    have shown := disclosed.reports execution (find_mem verified.found)
    rwa [find_key verified.found] at shown

theorem Verified.screened (disclosed : Disclosed state)
    (verified : Verified deployment state actor now artifactId artifact request row execution)
    (admissible : Admissible state.evaluation actor request.strategyVersionId request.snapshotId row object)
    (first : request.gateId = 1) (reported : check ∈ artifact.content.report.checks) :
    ∃ candidate plan policy, state.evaluation.store.artifacts[object.artifactId]? = some candidate ∧
      PlanOf deployment state row.manifest plan ∧ PolicyOf deployment state row.manifest policy ∧
        (check, true) ∈ (gateOne state actor plan policy object.objectId candidate.content.contentHash
          now).checks plan row := by
  obtain ⟨_, binds⟩ := verified.binds
  have refreshed := verified.refreshed first
  simp only [refreshScreen, bind_ok, expect_ok, refuseIf_ok, not_not, admissible.registered, Option.some.injEq]
    at refreshed
  obtain ⟨_, rfl, _, screened, same⟩ := refreshed
  have inputs : ∀ artifactId, artifactId ∈ object.artifactId ::
      (execution.manifest.binding.inputArtifacts.map Prod.fst).filter
        (fun artifactId => artifactId ≠ row.manifest.candidateArtifactId) ↔
      artifactId ∈ screenInputs row.manifest := by
    intro artifactId
    have pinned := disclosed.pinned execution (find_mem verified.found)
      (binds.columns.2.2.1.trans first) artifactId
    rw [binds.snapshotHash] at pinned
    rw [mem_cons, mem_filter, pinned, admissible.bound, screenInputs, mem_cons]
    by_cases candidateId : artifactId = row.manifest.candidateArtifactId
    · simp [candidateId]
    · simp [candidateId]
  obtain ⟨-, candidate, held, nothing | ⟨plan, policy, planned, ruled, checks⟩⟩ := checkFamily_ok screened inputs
  · rw [same.1, nothing] at reported
    cases reported
  · rw [same.1, DerivedReport.passed, checks] at reported
    obtain ⟨⟨_, _⟩, passed, rfl⟩ := mem_map.mp reported
    obtain ⟨listed, rfl⟩ := mem_filter.mp passed
    exact ⟨candidate, plan, policy, held, planned, ruled, listed⟩

end Decided

section Screens

variable (state : VerifierState) (plan : G1Plan) (policy : GatePolicy) (strategyVersionId candidateHash : String)
  (now : Time)

def Copies (object : ObjectRow) : Prop :=
  object ∈ state.evaluation.objects ∧ object.objectId ≠ strategyVersionId ∧ ∃ artifact,
    state.evaluation.store.artifacts[object.artifactId]? = some artifact ∧
      artifact.content.contentHash = candidateHash

def Related (other : String) : Prop :=
  (∃ trial ∈ state.trials, trial.strategyVersionId = other ∧
    (Reaches state.parentage strategyVersionId other ∨ trial.trialFamilyId = plan.familyId ∨
      (semanticHash trial = plan.semanticHash ∧ trial.infrastructureRetry = false))) ∨
  ∃ object, Copies state strategyVersionId candidateHash object ∧ object.objectId = other

/-- Nothing speaks against the candidate. -/
structure Screened : Prop where
  declared : ∃ trial ∈ state.trials, trial.strategyVersionId = strategyVersionId ∧
    trial.trialFamilyId = plan.familyId ∧ semanticHash trial = plan.semanticHash ∧ trial.infrastructureRetry = false
  original : ∀ object, ¬Copies state strategyVersionId candidateHash object
  first : ∀ trial ∈ state.trials, semanticHash trial = plan.semanticHash → trial.infrastructureRetry = false →
    trial.strategyVersionId = strategyVersionId
  cool : ∀ failure ∈ state.evaluation.decisions, failure.decision = .fail →
    Related state plan strategyVersionId candidateHash failure.strategyVersionId →
      ¬Cooling state policy now failure
  valid : ∀ failure ∈ state.evaluation.decisions, failure.decision = .fail →
    Related state plan strategyVersionId candidateHash failure.strategyVersionId →
      ∀ artifactId ∈ failure.artifactIds, ∀ artifact, state.evaluation.store.artifacts[artifactId]? = some artifact →
        artifact.content.report.hardInvalidity = false

end Screens

section Findings

variable {plan : G1Plan} {policy : GatePolicy} {strategyVersionId candidateHash : String} {row : SnapshotRow}

theorem Shown.visible (shown : Shown state artifactId)
    (held : state.evaluation.store.artifacts[artifactId]? = some artifact) :
    state.visible actor artifactId = some artifact := by
  obtain ⟨_, found, plain⟩ := shown
  rw [held] at found
  cases found
  rw [VerifierState.visible, held, Option.filter_some, if_pos (decide_eq_true (.inl plain))]

theorem Copies.mem (copies : Copies state strategyVersionId candidateHash object)
    (disclosed : Disclosed state) :
    object ∈ duplicates state actor strategyVersionId candidateHash := by
  obtain ⟨listed, other, artifact, held, same⟩ := copies
  refine mem_filter.mpr ⟨listed, decide_eq_true ⟨other, artifact, ?_, same⟩⟩
  exact (disclosed.registered object listed).visible held

theorem Related.mem (related : Related state plan strategyVersionId candidateHash other)
    (disclosed : Disclosed state) :
    other ∈ Verifier.related state actor plan strategyVersionId candidateHash := by
  have ancestor : ∀ name, name ∈ ancestry state strategyVersionId ↔
      Reaches state.parentage strategyVersionId name := by
    intro name
    rw [ancestry, mem_closure]
    simp
  rcases related with ⟨trial, recorded, rfl, relation⟩ | ⟨_, copies, rfl⟩
  · refine mem_append_left _ (mem_map_of_mem ?_)
    by_cases own : trial.strategyVersionId ∈ ancestry state strategyVersionId
    · exact mem_append_left _ (mem_filter.mpr ⟨recorded, decide_eq_true (.inl own)⟩)
    · -- the strategy itself is in its ancestry
      have foreign : trial.strategyVersionId ≠ strategyVersionId :=
        fun same => own ((ancestor _).mpr (same ▸ Relation.ReflTransGen.refl))
      rcases relation with reaches | family | ⟨same, original⟩
      · exact absurd ((ancestor _).mpr reaches) own
      · exact mem_append_left _ (mem_filter.mpr ⟨recorded, decide_eq_true (.inr ⟨family, foreign⟩)⟩)
      · exact mem_append_right _
          (mem_filter.mpr ⟨recorded, decide_eq_true ⟨same, foreign, original⟩⟩)
  · exact mem_append_right _ (mem_map_of_mem (copies.mem disclosed))

theorem screened_of_checks (disclosed : Disclosed state)
    (made : ∀ check ∈ requiredChecks 1, (check, true) ∈
      (gateOne state actor plan policy strategyVersionId candidateHash now).checks plan row) :
    Screened state plan policy strategyVersionId candidateHash now := by
  have unique := made "not_duplicate" (by simp [requiredChecks])
  have bound := made "family_history_checked" (by simp [requiredChecks])
  have clear := made "cooldown_clear" (by simp [requiredChecks])
  have sound := made "no_known_invalidity" (by simp [requiredChecks])
  simp only [Screen.checks, gateOne, mem_cons, Prod.mk.injEq, String.reduceEq, false_and, true_and,
    or_false,
    false_or, not_mem_nil, eq_comm (a := true), decide_eq_true_eq, Bool.and_eq_true]
    at unique bound clear sound
  have failed : ∀ failure ∈ state.evaluation.decisions, failure.decision = .fail →
      Related state plan strategyVersionId candidateHash failure.strategyVersionId →
        failure ∈ failures state actor plan strategyVersionId candidateHash := by
    intro failure listed fails related
    exact mem_filter.mpr ⟨listed, decide_eq_true ⟨fails, related.mem disclosed⟩⟩
  constructor
  · exact bound.1
  · intro object copies
    exact ne_nil_of_mem (copies.mem disclosed) unique.1
  · intro trial recorded same original
    by_contra foreign
    have listed : trial ∈ equivalents state plan strategyVersionId :=
      mem_filter.mpr ⟨recorded, decide_eq_true ⟨same, foreign, original⟩⟩
    exact ne_nil_of_mem listed unique.2
  · intro failure listed fails related cooling
    exact clear ⟨failure, failed failure listed fails related, cooling⟩
  · intro failure listed fails related artifactId cited artifact held
    by_contra invalid
    refine sound ⟨failure, failed failure listed fails related, artifactId, cited, artifact, ?_,
      by simpa using invalid⟩
    exact (disclosed.decided failure listed artifactId cited).visible held

end Findings

section Passes

variable {request : GateInput} {row : SnapshotRow} {object : ObjectRow} {items : List EvidenceItem}

theorem Judges.screened (judges : Judges deployment state actor request now row object items)
    (disclosed : Disclosed state) (first : request.gateId = 1)
    (passes : (judge row.manifest request object.createdBy now items).1 = .pass) :
    ∃ candidate plan policy, state.evaluation.store.artifacts[object.artifactId]? = some candidate ∧
      PlanOf deployment state row.manifest plan ∧ PolicyOf deployment state row.manifest policy ∧
        Screened state plan policy request.strategyVersionId candidate.content.contentHash now := by
  have made : ∀ check ∈ requiredChecks 1, ∃ candidate plan policy,
      state.evaluation.store.artifacts[object.artifactId]? = some candidate ∧
        PlanOf deployment state row.manifest plan ∧ PolicyOf deployment state row.manifest policy ∧
          (check, true) ∈ (gateOne state actor plan policy object.objectId candidate.content.contentHash
            now).checks plan row := by
    intro check asked
    obtain ⟨_, listed, reported⟩ := judge_pass passes check (first ▸ asked)
    obtain ⟨_, verified⟩ := judges.item_verified (mem_of_mem_filter listed)
    exact verified.screened disclosed judges.decides.admissible first reported
  obtain ⟨candidate, plan, policy, held, planned, ruled, -⟩ := made "not_duplicate" (by simp [requiredChecks])
  have every : ∀ check ∈ requiredChecks 1, (check, true) ∈ (gateOne state actor plan policy object.objectId
      candidate.content.contentHash now).checks plan row := by
    intro check asked
    obtain ⟨_, _, _, heldToo, plannedToo, ruledToo, listed⟩ := made check asked
    -- the reports are all made on the same terms
    rw [held] at heldToo
    cases heldToo
    rwa [planned.same plannedToo, ruled.same ruledToo] at listed
  have named : object.objectId = request.strategyVersionId :=
    find_key judges.decides.admissible.registered
  exact ⟨candidate, plan, policy, held, planned, ruled, named ▸ screened_of_checks disclosed every⟩

end Passes

def PassedWith (deployment : Deployment) (state : VerifierState) (decided : GateDecision) (plan : G1Plan) : Prop :=
  decided ∈ state.evaluation.decisions ∧ decided.gateId = 1 ∧ decided.decision = .pass ∧
    ∃ row, state.evaluation.findSnapshot decided.snapshotId = some row ∧ PlanOf deployment state row.manifest plan

def Owns (state : VerifierState) (strategyVersionId : String) (plan : G1Plan) : Prop :=
  ∃ trial ∈ state.trials, trial.strategyVersionId = strategyVersionId ∧
    semanticHash trial = plan.semanticHash ∧ trial.infrastructureRetry = false

theorem Owns.later {plan : G1Plan} (owns : Owns state strategyVersionId plan)
    (later : Later state after) : Owns after strategyVersionId plan := by
  obtain ⟨trial, recorded, owned⟩ := owns
  exact ⟨trial, later.trials.subset recorded, owned⟩

structure Claimed (deployment : Deployment) (state : VerifierState) : Prop where
  owned : ∀ decided ∈ state.evaluation.decisions, decided.gateId = 1 → decided.decision = .pass →
    ∃ plan, PassedWith deployment state decided plan ∧ Owns state decided.strategyVersionId plan
  sole : ∀ first second plan other, PassedWith deployment state first plan →
    PassedWith deployment state second other → plan.semanticHash = other.semanticHash →
      first.strategyVersionId = second.strategyVersionId

theorem claimed_empty (deployment : Deployment) : Claimed deployment .empty := by
  refine ⟨fun decided member => ?_, fun first second plan other passed => ?_⟩
  · cases member
  · cases passed.1

variable {decided : GateDecision}

theorem PassedWith.later {plan : G1Plan} (later : Later state after)
    (passed : PassedWith deployment state decided plan)
    (member : decided ∈ after.evaluation.decisions) : PassedWith deployment after decided plan := by
  obtain ⟨-, first, passes, row, found, planned⟩ := passed
  exact ⟨member, first, passes, row, later.snapshots _ _ found, planned.later later⟩

theorem PassedWith.same {plan other : G1Plan} (passed : PassedWith deployment state decided plan)
    (again : PassedWith deployment state decided other) : other = plan := by
  obtain ⟨-, -, -, _, found, planned⟩ := passed
  obtain ⟨-, -, -, _, foundToo, plannedToo⟩ := again
  rw [found] at foundToo
  cases foundToo
  exact planned.same plannedToo

theorem Claimed.before (claimed : Claimed deployment state) (later : Later state after)
    {plan : G1Plan} (older : decided ∈ state.evaluation.decisions)
    (passed : PassedWith deployment after decided plan) :
    PassedWith deployment state decided plan ∧ Owns state decided.strategyVersionId plan := by
  obtain ⟨_, before, owns⟩ := claimed.owned decided older passed.2.1 passed.2.2.1
  rw [(before.later later passed.1).same passed]
  exact ⟨before, owns⟩

theorem Claimed.kept (claimed : Claimed deployment state) (later : Later state after)
    (decisions : after.evaluation.decisions = state.evaluation.decisions) : Claimed deployment after where
  owned decided member first passes := by
    obtain ⟨plan, passed, owns⟩ := claimed.owned decided (decisions ▸ member) first passes
    exact ⟨plan, passed.later later member, owns.later later⟩
  sole first second plan other passed passedToo same :=
    claimed.sole first second plan other (claimed.before later (decisions ▸ passed.1) passed).1
      (claimed.before later (decisions ▸ passedToo.1) passedToo).1 same

section Claims

variable {request : GateInput} {row : SnapshotRow} {object : ObjectRow} {items : List EvidenceItem}
  {version gateDecisionId : String}

/-- A pass joins the others: its screen has seen the trials of all who passed before. -/
theorem Claimed.judged (claimed : Claimed deployment state) (disclosed : Disclosed state)
    (judges : Judges deployment state actor request now row object items) :
    Claimed deployment (state.recordDecision request (judgedTransition actor request now row object items version)
      (judged state actor request now row object items version gateDecisionId)) := by
  have later : Later state (state.recordDecision request
    (judgedTransition actor request now row object items version)
    (Verifier.judged state actor request now row object items version gateDecisionId)) := judges.later
  have newest : ∀ plan, PassedWith deployment (state.recordDecision request
      (judgedTransition actor request now row object items version)
      (Verifier.judged state actor request now row object items version gateDecisionId))
      (Verifier.judged state actor request now row object items version gateDecisionId) plan →
      ∀ trial ∈ state.trials, semanticHash trial = plan.semanticHash → trial.infrastructureRetry = false →
        trial.strategyVersionId = request.strategyVersionId := by
    rintro plan ⟨member, first, passes, _, foundAt, planned⟩
    obtain ⟨candidate, _, policy, -, plannedThen, -, screened⟩ := judges.screened disclosed first passes
    have kept := later.snapshots _ _ judges.decides.admissible.pinned
    cases Option.some.inj (kept.symm.trans foundAt)
    rw [(plannedThen.later later).same planned]
    exact screened.first
  constructor
  · intro decided member first passes
    rcases mem_append.mp member with older | new
    · obtain ⟨plan, passed, owns⟩ := claimed.owned decided older first passes
      exact ⟨plan, passed.later later member, owns.later later⟩
    · rw [mem_singleton.mp new] at first passes ⊢
      obtain ⟨_, plan, _, -, planned, -, screened⟩ := judges.screened disclosed first passes
      obtain ⟨trial, recorded, own, -, same, original⟩ := screened.declared
      exact ⟨plan, ⟨mem_append_right _ (mem_singleton_self _), first, passes, row,
        later.snapshots _ _ judges.decides.admissible.pinned, planned.later later⟩, trial, recorded, own, same,
        original⟩
  · intro first second plan other passed passedToo same
    rcases mem_append.mp passed.1 with older | new <;>
      rcases mem_append.mp passedToo.1 with olderToo | newToo
    · exact claimed.sole first second plan other (claimed.before later older passed).1
        (claimed.before later olderToo passedToo).1 same
    · rw [mem_singleton.mp newToo] at passedToo ⊢
      obtain ⟨trial, recorded, own, hash, original⟩ := (claimed.before later older passed).2
      exact own.symm.trans (newest other passedToo trial recorded (hash.trans same) original)
    · rw [mem_singleton.mp new] at passed ⊢
      obtain ⟨trial, recorded, own, hash, original⟩ := (claimed.before later olderToo passedToo).2
      exact (newest plan passed trial recorded (hash.trans same.symm) original).symm.trans own
    · rw [mem_singleton.mp new, mem_singleton.mp newToo]

end Claims

variable {call : TimedCall}

theorem Effect.watched (effect : Effect deployment state after call) (disclosed : Disclosed state)
    (claimed : Claimed deployment state) : Disclosed after ∧ Claimed deployment after := by
  cases effect with
  | idle idle => exact ⟨disclosed.idle idle, claimed.kept idle.later idle.decisions⟩
  | executed makes same =>
    subst same
    exact ⟨disclosed.executed makes, claimed.kept (Making.later _) rfl⟩
  | decided judges same =>
    subst same
    exact ⟨disclosed.judged judges, claimed.judged disclosed judges⟩

theorem history_watched (deployment : Deployment) (calls : List TimedCall) :
    Disclosed (history deployment calls) ∧ Claimed deployment (history deployment calls) := by
  have kept : Traced (history deployment calls) ∧ Disclosed (history deployment calls) ∧
      Claimed deployment (history deployment calls) := by
    refine run_preserves (fun reached => Traced reached ∧ Disclosed reached ∧ Claimed deployment reached)
      ⟨traced_empty, disclosed_empty, claimed_empty deployment⟩ (fun reached call kept => ?_) calls
    refine next_of_answered (fun reached => Traced reached ∧ Disclosed reached ∧ Claimed deployment reached) kept
      fun answer after ok => ?_
    obtain ⟨traced, disclosed, claimed⟩ := kept
    obtain ⟨between, -, effect, rfl⟩ := handle_effect traced ok
    obtain ⟨shown, sole⟩ := effect.watched disclosed claimed
    have stamped : Idle between (stamp reached.evaluation between call.began) := idle_stamp _ _
    exact ⟨(effect.traced traced).idle stamped, shown.idle stamped, sole.kept stamped.later stamped.decisions⟩
  exact kept.2

def Commits (deployment : Deployment) (earlier : List TimedCall) (call : TimedCall) (decided : GateDecision) : Prop :=
  decided ∉ (history deployment earlier).evaluation.decisions ∧
    decided ∈ (history deployment (earlier ++ [call])).evaluation.decisions

/-- Only a call of `gate` makes a decision. -/
theorem Commits.judges (commits : Commits deployment earlier call decided) :
    ∃ actor request now row object items version gateDecisionId,
      call.call = .gate request now gateDecisionId ∧
        Judges deployment (history deployment earlier) actor request now row object items ∧
          decided = judged (history deployment earlier) actor request now row object items version gateDecisionId := by
  obtain ⟨before, made⟩ := commits
  rw [history, run_append, run_cons, run_nil] at made
  cases result : handle deployment (run (handle deployment) .empty earlier) call with
  | error =>
    rw [next_of_error result] at made
    exact absurd made before
  | ok pair =>
    obtain ⟨_, _⟩ := pair
    rw [next_of_ok result] at made
    obtain ⟨_, -, effect, rfl⟩ := handle_effect (history_traced deployment earlier) result
    cases effect with
    | idle idle => exact absurd (idle.decisions ▸ made) before
    | executed _ same =>
      subst same
      exact absurd made before
    | @decided actor _ now request gateDecisionId version row object items judges same =>
      subst same
      refine ⟨actor, request, now, row, object, items, version, gateDecisionId, rfl, judges, ?_⟩
      rcases mem_added made with older | newest
      · exact absurd older before
      · exact newest

/-- When a decision passes the first gate, nothing speaks against the candidate at that moment: the trial that
its plan declares is there, no other object has its content, no other strategy has a trial with the semantic
hash, and what is related has no failure that is in its cooldown or invalid. So in a history one strategy at
most passes the first gate for a semantic hash. -/
theorem screened_passes (deployment : Deployment) :
    (∀ earlier call decided, Commits deployment earlier call decided → decided.gateId = 1 → decided.decision = .pass →
      ∃ request now gateDecisionId row candidate plan policy, call.call = .gate request now gateDecisionId ∧
        (history deployment earlier).evaluation.findSnapshot decided.snapshotId = some row ∧
        (history deployment earlier).evaluation.store.artifacts[row.manifest.candidateArtifactId]? = some candidate ∧
        PlanOf deployment (history deployment earlier) row.manifest plan ∧
        PolicyOf deployment (history deployment earlier) row.manifest policy ∧
        Screened (history deployment earlier) plan policy decided.strategyVersionId candidate.content.contentHash now) ∧
    ∀ calls, (∀ decided ∈ (history deployment calls).evaluation.decisions, decided.gateId = 1 →
        decided.decision = .pass → ∃ plan, PassedWith deployment (history deployment calls) decided plan) ∧
      ∀ first second plan other, PassedWith deployment (history deployment calls) first plan →
        PassedWith deployment (history deployment calls) second other → plan.semanticHash = other.semanticHash →
          first.strategyVersionId = second.strategyVersionId := by
  refine ⟨fun earlier call decided commits first passes => ?_,
    fun calls => ⟨fun decided member first passes => ?_, ?_⟩⟩
  · obtain ⟨_, request, now, row, _, _, _, gateDecisionId, gate, judges, rfl⟩ := commits.judges
    obtain ⟨candidate, plan, policy, held, planned, ruled, screened⟩ :=
      judges.screened (history_watched deployment earlier).1 first passes
    rw [judges.decides.admissible.bound] at held
    exact ⟨request, now, gateDecisionId, row, candidate, plan, policy, gate, judges.decides.admissible.pinned, held,
      planned, ruled, screened⟩
  · obtain ⟨plan, passed, -⟩ := (history_watched deployment calls).2.owned decided member first passes
    exact ⟨plan, passed⟩
  · exact (history_watched deployment calls).2.sole

namespace Small

def creator : Identity := ⟨"creator", .research⟩

def evaluator : Identity := ⟨"evaluator", .evaluator⟩

def governor : Identity := ⟨"governor", .governance⟩

theorem plan_named : "family" ≠ "" ∧ "parameter" ≠ "" := by decide

theorem plan_pinned : ["ART-1"] ≠ [] ∧ ["m"] ≠ [] := by decide

def plan : G1Plan :=
  ⟨"family", ⟨"crypto", "spot", "1h", "trend", "momentum", "intraday"⟩, "parameter", "x", ["ART-1"], ["m"],
    plan_named, plan_pinned⟩

theorem policy_named : "v" ≠ "" := by decide

def policy : GatePolicy := ⟨"v", fun _ => 1, .soft, none, none, policy_named, .rfl⟩

def clear : DerivedReport where
  checks := (requiredChecks 1).map fun check => (check, true)
  hardInvalidity := false
  unknowns := []
  metrics := []
  derivedMetrics := .screen ⟨plan.familyKey, 1, 0, 0, false, plan.semanticHash⟩
  inputArtifacts := [(0, "candidate"), (1, "data"), (2, "plan"), (3, "policy")]
  referencedInputArtifacts := [(0, "candidate"), (1, "data"), (2, "plan"), (3, "policy")]

def deployed : Deployment where
  codeHash := "code"
  fingerprint := "code"
  contentHash := VerifierReport.verifierExecutionId
  publicKey := id
  sign key _ := key
  verifies key signature _ := key = signature
  readContract _ := .ok ⟨"m", "1", ["ART-1"], "evaluator", .research, "S", "campaign"⟩
  readPlan content := if content.contentHash = "plan" then some ⟨"ART-0", "candidate", "first", .g1 plan⟩ else none
  readPolicy content := if content.contentHash = "policy" then some policy else none
  readDerived content := if content.contentHash = "X1" then some clear else none
  laterChecks _ _ _ _ _ _ := .error .typeError

def pinned : EvaluationSnapshot where
  snapshotId := "first"
  candidateArtifactId := 0
  candidateHash := "candidate"
  datasetSnapshotIds := [1]
  evaluatorVersion := "evaluator"
  metricVersions := [("m", "1")]
  gatePolicyVersions := gateKeys.map fun key => (key, "v")
  rulesByGate := []
  calibrationArtifactIds := []
  minimumForwardOpportunities := 1
  forwardEvaluationAt := some 0
  gateInputArtifactIds := [("1", [2, 3])]

def declared (strategyVersionId : String) : Research.Trial where
  trialEventId := strategyVersionId
  campaignId := "campaign"
  trialFamilyId := "family"
  strategyVersionId := strategyVersionId
  trialType := .parameter
  selectionReason := "r"
  semanticConfiguration := "x"
  datasetSnapshotIds := ["ART-1"]
  metricIds := ["m"]
  contaminationTags := []
  parentTrialEventId := none
  scientificRetryOf := none
  infrastructureRetry := false
  operationKey := strategyVersionId

def put (actor : Identity) (contentHash schemaName : String) : TimedCall :=
  ⟨actor, 0, .putArtifact ⟨contentHash, true, ⟨none, [], [], false, false, 0⟩⟩ schemaName .internal "v"⟩

def signed : List TimedCall :=
  [⟨evaluator, 0, .principal "evaluator" .evaluator⟩,
    ⟨evaluator, 0, .principal "governor" .governance⟩,
    ⟨evaluator, 0, .provision "evaluator" "K" "secret"⟩,
    ⟨creator, 0, .campaign "campaign"⟩,
    put creator "candidate" "strategy",
    put creator "data" "data/dataset-manifest-v1",
    put creator "plan" planSchema,
    put governor "policy" policySchema,
    put creator "other" "strategy",
    ⟨creator, 0, .dataset 1⟩,
    ⟨creator, 0, .register ⟨"S", .strategyVersion, "campaign", 0, []⟩⟩,
    ⟨creator, 0, .register ⟨"O", .strategyVersion, "campaign", 4, []⟩⟩,
    ⟨creator, 0, .trial (declared "S")⟩,
    ⟨evaluator, 1, .snapshot pinned⟩,
    ⟨evaluator, 2, .execute ⟨"K", "secret"⟩ ⟨"first", "S", 0, "E0"⟩ ⟨"X0", "V0"⟩ 2⟩,
    ⟨evaluator, 3, .gate ⟨"S", "first", 0, 0, ["V0"], [], "G0"⟩ 3 "D0"⟩,
    ⟨evaluator, 4, .execute ⟨"K", "secret"⟩ ⟨"first", "S", 1, "E1"⟩ ⟨"X1", "V1"⟩ 4⟩]

def gate : TimedCall := ⟨evaluator, 5, .gate ⟨"S", "first", 1, 1, ["V1"], [], "G1"⟩ 5 "D1"⟩

end Small

/-- The signed screen is enough for a pass. -/
example : ((history Small.deployed (Small.signed ++ [Small.gate])).evaluation.decisions.map
    fun decided => (decided.gateId, decided.decision)) = [(0, .pass), (1, .pass)] := by decide +kernel

/-- It is not, once another strategy has the trial. -/
example : ((history Small.deployed (Small.signed ++
    [⟨Small.creator, 5, .trial (Small.declared "O")⟩, Small.gate])).evaluation.decisions.map
      fun decided => (decided.gateId, decided.decision)) = [(0, .pass)] := by decide +kernel

end Liki.Verifier
