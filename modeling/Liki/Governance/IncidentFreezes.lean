import Liki.Governance.Effects

/-! Material incidents and the promotions they freeze. The reliability service freezes
promotions when it declares a SEV0 or SEV1 incident and lifts the freeze only once the
incident is resolved. Two ways lead into an open status past that: the governance
service declares incidents of its own without a freeze, and reopening an incident does
not renew one that was lifted. -/
namespace Liki.Governance
open Checks GovernanceState CallSystem KeyedRows

variable {deployment : Deployment} {state between after : GovernanceState} {call : GovernanceCall}
  {incidentId : String} {incident : Incident} {more : List FreezeRow} {readings : Readings}
  {details : IncidentDetails} {now : Time} {toStatus : IncidentStatus}

def GovernanceState.Freezes (state : GovernanceState) (incidentId : String) : Prop :=
  ∃ freeze ∈ state.incidentFreezes, freeze.scopeId = incidentId ∧ freeze.liftedAt = none

instance (state : GovernanceState) (incidentId : String) : Decidable (state.Freezes incidentId) :=
  inferInstanceAs (Decidable (∃ freeze ∈ state.incidentFreezes, _))

def FrozenWhileOpen (state : GovernanceState) : Prop :=
  ∀ incident ∈ state.incidents, incident.severity.material → incident.status.unresolved →
    state.Freezes incident.incidentId

def KeepsFrozen (state : GovernanceState) (call : GovernanceCall) : Prop :=
  match call.request with
  | .declareIncident incident _ _ => incident.severity.material → ¬incident.status.unresolved
  | .advanceIncident incidentId .opened _ _ _ _ | .reliability (.reopen incidentId _ _ _) =>
    ∀ incident ∈ state.findIncident incidentId, incident.severity.material → state.Freezes incidentId
  | _ => True

instance (state : GovernanceState) (call : GovernanceCall) : Decidable (KeepsFrozen state call) := by
  obtain ⟨_, _, _⟩ := call
  unfold KeepsFrozen
  dsimp only
  split <;> infer_instance

theorem Freezes.of_eq (same : after.incidentFreezes = state.incidentFreezes) :
    after.Freezes incidentId ↔ state.Freezes incidentId := by
  unfold GovernanceState.Freezes
  rw [same]

theorem Freezes.append (freezes : state.Freezes incidentId)
    (grown : after.incidentFreezes = state.incidentFreezes ++ more) : after.Freezes incidentId := by
  obtain ⟨freeze, member, named, standing⟩ := freezes
  exact ⟨freeze, grown ▸ List.mem_append_left _ member, named, standing⟩

theorem Freezes.lift (freezes : state.Freezes other) (differ : other ≠ incidentId)
    (lifted : after.incidentFreezes = liftedFreezes readings state.incidentFreezes incidentId) :
    after.Freezes other := by
  obtain ⟨freeze, member, named, standing⟩ := freezes
  refine ⟨freeze, ?_, named, standing⟩
  rw [lifted]
  exact mem_update_of_mem member (named ▸ differ)

theorem mem_exchanged {incidents : List Incident} {next : Incident}
    (member : incident ∈ exchanged incidents next) :
    incident = next ∨ (incident ∈ incidents ∧ incident.incidentId ≠ next.incidentId) := by
  rcases mem_update member with ⟨_, -, -, rfl⟩ | older
  · exact .inl rfl
  · exact .inr older

theorem unresolved_of_transition {next : Incident}
    (ok : transitionIncident incident toStatus now details = .ok next)
    (unresolved : toStatus.unresolved) (notOpened : toStatus ≠ .opened) :
    incident.status.unresolved := by
  have allowed := (transitionIncident_ok ok).1
  cases status : incident.status <;> rw [status] at allowed <;>
    simp only [IncidentStatus.successors, List.mem_cons, List.not_mem_nil, or_false] at allowed
  · rfl
  · rfl
  · rfl
  · rcases allowed with rfl | rfl
    · exact absurd unresolved (by decide)
    · exact absurd rfl notOpened

theorem FrozenWhileOpen.exchange (kept : FrozenWhileOpen state) {next : Incident}
    (incidents : after.incidents = exchanged state.incidents next)
    (others : ∀ incidentId, incidentId ≠ next.incidentId → state.Freezes incidentId →
      after.Freezes incidentId)
    (covered : next.severity.material → next.status.unresolved → after.Freezes next.incidentId) :
    FrozenWhileOpen after := by
  intro incident member material unresolved
  rw [incidents] at member
  rcases mem_exchanged member with rfl | ⟨older, differ⟩
  · exact covered material unresolved
  · exact others _ differ (kept incident older material unresolved)

theorem FrozenWhileOpen.transition (kept : FrozenWhileOpen state) {next : Incident}
    (found : state.findIncident incident.incidentId = some incident)
    (moved : transitionIncident incident toStatus now details = .ok next)
    (incidents : after.incidents = exchanged state.incidents next)
    (freezes : after.incidentFreezes = state.incidentFreezes)
    (reopened : toStatus = .opened → incident.severity.material → state.Freezes incident.incidentId) :
    FrozenWhileOpen after := by
  obtain ⟨status, severity, named, -⟩ := transitionIncident_keeps moved
  refine kept.exchange incidents (fun _ _ frozen => (Freezes.of_eq freezes).mpr frozen) ?_
  intro material unresolved
  rw [severity] at material
  rw [status] at unresolved
  rw [Freezes.of_eq freezes, named]
  by_cases again : toStatus = .opened
  · exact reopened again material
  · exact kept incident (find_mem found) material
      (unresolved_of_transition moved unresolved again)

theorem FrozenWhileOpen.still (kept : FrozenWhileOpen state) {next : Incident}
    (found : state.findIncident incident.incidentId = some incident)
    (status : next.status = incident.status) (severity : next.severity = incident.severity)
    (named : next.incidentId = incident.incidentId)
    (incidents : after.incidents = exchanged state.incidents next)
    (freezes : after.incidentFreezes = state.incidentFreezes) : FrozenWhileOpen after := by
  refine kept.exchange incidents (fun _ _ frozen => (Freezes.of_eq freezes).mpr frozen) ?_
  intro material unresolved
  rw [severity] at material
  rw [status] at unresolved
  rw [Freezes.of_eq freezes, named]
  exact kept incident (find_mem found) material unresolved

theorem findIncident_eq (state : GovernanceState) (incidentId : String) :
    state.findIncident incidentId =
      find (fun incident : Incident => incident.incidentId) incidentId state.incidents :=
  rfl

theorem findIncident_named (found : state.findIncident incidentId = some incident) :
    incident.incidentId = incidentId ∧ state.findIncident incident.incidentId = some incident := by
  have named := find_key ((findIncident_eq state incidentId).symm.trans found)
  exact ⟨named, named.symm ▸ found⟩

theorem FrozenWhileOpen.insert (kept : FrozenWhileOpen state)
    (incidents : after.incidents = state.incidents ++ [incident])
    (freezes : after.incidentFreezes = state.incidentFreezes ++ more)
    (covered : incident.severity.material → incident.status.unresolved →
      after.Freezes incident.incidentId) : FrozenWhileOpen after := by
  intro other member material unresolved
  rw [incidents] at member
  rcases mem_added member with older | newest
  · exact Freezes.append (kept other older material unresolved) freezes
  · rw [newest] at material unresolved ⊢
    exact covered material unresolved

/-- Every move of the reliability service but a lifted freeze leaves the freezes. -/
theorem FrozenWhileOpen.moves {next : Incident} (kept : FrozenWhileOpen state)
    (found : state.findIncident request.incidentId = some incident)
    (moves : Moves deployment readings state incident request next eventType artifactIds actions freezes)
    (admissible : ∀ actor, KeepsFrozen state ⟨readings, actor, .reliability request⟩)
    (incidents : after.incidents = exchanged state.incidents next)
    (frozen : after.incidentFreezes = freezes) : FrozenWhileOpen after := by
  obtain ⟨named, self⟩ := findIncident_named found
  cases moves with
  | contain moved => exact kept.transition self moved incidents frozen nofun
  | beginReconciliation moved => exact kept.transition self moved incidents frozen nofun
  | correct => refine kept.still self ?_ ?_ ?_ incidents frozen <;> rfl
  | resolve _ _ moved => exact kept.transition self moved incidents frozen nofun
  | close moved => exact kept.transition self moved incidents frozen nofun
  | reopen moved =>
    refine kept.transition self moved incidents frozen fun _ material => ?_
    rw [named]
    exact admissible ⟨"", .governance⟩ incident found material
  | link => refine kept.still self ?_ ?_ ?_ incidents frozen <;> rfl
  | lift settled =>
    refine kept.exchange incidents (fun other differ standing => ?_)
      (fun _ unresolved => absurd unresolved settled)
    refine Freezes.lift standing ?_ frozen
    intro same
    exact differ (same.trans named.symm)

theorem FrozenWhileOpen.write (kept : FrozenWhileOpen state) (admissible : KeepsFrozen state call)
    (write : IncidentWrite deployment state call after) : FrozenWhileOpen after := by
  cases write with
  | declaredByGovernance logged absent unlinked =>
    rename_i incident _ _ _ recorded
    have freezes : recorded.incidentFreezes = state.incidentFreezes ++ [] := by
      rw [logged.store_only]
      simp
    exact kept.insert rfl freezes fun material unresolved => absurd unresolved (admissible material)
  | advanced found moved logged =>
    obtain ⟨named, self⟩ := findIncident_named found
    refine kept.transition self moved rfl (by rw [logged.store_only]) ?_
    rintro rfl material
    rw [named]
    exact admissible _ found material
  | declared logged opened absent =>
    rename_i incident _ _ _ _ recorded snapshots
    refine kept.insert rfl rfl fun material _ => ?_
    refine ⟨⟨incident.incidentId, none⟩, ?_, rfl, rfl⟩
    simp [material]
  | moved found moves => exact kept.moves found moves (fun _ => admissible) rfl rfl

theorem FrozenWhileOpen.of_eq (kept : FrozenWhileOpen state) (incidents : after.incidents = state.incidents)
    (freezes : after.incidentFreezes = state.incidentFreezes) : FrozenWhileOpen after := by
  intro incident member material unresolved
  rw [incidents] at member
  exact (Freezes.of_eq freezes).mpr (kept incident member material unresolved)

theorem KeepsFrozen.aside (admissible : KeepsFrozen state call) (aside : Aside state between) :
    KeepsFrozen between call := by
  have lookup : ∀ incidentId, between.findIncident incidentId = state.findIncident incidentId := by
    intro incidentId
    rw [findIncident_eq, findIncident_eq, aside.incidents]
  unfold KeepsFrozen at admissible ⊢
  simpa only [lookup, Freezes.of_eq aside.incidentFreezes] using admissible

theorem FrozenWhileOpen.effect (kept : FrozenWhileOpen state) (admissible : KeepsFrozen state call)
    (effect : Effect deployment state call after) : FrozenWhileOpen after := by
  cases effect with
  | aside aside => exact kept.of_eq aside.incidents aside.incidentFreezes
  | policies write => exact kept.of_eq (by rw [write.frame]) (by rw [write.frame])
  | proposals aside write =>
    exact (kept.of_eq aside.incidents aside.incidentFreezes).of_eq (by rw [write.frame])
      (by rw [write.frame])
  | incidents aside write =>
    exact (kept.of_eq aside.incidents aside.incidentFreezes).write (admissible.aside aside) write

theorem mem_promotionBlockers (freezes : state.Freezes incidentId) :
    "incident:" ++ incidentId ∈ state.promotionBlockers := by
  obtain ⟨freeze, member, rfl, standing⟩ := freezes
  unfold promotionBlockers sortedNames
  rw [List.mem_insertionSort]
  apply List.mem_append_left
  exact List.mem_map.mpr ⟨freeze, List.mem_filter.mpr ⟨member, by simpa using standing⟩, rfl⟩

theorem guardPromotionFreeze_frozen (frozen : state.promotionsFrozen) (promoting : row.promoting) :
    state.guardPromotionFreeze row = .error (.constraint "PROMOTION_FROZEN") := by
  simp [guardPromotionFreeze, refuseIf, frozen, promoting]

theorem promoted_before (frozen : ∃ freeze ∈ state.incidentFreezes, freeze.liftedAt = none)
    (call : GovernanceCall) :
    ∀ proposalId row, (next (answer deployment) state call).findProposal proposalId = some row →
      row.status = .promoted → state.findProposal proposalId = some row := by
  refine next_of_answered (fun after : GovernanceState => ∀ proposalId row, after.findProposal proposalId = some row →
    row.status = .promoted → state.findProposal proposalId = some row)
    (fun _ _ found _ => found) fun answered after ok => ?_
  intro proposalId row found promoted
  cases effect_of_answer ok with
  | aside aside =>
    rw [findProposal, aside.proposals] at found
    exact found
  | policies write =>
    rw [write.frame] at found
    exact found
  | incidents aside write =>
    rw [write.frame, findProposal, aside.proposals] at found
    exact found
  | proposals aside write =>
    rename_i between
    have stands : between.promotionsFrozen := .inl (aside.incidentFreezes ▸ frozen)
    have same : state.findProposal proposalId = between.findProposal proposalId := by
      unfold findProposal
      rw [aside.proposals]
    rw [same]
    cases write with
    | proposed _ _ _ unfrozen =>
      simp only [findProposal, find_insert] at found ⊢
      rcases Option.or_eq_some_iff.mp found with older | ⟨-, newest⟩
      · exact older
      · split at newest
        · cases newest
          exact absurd stands (unfrozen promoted)
        · cases newest
    | reproposed logged =>
      rw [findProposal_logged logged] at found
      exact found
    | edited edits found' logged requested unfrozen distinct =>
      simp only [findProposal, findProposal_edited] at found ⊢
      split at found
      · rename_i named
        subst named
        obtain ⟨_, held, rfl⟩ := Option.map_eq_some_iff.mp found
        rw [findProposal, held] at found'
        cases found'
        exact absurd stands (unfrozen promoted)
      · exact found

theorem effective_before (frozen : ∃ freeze ∈ state.incidentFreezes, freeze.liftedAt = none)
    (call : GovernanceCall) :
    ∀ row ∈ (next (answer deployment) state call).policies, row.status = .effective →
      row ∈ state.policies := by
  refine next_of_answered (fun after : GovernanceState => ∀ row ∈ after.policies, row.status = .effective →
    row ∈ state.policies) (fun _ member _ => member) fun answered after ok => ?_
  intro row member effective
  have stands : state.promotionsFrozen := .inl frozen
  cases effect_of_answer ok with
  | aside aside => exact aside.policies ▸ member
  | incidents aside write =>
    rw [write.frame] at member
    exact aside.policies ▸ member
  | proposals aside write =>
    rw [write.frame] at member
    exact aside.policies ▸ member
  | policies write =>
    cases write with
    | registered logged first absent unfrozen =>
      rename_i chosen recorded
      rcases mem_added member with older | newest
      · exact older
      · rw [newest] at effective
        refine absurd stands (unfrozen ?_)
        cases chosen
        · cases effective
        · rfl
    | reregistered logged =>
      rw [logged.store_only] at member
      exact member
    | activated _ _ _ _ unfrozen => exact absurd stands unfrozen
    | rolledBack _ _ _ _ unfrozen => exact absurd stands unfrozen

structure BlocksPromotion (deployment : Deployment) (state : GovernanceState) (incident : Incident) :
    Prop where
  frozen : state.Freezes incident.incidentId
  named : "incident:" ++ incident.incidentId ∈ state.promotionBlockers
  refused : ∀ row : GuardedRow, row.promoting →
    state.guardPromotionFreeze row = .error (.constraint "PROMOTION_FROZEN")
  proposals : ∀ call proposalId row,
    (next (answer deployment) state call).findProposal proposalId = some row →
      row.status = .promoted → state.findProposal proposalId = some row
  policies : ∀ call, ∀ row ∈ (next (answer deployment) state call).policies,
    row.status = .effective → row ∈ state.policies

/-- As long as the governance service declares no unresolved material incident and no
material incident is reopened after its freeze was lifted, every unresolved material
incident blocks promotion in every state that is reached. Refused calls may do either. -/
theorem open_incidents_block_promotion (calls : List GovernanceCall)
    (kept : Along (answer deployment) (WhenAnswered (answer deployment) KeepsFrozen) .empty calls) :
    ∀ incident ∈ (history deployment calls).incidents, incident.severity ∈ [.sev0, .sev1] →
      incident.status ∈ [.opened, .contained, .reconciling] →
      BlocksPromotion deployment (history deployment calls) incident := by
  have invariant : FrozenWhileOpen (history deployment calls) :=
    run_answered FrozenWhileOpen (by simp [FrozenWhileOpen, GovernanceState.empty])
      (fun _ _ _ _ frozen admissible ok => frozen.effect admissible (effect_of_answer ok)) kept
  intro incident member material status
  have unresolved : incident.status.unresolved := by
    revert status
    cases incident.status <;> decide
  have freezes := invariant incident member (by simpa [IncidentSeverity.material] using material)
    unresolved
  have standing : ∃ freeze ∈ (history deployment calls).incidentFreezes, freeze.liftedAt = none := by
    obtain ⟨freeze, held, -, lifted⟩ := freezes
    exact ⟨freeze, held, lifted⟩
  exact ⟨freezes, mem_promotionBlockers freezes,
    fun row promoting => guardPromotionFreeze_frozen (.inl standing) promoting,
    promoted_before standing, effective_before standing⟩

namespace Small

def evidence : Fields := [("observed", .text "venue outage")]

def regressionFields : Fields :=
  [("check_id", .text "replay"), ("check_kind", .text "regression"), ("result", .text "PASS"),
    ("executed_at_utc", .text "5")]

def regression : AutomatedCheck := ⟨"replay", "regression", .pass, provenance 1 evaluator regressionFields, 5⟩

def remediation : Fields := [("fixed", .text "failover")]

def reopening : Fields := [("observed", .text "again")]

theorem first_version : 1 ≤ 1 := le_rfl

def outage : Incident where
  incidentId := "INC-1"
  severity := .sev0
  status := .opened
  openedBy := "gov"
  affectedModules := ["execution"]
  affectedPolicyVersions := []
  evidence := [provenance 0 governance evidence]
  containmentActions := []
  containedAt := none
  resolvedAt := none
  closedAt := none
  reconciliationEvidence := []
  rootCauseArtifact := none
  impactAssessmentArtifact := none
  postmortemArtifact := none
  correctiveActionIds := []
  stateVersion := 1
  numbered := first_version
  explained := by decide
  learned := by decide

def filed : List GovernanceCall :=
  [made 1 governance (.putArtifact evidence "reliability/evidence/v1" .internal "v1"),
    made 2 evaluator (.putArtifact regressionFields "governance/automated-check-result/v1" .internal "v1"),
    made 3 governance (.putArtifact remediation "reliability/incident-remediation/v1" .internal "v1"),
    made 4 governance (.putArtifact reopening "reliability/incident-reopen-evidence/v1" .internal "v1")]

def declared : GovernanceCall :=
  made 10 governance (.reliability (.declareIncident outage "declare" "v1" (some "telegram")))

def resolved : List GovernanceCall :=
  [made 11 governance (.reliability (.contain "INC-1" "halted" (provenance 0 governance evidence)
      "contain" "v1")),
    made 12 governance (.reliability (.beginReconciliation "INC-1" "reconcile" "v1")),
    made 13 governance (.reliability (.recordCorrectiveAction "INC-1"
      ⟨"CA-1", provenance 0 governance evidence, [regression], by decide⟩ "correct" "v1")),
    made 14 governance (.reliability (.resolve "INC-1" [provenance 0 governance evidence]
      (provenance 0 governance evidence) (provenance 0 governance evidence) "resolve" "v1"))]

def lifted : GovernanceCall :=
  made 15 governance (.reliability (.liftIncidentFreeze "INC-1" (provenance 2 governance remediation)
    "lift" "v1"))

def reopened : GovernanceCall :=
  made 16 governance (.reliability (.reopen "INC-1" (provenance 3 governance reopening) "reopen" "v1"))

end Small

open Governance.Small

theorem open_incidents_block_promotion_declared :
    ∃ incident ∈ (history Small.deployment (filed ++ [declared])).incidents,
      incident.severity = .sev0 ∧ incident.status = .opened ∧
        BlocksPromotion Small.deployment (history Small.deployment (filed ++ [declared])) incident :=
  ⟨outage, by decide +kernel, rfl, rfl,
    open_incidents_block_promotion (filed ++ [declared]) (by decide +kernel) outage (by decide +kernel)
      (by decide) (by decide)⟩

/-- An incident that the governance service declares freezes nothing, and one that is
reopened after its freeze was lifted freezes nothing any more: gates pass while a SEV0
incident is open. -/
theorem open_incidents_without_freeze :
    (∃ incident ∈ (history Small.deployment
        (filed ++ [made 10 governance (.declareIncident outage "declare" "v1")])).incidents,
      incident.severity = .sev0 ∧ incident.status = .opened ∧
        (history Small.deployment (filed ++ [made 10 governance
          (.declareIncident outage "declare" "v1")])).guardPromotionFreeze (.gateDecision "PASS") =
            .ok ()) ∧
      ∃ incident ∈ (history Small.deployment
          (filed ++ [declared] ++ resolved ++ [lifted, reopened])).incidents,
        incident.severity = .sev0 ∧ incident.status = .opened ∧
          (history Small.deployment (filed ++ [declared] ++ resolved ++
            [lifted, reopened])).guardPromotionFreeze (.gateDecision "PASS") = .ok () := by
  decide +kernel

end Liki.Governance
