import Liki.Governance.Commits

/-! What an answered call can do to the incidents, and with it the one statement every
rule of the two services is derived from: an answered call steps aside and then makes at
most one write. -/
namespace Liki.Governance
open Checks GovernanceState CallSystem List KeyedRows

variable {deployment : Deployment} {readings : Readings} {state before after : GovernanceState}
  {actor : Identity} {operationKey policyVersion incidentId : String}
  {request : GovernanceTransition} {answered : GovernanceAnswer}

def exchanged (incidents : List Incident) (next : Incident) : List Incident :=
  update (fun incident : Incident => incident.incidentId) next.incidentId (fun _ => next)
    incidents

def liftedFreezes (readings : Readings) (freezes : List FreezeRow) (incidentId : String) :
    List FreezeRow :=
  update FreezeRow.scopeId incidentId
    (fun freeze => { freeze with liftedAt := some (freeze.liftedAt.getD readings.now) }) freezes

inductive Moves (deployment : Deployment) (readings : Readings) (state : GovernanceState)
    (incident : Incident) : ReliabilityRequest → Incident → String → List ℕ →
      List CorrectiveActionRow → List FreezeRow → Prop where
  | contain {incidentId action evidence operationKey policyVersion next artifactIds}
      (moved : transitionIncident incident .contained readings.now { containmentAction := some action } =
        .ok next) :
      Moves deployment readings state incident
        (.contain incidentId action evidence operationKey policyVersion) next "INCIDENT_CONTAINED"
        artifactIds state.correctiveActions state.incidentFreezes
  | beginReconciliation {incidentId operationKey policyVersion next}
      (moved : transitionIncident incident .reconciling readings.now {} = .ok next) :
      Moves deployment readings state incident
        (.beginReconciliation incidentId operationKey policyVersion) next
        "INCIDENT_RECONCILIATION_STARTED" [] state.correctiveActions state.incidentFreezes
  | correct {incidentId action operationKey policyVersion completion regressionIds}
      (reconciling : incident.status = .reconciling)
      (verified : action.regressionChecks.mapM (state.regressionCheck deployment) = .ok regressionIds) :
      Moves deployment readings state incident
        (.recordCorrectiveAction incidentId action operationKey policyVersion)
        (Reliability.Incident.corrected incident action.correctiveActionId)
        "INCIDENT_CORRECTIVE_ACTION_VERIFIED" (completion :: regressionIds)
        (state.correctiveActions ++ [⟨action.correctiveActionId, incidentId⟩]) state.incidentFreezes
  | resolve {incidentId evidence rootCause impact operationKey policyVersion next artifactIds}
      (acted : incident.correctiveActionIds ≠ [])
      (completed : incident.correctiveActionIds.toFinset =
        (Reliability.completedActions state incidentId).toFinset)
      (moved : transitionIncident incident .resolved readings.now
        { reconciliationEvidence := evidence, rootCauseArtifact := some rootCause,
          impactAssessmentArtifact := some impact } = .ok next) :
      Moves deployment readings state incident
        (.resolve incidentId evidence rootCause impact operationKey policyVersion) next
        "INCIDENT_RESOLVED" artifactIds state.correctiveActions state.incidentFreezes
  | close {incidentId postmortem operationKey policyVersion next artifactIds}
      (moved : transitionIncident incident .closed readings.now { postmortemArtifact := postmortem } =
        .ok next) :
      Moves deployment readings state incident (.close incidentId postmortem operationKey policyVersion)
        next "INCIDENT_CLOSED" artifactIds state.correctiveActions state.incidentFreezes
  | reopen {incidentId evidence operationKey policyVersion next artifactIds}
      (moved : transitionIncident incident .opened readings.now {} = .ok next) :
      Moves deployment readings state incident (.reopen incidentId evidence operationKey policyVersion)
        next "INCIDENT_REOPENED" artifactIds state.correctiveActions state.incidentFreezes
  | link {incidentId related relationship operationKey policyVersion artifactIds} :
      Moves deployment readings state incident
        (.linkRecurrence incidentId related relationship operationKey policyVersion)
        (Reliability.Incident.touched incident) "INCIDENT_RECURRENCE_LINKED" artifactIds
        state.correctiveActions state.incidentFreezes
  | lift {incidentId remediation operationKey policyVersion artifactIds}
      (settled : ¬incident.status.unresolved) :
      Moves deployment readings state incident
        (.liftIncidentFreeze incidentId remediation operationKey policyVersion)
        (Reliability.Incident.touched incident) "INCIDENT_PROMOTION_FREEZE_LIFTED" artifactIds
        state.correctiveActions (liftedFreezes readings state.incidentFreezes incidentId)

variable {incident : Incident}

theorem Moves.keeps {next : Incident}
    (moves : Moves deployment readings state incident call next eventType artifactIds actions freezes) :
    next.severity = incident.severity ∧ next.incidentId = incident.incidentId ∧
      next.stateVersion = incident.stateVersion + 1 := by
  cases moves with
  | contain moved => exact (transitionIncident_keeps moved).2
  | beginReconciliation moved => exact (transitionIncident_keeps moved).2
  | correct => exact ⟨rfl, rfl, rfl⟩
  | resolve _ _ moved => exact (transitionIncident_keeps moved).2
  | close moved => exact (transitionIncident_keeps moved).2
  | reopen moved => exact (transitionIncident_keeps moved).2
  | link => exact ⟨rfl, rfl, rfl⟩
  | lift => exact ⟨rfl, rfl, rfl⟩

inductive IncidentWrite (deployment : Deployment) (state : GovernanceState) :
    GovernanceCall → GovernanceState → Prop where
  | declaredByGovernance {readings actor incident operationKey policyVersion artifactIds recorded}
      (logged : Logged state operationKey (incidentRequest actor incident.incidentId 0
        (.incident incident.status none) "INCIDENT_DECLARED" policyVersion artifactIds
        (some (.declared incident.severity incident.severity.material))) recorded)
      (absent : state.findIncident incident.incidentId = none)
      (unlinked : (incident.incidentId, recorded.eventId operationKey) ∉ state.incidentEvents) :
      IncidentWrite deployment state
        ⟨readings, actor, .declareIncident incident operationKey policyVersion⟩
        { recorded with
          incidents := state.incidents ++ [incident]
          incidentEvents := state.incidentEvents ++
            [(incident.incidentId, recorded.eventId operationKey)] }
  | advanced {readings actor incidentId toStatus expectedVersion operationKey policyVersion details
        current next artifactIds recorded}
      (found : state.findIncident incidentId = some current)
      (moved : transitionIncident current toStatus readings.now details = .ok next)
      (logged : Logged state operationKey (incidentRequest actor incidentId expectedVersion
        (.incident toStatus none) ("INCIDENT_" ++ toStatus.value) policyVersion artifactIds none)
        recorded)
      (unlinked : (incidentId, recorded.eventId operationKey) ∉ state.incidentEvents) :
      IncidentWrite deployment state
        ⟨readings, actor, .advanceIncident incidentId toStatus expectedVersion operationKey
          policyVersion details⟩
        { recorded with
          incidents := exchanged state.incidents next
          incidentEvents := state.incidentEvents ++ [(incidentId, recorded.eventId operationKey)] }
  | declared {readings actor incident operationKey policyVersion ownerRecipient artifactIds recorded
        snapshots}
      (logged : Logged state operationKey (incidentRequest actor incident.incidentId 0
        (.incident .opened (some incident.severity)) "INCIDENT_DECLARED" policyVersion artifactIds none)
        recorded)
      (opened : incident.status = .opened) (absent : state.findIncident incident.incidentId = none) :
      IncidentWrite deployment state
        ⟨readings, actor, .reliability (.declareIncident incident operationKey policyVersion
          ownerRecipient)⟩
        { recorded with
          incidents := state.incidents ++ [incident]
          evidenceSnapshots := snapshots
          incidentFreezes := state.incidentFreezes ++
            if incident.severity.material then [⟨incident.incidentId, none⟩] else [] }
  | moved {readings actor request incident next eventType policyVersion artifactIds actions freezes
        recorded snapshots}
      (found : state.findIncident request.incidentId = some incident)
      (moves : Moves deployment readings state incident request next eventType artifactIds actions
        freezes)
      (logged : Logged state request.operationKey (incidentRequest actor next.incidentId
        incident.stateVersion (.incident next.status (some next.severity)) eventType policyVersion
        artifactIds none) recorded) :
      IncidentWrite deployment state ⟨readings, actor, .reliability request⟩
        { recorded with
          incidents := exchanged state.incidents next
          evidenceSnapshots := snapshots
          correctiveActions := actions
          incidentFreezes := freezes }

theorem findIncident_logged (logged : Logged state operationKey request after) (incidentId : String) :
    after.findIncident incidentId = state.findIncident incidentId := by
  cases logged <;> rfl

theorem declareIncident_ok
    (ok : declareIncident deployment state actor incident operationKey policyVersion =
      .ok (answered, after)) :
    IncidentWrite deployment state
      ⟨readings, actor, .declareIncident incident operationKey policyVersion⟩ after := by
  simp only [declareIncident, insertIncident, insertIncidentEvent, Identity.requires, bind_ok,
    guard_ok, Prod.exists, pure_ok, Prod.mk.injEq] at ok
  obtain ⟨-, -, _, -, _, recorded, moved, _, ⟨absent, rfl⟩, _,
    ⟨unlinked, rfl⟩, -, rfl⟩ := ok
  obtain ⟨logged, rfl⟩ := transition_ok moved
  have fresh : state.findIncident incident.incidentId = none := by
    rw [findIncident_logged logged] at absent
    simpa using absent
  have events : recorded.incidentEvents = state.incidentEvents := by rw [logged.store_only]
  have rows : recorded.incidents = state.incidents := by rw [logged.store_only]
  simp only [events, rows] at unlinked ⊢
  exact .declaredByGovernance logged fresh unlinked

variable {expectedVersion : ℕ}

theorem advanceIncident_ok
    (ok : advanceIncident deployment readings state actor incidentId toStatus expectedVersion
      operationKey policyVersion details = .ok (answered, after)) :
    IncidentWrite deployment state
      ⟨readings, actor, .advanceIncident incidentId toStatus expectedVersion operationKey policyVersion
        details⟩ after := by
  simp only [advanceIncident, insertIncidentEvent, Identity.requires, bind_ok, expect_ok, guard_ok,
    Prod.exists, pure_ok, Prod.mk.injEq] at ok
  obtain ⟨-, _, found, _, moves, _, -, _, recorded, moved, _,
    ⟨unlinked, rfl⟩, -, rfl⟩ := ok
  obtain ⟨logged, rfl⟩ := transition_ok moved
  have events : recorded.incidentEvents = state.incidentEvents := by rw [logged.store_only]
  have rows : recorded.incidents = state.incidents := by rw [logged.store_only]
  simp only [updateIncident, events, rows] at unlinked ⊢
  exact .advanced found moves logged unlinked

namespace Reliability

variable {artifactIds : List ℕ} {incident : Incident} {call : ReliabilityRequest}
  {moved : GovernanceState}

theorem moveIncident_ok {next : Incident}
    (ok : moveIncident state actor incident next eventType operationKey policyVersion artifactIds =
      .ok after) :
    ∃ recorded, Logged state operationKey (incidentRequest actor next.incidentId incident.stateVersion
        (.incident next.status (some next.severity)) eventType policyVersion artifactIds none) recorded ∧
      after = { recorded with incidents := exchanged state.incidents next } := by
  simp only [moveIncident, bind_ok, Prod.exists, pure_ok] at ok
  obtain ⟨_, recorded, moved, rfl⟩ := ok
  obtain ⟨logged, -⟩ := transition_ok moved
  refine ⟨recorded, logged, ?_⟩
  cases logged <;> rfl

theorem captureEvidence_eq (state : GovernanceState) (incidentId : String) (artifactId : ℕ) :
    ∃ snapshots, captureEvidence state incidentId artifactId =
      { state with evidenceSnapshots := snapshots } := by
  unfold captureEvidence
  split
  · exact ⟨state.evidenceSnapshots, rfl⟩
  · exact ⟨_, rfl⟩

theorem write_of_move {next : Incident} {snapshots : List (String × ℕ)}
    (found : state.findIncident call.incidentId = some incident)
    (moves : Moves deployment readings state incident call next eventType artifactIds
      state.correctiveActions state.incidentFreezes)
    (ok : moveIncident state actor incident next eventType call.operationKey policyVersion artifactIds =
      .ok moved) :
    IncidentWrite deployment state ⟨readings, actor, .reliability call⟩
      { moved with evidenceSnapshots := snapshots } := by
  obtain ⟨recorded, logged, rfl⟩ := moveIncident_ok ok
  have write : IncidentWrite deployment state ⟨readings, actor, .reliability call⟩ { recorded with
      incidents := exchanged state.incidents next
      evidenceSnapshots := snapshots
      correctiveActions := state.correctiveActions
      incidentFreezes := state.incidentFreezes } := .moved found moves logged
  have actions : recorded.correctiveActions = state.correctiveActions := by rw [logged.store_only]
  have freezes : recorded.incidentFreezes = state.incidentFreezes := by rw [logged.store_only]
  rw [← actions, ← freezes] at write
  exact write

theorem write_of_captured_move {next : Incident} {artifactId : ℕ}
    (found : state.findIncident call.incidentId = some incident)
    (moves : Moves deployment readings state incident call next eventType artifactIds
      state.correctiveActions state.incidentFreezes)
    (ok : moveIncident state actor incident next eventType call.operationKey policyVersion artifactIds =
      .ok moved) :
    IncidentWrite deployment state ⟨readings, actor, .reliability call⟩
      (captureEvidence moved incidentId artifactId) := by
  obtain ⟨_, same⟩ := captureEvidence_eq moved incidentId artifactId
  rw [same]
  exact write_of_move found moves ok

theorem declareIncident_ok
    (ok : declareIncident deployment readings state actor incident operationKey policyVersion
      ownerRecipient = .ok (answered, after)) :
    ∃ between, Aside state between ∧ IncidentWrite deployment between
      ⟨readings, actor, .reliability (.declareIncident incident operationKey policyVersion
        ownerRecipient)⟩ after := by
  simp only [declareIncident, insertIncident, insertEvidence, Identity.requires, bind_ok, guard_ok,
    Prod.exists, pure_ok, Prod.mk.injEq] at ok
  obtain ⟨-, opened, _, -, _, notified, sent, _, recorded, moved,
    written, ⟨absent, rfl⟩, captured, ⟨-, rfl⟩, frozen, freezes, -, rfl⟩ := ok
  obtain ⟨logged, -⟩ := transition_ok moved
  have aside : Aside state notified := by
    unfold notifyOwner at sent
    split at sent
    · simp only [bind_ok, Prod.exists, pure_ok, Prod.mk.injEq] at sent
      obtain ⟨_, -, _, _, sent, -, rfl⟩ := sent
      exact notify_aside sent
    · cases sent
      exact .refl state
  refine ⟨notified, aside, ?_⟩
  have started : incident.status = .opened := by
    by_contra other
    exact opened (.inr other)
  have fresh : notified.findIncident incident.incidentId = none := by
    rw [findIncident_logged logged] at absent
    simpa using absent
  have rows : recorded.incidents = notified.incidents := by rw [logged.store_only]
  have kept : recorded.incidentFreezes = notified.incidentFreezes := by rw [logged.store_only]
  have write : ∀ snapshots, IncidentWrite deployment notified
      ⟨readings, actor, .reliability (.declareIncident incident operationKey policyVersion
        ownerRecipient)⟩
      { recorded with
        incidents := notified.incidents ++ [incident]
        evidenceSnapshots := snapshots
        incidentFreezes := notified.incidentFreezes ++
          if incident.severity.material then [⟨incident.incidentId, none⟩] else [] } :=
    fun snapshots => .declared logged started fresh
  simp only [freezeMaterial, rows] at freezes
  by_cases material : incident.severity.material
  · simp only [freezePromotions, if_pos material, bind_ok, guard_ok, pure_ok, kept]
      at freezes write
    obtain ⟨-, rfl⟩ := freezes
    exact write _
  · simp only [material, Bool.false_eq_true, ↓reduceIte, append_nil, ← kept] at freezes write
    cases freezes
    exact write _

theorem contain_ok
    (ok : contain deployment readings state actor incidentId action evidence operationKey policyVersion =
      .ok (answered, after)) :
    IncidentWrite deployment state
      ⟨readings, actor, .reliability (.contain incidentId action evidence operationKey policyVersion)⟩
      after := by
  simp only [contain, Identity.requires, bind_ok, expect_ok, guard_ok, pair_ok] at ok
  obtain ⟨-, _, found, _, -, _, moves, _, recorded, -, rfl⟩ := ok
  exact write_of_captured_move found (.contain moves) recorded

theorem beginReconciliation_ok
    (ok : beginReconciliation readings state actor incidentId operationKey policyVersion =
      .ok (answered, after)) :
    IncidentWrite deployment state
      ⟨readings, actor, .reliability (.beginReconciliation incidentId operationKey policyVersion)⟩
      after := by
  simp only [beginReconciliation, Identity.requires, bind_ok, expect_ok, guard_ok, pair_ok] at ok
  obtain ⟨-, _, found, _, moves, _, recorded, -, rfl⟩ := ok
  exact write_of_move found (.beginReconciliation moves) recorded

theorem recordCorrectiveAction_ok
    (ok : recordCorrectiveAction deployment state actor incidentId action operationKey policyVersion =
      .ok (answered, after)) :
    IncidentWrite deployment state
      ⟨readings, actor, .reliability (.recordCorrectiveAction incidentId action operationKey
        policyVersion)⟩ after := by
  simp only [recordCorrectiveAction, governance, insertCorrectiveAction, bind_ok, expect_ok,
    guard_ok, pure_ok, Prod.mk.injEq, not_not] at ok
  obtain ⟨-, incident, found, reconciling, _, -, _, verified, _, recorded,
    written, ⟨-, rfl⟩, -, rfl⟩ := ok
  obtain ⟨stored, logged, rfl⟩ := moveIncident_ok recorded
  have actions : stored.correctiveActions = state.correctiveActions := by rw [logged.store_only]
  have freezes : stored.incidentFreezes = state.incidentFreezes := by rw [logged.store_only]
  have write : IncidentWrite deployment state
      ⟨readings, actor, .reliability (.recordCorrectiveAction incidentId action operationKey
        policyVersion)⟩
      { stored with
        incidents := exchanged state.incidents (Incident.corrected incident action.correctiveActionId)
        evidenceSnapshots := stored.evidenceSnapshots
        correctiveActions := state.correctiveActions ++ [⟨action.correctiveActionId, incidentId⟩]
        incidentFreezes := state.incidentFreezes } :=
    .moved found (.correct reconciling verified) logged
  rw [← actions, ← freezes] at write
  exact write

theorem resolve_ok
    (ok : resolve deployment readings state actor incidentId evidence rootCause impact operationKey
      policyVersion = .ok (answered, after)) :
    IncidentWrite deployment state
      ⟨readings, actor, .reliability (.resolve incidentId evidence rootCause impact operationKey
        policyVersion)⟩ after := by
  simp only [resolve, governance, bind_ok, expect_ok, guard_ok, pair_ok, not_not] at ok
  obtain ⟨-, _, found, acted, completed, _, -, _, -, _, -, _, moves, _,
    recorded, -, rfl⟩ := ok
  exact write_of_move found (.resolve acted completed moves) recorded

theorem close_ok
    (ok : close deployment readings state actor incidentId postmortem operationKey policyVersion =
      .ok (answered, after)) :
    IncidentWrite deployment state
      ⟨readings, actor, .reliability (.close incidentId postmortem operationKey policyVersion)⟩
      after := by
  simp only [close, governance, bind_ok, expect_ok, guard_ok, pair_ok] at ok
  obtain ⟨-, _, found, _, -, _, moves, _, recorded, -, rfl⟩ := ok
  exact write_of_move found (.close moves) recorded

theorem reopen_ok
    (ok : reopen deployment readings state actor incidentId evidence operationKey policyVersion =
      .ok (answered, after)) :
    IncidentWrite deployment state
      ⟨readings, actor, .reliability (.reopen incidentId evidence operationKey policyVersion)⟩
      after := by
  simp only [reopen, Identity.requires, bind_ok, expect_ok, guard_ok, pair_ok] at ok
  obtain ⟨-, _, found, -, _, -, _, moves, _, recorded, -, rfl⟩ := ok
  exact write_of_captured_move found (.reopen moves) recorded

theorem linkRecurrence_ok
    (ok : linkRecurrence deployment state actor incidentId related relationship operationKey
      policyVersion = .ok (answered, after)) :
    IncidentWrite deployment state
      ⟨readings, actor, .reliability (.linkRecurrence incidentId related relationship operationKey
        policyVersion)⟩ after := by
  simp only [linkRecurrence, Identity.requires, bind_ok, expect_ok, guard_ok, pair_ok] at ok
  obtain ⟨-, _, found, -, -, _, -, _, recorded, -, -, rfl⟩ := ok
  exact write_of_move found .link recorded

theorem liftIncidentFreeze_ok
    (ok : liftIncidentFreeze deployment readings state actor incidentId remediation operationKey
      policyVersion = .ok (answered, after)) :
    IncidentWrite deployment state
      ⟨readings, actor, .reliability (.liftIncidentFreeze incidentId remediation operationKey
        policyVersion)⟩ after := by
  simp only [liftIncidentFreeze, governance, bind_ok, expect_ok, guard_ok, pair_ok] at ok
  obtain ⟨-, incident, found, settled, _, -, -, _, recorded, -, rfl⟩ := ok
  obtain ⟨stored, logged, rfl⟩ := moveIncident_ok recorded
  have actions : stored.correctiveActions = state.correctiveActions := by rw [logged.store_only]
  have freezes : stored.incidentFreezes = state.incidentFreezes := by rw [logged.store_only]
  have write : IncidentWrite deployment state
      ⟨readings, actor, .reliability (.liftIncidentFreeze incidentId remediation operationKey
        policyVersion)⟩
      { stored with
        incidents := exchanged state.incidents (Incident.touched incident)
        evidenceSnapshots := stored.evidenceSnapshots
        correctiveActions := state.correctiveActions
        incidentFreezes := liftedFreezes readings state.incidentFreezes incidentId } :=
    .moved found (.lift settled) logged
  rw [← actions] at write
  simp only [liftFreeze, freezes]
  exact write

theorem answer_ok (ok : answer deployment readings state actor call = .ok (answered, after)) :
    ∃ between, Aside state between ∧
      IncidentWrite deployment between ⟨readings, actor, .reliability call⟩ after := by
  cases call with
  | declareIncident => exact declareIncident_ok ok
  | contain => exact ⟨state, .refl state, contain_ok ok⟩
  | beginReconciliation => exact ⟨state, .refl state, beginReconciliation_ok ok⟩
  | recordCorrectiveAction => exact ⟨state, .refl state, recordCorrectiveAction_ok ok⟩
  | resolve => exact ⟨state, .refl state, resolve_ok ok⟩
  | close => exact ⟨state, .refl state, close_ok ok⟩
  | reopen => exact ⟨state, .refl state, reopen_ok ok⟩
  | linkRecurrence => exact ⟨state, .refl state, linkRecurrence_ok ok⟩
  | liftIncidentFreeze => exact ⟨state, .refl state, liftIncidentFreeze_ok ok⟩

end Reliability

theorem putArtifact_aside
    (ok : putArtifact deployment readings state actor fields schemaName classification policyVersion =
      .ok (answered, after)) : Aside state after := by
  simp only [putArtifact, Identity.requires, bind_ok, guard_ok] at ok
  obtain ⟨-, -, ok⟩ := ok
  split at ok
  · simp only [pair_ok] at ok
    exact ok.2 ▸ .refl state
  · simp only [pair_ok] at ok
    obtain ⟨-, rfl⟩ := ok
    exact ⟨rfl, rfl, rfl, rfl, rfl, rfl, rfl, rfl, ⟨[], by simp, by simp⟩, fun _ _ _ => rfl, ⟨_, rfl⟩⟩

theorem otherTransition_aside
    (ok : otherTransition state actor capability operationKey request topic = .ok (answered, after)) :
    Aside state after := by
  simp only [otherTransition, bind_ok, guard_ok, Prod.exists, pair_ok] at ok
  obtain ⟨other, _, _, moved, -, rfl⟩ := ok
  refine (transition_ok moved).1.aside fun ruled => other ?_
  simp only [ruledKinds, governedKinds, mem_cons, not_mem_nil, or_false] at ruled ⊢
  tauto

theorem recordChangeSet_aside
    (ok : recordChangeSet deployment state actor changeSet expectedVersion operationKey policyVersion =
      .ok (answered, after)) : Aside state after := by
  simp only [recordChangeSet, Identity.requires, bind_ok, guard_ok, Prod.exists] at ok
  obtain ⟨-, _, -, _, -, _, _, moved, ok⟩ := ok
  have aside := (transition_ok moved).1.aside (by simp [ruledKinds])
  split at ok
  · simp only [pair_ok] at ok
    exact ok.2 ▸ aside
  · simp only [pair_ok] at ok
    obtain ⟨-, rfl⟩ := ok
    exact ⟨aside.policies, aside.proposals, aside.reviews, aside.outcomes, aside.incidents,
      aside.incidentEvents, aside.correctiveActions, aside.incidentFreezes, aside.events,
      aside.aggregates, aside.artifacts⟩

variable {call : GovernanceCall}

theorem PolicyWrite.frame (write : PolicyWrite state call after) :
    after = { state with store := after.store, policies := after.policies } := by
  cases write with
  | registered logged => cases logged <;> rfl
  | reregistered logged => cases logged <;> rfl
  | activated logged => cases logged <;> rfl
  | rolledBack logged => cases logged <;> rfl

theorem ProposalWrite.frame (write : ProposalWrite deployment state call after) :
    after = { state with
      store := after.store, proposals := after.proposals
      reviews := after.reviews, outcomes := after.outcomes } := by
  cases write with
  | proposed logged => cases logged <;> rfl
  | reproposed logged => cases logged <;> rfl
  | edited _ _ logged => cases logged <;> rfl

theorem IncidentWrite.frame (write : IncidentWrite deployment state call after) :
    after = { state with
      store := after.store, incidents := after.incidents, incidentEvents := after.incidentEvents
      evidenceSnapshots := after.evidenceSnapshots, correctiveActions := after.correctiveActions
      incidentFreezes := after.incidentFreezes } := by
  cases write with
  | declaredByGovernance logged => cases logged <;> rfl
  | advanced _ _ logged => cases logged <;> rfl
  | declared logged => cases logged <;> rfl
  | moved _ _ logged => cases logged <;> rfl

theorem PolicyWrite.artifacts (write : PolicyWrite state call after) :
    after.store.artifacts = state.store.artifacts := by
  cases write with
  | registered logged => cases logged <;> rfl
  | reregistered logged => cases logged <;> rfl
  | activated logged => cases logged <;> rfl
  | rolledBack logged => cases logged <;> rfl

theorem ProposalWrite.artifacts (write : ProposalWrite deployment state call after) :
    after.store.artifacts = state.store.artifacts := by
  cases write with
  | proposed logged => cases logged <;> rfl
  | reproposed logged => cases logged <;> rfl
  | edited _ _ logged => cases logged <;> rfl

/-- Nothing is recorded about aggregates of a kind. -/
structure Quiet (kind : String) (state after : GovernanceState) : Prop where
  events : ∃ more, after.store.events = state.store.events ++ more ∧
    ∀ event ∈ more, event.request.kind ≠ kind
  aggregates : ∀ id, after.store.state kind id = state.store.state kind id

variable {kind : String}

theorem Quiet.trans (first : Quiet kind state before) (second : Quiet kind before after) :
    Quiet kind state after := by
  obtain ⟨more, grown, others⟩ := first.events
  obtain ⟨later, extended, rest⟩ := second.events
  refine ⟨⟨more ++ later, by rw [extended, grown, append_assoc], ?_⟩, fun id => ?_⟩
  · intro event member
    rcases mem_append.mp member with older | newer
    · exact others event older
    · exact rest event newer
  · rw [second.aggregates, first.aggregates]

theorem Aside.quiet (aside : Aside state after) (ruled : kind ∈ ruledKinds) :
    Quiet kind state after := by
  obtain ⟨more, grown, others⟩ := aside.events
  refine ⟨⟨more, grown, fun event member same => others event member ?_⟩, aside.aggregates kind ruled⟩
  rw [same]
  exact ruled

theorem Logged.quiet (logged : Logged state operationKey request after)
    (other : request.kind ≠ kind) : Quiet kind state after := by
  cases logged with
  | replayed => exact ⟨⟨[], by simp, by simp⟩, fun _ => rfl⟩
  | appended =>
    refine ⟨⟨[⟨operationKey, request⟩], rfl, ?_⟩, fun id => ?_⟩
    · intro event member
      rw [mem_singleton.mp member]
      exact other
    · simp [logged, Store.state_append, other]

theorem PolicyWrite.quiet (write : PolicyWrite state call after) (other : "policy_version" ≠ kind) :
    Quiet kind state after := by
  cases write with
  | registered logged =>
    have quiet := logged.quiet other
    exact ⟨quiet.events, quiet.aggregates⟩
  | reregistered logged => exact logged.quiet other
  | activated logged =>
    have quiet := logged.quiet other
    exact ⟨quiet.events, quiet.aggregates⟩
  | rolledBack logged =>
    have quiet := logged.quiet other
    exact ⟨quiet.events, quiet.aggregates⟩

theorem ProposalWrite.quiet (write : ProposalWrite deployment state call after)
    (other : "governance_proposal" ≠ kind) : Quiet kind state after := by
  cases write with
  | proposed logged =>
    have quiet := logged.quiet other
    exact ⟨quiet.events, quiet.aggregates⟩
  | reproposed logged => exact logged.quiet other
  | edited _ _ logged requested =>
    have quiet := logged.quiet (requested.kind ▸ other)
    exact ⟨quiet.events, quiet.aggregates⟩

theorem IncidentWrite.quiet (write : IncidentWrite deployment state call after)
    (other : "incident" ≠ kind) : Quiet kind state after := by
  cases write with
  | declaredByGovernance logged =>
    have quiet := logged.quiet other
    exact ⟨quiet.events, quiet.aggregates⟩
  | advanced _ _ logged =>
    have quiet := logged.quiet other
    exact ⟨quiet.events, quiet.aggregates⟩
  | declared logged =>
    have quiet := logged.quiet other
    exact ⟨quiet.events, quiet.aggregates⟩
  | moved _ _ logged =>
    have quiet := logged.quiet other
    exact ⟨quiet.events, quiet.aggregates⟩

inductive Effect (deployment : Deployment) (state : GovernanceState) (call : GovernanceCall) :
    GovernanceState → Prop where
  | aside {after : GovernanceState} (aside : Aside state after) : Effect deployment state call after
  | policies {after : GovernanceState} (write : PolicyWrite state call after) :
      Effect deployment state call after
  | proposals {between after : GovernanceState} (aside : Aside state between)
      (write : ProposalWrite deployment between call after) : Effect deployment state call after
  | incidents {between after : GovernanceState} (aside : Aside state between)
      (write : IncidentWrite deployment between call after) : Effect deployment state call after

theorem effect_of_answer (ok : answer deployment state call = .ok (answered, after)) :
    Effect deployment state call after := by
  obtain ⟨_, _, request⟩ := call
  have still := Aside.refl state
  cases request with
  | registerPolicy => exact .policies (registerPolicy_ok ok)
  | activatePolicy => exact .policies (activatePolicy_ok ok)
  | rollbackPolicy => exact .policies (rollbackPolicy_ok ok)
  | propose => exact .proposals still (propose_ok ok)
  | classify => exact .proposals still (classify_ok ok)
  | recordReview => exact .proposals still (recordReview_ok ok)
  | recordLifecycle => exact .proposals still (recordLifecycle_ok ok)
  | recordSynthesis => exact .proposals still (recordSynthesis_ok ok)
  | queueOwnerNotification =>
    obtain ⟨between, aside, write⟩ := queueOwnerNotification_ok ok
    exact .proposals aside write
  | recordOwnerDelivery => exact .proposals still (recordOwnerDelivery_ok ok)
  | decide =>
    rcases decide_ok ok with rfl | ⟨between, aside, write⟩
    · exact .aside still
    · exact .proposals aside write
  | evaluate => exact .proposals still (evaluate_ok ok)
  | recordChangeSet => exact .aside (recordChangeSet_aside ok)
  | declareIncident => exact .incidents still (declareIncident_ok ok)
  | advanceIncident => exact .incidents still (advanceIncident_ok ok)
  | reliability =>
    obtain ⟨_, aside, write⟩ := Reliability.answer_ok ok
    exact .incidents aside write
  | putArtifact => exact .aside (putArtifact_aside ok)
  | otherTransition => exact .aside (otherTransition_aside ok)
  | deliver =>
    simp only [answer, deliver, bind_ok, guard_ok, pair_ok] at ok
    obtain ⟨-, -, -, rfl⟩ := ok
    exact .aside ⟨rfl, rfl, rfl, rfl, rfl, rfl, rfl, rfl, still.events, still.aggregates,
      still.artifacts⟩
  | freezeIndicator =>
    simp only [answer, freezeIndicator] at ok
    split at ok
    · cases ok
      exact .aside still
    · cases ok
      exact .aside ⟨rfl, rfl, rfl, rfl, rfl, rfl, rfl, rfl, still.events, still.aggregates,
        still.artifacts⟩
  | liftIndicatorFreeze =>
    simp only [answer, liftIndicatorFreeze, Reliability.governance, bind_ok, guard_ok, pair_ok] at ok
    obtain ⟨-, -, -, -, -, rfl⟩ := ok
    exact .aside ⟨rfl, rfl, rfl, rfl, rfl, rfl, rfl, rfl, still.events, still.aggregates,
      still.artifacts⟩

def Continues (state after : GovernanceState) : Prop :=
  ∃ more, after.store.events = state.store.events ++ more

theorem Continues.refl (state : GovernanceState) : Continues state state := ⟨[], by simp⟩

theorem Continues.trans (first : Continues state before) (second : Continues before after) :
    Continues state after := by
  obtain ⟨more, grown⟩ := first
  obtain ⟨later, extended⟩ := second
  exact ⟨more ++ later, by rw [extended, grown, append_assoc]⟩

theorem Aside.continues (aside : Aside state after) : Continues state after :=
  aside.events.imp fun _ => And.left

theorem Quiet.continues (quiet : Quiet kind state after) : Continues state after :=
  quiet.events.imp fun _ => And.left

theorem Effect.continues (effect : Effect deployment state call after) : Continues state after := by
  cases effect with
  | aside aside => exact aside.continues
  | policies write =>
    have quiet : Quiet "incident" state after := write.quiet (by decide)
    exact quiet.continues
  | @proposals between _ aside write =>
    have quiet : Quiet "incident" between after := write.quiet (by decide)
    exact aside.continues.trans quiet.continues
  | @incidents between _ aside write =>
    have quiet : Quiet "policy_version" between after := write.quiet (by decide)
    exact aside.continues.trans quiet.continues

theorem history_continues (deployment : Deployment) (calls later : List GovernanceCall) :
    Continues (history deployment calls) (history deployment (calls ++ later)) := by
  rw [history, history, run_append]
  exact run_related Continues.refl Continues.trans (fun state call => next_of_answered
    (Continues state) (.refl state) fun _ _ ok => (effect_of_answer ok).continues) _ later

theorem Aside.findProposal (aside : Aside state after) (proposalId : String) :
    after.findProposal proposalId = state.findProposal proposalId := by
  unfold GovernanceState.findProposal
  rw [aside.proposals]

theorem Logged.mem (logged : Logged state operationKey request after) :
    ⟨operationKey, request⟩ ∈ after.store.events := by
  cases logged with
  | replayed recorded =>
    obtain ⟨_, found, rfl⟩ := recorded
    obtain rfl := find_key found
    exact find_mem found
  | appended => exact mem_append_right _ mem_cons_self

variable {proposalId : String}

theorem ProposalWrite.row {row : ProposalRow} (write : ProposalWrite deployment state call after)
    (found : after.findProposal proposalId = some row) :
    state.findProposal proposalId = some row ∨
      (state.findProposal proposalId = none ∧
        ∃ proposal : GovernanceProposal, row = ⟨proposal, none, .empty, none, none, none, proposal.status⟩) ∨
      ∃ old edit request, Edits deployment state old call edit ∧
        state.findProposal proposalId = some old ∧ row = edit.apply old ∧ EditRequest edit old request ∧
          ⟨call.operationKey, request⟩ ∈ after.store.events := by
  cases write with
  | proposed logged authored absent unfrozen =>
    rw [GovernanceState.findProposal, findProposal_inserted absent] at found
    split at found
    · rename_i named
      cases found
      exact .inr (.inl ⟨named ▸ absent, _, rfl⟩)
    · exact .inl found
  | reproposed logged =>
    rw [findProposal_logged logged] at found
    exact .inl found
  | edited edits held logged requested unfrozen distinct =>
    simp only [GovernanceState.findProposal, findProposal_edited] at found ⊢
    split at found
    · rename_i named
      subst named
      obtain ⟨_, present, rfl⟩ := Option.map_eq_some_iff.mp found
      rw [GovernanceState.findProposal, present] at held
      cases held
      exact .inr (.inr ⟨_, _, _, edits, present, rfl, requested, logged.mem⟩)
    · exact .inl found

theorem ProposalWrite.kept {row : ProposalRow} (write : ProposalWrite deployment state call after)
    (found : state.findProposal proposalId = some row) :
    after.findProposal proposalId = some row ∨
      ∃ edit, Edits deployment state row call edit ∧
        after.findProposal proposalId = some (edit.apply row) := by
  cases write with
  | proposed =>
    simp only [GovernanceState.findProposal, find_insert] at found ⊢
    rw [found]
    exact .inl rfl
  | reproposed logged => exact .inl ((findProposal_logged logged proposalId).trans found)
  | edited edits held logged requested unfrozen distinct =>
    simp only [GovernanceState.findProposal, findProposal_edited] at found held ⊢
    split
    · rename_i named
      subst named
      rw [found] at held
      cases held
      exact .inr ⟨_, edits, by rw [found]; rfl⟩
    · exact .inl found

theorem Effect.keeps {row : ProposalRow} (effect : Effect deployment state call after)
    (found : state.findProposal proposalId = some row) :
    ∃ now, after.findProposal proposalId = some now := by
  cases effect with
  | aside aside => exact ⟨row, (aside.findProposal proposalId).trans found⟩
  | policies write => exact ⟨row, by rw [write.frame]; exact found⟩
  | incidents aside write =>
    refine ⟨row, ?_⟩
    rw [write.frame]
    exact (aside.findProposal proposalId).trans found
  | proposals aside write =>
    rcases write.kept ((aside.findProposal proposalId).trans found) with same | ⟨_, -, edited⟩
    · exact ⟨row, same⟩
    · exact ⟨_, edited⟩

theorem Logged.events (logged : Logged state operationKey request after) :
    after.store.events = state.store.events ∨
      (operationKey ∉ state.store.keys ∧
        after.store.events = state.store.events ++ [⟨operationKey, request⟩]) := by
  cases logged with
  | replayed => exact .inl rfl
  | appended _ fresh => exact .inr ⟨fresh, rfl⟩

/-- What a write to the proposals adds to the log: a proposal that is new, or the edit of
the row that it stands for. -/
inductive ProposalEvent (deployment : Deployment) (state : GovernanceState) (call : GovernanceCall)
    (after : GovernanceState) (request : GovernanceTransition) : Prop where
  | proposed {row : ProposalRow} (kind : request.kind = "governance_proposal")
      (named : request.aggregateId = row.proposalId) (eventType : request.eventType = "GOVERNANCE_PROPOSED")
      (found : after.findProposal row.proposalId = some row) :
      ProposalEvent deployment state call after request
  | edited {row : ProposalRow} {edit : ProposalEdit} (edits : Edits deployment state row call edit)
      (found : state.findProposal row.proposalId = some row) (requested : EditRequest edit row request)
      (written : after.findProposal row.proposalId = some (edit.apply row)) :
      ProposalEvent deployment state call after request

theorem ProposalWrite.events (write : ProposalWrite deployment state call after) :
    after.store.events = state.store.events ∨
      ∃ request, call.operationKey ∉ state.store.keys ∧
        after.store.events = state.store.events ++ [⟨call.operationKey, request⟩] ∧
        ProposalEvent deployment state call after request := by
  cases write with
  | @proposed _ _ proposal _ _ _ _ logged _ absent =>
    refine logged.events.imp id fun ⟨fresh, appended⟩ => ⟨_, fresh, appended, ?_⟩
    let row : ProposalRow := ⟨proposal, none, .empty, none, none, none, proposal.status⟩
    have written : find ProposalRow.proposalId row.proposalId (state.proposals ++ [row]) =
        some row := find_insert_new absent rfl
    exact .proposed rfl rfl rfl written
  | reproposed logged present =>
    refine logged.events.imp id fun ⟨fresh, appended⟩ => ⟨_, fresh, appended, ?_⟩
    have named := find_key present
    exact .proposed rfl named.symm rfl (named ▸ (findProposal_logged logged _).trans present)
  | edited edits found logged requested =>
    refine logged.events.imp id fun ⟨fresh, appended⟩ => ⟨_, fresh, appended, ?_⟩
    refine .edited edits found requested ?_
    simp only [GovernanceState.findProposal, findProposal_edited] at found ⊢
    rw [if_pos trivial, found]
    rfl

theorem rows_preserved (holds : ProposalRow → Prop)
    (proposed : ∀ proposal : GovernanceProposal,
      holds ⟨proposal, none, .empty, none, none, none, proposal.status⟩)
    (edited : ∀ state row call edit, Edits deployment state row call edit → holds row →
      holds (edit.apply row)) (calls : List GovernanceCall) :
    ∀ proposalId row, (history deployment calls).findProposal proposalId = some row → holds row := by
  refine run_preserves (fun state : GovernanceState => ∀ proposalId row,
    state.findProposal proposalId = some row → holds row)
    (fun _ _ found => by cases found) ?_ calls
  intro state call kept
  refine next_of_answered (fun after : GovernanceState => ∀ proposalId row,
    after.findProposal proposalId = some row → holds row) kept fun _ after ok proposalId row found => ?_
  cases effect_of_answer ok with
  | aside aside => exact kept proposalId row (aside.findProposal proposalId ▸ found)
  | policies write =>
    rw [write.frame] at found
    exact kept proposalId row found
  | incidents aside write =>
    rw [write.frame] at found
    exact kept proposalId row (aside.findProposal proposalId ▸ found)
  | proposals aside write =>
    rcases write.row found with same | ⟨-, proposal, rfl⟩ | ⟨old, edit, -, edits, before, rfl, -⟩
    · exact kept proposalId row (aside.findProposal proposalId ▸ same)
    · exact proposed proposal
    · exact edited _ old call edit edits (kept proposalId old (aside.findProposal proposalId ▸ before))

end Liki.Governance
