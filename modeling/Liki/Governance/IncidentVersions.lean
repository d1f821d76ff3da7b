import Liki.Governance.CorrectiveActions

/-! The version in the row of an incident and the version of its aggregate. Every operation
of either service adds one to both, so they stay as far apart as the declaration put them:
the aggregate starts at one, the row at the number that the declared record carries. The
reliability service takes the version it expects from the row, and is refused from the first
operation on when the two differ. -/
namespace Liki.Governance
open Checks GovernanceState CallSystem Reliability

variable {deployment : Deployment} {readings : Readings} {state between after : GovernanceState}
  {call : GovernanceCall} {actor : Identity} {operationKey incidentId policyVersion : String}
  {request : GovernanceTransition} {incident next : Incident} {answered : GovernanceAnswer}

def incidentVersion (state : GovernanceState) (incidentId : String) : ℕ :=
  state.store.version "incident" incidentId

def RowsAgree (state : GovernanceState) : Prop :=
  ∀ incidentId incident, state.findIncident incidentId = some incident →
    incident.stateVersion = incidentVersion state incidentId

/-- The record that a declaration hands in. -/
def GovernanceCall.declared? (call : GovernanceCall) : Option Incident :=
  match call.request with
  | .declareIncident incident _ _ | .reliability (.declareIncident incident _ _ _) => some incident
  | _ => none

def StartsAtOne (_ : GovernanceState) (call : GovernanceCall) : Prop :=
  ∀ incident ∈ call.declared?, incident.stateVersion = 1

structure VersionsAgree (deployment : Deployment) (state : GovernanceState) : Prop where
  rows : RowsAgree state
  accepted : ∀ readings actor request incident, state.findIncident request.incidentId = some incident →
    (⟨readings, actor, .reliability request⟩ : GovernanceCall).declared? = none →
    reply (answer deployment) state ⟨readings, actor, .reliability request⟩ ≠
      .error (.domain "CONCURRENT_MODIFICATION")

/-- A call leaves the incidents alone, declares one at the first version of its aggregate,
or counts one up together with its aggregate. -/
inductive IncidentCount (state : GovernanceState) (call : GovernanceCall) (after : GovernanceState) :
    Prop where
  | still (rows : ∀ incidentId, after.findIncident incidentId = state.findIncident incidentId)
      (versions : ∀ incidentId, incidentVersion after incidentId = incidentVersion state incidentId) :
      IncidentCount state call after
  | declared {incident : Incident} (record : call.declared? = some incident)
      (absent : state.findIncident incident.incidentId = none)
      (rows : ∀ incidentId, after.findIncident incidentId =
        if incidentId = incident.incidentId then some incident else state.findIncident incidentId)
      (versions : ∀ incidentId, incidentVersion after incidentId =
        if incidentId = incident.incidentId then 1 else incidentVersion state incidentId) :
      IncidentCount state call after
  | moved {incident next : Incident} (found : state.findIncident next.incidentId = some incident)
      (counted : next.stateVersion = incident.stateVersion + 1)
      (rows : ∀ incidentId, after.findIncident incidentId =
        if incidentId = next.incidentId then some next else state.findIncident incidentId)
      (versions : ∀ incidentId, incidentVersion after incidentId =
        if incidentId = next.incidentId then incidentVersion state incidentId + 1
        else incidentVersion state incidentId) :
      IncidentCount state call after

theorem IncidentCount.of_quiet (quiet : Quiet "incident" state after)
    (incidents : after.incidents = state.incidents) : IncidentCount state call after := by
  refine .still (fun incidentId => ?_) fun incidentId => ?_
  · rw [findIncident_eq, incidents]
    rfl
  · unfold incidentVersion Store.version
    rw [quiet.aggregates]

variable {topic schemaName : Option String} {value : ArtifactProvenance} {details : IncidentDetails}
  {now : Time} {toStatus : IncidentStatus} {capability : Capability} {artifactIds : List ℕ}

theorem incidentVersion_logged (kind : request.kind = "incident")
    (current : request.expectedVersion = state.store.version request.kind request.aggregateId)
    (stored : after.store = (state.logged operationKey request topic).store) (other : String) :
    incidentVersion after other =
      if other = request.aggregateId then incidentVersion state other + 1
      else incidentVersion state other := by
  unfold incidentVersion
  rw [stored, logged, Store.version_append, kind, current]
  by_cases same : request.aggregateId = other
  · rw [if_pos ⟨rfl, same⟩, if_pos same.symm, kind, same]
  · rw [if_neg fun both => same both.2, if_neg (Ne.symm same)]

theorem Logged.current_of_fresh (logged : Logged state operationKey request after)
    (fresh : operationKey ∉ state.store.keys) :
    request.expectedVersion = state.store.version request.kind request.aggregateId := by
  cases logged with
  | replayed replayed => exact absurd (findEvent_isSome.mpr ⟨_, replayed.choose_spec.1⟩) fresh
  | appended _ _ current => exact current

theorem versions_declared (logged : Logged state operationKey request between)
    (fresh : operationKey ∉ state.store.keys) (kind : request.kind = "incident")
    (named : request.aggregateId = incidentId) (first : request.expectedVersion = 0)
    (store : after.store = between.store) (other : String) :
    incidentVersion after other = if other = incidentId then 1 else incidentVersion state other := by
  have current := logged.current_of_fresh fresh
  obtain ⟨topic, rfl⟩ := logged.appended_of_fresh fresh
  rw [incidentVersion_logged kind current store, named]
  split
  · rename_i same
    unfold incidentVersion
    rw [same, ← named, ← kind, ← current, first]
  · rfl

theorem IncidentCount.of_moved (found : state.findIncident next.incidentId = some incident)
    (counted : next.stateVersion = incident.stateVersion + 1)
    (incidents : after.incidents = exchanged state.incidents next)
    (logged : Logged state operationKey request between) (fresh : operationKey ∉ state.store.keys)
    (kind : request.kind = "incident") (named : request.aggregateId = next.incidentId)
    (store : after.store = between.store) : IncidentCount state call after := by
  have current := logged.current_of_fresh fresh
  obtain ⟨_, rfl⟩ := logged.appended_of_fresh fresh
  refine .moved found counted (fun other => ?_) fun other => ?_
  · rw [findIncident_eq, incidents]
    exact findIncident_exchanged found other
  · rw [incidentVersion_logged kind current store, named]

theorem IncidentWrite.count (kept : IncidentsLogged state)
    (write : IncidentWrite deployment state call after) : IncidentCount state call after := by
  have fresh := write.fresh kept
  cases write with
  | declaredByGovernance logged absent =>
    exact .declared rfl absent (findIncident_inserted absent rfl)
      (versions_declared logged fresh rfl rfl rfl rfl)
  | @advanced _ _ _ _ _ _ _ _ _ _ _ _ found moved logged =>
    obtain ⟨-, -, renamed, counted⟩ := transitionIncident_keeps moved
    obtain ⟨named, self⟩ := findIncident_named found
    exact .of_moved (renamed ▸ self) counted rfl logged fresh rfl (named.symm.trans renamed.symm) rfl
  | declared logged _ absent =>
    exact .declared rfl absent (findIncident_inserted absent rfl)
      (versions_declared logged fresh rfl rfl rfl rfl)
  | @moved _ _ _ _ _ _ _ _ _ _ _ _ found moves logged =>
    obtain ⟨-, renamed, counted⟩ := moves.keeps
    obtain ⟨_, self⟩ := findIncident_named found
    exact .of_moved (renamed ▸ self) counted rfl logged fresh rfl rfl rfl

theorem IncidentCount.aside (aside : Aside state between) (count : IncidentCount between call after) :
    IncidentCount state call after := by
  have rows : ∀ incidentId, between.findIncident incidentId = state.findIncident incidentId := by
    intro incidentId
    rw [findIncident_eq, aside.incidents]
    rfl
  have versions : ∀ incidentId, incidentVersion between incidentId = incidentVersion state incidentId := by
    intro incidentId
    unfold incidentVersion Store.version
    rw [aside.aggregates _ (by decide)]
  cases count with
  | still kept same =>
    exact .still (fun _ => (kept _).trans (rows _)) fun _ => (same _).trans (versions _)
  | declared record absent found counted =>
    simp only [rows, versions] at absent found counted
    exact .declared record absent found counted
  | moved present counts found counted =>
    simp only [rows, versions] at present found counted
    exact .moved present counts found counted

theorem Effect.count (kept : IncidentsLogged state) (effect : Effect deployment state call after) :
    IncidentCount state call after := by
  have ruled : "incident" ∈ ruledKinds := by decide
  cases effect with
  | aside aside => exact .of_quiet (aside.quiet ruled) aside.incidents
  | policies write => exact .of_quiet (write.quiet (by decide)) (by rw [write.frame])
  | proposals aside write =>
    exact (IncidentCount.of_quiet (write.quiet (by decide)) (by rw [write.frame])).aside aside
  | incidents aside write =>
    have logged := kept.quiet (aside.quiet ruled) aside.incidents aside.incidentEvents
    exact (write.count logged).aside aside

theorem IncidentCount.agree (count : IncidentCount state call after) (agree : RowsAgree state)
    (starts : StartsAtOne state call) : RowsAgree after := by
  intro incidentId incident found
  cases count with
  | still rows versions =>
    rw [rows] at found
    rw [versions]
    exact agree incidentId incident found
  | @declared declared record absent rows versions =>
    rw [rows] at found
    rw [versions]
    split at found
    · rename_i same
      cases found
      rw [if_pos same]
      exact starts _ record
    · rename_i differ
      rw [if_neg differ]
      exact agree incidentId incident found
  | @moved old next present counted rows versions =>
    rw [rows] at found
    rw [versions]
    split at found
    · rename_i same
      cases found
      rw [if_pos same, counted, agree _ old present, same]
    · rename_i differ
      rw [if_neg differ]
      exact agree incidentId incident found

theorem IncidentCount.agreed (count : IncidentCount state call after) (agree : RowsAgree after) :
    RowsAgree state := by
  intro incidentId incident found
  cases count with
  | still rows versions =>
    rw [← versions]
    exact agree incidentId incident ((rows incidentId).trans found)
  | @declared declared _ absent rows versions =>
    have differ : incidentId ≠ declared.incidentId := by
      rintro rfl
      rw [absent] at found
      cases found
    have same := agree incidentId incident (by rw [rows, if_neg differ, found])
    rwa [versions, if_neg differ] at same
  | @moved _ next present _ rows versions =>
    by_cases same : incidentId = next.incidentId
    · subst same
      rw [present] at found
      cases found
      have later := agree _ next (by rw [rows, if_pos rfl])
      rw [versions, if_pos rfl] at later
      omega
    · have kept := agree incidentId incident (by rw [rows, if_neg same, found])
      rwa [versions, if_neg same] at kept

theorem IncidentWrite.declared_row (kept : IncidentsLogged state)
    (write : IncidentWrite deployment state call after) (record : call.declared? = some incident) :
    after.findIncident incident.incidentId = some incident ∧
      incidentVersion after incident.incidentId = 1 := by
  have fresh := write.fresh kept
  cases write with
  | declaredByGovernance logged absent =>
    cases record
    exact ⟨(findIncident_inserted absent rfl _).trans (if_pos rfl),
      (versions_declared logged fresh rfl rfl rfl rfl _).trans (if_pos rfl)⟩
  | advanced => cases record
  | declared logged _ absent =>
    cases record
    exact ⟨(findIncident_inserted absent rfl _).trans (if_pos rfl),
      (versions_declared logged fresh rfl rfl rfl rfl _).trans (if_pos rfl)⟩
  | moved _ moves => cases moves <;> cases record

theorem declared_row (kept : IncidentsLogged state)
    (ok : answer deployment state call = .ok (answered, after)) (record : call.declared? = some incident) :
    after.findIncident incident.incidentId = some incident ∧
      incidentVersion after incident.incidentId = 1 := by
  obtain ⟨readings, actor, asked⟩ := call
  have written : ∃ between, Aside state between ∧
      IncidentWrite deployment between ⟨readings, actor, asked⟩ after := by
    cases asked with
    | declareIncident => exact ⟨state, .refl state, declareIncident_ok ok⟩
    | reliability => exact answer_ok ok
    | _ => cases record
  obtain ⟨_, aside, write⟩ := written
  exact write.declared_row
    (kept.quiet (aside.quiet (by decide)) aside.incidents aside.incidentEvents) record

def conflict : ServiceError := .domain "CONCURRENT_MODIFICATION"

theorem domain_ne_conflict (other : code ≠ "CONCURRENT_MODIFICATION") :
    ServiceError.domain code ≠ conflict := by
  intro same
  cases same
  exact other rfl

theorem value_ne_conflict : ServiceError.value message ≠ conflict := nofun

theorem constraint_ne_conflict : ServiceError.constraint column ≠ conflict := nofun

theorem artifact_unconflicted :
    Never conflict (state.artifact deployment value schemaName roles content) := by
  unfold artifact
  refine (never_expect (domain_ne_conflict (by simp))).bind fun _ _ => ?_
  refine (never_guard (domain_ne_conflict (by simp))).bind fun _ _ => ?_
  refine (never_guard (domain_ne_conflict (by simp))).bind fun _ _ => ?_
  refine (never_guard (domain_ne_conflict (by simp))).bind fun _ _ => ?_
  refine (never_guard (domain_ne_conflict (by simp))).bind fun _ _ => ?_
  exact (never_guard (domain_ne_conflict (by simp))).bind fun _ _ => never_pure

theorem artifactId_unconflicted :
    Never conflict (artifactId deployment state value schemaName) :=
  artifact_unconflicted.bind fun _ _ => never_pure

theorem artifacts_unconflicted : Never conflict (state.artifacts deployment values) :=
  never_mapM fun _ _ => artifact_unconflicted.bind fun _ _ => never_pure

theorem regressionCheck_unconflicted {check : AutomatedCheck} :
    Never conflict (state.regressionCheck deployment check) := by
  unfold regressionCheck
  refine artifact_unconflicted.bind fun row _ => ?_
  refine (never_guard (domain_ne_conflict (by simp))).bind fun _ _ => ?_
  refine (never_guard (domain_ne_conflict (by simp))).bind fun _ _ => ?_
  refine Never.bind ?_ fun recorded _ => ?_
  · unfold recordedInstant
    split
    · exact nofun
    · exact nofun
    · exact fun refused => domain_ne_conflict (by simp) (Except.error.inj refused)
  · cases recorded with
    | invalid => exact fun refused => domain_ne_conflict (by simp) (Except.error.inj refused)
    | elsewhere => exact fun refused => domain_ne_conflict (by simp) (Except.error.inj refused)
    | utc => exact (never_guard (domain_ne_conflict (by simp))).bind fun _ _ => never_pure

theorem transitionIncident_unconflicted :
    Never conflict (transitionIncident incident toStatus now details) := by
  unfold transitionIncident
  refine (never_guard value_ne_conflict).bind fun _ _ => ?_
  unfold IncidentData.validate
  split_ifs <;> simp [Never, value_ne_conflict]

theorem requires_unconflicted : Never conflict (actor.requires capability) :=
  never_guard (domain_ne_conflict (by simp))

theorem transition_unconflicted
    (current : request.expectedVersion = state.store.version request.kind request.aggregateId) :
    Never conflict (state.transition actor capability operationKey request topic) := by
  unfold GovernanceState.transition Store.transition
  refine requires_unconflicted.bind fun _ _ => ?_
  refine (never_guard (domain_ne_conflict (by simp))).bind fun _ _ => ?_
  refine Never.bind ?_ fun _ _ => never_pure
  refine requires_unconflicted.bind fun _ _ => ?_
  refine (never_guard (domain_ne_conflict (by simp))).bind fun _ _ => ?_
  split
  · exact (never_guard (domain_ne_conflict (by simp))).bind fun _ _ => never_pure
  · rw [refuseIf_bind_of_not (not_not.mpr current)]
    refine (never_guard (domain_ne_conflict (by simp))).bind fun _ _ => ?_
    exact (never_guard (domain_ne_conflict (by simp))).bind fun _ _ => never_pure

theorem moveIncident_unconflicted
    (agree : incident.stateVersion = incidentVersion state next.incidentId) :
    Never conflict (moveIncident state actor incident next eventType operationKey policyVersion
      artifactIds) :=
  (transition_unconflicted agree).bind fun _ _ => never_pure

theorem transitioned_unconflicted
    (agree : incident.stateVersion = incidentVersion state incident.incidentId)
    (moved : transitionIncident incident toStatus now details = .ok next) :
    Never conflict (moveIncident state actor incident next eventType operationKey policyVersion
      artifactIds) := by
  refine moveIncident_unconflicted ?_
  rw [(transitionIncident_keeps moved).2.2.1]
  exact agree

/-- An operation on an incident whose row agrees with its aggregate is not refused for its
version. -/
theorem Reliability.answer_unconflicted (agree : RowsAgree state) {asked : ReliabilityRequest}
    (other : (⟨readings, actor, .reliability asked⟩ : GovernanceCall).declared? = none) :
    Never conflict (answer deployment readings state actor asked) := by
  have here : ∀ {incidentId incident}, expect (state.findIncident incidentId)
      (ServiceError.domain "UNKNOWN_INCIDENT") = .ok incident →
        incident.stateVersion = incidentVersion state incident.incidentId := by
    intro incidentId incident found
    exact agree _ _ (findIncident_named (expect_ok.mp found)).2
  have known : ∀ {incidentId}, Never conflict (expect (state.findIncident incidentId)
      (ServiceError.domain "UNKNOWN_INCIDENT")) := never_expect (domain_ne_conflict (by simp))
  have governs : Never conflict (governance actor) :=
    never_guard (domain_ne_conflict (by simp))
  cases asked with
  | declareIncident => cases other
  | contain =>
    refine requires_unconflicted.bind fun _ _ => known.bind fun incident found => ?_
    refine artifactId_unconflicted.bind fun _ _ => ?_
    refine transitionIncident_unconflicted.bind fun next moved => ?_
    exact (transitioned_unconflicted (here found) moved).bind fun _ _ => never_pure
  | beginReconciliation =>
    refine requires_unconflicted.bind fun _ _ => known.bind fun incident found => ?_
    refine transitionIncident_unconflicted.bind fun next moved => ?_
    exact (transitioned_unconflicted (here found) moved).bind fun _ _ => never_pure
  | recordCorrectiveAction _ action =>
    refine governs.bind fun _ _ => known.bind fun incident found => ?_
    refine (never_guard (domain_ne_conflict (by simp))).bind fun _ _ => ?_
    refine artifactId_unconflicted.bind fun _ _ => ?_
    refine (never_mapM fun _ _ => regressionCheck_unconflicted).bind fun _ _ => ?_
    have agreed : incident.stateVersion = incidentVersion state
        (Reliability.Incident.corrected incident action.correctiveActionId).incidentId := here found
    refine (moveIncident_unconflicted agreed).bind fun _ _ => ?_
    exact Never.bind ((never_guard constraint_ne_conflict).bind fun _ _ => never_pure) fun _ _ => never_pure
  | resolve =>
    refine governs.bind fun _ _ => known.bind fun incident found => ?_
    refine (never_guard (domain_ne_conflict (by simp))).bind fun _ _ => ?_
    refine (never_guard (domain_ne_conflict (by simp))).bind fun _ _ => ?_
    refine artifacts_unconflicted.bind fun _ _ => artifactId_unconflicted.bind fun _ _ => ?_
    refine artifactId_unconflicted.bind fun _ _ => ?_
    refine transitionIncident_unconflicted.bind fun next moved => ?_
    exact (transitioned_unconflicted (here found) moved).bind fun _ _ => never_pure
  | close =>
    refine governs.bind fun _ _ => known.bind fun incident found => ?_
    refine (never_mapM fun _ _ => artifactId_unconflicted).bind fun _ _ => ?_
    refine transitionIncident_unconflicted.bind fun next moved => ?_
    exact (transitioned_unconflicted (here found) moved).bind fun _ _ => never_pure
  | reopen =>
    refine requires_unconflicted.bind fun _ _ => known.bind fun incident found => ?_
    refine (never_guard (domain_ne_conflict (by simp))).bind fun _ _ => ?_
    refine artifactId_unconflicted.bind fun _ _ => ?_
    refine transitionIncident_unconflicted.bind fun next moved => ?_
    exact (transitioned_unconflicted (here found) moved).bind fun _ _ => never_pure
  | linkRecurrence =>
    refine requires_unconflicted.bind fun _ _ => known.bind fun incident found => ?_
    refine known.bind fun _ _ => artifactId_unconflicted.bind fun _ _ => ?_
    have agreed : incident.stateVersion = incidentVersion state
        (Reliability.Incident.touched incident).incidentId := here found
    refine (moveIncident_unconflicted agreed).bind fun _ _ => ?_
    exact (never_guard constraint_ne_conflict).bind fun _ _ => never_pure
  | liftIncidentFreeze =>
    refine governs.bind fun _ _ => known.bind fun incident found => ?_
    refine (never_guard (domain_ne_conflict (by simp))).bind fun _ _ => ?_
    refine artifactId_unconflicted.bind fun _ _ => ?_
    refine (never_guard (domain_ne_conflict (by simp))).bind fun _ _ => ?_
    have agreed : incident.stateVersion = incidentVersion state
        (Reliability.Incident.touched incident).incidentId := here found
    exact (moveIncident_unconflicted agreed).bind fun _ _ => never_pure

theorem VersionsAgree.of_rows (agree : RowsAgree state) : VersionsAgree deployment state := by
  refine ⟨agree, fun readings actor asked incident found other refused => ?_⟩
  cases result : answer deployment state ⟨readings, actor, .reliability asked⟩ with
  | ok =>
    rw [reply_of_ok result] at refused
    cases refused
  | error =>
    rw [reply_of_error result] at refused
    cases refused
    exact answer_unconflicted agree other result

/-- In every run the rows of incidents carry the versions of their aggregates, and no
operation of the reliability service on an incident is refused for its version, exactly when
every declaration that was answered handed in a record at its first version. -/
theorem incident_versions_agree (calls : List GovernanceCall) :
    VersionsAgree deployment (history deployment calls) ↔
      Along (answer deployment) (WhenAnswered (answer deployment) StartsAtOne) .empty calls := by
  have step : ∀ calls, RowsAgree (history deployment calls) ↔
      Along (answer deployment) (WhenAnswered (answer deployment) StartsAtOne) .empty calls := by
    intro calls
    induction calls using List.reverseRecOn with
    | nil => exact ⟨fun _ => trivial, fun _ _ _ found => by cases found⟩
    | append_singleton calls call ih =>
      have kept := (accounted_history deployment calls).logged
      rw [along_append, ← ih, history_append]
      cases result : answer deployment (history deployment calls) call with
      | error =>
        rw [next_of_error result]
        refine ⟨fun agree => ⟨agree, fun _ _ ok => ?_, trivial⟩, And.left⟩
        exact absurd (result.symm.trans ok) nofun
      | ok pair =>
        obtain ⟨answered, after⟩ := pair
        rw [next_of_ok result]
        have count := (effect_of_answer result).count kept
        constructor
        · intro agree
          refine ⟨count.agreed agree, fun _ _ _ incident record => ?_, trivial⟩
          obtain ⟨row, version⟩ := declared_row kept result record
          exact (agree _ incident row).trans version
        · rintro ⟨agree, starts, -⟩
          exact count.agree agree (starts answered after result)
  rw [← step calls]
  exact ⟨VersionsAgree.rows, VersionsAgree.of_rows⟩

namespace Small

def counted : Incident := { outage with
  stateVersion := 3
  numbered := by decide }

def declaredLate : List GovernanceCall :=
  filed ++ [made 10 governance (.reliability (.declareIncident counted "declare" "v1" (some "telegram")))]

def containedLate : GovernanceCall :=
  made 11 governance (.reliability (.contain "INC-1" "halted" (provenance 0 governance evidence)
    "contain" "v1"))

end Small

open Governance.Small

/-- An incident that is declared at version three cannot be contained. -/
theorem incident_versions_diverge :
    (∃ incident ∈ (history Small.deployment declaredLate).findIncident "INC-1",
      incident.stateVersion = 3 ∧ incident.status = .opened) ∧
      incidentVersion (history Small.deployment declaredLate) "INC-1" = 1 ∧
      reply (answer Small.deployment) (history Small.deployment declaredLate) containedLate =
        .error (.domain "CONCURRENT_MODIFICATION") := by
  decide +kernel

end Liki.Governance
