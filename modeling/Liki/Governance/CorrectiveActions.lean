import Liki.Governance.IncidentFreezes
import Liki.Library.EventLog

/-! Corrective actions and the resolutions that rest on them. A resolution through the
reliability service asks for corrective actions, but counts those of an earlier life of
the incident; a resolution through the governance service asks for none. -/
namespace Liki.Governance
open Checks GovernanceState CallSystem EventLog List KeyedRows

variable {deployment : Deployment} {state between after : GovernanceState} {call : GovernanceCall}
  {operationKey incidentId : String} {request : GovernanceTransition} {incident next : Incident}

def Concerns (incidentId : String) (event : GovernanceEvent) : Prop :=
  event.request.kind = "incident" ∧ event.request.aggregateId = incidentId

def Corrects (incidentId : String) (event : GovernanceEvent) : Prop :=
  Concerns incidentId event ∧ event.request.eventType = "INCIDENT_CORRECTIVE_ACTION_VERIFIED"

def GovernanceAggregate.opened : GovernanceAggregate → Prop
  | .incident .opened _ => True
  | _ => False

instance : (after : GovernanceAggregate) → Decidable after.opened
  | .incident .opened _ => .isTrue trivial
  | .incident .contained _ | .incident .reconciling _ | .incident .resolved _
  | .incident .closed _ => .isFalse id
  | .policy _ _ _ | .proposal _ _ | .changeSet _ | .notification _ | .other _ => .isFalse id

def Opens (incidentId : String) (event : GovernanceEvent) : Prop :=
  Concerns incidentId event ∧ event.request.state.opened

def GovernanceAggregate.resolved : GovernanceAggregate → Prop
  | .incident .resolved _ => True
  | _ => False

instance : (after : GovernanceAggregate) → Decidable after.resolved
  | .incident .resolved _ => .isTrue trivial
  | .incident .opened _ | .incident .contained _ | .incident .reconciling _
  | .incident .closed _ => .isFalse id
  | .policy _ _ _ | .proposal _ _ | .changeSet _ | .notification _ | .other _ => .isFalse id

def Resolves (incidentId : String) (event : GovernanceEvent) : Prop :=
  Concerns incidentId event ∧ event.request.state.resolved

instance (incidentId : String) : DecidablePred (Concerns incidentId) :=
  fun _ => inferInstanceAs (Decidable (_ ∧ _))

instance (incidentId : String) : DecidablePred (Corrects incidentId) :=
  fun _ => inferInstanceAs (Decidable (_ ∧ _))

instance (incidentId : String) : DecidablePred (Opens incidentId) :=
  fun _ => inferInstanceAs (Decidable (_ ∧ _))

instance (incidentId : String) : DecidablePred (Resolves incidentId) :=
  fun _ => inferInstanceAs (Decidable (_ ∧ _))

def CorrectedSince (state : GovernanceState) (incidentId : String) : Prop :=
  Since (Corrects incidentId) (Opens incidentId) state.store.events

instance (state : GovernanceState) (incidentId : String) :
    Decidable (CorrectedSince state incidentId) :=
  inferInstanceAs (Decidable (Since _ _ _))

def ActedSinceResolution (state : GovernanceState) (incidentId : String) : Prop :=
  Since (Corrects incidentId) (Resolves incidentId) state.store.events

instance (state : GovernanceState) (incidentId : String) :
    Decidable (ActedSinceResolution state incidentId) :=
  inferInstanceAs (Decidable (Since _ _ _))

/-- The regression checks that a corrective action refers to all passed. -/
def Verified (state : GovernanceState) (event : GovernanceEvent) : Prop :=
  ∃ completion regressionIds, event.request.artifactIds = completion :: regressionIds ∧
    regressionIds ≠ [] ∧ ∀ regressionId ∈ regressionIds, ∃ artifact,
      state.store.artifacts[regressionId]? = some artifact ∧
        artifact.schemaName = "governance/automated-check-result/v1" ∧
        artifact.content.get "result" = some (.text "PASS")

def VerifiedSince (state : GovernanceState) (incidentId : String) : Prop :=
  Since (fun event => Corrects incidentId event ∧ Verified state event) (Opens incidentId)
    state.store.events

theorem VerifiedSince.corrected (verified : VerifiedSince state incidentId) :
    CorrectedSince state incidentId := by
  obtain ⟨event, member, corrects, -⟩ := verified
  exact ⟨event, member, corrects⟩

/-- What the log has to say about an incident is behind its row. -/
structure IncidentsLogged (state : GovernanceState) : Prop where
  named : ∀ event ∈ state.store.events, event.request.kind = "incident" →
    ∃ incident, state.findIncident event.request.aggregateId = some incident
  counted : ∀ event ∈ state.store.events, ∀ status severity incident,
    event.request.kind = "incident" → event.request.state = .incident status (some severity) →
      state.findIncident event.request.aggregateId = some incident →
        event.request.expectedVersion < incident.stateVersion
  linked : ∀ eventId event status, state.store.events[eventId]? = some event →
    event.request.kind = "incident" → event.request.state = .incident status none →
      (event.request.aggregateId, eventId) ∈ state.incidentEvents

/-- A write to the incidents is recorded under a fresh key: a replay would find its
incident there already, or at a later version, or linked to the event. -/
theorem IncidentWrite.fresh (logged : IncidentsLogged state)
    (write : IncidentWrite deployment state call after) : call.operationKey ∉ state.store.keys := by
  intro used
  have recordedAbout : ∀ request, state.Replayed call.operationKey request →
      request.kind = "incident" → state.findIncident request.aggregateId ≠ none := by
    rintro request ⟨event, found, rfl⟩ kind absent
    obtain ⟨_, present⟩ := logged.named event (find_mem found) kind
    exact absurd (present.symm.trans absent) nofun
  cases write with
  | declaredByGovernance recorded absent =>
    cases recorded with
    | appended _ fresh => exact fresh used
    | replayed replayed => exact recordedAbout _ replayed rfl absent
  | advanced _ _ recorded unlinked =>
    cases recorded with
    | appended _ fresh => exact fresh used
    | replayed replayed =>
      obtain ⟨event, held, same⟩ := replayed
      have linked := logged.linked _ event _ (getElem_eventId held) (by rw [same]; rfl)
        (by rw [same]; rfl)
      rw [same] at linked
      exact unlinked linked
  | declared recorded _ absent =>
    cases recorded with
    | appended _ fresh => exact fresh used
    | replayed replayed => exact recordedAbout _ replayed rfl absent
  | @moved _ _ _ incident _ _ _ _ _ _ _ _ found moves logs =>
    cases logs with
    | appended _ fresh => exact fresh used
    | replayed replayed =>
      obtain ⟨event, held, same⟩ := replayed
      obtain ⟨_, self⟩ := findIncident_named found
      have behind := logged.counted event (find_mem held) _ _ incident (by rw [same]; rfl)
        (by rw [same]; rfl) (by rw [same]; exact moves.keeps.2.1 ▸ self)
      rw [same] at behind
      exact lt_irrefl _ behind

theorem findIncident_exchanged {incidents : List Incident} (found :
    find (fun incident : Incident => incident.incidentId) next.incidentId incidents =
      some incident) (other : String) :
    find (fun incident : Incident => incident.incidentId) other (exchanged incidents next) =
      if other = next.incidentId then some next
      else find (fun incident : Incident => incident.incidentId) other incidents := by
  unfold exchanged
  split
  · rename_i same
    rw [same, find_update_self fun _ _ => rfl, found, Option.map_some]
  · rename_i differ
    exact find_update_other (fun _ _ => rfl) differ

/-- One more event about an incident keeps log and tables together. -/
theorem IncidentsLogged.append (kept : IncidentsLogged state)
    (events : after.store.events = state.store.events ++ [⟨operationKey, request⟩])
    (named : request.aggregateId = next.incidentId)
    (row : after.findIncident next.incidentId = some next)
    (others : ∀ incidentId, incidentId ≠ next.incidentId →
      after.findIncident incidentId = state.findIncident incidentId)
    (newer : ∀ old, state.findIncident next.incidentId = some old → old.stateVersion ≤ next.stateVersion)
    (ahead : ∀ status severity, request.state = .incident status (some severity) →
      request.expectedVersion < next.stateVersion)
    (links : ∀ link ∈ state.incidentEvents, link ∈ after.incidentEvents)
    (linked : ∀ status, request.state = .incident status none →
      (next.incidentId, state.store.events.length) ∈ after.incidentEvents) :
    IncidentsLogged after := by
  have lookup : ∀ incidentId incident, state.findIncident incidentId = some incident →
      ∃ now, after.findIncident incidentId = some now ∧ incident.stateVersion ≤ now.stateVersion := by
    intro incidentId incident found
    by_cases same : incidentId = next.incidentId
    · subst same
      exact ⟨next, row, newer incident found⟩
    · exact ⟨incident, (others incidentId same).trans found, le_rfl⟩
  constructor
  · intro event member kind
    rw [events] at member
    rcases mem_added member with older | newest
    · obtain ⟨incident, found⟩ := kept.named event older kind
      obtain ⟨now, present, -⟩ := lookup _ _ found
      exact ⟨now, present⟩
    · rw [newest]
      exact ⟨next, named ▸ row⟩
  · intro event member status severity incident kind recorded found
    rw [events] at member
    rcases mem_added member with older | newest
    · obtain ⟨old, held⟩ := kept.named event older kind
      obtain ⟨_, present, _⟩ := lookup _ _ held
      have behind := kept.counted event older status severity old kind recorded held
      rw [present] at found
      cases found
      omega
    · rw [newest] at recorded found ⊢
      simp only [named, row] at found
      cases found
      exact ahead status severity recorded
  · intro eventId event status located kind recorded
    rw [events] at located
    by_cases older : eventId < state.store.events.length
    · rw [getElem?_append_left older] at located
      exact links _ (kept.linked eventId event status located kind recorded)
    · rw [getElem?_append_right (by omega)] at located
      cases offset : eventId - state.store.events.length with
      | zero =>
        rw [offset] at located
        cases located
        have here : eventId = state.store.events.length := by omega
        rw [here]
        exact named ▸ linked status recorded
      | succ =>
        rw [offset] at located
        cases located

/-- Recording something else keeps log and tables together. -/
theorem IncidentsLogged.quiet (kept : IncidentsLogged state) (quiet : Quiet "incident" state after)
    (incidents : after.incidents = state.incidents)
    (links : after.incidentEvents = state.incidentEvents) : IncidentsLogged after := by
  obtain ⟨_, events, others⟩ := quiet.events
  have lookup : ∀ incidentId, after.findIncident incidentId = state.findIncident incidentId := by
    intro incidentId
    rw [findIncident_eq, findIncident_eq, incidents]
  constructor
  · intro event member kind
    rw [events] at member
    rw [lookup]
    rcases mem_append.mp member with older | newer
    · exact kept.named event older kind
    · exact absurd kind (others event newer)
  · intro event member status severity incident kind recorded found
    rw [events] at member
    rw [lookup] at found
    rcases mem_append.mp member with older | newer
    · exact kept.counted event older status severity incident kind recorded found
    · exact absurd kind (others event newer)
  · intro eventId event status located kind recorded
    rw [events] at located
    rw [links]
    by_cases older : eventId < state.store.events.length
    · rw [getElem?_append_left older] at located
      exact kept.linked eventId event status located kind recorded
    · rw [getElem?_append_right (by omega)] at located
      exact absurd kind (others event (mem_of_getElem? located))

theorem findIncident_inserted (absent : state.findIncident incident.incidentId = none)
    (incidents : after.incidents = state.incidents ++ [incident]) (other : String) :
    after.findIncident other =
      if other = incident.incidentId then some incident else state.findIncident other := by
  rw [findIncident_eq, incidents]
  exact find_insert_absent absent

theorem IncidentsLogged.insert (kept : IncidentsLogged state)
    (events : after.store.events = state.store.events ++ [⟨operationKey, request⟩])
    (named : request.aggregateId = incident.incidentId) (first : request.expectedVersion = 0)
    (absent : state.findIncident incident.incidentId = none)
    (incidents : after.incidents = state.incidents ++ [incident])
    (links : ∀ link ∈ state.incidentEvents, link ∈ after.incidentEvents)
    (linked : ∀ status, request.state = .incident status none →
      (incident.incidentId, state.store.events.length) ∈ after.incidentEvents) :
    IncidentsLogged after := by
  have row := findIncident_inserted absent incidents
  have numbered := incident.numbered
  refine kept.append events named (by rw [row, if_pos rfl]) ?_ ?_ ?_ links linked
  · intro other differ
    rw [row, if_neg differ]
  · intro old found
    rw [absent] at found
    cases found
  · intros
    omega

theorem IncidentsLogged.exchange (kept : IncidentsLogged state)
    (events : after.store.events = state.store.events ++ [⟨operationKey, request⟩])
    (named : request.aggregateId = next.incidentId)
    (found : state.findIncident next.incidentId = some incident)
    (counted : next.stateVersion = incident.stateVersion + 1)
    (incidents : after.incidents = exchanged state.incidents next)
    (ahead : ∀ status severity, request.state = .incident status (some severity) →
      request.expectedVersion = incident.stateVersion)
    (links : ∀ link ∈ state.incidentEvents, link ∈ after.incidentEvents)
    (linked : ∀ status, request.state = .incident status none →
      (next.incidentId, state.store.events.length) ∈ after.incidentEvents) :
    IncidentsLogged after := by
  have row : ∀ other, after.findIncident other =
      if other = next.incidentId then some next else state.findIncident other := by
    intro other
    rw [findIncident_eq, incidents]
    exact findIncident_exchanged found other
  refine kept.append events named (by rw [row, if_pos rfl]) ?_ ?_ ?_ links linked
  · intro other differ
    rw [row, if_neg differ]
  · intro old held
    rw [found] at held
    cases held
    omega
  · intro status severity recorded
    rw [ahead status severity recorded]
    omega

theorem Logged.appended_of_fresh (logged : Logged state operationKey request after)
    (fresh : operationKey ∉ state.store.keys) :
    ∃ topic, after = state.logged operationKey request topic := by
  cases logged with
  | replayed replayed => exact absurd (findEvent_isSome.mpr ⟨_, replayed.choose_spec.1⟩) fresh
  | appended topic => exact ⟨topic, rfl⟩

theorem IncidentsLogged.write (kept : IncidentsLogged state)
    (write : IncidentWrite deployment state call after) : IncidentsLogged after := by
  have fresh := write.fresh kept
  cases write with
  | @declaredByGovernance _ _ _ operationKey _ _ _ logged absent =>
    obtain ⟨topic, rfl⟩ := logged.appended_of_fresh fresh
    have unused : operationKey ∉ state.store.keys := fresh
    refine kept.insert rfl rfl rfl absent rfl (fun _ => mem_append_left _) fun _ _ => ?_
    simp [eventId_logged unused]
  | @advanced _ _ _ _ _ operationKey _ _ _ _ _ _ found moved logged =>
    obtain ⟨topic, rfl⟩ := logged.appended_of_fresh fresh
    obtain ⟨-, -, renamed, counted⟩ := transitionIncident_keeps moved
    obtain ⟨named, self⟩ := findIncident_named found
    have unused : operationKey ∉ state.store.keys := fresh
    refine kept.exchange rfl (named.symm.trans renamed.symm) (renamed ▸ self) counted rfl nofun
      (fun _ => mem_append_left _) fun _ _ => ?_
    simp [eventId_logged unused, renamed, named]
  | @declared _ _ _ _ _ _ _ _ _ logged _ absent =>
    obtain ⟨topic, rfl⟩ := logged.appended_of_fresh fresh
    exact kept.insert rfl rfl rfl absent rfl (fun _ held => held) nofun
  | @moved _ _ _ _ _ _ _ _ _ _ _ _ found moves logged =>
    obtain ⟨_, rfl⟩ := logged.appended_of_fresh fresh
    obtain ⟨-, renamed, counted⟩ := moves.keeps
    obtain ⟨_, self⟩ := findIncident_named found
    exact kept.exchange rfl rfl (renamed ▸ self) counted rfl (fun _ _ _ => rfl) (fun _ held => held)
      (fun _ same => by cases same)

theorem artifact_ok {provenance : ArtifactProvenance}
    (ok : state.artifact deployment provenance schemaName allowedRoles expectedContent = .ok row) :
    state.store.artifacts[provenance.artifactId]? = some row ∧
      ∀ schema ∈ schemaName, row.schemaName = schema := by
  simp only [artifact, joinedArtifact, bind_ok, expect_ok, guard_ok, pure_ok, Prod.exists,
    Option.bind_eq_some_iff, Option.map_eq_some_iff, Prod.mk.injEq] at ok
  obtain ⟨_, _, ⟨_, found, _, -, rfl, rfl⟩, -, -, schema, -, -, rfl⟩ := ok
  push Not at schema
  exact ⟨found, schema⟩

theorem regressionCheck_ok {check : AutomatedCheck}
    (ok : state.regressionCheck deployment check = .ok regressionId) :
    ∃ artifact, state.store.artifacts[regressionId]? = some artifact ∧
      artifact.schemaName = "governance/automated-check-result/v1" ∧
      artifact.content.get "result" = some (.text "PASS") := by
  simp only [regressionCheck, bind_ok, guard_ok, not_not] at ok
  obtain ⟨row, found, content, pass, _, -, rest⟩ := ok
  obtain ⟨stored, schema⟩ := artifact_ok found
  push Not at content
  have result := content ("result", .text check.result.value) (by simp [checkContent])
  rw [pass] at result
  split at rest
  · cases rest
  · cases rest
  · simp only [bind_ok, guard_ok, pure_ok] at rest
    obtain ⟨-, rfl⟩ := rest
    exact ⟨row, stored, schema _ rfl, result⟩

variable {event : GovernanceEvent}

theorem verified_of_checks {checks : List AutomatedCheck} (guarded : checks ≠ [])
    (verified : checks.mapM (state.regressionCheck deployment) = .ok regressionIds)
    (listed : event.request.artifactIds = completion :: regressionIds) : Verified state event := by
  refine ⟨completion, regressionIds, listed, ?_, ?_⟩
  · rintro rfl
    cases checks with
    | nil => exact guarded rfl
    | cons =>
      simp only [mapM_cons, bind_ok, pure_ok] at verified
      obtain ⟨_, -, _, -, impossible⟩ := verified
      cases impossible
  · intro regressionId member
    obtain ⟨_, -, ok⟩ := mem_of_mapM verified regressionId member
    exact regressionCheck_ok ok

/-- The corrective actions of an incident that was never resolved, and those that no
resolution has used up, came since it was last OPEN. -/
structure Life (state : GovernanceState) (incident : Incident) : Prop where
  first : incident.resolvedAt = none →
    (∀ event ∈ state.store.events, ¬Corrects incident.incidentId event) ∨
      (incident.status = .reconciling ∧ CorrectedSince state incident.incidentId)
  acted : ActedSinceResolution state incident.incidentId →
    incident.status = .reconciling ∧ CorrectedSince state incident.incidentId

structure Corrections (state : GovernanceState) : Prop where
  recorded : ∀ row ∈ state.correctiveActions, ∃ event ∈ state.store.events,
    Corrects row.incidentId event
  verified : ∀ incidentId, ∀ event ∈ state.store.events, Corrects incidentId event →
    Verified state event
  life : ∀ incidentId incident, state.findIncident incidentId = some incident → Life state incident

theorem Verified.grow (verified : Verified state event)
    (grown : ∃ more, after.store.artifacts = state.store.artifacts ++ more) : Verified after event := by
  obtain ⟨completion, regressionIds, listed, guarded, checked⟩ := verified
  obtain ⟨_, grown⟩ := grown
  refine ⟨completion, regressionIds, listed, guarded, fun regressionId member => ?_⟩
  obtain ⟨artifact, stored, passing⟩ := checked regressionId member
  refine ⟨artifact, ?_, passing⟩
  rw [grown, List.getElem?_append_left (List.getElem?_eq_some_iff.mp stored).1]
  exact stored

/-- Events about others say nothing about an incident. -/
theorem Life.others (life : Life state incident)
    (events : after.store.events = state.store.events ++ more)
    (others : ∀ event ∈ more, ¬Concerns incident.incidentId event) : Life after incident := by
  have corrected : CorrectedSince after incident.incidentId ↔
      CorrectedSince state incident.incidentId := by
    unfold CorrectedSince
    rw [events]
    exact since_append_others fun event member =>
      ⟨fun opens => others event member opens.1, fun corrects => others event member corrects.1⟩
  have acted : ActedSinceResolution after incident.incidentId ↔
      ActedSinceResolution state incident.incidentId := by
    unfold ActedSinceResolution
    rw [events]
    exact since_append_others fun event member =>
      ⟨fun resolves => others event member resolves.1, fun corrects => others event member corrects.1⟩
  constructor
  · intro unresolved
    rcases life.first unresolved with none | ⟨status, since⟩
    · refine .inl fun event member corrects => ?_
      rw [events] at member
      rcases mem_append.mp member with older | newer
      · exact none event older corrects
      · exact others event newer corrects.1
    · exact .inr ⟨status, corrected.mpr since⟩
  · intro again
    rw [corrected]
    exact life.acted (acted.mp again)

theorem Life.of_none (none : ∀ event ∈ state.store.events, ¬Corrects incident.incidentId event) :
    Life state incident := by
  refine ⟨fun _ => .inl none, fun acted => ?_⟩
  obtain ⟨event, member, corrects⟩ := acted.mem
  exact absurd corrects (none event member)

variable {details : IncidentDetails} {now : Time} {toStatus : IncidentStatus}

theorem Life.transition (life : Life state incident)
    (moved : transitionIncident incident toStatus now details = .ok next)
    (events : after.store.events = state.store.events ++ [⟨operationKey, request⟩])
    (concerns : Concerns incident.incidentId ⟨operationKey, request⟩)
    (recorded : ∃ severity, request.state = .incident toStatus severity)
    (other : request.eventType ≠ "INCIDENT_CORRECTIVE_ACTION_VERIFIED") : Life after next := by
  obtain ⟨allowed, same⟩ := transitionIncident_ok moved
  obtain ⟨severity, recorded⟩ := recorded
  have named : next.incidentId = incident.incidentId := (transitionIncident_keeps moved).2.2.1
  have resolving : incident.status = .reconciling → toStatus = .resolved := by
    intro reconciling
    rw [reconciling] at allowed
    exact mem_singleton.mp allowed
  constructor
  · intro unresolved
    rw [same, IncidentData.moved_resolvedAt] at unresolved
    rw [named, events]
    split at unresolved
    · cases unresolved
    · rename_i resolved
      rcases life.first unresolved with none | ⟨reconciling, -⟩
      · refine .inl fun event member => ?_
        rcases mem_added member with older | newest
        · exact none event older
        · rw [newest]
          exact fun corrects => other corrects.2
      · exact absurd (resolving reconciling) resolved
  · intro acted
    rw [named] at acted
    unfold ActedSinceResolution at acted
    rw [events, since_append_one] at acted
    obtain ⟨resolved, corrects | before⟩ := acted
    · exact absurd corrects.2 other
    · refine absurd ⟨concerns, ?_⟩ resolved
      change request.state.resolved
      rw [recorded, resolving (life.acted before).1]
      trivial

/-- An incident whose counters alone moved is as far in its life as before. -/
theorem Life.touch (life : Life state incident)
    (events : after.store.events = state.store.events ++ [⟨operationKey, request⟩])
    (recorded : request.state = .incident incident.status (some incident.severity))
    (other : request.eventType ≠ "INCIDENT_CORRECTIVE_ACTION_VERIFIED") :
    Life after (Reliability.Incident.touched incident) := by
  have still : incident.status = .reconciling → CorrectedSince state incident.incidentId →
      CorrectedSince after incident.incidentId := by
    intro reconciling since
    unfold CorrectedSince
    rw [events]
    refine Since.append since fun event newest opens => ?_
    rw [mem_singleton.mp newest, Opens, recorded, reconciling] at opens
    exact opens.2
  constructor
  · intro unresolved
    rcases life.first unresolved with none | ⟨reconciling, since⟩
    · refine .inl fun event member => ?_
      rw [events] at member
      rcases mem_added member with older | newest
      · exact none event older
      · rw [newest]
        exact fun corrects => other corrects.2
    · exact .inr ⟨reconciling, still reconciling since⟩
  · intro acted
    unfold ActedSinceResolution at acted
    rw [events, since_append_one] at acted
    obtain ⟨-, corrects | before⟩ := acted
    · exact absurd corrects.2 other
    · obtain ⟨reconciling, since⟩ := life.acted before
      exact ⟨reconciling, still reconciling since⟩

theorem Life.correct {correctiveActionId : String} (reconciling : incident.status = .reconciling)
    (events : after.store.events = state.store.events ++ [⟨operationKey, request⟩])
    (recorded : request.state = .incident incident.status (some incident.severity))
    (corrects : Corrects incident.incidentId ⟨operationKey, request⟩) :
    Life after (Reliability.Incident.corrected incident correctiveActionId) := by
  have since : CorrectedSince after incident.incidentId := by
    unfold CorrectedSince
    rw [events, since_append_one]
    refine ⟨fun opens => ?_, .inl corrects⟩
    rw [Opens, recorded, reconciling] at opens
    exact opens.2
  exact ⟨fun _ => .inr ⟨reconciling, since⟩, fun _ => ⟨reconciling, since⟩⟩

theorem Corrections.quiet (kept : Corrections state) (quiet : Quiet "incident" state after)
    (incidents : after.incidents = state.incidents)
    (actions : after.correctiveActions = state.correctiveActions)
    (grown : ∃ more, after.store.artifacts = state.store.artifacts ++ more) : Corrections after := by
  obtain ⟨_, events, others⟩ := quiet.events
  constructor
  · intro row member
    rw [actions] at member
    obtain ⟨event, held, corrects⟩ := kept.recorded row member
    exact ⟨event, events ▸ mem_append_left _ held, corrects⟩
  · intro incidentId event member corrects
    rw [events] at member
    rcases mem_append.mp member with older | newer
    · exact (kept.verified incidentId event older corrects).grow grown
    · exact absurd corrects.1.1 (others event newer)
  · intro incidentId incident found
    rw [findIncident_eq, incidents] at found
    exact (kept.life incidentId incident found).others events
      fun event member concerns => others event member concerns.1

theorem Corrections.append (kept : Corrections state)
    (events : after.store.events = state.store.events ++ [⟨operationKey, request⟩])
    (artifacts : after.store.artifacts = state.store.artifacts)
    (named : request.aggregateId = next.incidentId)
    (row : ∀ incidentId, after.findIncident incidentId =
      if incidentId = next.incidentId then some next else state.findIncident incidentId)
    (actions : ∀ row ∈ after.correctiveActions, row ∈ state.correctiveActions ∨
      Corrects row.incidentId ⟨operationKey, request⟩)
    (checked : Corrects next.incidentId ⟨operationKey, request⟩ →
      Verified state ⟨operationKey, request⟩)
    (life : Life after next) : Corrections after := by
  have grown : ∃ more, after.store.artifacts = state.store.artifacts ++ more := ⟨[], by simp [artifacts]⟩
  have own : ∀ incidentId, Concerns incidentId ⟨operationKey, request⟩ → incidentId = next.incidentId :=
    fun incidentId concerns => concerns.2.symm.trans named
  constructor
  · intro row member
    rw [events]
    rcases actions row member with older | corrects
    · obtain ⟨event, held, corrects⟩ := kept.recorded row older
      exact ⟨event, mem_append_left _ held, corrects⟩
    · exact ⟨_, mem_append_right _ (mem_singleton_self _), corrects⟩
  · intro incidentId event member corrects
    rw [events] at member
    rcases mem_append.mp member with older | newest
    · exact (kept.verified incidentId event older corrects).grow grown
    · rw [mem_singleton.mp newest] at corrects ⊢
      exact (checked (own incidentId corrects.1 ▸ corrects)).grow grown
  · intro incidentId incident found
    rw [row] at found
    split at found
    · cases found
      exact life
    · rename_i differ
      refine (kept.life incidentId incident found).others events fun event newest concerns => ?_
      rw [mem_singleton.mp newest, (findIncident_named found).1] at concerns
      exact differ (own incidentId concerns)

theorem IncidentsLogged.silent (logged : IncidentsLogged state)
    (absent : state.findIncident incidentId = none) :
    ∀ event ∈ state.store.events, ¬Corrects incidentId event := by
  intro event member corrects
  obtain ⟨_, present⟩ := logged.named event member corrects.1.1
  rw [corrects.1.2, absent] at present
  cases present

theorem Corrections.insert (kept : Corrections state) (logged : IncidentsLogged state)
    (events : after.store.events = state.store.events ++ [⟨operationKey, request⟩])
    (artifacts : after.store.artifacts = state.store.artifacts)
    (named : request.aggregateId = incident.incidentId)
    (other : request.eventType ≠ "INCIDENT_CORRECTIVE_ACTION_VERIFIED")
    (absent : state.findIncident incident.incidentId = none)
    (incidents : after.incidents = state.incidents ++ [incident])
    (actions : after.correctiveActions = state.correctiveActions) : Corrections after := by
  refine kept.append events artifacts named (findIncident_inserted absent incidents)
    (fun row member => .inl (actions ▸ member)) (fun corrects => absurd corrects.2 other) ?_
  refine .of_none fun event member => ?_
  rw [events] at member
  rcases mem_added member with older | newest
  · exact logged.silent absent event older
  · rw [newest]
    exact fun corrects => other corrects.2

theorem findIncident_moved (incidents : after.incidents = exchanged state.incidents next)
    (found : state.findIncident next.incidentId = some incident) (other : String) :
    after.findIncident other =
      if other = next.incidentId then some next else state.findIncident other := by
  rw [findIncident_eq, incidents]
  exact findIncident_exchanged found other

theorem Corrections.transition (kept : Corrections state)
    (events : after.store.events = state.store.events ++ [⟨operationKey, request⟩])
    (artifacts : after.store.artifacts = state.store.artifacts)
    (concerns : Concerns incident.incidentId ⟨operationKey, request⟩)
    (found : state.findIncident incident.incidentId = some incident)
    (moved : transitionIncident incident toStatus now details = .ok next)
    (recorded : ∃ severity, request.state = .incident toStatus severity)
    (other : request.eventType ≠ "INCIDENT_CORRECTIVE_ACTION_VERIFIED")
    (incidents : after.incidents = exchanged state.incidents next)
    (actions : after.correctiveActions = state.correctiveActions) : Corrections after := by
  have renamed := (transitionIncident_keeps moved).2.2.1
  refine kept.append events artifacts (concerns.2.trans renamed.symm)
    (findIncident_moved incidents (renamed ▸ found)) (fun row member => .inl (actions ▸ member))
    (fun corrects => absurd corrects.2 other) ?_
  exact (kept.life _ incident found).transition moved events concerns recorded other

theorem Corrections.touch (kept : Corrections state)
    (found : state.findIncident incident.incidentId = some incident)
    (events : after.store.events = state.store.events ++ [⟨operationKey, request⟩])
    (artifacts : after.store.artifacts = state.store.artifacts)
    (named : request.aggregateId = incident.incidentId)
    (recorded : request.state = .incident incident.status (some incident.severity))
    (other : request.eventType ≠ "INCIDENT_CORRECTIVE_ACTION_VERIFIED")
    (incidents : after.incidents = exchanged state.incidents (Reliability.Incident.touched incident))
    (actions : after.correctiveActions = state.correctiveActions) : Corrections after := by
  have life := (kept.life _ incident found).touch events recorded other
  have same : request.aggregateId = (Reliability.Incident.touched incident).incidentId := named
  exact kept.append events artifacts same (findIncident_moved incidents found)
    (fun row member => .inl (actions ▸ member)) (fun corrects => absurd corrects.2 other) life

theorem Corrections.write (kept : Corrections state) (logged : IncidentsLogged state)
    (write : IncidentWrite deployment state call after) : Corrections after := by
  have fresh := write.fresh logged
  cases write with
  | declaredByGovernance logs absent =>
    obtain ⟨topic, rfl⟩ := logs.appended_of_fresh fresh
    exact kept.insert logged rfl rfl rfl (by simp [incidentRequest]) absent rfl rfl
  | @advanced _ _ _ toStatus _ _ _ _ _ _ _ _ found moved logs =>
    obtain ⟨topic, rfl⟩ := logs.appended_of_fresh fresh
    obtain ⟨named, self⟩ := findIncident_named found
    refine kept.transition rfl rfl ⟨rfl, named.symm⟩ self moved ⟨none, rfl⟩ ?_ rfl rfl
    change "INCIDENT_" ++ toStatus.value ≠ _
    cases toStatus <;> decide
  | declared logs _ absent =>
    obtain ⟨topic, rfl⟩ := logs.appended_of_fresh fresh
    exact kept.insert logged rfl rfl rfl (by simp [incidentRequest]) absent rfl rfl
  | @moved readings actor request incident next eventType policyVersion artifactIds actions
      freezes _ snapshots found moves logs =>
    obtain ⟨topic, rfl⟩ := logs.appended_of_fresh fresh
    obtain ⟨named, self⟩ := findIncident_named found
    have transition : ∀ {toStatus : IncidentStatus} {details : IncidentDetails},
        transitionIncident incident toStatus readings.now details = .ok next →
          eventType ≠ "INCIDENT_CORRECTIVE_ACTION_VERIFIED" → actions = state.correctiveActions →
            Corrections { state.logged request.operationKey (incidentRequest actor next.incidentId
                incident.stateVersion (.incident next.status (some next.severity)) eventType
                policyVersion artifactIds none) topic with
              incidents := exchanged state.incidents next
              evidenceSnapshots := snapshots
              correctiveActions := actions
              incidentFreezes := freezes } := by
      intro toStatus details moved other same
      obtain ⟨status, -, renamed, -⟩ := transitionIncident_keeps moved
      exact kept.transition rfl rfl ⟨rfl, renamed⟩ self moved ⟨_, by rw [← status]; rfl⟩ other rfl same
    cases moves with
    | contain moved => exact transition moved (by simp) rfl
    | beginReconciliation moved => exact transition moved (by simp) rfl
    | resolve _ _ moved => exact transition moved (by simp) rfl
    | close moved => exact transition moved (by simp) rfl
    | reopen moved => exact transition moved (by simp) rfl
    | link => exact kept.touch self rfl rfl rfl rfl (by simp [incidentRequest]) rfl rfl
    | lift => exact kept.touch self rfl rfl rfl rfl (by simp [incidentRequest]) rfl rfl
    | @correct _ action _ _ _ _ reconciling verified =>
      refine kept.append rfl rfl rfl (findIncident_moved rfl self) ?_ ?_ ?_
      · intro row member
        rcases mem_added member with older | newest
        · exact .inl older
        · rw [newest]
          exact .inr ⟨⟨rfl, named⟩, rfl⟩
      · exact fun _ => verified_of_checks action.guarded verified rfl
      · exact .correct reconciling rfl rfl ⟨⟨rfl, rfl⟩, rfl⟩

/-- Log, rows and corrective actions agree. -/
structure Accounted (state : GovernanceState) : Prop where
  logged : IncidentsLogged state
  corrections : Corrections state

theorem Accounted.quiet (kept : Accounted state) (quiet : Quiet "incident" state after)
    (incidents : after.incidents = state.incidents) (links : after.incidentEvents = state.incidentEvents)
    (actions : after.correctiveActions = state.correctiveActions)
    (grown : ∃ more, after.store.artifacts = state.store.artifacts ++ more) : Accounted after :=
  ⟨kept.logged.quiet quiet incidents links, kept.corrections.quiet quiet incidents actions grown⟩

theorem Accounted.aside (kept : Accounted state) (aside : Aside state between) : Accounted between :=
  kept.quiet (aside.quiet (by simp [ruledKinds])) aside.incidents aside.incidentEvents
    aside.correctiveActions aside.artifacts

theorem Accounted.effect (kept : Accounted state) (effect : Effect deployment state call after) :
    Accounted after := by
  cases effect with
  | aside aside => exact kept.aside aside
  | policies write =>
    exact kept.quiet (write.quiet (by decide)) (by rw [write.frame]) (by rw [write.frame])
      (by rw [write.frame]) ⟨[], by rw [append_nil, write.artifacts]⟩
  | proposals aside write =>
    exact (kept.aside aside).quiet (write.quiet (by decide)) (by rw [write.frame]) (by rw [write.frame])
      (by rw [write.frame]) ⟨[], by rw [append_nil, write.artifacts]⟩
  | incidents aside write =>
    have between := kept.aside aside
    exact ⟨between.logged.write write, between.corrections.write between.logged write⟩

theorem accounted_empty : Accounted .empty where
  logged := ⟨by simp [GovernanceState.empty, Store.empty], by simp [GovernanceState.empty, Store.empty],
    by simp [GovernanceState.empty, Store.empty]⟩
  corrections := ⟨by simp [GovernanceState.empty], by simp [GovernanceState.empty, Store.empty],
    by simp [GovernanceState.empty, findIncident]⟩

theorem accounted_history (deployment : Deployment) (calls : List GovernanceCall) :
    Accounted (history deployment calls) :=
  run_preserves Accounted accounted_empty (fun _ _ kept => next_of_answered Accounted kept
    fun _ _ ok => kept.effect (effect_of_answer ok)) calls

def UsesAction (state : GovernanceState) (call : GovernanceCall) : Prop :=
  match call.request with
  | .advanceIncident incidentId .resolved _ _ _ _ =>
    (∃ row ∈ state.correctiveActions, row.incidentId = incidentId) ∧
      ∀ incident ∈ state.findIncident incidentId, incident.resolvedAt ≠ none →
        ActedSinceResolution state incidentId
  | .reliability (.resolve incidentId _ _ _ _ _) =>
    ∀ incident ∈ state.findIncident incidentId, incident.resolvedAt ≠ none →
      ActedSinceResolution state incidentId
  | _ => True

instance (state : GovernanceState) (call : GovernanceCall) : Decidable (UsesAction state call) := by
  obtain ⟨_, _, _⟩ := call
  unfold UsesAction
  dsimp only
  split <;> infer_instance

theorem Corrections.since (kept : Corrections state)
    (found : state.findIncident incidentId = some incident)
    (recorded : ∃ row ∈ state.correctiveActions, row.incidentId = incidentId)
    (again : incident.resolvedAt ≠ none → ActedSinceResolution state incidentId) :
    CorrectedSince state incidentId := by
  obtain ⟨rfl, -⟩ := findIncident_named found
  have life := kept.life _ incident found
  by_cases unresolved : incident.resolvedAt = none
  · obtain ⟨row, member, about⟩ := recorded
    obtain ⟨event, held, corrects⟩ := kept.recorded row member
    rcases life.first unresolved with none | ⟨-, since⟩
    · exact absurd (about ▸ corrects) (none event held)
    · exact since
  · exact (life.acted (again unresolved)).2

theorem Corrections.verifiedSince (kept : Corrections state) (since : CorrectedSince state incidentId) :
    VerifiedSince state incidentId := by
  obtain ⟨event, member, corrects⟩ := since
  have held : event ∈ state.store.events :=
    mem_reverse.mp ((takeWhile_sublist _).subset member)
  exact ⟨event, member, corrects, kept.verified incidentId event held corrects⟩

theorem recorded_of_completed (acted : incident.correctiveActionIds ≠ [])
    (completed : incident.correctiveActionIds.toFinset =
      (Reliability.completedActions state incidentId).toFinset) :
    ∃ row ∈ state.correctiveActions, row.incidentId = incidentId := by
  obtain ⟨first, _, listed⟩ := exists_cons_of_ne_nil acted
  have member : first ∈ (Reliability.completedActions state incidentId).toFinset := by
    rw [← completed, listed]
    simp
  rw [mem_toFinset, Reliability.completedActions, mem_map] at member
  obtain ⟨row, held, -⟩ := member
  rw [mem_filter, decide_eq_true_eq] at held
  exact ⟨row, held⟩

theorem Corrections.resolves (kept : Corrections state) (admissible : UsesAction state call)
    (write : IncidentWrite deployment state call after)
    (found : state.findIncident incidentId = some before)
    (resolved : after.findIncident incidentId = some incident) (was : before.status ≠ .resolved)
    (becomes : incident.status = .resolved) : CorrectedSince state incidentId := by
  have changed : after.findIncident incidentId ≠ state.findIncident incidentId := by
    rw [resolved, found]
    rintro same
    cases same
    exact was becomes
  have inserted : ∀ new, state.findIncident new.incidentId = none →
      after.incidents = state.incidents ++ [new] → False := by
    intro new absent incidents
    have row := findIncident_inserted absent incidents incidentId
    split at row
    · rename_i same
      rw [same, absent] at found
      cases found
    · exact changed row
  have moved : ∀ old next, state.findIncident next.incidentId = some old →
      after.incidents = exchanged state.incidents next →
        incidentId = next.incidentId ∧ old = before ∧ next.status = .resolved := by
    intro old next self incidents
    have row := findIncident_moved incidents self incidentId
    split at row
    · rename_i same
      rw [same, self] at found
      cases found
      rw [resolved] at row
      cases row
      exact ⟨same, rfl, becomes⟩
    · exact absurd row changed
  cases write with
  | declaredByGovernance _ absent => exact (inserted _ absent rfl).elim
  | declared _ _ absent => exact (inserted _ absent rfl).elim
  | advanced found' transition =>
    obtain ⟨status, -, renamed, -⟩ := transitionIncident_keeps transition
    obtain ⟨named, self⟩ := findIncident_named found'
    obtain ⟨same, rfl, reached⟩ := moved _ _ (renamed ▸ self) rfl
    rw [renamed, named] at same
    subst same
    rw [status] at reached
    subst reached
    exact kept.since found admissible.1 (admissible.2 _ found)
  | @moved _ _ _ _ _ _ _ _ _ _ _ _ found' moves =>
    obtain ⟨-, renamed, -⟩ := moves.keeps
    obtain ⟨named, self⟩ := findIncident_named found'
    obtain ⟨same, rfl, reached⟩ := moved _ _ (renamed ▸ self) rfl
    rw [renamed, named] at same
    subst same
    cases moves with
    | contain transition => exact absurd ((transitionIncident_keeps transition).1.symm.trans reached) nofun
    | beginReconciliation transition =>
      exact absurd ((transitionIncident_keeps transition).1.symm.trans reached) nofun
    | correct => exact absurd reached was
    | resolve acted completed =>
      exact kept.since found (recorded_of_completed acted completed) (admissible _ found)
    | close transition => exact absurd ((transitionIncident_keeps transition).1.symm.trans reached) nofun
    | reopen transition => exact absurd ((transitionIncident_keeps transition).1.symm.trans reached) nofun
    | link => exact absurd reached was
    | lift => exact absurd reached was

theorem since_aside {good resets : GovernanceEvent → Prop} [DecidablePred resets]
    (aside : Aside state between) (resets_about : ∀ event, resets event → Concerns incidentId event)
    (good_about : ∀ event, good event → Concerns incidentId event) :
    Since good resets between.store.events ↔ Since good resets state.store.events := by
  obtain ⟨more, events, others⟩ := aside.events
  have quiet : ∀ event ∈ more, ¬Concerns incidentId event := by
    intro event member concerns
    exact others event member (by simp [ruledKinds, concerns.1])
  rw [events]
  exact since_append_others fun event member =>
    ⟨fun hit => quiet event member (resets_about event hit),
      fun hit => quiet event member (good_about event hit)⟩

theorem UsesAction.aside (admissible : UsesAction state call) (aside : Aside state between) :
    UsesAction between call := by
  have lookup : ∀ incidentId, between.findIncident incidentId = state.findIncident incidentId := by
    intro incidentId
    rw [findIncident_eq, findIncident_eq, aside.incidents]
  have acted : ∀ incidentId, ActedSinceResolution between incidentId ↔
      ActedSinceResolution state incidentId :=
    fun incidentId => since_aside aside (fun _ resolves => resolves.1) fun _ corrects => corrects.1
  unfold UsesAction at admissible ⊢
  simpa only [lookup, acted, aside.correctiveActions] using admissible

/-- When the governance service resolves incidents only with a corrective action on record,
and no resolution uses the actions of an earlier life, each transition of an incident to
RESOLVED comes after a verified corrective action since it was last OPEN. -/
theorem resolved_after_corrective_action (calls : List GovernanceCall) (call : GovernanceCall)
    (used : Along (answer deployment) (WhenAnswered (answer deployment) UsesAction) .empty
      (calls ++ [call]))
    (incidentId : String) (before after : Incident)
    (found : (history deployment calls).findIncident incidentId = some before)
    (resolved : (history deployment (calls ++ [call])).findIncident incidentId = some after)
    (was : before.status ≠ .resolved) (becomes : after.status = .resolved) :
    VerifiedSince (history deployment calls) incidentId := by
  have kept := accounted_history deployment calls
  have uses : WhenAnswered (answer deployment) UsesAction (history deployment calls) call :=
    (along_append.mp used).2.1
  rw [history_append] at resolved
  cases answered : answer deployment (history deployment calls) call with
  | error =>
    rw [next_of_error answered, found] at resolved
    cases resolved
    exact absurd becomes was
  | ok pair =>
    obtain ⟨given, next⟩ := pair
    have admissible := uses given next answered
    rw [next_of_ok answered] at resolved
    have still : next.incidents = (history deployment calls).incidents → False := by
      intro same
      rw [findIncident_eq, same, ← findIncident_eq, found] at resolved
      cases resolved
      exact was becomes
    cases effect_of_answer answered with
    | aside aside => exact (still aside.incidents).elim
    | policies write => exact (still (by rw [write.frame])).elim
    | proposals aside write => exact (still (by rw [write.frame, aside.incidents])).elim
    | @incidents between _ aside write =>
      have present : between.findIncident incidentId = some before := by
        rw [findIncident_eq, aside.incidents]
        exact found
      have since := (kept.aside aside).corrections.resolves (admissible.aside aside) write present resolved
        was becomes
      apply kept.corrections.verifiedSince
      exact (since_aside aside (fun _ opens => opens.1) fun _ corrects => corrects.1).mp since

namespace Small

def advanced : GovernanceCall :=
  made 14 governance (.advanceIncident "INC-1" .resolved 3 "advance" "v1" {
    reconciliationEvidence := [provenance 0 governance evidence]
    rootCauseArtifact := some (provenance 0 governance evidence)
    impactAssessmentArtifact := some (provenance 0 governance evidence) })

def contained : List GovernanceCall :=
  [made 17 governance (.reliability (.contain "INC-1" "halted" (provenance 0 governance evidence)
      "contain again" "v1")),
    made 18 governance (.reliability (.beginReconciliation "INC-1" "reconcile again" "v1"))]

def resolvedAgain : GovernanceCall :=
  made 19 governance (.reliability (.resolve "INC-1" [provenance 0 governance evidence]
    (provenance 0 governance evidence) (provenance 0 governance evidence) "resolve again" "v1"))

def incidentAfter (calls : List GovernanceCall) : Option Incident :=
  (history Small.deployment calls).findIncident "INC-1"

def statusAfter (calls : List GovernanceCall) : Option IncidentStatus :=
  (incidentAfter calls).map fun incident => incident.status

end Small

open Governance.Small

theorem resolved_after_corrective_action_verified :
    VerifiedSince (history Small.deployment (filed ++ [declared] ++ resolved.take 3)) "INC-1" := by
  exact resolved_after_corrective_action (filed ++ [declared] ++ resolved.take 3)
    (made 14 governance (.reliability (.resolve "INC-1" [provenance 0 governance evidence]
      (provenance 0 governance evidence) (provenance 0 governance evidence) "resolve" "v1")))
    (by decide +kernel) "INC-1"
    ((incidentAfter (filed ++ [declared] ++ resolved.take 3)).get (by decide +kernel))
    ((incidentAfter (filed ++ [declared] ++ resolved)).get (by decide +kernel))
    (Option.some_get _).symm (Option.some_get _).symm (by decide +kernel) (by decide +kernel)

/-- The governance service resolves an incident that has no corrective action, and the
reliability service resolves a reopened one on those of its earlier life. -/
theorem resolved_without_corrective_action :
    (statusAfter (filed ++ [declared] ++ resolved.take 2) = some .reconciling ∧
      statusAfter (filed ++ [declared] ++ resolved.take 2 ++ [advanced]) = some .resolved ∧
      ¬VerifiedSince (history Small.deployment (filed ++ [declared] ++ resolved.take 2)) "INC-1") ∧
    statusAfter (filed ++ [declared] ++ resolved ++ [reopened] ++ contained) = some .reconciling ∧
      statusAfter (filed ++ [declared] ++ resolved ++ [reopened] ++ contained ++ [resolvedAgain]) =
        some .resolved ∧
      ¬VerifiedSince (history Small.deployment
        (filed ++ [declared] ++ resolved ++ [reopened] ++ contained)) "INC-1" := by
  refine ⟨⟨by decide +kernel, by decide +kernel, fun verified => ?_⟩, by decide +kernel,
    by decide +kernel, fun verified => ?_⟩
  · exact absurd verified.corrected (by decide +kernel)
  · exact absurd verified.corrected (by decide +kernel)

end Liki.Governance
