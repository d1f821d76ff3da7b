import Liki.Audit.Log

/-! Transitions against the auditor. In every run the auditor reconstructs exactly the
aggregates that the transitions have written, and the last hash it computes is the one the
next event names; versions, operation keys and refusals follow from what one transition does. -/
namespace Liki.Audit
open Checks CallSystem Json KeyedRows List

inductive Call where
  | transition (call : TransitionCall)
  | artifact (artifactId : String)
  /-- An evidence item is admitted. -/
  | evidence (evidenceId : String)

def handle (platform : Platform) : Handler Database Call ServiceError (Option EventRow)
  | database, .transition call =>
    (transition platform database call).map fun recorded => (some recorded.1, recorded.2)
  | database, .artifact artifactId =>
    .ok (none, { database with artifacts := database.artifacts ++ [artifactId] })
  | database, .evidence evidenceId =>
    .ok (none, { database with evidence := database.evidence ++ [evidenceId] })

def history (platform : Platform) (calls : List Call) : Database := run (handle platform) .empty calls

def requested (calls : List Call) : List TransitionCall :=
  calls.filterMap fun call =>
    match call with
    | .transition call => some call
    | _ => none

inductive Recorded (platform : Platform) (database : Database) (call : TransitionCall) :
    EventRow → Database → Prop where
  | replayed {event : EventRow}
      (found : KeyedRows.find (fun event : EventRow => event.operationKey) call.operationKey
        database.events = some event)
      (same : event.operationHash = contentHash platform.hashing call.request) :
      Recorded platform database call event database
  | appended {event : EventRow}
      (fresh : KeyedRows.find (fun event : EventRow => event.operationKey) call.operationKey
        database.events = none)
      (current : call.expectedVersion = database.version call.key)
      (evidence : ∀ evidence ∈ call.evidenceIds, evidence ∈ database.evidence)
      (artifacts : ∀ artifact ∈ call.artifactIds, artifact ∈ database.artifacts)
      (row : inserted platform (call.envelope platform (database.version call.key) database.head)
        call.metadataAfter = .ok event) :
      Recorded platform database call event (database.append call event)

variable {platform : Platform} {database after : Database} {call : TransitionCall} {event : EventRow}
  {calls : List Call}

theorem transition_recorded (ok : transition platform database call = .ok (event, after)) :
    Recorded platform database call event after := by
  simp only [transition, bind_ok, guard_ok] at ok
  obtain ⟨-, -, -, ok⟩ := ok
  split at ok
  · rename_i existing found
    simp only [bind_ok, guard_ok, pair_ok, not_not] at ok
    obtain ⟨same, rfl, rfl⟩ := ok
    exact .replayed found same
  · rename_i absent
    simp only [bind_ok, guard_ok, pair_ok, not_not, not_exists, not_and] at ok
    obtain ⟨current, evidence, artifacts, _, row, -, rfl, rfl⟩ := ok
    exact .appended absent current evidence artifacts row

theorem inserted_ok (ok : inserted platform envelope metadata = .ok event) :
    ∃ branchId strategyVersionId gateId, platform.textColumn envelope.branchId = .ok branchId ∧
      platform.textColumn envelope.strategyVersionId = .ok strategyVersionId ∧
      platform.textColumn envelope.gateId = .ok gateId ∧
      event = ⟨envelope.withColumns branchId strategyVersionId gateId metadata.jsonb,
        platform.envelopeHash envelope⟩ := by
  simp only [inserted, bind_ok, guard_ok, pure_ok] at ok
  obtain ⟨branchId, branch, strategyVersionId, strategy, gateId, gate, -, rfl⟩ := ok
  exact ⟨branchId, strategyVersionId, gateId, branch, strategy, gate, rfl⟩

/-- The JSON values of the call come back from `jsonb` columns equal but for the order of
fields, and its identifiers from `text` columns; a gate id is kept as `str` writes it. -/
structure RoundTrips (platform : Platform) (call : TransitionCall) : Prop where
  state : (Value.dict call.state.fields).jsonb.sorted = (Value.dict call.state.fields).sorted
  metadata : (Value.dict call.metadataFields.fields).jsonb.sorted =
    (Value.dict call.metadataFields.fields).sorted
  branch : ∀ column, platform.textColumn (call.state.fields.get "branch_id") = .ok column →
    textValue column = call.state.fields.get "branch_id"
  strategy : ∀ column, platform.textColumn (call.state.fields.get "strategy_version_id") = .ok column →
    textValue column = call.state.fields.get "strategy_version_id"
  gate : (call.state.fields.get "gate_id").jsonb = call.state.fields.get "gate_id"
  gateColumn : ∀ column, platform.textColumn (call.state.fields.get "gate_id") = .ok column →
    column = platform.gateColumn (call.state.fields.get "gate_id")

/-- What the auditor finds of the state that an event has recorded. -/
theorem stateAfter_recorded (call : TransitionCall) : ∃ state,
    stateAfter call.metadataAfter.jsonb.value = .ok state ∧
      Value.dict state = (Value.dict call.state.fields).jsonb ∧
      Fields.get state "gate_id" = (call.state.fields.get "gate_id").jsonb := by
  refine ⟨storedFields (Value.transformFields Value.restored storedFields call.state.fields), ?_, rfl, ?_⟩
  · have found : Fields.get (storedFields (Value.transformFields Value.restored storedFields
        call.metadataAfter.fields)) "state_after" = (Value.dict call.state.fields).jsonb := by
      rw [Fields.get_transform rfl (fun _ => storedFields_perm) call.metadataAfter.keyed.1]
      exact congrArg Value.jsonb Fields.get_set
    have whole : call.metadataAfter.jsonb.value =
        .dict (storedFields (Value.transformFields Value.restored storedFields call.metadataAfter.fields)) := by
      unfold Dict.jsonb Value.jsonb
      dsimp only
      rw [Value.transform]
    simp only [whole, stateAfter, found]
    rw [Value.jsonb, Value.transform]
  · exact Fields.get_transform rfl (fun _ => storedFields_perm) call.state.keyed.1

theorem metadata_kept (trips : RoundTrips platform call) :
    call.metadataAfter.jsonb.value.sorted = (Value.dict call.metadataAfter.fields).sorted := by
  have state := (Value.jsonb_kept call.state.keyed).mp trips.state
  have metadata := (Value.jsonb_kept call.metadataFields.keyed).mp trips.metadata
  exact (Value.jsonb_kept call.metadataAfter.keyed).mpr (Fields.every_set metadata state id)

theorem envelopeHash_congr (same : metadata.sorted = envelope.metadata.sorted) :
    platform.envelopeHash { envelope with metadata := metadata } = platform.envelopeHash envelope := by
  refine contentHash_congr ?_
  unfold Value.sorted at same ⊢
  simp only [Value.transform, Value.transformFields, EventColumns.fields, same]

theorem rebuilt_hash (trips : RoundTrips platform call)
    (row : inserted platform (call.envelope platform actual previous) call.metadataAfter = .ok event) :
    event.gateId = platform.gateColumn (call.state.fields.get "gate_id") ∧
      platform.envelopeHash (event.rebuilt (call.state.fields.get "gate_id")) = event.eventHash := by
  obtain ⟨branchId, strategyVersionId, gateId, branch, strategy, gate, rfl⟩ := inserted_ok row
  refine ⟨trips.gateColumn gateId gate, ?_⟩
  have rebuilt : EventRow.rebuilt ⟨(call.envelope platform actual previous).withColumns branchId
        strategyVersionId gateId call.metadataAfter.jsonb, platform.envelopeHash
        (call.envelope platform actual previous)⟩ (call.state.fields.get "gate_id") =
      { call.envelope platform actual previous with metadata := call.metadataAfter.jsonb.value } := by
    simp only [EventRow.rebuilt, EventColumns.withColumns, trips.branch branchId branch,
      trips.strategy strategyVersionId strategy]
    rfl
  rw [rebuilt]
  exact envelopeHash_congr (metadata_kept trips)

theorem auditEvent_appended (trips : RoundTrips platform call)
    (row : inserted platform (call.envelope platform (database.version call.key) database.head)
      call.metadataAfter = .ok event) :
    auditEvent platform (database.head, database.aggregates) event =
      .ok (event.eventHash, (database.append call event).aggregates) := by
  obtain ⟨gateId, hash⟩ := rebuilt_hash trips row
  obtain ⟨_, found, whole, gate⟩ := stateAfter_recorded call
  obtain ⟨_, _, _, -, -, -, columns⟩ := inserted_ok row
  have metadata : event.metadata = call.metadataAfter.jsonb := by rw [columns]; rfl
  have previous : event.previousHash = database.head := by rw [columns]; rfl
  have key : event.key = call.key := by rw [columns]; rfl
  have version : event.aggregateVersion = database.version call.key + 1 := by rw [columns]; rfl
  have prior : ((KeyedRows.find AggregateRow.key event.key database.aggregates).map
      AggregateRow.version).getD 0 = database.version call.key := by
    rw [key]
    rfl
  have kind : event.aggregateType = call.kind := congrArg Prod.fst key
  have aggregateId : event.aggregateId = call.aggregateId := congrArg Prod.snd key
  rw [auditEvent, metadata, found, ok_bind]
  dsimp only
  rw [gate, trips.gate, refuseIf_bind_of_not (not_not.mpr gateId),
    refuseIf_bind_of_not (by rw [previous, hash]; simp), prior,
    refuseIf_bind_of_not (not_not.mpr version), kind, aggregateId, version, whole]
  rfl

structure Holds (platform : Platform) (event : EventRow) (call : TransitionCall) : Prop where
  operationKey : event.operationKey = call.operationKey
  operationHash : event.operationHash = contentHash platform.hashing call.request
  key : event.key = call.key
  metadata : event.metadata = call.metadataAfter.jsonb

def Database.eventsOf (database : Database) (key : String × String) : List EventRow :=
  database.events.filter fun event => event.key = key

/-- What every run keeps of its log. -/
structure Intact (platform : Platform) (calls : List Call) (database : Database) : Prop where
  verified : auditEvents platform database.events = .ok (database.head, database.aggregates)
  versions : ∀ key, database.version key = (database.eventsOf key).length
  operationKeys : (database.events.map fun event => event.operationKey).Nodup
  issued : ∀ event ∈ database.events, ∃ call ∈ requested calls, Holds platform event call

theorem inserted_holds
    (row : inserted platform (call.envelope platform actual previous) call.metadataAfter = .ok event) :
    Holds platform event call := by
  obtain ⟨_, _, _, -, -, -, columns⟩ := inserted_ok row
  rw [columns]
  exact ⟨rfl, rfl, rfl, rfl⟩

theorem state_append (key : String × String) : (database.append call event).state key =
    if call.key = key then
      some ⟨call.kind, call.aggregateId, database.version call.key + 1, (Value.dict call.state.fields).jsonb⟩
    else database.state key :=
  find_upsert _

theorem version_append (key : String × String) : (database.append call event).version key =
    if call.key = key then database.version call.key + 1 else database.version key := by
  unfold Database.version
  rw [state_append]
  split <;> rfl

theorem eventsOf_append (key : String × String) : (database.append call event).eventsOf key =
    database.eventsOf key ++ if event.key = key then [event] else [] := by
  unfold Database.eventsOf Database.append
  rw [filter_append]
  split
  · rename_i same
    rw [filter_cons_of_pos (by simpa using same), filter_nil]
  · rename_i other
    rw [filter_cons_of_neg (by simpa using other), filter_nil]

theorem requested_append (calls : List Call) (call : TransitionCall) :
    requested (calls ++ [.transition call]) = requested calls ++ [call] := by
  simp [requested]

theorem intact_empty : Intact platform [] .empty where
  verified := rfl
  versions := fun _ => rfl
  operationKeys := .nil
  issued := by simp [Database.empty]

theorem Intact.append (intact : Intact platform calls database) (trips : RoundTrips platform call)
    (fresh : KeyedRows.find (fun event : EventRow => event.operationKey) call.operationKey
      database.events = none)
    (row : inserted platform (call.envelope platform (database.version call.key) database.head)
      call.metadataAfter = .ok event) :
    Intact platform (calls ++ [.transition call]) (database.append call event) := by
  have holds : Holds platform event call := inserted_holds row
  refine ⟨?_, fun key => ?_, ?_, fun other member => ?_⟩
  · have whole : auditEvents platform (database.events ++ [event]) =
        .ok (event.eventHash, (database.append call event).aggregates) := by
      have earlier := intact.verified
      rw [auditEvents] at earlier ⊢
      rw [foldlM_append, earlier, ok_bind, foldlM_cons, auditEvent_appended trips row]
      rfl
    have head : (database.append call event).head = event.eventHash := HashChain.head_append_one
    rw [head]
    exact whole
  · have before := intact.versions key
    rw [version_append, eventsOf_append, holds.key]
    split
    · rename_i same
      rw [same, before]
      simp
    · rw [before]
      simp
  · have new := find_none.mp fresh
    change ((database.events ++ [event]).map fun event => event.operationKey).Nodup
    refine distinct_insert intact.operationKeys ?_
    rw [holds.operationKey]
    exact find_none.mpr new
  · rw [requested_append]
    rcases mem_added member with older | newest
    · obtain ⟨earlier, asked, kept⟩ := intact.issued other older
      exact ⟨earlier, mem_append_left _ asked, kept⟩
    · rw [newest]
      exact ⟨call, mem_append_right _ mem_cons_self, holds⟩

theorem Intact.weaken (intact : Intact platform calls database) (more : List Call) :
    Intact platform (calls ++ more) database where
  verified := intact.verified
  versions := intact.versions
  operationKeys := intact.operationKeys
  issued := by
    intro event member
    obtain ⟨call, asked, holds⟩ := intact.issued event member
    rw [requested, filterMap_append]
    exact ⟨call, mem_append_left _ asked, holds⟩

theorem history_append (calls : List Call) (call : Call) :
    history platform (calls ++ [call]) = next (handle platform) (history platform calls) call := by
  rw [history, run_append]
  rfl

/-- The log is intact in every run whose values come back. -/
theorem history_intact (calls : List Call) (trips : ∀ call ∈ requested calls, RoundTrips platform call) :
    Intact platform calls (history platform calls) := by
  induction calls using reverseRecOn with
  | nil => exact intact_empty
  | append_singleton calls call ih =>
    have before : Intact platform calls (history platform calls) := by
      refine ih fun earlier asked => trips earlier ?_
      rw [requested, filterMap_append]
      exact mem_append_left _ asked
    rw [history_append]
    cases call with
    | artifact artifactId =>
      have kept := before.weaken [.artifact artifactId]
      exact ⟨kept.verified, kept.versions, kept.operationKeys, kept.issued⟩
    | evidence evidenceId =>
      have kept := before.weaken [.evidence evidenceId]
      exact ⟨kept.verified, kept.versions, kept.operationKeys, kept.issued⟩
    | transition call =>
      have whole : RoundTrips platform call := by
        refine trips call ?_
        rw [requested_append]
        exact mem_append_right _ mem_cons_self
      refine next_of_answered (fun after => Intact platform (calls ++ [.transition call]) after)
        (before.weaken _) fun answer after ok => ?_
      obtain ⟨⟨_, _⟩, done, same⟩ := map_ok.mp ok
      cases same
      cases transition_recorded done with
      | replayed => exact before.weaken _
      | appended fresh _ _ _ row => exact before.append whole fresh row

theorem Intact.audit_projecting {edited : Database} (intact : Intact platform calls database)
    (events : edited.events = database.events) (size : edited.aggregates.length = database.aggregates.length)
    (projects : ∀ row ∈ edited.aggregates, Projects database.aggregates row) :
    audit platform edited =
      .ok ⟨database.events.length, database.head, database.aggregates.length⟩ := by
  rw [audit, events, intact.verified, ok_bind]
  dsimp only
  rw [refuseIf_bind_of_not (not_not.mpr size), refuseIf_bind_of_not (by simpa using projects)]
  rfl

theorem Intact.audit_ok (intact : Intact platform calls database) : audit platform database =
    .ok ⟨database.events.length, database.head, database.aggregates.length⟩ :=
  intact.audit_projecting rfl rfl fun row member =>
    ⟨row, find_of_mem database.primaryKey member, rfl, Value.Equal.refl _⟩

/-- The call is answered with the event that is recorded for its key, which an earlier call
with the same content has written; nothing changes. -/
def Replays (platform : Platform) (earlier : List Call) (database : Database) (call : TransitionCall)
    (event : EventRow) (after : Database) : Prop :=
  after = database ∧ event ∈ database.events ∧ event.operationKey = call.operationKey ∧
    ∃ issued ∈ requested earlier, Holds platform event issued ∧ issued.request.sorted = call.request.sorted

structure Appends (platform : Platform) (database : Database) (call : TransitionCall) (event : EventRow)
    (after : Database) : Prop where
  fresh : ∀ other ∈ database.events, other.operationKey ≠ call.operationKey
  current : call.expectedVersion = database.version call.key
  holds : Holds platform event call
  events : after.events = database.events ++ [event]
  moved : ∃ row, after.state call.key = some row ∧ row.version = database.version call.key + 1 ∧
    row.state.sorted = (Value.dict call.state.fields).sorted
  others : ∀ key, key ≠ call.key → after.state key = database.state key

def Unfounded (database : Database) (call : TransitionCall) : Prop :=
  call.expectedVersion ≠ database.version call.key ∨
    (∃ evidence ∈ call.evidenceIds, evidence ∉ database.evidence) ∨
    ∃ artifact ∈ call.artifactIds, artifact ∉ database.artifacts

/-- The key is in the log with the event of a call that asked for something else. -/
def Conflicts (platform : Platform) (earlier : List Call) (database : Database) (call : TransitionCall) : Prop :=
  ∃ event ∈ database.events, event.operationKey = call.operationKey ∧
    ∃ issued ∈ requested earlier, Holds platform event issued ∧ issued.request.sorted ≠ call.request.sorted

/-- What becomes of a call that is made after some others. -/
structure Settles (platform : Platform) (earlier : List Call) (call : TransitionCall) : Prop where
  answered : ∀ event after, transition platform (history platform earlier) call = .ok (event, after) →
    Replays platform earlier (history platform earlier) call event after ∨
      Appends platform (history platform earlier) call event after
  unfounded : Unfounded (history platform earlier) call →
    next (handle platform) (history platform earlier) (.transition call) = history platform earlier
  conflicts : Conflicts platform earlier (history platform earlier) call →
    (∃ refusal, transition platform (history platform earlier) call = .error refusal) ∧
      next (handle platform) (history platform earlier) (.transition call) = history platform earlier

/-- Requests of one hash are equal but for the order of fields. -/
def NoCollision (platform : Platform) (calls : List Call) : Prop :=
  ∀ first ∈ requested calls, ∀ second ∈ requested calls,
    contentHash platform.hashing first.request = contentHash platform.hashing second.request →
      first.request.sorted = second.request.sorted

instance (platform : Platform) (calls : List Call) : Decidable (NoCollision platform calls) :=
  inferInstanceAs (Decidable (∀ _ ∈ _, _))

theorem answered_settles (intact : Intact platform earlier database)
    (trips : RoundTrips platform call)
    (apart : NoCollision platform (earlier ++ [.transition call]))
    (ok : transition platform database call = .ok (event, after)) :
    Replays platform earlier database call event after ∨ Appends platform database call event after := by
  cases transition_recorded ok with
  | replayed found same =>
    have member := find_mem found
    have named := find_key found
    obtain ⟨issued, asked, holds⟩ := intact.issued event member
    refine .inl ⟨rfl, member, named, issued, asked, holds, ?_⟩
    rw [NoCollision, requested_append] at apart
    exact apart issued (mem_append_left _ asked) call (mem_append_right _ mem_cons_self)
      (holds.operationHash.symm.trans same)
  | appended fresh current _ _ row =>
    refine .inr ⟨find_none.mp fresh, current, inserted_holds row, rfl, ?_, ?_⟩
    · exact ⟨_, (state_append call.key).trans (if_pos rfl), rfl, trips.state⟩
    · intro key other
      rw [state_append, if_neg (Ne.symm other)]

theorem next_transition (unchanged : ∀ event after, transition platform database call = .ok (event, after) →
    after = database) : next (handle platform) database (.transition call) = database := by
  refine next_of_answered (fun after => after = database) rfl fun answer after ok => ?_
  obtain ⟨⟨event, stored⟩, done, same⟩ := map_ok.mp ok
  cases same
  exact unchanged event stored done

theorem unfounded_unchanged (unfounded : Unfounded database call) :
    next (handle platform) database (.transition call) = database := by
  refine next_transition fun event after ok => ?_
  cases transition_recorded ok with
  | replayed => rfl
  | appended _ current evidence artifacts =>
    rcases unfounded with stale | ⟨unknown, named, absent⟩ | ⟨unknown, named, absent⟩
    · exact absurd current stale
    · exact absurd (evidence unknown named) absent
    · exact absurd (artifacts unknown named) absent

theorem Intact.only_event (intact : Intact platform calls database) (here : first ∈ database.events)
    (there : second ∈ database.events) (same : first.operationKey = second.operationKey) :
    first = second :=
  inj_on_of_nodup_map intact.operationKeys here there same

theorem conflicts_refused (intact : Intact platform earlier database)
    (apart : NoCollision platform (earlier ++ [.transition call]))
    (conflicts : Conflicts platform earlier database call) :
    ∃ refusal, transition platform database call = .error refusal := by
  obtain ⟨recorded, member, key, issued, asked, holds, differ⟩ := conflicts
  refine refused_of_not_ok fun ⟨event, after⟩ ok => ?_
  cases transition_recorded ok with
  | replayed found same =>
    have only := intact.only_event member (find_mem found) (key.trans (find_key found).symm)
    rw [NoCollision, requested_append] at apart
    refine differ (apart issued (mem_append_left _ asked) call
      (mem_append_right _ mem_cons_self) ?_)
    rw [← same, ← only, holds.operationHash]
  | appended fresh => exact find_none.mp fresh recorded member key

theorem call_settles
    (trips : ∀ other ∈ requested (earlier ++ [.transition call]), RoundTrips platform other)
    (apart : NoCollision platform (earlier ++ [.transition call])) :
    Settles platform earlier call := by
  rw [requested_append] at trips
  have intact : Intact platform earlier (history platform earlier) :=
    history_intact earlier fun other asked => trips other (mem_append_left _ asked)
  have whole := trips call (mem_append_right _ mem_cons_self)
  refine ⟨fun event after ok => answered_settles intact whole apart ok, unfounded_unchanged, fun conflicts => ?_⟩
  have refused := conflicts_refused intact apart conflicts
  refine ⟨refused, next_transition fun event after ok => ?_⟩
  obtain ⟨_, failed⟩ := refused
  rw [failed] at ok
  cases ok

/-- What is promised of a run. -/
structure Sound (platform : Platform) (calls : List Call) : Prop where
  operationKeys : ((history platform calls).events.map fun event => event.operationKey).Nodup
  versions : ∀ key, (history platform calls).version key = ((history platform calls).eventsOf key).length
  verified : audit platform (history platform calls) = .ok ⟨(history platform calls).events.length,
    (history platform calls).head, (history platform calls).aggregates.length⟩
  settled : ∀ earlier call later, calls = earlier ++ .transition call :: later → Settles platform earlier call

/-- In every run whose values come back from the database, every transition is answered from
the log, appended or refused without a trace, versions count events, and the log is verified. -/
theorem transitions_sound (platform : Platform) (calls : List Call)
    (trips : ∀ call ∈ requested calls, RoundTrips platform call) (apart : NoCollision platform calls) :
    Sound platform calls := by
  have intact := history_intact calls trips
  refine ⟨intact.operationKeys, intact.versions, intact.audit_ok, fun earlier call later cut => ?_⟩
  have involved : requested calls = requested (earlier ++ [.transition call]) ++ requested later := by
    rw [cut, requested, requested, requested, ← filterMap_append, append_assoc]
    rfl
  refine call_settles (fun other asked => trips other ?_) fun first here second there => apart first ?_ second ?_
  · rw [involved]
    exact mem_append_left _ asked
  · rw [involved]
    exact mem_append_left _ here
  · rw [involved]
    exact mem_append_left _ there

namespace Small

def written : Value → String
  | .text text => text
  | value => canonical Artifacts.Small.spelled value

def plain : Platform where
  hashing := Artifacts.Small.spelled
  str := written
  textColumn
    | .null => .ok none
    | .dict _ => .error .typeError
    | value => .ok (some (written value))

def gated (operationKey : String) (expectedVersion gateId : ℤ) : TransitionCall where
  actor := ⟨"evaluator", .evaluator⟩
  codeFingerprint := "sha256:code"
  fingerprint := "sha256:environment"
  capability := .gate
  kind := "candidate"
  aggregateId := "CAND-1"
  expectedVersion := expectedVersion
  state := ⟨[("gate_id", .int gateId)], by simp, trivial, trivial⟩
  eventType := "GATE_DECIDED"
  operationKey := operationKey
  taskId := "TASK-1"
  policyVersion := "1"
  evidenceIds := ["EVD-1"]
  artifactIds := []
  metadata := none
  topic := none
  eventId := "EVT-" ++ operationKey
  now := 0

theorem gated_trips (operationKey : String) (expectedVersion gateId : ℤ) :
    RoundTrips plain (gated operationKey expectedVersion gateId) where
  state := (Value.jsonb_kept (gated operationKey expectedVersion gateId).state.keyed).mpr
    ⟨trivial, trivial, trivial⟩
  metadata := rfl
  branch := by
    intro column kept
    cases kept
    rfl
  strategy := by
    intro column kept
    cases kept
    rfl
  gate := by
    have restored := int_kept gateId
    simpa [gated, Fields.get, KeyedRows.find, Value.jsonb, Value.transform, Value.restored] using restored
  gateColumn := by
    intro column kept
    cases kept
    rfl

def gates : List Call :=
  [.evidence "EVD-1", .transition (gated "G0" 0 0), .transition (gated "G1" 1 1), .transition (gated "G0" 0 0)]

end Small

theorem gates_sound : Sound Small.plain Small.gates := by
  refine transitions_sound Small.plain Small.gates (fun call asked => ?_) (by decide +kernel)
  simp only [Small.gates, requested, filterMap_cons, filterMap_nil, mem_cons,
    not_mem_nil, or_false] at asked
  rcases asked with rfl | rfl | rfl <;> exact Small.gated_trips _ _ _

end Liki.Audit
