import Liki.Audit.Transitions
import Liki.Library.EventLog

/-! What a verified audit says of a log. Its rows are chained by hashes of all their columns, so
two verified logs of one length with one head are the same log, and the tables of aggregates
hold what the last events say, as far as Python's `==` distinguishes values. -/
namespace Liki.Audit
open Checks Json List KeyedRows Prod Value

variable {platform : Platform} {database first second : Database} {record other : EventRow}
  {events : List EventRow} {past after : Reconstruction} {report : AuditReport}

/-- The gate id that the auditor puts in place of the column. -/
def EventRow.gate (record : EventRow) : Value :=
  match stateAfter record.metadata.value with
  | .ok state => Fields.get state "gate_id"
  | .error _ => .null

theorem texts_sorted (values : List String) :
    (EventColumns.texts values).transform id sortKeys = EventColumns.texts values := by
  rw [EventColumns.texts, transform]
  refine congrArg _ ?_
  induction values with
  | nil => rfl
  | cons _ _ ih => rw [map_cons, transformItems, ih]; rfl

theorem texts_inj : EventColumns.texts values = EventColumns.texts others ↔ values = others := by
  rw [EventColumns.texts, EventColumns.texts, list.injEq]
  exact (map_injective_iff.mpr fun _ _ => text.inj).eq_iff

theorem textValue_inj :
    (textValue column).transform id sortKeys = (textValue others).transform id sortKeys ↔
      column = others := by
  cases column <;> cases others <;> simp [textValue, transform]

theorem fields_eq {envelope others : Envelope}
    (same : (dict envelope.fields).sorted = (dict others.fields).sorted) :
    transformFields id sortKeys envelope.fields =
      transformFields id sortKeys others.fields := by
  have keys : (transformFields id sortKeys envelope.fields).map fst =
      (transformFields id sortKeys others.fields).map fst := by
    rw [transformFields_keys, transformFields_keys]
    rfl
  have distinct : ((transformFields id sortKeys envelope.fields).map fst).Nodup := by
    rw [transformFields_keys]
    simp [EventColumns.fields]
  rw [sorted, sorted, transform, transform, dict.injEq] at same
  exact (sortKeys_inj keys distinct).mp same

/-- Envelopes that are equal but for the order of fields are of one row, up to its hash. -/
theorem columns_eq (same : (dict (record.rebuilt record.gate).fields).sorted =
    (dict (other.rebuilt other.gate).fields).sorted)
    (gate : record.gateId = platform.gateColumn record.gate)
    (otherGate : other.gateId = platform.gateColumn other.gate) (hash : record.eventHash = other.eventHash) :
    record = other := by
  have columns := fields_eq same
  simp only [EventColumns.fields, transformFields, EventRow.rebuilt, EventColumns.withColumns,
    cons.injEq, mk.injEq, true_and, and_true, transform, id, texts_sorted, texts_inj,
    textValue_inj, text.injEq, int.injEq, datetime.injEq] at columns
  obtain ⟨_, _, _, _, _, _, _,
    actorType, taskId, branchId, strategyVersionId, artifactIds, evidenceIds, -, policyVersion, codeCommit,
    environmentFingerprint, metadata, previousHash, operationKey, operationHash⟩ := columns
  have stored : record.metadata = other.metadata :=
    Jsonb.ext (record.metadata.arranged.eq_of_sorted other.metadata.arranged metadata)
  have gates : record.gateId = other.gateId := by
    rw [gate, otherGate, EventRow.gate, EventRow.gate, stored]
  apply EventRow.ext <;> assumption

structure Checked (platform : Platform) (record : EventRow) : Prop where
  gate : record.gateId = platform.gateColumn record.gate
  hash : platform.envelopeHash (record.rebuilt record.gate) = record.eventHash

theorem auditEvent_ok (ok : auditEvent platform past record = .ok after) :
    ∃ state, stateAfter record.metadata.value = .ok state ∧ Checked platform record ∧
      record.previousHash = past.1 ∧ after = (record.eventHash, upsert AggregateRow.key
        ⟨record.aggregateType, record.aggregateId, record.aggregateVersion, .dict state⟩ past.2) := by
  simp only [auditEvent, bind_ok, guard_ok, pure_ok, not_not, not_or] at ok
  obtain ⟨state, found, gate, ⟨chained, hash⟩, -, rfl⟩ := ok
  have same : record.gate = Fields.get state "gate_id" := by rw [EventRow.gate, found]
  exact ⟨state, found, ⟨same ▸ gate, same ▸ hash⟩, chained, rfl⟩

theorem audited_chain (ok : events.foldlM (auditEvent platform) past = .ok after) :
    HashChain.Chained (fun record : EventRow => record.previousHash) EventRow.eventHash past.1 events ∧
      after.1 = HashChain.head EventRow.eventHash past.1 events ∧ ∀ record ∈ events, Checked platform record := by
  induction events generalizing past with
  | nil =>
    rw [foldlM_nil, pure_ok] at ok
    subst ok
    exact ⟨trivial, rfl, by simp⟩
  | cons _ _ ih =>
    rw [foldlM_cons, bind_ok] at ok
    obtain ⟨_, here, rest⟩ := ok
    obtain ⟨_, -, checked, chained, rfl⟩ := auditEvent_ok here
    obtain ⟨links, last, others⟩ := ih rest
    refine ⟨⟨chained, links⟩, last.trans HashChain.head_cons.symm, fun other member => ?_⟩
    rcases mem_cons.mp member with rfl | later
    · exact checked
    · exact others other later

/-- The aggregate is as the event has left it, as far as `==` distinguishes states. -/
def Leaves (row : AggregateRow) (event : EventRow) : Prop :=
  row.version = event.aggregateVersion ∧
    ∃ state, stateAfter event.metadata.value = .ok state ∧ (dict state).Equal row.state

def Database.lastEvent (database : Database) (key : String × String) : Option EventRow :=
  EventLog.latest (fun event => event.key = key) database.events

theorem reconstructed_last (ok : auditEvents platform events = .ok after) (key : String × String) :
    KeyedRows.Distinct AggregateRow.key after.2 ∧ Option.Rel Leaves
      (find AggregateRow.key key after.2) (EventLog.latest (fun event => event.key = key) events) := by
  induction events using reverseRecOn generalizing after with
  | nil =>
    rw [auditEvents, foldlM_nil, pure_ok] at ok
    subst ok
    exact ⟨.nil, .none⟩
  | append_singleton _ record ih =>
    rw [auditEvents, foldlM_append, bind_ok] at ok
    obtain ⟨_, earlier, last⟩ := ok
    rw [foldlM_cons, bind_ok] at last
    obtain ⟨_, here, done⟩ := last
    rw [foldlM_nil, pure_ok] at done
    subst done
    obtain ⟨state, found, -, -, rfl⟩ := auditEvent_ok here
    obtain ⟨distinct, before⟩ := ih earlier
    refine ⟨distinct_upsert distinct _, ?_⟩
    have named : AggregateRow.key ⟨record.aggregateType, record.aggregateId, record.aggregateVersion,
        .dict state⟩ = record.key := rfl
    rw [EventLog.latest_append_one, find_upsert, named]
    by_cases own : record.key = key
    · rw [if_pos own, if_pos own]
      exact .some ⟨rfl, state, found, Value.Equal.refl _⟩
    · rw [if_neg own, if_neg own]
      exact before

theorem audit_ok (verified : audit platform database = .ok report) : ∃ reconstructed,
    auditEvents platform database.events = .ok (report.headHash, reconstructed) ∧
      database.aggregates.length = reconstructed.length ∧
      (∀ row ∈ database.aggregates, Projects reconstructed row) ∧ report.events = database.events.length := by
  simp only [audit, bind_ok, guard_ok, pure_ok, not_not, not_exists, not_and] at verified
  obtain ⟨⟨_, reconstructed⟩, log, size, projects, rfl⟩ := verified
  exact ⟨reconstructed, log, size, projects, rfl⟩

theorem aggregates_last (verified : audit platform database = .ok report) (key : String × String) :
    Option.Rel Leaves (database.state key) (database.lastEvent key) := by
  obtain ⟨reconstructed, log, size, projects, -⟩ := audit_ok verified
  obtain ⟨-, last⟩ := reconstructed_last log key
  cases held : database.state key with
  | none =>
    have covered : ∀ row ∈ database.aggregates, row.key ∈ reconstructed.map AggregateRow.key := by
      intro row member
      obtain ⟨known, found, -⟩ := projects row member
      exact find_key found ▸ mem_map_of_mem (find_mem found)
    have absent : find AggregateRow.key key reconstructed = none :=
      find_none_of_covered database.primaryKey covered size.ge held
    rw [absent] at last
    exact last
  | some row =>
    obtain ⟨_, found, version, state⟩ := projects row (find_mem held)
    have named : row.key = key := find_key held
    rw [named] at found
    rw [Option.mem_def.mp found] at last
    cases left : database.lastEvent key with
    | none =>
      rw [Database.lastEvent] at left
      rw [left] at last
      cases last
    | some =>
      rw [Database.lastEvent] at left
      rw [left] at last
      cases last with
      | some leaves =>
        obtain ⟨same, after, stored, equal⟩ := leaves
        exact .some ⟨version.symm.trans same, after, stored, equal.trans state⟩

def HashesApart (platform : Platform) (events : List EventRow) : Prop :=
  ∀ record ∈ events, ∀ other ∈ events,
    platform.envelopeHash (record.rebuilt record.gate) = platform.envelopeHash (other.rebuilt other.gate) →
      (dict (record.rebuilt record.gate).fields).sorted =
        (dict (other.rebuilt other.gate).fields).sorted

def SameAggregates (first second : Database) : Prop :=
  ∀ key, Option.Rel (fun row other : AggregateRow => row.version = other.version ∧ row.state.Equal other.state)
    (first.state key) (second.state key)

/-- What two databases with one verified head have in common. -/
structure SameHistory (first second : Database) : Prop where
  events : first.events = second.events
  aggregates : SameAggregates first second
  last : ∀ key, Option.Rel Leaves (first.state key) (first.lastEvent key)
  lastOther : ∀ key, Option.Rel Leaves (second.state key) (second.lastEvent key)

theorem leaves_same {row same : AggregateRow} (left : Leaves row event) (right : Leaves same event) :
    row.version = same.version ∧ row.state.Equal same.state := by
  obtain ⟨version, _, found, equal⟩ := left
  obtain ⟨versionOther, _, foundOther, equalOther⟩ := right
  cases found.symm.trans foundOther
  exact ⟨version.trans versionOther.symm, equal.symm.trans equalOther⟩

theorem agree_of_last {row same : Option AggregateRow} (left : Option.Rel Leaves row last)
    (right : Option.Rel Leaves same last) :
    Option.Rel (fun row other : AggregateRow => row.version = other.version ∧ row.state.Equal other.state)
      row same := by
  cases left with
  | none =>
    cases right
    exact .none
  | some mine =>
    cases right with
    | some theirs => exact .some (leaves_same mine theirs)

/-- Verified databases with one head and one number of events have the same history. -/
theorem same_head_same_history (platform : Platform) (first second : Database)
    (report other : AuditReport) (apart : HashesApart platform (first.events ++ second.events))
    (verified : audit platform first = .ok report) (verifiedOther : audit platform second = .ok other)
    (head : report.headHash = other.headHash) (count : report.events = other.events) :
    SameHistory first second := by
  obtain ⟨_, log, -, -, size⟩ := audit_ok verified
  obtain ⟨_, logOther, -, -, sizeOther⟩ := audit_ok verifiedOther
  obtain ⟨chained, ends, checked⟩ := audited_chain log
  obtain ⟨chainedOther, endsOther, checkedOther⟩ := audited_chain logOther
  have determined : ∀ record ∈ first.events, ∀ other ∈ second.events, record.eventHash = other.eventHash →
      record = other ∧ record.previousHash = other.previousHash := by
    intro record here other there same
    have mine := checked record here
    have theirs := checkedOther other there
    have sorted := apart record (mem_append_left _ here) other (mem_append_right _ there)
      (mine.hash.trans (same.trans theirs.hash.symm))
    have equal : record = other := columns_eq sorted mine.gate theirs.gate same
    exact ⟨equal, equal ▸ rfl⟩
  have events : first.events = second.events := by
    have pairs := HashChain.agree_of_head determined chained chainedOther
      (size.symm.trans (count.trans sizeOther)) (ends.symm.trans (head.trans endsOther))
    exact forall₂_eq_eq_eq ▸ pairs
  refine ⟨events, fun key => ?_, aggregates_last verified, aggregates_last verifiedOther⟩
  have mine := aggregates_last verified key
  have theirs := aggregates_last verifiedOther key
  rw [Database.lastEvent, events] at mine
  exact agree_of_last mine theirs

namespace Small

def armed : TransitionCall := { gated "SWITCH" 0 0 with
  state := ⟨[("armed", .bool true)], by simp, trivial, trivial⟩ }

def switchCalls : List Call := [.evidence "EVD-1", .transition armed]

def original : Database := history plain switchCalls

def edited : Database := { original with
  aggregates := [⟨"candidate", "CAND-1", 1, .dict [("armed", .int 1)]⟩]
  primaryKey := nodup_singleton _ }

def verifiedReport : AuditReport := ⟨original.events.length, original.head, original.aggregates.length⟩

theorem armed_trips : RoundTrips plain armed where
  state := (jsonb_kept armed.state.keyed).mpr ⟨trivial, trivial, trivial⟩
  metadata := rfl
  branch := by
    intro column kept
    cases kept
    rfl
  strategy := by
    intro column kept
    cases kept
    rfl
  gate := rfl
  gateColumn := by
    intro column kept
    cases kept
    rfl

theorem original_intact : Intact plain switchCalls original := by
  refine history_intact switchCalls fun call asked => ?_
  simp only [switchCalls, requested, filterMap_cons, filterMap_nil, mem_singleton] at asked
  rw [asked]
  exact armed_trips

theorem edited_verified : audit plain edited = .ok verifiedReport :=
  original_intact.audit_projecting rfl (by decide +kernel) (by decide +kernel)

theorem original_apart : HashesApart plain (original.events ++ edited.events) := by
  obtain ⟨event, single⟩ : ∃ event, original.events = [event] := length_eq_one_iff.mp (by decide +kernel)
  have others : edited.events = [event] := single
  intro record here other there same
  simp only [single, others, mem_append, mem_singleton, or_self] at here there
  rw [here, there]

end Small

open Audit.Small

theorem edited_same_history : SameHistory original edited :=
  same_head_same_history plain original edited verifiedReport verifiedReport original_apart
    original_intact.audit_ok edited_verified rfl rfl

/-- A truth value that is edited to the number 1 goes unnoticed. -/
theorem truth_edited_unnoticed :
    HashesApart plain (original.events ++ edited.events) ∧ audit plain original = .ok verifiedReport ∧
      audit plain edited = .ok verifiedReport ∧
      (original.state ("candidate", "CAND-1")).map AggregateRow.state = some (.dict [("armed", .bool true)]) ∧
      (edited.state ("candidate", "CAND-1")).map AggregateRow.state = some (.dict [("armed", .int 1)]) :=
  ⟨original_apart, original_intact.audit_ok, edited_verified, by decide +kernel, by decide +kernel⟩

end Liki.Audit
