import Liki.Artifacts
import Liki.Library.HashChain

/-! The audit chain of the evented store, column by column. A transition hashes an envelope of
Python values and inserts it; the auditor reads the rows back, rebuilds every envelope from its
columns, hashes it again and reconstructs the aggregates from the events alone.

What a text column makes of a Python value and what `str` writes for one are parameters. -/
namespace Liki.Audit
open Checks CallSystem Json KeyedRows

/-- What the store takes from Python and PostgreSQL. -/
structure Platform where
  hashing : Hashing
  /-- `str`. -/
  str : Value → String
  /-- What a `text` column keeps of a value that is inserted, if it takes the value. -/
  textColumn : Value → Except ServiceError (Option String)

/-- The columns of `event_log` that are hashed. -/
@[ext] structure EventColumns (Text Object : Type) where
  eventId : String
  eventType : String
  occurredAt : Time
  aggregateType : String
  aggregateId : String
  aggregateVersion : ℤ
  principalId : String
  actorType : String
  taskId : String
  branchId : Text
  strategyVersionId : Text
  artifactIds : List String
  evidenceIds : List String
  gateId : Text
  policyVersion : String
  codeCommit : String
  environmentFingerprint : String
  metadata : Object
  previousHash : String
  operationKey : String
  operationHash : String
  deriving DecidableEq

abbrev Envelope := EventColumns Value Value

namespace EventColumns

variable {Text Object Text' Object' : Type}

/-- The same columns but for those that are not kept as they are given. -/
def withColumns (columns : EventColumns Text Object) (branchId strategyVersionId gateId : Text')
    (metadata : Object') : EventColumns Text' Object' where
  eventId := columns.eventId
  eventType := columns.eventType
  occurredAt := columns.occurredAt
  aggregateType := columns.aggregateType
  aggregateId := columns.aggregateId
  aggregateVersion := columns.aggregateVersion
  principalId := columns.principalId
  actorType := columns.actorType
  taskId := columns.taskId
  branchId := branchId
  strategyVersionId := strategyVersionId
  artifactIds := columns.artifactIds
  evidenceIds := columns.evidenceIds
  gateId := gateId
  policyVersion := columns.policyVersion
  codeCommit := columns.codeCommit
  environmentFingerprint := columns.environmentFingerprint
  metadata := metadata
  previousHash := columns.previousHash
  operationKey := columns.operationKey
  operationHash := columns.operationHash

/-- `(aggregate_type, aggregate_id)`. -/
def key (columns : EventColumns Text Object) : String × String :=
  (columns.aggregateType, columns.aggregateId)

/-- A `text[]` column. -/
def texts (values : List String) : Value := .list (values.map .text)

/-- The envelope as a `dict`. -/
def fields (envelope : Envelope) : Fields :=
  [("event_id", .text envelope.eventId), ("event_type", .text envelope.eventType),
    ("occurred_at_utc", .datetime envelope.occurredAt), ("aggregate_type", .text envelope.aggregateType),
    ("aggregate_id", .text envelope.aggregateId), ("aggregate_version", .int envelope.aggregateVersion),
    ("principal_id", .text envelope.principalId), ("actor_type", .text envelope.actorType),
    ("task_id", .text envelope.taskId), ("branch_id", envelope.branchId),
    ("strategy_version_id", envelope.strategyVersionId), ("artifact_ids", texts envelope.artifactIds),
    ("evidence_ids", texts envelope.evidenceIds), ("gate_id", envelope.gateId),
    ("policy_version", .text envelope.policyVersion), ("code_commit", .text envelope.codeCommit),
    ("environment_fingerprint", .text envelope.environmentFingerprint), ("metadata", envelope.metadata),
    ("previous_hash", .text envelope.previousHash), ("operation_key", .text envelope.operationKey),
    ("operation_hash", .text envelope.operationHash)]

end EventColumns

/-- `content_hash(envelope)`. -/
def Platform.envelopeHash (platform : Platform) (envelope : Envelope) : String :=
  contentHash platform.hashing (.dict envelope.fields)

/-- A row of `event_log`; its sequence is its position. -/
@[ext] structure EventRow extends EventColumns (Option String) Jsonb where
  eventHash : String
  deriving DecidableEq

structure AggregateRow where
  kind : String
  aggregateId : String
  version : ℤ
  state : Value

def AggregateRow.key (row : AggregateRow) : String × String := (row.kind, row.aggregateId)

/-- The tables that a transition and the auditor read. -/
structure Database where
  events : List EventRow
  aggregates : List AggregateRow
  /-- `artifact_id`s. -/
  artifacts : List String
  /-- `evidence_id`s. -/
  evidence : List String
  /-- Event and topic. -/
  outbox : List (String × String)
  /-- `PRIMARY KEY (aggregate_type,aggregate_id)`. -/
  primaryKey : KeyedRows.Distinct AggregateRow.key aggregates

namespace Database

def empty : Database := ⟨[], [], [], [], [], .nil⟩

/-- `state(conn, kind, aggregate_id)`. -/
def state (database : Database) (key : String × String) : Option AggregateRow :=
  find AggregateRow.key key database.aggregates

/-- The version of an aggregate, zero before its first event. -/
def version (database : Database) (key : String × String) : ℤ :=
  ((database.state key).map AggregateRow.version).getD 0

def head (database : Database) : String := HashChain.head EventRow.eventHash "GENESIS" database.events

end Database

/-- A call of `transition`, with the instant and the id that it is given. -/
structure TransitionCall where
  actor : Identity
  codeFingerprint : String
  /-- `self.fingerprint`. -/
  fingerprint : String
  capability : Capability
  kind : String
  aggregateId : String
  expectedVersion : ℤ
  state : Dict
  eventType : String
  operationKey : String
  taskId : String
  policyVersion : String
  evidenceIds : List String
  artifactIds : List String
  metadata : Option Dict
  topic : Option String
  eventId : String
  now : Time

namespace TransitionCall

variable (call : TransitionCall)

def key : String × String := (call.kind, call.aggregateId)

/-- `metadata or {}`. -/
def metadataFields : Dict := call.metadata.getD ⟨[], .nil, trivial⟩

/-- `request`. -/
def request : Value :=
  .dict [("kind", .text call.kind), ("id", .text call.aggregateId),
    ("expected_version", .int call.expectedVersion), ("state", .dict call.state.fields),
    ("event_type", .text call.eventType), ("actor", .text call.actor.principalId),
    ("task_id", .text call.taskId), ("policy_version", .text call.policyVersion),
    ("evidence", EventColumns.texts call.evidenceIds), ("artifacts", EventColumns.texts call.artifactIds),
    ("metadata", .dict call.metadataFields.fields)]

/-- `{**(metadata or {}), "state_after": state}`. -/
def metadataAfter : Dict where
  fields := call.metadataFields.fields.set "state_after" (.dict call.state.fields)
  keyed := Fields.keyed_set call.metadataFields.keyed call.state.keyed

/-- `envelope`. -/
def envelope (platform : Platform) (actual : ℤ) (previous : String) : Envelope where
  eventId := call.eventId
  eventType := call.eventType
  occurredAt := call.now
  aggregateType := call.kind
  aggregateId := call.aggregateId
  aggregateVersion := actual + 1
  principalId := call.actor.principalId
  actorType := if call.actor.role = .owner then "human" else "deterministic_service"
  taskId := call.taskId
  branchId := call.state.fields.get "branch_id"
  strategyVersionId := call.state.fields.get "strategy_version_id"
  artifactIds := call.artifactIds
  evidenceIds := call.evidenceIds
  gateId := call.state.fields.get "gate_id"
  policyVersion := call.policyVersion
  codeCommit := call.codeFingerprint
  environmentFingerprint := call.fingerprint
  metadata := .dict call.metadataAfter.fields
  previousHash := previous
  operationKey := call.operationKey
  operationHash := contentHash platform.hashing call.request

end TransitionCall

/-- The row that `RETURNING *` gives of an inserted envelope. -/
def inserted (platform : Platform) (envelope : Envelope) (metadata : Dict) : Except ServiceError EventRow := do
  let branchId ← platform.textColumn envelope.branchId
  let strategyVersionId ← platform.textColumn envelope.strategyVersionId
  let gateId ← platform.textColumn envelope.gateId
  refuseIf (¬(Value.dict metadata.fields).Every Artifacts.storableScalar
    fun keys => ∀ key ∈ keys, Char.ofNat 0 ∉ key.toList) .typeError
  return ⟨envelope.withColumns branchId strategyVersionId gateId metadata.jsonb, platform.envelopeHash envelope⟩

/-- A UNIQUE constraint of `event_log` but the one on operation keys, which are looked up before. -/
def Clashes (row other : EventRow) : Prop :=
  row.eventId = other.eventId ∨ row.eventHash = other.eventHash ∨
    (row.key = other.key ∧ row.aggregateVersion = other.aggregateVersion)

instance (row other : EventRow) : Decidable (Clashes row other) := inferInstanceAs (Decidable (_ ∨ _))

def Database.append (database : Database) (call : TransitionCall) (event : EventRow) : Database where
  events := database.events ++ [event]
  aggregates := upsert AggregateRow.key
    ⟨call.kind, call.aggregateId, database.version call.key + 1, (Value.dict call.state.fields).jsonb⟩
    database.aggregates
  artifacts := database.artifacts
  evidence := database.evidence
  -- an empty topic is no topic
  outbox := database.outbox ++
    ((call.topic.filter fun topic => topic ≠ "").map fun topic => (event.eventId, topic)).toList
  primaryKey := distinct_upsert database.primaryKey _

/-- `transition`: the event that is recorded under the operation key. -/
def transition (platform : Platform) (database : Database) (call : TransitionCall) :
    Except ServiceError (EventRow × Database) := do
  call.actor.requires call.capability
  refuseIf (call.kind = "" ∨ call.aggregateId = "" ∨ call.operationKey = "" ∨ call.taskId = "" ∨
    call.policyVersion = "") (.domain "INVALID_TRANSITION")
  match find (fun event : EventRow => event.operationKey) call.operationKey database.events with
  | some existing =>
    refuseIf (existing.operationHash ≠ contentHash platform.hashing call.request)
      (.domain "IDEMPOTENCY_CONFLICT")
    return (existing, database)
  | none =>
    let actual := database.version call.key
    refuseIf (call.expectedVersion ≠ actual) (.domain "CONCURRENT_MODIFICATION")
    refuseIf (∃ evidence ∈ call.evidenceIds, evidence ∉ database.evidence) (.domain "UNKNOWN_EVIDENCE")
    refuseIf (∃ artifact ∈ call.artifactIds, artifact ∉ database.artifacts) (.domain "UNKNOWN_ARTIFACT")
    let event ← inserted platform (call.envelope platform actual database.head) call.metadataAfter
    refuseIf (∃ other ∈ database.events, Clashes event other) (.constraint "event_log")
    return (event, database.append call event)

def textValue : Option String → Value
  | none => .null
  | some text => .text text

/-- `record["metadata"]["state_after"]`. -/
def stateAfter (metadata : Value) : Except ServiceError Fields :=
  match metadata with
  | .dict fields =>
    match Fields.get fields "state_after" with
    | .dict state => .ok state
    | _ => .error .typeError
  | _ => .error .typeError

/-- `str(gate_id) if gate_id is not None else None`. -/
def Platform.gateColumn (platform : Platform) (gateId : Value) : Option String :=
  if gateId = .null then none else some (platform.str gateId)

def EventRow.rebuilt (record : EventRow) (gateId : Value) : Envelope :=
  record.withColumns (textValue record.branchId) (textValue record.strategyVersionId) gateId
    record.metadata.value

/-- The last hash, and the aggregates as the events so far describe them. -/
abbrev Reconstruction := String × List AggregateRow

/-- One round of the loop over `event_log`. -/
def auditEvent (platform : Platform) (past : Reconstruction) (record : EventRow) :
    Except ServiceError Reconstruction := do
  let state ← stateAfter record.metadata.value
  let gateId := state.get "gate_id"
  refuseIf (record.gateId ≠ platform.gateColumn gateId) (.domain "AUDIT_GATE_PROJECTION_MISMATCH")
  refuseIf (record.previousHash ≠ past.1 ∨ platform.envelopeHash (record.rebuilt gateId) ≠ record.eventHash)
    (.domain "AUDIT_INTEGRITY_FAILURE")
  let priorVersion := ((find AggregateRow.key record.key past.2).map AggregateRow.version).getD 0
  refuseIf (record.aggregateVersion ≠ priorVersion + 1) (.domain "AUDIT_REVISION_GAP")
  return (record.eventHash, upsert AggregateRow.key
    ⟨record.aggregateType, record.aggregateId, record.aggregateVersion, .dict state⟩ past.2)

def auditEvents (platform : Platform) (events : List EventRow) : Except ServiceError Reconstruction :=
  events.foldlM (auditEvent platform) ("GENESIS", [])

/-- `reconstructed.get(key) == (version, state)`. -/
def Projects (reconstructed : List AggregateRow) (row : AggregateRow) : Prop :=
  ∃ known ∈ find AggregateRow.key row.key reconstructed,
    known.version = row.version ∧ known.state.Equal row.state

instance (reconstructed : List AggregateRow) (row : AggregateRow) : Decidable (Projects reconstructed row) :=
  inferInstanceAs (Decidable (∃ _ ∈ _, _))

/-- What a verified log is reported as. -/
structure AuditReport where
  events : ℕ
  headHash : String
  aggregates : ℕ

/-- `audit`: the report has the status VERIFIED. -/
def audit (platform : Platform) (database : Database) : Except ServiceError AuditReport := do
  let (headHash, reconstructed) ← auditEvents platform database.events
  refuseIf (database.aggregates.length ≠ reconstructed.length) (.domain "PROJECTION_DRIFT")
  refuseIf (∃ row ∈ database.aggregates, ¬Projects reconstructed row) (.domain "PROJECTION_DRIFT")
  return ⟨database.events.length, headHash, reconstructed.length⟩

end Liki.Audit
