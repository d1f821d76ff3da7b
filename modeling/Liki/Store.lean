import Liki.Core
import Liki.Library.Checks
import Liki.Library.KeyedRows

/-! The evented store that every service writes through. A transition appends one
event under an operation key and moves one aggregate to its next version. Each
call is one transaction under the advisory lock, so it is a function from a
store to a store, and an error leaves the caller with the store it had.

States, metadata, operation keys and artifact contents are parameters. A content
hash is represented by the content it is taken of, and a generated event or
artifact id by its position in the table. -/
namespace Liki
open Checks List KeyedRows

inductive ServiceError where
  /-- `DomainError(code)`. -/
  | domain (code : String)
  | value (message : String)
  | concurrentModification (message : String)
  | idempotencyConflict (message : String)
  /-- The database rejects a row: a CHECK, a UNIQUE or a key constraint. -/
  | constraint (column : String)
  /-- `decimal.InvalidOperation`. -/
  | invalidOperation
  /-- `int(None)`. -/
  | typeError
  deriving DecidableEq

inductive Role where
  | owner | operator | research | evaluator | sealedEvaluator | inference | scheduler | governance
  | paper | data | auditor
  deriving DecidableEq

inductive Capability where
  | read | stop | proposal | ownerDecision | incident | notification | artifact | research | task
  | evidence | gate | snapshot | sealed | inference | policy | paper | data
  deriving DecidableEq

/-- `CAPABILITIES`. -/
def Role.capabilities : Role → List Capability
  | .owner => [.read, .stop, .proposal, .ownerDecision, .incident, .notification]
  | .operator => [.read, .stop, .incident, .notification]
  | .research => [.read, .artifact, .research, .task]
  | .evaluator => [.read, .artifact, .evidence, .gate, .snapshot]
  | .sealedEvaluator => [.sealed, .artifact, .evidence, .gate, .snapshot]
  | .inference => [.read, .artifact, .inference]
  | .scheduler => [.read, .task, .incident, .notification]
  | .governance => [.read, .artifact, .proposal, .policy, .incident, .notification]
  | .paper => [.read, .artifact, .paper, .stop, .incident]
  | .data => [.read, .artifact, .evidence, .data]
  | .auditor => [.read]

structure Identity where
  principalId : String
  role : Role

/-- `require`. -/
def Identity.requires (identity : Identity) (capability : Capability) : Except ServiceError Unit :=
  refuseIf (capability ∉ identity.role.capabilities) (.domain "FORBIDDEN")

inductive StoreClassification where
  | «public» | internal | confidential | secret | sealed
  deriving DecidableEq

/-- The content that an operation hash is taken of. -/
structure TransitionRequest (State Metadata : Type) where
  kind : String
  aggregateId : String
  expectedVersion : ℕ
  state : State
  eventType : String
  principalId : String
  taskId : String
  policyVersion : String
  evidenceIds : List String
  artifactIds : List ℕ
  metadata : Option Metadata
  deriving DecidableEq

/-- A row of `event_log`: its operation hash is its request, and the version it
leads to is one more than the version it expected. -/
structure Event (State Metadata Key : Type) where
  operationKey : Key
  request : TransitionRequest State Metadata
  deriving DecidableEq

structure Aggregate (State : Type) where
  kind : String
  aggregateId : String
  version : ℕ
  state : State
  deriving DecidableEq

structure Artifact (Content : Type) where
  content : Content
  schemaName : String
  classification : StoreClassification
  producerId : String
  policyVersion : String
  deriving DecidableEq

structure Store (State Metadata Key Content : Type) where
  events : List (Event State Metadata Key)
  aggregates : List (Aggregate State)
  artifacts : List (Artifact Content)
  evidence : List String
  /-- Event and topic. -/
  outbox : List (ℕ × String)
  deriving DecidableEq

namespace Store

variable {State Metadata Key Content : Type}

def empty : Store State Metadata Key Content := ⟨[], [], [], [], []⟩

def Aggregate.key (aggregate : Aggregate State) : String × String :=
  (aggregate.kind, aggregate.aggregateId)

/-- `state(conn, kind, aggregate_id)`. -/
def state (store : Store State Metadata Key Content) (kind aggregateId : String) :
    Option (Aggregate State) :=
  find Aggregate.key (kind, aggregateId) store.aggregates

/-- The version of an aggregate, zero before its first event. -/
def version (store : Store State Metadata Key Content) (kind aggregateId : String) : ℕ :=
  ((store.state kind aggregateId).map Aggregate.version).getD 0

def keys (store : Store State Metadata Key Content) : List Key :=
  store.events.map Event.operationKey

def append (store : Store State Metadata Key Content) (key : Key)
    (request : TransitionRequest State Metadata) (topic : Option String) :
    Store State Metadata Key Content :=
  { store with
    events := store.events ++ [⟨key, request⟩]
    aggregates := upsert Aggregate.key
      ⟨request.kind, request.aggregateId, request.expectedVersion + 1, request.state⟩ store.aggregates
    outbox := store.outbox ++ (topic.map fun topic => (store.events.length, topic)).toList }

variable [DecidableEq State] [DecidableEq Metadata] [DecidableEq Key]

/-- `transition`. The request names the acting principal; an operation key that
is in the log answers with its event if the request is the same. -/
def transition (store : Store State Metadata Key Content) (actor : Identity) (capability : Capability)
    (key : Key) (request : TransitionRequest State Metadata) (topic : Option String) :
    Except ServiceError (Store State Metadata Key Content) := do
  actor.requires capability
  refuseIf (request.kind = "" ∨ request.aggregateId = "" ∨ request.taskId = "" ∨
    request.policyVersion = "") (.domain "INVALID_TRANSITION")
  match store.events.find? fun event => event.operationKey = key with
  | some existing =>
    refuseIf (existing.request ≠ request) (.domain "IDEMPOTENCY_CONFLICT")
    return store
  | none =>
    refuseIf (request.expectedVersion ≠ store.version request.kind request.aggregateId)
      (.domain "CONCURRENT_MODIFICATION")
    refuseIf (∃ evidence ∈ request.evidenceIds, evidence ∉ store.evidence) (.domain "UNKNOWN_EVIDENCE")
    refuseIf (∃ artifact ∈ request.artifactIds, store.artifacts.length ≤ artifact)
      (.domain "UNKNOWN_ARTIFACT")
    return store.append key request topic

/-- `put_artifact`: the id of the stored artifact, which is an earlier one's when
the producer stored the same content under the same schema before. -/
def putArtifact [DecidableEq Content] (store : Store State Metadata Key Content) (actor : Identity)
    (content : Content) (schemaName : String) (classification : StoreClassification)
    (policyVersion : String) : Except ServiceError (ℕ × Store State Metadata Key Content) := do
  actor.requires .artifact
  refuseIf (classification = .secret ∨ (classification = .sealed ∧ actor.role ≠ .sealedEvaluator))
    (.domain "FORBIDDEN_CLASSIFICATION")
  let same := fun artifact : Artifact Content =>
    artifact.producerId = actor.principalId ∧ artifact.content = content ∧
      artifact.schemaName = schemaName
  match store.artifacts.findIdx? fun artifact => same artifact with
  | some existing => return (existing, store)
  | none => return (store.artifacts.length, { store with
      artifacts := store.artifacts ++
        [⟨content, schemaName, classification, actor.principalId, policyVersion⟩] })

/-- `artifact`: what the caller may read. An artifact that is not intact is read back with
another hash. -/
def artifact (store : Store State Metadata Key Content) (intact : Content → Bool) (actor : Identity)
    (artifactId : ℕ) : Except ServiceError (Artifact Content) := do
  let row ← expect (store.artifacts[artifactId]?) (.domain "NOT_FOUND")
  refuseIf (row.classification = .sealed ∧ actor.role ≠ .sealedEvaluator) (.domain "NOT_FOUND")
  refuseIf (¬intact row.content) (.domain "ARTIFACT_CORRUPTED")
  return row

def Versioned (store : Store State Metadata Key Content) : Prop :=
  ∀ event ∈ store.events,
    event.request.expectedVersion < store.version event.request.kind event.request.aggregateId

omit [DecidableEq State] [DecidableEq Metadata] [DecidableEq Key]

variable {store : Store State Metadata Key Content} {key : Key}
  {request : TransitionRequest State Metadata} {topic : Option String}

theorem versioned_empty : (empty : Store State Metadata Key Content).Versioned := by
  simp [Versioned, empty]

@[simp] theorem keys_append : (store.append key request topic).keys = store.keys ++ [key] := by
  simp [keys, append]

@[simp] theorem artifacts_append : (store.append key request topic).artifacts = store.artifacts := rfl

theorem state_append (kind aggregateId : String) :
    (store.append key request topic).state kind aggregateId =
      if request.kind = kind ∧ request.aggregateId = aggregateId then
        some ⟨request.kind, request.aggregateId, request.expectedVersion + 1, request.state⟩
      else store.state kind aggregateId := by
  simp only [state, append, find_upsert, Aggregate.key, Prod.mk.injEq]

theorem version_append (kind aggregateId : String) :
    (store.append key request topic).version kind aggregateId =
      if request.kind = kind ∧ request.aggregateId = aggregateId then request.expectedVersion + 1
      else store.version kind aggregateId := by
  unfold version
  rw [state_append]
  split <;> simp

theorem version_le_append (kind aggregateId : String)
    (current : request.expectedVersion = store.version request.kind request.aggregateId) :
    store.version kind aggregateId ≤ (store.append key request topic).version kind aggregateId := by
  rw [version_append]
  split
  · rename_i same
    rw [current, same.1, same.2]
    omega
  · exact le_rfl

theorem Versioned.append (versioned : store.Versioned) (key : Key) (topic : Option String)
    (current : request.expectedVersion = store.version request.kind request.aggregateId) :
    (store.append key request topic).Versioned := by
  intro event member
  rw [version_append]
  rcases mem_added member with older | newest
  · have behind := versioned event older
    split
    · rename_i same
      rw [current, same.1, same.2]
      omega
    · exact behind
  · rw [newest]
    simp

inductive Recorded (store : Store State Metadata Key Content) (key : Key)
    (request : TransitionRequest State Metadata) (topic : Option String) :
    Store State Metadata Key Content → Prop where
  | replayed {event : Event State Metadata Key} (member : event ∈ store.events)
      (named : event.operationKey = key) (same : event.request = request) :
      Recorded store key request topic store
  | appended (fresh : key ∉ store.keys)
      (current : request.expectedVersion = store.version request.kind request.aggregateId) :
      Recorded store key request topic (store.append key request topic)

variable {after stored : Store State Metadata Key Content} {actor : Identity}
  {classification : StoreClassification} {content : Content} {policyVersion schemaName : String}
  {capability : Capability} {event : Event State Metadata Key}

theorem Recorded.appended_of_current (recorded : Recorded store key request topic after)
    (versioned : store.Versioned)
    (current : request.expectedVersion = store.version request.kind request.aggregateId) :
    after = store.append key request topic := by
  cases recorded with
  | replayed member _ same =>
    have behind := versioned _ member
    rw [same, current] at behind
    exact absurd behind (lt_irrefl _)
  | appended => rfl

theorem Recorded.versioned (recorded : Recorded store key request topic after)
    (versioned : store.Versioned) : after.Versioned := by
  cases recorded with
  | replayed => exact versioned
  | appended _ current => exact versioned.append key topic current

theorem Recorded.version_le (recorded : Recorded store key request topic after)
    (kind aggregateId : String) :
    store.version kind aggregateId ≤ after.version kind aggregateId := by
  cases recorded with
  | replayed => exact le_rfl
  | appended _ current => exact version_le_append kind aggregateId current

theorem Recorded.mem_events (recorded : Recorded store key request topic after)
    (member : event ∈ after.events) : event ∈ store.events ∨ event.request = request := by
  cases recorded with
  | replayed => exact .inl member
  | appended =>
    rcases mem_added member with older | newest
    · exact .inl older
    · exact .inr (by rw [newest])

theorem putArtifact_cases [DecidableEq Content] {artifact : ℕ}
    (ok : store.putArtifact actor content schemaName classification policyVersion =
      .ok (artifact, stored)) :
    (stored = store ∧ (store.artifacts.findIdx? fun held => held.producerId = actor.principalId ∧
        held.content = content ∧ held.schemaName = schemaName) = some artifact) ∨
      (artifact = store.artifacts.length ∧ (store.artifacts.findIdx? fun held =>
          held.producerId = actor.principalId ∧ held.content = content ∧
            held.schemaName = schemaName) = none ∧
        stored = { store with artifacts := store.artifacts ++
          [⟨content, schemaName, classification, actor.principalId, policyVersion⟩] }) := by
  simp only [putArtifact, bind_ok, guard_ok] at ok
  obtain ⟨-, -, -, ok⟩ := ok
  split at ok
  · rename_i existing found
    simp only [pair_ok] at ok
    obtain ⟨rfl, rfl⟩ := ok
    exact .inl ⟨rfl, found⟩
  · rename_i absent
    simp only [pair_ok] at ok
    obtain ⟨rfl, rfl⟩ := ok
    exact .inr ⟨rfl, absent, rfl⟩

theorem putArtifact_ok [DecidableEq Content] {artifact : ℕ}
    (ok : store.putArtifact actor content schemaName classification policyVersion =
      .ok (artifact, stored)) :
    stored.events = store.events ∧ stored.aggregates = store.aggregates ∧
      stored.evidence = store.evidence ∧ stored.outbox = store.outbox ∧
      artifact < stored.artifacts.length := by
  rcases putArtifact_cases ok with ⟨rfl, found⟩ | ⟨rfl, -, rfl⟩
  · exact ⟨rfl, rfl, rfl, rfl, (findIdx?_eq_some_iff_getElem.mp found).1⟩
  · exact ⟨rfl, rfl, rfl, rfl, by simp⟩

theorem putArtifact_grows [DecidableEq Content] {artifact : ℕ}
    (ok : store.putArtifact actor content schemaName classification policyVersion =
      .ok (artifact, stored)) : store.artifacts <+: stored.artifacts := by
  rcases putArtifact_cases ok with ⟨rfl, -⟩ | ⟨-, -, rfl⟩
  · exact prefix_refl _
  · exact prefix_append _ _

theorem putArtifact_accepts [DecidableEq Content] (store : Store State Metadata Key Content)
    (content : Content) (schemaName policyVersion : String)
    (permitted : Capability.artifact ∈ actor.role.capabilities) :
    ∃ artifact stored, store.putArtifact actor content schemaName .internal policyVersion =
      .ok (artifact, stored) := by
  unfold putArtifact Identity.requires
  rw [refuseIf_bind_of_not (by simpa using permitted), refuseIf_bind_of_not (by simp)]
  dsimp only
  split
  · exact ⟨_, _, rfl⟩
  · exact ⟨_, _, rfl⟩

variable [DecidableEq State] [DecidableEq Metadata] [DecidableEq Key]

/-- At the current version an operation key can be used once: the recorded
request expected an earlier version, so the new one never equals it. -/
theorem transition_at_current (versioned : store.Versioned)
    (permitted : capability ∈ actor.role.capabilities)
    (named : request.kind ≠ "" ∧ request.aggregateId ≠ "" ∧ request.taskId ≠ "" ∧
      request.policyVersion ≠ "")
    (current : request.expectedVersion = store.version request.kind request.aggregateId)
    (evidence : request.evidenceIds = [])
    (artifacts : ∀ artifact ∈ request.artifactIds, artifact < store.artifacts.length) :
    store.transition actor capability key request topic =
      if key ∈ store.keys then .error (.domain "IDEMPOTENCY_CONFLICT")
      else .ok (store.append key request topic) := by
  unfold transition Identity.requires
  rw [refuseIf_bind_of_not (by simpa using permitted), refuseIf_bind_of_not (by simpa using named)]
  cases found : store.events.find? fun event => event.operationKey = key with
  | some existing =>
    have member := mem_of_find?_eq_some found
    have same : existing.operationKey = key := by simpa using find?_some found
    have used : key ∈ store.keys := same ▸ mem_map_of_mem member
    have differs : existing.request ≠ request := by
      intro equal
      have behind := versioned existing member
      rw [equal, current] at behind
      exact lt_irrefl _ behind
    rw [if_pos used]
    exact refuseIf_bind_of differs _
  | none =>
    have fresh : key ∉ store.keys := by
      intro used
      obtain ⟨event, member, same⟩ := mem_map.mp used
      have absent := find?_eq_none.mp found event member
      exact absent (by simpa using same)
    rw [if_neg fresh, refuseIf_bind_of_not (by simpa using current),
      refuseIf_bind_of_not (by simp [evidence]), refuseIf_bind_of_not (by simpa using artifacts)]
    rfl

theorem transition_recorded (ok : store.transition actor capability key request topic = .ok after) :
    Recorded store key request topic after := by
  simp only [transition, bind_ok, guard_ok] at ok
  obtain ⟨-, -, -, ok⟩ := ok
  split at ok
  · rename_i existing found
    simp only [bind_ok, guard_ok, pure_ok, not_not] at ok
    obtain ⟨same, rfl⟩ := ok
    exact .replayed (mem_of_find?_eq_some found) (by simpa using find?_some found) same
  · rename_i absent
    simp only [bind_ok, guard_ok, pure_ok, not_not] at ok
    obtain ⟨current, -, -, rfl⟩ := ok
    refine .appended (fun used => ?_) current
    obtain ⟨event, member, named⟩ := mem_map.mp used
    exact find?_eq_none.mp absent event member (by simpa using named)

theorem transition_named (ok : store.transition actor capability key request topic = .ok after) :
    request.aggregateId ≠ "" := by
  simp only [transition, Identity.requires, bind_ok, guard_ok, not_or] at ok
  obtain ⟨-, ⟨-, named, -⟩, -⟩ := ok
  exact named

theorem transition_ok (versioned : store.Versioned)
    (current : request.expectedVersion = store.version request.kind request.aggregateId)
    (ok : store.transition actor capability key request topic = .ok after) :
    request.aggregateId ≠ "" ∧ key ∉ store.keys ∧ after = store.append key request topic := by
  simp only [transition, Identity.requires, bind_ok, guard_ok, not_or] at ok
  obtain ⟨-, ⟨-, named, -⟩, ok⟩ := ok
  refine ⟨named, ?_⟩
  split at ok
  · rename_i existing found
    simp only [bind_ok, guard_ok, not_not] at ok
    have behind := versioned existing (mem_of_find?_eq_some found)
    rw [ok.1, current] at behind
    exact absurd behind (lt_irrefl _)
  · rename_i absent
    simp only [bind_ok, guard_ok, pure_ok] at ok
    refine ⟨?_, ok.2.2.2.symm⟩
    intro used
    obtain ⟨event, member, same⟩ := mem_map.mp used
    exact find?_eq_none.mp absent event member (by simpa using same)

theorem transition_found (ok : store.transition actor capability key request topic = .ok after) :
    after.events.find? (fun event => event.operationKey = key) = some ⟨key, request⟩ := by
  simp only [transition, bind_ok, guard_ok] at ok
  obtain ⟨-, -, -, ok⟩ := ok
  split at ok
  · rename_i existing found
    simp only [bind_ok, guard_ok, pure_ok, not_not] at ok
    obtain ⟨rfl, rfl⟩ := ok
    have named : existing.operationKey = key := by simpa using find?_some found
    rw [found, ← named]
  · rename_i absent
    simp only [bind_ok, guard_ok, pure_ok] at ok
    obtain ⟨-, -, -, rfl⟩ := ok
    simp [append, find?_append, absent]

theorem transition_again (permitted : actor.requires capability = .ok ())
    (named : ¬(request.kind = "" ∨ request.aggregateId = "" ∨ request.taskId = "" ∨ request.policyVersion = ""))
    (found : store.events.find? (fun event => event.operationKey = key) = some ⟨key, request⟩) :
    store.transition actor capability key request topic = .ok store := by
  unfold transition
  rw [permitted, ok_bind, refuseIf_bind_of_not named, found]
  exact refuseIf_bind_of_not (not_not.mpr rfl) _

theorem transition_same
    (found : store.events.find? (fun event => event.operationKey = key) = some event)
    (ok : store.transition actor capability key request topic = .ok after) :
    event.request = request := by
  simp only [transition, found, bind_ok, guard_ok, not_not] at ok
  obtain ⟨-, -, -, same, -⟩ := ok
  exact same

end Store

end Liki
