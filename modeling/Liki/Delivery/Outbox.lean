import Liki.Library.CallSystem
import Liki.Store
import Mathlib.Data.List.MinMax
import Mathlib.Data.Prod.Lex

/-! The outbox: rows that are queued with an event, handed to a sender under a lease, and concluded by
the sender. Every operation is one transaction behind the advisory lock, with the instant at which it
started and the reading of the clock behind the lock. The status of a row stands in the row and in its
aggregate, which also keeps who delivers it and what came out of it. A generated lease token is
represented by the number of the event that is written with it. -/
namespace Liki.Delivery
open Checks CallSystem

/-- The instants of a transaction. -/
structure Clock where
  /-- `now()`. -/
  start : Time
  /-- `utcnow()`. -/
  reading : Time

inductive Urgency where
  | critical | high | normal | digest
  deriving DecidableEq

inductive NotificationClass where
  | «public» | internal
  deriving DecidableEq

structure Notification where
  deduplicationKey : String
  urgency : Urgency
  classification : NotificationClass
  recipientRef : String
  title : String
  message : String
  requiredAction : Option String
  /-- A deadline without a zone has no instant. -/
  deadlineAt : Option (Option Time)
  objectId : Option String
  deriving DecidableEq

inductive DeliveryFailure where
  | transient | permanent | unknownDelivery
  deriving DecidableEq

/-- What a sender reports, which the result hash is taken of. -/
structure DeliveryResult where
  receipt : Option String
  failure : Option DeliveryFailure
  retryAfter : ℤ
  deriving DecidableEq

structure DeliveryLease where
  outboxId : String
  leaseToken : ℕ
  topic : String
  payload : Option String
  attempt : ℕ
  deriving DecidableEq

inductive DeliveryStatus where
  | pending | leased | delivered | quarantined
  deriving DecidableEq

/-- The state of the aggregate of a row; the receipt and the failure are those of the result. -/
structure DeliveryState where
  status : DeliveryStatus
  outboxId : String
  sourceEventId : ℕ
  attempts : ℕ
  leaseToken : Option ℕ
  workerId : Option String
  result : Option DeliveryResult
  deriving DecidableEq

inductive OutboxAggregate where
  | delivery (state : DeliveryState)
  | notification (content : Notification)
  | other (text : String)
  deriving DecidableEq

/-- An operation key; a generated one is the number of its event. -/
inductive OutboxKey where
  | notify (deduplicationKey : String)
  | delivery (number : ℕ)
  | other (text : String)
  deriving DecidableEq

abbrev OutboxStore := Store OutboxAggregate Unit OutboxKey Unit
abbrev OutboxTransition := TransitionRequest OutboxAggregate Unit

/-- A row of `notification_records`. -/
structure NotificationRecord where
  notificationId : String
  content : Notification

/-- A row of `transactional_outbox`. -/
structure OutboxRow where
  outboxId : String
  eventId : ℕ
  topic : String
  /-- `payload["notification_id"]`. -/
  payload : Option String
  status : DeliveryStatus
  attempts : ℕ
  availableAt : Time
  leaseToken : Option ℕ
  leaseExpiresAt : Option Time

/-- A row of `notification_deliveries`. -/
structure DeliveryRecord where
  notificationId : String
  outboxId : String
  providerMessageId : String

structure OutboxState where
  store : OutboxStore
  records : List NotificationRecord
  rows : List OutboxRow
  deliveries : List DeliveryRecord

namespace OutboxState

def empty : OutboxState := ⟨.empty, [], [], []⟩

variable (state : OutboxState)

def findRow (outboxId : String) : Option OutboxRow := KeyedRows.find OutboxRow.outboxId outboxId state.rows

/-- The state of the aggregate of a row. -/
def current (outboxId : String) : Option DeliveryState :=
  match state.store.state "outbox_delivery" outboxId with
  | some ⟨_, _, _, .delivery delivery⟩ => some delivery
  | _ => none

def updateRow (outboxId : String) (change : OutboxRow → OutboxRow) : OutboxState :=
  { state with rows := KeyedRows.update OutboxRow.outboxId outboxId change state.rows }

/-- `INSERT INTO transactional_outbox`. -/
def insertRow (outboxId : String) (eventId : ℕ) (topic : String) (payload : Option String)
    (instant : Time) :
    Except ServiceError OutboxState := do
  refuseIf ((state.findRow outboxId).isSome) (.constraint "outbox_id")
  return { state with rows := state.rows ++ [⟨outboxId, eventId, topic, payload, .pending, 0, instant, none, none⟩] }

end OutboxState

def seconds (count : ℤ) : Duration := 1000000 * count

def telegramTopic : String := "telegram.notification"

/-- The ids that `notify` gives. -/
structure NotifyIds where
  notificationId : String
  outboxId : String

def notificationRequest (actor : Identity) (notification : Notification) (notificationId : String) :
    OutboxTransition where
  kind := "notification"
  aggregateId := notificationId
  expectedVersion := 0
  state := .notification notification
  eventType := "NOTIFICATION_QUEUED"
  principalId := actor.principalId
  taskId := (notification.objectId.filter fun objectId => objectId ≠ "").getD notificationId
  policyVersion := "notification-v1"
  evidenceIds := []
  artifactIds := []
  metadata := none

/-- `notify`. -/
def notify (state : OutboxState) (actor : Identity) (notification : Notification) (ids : NotifyIds)
    (clock : Clock) :
    Except ServiceError (String × OutboxState) := do
  actor.requires .notification
  refuseIf (notification.deadlineAt = some none) (.domain "UTC_REQUIRED")
  match state.records.find? fun record => record.content.deduplicationKey =
    notification.deduplicationKey with
  | some previous =>
    refuseIf (previous.content ≠ notification) (.domain "IDEMPOTENCY_CONFLICT")
    return (previous.notificationId, state)
  | none =>
    let store ← state.store.transition actor .notification (.notify notification.deduplicationKey)
      (notificationRequest actor notification ids.notificationId) none
    refuseIf (∃ record ∈ state.records, record.notificationId = ids.notificationId)
      (.constraint "notification_id")
    let noted : OutboxState := { state with
      store
      records := state.records ++ [⟨ids.notificationId, notification⟩] }
    let after ← noted.insertRow ids.outboxId state.store.events.length telegramTopic
      (some ids.notificationId) clock.start
    return (ids.notificationId, after)

def deliveryRequest (actor : Identity) (version : ℕ) (after : DeliveryState) (eventType : String) :
    OutboxTransition where
  kind := "outbox_delivery"
  aggregateId := after.outboxId
  expectedVersion := version
  state := .delivery after
  eventType := eventType
  principalId := actor.principalId
  taskId := after.outboxId
  policyVersion := "delivery-v1"
  evidenceIds := []
  artifactIds := []
  metadata := none

structure DeliveryMetadata where
  leaseToken : Option ℕ
  workerId : Option String
  result : Option DeliveryResult

/-- `_transition`. -/
def deliveryTransition (state : OutboxState) (actor : Identity) (row : OutboxRow) (status : DeliveryStatus)
    (eventType : String) (metadata : DeliveryMetadata) : Except ServiceError OutboxState := do
  let after : DeliveryState :=
    ⟨status, row.outboxId, row.eventId, row.attempts, metadata.leaseToken, metadata.workerId,
      metadata.result⟩
  let store ← state.store.transition actor .notification (.delivery state.store.events.length)
    (deliveryRequest actor (state.store.version "outbox_delivery" row.outboxId) after eventType) none
  return { state with store }

def OutboxRow.Expired (instant : Time) (row : OutboxRow) : Prop :=
  row.status = .leased ∧ ∃ expires ∈ row.leaseExpiresAt, expires ≤ instant

instance (instant : Time) : DecidablePred (OutboxRow.Expired instant) :=
    fun _ => inferInstanceAs (Decidable (_ ∧ _))

/-- One round of the loop over rows whose sender is lost. -/
def quarantine (actor : Identity) (state : OutboxState) (row : OutboxRow) :
    Except ServiceError OutboxState := do
  let after ← deliveryTransition state actor row .quarantined "DELIVERY_LEASE_EXPIRED" ⟨none, none, none⟩
  return after.updateRow row.outboxId fun row => { row with status := .quarantined }

def OutboxState.nextRow (state : OutboxState) (topics : List String) (instant : Time) (rank : String → ℕ) :
    Option OutboxRow :=
  (state.rows.filter fun row => row.topic ∈ topics ∧ row.status = .pending ∧
    row.availableAt ≤ instant).argmin
    fun row => toLex (row.availableAt, rank row.outboxId)

/-- `claim`. -/
def claim (state : OutboxState) (actor : Identity) (topics : List String) (leaseSeconds : ℤ) (clock : Clock)
    (rank : String → ℕ) : Except ServiceError (Option DeliveryLease × OutboxState) := do
  refuseIf (topics = [] ∨ ¬(1 ≤ leaseSeconds ∧ leaseSeconds ≤ 300)) (.domain "INVALID_DELIVERY_LEASE")
  actor.requires .notification
  let expired := state.rows.filter fun row => row.topic ∈ topics ∧ row.Expired clock.start
  let state ← expired.foldlM (quarantine actor) state
  match state.nextRow topics clock.start rank with
  | none => return (none, state)
  | some row =>
    let fence := state.store.events.length
    let after ← deliveryTransition state actor row .leased "DELIVERY_STARTED"
      ⟨some fence, some actor.principalId, none⟩
    let after := after.updateRow row.outboxId fun row =>
      { row with
        status := .leased
        leaseToken := some fence
        leaseExpiresAt := some (clock.reading + seconds leaseSeconds)
        attempts := row.attempts + 1 }
    return (some ⟨row.outboxId, fence, row.topic, row.payload, row.attempts + 1⟩, after)

def DeliveryResult.Valid (result : DeliveryResult) : Prop :=
  result.receipt.isNone ≠ result.failure.isNone ∧ result.receipt ≠ some "" ∧ 1 ≤ result.retryAfter ∧
    result.retryAfter ≤ 86400

instance : DecidablePred DeliveryResult.Valid := fun _ => inferInstanceAs (Decidable (_ ∧ _ ∧ _ ∧ _))

def concludedStatus (row : OutboxRow) (result : DeliveryResult) : DeliveryStatus :=
  if result.receipt.isSome then .delivered
  else if result.failure = some .transient ∧ row.attempts < 5 then .pending
  else .quarantined

def concludedType : DeliveryStatus → String
  | .pending => "DELIVERY_PENDING"
  | .leased => "DELIVERY_LEASED"
  | .delivered => "DELIVERY_DELIVERED"
  | .quarantined => "DELIVERY_QUARANTINED"

/-- `INSERT INTO notification_deliveries`, for a receipt of a notification. -/
def insertDelivery (state : OutboxState) (row : OutboxRow) (result : DeliveryResult) :
    Except ServiceError OutboxState :=
  match result.receipt with
  | none => .ok state
  | some receipt =>
    if row.topic = telegramTopic then do
      let notificationId ← expect row.payload .typeError
      refuseIf (∃ delivery ∈ state.deliveries, delivery.notificationId = notificationId ∨
        delivery.outboxId = row.outboxId)
        (.constraint "notification_deliveries")
      return { state with deliveries := state.deliveries ++ [⟨notificationId, row.outboxId, receipt⟩] }
    else .ok state

def conclude (state : OutboxState) (actor : Identity) (row : OutboxRow) (result : DeliveryResult)
    (clock : Clock) :
    Except ServiceError (DeliveryStatus × OutboxState) := do
  refuseIf (row.status ≠ .leased ∨ ¬∃ expires ∈ row.leaseExpiresAt, clock.reading < expires)
    (.domain "STALE_DELIVERY_LEASE")
  let status := concludedStatus row result
  let after ← deliveryTransition state actor row status (concludedType status)
    ⟨none, some actor.principalId, some result⟩
  let after := after.updateRow row.outboxId fun row =>
    { row with
      status := status
      availableAt := clock.reading + seconds (max result.retryAfter (2 ^ row.attempts)) }
  let after ← insertDelivery after row result
  return (status, after)

/-- `finish`. -/
def finish (state : OutboxState) (actor : Identity) (outboxId : String) (leaseToken : ℕ)
    (result : DeliveryResult)
    (clock : Clock) : Except ServiceError (DeliveryStatus × OutboxState) := do
  refuseIf (¬result.Valid) (.domain "INVALID_DELIVERY_RESULT")
  actor.requires .notification
  let row ← expect (state.findRow outboxId) (.domain "STALE_DELIVERY_LEASE")
  refuseIf (row.leaseToken ≠ some leaseToken) (.domain "STALE_DELIVERY_LEASE")
  let recorded := (state.current outboxId).bind DeliveryState.result
  refuseIf (row.status ≠ .leased ∧ recorded = none) (.domain "STALE_DELIVERY_LEASE")
  let current ← expect (state.current outboxId) (.domain "FORBIDDEN")
  refuseIf (current.workerId ≠ some actor.principalId) (.domain "FORBIDDEN")
  if row.status ≠ .leased ∧ current.result ≠ none then do
    refuseIf (current.result ≠ some result) (.domain "IDEMPOTENCY_CONFLICT")
    return (row.status, state)
  else conclude state actor row result clock

inductive OutboxRequest where
  | notify (notification : Notification) (ids : NotifyIds)
  | claim (topics : List String) (leaseSeconds : ℤ) (rank : String → ℕ)
  | finish (outboxId : String) (leaseToken : ℕ) (result : DeliveryResult)
  /-- A transition of another service, which may queue a row. -/
  | transition (capability : Capability) (operationKey : String) (request : OutboxTransition)
      (topic : Option (String × String))

structure OutboxCall where
  actor : Identity
  clock : Clock
  request : OutboxRequest

inductive OutboxAnswer where
  | done
  | notified (notificationId : String)
  | claimed (lease : Option DeliveryLease)
  | finished (status : DeliveryStatus)
  deriving DecidableEq

def otherTransition (state : OutboxState) (actor : Identity) (capability : Capability)
    (operationKey : String)
    (request : OutboxTransition) (topic : Option (String × String)) (clock : Clock) :
    Except ServiceError OutboxState := do
  refuseIf (request.kind ∈ ["outbox_delivery", "notification"]) (.constraint "aggregate_type")
  refuseIf (operationKey = "") (.domain "INVALID_TRANSITION")
  let store ← state.store.transition actor capability (.other operationKey) request (topic.map Prod.fst)
  let noted : OutboxState := { state with store }
  match topic with
  | some (topic, outboxId) =>
    -- an event that was in the log queues nothing
    if store.events = state.store.events then return noted
    else noted.insertRow outboxId state.store.events.length topic none clock.start
  | none => return noted

def handle : Handler OutboxState OutboxCall ServiceError OutboxAnswer
  | state, ⟨actor, clock, .notify notification ids⟩ => do
    let (notificationId, after) ← notify state actor notification ids clock
    return (.notified notificationId, after)
  | state, ⟨actor, clock, .claim topics leaseSeconds rank⟩ => do
    let (lease, after) ← claim state actor topics leaseSeconds clock rank
    return (.claimed lease, after)
  | state, ⟨actor, clock, .finish outboxId leaseToken result⟩ => do
    let (status, after) ← finish state actor outboxId leaseToken result clock
    return (.finished status, after)
  | state, ⟨actor, clock, .transition capability operationKey request topic⟩ => do
    let after ← otherTransition state actor capability operationKey request topic clock
    return (.done, after)

def history (calls : List OutboxCall) : OutboxState := run handle .empty calls

end Liki.Delivery
