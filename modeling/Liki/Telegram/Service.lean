import Liki.Delivery.Deliveries
import Liki.Json.Values

/-! The private chat with the owner. A webhook turns a command into one notification, under the id of
its update. A delivery is a process of its own: it claims a row of the outbox, sends the text of the
notification, and reports what came out of it. Between any two of these steps other calls may come, and
a process may stop for good. The reading that a command asks for, the answers of the Bot API and the
content hash are parameters. -/
namespace Liki.Telegram
open Checks CallSystem KeyedRows Json Delivery

structure TelegramSettings where
  ownerUserId : ℤ
  ownerChatId : ℤ
  /-- Whom `owner_credential` authenticates. -/
  owner : Identity
  delivery : Identity
  webhookSecret : String
  maxCommandAgeSeconds : ℤ

/-- `fields.get(key)`. -/
def get (fields : Fields) (key : String) : Option Value := (find Prod.fst key fields).map Prod.snd

/-- `fields.get(key, {})`, if that is an object. -/
def getDict (fields : Fields) (key : String) : Option Fields :=
  match get fields key with
  | none => some []
  | some (.dict inner) => some inner
  | some _ => none

/-- The value, if its type is `int`. -/
def number : Option Value → Option ℤ
  | some (.int value) => some value
  | _ => none

/-- `value == id`, where `True` is one and a float has the value that is written. -/
def equals (id : ℤ) : Option Value → Bool
  | some (.int value) => value = id
  | some (.bool value) => (if value then 1 else 0) = id
  | some (.float value) => 0 ≤ value.exponent ∧
    (if value.negative then -1 else 1) * value.digits * 10 ^ value.exponent.toNat = id
  | _ => false

/-- What a request to the Bot API comes to. -/
inductive Response where
  /-- `ConnectTimeout`, `ConnectError`. -/
  | unconnected
  /-- Any other `HTTPError`, or a body that is not JSON. -/
  | lost
  | answered (status : ℕ) (payload : Value)

/-- The message id of a response that acknowledges a message to the owner. -/
def acknowledged (settings : TelegramSettings) (status : ℕ) (payload : Fields) : Option ℤ := do
  guard (status = 200 ∧ get payload "ok" = some (.bool true))
  let result ← getDict payload "result"
  let chat ← getDict result "chat"
  guard (equals settings.ownerChatId (get chat "id"))
  number (get result "message_id")

def retryAfter (payload : Fields) : ℤ :=
  match (getDict payload "parameters").bind fun parameters => number (get parameters "retry_after") with
  | some retry => if 1 ≤ retry ∧ retry ≤ 86400 then retry else 60
  | none => 60

/-- `send`. -/
def outcome (settings : TelegramSettings) : Response → DeliveryResult
  | .unconnected => ⟨none, some .transient, 1⟩
  | .answered status (.dict payload) =>
    if status = 429 then ⟨none, some .transient, retryAfter payload⟩
    else if 400 ≤ status ∧ status < 500 then ⟨none, some .permanent, 1⟩
    else match acknowledged settings status payload with
      | some messageId => ⟨some messageId.repr, none, 1⟩
      | none => ⟨none, some .unknownDelivery, 1⟩
  | _ => ⟨none, some .unknownDelivery, 1⟩

/-- The commands, and whether they need an argument. -/
def commands : List (String × Bool) :=
  [("/status", false), ("/active", false), ("/why_running", false), ("/queues", false),
    ("/statistical_capital", true), ("/trials", true), ("/governance", false), ("/proposal", true),
    ("/branch", true), ("/strategy", true), ("/agent", true), ("/frontier", false)]

/-- `text.strip().split(maxsplit=1)`, none for a blank text. -/
def splitCommand (text : String) : Option (String × String) :=
  let space := fun character => whitespace.contains character
  let words := ((text.toList.dropWhile space).reverse.dropWhile space).reverse
  let (name, rest) := words.span fun character => ¬space character
  if name = [] then none else some (String.ofList name, String.ofList (rest.dropWhile space))

/-- A delivery of the webhook. A command reads the text of its result, or an error code. -/
structure WebhookRequest where
  secret : String
  update : Fields
  now : Time
  clock : Clock
  ids : NotifyIds
  read : String → String → String

/-- What an update that is let in asks for. -/
structure Admitted where
  updateId : ℤ
  sentAt : ℤ
  name : String
  argument : String

def fromOwner (settings : TelegramSettings) (message : Fields) : Bool :=
  match getDict message "chat", getDict message "from" with
  | some chat, some sender =>
    get chat "type" = some (.text "private") ∧ equals settings.ownerChatId (get chat "id") ∧
      equals settings.ownerUserId (get sender "id") ∧ get sender "is_bot" = some (.bool false)
  | _, _ => false

def fresh (settings : TelegramSettings) (now : Time) (sentAt : ℤ) : Prop :=
  seconds (-30) ≤ now - seconds sentAt ∧ now - seconds sentAt ≤ seconds settings.maxCommandAgeSeconds

instance : Decidable (fresh settings now sentAt) := inferInstanceAs (Decidable (_ ∧ _))

/-- The checks of `receive`. -/
def screened (settings : TelegramSettings) (secret : String) (update : Fields) (now : Time) :
    Except ServiceError Admitted := do
  refuseIf (secret = "" ∨ secret ≠ settings.webhookSecret) (.domain "UNAUTHENTICATED")
  let updateId ← expect (number (get update "update_id")) (.domain "INVALID_TELEGRAM_UPDATE")
  let message ← expect (match get update "message" with
    | some (.dict message) => some message
    | _ => none) (.domain "INVALID_TELEGRAM_UPDATE")
  refuseIf (¬fromOwner settings message) (.domain "FORBIDDEN")
  let sentAt ← expect (number (get message "date")) (.domain "STALE_TELEGRAM_COMMAND")
  refuseIf (¬fresh settings now sentAt) (.domain "STALE_TELEGRAM_COMMAND")
  let words ← expect (match get message "text" with
    | some (.text text) => if text.length ≤ 500 then splitCommand text else none
    | _ => none) (.domain "INVALID_TELEGRAM_COMMAND")
  return ⟨updateId, sentAt, words.1, words.2⟩

def rendered (request : WebhookRequest) (admitted : Admitted) : String :=
  let available := ∃ command ∈ commands, command.1 = admitted.name ∧ (command.2 → admitted.argument ≠ "")
  let text := if available then request.read admitted.name admitted.argument
    else "COMMAND_NOT_AVAILABLE"
  if 3200 < text.length then
    String.ofList (text.toList.take 3000) ++
      "\n[Truncated; use the authenticated operator console for full state.]"
  else text

def updateKey (updateId : ℤ) : String := "telegram-update:" ++ updateId.repr

def commandNotification (request : WebhookRequest) (admitted : Admitted) : Notification where
  deduplicationKey := updateKey admitted.updateId
  urgency := .normal
  classification := .internal
  recipientRef := "owner"
  title := "LIKI " ++ String.ofList (admitted.name.toList.take 100)
  message := rendered request admitted
  requiredAction := none
  deadlineAt := none
  objectId := some admitted.updateId.repr

/-- A row of `telegram_inbox`. -/
structure InboxRow (Hash : Type) where
  updateId : ℤ
  requestHash : Hash
  principalId : String
  command : String
  notificationId : String

/-- A call of `deliver_once`, with the result that it reports once it is there. -/
structure Flight where
  lease : DeliveryLease
  result : Option DeliveryResult

def Flight.token (flight : Flight) : ℕ := flight.lease.leaseToken

/-- A request that went out, under the lease of its row. -/
structure Message where
  outboxId : String
  leaseToken : ℕ
  content : Notification
  response : Response

structure TelegramState (Hash : Type) where
  outbox : OutboxState
  inbox : List (InboxRow Hash)
  flights : List Flight
  sent : List Message

structure Deployment (Hash : Type) where
  settings : TelegramSettings
  contentHash : Fields → Hash

variable {Hash : Type}

/-- `receive`. -/
def receive [DecidableEq Hash] (deployment : Deployment Hash) (state : TelegramState Hash) (request : WebhookRequest) :
    Except ServiceError (String × TelegramState Hash) := do
  let settings := deployment.settings
  let admitted ← screened settings request.secret request.update request.now
  let digest := deployment.contentHash request.update
  settings.owner.requires .ownerDecision
  match find InboxRow.updateId admitted.updateId state.inbox with
  | some prior =>
    refuseIf (prior.requestHash ≠ digest ∨ prior.principalId ≠ settings.owner.principalId)
      (.domain "IDEMPOTENCY_CONFLICT")
    return (prior.notificationId, state)
  | none =>
    let (notificationId, outbox) ←
      notify state.outbox settings.owner (commandNotification request admitted) request.ids request.clock
    refuseIf (¬(-2 ^ 63 ≤ admitted.updateId ∧ admitted.updateId < 2 ^ 63)) (.constraint "update_id")
    return (notificationId, { state with
      outbox
      inbox := state.inbox ++
        [⟨admitted.updateId, digest, settings.owner.principalId, admitted.name, notificationId⟩] })

inductive TelegramCall where
  | receive (request : WebhookRequest)
  | notify (actor : Identity) (clock : Clock) (notification : Notification) (ids : NotifyIds)
  /-- A transition of another service, which may queue a row. -/
  | transition (actor : Identity) (clock : Clock) (capability : Capability) (operationKey : String)
      (request : OutboxTransition) (topic : Option (String × String))
  | claim (clock : Clock) (rank : String → ℕ)
  | send (leaseToken : ℕ) (response : Response)
  | report (leaseToken : ℕ) (clock : Clock)

inductive TelegramAnswer where
  | queued (notificationId : String)
  | done

def started : OutboxAnswer → List Flight
  | .claimed (some lease) => [⟨lease, none⟩]
  | _ => []

def resolve (flights : List Flight) (token : ℕ) (result : DeliveryResult) : List Flight :=
  KeyedRows.update Flight.token token (fun flight => { flight with result := some result }) flights

def onOutbox (state : TelegramState Hash) (call : OutboxCall) :
    Except ServiceError (TelegramAnswer × TelegramState Hash) := do
  let (answer, outbox) ← Delivery.handle state.outbox call
  return (.done, { state with outbox, flights := state.flights ++ started answer })

/-- The second step of `deliver_once`: what is not for the owner fails for good, anything else is sent. -/
def send (settings : TelegramSettings) (state : TelegramState Hash) (lease : DeliveryLease)
    (response : Response) : TelegramState Hash :=
  match lease.payload with
  -- a payload without the id is a `KeyError`
  | none => state
  | some notificationId =>
    match (find NotificationRecord.notificationId notificationId state.outbox.records).filter
      fun record => record.content.recipientRef = "owner" with
    | none => { state with flights := resolve state.flights lease.leaseToken ⟨none, some .permanent, 1⟩ }
    | some record => { state with
        flights := resolve state.flights lease.leaseToken (outcome settings response)
        sent := state.sent ++ [⟨lease.outboxId, lease.leaseToken, record.content, response⟩] }

variable [DecidableEq Hash]

def handle (deployment : Deployment Hash) : Handler (TelegramState Hash) TelegramCall ServiceError TelegramAnswer
  | state, .receive request => do
    let (notificationId, after) ← receive deployment state request
    return (.queued notificationId, after)
  | state, .notify actor clock notification ids => onOutbox state ⟨actor, clock, .notify notification ids⟩
  | state, .transition actor clock capability operationKey request topic =>
    onOutbox state ⟨actor, clock, .transition capability operationKey request topic⟩
  | state, .claim clock rank =>
    onOutbox state ⟨deployment.settings.delivery, clock, .claim [telegramTopic] 60 rank⟩
  | state, .send leaseToken response =>
    match find Flight.token leaseToken state.flights with
    | some ⟨lease, none⟩ => .ok (.done, send deployment.settings state lease response)
    | _ => .ok (.done, state)
  | state, .report leaseToken clock =>
    match find Flight.token leaseToken state.flights with
    | some ⟨lease, some result⟩ =>
      onOutbox state ⟨deployment.settings.delivery, clock, .finish lease.outboxId lease.leaseToken result⟩
    | _ => .ok (.done, state)

def empty : TelegramState Hash := ⟨.empty, [], [], []⟩

def history (deployment : Deployment Hash) (calls : List TelegramCall) : TelegramState Hash :=
  run (handle deployment) empty calls

end Liki.Telegram
