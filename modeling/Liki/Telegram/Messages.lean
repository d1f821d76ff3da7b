import Liki.Telegram.Service

/-! A message that may have reached the owner is never sent again. A row is only handed out again after
its last flight has reported a transient failure: a connection that was not made, or a refusal to take
the message yet. So of the messages of a row only the last one can have another outcome, however the
processes are interleaved and wherever they stop, and a delivered row has one that was acknowledged. -/
namespace Liki.Telegram
open Checks CallSystem KeyedRows List Option Json Delivery

variable {Hash : Type} {deployment : Deployment Hash} {state after : TelegramState Hash}
  {settings : TelegramSettings} {response : Response} {call : OutboxCall} {answer : OutboxAnswer}
  {row moved : OutboxRow} {lease : DeliveryLease} {outbox : OutboxState} {flight other : Flight}

/-- The Bot API has taken the message, for the chat of the owner. -/
def Acknowledges (settings : TelegramSettings) (response : Response) (receipt : String) : Prop :=
  ∃ payload result chat messageId, response = .answered 200 (.dict payload) ∧
    get payload "ok" = some (.bool true) ∧ getDict payload "result" = some result ∧
    getDict result "chat" = some chat ∧ equals settings.ownerChatId (get chat "id") = true ∧
    number (get result "message_id") = some messageId ∧ receipt = messageId.repr

/-- A result that can be reported, with a receipt only of an acknowledgement. -/
structure Fit (settings : TelegramSettings) (response : Response) (result : DeliveryResult) : Prop where
  valid : result.Valid
  acknowledged : ∀ receipt ∈ result.receipt, Acknowledges settings response receipt

theorem fit_of_failure (failure : DeliveryFailure) (least : 1 ≤ retry) (most : retry ≤ 86400) :
    Fit settings response ⟨none, some failure, retry⟩ :=
  ⟨⟨by simp, nofun, least, most⟩, nofun⟩

theorem retryAfter_bounds (payload : Fields) : 1 ≤ retryAfter payload ∧ retryAfter payload ≤ 86400 := by
  unfold retryAfter
  split
  · split
    · assumption
    · decide
  · decide

theorem repr_ne_empty (value : ℤ) : value.repr ≠ "" := by
  cases value with
  | ofNat => exact Nat.repr_ne_empty
  | negSucc => simp [Int.repr]

/-- Whatever the Bot API answers, the outcome can be reported, and it has a receipt only if the message
was taken for the chat of the owner. -/
theorem outcome_fit (settings : TelegramSettings) (response : Response) :
    Fit settings response (outcome settings response) := by
  have failed (failure : DeliveryFailure) : Fit settings response ⟨none, some failure, 1⟩ :=
    fit_of_failure failure le_rfl (by norm_num)
  unfold outcome
  split
  · exact failed .transient
  · rename_i payload
    split
    · exact fit_of_failure .transient (retryAfter_bounds payload).1 (retryAfter_bounds payload).2
    · split
      · exact failed .permanent
      · split
        · rename_i messageId taken
          refine ⟨⟨by simp, by simpa using repr_ne_empty messageId, le_rfl, by norm_num⟩, ?_⟩
          rintro _ ⟨⟩
          simp only [acknowledged, bind_eq_bind, bind_eq_some_iff, guard_eq_some', exists_const] at taken
          obtain ⟨⟨rfl, ok⟩, result, held, chat, there, owner, read⟩ := taken
          exact ⟨payload, result, chat, messageId, rfl, ok, held, there, owner, read, rfl⟩
        · exact failed .unknownDelivery
  · exact failed .unknownDelivery

/-- The flight has reported, or will report, that its row can be handed out again. -/
def Flight.Settled (flight : Flight) : Prop := ∃ result ∈ flight.result, result.failure = some .transient

def Message.settled (settings : TelegramSettings) (message : Message) : Bool :=
  (outcome settings message.response).failure = some .transient

/-- The lease of the row, which is not handed out again. -/
def Holding (row : OutboxRow) (token : ℕ) : Prop := row.leaseToken = some token ∧ row.status ≠ .pending

theorem concludedStatus_cases (row : OutboxRow) (result : DeliveryResult) :
    (concludedStatus row result = .delivered ∧ result.receipt.isSome) ∨
      (concludedStatus row result = .pending ∧ result.failure = some .transient) ∨
      concludedStatus row result = .quarantined := by
  unfold concludedStatus
  split
  · exact .inl ⟨rfl, by assumption⟩
  · split
    · rename_i transient
      exact .inr (.inl ⟨rfl, transient.1⟩)
    · exact .inr (.inr rfl)

/-- A lease is only lost to the report of a transient failure. -/
theorem holding_kept (effect : RowEffect call answer first last row current moved gained)
    (holding : Holding row token) : Holding moved token ∨
      ∃ result, call.request = .finish row.outboxId token result ∧ result.failure = some .transient := by
  obtain ⟨held, taken⟩ := holding
  cases effect with
  | kept => exact .inl ⟨held, taken⟩
  | expired => exact .inl ⟨held, nofun⟩
  | handed pending => exact absurd pending taken
  | @concluded _ _ result _ request _ same =>
    rw [held, some.injEq] at same
    subst same
    rcases concludedStatus_cases row result with ⟨status, -⟩ | ⟨-, transient⟩ | status
    · exact .inl ⟨held, by simp [status]⟩
    · exact .inr ⟨_, request, transient⟩
    · exact .inl ⟨held, by simp [status]⟩

theorem delivered_gained (effect : RowEffect call answer first last row current moved gained)
    (delivered : moved.status = .delivered) : row.status = .delivered ∨
      ∃ token result, call.request = .finish row.outboxId token result ∧ result.receipt.isSome := by
  cases effect with
  | kept => exact .inl delivered
  | expired => cases delivered
  | handed => cases delivered
  | @concluded _ _ result _ request =>
    rcases concludedStatus_cases row result with ⟨-, received⟩ | ⟨status, -⟩ | status
    · exact .inr ⟨_, _, request, received⟩
    · cases status.symm.trans delivered
    · cases status.symm.trans delivered

/-- A row that is handed out is held under a new lease. -/
theorem handed_row (effect : CallEffect outbox call (.claimed (some lease)) later) :
    outbox.store.events.length ≤ lease.leaseToken ∧ lease.leaseToken < later.store.events.length ∧
      ∃ moved, later.findRow lease.outboxId = some moved ∧ Holding moved lease.leaseToken := by
  have hands : Hands (.claimed (some lease)) lease.outboxId := ⟨lease, rfl, rfl⟩
  obtain ⟨row, found⟩ := ne_none_iff_exists'.mp (effect.known _ hands)
  obtain ⟨moved, there, moves⟩ := effect.rows _ row found
  have named : row.outboxId = lease.outboxId := find_key found
  generalize outbox.current lease.outboxId = current at moves
  generalize later.current lease.outboxId = gained at moves
  cases moves with
  | kept unhanded => exact absurd (named ▸ hands) unhanded
  | expired _ unhanded => exact absurd (named ▸ hands) unhanded
  | handed _ answered fresh written =>
    cases answered
    exact ⟨fresh, written, _, there, rfl, nofun⟩
  | concluded _ _ _ _ _ answered => cases answered

/-- A call of the outbox reports nothing but what a flight has come to. -/
def Reports (flights : List Flight) (call : OutboxCall) : Prop :=
  ∀ outboxId token result, call.request = .finish outboxId token result →
    ∃ flight ∈ flights, flight.lease.outboxId = outboxId ∧ flight.token = token ∧ flight.result = some result

/-- What a flight comes to, with the message that it sends. -/
inductive Resolves (settings : TelegramSettings) (lease : DeliveryLease) : DeliveryResult → List Message → Prop
  | unsent {result : DeliveryResult} (unreceived : result.receipt = none) : Resolves settings lease result []
  | sent (content : Notification) (response : Response) : Resolves settings lease (outcome settings response)
      [⟨lease.outboxId, lease.leaseToken, content, response⟩]

inductive Step (settings : TelegramSettings) (state : TelegramState Hash) : TelegramState Hash → Prop
  | idle : Step settings state state
  | outbox {call : OutboxCall} {answer : OutboxAnswer} {outbox : OutboxState}
      (ok : Delivery.handle state.outbox call = .ok (answer, outbox)) (reports : Reports state.flights call)
      (inbox : List (InboxRow Hash)) :
      Step settings state ⟨outbox, inbox, state.flights ++ started answer, state.sent⟩
  | resolved {lease : DeliveryLease} {result : DeliveryResult} {messages : List Message}
      (found : find Flight.token lease.leaseToken state.flights = some ⟨lease, none⟩)
      (resolves : Resolves settings lease result messages) :
      Step settings state { state with
        flights := resolve state.flights lease.leaseToken result
        sent := state.sent ++ messages }

theorem send_step (found : find Flight.token lease.leaseToken state.flights = some ⟨lease, none⟩) :
    Step settings state (send settings state lease response) := by
  unfold send
  split
  · exact .idle
  · split
    · have unsent : Resolves settings lease ⟨none, some .permanent, 1⟩ [] := .unsent rfl
      have step := Step.resolved found unsent
      rwa [append_nil] at step
    · exact .resolved found (.sent _ _)

theorem onOutbox_step (reports : Reports state.flights call) (ok : onOutbox state call = .ok (told, after)) :
    Step settings state after := by
  simp only [onOutbox, bind_ok, pair_ok, Prod.exists] at ok
  obtain ⟨_, _, ok, -, rfl⟩ := ok
  exact .outbox ok reports state.inbox

structure Safe (settings : TelegramSettings) (state : TelegramState Hash) : Prop where
  reached : ∃ calls, state.outbox = Delivery.history calls
  tokens : Distinct Flight.token state.flights
  known : ∀ flight ∈ state.flights, flight.token < state.outbox.store.events.length
  /-- A flight whose row may be handed out again has failed without doubt. -/
  held : ∀ flight ∈ state.flights, ∃ row, state.outbox.findRow flight.lease.outboxId = some row ∧
    (flight.Settled ∨ Holding row flight.token)
  retried : state.sent.Pairwise fun first second => first.outboxId = second.outboxId → first.settled settings
  flown : ∀ message ∈ state.sent, ∃ flight ∈ state.flights, flight.lease.outboxId = message.outboxId ∧
    flight.token = message.leaseToken ∧ flight.result = some (outcome settings message.response)
  receipts : ∀ flight ∈ state.flights, ∀ result ∈ flight.result, result.receipt.isSome →
    ∃ message ∈ state.sent, message.outboxId = flight.lease.outboxId ∧ outcome settings message.response = result
  delivered : ∀ outboxId row, state.outbox.findRow outboxId = some row → row.status = .delivered →
    ∃ message ∈ state.sent, message.outboxId = outboxId ∧ (outcome settings message.response).receipt.isSome

theorem safe_empty : Safe settings (empty : TelegramState Hash) where
  reached := ⟨[], rfl⟩
  tokens := nodup_nil
  known := nofun
  held := nofun
  retried := .nil
  flown := nofun
  receipts := nofun
  delivered := nofun

theorem mem_started (member : flight ∈ started answer) :
    ∃ lease, answer = .claimed (some lease) ∧ flight = ⟨lease, none⟩ := by
  unfold started at member
  split at member
  · exact ⟨_, rfl, mem_singleton.mp member⟩
  · cases member

theorem Safe.same (safe : Safe settings state) (first : flight ∈ state.flights)
    (second : other ∈ state.flights) (same : flight.token = other.token) : flight = other := by
  have found := find_of_mem safe.tokens first
  rw [same, find_of_mem safe.tokens second] at found
  exact (some.inj found).symm

theorem Safe.called (safe : Safe settings state) (ok : Delivery.handle state.outbox call = .ok (answer, outbox))
    (reports : Reports state.flights call) (inbox : List (InboxRow Hash)) :
    Safe settings ⟨outbox, inbox, state.flights ++ started answer, state.sent⟩ := by
  obtain ⟨calls, reached⟩ := safe.reached
  have effect := handle_effect (reached ▸ history_ordered calls) ok
  refine ⟨⟨calls ++ [call], ?_⟩, ?_, ?_, ?_, safe.retried, ?_, ?_, ?_⟩
  · rw [history_append_one, ← reached, next_of_ok ok]
  · unfold started
    split
    · refine distinct_insert safe.tokens (find_none.mpr fun flight member same => ?_)
      have early := safe.known flight member
      rw [same] at early
      exact absurd (handed_row effect).1 (not_le.mpr early)
    · rw [append_nil]
      exact safe.tokens
  · intro flight member
    rcases mem_append.mp member with old | new
    · exact lt_of_lt_of_le (safe.known flight old) effect.events
    · obtain ⟨lease, rfl, rfl⟩ := mem_started new
      exact (handed_row effect).2.1
  · intro flight member
    rcases mem_append.mp member with old | new
    · obtain ⟨row, found, state⟩ := safe.held flight old
      obtain ⟨moved, there, moves⟩ := effect.rows _ row found
      refine ⟨moved, there, ?_⟩
      rcases state with settled | holding
      · exact .inl settled
      · rcases holding_kept moves holding with kept | ⟨result, request, transient⟩
        · exact .inr kept
        · -- the flight that reports the failure is the one that holds the row
          obtain ⟨other, flies, -, token, told⟩ := reports _ _ _ request
          rw [safe.same flies old token] at told
          exact .inl ⟨result, told, transient⟩
    · obtain ⟨lease, rfl, rfl⟩ := mem_started new
      obtain ⟨-, -, moved, there, holding⟩ := handed_row effect
      exact ⟨moved, there, .inr holding⟩
  · intro message member
    obtain ⟨flight, flies, rest⟩ := safe.flown message member
    exact ⟨flight, mem_append_left _ flies, rest⟩
  · intro flight member
    rcases mem_append.mp member with old | new
    · exact safe.receipts flight old
    · obtain ⟨lease, -, rfl⟩ := mem_started new
      nofun
  · intro outboxId moved there delivered
    cases found : state.outbox.findRow outboxId with
    | none =>
      rw [(effect.queued outboxId moved found there).1] at delivered
      cases delivered
    | some row =>
      obtain ⟨_, also, moves⟩ := effect.rows outboxId row found
      cases also.symm.trans there
      rcases delivered_gained moves delivered with before | ⟨token, result, request, received⟩
      · exact safe.delivered outboxId row found before
      · obtain ⟨flight, flies, named, -, told⟩ := reports _ _ _ request
        obtain ⟨message, sent, same, rfl⟩ := safe.receipts flight flies result told received
        have named := same.trans (named.trans (find_key found))
        exact ⟨message, sent, named, received⟩

/-- A row is held by one flight. -/
theorem Safe.alone (safe : Safe settings state) (first : flight ∈ state.flights)
    (second : other ∈ state.flights) (same : flight.lease.outboxId = other.lease.outboxId)
    (unsettled : ¬flight.Settled) (open_ : ¬other.Settled) : flight = other := by
  obtain ⟨row, found, one⟩ := safe.held flight first
  obtain ⟨again, there, two⟩ := safe.held other second
  rw [same, there, some.injEq] at found
  subst found
  have held := (one.resolve_left unsettled).1
  rw [(two.resolve_left open_).1, some.injEq] at held
  exact safe.same first second held.symm

theorem Safe.resolved (safe : Safe settings state)
    (found : find Flight.token lease.leaseToken state.flights = some ⟨lease, none⟩)
    (resolves : Resolves settings lease result messages) :
    Safe settings { state with
      flights := resolve state.flights lease.leaseToken result
      sent := state.sent ++ messages } := by
  have flies := find_mem found
  have unsettled : ¬Flight.Settled ⟨lease, none⟩ := by
    rintro ⟨_, ⟨⟩, _⟩
  have changed : ∀ {flight : Flight}, flight ∈ resolve state.flights lease.leaseToken result →
      flight = ⟨lease, some result⟩ ∨ flight ∈ state.flights := by
    intro flight member
    rcases mem_update_of_find safe.tokens found member with rfl | ⟨old, -⟩
    · exact .inl rfl
    · exact .inr old
  have flown : ∀ message ∈ state.sent, ∃ flight ∈ state.flights, flight ≠ ⟨lease, none⟩ ∧
      flight.lease.outboxId = message.outboxId ∧ flight.token = message.leaseToken ∧
      flight.result = some (outcome settings message.response) := by
    intro message member
    obtain ⟨flight, flew, named, token, told⟩ := safe.flown message member
    refine ⟨flight, flew, ?_, named, token, told⟩
    rintro rfl
    cases told
  refine ⟨safe.reached, distinct_update (fun _ same => same) safe.tokens, ?_, ?_, ?_, ?_, ?_, ?_⟩
  · intro flight member
    rcases changed member with rfl | old
    · exact safe.known ⟨lease, none⟩ flies
    · exact safe.known flight old
  · intro flight member
    rcases changed member with rfl | old
    · obtain ⟨row, there, holds⟩ := safe.held _ flies
      exact ⟨row, there, .inr (holds.resolve_left unsettled)⟩
    · exact safe.held flight old
  · refine pairwise_append.mpr ⟨safe.retried, ?_, fun first member second new same => ?_⟩
    · cases resolves with
      | unsent => exact .nil
      | sent => exact pairwise_singleton _ _
    · have row : second.outboxId = lease.outboxId := by
        cases resolves with
        | unsent => cases new
        | sent => rw [mem_singleton.mp new]
      obtain ⟨flight, flew, differ, named, token, told⟩ := flown first member
      by_contra doubtful
      refine differ (safe.alone flew flies (named.trans (same.trans row)) ?_ unsettled)
      rintro ⟨_, held, transient⟩
      rw [told] at held
      cases held
      exact doubtful (decide_eq_true transient)
  · intro message member
    rcases mem_append.mp member with old | new
    · obtain ⟨flight, flew, differ, named, token, told⟩ := flown message old
      refine ⟨flight, mem_update_of_mem flew fun same => ?_, named, token, told⟩
      exact differ (safe.same flew flies same)
    · cases resolves with
      | unsent => cases new
      | sent =>
        rw [mem_singleton.mp new]
        exact ⟨_, mem_map.mpr ⟨_, flies, if_pos rfl⟩, rfl, rfl, rfl⟩
  · intro flight member
    rcases changed member with rfl | old
    · rintro _ ⟨⟩ received
      cases resolves with
      | unsent unreceived =>
        rw [unreceived] at received
        cases received
      | sent => exact ⟨_, mem_append_right _ mem_cons_self, rfl, rfl⟩
    · intro result told received
      obtain ⟨message, sent, rest⟩ := safe.receipts flight old result told received
      exact ⟨message, mem_append_left _ sent, rest⟩
  · intro outboxId row there delivered
    obtain ⟨message, sent, rest⟩ := safe.delivered outboxId row there delivered
    exact ⟨message, mem_append_left _ sent, rest⟩

variable [DecidableEq Hash]

structure Received (deployment : Deployment Hash) (state : TelegramState Hash) (request : WebhookRequest)
    (notificationId : String) (after : TelegramState Hash) (update : Admitted) (row : InboxRow Hash) :
    Prop where
  admitted : screened deployment.settings request.secret request.update request.now = .ok update
  permitted : deployment.settings.owner.requires .ownerDecision = .ok ()
  found : find InboxRow.updateId update.updateId after.inbox = some row
  hash : row.requestHash = deployment.contentHash request.update
  principal : row.principalId = deployment.settings.owner.principalId
  answered : row.notificationId = notificationId
  changed : after = state ∨ find InboxRow.updateId update.updateId state.inbox = none ∧ ∃ outbox,
    notify state.outbox deployment.settings.owner (commandNotification request update) request.ids
      request.clock = .ok (notificationId, outbox) ∧
    after = { state with outbox, inbox := state.inbox ++ [row] }

theorem receive_ok (ok : receive deployment state request = .ok (notificationId, after)) :
    ∃ update row, Received deployment state request notificationId after update row := by
  simp only [receive, bind_ok] at ok
  obtain ⟨update, admitted, ⟨⟩, permitted, ok⟩ := ok
  cases found : find InboxRow.updateId update.updateId state.inbox with
  | some prior =>
    simp only [found, bind_ok, guard_ok, pair_ok, not_or, not_not] at ok
    obtain ⟨⟨hash, principal⟩, answered, rfl⟩ := ok
    exact ⟨update, prior, admitted, permitted, found, hash, principal, answered, .inl rfl⟩
  | none =>
    simp only [found, bind_ok, guard_ok, pair_ok, Prod.exists] at ok
    obtain ⟨_, _, queued, -, rfl, rfl⟩ := ok
    exact ⟨update, _, admitted, permitted, find_insert_new found rfl, rfl, rfl, rfl, .inr ⟨found, _, queued, rfl⟩⟩

theorem handle_step (ok : handle deployment state made = .ok (told, after)) :
    Step deployment.settings state after := by
  cases made with
  | receive request =>
    simp only [handle, bind_ok, pair_ok, Prod.exists] at ok
    obtain ⟨notificationId, _, ok, -, rfl⟩ := ok
    obtain ⟨update, row, received⟩ := receive_ok ok
    rcases received.changed with rfl | ⟨-, outbox, queued, rfl⟩
    · exact .idle
    · have asked : Delivery.handle state.outbox ⟨deployment.settings.owner, request.clock,
          .notify (commandNotification request update) request.ids⟩ = .ok (.notified notificationId, outbox) := by
        rw [Delivery.handle, queued]
        rfl
      have step : Step deployment.settings state _ := .outbox asked (by rintro _ _ _ ⟨⟩) (state.inbox ++ [row])
      have idle : state.flights ++ started (.notified notificationId) = state.flights := append_nil _
      rwa [idle] at step
  | notify => exact onOutbox_step (by rintro _ _ _ ⟨⟩) ok
  | transition => exact onOutbox_step (by rintro _ _ _ ⟨⟩) ok
  | claim => exact onOutbox_step (by rintro _ _ _ ⟨⟩) ok
  | send token response =>
    simp only [handle] at ok
    split at ok
    · rename_i lease found
      cases ok
      have named : Flight.token ⟨lease, none⟩ = token := find_key found
      subst named
      exact send_step found
    · cases ok
      exact .idle
  | report token clock =>
    simp only [handle] at ok
    split at ok
    · rename_i lease result found
      refine onOutbox_step ?_ ok
      rintro _ _ _ ⟨⟩
      exact ⟨_, find_mem found, rfl, rfl, rfl⟩
    · cases ok
      exact .idle

theorem history_safe (deployment : Deployment Hash) (calls : List TelegramCall) :
    Safe deployment.settings (history deployment calls) := by
  refine run_preserves (Safe deployment.settings) safe_empty (fun state call safe => ?_) calls
  refine next_of_answered (Safe deployment.settings) safe fun _ _ answered => ?_
  cases handle_step answered with
  | idle => exact safe
  | outbox ok reports inbox => exact safe.called ok reports inbox
  | resolved found resolves => exact safe.resolved found resolves

/-- Nothing was sent, or the Bot API asked to come back later. -/
def Response.Untaken (response : Response) : Prop :=
  response = .unconnected ∨ ∃ payload, response = .answered 429 (.dict payload)

theorem untaken_of_settled (settled : (outcome settings response).failure = some .transient) :
    response.Untaken := by
  unfold outcome at settled
  split at settled
  · exact .inl rfl
  · rename_i payload
    split at settled
    · rename_i busy
      exact .inr ⟨payload, by rw [busy]⟩
    · split at settled
      · cases settled
      · split at settled <;> cases settled
  · cases settled

/-- What the messages of a row have come to. -/
structure SentOnce (settings : TelegramSettings) (state : TelegramState Hash) (outboxId : String) : Prop where
  /-- Only a message that was not taken is followed by another one of its row. -/
  retried : (state.sent.filter fun message => message.outboxId = outboxId).Pairwise fun first _ =>
    first.response.Untaken
  acknowledged : ∀ row, state.outbox.findRow outboxId = some row → row.status = .delivered →
    ∃ message ∈ state.sent, message.outboxId = outboxId ∧ ∃ receipt,
      Acknowledges settings message.response receipt

/-- Whatever webhooks, services and processes do, and wherever a process stops, a message that may have
reached the owner is the last one of its row, and a delivered row has one that did. -/
theorem messages_sent_once (deployment : Deployment Hash) (calls : List TelegramCall) (outboxId : String) :
    SentOnce deployment.settings (history deployment calls) outboxId := by
  have safe := history_safe deployment calls
  refine ⟨?_, fun row found delivered => ?_⟩
  · refine (safe.retried.filter _).imp_of_mem fun first second settled => ?_
    rw [of_decide_eq_true (mem_filter.mp first).2, of_decide_eq_true (mem_filter.mp second).2] at settled
    exact untaken_of_settled (of_decide_eq_true (settled rfl))
  · obtain ⟨message, sent, named, received⟩ := safe.delivered outboxId row found delivered
    obtain ⟨receipt, there⟩ := isSome_iff_exists.mp received
    exact ⟨message, sent, named, receipt, (outcome_fit _ _).acknowledged receipt there⟩

end Liki.Telegram
