import Liki.Telegram.Messages

/-! A command is answered once. The row of its update pins the body and the notification: a repeated
webhook gets the same notification and writes nothing, as long as the command is fresh, and another body
under the same id is refused. -/
namespace Liki.Telegram
open Checks CallSystem KeyedRows List Option Delivery

variable {Hash : Type} {deployment : Deployment Hash} {state after : TelegramState Hash}

/-- An update that was let in is let in again as long as it is fresh. -/
theorem screened_again (ok : screened settings secret body now = .ok admitted) (again : Time) :
    screened settings secret body again =
      if fresh settings again admitted.sentAt then .ok admitted
      else .error (.domain "STALE_TELEGRAM_COMMAND") := by
  simp only [screened, bind_ok, guard_ok, expect_ok, pure_ok, not_not] at ok
  obtain ⟨known, updateId, numbered, message, envelope, owner, sentAt, dated, -, words, worded, rfl⟩ := ok
  rw [screened, refuseIf_bind_of_not known, numbered, expect, ok_bind, envelope, expect, ok_bind,
    refuseIf_bind_of_not (not_not.mpr owner), dated, expect, ok_bind, refuseIf_bind, worded, ite_not]
  rfl

theorem onOutbox_inbox (ok : onOutbox state call = .ok (told, after)) : after.inbox = state.inbox := by
  simp only [onOutbox, bind_ok, pair_ok, Prod.exists] at ok
  obtain ⟨_, _, -, -, rfl⟩ := ok
  rfl

theorem send_inbox : (send settings state lease response).inbox = state.inbox := by
  unfold send
  split
  · rfl
  · split <;> rfl

variable [DecidableEq Hash]

/-- The row of an update that a call adds is the first one of it. -/
inductive Adds (state after : TelegramState Hash) : Prop
  | kept (same : after.inbox = state.inbox)
  | added {row : InboxRow Hash} (absent : find InboxRow.updateId row.updateId state.inbox = none)
      (grown : after.inbox = state.inbox ++ [row])

theorem handle_adds (ok : handle deployment state call = .ok (told, after)) : Adds state after := by
  cases call with
  | receive request =>
    simp only [handle, bind_ok, pair_ok, Prod.exists] at ok
    obtain ⟨_, _, ok, -, rfl⟩ := ok
    obtain ⟨update, row, received⟩ := receive_ok ok
    have found := received.found
    rcases received.changed with rfl | ⟨absent, outbox, -, rfl⟩
    · exact .kept rfl
    · exact .added ((find_key found).symm ▸ absent) rfl
  | notify => exact .kept (onOutbox_inbox ok)
  | transition => exact .kept (onOutbox_inbox ok)
  | claim => exact .kept (onOutbox_inbox ok)
  | send =>
    simp only [handle] at ok
    split at ok <;> cases ok
    · exact .kept send_inbox
    · exact .kept rfl
  | report =>
    simp only [handle] at ok
    split at ok
    · exact .kept (onOutbox_inbox ok)
    · cases ok
      exact .kept rfl

theorem inbox_kept (deployment : Deployment Hash) (holds : List (InboxRow Hash) → Prop) (start : holds state.inbox)
    (step : ∀ rows row, find InboxRow.updateId row.updateId rows = none → holds rows → holds (rows ++ [row]))
    (calls : List TelegramCall) : holds (run (handle deployment) state calls).inbox := by
  refine run_preserves (fun state : TelegramState Hash => holds state.inbox) start (fun state call kept => ?_) calls
  refine next_of_answered (fun state : TelegramState Hash => holds state.inbox) kept fun _ after ok => ?_
  cases handle_adds ok with
  | kept same => rwa [same]
  | added absent grown =>
    rw [grown]
    exact step _ _ absent kept

/-- What the row of an update makes of the webhook. -/
theorem receive_found (admitted : screened deployment.settings request.secret request.update request.now = .ok asked)
    (permitted : deployment.settings.owner.requires .ownerDecision = .ok ())
    (found : find InboxRow.updateId asked.updateId state.inbox = some row)
    (principal : row.principalId = deployment.settings.owner.principalId) :
    handle deployment state (.receive request) =
      if row.requestHash = deployment.contentHash request.update then
        .ok (.queued row.notificationId, state)
      else .error (.domain "IDEMPOTENCY_CONFLICT") := by
  simp only [handle, receive, admitted, permitted, ok_bind, found, refuseIf_bind, principal, ne_eq,
    not_true_eq_false, or_false, ite_not]
  split <;> rfl

/-- The webhooks of a run that were answered, against later ones. -/
structure AnsweredOnce (deployment : Deployment Hash) (calls : List TelegramCall) : Prop where
  single : Distinct InboxRow.updateId (history deployment calls).inbox
  answered : ∀ earlier request later notificationId, calls = earlier ++ .receive request :: later →
    reply (handle deployment) (history deployment earlier) (.receive request) = .ok (.queued notificationId) →
    ∃ asked, screened deployment.settings request.secret request.update request.now = .ok asked ∧
      -- the same body is answered by the same notification
      (∀ now clock ids read,
        handle deployment (history deployment calls) (.receive { request with now, clock, ids, read }) =
          if fresh deployment.settings now asked.sentAt then .ok (.queued notificationId, history deployment calls)
          else .error (.domain "STALE_TELEGRAM_COMMAND")) ∧
      ∀ other again, screened deployment.settings other.secret other.update other.now = .ok again →
        again.updateId = asked.updateId →
        deployment.contentHash other.update ≠ deployment.contentHash request.update →
        handle deployment (history deployment calls) (.receive other) = .error (.domain "IDEMPOTENCY_CONFLICT")

/-- In every run an update has one row, and whatever comes between, a webhook that was answered is answered
by the same notification again, which changes nothing, or is stale; another body under its id is refused. -/
theorem commands_answered_once (deployment : Deployment Hash) (calls : List TelegramCall) :
    AnsweredOnce deployment calls := by
  refine ⟨inbox_kept deployment (Distinct InboxRow.updateId) ?_
    (fun _ _ absent distinct => distinct_insert distinct absent) calls, ?_⟩
  · exact nodup_nil
  rintro earlier request later notificationId rfl told
  have ok := ok_of_reply told
  simp only [handle, bind_ok, pair_ok, Prod.exists, TelegramAnswer.queued.injEq] at ok
  obtain ⟨_, after, ok, rfl, reached⟩ := ok
  obtain ⟨asked, row, received⟩ := receive_ok ok
  have found : find InboxRow.updateId asked.updateId
      (history deployment (earlier ++ .receive request :: later)).inbox = some row := by
    rw [history, run_append, run_cons]
    exact inbox_kept deployment (fun rows => find InboxRow.updateId asked.updateId rows = some row)
      (reached ▸ received.found) (fun _ _ _ found => find_append_some found _) later
  refine ⟨asked, received.admitted, fun now clock ids read => ?_, fun other again admitted same differ => ?_⟩
  · by_cases recent : fresh deployment.settings now asked.sentAt
    · have admitted := screened_again received.admitted now
      rw [if_pos recent] at admitted ⊢
      rw [receive_found admitted received.permitted found received.principal, if_pos received.hash,
        received.answered]
    · have refused := screened_again received.admitted now
      rw [if_neg recent] at refused ⊢
      rw [handle, receive, refused]
      rfl
  · rw [receive_found admitted received.permitted (same ▸ found) received.principal, received.hash,
      if_neg differ.symm]

end Liki.Telegram
