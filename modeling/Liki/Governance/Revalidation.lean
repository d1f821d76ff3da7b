import Liki.Governance.Approvals

/-! Failures after the owner was notified. Passing evidence is accepted only when all of it
ran after the last failure that the delivery on record did not see, and a GREEN or AMBER
proposal is promoted only on a delivery that saw its evidence, so the owner has to be
notified again. What the checks are called plays no part, and neither does a failure from
before the delivery on record. -/
namespace Liki.Governance
open Checks GovernanceState CallSystem EventLog List KeyedRows Option

variable {deployment : Deployment} {state between after : GovernanceState} {call : GovernanceCall}
  {row : ProposalRow} {edit : ProposalEdit} {lifecycle : LifecycleEvidence}
  {proposalId operationKey policyVersion : String} {request : GovernanceTransition} {failedAt : Time}
  {actor : Identity} {answered : GovernanceAnswer} {expectedVersion : ℕ}

def OutcomesRecorded (state : GovernanceState) : Prop :=
  ∀ eventId event proposalId lifecycle, state.store.events[eventId]? = some event →
    Records proposalId lifecycle event →
      ∀ outcome ∈ lifecycleOutcomes eventId proposalId lifecycle.phased, outcome ∈ state.outcomes

theorem OutcomesRecorded.quiet (kept : OutcomesRecorded state)
    (quiet : Quiet "governance_proposal" state after) (outcomes : after.outcomes = state.outcomes) :
    OutcomesRecorded after := by
  obtain ⟨_, events, others⟩ := quiet.events
  intro eventId event proposalId lifecycle found records
  rw [events, getElem?_append] at found
  rw [outcomes]
  split at found
  · exact kept eventId event proposalId lifecycle found records
  · exact absurd records.1 (others event (mem_of_getElem? found))

theorem OutcomesRecorded.logged {recorded : GovernanceState} (kept : OutcomesRecorded state)
    (logged : Logged state operationKey request recorded)
    (events : after.store.events = recorded.store.events)
    (grown : ∀ outcome ∈ state.outcomes, outcome ∈ after.outcomes)
    (newest : ∀ proposalId lifecycle, Records proposalId lifecycle ⟨operationKey, request⟩ →
      ∀ outcome ∈ lifecycleOutcomes (recorded.eventId operationKey) proposalId lifecycle.phased,
        outcome ∈ after.outcomes) : OutcomesRecorded after := by
  intro eventId event proposalId lifecycle found records outcome member
  rw [events] at found
  cases logged with
  | replayed =>
    exact grown outcome (kept eventId event proposalId lifecycle found records outcome member)
  | appended topic fresh current =>
    rw [GovernanceState.logged, Store.append, getElem?_append] at found
    split at found
    · exact grown outcome (kept eventId event proposalId lifecycle found records outcome member)
    · rename_i beyond
      rw [getElem?_singleton] at found
      split at found
      · rename_i last
        cases found
        have here : (state.logged operationKey request topic).eventId operationKey = eventId := by
          rw [eventId_logged fresh]
          omega
        exact newest proposalId lifecycle records outcome (here ▸ member)
      · cases found

theorem ProposalEdit.records (typed : edit.eventType = "GOVERNANCE_LIFECYCLE_EVIDENCE") :
    ∃ lifecycle, edit = .lifecycle lifecycle := by
  cases edit with
  | lifecycle evidence => exact ⟨evidence, rfl⟩
  | decided =>
    rw [eventType] at typed
    split at typed <;> exact absurd typed (by decide)
  | classified | reviewed | synthesized | queued | delivered | evaluated =>
    exact absurd typed (by simp [eventType])

theorem EditRequest.records (requested : EditRequest edit row request)
    (records : Records proposalId lifecycle ⟨operationKey, request⟩) :
    edit = .lifecycle lifecycle ∧ row.proposalId = proposalId := by
  obtain ⟨-, named, typed, metadata⟩ := records
  obtain ⟨_, rfl⟩ := ProposalEdit.records (requested.eventType.symm.trans typed)
  have said := (requested.metadata _ rfl).symm.trans metadata
  cases said
  exact ⟨rfl, requested.aggregateId.symm.trans named⟩

theorem ProposalWrite.outcomes (write : ProposalWrite deployment state call after) :
    ∀ outcome ∈ state.outcomes, outcome ∈ after.outcomes := by
  intro outcome member
  cases write with
  | proposed logged =>
    rw [logged.store_only]
    exact member
  | reproposed logged =>
    rw [logged.store_only]
    exact member
  | edited => exact mem_append_left _ member

theorem OutcomesRecorded.write (kept : OutcomesRecorded state)
    (write : ProposalWrite deployment state call after) : OutcomesRecorded after := by
  have grown := write.outcomes
  cases write with
  | proposed logged =>
    exact kept.logged logged rfl grown fun _ _ records => absurd records.2.2.1 (by simp [proposalRequest])
  | reproposed logged =>
    exact kept.logged logged rfl grown fun _ _ records => absurd records.2.2.1 (by simp [proposalRequest])
  | edited _ _ logged requested =>
    refine kept.logged logged rfl grown fun proposalId lifecycle records outcome member => ?_
    obtain ⟨rfl, rfl⟩ := requested.records records
    exact mem_append_right _ member

theorem OutcomesRecorded.effect (kept : OutcomesRecorded state)
    (effect : Effect deployment state call after) : OutcomesRecorded after := by
  have aside : ∀ {between}, Aside state between → OutcomesRecorded between := fun stepped =>
    kept.quiet (stepped.quiet (by simp [ruledKinds])) stepped.outcomes
  cases effect with
  | aside stepped => exact aside stepped
  | policies write => exact kept.quiet (write.quiet (by decide)) (by rw [write.frame])
  | incidents stepped write =>
    exact (aside stepped).quiet (write.quiet (by decide)) (by rw [write.frame])
  | proposals stepped write => exact (aside stepped).write write

theorem outcomesRecorded_history (deployment : Deployment) (calls : List GovernanceCall) :
    OutcomesRecorded (history deployment calls) :=
  run_preserves OutcomesRecorded (by simp [OutcomesRecorded, GovernanceState.empty, Store.empty])
    (fun _ _ kept => next_of_answered OutcomesRecorded kept
      fun _ _ ok => kept.effect (effect_of_answer ok)) calls

theorem recorded_fresh {recorded : GovernanceState} (kept : OutcomesRecorded state)
    (logged : Logged state operationKey request recorded)
    (records : Records proposalId lifecycle ⟨operationKey, request⟩) (checked : lifecycle.phased ≠ [])
    (distinct : ((state.outcomes ++ lifecycleOutcomes (recorded.eventId operationKey) proposalId
      lifecycle.phased).map LifecycleOutcome.key).Nodup) :
    recorded.store.events = state.store.events ++ [⟨operationKey, request⟩] ∧
      recorded.eventId operationKey = state.store.events.length := by
  cases logged with
  | appended _ fresh => exact ⟨rfl, eventId_logged fresh⟩
  | replayed replayed =>
    obtain ⟨event, found, rfl⟩ := replayed
    obtain rfl := find_key found
    obtain ⟨_, _, listed⟩ := exists_cons_of_ne_nil checked
    have twice := kept _ event proposalId lifecycle (getElem_eventId found) records
    rw [map_append, nodup_append] at distinct
    rw [listed] at twice distinct
    exact absurd rfl (distinct.2.2 _ (mem_map_of_mem (twice _ mem_cons_self)) _
      mem_cons_self)

/-- What recording evidence with a check leaves behind. -/
theorem recordLifecycle_recorded (kept : OutcomesRecorded state)
    (ok : recordLifecycle deployment state actor proposalId lifecycle expectedVersion operationKey
      policyVersion = .ok (answered, after))
    (checked : lifecycle.phased ≠ []) (found : state.findProposal proposalId = some row) :
    answered = .event state.store.events.length ∧
      (∃ event, after.store.events = state.store.events ++ [event] ∧ Records proposalId lifecycle event) ∧
      after.findProposal proposalId = some ((ProposalEdit.lifecycle lifecycle).apply row) ∧
      ∀ outcome ∈ lifecycleOutcomes state.store.events.length proposalId lifecycle.phased,
        outcome ∈ after.outcomes := by
  simp only [recordLifecycle, lifecycleChecks, insertOutcomes, Identity.requires, bind_ok,
    expect_ok, guard_ok, Prod.exists, pure_ok, Prod.mk.injEq, not_not] at ok
  obtain ⟨-, _, found', _, ⟨-, rfl⟩, _, -, -, _, recorded, moved, _,
    ⟨distinct, rfl⟩, written, updated, rfl, rfl⟩ := ok
  rw [found] at found'
  cases found'
  obtain ⟨logged, rfl⟩ := transition_ok moved
  obtain ⟨-, rfl⟩ := updateProposal_ok updated
  have named : row.proposalId = proposalId := find_key found
  have outcomes : recorded.outcomes = state.outcomes := by rw [logged.store_only]
  obtain ⟨events, eventId⟩ := recorded_fresh kept logged ⟨rfl, rfl, rfl, rfl⟩ checked (outcomes ▸ distinct)
  refine ⟨by rw [eventId], ⟨_, events, rfl, rfl, rfl, rfl⟩, ?_, fun outcome member => ?_⟩
  · have still : recorded.findProposal proposalId = some row :=
      (findProposal_logged logged proposalId).trans found
    have edited : find ProposalRow.proposalId proposalId (update
        ProposalRow.proposalId row.proposalId (ProposalEdit.lifecycle lifecycle).apply
        recorded.proposals) = some ((ProposalEdit.lifecycle lifecycle).apply row) := by
      rw [findProposal_edited, if_pos named.symm]
      exact congrArg (Option.map _) still
    exact edited
  · rw [← eventId] at member
    exact mem_append_right _ member

structure Failed (state : GovernanceState) (row : ProposalRow) (failedAt : Time) : Prop where
  delivered : ∃ delivery ∈ row.ownerDelivery, delivery.deliveredAt ≤ failedAt
  outcome : ∃ outcome ∈ state.outcomes, outcome.proposalId = row.proposalId ∧ outcome.result = .fail ∧
    outcome.executedAt = failedAt
  since : row.lifecycle.hasFailure ∨ ∀ check ∈ row.lifecycle.checks, failedAt < check.executedAt

theorem failedAt_last {outcome : LifecycleOutcome} {since : Time} (recorded : outcome ∈ state.outcomes)
    (failed : outcome.result = .fail) (counts : since ≤ outcome.executedAt) :
    ∃ last, state.failedAt outcome.proposalId since = some last ∧ outcome.executedAt ≤ last := by
  have member : outcome.executedAt ∈ (state.outcomes.filter fun other =>
      other.proposalId = outcome.proposalId ∧ other.result = .fail ∧ since ≤ other.executedAt).map
        LifecycleOutcome.executedAt :=
    mem_map_of_mem (mem_filter.mpr ⟨recorded, by simp [failed, counts]⟩)
  cases found : state.failedAt outcome.proposalId since with
  | none =>
    rw [GovernanceState.failedAt, max?_eq_none_iff] at found
    rw [found] at member
    cases member
  | some last => exact ⟨last, rfl, (max?_eq_some_iff.mp found).2 _ member⟩

theorem Failed.revalidated (failed : Failed state row failedAt)
    (found : state.findProposal row.proposalId = some row)
    (fresh : ¬requiresFreshRevalidation state row.proposalId lifecycle) :
    ∀ check ∈ lifecycle.checks, failedAt < check.executedAt := by
  intro check listed
  by_contra early
  obtain ⟨delivery, recorded, delivered⟩ := failed.delivered
  obtain ⟨_, member, about, fails, rfl⟩ := failed.outcome
  obtain ⟨last, latest, bound⟩ := failedAt_last member fails delivered
  rw [about] at latest
  refine fresh ⟨row, found, delivery, recorded, last, latest, check, listed, ?_⟩
  exact (not_lt.mp early).trans bound

theorem Edits.failed (edits : Edits deployment state row call edit)
    (found : state.findProposal row.proposalId = some row) (failed : Failed state row failedAt)
    (outcomes : ∀ outcome ∈ state.outcomes, outcome ∈ after.outcomes) :
    Failed after (edit.apply row) failedAt ∨
      ∃ channel expectedVersion operationKey policyVersion, call.request =
        .recordOwnerDelivery row.proposalId channel expectedVersion operationKey policyVersion := by
  obtain ⟨outcome, member, said⟩ := failed.outcome
  cases edits with
  | classify | recordReview | recordSynthesis | queueOwnerNotification | decide | evaluate =>
    exact .inl ⟨failed.delivered, ⟨outcome, outcomes outcome member, said⟩, failed.since⟩
  | recordLifecycle named _ revalidated =>
    refine .inl ⟨failed.delivered, ⟨outcome, outcomes outcome member, said⟩, ?_⟩
    exact revalidated.imp id fun fresh => failed.revalidated found (named ▸ fresh)
  | recordOwnerDelivery named => exact .inr ⟨_, _, _, _, by rw [named]⟩

structure Revalidates (lifecycle : LifecycleEvidence) (failedAt : Time) : Prop where
  tested : lifecycle.tests ≠ []
  passing : ¬lifecycle.hasFailure
  later : ∀ check ∈ lifecycle.checks, failedAt < check.executedAt

structure Delivers (deployment : Deployment) (state : GovernanceState) (call : GovernanceCall)
    (proposalId : String) (delivery : OwnerDelivery) : Prop where
  requested : ∃ channel expectedVersion operationKey policyVersion, call.request =
    .recordOwnerDelivery proposalId channel expectedVersion operationKey policyVersion
  answered : reply (answer deployment) state call = .ok (.delivery delivery)

/-- The call records that the owner got a notification of evidence that revalidates a failure
and that was recorded after it. -/
structure NotifiedAgain (deployment : Deployment) (state : GovernanceState) (call : GovernanceCall)
    (proposalId : String) (failedAt : Time) (failedEvent : ℕ) (delivery : OwnerDelivery) : Prop where
  delivers : Delivers deployment state call proposalId delivery
  revalidates : Revalidates delivery.lifecycleSnapshot failedAt
  queued : ∃ lifecycleEvent, failedEvent < lifecycleEvent ∧ state.queuedNotification proposalId
    delivery.authoritativeChannel delivery.lifecycleSnapshot lifecycleEvent = some delivery.notificationId

variable {earlier : List GovernanceEvent} {event : GovernanceEvent} {failing : LifecycleEvidence}
  {more : List GovernanceEvent} {given : GovernanceAnswer}

/-- The latest evidence is not from before evidence that differs from it. -/
theorem latestLifecycleEvent_after {eventId : ℕ}
    (events : state.store.events = earlier ++ event :: more)
    (records : Records proposalId failing event) (differ : lifecycle ≠ failing)
    (latest : state.latestLifecycleEvent proposalId lifecycle = .ok eventId) :
    earlier.length < eventId := by
  simp only [latestLifecycleEvent, bind_ok, expect_ok, guard_ok, pure_ok, not_not,
    Prod.exists] at latest
  obtain ⟨newest, _, found, metadata, rfl⟩ := latest
  have order : state.store.events.zipIdx.reverse = (more.zipIdx (earlier.length + 1)).reverse ++
      (event, earlier.length) :: earlier.zipIdx.reverse := by
    rw [events, zipIdx_append, reverse_append, zipIdx_cons, reverse_cons]
    simp
  rw [order, find?_append, or_eq_some_iff] at found
  rcases found with newer | ⟨-, here⟩
  · have member := mem_reverse.mp (mem_of_find?_eq_some newer)
    have bound := (mem_zipIdx member).1
    omega
  · -- the evidence that differs is the newest of the rest
    rw [find?_cons_of_pos (by simp [records.1, records.2.1, records.2.2.1])] at here
    cases here
    have said := metadata.symm.trans records.2.2.2
    cases said
    exact absurd rfl differ

theorem recordOwnerDelivery_answered
    (ok : recordOwnerDelivery deployment state actor proposalId channel expectedVersion operationKey
      policyVersion = .ok (answered, after)) (found : state.findProposal proposalId = some row) :
    ∃ delivery lifecycleEvent, answered = .delivery delivery ∧ delivery.lifecycleSnapshot = row.lifecycle ∧
      (row.lifecycle.tests ≠ [] ∧ ¬row.lifecycle.hasFailure) ∧
      state.latestLifecycleEvent proposalId row.lifecycle = .ok lifecycleEvent ∧
      state.queuedNotification proposalId delivery.authoritativeChannel row.lifecycle lifecycleEvent =
        some delivery.notificationId ∧
      (after.findProposal proposalId).bind ProposalRow.ownerDelivery = some delivery := by
  simp only [recordOwnerDelivery, bind_ok, expect_ok, guard_ok, Prod.exists, pair_ok,
    Option.filter_eq_some_iff] at ok
  obtain ⟨-, -, _, found', lifecycleEvent, passing, notificationId, ⟨queued, -⟩, receipt, -, -,
    recordedId, recorded, moved, written, updated, rfl, rfl⟩ := ok
  rw [found] at found'
  cases found'
  obtain ⟨logged, -⟩ := transition_ok moved
  obtain ⟨-, rfl⟩ := updateProposal_ok updated
  refine ⟨_, lifecycleEvent, rfl, rfl, passingLifecycle_ok passing, ?_, queued, ?_⟩
  · simp only [passingLifecycle, bind_ok, guard_ok] at passing
    obtain ⟨-, -, -, latest⟩ := passing
    exact latest
  · have named : row.proposalId = proposalId := find_key found
    have still : recorded.findProposal proposalId = some row :=
      (findProposal_logged logged proposalId).trans found
    let delivery : OwnerDelivery := ⟨channel, notificationId, receipt.providerMessageId,
      receipt.deliveredAt, row.lifecycle⟩
    have edited : find ProposalRow.proposalId proposalId (update
        ProposalRow.proposalId row.proposalId (ProposalEdit.delivered delivery).apply recorded.proposals) =
        some ((ProposalEdit.delivered delivery).apply row) := by
      rw [findProposal_edited, if_pos named.symm]
      exact congrArg (Option.map _) still
    exact congrArg (fun found => Option.bind found ProposalRow.ownerDelivery) edited

theorem Effect.outcomes (effect : Effect deployment state call after) :
    ∀ outcome ∈ state.outcomes, outcome ∈ after.outcomes := by
  intro outcome member
  cases effect with
  | aside stepped => exact stepped.outcomes ▸ member
  | policies write =>
    rw [write.frame]
    exact member
  | incidents stepped write =>
    rw [write.frame]
    exact stepped.outcomes ▸ member
  | proposals stepped write => exact write.outcomes outcome (stepped.outcomes ▸ member)

theorem Edits.ownerDelivery (edits : Edits deployment state row call edit) :
    (edit.apply row).ownerDelivery = row.ownerDelivery ∨
      ∃ channel expectedVersion operationKey policyVersion, call.request =
        .recordOwnerDelivery row.proposalId channel expectedVersion operationKey policyVersion := by
  cases edits with
  | classify | recordReview | recordLifecycle | recordSynthesis | queueOwnerNotification | decide
  | evaluate => exact .inl rfl
  | recordOwnerDelivery named => exact .inr ⟨_, _, _, _, by rw [named]⟩

theorem row_after (ok : answer deployment state call = .ok (given, after))
    (found : state.findProposal proposalId = some row) :
    ∃ now, after.findProposal proposalId = some now ∧
      ((now.ownerDelivery = row.ownerDelivery ∧
          ∀ failedAt, Failed state row failedAt → Failed after now failedAt) ∨
        ∃ channel expectedVersion operationKey policyVersion, call.request =
          .recordOwnerDelivery proposalId channel expectedVersion operationKey policyVersion) := by
  have outcomes := (effect_of_answer ok).outcomes
  obtain ⟨now, found'⟩ := (effect_of_answer ok).keeps found
  refine ⟨now, found', ?_⟩
  by_cases changed : now = row
  · subst changed
    refine .inl ⟨rfl, fun failedAt failed => ⟨failed.delivered, ?_, failed.since⟩⟩
    obtain ⟨outcome, member, said⟩ := failed.outcome
    exact ⟨outcome, outcomes outcome member, said⟩
  · obtain ⟨between, _, aside, edits, rfl, -⟩ := changed_by_edit ok found found' changed
    have named := find_key found
    have present : between.findProposal row.proposalId = some row := by
      rw [aside.findProposal, named]
      exact found
    rw [← named]
    rcases edits.ownerDelivery with same | delivers
    · refine or_iff_not_imp_right.mpr fun silent => ⟨same, fun failedAt failed => ?_⟩
      have stepped : Failed between row failedAt := ⟨failed.delivered, aside.outcomes ▸ failed.outcome, failed.since⟩
      exact (edits.failed present stepped (aside.outcomes ▸ outcomes)).resolve_right silent
    · exact .inr delivers

theorem Failed.notified {now : ProposalRow} (failed : Failed state row failedAt)
    (found : state.findProposal proposalId = some row)
    (events : state.store.events = earlier ++ event :: more)
    (records : Records proposalId failing event) (fails : failing.hasFailure)
    (ok : answer deployment state call = .ok (given, after))
    (found' : after.findProposal proposalId = some now)
    (requested : ∃ channel expectedVersion operationKey policyVersion, call.request =
      .recordOwnerDelivery proposalId channel expectedVersion operationKey policyVersion) :
    ∃ delivery, NotifiedAgain deployment state call proposalId failedAt earlier.length delivery ∧
      now.ownerDelivery = some delivery := by
  obtain ⟨_, _, _⟩ := call
  obtain ⟨_, _, _, _, rfl⟩ := requested
  obtain ⟨delivery, lifecycleEvent, rfl, same, ⟨tested, passing⟩, latest, queued, recorded⟩ :=
    recordOwnerDelivery_answered ok found
  rw [found'] at recorded
  have differ : row.lifecycle ≠ failing := fun equal => passing (equal ▸ fails)
  refine ⟨delivery, ⟨⟨⟨_, _, _, _, rfl⟩, reply_of_ok ok⟩, ?_, lifecycleEvent,
    latestLifecycleEvent_after events records differ latest, same ▸ queued⟩, recorded⟩
  rw [same]
  exact ⟨tested, passing, failed.since.resolve_left passing⟩

def Renotified (deployment : Deployment) (start later : List GovernanceCall) (proposalId : String)
    (failedAt : Time) (failedEvent : ℕ) : Prop :=
  ∃ middle call rest delivery, later = middle ++ call :: rest ∧ NotifiedAgain deployment
    (history deployment (start ++ middle)) call proposalId failedAt failedEvent delivery

def RenotifiedTwice (deployment : Deployment) (start later : List GovernanceCall) (proposalId : String)
    (failedAt : Time) (failedEvent : ℕ) : Prop :=
  ∃ middle call rest again last delivery other, later = middle ++ call :: rest ++ again :: last ∧
    NotifiedAgain deployment (history deployment (start ++ middle)) call proposalId failedAt failedEvent
      delivery ∧
    Delivers deployment (history deployment (start ++ (middle ++ call :: rest))) again proposalId other

theorem failed_until_notified
    (events : (history deployment start).store.events = earlier ++ [event])
    (records : Records proposalId failing event) (fails : failing.hasFailure)
    (found : (history deployment start).findProposal proposalId = some row)
    (failed : Failed (history deployment start) row failedAt) (later : List GovernanceCall) :
    ∃ now, (history deployment (start ++ later)).findProposal proposalId = some now ∧
      (Failed (history deployment (start ++ later)) now failedAt ∨
        (∃ middle call rest delivery, later = middle ++ call :: rest ∧ NotifiedAgain deployment
          (history deployment (start ++ middle)) call proposalId failedAt earlier.length delivery ∧
          now.ownerDelivery = some delivery) ∨
        RenotifiedTwice deployment start later proposalId failedAt earlier.length) := by
  induction later using reverseRecOn with
  | nil =>
    rw [append_nil]
    exact ⟨row, found, .inl failed⟩
  | append_singleton later call ih =>
    obtain ⟨now, present, held⟩ := ih
    -- a second delivery stays among the calls
    have twice : RenotifiedTwice deployment start later proposalId failedAt earlier.length →
        RenotifiedTwice deployment start (later ++ [call]) proposalId failedAt earlier.length := by
      rintro ⟨middle, first, rest, again, last, delivery, other, rfl, notified, delivers⟩
      exact ⟨middle, first, rest, again, last ++ [call], delivery, other, by simp, notified, delivers⟩
    rw [← append_assoc, history_append]
    cases result : answer deployment (history deployment (start ++ later)) call with
    | error =>
      rw [next_of_error result]
      refine ⟨now, present, held.imp id (Or.imp ?_ twice)⟩
      rintro ⟨middle, first, rest, delivery, rfl, notified, recorded⟩
      exact ⟨middle, first, rest ++ [call], delivery, by simp, notified, recorded⟩
    | ok pair =>
      obtain ⟨_, _⟩ := pair
      rw [next_of_ok result]
      obtain ⟨next, present', kept⟩ := row_after result present
      refine ⟨next, present', ?_⟩
      rcases held with failed | ⟨middle, first, rest, delivery, rfl, notified, recorded⟩ | done
      · rcases kept with ⟨-, still⟩ | delivers
        · exact .inl (still failedAt failed)
        · obtain ⟨_, grown⟩ := history_continues deployment start later
          rw [events, append_assoc] at grown
          obtain ⟨delivery, notified, recorded⟩ :=
            failed.notified present grown records fails result present' delivers
          exact .inr (.inl ⟨later, call, [], delivery, rfl, notified, recorded⟩)
      · rcases kept with ⟨same, -⟩ | delivers
        · exact .inr (.inl ⟨middle, first, rest ++ [call], delivery, by simp, notified,
            same.trans recorded⟩)
        · obtain ⟨_, _, _⟩ := call
          obtain ⟨_, _, _, _, rfl⟩ := delivers
          obtain ⟨other, -, rfl, -⟩ := recordOwnerDelivery_answered result present
          exact .inr (.inr ⟨middle, first, rest, _, [], delivery, other, rfl, notified,
            ⟨_, _, _, _, rfl⟩, reply_of_ok result⟩)
      · exact .inr (.inr (twice done))

/-- What a promotion after a failure rests on. The evidence that is promoted ran after the
failure, unless the owner was notified since, of evidence that did, and of other evidence
again. A RED proposal needs no notification. -/
structure RevalidatedPromotion (deployment : Deployment) (start later : List GovernanceCall)
    (proposalId : String) (failedAt : Time) (failedEvent : ℕ) (row : ProposalRow) : Prop where
  revalidated : Revalidates row.lifecycle failedAt ∨
    (row.red ∧ Renotified deployment start later proposalId failedAt failedEvent) ∨
      RenotifiedTwice deployment start later proposalId failedAt failedEvent
  renotified : ¬row.red → Renotified deployment start later proposalId failedAt failedEvent
  delivered : ¬row.red → ∃ delivery ∈ row.ownerDelivery, delivery.lifecycleSnapshot = row.lifecycle ∧
    ∀ check ∈ row.lifecycle.checks, check.executedAt ≤ delivery.deliveredAt

theorem promotion_found
    (evaluates : ∃ expectedVersion operationKey policyVersion changeSetId, call.request =
      .evaluate proposalId expectedVersion operationKey policyVersion changeSetId)
    (found : state.findProposal proposalId = some row)
    (promoted : reply (answer deployment) state call = .ok (.status .promoted)) :
    (row.lifecycle.tests ≠ [] ∧ ¬row.lifecycle.hasFailure) ∧
      (¬row.red → ∃ delivery ∈ row.ownerDelivery, delivery.lifecycleSnapshot = row.lifecycle ∧
        ∀ check ∈ row.lifecycle.checks, check.executedAt ≤ delivery.deliveredAt) := by
  obtain ⟨_, _, _⟩ := call
  obtain ⟨_, _, _, _, rfl⟩ := evaluates
  obtain ⟨classification, _, _, classified, -, -, said⟩ :=
    evaluation_of_answer (ok_of_reply promoted) found
  obtain ⟨-, requirements, authorised⟩ :=
    evaluatePromotion_promoted.mp (GovernanceAnswer.status.inj said).symm
  refine ⟨⟨requirements.tested, fun failed => ?_⟩, fun other => ?_⟩
  · obtain ⟨check, member, fails⟩ := hasFailure_iff.mp failed
    exact requirements.passing check member fails
  · obtain ⟨delivery, recorded, delivered⟩ :=
      authorised.notified fun red => other ⟨classification, classified, red⟩
    exact ⟨delivery, recorded, delivered.same, delivered.checked⟩

theorem Failed.undelivered (failed : Failed state row failedAt) (tested : row.lifecycle.tests ≠ [])
    (passing : ¬row.lifecycle.hasFailure) (recorded : row.ownerDelivery = some delivery) :
    ¬∀ check ∈ row.lifecycle.checks, check.executedAt ≤ delivery.deliveredAt := by
  intro checked
  obtain ⟨_, same, early⟩ := failed.delivered
  rw [recorded] at same
  cases same
  obtain ⟨check, _, listed⟩ := exists_cons_of_ne_nil tested
  have member : check ∈ row.lifecycle.checks := by simp [LifecycleEvidence.checks, listed]
  have later := failed.since.resolve_left passing check member
  exact absurd (later.trans_le (checked check member)) (not_lt.mpr early)

/-- Once evidence is recorded with a check that failed at or after the delivery on record, an
evaluation answers PROMOTED only if the failure was revalidated and, unless the proposal is
RED, the owner was notified of that. -/
theorem promoted_revalidated (deployment : Deployment) (earlier later : List GovernanceCall)
    (failing evaluating : GovernanceCall) (proposalId : String) (lifecycle : LifecycleEvidence)
    (expectedVersion : ℕ) (operationKey policyVersion : String) (before row : ProposalRow)
    (delivery : OwnerDelivery) (check : AutomatedCheck) (failedEvent : ℕ)
    (records : failing.request =
      .recordLifecycle proposalId lifecycle expectedVersion operationKey policyVersion)
    (recorded : reply (answer deployment) (history deployment earlier) failing = .ok (.event failedEvent))
    (found : (history deployment earlier).findProposal proposalId = some before)
    (notified : before.ownerDelivery = some delivery) (listed : check ∈ lifecycle.checks)
    (failed : check.result = .fail) (late : delivery.deliveredAt ≤ check.executedAt)
    (evaluates : ∃ expectedVersion operationKey policyVersion changeSetId, evaluating.request =
      .evaluate proposalId expectedVersion operationKey policyVersion changeSetId)
    (found' : (history deployment (earlier ++ [failing] ++ later)).findProposal proposalId = some row)
    (promoted : reply (answer deployment) (history deployment (earlier ++ [failing] ++ later)) evaluating =
      .ok (.status .promoted)) :
    RevalidatedPromotion deployment (earlier ++ [failing]) later proposalId check.executedAt failedEvent
      row := by
  obtain ⟨_, _, _⟩ := failing
  subst records
  have ok := ok_of_reply recorded
  rw [← history_append] at ok
  have fails : lifecycle.hasFailure := hasFailure_iff.mpr ⟨check, listed, failed⟩
  rw [← LifecycleEvidence.phased_checks] at listed
  obtain ⟨phased, member, rfl⟩ := mem_map.mp listed
  obtain ⟨answered, ⟨_, events, records⟩, start, outcomes⟩ := recordLifecycle_recorded
    (outcomesRecorded_history deployment earlier) ok (ne_nil_of_mem member) found
  cases answered
  have named : before.proposalId = proposalId := find_key found
  have onRecord : Failed _ ((ProposalEdit.lifecycle lifecycle).apply before) phased.2.executedAt :=
    ⟨⟨delivery, notified, late⟩, ⟨_, outcomes _ (mem_map_of_mem member), named.symm, failed, rfl⟩,
      .inl fails⟩
  obtain ⟨_, present, held⟩ := failed_until_notified events records fails start onRecord later
  rw [found'] at present
  cases present
  obtain ⟨⟨tested, passing⟩, delivered⟩ := promotion_found evaluates found' promoted
  rcases held with still | ⟨middle, call, rest, again, whole, renotified, recorded⟩ | twice
  · refine ⟨.inl ⟨tested, passing, still.since.resolve_left passing⟩, fun other => ?_, delivered⟩
    obtain ⟨last, recorded, -, checked⟩ := delivered other
    exact absurd checked (still.undelivered tested passing recorded)
  · have once : Renotified deployment _ later proposalId phased.2.executedAt _ :=
      ⟨middle, call, rest, again, whole, renotified⟩
    refine ⟨?_, fun _ => once, delivered⟩
    by_cases red : row.red
    · exact .inr (.inl ⟨red, once⟩)
    · obtain ⟨last, same, snapshot, -⟩ := delivered red
      rw [recorded] at same
      cases same
      exact .inl (snapshot ▸ renotified.revalidates)
  · obtain ⟨middle, call, rest, again, last, first, _, whole, renotified, -⟩ := id twice
    refine ⟨.inr (.inr twice), fun _ => ⟨middle, call, rest ++ again :: last, first, ?_, renotified⟩,
      delivered⟩
    rw [whole]
    simp

namespace Small

def resultFields (checkId : String) (result : CheckResult) (executedAt : ℕ) : Fields :=
  [("check_id", .text checkId), ("check_kind", .text "test"), ("result", .text result.value),
    ("executed_at_utc", .text (toString executedAt))]

def everyPhase (artifactId : ℕ) (checkId : String) (result : CheckResult) (executedAt : ℕ) :
    LifecycleEvidence :=
  have check : AutomatedCheck := ⟨checkId, "test", result,
    provenance artifactId evaluator (resultFields checkId result executedAt), executedAt⟩
  ⟨[check], [check], [check], [check]⟩

def checkRun (now : ℕ) (checkId : String) (result : CheckResult) (executedAt : ℕ) : GovernanceCall :=
  made now evaluator (.putArtifact (resultFields checkId result executedAt)
    "governance/automated-check-result/v1" .internal "v1")

def evidenceRecorded (now version : ℕ) (lifecycle : LifecycleEvidence) : GovernanceCall :=
  made now governance (.recordLifecycle "GP-1" lifecycle version ("evidence" ++ toString now) "v1")

def packageFields (now : ℕ) (lifecycle : LifecycleEvidence) : Fields :=
  [("proposal_id", .text "GP-1"), ("channel", .text "telegram"),
    ("lifecycle_snapshot_hash", .lifecycleHash lifecycle), ("title", .text ("Round " ++ toString now)),
    ("message", .text "Please decide")]

def ownerNotified (now artifactId version : ℕ) (lifecycle : LifecycleEvidence) : List GovernanceCall :=
  [made now governance (.putArtifact (packageFields now lifecycle)
      "governance/owner-notification-package/v1" .internal "v1"),
    made (now + 1) governance (.queueOwnerNotification "GP-1" "telegram"
      (provenance artifactId governance (packageFields now lifecycle)) version
      ("queue" ++ toString now) "v1"),
    made (now + 2) governance (.deliver ("NTF-" ++ toString (now + 1)) "receipt"),
    made (now + 3) governance (.recordOwnerDelivery "GP-1" "telegram" (version + 1)
      ("delivered" ++ toString now) "v1")]

def reviewedAs (declared : ChangeClass) (numbers : List String) : List GovernanceCall :=
  ruled ++ [made 20 governance
      (.putArtifact manifestFields "governance/evidence-manifest/v1" .internal "v1"),
    made 21 owner (.propose { change with declaredClass := declared } "propose" "v1"),
    made 22 governance (.classify "GP-1" policy 1 "classify")] ++
  numbers.mapIdx fun index number =>
    made (23 + index) governance (.recordReview (audit number)
      (provenance 1 governance manifestFields) (2 + index) ("review" ++ number) "v1")

def notifiedOnce (version : ℕ) : List GovernanceCall :=
  [checkRun 40 "unit" .pass 40, evidenceRecorded 41 version (everyPhase 2 "unit" .pass 40)] ++
    ownerNotified 42 3 (version + 1) (everyPhase 2 "unit" .pass 40) ++ [checkRun 50 "unit" .fail 50]

def failedAfter (version : ℕ) : GovernanceCall :=
  evidenceRecorded 51 version (everyPhase 4 "unit" .fail 50)

def greenNotified : List GovernanceCall := reviewedAs .green ["1", "2", "3"] ++ notifiedOnce 5

def revalidatedAs (checkId : String) : List GovernanceCall :=
  [checkRun 60 checkId .pass 60, evidenceRecorded 61 9 (everyPhase 5 checkId .pass 60)] ++
    ownerNotified 62 6 10 (everyPhase 5 checkId .pass 60)

def olderAgain : List GovernanceCall :=
  [checkRun 70 "unit" .pass 45, evidenceRecorded 71 12 (everyPhase 7 "unit" .pass 45)] ++
    ownerNotified 72 8 13 (everyPhase 7 "unit" .pass 45)

def redRevalidated : List GovernanceCall :=
  reviewedAs .red ["1", "2", "3", "4", "5", "6", "7"] ++ notifiedOnce 9 ++ [failedAfter 12,
    checkRun 60 "unit" .pass 60, evidenceRecorded 61 13 (everyPhase 5 "unit" .pass 60),
    Small.approved 70 14, made 71 ⟨"gov2", .governance⟩ (.recordSynthesis
      ⟨"GP-1", "gov2", provenance 1 governance manifestFields, []⟩ 15 "synthesize" "v1")]

def evaluatedLater (version : ℕ) : GovernanceCall :=
  made 100000000000 governance (.evaluate "GP-1" version "evaluate" "v1" none)

end Small

open Governance.Small

theorem promoted_revalidated_green :
    RevalidatedPromotion Small.deployment (greenNotified ++ [failedAfter 8]) (revalidatedAs "unit") "GP-1"
      50 10 ((rowAfter (greenNotified ++ [failedAfter 8] ++ revalidatedAs "unit")).get
        (by decide +kernel)) :=
  promoted_revalidated Small.deployment greenNotified (revalidatedAs "unit") (failedAfter 8)
    (evaluatedLater 12) "GP-1" (everyPhase 4 "unit" .fail 50) 8 "evidence51" "v1"
    ((rowAfter greenNotified).get (by decide +kernel)) _
    (((rowAfter greenNotified).bind ProposalRow.ownerDelivery).get (by decide +kernel))
    ⟨"unit", "test", .fail, provenance 4 evaluator (resultFields "unit" .fail 50), 50⟩ 10
    rfl (by decide +kernel) (some_get _).symm (by decide +kernel) (by decide +kernel) rfl
    (by decide +kernel) ⟨_, _, _, _, rfl⟩ (some_get _).symm (by decide +kernel)

/-- The check that failed need not pass: a GREEN proposal is promoted on a check of another
name, and on a result from before the failure once the owner has been notified twice. A RED
one is promoted without another notification. -/
theorem promoted_unrevalidated :
    (reply (answer Small.deployment) (history Small.deployment
        (greenNotified ++ [failedAfter 8] ++ revalidatedAs "other")) (evaluatedLater 12) =
          .ok (.status .promoted) ∧
      ∃ row ∈ rowAfter (greenNotified ++ [failedAfter 8] ++ revalidatedAs "other"),
        ∀ check ∈ row.lifecycle.checks, check.checkId ≠ "unit") ∧
    (reply (answer Small.deployment) (history Small.deployment
        (greenNotified ++ [failedAfter 8] ++ revalidatedAs "other" ++ olderAgain)) (evaluatedLater 15) =
          .ok (.status .promoted) ∧
      ∃ row ∈ rowAfter (greenNotified ++ [failedAfter 8] ++ revalidatedAs "other" ++ olderAgain),
        ∀ check ∈ row.lifecycle.checks, check.executedAt < 50) ∧
    reply (answer Small.deployment) (history Small.deployment redRevalidated) (evaluatedLater 16) =
        .ok (.status .promoted) ∧
      ∃ row ∈ rowAfter redRevalidated, row.red ∧ ∀ delivery ∈ row.ownerDelivery,
        delivery.deliveredAt < 50 := by
  decide +kernel

end Liki.Governance
