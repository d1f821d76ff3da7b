import Liki.Delivery.Outbox

/-! What a call does to one row and its aggregate, whatever it does to the others: it leaves them,
quarantines the row because its sender is lost, hands the row to a sender, or concludes its delivery.
The runs of a row are read off these four. -/
namespace Liki.Delivery
open Checks CallSystem KeyedRows List Option Store

variable {state after between : OutboxState} {actor : Identity} {clock : Clock} {row : OutboxRow} {outboxId : String}
  {key : OutboxKey} {request : OutboxTransition} {topic : Option String} {eventType : String}

theorem current_of_eq (aggregates : after.store.aggregates = state.store.aggregates) (outboxId : String) :
    after.current outboxId = state.current outboxId := by
  rw [OutboxState.current, Store.state, aggregates]
  rfl

theorem current_append_other (store : after.store = state.store.append key request topic)
    (other : request.kind ≠ "outbox_delivery") (outboxId : String) :
    after.current outboxId = state.current outboxId := by
  rw [OutboxState.current, store, state_append, if_neg fun same => other same.1]
  rfl

theorem current_append_delivery (state : OutboxState) {version : ℕ}
    (store : after.store = state.store.append key (deliveryRequest actor version delivery eventType) none)
    (outboxId : String) :
    after.current outboxId =
      if delivery.outboxId = outboxId then some delivery else state.current outboxId := by
  rw [OutboxState.current, store, state_append]
  by_cases same : delivery.outboxId = outboxId
  · rw [if_pos same, if_pos ⟨rfl, same⟩]
    rfl
  · rw [if_neg same, if_neg fun both => same both.2]
    rfl

theorem recorded_frame (recorded : state.store.Recorded key request topic store)
    (other : request.kind ≠ "outbox_delivery") (written : after.store = store) :
    state.store.events.length ≤ after.store.events.length ∧
      ∀ outboxId, after.current outboxId = state.current outboxId := by
  cases recorded with
  | replayed => exact ⟨written ▸ le_rfl, current_of_eq (congrArg aggregates written)⟩
  | appended =>
    refine ⟨?_, current_append_other written other⟩
    rw [written, append, length_append]
    exact Nat.le_add_right _ _

/-- The rows have ids, and every event is behind its aggregate. -/
structure Ordered (state : OutboxState) : Prop where
  versioned : state.store.Versioned
  distinct : KeyedRows.Distinct OutboxRow.outboxId state.rows

theorem Ordered.find (ordered : Ordered state) (member : row ∈ state.rows) :
    state.findRow row.outboxId = some row :=
  find_of_mem ordered.distinct member

/-- One row and its aggregate get new values; the event is in the log. -/
structure Moves (state : OutboxState) (row : OutboxRow) (delivery : DeliveryState)
    (after : OutboxState) : Prop where
  ordered : Ordered after
  moved : after.findRow row.outboxId = some row
  current : after.current row.outboxId = some delivery
  rows : ∀ outboxId, outboxId ≠ row.outboxId → after.findRow outboxId = state.findRow outboxId
  currents : ∀ outboxId, outboxId ≠ row.outboxId → after.current outboxId = state.current outboxId
  events : after.store.events.length = state.store.events.length + 1
  deliveries : after.deliveries = state.deliveries

/-- The state that a transition writes. -/
def OutboxRow.delivery (row : OutboxRow) (status : DeliveryStatus) (metadata : DeliveryMetadata) :
    DeliveryState :=
  ⟨status, row.outboxId, row.eventId, row.attempts, metadata.leaseToken, metadata.workerId, metadata.result⟩

variable {status : DeliveryStatus}

theorem moves_of_transition (ordered : Ordered state)
    (found : state.findRow row.outboxId = some row)
    (ok : deliveryTransition state actor row status eventType metadata = .ok between)
    (change : OutboxRow → OutboxRow) (kept : ∀ row, (change row).outboxId = row.outboxId) :
    Moves state (change row) (row.delivery status metadata) (between.updateRow row.outboxId change) := by
  simp only [deliveryTransition, bind_ok, pure_ok] at ok
  obtain ⟨store, recorded, rfl⟩ := ok
  have appended := (transition_recorded recorded).appended_of_current ordered.versioned rfl
  have same : ∀ other : OutboxRow, other.outboxId = row.outboxId → (change other).outboxId = row.outboxId :=
    fun other named => (kept other).trans named
  refine ⟨⟨?_, ?_⟩, ?_, ?_, fun other differ => ?_, fun other differ => ?_, ?_, rfl⟩
  · have grown : (state.store.append (.delivery state.store.events.length)
        (deliveryRequest actor (state.store.version "outbox_delivery" row.outboxId)
          (row.delivery status metadata)
          eventType) none).Versioned := ordered.versioned.append _ _ rfl
    exact appended ▸ grown
  · exact distinct_update same ordered.distinct
  · rw [kept]
    refine (find_update_self same).trans ?_
    rw [show KeyedRows.find OutboxRow.outboxId row.outboxId state.rows = some row from found,
      map_some]
  · rw [kept]
    refine (current_append_delivery state appended row.outboxId).trans ?_
    exact if_pos rfl
  · rw [kept] at differ
    exact find_update_other same differ
  · rw [kept] at differ
    refine (current_append_delivery state appended other).trans ?_
    exact if_neg differ.symm
  · show store.events.length = _
    rw [appended, append, length_append]
    rfl

/-- Rows whose senders are lost. -/
structure Quarantines (state : OutboxState) (rows : List OutboxRow) (after : OutboxState) : Prop where
  ordered : Ordered after
  moved : ∀ row ∈ rows, after.findRow row.outboxId = some { row with status := .quarantined } ∧
    after.current row.outboxId = some (row.delivery .quarantined ⟨none, none, none⟩)
  others : ∀ outboxId, outboxId ∉ rows.map OutboxRow.outboxId →
    after.findRow outboxId = state.findRow outboxId ∧ after.current outboxId = state.current outboxId
  events : state.store.events.length ≤ after.store.events.length
  deliveries : after.deliveries = state.deliveries

theorem quarantine_ok (ordered : Ordered state) (found : state.findRow row.outboxId = some row)
    (ok : quarantine actor state row = .ok after) :
    Moves state { row with status := .quarantined } (row.delivery .quarantined ⟨none, none, none⟩) after := by
  simp only [quarantine, bind_ok, pure_ok] at ok
  obtain ⟨_, recorded, rfl⟩ := ok
  exact moves_of_transition ordered found recorded (fun row => { row with status := .quarantined }) fun _ => rfl

variable {rows : List OutboxRow}

theorem quarantines_ok (ordered : Ordered state) (once : (rows.map OutboxRow.outboxId).Nodup)
    (found : ∀ row ∈ rows, state.findRow row.outboxId = some row)
    (ok : rows.foldlM (quarantine actor) state = .ok after) : Quarantines state rows after := by
  induction rows generalizing state with
  | nil =>
    rw [foldlM_nil, pure_ok] at ok
    subst ok
    exact ⟨ordered, fun _ member => absurd member not_mem_nil, fun _ _ => ⟨rfl, rfl⟩, le_rfl, rfl⟩
  | cons row rows ih =>
    simp only [foldlM_cons, bind_ok] at ok
    obtain ⟨_, first, ok⟩ := ok
    obtain ⟨fresh, others⟩ := nodup_cons.mp once
    have moves := quarantine_ok ordered (found row mem_cons_self) first
    have apart : ∀ other ∈ rows, other.outboxId ≠ row.outboxId :=
      fun other member same => fresh (same ▸ mem_map_of_mem member)
    have rest := ih moves.ordered others
      (fun other member => (moves.rows _ (apart other member)).trans
        (found other (mem_cons_of_mem _ member))) ok
    refine ⟨rest.ordered, fun other member => ?_, fun outboxId absent => ?_, ?_,
      rest.deliveries.trans moves.deliveries⟩
    · rcases mem_cons.mp member with rfl | later
      · obtain ⟨held, known⟩ := rest.others other.outboxId fresh
        exact ⟨held.trans moves.moved, known.trans moves.current⟩
      · exact rest.moved other later
    · rw [map_cons, mem_cons, not_or] at absent
      obtain ⟨held, known⟩ := rest.others outboxId absent.2
      exact ⟨held.trans (moves.rows outboxId absent.1), known.trans (moves.currents outboxId absent.1)⟩
    · have grown := rest.events
      rw [moves.events] at grown
      omega

theorem Quarantines.cases (quarantines : Quarantines state rows after)
    (found : ∀ row ∈ rows, state.findRow row.outboxId = some row)
    (held : state.findRow outboxId = some row) :
    (after.findRow outboxId = some row ∧ after.current outboxId = state.current outboxId) ∨
      (row ∈ rows ∧ after.findRow outboxId = some { row with status := .quarantined } ∧
        after.current outboxId = some (row.delivery .quarantined ⟨none, none, none⟩)) := by
  by_cases member : outboxId ∈ rows.map OutboxRow.outboxId
  · obtain ⟨other, there, rfl⟩ := mem_map.mp member
    have same : other = row := some.inj ((found other there).symm.trans held)
    subst same
    exact .inr ⟨there, quarantines.moved other there⟩
  · obtain ⟨rows, currents⟩ := quarantines.others outboxId member
    exact .inl ⟨rows.trans held, currents⟩

/-- The call hands out a row. -/
def Hands (answer : OutboxAnswer) (outboxId : String) : Prop :=
  ∃ lease, answer = .claimed (some lease) ∧ lease.outboxId = outboxId

/-- What an answered call does to one row and its aggregate; the numbers of the events that it writes
are between the two. -/
inductive RowEffect (call : OutboxCall) (answer : OutboxAnswer) (first last : ℕ) :
    OutboxRow → Option DeliveryState → OutboxRow → Option DeliveryState → Prop
  | kept {row : OutboxRow} {current : Option DeliveryState} (unhanded : ¬Hands answer row.outboxId) :
      RowEffect call answer first last row current row current
  | expired {row : OutboxRow} {current : Option DeliveryState} (expired : row.Expired call.clock.start)
      (unhanded : ¬Hands answer row.outboxId) :
      RowEffect call answer first last row current { row with status := .quarantined }
        (some (row.delivery .quarantined ⟨none, none, none⟩))
  | handed {row : OutboxRow} {current : Option DeliveryState} {fence : ℕ} {expires : Time}
      (pending : row.status = .pending)
      (answered : answer = .claimed (some ⟨row.outboxId, fence, row.topic, row.payload, row.attempts + 1⟩))
      (fresh : first ≤ fence) (written : fence < last) :
      RowEffect call answer first last row current
        { row with
          status := .leased
          leaseToken := some fence
          leaseExpiresAt := some expires
          attempts := row.attempts + 1 }
        (some (row.delivery .leased ⟨some fence, some call.actor.principalId, none⟩))
  | concluded {row : OutboxRow} {current : DeliveryState} {token : ℕ} {result : DeliveryResult}
      {available : Time} (request : call.request = .finish row.outboxId token result)
      (leased : row.status = .leased)
      (token : row.leaseToken = some token)
      (unexpired : ∃ expires ∈ row.leaseExpiresAt, call.clock.reading < expires)
      (worker : current.workerId = some call.actor.principalId)
      (answered : answer = .finished (concludedStatus row result)) :
      RowEffect call answer first last row (some current)
        { row with
          status := concludedStatus row result
          availableAt := available }
        (some (row.delivery (concludedStatus row result) ⟨none, some call.actor.principalId, some result⟩))

structure CallEffect (state : OutboxState) (call : OutboxCall) (answer : OutboxAnswer)
    (after : OutboxState) : Prop where
  ordered : Ordered after
  events : state.store.events.length ≤ after.store.events.length
  rows : ∀ outboxId row, state.findRow outboxId = some row → ∃ moved, after.findRow outboxId = some moved ∧
    RowEffect call answer state.store.events.length after.store.events.length row
      (state.current outboxId) moved
      (after.current outboxId)
  queued : ∀ outboxId row, state.findRow outboxId = none → after.findRow outboxId = some row →
    row.status = .pending ∧ row.attempts = 0 ∧ row.leaseToken = none
  known : ∀ outboxId, Hands answer outboxId → state.findRow outboxId ≠ none
  unsent : ∀ outboxId, state.findRow outboxId = none → after.current outboxId = state.current outboxId
  deliveries : KeyedRows.Distinct DeliveryRecord.outboxId state.deliveries →
    KeyedRows.Distinct DeliveryRecord.outboxId after.deliveries

variable {call : OutboxCall} {result : DeliveryResult}

theorem CallEffect.of_kept (ordered : Ordered after)
    (events : state.store.events.length ≤ after.store.events.length)
    (rows : ∀ outboxId row, state.findRow outboxId = some row → after.findRow outboxId = some row)
    (queued : ∀ outboxId row, state.findRow outboxId = none → after.findRow outboxId = some row →
      row.status = .pending ∧ row.attempts = 0 ∧ row.leaseToken = none)
    (currents : ∀ outboxId, after.current outboxId = state.current outboxId)
    (deliveries : after.deliveries = state.deliveries)
    (unhanded : ∀ outboxId, ¬Hands answer outboxId) : CallEffect state call answer after := by
  refine ⟨ordered, events, fun outboxId row found => ?_, queued,
    fun outboxId hands => absurd hands (unhanded outboxId),
    fun outboxId _ => currents outboxId, fun distinct => deliveries ▸ distinct⟩
  rw [currents]
  exact ⟨row, rows outboxId row found, .kept (unhanded row.outboxId)⟩

theorem claim_effect (ordered : Ordered state)
    (ok : claim state actor topics leaseSeconds clock rank = .ok (lease, after)) :
    CallEffect state ⟨actor, clock, .claim topics leaseSeconds rank⟩ (.claimed lease) after := by
  simp only [claim, bind_ok, guard_ok] at ok
  obtain ⟨-, -, -, between, quarantined, ok⟩ := ok
  have expired : ∀ row ∈ state.rows.filter (fun row => decide (row.topic ∈ topics ∧
    row.Expired clock.start)),
      row ∈ state.rows ∧ row.Expired clock.start := by
    intro row member
    obtain ⟨held, selected⟩ := mem_filter.mp member
    exact ⟨held, (of_decide_eq_true selected).2⟩
  have found := fun row member => ordered.find (expired row member).1
  have quarantines := quarantines_ok ordered
    (ordered.distinct.sublist (filter_sublist.map _)) found quarantined
  have absent : ∀ outboxId, state.findRow outboxId = none →
      between.findRow outboxId = none ∧ between.current outboxId = state.current outboxId := by
    intro outboxId none
    have others := quarantines.others outboxId fun member => by
      obtain ⟨row, held, rfl⟩ := mem_map.mp member
      rw [found row held] at none
      cases none
    exact ⟨others.1.trans none, others.2⟩
  split at ok
  · rw [pure_ok, Prod.mk.injEq] at ok
    obtain ⟨rfl, rfl⟩ := ok
    have unhanded : ∀ outboxId, ¬Hands (.claimed none) outboxId := by
      rintro outboxId ⟨lease, answered, -⟩
      cases answered
    refine ⟨quarantines.ordered, quarantines.events, fun outboxId row held => ?_,
      fun outboxId row none there => ?_,
      fun outboxId hands => absurd hands (unhanded outboxId), fun outboxId none => (absent outboxId none).2,
      fun distinct => quarantines.deliveries ▸ distinct⟩
    · rcases quarantines.cases found held with ⟨kept, current⟩ | ⟨member, moved, current⟩
      · exact ⟨row, kept, current ▸ .kept (unhanded _)⟩
      · exact ⟨_, moved, current ▸ .expired (expired row member).2 (unhanded _)⟩
    · rw [(absent outboxId none).1] at there
      cases there
  · rename_i chosen selected
    simp only [bind_ok, pair_ok] at ok
    obtain ⟨_, recorded, rfl, rfl⟩ := ok
    obtain ⟨member, eligible⟩ := mem_filter.mp (argmin_mem selected)
    obtain ⟨-, pending, -⟩ := of_decide_eq_true eligible
    have there := quarantines.ordered.find member
    have moves := moves_of_transition quarantines.ordered there recorded
      (fun row =>
        { row with
          status := .leased
          leaseToken := some between.store.events.length
          leaseExpiresAt := some (clock.reading + seconds leaseSeconds)
          attempts := row.attempts + 1 })
      fun _ => rfl
    have grown := moves.events
    have earlier := quarantines.events
    -- the row that is handed out was pending before, so its sender was not lost
    have before : state.findRow chosen.outboxId = some chosen := by
      cases held : state.findRow chosen.outboxId with
      | none =>
        rw [(absent _ held).1] at there
        cases there
      | some =>
        rcases quarantines.cases found held with ⟨kept, -⟩ | ⟨-, moved, -⟩
        · exact kept.symm.trans there
        · rw [there, some.injEq] at moved
          rw [moved] at pending
          cases pending
    have hands : ∀ outboxId,
      Hands (.claimed (some ⟨chosen.outboxId, between.store.events.length, chosen.topic,
        chosen.payload, chosen.attempts + 1⟩)) outboxId → chosen.outboxId = outboxId := by
      rintro outboxId ⟨_, answered, named⟩
      cases answered
      exact named
    have differ : ∀ outboxId, state.findRow outboxId = none → outboxId ≠ chosen.outboxId := by
      rintro outboxId none rfl
      rw [before] at none
      cases none
    refine ⟨moves.ordered, by omega, fun outboxId row held => ?_, fun outboxId row none there => ?_,
      fun outboxId named => ?_, fun outboxId none => ?_,
      fun distinct => moves.deliveries.trans quarantines.deliveries ▸ distinct⟩
    · by_cases same : outboxId = chosen.outboxId
      · rw [same] at held ⊢
        rw [before, some.injEq] at held
        subst held
        refine ⟨_, moves.moved, ?_⟩
        rw [moves.current]
        exact .handed pending rfl earlier (by omega)
      · have unhanded : ¬Hands (.claimed (some ⟨chosen.outboxId, between.store.events.length, chosen.topic,
            chosen.payload, chosen.attempts + 1⟩)) row.outboxId :=
          fun named => same ((find_key held).symm.trans (hands _ named).symm)
        rw [moves.rows outboxId same, moves.currents outboxId same]
        rcases quarantines.cases found held with ⟨kept, current⟩ | ⟨member, moved, current⟩
        · exact ⟨row, kept, current ▸ .kept unhanded⟩
        · exact ⟨_, moved, current ▸ .expired (expired row member).2 unhanded⟩
    · rw [moves.rows outboxId (differ outboxId none), (absent outboxId none).1] at there
      cases there
    · rw [← hands outboxId named, before]
      exact some_ne_none chosen
    · exact (moves.currents outboxId (differ outboxId none)).trans (absent outboxId none).2

theorem insertDelivery_ok (ok : insertDelivery state row result = .ok after) :
    after.store = state.store ∧ after.rows = state.rows ∧
      (KeyedRows.Distinct DeliveryRecord.outboxId state.deliveries →
        KeyedRows.Distinct DeliveryRecord.outboxId after.deliveries) := by
  unfold insertDelivery at ok
  split at ok
  · cases ok
    exact ⟨rfl, rfl, id⟩
  · split at ok
    · simp only [bind_ok, expect_ok, guard_ok, pure_ok] at ok
      obtain ⟨_, -, fresh, rfl⟩ := ok
      refine ⟨rfl, rfl, fun distinct => distinct_insert distinct ?_⟩
      exact find_none.mpr fun delivery member same => fresh ⟨delivery, member, .inr same⟩
    · cases ok
      exact ⟨rfl, rfl, id⟩

theorem unhanded_of_finished (outboxId : String) : ¬Hands (.finished status) outboxId := by
  rintro ⟨_, answered, -⟩
  cases answered

theorem CallEffect.of_moves {moved : OutboxRow} (moves : Moves state moved delivery between)
    (found : state.findRow moved.outboxId = some row) (store : after.store = between.store)
    (rows : after.rows = between.rows)
    (deliveries : KeyedRows.Distinct DeliveryRecord.outboxId between.deliveries →
      KeyedRows.Distinct DeliveryRecord.outboxId after.deliveries)
    (effect : ∀ first last,
      RowEffect call (.finished status) first last row (state.current moved.outboxId) moved
      (some delivery)) : CallEffect state call (.finished status) after := by
  have sameRow : ∀ outboxId, after.findRow outboxId = between.findRow outboxId := by
    intro outboxId
    rw [OutboxState.findRow, rows]
    rfl
  have sameCurrent : ∀ outboxId, after.current outboxId = between.current outboxId :=
    current_of_eq (congrArg aggregates store)
  have differ : ∀ outboxId, state.findRow outboxId = none → outboxId ≠ moved.outboxId := by
    rintro outboxId none rfl
    rw [found] at none
    cases none
  refine ⟨⟨store ▸ moves.ordered.versioned, rows ▸ moves.ordered.distinct⟩, ?_,
    fun outboxId other there => ?_,
    fun outboxId other none there => ?_, fun outboxId hands => absurd hands (unhanded_of_finished outboxId),
    fun outboxId none => ?_, fun distinct => deliveries (moves.deliveries ▸ distinct)⟩
  · rw [store, moves.events]
    omega
  · rw [sameRow, sameCurrent]
    by_cases same : outboxId = moved.outboxId
    · subst same
      rw [found, some.injEq] at there
      subst there
      refine ⟨moved, moves.moved, ?_⟩
      rw [moves.current]
      exact effect _ _
    · rw [moves.rows outboxId same, moves.currents outboxId same]
      exact ⟨other, there, .kept (unhanded_of_finished _)⟩
  · rw [sameRow, moves.rows outboxId (differ outboxId none), none] at there
    cases there
  · exact (sameCurrent outboxId).trans (moves.currents outboxId (differ outboxId none))

structure Concludes (state : OutboxState) (actor : Identity) (row : OutboxRow)
    (result : DeliveryResult) (clock : Clock)
    (available : Time) (between after : OutboxState) : Prop where
  leased : row.status = .leased
  unexpired : ∃ expires ∈ row.leaseExpiresAt, clock.reading < expires
  moves : Moves state
    { row with
      status := concludedStatus row result
      availableAt := available }
    (row.delivery (concludedStatus row result) ⟨none, some actor.principalId, some result⟩) between
  store : after.store = between.store
  rows : after.rows = between.rows
  deliveries : KeyedRows.Distinct DeliveryRecord.outboxId between.deliveries →
    KeyedRows.Distinct DeliveryRecord.outboxId after.deliveries

theorem conclude_ok (ordered : Ordered state) (found : state.findRow row.outboxId = some row)
    (ok : conclude state actor row result clock = .ok (status, after)) :
    status = concludedStatus row result ∧
      ∃ available between, Concludes state actor row result clock available between after := by
  simp only [conclude, bind_ok, guard_ok, pair_ok, not_or, not_not] at ok
  obtain ⟨⟨leased, unexpired⟩, _, recorded, _, inserted, rfl, rfl⟩ := ok
  obtain ⟨store, rows, deliveries⟩ := insertDelivery_ok inserted
  have moves := moves_of_transition ordered found recorded
    (fun other =>
      { other with
        status := concludedStatus row result
        availableAt := clock.reading + seconds (max result.retryAfter (2 ^ other.attempts)) })
    fun _ => rfl
  exact ⟨rfl, _, _, leased, unexpired, moves, store, rows, deliveries⟩

variable {token : ℕ}

theorem conclude_effect (ordered : Ordered state) (found : state.findRow row.outboxId = some row)
    (held : row.leaseToken = some token) (known : state.current row.outboxId = some current)
    (worker : current.workerId = some actor.principalId)
    (ok : conclude state actor row result clock = .ok (status, after)) :
    CallEffect state ⟨actor, clock, .finish row.outboxId token result⟩ (.finished status) after := by
  obtain ⟨rfl, _, _, concludes⟩ := conclude_ok ordered found ok
  refine .of_moves concludes.moves found concludes.store concludes.rows concludes.deliveries fun first last => ?_
  rw [known]
  exact .concluded rfl concludes.leased held concludes.unexpired worker rfl

structure Finishes (state : OutboxState) (actor : Identity) (outboxId : String) (token : ℕ)
    (result : DeliveryResult)
    (clock : Clock) (status : DeliveryStatus) (after : OutboxState) (row : OutboxRow)
    (current : DeliveryState) :
    Prop where
  valid : result.Valid
  authorised : actor.requires .notification = .ok ()
  found : state.findRow outboxId = some row
  held : row.leaseToken = some token
  known : state.current outboxId = some current
  worker : current.workerId = some actor.principalId
  cases : (row.status ≠ .leased ∧ current.result = some result ∧ row.status = status ∧ after = state) ∨
    conclude state actor row result clock = .ok (status, after)

theorem finish_ok (ok : finish state actor outboxId token result clock = .ok (status, after)) :
    ∃ row current, Finishes state actor outboxId token result clock status after row current := by
  simp only [finish, bind_ok, guard_ok, expect_ok, not_not] at ok
  obtain ⟨valid, ⟨⟩, authorised, row, found, held, -, current, known, worker, ok⟩ := ok
  refine ⟨row, current, valid, authorised, found, held, known, worker, ?_⟩
  split at ok
  · rename_i recorded
    simp only [bind_ok, guard_ok, pair_ok, not_not] at ok
    obtain ⟨same, answered, unchanged⟩ := ok
    exact .inl ⟨recorded.1, same, answered, unchanged.symm⟩
  · exact .inr ok

theorem finish_effect (ordered : Ordered state)
    (ok : finish state actor outboxId token result clock = .ok (status, after)) :
    CallEffect state ⟨actor, clock, .finish outboxId token result⟩ (.finished status) after := by
  obtain ⟨row, _, finishes⟩ := finish_ok ok
  have named : row.outboxId = outboxId := find_key finishes.found
  subst named
  rcases finishes.cases with ⟨-, -, -, rfl⟩ | concluded
  · exact .of_kept ordered le_rfl (fun _ _ found => found)
      (fun _ _ none there => by rw [none] at there; cases there)
      (fun _ => rfl) rfl unhanded_of_finished
  · exact conclude_effect ordered finishes.found finishes.held finishes.known finishes.worker concluded

theorem insertRow_ok {topic : String}
    (ok : state.insertRow outboxId eventId topic payload instant = .ok after) :
    after.store = state.store ∧ after.deliveries = state.deliveries ∧
      (KeyedRows.Distinct OutboxRow.outboxId state.rows →
        KeyedRows.Distinct OutboxRow.outboxId after.rows) ∧
      (∀ other row, state.findRow other = some row → after.findRow other = some row) ∧
      ∀ other row, state.findRow other = none → after.findRow other = some row →
        row.status = .pending ∧ row.attempts = 0 ∧ row.leaseToken = none := by
  simp only [OutboxState.insertRow, bind_ok, guard_ok, pure_ok] at ok
  obtain ⟨fresh, rfl⟩ := ok
  refine ⟨rfl, rfl, fun distinct => ?_, fun other row found => ?_, fun other row none there => ?_⟩
  · exact distinct_insert distinct (not_isSome_iff_eq_none.mp fresh)
  · exact find_append_some found _
  · have inserted : KeyedRows.find OutboxRow.outboxId other (state.rows ++ [_]) = some row := there
    have absent : KeyedRows.find OutboxRow.outboxId other state.rows = .none := none
    rw [find_insert, absent, none_or] at inserted
    split at inserted
    · cases inserted
      exact ⟨rfl, rfl, rfl⟩
    · cases inserted

theorem notify_effect (ordered : Ordered state)
    (ok : notify state actor notification ids clock = .ok (notificationId, after)) :
    CallEffect state ⟨actor, clock, .notify notification ids⟩ (.notified notificationId) after := by
  have unhanded : ∀ outboxId, ¬Hands (.notified notificationId) outboxId := by
    rintro outboxId ⟨_, answered, -⟩
    cases answered
  simp only [notify, bind_ok, guard_ok] at ok
  obtain ⟨-, -, -, ok⟩ := ok
  split at ok
  · simp only [bind_ok, guard_ok, pair_ok] at ok
    obtain ⟨-, -, rfl⟩ := ok
    exact .of_kept ordered le_rfl (fun _ _ found => found)
      (fun _ _ none there => by rw [none] at there; cases there)
      (fun _ => rfl) rfl unhanded
  · simp only [bind_ok, guard_ok, pair_ok] at ok
    obtain ⟨_, recorded, -, _, inserted, -, rfl⟩ := ok
    obtain ⟨same, deliveries, distinct, rows, queued⟩ := insertRow_ok inserted
    have logged := transition_recorded recorded
    obtain ⟨events, currents⟩ := recorded_frame logged (by simp [notificationRequest]) same
    exact .of_kept ⟨same ▸ logged.versioned ordered.versioned,
      distinct ordered.distinct⟩ events rows queued currents
      deliveries unhanded

theorem otherTransition_effect {topic : Option (String × String)} (ordered : Ordered state)
    (ok : otherTransition state actor capability operationKey request topic clock = .ok after) :
    CallEffect state ⟨actor, clock, .transition capability operationKey request topic⟩ .done after := by
  have unhanded : ∀ outboxId, ¬Hands .done outboxId := by
    rintro outboxId ⟨_, answered, -⟩
    cases answered
  simp only [otherTransition, bind_ok, guard_ok] at ok
  obtain ⟨foreign, -, store, recorded, ok⟩ := ok
  have other : request.kind ≠ "outbox_delivery" := fun same => foreign (by simp [same])
  have logged := transition_recorded recorded
  have idle : after = { state with store := store } → CallEffect state
      ⟨actor, clock, .transition capability operationKey request topic⟩ .done after := by
    intro noted
    have written : after.store = store := by rw [noted]
    have rows : after.rows = state.rows := by rw [noted]
    have same : ∀ outboxId, after.findRow outboxId = state.findRow outboxId := by
      intro outboxId
      rw [OutboxState.findRow, rows]
      rfl
    obtain ⟨events, currents⟩ := recorded_frame logged other written
    refine .of_kept ⟨written ▸ logged.versioned ordered.versioned, rows ▸ ordered.distinct⟩ events
      (fun outboxId row found => (same outboxId).trans found) (fun outboxId row none there => ?_) currents
      (by rw [noted]) unhanded
    rw [same, none] at there
    cases there
  split at ok
  · split at ok
    · rw [pure_ok] at ok
      exact idle ok.symm
    · obtain ⟨same, deliveries, distinct, rows, queued⟩ := insertRow_ok ok
      obtain ⟨events, currents⟩ := recorded_frame logged other same
      exact .of_kept ⟨same ▸ logged.versioned ordered.versioned,
        distinct ordered.distinct⟩ events rows queued currents
        deliveries unhanded
  · rw [pure_ok] at ok
    exact idle ok.symm

theorem handle_effect (ordered : Ordered state) (ok : handle state call = .ok (answer, after)) :
    CallEffect state call answer after := by
  obtain ⟨_, _, request⟩ := call
  cases request with
  | notify =>
    simp only [handle, bind_ok, pair_ok, Prod.exists] at ok
    obtain ⟨_, _, ok, rfl, rfl⟩ := ok
    exact notify_effect ordered ok
  | claim =>
    simp only [handle, bind_ok, pair_ok, Prod.exists] at ok
    obtain ⟨_, _, ok, rfl, rfl⟩ := ok
    exact claim_effect ordered ok
  | finish =>
    simp only [handle, bind_ok, pair_ok, Prod.exists] at ok
    obtain ⟨_, _, ok, rfl, rfl⟩ := ok
    exact finish_effect ordered ok
  | transition =>
    simp only [handle, bind_ok, pair_ok] at ok
    obtain ⟨_, ok, rfl, rfl⟩ := ok
    exact otherTransition_effect ordered ok

end Liki.Delivery
