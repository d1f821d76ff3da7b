import Liki.Paper.PaperService

/-! What an answered call of the paper service can do. It is answered from the
records of an earlier call and changes nothing, or it makes one commit: one
event under a fresh operation key together with the rows that belong to it. An
emergency stop is followed by further commits of its own, one for each order it
cancels and one for each run it fences. Every invariant of the service is a case
analysis over these commits. -/
namespace Liki.Paper
open DecimalArithmetic Checks CallSystem Finance KeyedRows List Option Store PaperOrder

namespace PaperState

/-- The tables with one more event. -/
def logged (state : PaperState) (operationKey : String) (request : PaperTransition) (topic : String) :
    PaperState :=
  { state with store := state.store.append operationKey request (some topic) }

/-- The tables and the projections belong together: events are behind their
aggregates, an aggregate has the row it projects, and an order id names one row. -/
structure Projected (state : PaperState) : Prop where
  versioned : state.store.Versioned
  orderIds : KeyedRows.Distinct paperOrderId state.orders
  runs : ∀ runId, state.findRun runId = none → state.store.version "paper_run" runId = 0
  orders : ∀ orderId, state.findOrder orderId = none → state.store.version "paper_order" orderId = 0

end PaperState

open PaperState

variable {ctx : DecimalContext} {state before after : PaperState} {actor : Identity}
  {capability : Capability} {operationKey topic : String} {transitionRequest : PaperTransition}

theorem transition_ok (versioned : state.store.Versioned)
    (current : transitionRequest.expectedVersion =
      state.store.version transitionRequest.kind transitionRequest.aggregateId)
    (ok : state.transition actor capability operationKey transitionRequest topic = .ok after) :
    operationKey ∉ state.store.keys ∧ after = state.logged operationKey transitionRequest topic := by
  simp only [PaperState.transition, map_ok] at ok
  obtain ⟨_, moved, rfl⟩ := ok
  obtain ⟨-, fresh, rfl⟩ := transition_ok versioned current moved
  exact ⟨fresh, rfl⟩

theorem version_of_state {kind aggregateId : String} {current : Aggregate PaperAggregate}
    (read : state.store.state kind aggregateId = some current) :
    current.version = state.store.version kind aggregateId := by
  simp [version, read]

def RecordedEvent (state : PaperState) (operationKey : String) (types : List String)
    (aggregateId : String) (about : PaperAggregate → Prop) : Prop :=
  ∃ event, state.findEvent operationKey = some event ∧ event.request.eventType ∈ types ∧
    event.request.aggregateId = aggregateId ∧ about event.request.state

/-- What an answered call leaves behind for its retries: the rows and the event
that its replay detection reads. -/
def Recorded (state : PaperState) : PaperRequest → PaperAnswer → Prop
  | .startRun spec operationKey, answer =>
    answer = .id spec.paperRunId ∧
      RecordedEvent state operationKey ["PAPER_RUN_STARTED_RECONCILE_ONLY"] spec.paperRunId
        (fun _ => True) ∧
      ∃ run, state.findRun spec.paperRunId = some run ∧ run.policyVersion = spec.policyVersion ∧
        run.reportingCurrency = spec.reportingCurrency ∧
        state.content run.riskConfigArtifactId = some (.riskEnvelope spec.riskEnvelope) ∧
        state.content run.executionConfigArtifactId = some (.executionConfig spec.executionConfig)
  | .reconcile runId operationKey marketDataValid, answer =>
    (∃ run, state.findRun runId = some run) ∧
      RecordedEvent state operationKey
        ["PAPER_RECONCILIATION_COMPLETE", "PAPER_RECONCILIATION_BLOCKED"] runId (fun after =>
          ∃ recorded, after.run? = some recorded ∧ recorded.marketDataValid = some marketDataValid ∧
            answer = .status recorded.status)
  | .restart runId operationKey, answer =>
    answer = .status .reconcileOnly ∧ (∃ joined, state.joinedRun runId = some joined) ∧
      RecordedEvent state operationKey ["PAPER_RESTART_RECONCILE_ONLY"] runId (fun _ => True)
  | .submit _ intent _ _ _ _, answer =>
    ∃ order, state.findClientOrder intent.clientOrderId = some order ∧ order.intent = intent ∧
      answer = .id order.paperOrderId
  | .simulateOrder _ _ _ _, _ => True
  | .markUnknown orderId reasonCode operationKey, answer =>
    answer = .done ∧ (∃ order, state.findOrder orderId = some order) ∧
      RecordedEvent state operationKey ["PAPER_ORDER_UNKNOWN_RECONCILING"] orderId (fun _ => True) ∧
      ∃ current, state.store.state "paper_order" orderId = some current ∧
        current.state.order?.bind OrderStateRecord.reconciliationReason = some reasonCode
  | .recordFill orderId fill quoteCurrency, answer =>
    ∃ row, state.findFill fill.externalFillKey = some row ∧ row.matches orderId fill quoteCurrency ∧
      answer = .id row.paperFillId
  | .cancel orderId operationKey, answer =>
    answer = .done ∧ (∃ order, state.findOrder orderId = some order) ∧
      RecordedEvent state operationKey ["PAPER_ORDER_CANCELLED"] orderId (fun _ => True)
  | .stop runId stopping operationKey, answer =>
    (∃ run, state.findRun runId = some run) ∧
      RecordedEvent state operationKey ["PAPER_EMERGENCY_STOP"] runId (fun after =>
        after.run?.bind RunState.lastStop = some stopping) ∧
      ∃ row, KeyedRows.find StopEvent.eventKey operationKey state.stops = some row ∧
        answer = .id row.emergencyStopId
  | .emergencyStop stopping operationKey, answer =>
    RecordedEvent state operationKey ["PAPER_GLOBAL_EMERGENCY_STOP"]
      (latchAggregate stopping.scope stopping.scopeId) (fun after =>
        ∃ recorded, after.latch? = some recorded ∧ recorded.request = some stopping ∧
          answer = .id recorded.safetyLatchId)
  | .releaseEmergencyStop latchId _ operationKey, answer =>
    answer = .done ∧ ∃ latch, state.findLatch latchId = some latch ∧
      RecordedEvent state operationKey ["PAPER_GLOBAL_EMERGENCY_STOP_RELEASED"]
        (latchAggregate latch.scope latch.scopeId) (fun after =>
          after.latch?.map LatchState.safetyLatchId = some latchId)

theorem priorOperation_some {aggregateId : String} {event : PaperEvent}
    (ok : state.priorOperation operationKey types aggregateId = .ok (some event)) :
    state.findEvent operationKey = some event ∧ event.request.eventType ∈ types ∧
      event.request.aggregateId = aggregateId := by
  unfold priorOperation at ok
  split at ok
  · cases ok
  · rename_i recorded found
    split at ok
    · cases ok
    · rename_i matching
      cases ok
      simp only [not_or, not_not] at matching
      exact ⟨found, matching⟩

/-- Artifacts were filed and nothing else changed. -/
structure Filed (before after : PaperStore) : Prop where
  events : after.events = before.events
  aggregates : after.aggregates = before.aggregates
  artifacts : ∃ more, after.artifacts = before.artifacts ++ more

theorem putArtifact_filed {store filed : PaperStore} {content : PaperContent}
    {schemaName policyVersion : String} {artifact : ℕ}
    (ok : store.putArtifact actor content schemaName .internal policyVersion = .ok (artifact, filed)) :
    Filed store filed ∧ filed.artifacts[artifact]?.map Artifact.content = some content := by
  rcases putArtifact_cases ok with ⟨rfl, found⟩ | ⟨rfl, -, rfl⟩
  · obtain ⟨inside, same, -⟩ := findIdx?_eq_some_iff_getElem.mp found
    refine ⟨⟨rfl, rfl, [], by simp⟩, ?_⟩
    simp only [decide_eq_true_eq] at same
    rw [getElem?_eq_getElem inside, map_some, same.2.1]
  · exact ⟨⟨rfl, rfl, _, rfl⟩, by simp⟩

variable {first second : PaperStore}

theorem Filed.trans (earlier : Filed first second) (later : Filed second third) :
    Filed first third where
  events := later.events.trans earlier.events
  aggregates := later.aggregates.trans earlier.aggregates
  artifacts := by
    obtain ⟨more, same⟩ := earlier.artifacts
    obtain ⟨rest, others⟩ := later.artifacts
    exact ⟨more ++ rest, by rw [others, same, append_assoc]⟩

theorem Filed.keeps (filed : Filed first second) {artifact : ℕ} {content : PaperContent}
    (held : first.artifacts[artifact]?.map Artifact.content = some content) :
    second.artifacts[artifact]?.map Artifact.content = some content := by
  obtain ⟨_, same⟩ := filed.artifacts
  obtain ⟨_, found, rfl⟩ := map_eq_some_iff.mp held
  have inside := (List.getElem?_eq_some_iff.mp found).1
  rw [same, List.getElem?_append_left inside, found, map_some]

theorem Filed.version (filed : Filed first second) (kind aggregateId : String) :
    second.version kind aggregateId = first.version kind aggregateId := by
  simp only [Store.version, Store.state, filed.aggregates]

theorem Filed.versioned (filed : Filed first second) (versioned : first.Versioned) :
    second.Versioned := by
  intro event member
  rw [filed.events] at member
  rw [filed.version]
  exact versioned event member

theorem Filed.refl (store : PaperStore) : Filed store store := ⟨rfl, rfl, [], by simp⟩

/-- The commit a call makes, with the guards that led to it. -/
inductive Commit (ctx : DecimalContext) (before : PaperState) :
    PaperCall → PaperAnswer → PaperState → Prop
  | started {actor readings spec operationKey filed risk execution}
      (absent : before.findRun spec.paperRunId = none)
      (supported : ∀ listed ∈ spec.instruments, spotIn spec.reportingCurrency listed)
      (files : Filed before.store filed)
      (riskFiled : filed.artifacts[risk]?.map Artifact.content = some (.riskEnvelope spec.riskEnvelope))
      (executionFiled : filed.artifacts[execution]?.map Artifact.content =
        some (.executionConfig spec.executionConfig))
      (unused : operationKey ∉ before.store.keys) :
      Commit ctx before ⟨actor, readings, .startRun spec operationKey⟩ (.id spec.paperRunId)
        { before with
          store := filed.append operationKey (startedRequest actor spec risk execution) (some "paper.run")
          runs := before.runs ++ [startedRun spec risk execution] }
  | reconciled {actor readings runId operationKey marketDataValid run current}
      (found : before.findRun runId = some run)
      (read : before.store.state "paper_run" runId = some current)
      (unused : operationKey ∉ before.store.keys) :
      Commit ctx before ⟨actor, readings, .reconcile runId operationKey marketDataValid⟩
        (.status (before.reconciledStatus runId marketDataValid))
        ((before.logged operationKey (reconciledRequest actor before run marketDataValid current)
          "paper.reconcile").updateRun runId fun run =>
            { run with status := before.reconciledStatus runId marketDataValid })
  | restarted {actor readings runId operationKey run config current}
      (found : before.joinedRun runId = some (run, config))
      (read : before.store.state "paper_run" runId = some current)
      (unused : operationKey ∉ before.store.keys) :
      Commit ctx before ⟨actor, readings, .restart runId operationKey⟩ (.status .reconcileOnly)
        ((before.logged operationKey (restartedRequest actor run current)
          "paper.reconcile").updateRun runId fun run => { run with status := .reconcileOnly })
  | submitted {actor : Identity} {readings : Readings} {runId intent spec snapshot envelope poolId run}
      {config : PaperContent} {reservation amounts}
      (fresh : before.findClientOrder intent.clientOrderId = none)
      (found : before.joinedRun runId = some (run, config))
      (active : run.status = .active)
      (unstopped : before.stopped runId intent = false)
      (pinned : before.content run.riskConfigArtifactId = some (.riskEnvelope envelope))
      (configured : instrument config intent.venue intent.instrumentId intent.submissionTime = .ok spec)
      (checked : pretradeCheck ctx intent spec snapshot envelope
        (before.positionQuantity runId intent.venue intent.instrumentId)
        (before.activeRisk ctx readings.rank runId poolId) readings.now = .ok reservation)
      (built : ReservedAmounts.build reservation.amount reservation.amount 0 0 = .ok amounts)
      (unreserved : before.findReservation reservation.reservationId = none)
      (absent : before.findOrder (readings.uid "PORD") = none)
      (unused : s!"paper-order:{intent.clientOrderId}" ∉ before.store.keys) :
      Commit ctx before ⟨actor, readings, .submit runId intent spec snapshot envelope poolId⟩
        (.id (readings.uid "PORD"))
        { before.logged s!"paper-order:{intent.clientOrderId}" (acknowledgedRequest actor
            (acknowledgedOrder (readings.uid "PORD") runId intent reservation) run.policyVersion)
            "paper.order" with
          orders := before.orders ++ [acknowledgedOrder (readings.uid "PORD") runId intent reservation]
          reservations := before.reservations ++ [heldReservation
            (acknowledgedOrder (readings.uid "PORD") runId intent reservation) poolId reservation
            amounts] }
  | doubted {actor readings orderId reasonCode operationKey order policy current}
      (found : before.findOrder orderId = some order)
      (allowed : OrderState.unknownReconciling ∈ order.finalState.transitions)
      (read : before.store.state "paper_order" orderId = some current)
      (unused : operationKey ∉ before.store.keys) :
      Commit ctx before ⟨actor, readings, .markUnknown orderId reasonCode operationKey⟩ .done
        ((before.logged operationKey (unknownRequest actor order reasonCode policy current)
          "paper.incident").postUnknown order)
  | filled {actor : Identity} {readings : Readings} {orderId} {fill : PaperFill} {quoteCurrency order}
      {run : PaperRun} {config intent record ledger reservation amounts current}
      (fresh : before.findFill fill.externalFillKey = none)
      (found : before.findOrder orderId = some order)
      (joined : before.joinedRun order.paperRunId = some (run, config))
      (priced : checkFill ctx config order fill quoteCurrency = .ok ())
      (later : ∀ earlier ∈ before.instrumentFills order.paperRunId order.venueId order.instrumentId,
        earlier.fill.fillTime ≤ fill.fillTime)
      (loaded : loadIntent order = .ok intent)
      (moved : fillRecord ctx order intent fill = .ok record)
      (rebuilt : rebuildLedger ctx readings.rank
        (before.instrumentFills order.paperRunId order.venueId order.instrumentId) (fill.toFill order) =
          .ok ledger)
      (newRow : ∀ other ∈ before.fills, other.paperFillId ≠ readings.uid "PFILL")
      (newEntry : ∀ other ∈ before.cash, other.paperCashEntryId ≠ readings.uid "PCASH")
      (reserved : before.findReservation order.reservationId = some reservation)
      (converted : filledAmounts ctx reservation.amounts record.filledQuantity order.quantity =
        .ok amounts)
      (read : before.store.state "paper_order" orderId = some current)
      (unused : s!"paper-fill:{fill.externalFillKey}" ∉ before.store.keys) :
      Commit ctx before ⟨actor, readings, .recordFill orderId fill quoteCurrency⟩
        (.id (readings.uid "PFILL"))
        ((before.logged s!"paper-fill:{fill.externalFillKey}"
          (filledRequest actor order record run.policyVersion current) "paper.fill").postFill
          (fillRow (readings.uid "PFILL") orderId ((before.orderFills orderId).length + 1) fill
            quoteCurrency)
          ⟨order.paperRunId, order.venueId, order.instrumentId, ledger.position, quoteCurrency,
            ledger.realizedPnl⟩
          ⟨readings.uid "PCASH", order.paperRunId, readings.uid "PFILL", quoteCurrency,
            cashDelta ctx order.side fill,
            ctx.add (before.priorBalance readings.rank order.paperRunId quoteCurrency)
              (cashDelta ctx order.side fill), readings.started⟩
          order.reservationId amounts record)
  | cancelled {actor readings orderId operationKey order reservation amounts policy current}
      (found : before.findOrder orderId = some order)
      (known : order.finalState ≠ .unknownReconciling)
      (allowed : OrderState.cancelPending ∈ order.finalState.transitions)
      (reserved : before.findReservation order.reservationId = some reservation)
      (released : cancelledAmounts ctx reservation.amounts = .ok amounts)
      (read : before.store.state "paper_order" orderId = some current)
      (unused : operationKey ∉ before.store.keys) :
      Commit ctx before ⟨actor, readings, .cancel orderId operationKey⟩ .done
        ((before.logged operationKey (cancelledRequest actor order policy current)
          "paper.order").postCancel order amounts)
  | stopped {actor : Identity} {readings : Readings} {runId stopping operationKey run current}
      (found : before.findRun runId = some run)
      (read : before.store.state "paper_run" runId = some current)
      (newStop : ∀ other ∈ before.stops, other.emergencyStopId ≠ readings.uid "STOP")
      (unused : operationKey ∉ before.store.keys) :
      Commit ctx before ⟨actor, readings, .stop runId stopping operationKey⟩
        (.id (readings.uid "STOP"))
        { before.logged operationKey (stoppedRequest actor run stopping current) "paper.stop" with
          stops := before.stops ++ [stopEvent (readings.uid "STOP") runId stopping operationKey] }
  | latched {actor : Identity} {readings : Readings} {stopping operationKey}
      (covers : stopping.scope ≠ .strategy)
      (inactive : ∀ latch ∈ before.latches, latch.active → latch.scope = stopping.scope →
        latch.scopeId ≠ stopping.scopeId)
      (absent : before.findLatch (readings.uid "SLATCH") = none)
      (unused : operationKey ∉ before.store.keys) :
      Commit ctx before ⟨actor, readings, .emergencyStop stopping operationKey⟩
        (.id (readings.uid "SLATCH"))
        { before.logged operationKey (latchedRequest actor stopping (readings.uid "SLATCH")
            (before.store.version "paper_safety_latch"
              (latchAggregate stopping.scope stopping.scopeId))) "paper.stop" with
          latches := before.latches ++ [safetyLatch (readings.uid "SLATCH") stopping] }
  | unlatched {actor readings latchId reasonCode operationKey latch current}
      (found : before.findLatch latchId = some latch)
      (held : latch.active)
      (read : before.store.state "paper_safety_latch" (latchAggregate latch.scope latch.scopeId) =
        some current)
      (unused : operationKey ∉ before.store.keys) :
      Commit ctx before ⟨actor, readings, .releaseEmergencyStop latchId reasonCode operationKey⟩ .done
        ((before.logged operationKey (releasedRequest actor latch reasonCode current)
          "paper.stop").updateLatch latchId fun latch => { latch with active := false })

/-- The commits that follow an emergency stop. -/
inductive Aftermath (ctx : DecimalContext) (actor : Identity) (latchId : String) (before : PaperState) :
    PaperState → Prop
  | cleared {order reservation amounts policy current}
      (found : before.findOrder order.paperOrderId = some order)
      (listed : order.finalState ∈
        [OrderState.acknowledged, .partiallyFilled, .amended, .cancelPending])
      (reserved : before.findReservation order.reservationId = some reservation)
      (released : cancelledAmounts ctx reservation.amounts = .ok amounts)
      (read : before.store.state "paper_order" order.paperOrderId = some current)
      (unused : s!"safety-latch-cancel:{latchId}:{order.paperOrderId}" ∉ before.store.keys) :
      Aftermath ctx actor latchId before
        ((before.logged s!"safety-latch-cancel:{latchId}:{order.paperOrderId}"
          (latchCancelRequest actor latchId order policy current) "paper.order").postCancel order amounts)
  | fenced {run held current}
      (found : before.findRun run.paperRunId = some held)
      (read : before.store.state "paper_run" run.paperRunId = some current)
      (unused : s!"safety-latch-fence:{latchId}:{run.paperRunId}" ∉ before.store.keys) :
      Aftermath ctx actor latchId before
        ((before.logged s!"safety-latch-fence:{latchId}:{run.paperRunId}"
          (fencedRequest actor latchId run current) "paper.reconcile").updateRun run.paperRunId
            fun run => { run with status := .reconcileOnly })

inductive Effect (ctx : DecimalContext) (before : PaperState) :
    PaperCall → PaperAnswer → PaperState → Prop
  | replayed {call answer} (records : Recorded before call.request answer) :
      Effect ctx before call answer before
  | committed {call answer after} (commit : Commit ctx before call answer after)
      (alone : ∀ stopping operationKey, call.request ≠ .emergencyStop stopping operationKey) :
      Effect ctx before call answer after
  | latched {actor readings stopping operationKey answer middle after}
      (commit : Commit ctx before ⟨actor, readings, .emergencyStop stopping operationKey⟩ answer middle)
      (follows : Relation.ReflTransGen (Aftermath ctx actor (readings.uid "SLATCH")) middle after)
      (clear : after.coveredOrders stopping.scope stopping.scopeId = [])
      (fenced : stopping.scope = .global → ∀ run ∈ after.runs, run.status ≠ .active) :
      Effect ctx before ⟨actor, readings, .emergencyStop stopping operationKey⟩ answer after

section Projections

theorem PaperState.Projected.step (projected : before.Projected) {filed : PaperStore}
    (files : Filed before.store filed)
    (logs : after.store = filed.append operationKey transitionRequest (some topic))
    (current : transitionRequest.expectedVersion =
      before.store.version transitionRequest.kind transitionRequest.aggregateId)
    (runs : ∀ runId, after.findRun runId = none → before.findRun runId = none ∧
      (transitionRequest.kind = "paper_run" → transitionRequest.aggregateId ≠ runId))
    (orders : ∀ orderId, after.findOrder orderId = none → before.findOrder orderId = none ∧
      (transitionRequest.kind = "paper_order" → transitionRequest.aggregateId ≠ orderId))
    (orderIds : KeyedRows.Distinct paperOrderId after.orders) : after.Projected where
  versioned := by
    rw [logs]
    refine (files.versioned projected.versioned).append _ _ ?_
    rw [current, files.version]
  orderIds := orderIds
  runs := by
    intro runId absent
    obtain ⟨before, other⟩ := runs runId absent
    rw [logs, version_append, if_neg fun same => other same.1 same.2, files.version]
    exact projected.runs runId before
  orders := by
    intro orderId absent
    obtain ⟨before, other⟩ := orders orderId absent
    rw [logs, version_append, if_neg fun same => other same.1 same.2, files.version]
    exact projected.orders orderId before

@[simp] theorem findRun_updateOrder (orderId runId : String) (change : PaperOrder → PaperOrder) :
    (state.updateOrder orderId change).findRun runId = state.findRun runId := rfl

@[simp] theorem findRun_updateReservation (reservationId runId : String)
    (change : RiskReservation → RiskReservation) :
    (state.updateReservation reservationId change).findRun runId = state.findRun runId := rfl

@[simp] theorem findOrder_updateReservation (reservationId orderId : String)
    (change : RiskReservation → RiskReservation) :
    (state.updateReservation reservationId change).findOrder orderId = state.findOrder orderId := rfl

@[simp] theorem findOrder_updateRun (runId orderId : String) (change : PaperRun → PaperRun) :
    (state.updateRun runId change).findOrder orderId = state.findOrder orderId := rfl

@[simp] theorem findRun_logged (runId : String) :
    (state.logged operationKey transitionRequest topic).findRun runId = state.findRun runId := rfl

@[simp] theorem findOrder_logged (orderId : String) :
    (state.logged operationKey transitionRequest topic).findOrder orderId = state.findOrder orderId := rfl

theorem findRun_updateRun {runId other : String} {change : PaperRun → PaperRun}
    (kept : ∀ run, run.paperRunId = runId → (change run).paperRunId = runId) :
    (state.updateRun runId change).findRun other = (state.findRun other).map fun run =>
      if run.paperRunId = runId then change run else run :=
  find_update kept

theorem PaperState.Projected.run_event (projected : before.Projected) {run : PaperRun}
    {change : PaperRun → PaperRun} {current : Aggregate PaperAggregate}
    (found : before.findRun runId = some run)
    (read : before.store.state "paper_run" runId = some current)
    (kind : transitionRequest.kind = "paper_run") (about : transitionRequest.aggregateId = runId)
    (version : transitionRequest.expectedVersion = current.version)
    (kept : ∀ run, run.paperRunId = runId → (change run).paperRunId = runId) :
    ((before.logged operationKey transitionRequest topic).updateRun runId change).Projected := by
  refine projected.step (Filed.refl _) rfl ?_ ?_ ?_ projected.orderIds
  · rw [version, kind, about]
    exact version_of_state read
  · intro other absent
    rw [findRun_updateRun kept, map_eq_none_iff] at absent
    refine ⟨absent, fun _ same => ?_⟩
    rw [about] at same
    rw [same] at found
    rw [findRun_logged, found] at absent
    cases absent
  · intro orderId absent
    exact ⟨absent, fun clash => absurd (kind.symm.trans clash) (by decide)⟩

theorem PaperState.Projected.order_event (projected : before.Projected) {order : PaperOrder}
    {change : PaperOrder → PaperOrder} {current : Aggregate PaperAggregate}
    (logs : after.store = before.store.append operationKey transitionRequest (some topic))
    (found : before.findOrder order.paperOrderId = some order)
    (read : before.store.state "paper_order" order.paperOrderId = some current)
    (kind : transitionRequest.kind = "paper_order")
    (about : transitionRequest.aggregateId = order.paperOrderId)
    (version : transitionRequest.expectedVersion = current.version)
    (runs : after.runs = before.runs)
    (orders : after.orders = KeyedRows.update paperOrderId order.paperOrderId change
      before.orders)
    (kept : ∀ row, row.paperOrderId = order.paperOrderId →
      (change row).paperOrderId = order.paperOrderId) : after.Projected := by
  have absence : ∀ orderId, after.findOrder orderId = none ↔ before.findOrder orderId = none := by
    intro orderId
    rw [PaperState.findOrder, orders]
    exact find_update_eq_none kept
  refine projected.step (Filed.refl _) logs ?_ ?_ ?_ ?_
  · rw [version, kind, about]
    exact version_of_state read
  · intro runId absent
    rw [PaperState.findRun, runs] at absent
    exact ⟨absent, fun clash => absurd (kind.symm.trans clash) (by decide)⟩
  · intro orderId absent
    rw [absence] at absent
    refine ⟨absent, fun _ same => ?_⟩
    rw [← same, about, found] at absent
    cases absent
  · rw [orders]
    exact distinct_update kept projected.orderIds

theorem Commit.projected {answer : PaperAnswer} (projected : before.Projected)
    (commit : Commit ctx before call answer after) : after.Projected := by
  cases commit with
  | @started _ _ _ _ _ _ _ absent _ files =>
    refine projected.step files rfl ?_ ?_ ?_ projected.orderIds
    · exact (projected.runs _ absent).symm
    · intro runId missing
      simp only [PaperState.findRun, find_insert, or_eq_none_iff,
        ite_eq_right_iff, reduceCtorEq, imp_false] at missing
      exact ⟨missing.1, fun _ => missing.2⟩
    · intro orderId missing
      exact ⟨missing, by simp [startedRequest, PaperState.request]⟩
  | reconciled found read =>
    have named := find_key found
    subst named
    exact projected.run_event found read rfl rfl rfl fun _ named => named
  | restarted found read =>
    obtain ⟨_, listed, joined⟩ := bind_eq_some_iff.mp found
    obtain ⟨_, -, pair⟩ := map_eq_some_iff.mp joined
    cases pair
    have named := find_key listed
    subst named
    exact projected.run_event listed read rfl rfl rfl fun _ named => named
  | submitted _ _ _ _ _ _ _ _ _ absent =>
    refine projected.step (Filed.refl _) rfl ?_ ?_ ?_ ?_
    · exact (projected.orders _ absent).symm
    · intro runId missing
      exact ⟨missing, by simp [acknowledgedRequest, PaperState.request]⟩
    · intro orderId missing
      simp only [PaperState.findOrder, find_insert, or_eq_none_iff,
        ite_eq_right_iff, reduceCtorEq, imp_false] at missing
      exact ⟨missing.1, fun _ => missing.2⟩
    · exact distinct_insert projected.orderIds absent
  | doubted found _ read =>
    have named := find_key found
    subst named
    exact projected.order_event rfl found read rfl rfl rfl
      rfl rfl fun _ named => named
  | filled _ found _ _ _ _ _ _ _ _ _ _ read =>
    have named := find_key found
    subst named
    exact projected.order_event rfl found read rfl rfl rfl
      rfl rfl fun _ named => named
  | cancelled found _ _ _ _ read =>
    have named := find_key found
    subst named
    exact projected.order_event rfl found read rfl rfl rfl
      rfl rfl fun _ named => named
  | stopped found read =>
    have named := find_key found
    subst named
    refine projected.step (Filed.refl _) rfl
      (version_of_state read) ?_ ?_ projected.orderIds
    · intro runId missing
      refine ⟨missing, fun _ same => ?_⟩
      rw [← same] at missing
      exact absurd (found.symm.trans missing) (by simp)
    · intro orderId missing
      exact ⟨missing, by simp [stoppedRequest, PaperState.request]⟩
  | latched =>
    exact projected.step (Filed.refl _) rfl rfl
      (fun runId missing => ⟨missing, by simp [latchedRequest, PaperState.request]⟩)
      (fun orderId missing => ⟨missing, by simp [latchedRequest, PaperState.request]⟩)
      projected.orderIds
  | unlatched _ _ read =>
    exact projected.step (Filed.refl _) rfl (version_of_state read)
      (fun runId missing => ⟨missing, by simp [releasedRequest, PaperState.request]⟩)
      (fun orderId missing => ⟨missing, by simp [releasedRequest, PaperState.request]⟩)
      projected.orderIds

theorem Aftermath.projected (projected : before.Projected)
    (step : Aftermath ctx actor latchId before after) : after.Projected := by
  cases step with
  | cleared found _ _ _ read =>
    exact projected.order_event rfl found read rfl rfl
      rfl rfl rfl fun _ named => named
  | fenced found read =>
    exact projected.run_event found read rfl rfl rfl fun _ named => named

end Projections

section Operations

variable {readings : Readings} {answer : PaperAnswer} {runId orderId latchId : String}

theorem startRun_effect {spec : PaperRunSpec} (projected : before.Projected)
    (ok : startRun before actor spec operationKey = .ok (answer, after)) :
    Effect ctx before ⟨actor, readings, .startRun spec operationKey⟩ answer after := by
  simp only [startRun, bind_ok, guard_ok, not_exists, not_and, not_not] at ok
  obtain ⟨-, -, supported, ok⟩ := ok
  split at ok
  · rename_i existing found
    simp only [bind_ok, expect_ok, guard_ok, not_not, pure_ok, Prod.mk.injEq] at ok
    obtain ⟨prior, noted, event, rfl, risk, riskHeld, execution, executionHeld, same, rfl, rfl⟩ := ok
    obtain ⟨recorded, typed, about⟩ := priorOperation_some noted
    obtain ⟨policy, currency, rfl, rfl⟩ := same
    have named := find_key found
    exact .replayed ⟨congrArg _ named, ⟨event, recorded, typed, about, trivial⟩, existing, found, policy,
      currency, riskHeld, executionHeld⟩
  · rename_i absent
    simp only [bind_ok, pure_ok, Prod.mk.injEq, Prod.exists] at ok
    obtain ⟨_, _, riskFiled, _, second, executionFiled, _, advanced, rfl, rfl⟩ := ok
    obtain ⟨filedRisk, riskHeld⟩ := putArtifact_filed riskFiled
    obtain ⟨filedExecution, executionHeld⟩ := putArtifact_filed executionFiled
    have filed := filedRisk.trans filedExecution
    have zero : second.version "paper_run" spec.paperRunId = 0 := by
      rw [filed.version]
      exact projected.runs _ absent
    have versioned : ({ before with store := second } : PaperState).store.Versioned :=
      filed.versioned projected.versioned
    obtain ⟨unused, rfl⟩ := transition_ok versioned zero.symm advanced
    have fresh : operationKey ∉ before.store.keys := by
      simpa [Store.keys, filed.events] using unused
    exact .committed (.started absent supported filed (filedExecution.keeps riskHeld) executionHeld
      fresh) (by rintro _ _ ⟨⟩)

theorem aggregate_ok {kind aggregateId : String} {current : Aggregate PaperAggregate}
    (ok : state.aggregate kind aggregateId = .ok current) :
    state.store.state kind aggregateId = some current := by
  simpa [PaperState.aggregate] using ok

theorem reconcile_effect (projected : before.Projected)
    (ok : reconcile before actor runId operationKey marketDataValid = .ok (answer, after)) :
    Effect ctx before ⟨actor, readings, .reconcile runId operationKey marketDataValid⟩ answer after := by
  simp only [reconcile, bind_ok, expect_ok] at ok
  obtain ⟨-, -, run, found, prior, noted, ok⟩ := ok
  have named := find_key found
  cases prior with
  | some event =>
    simp only [bind_ok, expect_ok, guard_ok, not_not, pair_ok] at ok
    obtain ⟨recorded, projects, same, rfl, rfl⟩ := ok
    obtain ⟨held, typed, about⟩ := priorOperation_some noted
    exact .replayed ⟨⟨run, found⟩, event, held, typed, about, recorded, projects, same, rfl⟩
  | none =>
    simp only [bind_ok, pair_ok] at ok
    obtain ⟨_, read, _, advanced, rfl, rfl⟩ := ok
    have held := aggregate_ok read
    subst named
    obtain ⟨unused, rfl⟩ := transition_ok projected.versioned (version_of_state held) advanced
    exact .committed (.reconciled found held unused) (by simp)

theorem restart_effect (projected : before.Projected)
    (ok : restart before actor runId operationKey = .ok (answer, after)) :
    Effect ctx before ⟨actor, readings, .restart runId operationKey⟩ answer after := by
  simp only [restart, bind_ok, expect_ok, Prod.exists] at ok
  obtain ⟨-, -, run, _, found, prior, noted, ok⟩ := ok
  have named : run.paperRunId = runId := by
    obtain ⟨held, listed, same⟩ := bind_eq_some_iff.mp found
    obtain ⟨_, -, pair⟩ := map_eq_some_iff.mp same
    cases pair
    exact find_key listed
  cases prior with
  | some event =>
    simp only [pair_ok] at ok
    obtain ⟨rfl, rfl⟩ := ok
    obtain ⟨held, typed, about⟩ := priorOperation_some noted
    exact .replayed ⟨rfl, ⟨_, found⟩, event, held, typed, about, trivial⟩
  | none =>
    simp only [bind_ok, pair_ok] at ok
    obtain ⟨_, read, _, advanced, rfl, rfl⟩ := ok
    have held := aggregate_ok read
    subst named
    obtain ⟨unused, rfl⟩ := transition_ok projected.versioned (version_of_state held) advanced
    exact .committed (.restarted found held unused) (by simp)

theorem raised_ok {α : Type} {computation : Except FinanceError α} {value : α} :
    raised computation = .ok value ↔ computation = .ok value :=
  mapError_ok

theorem orRaise_ok {α : Type} {computation : Except FinanceError α} {value : α} :
    orRaise code computation = .ok value ↔ computation = .ok value :=
  mapError_ok

theorem submit_effect {poolId : String} {intent : OrderIntent} {spec : InstrumentSpec}
    {snapshot : MarketSnapshot} {envelope : RiskEnvelope} (projected : before.Projected)
    (ok : submit ctx before actor readings runId intent spec snapshot envelope poolId =
      .ok (answer, after)) :
    Effect ctx before ⟨actor, readings, .submit runId intent spec snapshot envelope poolId⟩ answer
      after := by
  simp only [submit, bind_ok] at ok
  obtain ⟨-, -, ok⟩ := ok
  split at ok
  · rename_i prior found
    simp only [bind_ok, guard_ok, not_not, pair_ok] at ok
    obtain ⟨same, rfl, rfl⟩ := ok
    exact .replayed ⟨prior, found, same, rfl⟩
  · rename_i fresh
    simp only [bind_ok, expect_ok, guard_ok, not_not, pair_ok, Prod.exists, filter_eq_some_iff,
      orRaise_ok, decide_eq_true_eq, Bool.not_eq_true] at ok
    obtain ⟨_, _, ⟨found, active⟩, unstopped, _, pinned, rfl, _, named, rfl,
      reservation, checked, amounts, built, unreserved, -, -, absent, moved, advanced, rfl, rfl⟩ := ok
    have zero := projected.orders _ absent
    obtain ⟨unused, rfl⟩ := transition_ok projected.versioned zero.symm advanced
    exact .committed (.submitted fresh found active unstopped pinned named checked built unreserved absent
      unused) (by simp)

theorem simulateOrder_unchanged {snapshot : MarketSnapshot} {model : FillModel}
    (ok : simulateOrder ctx before actor readings orderId snapshot model schedule = .ok (answer, after)) :
    after = before := by
  simp only [simulateOrder, bind_ok] at ok
  obtain ⟨-, -, _, -, _, -, _, -, _, -, -, -, ok⟩ := ok
  split at ok
  · simp only [pair_ok] at ok
    exact ok.2.symm
  · simp only [bind_ok] at ok
    obtain ⟨_, -, simulated, -, ok⟩ := ok
    cases simulated with
    | none =>
      simp only [pair_ok] at ok
      exact ok.2.symm
    | some =>
      simp only [bind_ok, pair_ok] at ok
      obtain ⟨_, -, _, -, -, -, -, same⟩ := ok
      exact same.symm

theorem markUnknown_effect {reasonCode : String} (projected : before.Projected)
    (ok : markUnknown ctx before actor orderId reasonCode operationKey = .ok (answer, after)) :
    Effect ctx before ⟨actor, readings, .markUnknown orderId reasonCode operationKey⟩ answer after := by
  simp only [markUnknown, bind_ok, expect_ok] at ok
  obtain ⟨-, -, order, found, prior, noted, ok⟩ := ok
  have named := find_key found
  cases prior with
  | some event =>
    simp only [bind_ok, guard_ok, not_not, pair_ok] at ok
    obtain ⟨current, read, same, rfl, rfl⟩ := ok
    obtain ⟨held, typed, about⟩ := priorOperation_some noted
    exact .replayed ⟨rfl, ⟨order, found⟩, ⟨event, held, typed, about, trivial⟩, current,
      aggregate_ok read, same⟩
  | none =>
    simp only [bind_ok, raised_ok, pair_ok] at ok
    obtain ⟨_, -, _, allowed, _, read, _, -, _, advanced, rfl, rfl⟩ := ok
    have held := aggregate_ok read
    have listed := (OrderRecord.transition_ok allowed).1
    subst named
    obtain ⟨unused, rfl⟩ := transition_ok projected.versioned (version_of_state held) advanced
    exact .committed (.doubted found listed held unused) (by simp)

theorem loadIntent_ok {order : PaperOrder} {intent : OrderIntent} (ok : loadIntent order = .ok intent) :
    intent = { order.intent with quantity := order.quantity, limitPrice := order.price } := by
  simp only [loadIntent, map_ok, raised_ok] at ok
  obtain ⟨_, validated, rfl⟩ := ok
  rw [(OrderIntent.validate_ok validated).1]

theorem recordFill_effect {quoteCurrency : String} {fill : PaperFill} (projected : before.Projected)
    (ok : recordFill ctx before actor readings orderId fill quoteCurrency = .ok (answer, after)) :
    Effect ctx before ⟨actor, readings, .recordFill orderId fill quoteCurrency⟩ answer after := by
  simp only [recordFill, bind_ok] at ok
  obtain ⟨-, -, ok⟩ := ok
  split at ok
  · rename_i existing found
    simp only [bind_ok, guard_ok, not_not, pair_ok] at ok
    obtain ⟨same, rfl, rfl⟩ := ok
    exact .replayed ⟨existing, found, same, rfl⟩
  · rename_i fresh
    simp only [bind_ok, expect_ok, guard_ok, pair_ok, Prod.exists, not_exists, not_and, not_lt] at ok
    obtain ⟨order, found, _, _, joined, ⟨⟩, priced, later, _, loaded, _, record, moved,
      ledger, checked, newRow, newEntry, reservation, reserved, amounts, converted, current, read, noted,
      advanced, rfl, rfl⟩ := ok
    have named := find_key found
    have held := aggregate_ok read
    simp only [checkedLedger, bind_ok, raised_ok, guard_ok, pure_ok] at checked
    obtain ⟨_, ledgerOk, _, -, -, rfl⟩ := checked
    have terms : record.intent.quantity = order.quantity := by
      simp only [fillRecord, raised_ok] at moved
      rw [(OrderRecord.transition_ok moved).2.2.2.2.1, loadRecord, loadIntent_ok loaded]
    rw [terms] at converted
    subst named
    obtain ⟨unused, rfl⟩ := transition_ok projected.versioned (version_of_state held) advanced
    exact .committed (.filled fresh found joined priced later loaded moved ledgerOk newRow newEntry
      reserved converted held unused) (by simp)

theorem cancel_effect (projected : before.Projected)
    (ok : cancel ctx before actor orderId operationKey = .ok (answer, after)) :
    Effect ctx before ⟨actor, readings, .cancel orderId operationKey⟩ answer after := by
  simp only [cancel, bind_ok, expect_ok] at ok
  obtain ⟨-, -, order, found, prior, noted, ok⟩ := ok
  have named := find_key found
  cases prior with
  | some event =>
    simp only [pair_ok] at ok
    obtain ⟨rfl, rfl⟩ := ok
    obtain ⟨held, typed, about⟩ := priorOperation_some noted
    exact .replayed ⟨rfl, ⟨order, found⟩, event, held, typed, about, trivial⟩
  | none =>
    simp only [bind_ok, expect_ok, guard_ok, raised_ok, pair_ok] at ok
    obtain ⟨-, known, _, -, _, allowed, _, -, _, reserved, _, released,
      current, read, policy, -, moved, advanced, rfl, rfl⟩ := ok
    have held := aggregate_ok read
    have listed := (OrderRecord.transition_ok allowed).1
    subst named
    obtain ⟨unused, rfl⟩ := transition_ok projected.versioned (version_of_state held) advanced
    exact .committed (.cancelled found known listed reserved released held unused) (by simp)

theorem stop_effect (projected : before.Projected)
    (ok : stop before actor readings runId stopping operationKey = .ok (answer, after)) :
    Effect ctx before ⟨actor, readings, .stop runId stopping operationKey⟩ answer after := by
  simp only [stop, bind_ok, expect_ok] at ok
  obtain ⟨-, -, run, found, prior, noted, ok⟩ := ok
  have named := find_key found
  cases prior with
  | some event =>
    simp only [bind_ok, expect_ok, guard_ok, not_not, pair_ok] at ok
    obtain ⟨same, row, listed, rfl, rfl⟩ := ok
    obtain ⟨held, typed, about⟩ := priorOperation_some noted
    exact .replayed ⟨⟨run, found⟩, ⟨event, held, typed, about, same⟩, row, listed, rfl⟩
  | none =>
    simp only [bind_ok, guard_ok, pair_ok, not_exists, not_and] at ok
    obtain ⟨_, read, _, advanced, newStop, rfl, rfl⟩ := ok
    have held := aggregate_ok read
    subst named
    obtain ⟨unused, rfl⟩ := transition_ok projected.versioned (version_of_state held) advanced
    exact .committed (.stopped found held newStop unused) (by rintro _ _ ⟨⟩)

theorem releaseEmergencyStop_effect (projected : before.Projected)
    (ok : releaseEmergencyStop before actor latchId reasonCode operationKey = .ok (answer, after)) :
    Effect ctx before ⟨actor, readings, .releaseEmergencyStop latchId reasonCode operationKey⟩ answer
      after := by
  simp only [releaseEmergencyStop, bind_ok, expect_ok] at ok
  obtain ⟨-, -, latch, found, prior, noted, ok⟩ := ok
  have named := find_key found
  cases prior with
  | some event =>
    simp only [bind_ok, guard_ok, not_not, pair_ok] at ok
    obtain ⟨same, rfl, rfl⟩ := ok
    obtain ⟨held, typed, about⟩ := priorOperation_some noted
    exact .replayed ⟨rfl, latch, found, event, held, typed, about, same⟩
  | none =>
    simp only [bind_ok, guard_ok, not_not, pair_ok] at ok
    obtain ⟨active, _, read, _, advanced, rfl, rfl⟩ := ok
    have held := aggregate_ok read
    obtain ⟨unused, rfl⟩ := transition_ok projected.versioned (version_of_state held) advanced
    exact .committed (.unlatched found active held unused) (by simp)

theorem cancelForSafetyLatch_step {order : PaperOrder} (projected : before.Projected)
    (found : before.findOrder order.paperOrderId = some order)
    (listed : order.finalState ∈ [OrderState.acknowledged, .partiallyFilled, .amended, .cancelPending])
    (ok : cancelForSafetyLatch ctx actor latchId before order = .ok after) :
    Aftermath ctx actor latchId before after ∧ after.runs = before.runs ∧
      after.orders = KeyedRows.update paperOrderId order.paperOrderId
        (fun row => { row with finalState := .cancelled }) before.orders := by
  simp only [cancelForSafetyLatch, bind_ok, expect_ok, pure_ok] at ok
  obtain ⟨_, reserved, _, released, _, read, _, -, _, advanced, rfl⟩ := ok
  have held := aggregate_ok read
  obtain ⟨unused, rfl⟩ := transition_ok projected.versioned (version_of_state held) advanced
  exact ⟨.cleared found listed reserved released held unused, rfl, rfl⟩

/-- The loop over the covered orders: each is still as it was selected when its
turn comes, and none is left. -/
theorem clears {orders : List PaperOrder} (projected : before.Projected)
    (current : ∀ order ∈ orders, before.findOrder order.paperOrderId = some order)
    (distinct : KeyedRows.Distinct PaperOrder.paperOrderId orders)
    (listed : ∀ order ∈ orders, order.covered scope scopeId)
    (rest : ∀ order ∈ before.orders, order.covered scope scopeId →
      order.paperOrderId ∈ orders.map PaperOrder.paperOrderId)
    (ok : orders.foldlM (cancelForSafetyLatch ctx actor latchId) before = .ok after) :
    Relation.ReflTransGen (Aftermath ctx actor latchId) before after ∧ after.Projected ∧
      after.runs = before.runs ∧ after.coveredOrders scope scopeId = [] := by
  induction orders generalizing before with
  | nil =>
    rw [foldlM_nil, pure_ok] at ok
    subst ok
    refine ⟨.refl, projected, rfl, ?_⟩
    rw [PaperState.coveredOrders, filter_eq_nil_iff]
    intro order member covered
    cases rest order member covered
  | cons order orders ih =>
    rw [foldlM_cons, bind_ok] at ok
    obtain ⟨middle, one, others⟩ := ok
    obtain ⟨apart, distinct⟩ := nodup_cons.mp distinct
    have selected := listed order mem_cons_self
    simp only [PaperOrder.covered, Bool.and_eq_true, decide_eq_true_eq] at selected
    obtain ⟨step, runs, updated⟩ := cancelForSafetyLatch_step projected
      (current order mem_cons_self) selected.1.1 one
    have stays : ∀ other ∈ orders, middle.findOrder other.paperOrderId = some other := by
      intro other member
      have differ : other.paperOrderId ≠ order.paperOrderId := fun same =>
        apart (same ▸ mem_map_of_mem member)
      rw [PaperState.findOrder, updated, find_update_other ?_ differ]
      · exact current other (mem_cons_of_mem _ member)
      · exact fun _ named => named
    have remaining : ∀ other ∈ middle.orders, other.covered scope scopeId →
        other.paperOrderId ∈ orders.map PaperOrder.paperOrderId := by
      intro other member covered
      rw [updated] at member
      rcases mem_update member with ⟨_, -, -, rfl⟩ | ⟨held, differ⟩
      · simp [PaperOrder.covered] at covered
      · have remains := rest other held covered
        simp only [map_cons, mem_cons, differ, false_or] at remains
        exact remains
    obtain ⟨follows, kept, sameRuns, nothing⟩ := ih (step.projected projected) stays distinct
      (fun other member => listed other (mem_cons_of_mem _ member)) remaining others
    exact ⟨.head step follows, kept, sameRuns.trans runs, nothing⟩

theorem fenceRun_step {run : PaperRun} (projected : before.Projected)
    (rowed : before.findRun run.paperRunId ≠ none)
    (ok : fenceRun actor latchId before run = .ok after) :
    Aftermath ctx actor latchId before after ∧ after.orders = before.orders ∧
      after.runs = KeyedRows.update PaperRun.paperRunId run.paperRunId
        (fun row => { row with status := .reconcileOnly }) before.runs := by
  simp only [fenceRun, bind_ok, pure_ok] at ok
  obtain ⟨_, read, _, advanced, rfl⟩ := ok
  have held := aggregate_ok read
  obtain ⟨unused, rfl⟩ := transition_ok projected.versioned (version_of_state held) advanced
  obtain ⟨_, found⟩ := ne_none_iff_exists'.mp rowed
  exact ⟨.fenced found held unused, rfl, rfl⟩

theorem fences {runs : List PaperRun} (projected : before.Projected)
    (rowed : ∀ run ∈ runs, before.findRun run.paperRunId ≠ none)
    (rest : ∀ run ∈ before.runs, run.status = .active →
      run.paperRunId ∈ runs.map PaperRun.paperRunId)
    (ok : runs.foldlM (fenceRun actor latchId) before = .ok after) :
    Relation.ReflTransGen (Aftermath ctx actor latchId) before after ∧ after.orders = before.orders ∧
      ∀ run ∈ after.runs, run.status ≠ .active := by
  induction runs generalizing before with
  | nil =>
    rw [foldlM_nil, pure_ok] at ok
    subst ok
    refine ⟨.refl, rfl, fun run member active => ?_⟩
    cases rest run member active
  | cons run runs ih =>
    rw [foldlM_cons, bind_ok] at ok
    obtain ⟨middle, one, others⟩ := ok
    obtain ⟨step, sameOrders, updated⟩ :=
      fenceRun_step projected (rowed run mem_cons_self) one
    have stays : ∀ other ∈ runs, middle.findRun other.paperRunId ≠ none := by
      intro other member
      rw [PaperState.findRun, updated, Ne, find_update_eq_none ?_]
      · exact rowed other (mem_cons_of_mem _ member)
      · exact fun _ named => named
    have remaining : ∀ other ∈ middle.runs, other.status = .active →
        other.paperRunId ∈ runs.map PaperRun.paperRunId := by
      intro other member active
      rw [updated] at member
      rcases mem_update member with ⟨_, -, -, rfl⟩ | ⟨kept, differ⟩
      · cases active
      · have remains := rest other kept active
        simp only [map_cons, mem_cons, differ, false_or] at remains
        exact remains
    obtain ⟨follows, orders, nothing⟩ := ih (step.projected projected) stays remaining others
    exact ⟨.head step follows, orders.trans sameOrders, nothing⟩

theorem emergencyStop_effect (projected : before.Projected)
    (ok : emergencyStop ctx before actor readings stopping operationKey = .ok (answer, after)) :
    Effect ctx before ⟨actor, readings, .emergencyStop stopping operationKey⟩ answer after := by
  simp only [emergencyStop, bind_ok, guard_ok] at ok
  obtain ⟨covers, -, -, prior, noted, ok⟩ := ok
  cases prior with
  | some event =>
    simp only [bind_ok, expect_ok, guard_ok, not_not, pair_ok] at ok
    obtain ⟨recorded, projects, same, rfl, rfl⟩ := ok
    obtain ⟨held, typed, about⟩ := priorOperation_some noted
    exact .replayed ⟨event, held, typed, about, recorded, projects, same, rfl⟩
  | none =>
    simp only [bind_ok, guard_ok, not_not, not_exists, not_and] at ok
    obtain ⟨inactive, moved, advanced, absent, cleared, clearing, ok⟩ := ok
    obtain ⟨unused, rfl⟩ := transition_ok projected.versioned rfl advanced
    have commit : Commit ctx before ⟨actor, readings, .emergencyStop stopping operationKey⟩ _ _ :=
      .latched covers inactive absent unused
    have latched := commit.projected projected
    obtain ⟨follows, kept, sameRuns, nothing⟩ := clears latched
      (fun order member => find_of_mem latched.orderIds (mem_of_mem_filter member))
      (latched.orderIds.sublist (filter_sublist.map _))
      (fun order member => (mem_filter.mp member).2)
      (fun order member covered => mem_map_of_mem (mem_filter.mpr ⟨member, covered⟩)) clearing
    split at ok
    · rename_i everywhere
      simp only [bind_ok, pair_ok] at ok
      obtain ⟨fenced, fencing, rfl, rfl⟩ := ok
      have rowed : ∀ run ∈ cleared.runs.filter fun run => run.status = .active,
          cleared.findRun run.paperRunId ≠ none := by
        intro run member missing
        exact find_none.mp missing run (mem_of_mem_filter member) rfl
      have listed : ∀ run ∈ cleared.runs, run.status = .active → run.paperRunId ∈
          (cleared.runs.filter fun run => run.status = .active).map PaperRun.paperRunId := by
        intro run member active
        exact mem_map_of_mem (mem_filter.mpr ⟨member, by simpa using active⟩)
      obtain ⟨later, orders, inactiveRuns⟩ := fences kept rowed listed fencing
      refine .latched commit (follows.trans later) ?_ fun _ => inactiveRuns
      rw [PaperState.coveredOrders, orders]
      exact nothing
    · rename_i venue
      simp only [pair_ok] at ok
      obtain ⟨rfl, rfl⟩ := ok
      exact .latched commit follows nothing fun everywhere => absurd everywhere venue

theorem handle_effect (projected : before.Projected)
    (ok : handle ctx before call = .ok (answer, after)) : Effect ctx before call answer after := by
  obtain ⟨_, _, request⟩ := call
  cases request with
  | startRun => exact startRun_effect projected ok
  | reconcile => exact reconcile_effect projected ok
  | restart => exact restart_effect projected ok
  | submit => exact submit_effect projected ok
  | simulateOrder =>
    rw [simulateOrder_unchanged ok]
    exact .replayed trivial
  | markUnknown => exact markUnknown_effect projected ok
  | recordFill => exact recordFill_effect projected ok
  | cancel => exact cancel_effect projected ok
  | stop => exact stop_effect projected ok
  | emergencyStop => exact emergencyStop_effect projected ok
  | releaseEmergencyStop =>
    exact releaseEmergencyStop_effect projected ok

end Operations

theorem Effect.preserves (kept : PaperState → Prop) {answer : PaperAnswer}
    (effect : Effect ctx before call answer after) (start : kept before)
    (commits : ∀ answer after, Commit ctx before call answer after → kept after)
    (follows : ∀ actor latchId first second, kept first → Aftermath ctx actor latchId first second →
      kept second) : kept after := by
  cases effect with
  | replayed => exact start
  | committed commit => exact commits _ _ commit
  | latched commit chain clear fenced =>
    have latched := commits _ _ commit
    clear clear fenced
    induction chain with
    | refl => exact latched
    | tail _ step ih => exact follows _ _ _ _ ih step

theorem projected_empty : PaperState.empty.Projected where
  versioned := versioned_empty
  orderIds := nodup_nil
  runs := fun _ _ => rfl
  orders := fun _ _ => rfl

theorem Effect.projected {answer : PaperAnswer} (projected : before.Projected)
    (effect : Effect ctx before call answer after) : after.Projected :=
  effect.preserves PaperState.Projected projected (fun _ _ commit => commit.projected projected)
    fun _ _ _ _ held step => step.projected held

theorem next_projected (projected : before.Projected) (call : PaperCall) :
    (next (handle ctx) before call).Projected :=
  next_of_answered _ projected fun _ _ ok => (handle_effect projected ok).projected projected

theorem run_projected (projected : before.Projected) (calls : List PaperCall) :
    (run (handle ctx) before calls).Projected :=
  run_preserves PaperState.Projected projected (fun _ call kept => next_projected kept call) calls

theorem run_rule {kept : PaperState → Prop} {meets : PaperState → PaperCall → Prop}
    {calls : List PaperCall} (projected : before.Projected) (start : kept before)
    (preserved : ∀ state call answer after, state.Projected → kept state → meets state call →
      Effect ctx state call answer after → kept after)
    (along : Along (handle ctx) meets before calls) : kept (run (handle ctx) before calls) := by
  have both := run_invariant (fun state : PaperState => state.Projected ∧ kept state)
    ⟨projected, start⟩ (fun state call held met => ⟨next_projected held.1 call,
      next_of_answered kept held.2 fun answer after ok =>
        preserved state call answer after held.1 held.2 met (handle_effect held.1 ok)⟩) along
  exact both.2

theorem Reachable.projected (reachable : Reachable ctx state) : state.Projected := by
  obtain ⟨calls, rfl⟩ := reachable
  exact run_projected projected_empty calls

theorem Reachable.rule (kept : PaperState → Prop) (reachable : Reachable ctx state)
    (start : kept .empty)
    (preserved : ∀ before call answer after, before.Projected → kept before →
      Effect ctx before call answer after → kept after) : kept state := by
  obtain ⟨calls, rfl⟩ := reachable
  exact run_rule projected_empty start
    (fun before call answer after projected held _ => preserved before call answer after projected held)
    (along_of_forall (fun _ _ => trivial) _ calls)

theorem Reachable.run (reachable : Reachable ctx state) (calls : List PaperCall) :
    Reachable ctx (CallSystem.run (handle ctx) state calls) := by
  obtain ⟨earlier, rfl⟩ := reachable
  exact ⟨earlier ++ calls, (run_append earlier calls).symm⟩

theorem Reachable.run_rule {kept : PaperState → Prop} {meets : PaperState → PaperCall → Prop}
    {calls : List PaperCall} (reachable : Reachable ctx before) (start : kept before)
    (preserved : ∀ state call answer after, Reachable ctx state → kept state → meets state call →
      handle ctx state call = .ok (answer, after) → kept after)
    (along : Along (handle ctx) meets before calls) : kept (CallSystem.run (handle ctx) before calls) := by
  have both := run_invariant (fun state : PaperState => Reachable ctx state ∧ kept state)
    ⟨reachable, start⟩ (fun state call held met => ⟨held.1.run [call],
      next_of_answered kept held.2 fun answer after ok =>
        preserved state call answer after held.1 held.2 met ok⟩) along
  exact both.2

theorem Reachable.rule_from (kept : PaperState → Prop) (reachable : Reachable ctx state)
    (start : kept .empty)
    (preserved : ∀ before call answer after, Reachable ctx before → kept before →
      Effect ctx before call answer after → kept after) : kept state := by
  obtain ⟨calls, rfl⟩ := reachable
  have empty : Reachable ctx .empty := ⟨[], rfl⟩
  exact empty.run_rule start (fun before call answer after reached held _ ok =>
      preserved before call answer after reached held (handle_effect reached.projected ok))
    (along_of_forall (fun _ _ => trivial) _ calls)

end Liki.Paper
