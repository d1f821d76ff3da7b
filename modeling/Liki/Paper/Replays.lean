import Liki.Paper.SafetyLatches

/-! Retries. Every operation but a simulation is retried under a key: its
operation key, the client order id of a submission, the external key of a fill.
What an answered call recorded under its key stays readable, so the same call is
answered again from the records, and nobody can use the key for a change. A call
that reuses the key with other arguments is refused as far as the operation
compares them with its records. -/
namespace Liki.Paper
open DecimalArithmetic Checks CallSystem Finance PaperState KeyedRows List Option Store

variable {ctx : DecimalContext} {state before after : PaperState} {call : PaperCall}
  {answer : PaperAnswer} {actor : Identity} {latchId operationKey : String}

inductive PaperOperation where
  | startRun | reconcile | restart | submit | markUnknown | recordFill | cancel | stop
  | emergencyStop | releaseEmergencyStop

def PaperRequest.retryKey : PaperRequest → Option (PaperOperation × String)
  | .startRun _ operationKey => some (.startRun, operationKey)
  | .reconcile _ operationKey _ => some (.reconcile, operationKey)
  | .restart _ operationKey => some (.restart, operationKey)
  | .submit _ intent _ _ _ _ => some (.submit, intent.clientOrderId)
  | .simulateOrder _ _ _ _ => none
  | .markUnknown _ _ operationKey => some (.markUnknown, operationKey)
  | .recordFill _ fill _ => some (.recordFill, fill.externalFillKey)
  | .cancel _ operationKey => some (.cancel, operationKey)
  | .stop _ _ operationKey => some (.stop, operationKey)
  | .emergencyStop _ operationKey => some (.emergencyStop, operationKey)
  | .releaseEmergencyStop _ _ operationKey => some (.releaseEmergencyStop, operationKey)

/-- What an operation checks before it looks its key up: who calls, and that what
the call is about is there. -/
def Entitled (state : PaperState) (actor : Identity) : PaperRequest → Prop
  | .startRun spec _ => Capability.paper ∈ actor.role.capabilities ∧
      ∀ listed ∈ spec.instruments, spotIn spec.reportingCurrency listed
  | .reconcile runId _ _ | .restart runId _ =>
      Capability.paper ∈ actor.role.capabilities ∧ ∃ run, state.findRun runId = some run
  | .submit _ _ _ _ _ _ | .recordFill _ _ _ => Capability.paper ∈ actor.role.capabilities
  | .simulateOrder _ _ _ _ => False
  | .markUnknown orderId _ _ | .cancel orderId _ =>
      Capability.paper ∈ actor.role.capabilities ∧ ∃ order, state.findOrder orderId = some order
  | .stop runId stopping _ =>
      stopAuthority actor stopping = .ok () ∧ ∃ run, state.findRun runId = some run
  | .emergencyStop stopping _ => stopping.scope ≠ .strategy ∧ stopAuthority actor stopping = .ok ()
  | .releaseEmergencyStop latchId _ _ =>
      actor.role = .owner ∧ ∃ latch, state.findLatch latchId = some latch

/-- Whether a request differs from an earlier one of its operation in an argument
that the operation compares with its records. A submission compares the intent
alone, a release the latch. -/
def Differs : PaperRequest → PaperRequest → Prop
  | .startRun spec _, .startRun other _ => other ≠ spec
  | .reconcile runId _ valid, .reconcile other _ otherValid => (other, otherValid) ≠ (runId, valid)
  | .restart runId _, .restart other _ => other ≠ runId
  | .submit _ intent _ _ _ _, .submit _ other _ _ _ _ => other ≠ intent
  | .markUnknown orderId reasonCode _, .markUnknown other otherReason _ =>
      (other, otherReason) ≠ (orderId, reasonCode)
  | .recordFill orderId fill currency, .recordFill other otherFill otherCurrency =>
      (other, otherFill, otherCurrency) ≠ (orderId, fill, currency)
  | .cancel orderId _, .cancel other _ => other ≠ orderId
  | .stop runId stopping _, .stop other otherStopping _ => (other, otherStopping) ≠ (runId, stopping)
  | .emergencyStop stopping _, .emergencyStop other _ => other ≠ stopping
  | .releaseEmergencyStop latchId _ _, .releaseEmergencyStop other _ _ => other ≠ latchId
  | _, _ => False

variable {capability : Capability} {topic : Option String}

theorem requires_of (permitted : capability ∈ actor.role.capabilities) :
    actor.requires capability = .ok () := by
  simpa [Identity.requires] using permitted

theorem permitted_of (ok : actor.requires capability = .ok result) :
    capability ∈ actor.role.capabilities := by
  simpa [Identity.requires] using ok

theorem entitled_of_ok (keyed : call.request.retryKey ≠ none)
    (ok : handle ctx before call = .ok (answer, after)) :
    Entitled before call.actor call.request := by
  obtain ⟨_, _, request⟩ := call
  cases request with
  | startRun =>
    simp only [handle, startRun, bind_ok, guard_ok, not_exists, not_and, not_not] at ok
    obtain ⟨⟨⟩, permitted, supported, -⟩ := ok
    exact ⟨permitted_of permitted, supported⟩
  | reconcile =>
    simp only [handle, reconcile, bind_ok, expect_ok] at ok
    obtain ⟨⟨⟩, permitted, run, found, -⟩ := ok
    exact ⟨permitted_of permitted, run, found⟩
  | restart =>
    simp only [handle, restart, bind_ok, expect_ok, Prod.exists] at ok
    obtain ⟨⟨⟩, permitted, run, _, found, -⟩ := ok
    obtain ⟨listed, held, -⟩ := bind_eq_some_iff.mp found
    exact ⟨permitted_of permitted, listed, held⟩
  | submit =>
    simp only [handle, submit, bind_ok] at ok
    obtain ⟨⟨⟩, permitted, -⟩ := ok
    exact permitted_of permitted
  | simulateOrder => exact absurd rfl keyed
  | markUnknown =>
    simp only [handle, markUnknown, bind_ok, expect_ok] at ok
    obtain ⟨⟨⟩, permitted, order, found, -⟩ := ok
    exact ⟨permitted_of permitted, order, found⟩
  | recordFill =>
    simp only [handle, recordFill, bind_ok] at ok
    obtain ⟨⟨⟩, permitted, -⟩ := ok
    exact permitted_of permitted
  | cancel =>
    simp only [handle, cancel, bind_ok, expect_ok] at ok
    obtain ⟨⟨⟩, permitted, order, found, -⟩ := ok
    exact ⟨permitted_of permitted, order, found⟩
  | stop =>
    simp only [handle, stop, bind_ok, expect_ok] at ok
    obtain ⟨⟨⟩, authorized, run, found, -⟩ := ok
    exact ⟨authorized, run, found⟩
  | emergencyStop =>
    simp only [handle, emergencyStop, bind_ok, guard_ok] at ok
    obtain ⟨covers, ⟨⟩, authorized, -⟩ := ok
    exact ⟨covers, authorized⟩
  | releaseEmergencyStop =>
    simp only [handle, releaseEmergencyStop, bind_ok, expect_ok, guard_ok, not_not] at ok
    obtain ⟨owner, latch, found, -⟩ := ok
    exact ⟨owner, latch, found⟩

/-- Nothing that a call was about goes away. -/
theorem Entitled.later {request : PaperRequest} (entitled : Entitled before actor request)
    (evolves : Evolves before after) : Entitled after actor request := by
  cases request with
  | startRun => exact entitled
  | reconcile =>
    obtain ⟨permitted, run, found⟩ := entitled
    obtain ⟨later, final, -⟩ := evolves.runs found
    exact ⟨permitted, later, final⟩
  | restart =>
    obtain ⟨permitted, run, found⟩ := entitled
    obtain ⟨later, final, -⟩ := evolves.runs found
    exact ⟨permitted, later, final⟩
  | submit => exact entitled
  | simulateOrder => exact entitled
  | markUnknown =>
    obtain ⟨permitted, order, found⟩ := entitled
    obtain ⟨later, final, -⟩ := evolves.orders found
    exact ⟨permitted, later, final⟩
  | recordFill => exact entitled
  | cancel =>
    obtain ⟨permitted, _, found⟩ := entitled
    obtain ⟨later, final, -⟩ := evolves.orders found
    exact ⟨permitted, later, final⟩
  | stop =>
    obtain ⟨authorized, _, found⟩ := entitled
    obtain ⟨later, final, -⟩ := evolves.runs found
    exact ⟨authorized, later, final⟩
  | emergencyStop => exact entitled
  | releaseEmergencyStop =>
    obtain ⟨owner, _, found⟩ := entitled
    obtain ⟨later, final, -⟩ := evolves.latches found
    exact ⟨owner, later, final⟩

variable {aggregateId orderId reasonCode : String} {types : List String}
  {keyed : PaperOperation × String}

theorem RecordedEvent.later {about : PaperAggregate → Prop}
    (recorded : RecordedEvent before operationKey types aggregateId about)
    (evolves : Evolves before after) : RecordedEvent after operationKey types aggregateId about := by
  obtain ⟨event, found, typed, named, holds⟩ := recorded
  obtain ⟨more, same⟩ := evolves.events
  refine ⟨event, ?_, typed, named, holds⟩
  rw [PaperState.findEvent, same]
  exact find_append_some found more

theorem joinedRun_later (found : before.joinedRun runId = some joined)
    (evolves : Evolves before after) : ∃ again, after.joinedRun runId = some again := by
  obtain ⟨_, listed, read⟩ := bind_eq_some_iff.mp found
  obtain ⟨config, held, -⟩ := map_eq_some_iff.mp read
  obtain ⟨later, final, same⟩ := evolves.runs listed
  have pinned : after.content later.executionConfigArtifactId = some config := by
    rw [same]
    exact evolves.content held
  exact ⟨(later, config), by rw [PaperState.joinedRun, final, bind_some, pinned, map_some]⟩

def MarkedFor (state : PaperState) (orderId reasonCode : String) : Prop :=
  ∃ current, state.store.state "paper_order" orderId = some current ∧
    current.state.order?.bind OrderStateRecord.reconciliationReason = some reasonCode

/-- What was recorded stays so. The reason of a mark is not read from the event
but from the order as it is now, so it is asked for. -/
theorem Recorded.later {request : PaperRequest} (records : Recorded before request answer)
    (evolves : Evolves before after)
    (marked : ∀ orderId reasonCode operationKey, request = .markUnknown orderId reasonCode operationKey →
      MarkedFor after orderId reasonCode) : Recorded after request answer := by
  cases request with
  | startRun =>
    obtain ⟨rfl, event, run, found, policy, currency, risk, execution⟩ := records
    obtain ⟨later, final, same⟩ := evolves.runs found
    refine ⟨rfl, event.later evolves, later, final, ?_, ?_, ?_, ?_⟩
    · rw [same]
      exact policy
    · rw [same]
      exact currency
    · rw [same]
      exact evolves.content risk
    · rw [same]
      exact evolves.content execution
  | reconcile =>
    obtain ⟨⟨run, found⟩, event⟩ := records
    obtain ⟨later, final, -⟩ := evolves.runs found
    exact ⟨⟨later, final⟩, event.later evolves⟩
  | restart =>
    obtain ⟨same, ⟨_, found⟩, event⟩ := records
    exact ⟨same, joinedRun_later found evolves, event.later evolves⟩
  | submit =>
    obtain ⟨order, found, rfl, rfl⟩ := records
    obtain ⟨later, final, same⟩ := evolves.clients found
    refine ⟨later, final, ?_, ?_⟩
    · rw [same]
    · rw [same]
  | simulateOrder => trivial
  | markUnknown =>
    obtain ⟨same, ⟨order, found⟩, event, -⟩ := records
    obtain ⟨later, final, -⟩ := evolves.orders found
    exact ⟨same, ⟨later, final⟩, event.later evolves, marked _ _ _ rfl⟩
  | recordFill =>
    obtain ⟨row, found, same, rfl⟩ := records
    obtain ⟨more, grown⟩ := evolves.fills
    refine ⟨row, ?_, same, rfl⟩
    rw [PaperState.findFill, grown]
    exact find_append_some found more
  | cancel =>
    obtain ⟨same, ⟨_, found⟩, event⟩ := records
    obtain ⟨later, final, -⟩ := evolves.orders found
    exact ⟨same, ⟨later, final⟩, event.later evolves⟩
  | stop =>
    obtain ⟨⟨_, found⟩, event, row, listed, rfl⟩ := records
    obtain ⟨later, final, -⟩ := evolves.runs found
    obtain ⟨more, grown⟩ := evolves.stops
    refine ⟨⟨later, final⟩, event.later evolves, row, ?_, rfl⟩
    rw [grown]
    exact find_append_some listed more
  | emergencyStop =>
    simp only [Recorded] at records ⊢
    exact records.later evolves
  | releaseEmergencyStop =>
    obtain ⟨same, _, found, event⟩ := records
    obtain ⟨later, final, sameScope, -⟩ := evolves.latches found
    refine ⟨same, later, final, ?_⟩
    rw [sameScope]
    exact event.later evolves

theorem recorded_of_logs {transition : PaperTransition} {about : PaperAggregate → Prop}
    (logs : after.store.events = before.store.events ++ [⟨operationKey, transition⟩])
    (unused : operationKey ∉ before.store.keys) (typed : transition.eventType ∈ types)
    (named : transition.aggregateId = aggregateId) (holds : about transition.state) :
    RecordedEvent after operationKey types aggregateId about := by
  have absent : before.findEvent operationKey = none := by
    rw [PaperState.findEvent, find_none]
    intro event member same
    exact unused (same ▸ mem_map_of_mem member)
  refine ⟨⟨operationKey, transition⟩, ?_, typed, named, holds⟩
  rw [PaperState.findEvent, logs]
  exact find_insert_new absent rfl

def PaperAggregate.kind : PaperAggregate → String
  | .run _ => "paper_run"
  | .order _ => "paper_order"
  | .latch _ => "paper_safety_latch"

@[simp] theorem kind_mapRun (aggregate : PaperAggregate) (change : RunState → RunState) :
    (aggregate.mapRun change).kind = aggregate.kind := by
  cases aggregate <;> rfl

@[simp] theorem kind_mapOrder (aggregate : PaperAggregate)
    (change : OrderStateRecord → OrderStateRecord) :
    (aggregate.mapOrder change).kind = aggregate.kind := by
  cases aggregate <;> rfl

theorem run_of_kind {aggregate : PaperAggregate} (kind : aggregate.kind = "paper_run") :
    ∃ recorded, aggregate = .run recorded := by
  cases aggregate with
  | run recorded => exact ⟨recorded, rfl⟩
  | order => exact absurd kind (by simp [PaperAggregate.kind])
  | latch => exact absurd kind (by simp [PaperAggregate.kind])

theorem order_of_kind {aggregate : PaperAggregate} (kind : aggregate.kind = "paper_order") :
    ∃ recorded, aggregate = .order recorded := by
  cases aggregate with
  | run => exact absurd kind (by simp [PaperAggregate.kind])
  | order recorded => exact ⟨recorded, rfl⟩
  | latch => exact absurd kind (by simp [PaperAggregate.kind])

def Shaped (store : PaperStore) : Prop :=
  ∀ kind aggregateId current, store.state kind aggregateId = some current → current.state.kind = kind

theorem Shaped.append {store : PaperStore} (shaped : Shaped store) {transition : PaperTransition}
    (kind : transition.state.kind = transition.kind) :
    Shaped (store.append operationKey transition topic) := by
  intro other aggregateId current read
  rw [state_append] at read
  split at read
  · rename_i same
    cases read
    exact kind.trans same.1
  · exact shaped other aggregateId current read

theorem Commit.shaped (shaped : Shaped before.store) (commit : Commit ctx before call answer after) :
    Shaped after.store := by
  cases commit with
  | @started _ _ _ _ filed _ _ _ _ files =>
    have filedShaped : Shaped filed := by
      intro kind aggregateId current read
      rw [state, files.aggregates] at read
      exact shaped kind aggregateId current read
    exact filedShaped.append rfl
  | reconciled _ read =>
    refine shaped.append ?_
    exact (kind_mapRun _ _).trans (shaped _ _ _ read)
  | restarted _ read =>
    refine shaped.append ?_
    exact (kind_mapRun _ _).trans (shaped _ _ _ read)
  | submitted =>
    exact shaped.append rfl
  | doubted _ _ read =>
    refine shaped.append ?_
    exact (kind_mapOrder _ _).trans (shaped _ _ _ read)
  | filled _ _ _ _ _ _ _ _ _ _ _ _ read =>
    refine shaped.append ?_
    exact (kind_mapOrder _ _).trans (shaped _ _ _ read)
  | cancelled _ _ _ _ _ read =>
    refine shaped.append ?_
    exact (kind_mapOrder _ _).trans (shaped _ _ _ read)
  | stopped _ read =>
    refine shaped.append ?_
    exact (kind_mapRun _ _).trans (shaped _ _ _ read)
  | latched => exact shaped.append rfl
  | unlatched => exact shaped.append rfl

theorem Aftermath.shaped (shaped : Shaped before.store)
    (step : Aftermath ctx actor latchId before after) : Shaped after.store := by
  cases step with
  | cleared _ _ _ _ read =>
    refine shaped.append ?_
    exact (kind_mapOrder _ _).trans (shaped _ _ _ read)
  | fenced _ read =>
    refine shaped.append ?_
    exact (kind_mapRun _ _).trans (shaped _ _ _ read)

theorem shaped_empty : Shaped .empty := by
  simp [Shaped, Store.empty, Store.state]

theorem Reachable.shaped (reachable : Reachable ctx state) : Shaped state.store :=
  reachable.rule (fun state => Shaped state.store) shaped_empty fun _ _ _ _ _ shaped effect =>
    effect.preserves (fun state => Shaped state.store) shaped
      (fun _ _ commit => commit.shaped shaped) fun _ _ _ _ held step => step.shaped held

def StopsLogged (state : PaperState) : Prop :=
  ∀ stop ∈ state.stops, stop.eventKey ∈ state.store.keys

theorem StopsLogged.step (logged : StopsLogged before) (evolves : Evolves before after)
    (stops : ∀ stop ∈ after.stops, stop ∈ before.stops ∨ stop.eventKey ∈ after.store.keys) :
    StopsLogged after := by
  intro stop member
  rcases stops stop member with older | newest
  · obtain ⟨_, same⟩ := evolves.events
    have used := logged stop older
    rw [Store.keys] at used ⊢
    rw [same, map_append]
    exact mem_append_left _ used
  · exact newest

theorem Commit.stops (commit : Commit ctx before call answer after) :
    ∀ stop ∈ after.stops, stop ∈ before.stops ∨ stop.eventKey ∈ after.store.keys := by
  intro stop member
  cases commit with
  | started => exact .inl member
  | reconciled => exact .inl member
  | restarted => exact .inl member
  | submitted =>
    exact .inl member
  | doubted => exact .inl member
  | filled => exact .inl member
  | cancelled => exact .inl member
  | stopped =>
    rcases mem_added member with older | newest
    · exact .inl older
    · rw [newest]
      simp [stopEvent, PaperState.logged]
  | latched => exact .inl member
  | unlatched => exact .inl member

theorem Aftermath.stops (step : Aftermath ctx actor latchId before after) :
    after.stops = before.stops := by
  cases step <;> rfl

theorem Reachable.stopsLogged (reachable : Reachable ctx state) : StopsLogged state := by
  refine reachable.rule StopsLogged ?_ ?_
  · exact fun _ member => nomatch member
  · intro before call answer after projected logged effect
    refine effect.preserves StopsLogged logged ?_ ?_
    · exact fun _ _ commit => logged.step commit.evolves commit.stops
    · intro actor latchId first second held step
      refine held.step step.evolves fun stop member => .inl ?_
      rwa [step.stops] at member

theorem Commit.recorded (shaped : Shaped before.store) (logged : StopsLogged before)
    (commit : Commit ctx before call answer after) : Recorded after call.request answer := by
  have evolves := commit.evolves
  cases commit with
  | @started actor _ spec operationKey _ risk execution absent _ files riskFiled executionFiled
      unused =>
    have logs := congrArg (· ++ [(⟨operationKey, startedRequest actor spec risk execution⟩ : PaperEvent)])
      files.events
    exact ⟨rfl, recorded_of_logs logs unused mem_cons_self rfl trivial,
      startedRun spec risk execution, find_insert_new absent rfl, rfl, rfl, riskFiled, executionFiled⟩
  | @reconciled _ _ _ _ marketDataValid run _ found read unused =>
    obtain ⟨later, final, -⟩ := evolves.runs found
    obtain ⟨recorded, shape⟩ := run_of_kind (shaped _ _ _ read)
    have named := find_key found
    subst named
    refine ⟨⟨later, final⟩, recorded_of_logs rfl unused ?_ rfl ?_⟩
    · simp only [reconciledRequest, PaperState.request]
      split <;> simp
    · refine ⟨before.reconciledState run.paperRunId marketDataValid recorded, ?_, rfl, rfl⟩
      simp only [reconciledRequest, PaperState.request, shape]
      rfl
  | restarted found _ unused =>
    obtain ⟨_, held, joined⟩ := bind_eq_some_iff.mp found
    obtain ⟨config, -, pair⟩ := map_eq_some_iff.mp joined
    cases pair
    have named := find_key held
    subst named
    exact ⟨rfl, joinedRun_later found evolves, recorded_of_logs rfl unused mem_cons_self rfl trivial⟩
  | @submitted _ readings runId intent _ _ _ _ _ _ reservation _ fresh =>
    exact ⟨acknowledgedOrder (readings.uid "PORD") runId intent reservation, find_insert_new fresh rfl,
      rfl, rfl⟩
  | @doubted _ _ _ _ _ _ _ _ found _ read unused =>
    obtain ⟨later, final, -⟩ := evolves.orders found
    obtain ⟨recorded, shape⟩ := order_of_kind (shaped _ _ _ read)
    have named := find_key found
    subst named
    refine ⟨rfl, ⟨later, final⟩, recorded_of_logs rfl unused mem_cons_self rfl trivial, _,
      (state_append _ _).trans (if_pos ⟨rfl, rfl⟩), ?_⟩
    simp only [unknownRequest, PaperState.request, shape]
    rfl
  | @filled _ readings orderId fill quoteCurrency _ _ _ _ _ _ _ _ _ fresh =>
    refine ⟨fillRow (readings.uid "PFILL") orderId ((before.orderFills orderId).length + 1) fill
      quoteCurrency, ?_, ?_, rfl⟩
    · exact find_insert_new fresh rfl
    · simp [FillRow.matches, fillRow]
  | cancelled found _ _ _ _ _ unused =>
    obtain ⟨later, final, -⟩ := evolves.orders found
    have named := find_key found
    subst named
    exact ⟨rfl, ⟨later, final⟩, recorded_of_logs rfl unused mem_cons_self rfl trivial⟩
  | stopped found read _ unused =>
    obtain ⟨later, final, -⟩ := evolves.runs found
    obtain ⟨_, shape⟩ := run_of_kind (shaped _ _ _ read)
    have named := find_key found
    subst named
    refine ⟨⟨later, final⟩, recorded_of_logs rfl unused mem_cons_self rfl ?_, _,
      find_insert_new ?_ rfl, rfl⟩
    · simp only [stoppedRequest, PaperState.request, shape]
      rfl
    · rw [find_none]
      intro stop member same
      exact unused (same ▸ logged stop member)
  | latched _ _ _ unused =>
    simp only [Recorded]
    exact recorded_of_logs rfl unused mem_cons_self rfl ⟨_, rfl, rfl, rfl⟩
  | unlatched found _ _ unused =>
    obtain ⟨later, final, same, -⟩ := evolves.latches found
    refine ⟨rfl, later, final, ?_⟩
    rw [same]
    refine recorded_of_logs rfl unused mem_cons_self rfl ?_
    rw [← find_key found]
    rfl

theorem Effect.recorded (shaped : Shaped before.store) (logged : StopsLogged before)
    (effect : Effect ctx before call answer after) : Recorded after call.request answer := by
  cases effect with
  | replayed records => exact records
  | committed commit => exact commit.recorded shaped logged
  | @latched _ _ _ _ _ middle after commit follows clear fenced =>
    have evolves : Evolves middle after := by
      clear clear fenced
      induction follows with
      | refl => exact Evolves.refl _
      | tail _ step ih => exact ih.trans step.evolves
    exact (commit.recorded shaped logged).later evolves nofun

/-! ### The reason of a mark

The reason is kept in the state of the order, where a second mark would replace
it. There is no second mark: a marked order stays unknown, is filled in part or
in whole, or is cancelled, and none of these states can be marked. -/

/-- The states of an order from its mark on. -/
def PaperOrder.PastDoubt (order : PaperOrder) : Prop :=
  order.finalState ∈ [OrderState.unknownReconciling, .partiallyFilled, .filled, .cancelled]

theorem PaperOrder.PastDoubt.unmarkable {order : PaperOrder} (past : order.PastDoubt) :
    OrderState.unknownReconciling ∉ order.finalState.transitions := by
  unfold PaperOrder.PastDoubt at past
  revert past
  cases order.finalState <;> decide

theorem OrderMove.pastDoubt (move : OrderMove ctx old new) : new.PastDoubt := by
  cases move with
  | doubted => simp [PaperOrder.PastDoubt]
  | filled loaded moved =>
    obtain ⟨-, ⟨complete, -⟩ | ⟨incomplete, -⟩, -⟩ := fillRecord_ok loaded moved
    · simp [complete, PaperOrder.PastDoubt]
    · simp [incomplete, PaperOrder.PastDoubt]
  | cancelled => simp [PaperOrder.PastDoubt]

def Past (state : PaperState) (orderId : String) : Prop :=
  ∃ order, state.findOrder orderId = some order ∧ order.PastDoubt

theorem Past.step (ctx : DecimalContext) (past : Past before orderId) (projected : before.Projected)
    (evolves : Evolves before after)
    (orders : ∀ order ∈ after.orders, order ∈ before.orders ∨
      (∃ old ∈ before.orders, OrderMove ctx old order) ∨ before.findOrder order.paperOrderId = none) :
    Past after orderId := by
  obtain ⟨_, found, doubted⟩ := past
  obtain ⟨later, final, -⟩ := evolves.orders found
  refine ⟨later, final, ?_⟩
  have named : later.paperOrderId = orderId := find_key final
  rcases orders later (find_mem final) with older | ⟨_, _, move⟩ | new
  · have same := find_of_mem projected.orderIds older
    rw [named] at same
    rw [← some.inj (found.symm.trans same)]
    exact doubted
  · exact move.pastDoubt
  · rw [named, found] at new
    cases new

theorem Commit.past (projected : before.Projected) (commit : Commit ctx before call answer after)
    (past : Past before orderId) : Past after orderId := by
  refine past.step ctx projected commit.evolves fun order member => ?_
  rcases commit.orders projected member with older | moved | admission
  · exact .inl older
  · exact .inr (.inl moved)
  · cases admission with
    | submitted _ absent => exact .inr (.inr absent)

theorem Aftermath.past (projected : before.Projected)
    (step : Aftermath ctx actor latchId before after) (past : Past before orderId) :
    Past after orderId :=
  past.step ctx projected step.evolves fun _ member => (step.orders projected member).imp_right .inl

def MarksPast (state : PaperState) : Prop :=
  ∀ event ∈ state.store.events, event.request.eventType = "PAPER_ORDER_UNKNOWN_RECONCILING" →
    Past state event.request.aggregateId

theorem Commit.marks (projected : before.Projected) (commit : Commit ctx before call answer after)
    (marks : MarksPast before) : MarksPast after := by
  have older : ∀ event ∈ before.store.events,
      event.request.eventType = "PAPER_ORDER_UNKNOWN_RECONCILING" →
        Past after event.request.aggregateId :=
    fun event member typed => commit.past projected (marks event member typed)
  have evolves := commit.evolves
  clear marks
  -- A commit adds one event; only that of a mark has the type of a mark.
  have added : ∀ event : PaperEvent, (∀ other ∈ after.store.events, other ∈ before.store.events ∨
      other = event) → (event.request.eventType = "PAPER_ORDER_UNKNOWN_RECONCILING" →
        Past after event.request.aggregateId) → MarksPast after := by
    intro event known new other member typed
    rcases known other member with held | rfl
    · exact older other held typed
    · exact new typed
  have one : ∀ {event : PaperEvent} {events : List PaperEvent}, ∀ other ∈ events ++ [event],
      other ∈ events ∨ other = event := by
    intro event events other member
    simpa using member
  cases commit with
  | @started actor _ spec operationKey _ risk execution _ _ files =>
    refine added ⟨operationKey, startedRequest actor spec risk execution⟩ ?_ ?_
    · intro other member
      rw [← files.events]
      exact one other member
    · simp [startedRequest, PaperState.request]
  | reconciled =>
    refine added _ one ?_
    simp only [reconciledRequest, PaperState.request]
    split <;> simp
  | restarted =>
    refine added _ one ?_
    simp [restartedRequest, PaperState.request]
  | submitted =>
    refine added _ one ?_
    simp [acknowledgedRequest, PaperState.request]
  | @doubted _ _ _ _ _ order _ _ found =>
    refine added _ one fun _ => ?_
    have named := find_key found
    subst named
    have moved : KeyedRows.find PaperOrder.paperOrderId order.paperOrderId
        (KeyedRows.update PaperOrder.paperOrderId order.paperOrderId
          (fun order => { order with finalState := .unknownReconciling }) before.orders) =
        some { order with finalState := .unknownReconciling } := by
      rw [find_update_self ?_]
      · exact congrArg _ found
      · exact fun _ named => named
    exact ⟨_, moved, by simp [PaperOrder.PastDoubt]⟩
  | filled =>
    refine added _ one ?_
    simp [filledRequest, PaperState.request]
  | cancelled =>
    refine added _ one ?_
    simp [cancelledRequest, PaperState.request]
  | stopped =>
    refine added _ one ?_
    simp [stoppedRequest, PaperState.request]
  | latched =>
    refine added _ one ?_
    simp [latchedRequest, PaperState.request]
  | unlatched =>
    refine added _ one ?_
    simp [releasedRequest, PaperState.request]

theorem Aftermath.marks (projected : before.Projected)
    (step : Aftermath ctx actor latchId before after) (marks : MarksPast before) :
    MarksPast after := by
  intro event member typed
  have older : event ∈ before.store.events → Past after event.request.aggregateId :=
    fun held => step.past projected (marks event held typed)
  cases step with
  | cleared =>
    rcases mem_added member with held | newest
    · exact older held
    · rw [newest] at typed
      simp [latchCancelRequest, PaperState.request] at typed
  | fenced =>
    rcases mem_added member with held | newest
    · exact older held
    · rw [newest] at typed
      simp [fencedRequest, PaperState.request] at typed

theorem Reachable.marksPast (reachable : Reachable ctx state) : MarksPast state := by
  refine reachable.rule MarksPast ?_ ?_
  · exact fun _ member => nomatch member
  · intro before call answer after projected marks effect
    have both : after.Projected ∧ MarksPast after := by
      refine effect.preserves (fun state => state.Projected ∧ MarksPast state) ⟨projected, marks⟩ ?_ ?_
      · exact fun _ _ commit => ⟨commit.projected projected, commit.marks projected marks⟩
      · exact fun _ _ _ _ held step => ⟨step.projected held.1, step.marks held.1 held.2⟩
    exact both.2

theorem MarkedFor.append {transition : PaperTransition}
    (marked : MarkedFor before orderId reasonCode)
    (logs : after.store = before.store.append operationKey transition topic)
    (kept : transition.kind = "paper_order" → transition.aggregateId = orderId →
      transition.state.order?.bind OrderStateRecord.reconciliationReason = some reasonCode) :
    MarkedFor after orderId reasonCode := by
  obtain ⟨current, read, reason⟩ := marked
  rw [MarkedFor, logs]
  by_cases about : transition.kind = "paper_order" ∧ transition.aggregateId = orderId
  · refine ⟨_, (state_append _ _).trans (if_pos about), ?_⟩
    exact kept about.1 about.2
  · exact ⟨current, (state_append _ _).trans ((if_neg about).trans read), reason⟩

theorem MarkedFor.mapOrder (marked : MarkedFor before orderId reasonCode)
    (read : before.store.state "paper_order" orderId = some current)
    (same : ∀ recorded, (change recorded).reconciliationReason = recorded.reconciliationReason) :
    (current.state.mapOrder change).order?.bind OrderStateRecord.reconciliationReason =
      some reasonCode := by
  obtain ⟨_, holds, reason⟩ := marked
  rw [read] at holds
  cases holds
  cases aggregate : current.state with
  | run => simp [aggregate, PaperAggregate.order?] at reason
  | order =>
    simpa [aggregate, PaperAggregate.order?, PaperAggregate.mapOrder, same] using reason
  | latch => simp [aggregate, PaperAggregate.order?] at reason

theorem Commit.reason (past : Past before orderId) (reason : MarkedFor before orderId reasonCode)
    (commit : Commit ctx before call answer after) : MarkedFor after orderId reasonCode := by
  cases commit with
  | @started _ _ _ _ filed _ _ _ _ files =>
    have filedReason : MarkedFor { before with store := filed } orderId reasonCode := by
      rw [MarkedFor, state, files.aggregates]
      exact reason
    refine filedReason.append rfl ?_
    exact fun clash => absurd clash (by simp [startedRequest, PaperState.request])
  | reconciled =>
    refine reason.append rfl ?_
    exact fun clash => absurd clash (by simp [reconciledRequest, PaperState.request])
  | restarted =>
    refine reason.append rfl ?_
    exact fun clash => absurd clash (by simp [restartedRequest, PaperState.request])
  | submitted _ _ _ _ _ _ _ _ _ absent =>
    refine reason.append rfl fun _ same => ?_
    obtain ⟨order, held, -⟩ := past
    rw [← same] at held
    exact absurd (held.symm.trans absent) (by simp)
  | doubted found allowed =>
    refine reason.append rfl fun _ same => ?_
    obtain ⟨_, held, doubted⟩ := past
    have named := find_key found
    subst named
    rw [← same] at held
    cases held.symm.trans found
    exact absurd allowed doubted.unmarkable
  | filled _ found _ _ _ _ _ _ _ _ _ _ read =>
    refine reason.append rfl fun _ same => ?_
    have named := find_key found
    subst named
    subst same
    exact reason.mapOrder read fun _ => rfl
  | cancelled found _ _ _ _ read =>
    refine reason.append rfl fun _ same => ?_
    have named := find_key found
    subst named
    subst same
    exact reason.mapOrder read fun _ => rfl
  | stopped =>
    refine reason.append rfl ?_
    exact fun clash => absurd clash (by simp [stoppedRequest, PaperState.request])
  | latched =>
    refine reason.append rfl ?_
    exact fun clash => absurd clash (by simp [latchedRequest, PaperState.request])
  | unlatched =>
    refine reason.append rfl ?_
    exact fun clash => absurd clash (by simp [releasedRequest, PaperState.request])

theorem Aftermath.reason (reason : MarkedFor before orderId reasonCode)
    (step : Aftermath ctx actor latchId before after) : MarkedFor after orderId reasonCode := by
  cases step with
  | cleared _ _ _ _ read =>
    refine reason.append rfl fun _ same => ?_
    subst same
    exact reason.mapOrder read fun _ => rfl
  | fenced =>
    refine reason.append rfl ?_
    exact fun clash => absurd clash (by simp [fencedRequest, PaperState.request])

theorem Effect.reason (past : Past before orderId) (reason : MarkedFor before orderId reasonCode)
    (effect : Effect ctx before call answer after) : MarkedFor after orderId reasonCode :=
  effect.preserves (fun state => MarkedFor state orderId reasonCode) reason
    (fun _ _ commit => commit.reason past reason) fun _ _ _ _ held step => step.reason held

theorem Recorded.step (reachable : Reachable ctx before) {request : PaperRequest} {reply : PaperAnswer}
    (records : Recorded before request answer) (effect : Effect ctx before call reply after) :
    Recorded after request answer := by
  refine records.later effect.evolves ?_
  rintro orderId reasonCode operationKey rfl
  obtain ⟨-, -, ⟨event, found, typed, named, -⟩, reason⟩ := records
  have past := reachable.marksPast event (find_mem found) (mem_singleton.mp typed)
  rw [named] at past
  exact effect.reason past reason

theorem Recorded.run (reachable : Reachable ctx state) {request : PaperRequest}
    (records : Recorded state request answer) (later : List PaperCall) :
    Recorded (run (handle ctx) state later) request answer := by
  induction later generalizing state with
  | nil => exact records
  | cons call _ ih =>
    refine ih (reachable.run [call]) ?_
    exact next_of_answered (fun state => Recorded state request answer) records
      fun _ _ ok => records.step reachable (handle_effect reachable.projected ok)

theorem RecordedEvent.prior {about : PaperAggregate → Prop}
    (recorded : RecordedEvent state operationKey types aggregateId about) :
    ∃ event, state.priorOperation operationKey types aggregateId = .ok (some event) ∧
      about event.request.state := by
  obtain ⟨event, found, typed, named, holds⟩ := recorded
  refine ⟨event, ?_, holds⟩
  simp [priorOperation, found, typed, named]

theorem RecordedEvent.conflict {about : PaperAggregate → Prop}
    (recorded : RecordedEvent state operationKey types aggregateId about)
    (differ : aggregateId ≠ other) :
    state.priorOperation operationKey others other = .error (.domain "IDEMPOTENCY_CONFLICT") := by
  obtain ⟨_, found, _, rfl, _⟩ := recorded
  simp [priorOperation, found, differ]

theorem Recorded.again (entitled : Entitled state call.actor call.request)
    (records : Recorded state call.request answer) :
    handle ctx state call = .ok (answer, state) := by
  obtain ⟨_, _, request⟩ := call
  cases request with
  | startRun spec =>
    obtain ⟨permitted, supported⟩ := entitled
    obtain ⟨rfl, event, run, found, policy, currency, risk, execution⟩ := records
    obtain ⟨event, prior, -⟩ := event.prior
    have named : run.paperRunId = spec.paperRunId := find_key found
    have passes : ¬∃ listed ∈ spec.instruments, ¬spotIn spec.reportingCurrency listed := by
      simpa using supported
    simp only [handle, startRun, requires_of permitted, ok_bind, found, prior, expect, risk, execution,
      policy, currency, named, refuseIf_bind_of_not passes]
    exact refuseIf_bind_of_not (not_not.mpr rfl) _
  | reconcile =>
    obtain ⟨permitted, -⟩ := entitled
    obtain ⟨⟨run, found⟩, event⟩ := records
    obtain ⟨event, prior, recorded, projects, valid, rfl⟩ := event.prior
    simp only [handle, reconcile, requires_of permitted, ok_bind, found, expect, prior, projects, valid]
    exact refuseIf_bind_of_not (not_not.mpr rfl) _
  | restart =>
    obtain ⟨permitted, -⟩ := entitled
    obtain ⟨rfl, ⟨_, found⟩, event⟩ := records
    obtain ⟨event, prior, -⟩ := event.prior
    simp only [handle, restart, requires_of permitted, ok_bind, found, expect, prior]
    rfl
  | submit =>
    obtain ⟨order, found, same, rfl⟩ := records
    simp only [handle, submit, requires_of entitled, ok_bind, found, same]
    exact refuseIf_bind_of_not (not_not.mpr rfl) _
  | simulateOrder => exact entitled.elim
  | markUnknown =>
    obtain ⟨permitted, -⟩ := entitled
    obtain ⟨rfl, ⟨order, found⟩, event, _, read, reason⟩ := records
    obtain ⟨event, prior, -⟩ := event.prior
    simp only [handle, markUnknown, requires_of permitted, ok_bind, found, expect, prior, aggregate, read,
      reason]
    exact refuseIf_bind_of_not (not_not.mpr rfl) _
  | recordFill =>
    obtain ⟨row, found, same, rfl⟩ := records
    simp only [handle, recordFill, requires_of entitled, ok_bind, found, same]
    exact refuseIf_bind_of_not (not_not.mpr trivial) _
  | cancel =>
    obtain ⟨permitted, -⟩ := entitled
    obtain ⟨rfl, ⟨_, found⟩, event⟩ := records
    obtain ⟨event, prior, -⟩ := event.prior
    simp only [handle, cancel, requires_of permitted, ok_bind, found, expect, prior]
    rfl
  | stop =>
    obtain ⟨authorized, -⟩ := entitled
    obtain ⟨⟨_, found⟩, event, _, listed, rfl⟩ := records
    obtain ⟨event, prior, same⟩ := event.prior
    simp only [handle, stop, authorized, ok_bind, found, expect, prior, same, listed]
    exact refuseIf_bind_of_not (not_not.mpr rfl) _
  | emergencyStop =>
    obtain ⟨covers, authorized⟩ := entitled
    simp only [Recorded] at records
    obtain ⟨event, prior, _, projects, same, rfl⟩ := records.prior
    simp only [handle, emergencyStop, refuseIf_bind_of_not covers, authorized, ok_bind, prior, expect,
      projects, same]
    exact refuseIf_bind_of_not (not_not.mpr rfl) _
  | releaseEmergencyStop =>
    obtain ⟨owner, -⟩ := entitled
    obtain ⟨rfl, _, found, event⟩ := records
    obtain ⟨event, prior, same⟩ := event.prior
    simp only [handle, releaseEmergencyStop, refuseIf_bind_of_not (not_not.mpr owner), ok_bind, found,
      expect, prior, same]
    exact refuseIf_bind_of_not (not_not.mpr rfl) _

theorem PaperRunSpec.eq_of_recorded {first second : PaperRunSpec}
    (named : first.paperRunId = second.paperRunId) (policy : first.policyVersion = second.policyVersion)
    (currency : first.reportingCurrency = second.reportingCurrency)
    (risk : first.riskEnvelope = second.riskEnvelope)
    (execution : first.executionConfig = second.executionConfig) : first = second := by
  cases first
  cases second
  simp only [PaperRunSpec.executionConfig, ExecutionConfig.mk.injEq] at execution
  obtain ⟨model, instruments, schedules, tier⟩ := execution
  dsimp only at named policy currency risk
  subst named policy currency risk model instruments schedules tier
  rfl

theorem FillRow.matches_unique {row : FillRow} {fill other : PaperFill}
    (matching : row.matches first fill currency) (again : row.matches second other otherCurrency)
    (sameKey : fill.externalFillKey = other.externalFillKey) :
    (first, fill, currency) = (second, other, otherCurrency) := by
  obtain ⟨_, _, _, _, _, _, _, _, _, _⟩ := fill
  obtain ⟨_, _, _, _, _, _, _, _, _, _⟩ := other
  simp only [FillRow.matches, decide_eq_true_eq] at matching again
  dsimp only at sameKey
  obtain ⟨rfl, rfl, rfl, rfl, rfl, rfl, rfl, rfl⟩ := matching
  obtain ⟨rfl, rfl, rfl, rfl, rfl, rfl, rfl, rfl⟩ := again
  subst sameKey
  rfl

theorem artifact_of_paper {role : Role} (paper : Capability.paper ∈ role.capabilities) :
    Capability.artifact ∈ role.capabilities := by
  revert paper
  cases role <;> decide

theorem startRun_conflict (projected : state.Projected) {spec : PaperRunSpec}
    (permitted : Capability.paper ∈ actor.role.capabilities)
    (supported : ∀ listed ∈ spec.instruments, spotIn spec.reportingCurrency listed)
    (absent : state.findRun spec.paperRunId = none) (used : operationKey ∈ state.store.keys) :
    startRun state actor spec operationKey = .error (.domain "IDEMPOTENCY_CONFLICT") := by
  have passes : ¬∃ listed ∈ spec.instruments, ¬spotIn spec.reportingCurrency listed := by
    simpa using supported
  obtain ⟨risk, first, riskFiled⟩ := state.store.putArtifact_accepts (.riskEnvelope spec.riskEnvelope)
    "paper/risk-envelope-v1" spec.policyVersion (artifact_of_paper permitted)
  obtain ⟨execution, second, executionFiled⟩ := first.putArtifact_accepts
    (.executionConfig spec.executionConfig) "paper/execution-config-v1" spec.policyVersion
    (artifact_of_paper permitted)
  obtain ⟨filedRisk, -⟩ := putArtifact_filed riskFiled
  obtain ⟨filedExecution, -⟩ := putArtifact_filed executionFiled
  have filed := filedRisk.trans filedExecution
  have versioned : second.Versioned := filed.versioned projected.versioned
  have zero : second.version "paper_run" spec.paperRunId = 0 := by
    rw [filed.version]
    exact projected.runs _ absent
  have usedThere : operationKey ∈ second.keys := by
    rw [Store.keys, filed.events]
    exact used
  have there : ∀ artifact ∈ [risk, execution], artifact < second.artifacts.length := by
    obtain ⟨_, same⟩ := filedExecution.artifacts
    have early := (putArtifact_ok riskFiled).2.2.2.2
    have late := (putArtifact_ok executionFiled).2.2.2.2
    rw [same, length_append] at late ⊢
    simp only [mem_cons, not_mem_nil, or_false, forall_eq_or_imp, forall_eq]
    omega
  have named : "paper_run" ≠ "" ∧ spec.paperRunId ≠ "" ∧ spec.paperRunId ≠ "" ∧
      spec.policyVersion ≠ "" := ⟨by decide, spec.named.1, spec.named.1, spec.named.2.1⟩
  have refused : second.transition actor .paper operationKey (startedRequest actor spec risk execution)
      (some "paper.run") = .error (.domain "IDEMPOTENCY_CONFLICT") :=
    (transition_at_current versioned permitted named zero.symm rfl there).trans
      (if_pos usedThere)
  simp only [startRun, requires_of permitted, ok_bind, refuseIf_bind_of_not passes, absent, riskFiled,
    executionFiled, PaperState.transition, refused]
  rfl

/-- A used key with other arguments is refused, as far as they are compared. -/
theorem Recorded.conflict (reachable : Reachable ctx state) {first second : PaperRequest}
    {readings : Readings} (records : Recorded state first answer) (entitled : Entitled state actor second)
    (sameKey : second.retryKey = first.retryKey) (differs : Differs first second) :
    handle ctx state ⟨actor, readings, second⟩ = .error (.domain "IDEMPOTENCY_CONFLICT") := by
  cases first with
  | startRun spec =>
    cases second with
    | startRun other =>
      cases sameKey
      obtain ⟨permitted, supported⟩ := entitled
      obtain ⟨rfl, event, run, found, policy, currency, risk, execution⟩ := records
      have passes : ¬∃ listed ∈ other.instruments, ¬spotIn other.reportingCurrency listed := by
        simpa using supported
      cases held : state.findRun other.paperRunId with
      | none => exact startRun_conflict reachable.projected permitted supported held event.used
      | some =>
        by_cases same : spec.paperRunId = other.paperRunId
        · rw [← same, found] at held
          cases held
          obtain ⟨event, prior, -⟩ := event.prior
          simp only [handle, startRun, requires_of permitted, ok_bind, ← same, found, prior, expect, risk,
            execution, policy, currency, refuseIf_bind_of_not passes]
          refine refuseIf_bind_of ?_ _
          intro equal
          simp only [Prod.mk.injEq, PaperContent.riskEnvelope.injEq, PaperContent.executionConfig.injEq]
            at equal
          obtain ⟨policies, currencies, risks, executions⟩ := equal
          exact differs (PaperRunSpec.eq_of_recorded same policies currencies risks executions).symm
        · simp only [handle, startRun, requires_of permitted, ok_bind, held,
            refuseIf_bind_of_not passes, event.conflict same]
          rfl
    | _ => exact differs.elim
  | reconcile runId _ marketDataValid =>
    cases second with
    | reconcile other _ otherValid =>
      cases sameKey
      obtain ⟨permitted, run, found⟩ := entitled
      obtain ⟨-, event⟩ := records
      by_cases same : runId = other
      · subst same
        obtain ⟨event, prior, recorded, projects, valid, rfl⟩ := event.prior
        simp only [handle, reconcile, requires_of permitted, ok_bind, found, expect, prior, projects, valid]
        have changed : (runId, otherValid) ≠ (runId, marketDataValid) := differs
        refine refuseIf_bind_of ?_ _
        intro equal
        exact changed (by rw [some.inj equal])
      · simp only [handle, reconcile, requires_of permitted, ok_bind, found, expect, event.conflict same]
        rfl
    | _ => exact differs.elim
  | restart runId =>
    cases second with
    | restart other =>
      cases sameKey
      obtain ⟨permitted, run, found⟩ := entitled
      obtain ⟨-, -, event⟩ := records
      obtain ⟨_, config, pins⟩ := reachable.pinned other run found
      have joined : state.joinedRun other = some (run, .executionConfig config) := by
        rw [PaperState.joinedRun, found, bind_some, pins.execution, map_some]
      have differ : runId ≠ other := Ne.symm differs
      simp only [handle, restart, requires_of permitted, ok_bind, joined, expect, event.conflict differ]
      rfl
    | _ => exact differs.elim
  | submit =>
    cases second with
    | submit =>
      simp only [PaperRequest.retryKey, some.injEq, Prod.mk.injEq, true_and] at sameKey
      obtain ⟨order, found, rfl, rfl⟩ := records
      simp only [handle, submit, requires_of entitled, ok_bind, sameKey, found]
      exact refuseIf_bind_of (Ne.symm differs) _
    | _ => exact differs.elim
  | simulateOrder => cases second <;> exact differs.elim
  | markUnknown orderId reasonCode =>
    cases second with
    | markUnknown other otherReason =>
      cases sameKey
      obtain ⟨permitted, order, found⟩ := entitled
      obtain ⟨-, -, event, _, read, reason⟩ := records
      by_cases same : orderId = other
      · subst same
        obtain ⟨event, prior, -⟩ := event.prior
        have changed : (orderId, otherReason) ≠ (orderId, reasonCode) := differs
        simp only [handle, markUnknown, requires_of permitted, ok_bind, found, expect, prior, aggregate,
          read, reason]
        refine refuseIf_bind_of ?_ _
        intro equal
        exact changed (by rw [some.inj equal])
      · simp only [handle, markUnknown, requires_of permitted, ok_bind, found, expect,
          event.conflict same]
        rfl
    | _ => exact differs.elim
  | recordFill =>
    cases second with
    | recordFill other otherFill otherCurrency =>
      simp only [PaperRequest.retryKey, some.injEq, Prod.mk.injEq, true_and] at sameKey
      obtain ⟨row, found, same, rfl⟩ := records
      simp only [handle, recordFill, requires_of entitled, ok_bind, sameKey, found]
      have apart : ¬row.matches other otherFill otherCurrency = true := fun again =>
        differs (FillRow.matches_unique again same sameKey)
      exact refuseIf_bind_of apart _
    | _ => exact differs.elim
  | cancel orderId =>
    cases second with
    | cancel other =>
      cases sameKey
      obtain ⟨permitted, _, found⟩ := entitled
      obtain ⟨-, -, event⟩ := records
      have differ : orderId ≠ other := Ne.symm differs
      simp only [handle, cancel, requires_of permitted, ok_bind, found, expect, event.conflict differ]
      rfl
    | _ => exact differs.elim
  | stop runId stopping =>
    cases second with
    | stop other otherStopping =>
      cases sameKey
      obtain ⟨authorized, _, found⟩ := entitled
      obtain ⟨-, event, -⟩ := records
      by_cases same : runId = other
      · subst same
        obtain ⟨event, prior, stopped⟩ := event.prior
        have changed : (runId, otherStopping) ≠ (runId, stopping) := differs
        simp only [handle, stop, authorized, ok_bind, found, expect, prior, stopped]
        refine refuseIf_bind_of ?_ _
        intro equal
        exact changed (by rw [some.inj equal])
      · simp only [handle, stop, authorized, ok_bind, found, expect, event.conflict same]
        rfl
    | _ => exact differs.elim
  | emergencyStop stopping =>
    cases second with
    | emergencyStop other =>
      cases sameKey
      obtain ⟨covers, authorized⟩ := entitled
      simp only [Recorded] at records
      by_cases same : latchAggregate stopping.scope stopping.scopeId =
          latchAggregate other.scope other.scopeId
      · rw [same] at records
        obtain ⟨event, prior, _, projects, requested, rfl⟩ := records.prior
        simp only [handle, emergencyStop, refuseIf_bind_of_not covers, authorized, ok_bind, prior, expect,
          projects, requested]
        refine refuseIf_bind_of ?_ _
        intro equal
        exact differs (some.inj equal).symm
      · simp only [handle, emergencyStop, refuseIf_bind_of_not covers, authorized, ok_bind,
          records.conflict same]
        rfl
    | _ => exact differs.elim
  | releaseEmergencyStop =>
    cases second with
    | releaseEmergencyStop =>
      cases sameKey
      obtain ⟨owner, latch, found⟩ := entitled
      obtain ⟨-, held, _, event⟩ := records
      by_cases same : latchAggregate held.scope held.scopeId = latchAggregate latch.scope latch.scopeId
      · rw [same] at event
        obtain ⟨event, prior, released⟩ := event.prior
        simp only [handle, releaseEmergencyStop, refuseIf_bind_of_not (not_not.mpr owner), ok_bind, found,
          expect, prior, released]
        refine refuseIf_bind_of ?_ _
        intro equal
        exact differs (some.inj equal).symm
      · simp only [handle, releaseEmergencyStop, refuseIf_bind_of_not (not_not.mpr owner), ok_bind, found,
          expect, event.conflict same]
        rfl
    | _ => exact differs.elim

def KeyUsed (state : PaperState) : PaperOperation × String → Prop
  | (.submit, clientOrderId) => ∃ order, state.findClientOrder clientOrderId = some order
  | (.recordFill, externalFillKey) => ∃ row, state.findFill externalFillKey = some row
  | (_, operationKey) => operationKey ∈ state.store.keys

theorem Recorded.keyUsed {request : PaperRequest} (records : Recorded state request answer)
    (carries : request.retryKey = some keyed) : KeyUsed state keyed := by
  cases request with
  | startRun =>
    cases carries
    exact records.2.1.used
  | reconcile =>
    cases carries
    exact records.2.used
  | restart =>
    cases carries
    exact records.2.2.used
  | submit =>
    cases carries
    obtain ⟨order, found, -⟩ := records
    exact ⟨order, found⟩
  | simulateOrder => cases carries
  | markUnknown =>
    cases carries
    exact records.2.2.1.used
  | recordFill =>
    cases carries
    obtain ⟨row, found, -⟩ := records
    exact ⟨row, found⟩
  | cancel =>
    cases carries
    exact records.2.2.used
  | stop =>
    cases carries
    exact records.2.1.used
  | emergencyStop =>
    cases carries
    simp only [Recorded] at records
    exact records.used
  | releaseEmergencyStop =>
    cases carries
    obtain ⟨-, _, _, event⟩ := records
    exact event.used

/-- A commit uses its key for the first time. -/
theorem Commit.keyUnused (commit : Commit ctx before call answer after)
    (carries : call.request.retryKey = some keyed) : ¬KeyUsed before keyed := by
  cases commit with
  | started _ _ _ _ _ unused =>
    cases carries
    exact unused
  | reconciled _ _ unused =>
    cases carries
    exact unused
  | restarted _ _ unused =>
    cases carries
    exact unused
  | submitted fresh =>
    cases carries
    rintro ⟨_, held⟩
    exact absurd (held.symm.trans fresh) (by simp)
  | doubted _ _ _ unused =>
    cases carries
    exact unused
  | filled fresh =>
    cases carries
    rintro ⟨_, held⟩
    exact absurd (held.symm.trans fresh) (by simp)
  | cancelled _ _ _ _ _ _ unused =>
    cases carries
    exact unused
  | stopped _ _ _ unused =>
    cases carries
    exact unused
  | latched _ _ _ unused =>
    cases carries
    exact unused
  | unlatched _ _ _ unused =>
    cases carries
    exact unused

theorem next_of_keyUsed (projected : state.Projected) (carries : call.request.retryKey = some keyed)
    (used : KeyUsed state keyed) : next (handle ctx) state call = state := by
  refine next_of_answered (fun after => after = state) rfl fun answer after ok => ?_
  cases handle_effect projected ok with
  | replayed => rfl
  | committed commit => exact absurd used (commit.keyUnused carries)
  | latched commit => exact absurd used (commit.keyUnused carries)

/-- An answered call is answered again after any further calls, and changes
nothing then; nor does any call of its operation under its key, by whomever. Such
a call is refused as a conflict when it passes the checks before the lookup of
its key and differs in an argument that the operation compares. -/
theorem retries_are_answered_or_refused (reachable : Reachable ctx before)
    (ok : handle ctx before call = .ok (answer, after)) (keyed : call.request.retryKey ≠ none)
    (later : List PaperCall) :
    (∀ readings, handle ctx (run (handle ctx) after later) { call with readings } =
        .ok (answer, run (handle ctx) after later)) ∧
      ∀ other : PaperCall, other.request.retryKey = call.request.retryKey →
        next (handle ctx) (run (handle ctx) after later) other = run (handle ctx) after later ∧
          (Entitled (run (handle ctx) after later) other.actor other.request →
            Differs call.request other.request →
            reply (handle ctx) (run (handle ctx) after later) other =
              .error (.domain "IDEMPOTENCY_CONFLICT")) := by
  have effect := handle_effect reachable.projected ok
  have records := effect.recorded reachable.shaped reachable.stopsLogged
  have reached : Reachable ctx after := by
    rw [← next_of_ok ok]
    exact reachable.run [call]
  have onward : Evolves after (run (handle ctx) after later) := run_evolves reached.projected later
  have entitled := (entitled_of_ok keyed ok).later (effect.evolves.trans onward)
  have standing := records.run reached later
  have final := reached.run later
  obtain ⟨_, carries⟩ := ne_none_iff_exists'.mp keyed
  refine ⟨fun readings => ?_, fun other sameKey => ⟨?_, fun permitted differs => ?_⟩⟩
  · exact standing.again entitled
  · exact next_of_keyUsed final.projected (sameKey.trans carries) (standing.keyUsed carries)
  · obtain ⟨_, _, _⟩ := other
    exact reply_of_error (standing.conflict final permitted sameKey differs)

namespace SmallVenue

def twoOrders : List PaperCall :=
  opening limits ++ [submission limits "3" "a" .buy 8, submission limits "4" "b" .buy 2]

/-- The mark of the first order. -/
def marking (started : Time) (tag reasonCode : String) : PaperCall :=
  byWorker started tag (.markUnknown "PORD-3" reasonCode "unknown")

def restarting (started : Time) (tag runId : String) : PaperCall :=
  byWorker started tag (.restart runId "again")

def releasing (started : Time) (tag reasonCode : String) : PaperCall :=
  ⟨owner, readings started tag, .releaseEmergencyStop "SLATCH-6" reasonCode "release"⟩

end SmallVenue

open SmallVenue in
/-- A mark is answered again after a fill of the order, and under another reason
it is refused. -/
theorem retries_are_answered_or_refused_small :
    let before := run (handle prec28) .empty twoOrders
    let state := run (handle prec28) (next (handle prec28) before (marking 5 "5" "timeout")) lateFill
    (∀ readings, handle prec28 state ⟨worker, readings, .markUnknown "PORD-3" "timeout" "unknown"⟩ =
        .ok (.done, state)) ∧
      reply (handle prec28) state (marking 8 "8" "rejected") =
        .error (.domain "IDEMPOTENCY_CONFLICT") := by
  intro before state
  have ok : handle prec28 before (marking 5 "5" "timeout") =
      .ok (.done, next (handle prec28) before (marking 5 "5" "timeout")) := ok_of_reply (by decide +kernel)
  obtain ⟨again, others⟩ := retries_are_answered_or_refused ⟨twoOrders, rfl⟩ ok
    (by simp [marking, byWorker, PaperRequest.retryKey]) lateFill
  have found : (state.findOrder "PORD-3").isSome := by decide +kernel
  have differs : ("PORD-3", "rejected") ≠ ("PORD-3", "timeout") := by decide
  refine ⟨again, (others (marking 8 "8" "rejected") rfl).2 ⟨?_, ?_⟩ differs⟩
  · simp [marking, byWorker, worker, Role.capabilities]
  · exact isSome_iff_exists.mp found

open SmallVenue in
/-- Not every reuse of a key is a conflict. A run that does not exist is reported
as such; a submission of the same intent to another pool and a release for
another reason are answered like the first ones. -/
theorem reused_keys_without_conflict :
    let calls := opening limits ++
      [submission limits "3" "a" .buy 8, restarting 4 "4" "RUN", stoppingCall, releasing 7 "7" "resolved"]
    let state := run (handle prec28) .empty calls
    replies (handle prec28) .empty calls = [.ok (.id "RUN"), .ok (.status .active), .ok (.id "PORD-3"),
        .ok (.status .reconcileOnly), .ok (.id "SLATCH-6"), .ok .done] ∧
      reply (handle prec28) state (restarting 8 "8" "OTHER") =
        .error (.domain "PAPER_RUN_NOT_FOUND") ∧
      reply (handle prec28) state (byWorker 8 "8" (.submit "RUN" (intent "a" .buy 8) spot (quotes 10) limits
        "other pool")) = .ok (.id "PORD-3") ∧
      reply (handle prec28) state (releasing 8 "8" "unfounded") = .ok .done := by
  decide +kernel

end Liki.Paper
