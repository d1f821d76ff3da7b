import Liki.Paper.PaperSteps

/-! What never goes away. Rows and events are only added; of a stored row only
the columns that model progress change: the status of a run, the state and the
filled quantity of an order, the activity of a latch. An order moves along its
state machine or stays. -/
namespace Liki.Paper
open DecimalArithmetic Checks CallSystem Finance PaperState KeyedRows Option

variable {ctx : DecimalContext} {state before middle after : PaperState} {call : PaperCall}
  {answer : PaperAnswer} {actor : Identity} {latchId : String}

/-- The columns of an order that are fixed when it is accepted. -/
def PaperOrder.SameTerms (old new : PaperOrder) : Prop :=
  new = { old with finalState := new.finalState, filledQuantity := new.filledQuantity }

theorem PaperOrder.SameTerms.refl (order : PaperOrder) : order.SameTerms order := rfl

theorem PaperOrder.SameTerms.trans {first second third : PaperOrder} (earlier : first.SameTerms second)
    (later : second.SameTerms third) : first.SameTerms third := by
  rw [SameTerms] at earlier later ⊢
  rw [later, earlier]

inductive OrderMove (ctx : DecimalContext) (old : PaperOrder) : PaperOrder → Prop
  | doubted (allowed : OrderState.unknownReconciling ∈ old.finalState.transitions) :
      OrderMove ctx old { old with finalState := .unknownReconciling }
  | filled {fill : PaperFill} {intent : OrderIntent} {record : OrderRecord}
      (loaded : loadIntent old = .ok intent) (moved : fillRecord ctx old intent fill = .ok record) :
      OrderMove ctx old { old with
        finalState := record.state, filledQuantity := record.filledQuantity }
  | cancelled
      (working : old.finalState ∈
        [OrderState.acknowledged, .partiallyFilled, .amended, .cancelPending]) :
      OrderMove ctx old { old with finalState := .cancelled }

variable {new old : PaperOrder}

theorem OrderMove.sameTerms (move : OrderMove ctx old new) : old.SameTerms new := by
  cases move <;> rfl

theorem cancellable {old : OrderState} (known : old ≠ .unknownReconciling)
    (allowed : OrderState.cancelPending ∈ old.transitions) :
    old ∈ [OrderState.acknowledged, .partiallyFilled, .amended, .cancelPending] := by
  revert known allowed
  cases old <;> decide

inductive Admission (ctx : DecimalContext) (before : PaperState) : PaperCall → PaperOrder → Prop
  | submitted {actor : Identity} {readings : Readings}
      {runId intent spec snapshot envelope poolId reservation}
      (fresh : before.findClientOrder intent.clientOrderId = none)
      (absent : before.findOrder (readings.uid "PORD") = none)
      (unstopped : before.stopped runId intent = false)
      (reserves : reservation.reservationId = intent.clientOrderId)
      (rowed : ∃ run, before.findRun runId = some run)
      (positive : 0 < reservation.normalizedQuantity) :
      Admission ctx before ⟨actor, readings, .submit runId intent spec snapshot envelope poolId⟩
        (acknowledgedOrder (readings.uid "PORD") runId intent reservation)

variable {order : PaperOrder}

/-- An order after a commit was there before, moved, or was just admitted. -/
theorem Commit.orders (projected : before.Projected) (commit : Commit ctx before call answer after)
    (member : order ∈ after.orders) :
    order ∈ before.orders ∨ (∃ old ∈ before.orders, OrderMove ctx old order) ∨
      Admission ctx before call order := by
  cases commit with
  | started => exact .inl member
  | reconciled => exact .inl member
  | restarted => exact .inl member
  | @submitted _ _ _ _ spec _ _ _ _ _ _ _ fresh found _ unstopped _ _ checked _ _ absent =>
    rcases mem_added member with older | newest
    · exact .inl older
    · rw [newest]
      obtain ⟨listed, row, -⟩ := bind_eq_some_iff.mp found
      obtain ⟨reserves, -, enough, -⟩ := pretradeCheck_ok checked
      exact .inr (.inr (.submitted fresh absent unstopped reserves ⟨listed, row⟩
        (spec.increments_pos.2.2.1.trans_le enough)))
  | doubted found allowed =>
    have named := find_key found
    subst named
    rcases mem_update_of_find projected.orderIds found member with rfl | ⟨older, -⟩
    · exact .inr (.inl ⟨_, find_mem found, .doubted allowed⟩)
    · exact .inl older
  | filled _ found _ _ _ loaded moved =>
    rcases mem_update_of_find projected.orderIds found member with rfl | ⟨older, -⟩
    · exact .inr (.inl ⟨_, find_mem found, .filled loaded moved⟩)
    · exact .inl older
  | cancelled found known allowed =>
    have named := find_key found
    subst named
    rcases mem_update_of_find projected.orderIds found member with rfl | ⟨older, -⟩
    · exact .inr (.inl ⟨_, find_mem found, .cancelled (cancellable known allowed)⟩)
    · exact .inl older
  | stopped => exact .inl member
  | latched => exact .inl member
  | unlatched => exact .inl member

theorem Aftermath.orders (projected : before.Projected)
    (step : Aftermath ctx actor latchId before after) (member : order ∈ after.orders) :
    order ∈ before.orders ∨ ∃ old ∈ before.orders, OrderMove ctx old order := by
  cases step with
  | cleared found listed =>
    rcases mem_update_of_find projected.orderIds found member with rfl | ⟨older, -⟩
    · exact .inr ⟨_, find_mem found, .cancelled listed⟩
    · exact .inl older
  | fenced => exact .inl member

theorem fillRecord_ok {intent : OrderIntent} {fill : PaperFill}
    (loaded : loadIntent order = .ok intent) (ok : fillRecord ctx order intent fill = .ok record) :
    record.state ∈ order.finalState.transitions ∧
      (record.state = .filled ∧ record.filledQuantity = order.quantity ∨
        record.state = .partiallyFilled ∧ 0 < record.filledQuantity ∧
          record.filledQuantity < order.quantity) ∧
      record.filledQuantity = ctx.add order.filledQuantity fill.quantity := by
  have quantity : intent.quantity = order.quantity := by rw [loadIntent_ok loaded]
  simp only [fillRecord, raised_ok] at ok
  split at ok
  · obtain ⟨allowed, moved, total, -, -, complete, -⟩ := OrderRecord.transition_ok ok
    exact ⟨moved ▸ allowed, .inl ⟨moved, (complete rfl).trans quantity⟩, total⟩
  · obtain ⟨allowed, moved, total, -, -, -, incomplete⟩ := OrderRecord.transition_ok ok
    have partly := incomplete rfl
    rw [loadRecord, quantity] at partly
    exact ⟨moved ▸ allowed, .inr ⟨moved, partly⟩, total⟩

theorem Effect.orders_kept {good : PaperOrder → Prop} (projected : before.Projected)
    (start : ∀ order ∈ before.orders, good order) (effect : Effect ctx before call answer after)
    (moves : ∀ old new, good old → OrderMove ctx old new → good new)
    (admits : ∀ answer after order, Commit ctx before call answer after → order ∈ after.orders →
      Admission ctx before call order → good order) :
    after.Projected ∧ ∀ order ∈ after.orders, good order := by
  refine effect.preserves (fun state => state.Projected ∧ ∀ order ∈ state.orders, good order)
    ⟨projected, start⟩ ?_ ?_
  · intro answer after commit
    refine ⟨commit.projected projected, fun order member => ?_⟩
    rcases commit.orders projected member with older | ⟨old, held, move⟩ | admission
    · exact start order older
    · exact moves old order (start old held) move
    · exact admits answer after order commit member admission
  · intro actor latchId first second held step
    refine ⟨step.projected held.1, fun order member => ?_⟩
    rcases step.orders held.1 member with older | ⟨old, listed, move⟩
    · exact held.2 order older
    · exact moves old order (held.2 old listed) move

theorem Reachable.orders_commit_rule {good : PaperOrder → Prop} (reachable : Reachable ctx state)
    (moves : ∀ old new, good old → OrderMove ctx old new → good new)
    (admits : ∀ before call answer after order, (∀ older ∈ before.orders, good older) →
      Commit ctx before call answer after → order ∈ after.orders → Admission ctx before call order →
        good order) :
    ∀ order ∈ state.orders, good order := by
  have both : state.Projected ∧ ∀ order ∈ state.orders, good order := by
    refine reachable.rule (fun state => state.Projected ∧ ∀ order ∈ state.orders, good order)
      ⟨projected_empty, fun order member => nomatch member⟩ ?_
    intro before call answer after projected kept effect
    exact effect.orders_kept projected kept.2 moves fun answer after order commit member admission =>
      admits before call answer after order kept.2 commit member admission
  exact both.2

theorem Reachable.orders_rule {good : PaperOrder → Prop} (reachable : Reachable ctx state)
    (moves : ∀ old new, good old → OrderMove ctx old new → good new)
    (admits : ∀ before call order, Admission ctx before call order → good order) :
    ∀ order ∈ state.orders, good order :=
  reachable.orders_commit_rule moves
    fun before call _ _ order _ _ _ admission => admits before call order admission

/-- The order is in one of the states that orders of the service pass through. -/
def PaperOrder.Ordinary (order : PaperOrder) : Prop :=
  order.finalState ∈
    [OrderState.acknowledged, .unknownReconciling, .partiallyFilled, .filled, .cancelled]

theorem OrderMove.ordinary (move : OrderMove ctx old new) : new.Ordinary := by
  cases move with
  | doubted => simp [PaperOrder.Ordinary]
  | filled loaded moved =>
    obtain ⟨-, ⟨complete, -⟩ | ⟨incomplete, -⟩, -⟩ := fillRecord_ok loaded moved
    · simp [complete, PaperOrder.Ordinary]
    · simp [incomplete, PaperOrder.Ordinary]
  | cancelled => simp [PaperOrder.Ordinary]

theorem Admission.ordinary (admission : Admission ctx before call order) : order.Ordinary := by
  cases admission
  simp [PaperOrder.Ordinary, acknowledgedOrder]

theorem Reachable.ordinary (reachable : Reachable ctx state) :
    ∀ order ∈ state.orders, order.Ordinary :=
  reachable.orders_rule (fun _ _ _ move => move.ordinary) fun _ _ _ admission => admission.ordinary

theorem Commit.fills (commit : Commit ctx before call answer after) (member : row ∈ after.fills) :
    row ∈ before.fills ∨ ∃ order intent record, ∃ fill : PaperFill,
      before.findOrder row.paperOrderId = some order ∧ loadIntent order = .ok intent ∧
        fillRecord ctx order intent fill = .ok record := by
  cases commit with
  | started => exact .inl member
  | reconciled => exact .inl member
  | restarted => exact .inl member
  | submitted =>
    exact .inl member
  | doubted => exact .inl member
  | filled _ found _ _ _ loaded moved =>
    rcases mem_added member with older | newest
    · exact .inl older
    · rw [newest]
      exact .inr ⟨_, _, _, _, found, loaded, moved⟩
  | cancelled => exact .inl member
  | stopped => exact .inl member
  | latched => exact .inl member
  | unlatched => exact .inl member

theorem Aftermath.fills (step : Aftermath ctx actor latchId before after) :
    after.fills = before.fills := by
  cases step <;> rfl

/-- The later tables still hold what the earlier ones held. -/
structure Evolves (before after : PaperState) : Prop where
  runs : ∀ {runId run}, before.findRun runId = some run →
    ∃ later, after.findRun runId = some later ∧ later = { run with status := later.status }
  orders : ∀ {orderId order}, before.findOrder orderId = some order →
    ∃ later, after.findOrder orderId = some later ∧ order.SameTerms later
  clients : ∀ {clientOrderId order}, before.findClientOrder clientOrderId = some order →
    ∃ later, after.findClientOrder clientOrderId = some later ∧ order.SameTerms later
  fills : ∃ more, after.fills = before.fills ++ more
  latches : ∀ {latchId latch}, before.findLatch latchId = some latch →
    ∃ later, after.findLatch latchId = some later ∧ later = { latch with active := later.active } ∧
      (later.active = true → latch.active = true)
  stops : ∃ more, after.stops = before.stops ++ more
  events : ∃ more, after.store.events = before.store.events ++ more
  artifacts : ∃ more, after.store.artifacts = before.store.artifacts ++ more

theorem Evolves.refl (state : PaperState) : Evolves state state where
  runs := fun found => ⟨_, found, rfl⟩
  orders := fun found => ⟨_, found, .refl _⟩
  clients := fun found => ⟨_, found, .refl _⟩
  fills := ⟨[], by simp⟩
  latches := fun found => ⟨_, found, rfl, id⟩
  stops := ⟨[], by simp⟩
  events := ⟨[], by simp⟩
  artifacts := ⟨[], by simp⟩

theorem appended_trans {Row : Type} {first second third : List Row}
    (earlier : ∃ more, second = first ++ more) (later : ∃ more, third = second ++ more) :
    ∃ more, third = first ++ more := by
  obtain ⟨more, rfl⟩ := earlier
  obtain ⟨rest, rfl⟩ := later
  exact ⟨more ++ rest, List.append_assoc _ _ _⟩

theorem Evolves.trans (earlier : Evolves before middle) (later : Evolves middle after) :
    Evolves before after where
  runs := by
    intro runId run found
    obtain ⟨second, held, same⟩ := earlier.runs found
    obtain ⟨third, final, again⟩ := later.runs held
    exact ⟨third, final, by rw [again, same]⟩
  orders := by
    intro orderId order found
    obtain ⟨second, held, same⟩ := earlier.orders found
    obtain ⟨third, final, again⟩ := later.orders held
    exact ⟨third, final, same.trans again⟩
  clients := by
    intro clientOrderId order found
    obtain ⟨second, held, same⟩ := earlier.clients found
    obtain ⟨third, final, again⟩ := later.clients held
    exact ⟨third, final, same.trans again⟩
  fills := appended_trans earlier.fills later.fills
  latches := by
    intro latchId latch found
    obtain ⟨_, held, same, active⟩ := earlier.latches found
    obtain ⟨third, final, again, still⟩ := later.latches held
    exact ⟨third, final, by rw [again, same], fun now => active (still now)⟩
  stops := appended_trans earlier.stops later.stops
  events := appended_trans earlier.events later.events
  artifacts := appended_trans earlier.artifacts later.artifacts

section Writes

variable (state)

open Evolves

theorem Evolves.logged (operationKey : String) (request : PaperTransition) (topic : String) :
    Evolves state (state.logged operationKey request topic) :=
  { refl state with events := ⟨_, rfl⟩ }

theorem Evolves.updateReservation (reservationId : String)
    (change : RiskReservation → RiskReservation) :
    Evolves state (state.updateReservation reservationId change) :=
  { refl state with }

theorem Evolves.updateRun (runId : String) (status : PaperRunStatus) :
    Evolves state (state.updateRun runId fun run => { run with status }) := by
  refine { refl state with runs := ?_ }
  intro other run found
  refine ⟨_, find_update_some ?_ found, ?_⟩
  · exact fun _ => rfl
  · split <;> rfl

theorem Evolves.updateOrder (orderId : String) (change : PaperOrder → PaperOrder)
    (terms : ∀ order : PaperOrder, order.SameTerms (change order)) :
    Evolves state (state.updateOrder orderId change) := by
  have moved : ∀ order : PaperOrder,
      order.SameTerms (if order.paperOrderId = orderId then change order else order) := by
    intro order
    split
    · exact terms order
    · exact .refl order
  refine { refl state with orders := ?_, clients := ?_ }
  · intro other order found
    refine ⟨_, find_update_some ?_ found, moved order⟩
    intro row
    rw [terms row]
  · intro other order found
    refine ⟨_, find_update_some ?_ found, moved order⟩
    intro row
    rw [terms row]

theorem Evolves.releaseLatch (latchId : String) :
    Evolves state (state.updateLatch latchId fun latch => { latch with active := false }) := by
  refine { refl state with latches := ?_ }
  intro other latch found
  refine ⟨_, find_update_some ?_ found, ?_, ?_⟩
  · exact fun _ => rfl
  · split <;> rfl
  · split
    · exact fun impossible => by cases impossible
    · exact id

theorem Evolves.addOrder (order : PaperOrder) (reservation : RiskReservation) :
    Evolves state { state with
      orders := state.orders ++ [order], reservations := state.reservations ++ [reservation] } :=
  { refl state with
    orders := fun found => ⟨_, find_append_some found _, .refl _⟩
    clients := fun found => ⟨_, find_append_some found _, .refl _⟩ }

theorem Evolves.addStop (stop : StopEvent) :
    Evolves state { state with stops := state.stops ++ [stop] } :=
  { refl state with stops := ⟨_, rfl⟩ }

theorem Evolves.addLatch (latch : SafetyLatch) :
    Evolves state { state with latches := state.latches ++ [latch] } :=
  { refl state with
    latches := fun found => ⟨_, find_append_some found _, rfl, id⟩ }

theorem Evolves.postFill (row : FillRow) (position : PaperPosition) (entry : CashEntry)
    (reservationId : String) (amounts : ReservedAmounts) (record : OrderRecord) :
    Evolves state (state.postFill row position entry reservationId amounts record) := by
  have posted : Evolves state { state with
      fills := state.fills ++ [row]
      positions := KeyedRows.upsert PaperPosition.key position state.positions
      cash := state.cash ++ [entry] } :=
    { refl state with fills := ⟨_, rfl⟩ }
  exact posted.trans ((updateReservation _ _ _).trans (updateOrder _ _ _ fun _ => rfl))

theorem Evolves.postCancel (order : PaperOrder) (amounts : ReservedAmounts) :
    Evolves state (state.postCancel order amounts) :=
  (updateReservation _ _ _).trans (updateOrder _ _ _ fun _ => rfl)

theorem Evolves.postUnknown (order : PaperOrder) : Evolves state (state.postUnknown order) := by
  refine .trans (updateOrder _ _ _ ?_) (updateReservation _ _ _)
  exact fun _ => rfl

end Writes

theorem Commit.evolves (commit : Commit ctx before call answer after) : Evolves before after := by
  cases commit with
  | started _ _ files =>
    exact { Evolves.refl before with
      runs := fun found => ⟨_, find_append_some found _, rfl⟩
      events := ⟨_, congrArg (· ++ _) files.events⟩
      artifacts := files.artifacts }
  | reconciled => exact (Evolves.logged _ _ _ _).trans (Evolves.updateRun _ _ _)
  | restarted => exact (Evolves.logged _ _ _ _).trans (Evolves.updateRun _ _ _)
  | submitted =>
    exact (Evolves.logged _ _ _ _).trans (Evolves.addOrder _ _ _)
  | doubted =>
    exact (Evolves.logged _ _ _ _).trans (Evolves.postUnknown _ _)
  | filled => exact (Evolves.logged _ _ _ _).trans (Evolves.postFill _ _ _ _ _ _ _)
  | cancelled =>
    exact (Evolves.logged _ _ _ _).trans (Evolves.postCancel _ _ _)
  | stopped =>
    exact (Evolves.logged _ _ _ _).trans (Evolves.addStop _ _)
  | latched =>
    exact (Evolves.logged _ _ _ _).trans (Evolves.addLatch _ _)
  | unlatched =>
    exact (Evolves.logged _ _ _ _).trans (Evolves.releaseLatch _ _)

theorem Aftermath.evolves (step : Aftermath ctx actor latchId before after) : Evolves before after := by
  cases step with
  | cleared =>
    exact (Evolves.logged _ _ _ _).trans (Evolves.postCancel _ _ _)
  | fenced => exact (Evolves.logged _ _ _ _).trans (Evolves.updateRun _ _ _)

theorem Effect.evolves (effect : Effect ctx before call answer after) : Evolves before after :=
  effect.preserves (Evolves before) (Evolves.refl before) (fun _ _ commit => commit.evolves)
    fun _ _ _ _ earlier step => earlier.trans step.evolves

theorem run_evolves (projected : before.Projected) (calls : List PaperCall) :
    Evolves before (run (handle ctx) before calls) :=
  run_rule projected (Evolves.refl before)
    (fun _ _ _ _ _ earlier _ effect => earlier.trans effect.evolves)
    (along_of_forall (fun _ _ => trivial) _ calls)

theorem Evolves.content (evolves : Evolves before after) {content : PaperContent}
    (held : before.content artifactId = some content) :
    after.content artifactId = some content := by
  obtain ⟨_, same⟩ := evolves.artifacts
  obtain ⟨_, found, rfl⟩ := map_eq_some_iff.mp held
  have inside := (List.getElem?_eq_some_iff.mp found).1
  rw [PaperState.content, same, List.getElem?_append_left inside, found, map_some]

structure Pins (state : PaperState) (run : PaperRun) (envelope : RiskEnvelope)
    (config : ExecutionConfig) : Prop where
  risk : state.content run.riskConfigArtifactId = some (.riskEnvelope envelope)
  execution : state.content run.executionConfigArtifactId = some (.executionConfig config)
  spot : ∀ listed ∈ config.instruments, spotIn run.reportingCurrency listed

def AllPinned (state : PaperState) : Prop :=
  ∀ runId run, state.findRun runId = some run → ∃ envelope config, Pins state run envelope config

structure NewRun (before after : PaperState) (run : PaperRun) : Prop where
  orders : after.orders = before.orders
  reservations : after.reservations = before.reservations
  pins : ∃ envelope config, Pins after run envelope config

variable {runId : String}

theorem findRun_of_updated {run : PaperRun}
    (found : (state.updateRun runId fun run => { run with status }).findRun other = some run) :
    ∃ old, state.findRun other = some old := by
  rw [findRun_updateRun ?_] at found
  · obtain ⟨old, held, -⟩ := map_eq_some_iff.mp found
    exact ⟨old, held⟩
  · exact fun _ named => named

theorem Commit.run_origin (commit : Commit ctx before call answer after) {run : PaperRun}
    (found : after.findRun runId = some run) :
    (∃ old, before.findRun runId = some old) ∨
      (before.findRun runId = none ∧ NewRun before after run) := by
  cases commit with
  | started _ supported _ riskFiled executionFiled =>
    rw [PaperState.findRun, find_insert] at found
    rcases or_eq_some_iff.mp found with older | ⟨missing, newest⟩
    · exact .inl ⟨run, older⟩
    · refine .inr ⟨missing, ⟨rfl, rfl, ?_⟩⟩
      split at newest
      · cases newest
        exact ⟨_, _, ⟨riskFiled, executionFiled, supported⟩⟩
      · cases newest
  | reconciled => exact .inl (findRun_of_updated found)
  | restarted => exact .inl (findRun_of_updated found)
  | submitted =>
    exact .inl ⟨run, found⟩
  | doubted => exact .inl ⟨run, found⟩
  | filled => exact .inl ⟨run, found⟩
  | cancelled => exact .inl ⟨run, found⟩
  | stopped => exact .inl ⟨run, found⟩
  | latched => exact .inl ⟨run, found⟩
  | unlatched => exact .inl ⟨run, found⟩

theorem Aftermath.run_origin (step : Aftermath ctx actor latchId before after) {run : PaperRun}
    (found : after.findRun runId = some run) : ∃ old, before.findRun runId = some old := by
  cases step with
  | cleared => exact ⟨run, found⟩
  | fenced => exact findRun_of_updated found

theorem Pins.later {run later : PaperRun} {envelope : RiskEnvelope}
    (pins : Pins before run envelope config) (evolves : Evolves before after)
    (same : later = { run with status := later.status }) : Pins after later envelope config where
  risk := by
    rw [same]
    exact evolves.content pins.risk
  execution := by
    rw [same]
    exact evolves.content pins.execution
  spot := by
    rw [same]
    exact pins.spot

theorem AllPinned.step (pinned : AllPinned before) (evolves : Evolves before after)
    (origin : ∀ runId run, after.findRun runId = some run →
      (∃ old, before.findRun runId = some old) ∨ (before.findRun runId = none ∧ NewRun before after run)) :
    AllPinned after := by
  intro runId run found
  rcases origin runId run found with ⟨old, held⟩ | ⟨-, new⟩
  · obtain ⟨_, final, same⟩ := evolves.runs held
    rw [found] at final
    cases final
    obtain ⟨envelope, config, pins⟩ := pinned runId old held
    exact ⟨envelope, config, pins.later evolves same⟩
  · exact new.pins

theorem Reachable.pinned (reachable : Reachable ctx state) : AllPinned state :=
  reachable.rule AllPinned nofun fun _ _ _ _ _ pinned effect =>
    effect.preserves AllPinned pinned
      (fun _ _ commit => pinned.step commit.evolves fun _ _ found => commit.run_origin found)
      fun _ _ _ _ held step => held.step step.evolves fun _ _ found => .inl (step.run_origin found)

theorem Effect.run_origin (effect : Effect ctx before call answer after) {run : PaperRun}
    (found : after.findRun runId = some run) :
    (∃ old, before.findRun runId = some old) ∨
      (before.findRun runId = none ∧ NewRun before after run) := by
  cases effect with
  | replayed => exact .inl ⟨run, found⟩
  | committed commit => exact commit.run_origin found
  | @latched _ _ _ _ _ middle _ commit follows clear fenced =>
    left
    have first : ∀ run, middle.findRun runId = some run → ∃ old, before.findRun runId = some old := by
      cases commit with
      | latched => exact fun run found => ⟨run, found⟩
    clear clear fenced
    induction follows generalizing run with
    | refl => exact first run found
    | tail _ step ih =>
      obtain ⟨_, held⟩ := step.run_origin found
      exact ih held

def AllOwned (state : PaperState) : Prop :=
  ∀ order ∈ state.orders, ∃ run, state.findRun order.paperRunId = some run

theorem AllOwned.step (ctx : DecimalContext) (owned : AllOwned before) (evolves : Evolves before after)
    (orders : ∀ order ∈ after.orders, order ∈ before.orders ∨
      (∃ old ∈ before.orders, OrderMove ctx old order) ∨
        ∃ run, before.findRun order.paperRunId = some run) : AllOwned after := by
  intro order member
  have known : ∃ run, before.findRun order.paperRunId = some run := by
    rcases orders order member with older | ⟨old, held, move⟩ | rowed
    · exact owned order older
    · rw [move.sameTerms]
      exact owned old held
    · exact rowed
  obtain ⟨_, found⟩ := known
  obtain ⟨later, final, -⟩ := evolves.runs found
  exact ⟨later, final⟩

theorem Reachable.owned (reachable : Reachable ctx state) : AllOwned state := by
  have both : state.Projected ∧ AllOwned state := by
    refine reachable.rule (fun state => state.Projected ∧ AllOwned state)
      ⟨projected_empty, fun _ member => nomatch member⟩ ?_
    intro before call answer after projected kept effect
    refine effect.preserves (fun state => state.Projected ∧ AllOwned state) kept ?_ ?_
    · intro answer after commit
      refine ⟨commit.projected projected, kept.2.step ctx commit.evolves fun order member => ?_⟩
      rcases commit.orders projected member with older | moved | admission
      · exact .inl older
      · exact .inr (.inl moved)
      · cases admission with
        | submitted _ _ _ _ rowed => exact .inr (.inr rowed)
    · intro actor latchId first second held step
      exact ⟨step.projected held.1, held.2.step ctx step.evolves
        fun _ member => (step.orders held.1 member).imp_right .inl⟩
  exact both.2

/-! ### A small venue

One spot instrument without fees, quoted at 10, and one run on it. Runs on it
show the laws below at work, and where they fail. -/

namespace SmallVenue

def worker : Identity := ⟨"paper-worker", .paper⟩

def owner : Identity := ⟨"owner", .owner⟩

/-! What the prices, quantities and limits of the samples have to be. -/

theorem price_pos : (0 : ℚ) < 10 := by norm_num

theorem price_same : (10 : ℚ) ≤ 10 := le_rfl

theorem limit_pos : (0 : ℚ) < 200 := by norm_num

theorem one_lot : (0 : ℚ) < 1 := by norm_num

theorem three_lots : (0 : ℚ) < 3 := by norm_num

theorem five_lots : (0 : ℚ) < 5 := by norm_num

theorem eight_lots : (0 : ℚ) < 8 := by norm_num

theorem book_nonneg : (0 : ℚ) ≤ 100 := by norm_num

theorem whole_share : (1 : ℚ) ≤ 1 := le_rfl

theorem first_named : "first" ≠ "" := by decide

theorem second_named : "second" ≠ "" := by decide

theorem sold_named : "sold" ≠ "" := by decide

theorem unit_increments :
    (0 : ℚ) < 1 ∧ (0 : ℚ) < 1 ∧ (0 : ℚ) < 1 ∧ (0 : ℚ) < 1 ∧ (0 : ℚ) < 1 := by norm_num

theorem never_expires : ∀ expiry ∈ (none : Option Time), (0 : Time) < expiry := by simp

theorem queue_unasked : FidelityTier.f1TradeBbo = .f3SeqL2 ∨ FidelityTier.f1TradeBbo = .f4OrderLevel →
    ∃ assumption ∈ (none : Option String), assumption ≠ "" := by simp

def spot : InstrumentSpec where
  version := "i1"
  venue := "paper-x"
  instrumentId := "BTC-USD"
  contractKind := .spot
  baseCurrency := "BTC"
  quoteCurrency := "USD"
  settlementCurrency := "USD"
  tickSize := 1
  lotSize := 1
  minQuantity := 1
  minNotional := 1
  maxQuantity := none
  priceLower := none
  priceUpper := none
  multiplier := 1
  effectiveFrom := 0
  effectiveTo := none
  tradingStatus := .trading
  increments_pos := unit_increments
  interval := never_expires

def fee (role : LiquidityRole) : FeeSchedule :=
  ⟨"fee-v1", "paper-x", "BTC-USD", "base", role, 0, 0, none, "fixture"⟩

/-- Orders, positions and the portfolio may be worth as much as `cap`. -/
def envelope (cap : ℚ) (positive : 0 < cap) : RiskEnvelope :=
  ⟨"risk-v1", cap, cap, cap, 60, .paper, by simpa using positive⟩

def fillModel : PinnedFillModel :=
  ⟨"fill-v1", .f1TradeBbo, 1, 0, none, 1, by decide, one_lot, whole_share, whole_share, queue_unasked⟩

def runSpec (runId : String) (limits : RiskEnvelope) (named : runId ≠ "") : PaperRunSpec where
  paperRunId := runId
  policyVersion := "paper-v1"
  reportingCurrency := "USD"
  riskEnvelope := limits
  fillModel := fillModel
  instruments := [spot]
  feeSchedules := [fee .maker, fee .taker]
  feeAccountTier := "base"
  named := ⟨named, by decide⟩
  configured := by decide

def quotes (instant : Time) : MarketSnapshot :=
  ⟨instant, 10, 10, 100, .f1TradeBbo, true, none, price_pos, price_same, book_nonneg⟩

/-- A market order prepared and submitted at one instant. -/
def intent (clientOrderId : String) (side : Side) (quantity : ℚ) : OrderIntent :=
  ⟨clientOrderId, "strategy-a", "paper-x", "BTC-USD", side, quantity, .market, none, 10, 10, 10, 10,
    false, false, .gtc⟩

/-- Identifiers made of the kind and a tag of the call. -/
def readings (started : Time) (tag : String) : Readings :=
  ⟨started, 11, fun kind => kind ++ "-" ++ tag, fun _ => 0, fun _ => "T"⟩

def byWorker (started : Time) (tag : String) (request : PaperRequest) : PaperCall :=
  ⟨worker, readings started tag, request⟩

def fill (key : String) (fillTime : Time) (price quantity : ℚ) (priced : 0 < price)
    (sized : 0 < quantity) (named : key ≠ "") : PaperFill :=
  ⟨key, fillTime, price, quantity, 0, .taker, "fill-v1", priced, sized, named, by decide⟩

def globalStop : StopRequest := ⟨.global, none, "manual", false, "stop-v1", by decide, by decide⟩

def opening (limits : RiskEnvelope) : List PaperCall :=
  [byWorker 1 "1" (.startRun (runSpec "RUN" limits (by decide)) "start"),
    byWorker 2 "2" (.reconcile "RUN" "reconcile" true)]

def submission (limits : RiskEnvelope) (tag clientOrderId : String) (side : Side) (quantity : ℚ) :
    PaperCall :=
  byWorker 3 tag (.submit "RUN" (intent clientOrderId side quantity) spot (quotes 10) limits "pool")

def limits : RiskEnvelope := envelope 200 limit_pos

def roundTrip : List PaperCall :=
  opening limits ++
    [submission limits "3" "buy" .buy 8,
      byWorker 4 "4" (.recordFill "PORD-3" (fill "bought" 12 10 8 price_pos eight_lots
        (by decide)) "USD"),
      submission limits "5" "sell" .sell 8,
      byWorker 6 "6" (.recordFill "PORD-5" (fill "sold" 13 10 8 price_pos eight_lots sold_named)
        "USD")]

end SmallVenue

end Liki.Paper
