import Liki.Paper.Persistence

/-! What stops hold back. While a GLOBAL latch is active no run is active and no
order is admitted; releasing it activates nothing; and what may still trade
during the latch is what was already in doubt when it closed. -/
namespace Liki.Paper
open DecimalArithmetic Checks CallSystem Finance PaperState KeyedRows

variable {ctx : DecimalContext} {state before after : PaperState} {call : PaperCall}
  {answer : PaperAnswer} {runId operationKey : String} {actor : Identity}
  {change : PaperRun → PaperRun}

def GloballyLatched (state : PaperState) : Prop :=
  ∃ latch ∈ state.latches, latch.active = true ∧ latch.scope = .global

def Covered (state : PaperState) (runId : String) (intent : OrderIntent) : Prop :=
  GloballyLatched state ∨
    (∃ latch ∈ state.latches, latch.active = true ∧ latch.scope = .venue ∧
      latch.scopeId = some intent.venue) ∨
    ∃ stop ∈ state.stops, stop.paperRunId = runId ∧ stop.active = true ∧
      (stop.scope = .global ∨ (stop.scope = .venue ∧ stop.scopeId = some intent.venue) ∨
        (stop.scope = .strategy ∧ stop.scopeId = some intent.strategyId))

def RunActive (state : PaperState) (runId : String) : Prop :=
  ∃ run, state.findRun runId = some run ∧ run.status = .active

theorem Covered.stopped {intent : OrderIntent} (covered : Covered state runId intent) :
    state.stopped runId intent = true := by
  simp only [PaperState.stopped, Bool.or_eq_true, List.any_eq_true, Bool.and_eq_true,
    decide_eq_true_eq]
  rcases covered with ⟨latch, held, active, everywhere⟩ | ⟨latch, held, active, scope, venue⟩ |
    ⟨stop, held, run, active, scope⟩
  · exact .inr ⟨latch, held, active, .inl everywhere⟩
  · exact .inr ⟨latch, held, active, .inr ⟨scope, venue⟩⟩
  · refine .inl ⟨stop, held, ⟨run, active⟩, ?_⟩
    rcases scope with everywhere | venue | strategy
    · exact .inl (.inl everywhere)
    · exact .inl (.inr venue)
    · exact .inr strategy

theorem Covered.submit {readings : Readings} {intent : OrderIntent} {envelope : RiskEnvelope}
    (covered : Covered before runId intent)
    (effect : Effect ctx before ⟨actor, readings, .submit runId intent spec snapshot envelope poolId⟩
      answer after) : after = before := by
  cases effect with
  | replayed => rfl
  | committed commit =>
    cases commit with
    | submitted _ _ _ unstopped =>
      rw [covered.stopped] at unstopped
      cases unstopped

theorem Aftermath.lowers (step : Aftermath ctx actor latchId before after) :
    after.latches = before.latches ∧ ∀ run ∈ after.runs, run.status = .active → run ∈ before.runs := by
  cases step with
  | cleared => exact ⟨rfl, fun run member _ => member⟩
  | fenced =>
    refine ⟨rfl, fun run member active => ?_⟩
    rcases mem_update member with ⟨_, -, -, rfl⟩ | ⟨held, -⟩
    · cases active
    · exact held

def Fenced (state : PaperState) : Prop :=
  GloballyLatched state → ∀ run ∈ state.runs, run.status ≠ .active

theorem Aftermath.fenced_kept (kept : Fenced before)
    (step : Aftermath ctx actor latchId before after) : Fenced after := by
  obtain ⟨latches, runs⟩ := step.lowers
  intro latched run member active
  rw [GloballyLatched, latches] at latched
  exact kept latched run (runs run member active) active

theorem globalLatch_eq_none : state.globalLatch = none ↔ ¬GloballyLatched state := by
  simp [PaperState.globalLatch, GloballyLatched]

theorem Fenced.update_run (kept : Fenced before)
    (lowered : GloballyLatched before → ∀ run, (change run).status ≠ .active)
    (latches : after.latches = before.latches)
    (runs : after.runs = KeyedRows.update PaperRun.paperRunId runId change before.runs) :
    Fenced after := by
  intro latched run member active
  rw [GloballyLatched, latches] at latched
  rw [runs] at member
  rcases mem_update member with ⟨old, -, -, rfl⟩ | ⟨held, -⟩
  · exact lowered latched old active
  · exact kept latched run held active

/-- Every commit but a latch leaves a latched service fenced. -/
theorem Commit.fenced (kept : Fenced before) (commit : Commit ctx before call answer after)
    (alone : ∀ stopping operationKey, call.request ≠ .emergencyStop stopping operationKey) :
    Fenced after := by
  cases commit with
  | started =>
    intro latched run member active
    rcases mem_added member with older | newest
    · exact kept latched run older active
    · rw [newest] at active
      cases active
  | @reconciled actor readings runId operationKey valid run current found read unused =>
    refine kept.update_run (fun latched run active => ?_) rfl rfl
    simp only [PaperState.reconciledStatus] at active
    split at active
    · rename_i clear
      exact globalLatch_eq_none.mp clear.2.2 latched
    · cases active
  | restarted =>
    exact kept.update_run (fun _ run active => by cases active) rfl rfl
  | submitted =>
    exact kept
  | doubted => exact kept
  | filled => exact kept
  | cancelled => exact kept
  | stopped => exact kept
  | latched => exact absurd rfl (alone _ _)
  | unlatched =>
    rintro ⟨latch, member, active, everywhere⟩
    rcases mem_update member with ⟨_, -, -, rfl⟩ | ⟨older, -⟩
    · cases active
    · exact kept ⟨latch, older, active, everywhere⟩

theorem Effect.fenced (kept : Fenced before) (effect : Effect ctx before call answer after) :
    Fenced after := by
  cases effect with
  | replayed => exact kept
  | committed commit alone => exact commit.fenced kept alone
  | @latched _ _ stopping _ _ middle _ commit follows clear fenced =>
    by_cases everywhere : stopping.scope = .global
    · exact fun _ => fenced everywhere
    -- A VENUE latch is not a global one, so nothing new is latched globally.
    · have start : Fenced middle := by
        cases commit with
        | latched =>
          rintro ⟨latch, member, active, scope⟩
          rcases mem_added member with older | newest
          · exact kept ⟨latch, older, active, scope⟩
          · rw [newest] at scope
            exact absurd scope everywhere
      clear fenced clear
      induction follows with
      | refl => exact start
      | tail _ step ih => exact step.fenced_kept ih

theorem Reachable.fenced (reachable : Reachable ctx state) : Fenced state :=
  reachable.rule Fenced (fun _ run member => by cases member)
    fun _ _ _ _ _ kept effect => effect.fenced kept

theorem RunActive.of_update (active : RunActive after other)
    (runs : after.runs = KeyedRows.update PaperRun.paperRunId runId change before.runs)
    (kept : ∀ run, run.paperRunId = runId → (change run).paperRunId = runId) :
    RunActive before other ∨ (other = runId ∧ ∃ run, (change run).status = .active) := by
  obtain ⟨_, found, status⟩ := active
  rw [PaperState.findRun, runs, find_update kept] at found
  obtain ⟨old, held, rfl⟩ := Option.map_eq_some_iff.mp found
  by_cases same : old.paperRunId = runId
  · rw [if_pos same] at status
    exact .inr ⟨(find_key held).symm.trans same, old, status⟩
  · rw [if_neg same] at status
    exact .inl ⟨old, held, status⟩

/-- The only way to become active is a reconciliation that finds nothing against it. -/
theorem Effect.activates (effect : Effect ctx before call answer after)
    (active : RunActive after runId) :
    RunActive before runId ∨ ((∃ operationKey, call.request = .reconcile runId operationKey true) ∧
      ¬GloballyLatched before ∧
      ∀ order ∈ before.orders, order.paperRunId = runId → order.finalState ≠ .unknownReconciling) := by
  cases effect with
  | replayed => exact .inl active
  | @latched _ _ _ _ _ middle _ commit follows clear fenced =>
    left
    have first : RunActive middle runId → RunActive before runId := by
      cases commit with
      | latched => exact id
    clear clear fenced
    induction follows with
    | refl => exact first active
    | tail _ step ih =>
      refine ih ?_
      cases step with
      | cleared => exact active
      | fenced =>
        rcases active.of_update rfl fun _ named => named with kept | ⟨-, run, lowered⟩
        · exact kept
        · cases lowered
  | committed commit alone =>
    cases commit with
    | started =>
      left
      obtain ⟨run, found, status⟩ := active
      rw [PaperState.findRun, find_insert] at found
      rcases Option.or_eq_some_iff.mp found with older | ⟨-, newest⟩
      · exact ⟨run, older, status⟩
      · split at newest
        · cases newest
          cases status
        · cases newest
    | @reconciled actor readings runId operationKey valid run current found read unused =>
      rcases active.of_update rfl fun _ named => named with kept | ⟨rfl, run, raised⟩
      · exact .inl kept
      · right
        simp only [PaperState.reconciledStatus] at raised
        split at raised
        · rename_i clear
          obtain ⟨valid, resolved, unlatched⟩ := clear
          subst valid
          refine ⟨⟨operationKey, rfl⟩, globalLatch_eq_none.mp unlatched, fun order member run => ?_⟩
          simp only [PaperState.unresolved, List.any_eq_true, Bool.and_eq_true, decide_eq_true_eq,
            not_exists, not_and] at resolved
          exact resolved order member run
        · cases raised
    | restarted =>
      rcases active.of_update rfl fun _ named => named with kept | ⟨-, _, lowered⟩
      · exact .inl kept
      · cases lowered
    | submitted =>
      exact .inl active
    | doubted => exact .inl active
    | filled => exact .inl active
    | cancelled => exact .inl active
    | stopped => exact .inl active
    | latched => exact .inl active
    | unlatched => exact .inl active

theorem Effect.release_runs {readings : Readings}
    (effect : Effect ctx before
      ⟨actor, readings, .releaseEmergencyStop latchId reasonCode operationKey⟩ answer after) :
    after.runs = before.runs := by
  cases effect with
  | replayed => rfl
  | committed commit =>
    cases commit with
    | unlatched => rfl

/-- In every state that calls can reach: under a GLOBAL latch no run is active; a
release changes no run, and a run that becomes active does so through a
reconciliation with valid market data, without a GLOBAL latch and without an
unknown order of its own; and a submission that a latch or a stop of its run
covers changes nothing. -/
theorem stops_hold_runs_and_orders (ctx : DecimalContext) (calls : List PaperCall) :
    let state := run (handle ctx) .empty calls
    (GloballyLatched state → ∀ run ∈ state.runs, run.status ≠ .active) ∧
    (∀ actor readings latchId reasonCode operationKey,
      (next (handle ctx) state
        ⟨actor, readings, .releaseEmergencyStop latchId reasonCode operationKey⟩).runs = state.runs) ∧
    (∀ call runId, RunActive (next (handle ctx) state call) runId → ¬RunActive state runId →
      (∃ operationKey, call.request = .reconcile runId operationKey true) ∧ ¬GloballyLatched state ∧
        ∀ order ∈ state.orders, order.paperRunId = runId → order.finalState ≠ .unknownReconciling) ∧
    (∀ actor readings runId intent spec snapshot envelope poolId, Covered state runId intent →
      next (handle ctx) state
        ⟨actor, readings, .submit runId intent spec snapshot envelope poolId⟩ = state) := by
  intro state
  have reachable : Reachable ctx state := ⟨calls, rfl⟩
  have projected := reachable.projected
  refine ⟨reachable.fenced, ?_, ?_, ?_⟩
  · intro actor readings latchId reasonCode operationKey
    refine next_of_answered (fun after : PaperState => after.runs = state.runs) rfl
      fun answer after ok => ?_
    exact (handle_effect projected ok).release_runs
  · intro call runId active inactive
    refine next_of_answered (fun after : PaperState => RunActive after runId → _)
      (fun active => absurd active inactive) (fun answer after ok active => ?_) active
    exact ((handle_effect projected ok).activates active).resolve_left inactive
  · intro actor readings runId intent spec snapshot envelope poolId covered
    refine next_of_answered (fun after : PaperState => after = state) rfl fun answer after ok => ?_
    exact covered.submit (handle_effect projected ok)

def PaperOrder.Working (order : PaperOrder) : Prop :=
  order.finalState ∈ [OrderState.acknowledged, .partiallyFilled, .amended, .cancelPending,
    .unknownReconciling]

def LatchActive (state : PaperState) (latchId : String) : Prop :=
  ∃ latch, state.findLatch latchId = some latch ∧ latch.active = true

def InDoubt (state : PaperState) (orderId : String) : Prop :=
  ∃ order, state.findOrder orderId = some order ∧ order.finalState = .unknownReconciling

variable {latchId : String} {doubtful : String → Prop} {recorded : List FillRow}

theorem OrderMove.from_working (ordinary : old.Ordinary) (move : OrderMove ctx old new) :
    old.Working := by
  have moving : ∃ target ∈ [OrderState.unknownReconciling, .filled, .partiallyFilled, .cancelPending],
      target ∈ old.finalState.transitions ∨ old.finalState ∈
        [OrderState.acknowledged, .partiallyFilled, .amended, .cancelPending] := by
    cases move with
    | doubted allowed => exact ⟨_, by simp, .inl allowed⟩
    | filled loaded moved =>
      obtain ⟨allowed, ⟨complete, -⟩ | ⟨incomplete, -⟩, -⟩ := fillRecord_ok loaded moved
      · exact ⟨_, by simp, .inl (complete ▸ allowed)⟩
      · exact ⟨_, by simp, .inl (incomplete ▸ allowed)⟩
    | cancelled working => exact ⟨.filled, by simp, .inr working⟩
  revert ordinary moving
  unfold PaperOrder.Ordinary PaperOrder.Working
  cases old.finalState <;> decide

structure Confined (latchId : String) (doubtful : String → Prop) (recorded : List FillRow)
    (state : PaperState) : Prop where
  latch : ∃ latch, state.findLatch latchId = some latch ∧ latch.scope = .global
  ordinary : ∀ order ∈ state.orders, order.Ordinary
  working : LatchActive state latchId → ∀ order ∈ state.orders, order.reduceOnly = false →
    order.Working → doubtful order.paperOrderId
  filled : LatchActive state latchId → ∀ row ∈ state.fills, row ∈ recorded ∨
    ∃ order, state.findOrder row.paperOrderId = some order ∧
      (order.reduceOnly = false → doubtful order.paperOrderId)

theorem Evolves.latch_was_active (evolves : Evolves before after)
    (latch : ∃ latch, before.findLatch latchId = some latch ∧ latch.scope = .global)
    (active : LatchActive after latchId) : LatchActive before latchId ∧ GloballyLatched before := by
  obtain ⟨latch, found, everywhere⟩ := latch
  obtain ⟨_, final, -, was⟩ := evolves.latches found
  obtain ⟨_, again, now⟩ := active
  rw [final] at again
  cases again
  exact ⟨⟨latch, found, was now⟩, latch, find_mem found, was now, everywhere⟩

theorem Confined.step (confined : Confined latchId doubtful recorded before)
    (evolves : Evolves before after)
    (orders : ∀ order ∈ after.orders, order ∈ before.orders ∨
      (∃ old ∈ before.orders, OrderMove ctx old order) ∨ (order.Ordinary ∧ ¬GloballyLatched before))
    (fills : ∀ row ∈ after.fills, row ∈ before.fills ∨ ∃ order intent record, ∃ fill : PaperFill,
      before.findOrder row.paperOrderId = some order ∧ loadIntent order = .ok intent ∧
        fillRecord ctx order intent fill = .ok record) :
    Confined latchId doubtful recorded after where
  latch := by
    obtain ⟨_, found, everywhere⟩ := confined.latch
    obtain ⟨later, final, same, -⟩ := evolves.latches found
    exact ⟨later, final, by rw [same, everywhere]⟩
  ordinary := by
    intro order member
    rcases orders order member with older | ⟨old, -, move⟩ | ⟨ordinary, -⟩
    · exact confined.ordinary order older
    · exact move.ordinary
    · exact ordinary
  working := by
    intro active order member increasing working
    obtain ⟨was, everywhere⟩ := evolves.latch_was_active confined.latch active
    rcases orders order member with older | ⟨old, held, move⟩ | ⟨-, unlatched⟩
    · exact confined.working was order older increasing working
    · have terms := move.sameTerms
      rw [terms] at increasing ⊢
      exact confined.working was old held increasing
        (move.from_working (confined.ordinary old held))
    · exact absurd everywhere unlatched
  filled := by
    intro active row member
    obtain ⟨was, -⟩ := evolves.latch_was_active confined.latch active
    rcases fills row member with older | ⟨order, _, _, _, found, loaded, moved⟩
    · rcases confined.filled was row older with known | ⟨order, found, doubted⟩
      · exact .inl known
      · obtain ⟨later, final, terms⟩ := evolves.orders found
        rw [PaperOrder.SameTerms] at terms
        refine .inr ⟨later, final, ?_⟩
        rw [terms]
        exact doubted
    · obtain ⟨later, final, terms⟩ := evolves.orders found
      rw [PaperOrder.SameTerms] at terms
      refine .inr ⟨later, final, ?_⟩
      rw [terms]
      intro increasing
      have held := find_mem found
      have move : OrderMove ctx order _ := .filled loaded moved
      exact confined.working was order held increasing (move.from_working (confined.ordinary _ held))

theorem Effect.confined (projected : before.Projected)
    (confined : Confined latchId doubtful recorded before)
    (effect : Effect ctx before call answer after) : Confined latchId doubtful recorded after := by
  have both : after.Projected ∧ Confined latchId doubtful recorded after := by
    refine effect.preserves (fun state => state.Projected ∧ Confined latchId doubtful recorded state)
      ⟨projected, confined⟩ ?_ ?_
    · intro answer after commit
      refine ⟨commit.projected projected, confined.step commit.evolves ?_ fun row => commit.fills⟩
      intro order member
      rcases commit.orders projected member with older | moved | admission
      · exact .inl older
      · exact .inr (.inl moved)
      · refine .inr (.inr ⟨admission.ordinary, fun latched => ?_⟩)
        cases admission with
        | submitted _ _ unstopped =>
          rw [Covered.stopped (.inl latched)] at unstopped
          cases unstopped
    · intro actor latch first second held step
      have orders : ∀ order ∈ second.orders, order ∈ first.orders ∨
          (∃ old ∈ first.orders, OrderMove ctx old order) ∨
            (order.Ordinary ∧ ¬GloballyLatched first) :=
        fun order member => (step.orders held.1 member).imp_right .inl
      refine ⟨step.projected held.1, held.2.step step.evolves orders fun row member => ?_⟩
      rw [step.fills] at member
      exact .inl member
  exact both.2

theorem Aftermath.uncancelled (projected : before.Projected)
    (step : Aftermath ctx actor latchId before after) (member : order ∈ after.orders)
    (working : order.Working) : order ∈ before.orders := by
  cases step with
  | cleared found =>
    rcases mem_update_of_find projected.orderIds found member with rfl | ⟨older, -⟩
    · simp [PaperOrder.Working] at working
    · exact older
  | fenced => exact member

theorem RecordedEvent.used {about : PaperAggregate → Prop}
    (recorded : RecordedEvent state operationKey types aggregateId about) :
    operationKey ∈ state.store.keys := by
  obtain ⟨event, found, -⟩ := recorded
  have named : event.operationKey = operationKey := find_key found
  exact named ▸ List.mem_map_of_mem (find_mem found)

theorem Effect.starts_confined {readings : Readings} (reachable : Reachable ctx before)
    (everywhere : stopping.scope = .global) (unused : operationKey ∉ before.store.keys)
    (effect : Effect ctx before ⟨actor, readings, .emergencyStop stopping operationKey⟩ (.id latchId)
      after) : Confined latchId (InDoubt before) after.fills after := by
  have projected := reachable.projected
  cases effect with
  | replayed records =>
    simp only [Recorded] at records
    exact absurd records.used unused
  | committed _ alone => exact absurd rfl (alone _ _)
  | @latched _ _ _ _ _ middle _ commit follows clear fenced =>
    clear fenced
    have start : middle.Projected ∧ middle.orders = before.orders ∧ latchId = readings.uid "SLATCH" ∧
        ∃ latch, middle.findLatch latchId = some latch ∧ latch.scope = .global := by
      refine ⟨commit.projected projected, ?_⟩
      cases commit with
      | latched _ _ absent =>
        refine ⟨rfl, rfl, safetyLatch (readings.uid "SLATCH") stopping, ?_, everywhere⟩
        rw [PaperState.findLatch, find_insert]
        simp only [PaperState.findLatch] at absent
        rw [absent, Option.none_or]
        exact if_pos rfl
    obtain ⟨latched, orders, _, latch⟩ := start
    -- The commits that follow keep the latch, and add no working order.
    have chain : after.Projected ∧ (∃ latch, after.findLatch latchId = some latch ∧
        latch.scope = .global) ∧ (∀ order ∈ after.orders, order.Ordinary) ∧
          ∀ order ∈ after.orders, order.Working → order ∈ before.orders := by
      clear clear
      induction follows with
      | refl =>
        exact ⟨latched, latch, orders ▸ reachable.ordinary, fun order member _ => orders ▸ member⟩
      | tail _ step ih =>
        obtain ⟨held, kept, ordinary, working⟩ := ih
        refine ⟨step.projected held, ?_, ?_, ?_⟩
        · rw [PaperState.findLatch, step.lowers.1]
          exact kept
        · intro order member
          rcases step.orders held member with older | ⟨_, -, move⟩
          · exact ordinary order older
          · exact move.ordinary
        · intro order member works
          exact working order (step.uncancelled held member works) works
    obtain ⟨_, kept, ordinary, working⟩ := chain
    have doubt : ∀ order ∈ after.orders, order.reduceOnly = false → order.Working →
        InDoubt before order.paperOrderId := by
      intro order member increasing works
      have uncovered : ¬order.covered stopping.scope stopping.scopeId := by
        intro covered
        have listed : order ∈ after.coveredOrders stopping.scope stopping.scopeId :=
          List.mem_filter.mpr ⟨member, covered⟩
        rw [clear] at listed
        cases listed
      have unknown : order.finalState = .unknownReconciling := by
        simp only [PaperOrder.covered, increasing, everywhere, Bool.not_false, Bool.and_true,
          decide_true, Bool.true_or, decide_eq_true_eq] at uncovered
        revert works uncovered
        unfold PaperOrder.Working
        cases order.finalState <;> decide
      exact ⟨order, find_of_mem projected.orderIds (working order member works), unknown⟩
    exact ⟨kept, ordinary, fun _ => doubt, fun _ row member => .inl member⟩

/-- After a GLOBAL emergency stop and until its release, only orders that were
UNKNOWN_RECONCILING when it was committed still work without being reduce-only,
and only such orders were filled since. -/
theorem latched_orders_confined (ctx : DecimalContext) (earlier later : List PaperCall)
    (actor : Identity) (readings : Readings) (stopping : StopRequest) (operationKey latchId : String)
    (stopped : PaperState) :
    let before := run (handle ctx) .empty earlier
    let final := run (handle ctx) stopped later
    stopping.scope = .global → operationKey ∉ before.store.keys →
    handle ctx before ⟨actor, readings, .emergencyStop stopping operationKey⟩ =
      .ok (.id latchId, stopped) →
    LatchActive final latchId →
    (∀ order ∈ final.orders, order.reduceOnly = false → order.Working →
      InDoubt before order.paperOrderId) ∧
    ∀ row ∈ final.fills, row ∉ stopped.fills → ∃ order, final.findOrder row.paperOrderId = some order ∧
      (order.reduceOnly = false → InDoubt before order.paperOrderId) := by
  intro before final everywhere unused ok active
  have reachable : Reachable ctx before := ⟨earlier, rfl⟩
  have effect := handle_effect reachable.projected ok
  have start := effect.starts_confined reachable everywhere unused
  have projected := effect.projected reachable.projected
  have confined : Confined latchId (InDoubt before) stopped.fills final :=
    run_rule projected start
      (fun state call answer after projected kept _ step => step.confined projected kept)
      (along_of_forall (fun _ _ => trivial) _ later)
  refine ⟨confined.working active, fun row member added => ?_⟩
  exact (confined.filled active row member).resolve_left added

instance (state : PaperState) (latchId : String) : Decidable (LatchActive state latchId) :=
  decidable_of_iff ((state.findLatch latchId).any SafetyLatch.active = true) (by
    simp [LatchActive, Option.any_eq_true])

instance (order : PaperOrder) : Decidable order.Working :=
  inferInstanceAs (Decidable (_ ∈ _))

namespace SmallVenue

def oneDoubtful : List PaperCall :=
  opening (envelope 200 limit_pos) ++
    [submission (envelope 200 limit_pos) "3" "a" .buy 8,
      submission (envelope 200 limit_pos) "4" "b" .buy 2,
      byWorker 5 "5" (.markUnknown "PORD-3" "timeout" "unknown")]

def stoppingCall : PaperCall := ⟨owner, readings 6 "6", .emergencyStop globalStop "estop"⟩

def lateFill : List PaperCall :=
  [byWorker 7 "7" (.recordFill "PORD-3" (fill "late" 12 10 3 price_pos three_lots (by decide))
    "USD")]

end SmallVenue

open SmallVenue in
/-- The law at the small venue: what works after the late fill was doubtful. -/
theorem latched_orders_confined_small :
    let before := run (handle prec28) .empty oneDoubtful
    let final := run (handle prec28) (next (handle prec28) before stoppingCall) lateFill
    (∀ order ∈ final.orders, order.reduceOnly = false → order.Working →
      InDoubt before order.paperOrderId) := by
  intro before final
  exact (latched_orders_confined prec28 oneDoubtful lateFill owner (readings 6 "6") globalStop "estop"
    "SLATCH-6" (next (handle prec28) before stoppingCall) rfl (by decide +kernel) (by decide +kernel)
    (by decide +kernel)).1

open SmallVenue in
/-- The doubtful order of the small venue is filled during the latch and still works. -/
theorem doubtful_order_trades :
    let stopped := next (handle prec28) (run (handle prec28) .empty oneDoubtful) stoppingCall
    let final := run (handle prec28) stopped lateFill
    LatchActive final "SLATCH-6" ∧
      (∃ order ∈ final.orders, order.reduceOnly = false ∧ order.Working) ∧
      ∃ row ∈ final.fills, row ∉ stopped.fills ∧
        ∃ order ∈ final.orders, order.paperOrderId = row.paperOrderId ∧ order.reduceOnly = false := by
  decide +kernel

end Liki.Paper
