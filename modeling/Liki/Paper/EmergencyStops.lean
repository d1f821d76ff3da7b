import Liki.Paper.Conservation
import Liki.Paper.RecordedFills
import Liki.Paper.SafetyLatches
import Liki.Paper.SafetyUpdates

/-! That an emergency stop goes through. One row that a check of the stop refuses
would roll all of it back, so every row of every reachable state has to be ready
for it: the row has its aggregate and its names, and what its reservation has left
beside the position amount needs no rounding. -/
namespace Liki.Paper
open DecimalArithmetic Checks CallSystem Finance PaperState KeyedRows List DecimalContext Store PaperOrder

variable {ctx : DecimalContext} {state before after : PaperState} {call : PaperCall}
  {answer : PaperAnswer} {actor : Identity} {latchId operationKey topic : String}
  {transitionRequest : PaperTransition}

def PaperRun.names (run : PaperRun) : String × String := (run.paperRunId, run.policyVersion)

def SafetyLatch.target (latch : SafetyLatch) : StopScope × Option String := (latch.scope, latch.scopeId)

structure Grounded (state : PaperState) : Prop where
  runIds : KeyedRows.Distinct PaperRun.paperRunId state.runs
  runs : ∀ run ∈ state.runs, run.paperRunId ≠ "" ∧ run.policyVersion ≠ "" ∧
    (state.store.state "paper_run" run.paperRunId).isSome
  orders : ∀ order ∈ state.orders, (state.store.state "paper_order" order.paperOrderId).isSome
  latches : ∀ latch ∈ state.latches, latch.scope = .global ↔ latch.scopeId = none

theorem isSome_append {store : PaperStore} (present : (store.state kind aggregateId).isSome) :
    ((store.append operationKey transitionRequest (some topic)).state kind aggregateId).isSome := by
  rw [state_append]
  split
  · rfl
  · exact present

/-- One event, after which every row is an old one or is what the event is about. -/
theorem Grounded.step (grounded : Grounded before) (files : Filed before.store filed)
    (logs : after.store = filed.append operationKey transitionRequest (some topic))
    (runIds : KeyedRows.Distinct PaperRun.paperRunId after.runs)
    (runs : ∀ run ∈ after.runs, (∃ old ∈ before.runs, run.names = old.names) ∨
      (run.paperRunId ≠ "" ∧ run.policyVersion ≠ "") ∧ transitionRequest.kind = "paper_run" ∧
        transitionRequest.aggregateId = run.paperRunId)
    (orders : ∀ order ∈ after.orders, (∃ old ∈ before.orders, order.paperOrderId = old.paperOrderId) ∨
      transitionRequest.kind = "paper_order" ∧ transitionRequest.aggregateId = order.paperOrderId)
    (latches : ∀ latch ∈ after.latches, (∃ old ∈ before.latches, latch.target = old.target) ∨
      (latch.scope = .global ↔ latch.scopeId = none)) : Grounded after where
  runIds := runIds
  runs := by
    intro run member
    rw [logs]
    rcases runs run member with ⟨old, held, same⟩ | ⟨⟨named, versioned⟩, kind, about⟩
    · obtain ⟨id, policy⟩ := Prod.mk.inj same
      obtain ⟨named, versioned, present⟩ := grounded.runs old held
      rw [id, policy]
      rw [state, ← files.aggregates] at present
      exact ⟨named, versioned, isSome_append present⟩
    · refine ⟨named, versioned, ?_⟩
      rw [state_append, if_pos ⟨kind, about⟩]
      rfl
  orders := by
    intro order member
    rw [logs]
    rcases orders order member with ⟨old, held, same⟩ | ⟨kind, about⟩
    · have present := grounded.orders old held
      rw [state, ← files.aggregates] at present
      rw [same]
      exact isSome_append present
    · rw [state_append, if_pos ⟨kind, about⟩]
      rfl
  latches := by
    intro latch member
    rcases latches latch member with ⟨old, held, same⟩ | identified
    · obtain ⟨scope, scopeId⟩ := Prod.mk.inj same
      rw [scope, scopeId]
      exact grounded.latches old held
    · exact identified

theorem row_kept {Row Column : Type} {column : Row → Column} {rows : List Row} {row : Row}
    (member : row ∈ rows) : ∃ old ∈ rows, column row = column old := ⟨row, member, rfl⟩

theorem Grounded.run_event (grounded : Grounded before) {runId : String} {status : PaperRunStatus} :
    Grounded ((before.logged operationKey transitionRequest topic).updateRun runId
      fun run => { run with status }) := by
  refine grounded.step (Filed.refl _) rfl ?_ ?_ ?_ ?_
  · exact distinct_update (fun _ named => named) grounded.runIds
  · intro run member
    have kept : ∀ row : PaperRun, PaperRun.names { row with status } = row.names := fun _ => rfl
    exact .inl (mem_update_column kept member)
  · exact fun order member => .inl (row_kept member)
  · exact fun latch member => .inl (row_kept member)

theorem Grounded.order_event (grounded : Grounded before)
    (logs : after.store = before.store.append operationKey transitionRequest (some topic))
    (runs : after.runs = before.runs) (latches : after.latches = before.latches)
    (orders : ∀ order ∈ after.orders, (∃ old ∈ before.orders, order.paperOrderId = old.paperOrderId) ∨
      transitionRequest.kind = "paper_order" ∧ transitionRequest.aggregateId = order.paperOrderId) :
    Grounded after := by
  refine grounded.step (Filed.refl _) logs ?_ ?_ orders ?_
  · rw [runs]
    exact grounded.runIds
  · rw [runs]
    exact fun run member => .inl (row_kept member)
  · rw [latches]
    exact fun latch member => .inl (row_kept member)

theorem Grounded.order_update (grounded : Grounded before)
    (logs : after.store = before.store.append operationKey transitionRequest (some topic))
    (runs : after.runs = before.runs) (latches : after.latches = before.latches)
    (orders : after.orders = KeyedRows.update paperOrderId orderId change before.orders)
    (kept : ∀ row, (change row).paperOrderId = row.paperOrderId) : Grounded after := by
  refine grounded.order_event logs runs latches fun order member => .inl ?_
  rw [orders] at member
  exact mem_update_column kept member

theorem Commit.grounded (grounded : Grounded before) (commit : Commit ctx before call answer after) :
    Grounded after := by
  cases commit with
  | @started _ _ spec _ _ _ _ absent _ files =>
    refine grounded.step files rfl ?_ ?_ ?_ ?_
    · exact distinct_insert grounded.runIds absent
    · intro run member
      rcases mem_added member with older | newest
      · exact .inl (row_kept older)
      · rw [newest]
        exact .inr ⟨⟨spec.named.1, spec.named.2.1⟩, rfl, rfl⟩
    · exact fun order member => .inl (row_kept member)
    · exact fun latch member => .inl (row_kept member)
  | reconciled => exact grounded.run_event
  | restarted => exact grounded.run_event
  | submitted =>
    refine grounded.order_event rfl rfl rfl fun order member => ?_
    rcases mem_added member with older | newest
    · exact .inl (row_kept older)
    · rw [newest]
      exact .inr ⟨rfl, rfl⟩
  | doubted =>
    exact grounded.order_update rfl rfl rfl rfl fun _ => rfl
  | filled =>
    exact grounded.order_update rfl rfl rfl rfl fun _ => rfl
  | cancelled =>
    exact grounded.order_update rfl rfl rfl rfl fun _ => rfl
  | stopped =>
    exact grounded.order_event rfl rfl rfl fun order member => .inl (row_kept member)
  | @latched _ _ stopping =>
    refine grounded.step (Filed.refl _) rfl grounded.runIds ?_ ?_ ?_
    · exact fun run member => .inl (row_kept member)
    · exact fun order member => .inl (row_kept member)
    · intro latch member
      rcases mem_added member with older | newest
      · exact .inl (row_kept older)
      · rw [newest]
        exact .inr stopping.scope_identified
  | unlatched =>
    refine grounded.step (Filed.refl _) rfl grounded.runIds ?_ ?_ ?_
    · exact fun run member => .inl (row_kept member)
    · exact fun order member => .inl (row_kept member)
    · intro latch member
      have kept : ∀ row : SafetyLatch, SafetyLatch.target { row with active := false } = row.target :=
        fun _ => rfl
      exact .inl (mem_update_column kept member)

theorem Aftermath.grounded (grounded : Grounded before)
    (step : Aftermath ctx actor latchId before after) : Grounded after := by
  cases step with
  | cleared =>
    exact grounded.order_update rfl rfl rfl rfl fun _ => rfl
  | fenced => exact grounded.run_event

theorem grounded_empty : Grounded .empty where
  runIds := nodup_nil
  runs := fun _ member => nomatch member
  orders := fun _ member => nomatch member
  latches := fun _ member => nomatch member

theorem Reachable.grounded (reachable : Reachable ctx state) : Grounded state :=
  reachable.rule Grounded grounded_empty fun _ _ _ _ _ grounded effect =>
    effect.preserves Grounded grounded (fun _ _ commit => commit.grounded grounded)
      fun _ _ _ _ held step => step.grounded held

theorem submit_named {readings : Readings} {intent : OrderIntent} {envelope : RiskEnvelope}
    (fresh : before.findClientOrder intent.clientOrderId = none)
    (ok : submit ctx before actor readings runId intent spec snapshot envelope poolId =
      .ok (answer, after)) : readings.uid "PORD" ≠ "" := by
  simp only [submit, fresh, bind_ok] at ok
  obtain ⟨-, -, ok⟩ := ok
  simp only [expect_ok, guard_ok, pair_ok, Prod.exists] at ok
  obtain ⟨_, _, -, -, _, -, -, _, -, -, _, -, _, -, -, -, -, -,
    moved, advanced, -⟩ := ok
  simp only [PaperState.transition, map_ok] at advanced
  obtain ⟨_, accepted, -⟩ := advanced
  exact transition_named accepted

def OrdersNamed (state : PaperState) : Prop := ∀ order ∈ state.orders, order.paperOrderId ≠ ""

theorem Reachable.ordersNamed (reachable : Reachable ctx state) : OrdersNamed state := by
  obtain ⟨calls, rfl⟩ := reachable
  have empty : Reachable ctx .empty := ⟨[], rfl⟩
  have start : OrdersNamed .empty := fun order member => nomatch member
  refine empty.run_rule start ?_ (along_of_forall (fun _ _ => trivial) _ calls)
  intro before call answer after reached named _ ok
  refine ((handle_effect reached.projected ok).orders_kept reached.projected named ?_ ?_).2
  · intro old new kept move
    rw [move.sameTerms]
    exact kept
  · intro _ _ order _ _ admission
    cases admission with
    | submitted fresh => exact submit_named fresh ok

def Releasable (ctx : DecimalContext) (order : PaperOrder) (reservation : RiskReservation) : Prop :=
  order.finalState ≠ .cancelled → reservation.amounts.released = 0 ∧
    ctx.sub reservation.amounts.original reservation.amounts.position =
      reservation.amounts.original - reservation.amounts.position

theorem BookingMove.releasable (fine : Releasable ctx order reservation)
    (move : BookingMove ctx order reservation order' reservation') :
    Releasable ctx order' reservation' := by
  obtain ⟨unreleased, exactly⟩ := fine move.uncancelled
  cases move with
  | doubted => exact fun _ => ⟨unreleased, exactly⟩
  | @filled _ _ _ amounts _ _ converted =>
    intro _
    obtain ⟨original, working, position, released⟩ := ReservedAmounts.build_ok converted
    have conserved := amounts.conserved
    dsimp only
    refine ⟨released.trans unreleased, ?_⟩
    rw [original, position, ← working, ← position, ← original]
    rw [released, unreleased] at conserved
    linarith
  | cancelled => exact fun open' => absurd rfl open'

theorem Rebooked.releasable (keeps : ctx.KeepsDigits) (projected : before.Projected)
    (booked : Booked (Releasable ctx) before) (step : Rebooked ctx before call after) :
    Booked (Releasable ctx) after := by
  refine step.keeps projected booked (fun _ _ _ _ fine move => move.releasable fine) ?_
  intro orderId runId poolId intent spec snapshot envelope position portfolio now reservation amounts checked
    built _
  obtain ⟨original, -, booked, released⟩ := ReservedAmounts.build_ok built
  refine ⟨released, ?_⟩
  -- The amount is the rounded notional of the order, so it fits.
  have rounded := (pretradeCheck_ok checked).2.1
  have positive := amounts.original_pos
  rw [original, rounded, mul, round_pos_iff keeps] at positive
  have fits := fits_round keeps positive
  simp only [heldReservation, original, booked]
  rw [sub, sub_zero, rounded]
  exact fits

theorem Reachable.releasable (keeps : ctx.KeepsDigits) (reachable : Reachable ctx state) :
    Booked (Releasable ctx) state :=
  reachable.rule (Booked (Releasable ctx)) booked_empty fun _ call _ _ projected booked effect =>
    effect.rebooks projected booked (fun _ step => step.releasable keeps projected booked)
      fun _ _ held kept step => (step call).releasable keeps held kept

theorem Releasable.cancels (releasable : Releasable ctx order reservation)
    (open' : order.finalState ≠ .cancelled) :
    ∃ amounts, cancelledAmounts ctx reservation.amounts = .ok amounts := by
  obtain ⟨_, exactly⟩ := releasable open'
  have conserved := reservation.amounts.conserved
  rw [cancelledAmounts, exactly, build_iff]
  refine ⟨reservation.amounts.original_pos, ⟨le_rfl, reservation.amounts.nonneg.2.1, ?_⟩, by ring⟩
  linarith [reservation.amounts.nonneg.1]

/-- What a stop needs of the tables it starts from, and keeps. -/
structure Stoppable (ctx : DecimalContext) (state : PaperState) : Prop where
  projected : state.Projected
  grounded : Grounded state
  owned : AllOwned state
  named : OrdersNamed state
  booked : Booked (Releasable ctx) state

theorem Reachable.stoppable (keeps : ctx.KeepsDigits) (reachable : Reachable ctx state) :
    Stoppable ctx state where
  projected := reachable.projected
  grounded := reachable.grounded
  owned := reachable.owned
  named := reachable.ordersNamed
  booked := reachable.releasable keeps

theorem Aftermath.stoppable (keeps : ctx.KeepsDigits) (stoppable : Stoppable ctx before)
    (step : Aftermath ctx actor latchId before after) : Stoppable ctx after where
  projected := step.projected stoppable.projected
  grounded := step.grounded stoppable.grounded
  owned := stoppable.owned.step ctx step.evolves
    fun _ member => (step.orders stoppable.projected member).imp_right .inl
  named := by
    intro order member
    rcases step.orders stoppable.projected member with older | ⟨old, held, move⟩
    · exact stoppable.named order older
    · rw [move.sameTerms]
      exact stoppable.named old held
  booked := by
    have restarts : Rebooked ctx before ⟨actor, ⟨0, 0, id, fun _ => 0, fun _ => ""⟩, .restart "" ""⟩
        after := step.rebooked
    exact restarts.releasable keeps stoppable.projected stoppable.booked

/-- The operation keys of the loops. -/
def cancelKey (latchId orderId : String) : String := s!"safety-latch-cancel:{latchId}:{orderId}"

def fenceKey (latchId runId : String) : String := s!"safety-latch-fence:{latchId}:{runId}"

theorem cancelKey_inj : cancelKey latchId first = cancelKey latchId second ↔ first = second := by
  unfold cancelKey
  exact String.append_right_inj _

theorem fenceKey_inj : fenceKey latchId first = fenceKey latchId second ↔ first = second := by
  unfold fenceKey
  exact String.append_right_inj _

theorem cancelKey_ne_fenceKey (orderId runId : String) :
    cancelKey latchId orderId ≠ fenceKey latchId runId := by
  intro same
  have texts : ("safety-latch-cancel:" ++ latchId ++ ":" ++ orderId).toList =
      ("safety-latch-fence:" ++ latchId ++ ":" ++ runId).toList := congrArg String.toList same
  simp only [String.toList_append, append_assoc] at texts
  have fourteenth := congrArg (fun letters => letters[13]?) texts
  rw [getElem?_append_left (by decide), getElem?_append_left (by decide)] at fourteenth
  revert fourteenth
  decide

theorem transition_logs (versioned : state.store.Versioned)
    (permitted : capability ∈ actor.role.capabilities)
    (named : transitionRequest.kind ≠ "" ∧ transitionRequest.aggregateId ≠ "" ∧
      transitionRequest.taskId ≠ "" ∧ transitionRequest.policyVersion ≠ "")
    (current : transitionRequest.expectedVersion =
      state.store.version transitionRequest.kind transitionRequest.aggregateId)
    (bare : transitionRequest.evidenceIds = [] ∧ transitionRequest.artifactIds = [])
    (unused : operationKey ∉ state.store.keys) :
    state.transition actor capability operationKey transitionRequest topic =
      .ok (state.logged operationKey transitionRequest topic) := by
  rw [PaperState.transition, transition_at_current versioned permitted named current bare.1
    (by simp [bare.2]), if_neg unused]
  rfl

theorem mem_covered_ids (orderIds : KeyedRows.Distinct paperOrderId state.orders)
    (member : order ∈ state.orders) :
    order.paperOrderId ∈ (state.coveredOrders scope scopeId).map paperOrderId ↔
      order.covered scope scopeId = true := by
  rw [mem_map]
  constructor
  · rintro ⟨_, listed, same⟩
    obtain ⟨held, covered⟩ := mem_filter.mp listed
    have first := find_of_mem orderIds member
    have second := find_of_mem orderIds held
    rw [same, first] at second
    exact Option.some.inj second ▸ covered
  · exact fun covered => ⟨order, mem_filter.mpr ⟨member, covered⟩, rfl⟩

section Commits

variable (semantics : String → VenueSemantics) (latchId : String)
  (permitted : Capability.stop ∈ actor.role.capabilities)
include permitted

theorem Stoppable.cancels (stoppable : Stoppable ctx before)
    (found : before.findOrder order.paperOrderId = some order)
    (open' : order.finalState ≠ .cancelled)
    (unused : cancelKey latchId order.paperOrderId ∉ before.store.keys) :
    ∃ request amounts, cancelUnderTrigger ctx semantics actor latchId before order =
      .ok ((before.logged (cancelKey latchId order.paperOrderId) request "paper.order").postCancel
        order amounts) := by
  have member : order ∈ before.orders := find_mem found
  obtain ⟨reservation, reserved, releasable⟩ := stoppable.booked.booked order member
  obtain ⟨amounts, released⟩ := releasable.cancels open'
  obtain ⟨current, read⟩ := Option.isSome_iff_exists.mp (stoppable.grounded.orders order member)
  obtain ⟨run, owner⟩ := stoppable.owned order member
  obtain ⟨runNamed, versioned, -⟩ := stoppable.grounded.runs run (find_mem owner)
  have owns : run.paperRunId = order.paperRunId := find_key owner
  have held : before.reservations.filter (fun row => row.reservationId = order.reservationId) =
      [reservation] := by
    have one := filter_of_mem stoppable.booked.distinct (find_mem reserved)
    rwa [find_key reserved] at one
  have reservationPasses : restrictSafetyMutation actor ReservationReduced
      (before.reservations.filter fun row => row.reservationId = order.reservationId)
      (RiskReservation.releaseWorking amounts) = .ok () := by
    refine restrictSafetyMutation_passes fun row listed => ?_
    rw [held, mem_singleton] at listed
    rw [listed]
    exact reservationReduced_release (releasable open').1 released
  have orderPasses : restrictSafetyMutation actor OrderReduced
      ((before.orders.filter fun row => row.paperOrderId = order.paperOrderId).map fun row =>
        (row, semantics row.paperOrderId)) (cancelRow latchId) = .ok () :=
    restrictSafetyMutation_passes fun row _ => orderReduced_cancelRow row
  have moved : before.transition actor .stop (cancelKey latchId order.paperOrderId)
      (latchCancelRequest actor latchId order run.policyVersion current) "paper.order" =
        .ok (before.logged (cancelKey latchId order.paperOrderId)
          (latchCancelRequest actor latchId order run.policyVersion current) "paper.order") := by
    have kind : "paper_order" ≠ "" := by decide
    have task : order.paperRunId ≠ "" := owns ▸ runNamed
    refine transition_logs stoppable.projected.versioned permitted ?_ ?_ ⟨rfl, rfl⟩ unused
    · exact ⟨kind, stoppable.named order member, task, versioned⟩
    · exact version_of_state read
  refine ⟨latchCancelRequest actor latchId order run.policyVersion current, amounts, ?_⟩
  simp only [cancelUnderTrigger, cancelForSafetyLatch, bind_ok, expect_ok]
  refine ⟨reservation, reserved, amounts, released, (), reservationPasses, (), orderPasses, reservation,
    reserved, amounts, released, current, ?_, run.policyVersion, ?_, _, moved, rfl⟩
  · rw [PaperState.aggregate, read]
    rfl
  · rw [PaperState.runPolicy, owner]
    rfl

theorem Stoppable.fences {run : PaperRun} (stoppable : Stoppable ctx before)
    (listed : ∃ row ∈ before.runs, run.names = row.names)
    (unused : fenceKey latchId run.paperRunId ∉ before.store.keys) :
    ∃ request, fenceUnderTrigger actor latchId before run =
      .ok ((before.logged (fenceKey latchId run.paperRunId) request "paper.reconcile").updateRun
        run.paperRunId fun row => { row with status := .reconcileOnly }) := by
  obtain ⟨row, member, same⟩ := listed
  obtain ⟨id, policy⟩ := Prod.mk.inj same
  obtain ⟨runNamed, versioned, present⟩ := stoppable.grounded.runs row member
  rw [← id] at runNamed present
  rw [← policy] at versioned
  obtain ⟨current, read⟩ := Option.isSome_iff_exists.mp present
  have moved : before.transition actor .stop (fenceKey latchId run.paperRunId)
      (fencedRequest actor latchId run current) "paper.reconcile" =
        .ok (before.logged (fenceKey latchId run.paperRunId) (fencedRequest actor latchId run current)
          "paper.reconcile") := by
    have kind : "paper_run" ≠ "" := by decide
    refine transition_logs stoppable.projected.versioned permitted ?_ ?_ ⟨rfl, rfl⟩ unused
    · exact ⟨kind, runNamed, runNamed, versioned⟩
    · exact version_of_state read
  refine ⟨fencedRequest actor latchId run current, ?_⟩
  simp only [fenceUnderTrigger, fenceRun, bind_ok]
  refine ⟨(), ?_, current, ?_, _, moved, rfl⟩
  · exact restrictSafetyMutation_passes fun row _ => runReduced_fence row
  · rw [PaperState.aggregate, read]
    rfl

/-- The loop over the orders of a stop goes through and cancels just these orders. -/
theorem Stoppable.cancels_all (keeps : ctx.KeepsDigits) {orders : List PaperOrder}
    (stoppable : Stoppable ctx before)
    (current : ∀ order ∈ orders, before.findOrder order.paperOrderId = some order)
    (distinct : KeyedRows.Distinct paperOrderId orders)
    (listed : ∀ order ∈ orders,
      order.finalState ∈ [OrderState.acknowledged, .partiallyFilled, .amended, .cancelPending])
    (unused : ∀ order ∈ orders, cancelKey latchId order.paperOrderId ∉ before.store.keys) :
    ∃ after, orders.foldlM (cancelUnderTrigger ctx semantics actor latchId) before = .ok after ∧
      Stoppable ctx after ∧ after.runs = before.runs ∧ Unfilled before after ∧
      after.orders = before.orders.map (fun row =>
        if row.paperOrderId ∈ orders.map paperOrderId then row.cancel else row) ∧
      ∀ key ∈ after.store.keys, key ∈ before.store.keys ∨
        ∃ order ∈ orders, key = cancelKey latchId order.paperOrderId := by
  induction orders generalizing before with
  | nil =>
    refine ⟨before, rfl, stoppable, rfl, ⟨rfl, rfl, rfl⟩, ?_, fun key held => .inl held⟩
    simp
  | cons order orders ih =>
    obtain ⟨apart, distinct⟩ := nodup_cons.mp distinct
    have working := listed order mem_cons_self
    have open' : order.finalState ≠ .cancelled := fun cancelled => by
      rw [cancelled] at working
      exact absurd working (by decide)
    obtain ⟨request, amounts, first⟩ := stoppable.cancels semantics latchId permitted
      (current order mem_cons_self) open' (unused order mem_cons_self)
    obtain ⟨step, sameRuns, updated⟩ := cancelForSafetyLatch_step stoppable.projected
      (current order mem_cons_self) working (cancelUnderTrigger_ok first)
    generalize middled : (before.logged (cancelKey latchId order.paperOrderId) request
      "paper.order").postCancel order amounts = middle at first step sameRuns updated
    have keys : middle.store.keys = before.store.keys ++ [cancelKey latchId order.paperOrderId] := by
      rw [← middled]
      exact keys_append
    have differ : ∀ other ∈ orders, other.paperOrderId ≠ order.paperOrderId := fun other member same =>
      apart (same ▸ mem_map_of_mem member)
    have stays : ∀ other ∈ orders, middle.findOrder other.paperOrderId = some other := by
      intro other member
      rw [PaperState.findOrder, updated, find_update_other ?_ (differ other member)]
      · exact current other (mem_cons_of_mem _ member)
      · exact fun _ named => named
    have fresh : ∀ other ∈ orders, cancelKey latchId other.paperOrderId ∉ middle.store.keys := by
      intro other member
      rw [keys, mem_append, mem_singleton, cancelKey_inj, not_or]
      exact ⟨unused other (mem_cons_of_mem _ member), differ other member⟩
    obtain ⟨after, rest, final, runs, unfilled, cancelled, used⟩ := ih (step.stoppable keeps stoppable)
      stays distinct (fun other member => listed other (mem_cons_of_mem _ member)) fresh
    refine ⟨after, ?_, final, runs.trans sameRuns, ?_, ?_, ?_⟩
    · rw [foldlM_cons, first]
      exact rest
    · exact ⟨unfilled.fills.trans step.unfilled.fills, unfilled.positions.trans step.unfilled.positions,
        unfilled.cash.trans step.unfilled.cash⟩
    · rw [cancelled, updated, KeyedRows.update, map_map]
      refine map_congr_left fun row member => ?_
      simp only [Function.comp_apply, map_cons, mem_cons]
      by_cases same : row.paperOrderId = order.paperOrderId
      · have either : row.paperOrderId = order.paperOrderId ∨
            row.paperOrderId ∈ orders.map paperOrderId := .inl same
        rw [if_pos same, if_pos either]
        split <;> rfl
      · rw [if_neg same]
        simp only [same, false_or]
    · intro key held
      rcases used key held with earlier | ⟨other, member, named⟩
      · rw [keys, mem_append, mem_singleton] at earlier
        rcases earlier with older | newest
        · exact .inl older
        · exact .inr ⟨order, mem_cons_self, newest⟩
      · exact .inr ⟨other, mem_cons_of_mem _ member, named⟩

/-- The loop over the active runs goes through and touches no order. -/
theorem Stoppable.fences_all (keeps : ctx.KeepsDigits) {runs : List PaperRun}
    (stoppable : Stoppable ctx before) (rowed : ∀ run ∈ runs, ∃ row ∈ before.runs, run.names = row.names)
    (distinct : KeyedRows.Distinct PaperRun.paperRunId runs)
    (unused : ∀ run ∈ runs, fenceKey latchId run.paperRunId ∉ before.store.keys) :
    ∃ after, runs.foldlM (fenceUnderTrigger actor latchId) before = .ok after ∧
      after.orders = before.orders ∧ Unfilled before after := by
  induction runs generalizing before with
  | nil => exact ⟨before, rfl, rfl, rfl, rfl, rfl⟩
  | cons run runs ih =>
    obtain ⟨apart, distinct⟩ := nodup_cons.mp distinct
    obtain ⟨request, first⟩ := stoppable.fences latchId permitted (rowed run mem_cons_self)
      (unused run mem_cons_self)
    have present : before.findRun run.paperRunId ≠ none := by
      obtain ⟨row, member, same⟩ := rowed run mem_cons_self
      exact fun missing => find_none.mp missing row member (Prod.mk.inj same).1.symm
    obtain ⟨step, sameOrders, updated⟩ : Aftermath ctx actor latchId before _ ∧ _ ∧ _ :=
      fenceRun_step stoppable.projected present (fenceUnderTrigger_ok first)
    generalize middled : (before.logged (fenceKey latchId run.paperRunId) request
      "paper.reconcile").updateRun run.paperRunId (fun row => { row with status := .reconcileOnly }) =
        middle at first step sameOrders updated
    have keys : middle.store.keys = before.store.keys ++ [fenceKey latchId run.paperRunId] := by
      rw [← middled]
      exact keys_append
    have stays : ∀ other ∈ runs, ∃ row ∈ middle.runs, other.names = row.names := by
      intro other member
      obtain ⟨row, held, same⟩ := rowed other (mem_cons_of_mem _ member)
      have unchanged : ∀ row : PaperRun,
          PaperRun.names { row with status := .reconcileOnly } = row.names := fun _ => rfl
      have again : row.names ∈ middle.runs.map PaperRun.names := by
        rw [updated, map_update _ fun row _ => unchanged row]
        exact mem_map_of_mem held
      obtain ⟨later, present, kept⟩ := mem_map.mp again
      exact ⟨later, present, same.trans kept.symm⟩
    have fresh : ∀ other ∈ runs, fenceKey latchId other.paperRunId ∉ middle.store.keys := by
      intro other member
      rw [keys, mem_append, mem_singleton, fenceKey_inj, not_or]
      exact ⟨unused other (mem_cons_of_mem _ member),
        fun same => apart (same ▸ mem_map_of_mem member)⟩
    obtain ⟨after, rest, orders, unfilled⟩ := ih (step.stoppable keeps stoppable) stays distinct fresh
    refine ⟨after, ?_, orders.trans sameOrders, ?_⟩
    · rw [foldlM_cons, first]
      exact rest
    · exact ⟨unfilled.fills.trans step.unfilled.fills, unfilled.positions.trans step.unfilled.positions,
        unfilled.cash.trans step.unfilled.cash⟩

def PaperState.swept (state : PaperState) (scope : StopScope) (scopeId : Option String) :
    List PaperOrder :=
  state.orders.map fun order => if order.covered scope scopeId then order.cancel else order

/-- Both loops of a stop go through. -/
theorem Stoppable.sweeps (keeps : ctx.KeepsDigits) (stoppable : Stoppable ctx before)
    (scope : StopScope) (scopeId : Option String)
    (cancels : ∀ order ∈ before.orders, cancelKey latchId order.paperOrderId ∉ before.store.keys)
    (fences : ∀ run ∈ before.runs, fenceKey latchId run.paperRunId ∉ before.store.keys) :
    ∃ cleared after,
      (before.coveredOrders scope scopeId).foldlM (cancelUnderTrigger ctx semantics actor latchId)
        before = .ok cleared ∧
      (cleared.runs.filter fun run => run.status = .active).foldlM (fenceUnderTrigger actor latchId)
        cleared = .ok after ∧
      (Unfilled before cleared ∧ cleared.orders = before.swept scope scopeId) ∧
      (Unfilled before after ∧ after.orders = before.swept scope scopeId) := by
  have orderIds := stoppable.projected.orderIds
  have current : ∀ order ∈ before.coveredOrders scope scopeId,
      before.findOrder order.paperOrderId = some order :=
    fun order member => find_of_mem orderIds (mem_of_mem_filter member)
  have distinct : KeyedRows.Distinct PaperOrder.paperOrderId (before.coveredOrders scope scopeId) :=
    orderIds.sublist (filter_sublist.map _)
  have working : ∀ order ∈ before.coveredOrders scope scopeId,
      order.finalState ∈ [OrderState.acknowledged, .partiallyFilled, .amended, .cancelPending] := by
    intro order member
    have covered := (mem_filter.mp member).2
    simp only [PaperOrder.covered, Bool.and_eq_true, decide_eq_true_eq] at covered
    exact covered.1.1
  obtain ⟨cleared, clearing, ready, sameRuns, unfilled, cancelled, used⟩ :=
    stoppable.cancels_all semantics latchId permitted keeps current distinct working
      fun order member => cancels order (mem_of_mem_filter member)
  have orders : cleared.orders = before.swept scope scopeId := by
    rw [cancelled]
    refine map_congr_left fun row member => ?_
    simp only [mem_covered_ids orderIds member]
  have rowed : ∀ run ∈ cleared.runs.filter fun run => run.status = .active,
      ∃ row ∈ cleared.runs, run.names = row.names :=
    fun run member => row_kept (mem_of_mem_filter member)
  have fresh : ∀ run ∈ cleared.runs.filter fun run => run.status = .active,
      fenceKey latchId run.paperRunId ∉ cleared.store.keys := by
    intro run member taken
    rcases used _ taken with earlier | ⟨_, -, named⟩
    · exact fences run (sameRuns ▸ mem_of_mem_filter member) earlier
    · exact cancelKey_ne_fenceKey _ _ named.symm
  obtain ⟨after, fencing, sameOrders, still⟩ := ready.fences_all latchId permitted keeps rowed
    (ready.grounded.runIds.sublist (filter_sublist.map _)) fresh
  exact ⟨cleared, after, clearing, fencing, ⟨unfilled, orders⟩, ⟨still.fills.trans unfilled.fills,
    still.positions.trans unfilled.positions, still.cash.trans unfilled.cash⟩, sameOrders.trans orders⟩

end Commits

/-- `uid` gives a new latch an id of its own: no latch has it, and no operation key
was made of it. -/
structure FreshLatch (state : PaperState) (operationKey latchId : String) : Prop where
  named : latchId ≠ ""
  unseen : state.findLatch latchId = none
  cancels : ∀ order ∈ state.orders, cancelKey latchId order.paperOrderId ∉ operationKey :: state.store.keys
  fences : ∀ run ∈ state.runs, fenceKey latchId run.paperRunId ∉ operationKey :: state.store.keys

def MayStop (actor : Identity) (stopping : StopRequest) : Prop :=
  actor.role = .owner ∨ actor.role = .operator ∨ actor.role = .paper ∧ stopping.automatic = true

theorem MayStop.permitted (may : MayStop actor stopping) :
    Capability.stop ∈ actor.role.capabilities ∧ stopAuthority actor stopping = .ok () := by
  rcases may with owner | operator | ⟨paper, automatic⟩
  · simp [stopAuthority, owner, Role.capabilities, refuseIf]
    rfl
  · simp [stopAuthority, operator, Role.capabilities, refuseIf]
    rfl
  · simp [stopAuthority, paper, automatic, Role.capabilities, refuseIf]
    rfl

/-- The row of a new latch meets the constraints of its table. -/
theorem checkLatch_passes (grounded : Grounded state) (latchId : String)
    (covers : stopping.scope ≠ .strategy)
    (inactive : ∀ latch ∈ state.latches, latch.active → latch.scope = stopping.scope →
      latch.scopeId ≠ stopping.scopeId) :
    checkLatch state.latches (safetyLatch latchId stopping) = .ok () := by
  have identified := stopping.scope_identified
  have shaped : (stopping.scope = .global ∧ stopping.scopeId = none) ∨
      (stopping.scope = .venue ∧ stopping.scopeId ≠ none) := by
    cases scope : stopping.scope with
    | global => exact .inl ⟨rfl, identified.mp scope⟩
    | venue =>
      refine .inr ⟨rfl, fun absent => ?_⟩
      have everywhere := identified.mpr absent
      rw [scope] at everywhere
      cases everywhere
    | strategy => exact absurd scope covers
  refine (refuseIf_bind_of_not (not_not.mpr shaped) _).trans (refuseIf_ok.mpr ?_)
  rintro ⟨other, member, active, (scope : other.scope = stopping.scope),
    (scopeId : other.scopeId.getD "" = stopping.scopeId.getD "")⟩
  refine inactive other member active scope ?_
  -- An empty scope id and a missing one fall together in the index, but not at one scope.
  have theirs := grounded.latches other member
  rw [scope, identified] at theirs
  cases mine : stopping.scopeId with
  | none => exact theirs.mp mine
  | some =>
    cases yours : other.scopeId with
    | none =>
      have absent := theirs.mpr yours
      rw [mine] at absent
      cases absent
    | some =>
      rw [mine, yours] at scopeId
      exact congrArg some scopeId

theorem latchAggregate_named (scope : StopScope) (scopeId : Option String) :
    latchAggregate scope scopeId ≠ "" := by
  unfold latchAggregate
  dsimp only
  split
  · decide
  · intro empty
    have letters : ("VENUE:" ++ scopeId.getD "None").toList = "".toList := congrArg String.toList empty
    rw [String.toList_append] at letters
    have first := congrArg length letters
    rw [length_append] at first
    exact absurd first (by simp)

theorem Reachable.latched (keeps : ctx.KeepsDigits) (reachable : Reachable ctx state)
    (commit : Commit ctx state call answer after) (orders : after.orders = state.orders)
    (reservations : after.reservations = state.reservations) (runs : after.runs = state.runs) :
    Stoppable ctx after where
  projected := commit.projected reachable.projected
  grounded := commit.grounded reachable.grounded
  owned := by
    intro order member
    rw [orders] at member
    rw [PaperState.findRun, runs]
    exact reachable.owned order member
  named := by
    rw [OrdersNamed, orders]
    exact reachable.ordersNamed
  booked := (reachable.releasable keeps).of_same orders reservations

theorem Reachable.stops (keeps : ctx.KeepsDigits) (reachable : Reachable ctx state)
    (semantics : String → VenueSemantics) {readings : Readings}
    (covers : stopping.scope ≠ .strategy) (may : MayStop actor stopping) (named : operationKey ≠ "")
    (unused : operationKey ∉ state.store.keys)
    (inactive : ∀ latch ∈ state.latches, latch.active → latch.scope = stopping.scope →
      latch.scopeId ≠ stopping.scopeId)
    (generated : FreshLatch state operationKey (readings.uid "SLATCH")) :
    ∃ after, emergencyStopUnderTrigger ctx semantics state actor readings stopping operationKey =
        .ok (.id (readings.uid "SLATCH"), after) ∧ Unfilled state after ∧
      after.orders = state.swept stopping.scope stopping.scopeId := by
  obtain ⟨permitted, authority⟩ := may.permitted
  have stoppable := reachable.stoppable keeps
  have unrecorded : state.priorOperation operationKey ["PAPER_GLOBAL_EMERGENCY_STOP"]
      (latchAggregate stopping.scope stopping.scopeId) = .ok none := by
    have missing : state.findEvent operationKey = none := by
      refine find_none.mpr fun event member same => unused ?_
      exact same ▸ mem_map_of_mem member
    rw [PaperState.priorOperation, missing]
  have advanced : state.transition actor .stop operationKey (latchedRequest actor stopping
      (readings.uid "SLATCH") (state.store.version "paper_safety_latch"
        (latchAggregate stopping.scope stopping.scopeId))) "paper.stop" =
      .ok (state.logged operationKey (latchedRequest actor stopping (readings.uid "SLATCH")
        (state.store.version "paper_safety_latch" (latchAggregate stopping.scope stopping.scopeId)))
        "paper.stop") := by
    have kind : "paper_safety_latch" ≠ "" := by decide
    refine transition_logs stoppable.projected.versioned permitted ?_ rfl ⟨rfl, rfl⟩ unused
    exact ⟨kind, latchAggregate_named _ _, generated.named, stopping.named.2⟩
  have commit : Commit ctx state ⟨actor, readings, .emergencyStop stopping operationKey⟩ _ _ :=
    .latched covers inactive generated.unseen unused
  have latched := reachable.latched keeps commit rfl rfl rfl
  have keys : ∀ key, key ∉ operationKey :: state.store.keys → key ∉ (state.logged operationKey
      (latchedRequest actor stopping (readings.uid "SLATCH") (state.store.version "paper_safety_latch"
        (latchAggregate stopping.scope stopping.scopeId))) "paper.stop").store.keys := by
    intro key fresh held
    rw [PaperState.logged, Store.keys_append, mem_append, mem_singleton] at held
    exact fresh (mem_cons.mpr held.symm)
  obtain ⟨cleared, after, clearing, fencing, first, second⟩ :=
    latched.sweeps semantics (readings.uid "SLATCH") permitted keeps stopping.scope stopping.scopeId
      (fun order member => keys _ (generated.cancels order member))
      (fun run member => keys _ (generated.fences run member))
  have accepted := checkLatch_passes reachable.grounded (readings.uid "SLATCH") covers inactive
  have quiet : ¬∃ latch ∈ state.latches, latch.active ∧ latch.scope = stopping.scope ∧
      latch.scopeId = stopping.scopeId := by
    rintro ⟨latch, member, active, scope, scopeId⟩
    exact inactive latch member active scope scopeId
  have outcome : emergencyStopUnderTrigger ctx semantics state actor readings stopping operationKey =
      .ok (.id (readings.uid "SLATCH"), if stopping.scope = .global then after else cleared) := by
    simp only [emergencyStopUnderTrigger, bind_ok]
    refine ⟨(), refuseIf_ok.mpr covers, (), authority, none, unrecorded, ?_⟩
    simp only [bind_ok]
    refine ⟨(), refuseIf_ok.mpr quiet, (), refuseIf_ok.mpr named, _, advanced, (),
      refuseIf_ok.mpr (not_not.mpr generated.unseen), (), accepted, cleared, clearing, ?_⟩
    split
    · rw [bind_ok]
      exact ⟨after, fencing, rfl⟩
    · rfl
  refine ⟨_, outcome, ?_⟩
  split
  · exact ⟨⟨second.1.fills, second.1.positions, second.1.cash⟩, second.2⟩
  · exact ⟨⟨first.1.fills, first.1.positions, first.1.cash⟩, first.2⟩

/-- In every reachable state, for a context that keeps digits, whatever the venue
semantics of the orders hold: a GLOBAL or VENUE stop by an owner, an operator or the
automatic workload, under an unused operation key and with no active latch of its
scope, passes every check. Afterwards the covered orders (working, confirmed by the
venue, in scope and not reduce-only) are CANCELLED with nothing working, every other
order is as before, and so are filled quantities, fills, positions and cash. -/
theorem emergency_stop_succeeds (ctx : DecimalContext) (keeps : ctx.KeepsDigits)
    (calls : List PaperCall) (semantics : String → VenueSemantics) (actor : Identity)
    (readings : Readings) (stopping : StopRequest) (operationKey : String) :
    let state := run (handle ctx) .empty calls
    stopping.scope ≠ .strategy → MayStop actor stopping →
    operationKey ≠ "" → operationKey ∉ state.store.keys →
    (∀ latch ∈ state.latches, latch.active → latch.scope = stopping.scope →
      latch.scopeId ≠ stopping.scopeId) →
    FreshLatch state operationKey (readings.uid "SLATCH") →
    ∃ after, emergencyStopUnderTrigger ctx semantics state actor readings stopping operationKey =
        .ok (.id (readings.uid "SLATCH"), after) ∧
      (∀ order ∈ state.orders, order.covered stopping.scope stopping.scopeId →
        after.findOrder order.paperOrderId = some { order with finalState := .cancelled } ∧
        ∃ reservation, after.findReservation order.reservationId = some reservation ∧
          reservation.amounts.working = 0) ∧
      (∀ order ∈ state.orders, ¬order.covered stopping.scope stopping.scopeId →
        after.findOrder order.paperOrderId = some order) ∧
      after.fills = state.fills ∧ after.positions = state.positions ∧ after.cash = state.cash := by
  intro state covers may named unused inactive generated
  have reachable : Reachable ctx state := ⟨calls, rfl⟩
  obtain ⟨after, outcome, unfilled, swept⟩ :=
    reachable.stops keeps semantics covers may named unused inactive generated
  have answered : handle ctx state ⟨actor, readings, .emergencyStop stopping operationKey⟩ =
      .ok (.id (readings.uid "SLATCH"), after) := emergencyStopUnderTrigger_ok outcome
  have reached : Reachable ctx after := by
    have again := reachable.run [⟨actor, readings, .emergencyStop stopping operationKey⟩]
    rwa [run_cons, next_of_ok answered, run_nil] at again
  have finds : ∀ order ∈ state.orders, after.findOrder order.paperOrderId =
      some (if order.covered stopping.scope stopping.scopeId then order.cancel else order) := by
    intro order member
    rw [PaperState.findOrder, swept, PaperState.swept, find_map,
      find_of_mem reachable.projected.orderIds member]
    · rfl
    · intro row
      split <;> rfl
  refine ⟨after, outcome, fun order member covered => ?_, fun order member uncovered => ?_,
    unfilled.fills, unfilled.positions, unfilled.cash⟩
  · have found := finds order member
    rw [if_pos covered] at found
    obtain ⟨reservation, held, fine⟩ :=
      (reached.booked bookable_booking).booked order.cancel (find_mem found)
    exact ⟨found, reservation, held, fine.cancelled rfl⟩
  · rw [finds order member, if_neg uncovered]

namespace SmallVenue

def halfFilled : List PaperCall :=
  oneDoubtful ++ [byWorker 6 "6" (.recordFill "PORD-4" (fill "first" 12 10 1 price_pos one_lot
    first_named) "USD")]

end SmallVenue

open SmallVenue in
theorem emergency_stop_succeeds_small :
    ∃ after, emergencyStopUnderTrigger prec28 (fun _ => [("reconciliation_reason", "timeout")])
        (run (handle prec28) .empty halfFilled) owner (readings 7 "7") globalStop "estop" =
          .ok (.id "SLATCH-7", after) ∧
      (∀ order ∈ (run (handle prec28) .empty halfFilled).orders, order.covered .global none →
        after.findOrder order.paperOrderId = some { order with finalState := .cancelled }) := by
  obtain ⟨after, outcome, cancelled, -⟩ := emergency_stop_succeeds prec28 prec28_keepsDigits halfFilled
    (fun _ => [("reconciliation_reason", "timeout")]) owner (readings 7 "7") globalStop "estop"
    (by decide) (.inl rfl) (by decide) (by decide +kernel) (by decide +kernel)
    ⟨by decide, by decide +kernel, by decide +kernel, by decide +kernel⟩
  exact ⟨after, outcome, fun order member covered => (cancelled order member covered).1⟩

end Liki.Paper
