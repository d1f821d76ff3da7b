import Liki.Finance.Backtest

/-! What each successful step of the replay does, in any arithmetic. One pass of
the inner loop has five outcomes (`Passed`), a submission one, a bar is a
submission, the passes over what is pending and an observation, and a completed
run is its bars in time order followed by the closing cancellations. Every law of
completed replays is derived from these and from the rule `completed_run`. -/
namespace Liki.Finance
open DecimalArithmetic Checks List DecimalContext Prod

theorem Bar.snapshot_timestamp {bar : Bar} {snapshot : MarketSnapshot}
    (observed : bar.snapshot = .ok snapshot) : snapshot.timestamp = bar.timestamp := by
  unfold Bar.snapshot at observed
  split at observed
  · rename_i quote quoted
    cases observed
    exact (bar.quote_matches snapshot quoted).1
  · split at observed
    · cases observed
      rfl
    · cases observed

/-- What the events of the orders leave alone. -/
def Replay.accounts (replay : Replay) : LedgerState × CostTotals × List (Time × ℚ) :=
  (replay.ledger, replay.costs, replay.curve)

namespace DeterministicBacktest

variable {ctx : DecimalContext} {engine : DeterministicBacktest} {bar : Bar} {snapshot : MarketSnapshot}
  {intent : OrderIntent}

theorem normalize_changes (ok : engine.normalize ctx bar snapshot intent = .ok normalized) :
    normalized = { intent with quantity := normalized.quantity, limitPrice := normalized.limitPrice } ∧
      normalized.quantity = floorToIncrement ctx intent.quantity engine.spec.lotSize ∧
      engine.spec.minQuantity ≤ normalized.quantity := by
  simp only [normalize, bind_ok, guard_ok, pure_ok] at ok
  obtain ⟨_, -, -, -, -, -, -, _, roundedOk, same⟩ := ok
  obtain ⟨whole, enough⟩ := roundedOrder_ok roundedOk
  subst same
  refine ⟨?_, ?_, ?_⟩
  · rfl
  · exact whole
  · exact enough

structure QuoteRules (ctx : DecimalContext) (spec : InstrumentSpec) (intent : OrderIntent)
    (simulated : SimulatedFill) (quantity : ℚ) : Prop where
  banded : violatesBand spec simulated.price = false
  passive : intent.postOnly = true → simulated.role = .maker
  limited : violatesLimit intent simulated.price = false
  certain : simulated.uncertainty = none
  whole : intent.timeInForce = .fok → intent.quantity ≤ quantity
  least : spec.minQuantity ≤ quantity
  notional : spec.minNotional ≤ ctx.mul quantity simulated.price

variable {ledger : LedgerState} {quantity remaining : ℚ} {simulated : SimulatedFill}
  {execution : Execution} {index : ℕ}

theorem allow_iff :
    engine.allow ctx bar snapshot ledger remaining intent = .ok (some (simulated, quantity)) ↔
      validateOrder ctx intent.venueOrder engine.spec bar.openPrice ledger.position = .ok () ∧
        engine.fillModel.simulate ctx intent snapshot = .ok (some simulated) ∧
        quantity = floorToIncrement ctx (min simulated.quantity remaining) engine.spec.lotSize ∧
        QuoteRules ctx engine.spec intent simulated quantity := by
  have taken : ∀ role : LiquidityRole, role ≠ .taker ↔ role = .maker := by
    intro role
    cases role <;> decide
  simp only [allow, bind_ok]
  constructor
  · rintro ⟨⟨⟩, valid, outcome, simulates, ok⟩
    cases outcome with
    | none => simp [pure_ok] at ok
    | some fill =>
      simp only [bind_ok, guard_ok] at ok
      obtain ⟨banded, passive, limited, certain, ok⟩ := ok
      split at ok
      · simp [pure_ok] at ok
      rename_i whole
      split at ok
      · simp [pure_ok] at ok
      rename_i enough
      simp only [pure_ok, Option.some.injEq, mk.injEq] at ok
      obtain ⟨rfl, rfl⟩ := ok
      refine ⟨valid, simulates, rfl, ?_⟩
      exact {
        banded := by simpa using banded
        passive := fun resting => (taken _).mp fun taker => passive ⟨resting, taker⟩
        limited := by simpa using limited
        certain := not_not.mp certain
        whole := fun killed => not_lt.mp fun short => whole ⟨killed, short⟩
        least := not_lt.mp fun small => enough (.inl small)
        notional := not_lt.mp fun small => enough (.inr small) }
  · rintro ⟨valid, simulates, rfl, rules⟩
    refine ⟨(), valid, some simulated, simulates, ?_⟩
    have passive : ¬(intent.postOnly = true ∧ simulated.role = .taker) := by
      rintro ⟨resting, taker⟩
      rw [rules.passive resting] at taker
      cases taker
    simp only [bind_ok, guard_ok]
    refine ⟨by simp [rules.banded], passive, by simp [rules.limited], by simp [rules.certain], ?_⟩
    rw [if_neg fun short => not_lt.mpr (rules.whole short.1) short.2,
      if_neg fun small => small.elim (not_lt.mpr rules.least) (not_lt.mpr rules.notional)]
    rfl

theorem allow_covers
    (ok : engine.allow ctx bar snapshot ledger remaining intent = .ok (some (simulated, quantity))) :
    (∃ executable ≤ intent.quantity, quantity = floorToIncrement ctx executable engine.spec.lotSize) ∧
      engine.spec.minQuantity ≤ quantity ∧
      (intent.timeInForce = .fok → intent.quantity ≤ quantity) := by
  obtain ⟨-, simulates, floored, rules⟩ := allow_iff.mp ok
  obtain ⟨-, ordered⟩ := FillModel.simulate_quantity simulates
  exact ⟨⟨_, (min_le_left _ _).trans ordered, floored⟩, rules.least, rules.whole⟩

theorem execute_posts
    (ok : engine.execute ctx index bar snapshot ledger intent simulated quantity = .ok execution) :
    execution.fill.orderId = intent.clientOrderId ∧ execution.fill.timestamp = bar.timestamp ∧
      execution.fill.quantity = quantity ∧ ledger.apply ctx execution.fill = .ok execution.ledger := by
  simp only [execute, bind_ok, guard_ok, pure_ok] at ok
  obtain ⟨_, -, _, -, -, -, -, _, built, _, applied, rfl⟩ := ok
  obtain ⟨-, -, order, timestamp, -, filled, -⟩ := Fill.build_ok built
  exact ⟨order, timestamp, filled, applied⟩

theorem execute_side
    (ok : engine.execute ctx index bar snapshot ledger intent simulated quantity = .ok execution) :
    execution.fill.side = intent.side := by
  simp only [execute, bind_ok, guard_ok, pure_ok] at ok
  obtain ⟨_, -, _, -, -, -, -, _, built, _, -, rfl⟩ := ok
  exact (Fill.build_ok built).2.2.2.2.1

theorem execute_funded
    (ok : engine.execute ctx index bar snapshot ledger intent simulated quantity = .ok execution)
    (sells : intent.side = .sell) : quantity ≤ ledger.position := by
  simp only [execute, bind_ok, guard_ok, pure_ok] at ok
  obtain ⟨_, -, _, -, -, -, covered, -⟩ := ok
  exact not_lt.mp fun short => covered ⟨sells, short⟩

theorem cancelImmediate_drops (bar : Bar) (replay : Replay)
    (immediate : intent.timeInForce = .ioc ∨ intent.timeInForce = .fok) :
    (cancelImmediate bar replay intent).isPending intent.clientOrderId = false := by
  unfold cancelImmediate
  split
  · simp [Replay.isPending, Replay.drop]
  · rename_i gone
    by_contra pending
    exact gone ⟨by simpa using pending, immediate⟩

theorem executed_fill_keeps_rules (keeps : ctx.KeepsDigits)
    (allows : engine.allow ctx bar snapshot replay.ledger remaining intent =
      .ok (some (simulated, quantity)))
    (executes : engine.execute ctx index bar snapshot replay.ledger intent simulated quantity =
      .ok execution) :
    QuoteRules ctx engine.spec intent simulated quantity ∧
      (intent.timeInForce = .ioc ∨ intent.timeInForce = .fok →
        (cancelImmediate bar (settle ctx bar replay intent execution) intent).isPending
          intent.clientOrderId = false) ∧
      (intent.side = .sell → 0 ≤ execution.ledger.position) := by
  obtain ⟨-, -, floored, rules⟩ := allow_iff.mp allows
  refine ⟨rules, cancelImmediate_drops bar _, fun sells => ?_⟩
  obtain ⟨-, -, filled, applied⟩ := execute_posts executes
  have side : execution.fill.side = .sell := (execute_side executes).trans sells
  have positive : 0 < quantity := filled ▸ execution.fill.quantity_pos
  have fits : ctx.Fits execution.fill.quantity := by
    rw [filled, floored]
    rw [floored] at positive
    exact fits_round keeps ((round_pos_iff keeps _).mp positive)
  obtain ⟨-, _, -, posted⟩ := LedgerState.apply_ok applied
  rw [posted]
  apply (LedgerState.sale_nonneg_iff keeps side fits replay.ledger.position).mpr
  rw [filled]
  exact execute_funded executes sells

def rejected (bar : Bar) (replay : Replay) (orderId : String) (error : FinanceError) : Replay :=
  ({ replay with rejections := replay.rejections ++ [(orderId, error)] }.event orderId bar.timestamp
    .rejected (.refused error)).drop orderId

inductive Passed (ctx : DecimalContext) (engine : DeterministicBacktest) (index : ℕ) (bar : Bar)
    (snapshot : MarketSnapshot) (intent : OrderIntent) : Replay × ℚ → Replay × ℚ → Prop
  | early {state : Replay × ℚ}
      (waits : snapshot.timestamp < intent.submissionTime + engine.fillModel.latency) :
      Passed ctx engine index bar snapshot intent state state
  | unnormalized {replay : Replay} {remaining : ℚ} (error : FinanceError) :
      Passed ctx engine index bar snapshot intent (replay, remaining)
        (rejected bar replay intent.clientOrderId error, remaining)
  | refused {replay : Replay} {remaining : ℚ} {normalized : OrderIntent} (error : FinanceError)
      (normalizes : engine.normalize ctx bar snapshot intent = .ok normalized) :
      Passed ctx engine index bar snapshot intent (replay, remaining)
        (rejected bar (replay.noteNormalized normalized) intent.clientOrderId error, remaining)
  | unfilled {replay : Replay} {remaining : ℚ} {normalized : OrderIntent}
      (normalizes : engine.normalize ctx bar snapshot intent = .ok normalized) :
      Passed ctx engine index bar snapshot intent (replay, remaining)
        (cancelImmediate bar (replay.noteNormalized normalized) normalized, remaining)
  | filled {replay : Replay} {remaining quantity : ℚ} {normalized : OrderIntent}
      {simulated : SimulatedFill} {execution : Execution}
      (due : ¬snapshot.timestamp < intent.submissionTime + engine.fillModel.latency)
      (normalizes : engine.normalize ctx bar snapshot intent = .ok normalized)
      (allows : engine.allow ctx bar snapshot replay.ledger remaining normalized =
        .ok (some (simulated, quantity)))
      (executes : engine.execute ctx index bar snapshot replay.ledger normalized simulated quantity =
        .ok execution) :
      Passed ctx engine index bar snapshot intent (replay, remaining)
        (cancelImmediate bar (settle ctx bar (replay.noteNormalized normalized) normalized execution)
          normalized, ctx.sub remaining quantity)

variable {after state : Replay × ℚ} {past : List Bar} {signal : Option Signal} {strategyId : String}
  {target : Option Target} {observed final : Replay} {future bars : List Bar}
  {proposed : Option OrderIntent}

theorem refuse_ok (ok : refuse bar replay orderId remaining error = .ok after) :
    after = (rejected bar replay orderId error, remaining) := by
  unfold refuse at ok
  split at ok
  · cases ok
  · exact (Except.ok.inj ok).symm

theorem processOrder_ok (ok : engine.processOrder ctx index bar snapshot state intent = .ok after) :
    Passed ctx engine index bar snapshot intent state after := by
  obtain ⟨replay, remaining⟩ := state
  unfold processOrder at ok
  by_cases early : snapshot.timestamp < intent.submissionTime + engine.fillModel.latency
  · simp only [early, ↓reduceIte, Except.ok.injEq] at ok
    exact ok ▸ .early early
  simp only [early, ↓reduceIte] at ok
  cases normalizing : engine.normalize ctx bar snapshot intent with
  | error error =>
    rw [normalizing] at ok
    exact refuse_ok ok ▸ .unnormalized error
  | ok normalized =>
    simp only [normalizing] at ok
    have ledger : (replay.noteNormalized normalized).ledger = replay.ledger := rfl
    rw [ledger] at ok
    cases allowing : engine.allow ctx bar snapshot replay.ledger remaining normalized with
    | error error =>
      rw [allowing] at ok
      exact refuse_ok ok ▸ .refused error normalizing
    | ok allowed =>
      cases allowed with
      | none =>
        simp only [allowing, Except.ok.injEq] at ok
        exact ok ▸ .unfilled normalizing
      | some fill =>
        obtain ⟨simulated, quantity⟩ := fill
        simp only [allowing] at ok
        cases executing : engine.execute ctx index bar snapshot replay.ledger normalized simulated
            quantity with
        | error error =>
          rw [executing] at ok
          exact refuse_ok ok ▸ .refused error normalizing
        | ok execution =>
          simp only [executing, Except.ok.injEq] at ok
          exact ok ▸ .filled early normalizing allowing executing

def opened (replay : Replay) (intent : OrderIntent) : Replay :=
  { replay with orders := replay.orders ++ [⟨intent, .intent, 0, none⟩] }

def awaiting (replay : Replay) (intent : OrderIntent) : Replay :=
  { replay with pending := replay.pending ++ [intent] }

def submitted (bar : Bar) (replay : Replay) (intent : OrderIntent) : Replay :=
  (awaiting ((opened replay intent).event intent.clientOrderId bar.timestamp .intent .none)
    intent).event intent.clientOrderId bar.timestamp .submitted .none

theorem submit_ok {replay after : Replay} {proposed : OrderIntent}
    (ok : submit history bar replay proposed = .ok after) :
    (∀ order ∈ replay.orders, order.orderId ≠ proposed.clientOrderId) ∧
      bar.timestamp ≤ proposed.submissionTime ∧ after = submitted bar replay proposed := by
  unfold submit at ok
  cases validated : proposed.validate with
  | error =>
    rw [validated] at ok
    cases ok
  | ok intent =>
    obtain ⟨rfl, -⟩ := OrderIntent.validate_ok validated
    simp only [validated] at ok
    split at ok
    · cases ok
    rename_i unknown
    split at ok
    · cases ok
    rename_i causal
    refine ⟨?_, ?_, (Except.ok.inj ok).symm⟩
    · simpa using unknown
    · exact not_lt.mp (not_or.mp (not_or.mp causal).2).1

/-- What a bar that does not raise consists of. -/
theorem trade_ok (ok : engine.trade ctx signal target strategyId past bar replay = .ok traded) :
    ∃ proposed after snapshot left,
      engine.propose ctx signal target strategyId past.length (causalHistory past bar.timestamp) bar
        replay = .ok proposed ∧
      submitProposed (causalHistory past bar.timestamp) bar replay proposed = .ok after ∧
      bar.snapshot = .ok snapshot ∧
      after.pending.foldlM (engine.processOrder ctx past.length bar snapshot)
        (after, ctx.mul snapshot.availableQuantity engine.fillModel.participationLimit) =
          .ok (traded, left) := by
  unfold trade at ok
  split at ok
  · cases ok
  dsimp only at ok
  split at ok
  · cases ok
  rename_i proposed proposing
  obtain ⟨after, submission, filling⟩ := bind_ok.mp ok
  unfold fillPending at filling
  split at filling
  · cases filling
  · rename_i snapshot observed
    obtain ⟨⟨_, left⟩, passes, rfl⟩ := map_ok.mp filling
    exact ⟨proposed, after, snapshot, left, proposing, submission, observed, passes⟩

theorem observe_exact (ok : engine.observe ctx bar replay = .ok observed) :
    ∃ independent, independentlyReconcile ctx engine.startingCash replay.ledger.fills bar.close =
        .ok independent ∧
      replay.ledger.position = independent.position ∧
      observed = { replay with
        curve := replay.curve ++ [(bar.timestamp, replay.ledger.equity ctx bar.close)]
        observations := replay.observations ++ [⟨bar.timestamp, bar.close, replay.ledger.cash,
          replay.ledger.position, replay.ledger.equity ctx bar.close, ctx.mul replay.ledger.position bar.close,
          replay.ledger.fees, replay.ledger.otherCosts, independent⟩] } := by
  unfold observe at ok
  dsimp only at ok
  split at ok
  · cases ok
  rename_i independent reconciled
  split at ok
  · cases ok
  rename_i agree
  cases ok
  exact ⟨independent, reconciled, not_not.mp fun differ => agree (.inr (.inl differ)), rfl⟩

theorem observe_ok (ok : engine.observe ctx bar replay = .ok observed) :
    ∃ point row, point.1 = bar.timestamp ∧ Observation.timestamp row = bar.timestamp ∧
      observed = { replay with
        curve := replay.curve ++ [point]
        observations := replay.observations ++ [row] } := by
  obtain ⟨_, -, -, rfl⟩ := observe_exact ok
  exact ⟨_, _, rfl, rfl, rfl⟩

theorem replayBars_cons :
    engine.replayBars ctx signal target strategyId past (bar :: future) replay = .ok final ↔
      ∃ traded, engine.trade ctx signal target strategyId past bar replay = .ok traded ∧
        ∃ observed, engine.observe ctx bar traded = .ok observed ∧
          engine.replayBars ctx signal target strategyId (past ++ [bar]) future observed = .ok final := by
  rw [replayBars, bind_ok]
  simp only [bind_ok]

/-- What every bar of a time-ordered run preserves, the run preserves. -/
theorem replayBars_rule (invariant : List Bar → Replay → Prop)
    (step : ∀ past bar replay traded observed, (∀ earlier ∈ past, earlier.timestamp < bar.timestamp) →
      invariant past replay → engine.trade ctx signal target strategyId past bar replay = .ok traded →
      engine.observe ctx bar traded = .ok observed → invariant (past ++ [bar]) observed)
    (ordered : (past ++ future).Pairwise fun first second => first.timestamp < second.timestamp)
    (start : invariant past replay)
    (ok : engine.replayBars ctx signal target strategyId past future replay = .ok final) :
    invariant (past ++ future) final := by
  induction future generalizing past replay with
  | nil =>
    cases ok
    rwa [append_nil]
  | cons bar _ ih =>
    obtain ⟨traded, trading, observed, observing, rest⟩ := replayBars_cons.mp ok
    have earlier : ∀ earlier ∈ past, earlier.timestamp < bar.timestamp := fun earlier passed =>
      (pairwise_append.mp ordered).2.2 earlier passed bar mem_cons_self
    have next := step past bar replay traded observed earlier start trading observing
    rw [append_cons] at ordered ⊢
    exact ih ordered next rest

theorem mem_sortBars : bar ∈ sortBars bars ↔ bar ∈ bars :=
  (perm_insertionSort _ bars).mem_iff

theorem runIn_ok (ok : engine.runIn ctx bars signal target strategyId = .ok final) :
    ((sortBars bars).Pairwise fun first second => first.timestamp < second.timestamp) ∧
      sortBars bars ≠ [] ∧
      ∃ left, engine.replayBars ctx signal target strategyId [] (sortBars bars)
          (.start engine.startingCash) = .ok left ∧
        final = endReplay (sortBars bars) left := by
  unfold runIn at ok
  dsimp only at ok
  simp only [bind_ok, guard_ok, not_not, pure_ok] at ok
  obtain ⟨-, some, distinct, -, left, replayed, rfl⟩ := ok
  refine ⟨?_, some, left, replayed, rfl⟩
  have sorted : (sortBars bars).Pairwise fun first second => first.timestamp ≤ second.timestamp :=
    pairwise_insertionSort _ bars
  have apart : (sortBars bars).Pairwise fun first second => first.timestamp ≠ second.timestamp :=
    pairwise_map.mp distinct
  exact (sorted.and apart).imp fun both => lt_of_le_of_ne both.1 both.2

theorem cancelImmediate_accounts (replay : Replay) (intent : OrderIntent) :
    (cancelImmediate bar replay intent).accounts = replay.accounts := by
  unfold cancelImmediate
  split
  · rfl
  · rfl

theorem settle_accounts (replay : Replay) (intent : OrderIntent) (execution : Execution) :
    (settle ctx bar replay intent execution).accounts =
      (charge ctx replay intent.clientOrderId execution).accounts := by
  unfold settle
  dsimp only
  split
  · rfl
  · rfl

theorem Passed.accounts (passed : Passed ctx engine index bar snapshot intent state after) :
    after.1.accounts = state.1.accounts ∨
      ∃ normalized simulated quantity execution,
        engine.execute ctx index bar snapshot state.1.ledger normalized simulated quantity =
            .ok execution ∧
          after.1.accounts = (charge ctx state.1 normalized.clientOrderId execution).accounts := by
  cases passed with
  | early => exact .inl rfl
  | unnormalized => exact .inl rfl
  | refused => exact .inl rfl
  | unfilled => exact .inl (cancelImmediate_accounts _ _)
  | filled _ _ _ executes =>
    refine .inr ⟨_, _, _, _, executes, ?_⟩
    rw [cancelImmediate_accounts, settle_accounts]
    rfl

theorem submitProposed_accounts {replay after : Replay}
    (ok : submitProposed history bar replay proposed = .ok after) :
    after.accounts = replay.accounts := by
  cases proposed with
  | none =>
    cases ok
    rfl
  | some =>
    obtain ⟨-, -, rfl⟩ := submit_ok ok
    rfl

theorem trade_accounts (holds : LedgerState × CostTotals × List (Time × ℚ) → Prop)
    (posts : ∀ (replay : Replay) orderId snapshot intent simulated quantity execution,
      bar.snapshot = .ok snapshot → holds replay.accounts →
      engine.execute ctx past.length bar snapshot replay.ledger intent simulated quantity =
        .ok execution → holds (charge ctx replay orderId execution).accounts)
    (before : holds replay.accounts)
    (ok : engine.trade ctx signal target strategyId past bar replay = .ok traded) :
    holds traded.accounts := by
  obtain ⟨_, _, _, _, -, submission, observed, passes⟩ := trade_ok ok
  refine foldlM_invariant (fun state : Replay × ℚ => holds state.1.accounts) ?_ ?_ passes
  · intro state intent after held processed
    rcases (processOrder_ok processed).accounts with same | ⟨_, _, _, _, executes, same⟩
    · exact same ▸ held
    · exact same ▸ posts _ _ _ _ _ _ _ observed held executes
  · exact submitProposed_accounts submission ▸ before

theorem observe_accounts (ok : engine.observe ctx bar replay = .ok observed) :
    observed.accounts = (replay.ledger, replay.costs,
      replay.curve ++ [(bar.timestamp, replay.ledger.equity ctx bar.close)]) := by
  obtain ⟨_, -, -, rfl⟩ := observe_exact ok
  rfl

theorem endReplay_accounts (ordered : List Bar) (replay : Replay) :
    (endReplay ordered replay).accounts = replay.accounts := by
  unfold endReplay
  split
  · rfl
  · rename_i last _
    generalize replay.pending = waiting
    induction waiting generalizing replay with
    | nil => rfl
    | cons _ _ ih => exact ih _

/-- One pass of the inner loop posts at most one fill, which leaves no negative position if it is a
sale. -/
theorem Passed.posts (keeps : ctx.KeepsDigits)
    (passed : Passed ctx engine index bar snapshot intent state after) :
    after.1.ledger = state.1.ledger ∨
      ∃ fill, after.1.ledger.fills = state.1.ledger.fills ++ [fill] ∧ ctx.Fits fill.quantity ∧
        (fill.side = .sell → 0 ≤ after.1.ledger.position) := by
  cases passed with
  | early => exact .inl rfl
  | unnormalized => exact .inl rfl
  | refused => exact .inl rfl
  | unfilled => exact .inl (congrArg fst (cancelImmediate_accounts _ _))
  | @filled replay _ quantity normalized _ execution _ _ allows executes =>
    obtain ⟨-, -, floored, -⟩ := allow_iff.mp allows
    obtain ⟨-, -, filled, applied⟩ := execute_posts executes
    obtain ⟨-, -, covered⟩ := executed_fill_keeps_rules keeps allows executes
    have ledger : (cancelImmediate bar (settle ctx bar (replay.noteNormalized normalized) normalized
        execution) normalized).ledger = execution.ledger :=
      congrArg fst ((cancelImmediate_accounts _ _).trans (settle_accounts _ _ _))
    refine .inr ⟨execution.fill, ?_, ?_, ?_⟩
    · rw [ledger]
      exact LedgerState.fills_of_apply applied
    · have positive : 0 < quantity := filled ▸ execution.fill.quantity_pos
      rw [filled, floored]
      rw [floored] at positive
      exact fits_round keeps ((round_pos_iff keeps _).mp positive)
    · intro sells
      rw [ledger]
      refine covered ?_
      exact (execute_side executes).symm.trans sells

theorem drop_waiting (replay : Replay) (orderId : String) :
    (replay.drop orderId).pending.length ≤ replay.pending.length := length_filter_le _ _

theorem cancelImmediate_waiting (replay : Replay) (intent : OrderIntent) :
    (cancelImmediate bar replay intent).pending.length ≤ replay.pending.length := by
  unfold cancelImmediate
  split
  · exact drop_waiting _ _
  · exact le_rfl

theorem Passed.waiting (passed : Passed ctx engine index bar snapshot intent state after) :
    after.1.pending.length ≤ state.1.pending.length := by
  cases passed with
  | early => exact le_rfl
  | unnormalized => exact drop_waiting _ _
  | refused => exact drop_waiting _ _
  | unfilled => exact cancelImmediate_waiting _ _
  | filled =>
    refine (cancelImmediate_waiting _ _).trans ?_
    unfold settle
    dsimp only
    split
    · exact drop_waiting _ _
    · simp only [Replay.keep, KeyedRows.update, length_map]
      exact le_rfl

theorem observe_agrees (ok : engine.observe ctx bar replay = .ok observed) :
    ∃ state, FifoState.takeAll ctx (.start engine.startingCash) replay.ledger.fills = .ok state ∧
      replay.ledger.position = ctx.sum (state.lots.map fst) := by
  obtain ⟨_, reconciled, agrees, -⟩ := observe_exact ok
  obtain ⟨state, taken, rfl⟩ := map_ok.mp reconciled
  exact ⟨state, taken, agrees⟩

theorem submission_waiting {target : Target} {replay opened : Replay}
    (waiting : replay.pending.length ≤ 1)
    (proposing : engine.propose ctx none (some target) strategyId index history bar replay = .ok proposed)
    (submission : submitProposed history bar replay proposed = .ok opened) :
    opened.pending.length ≤ 1 ∧ opened.ledger = replay.ledger := by
  cases proposed with
  | none =>
    cases submission
    exact ⟨waiting, rfl⟩
  | some intent =>
    obtain ⟨-, -, rfl⟩ := submit_ok submission
    refine ⟨?_, rfl⟩
    have idle : replay.pending = [] := by
      by_contra busy
      simp [propose, busy, pure_ok] at proposing
    have joined : (submitted bar replay intent).pending = replay.pending ++ [intent] := rfl
    rw [joined, idle]
    exact le_rfl

end DeterministicBacktest

end Liki.Finance
