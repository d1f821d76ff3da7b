import Liki.Finance.BacktestGate
import Liki.Finance.BacktestRounding
import Liki.Library.Increments

/-! Where the profit of a packaged replay comes from, in exact arithmetic. The cost totals are
kept by the order loop and the profit by the ledger; every fill adds the same amounts to both
(`Attributed`), so that what is left before costs is what the fills would have made at the
middle of their quotes. The equity is a path with one step for each quote, and the scenarios
are pieces of it. -/
namespace Liki.Finance.BacktestGate
open DecimalArithmetic Checks DeterministicBacktest List DecimalContext KeyedRows LedgerState Prod Replay

/-- What the fills bought, less what they sold, at a price for each of them. -/
def valued (price : Fill → ℚ) (fills : List Fill) : ℚ :=
  (fills.map fun fill => fill.side.sign * fill.quantity * price fill).sum

@[simp] theorem valued_nil (price : Fill → ℚ) : valued price [] = 0 := rfl

theorem valued_append (price : Fill → ℚ) (fills : List Fill) (fill : Fill) :
    valued price (fills ++ [fill]) = valued price fills + fill.side.sign * fill.quantity * price fill := by
  simp [valued]

/-- The cost totals account for what the ledger charged, and for what the fills paid beyond the
middle of the market at their instants. -/
structure Attributed (mid : Time → ℚ) (cash : ℚ) (ledger : LedgerState) (costs : CostTotals) : Prop where
  fees : ledger.fees = costs.fee
  others : ledger.otherCosts = costs.slippage + costs.impact
  spread : costs.spread =
    valued Fill.price ledger.fills - valued (fun fill => mid fill.timestamp) ledger.fills
  cash : ledger.cash = cash - valued Fill.price ledger.fills - ledger.fees - ledger.otherCosts

theorem attributed_flat (mid : Time → ℚ) (cash : ℚ) : Attributed mid cash (.flat cash) ⟨0, 0, 0, 0⟩ := by
  constructor <;> simp [flat]

theorem Attributed.gross {cash : ℚ} {ledger : LedgerState} {costs : CostTotals}
    (attributed : Attributed mid cash ledger costs) (mark : ℚ) :
    ledger.equity .exact mark - cash + totalCost .exact costs =
      ledger.position * mark - valued (fun fill => mid fill.timestamp) ledger.fills := by
  have total : totalCost .exact costs = costs.fee + costs.spread + costs.slippage + costs.impact := by
    simp [totalCost, add_assoc]
  rw [total, attributed.spread, ← attributed.fees]
  simp only [equity, exact_add, exact_mul]
  rw [attributed.cash, attributed.others]
  ring

section Runs

variable {engine : DeterministicBacktest} {bar : Bar} {snapshot : MarketSnapshot} {mid : Time → ℚ}
  {cash : ℚ}

/-- The costs that a fill of the replay adds to the totals are those it posts to the ledger. -/
theorem Attributed.execute {replay : Replay}
    (attributed : Attributed mid cash replay.ledger replay.costs) (orderId : String)
    (quoted : (snapshot.bid + snapshot.ask) / 2 = mid bar.timestamp)
    (ok : engine.execute .exact index bar snapshot replay.ledger intent simulated quantity =
      .ok execution) :
    Attributed mid cash execution.ledger (charge .exact replay orderId execution).costs := by
  simp only [DeterministicBacktest.execute, bind_ok, guard_ok, pure_ok] at ok
  obtain ⟨_, -, _, -, -, -, -, _, built, _, applied, rfl⟩ := ok
  obtain ⟨-, -, -, timestamp, side, filled, price, charged, costs⟩ := Fill.build_ok built
  obtain ⟨-, _, collected, rfl⟩ := apply_ok applied
  have amount := additiveCosts_ok collected
  rw [costs, exact_sum] at amount
  simp only [additiveAmounts, isAdditive, CostComponent.additive,
    decide_true, filter_cons_of_pos, filter_nil, map_cons, map_nil, sum_cons,
    sum_nil, add_zero] at amount
  constructor
  · simp [post, charge, attributed.fees]
  · simp only [post, charge, exact_add, attributed.others, amount]
    ring
  · simp only [post, charge, exact_add, exact_mul,
      exact_sub, exact_div, attributed.spread, valued_append, timestamp,
      side, filled, price, quoted]
    ring
  · simp only [post, cashAfter, signedQuantity,
      exact_add, exact_mul, exact_sub, attributed.cash,
      valued_append, charged]
    ring

structure Tracked (mid : Time → ℚ) (cash : ℚ) (past : List Bar) (replay : Replay) : Prop where
  attributed : Attributed mid cash replay.ledger replay.costs
  dated : ∀ fill ∈ replay.ledger.fills, ∃ bar ∈ past, bar.timestamp = fill.timestamp
  points : replay.curve.length = past.length
  last : ∀ bar ∈ past.getLast?,
    replay.curve.getLast? = some (bar.timestamp, replay.ledger.equity .exact bar.close)

/-- The bars are made of quotes with these middles. -/
def Quoted (mid : Time → ℚ) (bars : List Bar) : Prop :=
  ∀ bar ∈ bars, ∀ snapshot, bar.snapshot = .ok snapshot →
    (snapshot.bid + snapshot.ask) / 2 = mid bar.timestamp

variable {past : List Bar} {signal : Option Signal} {strategyId : String} {target : Option Target}

theorem Tracked.step {replay traded observed : Replay} (quoted : Quoted mid [bar])
    (tracked : Tracked mid cash past replay)
    (trading : engine.trade .exact signal target strategyId past bar replay = .ok traded)
    (observing : engine.observe .exact bar traded = .ok observed) :
    Tracked mid cash (past ++ [bar]) observed := by
  let holds : LedgerState × CostTotals × List (Time × ℚ) → Prop := fun accounts =>
    Attributed mid cash accounts.1 accounts.2.1 ∧
      (∀ fill ∈ accounts.1.fills, ∃ earlier ∈ past ++ [bar], earlier.timestamp = fill.timestamp) ∧
      accounts.2.2 = replay.curve
  have before : holds replay.accounts := by
    refine ⟨tracked.attributed, ?_, rfl⟩
    intro fill member
    obtain ⟨earlier, passed, same⟩ := tracked.dated fill member
    exact ⟨earlier, mem_append_left _ passed, same⟩
  have after : holds traded.accounts := by
    refine trade_accounts holds ?_ before trading
    rintro replay orderId snapshot intent simulated quantity execution shown
      ⟨attributed, dated, curve⟩ executes
    have quotedHere := quoted bar mem_cons_self snapshot shown
    refine ⟨attributed.execute orderId quotedHere executes, ?_, curve⟩
    obtain ⟨-, timestamp, -, applied⟩ := execute_posts executes
    have posted : (charge .exact replay orderId execution).ledger.fills =
        replay.ledger.fills ++ [execution.fill] := fills_of_apply applied
    intro fill member
    rw [Replay.accounts, posted] at member
    rcases mem_added member with older | newest
    · exact dated fill older
    · rw [newest]
      exact ⟨bar, by simp, timestamp.symm⟩
  obtain ⟨attributed, dated, curve⟩ := after
  have accounts := observe_accounts observing
  simp only [Replay.accounts, Prod.mk.injEq] at accounts curve
  obtain ⟨ledger, costs, grown⟩ := accounts
  rw [curve] at grown
  constructor
  · rw [ledger, costs]
    exact attributed
  · rw [ledger]
    exact dated
  · rw [grown, length_append, length_append, tracked.points]
    rfl
  · intro last final
    rw [getLast?_append, getLast?_singleton, Option.some_or, Option.mem_some_iff] at final
    subst final
    rw [grown, ledger, getLast?_append, getLast?_singleton, Option.some_or]

theorem Tracked.same {replay after : Replay} (tracked : Tracked mid cash past replay)
    (same : after.accounts = replay.accounts) : Tracked mid cash past after := by
  simp only [accounts, Prod.mk.injEq] at same
  obtain ⟨ledger, costs, curve⟩ := same
  constructor
  · rw [ledger, costs]
    exact tracked.attributed
  · rw [ledger]
    exact tracked.dated
  · rw [curve]
    exact tracked.points
  · rw [curve, ledger]
    exact tracked.last

theorem runIn_tracked (quoted : Quoted mid bars)
    (ok : engine.runIn .exact bars signal target strategyId = .ok result) :
    Tracked mid engine.startingCash (sortBars bars) result := by
  obtain ⟨ordered, -, left, replayed, rfl⟩ := runIn_ok ok
  have start : Tracked mid engine.startingCash [] (.start engine.startingCash) := by
    refine ⟨attributed_flat mid _, ?_, rfl, ?_⟩
    · simp [start, flat]
    · simp
  have tracked : Quoted mid (sortBars bars) → Tracked mid engine.startingCash (sortBars bars) left := by
    refine replayBars_rule (fun past replay => Quoted mid past → Tracked mid engine.startingCash past replay)
      ?_ ordered (fun _ => start) replayed
    intro past bar replay traded observed _ tracked trading observing quoted
    have earlier := tracked fun other member => quoted other (mem_append_left _ member)
    exact earlier.step (fun other member => quoted other (mem_append_right _ member)) trading observing
  exact (tracked fun bar member => quoted bar (mem_sortBars.mp member)).same (endReplay_accounts _ _)

end Runs

section Slices

variable {quotes : List QuoteObservation} {window : ScenarioWindow} {equity : List ℚ}
  {first last : ℕ}

/-- The tape is in strict time order. -/
def Chronological (quotes : List QuoteObservation) : Prop :=
  (quotes.map QuoteObservation.timestamp).Pairwise (· < ·)

def coversStep (quotes : List QuoteObservation) (window : ScenarioWindow) (step : ℕ) : Bool :=
  (quotes[step]?).any fun quote => window.covers quote.timestamp

/-- The equity before a step, which is the starting cash at first. -/
def equityBefore (equity : List ℚ) (step : ℕ) : ℚ := (equity[step]?).getD 0

theorem getElem?_equity (inside : step < equity.length) :
    equity[step]? = some (equityBefore equity step) := by
  rw [equityBefore, getElem?_eq_getElem inside]
  rfl

theorem covers_iff :
    window.covers instant = true ↔ window.start ≤ instant ∧ instant < window.stop := by
  simp [ScenarioWindow.covers]

theorem coversStep_iff :
    coversStep quotes window step = true ↔
      ∃ quote, quotes[step]? = some quote ∧ window.covers quote.timestamp = true := by
  simp [coversStep, Option.any_eq_true]

theorem mem_indices : step ∈ indices quotes window ↔ coversStep quotes window step = true := by
  rw [coversStep_iff, indices]
  simp only [mem_map, mem_filter, mem_zipIdx_iff_getElem?, Prod.exists]
  constructor
  · rintro ⟨quote, _, ⟨held, covered⟩, rfl⟩
    exact ⟨quote, held, covered⟩
  · rintro ⟨quote, held, covered⟩
    exact ⟨quote, step, ⟨held, covered⟩, rfl⟩

theorem indices_increasing (quotes : List QuoteObservation) (window : ScenarioWindow) :
    (indices quotes window).Pairwise (· < ·) := by
  have steps : (quotes.zipIdx.map snd).Pairwise (· < ·) := by
    rw [zipIdx_map_snd]
    exact pairwise_lt_range'
  exact steps.sublist (filter_sublist.map snd)

theorem chronological_steps (chronological : Chronological quotes) (ordered : first ≤ second)
    (held : quotes[first]? = some earlier) (next : quotes[second]? = some later) :
    earlier.timestamp ≤ later.timestamp := by
  rcases ordered.eq_or_lt with rfl | before
  · rw [Option.some.inj (held.symm.trans next)]
  · obtain ⟨inside, rfl⟩ := List.getElem?_eq_some_iff.mp held
    obtain ⟨within, rfl⟩ := List.getElem?_eq_some_iff.mp next
    exact (List.pairwise_iff_getElem.mp (List.pairwise_map.mp chronological) first second inside within
      before).le

theorem coversStep_between (chronological : Chronological quotes)
    (opens : coversStep quotes window first = true) (closes : coversStep quotes window last = true)
    (after : first ≤ step) (before : step ≤ last) : coversStep quotes window step = true := by
  obtain ⟨_, openingHeld, opened⟩ := coversStep_iff.mp opens
  obtain ⟨_, closingHeld, closed⟩ := coversStep_iff.mp closes
  have inside : step < quotes.length :=
    before.trans_lt (List.getElem?_eq_some_iff.mp closingHeld).1
  have held : quotes[step]? = some quotes[step] := List.getElem?_eq_getElem inside
  refine coversStep_iff.mpr ⟨quotes[step], held, covers_iff.mpr ⟨?_, ?_⟩⟩
  · exact (covers_iff.mp opened).1.trans (chronological_steps chronological after openingHeld held)
  · exact (chronological_steps chronological before held closingHeld).trans_lt (covers_iff.mp closed).2

theorem coversStep_consecutive (chronological : Chronological quotes)
    (head : (indices quotes window).head? = some first)
    (final : (indices quotes window).getLast? = some last) :
    first ≤ last ∧ last < quotes.length ∧
      ∀ step, (step < quotes.length ∧ coversStep quotes window step = true) ↔ first ≤ step ∧ step ≤ last := by
  have increasing := indices_increasing quotes window
  have least : ∀ step ∈ indices quotes window, first ≤ step := by
    obtain ⟨rest, split⟩ := List.head?_eq_some_iff.mp head
    rw [split] at increasing ⊢
    intro step member
    rcases List.mem_cons.mp member with rfl | later
    · exact le_rfl
    · exact ((List.pairwise_cons.mp increasing).1 step later).le
  have greatest : ∀ step ∈ indices quotes window, step ≤ last := by
    obtain ⟨_, split⟩ := List.getLast?_eq_some_iff.mp final
    rw [split] at increasing ⊢
    intro step member
    rcases mem_added member with earlier | only
    · exact ((List.pairwise_append.mp increasing).2.2 step earlier last (by simp)).le
    · exact only.le
  have opens := mem_indices.mp (List.mem_of_mem_head? head)
  have closes := mem_indices.mp (List.mem_of_getLast? final)
  obtain ⟨_, held, -⟩ := coversStep_iff.mp closes
  have within : last < quotes.length := (List.getElem?_eq_some_iff.mp held).1
  refine ⟨least last (List.mem_of_getLast? final), within, fun step => ?_⟩
  constructor
  · rintro ⟨-, covered⟩
    exact ⟨least step (mem_indices.mpr covered), greatest step (mem_indices.mpr covered)⟩
  · rintro ⟨after, before⟩
    exact ⟨before.trans_lt within, coversStep_between chronological opens closes after before⟩

theorem path_ends (ordered : first ≤ last) (within : last + 1 < equity.length) :
    (path equity first last).head? = some (equityBefore equity first) ∧
      (path equity first last).getLast? = some (equityBefore equity (last + 1)) := by
  have opening : first < equity.length := by omega
  constructor
  · rw [path, head?_drop, getElem?_take, if_pos (by omega), getElem?_equity opening]
  · have some_left : ¬(equity.take (last + 2)).length ≤ first := by
      rw [length_take]
      omega
    rw [path, getLast?_drop, if_neg some_left, getLast?_take, if_neg (by omega),
      show last + 2 - 1 = last + 1 by omega, getElem?_equity within, Option.some_or]

theorem slice_gain (chronological : Chronological quotes)
    (points : equity.length = quotes.length + 1) (ok : slice .exact equity quotes window = .ok part) :
    part.netPnl =
      Increments.pieceGain (equityBefore equity) (coversStep quotes) quotes.length window := by
  simp only [slice, bind_ok, expect_ok, pure_ok] at ok
  obtain ⟨_, head, last, final, _, opens, _, closes, rfl⟩ := ok
  obtain ⟨ordered, _, consecutive⟩ := coversStep_consecutive chronological head final
  have inside : last + 1 < equity.length := by omega
  obtain ⟨opened, closed⟩ := path_ends ordered inside
  rw [Increments.pieceGain_of_consecutive _ _ ordered consecutive]
  rw [opens, Option.some.injEq] at opened
  rw [closes, Option.some.injEq] at closed
  rw [← opened, ← closed]
  rfl

theorem slices_gain {windows : List ScenarioWindow} (chronological : Chronological quotes)
    (points : equity.length = quotes.length + 1)
    (once : ∀ quote ∈ quotes, windows.countP (fun window => window.covers quote.timestamp) = 1)
    (ok : windows.mapM (slice .exact equity quotes) = .ok parts) :
    (parts.map ScenarioSlice.netPnl).sum =
      equityBefore equity quotes.length - equityBefore equity 0 := by
  have gains : parts.map ScenarioSlice.netPnl = windows.map
      (Increments.pieceGain (equityBefore equity) (coversStep quotes) quotes.length) :=
    map_of_mapM (fun window _ part ok => slice_gain chronological points ok) ok
  rw [gains]
  refine Increments.pieces_gain_whole _ _ fun step inside => ?_
  rw [← once quotes[step] (getElem_mem inside)]
  refine countP_congr fun window _ => ?_
  simp [coversStep, getElem?_eq_getElem inside]

end Slices

section Packages

variable {plan : BacktestPlan} {data : QuoteReplayData} {result : Replay} {packaged : Package}
  {bars : List Bar} {ctx : DecimalContext} {mid : Time → ℚ}

theorem bar_ok {quote : QuoteObservation} (ok : quote.bar ctx = .ok bar) :
    bar.timestamp = quote.timestamp ∧ bar.close = quote.mid ctx ∧ bar.snapshot = .ok quote.snapshot := by
  unfold QuoteObservation.bar at ok
  dsimp only at ok
  split at ok
  · cases ok
    exact ⟨rfl, rfl, rfl⟩
  · cases ok

def midAt (quotes : List QuoteObservation) (instant : Time) : ℚ :=
  ((find QuoteObservation.timestamp instant quotes).map (QuoteObservation.mid .exact)).getD 0

theorem midAt_quote (chronological : Chronological quotes) (member : quote ∈ quotes) :
    midAt quotes quote.timestamp = quote.mid .exact := by
  have distinct : KeyedRows.Distinct QuoteObservation.timestamp quotes := chronological.imp ne_of_lt
  rw [midAt, find_of_mem distinct member]
  rfl

theorem runIn_tape {engine : DeterministicBacktest} {target : Option Target}
    (barred : data.quotes.mapM (QuoteObservation.bar .exact) = .ok bars)
    (completed : engine.runIn .exact bars signal target strategyId = .ok result) :
    Tracked (midAt data.quotes) engine.startingCash bars result := by
  have instants : bars.map Bar.timestamp = data.quotes.map QuoteObservation.timestamp :=
    map_of_mapM (fun quote _ bar ok => (bar_ok ok).1) barred
  have sorted : sortBars bars = bars := by
    refine List.Pairwise.insertionSort_eq ?_
    have chronological := data.chronological
    rw [← instants, pairwise_map] at chronological
    exact chronological.imp le_of_lt
  have quoted : Quoted (midAt data.quotes) bars := by
    intro bar member snapshot shown
    obtain ⟨_, held, ok⟩ := mem_of_mapM barred bar member
    obtain ⟨timestamp, -, same⟩ := bar_ok ok
    rw [same, Except.ok.injEq] at shown
    rw [timestamp, midAt_quote data.chronological held, ← shown]
    rfl
  exact sorted ▸ runIn_tracked quoted completed

theorem package_ok (ok : package ctx result plan data = .ok packaged) :
    packaged.costComponents = result.costs ∧
      packaged.grossPnlBeforeExecutionCosts = ctx.add packaged.netPnl (totalCost ctx result.costs) ∧
      (∃ final, (equityPath plan result).getLast? = some final ∧
        packaged.netPnl = ctx.sub final plan.startingCash) ∧
      plan.scenarios.mapM (slice ctx (equityPath plan result) data.quotes) = .ok packaged.scenarioSlices := by
  simp only [package, bind_ok, expect_ok, pure_ok] at ok
  obtain ⟨final, last, ⟨_, _⟩, -, _, -, _, sliced, _, -, rfl⟩ := ok
  exact ⟨rfl, rfl, ⟨final, last, rfl⟩, sliced⟩

theorem equityPath_ends (tracked : Tracked mid plan.startingCash bars result)
    (barred : data.quotes.mapM (QuoteObservation.bar .exact) = .ok bars) :
    (equityPath plan result).length = data.quotes.length + 1 ∧
      equityBefore (equityPath plan result) 0 = plan.startingCash ∧
      (equityPath plan result).getLast? =
        some (equityBefore (equityPath plan result) data.quotes.length) := by
  have many : bars.length = data.quotes.length := by
    have instants : bars.map Bar.timestamp = data.quotes.map QuoteObservation.timestamp :=
      map_of_mapM (fun quote _ bar ok => (bar_ok ok).1) barred
    simpa using congrArg length instants
  have points : (equityPath plan result).length = data.quotes.length + 1 := by
    rw [equityPath, length_cons, length_map, tracked.points, many]
  refine ⟨points, rfl, ?_⟩
  rw [getLast?_eq_getElem?, points, Nat.add_sub_cancel]
  exact getElem?_equity (by omega)

theorem equityPath_last (tracked : Tracked mid plan.startingCash bars result)
    (barred : data.quotes.mapM (QuoteObservation.bar .exact) = .ok bars)
    (final : data.quotes.getLast? = some last) :
    (equityPath plan result).getLast? = some (result.ledger.equity .exact (last.mid .exact)) := by
  have closes : bars.map Bar.close = data.quotes.map (QuoteObservation.mid .exact) :=
    map_of_mapM (fun quote _ bar ok => (bar_ok ok).2.1) barred
  have ends := congrArg getLast? closes
  rw [getLast?_map, getLast?_map, final, Option.map_some, Option.map_eq_some_iff] at ends
  obtain ⟨bar, lastBar, close⟩ := ends
  have mark := tracked.last bar lastBar
  rw [close] at mark
  rw [equityPath, getLast?_cons, getLast?_map, mark]
  rfl

/-- In exact arithmetic, for every completed run over the tape, by any program, and every package of it.
Before execution costs, the profit is what the final position is worth at the last middle, less what the
fills were at the middles of the quotes they happened on. The fees of the ledger are the fee total and
its other costs the slippage and the impact. Where every quote is in one of the scenarios and in no other,
the scenarios share out the net result. -/
theorem package_attributes_profit {engine : DeterministicBacktest} {bars : List Bar}
    {signal : Option Signal} {target : Option Target} {strategyId : String}
    (funded : engine.startingCash = plan.startingCash)
    (barred : data.quotes.mapM (QuoteObservation.bar .exact) = .ok bars)
    (completed : engine.runIn .exact bars signal target strategyId = .ok result)
    (ok : package .exact result plan data = .ok packaged) :
    let ledger := result.ledger
    let costs := packaged.costComponents
    packaged.grossPnlBeforeExecutionCosts =
        packaged.netPnl + (costs.fee + costs.spread + costs.slippage + costs.impact) ∧
      (∃ last, ∃ mid : Time → ℚ, data.quotes.getLast? = some last ∧
        (∀ quote ∈ data.quotes, mid quote.timestamp = (quote.bid + quote.ask) / 2) ∧
        (∀ fill ∈ ledger.fills, ∃ quote ∈ data.quotes, quote.timestamp = fill.timestamp) ∧
        packaged.grossPnlBeforeExecutionCosts = ledger.position * ((last.bid + last.ask) / 2) -
          (ledger.fills.map fun fill => fill.side.sign * fill.quantity * mid fill.timestamp).sum) ∧
      ledger.fees = costs.fee ∧ ledger.otherCosts = costs.slippage + costs.impact ∧
      ((∀ quote ∈ data.quotes,
          plan.scenarios.countP (fun window => window.covers quote.timestamp) = 1) →
        (packaged.scenarioSlices.map ScenarioSlice.netPnl).sum = packaged.netPnl) := by
  intro ledger costs
  have tracked := funded ▸ runIn_tape barred completed
  obtain ⟨same, gross, ⟨_, finalPoint, net⟩, sliced⟩ := package_ok ok
  obtain ⟨points, opens, closes⟩ := equityPath_ends tracked barred
  have kept : costs = result.costs := same
  have fees : ledger.fees = costs.fee := by
    rw [kept]
    exact tracked.attributed.fees
  have others : ledger.otherCosts = costs.slippage + costs.impact := by
    rw [kept]
    exact tracked.attributed.others
  have total : totalCost .exact result.costs = costs.fee + costs.spread + costs.slippage + costs.impact := by
    simp [totalCost, kept, add_assoc]
  refine ⟨?_, ?_, fees, others, ?_⟩
  · rw [gross, total, exact_add]
  · obtain ⟨last, lastQuote⟩ : ∃ last, data.quotes.getLast? = some last := by
      cases ends : data.quotes.getLast? with
      | none =>
        have long := data.quotes_some.1
        rw [getLast?_eq_none_iff.mp ends] at long
        cases long
      | some last => exact ⟨last, rfl⟩
    refine ⟨last, midAt data.quotes, lastQuote, ?_, ?_, ?_⟩
    · exact fun quote member => midAt_quote data.chronological member
    · intro fill member
      obtain ⟨bar, passed, dated⟩ := tracked.dated fill member
      obtain ⟨quote, held, made⟩ := mem_of_mapM barred bar passed
      exact ⟨quote, held, (bar_ok made).1.symm.trans dated⟩
    · rw [equityPath_last tracked barred lastQuote, Option.some.injEq] at finalPoint
      rw [gross, net, ← finalPoint]
      exact tracked.attributed.gross _
  · intro once
    rw [slices_gain data.chronological points once sliced, opens, net]
    rw [closes, Option.some.injEq] at finalPoint
    rw [finalPoint]
    rfl

end Packages

theorem bid_pos : (0 : ℚ) < 99 := by norm_num

theorem ask_pos : (0 : ℚ) < 101 := by norm_num

theorem bid_le_ask : (99 : ℚ) ≤ 101 := by norm_num

theorem three_nonneg : (0 : ℚ) ≤ 3 := by norm_num

def wideQuote (instant : Time) : QuoteObservation :=
  ⟨instant, instant, 99, 101, 3, bid_pos, ask_pos, three_nonneg, bid_le_ask, rfl⟩

def takerFee : KnownFee := ⟨⟨"1", "venue", "BASE-QUOTE", "tier", .taker, 1 / 100, 0, none, "schedule"⟩, 0⟩

theorem taker_fee_some : [takerFee] ≠ [] := cons_ne_nil _ _

theorem three_quotes : 2 ≤ [wideQuote 1, wideQuote 2, wideQuote 3].length ∧
    [wideQuote 1, wideQuote 2, wideQuote 3].length ≤ 10000 := by decide

theorem three_chronological :
    ([wideQuote 1, wideQuote 2, wideQuote 3].map QuoteObservation.timestamp).Pairwise (· < ·) := by
  decide

theorem three_specified : ∀ first ∈ [wideQuote 1, wideQuote 2, wideQuote 3].head?, 0 ≤ first.timestamp := by
  decide

def wideTape : QuoteReplayData :=
  ⟨unitSpec, 0, [takerFee], [wideQuote 1, wideQuote 2, wideQuote 3], taker_fee_some, three_quotes,
    three_chronological, three_specified⟩

theorem nothing_nonneg : (0 : ℚ) ≤ 0 := le_rfl

theorem lookback_one : 1 ≤ 1 ∧ 1 ≤ 10000 := by decide

def holdOne : StrategyProgram := ⟨.buyHold, 1, 1, 0, DeterministicBacktest.unit_pos, lookback_one, nothing_nonneg⟩

theorem early_named : blank "early" = false := by decide

theorem early_ordered : (0 : Time) < 2 := by decide

theorem late_named : blank "late" = false := by decide

theorem late_ordered : (2 : Time) < 4 := by decide

def halves : List ScenarioWindow :=
  [⟨"early", 0, 2, early_named, early_ordered⟩, ⟨"late", 2, 4, late_named, late_ordered⟩]

theorem ten_nonneg : (0 : ℚ) ≤ 10 := by norm_num

theorem estimate_given : blank "estimate" = false := by decide

theorem thousand_pos : (0 : ℚ) < 1000 := by norm_num

theorem tier_given : "tier" ≠ "" := by decide

theorem half_participation : (0 : ℚ) < 2 / 3 ∧ (2 / 3 : ℚ) ≤ 1 := by norm_num

theorem tail_within : (0 : ℚ) < 9 / 10 ∧ (9 / 10 : ℚ) < 1 := by norm_num

theorem halves_some : halves ≠ [] := cons_ne_nil _ _

theorem halves_named : (halves.map ScenarioWindow.name).Nodup := by decide

def widePlan : BacktestPlan where
  candidateArtifactId := "candidate"
  candidateHash := "hash"
  snapshotId := "snapshot"
  datasetArtifactId := "dataset"
  codeHash := "code"
  environmentFingerprint := "environment"
  startingCash := 1000
  accountTier := "tier"
  executionModelVersion := "1"
  participationLimit := 2 / 3
  latencySeconds := 0
  maximumObservationGapSeconds := 1
  costs := ⟨"1", 10, 5, "estimate", ten_nonneg, five_nonneg, estimate_given⟩
  benchmark := holdOne
  tailConfidence := 9 / 10
  scenarios := halves
  cash_pos := thousand_pos
  tier_named := tier_given
  participation := half_participation
  gap_pos := Nat.one_pos
  confidence := tail_within
  scenarios_some := halves_some
  held := rfl
  scenarios_named := halves_named

theorem no_latency : (0 : Duration) ≤ 0 := le_rfl

theorem unit_supported : Supported unitSpec := by decide

def wideEngine : DeterministicBacktest :=
  engine widePlan wideTape (fillModel widePlan 0 no_latency) unit_supported

def inAndOut : Target := fun _ instant => .ok (if instant < 3 then 2 else 0)

def wideBars : List Bar := ((wideTape.quotes.mapM (QuoteObservation.bar .exact)).toOption).getD []

def inAndOutResult : Replay := reached (wideEngine.runIn .exact wideBars none (some inAndOut) "target")

/-- Two units are bought and sold again; the scenarios share out the net loss. -/
theorem in_and_out_attributed :
    inAndOutResult.ledger.fills.map Fill.side = [.buy, .sell] ∧
      ∃ packaged, package .exact inAndOutResult widePlan wideTape = .ok packaged ∧
        packaged.grossPnlBeforeExecutionCosts = 0 ∧
        inAndOutResult.ledger.fees = packaged.costComponents.fee ∧
        (packaged.scenarioSlices.map ScenarioSlice.netPnl).sum = packaged.netPnl := by
  refine ⟨by decide +kernel, ?_⟩
  have barred : wideTape.quotes.mapM (QuoteObservation.bar .exact) = .ok wideBars := by decide +kernel
  have completed : wideEngine.runIn .exact wideBars none (some inAndOut) "target" = .ok inAndOutResult := by
    decide +kernel
  have packs : ((package .exact inAndOutResult widePlan wideTape).map
      Package.grossPnlBeforeExecutionCosts) = .ok 0 := by decide +kernel
  obtain ⟨packaged, ok, gross⟩ := map_ok.mp packs
  obtain ⟨-, -, fees, -, shares⟩ := package_attributes_profit rfl barred completed ok
  exact ⟨packaged, ok, gross, fees, shares (by decide +kernel)⟩

end Liki.Finance.BacktestGate
