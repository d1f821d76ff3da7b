import Liki.Finance.HoldingTimes

/-! What leaves a replay of the protocol other than as a refusal. A caller reports every
`ValueError`, and nothing that arithmetic raises. The replay raises it in four places: in the
division of a price or a quantity by its increment, in the latency, in the instant that an order
is due at, and in a return over an equity of zero. -/
namespace Liki.Finance.BacktestGate
open DecimalArithmetic Checks DeterministicBacktest List

/-- What `check_backtest` turns into a blocked report. -/
def Reported (error : ReplayError) : Prop := ∃ raised, error = .finance raised

@[simp] theorem reported_finance (raised : FinanceError) : Reported (.finance raised) := ⟨raised, rfl⟩

@[simp] theorem not_reported_arithmetic (raised : ArithmeticError) : ¬Reported (.arithmetic raised) := by
  rintro ⟨_, ⟨⟩⟩

section Protocol

variable {plan : BacktestPlan} {data : QuoteReplayData} {strategy : StrategyProgram} {spec : InstrumentSpec}

/-- `%` can write the quotient down. -/
def Divides (value increment : ℚ) : Prop := |(roundDown (value / increment) : ℚ)| < 10 ^ 28

theorem remainder_reports :
    Only Reported ((remainder prec28 value increment).mapError .arithmetic) ↔ Divides value increment := by
  rw [only_mapError, remainder, only_bind, only_guard]
  simp [Divides, prec28]

theorem checkTarget_reports :
    Only Reported (checkTarget prec28 spec item) ↔ Divides item.quantity spec.lotSize := by
  rw [checkTarget, only_bind, remainder_reports]
  simp [only_guard]

theorem checkPrice_reports :
    Only Reported (checkPrice prec28 spec price) ↔ Divides price spec.tickSize := by
  rw [checkPrice, only_bind, remainder_reports]
  simp [only_guard]

theorem checkKnown_reports (previous : Option QuoteObservation) (quote : QuoteObservation) :
    Only Reported (checkKnown plan data previous quote) := by
  unfold checkKnown
  refine only_bind.mpr ⟨only_mapError.mpr fun _ _ => reported_finance _, fun _ _ => ?_⟩
  refine only_bind.mpr ⟨only_mapError.mpr fun _ _ => reported_finance _, fun schedule _ => ?_⟩
  refine only_check.mpr ⟨only_guard.mpr fun _ => reported_finance _, fun _ => ?_⟩
  exact only_guard.mpr fun _ => reported_finance _

/-- The divisions of a quote that the loop gets to: nothing before them is refused. -/
def QuoteDivides (plan : BacktestPlan) (data : QuoteReplayData) (previous : Option QuoteObservation)
    (quote : QuoteObservation) : Prop :=
  checkKnown plan data previous quote = .ok () →
    Divides quote.bid data.instrument.tickSize ∧
      (checkPrice prec28 data.instrument quote.bid = .ok () → Divides quote.ask data.instrument.tickSize)

/-- The same for every quote up to the first that is refused. -/
def QuotesDivide (plan : BacktestPlan) (data : QuoteReplayData) :
    Option QuoteObservation → List QuoteObservation → Prop
  | _, [] => True
  | previous, quote :: rest => QuoteDivides plan data previous quote ∧
      (checkQuote prec28 plan data previous quote = .ok () → QuotesDivide plan data (some quote) rest)

theorem checkQuote_reports :
    Only Reported (checkQuote prec28 plan data previous quote) ↔ QuoteDivides plan data previous quote := by
  rw [checkQuote, only_check, only_check, checkPrice_reports, checkPrice_reports, QuoteDivides]
  exact and_iff_right (checkKnown_reports previous quote)

theorem checkQuotes_reports :
    Only Reported (checkQuotes prec28 plan data previous quotes) ↔ QuotesDivide plan data previous quotes := by
  induction quotes generalizing previous with
  | nil => simp [checkQuotes, QuotesDivide]
  | cons _ _ ih => rw [checkQuotes, only_check, checkQuote_reports, ih, QuotesDivide]

/-- The divisions of the checks that the protocol gets to. -/
def ChecksDivide (plan : BacktestPlan) (data : QuoteReplayData) (strategy : StrategyProgram) : Prop :=
  Divides strategy.quantity data.instrument.lotSize ∧
    (checkTarget prec28 data.instrument strategy = .ok () →
      Divides plan.benchmark.quantity data.instrument.lotSize ∧
        (checkTarget prec28 data.instrument plan.benchmark = .ok () → QuotesDivide plan data none data.quotes))

theorem checkProtocol_reports :
    Only Reported (checkProtocol prec28 plan data strategy) ↔ ChecksDivide plan data strategy := by
  rw [checkProtocol, only_check, only_check, checkTarget_reports, checkTarget_reports, checkQuotes_reports,
    ChecksDivide]

theorem timedelta_ok {seconds : ℕ} :
    timedelta seconds = .ok latency ↔ seconds < 86400 * 10 ^ 9 ∧ latency = 1000000 * seconds := by
  rw [timedelta, bind_ok]
  constructor
  · rintro ⟨⟨⟩, passes, same⟩
    exact ⟨not_le.mp (refuseIf_ok.mp passes), (pure_ok.mp same).symm⟩
  · rintro ⟨short, rfl⟩
    exact ⟨(), refuseIf_ok.mpr (not_le.mpr short), rfl⟩

theorem timedelta_reports {seconds : ℕ} :
    Only Reported ((timedelta seconds).mapError .arithmetic) ↔ seconds < 86400 * 10 ^ 9 := by
  rw [only_mapError, timedelta, only_check, only_guard]
  simp

end Protocol

section Runs

variable {plan : BacktestPlan} {data : QuoteReplayData} {engine : DeterministicBacktest} {bars : List Bar}
  {program : StrategyProgram} {strategyId : String}

/-- No order of the run was submitted too late for its latency. -/
def Punctual (engine : DeterministicBacktest) (ran : Replaying Replay) : Prop :=
  ∀ order ∈ (reached ran).orders, ¬Unreachable engine.fillModel order

theorem runProgram_reports :
    Only Reported (runProgram prec28 engine bars program strategyId) ↔
      Punctual engine (engine.runIn prec28 bars none (some (program.target prec28)) strategyId) := by
  have refusals : Only Reported ((engine.runIn prec28 bars none (some (program.target prec28))
      strategyId).mapError fun raised => .finance raised.1) := only_mapError.mpr fun _ _ => reported_finance _
  rw [runProgram, only_check, only_guard]
  simp [Punctual, refusals]

theorem runProgram_ok :
    runProgram prec28 engine bars program strategyId = .ok result ↔
      Punctual engine (engine.runIn prec28 bars none (some (program.target prec28)) strategyId) ∧
        engine.runIn prec28 bars none (some (program.target prec28)) strategyId = .ok result := by
  rw [runProgram, bind_ok]
  simp [mapError_ok, Punctual]

end Runs

section Packages

variable {ctx : DecimalContext} {plan : BacktestPlan} {data : QuoteReplayData} {result : Replay}

theorem arithmetic_reports {Result : Type} {computation : Except ArithmeticError Result} :
    Only Reported (computation.mapError .arithmetic) ↔ ∃ result, computation = .ok result := by
  rw [only_mapError]
  cases computation with
  | error => simp [Only]
  | ok => simp [Only]

theorem zip_tail_fst {Item : Type} (items : List Item) : (items.zip items.tail).map Prod.fst = items.dropLast := by
  induction items with
  | nil => rfl
  | cons _ items ih =>
    cases items with
    | nil => rfl
    | cons =>
      rw [dropLast_cons_cons, ← ih]
      rfl

theorem simpleReturns_succeed :
    (∃ returns, Metrics.simpleReturns ctx equity = .ok returns) ↔ ∀ value ∈ equity.dropLast, value ≠ 0 := by
  rw [Metrics.simpleReturns, mapM_succeeds_iff, ← zip_tail_fst, forall_mem_map]
  refine forall₂_congr fun both _ => ?_
  unfold Metrics.simpleReturn
  simp only [bind_ok, guard_ok, pure_ok]
  exact exists_and_left.trans (and_iff_left ⟨_, rfl⟩)

def Observed (plan : BacktestPlan) (data : QuoteReplayData) : Prop :=
  ∀ window ∈ plan.scenarios, indices data.quotes window ≠ []

def Endures (plan : BacktestPlan) (result : Replay) : Prop :=
  ∀ value ∈ (equityPath plan result).dropLast, value ≠ 0

theorem slice_succeeds (points : equity.length = data.quotes.length + 1)
    (inside : indices data.quotes window ≠ []) :
    ∃ part, slice ctx equity data.quotes window = .ok part := by
  obtain ⟨first, _, split⟩ := exists_cons_of_ne_nil inside
  have head : (indices data.quotes window).head? = some first := by rw [split, head?_cons]
  have final := getLast?_eq_some_getLast inside
  obtain ⟨ordered, within, -⟩ := coversStep_consecutive data.chronological head final
  have within : (indices data.quotes window).getLast inside + 1 < equity.length := by omega
  obtain ⟨opens, closes⟩ := path_ends ordered within
  simp only [slice, bind_ok, expect_ok, pure_ok]
  exact ⟨_, _, head, _, final, _, opens, _, closes, rfl⟩

theorem slice_reports (points : equity.length = data.quotes.length + 1) :
    Only Reported (slice ctx equity data.quotes window) := by
  by_cases empty : indices data.quotes window = []
  · have refused : slice ctx equity data.quotes window =
        .error (.finance (.unknownContract "predeclared scenario has no observations")) := by
      rw [slice, empty]
      rfl
    rw [refused]
    exact only_error.mpr (reported_finance _)
  · obtain ⟨part, ok⟩ : ∃ part, slice ctx equity data.quotes window = .ok part := slice_succeeds points empty
    rw [ok]
    exact only_ok

theorem slices_succeed (points : equity.length = data.quotes.length + 1) :
    (∃ parts, plan.scenarios.mapM (slice ctx equity data.quotes) = .ok parts) ↔ Observed plan data := by
  rw [mapM_succeeds_iff]
  refine forall₂_congr fun window _ => ⟨?_, slice_succeeds points⟩
  rintro ⟨_, ok⟩ empty
  rw [slice, empty] at ok
  cases ok

theorem censored_succeeds (lots : List Lot) : ∃ holdings, censored data.quotes lots = .ok holdings := by
  obtain ⟨last, final⟩ : ∃ last, data.quotes.getLast? = some last := by
    refine ⟨_, getLast?_eq_some_getLast fun none => ?_⟩
    have long := data.quotes_some.1
    rw [none] at long
    cases long
  refine mapM_succeeds_iff.mpr fun lot _ => ?_
  rw [final]
  exact ⟨_, rfl⟩

/-- A run that matched its sales and has a point for every quote is packaged, unless a window has no
quote or a return has nothing to be relative to. -/
theorem package_outcome {lots : List Lot} {holdings : List Holding}
    (held : result.ledger.fills.foldlM (holdFill ctx) ([], []) = .ok (lots, holdings))
    (points : result.curve.length = data.quotes.length) :
    ((∃ packaged, package ctx result plan data = .ok packaged) ↔ Observed plan data ∧ Endures plan result) ∧
      (Only Reported (package ctx result plan data) ↔ (Observed plan data → Endures plan result)) := by
  have long : (equityPath plan result).length = data.quotes.length + 1 := by
    rw [equityPath, length_cons, length_map, points]
  obtain ⟨final, last⟩ : ∃ final, (equityPath plan result).getLast? = some final :=
    ⟨_, getLast?_eq_some_getLast (cons_ne_nil _ _)⟩
  obtain ⟨unsold, left⟩ : ∃ unsold, censored data.quotes lots = .ok unsold := censored_succeeds lots
  have finds : expect (equityPath plan result).getLast? ReplayError.index = .ok final := expect_ok.mpr last
  have sliced : (∃ parts, plan.scenarios.mapM (slice ctx (equityPath plan result) data.quotes) = .ok parts) ↔
      Observed plan data := slices_succeed long
  have returned : (∃ returns, Metrics.simpleReturns ctx (equityPath plan result) = .ok returns) ↔
      Endures plan result := simpleReturns_succeed
  constructor
  · rw [← sliced, ← returned]
    simp only [package, finds, held, left, ok_bind, bind_ok, mapError_ok, pure_ok]
    constructor
    · rintro ⟨_, parts, slices, returns, simple, -⟩
      exact ⟨⟨parts, slices⟩, returns, simple⟩
    · rintro ⟨⟨parts, slices⟩, returns, simple⟩
      exact ⟨_, parts, slices, returns, simple, rfl⟩
  · simp only [package, finds, held, left, ok_bind, only_bind]
    have reports : Only Reported (plan.scenarios.mapM (slice ctx (equityPath plan result) data.quotes)) :=
      only_mapM fun window _ => slice_reports long
    simp only [reports, arithmetic_reports, returned, only_pure, implies_true, and_true, true_and]
    rw [← sliced]
    exact exists_imp.symm

end Packages

section Replays

variable {plan : BacktestPlan} {data : QuoteReplayData} {strategy : StrategyProgram}

theorem prec28_points {engine : DeterministicBacktest}
    (ok : engine.runIn prec28 bars signal target strategyId = .ok result) :
    result.curve.length = bars.length := by
  obtain ⟨ordered, -, left, replayed, rfl⟩ := runIn_ok ok
  have points : left.curve.length = (sortBars bars).length := by
    refine replayBars_rule (fun past replay => replay.curve.length = past.length) ?_ ordered rfl replayed
    intro past bar replay traded observed _ points trading observing
    have traded : traded.curve = replay.curve :=
      trade_accounts (fun accounts => accounts.2.2 = replay.curve) (fun _ _ _ _ _ _ _ _ same _ => same) rfl
        trading
    have grown := congrArg (fun accounts => accounts.2.2) (observe_accounts observing)
    have grown : observed.curve = _ := grown
    rw [grown, traded, length_append, length_append, points]
    rfl
  have kept : (endReplay (sortBars bars) left).curve = left.curve :=
    congrArg (fun accounts => accounts.2.2) (endReplay_accounts _ _)
  rw [kept, points]
  exact (perm_insertionSort _ bars).length_eq

theorem latency_nonneg (plan : BacktestPlan) : 0 ≤ (1000000 * plan.latencySeconds : Duration) := by
  positivity

def protocolEngine (plan : BacktestPlan) (data : QuoteReplayData) (supported : Supported data.instrument) :
    DeterministicBacktest :=
  engine plan data (fillModel plan (1000000 * plan.latencySeconds) (latency_nonneg plan)) supported

def protocolRun (plan : BacktestPlan) (data : QuoteReplayData) (supported : Supported data.instrument)
    (bars : List Bar) (program : StrategyProgram) (strategyId : String) : Replaying Replay :=
  (protocolEngine plan data supported).runIn prec28 bars none (some (program.target prec28)) strategyId

/-- Nothing that the two runs and their packages get to is undefined. -/
structure RunsDefined (plan : BacktestPlan) (data : QuoteReplayData) (strategy : StrategyProgram)
    (supported : Supported data.instrument) (bars : List Bar) : Prop where
  candidate_punctual : Punctual (protocolEngine plan data supported)
    (protocolRun plan data supported bars strategy "candidate")
  benchmark_punctual : (∃ result, protocolRun plan data supported bars strategy "candidate" = .ok result) →
    Punctual (protocolEngine plan data supported)
      (protocolRun plan data supported bars plan.benchmark "benchmark")
  endure : ∀ candidate benchmark,
    protocolRun plan data supported bars strategy "candidate" = .ok candidate →
    protocolRun plan data supported bars plan.benchmark "benchmark" = .ok benchmark →
    Observed plan data → Endures plan candidate ∧ Endures plan benchmark

def ArithmeticDefined (plan : BacktestPlan) (data : QuoteReplayData) (strategy : StrategyProgram) : Prop :=
  ∀ supported : Supported data.instrument, ChecksDivide plan data strategy ∧
    (checkProtocol prec28 plan data strategy = .ok () → plan.latencySeconds < 86400 * 10 ^ 9 ∧
      ∀ bars, data.quotes.mapM (QuoteObservation.bar prec28) = .ok bars →
        RunsDefined plan data strategy supported bars)

theorem protocolRun_package (barred : data.quotes.mapM (QuoteObservation.bar prec28) = .ok bars)
    (ok : protocolRun plan data supported bars program strategyId = .ok result) :
    ((∃ packaged, package prec28 result plan data = .ok packaged) ↔
        Observed plan data ∧ Endures plan result) ∧
      (Only Reported (package prec28 result plan data) ↔ (Observed plan data → Endures plan result)) := by
  obtain ⟨_, _, held⟩ := runIn_matched prec28_keepsDigits ok
  have instants : bars.map Bar.timestamp = data.quotes.map QuoteObservation.timestamp :=
    map_of_mapM (fun quote _ bar ok => (bar_ok ok).1) barred
  have many : bars.length = data.quotes.length := by simpa using congrArg length instants
  exact package_outcome held ((prec28_points ok).trans many)

theorem packages_report (barred : data.quotes.mapM (QuoteObservation.bar prec28) = .ok bars) :
    Only Reported (do
      let candidate ← runProgram prec28 (protocolEngine plan data supported) bars strategy "candidate"
      let benchmark ← runProgram prec28 (protocolEngine plan data supported) bars plan.benchmark "benchmark"
      let candidate ← package prec28 candidate plan data
      let benchmark ← package prec28 benchmark plan data
      return (⟨candidate, benchmark⟩ : ProtocolReport)) ↔
    RunsDefined plan data strategy supported bars := by
  simp only [only_bind, runProgram_reports, runProgram_ok, only_pure, implies_true, and_true]
  constructor
  · rintro ⟨punctual, after⟩
    refine ⟨punctual, ?_, ?_⟩
    · rintro ⟨result, ran⟩
      exact (after result ⟨punctual, ran⟩).1
    · intro candidate benchmark ran challenged observed
      obtain ⟨candidateOutcome, candidateReports⟩ := protocolRun_package barred ran
      obtain ⟨-, benchmarkReports⟩ := protocolRun_package barred challenged
      obtain ⟨challenger, packaged⟩ := after candidate ⟨punctual, ran⟩
      obtain ⟨first, second⟩ := packaged benchmark ⟨challenger, challenged⟩
      have endures := candidateReports.mp first observed
      obtain ⟨package, ok⟩ := candidateOutcome.mpr ⟨observed, endures⟩
      exact ⟨endures, benchmarkReports.mp (second package ok) observed⟩
  · rintro ⟨punctual, challenger, endure⟩
    refine ⟨punctual, fun candidate ran => ⟨challenger ⟨candidate, ran.2⟩, fun benchmark challenged => ?_⟩⟩
    obtain ⟨-, candidateReports⟩ := protocolRun_package barred ran.2
    obtain ⟨-, benchmarkReports⟩ := protocolRun_package barred challenged.2
    have endures := endure candidate benchmark ran.2 challenged.2
    exact ⟨candidateReports.mpr fun observed => (endures observed).1,
      fun _ _ => benchmarkReports.mpr fun observed => (endures observed).2⟩

end Replays

theorem hundred_pos : (0 : ℚ) < 100 := by norm_num

theorem hundred_one_pos : (0 : ℚ) < 101 := by norm_num

/-- A quote without a spread, for ten units. -/
def flatQuote (instant : Time) (price : ℚ) (positive : 0 < price) : QuoteObservation :=
  ⟨instant, instant, price, price, 10, positive, positive, ten_nonneg, le_refl price, rfl⟩

def riseQuotes : List QuoteObservation :=
  [flatQuote 1 100 hundred_pos, flatQuote 2 101 hundred_one_pos, flatQuote 3 100 hundred_pos,
    flatQuote 4 100 hundred_pos, flatQuote 5 100 hundred_pos]

def freeFee : KnownFee := ⟨⟨"1", "venue", "BASE-QUOTE", "tier", .taker, 0, 0, none, "schedule"⟩, 0⟩

theorem free_fee_some : [freeFee] ≠ [] := cons_ne_nil _ _

theorem rise_length : 2 ≤ riseQuotes.length ∧ riseQuotes.length ≤ 10000 := by decide

theorem rise_chronological : (riseQuotes.map QuoteObservation.timestamp).Pairwise (· < ·) := by decide

theorem rise_specified : ∀ first ∈ riseQuotes.head?, 0 ≤ first.timestamp := by decide

def riseTape : QuoteReplayData :=
  ⟨unitSpec, 0, [freeFee], riseQuotes, free_fee_some, rise_length, rise_chronological, rise_specified⟩

def followRise : StrategyProgram := ⟨.laggedMomentum, 1, 1, 0, unit_pos, lookback_one, nothing_nonneg⟩

theorem whole_named : blank "whole" = false := by decide

theorem whole_ordered : (0 : Time) < 6 := by decide

def wholeTape : List ScenarioWindow := [⟨"whole", 0, 6, whole_named, whole_ordered⟩]

theorem whole_some : wholeTape ≠ [] := cons_ne_nil _ _

theorem whole_distinct : (wholeTape.map ScenarioWindow.name).Nodup := by decide

theorem slippage_nonneg : (0 : ℚ) ≤ 10000 := by norm_num

theorem two_hundred_pos : (0 : ℚ) < 200 := by norm_num

def spendingPlan : BacktestPlan :=
  { widePlan with
    startingCash := 200
    costs := ⟨"1", 10000, 0, "estimate", slippage_nonneg, nothing_nonneg, estimate_given⟩
    scenarios := wholeTape
    cash_pos := two_hundred_pos
    scenarios_some := whole_some
    scenarios_named := whole_distinct }

end Liki.Finance.BacktestGate
