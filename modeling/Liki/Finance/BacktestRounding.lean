import Liki.Finance.BacktestInvariants
import Liki.Finance.BacktestSteps

/-! The replay demands that two independently rounded computations agree to the
last digit. They do whenever rounding is invisible: when every exact result of
posting the fills to the ledger and to the lots, and of marking both, fits the
28 digits kept. An average entry price that does not fit is enough to break the
demand, as the replay at the end shows. -/
namespace Liki.Finance
open DecimalArithmetic TradeAccounts Checks List DecimalContext LedgerState Prod FifoState

variable {ctx : DecimalContext}

namespace LedgerState

def signed (fill : Fill) : ℚ := fill.side.sign * fill.quantity

def entryResults (ledger : LedgerState) (fill : Fill) : List ℚ :=
  let value := |ledger.position| * ledger.averageEntry + fill.quantity * fill.price
  if ledger.extendsPosition .exact fill then
    [|ledger.position| * ledger.averageEntry, fill.quantity * fill.price, value,
      |ledger.position| + fill.quantity, value / (|ledger.position| + fill.quantity)]
  else
    let closed := if ledger.closes .exact fill then |ledger.position| else fill.quantity
    let move := fill.price - ledger.averageEntry
    [move, closed * move, closed * move * ledger.heldSign,
      ledger.realizedPnl + closed * move * ledger.heldSign]

/-- The exact results of posting a fill; the product that decides whether the
position is extended is used for its sign only. -/
def postResults (ledger : LedgerState) (fill : Fill) : List ℚ :=
  let additive := (additiveAmounts fill.costs).sum
  let paid := ledger.cash - signed fill * fill.price
  [signed fill, |ledger.position|, |signed fill|, signed fill * fill.price, paid, paid - fill.fee,
    paid - fill.fee - additive, ledger.position + signed fill, ledger.fees + fill.fee,
    ledger.otherCosts + additive] ++
  DecimalContext.partialSums (additiveAmounts fill.costs) ++ ledger.entryResults fill

/-- The exact results of valuing and reconciling at a mark. -/
def markResults (ledger : LedgerState) (mark : ℚ) : List ℚ :=
  let unrealized := ledger.position * (mark - ledger.averageEntry)
  let profit := ledger.startingCash + ledger.realizedPnl + unrealized
  [ledger.position * mark, ledger.cash + ledger.position * mark, mark - ledger.averageEntry,
    unrealized, ledger.startingCash + ledger.realizedPnl, profit, profit - ledger.fees,
    profit - ledger.fees - ledger.otherCosts]

end LedgerState

namespace FifoState

/-- The exact results of the closing loop, but for realized profit, which is not
compared. -/
def lotResults : ℚ → List FifoLot → List ℚ
  | _, [] => []
  | incoming, (quantity, _) :: rest =>
    if incoming ≠ 0 ∧ quantity * incoming < 0 then
      let closing := min |quantity| |incoming|
      let left := signOf incoming * (|incoming| - closing)
      [|quantity|, |incoming|, |quantity| - closing, |incoming| - closing, left,
        signOf quantity * (|quantity| - closing)] ++
      if |quantity| - closing = 0 then lotResults left rest else []
    else []

def chargeResults (costs : List CostComponent) (cash : ℚ) : List ℚ :=
  (additiveAmounts costs).scanl (· - ·) cash

def takeResults (state : FifoState) (fill : Fill) : List ℚ :=
  let incoming := fill.side.sign * fill.quantity
  [incoming, incoming * fill.price, incoming * fill.price + fill.fee] ++
  chargeResults fill.costs (state.cash - (incoming * fill.price + fill.fee)) ++
  lotResults incoming state.lots

end FifoState

def accountingResults (mark : ℚ) : LedgerState → FifoState → List Fill → List ℚ
  | ledger, state, [] =>
    ledger.markResults mark ++ DecimalContext.partialSums (state.lots.map fst)
  | ledger, state, fill :: fills =>
    ledger.postResults fill ++ state.takeResults fill ++
      match state.take .exact fill with
      | .error _ => []
      | .ok taken => accountingResults mark (ledger.offer .exact fill) taken fills

def RoundingFree (ctx : DecimalContext) (cash : ℚ) (fills : List Fill) (mark : ℚ) : Prop :=
  ∀ result ∈ accountingResults mark (.flat cash) (.start cash) fills, ctx.Fits result

instance (cash : ℚ) (fills : List Fill) (mark : ℚ) : Decidable (RoundingFree ctx cash fills mark) :=
  inferInstanceAs (Decidable (∀ result ∈ _, ctx.Fits result))

namespace LedgerState

variable {ledger : LedgerState} {fill : Fill}

theorem signedQuantity_of_fits (fits : ∀ result ∈ ledger.postResults fill, ctx.Fits result) :
    signedQuantity ctx fill = signedQuantity .exact fill :=
  fits (signed fill) (by simp [postResults])

theorem extendsPosition_of_fits (keeps : ctx.KeepsDigits)
    (fits : ∀ result ∈ ledger.postResults fill, ctx.Fits result) :
    ledger.extendsPosition ctx fill = ledger.extendsPosition .exact fill := by
  unfold extendsPosition
  rw [signedQuantity_of_fits fits]
  have sign : 0 < ctx.mul ledger.position (signedQuantity .exact fill) ↔
      0 < ledger.position * signedQuantity .exact fill := round_pos_iff keeps _
  exact decide_eq_decide.mpr (or_congr Iff.rfl sign)

theorem abs_position_of_fits (fits : ∀ result ∈ ledger.postResults fill, ctx.Fits result) :
    ctx.abs ledger.position = |ledger.position| :=
  fits _ (by simp [postResults])

theorem abs_signed_of_fits (fits : ∀ result ∈ ledger.postResults fill, ctx.Fits result) :
    ctx.abs (signedQuantity ctx fill) = |signedQuantity .exact fill| := by
  rw [signedQuantity_of_fits fits]
  exact fits |signed fill| (by simp [postResults])

theorem closes_of_fits (fits : ∀ result ∈ ledger.postResults fill, ctx.Fits result) :
    ledger.closes ctx fill = ledger.closes .exact fill := by
  unfold closes
  rw [abs_position_of_fits fits, abs_signed_of_fits fits]
  rfl

theorem entryAfter_of_fits (keeps : ctx.KeepsDigits)
    (fits : ∀ result ∈ ledger.postResults fill, ctx.Fits result) :
    ledger.entryAfter ctx fill = ledger.entryAfter .exact fill := by
  have priced : ∀ result ∈ ledger.entryResults fill, ctx.Fits result := fun result member =>
    fits result (by simp [postResults, member])
  unfold entryAfter
  rw [extendsPosition_of_fits keeps fits, closes_of_fits fits, abs_position_of_fits fits,
    abs_signed_of_fits fits]
  by_cases extending : ledger.extendsPosition .exact fill
  · simp only [entryResults, extending, ↓reduceIte, forall_mem_cons] at priced
    obtain ⟨held, paid, value, total, mean, -⟩ := priced
    simp only [extending, ↓reduceIte, DecimalContext.mul_of_fits held,
      DecimalContext.mul_of_fits paid, DecimalContext.add_of_fits value,
      DecimalContext.add_of_fits total, DecimalContext.div_of_fits mean]
    rfl
  · simp only [extending, Bool.false_eq_true, ↓reduceIte]
    rfl

theorem realizedAfter_of_fits (keeps : ctx.KeepsDigits)
    (fits : ∀ result ∈ ledger.postResults fill, ctx.Fits result) :
    ledger.realizedAfter ctx fill = ledger.realizedAfter .exact fill := by
  have priced : ∀ result ∈ ledger.entryResults fill, ctx.Fits result := fun result member =>
    fits result (by simp [postResults, member])
  unfold realizedAfter
  rw [extendsPosition_of_fits keeps fits, closes_of_fits fits, abs_position_of_fits fits]
  by_cases extending : ledger.extendsPosition .exact fill
  · simp only [extending, ↓reduceIte]
  · simp only [entryResults, extending, Bool.false_eq_true, ↓reduceIte, forall_mem_cons] at priced
    obtain ⟨move, gain, signedGain, realized, -⟩ := priced
    by_cases closing : ledger.closes .exact fill
    · simp only [closing, ↓reduceIte] at gain signedGain realized
      simp only [extending, closing, Bool.false_eq_true, ↓reduceIte, pnlOn,
        DecimalContext.sub_of_fits move, DecimalContext.mul_of_fits gain,
        DecimalContext.mul_of_fits signedGain, DecimalContext.add_of_fits realized]
      rfl
    · simp only [closing, Bool.false_eq_true, ↓reduceIte] at gain signedGain realized
      simp only [extending, closing, Bool.false_eq_true, ↓reduceIte, pnlOn,
        DecimalContext.sub_of_fits move, DecimalContext.mul_of_fits gain,
        DecimalContext.mul_of_fits signedGain, DecimalContext.add_of_fits realized]
      rfl

theorem additiveCosts_of_fits (fits : ∀ result ∈ ledger.postResults fill, ctx.Fits result) :
    additiveCosts ctx fill.costs = additiveCosts .exact fill.costs := by
  have partly : ∀ result ∈ DecimalContext.partialSums (additiveAmounts fill.costs),
      ctx.Fits result := fun result member => fits result (by simp [postResults, member])
  unfold additiveCosts
  rw [DecimalContext.sum_of_fits partly, DecimalContext.exact_sum]

theorem apply_of_fits (keeps : ctx.KeepsDigits)
    (fits : ∀ result ∈ ledger.postResults fill, ctx.Fits result) :
    ledger.apply ctx fill = ledger.apply .exact fill := by
  unfold apply
  split
  · rfl
  rw [additiveCosts_of_fits fits]
  cases charged : additiveCosts .exact fill.costs with
  | error => rfl
  | ok =>
    have amount := additiveCosts_ok charged
    rw [DecimalContext.exact_sum] at amount
    subst amount
    have results := fits
    simp only [postResults, cons_append, nil_append, forall_mem_cons] at results
    obtain ⟨-, -, -, notional, paid, afterFee, afterCosts, position, fees, other, -⟩ := results
    have same : signedQuantity ctx fill = signed fill := signedQuantity_of_fits fits
    simp only [Except.map, post, cashAfter, same, entryAfter_of_fits keeps fits,
      realizedAfter_of_fits keeps fits, DecimalContext.mul_of_fits notional,
      DecimalContext.sub_of_fits paid, DecimalContext.sub_of_fits afterFee,
      DecimalContext.sub_of_fits afterCosts, DecimalContext.add_of_fits position,
      DecimalContext.add_of_fits fees, DecimalContext.add_of_fits other]
    rfl

theorem equity_of_fits (fits : ∀ result ∈ ledger.markResults mark, ctx.Fits result) :
    ledger.equity ctx mark = ledger.equity .exact mark := by
  simp only [markResults, forall_mem_cons] at fits
  obtain ⟨value, equity, -⟩ := fits
  simp only [LedgerState.equity, mul_of_fits value, add_of_fits equity]
  rfl

theorem reconcile_of_fits (fits : ∀ result ∈ ledger.markResults mark, ctx.Fits result)
    (balanced : ledger.reconcile .exact mark = 0) : ledger.reconcile ctx mark = 0 := by
  have equity := equity_of_fits fits
  simp only [markResults, forall_mem_cons] at fits
  obtain ⟨-, -, move, unrealized, start, profit, fees, other, -⟩ := fits
  have expected : ledger.expected ctx mark = ledger.expected .exact mark := by
    simp only [expected, unrealizedPnl, sub_of_fits move,
      mul_of_fits unrealized, add_of_fits start,
      add_of_fits profit, sub_of_fits fees,
      sub_of_fits other]
    rfl
  have difference : ledger.equity .exact mark - ledger.expected .exact mark = 0 := balanced
  rw [reconcile, equity, expected, sub, difference]
  exact ctx.fits_zero

end LedgerState

namespace FifoState

/-- The states agree on all that the reference compares. -/
structure SameBook (rounded exactly : FifoState) : Prop where
  cash : rounded.cash = exactly.cash
  lots : rounded.lots = exactly.lots
  seen : rounded.seen = exactly.seen

/-- The closing loop rounds neither the lots nor what is left of the fill. -/
theorem closeLots_of_fits (keeps : ctx.KeepsDigits) (price incoming : ℚ) (lots : List FifoLot)
    (realized realized' : ℚ) (fits : ∀ result ∈ lotResults incoming lots, ctx.Fits result) :
    (closeLots ctx price incoming lots realized).1 = (closeLots .exact price incoming lots realized').1 ∧
      (closeLots ctx price incoming lots realized).2.1 =
        (closeLots .exact price incoming lots realized').2.1 := by
  induction lots generalizing incoming realized realized' with
  | nil => exact ⟨rfl, rfl⟩
  | cons lot _ ih =>
    obtain ⟨quantity, _⟩ := lot
    have sign : ctx.mul quantity incoming < 0 ↔ quantity * incoming < 0 :=
      round_neg_iff keeps _
    by_cases against : incoming ≠ 0 ∧ quantity * incoming < 0
    · have againstRounded : incoming ≠ 0 ∧ ctx.mul quantity incoming < 0 :=
        ⟨against.1, sign.mpr against.2⟩
      simp only [lotResults, against, ne_eq, not_false_eq_true, and_self, ↓reduceIte, cons_append,
        nil_append, forall_mem_cons] at fits
      obtain ⟨lotSize, fillSize, remaining, unfilled, left, survivor, later⟩ := fits
      by_cases exhausted : |quantity| ≤ |incoming|
      · rw [min_eq_left exhausted] at remaining unfilled left
        rw [closeLots_exhausts price realized' against exhausted]
        simp only [closeLots, if_pos againstRounded, abs_of_fits lotSize,
          abs_of_fits fillSize, min_eq_left exhausted,
          sub_of_fits remaining, sub_of_fits unfilled,
          mul_of_fits left, sub_self, ↓reduceIte] at later ⊢
        exact ih _ _ _ later
      · have shorter : |incoming| < |quantity| := not_le.mp exhausted
        have remains : |quantity| - |incoming| ≠ 0 := (sub_pos.mpr shorter).ne'
        rw [min_eq_right shorter.le] at remaining unfilled left survivor
        rw [closeLots_survives price realized' against shorter]
        simp only [closeLots, if_pos againstRounded, abs_of_fits lotSize,
          abs_of_fits fillSize, min_eq_right shorter.le,
          sub_of_fits remaining, sub_of_fits unfilled,
          mul_of_fits survivor, remains, ↓reduceIte]
        rw [mul_of_fits left, sub_self, mul_zero]
        exact ⟨rfl, trivial⟩
    · have joinsRounded : ¬(incoming ≠ 0 ∧ ctx.mul quantity incoming < 0) := fun product =>
        against ⟨product.1, sign.mp product.2⟩
      rw [closeLots_stops price realized' against]
      simp only [closeLots, if_neg joinsRounded]
      exact ⟨trivial, trivial⟩

theorem chargeCosts_of_fits (costs : List CostComponent) (cash other other' : ℚ)
    (fits : ∀ result ∈ chargeResults costs cash, ctx.Fits result) :
    (chargeCosts ctx costs cash other).1 = (chargeCosts .exact costs cash other').1 := by
  induction costs generalizing cash other other' with
  | nil => rfl
  | cons cost costs ih =>
    by_cases additive : cost.treatment = .additive
    · have amounts : additiveAmounts (cost :: costs) =
          cost.amount :: additiveAmounts costs := by
        simp [additiveAmounts, isAdditive, additive]
      have rest : ∀ result ∈ chargeResults costs (cash - cost.amount), ctx.Fits result := by
        intro result member
        refine fits result ?_
        rw [chargeResults, amounts, scanl_cons]
        exact mem_cons_of_mem _ member
      have first : ctx.Fits (cash - cost.amount) := by
        refine rest _ ?_
        unfold chargeResults
        cases additiveAmounts costs <;> simp
      have step := ih (cash - cost.amount) (ctx.add other cost.amount) (other' + cost.amount) rest
      simpa [chargeCosts, additive, sub_of_fits first] using step
    · have amounts : additiveAmounts (cost :: costs) =
          additiveAmounts costs := by
        simp [additiveAmounts, isAdditive, additive]
      rw [chargeResults, amounts] at fits
      simpa [chargeCosts, additive] using ih cash other other' fits

/-- Taking a fill rounds nothing the reference compares. -/
theorem take_of_fits (keeps : ctx.KeepsDigits) (same : SameBook rounded exactly)
    (fits : ∀ result ∈ exactly.takeResults fill, ctx.Fits result)
    (took : exactly.take .exact fill = .ok taken) :
    ∃ takenRounded, rounded.take ctx fill = .ok takenRounded ∧ SameBook takenRounded taken := by
  have charges : ∀ result ∈ chargeResults fill.costs
      (exactly.cash - (fill.side.sign * fill.quantity * fill.price + fill.fee)), ctx.Fits result :=
    fun result member => fits result (by simp [takeResults, member])
  have lots : ∀ result ∈ lotResults (fill.side.sign * fill.quantity) exactly.lots,
      ctx.Fits result := fun result member => fits result (by simp [takeResults, member])
  simp only [takeResults, cons_append, nil_append, forall_mem_cons] at fits
  obtain ⟨incoming, notional, outlay, -⟩ := fits
  have paid : ctx.Fits
      (exactly.cash - (fill.side.sign * fill.quantity * fill.price + fill.fee)) := by
    refine charges _ ?_
    unfold chargeResults
    cases additiveAmounts fill.costs <;> simp
  by_cases duplicate : fill.fillId ∈ exactly.seen
  · simp [take, duplicate] at took
  · simp only [take, duplicate, ↓reduceIte, Except.ok.injEq, exact_mul,
      exact_sub, exact_add] at took
    subst took
    obtain ⟨left, survivors⟩ := closeLots_of_fits keeps fill.price (fill.side.sign * fill.quantity)
      exactly.lots rounded.realized exactly.realized lots
    refine ⟨_, (by simp only [take, same.seen, duplicate, ↓reduceIte]; rfl), ?_, ?_, ?_⟩
    · simp only [same.cash, mul_of_fits incoming, mul_of_fits notional,
        add_of_fits outlay, sub_of_fits paid]
      exact chargeCosts_of_fits fill.costs _ _ _ charges
    · simp only [same.lots, mul_of_fits incoming, left, survivors]
      rfl
    · rfl

end FifoState

def Posted (ctx : DecimalContext) (cash : ℚ) (ledger : LedgerState) : Prop :=
  ledger.fills.foldlM (apply ctx) (flat cash) = .ok ledger

theorem Posted.apply {cash : ℚ} (earlier : Posted ctx cash ledger)
    (ok : ledger.apply ctx fill = .ok posted) : Posted ctx cash posted := by
  unfold Posted at earlier ⊢
  rw [fills_of_apply ok, foldlM_append, earlier]
  simp only [bind, Except.bind, foldlM_cons, foldlM_nil, ok]
  rfl

theorem posting_of_fits {cash mark : ℚ} (keeps : ctx.KeepsDigits) (fills : List Fill)
    (reconciled : Reconciled cash ledger exactly) (same : rounded.SameBook exactly)
    (fits : ∀ result ∈ accountingResults mark ledger exactly fills, ctx.Fits result)
    (posted : fills.foldlM (apply ctx) ledger = .ok final) :
    ∃ taken takenRounded, Reconciled cash final taken ∧
      takeAll ctx rounded fills = .ok takenRounded ∧ takenRounded.SameBook taken ∧
      (∀ result ∈ final.markResults mark, ctx.Fits result) ∧
      ∀ result ∈ DecimalContext.partialSums (taken.lots.map fst), ctx.Fits result := by
  induction fills generalizing ledger rounded exactly with
  | nil =>
    cases posted
    simp only [accountingResults, mem_append] at fits
    exact ⟨exactly, rounded, reconciled, rfl, same, fun result member => fits result (.inl member),
      fun result member => fits result (.inr member)⟩
  | cons fill _ ih =>
    simp only [accountingResults, mem_append] at fits
    rw [foldlM_cons] at posted
    have applied := apply_of_fits keeps fun result member =>
      fits result (.inl (.inl member))
    cases applying : ledger.apply .exact fill with
    | error => simp [applied, applying, bind, Except.bind] at posted
    | ok next =>
      obtain ⟨taken, reconciledNext⟩ := reconciled.step applying
      have took : exactly.take .exact fill = .ok taken := by
        have before := reconciled.taken
        have after := reconciledNext.taken
        rw [fills_of_apply applying] at after
        simp only [takeAll] at before after
        rw [foldlM_append, before] at after
        cases outcome : exactly.take .exact fill with
        | error => simp [bind, Except.bind, outcome] at after
        | ok =>
          simp only [bind, Except.bind, foldlM_cons, foldlM_nil, outcome, pure,
            Except.pure, Except.ok.injEq] at after
          rw [after]
      obtain ⟨_, tookRounded, sameNext⟩ := take_of_fits keeps same
        (fun result member => fits result (.inl (.inr member))) took
      have offered : ledger.offer .exact fill = next := by
        rw [offer, applying]
      rw [applied, applying] at posted
      rw [took, offered] at fits
      obtain ⟨final, finalRounded, finalReconciled, tookAll, finalSame, marks, sums⟩ :=
        ih reconciledNext sameNext (fun result member => fits result (.inr member)) posted
      refine ⟨final, finalRounded, finalReconciled, ?_, finalSame, marks, sums⟩
      rw [takeAll, foldlM_cons, tookRounded]
      exact tookAll

/-- What the replay demands of the accounts at a bar's close. -/
def AccountsAgree (ctx : DecimalContext) (cash : ℚ) (ledger : LedgerState) (mark : ℚ) : Prop :=
  ∃ reference, independentlyReconcile ctx cash ledger.fills mark = .ok reference ∧
    ledger.cash = reference.cash ∧ ledger.position = reference.position ∧
    ledger.equity ctx mark = reference.equity ∧ ledger.reconcile ctx mark = 0

theorem agree_of_roundingFree {cash mark : ℚ} (keeps : ctx.KeepsDigits)
    (posted : Posted ctx cash ledger) (free : RoundingFree ctx cash ledger.fills mark) :
    AccountsAgree ctx cash ledger mark := by
  obtain ⟨_, takenRounded, reconciled, tookAll, same, marks, sums⟩ :=
    posting_of_fits keeps ledger.fills (reconciled_flat cash) ⟨rfl, rfl, rfl⟩ free posted
  have sizes : ctx.sum (takenRounded.lots.map fst) = ledger.position := by
    rw [same.lots, DecimalContext.sum_of_fits sums]
    exact reconciled.agrees.position.symm
  have cashSame : ledger.cash = takenRounded.cash := reconciled.agrees.cash.trans same.cash.symm
  refine ⟨takenRounded.result ctx mark, ?_, cashSame, sizes.symm, ?_, ?_⟩
  · rw [independentlyReconcile, tookAll]
    rfl
  · simp only [result, equity, sizes, cashSame]
  · exact reconcile_of_fits marks (reconciled.reconcile mark)

namespace DeterministicBacktest

variable {engine : DeterministicBacktest}

theorem trade_posted {replay traded : Replay}
    (posted : Posted ctx engine.startingCash replay.ledger)
    (ok : engine.trade ctx signal target strategyId past bar replay = .ok traded) :
    Posted ctx engine.startingCash traded.ledger := by
  refine trade_accounts (fun accounts => Posted ctx engine.startingCash accounts.1) ?_ posted ok
  intro replay orderId snapshot intent simulated quantity execution _ held executes
  obtain ⟨-, -, -, applied⟩ := execute_posts executes
  exact Posted.apply held applied

def checks (ctx : DecimalContext) (engine : DeterministicBacktest) (signal : Option Signal)
    (target : Option Target) (strategyId : String) : List Bar → List Bar → Replay → List (Bar × Replay)
  | _, [], _ => []
  | past, bar :: future, replay =>
    match engine.trade ctx signal target strategyId past bar replay with
    | .error _ => []
    | .ok traded => (bar, traded) ::
      match engine.observe ctx bar traded with
      | .error _ => []
      | .ok observed => checks ctx engine signal target strategyId (past ++ [bar]) future observed

theorem checks_posted (signal : Option Signal) (target : Option Target) (strategyId : String)
    (past future : List Bar) (replay : Replay) (posted : Posted ctx engine.startingCash replay.ledger) :
    ∀ check ∈ engine.checks ctx signal target strategyId past future replay,
      Posted ctx engine.startingCash check.2.ledger := by
  induction future generalizing past replay with
  | nil => simp [checks]
  | cons bar _ ih =>
    intro check member
    unfold checks at member
    cases trading : engine.trade ctx signal target strategyId past bar replay with
    | error => simp [trading] at member
    | ok traded =>
      have postedTraded := trade_posted posted trading
      simp only [trading] at member
      rcases mem_cons.mp member with rfl | later
      · exact postedTraded
      · cases observing : engine.observe ctx bar traded with
        | error => simp [observing] at later
        | ok observed =>
          simp only [observing] at later
          have same : observed.ledger = traded.ledger := congrArg fst (observe_accounts observing)
          exact ih (past ++ [bar]) observed (same ▸ postedTraded) check later

theorem observe_of_agree {replay : Replay}
    (agree : AccountsAgree ctx engine.startingCash replay.ledger bar.close) :
    ∃ observed, engine.observe ctx bar replay = .ok observed := by
  obtain ⟨_, reconciled, cash, position, equity, balance⟩ := agree
  unfold DeterministicBacktest.observe
  simp only [reconciled]
  rw [if_neg (by simp [cash, position, equity, balance])]
  exact ⟨_, rfl⟩

/-- In a replay whose accounting rounds nothing at any bar, no bar raises the
disagreement: cash, position and equity agree with the reference and the ledger
reconciles to zero. -/
theorem rounding_free_replay_agrees (engine : DeterministicBacktest) (bars : List Bar)
    (signal : Option Signal) (target : Option Target) (strategyId : String)
    (free : ∀ check ∈ engine.checks prec28 signal target strategyId [] (sortBars bars)
      (.start engine.startingCash), RoundingFree prec28 engine.startingCash check.2.ledger.fills
        check.1.close) :
    ∀ check ∈ engine.checks prec28 signal target strategyId [] (sortBars bars)
      (.start engine.startingCash),
      AccountsAgree prec28 engine.startingCash check.2.ledger check.1.close ∧
        ∃ observed, engine.observe prec28 check.1 check.2 = .ok observed := by
  intro check member
  have posted := checks_posted signal target strategyId [] (sortBars bars)
    (.start engine.startingCash) rfl check member
  have agrees := agree_of_roundingFree prec28_keepsDigits posted (free check member)
  exact ⟨agrees, observe_of_agree agrees⟩

def unitSpec : InstrumentSpec where
  version := "1"
  venue := "venue"
  instrumentId := "BASE-QUOTE"
  contractKind := .spot
  baseCurrency := "BASE"
  quoteCurrency := "QUOTE"
  settlementCurrency := "QUOTE"
  tickSize := 1
  lotSize := 1
  minQuantity := 1
  minNotional := 1
  maxQuantity := none
  priceLower := none
  priceUpper := none
  multiplier := 1
  effectiveFrom := 0
  effectiveTo := none
  tradingStatus := .trading
  increments_pos := by norm_num
  interval := by simp

theorem unit_pos : (0 : ℚ) < 1 := by norm_num

theorem five_nonneg : (0 : ℚ) ≤ 5 := by norm_num

theorem unquoted (timestamp : Time) (fidelity : FidelityTier) :
    ∀ snapshot ∈ (none : Option MarketSnapshot),
      snapshot.timestamp = timestamp ∧ snapshot.fidelity = fidelity := by simp

def unitEngine : DeterministicBacktest where
  spec := unitSpec
  fillModel := ⟨"1", .f0Bar, 1, 0, none, 1, by norm_num, by norm_num, by norm_num, by norm_num, by simp⟩
  startingCash := 303
  feeSchedules := [⟨"1", "venue", "BASE-QUOTE", "tier", .taker, 0, 0, none, "schedule"⟩]
  accountTier := "tier"
  slippageBps := 0
  impactBps := 0
  fees_explicit := by decide
  spot := by decide
  cash_pos := by norm_num
  slippage_nonneg := by norm_num
  impact_nonneg := by norm_num

def flatBar (timestamp : Time) (price : ℚ) (positive : 0 < price) : Bar :=
  ⟨timestamp, price, price, price, price, 10, timestamp, .f0Bar, false, none, positive, by norm_num,
    by simp, by simp, by simp⟩

def risingBars : List Bar := [flatBar 1 100 (by norm_num), flatBar 2 101 (by norm_num)]

/-- Hold one unit at the first bar and `size` from then on. -/
def growTo (size : ℚ) : Target := fun _ instant => .ok (if instant = 1 then 1 else size)

/-- Two fills whose average price fits 28 digits keep the accounts in agreement. -/
theorem even_average_agrees :
    (unitEngine.checks prec28 none (some (growTo 2)) "target" [] (sortBars risingBars)
        (.start unitEngine.startingCash)).length = 2 ∧
      ∀ check ∈ unitEngine.checks prec28 none (some (growTo 2)) "target" [] (sortBars risingBars)
        (.start unitEngine.startingCash),
        AccountsAgree prec28 unitEngine.startingCash check.2.ledger check.1.close ∧
          ∃ observed, unitEngine.observe prec28 check.1 check.2 = .ok observed :=
  ⟨by decide +kernel, rounding_free_replay_agrees unitEngine risingBars none (some (growTo 2)) "target"
    (by decide +kernel)⟩

/-- One unit at 100 and two at 101 average to 302/3, which is rounded, and the
replay raises although every order was filled. -/
theorem thirds_average_disagrees :
    ∃ left, unitEngine.run risingBars none (some (growTo 3)) "target" =
        .error (.value "independent accounting disagreement", left) ∧
      left.rejections = [] ∧ left.ledger.fills.map Fill.quantity = [1, 2] ∧
      left.ledger.reconcile prec28 101 = 1 / 10 ^ 25 := by
  refine ⟨reached (unitEngine.run risingBars none (some (growTo 3)) "target"), ?_⟩
  decide +kernel

end DeterministicBacktest

end Liki.Finance
