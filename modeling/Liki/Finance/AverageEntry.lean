import Liki.Finance.Accounting
import Liki.Library.AverageCost
import Liki.Library.Checks

/-! The average entry of a ledger. A ledger that does not round is a position held at its average cost,
so the average entry lies between the prices of the fills since the position was opened. The ledger is
written field by field, and both refusals come before the first write. -/
namespace Liki.Finance
open DecimalArithmetic Checks AverageCost DecimalContext

namespace LedgerState

def writeProfit (ctx : DecimalContext) (fill : Fill) : EStateM FinanceError LedgerState Unit := do
  if (← get).extendsPosition ctx fill then
    modify fun self => { self with
      averageEntry := ctx.div
        (ctx.add (ctx.mul (ctx.abs self.position) self.averageEntry) (ctx.mul fill.quantity fill.price))
        (ctx.add (ctx.abs self.position) fill.quantity) }
  else if (← get).closes ctx fill then
    modify fun self => { self with
      realizedPnl := ctx.add self.realizedPnl (self.pnlOn ctx fill (ctx.abs self.position)) }
    modify fun self => { self with
      averageEntry := if ctx.abs self.position < ctx.abs (signedQuantity ctx fill) then fill.price else 0 }
  else
    modify fun self => { self with
      realizedPnl := ctx.add self.realizedPnl (self.pnlOn ctx fill fill.quantity) }

def writeAccounts (ctx : DecimalContext) (fill : Fill) (additive : ℚ) :
    EStateM FinanceError LedgerState Unit := do
  modify fun self => { self with position := ctx.add self.position (signedQuantity ctx fill) }
  modify fun self => { self with cash := ctx.sub self.cash (ctx.mul (signedQuantity ctx fill) fill.price) }
  modify fun self => { self with cash := ctx.sub self.cash fill.fee }
  modify fun self => { self with fees := ctx.add self.fees fill.fee }
  modify fun self => { self with cash := ctx.sub self.cash additive }
  modify fun self => { self with otherCosts := ctx.add self.otherCosts additive }
  modify fun self => { self with fills := self.fills ++ [fill] }

/-- `apply` as it runs: the fields are written one after the other, and what was written before an error
stays. -/
def applyInPlace (ctx : DecimalContext) (fill : Fill) : EStateM FinanceError LedgerState Unit := do
  if (← get).fills.any fun existing => existing.fillId = fill.fillId then
    throw (.value "duplicate fill id")
  let additive ← ofExcept (additiveCosts ctx fill.costs)
  writeProfit ctx fill
  writeAccounts ctx fill additive

variable {ctx : DecimalContext} {ledger posted : LedgerState} {fill : Fill} {refusal : FinanceError}
  {fills : List Fill}

theorem writeProfit_run (ctx : DecimalContext) (fill : Fill) (ledger : LedgerState) :
    (writeProfit ctx fill).run ledger = .ok () { ledger with
      averageEntry := ledger.entryAfter ctx fill, realizedPnl := ledger.realizedAfter ctx fill } := by
  unfold writeProfit entryAfter realizedAfter
  rw [EStateM.run_bind, EStateM.run_get]
  dsimp only
  by_cases adds : ledger.extendsPosition ctx fill = true
  · rw [if_pos adds, if_pos adds, if_pos adds, EStateM.run_modify]
  · rw [if_neg adds, if_neg adds, if_neg adds, EStateM.run_bind, EStateM.run_get]
    dsimp only
    by_cases ends : ledger.closes ctx fill = true
    · rw [if_pos ends, if_pos ends, if_pos ends, EStateM.run_bind, EStateM.run_modify]
      dsimp only
      rw [EStateM.run_modify]
    · rw [if_neg ends, if_neg ends, if_neg ends, EStateM.run_modify]

theorem applyInPlace_fresh (fresh : (ledger.fills.any fun existing => existing.fillId = fill.fillId) = false) :
    (applyInPlace ctx fill).run ledger =
      (ofExcept (additiveCosts ctx fill.costs) >>= fun additive => do
        writeProfit ctx fill
        writeAccounts ctx fill additive : EStateM FinanceError LedgerState Unit).run ledger := by
  unfold applyInPlace
  rw [EStateM.run_bind, EStateM.run_get]
  dsimp only
  rw [fresh, if_neg Bool.false_ne_true]

theorem applyInPlace_ok (ok : ledger.apply ctx fill = .ok posted) :
    (applyInPlace ctx fill).run ledger = .ok () posted := by
  obtain ⟨fresh, additive, charged, rfl⟩ := apply_ok ok
  rw [applyInPlace_fresh (by simpa using fresh), charged]
  change (writeProfit ctx fill >>= fun _ => writeAccounts ctx fill additive).run ledger = _
  rw [EStateM.run_bind, writeProfit_run]
  rfl

theorem applyInPlace_error (refused : ledger.apply ctx fill = .error refusal) :
    (applyInPlace ctx fill).run ledger = .error refusal ledger := by
  unfold apply at refused
  split at refused
  · rename_i known
    cases refused
    unfold applyInPlace
    rw [EStateM.run_bind, EStateM.run_get]
    dsimp only
    rw [if_pos known]
    rfl
  · rename_i fresh
    cases charged : additiveCosts ctx fill.costs with
    | ok => simp [charged, Except.map] at refused
    | error reason =>
      have same : reason = refusal := by simpa [charged, Except.map] using refused
      rw [applyInPlace_fresh (Bool.eq_false_iff.mpr fresh), charged, same]
      rfl

theorem unchanged_of_raised (raised : (applyInPlace ctx fill).run ledger = .error refusal after) :
    after = ledger := by
  cases outcome : ledger.apply ctx fill with
  | ok =>
    rw [applyInPlace_ok outcome] at raised
    cases raised
  | error =>
    rw [applyInPlace_error outcome] at raised
    cases raised
    rfl

def holding (ledger : LedgerState) : Holding ℚ := ⟨ledger.position, ledger.averageEntry⟩

def traded (fill : Fill) : ℚ × ℚ := (fill.side.sign * fill.quantity, fill.price)

theorem abs_traded (fill : Fill) : |(traded fill).1| = fill.quantity := by
  unfold traded
  cases fill.side with
  | buy => rw [Side.sign_buy, one_mul, abs_of_pos fill.quantity_pos]
  | sell => rw [Side.sign_sell, neg_one_mul, abs_neg, abs_of_pos fill.quantity_pos]

theorem traded_ne_zero (fill : Fill) : (traded fill).1 ≠ 0 := by
  rw [← abs_pos, abs_traded]
  exact fill.quantity_pos

theorem holding_post (ledger : LedgerState) (fill : Fill) (additive : ℚ) :
    (ledger.post .exact fill additive).holding = ledger.holding.trade (traded fill).1 (traded fill).2 := by
  have size := abs_traded fill
  unfold traded at size
  simp only [holding, Holding.trade, post, entryAfter, extendsPosition, closes, signedQuantity, traded,
    exact_add, exact_mul, exact_div, exact_abs,
    decide_eq_true_eq, size]
  rw [Holding.mk.injEq]
  exact ⟨rfl, if_congr decide_eq_true_iff rfl rfl⟩

theorem holding_of_foldlM (ok : fills.foldlM (apply .exact) ledger = .ok posted) :
    posted.holding = ledger.holding.trades (fills.map traded) := by
  induction fills generalizing ledger with
  | nil =>
    rw [List.foldlM_nil, pure_ok] at ok
    subst ok
    rfl
  | cons _ _ ih =>
    rw [List.foldlM_cons, bind_ok] at ok
    obtain ⟨_, first, rest⟩ := ok
    obtain ⟨-, _, -, rfl⟩ := apply_ok first
    rw [ih rest, holding_post]
    rfl

def pricesSinceOpened (fills : List Fill) : List ℚ := openPrices 0 [] (fills.map traded)

theorem pricesSinceOpened_pos : ∀ price ∈ pricesSinceOpened fills, 0 < price := by
  intro price member
  rcases openPrices_subset price member with none | ⟨_, inside, rfl⟩
  · cases none
  · obtain ⟨fill, -, rfl⟩ := List.mem_map.mp inside
    exact fill.price_pos

/-- From a flat ledger the average entry is zero exactly without a position, and lies otherwise between the
lowest and the highest price of the fills since the position was opened from flat or flipped. Partial
closes leave it, and a call that raises leaves the whole ledger. -/
theorem average_entry_account (start ledger : LedgerState) (flat : start.holding.Flat) (fills : List Fill)
    (ok : fills.foldlM (apply .exact) start = .ok ledger) :
    (ledger.averageEntry = 0 ↔ ledger.position = 0) ∧
      (ledger.position ≠ 0 → Spans (pricesSinceOpened fills) ledger.averageEntry) ∧
      (∀ fill posted, (applyInPlace .exact fill).run ledger = .ok () posted →
        ledger.position * (fill.side.sign * fill.quantity) < 0 → fill.quantity < |ledger.position| →
        posted.averageEntry = ledger.averageEntry) ∧
      ∀ fill refusal after, (applyInPlace .exact fill).run ledger = .error refusal after → after = ledger := by
  have begins : Averaged [] start.holding := ⟨fun _ => flat.2, fun held => absurd flat.1 held⟩
  have sized : ∀ trade ∈ fills.map traded, trade.1 ≠ 0 := by
    intro trade member
    obtain ⟨fill, -, rfl⟩ := List.mem_map.mp member
    exact traded_ne_zero fill
  have averaged := begins.trades sized
  rw [flat.1, ← holding_of_foldlM ok] at averaged
  refine ⟨⟨fun none => ?_, averaged.none⟩, averaged.spans, fun fill posted accepted against part => ?_,
    fun fill refusal after raised => unchanged_of_raised raised⟩
  · by_contra held
    exact ((averaged.spans held).pos pricesSinceOpened_pos).ne' none
  · cases outcome : ledger.apply .exact fill with
    | error =>
      rw [applyInPlace_error outcome] at accepted
      cases accepted
    | ok =>
      rw [applyInPlace_ok outcome] at accepted
      cases accepted
      obtain ⟨-, additive, -, rfl⟩ := apply_ok outcome
      have kept : (ledger.holding.trade (traded fill).1 fill.price).average = ledger.averageEntry :=
        average_of_reduces against ((abs_traded fill).trans_lt part)
      exact (congrArg Holding.average (holding_post ledger fill additive)).trans kept

theorem unit_pos : (0 : ℚ) < 1 := one_pos

/-- One unit bought or sold at a positive price. -/
def unitFill (fillId : String) (side : Side) (price : ℚ) (price_pos : 0 < price) : Fill :=
  ⟨fillId, "o", 0, side, 1, price, .taker, 0, [], unit_pos, price_pos⟩

theorem two_price : (0 : ℚ) < 2 := two_pos

theorem four_price : (0 : ℚ) < 4 := four_pos

def bought : List Fill := [unitFill "a" .buy 2 two_price, unitFill "b" .buy 4 four_price]

theorem average_entry_account_bought :
    ∃ ledger, bought.foldlM (apply .exact) (flat 10) = .ok ledger ∧ ledger.averageEntry = 3 ∧
      ledger.position = 2 ∧ Spans (pricesSinceOpened bought) ledger.averageEntry := by
  have ran : bought.foldlM (apply .exact) (flat 10) = .ok ⟨4, 2, 3, 0, 0, 0, bought, 10⟩ := by
    decide +kernel
  have account := average_entry_account (flat 10) ⟨4, 2, 3, 0, 0, 0, bought, 10⟩ ⟨rfl, rfl⟩ bought ran
  exact ⟨_, ran, rfl, rfl, account.2.1 two_ne_zero⟩

end LedgerState

end Liki.Finance
