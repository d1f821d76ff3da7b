import Mathlib.Tactic.LinearCombination
import Liki.Finance.Reference
import Liki.Library.TradeAccounts

/-! In exact arithmetic the moving-average ledger and the FIFO reference are two
conventions for one trading account. Each fill is one trade of both
(`ledger_trades`, `fifo_trades`), so the accounting identity and the agreement
of everything but the timing of realized profit follow from the laws of trades.
The FIFO side also keeps its lots on one side of the market, which is what makes
a flat position an empty book. -/
namespace Liki.Finance
open DecimalArithmetic TradeAccounts List DecimalContext LedgerState

def LedgerState.account (ledger : LedgerState) : Account ℚ where
  position := ledger.position
  cash := ledger.cash
  realized := ledger.realizedPnl
  basis := ledger.position * ledger.averageEntry
  charges := ledger.fees + ledger.otherCosts

def FifoState.account (state : FifoState) : Account ℚ where
  position := size state.lots
  cash := state.cash
  realized := state.realized
  basis := basis state.lots
  charges := state.fees + state.other

variable {ledger : LedgerState} {fill : Fill} {posted : LedgerState}

private theorem heldSign_mul_abs (held : ledger.position ≠ 0) :
    ledger.heldSign * |ledger.position| = ledger.position := by
  rcases lt_or_gt_of_ne held with short | long
  · simp [heldSign, not_lt.mpr short.le, abs_of_neg short]
  · simp [heldSign, long, abs_of_pos long]

private theorem abs_signed (fill : Fill) : |fill.side.sign * fill.quantity| = fill.quantity := by
  cases side : fill.side <;> simp [abs_of_pos fill.quantity_pos]

private theorem basis_of_extending {position signed quantity : ℚ} (entry price : ℚ)
    (absolute : |signed| = quantity) (positive : 0 < quantity)
    (extending : position = 0 ∨ 0 < position * signed) :
    (position + signed) * ((|position| * entry + quantity * price) / (|position| + quantity)) =
      position * entry + signed * price := by
  have total : 0 < |position| + quantity := add_pos_of_nonneg_of_pos (abs_nonneg _) positive
  rw [mul_div_assoc', div_eq_iff total.ne', ← absolute]
  rcases extending with flat | same
  · subst flat
    simp only [abs_zero, zero_add, zero_mul]
    ring
  · rcases pos_and_pos_or_neg_and_neg_of_mul_pos same with ⟨long, buying⟩ | ⟨short, selling⟩
    · rw [abs_of_pos long, abs_of_pos buying]
      ring
    · rw [abs_of_neg short, abs_of_neg selling]
      ring

private theorem signed_of_reducing {signed : ℚ} (nonzero : signed ≠ 0) (held : ledger.position ≠ 0)
    (against : ¬ 0 < ledger.position * signed) : signed = -(ledger.heldSign * |signed|) := by
  have product : ledger.position * signed < 0 :=
    lt_of_le_of_ne (not_lt.mp against) (mul_ne_zero held nonzero)
  rcases mul_neg_iff.mp product with ⟨long, selling⟩ | ⟨short, buying⟩
  · simp [heldSign, long, abs_of_neg selling]
  · simp [heldSign, not_lt.mpr short.le, abs_of_pos buying]

/-- Whatever branch a fill takes, profit and basis change by the notional paid. -/
private theorem profit_of_post (ledger : LedgerState) (fill : Fill) :
    ledger.realizedAfter .exact fill -
        (ledger.position + fill.side.sign * fill.quantity) * ledger.entryAfter .exact fill =
      ledger.realizedPnl - ledger.position * ledger.averageEntry -
        fill.side.sign * fill.quantity * fill.price := by
  have absolute := abs_signed fill
  have nonzero : fill.side.sign * fill.quantity ≠ 0 := by
    intro zero
    rw [zero, abs_zero] at absolute
    exact fill.quantity_pos.ne absolute
  have quantity := fill.quantity_pos
  generalize signedDef : fill.side.sign * fill.quantity = signed at absolute nonzero ⊢
  by_cases extending : ledger.position = 0 ∨ 0 < ledger.position * signed
  · have branch : ledger.extendsPosition .exact fill = true := by
      simpa [extendsPosition, signedQuantity, signedDef] using extending
    simp only [realizedAfter, entryAfter, branch, ↓reduceIte,
      exact_abs, exact_mul, exact_add,
      exact_div]
    have priced := basis_of_extending ledger.averageEntry fill.price absolute quantity extending
    linear_combination -priced
  · have branch : ledger.extendsPosition .exact fill = false := by
      simpa [extendsPosition, signedQuantity, signedDef] using extending
    obtain ⟨held, against⟩ := not_or.mp extending
    have opposite := signed_of_reducing nonzero held against
    have heldAbs := heldSign_mul_abs held
    by_cases closing : |ledger.position| ≤ |signed|
    · have closes : ledger.closes .exact fill = true := by
        simpa [closes, signedQuantity, signedDef] using closing
      by_cases flips : |ledger.position| < |signed|
      · simp [realizedAfter, entryAfter, pnlOn, branch, closes,
          signedQuantity, signedDef, flips]
        linear_combination (fill.price - ledger.averageEntry) * heldAbs
      · have equal : |ledger.position| = |signed| := le_antisymm closing (not_lt.mp flips)
        have cancels : signed = -ledger.position := by rw [opposite, ← equal, heldAbs]
        simp [realizedAfter, entryAfter, pnlOn, branch, closes,
          signedQuantity, signedDef, flips]
        rw [cancels]
        linear_combination (fill.price - ledger.averageEntry) * heldAbs
    · have reduces : ledger.closes .exact fill = false := by
        simpa [closes, signedQuantity, signedDef] using closing
      simp [realizedAfter, entryAfter, pnlOn, branch, reduces]
      rw [absolute] at opposite
      linear_combination (fill.price - ledger.averageEntry) * opposite

theorem ledger_trades (ok : ledger.apply .exact fill = .ok posted) :
    Trades ledger.account posted.account (fill.side.sign * fill.quantity) fill.price
      (fill.fee + (additiveAmounts fill.costs).sum) := by
  obtain ⟨-, _, charged, rfl⟩ := apply_ok ok
  have amount := additiveCosts_ok charged
  rw [exact_sum] at amount
  subst amount
  constructor
  · simp [account, post, signedQuantity]
  · simp [account, post, cashAfter, signedQuantity]
    ring
  · simp [account, post]
    ring
  · simpa [account, post, signedQuantity] using
      profit_of_post ledger fill

namespace FifoState

variable {quantity incoming entry : ℚ} {rest : List FifoLot}

private theorem signOf_mul_abs (nonzero : quantity ≠ 0) :
    signOf quantity * |quantity| = quantity := by
  rcases lt_or_gt_of_ne nonzero with negative | positive
  · simp [signOf, not_lt.mpr negative.le, abs_of_neg negative]
  · simp [signOf, positive, abs_of_pos positive]

private theorem signOf_mul_abs_opposite (against : quantity * incoming < 0) :
    signOf quantity * |incoming| = -incoming := by
  rcases mul_neg_iff.mp against with ⟨positive, negative⟩ | ⟨negative, positive⟩
  · simp [signOf, positive, abs_of_neg negative]
  · simp [signOf, not_lt.mpr negative.le, abs_of_pos positive]

theorem closeLots_stops (price realized : ℚ) (joins : ¬(incoming ≠ 0 ∧ quantity * incoming < 0)) :
    closeLots .exact price incoming ((quantity, entry) :: rest) realized =
      (incoming, (quantity, entry) :: rest, realized) := by
  rw [closeLots]
  exact if_neg joins

theorem closeLots_exhausts (price realized : ℚ) (against : incoming ≠ 0 ∧ quantity * incoming < 0)
    (exhausted : |quantity| ≤ |incoming|) :
    closeLots .exact price incoming ((quantity, entry) :: rest) realized =
      closeLots .exact price (signOf incoming * (|incoming| - |quantity|)) rest
        (realized + |quantity| * (price - entry) * signOf quantity) := by
  rw [closeLots]
  refine (if_pos against).trans ?_
  simp [min_eq_left exhausted]

theorem closeLots_survives (price realized : ℚ) (against : incoming ≠ 0 ∧ quantity * incoming < 0)
    (shorter : |incoming| < |quantity|) :
    closeLots .exact price incoming ((quantity, entry) :: rest) realized =
      (0, (signOf quantity * (|quantity| - |incoming|), entry) :: rest,
        realized + |incoming| * (price - entry) * signOf quantity) := by
  rw [closeLots]
  refine (if_pos against).trans ?_
  simp [min_eq_right shorter.le, (sub_pos.mpr shorter).ne']

/-- The lots left by the loop and what the caller appends to them. -/
def book (price left : ℚ) (lots : List FifoLot) : List FifoLot :=
  if left = 0 then lots else lots ++ [(left, price)]

theorem size_book (price left : ℚ) (lots : List FifoLot) :
    size (book price left lots) = size lots + left := by
  by_cases done : left = 0 <;> simp [book, done]

theorem basis_book (price left : ℚ) (lots : List FifoLot) :
    basis (book price left lots) = basis lots + left * price := by
  by_cases done : left = 0 <;> simp [book, done]

/-- Closing lots moves quantity from the lots to the incoming fill and profit
from the basis to realized; nothing is created. -/
theorem closeLots_conserves (price incoming : ℚ) (lots : List FifoLot) (realized : ℚ)
    (nonzero : ∀ lot ∈ lots, lot.1 ≠ 0) :
    let closed := closeLots .exact price incoming lots realized
    size closed.2.1 + closed.1 = size lots + incoming ∧
      closed.2.2 - (basis closed.2.1 + closed.1 * price) =
        realized - (basis lots + incoming * price) := by
  induction lots generalizing incoming realized with
  | nil => simp [closeLots]
  | cons lot rest ih =>
    obtain ⟨quantity, entry⟩ := lot
    have lotNonzero : quantity ≠ 0 := nonzero (quantity, entry) (by simp)
    have restNonzero : ∀ lot ∈ rest, lot.1 ≠ 0 := fun lot member => nonzero lot (by simp [member])
    by_cases against : incoming ≠ 0 ∧ quantity * incoming < 0
    · have lotAbs := signOf_mul_abs lotNonzero
      have incomingAbs := signOf_mul_abs against.1
      have lotAgainst := signOf_mul_abs_opposite against.2
      have incomingAgainst := signOf_mul_abs_opposite (by simpa [mul_comm] using against.2)
      by_cases exhausted : |quantity| ≤ |incoming|
      · rw [closeLots_exhausts price realized against exhausted]
        obtain ⟨sizes, profits⟩ := ih
          (signOf incoming * (|incoming| - |quantity|))
          (realized + |quantity| * (price - entry) * signOf quantity) restNonzero
        constructor
        · rw [sizes, size_cons]
          linear_combination incomingAbs - incomingAgainst
        · rw [profits, basis_cons]
          linear_combination (price - entry) * lotAbs - price * (incomingAbs - incomingAgainst)
      · rw [closeLots_survives price realized against (not_le.mp exhausted)]
        constructor
        · simp only [size_cons]
          linear_combination lotAbs - lotAgainst
        · simp only [basis_cons]
          linear_combination -entry * lotAbs + price * lotAgainst
    · rw [closeLots_stops price realized against]
      exact ⟨rfl, rfl⟩

/-- The loop keeps the surviving lots on their side and stops only when nothing
is left or what is left joins that side. -/
theorem closeLots_sided (price incoming : ℚ) (lots : List FifoLot) (realized : ℚ)
    (sided : OneSided lots) :
    let closed := closeLots .exact price incoming lots realized
    OneSided (book price closed.1 closed.2.1) := by
  induction lots generalizing incoming realized with
  | nil =>
    simp only [closeLots, book]
    by_cases done : incoming = 0
    · simp [done, OneSided]
    · rcases lt_or_gt_of_ne done with negative | positive
      · exact .inr (by simp [done, negative])
      · exact .inl (by simp [done, positive])
  | cons lot rest ih =>
    obtain ⟨quantity, entry⟩ := lot
    have restSided : OneSided rest :=
      sided.imp (fun long lot member => long lot (by simp [member]))
        (fun short lot member => short lot (by simp [member]))
    by_cases against : incoming ≠ 0 ∧ quantity * incoming < 0
    · by_cases exhausted : |quantity| ≤ |incoming|
      · rw [closeLots_exhausts price realized against exhausted]
        exact ih _ _ restSided
      · have shorter : |incoming| < |quantity| := not_le.mp exhausted
        rw [closeLots_survives price realized against shorter]
        simp only [book, ↓reduceIte]
        rcases sided with long | short
        · have positive : 0 < quantity := long (quantity, entry) (by simp)
          refine .inl fun lot member => ?_
          rcases mem_cons.mp member with rfl | member
          · simpa [signOf, positive] using shorter
          · exact long lot (by simp [member])
        · have negative : quantity < 0 := short (quantity, entry) (by simp)
          refine .inr fun lot member => ?_
          rcases mem_cons.mp member with rfl | member
          · simpa [signOf, not_lt.mpr negative.le] using shorter
          · exact short lot (by simp [member])
    · rw [closeLots_stops price realized against]
      simp only [book]
      by_cases done : incoming = 0
      · simpa [done] using sided
      · have joins : 0 ≤ quantity * incoming := not_lt.mp fun product => against ⟨done, product⟩
        simp only [done, ↓reduceIte]
        rcases sided with long | short
        · have positive : 0 < quantity := long (quantity, entry) (by simp)
          have bought : 0 < incoming :=
            lt_of_le_of_ne (nonneg_of_mul_nonneg_right joins positive) (Ne.symm done)
          refine .inl fun lot member => ?_
          rcases mem_append.mp member with member | only
          · exact long lot member
          · rw [mem_singleton.mp only]
            exact bought
        · have negative : quantity < 0 := short (quantity, entry) (by simp)
          have sold : incoming < 0 :=
            lt_of_le_of_ne (nonpos_of_mul_nonneg_right joins negative) done
          refine .inr fun lot member => ?_
          rcases mem_append.mp member with member | only
          · exact short lot member
          · rw [mem_singleton.mp only]
            exact sold

theorem chargeCosts_exact (costs : List CostComponent) (cash other : ℚ) :
    chargeCosts .exact costs cash other =
      (cash - (additiveAmounts costs).sum,
        other + (additiveAmounts costs).sum) := by
  induction costs generalizing cash other with
  | nil => simp [chargeCosts, additiveAmounts]
  | cons cost costs ih =>
    by_cases additive : cost.treatment = .additive
    · have charged : chargeCosts .exact (cost :: costs) cash other =
          chargeCosts .exact costs (cash - cost.amount) (other + cost.amount) := by
        simp [chargeCosts, additive]
      rw [charged, ih]
      simp only [additiveAmounts, isAdditive, additive, decide_true,
        filter_cons_of_pos, map_cons, sum_cons, Prod.mk.injEq]
      constructor <;> ring
    · have skipped : chargeCosts .exact (cost :: costs) cash other =
          chargeCosts .exact costs cash other := by
        simp [chargeCosts, additive]
      rw [skipped, ih]
      simp [additiveAmounts, isAdditive, additive]

theorem OneSided.nonzero {lots : List FifoLot} (sided : OneSided lots) :
    ∀ lot ∈ lots, lot.1 ≠ 0 := by
  intro lot member
  rcases sided with long | short
  · exact (long lot member).ne'
  · exact (short lot member).ne

theorem fifo_trades {state : FifoState} (sided : OneSided state.lots)
    (fresh : fill.fillId ∉ state.seen) :
    ∃ taken, state.take .exact fill = .ok taken ∧
      Trades state.account taken.account (fill.side.sign * fill.quantity) fill.price
        (fill.fee + (additiveAmounts fill.costs).sum) ∧
      taken.fees = state.fees + fill.fee ∧
      taken.other = state.other + (additiveAmounts fill.costs).sum ∧
      taken.seen = state.seen ++ [fill.fillId] ∧ OneSided taken.lots := by
  obtain ⟨sizes, profits⟩ := closeLots_conserves fill.price (fill.side.sign * fill.quantity)
    state.lots state.realized (OneSided.nonzero sided)
  have sidedAfter := closeLots_sided fill.price (fill.side.sign * fill.quantity) state.lots
    state.realized sided
  rcases closed : closeLots .exact fill.price (fill.side.sign * fill.quantity) state.lots
    state.realized with ⟨left, lots, realized⟩
  rw [closed] at sizes profits sidedAfter
  simp only [take, fresh, ↓reduceIte, chargeCosts_exact, exact_mul,
    exact_sub, exact_add, closed]
  refine ⟨_, rfl, ?_, rfl, rfl, rfl, sidedAfter⟩
  have booked := size_book fill.price left lots
  have based := basis_book fill.price left lots
  unfold book at booked based
  constructor
  · simp only [account, booked]
    exact sizes
  · simp only [account]
    ring
  · simp only [account]
    ring
  · simp only [account, based]
    rw [profits]
    ring

end FifoState

structure Reconciled (cash : ℚ) (ledger : LedgerState) (state : FifoState) : Prop where
  taken : FifoState.takeAll .exact (.start cash) ledger.fills = .ok state
  started : ledger.startingCash = cash
  balanced : Balanced cash ledger.account
  agrees : Agrees ledger.account state.account
  fees : ledger.fees = state.fees
  other : ledger.otherCosts = state.other
  seen : state.seen = ledger.fills.map Fill.fillId
  sided : OneSided state.lots

theorem reconciled_flat (cash : ℚ) : Reconciled cash (.flat cash) (.start cash) where
  taken := rfl
  started := rfl
  balanced := by simp [TradeAccounts.Balanced, account, flat]
  agrees := by
    constructor <;> simp [account, flat, FifoState.account, FifoState.start]
  fees := rfl
  other := rfl
  seen := rfl
  sided := .inl (by simp [FifoState.start])

variable {cash : ℚ} {state : FifoState}

theorem Reconciled.step (reconciled : Reconciled cash ledger state)
    (ok : ledger.apply .exact fill = .ok posted) : ∃ taken, Reconciled cash posted taken := by
  have ledgerTrade := ledger_trades ok
  obtain ⟨unused, _, charged, rfl⟩ := apply_ok ok
  have amount := additiveCosts_ok charged
  rw [exact_sum] at amount
  have fresh : fill.fillId ∉ state.seen := by
    rw [reconciled.seen]
    intro member
    obtain ⟨existing, held, same⟩ := mem_map.mp member
    exact unused existing held same
  obtain ⟨taken, took, fifoTrade, fees, other, seen, sided⟩ :=
    FifoState.fifo_trades reconciled.sided fresh
  refine ⟨taken, ?_, reconciled.started, ledgerTrade.balanced reconciled.balanced,
    ledgerTrade.agrees fifoTrade reconciled.agrees, ?_, ?_, ?_, sided⟩
  · have earlier := reconciled.taken
    simp only [FifoState.takeAll] at earlier ⊢
    simp only [post, foldlM_append, earlier]
    simp only [bind, Except.bind, foldlM_cons, foldlM_nil, took]
    rfl
  · simp [post, fees, reconciled.fees]
  · simp [post, other, reconciled.other, amount]
  · simp [post, seen, reconciled.seen]

def Reconcilable (cash : ℚ) (ledger : LedgerState) : Prop := ∃ state, Reconciled cash ledger state

theorem replay_reconcilable (cash : ℚ) (fills : List Fill) :
    Reconcilable cash (replay .exact cash fills) := by
  refine replay_invariant cash ⟨_, reconciled_flat cash⟩ ?_ fills
  rintro ledger fill posted ⟨_, reconciled⟩ ok
  exact reconciled.step ok

theorem Reconciled.reconcile (reconciled : Reconciled cash ledger state) (mark : ℚ) :
    ledger.reconcile .exact mark = 0 := by
  have balanced : ledger.cash = cash + ledger.realizedPnl -
      ledger.position * ledger.averageEntry - (ledger.fees + ledger.otherCosts) :=
    reconciled.balanced
  simp only [LedgerState.reconcile, LedgerState.equity, LedgerState.expected,
    LedgerState.unrealizedPnl, exact_add, exact_sub,
    exact_mul, reconciled.started, balanced]
  ring

/-- Whatever fills were offered, the ledger accounts for every unit of equity
and agrees with the FIFO reference on the accepted ones in everything but the
timing of realized profit, and in that too once the position is flat. -/
theorem ledger_agrees_with_fifo_reference (cash : ℚ) (fills : List Fill) (mark : ℚ) :
    let ledger := replay .exact cash fills
    ledger.reconcile .exact mark = 0 ∧
      ∃ reference, independentlyReconcile .exact cash ledger.fills mark = .ok reference ∧
        ledger.cash = reference.cash ∧ ledger.position = reference.position ∧
        ledger.equity .exact mark = reference.equity ∧
        ledger.fees = reference.fees ∧ ledger.otherCosts = reference.otherCosts ∧
        ledger.realizedPnl + ledger.unrealizedPnl .exact mark =
          reference.realizedPnl + reference.unrealizedPnl ∧
        (ledger.position = 0 → ledger.realizedPnl = reference.realizedPnl) := by
  intro ledger
  obtain ⟨state, reconciled⟩ := replay_reconcilable cash fills
  have position : ledger.position = size state.lots := reconciled.agrees.position
  have ledgerCash : ledger.cash = state.cash := reconciled.agrees.cash
  have profit : ledger.realizedPnl - ledger.position * ledger.averageEntry =
      state.realized - basis state.lots := reconciled.agrees.profit
  constructor
  · exact reconciled.reconcile mark
  · have taken : FifoState.takeAll .exact (.start cash) ledger.fills = .ok state := reconciled.taken
    have sizes : (state.lots.map Prod.fst).sum = size state.lots := rfl
    refine ⟨state.result .exact mark, by simp [independentlyReconcile, taken, Except.map],
      ledgerCash, ?_, ?_, reconciled.fees, reconciled.other, ?_, ?_⟩
    · simp [FifoState.result, sizes, position]
    · simp [FifoState.result, equity, sizes, position, ledgerCash]
    · simp only [FifoState.result, unrealizedPnl, exact_mul,
        exact_sub, exact_sum, marked_lots]
      linear_combination profit + mark * position
    · intro flat
      have empty : state.lots = [] := reconciled.sided.eq_nil (position ▸ flat)
      simpa [flat, empty, FifoState.result] using profit

end Liki.Finance
