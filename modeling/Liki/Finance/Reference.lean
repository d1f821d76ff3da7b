import Liki.Finance.Accounting

/-! The independent reconciliation path: FIFO lots, written separately from the
moving-average ledger and sharing none of its arithmetic. -/
namespace Liki.Finance
open DecimalArithmetic

/-- Signed quantity and entry price. -/
abbrev FifoLot := ℚ × ℚ

/-- What the reference returns. -/
structure Reconciliation where
  cash : ℚ
  position : ℚ
  realizedPnl : ℚ
  unrealizedPnl : ℚ
  equity : ℚ
  fees : ℚ
  otherCosts : ℚ
  deriving DecidableEq

/-- The reference's running state between fills. -/
structure FifoState where
  cash : ℚ
  lots : List FifoLot
  realized : ℚ
  fees : ℚ
  other : ℚ
  seen : List String

namespace FifoState

def start (cash : ℚ) : FifoState := ⟨cash, [], 0, 0, 0, []⟩

def signOf (quantity : ℚ) : ℚ := if 0 < quantity then 1 else -1

/-- The `while incoming and lots and lots[0][0] * incoming < ZERO` loop: close
the oldest lot against the incoming quantity, until either is exhausted. The
result is what is left of the incoming quantity, the lots and the profit. -/
def closeLots (ctx : DecimalContext) (price : ℚ) : ℚ → List FifoLot → ℚ → ℚ × List FifoLot × ℚ
  | incoming, [], realized => (incoming, [], realized)
  | incoming, (quantity, entry) :: rest, realized =>
    if incoming ≠ 0 ∧ ctx.mul quantity incoming < 0 then
      let closing := min (ctx.abs quantity) (ctx.abs incoming)
      let profit := ctx.add realized
        (ctx.mul (ctx.mul closing (ctx.sub price entry)) (signOf quantity))
      let remaining := ctx.sub (ctx.abs quantity) closing
      let left := ctx.mul (signOf incoming) (ctx.sub (ctx.abs incoming) closing)
      if remaining = 0 then closeLots ctx price left rest profit
      -- A lot that outlives the fill used up all of it, so the loop's next test fails.
      else (left, (ctx.mul (signOf quantity) remaining, entry) :: rest, profit)
    else (incoming, (quantity, entry) :: rest, realized)

def chargeCosts (ctx : DecimalContext) (costs : List CostComponent) (cash other : ℚ) : ℚ × ℚ :=
  costs.foldl (fun (cash, other) cost =>
    if cost.treatment = .additive then (ctx.sub cash cost.amount, ctx.add other cost.amount)
    else (cash, other)) (cash, other)

/-- One pass of the loop over fills. -/
def take (ctx : DecimalContext) (state : FifoState) (fill : Fill) : Except FinanceError FifoState :=
  if fill.fillId ∈ state.seen then .error (.value "duplicate fill id")
  else
    let incoming := ctx.mul fill.side.sign fill.quantity
    let paid := ctx.sub state.cash (ctx.add (ctx.mul incoming fill.price) fill.fee)
    let (cash, other) := chargeCosts ctx fill.costs paid state.other
    let (left, lots, realized) := closeLots ctx fill.price incoming state.lots state.realized
    .ok { cash, other, realized,
          lots := if left = 0 then lots else lots ++ [(left, fill.price)],
          fees := ctx.add state.fees fill.fee,
          seen := state.seen ++ [fill.fillId] }

def takeAll (ctx : DecimalContext) (state : FifoState) (fills : List Fill) :
    Except FinanceError FifoState :=
  fills.foldlM (take ctx) state

/-- The returned dictionary, from the final state. -/
def result (ctx : DecimalContext) (state : FifoState) (mark : ℚ) : Reconciliation :=
  let position := ctx.sum (state.lots.map Prod.fst)
  { cash := state.cash, position, realizedPnl := state.realized,
    unrealizedPnl := ctx.sum (state.lots.map fun lot => ctx.mul lot.1 (ctx.sub mark lot.2)),
    equity := ctx.add state.cash (ctx.mul position mark),
    fees := state.fees, otherCosts := state.other }

end FifoState

def independentlyReconcile (ctx : DecimalContext) (startingCash : ℚ) (fills : List Fill) (mark : ℚ) :
    Except FinanceError Reconciliation :=
  (FifoState.takeAll ctx (.start startingCash) fills).map fun state => state.result ctx mark

end Liki.Finance
