import Liki.Finance.Types

/-! The primary decimal ledger: one position at a moving average entry price. -/
namespace Liki.Finance
open DecimalArithmetic List DecimalContext

inductive CostKind where
  | fee | funding | borrow | implementationShortfall | spread | impact | transfer | liquidation
  deriving DecidableEq

inductive CostTreatment where
  | additive | decomposition | diagnostic
  deriving DecidableEq

structure CostComponent where
  kind : CostKind
  amount : ℚ
  treatment : CostTreatment
  parent : Option CostKind
  /-- A decomposition names its parent cost kind and nothing else does. -/
  parented : parent.isSome = true ↔ treatment = .decomposition
  deriving DecidableEq

def CostComponent.additive (kind : CostKind) (amount : ℚ) : CostComponent :=
  ⟨kind, amount, .additive, none, by decide⟩

structure Fill where
  fillId : String
  orderId : String
  timestamp : Time
  side : Side
  quantity : ℚ
  price : ℚ
  liquidityRole : LiquidityRole
  fee : ℚ
  costs : List CostComponent
  /-- `__post_init__`: fill price and quantity are positive. -/
  quantity_pos : 0 < quantity
  price_pos : 0 < price
  deriving DecidableEq

/-- `Fill(...)`, with the checks of `__post_init__`. -/
def Fill.build (fillId orderId : String) (timestamp : Time) (side : Side) (quantity price : ℚ)
    (liquidityRole : LiquidityRole) (fee : ℚ) (costs : List CostComponent) :
    Except FinanceError Fill :=
  if quantity < 0 then .error (.value "quantity must not be negative")
  else if price < 0 then .error (.value "price must not be negative")
  else if positive : 0 < quantity ∧ 0 < price then
    .ok ⟨fillId, orderId, timestamp, side, quantity, price, liquidityRole, fee, costs, positive.1,
      positive.2⟩
  else .error (.value "fill price and quantity must be positive")

theorem Fill.build_ok {fillId orderId : String} {timestamp : Time} {side : Side}
    {quantity price fee : ℚ} {costs : List CostComponent}
    (ok : Fill.build fillId orderId timestamp side quantity price role fee costs = .ok fill) :
    0 < quantity ∧ fill.fillId = fillId ∧ fill.orderId = orderId ∧ fill.timestamp = timestamp ∧
      fill.side = side ∧ fill.quantity = quantity ∧ fill.price = price ∧ fill.fee = fee ∧
      fill.costs = costs := by
  unfold Fill.build at ok
  split at ok
  · cases ok
  split at ok
  · cases ok
  split at ok
  · rename_i positive
    simp only [Except.ok.injEq] at ok
    subst ok
    exact ⟨positive.1, rfl, rfl, rfl, rfl, rfl, rfl, rfl, rfl⟩
  · cases ok

structure LedgerState where
  cash : ℚ
  position : ℚ
  averageEntry : ℚ
  realizedPnl : ℚ
  fees : ℚ
  otherCosts : ℚ
  fills : List Fill
  startingCash : ℚ
  deriving DecidableEq

namespace LedgerState

/-- `LedgerState(cash)`: flat, with nothing charged. -/
def flat (cash : ℚ) : LedgerState := ⟨cash, 0, 0, 0, 0, 0, [], cash⟩

def isAdditive (cost : CostComponent) : Bool := cost.treatment = .additive

/-- The amounts charged on top of the fee, in order. -/
def additiveAmounts (costs : List CostComponent) : List ℚ :=
  (costs.filter isAdditive).map CostComponent.amount

def orphan (costs : List CostComponent) (cost : CostComponent) : Bool :=
  cost.treatment = .decomposition &&
    !((costs.filter isAdditive).any fun charged => some charged.kind = cost.parent)

/-- `_additive_costs`. -/
def additiveCosts (ctx : DecimalContext) (costs : List CostComponent) : Except FinanceError ℚ :=
  if costs.any (orphan costs) then
    .error (.value "orphan decomposition cannot be authoritative cost")
  else .ok (ctx.sum (additiveAmounts costs))

def signedQuantity (ctx : DecimalContext) (fill : Fill) : ℚ := ctx.mul fill.side.sign fill.quantity

/-- Opening or adding on the side already held. -/
def extendsPosition (ctx : DecimalContext) (ledger : LedgerState) (fill : Fill) : Bool :=
  ledger.position = 0 ∨ 0 < ctx.mul ledger.position (signedQuantity ctx fill)

/-- Closing the whole position, possibly flipping it. -/
def closes (ctx : DecimalContext) (ledger : LedgerState) (fill : Fill) : Bool :=
  ctx.abs ledger.position ≤ ctx.abs (signedQuantity ctx fill)

/-- The side of the position a closing fill realizes profit for. -/
def heldSign (ledger : LedgerState) : ℚ := if 0 < ledger.position then 1 else -1

/-- Profit realized on `quantity` closed at the fill's price. -/
def pnlOn (ctx : DecimalContext) (ledger : LedgerState) (fill : Fill) (quantity : ℚ) : ℚ :=
  ctx.mul (ctx.mul quantity (ctx.sub fill.price ledger.averageEntry)) ledger.heldSign

/-- The average entry after the fill: a weighted mean when the position is
opened or extended, the fill's price after a flip, zero after an exact close,
unchanged after a partial close. -/
def entryAfter (ctx : DecimalContext) (ledger : LedgerState) (fill : Fill) : ℚ :=
  if ledger.extendsPosition ctx fill then
    ctx.div (ctx.add (ctx.mul (ctx.abs ledger.position) ledger.averageEntry)
        (ctx.mul fill.quantity fill.price))
      (ctx.add (ctx.abs ledger.position) fill.quantity)
  else if ledger.closes ctx fill then
    if ctx.abs ledger.position < ctx.abs (signedQuantity ctx fill) then fill.price else 0
  else ledger.averageEntry

def realizedAfter (ctx : DecimalContext) (ledger : LedgerState) (fill : Fill) : ℚ :=
  if ledger.extendsPosition ctx fill then ledger.realizedPnl
  else if ledger.closes ctx fill then
    ctx.add ledger.realizedPnl (ledger.pnlOn ctx fill (ctx.abs ledger.position))
  else ctx.add ledger.realizedPnl (ledger.pnlOn ctx fill fill.quantity)

def cashAfter (ctx : DecimalContext) (ledger : LedgerState) (fill : Fill) (additive : ℚ) : ℚ :=
  ctx.sub (ctx.sub (ctx.sub ledger.cash (ctx.mul (signedQuantity ctx fill) fill.price)) fill.fee)
    additive

/-- The effect of an accepted fill. -/
def post (ctx : DecimalContext) (ledger : LedgerState) (fill : Fill) (additive : ℚ) : LedgerState where
  cash := ledger.cashAfter ctx fill additive
  position := ctx.add ledger.position (signedQuantity ctx fill)
  averageEntry := ledger.entryAfter ctx fill
  realizedPnl := ledger.realizedAfter ctx fill
  fees := ctx.add ledger.fees fill.fee
  otherCosts := ctx.add ledger.otherCosts additive
  fills := ledger.fills ++ [fill]
  startingCash := ledger.startingCash

/-- `apply`. Both refusals come before any field is written. -/
def apply (ctx : DecimalContext) (ledger : LedgerState) (fill : Fill) : Except FinanceError LedgerState :=
  if ledger.fills.any fun existing => existing.fillId = fill.fillId then
    .error (.value "duplicate fill id")
  else (additiveCosts ctx fill.costs).map (ledger.post ctx fill)

def equity (ctx : DecimalContext) (ledger : LedgerState) (mark : ℚ) : ℚ :=
  ctx.add ledger.cash (ctx.mul ledger.position mark)

def unrealizedPnl (ctx : DecimalContext) (ledger : LedgerState) (mark : ℚ) : ℚ :=
  ctx.mul ledger.position (ctx.sub mark ledger.averageEntry)

/-- What the equity should be from profits and charges. -/
def expected (ctx : DecimalContext) (ledger : LedgerState) (mark : ℚ) : ℚ :=
  ctx.sub (ctx.sub (ctx.add (ctx.add ledger.startingCash ledger.realizedPnl)
    (ledger.unrealizedPnl ctx mark)) ledger.fees) ledger.otherCosts

def reconcile (ctx : DecimalContext) (ledger : LedgerState) (mark : ℚ) : ℚ :=
  ctx.sub (ledger.equity ctx mark) (ledger.expected ctx mark)

def offer (ctx : DecimalContext) (ledger : LedgerState) (fill : Fill) : LedgerState :=
  match ledger.apply ctx fill with
  | .ok posted => posted
  | .error _ => ledger

def replay (ctx : DecimalContext) (cash : ℚ) (fills : List Fill) : LedgerState :=
  fills.foldl (offer ctx) (flat cash)

variable {ctx : DecimalContext} {ledger posted : LedgerState} {fill : Fill} {fills : List Fill}
  {final : LedgerState}

theorem apply_ok (ok : ledger.apply ctx fill = .ok posted) :
    (∀ existing ∈ ledger.fills, existing.fillId ≠ fill.fillId) ∧
      ∃ additive, additiveCosts ctx fill.costs = .ok additive ∧ posted = ledger.post ctx fill additive := by
  unfold apply at ok
  split at ok
  · cases ok
  · rename_i fresh
    refine ⟨by simpa using fresh, ?_⟩
    cases charged : additiveCosts ctx fill.costs with
    | error => simp [charged, Except.map] at ok
    | ok additive => exact ⟨additive, rfl, by simpa [charged, Except.map] using ok.symm⟩

theorem fills_of_apply (ok : ledger.apply ctx fill = .ok posted) :
    posted.fills = ledger.fills ++ [fill] := by
  obtain ⟨-, _, -, rfl⟩ := apply_ok ok
  rfl

theorem additiveCosts_ok (ok : additiveCosts ctx fill.costs = .ok additive) :
    additive = ctx.sum (additiveAmounts fill.costs) := by
  unfold additiveCosts at ok
  split at ok
  · cases ok
  · exact (Except.ok.inj ok).symm

theorem sale_nonneg_iff (keeps : ctx.KeepsDigits) (sells : fill.side = .sell)
    (fits : ctx.Fits fill.quantity) (position : ℚ) :
    0 ≤ ctx.add position (signedQuantity ctx fill) ↔ fill.quantity ≤ position := by
  have signed : signedQuantity ctx fill = -fill.quantity := by
    rw [signedQuantity, sells, Side.sign_sell, mul, neg_one_mul]
    exact fits_neg fits
  rw [signed, add, ← not_lt, round_neg_iff keeps, not_lt]
  constructor
  · intro nonneg
    linarith
  · intro covered
    linarith

theorem replay_append (cash : ℚ) (fills : List Fill) (fill : Fill) :
    replay ctx cash (fills ++ [fill]) = (replay ctx cash fills).offer ctx fill :=
  foldl_append

theorem offer_cases (ledger : LedgerState) (fill : Fill) :
    (∃ posted, ledger.apply ctx fill = .ok posted ∧ ledger.offer ctx fill = posted) ∨
      ledger.offer ctx fill = ledger := by
  unfold offer
  cases ledger.apply ctx fill with
  | ok posted => exact .inl ⟨posted, rfl, rfl⟩
  | error => exact .inr rfl

theorem fills_of_foldlM (ok : fills.foldlM (apply ctx) ledger = .ok final) :
    final.fills = ledger.fills ++ fills := by
  induction fills generalizing ledger with
  | nil =>
    rw [foldlM_nil] at ok
    cases ok
    exact (append_nil _).symm
  | cons fill _ ih =>
    rw [foldlM_cons] at ok
    cases first : ledger.apply ctx fill with
    | error => simp [first, bind, Except.bind] at ok
    | ok =>
      simp only [first, bind, Except.bind] at ok
      rw [ih ok, fills_of_apply first, append_assoc, singleton_append]

theorem position_of_foldlM (ok : fills.foldlM (apply .exact) ledger = .ok final) :
    final.position = ledger.position + (fills.map fun fill => fill.side.sign * fill.quantity).sum := by
  induction fills generalizing ledger with
  | nil =>
    rw [foldlM_nil] at ok
    cases ok
    simp
  | cons fill _ ih =>
    rw [foldlM_cons] at ok
    cases first : ledger.apply .exact fill with
    | error => simp [first, bind, Except.bind] at ok
    | ok =>
      simp only [first, bind, Except.bind] at ok
      obtain ⟨-, _, -, rfl⟩ := apply_ok first
      rw [ih ok, map_cons, sum_cons]
      simp only [post, signedQuantity, exact_add, exact_mul]
      ring

theorem replay_invariant {invariant : LedgerState → Prop} (cash : ℚ) (start : invariant (flat cash))
    (accepted : ∀ ledger fill posted, invariant ledger → ledger.apply ctx fill = .ok posted →
      invariant posted) (fills : List Fill) : invariant (replay ctx cash fills) := by
  induction fills using reverseRecOn with
  | nil => exact start
  | append_singleton fills fill ih =>
    rw [replay_append]
    rcases offer_cases (replay ctx cash fills) fill with ⟨posted, ok, same⟩ | same
    · rw [same]
      exact accepted _ fill posted ih ok
    · rw [same]
      exact ih

end LedgerState

end Liki.Finance
