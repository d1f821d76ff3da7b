import Mathlib.Algebra.BigOperators.Group.List.Basic
import Mathlib.Algebra.Order.Ring.Defs
import Mathlib.Tactic.Abel
import Mathlib.Tactic.LinearCombination
import Mathlib.Tactic.Ring

/-! Trading accounts under any lot convention. An account holds cash, a signed
position, the cost basis of the open position, the profit realized so far and
the charges paid. Whatever rule matches a trade against open lots (average
cost, FIFO, anything else), the trade moves cash by its notional and moves
profit from basis to realized without creating any: that is `Trades`.

From `Trades` alone follow the accounting identity (`Balanced`) and the
agreement of two accounts that see the same trades under different conventions
(`Agrees`). Lots are signed quantities with an entry price; a one-sided book
with no net quantity is empty. -/
namespace TradeAccounts

variable {K : Type*}

structure Account (K : Type*) where
  position : K
  cash : K
  realized : K
  basis : K
  charges : K

section Ring

variable [CommRing K]

structure Trades (before after : Account K) (signed price charge : K) : Prop where
  position : after.position = before.position + signed
  cash : after.cash = before.cash - signed * price - charge
  charges : after.charges = before.charges + charge
  profit : after.realized - after.basis = before.realized - before.basis - signed * price

/-- Cash is what the account started with plus realized profit, less the money
tied up in the open position and the charges. -/
def Balanced (start : K) (account : Account K) : Prop :=
  account.cash = start + account.realized - account.basis - account.charges

def Account.equity (account : Account K) (mark : K) : K := account.cash + account.position * mark

def Account.unrealized (account : Account K) (mark : K) : K :=
  account.position * mark - account.basis

/-- Two conventions agree on everything but the split of profit into realized
and unrealized. -/
structure Agrees (left right : Account K) : Prop where
  position : left.position = right.position
  cash : left.cash = right.cash
  charges : left.charges = right.charges
  profit : left.realized - left.basis = right.realized - right.basis

variable {start signed price charge mark : K} {left right left' right' before after : Account K}

theorem Trades.balanced (trade : Trades before after signed price charge)
    (balanced : Balanced start before) : Balanced start after := by
  have profit := trade.profit
  unfold Balanced at balanced ⊢
  rw [trade.cash, trade.charges, balanced]
  linear_combination -profit

theorem Trades.agrees (first : Trades left left' signed price charge)
    (second : Trades right right' signed price charge) (agrees : Agrees left right) :
    Agrees left' right' where
  position := by rw [first.position, second.position, agrees.position]
  cash := by rw [first.cash, second.cash, agrees.cash]
  charges := by rw [first.charges, second.charges, agrees.charges]
  profit := by rw [first.profit, second.profit, agrees.profit]

end Ring

section Lots

variable [CommRing K]

/-- An open lot: signed quantity and entry price. -/
abbrev Lot (K : Type*) := K × K

def size (lots : List (Lot K)) : K := (lots.map Prod.fst).sum

def basis (lots : List (Lot K)) : K := (lots.map fun lot => lot.1 * lot.2).sum

@[simp] theorem size_nil : size ([] : List (Lot K)) = 0 := rfl
@[simp] theorem basis_nil : basis ([] : List (Lot K)) = 0 := rfl

@[simp] theorem size_cons (lot : Lot K) (lots : List (Lot K)) :
    size (lot :: lots) = lot.1 + size lots := by simp [size]

@[simp] theorem basis_cons (lot : Lot K) (lots : List (Lot K)) :
    basis (lot :: lots) = lot.1 * lot.2 + basis lots := by simp [basis]

@[simp] theorem size_append (first second : List (Lot K)) :
    size (first ++ second) = size first + size second := by simp [size]

@[simp] theorem basis_append (first second : List (Lot K)) :
    basis (first ++ second) = basis first + basis second := by simp [basis]

theorem marked_lots (lots : List (Lot K)) (mark : K) :
    (lots.map fun lot => lot.1 * (mark - lot.2)).sum = size lots * mark - basis lots := by
  induction lots with
  | nil => simp
  | cons _ _ ih =>
    rw [List.map_cons, List.sum_cons, ih, size_cons, basis_cons]
    ring

variable [LinearOrder K] [IsStrictOrderedRing K]

/-- All open lots are on one side of the market. -/
def OneSided (lots : List (Lot K)) : Prop :=
  (∀ lot ∈ lots, 0 < lot.1) ∨ (∀ lot ∈ lots, lot.1 < 0)

theorem size_pos {lots : List (Lot K)} (long : ∀ lot ∈ lots, 0 < lot.1) (occupied : lots ≠ []) :
    0 < size lots := by
  induction lots with
  | nil => contradiction
  | cons lot lots ih =>
    have head := long lot (by simp)
    have rest : ∀ lot ∈ lots, 0 < lot.1 := fun lot member => long lot (by simp [member])
    rw [size_cons]
    by_cases last : lots = []
    · simpa [last] using head
    · exact add_pos head (ih rest last)

theorem size_neg {lots : List (Lot K)} (short : ∀ lot ∈ lots, lot.1 < 0) (occupied : lots ≠ []) :
    size lots < 0 := by
  induction lots with
  | nil => contradiction
  | cons lot lots ih =>
    have head := short lot (by simp)
    have rest : ∀ lot ∈ lots, lot.1 < 0 := fun lot member => short lot (by simp [member])
    rw [size_cons]
    by_cases last : lots = []
    · simpa [last] using head
    · exact add_neg head (ih rest last)

/-- A one-sided book without net quantity has no lots at all. -/
theorem OneSided.eq_nil {lots : List (Lot K)} (sided : OneSided lots) (flat : size lots = 0) :
    lots = [] := by
  by_contra occupied
  rcases sided with long | short
  · exact (size_pos long occupied).ne' flat
  · exact (size_neg short occupied).ne flat

end Lots

end TradeAccounts
