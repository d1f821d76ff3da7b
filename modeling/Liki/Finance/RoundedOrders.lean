import Liki.Finance.Contracts
import Liki.Library.Grid

/-! What rounding makes of an order. The quantity comes down to whole lots, a buyer's limit goes up
and a seller's comes down to whole ticks, and what is rounded stays as it is when it is rounded again.
One seller is lost: below a single tick the limit becomes zero, which no check refuses until the
order is rounded again. -/
namespace Liki.Finance
open DecimalArithmetic Checks DecimalContext

section Increments

variable {value increment : ℚ}

theorem floorToIncrement_eq_below (nonneg : 0 ≤ value) (positive : 0 < increment) :
    floorToIncrement .exact value increment = Grid.below increment value := by
  have quotient : 0 ≤ value / increment := div_nonneg nonneg positive.le
  rw [floorToIncrement, exact_mul, exact_div, roundDown, if_pos quotient]
  rfl

theorem ceilToIncrement_eq_above (nonneg : 0 ≤ value) (positive : 0 < increment) :
    ceilToIncrement .exact value increment = Grid.above increment value := by
  have quotient : 0 ≤ value / increment := div_nonneg nonneg positive.le
  rw [ceilToIncrement, exact_mul, exact_div, roundUp, if_pos quotient]
  rfl

theorem nonneg_of_floorToIncrement_pos (positive : 0 < increment)
    (some : 0 < floorToIncrement .exact value increment) : 0 ≤ value := by
  by_contra negative
  have quotient : value / increment < 0 := div_neg_of_neg_of_pos (not_le.mp negative) positive
  have lots : (⌈value / increment⌉ : ℚ) ≤ 0 := by
    have atMost : ⌈value / increment⌉ ≤ 0 := Int.ceil_le.mpr (by exact_mod_cast quotient.le)
    exact_mod_cast atMost
  rw [floorToIncrement, exact_mul, exact_div, roundDown,
    if_neg (not_le.mpr quotient)] at some
  exact absurd some (not_lt.mpr (mul_nonpos_of_nonpos_of_nonneg lots positive.le))

end Increments

variable {order rounded : VenueOrder} {spec : InstrumentSpec}

theorem roundedOrder_quantity (ok : roundedOrder .exact order spec = .ok rounded) :
    0 ≤ order.quantity ∧ rounded.quantity = Grid.below spec.lotSize order.quantity ∧
      spec.minQuantity ≤ rounded.quantity := by
  obtain ⟨quantity, enough⟩ := roundedOrder_ok ok
  have lot := spec.increments_pos.2.1
  have some : 0 < floorToIncrement .exact order.quantity spec.lotSize := by
    rw [← quantity]
    exact spec.increments_pos.2.2.1.trans_le enough
  have nonneg := nonneg_of_floorToIncrement_pos lot some
  exact ⟨nonneg, quantity.trans (floorToIncrement_eq_below nonneg lot), enough⟩

theorem roundedPrice_ok :
    roundedPrice .exact order spec = .ok price ↔
      if order.orderType = .limit then ∃ requested, order.limitPrice = some requested ∧ 0 < requested ∧
        price = some (if order.side = .buy then Grid.above spec.tickSize requested
          else Grid.below spec.tickSize requested)
      else price = order.limitPrice := by
  have tick := spec.increments_pos.1
  unfold roundedPrice
  split
  · cases given : order.limitPrice with
    | none => simp
    | some requested =>
      by_cases positive : 0 < requested
      · dsimp only
        rw [ceilToIncrement_eq_above positive.le tick, floorToIncrement_eq_below positive.le tick]
        by_cases buys : order.side = .buy
        · simp [not_le.mpr positive, positive, buys, eq_comm]
        · simp [not_le.mpr positive, positive, buys, eq_comm]
      · simp [not_lt.mp positive, positive]
  · simp [eq_comm]

theorem roundedOrder_price (ok : roundedOrder .exact order spec = .ok rounded) :
    rounded = { order with quantity := rounded.quantity, limitPrice := rounded.limitPrice } ∧
      roundedPrice .exact order spec = .ok rounded.limitPrice := by
  simp only [roundedOrder, bind_ok, guard_ok, pure_ok] at ok
  obtain ⟨-, _, priced, rfl⟩ := ok
  exact ⟨rfl, priced⟩

structure WellRounded (order rounded : VenueOrder) (spec : InstrumentSpec) : Prop where
  lots : Grid.On spec.lotSize rounded.quantity
  atMost : rounded.quantity ≤ order.quantity
  withinLot : order.quantity < rounded.quantity + spec.lotSize
  limited : order.orderType = .limit → ∃ requested price, order.limitPrice = some requested ∧
    rounded.limitPrice = some price ∧ 0 < price ∧ Grid.On spec.tickSize price ∧
    |price - requested| < spec.tickSize ∧ (order.side = .buy → requested ≤ price) ∧
    (order.side = .sell → price ≤ requested)
  again : roundedOrder .exact rounded spec = .ok rounded

def SellsBelowTick (order : VenueOrder) (spec : InstrumentSpec) : Prop :=
  order.orderType = .limit ∧ order.side = .sell ∧ ∃ requested ∈ order.limitPrice, requested < spec.tickSize

theorem rounded_limit (limit : order.orderType = .limit) (above : ¬SellsBelowTick order spec)
    (ok : roundedOrder .exact order spec = .ok rounded) :
    ∃ requested price, order.limitPrice = some requested ∧ rounded.limitPrice = some price ∧ 0 < price ∧
      Grid.On spec.tickSize price ∧ |price - requested| < spec.tickSize ∧
      (order.side = .buy → requested ≤ price) ∧ (order.side = .sell → price ≤ requested) := by
  have tick := spec.increments_pos.1
  have priced := roundedPrice_ok.mp (roundedOrder_price ok).2
  rw [if_pos limit] at priced
  obtain ⟨requested, given, positive, kept⟩ := priced
  cases side : order.side with
  | buy =>
    rw [if_pos side] at kept
    have up := Grid.le_above requested tick
    have near := Grid.above_lt_add requested tick
    refine ⟨requested, _, given, kept, positive.trans_le up, Grid.above_on _ _, ?_, fun _ => up,
      (fun sells => by cases sells)⟩
    rw [abs_of_nonneg (sub_nonneg.mpr up)]
    linarith only [near]
  | sell =>
    have reaches : spec.tickSize ≤ requested := by
      by_contra short
      exact above ⟨limit, side, requested, given, not_le.mp short⟩
    rw [if_neg (by rw [side]; decide)] at kept
    have down := Grid.below_le requested tick
    have near := Grid.lt_below_add requested tick
    refine ⟨requested, _, given, kept, (Grid.below_pos_iff tick).mpr reaches, Grid.below_on _ _, ?_,
      (fun buys => by cases buys), fun _ => down⟩
    rw [abs_sub_comm, abs_of_nonneg (sub_nonneg.mpr down)]
    linarith only [near]

/-- Rounding again changes nothing, when there is a positive limit to round. -/
theorem rounded_again (above : ¬SellsBelowTick order spec) (ok : roundedOrder .exact order spec = .ok rounded) :
    roundedOrder .exact rounded spec = .ok rounded := by
  have lot := spec.increments_pos.2.1
  have tick := spec.increments_pos.1
  obtain ⟨nonneg, quantity, enough⟩ := roundedOrder_quantity ok
  obtain ⟨same, priced⟩ := roundedOrder_price ok
  have kept : floorToIncrement .exact rounded.quantity spec.lotSize = rounded.quantity := by
    rw [floorToIncrement_eq_below (spec.increments_pos.2.2.1.le.trans enough) lot]
    exact Grid.below_eq_self lot (quantity ▸ Grid.below_on _ _)
  have orderType : rounded.orderType = order.orderType := by rw [same]
  have side : rounded.side = order.side := by rw [same]
  have price : roundedPrice .exact rounded spec = .ok rounded.limitPrice := by
    rw [roundedPrice_ok, orderType, side]
    split
    · rename_i limit
      obtain ⟨_, price, -, kept, positive, on, -⟩ := rounded_limit limit above ok
      refine ⟨price, kept, positive, ?_⟩
      rw [kept, Grid.above_eq_self tick on, Grid.below_eq_self tick on, ite_self]
    · rfl
  rw [roundedOrder, kept, price]
  simp only [bind_ok, guard_ok, pure_ok]
  exact ⟨not_lt.mpr enough, rounded.limitPrice, rfl, rfl⟩

/-- Rounding does what is asked of it unless a sale's limit is below one tick. -/
theorem wellRounded_iff (order : VenueOrder) (spec : InstrumentSpec) (rounded : VenueOrder)
    (ok : roundedOrder .exact order spec = .ok rounded) :
    WellRounded order rounded spec ↔ ¬SellsBelowTick order spec := by
  constructor
  · rintro wellRounded ⟨limit, side, _, given, below⟩
    obtain ⟨_, _, _, kept, positive, -⟩ := wellRounded.limited limit
    have priced := roundedPrice_ok.mp (roundedOrder_price ok).2
    rw [if_pos limit] at priced
    obtain ⟨_, asked, -, rounds⟩ := priced
    rw [if_neg (by rw [side]; decide), kept] at rounds
    cases given.symm.trans asked
    rw [Option.some.injEq] at rounds
    rw [rounds, Grid.below_pos_iff spec.increments_pos.1] at positive
    exact absurd below (not_lt.mpr positive)
  · intro above
    obtain ⟨-, quantity, -⟩ := roundedOrder_quantity ok
    have lot := spec.increments_pos.2.1
    exact ⟨quantity ▸ Grid.below_on _ _, quantity ▸ Grid.below_le _ lot, quantity ▸ Grid.lt_below_add _ lot,
      fun limit => rounded_limit limit above ok, rounded_again above ok⟩

namespace UnitVenue

theorem unit_increments :
    (0 : ℚ) < 1 ∧ (0 : ℚ) < 1 ∧ (0 : ℚ) < 1 ∧ (0 : ℚ) < 1 ∧ (0 : ℚ) < 1 := by norm_num

theorem always : ∀ expiry ∈ (none : Option Time), (0 : Time) < expiry := by simp

def instrument : InstrumentSpec where
  version := "1"
  venue := "v"
  instrumentId := "i"
  contractKind := .linearPerpetual
  baseCurrency := "BASE"
  quoteCurrency := "QUOTE"
  settlementCurrency := "QUOTE"
  tickSize := 1
  lotSize := 1
  minQuantity := 1
  minNotional := 1
  maxQuantity := none
  priceLower := none
  priceUpper := none
  multiplier := 1
  effectiveFrom := 0
  effectiveTo := none
  tradingStatus := .trading
  increments_pos := unit_increments
  interval := always

def request (side : Side) (quantity : ℚ) (limitPrice : ℚ) : VenueOrder :=
  ⟨side, quantity, .limit, some limitPrice, true, false, .gtc⟩

end UnitVenue

open UnitVenue

/-- A sale at half a tick is rounded to a limit of zero, and cannot be rounded again. -/
theorem half_tick_sale_vanishes :
    roundedOrder .exact (request .sell 1 (1 / 2)) instrument = .ok (request .sell 1 0) ∧
      roundedOrder .exact (request .sell 1 0) instrument =
        .error (.value "limit order needs positive limit price") ∧
      ¬WellRounded (request .sell 1 (1 / 2)) (request .sell 1 0) instrument := by
  refine ⟨by decide +kernel, by decide +kernel, fun wellRounded => ?_⟩
  have again : roundedOrder .exact (request .sell 1 0) instrument ≠
      .ok (request .sell 1 0) := by decide +kernel
  exact again wellRounded.again

theorem wellRounded_iff_sale :
    WellRounded (request .sell (5 / 2) (3 / 2)) (request .sell 2 1) instrument := by
  refine (wellRounded_iff (request .sell (5 / 2) (3 / 2)) instrument (request .sell 2 1)
    (by decide +kernel)).mpr ?_
  rintro ⟨-, -, _, given, below⟩
  cases given
  norm_num [instrument] at below

end Liki.Finance
