import Liki.Finance.Execution

/-! The terms of a simulated fill. An order that waits is filled at its own limit. An order that
takes liquidity is priced at the opposite quote, moved away by a multiple of half the spread that
has no bound, after the quote was compared with the limit: the move can carry the price past the
limit, and a sale below zero. -/
namespace Liki.Finance
open DecimalArithmetic Checks DecimalContext

structure OnTerms (ctx : DecimalContext) (model : FillModel) (order : OrderIntent)
    (snapshot : MarketSnapshot) (fill : SimulatedFill) : Prop where
  priced : 0 < fill.price
  limited : ∀ limit ∈ order.limitPrice,
    (order.side = .buy → fill.price ≤ limit) ∧ (order.side = .sell → limit ≤ fill.price)
  taken : 0 < fill.quantity
  ordered : fill.quantity ≤ order.quantity
  shared : fill.quantity ≤ ctx.mul snapshot.availableQuantity model.participationLimit
  late : order.submissionTime + model.latency ≤ snapshot.timestamp

namespace FillModel

/-- How far the stress moves a price beyond the quote. -/
def adverseMove (model : FillModel) (snapshot : MarketSnapshot) : ℚ :=
  (model.stressMultiplier - 1) * ((snapshot.ask - snapshot.bid) / 2)

theorem adverseMove_nonneg (model : FillModel) (snapshot : MarketSnapshot) : 0 ≤ model.adverseMove snapshot :=
  mul_nonneg (sub_nonneg.mpr model.stress_ge)
    (div_nonneg (sub_nonneg.mpr snapshot.bid_le_ask) zero_le_two)

def Covers (model : FillModel) (order : OrderIntent) (snapshot : MarketSnapshot) : Prop :=
  match order.side with
  | .buy => ∀ limit ∈ order.limitPrice, model.adverseMove snapshot ≤ limit - snapshot.ask
  | .sell => model.adverseMove snapshot < snapshot.bid ∧
    ∀ limit ∈ order.limitPrice, model.adverseMove snapshot ≤ snapshot.bid - limit

structure Unrounded (ctx : DecimalContext) (model : FillModel) (side : Side) (snapshot : MarketSnapshot) :
    Prop where
  spread : ctx.Fits (snapshot.ask - snapshot.bid)
  half : ctx.Fits ((snapshot.ask - snapshot.bid) / 2)
  excess : ctx.Fits (model.stressMultiplier - 1)
  move : ctx.Fits (model.adverseMove snapshot)
  price : ctx.Fits ((if side = .buy then snapshot.ask else snapshot.bid) +
    model.adverseMove snapshot * side.sign)

theorem Unrounded.of_exact (model : FillModel) (side : Side) (snapshot : MarketSnapshot) :
    Unrounded .exact model side snapshot := ⟨rfl, rfl, rfl, rfl, rfl⟩

variable {ctx : DecimalContext} {model : FillModel} {order : OrderIntent} {snapshot : MarketSnapshot}
  {fill : SimulatedFill}

theorem Unrounded.takerPrice (unrounded : Unrounded ctx model side snapshot) :
    model.takerPrice ctx side snapshot =
      (if side = .buy then snapshot.ask else snapshot.bid) + model.adverseMove snapshot * side.sign := by
  have moved : ctx.mul ((snapshot.ask - snapshot.bid) / 2) (model.stressMultiplier - 1) =
      model.adverseMove snapshot := by
    rw [mul, mul_comm]
    exact unrounded.move
  have signed : ctx.mul (model.adverseMove snapshot) side.sign = model.adverseMove snapshot * side.sign := by
    refine mul_of_fits ?_
    cases side with
    | buy => rw [Side.sign_buy, mul_one]; exact unrounded.move
    | sell => rw [Side.sign_sell, mul_neg_one]; exact fits_neg unrounded.move
  rw [FillModel.takerPrice, sub_of_fits unrounded.spread,
    div_of_fits unrounded.half, sub_of_fits unrounded.excess, moved, signed]
  exact add_of_fits unrounded.price

theorem simulate_late (ok : model.simulate ctx order snapshot = .ok (some fill)) :
    order.submissionTime + model.latency ≤ snapshot.timestamp := by
  unfold simulate at ok
  split at ok
  · cases ok
  · rename_i passed
    exact not_lt.mp passed

theorem onTerms_iff (ok : model.simulate ctx order snapshot = .ok (some fill)) :
    OnTerms ctx model order snapshot fill ↔ 0 < fill.price ∧ ∀ limit ∈ order.limitPrice,
      (order.side = .buy → fill.price ≤ limit) ∧ (order.side = .sell → limit ≤ fill.price) := by
  constructor
  · intro terms
    exact ⟨terms.priced, terms.limited⟩
  · rintro ⟨priced, limited⟩
    obtain ⟨taken, size, -⟩ := simulate_ok ok
    exact ⟨priced, limited, taken, size ▸ min_le_left _ _, size ▸ min_le_right _ _, simulate_late ok⟩

theorem waiting_onTerms (given : ∀ limit ∈ order.limitPrice, 0 < limit)
    (ok : model.simulate ctx order snapshot = .ok (some fill)) (waits : marketable order snapshot = false) :
    OnTerms ctx model order snapshot fill := by
  obtain ⟨-, -, terms⟩ := simulate_ok ok
  rw [waits, if_neg Bool.false_ne_true] at terms
  obtain ⟨atLimit, -⟩ := terms
  refine (onTerms_iff ok).mpr ⟨given _ atLimit, fun limit same => ?_⟩
  have equal : limit = fill.price := Option.some_injective _ (same.symm.trans atLimit)
  exact ⟨fun _ => equal.ge, fun _ => equal.le⟩

theorem taking_onTerms_iff (unrounded : Unrounded ctx model order.side snapshot)
    (ok : model.simulate ctx order snapshot = .ok (some fill)) (takes : marketable order snapshot = true) :
    OnTerms ctx model order snapshot fill ↔ model.Covers order snapshot := by
  obtain ⟨-, -, terms⟩ := simulate_ok ok
  rw [if_pos takes] at terms
  obtain ⟨price, -⟩ := terms
  rw [onTerms_iff ok, price, unrounded.takerPrice, Covers]
  have ask_pos : 0 < snapshot.ask := snapshot.bid_pos.trans_le snapshot.bid_le_ask
  have move_nonneg := model.adverseMove_nonneg snapshot
  cases side : order.side with
  | buy =>
    simp only [if_true, Side.sign_buy, mul_one, reduceCtorEq, false_implies, and_true, true_implies,
      le_sub_iff_add_le']
    exact and_iff_right (by linarith only [ask_pos, move_nonneg])
  | sell =>
    simp only [reduceCtorEq, if_false, Side.sign_sell, mul_neg_one, ← sub_eq_add_neg, false_implies,
      true_and, true_implies, sub_pos]
    refine and_congr_right fun _ => forall₂_congr fun limit _ => ?_
    exact le_sub_comm

end FillModel

/-- A fill keeps its quantity and its time within bounds whatever the arithmetic rounds. Its price
is on the order's terms when the order waits; when it takes, and nothing is rounded, exactly when
the stress moves the price no further than the limit, and for a sale less than the bid. -/
theorem fill_onTerms_iff (model : FillModel) (order : OrderIntent) (snapshot : MarketSnapshot)
    (given : ∀ limit ∈ order.limitPrice, 0 < limit) :
    (∀ ctx fill, model.simulate ctx order snapshot = .ok (some fill) →
      (0 < fill.quantity ∧ fill.quantity ≤ order.quantity ∧
        fill.quantity ≤ ctx.mul snapshot.availableQuantity model.participationLimit ∧
        order.submissionTime + model.latency ≤ snapshot.timestamp) ∧
      (FillModel.marketable order snapshot = false → OnTerms ctx model order snapshot fill)) ∧
    ∀ ctx fill, FillModel.Unrounded ctx model order.side snapshot →
      model.simulate ctx order snapshot = .ok (some fill) →
      (OnTerms ctx model order snapshot fill ↔
        (FillModel.marketable order snapshot = true → model.Covers order snapshot)) := by
  refine ⟨fun ctx fill ok => ⟨?_, FillModel.waiting_onTerms given ok⟩, fun ctx fill unrounded ok => ?_⟩
  · obtain ⟨taken, size, -⟩ := FillModel.simulate_ok ok
    exact ⟨taken, size ▸ min_le_left _ _, size ▸ min_le_right _ _, FillModel.simulate_late ok⟩
  · cases takes : FillModel.marketable order snapshot with
    | false => exact iff_of_true (FillModel.waiting_onTerms given ok takes) (by simp)
    | true =>
      rw [FillModel.taking_onTerms_iff unrounded ok takes]
      simp

namespace Stressed

theorem tripled : (1 : ℚ) ≤ 3 := by norm_num

theorem whole_pos : (0 : ℚ) < 1 := one_pos

theorem whole_nonneg : (0 : ℚ) ≤ 1 := zero_le_one

theorem whole_at_most : (1 : ℚ) ≤ 1 := le_rfl

theorem immediate : (0 : ℤ) ≤ 0 := le_rfl

theorem unqueued : FidelityTier.f1TradeBbo = .f3SeqL2 ∨ FidelityTier.f1TradeBbo = .f4OrderLevel →
    ∃ assumption ∈ (none : Option String), assumption ≠ "" := by simp

def model : FillModel where
  version := "v1"
  minimumFidelity := .f1TradeBbo
  participationLimit := 1
  latency := 0
  queueAssumption := none
  stressMultiplier := 3
  participation_pos := whole_pos
  participation_le := whole_at_most
  latency_nonneg := immediate
  stress_ge := tripled
  queue_explicit := unqueued

def snapshot : MarketSnapshot where
  timestamp := 0
  bid := 1
  ask := 3
  availableQuantity := 1
  fidelity := .f1TradeBbo
  bookSequenceValid := true
  observedAt := none
  bid_pos := whole_pos
  bid_le_ask := tripled
  available_nonneg := whole_nonneg

/-- An order of one unit at what it takes at once. -/
def order (side : Side) (orderType : OrderType) (limitPrice : Option ℚ) : OrderIntent :=
  ⟨"c", "s", "v", "i", side, 1, orderType, limitPrice, 0, 0, 0, 0, false, false, .gtc⟩

end Stressed

open Stressed

/-- Valid orders whose fills are beyond the limit and below zero. -/
theorem stress_passes_limit :
    (order .buy .limit (some 3)).validate = .ok (order .buy .limit (some 3)) ∧
      model.simulate prec28 (order .buy .limit (some 3)) snapshot =
        .ok (some ⟨1, 5, .taker, none⟩) ∧
      ¬OnTerms prec28 model (order .buy .limit (some 3)) snapshot
        ⟨1, 5, .taker, none⟩ ∧
      (order .sell .market none).validate = .ok (order .sell .market none) ∧
      model.simulate prec28 (order .sell .market none) snapshot =
        .ok (some ⟨1, -1, .taker, none⟩) := by
  refine ⟨by decide, by decide +kernel, fun terms => ?_, by decide, by decide +kernel⟩
  have within := (terms.limited 3 rfl).1 rfl
  norm_num at within

theorem fill_onTerms_iff_five :
    model.simulate .exact (order .buy .limit (some 5)) snapshot =
        .ok (some ⟨1, 5, .taker, none⟩) ∧
      OnTerms .exact model (order .buy .limit (some 5)) snapshot
        ⟨1, 5, .taker, none⟩ := by
  have filled : model.simulate .exact (order .buy .limit (some 5)) snapshot =
      .ok (some ⟨1, 5, .taker, none⟩) := by decide +kernel
  have terms := (fill_onTerms_iff model (order .buy .limit (some 5)) snapshot
    (by simp [order])).2 .exact ⟨1, 5, .taker, none⟩ (.of_exact _ _ _) filled
  refine ⟨filled, terms.mpr fun _ limit given => ?_⟩
  cases given
  norm_num [FillModel.adverseMove, model, snapshot]

end Liki.Finance
