import Liki.Finance.Pretrade
import Liki.Finance.Accounting
import Liki.Finance.RoundedOrders

/-! Reduce-only orders. The check compares the size of the position with its size after a complete
fill. That refuses every order on the side already held, but on the other side it lets through twice
the position: such an order closes the position and opens the opposite one. -/
namespace Liki.Finance
open DecimalArithmetic Checks

def filledPosition (side : Side) (position quantity : ℚ) : ℚ := position + side.sign * quantity

/-- On the same side or gone, and no larger. -/
def Reduces (before after : ℚ) : Prop :=
  (after = 0 ∨ (0 < before ∧ 0 < after) ∨ (before < 0 ∧ after < 0)) ∧ |after| ≤ |before|

def ReducesThroughout (side : Side) : ℚ → List ℚ → Prop
  | _, [] => True
  | position, quantity :: quantities => Reduces position (filledPosition side position quantity) ∧
    ReducesThroughout side (filledPosition side position quantity) quantities

structure PartialFills (whole : ℚ) (quantities : List ℚ) : Prop where
  positive : ∀ quantity ∈ quantities, 0 < quantity
  within : quantities.sum ≤ whole

def Opposes (side : Side) (position quantity : ℚ) : Prop :=
  side.sign * position ≤ 0 ∧ quantity ≤ |position|

theorem opposes_iff (positive : 0 < quantity) :
    Opposes side position quantity ↔ quantity ≤ -(side.sign * position) := by
  have size : side.sign * position ≤ 0 → |position| = -(side.sign * position) := by
    intro opposite
    cases side with
    | buy =>
      rw [Side.sign_buy, one_mul] at opposite ⊢
      exact abs_of_nonpos opposite
    | sell =>
      rw [Side.sign_sell, neg_one_mul] at opposite ⊢
      rw [neg_neg]
      exact abs_of_nonneg (neg_nonpos.mp opposite)
  constructor
  · rintro ⟨opposite, within⟩
    exact within.trans_eq (size opposite)
  · intro within
    have opposite : side.sign * position ≤ 0 := by linarith only [positive, within]
    exact ⟨opposite, within.trans_eq (size opposite).symm⟩

theorem sign_filledPosition (side : Side) (position quantity : ℚ) :
    -(side.sign * filledPosition side position quantity) = -(side.sign * position) - quantity := by
  cases side <;> simp only [filledPosition, Side.sign_buy, Side.sign_sell] <;> ring

theorem reduces_iff (positive : 0 < quantity) :
    Reduces position (filledPosition side position quantity) ↔ quantity ≤ -(side.sign * position) := by
  unfold Reduces filledPosition
  cases side with
  | buy =>
    rw [Side.sign_buy, one_mul, one_mul]
    constructor
    · rintro ⟨gone | ⟨long, more⟩ | ⟨-, short⟩, smaller⟩
      · linarith only [gone]
      · rw [abs_of_pos long, abs_of_pos more] at smaller
        linarith only [smaller, positive]
      · linarith only [short]
    · intro within
      have after : position + quantity ≤ 0 := by linarith only [within]
      have before : position < 0 := by linarith only [within, positive]
      refine ⟨?_, ?_⟩
      · rcases after.eq_or_lt with gone | short
        · exact .inl gone
        · exact .inr (.inr ⟨before, short⟩)
      · rw [abs_of_nonpos after, abs_of_neg before]
        linarith only [positive]
  | sell =>
    rw [Side.sign_sell, neg_one_mul, neg_one_mul, neg_neg, ← sub_eq_add_neg]
    constructor
    · rintro ⟨gone | ⟨-, long⟩ | ⟨short, more⟩, smaller⟩
      · linarith only [gone]
      · linarith only [long]
      · rw [abs_of_neg short, abs_of_neg more] at smaller
        linarith only [smaller, positive]
    · intro within
      have after : 0 ≤ position - quantity := by linarith only [within]
      have before : 0 < position := by linarith only [within, positive]
      refine ⟨?_, ?_⟩
      · rcases after.eq_or_lt with gone | long
        · exact .inl gone.symm
        · exact .inr (.inl ⟨before, long⟩)
      · rw [abs_of_nonneg after, abs_of_pos before]
        linarith only [positive]

theorem reducesThroughout_of_covered (positive : ∀ quantity ∈ quantities, 0 < quantity)
    (covered : quantities.sum ≤ -(side.sign * position)) :
    ReducesThroughout side position quantities := by
  induction quantities generalizing position with
  | nil => trivial
  | cons quantity quantities ih =>
    rw [List.sum_cons] at covered
    have rest : ∀ quantity ∈ quantities, 0 < quantity :=
      fun quantity member => positive quantity (List.mem_cons_of_mem _ member)
    have nonneg : 0 ≤ quantities.sum := List.sum_nonneg fun quantity member => (rest quantity member).le
    refine ⟨(reduces_iff (positive quantity List.mem_cons_self)).mpr (by linarith only [covered, nonneg]), ?_⟩
    apply ih rest
    rw [sign_filledPosition]
    linarith only [covered]

theorem reducesThroughout_iff (some : 0 < whole) :
    (∀ quantities, PartialFills whole quantities → ReducesThroughout side position quantities) ↔
      Opposes side position whole := by
  rw [opposes_iff some]
  constructor
  · intro reduces
    have single : PartialFills whole [whole] := ⟨by simpa using some, by simp⟩
    exact (reduces_iff some).mp (reduces [whole] single).1
  · intro covered quantities fills
    exact reducesThroughout_of_covered fills.positive (fills.within.trans covered)

variable {ctx : DecimalContext} {order : VenueOrder} {spec : InstrumentSpec} {reference position : ℚ}

theorem validateOrder_ok (ok : validateOrder ctx order spec reference position = .ok ()) :
    spec.minQuantity ≤ floorToIncrement ctx order.quantity spec.lotSize ∧
      (order.reduceOnly = true → ctx.abs (ctx.add position
        (ctx.mul order.side.sign (floorToIncrement ctx order.quantity spec.lotSize))) ≤ ctx.abs position) := by
  simp only [validateOrder, bind_ok, refuseIf_ok, exists_const] at ok
  obtain ⟨-, -, rounded, rounds, -, -, -, guarded⟩ := ok
  obtain ⟨quantity, enough⟩ := roundedOrder_ok rounds
  have kept : rounded.reduceOnly = order.reduceOnly ∧ rounded.side = order.side := by
    simp only [roundedOrder, bind_ok, refuseIf_ok, exists_const, pure_ok] at rounds
    obtain ⟨-, -, -, rfl⟩ := rounds
    exact ⟨rfl, rfl⟩
  refine ⟨quantity ▸ enough, fun only => ?_⟩
  rw [kept.1, kept.2, quantity, not_and, not_lt] at guarded
  exact guarded only

theorem guarded_size (some : 0 < quantity)
    (guarded : |filledPosition side position quantity| ≤ |position|) :
    side.sign * position < 0 ∧ quantity ≤ 2 * |position| := by
  have squares := sq_le_sq.mpr guarded
  cases side with
  | buy =>
    rw [filledPosition, Side.sign_buy, one_mul] at squares
    have short : position < 0 := by
      by_contra long
      nlinarith only [squares, some, not_lt.mp long]
    rw [Side.sign_buy, one_mul, abs_of_neg short]
    exact ⟨short, by nlinarith only [squares, some]⟩
  | sell =>
    rw [filledPosition, Side.sign_sell, neg_one_mul] at squares
    have long : 0 < position := by
      by_contra short
      nlinarith only [squares, some, not_lt.mp short]
    rw [Side.sign_sell, neg_one_mul, abs_of_pos long]
    exact ⟨neg_neg_of_pos long, by nlinarith only [squares, some]⟩

/-- An accepted reduce-only order can only close the position exactly when it opposes the position and
is no larger. Without rounding the check ensures the first and twice the second. -/
theorem reduce_only_iff (ctx : DecimalContext) (spec : InstrumentSpec) (position : ℚ) :
    (∀ order reference, order.reduceOnly = true →
      validateOrder ctx order spec reference position = .ok () →
      ((∀ quantities, PartialFills (floorToIncrement ctx order.quantity spec.lotSize) quantities →
          ReducesThroughout order.side position quantities) ↔
        Opposes order.side position (floorToIncrement ctx order.quantity spec.lotSize))) ∧
    (∀ intent snapshot envelope portfolio now reservation, intent.reduceOnly = true →
      pretradeCheck ctx intent spec snapshot envelope position portfolio now = .ok reservation →
      ((∀ quantities, PartialFills reservation.normalizedQuantity quantities →
          ReducesThroughout intent.side position quantities) ↔
        Opposes intent.side position (floorToIncrement ctx intent.quantity spec.lotSize))) ∧
    ∀ order reference, order.reduceOnly = true →
      validateOrder .exact order spec reference position = .ok () →
      order.side.sign * position < 0 ∧
        floorToIncrement .exact order.quantity spec.lotSize ≤ 2 * |position| := by
  refine ⟨fun order reference _ ok => ?_, fun intent snapshot envelope portfolio now reservation _ ok => ?_,
    fun order reference only ok => ?_⟩
  · exact reducesThroughout_iff (spec.increments_pos.2.2.1.trans_le (validateOrder_ok ok).1)
  · obtain ⟨-, -, enough, -⟩ := pretradeCheck_ok ok
    rw [← pretradeCheck_quantity ok]
    exact reducesThroughout_iff (spec.increments_pos.2.2.1.trans_le enough)
  · obtain ⟨enough, guarded⟩ := validateOrder_ok ok
    exact guarded_size (spec.increments_pos.2.2.1.trans_le enough) (guarded only)

namespace UnitVenue

theorem bounded : (0 : ℚ) < 100 ∧ (0 : ℚ) < 100 ∧ (0 : ℚ) < 100 := by norm_num

def envelope : RiskEnvelope := ⟨"1", 100, 100, 100, 60, .paper, bounded⟩

theorem quoted_pos : (0 : ℚ) < 1 := one_pos

theorem quoted_tight : (1 : ℚ) ≤ 1 := le_rfl

theorem quoted_available : (0 : ℚ) ≤ 10 := by norm_num

def quote : MarketSnapshot := ⟨0, 1, 1, 10, .f1TradeBbo, true, none, quoted_pos, quoted_tight, quoted_available⟩

def sale (quantity : ℚ) : OrderIntent :=
  ⟨"c", "s", "v", "i", .sell, quantity, .limit, some 1, 0, 0, 0, 0, true, false, .gtc⟩

end UnitVenue

open UnitVenue

/-- One unit is held; a sale of two is accepted, and its second half opens a short position. -/
theorem reduce_only_flips :
    (sale 2).validate = .ok (sale 2) ∧
      validateOrder prec28 (sale 2).venueOrder instrument 1 1 = .ok () ∧
      (pretradeCheck prec28 (sale 2) instrument quote envelope 1 0 0).map
        Reservation.normalizedQuantity = .ok 2 ∧
      PartialFills 2 [1, 1] ∧ filledPosition .sell (filledPosition .sell 1 1) 1 = -1 ∧
      ¬ReducesThroughout .sell 1 [1, 1] := by
  refine ⟨by decide, by decide +kernel, by decide +kernel, ⟨by decide, by decide +kernel⟩, by decide +kernel, ?_⟩
  rintro ⟨-, opening, -⟩
  have larger := opening.2
  norm_num [filledPosition] at larger

theorem reduce_only_iff_closing :
    validateOrder prec28 (sale 1).venueOrder instrument 1 1 = .ok () ∧
      ∀ quantities, PartialFills 1 quantities → ReducesThroughout .sell 1 quantities := by
  have accepted : validateOrder prec28 (sale 1).venueOrder instrument 1 1 = .ok () := by
    decide +kernel
  have lots : floorToIncrement prec28 (sale 1).venueOrder.quantity
      instrument.lotSize = 1 := by
    decide +kernel
  have closes := (reduce_only_iff prec28 instrument 1).1 (sale 1).venueOrder 1 rfl accepted
  rw [lots] at closes
  exact ⟨accepted, closes.mpr ⟨by decide +kernel, by decide +kernel⟩⟩

end Liki.Finance
