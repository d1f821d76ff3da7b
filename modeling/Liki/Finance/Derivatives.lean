import Liki.Finance.RoundedOrders

/-! Perpetual positions and their liquidation. The profit of an inverse contract moves with the reciprocal
of the mark, while the maintenance margin of every contract moves with the mark itself. For a linear
contract, and for a short one, that keeps one threshold: what is liquidated stays so further against the
position. An inverse long has two, and is safe between them. -/
namespace Liki.Finance
open DecimalArithmetic Checks

inductive MarginMode where
  | cross | isolated
  deriving DecidableEq

structure MarginedSpec extends InstrumentSpec where
  maintenanceMarginRate : Option ℚ
  deriving DecidableEq

@[ext]
structure DerivativePosition where
  side : Side
  contracts : ℚ
  entryPrice : ℚ
  spec : MarginedSpec
  marginMode : MarginMode
  collateral : ℚ
  /-- `__post_init__`. -/
  not_spot : spec.contractKind ≠ .spot
  contracts_pos : 0 < contracts
  entry_pos : 0 < entryPrice

instance : DecidableEq DerivativePosition :=
  fun _ _ => decidable_of_iff _ DerivativePosition.ext_iff.symm

namespace DerivativePosition

def unrealizedPnl (ctx : DecimalContext) (position : DerivativePosition) (mark : ℚ) :
    Except FinanceError ℚ := do
  refuseIf (mark ≤ 0) (.value "mark must be positive")
  let scale := ctx.mul (ctx.mul position.side.sign position.contracts) position.spec.multiplier
  if position.spec.contractKind = .linearPerpetual then
    return ctx.mul scale (ctx.sub mark position.entryPrice)
  else
    return ctx.mul scale (ctx.sub (ctx.div 1 position.entryPrice) (ctx.div 1 mark))

def notional (ctx : DecimalContext) (position : DerivativePosition) (mark : ℚ) : ℚ :=
  ctx.mul (ctx.mul position.contracts position.spec.multiplier) mark

def maintenanceMargin (ctx : DecimalContext) (position : DerivativePosition) (mark : ℚ) :
    Except FinanceError ℚ := do
  let rate ← expect position.spec.maintenanceMarginRate
    (.value "maintenance margin is unknown; fail closed")
  return ctx.mul (position.notional ctx mark) rate

def liquidatable (ctx : DecimalContext) (position : DerivativePosition) (mark haircut : ℚ) :
    Except FinanceError Bool := do
  refuseIf (¬(0 ≤ haircut ∧ haircut < 1)) (.value "invalid collateral haircut")
  let pnl ← position.unrealizedPnl ctx mark
  let margin ← position.maintenanceMargin ctx mark
  return ctx.add (ctx.mul position.collateral (ctx.sub 1 haircut)) pnl ≤ margin

variable {position : DerivativePosition} {mark haircut rate : ℚ}

def scale (position : DerivativePosition) : ℚ := position.contracts * position.spec.multiplier

theorem scale_pos (position : DerivativePosition) : 0 < position.scale :=
  mul_pos position.contracts_pos position.spec.increments_pos.2.2.2.2

def reserve (position : DerivativePosition) (haircut : ℚ) : ℚ := position.collateral * (1 - haircut)

/-- The profit per unit of scale: the move of the mark, or of its reciprocal. -/
def gain (position : DerivativePosition) (mark : ℚ) : ℚ :=
  if position.spec.contractKind = .linearPerpetual then mark - position.entryPrice
  else 1 / position.entryPrice - 1 / mark

theorem liquidatable_iff (given : position.spec.maintenanceMarginRate = some rate)
    (counted : 0 ≤ haircut ∧ haircut < 1) (positive : 0 < mark) :
    position.liquidatable .exact mark haircut = .ok true ↔
      position.reserve haircut + position.side.sign * (position.scale * position.gain mark) ≤
        position.scale * mark * rate := by
  have pnl : position.unrealizedPnl .exact mark =
      .ok (position.side.sign * (position.scale * position.gain mark)) := by
    unfold unrealizedPnl gain
    split
    · simp only [DecimalContext.exact_mul, DecimalContext.exact_sub, bind_ok, guard_ok, pure_ok]
      exact ⟨not_le.mpr positive, by unfold scale; ring⟩
    · simp only [DecimalContext.exact_mul, DecimalContext.exact_sub, DecimalContext.exact_div,
        bind_ok, guard_ok, pure_ok]
      exact ⟨not_le.mpr positive, by unfold scale; ring⟩
  have margin : position.maintenanceMargin .exact mark = .ok (position.scale * mark * rate) := by
    simp only [maintenanceMargin, given, bind_ok, expect_ok, pure_ok]
    exact ⟨rate, rfl, rfl⟩
  simp only [liquidatable, pnl, margin, bind_ok, guard_ok, pure_ok, not_not, Except.ok.injEq,
    exists_eq_left', decide_eq_true_eq]
  exact and_iff_right counted

def Against (position : DerivativePosition) (mark further : ℚ) : Prop :=
  match position.side with
  | .buy => further < mark
  | .sell => mark < further

def LiquidatesOnward (position : DerivativePosition) (haircut : ℚ) : Prop :=
  ∀ mark further, 0 < mark → 0 < further → position.Against mark further →
    position.liquidatable .exact mark haircut = .ok true →
    position.liquidatable .exact further haircut = .ok true

/-- No profit at any mark reaches the margin: the equity of an inverse long exceeds it nowhere. -/
def NeverCovered (position : DerivativePosition) (haircut rate : ℚ) : Prop :=
  position.reserve haircut + position.scale / position.entryPrice ≤ 0 ∨
    (position.reserve haircut + position.scale / position.entryPrice) ^ 2 ≤ 4 * position.scale ^ 2 * rate

theorem gain_inverse (inverse : position.spec.contractKind = .inversePerpetual) :
    position.gain mark = 1 / position.entryPrice - 1 / mark := by
  rw [gain, inverse]
  rfl

theorem gain_mono (position : DerivativePosition) {further : ℚ} (positive : 0 < mark) (rises : mark ≤ further) :
    position.gain mark ≤ position.gain further := by
  unfold gain
  split
  · exact sub_le_sub_right rises _
  · exact sub_le_sub_left (one_div_le_one_div_of_le positive rises) _

theorem onward_of_short (short : position.side = .sell)
    (given : position.spec.maintenanceMarginRate = some rate) (rate_pos : 0 < rate)
    (counted : 0 ≤ haircut ∧ haircut < 1) : position.LiquidatesOnward haircut := by
  intro mark further positive positiveToo against liquidated
  rw [Against, short] at against
  rw [liquidatable_iff given counted positive, short, Side.sign_sell, neg_one_mul] at liquidated
  rw [liquidatable_iff given counted positiveToo, short, Side.sign_sell, neg_one_mul]
  have scale := position.scale_pos
  have loses := mul_le_mul_of_nonneg_left (gain_mono position positive against.le) scale.le
  have margin : position.scale * mark * rate ≤ position.scale * further * rate :=
    mul_le_mul_of_nonneg_right (mul_le_mul_of_nonneg_left against.le scale.le) rate_pos.le
  linarith only [liquidated, loses, margin]

theorem onward_of_linear (linear : position.spec.contractKind = .linearPerpetual) (long : position.side = .buy)
    (given : position.spec.maintenanceMarginRate = some rate) (rate_lt : rate < 1)
    (counted : 0 ≤ haircut ∧ haircut < 1) : position.LiquidatesOnward haircut := by
  intro mark further positive positiveToo against liquidated
  rw [Against, long] at against
  rw [liquidatable_iff given counted positive, long, Side.sign_buy, one_mul, gain, if_pos linear] at liquidated
  rw [liquidatable_iff given counted positiveToo, long, Side.sign_buy, one_mul, gain, if_pos linear]
  have falls : 0 ≤ position.scale * (mark - further) * (1 - rate) :=
    mul_nonneg (mul_nonneg position.scale_pos.le (sub_nonneg.mpr against.le)) (sub_nonneg.mpr rate_lt.le)
  linarith only [liquidated, falls]

theorem liquidatable_inverse_long (inverse : position.spec.contractKind = .inversePerpetual)
    (long : position.side = .buy) (given : position.spec.maintenanceMarginRate = some rate)
    (counted : 0 ≤ haircut ∧ haircut < 1) (positive : 0 < mark) :
    position.liquidatable .exact mark haircut = .ok true ↔
      position.reserve haircut + position.scale / position.entryPrice ≤
        position.scale / mark + position.scale * mark * rate := by
  rw [liquidatable_iff given counted positive, long, Side.sign_buy, one_mul, gain_inverse inverse]
  have split : position.scale * (1 / position.entryPrice - 1 / mark) =
      position.scale / position.entryPrice - position.scale / mark := by ring
  rw [split, ← add_sub_assoc, sub_le_iff_le_add']

/-- The two weights are never less than twice their geometric mean. -/
theorem outweighs {scale mark rate held : ℚ} (scale_pos : 0 < scale) (mark_pos : 0 < mark) (rate_pos : 0 < rate)
    (never : held ≤ 0 ∨ held ^ 2 ≤ 4 * scale ^ 2 * rate) : held ≤ scale / mark + scale * mark * rate := by
  have weights : 0 < scale / mark + scale * mark * rate := by positivity
  rcases never with none | small
  · exact none.trans weights.le
  · have mean : 4 * scale ^ 2 * rate ≤ (scale / mark + scale * mark * rate) ^ 2 := by
      have square := sq_nonneg (scale / mark - scale * mark * rate)
      have product : scale / mark * (scale * mark * rate) = scale ^ 2 * rate := by
        field_simp
      calc 4 * scale ^ 2 * rate = 4 * (scale / mark * (scale * mark * rate)) := by rw [product]; ring
        _ ≤ (scale / mark - scale * mark * rate) ^ 2 + 4 * (scale / mark * (scale * mark * rate)) :=
          le_add_of_nonneg_left square
        _ = (scale / mark + scale * mark * rate) ^ 2 := by ring
    exact (le_abs_self held).trans (abs_le_of_sq_le_sq (small.trans mean) weights.le)

theorem safe_below {scale rate held : ℚ} (scale_pos : 0 < scale) (rate_pos : 0 < rate) (some : 0 < held)
    (large : 4 * scale ^ 2 * rate < held ^ 2) :
    held ≤ scale / (held / (scale * rate)) + scale * (held / (scale * rate)) * rate ∧
      ¬held ≤ scale / (held / (2 * scale * rate)) + scale * (held / (2 * scale * rate)) * rate := by
  have upper : scale * (held / (scale * rate)) * rate = held := by field_simp
  have lower : scale * (held / (2 * scale * rate)) * rate = held / 2 := by field_simp
  have below : scale / (held / (2 * scale * rate)) = 2 * scale ^ 2 * rate / held := by field_simp
  refine ⟨?_, not_le.mpr ?_⟩
  · rw [upper]
    exact le_add_of_nonneg_left (by positivity)
  · rw [lower, below]
    have half : 2 * scale ^ 2 * rate / held < held / 2 := by
      rw [div_lt_div_iff₀ some two_pos]
      linarith only [large]
    linarith only [half]

theorem onward_iff_of_inverse_long (inverse : position.spec.contractKind = .inversePerpetual)
    (long : position.side = .buy) (given : position.spec.maintenanceMarginRate = some rate) (rate_pos : 0 < rate)
    (counted : 0 ≤ haircut ∧ haircut < 1) :
    position.LiquidatesOnward haircut ↔ position.NeverCovered haircut rate := by
  have scale := position.scale_pos
  constructor
  · intro onward
    by_contra covered
    obtain ⟨some, large⟩ := not_or.mp covered
    obtain ⟨liquidated, safe⟩ := safe_below scale rate_pos (not_le.mp some) (not_le.mp large)
    have held := not_le.mp some
    have upper : 0 < (position.reserve haircut + position.scale / position.entryPrice) / (position.scale * rate) := by
      positivity
    have lower :
        0 < (position.reserve haircut + position.scale / position.entryPrice) / (2 * position.scale * rate) := by
      positivity
    have against : position.Against
        ((position.reserve haircut + position.scale / position.entryPrice) / (position.scale * rate))
        ((position.reserve haircut + position.scale / position.entryPrice) / (2 * position.scale * rate)) := by
      rw [Against, long]
      refine div_lt_div_of_pos_left held (by positivity) ?_
      linarith only [mul_pos scale rate_pos]
    refine safe ((liquidatable_inverse_long inverse long given counted lower).mp ?_)
    exact onward _ _ upper lower against
      ((liquidatable_inverse_long inverse long given counted upper).mpr liquidated)
  · intro never mark further _ positive _ _
    rw [liquidatable_inverse_long inverse long given counted positive]
    exact outweighs scale positive rate_pos never

/-- What is liquidated stays so further against the position, except for an inverse long that is safe
anywhere. -/
theorem liquidates_onward_iff (position : DerivativePosition) (haircut rate : ℚ)
    (given : position.spec.maintenanceMarginRate = some rate) (proper : 0 < rate ∧ rate < 1)
    (counted : 0 ≤ haircut ∧ haircut < 1) :
    position.LiquidatesOnward haircut ↔
      (position.spec.contractKind = .inversePerpetual → position.side = .buy →
        position.NeverCovered haircut rate) := by
  cases side : position.side with
  | sell => exact iff_of_true (onward_of_short side given proper.1 counted) fun _ long => by cases long
  | buy =>
    cases kind : position.spec.contractKind with
    | spot => exact absurd kind position.not_spot
    | linearPerpetual =>
      exact iff_of_true (onward_of_linear kind side given proper.2 counted) fun inverse => by cases inverse
    | inversePerpetual =>
      rw [onward_iff_of_inverse_long kind side given proper.1 counted]
      exact ⟨fun never _ _ => never, fun never => never rfl rfl⟩

end DerivativePosition

namespace UnitVenue

def inverse : MarginedSpec where
  toInstrumentSpec := { instrument with contractKind := .inversePerpetual }
  maintenanceMarginRate := some (1 / 10)

theorem inverse_not_spot : inverse.contractKind ≠ .spot := by decide

theorem unit_price : (0 : ℚ) < 1 := one_pos

/-- One contract bought at 1. -/
def long (collateral : ℚ) : DerivativePosition :=
  ⟨.buy, 1, 1, inverse, .cross, collateral, inverse_not_spot, unit_price, unit_price⟩

theorem tenth_proper : (0 : ℚ) < 1 / 10 ∧ (1 / 10 : ℚ) < 1 := by norm_num

end UnitVenue

open UnitVenue

/-- An inverse long with a collateral of 1 is liquidated at 20 and safe at 10. -/
theorem inverse_long_safe_below :
    (long 1).liquidatable .exact 20 0 = .ok true ∧
      (long 1).liquidatable .exact 10 0 = .ok false ∧ ¬(long 1).LiquidatesOnward 0 := by
  have liquidated : (long 1).liquidatable .exact 20 0 = .ok true := by decide +kernel
  have safe : (long 1).liquidatable .exact 10 0 = .ok false := by decide +kernel
  refine ⟨liquidated, safe, fun onward => ?_⟩
  have further : (long 1).Against 20 10 := by norm_num [DerivativePosition.Against, long]
  have stays := onward 20 10 (by norm_num) (by norm_num) further liquidated
  rw [safe] at stays
  cases stays

/-- Without collateral to speak of it is liquidated everywhere. -/
theorem liquidates_onward_iff_bare : (long (-1)).LiquidatesOnward 0 := by
  refine (DerivativePosition.liquidates_onward_iff (long (-1)) 0 (1 / 10) rfl tenth_proper
    ⟨le_rfl, one_pos⟩).mpr fun _ _ => .inl ?_
  decide +kernel

end Liki.Finance
