import Liki.Paper.Reservations

/-! What the fills of an order make of its reservation. Every fill splits the
original amount anew: the share of the filled quantity becomes position, the rest
goes on working. The quotient and the product behind the share are rounded, and so
is the rest, while the database adds the three parts exactly. So a fill passes the
conservation check if and only if the rest beside its share needs no rounding. -/
namespace Liki.Paper
open DecimalArithmetic Checks CallSystem Finance DecimalContext

variable {ctx : DecimalContext} {amount quantity : ℚ} {fills : List ℚ}

def filledShare (ctx : DecimalContext) (amount filled quantity : ℚ) : ℚ :=
  ctx.mul amount (ctx.div filled quantity)

def LeavesRest (ctx : DecimalContext) (amount filled quantity : ℚ) : Prop :=
  filledShare ctx amount filled quantity ≤ amount ∧
    ctx.Fits (amount - filledShare ctx amount filled quantity)

instance (ctx : DecimalContext) (amount filled quantity : ℚ) :
    Decidable (LeavesRest ctx amount filled quantity) :=
  inferInstanceAs (Decidable (_ ∧ _))

def filledQuantities (ctx : DecimalContext) : ℚ → List ℚ → List ℚ
  | _, [] => []
  | filled, fill :: fills => ctx.add filled fill :: filledQuantities ctx (ctx.add filled fill) fills

def ReservedAmounts.booked (amount : ℚ) (positive : 0 < amount) : ReservedAmounts :=
  ⟨amount, amount, 0, 0, positive, ⟨positive.le, le_rfl, le_rfl⟩, by ring⟩

/-- The amounts of a reservation after the fills of its order, one `record_fill` each. -/
def convertFills (ctx : DecimalContext) (quantity : ℚ) :
    ReservedAmounts → ℚ → List ℚ → Except ServiceError ReservedAmounts
  | amounts, _, [] => .ok amounts
  | amounts, filled, fill :: fills => do
    let amounts ← filledAmounts ctx amounts (ctx.add filled fill) quantity
    convertFills ctx quantity amounts (ctx.add filled fill) fills

theorem filledShare_nonneg (keeps : ctx.KeepsDigits) (positive : 0 < amount)
    (ordered : 0 < quantity) (some : 0 ≤ filled) : 0 ≤ filledShare ctx amount filled quantity := by
  have ratio : 0 ≤ ctx.div filled quantity :=
    round_nonneg keeps (div_nonneg some ordered.le)
  exact round_nonneg keeps (mul_nonneg positive.le ratio)

theorem build_iff :
    (∃ amounts, ReservedAmounts.build original working position released = .ok amounts) ↔
      0 < original ∧ (0 ≤ working ∧ 0 ≤ position ∧ 0 ≤ released) ∧
        working + position + released = original := by
  unfold ReservedAmounts.build
  constructor
  · rintro ⟨_, ok⟩
    split at ok
    · split at ok
      · split at ok
        · exact ⟨‹_›, ‹_›, ‹_›⟩
        · cases ok
      · cases ok
    · cases ok
  · rintro ⟨positive, nonneg, conserved⟩
    rw [dif_pos positive, dif_pos nonneg, dif_pos conserved]
    exact ⟨_, rfl⟩

/-- One fill is booked if and only if the rest beside its share needs no rounding. -/
theorem filledAmounts_iff (keeps : ctx.KeepsDigits) (ordered : 0 < quantity) (some : 0 ≤ filled)
    (unreleased : amounts.released = 0) :
    (∃ converted, filledAmounts ctx amounts filled quantity = .ok converted) ↔
      LeavesRest ctx amounts.original filled quantity := by
  have share := filledShare_nonneg keeps amounts.original_pos ordered some
  change (∃ converted, ReservedAmounts.build amounts.original
    (ctx.sub amounts.original (filledShare ctx amounts.original filled quantity))
    (filledShare ctx amounts.original filled quantity) amounts.released = .ok converted) ↔ _
  rw [build_iff, unreleased]
  constructor
  · rintro ⟨-, ⟨rest, -, -⟩, _⟩
    have exactly : ctx.sub amounts.original (filledShare ctx amounts.original filled quantity) =
        amounts.original - filledShare ctx amounts.original filled quantity := by linarith
    rw [exactly] at rest
    exact ⟨by linarith, exactly⟩
  · rintro ⟨_, fits⟩
    rw [sub_of_fits fits]
    exact ⟨amounts.original_pos, ⟨by linarith, share, le_rfl⟩, by ring⟩

theorem filledAmounts_keeps (ok : filledAmounts ctx amounts filled quantity = .ok converted) :
    converted.original = amounts.original ∧ converted.released = amounts.released := by
  have built := ReservedAmounts.build_ok ok
  exact ⟨built.1, built.2.2.2⟩

/-- The fills of an order are all booked if and only if each of them leaves a rest
that needs no rounding. -/
theorem convertFills_iff (keeps : ctx.KeepsDigits) (ordered : 0 < quantity)
    (some : ∀ fill ∈ fills, 0 < fill) (unreleased : amounts.released = 0) (start : 0 ≤ filled) :
    (∃ converted, convertFills ctx quantity amounts filled fills = .ok converted) ↔
      ∀ later ∈ filledQuantities ctx filled fills, LeavesRest ctx amounts.original later quantity := by
  induction fills generalizing amounts filled with
  | nil => simp [convertFills, filledQuantities]
  | cons fill _ ih =>
    have first := some fill List.mem_cons_self
    have rest := fun later member => some later (List.mem_cons_of_mem _ member)
    have next : 0 ≤ ctx.add filled fill :=
      round_nonneg keeps (add_nonneg start first.le)
    rw [filledQuantities, List.forall_mem_cons, ← filledAmounts_iff keeps ordered next unreleased]
    simp only [convertFills, bind_ok]
    constructor
    · rintro ⟨converted, between, ok, later⟩
      obtain ⟨original, released⟩ := filledAmounts_keeps ok
      have unreleasedNext : between.released = 0 := released.trans unreleased
      refine ⟨⟨between, ok⟩, ?_⟩
      rw [← original]
      exact (ih rest unreleasedNext next).mp ⟨converted, later⟩
    · rintro ⟨⟨between, ok⟩, later⟩
      obtain ⟨original, released⟩ := filledAmounts_keeps ok
      have unreleasedNext : between.released = 0 := released.trans unreleased
      rw [← original] at later
      obtain ⟨converted, done⟩ := (ih rest unreleasedNext next).mpr later
      exact ⟨converted, between, ok, done⟩

theorem eighty_pos : (0 : ℚ) < 80 := by norm_num

theorem thirty_pos : (0 : ℚ) < 30 := by norm_num

namespace SmallVenue

def threeLots : List PaperCall := opening limits ++ [submission limits "3" "buy" .buy 3]

def oneLot : PaperCall :=
  byWorker 4 "4" (.recordFill "PORD-3" (fill "first" 12 10 1 price_pos one_lot first_named)
    "USD")

end SmallVenue

end Liki.Paper
