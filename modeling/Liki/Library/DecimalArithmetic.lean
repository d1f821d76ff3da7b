import Mathlib.Algebra.Order.Field.Power
import Mathlib.Data.Int.Log
import Mathlib.Data.Rat.Floor
import Mathlib.Tactic.Linarith
import Mathlib.Tactic.Ring
import Mathlib.Tactic.FieldSimp
import Mathlib.Tactic.Positivity

/-! Decimal arithmetic under a context. A finite decimal number is its rational
value; every operation computes the exact result and then rounds it to the
context's precision, ties to even. A context without a precision is exact
rational arithmetic, so one definition of a program serves both readings.

What a verified program needs to know is when rounding is invisible: `Fits`
says that a value survives the context unchanged, and each operation whose
exact result fits equals the rational operation. -/
namespace DecimalArithmetic
open List Int

/-- The nearest integer, a tie going to the even neighbour. -/
def roundHalfEven (x : ℚ) : ℤ :=
  if x - ⌊x⌋ < 1 / 2 then ⌊x⌋
  else if 1 / 2 < x - ⌊x⌋ then ⌊x⌋ + 1
  else if ⌊x⌋ % 2 = 0 then ⌊x⌋ else ⌊x⌋ + 1

/-- Truncation toward zero. -/
def roundDown (x : ℚ) : ℤ := if 0 ≤ x then ⌊x⌋ else ⌈x⌉

/-- Rounding away from zero. -/
def roundUp (x : ℚ) : ℤ := if 0 ≤ x then ⌈x⌉ else ⌊x⌋

@[simp] theorem roundHalfEven_int (n : ℤ) : roundHalfEven n = n := by
  simp [roundHalfEven]

@[simp] theorem roundDown_int (n : ℤ) : roundDown n = n := by
  simp [roundDown]

variable {x y : ℚ} {digits : ℕ}

theorem roundDown_nonneg (nonneg : 0 ≤ x) : 0 ≤ roundDown x := by
  simpa [roundDown, nonneg] using floor_nonneg.mpr nonneg

theorem roundDown_le (nonneg : 0 ≤ x) : (roundDown x : ℚ) ≤ x := by
  simpa [roundDown, nonneg] using floor_le x

/-- The unit of the last digit kept when `x` is written with `digits`
significant digits. -/
def lastUnit (digits : ℕ) (x : ℚ) : ℚ := 10 ^ (log 10 |x| + 1 - digits)

/-- `x` rounded half-even to `digits` significant digits. -/
def roundSignificant (digits : ℕ) (x : ℚ) : ℚ :=
  roundHalfEven (x / lastUnit digits x) * lastUnit digits x

theorem lastUnit_pos (digits : ℕ) (x : ℚ) : 0 < lastUnit digits x := by
  unfold lastUnit
  positivity

theorem roundSignificant_of_multiple (n : ℤ) (multiple : x = n * lastUnit digits x) :
    roundSignificant digits x = x := by
  have quotient : x / lastUnit digits x = n := by
    rw [div_eq_iff (lastUnit_pos digits x).ne']
    exact multiple
  rw [roundSignificant, quotient, roundHalfEven_int]
  exact multiple.symm

@[simp] theorem roundSignificant_zero (digits : ℕ) : roundSignificant digits 0 = 0 :=
  roundSignificant_of_multiple 0 (by simp)

/-- An integer of at most `digits` digits, scaled by any power of ten, is kept:
the last unit divides its scale. -/
theorem roundSignificant_scaled (n scale : ℤ) (short : |n| < 10 ^ digits) :
    roundSignificant digits (n * (10 : ℚ) ^ scale) = n * (10 : ℚ) ^ scale := by
  by_cases zero : n = 0
  · simp [zero]
  have positive : (0 : ℚ) < |(n : ℚ)| := abs_pos.mpr (cast_ne_zero.mpr zero)
  have width : log 10 (|(n : ℚ)| * (10 : ℚ) ^ scale) + 1 - digits ≤ scale := by
    have below : |(n : ℚ)| * (10 : ℚ) ^ scale < ((10 : ℕ) : ℚ) ^ ((digits : ℤ) + scale) := by
      rw [Nat.cast_ofNat, zpow_add₀ (by norm_num)]
      have bound : |(n : ℚ)| < (10 : ℚ) ^ (digits : ℤ) := by
        rw [zpow_natCast, ← cast_abs]
        exact_mod_cast short
      have power : (0 : ℚ) < (10 : ℚ) ^ scale := by positivity
      exact mul_lt_mul_of_pos_right bound power
    have logBound := (lt_zpow_iff_log_lt (b := 10) (by norm_num)
      (show (0 : ℚ) < |(n : ℚ)| * (10 : ℚ) ^ scale by positivity)).mp below
    omega
  have absolute : |(n : ℚ) * (10 : ℚ) ^ scale| = |(n : ℚ)| * (10 : ℚ) ^ scale := by
    rw [abs_mul, abs_of_pos (show (0 : ℚ) < (10 : ℚ) ^ scale by positivity)]
  generalize exponent : log 10 (|(n : ℚ)| * (10 : ℚ) ^ scale) + 1 - digits = least at width
  have unit : lastUnit digits (n * (10 : ℚ) ^ scale) = (10 : ℚ) ^ least := by
    rw [lastUnit, absolute, exponent]
  refine roundSignificant_of_multiple (n * 10 ^ (scale - least).toNat) ?_
  rw [unit]
  push_cast
  rw [← zpow_natCast, toNat_of_nonneg (by omega), mul_assoc, ← zpow_add₀ (by norm_num)]
  congr 2
  omega

/-- With at least one digit kept, a number other than zero spans at least one
last unit. -/
theorem lastUnit_le (kept : 0 < digits) (nonzero : x ≠ 0) : lastUnit digits x ≤ |x| := by
  have leading : (10 : ℚ) ^ log 10 |x| ≤ |x| := by
    simpa using zpow_log_le_self (b := 10) (by norm_num) (abs_pos.mpr nonzero)
  refine le_trans ?_ leading
  unfold lastUnit
  exact zpow_le_zpow_right₀ (by norm_num) (by omega)

/-- Rounding to even never passes an integer. -/
theorem roundHalfEven_le {n : ℤ} (below : x ≤ n) : roundHalfEven x ≤ n := by
  by_cases whole : x = n
  · rw [whole, roundHalfEven_int]
  · have floor : ⌊x⌋ < n := floor_lt.mpr (lt_of_le_of_ne below whole)
    unfold roundHalfEven
    split
    · omega
    split
    · omega
    split <;> omega

theorem le_roundHalfEven {n : ℤ} (above : n ≤ x) : n ≤ roundHalfEven x := by
  have floor : n ≤ ⌊x⌋ := le_floor.mpr above
  unfold roundHalfEven
  split
  · exact floor
  split
  · omega
  split <;> omega

theorem roundHalfEven_mono (below : x ≤ y) : roundHalfEven x ≤ roundHalfEven y := by
  rcases (floor_mono below).lt_or_eq with apart | same
  · have lower : roundHalfEven x ≤ ⌊x⌋ + 1 := by
      apply roundHalfEven_le
      push_cast
      exact (lt_floor_add_one x).le
    have upper : ⌊y⌋ ≤ roundHalfEven y := le_roundHalfEven (floor_le y)
    omega
  -- in one cell the fractions are in order, so only the larger may be rounded away
  · have fractions : x - ⌊x⌋ ≤ y - ⌊x⌋ := by linarith
    unfold roundHalfEven
    rw [← same]
    split_ifs
    all_goals first | omega | linarith

theorem roundHalfEven_opposite (x : ℚ) : roundHalfEven (-x) = -roundHalfEven x := by
  by_cases whole : (⌊x⌋ : ℚ) = x
  · have opposite : -x = ((-⌊x⌋ : ℤ) : ℚ) := by rw [cast_neg, whole]
    rw [opposite, roundHalfEven_int]
    conv_rhs => rw [← whole, roundHalfEven_int]
  -- elsewhere the opposite lies in the opposite cell, as far from its other end
  · have inside : (⌊x⌋ : ℚ) < x := lt_of_le_of_ne (floor_le x) whole
    have next := lt_floor_add_one x
    have floor : ⌊-x⌋ = -⌊x⌋ - 1 := by
      rw [floor_eq_iff]
      push_cast
      constructor <;> linarith
    unfold roundHalfEven
    rw [floor]
    push_cast
    split_ifs
    all_goals first | omega | (exfalso; linarith)

theorem roundUp_of_nonneg (nonneg : 0 ≤ x) : roundUp x = ⌈x⌉ := if_pos nonneg

theorem roundUp_mono (below : x ≤ y) : roundUp x ≤ roundUp y := by
  unfold roundUp
  split_ifs with left right
  · exact ceil_mono below
  · exact absurd (left.trans below) right
  · have lower : ⌊x⌋ ≤ 0 := floor_nonpos (not_le.mp left).le
    have upper : 0 ≤ ⌈y⌉ := ceil_nonneg (by assumption)
    omega
  · exact floor_mono below

theorem roundHalfEven_pos {x : ℚ} (large : 1 ≤ x) : 0 < roundHalfEven x := by
  have rounded : 1 ≤ roundHalfEven x := le_roundHalfEven (by exact_mod_cast large)
  omega

theorem lastUnit_opposite (digits : ℕ) (x : ℚ) : lastUnit digits (-x) = lastUnit digits x := by
  rw [lastUnit, lastUnit, abs_neg]

theorem roundSignificant_opposite (digits : ℕ) (x : ℚ) :
    roundSignificant digits (-x) = -roundSignificant digits x := by
  rw [roundSignificant, roundSignificant, lastUnit_opposite, neg_div, roundHalfEven_opposite,
    cast_neg, neg_mul]

/-- Rounding never loses the sign of a number. -/
theorem roundSignificant_pos (kept : 0 < digits) (positive : 0 < x) :
    0 < roundSignificant digits x := by
  have unit := lastUnit_pos digits x
  have spans := lastUnit_le kept positive.ne'
  rw [abs_of_pos positive] at spans
  have rounded := roundHalfEven_pos ((one_le_div₀ unit).mpr spans)
  exact mul_pos (by exact_mod_cast rounded) unit

theorem roundSignificant_neg (kept : 0 < digits) (negative : x < 0) : roundSignificant digits x < 0 := by
  have opposite := roundSignificant_pos kept (neg_pos.mpr negative)
  rwa [roundSignificant_opposite, neg_pos] at opposite

/-- A number has at most `digits` digits before its last unit. -/
theorem abs_lt_units (digits : ℕ) (x : ℚ) : |x| < (10 : ℚ) ^ digits * lastUnit digits x := by
  have width : |x| < (10 : ℚ) ^ (log 10 |x| + 1) := by
    simpa using lt_zpow_succ_log_self (b := 10) (by norm_num) |x|
  have split : (10 : ℚ) ^ digits * lastUnit digits x = (10 : ℚ) ^ (log 10 |x| + 1) := by
    unfold lastUnit
    rw [← zpow_natCast, ← zpow_add₀ (by norm_num)]
    congr 1
    omega
  rwa [split]

theorem roundSignificant_kept (kept : 0 < digits) (positive : 0 < x) :
    roundSignificant digits (roundSignificant digits x) = roundSignificant digits x := by
  have unit := lastUnit_pos digits x
  have spans := lastUnit_le kept positive.ne'
  rw [abs_of_pos positive] at spans
  have width := abs_lt_units digits x
  rw [abs_of_pos positive] at width
  have lower := roundHalfEven_pos ((one_le_div₀ unit).mpr spans)
  have upper : roundHalfEven (x / lastUnit digits x) ≤ 10 ^ digits := by
    apply roundHalfEven_le
    rw [div_le_iff₀ unit]
    push_cast
    exact width.le
  have power : lastUnit digits x = (10 : ℚ) ^ (log 10 |x| + 1 - digits) := rfl
  rw [show roundSignificant digits x = roundHalfEven (x / lastUnit digits x) * lastUnit digits x
    from rfl]
  generalize roundHalfEven (x / lastUnit digits x) = n at *
  rw [power]
  rcases upper.lt_or_eq with short | full
  · apply roundSignificant_scaled
    rwa [abs_of_pos lower]
  · have whole : (n : ℚ) * (10 : ℚ) ^ (log 10 |x| + 1 - digits) =
        ((1 : ℤ) : ℚ) * (10 : ℚ) ^ (log 10 |x| + 1) := by
      rw [full]
      push_cast
      rw [one_mul, ← zpow_natCast, ← zpow_add₀ (by norm_num)]
      congr 1
      omega
    rw [whole]
    apply roundSignificant_scaled
    rw [abs_one]
    exact one_lt_pow₀ (by omega) kept.ne'

theorem roundSignificant_le_multiple {n : ℤ} (below : x ≤ n * lastUnit digits x) :
    roundSignificant digits x ≤ n * lastUnit digits x := by
  have rounded := roundHalfEven_le ((div_le_iff₀ (lastUnit_pos digits x)).mpr below)
  exact mul_le_mul_of_nonneg_right (cast_le.mpr rounded) (lastUnit_pos digits x).le

theorem multiple_le_roundSignificant {n : ℤ} (below : n * lastUnit digits x ≤ x) :
    n * lastUnit digits x ≤ roundSignificant digits x := by
  have rounded := le_roundHalfEven ((le_div_iff₀ (lastUnit_pos digits x)).mpr below)
  exact mul_le_mul_of_nonneg_right (cast_le.mpr rounded) (lastUnit_pos digits x).le

theorem power_multiple {exponent : ℤ} (long : log 10 |x| + 1 - digits ≤ exponent) :
    ∃ n : ℤ, (10 : ℚ) ^ exponent = n * lastUnit digits x := by
  refine ⟨10 ^ (exponent - (log 10 |x| + 1 - digits)).toNat, ?_⟩
  unfold lastUnit
  push_cast
  rw [← zpow_natCast, toNat_of_nonneg (by omega), ← zpow_add₀ (by norm_num)]
  congr 1
  omega

theorem roundSignificant_in_unit (below : x ≤ y) (same : lastUnit digits x = lastUnit digits y) :
    roundSignificant digits x ≤ roundSignificant digits y := by
  have unit := lastUnit_pos digits y
  have scaled : x / lastUnit digits y ≤ y / lastUnit digits y :=
    (div_le_div_iff_of_pos_right unit).mpr below
  rw [roundSignificant, roundSignificant, same]
  exact mul_le_mul_of_nonneg_right (cast_le.mpr (roundHalfEven_mono scaled)) unit.le

/-- Between two lengths lies the leading power of ten of the longer number, which
neither number is rounded past. -/
theorem roundSignificant_mono_pos (some : 0 < digits) (positive : 0 < x) (below : x ≤ y) :
    roundSignificant digits x ≤ roundSignificant digits y := by
  have larger := positive.trans_le below
  have logs : log 10 |x| ≤ log 10 |y| := by
    apply log_mono_right
    · exact abs_pos.mpr positive.ne'
    · rwa [abs_of_pos positive, abs_of_pos larger]
  rcases logs.eq_or_lt with same | shorter
  · exact roundSignificant_in_unit below (by rw [lastUnit, lastUnit, same])
  have covers : log 10 |x| + 1 - digits ≤ log 10 |y| := by omega
  have covered : log 10 |y| + 1 - digits ≤ log 10 |y| := by omega
  obtain ⟨n, above⟩ := power_multiple covers
  obtain ⟨m, leading⟩ := power_multiple covered
  have left : x ≤ (10 : ℚ) ^ log 10 |y| := by
    have width : |x| < (10 : ℚ) ^ (log 10 |x| + 1) := by
      simpa using lt_zpow_succ_log_self (b := 10) (by norm_num) |x|
    calc x ≤ |x| := le_abs_self x
      _ ≤ (10 : ℚ) ^ (log 10 |x| + 1) := width.le
      _ ≤ (10 : ℚ) ^ log 10 |y| := zpow_le_zpow_right₀ (by norm_num) (by omega)
  have right : (10 : ℚ) ^ log 10 |y| ≤ y := by
    have spans := zpow_log_le_self (b := 10) (by norm_num) (abs_pos.mpr larger.ne')
    calc (10 : ℚ) ^ log 10 |y| ≤ |y| := by exact_mod_cast spans
      _ = y := abs_of_pos larger
  calc roundSignificant digits x ≤ n * lastUnit digits x := roundSignificant_le_multiple (above ▸ left)
    _ = (10 : ℚ) ^ log 10 |y| := above.symm
    _ = m * lastUnit digits y := leading
    _ ≤ roundSignificant digits y := multiple_le_roundSignificant (leading ▸ right)

/-- Rounding never puts two numbers in the wrong order. -/
theorem roundSignificant_mono (some : 0 < digits) (below : x ≤ y) :
    roundSignificant digits x ≤ roundSignificant digits y := by
  rcases lt_trichotomy 0 x with positive | zero | negative
  · exact roundSignificant_mono_pos some positive below
  · subst zero
    rw [roundSignificant_zero]
    rcases below.eq_or_lt with zero | positive
    · rw [← zero, roundSignificant_zero]
    · exact (roundSignificant_pos some positive).le
  · rcases lt_or_ge y 0 with lower | nonneg
    · have opposite := roundSignificant_mono_pos some (neg_pos.mpr lower) (neg_le_neg below)
      rw [roundSignificant_opposite, roundSignificant_opposite] at opposite
      exact neg_le_neg_iff.mp opposite
    · refine (roundSignificant_neg some negative).le.trans ?_
      rcases nonneg.eq_or_lt with zero | positive
      · rw [← zero, roundSignificant_zero]
      · exact (roundSignificant_pos some positive).le

/-- An arithmetic context: the number of significant digits kept, or none for
exact arithmetic. -/
structure DecimalContext where
  prec : Option ℕ

namespace DecimalContext

def exact : DecimalContext := ⟨none⟩

variable (ctx : DecimalContext) {x y : ℚ} {xs : List ℚ}

def round (x : ℚ) : ℚ :=
  match ctx.prec with
  | none => x
  | some digits => roundSignificant digits x

def add (x y : ℚ) : ℚ := ctx.round (x + y)
def sub (x y : ℚ) : ℚ := ctx.round (x - y)
def mul (x y : ℚ) : ℚ := ctx.round (x * y)
def div (x y : ℚ) : ℚ := ctx.round (x / y)
def abs (x : ℚ) : ℚ := ctx.round |x|

/-- Left-to-right summation from zero, each partial sum rounded. -/
def sum (xs : List ℚ) : ℚ := xs.foldl ctx.add 0

/-- The context leaves `x` as it is. -/
def Fits (x : ℚ) : Prop := ctx.round x = x

instance (x : ℚ) : Decidable (ctx.Fits x) := inferInstanceAs (Decidable (_ = _))

@[simp] theorem exact_round (x : ℚ) : exact.round x = x := rfl
@[simp] theorem exact_add (x y : ℚ) : exact.add x y = x + y := rfl
@[simp] theorem exact_sub (x y : ℚ) : exact.sub x y = x - y := rfl
@[simp] theorem exact_mul (x y : ℚ) : exact.mul x y = x * y := rfl
@[simp] theorem exact_div (x y : ℚ) : exact.div x y = x / y := rfl
@[simp] theorem exact_abs (x : ℚ) : exact.abs x = |x| := rfl

theorem foldl_exact_add (xs : List ℚ) (start : ℚ) : xs.foldl exact.add start = start + xs.sum := by
  induction xs generalizing start with
  | nil => simp
  | cons _ _ ih => rw [foldl_cons, ih, exact_add, sum_cons, add_assoc]

@[simp] theorem exact_sum (xs : List ℚ) : exact.sum xs = xs.sum := by
  rw [sum, foldl_exact_add, zero_add]

theorem add_of_fits {ctx : DecimalContext} (fits : ctx.Fits (x + y)) :
    ctx.add x y = x + y := fits

theorem sub_of_fits {ctx : DecimalContext} (fits : ctx.Fits (x - y)) :
    ctx.sub x y = x - y := fits

theorem mul_of_fits {ctx : DecimalContext} (fits : ctx.Fits (x * y)) :
    ctx.mul x y = x * y := fits

theorem div_of_fits {ctx : DecimalContext} (fits : ctx.Fits (x / y)) :
    ctx.div x y = x / y := fits

theorem abs_of_fits {ctx : DecimalContext} (fits : ctx.Fits |x|) : ctx.abs x = |x| := fits

/-- Every partial sum of a left-to-right summation from zero. -/
def partialSums (xs : List ℚ) : List ℚ := xs.scanl (· + ·) 0

theorem foldl_add_of_fits {ctx : DecimalContext} {start : ℚ}
    (fits : ∀ partly ∈ xs.scanl (· + ·) start, ctx.Fits partly) :
    xs.foldl ctx.add start = start + xs.sum := by
  induction xs generalizing start with
  | nil => simp
  | cons x xs ih =>
    have rest : ∀ partly ∈ xs.scanl (· + ·) (start + x), ctx.Fits partly := fun partly member =>
      fits partly (by simp [member])
    have first : ctx.Fits (start + x) := rest _ (by cases xs <;> simp)
    rw [foldl_cons, add_of_fits first, ih rest, sum_cons, add_assoc]

theorem sum_of_fits {ctx : DecimalContext} (fits : ∀ partly ∈ partialSums xs, ctx.Fits partly) :
    ctx.sum xs = xs.sum := by
  rw [sum, foldl_add_of_fits fits, zero_add]

def KeepsDigits : Prop := ∀ digits ∈ ctx.prec, 0 < digits

theorem round_pos_iff {ctx : DecimalContext} (keeps : ctx.KeepsDigits) (x : ℚ) :
    0 < ctx.round x ↔ 0 < x := by
  unfold round
  cases precision : ctx.prec with
  | none => rfl
  | some digits =>
    have kept := keeps digits precision
    constructor
    · intro rounded
      by_contra nonpositive
      rcases lt_or_eq_of_le (not_lt.mp nonpositive) with negative | zero
      · exact absurd rounded (roundSignificant_neg kept negative).not_gt
      · simp [zero] at rounded
    · exact roundSignificant_pos kept

theorem round_opposite (x : ℚ) : ctx.round (-x) = -ctx.round x := by
  unfold round
  cases ctx.prec with
  | none => rfl
  | some digits => exact roundSignificant_opposite digits x

theorem round_neg_iff {ctx : DecimalContext} (keeps : ctx.KeepsDigits) (x : ℚ) :
    ctx.round x < 0 ↔ x < 0 := by
  have opposite := round_pos_iff keeps (-x)
  rwa [round_opposite, neg_pos, neg_pos] at opposite

theorem round_eq_zero_iff {ctx : DecimalContext} (keeps : ctx.KeepsDigits) (x : ℚ) :
    ctx.round x = 0 ↔ x = 0 := by
  have positive := round_pos_iff keeps x
  have negative := round_neg_iff keeps x
  constructor
  · intro zero
    rw [zero] at positive negative
    exact le_antisymm (not_lt.mp fun above => absurd (positive.mpr above) (lt_irrefl _))
      (not_lt.mp fun below => absurd (negative.mpr below) (lt_irrefl _))
  · intro zero
    rw [zero] at positive negative ⊢
    exact le_antisymm (not_lt.mp fun above => absurd (positive.mp above) (lt_irrefl _))
      (not_lt.mp fun below => absurd (negative.mp below) (lt_irrefl _))

theorem round_nonneg {ctx : DecimalContext} (keeps : ctx.KeepsDigits) (nonneg : 0 ≤ x) :
    0 ≤ ctx.round x := by
  refine not_lt.mp fun negative => ?_
  exact absurd ((round_neg_iff keeps x).mp negative) nonneg.not_gt

theorem sum_nonneg {ctx : DecimalContext} (keeps : ctx.KeepsDigits) (nonneg : ∀ x ∈ xs, 0 ≤ x) :
    0 ≤ ctx.sum xs := by
  have general : ∀ start, 0 ≤ start → 0 ≤ xs.foldl ctx.add start := by
    induction xs with
    | nil => exact fun start above => above
    | cons _ _ ih =>
      intro start above
      rw [forall_mem_cons] at nonneg
      exact ih nonneg.2 _ (round_nonneg keeps (add_nonneg above nonneg.1))
  exact general 0 le_rfl

/-- A sum of nonnegative numbers vanishes with its terms, rounded or not. -/
theorem sum_eq_zero_iff {ctx : DecimalContext} (keeps : ctx.KeepsDigits) (nonneg : ∀ x ∈ xs, 0 ≤ x) :
    ctx.sum xs = 0 ↔ ∀ x ∈ xs, x = 0 := by
  have general : ∀ start, 0 ≤ start →
      (xs.foldl ctx.add start = 0 ↔ start = 0 ∧ ∀ x ∈ xs, x = 0) := by
    induction xs with
    | nil => simp
    | cons x _ ih =>
      intro start positive
      have first := nonneg x mem_cons_self
      have rest := ih fun y member => nonneg y (mem_cons_of_mem _ member)
      rw [foldl_cons, add, rest _ (round_nonneg keeps (add_nonneg positive first)),
        round_eq_zero_iff keeps, add_eq_zero_iff_of_nonneg positive first, forall_mem_cons,
        and_assoc]
  rw [sum, general 0 le_rfl]
  simp

@[simp] theorem fits_zero : ctx.Fits 0 := by
  unfold Fits round
  split <;> simp

/-- A context never puts two results in the wrong order. -/
theorem round_mono {ctx : DecimalContext} (keeps : ctx.KeepsDigits) (below : x ≤ y) : ctx.round x ≤ ctx.round y := by
  unfold round
  cases precision : ctx.prec with
  | none => exact below
  | some digits => exact roundSignificant_mono (keeps digits precision) below

theorem round_le_of_fits {ctx : DecimalContext} (keeps : ctx.KeepsDigits) (below : x ≤ y) (fits : ctx.Fits y) :
    ctx.round x ≤ y :=
  (round_mono keeps below).trans_eq fits

theorem le_round_of_fits {ctx : DecimalContext} (keeps : ctx.KeepsDigits) (below : y ≤ x) (fits : ctx.Fits y) :
    y ≤ ctx.round x :=
  fits.symm.trans_le (round_mono keeps below)

theorem fits_round {ctx : DecimalContext} (keeps : ctx.KeepsDigits) (positive : 0 < x) :
    ctx.Fits (ctx.round x) := by
  unfold Fits round
  cases precision : ctx.prec with
  | none => rfl
  | some digits => exact roundSignificant_kept (keeps digits precision) positive

theorem fits_round_nonneg {ctx : DecimalContext} (keeps : ctx.KeepsDigits) (nonneg : 0 ≤ x) :
    ctx.Fits (ctx.round x) := by
  rcases nonneg.eq_or_lt with zero | positive
  · rw [← zero, show ctx.round 0 = 0 from ctx.fits_zero]
    exact ctx.fits_zero
  · exact fits_round keeps positive

theorem fits_neg {ctx : DecimalContext} (fits : ctx.Fits x) : ctx.Fits (-x) :=
  (ctx.round_opposite x).trans (congrArg Neg.neg fits)

end DecimalContext

end DecimalArithmetic
