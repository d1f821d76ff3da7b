import Mathlib.Algebra.Order.Field.Basic
import Mathlib.Data.List.Basic
import Mathlib.Tactic.Linarith
import Mathlib.Tactic.Ring

/-! A position held at its average cost. A trade that adds to the position averages its price in, one
that takes a part away leaves the average, one that takes the whole away leaves none, and one that goes
past the whole starts again at its own price. So the average stays between the lowest and the highest
price of the trades since the position was opened. -/
namespace AverageCost
open List

variable {K : Type*}

section Spans

variable [Preorder K]

/-- From the lowest of the prices to the highest. -/
def Spans (prices : List K) (value : K) : Prop :=
  (∃ price ∈ prices, price ≤ value) ∧ ∃ price ∈ prices, value ≤ price

theorem spans_single (price : K) : Spans [price] price :=
  ⟨⟨price, mem_cons_self, le_rfl⟩, price, mem_cons_self, le_rfl⟩

theorem Spans.append {prices : List K} {value : K} (spans : Spans prices value) (price : K) :
    Spans (prices ++ [price]) value := by
  obtain ⟨⟨low, lowMember, below⟩, high, highMember, above⟩ := spans
  exact ⟨⟨low, mem_append_left _ lowMember, below⟩, high, mem_append_left _ highMember, above⟩

theorem Spans.pos [Zero K] {prices : List K} {value : K} (spans : Spans prices value)
    (positive : ∀ price ∈ prices, 0 < price) : 0 < value := by
  obtain ⟨⟨low, member, below⟩, -⟩ := spans
  exact (positive low member).trans_le below

end Spans

variable [Field K] [LinearOrder K]

structure Holding (K : Type*) where
  position : K
  average : K

def Holding.Flat (holding : Holding K) : Prop := holding.position = 0 ∧ holding.average = 0

def Holding.trade (holding : Holding K) (signed price : K) : Holding K where
  position := holding.position + signed
  average :=
    if holding.position = 0 ∨ 0 < holding.position * signed then
      (|holding.position| * holding.average + |signed| * price) / (|holding.position| + |signed|)
    else if |holding.position| ≤ |signed| then if |holding.position| < |signed| then price else 0
    else holding.average

def since (position signed : K) (prices : List K) (price : K) : List K :=
  if position + signed = 0 then [] else if position * (position + signed) ≤ 0 then [price]
  else prices ++ [price]

def openPrices : K → List K → List (K × K) → List K
  | _, prices, [] => prices
  | position, prices, (signed, price) :: trades =>
    openPrices (position + signed) (since position signed prices price) trades

variable {holding : Holding K} {signed price : K} {prices : List K}

theorem average_of_reduces (against : holding.position * signed < 0) (part : |signed| < |holding.position|) :
    (holding.trade signed price).average = holding.average := by
  have held : holding.position ≠ 0 := left_ne_zero_of_mul against.ne
  rw [Holding.trade, if_neg (not_or.mpr ⟨held, not_lt.mpr against.le⟩), if_neg (not_le.mpr part)]

theorem openPrices_subset {trades : List (K × K)} {position : K} :
    ∀ price ∈ openPrices position prices trades, price ∈ prices ∨ ∃ trade ∈ trades, trade.2 = price := by
  induction trades generalizing position prices with
  | nil => exact fun price member => .inl member
  | cons trade _ ih =>
    intro price member
    rcases ih price member with held | ⟨later, inside, same⟩
    · unfold since at held
      split at held
      · cases held
      split at held
      · exact .inr ⟨trade, mem_cons_self, (mem_singleton.mp held).symm⟩
      · rcases mem_append.mp held with older | newest
        · exact .inl older
        · exact .inr ⟨trade, mem_cons_self, (mem_singleton.mp newest).symm⟩
    · exact .inr ⟨later, mem_cons_of_mem _ inside, same⟩

variable [IsStrictOrderedRing K]

theorem le_mean {weight more low first second : K} (some : 0 ≤ weight) (positive : 0 < more)
    (left : low ≤ first) (right : low ≤ second) :
    low ≤ (weight * first + more * second) / (weight + more) := by
  rw [le_div_iff₀ (add_pos_of_nonneg_of_pos some positive)]
  calc low * (weight + more) = weight * low + more * low := by ring
    _ ≤ weight * first + more * second :=
      add_le_add (mul_le_mul_of_nonneg_left left some) (mul_le_mul_of_nonneg_left right positive.le)

theorem mean_le {weight more high first second : K} (some : 0 ≤ weight) (positive : 0 < more)
    (left : first ≤ high) (right : second ≤ high) :
    (weight * first + more * second) / (weight + more) ≤ high := by
  rw [div_le_iff₀ (add_pos_of_nonneg_of_pos some positive)]
  calc weight * first + more * second ≤ weight * high + more * high :=
        add_le_add (mul_le_mul_of_nonneg_left left some) (mul_le_mul_of_nonneg_left right positive.le)
    _ = high * (weight + more) := by ring

theorem Spans.mean {prices : List K} {average price weight more : K} (spans : Spans prices average)
    (some : 0 ≤ weight) (positive : 0 < more) :
    Spans (prices ++ [price]) ((weight * average + more * price) / (weight + more)) := by
  obtain ⟨⟨low, lowMember, below⟩, high, highMember, above⟩ := spans
  have last : price ∈ prices ++ [price] := mem_append_right _ mem_cons_self
  constructor
  · rcases le_total low price with lower | higher
    · exact ⟨low, mem_append_left _ lowMember, le_mean some positive below lower⟩
    · exact ⟨price, last, le_mean some positive (higher.trans below) le_rfl⟩
  · rcases le_total price high with lower | higher
    · exact ⟨high, mem_append_left _ highMember, mean_le some positive above lower⟩
    · exact ⟨price, last, mean_le some positive (above.trans higher) le_rfl⟩

/-- Against the position, what is left is on its side as far as the position is larger. -/
theorem mul_add_of_against {position signed : K} (against : position * signed ≤ 0) :
    position * (position + signed) = |position| * (|position| - |signed|) := by
  have product : |position| * |signed| = -(position * signed) := by
    rw [← abs_mul, abs_of_nonpos against]
  calc position * (position + signed) = |position| * |position| + position * signed := by
        rw [abs_mul_abs_self]
        ring
    _ = |position| * (|position| - |signed|) := by
        rw [mul_sub, product]
        ring

structure Averaged (prices : List K) (holding : Holding K) : Prop where
  none : holding.position = 0 → holding.average = 0
  spans : holding.position ≠ 0 → Spans prices holding.average

omit [IsStrictOrderedRing K] in
/-- Where a position is left, nothing is to be shown of none. -/
theorem Averaged.of_left (left : holding.position ≠ 0) (spans : Spans prices holding.average) :
    Averaged prices holding :=
  ⟨fun gone => absurd gone left, fun _ => spans⟩

theorem Averaged.trade (averaged : Averaged prices holding) (some : signed ≠ 0) (price : K) :
    Averaged (since holding.position signed prices price) (holding.trade signed price) := by
  have size : 0 < |signed| := abs_pos.mpr some
  by_cases adds : holding.position = 0 ∨ 0 < holding.position * signed
  · have average : (holding.trade signed price).average =
        (|holding.position| * holding.average + |signed| * price) / (|holding.position| + |signed|) :=
      if_pos adds
    rcases adds with flat | same
    · have left : holding.position + signed ≠ 0 := by rwa [flat, zero_add]
      refine .of_left left ?_
      rw [average, since, if_neg left, if_pos (by rw [flat, zero_mul]), flat, abs_zero, zero_mul, zero_add,
        zero_add, mul_div_cancel_left₀ _ size.ne']
      exact spans_single price
    · have grows : 0 < holding.position * (holding.position + signed) := by
        rw [mul_add]
        exact add_pos_of_nonneg_of_pos (mul_self_nonneg _) same
      have held : holding.position ≠ 0 := left_ne_zero_of_mul same.ne'
      have left : holding.position + signed ≠ 0 := right_ne_zero_of_mul grows.ne'
      refine .of_left left ?_
      rw [average, since, if_neg left, if_neg (not_le.mpr grows)]
      exact (averaged.spans held).mean (abs_nonneg _) size
  · obtain ⟨held, against⟩ := not_or.mp adds
    have rest := mul_add_of_against (not_lt.mp against)
    have larger : 0 < |holding.position| := abs_pos.mpr held
    have average : (holding.trade signed price).average =
        if |holding.position| ≤ |signed| then if |holding.position| < |signed| then price else 0
        else holding.average := if_neg adds
    rcases lt_trichotomy |holding.position| |signed| with crosses | closes | reduces
    · have beyond : holding.position * (holding.position + signed) < 0 := by
        rw [rest]
        exact mul_neg_of_pos_of_neg larger (sub_neg.mpr crosses)
      have left : holding.position + signed ≠ 0 := right_ne_zero_of_mul beyond.ne
      refine .of_left left ?_
      rw [average, if_pos crosses.le, if_pos crosses, since, if_neg left, if_pos beyond.le]
      exact spans_single price
    · have flat : holding.position * (holding.position + signed) = 0 := by
        rw [rest, closes, sub_self, mul_zero]
      refine ⟨fun _ => ?_, fun left => absurd ((mul_eq_zero_iff_left held).mp flat) left⟩
      rw [average, if_pos closes.le, if_neg closes.not_lt]
    · have stays : 0 < holding.position * (holding.position + signed) := by
        rw [rest]
        exact mul_pos larger (sub_pos.mpr reduces)
      have left : holding.position + signed ≠ 0 := right_ne_zero_of_mul stays.ne'
      refine .of_left left ?_
      rw [average, if_neg (not_le.mpr reduces), since, if_neg left, if_neg (not_le.mpr stays)]
      exact (averaged.spans held).append price

/-- The whole run of trades. -/
def Holding.trades (holding : Holding K) (trades : List (K × K)) : Holding K :=
  trades.foldl (fun held trade => held.trade trade.1 trade.2) holding

theorem Averaged.trades {trades : List (K × K)} (averaged : Averaged prices holding)
    (sized : ∀ trade ∈ trades, trade.1 ≠ 0) :
    Averaged (openPrices holding.position prices trades) (holding.trades trades) := by
  induction trades generalizing holding prices with
  | nil => exact averaged
  | cons trade _ ih =>
    have next := averaged.trade (sized trade mem_cons_self) trade.2
    exact ih next fun trade member => sized trade (mem_cons_of_mem _ member)

end AverageCost
