import Liki.Finance.Types
import Liki.Library.Checks

/-! Conversion at a quote. A convention that names a side uses that side in both directions, and a round
trip returns what was there. The middle and the mark go out at the bid and come back at the ask whatever
the sign of the amount, so a round trip shrinks an asset and a liability alike. -/
namespace Liki.Finance
open DecimalArithmetic Checks

@[ext]
structure Money where
  amount : ℚ
  currency : String
  /-- One to sixteen characters. -/
  named : currency ≠ "" ∧ currency.length ≤ 16

instance : DecidableEq Money := fun _ _ => decidable_of_iff _ Money.ext_iff.symm

/-- `Money(...)`. -/
def Money.build (amount : ℚ) (currency : String) : Except FinanceError Money :=
  if currency = "" then .error (.value "currency: String should have at least 1 character")
  else if named : currency ≠ "" ∧ currency.length ≤ 16 then .ok ⟨amount, currency, named⟩
  else .error (.value "currency: String should have at most 16 characters")

theorem Money.build_ok {amount : ℚ} {currency : String} {money : Money} :
    Money.build amount currency = .ok money ↔
      (currency ≠ "" ∧ currency.length ≤ 16) ∧ money.amount = amount ∧ money.currency = currency := by
  unfold build
  by_cases empty : currency = ""
  · simp [empty]
  · rw [if_neg empty]
    by_cases named : currency ≠ "" ∧ currency.length ≤ 16
    · rw [dif_pos named, Except.ok.injEq, Money.ext_iff, and_iff_right named]
      exact and_congr eq_comm eq_comm
    · simp [named]

inductive QuoteConvention where
  | bid | ask | mid | mark
  deriving DecidableEq

structure FXQuote where
  instrumentId : String
  source : String
  baseCurrency : String
  quoteCurrency : String
  bid : ℚ
  ask : ℚ
  observedAt : Time
  availableAt : Time
  convention : QuoteConvention
  /-- `valid_quote`. -/
  bid_pos : 0 < bid
  bid_le_ask : bid ≤ ask
  observed_le : observedAt ≤ availableAt

namespace FXQuote

/-- The rate from base to quote currency. -/
def outward (quote : FXQuote) : ℚ :=
  if quote.convention ∈ [.bid, .mid, .mark] then quote.bid else quote.ask

/-- The rate from quote to base currency. -/
def inward (quote : FXQuote) : ℚ :=
  if quote.convention ∈ [.ask, .mid, .mark] then quote.ask else quote.bid

end FXQuote

def convertAt (ctx : DecimalContext) (quote : FXQuote) (amount : Money) (reportingCurrency : String)
    (valuationTime : Time) : Except FinanceError Money :=
  if valuationTime < quote.availableAt then
    .error (.unknownContract "FX quote was not available at valuation time")
  else if amount.currency = reportingCurrency then .ok amount
  else if amount.currency = quote.baseCurrency ∧ reportingCurrency = quote.quoteCurrency then
    Money.build (ctx.mul amount.amount quote.outward) reportingCurrency
  else if amount.currency = quote.quoteCurrency ∧ reportingCurrency = quote.baseCurrency then
    Money.build (ctx.div amount.amount quote.inward) reportingCurrency
  else .error (.unknownContract "FX quote currencies do not match conversion")

/-- There and back. -/
def roundTrip (ctx : DecimalContext) (quote : FXQuote) (amount : Money) (away : String) (valuationTime : Time) :
    Except FinanceError Money := do
  let there ← convertAt ctx quote amount away valuationTime
  convertAt ctx quote there amount.currency valuationTime

namespace FXQuote

variable {quote : FXQuote} {amount there back : Money} {away : String} {valuationTime : Time}

theorem ask_pos (quote : FXQuote) : 0 < quote.ask := quote.bid_pos.trans_le quote.bid_le_ask

/-- What a round trip leaves of a unit. -/
def kept (quote : FXQuote) : ℚ := quote.outward / quote.inward

theorem outward_inward (quote : FXQuote) (x : ℚ) : x * quote.outward / quote.inward = x * quote.kept :=
  mul_div_assoc x quote.outward quote.inward

theorem inward_outward (quote : FXQuote) (x : ℚ) : x / quote.inward * quote.outward = x * quote.kept := by
  rw [div_mul_eq_mul_div, outward_inward]

theorem kept_of_side (side : quote.convention = .bid ∨ quote.convention = .ask) : quote.kept = 1 := by
  unfold kept outward inward
  rcases side with bid | ask
  · rw [bid]
    exact div_self quote.bid_pos.ne'
  · rw [ask]
    exact div_self quote.ask_pos.ne'

theorem kept_of_middle (middle : quote.convention = .mid ∨ quote.convention = .mark) :
    quote.kept = quote.bid / quote.ask := by
  unfold kept outward inward
  rcases middle with mid | mark
  · rw [mid]
    rfl
  · rw [mark]
    rfl

theorem kept_bounds (quote : FXQuote) : 0 < quote.kept ∧ quote.kept ≤ 1 := by
  have middle : 0 < quote.bid / quote.ask ∧ quote.bid / quote.ask ≤ 1 :=
    ⟨div_pos quote.bid_pos quote.ask_pos, (div_le_one quote.ask_pos).mpr quote.bid_le_ask⟩
  cases convention : quote.convention with
  | bid => rw [kept_of_side (.inl convention)]; exact ⟨one_pos, le_rfl⟩
  | ask => rw [kept_of_side (.inr convention)]; exact ⟨one_pos, le_rfl⟩
  | mid => rwa [kept_of_middle (.inl convention)]
  | mark => rwa [kept_of_middle (.inr convention)]

theorem convert_outward (available : quote.availableAt ≤ valuationTime)
    (differ : quote.baseCurrency ≠ quote.quoteCurrency) (base : amount.currency = quote.baseCurrency) :
    convertAt .exact quote amount quote.quoteCurrency valuationTime =
      Money.build (amount.amount * quote.outward) quote.quoteCurrency := by
  rw [convertAt, if_neg (not_lt.mpr available), base, if_neg differ, if_pos ⟨rfl, rfl⟩]
  rfl

theorem convert_inward (available : quote.availableAt ≤ valuationTime)
    (differ : quote.baseCurrency ≠ quote.quoteCurrency) (quoted : amount.currency = quote.quoteCurrency) :
    convertAt .exact quote amount quote.baseCurrency valuationTime =
      Money.build (amount.amount / quote.inward) quote.baseCurrency := by
  rw [convertAt, if_neg (not_lt.mpr available), quoted, if_neg differ.symm, if_neg (fun both => differ both.1.symm),
    if_pos ⟨rfl, rfl⟩]
  rfl

/-- One of the quote's two conversions. -/
def Pairs (quote : FXQuote) (home away : String) : Prop :=
  (home = quote.baseCurrency ∧ away = quote.quoteCurrency) ∨
    (home = quote.quoteCurrency ∧ away = quote.baseCurrency)

theorem roundTrip_ok (available : quote.availableAt ≤ valuationTime)
    (differ : quote.baseCurrency ≠ quote.quoteCurrency) (pairs : quote.Pairs amount.currency away) :
    roundTrip .exact quote amount away valuationTime = .ok back ↔
      (away ≠ "" ∧ away.length ≤ 16) ∧ back.amount = amount.amount * quote.kept ∧
        back.currency = amount.currency := by
  have named := amount.named
  rw [roundTrip, bind_ok]
  rcases pairs with ⟨base, rfl⟩ | ⟨quoted, rfl⟩
  · rw [convert_outward available differ base]
    rw [base] at named ⊢
    constructor
    · rintro ⟨there, outbound, inbound⟩
      obtain ⟨known, sum, currency⟩ := Money.build_ok.mp outbound
      rw [convert_inward available differ currency, Money.build_ok, sum] at inbound
      exact ⟨known, inbound.2.1.trans (quote.outward_inward _), inbound.2.2⟩
    · rintro ⟨known, sum, currency⟩
      refine ⟨⟨amount.amount * quote.outward, quote.quoteCurrency, known⟩, Money.build_ok.mpr ⟨known, rfl, rfl⟩, ?_⟩
      rw [convert_inward available differ rfl, Money.build_ok]
      exact ⟨named, sum.trans (quote.outward_inward _).symm, currency⟩
  · rw [convert_inward available differ quoted]
    rw [quoted] at named ⊢
    constructor
    · rintro ⟨_, inbound, outbound⟩
      obtain ⟨known, sum, currency⟩ := Money.build_ok.mp inbound
      rw [convert_outward available differ currency, Money.build_ok, sum] at outbound
      exact ⟨known, outbound.2.1.trans (quote.inward_outward _), outbound.2.2⟩
    · rintro ⟨known, sum, currency⟩
      refine ⟨⟨amount.amount / quote.inward, quote.baseCurrency, known⟩, Money.build_ok.mpr ⟨known, rfl, rfl⟩, ?_⟩
      rw [convert_outward available differ rfl, Money.build_ok]
      exact ⟨named, sum.trans (quote.inward_outward _).symm, currency⟩

theorem roundTrip_same (available : quote.availableAt ≤ valuationTime)
    (same : quote.baseCurrency = quote.quoteCurrency) (pairs : quote.Pairs amount.currency away) :
    roundTrip .exact quote amount away valuationTime = .ok amount := by
  have stays : amount.currency = away := by
    rcases pairs with ⟨base, rfl⟩ | ⟨quoted, rfl⟩
    · exact base.trans same
    · exact quoted.trans same.symm
  have once : convertAt .exact quote amount away valuationTime = .ok amount := by
    rw [convertAt, if_neg (not_lt.mpr available), if_pos stays]
  rw [roundTrip, once, ok_bind, stays, once]

end FXQuote

/-- A round trip in either direction succeeds where the other currency has a name that money can have, and
comes back in the same currency. The bid and the ask return the amount. The middle and the mark return the
bid's share of the ask of it: no asset gains, and no amount grows in size. -/
theorem round_trip (quote : FXQuote) (amount : Money) (away : String) (valuationTime : Time)
    (available : quote.availableAt ≤ valuationTime) (pairs : quote.Pairs amount.currency away) :
    ((away ≠ "" ∧ away.length ≤ 16) → ∃ back, roundTrip .exact quote amount away valuationTime = .ok back) ∧
    ∀ back, roundTrip .exact quote amount away valuationTime = .ok back →
      back.currency = amount.currency ∧
      (quote.convention = .bid ∨ quote.convention = .ask → back.amount = amount.amount) ∧
      (quote.convention = .mid ∨ quote.convention = .mark → quote.baseCurrency ≠ quote.quoteCurrency →
        back.amount = amount.amount * (quote.bid / quote.ask)) ∧
      (0 ≤ amount.amount → back.amount ≤ amount.amount) ∧ |back.amount| ≤ |amount.amount| := by
  by_cases same : quote.baseCurrency = quote.quoteCurrency
  · have stays := quote.roundTrip_same available same pairs
    refine ⟨fun _ => ⟨amount, stays⟩, fun back trip => ?_⟩
    cases stays.symm.trans trip
    exact ⟨rfl, fun _ => rfl, fun _ differ => absurd same differ, fun _ => le_rfl, le_rfl⟩
  · constructor
    · intro named
      exact ⟨⟨amount.amount * quote.kept, amount.currency, amount.named⟩,
        (quote.roundTrip_ok available same pairs).mpr ⟨named, rfl, rfl⟩⟩
    · intro back trip
      obtain ⟨-, sum, currency⟩ := (quote.roundTrip_ok available same pairs).mp trip
      obtain ⟨positive, atMost⟩ := quote.kept_bounds
      rw [sum]
      refine ⟨currency, fun side => ?_, fun middle _ => ?_, fun asset => ?_, ?_⟩
      · rw [quote.kept_of_side side, mul_one]
      · rw [quote.kept_of_middle middle]
      · exact mul_le_of_le_one_right asset atMost
      · rw [abs_mul, abs_of_pos positive]
        exact mul_le_of_le_one_right (abs_nonneg _) atMost

namespace WideQuote

theorem one_le_two : (1 : ℚ) ≤ 2 := by norm_num

theorem bid_pos : (0 : ℚ) < 1 := one_pos

theorem unaged : (0 : ℤ) ≤ 0 := le_rfl

def quote (convention : QuoteConvention) : FXQuote :=
  ⟨"i", "s", "A", "B", 1, 2, 0, 0, convention, bid_pos, one_le_two, unaged⟩

theorem named : "A" ≠ "" ∧ "A".length ≤ 16 := by decide

def money (amount : ℚ) : Money := ⟨amount, "A", named⟩

end WideQuote

/-- A debt of 1 comes back as a debt of a half. -/
theorem debt_shrinks :
    roundTrip .exact (WideQuote.quote .mid) (WideQuote.money (-1)) "B" 0 = .ok (WideQuote.money (-1 / 2)) ∧
      ¬(WideQuote.money (-1 / 2)).amount ≤ (WideQuote.money (-1)).amount :=
  ⟨by decide +kernel, by norm_num [WideQuote.money]⟩

theorem round_trip_asset :
    roundTrip .exact (WideQuote.quote .mark) (WideQuote.money 1) "B" 0 = .ok (WideQuote.money (1 / 2)) ∧
      (WideQuote.money (1 / 2)).amount ≤ (WideQuote.money 1).amount := by
  have trip : roundTrip .exact (WideQuote.quote .mark) (WideQuote.money 1) "B" 0 =
      .ok (WideQuote.money (1 / 2)) := by decide +kernel
  have account := (round_trip (WideQuote.quote .mark) (WideQuote.money 1) "B" 0 le_rfl (.inl ⟨rfl, rfl⟩)).2 _ trip
  exact ⟨trip, account.2.2.2.1 zero_le_one⟩

end Liki.Finance
