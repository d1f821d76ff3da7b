import Liki.Inference.Broker
import Liki.Inference.PostgresBackend
import Liki.Library.Grid

/-! What an attempt costs. A tier prices all tokens of a request at once, so more
tokens may cost less; a usage costs no less than a smaller one wherever no rate falls
between their totals. Whether an outcome is billed decides the components of a cost,
but the minimum of a plan is charged on top of that decision. -/
namespace Liki.Inference
open DecimalArithmetic Checks List DecimalContext Int

/-- `_cost_components`. -/
def InferenceBroker.costComponents (ctx : DecimalContext) (route : ProviderRoute) (usage : Usage)
    (status : AttemptStatus) : ℚ × ℚ × ℕ :=
  route.pricing.costComponents ctx (conservativeUsage route usage) status

/-- A claimed attempt with what the broker knows of its route. -/
def preparedAttempt (route : ProviderRoute) (attempt : InferenceAttempt) : InferenceAttempt :=
  { attempt with
    modelFamily := route.modelFamily
    modelVersion := route.modelVersion
    upstreamCorrelationDomain := some route.upstreamCorrelationDomain
    pricingPlanId := some route.pricing.pricePlanId }

def deniedAttempt (completedAt : Time) (attempt : InferenceAttempt) : InferenceAttempt :=
  { attempt with
    completedAt := some completedAt
    status := .hibernated
    errorClass := some "budget_exhausted" }

def answeredAttempt (ctx : DecimalContext) (route : ProviderRoute) (reservation : ℚ)
    (completedAt : Time) (attempt : InferenceAttempt) (response : RawProviderResponse)
    (status : AttemptStatus) (artifact : Option Document) (errorClass : Option String) :
    Except ServiceError InferenceAttempt := do
  let components := InferenceBroker.costComponents ctx route response.usage status
  let totalCost ← responseCost ctx route response.usage status reservation
  return { attempt with
    completedAt := some completedAt
    status := status
    errorClass := errorClass
    usage := response.usage
    totalCost := totalCost
    fixedCallCost := some components.1
    tokenCost := some components.2.1
    billedTokens := some components.2.2
    modelVersion := (response.modelVersion.filter (· ≠ "")).or route.modelVersion
    outputArtifact := artifact }

/-- The attempt that `_finish_transport_failure` finishes. -/
def failedAttempt (ctx : DecimalContext) (route : ProviderRoute) (reservation : ℚ)
    (completedAt : Time) (attempt : InferenceAttempt) (errorClass : String) (retryable : Bool) :
    Except ServiceError InferenceAttempt := do
  let status : AttemptStatus := if retryable then .retryableFailure else .nonretryableFailure
  let conservative ← conservativeCost ctx route .unknownConservative status
  let components := InferenceBroker.costComponents ctx route .unknownConservative status
  return { attempt with
    completedAt := some completedAt
    status := status
    errorClass := some errorClass
    totalCost := max reservation conservative
    pricingPlanId := some route.pricing.pricePlanId
    fixedCallCost := some components.1
    tokenCost := some components.2.1
    billedTokens := some components.2.2 }

/-- The ways in which the broker finishes an attempt it prepared. -/
inductive Finished (ctx : DecimalContext) (route : ProviderRoute) (reservation : ℚ)
    (attempt : InferenceAttempt) : InferenceAttempt → Prop where
  | denied (completedAt : Time) :
      Finished ctx route reservation attempt (deniedAttempt completedAt attempt)
  | answered {completedAt : Time} {response : RawProviderResponse} {status : AttemptStatus}
      {artifact : Option Document} {errorClass : Option String} {finished : InferenceAttempt}
      (ok : answeredAttempt ctx route reservation completedAt attempt response status artifact
        errorClass = .ok finished) : Finished ctx route reservation attempt finished
  | failed {completedAt : Time} {errorClass : String} {retryable : Bool}
      {finished : InferenceAttempt}
      (ok : failedAttempt ctx route reservation completedAt attempt errorClass retryable =
        .ok finished) : Finished ctx route reservation attempt finished

/-- No count is larger; an absent count is a zero. -/
def Usage.Within (few many : Usage) : Prop :=
  List.Forall₂ (fun few many : Option ℕ => few.getD 0 ≤ many.getD 0) few.counts many.counts

instance (few many : Usage) : Decidable (few.Within many) :=
  inferInstanceAs (Decidable (List.Forall₂ _ _ _))

namespace PricingPlan

variable {ctx : DecimalContext} {plan : PricingPlan} {outcome : AttemptStatus} {rate high low : ℚ}
  {usage : Usage}

def pricedUsage (plan : PricingPlan) (usage : Usage) : Usage :=
  if usage.tokenCountMethod = "unknown_conservative" then plan.unknownUsageReserve else usage

def tokenRates (plan : PricingPlan) (usage : Usage) : List ℚ :=
  plan.rates (plan.tier (totalTokens (plan.pricedUsage usage)))

theorem costComponents_billed (billed : plan.billable outcome = true) :
    plan.costComponents ctx usage outcome =
      (plan.fixedRequest, tokenCost ctx (plan.pricedUsage usage).counts (plan.tokenRates usage),
        totalTokens (plan.pricedUsage usage)) := by
  rw [costComponents, if_pos billed]
  rfl

theorem costComponents_unbilled (unbilled : plan.billable outcome = false) :
    plan.costComponents ctx usage outcome = (0, 0, 0) := by
  rw [costComponents, if_neg (by simp [unbilled])]

/-- No effective rate is negative. -/
def NonnegRates (plan : PricingPlan) : Prop :=
  (∀ rate ∈ plan.rates none, 0 ≤ rate) ∧
    ∀ tier ∈ plan.tieredRates, ∀ rate ∈ plan.rates (some tier), 0 ≤ rate

instance : Decidable plan.NonnegRates := inferInstanceAs (Decidable (_ ∧ _))

theorem NonnegRates.tokenRates (nonneg : plan.NonnegRates) (usage : Usage) :
    ∀ rate ∈ plan.tokenRates usage, 0 ≤ rate := by
  unfold PricingPlan.tokenRates
  cases found : plan.tier (totalTokens (plan.pricedUsage usage)) with
  | none => exact nonneg.1
  | some tier => exact nonneg.2 tier (mem_of_find?_eq_some found)

def charged (ctx : DecimalContext) (cost : ℚ) : Option ℕ → ℚ → ℚ
  | none, _ => cost
  | some tokens, rate => ctx.add cost (ctx.div (ctx.mul tokens rate) 1000000)

theorem tokenCost_eq (counts : List (Option ℕ)) (rates : List ℚ) :
    tokenCost ctx counts rates =
      (counts.zip rates).foldl (fun cost entry => charged ctx cost entry.1 entry.2) 0 := by
  unfold tokenCost
  congr 1
  funext cost entry
  obtain ⟨tokens, _⟩ := entry
  cases tokens <;> rfl

/-- A token cost is nonnegative and has been rounded. -/
def Settled (ctx : DecimalContext) (cost : ℚ) : Prop := 0 ≤ cost ∧ ctx.Fits cost

theorem charge_nonneg (keeps : ctx.KeepsDigits) (tokens : ℕ) (nonneg : 0 ≤ rate) :
    0 ≤ ctx.div (ctx.mul tokens rate) 1000000 := by
  have product : 0 ≤ ctx.mul tokens rate := round_nonneg keeps (by positivity)
  exact round_nonneg keeps (by positivity)

theorem Settled.charged (keeps : ctx.KeepsDigits) {cost : ℚ} (settled : Settled ctx cost)
    (tokens : Option ℕ) (nonneg : 0 ≤ rate) : Settled ctx (charged ctx cost tokens rate) := by
  cases tokens with
  | none => exact settled
  | some tokens =>
    have sum := add_nonneg settled.1 (charge_nonneg keeps tokens nonneg)
    exact ⟨round_nonneg keeps sum, fits_round_nonneg keeps sum⟩

theorem charged_zero {cost : ℚ} (fits : ctx.Fits cost) (rate : ℚ) :
    charged ctx cost (some 0) rate = cost := by
  have nothing : ctx.round 0 = 0 := ctx.fits_zero
  simp [charged, mul, div, add, nothing]
  exact fits

theorem charged_mono (keeps : ctx.KeepsDigits) (settledLow : Settled ctx low)
    (settledHigh : Settled ctx high) (below : low ≤ high) (fewer : few.getD 0 ≤ many.getD 0)
    (nonneg : 0 ≤ rate) (rises : rate ≤ dearer) :
    charged ctx low few rate ≤ charged ctx high many dearer := by
  -- an absent count may be read as a zero on either side
  have same : ∀ {cost : ℚ}, ctx.Fits cost → ∀ (tokens : Option ℕ) (rate : ℚ),
      charged ctx cost tokens rate = charged ctx cost (some (tokens.getD 0)) rate := by
    intro cost fits tokens rate
    cases tokens with
    | none => exact (charged_zero fits rate).symm
    | some => rfl
  rw [same settledLow.2 few, same settledHigh.2 many]
  generalize few.getD 0 = less at *
  generalize many.getD 0 = more at *
  have products : (less : ℚ) * rate ≤ more * dearer := by
    have counts : (less : ℚ) ≤ more := Nat.cast_le.mpr fewer
    exact mul_le_mul counts rises nonneg (Nat.cast_nonneg more)
  have charges : ctx.div (ctx.mul less rate) 1000000 ≤ ctx.div (ctx.mul more dearer) 1000000 := by
    apply round_mono keeps
    exact div_le_div_of_nonneg_right (round_mono keeps products) (by norm_num)
  exact round_mono keeps (add_le_add below charges)

theorem tokenCost_mono (keeps : ctx.KeepsDigits) {rates dearer : List ℚ}
    (fewer : List.Forall₂ (fun few many : Option ℕ => few.getD 0 ≤ many.getD 0) few many)
    (rises : List.Forall₂ (· ≤ ·) rates dearer) (nonneg : ∀ rate ∈ rates, 0 ≤ rate) :
    tokenCost ctx few rates ≤ tokenCost ctx many dearer := by
  rw [tokenCost_eq, tokenCost_eq]
  have start : Settled ctx 0 := ⟨le_rfl, ctx.fits_zero⟩
  have general : ∀ low high, Settled ctx low → Settled ctx high → low ≤ high →
      (few.zip rates).foldl (fun cost entry => charged ctx cost entry.1 entry.2) low ≤
        (many.zip dearer).foldl (fun cost entry => charged ctx cost entry.1 entry.2) high := by
    induction fewer generalizing rates dearer with
    | nil => exact fun low high _ _ below => by simpa using below
    | cons count _ ih =>
      intro low high settledLow settledHigh below
      cases rises with
      | nil => simpa using below
      | cons rise rises =>
        obtain ⟨positive, others⟩ := forall_mem_cons.mp nonneg
        rw [zip_cons_cons, foldl_cons, zip_cons_cons, foldl_cons]
        exact ih rises others _ _ (settledLow.charged keeps _ positive)
          (settledHigh.charged keeps _ (positive.trans rise))
          (charged_mono keeps settledLow settledHigh below count positive rise)
  exact general 0 0 start start le_rfl

theorem quantizeMicro_eq_some {amount cost : ℚ} : quantizeMicro ctx amount = some cost ↔
    (∀ digits ∈ ctx.prec, |roundUp (amount * 1000000)| < 10 ^ digits) ∧
      cost = roundUp (amount * 1000000) / 1000000 := by
  unfold quantizeMicro
  by_cases short : ∀ digits ∈ ctx.prec, |roundUp (amount * 1000000)| < 10 ^ digits
  · rw [if_pos short, Option.some.injEq]
    exact ⟨fun same => ⟨short, same.symm⟩, fun written => written.2.symm⟩
  · rw [if_neg short]
    exact ⟨nofun, fun written => absurd written.1 short⟩

theorem quantizeMicro_mono (below : low ≤ high) (lower : quantizeMicro ctx low = some lowCost)
    (higher : quantizeMicro ctx high = some highCost) : lowCost ≤ highCost := by
  rw [(quantizeMicro_eq_some.mp lower).2, (quantizeMicro_eq_some.mp higher).2]
  have units : (roundUp (low * 1000000) : ℚ) ≤ roundUp (high * 1000000) :=
    cast_le.mpr (roundUp_mono (mul_le_mul_of_nonneg_right below (by norm_num)))
  exact div_le_div_of_nonneg_right units (by norm_num)

theorem cost_mono (keeps : ctx.KeepsDigits) (nonneg : plan.NonnegRates)
    (billed : plan.billable outcome = true) (billedMore : plan.billable other = true)
    (within : (plan.pricedUsage few).Within (plan.pricedUsage many))
    (rises : List.Forall₂ (· ≤ ·) (plan.tokenRates few) (plan.tokenRates many))
    (lower : plan.cost ctx few outcome = some low) (higher : plan.cost ctx many other = some high) :
    low ≤ high := by
  have tokens := tokenCost_mono keeps within rises (nonneg.tokenRates few)
  have sums : ctx.add plan.fixedRequest (tokenCost ctx (plan.pricedUsage few).counts
        (plan.tokenRates few)) ≤
      ctx.add plan.fixedRequest (tokenCost ctx (plan.pricedUsage many).counts
        (plan.tokenRates many)) :=
    round_mono keeps (add_le_add_right tokens plan.fixedRequest)
  unfold cost at lower higher
  rw [costComponents_billed billed] at lower
  rw [costComponents_billed billedMore] at higher
  exact quantizeMicro_mono (max_le_max_right plan.minimumRequest sums) lower higher

end PricingPlan

theorem priced_ok {cost : ℚ} : priced price = .ok cost ↔ price = some cost := by
  unfold priced
  exact expect_ok

variable {route : ProviderRoute} {usage : Usage}

theorem conservativeUsage_of_reported (reported : none ∉ usage.counts) :
    conservativeUsage route usage = usage := if_neg reported

/-- For nonnegative rates, whatever the fixed charge, the minimum and the tiers: more
tokens cost no less where no rate is lower for their total, so a reservation bounds
the cost of every billed answer whose priced usage is within the priced estimate and
whose rates are. -/
theorem costs_in_order (route : ProviderRoute) (nonneg : route.pricing.NonnegRates) :
    (∀ (outcome : AttemptStatus) (few many : Usage) (low high : ℚ),
      route.pricing.billable outcome = true → few.tokenCountMethod = many.tokenCountMethod →
      few.Within many →
      List.Forall₂ (· ≤ ·) (route.pricing.tokenRates few) (route.pricing.tokenRates many) →
      route.pricing.cost prec28 few outcome = some low →
      route.pricing.cost prec28 many outcome = some high → low ≤ high) ∧
    ∀ (status : AttemptStatus) (usage estimate : Usage) (reservation total : ℚ),
      route.pricing.billable status = true →
      (route.pricing.pricedUsage (conservativeUsage route usage)).Within
        (route.pricing.pricedUsage (conservativeUsage route estimate)) →
      List.Forall₂ (· ≤ ·) (route.pricing.tokenRates (conservativeUsage route usage))
        (route.pricing.tokenRates (conservativeUsage route estimate)) →
      conservativeCost prec28 route estimate .semanticAccepted = .ok reservation →
      responseCost prec28 route usage status reservation = .ok total → total ≤ reservation := by
  constructor
  · intro outcome few many low high billed method within rises lower higher
    refine PricingPlan.cost_mono prec28_keepsDigits nonneg billed billed ?_ rises lower higher
    unfold PricingPlan.pricedUsage
    rw [method]
    split
    · exact forall₂_refl _
    · exact within
  · intro status usage estimate reservation total billed within rises reserved answered
    have higher := priced_ok.mp reserved
    have bound : ∀ cost, route.pricing.cost prec28 (conservativeUsage route usage) status = some cost →
        cost ≤ reservation := fun cost lower =>
      PricingPlan.cost_mono prec28_keepsDigits nonneg billed rfl within rises lower higher
    unfold responseCost at answered
    split at answered
    · rename_i reported
      apply bound
      rw [conservativeUsage_of_reported reported]
      exact priced_ok.mp answered
    · obtain ⟨cost, priced, answered⟩ := bind_ok.mp answered
      cases answered
      exact max_le le_rfl (bound cost (priced_ok.mp priced))

def volumePlan : PricingPlan :=
  ⟨"volume", 0, 1, 1, 1, 1, 1, 0, true, true, .reported,
    [⟨some 1000, some 10, none, none, none, none⟩]⟩

def volumeRoute : ProviderRoute := { sampleRoute with pricing := volumePlan }

def inputUsage (tokens : ℕ) : Usage := ⟨some tokens, some 0, some 0, some 0, some 0, "provider_reported"⟩

theorem volume_costs :
    volumePlan.cost prec28 (inputUsage 500) .semanticAccepted = some (5 / 1000) ∧
      volumePlan.cost prec28 (inputUsage 1000) .semanticAccepted = some (1 / 100) ∧
      volumePlan.cost prec28 (inputUsage 1001) .semanticAccepted = some (1001 / 1000000) := by
  decide +kernel

theorem costs_in_order_volume : volumeRoute.pricing.NonnegRates ∧ (5 / 1000 : ℚ) ≤ 1 / 100 ∧
    responseCost prec28 volumeRoute (inputUsage 500) .semanticAccepted (1 / 100) = .ok (5 / 1000) ∧
    (5 / 1000 : ℚ) ≤ 1 / 100 := by
  have nonneg : volumeRoute.pricing.NonnegRates := by decide +kernel
  have within : (inputUsage 500).Within (inputUsage 1000) := by decide
  have rises : List.Forall₂ (· ≤ ·) (volumeRoute.pricing.tokenRates (inputUsage 500))
      (volumeRoute.pricing.tokenRates (inputUsage 1000)) := by decide +kernel
  have answered : responseCost prec28 volumeRoute (inputUsage 500) .semanticAccepted (1 / 100) =
      .ok (5 / 1000) := by decide +kernel
  have reserved : conservativeCost prec28 volumeRoute (inputUsage 1000) .semanticAccepted =
      .ok (1 / 100) := by decide +kernel
  have laws := costs_in_order volumeRoute nonneg
  exact ⟨nonneg, laws.1 .semanticAccepted (inputUsage 500) (inputUsage 1000) (5 / 1000) (1 / 100) rfl
      rfl within rises volume_costs.1 volume_costs.2.1, answered,
    laws.2 .semanticAccepted (inputUsage 500) (inputUsage 1000) (1 / 100) (5 / 1000) rfl within rises
      reserved answered⟩

/-- One more token leaves the expensive tier, and the reservation for it covers the
smaller answer no longer. -/
theorem larger_usage_cheaper : volumeRoute.pricing.NonnegRates ∧
    (inputUsage 1000).Within (inputUsage 1001) ∧
    volumePlan.cost prec28 (inputUsage 1000) .semanticAccepted = some (1 / 100) ∧
    volumePlan.cost prec28 (inputUsage 1001) .semanticAccepted = some (1001 / 1000000) ∧
    ¬(1 / 100 : ℚ) ≤ 1001 / 1000000 ∧
    conservativeCost prec28 volumeRoute (inputUsage 1001) .semanticAccepted = .ok (1001 / 1000000) ∧
    responseCost prec28 volumeRoute (inputUsage 1000) .semanticAccepted (1001 / 1000000) =
      .ok (1 / 100) := by
  refine ⟨by decide +kernel, by decide, volume_costs.2.1, volume_costs.2.2, by norm_num, ?_, ?_⟩
  · decide +kernel
  · decide +kernel

namespace PricingPlan

variable {ctx : DecimalContext} {plan : PricingPlan} {first second : ℚ} {outcome : AttemptStatus}
  {usage : Usage}

def NonnegAmounts (plan : PricingPlan) : Prop :=
  0 ≤ plan.fixedRequest ∧ plan.NonnegRates ∧ 0 ≤ plan.minimumRequest

instance : Decidable plan.NonnegAmounts := inferInstanceAs (Decidable (_ ∧ _))

def charge (ctx : DecimalContext) (plan : PricingPlan) (usage : Usage) (outcome : AttemptStatus) : ℚ :=
  (plan.costComponents ctx usage outcome).1 + (plan.costComponents ctx usage outcome).2.1

def BilledAsDeclared (plan : PricingPlan) (usage : Usage) (outcome : AttemptStatus) : Prop :=
  (plan.billable outcome = false → plan.cost prec28 usage outcome = some 0) ∧
    (plan.billable outcome = true → ∃ cost, plan.cost prec28 usage outcome = some cost ∧
      IsLeast {multiple | Grid.On (1 / 1000000) multiple ∧
        max (plan.charge prec28 usage outcome) plan.minimumRequest ≤ multiple} cost)

/-- Writing a charge with 28 digits moves it across no millionth that covers the
minimum, and the amount has no more than 28 digits itself. -/
def Undisturbed (plan : PricingPlan) (charge : ℚ) : Prop :=
  (∀ millionths : ℤ, plan.minimumRequest ≤ millionths / 1000000 →
    (prec28.round charge ≤ millionths / 1000000 ↔ charge ≤ millionths / 1000000)) ∧
  max charge plan.minimumRequest ≤ (10 ^ 28 - 1) / 1000000

theorem tokenCost_nonneg (keeps : ctx.KeepsDigits) (counts : List (Option ℕ)) {rates : List ℚ}
    (nonneg : ∀ rate ∈ rates, 0 ≤ rate) : 0 ≤ tokenCost ctx counts rates := by
  rw [tokenCost_eq]
  have general : ∀ cost, Settled ctx cost →
      0 ≤ (counts.zip rates).foldl (fun cost entry => charged ctx cost entry.1 entry.2) cost := by
    have entries : ∀ entry ∈ counts.zip rates, 0 ≤ entry.2 := fun entry member =>
      nonneg _ (of_mem_zip member).2
    revert entries
    induction counts.zip rates with
    | nil => exact fun _ cost settled => settled.1
    | cons _ _ ih =>
      intro each cost settled
      rw [forall_mem_cons] at each
      exact ih each.2 _ (settled.charged keeps _ each.1)
  exact general 0 ⟨le_rfl, ctx.fits_zero⟩

theorem NonnegAmounts.charge_nonneg (nonneg : plan.NonnegAmounts) (keeps : ctx.KeepsDigits)
    (usage : Usage) (outcome : AttemptStatus) : 0 ≤ plan.charge ctx usage outcome := by
  unfold charge
  cases billed : plan.billable outcome with
  | false => simp [costComponents_unbilled billed]
  | true =>
    rw [costComponents_billed billed]
    exact add_nonneg nonneg.1 (tokenCost_nonneg keeps _ (nonneg.2.1.tokenRates usage))

theorem above_millionth (amount : ℚ) :
    Grid.above (1 / 1000000) amount = (⌈amount * 1000000⌉ : ℚ) / 1000000 := by
  rw [Grid.above, div_div_eq_mul_div, div_one, mul_one_div]

/-- Rounding up one amount yields the least multiple that covers another exactly if
both have the same, and it can be written with 28 digits. -/
theorem quantizeMicro_least_iff (nonneg : 0 ≤ amount) (covered : ℚ) :
    (∃ cost, quantizeMicro prec28 amount = some cost ∧
      IsLeast {multiple | Grid.On (1 / 1000000) multiple ∧ covered ≤ multiple} cost) ↔
    ⌈amount * 1000000⌉ = ⌈covered * 1000000⌉ ∧ covered ≤ (10 ^ 28 - 1) / 1000000 := by
  have least : IsLeast {multiple | Grid.On (1 / 1000000) multiple ∧ covered ≤ multiple} _ :=
    Grid.above_isLeast (by norm_num)
  rw [above_millionth] at least
  have units : roundUp (amount * 1000000) = ⌈amount * 1000000⌉ := roundUp_of_nonneg (by positivity)
  have positive : 0 ≤ ⌈amount * 1000000⌉ := Int.ceil_nonneg (by positivity)
  have short : covered ≤ (10 ^ 28 - 1) / 1000000 ↔ ⌈covered * 1000000⌉ < 10 ^ 28 := by
    rw [le_div_iff₀ (by norm_num), ← Int.le_sub_one_iff, Int.ceil_le]
    norm_num
  have precision : prec28.prec = some 28 := rfl
  rw [short]
  constructor
  · rintro ⟨_, rounded, isLeast⟩
    obtain ⟨written, rfl⟩ := quantizeMicro_eq_some.mp rounded
    have fits := written 28 precision
    rw [units, abs_of_nonneg positive] at fits
    have quotients := isLeast.unique least
    rw [units, div_left_inj' (by norm_num), Int.cast_inj] at quotients
    exact ⟨quotients, quotients ▸ fits⟩
  · rintro ⟨same, _⟩
    refine ⟨_, quantizeMicro_eq_some.mpr ⟨?_, rfl⟩, ?_⟩
    · rintro digits held
      rw [precision] at held
      cases held
      rwa [units, abs_of_nonneg positive, same]
    · rwa [units, same]

theorem ceil_eq_iff_forall : ⌈first⌉ = ⌈second⌉ ↔ ∀ whole : ℤ, first ≤ whole ↔ second ≤ whole := by
  constructor
  · intro same whole
    rw [← ceil_le, ← ceil_le, same]
  · intro covered
    exact le_antisymm (ceil_le.mpr ((covered _).mpr (le_ceil second)))
      (ceil_le.mpr ((covered _).mp (le_ceil first)))

theorem ceil_max_eq_iff {minimum : ℚ} :
    ⌈max first minimum * 1000000⌉ = ⌈max second minimum * 1000000⌉ ↔
    ∀ millionths : ℤ, minimum ≤ millionths / 1000000 →
      (first ≤ millionths / 1000000 ↔ second ≤ millionths / 1000000) := by
  rw [ceil_eq_iff_forall]
  apply forall_congr'
  intro millionths
  rw [← le_div_iff₀ (by norm_num), ← le_div_iff₀ (by norm_num), max_le_iff, max_le_iff]
  exact and_congr_left_iff

theorem undisturbed_of_fits {charge : ℚ} (fits : prec28.Fits charge)
    (short : max charge plan.minimumRequest ≤ (10 ^ 28 - 1) / 1000000) : plan.Undisturbed charge := by
  refine ⟨fun millionths _ => ?_, short⟩
  rw [show prec28.round charge = charge from fits]

theorem billed_iff (nonneg : plan.NonnegAmounts) (billed : plan.billable outcome = true) :
    plan.BilledAsDeclared usage outcome ↔ plan.Undisturbed (plan.charge prec28 usage outcome) := by
  have covers := nonneg.charge_nonneg prec28_keepsDigits usage outcome
  have amount : 0 ≤ max (prec28.round (plan.charge prec28 usage outcome)) plan.minimumRequest :=
    le_max_of_le_right nonneg.2.2
  have law := quantizeMicro_least_iff amount
    (max (plan.charge prec28 usage outcome) plan.minimumRequest)
  rw [ceil_max_eq_iff] at law
  unfold BilledAsDeclared Undisturbed
  rw [← law]
  simp [billed, cost, charge, add]

theorem unbilled_iff (nonneg : plan.NonnegAmounts) (unbilled : plan.billable outcome = false) :
    plan.BilledAsDeclared usage outcome ↔ plan.minimumRequest = 0 := by
  have nothing : prec28.round 0 = 0 := prec28.fits_zero
  have cost : plan.cost prec28 usage outcome = quantizeMicro prec28 plan.minimumRequest := by
    rw [PricingPlan.cost, costComponents_unbilled unbilled, add, add_zero, nothing,
      max_eq_right nonneg.2.2]
  unfold BilledAsDeclared
  rw [cost]
  constructor
  · intro declared
    obtain ⟨-, written⟩ := quantizeMicro_eq_some.mp (declared.1 unbilled)
    rw [roundUp_of_nonneg (mul_nonneg nonneg.2.2 (by norm_num)), eq_comm,
      div_eq_zero_iff, or_iff_left (by norm_num), cast_eq_zero] at written
    have small : plan.minimumRequest * 1000000 ≤ 0 := by simpa using ceil_le.mp written.le
    exact le_antisymm (by linarith) nonneg.2.2
  · intro free
    rw [free]
    refine ⟨fun _ => quantizeMicro_eq_some.mpr ?_, fun billed => by simp [unbilled] at billed⟩
    simp [roundUp]

end PricingPlan

def RecordedAsDeclared (plan : PricingPlan) (usage : Usage) (outcome : AttemptStatus) : Prop :=
  ∀ (route : ProviderRoute) (reservation : ℚ) (attempt finished : InferenceAttempt),
    route.pricing = plan → attempt.usage = .reported →
    Finished prec28 route reservation (preparedAttempt route attempt) finished →
    finished.usage = usage → none ∉ usage.counts → finished.status = outcome →
    (plan.billable outcome = false → finished.totalCost = 0) ∧
    (plan.billable outcome = true → ∀ fixed ∈ finished.fixedCallCost, ∀ token ∈ finished.tokenCost,
      fixed + token ≤ finished.totalCost)

theorem answered_of_reported (fresh : attempt.usage = .reported)
    (recorded : Finished ctx route reservation attempt finished)
    (reported : none ∉ finished.usage.counts) :
    route.pricing.cost ctx finished.usage finished.status = some finished.totalCost ∧
    finished.fixedCallCost = some (route.pricing.costComponents ctx finished.usage finished.status).1 ∧
    finished.tokenCost =
      some (route.pricing.costComponents ctx finished.usage finished.status).2.1 := by
  cases recorded with
  | denied completedAt =>
    have unreported : (deniedAttempt completedAt attempt).usage = .reported := fresh
    simp [unreported, Usage.reported, Usage.counts] at reported
  | answered ok =>
    obtain ⟨cost, answered, ok⟩ := bind_ok.mp ok
    cases ok
    rw [responseCost, if_pos reported] at answered
    rw [InferenceBroker.costComponents, conservativeUsage_of_reported reported]
    exact ⟨priced_ok.mp answered, rfl, rfl⟩
  | failed ok =>
    obtain ⟨_, _, ok⟩ := bind_ok.mp ok
    cases ok
    simp [fresh, Usage.reported, Usage.counts] at reported

theorem recorded_of_billed (declared : plan.BilledAsDeclared usage outcome) :
    RecordedAsDeclared plan usage outcome := by
  rintro route reservation attempt finished rfl fresh recorded rfl reported rfl
  have prepared : (preparedAttempt route attempt).usage = .reported := fresh
  obtain ⟨cost, fixedCost, tokenCost⟩ := answered_of_reported prepared recorded reported
  constructor
  · intro unbilled
    rw [declared.1 unbilled] at cost
    exact (Option.some.inj cost).symm
  · intro billed fixed fixedHeld token tokenHeld
    obtain ⟨_, same, least⟩ := declared.2 billed
    rw [cost] at same
    cases same
    rw [fixedCost] at fixedHeld
    rw [tokenCost] at tokenHeld
    cases fixedHeld
    cases tokenHeld
    exact (le_max_left _ _).trans least.1.2

def minimumPlan : PricingPlan :=
  ⟨"minimum", 0, 1, 1, 1, 1, 1, 1 / 100, false, true, .reported, []⟩

def minimumRoute : ProviderRoute := { sampleRoute with pricing := minimumPlan }

def refusal : RawProviderResponse := ⟨"I cannot", inputUsage 100, none, none⟩

def refused : InferenceAttempt :=
  { sampleAnswer .nonretryableFailure (1 / 100) with
    errorClass := some "provider_refusal"
    usage := inputUsage 100
    pricingPlanId := some "minimum"
    fixedCallCost := some 0
    tokenCost := some 0
    billedTokens := some 0
    outputArtifact := none }

/-- The claimed attempt as `claim_attempt` returns it. -/
def claimedSample : InferenceAttempt :=
  { sampleAnswer .created 0 with completedAt := none, outputArtifact := none }

end Liki.Inference
