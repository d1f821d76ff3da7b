import Liki.Core
import Liki.Library.Bisection
import Liki.Library.Checks
import Liki.Library.KeyedRows
import Liki.Library.SortedGroups
import Mathlib.Algebra.BigOperators.Ring.List

/-! Stress scenarios and the reverse stress. Both take their losses from one function of the shocks, the cost
terms and a severity. The loss grows with the severity, so the reverse stress can look for the severity that
breaches a target by bisection. -/
namespace Liki.Portfolio
open DecimalArithmetic Checks KeyedRows Bisection List

/-- The shocks and cost terms that a scenario and a reverse stress have in common. -/
structure StressTerms where
  strategyReturnShocks : List (String × ℚ)
  slippageAndImpactLoss : ℚ
  fundingAndBorrowLoss : ℚ
  collateralAndFxLoss : ℚ
  venueDefaultLoss : ℚ
  liquidityFeedbackMultiplier : ℚ
  recoveryAssumption : ℚ
  /-- A mapping. -/
  keyed : (strategyReturnShocks.map Prod.fst).Nodup
  losses_nonneg : 0 ≤ slippageAndImpactLoss ∧ 0 ≤ fundingAndBorrowLoss ∧ 0 ≤ collateralAndFxLoss ∧
    0 ≤ venueDefaultLoss
  feedback_ge : 1 ≤ liquidityFeedbackMultiplier
  recovery_bounds : 0 ≤ recoveryAssumption ∧ recoveryAssumption ≤ 1

structure Scenario extends StressTerms where
  scenarioId : String
  named : scenarioId ≠ ""

structure ReverseStressConfig extends StressTerms where
  targetLossFraction : ℚ
  uncertainAssumptions : List String
  target_bounds : 0 < targetLossFraction ∧ targetLossFraction ≤ 1
  assumed : uncertainAssumptions ≠ []

/-- The strategies of a portfolio with their weights, as `analyze_portfolio` passes them on. -/
structure Allocation where
  names : List String
  weights : List ℚ
  equity : ℚ
  distinct : names.Nodup
  matched : weights.length = names.length
  equity_pos : 0 < equity

def StressTerms.shock (terms : StressTerms) (name : String) : ℚ :=
  (terms.strategyReturnShocks.lookup name).getD 0

/-- `set(shocks) == set(names)`. -/
def StressTerms.Covers (terms : StressTerms) (names : List String) : Prop :=
  (∀ name ∈ terms.strategyReturnShocks.map Prod.fst, name ∈ names) ∧
    ∀ name ∈ names, name ∈ terms.strategyReturnShocks.map Prod.fst

instance covers_decidable (terms : StressTerms) (names : List String) : Decidable (terms.Covers names) :=
  inferInstanceAs (Decidable (_ ∧ _))

structure LossComponents where
  strategyLosses : List (String × ℚ)
  marketLoss : ℚ
  fixedLoss : ℚ

/-- `_loss_components`. -/
def lossComponents (ctx : DecimalContext) (terms : StressTerms) (allocation : Allocation) (severity : ℚ) :
    LossComponents :=
  let strategyLosses := (allocation.names.zip allocation.weights).map fun held =>
    (held.1, ctx.mul (max 0 (ctx.mul (ctx.mul (ctx.sub 0 allocation.equity) held.2) (terms.shock held.1)))
      severity)
  let feedback := ctx.add 1 (ctx.mul (ctx.sub terms.liquidityFeedbackMultiplier 1) severity)
  { strategyLosses
    marketLoss := ctx.mul (ctx.sum (strategyLosses.map Prod.snd)) feedback
    fixedLoss := ctx.mul severity (ctx.add (ctx.add (ctx.add terms.slippageAndImpactLoss
      terms.fundingAndBorrowLoss) terms.collateralAndFxLoss)
      (ctx.mul terms.venueDefaultLoss (ctx.sub 1 terms.recoveryAssumption))) }

def totalLoss (ctx : DecimalContext) (terms : StressTerms) (allocation : Allocation) (severity : ℚ) : ℚ :=
  ctx.add (lossComponents ctx terms allocation severity).marketLoss
    (lossComponents ctx terms allocation severity).fixedLoss

/-- The strategies that lose, the largest loss first. -/
def dominantFailurePaths (strategyLosses : List (String × ℚ)) : List String :=
  ((SortedGroups.sortBy (fun item => -item.2) strategyLosses).filter fun item => 0 < item.2).map Prod.fst

structure ScenarioResult where
  scenarioId : String
  loss : ℚ
  lossFraction : ℚ
  survivalBreach : Bool
  dominantFailurePaths : List String
  recoveryAssumption : ℚ
  deriving DecidableEq

def scenarioResult (ctx : DecimalContext) (allocation : Allocation) (scenario : Scenario) : ScenarioResult :=
  let total := totalLoss ctx scenario.toStressTerms allocation 1
  { scenarioId := scenario.scenarioId
    loss := total
    lossFraction := ctx.div total allocation.equity
    survivalBreach := allocation.equity ≤ total
    dominantFailurePaths :=
      dominantFailurePaths (lossComponents ctx scenario.toStressTerms allocation 1).strategyLosses
    recoveryAssumption := scenario.recoveryAssumption }

def reportScenario (ctx : DecimalContext) (allocation : Allocation) (results : List ScenarioResult)
    (scenario : Scenario) : Except String (List ScenarioResult) := do
  refuseIf (¬scenario.Covers allocation.names)
    "scenario shocks must cover exactly the portfolio strategy universe"
  return upsert ScenarioResult.scenarioId (scenarioResult ctx allocation scenario) results

/-- `_scenario_results`. A later scenario takes the place of an earlier one of the same id. -/
def scenarioResults (ctx : DecimalContext) (allocation : Allocation) (scenarios : List Scenario) :
    Except String (List ScenarioResult) :=
  scenarios.foldlM (reportScenario ctx allocation) []

structure ReverseStressResult where
  targetLossFraction : ℚ
  severity : ℚ
  lossAtSeverity : ℚ
  maximumLoss : ℚ
  survivalBreachReachable : Bool
  dominantFailurePaths : List String
  uncertainAssumptions : List String
  deriving DecidableEq

def midpoint (ctx : DecimalContext) (lower upper : ℚ) : ℚ := ctx.div (ctx.add lower upper) 2

def breaches (ctx : DecimalContext) (config : ReverseStressConfig) (allocation : Allocation) (severity : ℚ) :
    Bool :=
  ctx.mul config.targetLossFraction allocation.equity ≤ totalLoss ctx config.toStressTerms allocation severity

/-- The severity, and whether the target is reached at all. The loop keeps the lower end below the target and
the upper end at it; the upper end is reported. -/
def searchSeverity (ctx : DecimalContext) (config : ReverseStressConfig) (allocation : Allocation) : ℚ × Bool :=
  if breaches ctx config allocation 1 then
    ((bisect (midpoint ctx) (breaches ctx config allocation) 80 (0, 1)).2, true)
  else (1, false)

/-- `_reverse_stress`. -/
def reverseStress (ctx : DecimalContext) (config : ReverseStressConfig) (allocation : Allocation) :
    Except String ReverseStressResult := do
  refuseIf (¬config.Covers allocation.names)
    "reverse-stress shocks must cover exactly the portfolio strategy universe"
  let (severity, reached) := searchSeverity ctx config allocation
  return {
    targetLossFraction := config.targetLossFraction
    severity
    lossAtSeverity := totalLoss ctx config.toStressTerms allocation severity
    maximumLoss := totalLoss ctx config.toStressTerms allocation 1
    survivalBreachReachable := reached
    dominantFailurePaths :=
      dominantFailurePaths (lossComponents ctx config.toStressTerms allocation severity).strategyLosses
    uncertainAssumptions := config.uncertainAssumptions }

/-- The strategies' losses at full severity, before the feedback. -/
def marketBase (terms : StressTerms) (allocation : Allocation) : ℚ :=
  ((allocation.names.zip allocation.weights).map fun held =>
    max 0 (-allocation.equity * held.2 * terms.shock held.1)).sum

def fixedBase (terms : StressTerms) : ℚ :=
  terms.slippageAndImpactLoss + terms.fundingAndBorrowLoss + terms.collateralAndFxLoss +
    terms.venueDefaultLoss * (1 - terms.recoveryAssumption)

theorem marketBase_nonneg (terms : StressTerms) (allocation : Allocation) : 0 ≤ marketBase terms allocation := by
  refine sum_nonneg fun loss member => ?_
  obtain ⟨_, -, rfl⟩ := mem_map.mp member
  exact le_max_left _ _

theorem fixedBase_nonneg (terms : StressTerms) : 0 ≤ fixedBase terms := by
  obtain ⟨_, _, _, venue⟩ := terms.losses_nonneg
  have unrecovered : 0 ≤ 1 - terms.recoveryAssumption := sub_nonneg.mpr terms.recovery_bounds.2
  have defaulted : 0 ≤ terms.venueDefaultLoss * (1 - terms.recoveryAssumption) := mul_nonneg venue unrecovered
  unfold fixedBase
  linarith

theorem totalLoss_exact (terms : StressTerms) (allocation : Allocation) (severity : ℚ) :
    totalLoss .exact terms allocation severity =
      marketBase terms allocation * severity * (1 + (terms.liquidityFeedbackMultiplier - 1) * severity) +
        severity * fixedBase terms := by
  have strategies : (((allocation.names.zip allocation.weights).map fun held => (held.1,
      max 0 ((0 - allocation.equity) * held.2 * terms.shock held.1) * severity)).map Prod.snd).sum =
        marketBase terms allocation * severity := by
    rw [marketBase, map_map, ← sum_map_mul_right]
    refine congrArg sum (map_congr_left fun held _ => ?_)
    rw [Function.comp_apply, zero_sub]
  simp only [totalLoss, lossComponents, DecimalContext.exact_add, DecimalContext.exact_mul,
    DecimalContext.exact_sub, DecimalContext.exact_sum, strategies, fixedBase]

theorem totalLoss_zero (terms : StressTerms) (allocation : Allocation) :
    totalLoss .exact terms allocation 0 = 0 := by
  rw [totalLoss_exact, mul_zero, zero_mul, zero_mul, add_zero]

theorem totalLoss_mono (terms : StressTerms) (allocation : Allocation) (start : 0 ≤ low)
    (grows : low ≤ high) :
    totalLoss .exact terms allocation low ≤ totalLoss .exact terms allocation high := by
  have market := marketBase_nonneg terms allocation
  have fixed := fixedBase_nonneg terms
  have amplifies : 0 ≤ terms.liquidityFeedbackMultiplier - 1 := sub_nonneg.mpr terms.feedback_ge
  have feedback : 1 + (terms.liquidityFeedbackMultiplier - 1) * low ≤
      1 + (terms.liquidityFeedbackMultiplier - 1) * high :=
    add_le_add_right (mul_le_mul_of_nonneg_left grows amplifies) 1
  have amplified : 0 ≤ 1 + (terms.liquidityFeedbackMultiplier - 1) * low :=
    add_nonneg zero_le_one (mul_nonneg amplifies start)
  rw [totalLoss_exact, totalLoss_exact]
  refine add_le_add ?_ (mul_le_mul_of_nonneg_right grows fixed)
  exact mul_le_mul (mul_le_mul_of_nonneg_left grows market) feedback amplified
    (mul_nonneg market (start.trans grows))

theorem midpoint_exact (lower upper : ℚ) : midpoint .exact lower upper = (lower + upper) / 2 := by
  rw [midpoint, DecimalContext.exact_div, DecimalContext.exact_add]

theorem breaches_exact {config : ReverseStressConfig} {allocation : Allocation} :
    breaches .exact config allocation severity = true ↔
      config.targetLossFraction * allocation.equity ≤
        totalLoss .exact config.toStressTerms allocation severity := by
  rw [breaches, DecimalContext.exact_mul, decide_eq_true_iff]

theorem unshocked_below (config : ReverseStressConfig) (allocation : Allocation) :
    breaches .exact config allocation 0 = false := by
  rw [← Bool.not_eq_true, breaches_exact, totalLoss_zero, not_le]
  exact mul_pos config.target_bounds.1 allocation.equity_pos

structure Searched (config : ReverseStressConfig) (allocation : Allocation) (severity : ℚ) (reached : Bool) :
    Prop where
  within : 0 ≤ severity ∧ severity ≤ 1
  first : reached = true →
    config.targetLossFraction * allocation.equity ≤ totalLoss .exact config.toStressTerms allocation severity ∧
      totalLoss .exact config.toStressTerms allocation (severity - 1 / 2 ^ 80) <
        config.targetLossFraction * allocation.equity
  never : reached = false → ∀ other, 0 ≤ other → other ≤ 1 →
    totalLoss .exact config.toStressTerms allocation other < config.targetLossFraction * allocation.equity

theorem searchSeverity_searched (config : ReverseStressConfig) (allocation : Allocation) :
    Searched config allocation (searchSeverity .exact config allocation).1
      (searchSeverity .exact config allocation).2 := by
  cases reached : breaches .exact config allocation 1 with
  | false =>
    have found : searchSeverity .exact config allocation = (1, false) := by
      rw [searchSeverity, reached, if_neg Bool.false_ne_true]
    rw [found]
    refine ⟨⟨zero_le_one, le_rfl⟩, fun impossible => absurd impossible Bool.false_ne_true, ?_⟩
    intro _ other start stop
    have largest := totalLoss_mono config.toStressTerms allocation start stop
    rw [← Bool.not_eq_true, breaches_exact, not_le] at reached
    exact largest.trans_lt reached
  | true =>
    have found : searchSeverity .exact config allocation =
        ((bisect (midpoint .exact) (breaches .exact config allocation) 80 (0, 1)).2, true) := by
      rw [searchSeverity, reached, if_pos rfl]
    have starts : Brackets (breaches .exact config allocation) (0, 1) := ⟨unshocked_below config allocation, reached⟩
    have ends : Brackets (breaches .exact config allocation)
        (bisect (midpoint .exact) (breaches .exact config allocation) 80 (0, 1)) := starts.bisect 80
    have width := width_bisect midpoint_exact (breaches .exact config allocation) 80 ((0 : ℚ), 1)
    have inside : (bisect (midpoint .exact) (breaches .exact config allocation) 80 (0, 1)).1 ≤
          (bisect (midpoint .exact) (breaches .exact config allocation) 80 (0, 1)).2 ∧
        0 ≤ (bisect (midpoint .exact) (breaches .exact config allocation) 80 (0, 1)).1 ∧
        (bisect (midpoint .exact) (breaches .exact config allocation) 80 (0, 1)).2 ≤ 1 :=
      bisect_within midpoint_exact 80 zero_le_one le_rfl le_rfl
    rw [found]
    generalize bisect (midpoint .exact) (breaches .exact config allocation) 80 (0, 1) = bracket at *
    obtain ⟨below, above⟩ := ends
    obtain ⟨ordered, low, high⟩ := inside
    refine ⟨⟨low.trans ordered, high⟩, fun _ => ⟨breaches_exact.mp above, ?_⟩,
      fun impossible => absurd impossible.symm Bool.false_ne_true⟩
    have lower : bracket.2 - 1 / 2 ^ 80 = bracket.1 := by
      rw [sub_zero] at width
      rw [← width, sub_sub_cancel]
    rw [lower]
    rw [← Bool.not_eq_true, breaches_exact, not_le] at below
    exact below

theorem reverseStress_searched {config : ReverseStressConfig} {allocation : Allocation}
    {result : ReverseStressResult} (ok : reverseStress .exact config allocation = .ok result) :
    Searched config allocation result.severity result.survivalBreachReachable := by
  simp only [reverseStress, bind_ok, guard_ok, pure_ok] at ok
  obtain ⟨-, rfl⟩ := ok
  exact searchSeverity_searched config allocation

structure Alike (terms others : StressTerms) : Prop where
  shocks : ∀ name, terms.strategyReturnShocks.lookup name = others.strategyReturnShocks.lookup name
  slippage : terms.slippageAndImpactLoss = others.slippageAndImpactLoss
  funding : terms.fundingAndBorrowLoss = others.fundingAndBorrowLoss
  collateral : terms.collateralAndFxLoss = others.collateralAndFxLoss
  venue : terms.venueDefaultLoss = others.venueDefaultLoss
  feedback : terms.liquidityFeedbackMultiplier = others.liquidityFeedbackMultiplier
  recovery : terms.recoveryAssumption = others.recoveryAssumption

variable {ctx : DecimalContext} {others : StressTerms} {after results : List ScenarioResult}

theorem lossComponents_alike {terms : StressTerms} (alike : Alike terms others)
    (allocation : Allocation) (severity : ℚ) :
    lossComponents ctx terms allocation severity = lossComponents ctx others allocation severity := by
  have shock : terms.shock = others.shock := by
    funext name
    rw [StressTerms.shock, StressTerms.shock, alike.shocks]
  rw [lossComponents, lossComponents, shock, alike.slippage, alike.funding, alike.collateral, alike.venue,
    alike.feedback, alike.recovery]

theorem totalLoss_alike (ctx : DecimalContext) {terms : StressTerms} (alike : Alike terms others)
    (allocation : Allocation) (severity : ℚ) :
    totalLoss ctx terms allocation severity = totalLoss ctx others allocation severity := by
  rw [totalLoss, totalLoss, lossComponents_alike alike]

theorem reportScenario_ok {allocation : Allocation} {scenario : Scenario}
    (ok : reportScenario ctx allocation results scenario = .ok after) :
    after = upsert ScenarioResult.scenarioId (scenarioResult ctx allocation scenario) results := by
  simp only [reportScenario, bind_ok, guard_ok, pure_ok] at ok
  exact ok.2.symm

theorem reported_kept {allocation : Allocation} {scenarios : List Scenario} {id : String}
    (fresh : ∀ other ∈ scenarios, other.scenarioId ≠ id)
    (ok : scenarios.foldlM (reportScenario ctx allocation) results = .ok after) :
    find ScenarioResult.scenarioId id after = find ScenarioResult.scenarioId id results := by
  induction scenarios generalizing results with
  | nil =>
    cases ok
    rfl
  | cons other _ ih =>
    rw [foldlM_cons] at ok
    obtain ⟨_, first, rest⟩ := bind_ok.mp ok
    rw [ih (fun later member => fresh later (mem_cons_of_mem _ member)) rest, reportScenario_ok first,
      find_upsert]
    exact if_neg (fresh other mem_cons_self)

theorem reported_last {allocation : Allocation} {earlier later : List Scenario}
    {scenario : Scenario} (last : ∀ other ∈ later, other.scenarioId ≠ scenario.scenarioId)
    (ok : scenarioResults ctx allocation (earlier ++ scenario :: later) = .ok reports) :
    find ScenarioResult.scenarioId scenario.scenarioId reports =
      some (scenarioResult ctx allocation scenario) := by
  rw [scenarioResults, foldlM_append] at ok
  obtain ⟨_, -, rest⟩ := bind_ok.mp ok
  rw [foldlM_cons] at rest
  obtain ⟨_, first, rest⟩ := bind_ok.mp rest
  rw [reported_kept last rest, reportScenario_ok first, find_upsert]
  exact if_pos rfl

/-- The reverse stress and the scenarios take one loss. It grows with the severity; a severity that is reported
as reached breaches the target and does not do so `2 ^ -80` below; if none is, none in the range breaches it. -/
theorem reverse_stress_first_breach (config : ReverseStressConfig) (allocation : Allocation)
    (result : ReverseStressResult) (ok : reverseStress .exact config allocation = .ok result) :
    (∀ low high, 0 ≤ low → low ≤ high → high ≤ 1 →
      totalLoss .exact config.toStressTerms allocation low ≤
        totalLoss .exact config.toStressTerms allocation high) ∧
    Searched config allocation result.severity result.survivalBreachReachable ∧
    result.lossAtSeverity = totalLoss .exact config.toStressTerms allocation result.severity ∧
    ∀ earlier later scenario reports, Alike scenario.toStressTerms config.toStressTerms →
      (∀ other ∈ later, other.scenarioId ≠ scenario.scenarioId) →
      scenarioResults .exact allocation (earlier ++ scenario :: later) = .ok reports →
      ∃ report, find ScenarioResult.scenarioId scenario.scenarioId reports = some report ∧
        report.loss = totalLoss .exact config.toStressTerms allocation 1 ∧
        report.loss = result.maximumLoss := by
  have searched := reverseStress_searched ok
  simp only [reverseStress, bind_ok, guard_ok, pure_ok] at ok
  obtain ⟨-, rfl⟩ := ok
  refine ⟨fun low high start grows _ => totalLoss_mono _ allocation start grows, searched, rfl, ?_⟩
  intro earlier later scenario reports alike last reported
  have same := totalLoss_alike .exact alike allocation 1
  exact ⟨_, reported_last last reported, same, same⟩

namespace Gap

theorem keyed : ([("a", (-2 / 5 : ℚ)), ("b", 1 / 10)].map Prod.fst).Nodup := by decide

theorem losses : (0 : ℚ) ≤ 5 ∧ (0 : ℚ) ≤ 5 ∧ (0 : ℚ) ≤ 5 ∧ (0 : ℚ) ≤ 10 := by norm_num

theorem doubled : (1 : ℚ) ≤ 2 := by norm_num

theorem half : (0 : ℚ) ≤ 1 / 2 ∧ (1 / 2 : ℚ) ≤ 1 := by norm_num

theorem quarter : (0 : ℚ) < 1 / 4 ∧ (1 / 4 : ℚ) ≤ 1 := by norm_num

theorem hundred : (0 : ℚ) < 100 := by norm_num

theorem assumed : ["exit depth"] ≠ [] := cons_ne_nil _ _

theorem named : "gap" ≠ "" := by decide

theorem distinct : ["a", "b"].Nodup := by decide

def terms : StressTerms :=
  ⟨[("a", -2 / 5), ("b", 1 / 10)], 5, 5, 5, 10, 2, 1 / 2, keyed, losses, doubled, half⟩

def scenario : Scenario := ⟨terms, "gap", named⟩

def config : ReverseStressConfig := ⟨terms, 1 / 4, ["exit depth"], quarter, assumed⟩

def allocation : Allocation := ⟨["a", "b"], [1 / 2, 1 / 4], 100, distinct, rfl, hundred⟩

def result : ReverseStressResult := ⟨1 / 4, 1 / 2, 25, 60, true, ["a"], ["exit depth"]⟩

def report : ScenarioResult := ⟨"gap", 60, 3 / 5, false, ["a"], 1 / 2⟩

theorem alike : Alike scenario.toStressTerms config.toStressTerms := ⟨fun _ => rfl, rfl, rfl, rfl, rfl, rfl, rfl⟩

end Gap

open Gap in
theorem reverse_stress_first_breach_gap :
    reverseStress .exact config allocation = .ok result ∧
      scenarioResults .exact allocation [scenario] = .ok [report] ∧
      Searched config allocation (1 / 2) true ∧
      ∃ found, find ScenarioResult.scenarioId "gap" [report] = some found ∧ found.loss = result.maximumLoss := by
  have ran : reverseStress .exact config allocation = .ok result := by decide +kernel
  have reported : scenarioResults .exact allocation [scenario] = .ok [report] := by decide +kernel
  obtain ⟨-, searched, -, agrees⟩ := reverse_stress_first_breach config allocation result ran
  obtain ⟨found, under, -, same⟩ := agrees [] [] scenario [report] alike (by simp) reported
  exact ⟨ran, reported, searched, found, under, same⟩

end Liki.Portfolio
