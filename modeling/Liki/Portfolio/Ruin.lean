import Liki.Core
import Liki.Library.Checks
import Liki.Library.Drawdowns

/-! The risk of ruin, by simulated paths. Every path follows the observed returns in blocks, stressed and
charged, and keeps its peak and its low. The peak is kept in vain: ruin is measured from the low to the
start. A path that first rises and then falls by the ruin fraction from its peak is not counted unless it
falls that far below the start too. -/
namespace Liki.Portfolio
open Checks Drawdowns List Prod Nat

inductive RuinError where
  | value (message : String)
  /-- `KeyError`. -/
  | key (name : String)
  deriving DecidableEq

inductive EvidenceKind where
  | observedFact | derivedValue | modelEstimate | unknown
  deriving DecidableEq

structure BoundedValue where
  lower : ℚ
  central : ℚ
  upper : ℚ
  evidenceKind : EvidenceKind
  uncertaintyReason : String
  deriving DecidableEq

/-- `BoundedValue(...)`: the order, and a reason. -/
def BoundedValue.build (lower central upper : ℚ) (evidenceKind : EvidenceKind) (uncertaintyReason : String) :
    Except RuinError BoundedValue := do
  refuseIf (uncertaintyReason = "") (.value "uncertainty_reason: String should have at least 1 character")
  refuseIf (¬(lower ≤ central ∧ central ≤ upper)) (.value "bounded value requires lower <= central <= upper")
  return ⟨lower, central, upper, evidenceKind, uncertaintyReason⟩

/-- The returns of all strategies at one instant. -/
structure PortfolioObservation where
  observedAt : Time
  simpleReturns : List (String × ℚ)
  /-- A mapping, and at least one return. -/
  keyed : (simpleReturns.map fst).Nodup
  nonempty : simpleReturns ≠ []

def PortfolioObservation.simpleReturn (observation : PortfolioObservation) (name : String) : ℚ :=
  (observation.simpleReturns.lookup name).getD 0

structure PathSimulationConfig where
  seed : ℤ
  paths : ℕ
  horizonPeriods : ℕ
  startingEquity : ℚ
  ruinDrawdownFraction : ℚ
  edgeDecayFraction : ℚ
  correlationStressMultiplier : ℚ
  perPeriodCostFraction : ℚ
  shockProbabilityPerPeriod : ℚ
  shockLossFraction : ℚ
  blockLength : ℕ
  paths_bounds : 100 ≤ paths ∧ paths ≤ 100000
  horizon_bounds : 1 ≤ horizonPeriods ∧ horizonPeriods ≤ 10000
  equity_pos : 0 < startingEquity
  fraction_bounds : 0 < ruinDrawdownFraction ∧ ruinDrawdownFraction < 1
  decay_bounds : 0 ≤ edgeDecayFraction ∧ edgeDecayFraction ≤ 1
  stress_bounds : 1 ≤ correlationStressMultiplier ∧ correlationStressMultiplier ≤ 10
  cost_bounds : 0 ≤ perPeriodCostFraction ∧ perPeriodCostFraction < 1
  probability_bounds : 0 ≤ shockProbabilityPerPeriod ∧ shockProbabilityPerPeriod ≤ 1
  loss_bounds : 0 ≤ shockLossFraction ∧ shockLossFraction < 1
  block_bounds : 1 ≤ blockLength ∧ blockLength ≤ 365

/-- What a seed draws: the row where a block of a path starts in a period, and the number that is compared
with the probability of a shock. -/
structure Draws where
  row : ℕ → ℕ → ℕ
  shock : ℕ → ℕ → ℚ

/-- What reading floats as rationals leaves open: the square root, and a number in text. -/
structure Floating where
  squareRoot : ℚ → ℚ
  /-- `format(value, ".12g")`. -/
  general : ℚ → String

/-- The loop of `_matrix`, after the observation before. -/
def matrixRows (strategies : List String) : Option Time → List PortfolioObservation →
    Except RuinError (List (List ℚ))
  | _, [] => .ok []
  | previous, observation :: observations => do
    refuseIf (¬((∀ name ∈ observation.simpleReturns.map fst, name ∈ strategies) ∧
        ∀ name ∈ strategies, name ∈ observation.simpleReturns.map fst))
      (.value "all observations must contain exactly the portfolio strategy universe")
    refuseIf (∃ before ∈ previous, observation.observedAt ≤ before)
      (.value "observations must be strictly increasing")
    let rows ← matrixRows strategies (some observation.observedAt) observations
    return strategies.map observation.simpleReturn :: rows

/-- `_matrix`. -/
def matrix (observations : List PortfolioObservation) (strategies : List String) :
    Except RuinError (List (List ℚ)) := do
  refuseIf (observations.length < 2) (.value "at least two synchronized observations are required")
  matrixRows strategies none observations

structure Simulation where
  matrix : List (List ℚ)
  vector : List ℚ
  config : PathSimulationConfig
  draws : Draws

structure PathState where
  equity : ℚ
  peak : ℚ
  pathLow : ℚ
  remainingBlock : ℕ
  row : ℕ

namespace Simulation

variable (simulation : Simulation)

/-- `matrix.mean(axis=0)`. -/
def means : List ℚ :=
  (range simulation.vector.length).map fun column =>
    (simulation.matrix.map fun row => row.getD column 0).sum / simulation.matrix.length

def stressed (sampled : List ℚ) : List ℚ :=
  let centered := zipWith (· - ·) sampled simulation.means
  let common := centered.sum / centered.length
  zipWith (fun mean deviation => mean * simulation.config.edgeDecayFraction + deviation +
    (simulation.config.correlationStressMultiplier - 1) * common) simulation.means centered

def factor (sampled : List ℚ) (shock : ℚ) : ℚ :=
  let result := (zipWith (· * ·) simulation.vector (simulation.stressed sampled)).sum -
    simulation.config.perPeriodCostFraction
  max 0 (1 + if shock < simulation.config.shockProbabilityPerPeriod then
    result - simulation.config.shockLossFraction else result)

def advance (path period : ℕ) (state : PathState) : PathState :=
  let starts := state.remainingBlock = 0
  let row := if starts then simulation.draws.row path period else state.row
  let remainingBlock := if starts then simulation.config.blockLength else state.remainingBlock
  let sampled := simulation.matrix.getD (row % simulation.matrix.length) []
  let equity := state.equity * simulation.factor sampled (simulation.draws.shock path period)
  { equity, peak := max state.peak equity, pathLow := min state.pathLow equity,
    remainingBlock := remainingBlock - 1, row := row + 1 }

def walk (path : ℕ) : ℕ → PathState
  | 0 =>
    let equity := simulation.config.startingEquity
    ⟨equity, equity, equity, 0, 0⟩
  | period + 1 => simulation.advance path period (walk path period)

def finish (path : ℕ) : PathState := simulation.walk path simulation.config.horizonPeriods

def counted (path : ℕ) : Bool :=
  let drawdown := 1 - (simulation.finish path).pathLow / simulation.config.startingEquity
  simulation.config.ruinDrawdownFraction ≤ drawdown ∨ (simulation.finish path).equity ≤ 0

def terminalLoss (path : ℕ) : ℚ :=
  1 - (simulation.finish path).equity / simulation.config.startingEquity

def ruinCount : ℕ := (range simulation.config.paths).countP simulation.counted

/-- `probability`. -/
def probability : ℚ := simulation.ruinCount / simulation.config.paths

def estimate (floating : Floating) : Except RuinError BoundedValue :=
  let probability := simulation.probability
  let error := floating.squareRoot (probability * (1 - probability) / simulation.config.paths)
  let losses := (range simulation.config.paths).map simulation.terminalLoss
  BoundedValue.build (max 0 (probability - 196 / 100 * error)) probability
    (min 1 (probability + 196 / 100 * error)) .modelEstimate
    s!"seeded synchronous block bootstrap; 95% binomial Monte Carlo interval; mean terminal loss={floating.general (losses.sum / losses.length)}"

end Simulation

/-- The simulation of a call, after its checks. `generator` is the random generator of a seed. -/
def simulationOf (generator : ℤ → Draws) (observations : List PortfolioObservation)
    (strategyIds : List String) (weights : List (String × ℚ)) (config : PathSimulationConfig) :
    Except RuinError Simulation := do
  let matrix ← matrix observations strategyIds
  let vector ← strategyIds.mapM fun name => expect (weights.lookup name) (.key name)
  refuseIf (vector.sum ≤ 0 ∨ 1 + 1 / 1000000000 < vector.sum ∨ ∃ weight ∈ vector, weight < 0)
    (.value "risk-of-ruin weights must be nonnegative with gross exposure in (0, 1]")
  return ⟨matrix, vector, config, generator config.seed⟩

def simulateRuin (floating : Floating) (generator : ℤ → Draws) (observations : List PortfolioObservation)
    (strategyIds : List String) (weights : List (String × ℚ)) (config : PathSimulationConfig) :
    Except RuinError BoundedValue := do
  let simulation ← simulationOf generator observations strategyIds weights config
  simulation.estimate floating

namespace Simulation

variable {simulation : Simulation} {path : ℕ}

def growth (simulation : Simulation) (path period : ℕ) : ℚ :=
  let offset := period % simulation.config.blockLength
  let row := simulation.draws.row path (period - offset) + offset
  simulation.factor (simulation.matrix.getD (row % simulation.matrix.length) [])
    (simulation.draws.shock path period)

def curve (simulation : Simulation) (path : ℕ) : ℕ → ℚ :=
  compounded simulation.config.startingEquity (simulation.growth path)

theorem growth_nonneg (simulation : Simulation) (path period : ℕ) : 0 ≤ simulation.growth path period :=
  le_max_left _ _

structure InBlock (simulation : Simulation) (path period : ℕ) (state : PathState) : Prop where
  remaining : state.remainingBlock = if period % simulation.config.blockLength = 0 then 0
    else simulation.config.blockLength - period % simulation.config.blockLength
  row : period % simulation.config.blockLength ≠ 0 →
    state.row = simulation.draws.row path (period - period % simulation.config.blockLength) +
      period % simulation.config.blockLength

theorem succ_mod (period : ℕ) {length : ℕ} (some : 0 < length) :
    (period + 1) % length = if period % length + 1 = length then 0 else period % length + 1 := by
  have parts := div_add_mod period length
  have offset := mod_lt period some
  split
  · rename_i last
    have whole : period + 1 = length * (period / length + 1) := by
      rw [mul_add, mul_one]
      omega
    rw [whole, mul_mod_right]
  · rename_i inner
    have within : period % length + 1 < length := by omega
    calc (period + 1) % length = (length * (period / length) + (period % length + 1)) % length := by
          rw [← add_assoc, parts]
      _ = period % length + 1 := by rw [mul_add_mod, mod_eq_of_lt within]

variable {period : ℕ} {state : PathState}

theorem InBlock.refilled (block : InBlock simulation path period state) :
    (if state.remainingBlock = 0 then simulation.draws.row path period else state.row) =
        simulation.draws.row path (period - period % simulation.config.blockLength) +
          period % simulation.config.blockLength ∧
      (if state.remainingBlock = 0 then simulation.config.blockLength else state.remainingBlock) =
        simulation.config.blockLength - period % simulation.config.blockLength := by
  have remaining := block.remaining
  by_cases starts : period % simulation.config.blockLength = 0
  · rw [if_pos starts] at remaining
    rw [if_pos remaining, if_pos remaining, starts]
    exact ⟨rfl, rfl⟩
  · have offset := mod_lt period simulation.config.block_bounds.1
    rw [if_neg starts] at remaining
    have left : state.remainingBlock ≠ 0 := by omega
    rw [if_neg left, if_neg left]
    exact ⟨block.row starts, remaining⟩

/-- One period samples the row of its place in the block. -/
theorem InBlock.advance (block : InBlock simulation path period state) :
    (simulation.advance path period state).equity = state.equity * simulation.growth path period ∧
      InBlock simulation path (period + 1) (simulation.advance path period state) := by
  have offset := Nat.mod_lt period simulation.config.block_bounds.1
  have next := succ_mod period simulation.config.block_bounds.1
  obtain ⟨row, remaining⟩ := block.refilled
  have used : (simulation.advance path period state).row =
      simulation.draws.row path (period - period % simulation.config.blockLength) +
        period % simulation.config.blockLength + 1 := congrArg (· + 1) row
  have left : (simulation.advance path period state).remainingBlock =
      simulation.config.blockLength - period % simulation.config.blockLength - 1 := congrArg (· - 1) remaining
  refine ⟨?_, ?_, ?_⟩
  · simp only [Simulation.advance, growth, row]
  · rw [left, next]
    split
    · rw [if_pos rfl]
      omega
    · rw [if_neg (Nat.succ_ne_zero _)]
      omega
  · intro inner
    rw [used, next]
    rw [next] at inner
    split at inner
    · exact absurd rfl inner
    · rename_i further
      rw [if_neg further, Nat.add_sub_add_right]
      omega

/-- The walk follows the curve, and keeps its highest and its lowest point. -/
structure Follows (simulation : Simulation) (path period : ℕ) (state : PathState) : Prop where
  block : InBlock simulation path period state
  equity : state.equity = simulation.curve path period
  peak : state.peak = partialSups (simulation.curve path) period
  low : ∀ bound, state.pathLow ≤ bound ↔ ∃ time ≤ period, simulation.curve path time ≤ bound

theorem walk_follows (simulation : Simulation) (path period : ℕ) :
    Follows simulation path period (simulation.walk path period) := by
  induction period with
  | zero =>
    have start : simulation.curve path 0 = simulation.config.startingEquity := compounded_zero _ _
    refine ⟨⟨by rw [zero_mod]; rfl, fun inner => absurd (zero_mod _) inner⟩, start.symm, ?_,
      fun bound => ?_⟩
    · rw [partialSups_zero, start]
      rfl
    · constructor
      · intro low
        exact ⟨0, le_rfl, start.trans_le low⟩
      · rintro ⟨time, first, low⟩
        rw [le_zero.mp first, start] at low
        exact low
  | succ period ih =>
    obtain ⟨grown, block⟩ := ih.block.advance
    have equity : (simulation.walk path (period + 1)).equity = simulation.curve path (period + 1) := by
      rw [walk, grown, ih.equity, curve, compounded_succ]
    refine ⟨block, equity, ?_, fun bound => ?_⟩
    · have risen : (simulation.walk path (period + 1)).peak =
          max (simulation.walk path period).peak (simulation.walk path (period + 1)).equity := rfl
      rw [risen, ih.peak, equity]
      exact (partialSups_succ (simulation.curve path) period).symm
    · have fallen : (simulation.walk path (period + 1)).pathLow =
          min (simulation.walk path period).pathLow (simulation.walk path (period + 1)).equity := rfl
      rw [fallen, min_le_iff, ih.low, equity]
      constructor
      · rintro (⟨time, inside, low⟩ | low)
        · exact ⟨time, by omega, low⟩
        · exact ⟨period + 1, le_rfl, low⟩
      · rintro ⟨time, inside, low⟩
        rcases lt_or_eq_of_le inside with before | now
        · exact .inl ⟨time, by omega, low⟩
        · subst now
          exact .inr low

def equities (simulation : Simulation) (path time : ℕ) : ℚ := (simulation.walk path time).equity

theorem equities_eq (simulation : Simulation) (path : ℕ) : simulation.equities path = simulation.curve path :=
  funext fun time => (walk_follows simulation path time).equity

def Ruined (simulation : Simulation) (path : ℕ) : Prop :=
  FallsFromPeak simulation.config.ruinDrawdownFraction (simulation.equities path)
      simulation.config.horizonPeriods ∨
    ∃ time ≤ simulation.config.horizonPeriods, simulation.equities path time ≤ 0

instance ruined_decidable (simulation : Simulation) : DecidablePred simulation.Ruined := fun path =>
  inferInstanceAs (Decidable ((∃ time ≤ simulation.config.horizonPeriods,
    simulation.config.ruinDrawdownFraction * partialSups (simulation.equities path) time ≤
      partialSups (simulation.equities path) time - simulation.equities path time) ∨
    ∃ time ≤ simulation.config.horizonPeriods, simulation.equities path time ≤ 0))

theorem counted_iff : simulation.counted path = true ↔
    FallsFromStart simulation.config.ruinDrawdownFraction (simulation.curve path)
      simulation.config.horizonPeriods := by
  have start := simulation.config.equity_pos
  have proper := simulation.config.fraction_bounds.2.le
  have first : simulation.curve path 0 = simulation.config.startingEquity := compounded_zero _ _
  have final := walk_follows simulation path simulation.config.horizonPeriods
  have fallen : simulation.config.ruinDrawdownFraction ≤
        1 - (simulation.finish path).pathLow / simulation.config.startingEquity ↔
      FallsFromStart simulation.config.ruinDrawdownFraction (simulation.curve path)
        simulation.config.horizonPeriods := by
    rw [le_sub_comm, div_le_iff₀ start, finish, final.low, FallsFromStart, first]
  rw [counted, decide_eq_true_iff, fallen, or_iff_left_iff_imp, finish, final.equity]
  exact fallsFromStart_of_zero start (simulation.growth_nonneg path) proper le_rfl

theorem ruined_iff : simulation.Ruined path ↔
    FallsFromPeak simulation.config.ruinDrawdownFraction (simulation.curve path)
      simulation.config.horizonPeriods := by
  have proper := simulation.config.fraction_bounds.2.le
  rw [Ruined, equities_eq, or_iff_left_iff_imp]
  rintro ⟨_, inside, zero⟩
  exact (fallsFromStart_of_zero simulation.config.equity_pos (simulation.growth_nonneg path) proper inside
    zero).fallsFromPeak proper

theorem ruined_of_counted (counts : simulation.counted path = true) : simulation.Ruined path :=
  ruined_iff.mpr ((counted_iff.mp counts).fallsFromPeak simulation.config.fraction_bounds.2.le)

theorem counted_iff_ruined_iff : (simulation.counted path = true ↔ simulation.Ruined path) ↔
    NoHiddenFall simulation.config.ruinDrawdownFraction (simulation.growth path)
      simulation.config.horizonPeriods := by
  rw [← falls_imp_iff simulation.config.equity_pos (simulation.growth_nonneg path)
    simulation.config.fraction_bounds.2.le]
  constructor
  · intro agrees falls
    exact counted_iff.mp (agrees.mpr (ruined_iff.mpr falls))
  · intro falls
    exact ⟨ruined_of_counted, fun ruined => counted_iff.mpr (falls (ruined_iff.mp ruined))⟩

theorem estimate_central {floating : Floating} {estimate : BoundedValue}
    (ok : simulation.estimate floating = .ok estimate) : estimate.central = simulation.probability := by
  simp only [Simulation.estimate, BoundedValue.build, bind_ok, guard_ok, pure_ok] at ok
  obtain ⟨-, -, rfl⟩ := ok
  rfl

end Simulation

/-- The estimate is the share of the counted paths, and every counted path is ruined. It is the share of the
ruined paths, path by path, exactly if no path falls by the ruin fraction over a stretch of its periods
without falling by it from the start. -/
theorem ruin_estimate_iff (floating : Floating) (generator : ℤ → Draws)
    (observations : List PortfolioObservation) (strategyIds : List String) (weights : List (String × ℚ))
    (config : PathSimulationConfig) (estimate : BoundedValue)
    (ok : simulateRuin floating generator observations strategyIds weights config = .ok estimate) :
    ∃ simulation, simulationOf generator observations strategyIds weights config = .ok simulation ∧
      estimate.central = (range config.paths).countP simulation.counted / config.paths ∧
      (∀ path, simulation.counted path = true → simulation.Ruined path) ∧
      (((∀ path < config.paths, simulation.counted path = true ↔ simulation.Ruined path) ∧
          estimate.central =
            (range config.paths).countP (fun path => simulation.Ruined path) / config.paths) ↔
        ∀ path < config.paths,
          NoHiddenFall config.ruinDrawdownFraction (simulation.growth path) config.horizonPeriods) := by
  rw [simulateRuin, bind_ok] at ok
  obtain ⟨simulation, given, ran⟩ := ok
  have same : simulation.config = config := by
    simp only [simulationOf, bind_ok, guard_ok, pure_ok] at given
    obtain ⟨_, -, _, -, -, rfl⟩ := given
    rfl
  have central := Simulation.estimate_central ran
  subst same
  refine ⟨simulation, given, central, fun path => Simulation.ruined_of_counted, ?_⟩
  constructor
  · rintro ⟨agrees, -⟩ path inside
    exact Simulation.counted_iff_ruined_iff.mp (agrees path inside)
  · intro shown
    have agrees : ∀ path < simulation.config.paths, simulation.counted path = true ↔ simulation.Ruined path :=
      fun path inside => Simulation.counted_iff_ruined_iff.mpr (shown path inside)
    refine ⟨agrees, central.trans ?_⟩
    have counts : (range simulation.config.paths).countP simulation.counted =
        (range simulation.config.paths).countP fun path => simulation.Ruined path := by
      refine countP_congr fun path member => ?_
      rw [decide_eq_true_iff]
      exact agrees path (mem_range.mp member)
    rw [Simulation.probability, Simulation.ruinCount, counts]

namespace RiseAndFall

theorem observed_keyed (value : ℚ) : ([("s", value)].map fst).Nodup := nodup_singleton _

theorem observed_nonempty (value : ℚ) : [("s", value)] ≠ [] := cons_ne_nil _ _

/-- One return of one strategy. -/
def observed (instant : Time) (value : ℚ) : PortfolioObservation :=
  ⟨instant, [("s", value)], observed_keyed value, observed_nonempty value⟩

theorem hundred_paths : 100 ≤ 100 ∧ 100 ≤ 100000 := by decide

theorem capital : (0 : ℚ) < 1 := one_pos

theorem two_periods : 1 ≤ 2 ∧ 2 ≤ 10000 := by decide

theorem single_block : 1 ≤ 1 ∧ 1 ≤ 365 := by decide

theorem two_fifths : (0 : ℚ) < 2 / 5 ∧ (2 / 5 : ℚ) < 1 := by norm_num

theorem whole : (0 : ℚ) ≤ 1 ∧ (1 : ℚ) ≤ 1 := by norm_num

theorem unstressed : (1 : ℚ) ≤ 1 ∧ (1 : ℚ) ≤ 10 := by norm_num

theorem free : (0 : ℚ) ≤ 0 ∧ (0 : ℚ) < 1 := by norm_num

theorem never : (0 : ℚ) ≤ 0 ∧ (0 : ℚ) ≤ 1 := by norm_num

def config : PathSimulationConfig :=
  ⟨0, 100, 2, 1, 2 / 5, 1, 1, 0, 0, 0, 1, hundred_paths, two_periods, capital, two_fifths, whole, unstressed, free,
    never, free, single_block⟩

def observations : List PortfolioObservation := [observed 0 1, observed 1 (-2 / 5)]

def inOrder (_ : ℤ) : Draws := ⟨fun _ period => period, fun _ _ => 0⟩

/-- Every path draws the first row. -/
def rising (_ : ℤ) : Draws := ⟨fun _ _ => 0, fun _ _ => 0⟩

def simulation : Simulation := ⟨[[1], [-2 / 5]], [1], config, inOrder 0⟩

theorem simulation_given : simulationOf inOrder observations ["s"] [("s", 1)] config = .ok simulation := by
  have rows : matrix observations ["s"] = .ok [[1], [-2 / 5]] := by decide +kernel
  have vector : (["s"].mapM fun name => expect ([("s", (1 : ℚ))].lookup name) (RuinError.key name)) = .ok [1] := by
    decide +kernel
  rw [simulationOf, rows, ok_bind, vector, ok_bind, bind_ok]
  exact ⟨(), refuseIf_ok.mpr (by decide +kernel), rfl⟩

/-- The root is right at zero, where it is taken. -/
def floating (loss : String) : Floating := ⟨id, fun _ => loss⟩

/-- The estimate that none of the paths is ruined. -/
def safe (loss : String) : BoundedValue :=
  ⟨0, 0, 0, .modelEstimate,
    s!"seeded synchronous block bootstrap; 95% binomial Monte Carlo interval; mean terminal loss={loss}"⟩

end RiseAndFall

open RiseAndFall in
/-- Every path doubles and then falls by two fifths of its peak; none is counted. -/
theorem fall_after_rise_uncounted :
    simulateRuin (floating "-0.2") inOrder observations ["s"] [("s", 1)] config = .ok (safe "-0.2") ∧
      simulationOf inOrder observations ["s"] [("s", 1)] config = .ok simulation ∧
      simulation.Ruined 0 ∧ simulation.counted 0 = false ∧
      (range 100).countP (fun path => simulation.Ruined path) = 100 :=
  ⟨by decide +kernel, simulation_given, by decide +kernel, by decide +kernel, by decide +kernel⟩

open RiseAndFall in
theorem ruin_estimate_iff_rising :
    simulateRuin (floating "-3") rising observations ["s"] [("s", 1)] config = .ok (safe "-3") ∧
      ∃ simulation, simulationOf rising observations ["s"] [("s", 1)] config = .ok simulation ∧
        (safe "-3").central = (range config.paths).countP simulation.counted / config.paths := by
  have ran : simulateRuin (floating "-3") rising observations ["s"] [("s", 1)] config = .ok (safe "-3") := by
    decide +kernel
  obtain ⟨simulation, given, central, -⟩ := ruin_estimate_iff (floating "-3") rising observations ["s"]
    [("s", 1)] config (safe "-3") ran
  exact ⟨ran, simulation, given, central⟩

end Liki.Portfolio
