import Liki.Evaluation.EarlyGatePlans
import Liki.Library.KeyedRows

/-! The fourth gate: what a candidate earns after its costs, and more than its benchmark,
on samples that are keyed by their ids. Evidence that is malformed, a cost or a capacity
outside what was declared and means below the policy are fatal; evidence that is missing
is meant to block. The gate takes a sample that nobody observed the capacity of for one
that violates it. -/
namespace Liki.Evaluation
open DecimalArithmetic List DecimalContext KeyedRows

structure CostSample where
  sampleId : String
  datasetSnapshotId : String
  /-- None for an instant without a zone. -/
  observedAt : Option Time
  grossPnl : ℚ
  cost : CostName → ℚ
  currency : String

structure BenchmarkSample where
  sampleId : String
  datasetSnapshotId : String
  benchmarkId : String
  benchmarkVersion : String
  afterCostPnl : ℚ
  currency : String

structure CapacityObservation where
  sampleId : String
  requestedNotional : ℚ
  executableNotional : ℚ
  plannedNotional : ℚ
  currency : String

/-- The fields that a `CostSample` is built from. -/
def CostSample.Valid (sample : CostSample) : Prop :=
  sample.sampleId ≠ "" ∧ sample.datasetSnapshotId ≠ "" ∧ sample.observedAt ≠ none ∧ sample.currency ≠ ""

instance (sample : CostSample) : Decidable sample.Valid := inferInstanceAs (Decidable (_ ∧ _))

def BenchmarkSample.Valid (benchmark : BenchmarkSample) : Prop :=
  benchmark.sampleId ≠ "" ∧ benchmark.datasetSnapshotId ≠ "" ∧ benchmark.benchmarkId ≠ "" ∧
    benchmark.benchmarkVersion ≠ "" ∧ benchmark.currency ≠ ""

instance (benchmark : BenchmarkSample) : Decidable benchmark.Valid := inferInstanceAs (Decidable (_ ∧ _))

/-- `notional_is_nonnegative`. -/
def CapacityObservation.Valid (observation : CapacityObservation) : Prop :=
  observation.sampleId ≠ "" ∧ observation.currency ≠ "" ∧
    0 ≤ min (min observation.requestedNotional observation.executableNotional)
      observation.plannedNotional ∧
    observation.executableNotional ≤ observation.requestedNotional

instance (observation : CapacityObservation) : Decidable observation.Valid :=
  inferInstanceAs (Decidable (_ ∧ _))

/-- The rows of an evidence artifact. -/
structure Economics where
  samples : List CostSample
  benchmarks : List BenchmarkSample
  capacity : List CapacityObservation

/-- The rows are valid, of every kind there is one, and their ids are unique. -/
def Economics.Valid (rows : Economics) : Prop :=
  (∀ sample ∈ rows.samples, sample.Valid) ∧ (∀ benchmark ∈ rows.benchmarks, benchmark.Valid) ∧
    (∀ observation ∈ rows.capacity, observation.Valid) ∧
    (1 ≤ rows.samples.length ∧ 1 ≤ rows.benchmarks.length ∧ 1 ≤ rows.capacity.length) ∧
    (rows.samples.map CostSample.sampleId).Nodup ∧
    (rows.benchmarks.map BenchmarkSample.sampleId).Nodup ∧
    (rows.capacity.map CapacityObservation.sampleId).Nodup

instance (rows : Economics) : Decidable rows.Valid := inferInstanceAs (Decidable (_ ∧ _))

/-- `G4Evidence`. -/
structure G4Evidence extends Economics where
  valid : toEconomics.Valid

/-- `G4Evidence.model_validate`. -/
def G4Evidence.read (content : Option Economics) : Option G4Evidence :=
  content.bind fun rows => if valid : rows.Valid then some ⟨rows, valid⟩ else none

theorem G4Evidence.read_rows (evidence : G4Evidence) :
    G4Evidence.read (some evidence.toEconomics) = some evidence := dif_pos evidence.valid

structure BoundArtifact where
  schemaName : String
  /-- The rows of its content; none when fields are missing or are of another type. -/
  economics : Option Economics

/-- `after_cost_pnl`. -/
def CostSample.afterCostPnl (ctx : DecimalContext) (sample : CostSample) : ℚ :=
  ctx.sub sample.grossPnl (ctx.sum (costNames.map sample.cost))

/-- The benchmark of a sample, `benchmark_by_id`. -/
def G4Evidence.benchmarkOf (evidence : G4Evidence) (sampleId : String) : Option BenchmarkSample :=
  find BenchmarkSample.sampleId sampleId evidence.benchmarks

/-- The sample of an id, `samples_by_id`. -/
def G4Evidence.sampleOf (evidence : G4Evidence) (sampleId : String) : Option CostSample :=
  find CostSample.sampleId sampleId evidence.samples

def costBounded (plan : G4Plan) (evidence : G4Evidence) : Bool :=
  evidence.samples.all fun sample => costNames.all fun name =>
    plan.costBounds.lower name ≤ sample.cost name ∧ sample.cost name ≤ plan.costBounds.upper name

def capacityFeasible (plan : G4Plan) (evidence : G4Evidence) : Bool :=
  (evidence.capacity.all fun observation =>
    observation.sampleId ∈ evidence.samples.map CostSample.sampleId ∧
      observation.currency = plan.currency ∧
      observation.plannedNotional ≤ observation.executableNotional ∧
      observation.plannedNotional ≤ plan.capacityLimit) &&
  evidence.samples.all fun sample =>
    sample.sampleId ∈ evidence.capacity.map CapacityObservation.sampleId

def matchingBenchmarks (plan : G4Plan) (evidence : G4Evidence) : Bool :=
  (evidence.benchmarks.all fun benchmark =>
    (evidence.sampleOf benchmark.sampleId).any (fun sample =>
      benchmark.datasetSnapshotId = sample.datasetSnapshotId) ∧
      benchmark.benchmarkId = plan.benchmarkId ∧ benchmark.benchmarkVersion = plan.benchmarkVersion ∧
      benchmark.currency = plan.currency) &&
  evidence.samples.all fun sample =>
    sample.sampleId ∈ evidence.benchmarks.map BenchmarkSample.sampleId

def meanAfterCost (ctx : DecimalContext) (evidence : G4Evidence) : ℚ :=
  ctx.div (ctx.sum (evidence.samples.map (CostSample.afterCostPnl ctx))) evidence.samples.length

def G4Evidence.excess (evidence : G4Evidence) (ctx : DecimalContext) (sample : CostSample) : Option ℚ :=
  (evidence.benchmarkOf sample.sampleId).map fun benchmark =>
    ctx.sub (sample.afterCostPnl ctx) benchmark.afterCostPnl

def meanExcess (ctx : DecimalContext) (evidence : G4Evidence) : ℚ :=
  ctx.div (ctx.sum (evidence.samples.filterMap (evidence.excess ctx))) evidence.samples.length

structure G4Checks where
  sampleAvailable : Bool
  costBounds : Bool
  capacityFeasible : Bool
  benchmarkCompared : Bool

def G4Checks.failed : G4Checks := ⟨false, false, false, false⟩

/-- The `derived_metrics`. -/
structure G4Metrics where
  sampleCount : ℕ
  meanAfterCostPnl : ℚ
  meanExcessAfterCostPnl : ℚ
  benchmarkSampleCount : ℕ
  capacitySampleCount : ℕ

structure G4Report where
  checks : G4Checks
  hardInvalidity : Bool
  unknowns : List String
  metrics : Option G4Metrics

/-- What the gate says of valid evidence. -/
def judgeEconomics (ctx : DecimalContext) (plan : G4Plan) (afterCostLower excessLower : ℚ)
    (evidence : G4Evidence) (snapshotDatasetIds : List String) : G4Report :=
  let mismatch := evidence.samples.any fun sample =>
    sample.datasetSnapshotId ∉ snapshotDatasetIds ∨ sample.currency ≠ plan.currency
  let matching := matchingBenchmarks plan evidence
  let unknowns := (if mismatch then ["G4_SAMPLE_DATASET_OR_CURRENCY_MISMATCH"] else []) ++
    if matching then [] else ["G4_BENCHMARK_SAMPLE_BINDING_MISMATCH"]
  let passes := matching && (afterCostLower ≤ meanAfterCost ctx evidence ∧
    excessLower ≤ meanExcess ctx evidence)
  let bounded := costBounded plan evidence
  let feasible := capacityFeasible plan evidence
  ⟨⟨plan.minimumSamples ≤ evidence.samples.length ∧ unknowns = [], bounded, feasible, passes⟩,
    !bounded || !feasible || (matching && !passes), unknowns,
    some ⟨evidence.samples.length, meanAfterCost ctx evidence, meanExcess ctx evidence,
      evidence.benchmarks.length, evidence.capacity.length⟩⟩

def economicsSchema : String := "finance/cheap-economics-v1"

def economicsArtifacts (artifacts : List BoundArtifact) : List BoundArtifact :=
  artifacts.filter fun artifact => artifact.schemaName = economicsSchema

/-- `_gate_four`. -/
def gateFour (ctx : DecimalContext) (plan : G4Plan) (policy : GatePolicy)
    (artifacts : List BoundArtifact) (snapshotDatasetIds : List String) : G4Report :=
  match economicsArtifacts artifacts with
  | [artifact] =>
    match policy.g4MeanAfterCostLower, policy.g4MeanExcessAfterCostLower with
    | some afterCostLower, some excessLower =>
      match G4Evidence.read artifact.economics with
      | some evidence => judgeEconomics ctx plan afterCostLower excessLower evidence snapshotDatasetIds
      | none => ⟨.failed, true, ["CHEAP_ECONOMICS_EVIDENCE_INVALID"], none⟩
    | _, _ => ⟨.failed, false, ["G4_NUMERIC_POLICY_NOT_DECLARED"], none⟩
  | _ => ⟨.failed, false, ["CHEAP_ECONOMICS_EVIDENCE_MISSING_OR_AMBIGUOUS"], none⟩

def CostSample.earned (sample : CostSample) : ℚ := sample.grossPnl - (costNames.map sample.cost).sum

namespace G4Evidence

variable (evidence : G4Evidence) (plan : G4Plan) (snapshotDatasetIds : List String)
  (afterCostLower excessLower : ℚ)

def meanEarned : ℚ := (evidence.samples.map CostSample.earned).sum / evidence.samples.length

def meanBeyond : ℚ :=
  (evidence.samples.filterMap fun sample => (evidence.benchmarkOf sample.sampleId).map fun benchmark =>
    sample.earned - benchmark.afterCostPnl).sum / evidence.samples.length

def Samples (sampleId : String) : Prop := sampleId ∈ evidence.samples.map CostSample.sampleId

def OverCost : Prop :=
  ∃ sample ∈ evidence.samples, ∃ name, sample.cost name < plan.costBounds.lower name ∨
    plan.costBounds.upper name < sample.cost name

def OverCapacity : Prop :=
  ∃ observation ∈ evidence.capacity, evidence.Samples observation.sampleId ∧
    (observation.executableNotional < observation.plannedNotional ∨
      plan.capacityLimit < observation.plannedNotional)

def BenchmarksDeclared : Prop :=
  ∀ benchmark ∈ evidence.benchmarks,
    (∀ sample ∈ evidence.samples, sample.sampleId = benchmark.sampleId →
      benchmark.datasetSnapshotId = sample.datasetSnapshotId) ∧
    benchmark.benchmarkId = plan.benchmarkId ∧ benchmark.benchmarkVersion = plan.benchmarkVersion ∧
    benchmark.currency = plan.currency

def BenchmarksComplete : Prop :=
  ∀ sampleId, sampleId ∈ evidence.benchmarks.map BenchmarkSample.sampleId ↔ evidence.Samples sampleId

def CapacityObserved : Prop :=
  ∀ sampleId, sampleId ∈ evidence.capacity.map CapacityObservation.sampleId ↔ evidence.Samples sampleId

def CapacityComplete : Prop :=
  evidence.CapacityObserved ∧ ∀ observation ∈ evidence.capacity, observation.currency = plan.currency

def FallsShort : Prop := evidence.meanEarned < afterCostLower ∨ evidence.meanBeyond < excessLower

def Matched : Prop := evidence.BenchmarksComplete ∧ evidence.BenchmarksDeclared plan

def Fatal : Prop :=
  evidence.OverCost plan ∨ evidence.OverCapacity plan ∨
    (evidence.Matched plan ∧ evidence.FallsShort afterCostLower excessLower)

def Lacks : Prop :=
  (∃ sample ∈ evidence.samples,
      sample.sampleId ∉ evidence.capacity.map CapacityObservation.sampleId ∨
      sample.sampleId ∉ evidence.benchmarks.map BenchmarkSample.sampleId) ∨
    evidence.samples.length < plan.minimumSamples

def Declared : Prop :=
  (∀ sample ∈ evidence.samples, sample.datasetSnapshotId ∈ snapshotDatasetIds ∧
    sample.currency = plan.currency) ∧
  (∀ observation ∈ evidence.capacity, observation.currency = plan.currency) ∧
  evidence.BenchmarksDeclared plan

def Sound : Prop :=
  (evidence.BenchmarksComplete ∧ evidence.CapacityObserved) ∧
    (plan.minimumSamples ≤ evidence.samples.length ∧ ¬evidence.OverCost plan ∧
      ¬evidence.OverCapacity plan) ∧
    evidence.Declared plan snapshotDatasetIds ∧ ¬evidence.FallsShort afterCostLower excessLower

end G4Evidence

section Reports

variable {plan : G4Plan} {evidence : G4Evidence} {snapshotDatasetIds : List String}
  {afterCostLower excessLower : ℚ}

theorem costBounded_iff : costBounded plan evidence = true ↔ ¬evidence.OverCost plan := by
  simp only [costBounded, all_eq_true, decide_eq_true_eq, G4Evidence.OverCost, not_exists, not_and,
    not_or, not_lt]
  constructor
  · intro bounded sample member name
    exact bounded sample member name (mem_costNames name)
  · intro bounded sample member name _
    exact bounded sample member name

theorem capacityFeasible_iff :
    capacityFeasible plan evidence = true ↔
      evidence.CapacityComplete plan ∧ ¬evidence.OverCapacity plan := by
  simp only [capacityFeasible, Bool.and_eq_true, all_eq_true, decide_eq_true_eq]
  constructor
  · rintro ⟨feasible, observed⟩
    refine ⟨⟨fun sampleId => ⟨?_, ?_⟩, fun observation member => (feasible observation member).2.1⟩, ?_⟩
    · intro named
      obtain ⟨observation, member, rfl⟩ := mem_map.mp named
      exact (feasible observation member).1
    · intro named
      obtain ⟨sample, member, rfl⟩ := mem_map.mp named
      exact observed sample member
    · rintro ⟨observation, member, -, excess⟩
      obtain ⟨-, -, executable, limit⟩ := feasible observation member
      rcases excess with excess | excess
      · exact absurd executable (not_le.mpr excess)
      · exact absurd limit (not_le.mpr excess)
  · rintro ⟨⟨observed, currency⟩, within⟩
    constructor
    · intro observation member
      have sampled := (observed _).mp (mem_map_of_mem member)
      have kept : ¬(observation.executableNotional < observation.plannedNotional ∨
          plan.capacityLimit < observation.plannedNotional) :=
        fun excess => within ⟨observation, member, sampled, excess⟩
      rw [not_or, not_lt, not_lt] at kept
      exact ⟨sampled, currency observation member, kept⟩
    · intro sample member
      exact (observed _).mpr (mem_map_of_mem member)

theorem sampleOf_some {sample : CostSample} :
    evidence.sampleOf sampleId = some sample ↔ sample ∈ evidence.samples ∧ sample.sampleId = sampleId := by
  constructor
  · intro found
    exact ⟨find_mem found, find_key found⟩
  · rintro ⟨member, rfl⟩
    exact find_of_mem evidence.valid.2.2.2.2.1 member

theorem matchingBenchmarks_iff : matchingBenchmarks plan evidence = true ↔ evidence.Matched plan := by
  simp only [matchingBenchmarks, Bool.and_eq_true, all_eq_true, decide_eq_true_eq,
    Option.any_eq_true, sampleOf_some]
  constructor
  · rintro ⟨declared, complete⟩
    constructor
    · refine fun sampleId => ⟨?_, ?_⟩
      · intro named
        obtain ⟨benchmark, member, rfl⟩ := mem_map.mp named
        obtain ⟨⟨sample, ⟨sampled, same⟩, -⟩, -⟩ := declared benchmark member
        exact mem_map.mpr ⟨sample, sampled, same⟩
      · intro named
        obtain ⟨sample, member, rfl⟩ := mem_map.mp named
        exact complete sample member
    · intro benchmark member
      obtain ⟨⟨sample, ⟨sampled, same⟩, dataset⟩, identity⟩ := declared benchmark member
      refine ⟨fun other held named => ?_, identity⟩
      have only : other = sample := by
        have found := sampleOf_some.mpr ⟨held, named⟩
        rw [sampleOf_some.mpr ⟨sampled, same⟩] at found
        exact (Option.some.inj found).symm
      exact only ▸ dataset
  · rintro ⟨complete, declared⟩
    constructor
    · intro benchmark member
      obtain ⟨sample, sampled, same⟩ := mem_map.mp ((complete _).mp (mem_map_of_mem member))
      obtain ⟨dataset, identity⟩ := declared benchmark member
      exact ⟨⟨sample, ⟨sampled, same⟩, dataset sample sampled same⟩, identity⟩
    · intro sample member
      exact (complete _).mpr (mem_map_of_mem member)

theorem afterCostPnl_exact : CostSample.afterCostPnl .exact = CostSample.earned := by
  funext sample
  rw [CostSample.afterCostPnl, CostSample.earned, exact_sum, exact_sub]

theorem meanAfterCost_exact : meanAfterCost .exact evidence = evidence.meanEarned := by
  rw [meanAfterCost, afterCostPnl_exact, exact_sum, exact_div, G4Evidence.meanEarned]

theorem meanExcess_exact : meanExcess .exact evidence = evidence.meanBeyond := by
  have excess : evidence.excess .exact = fun sample =>
      (evidence.benchmarkOf sample.sampleId).map fun benchmark =>
        sample.earned - benchmark.afterCostPnl := by
    funext sample
    simp only [G4Evidence.excess, afterCostPnl_exact, exact_sub]
  rw [meanExcess, exact_sum, exact_div, excess, G4Evidence.meanBeyond]

theorem reached_iff : (afterCostLower ≤ meanAfterCost .exact evidence ∧
    excessLower ≤ meanExcess .exact evidence) ↔ ¬evidence.FallsShort afterCostLower excessLower := by
  rw [meanAfterCost_exact, meanExcess_exact, G4Evidence.FallsShort, not_or, not_lt, not_lt]

theorem hardInvalidity_iff :
    (judgeEconomics .exact plan afterCostLower excessLower evidence snapshotDatasetIds).hardInvalidity =
        true ↔
      ¬evidence.CapacityComplete plan ∨ evidence.Fatal plan afterCostLower excessLower := by
  simp only [judgeEconomics, Bool.or_eq_true, Bool.and_eq_true, Bool.not_eq_true', ← Bool.not_eq_true,
    costBounded_iff, capacityFeasible_iff, matchingBenchmarks_iff, decide_eq_true_eq, reached_iff,
    G4Evidence.Fatal]
  by_cases cost : evidence.OverCost plan
  · simp [cost]
  by_cases matched : evidence.Matched plan
  · simp only [cost, matched, not_true, not_false_iff, true_and, not_not, false_or, not_and_or]
    exact or_assoc
  · simp only [cost, matched, not_false_iff, not_true, false_and, false_or, or_false, not_and_or, not_not]

def G4Report.Passes (report : G4Report) : Prop :=
  report.checks = ⟨true, true, true, true⟩ ∧ report.unknowns = []

theorem passes_iff :
    (judgeEconomics .exact plan afterCostLower excessLower evidence snapshotDatasetIds).Passes ↔
      evidence.Sound plan snapshotDatasetIds afterCostLower excessLower := by
  have pinned : (evidence.samples.any fun sample =>
      sample.datasetSnapshotId ∉ snapshotDatasetIds ∨ sample.currency ≠ plan.currency) = false ↔
      ∀ sample ∈ evidence.samples, sample.datasetSnapshotId ∈ snapshotDatasetIds ∧
        sample.currency = plan.currency := by
    simp [not_or]
  have known (mismatch matching : Bool) :
      ((if mismatch then ["G4_SAMPLE_DATASET_OR_CURRENCY_MISMATCH"] else []) ++
        if matching then [] else ["G4_BENCHMARK_SAMPLE_BINDING_MISMATCH"]) = [] ↔
        mismatch = false ∧ matching = true := by
    cases mismatch <;> cases matching <;> simp
  simp only [G4Report.Passes, judgeEconomics, G4Checks.mk.injEq, Bool.and_eq_true, decide_eq_true_eq,
    known, pinned, costBounded_iff, capacityFeasible_iff, matchingBenchmarks_iff, reached_iff]
  constructor
  · rintro ⟨⟨⟨enough, sampled, complete, declared⟩, cost, ⟨⟨observed, currency⟩, capacity⟩, -,
      reached⟩, -⟩
    exact ⟨⟨complete, observed⟩, ⟨enough, cost, capacity⟩, ⟨sampled, currency, declared⟩, reached⟩
  · rintro ⟨⟨complete, observed⟩, ⟨enough, cost, capacity⟩, ⟨sampled, currency, declared⟩, reached⟩
    exact ⟨⟨⟨enough, sampled, complete, declared⟩, cost, ⟨⟨observed, currency⟩, capacity⟩,
      ⟨complete, declared⟩, reached⟩, sampled, complete, declared⟩

/-- What the gate owes to an artifact: a hard invalidity for what is malformed or fatal and for
nothing else, a check that fails or an unknown for what is missing, and a pass for what is
sound. -/
structure Judged (plan : G4Plan) (content : Option Economics) (snapshotDatasetIds : List String)
    (afterCostLower excessLower : ℚ) (report : G4Report) : Prop where
  hard : report.hardInvalidity = true ↔ G4Evidence.read content = none ∨
    ∃ evidence ∈ G4Evidence.read content, evidence.Fatal plan afterCostLower excessLower
  missing : ∀ evidence ∈ G4Evidence.read content, evidence.Lacks plan →
    ¬report.Passes ∧ (¬evidence.Fatal plan afterCostLower excessLower → report.hardInvalidity = false)
  passes : report.Passes ↔ ∃ evidence ∈ G4Evidence.read content,
    evidence.Sound plan snapshotDatasetIds afterCostLower excessLower

theorem gateFour_eq {policy : GatePolicy} {artifacts : List BoundArtifact}
    (after : policy.g4MeanAfterCostLower = some afterCostLower)
    (excess : policy.g4MeanExcessAfterCostLower = some excessLower)
    (only : economicsArtifacts artifacts = [artifact]) :
    gateFour ctx plan policy artifacts snapshotDatasetIds =
      match G4Evidence.read artifact.economics with
      | some evidence => judgeEconomics ctx plan afterCostLower excessLower evidence snapshotDatasetIds
      | none => ⟨.failed, true, ["CHEAP_ECONOMICS_EVIDENCE_INVALID"], none⟩ := by
  rw [gateFour, only, after, excess]

theorem G4Evidence.Lacks.unsound (lacks : evidence.Lacks plan) :
    ¬evidence.Sound plan snapshotDatasetIds afterCostLower excessLower := by
  rintro ⟨⟨complete, observed⟩, ⟨enough, -⟩, -⟩
  rcases lacks with ⟨_, member, unobserved | uncompared⟩ | few
  · exact unobserved ((observed _).mpr (mem_map_of_mem member))
  · exact uncompared ((complete _).mpr (mem_map_of_mem member))
  · exact absurd enough (not_le.mpr few)

variable {content : Option Economics}

theorem judged_malformed (malformed : G4Evidence.read content = none) :
    Judged plan content snapshotDatasetIds afterCostLower excessLower
      ⟨.failed, true, [unknown], none⟩ := by
  refine ⟨⟨fun _ => .inl malformed, fun _ => rfl⟩, ?_, ?_⟩
  · rw [malformed]
    simp
  · rw [malformed]
    simp [G4Report.Passes]

theorem judged_iff (read : G4Evidence.read content = some evidence) :
    Judged plan content snapshotDatasetIds afterCostLower excessLower
        (judgeEconomics .exact plan afterCostLower excessLower evidence snapshotDatasetIds) ↔
      evidence.Fatal plan afterCostLower excessLower ∨ evidence.CapacityComplete plan := by
  have hard : (judgeEconomics .exact plan afterCostLower excessLower evidence
      snapshotDatasetIds).hardInvalidity = true ↔
      ¬evidence.CapacityComplete plan ∨ evidence.Fatal plan afterCostLower excessLower :=
    hardInvalidity_iff
  constructor
  · intro judged
    have exactly := judged.hard
    simp only [read, reduceCtorEq, Option.mem_some_iff, exists_eq_left', false_or] at exactly
    by_cases complete : evidence.CapacityComplete plan
    · exact .inr complete
    · exact .inl (exactly.mp (hard.mpr (.inl complete)))
  · intro condition
    have exactly : (judgeEconomics .exact plan afterCostLower excessLower evidence
        snapshotDatasetIds).hardInvalidity = true ↔
        evidence.Fatal plan afterCostLower excessLower := by
      rw [hard]
      refine ⟨fun raised => raised.elim (fun incomplete => ?_) id, .inr⟩
      exact condition.elim id fun complete => absurd complete incomplete
    refine ⟨?_, ?_, ?_⟩
    · simpa [read] using exactly
    · intro other found lacks
      rw [read] at found
      cases found
      refine ⟨fun passes => lacks.unsound (passes_iff.mp passes), fun harmless => ?_⟩
      exact Bool.eq_false_iff.mpr fun raised => harmless (exactly.mp raised)
    · simpa [read] using passes_iff

/-- Under a policy with both bounds and with one artifact of economics, the gate judges it as
it should exactly when the artifact is malformed, the evidence is fatal anyway, or every sample
has an observation of its capacity, every observation a sample, and all are in the currency of
the plan. -/
theorem economics_judged_iff (plan : G4Plan) (policy : GatePolicy) (artifacts : List BoundArtifact)
    (artifact : BoundArtifact) (snapshotDatasetIds : List String) (afterCostLower excessLower : ℚ)
    (after : policy.g4MeanAfterCostLower = some afterCostLower)
    (excess : policy.g4MeanExcessAfterCostLower = some excessLower)
    (only : economicsArtifacts artifacts = [artifact]) :
    Judged plan artifact.economics snapshotDatasetIds afterCostLower excessLower
        (gateFour .exact plan policy artifacts snapshotDatasetIds) ↔
      G4Evidence.read artifact.economics = none ∨
        ∃ evidence ∈ G4Evidence.read artifact.economics,
          evidence.Fatal plan afterCostLower excessLower ∨ evidence.CapacityComplete plan := by
  rw [gateFour_eq after excess only]
  cases read : G4Evidence.read artifact.economics with
  | none => exact ⟨fun _ => .inl rfl, fun _ => judged_malformed read⟩
  | some =>
    rw [judged_iff read]
    simp

end Reports

namespace Economical

theorem costs_ordered (_ : CostName) : (0 : ℚ) ≤ 2 := by norm_num

theorem one_sample : 1 ≤ 1 := le_rfl

theorem limit_pos : (0 : ℚ) < 100 := by norm_num

theorem plan_named : "USD" ≠ "" ∧ "buy-hold" ≠ "" ∧ "v1" ≠ "" := by decide

theorem policy_named : "v1" ≠ "" := by decide

theorem bounds_declared : some (0 : ℚ) = none ↔ some (0 : ℚ) = none := Iff.rfl

def plan : G4Plan where
  minimumSamples := 1
  costBounds := ⟨fun _ => 0, fun _ => 2, costs_ordered⟩
  capacityLimit := 100
  currency := "USD"
  benchmarkId := "buy-hold"
  benchmarkVersion := "v1"
  samples_pos := one_sample
  limit_pos := limit_pos
  named := plan_named

def policy : GatePolicy where
  policyVersion := "v1"
  cooldownHours _ := 6
  defaultFailureSeverity := .medium
  g4MeanAfterCostLower := some 0
  g4MeanExcessAfterCostLower := some 0
  named := policy_named
  bounds_together := bounds_declared

def sample (sampleId : String) : CostSample :=
  ⟨sampleId, "dataset", some 0, 12, fun name => if name = .fee then 1 else 0, "USD"⟩

def benchmark (sampleId : String) : BenchmarkSample :=
  ⟨sampleId, "dataset", "buy-hold", "v1", 4, "USD"⟩

def observation (sampleId : String) : CapacityObservation := ⟨sampleId, 100, 100, 90, "USD"⟩

def rows (observed : List String) : Economics :=
  ⟨[sample "a", sample "b"], [benchmark "a", benchmark "b"], observed.map observation⟩

def artifacts (observed : List String) : List BoundArtifact :=
  [⟨"finance/cheap-economics-v1", some (rows observed)⟩]

theorem all_valid : (rows ["a", "b"]).Valid := by decide +kernel

theorem once_valid : (rows ["a"]).Valid := by decide +kernel

def observedAll : G4Evidence := ⟨rows ["a", "b"], all_valid⟩

def observedOnce : G4Evidence := ⟨rows ["a"], once_valid⟩

end Economical

open Economical in
/-- The law at two samples that are both observed: they are judged as they should be. -/
theorem economics_judged_iff_observed :
    Judged plan (some (rows ["a", "b"])) ["dataset"] 0 0
      (gateFour .exact plan policy (artifacts ["a", "b"]) ["dataset"]) := by
  have complete : observedAll.CapacityComplete plan := by
    constructor
    · intro sampleId
      simp [observedAll, G4Evidence.Samples, rows, sample, observation]
    · decide +kernel
  exact (economics_judged_iff plan policy (artifacts ["a", "b"])
    ⟨"finance/cheap-economics-v1", some (rows ["a", "b"])⟩ ["dataset"] 0 0 rfl rfl rfl).mpr
    (.inr ⟨observedAll, observedAll.read_rows, .inr complete⟩)

open Economical in
/-- Nobody observed the capacity of the second sample: the gate reports a hard invalidity,
though no cost, no capacity and no mean is known to be bad. -/
theorem unobserved_sample_is_fatal :
    (gateFour .exact plan policy (artifacts ["a"]) ["dataset"]).hardInvalidity = true ∧
      ¬Judged plan (some (rows ["a"])) ["dataset"] 0 0
        (gateFour .exact plan policy (artifacts ["a"]) ["dataset"]) := by
  have read : G4Evidence.read (some (rows ["a"])) = some observedOnce := observedOnce.read_rows
  have raised : (gateFour .exact plan policy (artifacts ["a"]) ["dataset"]).hardInvalidity = true := by
    decide +kernel
  have harmless : ¬observedOnce.Fatal plan 0 0 := by
    have cheap : ∀ held ∈ observedOnce.samples, ∀ name ∈ costNames,
        ¬(held.cost name < 0 ∨ 2 < held.cost name) := by decide +kernel
    have roomy : ∀ held ∈ observedOnce.capacity,
        ¬(held.executableNotional < held.plannedNotional ∨ 100 < held.plannedNotional) := by decide +kernel
    have earns : ¬(observedOnce.meanEarned < 0 ∨ observedOnce.meanBeyond < 0) := by decide +kernel
    rintro (⟨held, member, name, excess⟩ | ⟨held, member, -, excess⟩ | ⟨-, short⟩)
    · exact cheap held member name (mem_costNames name) excess
    · exact roomy held member excess
    · exact earns short
  refine ⟨raised, fun judged => ?_⟩
  rcases judged.hard.mp raised with malformed | ⟨_, found, fatal⟩
  · rw [read] at malformed
    cases malformed
  · rw [read] at found
    cases found
    exact harmless fatal

end Liki.Evaluation
