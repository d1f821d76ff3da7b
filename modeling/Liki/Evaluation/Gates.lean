import Mathlib.Data.Fin.VecNotation
import Liki.Store

/-! The fourteen gates: the evidence that each asks for, the checks that have to be reported,
and the decision on a gate from its evidence and the metric rules of a snapshot. -/
namespace Liki.Evaluation

inductive CandidateStatus where
  | idea | contracted | screened | dataValid | feasible | proxySurvivor | backtested | economicallyValidated
  | oosValidated | statisticallyValidated | robustnessValidated | reproduced | sealedValidated
  | forwardPaperValidated | portfolioReady | failed | blocked | borderlineFrontier | suspended
  deriving DecidableEq

abbrev GateId := Fin 14

instance gateId_neZero : NeZero 14 := ⟨by decide⟩

/-- `STATES`. -/
def states : GateId → CandidateStatus :=
  ![.contracted, .screened, .dataValid, .feasible, .proxySurvivor, .backtested, .economicallyValidated,
    .oosValidated, .statisticallyValidated, .robustnessValidated, .reproduced, .sealedValidated,
    .forwardPaperValidated, .portfolioReady]

/-- `EVIDENCE_CLASSES`. -/
def evidenceClasses : GateId → String :=
  !["research_contract", "duplicate_screen", "data_integrity", "feasibility", "cheap_economics", "backtest",
    "execution_economics", "out_of_sample", "statistics", "robustness", "independent_reproduction",
    "sealed_verdict", "forward_paper", "portfolio_risk"]

/-- `REQUIRED_CHECKS`. -/
def requiredChecks : GateId → List String :=
  ![["measurable_objective", "data_evaluator_defined", "permitted_conduct", "lineage_present"],
    ["not_duplicate", "family_history_checked", "cooldown_clear", "no_known_invalidity"],
    ["point_in_time", "fresh_complete_data", "universe_survivorship", "no_label_leakage"],
    ["falsifiable_prediction", "empirical_or_mechanism_basis", "constraints_defined"],
    ["sample_available", "cost_bounds", "capacity_feasible", "benchmark_compared"],
    ["deterministic_replay", "complete_order_ledger", "dual_accounting", "all_costs_explicit"],
    ["historical_fees", "funding_borrow_known", "fill_fidelity", "capacity_stress", "latency_constraints"],
    ["predeclared_split", "no_tuning_leakage", "purge_embargo", "trial_history_complete"],
    ["method_applicable", "ledger_multiplicity", "dependence_accounted", "uncertainty_reported"],
    ["parameter_neighborhood", "cost_timing_perturbations", "universe_sensitivity", "no_slice_tuning"],
    ["independent_reproduction", "blind_reviews", "objections_resolved", "ablation_or_attribution"],
    ["sealed_isolation", "exposure_recorded", "query_budget_valid", "verdict_pass"],
    ["chronological_forward", "opportunity_count", "tca_reconciled", "operational_reliability",
      "cost_model_independence"],
    ["synchronized_portfolio", "portfolio_multiplicity", "tail_reverse_stress", "liquidity_capacity",
      "simple_challenger", "later_confirmation"]]

/-- `str(gate_id)`, as a key. -/
def gateKey (gateId : GateId) : String := toString gateId.val

/-- A decimal with the text that it is written as. -/
structure MetricNumber where
  text : String
  value : ℚ
  deriving DecidableEq

structure MetricRule where
  metricId : String
  metricVersion : String
  unit : String
  lower : Option ℚ
  upper : Option ℚ
  tolerance : ℚ
  deriving DecidableEq

inductive MetricStatus where
  | value | undefined | insufficientData | numericError | notApplicable
  deriving DecidableEq

structure MetricValue where
  metricId : String
  metricVersion : String
  unit : String
  status : MetricStatus
  value : Option MetricNumber
  reason : String
  deriving DecidableEq

/-- What a report says of a metric: the values as texts. -/
structure ReportedMetric where
  metricId : String
  metricVersion : String
  unit : String
  status : MetricStatus
  value : Option String
  reason : String
  deriving DecidableEq

/-- `model_dump(mode="json")`. -/
def MetricValue.dump (metric : MetricValue) : ReportedMetric :=
  ⟨metric.metricId, metric.metricVersion, metric.unit, metric.status, metric.value.map MetricNumber.text,
    metric.reason⟩

structure EvaluationSnapshot where
  snapshotId : String
  candidateArtifactId : ℕ
  candidateHash : String
  datasetSnapshotIds : List ℕ
  evaluatorVersion : String
  metricVersions : List (String × String)
  gatePolicyVersions : List (String × String)
  rulesByGate : List (String × List MetricRule)
  calibrationArtifactIds : List ℕ
  minimumForwardOpportunities : ℕ
  /-- None for an instant without a zone. -/
  forwardEvaluationAt : Option Time
  gateInputArtifactIds : List (String × List ℕ)
  deriving DecidableEq

structure GateInput where
  strategyVersionId : String
  snapshotId : String
  gateId : GateId
  expectedVersion : ℕ
  evidenceIds : List String
  metrics : List MetricValue
  operationKey : String
  deriving DecidableEq

structure GateReentry where
  strategyVersionId : String
  snapshotId : String
  expectedVersion : ℕ
  reason : String
  operationKey : String
  deriving DecidableEq

inductive EvidenceRole where
  | development | guard | sealed | forward | synthetic | validation | developmentUsed
  deriving DecidableEq

/-- A row of `evidence`. -/
structure EvidenceRow where
  evidenceId : String
  artifactId : ℕ
  evidenceClass : String
  role : EvidenceRole
  availableAt : Time
  deriving DecidableEq

/-- What the content of a report artifact says. -/
structure Report where
  snapshotId : Option String
  /-- The checks that are reported as `true`. -/
  checks : List String
  metrics : List ReportedMetric
  hardInvalidity : Bool
  unknowns : Bool
  independentOpportunities : ℕ
  deriving DecidableEq

structure EvaluationContent where
  contentHash : String
  /-- The content that is read back has the hash. -/
  intact : Bool
  report : Report
  deriving DecidableEq

structure EvidenceItem where
  evidence : EvidenceRow
  artifact : Artifact EvaluationContent

def EvidenceItem.report (item : EvidenceItem) : Report := item.artifact.content.report

inductive Decision where
  | pass | borderline | fail | blocked
  deriving DecidableEq

abbrev Verdict := Decision × String

def ofClass (gateId : GateId) (items : List EvidenceItem) : List EvidenceItem :=
  items.filter fun item => item.evidence.evidenceClass = evidenceClasses gateId

def checked (gateId : GateId) (items : List EvidenceItem) : Verdict :=
  if ∃ check ∈ requiredChecks gateId, ∀ item ∈ ofClass gateId items, check ∉ item.report.checks then
    (.blocked, "MANDATORY_DETERMINISTIC_CHECK_MISSING")
  else (.pass, "REQUIRED_EVIDENCE_VALID")

def limited (gateId : GateId) (items : List EvidenceItem) (verdict : Verdict) : Verdict :=
  if ∃ item ∈ items, item.report.hardInvalidity = true then (.fail, "HARD_INVALIDITY")
  else if ∃ item ∈ items, item.report.unknowns = true then (.blocked, "MATERIAL_UNKNOWNS")
  else if 7 ≤ gateId ∧ ∀ item ∈ items, item.evidence.role = .synthetic then
    (.blocked, "SYNTHETIC_EVIDENCE_CEILING")
  else verdict

def independent (gateId : GateId) (createdBy : String) (items : List EvidenceItem) (verdict : Verdict) :
    Verdict :=
  if 10 ≤ gateId ∧ ∃ item ∈ items, item.artifact.producerId = createdBy then (.blocked, "SELF_CERTIFICATION")
  else verdict

def sealedProtocol (gateId : GateId) (items : List EvidenceItem) (verdict : Verdict) : Verdict :=
  if gateId = 11 ∧ ¬∃ item ∈ items, item.evidence.evidenceClass = "sealed_verdict" ∧
      item.evidence.role = .sealed then (.blocked, "SEALED_PROTOCOL_REQUIRED")
  else verdict

def opportunities (items : List EvidenceItem) : ℕ :=
  (items.map fun item => item.report.independentOpportunities).foldl max 0

def forwardHorizon (gateId : GateId) (snapshot : EvaluationSnapshot) (now : Time) (items : List EvidenceItem)
    (verdict : Verdict) : Verdict :=
  if gateId = 12 ∧ ((∃ instant ∈ snapshot.forwardEvaluationAt, now < instant) ∨
      opportunities items < snapshot.minimumForwardOpportunities ∨
      ¬∃ item ∈ items, item.evidence.role = .forward) then (.blocked, "FORWARD_HORIZON_INCOMPLETE")
  else verdict

/-- The last entry under a key, as a `dict` keeps it. -/
def lastUnder {Row : Type} (key : Row → String) (name : String) (rows : List Row) : Option Row :=
  rows.reverse.find? fun row => key row = name

def bound (gateId : GateId) (metrics : List MetricValue) (items : List EvidenceItem) (verdict : Verdict) :
    Verdict :=
  let reported := (ofClass gateId items).flatMap fun item => item.report.metrics
  if verdict.1 ≠ .fail ∧ (¬(metrics.map MetricValue.metricId).Nodup ∨
      ∃ metric ∈ metrics, lastUnder ReportedMetric.metricId metric.metricId reported ≠ some metric.dump) then
    (.blocked, "METRICS_NOT_BOUND_TO_EVIDENCE")
  else verdict

/-- A number is outside the bounds of a rule. -/
def MetricRule.Violates (rule : MetricRule) (value : ℚ) : Prop :=
  (∃ lower ∈ rule.lower, value < lower) ∨ ∃ upper ∈ rule.upper, upper < value

instance (rule : MetricRule) (value : ℚ) : Decidable (rule.Violates value) :=
  inferInstanceAs (Decidable (_ ∨ _))

/-- A number is within the tolerance of a bound. -/
def MetricRule.Near (rule : MetricRule) (value : ℚ) : Prop :=
  (∃ lower ∈ rule.lower, prec28.abs (prec28.sub value lower) ≤ rule.tolerance) ∨
    ∃ upper ∈ rule.upper, prec28.abs (prec28.sub value upper) ≤ rule.tolerance

instance (rule : MetricRule) (value : ℚ) : Decidable (rule.Near value) :=
  inferInstanceAs (Decidable (_ ∨ _))

def compare (rule : MetricRule) (value : ℚ) (verdict : Verdict) : Verdict :=
  let verdict := if verdict.1 = .pass ∧ rule.Violates value then (.fail, "NUMERIC_CRITERION_FAILED") else verdict
  if verdict.1 = .pass ∧ rule.Near value then (.borderline, "THRESHOLD_UNCERTAINTY") else verdict

/-- The loop over the rules; it ends at a failure and at a metric that a rule cannot be
applied to. -/
def applyRules (metrics : List MetricValue) : List MetricRule → Verdict → Verdict
  | [], verdict => verdict
  | rule :: rules, verdict =>
    if verdict.1 = .fail then verdict
    else
      match lastUnder MetricValue.metricId rule.metricId metrics with
      | none => (.blocked, "REQUIRED_METRIC_UNDEFINED")
      | some metric =>
        match metric.value with
        | none => (.blocked, "REQUIRED_METRIC_UNDEFINED")
        | some number =>
          if metric.status ≠ .value then (.blocked, "REQUIRED_METRIC_UNDEFINED")
          else if metric.metricVersion ≠ rule.metricVersion ∨ metric.unit ≠ rule.unit then
            (.blocked, "METRIC_CONTRACT_MISMATCH")
          else applyRules metrics rules (compare rule number.value verdict)

def EvaluationSnapshot.rules (snapshot : EvaluationSnapshot) (gateId : GateId) : List MetricRule :=
  ((snapshot.rulesByGate.find? fun entry => entry.1 = gateKey gateId).map Prod.snd).getD []

/-- The decision on a gate and its reason. -/
def judge (snapshot : EvaluationSnapshot) (request : GateInput) (createdBy : String) (now : Time)
    (items : List EvidenceItem) : Verdict :=
  let gateId := request.gateId
  applyRules request.metrics (snapshot.rules gateId)
    (bound gateId request.metrics items
      (forwardHorizon gateId snapshot now items
        (sealedProtocol gateId items
          (independent gateId createdBy items
            (limited gateId items (checked gateId items))))))

def Decision.status (decision : Decision) (gateId : GateId) : CandidateStatus :=
  match decision with
  | .pass => states gateId
  | .fail => .failed
  | .blocked => .blocked
  | .borderline => .borderlineFrontier

section Passes

variable {gateId : GateId} {items : List EvidenceItem} {verdict : Verdict} {metrics : List MetricValue}
  {createdBy : String} {now : Time} {snapshot : EvaluationSnapshot}

theorem limited_pass (passes : (limited gateId items verdict).1 = .pass) : verdict.1 = .pass := by
  unfold limited at passes
  split_ifs at passes
  exact passes

theorem independent_pass (passes : (independent gateId createdBy items verdict).1 = .pass) :
    verdict.1 = .pass := by
  unfold independent at passes
  split_ifs at passes
  exact passes

theorem sealedProtocol_pass (passes : (sealedProtocol gateId items verdict).1 = .pass) : verdict.1 = .pass := by
  unfold sealedProtocol at passes
  split_ifs at passes
  exact passes

theorem forwardHorizon_pass (passes : (forwardHorizon gateId snapshot now items verdict).1 = .pass) :
    verdict.1 = .pass := by
  unfold forwardHorizon at passes
  split_ifs at passes
  exact passes

theorem bound_pass (passes : (bound gateId metrics items verdict).1 = .pass) : verdict.1 = .pass := by
  simp only [bound] at passes
  split_ifs at passes
  exact passes

theorem compare_pass (passes : (compare rule value verdict).1 = .pass) : verdict.1 = .pass := by
  simp only [compare] at passes
  split_ifs at passes
  exact passes

theorem applyRules_pass (passes : (applyRules metrics rules verdict).1 = .pass) :
    verdict.1 = .pass := by
  induction rules generalizing verdict with
  | nil => exact passes
  | cons _ _ ih =>
    unfold applyRules at passes
    split at passes
    · exact passes
    · split at passes
      · cases passes
      · split at passes
        · cases passes
        · split_ifs at passes
          exact compare_pass (ih passes)

theorem judge_pass (passes : (judge snapshot request createdBy now items).1 = .pass) :
    ∀ check ∈ requiredChecks request.gateId, ∃ item ∈ ofClass request.gateId items, check ∈ item.report.checks := by
  have complete : (checked request.gateId items).1 = .pass :=
    limited_pass (independent_pass (sealedProtocol_pass (forwardHorizon_pass (bound_pass (applyRules_pass passes)))))
  intro check asked
  by_contra missing
  push Not at missing
  rw [checked, if_pos ⟨check, asked, missing⟩] at complete
  cases complete

end Passes

end Liki.Evaluation
