import Mathlib.Tactic.Tauto
import Liki.Evaluation.HardInvalidity

/-! The order of the metric rules. The loop stops at a violated rule and at a rule that no metric can be held
against, and once a metric is close to a bound it looks for violations no more. So the order makes no
difference exactly as long as no violated rule meets one of the others. -/
namespace Liki.Evaluation
open DecimalArithmetic List DecimalContext

variable {snapshot : EvaluationSnapshot} {request : GateInput} {createdBy : String} {now : Time}
  {items : List EvidenceItem} {metrics : List MetricValue} {rule : MetricRule} {rules : List MetricRule}
  {value : ℚ} {verdict : Verdict}

def MetricRule.Judges (rule : MetricRule) (metrics : List MetricValue) (value : ℚ) : Prop :=
  ∃ metric number, lastUnder MetricValue.metricId rule.metricId metrics = some metric ∧
    metric.value = some number ∧ metric.status = .value ∧ metric.metricVersion = rule.metricVersion ∧
    metric.unit = rule.unit ∧ number.value = value

/-- No metric is defined under the rule's contract. -/
def MetricRule.Undefined (rule : MetricRule) (metrics : List MetricValue) : Prop :=
  ¬∃ value, rule.Judges metrics value

/-- The metric lies outside a bound. -/
def MetricRule.Violated (rule : MetricRule) (metrics : List MetricValue) : Prop :=
  ∃ value, rule.Judges metrics value ∧ rule.Violates value

/-- The metric lies inside the bounds and close to one of them. -/
def MetricRule.Borderline (rule : MetricRule) (metrics : List MetricValue) : Prop :=
  ∃ value, rule.Judges metrics value ∧ ¬rule.Violates value ∧ rule.Near value

theorem MetricRule.Judges.unique (judges : rule.Judges metrics value)
    (too : rule.Judges metrics other) : value = other := by
  obtain ⟨_, _, found, present, -, -, -, rfl⟩ := judges
  obtain ⟨_, _, again, here, -, -, -, rfl⟩ := too
  rw [found] at again
  cases again
  rw [present] at here
  cases here
  rfl

theorem applyRules_judged (judges : rule.Judges metrics value) (going : verdict.1 ≠ .fail) :
    applyRules metrics (rule :: rules) verdict = applyRules metrics rules (compare rule value verdict) := by
  obtain ⟨_, _, found, present, status, version, unit, rfl⟩ := judges
  simp [applyRules, going, found, present, status, version, unit]

theorem applyRules_undefined (undefined : rule.Undefined metrics) (going : verdict.1 ≠ .fail) :
    (applyRules metrics (rule :: rules) verdict).1 = .blocked := by
  unfold applyRules
  rw [if_neg going]
  split
  · rfl
  · rename_i metric found
    split
    · rfl
    · rename_i number present
      split_ifs with status contract
      · rfl
      · rfl
      · rw [not_or, not_not, not_not] at contract
        exact absurd ⟨_, metric, number, found, present, not_not.mp status, contract.1, contract.2, rfl⟩ undefined

theorem compare_violated (passes : verdict.1 = .pass) (violates : rule.Violates value) :
    (compare rule value verdict).1 = .fail := by
  simp [compare, passes, violates]

theorem compare_borderline (passes : verdict.1 = .pass) (inside : ¬rule.Violates value) (near : rule.Near value) :
    (compare rule value verdict).1 = .borderline := by
  simp [compare, passes, inside, near]

theorem compare_inside (inside : ¬rule.Violates value) (far : ¬rule.Near value) :
    compare rule value verdict = verdict := by
  simp [compare, inside, far]

theorem MetricRule.exists_judges (defined : ¬rule.Undefined metrics) : ∃ value, rule.Judges metrics value :=
  not_not.mp defined

theorem applyRules_kept (stopped : verdict.1 ≠ .pass)
    (defined : verdict.1 = .fail ∨ ∀ rule ∈ rules, ¬rule.Undefined metrics) :
    (applyRules metrics rules verdict).1 = verdict.1 := by
  induction rules with
  | nil => rfl
  | cons rule _ ih =>
    by_cases failed : verdict.1 = .fail
    · rw [applyRules, if_pos failed]
    · have all := defined.resolve_left failed
      obtain ⟨_, judges⟩ := MetricRule.exists_judges (all rule mem_cons_self)
      rw [applyRules_judged judges failed, compare_fail stopped]
      exact ih (.inr fun other member => all other (mem_cons_of_mem rule member))

theorem applyRules_blocked (stopped : verdict.1 ≠ .pass) (going : verdict.1 ≠ .fail)
    (undefined : ∃ rule ∈ rules, rule.Undefined metrics) : (applyRules metrics rules verdict).1 = .blocked := by
  induction rules with
  | nil => obtain ⟨rule, member, -⟩ := undefined; cases member
  | cons rule _ ih =>
    by_cases first : rule.Undefined metrics
    · exact applyRules_undefined first going
    · obtain ⟨_, judges⟩ := MetricRule.exists_judges first
      rw [applyRules_judged judges going, compare_fail stopped]
      apply ih
      obtain ⟨other, member, missing⟩ := undefined
      rcases mem_cons.mp member with rfl | member
      · exact absurd missing first
      · exact ⟨other, member, missing⟩

theorem applyRules_unviolated (passes : verdict.1 = .pass) (inside : ∀ rule ∈ rules, ¬rule.Violated metrics) :
    ((∃ rule ∈ rules, rule.Undefined metrics) → (applyRules metrics rules verdict).1 = .blocked) ∧
      ((∀ rule ∈ rules, ¬rule.Undefined metrics) →
        ((∃ rule ∈ rules, rule.Borderline metrics) → (applyRules metrics rules verdict).1 = .borderline) ∧
        ((∀ rule ∈ rules, ¬rule.Borderline metrics) → (applyRules metrics rules verdict).1 = .pass)) := by
  induction rules with
  | nil =>
    refine ⟨?_, fun _ => ⟨?_, fun _ => passes⟩⟩
    · rintro ⟨rule, member, -⟩
      cases member
    · rintro ⟨rule, member, -⟩
      cases member
  | cons rule _ ih =>
    have going : verdict.1 ≠ .fail := by rw [passes]; decide
    obtain ⟨within, others⟩ := forall_mem_cons.mp inside
    rw [exists_mem_cons_iff, forall_mem_cons, exists_mem_cons_iff, forall_mem_cons]
    by_cases undefined : rule.Undefined metrics
    · exact ⟨fun _ => applyRules_undefined undefined going, fun defined => absurd undefined defined.1⟩
    · obtain ⟨value, judges⟩ := MetricRule.exists_judges undefined
      have unbroken : ¬rule.Violates value := fun violates => within ⟨value, judges, violates⟩
      rw [applyRules_judged judges going]
      by_cases near : rule.Near value
      · -- from here on only an undefined metric counts
        have close := compare_borderline passes unbroken near
        have stopped : (compare rule value verdict).1 ≠ .pass := by rw [close]; decide
        refine ⟨fun missing => ?_, fun defined => ⟨fun _ => ?_, fun far => ?_⟩⟩
        · exact applyRules_blocked stopped (by rw [close]; decide) (missing.resolve_left undefined)
        · rw [applyRules_kept stopped (.inr defined.2), close]
        · exact absurd ⟨value, judges, unbroken, near⟩ far.1
      · have far : ¬rule.Borderline metrics := by
          rintro ⟨_, held, -, close⟩
          exact near (judges.unique held ▸ close)
        obtain ⟨blocks, decides⟩ := ih others
        rw [compare_inside unbroken near]
        refine ⟨fun missing => blocks (missing.resolve_left undefined), fun defined => ⟨fun close => ?_, fun clear => ?_⟩⟩
        · exact (decides defined.2).1 (close.resolve_left far)
        · exact (decides defined.2).2 clear.2

theorem applyRules_violated (passes : verdict.1 = .pass) (violated : ∃ rule ∈ rules, rule.Violated metrics)
    (clear : ∀ rule ∈ rules, ¬rule.Undefined metrics ∧ ¬rule.Borderline metrics) :
    (applyRules metrics rules verdict).1 = .fail := by
  induction rules with
  | nil => obtain ⟨rule, member, -⟩ := violated; cases member
  | cons rule _ ih =>
    obtain ⟨defined, far⟩ := clear rule mem_cons_self
    obtain ⟨value, judges⟩ := MetricRule.exists_judges defined
    rw [applyRules_judged judges (by rw [passes]; decide)]
    by_cases violates : rule.Violates value
    · have fails := compare_violated passes violates
      rw [applyRules_kept (by rw [fails]; decide) (.inl fails), fails]
    · have distant : ¬rule.Near value := fun near => far ⟨value, judges, violates, near⟩
      rw [compare_inside violates distant]
      apply ih
      · obtain ⟨other, member, broken, held, outside⟩ := violated
        rcases mem_cons.mp member with rfl | member
        · exact absurd (judges.unique held ▸ outside) violates
        · exact ⟨other, member, broken, held, outside⟩
      · exact fun other member => clear other (mem_cons_of_mem rule member)

/-- The decision that the rules start from. -/
def beforeRules (snapshot : EvaluationSnapshot) (request : GateInput) (createdBy : String) (now : Time)
    (items : List EvidenceItem) : Verdict :=
  bound request.gateId request.metrics items
    (forwardHorizon request.gateId snapshot now items
      (sealedProtocol request.gateId items
        (independent request.gateId createdBy items
          (limited request.gateId items (checked request.gateId items)))))

theorem judge_eq : judge snapshot request createdBy now items =
    applyRules request.metrics (snapshot.rules request.gateId) (beforeRules snapshot request createdBy now items) :=
  rfl

/-- There is no defect but what the rules may find. -/
structure Sound (snapshot : EvaluationSnapshot) (request : GateInput) (createdBy : String) (now : Time)
    (items : List EvidenceItem) : Prop where
  complete : ∀ check ∈ requiredChecks request.gateId, ∃ item ∈ ofClass request.gateId items,
    check ∈ item.report.checks
  valid : ¬HardlyInvalid items
  known : ∀ item ∈ items, item.report.unknowns = false
  observed : ¬(7 ≤ request.gateId ∧ ∀ item ∈ items, item.evidence.role = .synthetic)
  foreign : ¬SelfCertified request.gateId createdBy items
  sealedRole : ¬Unsealed request.gateId items
  timely : ¬TooEarly request.gateId snapshot now items
  distinct : (request.metrics.map MetricValue.metricId).Nodup
  bound : ∀ metric ∈ request.metrics, lastUnder ReportedMetric.metricId metric.metricId
    ((ofClass request.gateId items).flatMap fun item => item.report.metrics) = some metric.dump

theorem passes_unless {condition : Prop} [Decidable condition] (stops : decision ≠ .pass) :
    (if condition then ((decision, reason) : Verdict) else verdict).1 = .pass ↔ ¬condition ∧ verdict.1 = .pass := by
  split <;> simp [*]

variable {gateId : GateId}

theorem bound_pass_iff : (bound gateId metrics items verdict).1 = .pass ↔ verdict.1 = .pass ∧
    (metrics.map MetricValue.metricId).Nodup ∧ ∀ metric ∈ metrics, lastUnder ReportedMetric.metricId
      metric.metricId ((ofClass gateId items).flatMap fun item => item.report.metrics) = some metric.dump := by
  rw [bound, passes_unless (by decide)]
  constructor
  · rintro ⟨holds, passes⟩
    have going : verdict.1 ≠ .fail := by rw [passes]; decide
    have fits := (not_and.mp holds) going
    rw [not_or, not_not] at fits
    refine ⟨passes, fits.1, fun metric member => ?_⟩
    by_contra other
    exact fits.2 ⟨metric, member, other⟩
  · rintro ⟨passes, distinct, reported⟩
    refine ⟨?_, passes⟩
    rintro ⟨-, doubled | ⟨metric, member, other⟩⟩
    · exact doubled distinct
    · exact other (reported metric member)

theorem beforeRules_pass_iff : (beforeRules snapshot request createdBy now items).1 = .pass ↔
    Sound snapshot request createdBy now items := by
  have blocks : Decision.blocked ≠ .pass := by decide
  have fails : Decision.fail ≠ .pass := by decide
  rw [beforeRules, bound_pass_iff, forwardHorizon, passes_unless blocks, sealedProtocol, passes_unless blocks,
    independent, passes_unless blocks, limited, passes_unless fails, passes_unless blocks, passes_unless blocks,
    checked, passes_unless blocks]
  constructor
  · rintro ⟨⟨timely, sealedRole, foreign, valid, known, observed, complete, -⟩, distinct, reported⟩
    refine ⟨fun check asked => ?_, valid, fun item member => ?_, observed, foreign, sealedRole, timely, distinct,
      reported⟩
    · by_contra missing
      push Not at missing
      exact complete ⟨check, asked, missing⟩
    · by_contra unknown
      exact known ⟨item, member, Bool.eq_true_of_not_eq_false unknown⟩
  · intro sound
    refine ⟨⟨sound.timely, sound.sealedRole, sound.foreign, sound.valid, ?_, sound.observed, ?_, rfl⟩, sound.distinct,
      sound.bound⟩
    · rintro ⟨item, member, unknown⟩
      rw [sound.known item member] at unknown
      cases unknown
    · rintro ⟨check, asked, missing⟩
      obtain ⟨item, member, reported⟩ := sound.complete check asked
      exact missing item member reported

/-- A number is within the tolerance of a bound, without rounding. -/
def MetricRule.Within (rule : MetricRule) (value : ℚ) : Prop :=
  (∃ lower ∈ rule.lower, |value - lower| ≤ rule.tolerance) ∨ ∃ upper ∈ rule.upper, |value - upper| ≤ rule.tolerance

/-- What the metrics decide, whatever order the rules come in. -/
structure Reads (metrics : List MetricValue) (rules : List MetricRule) (decision : Decision) : Prop where
  fails : (∃ rule ∈ rules, rule.Violated metrics) → decision = .fail
  borders : (∀ rule ∈ rules, ¬rule.Violated metrics) →
    (∃ rule ∈ rules, ∃ value, rule.Judges metrics value ∧ rule.Within value) → decision = .borderline
  passes : (∀ rule ∈ rules, ¬rule.Violated metrics) →
    (¬∃ rule ∈ rules, ∃ value, rule.Judges metrics value ∧ rule.Within value) → decision = .pass

/-- The decision stays when the rules of the gate are permuted. -/
def OrderFree (snapshot : EvaluationSnapshot) (request : GateInput) (createdBy : String) (now : Time)
    (items : List EvidenceItem) : Prop :=
  ∀ rulesByGate, ({ snapshot with rulesByGate }.rules request.gateId).Perm (snapshot.rules request.gateId) →
    (judge { snapshot with rulesByGate } request createdBy now items).1 =
      (judge snapshot request createdBy now items).1

def Unmixed (metrics : List MetricValue) (rules : List MetricRule) : Prop :=
  (∃ rule ∈ rules, rule.Violated metrics) → ∀ rule ∈ rules, ¬rule.Undefined metrics ∧ ¬rule.Borderline metrics

/-- Among metrics that violate nothing, rounding finds one close to a bound where there is one. -/
def RoundedRight (metrics : List MetricValue) (rules : List MetricRule) : Prop :=
  (∀ rule ∈ rules, ¬rule.Violated metrics ∧ ¬rule.Undefined metrics) →
    ((∃ rule ∈ rules, rule.Borderline metrics) ↔
      ∃ rule ∈ rules, ∃ value, rule.Judges metrics value ∧ rule.Within value)

/-- Distances that keep their digits are compared as they are. -/
theorem near_iff_within (fits : ∀ bound, bound ∈ rule.lower ∨ bound ∈ rule.upper → prec28.Fits (value - bound)) :
    rule.Near value ↔ rule.Within value := by
  have kept : ∀ bound, bound ∈ rule.lower ∨ bound ∈ rule.upper →
      prec28.abs (prec28.sub value bound) = |value - bound| := by
    intro bound given
    have distance : prec28.Fits |value - bound| := by
      rcases abs_choice (value - bound) with same | turned
      · rw [same]
        exact fits bound given
      · rw [turned]
        exact fits_neg (fits bound given)
    rw [sub_of_fits (fits bound given), abs_of_fits distance]
  constructor
  · rintro (⟨lower, given, near⟩ | ⟨upper, given, near⟩)
    · exact .inl ⟨lower, given, kept lower (.inl given) ▸ near⟩
    · exact .inr ⟨upper, given, kept upper (.inr given) ▸ near⟩
  · rintro (⟨lower, given, near⟩ | ⟨upper, given, near⟩)
    · exact .inl ⟨lower, given, (kept lower (.inl given)).symm ▸ near⟩
    · exact .inr ⟨upper, given, (kept upper (.inr given)).symm ▸ near⟩

theorem roundedRight_of_fits (fits : ∀ rule ∈ rules, ∀ value, rule.Judges metrics value →
    ∀ bound, bound ∈ rule.lower ∨ bound ∈ rule.upper → prec28.Fits (value - bound)) : RoundedRight metrics rules := by
  intro clear
  constructor
  · rintro ⟨rule, member, value, judges, -, near⟩
    exact ⟨rule, member, value, judges, (near_iff_within (fits rule member value judges)).mp near⟩
  · rintro ⟨rule, member, value, judges, within⟩
    refine ⟨rule, member, value, judges, fun violates => ?_, (near_iff_within (fits rule member value judges)).mpr within⟩
    exact (clear rule member).1 ⟨value, judges, violates⟩

variable {others : List MetricRule}

/-- Rules with the same members decide alike where they are not mixed. -/
theorem applyRules_congr (same : ∀ rule, rule ∈ others ↔ rule ∈ rules)
    (unmixed : verdict.1 = .pass → Unmixed metrics rules) :
    (applyRules metrics others verdict).1 = (applyRules metrics rules verdict).1 := by
  have some {property : MetricRule → Prop} (found : ∃ rule ∈ rules, property rule) : ∃ rule ∈ others, property rule := by
    obtain ⟨rule, member, holds⟩ := found
    exact ⟨rule, (same rule).mpr member, holds⟩
  have all {property : MetricRule → Prop} (every : ∀ rule ∈ rules, property rule) : ∀ rule ∈ others, property rule :=
    fun rule member => every rule ((same rule).mp member)
  by_cases passes : verdict.1 = .pass
  · by_cases violated : ∃ rule ∈ rules, rule.Violated metrics
    · have clear := unmixed passes violated
      rw [applyRules_violated passes violated clear, applyRules_violated passes (some violated) (all clear)]
    · push Not at violated
      obtain ⟨blocks, decides⟩ := applyRules_unviolated passes violated
      obtain ⟨blocksToo, decidesToo⟩ := applyRules_unviolated passes (all violated)
      by_cases undefined : ∃ rule ∈ rules, rule.Undefined metrics
      · rw [blocks undefined, blocksToo (some undefined)]
      · push Not at undefined
        by_cases close : ∃ rule ∈ rules, rule.Borderline metrics
        · rw [(decides undefined).1 close, (decidesToo (all undefined)).1 (some close)]
        · push Not at close
          rw [(decides undefined).2 close, (decidesToo (all undefined)).2 (all close)]
  · by_cases failed : verdict.1 = .fail
    · rw [applyRules_kept passes (.inl failed), applyRules_kept passes (.inl failed)]
    · by_cases undefined : ∃ rule ∈ rules, rule.Undefined metrics
      · rw [applyRules_blocked passes failed undefined, applyRules_blocked passes failed (some undefined)]
      · push Not at undefined
        rw [applyRules_kept passes (.inr undefined), applyRules_kept passes (.inr (all undefined))]

theorem applyRules_first_violated (passes : verdict.1 = .pass) (violated : rule.Violated metrics) :
    (applyRules metrics (rule :: rules) verdict).1 = .fail := by
  obtain ⟨_, judges, violates⟩ := violated
  have fails := compare_violated passes violates
  rw [applyRules_judged judges (by rw [passes]; decide), applyRules_kept (by rw [fails]; decide) (.inl fails), fails]

theorem applyRules_first_stops (passes : verdict.1 = .pass)
    (stops : rule.Undefined metrics ∨ rule.Borderline metrics) :
    (applyRules metrics (rule :: rules) verdict).1 ≠ .fail := by
  have going : verdict.1 ≠ .fail := by rw [passes]; decide
  rcases stops with undefined | ⟨_, judges, inside, near⟩
  · rw [applyRules_undefined undefined going]
    decide
  · have close := compare_borderline passes inside near
    rw [applyRules_judged judges going, ne_eq, applyRules_fail (by rw [close]; decide), close]
    decide

theorem rules_only :
    { snapshot with rulesByGate := [(gateKey gateId, others)] }.rules gateId = others := by
  simp [EvaluationSnapshot.rules]

/-- The decision does not depend on the order of the rules, and is what the metrics decide, exactly as long as
no violated rule is mixed with others and rounding finds what is close. -/
theorem rules_order_iff (snapshot : EvaluationSnapshot) (request : GateInput) (createdBy : String) (now : Time)
    (items : List EvidenceItem) :
    (OrderFree snapshot request createdBy now items ∧
      (Sound snapshot request createdBy now items →
        (∀ rule ∈ snapshot.rules request.gateId, ¬rule.Undefined request.metrics) →
          Reads request.metrics (snapshot.rules request.gateId)
            (judge snapshot request createdBy now items).1)) ↔
      (Sound snapshot request createdBy now items →
        Unmixed request.metrics (snapshot.rules request.gateId) ∧
          RoundedRight request.metrics (snapshot.rules request.gateId)) := by
  constructor
  · rintro ⟨free, reads⟩ sound
    have passes := beforeRules_pass_iff.mpr sound
    constructor
    · -- either of the two rules may come first
      intro ⟨violated, member, fails⟩ other among
      rw [← not_or]
      intro stops
      have ahead := free [(gateKey request.gateId, violated :: (snapshot.rules request.gateId).erase violated)]
        (by rw [rules_only]; exact (perm_cons_erase member).symm)
      have behind := free [(gateKey request.gateId, other :: (snapshot.rules request.gateId).erase other)]
        (by rw [rules_only]; exact (perm_cons_erase among).symm)
      rw [← behind, judge_eq, judge_eq, rules_only, rules_only] at ahead
      exact applyRules_first_stops passes stops (ahead ▸ applyRules_first_violated passes fails)
    · intro clear
      have decided := reads sound fun rule member => (clear rule member).2
      have inside : ∀ rule ∈ snapshot.rules request.gateId, ¬rule.Violated request.metrics :=
        fun rule member => (clear rule member).1
      obtain ⟨-, decides⟩ := applyRules_unviolated passes inside
      obtain ⟨borders, passing⟩ := decides fun rule member => (clear rule member).2
      constructor
      · intro close
        by_contra far
        have both := (borders close).symm.trans (decided.passes inside far)
        cases both
      · intro within
        by_contra far
        push Not at far
        have both := (passing far).symm.trans (decided.borders inside within)
        cases both
  · intro holds
    constructor
    · intro rulesByGate same
      rw [judge_eq, judge_eq]
      exact applyRules_congr (fun rule => same.mem_iff) fun passes => (holds (beforeRules_pass_iff.mp passes)).1
    · intro sound defined
      have passes := beforeRules_pass_iff.mpr sound
      obtain ⟨unmixed, rounded⟩ := holds sound
      refine ⟨fun violated => ?_, fun inside within => ?_, fun inside far => ?_⟩
      · exact applyRules_violated passes violated (unmixed violated)
      · have close := (rounded fun rule member => ⟨inside rule member, defined rule member⟩).mpr within
        exact ((applyRules_unviolated passes inside).2 defined).1 close
      · have clear : ∀ rule ∈ snapshot.rules request.gateId, ¬rule.Borderline request.metrics :=
          fun rule member close => far
            ((rounded fun rule member => ⟨inside rule member, defined rule member⟩).mp ⟨rule, member, close⟩)
        exact ((applyRules_unviolated passes inside).2 defined).2 clear

namespace Small

def sharpe : MetricRule := ⟨"sharpe", "1", "ratio", some 1, none, 1 / 10⟩

def turnover : MetricRule := ⟨"turnover", "1", "ratio", none, some 10, 0⟩

def measured : List MetricValue :=
  [⟨"sharpe", "1", "ratio", .value, some ⟨"1.05", 21 / 20⟩, ""⟩, ⟨"turnover", "1", "ratio", .value, some ⟨"12", 12⟩, ""⟩]

def contractEvidence : EvidenceItem where
  evidence := ⟨"E0", 1, "research_contract", .development, 0⟩
  artifact := ⟨⟨"report", true, ⟨some "first", requiredChecks 0, measured.map MetricValue.dump, false, false, 0⟩⟩,
    "report", .internal, "evaluator", "policy"⟩

def judgedUnder (rules : List MetricRule) : Decision :=
  (judge { pinned "first" with rulesByGate := [("0", rules)] }
    ⟨"S", "first", 0, 0, ["E0"], measured, "G0"⟩ "creator" 1 [contractEvidence]).1

end Small

/-- A violated rule fails its candidate in front of a borderline one, and not behind it. -/
theorem rule_order_decides :
    Small.judgedUnder [Small.turnover, Small.sharpe] = .fail ∧
      Small.judgedUnder [Small.sharpe, Small.turnover] = .borderline := by
  decide +kernel

end Liki.Evaluation
