import Liki.Evaluation.GateHistory

/-! What becomes of a hard invalidity. It fails the gate, and a failed candidate is never left; but three
conditions of the late gates come after it without a look at the decision so far, and each of them makes a
block of the failure, which a re-entry leaves. -/
namespace Liki.Evaluation
open Checks CallSystem

variable {snapshot : EvaluationSnapshot} {request : GateInput} {createdBy : String} {now : Time}
  {items : List EvidenceItem} {gateId : GateId} {metrics : List MetricValue} {verdict : Verdict}

def HardlyInvalid (items : List EvidenceItem) : Prop := ∃ item ∈ items, item.report.hardInvalidity = true

def SelfCertified (gateId : GateId) (createdBy : String) (items : List EvidenceItem) : Prop :=
  10 ≤ gateId ∧ ∃ item ∈ items, item.artifact.producerId = createdBy

def Unsealed (gateId : GateId) (items : List EvidenceItem) : Prop :=
  gateId = 11 ∧ ¬∃ item ∈ items, item.evidence.evidenceClass = "sealed_verdict" ∧ item.evidence.role = .sealed

def TooEarly (gateId : GateId) (snapshot : EvaluationSnapshot) (now : Time) (items : List EvidenceItem) : Prop :=
  gateId = 12 ∧ ((∃ instant ∈ snapshot.forwardEvaluationAt, now < instant) ∨
    opportunities items < snapshot.minimumForwardOpportunities ∨
    ¬∃ item ∈ items, item.evidence.role = .forward)

/-- A condition that overwrites whatever was decided before it. -/
def Overwritten (snapshot : EvaluationSnapshot) (gateId : GateId) (createdBy : String) (now : Time)
    (items : List EvidenceItem) : Prop :=
  SelfCertified gateId createdBy items ∨ Unsealed gateId items ∨ TooEarly gateId snapshot now items

theorem limited_invalid (gateId : GateId) (invalid : HardlyInvalid items) (verdict : Verdict) :
    limited gateId items verdict = (.fail, "HARD_INVALIDITY") :=
  if_pos invalid

theorem fails_unless {condition : Prop} [Decidable condition] :
    (if condition then ((.blocked, reason) : Verdict) else verdict).1 = .fail ↔ ¬condition ∧ verdict.1 = .fail := by
  split <;> simp [*]

theorem independent_fail : (independent gateId createdBy items verdict).1 = .fail ↔
    ¬SelfCertified gateId createdBy items ∧ verdict.1 = .fail :=
  fails_unless

theorem sealedProtocol_fail : (sealedProtocol gateId items verdict).1 = .fail ↔
    ¬Unsealed gateId items ∧ verdict.1 = .fail :=
  fails_unless

theorem forwardHorizon_fail : (forwardHorizon gateId snapshot now items verdict).1 = .fail ↔
    ¬TooEarly gateId snapshot now items ∧ verdict.1 = .fail :=
  fails_unless

theorem bound_fail : (bound gateId metrics items verdict).1 = .fail ↔ verdict.1 = .fail := by
  rw [bound, fails_unless]
  constructor
  · exact And.right
  · intro fails
    exact ⟨fun condition => condition.1 fails, fails⟩

theorem compare_fail (stopped : verdict.1 ≠ .pass) : compare rule value verdict = verdict := by
  simp [compare, stopped]

theorem applyRules_fail (stopped : verdict.1 ≠ .pass) :
    (applyRules metrics rules verdict).1 = .fail ↔ verdict.1 = .fail := by
  induction rules with
  | nil => rfl
  | cons rule rules ih =>
    unfold applyRules
    split
    · rfl
    · rename_i standing
      split
      · simp [standing]
      · split
        · simp [standing]
        · split_ifs
          · simp [standing]
          · simp [standing]
          · rw [compare_fail stopped, ih]

theorem judge_invalid (invalid : HardlyInvalid items) :
    (judge snapshot request createdBy now items).1 = .fail ↔
      ¬Overwritten snapshot request.gateId createdBy now items := by
  have limits := limited_invalid request.gateId invalid (checked request.gateId items)
  have stopped : (bound request.gateId request.metrics items (forwardHorizon request.gateId snapshot now items
      (sealedProtocol request.gateId items (independent request.gateId createdBy items
        (limited request.gateId items (checked request.gateId items)))))).1 ≠ .pass := by
    intro passes
    have early := independent_pass (sealedProtocol_pass (forwardHorizon_pass (bound_pass passes)))
    rw [limits] at early
    cases early
  rw [judge, applyRules_fail stopped, bound_fail, forwardHorizon_fail, sealedProtocol_fail, independent_fail, limits,
    Overwritten]
  tauto

variable {actor : Identity} {gateDecisionId strategyVersionId : String} {report : CandidateReport}
  {after : EvaluationState}

def Failed (verify : Verification) (calls : List (Identity × EvaluationCall)) (strategyVersionId : String) : Prop :=
  ∃ version current, (history verify calls).candidate strategyVersionId = some (version, current) ∧
    current.status = .failed

structure Records (verify : Verification) (state after : EvaluationState) (actor : Identity) (request : GateInput)
    (now : Time) (row : SnapshotRow) (object : ObjectRow) (items : List EvidenceItem) (decided : GateDecision) :
    Prop where
  pinned : state.findSnapshot request.snapshotId = some row
  registered : state.findObject request.strategyVersionId = some object
  gathers : Gathers verify state actor request row now items
  recorded : after.decisions = state.decisions ++ [decided]

theorem failed_stays (verify : Verification) (earlier : List (Identity × EvaluationCall))
    {object : ObjectRow} {verdict : Verdict}
    (answered : handle verify (history verify earlier) (actor, .gate request now gateDecisionId) =
      .ok (some report, after))
    (same : after = (history verify earlier).record request.operationKey
      (gateRequest actor request verdict object.campaignId version artifactIds)
      [decisionRow actor request verdict version artifactIds
        ((history verify earlier).prior request.strategyVersionId).2 gateDecisionId])
    (fails : verdict.1 = .fail) (later : List (Identity × EvaluationCall)) :
    Failed verify (earlier ++ (actor, .gate request now gateDecisionId) :: later) request.strategyVersionId := by
  have last : history verify (earlier ++ [(actor, .gate request now gateDecisionId)]) = after :=
    (run_append _ _).trans (next_of_ok answered)
  have held : (history verify (earlier ++ [(actor, .gate request now gateDecisionId)])).candidate
      request.strategyVersionId = some (request.expectedVersion + 1, decidedState request verdict) := by
    rw [last, same]
    exact candidate_append_self rfl rfl
  have status : (decidedState request verdict).status = .failed := by simp [decidedState, Decision.status, fails]
  have kept := ended_stays verify _ later held (.inl status)
  rw [List.append_assoc, List.singleton_append] at kept
  exact ⟨_, _, kept, status⟩

/-- A recorded hard invalidity fails its candidate for good, unless one of the late conditions holds as well. -/
theorem invalidity_fails_iff (verify : Verification) (earlier : List (Identity × EvaluationCall))
    (ok : decideGate verify (history verify earlier) actor request now gateDecisionId = .ok (report, after))
    (changed : after ≠ history verify earlier) :
    ∃ row object items decided,
      Records verify (history verify earlier) after actor request now row object items decided ∧
      (HardlyInvalid items →
        ((decided.decision = .fail ∧ ∀ later, Failed verify
            (earlier ++ (actor, .gate request now gateDecisionId) :: later) request.strategyVersionId) ↔
          ¬Overwritten row.manifest request.gateId object.createdBy now items)) := by
  have orderly := history_orderly verify earlier
  have answered : handle verify (history verify earlier) (actor, .gate request now gateDecisionId) =
      .ok (some report, after) := by
    rw [handle, ok]
    rfl
  rcases decideGate_ok ok with unchanged | ⟨row, object, items, _, _, decides, gathers, recorded, same⟩
  · exact absurd unchanged changed
  · obtain ⟨rfl, -⟩ := orderly.appended recorded rfl decides.current
    refine ⟨row, object, items, _,
      ⟨decides.admissible.pinned, decides.admissible.registered, gathers, by rw [same]⟩, fun invalid => ?_⟩
    rw [← judge_invalid invalid]
    constructor
    · exact And.left
    · intro fails
      exact ⟨fails, failed_stays verify earlier answered same fails⟩

/-! A candidate that has passed the gates before the forward gate. -/
namespace Late
open Small

def accepting : Verification := fun _ _ _ _ _ _ => .ok ()

def scheduled : EvaluationSnapshot := { pinned "first" with forwardEvaluationAt := some 5 }

def reported (gateId : GateId) (invalid : Bool) : EvaluationContent :=
  ⟨"report", true, ⟨some "first", requiredChecks gateId, [], invalid, false, 1⟩⟩

def roleFor (gateId : GateId) : EvidenceRole :=
  if gateId = 11 then .sealed else if gateId = 12 then .forward else .development

def evidenceFor (gateId : GateId) : String := "E" ++ gateKey gateId

def filed (gateId : GateId) (invalid : Bool) : List (Identity × EvaluationCall) :=
  [(evaluator, .putArtifact (reported gateId invalid) "report" .internal "policy"),
    (evaluator, .recordEvidence ⟨evidenceFor gateId, gateId.val + 1, evidenceClasses gateId, roleFor gateId, 0⟩)]

def asked (gateId : GateId) : GateInput :=
  ⟨"S", "first", gateId, gateId.val, [evidenceFor gateId], [], "G" ++ gateKey gateId⟩

def passed (gateId : GateId) : List (Identity × EvaluationCall) :=
  filed gateId false ++ [(evaluator, .gate (asked gateId) 1 ("G" ++ gateKey gateId))]

def forwardFiled : List (Identity × EvaluationCall) :=
  [(evaluator, .principal "evaluator" .evaluator),
    (creator, .putArtifact ⟨"candidate", true, ⟨none, [], [], false, false, 0⟩⟩ "strategy" .internal "policy"),
    (creator, .object ⟨"S", "campaign", 0, "creator"⟩),
    (evaluator, .snapshot scheduled)] ++
  ([0, 1, 2, 3, 4, 5, 6, 7, 8, 9, 10, 11] : List GateId).flatMap passed ++ filed 12 true

def forwardGate (now : Time) : Identity × EvaluationCall := (evaluator, .gate (asked 12) now "G12")

end Late

open Late Small

theorem invalidity_fails_iff_forward :
    ∃ report after row object items decided,
      decideGate accepting (history accepting forwardFiled) evaluator (asked 12) 9 "G12" = .ok (report, after) ∧
      Records accepting (history accepting forwardFiled) after evaluator (asked 12) 9 row object items decided ∧
      (HardlyInvalid items →
        ((decided.decision = .fail ∧ ∀ later, Failed accepting
            (forwardFiled ++ (evaluator, .gate (asked 12) 9 "G12") :: later) "S") ↔
          ¬Overwritten row.manifest 12 object.createdBy 9 items)) := by
  have counts : (decideGate accepting (history accepting forwardFiled) evaluator (asked 12) 9 "G12").toOption.map
      (fun answer => answer.2.decisions.length) = some 13 := by decide +kernel
  have before : (history accepting forwardFiled).decisions.length = 12 := by decide +kernel
  cases ok : decideGate accepting (history accepting forwardFiled) evaluator (asked 12) 9 "G12" with
  | error =>
    rw [ok] at counts
    cases counts
  | ok answer =>
    obtain ⟨report, after⟩ := answer
    have changed : after ≠ history accepting forwardFiled := by
      intro same
      rw [ok] at counts
      have count : after.decisions.length = 13 := Option.some.inj counts
      rw [same, before] at count
      cases count
    obtain ⟨row, object, items, decided, records, fails⟩ := invalidity_fails_iff accepting forwardFiled ok changed
    exact ⟨report, after, row, object, items, decided, rfl, records, fails⟩

/-- Before the forward evaluation a hard invalidity blocks the candidate, which can be entered again. -/
theorem invalidity_overwritten :
    ((history accepting forwardFiled).store.artifacts[13]?).map
        (fun artifact => artifact.content.report.hardInvalidity) = some true ∧
      ((history accepting (forwardFiled ++ [forwardGate 1])).decisions.getLast?).map
        (fun decided => (decided.gateId, decided.artifactIds, decided.decision, decided.reasonCode)) =
          some (12, [13], .blocked, "FORWARD_HORIZON_INCOMPLETE") ∧
      ¬Failed accepting (forwardFiled ++ [forwardGate 1]) "S" := by
  refine ⟨by decide +kernel, by decide +kernel, ?_⟩
  rintro ⟨_, current, held, failed⟩
  have status : ((history accepting (forwardFiled ++ [forwardGate 1])).candidate "S").map
      (fun current => current.2.status) = some .blocked := by decide +kernel
  rw [held] at status
  cases failed.symm.trans (Option.some.inj status)

end Liki.Evaluation
