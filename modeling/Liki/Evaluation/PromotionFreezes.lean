import Liki.Evaluation.GateHistory
import Liki.Governance.Activations
import Liki.ModelRisk.FreezeRefusals
import Liki.ModelRisk.Statuses

/-! How far a promotion freeze reaches. Relief goes through: a veto, a retirement, and the
evidence and the drift of a model that does not stay approved. What is refused is a promotion,
any other write to a row that is promoted already, a return to an earlier policy, and every
gate that was not decided before, whatever its verdict would have been. -/
namespace Liki.Evaluation
open Checks CallSystem EvaluationState

variable {verify : Verification} {state after : EvaluationState} {actor : Identity}
  {deployment : Governance.Deployment} {refusal error : ServiceError} {capability : Capability}
  {gateDecisionId : String} {now : Time} {request : GateInput}

def freezeRefusals : List ServiceError := [.domain "PROMOTION_FROZEN", Governance.promotionFrozen]

def Decided (state : EvaluationState) (request : GateInput) : Prop :=
  state.findDecision request.operationKey ≠ none ∧ state.findEvent request.operationKey ≠ none

theorem untold (told : refusal ∈ freezeRefusals) (other : error ∉ freezeRefusals) : error ≠ refusal := by
  rintro rfl
  exact other told

theorem requires_untold (told : refusal ∈ freezeRefusals) :
    Never refusal (actor.requires capability) :=
  never_guard (untold told (by decide))

theorem readArtifact_untold (told : refusal ∈ freezeRefusals) :
    Never refusal (state.readArtifact actor artifactId) := by
  refine (never_expect (untold told (by decide))).bind fun row _ => ?_
  refine (never_guard (untold told (by decide))).bind fun _ _ => ?_
  exact (never_guard (untold told (by decide))).bind fun _ _ => never_pure

theorem transition_untold {request : EvaluationTransition} (told : refusal ∈ freezeRefusals) :
    Never refusal (state.transition actor capability operationKey request) := by
  unfold EvaluationState.transition Store.transition
  refine (requires_untold told).bind fun _ _ => ?_
  refine (never_guard (untold told (by decide))).bind fun _ _ => ?_
  refine Never.bind ?_ fun _ _ => never_pure
  refine (requires_untold told).bind fun _ _ => ?_
  refine (never_guard (untold told (by decide))).bind fun _ _ => ?_
  split
  · exact (never_guard (untold told (by decide))).bind fun _ _ => never_pure
  · refine (never_guard (untold told (by decide))).bind fun _ _ => ?_
    refine (never_guard (untold told (by decide))).bind fun _ _ => ?_
    exact (never_guard (untold told (by decide))).bind fun _ _ => never_pure

theorem validSnapshot_untold (told : refusal ∈ freezeRefusals) :
    Never refusal (state.validSnapshot snapshotId) := by
  refine (never_expect (untold told (by decide))).bind fun row _ => ?_
  exact (never_guard (untold told (by decide))).bind fun _ _ => never_pure

theorem pinSnapshot_untold {pinned : EvaluationSnapshot} (told : refusal ∈ freezeRefusals) :
    Never refusal (pinSnapshot state actor pinned) := by
  unfold pinSnapshot
  refine (never_guard (untold told (by decide))).bind fun _ _ => ?_
  refine (never_guard (untold told (by decide))).bind fun _ _ => ?_
  refine (never_guard (untold told (by decide))).bind fun _ _ => ?_
  refine (requires_untold told).bind fun _ _ => (readArtifact_untold told).bind fun candidate _ => ?_
  refine (never_guard (untold told (by decide))).bind fun _ _ => ?_
  refine (never_mapM fun _ _ => ?_).bind fun _ _ => ?_
  · exact (readArtifact_untold told).bind fun _ _ => never_guard (untold told (by decide))
  refine (never_guard (untold told (by decide))).bind fun _ _ => ?_
  refine (never_mapM fun _ _ => readArtifact_untold told).bind fun _ _ => ?_
  refine (never_mapM fun _ _ => readArtifact_untold told).bind fun _ _ => ?_
  exact (transition_untold told).bind fun _ _ => never_pure

theorem reenter_untold {request : GateReentry} (told : refusal ∈ freezeRefusals) :
    Never refusal (reenter state actor request) := by
  unfold reenter
  refine (requires_untold told).bind fun _ _ => ?_
  split
  · exact (never_guard (untold told (by decide))).bind fun _ _ => never_pure
  · refine (never_expect (untold told (by decide))).bind fun current _ => ?_
    refine (never_guard (untold told (by decide))).bind fun _ _ => ?_
    refine (never_guard (untold told (by decide))).bind fun _ _ => ?_
    refine (validSnapshot_untold told).bind fun row _ => ?_
    refine (never_guard (untold told (by decide))).bind fun _ _ => ?_
    refine (never_expect (untold told (by decide))).bind fun object _ => ?_
    refine (never_guard (untold told (by decide))).bind fun _ _ => ?_
    refine (never_guard (untold told (by decide))).bind fun _ _ => ?_
    exact (transition_untold told).bind fun _ _ => never_pure

theorem decideGate_frozen {report : CandidateReport} (frozen : state.frozen = true)
    (ok : decideGate verify state actor request now gateDecisionId = .ok (report, after)) :
    Decided state request ∧ after = state := by
  simp only [decideGate, bind_ok] at ok
  obtain ⟨⟨⟩, -, ok⟩ := ok
  split at ok
  · rename_i decided event found logged
    simp only [bind_ok, refuseIf_ok, pair_ok] at ok
    obtain ⟨⟨⟩, -, -, rfl⟩ := ok
    exact ⟨⟨by simp [found], by simp [logged]⟩, rfl⟩
  · simp only [bind_ok, refuseIf_ok] at ok
    obtain ⟨_, -, ⟨⟩, thawed, -⟩ := ok
    exact absurd frozen thawed

theorem decideGate_untold (told : refusal ∈ freezeRefusals) (decided : Decided state request) :
    Never refusal (decideGate verify state actor request now gateDecisionId) := by
  unfold decideGate
  refine (requires_untold told).bind fun _ _ => ?_
  split
  · exact (never_guard (untold told (by decide))).bind fun _ _ => never_pure
  · rename_i undecided
    obtain ⟨found, logged⟩ := decided
    obtain ⟨row, held⟩ := Option.ne_none_iff_exists'.mp found
    obtain ⟨event, recorded⟩ := Option.ne_none_iff_exists'.mp logged
    exact absurd recorded (undecided row event held)

theorem refused_gate (told : refusal ∈ freezeRefusals)
    (refused : handle verify state (actor, call) = .error refusal) :
    ∃ request now gateDecisionId, call = .gate request now gateDecisionId ∧ ¬Decided state request := by
  cases call with
  | gate request now gateDecisionId =>
    refine ⟨request, now, gateDecisionId, rfl, fun decided => ?_⟩
    exact ((decideGate_untold told decided).bind fun _ _ => never_pure) refused
  | reenter => exact absurd refused ((reenter_untold told).bind fun _ _ => never_pure)
  | «snapshot» => exact absurd refused ((pinSnapshot_untold told).bind fun _ _ => never_pure)
  | putArtifact =>
    refine absurd refused (Never.bind ?_ fun _ _ => never_pure)
    refine (requires_untold told).bind fun _ _ => ?_
    refine (never_guard (untold told (by decide))).bind fun _ _ => ?_
    dsimp only
    split <;> exact never_pure
  | recordEvidence | object | principal =>
    exact absurd refused ((never_guard (untold told (by decide))).bind fun _ _ => never_pure)
  | invalidate | freeze => cases refused

/-- An owner vetoes a proposal. -/
def Vetoes (call : Governance.GovernanceCall) : Prop :=
  match call.request with
  | .decide _ .veto _ _ _ _ => True
  | _ => False

def Relieves (call : ModelRisk.ModelCall) : Prop :=
  match call.request with
  | .recordDrift _ _ | .risk (.linkEvidence _ _ _ _ _) | .risk (.recordDrift _ _ _ _ _)
  | .risk (.retire _ _ _ _ _ _) => True
  | _ => False

structure FreezeReach (deployment : Governance.Deployment) (verify : Verification) : Prop where
  /-- A veto that is taken under some freezes is taken under any, to the same effect. -/
  vetoes : ∀ (state : Governance.GovernanceState) call, Vetoes call → ∀ reply after,
    Governance.answer deployment state call = .ok (reply, after) → ∀ incidentFreezes indicatorFreezes,
      Governance.answer deployment (state.withFreezes incidentFreezes indicatorFreezes) call =
        .ok (reply, after.withFreezes incidentFreezes indicatorFreezes)
  /-- So are evidence, drift and retirements, unless the model was approved and stays so. -/
  relief : ∀ (state : ModelRisk.ModelState) call, Relieves call → ¬ModelRisk.Rewrites state call →
    ∀ reply after, ModelRisk.answer deployment state call = .ok (reply, after) → ∀ frozen,
      ModelRisk.answer deployment (state.withFreeze frozen) call = .ok (reply, after.withFreeze frozen)
  governance : ∀ state call,
    Governance.answer deployment state call = .error Governance.promotionFrozen →
      Governance.Promotes state call ∨ Governance.Rewrites state call ∨ call.request.isRollback
  /-- Of the calls on models it refuses approvals and other writes to what is approved already. -/
  models : ∀ state call,
    ModelRisk.answer deployment state call = .error Governance.promotionFrozen →
      ModelRisk.Promotes state call ∨ ModelRisk.Rewrites state call
  evaluations : ∀ state actor call, ∀ refusal ∈ freezeRefusals,
    handle verify state (actor, call) = .error refusal →
      ∃ request now gateDecisionId, call = .gate request now gateDecisionId ∧ ¬Decided state request
  gates : ∀ state actor request now gateDecisionId report after, state.frozen = true →
    decideGate verify state actor request now gateDecisionId = .ok (report, after) →
      Decided state request ∧ after = state

theorem relief_goes_through {state after : ModelRisk.ModelState} {reply : ModelRisk.ModelAnswer}
    (relieves : Relieves call) (spared : ¬ModelRisk.Rewrites state call)
    (ok : ModelRisk.answer deployment state call = .ok (reply, after)) (frozen : Bool) :
    ModelRisk.answer deployment (state.withFreeze frozen) call = .ok (reply, after.withFreeze frozen) := by
  obtain ⟨_, _, request⟩ := call
  cases request with
  | recordDrift => exact ModelRisk.governance_recordDrift_withFreeze ok
  | risk request =>
    cases request with
    | linkEvidence =>
      exact ModelRisk.linkEvidence_withFreeze ok fun row found approved => spared ⟨row, found, approved⟩
    | recordDrift _ observation =>
      refine ModelRisk.recordDrift_withFreeze ok ?_
      by_cases breached : observation.breached = true
      · exact .inl breached
      · exact .inr fun row found approved => spared ⟨by simpa using breached, row, found, approved⟩
    | retire => exact ModelRisk.retire_withFreeze ok
    | recordEffectiveChallenge | approve | grantException => cases relieves
  | registerModel | recordModelValidation | putArtifact | otherTransition | freeze => cases relieves

/-- In every state of the tables relief goes through under any freeze, and a freeze refuses
promotions, writes to what is promoted already, returns to an earlier policy and gates. -/
theorem freeze_reach (deployment : Governance.Deployment) (verify : Verification) :
    FreezeReach deployment verify where
  vetoes state call vetoes reply after ok incidentFreezes indicatorFreezes := by
    obtain ⟨_, actor, request⟩ := call
    cases request with
    | decide _ verdict =>
      cases verdict with
      | veto => exact Governance.veto_withFreezes ok
      | approve => cases vetoes
    | _ => cases vetoes
  relief state call relieves spared reply after ok := relief_goes_through relieves spared ok
  governance state call := Governance.refused_by_freeze
  models state call := ModelRisk.refused_by_freeze
  evaluations state actor call refusal told := refused_gate told
  gates state actor request now gateDecisionId report after := decideGate_frozen

namespace Small

def deployedFrozen : Governance.GovernanceState :=
  Governance.history Governance.Small.deployment (Governance.Small.promotedBeside ++
    [Governance.Small.otherActivated, Governance.Small.made 85 Governance.Small.governance
      (.freezeIndicator "gates")])

def rollback : Governance.GovernanceCall :=
  Governance.Small.made 86 Governance.Small.governance (.rollbackPolicy "other" "1" 1 "rollback")

def approvedFrozen : ModelRisk.ModelState :=
  ModelRisk.history Governance.Small.deployment (ModelRisk.Small.prepared ++
    [ModelRisk.Small.asked 12 Governance.Small.governance
        (.risk (.approve "MDL-1" "VAL-1" 2 "approve" "v1")),
      ModelRisk.Small.asked 13 Governance.Small.governance (.freeze true)])

def monitored : ModelRisk.ModelCall :=
  ModelRisk.Small.asked 14 Governance.Small.governance (.risk (.linkEvidence "MDL-1"
    (Governance.Small.provenance 4 Governance.Small.governance ModelRisk.Small.measurement) .monitoring
    "link" "v1"))

def trusting : Verification := fun _ _ _ _ _ _ => .ok ()

def unscreened : Identity × EvaluationCall := gate "first" 1 1 "E1" "G1"

end Small

open Evaluation.Small

/-- Under a freeze a policy does not return to its earlier version, an approved model takes no
evidence, and a gate that would block the candidate is not decided. -/
theorem relief_refused :
    Governance.answer Governance.Small.deployment deployedFrozen rollback =
        .error Governance.promotionFrozen ∧
      (Governance.answer Governance.Small.deployment (deployedFrozen.withFreezes [] []) rollback).isOk ∧
      ModelRisk.answer Governance.Small.deployment approvedFrozen monitored =
        .error Governance.promotionFrozen ∧
      (ModelRisk.answer Governance.Small.deployment (approvedFrozen.withFreeze false) monitored).isOk ∧
      handle trusting { reached 9 with frozen := true } unscreened = .error (.domain "PROMOTION_FROZEN") ∧
      (next (handle trusting) (reached 9) unscreened).decisions.map GateDecision.decision =
        [.pass, .blocked] := by
  decide +kernel

end Liki.Evaluation
