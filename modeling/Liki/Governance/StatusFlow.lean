import Liki.Governance.Vetoes

/-! The stored status against the transitions that a proposal may make. Each operation
writes the status that belongs to it and asks nothing of the one it finds, so a change of
status is a transition exactly when the operation comes in its turn. -/
namespace Liki.Governance
open Checks GovernanceState CallSystem

variable {deployment : Deployment} {state between after : GovernanceState} {call : GovernanceCall}
  {row : ProposalRow} {proposalId : String} {given : PromotionCase} {answered : GovernanceAnswer}
  {edit : ProposalEdit} {actor : Identity} {changeSetId : Option String} {expectedVersion : ℕ}
  {operationKey policyVersion : String} {readings : Readings}

def turns : ProposalStatus → List ProposalStatus
  | .classified => [.proposed, .classified]
  | .reviewing => [.classified, .reviewing]
  | .replayed => [.reviewing, .replayed]
  | .tested => [.replayed, .tested]
  | .shadow => [.tested, .shadow]
  | .canary => [.shadow, .canary]
  | .ready => [.canary, .ready]
  | .promoted => [.ready, .promoted]
  | .proposed | .monitoring | .rolledBack | .vetoed | .frozen | .staleApproval | .rejected => []

def RejectsAgain (given : PromotionCase) : Prop :=
  (∀ decision ∈ given.ownerDecision, ¬decision.vetoed) ∧
    (given.proposal.realMoneyEnablement ∨
      ((∀ incident ∈ given.relevantIncidents, incidentRelevant incident given.proposal →
        ¬incident.status.unresolved) ∧
      given.proposal.approvalSnapshot.snapshotHash = given.currentSnapshot.snapshotHash ∧
      (∀ changeSet ∈ given.changeSet, changeSet.covers given.proposal) ∧
      ¬uniqueIndependence given.reviews))

instance (given : PromotionCase) : Decidable (RejectsAgain given) :=
  inferInstanceAs (Decidable (_ ∧ (_ ∨ (_ ∧ _ ∧ _ ∧ _))))

def EvaluatedInTurn (given : PromotionCase) : Prop :=
  (given.proposal.status = .rejected → RejectsAgain given) ∧
    (given.proposal.status ≠ .rejected → Clear given → given.proposal.status ∈
      if requirementsMet given ≠ [] then turns .reviewing
      else if Authorised given then turns .promoted
      else turns .ready)

instance (given : PromotionCase) : Decidable (EvaluatedInTurn given) :=
  inferInstanceAs (Decidable (_ ∧ _))

def InTurn (deployment : Deployment) (state : GovernanceState) (call : GovernanceCall) : Prop :=
  match call.request with
  | .classify proposalId _ _ _ =>
    ∀ row ∈ state.findProposal proposalId, row.status ∈ turns .classified
  | .recordReview review _ _ _ _ =>
    ∀ row ∈ state.findProposal review.proposalId, row.status ∈ turns .reviewing
  | .recordLifecycle proposalId lifecycle _ _ _ =>
    ∀ row ∈ state.findProposal proposalId,
      if lifecycle.hasFailure then row.status ∉ [.vetoed, .rejected]
      else row.status ∈ turns lifecycle.stage
  | .recordSynthesis synthesis _ _ _ =>
    ∀ row ∈ state.findProposal synthesis.proposalId, row.status ∈ turns .canary
  | .decide proposalId .veto _ _ _ _ =>
    ∀ row ∈ state.findProposal proposalId, row.status ≠ .rejected
  | .evaluate proposalId _ _ _ changeSetId =>
    ∀ row ∈ state.findProposal proposalId, ∀ classification ∈ row.classification,
      ∀ snapshot ∈ (state.currentSnapshot row.proposal).toOption,
        ∀ changeSet ∈ (state.namedChangeSet deployment changeSetId).toOption,
          EvaluatedInTurn (state.promotionCase call.readings row classification snapshot changeSet)
  | _ => True

instance (deployment : Deployment) (state : GovernanceState) (call : GovernanceCall) :
    Decidable (InTurn deployment state call) := by
  obtain ⟨_, _, _⟩ := call
  unfold InTurn
  dsimp only
  split <;> infer_instance

theorem flow_of_turn {before after : ProposalStatus} (turn : before ∈ turns after) :
    before = after ∨ (after ∈ before.flow ∧ before ∉ [.vetoed, .rejected]) := by
  revert turn
  cases after <;> cases before <;> decide

/-- `transitionProposal` accepts the status, given what an evaluation has just said. -/
def Accepts (row : ProposalRow) (toStatus : ProposalStatus) (evaluation : Option ProposalStatus) :
    Prop :=
  ∀ stateVersion actorPrincipal evidence now, evidence ≠ [] → ∃ transition,
    transitionProposal row.proposal stateVersion toStatus actorPrincipal evidence now evaluation =
      .ok transition

theorem accepts_iff {toStatus : ProposalStatus} {evaluation : Option ProposalStatus} :
    Accepts row toStatus evaluation ↔ toStatus ∈ row.status.flow ++ ProposalStatus.universal ∧
      (toStatus = .promoted → evaluation = some .promoted) := by
  constructor
  · intro accepts
    have evidence : ArtifactProvenance := ⟨0, "", "", "", "", ""⟩
    obtain ⟨_, accepted⟩ := accepts 0 "" [evidence] 0 (List.cons_ne_nil _ _)
    simp only [transitionProposal, bind_ok, guard_ok, not_not, not_and] at accepted
    exact ⟨accepted.1, accepted.2.1⟩
  · rintro ⟨allowed, evaluated⟩ stateVersion actorPrincipal evidence now provided
    have flows : toStatus ∈ row.proposal.status.flow ++ ProposalStatus.universal := allowed
    unfold transitionProposal
    rw [refuseIf_bind_of_not (not_not.mpr flows), refuseIf_bind_of_not (by simpa using evaluated),
      refuseIf_bind_of_not provided]
    exact ⟨_, rfl⟩

theorem evaluatePromotion_standing
    (classified : given.classification.proposalId = given.proposal.proposalId)
    (decided : ∀ decision ∈ given.ownerDecision, decision.proposalId = given.proposal.proposalId)
    (standing : given.proposal.status = .vetoed) : evaluatePromotion given = .vetoed := by
  have known : ¬∃ decision ∈ given.ownerDecision, decision.proposalId ≠ given.proposal.proposalId := by
    push Not
    exact decided
  unfold evaluatePromotion
  rw [if_neg (not_not.mpr classified), if_neg known, if_pos (.inl standing)]

theorem evaluatePromotion_again
    (classified : given.classification.proposalId = given.proposal.proposalId)
    (decided : ∀ decision ∈ given.ownerDecision, decision.proposalId = given.proposal.proposalId)
    (standing : given.proposal.status ≠ .vetoed) (again : RejectsAgain given) :
    evaluatePromotion given = .rejected := by
  obtain ⟨unvetoed, reason⟩ := again
  have known : ¬∃ decision ∈ given.ownerDecision, decision.proposalId ≠ given.proposal.proposalId := by
    push Not
    exact decided
  have vetoed : ¬(given.proposal.status = .vetoed ∨ ∃ decision ∈ given.ownerDecision, decision.vetoed) := by
    push Not
    exact ⟨standing, by simpa using unvetoed⟩
  unfold evaluatePromotion
  rw [if_neg (not_not.mpr classified), if_neg known, if_neg vetoed]
  by_cases money : given.proposal.realMoneyEnablement
  · rw [if_pos money]
  · obtain ⟨quiet, current, covered, dependent⟩ := reason.resolve_left money
    have troubled : ¬∃ incident ∈ given.relevantIncidents,
        incident.status.unresolved ∧ incidentRelevant incident given.proposal := by
      rintro ⟨incident, listed, unresolved, relevant⟩
      exact quiet incident listed relevant unresolved
    have uncovered : ¬∃ changeSet ∈ given.changeSet, ¬changeSet.covers given.proposal := by
      push Not
      exact covered
    rw [if_neg money, if_neg troubled, if_neg (not_not.mpr current), if_neg uncovered, if_pos dependent]

theorem evaluation_in_turn (turn : EvaluatedInTurn given)
    (classified : given.classification.proposalId = given.proposal.proposalId)
    (decided : ∀ decision ∈ given.ownerDecision, decision.proposalId = given.proposal.proposalId)
    (changed : evaluatePromotion given ≠ given.proposal.status) :
    evaluatePromotion given ∈ given.proposal.status.flow ++ ProposalStatus.universal ∧
      given.proposal.status ∉ [.vetoed, .rejected] := by
  have unvetoed : given.proposal.status ≠ .vetoed := by
    intro standing
    exact changed ((evaluatePromotion_standing classified decided standing).trans standing.symm)
  have unrejected : given.proposal.status ≠ .rejected := by
    intro rejected
    exact changed ((evaluatePromotion_again classified decided unvetoed (turn.1 rejected)).trans
      rejected.symm)
  refine ⟨?_, by simp [unvetoed, unrejected]⟩
  by_cases clear : Clear given
  · have turned := turn.2 unrejected clear
    have inFlow : ∀ result, evaluatePromotion given = result → given.proposal.status ∈ turns result →
        evaluatePromotion given ∈ given.proposal.status.flow ++ ProposalStatus.universal := by
      intro result same turn
      rcases flow_of_turn turn with still | ⟨flows, -⟩
      · exact absurd (same.trans still.symm) changed
      · exact same ▸ List.mem_append_left _ flows
    rcases evaluatePromotion_clear clear with ⟨reviewing, unmet⟩ | ⟨promoted, met, authorised⟩ |
      ⟨ready, met, unauthorised⟩
    · rw [if_pos fun none => unmet ((requirementsMet_eq_nil given).mp none)] at turned
      exact inFlow _ reviewing turned
    · rw [if_neg (not_not.mpr ((requirementsMet_eq_nil given).mpr met)), if_pos authorised] at turned
      exact inFlow _ promoted turned
    · rw [if_neg (not_not.mpr ((requirementsMet_eq_nil given).mpr met)), if_neg unauthorised] at turned
      exact inFlow _ ready turned
  · have closed : evaluatePromotion given ∈ failedClosed := by
      by_contra past
      exact clear (clear_of_evaluation past)
    apply List.mem_append_right
    revert closed
    generalize evaluatePromotion given = result
    cases result <;> decide

theorem Edits.in_turn (edits : Edits deployment state row call edit)
    (found : state.findProposal row.proposalId = some row) (about : AboutItself row)
    (turn : InTurn deployment state call) (changed : (edit.apply row).status ≠ row.status) :
    (edit.apply row).status ∈ row.status.flow ++ ProposalStatus.universal ∧
      row.status ∉ [.vetoed, .rejected] := by
  have inFlow : ∀ result, (edit.apply row).status = result → row.status ∈ turns result →
      (edit.apply row).status ∈ row.status.flow ++ ProposalStatus.universal ∧
        row.status ∉ [.vetoed, .rejected] := by
    intro result same turn
    rcases flow_of_turn turn with still | ⟨flows, opened⟩
    · exact absurd (same.trans still.symm) changed
    · exact ⟨same ▸ List.mem_append_left _ flows, opened⟩
  cases edits with
  | classify named => exact inFlow _ rfl (turn row (named ▸ found))
  | recordReview named => exact inFlow _ rfl (turn row (named ▸ found))
  | recordSynthesis named => exact inFlow _ rfl (turn row (named ▸ found))
  | @recordLifecycle _ _ _ lifecycle _ _ _ named =>
    have turned := turn row (named ▸ found)
    by_cases failed : lifecycle.hasFailure
    · rw [if_pos failed] at turned
      have frozen : (ProposalEdit.apply (.lifecycle lifecycle) row).status = .frozen := if_pos failed
      rw [frozen]
      exact ⟨List.mem_append_right _ (by decide), turned⟩
    · rw [if_neg failed] at turned
      exact inFlow _ rfl turned
  | queueOwnerNotification | recordOwnerDelivery => exact absurd rfl changed
  | @decide _ _ _ _ _ _ _ _ decision named _ _ _ vetoed =>
    by_cases veto : decision.vetoed
    · have decided : (ProposalEdit.apply (.decided decision) row).status = .vetoed := if_pos veto
      obtain rfl := vetoed.mp veto
      have unrejected := turn row (named ▸ found)
      rw [decided] at changed ⊢
      exact ⟨List.mem_append_right _ (by decide), by simp [changed.symm, unrejected]⟩
    · exact absurd (if_neg veto) changed
  | @evaluate _ _ _ _ _ _ _ classification snapshot changeSet named classified current grouped =>
    have turned := turn row (named ▸ found) classification classified snapshot
      (by rw [current]; rfl) changeSet (by rw [grouped]; rfl)
    exact evaluation_in_turn turned (about.classification classification classified) about.decision changed

def GovernanceAnswer.evaluation : GovernanceAnswer → Option ProposalStatus
  | .status result => some result
  | _ => none

theorem evaluation_of_answer
    (ok : evaluate deployment readings state actor proposalId expectedVersion operationKey policyVersion
      changeSetId = .ok (answered, after)) (found : state.findProposal proposalId = some row) :
    ∃ classification snapshot changeSet, row.classification = some classification ∧
      state.currentSnapshot row.proposal = .ok snapshot ∧
      state.namedChangeSet deployment changeSetId = .ok changeSet ∧
      answered = .status (evaluatePromotion
        (state.promotionCase readings row classification snapshot changeSet)) := by
  simp only [evaluate, Identity.requires, bind_ok, expect_ok, guard_ok, Prod.exists, pair_ok] at ok
  obtain ⟨-, _, found', classification, classified, changeSet, grouped, snapshot, current, -, -, -,
    -, -, -, -, rfl, -⟩ := ok
  rw [found] at found'
  cases found'
  exact ⟨classification, snapshot, changeSet, classified, current, grouped, rfl⟩

theorem evaluate_answered
    (ok : evaluate deployment readings state actor proposalId expectedVersion operationKey policyVersion
      changeSetId = .ok (answered, after)) (found : state.findProposal proposalId = some row)
    (classified : row.classification = some classification)
    (current : state.currentSnapshot row.proposal = .ok snapshot)
    (grouped : state.namedChangeSet deployment changeSetId = .ok changeSet) :
    answered = .status (evaluatePromotion
      (state.promotionCase readings row classification snapshot changeSet)) := by
  obtain ⟨_, _, _, classified', current', grouped', said⟩ :=
    evaluation_of_answer ok found
  obtain rfl := Option.some.inj (classified.symm.trans classified')
  obtain rfl := Except.ok.inj (current.symm.trans current')
  obtain rfl := Except.ok.inj (grouped.symm.trans grouped')
  exact said

theorem changed_by_edit {now : ProposalRow}
    (ok : answer deployment state call = .ok (answered, after))
    (found : state.findProposal proposalId = some row)
    (found' : after.findProposal proposalId = some now) (changed : now ≠ row) :
    ∃ between edit, Aside state between ∧ Edits deployment between row call edit ∧
      now = edit.apply row ∧ ((∃ proposalId expectedVersion operationKey policyVersion changeSetId,
        call.request = .evaluate proposalId expectedVersion operationKey policyVersion changeSetId) →
          between = state) := by
  have written : ∀ between, Aside state between → ProposalWrite deployment between call after →
      ∃ edit, Edits deployment between row call edit ∧ now = edit.apply row := by
    intro between aside write
    rcases write.kept ((aside.findProposal proposalId).trans found) with same | ⟨edit, edits, edited⟩
    · rw [found'] at same
      cases same
      exact absurd rfl changed
    · rw [found'] at edited
      cases edited
      exact ⟨edit, edits, rfl⟩
  by_cases evaluating : ∃ proposalId expectedVersion operationKey policyVersion changeSetId,
      call.request = .evaluate proposalId expectedVersion operationKey policyVersion changeSetId
  · obtain ⟨_, _, _⟩ := call
    obtain ⟨_, _, _, _, _, rfl⟩ := evaluating
    obtain ⟨edit, edits, same⟩ := written state (.refl state) (evaluate_ok ok)
    exact ⟨state, edit, .refl state, edits, same, fun _ => rfl⟩
  · have unchanged : after.findProposal proposalId = state.findProposal proposalId → False := by
      intro same
      rw [found', found] at same
      cases same
      exact changed rfl
    cases effect_of_answer ok with
    | aside aside => exact (unchanged (aside.findProposal proposalId)).elim
    | policies write => exact (unchanged (by rw [write.frame]; rfl)).elim
    | incidents aside write =>
      refine (unchanged ?_).elim
      rw [write.frame]
      exact aside.findProposal proposalId
    | proposals aside write =>
      obtain ⟨edit, edits, same⟩ := written _ aside write
      exact ⟨_, edit, aside, edits, same, fun evaluates => absurd evaluates evaluating⟩

theorem InTurn.aside (turn : InTurn deployment state call) (aside : Aside state between)
    (evaluating : (∃ proposalId expectedVersion operationKey policyVersion changeSetId,
      call.request = .evaluate proposalId expectedVersion operationKey policyVersion changeSetId) →
        between = state) : InTurn deployment between call := by
  have lookup := aside.findProposal
  obtain ⟨_, _, request⟩ := call
  cases request with
  | evaluate =>
    obtain rfl := evaluating ⟨_, _, _, _, _, rfl⟩
    exact turn
  | classify | recordReview | recordLifecycle | recordSynthesis =>
    simpa only [InTurn, lookup] using turn
  | decide _ verdict =>
    cases verdict with
    | approve => trivial
    | veto => simpa only [InTurn, lookup] using turn
  | _ => trivial

/-- A change of status that is in order: `transitionProposal` accepts it with what the call
was answered, the proposal was not over, and a PROMOTED one is not reviewed again. -/
structure InOrder (before after : ProposalRow) (evaluation : Option ProposalStatus) : Prop where
  accepted : Accepts before after.status evaluation
  opened : before.status ∉ [.vetoed, .rejected]
  forward : before.status = .promoted → after.status ∉
    [.proposed, .classified, .reviewing, .replayed, .tested, .shadow, .canary, .ready]

theorem aboutItself_history (calls : List GovernanceCall)
    (found : (history deployment calls).findProposal proposalId = some row) : AboutItself row :=
  rows_preserved AboutItself
    (fun _ => ⟨nofun, nofun⟩)
    (fun _ _ _ _ edits about => about.edited edits) calls proposalId row found

theorem Edits.promotes (edits : Edits deployment state row call edit)
    (changed : (edit.apply row).status ≠ row.status)
    (promoted : (edit.apply row).status = .promoted) :
    ∃ proposalId expectedVersion operationKey policyVersion changeSetId,
      call.request = .evaluate proposalId expectedVersion operationKey policyVersion changeSetId := by
  cases edits with
  | evaluate => exact ⟨_, _, _, _, _, rfl⟩
  | classify | recordReview | recordSynthesis => cases promoted
  | recordLifecycle => exact absurd promoted (stage_unpromoted _)
  | queueOwnerNotification | recordOwnerDelivery => exact absurd rfl changed
  | @decide _ _ _ _ _ _ _ _ decision =>
    by_cases veto : decision.vetoed
    · have decided : (ProposalEdit.apply (.decided decision) row).status = .vetoed := if_pos veto
      rw [decided] at promoted
      cases promoted
    · exact absurd (if_neg veto) changed

/-- When every answered operation on a proposal comes in its turn, each change of its status
is in order. -/
theorem status_changes_in_order (calls : List GovernanceCall) (call : GovernanceCall)
    (turns : Along (answer deployment) (WhenAnswered (answer deployment) (InTurn deployment)) .empty
      (calls ++ [call]))
    (proposalId : String) (before after : ProposalRow)
    (found : (history deployment calls).findProposal proposalId = some before)
    (found' : (history deployment (calls ++ [call])).findProposal proposalId = some after)
    (changed : after.status ≠ before.status) :
    InOrder before after ((reply (answer deployment) (history deployment calls) call).toOption.bind
      GovernanceAnswer.evaluation) := by
  have turn := (along_append.mp turns).2.1
  rw [history_append] at found'
  cases answered : answer deployment (history deployment calls) call with
  | error =>
    rw [next_of_error answered, found] at found'
    cases found'
    exact absurd rfl changed
  | ok pair =>
    obtain ⟨given, state⟩ := pair
    have admissible := turn given state answered
    rw [next_of_ok answered] at found'
    obtain ⟨between, edit, aside, edits, rfl, evaluating⟩ := changed_by_edit answered found found'
      fun same => changed (by rw [same])
    have present : between.findProposal before.proposalId = some before := by
      rw [aside.findProposal, KeyedRows.find_key found]
      exact found
    obtain ⟨flows, opened⟩ := edits.in_turn present (aboutItself_history calls found)
      (admissible.aside aside evaluating) changed
    rw [reply_of_ok answered]
    refine ⟨accepts_iff.mpr ⟨flows, fun promoted => ?_⟩, opened, fun was => ?_⟩
    · obtain ⟨_, _, _, _, _, evaluates⟩ := edits.promotes changed promoted
      obtain rfl := evaluating ⟨_, _, _, _, _, evaluates⟩
      cases edits with
      | evaluate named classified current grouped =>
        rw [evaluate_answered answered (named ▸ present) classified current grouped]
        exact congrArg some promoted
      | _ => cases evaluates
    · rw [was] at flows
      revert flows
      generalize (edit.apply before).status = result
      cases result <;> decide

namespace Small

def policy : GovernancePolicy := ⟨"policy", "1", "hash", []⟩

def policyFields : Fields :=
  [("policy_id", .text "policy"), ("policy_version", .text "1"), ("content_hash", .text "hash")]

def ruled : List GovernanceCall :=
  [made 18 governance (.putArtifact policyFields "governance/policy-version/v1" .internal "v1"),
    made 19 governance (.registerPolicy policy (provenance 0 governance policyFields) "register" true)]

def classified : GovernanceCall := made 21 governance (.classify "GP-1" policy 1 "classify")

def replayed : GovernanceCall :=
  made 22 governance (.recordLifecycle "GP-1" .empty 2 "lifecycle" "v1")

def rowAfter (calls : List GovernanceCall) : Option ProposalRow :=
  (history Small.deployment calls).findProposal "GP-1"

end Small

open Governance.Small

theorem status_changes_in_order_classified :
    InOrder ((rowAfter (ruled ++ [proposed])).get (by decide +kernel))
      ((rowAfter (ruled ++ [proposed, classified])).get (by decide +kernel))
      ((reply (answer Small.deployment) (history Small.deployment (ruled ++ [proposed]))
        classified).toOption.bind GovernanceAnswer.evaluation) :=
  status_changes_in_order (ruled ++ [proposed]) classified (by decide +kernel) "GP-1" _ _
    (Option.some_get _).symm (Option.some_get _).symm (by decide +kernel)

/-- Lifecycle evidence takes a proposal out of VETOED, which no transition leads to. -/
theorem status_changes_out_of_order :
    (rowAfter [proposed, Small.vetoed]).map ProposalRow.status = some .vetoed ∧
      (rowAfter [proposed, Small.vetoed, replayed]).map ProposalRow.status = some .replayed ∧
      ProposalStatus.replayed ∉ ProposalStatus.vetoed.flow ++ ProposalStatus.universal := by
  decide +kernel

end Liki.Governance
