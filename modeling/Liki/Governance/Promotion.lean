import Liki.Governance.Domain

/-! What an evaluation decides. Its early returns and the reasons of `requirementsMet`
come down to three groups of conditions: nothing makes it fail closed, the evidence is
complete, and the owner is behind it. Each status it returns stands for one way these
turn out. -/
namespace Liki.Governance

/-- Nothing makes an evaluation fail closed. -/
structure Clear (given : PromotionCase) : Prop where
  classified : given.classification.proposalId = given.proposal.proposalId
  decided : ∀ decision ∈ given.ownerDecision, decision.proposalId = given.proposal.proposalId
  standing : given.proposal.status ≠ .vetoed
  unvetoed : ∀ decision ∈ given.ownerDecision, ¬decision.vetoed
  paper : ¬given.proposal.realMoneyEnablement
  quiet : ∀ incident ∈ given.relevantIncidents, incidentRelevant incident given.proposal →
    ¬incident.status.unresolved
  current : given.proposal.approvalSnapshot.snapshotHash = given.currentSnapshot.snapshotHash
  covered : ∀ changeSet ∈ given.changeSet, changeSet.covers given.proposal
  independent : uniqueIndependence given.reviews
  unfailed : ∀ delivery ∈ given.ownerDelivery, ∀ check ∈ given.lifecycle.checks,
    check.result = .fail → check.executedAt < delivery.deliveredAt

/-- The evidence that a change of its class needs. -/
structure Requirements (given : PromotionCase) : Prop where
  reviewed : given.classification.finalClass.requiredReviews ≤ given.reviews.length
  own : ∀ review ∈ given.reviews, review.proposalId = given.proposal.proposalId
  others : ∀ review ∈ given.reviews, review.reviewerPrincipal ≠ given.proposal.authoredBy
  disclosed : (given.reviews.map GovernanceReview.correlationDomain).Nodup ∨
    ∃ synthesis ∈ given.synthesis, synthesis.residualCorrelationLimitations ≠ []
  tested : given.lifecycle.tests ≠ []
  passing : ∀ check ∈ given.lifecycle.checks, check.result ≠ .fail
  synthesized : given.classification.finalClass ≠ .green → separateSynthesis given
  staged : given.classification.finalClass ≠ .green → given.lifecycle.replay ≠ [] ∧
    given.lifecycle.shadow ≠ [] ∧ given.lifecycle.canary ≠ []
  auditedRed : given.classification.finalClass = .red →
    2 ≤ (given.reviews.filter GovernanceReview.adversarial).length
  auditedAmber : given.classification.finalClass = .amber →
    1 ≤ (given.reviews.filter GovernanceReview.adversarial).length
  settled : ∀ review ∈ given.reviews, ∀ objection ∈ review.materialObjections, ¬objection.unresolved

structure Delivered (given : PromotionCase) (delivery : OwnerDelivery) : Prop where
  complete : ∃ completed ∈ given.proposal.completeEvidenceAt, completed ≤ delivery.deliveredAt
  same : delivery.lifecycleSnapshot = given.lifecycle
  checked : ∀ check ∈ given.lifecycle.checks, check.executedAt ≤ delivery.deliveredAt
  waited : delivery.deliveredAt + day ≤ given.now

structure Authorised (given : PromotionCase) : Prop where
  approved : given.classification.finalClass = .red → ∃ decision ∈ given.ownerDecision, decision.approved
  notified : given.classification.finalClass ≠ .red → ∃ delivery ∈ given.ownerDelivery, Delivered given delivery

instance (given : PromotionCase) (delivery : OwnerDelivery) : Decidable (Delivered given delivery) :=
  decidable_of_iff
    ((∃ completed ∈ given.proposal.completeEvidenceAt, completed ≤ delivery.deliveredAt) ∧
      delivery.lifecycleSnapshot = given.lifecycle ∧
      (∀ check ∈ given.lifecycle.checks, check.executedAt ≤ delivery.deliveredAt) ∧
      delivery.deliveredAt + day ≤ given.now)
    ⟨fun ⟨complete, same, checked, waited⟩ => ⟨complete, same, checked, waited⟩,
      fun delivered => ⟨delivered.complete, delivered.same, delivered.checked, delivered.waited⟩⟩

instance (given : PromotionCase) : Decidable (Authorised given) :=
  decidable_of_iff
    ((given.classification.finalClass = .red → ∃ decision ∈ given.ownerDecision, decision.approved) ∧
      (given.classification.finalClass ≠ .red →
        ∃ delivery ∈ given.ownerDelivery, Delivered given delivery))
    ⟨fun ⟨approved, notified⟩ => ⟨approved, notified⟩,
      fun authorised => ⟨authorised.approved, authorised.notified⟩⟩

instance (given : PromotionCase) : Decidable (Clear given) :=
  decidable_of_iff
    (given.classification.proposalId = given.proposal.proposalId ∧
      (∀ decision ∈ given.ownerDecision, decision.proposalId = given.proposal.proposalId) ∧
      given.proposal.status ≠ .vetoed ∧ (∀ decision ∈ given.ownerDecision, ¬decision.vetoed) ∧
      ¬given.proposal.realMoneyEnablement ∧
      (∀ incident ∈ given.relevantIncidents, incidentRelevant incident given.proposal →
        ¬incident.status.unresolved) ∧
      given.proposal.approvalSnapshot.snapshotHash = given.currentSnapshot.snapshotHash ∧
      (∀ changeSet ∈ given.changeSet, changeSet.covers given.proposal) ∧
      uniqueIndependence given.reviews ∧
      ∀ delivery ∈ given.ownerDelivery, ∀ check ∈ given.lifecycle.checks,
        check.result = .fail → check.executedAt < delivery.deliveredAt)
    ⟨fun ⟨classified, decided, standing, unvetoed, paper, quiet, current, covered, independent, unfailed⟩ =>
        ⟨classified, decided, standing, unvetoed, paper, quiet, current, covered, independent, unfailed⟩,
      fun clear => ⟨clear.classified, clear.decided, clear.standing, clear.unvetoed, clear.paper,
        clear.quiet, clear.current, clear.covered, clear.independent, clear.unfailed⟩⟩

@[simp] theorem reasonIf_eq_nil {bad : Prop} [Decidable bad] : reasonIf bad reason = [] ↔ ¬bad := by
  unfold reasonIf
  split <;> simp_all

theorem hasFailure_iff {lifecycle : LifecycleEvidence} :
    lifecycle.hasFailure ↔ ∃ check ∈ lifecycle.checks, check.result = .fail := by
  simp [LifecycleEvidence.hasFailure]

/-- No reason against a promotion is left. -/
theorem requirementsMet_eq_nil (given : PromotionCase) : requirementsMet given = [] ↔ Requirements given := by
  simp only [requirementsMet, List.append_eq_nil_iff, reasonIf_eq_nil, hasFailure_iff, not_exists,
    not_and, not_not, not_lt, ne_eq, not_or]
  constructor
  · rintro ⟨⟨⟨⟨⟨⟨⟨⟨⟨⟨reviewed, own⟩, others⟩, disclosed⟩, tested⟩, passing⟩, synthesized⟩, staged⟩, red⟩,
      amber⟩, settled⟩
    refine ⟨reviewed, own, others, ?_, tested, passing, synthesized, ?_, red, amber, settled⟩
    · by_cases distinct : (given.reviews.map GovernanceReview.correlationDomain).Nodup
      · exact .inl distinct
      · exact .inr (by simpa using disclosed distinct)
    · intro larger
      obtain ⟨replay, -, shadow, canary⟩ := staged larger
      exact ⟨replay, shadow, canary⟩
  · intro met
    refine ⟨⟨⟨⟨⟨⟨⟨⟨⟨⟨met.reviewed, met.own⟩, met.others⟩, ?_⟩, met.tested⟩, met.passing⟩,
      met.synthesized⟩, ?_⟩, met.auditedRed⟩, met.auditedAmber⟩, met.settled⟩
    · intro shared
      simpa using met.disclosed.resolve_left shared
    · intro larger
      obtain ⟨replay, shadow, canary⟩ := met.staged larger
      exact ⟨replay, met.tested, shadow, canary⟩

def failedClosed : List ProposalStatus := [.rejected, .vetoed, .frozen, .staleApproval]

theorem past_return {bad : Prop} [Decidable bad] {result rest : ProposalStatus}
    (failing : result ∈ failedClosed) (past : (if bad then result else rest) ∉ failedClosed) :
    ¬bad ∧ rest ∉ failedClosed := by
  by_cases holds : bad
  · rw [if_pos holds] at past
    exact absurd failing past
  · rw [if_neg holds] at past
    exact ⟨holds, past⟩

theorem clear_of_evaluation (past : evaluatePromotion given ∉ failedClosed) : Clear given := by
  unfold evaluatePromotion at past
  obtain ⟨classified, past⟩ := past_return (by decide) past
  obtain ⟨decided, past⟩ := past_return (by decide) past
  obtain ⟨vetoed, past⟩ := past_return (by decide) past
  obtain ⟨money, past⟩ := past_return (by decide) past
  obtain ⟨troubled, past⟩ := past_return (by decide) past
  obtain ⟨stale, past⟩ := past_return (by decide) past
  obtain ⟨uncovered, past⟩ := past_return (by decide) past
  obtain ⟨dependent, past⟩ := past_return (by decide) past
  obtain ⟨failed, -⟩ := past_return (by decide) past
  push Not at classified decided vetoed troubled stale uncovered dependent failed
  exact ⟨classified, decided, vetoed.1, fun decision recorded => by simpa using vetoed.2 decision recorded,
    money, fun incident listed relevant unresolved => troubled incident listed unresolved relevant, stale,
    uncovered, dependent, failed⟩

/-- Past the early returns the reasons decide, and then the owner. -/
theorem evaluatePromotion_clear (clear : Clear given) :
    (evaluatePromotion given = .reviewing ∧ ¬Requirements given) ∨
      (evaluatePromotion given = .promoted ∧ Requirements given ∧ Authorised given) ∨
      (evaluatePromotion given = .ready ∧ Requirements given ∧ ¬Authorised given) := by
  have decided : ¬∃ decision ∈ given.ownerDecision, decision.proposalId ≠ given.proposal.proposalId := by
    push Not
    exact clear.decided
  have vetoed : ¬(given.proposal.status = .vetoed ∨ ∃ decision ∈ given.ownerDecision, decision.vetoed) := by
    push Not
    exact ⟨clear.standing, by simpa using clear.unvetoed⟩
  have troubled : ¬∃ incident ∈ given.relevantIncidents,
      incident.status.unresolved ∧ incidentRelevant incident given.proposal := by
    rintro ⟨incident, listed, unresolved, relevant⟩
    exact clear.quiet incident listed relevant unresolved
  have uncovered : ¬∃ changeSet ∈ given.changeSet, ¬changeSet.covers given.proposal := by
    push Not
    exact clear.covered
  have failed : ¬∃ delivery ∈ given.ownerDelivery, ∃ check ∈ given.lifecycle.checks,
      check.result = .fail ∧ delivery.deliveredAt ≤ check.executedAt := by
    push Not
    exact clear.unfailed
  unfold evaluatePromotion
  rw [if_neg (not_not.mpr clear.classified), if_neg decided, if_neg vetoed, if_neg clear.paper,
    if_neg troubled, if_neg (not_not.mpr clear.current), if_neg uncovered,
    if_neg (not_not.mpr clear.independent), if_neg failed]
  by_cases met : requirementsMet given = []
  · have requirements := (requirementsMet_eq_nil given).mp met
    rw [if_neg (not_not.mpr met)]
    by_cases red : given.classification.finalClass = .red
    · rw [if_pos red]
      by_cases approved : ∃ decision ∈ given.ownerDecision, decision.approved
      · exact .inr (.inl ⟨if_pos approved, requirements, fun _ => approved, fun other => absurd red other⟩)
      · exact .inr (.inr ⟨if_neg approved, requirements, fun owner => approved (owner.approved red)⟩)
    · rw [if_neg red]
      cases notified : given.ownerDelivery with
      | none =>
        refine .inr (.inr ⟨rfl, requirements, fun owner => ?_⟩)
        obtain ⟨delivery, recorded, -⟩ := owner.notified red
        rw [notified] at recorded
        cases recorded
      | some delivery =>
        by_cases delivered : Delivered given delivery
        · refine .inr (.inl ⟨?_, requirements, fun other => absurd other red, fun _ =>
            ⟨delivery, notified, delivered⟩⟩)
          have checked : ¬∃ check ∈ given.lifecycle.checks, delivery.deliveredAt < check.executedAt := by
            push Not
            exact delivered.checked
          dsimp only
          rw [if_neg (not_not.mpr delivered.complete), if_neg (not_not.mpr delivered.same), if_neg checked,
            if_neg (not_lt.mpr delivered.waited)]
        · refine .inr (.inr ⟨?_, requirements, fun owner => ?_⟩)
          · dsimp only
            split_ifs with complete other unchecked early
            · rfl
            · rfl
            · rfl
            · push Not at unchecked
              exact absurd ⟨complete, not_not.mp other, unchecked, not_lt.mp early⟩ delivered
            · rfl
          · obtain ⟨_, recorded, due⟩ := owner.notified red
            rw [notified] at recorded
            cases recorded
            exact delivered due
  · refine .inl ⟨if_pos met, fun requirements => met ?_⟩
    exact (requirementsMet_eq_nil given).mpr requirements

theorem evaluatePromotion_promoted :
    evaluatePromotion given = .promoted ↔ Clear given ∧ Requirements given ∧ Authorised given := by
  constructor
  · intro promoted
    have clear : Clear given := clear_of_evaluation (by rw [promoted]; decide)
    rcases evaluatePromotion_clear clear with ⟨reviewing, -⟩ | ⟨-, met⟩ | ⟨ready, -⟩
    · rw [promoted] at reviewing
      cases reviewing
    · exact ⟨clear, met⟩
    · rw [promoted] at ready
      cases ready
  · rintro ⟨clear, requirements, authorised⟩
    rcases evaluatePromotion_clear clear with ⟨-, unmet⟩ | ⟨promoted, -⟩ | ⟨-, -, unauthorised⟩
    · exact absurd requirements unmet
    · exact promoted
    · exact absurd authorised unauthorised

/-- The reviews come from as many groups and profiles as there are reviews, none of them the
author's, none about something else and none with an objection that stands. -/
structure Quorum (given : PromotionCase) (count : ℕ) : Prop where
  groups : count ≤ (given.reviews.map fun review => review.profile.independenceGroupId).toFinset.card
  fingerprints : count ≤
    (given.reviews.map fun review => review.profile.correlationFingerprint).toFinset.card
  own : ∀ review ∈ given.reviews, review.proposalId = given.proposal.proposalId
  others : ∀ review ∈ given.reviews, review.reviewerPrincipal ≠ given.proposal.authoredBy
  settled : ∀ review ∈ given.reviews, ∀ objection ∈ review.materialObjections,
    objection.disposition ∈ [.falsified, .acceptedRisk]

/-- A promotion rests on three, five or seven independent reviews, whatever their
verdicts. -/
theorem promoted_independent_reviews (given : PromotionCase) (promoted : evaluatePromotion given = .promoted) :
    Quorum given (match given.classification.finalClass with | .green => 3 | .amber => 5 | .red => 7) := by
  obtain ⟨clear, requirements, -⟩ := evaluatePromotion_promoted.mp promoted
  have enough : (match given.classification.finalClass with | .green => 3 | .amber => 5 | .red => 7) ≤
      given.reviews.length := by
    have reviewed := requirements.reviewed
    revert reviewed
    cases given.classification.finalClass <;> exact id
  obtain ⟨groups, fingerprints⟩ := clear.independent
  refine ⟨?_, ?_, requirements.own, requirements.others, ?_⟩
  · rw [List.toFinset_card_of_nodup groups, List.length_map]
    exact enough
  · rw [List.toFinset_card_of_nodup fingerprints, List.length_map]
    exact enough
  · intro review recorded objection raised
    have settled := requirements.settled review recorded objection raised
    revert settled
    unfold MaterialObjection.unresolved
    cases objection.disposition <;> decide

namespace Small

def change : GovernanceProposal where
  proposalId := "GP-1"
  proposalVersion := 1
  authoredBy := "own"
  declaredClass := .green
  affectedModules := []
  affectedPaths := []
  protectedControls := []
  evidence := []
  counterevidence := []
  realMoneyEnablement := false
  approvalSnapshot := ⟨[], [], []⟩
  status := .proposed
  completeEvidenceAt := some 5
  ownerNotificationDeliveredAt := none
  promotionEligibleAt := none

/-- A review of it with an independence group and a model version of its own. -/
def review (number principal : String) (verdict : ReviewVerdict) : GovernanceReview where
  councilReviewId := number
  proposalId := "GP-1"
  reviewerPrincipal := principal
  profile := ⟨"domain", "family", number, "mandate", "template", [], "tools", [], number⟩
  evidenceManifestHash := "manifest"
  inspectedEvidence := []
  verdict := verdict
  materialObjections := []

def passing : LifecycleEvidence where
  replay := []
  tests := [⟨"unit", "test", .pass, ⟨0, "", "eval", "env", "code", "INTERNAL"⟩, 4⟩]
  shadow := []
  canary := []

def promotable (reviews : List GovernanceReview) : PromotionCase where
  proposal := change
  classification := ⟨"GP-1", "policy", "1", "gov", .green, .green, [], "hash", 1, le_rfl⟩
  reviews := reviews
  lifecycle := passing
  currentSnapshot := ⟨[], [], []⟩
  now := 10 + day
  synthesis := none
  ownerDelivery := some ⟨"telegram", "NTF-1", "receipt", 10, passing⟩
  ownerDecision := none
  relevantIncidents := []
  changeSet := none

def supported : List GovernanceReview :=
  [review "1" "a" .support, review "2" "b" .support, review "3" "c" .support]

def rejected : List GovernanceReview :=
  [review "1" "a" .reject, review "2" "b" .reject, review "3" "c" .reject]

def padded : List GovernanceReview :=
  [review "1" "a" .support, review "2" "a" .support, review "3" "a" .support]

def supporters (given : PromotionCase) : List String :=
  ((given.reviews.filter fun review => review.verdict ≠ .reject).map
    GovernanceReview.reviewerPrincipal).dedup

end Small

open Governance.Small

theorem promoted_independent_reviews_green : Quorum (promotable supported) 3 :=
  promoted_independent_reviews (promotable supported) (by decide +kernel)

/-- Three rejections promote, and so do three reviews of one principal. -/
theorem promoted_without_distinct_supporters :
    (evaluatePromotion (promotable rejected) = .promoted ∧ supporters (promotable rejected) = []) ∧
      evaluatePromotion (promotable padded) = .promoted ∧ supporters (promotable padded) = ["a"] := by
  decide +kernel

end Liki.Governance
