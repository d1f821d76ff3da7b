import Liki.Governance.StatusFlow
import Liki.Library.EventLog

/-! The owner's approval of a RED change. The owner decides once and names no evidence,
while the evidence may be replaced before and after. A promotion looks at neither the time
of the decision nor the log, so what the approval has seen is up to the order of the
calls. -/
namespace Liki.Governance
open Checks GovernanceState CallSystem EventLog KeyedRows

variable {deployment : Deployment} {state between after : GovernanceState} {call : GovernanceCall}
  {row : ProposalRow} {edit : ProposalEdit} {lifecycle : LifecycleEvidence} {proposalId : String}
  {log more : List GovernanceEvent}

def LifecycleEvidence.Complete (lifecycle : LifecycleEvidence) : Prop :=
  lifecycle.replay ≠ [] ∧ lifecycle.tests ≠ [] ∧ lifecycle.shadow ≠ [] ∧ lifecycle.canary ≠ [] ∧
    ¬lifecycle.hasFailure

instance (lifecycle : LifecycleEvidence) : Decidable lifecycle.Complete :=
  inferInstanceAs (Decidable (_ ∧ _))

def ProposalRow.red (row : ProposalRow) : Prop :=
  ∃ classification ∈ row.classification, classification.finalClass = .red

def ProposalRow.approved (row : ProposalRow) : Prop :=
  ∃ decision ∈ row.ownerDecision, decision.approved

instance (row : ProposalRow) : Decidable row.red :=
  inferInstanceAs (Decidable (∃ classification ∈ row.classification, _))

instance (row : ProposalRow) : Decidable row.approved :=
  inferInstanceAs (Decidable (∃ decision ∈ row.ownerDecision, _))

def Records (proposalId : String) (lifecycle : LifecycleEvidence) (event : GovernanceEvent) : Prop :=
  event.request.kind = "governance_proposal" ∧ event.request.aggregateId = proposalId ∧
    event.request.eventType = "GOVERNANCE_LIFECYCLE_EVIDENCE" ∧
    event.request.metadata = some (.lifecycle lifecycle)

def Approves (proposalId : String) (event : GovernanceEvent) : Prop :=
  event.request.kind = "governance_proposal" ∧ event.request.aggregateId = proposalId ∧
    event.request.eventType = "OWNER_APPROVE"

instance (proposalId : String) (lifecycle : LifecycleEvidence) :
    DecidablePred (Records proposalId lifecycle) := fun _ => inferInstanceAs (Decidable (_ ∧ _))

instance (proposalId : String) : DecidablePred (Approves proposalId) := fun _ =>
  inferInstanceAs (Decidable (_ ∧ _))

def Seen (log : List GovernanceEvent) (row : ProposalRow) (lifecycle : LifecycleEvidence) : Prop :=
  (∀ decision ∈ row.ownerDecision, ∀ check ∈ lifecycle.checks, check.executedAt < decision.decidedAt) ∧
    Precedes (Records row.proposalId lifecycle) (Approves row.proposalId) log

instance (log : List GovernanceEvent) (row : ProposalRow) (lifecycle : LifecycleEvidence) :
    Decidable (Seen log row lifecycle) :=
  inferInstanceAs (Decidable (_ ∧ _))

def EvidenceFirst (state : GovernanceState) (call : GovernanceCall) : Prop :=
  match call.request with
  | .decide proposalId .approve _ _ _ _ =>
    ∀ row ∈ state.findProposal proposalId, row.red → row.ownerDecision = none →
      row.lifecycle.Complete → ∀ check ∈ row.lifecycle.checks, check.executedAt < call.readings.now
  | .recordLifecycle proposalId lifecycle _ _ _ =>
    ∀ row ∈ state.findProposal proposalId, row.red → row.approved → lifecycle.Complete →
      Seen state.store.events row lifecycle
  | .classify proposalId policy _ _ =>
    ∀ row ∈ state.findProposal proposalId,
      ∀ classification ∈ (classifyProposal row.proposal policy call.actor.principalId
        call.readings.now).toOption, classification.finalClass = .red → row.approved →
          row.lifecycle.Complete → Seen state.store.events row row.lifecycle
  | _ => True

instance (state : GovernanceState) (call : GovernanceCall) : Decidable (EvidenceFirst state call) := by
  obtain ⟨_, _, request⟩ := call
  induction request using GovernanceRequest.casesOn
  case decide _ verdict _ _ _ _ =>
    induction verdict using OwnerVerdict.casesOn <;> unfold EvidenceFirst <;> infer_instance
  all_goals
    unfold EvidenceFirst
    infer_instance

theorem Seen.append (seen : Seen log row lifecycle) : Seen (log ++ more) row lifecycle :=
  ⟨seen.1, seen.2.append⟩

structure Attested (log : List GovernanceEvent) (row : ProposalRow) : Prop where
  recorded : row.lifecycle = .empty ∨ ∃ event ∈ log, Records row.proposalId row.lifecycle event
  seen : row.red → row.approved → row.lifecycle.Complete → Seen log row row.lifecycle

theorem Attested.append (attested : Attested log row) : Attested (log ++ more) row where
  recorded := attested.recorded.imp id fun ⟨event, member, records⟩ =>
    ⟨event, List.mem_append_left _ member, records⟩
  seen red approved complete := (attested.seen red approved complete).append

theorem Attested.kept {now : ProposalRow} (attested : Attested log row)
    (named : now.proposalId = row.proposalId) (same : now.lifecycle = row.lifecycle)
    (decided : now.ownerDecision = row.ownerDecision) (red : now.red → row.red) : Attested log now := by
  constructor
  · rw [same, named]
    exact attested.recorded
  · intro classified approved complete
    unfold ProposalRow.approved at approved
    rw [decided] at approved
    rw [same] at complete
    have seen := attested.seen (red classified) approved complete
    unfold Seen
    rw [decided, same, named]
    exact seen

theorem Edits.attested (edits : Edits deployment state row call edit)
    (first : EvidenceFirst state call) (found : state.findProposal row.proposalId = some row)
    (attested : Attested state.store.events row) (requested : EditRequest edit row request)
    (grown : after.store.events = state.store.events ++ more)
    (logged : ⟨call.operationKey, request⟩ ∈ after.store.events) :
    Attested after.store.events (edit.apply row) := by
  have still : Attested after.store.events row := grown ▸ attested.append
  cases edits with
  | recordReview | recordSynthesis | queueOwnerNotification | recordOwnerDelivery | evaluate =>
    exact still.kept rfl rfl rfl id
  | classify named classified =>
    refine ⟨still.recorded, fun red approved complete => ?_⟩
    obtain ⟨_, same, final⟩ := red
    cases same
    have seen : Seen state.store.events row row.lifecycle :=
      first row (named ▸ found) _ (by rw [classified]; rfl) final approved complete
    rw [grown]
    exact seen.append
  | recordLifecycle named =>
    refine ⟨.inr ⟨_, logged, requested.kind, requested.aggregateId, requested.eventType,
      requested.metadata _ rfl⟩, fun red approved complete => ?_⟩
    have seen := first row (named ▸ found) red approved complete
    rw [grown]
    exact seen.append
  | @decide _ _ _ verdict _ _ operationKey _ decision named unused none _ vetoed now =>
    refine ⟨still.recorded, fun red approved complete => ?_⟩
    obtain ⟨made, same, approval⟩ := approved
    cases same
    have unvetoed : ¬decision.vetoed := by simpa [decision.one_decision] using approval
    cases verdict with
    | veto => exact absurd (vetoed.mpr rfl) unvetoed
    | approve =>
      have executed := first row (named ▸ found) red none complete
      refine ⟨fun made same check member => ?_, ?_⟩
      · cases same
        rw [now]
        exact executed check member
      · -- the key of a decision is new, so its event comes after every recording
        have fresh : ⟨operationKey, request⟩ ∉ state.store.events := fun older =>
          find_none.mp unused _ older rfl
        have typed : request.eventType = "OWNER_APPROVE" := by
          rw [requested.eventType, ProposalEdit.eventType, if_neg unvetoed]
          rfl
        have recorded : ∃ event ∈ state.store.events, Records row.proposalId row.lifecycle event := by
          refine attested.recorded.resolve_left fun empty => ?_
          have nonempty : row.lifecycle.replay ≠ [] := complete.1
          rw [empty] at nonempty
          exact nonempty rfl
        rw [grown] at logged ⊢
        exact precedes_of_mem recorded ⟨_, (List.mem_append.mp logged).resolve_left fresh,
          requested.kind, requested.aggregateId, typed⟩

theorem EvidenceFirst.aside (first : EvidenceFirst state call) (aside : Aside state between) :
    EvidenceFirst between call := by
  obtain ⟨_, grown, -⟩ := aside.events
  have lookup := aside.findProposal
  obtain ⟨_, _, request⟩ := call
  cases request with
  | recordLifecycle =>
    intro row found red approved complete
    rw [grown]
    exact (first row (lookup _ ▸ found) red approved complete).append
  | classify =>
    intro row found classification classified final approved complete
    rw [grown]
    exact (first row (lookup _ ▸ found) classification classified final approved complete).append
  | decide _ verdict =>
    cases verdict with
    | approve =>
      intro row found
      exact first row (lookup _ ▸ found)
    | veto => trivial
  | _ => trivial

def AllAttested (state : GovernanceState) : Prop :=
  ∀ proposalId row, state.findProposal proposalId = some row → Attested state.store.events row

theorem AllAttested.grown (all : AllAttested state)
    (rows : ∀ proposalId, after.findProposal proposalId = state.findProposal proposalId)
    (continues : Continues state after) : AllAttested after := by
  obtain ⟨_, events⟩ := continues
  intro proposalId row found
  rw [events]
  exact (all proposalId row (rows proposalId ▸ found)).append

theorem AllAttested.write (all : AllAttested state) (first : EvidenceFirst state call)
    (write : ProposalWrite deployment state call after) : AllAttested after := by
  intro proposalId row found
  have quiet : Quiet "incident" state after := write.quiet (by decide)
  obtain ⟨_, events⟩ := quiet.continues
  rcases write.row found with same | ⟨-, _, rfl⟩ | ⟨old, _, _, edits, present, rfl,
    requested, logged⟩
  · rw [events]
    exact (all proposalId row same).append
  · exact ⟨.inl rfl, fun red => nomatch red⟩
  · have named := find_key present
    exact edits.attested first (named ▸ present) (all proposalId old present) requested events logged

theorem AllAttested.effect (all : AllAttested state) (first : EvidenceFirst state call)
    (effect : Effect deployment state call after) : AllAttested after := by
  have aside : ∀ {between}, Aside state between → AllAttested between := fun stepped =>
    all.grown stepped.findProposal stepped.continues
  cases effect with
  | aside stepped => exact aside stepped
  | policies write =>
    have quiet : Quiet "governance_proposal" state after := write.quiet (by decide)
    exact all.grown (fun _ => by rw [write.frame]; rfl) quiet.continues
  | @incidents between _ stepped write =>
    have quiet : Quiet "governance_proposal" between after := write.quiet (by decide)
    exact (aside stepped).grown (fun _ => by rw [write.frame]; rfl) quiet.continues
  | proposals stepped write => exact (aside stepped).write (first.aside stepped) write

theorem red_promotion (promoted : evaluatePromotion given = .promoted)
    (red : given.classification.finalClass = .red) :
    given.lifecycle.Complete ∧ ∃ decision ∈ given.ownerDecision, decision.approved := by
  obtain ⟨-, requirements, authorised⟩ := evaluatePromotion_promoted.mp promoted
  obtain ⟨replay, shadow, canary⟩ := requirements.staged (by rw [red]; decide)
  refine ⟨⟨replay, requirements.tested, shadow, canary, fun failed => ?_⟩, authorised.approved red⟩
  obtain ⟨check, member, fails⟩ := hasFailure_iff.mp failed
  exact requirements.passing check member fails

/-- While the evidence comes first, an evaluation that answers PROMOTED for a RED proposal
has an approval from after every check of the evidence on record and from after that
evidence was recorded. -/
theorem red_promotion_approved_last (calls : List GovernanceCall)
    (first : Along (answer deployment) (WhenAnswered (answer deployment) EvidenceFirst) .empty calls)
    (readings : Readings) (actor : Identity) (proposalId : String) (expectedVersion : ℕ)
    (operationKey policyVersion : String) (changeSetId : Option String) (row : ProposalRow)
    (found : (history deployment calls).findProposal proposalId = some row) (red : row.red)
    (promoted : reply (answer deployment) (history deployment calls) ⟨readings, actor,
      .evaluate proposalId expectedVersion operationKey policyVersion changeSetId⟩ =
        .ok (.status .promoted)) :
    ∃ decision ∈ row.ownerDecision, decision.approved ∧
      (∀ check ∈ row.lifecycle.checks, check.executedAt < decision.decidedAt) ∧
        Precedes (Records proposalId row.lifecycle) (Approves proposalId)
          (history deployment calls).store.events := by
  have attested : AllAttested (history deployment calls) :=
    run_answered AllAttested (fun _ _ found => by cases found)
      (fun _ _ _ _ all admissible ok => all.effect admissible (effect_of_answer ok)) first
  obtain ⟨classification, _, _, classified, -, -, said⟩ :=
    evaluation_of_answer (ok_of_reply promoted) found
  have final : classification.finalClass = .red := by
    obtain ⟨_, same, final⟩ := red
    rw [classified] at same
    cases same
    exact final
  have evaluated := (GovernanceAnswer.status.inj said).symm
  obtain ⟨complete, decision, decided, approved⟩ := red_promotion evaluated final
  obtain ⟨executed, precedes⟩ :=
    (attested proposalId row found).seen red ⟨decision, decided, approved⟩ complete
  refine ⟨decision, decided, approved, executed decision decided, ?_⟩
  rw [find_key found] at precedes
  exact precedes

namespace Small

def manifestFields : Fields := [("evidence", .text "all")]

def checkFields : Fields :=
  [("check_id", .text "unit"), ("check_kind", .text "test"), ("result", .text "PASS"),
    ("executed_at_utc", .text "50")]

def stagedEvidence : LifecycleEvidence :=
  have check : AutomatedCheck := ⟨"unit", "test", .pass, provenance 2 evaluator checkFields, 50⟩
  ⟨[check], [check], [check], [check]⟩

def audit (number : String) : GovernanceReview :=
  { review number "gov" .support with
    profile := ⟨"domain", "family", number, "adversarial", "template", [], "tools", [], number⟩
    evidenceManifestHash := Small.deployment.contentHash manifestFields }

def audited : List GovernanceCall :=
  ruled ++ [made 20 governance
      (.putArtifact manifestFields "governance/evidence-manifest/v1" .internal "v1"),
    made 21 evaluator (.putArtifact checkFields "governance/automated-check-result/v1" .internal "v1"),
    made 22 owner (.propose { change with declaredClass := .red } "propose" "v1"),
    made 23 governance (.classify "GP-1" policy 1 "classify")] ++
  ["1", "2", "3", "4", "5", "6", "7"].mapIdx fun index number =>
    made (30 + index) governance (.recordReview (audit number)
      (provenance 1 governance manifestFields) (2 + index) ("review" ++ number) "v1")

def approved (now version : ℕ) : GovernanceCall :=
  made now owner (.decide "GP-1" .approve "agreed" version "approve" "v1")

def evidenced (now version : ℕ) : GovernanceCall :=
  made now governance (.recordLifecycle "GP-1" stagedEvidence version "evidence" "v1")

def synthesized : GovernanceCall :=
  made 70 ⟨"gov2", .governance⟩ (.recordSynthesis
    ⟨"GP-1", "gov2", provenance 1 governance manifestFields, []⟩ 11 "synthesize" "v1")

def evaluated : GovernanceCall := made 80 governance (.evaluate "GP-1" 12 "evaluate" "v1" none)

def evidenceApproved : List GovernanceCall :=
  audited ++ [evidenced 60 9, Small.approved 65 10, synthesized]

def approvedBlind : List GovernanceCall :=
  audited ++ [Small.approved 40 9, evidenced 60 10, synthesized]

end Small

open Governance.Small

theorem red_promotion_approved_last_audited :
    ∃ decision ∈ ((rowAfter evidenceApproved).get (by decide +kernel)).ownerDecision,
      decision.approved ∧
      (∀ check ∈ ((rowAfter evidenceApproved).get (by decide +kernel)).lifecycle.checks,
        check.executedAt < decision.decidedAt) ∧
      Precedes (Records "GP-1" ((rowAfter evidenceApproved).get (by decide +kernel)).lifecycle)
        (Approves "GP-1") (history Small.deployment evidenceApproved).store.events :=
  red_promotion_approved_last evidenceApproved (by decide +kernel) Small.evaluated.readings governance
    "GP-1" 12 "evaluate" "v1" none _ (Option.some_get _).symm (by decide +kernel) (by decide +kernel)

/-- An approval from before the evidence, and before the check of it ran, promotes it. -/
theorem red_promotion_unseen :
    reply (answer Small.deployment) (history Small.deployment approvedBlind) Small.evaluated =
        .ok (.status .promoted) ∧
      (∃ row ∈ rowAfter approvedBlind, row.red ∧ ∃ decision ∈ row.ownerDecision,
        ∃ check ∈ row.lifecycle.checks, decision.decidedAt < check.executedAt) ∧
      ¬Precedes (Records "GP-1" stagedEvidence) (Approves "GP-1")
        (history Small.deployment approvedBlind).store.events := by
  decide +kernel

end Liki.Governance
