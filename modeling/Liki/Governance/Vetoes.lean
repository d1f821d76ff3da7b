import Liki.Governance.Effects
import Liki.Governance.Promotion

/-! The owner's veto. A decision is recorded once and stays with its proposal, and the
evaluation looks at it before anything that could promote, so a vetoed proposal is never
PROMOTED again, whatever is recorded about it later. -/
namespace Liki.Governance
open Checks GovernanceState CallSystem

variable {deployment : Deployment} {state between after : GovernanceState} {call : GovernanceCall}
  {row : ProposalRow} {edit : ProposalEdit} {proposalId : String}

structure AboutItself (row : ProposalRow) : Prop where
  classification : ∀ classification ∈ row.classification, classification.proposalId = row.proposalId
  decision : ∀ decision ∈ row.ownerDecision, decision.proposalId = row.proposalId

theorem AboutItself.edited (about : AboutItself row) (edits : Edits deployment state row call edit) :
    AboutItself (edit.apply row) := by
  cases edits with
  | classify _ classified =>
    refine ⟨fun classification same => ?_, about.decision⟩
    cases same
    simp only [classifyProposal, bind_ok, guard_ok, pure_ok] at classified
    obtain ⟨-, rfl⟩ := classified
    rfl
  | decide named _ _ decided =>
    refine ⟨about.classification, fun decision same => ?_⟩
    cases same
    rw [decided, ProposalEdit.apply_proposalId, named]
  | recordReview | recordLifecycle | recordSynthesis | queueOwnerNotification | recordOwnerDelivery
  | evaluate => exact ⟨about.classification, about.decision⟩

theorem Edits.decision (edits : Edits deployment state row call edit) {decision : OwnerDecision}
    (made : row.ownerDecision = some decision) : (edit.apply row).ownerDecision = some decision := by
  cases edits with
  | decide _ _ first =>
    rw [first] at made
    cases made
  | classify | recordReview | recordLifecycle | recordSynthesis | queueOwnerNotification
  | recordOwnerDelivery | evaluate => exact made

def ProposalRow.vetoed (row : ProposalRow) : Prop := ∃ decision ∈ row.ownerDecision, decision.vetoed

theorem evaluatePromotion_vetoed (vetoed : ∃ decision ∈ given.ownerDecision, decision.vetoed) :
    evaluatePromotion given ≠ .promoted := by
  intro promoted
  obtain ⟨decision, recorded, veto⟩ := vetoed
  exact (evaluatePromotion_promoted.mp promoted).1.unvetoed decision recorded veto

theorem stage_unpromoted (lifecycle : LifecycleEvidence) : lifecycle.stage ≠ .promoted := by
  unfold LifecycleEvidence.stage
  split_ifs <;> decide

theorem Edits.unpromoted (edits : Edits deployment state row call edit)
    (kept : row.vetoed → row.status ≠ .promoted) :
    (edit.apply row).vetoed → (edit.apply row).status ≠ .promoted := by
  cases edits with
  | classify | recordReview | recordSynthesis => exact fun _ => nofun
  | recordLifecycle => exact fun _ => stage_unpromoted _
  | queueOwnerNotification | recordOwnerDelivery => exact kept
  | @decide _ _ _ _ _ _ _ _ decision =>
    rintro ⟨_, same, veto⟩ promoted
    cases same
    change decidedStatus decision row = .promoted at promoted
    rw [decidedStatus, if_pos veto] at promoted
    cases promoted
  | evaluate =>
    exact fun vetoed promoted => absurd promoted (evaluatePromotion_vetoed vetoed)

def VetoesRecorded (state : GovernanceState) : Prop :=
  ∀ event ∈ state.store.events, event.request.kind = "governance_proposal" →
    event.request.eventType = "OWNER_VETO" →
      ∃ row, state.findProposal event.request.aggregateId = some row ∧ row.vetoed

theorem VetoesRecorded.quiet (kept : VetoesRecorded state)
    (quiet : Quiet "governance_proposal" state after)
    (rows : ∀ proposalId, after.findProposal proposalId = state.findProposal proposalId) :
    VetoesRecorded after := by
  obtain ⟨_, events, others⟩ := quiet.events
  intro event member kind vetoed
  rw [events] at member
  rw [rows]
  rcases List.mem_append.mp member with older | newer
  · exact kept event older kind vetoed
  · exact absurd kind (others event newer)

theorem ProposalEdit.vetoes {edit : ProposalEdit} (typed : edit.eventType = "OWNER_VETO") :
    ∃ decision, edit = .decided decision ∧ decision.vetoed := by
  cases edit with
  | decided decision =>
    refine ⟨decision, rfl, ?_⟩
    by_contra approved
    rw [eventType, if_neg approved] at typed
    exact absurd typed (by decide)
  | classified | reviewed | lifecycle | synthesized | queued | delivered | evaluated =>
    exact absurd typed (by simp [eventType])

theorem VetoesRecorded.write (kept : VetoesRecorded state)
    (write : ProposalWrite deployment state call after) : VetoesRecorded after := by
  have standing : ∀ proposalId row, state.findProposal proposalId = some row → row.vetoed →
      ∃ now, after.findProposal proposalId = some now ∧ now.vetoed := by
    rintro proposalId row found ⟨decision, made, veto⟩
    rcases write.kept found with same | ⟨_, edits, edited⟩
    · exact ⟨row, same, decision, made, veto⟩
    · exact ⟨_, edited, decision, edits.decision made, veto⟩
  intro event member kind vetoed
  by_cases older : event ∈ state.store.events
  · obtain ⟨row, found, veto⟩ := kept event older kind vetoed
    exact standing _ row found veto
  · rcases write.events with same | ⟨request, -, events, source⟩
    · exact absurd (same ▸ member) older
    · rw [events] at member
      have newest : event = ⟨call.operationKey, request⟩ := by
        simpa [older] using List.mem_append.mp member
      subst newest
      cases source with
      | proposed _ _ eventType =>
        rw [eventType] at vetoed
        exact absurd vetoed (by decide)
      | edited _ _ requested written =>
        rw [requested.eventType] at vetoed
        obtain ⟨decision, rfl, veto⟩ := ProposalEdit.vetoes vetoed
        rw [requested.aggregateId]
        exact ⟨_, written, decision, rfl, veto⟩

theorem VetoesRecorded.effect (kept : VetoesRecorded state) (effect : Effect deployment state call after) :
    VetoesRecorded after := by
  have aside : ∀ {between}, Aside state between → VetoesRecorded between := fun aside =>
    kept.quiet (aside.quiet (by simp [ruledKinds])) aside.findProposal
  cases effect with
  | aside stepped => exact aside stepped
  | policies write =>
    exact kept.quiet (write.quiet (by decide)) fun _ => by rw [write.frame]; rfl
  | incidents stepped write =>
    exact (aside stepped).quiet (write.quiet (by decide)) fun _ => by rw [write.frame]; rfl
  | proposals stepped write => exact (aside stepped).write write

theorem vetoesRecorded_history (deployment : Deployment) (calls : List GovernanceCall) :
    VetoesRecorded (history deployment calls) :=
  run_preserves VetoesRecorded (by simp [VetoesRecorded, GovernanceState.empty, Store.empty])
    (fun _ _ kept => next_of_answered VetoesRecorded kept
      fun _ _ ok => kept.effect (effect_of_answer ok)) calls

/-- An evaluation promotes only what is clear, complete and authorised, and once the
owner's veto is in the log the proposal is never PROMOTED again. -/
theorem promoted_only_when_eligible :
    (∀ given, evaluatePromotion given = .promoted → Clear given ∧ Requirements given ∧ Authorised given) ∧
      ∀ (deployment : Deployment) (calls : List GovernanceCall),
        ∀ event ∈ (history deployment calls).store.events, event.request.kind = "governance_proposal" →
          event.request.eventType = "OWNER_VETO" →
            ∃ row, (history deployment calls).findProposal event.request.aggregateId = some row ∧
              row.vetoed ∧ row.status ≠ .promoted := by
  refine ⟨fun given => evaluatePromotion_promoted.mp, fun deployment calls event member kind vetoed => ?_⟩
  obtain ⟨row, found, veto⟩ := vetoesRecorded_history deployment calls event member kind vetoed
  refine ⟨row, found, veto, ?_⟩
  exact rows_preserved (fun row => row.vetoed → row.status ≠ .promoted)
    (fun proposal => by rintro ⟨decision, made, -⟩; cases made)
    (fun state row call edit edits => edits.unpromoted) calls _ row found veto

namespace Small

def proposed : GovernanceCall := made 20 owner (.propose change "propose" "v1")

def vetoed : GovernanceCall := made 21 owner (.decide "GP-1" .veto "unsafe" 1 "veto" "v1")

def vetoEvent : GovernanceEvent :=
  ⟨"veto", proposalRequest owner "GP-1" 1 (.proposal .vetoed none) "OWNER_VETO" "v1" [0]
    (some (.decided "unsafe" 1 "v1" 1))⟩

end Small

open Governance.Small

theorem promoted_only_when_eligible_vetoed :
    (Clear (promotable supported) ∧ Requirements (promotable supported) ∧
      Authorised (promotable supported)) ∧
      ∃ row, (history Small.deployment [proposed, Small.vetoed]).findProposal "GP-1" = some row ∧
        row.vetoed ∧ row.status ≠ .promoted :=
  ⟨promoted_only_when_eligible.1 (promotable supported) (by decide +kernel),
    promoted_only_when_eligible.2 Small.deployment [proposed, Small.vetoed] vetoEvent (by decide +kernel)
      rfl rfl⟩

end Liki.Governance
