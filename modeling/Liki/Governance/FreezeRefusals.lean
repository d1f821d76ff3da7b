import Liki.Governance.Calls

/-! What a promotion freeze refuses. The trigger looks at the new row alone, so it refuses a
promotion and also every other write to a row that is promoted already, and a return to an
earlier policy. A veto never writes a promoted row: it goes through as if nothing were
frozen. -/
namespace Liki.Governance
open Checks GovernanceState CallSystem Reliability

variable {deployment : Deployment} {readings : Readings} {state : GovernanceState} {actor : Identity}
  {call : GovernanceCall} {value : ArtifactProvenance} {capability : Capability}
  {operationKey proposalId policyVersion : String} {request : GovernanceTransition}
  {topic : Option String} {row : ProposalRow} {proposal : GovernanceProposal} {expectedVersion : ℕ}
  {incident : Incident} {changeSetId : Option String} {now : Time}
  {channel reason incidentId : String} {details : IncidentDetails} {toStatus : IncidentStatus}

def promotionFrozen : ServiceError := .constraint "PROMOTION_FROZEN"

def EvaluatesPromoted (readings : Readings) (state : GovernanceState) (row : ProposalRow) : Prop :=
  ∃ classification snapshot changeSet, row.classification = some classification ∧
    evaluatePromotion (state.promotionCase readings row classification snapshot changeSet) = .promoted

def Promotes (state : GovernanceState) (call : GovernanceCall) : Prop :=
  match call.request with
  | .registerPolicy policy _ _ effective =>
    effective = true ∧ state.findPolicy policy.policyId policy.policyVersion = none
  | .activatePolicy policyId policyVersion _ _ _ =>
    ∃ row, state.findPolicy policyId policyVersion = some row ∧ row.status = .draft
  | .propose proposal _ _ => proposal.status = .promoted ∧ state.findProposal proposal.proposalId = none
  | .evaluate proposalId _ _ _ _ => ∃ row, state.findProposal proposalId = some row ∧
      row.status ≠ .promoted ∧ EvaluatesPromoted call.readings state row
  | _ => False

def Rewrites (state : GovernanceState) (call : GovernanceCall) : Prop :=
  match call.request with
  | .registerPolicy policy _ _ effective =>
    effective = true ∧ state.findPolicy policy.policyId policy.policyVersion ≠ none
  | .propose proposal _ _ => proposal.status = .promoted ∧ state.findProposal proposal.proposalId ≠ none
  | .queueOwnerNotification proposalId _ _ _ _ _ | .recordOwnerDelivery proposalId _ _ _ _
  | .decide proposalId .approve _ _ _ _ | .evaluate proposalId _ _ _ _ =>
    ∃ row, state.findProposal proposalId = some row ∧ row.status = .promoted
  | _ => False

def GovernanceRequest.isRollback : GovernanceRequest → Prop
  | .rollbackPolicy _ _ _ _ => True
  | _ => False

@[simp] theorem artifact_unfrozen :
    state.artifact deployment value schemaName roles content ≠ .error promotionFrozen := by
  simp [artifact, bind_error, map_error, promotionFrozen]

@[simp] theorem verified_unfrozen : state.verified deployment value ≠ .error promotionFrozen := by
  simp [verified, map_error]

@[simp] theorem artifacts_unfrozen : state.artifacts deployment values ≠ .error promotionFrozen :=
  never_mapM fun _ _ => verified_unfrozen

@[simp] theorem recordedInstant_unfrozen :
    recordedInstant deployment content ≠ .error promotionFrozen := by
  unfold recordedInstant
  split <;> simp [promotionFrozen]

@[simp] theorem check_unfrozen {check : AutomatedCheck} :
    state.check deployment check ≠ .error promotionFrozen := by
  unfold GovernanceState.check
  refine Never.bind artifact_unfrozen fun row _ => Never.bind recordedInstant_unfrozen fun recorded _ => ?_
  cases recorded <;> simp [Never, map_error, promotionFrozen]

@[simp] theorem lifecycle_unfrozen {lifecycle : LifecycleEvidence} :
    state.lifecycle deployment lifecycle ≠ .error promotionFrozen :=
  never_mapM fun _ _ => check_unfrozen

@[simp] theorem requires_unfrozen : actor.requires capability ≠ .error promotionFrozen := by
  simp [Identity.requires, promotionFrozen]

@[simp] theorem transition_unfrozen :
    state.transition actor capability operationKey request topic ≠ .error promotionFrozen := by
  unfold GovernanceState.transition Store.transition
  refine Never.bind requires_unfrozen fun _ _ => Never.bind (never_guard (by simp [promotionFrozen]))
    fun _ _ => Never.bind ?_ fun _ _ => never_pure
  refine Never.bind requires_unfrozen fun _ _ => ?_
  refine Never.bind (never_guard (by simp [promotionFrozen])) fun _ _ => ?_
  split <;> simp [Never, promotionFrozen, bind_error, map_error]

@[simp] theorem notify_unfrozen :
    state.notify readings actor notification ≠ .error promotionFrozen := by
  unfold GovernanceState.notify
  refine Never.bind requires_unfrozen fun _ _ => ?_
  split
  · simp [Never, map_error, promotionFrozen]
  · refine Never.bind transition_unfrozen fun moved _ => ?_
    simp [Never, map_error, promotionFrozen]

theorem guardPromotionFreeze_error {row : GuardedRow} :
    state.guardPromotionFreeze row = .error promotionFrozen ↔ row.promoting ∧ state.promotionsFrozen := by
  rw [guardPromotionFreeze, refuseIf_error]
  simp [promotionFrozen]

theorem updateProposal_frozen {change : ProposalRow → ProposalRow}
    (refused : state.updateProposal actor row change = .error promotionFrozen) :
    (change row).status = .promoted := by
  simp only [updateProposal, bind_error, guardPromotionFreeze_error, restrictSafetyMutation,
    refuseIf_error, pure_error, and_false, exists_false, or_false] at refused
  rcases refused with guarded | ⟨-, -, restricted⟩
  · exact guarded.1
  · exact absurd restricted.2 (by simp [promotionFrozen])

theorem insertPolicy_frozen {row : PolicyRow}
    (refused : state.insertPolicy row = .error promotionFrozen) : row.status = .effective := by
  unfold insertPolicy at refused
  rcases bind_error.mp refused with guarded | ⟨-, -, later⟩
  · exact (guardPromotionFreeze_error.mp guarded).1
  · split at later
    · exact absurd later pure_error
    · rcases bind_error.mp later with absent | ⟨-, -, done⟩
      · exact absurd (refuseIf_error.mp absent).2 (by simp [promotionFrozen])
      · exact absurd done pure_error

theorem insertProposal_frozen (refused : state.insertProposal row = .error promotionFrozen) :
    row.status = .promoted := by
  unfold insertProposal at refused
  rcases bind_error.mp refused with guarded | ⟨-, -, later⟩
  · exact (guardPromotionFreeze_error.mp guarded).1
  · split at later <;> exact absurd later pure_error

@[simp] theorem domain_unfrozen : ServiceError.domain code ≠ promotionFrozen := by
  rintro ⟨⟩

@[simp] theorem value_unfrozen : ServiceError.value message ≠ promotionFrozen := by
  rintro ⟨⟩

@[simp] theorem constraint_unfrozen (other : column ≠ "PROMOTION_FROZEN") :
    ServiceError.constraint column ≠ promotionFrozen := by
  intro same
  cases same
  exact other rfl

@[simp] theorem namedChangeSet_unfrozen :
    state.namedChangeSet deployment changeSetId ≠ .error promotionFrozen := by
  unfold namedChangeSet
  split
  · rintro ⟨⟩
  · refine Never.bind (never_expect domain_unfrozen) fun changeSet _ => ?_
    refine Never.bind artifacts_unfrozen fun _ _ => ?_
    exact Never.bind (never_mapM fun _ _ => check_unfrozen) fun _ _ => never_pure

@[simp] theorem currentSnapshot_unfrozen :
    state.currentSnapshot proposal ≠ .error promotionFrozen := by
  unfold currentSnapshot
  refine Never.bind (never_mapM fun dependency _ => ?_) fun _ _ => never_pure
  exact Never.bind (never_expect domain_unfrozen) fun _ _ => never_pure

@[simp] theorem passingLifecycle_unfrozen :
    passingLifecycle deployment state proposalId row ≠ .error promotionFrozen := by
  simp [passingLifecycle, latestLifecycleEvent, bind_error, map_error]

@[simp] theorem insertOutcomes_unfrozen {outcomes : List LifecycleOutcome} :
    state.insertOutcomes outcomes ≠ .error promotionFrozen := by
  simp [insertOutcomes, map_error, promotionFrozen]

@[simp] theorem insertArtifact_unfrozen {artifact : Artifact ArtifactContent} :
    state.insertArtifact artifact ≠ .error promotionFrozen := by
  simp [insertArtifact, map_error, promotionFrozen]

theorem registerPolicy_frozen
    (refused : registerPolicy deployment state actor policy policyArtifact operationKey effective =
      .error promotionFrozen) : effective = true := by
  simp [registerPolicy, bind_error, map_error] at refused
  obtain ⟨-, -, _, _, -, -, inserted⟩ := refused
  have written := insertPolicy_frozen inserted
  cases effective
  · cases written
  · rfl

theorem activatePolicy_frozen
    (refused : activatePolicy state actor policyId policyVersion proposalId expectedVersion operationKey =
      .error promotionFrozen) :
    ∃ row, state.findPolicy policyId policyVersion = some row ∧ row.status = .draft := by
  simp [activatePolicy, bind_error, map_error] at refused
  obtain ⟨-, _, -, target, found, -⟩ := refused
  exact ⟨target, found⟩

theorem propose_frozen
    (refused : propose deployment state actor proposal operationKey policyVersion =
      .error promotionFrozen) : proposal.status = .promoted := by
  simp [propose, bind_error, map_error] at refused
  obtain ⟨-, -, _, -, _, _, -, inserted⟩ := refused
  exact insertProposal_frozen inserted

theorem classifyProposal_unfrozen :
    classifyProposal proposal policy classifiedBy now ≠ .error promotionFrozen := by
  simp [classifyProposal, map_error]

theorem classify_unfrozen :
    classify readings state actor proposalId policy expectedVersion operationKey ≠
      .error promotionFrozen := by
  intro refused
  simp [classify, requireEffectivePolicy, classifyProposal_unfrozen, bind_error, map_error] at refused
  obtain ⟨-, -, _, -, _, -, _, _, -, edited⟩ := refused
  cases updateProposal_frozen edited

theorem recordReview_unfrozen :
    recordReview deployment state actor review manifest expectedVersion operationKey policyVersion ≠
      .error promotionFrozen := by
  intro refused
  simp [recordReview, bind_error, map_error] at refused
  obtain ⟨-, -, _, -, -, -, -, _, -, _, _, -, edited⟩ := refused
  cases updateProposal_frozen edited

theorem recordLifecycle_unfrozen {lifecycle : LifecycleEvidence} :
    recordLifecycle deployment state actor proposalId lifecycle expectedVersion operationKey policyVersion ≠
      .error promotionFrozen := by
  intro refused
  simp [recordLifecycle, lifecycleChecks, bind_error, map_error] at refused
  obtain ⟨-, _, -, -, _, -, -, _, _, -, _, -, edited⟩ := refused
  have promoted : lifecycle.stage = .promoted := updateProposal_frozen edited
  unfold LifecycleEvidence.stage at promoted
  split_ifs at promoted

theorem recordSynthesis_unfrozen :
    recordSynthesis deployment state actor synthesis expectedVersion operationKey policyVersion ≠
      .error promotionFrozen := by
  intro refused
  simp [recordSynthesis, bind_error, map_error] at refused
  obtain ⟨-, _, -, -, _, -, _, _, -, edited⟩ := refused
  cases updateProposal_frozen edited

theorem queueOwnerNotification_frozen
    (refused : queueOwnerNotification deployment readings state actor proposalId channel package
      expectedVersion operationKey policyVersion = .error promotionFrozen) :
    ∃ row, state.findProposal proposalId = some row ∧ row.status = .promoted := by
  simp [queueOwnerNotification, ownerDeliveryService, bind_error, map_error] at refused
  obtain ⟨-, -, row, found, -, -, -, -, -, -, -, -, -, -, -, -, _, -, edited⟩ := refused
  exact ⟨row, found, updateProposal_frozen edited⟩

theorem recordOwnerDelivery_frozen
    (refused : recordOwnerDelivery deployment state actor proposalId channel expectedVersion operationKey
      policyVersion = .error promotionFrozen) :
    ∃ row, state.findProposal proposalId = some row ∧ row.status = .promoted := by
  simp [recordOwnerDelivery, ownerDeliveryService, bind_error, map_error] at refused
  obtain ⟨-, -, row, found, -, -, _, -, _, -, -, _, _, -, edited⟩ := refused
  exact ⟨row, found, updateProposal_frozen edited⟩

theorem decide_frozen
    (refused : decide deployment readings state actor proposalId verdict reason expectedVersion operationKey
      policyVersion = .error promotionFrozen) :
    verdict = .approve ∧ ∃ row, state.findProposal proposalId = some row ∧ row.status = .promoted := by
  simp only [decide, bind_error, requires_unfrozen, refuseIf_error, domain_unfrozen, and_false, false_or] at refused
  obtain ⟨-, -, -, -, -, -, refused⟩ := refused
  split at refused
  · simp [map_error, bind_error] at refused
  · simp [map_error, bind_error] at refused
    obtain ⟨row, found, -, _, _, -, _, _, -, edited⟩ := refused
    have promoted := updateProposal_frozen edited
    cases verdict with
    | approve => exact ⟨rfl, row, found, promoted⟩
    | veto => cases promoted

theorem evaluate_frozen
    (refused : evaluate deployment readings state actor proposalId expectedVersion operationKey policyVersion
      changeSetId = .error promotionFrozen) :
    ∃ row, state.findProposal proposalId = some row ∧ EvaluatesPromoted readings state row := by
  simp [evaluate, bind_error, map_error] at refused
  obtain ⟨-, row, found, classification, classified, changeSet, -, current, -, -, -, _, _, -,
    edited⟩ := refused
  exact ⟨row, found, classification, current, changeSet, classified, updateProposal_frozen edited⟩

theorem recordChangeSet_unfrozen :
    recordChangeSet deployment state actor changeSet expectedVersion operationKey policyVersion ≠
      .error promotionFrozen := by
  unfold recordChangeSet
  refine Never.bind requires_unfrozen fun _ _ => Never.bind artifacts_unfrozen fun _ _ => ?_
  refine Never.bind (never_mapM fun _ _ => check_unfrozen) fun _ _ => ?_
  refine Never.bind transition_unfrozen fun moved _ => ?_
  dsimp only
  split <;> exact never_pure

theorem insertIncidentEvent_unfrozen {eventId : ℕ} :
    state.insertIncidentEvent incidentId eventId ≠ .error promotionFrozen := by
  simp [insertIncidentEvent, map_error, promotionFrozen]

theorem insertIncident_unfrozen : state.insertIncident incident ≠ .error promotionFrozen := by
  simp [insertIncident, map_error, promotionFrozen]

theorem declareIncident_unfrozen :
    declareIncident deployment state actor incident operationKey policyVersion ≠
      .error promotionFrozen := by
  simp [declareIncident, insertIncident_unfrozen, insertIncidentEvent_unfrozen, bind_error, map_error]

theorem transitionIncident_unfrozen :
    transitionIncident incident toStatus now details ≠ .error promotionFrozen := by
  unfold transitionIncident
  refine Never.bind (never_guard value_unfrozen) fun _ _ => ?_
  unfold IncidentData.validate
  split_ifs <;> simp [Never]

theorem advanceIncident_unfrozen :
    advanceIncident deployment readings state actor incidentId toStatus expectedVersion operationKey
      policyVersion details ≠ .error promotionFrozen := by
  simp [advanceIncident, transitionIncident_unfrozen, insertIncidentEvent_unfrozen, bind_error, map_error]

theorem artifactId_unfrozen :
    artifactId deployment state value schema ≠ .error promotionFrozen := by
  simp [artifactId, map_error]

theorem regressionCheck_unfrozen {check : AutomatedCheck} :
    state.regressionCheck deployment check ≠ .error promotionFrozen := by
  unfold regressionCheck
  refine Never.bind artifact_unfrozen fun row _ => Never.bind (never_guard domain_unfrozen) fun _ _ => ?_
  refine Never.bind (never_guard domain_unfrozen) fun _ _ => ?_
  refine Never.bind recordedInstant_unfrozen fun recorded _ => ?_
  cases recorded <;> simp [Never, map_error]

theorem moveIncident_unfrozen :
    moveIncident state actor before after eventType operationKey policyVersion artifactIds ≠
      .error promotionFrozen := by
  simp [moveIncident, map_error]

theorem notifyOwner_unfrozen :
    notifyOwner readings state actor incident ownerRecipient ≠ .error promotionFrozen := by
  unfold notifyOwner
  split
  · simp [bind_error, map_error]
  · rintro ⟨⟩

theorem freezeMaterial_unfrozen :
    freezeMaterial state incident ≠ .error promotionFrozen := by
  unfold freezeMaterial
  split
  · simp [freezePromotions, map_error]
  · rintro ⟨⟩

/-- No operation on incidents meets the trigger. -/
theorem Reliability.answer_unfrozen :
    answer deployment readings state actor asked ≠ .error promotionFrozen := by
  cases asked with
  | declareIncident =>
    simp [answer, declareIncident, insertEvidence, bind_error, map_error,
      notifyOwner_unfrozen, insertIncident_unfrozen, freezeMaterial_unfrozen]
  | contain | beginReconciliation | resolve | reopen =>
    simp [answer, contain, beginReconciliation, resolve, reopen, governance, bind_error,
      map_error, artifactId_unfrozen, transitionIncident_unfrozen, moveIncident_unfrozen]
  | recordCorrectiveAction =>
    have checked : ∀ {checks : List AutomatedCheck},
        checks.mapM (state.regressionCheck deployment) ≠ .error promotionFrozen :=
      never_mapM fun _ _ => regressionCheck_unfrozen
    simp [answer, recordCorrectiveAction, insertCorrectiveAction, governance, bind_error,
      map_error, artifactId_unfrozen, checked, moveIncident_unfrozen]
  | close =>
    have read : ∀ {values : List ArtifactProvenance}, (values.mapM fun value =>
        artifactId deployment state value (some "reliability/incident-postmortem/v1")) ≠
          .error promotionFrozen := never_mapM fun _ _ => artifactId_unfrozen
    simp [answer, close, governance, bind_error, map_error, read,
      transitionIncident_unfrozen, moveIncident_unfrozen]
  | linkRecurrence | liftIncidentFreeze =>
    simp [answer, linkRecurrence, liftIncidentFreeze, governance, bind_error, map_error,
      artifactId_unfrozen, moveIncident_unfrozen]

theorem putArtifact_unfrozen :
    putArtifact deployment readings state actor fields schemaName classification policyVersion ≠
      .error promotionFrozen := by
  unfold putArtifact
  refine Never.bind requires_unfrozen fun _ _ => Never.bind (never_guard domain_unfrozen) fun _ _ => ?_
  dsimp only
  split <;> exact never_pure

theorem otherTransition_unfrozen :
    otherTransition state actor capability operationKey request topic ≠ .error promotionFrozen := by
  simp [otherTransition, bind_error, map_error]

/-- What the freeze refuses is a promotion, another write to a row that is promoted already,
or a return to an earlier policy. -/
theorem refused_by_freeze (refused : answer deployment state call = .error promotionFrozen) :
    Promotes state call ∨ Rewrites state call ∨ call.request.isRollback := by
  obtain ⟨_, _, request⟩ := call
  cases request with
  | registerPolicy policy =>
    have chosen := registerPolicy_frozen refused
    by_cases present : state.findPolicy policy.policyId policy.policyVersion = none
    · exact .inl ⟨chosen, present⟩
    · exact .inr (.inl ⟨chosen, present⟩)
  | activatePolicy => exact .inl (activatePolicy_frozen refused)
  | rollbackPolicy => exact .inr (.inr trivial)
  | propose proposal =>
    have promoted := propose_frozen refused
    by_cases present : state.findProposal proposal.proposalId = none
    · exact .inl ⟨promoted, present⟩
    · exact .inr (.inl ⟨promoted, present⟩)
  | classify => exact absurd refused classify_unfrozen
  | recordReview => exact absurd refused recordReview_unfrozen
  | recordLifecycle => exact absurd refused recordLifecycle_unfrozen
  | recordSynthesis => exact absurd refused recordSynthesis_unfrozen
  | queueOwnerNotification => exact .inr (.inl (queueOwnerNotification_frozen refused))
  | recordOwnerDelivery => exact .inr (.inl (recordOwnerDelivery_frozen refused))
  | decide =>
    obtain ⟨rfl, promoted⟩ := decide_frozen refused
    exact .inr (.inl promoted)
  | evaluate =>
    obtain ⟨row, found, evaluated⟩ := evaluate_frozen refused
    by_cases promoted : row.status = .promoted
    · exact .inr (.inl ⟨row, found, promoted⟩)
    · exact .inl ⟨row, found, promoted, evaluated⟩
  | recordChangeSet => exact absurd refused recordChangeSet_unfrozen
  | declareIncident => exact absurd refused declareIncident_unfrozen
  | advanceIncident => exact absurd refused advanceIncident_unfrozen
  | reliability => exact absurd refused answer_unfrozen
  | putArtifact => exact absurd refused putArtifact_unfrozen
  | otherTransition => exact absurd refused otherTransition_unfrozen
  | deliver => exact absurd refused (by simp [answer, deliver, bind_error, map_error])
  | freezeIndicator =>
    refine absurd refused ?_
    simp only [answer, freezeIndicator]
    split <;> rintro ⟨⟩
  | liftIndicatorFreeze =>
    exact absurd refused (by
      simp [answer, liftIndicatorFreeze, governance, bind_error, map_error,
        artifactId_unfrozen])

def GovernanceState.withFreezes (state : GovernanceState)
    (incidentFreezes indicatorFreezes : List FreezeRow) : GovernanceState :=
  { state with incidentFreezes, indicatorFreezes }

variable {after : GovernanceState} {incidentFreezes indicatorFreezes : List FreezeRow}

theorem transition_withFreezes {eventId : ℕ}
    (moved : state.transition actor capability operationKey request topic = .ok (eventId, after)) :
    (state.withFreezes incidentFreezes indicatorFreezes).transition actor capability operationKey request
      topic = .ok (eventId, after.withFreezes incidentFreezes indicatorFreezes) := by
  simp only [GovernanceState.transition, bind_ok, refuseIf_ok, pair_ok] at moved ⊢
  obtain ⟨⟨⟩, capable, ⟨⟩, keyed, store, stored, same, rfl⟩ := moved
  exact ⟨(), capable, (), keyed, store, stored, same, rfl⟩

theorem insertArtifact_withFreezes {artifact : Artifact ArtifactContent} {artifactId : ℕ}
    (inserted : state.insertArtifact artifact = .ok (artifactId, after)) :
    (state.withFreezes incidentFreezes indicatorFreezes).insertArtifact artifact =
      .ok (artifactId, after.withFreezes incidentFreezes indicatorFreezes) := by
  simp only [insertArtifact, bind_ok, refuseIf_ok, pair_ok] at inserted ⊢
  obtain ⟨⟨⟩, fresh, same, rfl⟩ := inserted
  exact ⟨(), fresh, same, rfl⟩

theorem updateProposal_withFreezes {change : ProposalRow → ProposalRow}
    (edited : state.updateProposal actor row change = .ok after)
    (unpromoted : (change row).status ≠ .promoted) :
    (state.withFreezes incidentFreezes indicatorFreezes).updateProposal actor row change =
      .ok (after.withFreezes incidentFreezes indicatorFreezes) := by
  simp only [updateProposal, guardPromotionFreeze, bind_ok, refuseIf_ok, pure_ok] at edited ⊢
  obtain ⟨⟨⟩, -, ⟨⟩, restricted, rfl⟩ := edited
  exact ⟨(), fun frozen => unpromoted frozen.1, (), restricted, rfl⟩

/-- A veto that is taken at all is taken under any freezes, with the same effect. -/
theorem veto_withFreezes {reply : GovernanceAnswer}
    (ok : decide deployment readings state actor proposalId .veto reason expectedVersion operationKey
      policyVersion = .ok (reply, after)) :
    decide deployment readings (state.withFreezes incidentFreezes indicatorFreezes) actor proposalId .veto
      reason expectedVersion operationKey policyVersion =
        .ok (reply, after.withFreezes incidentFreezes indicatorFreezes) := by
  simp only [decide, bind_ok, refuseIf_ok] at ok ⊢
  obtain ⟨⟨⟩, capable, ⟨⟩, owner, ⟨⟩, named, taken⟩ := ok
  refine ⟨(), capable, (), owner, (), named, ?_⟩
  cases logged : state.findEvent operationKey with
  | some existing =>
    have still : (state.withFreezes incidentFreezes indicatorFreezes).findEvent operationKey =
        some existing := logged
    rw [logged] at taken
    rw [still]
    simp only [bind_ok, refuseIf_ok, expect_ok, pair_ok] at taken ⊢
    obtain ⟨⟨⟩, same, persisted, recorded, replied, rfl⟩ := taken
    exact ⟨(), same, persisted, recorded, replied, rfl⟩
  | none =>
    have still : (state.withFreezes incidentFreezes indicatorFreezes).findEvent operationKey = none :=
      logged
    rw [logged] at taken
    rw [still]
    simp only [bind_ok, refuseIf_ok, expect_ok, pair_ok] at taken ⊢
    obtain ⟨row, found, ⟨⟩, undecided, ⟨provenance, filed⟩, inserted, ⟨eventId, moved⟩, recorded, edited,
      written, replied, rfl⟩ := taken
    exact ⟨row, found, (), undecided, (provenance, filed.withFreezes incidentFreezes indicatorFreezes),
      insertArtifact_withFreezes inserted, (eventId, moved.withFreezes incidentFreezes indicatorFreezes),
      transition_withFreezes recorded, edited.withFreezes incidentFreezes indicatorFreezes,
      updateProposal_withFreezes written (by rintro ⟨⟩), replied, rfl⟩

end Liki.Governance
