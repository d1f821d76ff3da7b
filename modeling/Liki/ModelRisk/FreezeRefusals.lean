import Liki.Governance.FreezeRefusals
import Liki.ModelRisk.Effects

/-! What a promotion freeze refuses of the two services that keep the models. Evidence, drift
and retirements are recorded as if nothing were frozen, unless the row that they write is
approved and stays so. -/
namespace Liki.ModelRisk
open Checks Governance CallSystem ModelState

variable {deployment : Deployment} {readings : Readings} {state : ModelState} {actor : Identity}
  {call : ModelCall} {capability : Capability} {operationKey modelId policyVersion : String}
  {request : ModelTransition} {expectedVersion : ℕ} {observation : DriftObservation}
  {link : EvidenceLink} {row : ModelRow} {evidence retirementArtifact : ArtifactProvenance}
  {role : EvidenceRole} {replacement : Option String}

def Promotes (state : ModelState) (call : ModelCall) : Prop :=
  match call.request with
  | .registerModel record _ _ _ => record.status = .approved
  | .risk (.approve modelId _ _ _ _) =>
    ∃ row, state.findModel modelId = some row ∧ row.status ≠ .approved
  | _ => False

def Rewrites (state : ModelState) (call : ModelCall) : Prop :=
  match call.request with
  | .risk (.linkEvidence modelId _ _ _ _) | .risk (.approve modelId _ _ _ _) =>
    ∃ row, state.findModel modelId = some row ∧ row.status = .approved
  | .risk (.recordDrift modelId observation _ _ _) =>
    observation.breached = false ∧ ∃ row, state.findModel modelId = some row ∧ row.record.status = .approved
  | _ => False

@[simp] theorem transition_unfrozen :
    state.transition actor capability operationKey request ≠ .error promotionFrozen := by
  unfold ModelState.transition Store.transition
  refine Never.bind requires_unfrozen fun _ _ => Never.bind (never_guard domain_unfrozen)
    fun _ _ => Never.bind ?_ fun _ _ => never_pure
  refine Never.bind requires_unfrozen fun _ _ => Never.bind (never_guard domain_unfrozen) fun _ _ => ?_
  split <;> simp [Never, bind_error, map_error]

@[simp] theorem validate_unfrozen {data : ModelData} : data.validate ≠ .error promotionFrozen := by
  unfold ModelData.validate
  split_ifs <;> simp

@[simp] theorem readModel_unfrozen : state.readModel modelId ≠ .error promotionFrozen := by
  simp [readModel, bind_error, map_error]

@[simp] theorem currentVersion_unfrozen :
    state.currentVersion modelId ≠ .error promotionFrozen := by
  simp [currentVersion, map_error]

@[simp] theorem requireGovernance_unfrozen : requireGovernance actor ≠ .error promotionFrozen := by
  simp [requireGovernance]

@[simp] theorem insertLink_unfrozen : state.insertLink link ≠ .error promotionFrozen := by
  unfold insertLink
  split
  · rintro ⟨⟩
  · simp [map_error]

theorem updateModel_frozen (refused : state.updateModel row change = .error promotionFrozen) :
    (change row).status = .approved := by
  simp only [updateModel, guardApproval, bind_error, refuseIf_error, pure_error, and_false, exists_false,
    or_false] at refused
  exact refused.1.1

theorem watchedStatus_unapproved : watchedStatus status ≠ .approved := by
  cases status <;> decide

theorem registerModel_frozen
    (refused : registerModel deployment state actor record recordArtifact operationKey policyVersion =
      .error promotionFrozen) : record.status = .approved := by
  simp [registerModel, insertModel, guardApproval, bind_error, map_error] at refused
  obtain ⟨-, -, -, _, -, _, _, -, promoted, -⟩ := refused
  exact promoted.1

theorem linkEvidence_frozen
    (refused : linkEvidence deployment readings state actor modelId evidence role operationKey policyVersion =
      .error promotionFrozen) :
    ∃ row, state.findModel modelId = some row ∧ row.status = .approved := by
  simp [linkEvidence, bind_error, map_error] at refused
  obtain ⟨-, row, _, read, -, -, -, _, -, _, _, -, _, -, edited⟩ := refused
  exact ⟨row, (readModel_ok read).1, updateModel_frozen edited⟩

theorem approve_frozen
    (refused : approve readings state actor modelId validationId expectedVersion operationKey policyVersion =
      .error promotionFrozen) : ∃ row, state.findModel modelId = some row := by
  simp [approve, bind_error, map_error] at refused
  obtain ⟨-, row, _, read, -⟩ := refused
  exact ⟨row, (readModel_ok read).1⟩

theorem recordDrift_frozen
    (refused : recordDrift deployment readings state actor modelId observation expectedVersion operationKey
      policyVersion = .error promotionFrozen) :
    observation.breached = false ∧ ∃ row, state.findModel modelId = some row ∧
      row.record.status = .approved := by
  simp [recordDrift, bind_error, map_error] at refused
  obtain ⟨-, row, _, read, -, -, _, _, -, -, edited⟩ := refused
  obtain ⟨found, _, rfl⟩ := readModel_ok read
  have promoted : observedStatus observation.breached row.record.status = .approved :=
    updateModel_frozen edited
  unfold observedStatus at promoted
  split_ifs at promoted with breach
  refine ⟨?_, row, found, promoted⟩
  by_contra breached
  exact breach ⟨by simpa using breached, by rw [promoted]; decide⟩

theorem retire_unfrozen :
    retire deployment readings state actor modelId retirementArtifact expectedVersion operationKey
      policyVersion replacement ≠ .error promotionFrozen := by
  intro refused
  simp [retire, bind_error, map_error] at refused
  obtain ⟨-, _, _, -, -, -, -, _, _, -, -, edited | ⟨_, -, inserted⟩⟩ := refused
  · cases updateModel_frozen edited
  · simp [insertRetirement, map_error] at inserted

theorem governance_recordDrift_unfrozen :
    GovernanceService.recordDrift deployment state actor modelId observation ≠ .error promotionFrozen := by
  intro refused
  simp [GovernanceService.recordDrift, watchModel, bind_error] at refused
  obtain ⟨-, -, _, -, eventId, _, -, watched⟩ := refused
  split at watched
  · simp [bind_error, map_error] at watched
    obtain ⟨_, -, _, _, -, edited⟩ := watched
    exact watchedStatus_unapproved (updateModel_frozen edited)
  · cases watched

theorem recordModelValidation_unfrozen {validation : ModelValidation} :
    recordModelValidation deployment state actor modelId validation validationArtifact ≠
      .error promotionFrozen := by
  simp [recordModelValidation, bind_error, map_error]

theorem recordEffectiveChallenge_unfrozen :
    recordEffectiveChallenge deployment state actor modelId challenge operationKey policyVersion ≠
      .error promotionFrozen := by
  have checked : ∀ {checks : List AutomatedCheck},
      checks.mapM (state.provenance.check deployment) ≠ .error promotionFrozen :=
    never_mapM fun _ _ => check_unfrozen
  simp [recordEffectiveChallenge, insertChallenge, bind_error, map_error, checked]

theorem grantException_unfrozen :
    grantException deployment readings state actor modelId useException operationKey policyVersion ≠
      .error promotionFrozen := by
  simp [grantException, insertException, bind_error, map_error]

theorem putArtifact_unfrozen :
    putArtifact deployment readings state actor fields schemaName classification policyVersion ≠
      .error promotionFrozen := by
  unfold putArtifact
  refine Never.bind requires_unfrozen fun _ _ => Never.bind (never_guard domain_unfrozen) fun _ _ => ?_
  dsimp only
  split <;> exact never_pure

theorem otherTransition_unfrozen :
    otherTransition state actor capability operationKey request ≠ .error promotionFrozen := by
  simp [otherTransition, bind_error, map_error]

theorem refused_by_freeze (refused : answer deployment state call = .error promotionFrozen) :
    Promotes state call ∨ Rewrites state call := by
  obtain ⟨_, _, request⟩ := call
  cases request with
  | registerModel => exact .inl (registerModel_frozen refused)
  | recordModelValidation => exact absurd refused recordModelValidation_unfrozen
  | recordDrift => exact absurd refused governance_recordDrift_unfrozen
  | risk request =>
    cases request with
    | linkEvidence => exact .inr (linkEvidence_frozen refused)
    | recordEffectiveChallenge => exact absurd refused recordEffectiveChallenge_unfrozen
    | approve =>
      obtain ⟨row, found⟩ := approve_frozen refused
      by_cases approved : row.status = .approved
      · exact .inr ⟨row, found, approved⟩
      · exact .inl ⟨row, found, approved⟩
    | recordDrift => exact .inr (recordDrift_frozen refused)
    | retire => exact absurd refused retire_unfrozen
    | grantException => exact absurd refused grantException_unfrozen
  | putArtifact => exact absurd refused putArtifact_unfrozen
  | otherTransition => exact absurd refused otherTransition_unfrozen
  | freeze => cases refused

/-- The same tables while promotions are frozen, or while they are not. -/
def ModelState.withFreeze (state : ModelState) (frozen : Bool) : ModelState := { state with frozen }

variable {after : ModelState} {frozen : Bool} {reply : ModelAnswer}

theorem transition_withFreeze
    (moved : state.transition actor capability operationKey request = .ok (eventId, after)) :
    (state.withFreeze frozen).transition actor capability operationKey request =
      .ok (eventId, after.withFreeze frozen) := by
  simp only [ModelState.transition, bind_ok, refuseIf_ok, pair_ok] at moved ⊢
  obtain ⟨⟨⟩, capable, ⟨⟩, keyed, store, stored, same, rfl⟩ := moved
  exact ⟨(), capable, (), keyed, store, stored, same, rfl⟩

theorem updateModel_withFreeze (edited : state.updateModel row change = .ok after)
    (unpromoted : (change row).status ≠ .approved) :
    (state.withFreeze frozen).updateModel row change = .ok (after.withFreeze frozen) := by
  simp only [updateModel, guardApproval, bind_ok, refuseIf_ok, pure_ok] at edited ⊢
  obtain ⟨⟨⟩, -, rfl⟩ := edited
  exact ⟨(), fun approved => unpromoted approved.1, rfl⟩

theorem insertLink_withFreeze (inserted : state.insertLink link = .ok after) :
    (state.withFreeze frozen).insertLink link = .ok (after.withFreeze frozen) := by
  by_cases known : ∃ other ∈ state.links, other.modelId = link.modelId ∧
      other.artifactId = link.artifactId ∧ other.evidenceRole = link.evidenceRole
  · rw [insertLink, if_pos known] at inserted
    cases inserted
    rw [insertLink]
    exact if_pos known
  · rw [insertLink, if_neg known] at inserted
    simp only [bind_ok, refuseIf_ok, pure_ok] at inserted
    obtain ⟨⟨⟩, fresh, rfl⟩ := inserted
    rw [insertLink]
    refine (if_neg known).trans ?_
    simp only [bind_ok, refuseIf_ok, pure_ok]
    exact ⟨(), fresh, rfl⟩

theorem linkEvidence_withFreeze
    (ok : linkEvidence deployment readings state actor modelId evidence role operationKey policyVersion =
      .ok (reply, after))
    (unapproved : ∀ row, state.findModel modelId = some row → row.status ≠ .approved) :
    linkEvidence deployment readings (state.withFreeze frozen) actor modelId evidence role operationKey
      policyVersion = .ok (reply, after.withFreeze frozen) := by
  simp only [linkEvidence, bind_ok, refuseIf_ok, pair_ok] at ok ⊢
  obtain ⟨⟨⟩, governs, ⟨row, record⟩, read, artifact, held, ⟨⟩, uncontaminated, ⟨⟩, consumed, version, current,
    ⟨eventId, moved⟩, recorded, linked, inserted, edited, written, replied, rfl⟩ := ok
  exact ⟨(), governs, (row, record), read, artifact, held, (), uncontaminated, (), consumed, version, current,
    (eventId, _), transition_withFreeze recorded, _, insertLink_withFreeze inserted, _,
    updateModel_withFreeze written (unapproved row (readModel_ok read).1), replied, rfl⟩

theorem recordDrift_withFreeze
    (ok : recordDrift deployment readings state actor modelId observation expectedVersion operationKey
      policyVersion = .ok (reply, after))
    (moves : observation.breached = true ∨
      ∀ row, state.findModel modelId = some row → row.record.status ≠ .approved) :
    recordDrift deployment readings (state.withFreeze frozen) actor modelId observation expectedVersion
      operationKey policyVersion = .ok (reply, after.withFreeze frozen) := by
  simp only [recordDrift, bind_ok, refuseIf_ok, pair_ok] at ok ⊢
  obtain ⟨⟨⟩, governs, ⟨row, _⟩, read, artifact, held, version, current, ⟨eventId, _⟩, recorded, ⟨⟩,
    fresh, edited, written, replied, rfl⟩ := ok
  obtain ⟨found, _, rfl⟩ := readModel_ok read
  have unapproved : observedStatus observation.breached row.record.status ≠ .approved := by
    unfold observedStatus
    split_ifs with breach
    · decide
    · intro approved
      rcases moves with breached | unapproved
      · exact breach ⟨breached, by rw [approved]; decide⟩
      · exact unapproved row found approved
  exact ⟨(), governs, (row, _), read, artifact, held, version, current, (eventId, _),
    transition_withFreeze recorded, (), fresh, _, updateModel_withFreeze written unapproved, replied, rfl⟩

theorem retire_withFreeze
    (ok : retire deployment readings state actor modelId retirementArtifact expectedVersion operationKey
      policyVersion replacement = .ok (reply, after)) :
    retire deployment readings (state.withFreeze frozen) actor modelId retirementArtifact expectedVersion
      operationKey policyVersion replacement = .ok (reply, after.withFreeze frozen) := by
  simp only [retire, insertRetirement, bind_ok, refuseIf_ok, pure_ok, Prod.mk.injEq] at ok ⊢
  obtain ⟨⟨⟩, governs, ⟨row, record⟩, read, ⟨⟩, active, ⟨⟩, replaceable, artifact, held, ⟨eventId, _⟩,
    recorded, ⟨⟩, named, edited, written, retired, ⟨⟨⟩, first, rfl⟩, replied, rfl⟩ := ok
  exact ⟨(), governs, (row, record), read, (), active, (), replaceable, artifact, held, (eventId, _),
    transition_withFreeze recorded, (), named, _, updateModel_withFreeze written (by simp), _, ⟨(), first, rfl⟩,
    replied, rfl⟩

theorem insertDrift_withFreeze (observationId : String) :
    (state.withFreeze frozen).insertDrift observationId =
      (state.insertDrift observationId).withFreeze frozen := by
  by_cases known : observationId ∈ state.drifts
  · rw [insertDrift, insertDrift, if_pos known]
    exact if_pos known
  · rw [insertDrift, insertDrift, if_neg known]
    exact if_neg known

theorem governance_recordDrift_withFreeze
    (ok : GovernanceService.recordDrift deployment state actor modelId observation = .ok (reply, after)) :
    GovernanceService.recordDrift deployment (state.withFreeze frozen) actor modelId observation =
      .ok (reply, after.withFreeze frozen) := by
  simp only [GovernanceService.recordDrift, bind_ok, expect_ok] at ok ⊢
  obtain ⟨⟨⟩, capable, artifact, held, row, found, ⟨eventId, _⟩, recorded, rest⟩ := ok
  refine ⟨(), capable, artifact, held, row, found, (eventId, _), transition_withFreeze recorded, ?_⟩
  dsimp only at rest ⊢
  rw [insertDrift_withFreeze]
  by_cases breached : observation.breached = true
  · rw [if_pos breached] at rest ⊢
    simp only [watchModel, bind_ok, pair_ok] at rest ⊢
    obtain ⟨_, ⟨version, current, ⟨again, _⟩, watched, written⟩, replied, rfl⟩ := rest
    exact ⟨_, ⟨version, current, (again, _), transition_withFreeze watched,
      updateModel_withFreeze written watchedStatus_unapproved⟩, replied, rfl⟩
  · rw [if_neg breached] at rest ⊢
    simp only [pair_ok] at rest ⊢
    exact ⟨rest.1, by rw [rest.2]⟩

end Liki.ModelRisk
