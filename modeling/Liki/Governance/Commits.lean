import Liki.Governance.Calls

/-! What an answered call can do to the tables. It may first touch what no rule is
about: artifacts, notifications, other kinds of events. Then it makes at most one write
to the policies, one to the proposals or one to the incidents, each recorded under the
operation key of the call. A key that is in the log records nothing new, but the write
behind it is made all the same. -/
namespace Liki.Governance
open Checks GovernanceState CallSystem KeyedRows List

variable {deployment : Deployment} {readings : Readings} {state before after : GovernanceState}
  {actor : Identity} {capability : Capability} {operationKey : String}
  {request : GovernanceTransition} {topic : Option String}

namespace GovernanceState

/-- The tables with one more event. -/
def logged (state : GovernanceState) (operationKey : String) (request : GovernanceTransition)
    (topic : Option String) : GovernanceState :=
  { state with store := state.store.append operationKey request topic }

def eventId (state : GovernanceState) (operationKey : String) : ℕ :=
  state.store.events.findIdx fun event => event.operationKey = operationKey

def Replayed (state : GovernanceState) (operationKey : String) (request : GovernanceTransition) :
    Prop :=
  ∃ event, state.findEvent operationKey = some event ∧ event.request = request

end GovernanceState

/-- The request is in the log under the key afterwards, whether it was before or not. -/
inductive Logged (state : GovernanceState) (operationKey : String) (request : GovernanceTransition) :
    GovernanceState → Prop where
  | replayed (recorded : state.Replayed operationKey request) : Logged state operationKey request state
  | appended (topic : Option String) (fresh : operationKey ∉ state.store.keys)
      (current : request.expectedVersion = state.store.version request.kind request.aggregateId) :
      Logged state operationKey request (state.logged operationKey request topic)

theorem findEvent_eq (state : GovernanceState) (operationKey : String) :
    state.findEvent operationKey =
      state.store.events.find? fun event => event.operationKey = operationKey :=
  rfl

variable {event : GovernanceEvent}

theorem mem_keys_of_findEvent (found : state.findEvent operationKey = some event) :
    operationKey ∈ state.store.keys :=
  mem_map.mpr ⟨event, find_mem found, find_key found⟩

theorem findEvent_isSome : operationKey ∈ state.store.keys ↔ ∃ event, state.findEvent operationKey = some event := by
  constructor
  · intro used
    cases found : state.findEvent operationKey with
    | some event => exact ⟨event, rfl⟩
    | none =>
      obtain ⟨event, member, same⟩ := mem_map.mp used
      exact absurd same (find_none.mp found event member)
  · rintro ⟨_, found⟩
    exact mem_keys_of_findEvent found

theorem transition_ok
    (ok : state.transition actor capability operationKey request topic = .ok (recordedId, after)) :
    Logged state operationKey request after ∧ recordedId = after.eventId operationKey := by
  simp only [GovernanceState.transition, Store.transition, Identity.requires, bind_ok, guard_ok,
    pair_ok] at ok
  obtain ⟨-, -, store, ⟨-, -, stored⟩, rfl, rfl⟩ := ok
  refine ⟨?_, rfl⟩
  split at stored
  · rename_i existing found
    simp only [bind_ok, guard_ok, pure_ok, not_not] at stored
    obtain ⟨same, rfl⟩ := stored
    exact .replayed ⟨existing, found, same⟩
  · rename_i absent
    simp only [bind_ok, guard_ok, pure_ok, not_not] at stored
    obtain ⟨current, -, -, rfl⟩ := stored
    refine .appended topic ?_ current
    intro used
    obtain ⟨_, found⟩ := findEvent_isSome.mp used
    rw [findEvent_eq, absent] at found
    cases found

theorem getElem_eventId (found : state.findEvent operationKey = some event) :
    state.store.events[state.eventId operationKey]? = some event := by
  rw [findEvent_eq, find?_eq_some_iff_getElem] at found
  obtain ⟨named, index, bound, rfl, before⟩ := found
  have here : state.eventId operationKey = index := by
    refine (findIdx_eq bound).mpr ⟨named, fun earlier less => ?_⟩
    simpa using before earlier less
  rw [here]
  exact getElem?_eq_getElem bound

theorem eventId_logged (fresh : operationKey ∉ state.store.keys) :
    (state.logged operationKey request topic).eventId operationKey = state.store.events.length := by
  have absent : ∀ event ∈ state.store.events, ¬event.operationKey = operationKey :=
    fun event member same => fresh (mem_map.mpr ⟨event, member, same⟩)
  unfold eventId
  rw [logged, Store.append, findIdx_append,
    findIdx_eq_length_of_false (by simpa using absent)]
  simp

theorem Logged.store_only (logged : Logged state operationKey request after) :
    after = { state with store := after.store } := by
  cases logged <;> rfl

def ruledKinds : List String := ["governance_proposal", "policy_version", "incident"]

/-- Nothing changes that a rule is about. -/
structure Aside (state after : GovernanceState) : Prop where
  policies : after.policies = state.policies
  proposals : after.proposals = state.proposals
  reviews : after.reviews = state.reviews
  outcomes : after.outcomes = state.outcomes
  incidents : after.incidents = state.incidents
  incidentEvents : after.incidentEvents = state.incidentEvents
  correctiveActions : after.correctiveActions = state.correctiveActions
  incidentFreezes : after.incidentFreezes = state.incidentFreezes
  events : ∃ more, after.store.events = state.store.events ++ more ∧
    ∀ event ∈ more, event.request.kind ∉ ruledKinds
  aggregates : ∀ kind ∈ ruledKinds, ∀ id, after.store.state kind id = state.store.state kind id
  artifacts : ∃ more, after.store.artifacts = state.store.artifacts ++ more

theorem Aside.refl (state : GovernanceState) : Aside state state :=
  ⟨rfl, rfl, rfl, rfl, rfl, rfl, rfl, rfl, ⟨[], by simp, by simp⟩, fun _ _ _ => rfl, ⟨[], by simp⟩⟩

theorem Logged.aside (logged : Logged state operationKey request after)
    (other : request.kind ∉ ruledKinds) : Aside state after := by
  cases logged with
  | replayed => exact .refl state
  | appended =>
    refine ⟨rfl, rfl, rfl, rfl, rfl, rfl, rfl, rfl, ⟨[⟨operationKey, request⟩], rfl, ?_⟩, ?_, ⟨[], ?_⟩⟩
    · intro event member
      rw [mem_singleton.mp member]
      exact other
    · intro kind ruled id
      have differ : request.kind ≠ kind := fun same => other (same ▸ ruled)
      simp [logged, Store.state_append, differ]
    · simp [logged]

theorem notify_aside (ok : state.notify readings actor notification = .ok (notificationId, after)) :
    Aside state after := by
  simp only [notify, Identity.requires, bind_ok, guard_ok] at ok
  obtain ⟨-, ok⟩ := ok
  split at ok
  · simp only [bind_ok, guard_ok, pair_ok] at ok
    obtain ⟨-, -, rfl⟩ := ok
    exact .refl state
  · simp only [bind_ok, guard_ok, pair_ok, Prod.exists] at ok
    obtain ⟨_, _, moved, -, -, rfl⟩ := ok
    have aside := (transition_ok moved).1.aside (by simp [ruledKinds])
    exact ⟨aside.policies, aside.proposals, aside.reviews, aside.outcomes, aside.incidents,
      aside.incidentEvents, aside.correctiveActions, aside.incidentFreezes, aside.events,
      aside.aggregates, aside.artifacts⟩

theorem insertArtifact_aside {artifact : Artifact ArtifactContent}
    (ok : state.insertArtifact artifact = .ok (artifactId, after)) : Aside state after := by
  simp only [insertArtifact, bind_ok, guard_ok, pair_ok] at ok
  obtain ⟨-, -, rfl⟩ := ok
  exact ⟨rfl, rfl, rfl, rfl, rfl, rfl, rfl, rfl, ⟨[], by simp, by simp⟩, fun _ _ _ => rfl, ⟨_, rfl⟩⟩

theorem insertArtifact_events {artifact : Artifact ArtifactContent}
    (ok : state.insertArtifact artifact = .ok (artifactId, after)) :
    after.store.events = state.store.events := by
  simp only [insertArtifact, bind_ok, guard_ok, pair_ok] at ok
  obtain ⟨-, -, rfl⟩ := ok
  rfl

/-- What a call makes of the row of a proposal. -/
inductive ProposalEdit where
  | classified (classification : Classification)
  | reviewed (review : GovernanceReview)
  | lifecycle (lifecycle : LifecycleEvidence)
  | synthesized (synthesis : SynthesisRecord)
  | queued (completedAt : Time)
  | delivered (delivery : OwnerDelivery)
  | decided (decision : OwnerDecision)
  | evaluated (result : ProposalStatus)

namespace ProposalEdit

def apply : ProposalEdit → ProposalRow → ProposalRow
  | classified classification, row =>
    { row with classification := some classification, status := .classified }
  | reviewed _, row => { row with status := .reviewing }
  | lifecycle evidence, row => { row with lifecycle := evidence, status := evidence.stage }
  | synthesized synthesis, row => { row with synthesis := some synthesis, status := .canary }
  | queued completedAt, row =>
    { row with package := { row.proposal with completeEvidenceAt := some completedAt } }
  | delivered delivery, row =>
    { row with
      package := deliveredPackage row.proposal delivery.deliveredAt
      ownerDelivery := some delivery }
  | decided decision, row =>
    { row with ownerDecision := some decision, status := decidedStatus decision row }
  | evaluated result, row => { row with status := result }

def eventType : ProposalEdit → String
  | classified _ => "GOVERNANCE_CLASSIFIED"
  | reviewed _ => "GOVERNANCE_REVIEW_RECORDED"
  | lifecycle _ => "GOVERNANCE_LIFECYCLE_EVIDENCE"
  | synthesized _ => "GOVERNANCE_SYNTHESIZED"
  | queued _ => "OWNER_NOTIFICATION_QUEUED"
  | delivered _ => "OWNER_NOTIFICATION_DELIVERED"
  | decided decision => "OWNER_" ++ (if decision.vetoed then OwnerVerdict.veto else .approve).value
  | evaluated _ => "GOVERNANCE_REVALIDATED"

def metadata : ProposalEdit → Option GovernanceMetadata
  | classified classification => some (.classified classification)
  | lifecycle evidence => some (.lifecycle evidence)
  | delivered delivery => some (.delivered delivery.notificationId delivery.providerMessageId
      delivery.lifecycleSnapshot)
  | _ => none

@[simp] theorem apply_proposalId (edit : ProposalEdit) (row : ProposalRow) :
    (edit.apply row).proposalId = row.proposalId := by
  cases edit <;> rfl

def reviewsIn (edit : ProposalEdit) (state : GovernanceState) : List GovernanceReview :=
  match edit with
  | reviewed review => (state.insertReview review).reviews
  | _ => state.reviews

def outcomes (edit : ProposalEdit) (eventId : ℕ) (proposalId : String) : List LifecycleOutcome :=
  match edit with
  | lifecycle evidence => lifecycleOutcomes eventId proposalId evidence.phased
  | _ => []

end ProposalEdit

/-- The edit that a call asks for, and what the service found before making it. -/
inductive Edits (deployment : Deployment) (state : GovernanceState) (row : ProposalRow) :
    GovernanceCall → ProposalEdit → Prop where
  | classify {readings actor proposalId policy expectedVersion operationKey classification}
      (named : row.proposalId = proposalId)
      (classified : classifyProposal row.proposal policy actor.principalId readings.now =
        .ok classification)
      (effective : ∃ registered ∈ state.findPolicy policy.policyId policy.policyVersion,
        registered.status = .effective ∧ registered.contentHash = policy.contentHash) :
      Edits deployment state row
        ⟨readings, actor, .classify proposalId policy expectedVersion operationKey⟩
        (.classified classification)
  | recordReview {readings actor review manifest expectedVersion operationKey policyVersion}
      (named : row.proposalId = review.proposalId)
      (own : review.reviewerPrincipal = actor.principalId)
      (other : row.package.authoredBy ≠ actor.principalId) :
      Edits deployment state row
        ⟨readings, actor, .recordReview review manifest expectedVersion operationKey policyVersion⟩
        (.reviewed review)
  | recordLifecycle {readings actor proposalId lifecycle expectedVersion operationKey policyVersion}
      (named : row.proposalId = proposalId)
      (distinct : (lifecycle.phased.map fun phased => (phased.1, phased.2.checkId)).Nodup)
      (revalidated : lifecycle.hasFailure ∨ ¬requiresFreshRevalidation state proposalId lifecycle) :
      Edits deployment state row
        ⟨readings, actor, .recordLifecycle proposalId lifecycle expectedVersion operationKey
          policyVersion⟩
        (.lifecycle lifecycle)
  | recordSynthesis {readings actor synthesis expectedVersion operationKey policyVersion}
      (named : row.proposalId = synthesis.proposalId) :
      Edits deployment state row
        ⟨readings, actor, .recordSynthesis synthesis expectedVersion operationKey policyVersion⟩
        (.synthesized synthesis)
  | queueOwnerNotification {readings actor proposalId channel package expectedVersion operationKey
        policyVersion} (named : row.proposalId = proposalId) :
      Edits deployment state row
        ⟨readings, actor, .queueOwnerNotification proposalId channel package expectedVersion
          operationKey policyVersion⟩
        (.queued readings.now)
  | recordOwnerDelivery {readings actor proposalId channel expectedVersion operationKey policyVersion
        delivery} (named : row.proposalId = proposalId)
      (current : delivery.lifecycleSnapshot = row.lifecycle)
      (passing : row.lifecycle.tests ≠ [] ∧ ¬row.lifecycle.hasFailure)
      (received : ∃ receipt ∈ state.deliveries, receipt.notificationId = delivery.notificationId ∧
        receipt.deliveredAt = delivery.deliveredAt) :
      Edits deployment state row
        ⟨readings, actor, .recordOwnerDelivery proposalId channel expectedVersion operationKey
          policyVersion⟩
        (.delivered delivery)
  | decide {readings actor proposalId verdict reason expectedVersion operationKey policyVersion
        decision} (named : row.proposalId = proposalId) (unused : state.findEvent operationKey = none)
      (first : row.ownerDecision = none) (about : decision.proposalId = proposalId)
      (vetoed : decision.vetoed ↔ verdict = .veto) (now : decision.decidedAt = readings.now) :
      Edits deployment state row
        ⟨readings, actor, .decide proposalId verdict reason expectedVersion operationKey
          policyVersion⟩
        (.decided decision)
  | evaluate {readings actor proposalId expectedVersion operationKey policyVersion changeSetId
        classification snapshot changeSet} (named : row.proposalId = proposalId)
      (classified : row.classification = some classification)
      (current : state.currentSnapshot row.proposal = .ok snapshot)
      (grouped : state.namedChangeSet deployment changeSetId = .ok changeSet) :
      Edits deployment state row
        ⟨readings, actor, .evaluate proposalId expectedVersion operationKey policyVersion changeSetId⟩
        (.evaluated (evaluatePromotion
          (state.promotionCase readings row classification snapshot changeSet)))

structure EditRequest (edit : ProposalEdit) (row : ProposalRow) (request : GovernanceTransition) :
    Prop where
  kind : request.kind = "governance_proposal"
  aggregateId : request.aggregateId = row.proposalId
  state : ∃ version, request.state = .proposal (edit.apply row).status version
  eventType : request.eventType = edit.eventType
  metadata : ∀ metadata, edit.metadata = some metadata → request.metadata = some metadata

inductive ProposalWrite (deployment : Deployment) (state : GovernanceState) :
    GovernanceCall → GovernanceState → Prop where
  | proposed {readings actor proposal operationKey policyVersion artifactIds recorded}
      (logged : Logged state operationKey (proposalRequest actor proposal.proposalId 0
        (.proposal proposal.status (some proposal.proposalVersion)) "GOVERNANCE_PROPOSED" policyVersion
        artifactIds none) recorded)
      (authored : proposal.authoredBy = actor.principalId)
      (absent : state.findProposal proposal.proposalId = none)
      (unfrozen : proposal.status = .promoted → ¬state.promotionsFrozen) :
      ProposalWrite deployment state
        ⟨readings, actor, .propose proposal operationKey policyVersion⟩
        { recorded with proposals := state.proposals ++
          [⟨proposal, none, .empty, none, none, none, proposal.status⟩] }
  | reproposed {readings actor proposal operationKey policyVersion artifactIds recorded row}
      (logged : Logged state operationKey (proposalRequest actor proposal.proposalId 0
        (.proposal proposal.status (some proposal.proposalVersion)) "GOVERNANCE_PROPOSED" policyVersion
        artifactIds none) recorded)
      (present : state.findProposal proposal.proposalId = some row) :
      ProposalWrite deployment state
        ⟨readings, actor, .propose proposal operationKey policyVersion⟩ recorded
  | edited {call row edit request recorded}
      (edits : Edits deployment state row call edit)
      (found : state.findProposal row.proposalId = some row)
      (logged : Logged state call.operationKey request recorded)
      (requested : EditRequest edit row request)
      (unfrozen : (edit.apply row).status = .promoted → ¬state.promotionsFrozen)
      (distinct : ∀ evidence, edit = .lifecycle evidence → ((state.outcomes ++
        edit.outcomes (recorded.eventId call.operationKey) row.proposalId).map
          LifecycleOutcome.key).Nodup) :
      ProposalWrite deployment state call
        { recorded with
          proposals := KeyedRows.update ProposalRow.proposalId row.proposalId edit.apply state.proposals
          reviews := edit.reviewsIn state
          outcomes := state.outcomes ++
            edit.outcomes (recorded.eventId call.operationKey) row.proposalId }

variable {row : ProposalRow} {change : ProposalRow → ProposalRow} {edit : ProposalEdit}

theorem findProposal_logged (logged : Logged state operationKey request after) (proposalId : String) :
    after.findProposal proposalId = state.findProposal proposalId := by
  cases logged <;> rfl

theorem promotionsFrozen_logged (logged : Logged state operationKey request after) :
    after.promotionsFrozen ↔ state.promotionsFrozen := by
  cases logged <;> rfl

theorem findProposal_inserted {new : ProposalRow} (absent : state.findProposal new.proposalId = none)
    (proposalId : String) :
    KeyedRows.find ProposalRow.proposalId proposalId (state.proposals ++ [new]) =
      if proposalId = new.proposalId then some new else state.findProposal proposalId :=
  find_insert_absent absent

theorem findProposal_edited {proposals : List ProposalRow} (proposalId : String) :
    KeyedRows.find ProposalRow.proposalId proposalId
        (KeyedRows.update ProposalRow.proposalId row.proposalId edit.apply proposals) =
      if proposalId = row.proposalId then
        (KeyedRows.find ProposalRow.proposalId proposalId proposals).map edit.apply
      else KeyedRows.find ProposalRow.proposalId proposalId proposals := by
  have kept : ∀ other : ProposalRow, other.proposalId = row.proposalId →
      (edit.apply other).proposalId = row.proposalId := fun other same => by
    rw [ProposalEdit.apply_proposalId, same]
  split
  · rename_i same
    rw [same, find_update_self kept]
  · rename_i differ
    exact find_update_other kept differ

theorem updateProposal_ok (ok : state.updateProposal actor row change = .ok after) :
    ((change row).status = .promoted → ¬state.promotionsFrozen) ∧ after = { state with
      proposals := KeyedRows.update ProposalRow.proposalId row.proposalId change state.proposals } := by
  simp only [updateProposal, guardPromotionFreeze, restrictSafetyMutation, bind_ok, guard_ok,
    pure_ok] at ok
  obtain ⟨unfrozen, -, rfl⟩ := ok
  exact ⟨fun promoted frozen => unfrozen ⟨promoted, frozen⟩, rfl⟩

theorem ProposalWrite.of_update {recorded written : GovernanceState}
    (edits : Edits deployment state row call edit)
    (found : state.findProposal row.proposalId = some row)
    (logged : Logged state call.operationKey request recorded)
    (requested : EditRequest edit row request)
    (distinct : ∀ evidence, edit = .lifecycle evidence → ((state.outcomes ++
      edit.outcomes (recorded.eventId call.operationKey) row.proposalId).map
        LifecycleOutcome.key).Nodup)
    (prepared : written = { recorded with
      reviews := edit.reviewsIn state
      outcomes := state.outcomes ++ edit.outcomes (recorded.eventId call.operationKey) row.proposalId })
    (updated : written.updateProposal actor row edit.apply = .ok after) :
    ProposalWrite deployment state call after := by
  obtain ⟨unfrozen, rfl⟩ := updateProposal_ok updated
  have kept : recorded.proposals = state.proposals := by rw [logged.store_only]
  have same : written.promotionsFrozen ↔ state.promotionsFrozen := by
    rw [← promotionsFrozen_logged logged, prepared]
    rfl
  have write := ProposalWrite.edited edits found logged requested
    (fun promoted frozen => unfrozen promoted (same.mpr frozen)) distinct
  rw [prepared, kept]
  exact write

theorem Logged.prepared {recorded : GovernanceState}
    (logged : Logged state operationKey request recorded)
    (reviews : edit.reviewsIn state = state.reviews)
    (outcomes : ∀ eventId, edit.outcomes eventId proposalId = []) :
    recorded = { recorded with
      reviews := edit.reviewsIn state
      outcomes := state.outcomes ++ edit.outcomes (recorded.eventId operationKey) proposalId } := by
  rw [reviews, outcomes, append_nil]
  cases logged <;> rfl

variable {answered : GovernanceAnswer} {expectedVersion : ℕ} {proposalId policyVersion : String}

theorem propose_ok {proposal : GovernanceProposal}
    (ok : propose deployment state actor proposal operationKey policyVersion =
      .ok (answered, after)) :
    ProposalWrite deployment state ⟨readings, actor, .propose proposal operationKey policyVersion⟩
      after := by
  simp only [propose, insertProposal, guardPromotionFreeze, Identity.requires, bind_ok, guard_ok,
    Prod.exists, pair_ok] at ok
  obtain ⟨-, authored, artifactIds, -, recordedId, recorded, moved, inserted, ⟨unfrozen, placed⟩, -,
    rfl⟩ := ok
  obtain ⟨logged, -⟩ := transition_ok moved
  have kept : recorded.proposals = state.proposals := by rw [logged.store_only]
  have lookup : recorded.findProposal proposal.proposalId = state.findProposal proposal.proposalId := by
    unfold findProposal
    rw [kept]
  simp only [ProposalRow.proposalId, lookup] at placed
  split at placed
  · rename_i existing present
    cases placed
    exact .reproposed logged present
  · rename_i absent
    cases placed
    rw [kept]
    refine .proposed logged (not_not.mp authored) absent ?_
    intro promoted frozen
    exact unfrozen ⟨promoted, (promotionsFrozen_logged logged).mpr frozen⟩

theorem classify_ok
    (ok : classify readings state actor proposalId policy expectedVersion operationKey =
      .ok (answered, after)) :
    ProposalWrite deployment state
      ⟨readings, actor, .classify proposalId policy expectedVersion operationKey⟩ after := by
  simp only [classify, requireEffectivePolicy, Identity.requires, bind_ok, expect_ok, guard_ok,
    Prod.exists, pair_ok, not_not] at ok
  obtain ⟨-, effective, row, found, _, classified, _, _, moved, _,
    updated, -, rfl⟩ := ok
  obtain ⟨logged, -⟩ := transition_ok moved
  have named : row.proposalId = proposalId := find_key found
  refine .of_update (.classify named classified effective) (named ▸ found) logged ?_ (by rintro _ ⟨⟩)
    (logged.prepared rfl fun _ => rfl) updated
  exact ⟨rfl, named.symm, ⟨_, rfl⟩, rfl, fun _ same => same⟩

theorem recordReview_ok
    (ok : recordReview deployment state actor review manifest expectedVersion operationKey
      policyVersion = .ok (answered, after)) :
    ProposalWrite deployment state
      ⟨readings, actor, .recordReview review manifest expectedVersion operationKey policyVersion⟩
      after := by
  simp only [recordReview, Identity.requires, bind_ok, expect_ok, guard_ok, Prod.exists,
    pair_ok] at ok
  obtain ⟨-, own, row, found, other, -, -, -, _, -, _, recorded, moved, _,
    updated, -, rfl⟩ := ok
  obtain ⟨logged, -⟩ := transition_ok moved
  have named : row.proposalId = review.proposalId := find_key found
  have prepared : recorded.insertReview review = { recorded with
      reviews := (ProposalEdit.reviewed review).reviewsIn state
      outcomes := state.outcomes ++
        (ProposalEdit.reviewed review).outcomes (recorded.eventId operationKey) row.proposalId } := by
    simp only [ProposalEdit.reviewsIn, ProposalEdit.outcomes, append_nil, insertReview]
    by_cases present : ∃ other ∈ state.reviews, other.councilReviewId = review.councilReviewId <;>
      cases logged <;> simp only [GovernanceState.logged, present, ↓reduceIte]
  refine .of_update (.recordReview named (not_not.mp own) other) (named ▸ found) logged ?_
    (by rintro _ ⟨⟩) prepared updated
  exact ⟨rfl, named.symm, ⟨_, rfl⟩, rfl, by rintro _ ⟨⟩⟩

theorem recordLifecycle_ok {lifecycle : LifecycleEvidence}
    (ok : recordLifecycle deployment state actor proposalId lifecycle expectedVersion operationKey
      policyVersion = .ok (answered, after)) :
    ProposalWrite deployment state
      ⟨readings, actor, .recordLifecycle proposalId lifecycle expectedVersion operationKey
        policyVersion⟩ after := by
  simp only [recordLifecycle, lifecycleChecks, insertOutcomes, Identity.requires, bind_ok,
    expect_ok, guard_ok, Prod.exists, pure_ok, Prod.mk.injEq, not_not] at ok
  obtain ⟨-, row, found, _, ⟨listed, rfl⟩, _, -, revalidated, _, recorded, moved,
    prepared, ⟨distinct, rfl⟩, written, updated, -, rfl⟩ := ok
  obtain ⟨logged, rfl⟩ := transition_ok moved
  have named : row.proposalId = proposalId := find_key found
  have kept : recorded.outcomes = state.outcomes := by rw [logged.store_only]
  rw [kept, ← named] at distinct updated
  refine .of_update (.recordLifecycle named listed ?_) (named ▸ found) logged ?_ (fun _ _ => distinct)
    ?_ updated
  · by_contra stale
    push Not at stale
    exact revalidated ⟨by simpa using stale.1, stale.2⟩
  · exact ⟨rfl, named.symm, ⟨_, rfl⟩, rfl, fun _ same => same⟩
  · cases logged <;> rfl

theorem recordSynthesis_ok
    (ok : recordSynthesis deployment state actor synthesis expectedVersion operationKey policyVersion =
      .ok (answered, after)) :
    ProposalWrite deployment state
      ⟨readings, actor, .recordSynthesis synthesis expectedVersion operationKey policyVersion⟩
      after := by
  simp only [recordSynthesis, Identity.requires, bind_ok, expect_ok, guard_ok, Prod.exists,
    pair_ok] at ok
  obtain ⟨-, row, found, -, _, -, _, _, moved, _, updated, -, rfl⟩ := ok
  obtain ⟨logged, -⟩ := transition_ok moved
  have named : row.proposalId = synthesis.proposalId := find_key found
  refine .of_update (.recordSynthesis named) (named ▸ found) logged ?_ (by rintro _ ⟨⟩)
    (logged.prepared rfl fun _ => rfl) updated
  exact ⟨rfl, named.symm, ⟨_, rfl⟩, rfl, by rintro _ ⟨⟩⟩

variable {channel : String}

theorem queueOwnerNotification_ok
    (ok : queueOwnerNotification deployment readings state actor proposalId channel package
      expectedVersion operationKey policyVersion = .ok (answered, after)) :
    ∃ between, Aside state between ∧ ProposalWrite deployment between
      ⟨readings, actor, .queueOwnerNotification proposalId channel package expectedVersion operationKey
        policyVersion⟩ after := by
  simp only [queueOwnerNotification, bind_ok, expect_ok, Prod.exists, pair_ok] at ok
  obtain ⟨-, -, row, found, _, -, _, -, _, -, _, -, _,
    notified, sent, recordedId, recorded, moved, written, updated, -, rfl⟩ := ok
  obtain ⟨logged, -⟩ := transition_ok moved
  have aside := notify_aside sent
  have named : row.proposalId = proposalId := find_key found
  have still : notified.findProposal row.proposalId = some row := by
    unfold findProposal
    rw [aside.proposals, named]
    exact found
  refine ⟨notified, aside, .of_update (.queueOwnerNotification named) still logged ?_
    (by simp) (logged.prepared rfl fun _ => rfl) updated⟩
  exact ⟨rfl, named.symm, ⟨_, rfl⟩, rfl, fun _ same => by cases same⟩

theorem passingLifecycle_ok
    (ok : passingLifecycle deployment state proposalId row = .ok lifecycleEventId) :
    row.lifecycle.tests ≠ [] ∧ ¬row.lifecycle.hasFailure := by
  simp only [passingLifecycle, bind_ok, guard_ok, not_or] at ok
  obtain ⟨-, -, complete, -⟩ := ok
  exact complete

theorem recordOwnerDelivery_ok
    (ok : recordOwnerDelivery deployment state actor proposalId channel expectedVersion operationKey
      policyVersion = .ok (answered, after)) :
    ProposalWrite deployment state
      ⟨readings, actor, .recordOwnerDelivery proposalId channel expectedVersion operationKey
        policyVersion⟩ after := by
  simp only [recordOwnerDelivery, bind_ok, expect_ok, guard_ok, Prod.exists, pair_ok] at ok
  obtain ⟨-, -, row, found, _, passing, notificationId, -, receipt, received, -,
    recordedId, recorded, moved, written, updated, -, rfl⟩ := ok
  obtain ⟨logged, -⟩ := transition_ok moved
  have named : row.proposalId = proposalId := find_key found
  have about : receipt.notificationId = notificationId := by
    have matching := find?_some received
    simp only [decide_eq_true_eq] at matching
    exact matching.1
  have edits : Edits deployment state row
      ⟨readings, actor, .recordOwnerDelivery proposalId channel expectedVersion operationKey
        policyVersion⟩
      (.delivered ⟨channel, notificationId, receipt.providerMessageId, receipt.deliveredAt,
        row.lifecycle⟩) :=
    .recordOwnerDelivery named rfl (passingLifecycle_ok passing)
      ⟨receipt, mem_of_find?_eq_some received, about, rfl⟩
  refine .of_update edits (named ▸ found) logged ?_ (by simp)
    (logged.prepared rfl fun _ => rfl) updated
  exact ⟨rfl, named.symm, ⟨_, rfl⟩, rfl, fun _ same => same⟩

theorem decide_ok
    (ok : decide deployment readings state actor proposalId verdict reason expectedVersion operationKey
      policyVersion = .ok (answered, after)) :
    after = state ∨ ∃ between, Aside state between ∧ ProposalWrite deployment between
      ⟨readings, actor, .decide proposalId verdict reason expectedVersion operationKey policyVersion⟩
      after := by
  simp only [Liki.Governance.decide, Identity.requires, bind_ok, guard_ok] at ok
  obtain ⟨-, -, -, ok⟩ := ok
  split at ok
  · simp only [bind_ok, expect_ok, guard_ok, pair_ok] at ok
    obtain ⟨-, persisted, -, -, rfl⟩ := ok
    exact .inl rfl
  · rename_i absent
    simp only [bind_ok, expect_ok, guard_ok, Prod.exists, pair_ok, not_not] at ok
    obtain ⟨row, found, first, attestationId, filed, attested, _, _, moved, _,
      updated, -, rfl⟩ := ok
    obtain ⟨logged, -⟩ := transition_ok moved
    have aside := insertArtifact_aside attested
    have unused : filed.findEvent operationKey = none := by
      rw [findEvent_eq, insertArtifact_events attested]
      exact absent
    have named : row.proposalId = proposalId := find_key found
    have still : filed.findProposal row.proposalId = some row := by
      unfold findProposal
      rw [aside.proposals, named]
      exact found
    have edits : Edits deployment filed row
        ⟨readings, actor, .decide proposalId verdict reason expectedVersion operationKey policyVersion⟩
        (.decided (ownerDecision deployment readings actor proposalId verdict attestationId
          (attestationContent deployment readings row actor proposalId verdict reason expectedVersion
            operationKey policyVersion))) :=
      .decide named unused first rfl (by simp [ownerDecision]) rfl
    refine .inr ⟨filed, aside, .of_update edits still logged ?_ (by rintro _ ⟨⟩)
      (logged.prepared rfl fun _ => rfl) updated⟩
    refine ⟨rfl, named.symm, ⟨_, rfl⟩, ?_, by rintro _ ⟨⟩⟩
    cases verdict <;> rfl

theorem evaluate_ok
    (ok : evaluate deployment readings state actor proposalId expectedVersion operationKey policyVersion
      changeSetId = .ok (answered, after)) :
    ProposalWrite deployment state
      ⟨readings, actor, .evaluate proposalId expectedVersion operationKey policyVersion changeSetId⟩
      after := by
  simp only [evaluate, Identity.requires, bind_ok, expect_ok, guard_ok, Prod.exists, pair_ok] at ok
  obtain ⟨-, row, found, _, classified, _, grouped, _, current, _,
    -, recordedId, recorded, moved, written, updated, -, rfl⟩ := ok
  obtain ⟨logged, -⟩ := transition_ok moved
  have named : row.proposalId = proposalId := find_key found
  refine .of_update (.evaluate named classified current grouped) (named ▸ found) logged ?_
    (by rintro _ ⟨⟩) (logged.prepared rfl fun _ => rfl) updated
  exact ⟨rfl, named.symm, ⟨_, rfl⟩, rfl, by rintro _ ⟨⟩⟩

def deployedPolicies (policies : List PolicyRow) (policyId policyVersion : String) : List PolicyRow :=
  KeyedRows.update PolicyRow.key (policyId, policyVersion) (fun row => { row with status := .effective })
    (policies.map fun row =>
      if row.policyId = policyId ∧ row.status = .effective then { row with status := .retired } else row)

inductive PolicyWrite (state : GovernanceState) : GovernanceCall → GovernanceState → Prop where
  | registered {readings actor policy artifact operationKey effective recorded}
      (logged : Logged state operationKey (policyRequest actor policy.policyId policy.policyVersion 0
        (registeredStatus effective) "POLICY_REGISTERED" policy.policyId policy.policyVersion
        artifact.artifactId) recorded)
      (first : effective → state.effectivePolicy policy.policyId = none)
      (absent : state.findPolicy policy.policyId policy.policyVersion = none)
      (unfrozen : effective → ¬state.promotionsFrozen) :
      PolicyWrite state ⟨readings, actor, .registerPolicy policy artifact operationKey effective⟩
        { recorded with policies := state.policies ++ [⟨policy.policyId, policy.policyVersion,
          policy.contentHash, registeredStatus effective, artifact.artifactId⟩] }
  | reregistered {readings actor policy artifact operationKey effective recorded row}
      (logged : Logged state operationKey (policyRequest actor policy.policyId policy.policyVersion 0
        (registeredStatus effective) "POLICY_REGISTERED" policy.policyId policy.policyVersion
        artifact.artifactId) recorded)
      (first : effective → state.effectivePolicy policy.policyId = none)
      (present : state.findPolicy policy.policyId policy.policyVersion = some row) :
      PolicyWrite state ⟨readings, actor, .registerPolicy policy artifact operationKey effective⟩
        recorded
  | activated {readings actor policyId policyVersion proposalId expectedVersion operationKey recorded
        current target}
      (logged : Logged state operationKey (policyRequest actor policyId policyVersion expectedVersion
        .effective "POLICY_ACTIVATED" proposalId current.policyVersion target.policyArtifactId) recorded)
      (current : state.effectivePolicy policyId = some current)
      (found : state.findPolicy policyId policyVersion = some target) (draft : target.status = .draft)
      (unfrozen : ¬state.promotionsFrozen) :
      PolicyWrite state
        ⟨readings, actor, .activatePolicy policyId policyVersion proposalId expectedVersion operationKey⟩
        { recorded with policies := deployedPolicies state.policies policyId policyVersion }
  | rolledBack {readings actor policyId policyVersion expectedVersion operationKey recorded current
        target}
      (logged : Logged state operationKey (policyRequest actor policyId policyVersion expectedVersion
        .effective "POLICY_ROLLED_BACK" policyId current.policyVersion target.policyArtifactId) recorded)
      (current : state.effectivePolicy policyId = some current)
      (found : state.findPolicy policyId policyVersion = some target)
      (retired : target.status = .retired) (unfrozen : ¬state.promotionsFrozen) :
      PolicyWrite state
        ⟨readings, actor, .rollbackPolicy policyId policyVersion expectedVersion operationKey⟩
        { recorded with policies := deployedPolicies state.policies policyId policyVersion }

theorem effectivePolicy_logged (logged : Logged state operationKey request after) (policyId : String) :
    after.effectivePolicy policyId = state.effectivePolicy policyId := by
  cases logged <;> rfl

theorem registerPolicy_ok {artifact : ArtifactProvenance}
    (ok : registerPolicy deployment state actor policy artifact operationKey effective =
      .ok (answered, after)) :
    PolicyWrite state ⟨readings, actor, .registerPolicy policy artifact operationKey effective⟩
      after := by
  simp only [registerPolicy, insertPolicy, guardPromotionFreeze, Identity.requires, bind_ok,
    guard_ok, Prod.exists, pair_ok] at ok
  obtain ⟨-, -, -, recordedId, recorded, moved, first, written, ⟨unfrozen, placed⟩, -, rfl⟩ := ok
  obtain ⟨logged, -⟩ := transition_ok moved
  have kept : recorded.policies = state.policies := by rw [logged.store_only]
  have lookup : recorded.findPolicy policy.policyId policy.policyVersion =
      state.findPolicy policy.policyId policy.policyVersion := by
    unfold findPolicy
    rw [kept]
  have alone : effective → state.effectivePolicy policy.policyId = none := by
    intro chosen
    rw [effectivePolicy_logged logged] at first
    simpa [chosen] using first
  simp only [lookup] at placed
  split at placed
  · rename_i row present
    cases placed
    exact .reregistered logged alone present
  · rename_i absent
    simp only [bind_ok, guard_ok, pure_ok] at placed
    obtain ⟨-, rfl⟩ := placed
    rw [kept]
    refine .registered logged alone absent ?_
    intro chosen frozen
    exact unfrozen ⟨by simp [registeredStatus, chosen, GuardedRow.promoting],
      (promotionsFrozen_logged logged).mpr frozen⟩

variable {policyId : String}

theorem makeEffective_ok {recorded : GovernanceState}
    (logged : Logged state operationKey request recorded)
    (ok : recorded.makeEffective policyId policyVersion = .ok after) :
    ¬state.promotionsFrozen ∧
      after = { recorded with policies := deployedPolicies state.policies policyId policyVersion } := by
  simp only [makeEffective, guardPromotionFreeze, bind_ok, guard_ok, pure_ok] at ok
  obtain ⟨unfrozen, rfl⟩ := ok
  have kept : recorded.policies = state.policies := by rw [logged.store_only]
  refine ⟨fun frozen => unfrozen ⟨rfl, (promotionsFrozen_logged logged).mpr frozen⟩, ?_⟩
  simp only [retirePolicy, deployedPolicies, kept]

theorem activatePolicy_ok
    (ok : activatePolicy state actor policyId policyVersion proposalId expectedVersion operationKey =
      .ok (answered, after)) :
    PolicyWrite state
      ⟨readings, actor, .activatePolicy policyId policyVersion proposalId expectedVersion operationKey⟩
      after := by
  simp only [activatePolicy, Identity.requires, bind_ok, expect_ok, guard_ok, Prod.exists, pair_ok,
    Option.filter_eq_some_iff] at ok
  obtain ⟨-, _, effective, _, ⟨found, draft⟩, _, -, _, -, -, _,
    recorded, moved, written, deployed, -, rfl⟩ := ok
  obtain ⟨logged, -⟩ := transition_ok moved
  obtain ⟨unfrozen, rfl⟩ := makeEffective_ok logged deployed
  exact .activated logged effective found (by simpa using draft) unfrozen

theorem rollbackPolicy_ok
    (ok : rollbackPolicy state actor policyId policyVersion expectedVersion operationKey =
      .ok (answered, after)) :
    PolicyWrite state
      ⟨readings, actor, .rollbackPolicy policyId policyVersion expectedVersion operationKey⟩ after := by
  simp only [rollbackPolicy, Identity.requires, bind_ok, expect_ok, guard_ok, Prod.exists, pair_ok,
    Option.filter_eq_some_iff] at ok
  obtain ⟨-, _, effective, _, ⟨found, retired⟩, _, _, moved, _,
    deployed, -, rfl⟩ := ok
  obtain ⟨logged, -⟩ := transition_ok moved
  obtain ⟨unfrozen, rfl⟩ := makeEffective_ok logged deployed
  exact .rolledBack logged effective found (by simpa using retired) unfrozen

end Liki.Governance
