import Liki.Governance.Vetoes
import Liki.Library.EventLog

/-! The columns that repeat the log: the status of a proposal and the effective version of
a policy. A fresh call writes its event and its row together. A replayed call gets its old
event back and writes the row all the same, so what it does depends on what has happened
since. -/
namespace Liki.Governance
open Checks GovernanceState CallSystem EventLog List KeyedRows Store

variable {deployment : Deployment} {state between after : GovernanceState} {call : GovernanceCall}
  {operationKey proposalId policyId policyVersion : String} {request : GovernanceTransition}

def GovernanceAggregate.proposalStatus : GovernanceAggregate → Option ProposalStatus
  | .proposal status _ => some status
  | _ => none

def deployedVersion (policyId : String) (event : GovernanceEvent) : Option String :=
  match event.request.state with
  | .policy .effective named version =>
    if event.request.kind = "policy_version" ∧ named = policyId ∧ event.request.eventType ∈
        ["POLICY_REGISTERED", "POLICY_ACTIVATED", "POLICY_ROLLED_BACK"] then some version
    else none
  | _ => none

def Deploys (policyId : String) (event : GovernanceEvent) : Prop := deployedVersion policyId event ≠ none

instance (policyId : String) : DecidablePred (Deploys policyId) :=
    fun _ => inferInstanceAs (Decidable (_ ≠ _))

def effectiveByLog (state : GovernanceState) (policyId : String) : Option String :=
  (latest (Deploys policyId) state.store.events).bind (deployedVersion policyId)

def statusByLog (state : GovernanceState) (proposalId : String) : Option ProposalStatus :=
  (state.store.state "governance_proposal" proposalId).bind fun aggregate =>
    aggregate.state.proposalStatus

def StatusesFollow (state : GovernanceState) : Prop :=
  ∀ proposalId row, state.findProposal proposalId = some row →
    statusByLog state proposalId = some row.status

def PoliciesFollow (state : GovernanceState) : Prop :=
  ∀ policyId, (state.effectivePolicy policyId).map PolicyRow.policyVersion = effectiveByLog state policyId

def Harmless (state : GovernanceState) (call : GovernanceCall) : Prop :=
  match call.request with
  | .classify _ _ _ _ | .recordReview _ _ _ _ _ | .recordLifecycle _ _ _ _ _ | .recordSynthesis _ _ _ _
  | .evaluate _ _ _ _ _ =>
    ∀ event ∈ state.findEvent call.operationKey, ∀ row ∈ state.findProposal event.request.aggregateId,
      event.request.state.proposalStatus = some row.status
  | .rollbackPolicy _ _ _ _ => state.findEvent call.operationKey = none
  | _ => True

instance (state : GovernanceState) (call : GovernanceCall) : Decidable (Harmless state call) := by
  obtain ⟨_, _, request⟩ := call
  induction request using GovernanceRequest.casesOn <;> unfold Harmless <;> infer_instance

structure ProposalsRecorded (state : GovernanceState) : Prop where
  rows : ∀ event ∈ state.store.events, event.request.kind = "governance_proposal" →
    ∃ row, state.findProposal event.request.aggregateId = some row
  versions : ∀ proposalId row, state.findProposal proposalId = some row →
    state.store.version "governance_proposal" proposalId ≠ 0

theorem ProposalsRecorded.of_replayed (kept : ProposalsRecorded state)
    (recorded : state.Replayed operationKey request) (kind : request.kind = "governance_proposal") :
    ∃ row, state.findProposal request.aggregateId = some row := by
  obtain ⟨event, held, rfl⟩ := recorded
  exact kept.rows event (find_mem held) kind

theorem Logged.version_ne_zero (logged : Logged state operationKey request after) {kind id : String}
    (versioned : state.store.version kind id ≠ 0) : after.store.version kind id ≠ 0 := by
  cases logged with
  | replayed => exact versioned
  | appended topic _ current =>
    have grown : state.store.version kind id ≤
        (state.store.append operationKey request topic).version kind id :=
      version_le_append kind id current
    change (state.store.append operationKey request topic).version kind id ≠ 0
    omega

theorem ProposalsRecorded.quiet (kept : ProposalsRecorded state)
    (quiet : Quiet "governance_proposal" state after)
    (rows : ∀ proposalId, after.findProposal proposalId = state.findProposal proposalId) :
    ProposalsRecorded after := by
  obtain ⟨_, events, others⟩ := quiet.events
  constructor
  · intro event member kind
    rw [events] at member
    rw [rows]
    rcases mem_append.mp member with older | newer
    · exact kept.rows event older kind
    · exact absurd kind (others event newer)
  · intro proposalId row found
    rw [rows] at found
    unfold version
    rw [quiet.aggregates]
    exact kept.versions proposalId row found

theorem ProposalsRecorded.write (kept : ProposalsRecorded state)
    (write : ProposalWrite deployment state call after) : ProposalsRecorded after := by
  constructor
  · intro event member kind
    by_cases older : event ∈ state.store.events
    · obtain ⟨row, found⟩ := kept.rows event older kind
      rcases write.kept found with same | ⟨edit, -, edited⟩
      · exact ⟨row, same⟩
      · exact ⟨_, edited⟩
    · rcases write.events with same | ⟨request, -, events, source⟩
      · exact absurd (same ▸ member) older
      · rw [events] at member
        have newest : event = ⟨call.operationKey, request⟩ := by
          simpa [older] using mem_append.mp member
        subst newest
        cases source with
        | proposed _ named _ found => exact ⟨_, named ▸ found⟩
        | edited _ _ requested written => exact ⟨_, requested.aggregateId ▸ written⟩
  · intro proposalId row found
    cases write with
    | proposed logged authored absent unfrozen =>
      rw [findProposal, findProposal_inserted absent] at found
      split at found
      · rename_i named
        subst named
        cases logged with
        | replayed recorded =>
          obtain ⟨old, present⟩ := kept.of_replayed recorded rfl
          exact absurd (present.symm.trans absent) (by simp)
        | appended =>
          simp only [GovernanceState.logged, version_append]
          rw [if_pos ⟨rfl, rfl⟩]
          omega
      · exact logged.version_ne_zero (kept.versions proposalId row found)
    | reproposed logged =>
      rw [findProposal_logged logged] at found
      exact logged.version_ne_zero (kept.versions proposalId row found)
    | edited _ _ logged =>
      simp only [findProposal, findProposal_edited] at found
      split at found
      · obtain ⟨old, present, -⟩ := Option.map_eq_some_iff.mp found
        exact logged.version_ne_zero (kept.versions proposalId old present)
      · exact logged.version_ne_zero (kept.versions proposalId row found)

theorem Aside.findEvent (aside : Aside state between)
    (found : between.findEvent operationKey = some event) (ruled : event.request.kind ∈ ruledKinds) :
    state.findEvent operationKey = some event := by
  obtain ⟨_, events, others⟩ := aside.events
  rw [findEvent_eq, events, find?_append] at found
  rcases Option.or_eq_some_iff.mp found with older | ⟨-, newer⟩
  · exact older
  · exact absurd ruled (others event (mem_of_find?_eq_some newer))

theorem Edits.replayed {row : ProposalRow} {edit : ProposalEdit}
    (edits : Edits deployment between row call edit)
    (aside : Aside state between) (harmless : Harmless state call)
    (found : between.findProposal row.proposalId = some row) (requested : EditRequest edit row request)
    (recorded : between.Replayed call.operationKey request) : (edit.apply row).status = row.status := by
  obtain ⟨event, held, same⟩ := recorded
  have inLog : state.findEvent call.operationKey = some event := by
    refine aside.findEvent held ?_
    rw [same, requested.kind]
    decide
  have present : state.findProposal event.request.aggregateId = some row := by
    rw [same, requested.aggregateId, ← aside.findProposal]
    exact found
  have named : event.request.state.proposalStatus = some (edit.apply row).status := by
    obtain ⟨_, written⟩ := requested.state
    rw [same, written]
    rfl
  have still : event.request.state.proposalStatus = some row.status →
      (edit.apply row).status = row.status := by
    intro before
    rw [named] at before
    exact Option.some.inj before
  cases edits with
  | classify | recordReview | recordLifecycle | recordSynthesis | evaluate =>
    exact still (harmless event inLog row present)
  | queueOwnerNotification | recordOwnerDelivery => rfl
  | decide _ unused => exact absurd (held.symm.trans unused) nofun

theorem statusByLog_quiet (quiet : Quiet "governance_proposal" state after) (proposalId : String) :
    statusByLog after proposalId = statusByLog state proposalId := by
  unfold statusByLog
  rw [quiet.aggregates]

theorem StatusesFollow.quiet (follow : StatusesFollow state)
    (quiet : Quiet "governance_proposal" state after)
    (rows : ∀ proposalId, after.findProposal proposalId = state.findProposal proposalId) :
    StatusesFollow after := by
  intro proposalId row found
  rw [rows] at found
  rw [statusByLog_quiet quiet]
  exact follow proposalId row found

theorem statusByLog_logged (kind : request.kind = "governance_proposal") :
    statusByLog (state.logged operationKey request topic) proposalId =
      if request.aggregateId = proposalId then request.state.proposalStatus
      else statusByLog state proposalId := by
  unfold statusByLog GovernanceState.logged
  rw [state_append]
  by_cases same : request.aggregateId = proposalId
  · rw [if_pos ⟨kind, same⟩, if_pos same]
    rfl
  · rw [if_neg fun both => same both.2, if_neg same]

theorem StatusesFollow.write (follow : StatusesFollow between) (kept : ProposalsRecorded between)
    (aside : Aside state between) (harmless : Harmless state call)
    (write : ProposalWrite deployment between call after) : StatusesFollow after := by
  intro proposalId row found
  cases write with
  | @proposed readings actor proposal operationKey policyVersion artifactIds recorded logged authored
      absent unfrozen =>
    cases logged with
    | replayed recorded =>
      obtain ⟨old, present⟩ := kept.of_replayed recorded rfl
      exact absurd (present.symm.trans absent) nofun
    | appended topic fresh current =>
      refine (statusByLog_logged rfl).trans ?_
      rw [findProposal, findProposal_inserted absent] at found
      split at found
      · rename_i named
        subst named
        cases found
        exact if_pos rfl
      · rename_i differ
        exact (if_neg (Ne.symm differ)).trans (follow proposalId row found)
  | reproposed logged present =>
    cases logged with
    | replayed => exact follow proposalId row found
    | appended _ _ current => exact absurd current.symm (kept.versions _ _ present)
  | @edited call old edit request recorded edits held logged requested unfrozen distinct =>
    simp only [findProposal, findProposal_edited] at found
    cases logged with
    | replayed recorded =>
      have still := edits.replayed aside harmless held requested recorded
      split at found
      · rename_i named
        subst named
        rw [findProposal] at held
        rw [held] at found
        cases found
        exact (follow _ old held).trans (congrArg some still.symm)
      · exact follow proposalId row found
    | appended topic fresh current =>
      refine (statusByLog_logged requested.kind).trans ?_
      rw [requested.aggregateId]
      split at found
      · rename_i named
        subst named
        rw [findProposal] at held
        rw [held] at found
        cases found
        obtain ⟨version, written⟩ := requested.state
        rw [if_pos rfl, written]
        rfl
      · rename_i differ
        exact (if_neg (Ne.symm differ)).trans (follow proposalId row found)

def redeployed (policyId policyVersion : String) (row : PolicyRow) : PolicyRow :=
  if row.key = (policyId, policyVersion) then { row with status := .effective }
  else if row.policyId = policyId ∧ row.status = .effective then { row with status := .retired }
  else row

theorem deployedPolicies_eq (policies : List PolicyRow) :
    deployedPolicies policies policyId policyVersion = policies.map
      (redeployed policyId policyVersion) := by
  unfold deployedPolicies update
  rw [map_map]
  refine map_congr_left fun row _ => ?_
  simp only [Function.comp, redeployed]
  by_cases replaced : row.policyId = policyId ∧ row.status = .effective
  · simp only [if_pos replaced, PolicyRow.key]
  · simp only [if_neg replaced]

@[simp] theorem redeployed_key (row : PolicyRow) :
    (redeployed policyId policyVersion row).key = row.key := by
  unfold redeployed
  split_ifs <;> rfl

@[simp] theorem redeployed_policyId (row : PolicyRow) :
    (redeployed policyId policyVersion row).policyId = row.policyId := by
  unfold redeployed
  split_ifs <;> rfl

@[simp] theorem redeployed_policyVersion (row : PolicyRow) :
    (redeployed policyId policyVersion row).policyVersion = row.policyVersion := by
  unfold redeployed
  split_ifs <;> rfl

theorem redeployed_drafted {row : PolicyRow}
    (drafted : (redeployed policyId policyVersion row).status = .draft) :
    row.status = .draft ∧ row.key ≠ (policyId, policyVersion) := by
  unfold redeployed at drafted
  split_ifs at drafted with own replaced
  exact ⟨drafted, own⟩

theorem redeployed_effective {row : PolicyRow} :
    (redeployed policyId policyVersion row).policyId = policyId ∧
        (redeployed policyId policyVersion row).status = .effective ↔
      row.key = (policyId, policyVersion) := by
  unfold redeployed
  split_ifs with own replaced
  · simp_all [PolicyRow.key]
  · simp_all
  · simp only [own, iff_false]
    exact replaced

theorem findPolicy_deployed
    (policies : after.policies = deployedPolicies state.policies policyId policyVersion)
    (named version : String) :
    after.findPolicy named version =
      (state.findPolicy named version).map (redeployed policyId policyVersion) := by
  unfold findPolicy
  rw [policies, deployedPolicies_eq]
  exact find_map redeployed_key

theorem effectivePolicy_deployed
    (policies : after.policies = deployedPolicies state.policies policyId policyVersion)
    (found : state.findPolicy policyId policyVersion = some target) :
    (after.effectivePolicy policyId).map PolicyRow.policyVersion = some policyVersion := by
  have same : state.policies.find? ((fun row : PolicyRow => Decidable.decide
      (row.policyId = policyId ∧ row.status = .effective)) ∘ redeployed policyId policyVersion) =
        some target := by
    rw [← found]
    unfold findPolicy find
    congr 1
    funext row
    simp only [Function.comp, redeployed_effective]
  unfold effectivePolicy
  rw [policies, deployedPolicies_eq, find?_map, same]
  simp only [Option.map_some, redeployed_policyVersion]
  exact congrArg (fun key : String × String => some key.2) (find_key found)

theorem effectivePolicy_deployed_other
    (policies : after.policies = deployedPolicies state.policies policyId policyVersion)
    (differ : other ≠ policyId) : after.effectivePolicy other =
      state.effectivePolicy other := by
  have still : ∀ row : PolicyRow, row.policyId = other → redeployed policyId policyVersion row = row := by
    intro row named
    have apart : row.policyId ≠ policyId := named ▸ differ
    simp [redeployed, PolicyRow.key, apart]
  have same : state.policies.find? ((fun row : PolicyRow => Decidable.decide
      (row.policyId = other ∧ row.status = .effective)) ∘ redeployed policyId policyVersion) =
        state.effectivePolicy other := by
    unfold effectivePolicy
    congr 1
    funext row
    by_cases named : row.policyId = other
    · simp only [Function.comp, still row named]
    · simp [Function.comp, named]
  unfold effectivePolicy at same ⊢
  rw [policies, deployedPolicies_eq, find?_map, same]
  cases found : state.policies.find? fun row => Decidable.decide (row.policyId = other ∧
    row.status = .effective) with
  | none => rfl
  | some row =>
    have named := find?_some found
    simp only [decide_eq_true_eq] at named
    rw [Option.map_some, still row named.1]

structure PoliciesRecorded (state : GovernanceState) : Prop where
  rows : ∀ event ∈ state.store.events, event.request.kind = "policy_version" →
    ∀ status named version, event.request.state = .policy status named version →
      ∃ row, state.findPolicy named version = some row ∧ (status = .effective → row.status ≠ .draft)
  versions : ∀ named version row, state.findPolicy named version = some row →
    state.store.version "policy_version" (named ++ ":" ++ version) ≠ 0

theorem PoliciesRecorded.of_replayed (kept : PoliciesRecorded state)
    (recorded : state.Replayed operationKey request) (kind : request.kind = "policy_version")
    (written : request.state = .policy status policyId policyVersion) :
    ∃ row, state.findPolicy policyId policyVersion = some row ∧
      (status = .effective → row.status ≠ .draft) := by
  obtain ⟨event, held, rfl⟩ := recorded
  exact kept.rows event (find_mem held) kind status policyId policyVersion written

theorem PoliciesRecorded.quiet (kept : PoliciesRecorded state) (quiet : Quiet "policy_version" state after)
    (policies : after.policies = state.policies) : PoliciesRecorded after := by
  obtain ⟨_, events, others⟩ := quiet.events
  have lookup : ∀ named version, after.findPolicy named version = state.findPolicy named version := by
    intro named version
    unfold findPolicy
    rw [policies]
  constructor
  · intro event member kind status named version written
    rw [events] at member
    rw [lookup]
    rcases mem_append.mp member with older | newer
    · exact kept.rows event older kind status named version written
    · exact absurd kind (others event newer)
  · intro named version row found
    rw [lookup] at found
    unfold Store.version
    rw [quiet.aggregates]
    exact kept.versions named version row found

theorem effectiveByLog_quiet (quiet : Quiet "policy_version" state after) (policyId : String) :
    effectiveByLog after policyId = effectiveByLog state policyId := by
  obtain ⟨more, events, others⟩ := quiet.events
  have silent : ∀ event ∈ more, ¬Deploys policyId event := by
    intro event member deploys
    refine deploys ?_
    unfold deployedVersion
    split
    · exact if_neg fun said => others event member said.1
    · rfl
  unfold effectiveByLog
  rw [events, latest_append_others silent]

theorem PoliciesFollow.quiet (follow : PoliciesFollow state) (quiet : Quiet "policy_version" state after)
    (policies : after.policies = state.policies) : PoliciesFollow after := by
  intro policyId
  rw [effectiveByLog_quiet quiet, effectivePolicy, policies]
  exact follow policyId

/-- One more event about a policy, recorded behind rows that keep theirs. -/
theorem PoliciesRecorded.append (kept : PoliciesRecorded state)
    (logged : Logged state operationKey request between)
    (written : request.state = .policy status policyId policyVersion)
    (store : after.store = between.store)
    (grown : ∀ named version row, state.findPolicy named version = some row → ∃ now,
      after.findPolicy named version = some now ∧ (row.status ≠ .draft → now.status ≠ .draft))
    (own : ∃ now, after.findPolicy policyId policyVersion = some now ∧
      (status = .effective → now.status ≠ .draft))
    (rows : ∀ named version row, after.findPolicy named version = some row →
      (∃ old, state.findPolicy named version = some old) ∨
        (between.store.version "policy_version" (named ++ ":" ++ version) ≠ 0)) :
    PoliciesRecorded after := by
  constructor
  · intro event member kind said named version states
    by_cases older : event ∈ state.store.events
    · obtain ⟨row, found, drafted⟩ := kept.rows event older kind said named version states
      obtain ⟨now, present, undrafted⟩ := grown named version row found
      exact ⟨now, present, fun effective => undrafted (drafted effective)⟩
    · rw [store] at member
      rcases logged.events with same | ⟨-, events⟩
      · exact absurd (same ▸ member) older
      · rw [events] at member
        have newest : event = ⟨operationKey, request⟩ := by
          simpa [older] using mem_append.mp member
        subst newest
        rw [written] at states
        cases states
        exact own
  · intro named version row found
    rw [store]
    rcases rows named version row found with ⟨old, present⟩ | fresh
    · exact logged.version_ne_zero (kept.versions named version old present)
    · exact fresh

theorem PoliciesRecorded.deploy (kept : PoliciesRecorded state)
    (logged : Logged state operationKey request between)
    (written : request.state = .policy .effective policyId policyVersion)
    (store : after.store = between.store)
    (found : state.findPolicy policyId policyVersion = some target)
    (policies : after.policies = deployedPolicies state.policies policyId policyVersion) :
    PoliciesRecorded after := by
  have lookup := findPolicy_deployed policies
  refine kept.append logged written store ?_ ?_ ?_
  · intro named version row held
    refine ⟨_, by rw [lookup, held]; rfl, fun undrafted drafted => undrafted ?_⟩
    exact (redeployed_drafted drafted).1
  · refine ⟨_, by rw [lookup, found]; rfl, fun _ drafted => ?_⟩
    exact (redeployed_drafted drafted).2 (find_key found)
  · intro named version row held
    rw [lookup] at held
    obtain ⟨old, present, -⟩ := Option.map_eq_some_iff.mp held
    exact .inl ⟨old, present⟩

theorem PoliciesRecorded.write (kept : PoliciesRecorded state) (write : PolicyWrite state call after) :
    PoliciesRecorded after := by
  cases write with
  | @registered readings actor policy artifact operationKey effective recorded logged first absent
      unfrozen =>
    have row : ∀ {after : GovernanceState}, after.policies = state.policies ++ [⟨policy.policyId,
        policy.policyVersion, policy.contentHash, registeredStatus effective, artifact.artifactId⟩] →
          ∀ named version, after.findPolicy named version =
            if (named, version) = (policy.policyId, policy.policyVersion) then
              some ⟨policy.policyId, policy.policyVersion, policy.contentHash, registeredStatus effective,
                artifact.artifactId⟩
            else state.findPolicy named version := by
      intro after policies named version
      unfold findPolicy
      rw [policies]
      exact find_insert_absent absent
    refine kept.append logged rfl rfl ?_ ?_ ?_
    · intro named version old held
      refine ⟨old, ?_, id⟩
      rw [row rfl, if_neg, held]
      intro same
      cases same
      rw [absent] at held
      cases held
    · refine ⟨_, by rw [row rfl, if_pos rfl], ?_⟩
      intro chosen drafted
      rw [chosen] at drafted
      cases drafted
    · intro named version now held
      rw [row rfl] at held
      split at held
      · rename_i same
        cases same
        refine .inr ?_
        cases logged with
        | replayed recorded =>
          obtain ⟨old, present, -⟩ := kept.of_replayed recorded rfl rfl
          exact absurd (present.symm.trans absent) nofun
        | appended =>
          simp only [GovernanceState.logged, version_append]
          rw [if_pos ⟨rfl, rfl⟩]
          omega
      · exact .inl ⟨now, held⟩
  | @reregistered _ _ _ _ _ _ _ _ logged _ present =>
    cases logged with
    | replayed => exact kept
    | appended _ _ current => exact absurd current.symm (kept.versions _ _ _ present)
  | activated logged _ found => exact kept.deploy logged rfl rfl found rfl
  | rolledBack logged _ found => exact kept.deploy logged rfl rfl found rfl

theorem PoliciesRecorded.effect (kept : PoliciesRecorded state)
    (effect : Effect deployment state call after) : PoliciesRecorded after := by
  have ruled : "policy_version" ∈ ruledKinds := by decide
  cases effect with
  | aside aside => exact kept.quiet (aside.quiet ruled) aside.policies
  | policies write => exact kept.write write
  | proposals aside write =>
    exact (kept.quiet (aside.quiet ruled) aside.policies).quiet (write.quiet (by decide))
      (by rw [write.frame])
  | incidents aside write =>
    exact (kept.quiet (aside.quiet ruled) aside.policies).quiet (write.quiet (by decide))
      (by rw [write.frame])

theorem policiesRecorded_empty : PoliciesRecorded .empty :=
  ⟨by simp [GovernanceState.empty, Store.empty], fun _ _ _ found => by cases found⟩

theorem policies_recorded (deployment : Deployment) (calls : List GovernanceCall) :
    PoliciesRecorded (history deployment calls) :=
  run_preserves PoliciesRecorded policiesRecorded_empty (fun _ _ kept => next_of_answered
    PoliciesRecorded kept fun _ _ ok => kept.effect (effect_of_answer ok)) calls

theorem effectiveByLog_append
    (events : after.store.events = state.store.events ++ [⟨operationKey, request⟩]) :
    effectiveByLog after policyId = match deployedVersion policyId ⟨operationKey, request⟩ with
      | some version => some version
      | none => effectiveByLog state policyId := by
  unfold effectiveByLog
  rw [events, latest_append_one]
  cases deployed : deployedVersion policyId ⟨operationKey, request⟩ with
  | some =>
    have deploys : Deploys policyId ⟨operationKey, request⟩ := by
      unfold Deploys
      rw [deployed]
      exact nofun
    rw [if_pos deploys]
    exact deployed
  | none => rw [if_neg fun deploys : Deploys policyId ⟨operationKey, request⟩ => deploys deployed]

theorem PoliciesFollow.deploy (follow : PoliciesFollow state)
    (events : after.store.events = state.store.events ++ [⟨operationKey, policyRequest actor policyId
      policyVersion expectedVersion .effective eventType task authority artifactId⟩])
    (typed : eventType ∈ ["POLICY_REGISTERED", "POLICY_ACTIVATED", "POLICY_ROLLED_BACK"])
    (found : state.findPolicy policyId policyVersion = some target)
    (policies : after.policies = deployedPolicies state.policies policyId policyVersion) :
    PoliciesFollow after := by
  intro other
  rw [effectiveByLog_append events]
  by_cases same : policyId = other
  · subst same
    have deployed : deployedVersion policyId ⟨operationKey, policyRequest actor policyId policyVersion
        expectedVersion .effective eventType task authority artifactId⟩ = some policyVersion :=
      if_pos ⟨rfl, rfl, typed⟩
    rw [effectivePolicy_deployed policies found, deployed]
  · have silent : deployedVersion other ⟨operationKey, policyRequest actor policyId policyVersion
        expectedVersion .effective eventType task authority artifactId⟩ = none :=
      if_neg fun said => same said.2.1
    rw [effectivePolicy_deployed_other policies (Ne.symm same), silent]
    exact follow other

theorem effectivePolicy_inserted {row : PolicyRow} (policies : after.policies = state.policies ++ [row])
    (other : String) : after.effectivePolicy other = (state.effectivePolicy other).or
      (if row.policyId = other ∧ row.status = .effective then some row else none) := by
  unfold effectivePolicy
  rw [policies, find?_append]
  by_cases hit : row.policyId = other ∧ row.status = .effective <;> simp [hit]

theorem PoliciesFollow.write (follow : PoliciesFollow state) (kept : PoliciesRecorded state)
    (harmless : Harmless state call) (write : PolicyWrite state call after) : PoliciesFollow after := by
  cases write with
  | @registered _ actor policy artifact operationKey effective recorded logged first absent =>
    cases logged with
    | replayed recorded =>
      obtain ⟨old, present, -⟩ := kept.of_replayed recorded rfl rfl
      exact absurd (present.symm.trans absent) nofun
    | appended =>
      intro other
      refine Eq.trans ?_ (effectiveByLog_append rfl).symm
      rw [effectivePolicy_inserted rfl]
      cases effective with
      | false =>
        have unchosen : ¬(policy.policyId = other ∧ registeredStatus false = .effective) :=
          fun chosen => nomatch chosen.2
        rw [if_neg unchosen, Option.or_none]
        exact follow other
      | true =>
        by_cases same : policy.policyId = other
        · subst same
          have deployed : deployedVersion policy.policyId ⟨operationKey, policyRequest actor policy.policyId
              policy.policyVersion 0 (registeredStatus true) "POLICY_REGISTERED" policy.policyId
              policy.policyVersion artifact.artifactId⟩ = some policy.policyVersion :=
            if_pos ⟨rfl, rfl, mem_cons_self⟩
          rw [first rfl, deployed, if_pos ⟨rfl, rfl⟩]
          rfl
        · have silent : deployedVersion other ⟨operationKey, policyRequest actor policy.policyId
              policy.policyVersion 0 (registeredStatus true) "POLICY_REGISTERED" policy.policyId
              policy.policyVersion artifact.artifactId⟩ = none := if_neg fun said => same said.2.1
          rw [if_neg fun chosen => same chosen.1, Option.or_none, silent]
          exact follow other
  | @reregistered _ _ _ _ _ _ _ _ logged _ present =>
    cases logged with
    | replayed => exact follow
    | appended _ _ current => exact absurd current.symm (kept.versions _ _ _ present)
  | activated logged current found draft =>
    cases logged with
    | replayed recorded =>
      obtain ⟨_, present, undrafted⟩ := kept.of_replayed recorded rfl rfl
      rw [found] at present
      cases present
      exact absurd draft (undrafted rfl)
    | appended => exact follow.deploy rfl (by decide) found rfl
  | rolledBack logged current found =>
    cases logged with
    | replayed recorded =>
      obtain ⟨_, held, -⟩ := recorded
      exact absurd (held.symm.trans harmless) nofun
    | appended => exact follow.deploy rfl (by decide) found rfl

/-- What harmless calls keep. -/
structure Projected (state : GovernanceState) : Prop where
  proposals : ProposalsRecorded state
  policies : PoliciesRecorded state
  statuses : StatusesFollow state
  effective : PoliciesFollow state

theorem Projected.quiet (kept : Projected state) (proposals : Quiet "governance_proposal" state after)
    (policies : Quiet "policy_version" state after)
    (rows : ∀ proposalId, after.findProposal proposalId = state.findProposal proposalId)
    (versions : after.policies = state.policies) : Projected after :=
  ⟨kept.proposals.quiet proposals rows, kept.policies.quiet policies versions,
    kept.statuses.quiet proposals rows, kept.effective.quiet policies versions⟩

theorem Projected.aside (kept : Projected state) (aside : Aside state between) : Projected between :=
  kept.quiet (aside.quiet (by simp [ruledKinds])) (aside.quiet (by simp [ruledKinds]))
    aside.findProposal aside.policies

theorem Projected.effect (kept : Projected state) (harmless : Harmless state call)
    (effect : Effect deployment state call after) : Projected after := by
  have recorded := kept.policies.effect effect
  cases effect with
  | aside aside => exact kept.aside aside
  | incidents aside write =>
    exact (kept.aside aside).quiet (write.quiet (by decide)) (write.quiet (by decide))
      (fun _ => by rw [write.frame]; rfl) (by rw [write.frame])
  | policies write =>
    have quiet : Quiet "governance_proposal" state after := write.quiet (by decide)
    have rows : ∀ proposalId, after.findProposal proposalId = state.findProposal proposalId :=
      fun _ => by rw [write.frame]; rfl
    exact ⟨kept.proposals.quiet quiet rows, recorded, kept.statuses.quiet quiet rows,
      kept.effective.write kept.policies harmless write⟩
  | @proposals between _ aside write =>
    have stepped := kept.aside aside
    have quiet : Quiet "policy_version" between after := write.quiet (by decide)
    have versions : after.policies = between.policies := by rw [write.frame]
    exact ⟨stepped.proposals.write write, recorded,
      stepped.statuses.write stepped.proposals aside harmless write,
      stepped.effective.quiet quiet versions⟩

theorem projected_empty : Projected .empty where
  proposals := ⟨by simp [GovernanceState.empty, Store.empty], fun _ _ found => by cases found⟩
  policies := policiesRecorded_empty
  statuses := fun _ _ found => by cases found
  effective := fun _ => rfl

theorem Logged.of_used (logged : Logged state operationKey request after)
    (used : operationKey ∈ state.store.keys) : after.store = state.store := by
  cases logged with
  | replayed => rfl
  | appended _ fresh => exact absurd used fresh

theorem PolicyWrite.of_used (write : PolicyWrite state call after)
    (used : call.operationKey ∈ state.store.keys) : after.store = state.store := by
  cases write with
  | registered logged => exact logged.of_used used
  | reregistered logged => exact logged.of_used used
  | activated logged => exact logged.of_used used
  | rolledBack logged => exact logged.of_used used

theorem ProposalWrite.of_used (write : ProposalWrite deployment state call after)
    (used : call.operationKey ∈ state.store.keys) : after.store = state.store := by
  cases write with
  | proposed logged => exact logged.of_used used
  | reproposed logged => exact logged.of_used used
  | edited _ _ logged => exact logged.of_used used

/-- A replayed call records nothing about proposals or policies. -/
theorem Effect.of_used (effect : Effect deployment state call after)
    (used : call.operationKey ∈ state.store.keys) :
    (∀ proposalId, statusByLog after proposalId = statusByLog state proposalId) ∧
      ∀ policyId, effectiveByLog after policyId = effectiveByLog state policyId := by
  have aside : ∀ {between}, Aside state between →
      (∀ proposalId, statusByLog between proposalId = statusByLog state proposalId) ∧
        ∀ policyId, effectiveByLog between policyId = effectiveByLog state policyId := fun stepped =>
    ⟨statusByLog_quiet (stepped.quiet (by simp [ruledKinds])),
      effectiveByLog_quiet (stepped.quiet (by simp [ruledKinds]))⟩
  cases effect with
  | aside stepped => exact aside stepped
  | policies write =>
    unfold statusByLog effectiveByLog
    rw [write.of_used used]
    exact ⟨fun _ => rfl, fun _ => rfl⟩
  | @proposals between _ stepped write =>
    obtain ⟨_, events, -⟩ := stepped.events
    have still : call.operationKey ∈ between.store.keys := by
      rw [Store.keys, events, map_append]
      exact mem_append_left _ used
    unfold statusByLog effectiveByLog
    rw [write.of_used still]
    exact aside stepped
  | incidents stepped write =>
    obtain ⟨statuses, policies⟩ := aside stepped
    refine ⟨fun proposalId => ?_, fun policyId => ?_⟩
    · rw [statusByLog_quiet (write.quiet (by decide)), statuses]
    · rw [effectiveByLog_quiet (write.quiet (by decide)), policies]

namespace Small

def recorded : GovernanceCall := made 22 governance (.recordLifecycle "GP-1" .empty 1 "lifecycle" "v1")

def vetoedLater : GovernanceCall := made 23 owner (.decide "GP-1" .veto "unsafe" 2 "veto" "v1")

def statuses (calls : List GovernanceCall) : Option ProposalStatus × Option ProposalStatus :=
  (((history Small.deployment calls).findProposal "GP-1").map ProposalRow.status,
    statusByLog (history Small.deployment calls) "GP-1")

end Small

open Governance.Small

end Liki.Governance
