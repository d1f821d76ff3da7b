import Liki.Governance.Projections
import Liki.Governance.Revalidation

/-! Which proposals activate a policy. A classification is made under the effective version
of a policy and keeps its name, its version and its hash, and `activate_policy` compares the
version alone. A classification under the policy itself then carries the effective hash too,
since the rows of a policy keep the hash they were registered with; a classification under
another policy authorises an activation as soon as the two versions are called the same. -/
namespace Liki.Governance
open Checks GovernanceState CallSystem List KeyedRows

variable {deployment : Deployment} {state after : GovernanceState} {call : GovernanceCall}
  {actor : Identity} {operationKey proposalId policyId policyVersion : String} {expectedVersion : ℕ}
  {request : GovernanceTransition} {answered : GovernanceAnswer}

/-- The event makes a version of a policy effective on the authority of a proposal. -/
def Activates (event : GovernanceEvent) : Prop :=
  event.request.kind = "policy_version" ∧ event.request.eventType = "POLICY_ACTIVATED"

instance : DecidablePred Activates := fun _ => inferInstanceAs (Decidable (_ ∧ _))

def UnderAuthority (state : GovernanceState) (event : GovernanceEvent) : Prop :=
  ∃ row ∈ state.proposals, state.findProposal row.proposalId = some row ∧
    event.request.taskId = "governance:" ++ row.proposalId ∧ row.status = .promoted ∧
    ∃ classification ∈ row.classification, Deploys classification.policyId event ∧
      ∃ current ∈ state.effectivePolicy classification.policyId,
        classification.policyVersion = current.policyVersion ∧
          classification.policyContentHash = current.contentHash

instance (state : GovernanceState) (event : GovernanceEvent) : Decidable (UnderAuthority state event) := by
  unfold UnderAuthority
  infer_instance

def RecordedUnderAuthority (deployment : Deployment) (calls : List GovernanceCall) (event : GovernanceEvent) :
    Prop :=
  ∃ earlier call later, calls = earlier ++ call :: later ∧
    (history deployment (earlier ++ [call])).store.events =
      (history deployment earlier).store.events ++ [event] ∧
    UnderAuthority (history deployment earlier) event

def CitesOwnPolicy (state : GovernanceState) (call : GovernanceCall) : Prop :=
  match call.request with
  | .activatePolicy policyId _ proposalId _ _ =>
    ∃ row ∈ state.findProposal proposalId, ∃ classification ∈ row.classification,
      classification.policyId = policyId
  | _ => True

def KeepsHashes (state after : GovernanceState) : Prop :=
  ∀ policyId policyVersion row, state.findPolicy policyId policyVersion = some row →
    ∃ now, after.findPolicy policyId policyVersion = some now ∧ now.contentHash = row.contentHash

theorem KeepsHashes.of_eq (same : after.policies = state.policies) : KeepsHashes state after := by
  intro policyId policyVersion row found
  refine ⟨row, ?_, rfl⟩
  unfold findPolicy
  rw [same]
  exact found

@[simp] theorem redeployed_contentHash (row : PolicyRow) :
    (redeployed policyId policyVersion row).contentHash = row.contentHash := by
  unfold redeployed
  split_ifs <;> rfl

theorem KeepsHashes.deploy
    (policies : after.policies = deployedPolicies state.policies policyId policyVersion) :
    KeepsHashes state after := by
  intro named version row found
  refine ⟨redeployed policyId policyVersion row, ?_, redeployed_contentHash row⟩
  rw [findPolicy_deployed policies, found]
  rfl

theorem PolicyWrite.hashes (write : PolicyWrite state call after) : KeepsHashes state after := by
  cases write with
  | registered =>
    intro named version row found
    exact ⟨row, find_append_some found _, rfl⟩
  | reregistered logged => exact .of_eq (by rw [logged.store_only])
  | activated => exact .deploy rfl
  | rolledBack => exact .deploy rfl

theorem PolicyWrite.distinct (write : PolicyWrite state call after)
    (distinct : KeyedRows.Distinct PolicyRow.key state.policies) :
    KeyedRows.Distinct PolicyRow.key after.policies := by
  have deployed : ∀ policyId policyVersion, KeyedRows.Distinct PolicyRow.key
      (deployedPolicies state.policies policyId policyVersion) := by
    intro policyId policyVersion
    rw [deployedPolicies_eq]
    unfold KeyedRows.Distinct
    rw [map_map, show PolicyRow.key ∘ redeployed policyId policyVersion = PolicyRow.key from
      funext redeployed_key]
    exact distinct
  cases write with
  | registered _ _ absent => exact distinct_insert distinct absent
  | reregistered logged =>
    rw [logged.store_only]
    exact distinct
  | activated => exact deployed _ _
  | rolledBack => exact deployed _ _

theorem findPolicy_effective (distinct : KeyedRows.Distinct PolicyRow.key state.policies)
    (effective : state.effectivePolicy policyId = some current) :
    current.policyId = policyId ∧ state.findPolicy policyId current.policyVersion = some current := by
  have chosen := find?_some effective
  simp only [decide_eq_true_eq] at chosen
  obtain ⟨rfl, -⟩ := chosen
  exact ⟨rfl, find_of_mem distinct (mem_of_find?_eq_some effective)⟩

structure ClassificationsRegistered (state : GovernanceState) : Prop where
  distinct : KeyedRows.Distinct PolicyRow.key state.policies
  registered : ∀ proposalId row classification, state.findProposal proposalId = some row →
    row.classification = some classification →
    ∃ policy, state.findPolicy classification.policyId classification.policyVersion = some policy ∧
      policy.contentHash = classification.policyContentHash

theorem classifyProposal_names {proposal : GovernanceProposal} {policy : GovernancePolicy}
    (ok : classifyProposal proposal policy classifier now = .ok classification) :
    classification.policyId = policy.policyId ∧ classification.policyVersion = policy.policyVersion ∧
      classification.policyContentHash = policy.contentHash := by
  simp only [classifyProposal, bind_ok, guard_ok, pure_ok] at ok
  obtain ⟨-, rfl⟩ := ok
  exact ⟨rfl, rfl, rfl⟩

theorem Edits.classification {row : ProposalRow} {edit : ProposalEdit} {classification : Classification}
    (edits : Edits deployment state row call edit)
    (held : (edit.apply row).classification = some classification) :
    row.classification = some classification ∨
      ∃ policy, state.findPolicy classification.policyId classification.policyVersion = some policy ∧
        policy.contentHash = classification.policyContentHash := by
  cases edits with
  | classify _ classified effective =>
    obtain ⟨registered, found, -, same⟩ := effective
    obtain ⟨policyId, policyVersion, contentHash⟩ := classifyProposal_names classified
    cases held
    rw [policyId, policyVersion, contentHash]
    exact .inr ⟨registered, found, same⟩
  | recordReview | recordLifecycle | recordSynthesis | queueOwnerNotification | recordOwnerDelivery
  | decide | evaluate => exact .inl held

theorem ClassificationsRegistered.keep (kept : ClassificationsRegistered state)
    (distinct : KeyedRows.Distinct PolicyRow.key after.policies) (hashes : KeepsHashes state after)
    (rows : ∀ proposalId, after.findProposal proposalId = state.findProposal proposalId) :
    ClassificationsRegistered after := by
  refine ⟨distinct, fun proposalId row classification found classified => ?_⟩
  rw [rows] at found
  obtain ⟨policy, present, same⟩ := kept.registered proposalId row classification found classified
  obtain ⟨now, still, hash⟩ := hashes _ _ policy present
  exact ⟨now, still, hash.trans same⟩

theorem ClassificationsRegistered.frame (kept : ClassificationsRegistered state)
    (policies : after.policies = state.policies)
    (rows : ∀ proposalId, after.findProposal proposalId = state.findProposal proposalId) :
    ClassificationsRegistered after :=
  kept.keep (policies ▸ kept.distinct) (.of_eq policies) rows

theorem ClassificationsRegistered.write (kept : ClassificationsRegistered state)
    (write : ProposalWrite deployment state call after) : ClassificationsRegistered after := by
  have policies : after.policies = state.policies := by rw [write.frame]
  have lookup : ∀ named version, after.findPolicy named version = state.findPolicy named version := by
    intro named version
    unfold findPolicy
    rw [policies]
  refine ⟨policies ▸ kept.distinct, fun proposalId row classification found classified => ?_⟩
  rw [lookup]
  rcases write.row found with same | ⟨-, _, rfl⟩ | ⟨old, _, _, edits, before, rfl, -⟩
  · exact kept.registered proposalId row classification same classified
  · cases classified
  · rcases edits.classification classified with older | registered
    · exact kept.registered proposalId old classification before older
    · exact registered

theorem ClassificationsRegistered.effect (kept : ClassificationsRegistered state)
    (effect : Effect deployment state call after) : ClassificationsRegistered after := by
  cases effect with
  | aside aside => exact kept.frame aside.policies aside.findProposal
  | policies write =>
    exact kept.keep (write.distinct kept.distinct) write.hashes fun _ => by rw [write.frame]; rfl
  | proposals aside write => exact (kept.frame aside.policies aside.findProposal).write write
  | incidents aside write =>
    exact (kept.frame aside.policies aside.findProposal).frame (by rw [write.frame])
      fun _ => by rw [write.frame]; rfl

theorem classifications_registered (deployment : Deployment) (calls : List GovernanceCall) :
    ClassificationsRegistered (history deployment calls) :=
  run_preserves ClassificationsRegistered ⟨by simp [KeyedRows.Distinct, GovernanceState.empty],
    fun _ _ _ found => by cases found⟩ (fun state call kept => next_of_answered
      ClassificationsRegistered kept fun _ _ ok => kept.effect (effect_of_answer ok)) calls

theorem activatePolicy_found
    (ok : activatePolicy state actor policyId policyVersion proposalId expectedVersion operationKey =
      .ok (answered, after)) :
    ∃ current row classification, state.effectivePolicy policyId = some current ∧
      state.findProposal proposalId = some row ∧ row.status = .promoted ∧
      row.classification = some classification ∧
      classification.policyVersion = current.policyVersion := by
  simp only [activatePolicy, Identity.requires, bind_ok, expect_ok, guard_ok, Prod.exists, pair_ok,
    Option.filter_eq_some_iff, not_not, decide_eq_true_eq] at ok
  obtain ⟨-, current, effective, _, -, row, ⟨found, promoted⟩, classification, classified, same, -⟩ :=
    ok
  exact ⟨current, row, classification, effective, found, promoted, classified, same⟩

structure ActivationEvent (policyId policyVersion proposalId : String) (event : GovernanceEvent) :
    Prop where
  activates : Activates event
  state : event.request.state = .policy .effective policyId policyVersion
  cites : event.request.taskId = "governance:" ++ proposalId

variable {readings : Readings} {earlier later : List GovernanceCall}

theorem PolicyWrite.activated_recorded (kept : PoliciesRecorded state)
    (write : PolicyWrite state
      ⟨readings, actor, .activatePolicy policyId policyVersion proposalId expectedVersion operationKey⟩
      after) :
    ∃ event, after.store.events = state.store.events ++ [event] ∧ event.operationKey ∉ state.store.keys ∧
      ActivationEvent policyId policyVersion proposalId event := by
  cases write with
  | activated logged current found draft =>
    cases logged with
    | replayed recorded =>
      obtain ⟨_, present, undrafted⟩ := kept.of_replayed recorded rfl rfl
      rw [found] at present
      cases present
      exact absurd draft (undrafted rfl)
    | appended _ fresh => exact ⟨_, rfl, fresh, ⟨rfl, rfl⟩, rfl, rfl⟩

variable {event : GovernanceEvent} {more : List GovernanceEvent}

theorem PolicyWrite.activation (write : PolicyWrite state call after)
    (events : after.store.events = state.store.events ++ more) (member : event ∈ more)
    (activates : Activates event) :
    more = [event] ∧ event.operationKey ∉ state.store.keys ∧
      ∃ policyId policyVersion proposalId expectedVersion operationKey, call.request =
        .activatePolicy policyId policyVersion proposalId expectedVersion operationKey ∧
          ActivationEvent policyId policyVersion proposalId event := by
  have newest : ∀ {operationKey request recorded}, Logged state operationKey request recorded →
      recorded.store.events = state.store.events ++ more →
      more = [event] ∧ event = ⟨operationKey, request⟩ ∧ operationKey ∉ state.store.keys := by
    intro operationKey request recorded logged grown
    rcases logged.events with same | ⟨fresh, appended⟩
    · rw [same] at grown
      simp [self_eq_append_right.mp grown] at member
    · obtain rfl := append_cancel_left (appended.symm.trans grown)
      obtain rfl := mem_singleton.mp member
      exact ⟨rfl, rfl, fresh⟩
  cases write with
  | registered logged =>
    obtain ⟨-, rfl, -⟩ := newest logged events
    exact absurd activates.2 (by simp [policyRequest])
  | reregistered logged =>
    obtain ⟨-, rfl, -⟩ := newest logged events
    exact absurd activates.2 (by simp [policyRequest])
  | activated logged =>
    obtain ⟨alone, rfl, fresh⟩ := newest logged events
    exact ⟨alone, fresh, _, _, _, _, _, rfl, activates, rfl, rfl⟩
  | rolledBack logged =>
    obtain ⟨-, rfl, -⟩ := newest logged events
    exact absurd activates.2 (by simp [policyRequest])

theorem Quiet.unactivated (quiet : Quiet "policy_version" state after)
    (events : after.store.events = state.store.events ++ more) (member : event ∈ more) :
    ¬Activates event := by
  intro activates
  obtain ⟨_, grown, others⟩ := quiet.events
  obtain rfl := append_cancel_left (grown.symm.trans events)
  exact others event member activates.1

theorem Effect.activation (effect : Effect deployment state call after)
    (events : after.store.events = state.store.events ++ more) (member : event ∈ more)
    (activates : Activates event) :
    more = [event] ∧ event.operationKey ∉ state.store.keys ∧
      ∃ policyId policyVersion proposalId expectedVersion operationKey, call.request =
        .activatePolicy policyId policyVersion proposalId expectedVersion operationKey ∧
          ActivationEvent policyId policyVersion proposalId event := by
  have ruled : "policy_version" ∈ ruledKinds := by decide
  cases effect with
  | aside aside => exact absurd activates ((aside.quiet ruled).unactivated events member)
  | policies write => exact write.activation events member activates
  | proposals aside write =>
    exact absurd activates (((aside.quiet ruled).trans (write.quiet (by decide))).unactivated events member)
  | incidents aside write =>
    exact absurd activates (((aside.quiet ruled).trans (write.quiet (by decide))).unactivated events member)

theorem activation_authority (kept : ClassificationsRegistered state)
    (ok : answer deployment state
      ⟨readings, actor, .activatePolicy policyId policyVersion proposalId expectedVersion operationKey⟩ =
        .ok (answered, after)) (recorded : ActivationEvent policyId policyVersion proposalId event) :
    UnderAuthority state event ↔ CitesOwnPolicy state
      ⟨readings, actor, .activatePolicy policyId policyVersion proposalId expectedVersion operationKey⟩ := by
  obtain ⟨current, row, classification, effective, found, promoted, classified, version⟩ :=
    activatePolicy_found ok
  obtain rfl := find_key found
  have deploys : ∀ other, Deploys other event ↔ policyId = other := by
    intro other
    unfold Deploys deployedVersion
    rw [recorded.state]
    simp [recorded.activates.1, recorded.activates.2]
  constructor
  · rintro ⟨cited, -, held, names, -, other, kind, deployed, -⟩
    have same : row.proposalId = cited.proposalId :=
      (String.append_right_inj _).mp (recorded.cites.symm.trans names)
    rw [← same, found] at held
    cases held
    exact ⟨row, found, other, kind, ((deploys _).mp deployed).symm⟩
  · rintro ⟨_, held, _, kind, own⟩
    rw [found] at held
    cases held
    rw [classified] at kind
    cases kind
    refine ⟨row, find_mem found, found, recorded.cites, promoted, classification, classified,
      (deploys _).mpr own.symm, current, own ▸ effective, version, ?_⟩
    obtain ⟨_, registered, hash⟩ := kept.registered _ row classification found classified
    rw [own, version, (findPolicy_effective kept.distinct effective).2] at registered
    cases registered
    exact hash.symm

theorem activation_of_next
    (events : (next (answer deployment) state call).store.events = state.store.events ++ more)
    (member : event ∈ more) (activates : Activates event) :
    more = [event] ∧ event.operationKey ∉ state.store.keys ∧
      ∃ policyId policyVersion proposalId expectedVersion operationKey answered after,
        call.request =
          .activatePolicy policyId policyVersion proposalId expectedVersion operationKey ∧
        answer deployment state call = .ok (answered, after) ∧
        ActivationEvent policyId policyVersion proposalId event := by
  cases result : answer deployment state call with
  | error =>
    rw [next_of_error result] at events
    simp [self_eq_append_right.mp events] at member
  | ok =>
    rw [next_of_ok result] at events
    obtain ⟨alone, fresh, policyId, policyVersion, proposalId, expectedVersion, operationKey, requested,
      recorded⟩ := (effect_of_answer result).activation events member activates
    exact ⟨alone, fresh, policyId, policyVersion, proposalId, expectedVersion, operationKey, _, _, requested,
      rfl, recorded⟩

theorem activation_recorded (deployment : Deployment) (calls : List GovernanceCall) :
    ∀ event ∈ (history deployment calls).store.events, Activates event →
      ∃ earlier call later, calls = earlier ++ call :: later ∧
        (history deployment (earlier ++ [call])).store.events =
          (history deployment earlier).store.events ++ [event] := by
  induction calls using reverseRecOn with
  | nil => simp [history, GovernanceState.empty, Store.empty]
  | append_singleton calls call ih =>
    intro event member activates
    obtain ⟨_, grown⟩ := history_continues deployment calls [call]
    rw [grown] at member
    rcases mem_append.mp member with older | newer
    · obtain ⟨earlier, recording, later, rfl, recorded⟩ := ih event older activates
      exact ⟨earlier, recording, later ++ [call], by simp, recorded⟩
    · have events := grown
      rw [history_append] at events
      obtain ⟨rfl, -⟩ := activation_of_next events newer activates
      exact ⟨calls, call, [], rfl, grown⟩

theorem recorded_mem
    (recorded : (history deployment (earlier ++ [call])).store.events =
      (history deployment earlier).store.events ++ [event]) :
    event ∈ (history deployment (earlier ++ call :: later)).store.events := by
  obtain ⟨_, grown⟩ := history_continues deployment (earlier ++ [call]) later
  rw [append_assoc, singleton_append] at grown
  rw [grown, recorded]
  simp

theorem recorded_at_once (activates : Activates event)
    (cut : earlier ++ call :: later = before ++ other :: rest)
    (first : (history deployment (earlier ++ [call])).store.events =
      (history deployment earlier).store.events ++ [event])
    (second : (history deployment (before ++ [other])).store.events =
      (history deployment before).store.events ++ [event]) : earlier = before := by
  -- A place after the one that recorded the event would record it under a used key.
  have once : ∀ {earlier call middle other}, (history deployment (earlier ++ [call])).store.events =
      (history deployment earlier).store.events ++ [event] →
      (history deployment (earlier ++ call :: middle ++ [other])).store.events =
        (history deployment (earlier ++ call :: middle)).store.events ++ [event] → False := by
    intro earlier call middle other recorded again
    rw [history_append] at again
    exact (activation_of_next again mem_cons_self activates).2.1
      (mem_map_of_mem (recorded_mem recorded))
  rcases append_eq_append_iff.mp cut with ⟨middle, rfl, tail⟩ | ⟨middle, rfl, tail⟩
  · cases middle with
    | nil => simp
    | cons =>
      cases tail
      exact (once first second).elim
  · cases middle with
    | nil => simp
    | cons =>
      cases tail
      exact (once second first).elim

/-- In every run, all activations of the log are authorised by a proposal that was classified
under the policy itself, at the version and hash that were effective just before, exactly
when every answered activation cites a proposal that was classified under the policy. -/
theorem activations_under_authority (calls : List GovernanceCall) :
    (∀ event ∈ (history deployment calls).store.events, Activates event →
        RecordedUnderAuthority deployment calls event) ↔
      Along (answer deployment) (WhenAnswered (answer deployment) CitesOwnPolicy) .empty calls := by
  rw [along_iff]
  constructor
  · rintro authorised earlier ⟨readings, actor, request⟩ later rfl answered after ok
    unfold CitesOwnPolicy
    split
    · rename_i policyId policyVersion proposalId expectedVersion operationKey requested
      subst requested
      have write : PolicyWrite (history deployment earlier) ⟨readings, actor, .activatePolicy policyId
          policyVersion proposalId expectedVersion operationKey⟩ after := activatePolicy_ok ok
      obtain ⟨event, events, _, activation⟩ :=
        write.activated_recorded (policies_recorded deployment earlier)
      have grown := congrArg (fun state : GovernanceState => state.store.events)
        ((history_append deployment earlier _).trans (next_of_ok ok))
      simp only [events] at grown
      have member : event ∈ (history deployment (earlier ++ _ :: later)).store.events :=
        recorded_mem grown
      obtain ⟨_, _, _, cut, recorded, authority⟩ := authorised event member activation.activates
      obtain rfl := recorded_at_once activation.activates cut grown recorded
      exact (activation_authority (classifications_registered deployment earlier) ok activation).mp authority
    · trivial
  · intro own event member activates
    obtain ⟨earlier, call, later, rfl, recorded⟩ := activation_recorded deployment calls event member activates
    refine ⟨earlier, call, later, rfl, recorded, ?_⟩
    have events := recorded
    rw [history_append] at events
    obtain ⟨-, -, _, _, _, _, _, answered, after,
      requested, ok, activation⟩ := activation_of_next events mem_cons_self activates
    obtain ⟨_, _, _⟩ := call
    subst requested
    exact (activation_authority (classifications_registered deployment earlier) ok activation).mpr
      (own earlier _ later rfl answered after ok)

namespace Small

def otherPolicy (version : String) : GovernancePolicy := ⟨"other", version, "other" ++ version, []⟩

def otherFields (version : String) : Fields :=
  [("policy_id", .text "other"), ("policy_version", .text version),
    ("content_hash", .text ("other" ++ version))]

def otherRegistered (now artifactId : ℕ) (version : String) (effective : Bool) : List GovernanceCall :=
  [made now governance (.putArtifact (otherFields version) "governance/policy-version/v1" .internal "v1"),
    made (now + 1) governance (.registerPolicy (otherPolicy version)
      (provenance artifactId governance (otherFields version)) ("register" ++ version) effective)]

def promotedBeside : List GovernanceCall :=
  greenNotified ++ [evaluatedLater 8] ++ otherRegistered 80 5 "1" true ++ otherRegistered 82 6 "2" false

def otherActivated : GovernanceCall :=
  made 84 governance (.activatePolicy "other" "2" "GP-1" 1 "activate")

end Small

open Governance.Small

/-- A proposal that was classified under one policy activates a version of another. -/
theorem activated_under_another :
    ∃ event ∈ (history Small.deployment (promotedBeside ++ [otherActivated])).store.events,
      event ∉ (history Small.deployment promotedBeside).store.events ∧ Activates event ∧
        Deploys "other" event ∧ ¬UnderAuthority (history Small.deployment promotedBeside) event ∧
        ∃ row ∈ (history Small.deployment promotedBeside).findProposal "GP-1",
          event.request.taskId = "governance:" ++ row.proposalId ∧
            row.classification.map Classification.policyId = some "policy" := by
  decide +kernel

end Liki.Governance
