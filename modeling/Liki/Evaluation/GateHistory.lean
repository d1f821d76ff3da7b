import Liki.Evaluation.Evaluator
import Liki.Library.EventLog

/-! The history of a candidate. What has been decided since it was last entered again says where
it stands: the gates that it has passed, one after the other and on one snapshot, and after
them at most one decision that stops it. A stopped candidate is left alone until another
snapshot of the same artifact is entered for a blocked one. -/
namespace Liki.Evaluation
open Checks CallSystem List Option Prod Store EvaluationState

variable {verify : Verification} {state after : EvaluationState} {actor : Identity}
  {strategyVersionId snapshotId : String} {row : SnapshotRow} {object : ObjectRow}

/-- A re-entry of the candidate. -/
def Restarts (strategyVersionId : String) (event : EvaluationEvent) : Prop :=
  event.request.kind = "candidate" ∧ event.request.aggregateId = strategyVersionId ∧
    event.request.eventType = "EVALUATION_REENTERED"

instance (strategyVersionId : String) : DecidablePred (Restarts strategyVersionId) :=
  fun _ => inferInstanceAs (Decidable (_ ∧ _))

/-- The last re-entry of the candidate. -/
def EvaluationState.lastReentry (state : EvaluationState) (strategyVersionId : String) :
    Option EvaluationEvent :=
  EventLog.latest (Restarts strategyVersionId) state.store.events

/-- The version that the last re-entry led to, zero without one. -/
def EvaluationState.startedAt (state : EvaluationState) (strategyVersionId : String) : ℕ :=
  ((state.lastReentry strategyVersionId).map fun event => event.request.expectedVersion + 1).getD 0

/-- The decisions on the candidate since its last re-entry, in order. -/
def EvaluationState.decisionsSince (state : EvaluationState) (strategyVersionId : String) :
    List GateDecision :=
  state.decisions.filter fun decided =>
    decided.strategyVersionId = strategyVersionId ∧
      state.startedAt strategyVersionId ≤ decided.versionBefore

/-- What was decided on which gate and on which snapshot. -/
abbrev Outcome := ℕ × String × Decision

def GateDecision.outcome (decided : GateDecision) : Outcome :=
  (decided.gateId.val, decided.snapshotId, decided.decision)

def passes (snapshotId : String) (count : ℕ) : List Outcome :=
  (range count).map fun gate => (gate, snapshotId, .pass)

theorem passes_succ (count : ℕ) :
    passes snapshotId (count + 1) = passes snapshotId count ++ [(count, snapshotId, .pass)] := by
  simp [passes, range_succ]

inductive Standing : Option CandidateState → List Outcome → Prop
  | untouched : Standing none []
  | restarted {current : CandidateState} (gate : current.gateId = -1) (status : current.status = .idea) :
      Standing (some current) []
  | decided {current : CandidateState} (gateId : GateId) (decision : Decision)
      (gate : current.gateId = gateId.val) (status : current.status = decision.status gateId) :
      Standing (some current)
        (passes current.snapshotId gateId.val ++ [(gateId.val, current.snapshotId, decision)])

theorem states_injective : Function.Injective states := by decide

theorem states_ne (gateId : GateId) : states gateId ≠ .idea ∧ states gateId ∉ stopped := by
  revert gateId
  decide

theorem stops {decision : Decision} (gateId : GateId) (fails : decision ≠ .pass) :
    decision.status gateId ∈ stopped := by
  cases decision with
  | pass => exact absurd rfl fails
  | borderline | fail | blocked => simp [Decision.status, stopped]

variable {current : CandidateState}

theorem Standing.passed {outcomes : List Outcome} (standing : Standing (some current) outcomes)
    (status : current.status = states gateId) :
    outcomes = passes current.snapshotId (gateId.val + 1) := by
  cases standing with
  | restarted _ idea => exact absurd (status.symm.trans idea) (states_ne gateId).1
  | decided reached decision _ decided =>
    by_cases passes : decision = .pass
    · subst passes
      have same : gateId = reached := states_injective (status.symm.trans decided)
      rw [same, passes_succ]
    · have halted := stops reached passes
      rw [← decided, status] at halted
      exact absurd halted (states_ne gateId).2

theorem Standing.ready {outcomes : List Outcome} {gateId : GateId}
    (standing : Standing held outcomes) (kept : ∀ current ∈ held, current.snapshotId = snapshotId)
    (going : (held.map CandidateState.status).getD .idea ∉ stopped)
    (next : (gateId.val : ℤ) = (held.map CandidateState.gateId).getD (-1) + 1) :
    outcomes = passes snapshotId gateId.val := by
  cases standing with
  | untouched =>
    have first : gateId.val = 0 := by simpa using next
    rw [first]
    rfl
  | @restarted _ gate =>
    have first : gateId.val = 0 := by simpa [gate] using next
    rw [first]
    rfl
  | @decided current reached decision gate status =>
    have passed : decision = .pass := by
      by_contra fails
      apply going
      simpa [status] using stops reached fails
    have following : gateId.val = reached.val + 1 := by
      simp only [map_some, getD_some, gate] at next
      omega
    rw [passed, following, passes_succ, kept current rfl]

structure Admissible (state : EvaluationState) (actor : Identity) (strategyVersionId snapshotId : String)
    (row : SnapshotRow) (object : ObjectRow) : Prop where
  pinned : state.findSnapshot snapshotId = some row
  valid : snapshotId ∉ state.invalidations
  registered : state.findObject strategyVersionId = some object
  bound : object.artifactId = row.manifest.candidateArtifactId
  foreign : object.createdBy ≠ actor.principalId

def EvaluationState.append (state : EvaluationState) (operationKey : String)
    (request : EvaluationTransition) :
    EvaluationState :=
  { state with store := state.store.append operationKey request none }

/-- The state after an event of a candidate and the decisions that come with it. -/
def EvaluationState.record (state : EvaluationState) (operationKey : String)
    (request : EvaluationTransition)
    (made : List GateDecision) : EvaluationState :=
  { state.append operationKey request with decisions := state.decisions ++ made }

/-- A decision that was made on the next gate. -/
structure Decides (state : EvaluationState) (actor : Identity) (request : GateInput) (row : SnapshotRow)
    (object : ObjectRow) : Prop where
  admissible : Admissible state actor request.strategyVersionId request.snapshotId row object
  current : ∀ current ∈ state.candidate request.strategyVersionId, current.1 = request.expectedVersion
  going : (state.prior request.strategyVersionId).2 ∉ stopped
  following : (request.gateId.val : ℤ) = (state.prior request.strategyVersionId).1 + 1
  kept : ∀ current ∈ state.candidate request.strategyVersionId, current.2.snapshotId = request.snapshotId

structure Reenters (state : EvaluationState) (actor : Identity) (request : GateReentry) (row : SnapshotRow)
    (object : ObjectRow) (current : CandidateState) : Prop where
  admissible : Admissible state actor request.strategyVersionId request.snapshotId row object
  held : state.candidate request.strategyVersionId = some (request.expectedVersion, current)
  blocked : current.status = .blocked
  differs : current.snapshotId ≠ request.snapshotId

variable {operationKey : String} {request : EvaluationTransition}

theorem transition_ok (ok : state.transition actor capability operationKey request = .ok after) :
    ∃ store, state.store.Recorded operationKey request none store ∧ after = { state with store } := by
  simp only [EvaluationState.transition, bind_ok, guard_ok, pure_ok] at ok
  obtain ⟨-, -, -, store, written, rfl⟩ := ok
  exact ⟨store, transition_recorded written, rfl⟩

theorem validSnapshot_ok (ok : state.validSnapshot snapshotId = .ok row) :
    state.findSnapshot snapshotId = some row ∧ snapshotId ∉ state.invalidations := by
  simp only [validSnapshot, bind_ok, expect_ok, guard_ok, pure_ok] at ok
  obtain ⟨_, found, valid, rfl⟩ := ok
  exact ⟨found, valid⟩

theorem insertDecision_ok {decided : GateDecision} (ok : insertDecision state decided = .ok after) :
    after = { state with decisions := state.decisions ++ [decided] } := by
  simp only [insertDecision, bind_ok, guard_ok, pure_ok] at ok
  exact ok.2.2.2.symm

/-- The evidence that a decision is made on. -/
structure Gathers (verify : Verification) (state : EvaluationState) (actor : Identity) (request : GateInput)
    (row : SnapshotRow) (now : Time) (items : List EvidenceItem) : Prop where
  gathered : request.evidenceIds.mapM (gatherEvidence verify state actor request row now) = .ok items
  classed : ofClass request.gateId items ≠ []

theorem decideGate_ok {request : GateInput} {report : CandidateReport}
    (ok : decideGate verify state actor request now gateDecisionId = .ok (report, after)) :
    after = state ∨ ∃ row object items version store, Decides state actor request row object ∧
      Gathers verify state actor request row now items ∧
      state.store.Recorded request.operationKey
        (gateRequest actor request (judge row.manifest request object.createdBy now items) object.campaignId
          version (items.map fun item => item.evidence.artifactId)) none store ∧
      after = { state with
        store
        decisions := state.decisions ++ [decisionRow actor request
          (judge row.manifest request object.createdBy now items) version
          (items.map fun item => item.evidence.artifactId) (state.prior request.strategyVersionId).2
          gateDecisionId] } := by
  simp only [decideGate, bind_ok] at ok
  obtain ⟨-, -, ok⟩ := ok
  split at ok
  · simp only [bind_ok, guard_ok, pair_ok] at ok
    exact .inl ok.2.2.symm
  · simp only [bind_ok, guard_ok, expect_ok, pair_ok, not_exists, not_and, not_not, not_or] at ok
    obtain ⟨row, usable, -, object, registered, bound, foreign, current, ⟨going, following⟩, kept,
      items, gathered, classed, version, -, between, written, _, inserted, -, rfl⟩ := ok
    obtain ⟨pinned, valid⟩ := validSnapshot_ok usable
    obtain ⟨store, recorded, rfl⟩ := transition_ok written
    exact .inr ⟨row, object, items, version, store,
      ⟨⟨pinned, valid, registered, bound, Ne.symm foreign⟩, current, going, following, kept⟩,
      ⟨gathered, classed⟩, recorded, insertDecision_ok inserted⟩

/-- A re-entry answers with an earlier one, or enters a blocked candidate again. -/
theorem reenter_ok {request : GateReentry} {report : CandidateReport}
    (ok : reenter state actor request = .ok (report, after)) :
    after = state ∨ ∃ row object current store, Reenters state actor request row object current ∧
      state.store.Recorded request.operationKey
        (reentryRequest actor request object.campaignId current.snapshotId) none store ∧
      after = { state with store } := by
  simp only [reenter, bind_ok] at ok
  obtain ⟨-, -, ok⟩ := ok
  split at ok
  · simp only [bind_ok, guard_ok, pair_ok] at ok
    exact .inl ok.2.2.symm
  · simp only [bind_ok, guard_ok, expect_ok, pair_ok, not_not, Prod.exists] at ok
    obtain ⟨_, current, held, same, blocked, row, usable, differs, object, registered, bound,
      foreign, _,
      written, -, rfl⟩ := ok
    obtain ⟨pinned, valid⟩ := validSnapshot_ok usable
    obtain ⟨store, recorded, rfl⟩ := transition_ok written
    subst same
    exact .inr ⟨row, object, current, store,
      ⟨⟨pinned, valid, registered, bound, foreign⟩, held, blocked, differs⟩, recorded, rfl⟩

theorem pinSnapshot_ok {pinned : EvaluationSnapshot}
    (ok : pinSnapshot state actor pinned = .ok (answer, after)) :
    ∃ store, state.store.Recorded ("snapshot:" ++ pinned.snapshotId)
      (snapshotRequest actor pinned) none store ∧
      after = insertSnapshot { state with store } ⟨pinned, actor.principalId⟩ := by
  simp only [pinSnapshot, bind_ok, guard_ok, pair_ok] at ok
  obtain ⟨-, -, -, -, -, _, -, -, _, -, -, _, -, _, -, _, written, -, rfl⟩ := ok
  obtain ⟨store, recorded, rfl⟩ := transition_ok written
  exact ⟨store, recorded, rfl⟩

structure Orderly (state : EvaluationState) : Prop where
  versioned : state.store.Versioned
  typed : ∀ strategyVersionId aggregate, state.store.state "candidate" strategyVersionId = some aggregate →
    ∃ current, state.candidate strategyVersionId = some (aggregate.version, current)
  standing : ∀ strategyVersionId, Standing ((state.candidate strategyVersionId).map snd)
    ((state.decisionsSince strategyVersionId).map GateDecision.outcome)
  behind : ∀ decided ∈ state.decisions,
    decided.versionBefore < state.store.version "candidate" decided.strategyVersionId
  bound : ∀ strategyVersionId current, state.candidate strategyVersionId = some current → ∃ object row,
    state.findObject strategyVersionId = some object ∧ state.findSnapshot current.2.snapshotId = some row ∧
      object.artifactId = row.manifest.candidateArtifactId
  foreign : ∀ decided ∈ state.decisions, ∃ object,
    state.findObject decided.strategyVersionId = some object ∧ object.createdBy ≠ decided.actorId

theorem orderly_empty : Orderly .empty where
  versioned := versioned_empty
  typed _ _ held := nomatch held
  standing _ := .untouched
  behind _ member := nomatch member
  bound _ _ held := nomatch held
  foreign _ member := nomatch member

structure Quiet (state after : EvaluationState) : Prop where
  versioned : state.store.Versioned → after.store.Versioned
  aggregates : ∀ strategyVersionId,
    after.store.state "candidate" strategyVersionId = state.store.state "candidate" strategyVersionId
  restarts : ∀ strategyVersionId, after.lastReentry strategyVersionId = state.lastReentry strategyVersionId
  decisions : after.decisions = state.decisions
  objects : ∀ objectId object, state.findObject objectId = some object →
    after.findObject objectId = some object
  snapshots : ∀ snapshotId row, state.findSnapshot snapshotId = some row →
    after.findSnapshot snapshotId = some row

theorem Quiet.refl (state : EvaluationState) : Quiet state state :=
  ⟨id, fun _ => rfl, fun _ => rfl, rfl, fun _ _ => id, fun _ _ => id⟩

theorem quiet_of_tables (events : after.store.events = state.store.events)
    (aggregates : after.store.aggregates = state.store.aggregates)
    (decisions : after.decisions = state.decisions)
    (objects : ∀ objectId object, state.findObject objectId = some object →
      after.findObject objectId = some object)
    (snapshots : ∀ snapshotId row, state.findSnapshot snapshotId = some row →
      after.findSnapshot snapshotId = some row) : Quiet state after where
  versioned versioned := by
    simpa only [Store.Versioned, Store.version, Store.state, events, aggregates] using versioned
  aggregates _ := by rw [Store.state, Store.state, aggregates]
  restarts _ := by rw [lastReentry, lastReentry, events]
  decisions := decisions
  objects := objects
  snapshots := snapshots

variable {store : EvaluationStore}

theorem quiet_putArtifact
    (ok : state.store.putArtifact actor content schemaName classification policyVersion =
      .ok (artifactId, store)) : Quiet state { state with store } := by
  obtain ⟨events, aggregates, -⟩ := putArtifact_ok ok
  exact quiet_of_tables events aggregates rfl (fun _ _ => id) fun _ _ => id

theorem Quiet.candidate (quiet : Quiet state after) (strategyVersionId : String) :
    after.candidate strategyVersionId = state.candidate strategyVersionId := by
  rw [EvaluationState.candidate, EvaluationState.candidate, quiet.aggregates]

theorem startedAt_congr (same : after.lastReentry strategyVersionId = state.lastReentry strategyVersionId) :
    after.startedAt strategyVersionId = state.startedAt strategyVersionId := by
  rw [startedAt, startedAt, same]

theorem Quiet.decisionsSince (quiet : Quiet state after) (strategyVersionId : String) :
    after.decisionsSince strategyVersionId = state.decisionsSince strategyVersionId := by
  rw [EvaluationState.decisionsSince, EvaluationState.decisionsSince, quiet.decisions,
    startedAt_congr (quiet.restarts strategyVersionId)]

theorem Orderly.quiet (orderly : Orderly state) (quiet : Quiet state after) : Orderly after where
  versioned := quiet.versioned orderly.versioned
  typed strategyVersionId aggregate held := by
    rw [quiet.aggregates] at held
    rw [quiet.candidate]
    exact orderly.typed strategyVersionId aggregate held
  standing strategyVersionId := by
    rw [quiet.candidate, quiet.decisionsSince]
    exact orderly.standing strategyVersionId
  behind decided member := by
    rw [quiet.decisions] at member
    rw [version, quiet.aggregates, ← version]
    exact orderly.behind decided member
  bound strategyVersionId current held := by
    rw [quiet.candidate] at held
    obtain ⟨object, row, registered, pinned, same⟩ := orderly.bound strategyVersionId current held
    exact ⟨object, row, quiet.objects _ _ registered, quiet.snapshots _ _ pinned, same⟩
  foreign decided member := by
    rw [quiet.decisions] at member
    obtain ⟨object, registered, other⟩ := orderly.foreign decided member
    exact ⟨object, quiet.objects _ _ registered, other⟩

section Events

variable {operationKey : String} {request : EvaluationTransition}

theorem lastReentry_append : (state.append operationKey request).lastReentry strategyVersionId =
    if Restarts strategyVersionId ⟨operationKey, request⟩ then some ⟨operationKey, request⟩
    else state.lastReentry strategyVersionId :=
  EventLog.latest_append_one

theorem state_append_other
    (other : ¬(request.kind = "candidate" ∧ request.aggregateId = strategyVersionId)) :
    (state.append operationKey request).store.state "candidate" strategyVersionId =
      state.store.state "candidate" strategyVersionId :=
  (state_append _ _).trans (if_neg other)

theorem candidate_append_self {current : CandidateState} (kind : request.kind = "candidate")
    (written : request.state = .candidate current) :
    (state.append operationKey request).candidate request.aggregateId =
      some (request.expectedVersion + 1, current) := by
  have stored : (state.append operationKey request).store.state "candidate" request.aggregateId =
      some ⟨request.kind, request.aggregateId, request.expectedVersion + 1, request.state⟩ :=
    (state_append _ _).trans (if_pos ⟨kind, rfl⟩)
  rw [candidate, stored, written]

theorem candidate_append_other
    (other : ¬(request.kind = "candidate" ∧ request.aggregateId = strategyVersionId)) :
    (state.append operationKey request).candidate strategyVersionId =
      state.candidate strategyVersionId := by
  rw [candidate, candidate, state_append_other other]

theorem lastReentry_append_other
    (other : ¬(request.kind = "candidate" ∧ request.aggregateId = strategyVersionId)) :
    (state.append operationKey request).lastReentry strategyVersionId =
      state.lastReentry strategyVersionId := by
  refine lastReentry_append.trans (if_neg ?_)
  rintro ⟨kind, named, -⟩
  exact other ⟨kind, named⟩

end Events

theorem quiet_recorded (recorded : state.store.Recorded operationKey request none store)
    (other : request.kind ≠ "candidate") : Quiet state { state with store } := by
  cases recorded with
  | replayed => exact .refl state
  | appended _ current =>
    have apart : ∀ strategyVersionId, ¬(request.kind = "candidate" ∧
      request.aggregateId = strategyVersionId) :=
      fun _ same => other same.1
    have quiet : Quiet state (state.append operationKey request) :=
      { versioned := fun versioned => versioned.append operationKey none current
        aggregates := fun _ => state_append_other (apart _)
        restarts := fun _ => lastReentry_append_other (apart _)
        decisions := rfl
        objects := fun _ _ => id
        snapshots := fun _ _ => id }
    exact quiet

theorem Quiet.trans (first : Quiet state between) (second : Quiet between after) :
    Quiet state after where
  versioned versioned := second.versioned (first.versioned versioned)
  aggregates _ := (second.aggregates _).trans (first.aggregates _)
  restarts _ := (second.restarts _).trans (first.restarts _)
  decisions := second.decisions.trans first.decisions
  objects _ _ found := second.objects _ _ (first.objects _ _ found)
  snapshots _ _ found := second.snapshots _ _ (first.snapshots _ _ found)

theorem quiet_insertSnapshot (row : SnapshotRow) : Quiet state (insertSnapshot state row) := by
  unfold insertSnapshot
  split
  · exact .refl state
  · exact quiet_of_tables rfl rfl rfl (fun _ _ => id) fun _ _ found => KeyedRows.find_append_some found [row]

theorem Orderly.version_eq (orderly : Orderly state) {current : ℕ × CandidateState}
    (held : state.candidate strategyVersionId = some current) :
    state.store.version "candidate" strategyVersionId = current.1 := by
  cases stored : state.store.state "candidate" strategyVersionId with
  | none =>
    rw [candidate, stored] at held
    cases held
  | some aggregate =>
    obtain ⟨_, same⟩ := orderly.typed strategyVersionId aggregate stored
    rw [held] at same
    rw [version, stored, some.inj same]
    rfl

theorem Orderly.appended (orderly : Orderly state)
    (recorded : state.store.Recorded operationKey request none store)
    (kind : request.kind = "candidate")
    (held : ∀ current ∈ state.candidate request.aggregateId, current.1 = request.expectedVersion) :
    store = state.store.append operationKey request none ∧
      request.expectedVersion = state.store.version "candidate" request.aggregateId := by
  cases recorded with
  | appended _ current => exact ⟨rfl, kind ▸ current⟩
  | replayed member _ same =>
    have behind := orderly.versioned _ member
    rw [same, kind] at behind
    cases stored : state.store.state "candidate" request.aggregateId with
    | none =>
      rw [version, stored] at behind
      exact absurd behind (Nat.not_lt_zero _)
    | some aggregate =>
      obtain ⟨_, known⟩ := orderly.typed _ aggregate stored
      rw [orderly.version_eq known, held _ known] at behind
      exact absurd behind (lt_irrefl _)

inductive Effect (state after : EvaluationState) : Identity × EvaluationCall → Prop
  | quiet {call : Identity × EvaluationCall} (quiet : Quiet state after) : Effect state after call
  | decided {actor : Identity} {request : GateInput} {row : SnapshotRow} {object : ObjectRow} {now : Time}
      {gateDecisionId version : String} {verdict : Verdict} {artifactIds : List ℕ}
      (decides : Decides state actor request row object)
      (current : request.expectedVersion = state.store.version "candidate" request.strategyVersionId)
      (same : after = state.record request.operationKey
        (gateRequest actor request verdict object.campaignId version artifactIds)
        [decisionRow actor request verdict version artifactIds (state.prior request.strategyVersionId).2
          gateDecisionId]) :
      Effect state after (actor, .gate request now gateDecisionId)
  | reentered {actor : Identity} {request : GateReentry} {row : SnapshotRow} {object : ObjectRow}
      {current : CandidateState}
      (reenters : Reenters state actor request row object current)
      (version : request.expectedVersion = state.store.version "candidate" request.strategyVersionId)
      (same : after = state.record request.operationKey
        (reentryRequest actor request object.campaignId current.snapshotId) []) :
      Effect state after (actor, .reenter request)

variable {call : Identity × EvaluationCall}

theorem handle_effect (orderly : Orderly state)
    (ok : handle verify state call = .ok (answer, after)) : Effect state after call := by
  obtain ⟨_, call⟩ := call
  cases call with
  | gate =>
    simp only [handle, bind_ok, pair_ok, Prod.exists] at ok
    obtain ⟨report, _, ok, -, rfl⟩ := ok
    rcases decideGate_ok ok with rfl | ⟨row, object, _, version, store, decides, -, recorded, rfl⟩
    · exact .quiet (.refl _)
    · obtain ⟨rfl, current⟩ := orderly.appended recorded rfl decides.current
      exact .decided decides current rfl
  | reenter request =>
    simp only [handle, bind_ok, pair_ok, Prod.exists] at ok
    obtain ⟨_, _, ok, -, rfl⟩ := ok
    rcases reenter_ok ok with rfl | ⟨_, object, _, store, reenters, recorded, rfl⟩
    · exact .quiet (.refl _)
    · have held : ∀ found ∈ state.candidate request.strategyVersionId,
        found.1 = request.expectedVersion := by
        intro found member
        rw [mem_def, reenters.held] at member
        rw [← some.inj member]
      obtain ⟨rfl, version⟩ := orderly.appended recorded rfl held
      refine .reentered reenters version ?_
      rw [record, append_nil]
      rfl
  | «snapshot» pinned =>
    simp only [handle, bind_ok, pair_ok, Prod.exists] at ok
    obtain ⟨_, _, ok, -, rfl⟩ := ok
    obtain ⟨store, recorded, rfl⟩ := pinSnapshot_ok ok
    exact .quiet ((quiet_recorded recorded (by simp [snapshotRequest])).trans (quiet_insertSnapshot _))
  | putArtifact =>
    simp only [handle, bind_ok, pair_ok, Prod.exists] at ok
    obtain ⟨_, _, ok, -, rfl⟩ := ok
    exact .quiet (quiet_putArtifact ok)
  | recordEvidence =>
    simp only [handle, bind_ok, guard_ok, pair_ok] at ok
    obtain ⟨-, -, rfl⟩ := ok
    exact .quiet (quiet_of_tables rfl rfl rfl (fun _ _ => id) fun _ _ => id)
  | object registered =>
    simp only [handle, bind_ok, guard_ok, pair_ok] at ok
    obtain ⟨-, -, rfl⟩ := ok
    exact .quiet (quiet_of_tables rfl rfl rfl
      (fun _ _ found => KeyedRows.find_append_some found [registered]) fun _ _ => id)
  | invalidate =>
    cases ok
    exact .quiet (quiet_of_tables rfl rfl rfl (fun _ _ => id) fun _ _ => id)
  | principal =>
    simp only [handle, bind_ok, guard_ok, pair_ok] at ok
    obtain ⟨-, -, rfl⟩ := ok
    exact .quiet (quiet_of_tables rfl rfl rfl (fun _ _ => id) fun _ _ => id)
  | freeze =>
    cases ok
    exact .quiet (quiet_of_tables rfl rfl rfl (fun _ _ => id) fun _ _ => id)

theorem Orderly.startedAt_le (orderly : Orderly state) (strategyVersionId : String) :
    state.startedAt strategyVersionId ≤ state.store.version "candidate" strategyVersionId := by
  cases found : state.lastReentry strategyVersionId with
  | none => simp [startedAt, found]
  | some event =>
    obtain ⟨member, kind, named, -⟩ := EventLog.latest_mem found
    have behind := orderly.versioned event member
    rw [kind, named] at behind
    rw [startedAt, found]
    exact behind

section Recorded

variable {operationKey : String} {request : EvaluationTransition} {made : List GateDecision}

theorem decisionsSince_record_other
    (about : ∀ decided ∈ made, decided.strategyVersionId = request.aggregateId)
    (other : request.aggregateId ≠ strategyVersionId) :
    (state.record operationKey request made).decisionsSince strategyVersionId =
      state.decisionsSince strategyVersionId := by
  have started : (state.record operationKey request made).startedAt strategyVersionId =
      state.startedAt strategyVersionId :=
    startedAt_congr (lastReentry_append_other fun same => other same.2)
  have nothing : made.filter (fun decided => decided.strategyVersionId = strategyVersionId ∧
      state.startedAt strategyVersionId ≤ decided.versionBefore) = [] := by
    rw [filter_eq_nil_iff]
    intro decided member
    rw [decide_eq_true_iff, about decided member]
    exact fun same => other same.1
  rw [decisionsSince, started, record, filter_append, nothing,
    append_nil, decisionsSince]

theorem decisionsSince_record {decided : GateDecision} (plain : request.eventType ≠ "EVALUATION_REENTERED")
    (named : decided.strategyVersionId = strategyVersionId)
    (later : state.startedAt strategyVersionId ≤ decided.versionBefore) :
    (state.record operationKey request [decided]).decisionsSince strategyVersionId =
      state.decisionsSince strategyVersionId ++ [decided] := by
  have last : (state.record operationKey request [decided]).lastReentry strategyVersionId =
      state.lastReentry strategyVersionId :=
    lastReentry_append.trans (if_neg fun restarts => plain restarts.2.2)
  rw [decisionsSince, startedAt_congr last, record, filter_append,
    decisionsSince]
  simp [named, later]

theorem Orderly.decisionsSince_reentered (orderly : Orderly state)
    (restarts : Restarts strategyVersionId ⟨operationKey, request⟩)
    (current : request.expectedVersion = state.store.version "candidate" strategyVersionId) :
    (state.record operationKey request []).decisionsSince strategyVersionId = [] := by
  have last : (state.record operationKey request []).lastReentry strategyVersionId =
      some ⟨operationKey, request⟩ :=
    lastReentry_append.trans (if_pos restarts)
  have started : (state.record operationKey request []).startedAt strategyVersionId =
      state.store.version "candidate" strategyVersionId + 1 := by
    rw [startedAt, last, ← current]
    rfl
  rw [decisionsSince, started, record, append_nil,
    filter_eq_nil_iff]
  intro decided member
  have behind := orderly.behind decided member
  rw [decide_eq_true_iff]
  rintro ⟨rfl, _⟩
  omega

/-- The invariant is kept when it holds of the one candidate that something is recorded of. -/
theorem Orderly.record (orderly : Orderly state) {candidate : CandidateState}
    (kind : request.kind = "candidate") (written : request.state = .candidate candidate)
    (current : request.expectedVersion = state.store.version "candidate" request.aggregateId)
    (about : ∀ decided ∈ made, decided.strategyVersionId = request.aggregateId ∧
      decided.versionBefore = request.expectedVersion)
    (standing : Standing (some candidate)
      (((state.record operationKey request made).decisionsSince request.aggregateId).map GateDecision.outcome))
    (bound : ∃ object row, state.findObject request.aggregateId = some object ∧
      state.findSnapshot candidate.snapshotId = some row ∧
        object.artifactId = row.manifest.candidateArtifactId)
    (foreign : ∀ decided ∈ made, ∃ object, state.findObject decided.strategyVersionId = some object ∧
      object.createdBy ≠ decided.actorId) :
    Orderly (state.record operationKey request made) := by
  have own : (state.record operationKey request made).candidate request.aggregateId =
      some (request.expectedVersion + 1, candidate) := candidate_append_self kind written
  have others : ∀ strategyVersionId, request.aggregateId ≠ strategyVersionId →
      (state.record operationKey request made).candidate strategyVersionId =
        state.candidate strategyVersionId :=
    fun _ other => candidate_append_other fun same => other same.2
  refine ⟨orderly.versioned.append operationKey none (kind ▸ current),
    fun strategyVersionId aggregate held => ?_,
    fun strategyVersionId => ?_, fun decided member => ?_, fun strategyVersionId present held => ?_,
    fun decided member => ?_⟩
  · by_cases same : request.aggregateId = strategyVersionId
    · subst same
      change (state.store.append operationKey request none).state "candidate" request.aggregateId =
        _ at held
      rw [state_append, if_pos ⟨kind, rfl⟩] at held
      cases held
      exact ⟨candidate, own⟩
    · rw [others _ same]
      refine orderly.typed strategyVersionId aggregate ?_
      rw [← held]
      exact (state_append_other fun whole => same whole.2).symm
  · by_cases same : request.aggregateId = strategyVersionId
    · subst same
      rw [own]
      exact standing
    · rw [others _ same, decisionsSince_record_other (fun decided member => (about decided member).1) same]
      exact orderly.standing strategyVersionId
  · change decided.versionBefore <
      (state.store.append operationKey request none).version "candidate" decided.strategyVersionId
    rw [version_append]
    rcases mem_append.mp member with older | newest
    · have behind := orderly.behind decided older
      split
      · rename_i same
        rw [← same.2, ← current] at behind
        omega
      · exact behind
    · obtain ⟨named, before⟩ := about decided newest
      rw [if_pos ⟨kind, named.symm⟩, before]
      exact Nat.lt_succ_self _
  · by_cases same : request.aggregateId = strategyVersionId
    · subst same
      rw [own] at held
      cases held
      exact bound
    · rw [others _ same] at held
      exact orderly.bound strategyVersionId present held
  · rcases mem_append.mp member with older | newest
    · exact orderly.foreign decided older
    · exact foreign decided newest

end Recorded

theorem prior_eq : state.prior strategyVersionId =
    ((((state.candidate strategyVersionId).map snd).map CandidateState.gateId).getD (-1),
      (((state.candidate strategyVersionId).map snd).map CandidateState.status).getD .idea) := by
  unfold prior
  cases state.candidate strategyVersionId <;> rfl

theorem Decides.passed {request : GateInput} (decides : Decides state actor request row object)
    (orderly : Orderly state) :
    (state.decisionsSince request.strategyVersionId).map GateDecision.outcome =
      passes request.snapshotId request.gateId.val := by
  have going := decides.going
  have following := decides.following
  rw [prior_eq] at going following
  refine (orderly.standing request.strategyVersionId).ready (fun current held => ?_) going following
  obtain ⟨found, member, rfl⟩ := mem_map.mp held
  exact decides.kept found member

theorem Decides.standing {request : GateInput} {verdict : Verdict} {version gateDecisionId : String}
    (decides : Decides state actor request row object) (orderly : Orderly state)
    (current : request.expectedVersion = state.store.version "candidate" request.strategyVersionId) :
    Standing (some (decidedState request verdict)) (((state.record request.operationKey
      (gateRequest actor request verdict object.campaignId version artifactIds)
      [decisionRow actor request verdict version artifactIds (state.prior request.strategyVersionId).2
        gateDecisionId]).decisionsSince request.strategyVersionId).map GateDecision.outcome) := by
  have plain : (gateRequest actor request verdict object.campaignId version artifactIds).eventType ≠
      "EVALUATION_REENTERED" := by simp [gateRequest]
  have later : state.startedAt request.strategyVersionId ≤ request.expectedVersion := by
    rw [current]
    exact orderly.startedAt_le request.strategyVersionId
  have named : (decisionRow actor request verdict version artifactIds
    (state.prior request.strategyVersionId).2
      gateDecisionId).strategyVersionId = request.strategyVersionId := rfl
  rw [decisionsSince_record plain named later, map_append, decides.passed orderly]
  exact .decided request.gateId verdict.1 rfl rfl

/-- Every call keeps the decisions in agreement with the candidates. -/
theorem Effect.orderly (effect : Effect state after call) (orderly : Orderly state) :
    Orderly after := by
  cases effect with
  | quiet quiet => exact orderly.quiet quiet
  | @decided _ _ row object _ _ _ _ _ decides current same =>
    subst same
    obtain ⟨pinned, -, registered, bound, foreign⟩ := decides.admissible
    refine orderly.record rfl rfl current ?_ ?_ ⟨object, row, registered, pinned, bound⟩ ?_
    · intro decided member
      rw [mem_singleton.mp member]
      exact ⟨rfl, rfl⟩
    · exact decides.standing orderly current
    · intro decided member
      rw [mem_singleton.mp member]
      exact ⟨object, registered, foreign⟩
  | @reentered actor request row object current reenters version same =>
    subst same
    obtain ⟨pinned, -, registered, bound, -⟩ := reenters.admissible
    have none : (state.record request.operationKey
        (reentryRequest actor request object.campaignId current.snapshotId) []).decisionsSince
          request.strategyVersionId = [] :=
      orderly.decisionsSince_reentered ⟨rfl, rfl, rfl⟩ version
    refine orderly.record rfl rfl version (fun _ member => absurd member not_mem_nil) ?_
      ⟨object, row, registered, pinned, bound⟩ fun _ member => absurd member not_mem_nil
    change Standing _ (((state.record request.operationKey _ []).decisionsSince request.strategyVersionId).map _)
    rw [none]
    exact .restarted rfl rfl

theorem history_orderly (verify : Verification) (calls : List (Identity × EvaluationCall)) :
    Orderly (history verify calls) := by
  refine run_preserves Orderly orderly_empty (fun state call orderly => ?_) calls
  exact next_of_answered Orderly orderly fun _ _ ok => (handle_effect orderly ok).orderly orderly

/-- One call leaves a candidate that does not go on, or enters a blocked one again. -/
theorem Effect.stays (effect : Effect state after call) {current : ℕ × CandidateState}
    (held : state.candidate strategyVersionId = some current) (halted : current.2.status ∈ stopped) :
    after.candidate strategyVersionId = some current ∨ ∃ actor request row object,
      call = (actor, .reenter request) ∧ request.strategyVersionId = strategyVersionId ∧
        Reenters state actor request row object current.2 ∧
        after.candidate strategyVersionId = some (request.expectedVersion + 1, reentryState request) := by
  cases effect with
  | quiet quiet => exact .inl ((quiet.candidate strategyVersionId).trans held)
  | @decided _ request _ _ _ _ _ _ _ decides _ same =>
    subst same
    by_cases own : request.strategyVersionId = strategyVersionId
    · subst own
      have going := decides.going
      rw [prior_eq, held] at going
      exact absurd halted going
    · exact .inl ((candidate_append_other fun same => own same.2).trans held)
  | @reentered actor request row object _ reenters _ same =>
    subst same
    by_cases own : request.strategyVersionId = strategyVersionId
    · subst own
      have same := reenters.held
      rw [held] at same
      cases same
      exact .inr ⟨actor, request, row, object, rfl, rfl, reenters, candidate_append_self rfl rfl⟩
    · exact .inl ((candidate_append_other fun same => own same.2).trans held)

theorem ended_stays (verify : Verification) (earlier later : List (Identity × EvaluationCall))
    {current : ℕ × CandidateState}
    (held : (history verify earlier).candidate strategyVersionId = some current)
    (ended : current.2.status = .failed ∨ current.2.status = .borderlineFrontier) :
    (history verify (earlier ++ later)).candidate strategyVersionId = some current := by
  have halted : current.2.status ∈ stopped := by
    rcases ended with failed | borderline
    · simp [failed, stopped]
    · simp [borderline, stopped]
  have unblocked : current.2.status ≠ .blocked := by
    rcases ended with failed | borderline
    · simp [failed]
    · simp [borderline]
  rw [history, run_append]
  have kept : Orderly (run (handle verify) (history verify earlier) later) ∧
      (run (handle verify) (history verify earlier) later).candidate strategyVersionId = some current := by
    refine run_preserves (fun state => Orderly state ∧ state.candidate strategyVersionId = some current)
      ⟨history_orderly verify earlier, held⟩ (fun state call ⟨orderly, held⟩ => ?_) later
    refine next_of_answered (fun state => Orderly state ∧ state.candidate strategyVersionId = some current)
      ⟨orderly, held⟩ fun _ _ ok => ?_
    have effect := handle_effect orderly ok
    refine ⟨effect.orderly orderly, ?_⟩
    rcases effect.stays held halted with same | ⟨_, _, _, _, -, -, reenters, -⟩
    · exact same
    · exact absurd reenters.blocked unblocked
  exact kept.2

structure AnotherSnapshot (state : EvaluationState) (current : CandidateState)
    (request : GateReentry) : Prop where
  differs : request.snapshotId ≠ current.snapshotId
  valid : request.snapshotId ∉ state.invalidations
  sameArtifact : ∃ old new, state.findSnapshot current.snapshotId = some old ∧
    state.findSnapshot request.snapshotId = some new ∧
      new.manifest.candidateArtifactId = old.manifest.candidateArtifactId

theorem Reenters.anotherSnapshot {request : GateReentry}
    (reenters : Reenters state actor request row object current) (orderly : Orderly state) :
    AnotherSnapshot state current request := by
  obtain ⟨pinned, valid, registered, bound, -⟩ := reenters.admissible
  obtain ⟨_, old, same, standing, artifact⟩ := orderly.bound _ _ reenters.held
  rw [registered] at same
  cases same
  exact ⟨Ne.symm reenters.differs, valid, old, row, standing, pinned, bound.symm.trans artifact⟩

theorem blocked_stays (verify : Verification) (calls : List (Identity × EvaluationCall))
    (call : Identity × EvaluationCall) {version : ℕ}
    (held : (history verify calls).candidate strategyVersionId = some (version, current))
    (blocked : current.status = .blocked) :
    (history verify (calls ++ [call])).candidate strategyVersionId = some (version, current) ∨
      ∃ actor request, call = (actor, .reenter request) ∧ request.strategyVersionId = strategyVersionId ∧
        AnotherSnapshot (history verify calls) current request ∧
        (history verify (calls ++ [call])).candidate strategyVersionId =
          some (version + 1, reentryState request) := by
  have orderly := history_orderly verify calls
  have last : history verify (calls ++ [call]) = next (handle verify) (history verify calls) call :=
    run_append _ _
  rw [last]
  cases result : handle verify (history verify calls) call with
  | error =>
    rw [next_of_error result]
    exact .inl held
  | ok pair =>
    obtain ⟨_, _⟩ := pair
    rw [next_of_ok result]
    have halted : current.status ∈ stopped := by simp [blocked, stopped]
    rcases (handle_effect orderly result).stays held halted with
      same | ⟨actor, request, row, object, called, rfl, reenters, entered⟩
    · exact .inl same
    · have same := reenters.held
      rw [held] at same
      cases same
      exact .inr ⟨actor, request, called, rfl, reenters.anotherSnapshot orderly, entered⟩

/-- The status of a passed gate has its decisions since the last re-entry, one for each gate up to
it; nobody decides on what they have created. -/
theorem gates_in_order (verify : Verification) (calls : List (Identity × EvaluationCall)) :
    (∀ strategyVersionId version current gateId,
      (history verify calls).candidate strategyVersionId = some (version, current) →
      current.status = states gateId →
        ((history verify calls).decisionsSince strategyVersionId).map GateDecision.outcome =
          passes current.snapshotId (gateId.val + 1)) ∧
    (∀ later strategyVersionId version current,
      (history verify calls).candidate strategyVersionId = some (version, current) →
      current.status = .failed ∨ current.status = .borderlineFrontier →
        (history verify (calls ++ later)).candidate strategyVersionId = some (version, current)) ∧
    (∀ call strategyVersionId version current,
      (history verify calls).candidate strategyVersionId = some (version, current) →
      current.status = .blocked →
        (history verify (calls ++ [call])).candidate strategyVersionId = some (version, current) ∨
          ∃ actor request, call = (actor, .reenter request) ∧
            request.strategyVersionId = strategyVersionId ∧
            AnotherSnapshot (history verify calls) current request ∧
            (history verify (calls ++ [call])).candidate strategyVersionId =
              some (version + 1, reentryState request)) ∧
    ∀ decided ∈ (history verify calls).decisions, ∃ object,
      (history verify calls).findObject decided.strategyVersionId = some object ∧
        object.createdBy ≠ decided.actorId := by
  have orderly := history_orderly verify calls
  refine ⟨fun strategyVersionId version current gateId held status => ?_,
    fun later strategyVersionId version current held ended => ended_stays verify calls later held ended,
    fun call strategyVersionId version current held blocked => blocked_stays verify calls call held blocked,
    orderly.foreign⟩
  have standing := orderly.standing strategyVersionId
  rw [held] at standing
  exact standing.passed status

/-! A candidate that passes the first gate, is blocked at the second and is entered again. -/
namespace Small

def creator : Identity := ⟨"creator", .research⟩

def evaluator : Identity := ⟨"evaluator", .evaluator⟩

def report (snapshotId : String) (checks : List String) : EvaluationContent :=
  ⟨snapshotId, true, ⟨some snapshotId, checks, [], false, false, 0⟩⟩

def pinned (snapshotId : String) : EvaluationSnapshot where
  snapshotId := snapshotId
  candidateArtifactId := 0
  candidateHash := "candidate"
  datasetSnapshotIds := []
  evaluatorVersion := "evaluator"
  metricVersions := []
  gatePolicyVersions := gateKeys.map fun key => (key, "policy")
  rulesByGate := []
  calibrationArtifactIds := []
  minimumForwardOpportunities := 1
  forwardEvaluationAt := some 0
  gateInputArtifactIds := []

def gate (snapshotId : String) (gateId : GateId) (version : ℕ) (evidenceId operationKey : String) :
    Identity × EvaluationCall :=
  (evaluator, .gate ⟨"S", snapshotId, gateId, version, [evidenceId], [], operationKey⟩ 1 operationKey)

def calls : List (Identity × EvaluationCall) :=
  [(evaluator, .principal "evaluator" .evaluator),
    (creator, .putArtifact ⟨"candidate", true,
      ⟨none, [], [], false, false, 0⟩⟩ "strategy" .internal "policy"),
    (creator, .object ⟨"S", "campaign", 0, "creator"⟩),
    (evaluator, .snapshot (pinned "first")),
    (evaluator, .snapshot (pinned "second")),
    (evaluator, .putArtifact (report "first" (requiredChecks 0)) "report" .internal "policy"),
    (evaluator, .recordEvidence ⟨"E0", 1, "research_contract", .development, 0⟩),
    (evaluator, .recordEvidence ⟨"E1", 1, "duplicate_screen", .development, 0⟩),
    gate "first" 0 0 "E0" "G0",
    gate "first" 1 1 "E1" "G1",
    (evaluator, .reenter ⟨"S", "second", 2, "a new snapshot", "R"⟩)]

/-- The state after the first calls, where every report may be used. -/
def reached (count : ℕ) : EvaluationState := history (fun _ _ _ _ _ _ => .ok ()) (calls.take count)

end Small

example :
    ((Small.reached 9).candidate "S").map (fun current => current.2.status) = some .contracted ∧
    ((Small.reached 9).decisionsSince "S").map GateDecision.outcome = [(0, "first", .pass)] ∧
    ((Small.reached 10).candidate "S").map (fun current => current.2.status) = some .blocked ∧
    ((Small.reached 11).candidate "S").map (fun current => current.2.status) = some .idea ∧
    (Small.reached 11).decisionsSince "S" = [] := by
  decide +kernel

end Liki.Evaluation
