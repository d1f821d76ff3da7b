import Liki.ModelRisk.Records

/-! The three copies of the status of a model: in its aggregate, in the column of its row and
in the record that the row carries. The model-risk service writes all three. The governance
service moves the aggregate and the column to WATCH at a breach and leaves the record, so the
copies agree in every state exactly when it records breaches of models only that are on the
watch already. Statuses then only advance, which is what keeps a retired model retired and a
breached one from being approved. -/
namespace Liki.ModelRisk
open Checks Governance CallSystem ModelState

variable {deployment : Deployment} {state between after : ModelState} {row : ModelRow}
  {edit : ModelEdit} {modelId operationKey : String} {call : ModelCall} {answered : ModelAnswer}

def ModelStatus.rank : ModelStatus → ℕ
  | .development | .shadow => 0
  | .approved => 1
  | .watch | .suspended => 2
  | .retired => 3

/-- The same status, or one that is further along. -/
def ModelStatus.Reaches (first second : ModelStatus) : Prop := first = second ∨ first.rank < second.rank

instance (first second : ModelStatus) : Decidable (first.Reaches second) :=
  inferInstanceAs (Decidable (_ ∨ _))

namespace ModelStatus

variable {first second third : ModelStatus}

theorem Reaches.refl (status : ModelStatus) : status.Reaches status := .inl rfl

theorem Reaches.trans (earlier : first.Reaches second) (later : second.Reaches third) :
    first.Reaches third := by
  rcases earlier with rfl | earlier
  · exact later
  · rcases later with rfl | later
    · exact .inr earlier
    · exact .inr (by omega)

theorem barred_iff {status : ModelStatus} : status.barred ↔ 2 ≤ status.rank := by
  cases status <;> decide

theorem rank_le (status : ModelStatus) : status.rank ≤ 3 := by
  cases status <;> decide

theorem Reaches.barred (reaches : first.Reaches second) (barred : first.barred) : second.barred := by
  rw [barred_iff] at *
  rcases reaches with rfl | further
  · exact barred
  · omega

theorem Reaches.retired (reaches : first.Reaches second) (retired : first = .retired) :
    second = .retired := by
  rcases reaches with rfl | further
  · exact retired
  · have bound := second.rank_le
    have last : first.rank = 3 := by rw [retired]; rfl
    omega

end ModelStatus

def aggregateStatus (state : ModelState) (modelId : String) : Option ModelStatus :=
  match (state.store.state "model" modelId).map Aggregate.state with
  | some (.model status _) => some status
  | _ => none

def CopiesAgree (state : ModelState) : Prop :=
  ∀ modelId, aggregateStatus state modelId = (state.findModel modelId).map ModelRow.status ∧
    ∀ row ∈ state.findModel modelId, row.record.status = row.status

def WatchedAlready (state : ModelState) (call : ModelCall) : Prop :=
  ∀ asked ∈ call.edit? state, asked.2 = .watched →
    ∀ row ∈ state.findModel asked.1, row.record.status = .watch

instance (state : ModelState) (call : ModelCall) : Decidable (WatchedAlready state call) := by
  unfold WatchedAlready
  infer_instance

def ModelEdit.breach : ModelEdit → Bool
  | .observed _ breached => breached
  | .watched => true
  | _ => false

variable (deployment) in
def RecordsBreach (state : ModelState) (call : ModelCall) (modelId : String) : Prop :=
  (∃ pair, answer deployment state call = .ok pair) ∧
    ∃ edit, call.edit? state = some (modelId, edit) ∧ edit.breach

variable (deployment) in
def Approvable (state : ModelState) (modelId : String) : Prop :=
  ∃ readings actor validationId expectedVersion operationKey policyVersion pair,
    answer deployment state ⟨readings, actor, .risk (.approve modelId validationId expectedVersion
      operationKey policyVersion)⟩ = .ok pair

theorem ModelEdit.change_agrees (agree : row.record.status = row.status)
    (watched : edit = .watched → row.record.status = .watch) :
    (edit.change row).status = edit.recordedStatus row ∧
      (edit.change row).record.status = edit.recordedStatus row := by
  cases edit with
  | linked now evidence role => exact ⟨agree.symm, updatedRecord_status now row.record evidence role⟩
  | noted => exact ⟨agree.symm, rfl⟩
  | approved => exact ⟨rfl, rfl⟩
  | observed => exact ⟨rfl, rfl⟩
  | retired => exact ⟨rfl, rfl⟩
  | watched =>
    have already := watched rfl
    refine ⟨?_, already⟩
    rw [change, ← agree, already]
    rfl

theorem ModelEdit.change_reaches (agree : row.record.status = row.status)
    (watched : edit = .watched → row.record.status = .watch) (passes : edit.Passes row) :
    row.status.Reaches (edit.change row).status := by
  cases edit with
  | linked => exact .refl _
  | noted => exact .refl _
  | approved =>
    have unbarred := admissible_unbarred passes.2
    rw [agree] at unbarred
    revert unbarred
    simp only [change]
    cases row.status <;> decide
  | observed _ breached =>
    simp only [change, agree]
    cases breached <;> cases row.status <;> decide
  | retired =>
    simp only [change]
    cases row.status <;> decide
  | watched =>
    simp only [change, ← agree, watched rfl]
    decide

theorem ModelEdit.change_replayed (agree : row.record.status = row.status) (passes : edit.Passes row)
    (chosen : ¬edit.ReadsVersion) (reached : (edit.recordedStatus row).Reaches row.status) :
    (edit.change row).status = row.status ∧ (edit.change row).record.status = row.status := by
  cases edit with
  | linked => exact absurd trivial chosen
  | noted => exact absurd trivial chosen
  | watched => exact absurd trivial chosen
  | approved =>
    have unbarred := admissible_unbarred passes.2
    rw [agree] at unbarred
    revert unbarred reached
    simp only [change, recordedStatus, approvedRecord]
    cases row.status <;> decide
  | observed _ breached =>
    revert reached
    simp only [change, recordedStatus, agree]
    cases breached <;> cases row.status <;> decide
  | retired =>
    have last := reached.retired rfl
    exact absurd (agree.trans last) passes.2

theorem ModelEdit.breach_barred (watched : edit = .watched → row.record.status = .watch)
    (agree : row.record.status = row.status) (breach : edit.breach) :
    (edit.change row).status.barred := by
  cases edit with
  | linked => cases breach
  | noted => cases breach
  | approved => cases breach
  | retired => cases breach
  | observed _ breached =>
    cases breached with
    | false => cases breach
    | true =>
      simp only [change]
      cases row.record.status <;> decide
  | watched =>
    simp only [change, ← agree, watched rfl]
    decide

structure Tracked (state : ModelState) : Prop where
  versioned : state.store.Versioned
  agree : CopiesAgree state
  reached : ∀ event ∈ state.store.events, event.request.kind = "model" →
    ∃ row status version, state.findModel event.request.aggregateId = some row ∧
      event.request.state = .model status version ∧ status.Reaches row.status

def Advances (state after : ModelState) : Prop :=
  ∀ modelId row, state.findModel modelId = some row →
    ∃ next, after.findModel modelId = some next ∧ row.status.Reaches next.status

theorem Advances.refl (state : ModelState) : Advances state state :=
  fun _ row found => ⟨row, found, .refl _⟩

theorem Advances.trans (earlier : Advances state between) (later : Advances between after) :
    Advances state after := by
  intro modelId row found
  obtain ⟨moved, held, first⟩ := earlier modelId row found
  obtain ⟨next, kept, second⟩ := later modelId moved held
  exact ⟨next, kept, first.trans second⟩

theorem tracked_empty : Tracked .empty := by
  refine ⟨Store.versioned_empty, fun _ => ⟨rfl, fun _ found => ?_⟩, fun _ member => ?_⟩
  · cases found
  · cases member

theorem Aside.aggregateStatus (aside : Aside state after) (modelId : String) :
    aggregateStatus after modelId = aggregateStatus state modelId := by
  rw [ModelRisk.aggregateStatus, aside.aggregates]
  rfl

theorem Tracked.aside (tracked : Tracked state) (aside : Aside state after) : Tracked after := by
  refine ⟨aside.versioned tracked.versioned, fun modelId => ?_, fun event member kind => ?_⟩
  · rw [aside.aggregateStatus, aside.rows]
    exact tracked.agree modelId
  · obtain ⟨_, events, others⟩ := aside.events
    rw [events] at member
    rcases List.mem_append.mp member with older | newer
    · rw [aside.rows]
      exact tracked.reached event older kind
    · exact absurd kind (others event newer)

variable {actor : Identity} {artifactIds : List ℕ} {policyVersion : String}

theorem aggregateStatus_appended {version eventType : String}
    (stored : after.store = state.store.append operationKey (modelRequest actor modelId expectedVersion
      status version eventType policyVersion artifactIds metadata) none) (other : String) :
    aggregateStatus after other = if other = modelId then some status else aggregateStatus state other := by
  unfold aggregateStatus
  rw [stored, Store.state_append]
  by_cases same : other = modelId
  · rw [if_pos same, if_pos ⟨rfl, same.symm⟩]
    rfl
  · rw [if_neg same, if_neg fun both => same both.2.symm]

/-- A model that is registered starts its aggregate, since no event was about it. -/
theorem Tracked.register (tracked : Tracked state) {record : ModelRecord}
    (recorded : state.store.Recorded operationKey (modelRequest actor record.modelId 0 record.status
      record.version "MODEL_REGISTERED" policyVersion artifactIds none) none after.store)
    (absent : state.findModel record.modelId = none)
    (rows : ∀ other, after.findModel other =
      if other = record.modelId then some ⟨record.version, record.status, record.toModelData⟩
      else state.findModel other) : Tracked after ∧ Advances state after := by
  have known : ∀ {other row}, state.findModel other = some row → other ≠ record.modelId := by
    rintro other row found rfl
    rw [absent] at found
    cases found
  have kept : ∀ {other row}, state.findModel other = some row → after.findModel other = some row := by
    intro other row found
    rw [rows, if_neg (known found)]
    exact found
  have appended : after.store = state.store.append operationKey (modelRequest actor record.modelId 0
      record.status record.version "MODEL_REGISTERED" policyVersion artifactIds none) none := by
    generalize after.store = store at recorded
    cases recorded with
    | appended => rfl
    | @replayed event member _ same =>
      obtain ⟨row, _, _, found, -⟩ := tracked.reached event member (by rw [same]; rfl)
      rw [same] at found
      exact absurd rfl (known found)
  refine ⟨⟨recorded.versioned tracked.versioned, fun other => ?_, fun event member kind => ?_⟩,
    fun _ row found => ⟨row, kept found, .refl _⟩⟩
  · rw [aggregateStatus_appended appended, rows]
    split
    · exact ⟨rfl, fun row found => by cases found; rfl⟩
    · exact tracked.agree other
  · rw [appended] at member
    rcases KeyedRows.mem_added member with older | newest
    · obtain ⟨row, status, version, found, carried, reaches⟩ := tracked.reached event older kind
      exact ⟨row, status, version, kept found, carried, reaches⟩
    · rw [newest]
      exact ⟨_, record.status, record.version, (rows _).trans (if_pos rfl), rfl, .refl _⟩

theorem Tracked.edits (tracked : Tracked state) (edited : Edited state modelId edit row after)
    (watched : edit = .watched → row.record.status = .watch) :
    Tracked after ∧ Advances state after := by
  have agree : row.record.status = row.status := (tracked.agree modelId).2 row edited.found
  have advances : Advances state after := by
    intro other held found
    rw [edited.rows]
    by_cases same : other = modelId
    · rw [same, edited.found] at found
      cases found
      exact ⟨_, if_pos same, edit.change_reaches agree watched edited.passes⟩
    · exact ⟨held, (if_neg same).trans found, .refl _⟩
  have earlier : ∀ event ∈ state.store.events, event.request.kind = "model" → ∃ row status version,
      after.findModel event.request.aggregateId = some row ∧
        event.request.state = .model status version ∧ status.Reaches row.status := by
    intro event member kind
    obtain ⟨held, status, version, found, carried, reaches⟩ := tracked.reached event member kind
    obtain ⟨next, kept, further⟩ := advances _ held found
    exact ⟨next, status, version, kept, carried, reaches.trans further⟩
  obtain ⟨operationKey, version, actor, policyVersion, artifactIds, metadata, expectedVersion, reads,
    recorded⟩ := edited.recorded
  have versioned := recorded.versioned tracked.versioned
  obtain ⟨store, stored⟩ : ∃ store, after.store = store := ⟨_, rfl⟩
  rw [stored] at recorded
  cases recorded with
  | @replayed event member named same =>
    have chosen : ¬edit.ReadsVersion := by
      intro current
      have behind := tracked.versioned event member
      rw [same] at behind
      exact absurd (reads current) behind.ne
    obtain ⟨held, status, _, found, carried, reached⟩ := tracked.reached event member (by rw [same]; rfl)
    rw [same] at found carried
    have only : row = held := Option.some.inj (edited.found.symm.trans found)
    cases carried
    rw [← only] at reached
    obtain ⟨column, copy⟩ := edit.change_replayed agree edited.passes chosen reached
    have aggregates : ∀ other, aggregateStatus after other = aggregateStatus state other := by
      intro other
      rw [aggregateStatus, stored]
      rfl
    refine ⟨⟨versioned, fun other => ?_, fun event member => ?_⟩, advances⟩
    · rw [aggregates, edited.rows]
      split
      · rename_i here
        rw [here, (tracked.agree modelId).1, edited.found]
        refine ⟨congrArg some column.symm, fun next found => ?_⟩
        cases found
        exact copy.trans column.symm
      · exact tracked.agree other
    · rw [stored] at member
      exact earlier event member
  | appended =>
    obtain ⟨column, copy⟩ := edit.change_agrees agree watched
    refine ⟨⟨versioned, fun other => ?_, fun event member kind => ?_⟩, advances⟩
    · rw [aggregateStatus_appended stored, edited.rows]
      split
      · refine ⟨congrArg some column.symm, fun next found => ?_⟩
        cases found
        exact copy.trans column.symm
      · exact tracked.agree other
    · rw [stored] at member
      rcases KeyedRows.mem_added member with older | newest
      · exact earlier event older kind
      · rw [newest]
        exact ⟨_, edit.recordedStatus row, version, (edited.rows modelId).trans (if_pos rfl), rfl,
          .inl column.symm⟩

theorem WatchedAlready.of_asked (already : WatchedAlready state call)
    (asked : call.edit? state = some (modelId, edit)) (found : state.findModel modelId = some row)
    (watched : edit = .watched) : row.record.status = .watch :=
  already (modelId, edit) asked watched row found

theorem Tracked.step (tracked : Tracked state) (already : WatchedAlready state call)
    (effect : Effect state call after) : Tracked after ∧ Advances state after := by
  cases effect with
  | aside _ aside =>
    exact ⟨tracked.aside aside, fun modelId row found => ⟨row, (aside.rows modelId).trans found, .refl _⟩⟩
  | registered _ recorded absent rows => exact tracked.register recorded absent rows
  | @edited modelId _ row _ asked aside edited =>
    have found : state.findModel modelId = some row := (aside.rows modelId).symm.trans edited.found
    obtain ⟨kept, advances⟩ := (tracked.aside aside).edits edited (already.of_asked asked found)
    exact ⟨kept, fun other held before => advances other held ((aside.rows other).trans before)⟩

theorem Tracked.run (tracked : Tracked state) {calls : List ModelCall}
    (along : Along (answer deployment) (WhenAnswered (answer deployment) WatchedAlready) state calls) :
    Tracked (run (answer deployment) state calls) ∧
      Advances state (run (answer deployment) state calls) := by
  refine run_answered (fun next => Tracked next ∧ Advances state next) ⟨tracked, .refl state⟩ ?_ along
  rintro before call answered after ⟨kept, advanced⟩ already ok
  obtain ⟨next, further⟩ := kept.step already (effect_of_answer ok)
  exact ⟨next, advanced.trans further⟩

theorem Tracked.breached (tracked : Tracked state) (already : WatchedAlready state call)
    (breach : RecordsBreach deployment state call modelId) :
    ∃ row, (next (answer deployment) state call).findModel modelId = some row ∧ row.status.barred := by
  obtain ⟨⟨⟨_, _⟩, ok⟩, edit, asked, breach⟩ := breach
  rw [next_of_ok ok]
  cases effect_of_answer ok with
  | aside plain => exact nomatch plain.symm.trans asked
  | registered plain => exact nomatch plain.symm.trans asked
  | @edited _ _ row _ asked' aside edited =>
    cases asked.symm.trans asked'
    have found : state.findModel modelId = some row := (aside.rows modelId).symm.trans edited.found
    have agree : row.record.status = row.status := (tracked.agree modelId).2 row found
    exact ⟨_, (edited.rows modelId).trans (if_pos rfl),
      edit.breach_barred (already.of_asked asked found) agree breach⟩

theorem Approvable.unbarred (approvable : Approvable deployment state modelId) (agree : CopiesAgree state)
    (found : state.findModel modelId = some row) : ¬row.status.barred := by
  obtain ⟨_, _, _, _, _, _, ⟨_, _⟩,
    ok⟩ := approvable
  obtain ⟨_, held, -, edited⟩ := approve_edited ok
  have only : held = row := Option.some.inj (edited.found.symm.trans found)
  have unbarred := admissible_unbarred edited.passes.2
  rwa [only, (agree modelId).2 row found] at unbarred

theorem Effect.versioned (effect : Effect state call after) (versioned : state.store.Versioned) :
    after.store.Versioned := by
  cases effect with
  | aside _ aside => exact aside.versioned versioned
  | registered _ recorded => exact recorded.versioned versioned
  | edited _ aside edited =>
    obtain ⟨_, _, _, _, _, _, _, -, recorded⟩ := edited.recorded
    exact recorded.versioned (aside.versioned versioned)

theorem versioned_history (deployment : Deployment) (calls : List ModelCall) :
    (history deployment calls).store.Versioned :=
  run_preserves (fun state : ModelState => state.store.Versioned) Store.versioned_empty
    (fun _ _ versioned => next_of_answered (fun state : ModelState => state.store.Versioned) versioned
      fun _ _ ok => (effect_of_answer ok).versioned versioned) calls

theorem Effect.already (effect : Effect state call after) (versioned : state.store.Versioned)
    (agree : CopiesAgree after) : WatchedAlready state call := by
  rintro ⟨modelId, asked⟩ member watched row found
  cases effect with
  | aside plain => exact nomatch plain.symm.trans member
  | registered plain => exact nomatch plain.symm.trans member
  | @edited modelId _ held _ asked aside edited =>
    cases member.symm.trans asked
    cases watched
    have only : held = row := Option.some.inj (edited.found.symm.trans ((aside.rows modelId).trans found))
    obtain ⟨_, _, _, _, _, _, _, reads,
      recorded⟩ := edited.recorded
    have appended := recorded.appended_of_current (aside.versioned versioned) (reads trivial)
    have moved : aggregateStatus after modelId = some .watch :=
      (aggregateStatus_appended appended modelId).trans (if_pos rfl)
    have stored := (edited.rows modelId).trans (if_pos rfl)
    obtain ⟨column, copy⟩ := agree modelId
    rw [moved, stored] at column
    rw [← only]
    exact (copy _ stored).trans (Option.some.inj column).symm

structure StatusesSound (deployment : Deployment) (calls : List ModelCall) : Prop where
  agree : ∀ earlier later, calls = earlier ++ later → CopiesAgree (history deployment earlier)
  retired : ∀ earlier between later, calls = earlier ++ between ++ later → ∀ modelId row,
    (history deployment earlier).findModel modelId = some row → row.status = .retired →
      ∃ next, (history deployment (earlier ++ between)).findModel modelId = some next ∧
        next.status = .retired
  breached : ∀ earlier call between later, calls = earlier ++ call :: between ++ later → ∀ modelId,
    RecordsBreach deployment (history deployment earlier) call modelId →
      ¬Approvable deployment (history deployment (earlier ++ call :: between)) modelId

/-- Along every run the statuses are sound exactly when every breach that the governance
service records is of a model that is on the watch already. -/
theorem statuses_sound (calls : List ModelCall) :
    StatusesSound deployment calls ↔
      Along (answer deployment) (WhenAnswered (answer deployment) WatchedAlready) .empty calls := by
  constructor
  · intro sound
    refine along_iff.mpr fun earlier call later cut answered after ok => ?_
    refine (effect_of_answer ok).already (versioned_history deployment earlier) ?_
    have agree := sound.agree (earlier ++ [call]) later (by rw [cut]; simp)
    rw [history_append] at agree
    exact next_of_ok ok ▸ agree
  · intro along
    have reached : ∀ earlier later, calls = earlier ++ later → Tracked (history deployment earlier) := by
      rintro earlier later rfl
      exact (tracked_empty.run (along_append.mp along).1).1
    refine ⟨fun earlier later cut => (reached earlier later cut).agree, ?_, ?_⟩
    · rintro earlier between later rfl modelId row found retired
      rw [List.append_assoc] at along reached
      have onward := (along_append.mp (along_append.mp along).2).1
      obtain ⟨-, advances⟩ := (reached earlier (between ++ later) rfl).run onward
      obtain ⟨next, held, reaches⟩ := advances modelId row found
      refine ⟨next, ?_, reaches.retired retired⟩
      rw [history, run_append]
      exact held
    · rintro earlier call between later rfl modelId breach approvable
      have start : Tracked (history deployment earlier) :=
        reached earlier (call :: between ++ later) (by simp)
      rw [List.append_assoc] at along
      obtain ⟨admissible, onward⟩ := (along_append.mp along).2
      obtain ⟨⟨pair, ok⟩, -⟩ := id breach
      have already : WatchedAlready (history deployment earlier) call := admissible pair.1 pair.2 ok
      obtain ⟨row, found, barred⟩ := start.breached already breach
      have moved : Tracked (next (answer deployment) (history deployment earlier) call) := by
        rw [next_of_ok ok]
        exact (start.step already (effect_of_answer ok)).1
      obtain ⟨kept, advances⟩ := moved.run (along_append.mp onward).1
      obtain ⟨_, still, reaches⟩ := advances modelId row found
      have whole : history deployment (earlier ++ call :: between) =
          run (answer deployment) (next (answer deployment) (history deployment earlier) call) between := by
        rw [history, run_append]
        rfl
      rw [whole] at approvable
      exact approvable.unbarred kept.agree still (reaches.barred barred)

namespace Small

open Governance.Small

def validator : Identity := ⟨"gov2", .governance⟩

def outcome : Fields := [("observed", .text "outcome")]

def measurement : Fields := [("observed", .text "drift")]

def retirement : Fields := [("observed", .text "superseded")]

/-- What a passing check of a challenge wrote, at instant 5. -/
def checkFields (kind : String) : Fields :=
  [("check_id", .text kind), ("check_kind", .text kind), ("result", .text "PASS"),
    ("executed_at_utc", .text "5")]

def checks : List AutomatedCheck :=
  challengeKinds.mapIdx fun index kind =>
    ⟨kind, kind, .pass, provenance (7 + index) evaluator (checkFields kind), 5⟩

def challengeFields : Fields :=
  [("challenge_id", .text "CH-1"), ("model_id", .text "MDL-1"), ("validation_id", .text "VAL-1"),
    ("validator_principal", .text "gov2")]

def validation : ModelValidation where
  validationId := "VAL-1"
  validatorPrincipal := "gov2"
  validationEvidence := [provenance 2 governance outcome]
  conceptualSoundness := checks.get ⟨0, by decide⟩
  implementationCorrectness := checks.get ⟨2, by decide⟩
  sensitivity := checks.get ⟨4, by decide⟩

def challenge : EffectiveChallenge where
  challengeId := "CH-1"
  validationId := "VAL-1"
  challengerModelId := none
  challengeArtifact := provenance 6 evaluator challengeFields
  validatorPrincipal := "gov2"
  checks := checks
  covers := by decide
  passing := by decide

def drift : DriftObservation :=
  ⟨"OBS-1", "data", .finite 1, .finite (1 / 2), .above, provenance 4 governance measurement⟩

def prepared : List ModelCall :=
  registered ++
    [asked 4 governance (.putArtifact outcome "governance/outcome/v1" .internal "v1"),
      asked 5 governance (.putArtifact outcome "governance/model-validation/v1" .internal "v1"),
      asked 6 governance (.putArtifact measurement "governance/drift-measurement/v1" .internal "v1"),
      asked 7 governance (.putArtifact retirement "model-risk/retirement/v1" .internal "v1"),
      asked 8 evaluator (.putArtifact challengeFields "model-risk/effective-challenge/v1" .internal "v1")] ++
    challengeKinds.map (fun kind => asked 9 evaluator
      (.putArtifact (checkFields kind) "governance/automated-check-result/v1" .internal "v1")) ++
    [asked 10 validator (.recordModelValidation "MDL-1" validation (provenance 3 governance outcome)),
      asked 11 governance (.risk (.recordEffectiveChallenge "MDL-1" challenge "challenge" "v1"))]

def breached : ModelCall := asked 12 governance (.recordDrift "MDL-1" drift)

def approval : ModelCall := asked 13 governance (.risk (.approve "MDL-1" "VAL-1" 3 "approve" "v1"))

def retired : ModelCall :=
  asked 13 governance (.risk (.retire "MDL-1" (provenance 5 governance retirement) 2 "retire" "v1" none))

def statuses (calls : List ModelCall) : Option ModelStatus × Option (ModelStatus × ModelStatus) :=
  (aggregateStatus (history Governance.Small.deployment calls) "MDL-1",
    ((history Governance.Small.deployment calls).findModel "MDL-1").map fun row =>
      (row.status, row.record.status))

end Small

open ModelRisk.Small

/-- A breach that the governance service records leaves the record of a developed model, which
is still approved; and it moves the aggregate of a retired model to the watch. -/
theorem watched_beside_record :
    statuses (prepared ++ [breached]) = (some .watch, some (.watch, .development)) ∧
      statuses (prepared ++ [breached, approval]) = (some .approved, some (.approved, .approved)) ∧
      statuses (prepared ++ [retired]) = (some .retired, some (.retired, .retired)) ∧
      statuses (prepared ++ [retired, breached]) = (some .watch, some (.retired, .retired)) := by
  decide +kernel

end Liki.ModelRisk
