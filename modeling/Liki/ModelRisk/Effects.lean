import Liki.ModelRisk.Service

/-! What an answered call can do to the inventory, and with it the one statement the rules of
model risk are derived from: a call steps aside, registers a model, or edits the row of one
model behind an event about it. -/
namespace Liki.ModelRisk
open Checks Governance CallSystem ModelState KeyedRows

variable {deployment : Deployment} {readings : Readings} {state between after : ModelState}
  {actor : Identity} {capability : Capability} {operationKey policyVersion modelId : String}
  {request : ModelTransition} {answered : ModelAnswer} {call : ModelCall} {row : ModelRow}

inductive ModelEdit where
  | linked (now : Time) (evidence : ArtifactProvenance) (role : EvidenceRole)
  | noted (eventType : String)
  | approved (now : Time) (validation : ModelValidation)
  | observed (now : Time) (breached : Bool)
  | retired (now : Time) (replacementModelId : Option String)
  /-- A breach that the governance service records. -/
  | watched
  deriving DecidableEq

namespace ModelEdit

def change : ModelEdit → ModelRow → ModelRow
  | .linked now evidence role, row => { row with record := updatedRecord now row.record evidence role }
  | .noted _, row => row
  | .approved now validation, row =>
    { row with status := .approved, record := approvedRecord now row.record validation }
  | .observed now breached, row =>
    let status := observedStatus breached row.record.status
    { row with status, record := { row.record with status, updatedAt := now } }
  | .retired now replacement, row =>
    { row with status := .retired, record := retiredRecord now row.record replacement }
  | .watched, row => { row with status := watchedStatus row.status }

def recordedStatus : ModelEdit → ModelRow → ModelStatus
  | .linked .., row | .noted _, row => row.record.status
  | .approved .., _ => .approved
  | .observed _ breached, row => observedStatus breached row.record.status
  | .retired .., _ => .retired
  | .watched, _ => .watch

def eventType : ModelEdit → String
  | .linked .. => "MODEL_EVIDENCE_LINKED"
  | .noted eventType => eventType
  | .approved .. => "MODEL_APPROVED"
  | .observed _ breached => if breached then "MODEL_DRIFT_BREACH" else "MODEL_DRIFT_RECORDED"
  | .retired .. => "MODEL_RETIRED"
  | .watched => "MODEL_WATCHED_FOR_DRIFT"

def ReadsVersion : ModelEdit → Prop
  | .linked .. | .noted _ | .watched => True
  | .approved .. | .observed .. | .retired .. => False

/-- What the operation checks of the row. -/
def Passes (row : ModelRow) : ModelEdit → Prop
  | .watched => True
  | .approved _ validation =>
    row.record.Consistent ∧ assessModelAdmission row.record (some validation) = []
  | .retired .. => row.record.Consistent ∧ row.record.status ≠ .retired
  | .linked .. | .noted _ | .observed .. => row.record.Consistent

end ModelEdit

def ModelCall.edit? (state : ModelState) : ModelCall → Option (String × ModelEdit)
  | ⟨_, _, .recordDrift modelId observation⟩ =>
    if observation.breached then some (modelId, .watched) else none
  | ⟨readings, _, .risk request⟩ =>
    match request with
    | .linkEvidence modelId evidence role _ _ => some (modelId, .linked readings.now evidence role)
    | .recordEffectiveChallenge modelId .. => some (modelId, .noted "MODEL_EFFECTIVE_CHALLENGE_RECORDED")
    | .approve modelId validationId .. => (state.findValidation modelId validationId).map
        fun validation => (modelId, .approved readings.now validation)
    | .recordDrift modelId observation .. => some (modelId, .observed readings.now observation.breached)
    | .retire modelId _ _ _ _ replacement => some (modelId, .retired readings.now replacement)
    | .grantException modelId .. => some (modelId, .noted "MODEL_USE_EXCEPTION_GRANTED")
  | _ => none

/-- Nothing changes that a rule is about. -/
structure Aside (state after : ModelState) : Prop where
  rows : ∀ modelId, after.findModel modelId = state.findModel modelId
  events : ∃ more, after.store.events = state.store.events ++ more ∧
    ∀ event ∈ more, event.request.kind ≠ "model"
  aggregates : ∀ modelId, after.store.state "model" modelId = state.store.state "model" modelId
  versioned : state.store.Versioned → after.store.Versioned

theorem Aside.of_eq (inventory : after.inventory = state.inventory) (store : after.store = state.store) :
    Aside state after := by
  refine ⟨fun _ => by rw [findModel, inventory, findModel], ⟨[], by rw [store, List.append_nil], by simp⟩,
    fun _ => by rw [store], ?_⟩
  rw [store]
  exact id

structure Edited (state : ModelState) (modelId : String) (edit : ModelEdit) (row : ModelRow)
    (after : ModelState) : Prop where
  found : state.findModel modelId = some row
  passes : edit.Passes row
  recorded : ∃ operationKey version actor policyVersion artifactIds metadata expectedVersion,
    (edit.ReadsVersion → expectedVersion = state.store.version "model" modelId) ∧
    state.store.Recorded operationKey (modelRequest actor modelId expectedVersion
      (edit.recordedStatus row) version edit.eventType policyVersion artifactIds metadata) none after.store
  rows : ∀ other, after.findModel other =
    if other = modelId then some (edit.change row) else state.findModel other

inductive Effect (state : ModelState) (call : ModelCall) (after : ModelState) : Prop where
  | aside (plain : call.edit? state = none) (aside : Aside state after) : Effect state call after
  | registered {record : ModelRecord} {operationKey policyVersion : String} {actor : Identity}
      {artifactIds : List ℕ} (plain : call.edit? state = none)
      (recorded : state.store.Recorded operationKey (modelRequest actor record.modelId 0 record.status
        record.version "MODEL_REGISTERED" policyVersion artifactIds none) none after.store)
      (absent : state.findModel record.modelId = none)
      (rows : ∀ other, after.findModel other =
        if other = record.modelId then some ⟨record.version, record.status, record.toModelData⟩
        else state.findModel other) : Effect state call after
  | edited {modelId : String} {edit : ModelEdit} {row : ModelRow} {between : ModelState}
      (asked : call.edit? state = some (modelId, edit)) (aside : Aside state between)
      (edited : Edited between modelId edit row after) : Effect state call after

variable {eventId expectedVersion : ℕ} {observation : DriftObservation} {record : ModelRecord}
  {artifactIds : List ℕ} {metadata : Option ModelMetadata} {moved : ModelState} {version : String}

theorem transition_recorded
    (ok : state.transition actor capability operationKey request = .ok (eventId, after)) :
    state.store.Recorded operationKey request none after.store ∧
      after = { state with store := after.store } := by
  simp only [ModelState.transition, bind_ok, guard_ok, pair_ok] at ok
  obtain ⟨-, -, -, _, stored, -, rfl⟩ := ok
  exact ⟨Store.transition_recorded stored, rfl⟩

theorem Aside.of_recorded (recorded : state.store.Recorded operationKey request none after.store)
    (kind : request.kind ≠ "model") (inventory : after.inventory = state.inventory) :
    Aside state after := by
  refine ⟨fun _ => by rw [findModel, inventory, findModel], ?_, fun modelId => ?_, recorded.versioned⟩
  · generalize after.store = store at recorded
    cases recorded with
    | replayed => exact ⟨[], (List.append_nil _).symm, by simp⟩
    | appended => exact ⟨[⟨operationKey, request⟩], rfl, by simpa using kind⟩
  · generalize after.store = store at recorded
    cases recorded with
    | replayed => rfl
    | appended => rw [Store.state_append, if_neg fun same => kind same.1]

theorem readModel_ok (ok : state.readModel modelId = .ok (row, record)) :
    state.findModel modelId = some row ∧ ∃ consistent, record = ⟨row.record, consistent⟩ := by
  simp only [readModel, bind_ok, expect_ok, pair_ok] at ok
  obtain ⟨_, found, record, valid, rfl, rfl⟩ := ok
  refine ⟨found, ?_⟩
  rw [← ModelData.validate_ok.mp valid]
  exact ⟨record.consistent, rfl⟩

theorem currentVersion_ok {version : ℕ} (ok : state.currentVersion modelId = .ok version) :
    version = state.store.version "model" modelId := by
  simp only [currentVersion, bind_ok, expect_ok, pure_ok] at ok
  obtain ⟨_, found, rfl⟩ := ok
  rw [Store.version, found]
  rfl

theorem findModel_named (found : state.findModel modelId = some row) : row.modelId = modelId :=
  find_key found

/-- An update of the row that was read exchanges it and touches nothing else. -/
theorem updateModel_ok {change : ModelRow → ModelRow} (found : state.findModel modelId = some row)
    (kept : ∀ other, other.modelId = modelId → (change other).modelId = modelId)
    (ok : state.updateModel row change = .ok after) :
    after = { state with inventory := after.inventory } ∧ ∀ other, after.findModel other =
      if other = modelId then some (change row) else state.findModel other := by
  simp only [updateModel, bind_ok, pure_ok] at ok
  obtain ⟨-, -, rfl⟩ := ok
  refine ⟨rfl, fun other => ?_⟩
  have named := findModel_named found
  rw [findModel, named, find_update kept]
  by_cases same : other = modelId
  · subst same
    have here : find ModelRow.modelId other state.inventory = some row := found
    rw [if_pos rfl, here, Option.map_some, if_pos named]
  · rw [if_neg same, findModel]
    cases held : find ModelRow.modelId other state.inventory with
    | none => rfl
    | some =>
      rw [Option.map_some, if_neg fun clash => same ((find_key held).symm.trans clash)]

theorem insertLink_ok (ok : state.insertLink link = .ok after) :
    after = { state with links := after.links } := by
  unfold insertLink at ok
  split at ok
  · cases ok
    rfl
  · simp only [bind_ok, guard_ok, pure_ok] at ok
    rw [← ok.2]

theorem insertLinks_ok {links : List EvidenceLink} (ok : state.insertLinks links = .ok after) :
    after = { state with links := after.links } := by
  induction links generalizing state with
  | nil =>
    rw [insertLinks, List.foldlM_nil, pure_ok] at ok
    rw [ok]
  | cons _ _ ih =>
    rw [insertLinks, List.foldlM_cons, bind_ok] at ok
    obtain ⟨_, inserted, rest⟩ := ok
    rw [ih rest, insertLink_ok inserted]

theorem Edited.of_updated {inserted changed : ModelState} {change : ModelRow → ModelRow}
    (found : state.findModel modelId = some row) (passes : edit.Passes row)
    (reads : edit.ReadsVersion → expectedVersion = state.store.version "model" modelId)
    (recorded : state.transition actor capability operationKey (modelRequest actor modelId
      expectedVersion (edit.recordedStatus row) version edit.eventType policyVersion artifactIds
      metadata) = .ok (eventId, moved)) (updated : inserted.updateModel row change = .ok changed)
    (stored : inserted.store = moved.store) (inventory : inserted.inventory = moved.inventory)
    (kept : ∀ other, other.modelId = modelId → (change other).modelId = modelId)
    (changes : change row = edit.change row) (store : after.store = changed.store)
    (rows : after.inventory = changed.inventory) : Edited state modelId edit row after := by
  obtain ⟨logged, moves⟩ := transition_recorded recorded
  have lookup : ∀ other, inserted.findModel other = state.findModel other := by
    intro other
    rw [findModel, inventory, moves]
    rfl
  obtain ⟨edits, exchanged⟩ := updateModel_ok ((lookup modelId).trans found) kept updated
  refine ⟨found, passes, ⟨operationKey, version, actor, policyVersion, artifactIds, metadata,
    expectedVersion, reads, ?_⟩, fun other => ?_⟩
  · rw [store, edits]
    exact stored ▸ logged
  · rw [findModel, rows, ← changes, ← lookup other]
    exact exchanged other

theorem linkEvidence_edited {evidence : ArtifactProvenance}
    (ok : linkEvidence deployment readings state actor modelId evidence role operationKey policyVersion =
      .ok (answered, after)) :
    ∃ row, Edited state modelId (.linked readings.now evidence role) row after := by
  simp only [linkEvidence, requireGovernance, bind_ok, guard_ok, pair_ok, Prod.exists] at ok
  obtain ⟨-, row, _, read, -, -, -, -, _, current, _, _, recorded, _, linked,
    changed, updated, -, rfl⟩ := ok
  obtain ⟨found, consistent, rfl⟩ := readModel_ok read
  rw [updatedRecord_status] at recorded
  have links := insertLink_ok linked
  refine ⟨row, .of_updated found consistent (fun _ => currentVersion_ok current) recorded updated ?_ ?_ ?_
    rfl rfl rfl⟩
  · rw [links]
  · rw [links]
  · intro _ _
    exact (updatedRecord_modelId _ _ _ _).trans (findModel_named found)

theorem Edited.of_noted {eventType : String} (found : state.findModel modelId = some row)
    (consistent : row.record.Consistent)
    (current : state.currentVersion modelId = .ok expectedVersion)
    (recorded : state.transition actor capability operationKey (modelRequest actor modelId
      expectedVersion row.record.status version eventType policyVersion artifactIds metadata) =
        .ok (eventId, moved)) (store : after.store = moved.store)
    (rows : after.inventory = moved.inventory) :
    Edited state modelId (.noted eventType) row after := by
  obtain ⟨logged, moves⟩ := transition_recorded recorded
  refine ⟨found, consistent, ⟨operationKey, version, actor, policyVersion, artifactIds, metadata,
    expectedVersion, fun _ => currentVersion_ok current, ?_⟩, fun other => ?_⟩
  · rw [store]
    exact logged
  · rw [findModel, rows, moves]
    split
    · rename_i same
      rw [same]
      exact found
    · rfl

theorem recordEffectiveChallenge_edited
    (ok : recordEffectiveChallenge deployment state actor modelId challenge operationKey policyVersion =
      .ok (answered, after)) :
    ∃ row, Edited state modelId (.noted "MODEL_EFFECTIVE_CHALLENGE_RECORDED") row after := by
  simp only [recordEffectiveChallenge, requireGovernance, insertChallenge, bind_ok, guard_ok,
    pure_ok, Prod.mk.injEq, Prod.exists] at ok
  obtain ⟨-, row, _, read, -, -, -, -, -, -, _, -, _, current, _, _, recorded,
    -, ⟨-, -, rfl⟩, -, rfl⟩ := ok
  obtain ⟨found, consistent, rfl⟩ := readModel_ok read
  exact ⟨row, .of_noted found consistent current recorded rfl rfl⟩

theorem grantException_edited
    (ok : grantException deployment readings state actor modelId useException operationKey policyVersion =
      .ok (answered, after)) :
    ∃ row, Edited state modelId (.noted "MODEL_USE_EXCEPTION_GRANTED") row after := by
  simp only [grantException, requireGovernance, insertException, bind_ok, guard_ok, pure_ok,
    Prod.mk.injEq, Prod.exists] at ok
  obtain ⟨-, row, _, read, -, -, -, _, current, _, _, recorded, -, ⟨-, rfl⟩, -,
    rfl⟩ := ok
  obtain ⟨found, consistent, rfl⟩ := readModel_ok read
  exact ⟨row, .of_noted found consistent current recorded rfl rfl⟩

theorem approve_edited
    (ok : approve readings state actor modelId validationId expectedVersion operationKey policyVersion =
      .ok (answered, after)) :
    ∃ validation row, state.findValidation modelId validationId = some validation ∧
      Edited state modelId (.approved readings.now validation) row after := by
  simp only [approve, requireGovernance, bind_ok, guard_ok, expect_ok, pair_ok, Prod.exists,
    Option.filter_eq_some_iff, not_not] at ok
  obtain ⟨-, row, _, read, validation, ⟨held, -⟩, admissible, -, -, _, _, recorded,
    changed, updated, linked, inserted, -, rfl⟩ := ok
  obtain ⟨found, consistent, rfl⟩ := readModel_ok read
  have named := findModel_named found
  have links := insertLinks_ok inserted
  refine ⟨validation, row, held, .of_updated found ⟨consistent, admissible⟩ (fun reads => by cases reads) recorded
    updated rfl rfl (fun _ _ => named) rfl ?_ ?_⟩
  · rw [links]
  · rw [links]

theorem recordDrift_edited
    (ok : recordDrift deployment readings state actor modelId observation expectedVersion operationKey
      policyVersion = .ok (answered, after)) :
    ∃ row, Edited state modelId (.observed readings.now observation.breached) row after := by
  simp only [recordDrift, requireGovernance, bind_ok, guard_ok, pair_ok, Prod.exists] at ok
  obtain ⟨-, row, _, read, -, -, -, -, _, _, recorded, -, _, updated, -, rfl⟩ := ok
  obtain ⟨found, consistent, rfl⟩ := readModel_ok read
  have named := findModel_named found
  exact ⟨row, .of_updated found consistent (by rintro ⟨⟩) recorded updated rfl rfl
    (fun _ _ => named) rfl rfl rfl⟩

theorem retire_edited
    (ok : retire deployment readings state actor modelId retirementArtifact expectedVersion operationKey
      policyVersion replacement = .ok (answered, after)) :
    ∃ row, Edited state modelId (.retired readings.now replacement) row after := by
  simp only [retire, requireGovernance, insertRetirement, bind_ok, guard_ok, pure_ok, Prod.mk.injEq,
    Prod.exists] at ok
  obtain ⟨-, row, _, read, active, -, -, -, _, _, recorded, -, _, updated, -,
    ⟨-, rfl⟩, -, rfl⟩ := ok
  obtain ⟨found, consistent, rfl⟩ := readModel_ok read
  have named := findModel_named found
  exact ⟨row, .of_updated found ⟨consistent, active⟩ (by rintro ⟨⟩) recorded updated rfl rfl
    (fun _ _ => named) rfl rfl rfl⟩

theorem watchModel_edited (found : state.findModel modelId = some row)
    (ok : watchModel state actor row observation = .ok after) :
    Edited state modelId .watched row after := by
  have named := findModel_named found
  simp only [watchModel, bind_ok, Prod.exists] at ok
  obtain ⟨_, current, _, _, recorded, updated⟩ := ok
  rw [named] at current recorded
  exact .of_updated found trivial (fun _ => currentVersion_ok current) recorded updated rfl rfl
    (fun _ same => same) rfl rfl rfl

theorem registerModel_registered (plain : call.edit? state = none)
    (ok : registerModel deployment state actor record recordArtifact operationKey policyVersion =
      .ok (answered, after)) : Effect state call after := by
  simp only [registerModel, insertModel, Identity.requires, bind_ok, guard_ok, pure_ok,
    Prod.mk.injEq, Prod.exists] at ok
  obtain ⟨-, -, -, -, _, -, _, moved, recorded, _, ⟨-, -, absent, -, rfl⟩, -, rfl⟩ := ok
  obtain ⟨logged, moves⟩ := transition_recorded recorded
  have missing : moved.findModel record.modelId = none := Option.not_isSome_iff_eq_none.mp absent
  have inventory : moved.inventory = state.inventory := by rw [moves]
  rw [findModel, inventory] at missing
  refine .registered plain logged missing fun other => ?_
  rw [findModel, inventory]
  exact find_insert_absent missing

theorem recordModelValidation_aside
    (ok : recordModelValidation deployment state actor modelId validation validationArtifact =
      .ok (answered, after)) : Aside state after := by
  simp only [recordModelValidation, Identity.requires, bind_ok, guard_ok, expect_ok, pair_ok,
    Prod.exists] at ok
  obtain ⟨-, -, _, -, _, -, -, -, -, -, -, _, -, _, moved, recorded, -, rfl⟩ := ok
  obtain ⟨logged, moves⟩ := transition_recorded recorded
  have stored : (moved.insertValidation ⟨modelId, validation⟩).store = moved.store := by
    unfold insertValidation
    split <;> rfl
  have inventory : (moved.insertValidation ⟨modelId, validation⟩).inventory = state.inventory := by
    unfold insertValidation
    split <;> rw [moves]
  exact .of_recorded (stored.symm ▸ logged) (by simp) inventory

theorem insertDrift_store (state : ModelState) (observationId : String) :
    (state.insertDrift observationId).store = state.store ∧
      (state.insertDrift observationId).inventory = state.inventory := by
  unfold insertDrift
  split <;> exact ⟨rfl, rfl⟩

theorem governanceDrift_effect
    (ok : GovernanceService.recordDrift deployment state actor modelId observation =
      .ok (answered, after)) :
    Effect state ⟨readings, actor, .recordDrift modelId observation⟩ after := by
  simp only [GovernanceService.recordDrift, Identity.requires, bind_ok, guard_ok, expect_ok,
    Prod.exists] at ok
  obtain ⟨-, -, -, row, found, eventId, moved, recorded, ok⟩ := ok
  obtain ⟨logged, moves⟩ := transition_recorded recorded
  obtain ⟨stored, rows⟩ := insertDrift_store moved observation.observationId
  have aside : Aside state (moved.insertDrift observation.observationId) :=
    .of_recorded (stored.symm ▸ logged) (by simp) (by rw [rows, moves])
  split at ok
  · rename_i breached
    simp only [bind_ok, pair_ok] at ok
    obtain ⟨watched, moves, -, rfl⟩ := ok
    exact .edited (if_pos breached) aside (watchModel_edited ((aside.rows modelId).trans found) moves)
  · rename_i steady
    simp only [pair_ok] at ok
    obtain ⟨-, rfl⟩ := ok
    exact .aside (if_neg steady) aside

theorem putArtifact_aside
    (ok : putArtifact deployment readings state actor fields schemaName classification policyVersion =
      .ok (answered, after)) : Aside state after := by
  simp only [putArtifact, Identity.requires, bind_ok, guard_ok] at ok
  obtain ⟨-, -, ok⟩ := ok
  split at ok
  · simp only [pair_ok] at ok
    obtain ⟨-, rfl⟩ := ok
    exact .of_eq rfl rfl
  · simp only [pair_ok] at ok
    obtain ⟨-, rfl⟩ := ok
    exact ⟨fun _ => rfl, ⟨[], (List.append_nil _).symm, by simp⟩, fun _ => rfl, id⟩

theorem otherTransition_aside
    (ok : otherTransition state actor capability operationKey request = .ok (answered, after)) :
    Aside state after := by
  simp only [otherTransition, bind_ok, guard_ok, pair_ok, Prod.exists] at ok
  obtain ⟨foreign, _, _, recorded, -, rfl⟩ := ok
  obtain ⟨logged, moves⟩ := transition_recorded recorded
  refine .of_recorded logged (fun kind => foreign ?_) (by rw [moves])
  rw [kind]
  decide

theorem effect_of_answer (ok : answer deployment state call = .ok (answered, after)) :
    Effect state call after := by
  obtain ⟨_, _, request⟩ := call
  cases request with
  | registerModel => exact registerModel_registered rfl ok
  | recordModelValidation => exact .aside rfl (recordModelValidation_aside ok)
  | recordDrift => exact governanceDrift_effect ok
  | putArtifact => exact .aside rfl (putArtifact_aside ok)
  | otherTransition => exact .aside rfl (otherTransition_aside ok)
  | freeze =>
    cases ok
    exact .aside rfl (.of_eq rfl rfl)
  | risk request =>
    cases request with
    | linkEvidence =>
      obtain ⟨row, edited⟩ := linkEvidence_edited ok
      exact .edited rfl (.of_eq rfl rfl) edited
    | recordEffectiveChallenge =>
      obtain ⟨row, edited⟩ := recordEffectiveChallenge_edited ok
      exact .edited rfl (.of_eq rfl rfl) edited
    | approve =>
      obtain ⟨_, row, held, edited⟩ := approve_edited ok
      refine .edited ?_ (.of_eq rfl rfl) edited
      rw [ModelCall.edit?, held]
      rfl
    | recordDrift =>
      obtain ⟨row, edited⟩ := recordDrift_edited ok
      exact .edited rfl (.of_eq rfl rfl) edited
    | retire =>
      obtain ⟨row, edited⟩ := retire_edited ok
      exact .edited rfl (.of_eq rfl rfl) edited
    | grantException =>
      obtain ⟨_, edited⟩ := grantException_edited ok
      exact .edited rfl (.of_eq rfl rfl) edited

end Liki.ModelRisk
