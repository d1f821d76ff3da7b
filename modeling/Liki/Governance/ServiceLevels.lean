import Liki.Governance.Calls

/-! Service levels. An evaluation counts the samples of a window, compares the share of good
ones with the target and freezes promotions after enough breaches. Breaches are counted from
the last lift on, by the clock readings in the tables; with strictly increasing readings that
is the count over the run. -/
namespace Liki.Governance
open Checks CallSystem List KeyedRows

/-- `SliDefinition`. Its row never changes. -/
structure SliDefinition where
  sliId : String
  targetBasisPoints : ℕ
  windowSeconds : ℕ
  breachThreshold : ℕ
  policyVersion : String
  target_le : targetBasisPoints ≤ 10000
  window_bounds : 60 ≤ windowSeconds ∧ windowSeconds ≤ 31536000
  threshold_pos : 1 ≤ breachThreshold

structure SliSample where
  sampleId : String
  sliId : String
  observedAt : Time
  isGood : Bool
  measurementArtifactId : ℕ

inductive SloStatus where
  | compliant | breached
  deriving DecidableEq

def SloStatus.value : SloStatus → String
  | .compliant => "COMPLIANT"
  | .breached => "BREACHED"

/-- A row of `reliability_slo_windows`. -/
structure SloWindow where
  windowId : String
  sliId : String
  windowStart : Time
  windowEnd : Time
  totalSamples : ℕ
  goodSamples : ℕ
  complianceBasisPoints : ℤ
  errorBudgetConsumed : ℤ
  status : SloStatus
  evaluatedAt : Time

structure SliState where
  governance : GovernanceState
  samples : List SliSample
  windows : List SloWindow

def SliSample.within (sliId : String) (windowStart windowEnd : Time) (sample : SliSample) : Bool :=
  sample.sliId = sliId ∧ windowStart < sample.observedAt ∧ sample.observedAt ≤ windowEnd

/-- `good * 10000 // total`. -/
def compliance (good total : ℕ) : ℤ := (good : ℤ) * 10000 / total

/-- The consumed part of the error budget, in basis points. -/
def errorBudget (compliance target : ℤ) : ℤ :=
  let actualError := 10000 - compliance
  let allowedError := 10000 - target
  if actualError = 0 then 0
  else if allowedError = 0 then 10000
  else min 10000 (actualError * 10000 / allowedError)

/-- The row that an evaluation of the counts records. -/
def SliDefinition.window (definition : SliDefinition) (good total : ℕ) (windowEnd now : Time) :
    SloWindow :=
  let windowStart := windowEnd - definition.windowSeconds * 1000000
  let compliance := compliance good total
  { windowId := "SLO:" ++ definition.sliId ++ ":" ++ toString (windowStart.tdiv 1000000) ++ ":" ++
      toString (windowEnd.tdiv 1000000)
    sliId := definition.sliId
    windowStart, windowEnd
    totalSamples := total
    goodSamples := good
    complianceBasisPoints := compliance
    errorBudgetConsumed := errorBudget compliance definition.targetBasisPoints
    status := if definition.targetBasisPoints ≤ compliance then .compliant else .breached
    evaluatedAt := now }

namespace SliState

def freezesOf (state : SliState) (sliId : String) : List FreezeRow :=
  state.governance.indicatorFreezes.filter fun freeze => freeze.scopeId = sliId

def windowsOf (state : SliState) (sliId : String) : List SloWindow :=
  state.windows.filter fun window => window.sliId = sliId

/-- `max(lifted_at)`. -/
def lastLift (state : SliState) (sliId : String) : Option Time :=
  ((state.freezesOf sliId).filterMap FreezeRow.liftedAt).max?

def recentBreaches (state : SliState) (sliId : String) : ℕ :=
  ((state.windowsOf sliId).filter fun window => window.status = .breached ∧
    ∀ lifted ∈ state.lastLift sliId, lifted < window.evaluatedAt).length

def activeFreezes (state : SliState) (sliId : String) : List FreezeRow :=
  (state.freezesOf sliId).filter fun freeze => freeze.liftedAt = none

def freezeBreached (state : SliState) (definition : SliDefinition) (status : SloStatus) :
    Except ServiceError SliState :=
  if status = .breached ∧ definition.breachThreshold ≤ state.recentBreaches definition.sliId then do
    let (_, governance) ← freezeIndicator state.governance definition.sliId
    return { state with governance }
  else .ok state

end SliState

def samplesLevels (actor : Identity) : Except ServiceError Unit :=
  refuseIf (actor.role ≠ .governance ∧ actor.role ≠ .scheduler ∧ actor.role ≠ .operator)
    (.domain "FORBIDDEN")

/-- `record_sample`. -/
def recordSample (deployment : Deployment) (definitions : List SliDefinition) (state : SliState)
    (actor : Identity) (sliId sampleId : String) (observedAt : Time) (isGood : Bool)
    (measurement : ArtifactProvenance) : Except ServiceError SliState := do
  samplesLevels actor
  refuseIf (¬∃ definition ∈ definitions, definition.sliId = sliId) (.domain "UNKNOWN_SLI")
  let artifactId ← Reliability.artifactId deployment state.governance measurement
    (some "reliability/sli-measurement/v1")
  refuseIf (∃ sample ∈ state.samples, sample.sampleId = sampleId) (.constraint "sample_id")
  refuseIf (∃ sample ∈ state.samples, sample.sliId = sliId ∧ sample.observedAt = observedAt ∧
      sample.measurementArtifactId = artifactId)
    (.constraint "sli_id, observed_at, measurement_artifact_id")
  return { state with samples := state.samples ++ [⟨sampleId, sliId, observedAt, isGood, artifactId⟩] }

def evaluationRequest (governance : GovernanceState) (actor : Identity) (definition : SliDefinition)
    (window : SloWindow) : GovernanceTransition where
  kind := "reliability_sli"
  aggregateId := definition.sliId
  expectedVersion := governance.store.version "reliability_sli" definition.sliId
  state := .other (window.status.value ++ " " ++ window.windowId)
  eventType := "SLI_WINDOW_EVALUATED"
  principalId := actor.principalId
  taskId := "sli:" ++ definition.sliId
  policyVersion := definition.policyVersion
  evidenceIds := []
  artifactIds := []
  metadata := none

/-- `evaluate_sli`. -/
def evaluateSli (definitions : List SliDefinition) (readings : Readings) (state : SliState)
    (actor : Identity) (sliId : String) (windowEnd : Time) (operationKey : String) :
    Except ServiceError (SloWindow × SliState) := do
  samplesLevels actor
  let definition ← expect (find SliDefinition.sliId sliId definitions)
    (.domain "UNKNOWN_SLI")
  let windowStart := windowEnd - definition.windowSeconds * 1000000
  let observed := state.samples.filter (SliSample.within sliId windowStart windowEnd)
  refuseIf (observed.length = 0) (.domain "SLI_WINDOW_HAS_NO_SAMPLES")
  let good := (observed.filter SliSample.isGood).length
  let window := definition.window good observed.length windowEnd readings.now
  refuseIf (∃ earlier ∈ state.windows, earlier.windowId = window.windowId)
    (.domain "SLI_WINDOW_ALREADY_EVALUATED")
  let (_, governance) ← state.governance.transition actor .incident operationKey
    (evaluationRequest state.governance actor definition window) none
  let state ← SliState.freezeBreached ⟨governance, state.samples, state.windows ++ [window]⟩
    definition window.status
  return (window, state)

inductive SliRequest where
  | recordSample (sliId sampleId : String) (observedAt : Time) (isGood : Bool)
      (measurement : ArtifactProvenance)
  | evaluateSli (sliId : String) (windowEnd : Time) (operationKey : String)
  | liftSliFreeze (sliId : String) (remediation : ArtifactProvenance)
  /-- Whatever else the platform writes to the log and the artifacts meanwhile. -/
  | elsewhere (store : GovernanceStore)

structure SliCall where
  readings : Readings
  actor : Identity
  request : SliRequest

def answerSli (deployment : Deployment) (definitions : List SliDefinition) :
    Handler SliState SliCall ServiceError (Option SloWindow) :=
  fun state ⟨readings, actor, request⟩ => match request with
    | .recordSample sliId sampleId observedAt isGood measurement => do
      let state ← recordSample deployment definitions state actor sliId sampleId observedAt isGood
        measurement
      return (none, state)
    | .evaluateSli sliId windowEnd operationKey => do
      let (window, state) ← evaluateSli definitions readings state actor sliId windowEnd operationKey
      return (some window, state)
    | .liftSliFreeze sliId remediation => do
      let (_, governance) ← liftIndicatorFreeze deployment readings state.governance actor sliId
        remediation
      return (none, { state with governance })
    | .elsewhere store => return (none, { state with governance := { state.governance with store } })

def SliState.empty : SliState := ⟨.empty, [], []⟩

/-- The calls that read the clock for the indicator's tables. -/
def SliCall.clocks (call : SliCall) (sliId : String) : Bool :=
  match call.request with
  | .evaluateSli name _ _ | .liftSliFreeze name _ => name = sliId
  | _ => false

/-- The readings of an indicator's evaluations and lifts. -/
def clockings (sliId : String) (calls : List SliCall) : List Time :=
  (calls.filter fun call => call.clocks sliId).map fun call => call.readings.now

def countBreach (sliId : String) (breaches : ℕ) (call : SliCall)
    (reply : Except ServiceError (Option SloWindow)) : ℕ :=
  match call.request, reply with
  | .evaluateSli name _ _, .ok (some window) =>
    if name = sliId ∧ window.status = .breached then breaches + 1 else breaches
  | .liftSliFreeze name _, .ok _ => if name = sliId then 0 else breaches
  | _, _ => breaches

/-- The breached evaluations of an indicator since its last lift, over a run. -/
def breachesSinceLift (deployment : Deployment) (definitions : List SliDefinition) (sliId : String) :
    SliState → ℕ → List SliCall → ℕ
  | _, breaches, [] => breaches
  | state, breaches, call :: calls =>
    breachesSinceLift deployment definitions sliId (next (answerSli deployment definitions) state call)
      (countBreach sliId breaches call (reply (answerSli deployment definitions) state call)) calls

variable {deployment : Deployment} {definitions : List SliDefinition} {definition : SliDefinition}
  {state after : SliState} {call : SliCall} {calls : List SliCall} {good total breaches : ℕ}
  {answer : Option SloWindow}

theorem compliance_bounds (counted : 0 < total) (among : good ≤ total) :
    0 ≤ compliance good total ∧ compliance good total ≤ 10000 := by
  constructor
  · exact Int.ediv_nonneg (by positivity) (by positivity)
  · apply Int.ediv_le_of_le_mul (by exact_mod_cast counted)
    have among : (good : ℤ) ≤ total := by exact_mod_cast among
    nlinarith

/-- The floor division agrees with the exact comparison. -/
theorem le_compliance_iff {target : ℕ} (counted : 0 < total) :
    (target : ℤ) ≤ compliance good total ↔ target * total ≤ good * 10000 := by
  rw [compliance, Int.le_ediv_iff_mul_le (by exact_mod_cast counted)]
  exact_mod_cast Iff.rfl

theorem errorBudget_bounds {compliance target : ℤ} (full : compliance ≤ 10000)
    (reachable : target ≤ 10000) :
    0 ≤ errorBudget compliance target ∧ errorBudget compliance target ≤ 10000 := by
  rw [errorBudget]
  split
  · omega
  · split
    · omega
    · refine ⟨le_min (by omega) (Int.ediv_nonneg ?_ (by omega)), min_le_left _ _⟩
      nlinarith

theorem errorBudget_breached {compliance target : ℤ} (below : compliance < target)
    (reachable : target ≤ 10000) : errorBudget compliance target = 10000 := by
  rw [errorBudget]
  rw [if_neg (by omega)]
  split
  · rfl
  · apply min_eq_left
    rw [Int.le_ediv_iff_mul_le (by omega)]
    nlinarith

structure SloWindow.Lawful (definition : SliDefinition) (samples : List SliSample)
    (window : SloWindow) : Prop where
  counts : ∃ recorded, recorded <+: samples ∧
    window.totalSamples = (recorded.filter (SliSample.within definition.sliId window.windowStart
      window.windowEnd)).length ∧
    window.goodSamples = ((recorded.filter (SliSample.within definition.sliId window.windowStart
      window.windowEnd)).filter SliSample.isGood).length
  sampled : 0 < window.totalSamples
  compliant_iff : window.status = .compliant ↔
    definition.targetBasisPoints * window.totalSamples ≤ window.goodSamples * 10000
  budget : 0 ≤ window.errorBudgetConsumed ∧ window.errorBudgetConsumed ≤ 10000
  exhausted : window.status = .breached → window.errorBudgetConsumed = 10000

theorem SloWindow.Lawful.append {samples more : List SliSample} {window : SloWindow}
    (lawful : window.Lawful definition samples) : window.Lawful definition (samples ++ more) := by
  obtain ⟨recorded, earlier, total, good⟩ := lawful.counts
  exact { lawful with counts := ⟨recorded, earlier.trans (prefix_append _ _), total, good⟩ }

/-- What the tables say of one indicator, before the remaining calls. -/
structure Levels (definition : SliDefinition) (upcoming : List Time) (breaches : ℕ)
    (state : SliState) : Prop where
  counted : state.recentBreaches definition.sliId = breaches
  frozen : state.activeFreezes definition.sliId ≠ [] ↔ definition.breachThreshold ≤ breaches
  single : (state.activeFreezes definition.sliId).length ≤ 1
  evaluated : ∀ window ∈ state.windowsOf definition.sliId, ∀ later ∈ upcoming,
    window.evaluatedAt < later
  lifted : ∀ freeze ∈ state.freezesOf definition.sliId, ∀ lifted ∈ freeze.liftedAt,
    ∀ later ∈ upcoming, lifted < later
  lawful : ∀ window ∈ state.windowsOf definition.sliId, window.Lawful definition state.samples

open SliState

/-- A call that touches neither table of the indicator. -/
theorem Levels.aside {upcoming fewer : List Time} (levels : Levels definition upcoming breaches state)
    (windows : after.windowsOf definition.sliId = state.windowsOf definition.sliId)
    (freezes : after.freezesOf definition.sliId = state.freezesOf definition.sliId)
    (samples : state.samples <+: after.samples) (fewer_subset : fewer ⊆ upcoming) :
    Levels definition fewer breaches after := by
  have recent : after.recentBreaches definition.sliId = state.recentBreaches definition.sliId := by
    rw [recentBreaches, recentBreaches, windows, lastLift, lastLift,
      freezes]
  have active : after.activeFreezes definition.sliId = state.activeFreezes definition.sliId := by
    rw [activeFreezes, activeFreezes, freezes]
  obtain ⟨more, extended⟩ := samples
  refine ⟨recent.trans levels.counted, ?_, ?_, ?_, ?_, ?_⟩
  · rw [active]
    exact levels.frozen
  · rw [active]
    exact levels.single
  · rw [windows]
    exact fun window held later remaining => levels.evaluated window held later (fewer_subset remaining)
  · rw [freezes]
    exact fun freeze held lifted same later remaining =>
      levels.lifted freeze held lifted same later (fewer_subset remaining)
  · rw [windows, ← extended]
    exact fun window held => (levels.lawful window held).append

theorem lastLift_mem {lifted : Time} (last : lifted ∈ state.lastLift sliId) :
    ∃ freeze ∈ state.freezesOf sliId, lifted ∈ freeze.liftedAt := by
  obtain ⟨freeze, held, same⟩ := mem_filterMap.mp (max?_mem last)
  exact ⟨freeze, held, same⟩

theorem recentBreaches_append (windows : after.windowsOf sliId = state.windowsOf sliId ++ [window])
    (freezes : after.freezesOf sliId = state.freezesOf sliId)
    (later : ∀ freeze ∈ state.freezesOf sliId, ∀ lifted ∈ freeze.liftedAt,
      lifted < window.evaluatedAt) :
    after.recentBreaches sliId =
      state.recentBreaches sliId + if window.status = .breached then 1 else 0 := by
  have last : after.lastLift sliId = state.lastLift sliId := by
    rw [lastLift, lastLift, freezes]
  have counts : ∀ lifted ∈ state.lastLift sliId, lifted < window.evaluatedAt := by
    intro lifted same
    obtain ⟨freeze, held, stamped⟩ := lastLift_mem same
    exact later freeze held lifted stamped
  rw [recentBreaches, recentBreaches, windows, last, filter_append,
    length_append]
  by_cases breached : window.status = .breached
  · have counted : (window.status = .breached ∧
        ∀ lifted ∈ state.lastLift sliId, lifted < window.evaluatedAt) := ⟨breached, counts⟩
    rw [if_pos breached, filter_singleton, decide_eq_true counted]
    rfl
  · rw [if_neg breached, filter_singleton, decide_eq_false fun counted => breached counted.1]
    rfl

theorem exists_active_iff :
    (∃ freeze ∈ state.governance.indicatorFreezes, freeze.scopeId = sliId ∧ freeze.liftedAt = none) ↔
      state.activeFreezes sliId ≠ [] := by
  simp [activeFreezes, freezesOf, filter_eq_nil_iff, and_comm]

theorem freezeBreached_ok {status : SloStatus}
    (ok : state.freezeBreached definition status = .ok after) :
    after.windows = state.windows ∧ after.samples = state.samples ∧
      ((status = .breached ∧ definition.breachThreshold ≤ state.recentBreaches definition.sliId) ∧
          state.activeFreezes definition.sliId = [] ∧
          after.governance.indicatorFreezes =
            state.governance.indicatorFreezes ++ [⟨definition.sliId, none⟩] ∨
        ¬((status = .breached ∧ definition.breachThreshold ≤ state.recentBreaches definition.sliId) ∧
            state.activeFreezes definition.sliId = []) ∧
          after.governance.indicatorFreezes = state.governance.indicatorFreezes) := by
  rw [freezeBreached] at ok
  split at ok
  · next enough =>
    simp only [freezeIndicator, bind_ok, pure_ok, Prod.exists] at ok
    obtain ⟨_, governance, frozen, rfl⟩ := ok
    refine ⟨rfl, rfl, ?_⟩
    split at frozen <;> cases frozen
    · next standing => exact .inr ⟨fun both => exists_active_iff.mp standing both.2, rfl⟩
    · next clear =>
      exact .inl ⟨enough, not_not.mp fun standing => clear (exists_active_iff.mpr standing), rfl⟩
  · next few =>
    cases ok
    exact ⟨rfl, rfl, .inr ⟨fun both => few both.1, rfl⟩⟩

theorem recentBreaches_frozen (windows : after.windows = state.windows)
    (freezes : after.freezesOf sliId = state.freezesOf sliId ++ more)
    (standing : ∀ freeze ∈ more, freeze.liftedAt = none) :
    after.recentBreaches sliId = state.recentBreaches sliId := by
  have nothing : more.filterMap FreezeRow.liftedAt = [] := filterMap_eq_nil_iff.mpr standing
  rw [recentBreaches, recentBreaches, windowsOf, windowsOf, windows,
    lastLift, lastLift, freezes, filterMap_append, nothing, append_nil]

theorem Levels.evaluate {upcoming : List Time} {between : SliState} {window : SloWindow}
    (levels : Levels definition (window.evaluatedAt :: upcoming) breaches state)
    (windows : between.windowsOf definition.sliId = state.windowsOf definition.sliId ++ [window])
    (freezes : between.freezesOf definition.sliId = state.freezesOf definition.sliId)
    (samples : between.samples = state.samples) (lawful : window.Lawful definition state.samples)
    (first : ∀ later ∈ upcoming, window.evaluatedAt < later)
    (ok : between.freezeBreached definition window.status = .ok after) :
    Levels definition upcoming (breaches + if window.status = .breached then 1 else 0) after := by
  have recent : between.recentBreaches definition.sliId =
      breaches + if window.status = .breached then 1 else 0 := by
    rw [recentBreaches_append windows freezes fun freeze held lifted same =>
      levels.lifted freeze held lifted same _ mem_cons_self, levels.counted]
  have active : between.activeFreezes definition.sliId = state.activeFreezes definition.sliId := by
    rw [activeFreezes, activeFreezes, freezes]
  have evaluated : ∀ other ∈ between.windowsOf definition.sliId, ∀ later ∈ upcoming,
      other.evaluatedAt < later := by
    intro other held later remaining
    rw [windows] at held
    obtain held | only := mem_append.mp held
    · exact levels.evaluated other held later (mem_cons_of_mem _ remaining)
    · rw [mem_singleton.mp only]
      exact first later remaining
  have lawful : ∀ other ∈ between.windowsOf definition.sliId,
      other.Lawful definition between.samples := by
    intro other held
    rw [windows] at held
    rw [samples]
    obtain held | only := mem_append.mp held
    · exact levels.lawful other held
    · rw [mem_singleton.mp only]
      exact lawful
  have lifted : ∀ freeze ∈ state.freezesOf definition.sliId, ∀ lifted ∈ freeze.liftedAt,
      ∀ later ∈ upcoming, lifted < later := fun freeze held lifted same later remaining =>
    levels.lifted freeze held lifted same later (mem_cons_of_mem _ remaining)
  obtain ⟨rows, sampled, changed⟩ := freezeBreached_ok ok
  rw [recent, active] at changed
  have same : after.windowsOf definition.sliId = between.windowsOf definition.sliId := by
    rw [windowsOf, windowsOf, rows]
  have before := levels.frozen
  obtain ⟨⟨breached, enough⟩, clear, added⟩ | ⟨few, kept⟩ := changed
  · have frozen : after.freezesOf definition.sliId =
        state.freezesOf definition.sliId ++ [⟨definition.sliId, none⟩] := by
      rw [freezesOf, added, filter_append, ← freezesOf, freezes]
      simp
    have standing : after.activeFreezes definition.sliId = [⟨definition.sliId, none⟩] := by
      rw [activeFreezes, frozen, filter_append, ← activeFreezes, clear]
      rfl
    refine ⟨?_, ?_, ?_, same ▸ evaluated, ?_, ?_⟩
    · rw [← recent]
      refine recentBreaches_frozen rows (frozen.trans (by rw [freezes])) fun freeze only => ?_
      rw [mem_singleton.mp only]
    · rw [standing]
      exact ⟨fun _ => enough, fun _ => cons_ne_nil _ _⟩
    · rw [standing]
      exact le_rfl
    · intro freeze held stamp stamped
      rw [frozen] at held
      obtain held | only := mem_append.mp held
      · exact lifted freeze held stamp stamped
      · rw [mem_singleton.mp only] at stamped
        cases stamped
    · rw [same, sampled]
      exact lawful
  · have unchanged : after.freezesOf definition.sliId = between.freezesOf definition.sliId := by
      rw [freezesOf, kept, ← freezesOf]
    have standing : after.activeFreezes definition.sliId = state.activeFreezes definition.sliId := by
      rw [activeFreezes, unchanged, ← activeFreezes, active]
    refine ⟨?_, ?_, ?_, same ▸ evaluated, ?_, ?_⟩
    · rw [← recent]
      exact recentBreaches_frozen rows (unchanged.trans (append_nil _).symm) fun _ absent =>
        absurd absent not_mem_nil
    · rw [standing]
      by_cases breached : window.status = .breached
      · rw [if_pos breached] at few ⊢
        exact ⟨fun standing => (before.mp standing).trans (Nat.le_succ _),
          fun enough clear => few ⟨⟨breached, enough⟩, clear⟩⟩
      · rwa [if_neg breached]
    · rw [standing]
      exact levels.single
    · rw [unchanged, freezes]
      exact lifted
    · rw [same, sampled]
      exact lawful

/-- A lift stamps every standing freeze and the count starts anew. -/
theorem Levels.lift (levels : Levels definition (now :: upcoming) breaches state)
    (first : ∀ later ∈ upcoming, now < later) (windows : after.windows = state.windows)
    (samples : after.samples = state.samples) (standing : state.activeFreezes definition.sliId ≠ [])
    (freezes : after.freezesOf definition.sliId = (state.freezesOf definition.sliId).map
      fun freeze => { freeze with liftedAt := some (freeze.liftedAt.getD now) }) :
    Levels definition upcoming 0 after := by
  have same : after.windowsOf definition.sliId = state.windowsOf definition.sliId := by
    rw [windowsOf, windowsOf, windows]
  have active : after.activeFreezes definition.sliId = [] := by
    rw [activeFreezes, freezes]
    simp
  have reset : after.recentBreaches definition.sliId = 0 := by
    obtain ⟨freeze, held⟩ := exists_mem_of_ne_nil _ standing
    obtain ⟨held, unlifted⟩ := mem_filter.mp held
    have stamped : now ∈ (after.freezesOf definition.sliId).filterMap FreezeRow.liftedAt := by
      rw [freezes]
      refine mem_filterMap.mpr ⟨_, mem_map.mpr ⟨freeze, held, rfl⟩, ?_⟩
      rw [of_decide_eq_true unlifted, Option.getD_none]
    rw [recentBreaches, same, length_eq_zero_iff, filter_eq_nil_iff]
    intro window recorded counted
    obtain ⟨last, same⟩ : ∃ last, after.lastLift definition.sliId = some last :=
      Option.isSome_iff_exists.mp (isSome_max?_of_mem stamped)
    have above : now ≤ last := (max?_le_iff same).mp le_rfl now stamped
    have earlier := levels.evaluated window recorded now mem_cons_self
    have after_last := (of_decide_eq_true counted).2 last same
    exact absurd after_last (not_lt.mpr (earlier.le.trans above))
  refine ⟨reset, ?_, ?_, ?_, ?_, ?_⟩
  · rw [active]
    exact ⟨fun absent => absurd rfl absent, fun enough => absurd definition.threshold_pos (by omega)⟩
  · rw [active]
    exact Nat.zero_le _
  · rw [same]
    exact fun window held later remaining =>
      levels.evaluated window held later (mem_cons_of_mem _ remaining)
  · rw [freezes]
    intro freeze held stamp stamped later remaining
    obtain ⟨earlier, present, rfl⟩ := mem_map.mp held
    cases stamped
    cases lifted : earlier.liftedAt with
    | none => exact first later remaining
    | some stamp => exact levels.lifted earlier present stamp lifted later (mem_cons_of_mem _ remaining)
  · rw [same, samples]
    exact levels.lawful

theorem transition_indicatorFreezes {governance moved : GovernanceState}
    (ok : governance.transition actor capability operationKey request topic = .ok (eventId, moved)) :
    moved.indicatorFreezes = governance.indicatorFreezes := by
  simp only [GovernanceState.transition, bind_ok, pair_ok] at ok
  obtain ⟨-, -, -, -, _, -, -, rfl⟩ := ok
  rfl

theorem evaluateSli_ok {readings : Readings} {sliId operationKey : String}
    (ok : evaluateSli definitions readings state actor sliId windowEnd operationKey =
      .ok (window, after)) :
    ∃ definition governance, find SliDefinition.sliId sliId definitions = some definition ∧
      window.Lawful definition state.samples ∧ window.sliId = sliId ∧
      window.evaluatedAt = readings.now ∧
      governance.indicatorFreezes = state.governance.indicatorFreezes ∧
      freezeBreached ⟨governance, state.samples, state.windows ++ [window]⟩ definition
        window.status = .ok after := by
  simp only [evaluateSli, bind_ok, expect_ok, guard_ok, pair_ok, Prod.exists] at ok
  obtain ⟨-, -, definition, found, sampled, -, _, governance, moved, _, recorded, rfl, rfl⟩ := ok
  have named : definition.sliId = sliId := find_key found
  refine ⟨definition, governance, found, ?_, named, rfl, transition_indicatorFreezes moved, recorded⟩
  have counted := Nat.pos_of_ne_zero sampled
  have among := length_filter_le SliSample.isGood (state.samples.filter
    (SliSample.within sliId (windowEnd - definition.windowSeconds * 1000000) windowEnd))
  have full := (compliance_bounds counted among).2
  have reachable : (definition.targetBasisPoints : ℤ) ≤ 10000 := by exact_mod_cast definition.target_le
  subst named
  refine ⟨⟨state.samples, prefix_refl _, rfl, rfl⟩, counted, ?_,
    errorBudget_bounds full reachable, fun breached => errorBudget_breached ?_ reachable⟩
  · refine Iff.trans ?_ (le_compliance_iff counted)
    dsimp only [SliDefinition.window]
    split
    · next enough => exact ⟨fun _ => enough, fun _ => rfl⟩
    · next below => exact ⟨(by rintro ⟨⟩), fun enough => absurd enough below⟩
  · dsimp only [SliDefinition.window] at breached
    split at breached
    · cases breached
    · next below => exact not_le.mp below

theorem filter_lifted {sliId name : String} (now : Time) (rows : List FreezeRow) :
    (update FreezeRow.scopeId name
        (fun freeze => { freeze with liftedAt := some (freeze.liftedAt.getD now) }) rows).filter
          (fun freeze => freeze.scopeId = sliId) =
      if name = sliId then (rows.filter fun freeze => freeze.scopeId = sliId).map
        fun freeze => { freeze with liftedAt := some (freeze.liftedAt.getD now) }
      else rows.filter fun freeze => freeze.scopeId = sliId := by
  induction rows with
  | nil => split <;> rfl
  | cons first rest ih =>
    rw [update, map_cons, ← update, filter_cons, filter_cons, ih]
    by_cases own : first.scopeId = name <;> by_cases same : name = sliId <;> grind

theorem clockings_cons (sliId : String) :
    clockings sliId (call :: calls) =
      if call.clocks sliId = true then call.readings.now :: clockings sliId calls
      else clockings sliId calls := by
  rw [clockings, filter_cons]
  split <;> rfl

/-- A call on another indicator, or on none. -/
theorem aside_of_unclocked (ok : answerSli deployment definitions state call = .ok (answer, after))
    (elsewhere : call.clocks sliId = false) :
    after.windowsOf sliId = state.windowsOf sliId ∧ after.freezesOf sliId = state.freezesOf sliId ∧
      state.samples <+: after.samples ∧ ∀ breaches, countBreach sliId breaches call (.ok answer) = breaches := by
  obtain ⟨readings, actor, request⟩ := call
  cases request with
  | recordSample name sampleId observedAt isGood measurement =>
    simp only [answerSli, recordSample, bind_ok, guard_ok, pure_ok, Prod.mk.injEq] at ok
    obtain ⟨_, ⟨-, -, -, -, -, -, -, rfl⟩, rfl, rfl⟩ := ok
    exact ⟨rfl, rfl, prefix_append _ _, fun _ => rfl⟩
  | evaluateSli name windowEnd operationKey =>
    have other : name ≠ sliId := of_decide_eq_false elsewhere
    simp only [answerSli, bind_ok, pure_ok, Prod.exists, Prod.mk.injEq] at ok
    obtain ⟨window, _, recorded, rfl, rfl⟩ := ok
    obtain ⟨definition, governance, found, -, named, -, kept, frozen⟩ := evaluateSli_ok recorded
    obtain ⟨rows, sampled, added⟩ := freezeBreached_ok frozen
    have same : definition.sliId = name := find_key found
    refine ⟨?_, ?_, ?_, fun breaches => if_neg fun both => other both.1⟩
    · rw [windowsOf, rows, filter_append, ← windowsOf]
      simp [named, other]
    · rw [freezesOf, freezesOf]
      obtain ⟨-, -, added⟩ | ⟨-, unchanged⟩ := added
      · rw [added, filter_append, kept]
        simp [same, other]
      · rw [unchanged, kept]
    · rw [sampled]
  | liftSliFreeze name remediation =>
    have other : name ≠ sliId := of_decide_eq_false elsewhere
    simp only [answerSli, liftIndicatorFreeze, bind_ok, guard_ok, pure_ok, Prod.exists,
      Prod.mk.injEq] at ok
    obtain ⟨_, governance, ⟨-, -, -, -, -, -, rfl⟩, rfl, rfl⟩ := ok
    refine ⟨rfl, ?_, prefix_refl _, fun breaches => if_neg other⟩
    rw [freezesOf]
    dsimp only
    rw [filter_lifted, if_neg other, ← freezesOf]
  | elsewhere store =>
    simp only [answerSli, pure_ok, Prod.mk.injEq] at ok
    obtain ⟨rfl, rfl⟩ := ok
    exact ⟨rfl, rfl, prefix_refl _, fun _ => rfl⟩

/-- What one answered call makes of the tables of an indicator. -/
theorem Levels.next (found : find SliDefinition.sliId definition.sliId definitions =
      some definition)
    (ordered : (clockings definition.sliId (call :: calls)).Pairwise (· < ·))
    (levels : Levels definition (clockings definition.sliId (call :: calls)) breaches state)
    (ok : answerSli deployment definitions state call = .ok (answer, after)) :
    Levels definition (clockings definition.sliId calls)
      (countBreach definition.sliId breaches call (.ok answer)) after := by
  cases clocked : call.clocks definition.sliId with
  | false =>
    obtain ⟨windows, freezes, samples, quiet⟩ := aside_of_unclocked ok clocked
    rw [quiet]
    refine levels.aside windows freezes samples ?_
    rw [clockings_cons, if_neg (by simp [clocked])]
    exact List.Subset.refl _
  | true =>
    rw [clockings_cons, if_pos clocked] at levels ordered
    have first := (pairwise_cons.mp ordered).1
    obtain ⟨readings, actor, request⟩ := call
    cases request with
    | recordSample | elsewhere => cases clocked
    | evaluateSli name windowEnd operationKey =>
      have same : name = definition.sliId := of_decide_eq_true clocked
      simp only [answerSli, bind_ok, pair_ok, Prod.exists] at ok
      obtain ⟨window, _, recorded, rfl, rfl⟩ := ok
      obtain ⟨own, governance, ownFound, lawful, named, stamped, kept, frozen⟩ :=
        evaluateSli_ok recorded
      obtain rfl : definition = own := by
        rw [same, found] at ownFound
        exact Option.some.inj ownFound
      have counted : countBreach definition.sliId breaches
          ⟨readings, actor, .evaluateSli name windowEnd operationKey⟩ (.ok (some window)) =
            breaches + if window.status = .breached then 1 else 0 := by
        simp only [countBreach, same, true_and]
        split <;> rfl
      rw [counted]
      dsimp only at levels first
      rw [← stamped] at levels first
      have windows : windowsOf ⟨governance, state.samples, state.windows ++ [window]⟩
          definition.sliId = state.windowsOf definition.sliId ++ [window] := by
        rw [windowsOf, filter_append, ← windowsOf]
        simp [named, same]
      refine levels.evaluate windows ?_ rfl lawful first frozen
      rw [freezesOf, freezesOf, kept]
    | liftSliFreeze name remediation =>
      have same : name = definition.sliId := of_decide_eq_true clocked
      simp only [answerSli, liftIndicatorFreeze, bind_ok, guard_ok, pair_ok, Prod.exists] at ok
      obtain ⟨_, governance, ⟨-, -, -, -, standing, -, rfl⟩, rfl, rfl⟩ := ok
      have counted : countBreach definition.sliId breaches
          ⟨readings, actor, .liftSliFreeze name remediation⟩ (.ok none) = 0 := if_pos same
      rw [counted]
      subst same
      refine levels.lift first rfl rfl (exists_active_iff.mp (not_not.mp standing)) ?_
      rw [freezesOf]
      dsimp only
      rw [filter_lifted, if_pos rfl, ← freezesOf]

theorem Levels.run (found : find SliDefinition.sliId definition.sliId definitions =
      some definition)
    (ordered : (clockings definition.sliId calls).Pairwise (· < ·))
    (levels : Levels definition (clockings definition.sliId calls) breaches state) :
    Levels definition [] (breachesSinceLift deployment definitions definition.sliId state breaches calls)
      (CallSystem.run (answerSli deployment definitions) state calls) := by
  induction calls generalizing state breaches with
  | nil => exact levels
  | cons call calls ih =>
    have fewer : clockings definition.sliId calls <:+ clockings definition.sliId (call :: calls) := by
      rw [clockings_cons]
      split
      · exact suffix_cons _ _
      · exact suffix_refl _
    rw [run_cons, breachesSinceLift]
    refine ih (ordered.sublist fewer.sublist) ?_
    cases result : answerSli deployment definitions state call with
    | ok pair =>
      rw [next_of_ok result, reply_of_ok result]
      exact levels.next found ordered result
    | error refusal =>
      rw [next_of_error result, reply_of_error result]
      have quiet : countBreach definition.sliId breaches call (.error refusal) = breaches := by
        obtain ⟨_, _, request⟩ := call
        cases request <;> rfl
      rw [quiet]
      exact levels.aside rfl rfl (prefix_refl _) fewer.subset

/-- With strictly increasing readings every window is lawful, one freeze stands exactly while
there are enough breaches since the last lift, and never two. -/
theorem service_levels_hold (deployment : Deployment) (definitions : List SliDefinition)
    (definition : SliDefinition) (calls : List SliCall)
    (found : find SliDefinition.sliId definition.sliId definitions = some definition)
    (ordered : (clockings definition.sliId calls).Pairwise (· < ·)) :
    let state := run (answerSli deployment definitions) .empty calls
    (∀ window ∈ state.windowsOf definition.sliId, window.Lawful definition state.samples) ∧
      (state.activeFreezes definition.sliId ≠ [] ↔ definition.breachThreshold ≤
        breachesSinceLift deployment definitions definition.sliId .empty 0 calls) ∧
      (state.activeFreezes definition.sliId).length ≤ 1 := by
  have start : Levels definition (clockings definition.sliId calls) 0 .empty := by
    refine ⟨rfl, ⟨fun absent => absurd rfl absent, fun enough => ?_⟩, Nat.zero_le _, ?_, ?_, ?_⟩
    · exact absurd definition.threshold_pos (by omega)
    · exact fun _ absent => absurd absent not_mem_nil
    · exact fun _ absent => absurd absent not_mem_nil
    · exact fun _ absent => absurd absent not_mem_nil
  have levels := @Levels.run deployment _ _ _ _ _ found ordered start
  exact ⟨levels.lawful, levels.frozen, levels.single⟩

namespace Small

theorem target_le : 9900 ≤ 10000 := by decide

theorem window_bounds : 60 ≤ 60 ∧ 60 ≤ 31536000 := by decide

theorem threshold_pos : 1 ≤ 1 := by decide

def availability : SliDefinition :=
  ⟨"api", 9900, 60, 1, "1", target_le, window_bounds, threshold_pos⟩

def measured : Fields := [("available", .text "no")]

def breaching : List SliCall :=
  [⟨⟨1, "", ""⟩, governance, .elsewhere ⟨[], [],
      [⟨⟨measured, Small.deployment.contentHash measured, "env"⟩, "reliability/sli-measurement/v1",
        .internal, "gov", "1"⟩], [], []⟩⟩,
    ⟨⟨2, "", ""⟩, governance, .recordSample "api" "sample-1" 5 false (provenance 0 governance measured)⟩,
    ⟨⟨20, "", ""⟩, governance, .evaluateSli "api" 10 "evaluate-1"⟩]

end Small

theorem service_levels_hold_breaching :
    (run (answerSli Small.deployment [Small.availability]) .empty Small.breaching).activeFreezes
      "api" ≠ [] :=
  (service_levels_hold Small.deployment [Small.availability] Small.availability Small.breaching rfl
    (pairwise_singleton _ _)).2.1.mpr (by decide +kernel)

end Liki.Governance
