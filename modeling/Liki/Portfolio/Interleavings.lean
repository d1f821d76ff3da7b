import Liki.Library.EventLog
import Liki.Portfolio.StrategyStatus

/-! The states of a strategy over whole runs of overlapping transactions. A retirement is final and the
state that is shown is the one that was committed last, exactly as long as each transaction that records a
state has read the retirement that it commits after, and started after the row that is shown. -/
namespace Liki.Portfolio
open Checks CallSystem EventLog List

variable {state after : PortfolioState} {reading : StatusReading} {actor : Identity} {request : StatusRequest}
  {start : Time} {rank : String → ℕ} {evaluationId strategyVersionId statusId : String}
  {rows : List StatusEvent}
  {row : StatusEvent}

theorem shown_newest (shown : state.shown evaluationId strategyVersionId rank = some row) :
    Newest StatusEvent.createdAt (state.statuses evaluationId strategyVersionId) row := by
  refine ⟨argmax_mem shown, fun other member => ?_⟩
  have greatest := le_of_mem_argmax member shown
  exact (Prod.Lex.le_iff.mp greatest).elim le_of_lt fun same => same.1.le

theorem shown_none (none : state.shown evaluationId strategyVersionId rank = none) :
    state.statuses evaluationId strategyVersionId = [] := argmax_eq_none.mp none

/-- A transaction that waits for the lock has passed the checks of what it read. -/
structure Reads (state : PortfolioState) (actor : Identity) (request : StatusRequest) (start : Time)
    (rank : String → ℕ) (reading : StatusReading) : Prop where
  own : reading.actor = actor
  asked : reading.request = request
  began : reading.start = start
  prior : reading.prior = state.shown request.evaluationId request.transition.strategyVersionId rank
  retired : ∀ row ∈ reading.prior, row.state = .retired → request.transition.state = .retired
  dormant : ∀ row ∈ reading.prior, row.state = .dormant → request.transition.state = .healthy →
    request.transition.predeclaredRegimeRuleArtifactId ≠ none ∧ request.transition.refreshedEvidenceIds ≠ []

theorem readStatus_ok (ok : readStatus state actor request start rank = .ok reading) :
    Reads state actor request start rank reading := by
  simp only [readStatus, bind_ok, guard_ok, expect_ok, pure_ok] at ok
  obtain ⟨-, -, _, -, -, retired, dormant, rfl⟩ := ok
  refine ⟨rfl, rfl, rfl, rfl, fun row shown was => ?_, fun row shown was healthy => ?_⟩
  · by_contra differ
    exact retired ⟨row, shown, was, differ⟩
  · by_contra lacks
    refine dormant ⟨row, shown, was, healthy, ?_⟩
    rwa [not_and_or, not_ne_iff, not_ne_iff] at lacks

def StatusReading.Writes (reading : StatusReading) (row : StatusEvent) : Prop :=
  row.portfolioEvaluationId = reading.request.evaluationId ∧
    row.strategyVersionId = reading.request.transition.strategyVersionId ∧
    row.state = reading.request.transition.state ∧ row.createdAt = reading.start ∧
    row.regimeRuleArtifactId = reading.request.transition.rule ∧
    row.refreshedEvidenceIds = reading.request.transition.refreshedEvidenceIds

theorem insertStatus_ok (ok : insertStatus state reading = .ok after) :
    after.statusEvents = state.statusEvents ∨
      ∃ row, reading.Writes row ∧ after.statusEvents = state.statusEvents ++ [row] ∧
        reading.request.transition.predeclaredRegimeRuleArtifactId ≠ some none := by
  unfold insertStatus at ok
  split at ok
  · cases ok
    exact .inl rfl
  · simp only [bind_ok, guard_ok, pure_ok] at ok
    obtain ⟨named, rfl⟩ := ok
    exact .inr ⟨_, ⟨rfl, rfl, rfl, rfl, rfl, rfl⟩, rfl, named⟩

theorem commitStatus_ok (ok : commitStatus state reading = .ok (statusId, after)) :
    after.statusEvents = state.statusEvents ∨
      ∃ row, reading.Writes row ∧ after.statusEvents = state.statusEvents ++ [row] ∧
        reading.request.transition.predeclaredRegimeRuleArtifactId ≠ some none := by
  simp only [commitStatus, bind_ok, guard_ok, pair_ok] at ok
  obtain ⟨-, -, -, -, _, -, _, inserted, -, rfl⟩ := ok
  have effect := insertStatus_ok inserted
  exact effect

theorem write_statusEvents (ok : write state actor written = .ok after) :
    after.statusEvents = state.statusEvents := by
  cases written with
  | evaluation =>
    simp only [write, bind_ok, guard_ok, pure_ok] at ok
    obtain ⟨-, rfl⟩ := ok
    rfl
  | evidence =>
    cases ok
    rfl
  | artifact =>
    simp only [write, bind_ok, pure_ok, Prod.exists] at ok
    obtain ⟨_, store, -, rfl⟩ := ok
    rfl
  | transition =>
    simp only [write, bind_ok, guard_ok, pure_ok] at ok
    obtain ⟨-, -, _, -, rfl⟩ := ok
    rfl

structure Lawful (rows : List StatusEvent) : Prop where
  final : rows.Pairwise fun earlier later => earlier.state = .retired → later.state = .retired
  shown : ∀ row, Newest StatusEvent.createdAt rows row → ∀ last ∈ rows.getLast?, row.state = last.state

theorem lawful_nil : Lawful [] := ⟨.nil, fun _ _ _ member => nomatch member⟩

def Undisturbed (rows : List StatusEvent) (reading : StatusReading) : Prop :=
  ∀ row, Newest StatusEvent.createdAt rows row →
    (row.state = .retired → reading.prior = some row ∨ reading.request.transition.state = .retired) ∧
      (row.createdAt < reading.start ∨ row.state = reading.request.transition.state)

theorem Lawful.newest_retired (lawful : Lawful rows) (member : row ∈ rows)
    (retired : row.state = .retired) :
    ∃ newest, Newest StatusEvent.createdAt rows newest ∧ newest.state = .retired := by
  obtain ⟨newest, greatest⟩ : ∃ newest, Newest StatusEvent.createdAt rows newest :=
    exists_newest (ne_nil_of_mem member)
  obtain ⟨last, ends⟩ := Option.ne_none_iff_exists'.mp
    (mt getLast?_eq_none_iff.mp (ne_nil_of_mem member))
  refine ⟨newest, greatest, (lawful.shown newest greatest last ends).trans ?_⟩
  obtain ⟨_, whole⟩ := getLast?_eq_some_iff.mp ends
  have final := lawful.final
  rw [whole] at member final
  rcases KeyedRows.mem_added member with older | same
  · exact (pairwise_append.mp final).2.2 row older last mem_cons_self retired
  · rwa [← same]

theorem lawful_append (lawful : Lawful rows) (writes : reading.Writes row)
    (guarded : ∀ prior ∈ reading.prior, prior.state = .retired →
      reading.request.transition.state = .retired) :
    Lawful (rows ++ [row]) ↔ Undisturbed rows reading := by
  obtain ⟨-, -, same, dated, -⟩ := writes
  constructor
  · intro next newest greatest
    refine ⟨fun retired => .inr ?_, ?_⟩
    · rw [← same]
      exact (pairwise_append.mp next.final).2.2 newest greatest.1 row mem_cons_self retired
    · rcases lt_or_ge newest.createdAt reading.start with earlier | later
      · exact .inl earlier
      · -- a row that is not older is still shown
        refine .inr (same ▸ next.shown newest
          (newest_append_one.mpr (.inr ⟨greatest, dated ▸ later⟩)) row ?_)
        exact getLast?_concat
  · intro undisturbed
    refine ⟨pairwise_append.mpr ⟨lawful.final, pairwise_singleton _ _, ?_⟩, ?_⟩
    · intro older held other only retired
      rw [mem_singleton.mp only, same]
      obtain ⟨newest, greatest, was⟩ := lawful.newest_retired held retired
      exact ((undisturbed newest greatest).1 was).elim (fun read => guarded newest read was) id
    · intro newest greatest last ends
      have only : row = last := Option.some.inj (getLast?_concat.symm.trans ends)
      subst only
      rcases newest_append_one.mp greatest with ⟨rfl, -⟩ | ⟨held, later⟩
      · rfl
      · rcases (undisturbed newest held).2 with earlier | equal
        · exact absurd (dated ▸ later) (not_le.mpr earlier)
        · exact equal.trans same.symm

theorem statuses_append (written : after.statusEvents = state.statusEvents ++ [row]) :
    after.statuses evaluationId strategyVersionId = state.statuses evaluationId strategyVersionId ++
      if row.portfolioEvaluationId = evaluationId ∧
        row.strategyVersionId = strategyVersionId then [row] else [] := by
  rw [PortfolioState.statuses, written, filter_append, filter_singleton]
  by_cases own : row.portfolioEvaluationId = evaluationId ∧ row.strategyVersionId = strategyVersionId
  · rw [if_pos own, decide_eq_true own]
    rfl
  · rw [if_neg own, decide_eq_false own]
    rfl

theorem statuses_of_eq (same : after.statusEvents = state.statusEvents) :
    after.statuses evaluationId strategyVersionId = state.statuses evaluationId strategyVersionId := by
  rw [PortfolioState.statuses, same]
  rfl

def Inserts (state : PortfolioState) (reading : StatusReading) : Prop :=
  ∃ statusId after, commitStatus state reading = .ok (statusId, after) ∧
    after.statusEvents ≠ state.statusEvents

def Meets (evaluationId strategyVersionId : String) (system : PortfolioSystem) (step : SystemStep) : Prop :=
  ∀ position reading, step = .commit position → system.readings[position]? = some reading →
    Inserts system.state reading → reading.request.evaluationId = evaluationId →
    reading.request.transition.strategyVersionId = strategyVersionId →
    Undisturbed (system.state.statuses evaluationId strategyVersionId) reading

def Guarded (system : PortfolioSystem) : Prop :=
  ∀ reading ∈ system.readings, ∀ prior ∈ reading.prior, prior.state = .retired →
    reading.request.transition.state = .retired

theorem next_guarded (guarded : Guarded system) (step : SystemStep) :
    Guarded (next handleStep system step) := by
  refine next_of_answered Guarded guarded fun answer after ok => ?_
  cases step with
  | read =>
    simp only [handleStep, bind_ok, pair_ok] at ok
    obtain ⟨reading, read, -, rfl⟩ := ok
    intro other member
    rcases KeyedRows.mem_added member with held | same
    · exact guarded other held
    · rw [same]
      have reads := readStatus_ok read
      exact fun prior was => reads.asked ▸ reads.retired prior was
  | commit position =>
    simp only [handleStep, bind_ok, expect_ok] at ok
    obtain ⟨_, -, ok⟩ := ok
    have waiting : after.readings = system.readings.eraseIdx position := by
      split at ok <;>
      · rw [pure_ok, Prod.mk.injEq] at ok
        rw [← ok.2]
    intro other member
    exact guarded other (mem_of_mem_eraseIdx (waiting ▸ member))
  | write =>
    simp only [handleStep, bind_ok, pair_ok] at ok
    obtain ⟨_, -, -, rfl⟩ := ok
    exact guarded

theorem next_commit (found : system.readings[position]? = some reading) :
    (next handleStep system (.commit position)).state =
      match commitStatus system.state reading with
      | .ok (_, after) => after
      | .error _ => system.state := by
  unfold CallSystem.next
  simp only [handleStep, found, expect, ok_bind]
  cases commitStatus system.state reading with
  | error => rfl
  | ok => rfl

theorem next_commit_absent (absent : system.readings[position]? = none) :
    next handleStep system (.commit position) = system := by
  unfold CallSystem.next
  simp only [handleStep, absent, expect]
  rfl

theorem commit_lawful (guarded : ∀ prior ∈ reading.prior, prior.state = .retired →
      reading.request.transition.state = .retired)
    (lawful : Lawful (state.statuses evaluationId strategyVersionId))
    (ok : commitStatus state reading = .ok (statusId, after)) :
    Lawful (after.statuses evaluationId strategyVersionId) ↔
      (Inserts state reading → reading.request.evaluationId = evaluationId →
        reading.request.transition.strategyVersionId = strategyVersionId →
        Undisturbed (state.statuses evaluationId strategyVersionId) reading) := by
  rcases commitStatus_ok ok with unchanged | ⟨_, writes, written, -⟩
  · refine ⟨fun _ inserts => ?_, fun _ => statuses_of_eq unchanged ▸ lawful⟩
    obtain ⟨_, _, again, differ⟩ := inserts
    cases ok.symm.trans again
    exact absurd unchanged differ
  · have inserts : Inserts state reading := ⟨statusId, after, ok, by simp [written]⟩
    rw [statuses_append written, writes.1, writes.2.1]
    by_cases own : reading.request.evaluationId = evaluationId ∧
        reading.request.transition.strategyVersionId = strategyVersionId
    · rw [if_pos own, lawful_append lawful writes guarded]
      exact ⟨fun holds _ _ _ => holds, fun holds => holds inserts own.1 own.2⟩
    · rw [if_neg own, append_nil]
      exact ⟨fun _ _ first second => absurd ⟨first, second⟩ own, fun _ => lawful⟩

/-- One step keeps a history lawful exactly if it meets the condition. -/
theorem next_lawful (guarded : Guarded system) (step : SystemStep)
    (lawful : Lawful (system.state.statuses evaluationId strategyVersionId)) :
    Lawful ((next handleStep system step).state.statuses evaluationId strategyVersionId) ↔
      Meets evaluationId strategyVersionId system step := by
  have idle : (∀ position, step ≠ .commit position) →
      (next handleStep system step).state.statusEvents = system.state.statusEvents →
      (Lawful ((next handleStep system step).state.statuses evaluationId strategyVersionId) ↔
        Meets evaluationId strategyVersionId system step) := by
    intro other same
    refine ⟨fun _ position reading commits => absurd commits (other position), fun _ => ?_⟩
    exact statuses_of_eq same ▸ lawful
  cases step with
  | read =>
    refine idle (fun _ => nofun) (next_of_answered
      (fun after : PortfolioSystem => after.state.statusEvents =
        system.state.statusEvents) rfl fun answer after ok => ?_)
    simp only [handleStep, bind_ok, pair_ok] at ok
    obtain ⟨reading, -, -, rfl⟩ := ok
    rfl
  | write =>
    refine idle (fun _ => nofun) (next_of_answered
      (fun after : PortfolioSystem => after.state.statusEvents =
        system.state.statusEvents) rfl fun answer after ok => ?_)
    simp only [handleStep, bind_ok, pair_ok] at ok
    obtain ⟨_, wrote, -, rfl⟩ := ok
    exact write_statusEvents wrote
  | commit position =>
    cases found : system.readings[position]? with
    | none =>
      rw [next_commit_absent found]
      refine ⟨fun _ other reading same there => ?_, fun _ => lawful⟩
      cases same
      cases found.symm.trans there
    | some reading =>
      have only : Meets evaluationId strategyVersionId system (.commit position) ↔
          (Inserts system.state reading → reading.request.evaluationId = evaluationId →
            reading.request.transition.strategyVersionId = strategyVersionId →
            Undisturbed (system.state.statuses evaluationId strategyVersionId) reading) := by
        refine ⟨fun meets => meets position reading rfl found, fun holds other again same there => ?_⟩
        cases same
        cases found.symm.trans there
        exact holds
      rw [only, next_commit found]
      cases result : commitStatus system.state reading with
      | ok => exact commit_lawful (guarded reading (mem_of_getElem? found)) lawful result
      | error =>
        refine ⟨fun _ inserts => ?_, fun _ => lawful⟩
        obtain ⟨_, _, committed, -⟩ := inserts
        cases result.symm.trans committed

/-- The histories of a strategy are lawful at every moment of a run exactly if each commit that adds to
them is undisturbed. -/
theorem lawful_iff_undisturbed (steps : List SystemStep) (evaluationId strategyVersionId : String) :
    (∀ earlier later, steps = earlier ++ later →
      Lawful ((interleaved earlier).state.statuses evaluationId strategyVersionId)) ↔
    Along handleStep (Meets evaluationId strategyVersionId) .empty steps := by
  have along : Along handleStep (fun _ _ => True) .empty steps :=
    along_of_forall (fun _ _ => trivial) _ steps
  have guarded : Guarded .empty := fun _ member => absurd member not_mem_nil
  exact always_iff_along
    (fun system : PortfolioSystem => Lawful (system.state.statuses evaluationId strategyVersionId))
    (fun _ step guarded _ => next_guarded guarded step)
      (fun _ step guarded _ lawful => next_lawful guarded step lawful)
    guarded lawful_nil along

def sampleResearcher : Identity := ⟨"researcher", .research⟩

def sampleStatus (state : StrategyHealth) (operationKey : String) : StatusRequest :=
  ⟨"p", ⟨"p", "s", state, "monitoring", none, []⟩, operationKey, "v1"⟩

def sampleRace : List SystemStep :=
  [.write sampleResearcher (.evaluation ⟨"p", ["s"], "c"⟩),
    .read sampleResearcher (sampleStatus .healthy "a") 1 fun _ => 0,
    .read sampleResearcher (sampleStatus .retired "b") 2 fun _ => 0,
    .commit 1, .commit 0]

/-- A retired strategy is reactivated, and is shown as retired. -/
theorem race_reactivates : ¬Lawful ((interleaved sampleRace).state.statuses "p" "s") ∧
    ((interleaved sampleRace).state.statuses "p" "s").map StatusEvent.state = [.retired, .healthy] ∧
    ((interleaved sampleRace).state.shown "p" "s" fun _ => 0).map StatusEvent.state = some .retired := by
  have rows : ((interleaved sampleRace).state.statuses "p" "s").map StatusEvent.state =
    [.retired, .healthy] := by
    decide +kernel
  refine ⟨fun lawful => ?_, rows, by decide +kernel⟩
  have final := lawful.final
  rw [← pairwise_map (f := StatusEvent.state) (R := fun earlier later => earlier = .retired →
    later = .retired), rows] at final
  cases (pairwise_pair.mp final) rfl

end Liki.Portfolio
