import Liki.Portfolio.Interleavings

/-! Reactivations, when the transactions come one after the other. The guard looks at the state that is
shown, so it holds a strategy that leaves dormancy for health at once to a rule and to evidence. A strategy
that leaves it through a state in between is healthy again without either. Without such a detour every
health after a dormancy is proved. -/
namespace Liki.Portfolio
open Checks CallSystem EventLog List KeyedRows

variable {state after : PortfolioState} {reading : StatusReading} {actor : Identity} {request : StatusRequest}
  {start : Time} {rank : String → ℕ} {evaluationId strategyVersionId statusId : String}
  {rows : List StatusEvent}
  {row : StatusEvent} {dormant : StatusEvent}

def StatusEvent.Carries (row : StatusEvent) : Prop :=
  row.regimeRuleArtifactId ≠ none ∧ row.refreshedEvidenceIds ≠ []

instance : DecidablePred StatusEvent.Carries := fun _ => inferInstanceAs (Decidable (_ ∧ _))

/-- Health after dormancy is proved by a transition on the way. -/
def Reactivated (rows : List StatusEvent) : Prop :=
  ∀ before dormant between healthy later, rows = before ++ dormant :: (between ++ healthy :: later) →
    dormant.state = .dormant → healthy.state = .healthy → ∃ row ∈ between ++ [healthy], row.Carries

/-- The strategy has left dormancy, and nothing has been proved since. -/
def Detour (rows : List StatusEvent) : Prop :=
  ∃ before dormant between, rows = before ++ dormant :: between ∧ dormant.state = .dormant ∧ between ≠ [] ∧
    ∀ row ∈ between, (row.state = .watch ∨ row.state = .degraded ∨ row.state = .suspended) ∧ ¬row.Carries

theorem reactivated_append : Reactivated (rows ++ [row]) ↔ Reactivated rows ∧ (row.state = .healthy →
    ∀ before dormant between, rows = before ++ dormant :: between → dormant.state = .dormant →
      ∃ other ∈ between ++ [row], other.Carries) := by
  constructor
  · intro reactivated
    refine ⟨?_, ?_⟩
    · rintro before dormant between healthy later rfl slept woke
      refine reactivated before dormant between healthy (later ++ [row]) ?_ slept woke
      simp
    · rintro woke before dormant between rfl slept
      refine reactivated before dormant between row [] ?_ slept woke
      simp
  · rintro ⟨earlier, last⟩ before dormant between healthy later whole slept woke
    cases later using reverseRecOn with
    | nil =>
      have split : rows ++ [row] = (before ++ dormant :: between) ++ [healthy] := by simpa using whole
      obtain ⟨same, only⟩ := append_inj' split rfl
      obtain rfl := singleton_inj.mp only
      exact last woke before dormant between same slept
    | append_singleton later final =>
      have split : rows ++ [row] = (before ++ dormant :: (between ++ healthy :: later)) ++ [final] := by
        simpa using whole
      exact earlier before dormant between healthy later (append_inj' split rfl).1 slept woke

theorem last_dormancy (before : List StatusEvent) (slept : dormant.state = .dormant)
    (between : List StatusEvent) : ∃ earlier last later,
      before ++ dormant :: between = earlier ++ last :: later ∧
      last.state = .dormant ∧ later ⊆ between ∧ ∀ row ∈ later, row.state ≠ .dormant := by
  induction between using reverseRecOn with
  | nil => exact ⟨before, dormant, [], rfl, slept, List.Subset.refl _,
      fun _ member => absurd member not_mem_nil⟩
  | append_singleton between row ih =>
    by_cases asleep : row.state = .dormant
    · refine ⟨before ++ dormant :: between, row, [], by simp, asleep, nil_subset _, ?_⟩
      exact fun _ member => absurd member not_mem_nil
    · obtain ⟨earlier, last, later, whole, was, inside, awake⟩ := ih
      refine ⟨earlier, last, later ++ [row], ?_, was, ?_, fun other member => ?_⟩
      · rw [← cons_append, ← append_assoc, whole]
        simp
      · exact append_subset.mpr ⟨subset_append_of_subset_left _ inside,
          subset_append_right _ _⟩
      · rcases mem_added member with held | same
        · exact awake other held
        · exact same ▸ asleep

def Dated (rows : List StatusEvent) : Prop :=
    rows.Pairwise fun earlier later => earlier.createdAt < later.createdAt

theorem Dated.newest_last (dated : Dated rows) (newest : Newest StatusEvent.createdAt rows row) :
    rows.getLast? = some row := by
  cases rows using reverseRecOn with
  | nil => exact absurd newest.1 not_mem_nil
  | append_singleton _ last =>
    rcases newest_append_one.mp newest with ⟨rfl, -⟩ | ⟨held, later⟩
    · exact getLast?_concat
    · have earlier := (pairwise_append.mp dated).2.2 row held.1 last mem_cons_self
      exact absurd later (not_le.mpr earlier)

/-- A health that the guard permits after what is shown is proved, but for a detour. -/
theorem proved_of_no_detour (lawful : Lawful rows) (reactivated : Reactivated rows)
    (unretired : ∀ last ∈ rows.getLast?, last.state ≠ .retired)
    (awake : ∀ last ∈ rows.getLast?, last.state ≠ .dormant) (direct : ¬Detour rows)
    (whole : rows = before ++ dormant :: between) (slept : dormant.state = .dormant) :
    ∃ row ∈ between, row.Carries := by
  by_contra unproved
  obtain ⟨earlier, last, later, split, was, inside, past⟩ := last_dormancy before slept between
  have plain : ∀ row ∈ later, ¬row.Carries :=
    fun row member carries => unproved ⟨row, inside member, carries⟩
  rw [← whole] at split
  have ends : later ≠ [] := by
    rintro rfl
    exact awake last (by rw [split]; exact getLast?_concat) was
  refine direct ⟨earlier, last, later, split, was, ends, fun row member => ⟨?_, plain row member⟩⟩
  have healthy : row.state ≠ .healthy := by
    intro woke
    obtain ⟨between, rest, cut⟩ := append_of_mem member
    obtain ⟨proof, held, carries⟩ := reactivated earlier last between row rest (by rw [split, cut]) was woke
    refine plain proof ?_ carries
    rw [cut, append_cons]
    exact mem_append_left _ held
  have retired : row.state ≠ .retired := by
    intro retires
    have there : row ∈ rows := by
      rw [split]
      exact mem_append_right _ (mem_cons_of_mem _ member)
    obtain ⟨newest, greatest, final⟩ := lawful.newest_retired there retires
    obtain ⟨shown, held⟩ := Option.ne_none_iff_exists'.mp
      (mt getLast?_eq_none_iff.mp (ne_nil_of_mem there))
    exact unretired shown held ((lawful.shown newest greatest shown held).symm.trans final)
  have dormant := past row member
  cases state : row.state with
  | healthy => exact absurd state healthy
  | watch => exact .inl rfl
  | degraded => exact .inr (.inl rfl)
  | suspended => exact .inr (.inr rfl)
  | dormant => exact absurd state dormant
  | retired => exact absurd state retired

def StatusCall.startsAt : StatusCall → Option Time
  | .record _ _ start _ => some start
  | .write _ _ => none

/-- Each transaction starts when the one before it has committed. -/
def InOrder (calls : List StatusCall) : Prop :=
  calls.Pairwise fun first second => ∀ earlier ∈ first.startsAt, ∀ later ∈ second.startsAt, earlier < later

def Later (state : PortfolioState) (call : StatusCall) : Prop :=
  ∀ start ∈ call.startsAt, ∀ row ∈ state.statusEvents, row.createdAt < start

/-- What transactions lead to that come one after the other. -/
structure Sequential (state : PortfolioState) : Prop where
  dated : Dated state.statusEvents
  lawful : ∀ evaluationId strategyVersionId, Lawful (state.statuses evaluationId strategyVersionId)

theorem Sequential.statuses_dated (sequential : Sequential state) :
    Dated (state.statuses evaluationId strategyVersionId) := sequential.dated.sublist filter_sublist

theorem Sequential.shown_eq (sequential : Sequential state)
    (newest : Newest StatusEvent.createdAt (state.statuses evaluationId strategyVersionId) row) :
    state.shown evaluationId strategyVersionId rank = some row := by
  cases shown : state.shown evaluationId strategyVersionId rank with
  | none =>
    have held := newest.1
    rw [shown_none shown] at held
    cases held
  | some =>
    have last := sequential.statuses_dated.newest_last newest
    rw [← last]
    exact (sequential.statuses_dated.newest_last (shown_newest shown)).symm

structure Records (state : PortfolioState) (call : StatusCall) (after : PortfolioState)
    (reading : StatusReading)
    (row : StatusEvent) : Prop where
  call : ∃ rank, call = .record reading.actor reading.request reading.start rank ∧
    Reads state reading.actor reading.request reading.start rank reading
  committed : ∃ statusId, commitStatus state reading = .ok (statusId, after)
  writes : reading.Writes row
  written : after.statusEvents = state.statusEvents ++ [row]
  named : reading.request.transition.predeclaredRegimeRuleArtifactId ≠ some none

variable {call : StatusCall}

theorem handle_cases (ok : handle state call = .ok (answer, after)) :
    after.statusEvents = state.statusEvents ∨ ∃ reading row, Records state call after reading row := by
  cases call with
  | write =>
    simp only [handle, bind_ok, pair_ok] at ok
    obtain ⟨_, wrote, -, rfl⟩ := ok
    exact .inl (write_statusEvents wrote)
  | record actor request start rank =>
    simp only [handle, recordStrategyStatus, bind_ok, pair_ok, Prod.exists] at ok
    obtain ⟨statusId, _, ⟨reading, read, committed⟩, -, rfl⟩ := ok
    have reads := readStatus_ok read
    obtain ⟨rfl, rfl, rfl⟩ : reading.actor = actor ∧ reading.request = request ∧ reading.start = start :=
      ⟨reads.own, reads.asked, reads.began⟩
    refine (commitStatus_ok committed).imp id fun ⟨row, writes, written, named⟩ => ?_
    exact ⟨reading, row, ⟨rank, rfl, reads⟩, ⟨statusId, committed⟩, writes, written, named⟩

theorem Records.undisturbed (records : Records state call after reading row)
    (sequential : Sequential state) (later : Later state call) :
    Undisturbed (state.statuses reading.request.evaluationId reading.request.transition.strategyVersionId) reading := by
  obtain ⟨_, rfl, reads⟩ := records.call
  intro newest greatest
  refine ⟨fun _ => .inl (reads.prior.trans (sequential.shown_eq greatest)), .inl ?_⟩
  exact later reading.start rfl newest (mem_filter.mp greatest.1).1

theorem Records.sequential (records : Records state call after reading row)
    (sequential : Sequential state) (later : Later state call) : Sequential after := by
  have undisturbed := records.undisturbed sequential later
  obtain ⟨_, rfl, reads⟩ := records.call
  obtain ⟨_, committed⟩ := records.committed
  refine ⟨?_, fun evaluationId strategyVersionId => ?_⟩
  · rw [records.written]
    refine pairwise_append.mpr ⟨sequential.dated, pairwise_singleton _ _,
      fun older held other only => ?_⟩
    rw [mem_singleton.mp only, records.writes.2.2.2.1]
    exact later reading.start rfl older held
  · refine (commit_lawful reads.retired (sequential.lawful evaluationId strategyVersionId) committed).mpr ?_
    rintro - rfl rfl
    exact undisturbed

theorem next_sequential (sequential : Sequential state) (call : StatusCall) (later : Later state call) :
    Sequential (next handle state call) := by
  refine next_of_answered Sequential sequential fun answer after ok => ?_
  rcases handle_cases ok with unchanged | ⟨_, _, records⟩
  · exact ⟨unchanged ▸ sequential.dated, fun _ _ => statuses_of_eq unchanged ▸ sequential.lawful _ _⟩
  · exact records.sequential sequential later

theorem later_of_inOrder (ordered : InOrder calls) (start : ∀ call ∈ calls, Later state call) :
    Along handle Later state calls := by
  induction calls generalizing state with
  | nil => trivial
  | cons call _ ih =>
    obtain ⟨first, rest⟩ := pairwise_cons.mp ordered
    refine ⟨start call mem_cons_self, ih rest fun other member => ?_⟩
    have before := start other (mem_cons_of_mem _ member)
    refine next_of_answered (fun after => Later after other) before fun answer after ok => ?_
    rcases handle_cases ok with unchanged | ⟨reading, _, records⟩
    · intro instant begins older held
      exact before instant begins older (unchanged ▸ held)
    · obtain ⟨_, rfl, -⟩ := records.call
      intro instant begins older held
      rw [records.written] at held
      rcases mem_added held with there | same
      · exact before instant begins older there
      · rw [same, records.writes.2.2.2.1]
        exact first other member reading.start rfl instant begins

def StrategyStatusTransition.Unproved (transition : StrategyStatusTransition) : Prop :=
  transition.predeclaredRegimeRuleArtifactId = none ∨ transition.refreshedEvidenceIds = []

theorem Records.carries_iff (records : Records state call after reading row) :
    row.Carries ↔ ¬reading.request.transition.Unproved := by
  obtain ⟨-, -, -, -, rule, evidence⟩ := records.writes
  have named := records.named
  rw [StatusEvent.Carries, rule, evidence, StrategyStatusTransition.Unproved, not_or,
    StrategyStatusTransition.rule]
  cases chosen : reading.request.transition.predeclaredRegimeRuleArtifactId with
  | none => exact ⟨fun both => absurd rfl both.1, fun both => absurd rfl both.1⟩
  | some artifact =>
    cases artifact with
    | none => exact absurd chosen named
    | some => exact and_congr_left fun _ => ⟨fun _ => nofun, fun _ => nofun⟩

def Adds (state : PortfolioState) (call : StatusCall) : Prop :=
  ∃ answer after, handle state call = .ok (answer, after) ∧ after.statusEvents ≠ state.statusEvents

def Direct (evaluationId strategyVersionId : String) (state : PortfolioState) (call : StatusCall) : Prop :=
  ∀ actor request start rank, call = .record actor request start rank → Adds state call →
    request.evaluationId = evaluationId → request.transition.strategyVersionId = strategyVersionId →
    request.transition.state = .healthy → request.transition.Unproved →
    ¬Detour (state.statuses evaluationId strategyVersionId)

theorem Records.guarded (records : Records state call after reading row)
    (sequential : Sequential state)
    (ends : last ∈ (state.statuses reading.request.evaluationId
      reading.request.transition.strategyVersionId).getLast?) : last ∈ reading.prior := by
  obtain ⟨_, -, reads⟩ := records.call
  have some : state.statuses reading.request.evaluationId reading.request.transition.strategyVersionId ≠ [] := by
    intro empty
    rw [empty] at ends
    cases ends
  obtain ⟨newest, greatest⟩ : ∃ newest, Newest StatusEvent.createdAt _ newest := exists_newest some
  have same := (sequential.statuses_dated.newest_last greatest).symm.trans ends
  rw [reads.prior, sequential.shown_eq greatest]
  exact same

theorem Records.reactivated (records : Records state call after reading row)
    (sequential : Sequential state)
    (reactivated : Reactivated (state.statuses evaluationId strategyVersionId)) :
    Reactivated (after.statuses evaluationId strategyVersionId) ↔
      (reading.request.evaluationId = evaluationId →
        reading.request.transition.strategyVersionId = strategyVersionId →
        reading.request.transition.state = .healthy → reading.request.transition.Unproved →
        ¬Detour (state.statuses evaluationId strategyVersionId)) := by
  rw [statuses_append records.written, records.writes.1, records.writes.2.1]
  by_cases own : reading.request.evaluationId = evaluationId ∧
      reading.request.transition.strategyVersionId = strategyVersionId
  · obtain ⟨rfl, rfl⟩ := own
    obtain ⟨_, -, reads⟩ := records.call
    have state := records.writes.2.2.1
    rw [if_pos ⟨rfl, rfl⟩, reactivated_append]
    constructor
    · rintro ⟨-, proved⟩ - - woke unproved ⟨before, dormant, between, whole, slept, -, plain⟩
      obtain ⟨other, member, carries⟩ := proved (state.trans woke) before dormant between whole slept
      rcases mem_added member with held | same
      · exact (plain other held).2 carries
      · rw [same] at carries
        exact records.carries_iff.mp carries unproved
    · intro direct
      refine ⟨reactivated, fun woke before dormant between whole slept => ?_⟩
      by_cases unproved : reading.request.transition.Unproved
      · have healthy := state.symm.trans woke
        obtain ⟨proof, held, carries⟩ := proved_of_no_detour (sequential.lawful _ _) reactivated
          (fun last ends retired => by
            have final := reads.retired last (records.guarded sequential ends) retired
            rw [healthy] at final
            cases final)
          (fun last ends dormant => by
            obtain ⟨rule, evidence⟩ := reads.dormant last (records.guarded sequential ends) dormant healthy
            exact unproved.elim rule evidence)
          (direct rfl rfl healthy unproved) whole slept
        exact ⟨proof, mem_append_left _ held, carries⟩
      · exact ⟨row, mem_append_right _ mem_cons_self, records.carries_iff.mpr unproved⟩
  · rw [if_neg own, append_nil]
    exact ⟨fun _ first second => absurd ⟨first, second⟩ own, fun _ => reactivated⟩

theorem next_reactivated (sequential : Sequential state) (call : StatusCall)
    (reactivated : Reactivated (state.statuses evaluationId strategyVersionId)) :
    Reactivated ((next handle state call).statuses evaluationId strategyVersionId) ↔
      Direct evaluationId strategyVersionId state call := by
  cases result : handle state call with
  | error =>
    rw [next_of_error result]
    refine ⟨fun _ _ _ _ _ _ adds => ?_, fun _ => reactivated⟩
    obtain ⟨answer, after, ok, -⟩ := adds
    cases result.symm.trans ok
  | ok pair =>
    obtain ⟨answer, after⟩ := pair
    rw [next_of_ok result]
    rcases handle_cases result with unchanged | ⟨_, _, records⟩
    · refine ⟨fun _ _ _ _ _ _ adds => ?_, fun _ => statuses_of_eq unchanged ▸ reactivated⟩
      obtain ⟨answer, other, ok, differ⟩ := adds
      cases result.symm.trans ok
      exact absurd unchanged differ
    · rw [records.reactivated sequential reactivated]
      have adds : Adds state call := ⟨answer, after, result, by simp [records.written]⟩
      obtain ⟨_, rfl, -⟩ := records.call
      constructor
      · intro direct actor request start other same
        cases same
        exact fun _ => direct
      · exact fun direct => direct _ _ _ _ rfl adds

/-- Every health after a dormancy is proved at every moment of a run exactly if none is recorded unproved
at the end of a detour. -/
theorem reactivated_iff_direct (calls : List StatusCall) (ordered : InOrder calls)
    (evaluationId strategyVersionId : String) :
    (∀ earlier later, calls = earlier ++ later →
      Reactivated ((history earlier).statuses evaluationId strategyVersionId)) ↔
    Along handle (Direct evaluationId strategyVersionId) .empty calls := by
  have sequential : Sequential .empty := ⟨.nil, fun _ _ => lawful_nil⟩
  have reactivated : Reactivated (PortfolioState.empty.statuses evaluationId strategyVersionId) := by
    intro before dormant between healthy later whole
    cases (append_eq_nil_iff.mp whole.symm).2
  exact always_iff_along
    (fun state : PortfolioState => Reactivated (state.statuses evaluationId strategyVersionId))
    (fun _ call sequential later => next_sequential sequential call later)
    (fun _ call sequential _ reactivated => next_reactivated sequential call reactivated)
    sequential reactivated (later_of_inOrder ordered fun _ _ _ _ _ member => absurd member not_mem_nil)

def sampleDetour : List StatusCall :=
  [.write sampleResearcher (.evaluation ⟨"p", ["s"], "c"⟩),
    .record sampleResearcher (sampleStatus .dormant "a") 1 fun _ => 0,
    .record sampleResearcher (sampleStatus .watch "b") 2 fun _ => 0,
    .record sampleResearcher (sampleStatus .healthy "c") 3 fun _ => 0]

theorem sampleDetour_inOrder : InOrder sampleDetour := by
  unfold InOrder sampleDetour
  simp [StatusCall.startsAt]

theorem sampleDetour_unproved : ¬Reactivated ((history sampleDetour).statuses "p" "s") := by
  intro reactivated
  have rows : (history sampleDetour).statuses "p" "s" =
      [] ++ ⟨"p:s:a", "p", "s", .dormant, "monitoring", none, [], 0, "researcher", 1⟩ ::
        ([⟨"p:s:b", "p", "s", .watch, "monitoring", none, [], 1, "researcher", 2⟩] ++
          ⟨"p:s:c", "p", "s", .healthy, "monitoring", none, [], 2, "researcher",
            3⟩ :: []) := by decide +kernel
  obtain ⟨row, member, carries⟩ := reactivated _ _ _ _ _ rows rfl rfl
  have unproved : ∀ row ∈ [(⟨"p:s:b", "p", "s", .watch, "monitoring", none, [], 1, "researcher",
    2⟩ : StatusEvent)] ++
      [⟨"p:s:c", "p", "s", .healthy, "monitoring", none, [], 2, "researcher", 3⟩], ¬row.Carries := by decide
  exact unproved row member carries

/-- The guard does not hold the strategy to a proof. -/
theorem detour_reactivates :
    InOrder sampleDetour ∧ ¬Reactivated ((history sampleDetour).statuses "p" "s") :=
  ⟨sampleDetour_inOrder, sampleDetour_unproved⟩

/-- Its last call is at the end of a detour. -/
theorem sampleDetour_indirect : InOrder sampleDetour ∧ ¬Along handle (Direct "p" "s") .empty sampleDetour :=
  ⟨sampleDetour_inOrder, fun direct => sampleDetour_unproved
    ((reactivated_iff_direct sampleDetour sampleDetour_inOrder "p" "s").mpr direct sampleDetour []
      (append_nil _).symm)⟩

end Liki.Portfolio
