import Liki.Library.Checks
import Liki.Library.SurvivalFunctions

/-! The boundaries of a sequential test. The error that may be made is spent along the schedule, and each
look is given what is spent up to it less what was spent before. What is spent grows along the schedule
only when the fixed boundary is positive, that is for errors of less than one half; for greater errors the
first look alone makes more than the error of the whole. Floats are read as real numbers. -/
namespace Liki.Statistics
open Checks MeasureTheory List

/-- `norm.isf`: a real number for a probability between zero and one, and none otherwise. -/
noncomputable def boundaryOf (norm : SurvivalFunction) (allocation : ℝ) : Option ℝ :=
  if 0 < allocation ∧ allocation < 1 then some (norm.isf allocation) else none

/-- What is spent up to a fraction of the information. -/
noncomputable def spending (norm : SurvivalFunction) (alpha fraction : ℝ) : ℝ :=
  norm.sf (norm.isf alpha / √fraction)

/-- What is spent at each look. -/
noncomputable def allocationsOf (cumulative : List ℝ) : List ℝ :=
  cumulative.head?.toList ++ (cumulative.zip cumulative.tail).map fun pair => pair.2 - pair.1

noncomputable def allocations (norm : SurvivalFunction) (alpha : ℝ) (fractions : List ℝ) : List ℝ :=
  allocationsOf (fractions.map (spending norm alpha))

/-- `obrien_fleming_spending_boundaries`. -/
noncomputable def obrienFlemingSpendingBoundaries (norm : SurvivalFunction) (alpha : ℝ) (fractions : List ℝ) :
    Except String (List (Option ℝ)) := do
  refuseIf (¬(0 < alpha ∧ alpha < 1) ∨ fractions = [] ∨ fractions.getLast? ≠ some 1)
    "schedule must end at information fraction 1 with alpha in (0, 1)"
  refuseIf ((∃ fraction ∈ fractions, ¬(0 < fraction ∧ fraction ≤ 1)) ∨
      ∃ pair ∈ fractions.zip fractions.tail, pair.2 ≤ pair.1)
    "information fractions must be strictly increasing in (0, 1]"
  return (allocations norm alpha fractions).map (boundaryOf norm)

structure Schedule (alpha : ℝ) (fractions : List ℝ) : Prop where
  error : 0 < alpha ∧ alpha < 1
  ends : fractions.getLast? = some 1
  informed : ∀ fraction ∈ fractions, 0 < fraction
  increasing : ∀ pair ∈ fractions.zip fractions.tail, pair.1 < pair.2

variable {norm : SurvivalFunction} {alpha : ℝ} {fractions : List ℝ} {boundaries : List (Option ℝ)}

theorem boundaries_ok (made : obrienFlemingSpendingBoundaries norm alpha fractions = .ok boundaries) :
    Schedule alpha fractions ∧ boundaries = (allocations norm alpha fractions).map (boundaryOf norm) := by
  simp only [obrienFlemingSpendingBoundaries, bind_ok, refuseIf_ok, pure_ok] at made
  obtain ⟨⟨⟩, error, ⟨⟩, strict, rfl⟩ := made
  rw [not_or, not_or, not_not, not_not] at error
  refine ⟨⟨error.1, error.2.2, fun fraction member => ?_, fun pair member => ?_⟩, rfl⟩
  · by_contra negative
    exact strict (.inl ⟨fraction, member, fun both => negative both.1⟩)
  · by_contra descending
    exact strict (.inr ⟨pair, member, not_lt.mp descending⟩)

theorem sum_allocationsOf (ends : cumulative.getLast? = some last) :
    (allocationsOf cumulative).sum = last := by
  cases cumulative with
  | nil => cases ends
  | cons first rest =>
    induction rest generalizing first with
    | nil =>
      cases ends
      simp [allocationsOf]
    | cons second _ ih =>
      have later := ih second (by simpa using ends)
      simp only [allocationsOf, head?_cons, Option.toList_some, tail_cons, singleton_append,
        sum_cons, zip_cons_cons, map_cons] at later ⊢
      linarith

theorem sum_allocations (norm : SurvivalFunction) (schedule : Schedule alpha fractions) :
    (allocations norm alpha fractions).sum = alpha := by
  refine sum_allocationsOf ?_
  rw [getLast?_map, schedule.ends, Option.map_some, spending, Real.sqrt_one, div_one,
    norm.inverse alpha schedule.error.1 schedule.error.2]

theorem spending_lt_iff (error : 0 < alpha ∧ alpha < 1) (informed : 0 < earlier)
    (increasing : earlier < later) :
    spending norm alpha earlier < spending norm alpha later ↔ alpha < 1 / 2 := by
  have root : 0 < √earlier := Real.sqrt_pos.mpr informed
  have roots : √earlier < √later := Real.sqrt_lt_sqrt informed.le increasing
  rw [spending, spending, norm.decreasing.lt_iff_gt, ← norm.isf_pos_iff error.1 error.2]
  constructor
  · intro smaller
    by_contra negative
    have above := div_le_div_of_nonneg_left (neg_nonneg.mpr (not_lt.mp negative)) root roots.le
    rw [neg_div, neg_div, neg_le_neg_iff] at above
    exact absurd smaller (not_lt.mpr above)
  · intro positive
    exact div_lt_div_of_pos_left positive root roots

theorem allocations_cons (first : ℝ) (rest : List ℝ) :
    allocations norm alpha (first :: rest) = spending norm alpha first ::
      ((first :: rest).zip rest).map fun pair => spending norm alpha pair.2 - spending norm alpha pair.1 := by
  rw [allocations, allocationsOf, map_cons, head?_cons, tail_cons, Option.toList_some,
    singleton_append, ← map_cons, zip_map, map_map]
  rfl

/-- Every look is given something exactly when the error is less than one half, or there is one look. -/
theorem allocations_pos_iff (norm : SurvivalFunction) (schedule : Schedule alpha fractions) :
    (∀ allocation ∈ allocations norm alpha fractions, 0 < allocation) ↔ alpha < 1 / 2 ∨ fractions.length = 1 := by
  cases fractions with
  | nil => cases schedule.ends
  | cons first rest =>
    rw [allocations_cons, forall_mem_cons, forall_mem_map,
      and_iff_right (show 0 < spending norm alpha first from (norm.proper _).1)]
    have each : ∀ pair ∈ (first :: rest).zip rest,
        (0 < spending norm alpha pair.2 - spending norm alpha pair.1 ↔ alpha < 1 / 2) := by
      intro pair member
      rw [sub_pos]
      exact spending_lt_iff schedule.error (schedule.informed _ (of_mem_zip member).1)
        (schedule.increasing pair member)
    cases rest with
    | nil => simp
    | cons second rest =>
      have several : ¬(first :: second :: rest).length = 1 := by simp
      rw [or_iff_left several]
      constructor
      · intro all
        exact (each _ mem_cons_self).mp (all _ mem_cons_self)
      · exact fun small pair member => (each pair member).mpr small

/-- Whatever statistics exceed each value with the probability of the distribution at every look, some look
exceeds its boundary with at most this probability. -/
def FamilyErrorAtMost (norm : SurvivalFunction) (boundaries : List (Option ℝ)) (alpha : ℝ) : Prop :=
  ∀ (Ω : Type) (_ : MeasurableSpace Ω) (μ : Measure Ω) (statistic : ℕ → Ω → ℝ),
    (∀ look x, μ {ω | x ≤ statistic look ω} = ENNReal.ofReal (norm.sf x)) →
      μ {ω | ∃ look boundary, boundaries[look]? = some (some boundary) ∧ boundary ≤ statistic look ω} ≤
        ENNReal.ofReal alpha

theorem look_error {Ω : Type} [MeasurableSpace Ω] {μ : Measure Ω} {statistic : ℕ → Ω → ℝ}
    (null : ∀ look x, μ {ω | x ≤ statistic look ω} = ENNReal.ofReal (norm.sf x)) (look : ℕ)
    (positive : 0 < allocation) :
    μ {ω | ∃ boundary, boundaryOf norm allocation = some boundary ∧ boundary ≤ statistic look ω} ≤
      ENNReal.ofReal allocation := by
  by_cases less : allocation < 1
  · rw [boundaryOf, if_pos ⟨positive, less⟩]
    simp only [Option.some.injEq, exists_eq_left']
    rw [null look, norm.inverse allocation positive less]
  · rw [boundaryOf, if_neg fun both => less both.2]
    simp

theorem family_error {given : List ℝ} (positive : ∀ allocation ∈ given, 0 < allocation) :
    FamilyErrorAtMost norm (given.map (boundaryOf norm)) given.sum := by
  intro Ω _ μ statistic null
  have looks : {ω | ∃ look boundary, (given.map (boundaryOf norm))[look]? = some (some boundary) ∧
      boundary ≤ statistic look ω} ⊆ ⋃ look : Fin given.length,
        {ω | ∃ boundary, boundaryOf norm given[look] = some boundary ∧ boundary ≤ statistic look ω} := by
    rintro ω ⟨look, boundary, listed, exceeded⟩
    obtain ⟨inside, same⟩ := List.getElem?_eq_some_iff.mp listed
    rw [List.length_map] at inside
    rw [List.getElem_map] at same
    exact Set.mem_iUnion.mpr ⟨⟨look, inside⟩, boundary, same, exceeded⟩
  calc μ _ ≤ ∑ look : Fin given.length,
        μ {ω | ∃ boundary, boundaryOf norm given[look] = some boundary ∧ boundary ≤ statistic look ω} :=
        (measure_mono looks).trans (measure_iUnion_fintype_le μ _)
    _ ≤ ∑ look : Fin given.length, ENNReal.ofReal given[look] :=
        Finset.sum_le_sum fun look _ => look_error null look (positive _ (List.getElem_mem look.isLt))
    _ = ENNReal.ofReal (∑ look : Fin given.length, given[look]) :=
        (ENNReal.ofReal_sum_of_nonneg fun look _ => (positive _ (List.getElem_mem look.isLt)).le).symm
    _ = ENNReal.ofReal given.sum := by rw [← Fin.sum_univ_getElem given]; rfl

structure Controlled (norm : SurvivalFunction) (alpha : ℝ) (fractions : List ℝ) (boundaries : List (Option ℝ)) :
    Prop where
  positive : ∀ allocation ∈ allocations norm alpha fractions, 0 < allocation
  sums : (allocations norm alpha fractions).sum = alpha
  real : ∀ boundary ∈ boundaries, boundary ≠ none
  family : FamilyErrorAtMost norm boundaries alpha

/-- The boundaries control the error of the family if and only if that error is less than one half or there
is a single look. -/
theorem controlled_iff (norm : SurvivalFunction) (alpha : ℝ) (fractions : List ℝ) (boundaries : List (Option ℝ))
    (made : obrienFlemingSpendingBoundaries norm alpha fractions = .ok boundaries) :
    Controlled norm alpha fractions boundaries ↔ alpha < 1 / 2 ∨ fractions.length = 1 := by
  obtain ⟨schedule, rfl⟩ := boundaries_ok made
  rw [← allocations_pos_iff norm schedule]
  constructor
  · exact Controlled.positive
  · intro positive
    have sums := sum_allocations norm schedule
    have family : FamilyErrorAtMost norm ((allocations norm alpha fractions).map (boundaryOf norm))
        (allocations norm alpha fractions).sum := family_error positive
    rw [sums] at family
    refine ⟨positive, sums, fun boundary member => ?_, family⟩
    obtain ⟨allocation, given, rfl⟩ := mem_map.mp member
    have within := single_le_sum (fun other held => (positive other held).le) allocation given
    have less : allocation < 1 := (within.trans sums.le).trans_lt schedule.error.2
    rw [boundaryOf, if_pos ⟨positive allocation given, less⟩]
    exact Option.some_ne_none _

theorem twentieth_accepted : Schedule (1 / 20) [1 / 2, 1] where
  error := by norm_num
  ends := rfl
  informed := by simp
  increasing := by norm_num

theorem boundaries_made (schedule : Schedule alpha fractions) (whole : ∀ fraction ∈ fractions, fraction ≤ 1) :
    obrienFlemingSpendingBoundaries norm alpha fractions =
      .ok ((allocations norm alpha fractions).map (boundaryOf norm)) := by
  have accepted : ¬(¬(0 < alpha ∧ alpha < 1) ∨ fractions = [] ∨ fractions.getLast? ≠ some 1) := by
    rintro (error | none | ends)
    · exact error schedule.error
    · cases none ▸ schedule.ends
    · exact ends schedule.ends
  have strict : ¬((∃ fraction ∈ fractions, ¬(0 < fraction ∧ fraction ≤ 1)) ∨
      ∃ pair ∈ fractions.zip fractions.tail, pair.2 ≤ pair.1) := by
    rintro (⟨fraction, member, outside⟩ | ⟨pair, member, descending⟩)
    · exact outside ⟨schedule.informed fraction member, whole fraction member⟩
    · exact absurd (schedule.increasing pair member) (not_lt.mpr descending)
  rw [obrienFlemingSpendingBoundaries, refuseIf_bind_of_not accepted, refuseIf_bind_of_not strict]
  rfl

/-- The standard normal distribution, an error of one twentieth and a look at half the information. -/
theorem twentieth_controlled :
    Controlled .standardNormal (1 / 20) [1 / 2, 1]
      ((allocations .standardNormal (1 / 20) [1 / 2, 1]).map (boundaryOf .standardNormal)) := by
  refine (controlled_iff .standardNormal (1 / 20) [1 / 2, 1] _ ?_).mpr (.inl (by norm_num))
  exact boundaries_made twentieth_accepted (by norm_num)

theorem most_accepted : Schedule (9 / 10) [1 / 2, 1] where
  error := by norm_num
  ends := rfl
  informed := by simp
  increasing := by norm_num

/-- With an error of nine tenths the second look is given a negative allocation. -/
theorem negative_allocation :
    ∃ boundaries, obrienFlemingSpendingBoundaries .standardNormal (9 / 10) [1 / 2, 1] = .ok boundaries ∧
      ¬∀ allocation ∈ allocations .standardNormal (9 / 10) [1 / 2, 1], 0 < allocation := by
  refine ⟨_, boundaries_made most_accepted (by norm_num), ?_⟩
  rw [allocations_pos_iff _ most_accepted]
  norm_num

end Liki.Statistics
