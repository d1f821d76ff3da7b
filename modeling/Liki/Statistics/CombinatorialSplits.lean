import Mathlib.Data.List.Dedup
import Mathlib.Data.List.Sort
import Liki.Library.Combinations
import Liki.Statistics.TemporalSplits

/-! Combinatorial purged splits. One split for each combination of groups; the embargo is put behind each
chosen group by itself, also where the next group is chosen too. -/
namespace Liki.Statistics
open Checks Combinations List

structure CPCVSplit where
  trainIndices : List ℕ
  testIndices : List ℕ
  embargoIndices : List ℕ
  deriving DecidableEq

/-- `sorted(set().union(*ranges))`. -/
def sortedUnion (ranges : List (List ℕ)) : List ℕ := ranges.flatten.dedup.insertionSort (· ≤ ·)

@[simp] theorem mem_sortedUnion {ranges : List (List ℕ)} :
    index ∈ sortedUnion ranges ↔ ∃ range ∈ ranges, index ∈ range := by
  rw [sortedUnion, mem_insertionSort, mem_dedup, mem_flatten]

def splitOf (ends : List ℤ) (embargo : ℤ) (boundaries : ℕ → ℕ) (selected : List ℕ) : CPCVSplit :=
  let test := sortedUnion (selected.map fun group => indexRange (boundaries group) (boundaries (group + 1)))
  let embargoed := sortedUnion (selected.map fun group =>
    indexRange (boundaries (group + 1)) (min (ends.length : ℤ) (boundaries (group + 1) + embargo)).toNat)
  ⟨selectIndices ends fun index eventEnd =>
      (index ∉ test ∧ index ∉ embargoed) ∧ ¬∃ testIndex ∈ test, index < testIndex + 1 ∧ (testIndex : ℤ) ≤ eventEnd,
    test, embargoed⟩

/-- `cpcv_splits`. -/
def cpcvSplits (linspace : ℕ → ℕ → ℕ → ℕ) (ends : List ℤ) (groups testGroups embargo : ℤ) :
    Except String (List CPCVSplit) := do
  refuseIf (groups < 2 ∨ ¬(1 ≤ testGroups ∧ testGroups < groups)) "invalid CPCV group configuration"
  return (combinations testGroups.toNat (range groups.toNat)).map
    (splitOf ends embargo (linspace ends.length groups.toNat))

variable {ends : List ℤ} {embargo : ℤ} {boundaries : ℕ → ℕ} {selected : List ℕ} {index groups : ℕ}

theorem mem_splitTest_iff : index ∈ (splitOf ends embargo boundaries selected).testIndices ↔
    ∃ group ∈ selected, boundaries group ≤ index ∧ index < boundaries (group + 1) := by
  simp [splitOf]

theorem mem_splitEmbargo_iff : index ∈ (splitOf ends embargo boundaries selected).embargoIndices ↔
    ∃ group ∈ selected, boundaries (group + 1) ≤ index ∧ index < ends.length ∧
      (index : ℤ) < boundaries (group + 1) + embargo := by
  simp [splitOf, Int.lt_toNat]

theorem mem_splitTrain_iff : index ∈ (splitOf ends embargo boundaries selected).trainIndices ↔
    ∃ eventEnd, ends[index]? = some eventEnd ∧
      index ∉ (splitOf ends embargo boundaries selected).testIndices ∧
      index ∉ (splitOf ends embargo boundaries selected).embargoIndices ∧
      ∀ testIndex ∈ (splitOf ends embargo boundaries selected).testIndices,
        index ≤ testIndex → eventEnd < testIndex := by
  rw [splitOf, mem_selectIndices]
  simp only [decide_eq_true_eq, not_exists, not_and, Nat.lt_succ_iff, not_le, and_assoc]

theorem split_overlap (trained : train ∈ (splitOf ends embargo boundaries selected).trainIndices)
    (tested : test ∈ (splitOf ends embargo boundaries selected).testIndices)
    (overlap : Overlap ends train test) :
    test < train ∧ ∃ group ∈ selected, (boundaries group ≤ test ∧ test < boundaries (group + 1)) ∧
      ∃ testEnd, ends[test]? = some testEnd ∧ boundaries (group + 1) + embargo ≤ testEnd := by
  obtain ⟨_, listed, notTest, notEmbargoed, purged⟩ := mem_splitTrain_iff.mp trained
  obtain ⟨_, testEnd, otherListed, testListed, _, _⟩ := overlap
  cases listed.symm.trans otherListed
  have inside := (List.getElem?_eq_some_iff.mp listed).1
  -- an earlier training event that reaches a test index is purged
  have behind : test < train := by
    by_contra notBehind
    have short := purged test tested (not_lt.mp notBehind)
    omega
  obtain ⟨group, chosen, window⟩ := mem_splitTest_iff.mp tested
  refine ⟨behind, group, chosen, window, testEnd, testListed, ?_⟩
  have afterGroup : boundaries (group + 1) ≤ train := by
    by_contra within
    exact notTest (mem_splitTest_iff.mpr ⟨group, chosen, by omega, by omega⟩)
  by_contra short
  exact notEmbargoed (mem_splitEmbargo_iff.mpr ⟨group, chosen, afterGroup, inside, by omega⟩)

def Purged (ends : List ℤ) (train test : List ℕ) : Prop :=
  ∀ index ∈ train, ∀ testIndex ∈ test, ∀ eventEnd, ends[index]? = some eventEnd →
    ¬(index ≤ testIndex ∧ (testIndex : ℤ) ≤ eventEnd)

theorem fold_purged {embargo start stop : ℕ} (horizons : Horizons ends) (ordered : start ≤ stop) :
    Purged ends (foldAt ends embargo start stop).trainIndices (foldAt ends embargo start stop).testIndices := by
  intro index trained testIndex tested eventEnd listed reaches
  obtain ⟨_, otherListed, _⟩ := (mem_train_iff horizons ordered).mp trained
  cases listed.symm.trans otherListed
  have window := mem_test_iff.mp tested
  omega

theorem split_purged :
    Purged ends (splitOf ends embargo boundaries selected).trainIndices
      (splitOf ends embargo boundaries selected).testIndices := by
  intro index trained testIndex tested eventEnd listed reaches
  obtain ⟨_, otherListed, -, -, purged⟩ := mem_splitTrain_iff.mp trained
  cases listed.symm.trans otherListed
  exact absurd reaches.2 (not_le.mpr (purged testIndex tested reaches.1))

theorem fold_apart_iff (embargo : ℕ) (horizons : Horizons ends) (ordered : start ≤ stop) :
    (∀ train ∈ (foldAt ends embargo start stop).trainIndices,
        ∀ test ∈ (foldAt ends embargo start stop).testIndices, ¬Overlap ends train test) ↔
      ∀ test ∈ (foldAt ends embargo start stop).testIndices, ∀ testEnd, ends[test]? = some testEnd →
        testEnd < stop + embargo := by
  constructor
  · intro apart test tested testEnd listed
    by_contra reaching
    -- the index at which the test event ends is used for training
    have bounds := horizons test testEnd listed
    obtain ⟨train, _⟩ := Int.eq_ofNat_of_zero_le (show 0 ≤ testEnd by omega)
    obtain ⟨trained, overlap⟩ := (fold_overlap_iff horizons ordered train tested).mpr
      ⟨by omega, testEnd, listed, by omega⟩
    exact apart train trained test tested overlap
  · intro short train trained test tested overlap
    obtain ⟨_, testEnd, listed, _⟩ :=
      (fold_overlap_iff horizons ordered train tested).mp ⟨trained, overlap⟩
    have bound := short test tested testEnd listed
    omega

/-- No training event contains a test index. Behind a window a training event overlaps the test events that
reach beyond the embargo, and no other. -/
theorem labels_apart_before_embargo (linspace : ℕ → ℕ → ℕ → ℕ) (ends : List ℤ) (embargo : ℤ) (nonneg : 0 ≤ embargo)
    (horizons : Horizons ends) (cuts : ∀ parts, 2 ≤ parts → Cuts ends.length parts (linspace ends.length parts)) :
    (∀ folds splits, purgedKfold linspace ends folds embargo = .ok splits → ∀ split ∈ splits,
      Purged ends split.trainIndices split.testIndices ∧
      ∃ start stop, split.testIndices = indexRange start stop ∧
        ((∀ train ∈ split.trainIndices, ∀ test ∈ split.testIndices, ¬Overlap ends train test) ↔
          ∀ test ∈ split.testIndices, ∀ testEnd, ends[test]? = some testEnd → testEnd < stop + embargo)) ∧
    (∀ groups testGroups splits, cpcvSplits linspace ends groups testGroups embargo = .ok splits → ∀ split ∈ splits,
      Purged ends split.trainIndices split.testIndices ∧
      ∀ train ∈ split.trainIndices, ∀ test ∈ split.testIndices, Overlap ends train test → test < train ∧
        ∃ group, (linspace ends.length groups.toNat group ≤ test ∧ test < linspace ends.length groups.toNat (group + 1)) ∧
          ∃ testEnd, ends[test]? = some testEnd ∧
            linspace ends.length groups.toNat (group + 1) + embargo ≤ testEnd) := by
  constructor
  · intro folds splits folded split member
    simp only [purgedKfold, bind_ok, refuseIf_ok, pure_ok] at folded
    obtain ⟨⟨⟩, _, ⟨⟩, -, rfl⟩ := folded
    obtain ⟨fold, listed, rfl⟩ := mem_map.mp member
    have ordered := (cuts folds.toNat (by omega)).ascending fold (mem_range.mp listed)
    refine ⟨fold_purged horizons ordered, _, _, rfl, ?_⟩
    have apart := fold_apart_iff embargo.toNat horizons ordered
    rwa [Int.toNat_of_nonneg nonneg] at apart
  · intro groups testGroups splits made split member
    simp only [cpcvSplits, bind_ok, refuseIf_ok, pure_ok] at made
    obtain ⟨⟨⟩, -, rfl⟩ := made
    obtain ⟨_, -, rfl⟩ := mem_map.mp member
    refine ⟨split_purged, fun train trained test tested overlap => ?_⟩
    obtain ⟨behind, group, -, window, reaching⟩ := split_overlap trained tested overlap
    exact ⟨behind, group, window, reaching⟩

theorem evenCuts_cuts (two : 2 ≤ parts) : Cuts n parts (evenCuts n parts) :=
  Evenly.cuts (fun _ _ => rfl) (by omega)

/-- Two windows with an embargo of one index behind the first, and events of one step. -/
theorem short_events_apart : ∃ splits, purgedKfold evenCuts [1, 2, 3, 3] 2 1 = .ok splits ∧
    ∀ split ∈ splits, Purged [1, 2, 3, 3] split.trainIndices split.testIndices := by
  have splits := (labels_apart_before_embargo evenCuts [1, 2, 3, 3] 1 (by decide) (horizons_iff.mpr (by decide))
    fun _ => evenCuts_cuts).1 2 _ (purgedKfold_ok (by decide) (by decide) (by decide) (horizons_iff.mpr (by decide)))
  exact ⟨_, purgedKfold_ok (by decide) (by decide) (by decide) (horizons_iff.mpr (by decide)),
    fun split member => (splits split member).1⟩

/-- Events that end with the series, and no embargo: the first test event ends with a training event. -/
theorem labels_overlap_behind :
    (∃ splits, purgedKfold evenCuts [3, 3, 3, 3] 2 0 = .ok splits ∧ ∃ split ∈ splits,
      ∃ train ∈ split.trainIndices, ∃ test ∈ split.testIndices, Overlap [3, 3, 3, 3] train test) ∧
    ∃ splits, cpcvSplits evenCuts [3, 3, 3, 3] 2 1 0 = .ok splits ∧ ∃ split ∈ splits,
      ∃ train ∈ split.trainIndices, ∃ test ∈ split.testIndices, Overlap [3, 3, 3, 3] train test := by
  have overlap : Overlap [3, 3, 3, 3] 2 0 := ⟨3, 3, rfl, rfl, by decide, by decide⟩
  refine ⟨⟨[⟨[2, 3], [0, 1], []⟩, ⟨[], [2, 3], []⟩], by decide +kernel, _, mem_cons_self, 2, by decide, 0,
    by decide, overlap⟩, [⟨[2, 3], [0, 1], []⟩, ⟨[], [2, 3], []⟩], by decide +kernel, _, mem_cons_self, 2,
    by decide, 0, by decide, overlap⟩

def OnePerCombination (groups testGroups : ℕ) (boundaries : ℕ → ℕ) (splits : List CPCVSplit) : Prop :=
  ∃ selections : List (List ℕ), selections.Nodup ∧
    (∀ selected, selected ∈ selections ↔ selected.Sublist (range groups) ∧ selected.length = testGroups) ∧
    List.Forall₂ (fun split selected => ∀ index, index ∈ split.testIndices ↔
      ∃ group ∈ selected, boundaries group ≤ index ∧ index < boundaries (group + 1)) splits selections

def Apart (split : CPCVSplit) : Prop :=
  split.trainIndices.Disjoint split.testIndices ∧ split.trainIndices.Disjoint split.embargoIndices ∧
    split.testIndices.Disjoint split.embargoIndices

theorem onePerCombination (ends : List ℤ) (embargo : ℤ) (boundaries : ℕ → ℕ) (groups testGroups : ℕ) :
    OnePerCombination groups testGroups boundaries
      ((combinations testGroups (range groups)).map (splitOf ends embargo boundaries)) := by
  refine ⟨_, nodup_combinations testGroups nodup_range, fun selected => mem_combinations, ?_⟩
  rw [forall₂_map_left_iff, forall₂_same]
  exact fun selected _ index => mem_splitTest_iff

theorem tested_iff_group (cuts : Cuts n groups boundaries) (within : group < groups)
    (window : boundaries group ≤ index ∧ index < boundaries (group + 1))
    (chosen : selected.Sublist (range groups)) :
    index ∈ (splitOf ends embargo boundaries selected).testIndices ↔ group ∈ selected := by
  rw [mem_splitTest_iff]
  constructor
  · rintro ⟨_, held, otherWindow⟩
    have otherWithin := mem_range.mp (chosen.subset held)
    rwa [cuts.part_unique within otherWithin window otherWindow]
  · exact fun held => ⟨group, held, window⟩

theorem count_tested (cuts : Cuts n groups boundaries) (inside : index < n) :
    ((combinations (testGroups + 1) (range groups)).map (splitOf ends embargo boundaries)).countP
      (fun split => index ∈ split.testIndices) = (groups - 1).choose testGroups := by
  obtain ⟨_, within, window⟩ := cuts.part_of_index inside
  have counted := countP_mem_combinations testGroups nodup_range (mem_range.mpr within)
  rw [length_range] at counted
  rw [← counted, countP_map]
  refine countP_congr fun selected listed => ?_
  simpa using tested_iff_group cuts within window (mem_combinations.mp listed).1

theorem train_apart : (splitOf ends embargo boundaries selected).trainIndices.Disjoint
      (splitOf ends embargo boundaries selected).testIndices ∧
    (splitOf ends embargo boundaries selected).trainIndices.Disjoint
      (splitOf ends embargo boundaries selected).embargoIndices := by
  constructor
  · intro index train test
    obtain ⟨_, _, notTest, -⟩ := mem_splitTrain_iff.mp train
    exact notTest test
  · intro index train embargoed
    obtain ⟨_, _, -, notEmbargoed, -⟩ := mem_splitTrain_iff.mp train
    exact notEmbargoed embargoed

theorem apart_of_short (short : embargo = 0 ∨ selected.length = 1) :
    Apart (splitOf ends embargo boundaries selected) := by
  refine ⟨train_apart.1, train_apart.2, fun index test embargoed => ?_⟩
  obtain ⟨_, chosen, window⟩ := mem_splitTest_iff.mp test
  obtain ⟨_, otherChosen, behind, -, _⟩ := mem_splitEmbargo_iff.mp embargoed
  rcases short with none | single
  · omega
  · obtain ⟨_, rfl⟩ := length_eq_one_iff.mp single
    rw [mem_singleton.mp chosen] at window
    rw [mem_singleton.mp otherChosen] at behind
    omega

theorem not_apart_of_neighbours (evenly : Evenly ends.length groups boundaries) (few : groups ≤ ends.length)
    (two : 2 ≤ groups) (positive : 0 < embargo) (first : 0 ∈ selected) (second : 1 ∈ selected) :
    ¬Apart (splitOf ends embargo boundaries selected) := by
  intro apart
  have cuts := evenly.cuts (by omega)
  have window := evenly.strict few 1 (by omega)
  have upper : boundaries (1 + 1) ≤ boundaries groups := cuts.monotone two le_rfl
  have inside : boundaries 1 < ends.length := cuts.last ▸ window.trans_le upper
  exact apart.2.2 (mem_splitTest_iff.mpr ⟨1, second, le_rfl, window⟩)
    (mem_splitEmbargo_iff.mpr ⟨0, first, le_rfl, inside, lt_add_of_pos_right _ positive⟩)

theorem cpcvSplits_ok (linspace : ℕ → ℕ → ℕ → ℕ) {groups testGroups : ℤ} (two : 2 ≤ groups) (one : 1 ≤ testGroups)
    (less : testGroups < groups) : cpcvSplits linspace ends groups testGroups embargo =
      .ok ((combinations testGroups.toNat (range groups.toNat)).map
        (splitOf ends embargo (linspace ends.length groups.toNat))) := by
  have accepted : ¬(groups < 2 ∨ ¬(1 ≤ testGroups ∧ testGroups < groups)) := by omega
  rw [cpcvSplits, refuseIf_bind_of_not accepted]
  rfl

/-- There is one split for each combination, and every index is tested as often as its group is chosen.
The sets of every split are disjoint if and only if there is no embargo or one test group. -/
theorem cpcvSplits_apart_iff (linspace : ℕ → ℕ → ℕ → ℕ) (ends : List ℤ) (groups testGroups embargo : ℤ)
    (two : 2 ≤ groups) (few : groups ≤ ends.length) (one : 1 ≤ testGroups) (less : testGroups < groups)
    (nonneg : 0 ≤ embargo) (evenly : Evenly ends.length groups.toNat (linspace ends.length groups.toNat)) :
    ∃ splits, cpcvSplits linspace ends groups testGroups embargo = .ok splits ∧
      OnePerCombination groups.toNat testGroups.toNat (linspace ends.length groups.toNat) splits ∧
      (∀ index < ends.length, splits.countP (fun split => index ∈ split.testIndices) =
        (groups.toNat - 1).choose (testGroups.toNat - 1)) ∧
      ((∀ split ∈ splits, Apart split) ↔ embargo = 0 ∨ testGroups = 1) := by
  refine ⟨_, cpcvSplits_ok linspace two one less, onePerCombination _ _ _ _ _, fun index inside => ?_, ?_⟩
  · obtain ⟨_, count⟩ := Nat.exists_eq_succ_of_ne_zero (show testGroups.toNat ≠ 0 by omega)
    rw [count, Nat.succ_sub_one]
    exact count_tested (evenly.cuts (by omega)) inside
  constructor
  · intro apart
    by_contra neither
    obtain ⟨embargoed, _⟩ := not_or.mp neither
    have chosen : range testGroups.toNat ∈ combinations testGroups.toNat (range groups.toNat) :=
      mem_combinations.mpr ⟨range_sublist.mpr (by omega), length_range⟩
    refine not_apart_of_neighbours evenly (by omega) (by omega) (lt_of_le_of_ne nonneg (Ne.symm embargoed)) ?_ ?_
      (apart _ (mem_map_of_mem chosen))
    · exact mem_range.mpr (by omega)
    · exact mem_range.mpr (by omega)
  · intro short split member
    obtain ⟨_, listed, rfl⟩ := mem_map.mp member
    refine apart_of_short (short.imp_right fun single => ?_)
    rw [(mem_combinations.mp listed).2, single]
    rfl

theorem single_groups_apart : ∃ splits, cpcvSplits evenCuts [0, 1, 2, 3] 3 1 1 = .ok splits ∧
    ∀ split ∈ splits, Apart split := by
  obtain ⟨splits, made, -, -, apart⟩ := cpcvSplits_apart_iff evenCuts [0, 1, 2, 3] 3 1 1 (by decide) (by decide)
    (by decide) (by decide) (by decide) fun _ _ => rfl
  exact ⟨splits, made, apart.mpr (.inr rfl)⟩

/-- With the first two of three groups chosen, index 1 is tested and under the embargo of index 0. -/
theorem tested_under_embargo : ∃ splits, cpcvSplits evenCuts [0, 1, 2] 3 2 1 = .ok splits ∧
    ∃ split ∈ splits, ¬Apart split := by
  refine ⟨[⟨[], [0, 1], [1, 2]⟩, ⟨[], [0, 2], [1]⟩, ⟨[0], [1, 2], [2]⟩], by decide +kernel,
    ⟨[], [0, 1], [1, 2]⟩, mem_cons_self, fun apart => ?_⟩
  exact apart.2.2 (show 1 ∈ [0, 1] by decide) (show 1 ∈ [1, 2] by decide)

end Liki.Statistics
