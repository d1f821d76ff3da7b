import Mathlib.Data.List.Forall2
import Mathlib.Data.Int.Order.Basic
import Mathlib.Tactic.Linarith
import Liki.Library.Checks

/-! Purged folds. The observations are cut into consecutive test windows; for each window the training
set leaves out the window, the embargo behind it, and every earlier event that reaches into it. Nothing
is left out for the test events that reach beyond the embargo. -/
namespace Liki.Statistics
open Checks List Nat

structure PurgedFold where
  trainIndices : List ℕ
  testIndices : List ℕ
  embargoIndices : List ℕ
  deriving DecidableEq

/-- `range(start, stop)`. -/
def indexRange (start stop : ℕ) : List ℕ := range' start (stop - start)

@[simp] theorem mem_indexRange : index ∈ indexRange start stop ↔ start ≤ index ∧ index < stop := by
  rw [indexRange, mem_range'_1]
  omega

def selectIndices (ends : List ℤ) (selects : ℕ → ℤ → Bool) : List ℕ :=
  (ends.zipIdx.filter fun entry => selects entry.2 entry.1).map Prod.snd

@[simp] theorem mem_selectIndices :
    index ∈ selectIndices ends selects ↔ ∃ stop, ends[index]? = some stop ∧ selects index stop = true := by
  simp only [selectIndices, mem_map, mem_filter, Prod.exists, mk_mem_zipIdx_iff_getElem?]
  constructor
  · rintro ⟨stop, _, ⟨listed, selected⟩, rfl⟩
    exact ⟨stop, listed, selected⟩
  · rintro ⟨stop, listed, selected⟩
    exact ⟨stop, index, ⟨listed, selected⟩, rfl⟩

variable (linspace : ℕ → ℕ → ℕ → ℕ)

def foldAt (ends : List ℤ) (embargo start stop : ℕ) : PurgedFold :=
  let test := indexRange start stop
  let embargoed := indexRange stop (min ends.length (stop + embargo))
  ⟨selectIndices ends fun index eventEnd =>
      (index ∉ test ∧ index ∉ embargoed) ∧ ¬(index < stop ∧ (start : ℤ) ≤ eventEnd), test, embargoed⟩

/-- `any(end < index or end >= n ...)`. -/
def InvalidEnds (ends : List ℤ) : Prop :=
  ∃ entry ∈ ends.zipIdx, entry.1 < entry.2 ∨ (ends.length : ℤ) ≤ entry.1

instance (ends : List ℤ) : Decidable (InvalidEnds ends) := inferInstanceAs (Decidable (∃ _ ∈ _, _))

/-- `purged_kfold`, where `linspace n parts` are the integers of `np.linspace(0, n, parts + 1, dtype=int)`. -/
def purgedKfold (ends : List ℤ) (folds embargo : ℤ) : Except String (List PurgedFold) := do
  refuseIf (folds < 2 ∨ (ends.length : ℤ) < folds ∨ embargo < 0) "invalid temporal fold configuration"
  refuseIf (InvalidEnds ends) "event end indices must be in-range and not precede decision index"
  let boundaries := linspace ends.length folds.toNat
  return (range folds.toNat).map fun fold =>
    foldAt ends embargo.toNat (boundaries fold) (boundaries (fold + 1))

variable {linspace} {ends : List ℤ} {embargo start stop index : ℕ}

/-- Every event ends where it starts or later, within the series. -/
def Horizons (ends : List ℤ) : Prop :=
  ∀ (index : ℕ) (stop : ℤ), ends[index]? = some stop → index ≤ stop ∧ stop < ends.length

theorem horizons_iff : Horizons ends ↔ ¬InvalidEnds ends := by
  simp only [Horizons, InvalidEnds, Prod.exists, mk_mem_zipIdx_iff_getElem?]
  push Not
  constructor
  · intro horizons stop index listed
    exact horizons index stop listed
  · intro valid index stop listed
    exact valid stop index listed

theorem mem_train_iff (horizons : Horizons ends) (ordered : start ≤ stop) :
    index ∈ (foldAt ends embargo start stop).trainIndices ↔
      ∃ eventEnd, ends[index]? = some eventEnd ∧ (eventEnd < start ∨ stop + embargo ≤ index) := by
  simp only [foldAt, mem_selectIndices, mem_indexRange, decide_eq_true_eq]
  refine exists_congr fun eventEnd => and_congr_right fun listed => ?_
  have inside : index < ends.length := (List.getElem?_eq_some_iff.mp listed).1
  have later := (horizons index eventEnd listed).1
  omega

theorem mem_test_iff : index ∈ (foldAt ends embargo start stop).testIndices ↔ start ≤ index ∧ index < stop :=
  mem_indexRange

theorem mem_embargo_iff : index ∈ (foldAt ends embargo start stop).embargoIndices ↔
    stop ≤ index ∧ index < ends.length ∧ index < stop + embargo := by
  rw [foldAt, mem_indexRange, lt_min_iff]

theorem train_antitone (horizons : Horizons ends) (others : Horizons larger)
    (ordered : start ≤ stop) (longer : embargo ≤ largerEmbargo)
    (later : List.Forall₂ (· ≤ ·) ends larger) :
    ∀ index ∈ (foldAt larger largerEmbargo start stop).trainIndices,
      index ∈ (foldAt ends embargo start stop).trainIndices := by
  intro index member
  rw [mem_train_iff others ordered] at member
  rw [mem_train_iff horizons ordered]
  obtain ⟨_, listed, _⟩ := member
  obtain ⟨inside, _⟩ := List.getElem?_eq_some_iff.mp listed
  have shorter : index < ends.length := later.length_eq ▸ inside
  refine ⟨ends[index], List.getElem?_eq_getElem shorter, ?_⟩
  have below : ends[index] ≤ larger[index] := later.get shorter inside
  omega

structure Cuts (n parts : ℕ) (boundaries : ℕ → ℕ) : Prop where
  first : boundaries 0 = 0
  last : boundaries parts = n
  ascending : ∀ part < parts, boundaries part ≤ boundaries (part + 1)

theorem windows_flatten {boundaries : ℕ → ℕ} (parts : ℕ) (first : boundaries 0 = 0)
    (ascending : ∀ part < parts, boundaries part ≤ boundaries (part + 1)) :
    (range parts).flatMap (fun part => indexRange (boundaries part) (boundaries (part + 1))) =
      range (boundaries parts) := by
  induction parts with
  | zero => rw [first]; rfl
  | succ parts ih =>
    have step := ascending parts (Nat.lt_succ_self parts)
    rw [range_succ, flatMap_append, ih fun part before => ascending part (Nat.lt_succ_of_lt before),
      flatMap_singleton, range_eq_range', range_eq_range', indexRange]
    have whole : range' 0 (boundaries parts) ++
        range' (0 + boundaries parts) (boundaries (parts + 1) - boundaries parts) =
          range' 0 (boundaries parts + (boundaries (parts + 1) - boundaries parts)) := range'_append_1
    rw [Nat.zero_add, Nat.add_sub_cancel' step] at whole
    exact whole

/-- `floor(part * n / parts)`. -/
def Evenly (n parts : ℕ) (boundaries : ℕ → ℕ) : Prop := ∀ part ≤ parts, boundaries part = part * n / parts

variable {n parts : ℕ} {boundaries : ℕ → ℕ} {first second : ℕ}

theorem Evenly.cuts (evenly : Evenly n parts boundaries) (some : 0 < parts) : Cuts n parts boundaries where
  first := by rw [evenly 0 (Nat.zero_le _), zero_mul, Nat.zero_div]
  last := by rw [evenly parts le_rfl, Nat.mul_div_cancel_left n some]
  ascending part before := by
    rw [evenly part before.le, evenly (part + 1) before]
    exact Nat.div_le_div_right (Nat.mul_le_mul_right n (Nat.le_succ part))

theorem Evenly.strict (evenly : Evenly n parts boundaries) (few : parts ≤ n) (part : ℕ) (before : part < parts) :
    boundaries part < boundaries (part + 1) := by
  rw [evenly part before.le, evenly (part + 1) before, Nat.add_mul, one_mul]
  have some : 0 < parts := by omega
  rw [← Nat.add_one_le_iff, ← Nat.add_div_right _ some]
  exact Nat.div_le_div_right (Nat.add_le_add_left few _)

theorem Cuts.monotone (cuts : Cuts n parts boundaries) (ordered : first ≤ second)
    (within : second ≤ parts) : boundaries first ≤ boundaries second := by
  induction second, ordered using le_induction with
  | base => exact le_rfl
  | succ second _ ih => exact (ih (le_of_succ_le within)).trans (cuts.ascending second within)

theorem Cuts.part_of_index (cuts : Cuts n parts boundaries) (inside : index < n) :
    ∃ part < parts, boundaries part ≤ index ∧ index < boundaries (part + 1) := by
  have listed : index ∈ range (boundaries parts) := mem_range.mpr (cuts.last ▸ inside)
  rw [← windows_flatten parts cuts.first cuts.ascending, mem_flatMap] at listed
  obtain ⟨part, within, window⟩ := listed
  exact ⟨part, mem_range.mp within, mem_indexRange.mp window⟩

theorem Cuts.part_unique (cuts : Cuts n parts boundaries) (firstWithin : first < parts)
    (secondWithin : second < parts)
    (inFirst : boundaries first ≤ index ∧ index < boundaries (first + 1))
    (inSecond : boundaries second ≤ index ∧ index < boundaries (second + 1)) : first = second := by
  rcases lt_trichotomy first second with before | same | behind
  · have apart := cuts.monotone (show first + 1 ≤ second from before) secondWithin.le
    omega
  · exact same
  · have apart := cuts.monotone (show second + 1 ≤ first from behind) firstWithin.le
    omega

/-- What the folds of a series should be: the test sets are not empty, consecutive and cover the series;
train, test and embargo are disjoint; and an index is in none of them exactly when it precedes the window
and its event reaches into it. -/
structure ProperFolds (ends : List ℤ) (splits : List PurgedFold) : Prop where
  nonempty : ∀ fold ∈ splits, fold.testIndices ≠ []
  partition : splits.flatMap PurgedFold.testIndices = range ends.length
  apart : ∀ fold ∈ splits, fold.trainIndices.Disjoint fold.testIndices ∧
    fold.trainIndices.Disjoint fold.embargoIndices ∧ fold.testIndices.Disjoint fold.embargoIndices
  leftOut : ∀ fold ∈ splits, ∀ index eventEnd, ends[index]? = some eventEnd →
    ((index ∉ fold.trainIndices ∧ index ∉ fold.testIndices ∧ index ∉ fold.embargoIndices) ↔
      ∃ first, fold.testIndices.head? = some first ∧ index < first ∧ (first : ℤ) ≤ eventEnd)

theorem purgedKfold_ok {folds embargo : ℤ} (two : 2 ≤ folds) (few : folds ≤ ends.length) (nonneg : 0 ≤ embargo)
    (horizons : Horizons ends) : purgedKfold linspace ends folds embargo =
      .ok ((range folds.toNat).map fun fold => foldAt ends embargo.toNat
        (linspace ends.length folds.toNat fold) (linspace ends.length folds.toNat (fold + 1))) := by
  have accepted : ¬(folds < 2 ∨ (ends.length : ℤ) < folds ∨ embargo < 0) := by omega
  rw [purgedKfold, refuseIf_bind_of_not accepted, refuseIf_bind_of_not (horizons_iff.mp horizons)]
  rfl

theorem head_indexRange (nonempty : start < stop) : (indexRange start stop).head? = some start := by
  obtain ⟨count, _⟩ := Nat.exists_eq_add_of_lt nonempty
  rw [indexRange, show stop - start = count + 1 by omega, range'_succ, head?_cons]

theorem proper_folds {folds : ℕ} (horizons : Horizons ends) (evenly : Evenly ends.length folds boundaries)
    (some : 0 < folds) (few : folds ≤ ends.length) :
    ProperFolds ends ((List.range folds).map fun fold => foldAt ends embargo (boundaries fold) (boundaries (fold + 1))) := by
  have cuts := evenly.cuts some
  have each : ∀ split ∈ (List.range folds).map
      (fun fold => foldAt ends embargo (boundaries fold) (boundaries (fold + 1))),
      ∃ start stop, start < stop ∧ split = foldAt ends embargo start stop := by
    intro split member
    obtain ⟨fold, listed, rfl⟩ := List.mem_map.mp member
    exact ⟨_, _, evenly.strict few fold (List.mem_range.mp listed), rfl⟩
  refine ⟨fun split member => ?_, ?_, fun split member => ?_, fun split member index eventEnd listed => ?_⟩
  · obtain ⟨start, stop, nonempty, rfl⟩ := each split member
    exact List.ne_nil_of_mem (mem_test_iff.mpr ⟨le_rfl, nonempty⟩)
  · rw [List.flatMap_map, ← cuts.last]
    exact windows_flatten folds cuts.first cuts.ascending
  · obtain ⟨start, stop, nonempty, rfl⟩ := each split member
    refine ⟨fun index train test => ?_, fun index train held => ?_, fun index test held => ?_⟩
    · obtain ⟨eventEnd, listed, outside⟩ := (mem_train_iff horizons nonempty.le).mp train
      have later := (horizons index eventEnd listed).1
      have window := mem_test_iff.mp test
      omega
    · obtain ⟨eventEnd, listed, _⟩ := (mem_train_iff horizons nonempty.le).mp train
      have later := (horizons index eventEnd listed).1
      have embargoed := mem_embargo_iff.mp held
      omega
    · have window := mem_test_iff.mp test
      have embargoed := mem_embargo_iff.mp held
      omega
  · obtain ⟨start, stop, nonempty, rfl⟩ := each split member
    have head : (foldAt ends embargo start stop).testIndices.head? = .some start := head_indexRange nonempty
    have inside := (List.getElem?_eq_some_iff.mp listed).1
    have later := (horizons index eventEnd listed).1
    rw [mem_train_iff horizons nonempty.le, mem_test_iff, mem_embargo_iff, head]
    simp only [listed, Option.some.injEq, exists_eq_left']
    omega

/-- The folds are what they should be, and a longer embargo or longer events never add to the training. -/
theorem purgedKfold_folds (linspace : ℕ → ℕ → ℕ → ℕ) (ends : List ℤ) (folds embargo : ℤ) (two : 2 ≤ folds)
    (few : folds ≤ ends.length) (nonneg : 0 ≤ embargo) (horizons : Horizons ends)
    (evenly : Evenly ends.length folds.toNat (linspace ends.length folds.toNat)) :
    ∃ splits, purgedKfold linspace ends folds embargo = .ok splits ∧ splits.length = folds.toNat ∧
      ProperFolds ends splits ∧
      ∀ larger largerEmbargo, Horizons larger → List.Forall₂ (· ≤ ·) ends larger → embargo ≤ largerEmbargo →
        ∃ others, purgedKfold linspace larger folds largerEmbargo = .ok others ∧
          List.Forall₂ (fun other split : PurgedFold => ∀ index ∈ other.trainIndices, index ∈ split.trainIndices)
            others splits := by
  refine ⟨_, purgedKfold_ok two few nonneg horizons, by simp, proper_folds horizons evenly (by omega) (by omega), ?_⟩
  intro larger largerEmbargo others later longer
  have length := later.length_eq
  refine ⟨_, purgedKfold_ok two (length ▸ few) (nonneg.trans longer) others, ?_⟩
  rw [← length, forall₂_map_left_iff, forall₂_map_right_iff, forall₂_same]
  intro fold listed
  have ordered := (evenly.strict (by omega) fold (mem_range.mp listed)).le
  exact train_antitone horizons others ordered (Int.toNat_le_toNat longer) later

/-- The evenly spaced integers. -/
def evenCuts (n parts part : ℕ) : ℕ := part * n / parts

theorem four_events_folded : ∃ splits, purgedKfold evenCuts [1, 2, 3, 3] 2 1 = .ok splits ∧
    ProperFolds [1, 2, 3, 3] splits := by
  obtain ⟨splits, folded, -, proper, -⟩ := purgedKfold_folds evenCuts [1, 2, 3, 3] 2 1 (by decide) (by decide)
    (by decide) (horizons_iff.mpr (by decide)) fun _ _ => rfl
  exact ⟨splits, folded, proper⟩

/-- The events of two indices have an instant in common. -/
def Overlap (ends : List ℤ) (first second : ℕ) : Prop :=
  ∃ firstEnd secondEnd, ends[first]? = some firstEnd ∧ ends[second]? = some secondEnd ∧
    (first : ℤ) ≤ secondEnd ∧ (second : ℤ) ≤ firstEnd

/-- Training events overlap test events of their fold exactly where a test event reaches beyond the
embargo behind the window. -/
theorem fold_overlap_iff (horizons : Horizons ends) (ordered : start ≤ stop) (train : ℕ)
    (listed : test ∈ (foldAt ends embargo start stop).testIndices) :
    train ∈ (foldAt ends embargo start stop).trainIndices ∧ Overlap ends train test ↔
      stop + embargo ≤ train ∧ ∃ testEnd, ends[test]? = some testEnd ∧ (train : ℤ) ≤ testEnd := by
  have window := mem_test_iff.mp listed
  rw [mem_train_iff horizons ordered]
  constructor
  · rintro ⟨⟨_, trainListed, outside⟩, _, testEnd, otherListed, testListed, reached, _⟩
    cases trainListed.symm.trans otherListed
    refine ⟨?_, testEnd, testListed, reached⟩
    rcases outside with before | behind
    · omega
    · exact behind
  · rintro ⟨behind, testEnd, testListed, reached⟩
    have inside : train < ends.length := by
      have bound := (horizons test testEnd testListed).2
      omega
    have trainListed := getElem?_eq_getElem inside
    refine ⟨⟨_, trainListed, .inr behind⟩, _, testEnd, trainListed, testListed, reached, ?_⟩
    have later := (horizons train _ trainListed).1
    omega

end Liki.Statistics
