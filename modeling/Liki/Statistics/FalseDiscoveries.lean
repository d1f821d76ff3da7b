import Mathlib.Data.Rat.Defs
import Mathlib.Tactic.Linarith
import Mathlib.Tactic.Positivity
import Liki.Library.KeyedRows
import Liki.Library.SortedGroups
import Liki.Library.StepUp

/-! False discovery rates. The p-values of a family are sorted, and the hypotheses up to the last rank that
satisfies its bound are discoveries. Floats are read as rational numbers. -/
namespace Liki.Statistics
open SortedGroups StepUp List Prod

inductive Applicability where
  | value | undefined | insufficientData | numericError | notApplicable

/-- The result of a method, without the uncertainty and the diagnostics that some methods add. -/
structure MetricResult where
  state : Applicability
  value : Option ℚ
  methodId : String
  provenanceIds : List String
  assumptions : List String
  reason : Option String

/-- `exceptional`. -/
def MetricResult.exceptional (state : Applicability) (methodId : String) (provenanceIds : List String)
    (reason : String) : MetricResult :=
  ⟨state, none, methodId, provenanceIds, [], some reason⟩

structure SearchProvenance where
  trialLedgerRecordIds : List String
  searchFamilyId : String
  rawAdaptiveTrials : ℕ
  datasetExposureRecordIds : List String
  /-- `__post_init__`. -/
  ledgered : trialLedgerRecordIds ≠ [] ∧ searchFamilyId ≠ ""
  counted : rawAdaptiveTrials = trialLedgerRecordIds.length
  exposed : datasetExposureRecordIds ≠ []

def SearchProvenance.provenanceIds (provenance : SearchProvenance) : List String :=
  provenance.trialLedgerRecordIds ++ provenance.datasetExposureRecordIds

/-- A mapping from the hypotheses to their p-values. -/
structure PValues where
  entries : List (String × ℚ)
  distinct : (entries.map fst).Nodup

def bhFdr : String := "BH-FDR.v1"

def rankBound (q : ℚ) (family : ℕ) (rank : ℕ) : ℚ := q * rank / family

/-- `false_discovery_rate_bh`. -/
def falseDiscoveryRateBh (pValues : PValues) (q : ℚ) (provenance : SearchProvenance) :
    MetricResult × List String :=
  if ¬(0 < q ∧ q < 1) ∨ pValues.entries = [] then
    (.exceptional .undefined bhFdr provenance.provenanceIds "invalid q or empty family", [])
  else if provenance.rawAdaptiveTrials < pValues.entries.length then
    (.exceptional .notApplicable bhFdr provenance.provenanceIds "family exceeds recorded raw trials", [])
  else if ∃ entry ∈ pValues.entries, entry.2 < 0 ∨ 1 < entry.2 then
    (.exceptional .numericError bhFdr provenance.provenanceIds "invalid p-value", [])
  else
    let ordered := sortBy snd pValues.entries
    let found := cutoff snd (rankBound q ordered.length) ordered
    let discoveries := (ordered.take found).map fst
    (⟨.value, some (found / ordered.length), bhFdr, provenance.provenanceIds,
      ["all tested family members supplied", "valid null p-values", "FDR target predeclared"], none⟩, discoveries)

def discoveries (pValues : PValues) (q : ℚ) (provenance : SearchProvenance) : List String :=
  (falseDiscoveryRateBh pValues q provenance).2

namespace PValues

variable (pValues : PValues)

def family : Finset String := (pValues.entries.map fst).toFinset

def value (hypothesis : String) : ℚ :=
  ((KeyedRows.find fst hypothesis pValues.entries).map snd).getD 0

def Valid : Prop := ∀ entry ∈ pValues.entries, 0 ≤ entry.2 ∧ entry.2 ≤ 1

instance : Decidable pValues.Valid := inferInstanceAs (Decidable (∀ _ ∈ _, _))

variable {pValues}

theorem value_of_mem (member : entry ∈ pValues.entries) : pValues.value entry.1 = entry.2 := by
  rw [value, KeyedRows.find_of_mem pValues.distinct member]
  rfl

end PValues

def Selects (pValues : PValues) (q : ℚ) (chosen : Finset String) : Prop :=
  chosen ⊆ pValues.family ∧
    (∀ hypothesis ∈ chosen, pValues.value hypothesis ≤ q * chosen.card / pValues.entries.length) ∧
      ∀ hypothesis ∈ chosen, ∀ other ∈ pValues.family, pValues.value other ≤ pValues.value hypothesis →
        other ∈ chosen

variable {pValues other : PValues} {q : ℚ} {provenance : SearchProvenance}

theorem selects_iff : Selects pValues q chosen ↔
    Consistent pValues.family pValues.value (rankBound q pValues.entries.length) chosen :=
  ⟨fun ⟨subset, bounded, closed⟩ => ⟨subset, bounded, closed⟩,
    fun consistent => ⟨consistent.subset, consistent.bounded, consistent.closed⟩⟩

theorem rankBound_mono (nonneg : 0 ≤ q) (family : ℕ) : Monotone (rankBound q family) := by
  intro first second below
  have casted : (first : ℚ) ≤ second := Nat.cast_le.mpr below
  unfold rankBound
  gcongr

def ranked (pValues : PValues) : List String := (sortBy snd pValues.entries).map fst

theorem ranked_perm (pValues : PValues) : (ranked pValues).Perm (pValues.entries.map fst) :=
  (sortBy_perm snd pValues.entries).map fst

theorem ranked_toFinset (pValues : PValues) : (ranked pValues).toFinset = pValues.family :=
  toFinset_eq_of_perm _ _ (ranked_perm pValues)

theorem ranked_ascending (pValues : PValues) :
    (ranked pValues).Pairwise fun first second => pValues.value first ≤ pValues.value second := by
  refine pairwise_map.mpr ((sortBy_ascending snd pValues.entries).imp_of_mem ?_)
  intro first second member memberToo below
  rwa [PValues.value_of_mem ((mem_sortBy snd).mp member),
    PValues.value_of_mem ((mem_sortBy snd).mp memberToo)]

/-- The discoveries of a valid family are what the rule selects. -/
theorem discoveries_eq (valid : pValues.Valid) (level : 0 < q ∧ q < 1)
    (recorded : pValues.entries.length ≤ provenance.rawAdaptiveTrials) :
    discoveries pValues q provenance =
      (ranked pValues).take (cutoff pValues.value (rankBound q pValues.entries.length) (ranked pValues)) := by
  have proper : ¬∃ entry ∈ pValues.entries, entry.2 < 0 ∨ 1 < entry.2 := by
    rintro ⟨entry, member, low | high⟩
    · exact absurd low (valid entry member).1.not_gt
    · exact absurd high (valid entry member).2.not_gt
  have same : ∀ entry ∈ sortBy snd pValues.entries, pValues.value entry.1 = entry.2 :=
    fun entry member => PValues.value_of_mem ((mem_sortBy snd).mp member)
  rw [discoveries, falseDiscoveryRateBh]
  by_cases empty : pValues.entries = []
  · rw [if_pos (.inr empty)]
    simp [ranked, empty, sortBy]
  · rw [if_neg (by simp [level, empty]), if_neg recorded.not_gt, if_neg proper]
    have size : (sortBy snd pValues.entries).length = pValues.entries.length :=
      (sortBy_perm snd pValues.entries).length_eq
    rw [ranked, cutoff_map fst same]
    simp only [size, map_take]

theorem discoveries_isGreatest (valid : pValues.Valid) (level : 0 < q ∧ q < 1)
    (recorded : pValues.entries.length ≤ provenance.rawAdaptiveTrials) :
    IsGreatest {chosen | Selects pValues q chosen} (discoveries pValues q provenance).toFinset := by
  have greatest := selected_isGreatest (ranked_ascending pValues)
    ((ranked_perm pValues).nodup_iff.mpr pValues.distinct) (rankBound_mono level.1.le pValues.entries.length)
  rw [ranked_toFinset] at greatest
  rw [discoveries_eq valid level recorded]
  simp only [selects_iff]
  exact greatest

structure Lowers (lower pValues : PValues) : Prop where
  family : lower.family = pValues.family
  values : ∀ hypothesis ∈ pValues.family, lower.value hypothesis ≤ pValues.value hypothesis

theorem card_family (pValues : PValues) : pValues.family.card = pValues.entries.length := by
  rw [PValues.family, toFinset_card_of_nodup pValues.distinct, length_map]

theorem Lowers.length (lowers : Lowers other pValues) : other.entries.length = pValues.entries.length := by
  rw [← card_family, lowers.family, card_family]

theorem discoveries_mono (valid : pValues.Valid) (validToo : lower.Valid) (level : 0 < q ∧ q < 1)
    (levelToo : higher < 1) (raised : q ≤ higher) (lowers : Lowers lower pValues)
    (recorded : pValues.entries.length ≤ provenance.rawAdaptiveTrials)
    (recordedToo : pValues.entries.length ≤ provenanceToo.rawAdaptiveTrials) :
    discoveries pValues q provenance ⊆ discoveries lower higher provenanceToo := by
  have greatest := discoveries_isGreatest valid level recorded
  have positive : 0 < higher := level.1.trans_le raised
  have greatestToo := discoveries_isGreatest validToo ⟨positive, levelToo⟩ (lowers.length ▸ recordedToo)
  simp only [selects_iff, lowers.family, lowers.length] at greatest greatestToo
  have bounds : ∀ size, rankBound q pValues.entries.length size ≤ rankBound higher pValues.entries.length size := by
    intro size
    unfold rankBound
    gcongr
  have kept := greatest_mono (rankBound_mono positive.le _) lowers.values bounds greatest greatestToo
  intro hypothesis found
  exact mem_toFinset.mp (kept (mem_toFinset.mpr found))

theorem lowers_of_perm (perm : other.entries.Perm pValues.entries) : Lowers other pValues where
  family := toFinset_eq_of_perm _ _ (perm.map fst)
  values hypothesis member := by
    obtain ⟨_, listed, rfl⟩ := mem_map.mp (mem_toFinset.mp member)
    rw [PValues.value_of_mem listed, PValues.value_of_mem (perm.mem_iff.mpr listed)]

/-- A family within the recorded trials has as its discoveries the greatest set whose p-values are all at most
`q` times its share of the family, with all whose p-values are no greater; the order of the family does not
matter, equal p-values are not split, and lower p-values or a higher rate lose none. A greater family has
none. -/
theorem step_up_discoveries (pValues : PValues) (q : ℚ) (provenance : SearchProvenance) (valid : pValues.Valid)
    (level : 0 < q ∧ q < 1) :
    (provenance.rawAdaptiveTrials < pValues.entries.length →
      (falseDiscoveryRateBh pValues q provenance).1.state = .notApplicable ∧
        discoveries pValues q provenance = []) ∧
    (pValues.entries.length ≤ provenance.rawAdaptiveTrials →
      IsGreatest {chosen | Selects pValues q chosen} (discoveries pValues q provenance).toFinset ∧
      (∀ other : PValues, other.entries.Perm pValues.entries →
        (discoveries other q provenance).toFinset = (discoveries pValues q provenance).toFinset) ∧
      (∀ first ∈ pValues.family, ∀ second ∈ pValues.family, pValues.value first = pValues.value second →
        (first ∈ discoveries pValues q provenance ↔ second ∈ discoveries pValues q provenance)) ∧
      ∀ lower higher, lower.Valid → Lowers lower pValues → q ≤ higher → higher < 1 →
        discoveries pValues q provenance ⊆ discoveries lower higher provenance) := by
  refine ⟨fun exceeds => ?_, fun recorded => ?_⟩
  · have some : pValues.entries ≠ [] := ne_nil_of_length_pos (by omega)
    rw [discoveries, falseDiscoveryRateBh, if_neg (by simp [level, some]), if_pos exceeds]
    exact ⟨rfl, rfl⟩
  · have greatest := discoveries_isGreatest valid level recorded
    refine ⟨greatest, fun other perm => ?_, fun first known second knownToo same => ?_,
      fun lower higher validToo lowers raised levelToo =>
        discoveries_mono valid validToo level levelToo raised lowers recorded recorded⟩
    · have validToo : other.Valid := fun entry member => valid entry (perm.mem_iff.mp member)
      have sizes : other.entries.length ≤ provenance.rawAdaptiveTrials := perm.length_eq ▸ recorded
      refine Finset.Subset.antisymm (fun hypothesis found => ?_) (fun hypothesis found => ?_)
      · exact mem_toFinset.mpr (discoveries_mono validToo valid level level.2 le_rfl
          (lowers_of_perm perm.symm) sizes sizes (mem_toFinset.mp found))
      · exact mem_toFinset.mpr (discoveries_mono valid validToo level level.2 le_rfl
          (lowers_of_perm perm) recorded recorded (mem_toFinset.mp found))
    · have ties := Consistent.ties (selects_iff.mp greatest.1) known knownToo same
      simpa only [mem_toFinset] using ties

namespace Small

theorem pair_distinct : ([("a", (0 : ℚ)), ("b", 0)].map fst).Nodup := by decide

def pair : PValues := ⟨[("a", 0), ("b", 0)], pair_distinct⟩

theorem single_ledgered : ["trial"] ≠ [] ∧ "family" ≠ "" := by decide

theorem single_exposed : ["exposure"] ≠ [] := by decide

def single : SearchProvenance := ⟨["trial"], "family", 1, ["exposure"], single_ledgered, rfl, single_exposed⟩

theorem double_ledgered : ["first", "second"] ≠ [] ∧ "family" ≠ "" := by decide

def double : SearchProvenance := ⟨["first", "second"], "family", 2, ["exposure"], double_ledgered, rfl, single_exposed⟩

end Small

theorem crowded_family_loses_discoveries : Small.pair.Valid ∧ (0 < (1 / 2 : ℚ) ∧ (1 / 2 : ℚ) < 1) ∧
    ¬IsGreatest {chosen | Selects Small.pair (1 / 2) chosen} (discoveries Small.pair (1 / 2) Small.single).toFinset := by
  refine ⟨by decide, by norm_num, fun greatest => ?_⟩
  have none : discoveries Small.pair (1 / 2) Small.single = [] := by decide +kernel
  have whole : Selects Small.pair (1 / 2) {"a", "b"} :=
    ⟨by decide, by decide +kernel, fun _ _ other known _ => by simpa [PValues.family, Small.pair] using known⟩
  have kept := greatest.2 whole
  rw [none] at kept
  exact absurd (kept (Finset.mem_insert_self "a" {"b"})) (by decide)

theorem step_up_discoveries_pair : discoveries Small.pair (1 / 2) Small.double = ["a", "b"] ∧
    IsGreatest {chosen | Selects Small.pair (1 / 2) chosen}
      (discoveries Small.pair (1 / 2) Small.double).toFinset :=
  ⟨by decide +kernel,
    ((step_up_discoveries Small.pair (1 / 2) Small.double (by decide) (by norm_num)).2 (by decide)).1⟩

end Liki.Statistics
