import Mathlib.Data.Finset.Card
import Mathlib.Data.List.TakeDrop
import Mathlib.Order.Bounds.Basic
import Mathlib.Order.Monotone.Basic
import Mathlib.Tactic.Common

/-! Step-up selection. Scores are admitted up to a bound that depends on how many are admitted, so a set
is consistent when its own size admits all its scores and it holds whatever scores no more. The rule sorts
the scores and cuts after the last one that the bound of its place admits; that is the greatest consistent
set, even where earlier places fail their bounds. -/
namespace StepUp
open List

variable {Item Score : Type*} [LinearOrder Score]

/-- The last place, counted from one, whose score is within the bound of the place. -/
def cutoff (score : Item → Score) (bound : ℕ → Score) (ordered : List Item) : ℕ :=
  (ordered.zipIdx 1).foldl (fun cutoff entry => if score entry.1 ≤ bound entry.2 then entry.2 else cutoff) 0

/-- The set holds whatever scores no more than one of its items, and all its scores are within the bound of
its size. -/
structure Consistent (family : Finset Item) (score : Item → Score) (bound : ℕ → Score) (chosen : Finset Item) :
    Prop where
  subset : chosen ⊆ family
  bounded : ∀ item ∈ chosen, score item ≤ bound chosen.card
  closed : ∀ item ∈ chosen, ∀ other ∈ family, score other ≤ score item → other ∈ chosen

variable {score : Item → Score} {bound : ℕ → Score} {ordered : List Item}

theorem greatest_mono {family chosen more : Finset Item} {lower : Item → Score} {higher : ℕ → Score}
    (monotone : Monotone higher) (scores : ∀ item ∈ family, lower item ≤ score item)
    (bounds : ∀ size, bound size ≤ higher size)
    (greatest : IsGreatest {chosen | Consistent family score bound chosen} chosen)
    (greatestToo : IsGreatest {chosen | Consistent family lower higher chosen} more) : chosen ⊆ more := by
  classical
  have consistent : Consistent family score bound chosen := greatest.1
  let reach := family.filter fun item => ∃ other ∈ chosen, lower item ≤ lower other
  have kept : chosen ⊆ reach := fun item member =>
    Finset.mem_filter.mpr ⟨consistent.subset member, item, member, le_rfl⟩
  have reaches : Consistent family lower higher reach := by
    refine ⟨Finset.filter_subset _ _, fun item member => ?_, fun item member other known least => ?_⟩
    · obtain ⟨-, other, held, below⟩ := Finset.mem_filter.mp member
      calc lower item ≤ lower other := below
        _ ≤ score other := scores other (consistent.subset held)
        _ ≤ bound chosen.card := consistent.bounded other held
        _ ≤ higher chosen.card := bounds _
        _ ≤ higher reach.card := monotone (Finset.card_le_card kept)
    · obtain ⟨-, best, held, below⟩ := Finset.mem_filter.mp member
      exact Finset.mem_filter.mpr ⟨known, best, held, least.trans below⟩
  exact kept.trans (greatestToo.2 reaches)

/-- Equal scores are selected together. -/
theorem Consistent.ties {family chosen : Finset Item} (consistent : Consistent family score bound chosen)
    {first second : Item} (known : first ∈ family) (knownToo : second ∈ family)
    (same : score first = score second) : first ∈ chosen ↔ second ∈ chosen :=
  ⟨fun member => consistent.closed first member second knownToo same.ge,
    fun member => consistent.closed second member first known same.le⟩

theorem cutoff_append (ordered : List Item) (item : Item) :
    cutoff score bound (ordered ++ [item]) =
      if score item ≤ bound (ordered.length + 1) then ordered.length + 1 else cutoff score bound ordered := by
  rw [cutoff, zipIdx_append, foldl_append, ← cutoff]
  simp [Nat.add_comm]

/-- The rule reads nothing but the scores. -/
theorem cutoff_map {Other : Type*} (rename : Item → Other) {otherScore : Other → Score}
    (same : ∀ item ∈ ordered, otherScore (rename item) = score item) :
    cutoff otherScore bound (ordered.map rename) = cutoff score bound ordered := by
  induction ordered using reverseRecOn with
  | nil => rfl
  | append_singleton _ item ih =>
    have earlier := ih fun other member => same other (mem_append_left _ member)
    rw [map_append, map_singleton, cutoff_append, cutoff_append, length_map, earlier,
      same item (mem_append_right _ (mem_singleton_self _))]

theorem cutoff_le_length : cutoff score bound ordered ≤ ordered.length := by
  induction ordered using reverseRecOn with
  | nil => exact le_rfl
  | append_singleton =>
    rw [cutoff_append, length_append, length_singleton]
    split
    · exact le_rfl
    · omega

theorem lt_cutoff {place : ℕ} (inside : place < ordered.length) (within : score ordered[place] ≤ bound (place + 1)) :
    place < cutoff score bound ordered := by
  induction ordered using reverseRecOn with
  | nil => cases inside
  | append_singleton ordered _ ih =>
    rw [cutoff_append]
    rw [length_append, length_singleton] at inside
    by_cases last : place = ordered.length
    · subst last
      rw [getElem_concat_length rfl] at within
      rw [if_pos within]
      omega
    · have earlier : place < ordered.length := by omega
      rw [getElem_append_left earlier] at within
      have before := ih earlier within
      split
      · omega
      · exact before

theorem cutoff_within (some : 0 < cutoff score bound ordered) :
    ∃ inside : cutoff score bound ordered - 1 < ordered.length,
      score ordered[cutoff score bound ordered - 1] ≤ bound (cutoff score bound ordered) := by
  induction ordered using reverseRecOn with
  | nil => exact absurd some (lt_irrefl 0)
  | append_singleton ordered item ih =>
    simp only [cutoff_append] at some ⊢
    by_cases within : score item ≤ bound (ordered.length + 1)
    · simp only [if_pos within, Nat.add_sub_cancel]
      refine ⟨by simp, ?_⟩
      rw [getElem_concat_length rfl]
      exact within
    · simp only [if_neg within] at some ⊢
      obtain ⟨inside, held⟩ := ih some
      refine ⟨by rw [length_append]; omega, ?_⟩
      rw [getElem_append_left inside]
      exact held

theorem score_le (ascending : ordered.Pairwise fun first second => score first ≤ score second) {first second : ℕ}
    (inside : first < ordered.length) (insideToo : second < ordered.length) (before : first ≤ second) :
    score ordered[first] ≤ score ordered[second] := by
  rcases before.eq_or_lt with rfl | earlier
  · exact le_rfl
  · exact pairwise_iff_getElem.mp ascending first second inside insideToo earlier

variable [DecidableEq Item]

def selected (score : Item → Score) (bound : ℕ → Score) (ordered : List Item) : Finset Item :=
  (ordered.take (cutoff score bound ordered)).toFinset

theorem mem_selected {item : Item} : item ∈ selected score bound ordered ↔
    ∃ place, ∃ inside : place < ordered.length, place < cutoff score bound ordered ∧ ordered[place] = item := by
  rw [selected, mem_toFinset, mem_take_iff_getElem]
  constructor
  · rintro ⟨place, before, same⟩
    exact ⟨place, before.trans_le (min_le_right _ _), before.trans_le (min_le_left _ _), same⟩
  · rintro ⟨place, inside, before, same⟩
    exact ⟨place, lt_min before inside, same⟩

theorem card_selected (distinct : ordered.Nodup) :
    (selected score bound ordered).card = cutoff score bound ordered := by
  rw [selected, toFinset_card_of_nodup (distinct.sublist (take_sublist _ _)), length_take]
  exact min_eq_left cutoff_le_length

variable (ascending : ordered.Pairwise fun first second => score first ≤ score second)

include ascending

theorem selected_consistent (distinct : ordered.Nodup) (monotone : Monotone bound) :
    Consistent ordered.toFinset score bound (selected score bound ordered) := by
  have admitted : ∀ item ∈ selected score bound ordered, score item ≤ bound (cutoff score bound ordered) := by
    intro item member
    obtain ⟨place, inside, _, rfl⟩ := mem_selected.mp member
    have some : 0 < cutoff score bound ordered := by omega
    obtain ⟨last, within⟩ := cutoff_within some
    exact (score_le ascending inside last (by omega)).trans within
  refine ⟨fun item member => ?_, fun item member => ?_, fun item member other known least => ?_⟩
  · obtain ⟨place, inside, -, rfl⟩ := mem_selected.mp member
    exact mem_toFinset.mpr (getElem_mem inside)
  · rw [card_selected distinct]
    exact admitted item member
  · obtain ⟨place, inside, rfl⟩ := getElem_of_mem (mem_toFinset.mp known)
    refine mem_selected.mpr ⟨place, inside, ?_, rfl⟩
    -- otherwise the place after the cutoff would be within its bound
    by_contra after
    have next : cutoff score bound ordered < ordered.length := by omega
    have within : score ordered[cutoff score bound ordered] ≤ bound (cutoff score bound ordered + 1) :=
      calc score ordered[cutoff score bound ordered]
          ≤ score ordered[place] := score_le ascending next inside (by omega)
        _ ≤ score item := least
        _ ≤ bound (cutoff score bound ordered) := admitted item member
        _ ≤ bound (cutoff score bound ordered + 1) := monotone (Nat.le_succ _)
    exact absurd (lt_cutoff next within) (lt_irrefl _)

/-- A consistent set reaches no further than its size. -/
theorem Consistent.place_lt (distinct : ordered.Nodup) {chosen : Finset Item}
    (consistent : Consistent ordered.toFinset score bound chosen) {place : ℕ} (inside : place < ordered.length)
    (member : ordered[place] ∈ chosen) : place < chosen.card := by
  have initial : (ordered.take (place + 1)).toFinset ⊆ chosen := by
    intro item listed
    obtain ⟨earlier, before, rfl⟩ := mem_take_iff_getElem.mp (mem_toFinset.mp listed)
    have reached : earlier < ordered.length := before.trans_le (min_le_right _ _)
    exact consistent.closed _ member _ (mem_toFinset.mpr (getElem_mem reached))
      (score_le ascending reached inside (by omega))
  have size := Finset.card_le_card initial
  rw [toFinset_card_of_nodup (distinct.sublist (take_sublist _ _)), length_take] at size
  omega

/-- The last place within the size of a consistent set belongs to it. -/
theorem Consistent.last_mem (distinct : ordered.Nodup) {chosen : Finset Item}
    (consistent : Consistent ordered.toFinset score bound chosen) (some : 0 < chosen.card) :
    ∃ inside : chosen.card - 1 < ordered.length, ordered[chosen.card - 1] ∈ chosen := by
  have size : chosen.card ≤ ordered.length := by
    rw [← toFinset_card_of_nodup distinct]
    exact Finset.card_le_card consistent.subset
  have inside : chosen.card - 1 < ordered.length := by omega
  refine ⟨inside, ?_⟩
  by_contra absent
  -- then all its items stand before that place
  have initial : chosen ⊆ (ordered.take (chosen.card - 1)).toFinset := by
    intro item member
    obtain ⟨place, there, rfl⟩ := getElem_of_mem (mem_toFinset.mp (consistent.subset member))
    refine mem_toFinset.mpr (mem_take_iff_getElem.mpr ⟨place, ?_, rfl⟩)
    by_contra late
    refine absent (consistent.closed _ member _ (mem_toFinset.mpr (getElem_mem inside)) ?_)
    exact score_le ascending inside there (by omega)
  have count := Finset.card_le_card initial
  rw [toFinset_card_of_nodup (distinct.sublist (take_sublist _ _)), length_take] at count
  omega

theorem selected_isGreatest (distinct : ordered.Nodup) (monotone : Monotone bound) :
    IsGreatest {chosen | Consistent ordered.toFinset score bound chosen} (selected score bound ordered) := by
  refine ⟨selected_consistent ascending distinct monotone, fun chosen consistent item member => ?_⟩
  obtain ⟨last, held⟩ := Consistent.last_mem ascending distinct consistent (Finset.card_pos.mpr ⟨item, member⟩)
  have reached : chosen.card - 1 < cutoff score bound ordered := by
    refine lt_cutoff last ?_
    rw [Nat.sub_add_cancel (Finset.card_pos.mpr ⟨item, member⟩)]
    exact consistent.bounded _ held
  obtain ⟨place, inside, rfl⟩ := getElem_of_mem (mem_toFinset.mp (consistent.subset member))
  have before := Consistent.place_lt ascending distinct consistent inside member
  exact mem_selected.mpr ⟨place, inside, by omega, rfl⟩

end StepUp
