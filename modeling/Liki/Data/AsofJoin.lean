import Liki.Library.SortedGroups
import Liki.Core
import Liki.Library.Checks

/-! The as-of join. One cursor goes through the observations in the order of their times and never goes
back, so what a decision is given depends on the decisions before it. It is given the latest
observation published by its own time exactly when none of them has taken the cursor further. -/
namespace Liki.Data
open Checks List

variable {Value Other : Type}

abbrev Published (Value : Type) := Time × Value

/-- `sorted(right, key=...)`. -/
def sortPublished (right : List (Published Value)) : List (Published Value) :=
  right.insertionSort fun first second => first.1 ≤ second.1

/-- The `while` loop: what is left of the observations, and the latest one passed. -/
def advance (decision : Time) :
    List (Published Value) → Option (Published Value) → List (Published Value) × Option (Published Value)
  | [], latest => ([], latest)
  | row :: rest, latest =>
    if row.1 ≤ decision then advance decision rest (some row) else (row :: rest, latest)

/-- The value that is appended to the output. -/
def freshValue (maxStaleness : Duration) (decision : Time) : Option (Published Value) → Option Value
  | none => none
  | some latest => if maxStaleness < decision - latest.1 then none else some latest.2

def joinFrom (maxStaleness : Duration) :
    List Time → List (Published Value) → Option (Published Value) → List (Option Value)
  | [], _, _ => []
  | decision :: rest, rows, latest =>
    let (rows, latest) := advance decision rows latest
    freshValue maxStaleness decision latest :: joinFrom maxStaleness rest rows latest

/-- `asof_join`. -/
def asofJoin (decisions : List Time) (right : List (Published Value)) (maxStaleness : Duration) :
    Except String (List (Option Value)) := do
  refuseIf (maxStaleness < 0) "max_staleness must be non-negative"
  return joinFrom maxStaleness decisions (sortPublished right) none

/-- An observation that carries itself as its value. -/
def named (right : List (Published Value)) : List (Published (Published Value)) :=
  right.map fun row => (row.1, row)

theorem advance_map (rename : Published Value → Published Other) (same : ∀ row, (rename row).1 = row.1)
    (decision : Time) (rows : List (Published Value)) (latest : Option (Published Value)) :
    advance decision (rows.map rename) (latest.map rename) =
      ((advance decision rows latest).1.map rename, (advance decision rows latest).2.map rename) := by
  induction rows generalizing latest with
  | nil => rfl
  | cons row _ ih =>
    rw [map_cons, advance, advance, same]
    by_cases published : row.1 ≤ decision
    · rw [if_pos published, if_pos published]
      exact ih (some row)
    · rw [if_neg published, if_neg published]
      rfl

section Renamed

variable (rename : Value → Other)

def renamed (row : Published Value) : Published Other := (row.1, rename row.2)

theorem sortPublished_renamed (right : List (Published Value)) :
    sortPublished (right.map (renamed rename)) = (sortPublished right).map (renamed rename) :=
  (SortedGroups.map_sortBy Prod.fst (renamed rename) (fun _ => rfl) right).symm

theorem freshValue_renamed (maxStaleness : Duration) (decision : Time) (latest : Option (Published Value)) :
    freshValue maxStaleness decision (latest.map (renamed rename)) =
      (freshValue maxStaleness decision latest).map rename := by
  cases latest with
  | none => rfl
  | some row =>
    rw [Option.map_some, freshValue, freshValue]
    exact (apply_ite (Option.map rename) _ none (some row.2)).symm

theorem joinFrom_renamed (maxStaleness : Duration) (decisions : List Time) (rows : List (Published Value))
    (latest : Option (Published Value)) :
    joinFrom maxStaleness decisions (rows.map (renamed rename)) (latest.map (renamed rename)) =
      (joinFrom maxStaleness decisions rows latest).map (Option.map rename) := by
  induction decisions generalizing rows latest with
  | nil => rfl
  | cons _ _ ih =>
    rw [joinFrom, joinFrom, advance_map (renamed rename) fun _ => rfl]
    dsimp only
    rw [ih, freshValue_renamed, map_cons]

end Renamed

theorem asofJoin_named (decisions : List Time) (right : List (Published Value)) (maxStaleness : Duration) :
    asofJoin decisions right maxStaleness =
      (asofJoin decisions (named right) maxStaleness).map (map (Option.map Prod.snd)) := by
  have original : (named right).map (renamed Prod.snd) = right := by
    rw [named, map_map]
    exact map_id right
  unfold asofJoin
  by_cases negative : maxStaleness < 0
  · rw [refuseIf_bind_of negative, refuseIf_bind_of negative]
    rfl
  · rw [refuseIf_bind_of_not negative, refuseIf_bind_of_not negative]
    have values := joinFrom_renamed Prod.snd maxStaleness decisions (sortPublished (named right)) none
    rw [← sortPublished_renamed, original] at values
    exact congrArg Except.ok values

/-- The observation was published by then, and none by then was published later. -/
def AsOf (right : List (Published Value)) (instant : Time) (row : Published Value) : Prop :=
  row ∈ right ∧ row.1 ≤ instant ∧ ∀ other ∈ right, other.1 ≤ instant → other.1 ≤ row.1

/-- What a decision should be given: a latest observation by its time, unless there is none or it is
stale. -/
def Joined (right : List (Published Value)) (maxStaleness : Duration) (decision : Time) :
    Option (Published Value) → Prop
  | some row => AsOf right decision row ∧ decision - row.1 ≤ maxStaleness
  | none => ∀ row, AsOf right decision row → maxStaleness < decision - row.1

variable {right passed rows : List (Published Value)} {maxStaleness : Duration} {decision : Time}

theorem advance_spec (decision : Time) (passed rows : List (Published Value))
    (sorted : rows.Pairwise fun first second => first.1 ≤ second.1) :
    ∃ taken left, advance decision rows passed.getLast? = (left, (passed ++ taken).getLast?) ∧
      rows = taken ++ left ∧ (∀ row ∈ taken, row.1 ≤ decision) ∧ ∀ row ∈ left, decision < row.1 := by
  induction rows generalizing passed with
  | nil => exact ⟨[], [], by rw [append_nil]; rfl, rfl, by simp, by simp⟩
  | cons row rest ih =>
    obtain ⟨least, later⟩ := pairwise_cons.mp sorted
    rw [advance]
    by_cases published : row.1 ≤ decision
    · rw [if_pos published]
      obtain ⟨taken, left, moved, split, before, after⟩ := ih (passed ++ [row]) later
      rw [getLast?_concat] at moved
      refine ⟨row :: taken, left, ?_, ?_, ?_, after⟩
      · rw [moved, append_assoc, singleton_append]
      · rw [split, cons_append]
      · intro other member
        rcases mem_cons.mp member with rfl | newer
        · exact published
        · exact before other newer
    · rw [if_neg published]
      refine ⟨[], row :: rest, by rw [append_nil], rfl, by simp, ?_⟩
      intro other member
      rcases mem_cons.mp member with rfl | newer
      · exact not_le.mp published
      · exact (not_le.mp published).trans_le (least other newer)

theorem advance_named (decision : Time) (passed rows : List (Published Value))
    (sorted : rows.Pairwise fun first second => first.1 ≤ second.1) :
    ∃ taken left, advance decision (named rows) (named passed).getLast? =
        (named left, (named (passed ++ taken)).getLast?) ∧
      rows = taken ++ left ∧ (∀ row ∈ taken, row.1 ≤ decision) ∧ ∀ row ∈ left, decision < row.1 := by
  obtain ⟨taken, left, moved, split, before, after⟩ := advance_spec decision passed rows sorted
  refine ⟨taken, left, ?_, split, before, after⟩
  have moves := advance_map (fun row : Published Value => (row.1, row)) (fun _ => rfl) decision rows
    passed.getLast?
  rw [← getLast?_map, moved, ← getLast?_map] at moves
  exact moves

/-- With the cursor after all that was published by a decision, the decision is given what it should be
exactly when the cursor has passed nothing else. -/
theorem freshValue_joined (nonneg : 0 ≤ maxStaleness)
    (sorted : (passed ++ rows).Pairwise fun first second => first.1 ≤ second.1)
    (ahead : ∀ row ∈ rows, decision < row.1) :
    Joined (passed ++ rows) maxStaleness decision
        (freshValue maxStaleness decision ((named passed).getLast?)) ↔
      ∀ row ∈ passed, row.1 ≤ decision := by
  rcases passed.eq_nil_or_concat' with rfl | ⟨earlier, last, rfl⟩
  · refine iff_of_true (fun row asOf => ?_) (by simp)
    exact absurd asOf.2.1 (not_le.mpr (ahead row asOf.1))
  have greatest : ∀ row ∈ earlier ++ [last], row.1 ≤ last.1 := by
    intro row member
    rcases mem_append.mp member with older | only
    · exact (pairwise_append.mp (pairwise_append.mp sorted).1).2.2 row older last (by simp)
    · rw [mem_singleton.mp only]
  have latest : (named (earlier ++ [last])).getLast? = some (last.1, last) := by
    rw [named, map_append, map_singleton, getLast?_concat]
  rw [latest, freshValue]
  by_cases published : last.1 ≤ decision
  · refine iff_of_true ?_ fun row member => (greatest row member).trans published
    have by_then : ∀ other ∈ earlier ++ [last] ++ rows, other.1 ≤ decision → other.1 ≤ last.1 := by
      intro other member early
      rcases mem_append.mp member with before | after
      · exact greatest other before
      · exact absurd early (not_le.mpr (ahead other after))
    have asOf : AsOf (earlier ++ [last] ++ rows) decision last := ⟨by simp, published, by_then⟩
    split
    · rename_i stale
      intro row other
      have same : row.1 = last.1 := le_antisymm (by_then row other.1 other.2.1) (other.2.2 last asOf.1 published)
      rwa [same]
    · rename_i fresh
      exact ⟨asOf, not_lt.mp fresh⟩
  · refine iff_of_false ?_ fun all => published (all last (by simp))
    have negative : decision - last.1 < 0 := sub_neg.mpr (not_le.mp published)
    have future : ¬maxStaleness < decision - last.1 := not_lt.mpr (negative.le.trans nonneg)
    rw [if_neg future]
    exact fun joined => published joined.1.2.1

/-- No observation is published between two decisions that are listed the wrong way round. -/
def Forward (right : List (Published Value)) (decisions : List Time) : Prop :=
  decisions.Pairwise fun earlier later => ∀ row ∈ right, row.1 ≤ earlier → row.1 ≤ later

/-- A cursor that has passed some observations serves the decisions that are left well, if and only if
none of them should have been given less. -/
theorem joinFrom_joined_iff (nonneg : 0 ≤ maxStaleness) (decisions : List Time)
    (passed rows : List (Published Value))
    (sorted : (passed ++ rows).Pairwise fun first second => first.1 ≤ second.1) :
    List.Forall₂ (Joined (passed ++ rows) maxStaleness) decisions
        (joinFrom maxStaleness decisions (named rows) (named passed).getLast?) ↔
      (∀ decision ∈ decisions, ∀ row ∈ passed, row.1 ≤ decision) ∧ Forward (passed ++ rows) decisions := by
  induction decisions generalizing passed rows with
  | nil => exact iff_of_true .nil ⟨by simp, .nil⟩
  | cons decision _ ih =>
    obtain ⟨taken, left, moved, split, before, after⟩ :=
      advance_named decision passed rows (pairwise_append.mp sorted).2.1
    subst split
    rw [← append_assoc] at sorted ⊢
    rw [joinFrom, moved]
    dsimp only
    rw [forall₂_cons, freshValue_joined nonneg sorted after, ih (passed ++ taken) left sorted,
      Forward,
      Forward, pairwise_cons]
    constructor
    · rintro ⟨here, later, forward⟩
      refine ⟨?_, ?_, forward⟩
      · intro other member row old
        rcases mem_cons.mp member with rfl | further
        · exact here row (mem_append_left taken old)
        · exact later other further row (mem_append_left taken old)
      · intro other further row member published
        rcases mem_append.mp member with gone | ahead
        · exact later other further row gone
        · exact absurd published (not_le.mpr (after row ahead))
    · rintro ⟨later, here, forward⟩
      have reached : ∀ row ∈ passed ++ taken, row.1 ≤ decision := by
        intro row member
        rcases mem_append.mp member with old | new
        · exact later decision mem_cons_self row old
        · exact before row new
      refine ⟨reached, ?_, forward⟩
      intro other further row member
      exact here other further row (mem_append_left left member) (reached row member)

theorem sortPublished_sorted (right : List (Published Value)) :
    (sortPublished right).Pairwise fun first second => first.1 ≤ second.1 :=
  SortedGroups.sortBy_ascending Prod.fst right

theorem sortPublished_named (right : List (Published Value)) :
    sortPublished (named right) = named (sortPublished right) :=
  (SortedGroups.map_sortBy Prod.fst (fun row => (row.1, row)) (fun _ => rfl) right).symm

/-- The join gives every decision a latest observation published by its time, or nothing where there is
none or it is stale, if and only if no observation is published between two decisions that are listed
the wrong way round. -/
theorem asofJoin_joined_iff (decisions : List Time) (right : List (Published Value)) (maxStaleness : Duration)
    (nonneg : 0 ≤ maxStaleness) :
    ∃ rows, asofJoin decisions (named right) maxStaleness = .ok rows ∧
      asofJoin decisions right maxStaleness = .ok (rows.map (Option.map Prod.snd)) ∧
      (List.Forall₂ (Joined right maxStaleness) decisions rows ↔ Forward right decisions) := by
  have joined : asofJoin decisions (named right) maxStaleness =
      .ok (joinFrom maxStaleness decisions (named (sortPublished right)) none) := by
    rw [asofJoin, refuseIf_bind_of_not (not_lt.mpr nonneg), sortPublished_named]
    rfl
  refine ⟨_, joined, by rw [asofJoin_named, joined]; rfl, ?_⟩
  have served := joinFrom_joined_iff nonneg decisions [] (sortPublished right) (sortPublished_sorted right)
  have same : ∀ row, row ∈ sortPublished right ↔ row ∈ right := fun _ => SortedGroups.mem_sortBy Prod.fst
  have joinedSame : Joined (sortPublished right) maxStaleness = Joined right maxStaleness := by
    funext decision row
    cases row <;> simp only [Joined, AsOf, same]
  rw [nil_append, joinedSame] at served
  refine served.trans ⟨fun forward => ?_, fun forward => ⟨by simp, ?_⟩⟩
  · simpa only [Forward, same] using forward.2
  · simpa only [Forward, same] using forward

theorem decisions_in_order_joined :
    ∃ rows, asofJoin [5, 10] (named [(7, true)]) 100 = .ok rows ∧
      List.Forall₂ (Joined [(7, true)] 100) [5, 10] rows := by
  obtain ⟨rows, joined, -, served⟩ := asofJoin_joined_iff [5, 10] [(7, true)] 100 (by decide)
  exact ⟨rows, joined, served.mpr (by simp [Forward])⟩

/-- Asked for the decision at 10 and then for the one at 5, the join gives the second what is published
at 7. -/
theorem future_observation_joined :
    ¬∀ (decisions : List Time) (right : List (Published Bool)) (maxStaleness : Duration) rows,
      0 ≤ maxStaleness → asofJoin decisions (named right) maxStaleness = .ok rows →
        List.Forall₂ (Joined right maxStaleness) decisions rows := by
  intro serves
  have joined := serves [10, 5] [(7, true)] 100 [some (7, true), some (7, true)] (by decide) (by decide)
  rw [forall₂_cons, forall₂_cons] at joined
  exact absurd joined.2.1.1.2.1 (by decide)

end Liki.Data
