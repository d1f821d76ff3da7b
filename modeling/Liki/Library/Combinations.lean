import Mathlib.Data.List.Sublists
import Mathlib.Data.Nat.Choose.Basic

/-! The combinations of a list, in the order of the list: those that take the first element come before
those that do not. They are the sublists of a length, each of them once. -/
namespace Combinations
open List

variable {Item : Type*}

def combinations : ℕ → List Item → List (List Item)
  | 0, _ => [[]]
  | _ + 1, [] => []
  | length + 1, item :: rest =>
    (combinations length rest).map (item :: ·) ++ combinations (length + 1) rest

theorem combinations_perm (length : ℕ) (items : List Item) :
    (combinations length items).Perm (items.sublistsLen length) := by
  induction items generalizing length with
  | nil => cases length <;> simp [combinations]
  | cons _ _ ih =>
    cases length with
    | zero => simp [combinations]
    | succ length =>
      rw [combinations, sublistsLen_succ_cons]
      exact perm_append_comm.trans ((ih (length + 1)).append ((ih length).map _))

theorem mem_combinations {length : ℕ} {items selected : List Item} :
    selected ∈ combinations length items ↔ selected.Sublist items ∧ selected.length = length := by
  rw [(combinations_perm length items).mem_iff, mem_sublistsLen]

theorem length_combinations (length : ℕ) (items : List Item) :
    (combinations length items).length = items.length.choose length := by
  rw [(combinations_perm length items).length_eq, length_sublistsLen]

theorem nodup_combinations (length : ℕ) {items : List Item} (nodup : items.Nodup) :
    (combinations length items).Nodup :=
  (combinations_perm length items).nodup_iff.mpr (nodup_sublistsLen length nodup)

/-- An item is in as many combinations as the others can be completed to. -/
theorem countP_mem_combinations [DecidableEq Item] (length : ℕ) {items : List Item} {item : Item}
    (nodup : items.Nodup) (member : item ∈ items) :
    (combinations (length + 1) items).countP (fun selected => item ∈ selected) = (items.length - 1).choose length := by
  induction items generalizing length with
  | nil => exact absurd member not_mem_nil
  | cons first rest ih =>
    obtain ⟨fresh, restNodup⟩ := nodup_cons.mp nodup
    rw [combinations, countP_append, countP_map, length_cons, Nat.add_sub_cancel]
    by_cases here : item = first
    · subst here
      have all : (combinations length rest).countP ((fun selected => decide (item ∈ selected)) ∘ (item :: ·)) =
          (combinations length rest).length := countP_eq_length.mpr fun selected _ => by simp
      have none : (combinations (length + 1) rest).countP (fun selected => item ∈ selected) = 0 := by
        refine countP_eq_zero.mpr fun selected listed => ?_
        have inside := (mem_combinations.mp listed).1
        simpa using fun held => fresh (inside.subset held)
      rw [all, none, length_combinations, Nat.add_zero]
    · have later : item ∈ rest := (mem_cons.mp member).resolve_left here
      have same : (combinations length rest).countP ((fun selected => decide (item ∈ selected)) ∘ (first :: ·)) =
          (combinations length rest).countP fun selected => item ∈ selected :=
        countP_congr fun selected _ => by simp [here]
      obtain ⟨_, count⟩ := Nat.exists_eq_succ_of_ne_zero (length_pos_of_mem later).ne'
      rw [same, ih length restNodup later, count, Nat.succ_sub_one]
      cases length with
      | zero => simp [combinations]
      | succ length => rw [ih length restNodup later, count, Nat.succ_sub_one, Nat.choose_succ_succ]

end Combinations
