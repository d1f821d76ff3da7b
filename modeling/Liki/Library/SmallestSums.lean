import Mathlib.Algebra.BigOperators.Group.List.Basic
import Mathlib.Algebra.Order.BigOperators.Group.List
import Mathlib.Algebra.Order.Field.Basic
import Mathlib.Data.List.Perm.Basic
import Mathlib.Data.List.Sort
import Mathlib.Tactic.Linarith

/-! The smallest members of a list. No other members of the same number have a smaller sum, so the sum
follows a list whose members fall. The mean of the smallest grows with their number, from the least
member to the mean of the whole list. -/
namespace SmallestSums
open List

variable {K : Type*} [LinearOrder K]

def ascending (xs : List K) : List K := xs.insertionSort (· ≤ ·)

theorem ascending_perm (xs : List K) : (ascending xs).Perm xs := perm_insertionSort (· ≤ ·) xs

theorem ascending_pairwise (xs : List K) : (ascending xs).Pairwise (· ≤ ·) :=
  pairwise_insertionSort (· ≤ ·) xs

@[simp] theorem length_ascending (xs : List K) : (ascending xs).length = xs.length := (ascending_perm xs).length_eq

/-- The order in which the members come makes no difference. -/
theorem ascending_congr {xs ys : List K} (same : xs.Perm ys) : ascending xs = ascending ys :=
  ((ascending_perm xs).trans (same.trans (ascending_perm ys).symm)).eq_of_pairwise
    (fun _ _ _ _ => le_antisymm) (ascending_pairwise xs) (ascending_pairwise ys)

def smallestSum [Zero K] [Add K] (count : ℕ) (xs : List K) : K := ((ascending xs).take count).sum

section Sums

variable [AddCommMonoid K] [IsOrderedAddMonoid K]

theorem take_orderedInsert_le (x : K) (xs : List K) (count : ℕ) :
    ((xs.orderedInsert (· ≤ ·) x).take (count + 1)).sum ≤ x + (xs.take count).sum := by
  induction xs generalizing count with
  | nil => simp
  | cons head rest ih =>
    rw [orderedInsert_cons]
    split
    · simp
    · rename_i greater
      rw [take_succ_cons, sum_cons]
      cases count with
      | zero => simpa using (not_le.mp greater).le
      | succ count =>
        rw [take_succ_cons, sum_cons, add_left_comm]
        exact add_le_add le_rfl (ih count)

/-- The first members have at least the sum of the smallest. -/
theorem smallestSum_le_take (count : ℕ) (xs : List K) : smallestSum count xs ≤ (xs.take count).sum := by
  induction xs generalizing count with
  | nil => simp [smallestSum, ascending]
  | cons head rest ih =>
    cases count with
    | zero => simp [smallestSum]
    | succ count =>
      rw [take_succ_cons, sum_cons]
      exact (take_orderedInsert_le head (ascending rest) count).trans (add_le_add le_rfl (ih count))

theorem take_sum_le {lower higher : List K} (below : List.Forall₂ (· ≤ ·) lower higher) (count : ℕ) :
    (lower.take count).sum ≤ (higher.take count).sum := by
  induction below generalizing count with
  | nil => simp
  | cons first _ ih =>
    cases count with
    | zero => simp
    | succ count => simpa using add_le_add first (ih count)

/-- Where no member grows, the sum of the smallest does not grow. -/
theorem smallestSum_mono {lower higher : List K} (below : List.Forall₂ (· ≤ ·) lower higher) (count : ℕ) :
    smallestSum count lower ≤ smallestSum count higher := by
  -- the lower list is rearranged as the sort rearranges the higher one
  obtain ⟨rearranged, followed, same⟩ := perm_comp_forall₂ (ascending_perm higher) below.flip
  calc smallestSum count lower
      = smallestSum count rearranged := by rw [smallestSum, ← ascending_congr same, smallestSum]
    _ ≤ (rearranged.take count).sum := smallestSum_le_take count rearranged
    _ ≤ smallestSum count higher := take_sum_le followed.flip count

end Sums

section Means

variable [Field K] [IsStrictOrderedRing K]

def smallestMean (count : ℕ) (xs : List K) : K := smallestSum count xs / count

variable {xs : List K}

theorem smallestSum_succ {count : ℕ} (inside : count < xs.length) :
    ∃ next, smallestSum (count + 1) xs = smallestSum count xs + next ∧ smallestSum count xs ≤ count * next := by
  have bound : count < (ascending xs).length := by rwa [length_ascending]
  refine ⟨(ascending xs)[count], ?_, ?_⟩
  · rw [smallestSum, take_succ_eq_append_getElem bound, sum_append, sum_singleton, smallestSum]
  · have below : ∀ x ∈ (ascending xs).take count, x ≤ (ascending xs)[count] := by
      have parts := ascending_pairwise xs
      rw [← take_append_drop count (ascending xs), drop_eq_getElem_cons bound] at parts
      intro x member
      exact (pairwise_append.mp parts).2.2 x member _ mem_cons_self
    have sum := sum_le_card_nsmul _ _ below
    rwa [length_take_of_le bound.le, nsmul_eq_mul] at sum

/-- One member more does not lower the mean. -/
theorem smallestMean_succ {count : ℕ} (some : 0 < count) (inside : count < xs.length) :
    smallestMean count xs ≤ smallestMean (count + 1) xs := by
  obtain ⟨_, sum, below⟩ := smallestSum_succ inside
  have positive : (0 : K) < count := Nat.cast_pos.mpr some
  rw [smallestMean, smallestMean, sum, Nat.cast_succ, div_le_div_iff₀ positive (by linarith only [positive])]
  linarith only [below]

theorem smallestMean_mono {few many : ℕ} (some : 0 < few) (more : few ≤ many) (inside : many ≤ xs.length) :
    smallestMean few xs ≤ smallestMean many xs := by
  induction many, more using Nat.le_induction with
  | base => exact le_rfl
  | succ _ more ih =>
    exact (ih (Nat.le_of_succ_le inside)).trans (smallestMean_succ (some.trans_le more) inside)

omit [IsStrictOrderedRing K] in
theorem smallestMean_all : smallestMean xs.length xs = xs.sum / xs.length := by
  rw [smallestMean, smallestSum, take_of_length_le (length_ascending xs).le, (ascending_perm xs).sum_eq]

theorem le_smallestMean {least : K} (lowest : ∀ x ∈ xs, least ≤ x) {count : ℕ} (some : 0 < count)
    (inside : count ≤ xs.length) : least ≤ smallestMean count xs := by
  have low : ∀ x ∈ (ascending xs).take count, least ≤ x := fun x member =>
    lowest x ((ascending_perm xs).mem_iff.mp (mem_of_mem_take member))
  have sum := card_nsmul_le_sum _ _ low
  rw [length_take_of_le (by rwa [length_ascending]), nsmul_eq_mul] at sum
  rwa [smallestMean, le_div_iff₀ (Nat.cast_pos.mpr some), mul_comm]

end Means

end SmallestSums
