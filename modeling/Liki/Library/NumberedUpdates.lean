import Mathlib.Data.List.Basic
import Mathlib.Data.Nat.Init
import Mathlib.Logic.Function.Basic

/-! A map that evolves by numbered updates, each of which sets one key, and copies of it that are patched
in bulk. A patch that tells the new value of every key that was updated since, and of no other key a wrong
one, brings a copy from one number to the other, whatever it leaves out of the way there. -/
namespace NumberedUpdates
open Function

variable {Key Value : Type*} [DecidableEq Key]

/-- The values at number zero, and what each update after it sets. -/
structure Feed (Key Value : Type*) where
  start : Key → Value
  /-- The update that leads to the number after this one. -/
  update : ℕ → Key × Value

namespace Feed

variable (feed : Feed Key Value)

def valueAt : ℕ → Key → Value
  | 0 => feed.start
  | n + 1 => Function.update (valueAt n) (feed.update n).1 (feed.update n).2

variable {feed} {first last : ℕ} {key : Key}

theorem valueAt_of_untouched (ordered : first ≤ last)
    (untouched : ∀ n, first ≤ n → n < last → (feed.update n).1 ≠ key) :
    feed.valueAt last key = feed.valueAt first key := by
  induction last, ordered using Nat.le_induction with
  | base => rfl
  | succ last between ih =>
    have other := untouched last between (Nat.lt_succ_self last)
    rw [valueAt, Function.update_of_ne other.symm]
    exact ih fun n after before => untouched n after (Nat.lt_succ_of_lt before)

theorem valueAt_of_forall {holds : Value → Prop} (start : ∀ key, holds (feed.start key))
    (updates : ∀ n, holds (feed.update n).2) (n : ℕ) (key : Key) : holds (feed.valueAt n key) := by
  induction n with
  | zero => exact start key
  | succ n ih =>
    rw [valueAt]
    by_cases same : key = (feed.update n).1
    · rw [same, Function.update_self]
      exact updates n
    · rw [Function.update_of_ne same]
      exact ih

end Feed

def patched : (Key → Value) → List (Key × Value) → Key → Value
  | values, [] => values
  | values, change :: changes => patched (update values change.1 change.2) changes

variable {values target : Key → Value} {changes : List (Key × Value)}

theorem patched_eq (accurate : ∀ change ∈ changes, target change.1 = change.2)
    (covered : ∀ key, values key ≠ target key →
      key ∈ changes.map Prod.fst) : patched values changes = target := by
  induction changes generalizing values with
  | nil =>
    funext key
    by_contra differ
    exact List.not_mem_nil (covered key differ)
  | cons change _ ih =>
    refine ih (fun other member => accurate other (List.mem_cons_of_mem _ member)) fun key differ => ?_
    by_cases same : key = change.1
    · rw [same, update_self] at differ
      exact absurd (accurate change List.mem_cons_self).symm differ
    · rw [update_of_ne same] at differ
      exact (List.mem_cons.mp (covered key differ)).resolve_left same

theorem patched_valueAt {Part : Type*} [DecidableEq Part] {feed : Feed Key Value} (part : Part → Key)
    {first last : ℕ} (ordered : first ≤ last) {changes : List (Part × Value)}
    (accurate : ∀ change ∈ changes, feed.valueAt last (part change.1) = change.2)
    (covered : ∀ n, first ≤ n → n < last → ∀ key, (feed.update n).1 = part key →
      key ∈ changes.map Prod.fst) :
    patched (fun key => feed.valueAt first (part key)) changes =
      fun key => feed.valueAt last (part key) := by
  refine patched_eq accurate fun key differ => ?_
  by_contra untouched
  refine differ (Feed.valueAt_of_untouched ordered fun n after before same => untouched ?_).symm
  exact covered n after before key same

end NumberedUpdates
