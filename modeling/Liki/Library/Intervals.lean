import Mathlib.Data.List.Sort
import Mathlib.Order.Defs.LinearOrder

/-! Half-open intervals, with or without an end. Rows whose intervals follow one another in the order of
their starts are the rows of which no two have an instant in common. -/
namespace Intervals

@[ext] structure Interval (Time : Type*) [LT Time] where
  start : Time
  stop : Option Time
  proper : ∀ last ∈ stop, start < last

variable {Time : Type*} [LinearOrder Time]

namespace Interval

def Holds (interval : Interval Time) (instant : Time) : Prop :=
  interval.start ≤ instant ∧ ∀ last ∈ interval.stop, instant < last

def Follows (first second : Interval Time) : Prop := ∃ last ∈ first.stop, last ≤ second.start

def Meets (first second : Interval Time) : Prop := ∃ instant, first.Holds instant ∧ second.Holds instant

variable {first second third : Interval Time}

theorem holds_start (interval : Interval Time) : interval.Holds interval.start := ⟨le_rfl, interval.proper⟩

theorem Follows.trans (earlier : first.Follows second) (later : second.Follows third) :
    first.Follows third := by
  obtain ⟨last, ends, before⟩ := earlier
  obtain ⟨stop, closes, next⟩ := later
  exact ⟨last, ends, (before.trans (second.proper stop closes).le).trans next⟩

theorem Meets.symm (meets : first.Meets second) : second.Meets first :=
  meets.imp fun _ both => ⟨both.2, both.1⟩

theorem Follows.not_meets (follows : first.Follows second) : ¬first.Meets second := by
  rintro ⟨_, ⟨-, early⟩, late, -⟩
  obtain ⟨last, ends, before⟩ := follows
  exact absurd (early last ends) (not_lt.mpr (before.trans late))

/-- Of two intervals that have nothing in common, the one that starts first is followed by the other. -/
theorem follows_of_not_meets (ordered : first.start ≤ second.start) (apart : ¬first.Meets second) :
    first.Follows second := by
  by_contra never
  refine apart ⟨second.start, ⟨ordered, fun last ends => ?_⟩, second.holds_start⟩
  exact not_le.mp fun before => never ⟨last, ends, before⟩

end Interval

section Rows

variable {Row : Type*} (interval : Row → Interval Time)

def StartsBefore (first second : Row) : Prop := (interval first).start ≤ (interval second).start

/-- The rows have no instant in common. -/
def Apart (first second : Row) : Prop := ¬(interval first).Meets (interval second)

variable {interval} {rows : List Row}

theorem apart_symm : Std.Symm (Apart interval) := ⟨fun _ _ apart meets => apart meets.symm⟩

instance startsBefore_decidable : DecidableRel (StartsBefore interval) := fun first second =>
  inferInstanceAs (Decidable ((interval first).start ≤ (interval second).start))

instance startsBefore_total : Std.Total (StartsBefore interval) := ⟨fun _ _ => le_total _ _⟩

instance startsBefore_trans : IsTrans Row (StartsBefore interval) := ⟨fun _ _ _ => le_trans⟩

theorem isChain_iff_apart (ordered : rows.Pairwise (StartsBefore interval)) :
    rows.IsChain (fun first second => (interval first).Follows (interval second)) ↔
      rows.Pairwise (Apart interval) := by
  have trans : IsTrans Row (fun first second => (interval first).Follows (interval second)) :=
    ⟨fun _ _ _ => Interval.Follows.trans⟩
  rw [List.isChain_iff_pairwise]
  constructor
  · exact fun following => following.imp fun follows => follows.not_meets
  · intro apart
    exact (ordered.and apart).imp fun both => Interval.follows_of_not_meets both.1 both.2

/-- So rows pass the check in their order exactly when no two of them overlap. -/
theorem sorted_isChain_iff :
    (rows.insertionSort (StartsBefore interval)).IsChain
        (fun first second => (interval first).Follows (interval second)) ↔
      rows.Pairwise (Apart interval) := by
  rw [isChain_iff_apart (List.pairwise_insertionSort _ rows)]
  exact (List.perm_insertionSort _ rows).pairwise_iff (fun apart => apart_symm.symm _ _ apart)

end Rows

end Intervals
