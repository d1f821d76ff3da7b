import Mathlib.Data.List.Basic
import Mathlib.Data.List.Sort

/-! Logs that are only appended to. `Grows new before after` says that a log went
from `before` to `after` by appending rows that all satisfy `new`; a reader whose
filter rejects every such row does not see the difference. The last lemma is
about what such logs are read in: a strictly ordered list splits at any point
into the rows that come early and the rest. -/
namespace AppendOnly
open List

variable {Row : Type*} {new weaker : Row → Prop} {before middle after : List Row}

def Grows (new : Row → Prop) (before after : List Row) : Prop :=
  ∃ more, after = before ++ more ∧ ∀ row ∈ more, new row

theorem Grows.refl (new : Row → Prop) (log : List Row) : Grows new log log :=
  ⟨[], by simp, by simp⟩

theorem Grows.one {row : Row} (fresh : new row) (log : List Row) : Grows new log (log ++ [row]) :=
  ⟨[row], rfl, by simpa using fresh⟩

theorem Grows.trans (first : Grows new before middle) (second : Grows new middle after) :
    Grows new before after := by
  obtain ⟨more, rfl, fresh⟩ := first
  obtain ⟨rest, rfl, freshRest⟩ := second
  refine ⟨more ++ rest, append_assoc _ _ _, ?_⟩
  intro row member
  rcases mem_append.mp member with early | late
  · exact fresh row early
  · exact freshRest row late

theorem Grows.mono (grows : Grows new before after) (implies : ∀ row, new row → weaker row) :
    Grows weaker before after := by
  obtain ⟨more, same, fresh⟩ := grows
  exact ⟨more, same, fun row member => implies row (fresh row member)⟩

theorem Grows.mem (grows : Grows new before after) {row : Row} (member : row ∈ after) :
    row ∈ before ∨ new row := by
  obtain ⟨_, rfl, fresh⟩ := grows
  exact (mem_append.mp member).imp_right (fresh row)

theorem Grows.filter {reads : Row → Bool} (grows : Grows new before after)
    (unseen : ∀ row, new row → reads row = false) : after.filter reads = before.filter reads := by
  obtain ⟨more, rfl, fresh⟩ := grows
  have nothing : more.filter reads = [] := by
    rw [filter_eq_nil_iff]
    intro row member
    simp [unseen row (fresh row member)]
  rw [filter_append, nothing, append_nil]

section Inserts

variable [DecidableEq Row] {row other : Row} {rows : List Row}

/-- `INSERT ... ON CONFLICT DO NOTHING`, where the whole row is the key. -/
def insertNew (rows : List Row) (row : Row) : List Row := if row ∈ rows then rows else rows ++ [row]

def insertAll (rows : List Row) (inserted : List Row) : List Row := inserted.foldl insertNew rows

theorem insertNew_of_mem (present : row ∈ rows) : insertNew rows row = rows := if_pos present

theorem mem_insertNew : other ∈ insertNew rows row ↔ other ∈ rows ∨ other = row := by
  unfold insertNew
  split
  · rename_i present
    exact ⟨.inl, fun held => held.elim id fun same => same ▸ present⟩
  · rw [mem_append, mem_singleton]

theorem grows_insertNew (fresh : new row) : Grows new rows (insertNew rows row) := by
  unfold insertNew
  split
  · exact .refl new rows
  · exact .one fresh rows

theorem insertAll_of_subset {inserted : List Row} (present : ∀ row ∈ inserted, row ∈ rows) :
    insertAll rows inserted = rows := by
  induction inserted with
  | nil => rfl
  | cons row _ ih =>
    have here : insertNew rows row = rows := insertNew_of_mem (present row mem_cons_self)
    rw [insertAll, foldl_cons, here]
    exact ih fun other later => present other (mem_cons_of_mem _ later)

theorem mem_insertAll {inserted : List Row} :
    other ∈ insertAll rows inserted ↔ other ∈ rows ∨ other ∈ inserted := by
  induction inserted generalizing rows with
  | nil => simp [insertAll]
  | cons _ _ ih =>
    rw [insertAll, foldl_cons, ← insertAll, ih, mem_insertNew, mem_cons, or_assoc]

theorem grows_insertAll {inserted : List Row} (fresh : ∀ row ∈ inserted, new row) :
    Grows new rows (insertAll rows inserted) := by
  induction inserted generalizing rows with
  | nil => exact .refl new rows
  | cons row _ ih =>
    rw [insertAll, foldl_cons, ← insertAll]
    exact (grows_insertNew (fresh row mem_cons_self)).trans
      (ih fun other later => fresh other (mem_cons_of_mem _ later))

end Inserts

theorem split_ordered {less : Row → Row → Prop} {early : Row → Bool} {rows : List Row}
    (ordered : rows.Pairwise less)
    (closed : ∀ first second, less first second → early second → early first) :
    rows = rows.filter early ++ rows.filter fun row => !early row := by
  induction rows with
  | nil => rfl
  | cons row rows ih =>
    obtain ⟨first, rest⟩ := pairwise_cons.mp ordered
    by_cases now : early row
    · simpa [now] using ih rest
    · have none : rows.filter early = [] := by
        rw [filter_eq_nil_iff]
        intro later member
        exact fun passes => now (closed row later (first later member) passes)
      have split := ih rest
      rw [none, nil_append] at split
      simpa [now, none] using split

theorem same_early {less : Row → Row → Prop} [Std.Irrefl less] [Std.Antisymm less] {early : Row → Bool}
    {rows others : List Row} (ordered : rows.Pairwise less) (orderedOthers : others.Pairwise less)
    (same : ∀ row, early row → (row ∈ rows ↔ row ∈ others)) :
    rows.filter early = others.filter early := by
  refine (ordered.filter _).eq_of_mem_iff (orderedOthers.filter _) ?_
  intro row
  simp only [mem_filter]
  exact ⟨fun held => ⟨(same row held.2).mp held.1, held.2⟩,
    fun held => ⟨(same row held.2).mpr held.1, held.2⟩⟩

end AppendOnly
