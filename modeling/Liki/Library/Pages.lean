import Mathlib.Data.List.Sort

/-! The first rows of an ordered table, and the rows that come after them. A page that is cut before
its rows are sifted shows what it should only if nothing that is sifted out stands before something
that is not shown. -/
namespace Pages
open List

variable {Row : Type*} (before : Row → Row → Prop) [DecidableRel before]

/-- The first rows, where rows that come equal stay in the order of the table. -/
def page (size : ℕ) (rows : List Row) : List Row := (rows.insertionSort before).take size

/-- The rows that do not come on the page. -/
def beyond (size : ℕ) (rows : List Row) : List Row := (rows.insertionSort before).drop size

variable {before} {size : ℕ} {rows : List Row} {row : Row} {keeps : Row → Bool}

/-- Sifting an ordered table and putting a row in its place go together. -/
theorem filter_orderedInsert [IsTrans Row before] (ordered : rows.Pairwise before) :
    (rows.orderedInsert before row).filter keeps =
      if keeps row then (rows.filter keeps).orderedInsert before row else rows.filter keeps := by
  induction rows with
  | nil => cases kept : keeps row <;> simp [kept]
  | cons first rest ih =>
    obtain ⟨below, tail⟩ := pairwise_cons.mp ordered
    by_cases here : before row first
    · -- every row that is kept comes after the new one
      have after : ∀ other ∈ (first :: rest).filter keeps, before row other := by
        intro other member
        rcases mem_cons.mp (mem_of_mem_filter member) with rfl | later
        · exact here
        · exact IsTrans.trans row first other here (below other later)
      have placed : ((first :: rest).filter keeps).orderedInsert before row =
          row :: (first :: rest).filter keeps := by
        cases listed : (first :: rest).filter keeps with
        | nil => rfl
        | cons other others =>
          refine orderedInsert_cons_of_le before others (after other ?_)
          rw [listed]
          exact mem_cons_self
      rw [orderedInsert_cons_of_le before rest here, placed, filter_cons]
    · rw [orderedInsert_of_not_le before rest here, filter_cons, ih tail, filter_cons]
      cases first_kept : keeps first <;> cases row_kept : keeps row <;>
        simp [orderedInsert_of_not_le before _ here]

theorem filter_insertionSort [Std.Total before] [IsTrans Row before] :
    (rows.filter keeps).insertionSort before = (rows.insertionSort before).filter keeps := by
  induction rows with
  | nil => rfl
  | cons _ rest ih =>
    rw [insertionSort_cons, filter_orderedInsert (pairwise_insertionSort before rest), ← ih,
      filter_cons]
    split
    · rw [insertionSort_cons]
    · rfl

/-- Cutting before sifting is as good as sifting first exactly when everything on the page is kept or
nothing beyond it is. -/
theorem filter_take_iff : (rows.take size).filter keeps = (rows.filter keeps).take size ↔
    (∀ row ∈ rows.take size, keeps row) ∨ ∀ row ∈ rows.drop size, ¬keeps row := by
  have whole : rows.filter keeps = (rows.take size).filter keeps ++ (rows.drop size).filter keeps := by
    rw [← filter_append, take_append_drop]
  constructor
  · intro same
    by_cases all : ∀ row ∈ rows.take size, keeps row
    · exact .inl all
    · -- the page has room for what is kept beyond it
      have short : ((rows.take size).filter keeps).length < size := by
        refine lt_of_lt_of_le ?_ (length_take_le size rows)
        exact lt_of_le_of_ne (length_filter_le _ _) fun full =>
          all (length_filter_eq_length_iff.mp full)
      have counted := congrArg length same
      rw [whole, length_take, length_append] at counted
      have nothing : (rows.drop size).filter keeps = [] := by
        apply eq_nil_of_length_eq_zero
        omega
      exact .inr (filter_eq_nil_iff.mp nothing)
  · rintro (all | nothing)
    · rw [whole, filter_eq_self.mpr all]
      rcases le_total rows.length size with short | long
      · rw [drop_eq_nil_of_le short, filter_nil, append_nil, take_take, min_self]
      · rw [take_append_of_le_length (by rw [length_take, min_eq_left long]), take_take,
          min_self]
    · have few : ((rows.take size).filter keeps).length ≤ size :=
        (length_filter_le _ _).trans (length_take_le size rows)
      rw [whole, filter_eq_nil_iff.mpr nothing, append_nil, take_of_length_le few]

/-- The page of a table that was sifted after it was cut. -/
theorem filter_page_iff [Std.Total before] [IsTrans Row before] :
    (page before size rows).filter keeps = page before size (rows.filter keeps) ↔
      (∀ row ∈ page before size rows, keeps row) ∨ ∀ row ∈ beyond before size rows, ¬keeps row := by
  rw [page, page, beyond, filter_insertionSort]
  exact filter_take_iff

/-- What is sifted out makes room: the rows of the page that are kept stay on it. -/
theorem mem_page_filter [Std.Total before] [IsTrans Row before] (member : row ∈ page before size rows)
    (kept : keeps row) : row ∈ page before size (rows.filter keeps) := by
  rw [page, filter_insertionSort, ← take_append_drop size (rows.insertionSort before),
    filter_append, take_append]
  refine mem_append_left _ ?_
  rw [take_of_length_le ((length_filter_le _ _).trans (length_take_le _ _))]
  exact mem_filter.mpr ⟨member, kept⟩

end Pages
