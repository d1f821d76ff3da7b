import Mathlib.Algebra.BigOperators.Group.List.Basic
import Mathlib.Data.List.Forall2
import Mathlib.Data.List.Nodup
import Mathlib.Tactic.Abel

/-! Tables as lists of rows with a key column. `find` is a lookup by primary
key, `update` an `UPDATE ... WHERE key = k`; insertion is `++ [row]`. With
distinct keys an update reaches exactly one row, so lookups and column totals
after it are those before it with that one row exchanged. -/
namespace KeyedRows
open List

variable {Row Key : Type*} [DecidableEq Key] (key : Row → Key)

def find (k : Key) (rows : List Row) : Option Row := rows.find? fun row => key row = k

def update (k : Key) (change : Row → Row) (rows : List Row) : List Row :=
  rows.map fun row => if key row = k then change row else row

def Distinct (rows : List Row) : Prop := (rows.map key).Nodup

variable {key} {k other : Key} {change : Row → Row} {row : Row} {rows : List Row}

theorem mem_added {new : Row} (member : row ∈ rows ++ [new]) : row ∈ rows ∨ row = new :=
  (mem_append.mp member).imp_right mem_singleton.mp

theorem find_mem (found : find key k rows = some row) : row ∈ rows :=
  mem_of_find?_eq_some found

theorem find_key (found : find key k rows = some row) : key row = k := by
  simpa using find?_some found

theorem find_none : find key k rows = none ↔ ∀ row ∈ rows, key row ≠ k := by
  simp [find]

@[simp] theorem find_nil : find key k [] = none := rfl

theorem find_append (more : List Row) :
    find key k (rows ++ more) = (find key k rows).or (find key k more) :=
  find?_append

theorem find_append_some {found : Row} (held : find key k rows = some found) (more : List Row) :
    find key k (rows ++ more) = some found := by
  rw [find_append, held, Option.some_or]

theorem find_insert (row : Row) :
    find key k (rows ++ [row]) = (find key k rows).or (if key row = k then some row else none) := by
  rw [find_append]
  by_cases same : key row = k <;> simp [find, same]

theorem find_insert_new (absent : find key k rows = none) (named : key row = k) :
    find key k (rows ++ [row]) = some row := by
  rw [find_insert, absent, if_pos named, Option.none_or]

theorem find_insert_absent (absent : find key (key row) rows = none) :
    find key k (rows ++ [row]) = if k = key row then some row else find key k rows := by
  rw [find_insert]
  by_cases same : k = key row
  · rw [same, absent, if_pos rfl, Option.none_or]
  · rw [if_neg same, if_neg (Ne.symm same), Option.or_none]

theorem find_map (kept : ∀ row, key (change row) = key row) :
    find key k (rows.map change) = (find key k rows).map change := by
  induction rows with
  | nil => rfl
  | cons head _ ih =>
    by_cases same : key head = k
    · simp [find, same, kept]
    · simpa [find, same, kept] using ih

theorem find_of_mem (distinct : Distinct key rows) (member : row ∈ rows) :
    find key (key row) rows = some row := by
  induction rows with
  | nil => cases member
  | cons head _ ih =>
    obtain ⟨fresh, rest⟩ := nodup_cons.mp distinct
    rcases mem_cons.mp member with rfl | member
    · simp [find]
    · have differ : key head ≠ key row := fun same =>
        fresh (same ▸ mem_map_of_mem member)
      simpa [find, find?_cons, differ] using ih rest member

/-- With distinct keys the order of the rows makes no difference to a lookup. -/
theorem find_perm {others : List Row} (perm : rows.Perm others) (distinct : Distinct key rows) :
    find key k rows = find key k others := by
  have otherDistinct : Distinct key others := (perm.map key).nodup_iff.mp distinct
  cases found : find key k others with
  | none => exact find_none.mpr fun row member => find_none.mp found row (perm.mem_iff.mp member)
  | some =>
    rw [← find_key found]
    exact find_of_mem distinct (perm.mem_iff.mpr (find_mem found))

theorem filter_of_mem (distinct : Distinct key rows) (member : row ∈ rows) :
    rows.filter (fun other => key other = key row) = [row] := by
  induction rows with
  | nil => cases member
  | cons head rows ih =>
    obtain ⟨fresh, rest⟩ := nodup_cons.mp distinct
    rcases mem_cons.mp member with rfl | member
    · have others : rows.filter (fun other => key other = key row) = [] := by
        rw [filter_eq_nil_iff]
        intro other held same
        exact fresh (of_decide_eq_true same ▸ mem_map_of_mem held)
      simp [others]
    · have differ : key head ≠ key row := fun same => fresh (same ▸ mem_map_of_mem member)
      simpa [differ] using ih rest member

theorem countP_key_le_one (distinct : Distinct key rows) (k : Key) :
    rows.countP (fun row => decide (key row = k)) ≤ 1 := by
  have once := nodup_iff_count_le_one.mp distinct k
  rw [count_eq_countP, countP_map] at once
  exact (countP_congr fun row _ => by simp).trans_le once

theorem mem_update (member : row ∈ update key k change rows) :
    (∃ old ∈ rows, key old = k ∧ row = change old) ∨ (row ∈ rows ∧ key row ≠ k) := by
  obtain ⟨old, held, rfl⟩ := mem_map.mp member
  by_cases same : key old = k
  · exact .inl ⟨old, held, same, by simp [same]⟩
  · exact .inr (by simpa [same] using held)

theorem mem_update_of_mem (member : row ∈ rows) (differ : key row ≠ k) :
    row ∈ update key k change rows :=
  mem_map.mpr ⟨row, member, by simp [differ]⟩

theorem map_update {Value : Type*} (column : Row → Value)
    (kept : ∀ row, key row = k → column (change row) = column row) :
    (update key k change rows).map column = rows.map column := by
  simp only [update, map_map]
  refine map_congr_left fun row _ => ?_
  by_cases same : key row = k <;> simp [same, kept]

theorem mem_update_column {Value : Type*} {column : Row → Value}
    (same : ∀ row, column (change row) = column row) (member : row ∈ update key k change rows) :
    ∃ old ∈ rows, column row = column old := by
  have value : column row ∈ (update key k change rows).map column := mem_map_of_mem member
  rw [map_update column fun row _ => same row] at value
  obtain ⟨old, held, equal⟩ := mem_map.mp value
  exact ⟨old, held, equal.symm⟩

theorem distinct_update (kept : ∀ row, key row = k → key (change row) = k)
    (distinct : Distinct key rows) : Distinct key (update key k change rows) := by
  rwa [Distinct, map_update key fun row same => (kept row same).trans same.symm]

theorem distinct_insert (distinct : Distinct key rows) (fresh : find key (key row) rows = none) :
    Distinct key (rows ++ [row]) := by
  have absent := find_none.mp fresh
  rw [Distinct, map_append, nodup_append]
  refine ⟨distinct, by simp, ?_⟩
  intro a held b only
  obtain ⟨old, member, rfl⟩ := mem_map.mp held
  simp only [map_cons, map_nil, mem_singleton] at only
  exact only ▸ absent old member

theorem find_update_self (kept : ∀ row, key row = k → key (change row) = k) :
    find key k (update key k change rows) = (find key k rows).map change := by
  induction rows with
  | nil => rfl
  | cons head _ ih =>
    by_cases same : key head = k
    · simp [find, update, same, kept]
    · simpa [find, update, same] using ih

theorem find_update_other (kept : ∀ row, key row = k → key (change row) = k) (differ : other ≠ k) :
    find key other (update key k change rows) = find key other rows := by
  induction rows with
  | nil => rfl
  | cons head rows ih =>
    have rest : find key other (rows.map fun row => if key row = k then change row else row) =
        find key other rows := ih
    by_cases same : key head = k
    · have apart : key head ≠ other := fun hit => differ (hit.symm.trans same)
      simpa [find, update, same, kept, differ.symm] using rest
    · by_cases hit : key head = other
      · simp [find, update, hit, differ]
      · simpa [find, update, same, hit] using rest

theorem mem_update_of_find (distinct : Distinct key rows) (found : find key k rows = some row)
    {other : Row} (member : other ∈ update key k change rows) :
    other = change row ∨ (other ∈ rows ∧ key other ≠ k) := by
  rcases mem_update member with ⟨_, held, same, rfl⟩ | kept
  · have again := find_of_mem distinct held
    rw [same, found] at again
    cases again
    exact .inl rfl
  · exact .inr kept

theorem find_update_by {Column : Type*} [DecidableEq Column] {column : Row → Column} (value : Column)
    (kept : ∀ row, column (change row) = column row) :
    find column value (update key k change rows) =
      (find column value rows).map fun row => if key row = k then change row else row := by
  induction rows with
  | nil => rfl
  | cons head rows ih =>
    have rest : find column value (rows.map fun row => if key row = k then change row else row) =
        (find column value rows).map fun row => if key row = k then change row else row := ih
    by_cases same : key head = k <;> by_cases hit : column head = value <;>
      simp [find, update, same, hit, kept] <;> simpa [find] using rest

theorem find_update_some {Column : Type*} [DecidableEq Column] {column : Row → Column}
    {value : Column} (kept : ∀ row, column (change row) = column row)
    (found : find column value rows = some row) :
    find column value (update key k change rows) = some (if key row = k then change row else row) := by
  rw [find_update_by value kept, found, Option.map_some]

theorem find_update (kept : ∀ row, key row = k → key (change row) = k) :
    find key other (update key k change rows) =
      (find key other rows).map fun row => if key row = k then change row else row := by
  by_cases same : other = k
  · rw [same, find_update_self kept]
    refine Option.map_congr fun row found => ?_
    rw [if_pos (find_key found)]
  · rw [find_update_other kept same]
    cases found : find key other rows with
    | none => rfl
    | some => rw [Option.map_some, if_neg fun hit => same ((find_key found).symm.trans hit)]

theorem find_update_eq_none (kept : ∀ row, key row = k → key (change row) = k) :
    find key other (update key k change rows) = none ↔ find key other rows = none := by
  rw [find_update kept, Option.map_eq_none_iff]

theorem update_of_none (absent : find key k rows = none) : update key k change rows = rows := by
  have none := find_none.mp absent
  rw [update]
  conv_rhs => rw [← map_id rows]
  exact map_congr_left fun row member => by simp [none row member]

@[simp] theorem update_id : update key k id rows = rows := by
  simp [update]

theorem update_in_place (change : Row → Row) (distinct : Distinct key rows) (found : find key k rows = some row) :
    ∃ before after, rows = before ++ row :: after ∧ update key k change rows = before ++ change row :: after := by
  induction rows with
  | nil => cases found
  | cons head rows ih =>
    obtain ⟨fresh, rest⟩ := nodup_cons.mp distinct
    by_cases same : key head = k
    · have only : head = row := by simpa [find, same] using found
      have untouched : update key k change rows = rows := by
        refine update_of_none (find_none.mpr fun old member clash => fresh ?_)
        exact same.trans clash.symm ▸ mem_map_of_mem member
      subst only
      have reached : update key k change (head :: rows) = change head :: update key k change rows := by
        simp only [update, map_cons, same, ↓reduceIte]
      exact ⟨[], rows, rfl, reached.trans (by rw [untouched]; rfl)⟩
    · have later : find key k rows = some row := by simpa [find, same] using found
      obtain ⟨before, after, whole, updated⟩ := ih rest later
      have passed : update key k change (head :: rows) = head :: update key k change rows := by
        simp only [update, map_cons, same, ↓reduceIte]
      exact ⟨head :: before, after, by rw [whole]; rfl, passed.trans (by rw [updated]; rfl)⟩

theorem countP_update (counts : Row → Bool) (distinct : Distinct key rows) (found : find key k rows = some row) :
    (update key k change rows).countP counts + (if counts row then 1 else 0) =
      rows.countP counts + if counts (change row) then 1 else 0 := by
  obtain ⟨_, _, whole, updated⟩ := update_in_place change distinct found
  rw [updated, whole]
  simp only [countP_append, countP_cons]
  omega

/-- `INSERT ... ON CONFLICT (key) DO UPDATE`: the row replaces the one with its
key, or is added. -/
def upsert (key : Row → Key) (row : Row) (rows : List Row) : List Row :=
  if (find key (key row) rows).isSome then update key (key row) (fun _ => row) rows else rows ++ [row]

theorem find_upsert (row : Row) :
    find key k (upsert key row rows) = if key row = k then some row else find key k rows := by
  unfold upsert
  cases present : find key (key row) rows with
  | none =>
    simp only [Option.isSome_none, Bool.false_eq_true, ↓reduceIte, find_insert]
    by_cases same : key row = k
    · subst same
      simp [present]
    · simp [same]
  | some =>
    simp only [Option.isSome_some, ↓reduceIte]
    by_cases same : key row = k
    · subst same
      rw [find_update_self fun _ _ => rfl, present]
      simp
    · rw [find_update_other (fun _ _ => rfl) (Ne.symm same)]
      simp [same]

theorem mem_upsert {other : Row} (member : other ∈ upsert key row rows) :
    other = row ∨ other ∈ rows := by
  unfold upsert at member
  split at member
  · rcases mem_update member with ⟨_, -, -, rfl⟩ | ⟨older, -⟩
    · exact .inl rfl
    · exact .inr older
  · rcases mem_added member with older | newest
    · exact .inr older
    · exact .inl newest

theorem filter_upsert {selects : Row → Bool} (row : Row)
    (hidden : ∀ other, key other = key row → selects other = false) :
    (upsert key row rows).filter selects = rows.filter selects := by
  unfold upsert
  split
  · rw [update, filter_map, filter_congr (q := selects) ?_, map_congr_left (g := id) ?_,
      map_id]
    · intro other member
      rw [if_neg fun same => ?_]
      · rfl
      · have selected := (mem_filter.mp member).2
        rw [hidden other same] at selected
        cases selected
    · intro other member
      by_cases same : key other = key row
      · simp [same, hidden row rfl, hidden other same]
      · simp [same]
  · rw [filter_append, filter_singleton, hidden row rfl]
    simp

theorem distinct_upsert (distinct : Distinct key rows) (row : Row) :
    Distinct key (upsert key row rows) := by
  unfold upsert
  cases present : find key (key row) rows with
  | none => exact distinct_insert distinct present
  | some => exact distinct_update (fun _ _ => rfl) distinct

/-- `DELETE ... WHERE key = k`. -/
def remove (key : Row → Key) (k : Key) (rows : List Row) : List Row := rows.filter fun row => key row ≠ k

theorem find_remove : find key other (remove key k rows) = if k = other then none else find key other rows := by
  by_cases same : k = other
  · rw [if_pos same]
    refine find_none.mpr fun row member => ?_
    exact same ▸ of_decide_eq_true (mem_filter.mp member).2
  · rw [if_neg same, remove, find, find?_filter]
    refine congrArg (find? · rows) (funext fun row => ?_)
    by_cases found : key row = other
    · simp [found, Ne.symm same]
    · simp [found]

theorem distinct_remove (distinct : Distinct key rows) (k : Key) : Distinct key (remove key k rows) :=
  distinct.sublist (filter_sublist.map key)

theorem filter_map_update {Value : Type*} (selects : Row → Bool) (column : Row → Value)
    (kept : ∀ row, key row = k → selects (change row) = selects row ∧ column (change row) = column row) :
    ((update key k change rows).filter selects).map column = (rows.filter selects).map column := by
  induction rows with
  | nil => rfl
  | cons row rows ih =>
    have rest : ((rows.map fun row => if key row = k then change row else row).filter selects).map
        column = (rows.filter selects).map column := ih
    by_cases same : key row = k
    · obtain ⟨selected, value⟩ := kept row same
      by_cases chosen : selects row
      · simp [update, same, selected, chosen, value, rest]
      · simp [update, same, selected, chosen, rest]
    · by_cases chosen : selects row
      · simp [update, same, chosen, rest]
      · simp [update, same, chosen, rest]

theorem find_none_of_covered {Other : Type*} {otherKey : Other → Key} {others : List Other}
    (distinct : Distinct key rows) (covered : ∀ row ∈ rows, key row ∈ others.map otherKey)
    (size : others.length ≤ rows.length) (absent : find key k rows = none) :
    find otherKey k others = none := by
  have contained : (rows.map key).Subperm (others.map otherKey) := by
    refine subperm_of_subset distinct fun value member => ?_
    obtain ⟨row, held, rfl⟩ := mem_map.mp member
    exact covered row held
  have perm : (rows.map key).Perm (others.map otherKey) :=
    contained.perm_of_length_le (by simpa using size)
  refine find_none.mpr fun other held named => ?_
  have member : k ∈ rows.map key := perm.mem_iff.mpr (named ▸ mem_map_of_mem held)
  obtain ⟨row, here, same⟩ := mem_map.mp member
  exact find_none.mp absent row here same

/-! Two tables whose rows are related one by one, under the same keys. -/
section Related

variable {Other : Type*} {otherKey : Other → Key} {related : Row → Other → Prop} {others : List Other}
  {changeOther : Other → Other}

theorem find_related (same : ∀ row other, related row other → key row = otherKey other)
    (tables : List.Forall₂ related rows others) (k : Key) :
    Option.Rel related (find key k rows) (find otherKey k others) := by
  induction tables with
  | nil => exact .none
  | cons pair rest ih =>
    rename_i row other rows others
    have carried := same row other pair
    by_cases hit : key row = k
    · simpa [find, hit, ← carried] using Option.Rel.some pair
    · simpa [find, hit, ← carried] using ih

theorem find_some_related (same : ∀ row other, related row other → key row = otherKey other)
    (tables : List.Forall₂ related rows others) {row : Row} (found : find key k rows = some row) :
    ∃ other, find otherKey k others = some other ∧ related row other := by
  have pairs := find_related same tables k
  rw [found] at pairs
  cases result : find otherKey k others with
  | none =>
    rw [result] at pairs
    cases pairs
  | some other =>
    rw [result] at pairs
    cases pairs with
    | some pair => exact ⟨other, rfl, pair⟩

theorem find_none_related (same : ∀ row other, related row other → key row = otherKey other)
    (tables : List.Forall₂ related rows others) (absent : find key k rows = none) :
    find otherKey k others = none := by
  have pairs := find_related same tables k
  rw [absent] at pairs
  cases result : find otherKey k others with
  | none => rfl
  | some =>
    rw [result] at pairs
    cases pairs

theorem update_related (same : ∀ row other, related row other → key row = otherKey other)
    (tables : List.Forall₂ related rows others)
    (changed : ∀ row ∈ rows, ∀ other, related row other → key row = k →
      related (change row) (changeOther other)) :
    List.Forall₂ related (update key k change rows) (update otherKey k changeOther others) := by
  induction tables with
  | nil => exact .nil
  | cons pair rest ih =>
    rename_i row other rows others
    refine .cons ?_ (ih fun row member => changed row (mem_cons_of_mem _ member))
    by_cases hit : key row = k
    · simpa [hit, ← same row other pair] using changed row mem_cons_self other pair hit
    · simpa [hit, ← same row other pair] using pair

theorem insert_related {row : Row} {other : Other} (tables : List.Forall₂ related rows others)
    (pair : related row other) : List.Forall₂ related (rows ++ [row]) (others ++ [other]) :=
  rel_append tables (.cons pair .nil)

theorem upsert_related {row : Row} {other : Other}
    (same : ∀ row other, related row other → key row = otherKey other)
    (tables : List.Forall₂ related rows others) (pair : related row other) :
    List.Forall₂ related (upsert key row rows) (upsert otherKey other others) := by
  unfold upsert
  rw [← same row other pair]
  cases present : find key (key row) rows with
  | none =>
    rw [find_none_related same tables present]
    exact insert_related tables pair
  | some =>
    obtain ⟨_, found, -⟩ := find_some_related same tables present
    rw [found]
    exact update_related same tables fun _ _ _ _ _ => pair

theorem filter_map_related {Value : Type*} {selects : Row → Bool} {selectsOther : Other → Bool}
    {column : Row → Value} {columnOther : Other → Value}
    (agree : ∀ row other, related row other →
      selects row = selectsOther other ∧ column row = columnOther other)
    (tables : List.Forall₂ related rows others) :
    (rows.filter selects).map column = (others.filter selectsOther).map columnOther := by
  induction tables with
  | nil => rfl
  | cons pair rest ih =>
    rename_i row other rows others
    obtain ⟨selected, value⟩ := agree row other pair
    by_cases chosen : selects row
    · simp [chosen, ← selected, value, ih]
    · simp [chosen, ← selected, ih]

end Related

section Totals

variable {Amount : Type*} [AddCommGroup Amount]

def total (amount : Row → Amount) (rows : List Row) : Amount := (rows.map amount).sum

@[simp] theorem total_nil (amount : Row → Amount) : total amount ([] : List Row) = 0 := rfl

theorem total_insert (amount : Row → Amount) (row : Row) :
    total amount (rows ++ [row]) = total amount rows + amount row := by
  simp [total]

theorem total_eq_zero {amount : Row → Amount} (nothing : ∀ row ∈ rows, amount row = 0) :
    total amount rows = 0 := by
  induction rows with
  | nil => rfl
  | cons row _ ih =>
    have rest := ih fun other member => nothing other (mem_cons_of_mem _ member)
    simp only [total, map_cons, sum_cons] at rest ⊢
    rw [rest, nothing row mem_cons_self, add_zero]

theorem total_update (amount : Row → Amount) (distinct : Distinct key rows)
    (found : find key k rows = some row) :
    total amount (update key k change rows) = total amount rows - amount row + amount (change row) := by
  obtain ⟨_, _, whole, updated⟩ := update_in_place change distinct found
  rw [updated, whole]
  simp only [total, map_append, map_cons, sum_append, sum_cons]
  abel

end Totals

end KeyedRows
