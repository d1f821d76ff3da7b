import Liki.Library.KeyedRows
import Mathlib.Algebra.Order.Group.Defs
import Mathlib.Algebra.Order.BigOperators.Group.List
import Mathlib.Data.List.Induction
import Mathlib.Data.List.Perm.Subperm

/-! Forests in the order in which they grew: rows that name their parent, which comes before
them. Every row has a weight, and no row is lighter than its children together. The law is that
rows none of which is an ancestor of another are not heavier than the roots together. It is
shown by a frontier that starts with the roots: whatever is not chosen gives way to its children,
row after row, and what is chosen stays. -/
namespace Forest
open List KeyedRows

variable {Row Key Amount : Type*}

section Growth

variable (key : Row → Key) (parent : Row → Option Key)

/-- Parents come before their children. -/
def Grown (rows : List Row) : Prop :=
  ∀ before row after, rows = before ++ row :: after → ∀ k ∈ parent row, ∃ other ∈ before, key other = k

inductive Ancestor (rows : List Row) : Key → Row → Prop
  | parent {row : Row} {k : Key} (named : parent row = some k) : Ancestor rows k row
  | above {row other : Row} {k : Key} (member : other ∈ rows) (named : parent row = some (key other))
      (further : Ancestor rows k other) : Ancestor rows k row

def Apart (rows chosen : List Row) : Prop :=
  ∀ first ∈ chosen, ∀ second ∈ chosen, ¬Ancestor key parent rows (key first) second

def roots (rows : List Row) : List Row := rows.filter fun row => (parent row).isNone

variable {key parent} {rows : List Row} {row : Row}

theorem grown_nil : Grown key parent ([] : List Row) := by
  intro before row after whole
  simp at whole

theorem Grown.append (grown : Grown key parent rows)
    (present : ∀ k ∈ parent row, ∃ other ∈ rows, key other = k) :
    Grown key parent (rows ++ [row]) := by
  intro before other after whole k named
  rcases eq_nil_or_concat after with rfl | ⟨more, _, rfl⟩
  · obtain ⟨rfl, same⟩ := append_inj' whole rfl
    cases same
    exact present k named
  · rw [concat_eq_append, ← cons_append, ← append_assoc] at whole
    obtain ⟨same, -⟩ := append_inj' whole rfl
    exact grown before other more same k named

theorem Grown.map {change : Row → Row} (grown : Grown key parent rows)
    (keys : ∀ row, key (change row) = key row)
    (parents : ∀ row, parent (change row) = parent row) : Grown key parent (rows.map change) := by
  intro before row after whole k named
  obtain ⟨left, _, rfl, rfl, rest⟩ := map_eq_append_iff.mp whole
  obtain ⟨old, more, rfl, rfl, rfl⟩ := map_eq_cons_iff.mp rest
  rw [parents] at named
  obtain ⟨other, member, same⟩ := grown left old more rfl k named
  exact ⟨change other, mem_map_of_mem member, (keys other).trans same⟩

theorem Grown.filter {chosen : Row → Prop} [DecidablePred chosen] (grown : Grown key parent rows)
    (together : ∀ row ∈ rows, ∀ other ∈ rows, parent row = some (key other) → chosen row → chosen other) :
    Grown key parent (rows.filter chosen) := by
  intro before row after whole k named
  obtain ⟨left, _, rfl, rfl, rest⟩ := filter_eq_append_iff.mp whole
  obtain ⟨skipped, more, rfl, none, keeps, rfl⟩ := filter_eq_cons_iff.mp rest
  obtain ⟨other, member, rfl⟩ := grown (left ++ skipped) row more (by simp) k named
  have held : other ∈ left ++ (skipped ++ row :: more) := by
    rcases mem_append.mp member with first | second
    · exact mem_append_left _ first
    · exact mem_append_right _ (mem_append_left _ second)
  have kept : chosen other := together row (by simp) other held named (of_decide_eq_true keeps)
  rcases mem_append.mp member with first | second
  · exact ⟨other, mem_filter.mpr ⟨first, decide_eq_true kept⟩, rfl⟩
  · exact absurd (decide_eq_true kept) (none other second)

theorem Ancestor.mono {more : List Row} {k : Key} (above : Ancestor key parent rows k row)
    (included : rows ⊆ more) :
    Ancestor key parent more k row := by
  induction above with
  | parent named => exact .parent named
  | above member named _ ih => exact .above (included member) named ih

theorem Grown.parent_mem (grown : Grown key parent rows) (member : row ∈ rows) {k : Key}
    (named : parent row = some k) :
    ∃ other ∈ rows, key other = k := by
  obtain ⟨before, after, rfl⟩ := append_of_mem member
  obtain ⟨other, earlier, same⟩ := grown before row after rfl k named
  exact ⟨other, mem_append_left _ earlier, same⟩

end Growth

variable [DecidableEq Key] (key : Row → Key) (parent : Row → Option Key)

def children (k : Key) (rows : List Row) : List Row := rows.filter fun row => parent row = some k

variable {key parent} {rows chosen done todo frontier : List Row} {row : Row} {k : Key}

section Frontier

variable [DecidableEq Row]

def expand (key : Row → Key) (parent : Row → Option Key) (rows chosen frontier : List Row)
    (row : Row) : List Row :=
  if row ∈ frontier ∧ row ∉ chosen then frontier.erase row ++ children parent (key row) rows else frontier

def frontierAfter (key : Row → Key) (parent : Row → Option Key) (rows chosen done : List Row) : List Row :=
  done.foldl (expand key parent rows chosen) (roots parent rows)

def Waits (key : Row → Key) (parent : Row → Option Key) (rows chosen done todo : List Row) : Prop :=
  ∀ row ∈ rows, (∀ k ∈ parent row, ∃ other ∈ done, key other = k) →
    (∀ top ∈ chosen, ¬Ancestor key parent rows (key top) row) → row ∈ todo ∨ row ∈ chosen →
      row ∈ frontierAfter key parent rows chosen done

theorem mem_expand_of_mem {other : Row} (member : other ∈ frontier)
    (differ : other ≠ row ∨ other ∈ chosen) :
    other ∈ expand key parent rows chosen frontier row := by
  unfold expand
  split
  · rename_i expands
    have apart : other ≠ row := by
      rcases differ with apart | kept
      · exact apart
      · exact fun same => expands.2 (same ▸ kept)
    exact mem_append_left _ ((mem_erase_of_ne apart).mpr member)
  · exact member

/-- Expanding the next row keeps the frontier complete. -/
theorem Waits.step (waits : Waits key parent rows chosen done (row :: todo)) (nodup : rows.Nodup)
    (whole : rows = done ++ row :: todo) (grown : Grown key parent rows) :
    Waits key parent rows chosen (done ++ [row]) todo := by
  intro other member known free remains
  rw [frontierAfter, foldl_append, foldl_cons, foldl_nil, ← frontierAfter]
  have own : row ∈ rows := whole ▸ mem_append_right _ mem_cons_self
  have behind : ∀ k ∈ parent row, ∃ other ∈ done, key other = k := grown done row todo whole
  by_cases child : parent other = some (key row)
  · -- the row is above the other one, so it is not chosen and gives way to it
    have unchosen : row ∉ chosen := fun chosenRow => free row chosenRow (.parent child)
    have clear : ∀ top ∈ chosen, ¬Ancestor key parent rows (key top) row := fun top member above =>
      free top member (.above own child above)
    have present := waits row own behind clear (.inl mem_cons_self)
    rw [expand, if_pos ⟨present, unchosen⟩]
    exact mem_append_right _ (mem_filter.mpr ⟨member, by simpa using child⟩)
  · have earlier : ∀ k ∈ parent other, ∃ found ∈ done, key found = k := by
      intro k named
      obtain ⟨found, held, same⟩ := known k named
      rcases mem_added held with older | newest
      · exact ⟨found, older, same⟩
      · rw [newest] at same
        exact absurd (same ▸ named) child
    have present : other ∈ frontierAfter key parent rows chosen done :=
      waits other member earlier free (remains.imp_left (mem_cons_of_mem _))
    refine mem_expand_of_mem present (remains.imp_left fun later same => ?_)
    rw [whole, nodup_append] at nodup
    exact (nodup_cons.mp nodup.2.1).1 (same ▸ later)

theorem waits_all (nodup : rows.Nodup) (grown : Grown key parent rows) (whole : rows = done ++ todo) :
    Waits key parent rows chosen done todo := by
  induction done using reverseRecOn generalizing todo with
  | nil =>
    intro row member known _ _
    have rootless : parent row = none := by
      by_contra some
      obtain ⟨k, named⟩ := Option.ne_none_iff_exists'.mp some
      obtain ⟨_, held, -⟩ := known k named
      cases held
    exact mem_filter.mpr ⟨member, by simpa using rootless⟩
  | append_singleton _ _ ih =>
    rw [append_assoc] at whole
    exact (ih whole).step nodup whole grown

end Frontier

section Weights

variable [AddCommGroup Amount] {weight : Row → Amount}

omit [DecidableEq Key] in
theorem total_append (first second : List Row) :
    total weight (first ++ second) =
      total weight first + total weight second := by
  simp [total]

omit [DecidableEq Key] in
theorem total_perm {first second : List Row} (perm : first.Perm second) :
    total weight first = total weight second :=
  (perm.map weight).sum_eq

variable [PartialOrder Amount] [IsOrderedAddMonoid Amount]

omit [DecidableEq Key] in
theorem total_nonneg (nonneg : ∀ row ∈ rows, 0 ≤ weight row) : 0 ≤ total weight rows := by
  refine sum_nonneg fun amount member => ?_
  obtain ⟨row, held, rfl⟩ := mem_map.mp member
  exact nonneg row held

def Bears (key : Row → Key) (parent : Row → Option Key) (weight : Row → Amount) (rows : List Row) : Prop :=
  ∀ row ∈ rows, total weight (children parent (key row) rows) ≤ weight row

variable [DecidableEq Row]

theorem total_expand_le (bears : Bears key parent weight rows) (inside : frontier ⊆ rows) :
    total weight (expand key parent rows chosen frontier row) ≤
      total weight frontier := by
  unfold expand
  split
  · rename_i expands
    have split : total weight frontier =
        weight row + total weight (frontier.erase row) := by
      rw [total_perm (perm_cons_erase expands.1)]
      simp [total]
    rw [total_append, split, add_comm]
    exact add_le_add_left (bears row (inside expands.1)) _
  · exact le_rfl

theorem expand_subset (inside : frontier ⊆ rows) : expand key parent rows chosen frontier row ⊆ rows := by
  unfold expand
  split
  · intro other member
    rcases mem_append.mp member with kept | child
    · exact inside (mem_of_mem_erase kept)
    · exact (mem_filter.mp child).1
  · exact inside

theorem frontier_le (bears : Bears key parent weight rows) (done : List Row) :
    frontierAfter key parent rows chosen done ⊆ rows ∧
      total weight (frontierAfter key parent rows chosen done) ≤
        total weight (roots parent rows) := by
  induction done using reverseRecOn with
  | nil => exact ⟨fun _ member => (mem_filter.mp member).1, le_rfl⟩
  | append_singleton _ _ ih =>
    rw [frontierAfter, foldl_append, foldl_cons, foldl_nil, ← frontierAfter]
    exact ⟨expand_subset ih.1, (total_expand_le bears ih.1).trans ih.2⟩

/-- Rows none of which is above another one are not heavier than the roots. -/
theorem total_apart_le (grown : Grown key parent rows) (bears : Bears key parent weight rows)
    (nonneg : ∀ row ∈ rows, 0 ≤ weight row) (nodup : rows.Nodup) (inside : chosen ⊆ rows)
    (once : chosen.Nodup)
    (apart : Apart key parent rows chosen) :
    total weight chosen ≤ total weight (roots parent rows) := by
  have waits : Waits key parent rows chosen rows [] := waits_all nodup grown (by simp)
  have held : chosen ⊆ frontierAfter key parent rows chosen rows := by
    intro row member
    obtain ⟨before, after, whole⟩ := append_of_mem (inside member)
    refine waits row (inside member) (fun k named => ?_)
      (fun top above => apart top above row member) (.inr member)
    obtain ⟨other, earlier, same⟩ := grown before row after whole k named
    exact ⟨other, whole ▸ mem_append_left _ earlier, same⟩
  have frontier : frontierAfter key parent rows chosen rows ⊆ rows ∧ _ := frontier_le bears rows
  obtain ⟨among, lighter⟩ := frontier
  obtain ⟨_, same, sublist⟩ := subperm_of_subset once held
  obtain ⟨_, perm⟩ := sublist.exists_perm_append
  refine le_trans ?_ lighter
  rw [total_perm perm, total_append, total_perm same]
  refine le_add_of_nonneg_right (total_nonneg fun row member => nonneg row (among ?_))
  exact perm.mem_iff.mpr (mem_append_right _ member)

end Weights

end Forest
