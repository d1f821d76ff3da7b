import Liki.Library.Pages

/-! Sorting by a key, and collecting rows by a key. A stable sort keeps the rows of one key in the
order in which they came, so two lists sort alike exactly when they have the same rows of each key in
the same order. A dictionary of lists that is filled row by row has, under each key, the rows of that
key in the order in which they came. -/
namespace SortedGroups
open List Prod

variable {Row Other Key : Type*} [LinearOrder Key]

section Sorting

variable (key : Row → Key)

def sortBy (rows : List Row) : List Row := rows.insertionSort fun first second => key first ≤ key second

def Ascending (rows : List Row) : Prop := rows.Pairwise fun first second => key first ≤ key second

def ofKey (k : Key) (rows : List Row) : List Row := rows.filter fun row => key row = k

theorem sortBy_perm (rows : List Row) : (sortBy key rows).Perm rows :=
  perm_insertionSort (fun first second => key first ≤ key second) rows

@[simp] theorem mem_sortBy {row : Row} {rows : List Row} : row ∈ sortBy key rows ↔ row ∈ rows :=
  (sortBy_perm key rows).mem_iff

instance byKey_total : Std.Total fun first second : Row => key first ≤ key second :=
  ⟨fun first second => le_total (key first) (key second)⟩

instance byKey_trans : IsTrans Row fun first second => key first ≤ key second := ⟨fun _ _ _ => le_trans⟩

theorem sortBy_ascending (rows : List Row) : Ascending key (sortBy key rows) :=
  pairwise_insertionSort (fun first second => key first ≤ key second) rows

theorem map_sortBy {otherKey : Other → Key} (rename : Row → Other)
    (same : ∀ row, otherKey (rename row) = key row) (rows : List Row) :
    (sortBy key rows).map rename = sortBy otherKey (rows.map rename) :=
  map_insertionSort (fun first second : Row => key first ≤ key second)
    (fun first second : Other => otherKey first ≤ otherKey second) rename rows
    fun first _ second _ => by rw [same, same]

variable {key} {rows others : List Row}

/-- Selecting and sorting can be done in either order. -/
theorem filter_sortBy (selects : Row → Bool) (rows : List Row) :
    (sortBy key rows).filter selects = sortBy key (rows.filter selects) :=
  Pages.filter_insertionSort.symm

theorem ofKey_sortBy (k : Key) (rows : List Row) : ofKey key k (sortBy key rows) = ofKey key k rows := by
  rw [ofKey, filter_sortBy, ← ofKey]
  refine List.Pairwise.insertionSort_eq (pairwise_of_forall_mem_list ?_)
  intro first firstMember second secondMember
  have same : key first = k := by simpa using (mem_filter.mp firstMember).2
  have other : key second = k := by simpa using (mem_filter.mp secondMember).2
  exact (same.trans other.symm).le

/-- The least row stands first. -/
theorem head_of_ascending {row : Row} (ascending : Ascending key (row :: rows)) {other : Row}
    (member : other ∈ row :: rows) : key row ≤ key other := by
  rcases mem_cons.mp member with rfl | later
  · exact le_rfl
  · exact (pairwise_cons.mp ascending).1 other later

theorem mem_iff_of_ofKey (same : ∀ k, ofKey key k rows = ofKey key k others) (row : Row) :
    row ∈ rows ↔ row ∈ others := by
  have selected := congrArg (row ∈ ·) (same (key row))
  simpa [ofKey] using selected

theorem ofKey_tail {row : Row} (same : ∀ k, ofKey key k (row :: rows) = ofKey key k (row :: others)) (k : Key) :
    ofKey key k rows = ofKey key k others := by
  have whole := same k
  unfold ofKey at whole ⊢
  rw [filter_cons, filter_cons] at whole
  split at whole
  · exact (cons.inj whole).2
  · exact whole

theorem eq_of_ofKey (ascending : Ascending key rows) (otherAscending : Ascending key others)
    (same : ∀ k, ofKey key k rows = ofKey key k others) : rows = others := by
  induction rows generalizing others with
  | nil =>
    refine (eq_nil_iff_forall_not_mem.mpr fun row member => ?_).symm
    exact absurd ((mem_iff_of_ofKey same row).mpr member) not_mem_nil
  | cons row _ ih =>
    cases others with
    | nil => exact absurd ((mem_iff_of_ofKey same row).mp mem_cons_self) not_mem_nil
    | cons other =>
      have sameKey : key row = key other :=
        le_antisymm (head_of_ascending ascending ((mem_iff_of_ofKey same other).mpr mem_cons_self))
          (head_of_ascending otherAscending ((mem_iff_of_ofKey same row).mp mem_cons_self))
      have heads := same (key row)
      unfold ofKey at heads
      rw [filter_cons_of_pos (by simp), filter_cons_of_pos (by simp [sameKey])] at heads
      obtain rfl := (cons.inj heads).1
      rw [ih (pairwise_cons.mp ascending).2 (pairwise_cons.mp otherAscending).2 (ofKey_tail same)]

/-- Two lists sort alike exactly when they have the same rows of each key in the same order. -/
theorem sortBy_eq_iff : sortBy key rows = sortBy key others ↔ ∀ k, ofKey key k rows = ofKey key k others := by
  constructor
  · intro same k
    rw [← ofKey_sortBy, same, ofKey_sortBy]
  · intro same
    refine eq_of_ofKey (sortBy_ascending key rows) (sortBy_ascending key others) fun k => ?_
    rw [ofKey_sortBy, ofKey_sortBy, same]

end Sorting

section Collecting

/-- `groups.setdefault(k, []).append(row)`. -/
def addTo (k : Key) (row : Row) : List (Key × List Row) → List (Key × List Row)
  | [] => [(k, [row])]
  | group :: rest => if group.1 = k then (k, group.2 ++ [row]) :: rest else group :: addTo k row rest

/-- The groups hold the rows, each under its own key and in the order in which they came. -/
structure Collected (key : Row → Key) (rows : List Row) (groups : List (Key × List Row)) : Prop where
  distinct : (groups.map fst).Nodup
  content : ∀ group ∈ groups, group.2 = ofKey key group.1 rows
  keys : ∀ k, k ∈ groups.map fst ↔ ∃ row ∈ rows, key row = k

variable {key : Row → Key} {rows : List Row} {row : Row} {k : Key} {groups : List (Key × List Row)}

theorem keys_addTo :
    (addTo k row groups).map fst =
      if k ∈ groups.map fst then groups.map fst else groups.map fst ++ [k] := by
  induction groups with
  | nil => rfl
  | cons group rest ih =>
    rw [addTo, map_cons]
    by_cases here : group.1 = k
    · rw [if_pos here, if_pos (mem_cons.mpr (.inl here.symm)), map_cons, here]
    · rw [if_neg here, map_cons, ih]
      by_cases later : k ∈ rest.map fst
      · rw [if_pos later, if_pos (mem_cons_of_mem _ later)]
      · rw [if_neg later, if_neg (by simp [Ne.symm here, later]), cons_append]

theorem mem_addTo (distinct : (groups.map fst).Nodup) {group : Key × List Row}
    (member : group ∈ addTo k row groups) :
    (group.1 ≠ k ∧ group ∈ groups) ∨
      group.1 = k ∧ ((∃ old, (k, old) ∈ groups ∧ group.2 = old ++ [row]) ∨
        k ∉ groups.map fst ∧ group.2 = [row]) := by
  induction groups with
  | nil =>
    rw [addTo, mem_singleton] at member
    subst member
    exact .inr ⟨rfl, .inr ⟨by simp, rfl⟩⟩
  | cons first _ ih =>
    rw [map_cons, nodup_cons] at distinct
    rw [addTo] at member
    by_cases here : first.1 = k
    · rw [if_pos here] at member
      rcases mem_cons.mp member with rfl | later
      · refine .inr ⟨rfl, .inl ⟨first.2, ?_, rfl⟩⟩
        rw [← here]
        exact mem_cons_self
      · refine .inl ⟨?_, mem_cons_of_mem _ later⟩
        intro same
        exact distinct.1 (mem_map.mpr ⟨group, later, same.trans here.symm⟩)
    · rw [if_neg here] at member
      rcases mem_cons.mp member with rfl | later
      · exact .inl ⟨here, mem_cons_self⟩
      · rcases ih distinct.2 later with ⟨differs, held⟩ | ⟨same, ⟨old, held, grown⟩ | ⟨absent, only⟩⟩
        · exact .inl ⟨differs, mem_cons_of_mem _ held⟩
        · exact .inr ⟨same, .inl ⟨old, mem_cons_of_mem _ held, grown⟩⟩
        · exact .inr ⟨same, .inr ⟨by simp [Ne.symm here, absent], only⟩⟩

theorem Collected.nil : Collected key [] [] := ⟨by simp, by simp, by simp⟩

theorem Collected.addTo (collected : Collected key rows groups) (row : Row) :
    Collected key (rows ++ [row]) (addTo (key row) row groups) := by
  have others : ∀ k, key row ≠ k → ofKey key k (rows ++ [row]) = ofKey key k rows := by
    intro k differs
    simp [ofKey, differs]
  have own : ofKey key (key row) (rows ++ [row]) = ofKey key (key row) rows ++ [row] := by simp [ofKey]
  refine ⟨?_, ?_, ?_⟩
  · rw [keys_addTo]
    split
    · exact collected.distinct
    · rename_i absent
      exact collected.distinct.append (nodup_singleton _) (by simpa using absent)
  · intro group member
    rcases mem_addTo collected.distinct member with ⟨differs, held⟩ | ⟨same, ⟨old, held, grown⟩ | ⟨absent, only⟩⟩
    · rw [collected.content group held, others _ (Ne.symm differs)]
    · rw [grown, same, own, ← collected.content _ held]
    · have none : ofKey key (key row) rows = [] := by
        refine filter_eq_nil_iff.mpr fun other there => ?_
        intro named
        exact absent ((collected.keys _).mpr ⟨other, there, by simpa using named⟩)
      rw [only, same, own, none, nil_append]
  · intro k
    have grown : (∃ other ∈ rows ++ [row], key other = k) ↔ (∃ other ∈ rows, key other = k) ∨ key row = k := by
      simp [or_and_right, exists_or]
    rw [keys_addTo, grown, ← collected.keys]
    split
    · rename_i present
      refine ⟨.inl, ?_⟩
      rintro (held | rfl)
      · exact held
      · exact present
    · rw [mem_append, mem_singleton, eq_comm (a := k)]

theorem Collected.strict (collected : Collected key rows groups) :
    (sortBy fst groups).Pairwise fun first second => first.1 < second.1 := by
  have nodup : ((sortBy fst groups).map fst).Nodup :=
    ((sortBy_perm fst groups).map fst).nodup_iff.mpr collected.distinct
  refine (List.Pairwise.and (sortBy_ascending fst groups) (pairwise_map.mp nodup)).imp ?_
  rintro first second ⟨ascends, differ⟩
  exact lt_of_le_of_ne ascends differ

theorem Collected.mem_iff (collected : Collected key rows groups) {group : Key × List Row} :
    group ∈ groups ↔ group.2 = ofKey key group.1 rows ∧ group.2 ≠ [] := by
  have some_iff : (∃ row ∈ rows, key row = group.1) ↔ ofKey key group.1 rows ≠ [] := by
    rw [← length_pos_iff, length_pos_iff_exists_mem]
    simp [ofKey]
  constructor
  · intro member
    have content := collected.content group member
    refine ⟨content, ?_⟩
    rw [content, ← some_iff, ← collected.keys]
    exact mem_map_of_mem member
  · rintro ⟨content, some⟩
    rw [content, ← some_iff, ← collected.keys] at some
    obtain ⟨held, member, same⟩ := mem_map.mp some
    have equal : held = group := by
      refine Prod.ext same ?_
      rw [collected.content held member, same, content]
    rwa [← equal]

theorem eq_of_strict {others : List (Key × List Row)}
    (strict : groups.Pairwise fun first second => first.1 < second.1)
    (otherStrict : others.Pairwise fun first second => first.1 < second.1)
    (same : ∀ group, group ∈ groups ↔ group ∈ others) : groups = others := by
  have nodup : ∀ {list : List (Key × List Row)}, (list.Pairwise fun first second => first.1 < second.1) →
      list.Nodup := fun ascends => ascends.imp fun below equal => below.ne (congrArg fst equal)
  refine List.Perm.eq_of_pairwise ?_ strict otherStrict
    ((perm_ext_iff_of_nodup (nodup strict) (nodup otherStrict)).mpr same)
  intro first second _ _ below above
  exact absurd above below.asymm

end Collecting

end SortedGroups
