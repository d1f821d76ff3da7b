import Mathlib.Data.List.Induction
import Mathlib.Order.Lattice
import Mathlib.Tactic.Common

/-! Logs that only grow at their end. `latest` is the last entry of a kind, and `Since`
the past-time operator: a good entry after the last one that resets. Both are computed
from the end of the log and described by what one more entry does to them. `Precedes` is
the order of two entries, which no later entry undoes. -/
namespace EventLog
open List

variable {Entry : Type*}

def latest (kind : Entry → Prop) [DecidablePred kind] (log : List Entry) : Option Entry :=
  log.reverse.find? fun entry => kind entry

/-- The entries after the last one that resets, newest first. -/
def sinceReset (resets : Entry → Prop) [DecidablePred resets] (log : List Entry) : List Entry :=
  log.reverse.takeWhile fun entry => ¬resets entry

def Since (good resets : Entry → Prop) [DecidablePred resets] (log : List Entry) : Prop :=
  ∃ entry ∈ sinceReset resets log, good entry

instance (good resets : Entry → Prop) [DecidablePred good] [DecidablePred resets]
    (log : List Entry) : Decidable (Since good resets log) :=
  inferInstanceAs (Decidable (∃ entry ∈ sinceReset resets log, good entry))

variable {kind good resets : Entry → Prop} [DecidablePred kind] [DecidablePred resets]
  {log more : List Entry} {entry : Entry}

@[simp] theorem latest_nil : latest kind ([] : List Entry) = none := rfl

theorem latest_append_one :
    latest kind (log ++ [entry]) = if kind entry then some entry else latest kind log := by
  unfold latest
  rw [reverse_append]
  by_cases hit : kind entry <;> simp [hit]

/-- Entries of other kinds change nothing. -/
theorem latest_append_others (others : ∀ entry ∈ more, ¬kind entry) :
    latest kind (log ++ more) = latest kind log := by
  unfold latest
  rw [reverse_append, find?_append, find?_eq_none.mpr (by simpa using others),
    Option.none_or]

theorem latest_mem (found : latest kind log = some entry) : entry ∈ log ∧ kind entry :=
  ⟨mem_reverse.mp (mem_of_find?_eq_some found), by simpa using find?_some found⟩

theorem since_append_one :
    Since good resets (log ++ [entry]) ↔ ¬resets entry ∧ (good entry ∨ Since good resets log) := by
  unfold Since sinceReset
  rw [reverse_append]
  by_cases hit : resets entry <;> simp [hit]

/-- Entries that do not reset keep it. -/
theorem Since.append (since : Since good resets log) (quiet : ∀ entry ∈ more, ¬resets entry) :
    Since good resets (log ++ more) := by
  induction more generalizing log with
  | nil => rwa [append_nil]
  | cons entry _ ih =>
    rw [← singleton_append, ← append_assoc]
    refine ih ?_ fun later member => quiet later (mem_cons_of_mem _ member)
    exact since_append_one.mpr ⟨quiet entry mem_cons_self, .inr since⟩

/-- Entries that neither reset nor are good change nothing. -/
theorem since_append_others (others : ∀ entry ∈ more, ¬resets entry ∧ ¬good entry) :
    Since good resets (log ++ more) ↔ Since good resets log := by
  induction more generalizing log with
  | nil => rw [append_nil]
  | cons entry _ ih =>
    obtain ⟨quiet, plain⟩ := others entry mem_cons_self
    rw [← singleton_append, ← append_assoc,
      ih fun later member => others later (mem_cons_of_mem _ member), since_append_one]
    simp [quiet, plain]

theorem Since.mem (since : Since good resets log) : ∃ entry ∈ log, good entry := by
  obtain ⟨entry, member, holds⟩ := since
  exact ⟨entry, mem_reverse.mp ((takeWhile_sublist _).subset member), holds⟩

def Precedes (first second : Entry → Prop) : List Entry → Prop
  | [] => False
  | entry :: log => (first entry ∧ ∃ later ∈ log, second later) ∨ Precedes first second log

instance decidablePrecedes (first second : Entry → Prop) [DecidablePred first] [DecidablePred second] :
    (log : List Entry) → Decidable (Precedes first second log)
  | [] => .isFalse id
  | _ :: log =>
    have := decidablePrecedes first second log
    inferInstanceAs (Decidable (_ ∨ _))

variable {first second : Entry → Prop}

theorem precedes_iff : Precedes first second log ↔
    ∃ earlier later, log = earlier ++ later ∧ (∃ entry ∈ earlier, first entry) ∧
      ∃ entry ∈ later, second entry := by
  induction log with
  | nil =>
    refine ⟨False.elim, ?_⟩
    rintro ⟨earlier, later, whole, ⟨entry, member, -⟩, -⟩
    rw [(append_eq_nil_iff.mp whole.symm).1] at member
    cases member
  | cons entry log ih =>
    simp only [Precedes, ih]
    constructor
    · rintro (⟨holds, later⟩ | ⟨earlier, later, rfl, ⟨found, member, holds⟩, after⟩)
      · exact ⟨[entry], log, rfl, ⟨entry, mem_cons_self, holds⟩, later⟩
      · exact ⟨entry :: earlier, later, rfl, ⟨found, mem_cons_of_mem _ member, holds⟩, after⟩
    · rintro ⟨_ | ⟨_, earlier⟩, later, whole, ⟨found, member, holds⟩, after⟩
      · cases member
      · obtain ⟨rfl, rfl⟩ := cons.inj whole
        rcases mem_cons.mp member with rfl | older
        · obtain ⟨last, member, holds'⟩ := after
          exact .inl ⟨holds, last, mem_append_right _ member, holds'⟩
        · exact .inr ⟨earlier, later, rfl, ⟨found, older, holds⟩, after⟩

/-- What is new comes after what was there. -/
theorem precedes_of_mem (earlier : ∃ entry ∈ log, first entry) (later : ∃ entry ∈ more, second entry) :
    Precedes first second (log ++ more) :=
  precedes_iff.mpr ⟨log, more, rfl, earlier, later⟩

theorem Precedes.append (precedes : Precedes first second log) : Precedes first second (log ++ more) := by
  obtain ⟨earlier, later, rfl, before, found, member, holds⟩ := precedes_iff.mp precedes
  exact precedes_iff.mpr ⟨earlier, later ++ more, append_assoc _ _ _, before, found,
    mem_append_left _ member, holds⟩

section Stamps

variable {Stamp : Type*} [LinearOrder Stamp] {stamp : Entry → Stamp} {last : Entry}

/-- An entry with the greatest stamp, which need not be the one that was written last. -/
def Newest (stamp : Entry → Stamp) (log : List Entry) (entry : Entry) : Prop :=
  entry ∈ log ∧ ∀ other ∈ log, stamp other ≤ stamp entry

theorem newest_append_one : Newest stamp (log ++ [last]) entry ↔
    (entry = last ∧ ∀ other ∈ log, stamp other ≤ stamp last) ∨
      (Newest stamp log entry ∧ stamp last ≤ stamp entry) := by
  constructor
  · rintro ⟨member, greatest⟩
    have older := fun other held => greatest other (mem_append_left [last] held)
    rcases mem_append.mp member with held | newest
    · exact .inr ⟨⟨held, older⟩, greatest last (mem_append_right log mem_cons_self)⟩
    · rw [mem_singleton] at newest
      subst newest
      exact .inl ⟨rfl, older⟩
  · rintro (⟨rfl, older⟩ | ⟨⟨held, greatest⟩, later⟩)
    · refine ⟨mem_append_right log mem_cons_self, fun other member => ?_⟩
      rcases mem_append.mp member with held | newest
      · exact older other held
      · exact (mem_singleton.mp newest) ▸ le_rfl
    · refine ⟨mem_append_left [last] held, fun other member => ?_⟩
      rcases mem_append.mp member with held | newest
      · exact greatest other held
      · exact (mem_singleton.mp newest) ▸ later

theorem exists_newest (some : log ≠ []) : ∃ entry, Newest stamp log entry := by
  induction log using reverseRecOn with
  | nil => exact absurd rfl some
  | append_singleton log last ih =>
    by_cases empty : log = []
    · refine ⟨last, newest_append_one.mpr (.inl ⟨rfl, fun other member => ?_⟩)⟩
      rw [empty] at member
      cases member
    · obtain ⟨entry, newest⟩ := ih empty
      rcases le_total (stamp last) (stamp entry) with older | later
      · exact ⟨entry, newest_append_one.mpr (.inr ⟨newest, older⟩)⟩
      · exact ⟨last, newest_append_one.mpr (.inl ⟨rfl, fun other member => (newest.2 other member).trans later⟩)⟩

end Stamps

end EventLog
