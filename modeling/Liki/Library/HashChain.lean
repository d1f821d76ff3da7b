import Mathlib.Data.List.Induction
import Mathlib.Data.List.Forall2
import Mathlib.Tactic.Common

/-! Chained logs. Every entry has a link of its own and names the link of the entry before it.
Where the own link determines what an entry says and which link it names, the link at the end
of a chain determines the whole chain: two chains of one length with one end agree entry by
entry. -/
namespace HashChain
open List

variable {Entry Other Link : Type*} {previous own : Entry → Link} {start : Link} {log : List Entry}
  {entry : Entry}

def head (own : Entry → Link) (start : Link) (log : List Entry) : Link :=
  (log.getLast?.map own).getD start

def Chained (previous own : Entry → Link) : Link → List Entry → Prop
  | _, [] => True
  | start, entry :: log => previous entry = start ∧ Chained previous own (own entry) log

@[simp] theorem head_nil : head own start [] = start := rfl

@[simp] theorem head_append_one : head own start (log ++ [entry]) = own entry := by
  simp [head]

theorem head_cons : head own start (entry :: log) = head own (own entry) log := by
  cases log with
  | nil => rfl
  | cons => simp [head, getLast?_cons]

/-- A chain goes on with an entry that names its end. -/
theorem chained_append_one : Chained previous own start (log ++ [entry]) ↔
    Chained previous own start log ∧ previous entry = head own start log := by
  induction log generalizing start with
  | nil => simp [Chained]
  | cons _ _ ih => rw [cons_append, Chained, Chained, ih, head_cons, and_assoc]

theorem agree_of_head {previousOther ownOther : Other → Link} {startOther : Link} {related : Entry → Other → Prop}
    {others : List Other} (determined : ∀ entry ∈ log, ∀ other ∈ others, own entry = ownOther other →
      related entry other ∧ previous entry = previousOther other)
    (chained : Chained previous own start log) (chainedOther : Chained previousOther ownOther startOther others)
    (count : log.length = others.length) (ends : head own start log = head ownOther startOther others) :
    List.Forall₂ related log others := by
  induction log using reverseRecOn generalizing others with
  | nil =>
    rw [length_eq_zero_iff.mp count.symm]
    exact .nil
  | append_singleton log entry ih =>
    cases others using reverseRecOn with
    | nil => simp at count
    | append_singleton others other =>
      obtain ⟨before, names⟩ := chained_append_one.mp chained
      obtain ⟨beforeOther, namesOther⟩ := chained_append_one.mp chainedOther
      rw [head_append_one, head_append_one] at ends
      obtain ⟨pair, back⟩ := determined entry (mem_append_right _ mem_cons_self) other
        (mem_append_right _ mem_cons_self) ends
      have earlier : List.Forall₂ related log others := by
        refine ih (fun entry here other there => ?_) before beforeOther (by simpa using count) ?_
        · exact determined entry (mem_append_left _ here) other (mem_append_left _ there)
        · rw [← names, ← namesOther, back]
      exact rel_append earlier (.cons pair .nil)

end HashChain
