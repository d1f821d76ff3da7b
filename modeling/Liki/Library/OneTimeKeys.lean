import Liki.Library.CallSystem
import Mathlib.Data.List.Nodup

/-! Calls that spend one-time keys. A machine says, from a model of the state
alone, which key a call spends (if any) and where it leads. A handler follows the
machine when it answers exactly the calls whose key has not been used yet. Then a
run is answered throughout exactly when the keys it spends are pairwise distinct
and were all unused before it. -/
namespace OneTimeKeys
open CallSystem

variable {State Model Call Refusal Answer Key : Type*}

structure Machine (Model Call Key : Type*) where
  spend : Model → Call → Option Key
  advance : Model → Call → Model

variable (machine : Machine Model Call Key)

def Machine.spent : Model → List Call → List Key
  | _, [] => []
  | model, call :: calls => (machine.spend model call).toList ++ spent (machine.advance model call) calls

/-- Where a run leads. -/
def Machine.final (model : Model) (calls : List Call) : Model := calls.foldl machine.advance model

variable {machine} {handle : Handler State Call Refusal Answer} {related : State → Model → Prop}
  {used : State → Key → Prop} {state : State} {model : Model}

structure Machine.Followed (machine : Machine Model Call Key)
    (handle : Handler State Call Refusal Answer) (related : State → Model → Prop)
    (used : State → Key → Prop) : Prop where
  refuses : ∀ {state model call key}, related state model → machine.spend model call = some key →
    used state key → ∃ refusal, handle state call = .error refusal
  answers : ∀ {state model call}, related state model →
    (∀ key, machine.spend model call = some key → ¬used state key) →
    ∃ answer after, handle state call = .ok (answer, after) ∧ related after (machine.advance model call) ∧
      ∀ key, used after key ↔ used state key ∨ machine.spend model call = some key

def AllAnswered (handle : Handler State Call Refusal Answer) (state : State) (calls : List Call) :
    Prop :=
  ∀ reply ∈ replies handle state calls, ∃ answer, reply = .ok answer

instance (calls : List Call) : Decidable (AllAnswered handle state calls) :=
  decidable_of_iff (∀ reply ∈ replies handle state calls, reply.isOk) (by
    refine forall₂_congr fun reply _ => ?_
    cases reply <;> simp [Except.isOk, Except.toBool])

variable {calls : List Call}

theorem allAnswered_cons {call : Call} :
    AllAnswered handle state (call :: calls) ↔
      (∃ answer, reply handle state call = .ok answer) ∧
        AllAnswered handle (next handle state call) calls := by
  simp [AllAnswered, replies]

/-- The keys of a run that are unused so far. -/
theorem Machine.Followed.answered_iff (followed : machine.Followed handle related used)
    (calls : List Call) (start : related state model) :
    AllAnswered handle state calls ↔ (machine.spent model calls).Nodup ∧
      ∀ key ∈ machine.spent model calls, ¬used state key := by
  induction calls generalizing state model with
  | nil => simp [AllAnswered, replies, Machine.spent]
  | cons call _ ih =>
    rw [allAnswered_cons]
    by_cases unused : ∀ key, machine.spend model call = some key → ¬used state key
    · obtain ⟨answer, after, ok, leads, uses⟩ := followed.answers start unused
      rw [next_of_ok ok, reply_of_ok ok, ih leads]
      cases spends : machine.spend model call with
      | none =>
        have same : ∀ key, used after key ↔ used state key := by simpa [spends] using uses
        simp [Machine.spent, spends, same]
      | some spent =>
        have fresh := unused spent spends
        simp only [Machine.spent, spends, Option.toList_some, List.singleton_append, List.nodup_cons,
          List.mem_cons, forall_eq_or_imp, uses, Option.some.injEq, not_or]
        constructor
        · rintro ⟨-, distinct, apart⟩
          exact ⟨⟨fun twice => (apart spent twice).2 rfl, distinct⟩, fresh,
            fun key member => (apart key member).1⟩
        · rintro ⟨⟨once, distinct⟩, -, apart⟩
          refine ⟨⟨answer, rfl⟩, distinct, fun key member => ⟨apart key member, ?_⟩⟩
          rintro rfl
          exact once member
    · simp only [not_forall, not_not, exists_prop] at unused
      obtain ⟨key, spends, taken⟩ := unused
      obtain ⟨_, refused⟩ := followed.refuses start spends taken
      rw [reply_of_error refused]
      constructor
      · rintro ⟨⟨_, impossible⟩, -⟩
        cases impossible
      · rintro ⟨-, apart⟩
        exact absurd taken (apart key (by simp [Machine.spent, spends]))

theorem Machine.Followed.run_related (followed : machine.Followed handle related used)
    (start : related state model) (answered : AllAnswered handle state calls) :
    related (run handle state calls) (machine.final model calls) := by
  induction calls generalizing state model with
  | nil => exact start
  | cons call _ ih =>
    obtain ⟨⟨_, answers⟩, rest⟩ := allAnswered_cons.mp answered
    have unused : ∀ key, machine.spend model call = some key → ¬used state key := by
      intro key spends taken
      obtain ⟨_, refused⟩ := followed.refuses start spends taken
      rw [reply_of_error refused] at answers
      cases answers
    obtain ⟨_, _, ok, leads, -⟩ := followed.answers start unused
    rw [run_cons]
    rw [next_of_ok ok] at rest ⊢
    exact ih leads rest

end OneTimeKeys
