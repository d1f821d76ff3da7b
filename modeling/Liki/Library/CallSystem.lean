import Mathlib.Data.List.Forall2
import Mathlib.Order.Basic

/-! Systems that answer one call at a time. A handler either answers and moves
to a new state or refuses; a refused call is rolled back, so it leaves the state
as it was. A run is a list of calls, and because every call is atomic a list of
calls is also every interleaving of any number of clients.

The rules below lift what one call does to what a whole run does: an invariant
(`run_invariant`), a two-state law that relates every state to its successor
(`run_related`), and a forward simulation between two handlers for the same
calls (`run_simulates`). -/
namespace CallSystem

variable {State Other Call Refusal Answer Reply : Type*}

abbrev Handler (State Call Refusal Answer : Type*) := State → Call → Except Refusal (Answer × State)

def next (handle : Handler State Call Refusal Answer) (state : State) (call : Call) : State :=
  match handle state call with
  | .ok (_, after) => after
  | .error _ => state

def reply (handle : Handler State Call Refusal Answer) (state : State) (call : Call) :
    Except Refusal Answer :=
  (handle state call).map Prod.fst

def run (handle : Handler State Call Refusal Answer) (state : State) (calls : List Call) : State :=
  calls.foldl (next handle) state

def replies (handle : Handler State Call Refusal Answer) : State → List Call →
    List (Except Refusal Answer)
  | _, [] => []
  | state, call :: calls => reply handle state call :: replies handle (next handle state call) calls

def Along (handle : Handler State Call Refusal Answer) (meets : State → Call → Prop) :
    State → List Call → Prop
  | _, [] => True
  | state, call :: calls => meets state call ∧ Along handle meets (next handle state call) calls

instance decidableAlong (handle : Handler State Call Refusal Answer) (meets : State → Call → Prop)
    [∀ state call, Decidable (meets state call)] :
    (state : State) → (calls : List Call) → Decidable (Along handle meets state calls)
  | _, [] => .isTrue trivial
  | state, call :: calls =>
    have := decidableAlong handle meets (next handle state call) calls
    inferInstanceAs (Decidable (_ ∧ _))

def WhenAnswered (handle : Handler State Call Refusal Answer) (meets : State → Call → Prop)
    (state : State) (call : Call) : Prop :=
  ∀ answer after, handle state call = .ok (answer, after) → meets state call

instance decidableWhenAnswered (handle : Handler State Call Refusal Answer)
    (meets : State → Call → Prop) [∀ state call, Decidable (meets state call)] (state : State)
    (call : Call) : Decidable (WhenAnswered handle meets state call) :=
  match result : handle state call with
  | .ok (answer, after) =>
    if holds : meets state call then .isTrue fun _ _ _ => holds
    else .isFalse fun always => holds (always answer after result)
  | .error _ => .isTrue fun _ _ ok => nomatch result.symm.trans ok

variable {handle : Handler State Call Refusal Answer} {state : State} {call : Call}
  {calls : List Call} {meets : State → Call → Prop} {after : State} {refusal : Refusal}
  {other : Handler State Call Refusal Answer}

theorem next_of_ok {answer : Answer} (ok : handle state call = .ok (answer, after)) :
    next handle state call = after := by
  simp [next, ok]

theorem next_of_error (refused : handle state call = .error refusal) :
    next handle state call = state := by
  simp [next, refused]

theorem reply_of_ok {answer : Answer} (ok : handle state call = .ok (answer, after)) :
    reply handle state call = .ok answer := by
  simp [reply, ok, Except.map]

theorem reply_of_error (refused : handle state call = .error refusal) :
    reply handle state call = .error refusal := by
  simp [reply, refused, Except.map]

theorem ok_of_reply {answer : Answer} (answered : reply handle state call = .ok answer) :
    handle state call = .ok (answer, next handle state call) := by
  cases result : handle state call with
  | error =>
    rw [reply_of_error result] at answered
    cases answered
  | ok pair =>
    obtain ⟨_, _⟩ := pair
    rw [reply_of_ok result] at answered
    cases answered
    rw [next_of_ok result]

@[simp] theorem run_nil : run handle state [] = state := rfl

@[simp] theorem run_cons : run handle state (call :: calls) = run handle (next handle state call) calls :=
  rfl

theorem run_append (earlier later : List Call) :
    run handle state (earlier ++ later) = run handle (run handle state earlier) later :=
  List.foldl_append

theorem along_append {earlier later : List Call} :
    Along handle meets state (earlier ++ later) ↔
      Along handle meets state earlier ∧ Along handle meets (run handle state earlier) later := by
  induction earlier generalizing state with
  | nil => simp [Along]
  | cons _ _ ih => simp [Along, ih, and_assoc]

/-- What is met along a run is met wherever the run is cut. -/
theorem along_iff : Along handle meets state calls ↔ ∀ earlier call later,
    calls = earlier ++ call :: later → meets (run handle state earlier) call := by
  constructor
  · rintro along earlier call later rfl
    exact (along_append.mp along).2.1
  · intro everywhere
    induction calls generalizing state with
    | nil => trivial
    | cons call calls ih =>
      refine ⟨everywhere [] call calls rfl, ih fun earlier other later cut => ?_⟩
      exact everywhere (call :: earlier) other later (by rw [cut]; rfl)

/-- Whatever holds of every state and call holds along every run. -/
theorem along_of_forall (always : ∀ state call, meets state call) (state : State)
    (calls : List Call) : Along handle meets state calls := by
  induction calls generalizing state with
  | nil => trivial
  | cons call _ ih => exact ⟨always state call, ih _⟩

theorem along_of_calls {holds : Call → Prop} (each : ∀ call ∈ calls, holds call) (state : State) :
    Along handle (fun _ call => holds call) state calls := by
  induction calls generalizing state with
  | nil => trivial
  | cons call _ ih =>
    exact ⟨each call List.mem_cons_self,
      ih (fun other member => each other (List.mem_cons_of_mem _ member)) _⟩

theorem Along.and {other : State → Call → Prop} (first : Along handle meets state calls)
    (second : Along handle other state calls) :
    Along handle (fun state call => meets state call ∧ other state call) state calls := by
  induction calls generalizing state with
  | nil => trivial
  | cons _ _ ih => exact ⟨⟨first.1, second.1⟩, ih first.2 second.2⟩

theorem next_of_answered (kept : State → Prop) (start : kept state)
    (answered : ∀ answer after, handle state call = .ok (answer, after) → kept after) :
    kept (next handle state call) := by
  unfold next
  cases result : handle state call with
  | error => exact start
  | ok pair => exact answered pair.1 pair.2 result

theorem run_invariant (invariant : State → Prop) (start : invariant state)
    (preserved : ∀ state call, invariant state → meets state call →
      invariant (next handle state call))
    (along : Along handle meets state calls) : invariant (run handle state calls) := by
  induction calls generalizing state with
  | nil => exact start
  | cons call _ ih => exact ih (preserved state call start along.1) along.2

theorem run_preserves (invariant : State → Prop) (start : invariant state)
    (preserved : ∀ state call, invariant state → invariant (next handle state call))
    (calls : List Call) : invariant (run handle state calls) :=
  run_invariant invariant start (fun state call kept _ => preserved state call kept)
    (along_of_forall (fun _ _ => trivial) state calls)

theorem run_answered (invariant : State → Prop) (start : invariant state)
    (preserved : ∀ state call answer after, invariant state → meets state call →
      handle state call = .ok (answer, after) → invariant after)
    (along : Along handle (WhenAnswered handle meets) state calls) :
    invariant (run handle state calls) :=
  run_invariant invariant start
    (fun state call kept admissible => next_of_answered invariant kept fun answer after ok =>
      preserved state call answer after kept (admissible answer after ok) ok) along

theorem always_iff_along (kept : State → Prop) {invariant : State → Prop} {admissible : State → Call → Prop}
    (preserved : ∀ state call, invariant state → admissible state call → invariant (next handle state call))
    (exact : ∀ state call, invariant state → admissible state call → kept state →
      (kept (next handle state call) ↔ meets state call))
    (start : invariant state) (holds : kept state) (along : Along handle admissible state calls) :
    (∀ earlier later, calls = earlier ++ later → kept (run handle state earlier)) ↔
      Along handle meets state calls := by
  induction calls generalizing state with
  | nil =>
    refine ⟨fun _ => trivial, fun _ earlier later whole => ?_⟩
    rw [(List.append_eq_nil_iff.mp whole.symm).1]
    exact holds
  | cons call calls ih =>
    have step := exact state call start along.1 holds
    constructor
    · intro always
      have next : kept (next handle state call) := always [call] calls rfl
      refine ⟨step.mp next, (ih (preserved state call start along.1) next along.2).mp fun earlier later whole => ?_⟩
      exact always (call :: earlier) later (by rw [whole]; rfl)
    · rintro ⟨met, rest⟩ earlier later whole
      have next := step.mpr met
      cases earlier with
      | nil => exact holds
      | cons _ earlier =>
        obtain ⟨rfl, rfl⟩ := List.cons.inj whole
        exact (ih (preserved state call start along.1) next along.2).mpr rest earlier later rfl

/-- A preorder between each state and its successor relates the two ends of
every run. -/
theorem run_related {law : State → State → Prop} (refl : ∀ state, law state state)
    (trans : ∀ {a b c}, law a b → law b c → law a c)
    (step : ∀ state call, law state (next handle state call)) (state : State) (calls : List Call) :
    law state (run handle state calls) := by
  induction calls generalizing state with
  | nil => exact refl state
  | cons call _ ih => exact trans (step state call) (ih _)

theorem run_counted (invariant : State → Prop) (measure : State → ℕ) (counts : Except Refusal Answer → Bool)
    (start : invariant state)
    (preserved : ∀ state call, invariant state → invariant (next handle state call))
    (refused : ∀ refusal, counts (.error refusal) = false)
    (answered : ∀ state call answer after, invariant state → handle state call = .ok (answer, after) →
      measure after = measure state + if counts (.ok answer) then 1 else 0) (calls : List Call) :
    measure (run handle state calls) = measure state + (replies handle state calls).countP counts := by
  induction calls generalizing state with
  | nil => rfl
  | cons call _ ih =>
    have step : measure (next handle state call) =
        measure state + if counts (reply handle state call) then 1 else 0 := by
      cases result : handle state call with
      | error =>
        rw [next_of_error result, reply_of_error result, refused]
        rfl
      | ok pair =>
        obtain ⟨answer, after⟩ := pair
        rw [next_of_ok result, reply_of_ok result]
        exact answered state call answer after start result
    rw [run_cons, ih (preserved state call start), step, replies, List.countP_cons]
    omega

theorem run_gained (holds : State → Prop) (start : ¬holds state) (final : holds (run handle state calls)) :
    ∃ earlier call later, calls = earlier ++ call :: later ∧ ¬holds (run handle state earlier) ∧
      holds (next handle (run handle state earlier) call) := by
  induction calls generalizing state with
  | nil => exact absurd final start
  | cons call calls ih =>
    by_cases here : holds (next handle state call)
    · exact ⟨[], call, calls, rfl, start, here⟩
    · obtain ⟨earlier, other, later, cut, before, gained⟩ := ih here final
      exact ⟨call :: earlier, other, later, by rw [cut]; rfl, before, gained⟩

theorem run_congr
    (along : Along handle (fun state call => handle state call = other state call) state calls) :
    run handle state calls = run other state calls := by
  induction calls generalizing state with
  | nil => rfl
  | cons call _ ih =>
    have same : next handle state call = next other state call := by
      rw [next, next, along.1]
    rw [run_cons, run_cons, ih along.2, same]

/-- A condition holds along the run of another handler that does the same. -/
theorem Along.transfer (along : Along handle meets state calls)
    (same : Along handle (fun state call => handle state call = other state call) state calls) :
    Along other meets state calls := by
  induction calls generalizing state with
  | nil => trivial
  | cons call _ ih =>
    refine ⟨along.1, ?_⟩
    have agree : next other state call = next handle state call := by
      rw [next, next, same.1]
    rw [agree]
    exact ih along.2 same.2

/-- Forward simulation: when each admissible call made in related states gets
agreeing replies and leads to related states, whole runs do. -/
theorem run_simulates {other : Handler Other Call Refusal Reply} {related : State → Other → Prop}
    {agree : Except Refusal Answer → Except Refusal Reply → Prop}
    (step : ∀ left right call, related left right → meets left call →
      agree (reply handle left call) (reply other right call) ∧
        related (next handle left call) (next other right call))
    {right : Other} (start : related state right) (along : Along handle meets state calls) :
    List.Forall₂ agree (replies handle state calls) (replies other right calls) ∧
      related (run handle state calls) (run other right calls) := by
  induction calls generalizing state right with
  | nil => exact ⟨.nil, start⟩
  | cons call _ ih =>
    obtain ⟨agreed, kept⟩ := step state right call start along.1
    obtain ⟨rest, final⟩ := ih kept along.2
    exact ⟨.cons agreed rest, final⟩

end CallSystem
