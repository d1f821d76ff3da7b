import Mathlib.Logic.Basic
import Mathlib.Logic.Unique
import Mathlib.Tactic.Common

/-! Guarded computations. A program that checks its input one condition at a
time is a sequence of `refuseIf` guards in `Except`; the lemmas here read such a
sequence backwards: a success means that every guard passed and every step
produced its value. -/
namespace Checks
open List

variable {ε α β : Type} {error : ε} {first computation : Except ε α} {rest step : α → Except ε β}
  {result start : β} {value : α} {items : List α} {results : List β}

def refuseIf (bad : Prop) [Decidable bad] (error : ε) : Except ε Unit :=
  if bad then .error error else .ok ()

/-- A sequence succeeds exactly when each step does. -/
theorem bind_ok :
    (first >>= rest) = .ok result ↔ ∃ value, first = .ok value ∧ rest value = .ok result := by
  cases first <;> simp [bind, Except.bind]

theorem bind_error {refusal : ε} :
    (first >>= rest) = .error refusal ↔
      first = .error refusal ∨ ∃ value, first = .ok value ∧ rest value = .error refusal := by
  cases first <;> simp [bind, Except.bind]

@[simp] theorem refuseIf_ok {bad : Prop} [Decidable bad] {result : Unit} :
    refuseIf bad error = .ok result ↔ ¬bad := by
  by_cases refused : bad <;> simp [refuseIf, refused]

@[simp] theorem refuseIf_error {bad : Prop} [Decidable bad] {refusal : ε} :
    refuseIf bad error = .error refusal ↔ bad ∧ error = refusal := by
  by_cases refused : bad <;> simp [refuseIf, refused]

/-- The guard of a sequence that succeeds. -/
theorem guard_ok {bad : Prop} [Decidable bad] {follows : Unit → Prop} :
    (∃ value, refuseIf bad error = .ok value ∧ follows value) ↔ ¬bad ∧ follows () :=
  ⟨fun ⟨_, passed, kept⟩ => ⟨refuseIf_ok.mp passed, kept⟩,
    fun ⟨passed, kept⟩ => ⟨(), refuseIf_ok.mpr passed, kept⟩⟩

/-- A guard chooses between its error and the computation behind it. -/
theorem refuseIf_bind {bad : Prop} [Decidable bad] (rest : Unit → Except ε β) :
    (refuseIf bad error >>= rest) = if bad then .error error else rest () := by
  unfold refuseIf
  split <;> rfl

/-- A guard that does not fire is the computation behind it. -/
theorem refuseIf_bind_of_not {bad : Prop} [Decidable bad] (passes : ¬bad)
    (rest : Unit → Except ε β) : (refuseIf bad error >>= rest) = rest () := by
  simp [refuseIf, passes, bind, Except.bind]

theorem refuseIf_bind_of {bad : Prop} [Decidable bad] (fires : bad)
    (rest : Unit → Except ε β) : (refuseIf bad error >>= rest) = .error error := by
  simp [refuseIf, fires, bind, Except.bind]

theorem pure_ok {result : α} : (pure value : Except ε α) = .ok result ↔ value = result := by
  simp [pure, Except.pure]

theorem pair_ok {second : β} {pair : α × β} :
    (pure (value, second) : Except ε (α × β)) = .ok pair ↔ value = pair.1 ∧ second = pair.2 := by
  rw [pure_ok, Prod.ext_iff]

theorem ok_bind (value : α) (rest : α → Except ε β) : ((.ok value : Except ε α) >>= rest) = rest value :=
  rfl

theorem guarded_bind {bad : Prop} [Decidable bad] (value : α) (rest : α → Except ε β) :
    ((if bad then .error error else .ok value : Except ε α) >>= rest) =
      if bad then .error error else rest value := by
  split <;> rfl

def expect (value : Option α) (error : ε) : Except ε α :=
  match value with
  | some value => .ok value
  | none => .error error

@[simp] theorem expect_ok {value : Option α} {result : α} :
    expect value error = .ok result ↔ value = some result := by
  cases value <;> simp [expect]

@[simp] theorem expect_error {value : Option α} {refusal : ε} :
    expect value error = .error refusal ↔ value = none ∧ error = refusal := by
  cases value <;> simp [expect]

@[simp] theorem pure_error {refusal : ε} : (pure value : Except ε α) ≠ .error refusal := by
  simp [pure, Except.pure]

theorem map_error {relabel : α → β} {refusal : ε} :
    relabel <$> computation = .error refusal ↔ computation = .error refusal := by
  cases computation <;> simp [Functor.map, Except.map]

theorem mapError_ok {ε' : Type} {relabel : ε → ε'} {result : α} :
    computation.mapError relabel = .ok result ↔ computation = .ok result := by
  cases computation <;> simp [Except.mapError]

theorem mem_of_mapM (ok : items.mapM step = .ok results) :
    ∀ result ∈ results, ∃ item ∈ items, step item = .ok result := by
  induction items generalizing results with
  | nil =>
    rw [mapM_nil, pure_ok] at ok
    subst ok
    exact fun result member => nomatch member
  | cons item _ ih =>
    simp only [mapM_cons, bind_ok, pure_ok] at ok
    obtain ⟨_, first, _, rest, rfl⟩ := ok
    intro result member
    rcases mem_cons.mp member with rfl | later
    · exact ⟨item, mem_cons_self, first⟩
    · obtain ⟨other, held, same⟩ := ih rest result later
      exact ⟨other, mem_cons_of_mem _ held, same⟩

theorem mapM_succeeds_iff :
    (∃ results, items.mapM step = .ok results) ↔ ∀ item ∈ items, ∃ result, step item = .ok result := by
  induction items with
  | nil => simp [pure_ok]
  | cons _ _ ih =>
    simp only [mapM_cons, bind_ok, pure_ok, forall_mem_cons, ← ih]
    constructor
    · rintro ⟨_, result, first, results, rest, -⟩
      exact ⟨⟨result, first⟩, results, rest⟩
    · rintro ⟨⟨result, first⟩, results, rest⟩
      exact ⟨_, result, first, results, rest, rfl⟩

theorem map_of_mapM {γ : Type*} {reads : β → γ} {tells : α → γ}
    (each : ∀ item ∈ items, ∀ result, step item = .ok result → reads result = tells item)
    (ok : items.mapM step = .ok results) : results.map reads = items.map tells := by
  induction items generalizing results with
  | nil =>
    rw [mapM_nil, pure_ok] at ok
    rw [← ok]
    rfl
  | cons item _ ih =>
    simp only [mapM_cons, bind_ok, pure_ok] at ok
    obtain ⟨result, first, _, others, rfl⟩ := ok
    rw [map_cons, map_cons, each item mem_cons_self result first,
      ih (fun other member => each other (mem_cons_of_mem _ member)) others]

/-- A loop whose rounds succeed as before succeeds as before. -/
theorem mapM_ok_mono {other : α → Except ε β}
    (same : ∀ item ∈ items, ∀ result, step item = .ok result → other item = .ok result)
    (ok : items.mapM step = .ok results) : items.mapM other = .ok results := by
  induction items generalizing results with
  | nil => exact ok
  | cons item _ ih =>
    simp only [mapM_cons, bind_ok, pure_ok] at ok ⊢
    obtain ⟨value, first, values, rest, whole⟩ := ok
    exact ⟨value, same item mem_cons_self value first, values,
      ih (fun other member => same other (mem_cons_of_mem _ member)) rest, whole⟩

/-- The same for a loop with an accumulator. -/
theorem foldlM_ok_mono {step other : β → α → Except ε β}
    (same : ∀ held item result, step held item = .ok result → other held item = .ok result)
    (ok : items.foldlM step start = .ok result) : items.foldlM other start = .ok result := by
  induction items generalizing start with
  | nil => exact ok
  | cons item _ ih =>
    simp only [foldlM_cons, bind_ok] at ok ⊢
    obtain ⟨middle, first, rest⟩ := ok
    exact ⟨middle, same start item middle first, ih rest⟩

theorem foldlM_invariant {step : β → α → Except ε β} (invariant : β → Prop)
    (keeps : ∀ held item after, invariant held → step held item = .ok after → invariant after)
    (initially : invariant start) (ok : items.foldlM step start = .ok result) : invariant result := by
  induction items generalizing start with
  | nil =>
    cases ok
    exact initially
  | cons item _ ih =>
    rw [foldlM_cons] at ok
    obtain ⟨middle, first, rest⟩ := bind_ok.mp ok
    exact ih (keeps start item middle initially first) rest

/-- A loop whose rounds each write down their item has written down the items. -/
theorem foldlM_written {step : β → α → Except ε β} (written : β → List α)
    (writes : ∀ held item after, step held item = .ok after → written after = written held ++ [item])
    (ok : items.foldlM step start = .ok result) : written result = written start ++ items := by
  induction items generalizing start with
  | nil =>
    cases ok
    exact (append_nil _).symm
  | cons item _ ih =>
    rw [foldlM_cons] at ok
    obtain ⟨middle, first, rest⟩ := bind_ok.mp ok
    rw [ih rest, writes start item middle first, append_assoc, singleton_append]

def Never (refusal : ε) (computation : Except ε α) : Prop := computation ≠ .error refusal

variable {refusal : ε}

theorem Never.bind (here : Never refusal first)
    (there : ∀ value, first = .ok value → Never refusal (rest value)) :
    Never refusal (first >>= rest) := by
  intro refused
  rcases bind_error.mp refused with now | ⟨value, ok, later⟩
  · exact here now
  · exact there value ok later

theorem never_guard {bad : Prop} [Decidable bad] (differ : error ≠ refusal) :
    Never refusal (refuseIf bad error) :=
  fun refused => differ (refuseIf_error.mp refused).2

theorem never_expect {value : Option α} (differ : error ≠ refusal) : Never refusal (expect value error) :=
  fun refused => differ (expect_error.mp refused).2

theorem never_pure : Never refusal (pure value : Except ε α) := pure_error

theorem never_mapM (each : ∀ item ∈ items, Never refusal (step item)) :
    Never refusal (items.mapM step) := by
  induction items with
  | nil => exact never_pure
  | cons item _ ih =>
    rw [mapM_cons]
    exact (each item mem_cons_self).bind fun _ _ =>
      (ih fun other member => each other (mem_cons_of_mem _ member)).bind fun _ _ => never_pure

/-- What cannot succeed refuses. -/
theorem refused_of_not_ok (never : ∀ result, computation ≠ .ok result) :
    ∃ refusal, computation = .error refusal := by
  cases result : computation with
  | error refusal => exact ⟨refusal, rfl⟩
  | ok value => exact absurd result (never value)

/-- A relabelled success is a success. -/
theorem map_ok {relabel : α → β} :
    computation.map relabel = .ok result ↔ ∃ value, computation = .ok value ∧ relabel value = result := by
  cases computation <;> simp [Except.map]

def Only (allowed : ε → Prop) (computation : Except ε α) : Prop :=
  ∀ refusal, computation = .error refusal → allowed refusal

section Only

variable {allowed : ε → Prop}

theorem only_bind {first : Except ε α} {rest : α → Except ε β} :
    Only allowed (first >>= rest) ↔
      Only allowed first ∧ ∀ value, first = .ok value → Only allowed (rest value) := by
  constructor
  · intro both
    refine ⟨fun refusal refused => ?_, fun value ok refusal refused => ?_⟩
    · exact both refusal (bind_error.mpr (.inl refused))
    · exact both refusal (bind_error.mpr (.inr ⟨value, ok, refused⟩))
  · rintro ⟨here, there⟩ refusal refused
    rcases bind_error.mp refused with now | ⟨value, ok, later⟩
    · exact here refusal now
    · exact there value ok refusal later

/-- Behind a check that only passes. -/
theorem only_check {first : Except ε Unit} {rest : Unit → Except ε β} :
    Only allowed (first >>= rest) ↔ Only allowed first ∧ (first = .ok () → Only allowed (rest ())) :=
  only_bind.trans (and_congr_right fun _ => Unique.forall_iff)

@[simp] theorem only_ok {value : α} : Only allowed (.ok value) := by
  rintro refusal ⟨⟩

@[simp] theorem only_pure {value : α} : Only allowed (pure value : Except ε α) := only_ok

@[simp] theorem only_error : Only allowed (.error refusal : Except ε α) ↔ allowed refusal := by
  constructor
  · exact fun only => only refusal rfl
  · rintro holds _ ⟨⟩
    exact holds

theorem only_guard {bad : Prop} [Decidable bad] :
    Only allowed (refuseIf bad error) ↔ (bad → allowed error) := by
  unfold refuseIf
  split
  · rename_i fires
    simp [fires]
  · rename_i passes
    simp [passes]

theorem only_mapError {ε' : Type} {relabel : ε' → ε} {computation : Except ε' α} :
    Only allowed (computation.mapError relabel) ↔ Only (fun refusal => allowed (relabel refusal)) computation := by
  cases computation <;> simp [Except.mapError]

/-- A loop is refused as its items are. -/
theorem only_mapM {step : α → Except ε β} {items : List α} (each : ∀ item ∈ items, Only allowed (step item)) :
    Only allowed (items.mapM step) := by
  induction items with
  | nil => exact only_pure
  | cons item _ ih =>
    rw [mapM_cons]
    refine only_bind.mpr ⟨each item mem_cons_self, fun _ _ => only_bind.mpr ⟨?_, fun _ _ => only_pure⟩⟩
    exact ih fun other member => each other (mem_cons_of_mem _ member)

end Only

end Checks
