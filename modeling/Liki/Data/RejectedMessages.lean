import Liki.Data.VenueBook

/-! What a message that is refused leaves of the book. Levels are applied one by one until the first one
that is invalid, on one side after the other, and nothing takes them back. -/
namespace Liki.Data
open Checks CallSystem

/-- A level that `_apply` accepts. -/
def validLevel (level : Level) : Bool := 0 < level.1 ∧ 0 ≤ level.2

theorem validLevel_iff : validLevel level = true ↔ ¬(level.1 ≤ 0 ∨ level.2 < 0) := by
  simp [validLevel, not_or]

def patchLevels (levels changes : List Level) : List Level := (applyLevels levels changes).2

theorem applyLevels_eq (levels changes : List Level) :
    applyLevels levels changes =
      (if ∀ level ∈ changes, validLevel level then .ok () else .error (.value "invalid order-book level"),
        patchLevels levels (changes.takeWhile validLevel)) := by
  induction changes generalizing levels with
  | nil => rfl
  | cons change _ ih =>
    obtain ⟨price, quantity⟩ := change
    by_cases invalid : price ≤ 0 ∨ quantity < 0
    · have refused : ¬validLevel (price, quantity) := fun valid => validLevel_iff.mp valid invalid
      rw [List.takeWhile_cons_of_neg refused, if_neg fun all => refused (all _ List.mem_cons_self),
        applyLevels, if_pos invalid]
      rfl
    · have accepted : validLevel (price, quantity) := validLevel_iff.mpr invalid
      rw [List.takeWhile_cons_of_pos accepted, applyLevels, if_neg invalid]
      simp only [List.forall_mem_cons, accepted, true_and]
      rw [patchLevels, applyLevels, if_neg invalid]
      split
      · exact ih _
      · exact ih _

def AllValid (bids asks : List Level) : Prop :=
  (∀ level ∈ bids, validLevel level) ∧ ∀ level ∈ asks, validLevel level

instance (bids asks : List Level) : Decidable (AllValid bids asks) := inferInstanceAs (Decidable (_ ∧ _))

/-- The book with the levels before the first invalid one applied to it. -/
def OrderBook.partly (book : OrderBook) (bids asks : List Level) : OrderBook :=
  { book with
    bids := patchLevels book.bids (bids.takeWhile validLevel)
    asks := if ∀ level ∈ bids, validLevel level then patchLevels book.asks (asks.takeWhile validLevel)
      else book.asks }

open OrderBook

theorem applySides_eq (book : OrderBook) (bids asks : List Level) :
    book.applySides bids asks =
      (if AllValid bids asks then .ok () else .error (.value "invalid order-book level"),
        book.partly bids asks) := by
  unfold applySides partly
  rw [applyLevels_eq book.bids bids, applyLevels_eq book.asks asks]
  by_cases first : ∀ level ∈ bids, validLevel level
  · by_cases second : ∀ level ∈ asks, validLevel level
    · have both : AllValid bids asks := ⟨first, second⟩
      simp only [if_pos first, if_pos second, if_pos both]
    · have refused : ¬AllValid bids asks := fun both => second both.2
      simp only [if_pos first, if_neg second, if_neg refused]
  · have refused : ¬AllValid bids asks := fun both => first both.1
    simp only [if_neg first, if_neg refused]

/-- The same quantity, or none, at every price. -/
def SameLevels (first second : List Level) : Prop :=
  ∀ price, KeyedRows.find Prod.fst price first = KeyedRows.find Prod.fst price second

def SameSides (first second : OrderBook) : Prop :=
  SameLevels first.bids second.bids ∧ SameLevels first.asks second.asks

structure SameBook (first second : OrderBook) : Prop where
  sides : SameSides first second
  lastUpdateId : first.lastUpdateId = second.lastUpdateId
  valid : first.valid = second.valid

theorem same_book (book : OrderBook) : SameBook book book := ⟨⟨fun _ => rfl, fun _ => rfl⟩, rfl, rfl⟩

/-- Whenever the message raises, the book is as before or invalid. -/
def Restored (book : OrderBook) (call : BookCall) : Prop :=
  ∀ raised after, book.receive call = (.error raised, after) → SameBook book after ∨ after.valid = false

def Continues (book : OrderBook) (delta : OrderBookDelta) : Prop :=
  book.valid = true ∧ ∃ last ∈ book.lastUpdateId,
    last < delta.finalUpdateId ∧ delta.firstUpdateId ≤ last + 1

/-- No level of the message is invalid, or the book is invalid anyway, or the levels before the first
invalid one come to what the book had. -/
def Untorn (book : OrderBook) : BookCall → Prop
  | .snapshot snapshot => AllValid snapshot.bids snapshot.asks ∨ book.valid = false ∨
      SameSides book (({ book with bids := [], asks := [] } : OrderBook).partly snapshot.bids snapshot.asks)
  | .delta delta => AllValid delta.bids delta.asks ∨ ¬Continues book delta ∨
      SameSides book (book.partly delta.bids delta.asks)

variable {book after : OrderBook} {call : BookCall} {raised : BookError} {delta : OrderBookDelta}

theorem restored_of_ok (ok : book.receive call = (.ok (), after)) : Restored book call := by
  intro raised other refused
  rw [ok] at refused
  cases refused

theorem restored_of_refused (refused : book.receive call = (.error raised, after)) :
    Restored book call ↔ SameBook book after ∨ after.valid = false := by
  constructor
  · exact fun restored => restored raised after refused
  · intro condition other state again
    rw [refused] at again
    cases again
    exact condition

theorem snapshot_restored_iff (book : OrderBook) (snapshot : OrderBookSnapshot) :
    Restored book (.snapshot snapshot) ↔ Untorn book (.snapshot snapshot) := by
  by_cases all : AllValid snapshot.bids snapshot.asks
  · have accepted : ∃ after, book.receive (.snapshot snapshot) = (.ok (), after) := by
      unfold receive applySnapshot
      dsimp only
      rw [applySides_eq, if_pos all]
      exact ⟨_, rfl⟩
    obtain ⟨_, ok⟩ := accepted
    exact iff_of_true (restored_of_ok ok) (.inl all)
  · have refused : book.receive (.snapshot snapshot) = (.error (.value "invalid order-book level"),
        ({ book with bids := [], asks := [] } : OrderBook).partly snapshot.bids snapshot.asks) := by
      unfold receive applySnapshot
      dsimp only
      rw [applySides_eq, if_neg all]
    rw [restored_of_refused refused, Untorn, or_iff_right all, or_comm]
    refine or_congr_right ⟨SameBook.sides, fun same => ⟨same, rfl, rfl⟩⟩

theorem restored_of_not_continues (stops : ¬Continues book delta) :
    Restored book (.delta delta) := by
  intro raised after refused
  unfold receive applyDelta at refused
  dsimp only at refused
  split at refused
  · rename_i last valid number
    split at refused
    · cases refused
    rename_i later
    split at refused
    · cases refused
      exact .inr rfl
    · rename_i next
      exact absurd ⟨valid, last, number, not_le.mp later, (not_not.mp next).1⟩ stops
  · cases refused
    exact .inl (same_book book)

theorem receive_of_continues (continues : Continues book delta) :
    book.receive (.delta delta) =
      (if AllValid delta.bids delta.asks then
        (.ok (), { book.partly delta.bids delta.asks with lastUpdateId := some delta.finalUpdateId })
      else (.error (.value "invalid order-book level"), book.partly delta.bids delta.asks)) := by
  obtain ⟨valid, last, number, later, next⟩ := continues
  have follows : delta.firstUpdateId ≤ last + 1 ∧ last + 1 ≤ delta.finalUpdateId := ⟨next, later⟩
  unfold receive applyDelta
  simp only [valid, Option.mem_def.mp number, if_neg (not_le.mpr later), if_neg (not_not.mpr follows),
    applySides_eq]
  by_cases all : AllValid delta.bids delta.asks
  · simp only [if_pos all]
  · simp only [if_neg all]

theorem delta_restored_iff (book : OrderBook) (delta : OrderBookDelta) :
    Restored book (.delta delta) ↔ Untorn book (.delta delta) := by
  by_cases continues : Continues book delta
  · have valid : book.valid = true := continues.1
    by_cases all : AllValid delta.bids delta.asks
    · have received := receive_of_continues continues
      rw [if_pos all] at received
      exact iff_of_true (restored_of_ok received) (.inl all)
    · have received := receive_of_continues continues
      rw [if_neg all] at received
      have keeps : ¬(book.partly delta.bids delta.asks).valid = false := by
        intro invalid
        exact absurd (valid.symm.trans invalid) (by decide)
      rw [restored_of_refused received, Untorn, or_iff_right all, or_iff_left keeps,
        or_iff_right (not_not.mpr continues)]
      exact ⟨SameBook.sides, fun same => ⟨same, rfl, rfl⟩⟩
  · exact iff_of_true (restored_of_not_continues continues) (.inr (.inl continues))

/-- A message that raises leaves the book as before or invalid, if and only if it does not tear it. -/
theorem restored_iff_untorn (book : OrderBook) (call : BookCall) : Restored book call ↔ Untorn book call := by
  cases call with
  | snapshot snapshot => exact snapshot_restored_iff book snapshot
  | delta delta => exact delta_restored_iff book delta

def oneBid : OrderBook := history [.snapshot ⟨7, [(10, 1)], []⟩]

/-- The snapshot raises after it has emptied the book, which stays valid. -/
theorem emptied_book_valid : ¬∀ book call, Restored book call := by
  intro restored
  have refused : oneBid.receive (.snapshot ⟨8, [(-1, 1)], []⟩) =
      (.error (.value "invalid order-book level"), { oneBid with bids := [] }) := by decide +kernel
  rcases restored _ _ _ _ refused with same | invalid
  · exact absurd (same.sides.1 10) (by decide +kernel)
  · exact absurd invalid (by decide +kernel)

end Liki.Data
