import Liki.Data.OrderBook
import Liki.Library.NumberedUpdates

/-! The local copy against the book of the venue, over every stream of the venue and every delivery of its
snapshots and deltas. A valid copy is the venue's book at its last number, as long as no level with a price
that is not positive interrupts a method on a valid book. -/
namespace Liki.Data
open Checks CallSystem NumberedUpdates KeyedRows List Function Prod

variable {book after : OrderBook} {levels : List Level} {changes : List Level} {quantities : ℚ → ℚ}
  {result : Except BookError Unit}

inductive BookSide where
  | bid | ask
  deriving DecidableEq

/-- A venue sets one level at a time, to a quantity that is not negative. -/
structure Venue where
  feed : Feed (BookSide × ℚ) ℚ
  started : ∀ level, 0 ≤ feed.start level
  updated : ∀ n, 0 ≤ (feed.update n).2

def Venue.side (venue : Venue) (updateId : ℕ) (side : BookSide) (price : ℚ) : ℚ :=
  venue.feed.valueAt updateId (side, price)

theorem Venue.side_nonneg (venue : Venue) (updateId : ℕ) (side : BookSide) (price : ℚ) :
    0 ≤ venue.side updateId side price :=
  Feed.valueAt_of_forall venue.started venue.updated updateId (side, price)

def OrderBookSnapshot.onSide (snapshot : OrderBookSnapshot) : BookSide → List Level
  | .bid => snapshot.bids
  | .ask => snapshot.asks

def OrderBookDelta.onSide (delta : OrderBookDelta) : BookSide → List Level
  | .bid => delta.bids
  | .ask => delta.asks

def OrderBook.onSide (book : OrderBook) : BookSide → List Level
  | .bid => book.bids
  | .ask => book.asks

def Faithful (venue : Venue) : BookCall → Prop
  | .snapshot snapshot => ∀ side price quantity, (price, quantity) ∈ snapshot.onSide side ↔
      venue.side snapshot.lastUpdateId side price = quantity ∧ 0 < quantity
  | .delta delta => ∀ side,
      (∀ level ∈ delta.onSide side, venue.side delta.finalUpdateId side level.1 = level.2) ∧
      ∀ n, delta.firstUpdateId ≤ n + 1 → n + 1 ≤ delta.finalUpdateId → ∀ price,
        (venue.feed.update n).1 = (side, price) → price ∈ (delta.onSide side).map fst

def quantityAt (levels : List Level) (price : ℚ) : ℚ :=
  ((KeyedRows.find fst price levels).map snd).getD 0

structure Stored (levels : List Level) : Prop where
  distinct : KeyedRows.Distinct fst levels
  positive : ∀ level ∈ levels, 0 < level.2

theorem stored_nil : Stored [] := ⟨nodup_nil, fun _ member => absurd member not_mem_nil⟩

variable {price : ℚ} {asks bids : List Level}

theorem Stored.mem_iff (stored : Stored levels) :
    (price, quantity) ∈ levels ↔ quantityAt levels price = quantity ∧ 0 < quantity := by
  constructor
  · intro member
    have found : KeyedRows.find Prod.fst price levels = some (price, quantity) :=
      find_of_mem stored.distinct member
    refine ⟨?_, stored.positive _ member⟩
    rw [quantityAt, found]
    rfl
  · rintro ⟨same, positive⟩
    unfold quantityAt at same
    cases found : KeyedRows.find Prod.fst price levels with
    | none =>
      rw [found] at same
      exact absurd same positive.ne
    | some level =>
      rw [found] at same
      have named : level.1 = price := find_key found
      have entry : level = (price, quantity) := Prod.ext named same
      exact entry ▸ find_mem found

theorem quantityAt_changed
    (found : ∀ other, KeyedRows.find fst other changed =
      if price = other then level else KeyedRows.find fst other levels) :
    quantityAt changed = update (quantityAt levels) price ((level.map snd).getD 0) := by
  funext other
  rw [quantityAt, found]
  by_cases same : price = other
  · subst same
    rw [if_pos rfl, update_self]
  · rw [if_neg same, update_of_ne (Ne.symm same)]
    rfl

theorem quantityAt_upsert (price quantity : ℚ) :
    quantityAt (KeyedRows.upsert fst (price, quantity) levels) =
      update (quantityAt levels) price quantity :=
  quantityAt_changed fun _ => find_upsert (price, quantity)

theorem quantityAt_remove (price : ℚ) :
    quantityAt (KeyedRows.remove fst price levels) = Function.update (quantityAt levels) price 0 :=
  quantityAt_changed fun _ => find_remove

theorem applyLevels_ok (stored : Stored levels)
    (ok : applyLevels levels changes = (.ok (), applied)) :
    Stored applied ∧ quantityAt applied = patched (quantityAt levels) changes := by
  induction changes generalizing levels with
  | nil =>
    cases ok
    exact ⟨stored, rfl⟩
  | cons change changes ih =>
    obtain ⟨price, quantity⟩ := change
    unfold applyLevels at ok
    split at ok
    · cases ok
    · rename_i sound
      rw [not_or, not_lt] at sound
      split at ok
      · rename_i zero
        have removed : Stored (KeyedRows.remove fst price levels) :=
          ⟨distinct_remove stored.distinct price,
            fun level member => stored.positive level (mem_filter.mp member).1⟩
        obtain ⟨kept, quantities⟩ := ih removed ok
        rw [quantityAt_remove] at quantities
        exact ⟨kept, zero ▸ quantities⟩
      · rename_i nonzero
        have inserted : Stored (KeyedRows.upsert fst (price, quantity) levels) := by
          refine ⟨distinct_upsert stored.distinct _, fun level member => ?_⟩
          rcases mem_upsert member with rfl | older
          · exact lt_of_le_of_ne sound.2 (Ne.symm nonzero)
          · exact stored.positive level older
        obtain ⟨kept, quantities⟩ := ih inserted ok
        rw [quantityAt_upsert] at quantities
        exact ⟨kept, quantities⟩

theorem applyLevels_of_valid (sound : ∀ level ∈ changes, 0 < level.1 ∧ 0 ≤ level.2) (levels : List Level) :
    ∃ applied, applyLevels levels changes = (.ok (), applied) := by
  induction changes generalizing levels with
  | nil => exact ⟨levels, rfl⟩
  | cons change _ ih =>
    obtain ⟨price, quantity⟩ := change
    obtain ⟨positive, nonneg⟩ := sound (price, quantity) mem_cons_self
    have rest := ih fun level member => sound level (mem_cons_of_mem _ member)
    unfold applyLevels
    rw [if_neg (not_or.mpr ⟨not_le.mpr positive, not_lt.mpr nonneg⟩)]
    split
    · exact rest _
    · exact rest _

def sideLevels (bids asks : List Level) : BookSide → List Level
  | .bid => bids
  | .ask => asks

open OrderBook

theorem applySides_ok (stored : ∀ side, Stored (book.onSide side))
    (ok : book.applySides bids asks = (.ok (), after)) : after.valid = book.valid ∧
      after.lastUpdateId = book.lastUpdateId ∧ ∀ side, Stored (after.onSide side) ∧
        quantityAt (after.onSide side) = patched (quantityAt (book.onSide side))
          (sideLevels bids asks side) := by
  unfold applySides at ok
  split at ok
  · cases ok
  · rename_i levels applied
    rcases others : applyLevels book.asks asks with ⟨_, _⟩
    rw [others] at ok
    obtain ⟨rfl, rfl⟩ := mk.inj ok
    refine ⟨rfl, rfl, fun side => ?_⟩
    cases side with
    | bid => exact applyLevels_ok (stored .bid) applied
    | ask => exact applyLevels_ok (stored .ask) others

theorem applySides_of_valid (book : OrderBook)
    (sound : ∀ side, ∀ level ∈ sideLevels bids asks side, 0 < level.1 ∧ 0 ≤ level.2) :
    ∃ after, book.applySides bids asks = (.ok (), after) := by
  obtain ⟨levels, first⟩ : ∃ levels, applyLevels book.bids bids = (.ok (), levels) :=
    applyLevels_of_valid (sound .bid) book.bids
  obtain ⟨_, second⟩ : ∃ levels, applyLevels book.asks asks = (.ok (), levels) :=
    applyLevels_of_valid (sound .ask) book.asks
  unfold applySides
  rw [first]
  dsimp only
  rw [second]
  exact ⟨_, rfl⟩

theorem applySides_frame (book : OrderBook) (bids asks : List Level) :
    (book.applySides bids asks).2.valid = book.valid ∧
    (book.applySides bids asks).2.lastUpdateId = book.lastUpdateId := by
  unfold applySides
  split
  · exact ⟨rfl, rfl⟩
  · exact ⟨rfl, rfl⟩

def CopiesAt (venue : Venue) (book : OrderBook) (updateId : ℕ) : Prop :=
  ∀ side, Stored (book.onSide side) ∧ quantityAt (book.onSide side) = venue.side updateId side

def Copies (venue : Venue) (book : OrderBook) : Prop :=
  book.valid = true → ∃ updateId, book.lastUpdateId = some updateId ∧ CopiesAt venue book updateId

def Priced (book : OrderBook) : BookCall → Prop
  | .snapshot snapshot => book.valid = true → ∀ side, ∀ level ∈ snapshot.onSide side, 0 < level.1
  | .delta delta => book.valid = true → ∀ last ∈ book.lastUpdateId, last < delta.finalUpdateId →
    delta.firstUpdateId ≤ last + 1 → ∀ side, ∀ level ∈ delta.onSide side, 0 < level.1

variable {venue : Venue} {delta : OrderBookDelta}

theorem snapshot_copies (faithful : Faithful venue (.snapshot snapshot))
    (priced : Priced book (.snapshot snapshot)) : Copies venue (book.applySnapshot snapshot).2 := by
  have sides : sideLevels snapshot.bids snapshot.asks = snapshot.onSide :=
    funext fun side => by cases side <;> rfl
  unfold applySnapshot
  dsimp only
  generalize shown : ({ book with bids := [], asks := [] } : OrderBook) = cleared
  have empty : ∀ side, cleared.onSide side = [] := by
    intro side
    subst shown
    cases side <;> rfl
  have validity : cleared.valid = book.valid := by
    subst shown
    rfl
  split
  · rename_i raised after stopped
    -- only an invalid book is left by a snapshot that raises
    intro valid
    have kept := (applySides_frame cleared snapshot.bids snapshot.asks).1
    rw [stopped] at kept
    have sound : ∀ side, ∀ level ∈ sideLevels snapshot.bids snapshot.asks side, 0 < level.1 ∧
      0 ≤ level.2 := by
      rw [sides]
      intro side level member
      exact ⟨priced (validity ▸ kept ▸ valid) side level member,
        ((faithful side level.1 level.2).mp member).2.le⟩
    obtain ⟨applied, ok⟩ := applySides_of_valid cleared sound
    rw [stopped] at ok
    cases ok
  · rename_i after applied
    obtain ⟨-, -, copied⟩ := applySides_ok (fun side => (empty side).symm ▸ stored_nil) applied
    refine fun _ => ⟨snapshot.lastUpdateId, rfl, fun side => ?_⟩
    obtain ⟨stored, quantities⟩ := copied side
    refine ⟨stored, quantities.trans ?_⟩
    rw [empty side, sides]
    refine patched_eq (fun level member =>
      ((faithful side level.1 level.2).mp member).1) fun price differ => ?_
    have positive : 0 < venue.side snapshot.lastUpdateId side price :=
      lt_of_le_of_ne (venue.side_nonneg _ side price) differ
    exact mem_map.mpr ⟨_, (faithful side price _).mpr ⟨rfl, positive⟩, rfl⟩

theorem delta_copies (copies : Copies venue book) (faithful : Faithful venue (.delta delta))
    (priced : Priced book (.delta delta)) : Copies venue (book.applyDelta delta).2 := by
  have sides : sideLevels delta.bids delta.asks = delta.onSide := funext fun side => by cases side <;> rfl
  unfold applyDelta
  split
  · rename_i last valid known
    obtain ⟨updateId, same, copied⟩ := copies valid
    rw [known, Option.some.injEq] at same
    subst same
    split
    · exact fun _ => ⟨last, known, copied⟩
    · rename_i newer
      split
      · exact nofun
      · rename_i continues
        rw [not_not] at continues
        have sound : ∀ side, ∀ level ∈ sideLevels delta.bids delta.asks side, 0 < level.1 ∧
          0 ≤ level.2 := by
          rw [sides]
          intro side level member
          refine ⟨priced valid last known (not_le.mp newer) continues.1 side level member, ?_⟩
          exact (faithful side).1 level member ▸ venue.side_nonneg _ side level.1
        obtain ⟨after, applied⟩ := applySides_of_valid book sound
        rw [applied]
        obtain ⟨-, -, patches⟩ := applySides_ok (fun side => (copied side).1) applied
        refine fun _ => ⟨delta.finalUpdateId, rfl, fun side => ?_⟩
        obtain ⟨stored, quantities⟩ := patches side
        refine ⟨stored, quantities.trans ?_⟩
        rw [(copied side).2, sides]
        refine patched_valueAt (fun price => (side, price)) (not_le.mp newer).le (faithful side).1
          fun n after before price => (faithful side).2 n ?_ before price
        have begins := continues.1
        omega
  · exact copies

def Gap (book : OrderBook) (delta : OrderBookDelta) : Prop :=
  book.valid = true ∧ ∃ last ∈ book.lastUpdateId, last + 1 < delta.firstUpdateId

theorem delta_gap (gap : Gap book delta) : book.applyDelta delta =
    (.error (.sequenceGap "order-book sequence gap; resynchronization required"), { book with
      valid := false
      gapCount := book.gapCount + 1 }) := by
  obtain ⟨valid, _, known, _⟩ := gap
  have ordered := delta.ordered
  unfold applyDelta
  rw [valid, Option.mem_def.mp known]
  dsimp only
  rw [if_neg (by omega), if_pos (by omega)]

theorem delta_ok (ok : book.applyDelta delta = (.ok (), after)) :
    after.lastUpdateId = some delta.finalUpdateId ∨
      ((∃ last ∈ book.lastUpdateId, delta.finalUpdateId ≤ last) ∧
        after = { book with duplicateCount := book.duplicateCount + 1 }) := by
  unfold applyDelta at ok
  split at ok
  · rename_i last valid known
    split at ok
    · rename_i older
      exact .inr ⟨⟨last, known, older⟩, (mk.inj ok).2.symm⟩
    · split at ok
      · cases (mk.inj ok).1
      · split at ok
        · cases (mk.inj ok).1
        · obtain ⟨-, rfl⟩ := mk.inj ok
          exact .inl rfl
  · cases (mk.inj ok).1

theorem invalid_raises (invalid : book.valid = false) (delta : OrderBookDelta) :
    book.applyDelta delta = (.error (.sequenceGap "order book requires a snapshot before deltas"), book) ∧
      book.midPrice = .error (.sequenceGap "order-book feature invalid without a continuous book") := by
  refine ⟨?_, ?_⟩
  · unfold applyDelta
    rw [invalid]
  · exact refuseIf_bind_of invalid _

theorem next_receive (book : OrderBook) (call : BookCall) :
    next handle book call = (book.receive call).2 := rfl

theorem next_copies (copies : Copies venue book) (call : BookCall) (faithful : Faithful venue call)
    (priced : Priced book call) : Copies venue (next handle book call) := by
  cases call with
  | snapshot => exact snapshot_copies faithful priced
  | delta => exact delta_copies copies faithful priced

theorem invalid_run (invalid : book.valid = false) (calls : List BookCall)
    (deltas : ∀ call ∈ calls, ∃ delta, call = .delta delta) : (run handle book calls).valid = false := by
  induction calls generalizing book with
  | nil => exact invalid
  | cons call _ ih =>
    obtain ⟨delta, rfl⟩ := deltas call mem_cons_self
    have same : next handle book (.delta delta) = book := congrArg snd (invalid_raises invalid delta).1
    rw [run_cons, same]
    exact ih invalid fun other member => deltas other (mem_cons_of_mem _ member)

structure FaithfulCopy (venue : Venue) (calls : List BookCall) : Prop where
  copies : ∀ earlier later, calls = earlier ++ later → (history earlier).valid = true →
    ∃ updateId, (history earlier).lastUpdateId = some updateId ∧ ∀ side,
      Stored ((history earlier).onSide side) ∧
        ∀ price quantity, (price, quantity) ∈ (history earlier).onSide side ↔
        venue.side updateId side price = quantity ∧ 0 < quantity
  /-- A delta that does not raise is applied, or its number is not beyond the last. -/
  skips : ∀ earlier delta later, calls = earlier ++ .delta delta :: later →
    reply handle (history earlier) (.delta delta) = .ok (.ok ()) →
    (history (earlier ++ [.delta delta])).lastUpdateId = some delta.finalUpdateId ∨
      ∃ last ∈ (history earlier).lastUpdateId, delta.finalUpdateId ≤ last
  gaps : ∀ earlier delta between later, calls = earlier ++ .delta delta :: (between ++ later) →
    Gap (history earlier) delta → (∀ call ∈ between, ∃ delta, call = .delta delta) →
    (history (earlier ++ .delta delta :: between)).valid = false ∧
      (history (earlier ++ .delta delta :: between)).midPrice =
        .error (.sequenceGap "order-book feature invalid without a continuous book")

theorem history_append (earlier later : List BookCall) :
    history (earlier ++ later) = run handle (history earlier) later := run_append earlier later

variable {earlier : List BookCall}

theorem history_skips (ok : reply handle (history earlier) (.delta delta) = .ok (.ok ())) :
    (history (earlier ++ [.delta delta])).lastUpdateId = some delta.finalUpdateId ∨
      ∃ last ∈ (history earlier).lastUpdateId, delta.finalUpdateId ≤ last := by
  have result : (history earlier).applyDelta delta =
    (.ok (), next handle (history earlier) (.delta delta)) :=
    Prod.ext (Except.ok.inj ok) rfl
  rw [history_append]
  exact (delta_ok result).imp id And.left

theorem history_gap (gap : Gap (history earlier) delta)
    (deltas : ∀ call ∈ between, ∃ delta, call = .delta delta) :
    (history (earlier ++ .delta delta :: between)).valid = false := by
  rw [history_append, run_cons]
  refine invalid_run ?_ between deltas
  rw [next_receive, receive, delta_gap gap]

/-- The copy keeps what is promised, as long as every price is positive that is applied to a valid book. -/
theorem faithful_copy (venue : Venue) (calls : List BookCall)
    (faithful : ∀ call ∈ calls, Faithful venue call)
    (priced : Along handle Priced .empty calls) : FaithfulCopy venue calls where
  copies := by
    rintro earlier later rfl valid
    have start : Copies venue .empty := nofun
    have along := (along_append.mp priced).1.and
      (along_of_calls (fun call member => faithful call (mem_append_left _ member)) empty)
    have copies : Copies venue (history earlier) :=
      run_invariant (Copies venue) start
        (fun book call copies met => next_copies copies call met.2 met.1) along
    obtain ⟨updateId, last, copied⟩ := copies valid
    refine ⟨updateId, last, fun side => ⟨(copied side).1, fun price quantity => ?_⟩⟩
    rw [(copied side).1.mem_iff, (copied side).2]
  skips := by
    rintro earlier delta later - ok
    exact history_skips ok
  gaps := by
    rintro earlier delta between later - gap deltas
    have invalid := history_gap gap deltas
    exact ⟨invalid, (invalid_raises invalid delta).2⟩

def sampleVenue : Venue where
  feed :=
    { start := fun _ => 0
      update := fun n => if n = 1 then ((.bid, -1), 1) else ((.bid, 10), 1) }
  started := fun _ => le_rfl
  updated := fun n => by
    dsimp only
    split <;> norm_num

theorem sampleSnapshot_faithful : Faithful sampleVenue (.snapshot ⟨0, [], []⟩) := by
  intro side price quantity
  constructor
  · intro held
    cases side <;> exact absurd held not_mem_nil
  · rintro ⟨rfl, positive⟩
    exact absurd positive (lt_irrefl 0)

def sampleUpdate : OrderBookDelta := ⟨1, 1, [(10, 1)], [], le_rfl⟩

theorem sampleUpdate_faithful : Faithful sampleVenue (.delta sampleUpdate) := by
  have accurate : ∀ level ∈ sampleUpdate.onSide .bid,
    sampleVenue.side 1 .bid level.1 = level.2 := by decide +kernel
  intro side
  refine ⟨fun level member => ?_, fun n _ before price updated => ?_⟩
  · cases side with
    | bid => exact accurate level member
    | ask => exact absurd member not_mem_nil
  · have bound : n + 1 ≤ 1 := before
    obtain rfl : n = 0 := by omega
    cases updated
    decide +kernel

theorem sampleUpdate_priced : Along handle Priced .empty [.snapshot ⟨0, [], []⟩, .delta sampleUpdate] := by
  have priced : ∀ side, ∀ level ∈ sampleUpdate.onSide side, 0 < level.1 := by
    intro side level member
    cases side with
    | bid => exact (mem_singleton.mp member) ▸ by norm_num
    | ask => exact absurd member not_mem_nil
  exact ⟨nofun, fun _ _ _ _ _ => priced, trivial⟩

theorem sampleUpdate_copied : FaithfulCopy sampleVenue [.snapshot ⟨0, [], []⟩, .delta sampleUpdate] ∧
    history [.snapshot ⟨0, [], []⟩, .delta sampleUpdate] = ⟨[(10, 1)], [], some 1, true, 0, 0⟩ := by
  refine ⟨faithful_copy sampleVenue _ (fun call member => ?_) sampleUpdate_priced, by decide +kernel⟩
  rcases mem_cons.mp member with rfl | later
  · exact sampleSnapshot_faithful
  · rw [mem_singleton.mp later]
    exact sampleUpdate_faithful

def sampleDelta : OrderBookDelta := ⟨1, 2, [(10, 1), (-1, 1)], [], by decide⟩

def sampleFeed : List BookCall := [.snapshot ⟨0, [], []⟩, .delta sampleDelta]

theorem sampleDelta_faithful : Faithful sampleVenue (.delta sampleDelta) := by
  have accurate : ∀ level ∈ sampleDelta.onSide .bid,
    sampleVenue.side 2 .bid level.1 = level.2 := by decide +kernel
  intro side
  refine ⟨fun level member => ?_, fun n _ before price updated => ?_⟩
  · cases side with
    | bid => exact accurate level member
    | ask => exact absurd member not_mem_nil
  · have bound : n + 1 ≤ 2 := before
    obtain rfl | rfl : n = 0 ∨ n = 1 := by omega
    · cases updated
      decide +kernel
    · cases updated
      decide +kernel

theorem sampleFeed_faithful : ∀ call ∈ sampleFeed, Faithful sampleVenue call := by
  intro call member
  rcases mem_cons.mp member with rfl | later
  · exact sampleSnapshot_faithful
  · rw [mem_singleton.mp later]
    exact sampleDelta_faithful

/-- The delta is half applied, and the book still valid. -/
theorem half_applied : (∀ call ∈ sampleFeed, Faithful sampleVenue call) ∧
    ¬FaithfulCopy sampleVenue sampleFeed := by
  refine ⟨sampleFeed_faithful, fun copy => ?_⟩
  obtain ⟨_, last, copied⟩ := copy.copies sampleFeed [] (append_nil _).symm (by decide +kernel)
  have number : (history sampleFeed).lastUpdateId = some 0 := by decide +kernel
  rw [number, Option.some.injEq] at last
  subst last
  have held : ((10 : ℚ), (1 : ℚ)) ∈ (history sampleFeed).onSide .bid := by decide +kernel
  have quantity : sampleVenue.side 0 .bid 10 = 1 := (((copied .bid).2 10 1).mp held).1
  exact absurd quantity (by decide +kernel)

end Liki.Data
