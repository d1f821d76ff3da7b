import Liki.Core
import Liki.Library.CallSystem
import Liki.Library.Checks
import Liki.Library.KeyedRows

/-! The local copy of a venue's order book. It is set by snapshots and patched by deltas, whose numbers
have to continue the book. A method that raises leaves what it has done to the book until then, so each
method returns its result together with the book. -/
namespace Liki.Data
open Checks CallSystem Prod

/-- A price and a quantity. -/
abbrev Level := ℚ × ℚ

structure OrderBookSnapshot where
  lastUpdateId : ℕ
  bids : List Level
  asks : List Level

structure OrderBookDelta where
  firstUpdateId : ℕ
  finalUpdateId : ℕ
  bids : List Level
  asks : List Level
  ordered : firstUpdateId ≤ finalUpdateId

inductive BookError where
  /-- `SequenceGapError`. -/
  | sequenceGap (message : String)
  /-- `ValueError`. -/
  | value (message : String)
  deriving DecidableEq

structure OrderBook where
  bids : List Level
  asks : List Level
  lastUpdateId : Option ℕ
  valid : Bool
  gapCount : ℕ
  duplicateCount : ℕ
  deriving DecidableEq

/-- `_apply`: the levels until the first one that is invalid. -/
def applyLevels : List Level → List Level → Except BookError Unit × List Level
  | levels, [] => (.ok (), levels)
  | levels, (price, quantity) :: changes =>
    if price ≤ 0 ∨ quantity < 0 then (.error (.value "invalid order-book level"), levels)
    else if quantity = 0 then applyLevels (KeyedRows.remove fst price levels) changes
    else applyLevels (KeyedRows.upsert fst (price, quantity) levels) changes

namespace OrderBook

/-- `__init__`. -/
def empty : OrderBook := ⟨[], [], none, false, 0, 0⟩

variable (book : OrderBook)

/-- `self._apply(self.bids, bids)` and `self._apply(self.asks, asks)`. -/
def applySides (bids asks : List Level) : Except BookError Unit × OrderBook :=
  match applyLevels book.bids bids with
  | (.error raised, levels) => (.error raised, { book with bids := levels })
  | (.ok (), levels) =>
    let (result, others) := applyLevels book.asks asks
    (result, { book with
      bids := levels
      asks := others })

/-- `apply_snapshot`. -/
def applySnapshot (snapshot : OrderBookSnapshot) : Except BookError Unit × OrderBook :=
  let cleared : OrderBook := { book with
    bids := []
    asks := [] }
  match cleared.applySides snapshot.bids snapshot.asks with
  | (.error raised, after) => (.error raised, after)
  | (.ok (), after) => (.ok (), { after with
      lastUpdateId := some snapshot.lastUpdateId
      valid := true })

/-- `apply_delta`. -/
def applyDelta (delta : OrderBookDelta) : Except BookError Unit × OrderBook :=
  match book.valid, book.lastUpdateId with
  | true, some last =>
    if delta.finalUpdateId ≤ last then (.ok (), { book with duplicateCount := book.duplicateCount + 1 })
    else if ¬(delta.firstUpdateId ≤ last + 1 ∧ last + 1 ≤ delta.finalUpdateId) then
      (.error (.sequenceGap "order-book sequence gap; resynchronization required"), { book with
        valid := false
        gapCount := book.gapCount + 1 })
    else
      match book.applySides delta.bids delta.asks with
      | (.error raised, after) => (.error raised, after)
      | (.ok (), after) => (.ok (), { after with lastUpdateId := some delta.finalUpdateId })
  | _, _ => (.error (.sequenceGap "order book requires a snapshot before deltas"), book)

/-- `mid_price`. -/
def midPrice : Except BookError ℚ := do
  let gap := BookError.sequenceGap "order-book feature invalid without a continuous book"
  refuseIf (book.valid = false) gap
  let bid ← expect (book.bids.map fst).max? gap
  let ask ← expect (book.asks.map fst).min? gap
  return prec28.div (prec28.add bid ask) 2

end OrderBook

inductive BookCall where
  | snapshot (snapshot : OrderBookSnapshot)
  | delta (delta : OrderBookDelta)

def OrderBook.receive (book : OrderBook) : BookCall → Except BookError Unit × OrderBook
  | .snapshot snapshot => book.applySnapshot snapshot
  | .delta delta => book.applyDelta delta

def handle : Handler OrderBook BookCall Empty (Except BookError Unit)
  | book, call => .ok (book.receive call)

def history (calls : List BookCall) : OrderBook := run handle .empty calls

end Liki.Data
