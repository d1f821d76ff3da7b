import Liki.Paper.RecordedFills

/-! The order in which fills enter the ledger. A fill is posted to a ledger that
is rebuilt from the earlier fills sorted by time and by their number within
their order, while they were accepted in the order of the table. As long as
every fill comes after the earlier ones in both orders the two agree, and the
stored position is the ledger of the fills as they were accepted. Fills of
different orders that share an instant need not. -/
namespace Liki.Paper
open DecimalArithmetic Checks CallSystem Finance PaperState List LedgerState

variable {ctx : DecimalContext} {state before after : PaperState} {call : PaperCall}
  {answer : PaperAnswer} {runId venueId instrumentId : String} {rows : List LedgerRow}
  {ledger : LedgerState} {row : LedgerRow}

def appliedRows (ctx : DecimalContext) (rows : List LedgerRow) : Except FinanceError LedgerState :=
  (rows.map LedgerRow.toFill).foldlM (apply ctx) (flat 0)

def LedgerRow.Before (first second : LedgerRow) : Prop :=
  first.fill.fillTime < second.fill.fillTime ∨
    (first.fill.fillTime = second.fill.fillTime ∧ first.fill.fillSequence < second.fill.fillSequence)

instance (first second : LedgerRow) : Decidable (first.Before second) :=
  inferInstanceAs (Decidable (_ ∨ _))

/-- An accepted fill comes after all earlier fills of its instrument: later, or at
the same time with a greater number. -/
def InFillOrder (ctx : DecimalContext) (state : PaperState) (call : PaperCall) : Prop :=
  match call.request with
  | .recordFill orderId fill quoteCurrency =>
    (handle ctx state call).isOk = true → state.findFill fill.externalFillKey = none →
      ∀ order ∈ state.findOrder orderId,
        ∀ earlier ∈ state.instrumentFills order.paperRunId order.venueId order.instrumentId,
          earlier.Before (postedRow state call order fill quoteCurrency)
  | _ => True

theorem sorted_rows (rank : String → ℕ) (ordered : rows.Pairwise LedgerRow.Before) :
    rows.insertionSort (LedgerRow.precedes rank) = rows := by
  refine (ordered.imp ?_).insertionSort_eq
  rintro first second (earlier | ⟨same, smaller⟩)
  · exact .inl earlier
  · exact .inr ⟨same, .inl smaller⟩

theorem rebuildLedger_ordered {rank : String → ℕ} {fill : Fill}
    (ordered : rows.Pairwise LedgerRow.Before)
    (fresh : ∀ other ∈ rows, other.fill.paperFillId ≠ row.fill.paperFillId)
    (same : row.toFill = { fill with fillId := row.fill.paperFillId })
    (rebuilt : rebuildLedger ctx rank rows fill = .ok ledger) :
    ∃ accepted, appliedRows ctx (rows ++ [row]) = .ok accepted ∧
      ledger.position = accepted.position ∧ ledger.realizedPnl = accepted.realizedPnl := by
  obtain ⟨earlier, applied, posted⟩ := rebuildLedger_held rebuilt
  rw [sorted_rows rank ordered] at applied
  have listed : earlier.fills = rows.map LedgerRow.toFill := fills_of_foldlM applied
  obtain ⟨-, additive, charged, rfl⟩ := apply_ok posted
  have accepts : earlier.apply ctx row.toFill = .ok (earlier.post ctx row.toFill additive) := by
    have new : (earlier.fills.any fun existing => existing.fillId = row.toFill.fillId) = false := by
      simp only [listed, any_map, any_eq_false, Function.comp_apply, decide_eq_true_eq]
      exact fresh
    have costs : row.toFill.costs = fill.costs := by rw [same]
    rw [apply, new, costs, charged]
    rfl
  refine ⟨earlier.post ctx row.toFill additive, ?_, ?_⟩
  · rw [appliedRows, map_append, foldlM_append, bind_ok]
    refine ⟨earlier, applied, ?_⟩
    rw [map_singleton, foldlM_cons, bind_ok]
    exact ⟨_, accepts, rfl⟩
  · rw [same]
    exact ⟨rfl, rfl⟩

structure LedgersAccepted (ctx : DecimalContext) (state : PaperState) : Prop where
  ordered : ∀ runId venueId instrumentId,
    (state.instrumentFills runId venueId instrumentId).Pairwise LedgerRow.Before
  stored : ∀ runId venueId instrumentId, state.instrumentFills runId venueId instrumentId ≠ [] →
    ∃ position ledger, state.findPosition runId venueId instrumentId = some position ∧
      appliedRows ctx (state.instrumentFills runId venueId instrumentId) = .ok ledger ∧
      position.quantity = ledger.position ∧ position.realizedPnl = ledger.realizedPnl

theorem fill_of_ledgerRow (member : row ∈ state.instrumentFills runId venueId instrumentId) :
    row.fill ∈ state.fills := by
  obtain ⟨_, recorded, joined⟩ := mem_filterMap.mp member
  obtain ⟨_, -, chosen⟩ := Option.bind_eq_some_iff.mp joined
  split at chosen
  · cases chosen
    exact recorded
  · cases chosen

theorem FillPosted.ledgersAccepted {fill : PaperFill} (accepted : LedgersAccepted ctx before)
    (fillsKnown : FillsKnown before) (evolves : Evolves before after)
    (after' : ∀ earlier ∈ before.instrumentFills order.paperRunId order.venueId order.instrumentId,
      earlier.Before (postedRow before call order fill quoteCurrency))
    (posted : FillPosted ctx before call after order fill quoteCurrency ledger) :
    LedgersAccepted ctx after where
  ordered := by
    intro runId venueId instrumentId
    rw [posted.rows fillsKnown evolves]
    split
    · rename_i mine
      obtain ⟨rfl, rfl, rfl⟩ := mine
      rw [pairwise_append]
      refine ⟨accepted.ordered _ _ _, pairwise_singleton _ _, fun earlier member row newest => ?_⟩
      rw [mem_singleton.mp newest]
      exact after' earlier member
    · rw [append_nil]
      exact accepted.ordered _ _ _
  stored := by
    intro runId venueId instrumentId some
    rw [posted.position]
    rw [posted.rows fillsKnown evolves] at some ⊢
    split
    · rename_i mine
      obtain ⟨rfl, rfl, rfl⟩ := mine
      have fresh : ∀ other ∈ before.instrumentFills order.paperRunId order.venueId order.instrumentId,
          other.fill.paperFillId ≠
            (postedRow before call order fill quoteCurrency).fill.paperFillId := fun other member =>
        posted.newRow other.fill (fill_of_ledgerRow member)
      obtain ⟨final, applied, position, realized⟩ :=
        rebuildLedger_ordered (accepted.ordered _ _ _) fresh rfl posted.rebuilt
      exact ⟨_, final, rfl, applied, position, realized⟩
    · rename_i other
      rw [if_neg other, append_nil] at some
      rw [append_nil]
      exact accepted.stored _ _ _ some

theorem LedgersAccepted.step (reachable : Reachable ctx before) (accepted : LedgersAccepted ctx before)
    (inOrder : InFillOrder ctx before call) (ok : handle ctx before call = .ok (answer, after)) :
    LedgersAccepted ctx after := by
  have effect := handle_effect reachable.projected ok
  have evolves := effect.evolves
  have fillsKnown := reachable.fillsKnown
  rcases effect.posts with unfilled | ⟨order, _, _, _, posted⟩
  · refine ⟨fun runId venueId instrumentId => ?_, fun runId venueId instrumentId some => ?_⟩
    · rw [unfilled.rows fillsKnown evolves]
      exact accepted.ordered _ _ _
    · rw [unfilled.position]
      rw [unfilled.rows fillsKnown evolves] at some ⊢
      exact accepted.stored _ _ _ some
  · refine posted.ledgersAccepted accepted fillsKnown evolves ?_
    have answered : (handle ctx before call).isOk = true := by
      rw [ok]
      rfl
    simp only [InFillOrder, posted.request] at inOrder
    exact inOrder answered posted.fresh order posted.found

theorem ledgersAccepted_empty : LedgersAccepted ctx .empty where
  ordered := fun _ _ _ => List.Pairwise.nil
  stored := fun _ _ _ some => absurd rfl some

instance (ctx : DecimalContext) (state : PaperState) (call : PaperCall) :
    Decidable (InFillOrder ctx state call) := by
  obtain ⟨_, _, request⟩ := call
  induction request using PaperRequest.casesOn <;> unfold InFillOrder <;> infer_instance

namespace SmallVenue

/-- Two purchases of one order and a sale of another, all at one instant, and a
third purchase. -/
def tiedFills : List PaperCall :=
  opening limits ++
    [submission limits "3" "buy" .buy 3,
      byWorker 4 "4" (.recordFill "PORD-3" (fill "first" 12 10 1 price_pos one_lot first_named)
        "USD"),
      byWorker 5 "5" (.recordFill "PORD-3" (fill "second" 12 20 1 (by norm_num) one_lot
        second_named) "USD"),
      submission limits "6" "sell" .sell 1,
      byWorker 7 "7" (.recordFill "PORD-6" (fill "sold" 12 30 1 (by norm_num) one_lot sold_named)
        "USD"),
      byWorker 8 "8" (.recordFill "PORD-3" (fill "third" 12 20 1 (by norm_num) one_lot
        (by decide)) "USD")]

end SmallVenue

end Liki.Paper
