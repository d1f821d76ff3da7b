import Liki.Paper.RecordedFills

/-! The running cash balance. An entry takes its time when its transaction starts
and its balance when it gets the lock: it extends the entry that is newest by
time. The two orders agree as long as transactions get the lock in the order in
which they started. -/
namespace Liki.Paper
open DecimalArithmetic Checks CallSystem Finance PaperState List

variable {ctx : DecimalContext} {state before after : PaperState} {call : PaperCall}
  {answer : PaperAnswer} {runId currency : String}

def PaperState.bookedCash (state : PaperState) (runId currency : String) : ℚ :=
  ((state.cashEntries runId currency).map CashEntry.delta).sum

def CashEntry.Newest (entry : CashEntry) (entries : List CashEntry) : Prop :=
  ∀ other ∈ entries, other.createdAt ≤ entry.createdAt

def StartsInOrder (ctx : DecimalContext) (state : PaperState) (call : PaperCall) : Prop :=
  match call.request with
  | .recordFill orderId fill quoteCurrency =>
    (handle ctx state call).isOk = true → state.findFill fill.externalFillKey = none →
      ∀ order ∈ state.findOrder orderId,
        (∀ entry ∈ state.cashEntries order.paperRunId quoteCurrency,
          entry.createdAt < call.readings.started) ∧
        ctx.Fits (state.bookedCash order.paperRunId quoteCurrency + cashDelta ctx order.side fill)
  | _ => True

def Balanced (state : PaperState) : Prop :=
  ∀ runId currency, ∀ entry ∈ state.cashEntries runId currency,
    entry.Newest (state.cashEntries runId currency) →
      entry.balanceAfter = state.bookedCash runId currency

section Order

variable (rank : String → ℕ)

theorem precedes_total (first second : CashEntry) :
    CashEntry.precedes rank first second ∨ CashEntry.precedes rank second first := by
  rcases lt_trichotomy first.createdAt second.createdAt with earlier | same | later
  · exact .inr (.inl earlier)
  · rcases le_total (rank first.paperCashEntryId) (rank second.paperCashEntryId) with lower | higher
    · exact .inl (.inr ⟨same, lower⟩)
    · exact .inr (.inr ⟨same.symm, higher⟩)
  · exact .inl (.inl later)

theorem precedes_trans (first second third : CashEntry)
    (earlier : CashEntry.precedes rank first second) (later : CashEntry.precedes rank second third) :
    CashEntry.precedes rank first third := by
  rcases earlier with newer | ⟨same, lower⟩
  · rcases later with newest | ⟨again, -⟩
    · exact .inl (newest.trans newer)
    · exact .inl (again ▸ newer)
  · rcases later with newest | ⟨again, smaller⟩
    · exact .inl (same ▸ newest)
    · exact .inr ⟨same.trans again, lower.trans smaller⟩

theorem head_newest {entries rest : List CashEntry}
    (sorted : entries.insertionSort (CashEntry.precedes rank) = entry :: rest) :
    entry ∈ entries ∧ entry.Newest entries := by
  have total : Std.Total (CashEntry.precedes rank) := ⟨precedes_total rank⟩
  have transitive : IsTrans CashEntry (CashEntry.precedes rank) := ⟨precedes_trans rank⟩
  have ordered := pairwise_insertionSort (CashEntry.precedes rank) entries
  rw [sorted, pairwise_cons] at ordered
  have members : ∀ other, other ∈ entries ↔ other = entry ∨ other ∈ rest := by
    intro other
    rw [← mem_insertionSort (CashEntry.precedes rank), sorted, mem_cons]
  refine ⟨(members entry).mpr (.inl rfl), fun other member => ?_⟩
  rcases (members other).mp member with rfl | later
  · exact le_rfl
  · rcases ordered.1 other later with older | ⟨same, -⟩
    · exact older.le
    · exact same.ge

end Order

theorem Balanced.priorBalance (balanced : Balanced state) (rank : String → ℕ)
    (runId currency : String) :
    state.priorBalance rank runId currency = state.bookedCash runId currency := by
  unfold PaperState.priorBalance
  cases sorted : (state.cashEntries runId currency).insertionSort (CashEntry.precedes rank) with
  | nil =>
    have none : state.cashEntries runId currency = [] := by
      have same := length_insertionSort (CashEntry.precedes rank) (state.cashEntries runId currency)
      rw [sorted] at same
      exact eq_nil_of_length_eq_zero same.symm
    rw [PaperState.bookedCash, none]
    rfl
  | cons entry =>
    obtain ⟨member, newest⟩ := head_newest rank sorted
    exact balanced runId currency entry member newest

theorem Unfilled.balanced (unfilled : Unfilled before after) (balanced : Balanced before) :
    Balanced after := by
  intro runId currency entry member newest
  simp only [PaperState.cashEntries, PaperState.bookedCash, unfilled.cash] at member newest ⊢
  exact balanced runId currency entry member newest

theorem FillPosted.balanced {fill : PaperFill} (balanced : Balanced before)
    (posted : FillPosted ctx before call after order fill quoteCurrency ledger)
    (last : ∀ entry ∈ before.cashEntries order.paperRunId quoteCurrency,
      entry.createdAt < call.readings.started)
    (fits : ctx.Fits (before.bookedCash order.paperRunId quoteCurrency +
      cashDelta ctx order.side fill)) : Balanced after := by
  intro runId currency entry member newest
  by_cases mine : order.paperRunId = runId ∧ quoteCurrency = currency
  · obtain ⟨rfl, rfl⟩ := mine
    have entries : ∃ new : CashEntry, after.cashEntries order.paperRunId quoteCurrency =
        before.cashEntries order.paperRunId quoteCurrency ++ [new] ∧
        new.createdAt = call.readings.started ∧ new.delta = cashDelta ctx order.side fill ∧
        new.balanceAfter = ctx.add
          (before.priorBalance call.readings.rank order.paperRunId quoteCurrency) new.delta := by
      rw [PaperState.cashEntries, posted.cash, filter_append]
      refine ⟨⟨call.readings.uid "PCASH", order.paperRunId, call.readings.uid "PFILL", quoteCurrency,
        cashDelta ctx order.side fill, ctx.add (before.priorBalance call.readings.rank order.paperRunId
          quoteCurrency) (cashDelta ctx order.side fill), call.readings.started⟩, ?_, rfl, rfl, rfl⟩
      simp [PaperState.cashEntries]
    obtain ⟨new, entries, started, delta, balance⟩ := entries
    rw [entries] at member newest
    have booked : after.bookedCash order.paperRunId quoteCurrency =
        before.bookedCash order.paperRunId quoteCurrency + new.delta := by
      rw [PaperState.bookedCash, entries, PaperState.bookedCash, map_append, sum_append]
      simp
    have only : entry = new := by
      rcases KeyedRows.mem_added member with older | newly
      · have after := newest new (by simp)
        exact absurd (last entry older) (not_lt.mpr (started ▸ after))
      · exact newly
    rw [only, booked, balance, balanced.priorBalance, delta]
    exact fits
  · have same : after.cashEntries runId currency = before.cashEntries runId currency := by
      rw [PaperState.cashEntries, posted.cash, filter_append, PaperState.cashEntries]
      simp [mine]
    rw [same] at member newest
    rw [balanced runId currency entry member newest, PaperState.bookedCash, PaperState.bookedCash, same]

theorem Balanced.step (reachable : Reachable ctx before) (balanced : Balanced before)
    (inOrder : StartsInOrder ctx before call) (ok : handle ctx before call = .ok (answer, after)) :
    Balanced after := by
  have effect := handle_effect reachable.projected ok
  rcases effect.posts with unfilled | ⟨order, _, _, _, posted⟩
  · exact unfilled.balanced balanced
  · have answered : (handle ctx before call).isOk = true := by
      rw [ok]
      rfl
    simp only [StartsInOrder, posted.request] at inOrder
    obtain ⟨last, fits⟩ := inOrder answered posted.fresh order posted.found
    exact posted.balanced balanced last fits

/-- In every run in which accepted fills start after the entries of their run and
currency, in every state reached: the entry that is newest by time has as its
balance the sum of all deltas. -/
theorem newest_balance_is_booked_cash (ctx : DecimalContext) (calls : List PaperCall)
    (inOrder : Along (handle ctx) (StartsInOrder ctx) .empty calls) (runId currency : String) :
    let entries := (run (handle ctx) .empty calls).cashEntries runId currency
    ∀ entry ∈ entries, (∀ other ∈ entries, other.createdAt ≤ entry.createdAt) →
      entry.balanceAfter = (entries.map CashEntry.delta).sum := by
  have empty : Reachable ctx .empty := ⟨[], rfl⟩
  have balanced : Balanced (run (handle ctx) .empty calls) :=
    empty.run_rule (fun _ _ _ member => nomatch member)
      (fun before call answer after reached kept meets ok => kept.step reached meets ok) inOrder
  exact balanced runId currency

instance (ctx : DecimalContext) (state : PaperState) (call : PaperCall) :
    Decidable (StartsInOrder ctx state call) := by
  obtain ⟨_, _, request⟩ := call
  induction request using PaperRequest.casesOn <;> unfold StartsInOrder <;> infer_instance

open SmallVenue in
/-- The law at the round trip of a purchase and a sale. -/
theorem newest_balance_is_booked_cash_round_trip :
    ∃ entry ∈ (run (handle prec28) .empty roundTrip).cashEntries "RUN" "USD",
      entry.balanceAfter =
        (((run (handle prec28) .empty roundTrip).cashEntries "RUN" "USD").map CashEntry.delta).sum := by
  have newest : ∃ entry ∈ (run (handle prec28) .empty roundTrip).cashEntries "RUN" "USD",
      ∀ other ∈ (run (handle prec28) .empty roundTrip).cashEntries "RUN" "USD",
        other.createdAt ≤ entry.createdAt := by
    decide +kernel
  obtain ⟨entry, member, last⟩ := newest
  have inOrder : Along (handle prec28) (StartsInOrder prec28) .empty roundTrip := by decide +kernel
  exact ⟨entry, member,
    newest_balance_is_booked_cash prec28 roundTrip inOrder "RUN" "USD" entry member last⟩

namespace SmallVenue

def overtaken : List PaperCall :=
  opening limits ++
    [submission limits "3" "buy" .buy 8,
      byWorker 5 "5" (.recordFill "PORD-3" (fill "first" 12 10 3 price_pos three_lots first_named)
        "USD"),
      byWorker 4 "4" (.recordFill "PORD-3" (fill "second" 13 10 5 price_pos five_lots second_named)
        "USD")]

end SmallVenue

open SmallVenue in
/-- The entry that is newest by time lacks the delta of the transaction that got the
lock after it. -/
theorem overtaken_balance_lacks_delta :
    let entries := (run (handle prec28) .empty overtaken).cashEntries "RUN" "USD"
    ∃ entry ∈ entries, (∀ other ∈ entries, other.createdAt ≤ entry.createdAt) ∧
      entry.balanceAfter = -30 ∧ (entries.map CashEntry.delta).sum = -80 := by
  decide +kernel

end Liki.Paper
