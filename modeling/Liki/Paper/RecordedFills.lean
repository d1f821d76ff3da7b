import Liki.Paper.Persistence

/-! The fills on record. A fill belongs to an order that is there to stay, so the
ledger rows of an instrument only grow, and an accepted fill adds one row, one
cash entry and the position that the rebuilt ledger holds. -/
namespace Liki.Paper
open DecimalArithmetic Checks CallSystem Finance PaperState KeyedRows List

variable {ctx : DecimalContext} {state before after : PaperState} {call : PaperCall}
  {answer : PaperAnswer} {runId venueId instrumentId : String}

theorem fillRecord_pos (positive : 0 < order.quantity) (loaded : loadIntent order = .ok intent)
    (moved : fillRecord ctx order intent fill = .ok record) : 0 < record.filledQuantity := by
  obtain ⟨-, ⟨-, complete⟩ | ⟨-, some, -⟩, -⟩ := fillRecord_ok loaded moved
  · rw [complete]
    exact positive
  · exact some

structure FillsKnown (state : PaperState) : Prop where
  known : ∀ row ∈ state.fills, ∃ order, state.findOrder row.paperOrderId = some order
  filled : ∀ order ∈ state.orders,
    0 < order.filledQuantity ↔ ∃ row ∈ state.fills, row.paperOrderId = order.paperOrderId

theorem FillsKnown.move {order : PaperOrder} (fillsKnown : FillsKnown before)
    (orders : after.orders =
      KeyedRows.update PaperOrder.paperOrderId order.paperOrderId change before.orders)
    (fills : after.fills = before.fills)
    (named : ∀ row, (change row).paperOrderId = row.paperOrderId)
    (unfilled : ∀ row, (change row).filledQuantity = row.filledQuantity) : FillsKnown after where
  known := by
    intro row member
    rw [fills] at member
    obtain ⟨_, found⟩ := fillsKnown.known row member
    rw [PaperState.findOrder, orders]
    exact ⟨_, find_update_some named found⟩
  filled := by
    intro other member
    rw [orders] at member
    rw [fills]
    rcases mem_update member with ⟨old, held, -, rfl⟩ | ⟨held, -⟩
    · rw [named, unfilled]
      exact fillsKnown.filled old held
    · exact fillsKnown.filled other held

theorem Commit.fillsKnown (projected : before.Projected) (positive : ∀ order ∈ before.orders,
      0 < order.quantity) (fillsKnown : FillsKnown before)
    (commit : Commit ctx before call answer after) : FillsKnown after := by
  cases commit with
  | started =>
    exact ⟨fillsKnown.known, fillsKnown.filled⟩
  | reconciled => exact ⟨fillsKnown.known, fillsKnown.filled⟩
  | restarted => exact ⟨fillsKnown.known, fillsKnown.filled⟩
  | submitted _ _ _ _ _ _ _ _ _ absent =>
    refine ⟨fun row member => ?_, fun order member => ?_⟩
    · obtain ⟨owner, held⟩ := fillsKnown.known row member
      exact ⟨owner, find_append_some held _⟩
    · rcases mem_added member with older | newest
      · exact fillsKnown.filled order older
      · rw [newest]
        refine iff_of_false (lt_irrefl _) ?_
        rintro ⟨row, recorded, named⟩
        obtain ⟨owner, held⟩ := fillsKnown.known row recorded
        rw [named] at held
        exact absurd (held.symm.trans absent) (by simp)
  | doubted => exact fillsKnown.move rfl rfl (fun _ => rfl) fun _ => rfl
  | filled _ found _ _ _ loaded moved =>
    have named := find_key found
    subst named
    refine ⟨fun row member => ?_, fun order member => ?_⟩
    · have owned : ∃ owner, before.findOrder row.paperOrderId = some owner := by
        rcases mem_added member with older | newest
        · exact fillsKnown.known row older
        · rw [newest]
          exact ⟨_, found⟩
      obtain ⟨_, held⟩ := owned
      refine ⟨_, find_update_some ?_ held⟩
      exact fun _ => rfl
    · rcases mem_update_of_find projected.orderIds found member with rfl | ⟨held, apart⟩
      · refine iff_of_true (fillRecord_pos (positive _ (find_mem found)) loaded moved) ?_
        exact ⟨_, mem_append_right _ (mem_singleton.mpr rfl), rfl⟩
      · rw [fillsKnown.filled order held]
        constructor
        · rintro ⟨row, recorded, same⟩
          exact ⟨row, mem_append_left _ recorded, same⟩
        · rintro ⟨row, recorded, same⟩
          rcases mem_added recorded with older | newest
          · exact ⟨row, older, same⟩
          · rw [newest] at same
            exact absurd same.symm apart
  | cancelled =>
    exact fillsKnown.move rfl rfl (fun _ => rfl) fun _ => rfl
  | stopped => exact ⟨fillsKnown.known, fillsKnown.filled⟩
  | latched => exact ⟨fillsKnown.known, fillsKnown.filled⟩
  | unlatched => exact ⟨fillsKnown.known, fillsKnown.filled⟩

theorem Aftermath.fillsKnown (fillsKnown : FillsKnown before)
    (step : Aftermath ctx actor latchId before after) : FillsKnown after := by
  cases step with
  | cleared =>
    exact fillsKnown.move rfl rfl (fun _ => rfl) fun _ => rfl
  | fenced => exact ⟨fillsKnown.known, fillsKnown.filled⟩

theorem Reachable.quantity_pos (reachable : Reachable ctx state) :
    ∀ order ∈ state.orders, 0 < order.quantity := by
  refine reachable.orders_rule (fun old new positive move => ?_) fun before call order admission => ?_
  · rw [move.sameTerms]
    exact positive
  · cases admission with
    | submitted _ _ _ _ _ positive => exact positive

theorem fillsKnown_empty : FillsKnown .empty where
  known := fun _ member => nomatch member
  filled := fun _ member => nomatch member

theorem Reachable.fillsKnown (reachable : Reachable ctx state) : FillsKnown state := by
  refine reachable.rule_from FillsKnown fillsKnown_empty fun before call _ _ reached kept effect => ?_
  refine effect.preserves FillsKnown kept ?_ ?_
  · exact fun answer after commit => commit.fillsKnown reached.projected reached.quantity_pos kept
  · exact fun actor latchId first second held step => step.fillsKnown held

def PaperState.ledgerRow (state : PaperState) (runId venueId instrumentId : String) (fill : FillRow) :
    Option LedgerRow :=
  (state.findOrder fill.paperOrderId).bind fun order =>
    if order.paperRunId = runId ∧ order.venueId = venueId ∧ order.instrumentId = instrumentId then
      some ⟨fill, order.side, order.clientOrderId⟩
    else none

theorem instrumentFills_eq : state.instrumentFills runId venueId instrumentId =
    state.fills.filterMap (state.ledgerRow runId venueId instrumentId) := rfl

theorem Evolves.ledgerRow (evolves : Evolves before after)
    (found : before.findOrder fill.paperOrderId = some order) :
    after.ledgerRow runId venueId instrumentId fill =
      before.ledgerRow runId venueId instrumentId fill := by
  obtain ⟨_, final, terms⟩ := evolves.orders found
  rw [PaperOrder.SameTerms] at terms
  rw [PaperState.ledgerRow, PaperState.ledgerRow, found, final, Option.bind_some, Option.bind_some, terms]

theorem FillsKnown.instrumentFills (fillsKnown : FillsKnown before) (evolves : Evolves before after)
    (fills : after.fills = before.fills ++ more) :
    after.instrumentFills runId venueId instrumentId =
      before.instrumentFills runId venueId instrumentId ++
        more.filterMap (after.ledgerRow runId venueId instrumentId) := by
  rw [instrumentFills_eq, instrumentFills_eq, fills, filterMap_append]
  congr 1
  refine filterMap_congr fun fill member => ?_
  obtain ⟨_, found⟩ := fillsKnown.known fill member
  exact evolves.ledgerRow found

theorem rebuildLedger_held {rows : List LedgerRow}
    (rebuilt : rebuildLedger ctx rank rows fill = .ok ledger) :
    ∃ held, ((rows.insertionSort (LedgerRow.precedes rank)).map LedgerRow.toFill).foldlM
        (LedgerState.apply ctx) (LedgerState.flat 0) = .ok held ∧
      held.apply ctx fill = .ok ledger := by
  simp only [rebuildLedger, bind_ok] at rebuilt
  obtain ⟨held, replayed, posted⟩ := rebuilt
  rw [← foldlM_map] at replayed
  exact ⟨held, replayed, posted⟩

/-- What an accepted `record_fill` call checked and wrote. -/
structure FillPosted (ctx : DecimalContext) (before : PaperState) (call : PaperCall)
    (after : PaperState) (order : PaperOrder) (fill : PaperFill) (quoteCurrency : String)
    (ledger : LedgerState) : Prop where
  request : call.request = .recordFill order.paperOrderId fill quoteCurrency
  fresh : before.findFill fill.externalFillKey = none
  found : before.findOrder order.paperOrderId = some order
  later : ∀ earlier ∈ before.instrumentFills order.paperRunId order.venueId order.instrumentId,
    earlier.fill.fillTime ≤ fill.fillTime
  rebuilt : rebuildLedger ctx call.readings.rank
    (before.instrumentFills order.paperRunId order.venueId order.instrumentId) (fill.toFill order) =
      .ok ledger
  newRow : ∀ other ∈ before.fills, other.paperFillId ≠ call.readings.uid "PFILL"
  fills : after.fills = before.fills ++ [fillRow (call.readings.uid "PFILL") order.paperOrderId
    ((before.orderFills order.paperOrderId).length + 1) fill quoteCurrency]
  positions : after.positions = KeyedRows.upsert PaperPosition.key ⟨order.paperRunId, order.venueId,
    order.instrumentId, ledger.position, quoteCurrency, ledger.realizedPnl⟩ before.positions
  cash : after.cash = before.cash ++ [⟨call.readings.uid "PCASH", order.paperRunId,
    call.readings.uid "PFILL", quoteCurrency, cashDelta ctx order.side fill,
    ctx.add (before.priorBalance call.readings.rank order.paperRunId quoteCurrency)
      (cashDelta ctx order.side fill), call.readings.started⟩]
  moved : ∃ intent record, loadIntent order = .ok intent ∧ fillRecord ctx order intent fill = .ok record ∧
    after.orders = KeyedRows.update PaperOrder.paperOrderId order.paperOrderId
      (fun row => { row with finalState := record.state, filledQuantity := record.filledQuantity })
      before.orders

structure Unfilled (before after : PaperState) : Prop where
  fills : after.fills = before.fills
  positions : after.positions = before.positions
  cash : after.cash = before.cash

theorem Commit.posts (commit : Commit ctx before call answer after) : Unfilled before after ∨
    ∃ order fill quoteCurrency ledger, FillPosted ctx before call after order fill quoteCurrency ledger := by
  cases commit with
  | started => exact .inl ⟨rfl, rfl, rfl⟩
  | reconciled => exact .inl ⟨rfl, rfl, rfl⟩
  | restarted => exact .inl ⟨rfl, rfl, rfl⟩
  | submitted =>
    exact .inl ⟨rfl, rfl, rfl⟩
  | doubted => exact .inl ⟨rfl, rfl, rfl⟩
  | @filled _ _ _ fill quoteCurrency order _ _ intent record ledger _ _ _ fresh found _ _ later
      loaded moved rebuilt newRow =>
    have named := find_key found
    subst named
    exact .inr ⟨order, fill, quoteCurrency, ledger,
      { request := rfl, fresh := fresh, found := found, later := later, rebuilt := rebuilt
        newRow := newRow, fills := rfl, positions := rfl, cash := rfl
        moved := ⟨intent, record, loaded, moved, rfl⟩ }⟩
  | cancelled => exact .inl ⟨rfl, rfl, rfl⟩
  | stopped => exact .inl ⟨rfl, rfl, rfl⟩
  | latched => exact .inl ⟨rfl, rfl, rfl⟩
  | unlatched => exact .inl ⟨rfl, rfl, rfl⟩

theorem Aftermath.unfilled {actor : Identity} {latchId : String}
    (step : Aftermath ctx actor latchId before after) : Unfilled before after := by
  cases step <;> exact ⟨rfl, rfl, rfl⟩

theorem Effect.posts (effect : Effect ctx before call answer after) : Unfilled before after ∨
    ∃ order fill quoteCurrency ledger, FillPosted ctx before call after order fill quoteCurrency ledger := by
  cases effect with
  | replayed => exact .inl ⟨rfl, rfl, rfl⟩
  | committed commit => exact commit.posts
  | @latched _ _ _ _ _ middle _ commit follows clear fenced =>
    left
    have start : Unfilled before middle := by
      cases commit with
      | latched => exact ⟨rfl, rfl, rfl⟩
    clear clear fenced
    induction follows with
    | refl => exact start
    | tail _ step ih =>
      have next := step.unfilled
      exact ⟨next.fills.trans ih.fills, next.positions.trans ih.positions, next.cash.trans ih.cash⟩

def postedRow (before : PaperState) (call : PaperCall) (order : PaperOrder) (fill : PaperFill)
    (quoteCurrency : String) : LedgerRow :=
  ⟨fillRow (call.readings.uid "PFILL") order.paperOrderId
    ((before.orderFills order.paperOrderId).length + 1) fill quoteCurrency, order.side,
    order.clientOrderId⟩

section Posted

variable {order : PaperOrder} {fill : PaperFill} {quoteCurrency : String} {ledger : LedgerState}

theorem FillPosted.rows (posted : FillPosted ctx before call after order fill quoteCurrency ledger)
    (fillsKnown : FillsKnown before) (evolves : Evolves before after)
    (runId venueId instrumentId : String) :
    after.instrumentFills runId venueId instrumentId =
      before.instrumentFills runId venueId instrumentId ++
        if order.paperRunId = runId ∧ order.venueId = venueId ∧ order.instrumentId = instrumentId then
          [postedRow before call order fill quoteCurrency]
        else [] := by
  rw [fillsKnown.instrumentFills evolves posted.fills]
  congr 1
  obtain ⟨_, final, terms⟩ := evolves.orders posted.found
  rw [PaperOrder.SameTerms] at terms
  have row : after.ledgerRow runId venueId instrumentId (fillRow (call.readings.uid "PFILL")
      order.paperOrderId ((before.orderFills order.paperOrderId).length + 1) fill quoteCurrency) =
      if order.paperRunId = runId ∧ order.venueId = venueId ∧ order.instrumentId = instrumentId then
        some (postedRow before call order fill quoteCurrency)
      else none := by
    simp only [PaperState.ledgerRow, fillRow, final, Option.bind_some]
    rw [terms]
    rfl
  rw [filterMap_cons, row]
  by_cases mine : order.paperRunId = runId ∧ order.venueId = venueId ∧ order.instrumentId = instrumentId
  · rw [if_pos mine, if_pos mine]
    rfl
  · rw [if_neg mine, if_neg mine]
    rfl

theorem FillPosted.position (posted : FillPosted ctx before call after order fill quoteCurrency ledger)
    (runId venueId instrumentId : String) :
    after.findPosition runId venueId instrumentId =
      if order.paperRunId = runId ∧ order.venueId = venueId ∧ order.instrumentId = instrumentId then
        some ⟨order.paperRunId, order.venueId, order.instrumentId, ledger.position, quoteCurrency,
          ledger.realizedPnl⟩
      else before.findPosition runId venueId instrumentId := by
  rw [PaperState.findPosition, posted.positions, find_upsert]
  simp only [PaperPosition.key, Prod.mk.injEq]
  rfl

end Posted

theorem Unfilled.position (unfilled : Unfilled before after) :
    after.findPosition runId venueId instrumentId = before.findPosition runId venueId instrumentId := by
  rw [PaperState.findPosition, unfilled.positions]
  rfl

theorem Unfilled.rows (unfilled : Unfilled before after) (fillsKnown : FillsKnown before)
    (evolves : Evolves before after) :
    after.instrumentFills runId venueId instrumentId =
      before.instrumentFills runId venueId instrumentId := by
  have same : after.fills = before.fills ++ [] := by rw [unfilled.fills, append_nil]
  rw [fillsKnown.instrumentFills evolves same, filterMap_nil, append_nil]

end Liki.Paper
