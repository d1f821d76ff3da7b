import Liki.Paper.RecordedFills
import Liki.Paper.SafetyLatches

/-! How far the working orders of an instrument can carry its position. Fills
move quantity from an order to the position and a cancellation gives it up, so
the extremes of what can still result only change outwards when an order is
admitted. A submission checks the limit with the position and its own quantity;
the orders that already work on the same side are not in the sum. -/
namespace Liki.Paper
open DecimalArithmetic Checks CallSystem Finance PaperState KeyedRows List DecimalContext LedgerState PaperOrder

variable {ctx : DecimalContext} {state before after : PaperState} {call : PaperCall}
  {answer : PaperAnswer} {runId venueId instrumentId : String} {side : Side}

/-- The constant market of an instrument. -/
structure Quotes where
  bid : ℚ
  ask : ℚ
  bid_pos : 0 < bid
  bid_le_ask : bid ≤ ask

namespace Quotes

def reference (quotes : Quotes) (side : Side) : ℚ := if side = .buy then quotes.ask else quotes.bid

def notional (quotes : Quotes) (quantity : ℚ) : ℚ :=
  if 0 ≤ quantity then quantity * quotes.ask else -quantity * quotes.bid

theorem reference_pos (quotes : Quotes) (side : Side) : 0 < quotes.reference side := by
  unfold reference
  split
  · exact quotes.bid_pos.trans_le quotes.bid_le_ask
  · exact quotes.bid_pos

theorem notional_le {quotes : Quotes} {quantity high low limit : ℚ} (below : quantity ≤ high)
    (above : -low ≤ quantity) (long : high * quotes.ask ≤ limit) (short : low * quotes.bid ≤ limit) :
    quotes.notional quantity ≤ limit := by
  have ask := quotes.reference_pos .buy
  have bid := quotes.bid_pos
  unfold notional
  split
  · exact (mul_le_mul_of_nonneg_right below ask.le).trans long
  · exact (mul_le_mul_of_nonneg_right (neg_le.mp above) bid.le).trans short

end Quotes

def PaperOrder.remaining (order : PaperOrder) : ℚ := order.quantity - order.filledQuantity

def PaperOrder.isFor (runId venueId instrumentId : String) (order : PaperOrder) : Bool :=
  order.paperRunId = runId ∧ order.venueId = venueId ∧ order.instrumentId = instrumentId

def PaperOrder.openOn (runId venueId instrumentId : String) (side : Side) (order : PaperOrder) : ℚ :=
  if order.isFor runId venueId instrumentId ∧ order.side = side ∧ order.Working then order.remaining
  else 0

def PaperState.openQuantity (state : PaperState) (runId venueId instrumentId : String) (side : Side) :
    ℚ :=
  KeyedRows.total (openOn runId venueId instrumentId side) state.orders

def PaperState.workingOrders (state : PaperState) (runId venueId instrumentId : String) :
    List PaperOrder :=
  state.orders.filter fun order => order.isFor runId venueId instrumentId ∧ order.Working

def PaperState.resulting (state : PaperState) (runId venueId instrumentId : String)
    (chosen : PaperOrder → Bool) : ℚ :=
  state.positionQuantity runId venueId instrumentId +
    (((state.workingOrders runId venueId instrumentId).filter chosen).map fun order =>
      order.side.sign * order.remaining).sum

variable {order : PaperOrder}

theorem PaperOrder.move_between (nonneg : 0 ≤ order.remaining)
    (working : order.isFor runId venueId instrumentId ∧ order.Working) :
    order.side.sign * order.remaining ≤ order.openOn runId venueId instrumentId .buy ∧
      -order.openOn runId venueId instrumentId .sell ≤ order.side.sign * order.remaining := by
  unfold openOn
  cases side : order.side with
  | buy =>
    rw [if_pos ⟨working.1, rfl, working.2⟩, if_neg (by simp), Side.sign_buy]
    constructor <;> linarith
  | sell =>
    rw [if_neg (by simp), if_pos ⟨working.1, rfl, working.2⟩, Side.sign_sell]
    constructor <;> linarith

theorem PaperOrder.openOn_nonneg (runId venueId instrumentId : String) (side : Side)
    (nonneg : 0 ≤ order.remaining) : 0 ≤ order.openOn runId venueId instrumentId side := by
  unfold openOn
  split
  · exact nonneg
  · exact le_rfl

theorem moved_between {orders : List PaperOrder} (nonneg : ∀ order ∈ orders, 0 ≤ order.remaining)
    (runId venueId instrumentId : String) (chosen : PaperOrder → Bool) :
    let working := orders.filter fun order =>
      order.isFor runId venueId instrumentId ∧ order.Working
    let moved := ((working.filter chosen).map fun order => order.side.sign * order.remaining).sum
    moved ≤ KeyedRows.total (openOn runId venueId instrumentId .buy) orders ∧
      -KeyedRows.total (openOn runId venueId instrumentId .sell) orders ≤ moved := by
  intro working moved
  induction orders with
  | nil => simp [working, moved]
  | cons order _ ih =>
    have first := nonneg order mem_cons_self
    obtain ⟨upper, lower⟩ := ih fun other member => nonneg other (mem_cons_of_mem _ member)
    have buys := openOn_nonneg runId venueId instrumentId .buy first
    have sells := openOn_nonneg runId venueId instrumentId .sell first
    simp only [KeyedRows.total] at upper lower
    simp only [moved, working, KeyedRows.total, map_cons, sum_cons, filter_cons]
    by_cases works : order.isFor runId venueId instrumentId ∧ order.Working
    · obtain ⟨_, _⟩ := move_between first works
      rw [if_pos (by simpa using works), filter_cons]
      split
      · rw [map_cons, sum_cons]
        constructor <;> linarith
      · constructor <;> linarith
    · rw [if_neg (by simpa using works)]
      constructor <;> linarith

theorem resulting_between (nonneg : ∀ order ∈ state.orders, 0 ≤ order.remaining)
    (runId venueId instrumentId : String) (chosen : PaperOrder → Bool) :
    state.resulting runId venueId instrumentId chosen ≤
        state.positionQuantity runId venueId instrumentId +
          state.openQuantity runId venueId instrumentId .buy ∧
      -(state.openQuantity runId venueId instrumentId .sell -
          state.positionQuantity runId venueId instrumentId) ≤
        state.resulting runId venueId instrumentId chosen := by
  obtain ⟨_, _⟩ := moved_between nonneg runId venueId instrumentId chosen
  unfold PaperState.resulting PaperState.openQuantity PaperState.workingOrders
  constructor <;> linarith

/-- An order is never filled beyond its quantity. -/
def Unfinished (state : PaperState) : Prop := ∀ order ∈ state.orders, 0 ≤ order.remaining

theorem Reachable.unfinished (reachable : Reachable ctx state) : Unfinished state := by
  refine reachable.orders_rule (fun old new nonneg move => ?_) fun before call order admission => ?_
  · cases move with
    | doubted => exact nonneg
    | filled loaded moved =>
      obtain ⟨-, ⟨-, complete⟩ | ⟨-, -, partly⟩, -⟩ := fillRecord_ok loaded moved
      · exact sub_nonneg.mpr complete.le
      · exact sub_nonneg.mpr partly.le
    | cancelled => exact nonneg
  · cases admission with
    | submitted _ _ _ _ _ positive =>
      exact sub_nonneg.mpr positive.le

/-- Nothing is filled and no more can be added on any side. -/
structure Calmer (before after : PaperState) : Prop where
  quantity : ∀ runId venueId instrumentId side,
    after.openQuantity runId venueId instrumentId side ≤
      before.openQuantity runId venueId instrumentId side
  unfilled : Unfilled before after

theorem Calmer.of_same (orders : after.orders = before.orders) (unfilled : Unfilled before after) :
    Calmer before after where
  quantity := by
    intro runId venueId instrumentId side
    rw [PaperState.openQuantity, PaperState.openQuantity, orders]
  unfilled := unfilled

theorem Calmer.trans (earlier : Calmer before middle) (later : Calmer middle after) :
    Calmer before after where
  quantity := fun runId venueId instrumentId side =>
    (later.quantity runId venueId instrumentId side).trans
      (earlier.quantity runId venueId instrumentId side)
  unfilled := ⟨later.unfilled.fills.trans earlier.unfilled.fills,
    later.unfilled.positions.trans earlier.unfilled.positions,
    later.unfilled.cash.trans earlier.unfilled.cash⟩

/-- One order changes its state without being filled, and works at most if it did. -/
theorem Calmer.of_update {target : OrderState} (projected : before.Projected)
    (unfinished : Unfinished before) (found : before.findOrder order.paperOrderId = some order)
    (working : order.Working)
    (orders : after.orders = KeyedRows.update paperOrderId order.paperOrderId
      (fun row => { row with finalState := target }) before.orders)
    (unfilled : Unfilled before after) : Calmer before after where
  quantity := by
    intro runId venueId instrumentId side
    rw [PaperState.openQuantity, PaperState.openQuantity, orders,
      total_update _ projected.orderIds found]
    have less : openOn runId venueId instrumentId side { order with finalState := target } ≤
        order.openOn runId venueId instrumentId side := by
      have nonneg := unfinished order (find_mem found)
      by_cases mine : order.isFor runId venueId instrumentId ∧ order.side = side
      · have before : order.openOn runId venueId instrumentId side = order.remaining :=
          if_pos ⟨mine.1, mine.2, working⟩
        rw [before, openOn]
        split
        · exact le_rfl
        · exact nonneg
      · rw [openOn, openOn, if_neg, if_neg]
        · exact fun both => mine ⟨both.1, both.2.1⟩
        · exact fun both => mine ⟨both.1, both.2.1⟩
    linarith
  unfilled := unfilled

theorem Unfinished.update {target : OrderState} (unfinished : Unfinished before)
    (orders : after.orders = KeyedRows.update paperOrderId order.paperOrderId
      (fun row => { row with finalState := target }) before.orders) : Unfinished after := by
  intro other member
  rw [orders] at member
  rcases mem_update member with ⟨old, held, -, rfl⟩ | ⟨older, -⟩
  · exact unfinished old held
  · exact unfinished other older

theorem listed_working
    (listed : order.finalState ∈
    [OrderState.acknowledged, .partiallyFilled, .amended, .cancelPending]) : order.Working := by
  revert listed
  unfold PaperOrder.Working
  cases order.finalState <;> decide

theorem Aftermath.calmer (projected : before.Projected) (unfinished : Unfinished before)
    (step : Aftermath ctx actor latchId before after) : Calmer before after ∧ Unfinished after := by
  cases step with
  | cleared found listed =>
    exact ⟨.of_update projected unfinished found (listed_working listed) rfl ⟨rfl, rfl, rfl⟩,
      unfinished.update rfl⟩
  | fenced => exact ⟨.of_same rfl ⟨rfl, rfl, rfl⟩, unfinished⟩

structure Admitted (ctx : DecimalContext) (before : PaperState) (call : PaperCall) (after : PaperState)
    (runId : String) (intent : OrderIntent) (spec : InstrumentSpec) (snapshot : MarketSnapshot)
    (envelope : RiskEnvelope) (reservation : Reservation) : Prop where
  request : ∃ poolId, call.request = .submit runId intent spec snapshot envelope poolId
  fresh : before.findClientOrder intent.clientOrderId = none
  pinned : ∃ run config, before.joinedRun runId = some (run, config) ∧
    before.content run.riskConfigArtifactId = some (.riskEnvelope envelope) ∧
    instrument config intent.venue intent.instrumentId intent.submissionTime = .ok spec
  checked : ∃ portfolio, pretradeCheck ctx intent spec snapshot envelope
    (before.positionQuantity runId intent.venue intent.instrumentId) portfolio call.readings.now =
      .ok reservation
  orders : after.orders =
    before.orders ++ [acknowledgedOrder (call.readings.uid "PORD") runId intent reservation]
  unfilled : Unfilled before after

theorem Commit.exposes (projected : before.Projected) (unfinished : Unfinished before)
    (ordinary : ∀ order ∈ before.orders, order.Ordinary)
    (commit : Commit ctx before call answer after) : Calmer before after ∨
      (∃ order fill quoteCurrency ledger,
        FillPosted ctx before call after order fill quoteCurrency ledger) ∨
      ∃ runId intent spec snapshot envelope reservation,
        Admitted ctx before call after runId intent spec snapshot envelope reservation := by
  have posts := commit.posts
  cases commit with
  | started =>
    exact .inl (.of_same rfl ⟨rfl, rfl, rfl⟩)
  | reconciled => exact .inl (.of_same rfl ⟨rfl, rfl, rfl⟩)
  | restarted => exact .inl (.of_same rfl ⟨rfl, rfl, rfl⟩)
  | submitted fresh found _ _ pinned configured checked =>
    exact .inr (.inr ⟨_, _, _, _, _, _,
      { request := ⟨_, rfl⟩, fresh := fresh, pinned := ⟨_, _, found, pinned, configured⟩
        checked := ⟨_, checked⟩, orders := rfl, unfilled := ⟨rfl, rfl, rfl⟩ }⟩)
  | doubted found allowed =>
    have named := find_key found
    subst named
    have move : OrderMove ctx _ _ := .doubted allowed
    exact .inl (.of_update projected unfinished found
      (move.from_working (ordinary _ (find_mem found))) rfl ⟨rfl, rfl, rfl⟩)
  | filled =>
    rcases posts with unfilled | posted
    · exact absurd unfilled.fills (by simp [PaperState.postFill, PaperState.updateOrder,
        PaperState.updateReservation, PaperState.logged])
    · exact .inr (.inl posted)
  | cancelled found known allowed =>
    have named := find_key found
    subst named
    exact .inl (.of_update projected unfinished found (listed_working (cancellable known allowed)) rfl
      ⟨rfl, rfl, rfl⟩)
  | stopped => exact .inl (.of_same rfl ⟨rfl, rfl, rfl⟩)
  | latched => exact .inl (.of_same rfl ⟨rfl, rfl, rfl⟩)
  | unlatched => exact .inl (.of_same rfl ⟨rfl, rfl, rfl⟩)

theorem Effect.exposes (reachable : Reachable ctx before)
    (effect : Effect ctx before call answer after) : Calmer before after ∨
      (∃ order fill quoteCurrency ledger,
        FillPosted ctx before call after order fill quoteCurrency ledger) ∨
      ∃ runId intent spec snapshot envelope reservation,
        Admitted ctx before call after runId intent spec snapshot envelope reservation := by
  have projected := reachable.projected
  have unfinished := reachable.unfinished
  cases effect with
  | replayed => exact .inl (.of_same rfl ⟨rfl, rfl, rfl⟩)
  | committed commit => exact commit.exposes projected unfinished reachable.ordinary
  | @latched _ _ _ _ _ middle after commit follows clear fenced =>
    left
    have start : middle.Projected ∧ Unfinished middle ∧ Calmer before middle := by
      refine ⟨commit.projected projected, ?_⟩
      cases commit with
      | latched => exact ⟨unfinished, .of_same rfl ⟨rfl, rfl, rfl⟩⟩
    have chain : after.Projected ∧ Unfinished after ∧ Calmer before after := by
      clear clear fenced
      induction follows with
      | refl => exact start
      | tail _ step ih =>
        obtain ⟨held, unfilled, calm⟩ := ih
        obtain ⟨calmer, kept⟩ := step.calmer held unfilled
        exact ⟨step.projected held, kept, calm.trans calmer⟩
    exact chain.2.2

def PaperState.filledPosition (state : PaperState) (runId venueId instrumentId : String) : ℚ :=
  ((state.instrumentFills runId venueId instrumentId).map fun row =>
    row.side.sign * row.fill.quantity).sum

theorem rebuildLedger_position {rows : List LedgerRow} {fill : Fill}
    (rebuilt : rebuildLedger .exact rank rows fill = .ok ledger) :
    ledger.position =
      (rows.map fun row => row.side.sign * row.fill.quantity).sum + fill.side.sign * fill.quantity := by
  obtain ⟨_, replayed, posted⟩ := rebuildLedger_held rebuilt
  have sum := position_of_foldlM replayed
  have reordered : (rows.insertionSort (LedgerRow.precedes rank)).Perm rows :=
    perm_insertionSort _ _
  have total := (reordered.map fun row => row.side.sign * row.fill.quantity).sum_eq
  obtain ⟨-, _, -, rfl⟩ := apply_ok posted
  simp only [post, signedQuantity, exact_add,
    exact_mul]
  rw [sum, ← total, map_map]
  simp [flat, LedgerRow.toFill, Function.comp_def]

section Posted

variable {order : PaperOrder} {fill : PaperFill} {quoteCurrency : String} {ledger : LedgerState}

theorem FillPosted.positionQuantity
    (posted : FillPosted .exact before call after order fill quoteCurrency ledger)
    (stored : ∀ runId venueId instrumentId, before.positionQuantity runId venueId instrumentId =
      before.filledPosition runId venueId instrumentId) (runId venueId instrumentId : String) :
    after.positionQuantity runId venueId instrumentId =
      before.positionQuantity runId venueId instrumentId +
        if order.isFor runId venueId instrumentId then order.side.sign * fill.quantity else 0 := by
  rw [PaperState.positionQuantity, posted.position]
  by_cases mine : order.paperRunId = runId ∧ order.venueId = venueId ∧ order.instrumentId = instrumentId
  · obtain ⟨rfl, rfl, rfl⟩ := mine
    rw [if_pos ⟨rfl, rfl, rfl⟩, if_pos (by simp [isFor]), stored]
    exact rebuildLedger_position posted.rebuilt
  · rw [if_neg mine, if_neg (by simpa [isFor] using mine), add_zero]
    rfl

theorem FillPosted.filledPosition
    (posted : FillPosted .exact before call after order fill quoteCurrency ledger)
    (fillsKnown : FillsKnown before) (evolves : Evolves before after)
    (runId venueId instrumentId : String) :
    after.filledPosition runId venueId instrumentId =
      before.filledPosition runId venueId instrumentId +
        if order.isFor runId venueId instrumentId then order.side.sign * fill.quantity else 0 := by
  rw [PaperState.filledPosition, posted.rows fillsKnown evolves, map_append, sum_append]
  congr 1
  by_cases mine : order.paperRunId = runId ∧ order.venueId = venueId ∧ order.instrumentId = instrumentId
  · rw [if_pos mine, if_pos (by simpa [isFor] using mine)]
    simp [postedRow, fillRow]
  · rw [if_neg mine, if_neg (by simpa [isFor] using mine)]
    rfl

theorem FillPosted.openQuantity
    (posted : FillPosted .exact before call after order fill quoteCurrency ledger)
    (projected : before.Projected) (ordinary : order.Ordinary)
    (runId venueId instrumentId : String) (side : Side) :
    after.openQuantity runId venueId instrumentId side =
      before.openQuantity runId venueId instrumentId side -
        if order.isFor runId venueId instrumentId ∧ order.side = side then fill.quantity else 0 := by
  obtain ⟨_, record, loaded, moved, orders⟩ := posted.moved
  have move : OrderMove .exact order _ := .filled loaded moved
  have working := move.from_working ordinary
  obtain ⟨-, ended, total⟩ := fillRecord_ok loaded moved
  rw [exact_add] at total
  rw [PaperState.openQuantity, PaperState.openQuantity, orders,
    total_update _ projected.orderIds posted.found]
  have change : openOn runId venueId instrumentId side
      { order with finalState := record.state, filledQuantity := record.filledQuantity } =
      order.openOn runId venueId instrumentId side -
        if order.isFor runId venueId instrumentId ∧ order.side = side then fill.quantity else 0 := by
    by_cases mine : order.isFor runId venueId instrumentId ∧ order.side = side
    · have whole : order.openOn runId venueId instrumentId side = order.remaining :=
        if_pos ⟨mine.1, mine.2, working⟩
      have rest : order.quantity - record.filledQuantity = order.remaining - fill.quantity := by
        rw [total, remaining]
        ring
      rw [whole, if_pos mine, ← rest, openOn]
      rcases ended with ⟨complete, all⟩ | ⟨incomplete, -⟩
      · rw [if_neg (by simp [PaperOrder.Working, complete]), all, sub_self]
      · rw [if_pos ⟨mine.1, mine.2, by simp [PaperOrder.Working, incomplete]⟩]
        rfl
    · rw [if_neg mine, openOn, openOn, if_neg, if_neg, sub_zero]
      · exact fun both => mine ⟨both.1, both.2.1⟩
      · exact fun both => mine ⟨both.1, both.2.1⟩
  rw [change]
  ring

end Posted

theorem Admitted.openQuantity {intent : OrderIntent} {envelope : RiskEnvelope}
    (admitted : Admitted ctx before call after mine intent spec snapshot envelope reservation)
    (runId venueId instrumentId : String) (side : Side) :
    after.openQuantity runId venueId instrumentId side =
      before.openQuantity runId venueId instrumentId side +
        if (mine = runId ∧ intent.venue = venueId ∧ intent.instrumentId = instrumentId) ∧
          intent.side = side then reservation.normalizedQuantity else 0 := by
  rw [PaperState.openQuantity, PaperState.openQuantity, admitted.orders, total_insert]
  congr 1
  simp only [openOn, isFor, acknowledgedOrder, remaining, sub_zero]
  refine if_congr (and_congr decide_eq_true_iff ?_) rfl rfl
  simp [PaperOrder.Working]

def QuotedAt (market : String → String → Quotes) (call : PaperCall) : Prop :=
  match call.request with
  | .submit _ intent _ snapshot _ _ =>
    snapshot.bid = (market intent.venue intent.instrumentId).bid ∧
      snapshot.ask = (market intent.venue intent.instrumentId).ask
  | _ => True

/-- An accepted order on a side where others work keeps the limit together with them. -/
def SameSideChecked (ctx : DecimalContext) (state : PaperState) (call : PaperCall) : Prop :=
  match call.request with
  | .submit runId intent spec snapshot envelope _ =>
    let working := state.openQuantity runId intent.venue intent.instrumentId intent.side
    (handle ctx state call).isOk = true → state.findClientOrder intent.clientOrderId = none →
      working ≠ 0 →
      (intent.side.sign * state.positionQuantity runId intent.venue intent.instrumentId + working +
        floorToIncrement ctx intent.quantity spec.lotSize) * snapshot.reference intent.side ≤
          envelope.maxPositionNotional
  | _ => True

/-- Positions are the sums of their fills, and their extremes are within the limit. -/
structure Contained (market : String → String → Quotes) (state : PaperState) : Prop where
  stored : ∀ runId venueId instrumentId, state.positionQuantity runId venueId instrumentId =
    state.filledPosition runId venueId instrumentId
  bounded : ∀ runId venueId instrumentId run envelope, state.findRun runId = some run →
    state.content run.riskConfigArtifactId = some (.riskEnvelope envelope) →
    (state.positionQuantity runId venueId instrumentId +
        state.openQuantity runId venueId instrumentId .buy) * (market venueId instrumentId).ask ≤
      envelope.maxPositionNotional ∧
    (state.openQuantity runId venueId instrumentId .sell -
        state.positionQuantity runId venueId instrumentId) * (market venueId instrumentId).bid ≤
      envelope.maxPositionNotional

theorem nothing_of_unordered (nothing : ∀ order ∈ state.orders, order.paperRunId ≠ runId)
    (venueId instrumentId : String) :
    (∀ side, state.openQuantity runId venueId instrumentId side = 0) ∧
      state.filledPosition runId venueId instrumentId = 0 := by
  constructor
  · intro side
    refine total_eq_zero fun order member => if_neg fun chosen => ?_
    have mine := of_decide_eq_true chosen.1
    exact nothing order member mine.1
  · have rows : state.instrumentFills runId venueId instrumentId = [] := by
      rw [instrumentFills_eq, filterMap_eq_nil_iff]
      intro fill member
      rw [PaperState.ledgerRow]
      cases found : state.findOrder fill.paperOrderId with
      | none => rfl
      | some order =>
        rw [Option.bind_some, if_neg]
        exact fun mine => nothing order (find_mem found) mine.1
    rw [PaperState.filledPosition, rows]
    rfl

theorem Effect.limit_origin (reachable : Reachable ctx before)
    (effect : Effect ctx before call answer after) {run : PaperRun} {envelope : RiskEnvelope}
    (found : after.findRun runId = some run)
    (pinned : after.content run.riskConfigArtifactId = some (.riskEnvelope envelope)) :
    (∃ old, before.findRun runId = some old ∧
      before.content old.riskConfigArtifactId = some (.riskEnvelope envelope)) ∨
      ∀ order ∈ after.orders, order.paperRunId ≠ runId := by
  rcases effect.run_origin found with ⟨old, held⟩ | ⟨missing, new⟩
  · left
    obtain ⟨_, final, same⟩ := effect.evolves.runs held
    rw [found] at final
    cases final
    obtain ⟨_, _, pins⟩ := reachable.pinned runId old held
    have still := (pins.later effect.evolves same).risk
    rw [pinned] at still
    cases still
    exact ⟨old, held, pins.risk⟩
  · right
    intro order member mine
    rw [new.orders] at member
    obtain ⟨_, listed⟩ := reachable.owned order member
    rw [mine, missing] at listed
    cases listed

/-- The limits carry over to a state where neither extreme moved outwards. -/
theorem Contained.carry (reachable : Reachable ctx before)
    (effect : Effect ctx before call answer after)
    (stored : ∀ runId venueId instrumentId, after.positionQuantity runId venueId instrumentId =
      after.filledPosition runId venueId instrumentId)
    (bounded : ∀ runId venueId instrumentId run envelope, before.findRun runId = some run →
      before.content run.riskConfigArtifactId = some (.riskEnvelope envelope) →
      (after.positionQuantity runId venueId instrumentId +
          after.openQuantity runId venueId instrumentId .buy) * (market venueId instrumentId).ask ≤
        envelope.maxPositionNotional ∧
      (after.openQuantity runId venueId instrumentId .sell -
          after.positionQuantity runId venueId instrumentId) * (market venueId instrumentId).bid ≤
        envelope.maxPositionNotional) : Contained market after where
  stored := stored
  bounded := by
    intro runId venueId instrumentId run envelope found pinned
    rcases effect.limit_origin reachable found pinned with ⟨old, held, risk⟩ | nothing
    · exact bounded runId venueId instrumentId old envelope held risk
    · obtain ⟨closed, flat⟩ := nothing_of_unordered nothing venueId instrumentId
      rw [stored, flat, closed, closed]
      simp [envelope.limits_pos.2.1.le]

theorem instrument_mem
    (ok : instrument (.executionConfig config) venue instrumentId instant = .ok spec) :
    spec ∈ config.instruments := by
  simp only [instrument, orRaise_ok] at ok
  exact mem_of_mem_filter (effectiveAt_mem ok)

section Steps

variable {market : String → String → Quotes}

theorem Calmer.contained (reachable : Reachable ctx before) (contained : Contained market before)
    (effect : Effect ctx before call answer after) (calmer : Calmer before after) :
    Contained market after := by
  have same : ∀ runId venueId instrumentId, after.positionQuantity runId venueId instrumentId =
      before.positionQuantity runId venueId instrumentId := by
    intro runId venueId instrumentId
    rw [PaperState.positionQuantity, calmer.unfilled.position]
    rfl
  refine Contained.carry reachable effect ?_ ?_
  · intro runId venueId instrumentId
    rw [same, contained.stored, PaperState.filledPosition, PaperState.filledPosition,
      calmer.unfilled.rows reachable.fillsKnown effect.evolves]
  · intro runId venueId instrumentId run envelope held risk
    obtain ⟨long, short⟩ := contained.bounded runId venueId instrumentId run envelope held risk
    have ask := (market venueId instrumentId).reference_pos .buy
    have bid := (market venueId instrumentId).bid_pos
    have buys := calmer.quantity runId venueId instrumentId .buy
    have sells := calmer.quantity runId venueId instrumentId .sell
    rw [same]
    constructor
    · refine (mul_le_mul_of_nonneg_right ?_ ask.le).trans long
      linarith
    · refine (mul_le_mul_of_nonneg_right ?_ bid.le).trans short
      linarith

theorem FillPosted.contained {fill : PaperFill} (reachable : Reachable .exact before)
    (contained : Contained market before) (effect : Effect .exact before call answer after)
    (posted : FillPosted .exact before call after order fill quoteCurrency ledger) :
    Contained market after := by
  have ordinary := reachable.ordinary order (find_mem posted.found)
  refine Contained.carry reachable effect ?_ ?_
  · intro runId venueId instrumentId
    rw [posted.positionQuantity contained.stored, contained.stored,
      posted.filledPosition reachable.fillsKnown effect.evolves]
  · intro runId venueId instrumentId run envelope held risk
    obtain ⟨long, short⟩ := contained.bounded runId venueId instrumentId run envelope held risk
    have ask := (market venueId instrumentId).reference_pos .buy
    have bid := (market venueId instrumentId).bid_pos
    have some := fill.quantity_pos
    rw [posted.positionQuantity contained.stored,
      posted.openQuantity reachable.projected ordinary,
      posted.openQuantity reachable.projected ordinary]
    by_cases mine : order.isFor runId venueId instrumentId
    · cases side : order.side with
      | buy =>
        simp only [mine, if_true, Side.sign_buy, one_mul, and_self, reduceCtorEq, and_false, if_false,
          sub_zero]
        constructor
        · refine (mul_le_mul_of_nonneg_right ?_ ask.le).trans long
          linarith
        · refine (mul_le_mul_of_nonneg_right ?_ bid.le).trans short
          linarith
      | sell =>
        simp only [mine, if_true, Side.sign_sell, neg_one_mul, and_self, reduceCtorEq, and_false,
          if_false, sub_zero]
        constructor
        · refine (mul_le_mul_of_nonneg_right ?_ ask.le).trans long
          linarith
        · refine (mul_le_mul_of_nonneg_right ?_ bid.le).trans short
          linarith
    · rw [Bool.not_eq_true] at mine
      simp only [mine, Bool.false_eq_true, if_false, false_and, add_zero, sub_zero]
      exact ⟨long, short⟩

/-- The check of an accepted submission, with the position but without the
orders that work, in a market that does not move. -/
theorem Admitted.alone {intent : OrderIntent} {envelope : RiskEnvelope}
    (reachable : Reachable .exact before)
    (admitted : Admitted .exact before call after runId intent spec snapshot envelope reservation) :
    (intent.side.sign * before.positionQuantity runId intent.venue intent.instrumentId +
      reservation.normalizedQuantity) * snapshot.reference intent.side ≤ envelope.maxPositionNotional := by
  obtain ⟨_, checked⟩ := admitted.checked
  have within := (pretradeCheck_ok checked).2.2.2.1
  have single : spec.multiplier = 1 := by
    obtain ⟨run, _, joined, -, configured⟩ := admitted.pinned
    obtain ⟨_, found, rest⟩ := Option.bind_eq_some_iff.mp joined
    obtain ⟨_, filed, pair⟩ := Option.map_eq_some_iff.mp rest
    cases pair
    obtain ⟨_, _, pins⟩ := reachable.pinned runId run found
    rw [pins.execution] at filed
    cases filed
    exact (pins.spot spec (instrument_mem configured)).2.1
  simp only [exact_mul, exact_add, exact_abs, single,
    mul_one] at within
  refine (mul_le_mul_of_nonneg_right ?_ (snapshot.reference_pos intent.side).le).trans within
  cases intent.side with
  | buy =>
    simp only [Side.sign_buy, one_mul]
    exact le_abs_self _
  | sell =>
    simp only [Side.sign_sell, neg_one_mul]
    refine le_trans (le_of_eq ?_) (neg_le_abs _)
    ring

theorem Admitted.contained {intent : OrderIntent} {envelope : RiskEnvelope}
    (reachable : Reachable .exact before) (contained : Contained market before)
    (ok : handle .exact before call = .ok (answer, after))
    (admitted : Admitted .exact before call after mine intent spec snapshot envelope reservation)
    (quoted : QuotedAt market call) (together : SameSideChecked .exact before call) :
    Contained market after := by
  have effect := handle_effect reachable.projected ok
  have same : ∀ runId venueId instrumentId, after.positionQuantity runId venueId instrumentId =
      before.positionQuantity runId venueId instrumentId := by
    intro runId venueId instrumentId
    rw [PaperState.positionQuantity, admitted.unfilled.position]
    rfl
  obtain ⟨_, request⟩ := admitted.request
  obtain ⟨_, checked⟩ := admitted.checked
  -- With the orders that work on the same side: by the condition, or by the check alone.
  have within : (intent.side.sign * before.positionQuantity mine intent.venue intent.instrumentId +
      before.openQuantity mine intent.venue intent.instrumentId intent.side +
        reservation.normalizedQuantity) *
          (market intent.venue intent.instrumentId).reference intent.side ≤
        envelope.maxPositionNotional := by
    have reference : snapshot.reference intent.side =
        (market intent.venue intent.instrumentId).reference intent.side := by
      simp only [QuotedAt, request] at quoted
      rw [MarketSnapshot.reference, Quotes.reference, quoted.1, quoted.2]
    rw [← reference]
    by_cases none : before.openQuantity mine intent.venue intent.instrumentId intent.side = 0
    · rw [none, add_zero]
      exact admitted.alone reachable
    · have answered : (handle .exact before call).isOk = true := by
        rw [ok]
        rfl
      simp only [SameSideChecked, request] at together
      rw [pretradeCheck_quantity checked]
      exact together answered admitted.fresh none
  refine Contained.carry reachable effect ?_ ?_
  · intro runId venueId instrumentId
    rw [same, contained.stored, PaperState.filledPosition, PaperState.filledPosition,
      admitted.unfilled.rows reachable.fillsKnown effect.evolves]
  · intro runId venueId instrumentId run limits held risk
    obtain ⟨long, short⟩ := contained.bounded runId venueId instrumentId run limits held risk
    rw [same, admitted.openQuantity, admitted.openQuantity]
    by_cases ours : mine = runId ∧ intent.venue = venueId ∧ intent.instrumentId = instrumentId
    · obtain ⟨rfl, rfl, rfl⟩ := ours
      have agreed : limits = envelope := by
        obtain ⟨_, _, joined, pinned, -⟩ := admitted.pinned
        obtain ⟨_, found, rest⟩ := Option.bind_eq_some_iff.mp joined
        obtain ⟨_, -, pair⟩ := Option.map_eq_some_iff.mp rest
        cases pair
        rw [held] at found
        cases found
        rw [risk] at pinned
        cases pinned
        rfl
      subst agreed
      cases side : intent.side with
      | buy =>
        simp only [side, Side.sign_buy, one_mul, Quotes.reference, if_true] at within
        simp only [and_self, if_true, reduceCtorEq, and_false, if_false, add_zero]
        refine ⟨?_, short⟩
        rw [← add_assoc]
        exact within
      | sell =>
        simp only [side, Side.sign_sell, neg_one_mul, Quotes.reference, reduceCtorEq, if_false] at within
        simp only [and_self, if_true, reduceCtorEq, and_false, if_false, add_zero]
        refine ⟨long, (le_of_eq ?_).trans within⟩
        ring
    · simp only [ours, false_and, if_false, add_zero]
      exact ⟨long, short⟩

theorem contained_empty : Contained market .empty where
  stored := fun _ _ _ => rfl
  bounded := fun _ _ _ _ _ found => nomatch found

theorem Contained.step (reachable : Reachable .exact before) (contained : Contained market before)
    (quoted : QuotedAt market call) (together : SameSideChecked .exact before call)
    (ok : handle .exact before call = .ok (answer, after)) : Contained market after := by
  have effect := handle_effect reachable.projected ok
  rcases effect.exposes reachable with calmer | ⟨_, _, _, _, posted⟩ |
    ⟨runId, intent, spec, snapshot, envelope, reservation, admitted⟩
  · exact calmer.contained reachable contained effect
  · exact posted.contained reachable contained effect
  · exact admitted.contained reachable contained ok quoted together

end Steps

/-- In a constant market, in every run in which rounding changes no call and every
order accepted on a side where others work keeps the limit together with them, in
every state reached: whichever of the working orders of an instrument are filled
completely, the resulting position is within the position limit of the run. -/
theorem working_orders_stay_within_limit (ctx : DecimalContext) (market : String → String → Quotes)
    (calls : List PaperCall)
    (unrounded : Along (handle ctx) (fun state call => handle ctx state call = handle .exact state call)
      .empty calls)
    (quoted : ∀ call ∈ calls, QuotedAt market call)
    (together : Along (handle ctx) (SameSideChecked .exact) .empty calls) :
    let state := run (handle ctx) .empty calls
    ∀ runId run envelope, state.findRun runId = some run →
      state.content run.riskConfigArtifactId = some (.riskEnvelope envelope) →
      ∀ venueId instrumentId chosen,
        (market venueId instrumentId).notional (state.resulting runId venueId instrumentId chosen) ≤
          envelope.maxPositionNotional := by
  intro state runId run envelope found pinned venueId instrumentId chosen
  have exactly : state = CallSystem.run (handle .exact) .empty calls := run_congr unrounded
  have reachable : Reachable .exact state := ⟨calls, exactly⟩
  have contained : Contained market state := by
    rw [exactly]
    have empty : Reachable .exact .empty := ⟨[], rfl⟩
    exact empty.run_rule contained_empty
      (fun before call answer after reached kept meets ok => kept.step reached meets.1 meets.2 ok)
      ((along_of_calls quoted _).and (together.transfer unrounded))
  obtain ⟨long, short⟩ := contained.bounded runId venueId instrumentId run envelope found pinned
  obtain ⟨high, low⟩ := resulting_between reachable.unfinished runId venueId instrumentId chosen
  exact Quotes.notional_le high low long short

instance (market : String → String → Quotes) (call : PaperCall) : Decidable (QuotedAt market call) := by
  obtain ⟨_, _, request⟩ := call
  induction request using PaperRequest.casesOn <;> unfold QuotedAt <;> infer_instance

instance (ctx : DecimalContext) (state : PaperState) (call : PaperCall) :
    Decidable (SameSideChecked ctx state call) := by
  obtain ⟨_, _, request⟩ := call
  induction request using PaperRequest.casesOn <;> unfold SameSideChecked <;> infer_instance

namespace SmallVenue

def steady : Quotes := ⟨10, 10, price_pos, price_same⟩

def narrow : RiskEnvelope := ⟨"risk-v1", 100, 100, 1000, 60, .paper, by norm_num⟩

def modest : List PaperCall :=
  opening narrow ++
    [submission narrow "3" "a" .buy 5,
      byWorker 4 "4" (.recordFill "PORD-3" (fill "part" 12 10 2 price_pos (by norm_num) (by decide))
        "USD"),
      submission narrow "5" "b" .buy 4]

def crowded : List PaperCall :=
  opening narrow ++ [submission narrow "3" "a" .buy 8, submission narrow "4" "b" .buy 8]

end SmallVenue

open SmallVenue in
/-- The law at the two modest purchases. -/
theorem working_orders_stay_within_limit_modest :
    let state := run (handle prec28) .empty modest
    ∀ run, state.findRun "RUN" = some run →
      state.content run.riskConfigArtifactId = some (.riskEnvelope narrow) →
        steady.notional (state.resulting "RUN" "paper-x" "BTC-USD" fun _ => true) ≤ 100 := by
  intro state run found pinned
  exact working_orders_stay_within_limit prec28 (fun _ _ => steady) modest (by decide +kernel)
    (by decide +kernel) (by decide +kernel) "RUN" run narrow found pinned "paper-x" "BTC-USD" fun _ => true

open SmallVenue in
/-- Two purchases of 8 at 10 are accepted under a position limit of 100; filled
together they would be worth 160. -/
theorem working_orders_exceed_limit :
    let state := run (handle prec28) .empty crowded
    ∃ run ∈ state.runs, state.content run.riskConfigArtifactId = some (.riskEnvelope narrow) ∧
      narrow.maxPositionNotional <
        steady.notional (state.resulting run.paperRunId "paper-x" "BTC-USD" fun _ => true) := by
  decide +kernel

end Liki.Paper
