import Liki.Finance.BacktestSteps
import Liki.Paper.AcceptanceOrder
import Liki.Paper.SimulatedFills

/-! The execution rules of the replay, asked of the paper path. Both simulate fills
with one model. The replay then keeps the rules of the quote (`QuoteRules`), lets an
immediate order live for one snapshot and sells nothing that it does not hold. The
paper path hands the same fill to `record_fill`, which knows none of these rules:
they hold of a recorded fill exactly when the order, the book and the position
make them hold. -/
namespace Liki.Paper
open DecimalArithmetic Checks CallSystem Finance PaperState KeyedRows DecimalContext
open DeterministicBacktest (QuoteRules violatesLimit)

variable {ctx : DecimalContext} {state before after : PaperState} {call : PaperCall}
  {answer : PaperAnswer} {order : PaperOrder} {fill : PaperFill} {spec : InstrumentSpec}
  {model : FillModel} {snapshot : MarketSnapshot} {simulated : SimulatedFill}

/-- An order that does not outlive the first snapshot it is due on. -/
def Immediate (intent : OrderIntent) : Prop := intent.timeInForce = .ioc ∨ intent.timeInForce = .fok

def Tried (ctx : DecimalContext) (calls : List PaperCall) (order : PaperOrder) : Prop :=
  ∃ earlier call rest snapshot model schedule answer, calls = earlier ++ call :: rest ∧
    call.request = .simulateOrder order.paperOrderId snapshot model schedule ∧
    order.intent.submissionTime + model.latency ≤ snapshot.timestamp ∧
    reply (handle ctx) (run (handle ctx) .empty earlier) call = .ok answer

def PaperState.pinnedSpec (state : PaperState) (order : PaperOrder) (instant : Time) :
    Except ServiceError InstrumentSpec := do
  let (_, config) ← expect (state.joinedRun order.paperRunId) (.domain "PAPER_EXECUTION_CONFIG_MISSING")
  instrument config order.venueId order.instrumentId instant

def PaperState.heldPosition (ctx : DecimalContext) (rank : String → ℕ) (state : PaperState)
    (order : PaperOrder) : Except FinanceError ℚ :=
  (appliedRows ctx ((state.instrumentFills order.paperRunId order.venueId
    order.instrumentId).insertionSort (LedgerRow.precedes rank))).map LedgerState.position

structure ReplayRules (ctx : DecimalContext) (spec : InstrumentSpec) (order : PaperOrder)
    (simulated : SimulatedFill) (quantity : ℚ) (tried : Prop) (after : PaperState) : Prop where
  quoted : QuoteRules ctx spec order.normalized simulated quantity
  immediate : Immediate order.intent →
    ¬tried ∧ ∀ stored ∈ after.findOrder order.paperOrderId, stored.finalState.terminal = true
  funded : order.side = .sell →
    0 ≤ after.positionQuantity order.paperRunId order.venueId order.instrumentId

/-- A quantity and its notional reach the venue's minimum. -/
def Sizeable (ctx : DecimalContext) (spec : InstrumentSpec) (price quantity : ℚ) : Prop :=
  spec.minQuantity ≤ quantity ∧ spec.minNotional ≤ ctx.mul quantity price

structure VenueTakes (ctx : DecimalContext) (spec : InstrumentSpec) (order : PaperOrder)
    (model : FillModel) (snapshot : MarketSnapshot) (price : ℚ) : Prop where
  banded : violatesBand spec price = false
  size : if order.quantity ≤ participation ctx model snapshot then Sizeable ctx spec price order.quantity
    else Sizeable ctx spec price (participation ctx model snapshot)

/-- The order, the book and the position leave the paper path no way around the
rules. A fill-or-kill order is covered by the book, an immediate one is new and its
rest is covered; an order that takes liquidity may, and the worsened quote is within
its limit; one that makes it has its place in the queue observed; the venue takes
the price and the size; and the position covers a sale. -/
structure Conforms (ctx : DecimalContext) (spec : InstrumentSpec) (order : PaperOrder)
    (model : FillModel) (snapshot : MarketSnapshot) (position : ℚ) (tried : Prop) : Prop where
  whole : order.intent.timeInForce = .fok → order.quantity ≤ participation ctx model snapshot
  immediate : Immediate order.intent → ¬tried ∧
    (order.quantity ≤ participation ctx model snapshot ∨
      ctx.add order.filledQuantity (participation ctx model snapshot) = order.quantity)
  takes : FillModel.marketable order.normalized snapshot = true →
    order.intent.postOnly = false ∧
      violatesLimit order.normalized (model.takerPrice ctx order.intent.side snapshot) = false ∧
      VenueTakes ctx spec order model snapshot (model.takerPrice ctx order.intent.side snapshot)
  makes : FillModel.marketable order.normalized snapshot = false →
    FidelityTier.f4OrderLevel.rank ≤ snapshot.fidelity.rank ∧
      ∀ limit ∈ order.price, VenueTakes ctx spec order model snapshot limit
  funded : order.side = .sell →
    order.quantity ≤ position ∨ participation ctx model snapshot ≤ position

section Quote

variable {price : ℚ}

theorem sizeable_min :
    Sizeable ctx spec price (min first second) ↔
      if first ≤ second then Sizeable ctx spec price first else Sizeable ctx spec price second := by
  split
  · rename_i covered
    rw [min_eq_left covered]
  · rename_i thin
    rw [min_eq_right (not_le.mp thin).le]

theorem limit_kept {intent : OrderIntent} (limit : intent.limitPrice = some price) :
    violatesLimit intent price = false := by
  simp [violatesLimit, limit]

theorem quoteRules_iff
    (simulates : model.simulate ctx order.normalized snapshot = .ok (some simulated)) :
    QuoteRules ctx spec order.normalized simulated simulated.quantity ↔
      (order.intent.timeInForce = .fok → order.quantity ≤ participation ctx model snapshot) ∧
      (FillModel.marketable order.normalized snapshot = true → order.intent.postOnly = false ∧
        violatesLimit order.normalized (model.takerPrice ctx order.intent.side snapshot) = false ∧
        VenueTakes ctx spec order model snapshot
          (model.takerPrice ctx order.intent.side snapshot)) ∧
      (FillModel.marketable order.normalized snapshot = false →
        FidelityTier.f4OrderLevel.rank ≤ snapshot.fidelity.rank ∧
          ∀ limit ∈ order.price, VenueTakes ctx spec order model snapshot limit) := by
  obtain ⟨-, size, terms⟩ := FillModel.simulate_ok simulates
  have part : simulated.quantity = min order.quantity (participation ctx model snapshot) := size
  have whole : order.quantity ≤ simulated.quantity ↔
      order.quantity ≤ participation ctx model snapshot := by
    rw [part, le_min_iff]
    exact and_iff_right le_rfl
  have sized : ∀ price, Sizeable ctx spec price simulated.quantity ↔
      if order.quantity ≤ participation ctx model snapshot then
        Sizeable ctx spec price order.quantity
      else Sizeable ctx spec price (participation ctx model snapshot) := by
    intro price
    rw [part]
    exact sizeable_min
  cases marketable : FillModel.marketable order.normalized snapshot with
  | true =>
    rw [if_pos marketable] at terms
    obtain ⟨price, role, certain⟩ := terms
    have quote : simulated.price = model.takerPrice ctx order.intent.side snapshot := price
    constructor
    · intro rules
      refine ⟨fun killed => whole.mp (rules.whole killed), fun _ => ⟨?_, ?_, ?_, ?_⟩, nofun⟩
      · by_contra resting
        have made := rules.passive ((Bool.not_eq_false _).mp resting)
        rw [role] at made
        cases made
      · exact quote ▸ rules.limited
      · exact quote ▸ rules.banded
      · exact (sized _).mp ⟨rules.least, quote ▸ rules.notional⟩
    · rintro ⟨killed, takes, -⟩
      obtain ⟨taking, limited, banded, size⟩ := takes rfl
      obtain ⟨least, notional⟩ := (sized _).mpr size
      refine ⟨quote ▸ banded, fun resting => ?_, quote ▸ limited, certain, ?_, least,
        quote ▸ notional⟩
      · exact absurd (taking.symm.trans resting) (by decide)
      · exact fun fok => whole.mpr (killed fok)
  | false =>
    rw [if_neg (by simp [marketable])] at terms
    obtain ⟨limit, role, certain⟩ := terms
    have price : order.price = some simulated.price := limit
    constructor
    · intro rules
      refine ⟨fun killed => whole.mp (rules.whole killed), nofun, fun _ => ⟨certain.mp rules.certain, ?_⟩⟩
      intro made given
      rw [price, Option.mem_some_iff] at given
      subst given
      exact ⟨rules.banded, (sized _).mp ⟨rules.least, rules.notional⟩⟩
    · rintro ⟨killed, -, makes⟩
      obtain ⟨observed, venue⟩ := makes rfl
      obtain ⟨banded, size⟩ := venue simulated.price price
      obtain ⟨least, notional⟩ := (sized _).mpr size
      exact ⟨banded, fun _ => role, limit_kept limit, certain.mpr observed,
        fun fok => whole.mpr (killed fok), least, notional⟩

end Quote

theorem pretradeCheck_fits (keeps : ctx.KeepsDigits) {intent : OrderIntent}
    {envelope : RiskEnvelope} {position portfolio : ℚ}
    (ok : pretradeCheck ctx intent spec snapshot envelope position portfolio now = .ok reservation) :
    ctx.Fits reservation.normalizedQuantity := by
  obtain ⟨-, -, enough, -, -⟩ := pretradeCheck_ok ok
  have positive : 0 < reservation.normalizedQuantity := spec.increments_pos.2.2.1.trans_le enough
  rw [pretradeCheck_quantity ok, floorToIncrement, mul] at positive ⊢
  exact fits_round keeps ((round_pos_iff keeps _).mp positive)

theorem Reachable.quantity_fits (keeps : ctx.KeepsDigits) (reachable : Reachable ctx state) :
    ∀ order ∈ state.orders, ctx.Fits order.quantity := by
  refine reachable.orders_commit_rule (fun old new fits move => ?_) ?_
  · rw [move.sameTerms]
    exact fits
  · intro before call answer after order kept commit member admission
    cases admission
    cases commit with
    | submitted _ _ _ _ _ _ checked =>
      rcases List.mem_append.mp member with older | newest
      · exact kept _ older
      · rw [List.mem_singleton.mp newest]
        exact pretradeCheck_fits keeps checked

/-- What an accepted call checked of a new fill, and what it left of the order and of
the position. -/
structure Taken (ctx : DecimalContext) (before : PaperState) (rank : String → ℕ) (order : PaperOrder)
    (fill : PaperFill) (spec : InstrumentSpec) (held : ℚ) (after : PaperState) : Prop where
  pinned : before.pinnedSpec order fill.fillTime = .ok spec
  lots : OnIncrement ctx fill.quantity spec.lotSize
  rebuilt : before.heldPosition ctx rank order = .ok held
  within : ctx.add order.filledQuantity fill.quantity ≤ order.quantity
  moved : ∃ stored, after.findOrder order.paperOrderId = some stored ∧
    (stored.finalState.terminal = true ↔
      ctx.add order.filledQuantity fill.quantity = order.quantity)
  position : after.positionQuantity order.paperRunId order.venueId order.instrumentId =
    ctx.add held (LedgerState.signedQuantity ctx (fill.toFill order))

theorem fillRecord_ends {intent : OrderIntent} (loaded : loadIntent order = .ok intent)
    (moved : fillRecord ctx order intent fill = .ok record) :
    ctx.add order.filledQuantity fill.quantity ≤ order.quantity ∧
      (record.state.terminal = true ↔
        ctx.add order.filledQuantity fill.quantity = order.quantity) := by
  obtain ⟨-, ended, total⟩ := fillRecord_ok loaded moved
  rw [← total]
  rcases ended with ⟨filled, complete⟩ | ⟨partly, -, short⟩
  · exact ⟨complete.le, iff_of_true (by rw [filled]; decide) complete⟩
  · exact ⟨short.le, iff_of_false (by rw [partly]; decide) short.ne⟩

theorem recordFill_takes {readings : Readings} (projected : before.Projected)
    (found : before.findOrder order.paperOrderId = some order)
    (fresh : before.findFill fill.externalFillKey = none)
    (ok : handle ctx before ⟨actor, readings, .recordFill order.paperOrderId fill quoteCurrency⟩ =
      .ok (answer, after)) :
    ∃ spec held, Taken ctx before readings.rank order fill spec held after := by
  cases handle_effect projected ok with
  | replayed records =>
    obtain ⟨_, recorded, -⟩ := records
    rw [fresh] at recorded
    cases recorded
  | committed commit =>
    rcases commit.posts with unfilled | ⟨_, _, _, _, posted⟩
    · cases commit
      exact absurd unfilled.fills (by simp [PaperState.postFill, PaperState.updateOrder,
        PaperState.updateReservation, PaperState.logged])
    · have request := posted.request
      simp only [PaperRequest.recordFill.injEq] at request
      obtain ⟨same, rfl, rfl⟩ := request
      have listed := posted.found
      rw [← same, found] at listed
      cases listed
      obtain ⟨held, replayed, applied⟩ := rebuildLedger_held posted.rebuilt
      obtain ⟨-, _, -, rfl⟩ := LedgerState.apply_ok applied
      obtain ⟨_, record, loaded, moved, orders⟩ := posted.moved
      obtain ⟨within, ends⟩ := fillRecord_ends loaded moved
      have priced : ∃ spec, before.pinnedSpec order fill.fillTime = .ok spec ∧
          OnIncrement ctx fill.quantity spec.lotSize := by
        cases commit with
        | filled _ again joined priced =>
          rw [found] at again
          cases again
          simp only [checkFill, bind_ok, refuseIf_ok, exists_const, Bool.not_eq_true] at priced
          obtain ⟨_, -, -, spec, listed, -, _, lots, whole, -⟩ := priced
          refine ⟨spec, ?_, ?_⟩
          · simp [pinnedSpec, joined, expect, bind, Except.bind, listed]
          · rw [OnIncrement, lots, whole]
      obtain ⟨spec, pinned, lots⟩ := priced
      refine ⟨spec, held.position, pinned, lots, ?_, within, ?_, ?_⟩
      · exact congrArg (Except.map LedgerState.position) replayed
      · refine ⟨{ order with finalState := record.state, filledQuantity := record.filledQuantity },
          ?_, ends⟩
        rw [PaperState.findOrder, orders]
        refine (find_update_some ?_ found).trans (congrArg some (if_pos rfl))
        exact fun _ => rfl
      · rw [PaperState.positionQuantity, posted.position, if_pos ⟨rfl, rfl, rfl⟩]
        rfl

variable {held : ℚ} {rank : String → ℕ}

theorem Taken.ends_iff (keeps : ctx.KeepsDigits)
    (taken : Taken ctx before rank order fill spec held after) (fits : ctx.Fits order.quantity)
    (ordered : 0 < order.quantity) (filled : 0 ≤ order.filledQuantity)
    (part : fill.quantity = min order.quantity (participation ctx model snapshot)) :
    (∀ stored ∈ after.findOrder order.paperOrderId, stored.finalState.terminal = true) ↔
      order.quantity ≤ participation ctx model snapshot ∨
        ctx.add order.filledQuantity (participation ctx model snapshot) = order.quantity := by
  obtain ⟨stored, listed, ends⟩ := taken.moved
  have only : (∀ stored ∈ after.findOrder order.paperOrderId, stored.finalState.terminal = true) ↔
      ctx.add order.filledQuantity fill.quantity = order.quantity := by
    rw [listed, ← ends]
    simp
  have within := taken.within
  rw [only]
  rw [part] at within ⊢
  rcases le_or_gt order.quantity (participation ctx model snapshot) with covered | thin
  · rw [min_eq_left covered] at within ⊢
    refine iff_of_true (le_antisymm within ?_) (.inl covered)
    exact le_round_of_fits keeps (by linarith) fits
  · rw [min_eq_right thin.le, or_iff_right thin.not_ge]

theorem Taken.rules_iff (keeps : ctx.KeepsDigits)
    (taken : Taken ctx before rank order fill spec held after) (fits : ctx.Fits order.quantity)
    (ordered : 0 < order.quantity) (filled : 0 ≤ order.filledQuantity)
    (simulates : model.simulate ctx order.normalized snapshot = .ok (some simulated))
    (same : fill.quantity = simulated.quantity) (tried : Prop) :
    ReplayRules ctx spec order simulated fill.quantity tried after ↔
      Conforms ctx spec order model snapshot held tried := by
  obtain ⟨positive, size, -⟩ := FillModel.simulate_ok simulates
  have part : fill.quantity = min order.quantity (participation ctx model snapshot) := same.trans size
  have offered : ctx.Fits (participation ctx model snapshot) := by
    rw [size, lt_min_iff] at positive
    exact fits_round keeps ((round_pos_iff keeps _).mp positive.2)
  have kept : ctx.Fits fill.quantity := by
    rw [part]
    rcases min_choice order.quantity (participation ctx model snapshot) with whole | rest
    · rw [whole]
      exact fits
    · rw [rest]
      exact offered
  have ends := taken.ends_iff keeps fits ordered filled part
  have funded : order.side = .sell →
      (0 ≤ after.positionQuantity order.paperRunId order.venueId order.instrumentId ↔
        order.quantity ≤ held ∨ participation ctx model snapshot ≤ held) := by
    intro sells
    rw [taken.position, LedgerState.sale_nonneg_iff keeps sells kept]
    change fill.quantity ≤ held ↔ _
    rw [part, min_le_iff]
  have quoted : QuoteRules ctx spec order.normalized simulated fill.quantity ↔ _ :=
    same ▸ quoteRules_iff simulates
  constructor
  · intro rules
    obtain ⟨whole, takes, makes⟩ := quoted.mp rules.quoted
    refine ⟨whole, fun immediate => ?_, takes, makes, fun sells => (funded sells).mp (rules.funded sells)⟩
    obtain ⟨untried, ended⟩ := rules.immediate immediate
    exact ⟨untried, ends.mp ended⟩
  · intro conforms
    refine ⟨quoted.mpr ⟨conforms.whole, conforms.takes, conforms.makes⟩, fun immediate => ?_,
      fun sells => (funded sells).mpr (conforms.funded sells)⟩
    obtain ⟨untried, covered⟩ := conforms.immediate immediate
    exact ⟨untried, ends.mpr covered⟩

/-- In every state that calls can reach, for every order, snapshot and fill model for
which the service simulates a fill and, after any further calls, records it: the
execution rules of the replay hold of the fill and of what it leaves if and only if
the order, the book and the position conform to them. -/
theorem recorded_fill_keeps_rules_iff (calls between : List PaperCall) (actor recorder : Identity)
    (readings recording : Readings) (orderId quoteCurrency fillId : String) (order : PaperOrder)
    (snapshot : MarketSnapshot) (model : FillModel) (schedule : FeeSchedule) (fill : PaperFill) :
    let simulation : PaperCall := ⟨actor, readings, .simulateOrder orderId snapshot model schedule⟩
    let record : PaperCall := ⟨recorder, recording, .recordFill orderId fill quoteCurrency⟩
    let before := run (handle prec28) .empty calls
    let later := run (handle prec28) before between
    reply (handle prec28) before simulation = .ok (.simulated (some fill)) →
    later.findOrder orderId = some order →
    later.findFill fill.externalFillKey = none →
    reply (handle prec28) later record = .ok (.id fillId) →
    ∃ spec position simulated, later.pinnedSpec order snapshot.timestamp = .ok spec ∧
      later.heldPosition prec28 recording.rank order = .ok position ∧
      model.simulate prec28 order.normalized snapshot = .ok (some simulated) ∧
      (fill.quantity = simulated.quantity ∧ fill.price = simulated.price ∧
        fill.liquidityRole = simulated.role) ∧
      (ReplayRules prec28 spec order simulated fill.quantity (Tried prec28 calls order)
          (next (handle prec28) later record) ↔
        Conforms prec28 spec order model snapshot position (Tried prec28 calls order)) := by
  intro simulation record before later answered found fresh recorded
  have reachable : Reachable prec28 before := ⟨calls, rfl⟩
  have reached : Reachable prec28 later := reachable.run between
  have named := find_key found
  subst named
  obtain ⟨spec, position, taken⟩ :=
    recordFill_takes reached.projected found fresh (ok_of_reply recorded)
  obtain ⟨first, listed⟩ : ∃ first, before.findOrder order.paperOrderId = some first := by
    have ok := ok_of_reply answered
    simp only [simulation, handle, simulateOrder, bind_ok, expect_ok] at ok
    obtain ⟨-, -, first, listed, -⟩ := ok
    exact ⟨first, listed⟩
  have terms : first.SameTerms order := by
    obtain ⟨_, final, terms⟩ := (run_evolves reachable.projected between).orders listed
    rw [found] at final
    cases final
    exact terms
  have normalized : first.normalized = order.normalized := by
    rw [PaperOrder.SameTerms] at terms
    rw [terms]
    rfl
  obtain ⟨-, simulated, simulates, quantity, price, role, instant⟩ :=
    simulateOrder_terms listed (ok_of_reply answered)
  rw [normalized] at simulates
  have member := find_mem found
  refine ⟨spec, position, simulated, instant ▸ taken.pinned, taken.rebuilt, simulates,
    ⟨quantity, price, role⟩, ?_⟩
  exact taken.rules_iff prec28_keepsDigits (reached.quantity_fits prec28_keepsDigits order member)
    (reached.quantity_pos order member) (reached.filled_nonneg member) simulates quantity _

namespace SmallVenue

def killable : OrderIntent := { intent "buy" .buy 8 with timeInForce := .fok }

def ordered (asked : OrderIntent) : List PaperCall :=
  opening limits ++ [byWorker 3 "3" (.submit "RUN" asked spot (quotes 10) limits "pool")]

def storedOrder (asked : OrderIntent) (finalState : OrderState) (filled : ℚ) : PaperOrder :=
  { acknowledgedOrder "PORD-3" "RUN" asked
      ⟨asked.clientOrderId, asked.clientOrderId, 80, 8, none, 71, "risk-v1"⟩ with
    finalState, filledQuantity := filled }

/-- What the service makes of a snapshot for an order of the worker's. -/
def simulatedOn (asked : OrderIntent) (quantity : ℚ) (sized : 0 < quantity)
    (named : s!"SIM:{asked.clientOrderId}:T" ≠ "") : PaperFill :=
  SmallVenue.fill s!"SIM:{asked.clientOrderId}:T" 13 10 quantity price_pos sized named

theorem kill_named : s!"SIM:{killable.clientOrderId}:T" ≠ "" := by decide

abbrev sale : OrderIntent := intent "sell" .sell 8

theorem sell_named : s!"SIM:{sale.clientOrderId}:T" ≠ "" := by decide

def recording (recorded : PaperFill) : PaperCall :=
  byWorker 7 "7" (.recordFill "PORD-3" recorded "USD")

end SmallVenue

open SmallVenue in
theorem recorded_fill_keeps_rules_iff_small :
    ∃ spec position simulated,
      (run (handle prec28) .empty eightLots).pinnedSpec (storedPurchase .acknowledged 0) 13 = .ok spec ∧
      (run (handle prec28) .empty eightLots).heldPosition prec28 (readings 7 "7").rank
        (storedPurchase .acknowledged 0) = .ok position ∧
      simulator.simulate prec28 (storedPurchase .acknowledged 0).normalized
        (offering 13 100 book_nonneg) = .ok (some simulated) ∧
      ((8 : ℚ) = simulated.quantity ∧ (10 : ℚ) = simulated.price ∧ .taker = simulated.role) ∧
      (ReplayRules prec28 spec (storedPurchase .acknowledged 0) simulated 8
          (Tried prec28 eightLots (storedPurchase .acknowledged 0))
          (next (handle prec28) (run (handle prec28) .empty eightLots)
            (recording (simulatedFill 13 8 eight_lots))) ↔
        Conforms prec28 spec (storedPurchase .acknowledged 0) simulator
          (offering 13 100 book_nonneg) position
          (Tried prec28 eightLots (storedPurchase .acknowledged 0))) :=
  recorded_fill_keeps_rules_iff eightLots [] worker worker (readings 6 "6") (readings 7 "7") "PORD-3"
    "USD" "PFILL-7" (storedPurchase .acknowledged 0) (offering 13 100 book_nonneg) simulator
    (fee .taker) (simulatedFill 13 8 eight_lots) (by decide +kernel) (by decide +kernel)
    (by decide +kernel) (by decide +kernel)

open SmallVenue in
/-- A fill-or-kill purchase of eight lots takes the five of a thin book and goes on
working, and a sale of eight lots that nobody holds is filled: the service records
both, and the rules of the replay hold of neither. -/
theorem recorded_fills_break_rules :
    let bought := simulatedOn killable 5 five_lots kill_named
    let sold := simulatedOn (intent "sell" .sell 8) 8 eight_lots sell_named
    let buying := run (handle prec28) .empty (ordered killable)
    let selling := run (handle prec28) .empty (ordered (intent "sell" .sell 8))
    reply (handle prec28) buying (simulation "6" (offering 13 5 five_nonneg)) =
        .ok (.simulated (some bought)) ∧
      reply (handle prec28) buying (recording bought) = .ok (.id "PFILL-7") ∧
      (next (handle prec28) buying (recording bought)).findOrder "PORD-3" =
        some (storedOrder killable .partiallyFilled 5) ∧
      (∀ simulated tried, ¬ReplayRules prec28 spot (storedOrder killable .acknowledged 0) simulated 5
        tried (next (handle prec28) buying (recording bought))) ∧
      reply (handle prec28) selling (simulation "6" (offering 13 8 eight_nonneg)) =
        .ok (.simulated (some sold)) ∧
      reply (handle prec28) selling (recording sold) = .ok (.id "PFILL-7") ∧
      (next (handle prec28) selling (recording sold)).positionQuantity "RUN" "paper-x" "BTC-USD" = -8 ∧
      ∀ simulated tried, ¬ReplayRules prec28 spot (storedOrder (intent "sell" .sell 8) .acknowledged 0)
        simulated 8 tried (next (handle prec28) selling (recording sold)) := by
  intro bought sold buying selling
  have short : (next (handle prec28) selling (recording sold)).positionQuantity "RUN" "paper-x"
      "BTC-USD" = -8 := by decide +kernel
  refine ⟨by decide +kernel, by decide +kernel, by decide +kernel, fun simulated tried rules => ?_,
    by decide +kernel, by decide +kernel, short, fun simulated tried rules => ?_⟩
  · have whole : (8 : ℚ) ≤ 5 := rules.quoted.whole rfl
    norm_num at whole
  · have funded : 0 ≤ (next (handle prec28) selling (recording sold)).positionQuantity "RUN" "paper-x"
        "BTC-USD" := rules.funded rfl
    rw [short] at funded
    norm_num at funded

end Liki.Paper
