import Liki.Finance.Attribution

/-! The lots of a package and the lots of the reference. A package matches every sale against the
oldest purchases and does not ask whether there are any left. It never runs out of them: a program
of targets has one order waiting at a time, so the accounting check of every bar compares the
ledger with the reference after at most one fill, and a sale of more than the reference holds
leaves the reference short and the ledger not. -/
namespace Liki.Finance.BacktestGate
open DecimalArithmetic Checks DeterministicBacktest List DecimalContext FifoState

variable {ctx : DecimalContext}

structure SameLots (ctx : DecimalContext) (lots : List Lot) (reference : List FifoLot) : Prop where
  quantities : reference.map Prod.fst = lots.map Prod.fst
  bought : ∀ lot ∈ lots, 0 < lot.1 ∧ ctx.Fits lot.1

theorem same_nil : SameLots ctx [] [] := ⟨rfl, by simp⟩

theorem SameLots.cons {lots : List Lot} (same : SameLots ctx lots reference)
    (positive : 0 < quantity) (fits : ctx.Fits quantity) (bought : Time) (entry : ℚ) :
    SameLots ctx ((quantity, bought) :: lots) ((quantity, entry) :: reference) := by
  constructor
  · rw [map_cons, map_cons, same.quantities]
  · intro lot member
    rcases mem_cons.mp member with rfl | later
    · exact ⟨positive, fits⟩
    · exact same.bought lot later

theorem SameLots.append {lots : List Lot} (same : SameLots ctx lots reference)
    (positive : 0 < quantity) (fits : ctx.Fits quantity) (bought : Time) (entry : ℚ) :
    SameLots ctx (lots ++ [(quantity, bought)]) (reference ++ [(quantity, entry)]) := by
  constructor
  · rw [map_append, map_append, same.quantities]
    rfl
  · intro lot member
    rcases KeyedRows.mem_added member with older | newest
    · exact same.bought lot older
    · rw [newest]
      exact ⟨positive, fits⟩

theorem fits_sub_of_le (keeps : ctx.KeepsDigits) (below : y ≤ x) :
    0 ≤ ctx.sub x y ∧ ctx.Fits (ctx.sub x y) := by
  refine ⟨round_nonneg keeps (sub_nonneg.mpr below), ?_⟩
  rcases below.eq_or_lt with rfl | less
  · have nothing : ctx.sub y y = 0 :=
      (round_eq_zero_iff keeps _).mpr (sub_self y)
    rw [nothing]
    exact fits_zero ctx
  · exact fits_round keeps (sub_pos.mpr less)

/-- Matching a sale and closing the reference's lots with it are one loop. They differ when the lots
run out: then the reference is left short, and nothing else. -/
theorem matchLots_closes (keeps : ctx.KeepsDigits) (sold : Time) (price : ℚ) (lots : List Lot)
    (reference : List FifoLot) (remaining realized : ℚ) (same : SameLots ctx lots reference)
    (nonneg : 0 ≤ remaining) (fits : ctx.Fits remaining) :
    let closed := closeLots ctx price (-remaining) reference realized
    (closed.1 = 0 ∧ ∃ holdings left, matchLots ctx sold remaining lots = .ok (holdings, left) ∧
      SameLots ctx left closed.2.1) ∨ (closed.1 < 0 ∧ closed.2.1 = []) := by
  induction lots generalizing reference remaining realized with
  | nil =>
    have empty : reference = [] := map_eq_nil_iff.mp same.quantities
    subst empty
    rcases nonneg.eq_or_lt with rfl | positive
    · exact .inl ⟨neg_zero, [], [], rfl, same_nil⟩
    · exact .inr ⟨neg_neg_of_pos positive, rfl⟩
  | cons lot rest ih =>
    obtain ⟨_, bought⟩ := lot
    obtain _ | ⟨⟨other, entry⟩, later⟩ := reference
    · cases same.quantities
    have quantities := same.quantities
    simp only [map_cons, cons.injEq] at quantities
    obtain ⟨rfl, tail⟩ := quantities
    have rested : SameLots ctx rest later :=
      ⟨tail, fun lot member => same.bought lot (mem_cons_of_mem _ member)⟩
    obtain ⟨positive, whole⟩ := same.bought _ mem_cons_self
    dsimp only at positive whole
    rcases nonneg.eq_or_lt with rfl | some_left
    · refine .inl ⟨?_, [], (other, bought) :: rest, ?_, ?_⟩
      · simp [closeLots]
      · simp [matchLots]
      · simpa [closeLots] using rested.cons positive whole bought entry
    have against : -remaining ≠ 0 ∧ ctx.mul other (-remaining) < 0 := by
      refine ⟨neg_ne_zero.mpr some_left.ne', (DecimalContext.round_neg_iff keeps _).mpr ?_⟩
      exact mul_neg_of_pos_of_neg positive (neg_neg_of_pos some_left)
    have lotSize : ctx.abs other = other := by
      rw [DecimalContext.abs, abs_of_pos positive]
      exact whole
    have saleSize : ctx.abs (-remaining) = remaining := by
      rw [DecimalContext.abs, abs_neg, abs_of_pos some_left]
      exact fits
    have sold_sign : signOf (-remaining) = -1 := by
      rw [signOf, if_neg (not_lt.mpr (neg_nonpos.mpr nonneg))]
    have held_sign : signOf other = 1 := by rw [signOf, if_pos positive]
    obtain ⟨unsold, unsoldFits⟩ := fits_sub_of_le keeps (min_le_left remaining other)
    obtain ⟨kept, keptFits⟩ := fits_sub_of_le keeps (min_le_right remaining other)
    have negated : ctx.mul (-1) (ctx.sub remaining (min remaining other)) =
        -ctx.sub remaining (min remaining other) := by
      rw [DecimalContext.mul, neg_one_mul]
      exact DecimalContext.fits_neg unsoldFits
    have unit : ctx.mul 1 (ctx.sub other (min remaining other)) = ctx.sub other (min remaining other) := by
      rw [DecimalContext.mul, one_mul]
      exact keptFits
    rw [closeLots, if_pos against]
    simp only [lotSize, saleSize, sold_sign, held_sign, min_comm other remaining, negated, unit]
    rw [matchLots, if_neg some_left.ne']
    dsimp only
    by_cases gone : ctx.sub other (min remaining other) = 0
    · rw [if_pos gone, if_pos gone]
      rcases ih later _ _ rested unsold unsoldFits with ⟨closed, holdings, left, ok, after⟩ | short
      · refine .inl ⟨closed, ⟨min remaining other, totalSeconds (sold - bought), false⟩ :: holdings, left,
          ?_, after⟩
        rw [ok]
        rfl
      · exact .inr short
    · rw [if_neg gone, if_neg gone]
      have outlives : remaining < other := by
        by_contra covered
        refine gone ((DecimalContext.round_eq_zero_iff keeps _).mpr ?_)
        rw [min_eq_right (not_lt.mp covered), sub_self]
      refine .inl ⟨?_, _, _, rfl, rested.cons (lt_of_le_of_ne kept (Ne.symm gone)) keptFits _ _⟩
      have nothing : ctx.sub remaining (min remaining other) = 0 := by
        refine (DecimalContext.round_eq_zero_iff keeps _).mpr ?_
        rw [min_eq_left outlives.le, sub_self]
      rw [nothing, neg_zero]

structure Matched (ctx : DecimalContext) (cash : ℚ) (fills : List Fill) (lots : List Lot)
    (state : FifoState) : Prop where
  held : ∃ holdings, fills.foldlM (holdFill ctx) ([], []) = .ok (lots, holdings)
  taken : takeAll ctx (.start cash) fills = .ok state
  same : SameLots ctx lots state.lots

theorem matched_nil (cash : ℚ) : Matched ctx cash [] [] (.start cash) := ⟨⟨[], rfl⟩, rfl, same_nil⟩

variable {state taken : FifoState} {fill : Fill} {cash : ℚ} {fills : List Fill}

theorem takeAll_append (fills : List Fill) (fill : Fill) :
    takeAll ctx state (fills ++ [fill]) =
      takeAll ctx state fills >>= fun taken => taken.take ctx fill := by
  unfold takeAll
  rw [foldlM_append]
  refine bind_congr fun taken => ?_
  rw [foldlM_cons]
  exact bind_pure _

theorem take_lots (took : state.take ctx fill = .ok taken) :
    ∃ left lots realized, FifoState.closeLots ctx fill.price (ctx.mul fill.side.sign fill.quantity)
        state.lots state.realized = (left, lots, realized) ∧
      taken.lots = FifoState.book fill.price left lots := by
  unfold FifoState.take at took
  split at took
  · cases took
  · cases took
    exact ⟨_, _, _, rfl, rfl⟩

theorem Matched.append {lots left : List Lot} (matched : Matched ctx cash fills lots state)
    (holdings : List Holding)
    (took : takeAll ctx (.start cash) (fills ++ [fill]) = .ok taken)
    (holds : ∀ before, holdFill ctx (lots, before) fill = .ok (left, before ++ holdings))
    (same : SameLots ctx left taken.lots) : Matched ctx cash (fills ++ [fill]) left taken := by
  obtain ⟨before, held⟩ := matched.held
  refine ⟨⟨before ++ holdings, ?_⟩, took, same⟩
  rw [foldlM_append, held, ok_bind, foldlM_cons, holds before]
  rfl

theorem Matched.take {lots : List Lot} (matched : Matched ctx cash fills lots state)
    (took : takeAll ctx (.start cash) (fills ++ [fill]) = .ok taken) :
    state.take ctx fill = .ok taken := by
  rw [takeAll_append, matched.taken] at took
  exact took

/-- A purchase is a new lot of both. -/
theorem Matched.buy (keeps : ctx.KeepsDigits) {lots : List Lot}
    (matched : Matched ctx cash fills lots state) (buys : fill.side = .buy)
    (fits : ctx.Fits fill.quantity)
    (took : takeAll ctx (.start cash) (fills ++ [fill]) = .ok taken) :
    ∃ left, Matched ctx cash (fills ++ [fill]) left taken := by
  obtain ⟨_, _, _, closing, grown⟩ := take_lots (matched.take took)
  have incoming : ctx.mul fill.side.sign fill.quantity = fill.quantity := by
    rw [buys, Side.sign_buy, mul, one_mul]
    exact fits
  have joins : closeLots ctx fill.price fill.quantity state.lots state.realized =
      (fill.quantity, state.lots, state.realized) := by
    cases held : state.lots with
    | nil => rfl
    | cons lot =>
      obtain ⟨quantity, _⟩ := lot
      have quantities := matched.same.quantities
      rw [held] at quantities
      obtain _ | ⟨first, _⟩ := lots
      · cases quantities
      have positive : 0 < quantity := by
        have bought := (matched.same.bought first mem_cons_self).1
        rwa [← (cons.inj quantities).1] at bought
      rw [closeLots, if_neg]
      rintro ⟨-, against⟩
      exact absurd ((round_neg_iff keeps _).mp against)
        (mul_pos positive fill.quantity_pos).le.not_gt
  rw [incoming, joins] at closing
  cases closing
  rw [book, if_neg fill.quantity_pos.ne'] at grown
  refine ⟨lots ++ [(fill.quantity, fill.timestamp)], matched.append [] took ?_ ?_⟩
  · intro before
    rw [holdFill, buys, append_nil]
  · rw [grown]
    exact matched.same.append fill.quantity_pos fits _ _

/-- A sale that leaves the reference with no negative position is matched. -/
theorem Matched.sell (keeps : ctx.KeepsDigits) {lots : List Lot}
    (matched : Matched ctx cash fills lots state) (sells : fill.side = .sell)
    (fits : ctx.Fits fill.quantity)
    (took : takeAll ctx (.start cash) (fills ++ [fill]) = .ok taken)
    (covered : 0 ≤ ctx.sum (taken.lots.map Prod.fst)) :
    ∃ left, Matched ctx cash (fills ++ [fill]) left taken := by
  obtain ⟨left, _, _, closing, grown⟩ := take_lots (matched.take took)
  have incoming : ctx.mul fill.side.sign fill.quantity = -fill.quantity := by
    rw [sells, Side.sign_sell, mul, neg_one_mul]
    exact fits_neg fits
  rw [incoming] at closing
  have matching := matchLots_closes keeps fill.timestamp fill.price lots state.lots fill.quantity
    state.realized matched.same fill.quantity_pos.le fits
  rw [closing] at matching
  rcases matching with ⟨closed, holdings, rest, ok, same⟩ | ⟨short, nothing⟩
  · rw [book, if_pos closed] at grown
    refine ⟨rest, matched.append holdings took (fun before => ?_) (grown ▸ same)⟩
    rw [holdFill, sells]
    dsimp only
    rw [ok]
    rfl
  · -- All lots are gone and something is left to sell, which is the reference's whole position.
    dsimp only at short nothing
    rw [book, if_neg short.ne, nothing, nil_append] at grown
    rw [grown] at covered
    refine absurd ((round_neg_iff keeps _).mpr ?_) covered.not_gt
    rw [zero_add]
    exact short

section Runs

variable {engine : DeterministicBacktest} {bar : Bar}

structure InStep (ctx : DecimalContext) (engine : DeterministicBacktest) (replay : Replay) : Prop where
  matched : ∃ lots state, Matched ctx engine.startingCash replay.ledger.fills lots state
  waiting : replay.pending.length ≤ 1

/-- The bar matches what it fills. -/
theorem InStep.step (keeps : ctx.KeepsDigits) {replay traded observed : Replay}
    (inStep : InStep ctx engine replay)
    (trading : engine.trade ctx none (some target) strategyId past bar replay = .ok traded)
    (observing : engine.observe ctx bar traded = .ok observed) : InStep ctx engine observed := by
  obtain ⟨_, opened, _, left, proposing, submission, -, passes⟩ := trade_ok trading
  obtain ⟨waiting, ledger⟩ := submission_waiting inStep.waiting proposing submission
  obtain ⟨taken, took, agrees⟩ := observe_agrees observing
  have accounts := observe_accounts observing
  have pending : observed.pending = traded.pending := by
    obtain ⟨_, _, -, -, rfl⟩ := observe_ok observing
    rfl
  have kept : observed.ledger = traded.ledger := congrArg Prod.fst accounts
  obtain ⟨lots, _, matched⟩ := inStep.matched
  rw [← ledger] at matched
  have settled : (∃ left, Matched ctx engine.startingCash traded.ledger.fills left taken) ∧
      traded.pending.length ≤ 1 := by
    match todo : opened.pending, waiting, passes with
    | [], _, passes =>
      cases passes
      rw [matched.taken] at took
      cases took
      exact ⟨⟨lots, matched⟩, by simp [todo]⟩
    | [intent], _, passes =>
      rw [foldlM_cons] at passes
      obtain ⟨_, processed, rest⟩ := bind_ok.mp passes
      cases rest
      have passed := processOrder_ok processed
      refine ⟨?_, passed.waiting.trans (by simp [todo])⟩
      rcases passed.posts keeps with same | ⟨fill, posted, fits, covered⟩
      · dsimp only at same
        rw [same] at took ⊢
        rw [matched.taken] at took
        cases took
        exact ⟨lots, matched⟩
      · dsimp only at posted covered
        rw [posted] at took ⊢
        cases side : fill.side with
        | buy => exact matched.buy keeps side fits took
        | sell => exact matched.sell keeps side fits took (agrees ▸ covered side)
    | _ :: _ :: _, short, _ => simp at short
  obtain ⟨⟨rest, after⟩, few⟩ := settled
  exact ⟨⟨rest, taken, kept ▸ after⟩, pending ▸ few⟩

theorem runIn_matched (keeps : ctx.KeepsDigits) {result : Replay}
    (ok : engine.runIn ctx bars none (some target) strategyId = .ok result) :
    ∃ lots holdings, result.ledger.fills.foldlM (holdFill ctx) ([], []) = .ok (lots, holdings) := by
  obtain ⟨ordered, -, left, replayed, rfl⟩ := runIn_ok ok
  have start : InStep ctx engine (.start engine.startingCash) := ⟨⟨[], _, matched_nil _⟩, Nat.zero_le _⟩
  have inStep : InStep ctx engine left :=
    replayBars_rule (fun _ replay => InStep ctx engine replay)
      (fun _ _ _ _ _ _ inStep trading observing => inStep.step keeps trading observing) ordered start replayed
  obtain ⟨lots, _, matched⟩ := inStep.matched
  obtain ⟨holdings, held⟩ := matched.held
  have kept : (endReplay (sortBars bars) left).ledger = left.ledger :=
    congrArg Prod.fst (endReplay_accounts _ _)
  exact ⟨lots, holdings, kept ▸ held⟩

end Runs

section Totals

def lotTotal (lots : List Lot) : ℚ := (lots.map Prod.fst).sum

def heldTotal (holdings : List Holding) : ℚ := (holdings.map Holding.quantity).sum

def soldTotal (fills : List Fill) : ℚ :=
  ((fills.filter fun fill => fill.side = .sell).map Fill.quantity).sum

/-- Something was held, for no negative time. -/
def Holding.Proper (holding : Holding) : Prop := 0 < holding.quantity ∧ 0 ≤ holding.seconds

def BoughtBy (instant : Time) (lot : Lot) : Prop := 0 < lot.1 ∧ lot.2 ≤ instant

@[simp] theorem lotTotal_nil : lotTotal [] = 0 := rfl

@[simp] theorem lotTotal_cons (lot : Lot) (lots : List Lot) : lotTotal (lot :: lots) = lot.1 + lotTotal lots := by
  simp [lotTotal]

@[simp] theorem lotTotal_append (first second : List Lot) :
    lotTotal (first ++ second) = lotTotal first + lotTotal second := by simp [lotTotal]

@[simp] theorem heldTotal_nil : heldTotal [] = 0 := rfl

@[simp] theorem heldTotal_cons (holding : Holding) (holdings : List Holding) :
    heldTotal (holding :: holdings) = holding.quantity + heldTotal holdings := by simp [heldTotal]

@[simp] theorem heldTotal_append (first second : List Holding) :
    heldTotal (first ++ second) = heldTotal first + heldTotal second := by simp [heldTotal]

theorem soldTotal_append (fills : List Fill) (fill : Fill) :
    soldTotal (fills ++ [fill]) = soldTotal fills + if fill.side = .sell then fill.quantity else 0 := by
  by_cases sells : fill.side = .sell
  · simp [soldTotal, filter_append, sells]
  · simp [soldTotal, filter_append, sells]

theorem totalSeconds_nonneg (nonneg : 0 ≤ duration) : 0 ≤ totalSeconds duration := by
  have whole : (0 : ℚ) ≤ (duration : ℚ) := by exact_mod_cast nonneg
  unfold totalSeconds
  positivity

/-- A sale that the lots cover is matched in full, and takes exactly that out of them. -/
theorem matchLots_covered (sold : Time) (lots : List Lot) (remaining : ℚ) (nonneg : 0 ≤ remaining)
    (covered : remaining ≤ lotTotal lots) (bought : ∀ lot ∈ lots, BoughtBy sold lot) :
    ∃ holdings left, matchLots .exact sold remaining lots = .ok (holdings, left) ∧
      heldTotal holdings = remaining ∧ lotTotal left = lotTotal lots - remaining ∧
      (∀ holding ∈ holdings, holding.Proper) ∧ ∀ lot ∈ left, BoughtBy sold lot := by
  induction lots generalizing remaining with
  | nil =>
    have nothing : remaining = 0 := le_antisymm covered nonneg
    subst nothing
    exact ⟨[], [], rfl, rfl, by simp, by simp, by simp⟩
  | cons lot rest ih =>
    obtain ⟨quantity, instant⟩ := lot
    obtain ⟨positive, earlier⟩ := bought _ mem_cons_self
    have rested : ∀ lot ∈ rest, BoughtBy sold lot := fun lot member => bought lot (mem_cons_of_mem _ member)
    dsimp only at positive earlier
    rw [lotTotal_cons] at covered
    rcases nonneg.eq_or_lt with rfl | some_left
    · refine ⟨[], (quantity, instant) :: rest, ?_, rfl, by simp, by simp, bought⟩
      rw [matchLots, if_pos rfl]
    have seconds : 0 ≤ totalSeconds (sold - instant) := totalSeconds_nonneg (sub_nonneg.mpr earlier)
    rw [matchLots, if_neg some_left.ne']
    dsimp only
    by_cases outlives : remaining < quantity
    · have size : min remaining quantity = remaining := min_eq_left outlives.le
      have unsold : exact.sub quantity remaining ≠ 0 := (sub_pos.mpr outlives).ne'
      rw [size, if_neg unsold]
      refine ⟨_, _, rfl, by simp, ?_, ?_, ?_⟩
      · simp only [lotTotal_cons, exact_sub]
        ring
      · intro holding member
        rw [mem_singleton.mp member]
        exact ⟨some_left, seconds⟩
      · intro lot member
        rcases mem_cons.mp member with rfl | later
        · exact ⟨sub_pos.mpr outlives, earlier⟩
        · exact rested lot later
    · have size : min remaining quantity = quantity := min_eq_right (not_lt.mp outlives)
      have gone : exact.sub quantity quantity = 0 := sub_self quantity
      rw [size, if_pos gone]
      obtain ⟨holdings, left, ok, held, kept, proper, after⟩ := ih (remaining - quantity)
        (sub_nonneg.mpr (not_lt.mp outlives)) (by linarith) rested
      refine ⟨⟨quantity, totalSeconds (sold - instant), false⟩ :: holdings, left, ?_, ?_, ?_, ?_, after⟩
      · rw [exact_sub, ok]
        rfl
      · rw [heldTotal_cons, held]
        ring
      · rw [kept, lotTotal_cons]
        ring
      · intro holding member
        rcases mem_cons.mp member with rfl | later
        · exact ⟨positive, seconds⟩
        · exact proper holding later

structure Accounted (instant : Time) (ledger : LedgerState) (lots : List Lot) (holdings : List Holding) :
    Prop where
  ok : ledger.fills.foldlM (holdFill .exact) ([], []) = .ok (lots, holdings)
  sold : heldTotal holdings = soldTotal ledger.fills
  position : lotTotal lots = ledger.position
  proper : ∀ holding ∈ holdings, holding.Proper
  bought : ∀ lot ∈ lots, BoughtBy instant lot

theorem accounted_flat (instant : Time) (cash : ℚ) : Accounted instant (.flat cash) [] [] := by
  constructor <;> simp [LedgerState.flat, soldTotal, pure_ok]

theorem Accounted.post {lots : List Lot} (accounted : Accounted instant ledger lots holdings)
    (now : fill.timestamp = instant) (covered : fill.side = .sell → fill.quantity ≤ ledger.position)
    (applied : ledger.apply .exact fill = .ok posted) :
    ∃ left more, Accounted instant posted left more := by
  have fills := LedgerState.fills_of_apply applied
  obtain ⟨-, additive, -, rfl⟩ := LedgerState.apply_ok applied
  have moved : (ledger.post .exact fill additive).position =
      ledger.position + fill.side.sign * fill.quantity := rfl
  have step : (ledger.post .exact fill additive).fills.foldlM (holdFill .exact) ([], []) =
      holdFill .exact (lots, holdings) fill := by
    rw [fills, foldlM_append, accounted.ok, ok_bind, foldlM_cons]
    exact bind_pure _
  cases side : fill.side with
  | buy =>
    rw [side, Side.sign_buy, one_mul] at moved
    refine ⟨lots ++ [(fill.quantity, fill.timestamp)], holdings, ?_, ?_, ?_, accounted.proper, ?_⟩
    · rw [step, holdFill, side]
    · rw [fills, soldTotal_append, side, accounted.sold]
      simp
    · rw [moved, lotTotal_append, accounted.position, lotTotal_cons, lotTotal_nil, add_zero]
    · intro lot member
      rcases KeyedRows.mem_added member with older | newest
      · exact accounted.bought lot older
      · rw [newest]
        exact ⟨fill.quantity_pos, now.le⟩
  | sell =>
    rw [side, Side.sign_sell] at moved
    obtain ⟨more, left, ok, held, kept, proper, bought⟩ := matchLots_covered fill.timestamp lots
      fill.quantity fill.quantity_pos.le (accounted.position ▸ covered side) (now ▸ accounted.bought)
    refine ⟨left, holdings ++ more, ?_, ?_, ?_, ?_, now ▸ bought⟩
    · rw [step, holdFill, side]
      dsimp only
      rw [ok]
      rfl
    · rw [fills, soldTotal_append, side, heldTotal_append, held, accounted.sold, if_pos rfl]
    · rw [kept, moved, accounted.position]
      ring
    · intro holding member
      rcases mem_append.mp member with older | newer
      · exact accounted.proper holding older
      · exact proper holding newer

theorem Accounted.later {instant next : Time} {lots : List Lot}
    (accounted : Accounted instant ledger lots holdings) (later : instant ≤ next) :
    Accounted next ledger lots holdings :=
  { accounted with
    bought := fun lot member =>
      ⟨(accounted.bought lot member).1, (accounted.bought lot member).2.trans later⟩ }

/-- A completed run has matched all its sales, whatever its program asked for. -/
theorem runIn_accounted {engine : DeterministicBacktest} {result : Replay}
    (ok : engine.runIn .exact bars signal target strategyId = .ok result)
    (ends : ∀ bar ∈ bars, bar.timestamp ≤ last) :
    ∃ lots holdings, Accounted last result.ledger lots holdings := by
  obtain ⟨ordered, -, left, replayed, rfl⟩ := runIn_ok ok
  have inOrder : (∀ next, (∀ bar ∈ sortBars bars, bar.timestamp ≤ next) →
      ∃ lots holdings, Accounted next left.ledger lots holdings) := by
    refine replayBars_rule (fun past replay => ∀ next, (∀ bar ∈ past, bar.timestamp ≤ next) →
      ∃ lots holdings, Accounted next replay.ledger lots holdings) ?_ ordered ?_ replayed
    · intro past bar replay traded observed earlier accounted trading observing next after
      let holds : LedgerState × CostTotals × List (Time × ℚ) → Prop := fun accounts =>
        ∃ lots holdings, Accounted bar.timestamp accounts.1 lots holdings
      have before : holds replay.accounts := accounted bar.timestamp fun other member => (earlier other member).le
      have traded : holds traded.accounts := by
        refine trade_accounts holds ?_ before trading
        rintro replay orderId snapshot intent simulated quantity execution - ⟨lots, holdings, held⟩ executes
        obtain ⟨-, timestamp, filled, applied⟩ := execute_posts executes
        refine held.post timestamp (fun sells => ?_) applied
        rw [filled]
        exact execute_funded executes ((execute_side executes).symm.trans sells)
      have ledger := congrArg Prod.fst (observe_accounts observing)
      obtain ⟨lots, holdings, held⟩ := traded
      have latest := after bar (mem_append_right _ mem_cons_self)
      exact ⟨lots, holdings, (ledger ▸ held).later latest⟩
    · exact fun next _ => ⟨[], [], accounted_flat next _⟩
  have ledger : (endReplay (sortBars bars) left).ledger = left.ledger :=
    congrArg Prod.fst (endReplay_accounts _ _)
  rw [ledger]
  exact inOrder last fun bar member => ends bar (mem_sortBars.mp member)

theorem censored_ok (final : quotes.getLast? = some last) (lots : List Lot)
    (bought : ∀ lot ∈ lots, BoughtBy last.timestamp lot) :
    ∃ unsold, censored quotes lots = .ok unsold ∧ heldTotal unsold = lotTotal lots ∧
      ∀ holding ∈ unsold, holding.Proper := by
  have ok : censored quotes lots = .ok (lots.map fun lot =>
      ⟨lot.1, totalSeconds (last.timestamp - lot.2), true⟩) := by
    unfold censored
    induction lots with
    | nil => rfl
    | cons _ _ ih =>
      rw [mapM_cons, ih fun other member => bought other (mem_cons_of_mem _ member), final]
      rfl
  refine ⟨_, ok, ?_, ?_⟩
  · rw [heldTotal, lotTotal, map_map]
    rfl
  · intro holding member
    obtain ⟨lot, held, rfl⟩ := mem_map.mp member
    exact ⟨(bought lot held).1, totalSeconds_nonneg (sub_nonneg.mpr (bought lot held).2)⟩

/-- In exact arithmetic, for every completed run of any program and every tape that does not end before
the run: the loop over the fills finds a lot for everything that is sold. What it holds sums to what was
sold, what is left to the final position, and every quantity was held for some time that is not negative. -/
theorem holding_times_account {engine : DeterministicBacktest} {bars : List Bar} {signal : Option Signal}
    {target : Option Target} {strategyId : String} {result : Replay} {data : QuoteReplayData}
    (completed : engine.runIn .exact bars signal target strategyId = .ok result)
    (covers : ∀ bar ∈ bars, ∀ last ∈ data.quotes.getLast?, bar.timestamp ≤ last.timestamp) :
    ∃ lots holdings unsold,
      result.ledger.fills.foldlM (holdFill .exact) ([], []) = .ok (lots, holdings) ∧
        censored data.quotes lots = .ok unsold ∧
        (holdings.map Holding.quantity).sum =
          ((result.ledger.fills.filter fun fill => fill.side = .sell).map Fill.quantity).sum ∧
        (unsold.map Holding.quantity).sum = result.ledger.position ∧
        ∀ holding ∈ holdings ++ unsold, 0 < holding.quantity ∧ 0 ≤ holding.seconds := by
  obtain ⟨last, final⟩ : ∃ last, data.quotes.getLast? = some last := by
    refine ⟨_, getLast?_eq_some_getLast fun none => ?_⟩
    have long := data.quotes_some.1
    rw [none] at long
    cases long
  obtain ⟨lots, holdings, accounted⟩ := runIn_accounted completed fun bar member => covers bar member last final
  obtain ⟨unsold, ok, kept, proper⟩ := censored_ok final lots accounted.bought
  refine ⟨lots, holdings, unsold, accounted.ok, ok, accounted.sold, kept.trans accounted.position, ?_⟩
  intro holding member
  rcases mem_append.mp member with closed | left
  · exact accounted.proper holding closed
  · exact proper holding left

/-- Two units that are bought at the first quote are sold together at the third. -/
theorem in_and_out_held : ∃ lots holdings unsold,
    inAndOutResult.ledger.fills.foldlM (holdFill .exact) ([], []) = .ok (lots, holdings) ∧
      censored wideTape.quotes lots = .ok unsold ∧
      (holdings.map Holding.quantity).sum = 2 ∧ (unsold.map Holding.quantity).sum = 0 := by
  have completed : wideEngine.runIn .exact wideBars none (some inAndOut) "target" = .ok inAndOutResult := by
    decide +kernel
  obtain ⟨lots, holdings, unsold, ok, left, sold, position, -⟩ :=
    holding_times_account completed (show ∀ bar ∈ wideBars, ∀ last ∈ wideTape.quotes.getLast?,
      bar.timestamp ≤ last.timestamp by decide +kernel)
  refine ⟨lots, holdings, unsold, ok, left, ?_, ?_⟩
  · rw [sold]
    decide +kernel
  · rw [position]
    decide +kernel

end Totals

end Liki.Finance.BacktestGate
