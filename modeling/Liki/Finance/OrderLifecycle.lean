import Liki.Finance.BacktestRounding

/-! The life of one order in a completed replay. `Replay.view` is what a replay
holds of one order id: its record, the intent that still waits, the states of its
events and its fills. Every operation of the replay changes the view of one id
and no other, so the order loop acts on each order as a machine of its own:
unknown, waiting, closed (`Life`). A waiting order is closed by a complete fill,
by the cancellation of an immediate remainder, by a rejection, or by the end of
the replay, and nothing ever leaves the closed state. -/
namespace Liki.Finance
open DecimalArithmetic Checks KeyedRows List DecimalContext Function Option Replay ReplayOrder

structure OrderView where
  order : Option ReplayOrder
  waiting : Option OrderIntent
  states : List OrderState
  fills : List Fill

namespace OrderView

variable (view : OrderView)

def moved (state : OrderState) : OrderView :=
  { view with
    order := view.order.map fun order => { order with state := state }
    states := view.states ++ [state] }

def dropped : OrderView := { view with waiting := none }

def kept (intent : OrderIntent) : OrderView :=
  { view with waiting := view.waiting.map fun _ => intent }

def noted (intent : OrderIntent) : OrderView :=
  { view with
    order := view.order.map fun order =>
      { order with normalizedIntent := order.normalizedIntent.or (some intent) } }

def charged (ctx : DecimalContext) (fill : Fill) : OrderView :=
  { view with
    order := view.order.map fun order =>
      { order with filledQuantity := ctx.add order.filledQuantity fill.quantity }
    fills := view.fills ++ [fill] }

end OrderView

namespace Replay

variable (replay : Replay)

def view (orderId : String) : OrderView where
  order := KeyedRows.find ReplayOrder.orderId orderId replay.orders
  waiting := KeyedRows.find OrderIntent.clientOrderId orderId replay.pending
  states := (replay.events.filter fun event => event.orderId = orderId).map OrderEvent.state
  fills := replay.ledger.fills.filter fun fill => fill.orderId = orderId

open OrderView

theorem view_event (orderId : String) (timestamp : Time) (state : OrderState) (reason : EventReason) :
    (replay.event orderId timestamp state reason).view =
      update replay.view orderId ((replay.view orderId).moved state) := by
  funext other
  by_cases same : other = orderId
  · subst same
    rw [update_self]
    simp only [view, event, moved, filter_append, map_append]
    rw [find_update_self]
    · simp
    · exact fun _ named => named
  · rw [update_of_ne same]
    simp only [view, event, filter_append, map_append]
    rw [find_update_other _ same]
    · simp [Ne.symm same]
    · exact fun _ named => named

theorem view_drop (orderId : String) :
    (replay.drop orderId).view = update replay.view orderId (replay.view orderId).dropped := by
  funext other
  by_cases same : other = orderId
  · subst same
    rw [update_self]
    have gone : KeyedRows.find OrderIntent.clientOrderId other (replay.drop other).pending = none := by
      rw [find_none]
      intro intent member
      simpa [drop] using (mem_filter.mp member).2
    simp only [view, dropped, gone]
    rfl
  · rw [update_of_ne same]
    have still : KeyedRows.find OrderIntent.clientOrderId other (replay.drop orderId).pending =
        KeyedRows.find OrderIntent.clientOrderId other replay.pending := by
      simp only [KeyedRows.find, drop, find?_filter]
      congr 1
      funext intent
      by_cases named : intent.clientOrderId = other <;> simp [named, same]
    simp only [view, still]
    rfl

theorem view_keep (intent : OrderIntent) :
    (replay.keep intent).view = update replay.view intent.clientOrderId
      ((replay.view intent.clientOrderId).kept intent) := by
  funext other
  by_cases same : other = intent.clientOrderId
  · subst same
    rw [update_self]
    simp only [view, keep, kept]
    rw [find_update_self fun _ _ => rfl]
  · rw [update_of_ne same]
    simp only [view, keep]
    rw [find_update_other (fun _ _ => rfl) same]

theorem view_note (intent : OrderIntent) :
    (replay.noteNormalized intent).view = update replay.view intent.clientOrderId
      ((replay.view intent.clientOrderId).noted intent) := by
  funext other
  by_cases same : other = intent.clientOrderId
  · subst same
    rw [update_self]
    simp only [view, noteNormalized, noted]
    rw [find_update_self]
    exact fun _ named => named
  · rw [update_of_ne same]
    simp only [view, noteNormalized]
    rw [find_update_other _ same]
    exact fun _ named => named

end Replay

namespace DeterministicBacktest

variable {ctx : DecimalContext} {engine : DeterministicBacktest} {bar : Bar} {execution : Execution}

theorem view_charge {orderId : String} (named : execution.fill.orderId = orderId)
    (posted : execution.ledger.fills = replay.ledger.fills ++ [execution.fill]) :
    (charge ctx replay orderId execution).view = update replay.view orderId
      ((replay.view orderId).charged ctx execution.fill) := by
  funext other
  by_cases same : other = orderId
  · subst same
    rw [update_self]
    simp only [view, charge, OrderView.charged, posted, filter_append]
    rw [find_update_self]
    · simp [named]
    · exact fun _ held => held
  · rw [update_of_ne same]
    simp only [view, charge, posted, filter_append]
    rw [find_update_other _ same]
    · simp [named, Ne.symm same]
    · exact fun _ held => held

theorem view_rejected (replay : Replay) (orderId : String) (error : FinanceError) :
    (rejected bar replay orderId error).view = update replay.view orderId
      ((replay.view orderId).moved .rejected).dropped := by
  have noted : ({ replay with rejections := replay.rejections ++ [(orderId, error)] } : Replay).view =
      replay.view := rfl
  rw [rejected, view_drop, view_event, noted, update_idem, update_self]

theorem view_cancelImmediate (replay : Replay) (intent : OrderIntent) :
    (cancelImmediate bar replay intent).view = update replay.view intent.clientOrderId
      (if (replay.view intent.clientOrderId).waiting.isSome ∧
          (intent.timeInForce = .ioc ∨ intent.timeInForce = .fok) then
        ((replay.view intent.clientOrderId).moved .cancelled).dropped
      else replay.view intent.clientOrderId) := by
  have pending : replay.isPending intent.clientOrderId =
      (replay.view intent.clientOrderId).waiting.isSome := by
    rw [Bool.eq_iff_iff]
    simp [isPending, view, KeyedRows.find, find?_isSome]
  unfold cancelImmediate
  rw [pending]
  split
  · rw [view_drop, view_event, update_idem, update_self]
  · rw [update_eq_self]

theorem view_settle {intent : OrderIntent} (named : execution.fill.orderId = intent.clientOrderId)
    (posted : execution.ledger.fills = replay.ledger.fills ++ [execution.fill]) :
    (settle ctx bar replay intent execution).view = update replay.view intent.clientOrderId
      (if execution.fill.quantity = intent.quantity then
        (((replay.view intent.clientOrderId).charged ctx execution.fill).moved .filled).dropped
      else
        (((replay.view intent.clientOrderId).charged ctx execution.fill).moved .partiallyFilled).kept
          { intent with quantity := ctx.sub intent.quantity execution.fill.quantity }) := by
  unfold settle
  dsimp only
  split
  · rw [view_drop, view_event, view_charge named posted]
    simp only [update_idem, update_self]
  · rw [view_keep, view_event, view_charge named posted]
    simp only [update_idem, update_self]

theorem view_opened {intent : OrderIntent}
    (unknown : (replay.view intent.clientOrderId).order = none) :
    (opened replay intent).view = update replay.view intent.clientOrderId
      { replay.view intent.clientOrderId with order := some ⟨intent, .intent, 0, none⟩ } := by
  funext other
  by_cases same : other = intent.clientOrderId
  · subst same
    rw [update_self]
    simp only [view] at unknown
    simp only [view, opened, find_insert, unknown, ReplayOrder.orderId, ↓reduceIte,
      none_or]
  · rw [update_of_ne same]
    simp only [view, opened, find_insert, ReplayOrder.orderId, Ne.symm same, ↓reduceIte,
      or_none]

theorem view_awaiting {intent : OrderIntent}
    (idle : (replay.view intent.clientOrderId).waiting = none) :
    (awaiting replay intent).view = update replay.view intent.clientOrderId
      { replay.view intent.clientOrderId with waiting := some intent } := by
  funext other
  by_cases same : other = intent.clientOrderId
  · subst same
    rw [update_self]
    simp only [view] at idle
    simp only [view, awaiting, find_insert, idle, ↓reduceIte, none_or]
  · rw [update_of_ne same]
    simp only [view, awaiting, find_insert, Ne.symm same, ↓reduceIte, or_none]

theorem view_submitted {intent : OrderIntent}
    (unknown : replay.view intent.clientOrderId = ⟨none, none, [], []⟩) :
    (submitted bar replay intent).view = update replay.view intent.clientOrderId
      ⟨some ⟨intent, .submitted, 0, none⟩, some intent, [.intent, .submitted], []⟩ := by
  unfold submitted
  rw [view_event, view_awaiting, view_event, view_opened]
  · simp only [update_idem, update_self, OrderView.moved, map_some, unknown,
      nil_append, singleton_append]
  · rw [unknown]
  · rw [view_event, update_self, view_opened]
    · simp only [update_self, OrderView.moved, unknown]
    · rw [unknown]

/-- A quantity is `count` lots, and neither it nor any smaller number of lots is
rounded by the context. -/
structure WholeLots (ctx : DecimalContext) (lotSize quantity : ℚ) (count : ℕ) : Prop where
  quantity : quantity = count * lotSize
  counts : ∀ fewer ≤ count, ctx.Fits (fewer : ℕ)
  quantities : ∀ fewer ≤ count, ctx.Fits ((fewer : ℕ) * lotSize)

variable {count : ℕ} {lotSize quantity : ℚ}

theorem floorToIncrement_lots (whole : WholeLots ctx lotSize quantity count)
    (positive : 0 < lotSize) (within : fewer ≤ count) :
    floorToIncrement ctx (fewer * lotSize) lotSize = fewer * lotSize := by
  have lots : ctx.div (fewer * lotSize) lotSize = (fewer : ℕ) := by
    have exactly : (fewer : ℚ) * lotSize / lotSize = fewer := mul_div_cancel_right₀ _ positive.ne'
    unfold div
    rw [exactly]
    exact whole.counts fewer within
  have truncated := roundDown_int fewer
  push_cast at truncated
  rw [floorToIncrement, lots, truncated]
  push_cast
  exact whole.quantities fewer within

/-- What is floored from at most `most` lots is some of them. -/
theorem floorToIncrement_some (whole : WholeLots ctx lotSize quantity count)
    (keeps : ctx.KeepsDigits) (positive : 0 < lotSize) (within : most ≤ count)
    (below : value ≤ most * lotSize) (some : 0 < floorToIncrement ctx value lotSize) :
    ∃ taken : ℕ, 0 < taken ∧ taken ≤ most ∧ floorToIncrement ctx value lotSize = taken * lotSize := by
  unfold floorToIncrement at some ⊢
  generalize truncated : roundDown (ctx.div value lotSize) = lots at some ⊢
  have more : 0 < lots := by
    have product := (round_pos_iff keeps _).mp some
    exact_mod_cast (pos_iff_pos_of_mul_pos product).mpr positive
  have quotient : 0 ≤ value / lotSize := by
    by_contra negative
    have rounded : ctx.div value lotSize < 0 :=
      (round_neg_iff keeps _).mpr (not_le.mp negative)
    have nonpositive : roundDown (ctx.div value lotSize) ≤ 0 := by
      unfold roundDown
      rw [if_neg (not_le.mpr rounded)]
      exact Int.ceil_le.mpr (by exact_mod_cast rounded.le)
    omega
  have rounded : ctx.div value lotSize ≤ (most : ℕ) :=
    round_le_of_fits keeps ((div_le_iff₀ positive).mpr below) (whole.counts most within)
  have bounded : lots ≤ most := by
    have nonneg : 0 ≤ ctx.div value lotSize := by
      by_contra negative
      exact absurd ((round_neg_iff keeps _).mp (not_le.mp negative)) (not_lt.mpr quotient)
    have least := (roundDown_le nonneg).trans rounded
    rw [truncated] at least
    exact_mod_cast least
  obtain ⟨taken, rfl⟩ := Int.eq_ofNat_of_zero_le more.le
  refine ⟨taken, by exact_mod_cast more, by exact_mod_cast bounded, ?_⟩
  push_cast
  exact whole.quantities taken ((by exact_mod_cast bounded : taken ≤ most).trans within)

def dueTime (engine : DeterministicBacktest) (intent : OrderIntent) : Time :=
  intent.submissionTime + engine.fillModel.latency

/-- Orders that do not outlive the bar they are tried on. -/
def Immediate (intent : OrderIntent) : Prop := intent.timeInForce = .ioc ∨ intent.timeInForce = .fok

def filledTotal (fills : List Fill) : ℚ := (fills.map Fill.quantity).sum

def Split (ctx : DecimalContext) (lotSize : ℚ) (order : ReplayOrder) (fills : List Fill)
    (waiting : ℚ) (count : ℕ) : Prop :=
  ∃ done left : ℕ, 0 < left ∧ done + left = count ∧ filledTotal fills = done * lotSize ∧
    order.filledQuantity = done * lotSize ∧ floorToIncrement ctx waiting lotSize = left * lotSize

/-- An order that waits after the bars in `past`. -/
structure Waiting (ctx : DecimalContext) (engine : DeterministicBacktest) (past : List Bar)
    (view : OrderView) (order : ReplayOrder) (intent : OrderIntent) : Prop where
  registered : view.order = some order
  pending : view.waiting = some intent
  states : ∃ partials, view.states =
    .intent :: .submitted :: replicate partials .partiallyFilled
  force : intent.timeInForce = order.intent.timeInForce
  due : engine.dueTime intent = engine.dueTime order.intent
  tallied : order.filledQuantity = ctx.sum (view.fills.map Fill.quantity)
  dated : ∀ fill ∈ view.fills, ∃ bar ∈ past, bar.timestamp = fill.timestamp
  untried : Immediate intent → view.fills = [] ∧
    ∀ bar ∈ past, bar.timestamp < engine.dueTime intent
  unnormalized : order.normalizedIntent = none → view.fills = []
  split : ∀ first ∈ order.normalizedIntent, ∀ count,
    WholeLots ctx engine.spec.lotSize first.quantity count →
      Split ctx engine.spec.lotSize order view.fills intent.quantity count

/-- An order that is done after the bars in `past`. -/
structure Closed (ctx : DecimalContext) (engine : DeterministicBacktest) (past : List Bar)
    (view : OrderView) (order : ReplayOrder) : Prop where
  registered : view.order = some order
  states : ∃ partials, view.states =
    .intent :: .submitted :: (replicate partials .partiallyFilled ++ [order.state])
  terminal : order.state = .filled ∨ order.state = .cancelled ∨ order.state = .rejected
  tallied : order.filledQuantity = ctx.sum (view.fills.map Fill.quantity)
  dated : ∀ fill ∈ view.fills, ∃ bar ∈ past, bar.timestamp = fill.timestamp
  once : Immediate order.intent → view.fills.length ≤ 1 ∧ ∀ fill ∈ view.fills, ∀ bar ∈ past,
    engine.dueTime order.intent ≤ bar.timestamp → fill.timestamp ≤ bar.timestamp
  unnormalized : order.normalizedIntent = none → view.fills = [] ∧ order.state ≠ .filled
  complete : ∀ first ∈ order.normalizedIntent, ∀ count,
    WholeLots ctx engine.spec.lotSize first.quantity count →
      order.filledQuantity = filledTotal view.fills ∧
        (order.state = .filled ↔ filledTotal view.fills = first.quantity) ∧
        (order.intent.timeInForce = .fok → view.fills = [] ∨ filledTotal view.fills = first.quantity)

inductive Life (ctx : DecimalContext) (engine : DeterministicBacktest) (past : List Bar) :
    OrderView → Prop
  | unknown : Life ctx engine past ⟨none, none, [], []⟩
  | waiting {view : OrderView} {order : ReplayOrder} {intent : OrderIntent}
      (waits : Waiting ctx engine past view order intent) : Life ctx engine past view
  | closed {view : OrderView} {order : ReplayOrder} (idle : view.waiting = none)
      (done : Closed ctx engine past view order) : Life ctx engine past view

variable {past : List Bar} {view : OrderView} {order : ReplayOrder} {intent normalized : OrderIntent}

variable {fills : List Fill} {waiting : ℚ}

theorem Split.short (split : Split ctx lotSize order fills waiting count) (positive : 0 < lotSize)
    (whole : WholeLots ctx lotSize quantity count) : filledTotal fills ≠ quantity := by
  obtain ⟨_, left, some, sum, total, -, -⟩ := split
  rw [total, whole.quantity, ← sum]
  push_cast
  intro same
  have nothing : (left : ℚ) * lotSize = 0 := by linarith
  have share : (0 : ℚ) < left * lotSize := mul_pos (by exact_mod_cast some) positive
  exact share.ne' nothing

/-- Closing a waiting order with nothing more filled: it keeps its share left, so
it is not filled. -/
theorem Waiting.close (waits : Waiting ctx engine past view order intent) (state : OrderState)
    (ends : state = .cancelled ∨ state = .rejected) (bar : Bar) :
    Closed ctx engine (past ++ [bar]) (view.moved state) { order with state := state } := by
  have unfilled : state ≠ .filled := by
    rcases ends with rfl | rfl <;> simp
  have nothing : Immediate order.intent → view.fills = [] := fun immediate =>
    (waits.untried (by rwa [Immediate, waits.force])).1
  refine ⟨?_, ?_, ?_, waits.tallied, ?_, ?_, ?_, ?_⟩
  · simp [OrderView.moved, waits.registered]
  · obtain ⟨partials, states⟩ := waits.states
    exact ⟨partials, by simp [OrderView.moved, states]⟩
  · exact .inr ends
  · intro fill member
    obtain ⟨earlier, passed, dated⟩ := waits.dated fill member
    exact ⟨earlier, by simp [passed], dated⟩
  · intro immediate
    simp [OrderView.moved, nothing immediate]
  · intro none
    exact ⟨waits.unnormalized none, unfilled⟩
  · intro first chosen count whole
    have parted := waits.split first chosen count whole
    have short := parted.short engine.spec.increments_pos.2.1 whole
    obtain ⟨_, _, -, -, total, tallied, -⟩ := parted
    refine ⟨tallied.trans total.symm, ?_, ?_⟩
    · exact ⟨fun filled => absurd filled unfilled, fun complete => absurd complete short⟩
    · intro killed
      exact .inl (nothing (.inr killed))

theorem Waiting.note (waits : Waiting ctx engine past view order intent)
    (normalizes : engine.normalize ctx bar snapshot intent = .ok normalized) :
    Waiting ctx engine past (view.noted normalized)
      { order with normalizedIntent := order.normalizedIntent.or (some normalized) } intent := by
  obtain ⟨-, rounded, enough⟩ := normalize_changes normalizes
  refine ⟨?_, waits.pending, waits.states, waits.force, waits.due, waits.tallied, waits.dated,
    waits.untried, ?_, ?_⟩
  · simp [OrderView.noted, waits.registered]
  · intro none
    simp at none
  · intro first chosen count whole
    cases earlier : order.normalizedIntent with
    | some =>
      simp only [earlier, some_or] at chosen
      exact waits.split first (earlier ▸ chosen) count whole
    | none =>
      simp only [earlier, none_or, mem_def, some.injEq] at chosen
      subst chosen
      have nothing := waits.unnormalized earlier
      have tallied := waits.tallied
      simp only [nothing, map_nil, DecimalContext.sum, foldl_nil] at tallied
      refine ⟨0, count, ?_, by omega, ?_, ?_, rounded.symm.trans whole.quantity⟩
      · have least : 0 < engine.spec.minQuantity := engine.spec.increments_pos.2.2.1
        have positive := least.trans_le enough
        rw [whole.quantity] at positive
        exact_mod_cast (pos_iff_pos_of_mul_pos positive).mpr engine.spec.increments_pos.2.1
      · simp [OrderView.noted, filledTotal, nothing]
      · simpa using tallied

theorem Waiting.outlives (waits : Waiting ctx engine past view order intent)
    (untried : Immediate intent → bar.timestamp < engine.dueTime intent) :
    Waiting ctx engine (past ++ [bar]) view order intent := by
  refine ⟨waits.registered, waits.pending, waits.states, waits.force, waits.due, waits.tallied, ?_, ?_,
    waits.unnormalized, waits.split⟩
  · intro fill member
    obtain ⟨earlier, passed, dated⟩ := waits.dated fill member
    exact ⟨earlier, by simp [passed], dated⟩
  · intro immediate
    refine ⟨(waits.untried immediate).1, ?_⟩
    intro seen member
    rcases mem_added member with passed | last
    · exact (waits.untried immediate).2 seen passed
    · rw [last]
      exact untried immediate

theorem Closed.outlives (done : Closed ctx engine past view order)
    (later : ∀ earlier ∈ past, earlier.timestamp < bar.timestamp) :
    Closed ctx engine (past ++ [bar]) view order := by
  refine ⟨done.registered, done.states, done.terminal, done.tallied, ?_, ?_, done.unnormalized,
    done.complete⟩
  · intro fill member
    obtain ⟨earlier, passed, dated⟩ := done.dated fill member
    exact ⟨earlier, by simp [passed], dated⟩
  · intro immediate
    refine ⟨(done.once immediate).1, ?_⟩
    intro fill member seen passed due
    rcases mem_added passed with older | last
    · exact (done.once immediate).2 fill member seen older due
    · obtain ⟨earlier, held, dated⟩ := done.dated fill member
      rw [last, ← dated]
      exact (later earlier held).le

theorem Split.fill {fill : Fill} (parted : Split ctx lotSize order fills waiting count)
    (keeps : ctx.KeepsDigits) (positive : 0 < lotSize)
    (whole : WholeLots ctx lotSize quantity count)
    (rounded : normalized.quantity = floorToIncrement ctx waiting lotSize)
    (covered : ∃ executable ≤ normalized.quantity, fill.quantity = floorToIncrement ctx executable lotSize) :
    ∃ done left : ℕ, done + left = count ∧ filledTotal (fills ++ [fill]) = done * lotSize ∧
      ctx.add order.filledQuantity fill.quantity = done * lotSize ∧
      (fill.quantity = normalized.quantity ↔ left = 0) ∧
      fill.quantity ≤ normalized.quantity ∧
      floorToIncrement ctx (ctx.sub normalized.quantity fill.quantity) lotSize = left * lotSize := by
  obtain ⟨done, left, _, _, total, tallied, rest⟩ := parted
  obtain ⟨_, below, lots⟩ := covered
  have asked : normalized.quantity = left * lotSize := rounded.trans rest
  have present := fill.quantity_pos
  rw [lots] at present
  obtain ⟨taken, _, within, took⟩ := floorToIncrement_some whole keeps positive
    (show left ≤ count by omega) (asked ▸ below) present
  have filled : fill.quantity = taken * lotSize := lots.trans took
  have remaining : ((left - taken : ℕ) : ℚ) = left - taken := Nat.cast_sub within
  have difference : normalized.quantity - fill.quantity = ((left - taken : ℕ) : ℚ) * lotSize := by
    rw [asked, filled, remaining]
    ring
  have sumTotal : (done : ℚ) * lotSize + taken * lotSize = ((done + taken : ℕ) : ℚ) * lotSize := by
    push_cast
    ring
  refine ⟨done + taken, left - taken, by omega, ?_, ?_, ?_, ?_, ?_⟩
  · rw [← sumTotal, ← total, ← filled]
    simp [filledTotal]
  · rw [tallied, filled, ← sumTotal]
    refine add_of_fits ?_
    rw [sumTotal]
    exact whole.quantities _ (by omega)
  · rw [asked, filled, mul_left_inj' positive.ne']
    constructor
    · intro same
      have equal : taken = left := by exact_mod_cast same
      omega
    · intro nothing
      have equal : taken = left := by omega
      rw [equal]
  · rw [asked, filled]
    exact mul_le_mul_of_nonneg_right (by exact_mod_cast within) positive.le
  · have exactly : ctx.sub normalized.quantity fill.quantity = ((left - taken : ℕ) : ℚ) * lotSize := by
      rw [← difference]
      refine sub_of_fits ?_
      rw [difference]
      exact whole.quantities _ (by omega)
    rw [exactly]
    exact floorToIncrement_lots whole positive (by omega)

/-- What one fill of a noted, waiting order needs to be. -/
structure Fits (ctx : DecimalContext) (engine : DeterministicBacktest) (bar : Bar)
    (intent normalized : OrderIntent) (fill : Fill) : Prop where
  rounded : normalized.quantity = floorToIncrement ctx intent.quantity engine.spec.lotSize
  timestamp : fill.timestamp = bar.timestamp
  covered : ∃ executable ≤ normalized.quantity,
    fill.quantity = floorToIncrement ctx executable engine.spec.lotSize
  whole : normalized.timeInForce = .fok → normalized.quantity ≤ fill.quantity

theorem tally_fill (fill : Fill)
    (tallied : order.filledQuantity = ctx.sum (fills.map Fill.quantity)) :
    ctx.add order.filledQuantity fill.quantity = ctx.sum ((fills ++ [fill]).map Fill.quantity) := by
  rw [tallied, DecimalContext.sum, DecimalContext.sum, map_append, foldl_append]
  rfl

variable {first : OrderIntent} {index : ℕ} {state : Replay × ℚ}

variable {filledView : OrderView}

theorem Waiting.fillAndClose {fill : Fill} (keeps : ctx.KeepsDigits)
    (waits : Waiting ctx engine past view order intent)
    (noted : order.normalizedIntent = some first)
    (fits : Fits ctx engine bar intent normalized fill)
    (force : normalized.timeInForce = intent.timeInForce) (state : OrderState) (partials : ℕ)
    (ends : (state = .filled ∧ fill.quantity = normalized.quantity) ∨
      (state = .cancelled ∧ fill.quantity ≠ normalized.quantity))
    (viewOrder : filledView.order =
      some { order with filledQuantity := ctx.add order.filledQuantity fill.quantity, state := state })
    (viewStates : filledView.states =
      .intent :: .submitted :: (replicate partials .partiallyFilled ++ [state]))
    (viewFills : filledView.fills = view.fills ++ [fill]) :
    Closed ctx engine (past ++ [bar]) filledView
      { order with filledQuantity := ctx.add order.filledQuantity fill.quantity, state := state } := by
  have untried : Immediate order.intent → view.fills = [] ∧
      ∀ bar ∈ past, bar.timestamp < engine.dueTime order.intent := by
    intro immediate
    rw [← waits.due]
    exact waits.untried (by rwa [Immediate, waits.force])
  refine ⟨viewOrder, ⟨partials, viewStates⟩, ?_, ?_, ?_, ?_, ?_, ?_⟩
  · rcases ends with ⟨rfl, -⟩ | ⟨rfl, -⟩
    · exact .inl rfl
    · exact .inr (.inl rfl)
  · rw [viewFills]
    exact tally_fill fill waits.tallied
  · rw [viewFills]
    intro posted member
    rcases mem_added member with older | newest
    · obtain ⟨earlier, passed, dated⟩ := waits.dated posted older
      exact ⟨earlier, by simp [passed], dated⟩
    · refine ⟨bar, by simp, ?_⟩
      rw [newest, fits.timestamp]
  · intro immediate
    obtain ⟨nothing, before⟩ := untried immediate
    rw [viewFills, nothing]
    refine ⟨by simp, ?_⟩
    intro posted member seen passed due
    rw [mem_singleton.mp member, fits.timestamp]
    rcases mem_added passed with older | last
    · exact absurd due (not_le.mpr (before seen older))
    · rw [last]
  · intro none
    rw [noted] at none
    cases none
  · intro chosen picked count whole
    obtain ⟨done, left, _, total, tallied, complete, within, -⟩ :=
      (waits.split chosen picked count whole).fill keeps engine.spec.increments_pos.2.1 whole fits.rounded
        fits.covered
    have lots : filledTotal (view.fills ++ [fill]) = chosen.quantity ↔ left = 0 := by
      rw [total, whole.quantity, mul_left_inj' engine.spec.increments_pos.2.1.ne']
      constructor
      · intro same
        have equal : done = count := by exact_mod_cast same
        omega
      · intro nothing
        have equal : done = count := by omega
        rw [equal]
    rw [viewFills]
    refine ⟨tallied.trans total.symm, ?_, ?_⟩
    · rw [lots, ← complete]
      rcases ends with ⟨rfl, equal⟩ | ⟨rfl, differ⟩
      · simp [equal]
      · simp [differ]
    · intro killed
      refine .inr (lots.mpr (complete.mp (le_antisymm within (fits.whole ?_))))
      rw [force, waits.force]
      exact killed

theorem Waiting.fillAndWait {fill : Fill} (rest : OrderIntent) (keeps : ctx.KeepsDigits)
    (waits : Waiting ctx engine past view order intent)
    (noted : order.normalizedIntent = some first)
    (fits : Fits ctx engine bar intent normalized fill)
    (differ : fill.quantity ≠ normalized.quantity)
    (same : rest.timeInForce = intent.timeInForce ∧ engine.dueTime rest = engine.dueTime intent)
    (remainder : rest.quantity = ctx.sub normalized.quantity fill.quantity)
    (patient : ¬Immediate intent)
    (viewOrder : filledView.order = some { order with
      filledQuantity := ctx.add order.filledQuantity fill.quantity, state := .partiallyFilled })
    (viewWaiting : filledView.waiting = some rest)
    (viewStates : filledView.states = view.states ++ [.partiallyFilled])
    (viewFills : filledView.fills = view.fills ++ [fill]) :
    Waiting ctx engine (past ++ [bar]) filledView { order with
      filledQuantity := ctx.add order.filledQuantity fill.quantity, state := .partiallyFilled } rest := by
  refine ⟨viewOrder, viewWaiting, ?_, same.1.trans waits.force, same.2.trans waits.due, ?_, ?_, ?_, ?_, ?_⟩
  · obtain ⟨partials, states⟩ := waits.states
    refine ⟨partials + 1, ?_⟩
    rw [viewStates, states, replicate_succ']
    rfl
  · rw [viewFills]
    exact tally_fill fill waits.tallied
  · rw [viewFills]
    intro posted member
    rcases mem_added member with older | newest
    · obtain ⟨earlier, passed, dated⟩ := waits.dated posted older
      exact ⟨earlier, by simp [passed], dated⟩
    · refine ⟨bar, by simp, ?_⟩
      rw [newest, fits.timestamp]
  · intro immediate
    exact absurd (by rwa [Immediate, same.1] at immediate) patient
  · intro none
    rw [noted] at none
    cases none
  · intro chosen picked count whole
    obtain ⟨done, left, sum, total, tallied, complete, -, lots⟩ :=
      (waits.split chosen picked count whole).fill keeps engine.spec.increments_pos.2.1 whole fits.rounded
        fits.covered
    refine ⟨done, left, ?_, sum, ?_, tallied, ?_⟩
    · exact Nat.pos_of_ne_zero fun nothing => differ (complete.mpr nothing)
    · rw [viewFills]
      exact total
    · rw [remainder]
      exact lots

theorem Closed.dropped (done : Closed ctx engine past view order) :
    Life ctx engine past view.dropped :=
  .closed rfl ⟨done.registered, done.states, done.terminal, done.tallied, done.dated, done.once,
    done.unnormalized, done.complete⟩

theorem Waiting.cancelled (waits : Waiting ctx engine past view order intent)
    (normalizedForce : normalized.timeInForce = intent.timeInForce) :
    Life ctx engine (past ++ [bar])
      (if view.waiting.isSome ∧ (normalized.timeInForce = .ioc ∨ normalized.timeInForce = .fok) then
        (view.moved .cancelled).dropped else view) := by
  rw [waits.pending, normalizedForce]
  by_cases immediate : Immediate intent
  · rw [if_pos ⟨rfl, immediate⟩]
    exact (waits.close .cancelled (.inl rfl) bar).dropped
  · rw [if_neg fun both => immediate both.2]
    exact .waiting (waits.outlives fun now => absurd now immediate)

/-- What a posted fill makes of a noted order, before and after the cancellation
of an immediate remainder. -/
theorem Waiting.filled {fill : Fill} (keeps : ctx.KeepsDigits)
    (waits : Waiting ctx engine past view order intent)
    (noted : order.normalizedIntent = some first)
    (fits : Fits ctx engine bar intent normalized fill)
    (force : normalized.timeInForce = intent.timeInForce)
    (due : engine.dueTime normalized = engine.dueTime intent) {after : OrderView}
    (settled : after = if fill.quantity = normalized.quantity then
        ((view.charged ctx fill).moved .filled).dropped
      else ((view.charged ctx fill).moved .partiallyFilled).kept
        { normalized with quantity := ctx.sub normalized.quantity fill.quantity }) :
    Life ctx engine (past ++ [bar])
      (if after.waiting.isSome ∧ (normalized.timeInForce = .ioc ∨ normalized.timeInForce = .fok) then
        (after.moved .cancelled).dropped else after) := by
  obtain ⟨partials, states⟩ := waits.states
  by_cases complete : fill.quantity = normalized.quantity
  · rw [if_pos complete] at settled
    subst settled
    rw [if_neg (by simp [OrderView.dropped])]
    have done : Closed ctx engine (past ++ [bar]) ((view.charged ctx fill).moved .filled)
        { order with filledQuantity := ctx.add order.filledQuantity fill.quantity, state := .filled } := by
      refine waits.fillAndClose keeps noted fits force .filled partials (.inl ⟨rfl, complete⟩) ?_ ?_ rfl
      · simp [OrderView.moved, OrderView.charged, waits.registered]
      · simp [OrderView.moved, OrderView.charged, states]
    exact done.dropped
  · rw [if_neg complete] at settled
    subst settled
    by_cases immediate : Immediate intent
    · rw [if_pos ⟨by simp [OrderView.kept, OrderView.moved, OrderView.charged, waits.pending],
        by rw [force]; exact immediate⟩]
      have done : Closed ctx engine (past ++ [bar])
          ((((view.charged ctx fill).moved .partiallyFilled).kept
            { normalized with quantity := ctx.sub normalized.quantity fill.quantity }).moved .cancelled)
          { order with filledQuantity := ctx.add order.filledQuantity fill.quantity, state := .cancelled } := by
        refine waits.fillAndClose keeps noted fits force .cancelled (partials + 1) (.inr ⟨rfl, complete⟩)
          ?_ ?_ rfl
        · simp [OrderView.moved, OrderView.charged, OrderView.kept, waits.registered]
        · simp [OrderView.moved, OrderView.charged, OrderView.kept, states, replicate_succ']
      exact done.dropped
    · rw [if_neg fun both => immediate (by rw [Immediate, ← force]; exact both.2)]
      refine .waiting (waits.fillAndWait
        { normalized with quantity := ctx.sub normalized.quantity fill.quantity } keeps noted fits complete
        ⟨force, due⟩ rfl immediate ?_ ?_ rfl rfl)
      · simp [OrderView.moved, OrderView.charged, OrderView.kept, waits.registered]
      · simp [OrderView.moved, OrderView.charged, OrderView.kept, waits.pending]

/-- One pass moves its own order along and leaves every other order alone. -/
theorem Passed.life {after : Replay × ℚ} (keeps : ctx.KeepsDigits)
    (observed : snapshot.timestamp = bar.timestamp)
    (passed : Passed ctx engine index bar snapshot intent state after)
    (waits : Waiting ctx engine past (state.1.view intent.clientOrderId) order intent) :
    Life ctx engine (past ++ [bar]) (after.1.view intent.clientOrderId) ∧
      ∀ other, other ≠ intent.clientOrderId → after.1.view other = state.1.view other := by
  cases passed with
  | early early =>
    refine ⟨.waiting (waits.outlives fun _ => ?_), fun _ _ => rfl⟩
    rw [← observed]
    exact early
  | unnormalized =>
    rw [view_rejected]
    refine ⟨?_, fun other differ => update_of_ne differ _ _⟩
    rw [update_self]
    exact (waits.close .rejected (.inr rfl) bar).dropped
  | @refused _ _ _ _ normalizes =>
    have named := congrArg OrderIntent.clientOrderId (normalize_changes normalizes).1
    rw [view_rejected, view_note, named]
    simp only [update_idem, update_self]
    refine ⟨?_, fun other differ => update_of_ne differ _ _⟩
    exact ((waits.note normalizes).close .rejected (.inr rfl) bar).dropped
  | @unfilled _ _ _ normalizes =>
    have changes := (normalize_changes normalizes).1
    have named := congrArg OrderIntent.clientOrderId changes
    have force := congrArg OrderIntent.timeInForce changes
    dsimp only at named force
    rw [view_cancelImmediate, view_note, named]
    simp only [update_idem, update_self]
    refine ⟨?_, fun other differ => update_of_ne differ _ _⟩
    exact (waits.note normalizes).cancelled force
  | @filled replay _ _ normalized _ execution _ normalizes allows executes =>
    obtain ⟨changes, rounded, -⟩ := normalize_changes normalizes
    have named := congrArg OrderIntent.clientOrderId changes
    have force := congrArg OrderIntent.timeInForce changes
    have submitted := congrArg OrderIntent.submissionTime changes
    dsimp only at named force submitted
    obtain ⟨filledOrder, timestamp, filledQuantity, applied⟩ := execute_posts executes
    obtain ⟨covered, -, whole⟩ := allow_covers allows
    have posted : execution.ledger.fills =
        (replay.noteNormalized normalized).ledger.fills ++ [execution.fill] :=
      LedgerState.fills_of_apply applied
    rw [view_cancelImmediate, view_settle filledOrder posted, view_note, named]
    simp only [update_idem, update_self]
    refine ⟨?_, fun other differ => update_of_ne differ _ _⟩
    have noted : order.normalizedIntent.or (some normalized) =
        some (order.normalizedIntent.getD normalized) := by
      cases order.normalizedIntent <;> rfl
    refine (waits.note normalizes).filled keeps noted ⟨rounded, timestamp, ?_, ?_⟩ force ?_ ?_
    · rw [filledQuantity]
      exact covered
    · rw [filledQuantity]
      exact whole
    · rw [dueTime, dueTime, submitted]
    · rw [named]

/-- The invariant of a run after the bars in `past`: every order is in one of
its stages, and ids are used once. -/
structure Alive (ctx : DecimalContext) (engine : DeterministicBacktest) (past : List Bar)
    (replay : Replay) : Prop where
  life : ∀ orderId, Life ctx engine past (replay.view orderId)
  separate : KeyedRows.Distinct OrderIntent.clientOrderId replay.pending

theorem Life.of_pending {replay : Replay} (life : Life ctx engine past (replay.view intent.clientOrderId))
    (separate : KeyedRows.Distinct OrderIntent.clientOrderId replay.pending)
    (member : intent ∈ replay.pending) :
    ∃ order, Waiting ctx engine past (replay.view intent.clientOrderId) order intent := by
  have found : (replay.view intent.clientOrderId).waiting = some intent :=
    find_of_mem separate member
  generalize replay.view intent.clientOrderId = view at life found
  cases life with
  | unknown => cases found
  | @waiting _ order other waits =>
    have same : other = intent := some.inj (waits.pending.symm.trans found)
    exact ⟨order, same ▸ waits⟩
  | closed idle =>
    rw [idle] at found
    cases found

theorem Life.outlives (life : Life ctx engine past view) (idle : view.waiting = none)
    (later : ∀ earlier ∈ past, earlier.timestamp < bar.timestamp) :
    Life ctx engine (past ++ [bar]) view := by
  cases life with
  | unknown => exact .unknown
  | waiting waits =>
    rw [waits.pending] at idle
    cases idle
  | closed idle done => exact .closed idle (done.outlives later)

theorem cancelImmediate_pending (replay : Replay) (intent : OrderIntent) :
    (cancelImmediate bar replay intent).pending.Sublist replay.pending := by
  unfold cancelImmediate
  split
  · exact filter_sublist
  · exact List.Sublist.refl _

theorem Passed.separate {after : Replay × ℚ}
    (passed : Passed ctx engine index bar snapshot intent state after)
    (separate : KeyedRows.Distinct OrderIntent.clientOrderId state.1.pending) :
    KeyedRows.Distinct OrderIntent.clientOrderId after.1.pending := by
  cases passed with
  | early => exact separate
  | unnormalized => exact separate.sublist (filter_sublist.map _)
  | refused => exact separate.sublist (filter_sublist.map _)
  | unfilled => exact separate.sublist ((cancelImmediate_pending _ _).map _)
  | filled =>
    refine List.Nodup.sublist ((cancelImmediate_pending _ _).map _) ?_
    unfold settle
    dsimp only
    split
    · exact separate.sublist (filter_sublist.map _)
    · exact distinct_update (fun _ _ => rfl) separate

theorem passes_life {after : Replay × ℚ} (keeps : ctx.KeepsDigits)
    (observed : snapshot.timestamp = bar.timestamp)
    (distinct : KeyedRows.Distinct OrderIntent.clientOrderId todo)
    (separate : KeyedRows.Distinct OrderIntent.clientOrderId state.1.pending)
    (ahead : ∀ intent ∈ todo, ∃ order,
      Waiting ctx engine past (state.1.view intent.clientOrderId) order intent)
    (behind : ∀ orderId, (∀ intent ∈ todo, intent.clientOrderId ≠ orderId) →
      Life ctx engine (past ++ [bar]) (state.1.view orderId))
    (ok : todo.foldlM (engine.processOrder ctx index bar snapshot) state = .ok after) :
    Alive ctx engine (past ++ [bar]) after.1 := by
  induction todo generalizing state with
  | nil =>
    cases ok
    exact ⟨fun orderId => behind orderId (by simp), separate⟩
  | cons intent _ ih =>
    obtain ⟨alone, rest⟩ := nodup_cons.mp distinct
    rw [foldlM_cons] at ok
    obtain ⟨_, processed, ok⟩ := bind_ok.mp ok
    have passed := processOrder_ok processed
    obtain ⟨_, waits⟩ := ahead intent mem_cons_self
    obtain ⟨moved, others⟩ := passed.life keeps observed waits
    refine ih rest (passed.separate separate) ?_ ?_ ok
    · intro other member
      have differ : other.clientOrderId ≠ intent.clientOrderId := fun same =>
        alone (same ▸ mem_map_of_mem member)
      rw [others _ differ]
      exact ahead other (mem_cons_of_mem _ member)
    · intro orderId apart
      by_cases same : orderId = intent.clientOrderId
      · exact same ▸ moved
      · rw [others orderId same]
        refine behind orderId ?_
        intro other member
        rcases mem_cons.mp member with rfl | later
        · exact Ne.symm same
        · exact apart other later

variable {proposed : Option OrderIntent}

/-- A submission opens a waiting order: no earlier bar was one it was due on. -/
theorem Alive.submit {replay after : Replay} (alive : Alive ctx engine past replay)
    (later : ∀ earlier ∈ past, earlier.timestamp < bar.timestamp)
    (ok : submitProposed (causalHistory past bar.timestamp) bar replay proposed = .ok after) :
    Alive ctx engine past after := by
  cases proposed with
  | none =>
    cases ok
    exact alive
  | some intent =>
    obtain ⟨fresh, onTime, rfl⟩ := submit_ok ok
    have unregistered : (replay.view intent.clientOrderId).order = none :=
      find_none.mpr fresh
    have unknown : replay.view intent.clientOrderId = ⟨none, none, [], []⟩ := by
      have life := alive.life intent.clientOrderId
      generalize replay.view intent.clientOrderId = view at life unregistered
      cases life with
      | unknown => rfl
      | waiting waits =>
        rw [waits.registered] at unregistered
        cases unregistered
      | closed _ done =>
        rw [done.registered] at unregistered
        cases unregistered
    have idle : ∀ other ∈ replay.pending, other.clientOrderId ≠ intent.clientOrderId :=
      find_none.mp (congrArg OrderView.waiting unknown)
    refine ⟨?_, distinct_insert alive.separate (find_none.mpr idle)⟩
    intro orderId
    rw [view_submitted unknown]
    by_cases same : orderId = intent.clientOrderId
    · subst same
      rw [update_self]
      have waits : Waiting ctx engine past ⟨some ⟨intent, .submitted, 0, none⟩, some intent,
          [.intent, .submitted], []⟩ ⟨intent, .submitted, 0, none⟩ intent := by
        refine ⟨rfl, rfl, ⟨0, rfl⟩, rfl, rfl, rfl, by simp, ?_, fun _ => rfl, by simp⟩
        intro immediate
        refine ⟨rfl, fun earlier passed => ?_⟩
        have latency := engine.fillModel.latency_nonneg
        exact lt_of_lt_of_le ((later earlier passed).trans_le onTime) (by unfold dueTime; linarith)
      exact .waiting waits
    · rw [update_of_ne same]
      exact alive.life orderId

variable {signal : Option Signal} {strategyId : String} {target : Option Target}

theorem Alive.trade {replay traded : Replay} (keeps : ctx.KeepsDigits)
    (alive : Alive ctx engine past replay)
    (later : ∀ earlier ∈ past, earlier.timestamp < bar.timestamp)
    (ok : engine.trade ctx signal target strategyId past bar replay = .ok traded) :
    Alive ctx engine (past ++ [bar]) traded := by
  obtain ⟨_, _, _, _, -, submission, observed, passes⟩ := trade_ok ok
  have opened := alive.submit later submission
  refine passes_life keeps (Bar.snapshot_timestamp observed) opened.separate opened.separate ?_ ?_ passes
  · intro intent member
    exact (opened.life _).of_pending opened.separate member
  · intro orderId apart
    exact (opened.life orderId).outlives (find_none.mpr apart) later

def fillEvents (events : List OrderEvent) : List (String × Time) :=
  (events.filter fun event => event.state = .filled ∨ event.state = .partiallyFilled).map fun event =>
    (event.orderId, event.timestamp)

structure Booked (ctx : DecimalContext) (cash : ℚ) (replay : Replay) : Prop where
  posted : replay.ledger = LedgerState.replay ctx cash replay.ledger.fills
  reported : fillEvents replay.events =
    replay.ledger.fills.map fun fill => (fill.orderId, fill.timestamp)
  distinct : (replay.orders.map orderId).Nodup

variable {cash : ℚ} {replay after : Replay}

theorem Booked.event (booked : Booked ctx cash replay) (orderId : String) (timestamp : Time)
    {state : OrderState} (reason : EventReason) (silent : state ≠ .filled ∧ state ≠ .partiallyFilled) :
    Booked ctx cash (replay.event orderId timestamp state reason) := by
  refine ⟨booked.posted, ?_, ?_⟩
  · have same : fillEvents (replay.event orderId timestamp state reason).events =
        fillEvents replay.events := by
      simp [fillEvents, Replay.event, silent.1, silent.2]
    rw [same]
    exact booked.reported
  · have ids : (replay.event orderId timestamp state reason).orders.map ReplayOrder.orderId =
        replay.orders.map ReplayOrder.orderId := map_update _ fun _ _ => rfl
    rw [ids]
    exact booked.distinct

theorem Booked.of_same (booked : Booked ctx cash replay) (ledger : after.ledger = replay.ledger)
    (events : after.events = replay.events)
    (orders : after.orders.map orderId = replay.orders.map orderId) :
    Booked ctx cash after := by
  refine ⟨?_, ?_, ?_⟩
  · rw [ledger]
    exact booked.posted
  · rw [ledger, events]
    exact booked.reported
  · rw [orders]
    exact booked.distinct

theorem Booked.rejected (booked : Booked ctx cash replay) (orderId : String) (error : FinanceError) :
    Booked ctx cash (rejected bar replay orderId error) := by
  have noted : Booked ctx cash { replay with rejections := replay.rejections ++ [(orderId, error)] } :=
    booked.of_same rfl rfl rfl
  exact (noted.event orderId bar.timestamp (.refused error) (by simp)).of_same rfl rfl rfl

theorem Booked.cancelImmediate (booked : Booked ctx cash replay) (intent : OrderIntent) :
    Booked ctx cash (cancelImmediate bar replay intent) := by
  unfold DeterministicBacktest.cancelImmediate
  split
  · exact (booked.event intent.clientOrderId bar.timestamp .unfilledImmediateRemainder
      (by simp)).of_same rfl rfl rfl
  · exact booked

theorem Booked.note (booked : Booked ctx cash replay) (intent : OrderIntent) :
    Booked ctx cash (replay.noteNormalized intent) :=
  booked.of_same rfl rfl (map_update _ fun _ _ => rfl)

/-- A posted fill is reported by one event. -/
theorem Booked.settle (booked : Booked ctx cash replay)
    (order : execution.fill.orderId = intent.clientOrderId)
    (timestamp : execution.fill.timestamp = bar.timestamp)
    (applied : replay.ledger.apply ctx execution.fill = .ok execution.ledger) :
    Booked ctx cash (settle ctx bar replay intent execution) := by
  have posted : execution.ledger = LedgerState.replay ctx cash execution.ledger.fills := by
    have grown := LedgerState.fills_of_apply applied
    rw [grown, LedgerState.replay_append, ← booked.posted, LedgerState.offer, applied]
  have reported : ∀ state : OrderState, state = .filled ∨ state = .partiallyFilled →
      fillEvents (replay.events ++ [⟨intent.clientOrderId, bar.timestamp, state, .none⟩]) =
        execution.ledger.fills.map fun fill => (fill.orderId, fill.timestamp) := by
    intro state fills
    have kept := booked.reported
    simp only [fillEvents] at kept
    rw [LedgerState.fills_of_apply applied, map_append, ← kept]
    simp [fillEvents, fills, order, timestamp]
  have ids : ∀ state : OrderState,
      ((charge ctx replay intent.clientOrderId execution).event intent.clientOrderId bar.timestamp state
        .none).orders.map orderId = replay.orders.map orderId := by
    intro state
    have charged : (charge ctx replay intent.clientOrderId execution).orders.map orderId =
        replay.orders.map orderId := map_update _ fun _ _ => rfl
    rw [← charged]
    exact map_update _ fun _ _ => rfl
  unfold DeterministicBacktest.settle
  dsimp only
  split
  · exact ⟨posted, reported .filled (.inl rfl), (ids .filled).symm ▸ booked.distinct⟩
  · exact ⟨posted, reported .partiallyFilled (.inr rfl), (ids .partiallyFilled).symm ▸ booked.distinct⟩

theorem Passed.booked {after : Replay × ℚ}
    (passed : Passed ctx engine index bar snapshot intent state after)
    (booked : Booked ctx cash state.1) : Booked ctx cash after.1 := by
  cases passed with
  | early => exact booked
  | unnormalized error => exact booked.rejected _ error
  | refused error => exact (booked.note _).rejected _ error
  | unfilled => exact (booked.note _).cancelImmediate _
  | filled _ _ _ executes =>
    obtain ⟨order, timestamp, -, applied⟩ := execute_posts executes
    exact ((booked.note _).settle order timestamp applied).cancelImmediate _

theorem Booked.submit (booked : Booked ctx cash replay)
    (ok : submitProposed (causalHistory past bar.timestamp) bar replay proposed = .ok after) :
    Booked ctx cash after := by
  cases proposed with
  | none =>
    cases ok
    exact booked
  | some intent =>
    obtain ⟨fresh, -, rfl⟩ := submit_ok ok
    have registered : Booked ctx cash (opened replay intent) := by
      refine ⟨booked.posted, booked.reported, ?_⟩
      exact distinct_insert booked.distinct (find_none.mpr fresh)
    have noted : Booked ctx cash ((opened replay intent).event intent.clientOrderId bar.timestamp .intent
        .none) := registered.event _ _ _ (by simp)
    have pending : Booked ctx cash (awaiting ((opened replay intent).event intent.clientOrderId
        bar.timestamp .intent .none) intent) := noted.of_same rfl rfl rfl
    exact pending.event intent.clientOrderId bar.timestamp .none (by simp)

theorem Booked.trade (booked : Booked ctx cash replay)
    (ok : engine.trade ctx signal target strategyId past bar replay = .ok traded) :
    Booked ctx cash traded := by
  obtain ⟨_, _, _, _, -, submission, -, passes⟩ := trade_ok ok
  refine foldlM_invariant (fun state : Replay × ℚ => Booked ctx cash state.1) ?_ ?_ passes
  · intro state intent after booked processed
    exact (processOrder_ok processed).booked booked
  · exact booked.submit submission

/-- An order after the end of the replay: never heard of, or closed over bars
that include all those passed. -/
def Ended (ctx : DecimalContext) (engine : DeterministicBacktest) (past : List Bar) (view : OrderView) :
    Prop :=
  view.order = none ∨ ∃ order seen, (∀ bar ∈ past, bar ∈ seen) ∧ Closed ctx engine seen view order

variable {ordered : List Bar}

/-- The closing events cancel each waiting order once. -/
theorem endReplay_life (alive : Alive ctx engine past replay) (final : ordered.getLast? = some last)
    (orderId : String) : Ended ctx engine past ((endReplay ordered replay).view orderId) := by
  have closing : ∀ (todo : List OrderIntent) (replay : Replay),
      KeyedRows.Distinct OrderIntent.clientOrderId todo →
      (∀ intent ∈ todo, ∃ order, Waiting ctx engine past (replay.view intent.clientOrderId) order intent) →
      (∀ orderId, (∀ intent ∈ todo, intent.clientOrderId ≠ orderId) →
        Ended ctx engine past (replay.view orderId)) →
      Ended ctx engine past ((todo.foldl (fun replay intent => replay.event intent.clientOrderId
        last.timestamp .cancelled .endOfReplay) replay).view orderId) := by
    intro todo
    induction todo with
    | nil => exact fun replay _ _ behind => behind orderId (by simp)
    | cons intent _ ih =>
      intro replay distinct ahead behind
      obtain ⟨alone, rest⟩ := nodup_cons.mp distinct
      refine ih _ rest ?_ ?_
      · intro other member
        have differ : other.clientOrderId ≠ intent.clientOrderId := fun same =>
          alone (same ▸ mem_map_of_mem member)
        rw [view_event, update_of_ne differ]
        exact ahead other (mem_cons_of_mem _ member)
      · intro orderId apart
        rw [view_event]
        by_cases same : orderId = intent.clientOrderId
        · subst same
          rw [update_self]
          obtain ⟨_, waits⟩ := ahead intent mem_cons_self
          exact .inr ⟨_, past ++ [last], fun bar member => by simp [member],
            waits.close .cancelled (.inl rfl) last⟩
        · rw [update_of_ne same]
          refine behind orderId ?_
          intro other member
          rcases mem_cons.mp member with rfl | later
          · exact Ne.symm same
          · exact apart other later
  unfold endReplay
  rw [final]
  refine closing replay.pending replay alive.separate ?_ ?_
  · intro intent member
    exact (alive.life _).of_pending alive.separate member
  · intro other apart
    have idle : (replay.view other).waiting = none := find_none.mpr apart
    have life := alive.life other
    generalize replay.view other = view at life idle
    cases life with
    | unknown => exact .inl rfl
    | waiting waits =>
      rw [waits.pending] at idle
      cases idle
    | closed _ done => exact .inr ⟨_, past, fun _ member => member, done⟩

theorem Booked.endReplay (booked : Booked ctx cash replay) :
    Booked ctx cash (endReplay ordered replay) := by
  unfold DeterministicBacktest.endReplay
  split
  · exact booked
  · generalize replay.pending = todo
    induction todo generalizing replay with
    | nil => exact booked
    | cons _ _ ih => exact ih (booked.event _ _ _ (by simp))

structure Lifecycle (engine : DeterministicBacktest) (bars : List Bar) (final : Replay)
    (order : ReplayOrder) : Prop where
  events : ∃ partials, (final.view order.orderId).states =
    .intent :: .submitted :: (replicate partials .partiallyFilled ++ [order.state])
  terminal : order.state = .filled ∨ order.state = .cancelled ∨ order.state = .rejected
  tallied : order.filledQuantity = prec28.sum ((final.view order.orderId).fills.map Fill.quantity)
  once : Immediate order.intent → (final.view order.orderId).fills.length ≤ 1 ∧
    ∀ fill ∈ (final.view order.orderId).fills, ∀ bar ∈ bars,
      engine.dueTime order.intent ≤ bar.timestamp → fill.timestamp ≤ bar.timestamp
  unnormalized : order.normalizedIntent = none →
    (final.view order.orderId).fills = [] ∧ order.state ≠ .filled
  complete : ∀ first ∈ order.normalizedIntent, ∀ count,
    WholeLots prec28 engine.spec.lotSize first.quantity count →
      order.filledQuantity = filledTotal (final.view order.orderId).fills ∧
        (order.state = .filled ↔ filledTotal (final.view order.orderId).fills = first.quantity) ∧
        (order.intent.timeInForce = .fok → (final.view order.orderId).fills = [] ∨
          filledTotal (final.view order.orderId).fills = first.quantity)

/-- A completed replay ends with its books in order and every order in a stage,
then closes what still waits. -/
theorem completed_run (completed : engine.run bars signal target strategyId = .ok final) :
    ∃ left, final = endReplay (sortBars bars) left ∧ Alive prec28 engine (sortBars bars) left ∧
      Booked prec28 engine.startingCash left := by
  obtain ⟨ordered, -, left, replayed, rfl⟩ := runIn_ok completed
  have start : Alive prec28 engine [] (.start engine.startingCash) ∧
      Booked prec28 engine.startingCash (.start engine.startingCash) :=
    ⟨⟨fun _ => .unknown, nodup_nil⟩, ⟨rfl, rfl, nodup_nil⟩⟩
  refine ⟨left, rfl, replayBars_rule (fun past replay => Alive prec28 engine past replay ∧
    Booked prec28 engine.startingCash replay) ?_ ordered start replayed⟩
  intro past bar replay traded observed later held trading observing
  obtain ⟨_, _, -, -, rfl⟩ := observe_ok observing
  have alive := held.1.trade prec28_keepsDigits later trading
  exact ⟨⟨alive.life, alive.separate⟩, (held.2.trade trading).of_same rfl rfl rfl⟩

theorem orders_book (engine : DeterministicBacktest) (bars : List Bar) (signal : Option Signal)
    (target : Option Target) (strategyId : String) (final : Replay)
    (completed : engine.run bars signal target strategyId = .ok final) :
    Booked prec28 engine.startingCash final := by
  obtain ⟨_, rfl, -, booked⟩ := completed_run completed
  exact booked.endReplay

/-- Every order of every completed replay goes through its life in order, and
the ledger is what the reported fills make, so no rejection or cancellation moves
cash or position. -/
theorem orders_live_once (engine : DeterministicBacktest) (bars : List Bar) (signal : Option Signal)
    (target : Option Target) (strategyId : String) (final : Replay)
    (completed : engine.run bars signal target strategyId = .ok final) :
    (∀ order ∈ final.orders, Lifecycle engine bars final order) ∧
      final.ledger = LedgerState.replay prec28 engine.startingCash final.ledger.fills ∧
      fillEvents final.events = final.ledger.fills.map fun fill => (fill.orderId, fill.timestamp) := by
  have closed := orders_book engine bars signal target strategyId final completed
  obtain ⟨_, lastBar⟩ := isSome_iff_exists.mp
    (getLast?_isSome.mpr (runIn_ok completed).2.1)
  obtain ⟨left, rfl, alive, -⟩ := completed_run completed
  refine ⟨?_, closed.posted, closed.reported⟩
  intro order member
  have registered : ((endReplay (sortBars bars) left).view order.orderId).order = some order :=
    find_of_mem closed.distinct member
  rcases endReplay_life alive lastBar order.orderId with absent | ⟨other, _, within, done⟩
  · rw [registered] at absent
    cases absent
  · have same : other = order := some.inj (done.registered.symm.trans registered)
    subst same
    refine ⟨done.states, done.terminal, done.tallied, ?_, done.unnormalized, done.complete⟩
    intro immediate
    refine ⟨(done.once immediate).1, ?_⟩
    intro fill filled bar passed
    exact (done.once immediate).2 fill filled bar (within bar (mem_sortBars.mpr passed))

/-- Buy a quantity at market at the first bar, and wait until it is filled. -/
def buyOnce (quantity : ℚ) : Signal := fun _ instant =>
  .ok (if instant = 1 then some ⟨"buy", "strategy", "venue", "BASE-QUOTE", .buy, quantity, .market, none,
    1, 1, 1, 1, false, false, .gtc⟩ else none)

def wealthyEngine : DeterministicBacktest :=
  { unitEngine with startingCash := 10 ^ 30, cash_pos := by norm_num }

def unitBar (timestamp : Time) (volume : ℚ) (nonneg : 0 ≤ volume) : Bar :=
  ⟨timestamp, 1, 1, 1, 1, volume, timestamp, .f0Bar, false, none, unit_pos, nonneg, by simp, by simp,
    unquoted _ _⟩

def growingBars : List Bar :=
  [unitBar 1 5 five_nonneg, unitBar 2 (2 * 10 ^ 28) (by norm_num)]

/-- Seven units are filled over two bars. -/
theorem small_order_lives_once :
    ∃ final, wealthyEngine.run growingBars (some (buyOnce 7)) none "strategy" = .ok final ∧
      final.orders.map (fun order => (order.state, order.filledQuantity)) = [(.filled, 7)] ∧
      ∀ order ∈ final.orders, Lifecycle wealthyEngine growingBars final order := by
  have completed : ∃ final, wealthyEngine.run growingBars (some (buyOnce 7)) none "strategy" = .ok final ∧
      final.orders.map (fun order => (order.state, order.filledQuantity)) = [(.filled, 7)] := by
    refine ⟨reached (wealthyEngine.run growingBars (some (buyOnce 7)) none "strategy"), ?_⟩
    decide +kernel
  obtain ⟨final, ran, filled⟩ := completed
  exact ⟨final, ran, filled, (orders_live_once wealthyEngine growingBars _ _ _ final ran).1⟩

/-- Of 2E28 units five are filled first; the rest has 29 digits and is rounded
back to 2E28, so the order ends filled with five units more than it asked for,
and its filled quantity is not the sum of its fills. -/
theorem rounded_remainder_overfills :
    ∃ final, wealthyEngine.run growingBars (some (buyOnce (2 * 10 ^ 28))) none "strategy" = .ok final ∧
      ∃ order ∈ final.orders, order.state = .filled ∧
        order.filledQuantity = 2 * 10 ^ 28 ∧
        order.normalizedIntent.map OrderIntent.quantity = some (2 * 10 ^ 28) ∧
        filledTotal (final.view order.orderId).fills = 2 * 10 ^ 28 + 5 := by
  refine ⟨reached (wealthyEngine.run growingBars (some (buyOnce (2 * 10 ^ 28))) none "strategy"), ?_⟩
  decide +kernel

end DeterministicBacktest

end Liki.Finance
