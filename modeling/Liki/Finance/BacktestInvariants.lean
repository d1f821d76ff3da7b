import Liki.Finance.Backtest
import Liki.Finance.Reconciliation

/-! What holds of every replay in exact arithmetic, completed or aborted: no fill
overdraws cash or inventory, the fills of one bar fit the liquidity it offers,
and the fills of one order never exceed the quantity it was normalized to. Each
is an invariant of one pass of the inner loop; liquidity is metered by what the
loop still has left, and an order by what its pending intent rounds down to. -/
namespace Liki.Finance
open DecimalArithmetic Checks KeyedRows List DecimalContext LedgerState Replay

def filledWhere (selects : Fill → Bool) (fills : List Fill) : ℚ :=
  ((fills.filter selects).map Fill.quantity).sum

def filledFor (orderId : String) (fills : List Fill) : ℚ :=
  filledWhere (fun fill => fill.orderId = orderId) fills

def filledAt (timestamp : Time) (fills : List Fill) : ℚ :=
  filledWhere (fun fill => fill.timestamp = timestamp) fills

theorem filledWhere_append (selects : Fill → Bool) (fills : List Fill) (fill : Fill) :
    filledWhere selects (fills ++ [fill]) =
      filledWhere selects fills + if selects fill then fill.quantity else 0 := by
  cases chosen : selects fill <;> simp [filledWhere, filter_append, chosen]

theorem filledFor_append (orderId : String) (fills : List Fill) (fill : Fill) :
    filledFor orderId (fills ++ [fill]) =
      filledFor orderId fills + if fill.orderId = orderId then fill.quantity else 0 := by
  simpa [filledFor] using filledWhere_append (fun fill => fill.orderId = orderId) fills fill

theorem filledAt_append (timestamp : Time) (fills : List Fill) (fill : Fill) :
    filledAt timestamp (fills ++ [fill]) =
      filledAt timestamp fills + if fill.timestamp = timestamp then fill.quantity else 0 := by
  simpa [filledAt] using filledWhere_append (fun fill => fill.timestamp = timestamp) fills fill

variable {fills : List Fill}

theorem filledAt_of_absent (absent : ∀ fill ∈ fills, fill.timestamp ≠ timestamp) :
    filledAt timestamp fills = 0 := by
  have none : fills.filter (fun fill => fill.timestamp = timestamp) = [] := by
    apply filter_eq_nil_iff.mpr
    intro fill member
    simpa using absent fill member
  simp [filledAt, filledWhere, none]

theorem filledFor_of_absent (absent : ∀ fill ∈ fills, fill.orderId ≠ orderId) :
    filledFor orderId fills = 0 := by
  have none : fills.filter (fun fill => fill.orderId = orderId) = [] := by
    apply filter_eq_nil_iff.mpr
    intro fill member
    simpa using absent fill member
  simp [filledFor, filledWhere, none]

structure Solvent (cash : ℚ) (ledger : LedgerState) : Prop where
  replayed : ledger = replay .exact cash ledger.fills
  funded : ∀ earlier, earlier <+: ledger.fills →
    0 ≤ (replay .exact cash earlier).cash ∧
      0 ≤ (replay .exact cash earlier).position

variable {cash : ℚ}

variable {ledger : LedgerState}

theorem Solvent.now (solvent : Solvent cash ledger) : 0 ≤ ledger.cash ∧ 0 ≤ ledger.position := by
  have last := solvent.funded ledger.fills (prefix_refl _)
  rwa [← solvent.replayed] at last

theorem solvent_flat (nonneg : 0 ≤ cash) : Solvent cash (.flat cash) where
  replayed := rfl
  funded := by
    intro earlier shorter
    have empty : earlier = [] := prefix_nil.mp shorter
    subst empty
    exact ⟨nonneg, le_rfl⟩

theorem Solvent.post (solvent : Solvent cash ledger) (ok : ledger.apply .exact fill = .ok posted)
    (funded : 0 ≤ posted.cash ∧ 0 ≤ posted.position) : Solvent cash posted := by
  have fills := fills_of_apply ok
  have replayed : posted = replay .exact cash posted.fills := by
    rw [fills, replay_append, ← solvent.replayed, offer, ok]
  refine ⟨replayed, ?_⟩
  intro earlier shorter
  rw [fills] at shorter
  rcases prefix_concat_iff.mp shorter with whole | older
  · rw [whole, ← fills, ← replayed]
    exact funded
  · exact solvent.funded earlier older

namespace DeterministicBacktest

variable {engine : DeterministicBacktest} {bar : Bar} {snapshot : MarketSnapshot} {quantity : ℚ}
  {intent : OrderIntent} {ledger : LedgerState} {simulated : SimulatedFill}

/-- The quantity an order is still good for: whole lots only. -/
def lots (engine : DeterministicBacktest) (quantity : ℚ) : ℚ :=
  floorToIncrement .exact quantity engine.spec.lotSize

theorem lots_le (nonneg : 0 ≤ quantity) : engine.lots quantity ≤ quantity :=
  floorToIncrement_le nonneg engine.spec.increments_pos.2.1

theorem normalize_ok (ok : engine.normalize .exact bar snapshot intent = .ok normalized) :
    normalized.clientOrderId = intent.clientOrderId ∧
      normalized.quantity = engine.lots intent.quantity := by
  simp only [normalize, bind_ok, guard_ok, pure_ok] at ok
  obtain ⟨_, -, -, -, -, -, -, _, roundedOk, rfl⟩ := ok
  exact ⟨rfl, (roundedOrder_ok roundedOk).1⟩

/-- An allowed quantity is positive, and within the intent and the liquidity left. -/
theorem allow_ok (nonneg : 0 ≤ remaining)
    (ok : engine.allow .exact bar snapshot ledger remaining intent = .ok (some (simulated, quantity))) :
    0 < quantity ∧ quantity ≤ intent.quantity ∧ quantity ≤ remaining := by
  simp only [allow, bind_ok] at ok
  obtain ⟨-, -, outcome, simulatedOk, ok⟩ := ok
  cases outcome with
  | none => simp [pure_ok] at ok
  | some fill =>
    simp only [bind_ok, guard_ok] at ok
    obtain ⟨-, -, -, -, ok⟩ := ok
    split at ok
    · simp [pure_ok] at ok
    split at ok
    · simp [pure_ok] at ok
    rename_i enough
    simp only [pure_ok, Option.some.injEq, Prod.mk.injEq] at ok
    obtain ⟨rfl, rfl⟩ := ok
    obtain ⟨positive, ordered⟩ := FillModel.simulate_quantity simulatedOk
    have lots : engine.lots _ ≤ _ := lots_le (le_min positive.le nonneg)
    have least : 0 < engine.spec.minQuantity := engine.spec.increments_pos.2.2.1
    have above := not_lt.mp (not_or.mp enough).1
    exact ⟨least.trans_le above, lots.trans ((min_le_left _ _).trans ordered),
      lots.trans (min_le_right _ _)⟩

theorem execute_ok (held : 0 ≤ ledger.position)
    (ok : engine.execute .exact index bar snapshot ledger intent simulated quantity = .ok execution) :
    execution.fill.orderId = intent.clientOrderId ∧ execution.fill.timestamp = bar.timestamp ∧
      execution.fill.quantity = quantity ∧
      ledger.apply .exact execution.fill = .ok execution.ledger ∧
      0 ≤ execution.ledger.cash ∧ 0 ≤ execution.ledger.position := by
  simp only [execute, bind_ok, guard_ok, pure_ok] at ok
  obtain ⟨_, -, _, -, -, funded, inventory, _, built, _, ok, rfl⟩ := ok
  obtain ⟨_, -, order, timestamp, side, filled, price, charge, costs⟩ := Fill.build_ok built
  have trade := ledger_trades ok
  have cash := trade.cash
  have position := trade.position
  simp only [side, filled, price, charge, costs, account, additiveAmounts,
    isAdditive, CostComponent.additive, decide_true, filter_cons_of_pos,
    filter_nil, map_cons, map_nil, sum_cons, sum_nil, add_zero,
    exact_mul, exact_div] at cash position
  simp only [exact_mul, exact_sub, exact_div] at funded
  have balance := not_lt.mp funded
  refine ⟨order, timestamp, filled, ok, ?_, ?_⟩
  · rw [cash]
    linarith
  · rw [position]
    cases bought : intent.side with
    | buy =>
      rw [Side.sign_buy]
      linarith
    | sell =>
      have enough : quantity ≤ ledger.position := by
        by_contra short
        exact inventory ⟨bought, not_le.mp short⟩
      rw [Side.sign_sell]
      linarith

end DeterministicBacktest

def Replay.book (replay : Replay) : List (String × Option OrderIntent) :=
  replay.orders.map fun order => (order.orderId, order.normalizedIntent)

namespace Replay

variable (replay : Replay) (orderId : String) (intent : OrderIntent)

@[simp] theorem event_ledger (timestamp : Time) (state : OrderState) (reason : EventReason) :
    (replay.event orderId timestamp state reason).ledger = replay.ledger := rfl

@[simp] theorem event_pending (timestamp : Time) (state : OrderState) (reason : EventReason) :
    (replay.event orderId timestamp state reason).pending = replay.pending := rfl

@[simp] theorem event_book (timestamp : Time) (state : OrderState) (reason : EventReason) :
    (replay.event orderId timestamp state reason).book = replay.book :=
  map_update _ fun _ _ => rfl

@[simp] theorem drop_ledger : (replay.drop orderId).ledger = replay.ledger := rfl
@[simp] theorem drop_book : (replay.drop orderId).book = replay.book := rfl
@[simp] theorem keep_ledger : (replay.keep intent).ledger = replay.ledger := rfl
@[simp] theorem keep_book : (replay.keep intent).book = replay.book := rfl
@[simp] theorem note_ledger : (replay.noteNormalized intent).ledger = replay.ledger := rfl
@[simp] theorem note_pending : (replay.noteNormalized intent).pending = replay.pending := rfl

theorem mem_drop :
    other ∈ (replay.drop orderId).pending ↔
      other ∈ replay.pending ∧ other.clientOrderId ≠ orderId := by
  simp [drop]

theorem mem_note (member : entry ∈ (replay.noteNormalized intent).book) :
    (entry ∈ replay.book ∧ entry.1 ≠ intent.clientOrderId) ∨
      ∃ old ∈ replay.book, old.1 = intent.clientOrderId ∧
        entry = (old.1, old.2.or (some intent)) := by
  obtain ⟨_, held, rfl⟩ := mem_map.mp member
  rcases mem_update held with ⟨_, oldHeld, same, rfl⟩ | ⟨kept, differ⟩
  · exact .inr ⟨_, mem_map_of_mem oldHeld, same, rfl⟩
  · exact .inl ⟨mem_map_of_mem kept, differ⟩

theorem note_names (named : ∃ entry ∈ replay.book, entry.1 = name) :
    ∃ entry ∈ (replay.noteNormalized intent).book, entry.1 = name := by
  obtain ⟨entry, member, rfl⟩ := named
  have names : (replay.noteNormalized intent).book.map Prod.fst = replay.book.map Prod.fst := by
    rw [book, book, map_map, map_map]
    exact map_update _ fun _ _ => rfl
  have present : entry.1 ∈ (replay.noteNormalized intent).book.map Prod.fst := by
    rw [names]
    exact mem_map_of_mem member
  simpa using mem_map.mp present

end Replay

def allowance (normalized : Option OrderIntent) : ℚ := (normalized.map OrderIntent.quantity).getD 0

namespace DeterministicBacktest

variable (engine : DeterministicBacktest)

/-- A pending intent has an order, and rounds down to at most what that order
still lacks. -/
structure Waits (replay : Replay) (intent : OrderIntent) : Prop where
  positive : 0 < intent.quantity
  registered : ∃ entry ∈ replay.book, entry.1 = intent.clientOrderId
  within : ∀ entry ∈ replay.book, entry.1 = intent.clientOrderId → ∀ normalized ∈ entry.2,
    filledFor intent.clientOrderId replay.ledger.fills + engine.lots intent.quantity ≤
      normalized.quantity

/-- The invariant of a replay between any two steps. -/
structure Sound (replay : Replay) : Prop where
  solvent : Solvent engine.startingCash replay.ledger
  registered : ∀ fill ∈ replay.ledger.fills, ∃ entry ∈ replay.book, entry.1 = fill.orderId
  bounded : ∀ entry ∈ replay.book, filledFor entry.1 replay.ledger.fills ≤ allowance entry.2
  waiting : ∀ intent ∈ replay.pending, engine.Waits replay intent
  separate : KeyedRows.Distinct OrderIntent.clientOrderId replay.pending

variable {engine} {bar : Bar} {snapshot : MarketSnapshot}

/-- A step that posts nothing and at most stops waiting for one order. -/
structure Retires (orderId : String) (before after : Replay) : Prop where
  ledger : after.ledger = before.ledger
  book : after.book = before.book
  pending : after.pending.Sublist before.pending
  others : ∀ other ∈ before.pending, other.clientOrderId ≠ orderId → other ∈ after.pending

variable {orderId : String} {intent : OrderIntent} {after : Replay} {execution : Execution}

theorem Sound.retires (sound : engine.Sound before) (retires : Retires orderId before after) :
    engine.Sound after where
  solvent := by
    rw [retires.ledger]
    exact sound.solvent
  registered := by
    rw [retires.ledger, retires.book]
    exact sound.registered
  bounded := by
    rw [retires.ledger, retires.book]
    exact sound.bounded
  waiting := by
    intro intent member
    have waits := sound.waiting intent (retires.pending.subset member)
    constructor
    · exact waits.positive
    · rw [retires.book]
      exact waits.registered
    · rw [retires.ledger, retires.book]
      exact waits.within
  separate := sound.separate.sublist (retires.pending.map _)

theorem retires_close (replay : Replay) (orderId : String) (timestamp : Time) (state : OrderState)
    (reason : EventReason) :
    Retires orderId replay ((replay.event orderId timestamp state reason).drop orderId) where
  ledger := rfl
  book := by simp
  pending := filter_sublist
  others := by
    intro other member differ
    exact (mem_drop _ _).mpr ⟨member, differ⟩

theorem retires_refl (replay : Replay) (orderId : String) : Retires orderId replay replay :=
  ⟨rfl, rfl, List.Sublist.refl _, fun _ member _ => member⟩

theorem cancelImmediate_retires (bar : Bar) (replay : Replay) (intent : OrderIntent) :
    Retires intent.clientOrderId replay (cancelImmediate bar replay intent) := by
  unfold cancelImmediate
  split
  · exact retires_close replay _ _ _ _
  · exact retires_refl replay _

theorem refuse_cases (bar : Bar) (replay : Replay) (orderId : String) (remaining : ℚ)
    (error : FinanceError) :
    refuse bar replay orderId remaining error = .error (error, replay) ∨
      ∃ after, refuse bar replay orderId remaining error = .ok (after, remaining) ∧
        Retires orderId replay after := by
  unfold refuse
  split
  · exact .inl rfl
  · have closed := retires_close { replay with rejections := replay.rejections ++ [(orderId, error)] }
      orderId bar.timestamp .rejected (.refused error)
    exact .inr ⟨_, rfl, closed.ledger, closed.book, closed.pending, closed.others⟩

/-- Normalizing a waiting intent for the first time fixes its allowance, and
later it rounds down to what is left of it. -/
theorem Sound.note {replay : Replay} (sound : engine.Sound replay)
    (pending : intent ∈ replay.pending) (same : normalized.clientOrderId = intent.clientOrderId)
    (rounded : normalized.quantity = engine.lots intent.quantity) :
    engine.Sound (replay.noteNormalized normalized) ∧
      ∀ entry ∈ (replay.noteNormalized normalized).book, entry.1 = intent.clientOrderId →
        filledFor intent.clientOrderId replay.ledger.fills + normalized.quantity ≤
          allowance entry.2 := by
  have waits := sound.waiting intent pending
  have ready : ∀ entry ∈ replay.book, entry.1 = intent.clientOrderId →
      filledFor intent.clientOrderId replay.ledger.fills + normalized.quantity ≤
        allowance (entry.2.or (some normalized)) := by
    intro entry member named
    cases kept : entry.2 with
    | none =>
      have nothing := sound.bounded entry member
      simp only [named, kept, allowance, Option.map_none, Option.getD_none] at nothing
      simpa [allowance] using nothing
    | some first =>
      have within := waits.within entry member named first kept
      simpa [allowance, rounded] using within
  have noted : ∀ entry ∈ (replay.noteNormalized normalized).book,
      entry.1 = intent.clientOrderId →
        filledFor intent.clientOrderId replay.ledger.fills + normalized.quantity ≤
          allowance entry.2 := by
    intro entry member named
    rcases replay.mem_note normalized member with ⟨-, differ⟩ | ⟨old, held, oldNamed, rfl⟩
    · exact absurd (named.trans same.symm) differ
    · exact ready old held (oldNamed.trans same)
  refine ⟨⟨sound.solvent, ?_, ?_, ?_, sound.separate⟩, noted⟩
  · intro fill member
    exact replay.note_names normalized (sound.registered fill member)
  · intro entry member
    rcases replay.mem_note normalized member with ⟨held, -⟩ | ⟨old, held, oldNamed, rfl⟩
    · exact sound.bounded entry held
    · have bound := sound.bounded old held
      cases kept : old.2 with
      | none =>
        have room := ready old held (oldNamed.trans same)
        have positive : 0 ≤ normalized.quantity := by
          rw [rounded]
          exact floorToIncrement_nonneg waits.positive.le engine.spec.increments_pos.2.1
        simp only [kept, allowance, Option.map_none, Option.getD_none] at bound
        simpa [allowance] using bound.trans positive
      | some => simpa [kept, allowance] using bound
  · intro other member
    have otherWaits := sound.waiting other member
    refine ⟨otherWaits.positive, replay.note_names normalized otherWaits.registered, ?_⟩
    intro entry held named first chosen
    rcases replay.mem_note normalized held with ⟨held, -⟩ | ⟨old, oldHeld, oldNamed, rfl⟩
    · exact otherWaits.within entry held named first chosen
    · -- Ids of pending intents are distinct, so this is the intent being normalized.
      have one : other = intent := by
        have twice := find_of_mem sound.separate member
        have once := find_of_mem sound.separate pending
        rw [show other.clientOrderId = intent.clientOrderId from
          named.symm.trans (oldNamed.trans same), once] at twice
        exact (Option.some.inj twice).symm
      subst one
      have room := ready old oldHeld named
      simp only [Option.mem_def] at chosen
      simpa [allowance, chosen, rounded] using room

@[simp] theorem charge_book (ctx : DecimalContext) (replay : Replay) (orderId : String)
    (execution : Execution) :
    (charge ctx replay orderId execution).book = replay.book :=
  map_update _ fun _ _ => rfl

theorem settle_ledger (ctx : DecimalContext) (bar : Bar) (replay : Replay) (intent : OrderIntent)
    (execution : Execution) :
    (settle ctx bar replay intent execution).ledger = execution.ledger := by
  by_cases complete : execution.fill.quantity = intent.quantity
  · simp [settle, complete, charge]
  · simp [settle, complete, charge]

theorem settle_book (ctx : DecimalContext) (bar : Bar) (replay : Replay) (intent : OrderIntent)
    (execution : Execution) :
    (settle ctx bar replay intent execution).book = replay.book := by
  by_cases complete : execution.fill.quantity = intent.quantity
  · simp [settle, complete]
  · simp [settle, complete]

theorem settle_others {replay : Replay} (member : other ∈ replay.pending)
    (differ : other.clientOrderId ≠ intent.clientOrderId) :
    other ∈ (settle ctx bar replay intent execution).pending := by
  by_cases complete : execution.fill.quantity = intent.quantity
  · simp only [settle, complete, ↓reduceIte]
    exact (mem_drop _ _).mpr ⟨member, differ⟩
  · simp only [settle, complete, ↓reduceIte, keep]
    exact mem_update_of_mem member differ

theorem Sound.settled {replay : Replay} (bar : Bar) (sound : engine.Sound replay)
    (named : ∃ entry ∈ replay.book, entry.1 = intent.clientOrderId)
    (ready : ∀ entry ∈ replay.book, entry.1 = intent.clientOrderId →
      filledFor intent.clientOrderId replay.ledger.fills + intent.quantity ≤ allowance entry.2)
    (order : execution.fill.orderId = intent.clientOrderId)
    (within : execution.fill.quantity ≤ intent.quantity)
    (posted : replay.ledger.apply .exact execution.fill = .ok execution.ledger)
    (funded : 0 ≤ execution.ledger.cash ∧ 0 ≤ execution.ledger.position) :
    engine.Sound (settle .exact bar replay intent execution) := by
  have fills := fills_of_apply posted
  have ledger := settle_ledger .exact bar replay intent execution
  have book := settle_book .exact bar replay intent execution
  have others : ∀ other ∈ replay.pending, other.clientOrderId ≠ intent.clientOrderId →
      filledFor other.clientOrderId execution.ledger.fills =
        filledFor other.clientOrderId replay.ledger.fills := by
    intro other _ differ
    rw [fills, filledFor_append, order, if_neg (Ne.symm differ), add_zero]
  have own : filledFor intent.clientOrderId execution.ledger.fills =
      filledFor intent.clientOrderId replay.ledger.fills + execution.fill.quantity := by
    rw [fills, filledFor_append, if_pos order]
  have keepsWaiting : ∀ other ∈ replay.pending, other.clientOrderId ≠ intent.clientOrderId →
      engine.Waits (settle .exact bar replay intent execution) other := by
    intro other member differ
    have waits := sound.waiting other member
    refine ⟨waits.positive, ?_, ?_⟩
    · rw [book]
      exact waits.registered
    · rw [book, ledger, others other member differ]
      exact waits.within
  constructor
  · rw [ledger]
    exact sound.solvent.post posted funded
  · intro fill member
    rw [ledger, fills] at member
    rw [book]
    rcases mem_added member with older | newest
    · exact sound.registered fill older
    · rw [newest, order]
      exact named
  · intro entry member
    rw [book] at member
    rw [ledger, fills, filledFor_append, order]
    by_cases same : entry.1 = intent.clientOrderId
    · have room := ready entry member same
      rw [if_pos same.symm, same]
      linarith
    · rw [if_neg (Ne.symm same), add_zero]
      exact sound.bounded entry member
  · intro other member
    by_cases complete : execution.fill.quantity = intent.quantity
    · simp only [settle, complete, ↓reduceIte] at member
      obtain ⟨held, differ⟩ := (mem_drop _ _).mp member
      exact keepsWaiting other held differ
    · simp only [settle, complete, ↓reduceIte, keep] at member
      rcases mem_update member with ⟨-, -, -, rfl⟩ | ⟨held, differ⟩
      · have partly : execution.fill.quantity < intent.quantity := lt_of_le_of_ne within complete
        refine ⟨by simpa using partly, ?_, ?_⟩
        · rw [book]
          exact named
        · intro entry held same normalized chosen
          rw [book] at held
          have room := ready entry held same
          have rest : engine.lots (intent.quantity - execution.fill.quantity) ≤
              intent.quantity - execution.fill.quantity := lots_le (sub_pos.mpr partly).le
          simp only [Option.mem_def] at chosen
          simp only [allowance, chosen, Option.map_some, Option.getD_some] at room
          simp only [ledger, own, exact_sub]
          linarith
      · exact keepsWaiting other held differ
  · by_cases complete : execution.fill.quantity = intent.quantity
    · simp only [settle, complete, ↓reduceIte]
      exact sound.separate.sublist (filter_sublist.map _)
    · simp only [settle, complete, ↓reduceIte, keep]
      exact distinct_update (fun _ _ => rfl) sound.separate

def Ends {Result : Type} (good : Result → Prop) (aborted : Replay → Prop) : Replaying Result → Prop
  | .ok result => good result
  | .error (_, left) => aborted left

/-- The liquidity a bar offers to all orders together. -/
def offered (engine : DeterministicBacktest) (snapshot : MarketSnapshot) : ℚ :=
  snapshot.availableQuantity * engine.fillModel.participationLimit

theorem offered_nonneg (snapshot : MarketSnapshot) : 0 ≤ engine.offered snapshot :=
  mul_nonneg snapshot.available_nonneg engine.fillModel.participation_pos.le

variable (engine) in
structure Within (past : List Bar) (replay : Replay) : Prop where
  sound : engine.Sound replay
  dated : ∀ fill ∈ replay.ledger.fills, ∃ earlier ∈ past, earlier.timestamp = fill.timestamp
  within : ∀ earlier ∈ past, ∀ snapshot, earlier.snapshot = .ok snapshot →
    filledAt earlier.timestamp replay.ledger.fills ≤ engine.offered snapshot

variable (engine) in
structure Metered (past : List Bar) (bar : Bar) (snapshot : MarketSnapshot)
    (state : Replay × ℚ) : Prop where
  sound : engine.Sound state.1
  left : 0 ≤ state.2
  spent : filledAt bar.timestamp state.1.ledger.fills + state.2 ≤ engine.offered snapshot
  dated : ∀ fill ∈ state.1.ledger.fills, ∃ earlier ∈ past ++ [bar],
    earlier.timestamp = fill.timestamp
  within : ∀ earlier ∈ past, ∀ snapshot, earlier.snapshot = .ok snapshot →
    filledAt earlier.timestamp state.1.ledger.fills ≤ engine.offered snapshot

variable {past : List Bar}

variable {state : Replay × ℚ}

theorem Metered.retires (metered : engine.Metered past bar snapshot state)
    (retires : Retires orderId state.1 after) :
    engine.Metered past bar snapshot (after, state.2) where
  sound := metered.sound.retires retires
  left := metered.left
  spent := by
    rw [retires.ledger]
    exact metered.spent
  dated := by
    rw [retires.ledger]
    exact metered.dated
  within := by
    rw [retires.ledger]
    exact metered.within

theorem Metered.refuse {replay : Replay} (orderId : String) (error : FinanceError)
    (metered : engine.Metered past bar snapshot (replay, remaining)) :
    Ends (fun after => engine.Metered past bar snapshot after ∧
        ∀ other ∈ replay.pending, other.clientOrderId ≠ orderId → other ∈ after.1.pending)
      (fun left => ∃ rest, engine.Metered past bar snapshot (left, rest))
      (DeterministicBacktest.refuse bar replay orderId remaining error) := by
  rcases refuse_cases bar replay orderId remaining error with same | ⟨_, same, retires⟩
  · rw [same]
    exact ⟨remaining, metered⟩
  · rw [same]
    exact ⟨metered.retires retires, retires.others⟩

/-- One pass of the inner loop keeps the meter, and keeps every other order
pending as it was. -/
theorem processOrder_metered (index : ℕ)
    (fresh : ∀ earlier ∈ past, earlier.timestamp ≠ bar.timestamp)
    (metered : engine.Metered past bar snapshot state) (pending : intent ∈ state.1.pending) :
    Ends (fun after => engine.Metered past bar snapshot after ∧
        ∀ other ∈ state.1.pending, other.clientOrderId ≠ intent.clientOrderId →
          other ∈ after.1.pending)
      (fun left => ∃ rest, engine.Metered past bar snapshot (left, rest))
      (engine.processOrder .exact index bar snapshot state intent) := by
  obtain ⟨replay, remaining⟩ := state
  unfold processOrder
  by_cases early : snapshot.timestamp < intent.submissionTime + engine.fillModel.latency
  · simp only [early, ↓reduceIte]
    exact ⟨metered, fun other member _ => member⟩
  simp only [early, ↓reduceIte]
  cases normalizing : engine.normalize .exact bar snapshot intent with
  | error error => exact metered.refuse intent.clientOrderId error
  | ok normalized =>
    obtain ⟨same, rounded⟩ := normalize_ok normalizing
    obtain ⟨soundNoted, ready⟩ := metered.sound.note pending same rounded
    have noted : engine.Metered past bar snapshot (replay.noteNormalized normalized, remaining) :=
      ⟨soundNoted, metered.left, metered.spent, metered.dated, metered.within⟩
    simp only [note_ledger]
    cases allowing : engine.allow .exact bar snapshot replay.ledger remaining normalized with
    | error error => exact noted.refuse intent.clientOrderId error
    | ok allowed =>
      cases allowed with
      | none =>
        have retires := cancelImmediate_retires bar (replay.noteNormalized normalized) normalized
        rw [same] at retires
        exact ⟨noted.retires retires, retires.others⟩
      | some fill =>
        obtain ⟨simulated, quantity⟩ := fill
        obtain ⟨_, ordered, affordable⟩ := allow_ok metered.left allowing
        dsimp only
        cases executing : engine.execute .exact index bar snapshot replay.ledger normalized simulated
            quantity with
        | error error => exact noted.refuse intent.clientOrderId error
        | ok execution =>
          obtain ⟨order, timestamp, filled, posted, funded⟩ :=
            execute_ok metered.sound.solvent.now.2 executing
          have named : ∃ entry ∈ (replay.noteNormalized normalized).book,
              entry.1 = normalized.clientOrderId :=
            replay.note_names normalized (same ▸ (metered.sound.waiting intent pending).registered)
          have soundSettled := soundNoted.settled bar named (same ▸ ready) order
            (filled ▸ ordered) posted funded
          have settled : engine.Metered past bar snapshot
              (settle .exact bar (replay.noteNormalized normalized) normalized execution,
                remaining - quantity) := by
            have fills := fills_of_apply posted
            refine ⟨soundSettled, sub_nonneg.mpr affordable, ?_, ?_, ?_⟩
            · simp only [settle_ledger, fills, filledAt_append, timestamp, ↓reduceIte, filled]
              have spent := metered.spent
              dsimp only at spent
              linarith
            · intro fill member
              rw [settle_ledger, fills] at member
              rcases mem_added member with older | newest
              · exact metered.dated fill older
              · refine ⟨bar, by simp, ?_⟩
                rw [newest, timestamp]
            · intro earlier passed snapshot observed
              have apart : execution.fill.timestamp ≠ earlier.timestamp := by
                rw [timestamp]
                exact (fresh earlier passed).symm
              simp only [settle_ledger, fills, filledAt_append, apart, ↓reduceIte, add_zero]
              exact metered.within earlier passed snapshot observed
          have retires := cancelImmediate_retires bar
            (settle .exact bar (replay.noteNormalized normalized) normalized execution) normalized
          rw [same] at retires
          refine ⟨settled.retires retires, ?_⟩
          intro other member differ
          exact retires.others other (settle_others member (same ▸ differ)) differ

/-- The inner loop keeps the meter, over any orders that are pending when it
starts. -/
theorem processOrders_metered (index : ℕ) (todo : List OrderIntent)
    (fresh : ∀ earlier ∈ past, earlier.timestamp ≠ bar.timestamp)
    (metered : engine.Metered past bar snapshot state)
    (pending : ∀ intent ∈ todo, intent ∈ state.1.pending)
    (separate : KeyedRows.Distinct OrderIntent.clientOrderId todo) :
    Ends (engine.Metered past bar snapshot)
      (fun left => ∃ rest, engine.Metered past bar snapshot (left, rest))
      (todo.foldlM (engine.processOrder .exact index bar snapshot) state) := by
  induction todo generalizing state with
  | nil => exact metered
  | cons intent _ ih =>
    obtain ⟨alone, rest⟩ := nodup_cons.mp separate
    have step := processOrder_metered index fresh metered (pending intent (by simp))
    rw [foldlM_cons]
    cases processed : engine.processOrder .exact index bar snapshot state intent with
    | error =>
      rw [processed] at step
      exact step
    | ok =>
      rw [processed] at step
      obtain ⟨meteredAfter, others⟩ := step
      refine ih meteredAfter ?_ rest
      intro other member
      refine others other (pending other (by simp [member])) ?_
      intro same
      exact alone (same ▸ mem_map_of_mem member)

theorem Metered.passed (metered : engine.Metered past bar snapshot state)
    (observed : bar.snapshot = .ok snapshot) : engine.Within (past ++ [bar]) state.1 where
  sound := metered.sound
  dated := metered.dated
  within := by
    intro earlier member seen seenOk
    rcases mem_added member with passed | last
    · exact metered.within earlier passed seen seenOk
    · rw [last] at seenOk ⊢
      rw [observed] at seenOk
      cases seenOk
      have spent := metered.spent
      have left := metered.left
      linarith

theorem Within.nothing_yet {replay : Replay} (within : engine.Within past replay)
    (fresh : ∀ earlier ∈ past, earlier.timestamp ≠ bar.timestamp) :
    filledAt bar.timestamp replay.ledger.fills = 0 := by
  apply filledAt_of_absent
  intro fill member same
  obtain ⟨earlier, passed, dated⟩ := within.dated fill member
  exact fresh earlier passed (dated.trans same)

theorem Within.pass {replay : Replay} (within : engine.Within past replay)
    (fresh : ∀ earlier ∈ past, earlier.timestamp ≠ bar.timestamp) :
    engine.Within (past ++ [bar]) replay where
  sound := within.sound
  dated := by
    intro fill member
    obtain ⟨earlier, passed, dated⟩ := within.dated fill member
    exact ⟨earlier, by simp [passed], dated⟩
  within := by
    intro earlier member seen seenOk
    rcases mem_added member with passed | last
    · exact within.within earlier passed seen seenOk
    · rw [last, within.nothing_yet fresh]
      exact offered_nonneg seen

theorem Within.opens {replay opened : Replay} (within : engine.Within past replay)
    (fresh : ∀ entry ∈ replay.book, entry.1 ≠ orderId) (ledger : opened.ledger = replay.ledger)
    (book : opened.book = replay.book ++ [(orderId, none)])
    (pending : opened.pending = replay.pending) : engine.Within past opened := by
  have sound := within.sound
  refine ⟨⟨?_, ?_, ?_, ?_, ?_⟩, ?_, ?_⟩
  · rw [ledger]
    exact sound.solvent
  · rw [ledger, book]
    intro fill member
    obtain ⟨entry, held, named⟩ := sound.registered fill member
    exact ⟨entry, by simp [held], named⟩
  · rw [ledger, book]
    intro entry member
    rcases mem_added member with older | newest
    · exact sound.bounded entry older
    · rw [newest]
      refine le_of_eq (filledFor_of_absent ?_)
      intro fill filled same
      obtain ⟨entry, held, named⟩ := sound.registered fill filled
      exact fresh entry held (named.trans same)
  · rw [pending]
    intro intent member
    have waits := sound.waiting intent member
    constructor
    · exact waits.positive
    · rw [book]
      obtain ⟨entry, held, named⟩ := waits.registered
      exact ⟨entry, by simp [held], named⟩
    · rw [book, ledger]
      intro entry held named
      rcases mem_added held with older | newest
      · exact waits.within entry older named
      · rw [newest]
        simp
  · rw [pending]
    exact sound.separate
  · rw [ledger]
    exact within.dated
  · rw [ledger]
    exact within.within

theorem Within.awaits {replay waiting : Replay} (within : engine.Within past replay)
    (waits : engine.Waits replay intent)
    (fresh : ∀ other ∈ replay.pending, other.clientOrderId ≠ intent.clientOrderId)
    (ledger : waiting.ledger = replay.ledger) (book : waiting.book = replay.book)
    (pending : waiting.pending = replay.pending ++ [intent]) : engine.Within past waiting := by
  have sound := within.sound
  have keep : ∀ other, engine.Waits replay other → engine.Waits waiting other := by
    intro other waits
    constructor
    · exact waits.positive
    · rw [book]
      exact waits.registered
    · rw [book, ledger]
      exact waits.within
  refine ⟨⟨?_, ?_, ?_, ?_, ?_⟩, ?_, ?_⟩
  · rw [ledger]
    exact sound.solvent
  · rw [ledger, book]
    exact sound.registered
  · rw [ledger, book]
    exact sound.bounded
  · rw [pending]
    intro other member
    rcases mem_added member with older | newest
    · exact keep other (sound.waiting other older)
    · rw [newest]
      exact keep intent waits
  · rw [pending]
    exact distinct_insert sound.separate (find_none.mpr fresh)
  · rw [ledger]
    exact within.dated
  · rw [ledger]
    exact within.within

/-- A submission adds an order without fills, which waits unless its cutoff is
wrong. -/
theorem submit_within {replay : Replay} (history : List Bar) (bar : Bar) (proposed : OrderIntent)
    (within : engine.Within past replay) :
    Ends (engine.Within past) (engine.Within past) (submit history bar replay proposed) := by
  unfold submit
  cases validated : proposed.validate with
  | error => exact within
  | ok intent =>
    obtain ⟨rfl, positive⟩ := OrderIntent.validate_ok validated
    by_cases known : (replay.orders.any fun order => order.orderId = intent.clientOrderId) = true
    · simp only [known, ↓reduceIte]
      exact within
    have fresh : ∀ entry ∈ replay.book, entry.1 ≠ intent.clientOrderId := by
      intro entry member same
      obtain ⟨order, held, rfl⟩ := mem_map.mp member
      exact known (any_eq_true.mpr ⟨order, held, by simpa using same⟩)
    generalize openedDef : ({ replay with
      orders := replay.orders ++ [⟨intent, .intent, 0, none⟩] } : Replay).event
        intent.clientOrderId bar.timestamp .intent .none = noted
    have ledger : noted.ledger = replay.ledger := by rw [← openedDef, event_ledger]
    have pending : noted.pending = replay.pending := by rw [← openedDef, event_pending]
    have book : noted.book = replay.book ++ [(intent.clientOrderId, none)] := by
      rw [← openedDef, event_book]
      simp [book, ReplayOrder.orderId]
    have opened := within.opens fresh ledger book pending
    simp only [known, Bool.false_eq_true, ↓reduceIte, openedDef]
    split
    · exact opened
    · have waits : engine.Waits noted intent := by
        refine ⟨positive, ⟨(intent.clientOrderId, none), by simp [book], rfl⟩, ?_⟩
        rw [book]
        intro entry held named
        rcases mem_added held with older | newest
        · exact absurd named (fresh entry older)
        · rw [newest]
          simp
      refine opened.awaits waits ?_ rfl (event_book _ _ _ _ _) rfl
      intro other member
      rw [pending] at member
      obtain ⟨entry, held, named⟩ := (within.sound.waiting other member).registered
      exact named ▸ fresh entry held

theorem submitProposed_within {replay : Replay} (history : List Bar) (bar : Bar)
    (proposed : Option OrderIntent)
    (within : engine.Within past replay) :
    Ends (engine.Within past) (engine.Within past) (submitProposed history bar replay proposed) := by
  cases proposed with
  | none => exact within
  | some intent => exact submit_within history bar intent within

/-- The orders of a bar, from a state that has passed the bars before it. -/
theorem fillPending_within {replay : Replay} (index : ℕ)
    (fresh : ∀ earlier ∈ past, earlier.timestamp ≠ bar.timestamp)
    (within : engine.Within past replay) :
    Ends (engine.Within (past ++ [bar])) (engine.Within (past ++ [bar]))
      (engine.fillPending .exact index bar replay) := by
  unfold fillPending
  cases observed : bar.snapshot with
  | error => exact within.pass fresh
  | ok snapshot =>
    have metered : engine.Metered past bar snapshot (replay, engine.offered snapshot) := by
      refine ⟨within.sound, offered_nonneg snapshot, ?_, (within.pass fresh).dated, within.within⟩
      simp [within.nothing_yet fresh]
    have ends := processOrders_metered index replay.pending fresh metered (fun _ member => member)
      within.sound.separate
    unfold offered at ends
    simp only [exact_mul]
    cases filled : replay.pending.foldlM (engine.processOrder .exact index bar snapshot)
        (replay, snapshot.availableQuantity * engine.fillModel.participationLimit) with
    | error aborted =>
      rw [filled] at ends
      obtain ⟨_, left⟩ := ends
      exact left.passed observed
    | ok after =>
      rw [filled] at ends
      exact Metered.passed ends observed

theorem trade_within {replay : Replay} (signal : Option Signal) (target : Option Target)
    (strategyId : String) (fresh : ∀ earlier ∈ past, earlier.timestamp ≠ bar.timestamp)
    (within : engine.Within past replay) :
    Ends (engine.Within (past ++ [bar])) (engine.Within (past ++ [bar]))
      (engine.trade .exact signal target strategyId past bar replay) := by
  unfold trade
  split
  · exact within.pass fresh
  dsimp only
  split
  · exact within.pass fresh
  · rename_i proposed _
    have submitted := submitProposed_within (causalHistory past bar.timestamp) bar proposed within
    cases submission : submitProposed (causalHistory past bar.timestamp) bar replay proposed with
    | error =>
      rw [submission] at submitted
      exact Within.pass submitted fresh
    | ok =>
      rw [submission] at submitted
      exact fillPending_within past.length fresh submitted

theorem Within.observe {replay : Replay} (bar : Bar) (within : engine.Within past replay) :
    Ends (engine.Within past) (engine.Within past) (engine.observe .exact bar replay) := by
  have sound := within.sound
  unfold DeterministicBacktest.observe
  dsimp only
  split
  · exact within
  split
  · exact within
  · exact ⟨⟨sound.solvent, sound.registered, sound.bounded, fun intent member =>
      let waits := sound.waiting intent member
      ⟨waits.positive, waits.registered, waits.within⟩, sound.separate⟩, within.dated, within.within⟩

/-- The loop over the bars, by induction on those to come. -/
theorem replayBars_within (signal : Option Signal) (target : Option Target) (strategyId : String)
    (future : List Bar) {replay : Replay}
    (distinct : ((past ++ future).map Bar.timestamp).Nodup) (within : engine.Within past replay) :
    Ends (engine.Within (past ++ future))
      (fun left => ∃ passed, passed <+: past ++ future ∧ engine.Within passed left)
      (engine.replayBars .exact signal target strategyId past future replay) := by
  induction future generalizing past replay with
  | nil =>
    rw [append_nil]
    exact within
  | cons bar future ih =>
    have split : past ++ bar :: future = past ++ [bar] ++ future := by simp
    have reached : past ++ [bar] <+: past ++ bar :: future := ⟨future, split.symm⟩
    have fresh : ∀ earlier ∈ past, earlier.timestamp ≠ bar.timestamp := by
      intro earlier passed
      rw [map_append, nodup_append] at distinct
      exact distinct.2.2 _ (mem_map_of_mem passed) _ (by simp)
    have traded := trade_within signal target strategyId fresh within
    unfold replayBars
    cases trading : engine.trade .exact signal target strategyId past bar replay with
    | error =>
      rw [trading] at traded
      exact ⟨_, reached, traded⟩
    | ok after =>
      rw [trading] at traded
      have observed := Within.observe bar traded
      simp only [bind, Except.bind]
      cases observing : engine.observe .exact bar after with
      | error =>
        rw [observing] at observed
        exact ⟨_, reached, observed⟩
      | ok =>
        rw [observing] at observed
        rw [split] at distinct ⊢
        exact ih distinct observed

/-- The closing events touch neither the ledger nor the book. -/
theorem Within.endReplay {replay : Replay} (ordered : List Bar) (within : engine.Within past replay) :
    engine.Within past (DeterministicBacktest.endReplay ordered replay) := by
  have closing : ∀ (timestamp : Time) (waiting : List OrderIntent) (replay : Replay),
      engine.Within past replay → engine.Within past (waiting.foldl (fun replay intent =>
        replay.event intent.clientOrderId timestamp .cancelled .endOfReplay) replay) := by
    intro timestamp waiting
    induction waiting with
    | nil => exact fun replay within => within
    | cons intent _ ih =>
      intro replay within
      have retires : Retires intent.clientOrderId replay (replay.event intent.clientOrderId timestamp
          .cancelled .endOfReplay) :=
        ⟨rfl, event_book _ _ _ _ _, List.Sublist.refl _, fun _ member _ => member⟩
      exact ih _ ⟨within.sound.retires retires, within.dated, within.within⟩
  unfold DeterministicBacktest.endReplay
  split
  · exact within
  · exact closing _ _ _ within

def reached : Replaying Replay → Replay
  | .ok final => final
  | .error (_, left) => left

theorem runIn_within (engine : DeterministicBacktest) (bars : List Bar) (signal : Option Signal)
    (target : Option Target) (strategyId : String) :
    ∃ passed, (passed = [] ∨ (passed <+: sortBars bars ∧ ((sortBars bars).map Bar.timestamp).Nodup)) ∧
      engine.Within passed (reached (engine.runIn .exact bars signal target strategyId)) := by
  have nothing : engine.Within [] (start engine.startingCash) := by
    refine ⟨⟨solvent_flat engine.cash_pos.le, ?_, ?_, ?_, nodup_nil⟩, ?_, ?_⟩
    · simp [start, flat]
    · simp [start, book]
    · simp [start]
    · simp [start, flat]
    · simp
  unfold runIn
  dsimp only
  by_cases both : signal.isNone = target.isNone
  · rw [refuseIf_bind_of both]
    exact ⟨[], .inl rfl, nothing⟩
  rw [refuseIf_bind_of_not both]
  by_cases empty : sortBars bars = []
  · rw [refuseIf_bind_of empty]
    exact ⟨[], .inl rfl, nothing⟩
  rw [refuseIf_bind_of_not empty]
  by_cases duplicate : ¬((sortBars bars).map Bar.timestamp).Nodup
  · rw [refuseIf_bind_of duplicate]
    exact ⟨[], .inl rfl, nothing⟩
  rw [refuseIf_bind_of_not duplicate]
  by_cases revised : ∃ bar ∈ sortBars bars, bar.revised
  · rw [refuseIf_bind_of revised]
    exact ⟨[], .inl rfl, nothing⟩
  rw [refuseIf_bind_of_not revised]
  have distinct := not_not.mp duplicate
  have ends := replayBars_within signal target strategyId (sortBars bars) distinct nothing
  cases replayed : engine.replayBars .exact signal target strategyId [] (sortBars bars)
      (start engine.startingCash) with
  | error aborted =>
    rw [replayed] at ends
    obtain ⟨passed, reachedBars, within⟩ := ends
    exact ⟨passed, .inr ⟨reachedBars, distinct⟩, within⟩
  | ok final =>
    rw [replayed] at ends
    exact ⟨sortBars bars, .inr ⟨prefix_refl _, distinct⟩, Within.endReplay _ ends⟩

/-- In exact arithmetic, whatever the program, the bars and the engine: after
every fill cash and position are nonnegative; the fills of a bar stay within its
share of the available quantity; and the fills of an order stay within the
quantity it was normalized to. It holds of completed replays and of those an
exception cut short. -/
theorem replay_respects_funds_and_liquidity (engine : DeterministicBacktest) (bars : List Bar)
    (signal : Option Signal) (target : Option Target) (strategyId : String) :
    let replay := reached (engine.runIn .exact bars signal target strategyId)
    let fills := replay.ledger.fills
    replay.ledger = LedgerState.replay .exact engine.startingCash fills ∧
      (∀ earlier, earlier <+: fills →
        0 ≤ (LedgerState.replay .exact engine.startingCash earlier).cash ∧
          0 ≤ (LedgerState.replay .exact engine.startingCash earlier).position) ∧
      (∀ bar ∈ bars, ∀ snapshot, bar.snapshot = .ok snapshot →
        filledAt bar.timestamp fills ≤
          snapshot.availableQuantity * engine.fillModel.participationLimit) ∧
      (∀ order ∈ replay.orders, filledFor order.orderId fills ≤ allowance order.normalizedIntent) ∧
      ∀ fill ∈ fills, ∃ order ∈ replay.orders, order.orderId = fill.orderId := by
  intro replay fills
  obtain ⟨passed, ordered, within⟩ := runIn_within engine bars signal target strategyId
  have sound : engine.Sound replay := within.sound
  refine ⟨sound.solvent.replayed, sound.solvent.funded, ?_, ?_, ?_⟩
  · intro bar member snapshot observed
    by_cases seen : bar ∈ passed
    · exact within.within bar seen snapshot observed
    · have nothing : filledAt bar.timestamp fills = 0 := by
        apply filledAt_of_absent
        intro fill filled same
        obtain ⟨_, earlierPassed, dated⟩ := within.dated fill filled
        rcases ordered with empty | ⟨before, distinct⟩
        · simp [empty] at earlierPassed
        · have sorted : bar ∈ sortBars bars := (perm_insertionSort _ bars).mem_iff.mpr member
          have one := inj_on_of_nodup_map distinct (before.subset earlierPassed) sorted
            (dated.trans same)
          exact seen (one ▸ earlierPassed)
      rw [nothing]
      exact offered_nonneg snapshot
  · intro order member
    exact sound.bounded (order.orderId, order.normalizedIntent) (mem_map_of_mem member)
  · intro fill member
    obtain ⟨_, held, named⟩ := sound.registered fill member
    obtain ⟨order, orderHeld, rfl⟩ := mem_map.mp held
    exact ⟨order, orderHeld, named⟩

end DeterministicBacktest

end Liki.Finance
