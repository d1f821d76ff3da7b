import Liki.Finance.OrderLifecycle
import Liki.Library.AppendOnly

/-! The replay does not look ahead, in two pieces.

1. **A prefix of the bars determines the state after it.** The loop over
   `early ++ late` first reaches the state of the loop over `early` alone.

2. **Later bars only add later records.** Every fill, point, observation and
   event that a bar adds carries the bar's own timestamp (`Extends`), and the
   closing cancellations at the end say that they are.

So what a run reports up to an instant is a function of the bars up to it, and
the order submitted at a bar is the program's answer in the state that the
strictly earlier bars lead to. -/
namespace Liki.Finance
open DecimalArithmetic Checks AppendOnly List KeyedRows ReplayOrder

namespace DeterministicBacktest

variable {ctx : DecimalContext} {engine : DeterministicBacktest} {bar : Bar}
  {signal : Option Signal} {target : Option Target} {strategyId : String}

/-- What a step adds to the records of a replay. -/
structure Extends (dated : Time → Prop) (raises : OrderEvent → Prop) (before after : Replay) : Prop where
  fills : Grows (fun fill => dated fill.timestamp) before.ledger.fills after.ledger.fills
  curve : Grows (fun point => dated point.1) before.curve after.curve
  observations : Grows (fun row => dated row.timestamp) before.observations after.observations
  events : Grows raises before.events after.events
  intents : Grows (fun _ => True) (before.orders.map intent) (after.orders.map intent)

variable {dated laterDated : Time → Prop} {raises laterRaises : OrderEvent → Prop}
  {before middle after replay : Replay} {index : ℕ} {past late bars : List Bar} {final : Replay}
  {state : Replay × ℚ} {left : Replay} {instant : Time}

theorem Extends.refl (replay : Replay) : Extends dated raises replay replay :=
  ⟨.refl _ _, .refl _ _, .refl _ _, .refl _ _, .refl _ _⟩

theorem Extends.trans (first : Extends dated raises before middle)
    (second : Extends dated raises middle after) : Extends dated raises before after :=
  ⟨first.fills.trans second.fills, first.curve.trans second.curve,
    first.observations.trans second.observations, first.events.trans second.events,
    first.intents.trans second.intents⟩

theorem Extends.mono (extend : Extends dated raises before after)
    (dates : ∀ time, dated time → laterDated time) (events : ∀ event, raises event → laterRaises event) :
    Extends laterDated laterRaises before after :=
  ⟨extend.fills.mono fun _ => dates _, extend.curve.mono fun _ => dates _,
    extend.observations.mono fun _ => dates _, extend.events.mono events, extend.intents⟩

theorem Extends.of_same (ledger : after.ledger.fills = before.ledger.fills) (curve : after.curve = before.curve)
    (observations : after.observations = before.observations) (events : after.events = before.events)
    (intents : after.orders.map intent = before.orders.map intent) :
    Extends dated raises before after :=
  ⟨ledger ▸ .refl _ _, curve ▸ .refl _ _, observations ▸ .refl _ _, events ▸ .refl _ _,
    intents ▸ .refl _ _⟩

theorem intents_event (replay : Replay) (orderId : String) (timestamp : Time) (state : OrderState)
    (reason : EventReason) : (replay.event orderId timestamp state reason).orders.map intent =
      replay.orders.map intent :=
  map_update _ fun _ _ => rfl

theorem extends_event (replay : Replay) {orderId : String} {state : OrderState}
    (raised : raises ⟨orderId, timestamp, state, reason⟩) :
    Extends dated raises replay (replay.event orderId timestamp state reason) := by
  refine ⟨.refl _ _, .refl _ _, .refl _ _, .one raised _, ?_⟩
  rw [intents_event]
  exact .refl _ _

theorem extends_note (replay : Replay) (intent : OrderIntent) :
    Extends dated raises replay (replay.noteNormalized intent) :=
  .of_same rfl rfl rfl rfl (map_update _ fun _ _ => rfl)

def RaisedInLoop (bar : Bar) (event : OrderEvent) : Prop :=
  event.timestamp = bar.timestamp ∧ event.state ≠ .submitted

theorem extends_rejected (replay : Replay) (orderId : String) (error : FinanceError) :
    Extends dated (RaisedInLoop bar) replay (rejected bar replay orderId error) := by
  have noted : Extends dated (RaisedInLoop bar) replay
      { replay with rejections := replay.rejections ++ [(orderId, error)] } := .of_same rfl rfl rfl rfl rfl
  have raised : RaisedInLoop bar ⟨orderId, bar.timestamp, .rejected, .refused error⟩ := ⟨rfl, by simp⟩
  exact (noted.trans (extends_event _ raised)).trans (.of_same rfl rfl rfl rfl rfl)

theorem extends_cancelImmediate (replay : Replay) (intent : OrderIntent) :
    Extends dated (RaisedInLoop bar) replay (cancelImmediate bar replay intent) := by
  unfold cancelImmediate
  split
  · have raised : RaisedInLoop bar
        ⟨intent.clientOrderId, bar.timestamp, .cancelled, .unfilledImmediateRemainder⟩ := ⟨rfl, by simp⟩
    exact (extends_event _ raised).trans (.of_same rfl rfl rfl rfl rfl)
  · exact .refl _

theorem extends_settle (replay : Replay) (intent : OrderIntent)
    (dates : dated execution.fill.timestamp)
    (posted : execution.ledger.fills = replay.ledger.fills ++ [execution.fill]) :
    Extends dated (RaisedInLoop bar) replay (settle ctx bar replay intent execution) := by
  have charged : Extends dated (RaisedInLoop bar) replay
      (charge ctx replay intent.clientOrderId execution) := by
    refine ⟨?_, .refl _ _, .refl _ _, .refl _ _, ?_⟩
    · exact ⟨[execution.fill], posted, by simpa using dates⟩
    · have kept : (charge ctx replay intent.clientOrderId execution).orders.map ReplayOrder.intent =
          replay.orders.map ReplayOrder.intent := map_update _ fun _ _ => rfl
      rw [kept]
      exact .refl _ _
  unfold settle
  dsimp only
  split
  · have raised : RaisedInLoop bar ⟨intent.clientOrderId, bar.timestamp, .filled, .none⟩ :=
      ⟨rfl, by simp⟩
    exact (charged.trans (extends_event _ raised)).trans (.of_same rfl rfl rfl rfl rfl)
  · have raised : RaisedInLoop bar ⟨intent.clientOrderId, bar.timestamp, .partiallyFilled, .none⟩ :=
      ⟨rfl, by simp⟩
    exact (charged.trans (extends_event _ raised)).trans (.of_same rfl rfl rfl rfl rfl)

theorem Passed.extends {intent : OrderIntent} {after : Replay × ℚ}
    (passed : Passed ctx engine index bar snapshot intent state after) :
    Extends (· = bar.timestamp) (RaisedInLoop bar) state.1 after.1 := by
  cases passed with
  | early => exact .refl _
  | unnormalized error => exact extends_rejected _ _ error
  | refused error => exact (extends_note _ _).trans (extends_rejected _ _ error)
  | unfilled => exact (extends_note _ _).trans (extends_cancelImmediate _ _)
  | filled _ _ _ executes =>
    obtain ⟨-, timestamp, -, applied⟩ := execute_posts executes
    have posted := LedgerState.fills_of_apply applied
    exact ((extends_note _ _).trans (extends_settle _ _ timestamp posted)).trans
      (extends_cancelImmediate _ _)

theorem passes_extend {todo : List OrderIntent} {after : Replay × ℚ}
    (ok : todo.foldlM (engine.processOrder ctx index bar snapshot) state = .ok after) :
    Extends (· = bar.timestamp) (RaisedInLoop bar) state.1 after.1 := by
  induction todo generalizing state with
  | nil =>
    cases ok
    exact .refl _
  | cons _ _ ih =>
    rw [foldlM_cons] at ok
    obtain ⟨_, processed, ok⟩ := bind_ok.mp ok
    exact (processOrder_ok processed).extends.trans (ih ok)

def RaisedAt (bar : Bar) (event : OrderEvent) : Prop := event.timestamp = bar.timestamp

theorem extends_submitted (replay : Replay) (intent : OrderIntent) :
    Extends (· = bar.timestamp) (RaisedAt bar) replay (submitted bar replay intent) := by
  have registered : Extends (· = bar.timestamp) (RaisedAt bar) replay (opened replay intent) :=
    ⟨.refl _ _, .refl _ _, .refl _ _, .refl _ _, ⟨[intent], by simp [opened], by simp⟩⟩
  have noted := registered.trans (extends_event _
    (show RaisedAt bar ⟨intent.clientOrderId, bar.timestamp, .intent, .none⟩ from rfl))
  have pending : Extends (· = bar.timestamp) (RaisedAt bar) replay
      (awaiting ((opened replay intent).event intent.clientOrderId bar.timestamp .intent .none) intent) :=
    noted.trans (.of_same rfl rfl rfl rfl rfl)
  exact pending.trans (extends_event _ rfl)

/-- One bar adds records at its own timestamp. -/
theorem bar_extends {traded observed : Replay}
    (trading : engine.trade ctx signal target strategyId past bar replay = .ok traded)
    (observing : engine.observe ctx bar traded = .ok observed) :
    Extends (· = bar.timestamp) (RaisedAt bar) replay observed := by
  obtain ⟨proposed, submission, _, _, -, submitting, -, passes⟩ := trade_ok trading
  obtain ⟨point, row, pointAt, rowAt, rfl⟩ := observe_ok observing
  have first : Extends (· = bar.timestamp) (RaisedAt bar) replay submission := by
    cases proposed with
    | none =>
      cases submitting
      exact .refl _
    | some =>
      obtain ⟨-, -, rfl⟩ := submit_ok submitting
      exact extends_submitted _ _
  have second : Extends (· = bar.timestamp) (RaisedAt bar) submission traded :=
    (passes_extend passes).mono (fun _ same => same) fun _ raised => raised.1
  refine (first.trans second).trans ⟨.refl _ _, ⟨[point], rfl, ?_⟩, ⟨[row], rfl, ?_⟩, .refl _ _, .refl _ _⟩
  · simpa using pointAt
  · simpa using rowAt

/-- The loop over some bars adds records at their timestamps. -/
theorem replayBars_extends
    (ok : engine.replayBars ctx signal target strategyId past future replay = .ok final) :
    Extends (fun time => ∃ bar ∈ future, bar.timestamp = time)
      (fun event => ∃ bar ∈ future, bar.timestamp = event.timestamp) replay final := by
  induction future generalizing past replay with
  | nil =>
    cases ok
    exact .refl _
  | cons bar future ih =>
    obtain ⟨_, trading, _, observing, rest⟩ := replayBars_cons.mp ok
    have here := (bar_extends trading observing).mono
      (fun time same => (⟨bar, mem_cons_self, same.symm⟩ : ∃ seen ∈ bar :: future,
        seen.timestamp = time))
      (fun event same => (⟨bar, mem_cons_self, same.symm⟩ : ∃ seen ∈ bar :: future,
        seen.timestamp = event.timestamp))
    refine here.trans ((ih rest).mono ?_ ?_)
    · rintro time ⟨seen, member, same⟩
      exact ⟨seen, mem_cons_of_mem _ member, same⟩
    · rintro event ⟨seen, member, same⟩
      exact ⟨seen, mem_cons_of_mem _ member, same⟩

theorem endReplay_extends (ordered : List Bar) (replay : Replay) :
    Extends (fun _ => False) (fun event => event.reason = .endOfReplay ∧ event.state ≠ .submitted) replay
      (endReplay ordered replay) := by
  unfold endReplay
  split
  · exact .refl _
  · generalize replay.pending = todo
    induction todo generalizing replay with
    | nil => exact .refl _
    | cons _ _ ih => exact (extends_event _ ⟨rfl, by simp⟩).trans (ih _)

theorem replayBars_append {early : List Bar}
    (ok : engine.replayBars ctx signal target strategyId past (early ++ late) replay = .ok final) :
    ∃ reached, engine.replayBars ctx signal target strategyId past early replay = .ok reached ∧
      engine.replayBars ctx signal target strategyId (past ++ early) late reached = .ok final := by
  induction early generalizing past replay with
  | nil =>
    refine ⟨replay, rfl, ?_⟩
    rw [append_nil]
    exact ok
  | cons _ _ ih =>
    obtain ⟨traded, trading, observed, observing, rest⟩ := replayBars_cons.mp ok
    obtain ⟨reached, leads, later⟩ := ih rest
    refine ⟨reached, replayBars_cons.mpr ⟨traded, trading, observed, observing, leads⟩, ?_⟩
    rwa [append_assoc] at later

/-- A completed run passes through the state its early bars lead to. -/
theorem run_splits (early : Time → Bool)
    (closed : ∀ {first second : Time}, first < second → early second → early first)
    (ok : engine.runIn ctx bars signal target strategyId = .ok final) :
    ∃ reached left,
      engine.replayBars ctx signal target strategyId []
        ((sortBars bars).filter fun bar => early bar.timestamp) (.start engine.startingCash) = .ok reached ∧
      engine.replayBars ctx signal target strategyId
        ((sortBars bars).filter fun bar => early bar.timestamp)
        ((sortBars bars).filter fun bar => !early bar.timestamp) reached = .ok left ∧
      final = endReplay (sortBars bars) left := by
  obtain ⟨ordered, -, left, replayed, rfl⟩ := runIn_ok ok
  have split : sortBars bars = (sortBars bars).filter (fun bar => early bar.timestamp) ++
      (sortBars bars).filter fun bar => !early bar.timestamp :=
    split_ordered ordered fun first second before passes => closed before passes
  rw [split] at replayed
  obtain ⟨reached, leads, later⟩ := replayBars_append replayed
  rw [nil_append] at later
  exact ⟨reached, left, leads, later, rfl⟩

theorem same_early_bars (early : Time → Bool)
    (ok : engine.runIn ctx bars signal target strategyId = .ok final)
    (okOther : engine.runIn ctx others signal target strategyId = .ok finalOther)
    (same : ∀ bar : Bar, early bar.timestamp → (bar ∈ bars ↔ bar ∈ others)) :
    (sortBars bars).filter (fun bar => early bar.timestamp) =
      (sortBars others).filter fun bar => early bar.timestamp := by
  have : Std.Irrefl fun first second : Bar => first.timestamp < second.timestamp :=
    ⟨fun bar => lt_irrefl bar.timestamp⟩
  have : Std.Antisymm fun first second : Bar => first.timestamp < second.timestamp :=
    ⟨fun _ _ before after => absurd before (lt_asymm after)⟩
  refine same_early (runIn_ok ok).1 (runIn_ok okOther).1 ?_
  intro bar passes
  rw [mem_sortBars, mem_sortBars]
  exact same bar passes

def submittedAt (replay : Replay) (instant : Time) : List OrderIntent :=
  (replay.orders.map intent).filter fun intent => replay.events.any fun event =>
    event.orderId = intent.clientOrderId ∧ event.state = .submitted ∧ event.timestamp = instant

theorem propose_timestamp (same : bar.timestamp = other.timestamp) :
    engine.propose ctx signal target strategyId index history bar replay =
      engine.propose ctx signal target strategyId index history other replay := by
  unfold propose targetIntent
  rw [same]

theorem submittedAt_proposed (earlier : ∀ event ∈ replay.events, event.timestamp < bar.timestamp)
    (later : ∀ next ∈ late, bar.timestamp < next.timestamp)
    (distinct : (final.orders.map ReplayOrder.orderId).Nodup)
    (ok : engine.replayBars ctx signal target strategyId past (bar :: late) replay = .ok left)
    (ends : Extends (fun _ => False) (fun event => event.reason = .endOfReplay ∧ event.state ≠ .submitted)
      left final) :
    ∃ proposed, engine.propose ctx signal target strategyId past.length
        (causalHistory past bar.timestamp) bar replay = .ok proposed ∧
      submittedAt final bar.timestamp = proposed.toList := by
  obtain ⟨_, trading, _, observing, rest⟩ := replayBars_cons.mp ok
  obtain ⟨proposed, after, _, _, proposing, submitting, -, passes⟩ := trade_ok trading
  obtain ⟨_, _, -, -, rfl⟩ := observe_ok observing
  have looped := passes_extend passes
  have future := replayBars_extends rest
  refine ⟨proposed, proposing, ?_⟩
  -- A submission reported at the bar was reported by the bar's own submission.
  have traced : ∀ event ∈ final.events, event.state = .submitted → event.timestamp = bar.timestamp →
      event ∈ after.events := by
    intro event member submission now
    rcases ends.events.mem member with held | closing
    · rcases future.events.mem held with held | ⟨next, ahead, dated⟩
      · rcases looped.events.mem held with held | raised
        · exact held
        · exact absurd submission raised.2
      · exact absurd (dated.trans now) (later next ahead).ne'
    · exact absurd submission closing.2
  have intents : Grows (fun _ => True) (after.orders.map ReplayOrder.intent)
      (final.orders.map ReplayOrder.intent) := (looped.intents.trans future.intents).trans ends.intents
  have events : ∀ event ∈ after.events, event ∈ final.events := by
    intro event member
    obtain ⟨_, loopSame, -⟩ := looped.events
    obtain ⟨_, futureSame, -⟩ := future.events
    obtain ⟨_, closingSame, -⟩ := ends.events
    rw [closingSame, futureSame, loopSame]
    simp [member]
  cases proposed with
  | none =>
    cases submitting
    refine filter_eq_nil_iff.mpr ?_
    intro intent _ found
    obtain ⟨event, member, named⟩ := any_eq_true.mp found
    simp only [decide_eq_true_eq] at named
    have before := earlier event (traced event member named.2.1 named.2.2)
    exact absurd named.2.2 before.ne
  | some intent =>
    obtain ⟨-, -, rfl⟩ := submit_ok submitting
    have registered : intent ∈ final.orders.map ReplayOrder.intent := by
      obtain ⟨_, same, -⟩ := intents
      rw [same]
      refine mem_append_left _ ?_
      rw [submitted, intents_event, awaiting, intents_event]
      simp [opened]
    have apart : KeyedRows.Distinct OrderIntent.clientOrderId (final.orders.map ReplayOrder.intent) := by
      rw [KeyedRows.Distinct, map_map]
      exact distinct
    have selects : ∀ other : OrderIntent, (final.events.any fun event => event.orderId = other.clientOrderId ∧
        event.state = .submitted ∧ event.timestamp = bar.timestamp) =
          decide (other.clientOrderId = intent.clientOrderId) := by
      intro other
      rw [Bool.eq_iff_iff, any_eq_true, decide_eq_true_iff]
      constructor
      · rintro ⟨event, member, named⟩
        simp only [decide_eq_true_eq] at named
        have held := traced event member named.2.1 named.2.2
        simp only [submitted, awaiting, opened, Replay.event, append_assoc, mem_append,
          singleton_append, mem_cons, not_mem_nil, or_false] at held
        rcases held with held | rfl | rfl
        · exact absurd named.2.2 (earlier event held).ne
        · exact absurd named.2.1 (by simp)
        · exact named.1.symm
      · intro same
        refine ⟨⟨intent.clientOrderId, bar.timestamp, .submitted, .none⟩, events _ ?_, ?_⟩
        · simp [submitted, Replay.event]
        · simp [same]
    unfold submittedAt
    simp only [selects]
    exact filter_of_mem apart registered

def eventsUpTo (instant : Time) (replay : Replay) : List OrderEvent :=
  replay.events.filter fun event => event.timestamp ≤ instant ∧ event.reason ≠ .endOfReplay

theorem first_at
    (ordered : (sortBars bars).Pairwise fun first second => first.timestamp < second.timestamp)
    (here : ∃ bar ∈ bars, bar.timestamp = instant) :
    ∃ bar late, (sortBars bars).filter (fun bar => !decide (bar.timestamp < instant)) = bar :: late ∧
      bar.timestamp = instant ∧ ∀ next ∈ late, bar.timestamp < next.timestamp := by
  obtain ⟨held, member, rfl⟩ := here
  have present : held ∈ (sortBars bars).filter fun bar => !decide (bar.timestamp < held.timestamp) :=
    mem_filter.mpr ⟨mem_sortBars.mpr member, by simp⟩
  have notBefore : ∀ bar ∈ (sortBars bars).filter (fun bar => !decide (bar.timestamp < held.timestamp)),
      held.timestamp ≤ bar.timestamp := by
    intro bar kept
    simpa using (mem_filter.mp kept).2
  have rest := ordered.filter fun bar => !decide (bar.timestamp < held.timestamp)
  cases split : (sortBars bars).filter fun bar => !decide (bar.timestamp < held.timestamp) with
  | nil =>
    rw [split] at present
    cases present
  | cons first late =>
    rw [split] at present notBefore rest
    obtain ⟨later, -⟩ := pairwise_cons.mp rest
    refine ⟨first, late, rfl, ?_, later⟩
    rcases mem_cons.mp present with rfl | after
    · rfl
    · exact absurd (notBefore first mem_cons_self) (not_le.mpr (later held after))

/-- What two completed replays report alike up to an instant. -/
structure AgreeUpTo (instant : Time) (final other : Replay) : Prop where
  fills : (final.ledger.fills.filter fun fill => fill.timestamp ≤ instant) =
    other.ledger.fills.filter fun fill => fill.timestamp ≤ instant
  observations : (final.observations.filter fun row => row.timestamp ≤ instant) =
    other.observations.filter fun row => row.timestamp ≤ instant
  curve : (final.curve.filter fun point => point.1 ≤ instant) =
    other.curve.filter fun point => point.1 ≤ instant
  events : eventsUpTo instant final = eventsUpTo instant other

theorem agree_reached {reached : Replay} (ordered : List Bar)
    (later : ∀ bar ∈ late, instant < bar.timestamp)
    (ok : engine.replayBars ctx signal target strategyId past late reached = .ok left) :
    AgreeUpTo instant (endReplay ordered left) reached := by
  have future := (replayBars_extends ok).mono
    (fun time dated => (by
      obtain ⟨bar, member, rfl⟩ := dated
      exact later bar member : instant < time))
    (fun event dated => (by
      obtain ⟨bar, member, same⟩ := dated
      exact .inl (same ▸ later bar member) :
        instant < event.timestamp ∨ event.reason = .endOfReplay))
  have closing := (endReplay_extends ordered left).mono
    (fun time impossible => (impossible.elim : instant < time))
    (fun event raised => (.inr raised.1 : instant < event.timestamp ∨ event.reason = .endOfReplay))
  have extend := future.trans closing
  refine ⟨extend.fills.filter ?_, extend.observations.filter ?_, extend.curve.filter ?_,
    extend.events.filter ?_⟩
  · intro fill dated
    simpa using dated
  · intro row dated
    simpa using dated
  · intro point dated
    simpa using dated
  · intro event raised
    rcases raised with late | closes
    · simp [late]
    · simp [closes]

/-- No look-ahead. Two completed runs over bars that agree up to an instant report
the same fills, observations, equity points and order events up to it, the
cancellations at the end of the replay apart; and two completed runs over bars
that agree strictly before an instant, each with a bar at it, submit the same
order there, whatever those two bars hold. -/
theorem replay_has_no_lookahead (engine : DeterministicBacktest) (signal : Option Signal)
    (target : Option Target) (strategyId : String) (bars others : List Bar) (final other : Replay)
    (ran : engine.run bars signal target strategyId = .ok final)
    (ranOther : engine.run others signal target strategyId = .ok other) :
    (∀ instant, (∀ bar : Bar, bar.timestamp ≤ instant → (bar ∈ bars ↔ bar ∈ others)) →
      AgreeUpTo instant final other) ∧
    ∀ instant, (∀ bar : Bar, bar.timestamp < instant → (bar ∈ bars ↔ bar ∈ others)) →
      (∃ bar ∈ bars, bar.timestamp = instant) → (∃ bar ∈ others, bar.timestamp = instant) →
      submittedAt final instant = submittedAt other instant := by
  constructor
  · intro instant same
    have closed : ∀ {first second : Time}, first < second → decide (second ≤ instant) →
        decide (first ≤ instant) := by
      intro first second before passes
      exact decide_eq_true (before.le.trans (of_decide_eq_true passes))
    have later : ∀ rows : List Bar, ∀ bar ∈ rows.filter (fun bar => !decide (bar.timestamp ≤ instant)),
        instant < bar.timestamp := by
      intro rows bar member
      simpa using (mem_filter.mp member).2
    have early := same_early_bars (fun time => decide (time ≤ instant)) ran ranOther
      fun bar passes => same bar (of_decide_eq_true passes)
    obtain ⟨reached, left, leads, rest, rfl⟩ := run_splits _ closed ran
    obtain ⟨reachedOther, leftOther, leadsOther, restOther, rfl⟩ := run_splits _ closed ranOther
    rw [early, leadsOther] at leads
    cases leads
    have mine := agree_reached (sortBars bars) (later _) rest
    have theirs := agree_reached (sortBars others) (later _) restOther
    exact ⟨mine.fills.trans theirs.fills.symm, mine.observations.trans theirs.observations.symm,
      mine.curve.trans theirs.curve.symm, mine.events.trans theirs.events.symm⟩
  · intro instant same here hereOther
    have closed : ∀ {first second : Time}, first < second → decide (second < instant) →
        decide (first < instant) := by
      intro first second before passes
      exact decide_eq_true (before.trans (of_decide_eq_true passes))
    have early := same_early_bars (fun time => decide (time < instant)) ran ranOther
      fun bar passes => same bar (of_decide_eq_true passes)
    have booked := (orders_book engine bars signal target strategyId final ran).distinct
    have bookedOther := (orders_book engine others signal target strategyId other ranOther).distinct
    obtain ⟨_, _, split, now, later⟩ := first_at (runIn_ok ran).1 here
    obtain ⟨_, _, splitOther, nowOther, laterOther⟩ := first_at (runIn_ok ranOther).1 hereOther
    obtain ⟨reached, _, leads, rest, rfl⟩ := run_splits _ closed ran
    obtain ⟨_, _, leadsOther, restOther, rfl⟩ := run_splits _ closed ranOther
    have before : ∀ event ∈ reached.events, event.timestamp < instant := by
      intro event member
      rcases (replayBars_extends leads).events.mem member with none | ⟨_, passed, dated⟩
      · cases none
      · have passes := (mem_filter.mp passed).2
        rw [← dated]
        exact of_decide_eq_true passes
    rw [early] at leads rest
    rw [leadsOther] at leads
    cases leads
    rw [split] at rest
    rw [splitOther] at restOther
    obtain ⟨_, proposing, submits⟩ := submittedAt_proposed
      (fun event member => now ▸ before event member) later booked rest (endReplay_extends _ _)
    obtain ⟨_, proposingOther, submitsOther⟩ := submittedAt_proposed
      (fun event member => nowOther ▸ before event member) laterOther bookedOther restOther
      (endReplay_extends _ _)
    rw [now] at proposing submits
    rw [nowOther] at proposingOther submitsOther
    rw [propose_timestamp (now.trans nowOther.symm), proposingOther] at proposing
    cases proposing
    rw [submits, submitsOther]

/-- The first bar of `growingBars`, then one that offers less. -/
def shrinkingBars : List Bar := [unitBar 1 5 five_nonneg, unitBar 2 1 (by norm_num)]

/-- Two replays that differ in their second bar agree on the first. -/
theorem second_bar_unseen :
    ∃ final other, wealthyEngine.run growingBars (some (buyOnce 7)) none "strategy" = .ok final ∧
      wealthyEngine.run shrinkingBars (some (buyOnce 7)) none "strategy" = .ok other ∧
      AgreeUpTo 1 final other ∧ submittedAt final 1 = submittedAt other 1 ∧
      final.ledger.fills.map Fill.quantity = [5, 2] ∧ other.ledger.fills.map Fill.quantity = [5, 1] := by
  have completed : ∃ final other,
      wealthyEngine.run growingBars (some (buyOnce 7)) none "strategy" = .ok final ∧
      wealthyEngine.run shrinkingBars (some (buyOnce 7)) none "strategy" = .ok other ∧
      final.ledger.fills.map Fill.quantity = [5, 2] ∧ other.ledger.fills.map Fill.quantity = [5, 1] := by
    refine ⟨reached (wealthyEngine.run growingBars (some (buyOnce 7)) none "strategy"),
      reached (wealthyEngine.run shrinkingBars (some (buyOnce 7)) none "strategy"), ?_⟩
    decide +kernel
  obtain ⟨final, other, ran, ranOther, filled, filledOther⟩ := completed
  have agrees := replay_has_no_lookahead wealthyEngine _ _ _ _ _ final other ran ranOther
  refine ⟨final, other, ran, ranOther, agrees.1 1 ?_, agrees.2 1 ?_ ?_ ?_, filled, filledOther⟩
  · intro bar early
    simp only [growingBars, shrinkingBars, mem_cons, not_mem_nil, or_false]
    have notSecond : ∀ volume nonneg, bar ≠ unitBar 2 volume nonneg := by
      rintro volume nonneg rfl
      exact absurd early (by norm_num [unitBar])
    simp [notSecond]
  · intro bar early
    simp only [growingBars, shrinkingBars, mem_cons, not_mem_nil, or_false]
    have notThese : ∀ instant volume nonneg, 1 ≤ instant → bar ≠ unitBar instant volume nonneg := by
      rintro instant volume nonneg late rfl
      exact absurd early (not_lt.mpr late)
    simp [notThese]
  · exact ⟨_, mem_cons_self, rfl⟩
  · exact ⟨_, mem_cons_self, rfl⟩

end DeterministicBacktest

end Liki.Finance
