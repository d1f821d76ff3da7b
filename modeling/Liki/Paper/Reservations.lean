import Liki.Paper.Persistence

/-! The risk that orders reserve. Every order has one reservation and every
reservation one order, and they move together. What a reservation charges to the
portfolio limit only shrinks after its submission, so the limit that a submission
checks goes on holding; and a cancelled order has nothing working any more. -/
namespace Liki.Paper
open DecimalArithmetic Checks CallSystem Finance PaperState KeyedRows List PaperOrder

variable {ctx : DecimalContext} {state before after : PaperState} {call : PaperCall}
  {answer : PaperAnswer} {good : PaperOrder → RiskReservation → Prop} {runId poolId : String}

inductive BookingMove (ctx : DecimalContext) (order : PaperOrder) (reservation : RiskReservation) :
    PaperOrder → RiskReservation → Prop
  | doubted (allowed : OrderState.unknownReconciling ∈ order.finalState.transitions) :
      BookingMove ctx order reservation { order with finalState := .unknownReconciling }
        { reservation with state := .unreconciled }
  | filled {fill : PaperFill} {intent : OrderIntent} {record : OrderRecord} {amounts : ReservedAmounts}
      (loaded : loadIntent order = .ok intent) (moved : fillRecord ctx order intent fill = .ok record)
      (converted : filledAmounts ctx reservation.amounts record.filledQuantity order.quantity =
        .ok amounts) :
      BookingMove ctx order reservation
        { order with finalState := record.state, filledQuantity := record.filledQuantity }
        { reservation with amounts, state := if amounts.position ≠ 0 then .converted else .held }
  | cancelled {amounts : ReservedAmounts}
      (working : order.finalState ∈
        [OrderState.acknowledged, .partiallyFilled, .amended, .cancelPending])
      (released : cancelledAmounts ctx reservation.amounts = .ok amounts) :
      BookingMove ctx order reservation { order with finalState := .cancelled }
        { reservation with amounts, state := if 0 < amounts.position then .converted else .released }

structure Booked (good : PaperOrder → RiskReservation → Prop) (state : PaperState) : Prop where
  reservationIds : KeyedRows.Distinct reservationId state.orders
  distinct : KeyedRows.Distinct RiskReservation.reservationId state.reservations
  booked : ∀ order ∈ state.orders, ∃ reservation,
    state.findReservation order.reservationId = some reservation ∧ good order reservation
  owned : ∀ reservation ∈ state.reservations, ∃ order ∈ state.orders,
    order.reservationId = reservation.reservationId

variable {reservation : RiskReservation} {order : PaperOrder}

theorem Booked.owner (booked : Booked good state) (member : reservation ∈ state.reservations) :
    ∃ order ∈ state.orders, order.reservationId = reservation.reservationId ∧
      good order reservation := by
  obtain ⟨order, held, same⟩ := booked.owned reservation member
  obtain ⟨_, found, fine⟩ := booked.booked order held
  rw [same, PaperState.findReservation, find_of_mem booked.distinct member] at found
  cases found
  exact ⟨order, held, same, fine⟩

/-- An order and its reservation move together and leave the others alone. -/
theorem Booked.move (projected : before.Projected) (booked : Booked good before)
    (found : before.findOrder order.paperOrderId = some order)
    (orders : after.orders =
      KeyedRows.update paperOrderId order.paperOrderId changeOrder before.orders)
    (reservations : after.reservations =
      KeyedRows.update RiskReservation.reservationId order.reservationId change before.reservations)
    (orderTerms : ∀ row, (changeOrder row).reservationId = row.reservationId)
    (terms : ∀ row, (change row).reservationId = row.reservationId)
    (moves : ∀ reservation, before.findReservation order.reservationId = some reservation →
      good order reservation → good (changeOrder order) (change reservation)) :
    Booked good after where
  reservationIds := by
    rw [orders, KeyedRows.Distinct, map_update _ fun row _ => orderTerms row]
    exact booked.reservationIds
  distinct := by
    rw [reservations, KeyedRows.Distinct, map_update _ fun row _ => terms row]
    exact booked.distinct
  booked := by
    intro other member
    rw [PaperState.findReservation, reservations]
    rw [orders] at member
    rcases mem_update_of_find projected.orderIds found member with rfl | ⟨held, apart⟩
    · obtain ⟨reservation, reserved, fine⟩ := booked.booked order (find_mem found)
      refine ⟨change reservation, ?_, moves reservation reserved fine⟩
      rw [orderTerms, find_update_self fun row same => (terms row).trans same]
      exact congrArg (Option.map change) reserved
    · have differ : other.reservationId ≠ order.reservationId := by
        intro same
        have one := find_of_mem booked.reservationIds held
        rw [same, find_of_mem booked.reservationIds (find_mem found)] at one
        cases one
        exact apart rfl
      rw [find_update_other (fun row same => (terms row).trans same) differ]
      exact booked.booked other held
  owned := by
    intro reservation member
    rw [reservations] at member
    have older : ∃ old ∈ before.reservations, old.reservationId = reservation.reservationId := by
      rcases mem_update member with ⟨old, held, -, rfl⟩ | ⟨held, -⟩
      · exact ⟨old, held, (terms old).symm⟩
      · exact ⟨reservation, held, rfl⟩
    obtain ⟨old, held, same⟩ := older
    obtain ⟨owner, listed, owns⟩ := booked.owned old held
    have again : owner.reservationId ∈ after.orders.map reservationId := by
      rw [orders, map_update _ fun row _ => orderTerms row]
      exact mem_map_of_mem listed
    obtain ⟨final, present, kept⟩ := mem_map.mp again
    exact ⟨final, present, kept.trans (owns.trans same)⟩

/-- A new order comes with a new reservation of its own. -/
theorem Booked.admit (booked : Booked good before)
    (orders : after.orders = before.orders ++ [order])
    (reservations : after.reservations = before.reservations ++ [reservation])
    (same : reservation.reservationId = order.reservationId)
    (unreserved : before.findReservation order.reservationId = none) (fine : good order reservation) :
    Booked good after where
  reservationIds := by
    rw [orders]
    refine distinct_insert booked.reservationIds (find_none.mpr ?_)
    intro old member clash
    obtain ⟨row, found, -⟩ := booked.booked old member
    rw [clash, unreserved] at found
    cases found
  distinct := by
    rw [reservations]
    refine distinct_insert booked.distinct ?_
    rw [same]
    exact unreserved
  booked := by
    intro other member
    rw [orders] at member
    rw [PaperState.findReservation, reservations]
    rcases mem_added member with older | newest
    · obtain ⟨row, found, good⟩ := booked.booked other older
      exact ⟨row, find_append_some found _, good⟩
    · rw [newest, find_insert]
      refine ⟨reservation, ?_, fine⟩
      simp only [PaperState.findReservation] at unreserved
      rw [unreserved, Option.none_or, if_pos same]
  owned := by
    intro row member
    rw [orders]
    rw [reservations] at member
    rcases mem_added member with older | newest
    · obtain ⟨owner, listed, owns⟩ := booked.owned row older
      exact ⟨owner, mem_append_left _ listed, owns⟩
    · exact ⟨order, by simp, by rw [newest, same]⟩

theorem Booked.of_same (booked : Booked good before) (orders : after.orders = before.orders)
    (reservations : after.reservations = before.reservations) : Booked good after where
  reservationIds := by rw [orders]; exact booked.reservationIds
  distinct := by rw [reservations]; exact booked.distinct
  booked := by
    intro order member
    rw [orders] at member
    rw [PaperState.findReservation, reservations]
    exact booked.booked order member
  owned := by rw [orders, reservations]; exact booked.owned

/-- What a commit does to orders and reservations: nothing, one move of a pair, or
a new pair. -/
inductive Rebooked (ctx : DecimalContext) (before : PaperState) : PaperCall → PaperState → Prop
  | same {call : PaperCall} {after : PaperState} (orders : after.orders = before.orders)
      (reservations : after.reservations = before.reservations) : Rebooked ctx before call after
  | moved {call : PaperCall} {after : PaperState} {order : PaperOrder}
      {changeOrder : PaperOrder → PaperOrder} {change : RiskReservation → RiskReservation}
      (found : before.findOrder order.paperOrderId = some order)
      (orders : after.orders =
        KeyedRows.update paperOrderId order.paperOrderId changeOrder before.orders)
      (reservations : after.reservations =
        KeyedRows.update RiskReservation.reservationId order.reservationId change before.reservations)
      (orderTerms : ∀ row, (changeOrder row).reservationId = row.reservationId)
      (terms : ∀ row, (change row).reservationId = row.reservationId ∧
        (change row).paperRunId = row.paperRunId)
      (moves : ∀ reservation, before.findReservation order.reservationId = some reservation →
        BookingMove ctx order reservation (changeOrder order) (change reservation)) :
      Rebooked ctx before call after
  | admitted {actor : Identity} {readings : Readings} {runId poolId : String} {after : PaperState}
      {intent spec snapshot envelope reservation amounts run}
      (found : before.findRun runId = some run)
      (pinned : before.content run.riskConfigArtifactId = some (.riskEnvelope envelope))
      (checked : pretradeCheck ctx intent spec snapshot envelope
        (before.positionQuantity runId intent.venue intent.instrumentId)
        (before.activeRisk ctx readings.rank runId poolId) readings.now = .ok reservation)
      (built : ReservedAmounts.build reservation.amount reservation.amount 0 0 = .ok amounts)
      (unreserved : before.findReservation reservation.reservationId = none)
      (orders : after.orders =
        before.orders ++ [acknowledgedOrder (readings.uid "PORD") runId intent reservation])
      (reservations : after.reservations = before.reservations ++ [heldReservation
        (acknowledgedOrder (readings.uid "PORD") runId intent reservation) poolId reservation amounts]) :
      Rebooked ctx before ⟨actor, readings, .submit runId intent spec snapshot envelope poolId⟩ after

theorem Commit.rebooked (commit : Commit ctx before call answer after) :
    Rebooked ctx before call after := by
  cases commit with
  | started => exact .same rfl rfl
  | reconciled => exact .same rfl rfl
  | restarted => exact .same rfl rfl
  | submitted _ found _ _ pinned _ checked built unreserved =>
    obtain ⟨_, listed, joined⟩ := Option.bind_eq_some_iff.mp found
    obtain ⟨_, -, pair⟩ := Option.map_eq_some_iff.mp joined
    cases pair
    exact .admitted listed pinned checked built unreserved rfl rfl
  | doubted found allowed =>
    have named := find_key found
    subst named
    exact .moved found rfl rfl (fun _ => rfl) (fun _ => ⟨rfl, rfl⟩) fun _ _ => .doubted allowed
  | filled _ found _ _ _ loaded moved _ _ _ reserved converted =>
    have named := find_key found
    subst named
    refine .moved found rfl rfl (fun _ => rfl) (fun _ => ⟨rfl, rfl⟩) fun reservation held => ?_
    rw [reserved] at held
    cases held
    exact .filled loaded moved converted
  | cancelled found known allowed reserved released =>
    have named := find_key found
    subst named
    refine .moved found rfl rfl (fun _ => rfl) (fun _ => ⟨rfl, rfl⟩) fun reservation held => ?_
    rw [reserved] at held
    cases held
    exact .cancelled (cancellable known allowed) released
  | stopped => exact .same rfl rfl
  | latched => exact .same rfl rfl
  | unlatched => exact .same rfl rfl

theorem Aftermath.rebooked (step : Aftermath ctx actor latchId before after) :
    Rebooked ctx before call after := by
  cases step with
  | cleared found listed reserved released =>
    refine .moved found rfl rfl (fun _ => rfl) (fun _ => ⟨rfl, rfl⟩) fun reservation held => ?_
    rw [reserved] at held
    cases held
    exact .cancelled listed released
  | fenced => exact .same rfl rfl

theorem Effect.rebooks {kept : PaperState → Prop} (projected : before.Projected) (start : kept before)
    (effect : Effect ctx before call answer after)
    (first : ∀ after, Rebooked ctx before call after → kept after)
    (follows : ∀ first second, first.Projected → kept first →
      (∀ call, Rebooked ctx first call second) → kept second) : kept after := by
  have both : after.Projected ∧ kept after := by
    refine effect.preserves (fun state => state.Projected ∧ kept state) ⟨projected, start⟩ ?_ ?_
    · exact fun answer after commit => ⟨commit.projected projected, first after commit.rebooked⟩
    · exact fun actor latchId one two held step =>
        ⟨step.projected held.1, follows one two held.1 held.2 fun _ => step.rebooked⟩
  exact both.2

/-- What is good about every new pair and kept by every move of one. -/
structure Bookable (ctx : DecimalContext) (good : PaperOrder → RiskReservation → Prop) : Prop where
  moves : ∀ order reservation order' reservation', good order reservation →
    BookingMove ctx order reservation order' reservation' → good order' reservation'
  admits : ∀ orderId runId intent reservation poolId amounts,
    0 < reservation.normalizedQuantity →
    ReservedAmounts.build reservation.amount reservation.amount 0 0 = .ok amounts →
    good (acknowledgedOrder orderId runId intent reservation)
      (heldReservation (acknowledgedOrder orderId runId intent reservation) poolId reservation amounts)

theorem Rebooked.keeps (projected : before.Projected) (booked : Booked good before)
    (step : Rebooked ctx before call after)
    (moves : ∀ order reservation order' reservation', good order reservation →
      BookingMove ctx order reservation order' reservation' → good order' reservation')
    (admits : ∀ orderId runId poolId intent spec snapshot envelope position portfolio now reservation amounts,
      pretradeCheck ctx intent spec snapshot envelope position portfolio now = .ok reservation →
      ReservedAmounts.build reservation.amount reservation.amount 0 0 = .ok amounts →
      good (acknowledgedOrder orderId runId intent reservation)
        (heldReservation (acknowledgedOrder orderId runId intent reservation) poolId reservation amounts)) :
    Booked good after := by
  cases step with
  | same orders reservations => exact booked.of_same orders reservations
  | moved found orders reservations orderTerms terms booking =>
    exact booked.move projected found orders reservations orderTerms (fun row => (terms row).1)
      fun reservation held fine => moves _ _ _ _ fine (booking reservation held)
  | admitted _ _ checked built unreserved orders reservations =>
    exact booked.admit orders reservations rfl unreserved (admits _ _ _ _ _ _ _ _ _ _ _ _ checked built)

theorem Rebooked.booked (bookable : Bookable ctx good) (projected : before.Projected)
    (booked : Booked good before) (step : Rebooked ctx before call after) : Booked good after := by
  refine step.keeps projected booked bookable.moves ?_
  intro orderId runId poolId intent spec snapshot envelope position portfolio now reservation amounts checked
    built
  have enough := (pretradeCheck_ok checked).2.2.1
  exact bookable.admits _ _ _ _ _ _ (spec.increments_pos.2.2.1.trans_le enough) built

theorem booked_empty : Booked good .empty where
  reservationIds := nodup_nil
  distinct := nodup_nil
  booked := fun _ member => nomatch member
  owned := fun _ member => nomatch member

theorem Reachable.booked (bookable : Bookable ctx good) (reachable : Reachable ctx state) :
    Booked good state :=
  reachable.rule (Booked good) booked_empty fun _ call _ _ projected booked effect =>
    effect.rebooks projected booked (fun _ step => step.booked bookable projected booked)
      fun _ _ held kept step => (step call).booked bookable held kept

structure Booking (order : PaperOrder) (reservation : RiskReservation) : Prop where
  run : reservation.paperRunId = order.paperRunId
  released : reservation.state = .released → order.finalState = .cancelled
  cancelled : order.finalState = .cancelled → reservation.amounts.working = 0

theorem fillRecord_uncancelled {intent : OrderIntent} {fill : PaperFill}
    (loaded : loadIntent order = .ok intent) (moved : fillRecord ctx order intent fill = .ok record) :
    record.state ≠ .cancelled := by
  obtain ⟨-, ⟨complete, -⟩ | ⟨incomplete, -⟩, -⟩ := fillRecord_ok loaded moved
  · rw [complete]
    decide
  · rw [incomplete]
    decide

theorem bookable_booking : Bookable ctx Booking where
  moves := by
    intro order reservation order' reservation' fine move
    cases move with
    | doubted => exact ⟨fine.run, nofun, nofun⟩
    | filled loaded moved =>
      refine ⟨fine.run, fun released => ?_, fun cancelled => ?_⟩
      · simp only at released
        split at released <;> cases released
      · exact absurd cancelled (fillRecord_uncancelled loaded moved)
    | cancelled _ released =>
      exact ⟨fine.run, fun _ => rfl, fun _ => (ReservedAmounts.build_ok released).2.1⟩
  admits := by
    intro orderId runId intent reservation poolId amounts positive built
    exact ⟨rfl, nofun, nofun⟩

variable {order' : PaperOrder} {reservation' : RiskReservation}

theorem BookingMove.uncancelled (move : BookingMove ctx order reservation order' reservation') :
    order.finalState ≠ .cancelled := by
  intro cancelled
  cases move with
  | doubted allowed =>
    rw [cancelled] at allowed
    cases allowed
  | filled loaded moved =>
    have allowed := (fillRecord_ok loaded moved).1
    rw [cancelled] at allowed
    cases allowed
  | cancelled working =>
    rw [cancelled] at working
    exact absurd working (by decide)

def RiskReservation.charge (runId poolId : String) (reservation : RiskReservation) : ℚ :=
  if reservation.paperRunId = runId && reservation.poolId = poolId && reservation.holdsRisk then
    reservation.amounts.working + reservation.amounts.position
  else 0

def PaperState.heldRisk (state : PaperState) (runId poolId : String) : ℚ :=
  ((state.heldReservations runId poolId).map fun reservation =>
    reservation.amounts.working + reservation.amounts.position).sum

theorem heldRisk_eq_total :
    state.heldRisk runId poolId =
      KeyedRows.total (RiskReservation.charge runId poolId) state.reservations := by
  unfold PaperState.heldRisk PaperState.heldReservations KeyedRows.total
  induction state.reservations with
  | nil => rfl
  | cons _ _ ih =>
    rw [map_cons, sum_cons, ← ih, filter_cons]
    unfold RiskReservation.charge
    split
    · rw [map_cons, sum_cons]
    · rw [zero_add]

theorem BookingMove.charge_le (runId poolId : String) (fine : Booking order reservation)
    (move : BookingMove ctx order reservation order' reservation') :
    reservation'.charge runId poolId ≤ reservation.charge runId poolId := by
  have unreleased : reservation.state ≠ .released := fun released =>
    move.uncancelled (fine.released released)
  have held : reservation.holdsRisk = true := by
    revert unreleased
    unfold RiskReservation.holdsRisk
    cases reservation.state <;> decide
  have nonneg := reservation.amounts.nonneg
  have both : reservation'.paperRunId = reservation.paperRunId ∧
      reservation'.poolId = reservation.poolId ∧
      reservation'.amounts.working + reservation'.amounts.position ≤
        reservation.amounts.working + reservation.amounts.position := by
    cases move with
    | doubted => exact ⟨rfl, rfl, le_refl _⟩
    | @filled _ _ _ amounts _ _ converted =>
      refine ⟨rfl, rfl, ?_⟩
      obtain ⟨original, -, -, released⟩ := ReservedAmounts.build_ok converted
      have before := reservation.amounts.conserved
      have after := amounts.conserved
      rw [original, released] at after
      linarith
    | cancelled _ released =>
      refine ⟨rfl, rfl, ?_⟩
      obtain ⟨-, zero, position, -⟩ := ReservedAmounts.build_ok released
      rw [zero, position]
      linarith [nonneg.1]
  obtain ⟨run, pool, less⟩ := both
  unfold RiskReservation.charge
  rw [run, pool, held]
  by_cases mine : reservation.paperRunId = runId ∧ reservation.poolId = poolId
  · simp only [mine, decide_true, Bool.and_true, Bool.true_and, if_true]
    split
    · exact less
    · linarith [nonneg.1, nonneg.2.1]
  · rw [if_neg, if_neg]
    · simpa using mine
    · simp only [Bool.and_eq_true, decide_eq_true_eq, not_and]
      exact fun both => absurd both mine

/-- The sum that a submission compares with the portfolio limit is not rounded
below the exact one. -/
def PortfolioSumKept (ctx : DecimalContext) (state : PaperState) (call : PaperCall) : Prop :=
  match call.request with
  | .submit runId intent spec snapshot envelope poolId =>
    let active := state.activeRisk ctx call.readings.rank runId poolId
    ∀ reservation ∈ (pretradeCheck ctx intent spec snapshot envelope
        (state.positionQuantity runId intent.venue intent.instrumentId) active
        call.readings.now).toOption,
      state.heldRisk runId poolId + reservation.amount ≤ ctx.add active reservation.amount
  | _ => True

structure Limited (state : PaperState) : Prop where
  projected : state.Projected
  pinned : AllPinned state
  booked : Booked Booking state
  reserved : ∀ reservation ∈ state.reservations, ∃ run,
    state.findRun reservation.paperRunId = some run
  within : ∀ runId run envelope, state.findRun runId = some run →
    state.content run.riskConfigArtifactId = some (.riskEnvelope envelope) →
      ∀ poolId, state.heldRisk runId poolId ≤ envelope.maxPortfolioNotional

theorem heldRisk_of_same (reservations : after.reservations = before.reservations) :
    after.heldRisk runId poolId = before.heldRisk runId poolId := by
  rw [heldRisk_eq_total, heldRisk_eq_total, reservations]

theorem heldRisk_eq_zero (nothing : ∀ reservation ∈ state.reservations, reservation.paperRunId ≠ runId) :
    state.heldRisk runId poolId = 0 := by
  rw [heldRisk_eq_total]
  refine total_eq_zero fun reservation member => ?_
  rw [RiskReservation.charge, if_neg]
  simp [nothing reservation member]

theorem Rebooked.heldRisk_le (booked : Booked Booking before)
    (step : Rebooked ctx before call after) (runId poolId : String) :
    after.heldRisk runId poolId ≤ before.heldRisk runId poolId ∨
      ∃ intent spec snapshot envelope reservation run,
        call.request = .submit runId intent spec snapshot envelope poolId ∧
        before.findRun runId = some run ∧
        before.content run.riskConfigArtifactId = some (.riskEnvelope envelope) ∧
        pretradeCheck ctx intent spec snapshot envelope
          (before.positionQuantity runId intent.venue intent.instrumentId)
          (before.activeRisk ctx call.readings.rank runId poolId) call.readings.now =
            .ok reservation ∧
        after.heldRisk runId poolId = before.heldRisk runId poolId + reservation.amount := by
  cases step with
  | same _ reservations => exact .inl (heldRisk_of_same reservations).le
  | moved found _ reservations _ _ moves =>
    left
    obtain ⟨reservation, reserved, fine⟩ := booked.booked _ (find_mem found)
    have less := (moves reservation reserved).charge_le runId poolId fine
    rw [heldRisk_eq_total, heldRisk_eq_total, reservations,
      total_update _ booked.distinct reserved]
    linarith
  | @admitted _ _ mine pool _ intent spec snapshot envelope reservation _ run found pinned checked
      built _ _ reservations =>
    by_cases same : mine = runId ∧ pool = poolId
    · obtain ⟨rfl, rfl⟩ := same
      refine .inr ⟨intent, spec, snapshot, envelope, reservation, run, rfl, found, pinned, checked, ?_⟩
      obtain ⟨-, working, position, -⟩ := ReservedAmounts.build_ok built
      rw [heldRisk_eq_total, heldRisk_eq_total, reservations, total_insert]
      simp [RiskReservation.charge, heldReservation, RiskReservation.holdsRisk, acknowledgedOrder,
        working, position]
    · left
      rw [heldRisk_eq_total, heldRisk_eq_total, reservations, total_insert,
        RiskReservation.charge, if_neg, add_zero]
      intro chosen
      simp only [heldReservation, acknowledgedOrder, Bool.and_eq_true] at chosen
      exact same ⟨of_decide_eq_true chosen.1.1, of_decide_eq_true chosen.1.2⟩

theorem Rebooked.reserved (reserved : ∀ reservation ∈ before.reservations, ∃ run,
      before.findRun reservation.paperRunId = some run) (step : Rebooked ctx before call after) :
    ∀ reservation ∈ after.reservations, ∃ run, before.findRun reservation.paperRunId = some run := by
  intro reservation member
  cases step with
  | same _ reservations =>
    rw [reservations] at member
    exact reserved reservation member
  | moved _ _ reservations _ terms =>
    rw [reservations] at member
    rcases mem_update member with ⟨old, held, -, rfl⟩ | ⟨older, -⟩
    · rw [(terms old).2]
      exact reserved old held
    · exact reserved reservation older
  | admitted found _ _ _ _ _ reservations =>
    rw [reservations] at member
    rcases mem_added member with older | newest
    · exact reserved reservation older
    · rw [newest]
      exact ⟨_, found⟩

/-- One commit of an admissible call, or one that follows an emergency stop. -/
theorem Limited.step (limited : Limited before) (projected : after.Projected)
    (evolves : Evolves before after) (step : Rebooked ctx before call after)
    (origin : ∀ runId run, after.findRun runId = some run → (∃ old, before.findRun runId = some old) ∨
      (before.findRun runId = none ∧ NewRun before after run))
    (kept : PortfolioSumKept ctx before call) : Limited after where
  projected := projected
  pinned := limited.pinned.step evolves origin
  booked := step.booked bookable_booking limited.projected limited.booked
  reserved := by
    intro reservation member
    obtain ⟨run, found⟩ := step.reserved limited.reserved reservation member
    obtain ⟨later, final, -⟩ := evolves.runs found
    exact ⟨later, final⟩
  within := by
    intro runId run envelope found pinned poolId
    rcases origin runId run found with ⟨old, held⟩ | ⟨missing, new⟩
    · obtain ⟨_, final, same⟩ := evolves.runs held
      rw [found] at final
      cases final
      obtain ⟨_, _, pins⟩ := limited.pinned runId old held
      have still := (pins.later evolves same).risk
      rw [pinned] at still
      cases still
      rcases step.heldRisk_le limited.booked runId poolId with less |
        ⟨intent, spec, snapshot, asked, reservation, again, requested, listed, agreed, checked, more⟩
      · exact less.trans (limited.within runId old envelope held pins.risk poolId)
      -- The submission compared the sum with the limit of this envelope.
      · rw [held] at listed
        cases listed
        rw [pins.risk] at agreed
        cases agreed
        have room := (pretradeCheck_ok checked).2.2.2.2
        simp only [PortfolioSumKept, requested, checked] at kept
        rw [more]
        exact (kept reservation rfl).trans room
    · rw [heldRisk_of_same new.reservations, heldRisk_eq_zero]
      · exact envelope.limits_pos.2.2.le
      · intro reservation member same
        obtain ⟨_, listed⟩ := limited.reserved reservation member
        rw [same, missing] at listed
        cases listed

theorem Effect.limited (limited : Limited before) (effect : Effect ctx before call answer after)
    (kept : PortfolioSumKept ctx before call) : Limited after := by
  refine effect.preserves Limited limited ?_ ?_
  · intro answer after commit
    exact limited.step (commit.projected limited.projected) commit.evolves commit.rebooked
      (fun _ _ found => commit.run_origin found) kept
  · intro actor latchId first second held step
    have restarts : Rebooked ctx first { call with request := .restart "" "" } second := step.rebooked
    exact held.step (step.projected held.projected) step.evolves restarts
      (fun _ _ found => .inl (step.run_origin found)) trivial

theorem limited_empty : Limited .empty where
  projected := projected_empty
  pinned := nofun
  booked := booked_empty
  reserved := fun _ member => nomatch member
  within := nofun

/-- In every state that calls can reach: the working and position amounts that a
pool of a run holds are within the portfolio limit of the run, provided that no
submission compared a sum rounded below the exact one; the amounts of a
reservation are nonnegative and add up to the original one; and the reservation
of a cancelled order has nothing working. -/
theorem reservations_stay_within_limit (ctx : DecimalContext) (calls : List PaperCall) :
    let state := run (handle ctx) .empty calls
    (Along (handle ctx) (PortfolioSumKept ctx) .empty calls →
      ∀ runId run envelope, state.findRun runId = some run →
        state.content run.riskConfigArtifactId = some (.riskEnvelope envelope) →
        ∀ poolId, state.heldRisk runId poolId ≤ envelope.maxPortfolioNotional) ∧
    (∀ reservation ∈ state.reservations,
      reservation.amounts.working + reservation.amounts.position + reservation.amounts.released =
        reservation.amounts.original ∧
      0 ≤ reservation.amounts.working ∧ 0 ≤ reservation.amounts.position ∧
        0 ≤ reservation.amounts.released) ∧
    ∀ order ∈ state.orders, order.finalState = .cancelled → ∃ reservation,
      state.findReservation order.reservationId = some reservation ∧ reservation.amounts.working = 0 := by
  intro state
  refine ⟨fun along => ?_, ?_, ?_⟩
  · have limited : Limited state := run_rule projected_empty limited_empty
      (fun _ _ _ _ _ limited kept effect => effect.limited limited kept) along
    exact limited.within
  · exact fun reservation _ => ⟨reservation.amounts.conserved, reservation.amounts.nonneg⟩
  · intro order member cancelled
    have reachable : Reachable ctx state := ⟨calls, rfl⟩
    obtain ⟨reservation, found, fine⟩ := (reachable.booked bookable_booking).booked order member
    exact ⟨reservation, found, fine.cancelled cancelled⟩

namespace SmallVenue

def vast : RiskEnvelope := envelope (10 ^ 28) (by norm_num)

def unitQuotes : MarketSnapshot :=
  ⟨10, 1, 1, 100, .f1TradeBbo, true, none, one_lot, whole_share, book_nonneg⟩

def overHalf : List PaperCall :=
  opening vast ++
    [byWorker 3 "3" (.submit "RUN" (intent "a" .buy 5000000000000000000000000001) spot unitQuotes vast
        "pool"),
      byWorker 4 "4" (.submit "RUN" (intent "b" .buy 5000000000000000000000000002) spot unitQuotes vast
        "pool")]

end SmallVenue

open SmallVenue in
/-- The sum 10^28 + 3 is rounded to the limit 10^28 and passes. -/
theorem rounded_sum_passes_limit :
    let state := run (handle prec28) .empty overHalf
    ∃ run ∈ state.runs, state.content run.riskConfigArtifactId = some (.riskEnvelope vast) ∧
      vast.maxPortfolioNotional < state.heldRisk run.paperRunId "pool" := by
  decide +kernel

end Liki.Paper
