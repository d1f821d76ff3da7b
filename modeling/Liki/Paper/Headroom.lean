import Liki.Paper.RecordedFills
import Liki.Paper.Reservations
import Liki.Paper.SafetyLatches

/-! What a pool is charged once trading is over. A fill turns a part of a
reservation into a position amount, and nothing ever takes it back: the position
amount belongs to the order, while the exposure belongs to the instrument. So
with no order working a pool is free again exactly when nothing was filled. -/
namespace Liki.Paper
open DecimalArithmetic Checks CallSystem Finance PaperState DecimalContext KeyedRows

variable {ctx : DecimalContext} {state : PaperState}

structure Converted (order : PaperOrder) (reservation : RiskReservation) : Prop where
  quantity_pos : 0 < order.quantity
  position : 0 < reservation.amounts.position ↔ 0 < order.filledQuantity
  filled : order.finalState = .filled → 0 < order.filledQuantity
  released : reservation.state = .released → ¬0 < reservation.amounts.position

theorem filledAmounts_pos (keeps : ctx.KeepsDigits) (some : 0 < filled) (positive : 0 < quantity)
    (ok : filledAmounts ctx amounts filled quantity = .ok converted) : 0 < converted.position := by
  rw [(ReservedAmounts.build_ok ok).2.2.1, mul, round_pos_iff keeps]
  refine mul_pos amounts.original_pos ?_
  rw [div, round_pos_iff keeps]
  exact div_pos some positive

theorem bookable_converted (keeps : ctx.KeepsDigits) : Bookable ctx Converted where
  moves := by
    intro order reservation order' reservation' fine move
    cases move with
    | doubted => exact ⟨fine.quantity_pos, fine.position, nofun, nofun⟩
    | filled loaded moved converted =>
      have some := fillRecord_pos fine.quantity_pos loaded moved
      have position := filledAmounts_pos keeps some fine.quantity_pos converted
      refine ⟨fine.quantity_pos, iff_of_true position some, fun _ => some, fun released => ?_⟩
      simp only at released
      split at released <;> cases released
    | cancelled _ released =>
      have position := (ReservedAmounts.build_ok released).2.2.1
      refine ⟨fine.quantity_pos, ?_, nofun, fun freed held => ?_⟩
      · simp only [position]
        exact fine.position
      · simp only [if_pos held] at freed
        cases freed
  admits := by
    intro orderId runId intent reservation poolId amounts positive built
    refine ⟨positive, ?_, nofun, nofun⟩
    simp [heldReservation, acknowledgedOrder, (ReservedAmounts.build_ok built).2.2.1]

def PaperState.ChargedTo (state : PaperState) (poolId : String) (order : PaperOrder) : Prop :=
  ∃ reservation, state.findReservation order.reservationId = some reservation ∧
    reservation.poolId = poolId

theorem activeRisk_eq_zero (keeps : ctx.KeepsDigits) :
    state.activeRisk ctx rank runId poolId = 0 ↔
      ∀ reservation ∈ state.heldReservations runId poolId,
        reservation.amounts.working = 0 ∧ reservation.amounts.position = 0 := by
  rw [PaperState.activeRisk, sum_eq_zero_iff keeps]
  · simp only [List.forall_mem_map, List.mem_insertionSort]
    refine forall₂_congr fun reservation member => ?_
    have nonneg := reservation.amounts.nonneg
    rw [add, round_eq_zero_iff keeps,
      add_eq_zero_iff_of_nonneg nonneg.1 nonneg.2.1]
  · simp only [List.forall_mem_map, List.mem_insertionSort]
    intro reservation member
    exact round_nonneg keeps
      (add_nonneg reservation.amounts.nonneg.1 reservation.amounts.nonneg.2.1)

/-- In every state that calls can reach with no order of the run working, the
active risk that a submission charges for a pool of the run is zero if and only if
no order charged to the pool was ever filled. -/
theorem headroom_restored_iff_unfilled (ctx : DecimalContext) (keeps : ctx.KeepsDigits)
    (calls : List PaperCall) (runId : String) :
    let state := run (handle ctx) .empty calls
    (∀ order ∈ state.orders, order.paperRunId = runId → ¬order.Working) →
    ∀ rank poolId, state.activeRisk ctx rank runId poolId = 0 ↔
      ∀ order ∈ state.orders, order.paperRunId = runId → state.ChargedTo poolId order →
        ∀ row ∈ state.fills, row.paperOrderId ≠ order.paperOrderId := by
  intro state closed rank poolId
  have reachable : Reachable ctx state := ⟨calls, rfl⟩
  have bookings := reachable.booked bookable_booking
  have conversions := reachable.booked (bookable_converted keeps)
  have fillsKnown := reachable.fillsKnown
  rw [activeRisk_eq_zero keeps]
  constructor
  · intro free order member mine charged row recorded named
    obtain ⟨reservation, found, pool⟩ := charged
    obtain ⟨again, same, fine⟩ := conversions.booked order member
    obtain ⟨_, also, booking⟩ := bookings.booked order member
    rw [found] at same also
    cases same
    cases also
    have filled := (fillsKnown.filled order member).mpr ⟨row, recorded, named⟩
    have position := fine.position.mpr filled
    have unreleased : reservation.state ≠ .released := fun released => fine.released released position
    have held : reservation ∈ state.heldReservations runId poolId := by
      refine List.mem_filter.mpr ⟨find_mem found, ?_⟩
      have holds : reservation.holdsRisk = true := by
        revert unreleased
        unfold RiskReservation.holdsRisk
        cases reservation.state <;> decide
      simp [holds, pool, booking.run, mine]
    exact absurd (free reservation held).2 position.ne'
  · intro unfilled reservation held
    obtain ⟨listed, chosen⟩ := List.mem_filter.mp held
    simp only [Bool.and_eq_true, decide_eq_true_eq] at chosen
    obtain ⟨order, member, same, fine⟩ := conversions.owner listed
    obtain ⟨_, found, booking⟩ := bookings.booked order member
    rw [same, PaperState.findReservation, find_of_mem bookings.distinct listed] at found
    cases found
    have mine : order.paperRunId = runId := booking.run.symm.trans chosen.1.1
    have charged : state.ChargedTo poolId order := by
      refine ⟨reservation, ?_, chosen.1.2⟩
      rw [same]
      exact find_of_mem bookings.distinct listed
    have none : ¬0 < order.filledQuantity := by
      intro some
      obtain ⟨row, recorded, named⟩ := (fillsKnown.filled order member).mp some
      exact unfilled order member mine charged row recorded named
    have cancelled : order.finalState = .cancelled := by
      have ordinary := reachable.ordinary order member
      have idle := closed order member mine
      have unfinished : order.finalState ≠ .filled := fun filled => none (fine.filled filled)
      revert ordinary idle unfinished
      unfold PaperOrder.Ordinary PaperOrder.Working
      cases order.finalState <;> decide
    refine ⟨booking.cancelled cancelled, le_antisymm ?_ reservation.amounts.nonneg.2.1⟩
    exact not_lt.mp fun position => none (fine.position.mp position)

open SmallVenue in
/-- The law at the round trip: with a fill on record the pool is not free. -/
theorem headroom_restored_iff_unfilled_round_trip :
    let state := run (handle prec28) .empty roundTrip
    (state.activeRisk prec28 (fun _ => 0) "RUN" "pool" = 0 ↔
      ∀ order ∈ state.orders, order.paperRunId = "RUN" → state.ChargedTo "pool" order →
        ∀ row ∈ state.fills, row.paperOrderId ≠ order.paperOrderId) :=
  headroom_restored_iff_unfilled prec28 (by simp [DecimalContext.KeepsDigits, prec28]) roundTrip "RUN"
    (by decide +kernel) (fun _ => 0) "pool"

open SmallVenue in
/-- After the round trip everything is flat and nothing works, and the pool is
still charged for both orders. -/
theorem closed_positions_keep_charging :
    let state := run (handle prec28) .empty roundTrip
    (∀ position ∈ state.positions, position.quantity = 0) ∧
      (∀ order ∈ state.orders, ¬order.Working) ∧
      state.activeRisk prec28 (fun _ => 0) "RUN" "pool" = 160 := by
  decide +kernel

end Liki.Paper
