import Liki.Paper.PaperService

/-! The emergency stop as the database runs it. Owners and operators write the
paper tables only through the trigger `safety_only_update`, which stops every
update of an order, a run or a reservation that does not reduce risk; and a new
latch has to meet the constraints of its table. Here each UPDATE of the stop is
checked by the trigger before it is made. -/
namespace Liki.Paper
open DecimalArithmetic Checks Finance PaperState

/-- `raw_venue_semantics_json`: an object of texts. -/
abbrev VenueSemantics := List (String × String)

/-- `semantics || more`. -/
def VenueSemantics.merge (semantics more : VenueSemantics) : VenueSemantics :=
  more.foldl (fun merged entry => KeyedRows.upsert Prod.fst entry merged) semantics

/-- `semantics - keys`. -/
def VenueSemantics.without (keys : List String) (semantics : VenueSemantics) : VenueSemantics :=
  semantics.filter fun entry => entry.1 ∉ keys

def safetyKeys : List String := ["safety_latch_id", "cancel_reason"]

/-- A row of `paper_orders` with its venue semantics. -/
abbrev OrderRow := PaperOrder × VenueSemantics

/-- The updates of an order that pass: of its columns the state changes, to one that
adds no risk, and of its semantics the keys of safety actions. -/
def OrderReduced (old new : OrderRow) : Prop :=
  { new.1 with finalState := old.1.finalState } = old.1 ∧
    (new.2.without safetyKeys).Perm (old.2.without safetyKeys) ∧
    new.1.finalState ∈ [OrderState.cancelled, .cancelPending, .unknownReconciling]

instance : DecidableRel OrderReduced := fun _ _ => inferInstanceAs (Decidable (_ ∧ _ ∧ _))

/-- The updates of a run that pass: only its status changes, to one without trading. -/
def RunReduced (old new : PaperRun) : Prop :=
  { new with status := old.status } = old ∧ new.status ∈ [PaperRunStatus.stopped, .reconcileOnly]

instance : DecidableRel RunReduced := fun _ _ => inferInstanceAs (Decidable (_ ∧ _))

/-- The updates of a reservation that pass: its working amount does not grow, its
released amount does not shrink, and besides these only its state changes. -/
def ReservationReduced (old new : RiskReservation) : Prop :=
  { new with amounts := old.amounts, state := old.state } = old ∧
    (new.amounts.original = old.amounts.original ∧ new.amounts.position = old.amounts.position) ∧
    new.amounts.working ≤ old.amounts.working ∧ old.amounts.released ≤ new.amounts.released

instance : DecidableRel ReservationReduced := fun _ _ => inferInstanceAs (Decidable (_ ∧ _ ∧ _))

/-- `liki_restrict_safety_mutation` before an UPDATE of these rows. -/
def restrictSafetyMutation {Row : Type} (actor : Identity) (reduced : Row → Row → Prop)
    [DecidableRel reduced] (rows : List Row) (change : Row → Row) : Except ServiceError Unit :=
  refuseIf (actor.role ∈ [.owner, .operator] ∧ ∃ row ∈ rows, ¬reduced row (change row))
    (.domain "SAFETY_ACTION_MUST_REDUCE_RISK")

/-- What a safety latch makes of a reservation. -/
def RiskReservation.releaseWorking (amounts : ReservedAmounts) (reservation : RiskReservation) :
    RiskReservation :=
  { reservation with amounts, state := if 0 < amounts.position then .converted else .released }

/-- What a safety latch makes of an order. -/
def PaperOrder.cancel (order : PaperOrder) : PaperOrder := { order with finalState := .cancelled }

def cancelRow (latchId : String) (row : OrderRow) : OrderRow :=
  (row.1.cancel, row.2.merge [("safety_latch_id", latchId), ("cancel_reason", "EMERGENCY_STOP")])

/-- `_cancel_for_safety_latch` with its two UPDATEs checked. The tables leave the
venue semantics out, so what the rows hold is given beside them. -/
def cancelUnderTrigger (ctx : DecimalContext) (semantics : String → VenueSemantics) (actor : Identity)
    (latchId : String) (state : PaperState) (order : PaperOrder) : Except ServiceError PaperState := do
  let reservation ← expect (state.findReservation order.reservationId)
    (.domain "PAPER_RESERVATION_PROJECTION_MISSING")
  let amounts ← cancelledAmounts ctx reservation.amounts
  restrictSafetyMutation actor ReservationReduced
    (state.reservations.filter fun row => row.reservationId = order.reservationId)
    (RiskReservation.releaseWorking amounts)
  restrictSafetyMutation actor OrderReduced
    ((state.orders.filter fun row => row.paperOrderId = order.paperOrderId).map fun row =>
      (row, semantics row.paperOrderId))
    (cancelRow latchId)
  cancelForSafetyLatch ctx actor latchId state order

def fenceUnderTrigger (actor : Identity) (latchId : String) (state : PaperState) (run : PaperRun) :
    Except ServiceError PaperState := do
  restrictSafetyMutation actor RunReduced
    (state.runs.filter fun row => row.paperRunId = run.paperRunId)
    (fun row => { row with status := .reconcileOnly })
  fenceRun actor latchId state run

/-- The CHECK and the unique index of `paper_safety_latches` on a new row. -/
def checkLatch (latches : List SafetyLatch) (latch : SafetyLatch) : Except ServiceError Unit := do
  refuseIf (¬((latch.scope = .global ∧ latch.scopeId = none) ∨
    (latch.scope = .venue ∧ latch.scopeId ≠ none))) (.constraint "scope_type")
  refuseIf (∃ other ∈ latches, other.active ∧ other.scope = latch.scope ∧
    other.scopeId.getD "" = latch.scopeId.getD "") (.constraint "paper_safety_latches_active_scope")

/-- `emergency_stop` with the checks of the database. -/
def emergencyStopUnderTrigger (ctx : DecimalContext) (semantics : String → VenueSemantics)
    (state : PaperState) (actor : Identity) (readings : Readings) (stopping : StopRequest)
    (operationKey : String) : Outcome := do
  refuseIf (stopping.scope = .strategy) (.domain "GLOBAL_STOP_SCOPE_REQUIRED")
  stopAuthority actor stopping
  let aggregateId := latchAggregate stopping.scope stopping.scopeId
  match ← state.priorOperation operationKey ["PAPER_GLOBAL_EMERGENCY_STOP"] aggregateId with
  | some prior =>
    let recorded ← expect prior.request.state.latch? .typeError
    refuseIf (recorded.request ≠ some stopping) (.domain "IDEMPOTENCY_CONFLICT")
    return (.id recorded.safetyLatchId, state)
  | none =>
    refuseIf (∃ latch ∈ state.latches, latch.active ∧ latch.scope = stopping.scope ∧
      latch.scopeId = stopping.scopeId) (.domain "PAPER_STOP_ALREADY_ACTIVE")
    let latchId := readings.uid "SLATCH"
    -- `transition` asks for every key; the keys of the loops below name a latch and a row.
    refuseIf (operationKey = "") (.domain "INVALID_TRANSITION")
    let state ← state.transition actor .stop operationKey
      (latchedRequest actor stopping latchId (state.store.version "paper_safety_latch" aggregateId))
      "paper.stop"
    refuseIf (state.findLatch latchId ≠ none) (.constraint "safety_latch_id")
    checkLatch state.latches (safetyLatch latchId stopping)
    let latched : PaperState := { state with latches := state.latches ++ [safetyLatch latchId stopping] }
    let cleared ← (latched.coveredOrders stopping.scope stopping.scopeId).foldlM
      (cancelUnderTrigger ctx semantics actor latchId) latched
    if stopping.scope = .global then
      let fenced ← (cleared.runs.filter fun run => run.status = .active).foldlM
        (fenceUnderTrigger actor latchId) cleared
      return (.id latchId, fenced)
    else return (.id latchId, cleared)

variable {ctx : DecimalContext} {semantics : String → VenueSemantics} {actor : Identity}
  {latchId : String} {state : PaperState} {after : PaperState}

theorem cancelUnderTrigger_ok
    (ok : cancelUnderTrigger ctx semantics actor latchId state order = .ok after) :
    cancelForSafetyLatch ctx actor latchId state order = .ok after := by
  simp only [cancelUnderTrigger, bind_ok] at ok
  obtain ⟨-, -, -, -, -, -, -, -, done⟩ := ok
  exact done

theorem fenceUnderTrigger_ok (ok : fenceUnderTrigger actor latchId state run = .ok after) :
    fenceRun actor latchId state run = .ok after := by
  simp only [fenceUnderTrigger, bind_ok] at ok
  obtain ⟨-, -, done⟩ := ok
  exact done

/-- A stop that the database lets through is the stop of the service. -/
theorem emergencyStopUnderTrigger_ok
    (ok : emergencyStopUnderTrigger ctx semantics state actor readings stopping operationKey =
      .ok result) : emergencyStop ctx state actor readings stopping operationKey = .ok result := by
  simp only [emergencyStopUnderTrigger, bind_ok] at ok
  obtain ⟨⟨⟩, covers, ⟨⟩, authority, prior, noted, ok⟩ := ok
  simp only [emergencyStop, bind_ok]
  refine ⟨_, covers, _, authority, prior, noted, ?_⟩
  cases prior with
  | some => exact ok
  | none =>
    simp only [bind_ok] at ok ⊢
    obtain ⟨⟨⟩, inactive, -, -, moved, advanced, ⟨⟩, absent, -, -, cleared, clearing, ok⟩ := ok
    refine ⟨_, inactive, moved, advanced, _, absent, cleared, ?_, ?_⟩
    · exact foldlM_ok_mono (fun _ _ _ => cancelUnderTrigger_ok) clearing
    · split at ok
      · rename_i everywhere
        simp only [bind_ok] at ok
        obtain ⟨fenced, fencing, done⟩ := ok
        rw [if_pos everywhere, bind_ok]
        exact ⟨fenced, foldlM_ok_mono (fun _ _ _ => fenceUnderTrigger_ok) fencing, done⟩
      · rename_i venue
        rw [if_neg venue]
        exact ok

theorem restrictSafetyMutation_passes {Row : Type} {reduced : Row → Row → Prop} [DecidableRel reduced]
    {rows : List Row} {change : Row → Row} (passes : ∀ row ∈ rows, reduced row (change row)) :
    restrictSafetyMutation actor reduced rows change = .ok () := by
  rw [restrictSafetyMutation, refuseIf_ok]
  rintro ⟨-, row, member, raised⟩
  exact raised (passes row member)

theorem VenueSemantics.without_merge {semantics more : VenueSemantics}
    (dropped : ∀ entry ∈ more, entry.1 ∈ keys) :
    (semantics.merge more).without keys = semantics.without keys := by
  induction more generalizing semantics with
  | nil => rfl
  | cons entry _ ih =>
    have first : entry.1 ∈ keys := dropped entry List.mem_cons_self
    rw [VenueSemantics.merge, List.foldl_cons]
    refine (ih fun other member => dropped other (List.mem_cons_of_mem _ member)).trans ?_
    refine KeyedRows.filter_upsert entry fun other same => ?_
    simp only [same, first, not_true_eq_false, decide_false]

theorem orderReduced_cancelRow (row : OrderRow) : OrderReduced row (cancelRow latchId row) := by
  refine ⟨rfl, ?_, by simp [cancelRow, PaperOrder.cancel]⟩
  rw [cancelRow, VenueSemantics.without_merge]
  simp [safetyKeys]

theorem runReduced_fence (run : PaperRun) : RunReduced run { run with status := .reconcileOnly } :=
  ⟨rfl, by simp⟩

theorem reservationReduced_release (released : reservation.amounts.released = 0)
    (cancelled : cancelledAmounts ctx reservation.amounts = .ok amounts) :
    ReservationReduced reservation (reservation.releaseWorking amounts) := by
  obtain ⟨original, working, position, -⟩ := ReservedAmounts.build_ok cancelled
  refine ⟨rfl, ⟨original, position⟩, ?_, ?_⟩
  · exact working.trans_le reservation.amounts.nonneg.1
  · rw [released]
    exact amounts.nonneg.2.2

end Liki.Paper
