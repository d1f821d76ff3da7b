import Liki.Paper.SafetyLatches

/-! An order whose venue state is unknown. The order state machine lets it be
cancelled, rejected or expire, but no operation of the service makes such a
move: a cancellation and an emergency stop pass it over, a reconciliation only
reads it. What is left is a fill, and an order the venue never accepted gets
none. -/
namespace Liki.Paper
open DecimalArithmetic Checks CallSystem Finance PaperState KeyedRows

variable {ctx : DecimalContext} {before after : PaperState} {call : PaperCall} {answer : PaperAnswer}
  {order : PaperOrder} {orderId : String}

theorem findOrder_update_other {state : PaperState} (found : state.findOrder orderId = some order)
    (moved : state.findOrder other.paperOrderId = some other) (apart : other ≠ order)
    (kept : ∀ row, row.paperOrderId = other.paperOrderId →
      (change row).paperOrderId = other.paperOrderId) :
    (state.updateOrder other.paperOrderId change).findOrder orderId = some order := by
  have differ : orderId ≠ other.paperOrderId := by
    rintro rfl
    exact apart (Option.some.inj (moved.symm.trans found))
  rw [PaperState.findOrder, PaperState.updateOrder, find_update_other kept differ]
  exact found

theorem Commit.stays_unknown (commit : Commit ctx before call answer after)
    (found : before.findOrder orderId = some order)
    (unknown : order.finalState = .unknownReconciling) (quiet : after.fills = before.fills) :
    after.findOrder orderId = some order := by
  cases commit with
  | started => exact found
  | reconciled => exact found
  | restarted => exact found
  | submitted =>
    exact find_append_some found _
  | doubted marked allowed =>
    have named := find_key marked
    subst named
    refine findOrder_update_other found marked ?_ fun _ named => named
    rintro rfl
    rw [unknown] at allowed
    exact absurd allowed (by decide)
  | filled => exact absurd (List.append_right_eq_self.mp quiet) (List.cons_ne_nil _ _)
  | cancelled listed known =>
    have named := find_key listed
    subst named
    refine findOrder_update_other found listed ?_ fun _ named => named
    rintro rfl
    exact known unknown
  | stopped => exact found
  | latched => exact found
  | unlatched => exact found

theorem Aftermath.stays_unknown {actor : Identity} (step : Aftermath ctx actor latchId before after)
    (found : before.findOrder orderId = some order)
    (unknown : order.finalState = .unknownReconciling) : after.findOrder orderId = some order := by
  cases step with
  | cleared listed working =>
    refine findOrder_update_other found listed ?_ fun _ named => named
    rintro rfl
    rw [unknown] at working
    exact absurd working (by decide)
  | fenced => exact found

structure Waiting (start : PaperState) (order : PaperOrder) (state : PaperState) : Prop where
  grows : ∃ more, state.fills = start.fills ++ more
  found : state.fills = start.fills → state.findOrder order.paperOrderId = some order
  inactive : state.fills = start.fills → RunActive state order.paperRunId →
    RunActive start order.paperRunId

theorem unfilled_between {Row : Type} {first second third : List Row}
    (earlier : ∃ more, second = first ++ more) (later : ∃ more, third = second ++ more)
    (same : third = first) : second = first ∧ third = second := by
  obtain ⟨_, rfl⟩ := earlier
  obtain ⟨_, rfl⟩ := later
  rw [List.append_assoc, List.append_right_eq_self, List.append_eq_nil_iff] at same
  obtain ⟨rfl, rfl⟩ := same
  exact ⟨List.append_nil _, List.append_nil _⟩

theorem Effect.stays_unknown (effect : Effect ctx before call answer after)
    (found : before.findOrder orderId = some order)
    (unknown : order.finalState = .unknownReconciling) (quiet : after.fills = before.fills) :
    after.findOrder orderId = some order := by
  cases effect with
  | replayed => exact found
  | committed commit => exact commit.stays_unknown found unknown quiet
  | @latched _ _ _ _ _ middle _ commit follows clear fenced =>
    have start : middle.findOrder orderId = some order := by
      cases commit with
      | latched => exact found
    clear clear fenced quiet
    induction follows with
    | refl => exact start
    | tail _ step ih => exact step.stays_unknown ih unknown

variable {start : PaperState}

theorem Effect.waiting (unknown : order.finalState = .unknownReconciling)
    (waiting : Waiting start order before) (effect : Effect ctx before call answer after) :
    Waiting start order after where
  grows := appended_trans waiting.grows effect.evolves.fills
  found := by
    intro quiet
    obtain ⟨first, second⟩ := unfilled_between waiting.grows effect.evolves.fills quiet
    exact effect.stays_unknown (waiting.found first) unknown second
  inactive := by
    intro quiet active
    obtain ⟨first, _⟩ := unfilled_between waiting.grows effect.evolves.fills quiet
    rcases effect.activates active with was | ⟨-, -, resolved⟩
    · exact waiting.inactive first was
    -- A reconciliation that activates the run sees no unknown order of it.
    · have held := find_mem (waiting.found first)
      exact absurd unknown (resolved order held rfl)

theorem waits (reachable : Reachable ctx start) (member : order ∈ start.orders)
    (unknown : order.finalState = .unknownReconciling) (calls : List PaperCall) :
    Waiting start order (run (handle ctx) start calls) := by
  have projected := reachable.projected
  refine run_rule projected ?_ (fun state call answer after _ kept _ effect =>
    effect.waiting unknown kept) (along_of_forall (fun _ _ => trivial) _ calls)
  exact { grows := ⟨[], by simp⟩
          found := fun _ => find_of_mem projected.orderIds member
          inactive := fun _ => id }

/-- From every reachable state with an unknown order, every run of operations
that records no fill leaves the order unknown, and its run does not become
active in it. -/
theorem unknown_order_never_resolved (ctx : DecimalContext) (earlier calls : List PaperCall)
    (order : PaperOrder) :
    let state := run (handle ctx) .empty earlier
    let final := run (handle ctx) state calls
    order ∈ state.orders → order.finalState = .unknownReconciling → final.fills = state.fills →
    final.findOrder order.paperOrderId = some order ∧ order.finalState.terminal = false ∧
      (RunActive final order.paperRunId → RunActive state order.paperRunId) := by
  intro state final member unknown quiet
  have waiting := waits ⟨earlier, rfl⟩ member unknown calls
  refine ⟨waiting.found quiet, ?_, waiting.inactive quiet⟩
  rw [unknown]
  rfl

namespace SmallVenue

def attempts : List PaperCall :=
  [byWorker 6 "6" (.cancel "PORD-3" "cancel"), stoppingCall,
    byWorker 7 "7" (.reconcile "RUN" "again" true)]

end SmallVenue

open SmallVenue in
/-- Neither a cancellation, nor a stop, nor a reconciliation resolves the doubtful
order of the small venue, and its run is not active after them. -/
theorem unknown_order_never_resolved_small :
    let state := run (handle prec28) .empty oneDoubtful
    let final := run (handle prec28) state attempts
    ∃ order ∈ state.orders, final.findOrder "PORD-3" = some order ∧
      order.finalState.terminal = false := by
  intro state final
  have held : ∃ order ∈ state.orders, order.paperOrderId = "PORD-3" ∧
      order.finalState = .unknownReconciling := by decide +kernel
  obtain ⟨order, member, named, unknown⟩ := held
  obtain ⟨found, lasting, -⟩ := unknown_order_never_resolved prec28 oneDoubtful attempts order member
    unknown (by decide +kernel)
  exact ⟨order, member, named ▸ found, lasting⟩

open SmallVenue in
/-- The doubtful order of the small venue stays unresolved whatever is called
without a fill. -/
theorem unknown_order_blocks :
    let state := run (handle prec28) .empty oneDoubtful
    ¬∃ calls : List PaperCall, (run (handle prec28) state calls).fills = state.fills ∧
      ∃ order, (run (handle prec28) state calls).findOrder "PORD-3" = some order ∧
        order.finalState.terminal = true := by
  intro state
  rintro ⟨calls, quiet, order, found, terminal⟩
  have held : ∃ order ∈ state.orders, order.paperOrderId = "PORD-3" ∧
      order.finalState = .unknownReconciling := by decide +kernel
  obtain ⟨_, member, named, unknown⟩ := held
  have still := (waits ⟨oneDoubtful, rfl⟩ member unknown calls).found quiet
  rw [named, found] at still
  cases still
  rw [unknown] at terminal
  cases terminal

end Liki.Paper
