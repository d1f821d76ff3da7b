import Liki.Finance.Pretrade

/-! Whole runs of an order record. Every transition accepts a fill quantity, so the table alone does
not tie the quantity to the state: what holds of every run is that the quantity grows within the
order, that a filled order is complete and that no terminal state is left. The rest of the account
holds of the runs that report quantities only with the states that mean a fill; there an order that
was amended, or lost sight of, can still be rejected with a part of it filled. -/
namespace Liki.Finance
open DecimalArithmetic Checks List DecimalContext

namespace OrderState

/-- The states before the venue has answered or fallen silent. -/
def early (state : OrderState) : Bool := state ∈ [.intent, .pretradeValidated, .submitted]

theorem early_of_target {source target : OrderState} (follows : target ∈ source.transitions)
    (early : target.early = true) : source.early = true := by
  cases source <;> cases target <;> revert follows early <;> decide

theorem target_of_early {source target : OrderState} (follows : target ∈ source.transitions)
    (early : source.early = true) : target.early = true ∨ target = .rejected ∨
      target = .acknowledged ∨ target = .unknownReconciling := by
  cases source <;> cases target <;> revert follows early <;> decide

theorem source_of_rejected {source : OrderState} (follows : .rejected ∈ source.transitions) :
    source.early = true ∨ source = .amended ∨ source = .unknownReconciling := by
  cases source <;> revert follows <;> decide

end OrderState

/-- A call of `transition`. -/
structure TransitionCall where
  target : OrderState
  rawVenueStatus : Option String
  fillQuantity : ℚ

/-- A quantity comes with a state that means a fill. -/
def TransitionCall.Reports (call : TransitionCall) : Prop :=
  call.fillQuantity = 0 ∨ call.target = .partiallyFilled ∨ call.target = .filled

namespace OrderRecord

def opened (intent : OrderIntent) : OrderRecord := ⟨intent, .intent, 0, none⟩

def perform (ctx : DecimalContext) (record : OrderRecord) (call : TransitionCall) :
    Except FinanceError OrderRecord :=
  record.transition ctx call.target call.rawVenueStatus call.fillQuantity

def run (ctx : DecimalContext) (intent : OrderIntent) (calls : List TransitionCall) :
    Except FinanceError OrderRecord :=
  calls.foldlM (perform ctx) (opened intent)

variable {ctx : DecimalContext} {intent : OrderIntent} {record next : OrderRecord}
  {call : TransitionCall} {calls : List TransitionCall}

theorem run_append : run ctx intent (calls ++ [call]) = .ok next ↔
    ∃ record, run ctx intent calls = .ok record ∧ record.perform ctx call = .ok next := by
  rw [run, foldlM_append, bind_ok]
  exact exists_congr fun record => and_congr_right fun _ => by
    rw [foldlM_cons, bind_ok]
    simp [pure_ok]

/-- What every run keeps. -/
structure Sound (ctx : DecimalContext) (intent : OrderIntent) (record : OrderRecord) : Prop where
  same : record.intent = intent
  nonneg : 0 ≤ record.filledQuantity
  within : record.filledQuantity ≤ intent.quantity
  fits : ctx.Fits record.filledQuantity
  complete : record.state = .filled → record.filledQuantity = intent.quantity
  partly : record.state = .partiallyFilled →
    0 < record.filledQuantity ∧ record.filledQuantity < intent.quantity

theorem sound_opened (positive : 0 < intent.quantity) : Sound ctx intent (opened intent) where
  same := rfl
  nonneg := le_rfl
  within := positive.le
  fits := fits_zero ctx
  complete := fun filled => by cases filled
  partly := fun partly => by cases partly

theorem fill_nonneg (ok : record.perform ctx call = .ok next) : 0 ≤ call.fillQuantity := by
  simp only [perform, transition, bind_ok, guard_ok] at ok
  obtain ⟨-, sized, -⟩ := ok
  exact not_lt.mp fun negative => sized (.inl negative)

theorem le_add_of_fits (keeps : ctx.KeepsDigits) (nonneg : 0 ≤ held) (fits : ctx.Fits held)
    (added : 0 ≤ more) : held ≤ ctx.add held more ∧ ctx.Fits (ctx.add held more) := by
  rcases nonneg.eq_or_lt with none | some
  · subst none
    rw [add, zero_add]
    refine ⟨round_nonneg keeps added, ?_⟩
    rcases added.eq_or_lt with none | some
    · rw [← none, fits_zero]
      exact fits_zero ctx
    · exact fits_round keeps some
  · exact ⟨le_round_of_fits keeps (le_add_of_nonneg_right added) fits,
      fits_round keeps (add_pos_of_pos_of_nonneg some added)⟩

theorem Sound.perform (keeps : ctx.KeepsDigits) (sound : Sound ctx intent record)
    (ok : record.perform ctx call = .ok next) :
    record.filledQuantity ≤ next.filledQuantity ∧ Sound ctx intent next := by
  obtain ⟨-, reached, filled, within, same, complete, partly⟩ := transition_ok ok
  obtain ⟨grows, fits⟩ := le_add_of_fits keeps sound.nonneg sound.fits (fill_nonneg ok)
  rw [← filled] at grows fits
  rw [sound.same] at within complete partly
  exact ⟨grows, same.trans sound.same, sound.nonneg.trans grows, within, fits,
    fun state => complete (reached.symm.trans state), fun state => partly (reached.symm.trans state)⟩

theorem run_sound (keeps : ctx.KeepsDigits) (positive : 0 < intent.quantity)
    (ok : run ctx intent calls = .ok record) : Sound ctx intent record :=
  foldlM_invariant (Sound ctx intent) (fun _ _ _ sound step => (sound.perform keeps step).2)
    (sound_opened positive) ok

def Through (states : List OrderState) (calls : List TransitionCall) : Prop :=
  ∃ call ∈ calls, call.target ∈ states

theorem Through.append (through : Through states calls) (call : TransitionCall) :
    Through states (calls ++ [call]) := by
  obtain ⟨earlier, member, reached⟩ := through
  exact ⟨earlier, mem_append_left _ member, reached⟩

theorem through_last (reached : call.target ∈ states) : Through states (calls ++ [call]) :=
  ⟨call, mem_append_right _ mem_cons_self, reached⟩

/-- What a run keeps that reports its fills. -/
structure Accounted (intent : OrderIntent) (calls : List TransitionCall) (record : OrderRecord) : Prop where
  incomplete : record.state ≠ .filled → record.filledQuantity < intent.quantity
  early : record.state.early = true → record.filledQuantity = 0
  answered : (record.state.early = true ∨ record.state = .rejected) ∧ record.filledQuantity = 0 ∨
    Through [.acknowledged, .unknownReconciling] calls
  rejected : record.state = .rejected → record.filledQuantity = 0 ∨
    Through [.amended, .unknownReconciling] calls
  entered : record.state = .intent ∨ Through [record.state] calls

theorem accounted_opened (positive : 0 < intent.quantity) : Accounted intent [] (opened intent) where
  incomplete := fun _ => positive
  early := fun _ => rfl
  answered := .inl ⟨.inl rfl, rfl⟩
  rejected := fun _ => .inl rfl
  entered := .inl rfl

theorem filled_of_silent (fits : ctx.Fits record.filledQuantity) (silent : call.fillQuantity = 0)
    (ok : record.perform ctx call = .ok next) : next.filledQuantity = record.filledQuantity := by
  obtain ⟨-, -, filled, -⟩ := transition_ok ok
  rw [filled, silent, add, add_zero]
  exact fits

theorem Accounted.perform (sound : Sound ctx intent record) (accounted : Accounted intent calls record)
    (reports : call.Reports) (ok : record.perform ctx call = .ok next) :
    Accounted intent (calls ++ [call]) next := by
  obtain ⟨follows, reached, -, -, -, -, partly⟩ := transition_ok ok
  have live : record.state ≠ .filled := by
    intro filled
    rw [filled] at follows
    cases follows
  have kept : ¬(next.state = .partiallyFilled ∨ next.state = .filled) →
      next.filledQuantity = record.filledQuantity := by
    rw [reached]
    rintro other
    exact filled_of_silent sound.fits (reports.resolve_right other) ok
  rw [← reached] at follows partly
  have earlier : next.state.early = true → next.filledQuantity = 0 := by
    intro early
    have before := OrderState.early_of_target follows early
    rw [kept, accounted.early before]
    rintro (partial_ | filled)
    · rw [partial_] at early
      cases early
    · rw [filled] at early
      cases early
  have refused : next.state = .rejected → next.filledQuantity = record.filledQuantity := by
    intro rejected
    exact kept (by rw [rejected]; decide)
  refine ⟨?_, earlier, ?_, ?_, .inr (through_last (by rw [reached]; exact mem_cons_self))⟩
  · intro incomplete
    by_cases part : next.state = .partiallyFilled
    · rw [← sound.same]
      exact (partly part).2
    · rw [kept (by rintro (one | other); exacts [part one, incomplete other])]
      exact accounted.incomplete live
  · rcases accounted.answered with ⟨before, none⟩ | through
    · rcases before with early | rejected
      · rcases OrderState.target_of_early follows early with still | rejected | answered
        · exact .inl ⟨.inl still, earlier still⟩
        · exact .inl ⟨.inr rejected, (refused rejected).trans none⟩
        · refine .inr (through_last ?_)
          rw [← reached]
          rcases answered with acknowledged | unknown
          · rw [acknowledged]
            exact mem_cons_self
          · rw [unknown]
            exact mem_cons_of_mem _ mem_cons_self
      · rw [rejected] at follows
        cases follows
    · exact .inr (through.append call)
  · intro rejected
    rw [refused rejected]
    rw [rejected] at follows
    rcases OrderState.source_of_rejected follows with early | later
    · exact .inl (accounted.early early)
    · rcases accounted.entered with untouched | through
      · rw [untouched] at later
        rcases later with amended | unknown
        · cases amended
        · cases unknown
      · obtain ⟨entering, member, here⟩ := through
        rw [mem_singleton] at here
        refine .inr (Through.append ⟨entering, member, ?_⟩ call)
        rw [here]
        rcases later with amended | unknown
        · rw [amended]
          exact mem_cons_self
        · rw [unknown]
          exact mem_cons_of_mem _ mem_cons_self

theorem run_accounted (keeps : ctx.KeepsDigits) (positive : 0 < intent.quantity)
    (reports : ∀ call ∈ calls, call.Reports) (ok : run ctx intent calls = .ok record) :
    Accounted intent calls record := by
  induction calls using reverseRecOn generalizing record with
  | nil =>
    rw [run, foldlM_nil, pure_ok] at ok
    subst ok
    exact accounted_opened positive
  | append_singleton _ call ih =>
    obtain ⟨_, earlier, step⟩ := run_append.mp ok
    have known := ih (fun call member => reports call (mem_append_left _ member)) earlier
    exact known.perform (run_sound keeps positive earlier)
      (reports call (mem_append_right _ mem_cons_self)) step

/-- The account of every run: quantities grow within the order, filled orders are complete, terminal
records refuse every call; and where quantities come only with the states that mean a fill, none comes
before the venue has answered or fallen silent, the complete quantity means a filled order, and an order
is rejected with a part filled only after it was amended or lost sight of. -/
theorem order_runs (ctx : DecimalContext) (keeps : ctx.KeepsDigits) (intent : OrderIntent)
    (valid : intent.validate = .ok intent) (calls : List TransitionCall) (record : OrderRecord)
    (ok : run ctx intent calls = .ok record) :
    (0 ≤ record.filledQuantity ∧ record.filledQuantity ≤ intent.quantity ∧
      (∀ call next, record.perform ctx call = .ok next → record.filledQuantity ≤ next.filledQuantity) ∧
      (record.state.terminal = true → ∀ call, ∃ refusal, record.perform ctx call = .error refusal) ∧
      (record.state = .filled → record.filledQuantity = intent.quantity) ∧
      (record.state = .partiallyFilled →
        0 < record.filledQuantity ∧ record.filledQuantity < intent.quantity)) ∧
    ((∀ call ∈ calls, call.Reports) →
      (0 < record.filledQuantity → Through [.acknowledged, .unknownReconciling] calls) ∧
      (record.filledQuantity = intent.quantity ↔ record.state = .filled) ∧
      (record.state = .rejected → record.filledQuantity < intent.quantity ∧
        (record.filledQuantity = 0 ∨ Through [.amended, .unknownReconciling] calls))) := by
  have positive := (OrderIntent.validate_ok valid).2
  have sound := run_sound keeps positive ok
  refine ⟨⟨sound.nonneg, sound.within, fun call next step => (sound.perform keeps step).1, ?_, sound.complete,
    sound.partly⟩, fun reports => ?_⟩
  · intro terminal call
    refine refused_of_not_ok fun next step => ?_
    have live := transition_not_terminal step
    rw [terminal] at live
    cases live
  · have accounted := run_accounted keeps positive reports ok
    refine ⟨fun some => ?_, ⟨fun whole => ?_, sound.complete⟩, fun rejected => ⟨?_, accounted.rejected rejected⟩⟩
    · exact accounted.answered.resolve_left fun unfilled => some.ne' unfilled.2
    · by_contra incomplete
      exact (accounted.incomplete incomplete).ne whole
    · exact accounted.incomplete (by rw [rejected]; decide)

def double : OrderIntent :=
  ⟨"c", "s", "v", "i", .buy, 2, .market, none, 0, 0, 0, 0, false, false, .gtc⟩

def amendment : List TransitionCall :=
  [⟨.pretradeValidated, none, 0⟩, ⟨.submitted, none, 0⟩, ⟨.acknowledged, none, 0⟩,
    ⟨.partiallyFilled, none, 1⟩, ⟨.amended, none, 0⟩, ⟨.rejected, none, 0⟩]

/-- A rejected order with a part filled, and a complete quantity before the venue knows the order. -/
theorem rejected_with_fill :
    double.validate = .ok double ∧
      run prec28 double amendment = .ok ⟨double, .rejected, 1, none⟩ ∧
      run prec28 double [⟨.pretradeValidated, none, 2⟩] = .ok ⟨double, .pretradeValidated, 2, none⟩ :=
  ⟨by decide, by decide +kernel, by decide +kernel⟩

theorem order_runs_amendment :
    run prec28 double amendment = .ok ⟨double, .rejected, 1, none⟩ ∧
      (1 : ℚ) < double.quantity ∧ Through [.acknowledged, .unknownReconciling] amendment := by
  have ran : run prec28 double amendment = .ok ⟨double, .rejected, 1, none⟩ := by decide +kernel
  have reports : ∀ call ∈ amendment, call.Reports := by
    unfold TransitionCall.Reports
    decide +kernel
  have account := (order_runs prec28 prec28_keepsDigits double (by decide) amendment _ ran).2 reports
  exact ⟨ran, (account.2.2 rfl).1, account.1 one_pos⟩

end OrderRecord

end Liki.Finance
