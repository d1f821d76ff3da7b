import Liki.Delivery.RowEffects

/-! What senders may rely on over whole runs of the outbox. A row that is delivered or quarantined keeps
its status, in the row as in its aggregate. Every hand-out is an attempt, of which a row has five. A
sender that lets its lease expire is not answered any more, and the row is not handed to another one. A
result counts once: only the worker of the current lease concludes a delivery, a repeated result gets the
answer that the first one got until the row is handed out again, and another result is refused. -/
namespace Liki.Delivery
open Checks CallSystem List KeyedRows Option

variable {state after : OutboxState} {call : OutboxCall} {calls : List OutboxCall} {answer : OutboxAnswer}
  {outboxId : String} {row moved : OutboxRow} {current gained : Option DeliveryState} {first last : ℕ}
  {token : ℕ} {worker : String}

theorem ordered_empty : Ordered .empty := ⟨Store.versioned_empty, nodup_nil⟩

theorem next_ordered (ordered : Ordered state) (call : OutboxCall) : Ordered (next handle state call) :=
  next_of_answered Ordered ordered fun _ _ ok => (handle_effect ordered ok).ordered

theorem history_ordered (calls : List OutboxCall) : Ordered (history calls) :=
  run_preserves Ordered ordered_empty (fun _ call ordered => next_ordered ordered call) calls

theorem row_run (holds : ℕ → OutboxRow → Option DeliveryState → Prop) (ordered : Ordered state)
    (found : state.findRow outboxId = some row)
    (start : holds state.store.events.length row (state.current outboxId)) (calls : List OutboxCall)
    (step : ∀ call ∈ calls, ∀ answer first last row current moved gained, first ≤ last →
      RowEffect call answer first last row current moved gained → holds first row current →
        holds last moved gained) :
    ∃ moved, (run handle state calls).findRow outboxId = some moved ∧
      holds (run handle state calls).store.events.length moved
        ((run handle state calls).current outboxId) := by
  induction calls generalizing state row with
  | nil => exact ⟨row, found, start⟩
  | cons call _ ih =>
    have later := fun other member => step other (mem_cons_of_mem call member)
    rw [run_cons]
    cases result : handle state call with
    | error =>
      rw [next_of_error result]
      exact ih ordered found start later
    | ok pair =>
      obtain ⟨_, _⟩ := pair
      have effect := handle_effect ordered result
      obtain ⟨_, there, moves⟩ := effect.rows outboxId row found
      rw [next_of_ok result]
      exact ih effect.ordered there
        (step call mem_cons_self _ _ _ _ _ _ _ effect.events moves start) later

def handsRow (outboxId : String) : Except ServiceError OutboxAnswer → Bool
  | .ok (.claimed (some lease)) => lease.outboxId = outboxId
  | _ => false

def handed (calls : List OutboxCall) (outboxId : String) : ℕ :=
  (replies handle .empty calls).countP (handsRow outboxId)

theorem handsRow_iff : handsRow outboxId (.ok answer) = true ↔ Hands answer outboxId := by
  constructor
  · intro hands
    match answer with
    | .claimed (some lease) => exact ⟨lease, rfl, of_decide_eq_true hands⟩
  · rintro ⟨_, rfl, named⟩
    exact decide_eq_true named

theorem handsRow_of_not (unhanded : ¬Hands answer outboxId) : handsRow outboxId (.ok answer) = false :=
  Bool.eq_false_iff.mpr (mt handsRow_iff.mp unhanded)

def OutboxState.attempts (state : OutboxState) (outboxId : String) : ℕ :=
  (state.findRow outboxId).elim 0 OutboxRow.attempts

theorem OutboxState.attempts_of_found (found : state.findRow outboxId = some row) :
    state.attempts outboxId = row.attempts := by
  rw [OutboxState.attempts, found]
  rfl

theorem OutboxState.attempts_of_none (absent : state.findRow outboxId = none) :
    state.attempts outboxId = 0 := by
  rw [OutboxState.attempts, absent]
  rfl

theorem RowEffect.attempts (effect : RowEffect call answer first last row current moved gained) :
    moved.outboxId = row.outboxId ∧
      moved.attempts = row.attempts + if handsRow row.outboxId (.ok answer) then 1 else 0 := by
  cases effect with
  | kept unhanded =>
    rw [handsRow_of_not unhanded]
    exact ⟨rfl, rfl⟩
  | expired _ unhanded =>
    rw [handsRow_of_not unhanded]
    exact ⟨rfl, rfl⟩
  | handed _ answered =>
    rw [handsRow_iff.mpr ⟨_, answered, rfl⟩]
    exact ⟨rfl, rfl⟩
  | concluded _ _ _ _ _ answered =>
    rw [answered]
    exact ⟨rfl, rfl⟩

theorem CallEffect.attempts (effect : CallEffect state call answer after) (outboxId : String) :
    after.attempts outboxId =
      state.attempts outboxId + if handsRow outboxId (.ok answer) then 1 else 0 := by
  cases found : state.findRow outboxId with
  | none =>
    rw [handsRow_of_not fun hands => effect.known outboxId hands found, OutboxState.attempts_of_none found]
    cases there : after.findRow outboxId with
    | none => exact OutboxState.attempts_of_none there
    | some row =>
      exact (OutboxState.attempts_of_found there).trans
        (effect.queued outboxId row found there).2.1
  | some row =>
    obtain ⟨_, there, moves⟩ := effect.rows outboxId row found
    have named : row.outboxId = outboxId := find_key found
    rw [OutboxState.attempts_of_found found, OutboxState.attempts_of_found there, moves.attempts.2, named]

theorem run_attempts (ordered : Ordered state) (calls : List OutboxCall) (outboxId : String) :
    (run handle state calls).attempts outboxId =
      state.attempts outboxId + (replies handle state calls).countP (handsRow outboxId) := by
  refine run_counted Ordered (fun state => state.attempts outboxId) (handsRow outboxId) ordered
    (fun _ call ordered => next_ordered ordered call) (fun _ => rfl) ?_ calls
  exact fun _ _ _ _ ordered ok => (handle_effect ordered ok).attempts outboxId

theorem attempts_eq_handed (calls : List OutboxCall) (outboxId : String) :
    (history calls).attempts outboxId = handed calls outboxId := by
  rw [history, run_attempts ordered_empty, handed]
  exact Nat.zero_add _

/-- A call of the run was answered with the row under the token, and the worker made it. -/
def HandedTo (calls : List OutboxCall) (outboxId : String) (token : ℕ) (worker : String) : Prop :=
  ∃ earlier call later, calls = earlier ++ call :: later ∧ call.actor.principalId = worker ∧
    ∃ lease : DeliveryLease, reply handle (history earlier) call = .ok (.claimed (some lease)) ∧
      lease.outboxId = outboxId ∧ lease.leaseToken = token

theorem HandedTo.append (handed : HandedTo calls outboxId token worker) (more : List OutboxCall) :
    HandedTo (calls ++ more) outboxId token worker := by
  obtain ⟨earlier, call, later, rfl, rest⟩ := handed
  refine ⟨earlier, call, later ++ more, ?_, rest⟩
  rw [append_assoc, cons_append]

/-- A row against its aggregate and against the run. -/
structure Tracked (calls : List OutboxCall) (events : ℕ) (row : OutboxRow)
    (current : Option DeliveryState) :
    Prop where
  attempts : row.attempts ≤ 5
  retried : row.status = .pending → row.attempts < 5
  known : ∀ token, row.leaseToken = some token → token < events
  agrees : ∀ delivery, current = some delivery → delivery.status = row.status
  unsent : current = none → row.status = .pending
  leased : row.status = .leased → ∃ token delivery worker, row.leaseToken = some token ∧
    current = some delivery ∧
    delivery.workerId = some worker ∧ delivery.result = none ∧ HandedTo calls row.outboxId token worker

theorem RowEffect.tracked (effect : RowEffect call answer first last row current moved gained)
    (grown : first ≤ last)
    (answered : reply handle (history calls) call = .ok answer)
    (tracked : Tracked calls first row current) :
    Tracked (calls ++ [call]) last moved gained := by
  have known : ∀ token, row.leaseToken = some token → token < last :=
    fun token held => lt_of_lt_of_le (tracked.known token held) grown
  cases effect with
  | kept =>
    refine ⟨tracked.attempts, tracked.retried, known, tracked.agrees, tracked.unsent, fun leased => ?_⟩
    obtain ⟨token, delivery, worker, held, current, own, unfinished, handed⟩ := tracked.leased leased
    exact ⟨token, delivery, worker, held, current, own, unfinished, handed.append _⟩
  | expired =>
    refine ⟨tracked.attempts, nofun, known, fun delivery written => ?_, nofun, nofun⟩
    cases written
    rfl
  | handed pending claimed _ written =>
    have fewer := tracked.retried pending
    refine ⟨fewer, nofun, fun token held => ?_, fun delivery written => ?_, nofun, fun _ => ?_⟩
    · cases held
      exact written
    · cases written
      rfl
    · exact ⟨_, _, call.actor.principalId, rfl, rfl, rfl, rfl, calls, call, [], rfl, rfl, _,
        answered.trans (congrArg Except.ok claimed), rfl, rfl⟩
  | concluded =>
    refine ⟨tracked.attempts, fun pending => ?_, known, fun delivery written => ?_, nofun, fun leased => ?_⟩
    · -- only a transient failure of an early attempt is pending again
      have retried : concludedStatus row _ = .pending := pending
      unfold concludedStatus at retried
      split at retried
      · cases retried
      · split at retried
        · rename_i transient
          exact transient.2
        · cases retried
    · cases written
      rfl
    · have again : concludedStatus row _ = .leased := leased
      unfold concludedStatus at again
      split at again
      · cases again
      · split at again <;> cases again

structure Tracks (calls : List OutboxCall) (state : OutboxState) : Prop where
  rows : ∀ outboxId row, state.findRow outboxId = some row →
    Tracked calls state.store.events.length row (state.current outboxId)
  absent : ∀ outboxId, state.findRow outboxId = none → state.current outboxId = none

theorem Tracked.more (tracked : Tracked calls first row current) (more : List OutboxCall) :
    Tracked (calls ++ more) first row current := by
  refine ⟨tracked.attempts, tracked.retried, tracked.known, tracked.agrees, tracked.unsent,
    fun leased => ?_⟩
  obtain ⟨token, delivery, worker, held, current, own, unfinished, handed⟩ := tracked.leased leased
  exact ⟨token, delivery, worker, held, current, own, unfinished, handed.append more⟩

theorem history_tracks (calls : List OutboxCall) : Tracks calls (history calls) := by
  induction calls using reverseRecOn with
  | nil => exact ⟨nofun, fun _ _ => rfl⟩
  | append_singleton calls call ih =>
    have step : history (calls ++ [call]) = next handle (history calls) call := run_append _ _
    rw [step]
    cases result : handle (history calls) call with
    | error =>
      rw [next_of_error result]
      exact ⟨fun outboxId row found => (ih.rows outboxId row found).more _, ih.absent⟩
    | ok pair =>
      obtain ⟨_, _⟩ := pair
      have effect := handle_effect (history_ordered calls) result
      rw [next_of_ok result]
      refine ⟨fun outboxId moved there => ?_, fun outboxId none => ?_⟩
      · cases found : (history calls).findRow outboxId with
        | none =>
          -- a row that is queued has no aggregate
          obtain ⟨pending, attempts, token⟩ := effect.queued outboxId moved found there
          have absent := (effect.unsent outboxId found).trans (ih.absent outboxId found)
          rw [absent]
          refine ⟨attempts ▸ Nat.zero_le 5, fun _ => attempts ▸ Nat.zero_lt_succ 4,
            fun other held => ?_, nofun,
            fun _ => pending, fun leased => ?_⟩
          · rw [token] at held
            cases held
          · rw [pending] at leased
            cases leased
        | some row =>
          obtain ⟨other, also, moves⟩ := effect.rows outboxId row found
          have same : moved = other := some.inj (there.symm.trans also)
          subst same
          exact moves.tracked effect.events (reply_of_ok result) (ih.rows outboxId row found)
      · cases found : (history calls).findRow outboxId with
        | none => exact (effect.unsent outboxId found).trans (ih.absent outboxId found)
        | some row =>
          obtain ⟨_, also, -⟩ := effect.rows outboxId row found
          rw [none] at also
          cases also

/-- The status of a row that no call leaves. -/
def DeliveryStatus.Final (status : DeliveryStatus) : Prop := status = .delivered ∨ status = .quarantined

theorem RowEffect.final (effect : RowEffect call answer first last row current moved gained)
    (final : row.status.Final) : moved = row ∧ gained = current := by
  have differs : ∀ {status : DeliveryStatus}, status ≠ .delivered → status ≠ .quarantined →
    row.status ≠ status := by
    rintro status undelivered unquarantined rfl
    exact final.elim undelivered unquarantined
  cases effect with
  | kept => exact ⟨rfl, rfl⟩
  | expired expired => exact absurd expired.1 (differs nofun nofun)
  | handed pending => exact absurd pending (differs nofun nofun)
  | concluded _ leased => exact absurd leased (differs nofun nofun)

/-- The lease of a row expired, and nobody has got the row since. -/
structure Lost (instant : Time) (attempts : ℕ) (row : OutboxRow) : Prop where
  attempts : row.attempts = attempts
  status : row.Expired instant ∨ row.status = .quarantined

variable {instant : Time}

theorem RowEffect.lost {attempts : ℕ}
    (effect : RowEffect call answer first last row current moved gained)
    (passed : instant ≤ call.clock.reading) (lost : Lost instant attempts row) :
    Lost instant attempts moved := by
  cases effect with
  | kept => exact lost
  | expired => exact ⟨lost.attempts, .inr rfl⟩
  | handed pending =>
    rcases lost.status with ⟨leased, -⟩ | quarantined
    · rw [pending] at leased
      cases leased
    · rw [pending] at quarantined
      cases quarantined
  | concluded _ leased _ unexpired =>
    rcases lost.status with ⟨-, expires, held, past⟩ | quarantined
    · obtain ⟨other, there, ahead⟩ := unexpired
      have same : other = expires := mem_unique there held
      exact absurd ahead (not_lt.mpr (same ▸ past.trans passed))
    · rw [leased] at quarantined
      cases quarantined

structure Reported (worker : String) (token : ℕ) (result : DeliveryResult) (status : DeliveryStatus)
    (attempt : ℕ)
    (events : ℕ) (row : OutboxRow) (current : Option DeliveryState) : Prop where
  known : token < events
  attempts : attempt ≤ row.attempts
  stands : row.attempts = attempt → row.leaseToken = some token ∧ row.status = status ∧ status ≠ .leased ∧
    ∃ delivery, current = some delivery ∧ delivery.workerId = some worker ∧ delivery.result = some result
  replaced : attempt < row.attempts → row.leaseToken ≠ some token

variable {result : DeliveryResult} {status : DeliveryStatus} {actor : Identity} {clock : Clock}

theorem RowEffect.reported (effect : RowEffect call answer first last row current moved gained)
    (grown : first ≤ last)
    (reported : Reported worker token result status attempt first row current) :
    Reported worker token result status attempt last moved gained := by
  have known : token < last := lt_of_lt_of_le reported.known grown
  have unleased : row.attempts = attempt → row.status ≠ .leased := by
    intro same
    obtain ⟨-, stands, differ, -⟩ := reported.stands same
    exact stands ▸ differ
  cases effect with
  | kept => exact ⟨known, reported.attempts, reported.stands, reported.replaced⟩
  | expired expired =>
    exact ⟨known, reported.attempts, fun same => absurd expired.1 (unleased same), reported.replaced⟩
  | handed =>
    refine ⟨known, reported.attempts.trans (Nat.le_succ _), fun same => ?_, fun _ held => ?_⟩
    · have more : row.attempts + 1 = attempt := same
      have fewer := reported.attempts
      omega
    · -- the token is new
      have same := some.inj held
      have old := reported.known
      omega
  | concluded _ leased =>
    exact ⟨known, reported.attempts, fun same => absurd leased (unleased same), reported.replaced⟩

theorem concludedStatus_ne_leased (row : OutboxRow) (result : DeliveryResult) :
    concludedStatus row result ≠ .leased := by
  unfold concludedStatus
  split
  · exact nofun
  · split <;> exact nofun

theorem finish_reported (ordered : Ordered state)
    (tracked : ∀ row, state.findRow outboxId = some row →
      Tracked calls state.store.events.length row (state.current outboxId))
    (ok : finish state actor outboxId token result clock = .ok (status, after)) :
    ∃ moved, after.findRow outboxId = some moved ∧
      Reported actor.principalId token result status moved.attempts
      after.store.events.length moved (after.current outboxId) := by
  obtain ⟨row, current, finishes⟩ := finish_ok ok
  have effect := finish_effect ordered ok
  have known := lt_of_lt_of_le ((tracked row finishes.found).known token finishes.held) effect.events
  rcases finishes.cases with ⟨unleased, same, answered, rfl⟩ | concluded
  · exact ⟨row, finishes.found, known, le_rfl,
      fun _ => ⟨finishes.held, answered, answered ▸ unleased, current, finishes.known,
        finishes.worker, same⟩,
      fun more => absurd more (lt_irrefl _)⟩
  · have named : row.outboxId = outboxId := find_key finishes.found
    subst named
    obtain ⟨rfl, available, _, concludes⟩ := conclude_ok ordered finishes.found concluded
    have there : after.findRow row.outboxId = some
        { row with
          status := concludedStatus row result
          availableAt := available } := by
      rw [OutboxState.findRow, concludes.rows]
      exact concludes.moves.moved
    have written := (current_of_eq (congrArg Store.aggregates concludes.store) row.outboxId).trans
      concludes.moves.current
    exact ⟨_, there, known, le_rfl,
      fun _ => ⟨finishes.held, rfl, concludedStatus_ne_leased row result, _, written, rfl, rfl⟩,
      fun more => absurd more (lt_irrefl _)⟩

section Repeats

variable {actor : Identity} {clock : Clock} {token attempt events : ℕ} {result : DeliveryResult}
  {status : DeliveryStatus}

theorem Reported.repeated (valid : result.Valid) (authorised : actor.requires .notification = .ok ())
    (found : state.findRow outboxId = some row)
    (reported : Reported actor.principalId token result status attempt events row (state.current outboxId))
    (same : row.attempts = attempt) : finish state actor outboxId token result clock = .ok
      (status, state) := by
  obtain ⟨held, rfl, unleased, delivery, current, worker, recorded⟩ := reported.stands same
  have kept : ¬(row.status ≠ .leased ∧ (state.current outboxId).bind DeliveryState.result = none) := by
    rw [current, bind_some, recorded]
    exact fun lost => absurd lost.2 nofun
  have finished : row.status ≠ .leased ∧ delivery.result ≠ none := ⟨unleased, recorded ▸ nofun⟩
  rw [finish, refuseIf_bind_of_not (not_not.mpr valid), authorised, ok_bind, found, expect, ok_bind,
    refuseIf_bind_of_not (not_not.mpr held)]
  dsimp only
  rw [refuseIf_bind_of_not kept, current, expect, ok_bind,
    refuseIf_bind_of_not (not_not.mpr worker), if_pos finished,
    refuseIf_bind_of_not (not_not.mpr recorded)]
  rfl

theorem Reported.stale (valid : result.Valid) (authorised : actor.requires .notification = .ok ())
    (found : state.findRow outboxId = some row)
    (reported : Reported actor.principalId token result status attempt events row current)
    (more : attempt < row.attempts) :
    finish state actor outboxId token result clock = .error (.domain "STALE_DELIVERY_LEASE") := by
  rw [finish, refuseIf_bind_of_not (not_not.mpr valid), authorised, ok_bind, found, expect, ok_bind,
    refuseIf_bind_of (reported.replaced more)]

theorem Reported.refuses (ordered : Ordered state) (found : state.findRow outboxId = some row)
    (reported : Reported worker token result status attempt events row (state.current outboxId))
    (differ : other ≠ result) :
    finish state actor outboxId token other clock ≠ .ok (answered, after) := by
  intro ok
  obtain ⟨there, _, finishes⟩ := finish_ok ok
  have same : row = there := some.inj (found.symm.trans finishes.found)
  subst same
  have unchanged : row.attempts = attempt := by
    have least := reported.attempts
    rcases lt_or_eq_of_le least with more | same
    · exact absurd finishes.held (reported.replaced more)
    · exact same.symm
  obtain ⟨-, stands, unleased, _, current, -, recorded⟩ := reported.stands unchanged
  rw [finishes.known, some.injEq] at current
  subst current
  rcases finishes.cases with ⟨-, own, -⟩ | concluded
  · exact differ (some.inj (own.symm.trans recorded))
  · have named : row.outboxId = outboxId := find_key found
    obtain ⟨-, _, _, concludes⟩ := conclude_ok ordered (named.symm ▸ found) concluded
    exact unleased (stands.symm.trans concludes.leased)

end Repeats

def Holds (calls : List OutboxCall) (call : OutboxCall) (outboxId : String) (token : ℕ) : Prop :=
  HandedTo calls outboxId token call.actor.principalId ∧
    ∃ row, (history calls).findRow outboxId = some row ∧
    row.status = .leased ∧ row.leaseToken = some token ∧
      ∃ expires ∈ row.leaseExpiresAt, call.clock.reading < expires

theorem history_append (earlier later : List OutboxCall) :
    history (earlier ++ later) = run handle (history earlier) later := run_append earlier later

theorem history_append_one (calls : List OutboxCall) (call : OutboxCall) :
    history (calls ++ [call]) = next handle (history calls) call := run_append calls [call]

theorem holds_of_leased (found : (history calls).findRow outboxId = some row)
    (leased : row.status = .leased) (held : row.leaseToken = some token)
    (unexpired : ∃ expires ∈ row.leaseExpiresAt, call.clock.reading < expires)
    (known : (history calls).current outboxId = some delivery)
    (worker : delivery.workerId = some call.actor.principalId) :
    Holds calls call outboxId token := by
  have named : row.outboxId = outboxId := find_key found
  obtain ⟨_, _, _, same, current, own, -, handed⟩ :=
    ((history_tracks calls).rows outboxId row found).leased leased
  rw [held, some.injEq] at same
  subst same
  rw [known, some.injEq] at current
  subst current
  rw [worker, some.injEq] at own
  subst own
  exact ⟨named ▸ handed, row, found, leased, held, unexpired⟩

structure DeliveryLaws (calls : List OutboxCall) : Prop where
  final : ∀ earlier later outboxId row, calls = earlier ++ later →
    (history earlier).findRow outboxId = some row →
    row.status.Final → (history calls).findRow outboxId = some row ∧
      ∃ delivery, (history calls).current outboxId = some delivery ∧ delivery.status = row.status
  bounded : ∀ outboxId, handed calls outboxId ≤ 5
  lost : ∀ earlier later outboxId row instant, calls = earlier ++ later →
    (history earlier).findRow outboxId = some row → row.Expired instant →
    (∀ call ∈ later, instant ≤ call.clock.reading) → handed calls outboxId = handed earlier outboxId
  /-- A finish that changes anything comes from the worker who holds the lease. -/
  exclusive : ∀ earlier call later outboxId token result, calls = earlier ++ call :: later →
    call.request = .finish outboxId token result → history (earlier ++ [call]) ≠ history earlier →
    Holds earlier call outboxId token
  leased : ∀ earlier call later outboxId row, calls = earlier ++ call :: later →
    (history earlier).findRow outboxId = some row → row.status = .leased →
    (history (earlier ++ [call])).findRow outboxId = some row ∨
    (row.Expired call.clock.start ∧
      (history (earlier ++ [call])).findRow outboxId = some { row with status := .quarantined }) ∨
    ∃ token result, call.request = .finish outboxId token result ∧ Holds earlier call outboxId token
  recorded : ∀ outboxId,
    (history calls).deliveries.countP (fun delivery => delivery.outboxId = outboxId) ≤ 1
  repeated : ∀ earlier call later outboxId token result status, calls = earlier ++ call :: later →
    call.request = .finish outboxId token result →
      reply handle (history earlier) call = .ok (.finished status) →
    ∀ clock, handle (history calls) { call with clock } =
      if handed calls outboxId = handed (earlier ++ [call]) outboxId then
        .ok (.finished status, history calls)
      else .error (.domain "STALE_DELIVERY_LEASE")
  contradicted : ∀ earlier call later outboxId token result status, calls = earlier ++ call :: later →
    call.request = .finish outboxId token result →
      reply handle (history earlier) call = .ok (.finished status) →
    ∀ actor clock other, other ≠ result →
      ∃ refusal, handle (history calls) ⟨actor, clock, .finish outboxId token other⟩ = .error refusal

variable {earlier : List OutboxCall}

variable {later : List OutboxCall}

theorem history_final (found : (history earlier).findRow outboxId = some row)
    (final : row.status.Final) :
    (history (earlier ++ later)).findRow outboxId = some row ∧
      ∃ delivery, (history (earlier ++ later)).current outboxId = some delivery ∧
        delivery.status = row.status := by
  have tracked := (history_tracks earlier).rows outboxId row found
  obtain ⟨delivery, current⟩ : ∃ delivery, (history earlier).current outboxId = some delivery := by
    refine ne_none_iff_exists'.mp fun unsent => ?_
    have pending := tracked.unsent unsent
    rw [pending] at final
    exact final.elim nofun nofun
  obtain ⟨moved, there, same, kept⟩ := row_run (fun _ moved gained => moved = row ∧ gained = some delivery)
    (history_ordered earlier) found ⟨rfl, current⟩ later (by
      rintro call - answer first last _ _ moved gained - effect ⟨rfl, rfl⟩
      exact effect.final final)
  rw [history_append]
  exact ⟨same ▸ there, delivery, kept, tracked.agrees delivery current⟩

theorem handed_le (calls : List OutboxCall) (outboxId : String) : handed calls outboxId ≤ 5 := by
  rw [← attempts_eq_handed]
  cases found : (history calls).findRow outboxId with
  | none =>
    rw [OutboxState.attempts_of_none found]
    exact Nat.zero_le 5
  | some row =>
    rw [OutboxState.attempts_of_found found]
    exact ((history_tracks calls).rows outboxId row found).attempts

theorem handed_of_lost (found : (history earlier).findRow outboxId = some row)
    (expired : row.Expired instant) (passed : ∀ call ∈ later, instant ≤ call.clock.reading) :
    handed (earlier ++ later) outboxId = handed earlier outboxId := by
  obtain ⟨moved, there, lost⟩ :=
    row_run (fun _ moved _ => Lost instant row.attempts moved) (history_ordered earlier)
    found ⟨rfl, .inl expired⟩ later
    fun call member _ _ _ _ _ _ _ _ effect lost => effect.lost (passed call member) lost
  rw [← attempts_eq_handed, ← attempts_eq_handed, history_append, OutboxState.attempts_of_found there,
    OutboxState.attempts_of_found found]
  exact lost.attempts

theorem handle_finish :
    handle state ⟨actor, clock, .finish outboxId token result⟩ = do
      let (status, after) ← finish state actor outboxId token result clock
      return (.finished status, after) := rfl

theorem finish_of_answered
    (answered : reply handle state ⟨actor, clock, .finish outboxId token result⟩ = .ok (.finished status)) :
    finish state actor outboxId token result clock =
      .ok (status, next handle state ⟨actor, clock, .finish outboxId token result⟩) := by
  have ok := ok_of_reply answered
  simp only [handle_finish, bind_ok, pair_ok, OutboxAnswer.finished.injEq, Prod.exists] at ok
  obtain ⟨_, _, ok, rfl, same⟩ := ok
  rw [ok, same]

theorem holds_of_changed
    (changed : next handle (history calls) ⟨actor, clock, .finish outboxId token result⟩ ≠ history calls) :
    Holds calls ⟨actor, clock, .finish outboxId token result⟩ outboxId token := by
  cases finished : finish (history calls) actor outboxId token result clock with
  | error refusal =>
    have refused : handle (history calls) ⟨actor, clock, .finish outboxId token result⟩ =
      .error refusal := by
      rw [handle_finish, finished]
      rfl
    exact absurd (next_of_error refused) changed
  | ok pair =>
    obtain ⟨status, after⟩ := pair
    have ok : handle (history calls) ⟨actor, clock, .finish outboxId token result⟩ = .ok
      (.finished status, after) := by
      rw [handle_finish, finished]
      rfl
    rw [next_of_ok ok] at changed
    obtain ⟨row, _, finishes⟩ := finish_ok finished
    rcases finishes.cases with ⟨-, -, -, unchanged⟩ | concluded
    · exact absurd unchanged changed
    · have named : row.outboxId = outboxId := find_key finishes.found
      obtain ⟨-, _, _, concludes⟩ :=
        conclude_ok (history_ordered calls) (named.symm ▸ finishes.found) concluded
      exact holds_of_leased finishes.found concludes.leased finishes.held concludes.unexpired finishes.known
        finishes.worker

theorem leased_next (call : OutboxCall) (found : (history calls).findRow outboxId = some row)
    (leased : row.status = .leased) : (next handle (history calls) call).findRow outboxId = some row ∨
    (row.Expired call.clock.start ∧
      (next handle (history calls) call).findRow outboxId = some { row with status := .quarantined }) ∨
    ∃ token result, call.request = .finish outboxId token result ∧ Holds calls call outboxId token := by
  cases result : handle (history calls) call with
  | error =>
    rw [next_of_error result]
    exact .inl found
  | ok pair =>
    obtain ⟨_, after⟩ := pair
    rw [next_of_ok result]
    obtain ⟨_, there, effect⟩ := (handle_effect (history_ordered calls) result).rows outboxId row found
    have named : row.outboxId = outboxId := find_key found
    generalize known : (history calls).current outboxId = current at effect
    generalize after.current outboxId = gained at effect
    cases effect with
    | kept => exact .inl there
    | expired expired => exact .inr (.inl ⟨expired, there⟩)
    | handed pending =>
      rw [leased] at pending
      cases pending
    | concluded request _ held unexpired worker =>
      exact .inr (.inr ⟨_, _, named ▸ request, holds_of_leased found leased held unexpired known worker⟩)

theorem recorded_once (calls : List OutboxCall) (outboxId : String) :
    (history calls).deliveries.countP (fun delivery => delivery.outboxId = outboxId) ≤ 1 := by
  have distinct : Ordered (history calls) ∧
    KeyedRows.Distinct DeliveryRecord.outboxId (history calls).deliveries := by
    refine run_preserves (fun state => Ordered state ∧
      KeyedRows.Distinct DeliveryRecord.outboxId state.deliveries)
      ⟨ordered_empty, nodup_nil⟩ (fun state call kept => ?_) calls
    refine next_of_answered (fun after => Ordered after ∧
      KeyedRows.Distinct DeliveryRecord.outboxId after.deliveries)
      kept fun answer after ok => ?_
    have effect := handle_effect kept.1 ok
    exact ⟨effect.ordered, effect.deliveries kept.2⟩
  exact countP_key_le_one distinct.2 outboxId

/-- The report that a finish of the run made, at the end of the run. -/
theorem history_reported (later : List OutboxCall)
    (answered : reply handle (history earlier) ⟨actor, clock, .finish outboxId token result⟩ =
      .ok (.finished status)) :
    ∃ moved,
      (history (earlier ++ ⟨actor, clock, .finish outboxId token result⟩ :: later)).findRow outboxId =
        some moved ∧
      Reported actor.principalId token result status
        (handed (earlier ++ [⟨actor, clock, .finish outboxId token result⟩]) outboxId)
        (history (earlier ++
          ⟨actor, clock, .finish outboxId token result⟩ :: later)).store.events.length moved
        ((history (earlier ++
          ⟨actor, clock, .finish outboxId token result⟩ :: later)).current outboxId) := by
  have finished := finish_of_answered answered
  rw [← history_append_one] at finished
  obtain ⟨row, there, reported⟩ := finish_reported (history_ordered earlier)
    (fun row found => (history_tracks earlier).rows outboxId row found) finished
  rw [append_cons, history_append, ← attempts_eq_handed, OutboxState.attempts_of_found there]
  exact row_run (Reported actor.principalId token result status row.attempts)
    (history_ordered _) there reported later
    fun _ _ _ _ _ _ _ _ _ grown effect reported => effect.reported grown reported

/-- The laws of the outbox. -/
theorem delivery_laws (calls : List OutboxCall) : DeliveryLaws calls where
  final := by
    rintro earlier later outboxId row rfl found final
    exact history_final found final
  bounded := handed_le calls
  lost := by
    rintro earlier later outboxId row instant rfl found expired passed
    exact handed_of_lost found expired passed
  exclusive := by
    rintro earlier ⟨actor, clock, request⟩ later outboxId token result - rfl changed
    rw [history_append_one] at changed
    exact holds_of_changed changed
  leased := by
    rintro earlier call later outboxId row - found leased
    rw [history_append_one]
    exact leased_next call found leased
  recorded := recorded_once calls
  repeated := by
    rintro earlier ⟨actor, clock, request⟩ later outboxId token result status rfl rfl answered again
    have finished := finish_ok (finish_of_answered answered)
    obtain ⟨row, current, finishes⟩ := finished
    obtain ⟨moved, there, reported⟩ := history_reported later answered
    rw [← attempts_eq_handed, OutboxState.attempts_of_found there, handle_finish]
    split
    · rename_i same
      rw [reported.repeated finishes.valid finishes.authorised there same]
      rfl
    · rename_i more
      have later := lt_of_le_of_ne reported.attempts (Ne.symm more)
      rw [reported.stale finishes.valid finishes.authorised there later]
      rfl
  contradicted := by
    rintro earlier ⟨_, _, _⟩ later outboxId token result status rfl rfl answered other
      again another differ
    obtain ⟨_, there, reported⟩ := history_reported later answered
    rw [handle_finish]
    cases finished : finish _ other outboxId token another again with
    | error refusal => exact ⟨refusal, rfl⟩
    | ok => exact absurd finished (reported.refuses (history_ordered _) there differ)

def sampleSender : Identity := ⟨"sender", .operator⟩

def sampleRetry : List OutboxCall :=
  let notification : Notification :=
    ⟨"n", .normal, .internal, "owner", "title", "message", none, none, none⟩
  [⟨sampleSender, ⟨0, 0⟩, .notify notification ⟨"n", "o"⟩⟩,
    ⟨sampleSender, ⟨1, 1⟩, .claim [telegramTopic] 60 fun _ => 0⟩,
    ⟨sampleSender, ⟨2, 2⟩, .finish "o" 1 ⟨none, some .transient, 1⟩⟩,
    ⟨sampleSender, ⟨seconds 9, seconds 9⟩, .claim [telegramTopic] 60 fun _ => 0⟩]

/-- A sender that repeats its report then is refused. -/
theorem retried_report_refused : ¬∀ earlier call later outboxId token result status,
    call.request = .finish outboxId token result →
      reply handle (history earlier) call = .ok (.finished status) →
    handle (history (earlier ++ call :: later)) call =
      .ok (.finished status, history (earlier ++ call :: later)) := by
  intro always
  have first : reply handle (history (sampleRetry.take 2)) ⟨sampleSender, ⟨2, 2⟩,
    .finish "o" 1 ⟨none, some .transient, 1⟩⟩ =
      .ok (.finished .pending) := by decide +kernel
  have again := always _ _ [⟨sampleSender, ⟨seconds 9, seconds 9⟩,
    .claim [telegramTopic] 60 fun _ => 0⟩] _ _ _ _ rfl first
  have refused : reply handle (history sampleRetry) ⟨sampleSender, ⟨2, 2⟩,
    .finish "o" 1 ⟨none, some .transient, 1⟩⟩ =
      .error (.domain "STALE_DELIVERY_LEASE") := by decide +kernel
  have answered := reply_of_ok again
  exact nomatch refused.symm.trans answered

end Liki.Delivery
