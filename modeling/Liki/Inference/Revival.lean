import Liki.Inference.BackendCalls
import Liki.Library.OneTimeKeys

/-! Hibernating and reviving. A reason goes into the operation key, so it is spent
by the call that uses it: a cycle of hibernations and revivals is accepted
throughout exactly when no effective call is repeated, and an open circuit can be
closed exactly with a reason that has not closed it before. -/
namespace Liki.Inference
open DecimalArithmetic Checks CallSystem KeyedRows OneTimeKeys

/-- A reason with something other than white space in it. -/
abbrev Reason := { reason : String // ¬blank reason }

/-- The calls that move a request in and out of hibernation. -/
inductive Dormancy where
  | hibernate (reason : Reason)
  | revive (reason : Reason)
  deriving DecidableEq

def Dormancy.call (requestId : String) : Dormancy → BackendCall
  | .hibernate reason => .hibernate requestId reason
  | .revive reason => .revive requestId reason

def Dormancy.key (requestId : String) : Dormancy → OperationKey
  | .hibernate reason => .hibernate requestId reason
  | .revive reason => .revive requestId reason

def dormancyMachine : Machine RequestStatus (Readings × Dormancy) Dormancy where
  spend
    | _, (_, .hibernate reason) => some (.hibernate reason)
    | status, (_, .revive reason) => if status = .hibernated then some (.revive reason) else none
  advance
    | _, (_, .hibernate _) => .hibernated
    | status, (_, .revive _) => if status = .hibernated then .admitted else status

/-- The calls that move a route's circuit. -/
inductive CircuitCall where
  | record (succeeded : Bool) (failureThreshold : { threshold : ℤ // 0 < threshold })
  | revive (reason : Reason)

def CircuitCall.call (routeId : String) : CircuitCall → BackendCall
  | .record succeeded threshold => .recordRouteOutcome routeId succeeded threshold
  | .revive reason => .reviveRoute routeId reason

def circuitMachine : Machine (ℕ × Bool) (Readings × CircuitCall) Reason where
  spend
    | (_, isOpen), (_, .revive reason) => if isOpen then some reason else none
    | _, (_, .record _ _) => none
  advance
    | (failures, _), (_, .record succeeded threshold) =>
      let counted := if succeeded then 0 else failures + 1
      (counted, decide ((threshold : ℤ) ≤ counted))
    | (failures, isOpen), (_, .revive _) => if isOpen then (0, false) else (failures, isOpen)

namespace PostgresBackend

variable {deployment : Deployment} {ctx : DecimalContext} {backend : PostgresBackend}
  {requestId routeId : String} {change : RequestRow → RequestRow}
  {request : TransitionRequest AggregateState Metadata} {row : RequestRow} {after : PostgresBackend}

def dormancyHandle (deployment : Deployment) (ctx : DecimalContext) (requestId : String) :
    Handler PostgresBackend (Readings × Dormancy) ServiceError BackendAnswer :=
  fun backend (readings, call) => handle deployment ctx backend (readings, call.call requestId)

def circuitHandle (deployment : Deployment) (ctx : DecimalContext) (routeId : String) :
    Handler PostgresBackend (Readings × CircuitCall) ServiceError BackendAnswer :=
  fun backend (readings, call) => handle deployment ctx backend (readings, call.call routeId)

def Incomplete (requestId : String) (backend : PostgresBackend) (status : RequestStatus) : Prop :=
  backend.Sound ∧ ∃ row, backend.findRequest requestId = some row ∧ row.completedAttemptId = none ∧
    row.status = status

theorem findRequest_log_update (found : backend.findRequest requestId = some row)
    (keeps : ∀ row, (change row).requestId = row.requestId) :
    ((backend.log key request).updateRequest requestId change).findRequest requestId =
      some (change row) := by
  rw [findRequest_updateRequest keeps, if_pos rfl]
  exact congrArg (Option.map change) found

theorem Incomplete.moves
    (ok : handle deployment ctx backend call =
      .ok (answer, (backend.log key request).updateRequest requestId change))
    (sound : backend.Sound) (found : backend.findRequest requestId = some row)
    (incomplete : row.completedAttemptId = none)
    (keeps : ∀ row, (change row).requestId = row.requestId)
    (answers : (change row).completedAttemptId = row.completedAttemptId) :
    Incomplete requestId ((backend.log key request).updateRequest requestId change)
      (change row).status :=
  ⟨sound.step (handle_effect sound.versioned ok), change row, findRequest_log_update found keeps,
    answers.trans incomplete, rfl⟩

theorem dormancy_key_inj {first second : Dormancy} :
    first.key requestId = second.key requestId ↔ first = second := by
  cases first <;> cases second <;> simp [Dormancy.key, Subtype.ext_iff]

theorem dormancy_key_used (spent : Dormancy) (call : Dormancy) :
    call.key requestId ∈
        ((backend.log (spent.key requestId) request).updateRequest requestId change).store.keys ↔
      call.key requestId ∈ backend.store.keys ∨ some spent = some call := by
  simp [log, dormancy_key_inj, eq_comm]

theorem done_of_ok {result : Except ServiceError PostgresBackend} (ok : result = .ok after) :
    (result.map fun next => (BackendAnswer.done, next)) = .ok (.done, after) := by
  rw [ok]
  rfl

theorem flag_of_ok {result : Except ServiceError (Bool × PostgresBackend)}
    (ok : result = .ok (flag, after)) :
    (result.map fun (flag, next) => (BackendAnswer.flag flag, next)) = .ok (.flag flag, after) := by
  rw [ok]
  rfl

theorem dormancy_followed : dormancyMachine.Followed (dormancyHandle deployment ctx requestId)
    (Incomplete requestId) (fun backend call => call.key requestId ∈ backend.store.keys) where
  refuses := by
    rintro backend status ⟨readings, call⟩ spent ⟨sound, row, found, incomplete, rfl⟩ spends used
    cases call with
    | hibernate reason =>
      cases spends
      refine ⟨.domain "IDEMPOTENCY_CONFLICT", ?_⟩
      have taken : OperationKey.hibernate requestId reason ∈ backend.store.keys := used
      have refused := hibernate_at deployment reason.2 sound found incomplete
      rw [if_pos taken] at refused
      simp only [dormancyHandle, Dormancy.call, handle, refused]
      rfl
    | revive reason =>
      simp only [dormancyMachine] at spends
      split at spends
      · rename_i hibernated
        cases spends
        refine ⟨.domain "IDEMPOTENCY_CONFLICT", ?_⟩
        have taken : OperationKey.revive requestId reason ∈ backend.store.keys := used
        have refused := revive_at deployment reason.2 sound found incomplete
        rw [if_neg (not_not.mpr hibernated), if_pos taken] at refused
        simp only [dormancyHandle, Dormancy.call, handle, refused]
        rfl
      · cases spends
  answers := by
    rintro backend status ⟨readings, call⟩ ⟨sound, row, found, incomplete, rfl⟩ unused
    cases call with
    | hibernate reason =>
      have fresh : OperationKey.hibernate requestId reason ∉ backend.store.keys := unused _ rfl
      have accepted := hibernate_at deployment reason.2 sound found incomplete
      rw [if_neg fresh] at accepted
      have ok : handle deployment ctx backend (readings, .hibernate requestId reason) = .ok (.done, _) :=
        done_of_ok accepted
      refine ⟨_, _, ok, Incomplete.moves ok sound found incomplete (fun _ => rfl) rfl, ?_⟩
      exact dormancy_key_used (.hibernate reason)
    | revive reason =>
      have accepted := revive_at deployment reason.2 sound found incomplete
      by_cases hibernated : row.status = .hibernated
      · have spends : dormancyMachine.spend row.status (readings, .revive reason) =
            some (.revive reason) := by simp [dormancyMachine, hibernated]
        have fresh : OperationKey.revive requestId reason ∉ backend.store.keys := unused _ spends
        rw [if_neg (not_not.mpr hibernated), if_neg fresh] at accepted
        have ok : handle deployment ctx backend (readings, .revive requestId reason) =
            .ok (.flag true, _) := flag_of_ok accepted
        have leads := Incomplete.moves ok sound found incomplete (fun _ => rfl) rfl
        refine ⟨_, _, ok, ?_, ?_⟩
        · simpa [dormancyMachine, hibernated] using leads
        · intro call
          rw [spends]
          exact dormancy_key_used (.revive reason) call
      · rw [if_pos hibernated] at accepted
        refine ⟨.flag false, backend, ?_, ?_, ?_⟩
        · simp only [dormancyHandle, Dormancy.call, handle, accepted]
          rfl
        · simpa [dormancyMachine, hibernated] using ⟨sound, row, found, incomplete, rfl⟩
        · simp [dormancyMachine, hibernated]

/-- A route's circuit with its failures and its state. -/
def Charted (routeId : String) (backend : PostgresBackend) (circuit : ℕ × Bool) : Prop :=
  backend.Sound ∧ backend.circuitOf routeId = circuit

theorem circuit_followed (named : routeId ≠ "") :
    circuitMachine.Followed (circuitHandle deployment ctx routeId) (Charted routeId)
      (fun backend reason => .circuitRevive routeId reason ∈ backend.store.keys) where
  refuses := by
    rintro backend circuit ⟨readings, call⟩ spent ⟨sound, rfl⟩ spends used
    cases call with
    | record => cases spends
    | revive reason =>
      simp only [circuitMachine] at spends
      split at spends
      · rename_i isOpen
        cases spends
        refine ⟨.domain "IDEMPOTENCY_CONFLICT", ?_⟩
        have refused := reviveRoute_at deployment named spent.2 sound
        rw [if_pos isOpen, if_pos used] at refused
        simp only [circuitHandle, CircuitCall.call, handle, refused]
        rfl
      · cases spends
  answers := by
    rintro backend circuit ⟨readings, call⟩ ⟨sound, rfl⟩ unused
    cases call with
    | record succeeded threshold =>
      have accepted := recordRouteOutcome_at deployment named succeeded threshold.2 sound
      have ok : handle deployment ctx backend
          (readings, .recordRouteOutcome routeId succeeded threshold) = .ok (.done, _) :=
        done_of_ok accepted
      refine ⟨_, _, ok, ⟨sound.step (handle_effect sound.versioned ok), ?_⟩, ?_⟩
      · simp [circuitOf, findCircuit, find_upsert, circuitMachine]
      · intro reason
        simp [log, circuitMachine]
    | revive reason =>
      have accepted := reviveRoute_at deployment named reason.2 sound
      by_cases isOpen : (backend.circuitOf routeId).2
      · have spends : circuitMachine.spend (backend.circuitOf routeId) (readings, .revive reason) =
            some reason := by simp [circuitMachine, isOpen]
        rw [if_pos isOpen, if_neg (unused _ spends)] at accepted
        have ok : handle deployment ctx backend (readings, .reviveRoute routeId reason) =
            .ok (.flag true, _) := flag_of_ok accepted
        refine ⟨_, _, ok, ⟨sound.step (handle_effect sound.versioned ok), ?_⟩, ?_⟩
        · rw [circuitOf_close]
          simp [circuitMachine, isOpen]
        · intro other
          rw [spends]
          simp [log, eq_comm, Subtype.ext_iff]
      · rw [if_neg isOpen] at accepted
        have closed : (backend.circuitOf routeId).2 = false := by simpa using isOpen
        refine ⟨.flag false, backend, flag_of_ok accepted, ⟨sound, ?_⟩, ?_⟩
        · simp [circuitMachine, closed, Prod.ext_iff]
        · simp [circuitMachine, closed]

/-- After any run, a sequence of hibernations and revivals of an incomplete
request is accepted throughout, and leaves it in the status of its last effective
call, if and only if no effective call is repeated, in the sequence or from
before it. Likewise the outcomes and revivals of a route's circuit are accepted
throughout, and leave it as they should, if and only if no reason closes the
circuit twice. -/
theorem cycles_accepted_iff (deployment : Deployment) (ctx : DecimalContext)
    (earlier : List TimedCall) {requestId routeId : String} {row : RequestRow}
    (found : (run (handle deployment ctx) empty earlier).findRequest requestId = some row)
    (incomplete : row.completedAttemptId = none) (named : routeId ≠ "")
    (dormancy : List (Readings × Dormancy)) (circuit : List (Readings × CircuitCall)) :
    let before := run (handle deployment ctx) empty earlier
    ((AllAnswered (dormancyHandle deployment ctx requestId) before dormancy ∧
        ((run (dormancyHandle deployment ctx requestId) before dormancy).findRequest requestId).map
          RequestRow.status = some (dormancyMachine.final row.status dormancy)) ↔
      (dormancyMachine.spent row.status dormancy).Nodup ∧
        ∀ call ∈ dormancyMachine.spent row.status dormancy,
          call.key requestId ∉ before.store.keys) ∧
    ((AllAnswered (circuitHandle deployment ctx routeId) before circuit ∧
        (run (circuitHandle deployment ctx routeId) before circuit).circuitOf routeId =
          circuitMachine.final (before.circuitOf routeId) circuit) ↔
      (circuitMachine.spent (before.circuitOf routeId) circuit).Nodup ∧
        ∀ reason ∈ circuitMachine.spent (before.circuitOf routeId) circuit,
          .circuitRevive routeId reason ∉ before.store.keys) := by
  intro before
  have sound : before.Sound := sound_empty.run earlier
  have dormant : Incomplete requestId before row.status := ⟨sound, row, found, incomplete, rfl⟩
  have charted : Charted routeId before (before.circuitOf routeId) := ⟨sound, rfl⟩
  constructor
  · rw [← dormancy_followed.answered_iff dormancy dormant]
    refine and_iff_left_of_imp fun answered => ?_
    obtain ⟨-, _, reached, -, status⟩ := dormancy_followed.run_related dormant answered
    rw [reached, Option.map_some, status]
  · rw [← (circuit_followed named).answered_iff circuit charted]
    exact and_iff_left_of_imp fun answered =>
      ((circuit_followed named).run_related charted answered).2

def sampleReadings : Readings := ⟨0, 0⟩

def quota : Reason := ⟨"quota", by decide⟩
def restored : Reason := ⟨"restored", by decide⟩
def outage : Reason := ⟨"outage", by decide⟩
def probe : Reason := ⟨"probe", by decide⟩

def failure : CircuitCall := .record false ⟨1, by decide⟩

/-- A request that hibernates twice for different reasons, and a route that is
revived once. -/
theorem distinct_reasons_accepted :
    let before := run (handle sampleDeployment prec28) empty
      [(sampleReadings, .createOrGet sampleRequest sampleManifest)]
    AllAnswered (dormancyHandle sampleDeployment prec28 "request") before
      [(sampleReadings, .hibernate quota),
        (sampleReadings, .revive restored),
        (sampleReadings, .hibernate outage)] ∧
    AllAnswered (circuitHandle sampleDeployment prec28 "route") before
      [(sampleReadings, failure),
        (sampleReadings, .revive probe)] := by
  intro before
  have found : before.findRequest "request" = some (admittedRow sampleRequest sampleManifest) := by
    decide +kernel
  have named : "route" ≠ "" := by decide
  have settled := cycles_accepted_iff sampleDeployment prec28
    [(sampleReadings, .createOrGet sampleRequest sampleManifest)] found rfl named
    [(sampleReadings, .hibernate quota),
      (sampleReadings, .revive restored),
      (sampleReadings, .hibernate outage)]
    [(sampleReadings, failure), (sampleReadings, .revive probe)]
  exact ⟨(settled.1.mpr (by decide +kernel)).1, (settled.2.mpr (by decide +kernel)).1⟩

/-- A reason that recurs is refused: the request cannot be hibernated again, and
the open circuit stays open. -/
theorem recurring_reason_refused :
    let before := run (handle sampleDeployment prec28) empty
      [(sampleReadings, .createOrGet sampleRequest sampleManifest)]
    ¬AllAnswered (dormancyHandle sampleDeployment prec28 "request") before
      [(sampleReadings, .hibernate quota),
        (sampleReadings, .revive restored),
        (sampleReadings, .hibernate quota)] ∧
    ¬AllAnswered (circuitHandle sampleDeployment prec28 "route") before
      [(sampleReadings, failure),
        (sampleReadings, .revive probe),
        (sampleReadings, failure),
        (sampleReadings, .revive probe)] := by
  decide +kernel

end PostgresBackend
end Liki.Inference
