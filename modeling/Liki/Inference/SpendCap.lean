import Liki.Inference.BackendAccounts
import Liki.Inference.Broker

/-! The spend cap of a request. A reservation is checked against the cap, but a
finish charges what the provider reports and a reconciliation what the provider
bills. The cap holds up to the overruns of these two, and nothing else passes it. -/
namespace Liki.Inference
open DecimalArithmetic DecimalContext CallSystem KeyedRows
namespace PostgresBackend

variable {deployment : Deployment} {ctx : DecimalContext} {backend before after noted : PostgresBackend}
  {key : OperationKey} {requestId : String} {call : TimedCall} {bound more : String → ℚ}
  {change : RequestRow → RequestRow}

/-- What an attempt is charged beyond what it has been charged or has reserved
so far. -/
def excess (backend : PostgresBackend) (attemptId : String) (cost : ℚ) : ℚ :=
  match backend.findAttempt attemptId with
  | none => 0
  | some stored => max 0 (cost - stored.totalCost)

/-- What a call charges a request beyond what was set aside or charged before. -/
def overrun (backend : PostgresBackend) (requestId : String) : TimedCall → ℚ
  | (_, .finishAttempt attempt) =>
    if attempt.inferenceRequestId = requestId then
      backend.excess attempt.inferenceAttemptId attempt.totalCost
    else 0
  | (_, .reconcileAttemptCost billedFor attemptId providerCost) =>
    if billedFor = requestId then backend.excess attemptId providerCost.value else 0
  | _ => 0

def overruns (deployment : Deployment) (ctx : DecimalContext) (requestId : String) :
    PostgresBackend → List TimedCall → ℚ
  | _, [] => 0
  | backend, call :: calls =>
    (if (handle deployment ctx backend call).isOk then backend.overrun requestId call else 0) +
      overruns deployment ctx requestId (next (handle deployment ctx) backend call) calls

theorem excess_nonneg (backend : PostgresBackend) (attemptId : String) (cost : ℚ) :
    0 ≤ backend.excess attemptId cost := by
  unfold excess
  split
  · exact le_rfl
  · exact le_max_left _ _

theorem overrun_nonneg (backend : PostgresBackend) (requestId : String) (call : TimedCall) :
    0 ≤ backend.overrun requestId call := by
  unfold overrun
  split
  · split
    · exact backend.excess_nonneg _ _
    · exact le_rfl
  · split
    · exact backend.excess_nonneg _ _
    · exact le_rfl
  · exact le_rfl

theorem le_excess (held : backend.findAttempt attemptId = some stored) (cost : ℚ) :
    cost - stored.totalCost ≤ backend.excess attemptId cost := by
  rw [excess, held]
  exact le_max_right _ _

/-- What every capped request has spent and set aside stays within its cap and
the bound. -/
def Capped (bound : String → ℚ) (backend : PostgresBackend) : Prop :=
  ∀ row ∈ backend.requests, ∀ maximum ∈ row.request.maxTotalAttemptCost,
    row.accruedCost + row.reservedCost ≤ maximum + bound row.requestId

def ExactCheck (ctx : DecimalContext) (before : PostgresBackend) : TimedCall → Prop
  | (_, .reserveCost requestId attemptId amount) =>
    ∀ row ∈ before.findRequest requestId, ∀ stored ∈ before.findAttempt attemptId,
      ctx.Fits (row.accruedCost + (row.reservedCost - stored.totalCost + amount))
  | _ => True

theorem Capped.mono (capped : backend.Capped bound) (grows : ∀ requestId, bound requestId ≤ more requestId) :
    backend.Capped more := fun row member maximum cap =>
  (capped row member maximum cap).trans (add_le_add le_rfl (grows row.requestId))

theorem Capped.after_note (capped : before.Capped bound) (noting : Noted before noted key) :
    noted.Capped bound := by
  simpa [Capped, noting.requests] using capped

theorem Capped.updateRequest (capped : backend.Capped bound)
    (keeps : ∀ row ∈ backend.requests, row.requestId = requestId →
      (change row).request = row.request ∧ ∀ maximum ∈ row.request.maxTotalAttemptCost,
        (change row).accruedCost + (change row).reservedCost ≤ maximum + bound requestId) :
    (backend.updateRequest requestId change).Capped bound := by
  intro row member maximum cap
  rcases mem_update member with ⟨old, held, carried, rfl⟩ | ⟨kept, -⟩
  · obtain ⟨same, within⟩ := keeps old held carried
    have named : (change old).requestId = requestId := by rw [RequestRow.requestId, same, ← carried]; rfl
    rw [named]
    exact within maximum (same ▸ cap)
  · exact capped row kept maximum cap

theorem Capped.updateRequest_of_same (capped : backend.Capped bound)
    (keeps : ∀ row, (change row).request = row.request ∧
      (change row).accruedCost = row.accruedCost ∧ (change row).reservedCost = row.reservedCost) :
    (backend.updateRequest requestId change).Capped bound := by
  refine capped.updateRequest fun row member carried => ?_
  obtain ⟨same, accrued, reserved⟩ := keeps row
  refine ⟨same, fun maximum cap => ?_⟩
  rw [accrued, reserved, ← carried]
  exact capped row member maximum cap

/-- Only a reservation, a finish and a reconciliation move the totals: the first
is checked, and the others add no more than their overrun. -/
theorem Capped.step (capped : before.Capped bound) (accounted : before.Accounted)
    (effect : Effect deployment ctx before call after) (exact : Exact ctx before call)
    (checked : ExactCheck ctx before call) (nonneg : ∀ requestId, 0 ≤ bound requestId) :
    after.Capped fun requestId => bound requestId + before.overrun requestId call := by
  have grown : before.Capped fun requestId => bound requestId + before.overrun requestId call :=
    capped.mono fun requestId => le_add_of_nonneg_right (before.overrun_nonneg requestId call)
  have grownNonneg : ∀ requestId, 0 ≤ bound requestId + before.overrun requestId call := fun requestId =>
    add_nonneg (nonneg requestId) (before.overrun_nonneg requestId call)
  cases effect with
  | unchanged => exact grown
  | admitted noting named absent =>
    rename_i readings request manifest noted
    intro row member maximum cap
    rcases mem_added member with older | newest
    · exact grown.after_note noting row older maximum cap
    · rw [newest] at cap ⊢
      have positive := request.total_cost_nonneg maximum cap
      have start := grownNonneg (admittedRow request manifest).requestId
      simp only [admittedRow] at start ⊢
      linarith
  | claimed noting found incomplete claims absent =>
    rename_i readings claimId claimedFor routeId leaseSeconds row attempt noted
    have base := grown.after_note noting
    exact Capped.updateRequest_of_same (show Capped _ { noted with attempts := _ } from base)
      fun _ => ⟨rfl, rfl, rfl⟩
  | reserved noting found held owned pending amounts within =>
    rename_i readings reservedFor reserving amount row stored reserved noted
    obtain ⟨released, extended⟩ := exact row found stored held
    have sum := checked row found stored held
    rw [sub_of_fits released, add_of_fits extended] at amounts
    refine (grown.after_note noting).updateRequest fun current member carried => ⟨rfl, fun maximum cap => ?_⟩
    have same : current = row :=
      accounted.found_request found (noting.requests ▸ member) carried
    subst same
    have checkedWithin := within maximum cap
    rw [amounts, add_of_fits sum] at checkedWithin
    have slack := grownNonneg reservedFor
    dsimp only
    rw [amounts]
    linarith
  | finished noting found held keeps filed =>
    rename_i readings attempt row stored kept artifactId noted
    obtain ⟨released, charged⟩ := exact row found stored held
    have cost : kept.totalCost = attempt.totalCost := by rw [keeps, persisted_totalCost]
    refine (grown.after_note noting).updateRequest fun current member carried => ⟨rfl, fun maximum cap => ?_⟩
    have same : current = row :=
      accounted.found_request found (noting.requests ▸ member) carried
    subst same
    have earlier := capped current (noting.requests ▸ member) maximum cap
    have exceeded := le_excess held attempt.totalCost
    rw [carried] at earlier
    simp only [finishedRow, cost, sub_of_fits released, add_of_fits charged, overrun, if_true]
    linarith
  | noted noting => exact grown.after_note noting
  | hibernated noting | revived noting =>
    exact (grown.after_note noting).updateRequest_of_same fun _ => ⟨rfl, rfl, rfl⟩
  | recorded noting | routeRevived noting =>
    have base := grown.after_note noting
    exact base
  | reconciled noting found held owned completed amounts =>
    rename_i readings billedFor billed providerCost row stored accrued noted
    have finished := accounted.status_ne_of_completed held completed
    obtain ⟨-, mirrored⟩ := accounted.settled stored (find_mem held) finished
    obtain ⟨released, charged⟩ := exact row found stored held
    rw [mirrored, sub_of_fits released, add_of_fits charged] at amounts
    refine (grown.after_note noting).updateRequest fun current member carried => ⟨rfl, fun maximum cap => ?_⟩
    have same : current = row :=
      accounted.found_request found (noting.requests ▸ member) carried
    subst same
    have earlier := capped current (noting.requests ▸ member) maximum cap
    have exceeded := le_excess held providerCost.value
    rw [carried] at earlier
    simp only [amounts, overrun, if_true]
    linarith
  | useful noting =>
    exact (grown.after_note noting).updateRequest_of_same fun _ => ⟨rfl, rfl, rfl⟩

/-- The calls a worker makes, with no total and no check rounded. -/
def Plain (ctx : DecimalContext) (before : PostgresBackend) (call : TimedCall) : Prop :=
  (Proper before call ∧ Exact ctx before call) ∧ ExactCheck ctx before call

theorem Capped.run {calls : List TimedCall} (capped : backend.Capped bound) (accounted : backend.Accounted)
    (nonneg : ∀ requestId, 0 ≤ bound requestId)
    (along : Along (handle deployment ctx) (Plain ctx) backend calls) :
    (run (handle deployment ctx) backend calls).Capped fun requestId =>
      bound requestId + overruns deployment ctx requestId backend calls := by
  induction calls generalizing backend bound with
  | nil => exact capped.mono fun requestId => le_of_eq (add_zero _).symm
  | cons call _ ih =>
    obtain ⟨⟨⟨proper, exact⟩, checked⟩, rest⟩ := along
    have effect : Effect deployment ctx backend call (next (handle deployment ctx) backend call) :=
      next_effect accounted.versioned call
    have charged : (next (handle deployment ctx) backend call).Capped fun requestId => bound requestId +
        if (handle deployment ctx backend call).isOk then backend.overrun requestId call else 0 := by
      cases answered : handle deployment ctx backend call with
      | error =>
        rw [next_of_error answered]
        exact capped.mono fun requestId => le_of_eq (add_zero _).symm
      | ok => exact capped.step accounted effect exact checked nonneg
    have step := ih charged (accounted.step effect proper exact) (fun requestId => ?_) rest
    · exact step.mono fun requestId => le_of_eq (by rw [overruns, add_assoc])
    · split
      · exact add_nonneg (nonneg requestId) (backend.overrun_nonneg requestId call)
      · exact add_nonneg (nonneg requestId) le_rfl

/-- In every run of a worker's calls whose totals and checks are not rounded,
what a request has spent and set aside passes its cap by no more than the
overruns of the run. -/
theorem spend_within_cap_and_overruns (deployment : Deployment) (calls : List TimedCall)
    (along : Along (handle deployment prec28) (Plain prec28) empty calls) :
    ∀ row ∈ (run (handle deployment prec28) empty calls).requests,
      ∀ maximum ∈ row.request.maxTotalAttemptCost, row.accruedCost + row.reservedCost ≤
        maximum + overruns deployment prec28 row.requestId empty calls := by
  have start : empty.Capped fun _ => 0 := fun row member => nomatch member
  intro row member maximum cap
  have within := start.run accounted_empty (fun _ => le_rfl) along row member maximum cap
  simpa using within

instance : Decidable (Plain ctx before call) := by
  obtain ⟨_, call⟩ := call
  induction call using BackendCall.casesOn <;> dsimp only [Plain, Proper, Exact, ExactCheck] <;> infer_instance

def cappedRequest (maximum : ℚ) (nonneg : 0 ≤ maximum) : InferenceRequest :=
  { sampleRequest with
    maxTotalAttemptCost := some maximum
    total_cost_nonneg := fun _ capped => Option.mem_some_iff.mp capped ▸ nonneg }

def attemptAt (reserved charged : ℚ) : List TimedCall :=
  sampleClaim ++ [(⟨1, 1⟩, .reserveCost "request" "attempt" reserved),
    (⟨2, 2⟩, .finishAttempt (sampleAnswer .semanticAccepted charged))]

theorem spend_within_cap_and_overruns_small :
    Along (handle sampleDeployment prec28) (Plain prec28) empty (attemptAt (1 / 2) (3 / 4)) ∧
    ∀ row ∈ (run (handle sampleDeployment prec28) empty (attemptAt (1 / 2) (3 / 4))).requests,
      ∀ maximum ∈ row.request.maxTotalAttemptCost, row.accruedCost + row.reservedCost ≤ maximum +
        overruns sampleDeployment prec28 row.requestId empty (attemptAt (1 / 2) (3 / 4)) :=
  have along : Along (handle sampleDeployment prec28) (Plain prec28) empty (attemptAt (1 / 2) (3 / 4)) := by
    decide +kernel
  ⟨along, spend_within_cap_and_overruns sampleDeployment (attemptAt (1 / 2) (3 / 4)) along⟩

def attemptsAtTheEdge : List TimedCall :=
  [(⟨0, 0⟩, .createOrGet (cappedRequest (10 ^ 22) (by norm_num)) sampleManifest),
    (⟨0, 0⟩, .claimAttempt "attempt" "request" "route" 60),
    (⟨1, 1⟩, .reserveCost "request" "attempt" (10 ^ 22 - 1 / 10 ^ 6)),
    (⟨2, 2⟩, .finishAttempt (sampleAnswer .retryableFailure (10 ^ 22 - 1 / 10 ^ 6))),
    (⟨3, 3⟩, .claimAttempt "second" "request" "route" 60),
    (⟨4, 4⟩, .reserveCost "request" "second" (2 / 10 ^ 6))]

/-- Some request has spent and set aside more than its cap. -/
def Passed (backend : PostgresBackend) : Prop :=
  ∃ row ∈ backend.requests, ∃ maximum ∈ row.request.maxTotalAttemptCost,
    maximum < row.accruedCost + row.reservedCost

instance (backend : PostgresBackend) : Decidable backend.Passed :=
  inferInstanceAs (Decidable (∃ row ∈ backend.requests, _))

/-- A provider that reports twice the estimated tokens passes the cap, and so
does, without an overrun, a sum that is rounded when it is checked. -/
theorem cap_is_passed :
    conservativeCost prec28 sampleRoute ⟨some 100000, some 0, some 0, some 0, some 0, "estimated"⟩
      .semanticAccepted = .ok 1 ∧
    responseCost prec28 sampleRoute ⟨some 200000, some 0, some 0, some 0, some 0, "provider_reported"⟩
      .semanticAccepted 1 = .ok 2 ∧
    (run (handle sampleDeployment prec28) empty (attemptAt 1 2)).Passed ∧
    overruns sampleDeployment prec28 "request" empty attemptsAtTheEdge = 0 ∧
    (run (handle sampleDeployment prec28) empty attemptsAtTheEdge).Passed := by
  decide +kernel

end PostgresBackend
end Liki.Inference
