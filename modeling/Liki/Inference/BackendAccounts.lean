import Liki.Inference.BackendInvariants

/-! The answer and the money of a request. The answer is set once, by the attempt
that holds the newest fence under an unexpired lease, and a late finish leaves
the answer and the artifacts alone. The two running totals of a request are the
sums over its attempts, as long as no update of a total has to be rounded. -/
namespace Liki.Inference
open DecimalArithmetic DecimalContext CallSystem KeyedRows
namespace PostgresBackend

variable {deployment : Deployment} {ctx : DecimalContext} {backend before after noted : PostgresBackend}
  {key : OperationKey} {requestId attemptId : String} {call : TimedCall}
  {change : RequestRow → RequestRow}

def completedOf (backend : PostgresBackend) (requestId : String) : Option String :=
  (backend.findRequest requestId).bind RequestRow.completedAttemptId

theorem completedResult_eq (requestId : String) :
    backend.completedResult requestId = (backend.completedOf requestId).bind fun attemptId =>
      (backend.findAttempt attemptId).map fun attempt =>
        ⟨requestId, attempt.attemptJson.status, attempt.attemptJson.outputArtifact, none,
          some attempt.attemptJson.providerRouteId⟩ := by
  unfold completedResult completedOf
  cases backend.findRequest requestId with
  | none => rfl
  | some row =>
    cases answer : row.completedAttemptId with
    | none => simp [answer]
    | some attemptId => cases held : backend.findAttempt attemptId <;> simp [answer, held]

theorem Noted.completedOf (noting : Noted before noted key) (requestId : String) :
    noted.completedOf requestId = before.completedOf requestId := by
  simp [PostgresBackend.completedOf, noting.findRequest]

theorem completedOf_updateRequest (keeps : ∀ row, (change row).requestId = row.requestId)
    (answers : ∀ row, (change row).completedAttemptId = row.completedAttemptId) (other : String) :
    (backend.updateRequest requestId change).completedOf other = backend.completedOf other := by
  unfold completedOf
  rw [findRequest_updateRequest keeps]
  split
  · cases backend.findRequest other <;> simp [answers]
  · rfl

theorem completedOf_updateAttempt {change : AttemptRow → AttemptRow} (other : String) :
    (backend.updateAttempt attemptId change).completedOf other = backend.completedOf other := rfl

structure Wins (before : PostgresBackend) (readings : Readings) (attempt : InferenceAttempt)
    (stored : AttemptRow) : Prop where
  held : before.findAttempt attempt.inferenceAttemptId = some stored
  accepted : attempt.status.accepted
  fence : stored.leaseFence = before.newestFence attempt.inferenceRequestId
  lease : readings.wall < stored.leaseUntil
  unanswered : before.completedOf attempt.inferenceRequestId = none

variable {attempt : InferenceAttempt} {row : RequestRow} {stored : AttemptRow}

variable {readings : Readings}

theorem wins_of_timely (found : before.findRequest attempt.inferenceRequestId = some row)
    (held : before.findAttempt attempt.inferenceAttemptId = some stored)
    (timely : before.stale readings row stored attempt = false) (accepted : attempt.status.accepted) :
    Wins before readings attempt stored := by
  simp only [stale, decide_eq_false_iff_not, not_or, not_not, not_le, not_and, accepted] at timely
  obtain ⟨own, newest, lease, unanswered⟩ := timely
  refine ⟨held, accepted, own.trans newest.symm, lease, ?_⟩
  cases answer : row.completedAttemptId with
  | none => simp [completedOf, found, answer]
  | some => simp [answer] at unanswered

/-- A call either leaves every answer alone or is a finish that wins one. -/
theorem completedOf_effect (effect : Effect deployment ctx before call after) :
    (∀ requestId, after.completedOf requestId = before.completedOf requestId) ∨
      ∃ readings attempt stored, call = (readings, .finishAttempt attempt) ∧
        Wins before readings attempt stored ∧ ∀ requestId, after.completedOf requestId =
          if requestId = attempt.inferenceRequestId then some attempt.inferenceAttemptId
          else before.completedOf requestId := by
  cases effect with
  | unchanged => exact .inl fun _ => rfl
  | admitted noting named absent =>
    rename_i readings request manifest noted
    refine .inl fun requestId => ?_
    unfold completedOf findRequest
    rw [noting.requests, find_insert]
    cases found : find RequestRow.requestId requestId before.requests with
    | some => rfl
    | none =>
      by_cases same : (admittedRow request manifest).requestId = requestId
      · rw [if_pos same]
        rfl
      · rw [if_neg same]
        rfl
  | claimed noting =>
    refine .inl fun requestId => ?_
    rw [completedOf_updateRequest]
    · exact noting.completedOf requestId
    · exact fun _ => rfl
    · exact fun _ => rfl
  | reserved noting =>
    refine .inl fun requestId => ?_
    rw [completedOf_updateAttempt, completedOf_updateRequest]
    · exact noting.completedOf requestId
    · exact fun _ => rfl
    · exact fun _ => rfl
  | finished noting found held keeps filed =>
    rename_i readings attempt row stored kept artifactId noted
    by_cases wins : before.stale readings row stored attempt = false ∧ attempt.status.accepted
    · right
      obtain ⟨timely, accepted⟩ := wins
      have same : kept = attempt := by rw [keeps, timely]; rfl
      refine ⟨readings, attempt, stored, rfl, wins_of_timely found held timely accepted, ?_⟩
      intro requestId
      unfold completedOf
      rw [findRequest_updateRequest]
      · split
        · rename_i own
          subst own
          rw [findRequest_updateAttempt, noting.findRequest, found]
          simp [finishedRow, same, accepted]
        · rw [findRequest_updateAttempt, noting.findRequest]
      · exact fun _ => rfl
    · left
      intro requestId
      have loses : kept.status.accepted = false := by
        rw [keeps]
        cases timely : before.stale readings row stored attempt with
        | true => rfl
        | false => simpa [timely, persisted] using wins
      rw [completedOf_updateRequest, completedOf_updateAttempt]
      · exact noting.completedOf requestId
      · exact fun _ => rfl
      · exact fun _ => by simp [finishedRow, loses]
  | noted noting => exact .inl noting.completedOf
  | hibernated noting | revived noting =>
    refine .inl fun requestId => ?_
    rw [completedOf_updateRequest]
    · exact noting.completedOf requestId
    · exact fun _ => rfl
    · exact fun _ => rfl
  | recorded noting | routeRevived noting => exact .inl noting.completedOf
  | reconciled noting =>
    refine .inl fun requestId => ?_
    rw [completedOf_updateRequest, completedOf_updateAttempt]
    · exact noting.completedOf requestId
    · exact fun _ => rfl
    · exact fun _ => rfl
  | useful noting =>
    refine .inl fun requestId => ?_
    rw [completedOf_updateRequest, completedOf_updateAttempt]
    · exact noting.completedOf requestId
    · exact fun _ => rfl
    · exact fun _ => rfl

theorem WellFormed.answered_key (wellFormed : backend.WellFormed)
    (answered : backend.completedOf requestId = some attemptId) :
    .finish attemptId ∈ backend.store.keys := by
  unfold completedOf at answered
  cases found : backend.findRequest requestId with
  | none =>
    rw [found] at answered
    cases answered
  | some row =>
    rw [found] at answered
    exact wellFormed.answered row (find_mem found) attemptId answered

theorem completedOf_stays (wellFormed : backend.WellFormed)
    (answered : backend.completedOf requestId = some attemptId) (calls : List TimedCall) :
    (run (handle deployment ctx) backend calls).completedOf requestId = some attemptId := by
  refine (run_preserves
    (fun state : PostgresBackend => state.WellFormed ∧ state.completedOf requestId = some attemptId)
    ⟨wellFormed, answered⟩ ?_ calls).2
  rintro state call ⟨well, held⟩
  refine ⟨well.step (next_effect well.versioned call), ?_⟩
  rcases completedOf_effect (next_effect well.versioned call) with same |
    ⟨readings, attempt, stored, -, wins, answers⟩
  · rw [same, held]
  · have other : requestId ≠ attempt.inferenceRequestId := by
      rintro rfl
      rw [wins.unanswered] at held
      cases held
    rw [answers, if_neg other, held]

theorem late_finish_effect (wellFormed : before.WellFormed)
    (found : before.findRequest attempt.inferenceRequestId = some row)
    (held : before.findAttempt attempt.inferenceAttemptId = some stored)
    (late : before.stale readings row stored attempt)
    (effect : Effect deployment ctx before (readings, .finishAttempt attempt) after) :
    after.store.artifacts = before.store.artifacts ∧
      ∀ requestId, after.completedResult requestId = before.completedResult requestId := by
  cases effect with
  | unchanged => exact ⟨rfl, fun _ => rfl⟩
  | finished noting found' held' keeps filed =>
    rename_i row' stored' kept artifactId noted
    cases found.symm.trans found'
    cases held.symm.trans held'
    refine ⟨filed late, fun requestId => ?_⟩
    have loses : kept.status.accepted = false := by rw [keeps, late]; rfl
    rw [completedResult_eq, completedResult_eq, completedOf_updateRequest, completedOf_updateAttempt,
      noting.completedOf]
    · cases answer : before.completedOf requestId with
      | none => rfl
      | some answering =>
        have used : .finish answering ∈ before.store.keys :=
          wellFormed.answered_key answer
        have differ : answering ≠ attempt.inferenceAttemptId := by
          rintro rfl
          exact noting.fresh used
        simp only [Option.bind_some, findAttempt_updateRequest]
        rw [findAttempt_updateAttempt_of_ne differ, noting.findAttempt]
        exact fun _ carried => carried
    · exact fun _ => rfl
    · exact fun _ => by simp [finishedRow, loses]

/-- What an attempt holds of its request's budget: its cost while it is `CREATED`. -/
def reservation (requestId : String) (row : AttemptRow) : ℚ :=
  if row.inferenceRequestId = requestId ∧ row.status = .created then row.totalCost else 0

def charge (requestId : String) (row : AttemptRow) : ℚ :=
  if row.inferenceRequestId = requestId ∧ row.status ≠ .created then row.totalCost else 0

def Balanced (backend : PostgresBackend) : Prop :=
  ∀ row ∈ backend.requests, row.reservedCost = total (reservation row.requestId) backend.attempts ∧
    row.accruedCost = total (charge row.requestId) backend.attempts

/-- The finishes that a worker makes: the attempt has left `CREATED` and names
the request it was claimed for. -/
def Proper (before : PostgresBackend) : TimedCall → Prop
  | (_, .finishAttempt attempt) => attempt.status ≠ .created ∧
      ∀ stored ∈ before.findAttempt attempt.inferenceAttemptId,
        stored.inferenceRequestId = attempt.inferenceRequestId
  | _ => True

def Exact (ctx : DecimalContext) (before : PostgresBackend) : TimedCall → Prop
  | (_, .reserveCost requestId attemptId amount) =>
    ∀ row ∈ before.findRequest requestId, ∀ stored ∈ before.findAttempt attemptId,
      ctx.Fits (row.reservedCost - stored.totalCost) ∧
        ctx.Fits (row.reservedCost - stored.totalCost + amount)
  | (_, .finishAttempt attempt) =>
    ∀ row ∈ before.findRequest attempt.inferenceRequestId,
      ∀ stored ∈ before.findAttempt attempt.inferenceAttemptId,
        ctx.Fits (row.reservedCost - stored.totalCost) ∧
          ctx.Fits (row.accruedCost + attempt.totalCost)
  | (_, .reconcileAttemptCost requestId attemptId providerCost) =>
    ∀ row ∈ before.findRequest requestId, ∀ stored ∈ before.findAttempt attemptId,
      ctx.Fits (row.accruedCost - stored.totalCost) ∧
        ctx.Fits (row.accruedCost - stored.totalCost + providerCost.value)
  | _ => True

/-- The tables with their totals, as long as finishes are proper. -/
structure Accounted (backend : PostgresBackend) : Prop extends backend.WellFormed where
  pending : ∀ row ∈ backend.attempts, row.status = .created → row.attemptJson.completedAt = none
  balanced : backend.Balanced

theorem Balanced.exchange (wellFormed : backend.WellFormed) (balanced : backend.Balanced)
    (found : backend.findRequest requestId = some row)
    (held : backend.findAttempt attemptId = some stored)
    (owned : stored.inferenceRequestId = requestId)
    (keepsRequest : ∀ row, (changeRequest row).requestId = row.requestId)
    (keepsAttempt : ∀ row, (changeAttempt row).inferenceRequestId = row.inferenceRequestId)
    (reserved : (changeRequest row).reservedCost =
      row.reservedCost - reservation requestId stored + reservation requestId (changeAttempt stored))
    (accrued : (changeRequest row).accruedCost =
      row.accruedCost - charge requestId stored + charge requestId (changeAttempt stored)) :
    ((backend.updateAttempt attemptId changeAttempt).updateRequest requestId changeRequest).Balanced := by
  intro current member
  rw [attempts_updateRequest]
  have exchanged (amount : AttemptRow → ℚ) : total amount
      (backend.updateAttempt attemptId changeAttempt).attempts =
        total amount backend.attempts - amount stored + amount (changeAttempt stored) :=
    total_update amount wellFormed.attempts held
  rw [exchanged, exchanged]
  rcases mem_update member with ⟨old, kept, carried, rfl⟩ | ⟨kept, differ⟩
  · have same := wellFormed.found_request found kept carried
    subst same
    obtain ⟨sums, charges⟩ := balanced old kept
    rw [keepsRequest, carried, reserved, accrued, sums, charges, carried]
    exact ⟨rfl, rfl⟩
  · obtain ⟨sums, charges⟩ := balanced current kept
    have foreign : ∀ changed : AttemptRow, changed.inferenceRequestId = requestId →
        reservation current.requestId changed = 0 ∧ charge current.requestId changed = 0 := by
      intro changed named
      have apart : changed.inferenceRequestId ≠ current.requestId := fun clash =>
        differ (clash.symm.trans named)
      simp [reservation, charge, apart]
    obtain ⟨oldHeld, oldCharged⟩ := foreign stored owned
    obtain ⟨newHeld, newCharged⟩ := foreign (changeAttempt stored) ((keepsAttempt stored).trans owned)
    rw [oldHeld, oldCharged, newHeld, newCharged, sums, charges]
    constructor <;> ring

theorem Balanced.after_note (balanced : before.Balanced) (noting : Noted before noted key) :
    noted.Balanced := by
  simpa [Balanced, noting.requests, noting.attempts] using balanced

theorem Balanced.updateRequest (balanced : backend.Balanced)
    (keeps : ∀ row, (change row).requestId = row.requestId ∧
      (change row).reservedCost = row.reservedCost ∧ (change row).accruedCost = row.accruedCost) :
    (backend.updateRequest requestId change).Balanced := by
  intro current member
  rcases mem_update member with ⟨old, kept, -, rfl⟩ | ⟨kept, -⟩
  · obtain ⟨named, reserved, accrued⟩ := keeps old
    rw [named, reserved, accrued]
    exact balanced old kept
  · exact balanced current kept

theorem accounted_empty : empty.Accounted where
  toWellFormed := wellFormed_empty
  pending := by simp [empty]
  balanced := by simp [Balanced, empty]

theorem pending_updateAttempt {change : AttemptRow → AttemptRow}
    (pending : ∀ row ∈ backend.attempts, row.status = .created → row.attemptJson.completedAt = none)
    (keeps : ∀ row ∈ backend.attempts, row.inferenceAttemptId = attemptId →
      (change row).status = .created → (change row).attemptJson.completedAt = none) :
    ∀ row ∈ (backend.updateAttempt attemptId change).attempts,
      row.status = .created → row.attemptJson.completedAt = none := by
  intro row member created
  rcases mem_update member with ⟨old, held, carried, rfl⟩ | ⟨held, -⟩
  · exact keeps old held carried created
  · exact pending row held created

theorem persisted_status_ne (proper : attempt.status ≠ .created) :
    (persisted late attempt).status ≠ .created := by
  cases late with
  | true => exact AttemptStatus.noConfusion
  | false => exact proper

theorem Accounted.status_ne_of_completed (accounted : backend.Accounted)
    (held : backend.findAttempt attemptId = some stored)
    (completed : stored.attemptJson.completedAt ≠ none) : stored.status ≠ .created := fun created =>
  completed (accounted.pending stored (find_mem held) created)

theorem Accounted.step_pending (accounted : before.Accounted)
    (effect : Effect deployment ctx before call after) (proper : Proper before call) :
    ∀ row ∈ after.attempts, row.status = .created → row.attemptJson.completedAt = none := by
  cases effect with
  | unchanged => exact accounted.pending
  | admitted noting | noted noting | hibernated noting | revived noting | recorded noting
  | routeRevived noting =>
    simpa [noting.attempts] using accounted.pending
  | claimed noting _ _ claims =>
    obtain ⟨route, -, rfl⟩ := claims
    intro row member created
    rw [attempts_updateRequest, noting.attempts] at member
    rcases mem_added member with older | newest
    · exact accounted.pending row older created
    · rw [newest]
      rfl
  | reserved noting =>
    refine pending_updateAttempt ?_ ?_
    · simpa [noting.attempts] using accounted.pending
    · intro row member _
      rw [attempts_updateRequest, noting.attempts] at member
      exact accounted.pending row member
  | finished noting _ _ keeps =>
    refine pending_updateAttempt ?_ ?_
    · simpa [noting.attempts] using accounted.pending
    · intro row member _ created
      rw [keeps] at created
      exact absurd created (persisted_status_ne proper.1)
  | reconciled noting found held owned completed amounts =>
    rename_i billedFor billed providerCost row stored accrued noted
    have finished := accounted.status_ne_of_completed held completed
    refine pending_updateAttempt ?_ ?_
    · simpa [noting.attempts] using accounted.pending
    · intro current member carried created
      rw [noting.attempts] at member
      rw [accounted.found_attempt held member carried] at created
      exact absurd created finished
  | useful noting =>
    refine pending_updateAttempt ?_ ?_
    · simpa [noting.attempts] using accounted.pending
    · intro row member _ created
      cases created

theorem Accounted.step_balanced (accounted : before.Accounted)
    (effect : Effect deployment ctx before call after) (proper : Proper before call)
    (exact : Exact ctx before call) : after.Balanced := by
  cases effect with
  | unchanged => exact accounted.balanced
  | admitted noting named absent =>
    rename_i readings request manifest noted
    have base := accounted.balanced.after_note noting
    intro row member
    rcases mem_added member with older | newest
    · exact base row older
    · have nothing : ∀ amount : AttemptRow → ℚ, (∀ stored ∈ noted.attempts,
          stored.inferenceRequestId ≠ request.inferenceRequestId → amount stored = 0) →
          total amount noted.attempts = 0 := by
        intro amount none
        refine total_eq_zero fun stored held => none stored held ?_
        intro named
        have known := (accounted.toWellFormed.after_note noting).owned stored held
        rw [named, noting.findRequest, absent] at known
        cases known
      rw [newest]
      refine ⟨(nothing _ ?_).symm, (nothing _ ?_).symm⟩
      · intro stored held apart
        exact if_neg fun named => apart named.1
      · intro stored held apart
        exact if_neg fun named => apart named.1
  | claimed noting found incomplete claims absent =>
    rename_i readings claimId claimedFor routeId leaseSeconds row attempt noted
    have base := accounted.balanced.after_note noting
    refine Balanced.updateRequest ?_ fun _ => ⟨rfl, rfl, rfl⟩
    intro current member
    obtain ⟨reserved, accrued⟩ := base current member
    rw [total_insert, total_insert, reserved, accrued]
    constructor
    · simp [reservation, claimedRow]
    · simp [charge, claimedRow]
  | reserved noting found held owned pending amounts within =>
    rename_i readings reservedFor reserving amount row stored reserved noted
    have base := accounted.toWellFormed.after_note noting
    obtain ⟨released, extended⟩ := exact row found stored held
    rw [sub_of_fits released, add_of_fits extended] at amounts
    rw [← noting.findRequest] at found
    rw [← noting.findAttempt] at held
    refine Balanced.exchange base (accounted.balanced.after_note noting) found held owned
      (fun _ => rfl) (fun _ => rfl) ?_ ?_
    · simp [reservation, owned, pending, amounts]
    · simp [charge, pending]
  | finished noting found held keeps filed =>
    rename_i readings attempt row stored kept artifactId noted
    have base := accounted.toWellFormed.after_note noting
    have pending : stored.status = .created := by
      by_contra done
      obtain ⟨used, -⟩ := accounted.settled stored (find_mem held) done
      rw [show stored.inferenceAttemptId = _ from find_key held] at used
      exact noting.fresh used
    have owned := proper.2 stored held
    have leaves : kept.status ≠ .created := keeps ▸ persisted_status_ne proper.1
    obtain ⟨released, charged⟩ := exact row found stored held
    rw [← noting.findRequest] at found
    rw [← noting.findAttempt] at held
    refine Balanced.exchange base (accounted.balanced.after_note noting) found held owned
      (fun _ => rfl) (fun _ => rfl) ?_ ?_
    · simp [reservation, owned, pending, leaves, finishedRow, sub_of_fits released]
    · have cost : kept.totalCost = attempt.totalCost := by rw [keeps, persisted_totalCost]
      simp [charge, owned, pending, leaves, finishedRow, cost, add_of_fits charged]
  | noted noting => exact accounted.balanced.after_note noting
  | hibernated noting | revived noting =>
    exact (accounted.balanced.after_note noting).updateRequest fun _ => ⟨rfl, rfl, rfl⟩
  | recorded noting | routeRevived noting =>
    have base := accounted.balanced.after_note noting
    exact base
  | reconciled noting found held owned completed amounts =>
    rename_i readings billedFor billed providerCost row stored accrued noted
    have base := accounted.toWellFormed.after_note noting
    have finished := accounted.status_ne_of_completed held completed
    obtain ⟨-, same⟩ := accounted.settled stored (find_mem held) finished
    obtain ⟨released, charged⟩ := exact row found stored held
    rw [same, sub_of_fits released, add_of_fits charged] at amounts
    rw [← noting.findRequest] at found
    rw [← noting.findAttempt] at held
    refine Balanced.exchange base (accounted.balanced.after_note noting) found held owned
      (fun _ => rfl) (fun _ => rfl) ?_ ?_
    · simp [reservation, finished]
    · simp [charge, owned, finished, amounts]
  | useful noting found held owned accepted =>
    rename_i readings markedFor marked reason row stored noted
    have base := accounted.toWellFormed.after_note noting
    have done : stored.status ≠ .created := by
      rw [← accounted.mirrored stored (find_mem held), accepted]
      decide
    rw [← noting.findRequest] at found
    rw [← noting.findAttempt] at held
    refine Balanced.exchange base (accounted.balanced.after_note noting) found held owned
      (fun _ => rfl) (fun _ => rfl) ?_ ?_
    · simp [reservation, done]
    · simp [charge, owned, done]

theorem Accounted.step (accounted : before.Accounted)
    (effect : Effect deployment ctx before call after) (proper : Proper before call)
    (exact : Exact ctx before call) : after.Accounted where
  toWellFormed := accounted.toWellFormed.step effect
  pending := accounted.step_pending effect proper
  balanced := accounted.step_balanced effect proper exact

theorem Accounted.run (accounted : backend.Accounted) {calls : List TimedCall}
    (along : Along (handle deployment ctx) (fun state call => Proper state call ∧ Exact ctx state call)
      backend calls) : (CallSystem.run (handle deployment ctx) backend calls).Accounted :=
  run_invariant _ accounted (fun _ call kept meets =>
    kept.step (next_effect kept.versioned call) meets.1 meets.2) along

instance (backend : PostgresBackend) : Decidable backend.Balanced :=
  inferInstanceAs (Decidable (∀ row ∈ backend.requests, _))

end PostgresBackend
end Liki.Inference
