import Liki.Inference.BackendSteps

/-! What holds of the tables after any run of calls, by any number of workers and
with any clock readings: keys are distinct, an attempt belongs to a request, and
an attempt that is no longer `CREATED` has used up its finish key. -/
namespace Liki.Inference
open DecimalArithmetic CallSystem KeyedRows List PostgresBackend

def OperationKey.attempt : OperationKey → Option String
  | .claim attemptId | .reserve attemptId | .finish attemptId | .useful attemptId => some attemptId
  | .reconcile attemptId _ => some attemptId
  | _ => none

namespace PostgresBackend

variable {deployment : Deployment} {ctx : DecimalContext} {backend before after noted : PostgresBackend}
  {key : OperationKey} {requestId attemptId : String} {call : TimedCall}

section Updates

variable {changeRequest : RequestRow → RequestRow} {changeAttempt : AttemptRow → AttemptRow}

@[simp] theorem store_updateRequest :
    (backend.updateRequest requestId changeRequest).store = backend.store := rfl

@[simp] theorem attempts_updateRequest :
    (backend.updateRequest requestId changeRequest).attempts = backend.attempts := rfl

@[simp] theorem store_updateAttempt :
    (backend.updateAttempt attemptId changeAttempt).store = backend.store := rfl

@[simp] theorem requests_updateAttempt :
    (backend.updateAttempt attemptId changeAttempt).requests = backend.requests := rfl

@[simp] theorem store_updateCircuit :
    (backend.updateCircuit routeId change).store = backend.store := rfl

@[simp] theorem attempts_updateCircuit :
    (backend.updateCircuit routeId change).attempts = backend.attempts := rfl

@[simp] theorem findAttempt_updateRequest (other : String) :
    (backend.updateRequest requestId changeRequest).findAttempt other = backend.findAttempt other := rfl

@[simp] theorem findRequest_updateAttempt (other : String) :
    (backend.updateAttempt attemptId changeAttempt).findRequest other = backend.findRequest other := rfl

theorem findRequest_updateRequest (keeps : ∀ row, (changeRequest row).requestId = row.requestId)
    (other : String) :
    (backend.updateRequest requestId changeRequest).findRequest other =
      if other = requestId then (backend.findRequest other).map changeRequest
      else backend.findRequest other := by
  split
  · rename_i same
    subst same
    exact find_update_self fun row carried => (keeps row).trans carried
  · rename_i differ
    exact find_update_other (fun row carried => (keeps row).trans carried) differ

theorem findAttempt_updateAttempt_of_ne (differ : other ≠ attemptId)
    (keeps : ∀ row, row.inferenceAttemptId = attemptId →
      (changeAttempt row).inferenceAttemptId = attemptId) :
    (backend.updateAttempt attemptId changeAttempt).findAttempt other = backend.findAttempt other :=
  find_update_other keeps differ

end Updates

theorem Noted.findRequest (noting : Noted before noted key) (other : String) :
    noted.findRequest other = before.findRequest other := by
  simp [PostgresBackend.findRequest, noting.requests]

theorem Noted.findAttempt (noting : Noted before noted key) (other : String) :
    noted.findAttempt other = before.findAttempt other := by
  simp [PostgresBackend.findAttempt, noting.attempts]

/-- What holds of every database, whatever is called. -/
structure WellFormed (backend : PostgresBackend) : Prop where
  versioned : backend.store.Versioned
  requests : Distinct RequestRow.requestId backend.requests
  attempts : Distinct AttemptRow.inferenceAttemptId backend.attempts
  owned : ∀ row ∈ backend.attempts, (backend.findRequest row.inferenceRequestId).isSome
  answered : ∀ row ∈ backend.requests, ∀ attemptId ∈ row.completedAttemptId,
    .finish attemptId ∈ backend.store.keys
  mirrored : ∀ row ∈ backend.attempts, row.attemptJson.status = row.status
  settled : ∀ row ∈ backend.attempts, row.status ≠ .created →
    .finish row.inferenceAttemptId ∈ backend.store.keys ∧ row.attemptJson.totalCost = row.totalCost

theorem wellFormed_empty : empty.WellFormed where
  versioned := Store.versioned_empty
  requests := nodup_nil
  attempts := nodup_nil
  owned := by simp [empty]
  answered := by simp [empty]
  mirrored := by simp [empty]
  settled := by simp [empty]

theorem WellFormed.after_note (wellFormed : before.WellFormed) (noting : Noted before noted key) :
    noted.WellFormed where
  versioned := noting.versioned
  requests := by simpa [noting.requests] using wellFormed.requests
  attempts := by simpa [noting.attempts] using wellFormed.attempts
  owned := by simpa [noting.attempts, noting.findRequest] using wellFormed.owned
  answered := by
    intro row member attemptId answer
    rw [noting.requests] at member
    rw [noting.keys]
    exact mem_append_left _ (wellFormed.answered row member attemptId answer)
  mirrored := by simpa [noting.attempts] using wellFormed.mirrored
  settled := by
    intro row member done
    rw [noting.attempts] at member
    obtain ⟨used, same⟩ := wellFormed.settled row member done
    rw [noting.keys]
    exact ⟨mem_append_left _ used, same⟩

theorem WellFormed.updateRequest (wellFormed : backend.WellFormed)
    (keeps : ∀ row, (change row).requestId = row.requestId)
    (answers : ∀ row ∈ backend.requests, ∀ attemptId ∈ (change row).completedAttemptId,
      .finish attemptId ∈ backend.store.keys) :
    (backend.updateRequest requestId change).WellFormed where
  versioned := wellFormed.versioned
  requests := distinct_update (fun row carried => (keeps row).trans carried) wellFormed.requests
  attempts := wellFormed.attempts
  owned := by
    intro row member
    rw [findRequest_updateRequest keeps]
    have known := wellFormed.owned row member
    split
    · simpa using known
    · exact known
  answered := by
    intro row member attemptId answer
    rcases mem_update member with ⟨old, held, -, rfl⟩ | ⟨held, -⟩
    · exact answers old held attemptId answer
    · exact wellFormed.answered row held attemptId answer
  mirrored := wellFormed.mirrored
  settled := wellFormed.settled

theorem WellFormed.updateAttempt (wellFormed : backend.WellFormed)
    (keeps : ∀ row, (change row).inferenceAttemptId = row.inferenceAttemptId ∧
      (change row).inferenceRequestId = row.inferenceRequestId)
    (mirrors : ∀ row ∈ backend.attempts, row.inferenceAttemptId = attemptId →
      (change row).attemptJson.status = (change row).status)
    (settles : ∀ row ∈ backend.attempts, row.inferenceAttemptId = attemptId →
      (change row).status ≠ .created → .finish attemptId ∈ backend.store.keys ∧
        (change row).attemptJson.totalCost = (change row).totalCost) :
    (backend.updateAttempt attemptId change).WellFormed where
  versioned := wellFormed.versioned
  requests := wellFormed.requests
  attempts := distinct_update (fun row carried => (keeps row).1.trans carried) wellFormed.attempts
  owned := by
    intro row member
    rcases mem_update member with ⟨old, held, -, rfl⟩ | ⟨held, -⟩
    · rw [(keeps old).2]
      exact wellFormed.owned old held
    · exact wellFormed.owned row held
  answered := wellFormed.answered
  mirrored := by
    intro row member
    rcases mem_update member with ⟨old, held, carried, rfl⟩ | ⟨held, -⟩
    · exact mirrors old held carried
    · exact wellFormed.mirrored row held
  settled := by
    intro row member done
    rcases mem_update member with ⟨old, held, carried, rfl⟩ | ⟨held, -⟩
    · rw [(keeps old).1, carried]
      exact settles old held carried done
    · exact wellFormed.settled row held done

theorem WellFormed.found_attempt (wellFormed : backend.WellFormed)
    (held : backend.findAttempt attemptId = some stored) (member : row ∈ backend.attempts)
    (carried : row.inferenceAttemptId = attemptId) : row = stored := by
  subst carried
  exact Option.some_inj.mp ((find_of_mem wellFormed.attempts member).symm.trans held)

theorem WellFormed.found_request (wellFormed : backend.WellFormed)
    (found : backend.findRequest requestId = some stored) (member : row ∈ backend.requests)
    (carried : row.requestId = requestId) : row = stored := by
  subst carried
  exact Option.some_inj.mp ((find_of_mem wellFormed.requests member).symm.trans found)

theorem persisted_inferenceAttemptId (late : Bool) (attempt : InferenceAttempt) :
    (persisted late attempt).inferenceAttemptId = attempt.inferenceAttemptId := by
  cases late <;> rfl

theorem persisted_totalCost (late : Bool) (attempt : InferenceAttempt) :
    (persisted late attempt).totalCost = attempt.totalCost := by
  cases late <;> rfl

theorem WellFormed.step (wellFormed : before.WellFormed)
    (effect : Effect deployment ctx before call after) : after.WellFormed := by
  cases effect with
  | unchanged => exact wellFormed
  | admitted noting named absent =>
    rename_i request manifest noted
    have base := wellFormed.after_note noting
    exact {
      versioned := base.versioned
      requests := distinct_insert base.requests (by rw [noting.requests]; exact absent)
      attempts := base.attempts
      owned := by
        intro row member
        have known := base.owned row member
        simp only [findRequest] at known ⊢
        rw [find_append]
        simp [known]
      answered := by
        intro row member attemptId answer
        rcases mem_added member with older | newest
        · exact base.answered row older attemptId answer
        · rw [newest] at answer
          cases answer
      mirrored := base.mirrored
      settled := base.settled }
  | claimed noting found incomplete claims absent =>
    rename_i readings claimId claimedFor routeId leaseSeconds row attempt noted
    obtain ⟨route, -, claims⟩ := claims
    have base := wellFormed.after_note noting
    have fresh : find AttemptRow.inferenceAttemptId attempt.inferenceAttemptId noted.attempts = none := by
      rw [claims, noting.attempts]
      exact absent
    have inserted : { noted with attempts := noted.attempts ++
        [claimedRow attempt (readings.started + leaseDuration leaseSeconds)] }.WellFormed := {
      versioned := base.versioned
      requests := base.requests
      attempts := distinct_insert base.attempts fresh
      owned := by
        intro stored member
        rcases mem_added member with older | newest
        · exact base.owned stored older
        · rw [newest]
          have carried : row.requestId = claimedFor := find_key found
          have named : attempt.inferenceRequestId = claimedFor := by
            rw [claims]
            exact carried
          have known : (noted.findRequest attempt.inferenceRequestId).isSome := by
            rw [named, noting.findRequest, found]
            rfl
          exact known
      answered := base.answered
      mirrored := by
        intro stored member
        rcases mem_added member with older | newest
        · exact base.mirrored stored older
        · rw [newest, claims]
          rfl
      settled := by
        intro stored member done
        rcases mem_added member with older | newest
        · exact base.settled stored older done
        · rw [newest] at done
          exact absurd rfl done }
    exact inserted.updateRequest (fun _ => rfl) inserted.answered
  | reserved noting _ held _ pending =>
    have base := wellFormed.after_note noting
    rw [← noting.findAttempt] at held
    apply WellFormed.updateAttempt
    · exact base.updateRequest (fun _ => rfl) base.answered
    · exact fun _ => ⟨rfl, rfl⟩
    · exact fun row member _ => base.mirrored row member
    · intro row member carried done
      rw [base.found_attempt held member carried] at done
      exact absurd pending done
  | finished noting found held keeps filed =>
    rename_i readings attempt row stored kept artifactId noted
    have base := wellFormed.after_note noting
    have used : .finish attempt.inferenceAttemptId ∈ noted.store.keys := by
      rw [noting.keys]
      simp
    apply WellFormed.updateRequest
    · apply WellFormed.updateAttempt base
      · exact fun _ => ⟨rfl, rfl⟩
      · exact fun _ _ _ => rfl
      · exact fun _ _ _ _ => ⟨used, rfl⟩
    · exact fun _ => rfl
    · intro current member answered answer
      simp only [finishedRow] at answer
      split at answer
      · rw [← Option.mem_some_iff.mp answer, keeps, persisted_inferenceAttemptId]
        exact used
      · exact base.answered current member answered answer
  | noted noting => exact wellFormed.after_note noting
  | hibernated noting | revived noting =>
    exact (wellFormed.after_note noting).updateRequest (fun _ => rfl)
      (wellFormed.after_note noting).answered
  | recorded noting | routeRevived noting =>
    have base := wellFormed.after_note noting
    exact ⟨base.versioned, base.requests, base.attempts, base.owned, base.answered, base.mirrored,
      base.settled⟩
  | reconciled noting found held owned completed amounts =>
    rename_i readings billedFor billed providerCost row stored accrued noted
    have base := wellFormed.after_note noting
    rw [← noting.findAttempt] at held
    have carries : stored.inferenceAttemptId = billed := find_key held
    apply WellFormed.updateRequest
    · apply WellFormed.updateAttempt base
      · exact fun _ => ⟨rfl, rfl⟩
      · intro row member carried
        rw [base.found_attempt held member carried]
        exact base.mirrored stored (find_mem held)
      · intro row member carried done
        rw [base.found_attempt held member carried] at done
        have used := (base.settled stored (find_mem held) done).1
        exact ⟨carries ▸ used, rfl⟩
    · exact fun _ => rfl
    · exact base.answered
  | useful noting found held owned accepted =>
    rename_i readings markedFor marked reason row stored noted
    have base := wellFormed.after_note noting
    rw [← noting.findAttempt] at held
    have carries : stored.inferenceAttemptId = marked := find_key held
    have done : stored.status ≠ .created := by
      rw [← base.mirrored stored (find_mem held), accepted]
      decide
    obtain ⟨used, same⟩ := base.settled stored (find_mem held) done
    apply WellFormed.updateRequest
    · apply WellFormed.updateAttempt base
      · exact fun _ => ⟨rfl, rfl⟩
      · exact fun _ _ _ => rfl
      · intro row member carried _
        rw [base.found_attempt held member carried]
        exact ⟨carries ▸ used, same⟩
    · exact fun _ => rfl
    · exact base.answered

/-- What a key in the log says about the tables. -/
structure Keyed (backend : PostgresBackend) : Prop where
  named : ∀ request ∈ backend.requests.map RequestRow.request, request.inferenceRequestId ≠ ""
  admissions : ∀ idempotencyKey, .admission idempotencyKey ∈ backend.store.keys →
    ∃ request ∈ backend.requests.map RequestRow.request, request.idempotencyKey = idempotencyKey
  attempted : ∀ key ∈ backend.store.keys, ∀ attemptId ∈ key.attempt,
    attemptId ∈ backend.attempts.map AttemptRow.inferenceAttemptId
  charted : ∀ row ∈ backend.circuits, row.providerRouteId ≠ ""
  projected : ∀ row ∈ backend.circuits,
    (backend.store.state "inference_route_circuit" row.providerRouteId).isSome
  numbered : ∀ routeId version, .circuit routeId version ∈ backend.store.keys →
    version ≤ backend.store.version "inference_route_circuit" routeId

theorem keyed_empty : empty.Keyed where
  named := by simp [empty]
  admissions := by simp [empty, Store.keys, Store.empty]
  attempted := by simp [empty, Store.keys, Store.empty]
  charted := by simp [empty]
  projected := by simp [empty]
  numbered := by simp [empty, Store.keys, Store.empty]

/-- A write whose own key is accounted for keeps the log accounted for. -/
theorem Keyed.extend (keyed : before.Keyed) (noting : Noted before noted key)
    (store : after.store = noted.store) (newRequests : List InferenceRequest)
    (newAttempts : List String)
    (requests : after.requests.map RequestRow.request =
      before.requests.map RequestRow.request ++ newRequests)
    (attempts : after.attempts.map AttemptRow.inferenceAttemptId =
      before.attempts.map AttemptRow.inferenceAttemptId ++ newAttempts)
    (named : ∀ request ∈ newRequests, request.inferenceRequestId ≠ "")
    (admission : ∀ idempotencyKey, key = .admission idempotencyKey →
      ∃ request ∈ newRequests, request.idempotencyKey = idempotencyKey)
    (attempt : ∀ attemptId ∈ key.attempt,
      attemptId ∈ before.attempts.map AttemptRow.inferenceAttemptId ++ newAttempts)
    (circuits : ∀ row ∈ after.circuits,
      row.providerRouteId ∈ before.circuits.map CircuitRow.providerRouteId ∨
        row.providerRouteId ≠ "" ∧
          (noted.store.state "inference_route_circuit" row.providerRouteId).isSome)
    (circuit : ∀ routeId version, key = .circuit routeId version →
      version ≤ noted.store.version "inference_route_circuit" routeId) : after.Keyed where
  named := by
    intro request member
    rw [requests] at member
    rcases mem_append.mp member with older | newer
    · exact keyed.named request older
    · exact named request newer
  admissions := by
    intro idempotencyKey used
    rw [store, noting.keys] at used
    rw [requests]
    rcases mem_added used with older | newest
    · obtain ⟨request, member, same⟩ := keyed.admissions idempotencyKey older
      exact ⟨request, mem_append_left _ member, same⟩
    · obtain ⟨request, member, same⟩ := admission idempotencyKey newest.symm
      exact ⟨request, mem_append_right _ member, same⟩
  attempted := by
    intro other used attemptId names
    rw [store, noting.keys] at used
    rw [attempts]
    rcases mem_added used with older | newest
    · exact mem_append_left _ (keyed.attempted other older attemptId names)
    · rw [newest] at names
      exact attempt attemptId names
  charted := by
    intro row member
    rcases circuits row member with older | ⟨named, -⟩
    · obtain ⟨old, held, carried⟩ := mem_map.mp older
      exact carried ▸ keyed.charted old held
    · exact named
  projected := by
    intro row member
    rw [store]
    rcases circuits row member with older | ⟨-, newer⟩
    · obtain ⟨old, held, carried⟩ := mem_map.mp older
      exact carried ▸ noting.projects _ _ (keyed.projected old held)
    · exact newer
  numbered := by
    intro routeId version used
    rw [store, noting.keys] at used
    rw [store]
    rcases mem_added used with older | newest
    · exact (keyed.numbered routeId version older).trans (noting.advances _ _)
    · exact circuit routeId version newest.symm

theorem Keyed.in_place (keyed : before.Keyed) (noting : Noted before noted key)
    (store : after.store = noted.store)
    (requests : after.requests.map RequestRow.request = before.requests.map RequestRow.request)
    (attempts : after.attempts.map AttemptRow.inferenceAttemptId =
      before.attempts.map AttemptRow.inferenceAttemptId)
    (circuits : ∀ row ∈ after.circuits,
      row.providerRouteId ∈ before.circuits.map CircuitRow.providerRouteId)
    (attempt : ∀ attemptId ∈ key.attempt, (before.findAttempt attemptId).isSome)
    (noAdmission : ∀ idempotencyKey, key ≠ .admission idempotencyKey)
    (noOutcome : ∀ routeId version, key ≠ .circuit routeId version) : after.Keyed := by
  refine keyed.extend noting store [] [] (by simpa using requests) (by simpa using attempts)
    (by simp) ?_ ?_ ?_ ?_
  · intro idempotencyKey same
    exact absurd same (noAdmission idempotencyKey)
  · intro attemptId names
    obtain ⟨row, held⟩ := Option.isSome_iff_exists.mp (attempt attemptId names)
    have carried : row.inferenceAttemptId = attemptId := find_key held
    exact mem_append_left _ (carried ▸ mem_map_of_mem (find_mem held))
  · intro row member
    exact .inl (circuits row member)
  · intro routeId version same
    exact absurd same (noOutcome routeId version)

theorem Noted.circuit_ids (noting : Noted before noted key) :
    ∀ row ∈ noted.circuits,
      row.providerRouteId ∈ before.circuits.map CircuitRow.providerRouteId := by
  intro row member
  rw [noting.circuits] at member
  exact mem_map_of_mem member

theorem map_updateRequest (keeps : ∀ row, (change row).request = row.request) :
    (backend.updateRequest requestId change).requests.map RequestRow.request =
      backend.requests.map RequestRow.request :=
  map_update _ fun row _ => keeps row

theorem map_updateAttempt (keeps : ∀ row, (change row).inferenceAttemptId = row.inferenceAttemptId) :
    (backend.updateAttempt attemptId change).attempts.map AttemptRow.inferenceAttemptId =
      backend.attempts.map AttemptRow.inferenceAttemptId :=
  map_update _ fun row _ => keeps row

theorem Keyed.exchange (keyed : before.Keyed) (noting : Noted before noted key)
    (held : before.findAttempt attemptId = some stored) (names : key.attempt = some attemptId)
    (keepsAttempt : ∀ row, (changeAttempt row).inferenceAttemptId = row.inferenceAttemptId)
    (keepsRequest : ∀ row, (changeRequest row).request = row.request) :
    ((noted.updateAttempt attemptId changeAttempt).updateRequest requestId changeRequest).Keyed := by
  refine keyed.in_place noting rfl ?_ ?_ noting.circuit_ids ?_ ?_ ?_
  · rw [map_updateRequest keepsRequest, requests_updateAttempt, noting.requests]
  · rw [attempts_updateRequest, map_updateAttempt keepsAttempt, noting.attempts]
  · intro other same
    rw [names] at same
    cases same
    rw [held]
    rfl
  · rintro idempotencyKey rfl
    cases names
  · rintro routeId version rfl
    cases names

theorem Keyed.step (keyed : before.Keyed) (effect : Effect deployment ctx before call after) :
    after.Keyed := by
  cases effect with
  | unchanged => exact keyed
  | admitted noting named absent =>
    rename_i readings request manifest noted
    refine keyed.extend noting rfl [request] [] ?_ ?_ ?_ ?_ ?_ ?_ ?_
    · simp [noting.requests, admittedRow]
    · simp [noting.attempts]
    · simpa using named
    · rintro idempotencyKey same
      cases same
      exact ⟨request, by simp, rfl⟩
    · simp [OperationKey.attempt]
    · exact fun row member => .inl (noting.circuit_ids row member)
    · rintro routeId version ⟨⟩
  | claimed noting found incomplete claims absent =>
    rename_i readings claimId claimedFor routeId leaseSeconds row attempt noted
    obtain ⟨route, -, claims⟩ := claims
    refine keyed.extend noting rfl [] [claimId] ?_ ?_ ?_ ?_ ?_ ?_ ?_
    · rw [append_nil, ← noting.requests]
      exact map_update _ fun _ _ => rfl
    · simp [noting.attempts, claimedRow, claims, claimedAttempt]
    · simp
    · rintro idempotencyKey ⟨⟩
    · rintro attemptId ⟨⟩
      simp
    · exact fun row member => .inl (noting.circuit_ids row member)
    · rintro other version ⟨⟩
  | reserved noting _ held =>
    exact keyed.exchange noting held rfl (fun _ => rfl) fun _ => rfl
  | finished noting _ held =>
    exact keyed.exchange noting held rfl (fun _ => rfl) fun _ => rfl
  | noted noting =>
    refine keyed.in_place noting rfl (by rw [noting.requests]) (by rw [noting.attempts])
      noting.circuit_ids ?_ ?_ ?_
    · rintro attemptId ⟨⟩
    · rintro idempotencyKey ⟨⟩
    · rintro other version ⟨⟩
  | hibernated noting | revived noting =>
    refine keyed.in_place noting rfl ?_ ?_ noting.circuit_ids ?_ ?_ ?_
    · rw [map_updateRequest, noting.requests]
      exact fun _ => rfl
    · rw [attempts_updateRequest, noting.attempts]
    · rintro attemptId ⟨⟩
    · rintro idempotencyKey ⟨⟩
    · rintro other version ⟨⟩
  | recorded noting charted named projected numbered =>
    rename_i readings routeId succeeded failureThreshold row noted
    refine keyed.extend noting rfl [] [] ?_ ?_ ?_ ?_ ?_ ?_ ?_
    · simp [noting.requests]
    · simp [noting.attempts]
    · simp
    · rintro idempotencyKey ⟨⟩
    · rintro attemptId ⟨⟩
    · intro stored member
      rcases mem_upsert member with rfl | older
      · exact .inr (named ▸ ⟨charted, projected⟩)
      · exact .inl (noting.circuit_ids stored older)
    · rintro other version ⟨⟩
      exact numbered.ge
  | routeRevived noting =>
    refine keyed.in_place noting rfl ?_ ?_ ?_ ?_ ?_ ?_
    · rw [← noting.requests]
      rfl
    · rw [attempts_updateCircuit, noting.attempts]
    · intro row member
      rcases mem_update member with ⟨old, kept, -, rfl⟩ | ⟨kept, -⟩
      · exact noting.circuit_ids old kept
      · exact noting.circuit_ids row kept
    · rintro attemptId ⟨⟩
    · rintro idempotencyKey ⟨⟩
    · rintro other version ⟨⟩
  | reconciled noting _ held =>
    exact keyed.exchange noting held rfl (fun _ => rfl) fun _ => rfl
  | useful noting _ held =>
    exact keyed.exchange noting held rfl (fun _ => rfl) fun _ => rfl

/-- What holds of every reachable database. -/
structure Sound (backend : PostgresBackend) : Prop extends backend.WellFormed, backend.Keyed

theorem sound_empty : empty.Sound := ⟨wellFormed_empty, keyed_empty⟩

theorem Sound.step (sound : before.Sound) (effect : Effect deployment ctx before call after) :
    after.Sound :=
  ⟨sound.toWellFormed.step effect, sound.toKeyed.step effect⟩

theorem Sound.next (sound : backend.Sound) (call : TimedCall) :
    (CallSystem.next (handle deployment ctx) backend call).Sound :=
  sound.step (next_effect sound.versioned call)

theorem Sound.run (sound : backend.Sound) (calls : List TimedCall) :
    (CallSystem.run (handle deployment ctx) backend calls).Sound :=
  run_preserves Sound sound (fun _ call kept => kept.next call) calls

theorem Sound.requestId_ne (sound : backend.Sound)
    (found : backend.findRequest requestId = some row) : requestId ≠ "" := by
  have carried : row.requestId = requestId := find_key found
  exact carried ▸ sound.named row.request (mem_map_of_mem (find_mem found))

def numbersOf (backend : PostgresBackend) (requestId : String) : List ℕ :=
  (backend.attemptsOf requestId).map AttemptRow.attemptNo

structure Recorded (backend : PostgresBackend) : Prop where
  filed : ∀ stored ∈ backend.manifests, (backend.findRequest stored.inferenceRequestId).isSome
  counted : ∀ requestId,
    (backend.numbersOf requestId).foldr max 0 = (backend.numbersOf requestId).length
  marked : ∀ row ∈ backend.attempts, .useful row.inferenceAttemptId ∈ backend.store.keys →
    row.attemptJson.status = .decisionUseful

theorem recorded_empty : empty.Recorded where
  filed := by simp [empty]
  counted := by simp [numbersOf, attemptsOf, empty]
  marked := by simp [empty]

theorem numbersOf_updateAttempt (other : String)
    (keeps : ∀ row, (change row).inferenceRequestId = row.inferenceRequestId ∧
      (change row).attemptNo = row.attemptNo) :
    (backend.updateAttempt attemptId change).numbersOf other = backend.numbersOf other := by
  refine filter_map_update _ _ fun row _ => ⟨?_, (keeps row).2⟩
  rw [(keeps row).1]

theorem numbersOf_updateRequest (other : String) :
    (backend.updateRequest changed change).numbersOf other = backend.numbersOf other := rfl

theorem numbersOf_insert (row : AttemptRow) (other : String) :
    { backend with attempts := backend.attempts ++ [row] }.numbersOf other =
      backend.numbersOf other ++ if row.inferenceRequestId = other then [row.attemptNo] else [] := by
  by_cases own : row.inferenceRequestId = other <;> simp [numbersOf, attemptsOf, own]

theorem Noted.numbersOf (noting : Noted before noted key) (other : String) :
    noted.numbersOf other = before.numbersOf other := by
  simp [PostgresBackend.numbersOf, attemptsOf, noting.attempts]

/-- A stored request stays stored. -/
theorem Effect.keeps_requests (effect : Effect deployment ctx before call after)
    (known : (before.findRequest requestId).isSome) : (after.findRequest requestId).isSome := by
  have updated {state : PostgresBackend} {changed : String} {change : RequestRow → RequestRow}
      (keeps : ∀ row, (change row).requestId = row.requestId)
      (held : (state.findRequest requestId).isSome) :
      ((state.updateRequest changed change).findRequest requestId).isSome := by
    rw [findRequest_updateRequest keeps]
    split
    · simpa using held
    · exact held
  cases effect with
  | unchanged => exact known
  | admitted noting =>
    simp only [findRequest] at known ⊢
    rw [find_append, noting.requests]
    simp [known]
  | claimed noting =>
    refine updated ?_ ?_
    · exact fun _ => rfl
    · exact (noting.findRequest requestId).symm ▸ known
  | reserved noting | finished noting | hibernated noting | revived noting | reconciled noting
  | useful noting =>
    refine updated ?_ ?_
    · exact fun _ => rfl
    · exact (noting.findRequest requestId).symm ▸ known
  | noted noting | recorded noting | routeRevived noting =>
    exact (noting.findRequest requestId).symm ▸ known

theorem Recorded.step_filed (recorded : before.Recorded)
    (effect : Effect deployment ctx before call after) :
    ∀ stored ∈ after.manifests, (after.findRequest stored.inferenceRequestId).isSome := by
  have older (stored : ManifestRow) (member : stored ∈ before.manifests) :
      (after.findRequest stored.inferenceRequestId).isSome :=
    effect.keeps_requests (recorded.filed stored member)
  intro stored member
  cases effect with
  | unchanged => exact older stored member
  | admitted noting named absent =>
    rename_i readings request manifest noted
    rw [noting.manifests] at member
    rcases mem_added member with old | newest
    · exact older stored old
    · rw [newest]
      simp only [findRequest]
      rw [find_insert, noting.requests, show find _ _ _ = none from absent]
      simp [admittedRow, RequestRow.requestId]
  | claimed noting | reserved noting | finished noting | noted noting | hibernated noting
  | revived noting | recorded noting | routeRevived noting | reconciled noting | useful noting =>
    exact older stored (noting.manifests ▸ member)

theorem foldr_max_append (numbers : List ℕ) (number : ℕ) :
    (numbers ++ [number]).foldr max 0 = max (numbers.foldr max 0) number := by
  induction numbers with
  | nil => simp
  | cons _ _ ih =>
    rw [cons_append, foldr_cons, ih, foldr_cons, max_assoc]

theorem Recorded.step_counted (recorded : before.Recorded)
    (effect : Effect deployment ctx before call after) (requestId : String) :
    (after.numbersOf requestId).foldr max 0 = (after.numbersOf requestId).length := by
  have same (kept : after.numbersOf requestId = before.numbersOf requestId) :
      (after.numbersOf requestId).foldr max 0 = (after.numbersOf requestId).length := by
    rw [kept]
    exact recorded.counted requestId
  cases effect with
  | unchanged => exact same rfl
  | claimed noting found incomplete claims absent =>
    rename_i readings claimId claimedFor routeId leaseSeconds row attempt noted
    obtain ⟨_, -, claims⟩ := claims
    have number : attempt.attemptNo = (before.numbersOf claimedFor).foldr max 0 + 1 := by
      rw [claims]
      rfl
    have carried : row.requestId = claimedFor := find_key found
    have owner : attempt.inferenceRequestId = claimedFor := by
      rw [claims]
      exact carried
    rw [numbersOf_updateRequest, numbersOf_insert, noting.numbersOf]
    by_cases own : (claimedRow attempt (readings.started + leaseDuration leaseSeconds)).inferenceRequestId =
        requestId
    · have counted := recorded.counted requestId
      rw [if_pos own, foldr_max_append, length_append, counted]
      have next : (claimedRow attempt (readings.started + leaseDuration leaseSeconds)).attemptNo =
          (before.numbersOf requestId).length + 1 := by
        rw [← counted, ← own]
        exact number.trans (by rw [← owner]; rfl)
      rw [next]
      simp
    · rw [if_neg own, append_nil]
      exact recorded.counted requestId
  | admitted noting | noted noting | hibernated noting | revived noting | recorded noting
  | routeRevived noting => exact same (noting.numbersOf requestId)
  | reserved noting | finished noting | reconciled noting | useful noting =>
    refine same (Eq.trans (numbersOf_updateAttempt requestId ?_) (noting.numbersOf requestId))
    exact fun _ => ⟨rfl, rfl⟩

theorem Recorded.step_marked (recorded : before.Recorded) (sound : before.Sound)
    (effect : Effect deployment ctx before call after) :
    ∀ row ∈ after.attempts, .useful row.inferenceAttemptId ∈ after.store.keys →
      row.attemptJson.status = .decisionUseful := by
  -- a logged key other than this one says nothing new about who is useful
  have earlier {key : OperationKey} {noted : PostgresBackend} (noting : Noted before noted key)
      (other : ∀ attemptId, key ≠ .useful attemptId) {attemptId : String}
      (used : .useful attemptId ∈ noted.store.keys) : .useful attemptId ∈ before.store.keys := by
    rw [noting.keys] at used
    rcases mem_added used with older | newest
    · exact older
    · exact absurd newest.symm (other attemptId)
  intro row member used
  cases effect with
  | unchanged => exact recorded.marked row member used
  | admitted noting | noted noting | hibernated noting | revived noting | recorded noting
  | routeRevived noting =>
    exact recorded.marked row (noting.attempts ▸ member) (earlier noting (by simp) used)
  | claimed noting found incomplete claims absent =>
    rename_i readings claimId claimedFor routeId leaseSeconds stored attempt noted
    obtain ⟨_, -, claims⟩ := claims
    have known := earlier noting (by simp) used
    rcases mem_added member with older | newest
    · exact recorded.marked row (noting.attempts ▸ older) known
    · rw [newest, claims] at known
      obtain ⟨old, held, carried⟩ := mem_map.mp (sound.attempted _ known _ rfl)
      exact absurd carried (find_none.mp absent old held)
  | reserved noting =>
    have known := earlier noting (by simp) used
    rcases mem_update member with ⟨old, kept, carried, rfl⟩ | ⟨kept, -⟩
    · exact recorded.marked old (noting.attempts ▸ kept) known
    · exact recorded.marked row (noting.attempts ▸ kept) known
  | finished noting =>
    have known := earlier noting (by simp) used
    rcases mem_update member with ⟨old, kept, carried, rfl⟩ | ⟨kept, -⟩
    · have marked := recorded.marked old (noting.attempts ▸ kept) known
      have done : old.status ≠ .created := by
        rw [← sound.mirrored old (noting.attempts ▸ kept), marked]
        decide
      obtain ⟨finished, -⟩ := sound.settled old (noting.attempts ▸ kept) done
      rw [carried] at finished
      exact absurd finished noting.fresh
    · exact recorded.marked row (noting.attempts ▸ kept) known
  | reconciled noting _ held =>
    have known := earlier noting (by simp) used
    rcases mem_update member with ⟨old, kept, carried, rfl⟩ | ⟨kept, -⟩
    · have marked := recorded.marked old (noting.attempts ▸ kept) known
      rw [sound.found_attempt held (noting.attempts ▸ kept) carried] at marked
      exact marked
    · exact recorded.marked row (noting.attempts ▸ kept) known
  | useful noting =>
    rcases mem_update member with ⟨_, kept, _, rfl⟩ | ⟨kept, differ⟩
    · rfl
    · rw [store_updateRequest, store_updateAttempt, noting.keys] at used
      rcases mem_added used with older | newest
      · exact recorded.marked row (noting.attempts ▸ kept) older
      · exact absurd (OperationKey.useful.inj newest) differ

theorem Recorded.step (recorded : before.Recorded) (sound : before.Sound)
    (effect : Effect deployment ctx before call after) : after.Recorded where
  filed := recorded.step_filed effect
  counted := recorded.step_counted effect
  marked := recorded.step_marked sound effect

end PostgresBackend
end Liki.Inference
