import Liki.Inference.Egress
import Liki.Inference.Pricing
import Liki.Inference.Revival
import Mathlib.Data.String.Basic

/-! Runs of the broker. The suitable routes are sorted by expected cost and the first of
each correlation domain moves to the front; of the routes that have an adapter a run tries
the first of each domain. The order within a domain survives both steps, so that is the
cheapest one. A route is tried again only after a retryable failure. -/
namespace Liki.Inference
open DecimalArithmetic Checks CallSystem KeyedRows List

/-- A computation that changes the world, also where it raises. -/
abbrev Act (World : Type) := ExceptT ServiceError (StateM World)

inductive ConsultFailure where
  | timeout
  | transport (errorClass : String) (retryable : Bool)
  /-- Any other exception of an adapter or a validator. -/
  | defect

/-- A response as `_validate_response` judged it. -/
structure Judged where
  response : RawProviderResponse
  status : AttemptStatus
  artifact : Option Document
  errorClass : Option String

/-- The backend, the adapters with the validation of their answers, and the clock. -/
structure Services (World : Type) where
  createOrGet : InferenceRequest → ContextManifest → Act World InferenceRequest
  completedResult : String → Act World (Option InferenceResult)
  circuitIsOpen : World → String → Bool
  claimAttempt : String → String → ℚ → Act World InferenceAttempt
  reserveCost : String → String → ℚ → Act World Bool
  finishAttempt : InferenceAttempt → Act World Bool
  appendEvent : String → String → Payload → Act World Unit
  hibernate : String → String → Act World Unit
  recordRouteOutcome : String → Bool → ℤ → Act World Unit
  consult : InferenceRequest → CompiledContext → ProviderRoute → Act World (Except ConsultFailure Judged)
  utcnow : Act World Time
  /-- The backoff before the same route is tried again. -/
  sleep : Act World Unit

variable {World : Type} (services : Services World) (broker : InferenceBroker) (language : Language)
  (request : InferenceRequest) (context : CompiledContext) (usage : Usage)

def hibernatedResult (requestId reason : String) : InferenceResult :=
  ⟨requestId, .hibernated, none, some reason, none⟩

/-- The result of an attempt that was finished elsewhere meanwhile. -/
def lateResult (attempt : InferenceAttempt) : Act World InferenceResult := do
  services.appendEvent request.inferenceRequestId "late_result_deduplicated"
    [("attempt_id", .text attempt.inferenceAttemptId)]
  return hibernatedResult request.inferenceRequestId "late_result_deduplicated"

/-- `_finish_transport_failure`. -/
def finishTransportFailure (route : ProviderRoute) (attempt : InferenceAttempt) (reservation : ℚ)
    (errorClass : String) (retryable : Bool) : Act World InferenceResult := do
  let failed ← failedAttempt prec28 route reservation (← services.utcnow) attempt errorClass retryable
  if ← services.finishAttempt failed then
    services.recordRouteOutcome route.routeId false broker.retryPolicy.circuitFailureThreshold
    services.appendEvent request.inferenceRequestId "inference_attempt_failed"
      [("route_id", .text route.routeId), ("error_class", .text errorClass)]
    return ⟨request.inferenceRequestId, failed.status, none, some errorClass, some route.routeId⟩
  else lateResult services request attempt

/-- What `_attempt` does with an answered attempt. -/
def finishAnswered (route : ProviderRoute) (attempt : InferenceAttempt) (judged : Judged) :
    Act World InferenceResult := do
  if ← services.finishAttempt attempt then
    services.recordRouteOutcome route.routeId judged.status.accepted
      broker.retryPolicy.circuitFailureThreshold
    services.appendEvent request.inferenceRequestId "inference_attempt_completed"
      [("attempt_id", .text attempt.inferenceAttemptId), ("final_status", .status judged.status),
        ("layers", .texts (if judged.artifact.isSome then ["TRANSPORT_SUCCESS", "SCHEMA_SUCCESS"]
          else ["TRANSPORT_SUCCESS"]))]
    return ⟨request.inferenceRequestId, judged.status, judged.artifact, judged.errorClass,
      some route.routeId⟩
  else lateResult services request attempt

/-- `_attempt`. -/
def attemptRoute (route : ProviderRoute) : Act World InferenceResult := do
  let reservation ← conservativeCost prec28 route usage .semanticAccepted
  let lease := language.floatAdd
    (max (request.maxLatencySec.getD 0) route.capabilities.timeoutSeconds) 5
  let claimed ← tryCatch
    (some <$> services.claimAttempt request.inferenceRequestId route.routeId lease) fun refusal =>
      match refusal with
      | .concurrentModification _ => return none
      | refusal => throw refusal
  match claimed with
  | none => return hibernatedResult request.inferenceRequestId "lease_superseded"
  | some claimed =>
    let attempt := preparedAttempt route claimed
    if ← services.reserveCost request.inferenceRequestId attempt.inferenceAttemptId reservation then
      let failed attempt := finishTransportFailure services broker request route attempt reservation
      let consulted : Act World (Except ConsultFailure (Judged × InferenceAttempt)) := do
        match ← services.consult request context route with
        | .error failure => return .error failure
        | .ok judged =>
          return .ok (judged, ← answeredAttempt prec28 route reservation (← services.utcnow) attempt
            judged.response judged.status judged.artifact judged.errorClass)
      match ← tryCatch consulted fun _ => return .error .defect with
      | .ok (judged, answered) =>
        tryCatch (finishAnswered services broker request route answered judged) fun _ =>
          failed answered "adapter_or_validator_failure" false
      | .error .timeout => failed attempt "caller_timeout" true
      | .error (.transport errorClass retryable) => failed attempt errorClass retryable
      | .error .defect => failed attempt "adapter_or_validator_failure" false
    else
      let _ ← services.finishAttempt (deniedAttempt (← services.utcnow) attempt)
      services.appendEvent request.inferenceRequestId "inference_budget_denied"
        [("route_id", .text route.routeId)]
      return hibernatedResult request.inferenceRequestId "budget_exhausted"

def tryRoute (attempt : Act World InferenceResult) :
    ℕ → Act World (List InferenceResult × Option InferenceResult)
  | 0 => return ([], none)
  | remaining + 1 => do
    let result ← attempt
    if result.status.accepted then return ([result], some result)
    else if result.status = .hibernated then
      services.hibernate request.inferenceRequestId (result.failureReason.getD "attempt_hibernated")
      return ([result], some result)
    else if result.status ≠ .retryableFailure ∨ remaining = 0 then return ([result], none)
    else
      services.sleep
      let (later, outcome) ← tryRoute attempt remaining
      return (result :: later, outcome)

def tryRoutes (attempt : ProviderRoute → Act World InferenceResult) :
    List String → List ProviderRoute →
      Act World (List (ProviderRoute × InferenceResult) × Option InferenceResult)
  | _, [] => return ([], none)
  | usedDomains, route :: routes =>
    if route.upstreamCorrelationDomain ∈ usedDomains then tryRoutes attempt usedDomains routes
    else do
      let (results, outcome) ←
        tryRoute services request (attempt route) (broker.retryPolicy.sameRouteRetries + 1).toNat
      match outcome with
      | some result => return (results.map (route, ·), some result)
      | none =>
        let (later, outcome) ← tryRoutes attempt (route.upstreamCorrelationDomain :: usedDomains) routes
        return (results.map (route, ·) ++ later, outcome)

/-- `InferenceBroker.run`, with the attempts it makes. -/
def InferenceBroker.run : Act World (InferenceResult × List (ProviderRoute × InferenceResult)) := do
  if context.manifest.content.completenessStatus = .blocking then
    throw (.value "blocking context cannot be sent to a provider")
  let admitted ← services.createOrGet request context.manifest
  let requestId := admitted.inferenceRequestId
  if requestId ≠ request.inferenceRequestId then
    let completed ← services.completedResult requestId
    return (completed.getD (hibernatedResult requestId
      "semantic_request_already_in_progress_or_hibernated"), [])
  else
    let selected ← broker.selectRoutes language prec28 (services.circuitIsOpen (← get)) admitted context usage
    let routes := selected.filter (·.adapter ∈ broker.adapters)
    if routes = [] then
      services.hibernate requestId "no_eligible_route"
      return (hibernatedResult requestId "no_eligible_route", [])
    else
      let (attempts, outcome) ← tryRoutes services broker admitted
        (attemptRoute services broker language admitted context usage) [] routes
      match outcome with
      | some result => return (result, attempts)
      | none =>
        services.hibernate requestId "all_independent_routes_failed"
        return (hibernatedResult requestId "all_independent_routes_failed", attempts)

variable {services broker language request context usage}

def Before (language : Language) (usage : Usage) (taskClass : String) (first second : ProviderRoute) : Prop :=
  ∃ cost other, expectedCost language prec28 first usage taskClass = .ok cost ∧
    expectedCost language prec28 second usage taskClass = .ok other ∧ precedes (cost, first) (other, second)

def Independent (routes : List ProviderRoute) : Prop :=
  (routes.map ProviderRoute.upstreamCorrelationDomain).Nodup

structure Diversified (before : ProviderRoute → ProviderRoute → Prop)
    (suitable selected : List ProviderRoute) : Prop where
  perm : selected.Perm suitable
  split : ∃ first rest, selected = first ++ rest ∧ first.Pairwise before ∧ rest.Pairwise before ∧
    Independent first ∧ ∀ route ∈ suitable, ∃ early ∈ first,
      early.upstreamCorrelationDomain = route.upstreamCorrelationDomain ∧ (early = route ∨ before early route)

variable {circuitIsOpen : String → Bool} {routes selected suitable : List ProviderRoute}
  {route : ProviderRoute} {domains : List String} {before : ProviderRoute → ProviderRoute → Prop}
  {world after : World}

theorem suitableRoutes_sublist
    (ok : suitableRoutes language prec28 circuitIsOpen request context usage routes = .ok suitable) :
    suitable.Sublist routes := by
  induction routes generalizing suitable with
  | nil =>
    cases ok
    exact List.Sublist.slnil
  | cons first routes ih =>
    rw [suitableRoutes] at ok
    split at ok
    · obtain ⟨_, -, ok⟩ := bind_ok.mp ok
      split at ok
      · exact (ih ok).cons first
      · obtain ⟨_, found, same⟩ := bind_ok.mp ok
        cases same
        exact (ih found).cons_cons first
    · exact (ih ok).cons first

theorem diverse_unseen (member : route ∈ diverse domains routes) :
    route.upstreamCorrelationDomain ∉ domains := by
  induction routes generalizing domains with
  | nil => cases member
  | cons first routes ih =>
    rw [diverse] at member
    split at member
    · exact ih member
    · rename_i new
      rcases mem_cons.mp member with rfl | later
      · exact new
      · exact fun seen => ih later (mem_cons_of_mem _ seen)

theorem diverse_independent (domains : List String) (routes : List ProviderRoute) :
    Independent (diverse domains routes) := by
  induction routes generalizing domains with
  | nil => exact nodup_nil
  | cons first routes ih =>
    rw [diverse]
    split
    · exact ih domains
    · refine nodup_cons.mpr ⟨fun member => ?_, ih _⟩
      obtain ⟨_, later, same⟩ := mem_map.mp member
      exact diverse_unseen later (same ▸ mem_cons_self)

/-- Each kept route comes before the others of its domain. -/
theorem diverse_first (sorted : routes.Pairwise before) (member : route ∈ routes)
    (unseen : route.upstreamCorrelationDomain ∉ domains) :
    ∃ early ∈ diverse domains routes,
      early.upstreamCorrelationDomain = route.upstreamCorrelationDomain ∧ (early = route ∨ before early route) := by
  induction routes generalizing domains with
  | nil => cases member
  | cons first routes ih =>
    obtain ⟨least, sorted⟩ := pairwise_cons.mp sorted
    rw [diverse]
    by_cases same : route.upstreamCorrelationDomain = first.upstreamCorrelationDomain
    · rw [if_neg (same ▸ unseen)]
      refine ⟨first, mem_cons_self, same.symm, ?_⟩
      exact (mem_cons.mp member).imp Eq.symm (least route)
    · have later : route ∈ routes := (mem_cons.mp member).resolve_left fun here => same (here ▸ rfl)
      split
      · exact ih sorted later unseen
      · have apart : route.upstreamCorrelationDomain ∉ first.upstreamCorrelationDomain :: domains := by
          simp [same, unseen]
        obtain ⟨early, kept, law⟩ := ih sorted later apart
        exact ⟨early, mem_cons_of_mem _ kept, law⟩

theorem Independent.eq (independent : Independent routes) (member : first ∈ routes)
    (among : second ∈ routes)
    (same : first.upstreamCorrelationDomain = second.upstreamCorrelationDomain) : first = second :=
  inj_on_of_nodup_map independent member among same

theorem precedes_total (first second : ℚ × ProviderRoute) : precedes first second ∨ precedes second first := by
  unfold precedes
  rcases lt_trichotomy first.1 second.1 with less | same | more
  · exact .inl (.inl less)
  · rcases le_total first.2.routeId second.2.routeId with below | above
    · exact .inl (.inr ⟨same, below⟩)
    · exact .inr (.inr ⟨same.symm, above⟩)
  · exact .inr (.inl more)

theorem precedes_trans (earlier : precedes first second) (later : precedes second third) :
    precedes first third := by
  unfold precedes at *
  rcases earlier with less | ⟨same, below⟩
  · exact .inl (less.trans_le (later.elim le_of_lt fun equal => equal.1.le))
  · rw [same]
    exact later.imp id (And.imp id below.trans)

instance : Std.Total precedes := ⟨precedes_total⟩
instance : IsTrans (ℚ × ProviderRoute) precedes := ⟨fun _ _ _ => precedes_trans⟩

theorem selectRoutes_diversified
    (ok : broker.selectRoutes language prec28 circuitIsOpen request context usage = .ok selected) :
    ∃ suitable, suitableRoutes language prec28 circuitIsOpen request context usage broker.routes = .ok suitable ∧
      Diversified (Before language usage request.taskClass) suitable selected := by
  simp only [InferenceBroker.selectRoutes, bind_ok, pure_ok] at ok
  obtain ⟨suitable, collected, keyed, ranks, rfl⟩ := ok
  refine ⟨suitable, collected, ?_⟩
  set sorted := (keyed.insertionSort precedes).map Prod.snd with sortedEq
  have costs : ∀ route pair, ranked language prec28 usage request.taskClass route = .ok pair →
      expectedCost language prec28 route usage request.taskClass = .ok pair.1 ∧ pair.2 = route := by
    intro route pair ok
    obtain ⟨cost, priced, rfl⟩ := map_ok.mp ok
    exact ⟨priced, rfl⟩
  have keys : keyed.map Prod.snd = suitable := by
    rw [map_of_mapM (fun route _ pair ok => (costs route pair ok).2) ranks, map_id']
  have rearranged : sorted.Perm suitable := by
    rw [sortedEq, ← keys]
    exact (perm_insertionSort precedes keyed).map _
  have ordered : sorted.Pairwise (Before language usage request.taskClass) := by
    have known : ∀ pair ∈ keyed.insertionSort precedes,
        expectedCost language prec28 pair.2 usage request.taskClass = .ok pair.1 := by
      intro pair member
      obtain ⟨route, -, ok⟩ := mem_of_mapM ranks pair ((perm_insertionSort precedes keyed).mem_iff.mp member)
      obtain ⟨cost, rfl⟩ := costs route pair ok
      exact cost
    refine pairwise_map.mpr ((pairwise_insertionSort precedes keyed).imp_of_mem ?_)
    exact fun first second order => ⟨_, _, known _ first, known _ second, order⟩
  have distinct : sorted.Nodup := by
    have registered : broker.routes.Nodup := List.Nodup.of_map _ broker.distinct
    exact rearranged.nodup_iff.mpr ((suitableRoutes_sublist collected).nodup registered)
  have early := diverse_sublist [] sorted
  constructor
  · have moved : (diverse [] sorted).Perm (sorted.filter (· ∈ diverse [] sorted)) := by
      refine (perm_ext_iff_of_nodup (early.nodup distinct) (distinct.filter _)).mpr fun route => ?_
      simpa using fun member => early.subset member
    refine ((moved.append_right _).trans ?_).trans rearranged
    simpa using filter_append_perm (· ∈ diverse [] sorted) sorted
  · refine ⟨_, _, rfl, ordered.sublist early, ordered.sublist filter_sublist, diverse_independent _ _, ?_⟩
    intro route member
    exact diverse_first ordered (rearranged.mem_iff.mpr member) not_mem_nil

def Ends (result : InferenceResult) : Prop := result.status.accepted ∨ result.status = .hibernated

structure Tried (retries : ℤ) (chosen : List ProviderRoute)
    (attempts : List (ProviderRoute × InferenceResult)) : Prop where
  grouped : ∃ tried : List (ProviderRoute × List InferenceResult),
    attempts = tried.flatMap (fun entry => entry.2.map (entry.1, ·)) ∧ tried.map Prod.fst <+: chosen ∧
      ∀ entry ∈ tried, entry.2.length ≤ (retries + 1).toNat ∧
        ∀ result ∈ entry.2.dropLast, result.status = .retryableFailure
  stops : ∀ attempt ∈ attempts.dropLast, ¬Ends attempt.2

variable {α β : Type} {result : β}

theorem act_bind_ok {first : Act World α} :
    (first >>= rest) world = (.ok result, after) ↔
      ∃ value middle, first world = (.ok value, middle) ∧ rest value middle = (.ok result, after) := by
  change ExceptT.bindCont rest (first world).1 (first world).2 = _ ↔ _
  cases first world with
  | mk answer middle =>
    cases answer with
    | error refusal =>
      constructor
      · rintro ⟨⟩
      · rintro ⟨_, _, ⟨⟩, _⟩
    | ok value =>
      refine ⟨fun ran => ⟨value, middle, rfl, ran⟩, ?_⟩
      rintro ⟨_, _, ⟨⟩, ran⟩
      exact ran

theorem act_pure_ok :
    (pure value : Act World β) world = (.ok result, after) ↔ value = result ∧ world = after := by
  change (Except.ok value, world) = _ ↔ _
  rw [Prod.mk.injEq, Except.ok.injEq]

theorem act_lift_ok {computation : Except ServiceError β} :
    (liftM computation : Act World β) world = (.ok result, after) ↔ computation = .ok result ∧ world = after := by
  change (computation, world) = _ ↔ _
  rw [Prod.mk.injEq]

variable {attempt : Act World InferenceResult} {results : List InferenceResult}
  {outcome : Option InferenceResult} {attempts : List (ProviderRoute × InferenceResult)}
  {tryOne : ProviderRoute → Act World InferenceResult}

theorem tryRoute_law {remaining : ℕ}
    (ran : tryRoute services request attempt remaining world = (.ok (results, outcome), after)) :
    results.length ≤ remaining ∧ (∀ result ∈ results.dropLast, result.status = .retryableFailure) ∧
      (outcome = none → ∀ result ∈ results, ¬Ends result) := by
  induction remaining generalizing world results after with
  | zero =>
    obtain ⟨⟨⟩, -⟩ := act_pure_ok.mp ran
    simp
  | succ remaining ih =>
    obtain ⟨result, middle, -, ran⟩ := act_bind_ok.mp ran
    split at ran
    · obtain ⟨⟨⟩, -⟩ := act_pure_ok.mp ran
      simp
    · rename_i rejected
      split at ran
      · obtain ⟨_, hibernated, -, ran⟩ := act_bind_ok.mp ran
        obtain ⟨⟨⟩, -⟩ := act_pure_ok.mp ran
        simp
      · rename_i active
        have goes : ¬Ends result := not_or.mpr ⟨rejected, active⟩
        split at ran
        · obtain ⟨⟨⟩, -⟩ := act_pure_ok.mp ran
          simpa using goes
        · rename_i again
          obtain ⟨retryable, -⟩ := not_or.mp again
          obtain ⟨_, _, -, ran⟩ := act_bind_ok.mp ran
          obtain ⟨⟨later, _⟩, _, tried, ran⟩ := act_bind_ok.mp ran
          obtain ⟨⟨⟩, -⟩ := act_pure_ok.mp ran
          obtain ⟨few, retried, others⟩ := ih tried
          refine ⟨by simpa using few, ?_, fun none => forall_mem_cons.mpr ⟨goes, others none⟩⟩
          cases later with
          | nil => simp
          | cons next later => exact forall_mem_cons.mpr ⟨not_not.mp retryable, retried⟩

theorem tryRoutes_law {domains : List String}
    (ran : tryRoutes services broker request tryOne domains routes world = (.ok (attempts, outcome), after)) :
    Tried broker.retryPolicy.sameRouteRetries (diverse domains routes) attempts := by
  induction routes generalizing world domains attempts after with
  | nil =>
    obtain ⟨⟨⟩, -⟩ := act_pure_ok.mp ran
    exact ⟨⟨[], rfl, nil_prefix, by simp⟩, by simp⟩
  | cons route routes ih =>
    rw [tryRoutes] at ran
    rw [diverse]
    split at ran
    · rename_i used
      rw [if_pos used]
      exact ih ran
    · rename_i new
      rw [if_neg new]
      obtain ⟨⟨results, outcome⟩, _, tried, ran⟩ := act_bind_ok.mp ran
      obtain ⟨few, retried, goes⟩ := tryRoute_law tried
      cases outcome with
      | some result =>
        obtain ⟨⟨⟩, -⟩ := act_pure_ok.mp ran
        refine ⟨⟨[(route, results)], by simp, cons_prefix_cons.mpr ⟨rfl, nil_prefix⟩, ?_⟩, ?_⟩
        · simpa using ⟨few, retried⟩
        · rw [← map_dropLast]
          refine forall_mem_map.mpr fun result member => ?_
          simp [Ends, retried result member, AttemptStatus.accepted]
      | none =>
        obtain ⟨⟨_, _⟩, _, rest, ran⟩ := act_bind_ok.mp ran
        obtain ⟨⟨⟩, -⟩ := act_pure_ok.mp ran
        obtain ⟨⟨others, rfl, order, each⟩, stops⟩ := ih rest
        refine ⟨⟨(route, results) :: others, rfl, cons_prefix_cons.mpr ⟨rfl, order⟩,
          forall_mem_cons.mpr ⟨⟨few, retried⟩, each⟩⟩, fun attempt member => ?_⟩
        have passes : ∀ attempt ∈ results.map (route, ·), ¬Ends attempt.2 := forall_mem_map.mpr (goes rfl)
        rw [dropLast_append] at member
        split at member
        · exact passes attempt (mem_of_mem_dropLast member)
        · rcases mem_append.mp member with early | late
          · exact passes attempt early
          · exact stops attempt late

theorem Diversified.cheapest (diversified : Diversified before suitable selected)
    (keeps : ProviderRoute → Bool) (chosen : route ∈ diverse [] (selected.filter keeps))
    (member : other ∈ suitable) (kept : keeps other = true)
    (same : route.upstreamCorrelationDomain = other.upstreamCorrelationDomain) :
    route = other ∨ before route other := by
  obtain ⟨first, rest, rfl, sortedFirst, sortedRest, independent, least⟩ := diversified.split
  have ordered : (first ++ rest).Pairwise fun early late =>
      early.upstreamCorrelationDomain = late.upstreamCorrelationDomain → early = late ∨ before early late := by
    refine pairwise_append.mpr ⟨sortedFirst.imp fun order _ => .inr order,
      sortedRest.imp fun order _ => .inr order, fun early front late back alike => ?_⟩
    have given := diversified.perm.mem_iff.mp (mem_append_right first back)
    obtain ⟨leader, listed, shared, law⟩ := least late given
    rwa [independent.eq listed front (shared.trans alike.symm)] at law
  have listed := mem_filter.mpr ⟨diversified.perm.mem_iff.mpr member, kept⟩
  obtain ⟨_, listed, shared, law⟩ := diverse_first (ordered.filter keeps) listed not_mem_nil
  have leads := (diverse_independent [] _).eq listed chosen (shared.trans same.symm)
  rw [leads] at law
  exact law.elim .inl fun cheaper => cheaper same

namespace PostgresBackend

variable {deployment : Deployment} {ctx : DecimalContext} {backend : PostgresBackend} {routeId : String}
  {threshold : ℤ} {past : List Bool}

/-- What an answered call says about a route: `false` is a failure, `true` a success or a revival. -/
def outcomeOf (routeId : String) : TimedCall → Except ServiceError BackendAnswer → Option Bool
  | (_, .recordRouteOutcome named succeeded _), .ok _ => if named = routeId then some succeeded else none
  | (_, .reviveRoute named _), .ok (.flag true) => if named = routeId then some true else none
  | _, _ => none

/-- The outcomes of a run, the newest first. -/
def outcomes (deployment : Deployment) (ctx : DecimalContext) (routeId : String) :
    PostgresBackend → List Bool → List TimedCall → List Bool
  | _, past, [] => past
  | backend, past, call :: calls =>
    outcomes deployment ctx routeId (next (handle deployment ctx) backend call)
      ((outcomeOf routeId call (reply (handle deployment ctx) backend call)).toList ++ past) calls

def failuresSince (past : List Bool) : ℕ := (past.takeWhile fun succeeded => !succeeded).length

def Counts (routeId : String) (threshold : ℤ) (past : List Bool) (backend : PostgresBackend) : Prop :=
  backend.circuitOf routeId = (failuresSince past, decide (threshold ≤ failuresSince past))

def KeepsThreshold (routeId : String) (threshold : ℤ) (call : TimedCall) : Prop :=
  ∀ readings succeeded limit, call = (readings, .recordRouteOutcome routeId succeeded limit) → limit = threshold

theorem Counts.kept {after : PostgresBackend} (counts : Counts routeId threshold past backend)
    (same : after.findCircuit routeId = backend.findCircuit routeId) : Counts routeId threshold past after := by
  unfold Counts circuitOf
  rw [same]
  exact counts

theorem Counts.next (counts : Counts routeId threshold past backend) (sound : backend.Sound)
    (positive : 0 < threshold) (keeps : KeepsThreshold routeId threshold call) :
    Counts routeId threshold
      ((outcomeOf routeId call (reply (handle deployment ctx) backend call)).toList ++ past)
      (next (handle deployment ctx) backend call) := by
  cases result : handle deployment ctx backend call with
  | error refusal =>
    rw [next_of_error result, reply_of_error result]
    obtain ⟨readings, call⟩ := call
    cases call <;> exact counts
  | ok pair =>
    obtain ⟨_, after⟩ := pair
    rw [next_of_ok result, reply_of_ok result]
    obtain ⟨readings, call⟩ := call
    have effect := handle_effect sound.versioned result
    cases call
    case recordRouteOutcome named succeeded limit =>
      obtain ⟨stored, accepted, same⟩ := map_ok.mp result
      cases same
      simp only [recordRouteOutcome, failures_eq, bind_ok, guard_ok, pure_ok] at accepted
      obtain ⟨-, -, -, noted, moved, rfl⟩ := accepted
      obtain ⟨-, noting, -⟩ := transitionCircuit_ok sound.versioned moved
      by_cases about : named = routeId
      · subst about
        obtain rfl := keeps readings succeeded limit rfl
        rw [counts]
        cases succeeded <;> simp [Counts, circuitOf, findCircuit, find_upsert, outcomeOf, failuresSince]
      · have silent : outcomeOf routeId (readings, .recordRouteOutcome named succeeded limit) (.ok .done) = none :=
          if_neg about
        rw [silent]
        exact counts.kept ((find_upsert _).trans (by rw [if_neg about, noting.circuits]; rfl))
    case reviveRoute named reason =>
      obtain ⟨⟨_, _⟩, accepted, same⟩ := map_ok.mp result
      cases same
      simp only [reviveRoute, bind_ok, guard_ok] at accepted
      obtain ⟨-, -, -, accepted⟩ := accepted
      split at accepted
      · simp only [bind_ok, guard_ok, pair_ok] at accepted
        obtain ⟨-, _, moved, rfl, rfl⟩ := accepted
        obtain ⟨-, noting, -⟩ := transitionCircuit_ok sound.versioned moved
        by_cases about : named = routeId
        · subst about
          have below : ¬threshold ≤ 0 := not_le.mpr positive
          simpa [Counts, outcomeOf, failuresSince, below] using circuitOf_close
        · have silent : outcomeOf routeId (readings, .reviveRoute named reason) (.ok (.flag true)) = none :=
            if_neg about
          rw [silent]
          refine counts.kept (.trans (find_update_other ?_ (Ne.symm about)) ?_)
          · exact fun _ carried => carried
          · rw [noting.circuits]
            rfl
      · cases accepted
        exact counts
    all_goals
      have kept : after.circuits = backend.circuits := by
        cases effect with
        | unchanged => rfl
        | _ noting => exact noting.circuits
      exact counts.kept (by rw [findCircuit, kept]; rfl)

theorem Counts.run {calls : List TimedCall} (counts : Counts routeId threshold past backend)
    (sound : backend.Sound) (positive : 0 < threshold)
    (keeps : ∀ call ∈ calls, KeepsThreshold routeId threshold call) :
    Counts routeId threshold (outcomes deployment ctx routeId backend past calls)
      (run (handle deployment ctx) backend calls) := by
  induction calls generalizing backend past with
  | nil => exact counts
  | cons call calls ih =>
    obtain ⟨first, rest⟩ := forall_mem_cons.mp keeps
    exact ih (counts.next sound positive first) (sound.next call) rest

end PostgresBackend

def CheapestOf (broker : InferenceBroker) (before : ProviderRoute → ProviderRoute → Prop)
    (suitable : List ProviderRoute) (route : ProviderRoute) : Prop :=
  route ∈ suitable ∧ route.adapter ∈ broker.adapters ∧ ∀ other ∈ suitable, other.adapter ∈ broker.adapters →
    route.upstreamCorrelationDomain = other.upstreamCorrelationDomain → route = other ∨ before route other

/-- The broker selects the suitable routes with the cheapest of each domain first. A run
that returns tries, in this order, at most one route of each domain, the cheapest that
has an adapter. And a circuit is open when the failures since the last success or
revival reach its threshold. -/
theorem routes_tried_in_order (broker : InferenceBroker) (services : Services World) (language : Language)
    (context : CompiledContext) (usage : Usage) (deployment : Deployment) (ctx : DecimalContext) :
    (∀ circuitIsOpen request selected,
      broker.selectRoutes language prec28 circuitIsOpen request context usage = .ok selected →
      ∃ suitable, suitableRoutes language prec28 circuitIsOpen request context usage broker.routes = .ok suitable ∧
        Diversified (Before language usage request.taskClass) suitable selected) ∧
    (∀ request world result attempts after,
      broker.run services language request context usage world = (.ok (result, attempts), after) →
      attempts = [] ∨ ∃ admitted begun suitable selected chosen,
        services.createOrGet request context.manifest world = (.ok admitted, begun) ∧
        suitableRoutes language prec28 (services.circuitIsOpen begun) admitted context usage broker.routes =
          .ok suitable ∧
        broker.selectRoutes language prec28 (services.circuitIsOpen begun) admitted context usage = .ok selected ∧
        chosen.Sublist selected ∧ Independent chosen ∧
        (∀ route ∈ chosen, CheapestOf broker (Before language usage admitted.taskClass) suitable route) ∧
        Tried broker.retryPolicy.sameRouteRetries chosen attempts) ∧
    ∀ routeId threshold calls, 0 < threshold →
      (∀ call ∈ calls, PostgresBackend.KeepsThreshold routeId threshold call) →
      ((run (PostgresBackend.handle deployment ctx) .empty calls).circuitIsOpen routeId ↔ threshold ≤
        PostgresBackend.failuresSince (PostgresBackend.outcomes deployment ctx routeId .empty [] calls)) := by
  refine ⟨fun _ _ _ => selectRoutes_diversified, ?_, ?_⟩
  · intro request world result attempts after ran
    unfold InferenceBroker.run at ran
    split at ran
    · cases ran
    · obtain ⟨admitted, _, created, ran⟩ := act_bind_ok.mp ran
      split at ran
      · obtain ⟨_, middle, -, ran⟩ := act_bind_ok.mp ran
        obtain ⟨⟨⟩, -⟩ := act_pure_ok.mp ran
        exact .inl rfl
      · obtain ⟨_, middle, ⟨⟩, ran⟩ := act_bind_ok.mp ran
        obtain ⟨selected, _, lifted, ran⟩ := act_bind_ok.mp ran
        obtain ⟨chose, rfl⟩ := act_lift_ok.mp lifted
        dsimp only at ran
        split at ran
        · obtain ⟨_, hibernated, -, ran⟩ := act_bind_ok.mp ran
          obtain ⟨⟨⟩, -⟩ := act_pure_ok.mp ran
          exact .inl rfl
        · obtain ⟨⟨tried, outcome⟩, _, tries, ran⟩ := act_bind_ok.mp ran
          have same : tried = attempts := by
            cases outcome with
            | some result => exact congrArg Prod.snd (act_pure_ok.mp ran).1
            | none =>
              obtain ⟨_, _, -, ran⟩ := act_bind_ok.mp ran
              exact congrArg Prod.snd (act_pure_ok.mp ran).1
          subst same
          obtain ⟨suitable, collected, diversified⟩ := selectRoutes_diversified chose
          refine .inr ⟨admitted, _, suitable, selected, _, created, collected, chose,
            (diverse_sublist [] _).trans filter_sublist, diverse_independent [] _, ?_, tryRoutes_law tries⟩
          intro route member
          obtain ⟨listed, adapted⟩ := mem_filter.mp ((diverse_sublist [] _).subset member)
          exact ⟨diversified.perm.mem_iff.mp listed, by simpa using adapted, fun other among kept =>
            diversified.cheapest _ member among (by simpa using kept)⟩
  · intro routeId threshold calls positive keeps
    have start : PostgresBackend.Counts routeId threshold [] .empty := by
      have below : ¬threshold ≤ 0 := not_le.mpr positive
      simp [PostgresBackend.Counts, PostgresBackend.failuresSince, below]
      rfl
    rw [PostgresBackend.circuitIsOpen_eq, start.run PostgresBackend.sound_empty positive keeps, decide_eq_true_iff]

end Liki.Inference
