import Liki.Core
import Liki.Library.Checks
import Liki.Library.SortedGroups

/-! Market records and what the validator finds about them. The records are put in the order of their
event times, whatever order they were read in; those of one event time stay as they were read. -/
namespace Liki.Data
open Checks SortedGroups

inductive PriceKind where
  | index | mark | last | trade | bbo
  deriving DecidableEq

inductive QualityStatus where
  | pass | warn | fail | quarantined
  deriving DecidableEq

/-- A normalized record: what happened when, and when it could be known. -/
@[ext] structure CanonicalMarketRecord where
  instrumentId : String
  eventTime : Time
  availableAt : Time
  price : ℚ
  quantity : Option ℚ
  priceKind : PriceKind
  rawPayloadHash : String
  priced : 0 < price ∧ ∀ amount ∈ quantity, 0 ≤ amount
  /-- `not_available_before_event`. -/
  inOrder : eventTime ≤ availableAt

instance canonicalMarketRecord_decidableEq : DecidableEq CanonicalMarketRecord :=
  fun _ _ => decidable_of_iff _ CanonicalMarketRecord.ext_iff.symm

theorem natural_amounts_proper (price quantity : ℕ) :
    0 < (price : ℚ) + 1 ∧ ∀ amount ∈ some (quantity : ℚ), 0 ≤ amount := by
  refine ⟨by positivity, ?_⟩
  rintro _ ⟨⟩
  exact Nat.cast_nonneg quantity

def tradeAt (eventTime : Time) (delay price quantity : ℕ) : CanonicalMarketRecord :=
  ⟨"binance:BTCUSDT", eventTime, eventTime + delay, price + 1, some quantity, .trade, "sha256:a",
    natural_amounts_proper price quantity, le_add_of_nonneg_right (Int.natCast_nonneg delay)⟩

/-- `sorted(records, key=lambda record: record.event_time)`. -/
abbrev byEventTime (records : List CanonicalMarketRecord) : List CanonicalMarketRecord :=
  sortBy CanonicalMarketRecord.eventTime records

inductive FindingKind where
  | gap | duplicate | badTick | uncertain | lookahead | stale | sourceCompromise | providerDisagreement
  deriving DecidableEq

structure ValidationFinding where
  kind : FindingKind
  severity : QualityStatus
  reason : String
  at_ : Option Time
  rawPayloadHashes : List String

/-- `%0nd`. -/
def padded (width n : ℕ) : String :=
  let digits := toString n
  String.ofList (List.replicate (width - digits.length) '0') ++ digits

/-- `str(span)`. -/
def durationText (span : Duration) : String :=
  let days := span / 86400000000
  let rest := (span % 86400000000).toNat
  let seconds := rest / 1000000
  let microseconds := rest % 1000000
  let clock := toString (seconds / 3600) ++ ":" ++ padded 2 (seconds / 60 % 60) ++ ":" ++ padded 2 (seconds % 60)
  let plural := if days = 1 ∨ days = -1 then "" else "s"
  (if days = 0 then "" else toString days ++ " day" ++ plural ++ ", ") ++ clock ++
    (if microseconds = 0 then "" else "." ++ padded 6 microseconds)

structure DatasetValidator where
  maxGap : Duration
  maxStaleness : Duration
  proper : 0 < maxGap ∧ 0 ≤ maxStaleness

namespace DatasetValidator

/-- `DatasetValidator(max_gap=..., max_staleness=...)`. -/
def make (maxGap maxStaleness : Duration) : Except String DatasetValidator :=
  if proper : 0 < maxGap ∧ 0 ≤ maxStaleness then .ok ⟨maxGap, maxStaleness, proper⟩
  else .error "gap and staleness policies must be non-negative"

variable (validator : DatasetValidator)

/-- What makes two records exact duplicates. -/
def key (record : CanonicalMarketRecord) : Time × ℚ × Option ℚ × PriceKind :=
  (record.eventTime, record.price, record.quantity, record.priceKind)

def duplicateFinding (record : CanonicalMarketRecord) : ValidationFinding :=
  ⟨.duplicate, .warn, "exact duplicate canonical record", some record.eventTime, [record.rawPayloadHash]⟩

def gapFinding (previous record : CanonicalMarketRecord) : ValidationFinding :=
  ⟨.gap, .fail, "gap exceeds declared maximum " ++ durationText validator.maxGap, some previous.eventTime,
    [previous.rawPayloadHash, record.rawPayloadHash]⟩

def lookaheadFinding (record : CanonicalMarketRecord) : ValidationFinding :=
  ⟨.lookahead, .fail, "record was not available at simulated decision time", some record.availableAt,
    [record.rawPayloadHash]⟩

def staleFinding (age : Duration) (record : CanonicalMarketRecord) : ValidationFinding :=
  ⟨.stale, .fail, "latest source is stale by " ++ durationText age, some record.availableAt,
    [record.rawPayloadHash]⟩

def duplicates (seen : List (Time × ℚ × Option ℚ × PriceKind)) (record : CanonicalMarketRecord) :
    List ValidationFinding :=
  if key record ∈ seen then [duplicateFinding record] else []

/-- More than the declared maximum since the record before. -/
def gaps (previous : Option CanonicalMarketRecord) (record : CanonicalMarketRecord) : List ValidationFinding :=
  match previous with
  | none => []
  | some previous =>
    if validator.maxGap < record.eventTime - previous.eventTime then [validator.gapFinding previous record] else []

def lookaheads (decisionTime : Option Time) (record : CanonicalMarketRecord) : List ValidationFinding :=
  match decisionTime with
  | none => []
  | some decision => if decision < record.availableAt then [lookaheadFinding record] else []

/-- The loop over the ordered records. -/
def findingsFrom (decisionTime : Option Time) :
    List (Time × ℚ × Option ℚ × PriceKind) → Option CanonicalMarketRecord → List CanonicalMarketRecord →
      List ValidationFinding
  | _, _, [] => []
  | seen, previous, record :: rest =>
    duplicates seen record ++ validator.gaps previous record ++ lookaheads decisionTime record ++
      findingsFrom decisionTime (key record :: seen) (some record) rest

def staleness (decisionTime : Option Time) (ordered : List CanonicalMarketRecord) : List ValidationFinding :=
  match decisionTime, ordered.getLast? with
  | some decision, some last =>
    if validator.maxStaleness < decision - last.availableAt then
      [staleFinding (decision - last.availableAt) last] else []
  | _, _ => []

/-- `validate`. -/
def validate (records : List CanonicalMarketRecord) (decisionTime : Option Time) : List ValidationFinding :=
  let ordered := byEventTime records
  validator.findingsFrom decisionTime [] none ordered ++ validator.staleness decisionTime ordered

/-- `promotion_status`. -/
def promotionStatus (findings : List ValidationFinding) : QualityStatus :=
  if ∃ finding ∈ findings, finding.kind = .sourceCompromise then .quarantined
  else if ∃ finding ∈ findings, finding.severity = .fail then .fail
  else if findings = [] then .pass
  else .warn

def QualityStatus.text : QualityStatus → String
  | .pass => "pass"
  | .warn => "warn"
  | .fail => "fail"
  | .quarantined => "quarantined"

/-- `require_usable`. -/
def requireUsable (findings : List ValidationFinding) : Except String Unit :=
  let status := promotionStatus findings
  refuseIf (status = .fail ∨ status = .quarantined)
    ("dataset not eligible for research: " ++ QualityStatus.text status)

end DatasetValidator

end Liki.Data
