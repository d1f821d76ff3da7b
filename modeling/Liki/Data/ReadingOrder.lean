import Mathlib.Algebra.Order.Group.Multiset
import Liki.Data.BarIntervals

/-! What the order in which records were read can change. Both the bars and the findings are computed
from the records in the order of their event times, so only the order of records of one event time
matters: it decides what opens and closes a bar, which of two duplicates is named, and at which of the
last records staleness is measured. -/
namespace Liki.Data
open Checks SortedGroups DecimalArithmetic List Function CanonicalMarketRecord

variable {records others : List CanonicalMarketRecord} {interval : Duration} {asOf : Time}

def TiesKept (records others : List CanonicalMarketRecord) : Prop :=
  ∀ instant, ofKey eventTime instant records =
    ofKey eventTime instant others

theorem eligible_of_tiesKept (kept : TiesKept records others) : eligible records asOf = eligible others asOf := by
  refine sortBy_eq_iff.mpr fun instant => ?_
  rw [ofKey, filter_comm, ← ofKey, kept instant, ofKey, filter_comm, ← ofKey]

theorem eligible_perm (perm : records.Perm others) : (eligible records asOf).Perm (eligible others asOf) :=
  (sortBy_perm _ _).trans ((perm.filter _).trans (sortBy_perm _ _).symm)

/-- A call succeeds when every record has a bucket that a `datetime` can label, and is in time for it. -/
theorem buildBars_succeeds_iff : (∃ bars, buildBars records interval asOf = .ok bars) ↔
    0 < interval ∧ ∀ record ∈ eligible records asOf, totalSeconds interval ≠ 0 ∧
      Representable (stopOf (totalSeconds interval) record) ∧
      Representable (stopOf (totalSeconds interval) record - interval) ∧
      record.availableAt ≤ stopOf (totalSeconds interval) record := by
  constructor
  · rintro ⟨bars, built⟩
    simp only [buildBars, bind_ok, refuseIf_ok, not_le] at built
    obtain ⟨-, positive, buckets, filled, made⟩ := built
    have bucketed := bucketed_of_collected (fillBuckets_collected filled)
    refine ⟨positive, fun record member => ?_⟩
    obtain ⟨_, placed⟩ := fillBuckets_succeeds_iff.mp ⟨buckets, filled⟩ record member
    obtain ⟨nonzero, ends, -⟩ := bucketEnd_ok.mp placed
    have held : record ∈ ofKey (stopOf (totalSeconds interval)) (stopOf (totalSeconds interval) record)
        (eligible records asOf) := mem_filter.mpr ⟨member, by simp⟩
    have group := (bucketed.mem_iff (stopOf (totalSeconds interval) record, _)).mpr ⟨rfl, ne_nil_of_mem held⟩
    obtain ⟨_, ok⟩ := mapM_succeeds_iff.mp ⟨bars, made⟩ _ group
    obtain ⟨starts, timely, -⟩ := (barOf_ok_iff positive (ne_nil_of_mem held)).mp ok
    exact ⟨nonzero, ends, starts, timely record held⟩
  · rintro ⟨positive, each⟩
    obtain ⟨_, filled⟩ := fillBuckets_succeeds_iff.mpr fun record member =>
      ⟨_, bucketEnd_ok.mpr ⟨(each record member).1, (each record member).2.1, rfl⟩⟩
    have bucketed := bucketed_of_collected (fillBuckets_collected filled)
    rw [buildBars, refuseIf_bind_of_not (not_le.mpr positive), filled, ok_bind]
    refine mapM_succeeds_iff.mpr fun group member => ?_
    obtain ⟨content, some⟩ := (bucketed.mem_iff group).mp member
    have own : ∀ record ∈ group.2, record ∈ eligible records asOf ∧
        stopOf (totalSeconds interval) record = group.1 := by
      intro record held
      rw [content] at held
      exact ⟨(mem_filter.mp held).1, by simpa using (mem_filter.mp held).2⟩
    obtain ⟨record, held⟩ := exists_mem_of_ne_nil _ some
    refine barOf_timely asOf positive some ?_ fun other otherHeld => ?_
    · rw [← (own record held).2]
      exact (each record (own record held).1).2.2.1
    · rw [← (own other otherHeld).2]
      exact (each other (own other otherHeld).1).2.2.2

/-- The fields of a bar that say nothing of which record came first or last, or of how the quantities
were rounded on the way. -/
def BarFields.untied (fields : BarFields) : Time × Time × Time × ℚ × ℚ × Bool × Time :=
  (fields.startTime, fields.endTime, fields.labelTime, fields.high, fields.low, fields.complete,
    fields.latestSourceTimestampUsed)

theorem greatest_perm {α : Type} [LinearOrder α] {values others : List α} (perm : values.Perm others)
    (default : α) : greatest values default = greatest others default := by
  rcases eq_or_ne values [] with rfl | some
  · rw [nil_perm.mp perm]
  · have otherSome : others ≠ [] := fun none => some (perm_nil.mp (none ▸ perm))
    obtain ⟨member, all⟩ := greatest_spec default some
    obtain ⟨otherMember, otherAll⟩ := greatest_spec default otherSome
    exact le_antisymm (otherAll _ (perm.mem_iff.mp member)) (all _ (perm.mem_iff.mpr otherMember))

theorem least_perm {α : Type} [LinearOrder α] {values others : List α} (perm : values.Perm others) (default : α) :
    least values default = least others default :=
  @greatest_perm αᵒᵈ _ values others perm default

theorem untied_of_perm {bucket other : List CanonicalMarketRecord} (perm : bucket.Perm other) (stop : Time) :
    (bucketFields interval asOf stop bucket).untied = (bucketFields interval asOf stop other).untied := by
  have high := greatest_perm (perm.map price) 0
  have low := least_perm (perm.map price) 0
  have latest := greatest_perm (perm.map availableAt) 0
  simp only [BarFields.untied, bucketFields, prices, high, low, latest]

/-- Reordered records fall into the same buckets, in another order. -/
theorem buckets_of_perm {seconds : ℤ} {rows otherRows : List CanonicalMarketRecord}
    (perm : rows.Perm otherRows) (bucketed : Bucketed seconds rows groups)
    (rebucketed : Bucketed seconds otherRows otherGroups) :
    otherGroups = groups.map fun group => (group.1, ofKey (stopOf seconds) group.1 otherRows) := by
  have contents : ∀ stop, (ofKey (stopOf seconds) stop rows).Perm (ofKey (stopOf seconds) stop otherRows) :=
    fun stop => perm.filter _
  refine eq_of_strict rebucketed.strict (pairwise_map.mpr bucketed.strict) fun group => ?_
  rw [rebucketed.mem_iff, mem_map]
  constructor
  · rintro ⟨content, some⟩
    refine ⟨(group.1, ofKey (stopOf seconds) group.1 rows), (bucketed.mem_iff _).mpr ⟨rfl, ?_⟩, ?_⟩
    · intro none
      rw [content] at some
      exact some (perm_nil.mp (none ▸ (contents group.1).symm))
    · exact Prod.ext rfl content.symm
  · rintro ⟨held, member, rfl⟩
    obtain ⟨content, some⟩ := (bucketed.mem_iff held).mp member
    refine ⟨rfl, fun none => some ?_⟩
    rw [content]
    exact perm_nil.mp (none ▸ contents held.1)

/-- In whatever order the records are read, the bars have the same intervals, extremes and sources. -/
theorem buildBars_untied (perm : records.Perm others)
    (built : buildBars records interval asOf = .ok bars) :
    ∃ otherBars, buildBars others interval asOf = .ok otherBars ∧
      otherBars.map (fun bar => bar.toBarFields.untied) = bars.map fun bar => bar.toBarFields.untied := by
  have rows : (eligible records asOf).Perm (eligible others asOf) := eligible_perm perm
  obtain ⟨positive, each⟩ := buildBars_succeeds_iff.mp ⟨bars, built⟩
  obtain ⟨otherBars, rebuilt⟩ := buildBars_succeeds_iff.mpr ⟨positive, fun record member =>
    each record (rows.mem_iff.mpr member)⟩
  refine ⟨otherBars, rebuilt, ?_⟩
  obtain ⟨-, _, bucketed, made, -⟩ := buildBars_ok built
  obtain ⟨-, _, rebucketed, remade, -⟩ := buildBars_ok rebuilt
  have shown := congrArg (map BarFields.untied) made
  have otherShown := congrArg (map BarFields.untied) remade
  rw [map_map, map_map] at shown otherShown
  refine otherShown.trans (Eq.trans ?_ shown.symm)
  rw [buckets_of_perm rows bucketed rebucketed, map_map]
  refine map_congr_left fun group member => ?_
  have content := ((bucketed.mem_iff group).mp member).1
  rw [comp_apply, comp_apply, comp_apply, content]
  exact untied_of_perm (rows.symm.filter _) group.1

namespace DatasetValidator

variable {validator : DatasetValidator} {decisionTime : Option Time}

/-- What a finding says, less the payloads it names. -/
abbrev Told := FindingKind × QualityStatus × String × Option Time

def told (finding : ValidationFinding) : Told :=
  (finding.kind, finding.severity, finding.reason, finding.at_)

def repeats {Item : Type} [DecidableEq Item] : List Item → List Item → List Item
  | _, [] => []
  | seen, item :: rest => if item ∈ seen then item :: repeats (item :: seen) rest else repeats (item :: seen) rest

theorem count_repeats {Item : Type} [DecidableEq Item] (item : Item) (seen items : List Item) :
    (repeats seen items).count item = if item ∈ seen then items.count item else items.count item - 1 := by
  induction items generalizing seen with
  | nil => simp [repeats]
  | cons first rest ih =>
    rw [repeats]
    by_cases same : first = item
    · subst same
      by_cases before : first ∈ seen
      · rw [if_pos before, if_pos before, count_cons_self, ih, if_pos mem_cons_self, count_cons_self]
      · rw [if_neg before, if_neg before, ih, if_pos mem_cons_self, count_cons_self,
          Nat.add_sub_cancel]
    · have listed : item ∈ first :: seen ↔ item ∈ seen := by simp [Ne.symm same]
      have counted : (if first ∈ seen then first :: repeats (first :: seen) rest
          else repeats (first :: seen) rest).count item = (repeats (first :: seen) rest).count item := by
        split
        · exact count_cons_of_ne same
        · rfl
      rw [counted, ih, count_cons_of_ne same]
      simp only [listed]

theorem repeats_perm {Item : Type} [DecidableEq Item] {items others : List Item} (perm : items.Perm others) :
    (repeats [] items).Perm (repeats [] others) := by
  refine perm_iff_count.mpr fun item => ?_
  rw [count_repeats, count_repeats, perm.count_eq]

/-- The gaps between times in the order in which they come. -/
def timeGaps (maxGap : Duration) : Option Time → List Time → List Time
  | _, [] => []
  | none, instant :: rest => timeGaps maxGap (some instant) rest
  | some previous, instant :: rest =>
    if maxGap < instant - previous then previous :: timeGaps maxGap (some instant) rest
    else timeGaps maxGap (some instant) rest

def toldDuplicate (key : Time × ℚ × Option ℚ × PriceKind) : Told :=
  (.duplicate, .warn, "exact duplicate canonical record", some key.1)

def toldGap (validator : DatasetValidator) (previous : Time) : Told :=
  (.gap, .fail, "gap exceeds declared maximum " ++ durationText validator.maxGap, some previous)

theorem findingsFrom_told (seen : List (Time × ℚ × Option ℚ × PriceKind)) (previous : Option CanonicalMarketRecord)
    (rows : List CanonicalMarketRecord) :
    (↑((validator.findingsFrom decisionTime seen previous rows).map told) : Multiset Told) =
      ↑((repeats seen (rows.map key)).map toldDuplicate) +
        ↑((timeGaps validator.maxGap (previous.map eventTime)
          (rows.map eventTime)).map (toldGap validator)) +
        ↑((rows.flatMap (lookaheads decisionTime)).map told) := by
  induction rows generalizing seen previous with
  | nil => rfl
  | cons record rest ih =>
    have duplicate : (duplicates seen record).map told ++
          (repeats (key record :: seen) (rest.map key)).map toldDuplicate =
        (repeats seen ((record :: rest).map key)).map toldDuplicate := by
      rw [map_cons, repeats, duplicates]
      split <;> rfl
    have gap : (validator.gaps previous record).map told ++ (timeGaps validator.maxGap (some record.eventTime)
          (rest.map eventTime)).map (toldGap validator) =
        (timeGaps validator.maxGap (previous.map eventTime)
          ((record :: rest).map eventTime)).map (toldGap validator) := by
      cases previous with
      | none => rfl
      | some =>
        rw [map_cons, Option.map_some, timeGaps, gaps]
        split <;> rfl
    rw [findingsFrom, map_append, map_append, map_append, ← Multiset.coe_add, ← Multiset.coe_add,
      ← Multiset.coe_add, ih, ← duplicate, ← gap, flatMap_cons, map_append, ← Multiset.coe_add,
      ← Multiset.coe_add, ← Multiset.coe_add, Option.map_some]
    abel

theorem byEventTime_perm (perm : records.Perm others) : (byEventTime records).Perm (byEventTime others) :=
  (sortBy_perm _ records).trans (perm.trans (sortBy_perm _ others).symm)

theorem eventTimes_of_perm (perm : records.Perm others) :
    (byEventTime records).map eventTime =
      (byEventTime others).map eventTime := by
  have sorted : ∀ rows : List CanonicalMarketRecord,
      ((byEventTime rows).map eventTime).Pairwise fun first second : Time => first ≤ second :=
    fun rows => pairwise_map.mpr (sortBy_ascending eventTime rows)
  refine List.Perm.eq_of_pairwise ?_ (sorted records) (sorted others)
    ((byEventTime_perm perm).map eventTime)
  exact fun _ _ _ _ below above => le_antisymm below above

theorem findingsFrom_perm (perm : records.Perm others) :
    ((validator.findingsFrom decisionTime [] none (byEventTime records)).map told).Perm
      ((validator.findingsFrom decisionTime [] none (byEventTime others)).map told) := by
  have reordered := byEventTime_perm perm
  have duplicate := Multiset.coe_eq_coe.mpr ((repeats_perm (reordered.map key)).map toldDuplicate)
  have lookahead := Multiset.coe_eq_coe.mpr ((reordered.flatMap_right (lookaheads decisionTime)).map told)
  rw [← Multiset.coe_eq_coe, findingsFrom_told, findingsFrom_told, duplicate, lookahead, eventTimes_of_perm perm]

theorem findingsFrom_fresh (seen : List (Time × ℚ × Option ℚ × PriceKind)) (previous : Option CanonicalMarketRecord)
    (rows : List CanonicalMarketRecord) :
    ∀ finding ∈ validator.findingsFrom decisionTime seen previous rows, finding.kind ≠ .stale := by
  induction rows generalizing seen previous with
  | nil => simp [findingsFrom]
  | cons _ _ ih =>
    intro finding member
    rw [findingsFrom, mem_append, mem_append, mem_append] at member
    rcases member with ((duplicate | gap) | lookahead) | later
    · unfold duplicates at duplicate
      split at duplicate
      · rw [mem_singleton.mp duplicate]
        exact show FindingKind.duplicate ≠ .stale by decide
      · cases duplicate
    · unfold gaps at gap
      split at gap
      · cases gap
      · split at gap
        · rw [mem_singleton.mp gap]
          exact show FindingKind.gap ≠ .stale by decide
        · cases gap
    · unfold lookaheads at lookahead
      split at lookahead
      · cases lookahead
      · split at lookahead
        · rw [mem_singleton.mp lookahead]
          exact show FindingKind.lookahead ≠ .stale by decide
        · cases lookahead
    · exact ih _ _ finding later

def Latest (records : List CanonicalMarketRecord) (record : CanonicalMarketRecord) : Prop :=
  record ∈ records ∧ ∀ other ∈ records, other.eventTime ≤ record.eventTime

theorem latest_of_last (sorts : (byEventTime records).getLast? = some last) :
    Latest records last ∧
      (ofKey eventTime last.eventTime records).getLast? = some last := by
  obtain ⟨earlier, split⟩ : ∃ earlier, sortBy eventTime records = earlier ++ [last] :=
    getLast?_eq_some_iff.mp sorts
  have ascending := sortBy_ascending eventTime records
  rw [Ascending, split, pairwise_append] at ascending
  refine ⟨⟨(mem_sortBy _).mp (split ▸ mem_concat_self), fun other member => ?_⟩, ?_⟩
  · have listed := (mem_sortBy eventTime).mpr member
    rw [split, mem_append, mem_singleton] at listed
    rcases listed with before | rfl
    · exact ascending.2.2 other before last mem_cons_self
    · exact le_rfl
  · rw [← ofKey_sortBy, split, ofKey, filter_append, filter_cons_of_pos (by simp), filter_nil,
      getLast?_concat]

theorem stale_measured {finding : ValidationFinding} (member : finding ∈ validator.validate records decisionTime)
    (stale : finding.kind = .stale) :
    ∃ decision last, decisionTime = some decision ∧ Latest records last ∧
      (ofKey eventTime last.eventTime records).getLast? = some last ∧
      validator.maxStaleness < decision - last.availableAt ∧
      finding = staleFinding (decision - last.availableAt) last := by
  rcases mem_append.mp member with loop | aged
  · exact absurd stale (findingsFrom_fresh _ _ _ finding loop)
  · unfold staleness at aged
    split at aged
    · rename_i decision last sorts
      split at aged
      · rename_i old
        exact ⟨decision, last, rfl, (latest_of_last sorts).1, (latest_of_last sorts).2, old,
          mem_singleton.mp aged⟩
      · cases aged
    · cases aged

theorem promotionStatus_of_told (same : (findings.map told).Perm (otherFindings.map told)) :
    promotionStatus findings = promotionStatus otherFindings := by
  have told_iff : ∀ shows : Told → Prop, (∃ finding ∈ findings, shows (told finding)) ↔
      ∃ finding ∈ otherFindings, shows (told finding) := by
    intro shows
    have members : ∀ shown, shown ∈ findings.map told ↔ shown ∈ otherFindings.map told := fun _ => same.mem_iff
    simp only [mem_map] at members
    constructor
    · rintro ⟨finding, member, shown⟩
      obtain ⟨other, otherMember, equal⟩ := (members _).mp ⟨finding, member, rfl⟩
      exact ⟨other, otherMember, equal ▸ shown⟩
    · rintro ⟨finding, member, shown⟩
      obtain ⟨other, otherMember, equal⟩ := (members _).mpr ⟨finding, member, rfl⟩
      exact ⟨other, otherMember, equal ▸ shown⟩
  have compromise := told_iff fun shown => shown.1 = .sourceCompromise
  have failure := told_iff fun shown => shown.2.1 = .fail
  have empty : findings = [] ↔ otherFindings = [] := by
    rw [← length_eq_zero_iff, ← length_eq_zero_iff, ← length_map told, same.length_eq, length_map]
  unfold promotionStatus
  simp only [told] at compromise failure
  simp only [compromise, failure, empty]

theorem staleness_told (perm : records.Perm others)
    (together : ∀ record other, Latest records record → Latest records other → record.availableAt = other.availableAt) :
    (validator.staleness decisionTime (byEventTime records)).map told =
      (validator.staleness decisionTime (byEventTime others)).map told := by
  have reordered := byEventTime_perm perm
  cases sorts : (byEventTime records).getLast? with
  | none =>
    rw [getLast?_eq_none_iff] at sorts
    rw [sorts] at reordered ⊢
    rw [nil_perm.mp reordered]
  | some last =>
    cases otherSorts : (byEventTime others).getLast? with
    | none =>
      rw [getLast?_eq_none_iff] at otherSorts
      rw [otherSorts] at reordered
      rw [perm_nil.mp reordered] at sorts
      cases sorts
    | some other =>
      obtain ⟨otherMember, otherLast⟩ := (latest_of_last otherSorts).1
      have latest : Latest records other :=
        ⟨perm.mem_iff.mpr otherMember, fun record member => otherLast record (perm.mem_iff.mp member)⟩
      have same := together last other (latest_of_last sorts).1 latest
      unfold staleness
      rw [sorts, otherSorts]
      cases decisionTime with
      | none => rfl
      | some =>
        simp only [same]
        split
        · simp only [map_cons, map_nil, told, staleFinding, same]
        · rfl

theorem validate_without_stale (rows : List CanonicalMarketRecord) :
    ((validator.validate rows decisionTime).filter fun finding => finding.kind ≠ .stale) =
      validator.findingsFrom decisionTime [] none (byEventTime rows) := by
  have aged : ∀ finding ∈ validator.staleness decisionTime (byEventTime rows), finding.kind = .stale := by
    intro finding member
    unfold staleness at member
    split at member
    · split at member
      · rw [mem_singleton.mp member]
        rfl
      · cases member
    · cases member
  rw [validate, filter_append, filter_eq_self.mpr, filter_eq_nil_iff.mpr, append_nil]
  · intro finding member
    simpa using aged finding member
  · intro finding member
    simpa using findingsFrom_fresh _ _ _ finding member

end DatasetValidator

open DatasetValidator

/-- The order of reading matters for records of one event time only. It decides there what opens and
closes a bar, which payloads a finding names, and at which record staleness is measured. -/
theorem reading_order (records others : List CanonicalMarketRecord) (perm : records.Perm others)
    (interval : Duration) (asOf : Time) (validator : DatasetValidator) (decisionTime : Option Time) :
    (TiesKept records others → buildBars records interval asOf = buildBars others interval asOf ∧
      validator.validate records decisionTime = validator.validate others decisionTime) ∧
    (∀ bars, buildBars records interval asOf = .ok bars →
      ∃ otherBars, buildBars others interval asOf = .ok otherBars ∧
        otherBars.map (fun bar => bar.toBarFields.untied) = bars.map fun bar => bar.toBarFields.untied) ∧
    (((validator.validate records decisionTime).filter fun finding => finding.kind ≠ .stale).map told).Perm
      (((validator.validate others decisionTime).filter fun finding => finding.kind ≠ .stale).map told) ∧
    (∀ finding ∈ validator.validate records decisionTime, finding.kind = .stale →
      ∃ decision last, decisionTime = some decision ∧ Latest records last ∧
        (ofKey eventTime last.eventTime records).getLast? = some last ∧
        validator.maxStaleness < decision - last.availableAt ∧
        finding = staleFinding (decision - last.availableAt) last) ∧
    ((∀ record other, Latest records record → Latest records other → record.availableAt = other.availableAt) →
      ((validator.validate records decisionTime).map told).Perm ((validator.validate others decisionTime).map told) ∧
      promotionStatus (validator.validate records decisionTime) =
        promotionStatus (validator.validate others decisionTime) ∧
      requireUsable (validator.validate records decisionTime) =
        requireUsable (validator.validate others decisionTime)) := by
  refine ⟨fun kept => ⟨?_, ?_⟩, fun bars => buildBars_untied perm, ?_, fun finding => stale_measured,
    fun together => ?_⟩
  · rw [buildBars, eligible_of_tiesKept kept, buildBars]
  · have sorted : byEventTime records = byEventTime others := sortBy_eq_iff.mpr kept
    rw [validate, sorted, validate]
  · rw [validate_without_stale, validate_without_stale]
    exact findingsFrom_perm perm
  · have whole : ((validator.validate records decisionTime).map told).Perm
        ((validator.validate others decisionTime).map told) := by
      rw [validate, validate, map_append, map_append, staleness_told perm together]
      exact (findingsFrom_perm perm).append_right _
    have status := promotionStatus_of_told whole
    exact ⟨whole, status, by rw [requireUsable, status, requireUsable]⟩

theorem tight_proper : 0 < (60000000 : Duration) ∧ 0 ≤ (50 : Duration) := by decide

def tight : DatasetValidator := ⟨60000000, 50, tight_proper⟩

theorem swapped_trades_usable :
    requireUsable (tight.validate [tradeAt 0 5 100 1, tradeAt 0 5 101 1] (some 40)) =
      requireUsable (tight.validate [tradeAt 0 5 101 1, tradeAt 0 5 100 1] (some 40)) := by
  have order := reading_order [tradeAt 0 5 100 1, tradeAt 0 5 101 1] [tradeAt 0 5 101 1, tradeAt 0 5 100 1]
    (.swap _ _ []) 60000000 40 tight (some 40)
  refine (order.2.2.2.2 ?_).2.2
  rintro record other ⟨member, -⟩ ⟨otherMember, -⟩
  have five : ∀ trade ∈ [tradeAt 0 5 100 1, tradeAt 0 5 101 1], trade.availableAt = 5 := by decide
  rw [five record member, five other otherMember]

/-- Two trades of one time open the bar by the order in which they were read; two that became available
at different times are stale or not by it; and a trade before the last one may be the freshest. -/
theorem reading_order_shows :
    buildBars [tradeAt 0 0 100 1, tradeAt 0 0 101 1] 60000000 40 ≠
        buildBars [tradeAt 0 0 101 1, tradeAt 0 0 100 1] 60000000 40 ∧
      promotionStatus (tight.validate [tradeAt 0 0 100 1, tradeAt 0 90 101 1] (some 100)) ≠
        promotionStatus (tight.validate [tradeAt 0 90 101 1, tradeAt 0 0 100 1] (some 100)) ∧
      (tight.validate [tradeAt 0 100 100 1, tradeAt 1 0 101 1] (some 100)).map ValidationFinding.kind = [.stale] := by
  refine ⟨fun same => ?_, by decide +kernel, by decide +kernel⟩
  have opens := congrArg (Except.map (map fun bar => bar.opening)) same
  exact absurd opens (by decide +kernel)

end Liki.Data
