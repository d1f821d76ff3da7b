import Liki.Library.BinaryFloat
import Liki.Data.DatasetValidation

/-! Bars of market records. A record falls into a bucket by the whole second of its event; the buckets
are labelled by their ends, and a bar is refused when a record in it could be known only after its end.
Where seconds are whole and every record is in time, the bars are what they should be. -/
namespace Liki.Data
open Checks SortedGroups DecimalArithmetic BinaryFloat List CanonicalMarketRecord

inductive BarError where
  /-- `ValueError`. -/
  | value (message : String)
  /-- A field that fails its own check. -/
  | field
  | zeroDivision
  /-- No `datetime` is so early or so late. -/
  | outOfRange
  deriving DecidableEq

structure BarFields where
  startTime : Time
  endTime : Time
  labelTime : Time
  opening : ℚ
  high : ℚ
  low : ℚ
  close : ℚ
  volume : ℚ
  complete : Bool
  latestSourceTimestampUsed : Time
  deriving DecidableEq

namespace BarFields

variable (fields : BarFields)

def Positive : Prop :=
  0 < fields.opening ∧ 0 < fields.high ∧ 0 < fields.low ∧ 0 < fields.close ∧ 0 ≤ fields.volume

def Labelled : Prop := fields.startTime < fields.endTime ∧ fields.labelTime = fields.endTime

def Ranged : Prop :=
  (fields.low ≤ min fields.opening fields.close ∧ min fields.opening fields.close ≤ fields.high) ∧
    fields.low ≤ fields.close ∧ fields.close ≤ fields.high

def Timely : Prop := fields.latestSourceTimestampUsed ≤ fields.endTime

instance : Decidable fields.Positive := inferInstanceAs (Decidable (_ ∧ _))

instance : Decidable fields.Labelled := inferInstanceAs (Decidable (_ ∧ _))

instance : Decidable fields.Ranged := inferInstanceAs (Decidable (_ ∧ _))

instance : Decidable fields.Timely := inferInstanceAs (Decidable (_ ≤ _))

end BarFields

/-- A bar is made only of fields that pass `range_and_completion`. -/
structure Bar extends BarFields where
  positive : toBarFields.Positive
  labelled : toBarFields.Labelled
  ranged : toBarFields.Ranged
  timely : toBarFields.Timely

theorem Bar.fields_injective : Function.Injective Bar.toBarFields := by
  rintro ⟨_⟩ ⟨_⟩ same
  cases same
  rfl

instance bar_decidableEq : DecidableEq Bar := fun _ _ => decidable_of_iff _ Bar.fields_injective.eq_iff

/-- `Bar(...)`. -/
def BarFields.validated (fields : BarFields) : Except BarError Bar :=
  if positive : fields.Positive then
    if labelled : fields.Labelled then
      if ranged : fields.Ranged then
        if timely : fields.Timely then .ok ⟨fields, positive, labelled, ranged, timely⟩
        else .error (.value "bar uses source after its interval")
      else .error (.value "OHLC values violate bar range")
    else .error (.value "bar labels are UTC interval end timestamps")
  else .error .field

/-- `int(span.total_seconds())`; `int(instant.timestamp())` is the same of the time since the epoch. -/
def totalSeconds (span : Duration) : ℤ := roundDown (double (span / 1000000))

/-- The years 1 to 9999. -/
def Representable (instant : Time) : Prop := -62135596800000000 ≤ instant ∧ instant ≤ 253402300799999999

instance (instant : Time) : Decidable (Representable instant) := inferInstanceAs (Decidable (_ ∧ _))

def bucketEnd (seconds : ℤ) (record : CanonicalMarketRecord) : Except BarError Time := do
  let epoch := totalSeconds record.eventTime
  refuseIf (seconds = 0) .zeroDivision
  let stop := (epoch / seconds + 1) * seconds * 1000000
  refuseIf (¬Representable stop) .outOfRange
  return stop

def fillBuckets (seconds : ℤ) (eligible : List CanonicalMarketRecord) :
    Except BarError (List (Time × List CanonicalMarketRecord)) :=
  eligible.foldlM (fun buckets record => do
    let stop ← bucketEnd seconds record
    return addTo stop record buckets) []

/-- `record.quantity or Decimal(0)`. -/
def quantityOf (record : CanonicalMarketRecord) : ℚ := record.quantity.getD 0

def prices (bucket : List CanonicalMarketRecord) : List ℚ := bucket.map price

def volumeOf (bucket : List CanonicalMarketRecord) : ℚ := prec28.sum (bucket.map quantityOf)

/-- `max` and `min` of a list that is not empty. -/
def greatest {α : Type} [LinearOrder α] (values : List α) (default : α) : α := values.foldl max (values.headD default)

def least {α : Type} [LinearOrder α] (values : List α) (default : α) : α := values.foldl min (values.headD default)

def bucketFields (interval : Duration) (asOf stop : Time) (bucket : List CanonicalMarketRecord) : BarFields where
  startTime := stop - interval
  endTime := stop
  labelTime := stop
  opening := (prices bucket).headD 0
  high := greatest (prices bucket) 0
  low := least (prices bucket) 0
  close := (prices bucket).getLastD 0
  volume := volumeOf bucket
  complete := stop ≤ asOf
  latestSourceTimestampUsed := greatest (bucket.map availableAt) 0

def barOf (interval : Duration) (asOf stop : Time) (bucket : List CanonicalMarketRecord) :
    Except BarError Bar := do
  refuseIf (¬Representable (stop - interval)) .outOfRange
  (bucketFields interval asOf stop bucket).validated

def eligible (records : List CanonicalMarketRecord) (asOf : Time) : List CanonicalMarketRecord :=
  byEventTime (records.filter fun record => record.availableAt ≤ asOf)

/-- `build_bars`. -/
def buildBars (records : List CanonicalMarketRecord) (interval : Duration) (asOf : Time) :
    Except BarError (List Bar) := do
  refuseIf (interval ≤ 0) (.value "interval must be positive")
  let buckets ← fillBuckets (totalSeconds interval) (eligible records asOf)
  (sortBy Prod.fst buckets).mapM fun bucket => barOf interval asOf bucket.1 bucket.2

theorem totalSeconds_whole (seconds : ℤ) (short : |seconds| < 2 ^ 53) :
    totalSeconds (seconds * 1000000) = seconds := by
  have quotient : ((seconds * 1000000 : ℤ) : ℚ) / 1000000 = seconds := by
    push_cast
    exact mul_div_cancel_right₀ _ (by norm_num)
  rw [totalSeconds, quotient, double_int seconds short, roundDown_int]

theorem totalSeconds_floor {instant : Time} (nonneg : 0 ≤ instant) (early : instant < 2 ^ 34 * 1000000) :
    totalSeconds instant = instant / 1000000 := by
  have floor : ⌊(instant : ℚ) / 1000000⌋ = instant / 1000000 := by
    exact_mod_cast Rat.floor_intCast_div_natCast instant 1000000
  have positive : (0 : ℚ) ≤ instant / 1000000 := div_nonneg (by exact_mod_cast nonneg) (by norm_num)
  have small : |(instant : ℚ) / 1000000| < 2 ^ (34 : ℤ) := by
    rw [abs_of_nonneg positive, div_lt_iff₀ (by norm_num)]
    exact_mod_cast early
  have gap : (2 : ℚ) ^ ((34 : ℤ) - 54) < ⌊(instant : ℚ) / 1000000⌋ + 1 - instant / 1000000 := by
    rw [floor]
    have micro : instant + 1 ≤ (instant / 1000000 + 1) * 1000000 :=
      Int.lt_ediv_add_one_mul_self instant (by norm_num)
    have rational : (instant : ℚ) + 1 ≤ ((instant / 1000000 : ℤ) + 1) * 1000000 := by exact_mod_cast micro
    have apart : (1 : ℚ) / 1000000 ≤ (instant / 1000000 : ℤ) + 1 - instant / 1000000 := by linarith
    exact lt_of_lt_of_le (by norm_num) apart
  have kept := floor_double (by norm_num) small gap
  have above : (0 : ℚ) ≤ double (instant / 1000000) := by
    exact_mod_cast int_le_double 0 (small.trans (by norm_num)) (by exact_mod_cast positive)
  rw [totalSeconds, roundDown, if_pos above, kept, floor]

/-- The end that a bucket has, if a `datetime` can be so late. -/
def stopOf (seconds : ℤ) (record : CanonicalMarketRecord) : Time :=
  (totalSeconds record.eventTime / seconds + 1) * seconds * 1000000

variable {seconds : ℤ} {record : CanonicalMarketRecord} {records rows : List CanonicalMarketRecord}
variable {buckets : List (Time × List CanonicalMarketRecord)} {interval : Duration} {asOf stop : Time}

theorem bucketEnd_ok : bucketEnd seconds record = .ok stop ↔
    seconds ≠ 0 ∧ Representable (stopOf seconds record) ∧ stop = stopOf seconds record := by
  simp only [bucketEnd, bind_ok, refuseIf_ok, pure_ok, not_not, exists_and_left, exists_const, eq_comm (a := stop)]
  exact Iff.rfl

theorem fillBuckets_collected (filled : fillBuckets seconds rows = .ok buckets) :
    Collected (stopOf seconds) rows buckets := by
  induction rows using reverseRecOn generalizing buckets with
  | nil =>
    cases filled
    exact .nil
  | append_singleton _ record ih =>
    rw [fillBuckets, foldlM_append] at filled
    obtain ⟨_, before, last⟩ := bind_ok.mp filled
    simp only [foldlM_cons, foldlM_nil, bind_ok, pure_ok, bucketEnd_ok] at last
    obtain ⟨_, ⟨_, ⟨-, -, rfl⟩, rfl⟩, rfl⟩ := last
    exact (ih before).addTo record

theorem fillBuckets_succeeds_iff : (∃ buckets, fillBuckets seconds rows = .ok buckets) ↔
    ∀ record ∈ rows, ∃ stop, bucketEnd seconds record = .ok stop := by
  unfold fillBuckets
  generalize ([] : List (Time × List CanonicalMarketRecord)) = buckets
  induction rows generalizing buckets with
  | nil => exact iff_of_true ⟨buckets, rfl⟩ (by simp)
  | cons record rest ih =>
    rw [forall_mem_cons, foldlM_cons]
    cases here : bucketEnd seconds record with
    | error =>
      refine iff_of_false ?_ fun all => ?_
      · rintro ⟨_, ok⟩
        cases ok
      · obtain ⟨stop, ok⟩ := all.1
        cases ok
    | ok stop => exact (ih (addTo stop record buckets)).trans ⟨fun rest => ⟨⟨stop, rfl⟩, rest⟩, And.right⟩

theorem foldl_max_spec {α : Type} [LinearOrder α] (values : List α) (start : α) :
    (values.foldl max start = start ∨ values.foldl max start ∈ values) ∧
      start ≤ values.foldl max start ∧ ∀ value ∈ values, value ≤ values.foldl max start := by
  induction values generalizing start with
  | nil => exact ⟨.inl rfl, le_rfl, by simp⟩
  | cons value _ ih =>
    obtain ⟨taken, above, all⟩ := ih (max start value)
    rw [foldl_cons]
    refine ⟨?_, (le_max_left start value).trans above, ?_⟩
    · rcases taken with same | later
      · rw [same]
        rcases max_choice start value with first | second
        · exact .inl first
        · rw [second]
          exact .inr mem_cons_self
      · exact .inr (mem_cons_of_mem _ later)
    · rintro other member
      rcases mem_cons.mp member with rfl | later
      · exact (le_max_right start other).trans above
      · exact all other later

theorem greatest_spec {α : Type} [LinearOrder α] {values : List α} (default : α) (some : values ≠ []) :
    greatest values default ∈ values ∧ ∀ value ∈ values, value ≤ greatest values default := by
  obtain ⟨first, rest, rfl⟩ := exists_cons_of_ne_nil some
  obtain ⟨taken, -, all⟩ := foldl_max_spec (first :: rest) first
  refine ⟨?_, all⟩
  rcases taken with same | member
  · rw [greatest, headD_cons, same]
    exact mem_cons_self
  · exact member

theorem least_spec {α : Type} [LinearOrder α] {values : List α} (default : α) (some : values ≠ []) :
    least values default ∈ values ∧ ∀ value ∈ values, least values default ≤ value :=
  @greatest_spec αᵒᵈ _ values default some

variable {bucket : List CanonicalMarketRecord} {bar : Bar}

theorem headD_mem {values : List ℚ} (some : values ≠ []) : values.headD 0 ∈ values := by
  obtain ⟨_, _, rfl⟩ := exists_cons_of_ne_nil some
  exact mem_cons_self

theorem getLastD_mem {values : List ℚ} (some : values ≠ []) : values.getLastD 0 ∈ values := by
  rw [getLastD_eq_getLast?, getLast?_eq_getLast_of_ne_nil some]
  exact getLast_mem some

theorem volumeOf_nonneg (bucket : List CanonicalMarketRecord) : 0 ≤ volumeOf bucket := by
  have amounts : ∀ amount ∈ bucket.map quantityOf, 0 ≤ amount := by
    intro amount member
    obtain ⟨record, -, rfl⟩ := mem_map.mp member
    unfold quantityOf
    cases given : record.quantity with
    | none => exact le_rfl
    | some quantity => exact record.priced.2 quantity given
  exact DecimalContext.sum_nonneg prec28_keepsDigits amounts

theorem bucketFields_proper (asOf stop : Time) (positive : 0 < interval) (some : bucket ≠ []) :
    (bucketFields interval asOf stop bucket).Positive ∧ (bucketFields interval asOf stop bucket).Labelled ∧
      (bucketFields interval asOf stop bucket).Ranged := by
  have priced : prices bucket ≠ [] := by simpa [prices] using some
  have above : ∀ price ∈ prices bucket, 0 < price := by
    intro price member
    obtain ⟨record, -, rfl⟩ := mem_map.mp member
    exact record.priced.1
  obtain ⟨highest, high⟩ := greatest_spec 0 priced
  obtain ⟨lowest, low⟩ := least_spec 0 priced
  have first := headD_mem priced
  have last := getLastD_mem priced
  refine ⟨⟨above _ first, above _ highest, above _ lowest, above _ last, volumeOf_nonneg bucket⟩,
    ⟨sub_lt_self stop positive, rfl⟩, ⟨le_min (low _ first) (low _ last), ?_⟩, low _ last, high _ last⟩
  exact (min_le_left _ _).trans (high _ first)

theorem bucketFields_timely (interval : Duration) (asOf stop : Time) (some : bucket ≠ []) :
    (bucketFields interval asOf stop bucket).Timely ↔ ∀ record ∈ bucket, record.availableAt ≤ stop := by
  have available : bucket.map availableAt ≠ [] := by simpa using some
  obtain ⟨latest, all⟩ := greatest_spec 0 available
  constructor
  · intro timely record member
    exact (all _ (mem_map_of_mem member)).trans timely
  · intro timely
    obtain ⟨record, member, same⟩ := mem_map.mp latest
    exact same.symm.le.trans (timely record member)

theorem barOf_ok_iff (positive : 0 < interval) (some : bucket ≠ []) :
    barOf interval asOf stop bucket = .ok bar ↔ Representable (stop - interval) ∧
      (∀ record ∈ bucket, record.availableAt ≤ stop) ∧
        bar.toBarFields = bucketFields interval asOf stop bucket := by
  obtain ⟨priced, labelled, ranged⟩ := bucketFields_proper asOf stop positive some
  rw [barOf, ← bucketFields_timely interval asOf stop some]
  by_cases early : Representable (stop - interval)
  · rw [refuseIf_bind_of_not (not_not.mpr early), BarFields.validated, dif_pos priced, dif_pos labelled,
      dif_pos ranged]
    by_cases timely : (bucketFields interval asOf stop bucket).Timely
    · rw [dif_pos timely, Except.ok.injEq]
      exact ⟨fun same => ⟨early, timely, same ▸ rfl⟩, fun facts => Bar.fields_injective facts.2.2.symm⟩
    · rw [dif_neg timely]
      exact iff_of_false (by simp) fun facts => timely facts.2.1
  · rw [refuseIf_bind_of early]
    exact iff_of_false (by simp) fun facts => early facts.1

theorem barOf_timely (asOf : Time) (positive : 0 < interval) (some : bucket ≠ [])
    (early : Representable (stop - interval))
    (timely : ∀ record ∈ bucket, record.availableAt ≤ stop) : ∃ bar, barOf interval asOf stop bucket = .ok bar := by
  obtain ⟨priced, labelled, ranged⟩ := bucketFields_proper asOf stop positive some
  refine ⟨⟨_, priced, labelled, ranged, (bucketFields_timely interval asOf stop some).mpr timely⟩, ?_⟩
  exact (barOf_ok_iff positive some).mpr ⟨early, timely, rfl⟩

theorem barOf_late (positive : 0 < interval) (some : bucket ≠ []) (early : Representable (stop - interval))
    (late : ¬∀ record ∈ bucket, record.availableAt ≤ stop) :
    barOf interval asOf stop bucket = .error (.value "bar uses source after its interval") := by
  obtain ⟨priced, labelled, ranged⟩ := bucketFields_proper asOf stop positive some
  rw [← bucketFields_timely interval asOf stop some] at late
  rw [barOf, refuseIf_bind_of_not (not_not.mpr early), BarFields.validated, dif_pos priced, dif_pos labelled,
    dif_pos ranged, dif_neg late]

/-- The buckets that hold a record, in the order of their ends. -/
structure Bucketed (seconds : ℤ) (rows : List CanonicalMarketRecord)
    (groups : List (Time × List CanonicalMarketRecord)) : Prop where
  strict : groups.Pairwise fun first second => first.1 < second.1
  mem_iff : ∀ group, group ∈ groups ↔ group.2 = ofKey (stopOf seconds) group.1 rows ∧ group.2 ≠ []

theorem bucketed_of_collected (collected : Collected (stopOf seconds) rows buckets) :
    Bucketed seconds rows (sortBy Prod.fst buckets) :=
  ⟨collected.strict, fun _ => (mem_sortBy Prod.fst).trans collected.mem_iff⟩

variable {bars : List Bar} {groups : List (Time × List CanonicalMarketRecord)}

theorem buildBars_ok (built : buildBars records interval asOf = .ok bars) :
    0 < interval ∧ ∃ groups, Bucketed (totalSeconds interval) (eligible records asOf) groups ∧
      bars.map Bar.toBarFields = groups.map (fun group => bucketFields interval asOf group.1 group.2) ∧
      ∀ group ∈ groups, ∀ record ∈ group.2, record.availableAt ≤ group.1 := by
  simp only [buildBars, bind_ok, refuseIf_ok, not_le] at built
  obtain ⟨-, positive, _, filled, made⟩ := built
  have bucketed := bucketed_of_collected (fillBuckets_collected filled)
  refine ⟨positive, _, bucketed, ?_, ?_⟩
  · refine map_of_mapM ?_ made
    intro group member bar ok
    exact ((barOf_ok_iff positive ((bucketed.mem_iff group).mp member).2).mp ok).2.2
  · intro group member
    obtain ⟨_, ok⟩ := mapM_succeeds_iff.mp ⟨bars, made⟩ group member
    exact ((barOf_ok_iff positive ((bucketed.mem_iff group).mp member).2).mp ok).2.1

end Liki.Data
