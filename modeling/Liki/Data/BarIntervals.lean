import Liki.Data.Bars

/-! What the bars of whole seconds are. The interval of an event starts at a multiple of the length; the
bars are the intervals that hold a record, each tells what its records say, and a call is refused only
for a record that could be known after the end of its interval. -/
namespace Liki.Data
open Checks SortedGroups DecimalArithmetic List

def Within (bar : Bar) (instant : Time) : Prop := bar.startTime ≤ instant ∧ instant < bar.endTime

instance (bar : Bar) (instant : Time) : Decidable (Within bar instant) := inferInstanceAs (Decidable (_ ∧ _))

structure Tells (ctx : DecimalContext) (bucket : List CanonicalMarketRecord) (bar : Bar) : Prop where
  first : bucket.head?.map CanonicalMarketRecord.price = some bar.opening
  last : bucket.getLast?.map CanonicalMarketRecord.price = some bar.close
  high : bar.high ∈ prices bucket ∧ ∀ price ∈ prices bucket, price ≤ bar.high
  low : bar.low ∈ prices bucket ∧ ∀ price ∈ prices bucket, bar.low ≤ price
  volume : bar.volume = ctx.sum (bucket.map quantityOf)

structure BarsOf (ctx : DecimalContext) (records : List CanonicalMarketRecord) (interval : Duration) (asOf : Time)
    (bars : List Bar) : Prop where
  long : ∀ bar ∈ bars, bar.endTime - bar.startTime = interval
  apart : bars.Pairwise fun earlier later => earlier.endTime ≤ later.startTime
  once : ∀ record ∈ records, record.availableAt ≤ asOf → ∃! bar, bar ∈ bars ∧ Within bar record.eventTime
  tells : ∀ bar ∈ bars, Tells ctx ((eligible records asOf).filter fun record => Within bar record.eventTime) bar

def Built (ctx : DecimalContext) (records : List CanonicalMarketRecord) (interval : Duration) (asOf : Time) : Prop :=
  ∃ bars, buildBars records interval asOf = .ok bars ∧ BarsOf ctx records interval asOf bars

def intervalStart (interval : Duration) (record : CanonicalMarketRecord) : Time :=
  record.eventTime / interval * interval

def intervalEnd (interval : Duration) (record : CanonicalMarketRecord) : Time :=
  intervalStart interval record + interval

/-- The clock and the calendar serve the record: its event has the second that it falls in, and its
interval lies in the years that a `datetime` can have. -/
structure Datable (interval : Duration) (record : CanonicalMarketRecord) : Prop where
  second : totalSeconds record.eventTime = record.eventTime / 1000000
  starts : Representable (intervalStart interval record)
  ends : Representable (intervalEnd interval record)

variable {interval : Duration} {asOf : Time} {record : CanonicalMarketRecord}
variable {records : List CanonicalMarketRecord} {seconds : ℤ}

theorem bucketEnd_dated (positive : 0 < seconds) (dated : Datable (seconds * 1000000) record) :
    bucketEnd (totalSeconds (seconds * 1000000)) record = .ok (intervalEnd (seconds * 1000000) record) := by
  have short : |seconds| < 2 ^ 53 := by
    have length : seconds * 1000000 =
        intervalEnd (seconds * 1000000) record - intervalStart (seconds * 1000000) record :=
      (add_sub_cancel_left _ _).symm
    have starts := dated.starts.1
    have ends := dated.ends.2
    rw [abs_of_pos positive]
    have span : seconds * 1000000 ≤ 253402300799999999 - -62135596800000000 :=
      length.le.trans (sub_le_sub ends starts)
    omega
  rw [bucketEnd_ok, totalSeconds_whole seconds short, stopOf, dated.second]
  have same : (record.eventTime / 1000000 / seconds + 1) * seconds * 1000000 =
      intervalEnd (seconds * 1000000) record := by
    rw [intervalEnd, intervalStart, mul_comm seconds, ← Int.ediv_ediv_of_nonneg (by norm_num)]
    ring
  rw [same]
  exact ⟨positive.ne', dated.ends, rfl⟩

theorem in_interval_iff (positive : 0 < interval) (record other : CanonicalMarketRecord) :
    intervalEnd interval other - interval ≤ record.eventTime ∧ record.eventTime < intervalEnd interval other ↔
      intervalEnd interval record = intervalEnd interval other := by
  rw [intervalEnd, add_sub_cancel_right, intervalEnd, add_left_inj, intervalStart, intervalStart,
    mul_left_inj' positive.ne']
  exact (Int.ediv_eq_iff_of_pos positive).symm

variable {rows : List CanonicalMarketRecord} {groups : List (Time × List CanonicalMarketRecord)}
  {group : Time × List CanonicalMarketRecord} {values : List ℚ}

theorem bucketed_intervals (positive : 0 < seconds) (dated : ∀ record ∈ rows, Datable (seconds * 1000000) record)
    (bucketed : Bucketed (totalSeconds (seconds * 1000000)) rows groups) (group : Time × List CanonicalMarketRecord) :
    group ∈ groups ↔ group.2 = ofKey (intervalEnd (seconds * 1000000)) group.1 rows ∧ group.2 ≠ [] := by
  have same : ofKey (stopOf (totalSeconds (seconds * 1000000))) group.1 rows =
      ofKey (intervalEnd (seconds * 1000000)) group.1 rows := by
    refine filter_congr fun record member => ?_
    rw [(bucketEnd_ok.mp (bucketEnd_dated positive (dated record member))).2.2]
  rw [bucketed.mem_iff, same]

theorem filter_interval (positive : 0 < interval)
    (content : group.2 = ofKey (intervalEnd interval) group.1 rows) (some : group.2 ≠ []) :
    (rows.filter fun record => group.1 - interval ≤ record.eventTime ∧ record.eventTime < group.1) = group.2 := by
  obtain ⟨other, member⟩ := exists_mem_of_ne_nil _ some
  rw [content] at member
  have named : intervalEnd interval other = group.1 := by simpa [ofKey] using (mem_filter.mp member).2
  rw [content, ofKey]
  refine filter_congr fun record _ => ?_
  rw [← named]
  exact decide_eq_decide.mpr (in_interval_iff positive record other)

variable {bucket : List CanonicalMarketRecord} {bar : Bar} {bars : List Bar} {stop : Time}

theorem headD_of_head? (some : values ≠ []) : values.head? = .some (values.headD 0) := by
  obtain ⟨_, _, rfl⟩ := exists_cons_of_ne_nil some
  rfl

theorem getLastD_of_getLast? (some : values ≠ []) :
    values.getLast? = .some (values.getLastD 0) := by
  rw [getLastD_eq_getLast?, getLast?_eq_getLast_of_ne_nil some, Option.getD_some]

theorem tells_of_bucket (some : bucket ≠ []) (made : bar.toBarFields = bucketFields interval asOf stop bucket) :
    Tells prec28 bucket bar := by
  have priced : prices bucket ≠ [] := by simpa [prices] using some
  refine ⟨?_, ?_, ?_, ?_, by rw [made]; rfl⟩
  · rw [← head?_map, made]
    exact headD_of_head? priced
  · rw [← getLast?_map, made]
    exact getLastD_of_getLast? priced
  · rw [made]
    exact greatest_spec 0 priced
  · rw [made]
    exact least_spec 0 priced

theorem intervals_apart (positive : 0 < interval)
    (before : intervalEnd interval first < intervalEnd interval second) :
    intervalEnd interval first ≤ intervalEnd interval second - interval := by
  rw [intervalEnd, intervalEnd, intervalStart, intervalStart, add_lt_add_iff_right] at before
  have quotients := lt_of_mul_lt_mul_right before positive.le
  rw [intervalEnd, intervalEnd, add_sub_cancel_right, intervalStart, intervalStart]
  have scaled := mul_le_mul_of_nonneg_right (Int.add_one_le_iff.mpr quotients) positive.le
  rwa [add_mul, one_mul] at scaled

section Assembled

def Intervals (interval : Duration) (rows : List CanonicalMarketRecord)
    (groups : List (Time × List CanonicalMarketRecord)) : Prop :=
  ∀ group, group ∈ groups ↔ group.2 = ofKey (intervalEnd interval) group.1 rows ∧ group.2 ≠ []

def MadeOf (interval : Duration) (asOf : Time) (groups : List (Time × List CanonicalMarketRecord))
    (bars : List Bar) : Prop :=
  bars.map Bar.toBarFields = groups.map fun group => bucketFields interval asOf group.1 group.2

variable {groups : List (Time × List CanonicalMarketRecord)}
  {group : Time × List CanonicalMarketRecord}

theorem Intervals.named (intervals : Intervals interval rows groups) (member : group ∈ groups) :
    ∃ record, intervalEnd interval record = group.1 := by
  obtain ⟨content, some⟩ := (intervals group).mp member
  obtain ⟨record, held⟩ := exists_mem_of_ne_nil _ some
  rw [content] at held
  exact ⟨record, by simpa using (mem_filter.mp held).2⟩

theorem MadeOf.group_of_bar (made : MadeOf interval asOf groups bars) (member : bar ∈ bars) :
    ∃ group ∈ groups, bucketFields interval asOf group.1 group.2 = bar.toBarFields := by
  have fields : bar.toBarFields ∈ bars.map Bar.toBarFields := mem_map_of_mem member
  rw [made] at fields
  exact mem_map.mp fields

theorem MadeOf.bar_of_group (made : MadeOf interval asOf groups bars) (member : group ∈ groups) :
    ∃ bar ∈ bars, bar.toBarFields = bucketFields interval asOf group.1 group.2 := by
  have fields : bucketFields interval asOf group.1 group.2 ∈
      groups.map fun group => bucketFields interval asOf group.1 group.2 :=
    mem_map_of_mem (f := fun group => bucketFields interval asOf group.1 group.2) member
  rw [← made] at fields
  exact mem_map.mp fields

theorem within_iff (same : bucketFields interval asOf stop bucket = bar.toBarFields) (instant : Time) :
    Within bar instant ↔ stop - interval ≤ instant ∧ instant < stop := by
  rw [Within, ← same]
  rfl

theorem bars_apart (positive : 0 < interval)
    (strict : groups.Pairwise fun first second => first.1 < second.1)
    (intervals : Intervals interval rows groups) (made : MadeOf interval asOf groups bars) :
    bars.Pairwise fun earlier later => earlier.endTime ≤ later.startTime := by
  have ends : (bars.map fun bar => (bar.startTime, bar.endTime)) =
      groups.map fun group => (group.1 - interval, group.1) := by
    have read := congrArg (map fun fields : BarFields => (fields.startTime, fields.endTime)) made
    rw [map_map, map_map] at read
    exact read
  have pairs : (bars.map fun bar => (bar.startTime, bar.endTime)).Pairwise fun earlier later =>
      earlier.2 ≤ later.1 := by
    rw [ends, pairwise_map]
    refine strict.imp_of_mem fun {first second} firstMember secondMember before => ?_
    obtain ⟨_, firstEnd⟩ := intervals.named firstMember
    obtain ⟨_, secondEnd⟩ := intervals.named secondMember
    rw [← firstEnd, ← secondEnd] at before ⊢
    exact intervals_apart positive before
  exact pairwise_map.mp pairs

theorem bars_once (positive : 0 < interval) (intervals : Intervals interval rows groups)
    (made : MadeOf interval asOf groups bars) (member : record ∈ rows) :
    ∃! bar, bar ∈ bars ∧ Within bar record.eventTime := by
  have held : record ∈ ofKey (intervalEnd interval) (intervalEnd interval record) rows := by
    simp [ofKey, member]
  have group := (intervals (intervalEnd interval record, _)).mpr ⟨rfl, ne_nil_of_mem held⟩
  obtain ⟨bar, barMember, same⟩ := made.bar_of_group group
  have own := (in_interval_iff positive record record).mpr rfl
  refine ⟨bar, ⟨barMember, (within_iff same.symm _).mpr own⟩, ?_⟩
  rintro other ⟨otherMember, inside⟩
  obtain ⟨otherGroup, listed, otherSame⟩ := made.group_of_bar otherMember
  obtain ⟨content, -⟩ := (intervals otherGroup).mp listed
  obtain ⟨inhabitant, ended⟩ := intervals.named listed
  rw [within_iff otherSame, ← ended] at inside
  have sameEnd := ((in_interval_iff positive record inhabitant).mp inside).trans ended
  refine Bar.fields_injective ?_
  rw [← otherSame, same, content, ← sameEnd]
  rfl

theorem bars_tell (positive : 0 < interval) (intervals : Intervals interval rows groups)
    (made : MadeOf interval asOf groups bars) (member : bar ∈ bars) :
    Tells prec28 (rows.filter fun record => Within bar record.eventTime) bar := by
  obtain ⟨group, listed, same⟩ := made.group_of_bar member
  obtain ⟨content, some⟩ := (intervals group).mp listed
  have inside : (rows.filter fun record => Within bar record.eventTime) = group.2 := by
    rw [← filter_interval positive content some]
    refine filter_congr fun record _ => ?_
    exact decide_eq_decide.mpr (within_iff same _)
  rw [inside]
  exact tells_of_bucket some same.symm

theorem barsOf_intervals (positive : 0 < interval)
    (strict : groups.Pairwise fun first second => first.1 < second.1)
    (intervals : Intervals interval (eligible records asOf) groups) (made : MadeOf interval asOf groups bars) :
    BarsOf prec28 records interval asOf bars where
  long bar member := by
    obtain ⟨group, -, same⟩ := made.group_of_bar member
    rw [← same]
    exact sub_sub_cancel group.1 interval
  apart := bars_apart positive strict intervals made
  once record member available := bars_once positive intervals made (by simp [eligible, member, available])
  tells bar member := bars_tell positive intervals made member

end Assembled

theorem buildBars_dated (positive : 0 < seconds)
    (dated : ∀ record ∈ eligible records asOf, Datable (seconds * 1000000) record) :
    ∃ groups, buildBars records (seconds * 1000000) asOf =
        groups.mapM (fun group => barOf (seconds * 1000000) asOf group.1 group.2) ∧
      (groups.Pairwise fun first second => first.1 < second.1) ∧
      Intervals (seconds * 1000000) (eligible records asOf) groups := by
  have length : ¬seconds * 1000000 ≤ 0 := not_le.mpr (mul_pos positive (by norm_num))
  obtain ⟨_, filled⟩ := fillBuckets_succeeds_iff.mpr fun record member =>
    ⟨_, bucketEnd_dated positive (dated record member)⟩
  have bucketed := bucketed_of_collected (fillBuckets_collected filled)
  refine ⟨_, ?_, bucketed.strict, bucketed_intervals positive dated bucketed⟩
  rw [buildBars, refuseIf_bind_of_not length, filled, ok_bind]

theorem starts_representable (dated : ∀ record ∈ rows, Datable interval record)
    (intervals : Intervals interval rows groups) (member : group ∈ groups) :
    Representable (group.1 - interval) := by
  obtain ⟨content, some⟩ := (intervals group).mp member
  obtain ⟨record, held⟩ := exists_mem_of_ne_nil _ some
  rw [content] at held
  have named : intervalEnd interval record = group.1 := by simpa using (mem_filter.mp held).2
  have starts := (dated record (mem_filter.mp held).1).starts
  rwa [← named, intervalEnd, add_sub_cancel_right]

theorem built_of_timely (positive : 0 < seconds)
    (dated : ∀ record ∈ eligible records asOf, Datable (seconds * 1000000) record)
    (timely : ∀ record ∈ eligible records asOf, record.availableAt ≤ intervalEnd (seconds * 1000000) record) :
    Built prec28 records (seconds * 1000000) asOf := by
  have length : 0 < seconds * 1000000 := mul_pos positive (by norm_num)
  obtain ⟨groups, whole, strict, intervals⟩ := buildBars_dated positive dated
  have each : ∀ group ∈ groups, ∃ bar, barOf (seconds * 1000000) asOf group.1 group.2 = .ok bar := by
    intro group member
    obtain ⟨content, some⟩ := (intervals group).mp member
    refine barOf_timely asOf length some (starts_representable dated intervals member) fun record held => ?_
    rw [content] at held
    have named : intervalEnd (seconds * 1000000) record = group.1 := by simpa using (mem_filter.mp held).2
    exact named ▸ timely record (mem_filter.mp held).1
  obtain ⟨bars, made⟩ := mapM_succeeds_iff.mpr each
  refine ⟨bars, whole.trans made, barsOf_intervals length strict intervals (map_of_mapM ?_ made)⟩
  intro group member bar ok
  exact ((barOf_ok_iff length ((intervals group).mp member).2).mp ok).2.2

theorem refused_of_untimely (positive : 0 < seconds)
    (dated : ∀ record ∈ eligible records asOf, Datable (seconds * 1000000) record)
    (untimely : ∃ record ∈ eligible records asOf, intervalEnd (seconds * 1000000) record < record.availableAt) :
    buildBars records (seconds * 1000000) asOf = .error (.value "bar uses source after its interval") := by
  have length : 0 < seconds * 1000000 := mul_pos positive (by norm_num)
  obtain ⟨groups, whole, -, intervals⟩ := buildBars_dated positive dated
  have only : Only (· = .value "bar uses source after its interval")
      (groups.mapM fun group => barOf (seconds * 1000000) asOf group.1 group.2) := by
    refine only_mapM fun group member => ?_
    have some := ((intervals group).mp member).2
    have starts := starts_representable dated intervals member
    by_cases timely : ∀ record ∈ group.2, record.availableAt ≤ group.1
    · obtain ⟨bar, ok⟩ := barOf_timely asOf length some starts timely
      rw [ok]
      exact only_ok
    · rw [barOf_late length some starts timely]
      exact only_error.mpr rfl
  rw [← whole] at only
  have fails : ∀ bars, buildBars records (seconds * 1000000) asOf ≠ .ok bars := by
    intro bars built
    obtain ⟨record, member, late⟩ := untimely
    have held : record ∈ ofKey (intervalEnd (seconds * 1000000)) (intervalEnd (seconds * 1000000) record)
        (eligible records asOf) := mem_filter.mpr ⟨member, by simp⟩
    have group := (intervals (intervalEnd (seconds * 1000000) record, _)).mpr ⟨rfl, ne_nil_of_mem held⟩
    obtain ⟨_, ok⟩ := mapM_succeeds_iff.mp ⟨bars, whole.symm.trans built⟩ _ group
    have timely := ((barOf_ok_iff length (ne_nil_of_mem held)).mp ok).2.1
    exact absurd (timely record held) (not_le.mpr late)
  obtain ⟨refusal, refused⟩ := refused_of_not_ok fails
  rw [refused, only refusal refused]

theorem mem_eligible : record ∈ eligible records asOf ↔ record ∈ records ∧ record.availableAt ≤ asOf := by
  simp [eligible]

/-- Bars of whole seconds are disjoint intervals in ascending order, with every available record in
exactly one of them, and tell what their records say; a call is refused only for a record that could be
known after the end of its interval. -/
theorem whole_second_bars (records : List CanonicalMarketRecord) (seconds : ℤ) (asOf : Time)
    (positive : 0 < seconds)
    (dated : ∀ record ∈ records, record.availableAt ≤ asOf → Datable (seconds * 1000000) record) :
    ((∀ record ∈ records, record.availableAt ≤ asOf → record.availableAt ≤ intervalEnd (seconds * 1000000) record) →
      Built prec28 records (seconds * 1000000) asOf) ∧
    ((∃ record ∈ records, record.availableAt ≤ asOf ∧ intervalEnd (seconds * 1000000) record < record.availableAt) →
      buildBars records (seconds * 1000000) asOf = .error (.value "bar uses source after its interval")) := by
  have eligibleDated : ∀ record ∈ eligible records asOf, Datable (seconds * 1000000) record := fun record member =>
    dated record (mem_eligible.mp member).1 (mem_eligible.mp member).2
  constructor
  · intro timely
    exact built_of_timely positive eligibleDated fun record member =>
      timely record (mem_eligible.mp member).1 (mem_eligible.mp member).2
  · rintro ⟨record, member, available, late⟩
    exact refused_of_untimely positive eligibleDated ⟨record, mem_eligible.mpr ⟨member, available⟩, late⟩

theorem datable_of_modern (positive : 0 < interval) (nonneg : 0 ≤ record.eventTime)
    (early : record.eventTime < 2 ^ 34 * 1000000) (ends : intervalEnd interval record ≤ 253402300799999999) :
    Datable interval record := by
  have starts : 0 ≤ intervalStart interval record := mul_nonneg (Int.ediv_nonneg nonneg positive.le) positive.le
  have before : intervalStart interval record ≤ intervalEnd interval record := le_add_of_nonneg_right positive.le
  exact ⟨totalSeconds_floor nonneg early, ⟨le_trans (by decide) starts, before.trans ends⟩,
    ⟨le_trans (by decide) (starts.trans before), ends⟩⟩

theorem minute_bars_built : Built prec28 [tradeAt 59000000 1000000 100 1, tradeAt 0 0 100 1] 60000000 60000000 := by
  refine (whole_second_bars [tradeAt 59000000 1000000 100 1, tradeAt 0 0 100 1] 60 60000000 (by decide) ?_).1 ?_
  · intro record member _
    rcases mem_cons.mp member with rfl | last
    · exact datable_of_modern (by decide) (by decide) (by decide) (by decide)
    · rw [mem_singleton.mp last]
      exact datable_of_modern (by decide) (by decide) (by decide) (by decide)
  · decide

theorem not_built_of_refused (refusal : BarError)
    (refused : buildBars records interval asOf = .error refusal) :
    ¬Built ctx records interval asOf := by
  rintro ⟨_, built, -⟩
  cases refused.symm.trans built

theorem shown_of_built {Shown : Type} (shows : Bar → Shown) (shown : List Shown)
    (computed : (buildBars records interval asOf).map (map shows) = .ok shown)
    (built : buildBars records interval asOf = .ok bars) : bars.map shows = shown := by
  rw [built] at computed
  exact Except.ok.inj computed

/-- A record that is known after the end of its interval, intervals of half a second and of one and a half,
an event before 1970, and quantities of more than 28 digits together. -/
theorem bars_not_always_built :
    ¬Built .exact [tradeAt 0 61000000 100 1] 60000000 61000000 ∧
      ¬Built .exact [tradeAt 0 0 100 1] 500000 0 ∧
      ¬Built .exact [tradeAt 0 0 100 1, tradeAt 1000000 0 100 1] 1500000 1000000 ∧
      ¬Built .exact [tradeAt (-500000) 0 100 1] 1000000 0 ∧
      ¬Built .exact [tradeAt 0 0 100 (10 ^ 28), tradeAt 0 0 100 1] 1000000 0 := by
  refine ⟨?_, ?_, ?_, ?_, ?_⟩
  · exact not_built_of_refused (.value "bar uses source after its interval") (by decide +kernel)
  · exact not_built_of_refused .zeroDivision (by decide +kernel)
  · rintro ⟨bars, built, barsOf⟩
    have ends := shown_of_built (fun bar => (bar.startTime, bar.endTime))
      [(-500000, 1000000), (500000, 2000000)] (by decide +kernel) built
    have apart : (bars.map fun bar => (bar.startTime, bar.endTime)).Pairwise fun earlier later =>
        earlier.2 ≤ later.1 := pairwise_map.mpr barsOf.apart
    rw [ends] at apart
    exact absurd apart (by decide)
  · rintro ⟨bars, built, barsOf⟩
    have starts := shown_of_built (fun bar => bar.startTime) [0] (by decide +kernel) built
    obtain ⟨bar, ⟨member, within⟩, -⟩ := barsOf.once _ mem_cons_self (by decide)
    have shown : bar.startTime ∈ bars.map fun bar => bar.startTime :=
      mem_map_of_mem (f := fun bar : Bar => bar.startTime) member
    rw [starts, mem_singleton] at shown
    rw [Within, shown] at within
    exact absurd within.1 (by decide)
  · rintro ⟨_, built, barsOf⟩
    have shown := shown_of_built (fun bar => (bar.startTime, bar.endTime, bar.volume))
      [(0, 1000000, 10 ^ 28)] (by decide +kernel) built
    obtain ⟨bar, rfl, fields⟩ := map_eq_singleton_iff.mp shown
    have volume := (barsOf.tells bar mem_cons_self).volume
    simp only [Prod.mk.injEq] at fields
    obtain ⟨starts, ends, rounded⟩ := fields
    simp only [Within, starts, ends, rounded] at volume
    exact absurd volume (by decide +kernel)

end Liki.Data
