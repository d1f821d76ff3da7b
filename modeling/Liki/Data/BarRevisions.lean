import Liki.Data.Bars

/-! Two views of the same data. What a later view adds to a bucket that had ended before the earlier one
could be known only after the end of the bucket, so the later call refuses it; where both calls succeed,
the bars that had ended are the same. -/
namespace Liki.Data
open Checks SortedGroups List

variable {records first second : List CanonicalMarketRecord} {interval : Duration} {earlier later : Time}
variable {bars others : List Bar} {seconds : ℤ} {groups : List (Time × List CanonicalMarketRecord)}

theorem eligible_earlier (ordered : earlier ≤ later) (records : List CanonicalMarketRecord) :
    (eligible records later).filter (fun record => record.availableAt ≤ earlier) = eligible records earlier := by
  rw [eligible, filter_sortBy, filter_filter, eligible]
  congr 1
  refine filter_congr fun record _ => ?_
  have sooner : record.availableAt ≤ earlier → record.availableAt ≤ later := fun available =>
    available.trans ordered
  by_cases available : record.availableAt ≤ earlier
  · simp [available, sooner available]
  · simp [available]

theorem bucket_of_view (ordered : earlier ≤ later)
    (timely : ∀ record ∈ ofKey (stopOf seconds) stop (eligible records later), record.availableAt ≤ earlier) :
    ofKey (stopOf seconds) stop (eligible records later) = ofKey (stopOf seconds) stop (eligible records earlier) := by
  have all : (ofKey (stopOf seconds) stop (eligible records later)).filter
      (fun record => record.availableAt ≤ earlier) = ofKey (stopOf seconds) stop (eligible records later) :=
    filter_eq_self.mpr fun record member => by simpa using timely record member
  rw [← all, ofKey, filter_comm, eligible_earlier ordered, ← ofKey]

theorem ended_buckets_same (ordered : earlier ≤ later)
    (same : eligible first earlier = eligible second earlier)
    (bucketed : Bucketed seconds (eligible first earlier) groups)
    (rebucketed : Bucketed seconds (eligible second later) otherGroups)
    (timely : ∀ group ∈ otherGroups, ∀ record ∈ group.2, record.availableAt ≤ group.1) :
    groups.filter (fun group => group.1 ≤ earlier) = otherGroups.filter fun group => group.1 ≤ earlier := by
  refine eq_of_strict (bucketed.strict.filter _) (rebucketed.strict.filter _) fun group => ?_
  simp only [mem_filter, decide_eq_true_eq, bucketed.mem_iff, rebucketed.mem_iff, same]
  refine and_congr_left fun ended => ?_
  -- nothing that the later view adds to the bucket was in time
  have kept : ofKey (stopOf seconds) group.1 (eligible second later) =
      ofKey (stopOf seconds) group.1 (eligible second earlier) := by
    refine bucket_of_view ordered fun record member => ?_
    have listed : (group.1, ofKey (stopOf seconds) group.1 (eligible second later)) ∈ otherGroups :=
      (rebucketed.mem_iff _).mpr ⟨rfl, ne_nil_of_mem member⟩
    exact (timely _ listed record member).trans ended
  rw [kept]

theorem map_fields_filter (bars : List Bar) (instant : Time) :
    (bars.filter fun bar => bar.endTime ≤ instant).map Bar.toBarFields =
      (bars.map Bar.toBarFields).filter fun fields => fields.endTime ≤ instant := by
  rw [filter_map]
  rfl

theorem ended_bars
    (made : bars.map Bar.toBarFields = groups.map fun group => bucketFields interval asOf group.1 group.2)
    (ordered : earlier ≤ asOf) :
    (bars.filter fun bar => bar.endTime ≤ earlier).map Bar.toBarFields =
      (groups.filter fun group => group.1 ≤ earlier).map fun group =>
        bucketFields interval earlier group.1 group.2 := by
  rw [map_fields_filter, made, filter_map]
  refine map_congr_left fun group member => ?_
  have ended : group.1 ≤ earlier := by simpa [bucketFields] using (mem_filter.mp member).2
  simp [bucketFields, ended, ended.trans ordered]

theorem refused_of_late (member : record ∈ second) (available : record.availableAt ≤ later)
    (late : stopOf (totalSeconds interval) record < record.availableAt) :
    ∃ error, buildBars second interval later = .error error := by
  refine refused_of_not_ok fun bars built => ?_
  obtain ⟨-, _, bucketed, -, timely⟩ := buildBars_ok built
  have listed : record ∈ ofKey (stopOf (totalSeconds interval)) (stopOf (totalSeconds interval) record)
      (eligible second later) := by
    simp [ofKey, eligible, member, available]
  have group := (bucketed.mem_iff (stopOf (totalSeconds interval) record, _)).mpr ⟨rfl, ne_nil_of_mem listed⟩
  exact absurd (timely _ group record listed) (not_le.mpr late)

/-- A bar that has ended is never repainted, extended or withdrawn: a later view of the same data gives
the same bars up to there, or it is refused, and it is refused when it adds a record to one of them. -/
theorem ended_bars_never_repainted (ordered : earlier ≤ later)
    (same : (first.filter fun record => record.availableAt ≤ earlier) =
      second.filter fun record => record.availableAt ≤ earlier)
    (built : buildBars first interval earlier = .ok bars) :
    (∀ others, buildBars second interval later = .ok others →
      (bars.filter fun bar => bar.endTime ≤ earlier) = others.filter fun bar => bar.endTime ≤ earlier) ∧
    ((∃ record ∈ second, earlier < record.availableAt ∧ record.availableAt ≤ later ∧
        stopOf (totalSeconds interval) record ≤ earlier) →
      ∃ error, buildBars second interval later = .error error) := by
  have view : eligible first earlier = eligible second earlier := by rw [eligible, same, eligible]
  constructor
  · intro others rebuilt
    obtain ⟨-, _, bucketed, made, -⟩ := buildBars_ok built
    obtain ⟨-, _, rebucketed, remade, timely⟩ := buildBars_ok rebuilt
    refine Bar.fields_injective.list_map ?_
    rw [ended_bars made le_rfl, ended_bars remade ordered,
      ended_buckets_same ordered view bucketed rebucketed timely]
  · rintro ⟨_, member, unknown, available, ended⟩
    exact refused_of_late member available (ended.trans_lt unknown)

/-- Two trades of one minute, the second known only after its end. -/
theorem minute_never_repainted :
    ∃ bars, buildBars [tradeAt 0 0 100 1, tradeAt 59000000 2000000 101 1] 60000000 60000000 = .ok bars ∧
      (∀ others, buildBars [tradeAt 0 0 100 1, tradeAt 61000000 0 102 1] 60000000 62000000 = .ok others →
        (bars.filter fun bar => bar.endTime ≤ 60000000) = others.filter fun bar => bar.endTime ≤ 60000000) ∧
      ∃ error, buildBars [tradeAt 0 0 100 1, tradeAt 59000000 2000000 101 1] 60000000 62000000 = .error error := by
  have succeeds : (buildBars [tradeAt 0 0 100 1, tradeAt 59000000 2000000 101 1] 60000000 60000000).isOk = true := by
    decide +kernel
  cases built : buildBars [tradeAt 0 0 100 1, tradeAt 59000000 2000000 101 1] 60000000 60000000 with
  | error =>
    rw [built] at succeeds
    cases succeeds
  | ok bars =>
    refine ⟨bars, rfl, (ended_bars_never_repainted (by decide) (by decide +kernel) built).1,
      (ended_bars_never_repainted (by decide) rfl built).2 ⟨tradeAt 59000000 2000000 101 1, ?_⟩⟩
    decide +kernel

end Liki.Data
