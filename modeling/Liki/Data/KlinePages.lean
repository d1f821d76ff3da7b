import Liki.Data.Instruments

/-! Klines page by page. A page that is shorter than the limit ends the pagination, so a venue
whose own page limit is smaller than the requested one is read for one page only. -/
namespace Liki.Data
open Checks List

inductive KlineError where
  | value (message : String)

/-- A kline as the venue stores it, with times in milliseconds. -/
structure Kline where
  openTime : ℤ
  opened : WrittenDecimal
  high : WrittenDecimal
  low : WrittenDecimal
  close : WrittenDecimal
  volume : WrittenDecimal
  closeTime : ℤ
  quoteVolume : WrittenDecimal
  tradeCount : ℕ

structure KlinePage where
  klines : List Kline
  nextStartTime : Option ℤ

/-- A venue with klines that do not overlap and a page limit of its own. -/
structure KlineVenue where
  klines : List Kline
  cap : ℕ
  capped : 1 ≤ cap
  lasting : ∀ kline ∈ klines, kline.openTime ≤ kline.closeTime
  apart : klines.Pairwise fun earlier later => earlier.closeTime < later.openTime

def KlineVenue.within (venue : KlineVenue) (startTime endTime : ℤ) : List Kline :=
  venue.klines.filter fun kline => startTime ≤ kline.openTime ∧ kline.openTime ≤ endTime

def KlineVenue.respond (venue : KlineVenue) (startTime endTime : ℤ) (limit : ℕ) : List Kline :=
  (venue.within startTime endTime).take (min limit venue.cap)

/-- `fetch_klines`. -/
def fetchKlines (venue : KlineVenue) (startTime endTime limit : ℤ) : Except KlineError KlinePage := do
  refuseIf (startTime < 0 ∨ endTime ≤ startTime ∨ ¬(1 ≤ limit ∧ limit ≤ 1500))
    (.value "invalid bounded Binance kline request")
  let data := venue.respond startTime endTime limit.toNat
  return {
    klines := data
    nextStartTime := if data.length = limit then data.getLast?.map fun kline => kline.closeTime + 1
      else none }

/-- `paginate_klines` from a start on. -/
def paginateKlines (venue : KlineVenue) (endTime limit startTime : ℤ) :
    Except KlineError (List KlinePage) :=
  if _ : startTime < endTime then do
    let page ← fetchKlines venue startTime endTime limit
    match page.nextStartTime with
    | none => return [page]
    | some nextStart =>
      if _ : nextStart ≤ startTime then return [page]
      else return page :: (← paginateKlines venue endTime limit nextStart)
  else return []
termination_by (endTime - startTime).toNat

def KlineVenue.wanted (venue : KlineVenue) (startTime endTime : ℤ) : List Kline :=
  venue.klines.filter fun kline => startTime ≤ kline.openTime ∧ kline.openTime < endTime

def CoversRange (venue : KlineVenue) (startTime endTime limit : ℤ) : Prop :=
  ∃ pages, paginateKlines venue endTime limit startTime = .ok pages ∧
    (pages.flatMap KlinePage.klines).filter (fun kline => kline.openTime < endTime) =
      venue.wanted startTime endTime

variable {venue : KlineVenue} {startTime endTime limit : ℤ} {kline : Kline} {page : KlinePage}

theorem fetchKlines_ok : fetchKlines venue startTime endTime limit = .ok page ↔
    (0 ≤ startTime ∧ startTime < endTime ∧ 1 ≤ limit ∧ limit ≤ 1500) ∧
      page.klines = venue.respond startTime endTime limit.toNat ∧
      page.nextStartTime = if (page.klines.length : ℤ) = limit
        then page.klines.getLast?.map fun kline => kline.closeTime + 1 else none := by
  simp only [fetchKlines, bind_ok, guard_ok, pure_ok, not_or, not_lt, not_le, not_not]
  constructor
  · rintro ⟨⟨positive, before, limits⟩, rfl⟩
    exact ⟨⟨positive, before, limits⟩, rfl, rfl⟩
  · rintro ⟨⟨positive, before, limits⟩, rows, next⟩
    refine ⟨⟨positive, before, limits⟩, ?_⟩
    rw [rows] at next
    obtain ⟨klines, nextStart⟩ := page
    cases rows
    cases next
    rfl

theorem exists_fetched (limits : 1 ≤ limit ∧ limit ≤ 1500) (positive : 0 ≤ startTime)
    (before : startTime < endTime) : ∃ page, fetchKlines venue startTime endTime limit = .ok page := by
  rw [fetchKlines, refuseIf, if_neg (by omega)]
  exact ⟨_, rfl⟩

theorem wanted_eq_filter : venue.wanted startTime endTime =
    (venue.within startTime endTime).filter fun kline => kline.openTime < endTime := by
  rw [KlineVenue.wanted, KlineVenue.within, filter_filter]
  congr 1
  funext kline
  rw [← Bool.decide_and]
  exact decide_eq_decide.mpr (by omega)

/-- The first rows of an ordered list hold all of its kept beginning exactly when there are enough. -/
theorem filter_take_eq_iff {rows : List Kline}
    (ordered : rows.Pairwise fun earlier later => earlier.openTime < later.openTime) :
    (rows.take size).filter (fun kline => kline.openTime < endTime) =
        rows.filter (fun kline => kline.openTime < endTime) ↔
      (rows.filter fun kline => kline.openTime < endTime).length ≤ size := by
  have whole : rows.filter (fun kline => kline.openTime < endTime) =
      (rows.take size).filter (fun kline => kline.openTime < endTime) ++
        (rows.drop size).filter (fun kline => kline.openTime < endTime) := by
    rw [← filter_append, take_append_drop]
  constructor
  · intro same
    rw [← same]
    exact (length_filter_le _ _).trans (length_take_le size rows)
  · intro few
    suffices none : (rows.drop size).filter (fun kline => kline.openTime < endTime) = [] by
      rw [whole, none, append_nil]
    by_contra some
    obtain ⟨later, held⟩ := exists_mem_of_ne_nil _ some
    obtain ⟨beyond, opens⟩ := mem_filter.mp held
    rw [← take_append_drop size rows, pairwise_append] at ordered
    have kept : (rows.take size).filter (fun kline => kline.openTime < endTime) = rows.take size :=
      filter_eq_self.mpr fun earlier first => decide_eq_true
        ((ordered.2.2 earlier first later beyond).trans (of_decide_eq_true opens))
    have full : (rows.take size).length = size := by
      have room := length_pos_of_mem beyond
      rw [length_drop] at room
      exact length_take_of_le (by omega)
    have more := length_pos_of_mem held
    rw [whole, length_append, kept, full] at few
    omega

theorem within_ordered : (venue.within startTime endTime).Pairwise
    fun earlier later => earlier.openTime < later.openTime := by
  refine List.Pairwise.filter _ (venue.apart.imp_of_mem fun {earlier} _ held _ ends => ?_)
  exact (venue.lasting earlier held).trans_lt ends

/-- A page that is cut at its last kline leaves exactly what opens after that one has closed. -/
theorem wanted_after (range : startTime ≤ kline.closeTime + 1)
    (cut : venue.within startTime endTime = earlier ++ kline :: later) :
    venue.wanted startTime endTime = (earlier ++ [kline]).filter (fun kline => kline.openTime < endTime) ++
      venue.wanted (kline.closeTime + 1) endTime := by
  have ordered := venue.apart.filter fun kline => startTime ≤ kline.openTime ∧ kline.openTime ≤ endTime
  rw [← KlineVenue.within, cut, pairwise_append, pairwise_cons] at ordered
  have listed : kline ∈ venue.within startTime endTime := by rw [cut]; simp
  have lasts := venue.lasting kline (mem_filter.mp listed).1
  have rest : venue.wanted (kline.closeTime + 1) endTime =
      later.filter fun kline => kline.openTime < endTime := by
    have through : venue.wanted (kline.closeTime + 1) endTime =
        (venue.within startTime endTime).filter fun other =>
          kline.closeTime + 1 ≤ other.openTime ∧ other.openTime < endTime := by
      rw [KlineVenue.wanted, KlineVenue.within, filter_filter]
      congr 1
      funext other
      rw [← Bool.decide_and]
      exact decide_eq_decide.mpr (by omega)
    have before : ∀ other ∈ earlier, ¬(kline.closeTime + 1 ≤ other.openTime) := by
      intro other held
      have ends := ordered.2.2 other held kline mem_cons_self
      have member : other ∈ venue.within startTime endTime := by rw [cut]; simp [held]
      have begins := venue.lasting other (mem_filter.mp member).1
      omega
    rw [through, cut, filter_append, filter_cons_of_neg (by simp; omega),
      filter_eq_nil_iff.mpr fun other held late => before other held (of_decide_eq_true late).1,
      nil_append]
    refine filter_congr fun other held => decide_eq_decide.mpr ?_
    have starts := ordered.2.1.1 other held
    omega
  rw [wanted_eq_filter, cut, rest, append_cons, filter_append]

/-- Pages that the venue fills up to the limit go through the whole range. -/
theorem covers_of_limit_le (limits : 1 ≤ limit ∧ limit ≤ 1500) (fits : limit ≤ venue.cap)
    (positive : 0 ≤ startTime) : CoversRange venue startTime endTime limit := by
  induction measure : (endTime - startTime).toNat using Nat.strongRecOn generalizing startTime with
  | ind measure ih =>
    subst measure
    rw [CoversRange, paginateKlines]
    by_cases before : startTime < endTime
    · have size : min limit.toNat venue.cap = limit.toNat := min_eq_left (by omega)
      have cut := take_append_drop limit.toNat (venue.within startTime endTime)
      obtain ⟨page, fetched⟩ := @exists_fetched venue _ _ _ limits positive before
      obtain ⟨-, rows, nextStart⟩ := fetchKlines_ok.mp fetched
      rw [KlineVenue.respond, size] at rows
      rw [← rows] at cut
      rw [dif_pos before, fetched]
      by_cases full : (page.klines.length : ℤ) = limit
      · obtain ⟨last, ends⟩ : ∃ last, page.klines.getLast? = some last := by
          rw [← Option.isSome_iff_exists, getLast?_isSome]
          rintro empty
          rw [empty] at full
          exact absurd full (by simp; omega)
        obtain ⟨earlier, parts⟩ := getLast?_eq_some_iff.mp ends
        rw [parts, append_assoc, singleton_append] at cut
        have listed : last ∈ venue.within startTime endTime := by rw [← cut]; simp
        obtain ⟨held, opens⟩ := mem_filter.mp listed
        have lasts := venue.lasting last held
        have opens := (of_decide_eq_true opens).1
        rw [if_pos full, ends, Option.map_some] at nextStart
        have sooner : (endTime - (last.closeTime + 1)).toNat < (endTime - startTime).toNat := by omega
        have later : 0 ≤ last.closeTime + 1 := by omega
        obtain ⟨pages, ok, covered⟩ := ih _ sooner later rfl
        refine ⟨page :: pages, ?_, ?_⟩
        · simp only [ok_bind, nextStart, dif_neg (show ¬last.closeTime + 1 ≤ startTime by omega), ok]
          rfl
        · rw [flatMap_cons, filter_append, covered, wanted_after (by omega) cut.symm, parts]
      · rw [if_neg full] at nextStart
        -- a page below the limit ends the loop, and nothing of the range is left
        have short : (venue.within startTime endTime).length ≤ limit.toNat := by
          rw [rows, length_take] at full
          omega
        rw [take_of_length_le short] at rows
        refine ⟨[page], by simp only [ok_bind, nextStart]; rfl, ?_⟩
        rw [flatMap_cons, flatMap_nil, append_nil, rows, wanted_eq_filter]
    · rw [dif_neg before]
      refine ⟨[], rfl, (filter_eq_nil_iff.mpr fun kline _ => ?_).symm⟩
      simp
      omega

/-- A venue that answers less than the limit is read for one page. -/
theorem covers_iff_of_cap_lt (limits : 1 ≤ limit ∧ limit ≤ 1500) (short : (venue.cap : ℤ) < limit)
    (positive : 0 ≤ startTime) (before : startTime < endTime) :
    CoversRange venue startTime endTime limit ↔
      (venue.wanted startTime endTime).length ≤ venue.cap := by
  have size : min limit.toNat venue.cap = venue.cap := min_eq_right (by omega)
  obtain ⟨page, fetched⟩ := @exists_fetched venue _ _ _ limits positive before
  obtain ⟨-, rows, nextStart⟩ := fetchKlines_ok.mp fetched
  rw [KlineVenue.respond, size] at rows
  have few : (page.klines.length : ℤ) ≠ limit := by
    rw [rows, length_take]
    omega
  rw [if_neg few] at nextStart
  have only : paginateKlines venue endTime limit startTime = .ok [page] := by
    rw [paginateKlines, dif_pos before, fetched]
    simp only [ok_bind, nextStart]
    rfl
  rw [CoversRange, only, wanted_eq_filter, ← filter_take_eq_iff within_ordered, ← rows]
  simp

/-- The pages cover a range exactly when it is empty, or the request is one the client makes and
the venue's own limit does not cut its pages short of what is wanted. -/
theorem coversRange_iff (venue : KlineVenue) (startTime endTime limit : ℤ) :
    CoversRange venue startTime endTime limit ↔ endTime ≤ startTime ∨
      (0 ≤ startTime ∧ 1 ≤ limit ∧ limit ≤ 1500) ∧
        (limit ≤ venue.cap ∨ (venue.wanted startTime endTime).length ≤ venue.cap) := by
  by_cases before : startTime < endTime
  · rw [or_iff_right (not_le.mpr before)]
    by_cases valid : 0 ≤ startTime ∧ 1 ≤ limit ∧ limit ≤ 1500
    · rw [and_iff_right valid]
      by_cases fits : limit ≤ venue.cap
      · exact iff_of_true (covers_of_limit_le valid.2 fits valid.1) (.inl fits)
      · rw [or_iff_right fits, covers_iff_of_cap_lt valid.2 (not_le.mp fits) valid.1 before]
    · refine iff_of_false ?_ fun both => valid both.1
      rintro ⟨pages, ok, -⟩
      rw [paginateKlines, dif_pos before, bind_ok] at ok
      obtain ⟨page, fetched, -⟩ := ok
      obtain ⟨⟨positive, -, limits⟩, -⟩ := fetchKlines_ok.mp fetched
      exact valid ⟨positive, limits⟩
  · refine iff_of_true ⟨[], ?_, ?_⟩ (.inl (not_lt.mp before))
    · rw [paginateKlines, dif_neg before]
      rfl
    · refine (filter_eq_nil_iff.mpr fun kline _ => ?_).symm
      simp
      omega

namespace Small

def minute (index : ℤ) : Kline :=
  ⟨index * 60000, ⟨1, 0⟩, ⟨1, 0⟩, ⟨1, 0⟩, ⟨1, 0⟩, ⟨1, 0⟩, index * 60000 + 59999, ⟨1, 0⟩, 1⟩

theorem one_capped : 1 ≤ 1 := le_rfl

theorem minutes_last : ∀ kline ∈ [minute 0, minute 1], kline.openTime ≤ kline.closeTime := by decide

theorem minutes_apart : [minute 0, minute 1].Pairwise fun earlier later =>
    earlier.closeTime < later.openTime := by decide

def cappedVenue : KlineVenue := ⟨[minute 0, minute 1], 1, one_capped, minutes_last, minutes_apart⟩

end Small

/-- The second minute is never asked for. -/
theorem capped_page_ends : ¬CoversRange Small.cappedVenue 0 120000 2 := by
  rw [covers_iff_of_cap_lt (by decide) (by decide) (by decide) (by decide)]
  decide +kernel

end Liki.Data
