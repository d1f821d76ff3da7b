import Liki.Library.Pages
import Liki.Store

/-! Memory claims and their retrieval. Claims that have seen what they should not, and opinions that an
independent reviewer should not see, are sifted out of a page of the newest claims and not before it is
cut, so what they take of the page is lost. -/
namespace Liki.Research
open Checks DecimalArithmetic List

inductive ClaimType where
  | finding | counterevidence | reviewVerdict | hypothesis | assumption
  deriving DecidableEq

inductive ConfidenceState where
  | unverified | candidate | replicated | invalidated
  deriving DecidableEq

@[ext] structure MemoryClaim where
  memoryId : String
  claim : String
  claimType : ClaimType
  sourceEvidenceIds : List String
  confidenceState : ConfidenceState
  marketScope : List String
  mechanismScope : List String
  regimeScope : List String
  /-- None for an instant without a zone. -/
  lastRevalidatedAt : Option Time
  policyVersion : String
  contaminationTags : List String
  knownCounterevidenceIds : List String
  supersedes : List String
  stated : claim ≠ ""
  sourced : sourceEvidenceIds ≠ []

instance : DecidableEq MemoryClaim := fun _ _ => decidable_of_iff _ MemoryClaim.ext_iff.symm

/-- A row of `memory_claims`. -/
structure MemoryRow where
  memoryId : String
  claim : String
  claimType : ClaimType
  sourceEvidenceIds : List String
  confidenceState : ConfidenceState
  marketScope : List String
  mechanismScope : List String
  regimeScope : List String
  createdAt : Time
  lastRevalidatedAt : Time
  policyVersion : String
  contaminationTags : List String
  knownCounterevidenceIds : List String
  supersedes : List String
  createdBy : String
  deriving DecidableEq

/-- The arguments of `retrieve`. -/
structure Retrieval where
  market : String
  mechanism : String
  independentReview : Bool
  maxAgeSeconds : ℤ

namespace Retrieval

variable (retrieval : Retrieval)

/-- The `WHERE` clause: in scope, and neither invalidated nor superseded. -/
def Matches (claims : List MemoryRow) (row : MemoryRow) : Prop :=
  retrieval.market ∈ row.marketScope ∧ retrieval.mechanism ∈ row.mechanismScope ∧
    row.confidenceState ≠ .invalidated ∧ ∀ newer ∈ claims, row.memoryId ∉ newer.supersedes

instance (claims : List MemoryRow) (row : MemoryRow) : Decidable (retrieval.Matches claims row) :=
  inferInstanceAs (Decidable (_ ∧ _))

/-- The claim has seen a holdout. -/
def Contaminated (row : MemoryRow) : Prop :=
  ∃ tag ∈ ["saw_sealed_category", "saw_guard_holdout"], tag ∈ row.contaminationTags

instance (row : MemoryRow) : Decidable (Contaminated row) := inferInstanceAs (Decidable (∃ _ ∈ _, _))

def ReviewOnly (row : MemoryRow) : Prop :=
  row.claimType = .reviewVerdict ∨ "same_model_review" ∈ row.contaminationTags

instance (row : MemoryRow) : Decidable (ReviewOnly row) := inferInstanceAs (Decidable (_ ∨ _))

/-- What the loop does not pass over. -/
def Admits (row : MemoryRow) : Prop :=
  ¬Contaminated row ∧ ¬(retrieval.independentReview = true ∧ ReviewOnly row)

instance (row : MemoryRow) : Decidable (retrieval.Admits row) := inferInstanceAs (Decidable (_ ∧ _))

end Retrieval

/-- `ORDER BY last_revalidated_at DESC`. -/
def newerFirst (first second : MemoryRow) : Prop := second.lastRevalidatedAt ≤ first.lastRevalidatedAt

instance : DecidableRel newerFirst := fun first second =>
  inferInstanceAs (Decidable (second.lastRevalidatedAt ≤ first.lastRevalidatedAt))

/-- `LIMIT 100`. -/
def pageSize : ℕ := 100

structure RetrievedClaim where
  row : MemoryRow
  retrievalWeight : ℚ
  stale : Bool

/-- The seconds since a claim was revalidated. -/
def MemoryRow.age (row : MemoryRow) (now : Time) : ℚ := ((now - row.lastRevalidatedAt : ℤ) : ℚ) / 1000000

def MemoryRow.retrieved (row : MemoryRow) (ctx : DecimalContext) (now : Time) (maxAgeSeconds : ℤ) :
    RetrievedClaim :=
  ⟨row, max 0 (ctx.sub 1 (ctx.div (row.age now) maxAgeSeconds)), maxAgeSeconds < row.age now⟩

/-- `retrieve`. -/
def retrieve (ctx : DecimalContext) (claims : List MemoryRow) (actor : Identity) (now : Time)
    (retrieval : Retrieval) : Except ServiceError (List RetrievedClaim) := do
  refuseIf (retrieval.maxAgeSeconds ≤ 0) (.domain "MEMORY_AGE_POLICY_REQUIRED")
  actor.requires .read
  let rows := Pages.page newerFirst pageSize (claims.filter fun row => retrieval.Matches claims row)
  return (rows.filter fun row => retrieval.Admits row).map fun row =>
    row.retrieved ctx now retrieval.maxAgeSeconds

namespace Retrieval

variable (retrieval : Retrieval) (claims : List MemoryRow)

def matching : List MemoryRow := claims.filter fun row => retrieval.Matches claims row

def shown : List MemoryRow := Pages.page newerFirst pageSize (retrieval.matching claims)

def hidden : List MemoryRow := Pages.beyond newerFirst pageSize (retrieval.matching claims)

def Eligible (row : MemoryRow) : Prop := retrieval.Matches claims row ∧ retrieval.Admits row

instance (row : MemoryRow) : Decidable (retrieval.Eligible claims row) := inferInstanceAs (Decidable (_ ∧ _))

def wanted : List MemoryRow :=
  Pages.page newerFirst pageSize (claims.filter fun row => retrieval.Eligible claims row)

def Unobstructed : Prop :=
  (∀ row ∈ retrieval.shown claims, retrieval.Admits row) ∨
    ∀ row ∈ retrieval.hidden claims, ¬retrieval.Admits row

instance : Decidable (retrieval.Unobstructed claims) := inferInstanceAs (Decidable (_ ∨ _))

def served (answers : List RetrievedClaim) : List MemoryRow := answers.map RetrievedClaim.row

end Retrieval

instance newerFirst_total : Std.Total newerFirst := ⟨fun _ _ => le_total _ _⟩

instance newerFirst_trans : IsTrans MemoryRow newerFirst :=
  ⟨fun _ _ _ first second => le_trans second first⟩

section Pages

variable {retrieval : Retrieval} {claims added : List MemoryRow} {actor : Identity} {now : Time}
  {row : MemoryRow}

theorem wanted_eq : retrieval.wanted claims =
    Pages.page newerFirst pageSize ((retrieval.matching claims).filter fun row => retrieval.Admits row) := by
  rw [Retrieval.wanted, Retrieval.matching, filter_filter]
  congr 2
  funext row
  rw [← Bool.decide_and]
  exact decide_eq_decide.mpr and_comm

theorem retrieve_ok (ctx : DecimalContext) (claims : List MemoryRow) (now : Time)
    (positive : 0 < retrieval.maxAgeSeconds) (reader : actor.requires .read = .ok ()) :
    ∃ answers, retrieve ctx claims actor now retrieval = .ok answers ∧
      Retrieval.served answers =
        (retrieval.shown claims).filter fun row => retrieval.Admits row := by
  refine ⟨((retrieval.shown claims).filter fun row => retrieval.Admits row).map fun row =>
    row.retrieved ctx now retrieval.maxAgeSeconds, ?_, ?_⟩
  · rw [retrieve, refuseIf_bind_of_not (not_le.mpr positive), reader, ok_bind]
    rfl
  · rw [Retrieval.served, map_map]
    exact map_id _

theorem served_iff : ((retrieval.shown claims).filter fun row => retrieval.Admits row) =
    retrieval.wanted claims ↔ retrieval.Unobstructed claims := by
  rw [wanted_eq, Retrieval.shown, Pages.filter_page_iff]
  simp only [decide_eq_true_eq]
  rfl

theorem eligible_of_added (eligible : retrieval.Eligible (claims ++ added) row) :
    retrieval.Eligible claims row := by
  obtain ⟨⟨market, mechanism, valid, current⟩, admitted⟩ := eligible
  exact ⟨⟨market, mechanism, valid, fun newer member => current newer (mem_append_left _ member)⟩,
    admitted⟩

/-- What should be served is still so once claims are added that may not be served, unless they
supersede it. -/
theorem wanted_of_added (inadmissible : ∀ row ∈ added, ¬retrieval.Admits row)
    (member : row ∈ retrieval.wanted claims) (eligible : retrieval.Eligible (claims ++ added) row) :
    row ∈ retrieval.wanted (claims ++ added) := by
  have sifted : (claims ++ added).filter (fun row => retrieval.Eligible (claims ++ added) row) =
      (claims.filter fun row => retrieval.Eligible claims row).filter
        fun row => retrieval.Eligible (claims ++ added) row := by
    have none : added.filter (fun row => retrieval.Eligible (claims ++ added) row) = [] := by
      refine filter_eq_nil_iff.mpr fun row listed served => ?_
      exact inadmissible row listed (of_decide_eq_true served).2
    rw [filter_append, none, append_nil, filter_filter]
    refine filter_congr fun row _ => ?_
    rw [← Bool.decide_and]
    refine decide_eq_decide.mpr ⟨fun served => ⟨served, eligible_of_added served⟩, And.left⟩
  rw [Retrieval.wanted, sifted]
  exact Pages.mem_page_filter member (decide_eq_true eligible)

/-- What a retrieval owes: from the table as it is, and with claims added to it, the newest claims that
may be served and no other; and what was served before stays if nothing supersedes it. -/
structure Owed (retrieval : Retrieval) (claims added : List MemoryRow) (before after : List MemoryRow) :
    Prop where
  newest : before = retrieval.wanted claims
  newest_added : after = retrieval.wanted (claims ++ added)
  kept : ∀ row ∈ before, retrieval.Eligible (claims ++ added) row → row ∈ after

/-- Whatever the table holds, and whatever is added to it that may not be served, a retrieval serves what
it owes exactly when on each page nothing is passed over or nothing beyond it could be served. -/
theorem retrieve_owed_iff (ctx : DecimalContext) (claims added : List MemoryRow) (actor : Identity)
    (now : Time) (retrieval : Retrieval) (positive : 0 < retrieval.maxAgeSeconds)
    (reader : actor.requires .read = .ok ()) (inadmissible : ∀ row ∈ added, ¬retrieval.Admits row) :
    ∃ before after, retrieve ctx claims actor now retrieval = .ok before ∧
      retrieve ctx (claims ++ added) actor now retrieval = .ok after ∧
      (Owed retrieval claims added (Retrieval.served before) (Retrieval.served after) ↔
        retrieval.Unobstructed claims ∧ retrieval.Unobstructed (claims ++ added)) := by
  obtain ⟨before, answered, rows⟩ := retrieve_ok ctx claims now positive reader
  obtain ⟨after, again, added_rows⟩ := retrieve_ok ctx (claims ++ added) now positive reader
  refine ⟨before, after, answered, again, ?_⟩
  rw [rows, added_rows]
  constructor
  · rintro ⟨newest, newest_added, -⟩
    exact ⟨served_iff.mp newest, served_iff.mp newest_added⟩
  · rintro ⟨open_before, open_after⟩
    have newest := served_iff.mpr open_before
    have newest_added := served_iff.mpr open_after
    refine ⟨newest, newest_added, fun row member eligible => ?_⟩
    rw [newest] at member
    rw [newest_added]
    exact wanted_of_added inadmissible member eligible

end Pages

namespace Small

def reviewer : Identity := ⟨"reviewer", .auditor⟩

def review : Retrieval := ⟨"BTC", "carry", false, 3600⟩

def finding (memoryId : String) (lastRevalidatedAt : Time) (tags : List String) : MemoryRow where
  memoryId := memoryId
  claim := "carry pays"
  claimType := .finding
  sourceEvidenceIds := ["E"]
  confidenceState := .candidate
  marketScope := ["BTC"]
  mechanismScope := ["carry"]
  regimeScope := []
  createdAt := lastRevalidatedAt
  lastRevalidatedAt := lastRevalidatedAt
  policyVersion := "v1"
  contaminationTags := tags
  knownCounterevidenceIds := []
  supersedes := []
  createdBy := "research"

def untouched : List MemoryRow := [finding "UNTOUCHED" 0 []]

/-- Findings that have seen a sealed category, all of them newer. -/
def touched (count : ℕ) : List MemoryRow :=
  (range count).map fun n => finding ("TOUCHED-" ++ toString n) (count - n) ["saw_sealed_category"]

end Small

open Small in
/-- The law at one contaminated claim beside one that is not: both pages hold everything. -/
theorem retrieve_owed_iff_touched :
    ∃ before after, retrieve prec28 untouched reviewer 10 review = .ok before ∧
      retrieve prec28 (untouched ++ touched 1) reviewer 10 review = .ok after ∧
      Owed review untouched (touched 1) (Retrieval.served before) (Retrieval.served after) := by
  obtain ⟨before, after, answered, again, owed⟩ := retrieve_owed_iff prec28 untouched (touched 1) reviewer
    10 review (by decide) rfl (by decide +kernel)
  exact ⟨before, after, answered, again, owed.mpr ⟨by decide +kernel, by decide +kernel⟩⟩

open Small in
/-- A hundred contaminated claims hide the one that could be served: it is returned before they are
added, and nothing is afterwards. -/
theorem touched_claims_hide_untouched :
    (∃ before, retrieve prec28 untouched reviewer 10 review = .ok before ∧
      Retrieval.served before = untouched) ∧
    (∃ after, retrieve prec28 (untouched ++ touched 100) reviewer 10 review = .ok after ∧
      Retrieval.served after = []) ∧
    (∀ row ∈ touched 100, Retrieval.Contaminated row) ∧
    review.wanted (untouched ++ touched 100) = untouched := by
  have positive : 0 < review.maxAgeSeconds := by decide
  have reader : reviewer.requires .read = .ok () := rfl
  obtain ⟨before, answered, rows⟩ := retrieve_ok prec28 untouched 10 positive reader
  obtain ⟨after, again, none⟩ := retrieve_ok prec28 (untouched ++ touched 100) 10 positive reader
  refine ⟨⟨before, answered, ?_⟩, ⟨after, again, ?_⟩, by decide +kernel, by decide +kernel⟩
  · rw [rows]
    decide +kernel
  · rw [none]
    decide +kernel

end Liki.Research
