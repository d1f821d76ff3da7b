import Liki.Json.Canonical
import Liki.Library.CallSystem
import Liki.Store

/-! Artifacts, with the hash that is taken of a content before it is stored and checked against
the content that is read back. A content is found again by its producer, its hash and its
schema, whatever classification it is put under. -/
namespace Liki.Artifacts
open Checks CallSystem Json List

/-- The content of an artifact, as a `dict`. -/
structure Content where
  fields : Fields
  keyed : (Value.dict fields).Keyed

def Content.value (content : Content) : Value := .dict content.fields

/-- A row of `artifacts`, with its content as it is read back. Its id is its position. -/
structure ArtifactRow where
  contentHash : String
  schemaName : String
  classification : StoreClassification
  producerId : String
  content : Value
  deriving DecidableEq

/-- A call of `put_artifact`. -/
structure PutCall where
  actor : Identity
  content : Content
  schemaName : String
  classification : StoreClassification

variable (hashing : Hashing)

def PutCall.row (call : PutCall) : ArtifactRow where
  contentHash := contentHash hashing call.content.value
  schemaName := call.schemaName
  classification := call.classification
  producerId := call.actor.principalId
  content := call.content.value.jsonb

/-- `producer_id=%s AND content_hash=%s AND schema_name=%s`. -/
def PutCall.matches (call : PutCall) (row : ArtifactRow) : Bool :=
  row.producerId = call.actor.principalId ∧ row.contentHash = contentHash hashing call.content.value ∧
    row.schemaName = call.schemaName

/-- A scalar that can be written to a `jsonb` column. -/
def storableScalar : Value → Prop
  | .text value => Char.ofNat 0 ∉ value.toList
  | .datetime _ => False
  | _ => True

instance : DecidablePred storableScalar
  | .text value => inferInstanceAs (Decidable (Char.ofNat 0 ∉ value.toList))
  | .datetime _ => .isFalse id
  | .null | .bool _ | .int _ | .float _ | .list _ | .dict _ => .isTrue trivial

/-- `put_artifact`: the id of the artifact, which may have been stored before. -/
def putArtifact (table : List ArtifactRow) (call : PutCall) :
    Except ServiceError (ℕ × List ArtifactRow) := do
  call.actor.requires .artifact
  refuseIf (call.classification = .secret ∨
    (call.classification = .sealed ∧ call.actor.role ≠ .sealedEvaluator))
    (.domain "FORBIDDEN_CLASSIFICATION")
  refuseIf (¬call.content.value.Every storableScalar
    fun keys => ∀ key ∈ keys, Char.ofNat 0 ∉ key.toList) .typeError
  match table.findIdx? (call.matches hashing) with
  | some existing => return (existing, table)
  | none => return (table.length, table ++ [call.row hashing])

/-- `artifact`. -/
def artifact (table : List ArtifactRow) (actor : Identity) (artifactId : ℕ) :
    Except ServiceError ArtifactRow := do
  let row ← expect (table[artifactId]?) (.domain "NOT_FOUND")
  refuseIf (row.classification = .sealed ∧ actor.role ≠ .sealedEvaluator) (.domain "NOT_FOUND")
  refuseIf (contentHash hashing row.content ≠ row.contentHash) (.domain "ARTIFACT_CORRUPTED")
  return row

/-- The table after some calls on an empty one. -/
def history (calls : List PutCall) : List ArtifactRow := run (putArtifact hashing) [] calls

/-- Contents of one hash are equal but for the order of fields. -/
def NoCollision (calls : List PutCall) : Prop :=
  ∀ first ∈ calls, ∀ second ∈ calls,
    contentHash hashing first.content.value = contentHash hashing second.content.value →
      first.content.value.sorted = second.content.value.sorted

instance (calls : List PutCall) : Decidable (NoCollision hashing calls) :=
  inferInstanceAs (Decidable (∀ _ ∈ _, _))

variable {hashing} {table after : List ArtifactRow} {call : PutCall} {calls : List PutCall}
  {artifactId : ℕ} {row : ArtifactRow} {reader : Identity} {later : List PutCall}

theorem putArtifact_ok (ok : putArtifact hashing table call = .ok (artifactId, after)) :
    (after = table ∧ table.findIdx? (call.matches hashing) = some artifactId) ∨
      (after = table ++ [call.row hashing] ∧ artifactId = table.length ∧
        table.findIdx? (call.matches hashing) = none) := by
  simp only [putArtifact, bind_ok, guard_ok] at ok
  obtain ⟨-, -, -, -, ok⟩ := ok
  split at ok
  · rename_i existing found
    simp only [pair_ok] at ok
    obtain ⟨rfl, rfl⟩ := ok
    exact .inl ⟨rfl, found⟩
  · rename_i absent
    simp only [pair_ok] at ok
    obtain ⟨rfl, rfl⟩ := ok
    exact .inr ⟨rfl, rfl, absent⟩

theorem matches_hash (found : call.matches hashing row = true) :
    row.contentHash = contentHash hashing call.content.value := by
  simp only [PutCall.matches, Bool.decide_and, Bool.and_eq_true, decide_eq_true_eq] at found
  exact found.2.1

theorem named_row (ok : putArtifact hashing table call = .ok (artifactId, after)) :
    after[artifactId]? = some ((table.find? (call.matches hashing)).getD (call.row hashing)) := by
  rcases putArtifact_ok ok with ⟨rfl, found⟩ | ⟨rfl, rfl, absent⟩
  · obtain ⟨bound, holds, first⟩ := findIdx?_eq_some_iff_getElem.mp found
    have hit : after.find? (call.matches hashing) = some after[artifactId] :=
      find?_eq_some_iff_getElem.mpr ⟨holds, artifactId, bound, rfl, by simpa using first⟩
    rw [hit, Option.getD_some]
    exact getElem?_eq_getElem bound
  · have missing : table.find? (call.matches hashing) = none := by
      rw [find?_eq_none]
      simpa using absent
    rw [missing, Option.getD_none]
    exact getElem?_concat_length

variable (hashing) in
theorem grows (table : List ArtifactRow) (calls : List PutCall) :
    table <+: run (putArtifact hashing) table calls := by
  refine run_related (fun table => prefix_refl table) List.IsPrefix.trans ?_ table calls
  intro table call
  refine next_of_answered (fun after => table <+: after) (prefix_refl table) fun artifactId after ok => ?_
  rcases putArtifact_ok ok with ⟨rfl, -⟩ | ⟨rfl, -⟩
  · exact prefix_refl _
  · exact prefix_append _ _

variable (hashing) in
theorem kept_row (calls : List PutCall) (held : table[artifactId]? = some row) :
    (run (putArtifact hashing) table calls)[artifactId]? = some row := by
  obtain ⟨_, whole⟩ := grows hashing table calls
  obtain ⟨bound, -⟩ := List.getElem?_eq_some_iff.mp held
  rw [← whole, List.getElem?_append_left bound]
  exact held

theorem history_append (calls : List PutCall) (call : PutCall) :
    history hashing (calls ++ [call]) = next (putArtifact hashing) (history hashing calls) call := by
  rw [history, run_append]
  rfl

theorem stored_row (calls : List PutCall) :
    ∀ row ∈ history hashing calls, ∃ call ∈ calls, row = call.row hashing := by
  induction calls using reverseRecOn with
  | nil => exact nofun
  | append_singleton calls call ih =>
    have earlier : ∀ row ∈ history hashing calls, ∃ stored ∈ calls ++ [call], row = stored.row hashing := by
      intro row member
      obtain ⟨stored, held, same⟩ := ih row member
      exact ⟨stored, mem_append_left _ held, same⟩
    rw [history_append]
    refine next_of_answered (fun after : List ArtifactRow => ∀ row ∈ after, ∃ stored ∈ calls ++ [call],
      row = stored.row hashing) earlier fun artifactId after ok => ?_
    rcases putArtifact_ok ok with ⟨rfl, -⟩ | ⟨rfl, -⟩
    · exact earlier
    · intro row member
      rcases KeyedRows.mem_added member with older | newest
      · exact earlier row older
      · exact ⟨call, mem_append_right _ mem_cons_self, newest⟩

theorem answered_row
    (answered : reply (putArtifact hashing) (history hashing calls) call = .ok artifactId) :
    ∃ stored ∈ calls ++ [call], (history hashing (calls ++ call :: later))[artifactId]? =
        some (stored.row hashing) ∧
      contentHash hashing stored.content.value = contentHash hashing call.content.value ∧
      stored.row hashing =
        ((history hashing calls).find? (call.matches hashing)).getD (call.row hashing) := by
  have ok := ok_of_reply answered
  have named := named_row ok
  have kept := kept_row hashing later named
  have whole : history hashing (calls ++ call :: later) =
      run (putArtifact hashing) (next (putArtifact hashing) (history hashing calls) call) later := by
    rw [history, run_append]
    rfl
  rw [← whole] at kept
  cases found : (history hashing calls).find? (call.matches hashing) with
  | none =>
    rw [found, Option.getD_none] at kept
    exact ⟨call, mem_append_right _ mem_cons_self, kept, rfl, rfl⟩
  | some row =>
    rw [found, Option.getD_some] at kept
    obtain ⟨stored, member, rfl⟩ := stored_row calls row (mem_of_find?_eq_some found)
    exact ⟨stored, mem_append_left _ member, kept, matches_hash (find?_some found), rfl⟩

theorem artifact_eq (held : table[artifactId]? = some row) (reader : Identity) :
    artifact hashing table reader artifactId =
      if row.classification = .sealed ∧ reader.role ≠ .sealedEvaluator then .error (.domain "NOT_FOUND")
      else if contentHash hashing row.content ≠ row.contentHash then .error (.domain "ARTIFACT_CORRUPTED")
      else .ok row := by
  rw [artifact, held]
  simp only [expect, ok_bind, refuseIf_bind]
  rfl

variable (hashing) in
/-- The id names an artifact that is not corrupted, and whoever may read it is given the
content, equal but for the order of fields. -/
def ReadsBack (table : List ArtifactRow) (artifactId : ℕ) (content : Content) : Prop :=
  ∃ row, table[artifactId]? = some row ∧
    (∀ reader, artifact hashing table reader artifactId ≠ .error (.domain "ARTIFACT_CORRUPTED")) ∧
    ∀ reader : Identity, (row.classification = .sealed → reader.role = .sealedEvaluator) →
      artifact hashing table reader artifactId = .ok row ∧ row.content.sorted = content.value.sorted

/-- In every run, an artifact is read back as the content that was put exactly when no float
in it is a negative zero or a whole number from `1e16` on. -/
theorem artifact_reads_back (calls later : List PutCall) (call : PutCall) (artifactId : ℕ)
    (apart : NoCollision hashing (calls ++ [call]))
    (answered : reply (putArtifact hashing) (history hashing calls) call = .ok artifactId) :
    ReadsBack hashing (history hashing (calls ++ call :: later)) artifactId call.content ↔
      call.content.value.Plain := by
  obtain ⟨stored, member, held, hash, -⟩ := answered_row answered
  have same : stored.content.value.sorted = call.content.value.sorted :=
    apart stored member call (mem_append_right _ mem_cons_self) hash
  have restored : (stored.row hashing).content.sorted = call.content.value.jsonb.sorted :=
    Value.jsonb_congr stored.content.keyed call.content.keyed same
  have plain : call.content.value.jsonb.sorted = call.content.value.sorted ↔ call.content.value.Plain :=
    Value.jsonb_kept call.content.keyed
  rw [← plain]
  constructor
  · rintro ⟨_, named, -, reads⟩
    cases held.symm.trans named
    obtain ⟨-, kept⟩ := reads ⟨"", .sealedEvaluator⟩ fun _ => rfl
    exact restored.symm.trans kept
  · intro kept
    have intact : contentHash hashing (stored.row hashing).content = (stored.row hashing).contentHash :=
      contentHash_congr (restored.trans (kept.trans same.symm))
    refine ⟨stored.row hashing, held, fun reader corrupted => ?_, fun reader permitted => ?_⟩
    · rw [artifact_eq held, if_neg (not_not.mpr intact)] at corrupted
      split at corrupted
      · simp at corrupted
      · cases corrupted
    · refine ⟨?_, restored.trans kept⟩
      rw [artifact_eq held, if_neg (not_not.mpr intact), if_neg fun hidden => hidden.2 (permitted hidden.1)]

namespace Small

def spelled : Hashing := ⟨id, fun instant => toString instant⟩

def evaluator : Identity := ⟨"sealed", .sealedEvaluator⟩

def researcher : Identity := ⟨"research", .research⟩

def measured (value : PyFloat) : PutCall where
  actor := researcher
  content := ⟨[("unit", .text "USD"), ("notional", .float value)], by simp, trivial, trivial, trivial⟩
  schemaName := "measurement/v1"
  classification := .internal

def large : PutCall := measured ⟨false, 1, 16, by decide⟩

end Small

open Artifacts.Small

theorem artifact_reads_back_fraction :
    ReadsBack spelled (history spelled ([] ++ [measured ⟨true, 15, -8, by decide⟩])) 0
      (measured ⟨true, 15, -8, by decide⟩).content :=
  (artifact_reads_back [] [] (measured ⟨true, 15, -8, by decide⟩) 0 (by decide +kernel)
    (by decide +kernel)).mpr (by decide +kernel)

/-- An artifact with the float `1e16` is stored and refused as corrupted. -/
theorem large_float_corrupts :
    reply (putArtifact spelled) [] large = .ok 0 ∧
      artifact spelled (history spelled [large]) researcher 0 =
        .error (.domain "ARTIFACT_CORRUPTED") := by
  decide +kernel

def restriction : StoreClassification → ℕ
  | .public => 0
  | .internal => 1
  | .confidential => 2
  | .secret => 3
  | .sealed => 4

variable (hashing) in
def Restricts (table : List ArtifactRow) (call : PutCall) (artifactId : ℕ) : Prop :=
  ∃ row, table[artifactId]? = some row ∧ row.content.sorted = call.content.value.jsonb.sorted ∧
    restriction call.classification ≤ restriction row.classification ∧
    (call.classification = .sealed → ∀ reader : Identity, reader.role ≠ .sealedEvaluator →
      artifact hashing table reader artifactId = .error (.domain "NOT_FOUND"))

variable (hashing) in
def NotStoredLower (table : List ArtifactRow) (call : PutCall) : Prop :=
  ∀ row ∈ table.find? (call.matches hashing), restriction call.classification ≤ restriction row.classification

instance (table : List ArtifactRow) (call : PutCall) : Decidable (NotStoredLower hashing table call) :=
  inferInstanceAs (Decidable (∀ _ ∈ _, _))

theorem sealed_of_restriction (restricted : restriction .sealed ≤ restriction classification) :
    classification = .sealed := by
  cases classification with
  | sealed => rfl
  | _ => exact absurd restricted (by decide)

theorem restricts_iff (apart : NoCollision hashing (calls ++ [call]))
    (answered : reply (putArtifact hashing) (history hashing calls) call = .ok artifactId) :
    Restricts hashing (history hashing (calls ++ call :: later)) call artifactId ↔
      NotStoredLower hashing (history hashing calls) call := by
  obtain ⟨stored, member, held, hash, named⟩ := answered_row answered
  have same : stored.content.value.sorted = call.content.value.sorted :=
    apart stored member call (mem_append_right _ mem_cons_self) hash
  have restored : (stored.row hashing).content.sorted = call.content.value.jsonb.sorted :=
    Value.jsonb_congr stored.content.keyed call.content.keyed same
  have lower : NotStoredLower hashing (history hashing calls) call ↔
      restriction call.classification ≤ restriction (stored.row hashing).classification := by
    unfold NotStoredLower
    rw [named]
    cases found : (history hashing calls).find? (call.matches hashing) with
    | none => exact iff_of_true nofun le_rfl
    | some => simp
  rw [lower]
  constructor
  · rintro ⟨_, there, -, restricted, -⟩
    cases held.symm.trans there
    exact restricted
  · intro restricted
    refine ⟨stored.row hashing, held, restored, restricted, fun secret reader other => ?_⟩
    rw [secret] at restricted
    rw [artifact_eq held, if_pos ⟨sealed_of_restriction restricted, other⟩]

/-- Along every run, the ids of all answered calls restrict as asked exactly when no producer
puts a content again that it stored under the schema with a lower classification. -/
theorem classification_kept (calls : List PutCall) (apart : NoCollision hashing calls) :
    (∀ earlier call later, calls = earlier ++ call :: later → ∀ artifactId,
      reply (putArtifact hashing) (history hashing earlier) call = .ok artifactId →
        Restricts hashing (history hashing calls) call artifactId) ↔
      Along (putArtifact hashing) (WhenAnswered (putArtifact hashing) (NotStoredLower hashing)) [] calls := by
  rw [along_iff]
  refine forall_congr' fun earlier => forall_congr' fun call => forall_congr' fun later =>
    forall_congr' fun cut => ?_
  have involved : NoCollision hashing (earlier ++ [call]) := by
    intro first here second there
    rw [cut, ← singleton_append, ← append_assoc] at apart
    exact apart first (mem_append_left _ here) second (mem_append_left _ there)
  subst cut
  constructor
  · intro restricts artifactId after ok
    exact (restricts_iff involved (reply_of_ok ok)).mp (restricts artifactId (reply_of_ok ok))
  · intro kept artifactId answered
    exact (restricts_iff involved answered).mpr (kept artifactId _ (ok_of_reply answered))

namespace Small

def verdict (classification : StoreClassification) : PutCall where
  actor := evaluator
  content := ⟨[("sealed", .int 23)], by simp, trivial, trivial⟩
  schemaName := "sealed/test-v1"
  classification := classification

end Small

theorem sealed_first_restricts :
    Restricts spelled (history spelled [verdict .sealed, verdict .internal]) (verdict .internal) 0 :=
  (classification_kept [verdict .sealed, verdict .internal] (by decide +kernel)).mpr (by decide +kernel)
    [verdict .sealed] (verdict .internal) [] rfl 0 (by decide +kernel)

/-- A content that the sealed evaluator stored as INTERNAL and puts again as SEALED keeps its
id, and a researcher reads it. -/
theorem sealed_content_exposed :
    reply (putArtifact spelled) (history spelled [verdict .internal]) (verdict .sealed) = .ok 0 ∧
      (artifact spelled (history spelled [verdict .internal, verdict .sealed]) researcher 0).map
        (fun row => row.content) = .ok (verdict .sealed).content.value := by
  decide +kernel

end Liki.Artifacts
