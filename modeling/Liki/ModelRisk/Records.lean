import Liki.ModelRisk.Effects
import Liki.Governance.Calls

/-! Stored model records are valid. Every operation reads a record through its validator and
stores a copy with new fields, which nothing validates again; so a record stays valid as long
as the evidence that is linked or taken over at an approval is kept apart from the evidence
on the other side. The roles in the link table do not say so: they are per artifact, and a
registration links nothing. -/
namespace Liki.ModelRisk
open Checks Governance CallSystem ModelState

variable {deployment : Deployment} {state after : ModelState} {record : ModelData}
  {row : ModelRow} {edit : ModelEdit} {modelId : String} {call : ModelCall}

def ModelData.unused (record : ModelData) (hash : String) : Prop :=
  hash ∉ hashes record.developmentEvidence ∧ hash ∉ hashes record.recalibrationConsumedEvidence

instance (record : ModelData) (hash : String) : Decidable (record.unused hash) :=
  inferInstanceAs (Decidable (_ ∧ _))

/-- New evidence is kept apart from what the record holds on the other side. -/
def ModelEdit.KeepsApart (record : ModelData) : ModelEdit → Prop
  | .linked _ evidence .development => evidence.contentHash ∉ hashes record.validationEvidence
  | .linked _ evidence .validation => record.unused evidence.contentHash
  | .approved _ validation => ∀ hash ∈ hashes validation.validationEvidence, record.unused hash
  | .linked _ _ .monitoring | .linked _ _ .developmentUsed | .noted _ | .observed .. | .retired ..
  | .watched => True

instance (record : ModelData) : (edit : ModelEdit) → Decidable (edit.KeepsApart record)
  | .linked _ _ .development | .linked _ _ .validation | .approved .. => by
    unfold ModelEdit.KeepsApart
    infer_instance
  | .linked _ _ .monitoring | .linked _ _ .developmentUsed | .noted _ | .observed .. | .retired ..
  | .watched => .isTrue trivial

def KeepsEvidenceApart (state : ModelState) (call : ModelCall) : Prop :=
  ∀ asked ∈ call.edit? state, ∀ row ∈ state.findModel asked.1, asked.2.KeepsApart row.record

instance (state : ModelState) (call : ModelCall) : Decidable (KeepsEvidenceApart state call) := by
  unfold KeepsEvidenceApart
  infer_instance

def RecordsValid (state : ModelState) : Prop :=
  ∀ modelId row, state.findModel modelId = some row →
    row.record.Consistent ∧ ∃ record, state.readModel modelId = .ok (row, record)

theorem linked_development (evidence : ArtifactProvenance) (now : Time) (consistent : record.Consistent) :
    (updatedRecord now record evidence .development).Consistent ↔
      evidence.contentHash ∉ hashes record.validationEvidence := by
  constructor
  · intro valid
    exact valid.independent _ (mem_hashes_appendUnique.mpr (.inr rfl))
  · intro apart
    refine ⟨fun hash member => ?_, consistent.retired, consistent.active, consistent.carded,
      consistent.unconsumed⟩
    rcases mem_hashes_appendUnique.mp member with held | rfl
    · exact consistent.independent hash held
    · exact apart

theorem linked_validation (evidence : ArtifactProvenance) (now : Time) (consistent : record.Consistent) :
    (updatedRecord now record evidence .validation).Consistent ↔ record.unused evidence.contentHash := by
  constructor
  · intro valid
    have linked : evidence.contentHash ∈ hashes (appendUnique record.validationEvidence evidence) :=
      mem_hashes_appendUnique.mpr (.inr rfl)
    exact ⟨fun developed => valid.independent _ developed linked, valid.unconsumed _ linked⟩
  · rintro ⟨undeveloped, unconsumed⟩
    refine ⟨fun hash developed member => ?_, consistent.retired, consistent.active, consistent.carded,
      fun hash member => ?_⟩
    · rcases mem_hashes_appendUnique.mp member with held | rfl
      · exact consistent.independent hash developed held
      · exact undeveloped developed
    · rcases mem_hashes_appendUnique.mp member with held | rfl
      · exact consistent.unconsumed hash held
      · exact unconsumed

theorem linked_developmentUsed (evidence : ArtifactProvenance) (now : Time)
    (consistent : record.Consistent) :
    (updatedRecord now record evidence .developmentUsed).Consistent := by
  refine ⟨fun hash developed member => ?_, consistent.retired, consistent.active, consistent.carded,
    fun hash member consumed => ?_⟩
  · exact consistent.independent hash developed (mem_hashes_without.mp member).1
  · obtain ⟨held, differ⟩ := mem_hashes_without.mp member
    rcases mem_hashes_appendUnique.mp consumed with before | now
    · exact consistent.unconsumed hash held before
    · exact differ now

theorem approved_consistent (validation : ModelValidation) (now : Time) (consistent : record.Consistent)
    (active : record.status ≠ .retired) :
    (approvedRecord now record validation).Consistent ↔
      ∀ hash ∈ hashes validation.validationEvidence, record.unused hash := by
  constructor
  · intro valid hash member
    exact ⟨fun developed => valid.independent hash developed member, valid.unconsumed hash member⟩
  · intro unused
    refine ⟨fun hash developed member => (unused hash member).1 developed, nofun,
      fun _ => consistent.active active, consistent.carded, fun hash member => (unused hash member).2⟩

theorem observed_consistent (breached : Bool) (now : Time) (consistent : record.Consistent) :
    ({ record with status := observedStatus breached record.status, updatedAt := now } :
      ModelData).Consistent := by
  obtain ⟨independent, retired, active, carded, unconsumed⟩ := consistent
  refine ⟨independent, ?_, ?_, carded, unconsumed⟩
  · intro left
    refine retired ?_
    unfold observedStatus at left
    split at left
    · cases left
    · exact left
  · intro stays
    refine active ?_
    unfold observedStatus at stays
    split at stays
    · rename_i moved
      exact fun already => moved.2 (by rw [already]; decide)
    · exact stays

theorem retired_consistent (replacement : Option String) (now : Time) (consistent : record.Consistent) :
    (retiredRecord now record replacement).Consistent :=
  ⟨consistent.independent, fun _ => nofun, fun active => absurd rfl active, consistent.carded,
    consistent.unconsumed⟩

theorem ModelEdit.change_consistent (passes : edit.Passes row) (consistent : row.record.Consistent) :
    (edit.change row).record.Consistent ↔ edit.KeepsApart row.record := by
  cases edit with
  | linked now evidence role =>
    cases role with
    | development => exact linked_development evidence now consistent
    | validation => exact linked_validation evidence now consistent
    | monitoring =>
      obtain ⟨independent, retired, active, carded, unconsumed⟩ := consistent
      exact iff_of_true ⟨independent, retired, active, carded, unconsumed⟩ trivial
    | developmentUsed => exact iff_of_true (linked_developmentUsed evidence now consistent) trivial
  | noted => exact iff_of_true consistent trivial
  | approved now validation =>
    refine approved_consistent validation now consistent fun retired => ?_
    exact admissible_unbarred passes.2 (by rw [retired]; decide)
  | observed now breached => exact iff_of_true (observed_consistent breached now consistent) trivial
  | retired now replacement => exact iff_of_true (retired_consistent replacement now consistent) trivial
  | watched => exact iff_of_true consistent trivial

theorem ModelEdit.consistent_before (passes : edit.Passes row)
    (valid : (edit.change row).record.Consistent) : row.record.Consistent := by
  cases edit with
  | watched => exact valid
  | approved => exact passes.1
  | retired => exact passes.1
  | linked => exact passes
  | noted => exact passes
  | observed => exact passes

theorem RecordsValid.of_consistent
    (valid : ∀ modelId row, state.findModel modelId = some row → row.record.Consistent) :
    RecordsValid state := by
  intro modelId row found
  have consistent := valid modelId row found
  refine ⟨consistent, ⟨row.record, consistent⟩, ?_⟩
  have accepted : row.record.validate = .ok ⟨row.record, consistent⟩ := ModelData.validate_ok.mpr rfl
  simp only [readModel, bind_ok, expect_ok, pure_ok]
  exact ⟨row, found, ⟨row.record, consistent⟩, accepted, rfl⟩

theorem Effect.valid_iff (effect : Effect state call after) :
    (∀ modelId row, after.findModel modelId = some row → row.record.Consistent) ↔
      (∀ modelId row, state.findModel modelId = some row → row.record.Consistent) ∧
        KeepsEvidenceApart state call := by
  cases effect with
  | aside plain aside =>
    have apart : KeepsEvidenceApart state call := by simp [KeepsEvidenceApart, plain]
    simp only [aside.rows, apart, and_true]
  | @registered record _ _ _ _ plain _ absent rows =>
    have apart : KeepsEvidenceApart state call := by simp [KeepsEvidenceApart, plain]
    refine ⟨fun valid => ⟨fun modelId row found => valid modelId row ?_, apart⟩, fun valid modelId row found => ?_⟩
    · rw [rows, if_neg fun same => ?_]
      · exact found
      · rw [same, absent] at found
        cases found
    · rw [rows] at found
      split at found
      · cases found
        exact record.consistent
      · exact valid.1 modelId row found
  | @edited modelId edit row _ asked aside edited =>
    have found : state.findModel modelId = some row := (aside.rows modelId).symm.trans edited.found
    have condition : KeepsEvidenceApart state call ↔ edit.KeepsApart row.record := by
      simp [KeepsEvidenceApart, asked, found]
    rw [condition]
    constructor
    · intro valid
      have changed : (edit.change row).record.Consistent :=
        valid modelId _ ((edited.rows modelId).trans (if_pos rfl))
      have before := edit.consistent_before edited.passes changed
      refine ⟨fun other held lookup => ?_, (edit.change_consistent edited.passes before).mp changed⟩
      by_cases same : other = modelId
      · rw [same, found] at lookup
        cases lookup
        exact before
      · refine valid other held ?_
        rw [edited.rows, if_neg same, aside.rows]
        exact lookup
    · rintro ⟨valid, apart⟩ other held lookup
      rw [edited.rows] at lookup
      split at lookup
      · cases lookup
        exact (edit.change_consistent edited.passes (valid modelId row found)).mpr apart
      · rw [aside.rows] at lookup
        exact valid other held lookup

/-- In every run all stored records are valid, and can be read by the next operation, exactly
when every answered call kept the evidence of its model apart. -/
theorem records_stay_valid (calls : List ModelCall) :
    RecordsValid (history deployment calls) ↔
      Along (answer deployment) (WhenAnswered (answer deployment) KeepsEvidenceApart) .empty calls := by
  have step : ∀ calls, (∀ modelId row, (history deployment calls).findModel modelId = some row →
      row.record.Consistent) ↔
        Along (answer deployment) (WhenAnswered (answer deployment) KeepsEvidenceApart) .empty calls := by
    intro calls
    induction calls using List.reverseRecOn with
    | nil => exact iff_of_true (fun _ _ found => nomatch found) trivial
    | append_singleton calls call ih =>
      rw [along_append, ← ih, history_append]
      cases result : answer deployment (history deployment calls) call with
      | error =>
        rw [next_of_error result]
        refine ⟨fun valid => ⟨valid, fun _ _ ok => ?_, trivial⟩, And.left⟩
        exact absurd (result.symm.trans ok) nofun
      | ok pair =>
        rw [next_of_ok result, (effect_of_answer result).valid_iff]
        refine and_congr_right fun _ => ⟨fun apart => ⟨fun _ _ _ => apart, trivial⟩, fun along => ?_⟩
        exact along.1 pair.1 pair.2 result
  rw [← step calls]
  exact ⟨fun valid modelId row found => (valid modelId row found).1, RecordsValid.of_consistent⟩

namespace Small

open Governance.Small

def trainingRun : Fields := [("observed", .text "training run")]

def recordFields : Fields := [("model_id", .text "MDL-1"), ("version", .text "1.0")]

def model : ModelRecord where
  modelId := "MDL-1"
  developerPrincipals := ["gov"]
  materiality := .supporting
  validationStatus := "UNVALIDATED"
  version := "1.0"
  status := .development
  developmentEvidence := [provenance 0 governance trainingRun]
  validationEvidence := []
  monitoringEvidence := []
  recalibrationConsumedEvidence := []
  modelCard := none
  updatedAt := 1
  retiredAt := none
  replacementModelId := none
  consistent := ⟨by decide, by decide, by decide, by decide, by decide⟩

def asked (now : ℕ) (actor : Identity) (request : ModelRequest) : ModelCall :=
  ⟨⟨now, "", "env"⟩, actor, request⟩

def registered : List ModelCall :=
  [asked 1 governance (.putArtifact trainingRun "governance/training/v1" .internal "v1"),
    asked 2 governance (.putArtifact recordFields "governance/model-record/v1" .internal "v1"),
    asked 3 governance (.registerModel model (provenance 1 governance recordFields) "register" "v1")]

def linkedTwice : List ModelCall :=
  registered ++ [asked 4 governance (.risk (.linkEvidence "MDL-1" (provenance 0 governance trainingRun)
    .validation "link" "v1"))]

def monitored : ModelCall :=
  asked 5 governance (.risk (.linkEvidence "MDL-1" (provenance 0 governance trainingRun) .monitoring
    "monitor" "v1"))

end Small

open ModelRisk.Small

/-- Development evidence can be linked as validation evidence, and the model cannot be read
from then on. -/
theorem development_evidence_validates :
    (reply (answer Governance.Small.deployment) (history Governance.Small.deployment registered)
        monitored).isOk ∧
      (∃ row ∈ (history Governance.Small.deployment linkedTwice).findModel "MDL-1",
        ¬row.record.Independent) ∧
      reply (answer Governance.Small.deployment) (history Governance.Small.deployment linkedTwice)
        monitored = .error (.value
          "development evidence cannot be claimed as independent validation") := by
  decide +kernel

end Liki.ModelRisk
