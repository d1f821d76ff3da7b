import Liki.Governance.Tables

/-! The records of model risk: the inventory record of a model with the validator that
guards it, and what is gathered about a model. A record is copied with new fields without
being validated again, so a stored record is plain data and a valid one carries the proof.
Fields that no operation reads are left out. -/
namespace Liki.ModelRisk
open Checks Governance

inductive ModelStatus where
  | development | shadow | approved | watch | suspended | retired
  deriving DecidableEq

def ModelStatus.value : ModelStatus → String
  | .development => "DEVELOPMENT"
  | .shadow => "SHADOW"
  | .approved => "APPROVED"
  | .watch => "WATCH"
  | .suspended => "SUSPENDED"
  | .retired => "RETIRED"

inductive Materiality where
  | critical | material | supporting
  deriving DecidableEq

/-- `materiality in {CRITICAL, MATERIAL}`. -/
def Materiality.matters (materiality : Materiality) : Bool := materiality ∈ [.critical, .material]

/-- `{item.content_hash for item in evidence}`. -/
def hashes (evidence : List ArtifactProvenance) : List String :=
  evidence.map ArtifactProvenance.contentHash

structure ModelData where
  modelId : String
  developerPrincipals : List String
  materiality : Materiality
  validationStatus : String
  version : String
  status : ModelStatus
  developmentEvidence : List ArtifactProvenance
  validationEvidence : List ArtifactProvenance
  monitoringEvidence : List ArtifactProvenance
  recalibrationConsumedEvidence : List ArtifactProvenance
  modelCard : Option ArtifactProvenance
  updatedAt : Time
  retiredAt : Option Time
  replacementModelId : Option String
  deriving DecidableEq

namespace ModelData

def Independent (data : ModelData) : Prop :=
  ∀ hash ∈ hashes data.developmentEvidence, hash ∉ hashes data.validationEvidence

def Unconsumed (data : ModelData) : Prop :=
  ∀ hash ∈ hashes data.validationEvidence, hash ∉ hashes data.recalibrationConsumedEvidence

instance (data : ModelData) : Decidable data.Independent := inferInstanceAs (Decidable (∀ _ ∈ _, _))

instance (data : ModelData) : Decidable data.Unconsumed := inferInstanceAs (Decidable (∀ _ ∈ _, _))

/-- `_model_lifecycle_consistency`. -/
structure Consistent (data : ModelData) : Prop where
  independent : data.Independent
  retired : data.status = .retired → data.retiredAt ≠ none
  active : data.status ≠ .retired → data.retiredAt = none
  carded : data.materiality.matters → data.modelCard ≠ none
  unconsumed : data.Unconsumed

end ModelData

structure ModelRecord extends ModelData where
  consistent : toModelData.Consistent

/-- `ModelRecord.model_validate`. -/
def ModelData.validate (data : ModelData) : Except ServiceError ModelRecord :=
  if independent : data.Independent then
    if retired : data.status = .retired → data.retiredAt ≠ none then
      if active : data.status ≠ .retired → data.retiredAt = none then
        if carded : data.materiality.matters → data.modelCard ≠ none then
          if unconsumed : data.Unconsumed then
            .ok ⟨data, independent, retired, active, carded, unconsumed⟩
          else .error (.value "recalibration-consumed validation evidence is no longer independent")
        else .error (.value "material models require a machine-readable Model Card")
      else .error (.value "only retired model may have retired_at")
    else .error (.value "retired model requires retired_at")
  else .error (.value "development evidence cannot be claimed as independent validation")

theorem ModelData.validate_ok {record : ModelRecord} :
    data.validate = .ok record ↔ record.toModelData = data := by
  constructor
  · intro ok
    unfold validate at ok
    split_ifs at ok
    cases ok
    rfl
  · rintro rfl
    obtain ⟨_, independent, retired, active, carded, unconsumed⟩ := record
    unfold validate
    rw [dif_pos independent, dif_pos retired, dif_pos active, dif_pos carded, dif_pos unconsumed]

inductive EvidenceRole where
  | development | validation | monitoring | developmentUsed
  deriving DecidableEq

/-- `_append_unique`. -/
def appendUnique (values : List ArtifactProvenance) (value : ArtifactProvenance) :
    List ArtifactProvenance :=
  if ∃ item ∈ values, item.contentHash = value.contentHash then values else values ++ [value]

/-- `_without`. -/
def without (values : List ArtifactProvenance) (value : ArtifactProvenance) :
    List ArtifactProvenance :=
  values.filter fun item => item.contentHash ≠ value.contentHash

variable {hash : String} {values : List ArtifactProvenance}

theorem mem_hashes_appendUnique :
    hash ∈ hashes (appendUnique values value) ↔ hash ∈ hashes values ∨ hash = value.contentHash := by
  unfold appendUnique
  split
  · rename_i present
    obtain ⟨item, member, same⟩ := present
    constructor
    · exact .inl
    · rintro (held | rfl)
      · exact held
      · exact List.mem_map.mpr ⟨item, member, same⟩
  · simp [hashes]

theorem mem_hashes_without :
    hash ∈ hashes (without values value) ↔ hash ∈ hashes values ∧ hash ≠ value.contentHash := by
  simp only [hashes, without, List.mem_map, List.mem_filter, decide_eq_true_eq]
  constructor
  · rintro ⟨item, ⟨member, differ⟩, rfl⟩
    exact ⟨⟨item, member, rfl⟩, differ⟩
  · rintro ⟨⟨item, member, rfl⟩, differ⟩
    exact ⟨item, ⟨member, differ⟩, rfl⟩

/-- `_updated_record`. -/
def updatedRecord (now : Time) (record : ModelData) (evidence : ArtifactProvenance) :
    EvidenceRole → ModelData
  | .development => { record with
      updatedAt := now
      developmentEvidence := appendUnique record.developmentEvidence evidence }
  | .validation => { record with
      updatedAt := now
      validationEvidence := appendUnique record.validationEvidence evidence }
  | .monitoring => { record with
      updatedAt := now
      monitoringEvidence := appendUnique record.monitoringEvidence evidence }
  | .developmentUsed => { record with
      updatedAt := now
      validationEvidence := without record.validationEvidence evidence
      recalibrationConsumedEvidence := appendUnique record.recalibrationConsumedEvidence evidence }

@[simp] theorem updatedRecord_modelId (now : Time) (record : ModelData) (evidence : ArtifactProvenance)
    (role : EvidenceRole) : (updatedRecord now record evidence role).modelId = record.modelId := by
  cases role <;> rfl

@[simp] theorem updatedRecord_status (now : Time) (record : ModelData) (evidence : ArtifactProvenance)
    (role : EvidenceRole) : (updatedRecord now record evidence role).status = record.status := by
  cases role <;> rfl

structure ModelValidation where
  validationId : String
  validatorPrincipal : String
  validationEvidence : List ArtifactProvenance
  conceptualSoundness : AutomatedCheck
  implementationCorrectness : AutomatedCheck
  sensitivity : AutomatedCheck
  deriving DecidableEq

def challengeKinds : List String :=
  ["conceptual_soundness", "data_appropriateness", "implementation_correctness",
    "benchmark_challenger", "sensitivity", "outcome_analysis", "limitations_misuse"]

structure EffectiveChallenge where
  challengeId : String
  validationId : String
  challengerModelId : Option String
  challengeArtifact : ArtifactProvenance
  validatorPrincipal : String
  checks : List AutomatedCheck
  covers : ∀ kind ∈ challengeKinds, kind ∈ checks.map AutomatedCheck.checkKind
  passing : ∀ check ∈ checks, check.result = .pass

def assessModelAdmission (record : ModelData) (validation : Option ModelValidation) : List String :=
  (if record.status = .retired then ["retired models cannot be admitted"] else []) ++
  (if record.status ∈ [.suspended, .watch] then
    ["model status " ++ record.status.value ++ " blocks admission"] else []) ++
  if record.materiality.matters then
    match validation with
    | none => ["material model requires independent validation"]
    | some validation =>
      if validation.validatorPrincipal ∈ record.developerPrincipals then
        ["developer cannot be sole independent validator"]
      else if ∃ hash ∈ hashes validation.validationEvidence,
          hash ∈ hashes record.developmentEvidence ++ hashes record.recalibrationConsumedEvidence then
        ["development or recalibration-consumed evidence cannot validate the model"]
      else []
  else []

/-- The statuses that block an admission. -/
def ModelStatus.barred (status : ModelStatus) : Prop := status ∈ [.retired, .suspended, .watch]

instance (status : ModelStatus) : Decidable status.barred := inferInstanceAs (Decidable (_ ∈ _))

theorem admissible_unbarred (admissible : assessModelAdmission record validation = []) :
    ¬record.status.barred := by
  intro barred
  simp only [assessModelAdmission, List.append_eq_nil_iff] at admissible
  obtain ⟨⟨active, standing⟩, -⟩ := admissible
  have named : record.status = .retired ∨ record.status ∈ [.suspended, .watch] :=
    List.mem_cons.mp barred
  rcases named with retired | blocked
  · rw [if_pos retired] at active
    cases active
  · rw [if_pos blocked] at standing
    cases standing

inductive Measure where
  | finite (value : ℚ)
  | infinite (positive : Bool)
  | notANumber

/-- `<` on floating-point values. -/
def Measure.less : Measure → Measure → Bool
  | .notANumber, _ | _, .notANumber => false
  | .finite first, .finite second => first < second
  | .infinite first, .infinite second => !first && second
  | .infinite first, .finite _ => !first
  | .finite _, .infinite second => second

inductive Direction where
  | above | below

structure DriftObservation where
  observationId : String
  driftKind : String
  measuredValue : Measure
  threshold : Measure
  direction : Direction
  measurementArtifact : ArtifactProvenance

def DriftObservation.breached (observation : DriftObservation) : Bool :=
  match observation.direction with
  | .above => observation.threshold.less observation.measuredValue
  | .below => observation.measuredValue.less observation.threshold

structure ModelUseException where
  exceptionId : String
  expiresAt : Time
  approvalArtifact : ArtifactProvenance

end Liki.ModelRisk
