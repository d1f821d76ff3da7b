import Liki.Data.Instruments
import Liki.Library.CallSystem
import Liki.Store

/-! The durable history of instrument specifications. Raw payloads and specifications are stored as
artifacts and every specification gets a row, whatever rows its instrument has already. So a time that
could be resolved becomes unknown as soon as a call persists a version that overlaps, and the history
agrees with a master exactly in the runs in which no accepted call does. -/
namespace Liki.Data.Specifications
open Checks CallSystem List Option

/-- A source response and its provenance. -/
structure RawPayload where
  contentHash : String
  provider : String
  uri : String
  retrievedAt : Time
  contentType : String
  providerRevisionId : Option String
  /-- A `dict`, by its canonical text. -/
  transportMetadata : String
  payloadBytes : List UInt8
  deriving DecidableEq

inductive DataContent where
  | rawPayload (payload : RawPayload)
  | specification (specification : InstrumentSpec)
  deriving DecidableEq

structure SpecificationState where
  instrumentId : String
  effectiveFrom : Time
  deriving DecidableEq

abbrev DataStore := Store SpecificationState Unit String DataContent

/-- A row of `data_raw_payloads`; its id is its position. -/
structure RawPayloadRow where
  artifactId : ℕ
  contentHash : String
  provider : String
  sourceUri : String
  retrievedAt : Time
  providerRevisionId : Option String
  transportMetadata : String

/-- A row of `instrument_specifications`. -/
structure SpecificationRow where
  artifactId : ℕ
  instrumentId : String
  venue : String
  effectiveFrom : Time
  effectiveTo : Option Time
  sourceRawPayloadId : ℕ
  historicalApproximation : Option String

structure DataState where
  store : DataStore
  rawPayloads : List RawPayloadRow
  specifications : List SpecificationRow

def DataState.empty : DataState := ⟨.empty, [], []⟩

inductive DataError where
  | service (error : ServiceError)
  /-- `DataQualityError`. -/
  | quality (message : String)
  deriving DecidableEq

section Service

-- the digest of the bytes of a payload
variable (digest : List UInt8 → String)

/-- The rows of one response: `artifact_id=%s AND provider=%s AND source_uri=%s AND retrieved_at=%s`. -/
def RawPayloadRow.Of (payload : RawPayload) (artifactId : ℕ) (row : RawPayloadRow) : Prop :=
  row.artifactId = artifactId ∧ row.provider = payload.provider ∧ row.sourceUri = payload.uri ∧
    row.retrievedAt = payload.retrievedAt

instance (payload : RawPayload) (artifactId : ℕ) (row : RawPayloadRow) :
    Decidable (RawPayloadRow.Of payload artifactId row) := inferInstanceAs (Decidable (_ ∧ _))

/-- `_persist_raw_payload`: the ids of the row and of the artifact. -/
def persistRawPayload (state : DataState) (actor : Identity) (payload : RawPayload)
    (policyVersion : String) : Except DataError ((ℕ × ℕ) × DataState) := do
  (actor.requires .data).mapError .service
  refuseIf (payload.payloadBytes = [])
    (.quality "raw payload bytes are required for durable source snapshots")
  refuseIf (digest payload.payloadBytes ≠ payload.contentHash)
    (.quality "raw payload content hash does not match supplied bytes")
  let (artifactId, store) ← (state.store.putArtifact actor (.rawPayload payload) "data/raw-payload-v1"
    .internal policyVersion).mapError .service
  match state.rawPayloads.findIdx? fun row => RawPayloadRow.Of payload artifactId row with
  | some existing => return ((existing, artifactId), { state with store })
  | none =>
    let row := ⟨artifactId, payload.contentHash, payload.provider, payload.uri, payload.retrievedAt,
      payload.providerRevisionId, payload.transportMetadata⟩
    return ((state.rawPayloads.length, artifactId),
      { state with store, rawPayloads := state.rawPayloads ++ [row] })

def artifactName (artifactId : ℕ) : String := "ART-" ++ toString artifactId

def specificationSchema : String := "data/instrument-specification-v1"

/-- The arguments of `persist_instrument_specification`. -/
structure SpecificationRequest where
  specification : InstrumentSpec
  sourcePayload : RawPayload
  operationKey : String
  taskId : String
  policyVersion : String

namespace SpecificationRequest

variable (request : SpecificationRequest)

def transition (actor : Identity) (artifactId rawArtifactId : ℕ) :
    TransitionRequest SpecificationState Unit where
  kind := "instrument_specification"
  aggregateId := artifactName artifactId
  expectedVersion := 0
  state := ⟨request.specification.instrumentId, request.specification.effectiveFrom⟩
  eventType := "INSTRUMENT_SPECIFICATION_PERSISTED"
  principalId := actor.principalId
  taskId := request.taskId
  policyVersion := request.policyVersion
  evidenceIds := []
  artifactIds := [artifactId, rawArtifactId]
  metadata := none

def row (artifactId rawPayloadId : ℕ) : SpecificationRow where
  artifactId := artifactId
  instrumentId := request.specification.instrumentId
  venue := request.specification.venue
  effectiveFrom := request.specification.effectiveFrom
  effectiveTo := request.specification.effectiveTo
  sourceRawPayloadId := rawPayloadId
  historicalApproximation := request.specification.historicalApproximation

end SpecificationRequest

/-- `INSERT INTO instrument_specifications ... ON CONFLICT(specification_artifact_id) DO NOTHING`. -/
def insertSpecification (rows : List SpecificationRow) (row : SpecificationRow) : List SpecificationRow :=
  if ∃ other ∈ rows, other.artifactId = row.artifactId then rows else rows ++ [row]

/-- `persist_instrument_specification`. -/
def persistInstrumentSpecification (state : DataState) (actor : Identity)
    (request : SpecificationRequest) : Except DataError (ℕ × DataState) := do
  refuseIf (request.specification.rawPayloadHash ≠ request.sourcePayload.contentHash)
    (.quality "instrument specification must point to its supplied raw payload")
  refuseIf (request.specification.effectiveFrom < request.sourcePayload.retrievedAt ∧
      request.specification.historicalApproximation.getD "" = "")
    (.quality "current metadata cannot be assigned to historical effective dates")
  let ((rawPayloadId, rawArtifactId), state) ←
    persistRawPayload digest state actor request.sourcePayload request.policyVersion
  let (artifactId, store) ← (state.store.putArtifact actor (.specification request.specification)
    specificationSchema .internal request.policyVersion).mapError .service
  refuseIf (request.operationKey = "") (.service (.domain "INVALID_TRANSITION"))
  let store ← (store.transition actor .data request.operationKey
    (request.transition actor artifactId rawArtifactId) (some "data.instrument.persisted")).mapError .service
  return (artifactId, { state with
    store
    specifications := insertSpecification state.specifications (request.row artifactId rawPayloadId) })

def handle : Handler DataState (Identity × SpecificationRequest) DataError ℕ
  | state, (actor, request) => persistInstrumentSpecification digest state actor request

end Service

/-- `HistoricalSpecificationResolution`. -/
structure HistoricalSpecificationResolution where
  state : String
  specification : Option InstrumentSpec
  reason : Option String
  deriving DecidableEq

def resolvedUnknown : HistoricalSpecificationResolution :=
  ⟨"UNKNOWN", none, some "no unambiguous effective-dated specification"⟩

def resolvedValue (specification : InstrumentSpec) : HistoricalSpecificationResolution :=
  ⟨"VALUE", some specification, none⟩

/-- `s.effective_from<=%s AND (s.effective_to IS NULL OR s.effective_to>%s)`. -/
def SpecificationRow.EffectiveAt (row : SpecificationRow) (instant : Time) : Prop :=
  row.effectiveFrom ≤ instant ∧ ∀ last ∈ row.effectiveTo, instant < last

instance (row : SpecificationRow) (instant : Time) : Decidable (row.EffectiveAt instant) :=
  inferInstanceAs (Decidable (_ ∧ _))

def DataState.contentOf (state : DataState) (row : SpecificationRow) : Option DataContent :=
  (state.store.artifacts[row.artifactId]?).map Artifact.content

/-- `historical_specification`. -/
def historicalSpecification (state : DataState) (actor : Identity) (instrumentId : String)
    (instant : Time) : Except ServiceError HistoricalSpecificationResolution := do
  actor.requires .read
  let rows := state.specifications.filter fun row =>
    row.instrumentId = instrumentId ∧ row.EffectiveAt instant
  match rows.filterMap state.contentOf with
  | [.specification specification] => return resolvedValue specification
  -- what is no specification fails its validation
  | [_] => .error (.value "InstrumentSpec")
  | _ => return resolvedUnknown

namespace DataState

variable (state : DataState)

def specificationOf (row : SpecificationRow) : Option InstrumentSpec :=
  match state.contentOf row with
  | some (.specification specification) => some specification
  | _ => none

def persisted : List InstrumentSpec := state.specifications.filterMap state.specificationOf

def storedAs (actor : Identity) (specification : InstrumentSpec) : Option ℕ :=
  state.store.artifacts.findIdx? fun artifact => artifact.producerId = actor.principalId ∧
    artifact.content = .specification specification ∧ artifact.schemaName = specificationSchema

def Has (actor : Identity) (specification : InstrumentSpec) : Prop :=
  ∃ artifactId ∈ state.storedAs actor specification, ∃ row ∈ state.specifications,
    row.artifactId = artifactId

def Overlapped (actor : Identity) (specification : InstrumentSpec) : Prop :=
  ¬state.Has actor specification ∧ ∃ other ∈ state.persisted, other.Overlaps specification

end DataState

def Sound (state : DataState) : Prop :=
  ∀ row ∈ state.specifications, ∃ specification, state.contentOf row = some (.specification specification) ∧
    row.instrumentId = specification.instrumentId ∧ row.effectiveFrom = specification.effectiveFrom ∧
    row.effectiveTo = specification.effectiveTo

/-- What an accepted call leaves: the specification is persisted, now or before. -/
structure Persisted (state : DataState) (actor : Identity) (request : SpecificationRequest)
    (after : DataState) : Prop where
  artifacts : state.store.artifacts <+: after.store.artifacts
  rows : state.Has actor request.specification ∧ after.specifications = state.specifications ∨
    ¬state.Has actor request.specification ∧ ∃ artifactId rawPayloadId,
      after.specifications = state.specifications ++ [request.row artifactId rawPayloadId] ∧
      (after.store.artifacts[artifactId]?).map Artifact.content =
        some (.specification request.specification)

section Steps

variable {digest : List UInt8 → String} {state after : DataState} {actor : Identity}
  {request : SpecificationRequest} {specification : InstrumentSpec} {artifactId : ℕ}
  {instant : Time} {instrumentId : String} {content : DataContent} {policyVersion : String}
  {master : SymbolMaster}

theorem putArtifact_stored {store stored : DataStore}
    (ok : store.putArtifact actor content schemaName classification policyVersion = .ok (artifactId, stored)) :
    store.artifacts <+: stored.artifacts ∧
      (stored.artifacts[artifactId]?).map Artifact.content = some content ∧
      artifactId = (store.artifacts.findIdx? fun artifact => artifact.producerId = actor.principalId ∧
        artifact.content = content ∧ artifact.schemaName = schemaName).getD store.artifacts.length ∧
      ∀ artifact ∈ stored.artifacts, artifact ∈ store.artifacts ∨ artifact.content = content := by
  rcases Store.putArtifact_cases ok with ⟨rfl, found⟩ | ⟨rfl, absent, rfl⟩
  · obtain ⟨bound, same, -⟩ := findIdx?_eq_some_iff_getElem.mp found
    refine ⟨prefix_refl _, ?_, ?_, fun artifact member => .inl member⟩
    · rw [getElem?_eq_getElem bound]
      simp only [decide_eq_true_eq] at same
      simp [same.2.1]
    · rw [found]
      rfl
  · refine ⟨prefix_append _ _, by simp, ?_, fun artifact member => ?_⟩
    · rw [absent]
      rfl
    · rcases KeyedRows.mem_added member with older | newest
      · exact .inl older
      · exact .inr (by rw [newest])

theorem persistRawPayload_ok {payload : RawPayload}
    (ok : persistRawPayload digest state actor payload policyVersion = .ok ((rowId, artifactId), after)) :
    after.specifications = state.specifications ∧ ∃ more,
      after.store.artifacts = state.store.artifacts ++ more ∧
        ∀ artifact ∈ more, ∃ payload, artifact.content = .rawPayload payload := by
  simp only [persistRawPayload, bind_ok, guard_ok, mapError_ok] at ok
  obtain ⟨-, -, -, -, ⟨_, store⟩, put, ok⟩ := ok
  have kept : after.specifications = state.specifications ∧ after.store = store := by
    split at ok
    · simp only [pair_ok] at ok
      obtain ⟨-, rfl⟩ := ok
      exact ⟨rfl, rfl⟩
    · simp only [pair_ok] at ok
      obtain ⟨-, rfl⟩ := ok
      exact ⟨rfl, rfl⟩
  refine ⟨kept.1, ?_⟩
  rw [kept.2]
  rcases Store.putArtifact_cases put with ⟨rfl, -⟩ | ⟨-, -, rfl⟩
  · exact ⟨[], by rw [append_nil], by simp⟩
  · exact ⟨[_], rfl, fun artifact member => ⟨payload, by rw [mem_singleton.mp member]⟩⟩

theorem storedAs_append (raw : ∀ artifact ∈ more, ∃ payload, artifact.content = .rawPayload payload) :
    ((state.store.artifacts ++ more).findIdx? fun artifact => artifact.producerId = actor.principalId ∧
      artifact.content = .specification specification ∧ artifact.schemaName = specificationSchema) =
      state.storedAs actor specification := by
  have none : (more.findIdx? fun artifact => artifact.producerId = actor.principalId ∧
      artifact.content = .specification specification ∧ artifact.schemaName = specificationSchema) = none := by
    rw [findIdx?_eq_none_iff]
    intro artifact member
    obtain ⟨_, content⟩ := raw artifact member
    simp [content]
  rw [findIdx?_append, none, map_none, or_none]
  rfl

theorem Sound.bounded (sound : Sound state) {row : SpecificationRow} (member : row ∈ state.specifications) :
    row.artifactId < state.store.artifacts.length := by
  obtain ⟨_, content, -⟩ := sound row member
  obtain ⟨_, held, -⟩ := map_eq_some_iff.mp content
  exact (List.getElem?_eq_some_iff.mp held).1

theorem persist_ok (sound : Sound state)
    (ok : persistInstrumentSpecification digest state actor request = .ok (artifactId, after)) :
    Persisted state actor request after := by
  simp only [persistInstrumentSpecification, bind_ok, guard_ok, mapError_ok, pair_ok] at ok
  obtain ⟨-, -, ⟨⟨rowId, _⟩, _⟩, persisted, ⟨stored, store⟩, put, -, final, written, -, rfl⟩ := ok
  obtain ⟨specifications, _, artifacts, new⟩ := persistRawPayload_ok persisted
  obtain ⟨grows, content, named, -⟩ := putArtifact_stored put
  have same : final.artifacts = store.artifacts := by
    have recorded := Store.transition_recorded written
    cases recorded with
    | replayed => rfl
    | appended => rfl
  dsimp only at grows content named
  rw [artifacts, storedAs_append new] at named
  refine ⟨?_, ?_⟩
  · rw [same]
    exact (artifacts ▸ prefix_append _ _).trans grows
  dsimp only
  rw [specifications, same]
  by_cases held : ∃ row ∈ state.specifications, row.artifactId = stored
  · left
    refine ⟨?_, if_pos held⟩
    obtain ⟨row, member, own⟩ := held
    cases found : state.storedAs actor request.specification with
    | none =>
      -- a new artifact has no row
      have bound := sound.bounded member
      rw [found, getD_none, length_append] at named
      omega
    | some existing =>
      rw [found, getD_some] at named
      exact ⟨existing, found, row, member, own.trans named⟩
  · right
    refine ⟨?_, stored, rowId, if_neg held, content⟩
    rintro ⟨_, found, row, member, own⟩
    rw [mem_def.mp found, getD_some] at named
    exact held ⟨row, member, own.trans named.symm⟩

theorem Persisted.contentOf (persisted : Persisted state actor request after)
    {row : SpecificationRow} (held : state.contentOf row = some content) :
    after.contentOf row = some content := by
  obtain ⟨_, whole⟩ := persisted.artifacts
  obtain ⟨_, found, rfl⟩ := map_eq_some_iff.mp held
  rw [DataState.contentOf, ← whole,
    List.getElem?_append_left (List.getElem?_eq_some_iff.mp found).1, found]
  rfl

theorem Persisted.sound (persisted : Persisted state actor request after) (sound : Sound state) :
    Sound after := by
  intro row member
  have kept (older : row ∈ state.specifications) : ∃ specification,
      after.contentOf row = some (.specification specification) ∧
        row.instrumentId = specification.instrumentId ∧ row.effectiveFrom = specification.effectiveFrom ∧
          row.effectiveTo = specification.effectiveTo := by
    obtain ⟨specification, content, columns⟩ := sound row older
    exact ⟨specification, persisted.contentOf content, columns⟩
  rcases persisted.rows with ⟨-, same⟩ | ⟨-, _, _, added, content⟩
  · exact kept (same ▸ member)
  · rw [added] at member
    rcases KeyedRows.mem_added member with older | newest
    · exact kept older
    · rw [newest]
      exact ⟨request.specification, content, rfl, rfl, rfl⟩

/-- The persisted specifications are those from before, and the new one if it was not among them. -/
theorem Persisted.persisted (persisted : Persisted state actor request after) (sound : Sound state) :
    state.Has actor request.specification ∧ after.persisted = state.persisted ∨
      ¬state.Has actor request.specification ∧
        after.persisted = state.persisted ++ [request.specification] := by
  have older : state.specifications.filterMap after.specificationOf = state.persisted := by
    refine filterMap_congr fun row member => ?_
    obtain ⟨_, content, -⟩ := sound row member
    rw [DataState.specificationOf, DataState.specificationOf, persisted.contentOf content, content]
  rcases persisted.rows with ⟨has, same⟩ | ⟨absent, artifactId, rowId, added, content⟩
  · exact .inl ⟨has, by rw [DataState.persisted, same, older]⟩
  · have newest : after.specificationOf (request.row artifactId rowId) = some request.specification := by
      have found : after.contentOf (request.row artifactId rowId) =
          some (.specification request.specification) := content
      rw [DataState.specificationOf, found]
    refine .inr ⟨absent, ?_⟩
    rw [DataState.persisted, added, filterMap_append, older]
    simp [newest]

def validAt (specifications : List InstrumentSpec) (instrumentId : String) (instant : Time) :
    List InstrumentSpec :=
  specifications.filter fun specification =>
    specification.instrumentId = instrumentId ∧ specification.EffectiveAt instant

theorem contents_eq (sound : Sound state) (instrumentId : String) (instant : Time) :
    (state.specifications.filter fun row => row.instrumentId = instrumentId ∧
        row.EffectiveAt instant).filterMap state.contentOf =
      (validAt state.persisted instrumentId instant).map DataContent.specification := by
  unfold validAt DataState.persisted
  have each := sound
  unfold Sound at each
  generalize state.specifications = rows at each
  induction rows with
  | nil => rfl
  | cons row _ ih =>
    obtain ⟨specification, content, named, starts, ends⟩ := each row mem_cons_self
    have rest := ih fun other member => each other (mem_cons_of_mem _ member)
    have found : state.specificationOf row = some specification := by
      rw [DataState.specificationOf, content]
    have columns : (row.instrumentId = instrumentId ∧ row.EffectiveAt instant) ↔
        specification.instrumentId = instrumentId ∧ specification.EffectiveAt instant := by
      rw [SpecificationRow.EffectiveAt, InstrumentSpec.EffectiveAt, named, starts, ends]
    rw [filterMap_cons, found, filter_cons, filter_cons]
    by_cases valid : specification.instrumentId = instrumentId ∧ specification.EffectiveAt instant
    · simp only [columns, valid, decide_true, if_true, filterMap_cons, content, map_cons, rest,
        and_self]
    · simp only [columns, valid, decide_false, Bool.false_eq_true, if_false, rest]

theorem historicalSpecification_eq (sound : Sound state) (reader : actor.requires .read = .ok ())
    (instrumentId : String) (instant : Time) :
    historicalSpecification state actor instrumentId instant =
      .ok (match validAt state.persisted instrumentId instant with
        | [specification] => resolvedValue specification
        | _ => resolvedUnknown) := by
  rw [historicalSpecification, reader, ok_bind]
  dsimp only
  rw [contents_eq sound]
  match validAt state.persisted instrumentId instant with
  | [] => rfl
  | [_] => rfl
  | _ :: _ :: _ => rfl

theorem historical_value_iff (sound : Sound state) (reader : actor.requires .read = .ok ()) :
    historicalSpecification state actor instrumentId instant = .ok (resolvedValue specification) ↔
      validAt state.persisted instrumentId instant = [specification] := by
  rw [historicalSpecification_eq sound reader]
  match validAt state.persisted instrumentId instant with
  | [] => simp [resolvedValue, resolvedUnknown]
  | [_] => simp [resolvedValue]
  | _ :: _ :: _ => simp [resolvedValue, resolvedUnknown]

theorem historical_unknown_iff (sound : Sound state) (reader : actor.requires .read = .ok ()) :
    historicalSpecification state actor instrumentId instant = .ok resolvedUnknown ↔
      ∀ specification, validAt state.persisted instrumentId instant ≠ [specification] := by
  rw [historicalSpecification_eq sound reader]
  match validAt state.persisted instrumentId instant with
  | [] => simp
  | [_] => simp [resolvedValue, resolvedUnknown]
  | _ :: _ :: _ => simp

theorem specificationAt_ok_iff :
    master.specificationAt instrumentId instant = .ok specification ↔
      validAt master.specifications instrumentId instant = [specification] := by
  rw [SymbolMaster.specificationAt, ← validAt]
  match validAt master.specifications instrumentId instant with
  | [] => simp
  | [_] => simp
  | _ :: _ :: _ => simp

theorem specificationAt_error_iff :
    (∃ error, master.specificationAt instrumentId instant = .error error) ↔
      ∀ specification, validAt master.specifications instrumentId instant ≠ [specification] := by
  rw [SymbolMaster.specificationAt, ← validAt]
  match validAt master.specifications instrumentId instant with
  | [] => simp
  | [_] => simp
  | _ :: _ :: _ => simp

def Agrees (state : DataState) : Prop :=
  ∃ master, SymbolMaster.build state.persisted = .ok master ∧
    ∀ reader : Identity, reader.requires .read = .ok () → ∀ instrumentId instant,
      (∀ specification, historicalSpecification state reader instrumentId instant =
          .ok (resolvedValue specification) ↔
        master.specificationAt instrumentId instant = .ok specification) ∧
      (historicalSpecification state reader instrumentId instant = .ok resolvedUnknown ↔
        ∃ error, master.specificationAt instrumentId instant = .error error)

theorem agrees_iff (sound : Sound state) : Agrees state ↔
    state.persisted.Pairwise fun first second => ¬first.Overlaps second := by
  rw [← nonOverlapping_iff]
  constructor
  · rintro ⟨master, built, -⟩
    exact build_ok.mp built ▸ master.nonOverlapping
  · intro accepted
    refine ⟨⟨state.persisted, accepted⟩, build_ok.mpr rfl, fun reader reads instrumentId instant => ?_⟩
    constructor
    · intro specification
      rw [historical_value_iff sound reads, specificationAt_ok_iff]
    · rw [historical_unknown_iff sound reads, specificationAt_error_iff]

theorem Persisted.apart_iff (persisted : Persisted state actor request after) (sound : Sound state)
    (apart : state.persisted.Pairwise fun first second => ¬first.Overlaps second) :
    (after.persisted.Pairwise fun first second => ¬first.Overlaps second) ↔
      ¬state.Overlapped actor request.specification := by
  rcases persisted.persisted sound with ⟨has, same⟩ | ⟨absent, added⟩
  · rw [same]
    exact ⟨fun _ overlapped => overlapped.1 has, fun _ => apart⟩
  · rw [added, pairwise_append]
    constructor
    · rintro ⟨-, -, across⟩ ⟨-, other, member, overlaps⟩
      exact across other member _ (mem_singleton_self _) overlaps
    · intro free
      refine ⟨apart, pairwise_singleton _ _, fun other member new newest overlaps => ?_⟩
      rw [mem_singleton.mp newest] at overlaps
      exact free ⟨absent, other, member, overlaps⟩

/-- A version that overlaps nothing takes no resolution away. -/
theorem Persisted.resolved (persisted : Persisted state actor request after) (sound : Sound state)
    (free : ¬state.Overlapped actor request.specification)
    (valid : validAt state.persisted instrumentId instant = [specification]) :
    validAt after.persisted instrumentId instant = [specification] := by
  rcases persisted.persisted sound with ⟨-, same⟩ | ⟨absent, added⟩
  · rw [same, valid]
  · have listed : specification ∈ validAt state.persisted instrumentId instant := by
      rw [valid]
      exact mem_singleton_self _
    obtain ⟨member, held⟩ := mem_filter.mp listed
    obtain ⟨named, holds⟩ := of_decide_eq_true held
    have beside : ¬(request.specification.instrumentId = instrumentId ∧
        request.specification.EffectiveAt instant) := by
      rintro ⟨own, also⟩
      exact free ⟨absent, specification, member, named.trans own.symm, instant, holds, also⟩
    rw [validAt] at valid ⊢
    rw [added, filter_append, valid, filter_cons, if_neg (by simpa using beside), filter_nil,
      append_nil]

end Steps

section Runs

variable (digest : List UInt8 → String)

def history (calls : List (Identity × SpecificationRequest)) : DataState :=
  run (handle digest) .empty calls

/-- No accepted call persists a version that overlaps. -/
def Disjoint (calls : List (Identity × SpecificationRequest)) : Prop :=
  Along (handle digest) (WhenAnswered (handle digest) fun state call =>
    ¬state.Overlapped call.1 call.2.specification) .empty calls

/-- What the history owes along a run: it agrees with a master, refuses what overlaps and never
forgets a resolution. -/
structure Faithful (calls : List (Identity × SpecificationRequest)) : Prop where
  agrees : ∀ earlier later, calls = earlier ++ later → Agrees (history digest earlier)
  refused : ∀ earlier call later, calls = earlier ++ call :: later →
    (history digest earlier).Overlapped call.1 call.2.specification →
      ∃ error, handle digest (history digest earlier) call = .error error
  resolved : ∀ earlier call later, calls = earlier ++ call :: later →
    ∀ reader : Identity, reader.requires .read = .ok () → ∀ instrumentId instant specification,
      historicalSpecification (history digest earlier) reader instrumentId instant =
          .ok (resolvedValue specification) →
        historicalSpecification (history digest (earlier ++ [call])) reader instrumentId instant ≠
          .ok resolvedUnknown

theorem sound_empty : Sound .empty := fun _ member => absurd member not_mem_nil

theorem history_sound (calls : List (Identity × SpecificationRequest)) : Sound (history digest calls) :=
  run_preserves Sound sound_empty (fun _ _ sound => next_of_answered Sound sound fun _ _ ok =>
    (persist_ok sound ok).sound sound) calls

variable {digest} {calls : List (Identity × SpecificationRequest)}

theorem Disjoint.apart (disjoint : Disjoint digest calls) :
    (history digest calls).persisted.Pairwise fun first second => ¬first.Overlaps second := by
  have both : Sound (history digest calls) ∧
      (history digest calls).persisted.Pairwise fun first second => ¬first.Overlaps second := by
    refine run_answered (fun state : DataState => Sound state ∧
      state.persisted.Pairwise fun first second => ¬first.Overlaps second) ⟨sound_empty, .nil⟩ ?_ disjoint
    rintro state call answer after ⟨sound, apart⟩ free ok
    have persisted := persist_ok sound ok
    exact ⟨persisted.sound sound, (persisted.apart_iff sound apart).mpr free⟩
  exact both.2

theorem Disjoint.cut (disjoint : Disjoint digest (earlier ++ later)) : Disjoint digest earlier :=
  (along_append.mp disjoint).1

end Runs

/-- Along every run the history is faithful to a master exactly when no accepted call persists a
version that overlaps a persisted version of its instrument. -/
theorem faithful_iff (digest : List UInt8 → String) (calls : List (Identity × SpecificationRequest)) :
    Faithful digest calls ↔ Disjoint digest calls := by
  constructor
  · intro faithful
    refine along_iff.mpr fun earlier call later cut answer after ok overlapped => ?_
    obtain ⟨_, refused⟩ := faithful.refused earlier call later cut overlapped
    exact absurd (ok.symm.trans refused) (by simp)
  · intro disjoint
    refine ⟨fun earlier later cut => ?_, fun earlier call later cut overlapped => ?_, ?_⟩
    · exact (agrees_iff (history_sound digest earlier)).mpr (cut ▸ disjoint).cut.apart
    · refine refused_of_not_ok fun result ok => ?_
      exact along_iff.mp disjoint earlier call later cut result.1 result.2 ok overlapped
    · intro earlier call later cut reader reads instrumentId instant specification resolved
      have sound := history_sound digest earlier
      have valid := (historical_value_iff sound reads).mp resolved
      have next : history digest (earlier ++ [call]) =
          next (handle digest) (history digest earlier) call := run_append _ _
      have kept : validAt (history digest (earlier ++ [call])).persisted instrumentId instant =
          [specification] := by
        rw [next]
        refine next_of_answered (fun state : DataState => validAt state.persisted instrumentId instant =
          [specification]) valid fun answer after ok => ?_
        exact (persist_ok sound ok).resolved sound
          (along_iff.mp disjoint earlier call later cut answer after ok) valid
      rw [Ne, historical_unknown_iff (history_sound digest _) reads]
      exact fun unresolved => unresolved specification kept

namespace Dated

theorem sizes_positive : (⟨1, 0⟩ : WrittenDecimal).Positive ∧ (⟨1, -2⟩ : WrittenDecimal).Positive ∧
    (⟨1, -3⟩ : WrittenDecimal).Positive ∧ ∀ notional ∈ (none : Option WrittenDecimal), notional.Positive := by
  decide

theorem open_ended (effectiveFrom : Time) : ∀ last ∈ (none : Option Time), effectiveFrom < last := by simp

def emptyDigest : String := "sha256:44136fa355b3678a1146ad16f7e8649e94fb4fc21fe77e8310c060f61caaff8a"

def version (effectiveFrom : Time) (status : String) : InstrumentSpec where
  instrumentId := "BTCUSDT"
  venue := "binance"
  venueSymbol := "BTCUSDT"
  baseAsset := "BTC"
  quoteAsset := "USDT"
  contractType := "SPOT"
  effectiveFrom := effectiveFrom
  effectiveTo := none
  expiryAt := none
  multiplier := ⟨1, 0⟩
  settlementAsset := none
  marginAsset := none
  tickSize := ⟨1, -2⟩
  lotSize := ⟨1, -3⟩
  minNotional := none
  status := status
  historicalApproximation := none
  rawPayloadHash := emptyDigest
  sized := sizes_positive
  proper := open_ended effectiveFrom

def payload : RawPayload :=
  ⟨emptyDigest, "binance", "/exchangeInfo", 0, "application/json", none, "", [123, 125]⟩

def collector : Identity := ⟨"data", .data⟩

def persist (effectiveFrom : Time) (status operationKey : String) : Identity × SpecificationRequest :=
  (collector, ⟨version effectiveFrom status, payload, operationKey, "task", "v1"⟩)

end Dated

open Dated in
/-- A second version without an end is accepted; afterwards no master accepts what is persisted, and the
time that resolved to the first version is unknown. -/
theorem overlap_forgets_resolution :
    historicalSpecification (history (fun _ => emptyDigest) [persist 0 "TRADING" "OP-1"]) collector
        "BTCUSDT" 20 = .ok (resolvedValue (version 0 "TRADING")) ∧
      (∃ artifactId, reply (handle fun _ => emptyDigest)
        (history (fun _ => emptyDigest) [persist 0 "TRADING" "OP-1"]) (persist 10 "HALTED" "OP-2") =
          .ok artifactId) ∧
      historicalSpecification (history (fun _ => emptyDigest)
        [persist 0 "TRADING" "OP-1", persist 10 "HALTED" "OP-2"]) collector "BTCUSDT" 20 =
          .ok resolvedUnknown ∧
      ¬Faithful (fun _ => emptyDigest) [persist 0 "TRADING" "OP-1", persist 10 "HALTED" "OP-2"] := by
  have before : historicalSpecification (history (fun _ => emptyDigest) [persist 0 "TRADING" "OP-1"])
      collector "BTCUSDT" 20 = .ok (resolvedValue (version 0 "TRADING")) := by decide +kernel
  have after : historicalSpecification (history (fun _ => emptyDigest)
      [persist 0 "TRADING" "OP-1", persist 10 "HALTED" "OP-2"]) collector "BTCUSDT" 20 =
        .ok resolvedUnknown := by decide +kernel
  refine ⟨before, ⟨2, by decide +kernel⟩, after, fun faithful => ?_⟩
  exact faithful.resolved [persist 0 "TRADING" "OP-1"] (persist 10 "HALTED" "OP-2") [] rfl collector rfl
    "BTCUSDT" 20 (version 0 "TRADING") before after

end Liki.Data.Specifications
